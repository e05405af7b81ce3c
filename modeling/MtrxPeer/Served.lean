import MtrxPeer.WebrtcManager

/-! Which requests of a data channel reach a backend. A message completes at most
one request; what is done with it depends on that request alone, so every fact
about served requests is read off here. -/
namespace MtrxPeer

open Function (update_of_ne)

variable {m : Manager} {s : ClusterState} {id : String} {channel : Channel} {answers : Answers}

/-! ## The request a message completes -/

/-- A request as its receiver recovers it. -/
inductive Arrived where
  | plaintext (reqId path : String) (body : Json)
  | encrypted (request : EncryptedRequest) (body : Json)

def Arrived.path : Arrived → String
  | .plaintext _ path _ => path
  | .encrypted request _ => request.path

def Arrived.body : Arrived → Json
  | .plaintext _ _ body => body
  | .encrypted _ body => body

/-- The request of an encrypted message, if it could be recovered. -/
def recoveredRequest (request : EncryptedRequest) : Except String Json → Option Arrived
  | .ok body => some (.encrypted request body)
  | .error _ => none

/-- The request that a message completes, once past the plaintext gate and
decryption. -/
def arrived (host : Host) (config : ClientConfig) (channel : Channel) (msg : StreamMessage) :
    Option Arrived :=
  match msg with
  | .proxyRequest reqId path body =>
    if channel.isProvider && host.e2eeEnabled then none else some (.plaintext reqId path body)
  | .proxyRequestEnd reqId =>
    if channel.isProvider && host.e2eeEnabled then none
    else (channel.pendingIncoming reqId).bind fun pending =>
      (assemblePlaintext pending).map (.plaintext reqId pending.path)
  | .encryptedProxyRequest reqId path roomId pk nonce ciphertext aadVersion auth =>
    if channel.isProvider then
      recoveredRequest ⟨reqId, path, roomId, pk, aadVersion, auth⟩
        (decryptInboundRequest host config roomId reqId path pk nonce ciphertext)
    else none
  | .encryptedProxyRequestEnd reqId =>
    if channel.isProvider then
      (channel.pendingEncryptedIncoming reqId).bind fun incoming =>
        recoveredRequest ⟨reqId, incoming.path, incoming.roomId, incoming.consumerEphemeralPk,
          incoming.aadVersion, incoming.auth⟩ (assembleBody host config reqId incoming)
    else none
  | _ => none

/-- What is done with a completed request. -/
def dispatched (m : Manager) (s : ClusterState) (channel : Channel) (answers : Answers) :
    Arrived → (String → Option String) × List ChannelEffect
  | .plaintext reqId path body => dispatchProxyRequest m.host s.proxy answers m.clusterId
      channel.peer channel.isProvider s.approvedProxyModels reqId path body
  | .encrypted request body => dispatchClusterEncryptedProxyBody m.host s.proxy answers m.clusterId
      channel.peer s.approvedProxyModels request body

/-- A handler has the outcome of a request when it sets the approvals and has the
effects that dispatching it has. -/
def HasOutcome (result : ClusterState × List ChannelEffect)
    (outcome : (String → Option String) × List ChannelEffect) : Prop :=
  result.1.approvedProxyModels = outcome.1 ∧ result.2 = outcome.2

/-- What is sent of an answer, or in place of one. -/
def ChannelEffect.isReply : ChannelEffect → Prop
  | .data (.proxyResponseChunk ..) | .data (.proxyResponseDone ..) | .data (.proxyResponseError ..)
  | .data .pong | .stream (.encryptedProxyResponse ..) | .stream (.encryptedProxyStreamChunk ..) => True
  | _ => False

/-- What a message hands to a local caller: a plaintext text or error, what an
encrypted answer of one of its requests opens to, or a stream's error. -/
inductive Handed (m : Manager) (s : ClusterState) (channel : Channel) :
    StreamMessage → ChannelEffect → Prop where
  | plaintextChunk {reqId text : String} (waits : s.pendingRequests reqId = true) :
      Handed m s channel (.proxyResponseChunk reqId text) (.deliver reqId (.ok text))
  | plaintextError {reqId error : String} :
      Handed m s channel (.proxyResponseError reqId error) (.deliver reqId (.error error))
  | response {reqId : String} {nonce ciphertext : Bytes} {version : Nat} {error : Option String}
      {stream : Option Bool} {state : EncryptedConsumerState}
      (kept : s.pendingEncryptedConsumer reqId = some state) :
      Handed m s channel (.encryptedProxyResponse reqId nonce ciphertext version error stream)
        (.deliver reqId (decryptProxyResponse m.host s.proxy.config reqId state.path state.roomId
          state.ephemeralSecret state.providerPk ⟨nonce, ciphertext⟩ error))
  | chunk {reqId part : String} {seq version : Nat} {nonce ciphertext : Bytes} {done : Bool}
      {stream : PendingEncryptedStream} {chunk : EncryptedStreamChunkData}
      (found : channel.pendingEncryptedStreams reqId = some stream)
      (among : chunk = ⟨seq, nonce, ciphertext, done⟩ ∨ chunk ∈ stream.reorder)
      (opened : decryptProxyChunk m.host s.proxy.config reqId stream.path chunk.seq stream.roomId
        stream.consumerEphemeralSecret stream.providerPk chunk.nonce chunk.ciphertext = .ok part) :
      Handed m s channel (.encryptedProxyStreamChunk reqId seq nonce ciphertext version done)
        (.deliver reqId (.ok part))
  | chunkError {reqId error : String} {seq version : Nat} {nonce ciphertext : Bytes} {done : Bool} :
      Handed m s channel (.encryptedProxyStreamChunk reqId seq nonce ciphertext version done)
        (.deliver reqId (.error error))

/-- A handler that leaves the approvals alone, and only sends replies and hands
over what its message brings. -/
def Idle (m : Manager) (s : ClusterState) (channel : Channel) (msg : StreamMessage)
    (result : ClusterState × List ChannelEffect) : Prop :=
  result.1.approvedProxyModels = s.approvedProxyModels ∧
    ∀ effect ∈ result.2, effect.isReply ∨ Handed m s channel msg effect

private theorem sendStreamMessage_isReply {msg : StreamMessage}
    (reply : (ChannelEffect.stream msg).isReply) :
    ∀ effect ∈ sendStreamMessage answers msg, effect.isReply := by
  intro effect member
  unfold sendStreamMessage at member
  split at member
  · obtain rfl := List.mem_singleton.mp member
    exact reply
  · simp at member

theorem sendEncryptedStreamError_isReply (request : EncryptedRequest) (error : String) :
    ∀ effect ∈ sendEncryptedStreamError answers request error, effect.isReply :=
  sendStreamMessage_isReply trivial

private theorem sendDcMessage_isReply (msg : DataChannelMessage)
    (reply : (ChannelEffect.data msg).isReply) :
    ∀ effect ∈ sendDcMessage answers msg, effect.isReply := by
  intro effect member
  unfold sendDcMessage at member
  split at member
  · obtain rfl := List.mem_singleton.mp member
    exact reply
  · simp at member

private theorem deliverTo_handed {msg : StreamMessage} {reqId : String}
    {item : Except String String}
    (handed : s.pendingRequests reqId = true → Handed m s channel msg (.deliver reqId item)) :
    ∀ effect ∈ deliverTo s reqId item, effect.isReply ∨ Handed m s channel msg effect := by
  intro effect member
  unfold deliverTo at member
  split at member
  · rename_i waits
    obtain rfl := List.mem_singleton.mp member
    exact .inr (handed waits)
  · simp at member

/-- The texts an outcome hands over. -/
def EncryptedStreamChunkOutcome.parts : EncryptedStreamChunkOutcome → List String
  | .waiting => []
  | .progress parts => parts
  | .finished parts => parts

/-- Each text that draining hands over is what one of the stream's chunks opens to. -/
theorem drainEncryptedStream_parts {host : Host} {config : ClientConfig} {reqId : String}
    {fuel : Nat} {stream : PendingEncryptedStream} {parts : List String}
    {outcome : EncryptedStreamChunkOutcome}
    (ran : (drainEncryptedStream host config reqId fuel stream parts).1 = .ok outcome) :
    ∀ part ∈ outcome.parts, part ∈ parts ∨ ∃ chunk ∈ stream.reorder,
      decryptProxyChunk host config reqId stream.path chunk.seq stream.roomId
        stream.consumerEphemeralSecret stream.providerPk chunk.nonce chunk.ciphertext = .ok part := by
  have stopped : ∀ outcome : EncryptedStreamChunkOutcome,
      (Except.ok (if parts = [] then EncryptedStreamChunkOutcome.waiting else .progress parts) :
        Except String EncryptedStreamChunkOutcome) = .ok outcome →
      ∀ part ∈ outcome.parts, part ∈ parts := by
    intro outcome same part member
    obtain rfl := Except.ok.inj same
    split at member
    · simp [EncryptedStreamChunkOutcome.parts] at member
    · exact member
  induction fuel generalizing stream parts with
  | zero => exact fun part member => .inl (stopped outcome ran part member)
  | succ fuel ih =>
    unfold drainEncryptedStream at ran
    split at ran
    · exact fun part member => .inl (stopped outcome ran part member)
    · rename_i chunk found
      have among := List.mem_of_find?_eq_some found
      dsimp only at ran
      split at ran
      · cases ran
      · rename_i text opened
        split at ran
        · obtain rfl := Except.ok.inj ran
          intro part member
          rcases List.mem_append.mp member with old | new
          · exact .inl old
          · obtain rfl := List.mem_singleton.mp new
            exact .inr ⟨chunk, among, opened⟩
        · intro part member
          have later := ih ran (by
            intro outcome same part member
            obtain rfl := Except.ok.inj same
            split at member
            · simp [EncryptedStreamChunkOutcome.parts] at member
            · exact member) part member
          rcases later with old | ⟨other, left, openedLater⟩
          · rcases List.mem_append.mp old with old | new
            · exact .inl old
            · obtain rfl := List.mem_singleton.mp new
              exact .inr ⟨chunk, among, opened⟩
          · exact .inr ⟨other, (List.mem_filter.mp left).1, openedLater⟩

private theorem handleEncryptedStreamChunk_handed {reqId : String} {seq version : Nat}
    {nonce ciphertext : Bytes} {done : Bool} {outcome : EncryptedStreamChunkOutcome}
    (handled : (handleEncryptedStreamChunk m.host s.proxy.config reqId
      (channel.pendingEncryptedStreams reqId) ⟨seq, nonce, ciphertext, done⟩).1 = .ok outcome) :
    ∀ effect ∈ outcome.parts.flatMap (fun part => deliverTo s reqId (.ok part)),
      effect.isReply ∨ Handed m s channel
        (.encryptedProxyStreamChunk reqId seq nonce ciphertext version done) effect := by
  intro effect member
  obtain ⟨part, among, member⟩ := List.mem_flatMap.mp member
  unfold handleEncryptedStreamChunk at handled
  split at handled
  · cases handled
  · rename_i stream found
    rcases drainEncryptedStream_parts handled part among with none | ⟨chunk, among, opened⟩
    · simp at none
    · refine deliverTo_handed (fun _ => .chunk found ?_ opened) effect member
      rcases List.mem_cons.mp among with same | older
      · exact .inl same
      · exact .inr (List.mem_filter.mp older).1

private theorem onEncryptedAnswer_idle (msg : StreamMessage) :
    Idle m s channel msg (onEncryptedAnswer m s id channel msg) := by
  cases msg with
  | encryptedProxyResponse reqId =>
    simp only [onEncryptedAnswer]
    split
    · split <;> exact ⟨rfl, by simp⟩
    · split
      · exact ⟨rfl, by simp⟩
      · rename_i state kept
        exact ⟨rfl, deliverTo_handed fun _ => .response kept⟩
  | encryptedProxyStreamChunk reqId =>
    simp only [onEncryptedAnswer]
    split
    · exact ⟨rfl, by simp⟩
    · rename_i parts handled
      exact ⟨rfl, handleEncryptedStreamChunk_handed handled⟩
    · rename_i parts handled
      exact ⟨rfl, handleEncryptedStreamChunk_handed handled⟩
    · exact ⟨rfl, deliverTo_handed fun _ => .chunkError⟩
  | _ => exact ⟨rfl, by simp [onEncryptedAnswer]⟩

/-- What a handler comes to, given the request its message completes. -/
def Outcome (m : Manager) (s : ClusterState) (channel : Channel) (msg : StreamMessage)
    (answers : Answers) (result : ClusterState × List ChannelEffect) : Option Arrived → Prop
  | some request => HasOutcome result (dispatched m s channel answers request)
  | none => Idle m s channel msg result

private theorem dispatchRecovered_outcome (msg : StreamMessage) (request : EncryptedRequest)
    {recovered : Except String Json} {result : ClusterState × List ChannelEffect}
    (ran : HasOutcome result (dispatchRecovered m.host s.proxy answers m.clusterId channel.peer
      s.approvedProxyModels request recovered)) :
    Outcome m s channel msg answers result (recoveredRequest request recovered) := by
  cases recovered with
  | error error =>
    refine ⟨ran.1, ?_⟩
    rw [ran.2]
    exact fun effect member => .inl (sendEncryptedStreamError_isReply _ _ effect member)
  | ok body => exact ran

private theorem onEncryptedRequest_outcome (msg : StreamMessage) (provider : channel.isProvider = true)
    (kind : msg.isEncryptedRequest = true) :
    Outcome m s channel msg answers (onEncryptedRequest m s id channel msg answers)
      (arrived m.host s.proxy.config channel msg) := by
  cases msg with
  | encryptedProxyRequest reqId path roomId pk nonce ciphertext aadVersion auth =>
    simp only [arrived, provider, ↓reduceIte, onEncryptedRequest]
    exact dispatchRecovered_outcome _ _ ⟨rfl, rfl⟩
  | encryptedProxyRequestStart => exact ⟨rfl, by simp [onEncryptedRequest]⟩
  | encryptedProxyRequestChunk reqId =>
    simp only [arrived, onEncryptedRequest]
    split <;> exact ⟨rfl, by simp⟩
  | encryptedProxyRequestEnd reqId =>
    simp only [arrived, provider, ↓reduceIte, onEncryptedRequest]
    cases channel.pendingEncryptedIncoming reqId with
    | none => exact ⟨rfl, by simp⟩
    | some incoming => exact dispatchRecovered_outcome _ _ ⟨rfl, rfl⟩
  | _ => simp [StreamMessage.isEncryptedRequest] at kind

private theorem onDataChannelMessage_outcome (msg : DataChannelMessage)
    (open_ : (channel.isProvider && m.host.e2eeEnabled) = false) :
    Outcome m s channel msg.asStream answers (onDataChannelMessage m s id channel msg answers)
      (arrived m.host s.proxy.config channel msg.asStream) := by
  cases msg with
  | proxyRequest reqId path body =>
    simp only [DataChannelMessage.asStream, arrived, open_, Bool.false_eq_true, ↓reduceIte]
    exact ⟨rfl, rfl⟩
  | proxyRequestChunk reqId =>
    simp only [DataChannelMessage.asStream, arrived, onDataChannelMessage]
    split <;> exact ⟨rfl, by simp⟩
  | proxyRequestEnd reqId =>
    simp only [DataChannelMessage.asStream, arrived, open_, Bool.false_eq_true, ↓reduceIte,
      onDataChannelMessage]
    cases channel.pendingIncoming reqId with
    | none => exact ⟨rfl, by simp⟩
    | some pending =>
      simp only [Option.bind_some]
      cases assemblePlaintext pending with
      | none => exact ⟨rfl, by simp⟩
      | some body => exact ⟨rfl, rfl⟩
  | proxyResponseError => exact ⟨rfl, deliverTo_handed fun _ => .plaintextError⟩
  | proxyResponseChunk => exact ⟨rfl, deliverTo_handed .plaintextChunk⟩
  | ping =>
    refine ⟨rfl, ?_⟩
    simp only [onDataChannelMessage]
    split <;> simp [ChannelEffect.isReply]
  | _ => exact ⟨rfl, by simp [onDataChannelMessage]⟩

private theorem gateDataChannelMessage_outcome (msg : DataChannelMessage) :
    Outcome m s channel msg.asStream answers (gateDataChannelMessage m s id channel msg answers)
      (arrived m.host s.proxy.config channel msg.asStream) := by
  unfold gateDataChannelMessage
  cases gated : channel.isProvider && m.host.e2eeEnabled with
  | false =>
    simp only [Bool.false_eq_true, ↓reduceIte]
    split <;> exact onDataChannelMessage_outcome msg gated
  | true =>
    have rejected : ∀ reqId error, ∀ effect ∈ sendDcMessage answers (.proxyResponseError reqId error),
        effect.isReply ∨ Handed m s channel msg.asStream effect := fun reqId error effect member =>
      .inl (sendDcMessage_isReply (.proxyResponseError reqId error) trivial effect member)
    cases msg with
    | proxyRequest =>
      simpa [arrived, DataChannelMessage.asStream, gated] using ⟨rfl, rejected _ _⟩
    | proxyRequestEnd =>
      simpa [arrived, DataChannelMessage.asStream, gated] using ⟨rfl, rejected _ _⟩
    | proxyRequestStart => exact ⟨rfl, rejected _ _⟩
    | proxyRequestChunk => exact ⟨rfl, rejected _ _⟩
    | proxyResponseError => exact ⟨rfl, deliverTo_handed fun _ => .plaintextError⟩
    | proxyResponseChunk => exact ⟨rfl, deliverTo_handed .plaintextChunk⟩
    | ping =>
      refine ⟨rfl, ?_⟩
      simp only [DataChannelMessage.plaintextRequestId, onDataChannelMessage]
      split <;> simp [ChannelEffect.isReply]
    | _ => exact ⟨rfl, by simp [DataChannelMessage.plaintextRequestId, onDataChannelMessage]⟩

theorem asStream_of_asDataChannel {msg : StreamMessage} {dc : DataChannelMessage}
    (read : msg.asDataChannel = some dc) : dc.asStream = msg := by
  cases msg <;> simp only [StreamMessage.asDataChannel, Option.some.injEq, reduceCtorEq] at read <;>
    subst read <;> rfl

/-- Handling a message dispatches the request it completes, or does nothing that
touches the backend or the approvals. -/
theorem onMessage_outcome (msg : StreamMessage) :
    Outcome m s channel msg answers (onMessage m s id channel msg answers)
      (arrived m.host s.proxy.config channel msg) := by
  unfold onMessage
  split
  · rename_i kind
    rw [Bool.and_eq_true] at kind
    exact onEncryptedRequest_outcome msg kind.2 kind.1
  · rename_i notRequest
    split
    · rename_i kind
      have none : arrived m.host s.proxy.config channel msg = none := by
        cases msg <;> simp_all [StreamMessage.isEncryptedAnswer, arrived]
      rw [none]
      exact onEncryptedAnswer_idle msg
    · split
      · rename_i dc read
        rw [← asStream_of_asDataChannel read]
        exact gateDataChannelMessage_outcome dc
      · rename_i unread
        have none : arrived m.host s.proxy.config channel msg = none := by
          cases msg <;> simp_all [StreamMessage.asDataChannel, arrived,
            StreamMessage.isEncryptedRequest]
        rw [none]
        exact ⟨rfl, by simp⟩

/-- The encrypted request that a message completes on a channel this peer serves
on, and what recovering its body comes to. -/
def encryptedArrival (host : Host) (config : ClientConfig) (channel : Channel)
    (msg : StreamMessage) : Option (EncryptedRequest × Except String Json) :=
  match msg with
  | .encryptedProxyRequest reqId path roomId pk nonce ciphertext aadVersion auth =>
    if channel.isProvider then some (⟨reqId, path, roomId, pk, aadVersion, auth⟩,
      decryptInboundRequest host config roomId reqId path pk nonce ciphertext)
    else none
  | .encryptedProxyRequestEnd reqId =>
    if channel.isProvider then
      (channel.pendingEncryptedIncoming reqId).map fun incoming =>
        (⟨reqId, incoming.path, incoming.roomId, incoming.consumerEphemeralPk,
          incoming.aadVersion, incoming.auth⟩, assembleBody host config reqId incoming)
    else none
  | _ => none

/-- A completed encrypted request is dispatched with what was recovered of it. -/
theorem onMessage_encrypted {msg : StreamMessage} {request : EncryptedRequest}
    {recovered : Except String Json}
    (complete : encryptedArrival m.host s.proxy.config channel msg = some (request, recovered)) :
    (onMessage m s id channel msg answers).2 = (dispatchRecovered m.host s.proxy answers m.clusterId
      channel.peer s.approvedProxyModels request recovered).2 := by
  cases msg with
  | encryptedProxyRequest reqId path roomId pk nonce ciphertext aadVersion auth =>
    simp only [encryptedArrival] at complete
    split at complete
    · rename_i provider
      obtain ⟨rfl, rfl⟩ := Prod.mk.inj (Option.some.inj complete)
      simp [onMessage, StreamMessage.isEncryptedRequest, provider, onEncryptedRequest, dispatchOn]
    · cases complete
  | encryptedProxyRequestEnd reqId =>
    simp only [encryptedArrival] at complete
    split at complete
    · rename_i provider
      obtain ⟨incoming, found, same⟩ := Option.map_eq_some_iff.mp complete
      obtain ⟨rfl, rfl⟩ := Prod.mk.inj same
      simp [onMessage, StreamMessage.isEncryptedRequest, provider, onEncryptedRequest, dispatchOn,
        found, ClusterState.setChannel]
    · cases complete
  | _ => cases complete

/-! ## The calls a completed request leads to -/

/-- The call that serves a request. -/
def Arrived.call (host : Host) (config : ClientConfig) (request : Arrived) : BackendCall :=
  ⟨request.path, normalizeRemoteBody host config request.body, requestedModel request.body⟩

/-- Whether a request gets past the checks that come before the admission: the
proof of an encrypted request passes and it is served in this process. -/
def Arrived.passesProof (host : Host) (config : ClientConfig) (now : Nat) : Arrived → Bool
  | .plaintext .. => true
  | .encrypted request _ =>
    (verifyEncryptedRequestAuth host config now request.auth request.roomId).isNone &&
      !host.inferenceSidecarEnabled

/-- The approval a request is compared with. -/
def Arrived.approval (s : ClusterState) (channel : Channel) : Arrived → Option String
  | .plaintext .. => if channel.isProvider then s.approvedProxyModels channel.peer else none
  | .encrypted .. => s.approvedProxyModels channel.peer

/-- Why an otherwise sound request is refused, if it is. -/
def Arrived.refusal (m : Manager) (s : ClusterState) (channel : Channel) (request : Arrived) :
    Option String :=
  clusterRefusal s.proxy m.clusterId channel.peer (requestedModel request.body)
    (request.approval s channel)

/-- What the sidecar's answer comes to, which is an error: it is given no
ciphertext. -/
def sidecarReply (host : Host) (proxy : ProxyState) (answers : Answers)
    (request : EncryptedRequest) : StreamMessage :=
  match (forwardRequest host proxy.config proxy.registry answers request.reqId request.path
    request.roomId request.consumerEphemeralPk [] [] request.aadVersion request.auth).2 with
  | .ok response => response
  | .error error =>
    encryptedErrorResponse request.reqId request.aadVersion ("Vault IPC error: " ++ error)

/-- Without a ciphertext the sidecar calls nothing and answers with an error. -/
theorem serveBySidecar_eq (host : Host) (proxy : ProxyState) (answers : Answers)
    (request : EncryptedRequest) :
    ∃ error, sidecarReply host proxy answers request =
        encryptedErrorResponse request.reqId request.aadVersion error ∧
      serveBySidecar host proxy answers request = sendEncryptedStreamError answers request error := by
  unfold sidecarReply serveBySidecar
  have refused : ∀ body, verifyInboundAuth host proxy.config answers.unixNow request.auth = none →
      decryptInboundRequest host proxy.config request.roomId request.reqId request.path
        request.consumerEphemeralPk [] [] ≠ .ok body :=
    fun body _ => decryptInboundRequest_badNonce (by decide)
  rcases forwardRequest_refused refused with ⟨error, ran⟩ | ⟨error, ran⟩
  · exact ⟨_, by rw [ran], by rw [ran]; rfl⟩
  · exact ⟨error, by rw [ran], by rw [ran]; rfl⟩

theorem serveBySidecar_isReply (host : Host) (proxy : ProxyState) (request : EncryptedRequest) :
    ∀ effect ∈ serveBySidecar host proxy answers request, effect.isReply := by
  obtain ⟨error, -, only⟩ := serveBySidecar_eq host proxy answers request
  rw [only]
  exact sendEncryptedStreamError_isReply request error

private theorem flushEncryptedResponseChunks_isReply (host : Host) (config : ClientConfig)
    (roomId reqId path : String) (pk : Bytes) (aadVersion : Nat) (done : Bool) (fuel : Nat)
    (flush : Flush) (quiet : ∀ effect ∈ flush.sent, effect.isReply) :
    ∀ effect ∈ (flushEncryptedResponseChunks host config answers roomId reqId path pk aadVersion
      done fuel flush).sent, effect.isReply := by
  induction fuel generalizing flush with
  | zero => exact quiet
  | succ fuel ih =>
    unfold flushEncryptedResponseChunks
    dsimp only
    split
    · exact quiet
    · split
      · split
        · exact quiet
        · split
          · refine ih _ ?_
            intro effect member
            rcases List.mem_append.mp member with old | new
            · exact quiet effect old
            · obtain rfl := List.mem_singleton.mp new
              trivial
          · exact quiet
      · exact quiet

private theorem streamEncryptedAnswer_isReply (host : Host) (config : ClientConfig)
    (roomId reqId path : String) (pk : Bytes) (aadVersion : Nat)
    (items : List (Except String Bytes)) :
    ∀ effect ∈ streamEncryptedAnswer host config answers roomId reqId path pk aadVersion items,
      effect.isReply := by
  unfold streamEncryptedAnswer
  dsimp only
  have arrivedQuiet : ∀ (chunks : List Bytes) (flush : Flush),
      (∀ effect ∈ flush.sent, effect.isReply) →
      ∀ effect ∈ (chunks.foldl (fun flush chunk =>
        if flush.alive then
          flushEncryptedResponseChunks host config answers roomId reqId path pk aadVersion false
            (flush.pending ++ ((fromUtf8 chunk).getD "").toList).length
            { flush with pending := flush.pending ++ ((fromUtf8 chunk).getD "").toList }
        else flush) flush).sent, effect.isReply := by
    intro chunks
    induction chunks with
    | nil => intro flush quiet; exact quiet
    | cons chunk rest ih =>
      intro flush quiet
      rw [List.foldl_cons]
      refine ih _ ?_
      split
      · exact flushEncryptedResponseChunks_isReply _ _ _ _ _ _ _ _ _ _ quiet
      · exact quiet
  have quiet := arrivedQuiet (okItems items) ⟨[], 0, [], true⟩ (by simp)
  split
  · exact flushEncryptedResponseChunks_isReply _ _ _ _ _ _ _ _ _ _ quiet
  · exact quiet

theorem sendDcInOrder_sent {msgs : List DataChannelMessage} {effect : ChannelEffect}
    (member : effect ∈ sendDcInOrder answers msgs) : ∃ msg ∈ msgs, effect = .data msg := by
  induction msgs with
  | nil => simp [sendDcInOrder] at member
  | cons msg rest ih =>
    unfold sendDcInOrder at member
    split at member
    · rcases List.mem_cons.mp member with rfl | later
      · exact ⟨msg, List.mem_cons_self, rfl⟩
      · obtain ⟨sent, among, same⟩ := ih later
        exact ⟨sent, List.mem_cons_of_mem _ among, same⟩
    · simp at member

private theorem sendProxyResponseChunk_isReply (reqId chunk : String) :
    ∀ effect ∈ sendProxyResponseChunk answers reqId chunk, effect.isReply := by
  intro effect member
  obtain ⟨msg, among, rfl⟩ := sendDcInOrder_sent member
  obtain ⟨part, -, rfl⟩ := List.mem_map.mp among
  trivial

/-- Serving a plaintext request makes its call, and sends what is said of it. -/
theorem servePlaintext_effects {host : Host} {proxy : ProxyState} {reqId path : String} {body : Json}
    {effect : ChannelEffect} (member : effect ∈ servePlaintext host proxy answers reqId path body) :
    effect = .forward ((Arrived.plaintext reqId path body).call host proxy.config) ∨
      effect.isReply := by
  unfold servePlaintext at member
  dsimp only at member
  rcases List.mem_cons.mp member with same | later
  · exact .inl same
  · right
    split at later
    · simp at later
    · exact sendDcMessage_isReply (.proxyResponseError _ _) trivial effect later
    · rcases List.mem_append.mp later with chunk | done
      · obtain ⟨text, -, chunk⟩ := List.mem_flatMap.mp chunk
        exact sendProxyResponseChunk_isReply _ _ effect chunk
      · exact sendDcMessage_isReply (.proxyResponseDone _) trivial effect done

theorem servePlaintext_forward {host : Host} {proxy : ProxyState} {reqId path : String} {body : Json}
    {call : BackendCall} :
    .forward call ∈ servePlaintext host proxy answers reqId path body ↔
      call = (Arrived.plaintext reqId path body).call host proxy.config := by
  constructor
  · intro member
    rcases servePlaintext_effects member with same | reply
    · exact ChannelEffect.forward.inj same
    · exact reply.elim
  · rintro rfl
    exact List.mem_cons_self

/-- Serving an encrypted request sends its acknowledgement, makes its call and
streams the answer. -/
theorem serveEncrypted_effects {host : Host} {proxy : ProxyState} {request : EncryptedRequest}
    {body : Json} {effect : ChannelEffect}
    (member : effect ∈ serveEncrypted host proxy answers request body) :
    effect = .forward ((Arrived.encrypted request body).call host proxy.config) ∨
      effect.isReply := by
  unfold serveEncrypted at member
  dsimp only at member
  split at member
  · rcases List.mem_cons.mp member with rfl | rest
    · exact .inr trivial
    · rcases List.mem_cons.mp rest with same | later
      · exact .inl same
      · right
        split at later
        · simp at later
        · exact sendEncryptedStreamError_isReply _ _ effect later
        · exact streamEncryptedAnswer_isReply _ _ _ _ _ _ _ _ effect later
  · simp at member

theorem serveEncrypted_forward {host : Host} {proxy : ProxyState} {request : EncryptedRequest}
    {body : Json} {call : BackendCall} :
    .forward call ∈ serveEncrypted host proxy answers request body ↔
      canSend answers (.encryptedProxyResponse request.reqId [] [] request.aadVersion none
          (some true)) = true ∧
        call = (Arrived.encrypted request body).call host proxy.config := by
  constructor
  · intro member
    rcases serveEncrypted_effects member with same | reply
    · refine ⟨?_, ChannelEffect.forward.inj same⟩
      by_contra unsent
      simp [serveEncrypted, unsent] at member
    · exact reply.elim
  · rintro ⟨acked, rfl⟩
    simp only [serveEncrypted, acked, ↓reduceIte]
    exact List.mem_cons_of_mem _ List.mem_cons_self

/-- A request that is dispatched has its call made only if it passed every check;
all else is sent to its consumer. -/
theorem dispatched_effects {request : Arrived} {effect : ChannelEffect}
    (member : effect ∈ (dispatched m s channel answers request).2) :
    (request.passesProof m.host s.proxy.config answers.unixNow = true ∧
        request.refusal m s channel = none ∧
        effect = .forward (request.call m.host s.proxy.config)) ∨ effect.isReply := by
  cases request with
  | plaintext reqId path body =>
    simp only [dispatched, dispatchProxyRequest] at member
    split at member
    · exact .inr (sendDcMessage_isReply (.proxyResponseError _ _) trivial effect member)
    · rename_i admitted
      rcases servePlaintext_effects member with same | reply
      · exact .inl ⟨rfl, admitted, same⟩
      · exact .inr reply
  | encrypted request body =>
    simp only [dispatched, dispatchClusterEncryptedProxyBody] at member
    split at member
    · exact .inr (sendEncryptedStreamError_isReply _ _ effect member)
    · rename_i proved
      split at member
      · exact .inr (serveBySidecar_isReply _ _ _ effect member)
      · rename_i inProcess
        dsimp only at member
        split at member
        · exact .inr (sendEncryptedStreamError_isReply _ _ effect member)
        · rename_i admitted
          rcases serveEncrypted_effects member with same | reply
          · exact .inl ⟨by simp [Arrived.passesProof, proved, inProcess], admitted, same⟩
          · exact .inr reply

/-- A request that is dispatched calls the backend only if it passed every
check, and then with its own path, model and normalised body. -/
theorem dispatched_forward {request : Arrived} {call : BackendCall}
    (called : .forward call ∈ (dispatched m s channel answers request).2) :
    request.passesProof m.host s.proxy.config answers.unixNow = true ∧
      request.refusal m s channel = none ∧ call = request.call m.host s.proxy.config := by
  rcases dispatched_effects called with ⟨proved, admitted, same⟩ | reply
  · exact ⟨proved, admitted, ChannelEffect.forward.inj same⟩
  · exact reply.elim

/-- Everything a channel message does: it sends replies, hands over what it
brings, or makes the call of the request it completes. -/
theorem onMessage_effects {msg : StreamMessage} {effect : ChannelEffect}
    (member : effect ∈ (onMessage m s id channel msg answers).2) :
    effect.isReply ∨ Handed m s channel msg effect ∨
      ∃ request, arrived m.host s.proxy.config channel msg = some request ∧
        request.passesProof m.host s.proxy.config answers.unixNow = true ∧
        request.refusal m s channel = none ∧
        effect = .forward (request.call m.host s.proxy.config) := by
  have outcome : Outcome m s channel msg answers (onMessage m s id channel msg answers)
    (arrived m.host s.proxy.config channel msg) := onMessage_outcome msg
  cases found : arrived m.host s.proxy.config channel msg with
  | none =>
    rw [found] at outcome
    rcases outcome.2 effect member with reply | handed
    · exact .inl reply
    · exact .inr (.inl handed)
  | some request =>
    rw [found] at outcome
    rw [outcome.2] at member
    rcases dispatched_effects member with ⟨proved, admitted, made⟩ | reply
    · exact .inr (.inr ⟨request, rfl, proved, admitted, made⟩)
    · exact .inl reply

private theorem spendApproval_eq_some {proxy : ProxyState} {clusterId consumer probe model : String}
    {approvals : String → Option String}
    (left : spendApproval proxy clusterId consumer approvals probe = some model) :
    approvals probe = some model := by
  unfold spendApproval at left
  split at left
  · exact left
  · by_cases same : probe = consumer
    · subst same
      simp at left
    · rwa [update_of_ne same] at left

/-- A channel message only ever takes approvals away. -/
theorem onMessage_approvals {msg : StreamMessage} {consumer model : String}
    (left : (onMessage m s id channel msg answers).1.approvedProxyModels consumer = some model) :
    s.approvedProxyModels consumer = some model := by
  have outcome : Outcome m s channel msg answers (onMessage m s id channel msg answers)
    (arrived m.host s.proxy.config channel msg) := onMessage_outcome msg
  cases found : arrived m.host s.proxy.config channel msg with
  | none =>
    rw [found] at outcome
    rwa [outcome.1] at left
  | some request =>
    rw [found] at outcome
    rw [outcome.1] at left
    cases request with
    | plaintext reqId path body =>
      simp only [dispatched, dispatchProxyRequest] at left
      split at left
      · exact spendApproval_eq_some left
      · exact left
    | encrypted request body =>
      simp only [dispatched, dispatchClusterEncryptedProxyBody] at left
      split at left
      · exact left
      · split at left
        · exact left
        · exact spendApproval_eq_some left

/-! ## The effects of a manager -/

private theorem sendInOrder_mem {msgs : List StreamMessage} {msg : StreamMessage}
    (member : msg ∈ (sendInOrder answers msgs).1) : msg ∈ msgs := by
  induction msgs with
  | nil => simp [sendInOrder] at member
  | cons first rest ih =>
    unfold sendInOrder at member
    split at member
    · rcases List.mem_cons.mp member with rfl | later
      · exact List.mem_cons_self
      · exact List.mem_cons_of_mem _ (ih later)
    · simp at member

private theorem chunkedRequest_kind {P : Primitives} {config : ClientConfig}
    {peerId reqId path roomId : String} {body : Json} {providerPk : Bytes} {msg : StreamMessage}
    (member : msg ∈ chunkedRequest P config answers peerId reqId path body roomId providerPk) :
    msg.isEncryptedRequest = true ∧ msg.requestId = some reqId := by
  rcases List.mem_append.mp member with front | last
  · rcases List.mem_cons.mp front with rfl | chunk
    · exact ⟨rfl, rfl⟩
    · obtain ⟨seq, below, rfl⟩ := List.mem_mapIdx.mp chunk
      exact ⟨rfl, rfl⟩
  · obtain rfl := List.mem_singleton.mp last
    exact ⟨rfl, rfl⟩

/-- What goes out of an encrypted request is of the encrypted family and names it. -/
theorem sendEncryptedProxyRequest_kind {host : Host} {config : ClientConfig}
    {peerId reqId path roomId : String} {body : Json} {catalogPk : Option String}
    {msg : StreamMessage}
    (member : msg ∈ (sendEncryptedProxyRequest host config answers peerId reqId path body roomId
      catalogPk).1) : msg.isEncryptedRequest = true ∧ msg.requestId = some reqId := by
  unfold sendEncryptedProxyRequest at member
  dsimp only at member
  split at member
  · simp at member
  · rename_i providerPk resolved
    split at member
    · simp at member
    · rename_i whole secret made
      split at member
      · split at member
        · obtain rfl := List.mem_singleton.mp member
          unfold encryptProxyRequest at made
          split at made
          · cases made
          · obtain ⟨rfl, -⟩ := Prod.mk.inj (Except.ok.inj made)
            exact ⟨rfl, rfl⟩
        · simp at member
      · split at member
        all_goals
          rename_i sent ran
          have among : msg ∈ (sendInOrder answers (chunkedRequest host.crypto config answers peerId
              reqId path body roomId providerPk)).1 := by
            rw [ran]
            exact member
          exact chunkedRequest_kind (sendInOrder_mem among)

/-- What a local request puts on its channel. -/
theorem onSendRequest_effects {reqId path : String} {body : Json} {effect : ChannelEffect}
    (member : effect ∈ (onSendRequest m s reqId path body answers).2) :
    (m.host.e2eeEnabled = true ∧ ∃ msg, effect = .stream msg ∧ msg.isEncryptedRequest = true) ∨
      m.host.e2eeEnabled = false ∧ ∃ msg ∈ plaintextRequest reqId path body, effect = .data msg := by
  unfold onSendRequest at member
  dsimp only at member
  split at member
  · rename_i e2ee
    left
    refine ⟨e2ee, ?_⟩
    split at member
    all_goals
      rename_i ran
      obtain ⟨msg, sent, rfl⟩ := List.mem_map.mp member
      have among : msg ∈ (sendEncryptedProxyRequest m.host s.proxy.config answers m.peerId reqId path
          body m.clusterId none).1 := by
        rw [ran]
        exact sent
      exact ⟨msg, rfl, (sendEncryptedProxyRequest_kind among).1⟩
  · rename_i plain
    exact .inr ⟨by simpa using plain, sendDcInOrder_sent member⟩

/-- A manager does something on a channel only for a message of the channel or a
local request. -/
theorem clusterStep_effects {e : ClusterEvent} {effect : ChannelEffect}
    (member : .effect id effect ∈ (clusterStep m s e).2) :
    (∃ msg answers channel, e = .message id msg answers ∧ s.channels id = some channel ∧
        effect ∈ (onMessage m s id channel msg answers).2) ∨
      ∃ reqId path body answers, e = .sendRequest id reqId path body answers ∧
        effect ∈ (onSendRequest m s reqId path body answers).2 := by
  by_cases lobby : e.isChannel = false
  · exact ((clusterStep_lobby lobby).2 id effect member).elim
  cases e with
  | message id' msg answers =>
    simp only [clusterStep] at member
    split at member
    · simp at member
    · rename_i channel found
      obtain ⟨other, made, same⟩ := List.mem_map.mp member
      obtain ⟨rfl, rfl⟩ := ClusterOutput.effect.inj same
      exact .inl ⟨msg, answers, channel, rfl, found, made⟩
  | sendRequest id' reqId path body answers =>
    simp only [clusterStep] at member
    split at member
    · simp at member
    · obtain ⟨other, sent, same⟩ := List.mem_map.mp member
      obtain ⟨rfl, rfl⟩ := ClusterOutput.effect.inj same
      exact .inr ⟨reqId, path, body, answers, rfl, sent⟩
  | channelOpened => simp [clusterStep] at member
  | _ => exact absurd rfl lobby

/-- A manager calls the backend only for the request that a channel message
completes. -/
theorem clusterStep_forward {e : ClusterEvent} {call : BackendCall}
    (called : .effect id (.forward call) ∈ (clusterStep m s e).2) :
    ∃ msg answers channel request, e = .message id msg answers ∧ s.channels id = some channel ∧
      arrived m.host s.proxy.config channel msg = some request ∧
      request.passesProof m.host s.proxy.config answers.unixNow = true ∧
      request.refusal m s channel = none ∧ call = request.call m.host s.proxy.config := by
  rcases clusterStep_effects called with
    ⟨msg, answers, channel, rfl, found, made⟩ | ⟨_, _, _, _, rfl, sent⟩
  · rcases onMessage_effects made with reply | handed | ⟨request, complete, proved, admitted, same⟩
    · exact reply.elim
    · cases handed
    · exact ⟨msg, answers, channel, request, rfl, found, complete, proved, admitted,
        ChannelEffect.forward.inj same⟩
  · rcases onSendRequest_effects sent with ⟨-, msg, same, -⟩ | ⟨-, msg, -, same⟩ <;> cases same

end MtrxPeer
