import MtrxPeer.ClusterDcE2ee
import MtrxPeer.ConnectAllowance

/-! The messages of a cluster's data channels: the state a cluster manager
shares between its channels, and the handler of one received message. -/
namespace MtrxPeer

open Function (update update_of_ne update_self)

/-! ## State -/

/-- A chunked plaintext request the peer is still receiving. -/
structure PendingIncomingProxyRequest where
  path : String
  chunks : List (Nat × String)

/-- One data channel: who is at the other end, whether this peer serves on it,
and the tables of its handler. -/
structure Channel where
  peer : String
  isProvider : Bool
  pendingIncoming : String → Option PendingIncomingProxyRequest
  pendingEncryptedIncoming : String → Option PendingEncryptedIncomingRequest
  pendingEncryptedStreams : String → Option PendingEncryptedStream

/-- A channel whose handlers were just set up. -/
def Channel.opened (peer : String) (isProvider : Bool) : Channel :=
  ⟨peer, isProvider, fun _ => none, fun _ => none, fun _ => none⟩

/-- A connection request that waits for the user's answer. -/
structure IncomingConnectionOffer where
  reqId : String
  model : String
  clusterId : Option String
  requestedBy : String
  deriving DecidableEq

/-- The state of a cluster manager and of what it shares with the process. -/
structure ClusterState where
  proxy : ProxyState
  /-- The monotonic clock. -/
  now : Nat
  connectionAllowances : ConnectionAllowanceStore
  approvedProxyModels : String → Option String
  peerAttestationHints : String → Option Nat
  incomingConnectionOffers : List IncomingConnectionOffer
  pendingConnectApprovals : String → Bool
  /-- The peers a WebRTC session is kept for. -/
  peers : String → Bool
  channels : String → Option Channel
  /-- The requests some local caller waits for. -/
  pendingRequests : String → Bool
  pendingEncryptedConsumer : String → Option EncryptedConsumerState

/-- A cluster manager's identity. -/
structure Manager where
  host : Host
  clusterId : String
  peerId : String

def ClusterState.setChannel (s : ClusterState) (id : String) (channel : Channel) : ClusterState :=
  { s with channels := update s.channels id (some channel) }

/-- `pending_requests.remove`. -/
def ClusterState.dropRequest (s : ClusterState) (reqId : String) : ClusterState :=
  { s with pendingRequests := update s.pendingRequests reqId false }

/-- `pending_encrypted_consumer.remove`. -/
def ClusterState.dropEncrypted (s : ClusterState) (reqId : String) : ClusterState :=
  { s with pendingEncryptedConsumer := update s.pendingEncryptedConsumer reqId none }

/-- Handing something to the caller of a request, if one still waits. -/
def deliverTo (s : ClusterState) (reqId : String) (item : Except String String) :
    List ChannelEffect :=
  if s.pendingRequests reqId then [.deliver reqId item] else []

/-! ## Plaintext requests -/

def maxDcChunkBytes : Nat := 3 * 1024

/-- `send_dc_message`. -/
def sendDcMessage (answers : Answers) (msg : DataChannelMessage) : List ChannelEffect :=
  if canSend answers msg.asStream then [.data msg] else []

/-- Messages sent in order until one fails. -/
def sendDcInOrder (answers : Answers) : List DataChannelMessage → List ChannelEffect
  | [] => []
  | msg :: rest =>
    if canSend answers msg.asStream then .data msg :: sendDcInOrder answers rest else []

/-- `send_proxy_response_chunk`. -/
def sendProxyResponseChunk (answers : Answers) (reqId chunk : String) : List ChannelEffect :=
  sendDcInOrder answers ((chunkUtf8 chunk maxDcChunkBytes).map (.proxyResponseChunk reqId))

/-- Serving an admitted plaintext request. -/
def servePlaintext (host : Host) (proxy : ProxyState) (answers : Answers)
    (reqId path : String) (body : Json) : List ChannelEffect :=
  let call : BackendCall := ⟨path, normalizeRemoteBody host proxy.config body, requestedModel body⟩
  .forward call :: match callOutcome proxy.registry answers call with
    | none => []
    | some (.error error) =>
      sendDcMessage answers (.proxyResponseError reqId ("Proxy Error: " ++ error))
    | some (.ok items) =>
      ((okItems items).filterMap fromUtf8).flatMap (sendProxyResponseChunk answers reqId) ++
        sendDcMessage answers (.proxyResponseDone reqId)

/-- `dispatch_proxy_request`: the approvals afterwards, and what was done. Only
a channel this peer serves on has approvals to check. -/
def dispatchProxyRequest (host : Host) (proxy : ProxyState) (answers : Answers)
    (clusterId consumer : String) (isProvider : Bool) (approvals : String → Option String)
    (reqId path : String) (body : Json) : (String → Option String) × List ChannelEffect :=
  (if isProvider then spendApproval proxy clusterId consumer approvals else approvals,
    match clusterRefusal proxy clusterId consumer (requestedModel body)
      (if isProvider then approvals consumer else none) with
    | some error => sendDcMessage answers (.proxyResponseError reqId error)
    | none => servePlaintext host proxy answers reqId path body)

/-- The text of a chunked plaintext request: its chunks in the order of their
numbers. -/
def plaintextOf (pending : PendingIncomingProxyRequest) : String :=
  String.join ((pending.chunks.insertionSort fun a b => a.1 ≤ b.1).map Prod.snd)

def assemblePlaintext (pending : PendingIncomingProxyRequest) : Option Json :=
  Json.fromText (plaintextOf pending)

/-- The request id of a plaintext request message. -/
def DataChannelMessage.plaintextRequestId : DataChannelMessage → Option String
  | .proxyRequest reqId _ _ => some reqId
  | .proxyRequestStart reqId _ => some reqId
  | .proxyRequestChunk reqId _ _ => some reqId
  | .proxyRequestEnd reqId => some reqId
  | _ => none

/-! ## The message handler -/

variable (m : Manager)

/-- The plaintext family of a channel. -/
def onDataChannelMessage (s : ClusterState) (id : String) (channel : Channel)
    (msg : DataChannelMessage) (answers : Answers) : ClusterState × List ChannelEffect :=
  match msg with
  | .proxyRequest reqId path body =>
    let (approvals, effects) := dispatchProxyRequest m.host s.proxy answers m.clusterId channel.peer
      channel.isProvider s.approvedProxyModels reqId path body
    ({ s with approvedProxyModels := approvals }, effects)
  | .proxyRequestStart reqId path =>
    (s.setChannel id { channel with
      pendingIncoming := update channel.pendingIncoming reqId (some ⟨path, []⟩) }, [])
  | .proxyRequestChunk reqId seq chunk =>
    match channel.pendingIncoming reqId with
    | none => (s, [])
    | some pending =>
      (s.setChannel id { channel with
        pendingIncoming := update channel.pendingIncoming reqId
          (some { pending with chunks := pending.chunks ++ [(seq, chunk)] }) }, [])
  | .proxyRequestEnd reqId =>
    match channel.pendingIncoming reqId with
    | none => (s, [])
    | some pending =>
      let s := s.setChannel id { channel with
        pendingIncoming := update channel.pendingIncoming reqId none }
      match assemblePlaintext pending with
      -- A body that does not parse is only logged.
      | none => (s, [])
      | some body =>
        let (approvals, effects) := dispatchProxyRequest m.host s.proxy answers m.clusterId
          channel.peer channel.isProvider s.approvedProxyModels reqId pending.path body
        ({ s with approvedProxyModels := approvals }, effects)
  | .proxyResponseChunk reqId chunk => (s, deliverTo s reqId (.ok chunk))
  | .proxyResponseDone reqId => (s.dropRequest reqId, [])
  | .proxyResponseError reqId error => (s.dropRequest reqId, deliverTo s reqId (.error error))
  | .ping => (s, if answers.channelOpen then [.data .pong] else [])
  | .pong => (s, [])

/-- The gate in front of the plaintext family. -/
def gateDataChannelMessage (s : ClusterState) (id : String) (channel : Channel)
    (msg : DataChannelMessage) (answers : Answers) : ClusterState × List ChannelEffect :=
  match msg.plaintextRequestId with
  | some reqId =>
    if channel.isProvider && m.host.e2eeEnabled then
      (s, sendDcMessage answers
        (.proxyResponseError reqId "Plaintext proxy rejected; upgrade to E2EE v2"))
    else onDataChannelMessage m s id channel msg answers
  | none => onDataChannelMessage m s id channel msg answers

/-- Acting on what a recovered encrypted request comes to. -/
def dispatchOn (s : ClusterState) (channel : Channel) (answers : Answers)
    (request : EncryptedRequest) (recovered : Except String Json) :
    ClusterState × List ChannelEffect :=
  let (approvals, effects) := dispatchRecovered m.host s.proxy answers m.clusterId channel.peer
    s.approvedProxyModels request recovered
  ({ s with approvedProxyModels := approvals }, effects)

/-- The encrypted requests a provider's channel takes. -/
def onEncryptedRequest (s : ClusterState) (id : String) (channel : Channel)
    (msg : StreamMessage) (answers : Answers) : ClusterState × List ChannelEffect :=
  match msg with
  | .encryptedProxyRequest reqId path roomId pk nonce ciphertext aadVersion auth =>
    dispatchOn m s channel answers ⟨reqId, path, roomId, pk, aadVersion, auth⟩
      (decryptInboundRequest m.host s.proxy.config roomId reqId path pk nonce ciphertext)
  | .encryptedProxyRequestStart reqId path roomId pk aadVersion auth =>
    (s.setChannel id { channel with
      pendingEncryptedIncoming := update channel.pendingEncryptedIncoming reqId
        (some ⟨path, roomId, pk, aadVersion, auth, []⟩) }, [])
  | .encryptedProxyRequestChunk reqId seq nonce ciphertext _ =>
    match channel.pendingEncryptedIncoming reqId with
    | none => (s, [])
    | some pending =>
      (s.setChannel id { channel with
        pendingEncryptedIncoming := update channel.pendingEncryptedIncoming reqId
          (some { pending with chunks := pending.chunks ++ [(seq, nonce, ciphertext)] }) }, [])
  | .encryptedProxyRequestEnd reqId =>
    match channel.pendingEncryptedIncoming reqId with
    | none => (s, [])
    | some incoming =>
      let s := s.setChannel id { channel with
        pendingEncryptedIncoming := update channel.pendingEncryptedIncoming reqId none }
      dispatchOn m s channel answers ⟨reqId, incoming.path, incoming.roomId,
        incoming.consumerEphemeralPk, incoming.aadVersion, incoming.auth⟩
        (assembleBody m.host s.proxy.config reqId incoming)
  | _ => (s, [])

/-- The encrypted answers a consumer's channel takes. -/
def onEncryptedAnswer (s : ClusterState) (id : String) (channel : Channel)
    (msg : StreamMessage) : ClusterState × List ChannelEffect :=
  match msg with
  | .encryptedProxyResponse reqId nonce ciphertext _ error stream =>
    if stream = some true ∧ error = none then
      match s.pendingEncryptedConsumer reqId with
      | none => (s, [])
      | some state =>
        (s.setChannel id { channel with
          pendingEncryptedStreams := update channel.pendingEncryptedStreams reqId
            (some (initPendingEncryptedStream state)) }, [])
    else
      match s.pendingEncryptedConsumer reqId with
      | none => (s, [])
      | some state =>
        (s.dropEncrypted reqId, deliverTo s reqId
          (decryptProxyResponse m.host s.proxy.config reqId state.path state.roomId
            state.ephemeralSecret state.providerPk ⟨nonce, ciphertext⟩ error))
  | .encryptedProxyStreamChunk reqId seq nonce ciphertext _ done =>
    let (outcome, stream) := handleEncryptedStreamChunk m.host s.proxy.config reqId
      (channel.pendingEncryptedStreams reqId) ⟨seq, nonce, ciphertext, done⟩
    let s' := s.setChannel id { channel with
      pendingEncryptedStreams := update channel.pendingEncryptedStreams reqId stream }
    match outcome with
    | .ok .waiting => (s', [])
    | .ok (.progress parts) => (s', parts.flatMap fun part => deliverTo s reqId (.ok part))
    | .ok (.finished parts) =>
      ((s'.dropEncrypted reqId).dropRequest reqId,
        parts.flatMap fun part => deliverTo s reqId (.ok part))
    | .error error =>
      ((((s.setChannel id { channel with
          pendingEncryptedStreams := update channel.pendingEncryptedStreams reqId none }
        ).dropEncrypted reqId).dropRequest reqId), deliverTo s reqId (.error error))
  | _ => (s, [])

/-- The messages of the encrypted family that a provider handles. -/
def StreamMessage.isEncryptedRequest : StreamMessage → Bool
  | .encryptedProxyRequest .. | .encryptedProxyRequestStart .. | .encryptedProxyRequestChunk ..
  | .encryptedProxyRequestEnd .. => true
  | _ => false

/-- The messages of the encrypted family that a consumer handles. -/
def StreamMessage.isEncryptedAnswer : StreamMessage → Bool
  | .encryptedProxyResponse .. | .encryptedProxyStreamChunk .. => true
  | _ => false

/-- The `on_message` handler of a channel. A text that the encrypted family does
not take is read again as a plaintext message. -/
def onMessage (s : ClusterState) (id : String) (channel : Channel) (msg : StreamMessage)
    (answers : Answers) : ClusterState × List ChannelEffect :=
  if msg.isEncryptedRequest && channel.isProvider then
    onEncryptedRequest m s id channel msg answers
  else if msg.isEncryptedAnswer && !channel.isProvider then onEncryptedAnswer m s id channel msg
  else match msg.asDataChannel with
    | some msg => gateDataChannelMessage m s id channel msg answers
    | none => (s, [])

/-! ## What a channel message leaves alone -/

/-- The parts of the state that the data channels only read. -/
structure LobbyState where
  proxy : ProxyState
  now : Nat
  connectionAllowances : ConnectionAllowanceStore
  peerAttestationHints : String → Option Nat
  incomingConnectionOffers : List IncomingConnectionOffer
  pendingConnectApprovals : String → Bool
  peers : String → Bool

def ClusterState.lobby (s : ClusterState) : LobbyState :=
  ⟨s.proxy, s.now, s.connectionAllowances, s.peerAttestationHints, s.incomingConnectionOffers,
    s.pendingConnectApprovals, s.peers⟩

variable {m} {s : ClusterState} {id : String} {channel : Channel} {answers : Answers}

@[simp] theorem setChannel_lobby : (s.setChannel id channel).lobby = s.lobby := rfl

@[simp] theorem dropRequest_lobby (reqId : String) : (s.dropRequest reqId).lobby = s.lobby := rfl

@[simp] theorem dropEncrypted_lobby (reqId : String) : (s.dropEncrypted reqId).lobby = s.lobby := rfl

@[simp] theorem dispatchOn_lobby (request : EncryptedRequest) (recovered : Except String Json) :
    (dispatchOn m s channel answers request recovered).1.lobby = s.lobby := rfl

theorem onDataChannelMessage_lobby (msg : DataChannelMessage) :
    (onDataChannelMessage m s id channel msg answers).1.lobby = s.lobby := by
  cases msg with
  | proxyRequestChunk reqId seq chunk => simp only [onDataChannelMessage]; split <;> rfl
  | proxyRequestEnd reqId =>
    simp only [onDataChannelMessage]
    split
    · rfl
    · split <;> rfl
  | _ => rfl

theorem gateDataChannelMessage_lobby (msg : DataChannelMessage) :
    (gateDataChannelMessage m s id channel msg answers).1.lobby = s.lobby := by
  unfold gateDataChannelMessage
  split
  · split
    · rfl
    · exact onDataChannelMessage_lobby msg
  · exact onDataChannelMessage_lobby msg

theorem onEncryptedRequest_lobby (msg : StreamMessage) :
    (onEncryptedRequest m s id channel msg answers).1.lobby = s.lobby := by
  cases msg with
  | encryptedProxyRequestChunk => simp only [onEncryptedRequest]; split <;> rfl
  | encryptedProxyRequestEnd => simp only [onEncryptedRequest]; split <;> rfl
  | _ => rfl

theorem onEncryptedAnswer_lobby (msg : StreamMessage) :
    (onEncryptedAnswer m s id channel msg).1.lobby = s.lobby := by
  cases msg with
  | encryptedProxyResponse =>
    simp only [onEncryptedAnswer]
    split <;> split <;> rfl
  | encryptedProxyStreamChunk => simp only [onEncryptedAnswer]; split <;> rfl
  | _ => rfl

/-- A channel message changes only the channels, the approvals and the tables of
waiting callers. -/
theorem onMessage_lobby (msg : StreamMessage) :
    (onMessage m s id channel msg answers).1.lobby = s.lobby := by
  unfold onMessage
  split
  · exact onEncryptedRequest_lobby msg
  · split
    · exact onEncryptedAnswer_lobby msg
    · split
      · exact gateDataChannelMessage_lobby _
      · rfl

/-! ## What a channel message enters -/

/-- How a message moves the tables of its channel: what is there afterwards was
there before or came with the message. -/
structure Channel.Steps (channel : Channel) (msg : StreamMessage) (after : Channel) : Prop where
  peer : after.peer = channel.peer
  isProvider : after.isProvider = channel.isProvider
  incoming : ∀ reqId pending, after.pendingEncryptedIncoming reqId = some pending →
    (∃ old, channel.pendingEncryptedIncoming reqId = some old ∧ old.roomId = pending.roomId ∧
        old.auth = pending.auth) ∨
      channel.isProvider = true ∧ ∃ path pk version,
        msg = .encryptedProxyRequestStart reqId path pending.roomId pk version pending.auth
  chunks : ∀ reqId pending, after.pendingEncryptedIncoming reqId = some pending →
    ∀ chunk ∈ pending.chunks,
      (∃ old, channel.pendingEncryptedIncoming reqId = some old ∧ chunk ∈ old.chunks) ∨
        ∃ version, msg =
          .encryptedProxyRequestChunk reqId chunk.1 chunk.2.1 chunk.2.2 version
  streams : ∀ reqId stream, after.pendingEncryptedStreams reqId = some stream →
    ∀ chunk ∈ stream.reorder,
      (∃ old, channel.pendingEncryptedStreams reqId = some old ∧ chunk ∈ old.reorder) ∨
        ∃ version, msg =
          .encryptedProxyStreamChunk reqId chunk.seq chunk.nonce chunk.ciphertext version chunk.done

theorem Channel.Steps.refl (channel : Channel) (msg : StreamMessage) : channel.Steps msg channel where
  peer := rfl
  isProvider := rfl
  incoming := fun _ pending found => .inl ⟨pending, found, rfl, rfl⟩
  chunks := fun _ pending found _ member => .inl ⟨pending, found, member⟩
  streams := fun _ stream found _ member => .inl ⟨stream, found, member⟩

/-- Entering a request in the table of those being received, or dropping one. -/
theorem Channel.Steps.incomingEntry {msg : StreamMessage} {reqId : String}
    {entry : Option PendingEncryptedIncomingRequest}
    (origin : ∀ pending, entry = some pending →
      (∃ old, channel.pendingEncryptedIncoming reqId = some old ∧ old.roomId = pending.roomId ∧
          old.auth = pending.auth) ∨
        channel.isProvider = true ∧ ∃ path pk version,
          msg = .encryptedProxyRequestStart reqId path pending.roomId pk version pending.auth)
    (came : ∀ pending, entry = some pending → ∀ chunk ∈ pending.chunks,
      (∃ old, channel.pendingEncryptedIncoming reqId = some old ∧ chunk ∈ old.chunks) ∨
        ∃ version, msg =
          .encryptedProxyRequestChunk reqId chunk.1 chunk.2.1 chunk.2.2 version) :
    channel.Steps msg { channel with
      pendingEncryptedIncoming := update channel.pendingEncryptedIncoming reqId entry } where
  peer := rfl
  isProvider := rfl
  incoming := by
    intro probe pending found
    dsimp only at found
    by_cases same : probe = reqId
    · subst same
      rw [update_self] at found
      exact origin pending found
    · rw [update_of_ne same] at found
      exact .inl ⟨pending, found, rfl, rfl⟩
  chunks := by
    intro probe pending found chunk member
    dsimp only at found
    by_cases same : probe = reqId
    · subst same
      rw [update_self] at found
      exact came pending found chunk member
    · rw [update_of_ne same] at found
      exact .inl ⟨pending, found, member⟩
  streams := (refl channel msg).streams

/-- Entering a stream in the table of those being read, or dropping one. -/
theorem Channel.Steps.streamEntry {msg : StreamMessage} {reqId : String}
    {entry : Option PendingEncryptedStream}
    (origin : ∀ stream, entry = some stream → ∀ chunk ∈ stream.reorder,
      (∃ old, channel.pendingEncryptedStreams reqId = some old ∧ chunk ∈ old.reorder) ∨
        ∃ version, msg = .encryptedProxyStreamChunk reqId chunk.seq chunk.nonce chunk.ciphertext
          version chunk.done) :
    channel.Steps msg { channel with
      pendingEncryptedStreams := update channel.pendingEncryptedStreams reqId entry } where
  peer := rfl
  isProvider := rfl
  incoming := (refl channel msg).incoming
  chunks := (refl channel msg).chunks
  streams := by
    intro probe stream found chunk member
    dsimp only at found
    by_cases same : probe = reqId
    · subst same
      rw [update_self] at found
      exact origin stream found chunk member
    · rw [update_of_ne same] at found
      exact .inl ⟨stream, found, member⟩

/-- Draining only takes chunks out. -/
theorem drainEncryptedStream_reorder {host : Host} {config : ClientConfig} {reqId : String}
    {fuel : Nat} {stream left : PendingEncryptedStream} {parts : List String}
    (drained : (drainEncryptedStream host config reqId fuel stream parts).2 = some left) :
    ∀ chunk ∈ left.reorder, chunk ∈ stream.reorder := by
  induction fuel generalizing stream parts with
  | zero =>
    obtain rfl := Option.some.inj drained
    exact fun _ member => member
  | succ fuel ih =>
    unfold drainEncryptedStream at drained
    split at drained
    · obtain rfl := Option.some.inj drained
      exact fun _ member => member
    · dsimp only at drained
      split at drained
      · obtain rfl := Option.some.inj drained
        exact fun _ member => (List.mem_filter.mp member).1
      · split at drained
        · cases drained
        · exact fun _ member => (List.mem_filter.mp (ih drained _ member)).1

private theorem onDataChannelMessage_channels (msg : DataChannelMessage) (wire : StreamMessage) :
    (onDataChannelMessage m s id channel msg answers).1.channels = s.channels ∨
      ∃ after, channel.Steps wire after ∧
        (onDataChannelMessage m s id channel msg answers).1.channels =
          update s.channels id (some after) := by
  have kept : ∀ pendingIncoming, channel.Steps wire { channel with pendingIncoming } :=
    fun _ => { Channel.Steps.refl channel wire with peer := rfl, isProvider := rfl }
  cases msg with
  | proxyRequestStart => exact .inr ⟨_, kept _, rfl⟩
  | proxyRequestChunk reqId =>
    simp only [onDataChannelMessage]
    split
    · exact .inl rfl
    · exact .inr ⟨_, kept _, rfl⟩
  | proxyRequestEnd reqId =>
    simp only [onDataChannelMessage]
    split
    · exact .inl rfl
    · split <;> exact .inr ⟨_, kept _, rfl⟩
  | _ => exact .inl rfl

private theorem onEncryptedRequest_channels (msg : StreamMessage)
    (provider : channel.isProvider = true) :
    (onEncryptedRequest m s id channel msg answers).1.channels = s.channels ∨
      ∃ after, channel.Steps msg after ∧
        (onEncryptedRequest m s id channel msg answers).1.channels =
          update s.channels id (some after) := by
  cases msg with
  | encryptedProxyRequestStart reqId path roomId pk version auth =>
    refine .inr ⟨_, Channel.Steps.incomingEntry ?_ ?_, rfl⟩
    · rintro pending ⟨⟩
      exact .inr ⟨provider, path, pk, version, rfl⟩
    · rintro pending ⟨⟩ chunk member
      simp at member
  | encryptedProxyRequestChunk reqId seq nonce ciphertext version =>
    simp only [onEncryptedRequest]
    split
    · exact .inl rfl
    · rename_i old stored
      refine .inr ⟨_, Channel.Steps.incomingEntry ?_ ?_, rfl⟩
      · rintro pending ⟨⟩
        exact .inl ⟨old, stored, rfl, rfl⟩
      · rintro pending ⟨⟩ chunk member
        rcases List.mem_append.mp member with older | new
        · exact .inl ⟨old, stored, older⟩
        · obtain rfl := List.mem_singleton.mp new
          exact .inr ⟨version, rfl⟩
  | encryptedProxyRequestEnd reqId =>
    simp only [onEncryptedRequest]
    split
    · exact .inl rfl
    · refine .inr ⟨_, Channel.Steps.incomingEntry ?_ ?_, rfl⟩
      · rintro pending ⟨⟩
      · rintro pending ⟨⟩
  | _ => exact .inl rfl

private theorem onEncryptedAnswer_channels (msg : StreamMessage) :
    (onEncryptedAnswer m s id channel msg).1.channels = s.channels ∨
      ∃ after, channel.Steps msg after ∧
        (onEncryptedAnswer m s id channel msg).1.channels = update s.channels id (some after) := by
  cases msg with
  | encryptedProxyResponse reqId nonce ciphertext version error stream =>
    simp only [onEncryptedAnswer]
    split
    · split
      · exact .inl rfl
      · refine .inr ⟨_, Channel.Steps.streamEntry ?_, rfl⟩
        rintro stream ⟨⟩ chunk member
        simp [initPendingEncryptedStream] at member
    · split <;> exact .inl rfl
  | encryptedProxyStreamChunk reqId seq nonce ciphertext version done =>
    have entered : ∀ left, (handleEncryptedStreamChunk m.host s.proxy.config reqId
        (channel.pendingEncryptedStreams reqId) ⟨seq, nonce, ciphertext, done⟩).2 = some left →
        ∀ chunk ∈ left.reorder,
          (∃ old, channel.pendingEncryptedStreams reqId = some old ∧ chunk ∈ old.reorder) ∨
            ∃ v, StreamMessage.encryptedProxyStreamChunk reqId seq nonce ciphertext version done =
              .encryptedProxyStreamChunk reqId chunk.seq chunk.nonce chunk.ciphertext v
                chunk.done := by
      intro left handled chunk member
      unfold handleEncryptedStreamChunk at handled
      split at handled
      · cases handled
      · rename_i old stored
        have kept := drainEncryptedStream_reorder handled chunk member
        rcases List.mem_cons.mp kept with rfl | older
        · exact .inr ⟨version, rfl⟩
        · exact .inl ⟨old, stored, (List.mem_filter.mp older).1⟩
    simp only [onEncryptedAnswer]
    split
    · exact .inr ⟨_, Channel.Steps.streamEntry entered, rfl⟩
    · exact .inr ⟨_, Channel.Steps.streamEntry entered, rfl⟩
    · exact .inr ⟨_, Channel.Steps.streamEntry entered, rfl⟩
    · refine .inr ⟨_, Channel.Steps.streamEntry ?_, rfl⟩
      rintro stream ⟨⟩
  | _ => exact .inl rfl

/-- A message changes its own channel's tables, if any, by one step of them. -/
theorem onMessage_channels (msg : StreamMessage) :
    (onMessage m s id channel msg answers).1.channels = s.channels ∨
      ∃ after, channel.Steps msg after ∧
        (onMessage m s id channel msg answers).1.channels = update s.channels id (some after) := by
  unfold onMessage
  split
  · rename_i kind
    rw [Bool.and_eq_true] at kind
    exact onEncryptedRequest_channels msg kind.2
  · split
    · exact onEncryptedAnswer_channels msg
    · split
      · unfold gateDataChannelMessage
        split
        · split
          · exact .inl rfl
          · exact onDataChannelMessage_channels _ msg
        · exact onDataChannelMessage_channels _ msg
      · exact .inl rfl

end MtrxPeer
