import MtrxPeer.ClusterDcE2ee

/-! Serving the requests of a swarm's peers, which arrive over libp2p
request-response. -/
namespace MtrxPeer

/-- A libp2p identity, as its text. -/
abbrev PeerId := String

/-- What a swarm manager does to the outside. -/
inductive SwarmOutput where
  /-- The response to a request of a peer. -/
  | respond (peer : PeerId) (msg : StreamMessage)
  /-- A request put to a peer. -/
  | send (peer : PeerId) (msg : StreamMessage)
  /-- A call of `forward_chat_stream`. -/
  | forward (call : BackendCall)
  /-- A part of the answer handed to the local caller of a request. -/
  | deliver (reqId : String) (item : Except String String)
  /-- A command turned down before its request has an id. -/
  | reject (error : String)

/-- A response that goes out if the peer still waits for it. -/
def respond (answers : Answers) (peer : PeerId) (msg : StreamMessage) : List SwarmOutput :=
  if answers.channelOpen then [.respond peer msg] else []

/-! ## Plaintext requests -/

/-- Why a plaintext request is refused, if it is. -/
def swarmRefusal (proxy : ProxyState) (swarmId consumer : String) : Option String :=
  if proxy.isPeerBlocked consumer then some "Peer is blocked"
  else if !swarmAccepting proxy.config swarmId then some "Peer is in maintenance mode"
  else none

/-- Serving an admitted plaintext request: the whole answer in one response. -/
def serveSwarm (host : Host) (proxy : ProxyState) (answers : Answers) (peer : PeerId)
    (reqId path : String) (body : Json) : List SwarmOutput :=
  let call : BackendCall := ⟨path, normalizeRemoteBody host proxy.config body, requestedModel body⟩
  .forward call :: match callOutcome proxy.registry answers call with
    | none => []
    | some (.ok items) => respond answers peer (.proxyResponse reqId (collectText items) none)
    | some (.error error) =>
      respond answers peer (.proxyResponse reqId "" (some ("Upstream error: " ++ error)))

def dispatchSwarmProxyRequest (host : Host) (proxy : ProxyState) (answers : Answers)
    (swarmId consumer : String) (peer : PeerId) (reqId path : String) (body : Json) :
    List SwarmOutput :=
  match swarmRefusal proxy swarmId consumer with
  | some error => respond answers peer (.proxyResponse reqId "" (some error))
  | none => serveSwarm host proxy answers peer reqId path body

/-! ## Encrypted requests -/

def reverseChunkBytes : Nat := 3000

/-- The state of an answer being cut into reverse chunks: the text still to be cut,
how many chunks were cut off, and what was queued. -/
structure ReverseFlush where
  pending : List Char
  seq : Nat
  queued : List StreamMessage

/-- `flush_encrypted_pending`. `fuel` bounds the cuts; the length of the text is
enough. A piece that cannot be encrypted is lost. -/
def flushEncryptedPending (host : Host) (config : ClientConfig) (answers : Answers)
    (request : EncryptedRequest) (done : Bool) : (fuel : Nat) → ReverseFlush → ReverseFlush
  | 0, flush => flush
  | fuel + 1, flush =>
    if flush.pending = [] then flush
    else if reverseChunkBytes ≤ (String.ofList flush.pending).utf8ByteSize ∨ done then
      let chunk := nextStreamChunk reverseChunkBytes flush.pending
      let left := flush.pending.drop chunk.length
      let seq := flush.seq % 2 ^ 32
      match encryptProxyChunk host.crypto config request.roomId request.reqId request.path seq
        request.consumerEphemeralPk (answers.draws flush.seq).nonce (utf8 (String.ofList chunk)) with
      | .error _ => { flush with pending := left }
      | .ok enc =>
        flushEncryptedPending host config answers request done fuel
          ⟨left, flush.seq + 1, flush.queued ++ [.encryptedProxyStreamChunk request.reqId seq
            enc.nonce enc.ciphertext request.aadVersion (done && left = [])]⟩
    else flush

/-- The answer of a call as reverse chunks, in order. A stream that breaks off ends
like one that is over. -/
def reverseChunks (host : Host) (config : ClientConfig) (answers : Answers)
    (request : EncryptedRequest) (items : List (Except String Bytes)) : List StreamMessage :=
  let flushNow done (flush : ReverseFlush) :=
    flushEncryptedPending host config answers request done flush.pending.length flush
  let arrived := (okItems items).foldl (fun flush chunk =>
    match fromUtf8 chunk with
    | some text => flushNow false { flush with pending := flush.pending ++ text.toList }
    | none => flush) ⟨[], 0, []⟩
  (flushNow true arrived).queued

/-- Handing a request to the sidecar, without its proof. -/
def relayToSidecar (host : Host) (proxy : ProxyState) (answers : Answers) (peer : PeerId)
    (request : EncryptedRequest) (nonce ciphertext : Bytes) : List SwarmOutput :=
  match forwardRequest host proxy.config proxy.registry answers request.reqId request.path
    request.roomId request.consumerEphemeralPk nonce ciphertext request.aadVersion none with
  | (calls, .ok response) => calls.map .forward ++ respond answers peer response
  | (calls, .error error) =>
    calls.map .forward ++ respond answers peer (encryptedErrorResponse request.reqId
      request.aadVersion ("Sidecar IPC error: " ++ error))

/-- Serving a decrypted request in this process: the acknowledgement, the call,
and the chunks that follow. An upstream error is only logged. -/
def serveSwarmEncrypted (host : Host) (proxy : ProxyState) (answers : Answers) (peer : PeerId)
    (request : EncryptedRequest) (body : Json) : List SwarmOutput × List StreamMessage :=
  let body := normalizeRemoteBody host proxy.config body
  let call : BackendCall := ⟨request.path, body, requestedModel body⟩
  (respond answers peer
      (.encryptedProxyResponse request.reqId [] [] request.aadVersion none (some true)) ++
      [.forward call],
    match callOutcome proxy.registry answers call with
    | some (.ok items) => reverseChunks host proxy.config answers request items
    | _ => [])

/-- `dispatch_swarm_encrypted_proxy_request`: what is done at once, and the
chunks to be sent to the consumer. -/
def dispatchSwarmEncryptedProxyRequest (host : Host) (proxy : ProxyState) (answers : Answers)
    (consumer : String) (peer : PeerId) (request : EncryptedRequest) (nonce ciphertext : Bytes) :
    List SwarmOutput × List StreamMessage :=
  let refuse error :=
    (respond answers peer (encryptedErrorResponse request.reqId request.aadVersion error), [])
  if host.inferenceSidecarEnabled then
    (relayToSidecar host proxy answers peer request nonce ciphertext, [])
  else if proxy.isPeerBlocked consumer then refuse "Peer is blocked"
  else match decryptInboundRequest host proxy.config request.roomId request.reqId request.path
    request.consumerEphemeralPk nonce ciphertext with
    | .error error => refuse error
    | .ok body => serveSwarmEncrypted host proxy answers peer request body

/-! ## What goes back -/

/-- A chunk of an encrypted answer. -/
def StreamMessage.IsStreamChunk : StreamMessage → Prop
  | .encryptedProxyStreamChunk .. => True
  | _ => False

private theorem flushEncryptedPending_chunks {host : Host} {config : ClientConfig}
    {answers : Answers} {request : EncryptedRequest} (done : Bool) (fuel : Nat) {flush : ReverseFlush}
    (chunks : ∀ msg ∈ flush.queued, msg.IsStreamChunk) :
    ∀ msg ∈ (flushEncryptedPending host config answers request done fuel flush).queued,
      msg.IsStreamChunk := by
  induction fuel generalizing flush with
  | zero => exact chunks
  | succ fuel ih =>
    unfold flushEncryptedPending
    split
    · exact chunks
    · split
      · dsimp only
        split
        · exact chunks
        · refine ih ?_
          intro msg member
          rcases List.mem_append.mp member with older | new
          · exact chunks msg older
          · obtain rfl := List.mem_singleton.mp new
            trivial
      · exact chunks

/-- An answer goes back as stream chunks and nothing else. -/
theorem reverseChunks_chunks {host : Host} {config : ClientConfig} {answers : Answers}
    {request : EncryptedRequest} {items : List (Except String Bytes)} :
    ∀ msg ∈ reverseChunks host config answers request items, msg.IsStreamChunk := by
  unfold reverseChunks
  refine flushEncryptedPending_chunks true _ ?_
  suffices ∀ (chunks : List Bytes) (flush : ReverseFlush),
      (∀ msg ∈ flush.queued, msg.IsStreamChunk) → ∀ msg ∈ (chunks.foldl (fun flush chunk =>
        match fromUtf8 chunk with
        | some text =>
          flushEncryptedPending host config answers request false
            { flush with pending := flush.pending ++ text.toList }.pending.length
            { flush with pending := flush.pending ++ text.toList }
        | none => flush) flush).queued, msg.IsStreamChunk from
    this (okItems items) ⟨[], 0, []⟩ (by simp)
  intro chunks
  induction chunks with
  | nil => exact fun _ kept => kept
  | cons chunk rest ih =>
    intro flush kept
    rw [List.foldl_cons]
    refine ih _ ?_
    split
    · exact flushEncryptedPending_chunks false _ kept
    · exact kept

theorem dispatchSwarmEncryptedProxyRequest_chunks {host : Host} {proxy : ProxyState}
    {answers : Answers} {consumer : String} {peer : PeerId} {request : EncryptedRequest}
    {nonce ciphertext : Bytes} :
    ∀ msg ∈ (dispatchSwarmEncryptedProxyRequest host proxy answers consumer peer request nonce
      ciphertext).2, msg.IsStreamChunk := by
  unfold dispatchSwarmEncryptedProxyRequest
  dsimp only
  split
  · simp
  · split
    · simp
    · split
      · simp
      · unfold serveSwarmEncrypted
        dsimp only
        split
        · exact reverseChunks_chunks
        · simp

end MtrxPeer
