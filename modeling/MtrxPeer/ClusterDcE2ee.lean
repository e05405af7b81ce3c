import MtrxPeer.InferenceSidecar
import Mathlib.Data.List.Sort
import Mathlib.Logic.Function.Basic

/-! End-to-end encryption over a cluster's data channels: sending an encrypted
request whole or in chunks, and serving it on the provider. -/
namespace MtrxPeer

open Function (update)

/-! ## State of a data channel -/

/-- What a consumer keeps of an encrypted request until its answer is complete. -/
structure EncryptedConsumerState where
  ephemeralSecret : Bytes
  path : String
  roomId : String
  providerPk : Bytes
  aadVersion : Nat
  deriving DecidableEq

/-- A chunked encrypted request the provider is still receiving. -/
structure PendingEncryptedIncomingRequest where
  path : String
  roomId : String
  consumerEphemeralPk : Bytes
  aadVersion : Nat
  auth : Option ProxyAuthProof
  /-- Sequence number, nonce and ciphertext in the order of arrival. -/
  chunks : List (Nat × Bytes × Bytes)

structure EncryptedStreamChunkData where
  seq : Nat
  nonce : Bytes
  ciphertext : Bytes
  done : Bool
  deriving DecidableEq

/-- An encrypted response stream: the next number to deliver and the chunks
that arrived ahead of it. -/
structure PendingEncryptedStream where
  path : String
  roomId : String
  consumerEphemeralSecret : Bytes
  providerPk : Bytes
  aadVersion : Nat
  nextSeq : Nat
  reorder : List EncryptedStreamChunkData
  deriving DecidableEq

/-- What a peer's request handlers share: the configuration, the servers and
the block list. -/
structure ProxyState where
  config : ClientConfig
  registry : Registry
  isPeerBlocked : String → Bool

/-- What a data-channel handler does to the outside. -/
inductive ChannelEffect where
  /-- An encrypted-family message sent on the channel. -/
  | stream (msg : StreamMessage)
  /-- A plaintext-family message sent on the channel. -/
  | data (msg : DataChannelMessage)
  /-- A call of `forward_chat_stream`. -/
  | forward (call : BackendCall)
  /-- A part of the answer handed to the local caller of a request. -/
  | deliver (reqId : String) (item : Except String String)

/-! ## Sending -/

def maxE2eePlaintextChunkBytes : Nat := 1024

def streamChunkBytes : Nat := 1024

/-- Whether `send_stream_message` gets a message out. -/
def canSend (answers : Answers) (msg : StreamMessage) : Bool :=
  answers.channelOpen && wireFits msg

def sendStreamMessage (answers : Answers) (msg : StreamMessage) : List ChannelEffect :=
  if canSend answers msg then [.stream msg] else []

/-- Messages sent in order until one fails: those that went out, and whether
all did. -/
def sendInOrder (answers : Answers) : List StreamMessage → List StreamMessage × Bool
  | [] => ([], true)
  | msg :: rest =>
    if canSend answers msg then
      let (sent, complete) := sendInOrder answers rest
      (msg :: sent, complete)
    else ([], false)

/-- The messages of a chunked encrypted request. -/
def chunkedRequest (P : Primitives) (config : ClientConfig) (answers : Answers)
    (peerId reqId path : String) (body : Json) (roomId : String) (providerPk : Bytes) :
    List StreamMessage :=
  let draw := answers.draws 1
  let chunks := chunkUtf8 body.toText maxE2eePlaintextChunkBytes
  .encryptedProxyRequestStart reqId path roomId (P.publicKey draw.secret) aadVersion
      (proxyAuthForRoom P draw.unixNow config peerId roomId) ::
    (chunks.mapIdx fun index chunk =>
      let seq := index % 2 ^ 32
      let enc := encryptProxyRequestChunk P draw.secret providerPk roomId reqId path seq
        (answers.draws (2 + index)).nonce (utf8 chunk)
      .encryptedProxyRequestChunk reqId seq enc.nonce enc.ciphertext aadVersion) ++
    [.encryptedProxyRequestEnd reqId]

/-- `send_encrypted_proxy_request`: what went out, and what the consumer must
keep if all of it did. -/
def sendEncryptedProxyRequest (host : Host) (config : ClientConfig) (answers : Answers)
    (peerId reqId path : String) (body : Json) (roomId : String) (catalogPk : Option String) :
    List StreamMessage × Except String EncryptedConsumerState :=
  let P := host.crypto
  match resolveProviderStaticPublic P config roomId catalogPk with
  | .error error => ([], .error error)
  | .ok providerPk =>
    match encryptProxyRequest P config (answers.draws 0) peerId reqId path body roomId providerPk with
    | .error error => ([], .error error)
    | .ok (msg, ephemeralSecret) =>
      if wireFits msg then
        if answers.channelOpen then ([msg], .ok ⟨ephemeralSecret, path, roomId, providerPk, aadVersion⟩)
        else ([], .error "data channel closed")
      else
        match sendInOrder answers
          (chunkedRequest P config answers peerId reqId path body roomId providerPk) with
        | (sent, true) =>
          (sent, .ok ⟨(answers.draws 1).secret, path, roomId, providerPk, aadVersion⟩)
        | (sent, false) => (sent, .error "data channel message not sent")

/-! ## Receiving a request -/

/-- `verify_encrypted_request_auth_async`: an error, if the request must be
refused. A missing proof and a room without a secret pass. -/
def verifyEncryptedRequestAuth (host : Host) (config : ClientConfig) (now : Nat)
    (auth : Option ProxyAuthProof) (roomId : String) : Option String :=
  match auth with
  | none => none
  | some proof =>
    match roomSecretForProxy host.crypto config roomId with
    | none => none
    | some secret =>
      if verifyProxyAuth host.crypto now proof secret proof.peerId then none
      else some "Proxy auth failed"

/-- Chunks in the order of their numbers, those of one number as they arrived. -/
def sortChunks (chunks : List (Nat × Bytes × Bytes)) : List (Nat × Bytes × Bytes) :=
  chunks.insertionSort fun a b => a.1 ≤ b.1

/-- The text of the chunks, or the first error. -/
def decryptChunks (host : Host) (config : ClientConfig) (reqId : String)
    (incoming : PendingEncryptedIncomingRequest) : List (Nat × Bytes × Bytes) →
    Except String String
  | [] => .ok ""
  | (seq, nonce, ciphertext) :: rest => do
    let part ← decryptInboundRequestChunk host config incoming.roomId reqId incoming.path seq
      incoming.consumerEphemeralPk nonce ciphertext
    let others ← decryptChunks host config reqId incoming rest
    return part ++ others

/-- The body of a chunked request, or the error that answers it. -/
def assembleBody (host : Host) (config : ClientConfig) (reqId : String)
    (incoming : PendingEncryptedIncomingRequest) : Except String Json :=
  match decryptChunks host config reqId incoming (sortChunks incoming.chunks) with
  | .error error => .error error
  | .ok text =>
    match Json.fromText text with
    | some body => .ok body
    | none => .error ("Invalid JSON body: " ++ host.jsonError (utf8 text))

/-! ## Admission -/

/-- The refusal both cluster dispatchers give to a request that is ready to be
served. `approved` is the approval the consumer's channel checks against. -/
def clusterRefusal (proxy : ProxyState) (clusterId consumer model : String)
    (approved : Option String) : Option String :=
  if proxy.isPeerBlocked consumer then some "Peer is blocked"
  else if !clusterAccepting proxy.config clusterId then some "Peer is in maintenance mode"
  else match approved with
    | some expected =>
      if expected ≠ model then some "Model does not match approved connection" else none
    | none => none

/-- The approval is taken out of the map once the sender is known not to be
blocked and the cluster to accept jobs, whatever the comparison then says. -/
def spendApproval (proxy : ProxyState) (clusterId consumer : String)
    (approvals : String → Option String) : String → Option String :=
  if proxy.isPeerBlocked consumer || !clusterAccepting proxy.config clusterId then approvals
  else update approvals consumer none

/-! ## Streaming the answer -/

/-- The state of an answer being streamed: the text still to be cut, how many
chunks were cut off, what went out, and whether sending still works. -/
structure Flush where
  pending : List Char
  seq : Nat
  sent : List ChannelEffect
  alive : Bool

/-- What a flush takes next: a full piece of `maxBytes`, or all that is left of
the last one. -/
def nextStreamChunk (maxBytes : Nat) (pending : List Char) : List Char :=
  if maxBytes ≤ (String.ofList pending).utf8ByteSize then fitting maxBytes pending else pending

/-- `flush_encrypted_response_chunks`. `fuel` bounds the cuts; the length of the
text is enough. -/
def flushEncryptedResponseChunks (host : Host) (config : ClientConfig) (answers : Answers)
    (roomId reqId path : String) (consumerEphemeralPk : Bytes) (aadVersion : Nat) (done : Bool) :
    (fuel : Nat) → Flush → Flush
  | 0, flush => flush
  | fuel + 1, flush =>
    if flush.pending = [] then flush
    else if streamChunkBytes ≤ (String.ofList flush.pending).utf8ByteSize ∨ done then
      let chunk := nextStreamChunk streamChunkBytes flush.pending
      let left := flush.pending.drop chunk.length
      let seq := flush.seq % 2 ^ 32
      match encryptProxyChunk host.crypto config roomId reqId path seq consumerEphemeralPk
        (answers.draws flush.seq).nonce (utf8 (String.ofList chunk)) with
      | .error _ => { flush with pending := left, alive := false }
      | .ok enc =>
        let msg : StreamMessage := .encryptedProxyStreamChunk reqId seq enc.nonce
          enc.ciphertext aadVersion (done && left = [])
        if canSend answers msg then
          flushEncryptedResponseChunks host config answers roomId reqId path consumerEphemeralPk
            aadVersion done fuel ⟨left, flush.seq + 1, flush.sent ++ [.stream msg], true⟩
        else { flush with pending := left, alive := false }
    else flush

/-- The answer of a call, streamed in encrypted chunks as it arrives. A stream that
breaks off ends like one that is over. -/
def streamEncryptedAnswer (host : Host) (config : ClientConfig) (answers : Answers)
    (roomId reqId path : String) (consumerEphemeralPk : Bytes) (aadVersion : Nat)
    (items : List (Except String Bytes)) : List ChannelEffect :=
  let flushNow done (flush : Flush) := flushEncryptedResponseChunks host config answers roomId
    reqId path consumerEphemeralPk aadVersion done flush.pending.length flush
  let arrived := (okItems items).foldl (fun flush chunk =>
    if flush.alive then
      flushNow false { flush with
        pending := flush.pending ++ ((fromUtf8 chunk).getD "").toList }
    else flush) ⟨[], 0, [], true⟩
  if arrived.alive then (flushNow true arrived).sent else arrived.sent

/-! ## Dispatch -/

/-- The request's parts that outlive its decryption. -/
structure EncryptedRequest where
  reqId : String
  path : String
  roomId : String
  consumerEphemeralPk : Bytes
  aadVersion : Nat
  auth : Option ProxyAuthProof

/-- `send_encrypted_stream_error`. -/
def sendEncryptedStreamError (answers : Answers) (request : EncryptedRequest) (error : String) :
    List ChannelEffect :=
  sendStreamMessage answers (encryptedErrorResponse request.reqId request.aadVersion error)

/-- Serving an admitted request in this process: the acknowledgement, the call
and its streamed answer. -/
def serveEncrypted (host : Host) (proxy : ProxyState) (answers : Answers)
    (request : EncryptedRequest) (body : Json) : List ChannelEffect :=
  let ack : StreamMessage :=
    .encryptedProxyResponse request.reqId [] [] request.aadVersion none (some true)
  if canSend answers ack then
    let call : BackendCall :=
      ⟨request.path, normalizeRemoteBody host proxy.config body, requestedModel body⟩
    .stream ack :: .forward call :: match callOutcome proxy.registry answers call with
      | none => []
      | some (.error error) => sendEncryptedStreamError answers request ("Proxy Error: " ++ error)
      | some (.ok items) => streamEncryptedAnswer host proxy.config answers request.roomId
          request.reqId request.path request.consumerEphemeralPk request.aadVersion items
  else []

/-- The sidecar's part: it is handed the request without its ciphertext. -/
def serveBySidecar (host : Host) (proxy : ProxyState) (answers : Answers)
    (request : EncryptedRequest) : List ChannelEffect :=
  match forwardRequest host proxy.config proxy.registry answers request.reqId request.path
    request.roomId request.consumerEphemeralPk [] [] request.aadVersion request.auth with
  | (calls, .ok response) => calls.map .forward ++ sendStreamMessage answers response
  | (calls, .error error) =>
    calls.map .forward ++ sendEncryptedStreamError answers request ("Vault IPC error: " ++ error)

/-- `dispatch_cluster_encrypted_proxy_body`: the approvals afterwards, and what
was done. -/
def dispatchClusterEncryptedProxyBody (host : Host) (proxy : ProxyState) (answers : Answers)
    (clusterId consumer : String) (approvals : String → Option String)
    (request : EncryptedRequest) (body : Json) :
    (String → Option String) × List ChannelEffect :=
  match verifyEncryptedRequestAuth host proxy.config answers.unixNow request.auth request.roomId with
  | some error => (approvals, sendEncryptedStreamError answers request error)
  | none =>
    if host.inferenceSidecarEnabled then (approvals, serveBySidecar host proxy answers request)
    else
      (spendApproval proxy clusterId consumer approvals,
        match clusterRefusal proxy clusterId consumer (requestedModel body) (approvals consumer) with
        | some error => sendEncryptedStreamError answers request error
        | none => serveEncrypted host proxy answers request body)

/-- What is done with the body of an encrypted request once it was recovered, or
with the error of recovering it. -/
def dispatchRecovered (host : Host) (proxy : ProxyState) (answers : Answers)
    (clusterId consumer : String) (approvals : String → Option String)
    (request : EncryptedRequest) : Except String Json →
    (String → Option String) × List ChannelEffect
  | .error error => (approvals, sendEncryptedStreamError answers request error)
  | .ok body =>
    dispatchClusterEncryptedProxyBody host proxy answers clusterId consumer approvals request body

/-! ## Receiving an encrypted stream -/

inductive EncryptedStreamChunkOutcome where
  | waiting
  | progress (parts : List String)
  | finished (parts : List String)
  deriving DecidableEq

/-- `init_pending_encrypted_stream`. -/
def initPendingEncryptedStream (state : EncryptedConsumerState) : PendingEncryptedStream :=
  ⟨state.path, state.roomId, state.ephemeralSecret, state.providerPk, state.aadVersion, 0, []⟩

/-- Delivery of the chunks that are next in order. A stream that finished is
gone; an error leaves what was not decrypted. `fuel` bounds the chunks. -/
def drainEncryptedStream (host : Host) (config : ClientConfig) (reqId : String) :
    (fuel : Nat) → PendingEncryptedStream → (parts : List String) →
    Except String EncryptedStreamChunkOutcome × Option PendingEncryptedStream
  | 0, stream, parts => (.ok (if parts = [] then .waiting else .progress parts), some stream)
  | fuel + 1, stream, parts =>
    match stream.reorder.find? fun chunk => chunk.seq = stream.nextSeq with
    | none => (.ok (if parts = [] then .waiting else .progress parts), some stream)
    | some chunk =>
      let left := { stream with
        reorder := stream.reorder.filter fun other => other.seq ≠ stream.nextSeq }
      match decryptProxyChunk host config reqId stream.path chunk.seq stream.roomId
        stream.consumerEphemeralSecret stream.providerPk chunk.nonce chunk.ciphertext with
      | .error error => (.error error, some left)
      | .ok part =>
        if chunk.done then (.ok (.finished (parts ++ [part])), none)
        else drainEncryptedStream host config reqId fuel { left with nextSeq := stream.nextSeq + 1 }
          (parts ++ [part])

/-- `handle_encrypted_stream_chunk`. -/
def handleEncryptedStreamChunk (host : Host) (config : ClientConfig) (reqId : String)
    (stream : Option PendingEncryptedStream) (chunk : EncryptedStreamChunkData) :
    Except String EncryptedStreamChunkOutcome × Option PendingEncryptedStream :=
  match stream with
  | none => (.error "missing encrypted stream state", none)
  | some stream =>
    let reorder := chunk :: stream.reorder.filter fun other => other.seq ≠ chunk.seq
    drainEncryptedStream host config reqId reorder.length { stream with reorder } []

end MtrxPeer
