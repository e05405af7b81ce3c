import MtrxPeer.DataChannel
import MtrxPeer.P2pProxy
import MtrxPeer.Runs

/-! A swarm manager as a machine: the requests, responses and gossip of its
libp2p peers, local commands, and changes of the connections. Each event is
handled as one step, with the tasks it spawns. -/
namespace MtrxPeer

open Function (update)

/-! ## State -/

/-- What is known of a peer from the catalog it announced. -/
structure CachedPeerRecord where
  peerId : String
  models : List Json
  peerInfo : Option Json
  gpuHost : Option Json
  acceptingJobs : Bool
  listenAddrs : List String
  teeCapable : Bool
  trustLevel : Option String
  gpuModel : Option String
  providerStaticPk : Option String

/-- The name libp2p gives to a request sent. -/
abbrev OutboundRequestId := Nat

/-- A local request on its way to a provider. -/
structure PendingOutboundProxy where
  reqId : String
  path : String
  body : Json
  targetMtrxaiPeer : String
  libp2pPeer : PeerId
  attempts : Nat
  roomId : Option String
  consumerEphemeralSecret : Option Bytes
  providerStaticPublic : Option Bytes
  useE2ee : Bool

/-- An encrypted response stream: the line not yet complete, the next number to
deliver and the chunks that arrived ahead of it. -/
structure PendingEncryptedStreamCtx where
  path : String
  roomId : String
  consumerEphemeralSecret : Bytes
  providerStaticPublic : Bytes
  lineBuf : String
  nextSeq : Nat
  reorder : List EncryptedStreamChunkData

/-- The state of a swarm manager and of what it shares with the process. -/
structure SwarmState where
  proxy : ProxyState
  connected : PeerId → Bool
  handledSwarmPeers : PeerId → Bool
  peerCache : String → Option CachedPeerRecord
  mtrxaiToLibp2p : String → Option PeerId
  libp2pToMtrxai : PeerId → Option String
  /-- The number of the next request of this process. -/
  nextReqId : Nat
  /-- The requests some local caller waits for. -/
  pendingProxyByReqId : String → Bool
  pendingProxyByOutboundId : OutboundRequestId → Option PendingOutboundProxy
  pendingOutboundProxies : List PendingOutboundProxy
  pendingIncomingProxy : String → Option PendingIncomingProxyRequest
  pendingEncryptedStreams : String → Option PendingEncryptedStreamCtx
  pendingEncryptedStreamEarly : String → List EncryptedStreamChunkData
  pendingReverseProxies : PeerId → List StreamMessage

/-- How peer ids come out of libp2p: the one an address text ends in, and the
key that is derived from a mtrxAI peer id. -/
structure Libp2pIds where
  peerIdFromAddr : String → Option PeerId
  legacyPeerId : String → PeerId

/-- A swarm manager's identity. -/
structure SwarmManager where
  host : Host
  ids : Libp2pIds
  peerId : String
  localPeerId : PeerId
  swarmId : String
  p2pToken : String
  isBootnode : PeerId → Bool

/-- A request of a local caller. -/
structure ProxyRequestCommand where
  targetPeer : Option String
  model : String
  path : String
  body : Json
  clusterId : Option String
  swarmId : Option String

/-- What one sending draws: keys and nonce, and the name of the request. -/
structure Sending where
  draw : Draw
  outboundId : OutboundRequestId

/-- What happens to a swarm manager. -/
inductive SwarmEvent where
  /-- A request of a peer. -/
  | request (peer : PeerId) (msg : StreamMessage) (answers : Answers)
  /-- The response of a peer to a request sent to it. -/
  | response (peer : PeerId) (outboundId : OutboundRequestId) (msg : StreamMessage)
  /-- `CatalogUpdate` by gossip; libp2p has checked who signed it. -/
  | gossip (source : PeerId) (record : CatalogRecord)
  /-- A local command; `ranked` are the providers of its model, the best first. -/
  | proxyCommand (cmd : ProxyRequestCommand) (ranked : List String) (sending : Sending)
  | outboundFailure (outboundId : OutboundRequestId) (retryable : Bool) (error : String)
      (sending : Sending)
  /-- A connection is there; `cached` are the keys of the cache as they come, and
  `sendings` what the queued requests draw. -/
  | connectionEstablished (peer : PeerId) (cached : List String) (sendings : String → Sending)
  /-- A connection is gone, which may not have been the only one to its peer. -/
  | connectionClosed (peer : PeerId) (connected : Bool)
  /-- The peers of the swarm and their addresses, from the lobby. -/
  | presence (peers : List (String × List String))
  /-- The configuration, the servers or the block list change. -/
  | proxyChanged (proxy : ProxyState)
  /-- Other managers of this process number requests. -/
  | requestsNumbered (count : Nat)

variable (m : SwarmManager)

/-! ## Who is who -/

/-- `resolve_libp2p_peer_id`. -/
def resolveLibp2pPeerId (ids : Libp2pIds) (listenAddrs : List String) (mtrxaiPeerId : String) :
    PeerId :=
  (listenAddrs.findSome? ids.peerIdFromAddr).getD (ids.legacyPeerId mtrxaiPeerId)

/-- The name a connection's peer is served under. -/
def SwarmState.nameOf (s : SwarmState) (peer : PeerId) : String := (s.libp2pToMtrxai peer).getD peer

/-- Both maps take a binding; whatever they held for either side is replaced. -/
def SwarmState.bindPeer (s : SwarmState) (mtrxai : String) (peer : PeerId) : SwarmState :=
  { s with
    mtrxaiToLibp2p := update s.mtrxaiToLibp2p mtrxai (some peer)
    libp2pToMtrxai := update s.libp2pToMtrxai peer (some mtrxai) }

/-- `dial_mtrxai_peer`, as far as it changes the manager. -/
def dialMtrxaiPeer (s : SwarmState) (mtrxai : String) (listenAddrs : List String) : SwarmState :=
  s.bindPeer mtrxai (resolveLibp2pPeerId m.ids listenAddrs mtrxai)

/-- The addresses in the cache. -/
def SwarmState.cachedAddrs (s : SwarmState) (mtrxai : String) : List String :=
  ((s.peerCache mtrxai).map CachedPeerRecord.listenAddrs).getD []

/-- Dialing with the addresses in the cache, if there are any. -/
def dialCached (s : SwarmState) (mtrxai : String) : SwarmState :=
  if s.cachedAddrs mtrxai = [] then s else dialMtrxaiPeer m s mtrxai (s.cachedAddrs mtrxai)

/-- The identity `resolve_libp2p_peer` answers with. -/
def resolvedPeer (s : SwarmState) (mtrxai : String) : PeerId :=
  (s.mtrxaiToLibp2p mtrxai).getD (resolveLibp2pPeerId m.ids (s.cachedAddrs mtrxai) mtrxai)

/-- `resolve_libp2p_peer`: an identity that was not in the map is entered. -/
def resolveLibp2pPeer (s : SwarmState) (mtrxai : String) : SwarmState :=
  if (s.mtrxaiToLibp2p mtrxai).isSome then s else s.bindPeer mtrxai (resolvedPeer m s mtrxai)

/-! ## Catalogs -/

def CatalogRecord.cached (record : CatalogRecord) : CachedPeerRecord where
  peerId := record.peerId
  models := record.models
  peerInfo := record.peerInfo
  gpuHost := record.gpuHost
  acceptingJobs := record.acceptingJobs
  listenAddrs := record.listenAddrs
  teeCapable := record.teeCapable.getD false
  trustLevel := record.trustLevel
  gpuModel := record.gpuModel
  providerStaticPk := record.providerStaticPk

/-- `apply_remote_catalog`. -/
def applyRemoteCatalog (s : SwarmState) (record : CatalogRecord) : SwarmState :=
  if record.peerId = m.peerId then s
  else
    let s := dialMtrxaiPeer m s record.peerId record.listenAddrs
    { s with peerCache := update s.peerCache record.peerId (some record.cached) }

/-- The peers of the swarm that the lobby knows. -/
def syncPresence (s : SwarmState) : List (String × List String) → SwarmState
  | [] => s
  | (mtrxai, listenAddrs) :: rest =>
    if mtrxai = m.peerId then syncPresence s rest
    else
      let s := if listenAddrs = [] then s else { s with
        peerCache := update s.peerCache mtrxai
          ((s.peerCache mtrxai).map fun record => { record with listenAddrs }) }
      if s.connected (resolveLibp2pPeerId m.ids listenAddrs mtrxai) then syncPresence s rest
      else syncPresence (dialMtrxaiPeer m s mtrxai listenAddrs) rest

/-! ## Callers -/

/-- Handing something to the caller of a request, if one still waits. -/
def deliverLocal (s : SwarmState) (reqId : String) (item : Except String String) :
    List SwarmOutput :=
  if s.pendingProxyByReqId reqId then [.deliver reqId item] else []

/-- `pending_proxy_by_req_id.remove`. -/
def SwarmState.dropCaller (s : SwarmState) (reqId : String) : SwarmState :=
  { s with pendingProxyByReqId := update s.pendingProxyByReqId reqId false }

/-- The encrypted stream of a request and the chunks kept for it are forgotten. -/
def SwarmState.dropStreams (s : SwarmState) (reqId : String) : SwarmState :=
  { s with
    pendingEncryptedStreams := update s.pendingEncryptedStreams reqId none
    pendingEncryptedStreamEarly := update s.pendingEncryptedStreamEarly reqId [] }

/-- `fail_proxy_request`. -/
def failProxyRequest (s : SwarmState) (reqId error : String) : SwarmState × List SwarmOutput :=
  (s.dropCaller reqId, deliverLocal s reqId (.error error))

/-! ## Lines -/

/-- The complete lines of a text, each with its newline, and what follows them. -/
def cutLines : List Char → List (List Char) × List Char
  | [] => ([], [])
  | c :: rest =>
    let (complete, tail) := cutLines rest
    if c = '\n' then ([c] :: complete, tail)
    else match complete with
      | [] => ([], c :: tail)
      | line :: others => ((c :: line) :: others, tail)

/-- A line without the newline, or carriage return and newline, it ends in. -/
def stripLine (line : List Char) : List Char :=
  match line.reverse with
  | '\n' :: '\r' :: rest => rest.reverse
  | '\n' :: rest => rest.reverse
  | _ => line

/-- `str::lines`. -/
def lines (text : String) : List String :=
  let (complete, tail) := cutLines text.toList
  (complete.map stripLine ++ if tail = [] then [] else [tail]).map String.ofList

/-- What a whole response text hands its caller. -/
def responseLines (body : String) : List String :=
  if body = "" then [body]
  else ((lines body).filter fun line => line ≠ "").map fun line => line ++ "\n"

/-- The complete lines of a buffer, and what follows the last of them. -/
def takeLines (buffer : String) : List String × String :=
  let (complete, tail) := cutLines buffer.toList
  (complete.map String.ofList, String.ofList tail)

theorem cutLines_flatten (text : List Char) : (cutLines text).1.flatten ++ (cutLines text).2 = text := by
  induction text with
  | nil => rfl
  | cons c rest ih =>
    unfold cutLines
    split
    rename_i complete tail cut
    rw [cut] at ih
    split
    · rw [List.flatten_cons, List.append_assoc, ih]
      rfl
    · cases complete with
      | nil => simpa using ih
      | cons line others => simpa using ih

/-- `trim().is_empty()`. -/
def isBlank (text : String) : Bool := text.toList.all isWhitespace

/-! ## Encrypted streams -/

/-- How draining a stream ends. -/
inductive Drained where
  | waiting (ctx : PendingEncryptedStreamCtx)
  | finished
  | failed (error : String)

/-- What is handed over of a stream's last buffer. -/
def streamTail (buffer : String) : List String :=
  if isBlank buffer then []
  else [if buffer.toList.getLast? = some '\n' then buffer else buffer ++ "\n"]

/-- The loop of `drain_encrypted_stream_chunks`: the lines handed over and how it
ends. `fuel` bounds the chunks. -/
def drainEncryptedStreamChunks (host : Host) (config : ClientConfig) (reqId : String) :
    (fuel : Nat) → PendingEncryptedStreamCtx → List String × Drained
  | 0, ctx => ([], .waiting ctx)
  | fuel + 1, ctx =>
    match ctx.reorder.find? fun chunk => chunk.seq = ctx.nextSeq with
    | none => ([], .waiting ctx)
    | some chunk =>
      match decryptProxyChunk host config reqId ctx.path chunk.seq ctx.roomId
        ctx.consumerEphemeralSecret ctx.providerStaticPublic chunk.nonce chunk.ciphertext with
      | .error error => ([], .failed error)
      | .ok part =>
        let (complete, lineBuf) := takeLines (ctx.lineBuf ++ part)
        let parts := complete.filter fun line => !isBlank line
        if chunk.done then (parts ++ streamTail lineBuf, .finished)
        else
          let (later, drained) := drainEncryptedStreamChunks host config reqId fuel { ctx with
            lineBuf
            nextSeq := chunk.seq + 1
            reorder := ctx.reorder.filter fun other => other.seq ≠ ctx.nextSeq }
          (parts ++ later, drained)

/-- The chunks of two maps, those of the second where both have one. -/
def mergeChunks (chunks others : List EncryptedStreamChunkData) : List EncryptedStreamChunkData :=
  others ++ chunks.filter fun chunk => others.all fun other => other.seq ≠ chunk.seq

/-- Draining the stream of a request that some caller waits for. -/
def drainStream (s : SwarmState) (reqId : String) (ctx : PendingEncryptedStreamCtx) :
    SwarmState × List SwarmOutput :=
  let (parts, drained) :=
    drainEncryptedStreamChunks m.host s.proxy.config reqId ctx.reorder.length ctx
  let delivered := parts.map fun part => SwarmOutput.deliver reqId (.ok part)
  match drained with
  | .waiting ctx =>
    ({ s with pendingEncryptedStreams := update s.pendingEncryptedStreams reqId (some ctx) },
      delivered)
  | .finished => ((s.dropCaller reqId).dropStreams reqId, delivered)
  | .failed error =>
    ((s.dropCaller reqId).dropStreams reqId, delivered ++ [.deliver reqId (.error error)])

/-- `handle_encrypted_stream_chunk`. -/
def onEncryptedStreamChunk (s : SwarmState) (reqId : String) (chunk : EncryptedStreamChunkData) :
    SwarmState × List SwarmOutput :=
  if s.pendingProxyByReqId reqId then
    match s.pendingEncryptedStreams reqId with
    | some ctx => drainStream m s reqId { ctx with reorder := mergeChunks ctx.reorder [chunk] }
    | none =>
      ({ s with
        pendingEncryptedStreamEarly := update s.pendingEncryptedStreamEarly reqId
          (mergeChunks (s.pendingEncryptedStreamEarly reqId) [chunk]) }, [])
  else (s, [])

/-! ## Local requests -/

def maxProxySendAttempts : Nat := 8

def maxProxyBodyBytes : Nat := 512 * 1024

/-- `pending_outbound_proxies.push`. -/
def SwarmState.enqueue (s : SwarmState) (pending : PendingOutboundProxy) : SwarmState :=
  { s with pendingOutboundProxies := s.pendingOutboundProxies ++ [pending] }

/-- `pending_proxy_by_outbound_id.insert`. -/
def SwarmState.noteSent (s : SwarmState) (id : OutboundRequestId) (pending : PendingOutboundProxy) :
    SwarmState :=
  { s with pendingProxyByOutboundId := update s.pendingProxyByOutboundId id (some pending) }

/-- `pending_proxy_by_outbound_id.remove`. -/
def SwarmState.dropSent (s : SwarmState) (id : OutboundRequestId) : SwarmState :=
  { s with pendingProxyByOutboundId := update s.pendingProxyByOutboundId id none }

/-- The message that carries a request, and what is kept of it. -/
def outboundMessage (config : ClientConfig) (catalogPk : Option String) (draw : Draw)
    (pending : PendingOutboundProxy) : Except String (StreamMessage × PendingOutboundProxy) :=
  if pending.useE2ee then
    match pending.roomId with
    | none => .error "E2EE enabled but room_id missing"
    | some roomId =>
      match resolveProviderStaticPublic m.host.crypto config roomId catalogPk with
      | .error error => .error ("E2EE provider key resolve failed: " ++ error)
      | .ok providerPk =>
        match encryptProxyRequest m.host.crypto config draw m.peerId pending.reqId pending.path
          pending.body roomId providerPk with
        | .error error => .error ("E2EE encrypt failed: " ++ error)
        | .ok (msg, secret) => .ok (msg, { pending with
            consumerEphemeralSecret := some secret
            providerStaticPublic := some providerPk })
  else .ok (.proxyRequest pending.reqId pending.path pending.body, pending)

/-- The streams forgotten before a request is sent again. -/
def forgetStreams (s : SwarmState) (pending : PendingOutboundProxy) : SwarmState :=
  if pending.useE2ee && pending.roomId.isSome then s.dropStreams pending.reqId else s

/-- `send_outbound_proxy`. -/
def sendOutboundProxy (s : SwarmState) (pending : PendingOutboundProxy) (sending : Sending) :
    SwarmState × List SwarmOutput :=
  let peer := resolvedPeer m s pending.targetMtrxaiPeer
  let s := resolveLibp2pPeer m s pending.targetMtrxaiPeer
  let pending := { pending with libp2pPeer := peer }
  if !s.connected peer then (s.enqueue pending, [])
  else
    let s := forgetStreams s pending
    match outboundMessage m s.proxy.config
      ((s.peerCache pending.targetMtrxaiPeer).bind CachedPeerRecord.providerStaticPk)
      sending.draw pending with
    | .error error => failProxyRequest s pending.reqId error
    | .ok (msg, kept) => (s.noteSent sending.outboundId kept, [.send peer msg])

/-- The provider of a command, or why it is turned down. -/
def commandTarget (s : SwarmState) (cmd : ProxyRequestCommand) (ranked : List String) :
    Except String String :=
  match cmd.swarmId.filter (· ≠ m.swarmId), cmd.targetPeer, ranked with
  | some other, _, _ =>
    .error ("Swarm id mismatch (cmd=" ++ other ++ ", local=" ++ m.swarmId ++ ")")
  | none, some peer, _ =>
    if s.proxy.isPeerBlocked peer then .error ("Peer " ++ peer ++ " is blocked") else .ok peer
  | none, none, best :: _ => .ok best
  | none, none, [] => .error ("No swarm peers for model " ++ cmd.model)

/-- The id of the next request. -/
def SwarmState.freshReqId (s : SwarmState) : String := "p2p_" ++ toString s.nextReqId

/-- A caller is registered under the next id. -/
def SwarmState.registerCaller (s : SwarmState) : SwarmState :=
  ({ s with
    nextReqId := s.nextReqId + 1
    pendingProxyByReqId := update s.pendingProxyByReqId s.freshReqId true }).dropStreams s.freshReqId

/-- The request of a command, with the state of the manager at its numbering. -/
def commandRequest (s : SwarmState) (cmd : ProxyRequestCommand) (target : String) :
    PendingOutboundProxy :=
  let roomId := roomIdForProxy m.host.crypto s.proxy.config cmd.clusterId cmd.swarmId
  ⟨s.freshReqId, cmd.path, cmd.body, target, resolvedPeer m s target, 0, roomId, none, none,
    m.host.e2eeEnabled && roomId.isSome⟩

/-- A numbered request is sent, or waits for a connection. -/
def submitRequest (s : SwarmState) (pending : PendingOutboundProxy) (sending : Sending) :
    SwarmState × List SwarmOutput :=
  if s.connected pending.libp2pPeer then sendOutboundProxy m s pending sending
  else if s.cachedAddrs pending.targetMtrxaiPeer = [] then
    failProxyRequest s pending.reqId
      ("Peer " ++ pending.targetMtrxaiPeer ++ " has no P2P listen addresses yet")
  else ((dialCached m s pending.targetMtrxaiPeer).enqueue pending, [])

/-- The binding of a command's provider, and a first try to reach it. -/
def locateProvider (s : SwarmState) (target : String) : SwarmState :=
  let peer := resolvedPeer m s target
  let s := s.bindPeer target peer
  if s.connected peer then s else dialCached m s target

/-- `handle_proxy_cmd`. The request keeps the identity its provider had before
the dialing. -/
def onProxyCommand (s : SwarmState) (cmd : ProxyRequestCommand) (ranked : List String)
    (sending : Sending) : SwarmState × List SwarmOutput :=
  match commandTarget m s cmd ranked with
  | .error error => (s, [.reject error])
  | .ok target =>
    let located := locateProvider m s target
    if maxProxyBodyBytes < cmd.body.toText.utf8ByteSize then
      (located, [.reject "Request body too large for swarm proxy"])
    else submitRequest m located.registerCaller (commandRequest m s cmd target) sending

/-- `handle_proxy_outbound_failure`. -/
def onOutboundFailure (s : SwarmState) (id : OutboundRequestId) (retryable : Bool) (error : String)
    (sending : Sending) : SwarmState × List SwarmOutput :=
  match s.pendingProxyByOutboundId id with
  | none => (s, [])
  | some pending =>
    let s := s.dropSent id
    if retryable && pending.attempts < maxProxySendAttempts then
      let pending := { pending with attempts := pending.attempts + 1 }
      if s.connected pending.libp2pPeer then sendOutboundProxy m s pending sending
      else (s.enqueue pending, [])
    else failProxyRequest s pending.reqId ("Swarm proxy request failed: " ++ error)

/-- `flush_pending_proxies_for_peer` over the requests that waited. -/
def flushPendingProxies (s : SwarmState) (peer : PeerId) (sendings : String → Sending) :
    List PendingOutboundProxy → SwarmState × List SwarmOutput
  | [] => (s, [])
  | pending :: rest =>
    let resolved := resolvedPeer m s pending.targetMtrxaiPeer
    let s := resolveLibp2pPeer m s pending.targetMtrxaiPeer
    let pending := { pending with libp2pPeer := resolved }
    let (s, sent) :=
      if resolved = peer then sendOutboundProxy m s pending (sendings pending.reqId)
      else (s.enqueue pending, [])
    let (s, later) := flushPendingProxies s peer sendings rest
    (s, sent ++ later)

/-! ## Reverse chunks -/

/-- `send_or_queue_reverse_proxy`, for the chunks of one answer. -/
def sendReverse (s : SwarmState) (peer : PeerId) (msgs : List StreamMessage) :
    SwarmState × List SwarmOutput :=
  if s.connected peer then (s, msgs.map (.send peer))
  else if msgs = [] then (s, [])
  else
    let s := match s.libp2pToMtrxai peer with
      | some mtrxai => dialCached m s mtrxai
      | none => s
    ({ s with
      pendingReverseProxies := update s.pendingReverseProxies peer
        (s.pendingReverseProxies peer ++ msgs) }, [])

/-- `pending_reverse_proxies.remove`. -/
def SwarmState.dropReverse (s : SwarmState) (peer : PeerId) : SwarmState :=
  { s with pendingReverseProxies := update s.pendingReverseProxies peer [] }

/-! ## Requests of peers -/

/-- `verify_proxy_auth` against the swarm's token, for the peer a proof names. -/
def verifySwarmAuth (now : Nat) (proof : ProxyAuthProof) : Bool :=
  verifyProxyAuth m.host.crypto now proof m.p2pToken proof.peerId

/-- An `EncryptedProxyRequest` whose proof passed. The chunks queued for the
consumer are dropped by the task that serves a request in this process. -/
def serveEncryptedRequest (s : SwarmState) (peer : PeerId) (answers : Answers)
    (request : EncryptedRequest) (nonce ciphertext : Bytes) : SwarmState × List SwarmOutput :=
  let consumer := s.nameOf peer
  let s := s.bindPeer consumer peer
  let s := if m.host.inferenceSidecarEnabled then s else s.dropReverse peer
  let (outputs, chunks) := dispatchSwarmEncryptedProxyRequest m.host s.proxy answers consumer peer
    request nonce ciphertext
  let (s, sent) := sendReverse m s peer chunks
  (s, outputs ++ sent)

/-- The end of a chunked plaintext request. -/
def onProxyRequestEnd (s : SwarmState) (peer : PeerId) (reqId : String) (answers : Answers) :
    SwarmState × List SwarmOutput :=
  match s.pendingIncomingProxy reqId with
  | none => (s, respond answers peer (.proxyResponse reqId "" (some "Unknown proxy request")))
  | some pending =>
    ({ s with pendingIncomingProxy := update s.pendingIncomingProxy reqId none },
      match assemblePlaintext pending with
      | some body => dispatchSwarmProxyRequest m.host s.proxy answers m.swarmId (s.nameOf peer) peer
          reqId pending.path body
      | none => respond answers peer (.proxyResponse reqId ""
          (some ("Invalid JSON body: " ++ m.host.jsonError (utf8 (plaintextOf pending))))))

/-- `handle_proxy_rr_message` on a request. -/
def onSwarmRequest (s : SwarmState) (peer : PeerId) (msg : StreamMessage) (answers : Answers) :
    SwarmState × List SwarmOutput :=
  let pong := respond answers peer .pong
  match msg with
  | .catalogSync record => (applyRemoteCatalog m s record, pong)
  | .proxyRequest reqId path body =>
    if m.host.e2eeEnabled then
      (s, respond answers peer
        (.proxyResponse reqId "" (some "Plaintext proxy rejected; upgrade to E2EE v2")))
    else (s, dispatchSwarmProxyRequest m.host s.proxy answers m.swarmId (s.nameOf peer) peer
      reqId path body)
  | .encryptedProxyRequest reqId path roomId pk nonce ciphertext aadVersion auth =>
    match auth with
    | none =>
      (s, respond answers peer (encryptedErrorResponse reqId aadVersion "Proxy auth required"))
    | some proof =>
      if verifySwarmAuth m answers.unixNow proof then
        serveEncryptedRequest m s peer answers ⟨reqId, path, roomId, pk, aadVersion, some proof⟩
          nonce ciphertext
      else (s, respond answers peer (encryptedErrorResponse reqId aadVersion "Proxy auth failed"))
  | .encryptedProxyStreamChunk reqId seq nonce ciphertext _ done =>
    let (s, delivered) := onEncryptedStreamChunk m s reqId ⟨seq, nonce, ciphertext, done⟩
    (s, delivered ++ pong)
  | .proxyAuth proof =>
    (s, if verifySwarmAuth m answers.unixNow proof then pong
      else respond answers peer (.proxyResponseError "" "Proxy auth failed"))
  | .proxyRequestStart reqId path =>
    ({ s with pendingIncomingProxy := update s.pendingIncomingProxy reqId (some ⟨path, []⟩) }, pong)
  | .proxyRequestChunk reqId seq chunk =>
    ({ s with
      pendingIncomingProxy := update s.pendingIncomingProxy reqId
        ((s.pendingIncomingProxy reqId).map fun pending =>
          { pending with chunks := pending.chunks ++ [(seq, chunk)] }) }, pong)
  | .proxyRequestEnd reqId => onProxyRequestEnd m s peer reqId answers
  | .proxyResponseChunk reqId chunk => (s, deliverLocal s reqId (.ok chunk) ++ pong)
  | .proxyResponseDone reqId => (s.dropCaller reqId, pong)
  | .proxyResponseError reqId error =>
    (s.dropCaller reqId, deliverLocal s reqId (.error error) ++ pong)
  | _ => (s, pong)

/-! ## Responses of peers -/

/-- The parts of a request that its encrypted answer is read with, or what is
missing; `what` names the reading. -/
def answerKeys (pending : PendingOutboundProxy) (what : String) :
    Except String (String × Bytes × Bytes) :=
  match pending.roomId, pending.consumerEphemeralSecret, pending.providerStaticPublic with
  | none, _, _ => .error ("missing room_id for " ++ what)
  | some _, none, _ => .error ("missing ephemeral secret for " ++ what)
  | some _, some _, none => .error ("missing provider static key for " ++ what)
  | some roomId, some secret, some providerPk => .ok (roomId, secret, providerPk)

/-- The acknowledgement of an encrypted stream. -/
def onStreamAck (s : SwarmState) (reqId : String) (pending : PendingOutboundProxy) :
    SwarmState × List SwarmOutput :=
  match answerKeys pending "encrypted stream" with
  | .error error => failProxyRequest s reqId error
  | .ok (roomId, secret, providerPk) =>
    let ctx : PendingEncryptedStreamCtx := ⟨pending.path, roomId, secret, providerPk, "", 0,
      s.pendingEncryptedStreamEarly reqId⟩
    let s := { s with pendingEncryptedStreamEarly := update s.pendingEncryptedStreamEarly reqId [] }
    if s.pendingProxyByReqId reqId then drainStream m s reqId ctx
    else ({ s with
      pendingEncryptedStreams := update s.pendingEncryptedStreams reqId (some ctx) }, [])

/-- A whole encrypted response, for a caller that waits. -/
def onEncryptedResponse (s : SwarmState) (reqId : String) (pending : Option PendingOutboundProxy)
    (payload : EncryptedPayload) : SwarmState × List SwarmOutput :=
  let read : Except String String :=
    match pending with
    | none => .error "missing outbound proxy state"
    | some pending => do
      let (roomId, secret, providerPk) ← answerKeys pending "decrypt"
      decryptProxyResponse m.host s.proxy.config reqId pending.path roomId secret providerPk payload
        none
  match read with
  | .error error => failProxyRequest s reqId error
  | .ok body =>
    (s.dropCaller reqId, (responseLines body).flatMap fun line => deliverLocal s reqId (.ok line))

/-- `handle_proxy_rr_message` on a response. libp2p only hands over what the peer
that was asked answers. -/
def onSwarmResponse (s : SwarmState) (peer : PeerId) (id : OutboundRequestId) (msg : StreamMessage) :
    SwarmState × List SwarmOutput :=
  let pending := s.pendingProxyByOutboundId id
  if pending.any fun sent => sent.libp2pPeer ≠ peer then (s, [])
  else match msg with
    | .proxyResponse reqId body error =>
      let s := s.dropSent id
      (s.dropCaller reqId, match error with
        | some error => deliverLocal s reqId (.error error)
        | none => (responseLines body).flatMap fun line => deliverLocal s reqId (.ok line))
    | .encryptedProxyResponse reqId nonce ciphertext _ error stream =>
      let s := s.dropSent id
      match error with
      | some error => failProxyRequest s reqId error
      | none =>
        if stream = some true then
          match pending with
          | none => (s, [])
          | some pending => onStreamAck m s reqId pending
        else onEncryptedResponse m s reqId pending ⟨nonce, ciphertext⟩
    | _ => (s, [])

/-! ## Connections -/

/-- `track_libp2p_peer`. -/
def SwarmState.track (s : SwarmState) (peer : PeerId) : SwarmState := s.bindPeer (s.nameOf peer) peer

/-- `untrack_libp2p_peer`. -/
def SwarmState.untrack (s : SwarmState) (peer : PeerId) : SwarmState :=
  { s with
    mtrxaiToLibp2p := update s.mtrxaiToLibp2p (s.nameOf peer) none
    libp2pToMtrxai := update s.libp2pToMtrxai peer none }

/-- `map_connected_mtrxai_peer`. -/
def mapConnectedPeer (s : SwarmState) (peer : PeerId) (cached : List String) : SwarmState :=
  match cached.find? fun mtrxai =>
    (s.peerCache mtrxai).isSome && resolveLibp2pPeerId m.ids [] mtrxai = peer with
  | some mtrxai => s.bindPeer mtrxai peer
  | none => s

/-- The handler of `ConnectionEstablished`. -/
def onConnectionEstablished (s : SwarmState) (peer : PeerId) (cached : List String)
    (sendings : String → Sending) : SwarmState × List SwarmOutput :=
  let s := { s with connected := update s.connected peer true }
  if peer = m.localPeerId then (s, [])
  else
    let (s, sent) := flushPendingProxies m { s with pendingOutboundProxies := [] } peer sendings
      s.pendingOutboundProxies
    let reverse := (s.pendingReverseProxies peer).map (.send peer)
    let s := s.dropReverse peer
    (if m.isBootnode peer || s.handledSwarmPeers peer then s
      else mapConnectedPeer m ({ s with
        handledSwarmPeers := update s.handledSwarmPeers peer true }.track peer) peer cached,
      sent ++ reverse)

/-- The handler of `ConnectionClosed`. -/
def onConnectionClosed (s : SwarmState) (peer : PeerId) (connected : Bool) : SwarmState :=
  let s := { s with connected := update s.connected peer connected }
  (if m.isBootnode peer || connected then s
    else { s with handledSwarmPeers := update s.handledSwarmPeers peer false }).untrack peer

/-! ## The machine -/

/-- One event handled. -/
def swarmStep (s : SwarmState) : SwarmEvent → SwarmState × List SwarmOutput
  | .request peer msg answers => onSwarmRequest m s peer msg answers
  | .response peer outboundId msg => onSwarmResponse m s peer outboundId msg
  | .gossip _ record => (applyRemoteCatalog m s record, [])
  | .proxyCommand cmd ranked sending => onProxyCommand m s cmd ranked sending
  | .outboundFailure outboundId retryable error sending =>
    onOutboundFailure m s outboundId retryable error sending
  | .connectionEstablished peer cached sendings => onConnectionEstablished m s peer cached sendings
  | .connectionClosed peer connected => (onConnectionClosed m s peer connected, [])
  | .presence peers => (syncPresence m s peers, [])
  | .proxyChanged proxy => ({ s with proxy }, [])
  | .requestsNumbered count => ({ s with nextReqId := s.nextReqId + count }, [])

abbrev SwarmRecord := Record SwarmState SwarmEvent SwarmOutput

/-- The machine of one swarm manager. -/
def swarmMachine : Machine SwarmState SwarmEvent SwarmOutput := ⟨swarmStep m⟩

/-- A manager that has just started. -/
def SwarmState.initial (proxy : ProxyState) (nextReqId : Nat) : SwarmState where
  proxy := proxy
  connected := fun _ => false
  handledSwarmPeers := fun _ => false
  peerCache := fun _ => none
  mtrxaiToLibp2p := fun _ => none
  libp2pToMtrxai := fun _ => none
  nextReqId := nextReqId
  pendingProxyByReqId := fun _ => false
  pendingProxyByOutboundId := fun _ => none
  pendingOutboundProxies := []
  pendingIncomingProxy := fun _ => none
  pendingEncryptedStreams := fun _ => none
  pendingEncryptedStreamEarly := fun _ => []
  pendingReverseProxies := fun _ => []

end MtrxPeer
