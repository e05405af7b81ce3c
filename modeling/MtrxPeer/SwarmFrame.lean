import MtrxPeer.P2pManager

/-! What a swarm manager's events leave alone: the configuration and the block
list, the connections, what the catalog said of each peer, and the numbering of
the requests. -/
namespace MtrxPeer

open Function (update update_of_ne update_self)

/-- The parts of the state that requests and their answers only read. -/
structure Surroundings where
  proxy : ProxyState
  connected : PeerId → Bool
  peerCache : String → Option CachedPeerRecord
  nextReqId : Nat

def SwarmState.surroundings (s : SwarmState) : Surroundings :=
  ⟨s.proxy, s.connected, s.peerCache, s.nextReqId⟩

variable {m : SwarmManager} {s : SwarmState}

/-! ## Who is who -/

@[simp] theorem bindPeer_surroundings (mtrxai : String) (peer : PeerId) :
    (s.bindPeer mtrxai peer).surroundings = s.surroundings := rfl

@[simp] theorem dialMtrxaiPeer_surroundings (mtrxai : String) (listenAddrs : List String) :
    (dialMtrxaiPeer m s mtrxai listenAddrs).surroundings = s.surroundings := rfl

@[simp] theorem dialCached_surroundings (mtrxai : String) :
    (dialCached m s mtrxai).surroundings = s.surroundings := by
  unfold dialCached
  split <;> rfl

@[simp] theorem resolveLibp2pPeer_surroundings (mtrxai : String) :
    (resolveLibp2pPeer m s mtrxai).surroundings = s.surroundings := by
  unfold resolveLibp2pPeer
  split <;> rfl

/-! ## Local requests -/

@[simp] theorem dropCaller_surroundings (reqId : String) :
    (s.dropCaller reqId).surroundings = s.surroundings := rfl

@[simp] theorem dropStreams_surroundings (reqId : String) :
    (s.dropStreams reqId).surroundings = s.surroundings := rfl

@[simp] theorem enqueue_surroundings (pending : PendingOutboundProxy) :
    (s.enqueue pending).surroundings = s.surroundings := rfl

@[simp] theorem noteSent_surroundings (id : OutboundRequestId) (pending : PendingOutboundProxy) :
    (s.noteSent id pending).surroundings = s.surroundings := rfl

@[simp] theorem dropSent_surroundings (id : OutboundRequestId) :
    (s.dropSent id).surroundings = s.surroundings := rfl

@[simp] theorem registerCaller_surroundings : s.registerCaller.surroundings =
    { s.surroundings with nextReqId := s.surroundings.nextReqId + 1 } := rfl

@[simp] theorem failProxyRequest_surroundings (reqId error : String) :
    (failProxyRequest s reqId error).1.surroundings = s.surroundings := rfl

@[simp] theorem forgetStreams_surroundings (pending : PendingOutboundProxy) :
    (forgetStreams s pending).surroundings = s.surroundings := by
  unfold forgetStreams
  split <;> rfl

@[simp] theorem sendOutboundProxy_surroundings (pending : PendingOutboundProxy) (sending : Sending) :
    (sendOutboundProxy m s pending sending).1.surroundings = s.surroundings := by
  unfold sendOutboundProxy
  dsimp only
  split
  · simp
  · split <;> simp

@[simp] theorem locateProvider_surroundings (target : String) :
    (locateProvider m s target).surroundings = s.surroundings := by
  unfold locateProvider
  dsimp only
  split <;> simp

@[simp] theorem submitRequest_surroundings (pending : PendingOutboundProxy) (sending : Sending) :
    (submitRequest m s pending sending).1.surroundings = s.surroundings := by
  unfold submitRequest
  split
  · simp
  · split <;> simp

/-- A command takes the next number, unless it is turned down. -/
theorem onProxyCommand_numbered {cmd : ProxyRequestCommand} {ranked : List String} {target : String}
    (sending : Sending) (chosen : commandTarget m s cmd ranked = .ok target)
    (small : cmd.body.toText.utf8ByteSize ≤ maxProxyBodyBytes) :
    (onProxyCommand m s cmd ranked sending).1.surroundings =
      { s.surroundings with nextReqId := s.nextReqId + 1 } := by
  unfold onProxyCommand
  rw [chosen]
  dsimp only
  rw [if_neg (Nat.not_lt.mpr small), submitRequest_surroundings, registerCaller_surroundings,
    locateProvider_surroundings]
  rfl

theorem onProxyCommand_surroundings (cmd : ProxyRequestCommand) (ranked : List String)
    (sending : Sending) :
    (onProxyCommand m s cmd ranked sending).1.surroundings = s.surroundings ∨
      (onProxyCommand m s cmd ranked sending).1.surroundings =
        { s.surroundings with nextReqId := s.nextReqId + 1 } := by
  unfold onProxyCommand
  split
  · exact .inl rfl
  · dsimp only
    split
    · exact .inl (by simp)
    · refine .inr ?_
      rw [submitRequest_surroundings, registerCaller_surroundings, locateProvider_surroundings]
      rfl

theorem onOutboundFailure_surroundings (id : OutboundRequestId) (retryable : Bool) (error : String)
    (sending : Sending) :
    (onOutboundFailure m s id retryable error sending).1.surroundings = s.surroundings := by
  unfold onOutboundFailure
  split
  · rfl
  · dsimp only
    split
    · split <;> simp
    · simp

theorem flushPendingProxies_surroundings (peer : PeerId) (sendings : String → Sending)
    (queue : List PendingOutboundProxy) :
    (flushPendingProxies m s peer sendings queue).1.surroundings = s.surroundings := by
  induction queue generalizing s with
  | nil => rfl
  | cons pending rest ih =>
    simp only [flushPendingProxies]
    rw [ih]
    split <;> simp

/-! ## Streams and answers -/

@[simp] theorem drainStream_surroundings (reqId : String) (ctx : PendingEncryptedStreamCtx) :
    (drainStream m s reqId ctx).1.surroundings = s.surroundings := by
  unfold drainStream
  dsimp only
  split <;> rfl

@[simp] theorem onEncryptedStreamChunk_surroundings (reqId : String)
    (chunk : EncryptedStreamChunkData) :
    (onEncryptedStreamChunk m s reqId chunk).1.surroundings = s.surroundings := by
  unfold onEncryptedStreamChunk
  split
  · split
    · simp
    · rfl
  · rfl

private theorem onStreamAck_surroundings (reqId : String) (pending : PendingOutboundProxy) :
    (onStreamAck m s reqId pending).1.surroundings = s.surroundings := by
  unfold onStreamAck
  split
  · rfl
  · dsimp only
    split
    · rw [drainStream_surroundings]
      rfl
    · rfl

private theorem onEncryptedResponse_surroundings (reqId : String)
    (pending : Option PendingOutboundProxy) (payload : EncryptedPayload) :
    (onEncryptedResponse m s reqId pending payload).1.surroundings = s.surroundings := by
  unfold onEncryptedResponse
  dsimp only
  split <;> rfl

theorem onSwarmResponse_surroundings (peer : PeerId) (id : OutboundRequestId) (msg : StreamMessage) :
    (onSwarmResponse m s peer id msg).1.surroundings = s.surroundings := by
  unfold onSwarmResponse
  dsimp only
  split
  · rfl
  · split
    · rfl
    · split
      · simp
      · split
        · split
          · simp
          · simp [onStreamAck_surroundings]
        · simp [onEncryptedResponse_surroundings]
    · rfl

/-! ## Requests of peers -/

@[simp] theorem dropReverse_surroundings (peer : PeerId) :
    (s.dropReverse peer).surroundings = s.surroundings := rfl

@[simp] theorem sendReverse_surroundings (peer : PeerId) (msgs : List StreamMessage) :
    (sendReverse m s peer msgs).1.surroundings = s.surroundings := by
  unfold sendReverse
  split
  · rfl
  · split
    · rfl
    · cases s.libp2pToMtrxai peer with
      | none => rfl
      | some mtrxai => exact dialCached_surroundings (m := m) mtrxai

theorem serveEncryptedRequest_surroundings (peer : PeerId) (answers : Answers)
    (request : EncryptedRequest) (nonce ciphertext : Bytes) :
    (serveEncryptedRequest m s peer answers request nonce ciphertext).1.surroundings =
      s.surroundings := by
  simp only [serveEncryptedRequest, sendReverse_surroundings]
  split <;> rfl

/-- A peer's request changes nothing of this, unless it is a catalog. -/
theorem onSwarmRequest_surroundings (peer : PeerId) {msg : StreamMessage} (answers : Answers)
    (other : ∀ record, msg ≠ .catalogSync record) :
    (onSwarmRequest m s peer msg answers).1.surroundings = s.surroundings := by
  cases msg with
  | catalogSync record => exact absurd rfl (other record)
  | proxyRequest =>
    simp only [onSwarmRequest]
    split <;> rfl
  | encryptedProxyRequest =>
    simp only [onSwarmRequest]
    split
    · rfl
    · split
      · exact serveEncryptedRequest_surroundings ..
      · rfl
  | encryptedProxyStreamChunk reqId seq nonce ciphertext version done =>
    exact onEncryptedStreamChunk_surroundings reqId ⟨seq, nonce, ciphertext, done⟩
  | proxyRequestEnd reqId =>
    simp only [onSwarmRequest, onProxyRequestEnd]
    split <;> rfl
  | _ => rfl

/-! ## Connections and catalogs -/

private theorem mapConnectedPeer_surroundings (peer : PeerId) (cached : List String) :
    (mapConnectedPeer m s peer cached).surroundings = s.surroundings := by
  unfold mapConnectedPeer
  split <;> rfl

/-- A new connection is noted, and nothing else of this changes. -/
theorem onConnectionEstablished_surroundings (peer : PeerId) (cached : List String)
    (sendings : String → Sending) :
    (onConnectionEstablished m s peer cached sendings).1.surroundings =
      { s.surroundings with connected := update s.connected peer true } := by
  unfold onConnectionEstablished
  dsimp only
  split
  · rfl
  · dsimp only
    split
    · exact flushPendingProxies_surroundings ..
    · exact (mapConnectedPeer_surroundings ..).trans (flushPendingProxies_surroundings ..)

theorem onConnectionClosed_surroundings (peer : PeerId) (connected : Bool) :
    (onConnectionClosed m s peer connected).surroundings =
      { s.surroundings with connected := update s.connected peer connected } := by
  unfold onConnectionClosed
  dsimp only
  split <;> rfl

/-- A catalog changes what is known of its peer. -/
theorem applyRemoteCatalog_surroundings (record : CatalogRecord) :
    (applyRemoteCatalog m s record).surroundings = if record.peerId = m.peerId then s.surroundings
      else { s.surroundings with
        peerCache := update s.peerCache record.peerId (some record.cached) } := by
  unfold applyRemoteCatalog
  split <;> rfl

/-- What is known of a peer but its addresses. -/
def CachedPeerRecord.unaddressed (record : CachedPeerRecord) : CachedPeerRecord :=
  { record with listenAddrs := [] }

private theorem readdressed_unaddressed (cache : String → Option CachedPeerRecord) (mtrxai : String)
    (listenAddrs : List String) (peer : String) :
    (update cache mtrxai ((cache mtrxai).map fun record => { record with listenAddrs }) peer).map
        CachedPeerRecord.unaddressed = (cache peer).map CachedPeerRecord.unaddressed := by
  by_cases same : peer = mtrxai
  · subst same
    rw [update_self, Option.map_map]
    rfl
  · rw [update_of_ne same]

/-- What the lobby says of addresses leaves the rest as it is. -/
theorem syncPresence_surroundings (peers : List (String × List String)) :
    (∃ cache, (syncPresence m s peers).surroundings = { s.surroundings with peerCache := cache }) ∧
      ∀ peer, ((syncPresence m s peers).peerCache peer).map CachedPeerRecord.unaddressed =
        (s.peerCache peer).map CachedPeerRecord.unaddressed := by
  induction peers generalizing s with
  | nil => exact ⟨⟨_, rfl⟩, fun _ => rfl⟩
  | cons first rest ih =>
    obtain ⟨mtrxai, listenAddrs⟩ := first
    simp only [syncPresence]
    split
    · exact ih
    · split
      · split
        · exact ih
        · exact ih
      · split
        · obtain ⟨rest', known⟩ := ih (s := { s with
            peerCache := update s.peerCache mtrxai ((s.peerCache mtrxai).map
              fun record => { record with listenAddrs }) })
          exact ⟨rest', fun peer => (known peer).trans (readdressed_unaddressed ..)⟩
        · obtain ⟨rest', known⟩ := ih (s := dialMtrxaiPeer m { s with
            peerCache := update s.peerCache mtrxai ((s.peerCache mtrxai).map
              fun record => { record with listenAddrs }) } mtrxai listenAddrs)
          exact ⟨rest', fun peer => (known peer).trans (readdressed_unaddressed ..)⟩

/-! ## One step -/

/-- The catalog that an event brings. -/
def SwarmEvent.catalog : SwarmEvent → Option CatalogRecord
  | .gossip _ record | .request _ (.catalogSync record) _ => some record
  | _ => none

/-- All that an event can do to the surroundings. -/
inductive SurroundingsChange (m : SwarmManager) (s : SwarmState) : SwarmEvent → Surroundings → Prop
  | numbered (e : SwarmEvent) {nextReqId : Nat} (grows : s.nextReqId ≤ nextReqId) :
      SurroundingsChange m s e { s.surroundings with nextReqId }
  | established (peer : PeerId) (cached : List String) (sendings : String → Sending) :
      SurroundingsChange m s (.connectionEstablished peer cached sendings)
        { s.surroundings with connected := update s.connected peer true }
  | closed (peer : PeerId) (connected : Bool) :
      SurroundingsChange m s (.connectionClosed peer connected)
        { s.surroundings with connected := update s.connected peer connected }
  | catalog {e : SwarmEvent} {record : CatalogRecord} (brought : e.catalog = some record)
      (other : record.peerId ≠ m.peerId) :
      SurroundingsChange m s e { s.surroundings with
        peerCache := update s.peerCache record.peerId (some record.cached) }
  | presence (peers : List (String × List String)) {cache : String → Option CachedPeerRecord}
      (known : ∀ peer, (cache peer).map CachedPeerRecord.unaddressed =
        (s.peerCache peer).map CachedPeerRecord.unaddressed) :
      SurroundingsChange m s (.presence peers) { s.surroundings with peerCache := cache }
  | configured (proxy : ProxyState) :
      SurroundingsChange m s (.proxyChanged proxy) { s.surroundings with proxy }

theorem swarmStep_surroundings (e : SwarmEvent) :
    SurroundingsChange m s e (swarmStep m s e).1.surroundings := by
  have unchanged : ∀ {after : Surroundings}, after = s.surroundings →
      SurroundingsChange m s e after := by
    rintro after rfl
    exact .numbered e (Nat.le_refl _)
  have catalog : ∀ record, e.catalog = some record →
      SurroundingsChange m s e (applyRemoteCatalog m s record).surroundings := by
    intro record brought
    rw [applyRemoteCatalog_surroundings]
    split
    · exact unchanged rfl
    · rename_i other
      exact .catalog brought other
  cases e with
  | request peer msg answers =>
    by_cases sync : ∃ record, msg = .catalogSync record
    · obtain ⟨record, rfl⟩ := sync
      exact catalog record rfl
    · exact unchanged
        (onSwarmRequest_surroundings peer answers fun record same => sync ⟨record, same⟩)
  | response peer id msg => exact unchanged (onSwarmResponse_surroundings peer id msg)
  | gossip source record => exact catalog record rfl
  | proxyCommand cmd ranked sending =>
    simp only [swarmStep]
    rcases onProxyCommand_surroundings (m := m) (s := s) cmd ranked sending with same | same
    · exact unchanged same
    · rw [same]
      exact .numbered _ (Nat.le_succ _)
  | outboundFailure id retryable error sending =>
    exact unchanged (onOutboundFailure_surroundings id retryable error sending)
  | connectionEstablished peer cached sendings =>
    simp only [swarmStep, onConnectionEstablished_surroundings]
    exact .established peer cached sendings
  | connectionClosed peer connected =>
    simp only [swarmStep, onConnectionClosed_surroundings]
    exact .closed peer connected
  | presence peers =>
    obtain ⟨⟨cache, same⟩, known⟩ := syncPresence_surroundings (m := m) (s := s) peers
    have entries : (syncPresence m s peers).peerCache = cache := congrArg Surroundings.peerCache same
    simp only [swarmStep, same]
    exact .presence peers (entries ▸ known)
  | proxyChanged proxy => exact .configured proxy
  | requestsNumbered count => exact .numbered _ (Nat.le_add_right ..)

end MtrxPeer
