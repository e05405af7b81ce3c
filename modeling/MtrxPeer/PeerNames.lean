import MtrxPeer.InverseMaps
import MtrxPeer.Sample
import MtrxPeer.SwarmFrame

/-! The two maps between the names of a swarm's peers and their libp2p identities. They
are each other's inverse as long as no name or identity is bound a second time. -/
namespace MtrxPeer

open Function (update update_of_ne update_self)

variable (m : SwarmManager)

/-! ## What an event binds -/

/-- The maps are each other's inverse. -/
def SwarmState.Inverse (s : SwarmState) : Prop := MutuallyInverse s.mtrxaiToLibp2p s.libp2pToMtrxai

/-- The identity that a name has by its addresses in the cache. -/
def addressPeer (s : SwarmState) (name : String) : PeerId :=
  resolveLibp2pPeerId m.ids (s.cachedAddrs name) name

/-- A catalog binds the name it declares. -/
def CatalogRecord.Offers (record : CatalogRecord) (name : String) (peer : PeerId) : Prop :=
  record.peerId ≠ m.peerId ∧ name = record.peerId ∧
    peer = resolveLibp2pPeerId m.ids record.listenAddrs record.peerId

/-- Resolving a name binds it if it was not bound. -/
def ResolveOffers (s : SwarmState) (name : String) (peer : PeerId) : Prop :=
  s.mtrxaiToLibp2p name = none ∧ peer = addressPeer m s name

/-- Dialing a name binds it to its address in the cache. -/
def DialOffers (s : SwarmState) (name : String) (peer : PeerId) : Prop :=
  s.cachedAddrs name ≠ [] ∧ peer = addressPeer m s name

/-- A connection binds the names of the queued requests, then the name of the peer. -/
def ConnectionOffers (s : SwarmState) (peer : PeerId) (cached : List String) (name : String)
    (probe : PeerId) : Prop :=
  peer ≠ m.localPeerId ∧
    ((∃ pending ∈ s.pendingOutboundProxies, pending.targetMtrxaiPeer = name ∧
        ResolveOffers m s name probe) ∨
      (m.isBootnode peer || s.handledSwarmPeers peer) = false ∧ probe = peer ∧
        (name = peer ∧ s.libp2pToMtrxai peer = none ∧
            (∀ pending ∈ s.pendingOutboundProxies,
              ¬ ResolveOffers m s pending.targetMtrxaiPeer peer) ∨
          cached.find? (fun mtrxai => (s.peerCache mtrxai).isSome &&
            resolveLibp2pPeerId m.ids [] mtrxai = peer) = some name))

/-- The bindings that an event may enter. -/
def Offers (s : SwarmState) : SwarmEvent → String → PeerId → Prop
  | .request peer msg answers, name, probe =>
    match msg with
    | .catalogSync record => record.Offers m name probe
    | .encryptedProxyRequest _ _ _ _ _ _ _ auth =>
      auth.any (verifySwarmAuth m answers.unixNow) ∧ name = s.nameOf peer ∧
        (probe = peer ∨ s.connected peer = false ∧ DialOffers m s name probe)
    | _ => False
  | .gossip _ record, name, probe => record.Offers m name probe
  | .proxyCommand cmd ranked _, name, probe =>
    commandTarget m s cmd ranked = .ok name ∧
      (probe = resolvedPeer m s name ∨
        s.connected (resolvedPeer m s name) = false ∧ DialOffers m s name probe)
  | .outboundFailure id retryable _ _, name, probe =>
    ∃ pending, s.pendingProxyByOutboundId id = some pending ∧ retryable = true ∧
      pending.targetMtrxaiPeer = name ∧ ResolveOffers m s name probe
  | .connectionEstablished peer cached _, name, probe => ConnectionOffers m s peer cached name probe
  | .presence peers, name, probe => ∃ addrs, (name, addrs) ∈ peers ∧ name ≠ m.peerId ∧
      probe = resolveLibp2pPeerId m.ids addrs name ∧ s.connected probe = false
  | _, _, _ => False

/-- No name or identity gets a second partner, and a connection that closes is that of a
peer with a name, or one whose identity is no name. -/
def NamesApart (s : SwarmState) (e : SwarmEvent) : Prop :=
  Fits s.mtrxaiToLibp2p s.libp2pToMtrxai (Offers m s e) ∧
    match e with
    | .connectionClosed peer _ => s.libp2pToMtrxai peer = none → s.mtrxaiToLibp2p peer = none
    | _ => True

/-! ## What the handlers do to the names -/

/-- The names are inverse, the pairs of `B` can be entered, and the peers that had a name
have it still. -/
structure Admits (old : PeerId → Option String) (s : SwarmState) (B : String → PeerId → Prop) :
    Prop where
  inverse : s.Inverse
  fits : Fits s.mtrxaiToLibp2p s.libp2pToMtrxai B
  kept : ∀ peer name, old peer = some name → s.libp2pToMtrxai peer = some name

variable {m} {s t : SwarmState} {B : String → PeerId → Prop} {old : PeerId → Option String}

theorem Admits.bindPeer (admits : Admits old s B) {name : String} {peer : PeerId} (pair : B name peer) :
    Admits old (s.bindPeer name peer) B := by
  refine ⟨admits.inverse.bind admits.fits pair, admits.fits.bind pair, ?_⟩
  intro probe named before
  have known := admits.kept probe named before
  by_cases same : probe = peer
  · subst same
    rw [admits.fits.right _ _ _ pair known]
    exact update_self ..
  · rw [← known]
    exact update_of_ne same ..

/-- Only the maps count. -/
theorem Admits.frame (admits : Admits old s B) (names : t.mtrxaiToLibp2p = s.mtrxaiToLibp2p)
    (peers : t.libp2pToMtrxai = s.libp2pToMtrxai) : Admits old t B := by
  refine ⟨?_, ?_, ?_⟩
  · unfold SwarmState.Inverse
    rw [names, peers]
    exact admits.inverse
  · rw [names, peers]
    exact admits.fits
  · rw [peers]
    exact admits.kept

theorem Admits.dialCached (admits : Admits old s B) {name : String}
    (offered : ∀ peer, DialOffers m s name peer → B name peer) : Admits old (dialCached m s name) B := by
  unfold MtrxPeer.dialCached
  split
  · exact admits
  · rename_i some_
    exact admits.bindPeer (offered _ ⟨some_, rfl⟩)

theorem Admits.resolve (admits : Admits old s B) {name : String}
    (offered : ∀ peer, ResolveOffers m s name peer → B name peer) :
    Admits old (resolveLibp2pPeer m s name) B := by
  unfold resolveLibp2pPeer
  split
  · exact admits
  · rename_i unbound
    have none_ : s.mtrxaiToLibp2p name = none := by simpa using unbound
    refine admits.bindPeer (offered _ ⟨none_, ?_⟩)
    rw [resolvedPeer, none_]
    rfl

theorem Admits.applyRemoteCatalog (admits : Admits old s B) {record : CatalogRecord}
    (offered : ∀ name peer, record.Offers m name peer → B name peer) :
    Admits old (applyRemoteCatalog m s record) B := by
  unfold MtrxPeer.applyRemoteCatalog
  split
  · exact admits
  · rename_i other
    exact (admits.bindPeer (offered _ _ ⟨other, rfl, rfl⟩)).frame rfl rfl

/-- Names, identities, catalogs and the peers that are handled are as before. -/
structure SameNames (t s : SwarmState) : Prop where
  names : t.mtrxaiToLibp2p = s.mtrxaiToLibp2p
  peers : t.libp2pToMtrxai = s.libp2pToMtrxai
  catalogs : t.peerCache = s.peerCache
  handled : t.handledSwarmPeers = s.handledSwarmPeers

/-- A name that is bound is resolved without a change. -/
theorem resolve_bound {name : String} (bound : s.mtrxaiToLibp2p name ≠ none) :
    resolveLibp2pPeer m s name = s := by
  unfold resolveLibp2pPeer
  rw [if_pos (Option.isSome_iff_ne_none.mpr bound)]

theorem sendOutboundProxy_names (s : SwarmState) (pending : PendingOutboundProxy)
    (sending : Sending) :
    SameNames (sendOutboundProxy m s pending sending).1
      (resolveLibp2pPeer m s pending.targetMtrxaiPeer) := by
  unfold sendOutboundProxy
  dsimp only
  split
  · exact ⟨rfl, rfl, rfl, rfl⟩
  · have forgotten : SameNames (forgetStreams (resolveLibp2pPeer m s pending.targetMtrxaiPeer)
        { pending with libp2pPeer := resolvedPeer m s pending.targetMtrxaiPeer })
        (resolveLibp2pPeer m s pending.targetMtrxaiPeer) := by
      unfold forgetStreams
      split <;> exact ⟨rfl, rfl, rfl, rfl⟩
    split
    · exact ⟨forgotten.names, forgotten.peers, forgotten.catalogs, forgotten.handled⟩
    · exact ⟨forgotten.names, forgotten.peers, forgotten.catalogs, forgotten.handled⟩

theorem Admits.sendOutboundProxy (admits : Admits old s B) {pending : PendingOutboundProxy}
    {sending : Sending}
    (offered : ∀ peer, ResolveOffers m s pending.targetMtrxaiPeer peer →
      B pending.targetMtrxaiPeer peer) : Admits old (sendOutboundProxy m s pending sending).1 B :=
  have same := sendOutboundProxy_names s pending sending
  (admits.resolve offered).frame same.names same.peers

/-! ## Flushing -/

theorem resolve_catalogs (s : SwarmState) (name : String) :
    (resolveLibp2pPeer m s name).peerCache = s.peerCache := by
  unfold resolveLibp2pPeer
  split <;> rfl

theorem resolve_names (s : SwarmState) {name other : String}
    (unbound : (resolveLibp2pPeer m s name).mtrxaiToLibp2p other = none) :
    s.mtrxaiToLibp2p other = none ∧ other ≠ name := by
  unfold resolveLibp2pPeer at unbound
  split at unbound
  · rename_i bound
    refine ⟨unbound, ?_⟩
    rintro rfl
    rw [unbound] at bound
    cases bound
  · by_cases same : other = name
    · subst same
      simp [SwarmState.bindPeer] at unbound
    · simpa [SwarmState.bindPeer, update_of_ne same, same] using unbound

theorem resolve_peers {name : String} {peer : PeerId}
    (known : s.libp2pToMtrxai peer ≠ none ∨ ResolveOffers m s name peer) :
    (resolveLibp2pPeer m s name).libp2pToMtrxai peer ≠ none := by
  unfold resolveLibp2pPeer
  rcases known with known | ⟨unbound, rfl⟩
  · split
    · exact known
    · by_cases same : peer = resolvedPeer m s name
      · subst same
        simp [SwarmState.bindPeer]
      · simpa [SwarmState.bindPeer, update_of_ne same] using known
  · have resolved : resolvedPeer m s name = addressPeer m s name := by
      rw [resolvedPeer, unbound]
      rfl
    rw [if_neg (by simp [unbound]), resolved]
    simp [SwarmState.bindPeer]

/-- What a resolved name leaves to be resolved. -/
theorem resolveOffers_after (same : SameNames t (resolveLibp2pPeer m s name)) {other : String}
    {peer : PeerId} (offers : ResolveOffers m t other peer) : ResolveOffers m s other peer := by
  obtain ⟨unbound, rfl⟩ := offers
  rw [same.names] at unbound
  refine ⟨(resolve_names s unbound).1, ?_⟩
  rw [addressPeer, addressPeer, SwarmState.cachedAddrs, SwarmState.cachedAddrs, same.catalogs,
    resolve_catalogs]

/-- One request of the queue is resolved, and sent or queued again. -/
def flushOne (m : SwarmManager) (s : SwarmState) (peer : PeerId) (sendings : String → Sending)
    (pending : PendingOutboundProxy) : SwarmState × List SwarmOutput :=
  let resolved := resolvedPeer m s pending.targetMtrxaiPeer
  let s := resolveLibp2pPeer m s pending.targetMtrxaiPeer
  let pending := { pending with libp2pPeer := resolved }
  if resolved = peer then sendOutboundProxy m s pending (sendings pending.reqId)
  else (s.enqueue pending, [])

theorem flush_cons (s : SwarmState) (peer : PeerId) (sendings : String → Sending)
    (pending : PendingOutboundProxy) (rest : List PendingOutboundProxy) :
    flushPendingProxies m s peer sendings (pending :: rest) =
      let (t, sent) := flushOne m s peer sendings pending
      let (t, later) := flushPendingProxies m t peer sendings rest
      (t, sent ++ later) := rfl

theorem flushOne_names (s : SwarmState) (peer : PeerId) (sendings : String → Sending)
    (pending : PendingOutboundProxy) :
    SameNames (flushOne m s peer sendings pending).1
      (resolveLibp2pPeer m s pending.targetMtrxaiPeer) := by
  unfold flushOne
  dsimp only
  split
  · have bound : (resolveLibp2pPeer m s pending.targetMtrxaiPeer).mtrxaiToLibp2p
        pending.targetMtrxaiPeer ≠ none := fun unbound => (resolve_names s unbound).2 rfl
    have same := @sendOutboundProxy_names m (resolveLibp2pPeer m s pending.targetMtrxaiPeer)
      { pending with libp2pPeer := resolvedPeer m s pending.targetMtrxaiPeer }
      (sendings pending.reqId)
    rwa [resolve_bound bound] at same
  · exact ⟨rfl, rfl, rfl, rfl⟩

/-- A flush of the queue binds the names of its requests. -/
theorem Admits.flush (sendings : String → Sending) (peer : PeerId) (queue : List PendingOutboundProxy)
    (admits : Admits old s B)
    (offered : ∀ pending ∈ queue, ∀ probe, ResolveOffers m s pending.targetMtrxaiPeer probe →
      B pending.targetMtrxaiPeer probe) :
    Admits old (flushPendingProxies m s peer sendings queue).1 B := by
  induction queue generalizing s with
  | nil => exact admits
  | cons pending rest ih =>
    have same := @flushOne_names m s peer sendings pending
    have resolved := admits.resolve (offered pending List.mem_cons_self)
    rw [flush_cons]
    refine ih (resolved.frame same.names same.peers) ?_
    intro later member probe offers
    exact offered later (List.mem_cons_of_mem _ member) probe (resolveOffers_after same offers)

/-- A peer that is known stays known, and so does one that a queued name resolves to. -/
theorem flush_known (sendings : String → Sending) (peer : PeerId) (queue : List PendingOutboundProxy)
    {probe : PeerId} (known : s.libp2pToMtrxai probe ≠ none ∨
      ∃ pending ∈ queue, ResolveOffers m s pending.targetMtrxaiPeer probe) :
    (flushPendingProxies m s peer sendings queue).1.libp2pToMtrxai probe ≠ none := by
  induction queue generalizing s with
  | nil =>
    rcases known with known | ⟨_, member, _⟩
    · exact known
    · cases member
  | cons pending rest ih =>
    have same := @flushOne_names m s peer sendings pending
    rw [flush_cons]
    refine ih ?_
    rw [same.peers]
    rcases known with known | ⟨queued, member, unbound, rfl⟩
    · exact .inl (resolve_peers (.inl known))
    · by_cases first : queued.targetMtrxaiPeer = pending.targetMtrxaiPeer
      · refine .inl (resolve_peers (.inr ?_))
        rw [← first]
        exact ⟨unbound, rfl⟩
      · rcases List.mem_cons.mp member with rfl | later
        · exact absurd rfl first
        · refine .inr ⟨queued, later, ?_, ?_⟩
          · rw [same.names]
            unfold resolveLibp2pPeer
            split
            · exact unbound
            · simpa [SwarmState.bindPeer, update_of_ne first] using unbound
          · rw [addressPeer, addressPeer, SwarmState.cachedAddrs, SwarmState.cachedAddrs,
              same.catalogs, resolve_catalogs]

theorem flush_handled (sendings : String → Sending) (peer : PeerId)
    (queue : List PendingOutboundProxy) :
    (flushPendingProxies m s peer sendings queue).1.handledSwarmPeers = s.handledSwarmPeers := by
  induction queue generalizing s with
  | nil => rfl
  | cons pending rest ih =>
    rw [flush_cons]
    refine ih.trans ((flushOne_names s peer sendings pending).handled.trans ?_)
    unfold resolveLibp2pPeer
    split <;> rfl

/-! ## The events -/

/-- Entering a binding that is there changes nothing. -/
theorem bindPeer_bound (inverse : s.Inverse) {name : String} {peer : PeerId}
    (bound : s.libp2pToMtrxai peer = some name) : s.bindPeer name peer = s := by
  have both := (inverse name peer).mpr bound
  unfold SwarmState.bindPeer
  rw [← both, ← bound, Function.update_eq_self, Function.update_eq_self]

/-- A peer is tracked under its name, or by its identity. -/
theorem Admits.track (admits : Admits old s B) {peer : PeerId}
    (offered : s.libp2pToMtrxai peer = none → B peer peer) : Admits old (s.track peer) B := by
  unfold SwarmState.track SwarmState.nameOf
  cases known : s.libp2pToMtrxai peer with
  | none => exact admits.bindPeer (offered known)
  | some name =>
    rw [Option.getD_some, bindPeer_bound admits.inverse known]
    exact admits

theorem Admits.mapConnected (admits : Admits old s B) {peer : PeerId} {cached : List String}
    (offered : ∀ name, cached.find? (fun mtrxai => (s.peerCache mtrxai).isSome &&
      resolveLibp2pPeerId m.ids [] mtrxai = peer) = some name → B name peer) :
    Admits old (mapConnectedPeer m s peer cached) B := by
  unfold mapConnectedPeer
  split
  · rename_i name found
    exact admits.bindPeer (offered name found)
  · exact admits

/-- The state in which a connected peer is tracked. -/
def flushedState (m : SwarmManager) (s : SwarmState) (peer : PeerId) (sendings : String → Sending) :
    SwarmState :=
  (flushPendingProxies m { s with
    connected := update s.connected peer true
    pendingOutboundProxies := [] } peer sendings s.pendingOutboundProxies).1.dropReverse peer

theorem flushedState_surroundings (s : SwarmState) (peer : PeerId) (sendings : String → Sending) :
    (flushedState m s peer sendings).surroundings =
      { s.surroundings with connected := update s.connected peer true } :=
  flushPendingProxies_surroundings ..

theorem flushedState_handled (s : SwarmState) (peer : PeerId) (sendings : String → Sending) :
    (flushedState m s peer sendings).handledSwarmPeers = s.handledSwarmPeers := flush_handled ..

theorem onConnectionEstablished_eq {peer : PeerId} (remote : peer ≠ m.localPeerId)
    (cached : List String) (sendings : String → Sending) :
    (onConnectionEstablished m s peer cached sendings).1 =
      if m.isBootnode peer || s.handledSwarmPeers peer then flushedState m s peer sendings
      else mapConnectedPeer m ({ flushedState m s peer sendings with
        handledSwarmPeers := update s.handledSwarmPeers peer true }.track peer) peer cached := by
  rw [← flushedState_handled (m := m) s peer sendings]
  unfold onConnectionEstablished
  rw [if_neg remote]
  rfl

theorem Admits.flushedState {peer : PeerId} {cached : List String} {sendings : String → Sending}
    (admits : Admits old s (ConnectionOffers m s peer cached)) (remote : peer ≠ m.localPeerId) :
    Admits old (flushedState m s peer sendings) (ConnectionOffers m s peer cached) := by
  have connected : Admits old { s with
      connected := update s.connected peer true
      pendingOutboundProxies := [] } (ConnectionOffers m s peer cached) := admits.frame rfl rfl
  exact (connected.flush sendings peer s.pendingOutboundProxies
    fun pending member probe offers => ⟨remote, .inl ⟨pending, member, rfl, offers⟩⟩).frame rfl rfl

/-- A peer is tracked, and known under its name in the cache. -/
theorem Admits.tracked {peer : PeerId} {cached : List String} {sendings : String → Sending}
    (admits : Admits old s (ConnectionOffers m s peer cached)) (remote : peer ≠ m.localPeerId)
    (new : (m.isBootnode peer || s.handledSwarmPeers peer) = false) :
    Admits old ({ MtrxPeer.flushedState m s peer sendings with
        handledSwarmPeers := update s.handledSwarmPeers peer true }.track peer)
      (ConnectionOffers m s peer cached) := by
  have known := @flush_known m { s with
    connected := update s.connected peer true
    pendingOutboundProxies := [] } sendings peer s.pendingOutboundProxies peer
  have flushed := @Admits.flushedState m s old peer cached sendings admits remote
  refine Admits.track ?_ ?_
  · exact flushed.frame rfl rfl
  · intro unknown
    refine ⟨remote, .inr ⟨new, rfl, .inl ⟨rfl, ?_, ?_⟩⟩⟩
    · by_contra before
      exact known (.inl before) unknown
    · intro pending member offers
      exact known (.inr ⟨pending, member, offers⟩) unknown

/-- The name in the cache that a connected peer is mapped to. -/
theorem connectionOffers_cached {peer : PeerId} {cached : List String} {name : String}
    {t : SwarmState} (remote : peer ≠ m.localPeerId)
    (new : (m.isBootnode peer || s.handledSwarmPeers peer) = false)
    (catalogs : t.peerCache = s.peerCache)
    (found : cached.find? (fun mtrxai => (t.peerCache mtrxai).isSome &&
      resolveLibp2pPeerId m.ids [] mtrxai = peer) = some name) :
    ConnectionOffers m s peer cached name peer := by
  rw [catalogs] at found
  exact ⟨remote, .inr ⟨new, rfl, .inr found⟩⟩

theorem Admits.connectionEstablished {peer : PeerId} {cached : List String}
    {sendings : String → Sending} (admits : Admits old s (ConnectionOffers m s peer cached)) :
    Admits old (onConnectionEstablished m s peer cached sendings).1
      (ConnectionOffers m s peer cached) := by
  by_cases own : peer = m.localPeerId
  · unfold onConnectionEstablished
    rw [if_pos own]
    exact admits.frame rfl rfl
  · rw [onConnectionEstablished_eq own]
    split
    · exact admits.flushedState own
    · rename_i fresh
      have new := Bool.eq_false_iff.mpr fresh
      have catalogs := congrArg Surroundings.peerCache
        (@flushedState_surroundings m s peer sendings)
      exact (admits.tracked own new).mapConnected fun name found =>
        connectionOffers_cached own new catalogs found

/-- Presence binds the peers that are not connected. -/
theorem Admits.presence (peers : List (String × List String)) (admits : Admits old s B)
    (offered : ∀ name addrs, (name, addrs) ∈ peers → name ≠ m.peerId →
      s.connected (resolveLibp2pPeerId m.ids addrs name) = false →
      B name (resolveLibp2pPeerId m.ids addrs name)) : Admits old (syncPresence m s peers) B := by
  induction peers generalizing s with
  | nil => exact admits
  | cons first rest ih =>
    obtain ⟨mtrxai, addrs⟩ := first
    have later (t : SwarmState) (connected : t.connected = s.connected) :
        ∀ name addrs, (name, addrs) ∈ rest → name ≠ m.peerId →
          t.connected (resolveLibp2pPeerId m.ids addrs name) = false →
          B name (resolveLibp2pPeerId m.ids addrs name) := by
      intro name addrs member other closed
      rw [connected] at closed
      exact offered name addrs (List.mem_cons_of_mem _ member) other closed
    unfold syncPresence
    split
    · exact ih admits (later s rfl)
    · rename_i other
      have closed (readdressed : SwarmState) (same : readdressed.connected = s.connected)
          (names : readdressed.mtrxaiToLibp2p = s.mtrxaiToLibp2p)
          (ids : readdressed.libp2pToMtrxai = s.libp2pToMtrxai) :
          Admits old (if readdressed.connected (resolveLibp2pPeerId m.ids addrs mtrxai) then
              syncPresence m readdressed rest
            else syncPresence m (dialMtrxaiPeer m readdressed mtrxai addrs) rest) B := by
        have framed := admits.frame names ids
        split
        · exact ih framed (later _ same)
        · rename_i closed
          rw [same] at closed
          refine ih (framed.bindPeer ?_) (later _ same)
          exact offered mtrxai addrs List.mem_cons_self other (by simpa using closed)
      by_cases none_ : addrs = []
      · rw [if_pos none_]
        exact closed s rfl rfl rfl
      · rw [if_neg none_]
        exact closed _ rfl rfl rfl

/-- What is delivered to a local caller leaves the names alone. -/
private theorem drainStream_names (s : SwarmState) (reqId : String) (ctx : PendingEncryptedStreamCtx) :
    (drainStream m s reqId ctx).1.mtrxaiToLibp2p = s.mtrxaiToLibp2p ∧
      (drainStream m s reqId ctx).1.libp2pToMtrxai = s.libp2pToMtrxai := by
  unfold drainStream
  dsimp only
  split <;> exact ⟨rfl, rfl⟩

private theorem onSwarmResponse_names (s : SwarmState) (peer : PeerId) (id : OutboundRequestId)
    (msg : StreamMessage) :
    (onSwarmResponse m s peer id msg).1.mtrxaiToLibp2p = s.mtrxaiToLibp2p ∧
      (onSwarmResponse m s peer id msg).1.libp2pToMtrxai = s.libp2pToMtrxai := by
  unfold onSwarmResponse
  dsimp only
  split
  · exact ⟨rfl, rfl⟩
  · split
    · exact ⟨rfl, rfl⟩
    · split
      · exact ⟨rfl, rfl⟩
      · split
        · split
          · exact ⟨rfl, rfl⟩
          · unfold onStreamAck
            split
            · exact ⟨rfl, rfl⟩
            · dsimp only
              split
              · exact drainStream_names ..
              · exact ⟨rfl, rfl⟩
        · unfold onEncryptedResponse
          dsimp only
          split <;> exact ⟨rfl, rfl⟩
    · exact ⟨rfl, rfl⟩

/-- A request that is served binds its consumer, and dials it for what is queued. -/
private theorem Admits.serveEncrypted {peer : PeerId} {answers : Answers} {request : EncryptedRequest}
    {nonce ciphertext : Bytes} (admits : Admits old s B) (own : B (s.nameOf peer) peer)
    (dials : s.connected peer = false → ∀ probe, DialOffers m s (s.nameOf peer) probe →
      B (s.nameOf peer) probe) :
    Admits old (serveEncryptedRequest m s peer answers request nonce ciphertext).1 B := by
  unfold serveEncryptedRequest
  dsimp only
  have bound : ∀ t : SwarmState, t.mtrxaiToLibp2p = (s.bindPeer (s.nameOf peer) peer).mtrxaiToLibp2p →
      t.libp2pToMtrxai = (s.bindPeer (s.nameOf peer) peer).libp2pToMtrxai →
      t.connected = s.connected → t.peerCache = s.peerCache → ∀ msgs,
      Admits old (sendReverse m t peer msgs).1 B := by
    intro t names peers connected catalogs msgs
    have framed := (admits.bindPeer own).frame names peers
    have known : t.libp2pToMtrxai peer = some (s.nameOf peer) := by
      rw [peers]
      exact update_self ..
    unfold sendReverse
    split
    · exact framed
    · rename_i closed
      split
      · exact framed
      · rw [known]
        refine (Admits.dialCached framed fun probe offers => ?_).frame rfl rfl
        rw [connected] at closed
        refine dials (by simpa using closed) probe ?_
        simpa [DialOffers, addressPeer, SwarmState.cachedAddrs, catalogs] using offers
  split
  · exact bound (s.bindPeer (s.nameOf peer) peer) rfl rfl rfl rfl _
  · exact bound ((s.bindPeer (s.nameOf peer) peer).dropReverse peer) rfl rfl rfl rfl _

private theorem Admits.onRequest {peer : PeerId} {msg : StreamMessage} {answers : Answers}
    (admits : Admits old s (Offers m s (.request peer msg answers))) :
    Admits old (onSwarmRequest m s peer msg answers).1 (Offers m s (.request peer msg answers)) := by
  cases msg with
  | catalogSync record => exact admits.applyRemoteCatalog fun name peer offers => offers
  | proxyRequest =>
    simp only [onSwarmRequest]
    split <;> exact admits
  | encryptedProxyRequest reqId path roomId pk nonce ciphertext version auth =>
    simp only [onSwarmRequest]
    split
    · exact admits
    · rename_i proof
      split
      · rename_i verified
        exact admits.serveEncrypted ⟨verified, rfl, .inl rfl⟩
          fun closed probe offers => ⟨verified, rfl, .inr ⟨closed, offers⟩⟩
      · exact admits
  | encryptedProxyStreamChunk reqId seq nonce ciphertext version done =>
    simp only [onSwarmRequest, onEncryptedStreamChunk]
    split
    · split
      · have same := @drainStream_names m s reqId
        exact admits.frame (same _).1 (same _).2
      · exact admits.frame rfl rfl
    · exact admits
  | proxyRequestEnd reqId =>
    simp only [onSwarmRequest, onProxyRequestEnd]
    split <;> exact admits.frame rfl rfl
  | _ => exact admits.frame rfl rfl

private theorem Admits.onProxyCommand {cmd : ProxyRequestCommand} {ranked : List String}
    {sending : Sending} (admits : Admits old s (Offers m s (.proxyCommand cmd ranked sending))) :
    Admits old (onProxyCommand m s cmd ranked sending).1
      (Offers m s (.proxyCommand cmd ranked sending)) := by
  unfold MtrxPeer.onProxyCommand
  cases chosen : commandTarget m s cmd ranked with
  | error error => exact admits
  | ok target =>
    dsimp only
    have dials : s.connected (resolvedPeer m s target) = false → ∀ probe,
        DialOffers m s target probe → Offers m s (.proxyCommand cmd ranked sending) target probe :=
      fun closed probe offers => ⟨chosen, .inr ⟨closed, offers⟩⟩
    have bound : Admits old (s.bindPeer target (resolvedPeer m s target))
        (Offers m s (.proxyCommand cmd ranked sending)) := admits.bindPeer ⟨chosen, .inl rfl⟩
    have located : Admits old (locateProvider m s target) (Offers m s (.proxyCommand cmd ranked sending)) ∧
        (locateProvider m s target).mtrxaiToLibp2p target ≠ none := by
      unfold locateProvider
      dsimp only
      split
      · exact ⟨bound, by simp [SwarmState.bindPeer]⟩
      · rename_i closed
        have open_ : s.connected (resolvedPeer m s target) = false :=
          Bool.eq_false_iff.mpr closed
        refine ⟨bound.dialCached fun probe offers => dials open_ probe offers, ?_⟩
        unfold MtrxPeer.dialCached
        split <;> simp [SwarmState.bindPeer, dialMtrxaiPeer]
    have around := @locateProvider_surroundings m s target
    have connected := congrArg Surroundings.connected around
    have catalogs := congrArg Surroundings.peerCache around
    obtain ⟨admits', known⟩ := located
    split
    · exact admits'
    · unfold submitRequest
      split
      · refine Admits.sendOutboundProxy ?_ fun probe offers => ?_
        · exact admits'.frame rfl rfl
        · exact absurd offers.1 known
      · rename_i closed
        split
        · exact admits'.frame rfl rfl
        · have registered : Admits old (locateProvider m s target).registerCaller
              (Offers m s (.proxyCommand cmd ranked sending)) := admits'.frame rfl rfl
          refine Admits.frame (registered.dialCached fun probe offers => ?_) rfl rfl
          refine dials ?_ probe ?_
          · have same : s.connected (resolvedPeer m s target) =
                (locateProvider m s target).connected (resolvedPeer m s target) :=
              (congrFun connected _).symm
            rw [same]
            exact Bool.eq_false_iff.mpr closed
          · have same : (locateProvider m s target).registerCaller.cachedAddrs target =
                s.cachedAddrs target := by
              unfold SwarmState.cachedAddrs
              exact congrArg (fun cache : String → Option CachedPeerRecord =>
                ((cache target).map CachedPeerRecord.listenAddrs).getD []) catalogs
            have asked : (commandRequest m s cmd target).targetMtrxaiPeer = target := rfl
            unfold DialOffers addressPeer at offers ⊢
            rwa [asked, same] at offers

private theorem Admits.onOutboundFailure {id : OutboundRequestId} {retryable : Bool} {error : String}
    {sending : Sending} (admits : Admits old s (Offers m s (.outboundFailure id retryable error sending))) :
    Admits old (onOutboundFailure m s id retryable error sending).1
      (Offers m s (.outboundFailure id retryable error sending)) := by
  unfold MtrxPeer.onOutboundFailure
  split
  · exact admits
  · rename_i pending sent
    dsimp only
    split
    · rename_i again
      split
      · refine Admits.sendOutboundProxy ?_ fun probe offers => ?_
        · exact admits.frame rfl rfl
        · exact ⟨pending, sent, (Bool.and_eq_true_iff.mp again).1, rfl, offers⟩
      · exact admits.frame rfl rfl
    · exact admits.frame rfl rfl

theorem onConnectionClosed_inverse {peer : PeerId} (connected : Bool) (inverse : s.Inverse)
    (named : s.libp2pToMtrxai peer = none → s.mtrxaiToLibp2p peer = none) :
    (onConnectionClosed m s peer connected).Inverse := by
  have removed : ∀ t : SwarmState, t.mtrxaiToLibp2p = s.mtrxaiToLibp2p →
      t.libp2pToMtrxai = s.libp2pToMtrxai → (t.untrack peer).Inverse := by
    intro t names peers
    unfold SwarmState.Inverse SwarmState.untrack SwarmState.nameOf
    dsimp only
    rw [names, peers]
    cases known : s.libp2pToMtrxai peer with
    | none =>
      rw [Option.getD_none]
      have first : update s.mtrxaiToLibp2p peer none = s.mtrxaiToLibp2p := by
        rw [← named known, Function.update_eq_self]
      have second : update s.libp2pToMtrxai peer none = s.libp2pToMtrxai := by
        rw [← known, Function.update_eq_self]
      rw [first, second]
      exact inverse
    | some name => exact MutuallyInverse.unbind inverse known
  unfold onConnectionClosed
  dsimp only
  split
  · exact removed _ rfl rfl
  · exact removed _ rfl rfl

theorem admits_self {e : SwarmEvent} (inverse : s.Inverse) (apart : NamesApart m s e) :
    Admits s.libp2pToMtrxai s (Offers m s e) :=
  ⟨inverse, apart.1, fun _ _ known => known⟩

/-- What an event binds fits, unless a connection closes. -/
theorem swarmStep_admits {e : SwarmEvent} (inverse : s.Inverse) (apart : NamesApart m s e)
    (open_ : ∀ peer connected, e ≠ .connectionClosed peer connected) :
    Admits s.libp2pToMtrxai (swarmStep m s e).1 (Offers m s e) := by
  have admits := admits_self inverse apart
  cases e with
  | request peer msg answers => exact Admits.onRequest admits
  | response peer id msg =>
    have same := @onSwarmResponse_names m s peer id msg
    exact admits.frame same.1 same.2
  | gossip source record => exact admits.applyRemoteCatalog fun name peer offers => offers
  | proxyCommand cmd ranked sending => exact Admits.onProxyCommand admits
  | outboundFailure id retryable error sending => exact Admits.onOutboundFailure admits
  | connectionEstablished peer cached sendings => exact Admits.connectionEstablished admits
  | connectionClosed peer connected => exact absurd rfl (open_ peer connected)
  | presence peers =>
    refine admits.presence peers ?_
    intro name addrs member other closed
    exact ⟨addrs, member, other, rfl, closed⟩
  | proxyChanged proxy => exact admits.frame rfl rfl
  | requestsNumbered count => exact admits.frame rfl rfl

/-- An event that keeps the names apart keeps the maps each other's inverse. -/
theorem swarmStep_inverse {e : SwarmEvent} (inverse : s.Inverse) (apart : NamesApart m s e) :
    (swarmStep m s e).1.Inverse := by
  by_cases closes : ∃ peer connected, e = .connectionClosed peer connected
  · obtain ⟨peer, connected, rfl⟩ := closes
    exact onConnectionClosed_inverse connected inverse apart.2
  · exact (swarmStep_admits inverse apart fun peer connected same =>
      closes ⟨peer, connected, same⟩).inverse

/-- In a run in which no name or identity gets a second partner, the maps are each
other's inverse in every state. -/
theorem peer_names_inverse {proxy : ProxyState} {nextReqId : Nat} {past : List SwarmRecord}
    (ran : (swarmMachine m).Reaches (.initial proxy nextReqId) past s)
    (apart : ∀ r ∈ past, NamesApart m r.before r.event) : s.Inverse :=
  ran.invariant (fun _ s => s.Inverse) (fun r => NamesApart m r.before r.event)
    mutuallyInverse_empty (fun _ _ _ inverse meets => swarmStep_inverse inverse meets) apart

/-- The catalog of a peer that has no identity yet, and whose identity has no name. -/
theorem namesApart_gossip {source : PeerId} {record : CatalogRecord}
    (unbound : s.mtrxaiToLibp2p record.peerId = none)
    (unknown : s.libp2pToMtrxai (resolveLibp2pPeerId m.ids record.listenAddrs record.peerId) = none) :
    NamesApart m s (.gossip source record) := by
  refine ⟨⟨?_, ?_, ?_⟩, trivial⟩
  · rintro name peer other ⟨-, rfl, rfl⟩ bound
    rw [unbound] at bound
    cases bound
  · rintro name peer other ⟨-, rfl, rfl⟩ bound
    rw [unknown] at bound
    cases bound
  · rintro name peer name' peer' ⟨-, rfl, rfl⟩ ⟨-, rfl, rfl⟩
    exact iff_of_true rfl rfl

private def sampleNames (events : List SwarmEvent) : List SwarmRecord × SwarmState :=
  (swarmMachine (sampleSwarmManager true false)).history sampleSwarm events

/-- The catalogs of two peers. -/
theorem peer_names_inverse_sample :
    (sampleNames [.gossip "P" (sampleCatalog "p" "P"),
      .gossip "P" (sampleCatalog "q" "Q")]).2.Inverse := by
  refine peer_names_inverse (m := sampleSwarmManager true false) (Machine.reaches_history _ _ _) ?_
  refine List.forall_mem_cons.mpr ⟨?_, List.forall_mem_cons.mpr ⟨?_, by simp⟩⟩
  · exact namesApart_gossip (by decide) (by decide)
  · exact namesApart_gossip (by decide) (by decide)

/-- A peer that connects before its catalog is there keeps the name it was given by its
identity. -/
theorem peer_names_disagree :
    ∃ past s, (swarmMachine (sampleSwarmManager true false)).Reaches sampleSwarm past s ∧
      ¬ s.Inverse := by
  let events : List SwarmEvent := [.connectionEstablished "P" [] fun _ => ⟨⟨[], [], 0⟩, 0⟩,
    .gossip "P" (sampleCatalog "p" "P")]
  refine ⟨_, _, Machine.reaches_history _ sampleSwarm events, fun inverse => ?_⟩
  have named : ((swarmMachine (sampleSwarmManager true false)).history sampleSwarm
      events).2.mtrxaiToLibp2p "P" = some "P" := by decide
  have renamed : ((swarmMachine (sampleSwarmManager true false)).history sampleSwarm
      events).2.libp2pToMtrxai "P" = some "p" := by decide
  have both := (inverse "P" "P").mp named
  rw [renamed] at both
  exact absurd both (by decide)

end MtrxPeer
