import MtrxPeer.ClusterAnswers
import MtrxPeer.P2pManager

/-! What the caller of a swarm request hears, and the part of a manager's state it
depends on: the request's tables, and what there is of the provider it was put to. -/
namespace MtrxPeer

open Function (update update_of_ne update_self)

/-! ## What a caller depends on -/

/-- The part of a manager's state that the caller of a request depends on: the
request's tables, and what there is of the provider and the requests put to it. -/
structure AskerView where
  proxy : ProxyState
  connected : PeerId → Bool
  handled : PeerId → Bool
  nextReqId : Nat
  waiting : Bool
  stream : Option PendingEncryptedStreamCtx
  early : List EncryptedStreamChunkData
  /-- The provider's identity, its catalog, and the peers known by its name. -/
  address : Option PeerId
  cached : Option CachedPeerRecord
  known : PeerId → Bool
  sent : OutboundRequestId → Option PendingOutboundProxy
  queue : List PendingOutboundProxy

def SwarmState.askerView (s : SwarmState) (target reqId : String) : AskerView where
  proxy := s.proxy
  connected := s.connected
  handled := s.handledSwarmPeers
  nextReqId := s.nextReqId
  waiting := s.pendingProxyByReqId reqId
  stream := s.pendingEncryptedStreams reqId
  early := s.pendingEncryptedStreamEarly reqId
  address := s.mtrxaiToLibp2p target
  cached := s.peerCache target
  known := fun peer => s.nameOf peer == target
  sent := fun id => (s.pendingProxyByOutboundId id).filter (·.targetMtrxaiPeer = target)
  queue := s.pendingOutboundProxies.filter (·.targetMtrxaiPeer = target)

def SwarmOutput.heardBy (reqId : String) : SwarmOutput → Option Heard
  | .deliver probe item => if probe = reqId then some (.item item) else none
  | _ => none

/-- What the caller of a request hears of a step. -/
def swarmHeard (reqId : String) (s : SwarmState) (outputs : List SwarmOutput) (s' : SwarmState) :
    List Heard :=
  outputs.filterMap (SwarmOutput.heardBy reqId) ++
    heardEnd (s.pendingProxyByReqId reqId) (s'.pendingProxyByReqId reqId)

variable {m : SwarmManager} {s t : SwarmState} {target reqId : String} {asked peer : PeerId}
  {answers : Answers} {providerOf : String → String}

/-- A handler's result is of no concern to a caller. -/
def SwarmUnheard (target reqId : String) (s : SwarmState) (result : SwarmState × List SwarmOutput) :
    Prop :=
  result.1.askerView target reqId = s.askerView target reqId ∧
    result.2.filterMap (SwarmOutput.heardBy reqId) = []

/-- Two results are the same to a caller. -/
def SwarmAlike (target reqId : String) (a b : SwarmState × List SwarmOutput) : Prop :=
  a.1.askerView target reqId = b.1.askerView target reqId ∧
    a.2.filterMap (SwarmOutput.heardBy reqId) = b.2.filterMap (SwarmOutput.heardBy reqId)

/-- What is of no concern in two managers that are alike leaves them alike. -/
theorem SwarmUnheard.alike {a b : SwarmState × List SwarmOutput}
    (first : SwarmUnheard target reqId s a) (second : SwarmUnheard target reqId t b)
    (view : s.askerView target reqId = t.askerView target reqId) : SwarmAlike target reqId a b :=
  ⟨first.1.trans (view.trans second.1.symm), first.2.trans second.2.symm⟩

/-! ## Setters -/

theorem askerView_bindTarget (peer : PeerId) :
    (s.bindPeer target peer).askerView target reqId =
      { s.askerView target reqId with
        address := some peer
        known := update (s.askerView target reqId).known peer true } := by
  have known : (fun probe => (s.bindPeer target peer).nameOf probe == target) =
      update (fun probe => s.nameOf probe == target) peer true := by
    funext probe
    by_cases same : probe = peer
    · subst same
      simp [SwarmState.bindPeer, SwarmState.nameOf]
    · simp [SwarmState.bindPeer, SwarmState.nameOf, update_of_ne same]
  simp only [SwarmState.askerView, known]
  simp [SwarmState.bindPeer]

/-- Binding another name makes the provider's name a peer may have had forgotten. -/
theorem askerView_bindOther {name : String} (other : name ≠ target) (peer : PeerId) :
    (s.bindPeer name peer).askerView target reqId =
      { s.askerView target reqId with
        known := update (s.askerView target reqId).known peer false } := by
  have known : (fun probe => (s.bindPeer name peer).nameOf probe == target) =
      update (fun probe => s.nameOf probe == target) peer false := by
    funext probe
    by_cases same : probe = peer
    · subst same
      simp [SwarmState.bindPeer, SwarmState.nameOf, other]
    · simp [SwarmState.bindPeer, SwarmState.nameOf, update_of_ne same]
  simp only [SwarmState.askerView, known]
  simp [SwarmState.bindPeer, update_of_ne (Ne.symm other)]

/-- Binding another name to a peer that is not known by the provider's. -/
theorem askerView_bindUnknown {name : String} (other : name ≠ target)
    (unknown : s.nameOf peer ≠ target) :
    (s.bindPeer name peer).askerView target reqId = s.askerView target reqId := by
  rw [askerView_bindOther other]
  have same : update (s.askerView target reqId).known peer false =
      (s.askerView target reqId).known := by
    rw [Function.update_eq_self_iff]
    simpa [SwarmState.askerView] using unknown
  rw [same]

theorem askerView_dropCaller {other : String} (differs : other ≠ reqId) :
    (s.dropCaller other).askerView target reqId = s.askerView target reqId := by
  simp [SwarmState.askerView, SwarmState.dropCaller, SwarmState.nameOf, update_of_ne differs.symm]

theorem askerView_dropCaller_self :
    (s.dropCaller reqId).askerView target reqId =
      { s.askerView target reqId with waiting := false } := by
  simp [SwarmState.askerView, SwarmState.dropCaller, SwarmState.nameOf]

theorem askerView_dropStreams {other : String} (differs : other ≠ reqId) :
    (s.dropStreams other).askerView target reqId = s.askerView target reqId := by
  simp [SwarmState.askerView, SwarmState.dropStreams, SwarmState.nameOf, update_of_ne differs.symm]

theorem askerView_dropStreams_self :
    (s.dropStreams reqId).askerView target reqId =
      { s.askerView target reqId with stream := none, early := [] } := by
  simp [SwarmState.askerView, SwarmState.dropStreams, SwarmState.nameOf]

theorem askerView_setStream (entry : Option PendingEncryptedStreamCtx) :
    ({ s with pendingEncryptedStreams := update s.pendingEncryptedStreams reqId entry } :
      SwarmState).askerView target reqId = { s.askerView target reqId with stream := entry } := by
  simp [SwarmState.askerView, SwarmState.nameOf]

theorem askerView_setEarly (chunks : List EncryptedStreamChunkData) :
    ({ s with pendingEncryptedStreamEarly := update s.pendingEncryptedStreamEarly reqId chunks } :
      SwarmState).askerView target reqId = { s.askerView target reqId with early := chunks } := by
  simp [SwarmState.askerView, SwarmState.nameOf]

theorem askerView_setStreamOther {other : String} (differs : other ≠ reqId)
    (entry : Option PendingEncryptedStreamCtx) :
    ({ s with pendingEncryptedStreams := update s.pendingEncryptedStreams other entry } :
      SwarmState).askerView target reqId = s.askerView target reqId := by
  simp [SwarmState.askerView, SwarmState.nameOf, update_of_ne differs.symm]

theorem askerView_setEarlyOther {other : String} (differs : other ≠ reqId)
    (chunks : List EncryptedStreamChunkData) :
    ({ s with pendingEncryptedStreamEarly := update s.pendingEncryptedStreamEarly other chunks } :
      SwarmState).askerView target reqId = s.askerView target reqId := by
  simp [SwarmState.askerView, SwarmState.nameOf, update_of_ne differs.symm]

theorem askerView_enqueue {pending : PendingOutboundProxy}
    (own : pending.targetMtrxaiPeer = target) :
    (s.enqueue pending).askerView target reqId =
      { s.askerView target reqId with queue := (s.askerView target reqId).queue ++ [pending] } := by
  simp [SwarmState.askerView, SwarmState.enqueue, SwarmState.nameOf, own]

theorem askerView_enqueueOther {pending : PendingOutboundProxy}
    (other : pending.targetMtrxaiPeer ≠ target) :
    (s.enqueue pending).askerView target reqId = s.askerView target reqId := by
  simp [SwarmState.askerView, SwarmState.enqueue, SwarmState.nameOf, other]

/-- Entering a request among those sent, or taking one out. -/
theorem askerView_setSent (id : OutboundRequestId) (entry : Option PendingOutboundProxy) :
    ({ s with pendingProxyByOutboundId := update s.pendingProxyByOutboundId id entry } :
      SwarmState).askerView target reqId =
      { s.askerView target reqId with
        sent := update (s.askerView target reqId).sent id
          (entry.filter (·.targetMtrxaiPeer = target)) } := by
  have sent : (fun probe => (update s.pendingProxyByOutboundId id entry probe).filter
      (·.targetMtrxaiPeer = target)) =
      update (fun probe => (s.pendingProxyByOutboundId probe).filter (·.targetMtrxaiPeer = target)) id
        (entry.filter (·.targetMtrxaiPeer = target)) := by
    funext probe
    by_cases same : probe = id
    · subst same
      simp
    · rw [update_of_ne same, update_of_ne same]
  simp only [SwarmState.askerView, SwarmState.nameOf, sent]

theorem askerView_noteSent (id : OutboundRequestId) (pending : PendingOutboundProxy) :
    (s.noteSent id pending).askerView target reqId =
      { s.askerView target reqId with
        sent := update (s.askerView target reqId).sent id
          ((some pending).filter (·.targetMtrxaiPeer = target)) } :=
  askerView_setSent id _

theorem askerView_dropSent (id : OutboundRequestId) :
    (s.dropSent id).askerView target reqId =
      { s.askerView target reqId with
        sent := update (s.askerView target reqId).sent id none } :=
  askerView_setSent id none

/-- Noting a request to another provider under a number that is not in use. -/
theorem askerView_noteOther {id : OutboundRequestId} {pending : PendingOutboundProxy}
    (other : pending.targetMtrxaiPeer ≠ target)
    (unused : (s.askerView target reqId).sent id = none) :
    (s.noteSent id pending).askerView target reqId = s.askerView target reqId := by
  have elsewhere : Option.filter (·.targetMtrxaiPeer = target) (some pending) = none := by
    simp [Option.filter_some, other]
  rw [askerView_noteSent, elsewhere, ← unused, Function.update_eq_self]

/-! ## Addresses -/

/-- The identities a name can come to be bound to. -/
def AddressOf (m : SwarmManager) (s : SwarmState) (name : String) (peer : PeerId) : Prop :=
  peer = resolvedPeer m s name ∨ peer = resolveLibp2pPeerId m.ids (s.cachedAddrs name) name ∨
    peer = resolveLibp2pPeerId m.ids [] name

/-- The names a manager may dial: those of the catalogs, and those requests are put to. -/
def Dialed (providerOf : String → String) (s : SwarmState) (name : String) : Prop :=
  (s.peerCache name).isSome ∨ ∃ reqId, providerOf reqId = name

/-- No other name that may be dialed has an address of the provider, or of a peer
known by its name. -/
def AddressesApart (m : SwarmManager) (providerOf : String → String) (target : String)
    (s : SwarmState) : Prop :=
  ∀ name, name ≠ target → Dialed providerOf s name → ∀ peer, AddressOf m s name peer →
    s.nameOf peer ≠ target ∧ ¬ AddressOf m s target peer

theorem dialed_of_cachedAddrs {name : String} (cached : s.cachedAddrs name ≠ []) :
    Dialed providerOf s name := by
  refine .inl ?_
  cases known : s.peerCache name with
  | none => simp [SwarmState.cachedAddrs, known] at cached
  | some record => rfl

/-- Binding a name to one of its addresses gives it no new one. -/
private theorem addressOf_bindPeer {name other : String} {peer : PeerId}
    (own : AddressOf m s name peer) {probe : PeerId}
    (has : AddressOf m (s.bindPeer name peer) other probe) : AddressOf m s other probe := by
  rcases has with resolved | cached | derived
  · by_cases same : other = name
    · subst same
      have bound : resolvedPeer m (s.bindPeer other peer) other = peer := by
        simp [resolvedPeer, SwarmState.bindPeer]
      rwa [resolved, bound]
    · refine .inl ?_
      rw [resolved]
      simp only [resolvedPeer, SwarmState.bindPeer, update_of_ne same]
      rfl
  · exact .inr (.inl cached)
  · exact .inr (.inr derived)

/-- Names bound to their own addresses stay apart. -/
theorem AddressesApart.bindPeer (apart : AddressesApart m providerOf target s) {name : String}
    {peer : PeerId} (own : AddressOf m s name peer) :
    AddressesApart m providerOf target (s.bindPeer name peer) := by
  intro other differs dialed probe has
  have before := apart other differs dialed probe (addressOf_bindPeer own has)
  refine ⟨?_, fun theirs => before.2 (addressOf_bindPeer own theirs)⟩
  by_cases same : probe = peer
  · subst same
    intro named
    have bound : name = target := by
      simpa [SwarmState.bindPeer, SwarmState.nameOf] using named
    subst bound
    exact before.2 own
  · simpa [SwarmState.bindPeer, SwarmState.nameOf, update_of_ne same] using before.1

/-- Addresses depend on the names and the catalogs only. -/
theorem AddressesApart.frame (apart : AddressesApart m providerOf target s)
    (names : t.mtrxaiToLibp2p = s.mtrxaiToLibp2p) (peers : t.libp2pToMtrxai = s.libp2pToMtrxai)
    (catalogs : t.peerCache = s.peerCache) : AddressesApart m providerOf target t := by
  intro name other dialed peer has
  simp only [Dialed, AddressOf, resolvedPeer, SwarmState.cachedAddrs, SwarmState.nameOf, names, peers,
    catalogs] at dialed has ⊢
  exact apart name other dialed peer has

theorem AddressesApart.resolve (apart : AddressesApart m providerOf target s) (name : String) :
    AddressesApart m providerOf target (resolveLibp2pPeer m s name) := by
  unfold resolveLibp2pPeer
  split
  · exact apart
  · exact apart.bindPeer (.inl rfl)

theorem AddressesApart.dialCached (apart : AddressesApart m providerOf target s) (name : String) :
    AddressesApart m providerOf target (dialCached m s name) := by
  unfold MtrxPeer.dialCached
  split
  · exact apart
  · exact apart.bindPeer (.inr (.inl rfl))

section Other

variable (apart : AddressesApart m providerOf target s) {name : String} (other : name ≠ target)

include apart other

theorem askerView_bindOwn (dialed : Dialed providerOf s name) {peer : PeerId}
    (own : AddressOf m s name peer) :
    (s.bindPeer name peer).askerView target reqId = s.askerView target reqId :=
  askerView_bindUnknown other (apart name other dialed peer own).1

theorem askerView_dialCached :
    (dialCached m s name).askerView target reqId = s.askerView target reqId := by
  unfold dialCached
  split
  · rfl
  · rename_i cached
    exact askerView_bindOwn apart other (dialed_of_cachedAddrs cached) (.inr (.inl rfl))

theorem askerView_resolve (dialed : Dialed providerOf s name) :
    (resolveLibp2pPeer m s name).askerView target reqId = s.askerView target reqId := by
  unfold resolveLibp2pPeer
  split
  · rfl
  · exact askerView_bindOwn apart other dialed (.inl rfl)

end Other

/-! ## Managers that are alike -/

section Alike

variable (view : s.askerView target reqId = t.askerView target reqId)

include view

theorem cachedAddrs_alike : s.cachedAddrs target = t.cachedAddrs target := by
  have cached : s.peerCache target = t.peerCache target := congrArg AskerView.cached view
  rw [SwarmState.cachedAddrs, cached]
  rfl

theorem resolvedPeer_alike : resolvedPeer m s target = resolvedPeer m t target := by
  have address : s.mtrxaiToLibp2p target = t.mtrxaiToLibp2p target := congrArg AskerView.address view
  rw [resolvedPeer, address, cachedAddrs_alike view]
  rfl

theorem nameOf_alike (peer : PeerId) : s.nameOf peer = target ↔ t.nameOf peer = target := by
  have known := congrFun (congrArg AskerView.known view) peer
  simp only [SwarmState.askerView] at known
  rw [← beq_iff_eq, known, beq_iff_eq]

theorem bindPeer_alike (name : String) (peer : PeerId) :
    (s.bindPeer name peer).askerView target reqId = (t.bindPeer name peer).askerView target reqId := by
  by_cases own : name = target
  · subst own
    rw [askerView_bindTarget, askerView_bindTarget, view]
  · rw [askerView_bindOther own, askerView_bindOther own, view]

theorem dialCached_alike :
    (dialCached m s target).askerView target reqId =
      (dialCached m t target).askerView target reqId := by
  unfold dialCached dialMtrxaiPeer
  rw [cachedAddrs_alike view]
  split
  · exact view
  · exact bindPeer_alike view _ _

theorem resolve_alike :
    (resolveLibp2pPeer m s target).askerView target reqId =
      (resolveLibp2pPeer m t target).askerView target reqId := by
  have address : s.mtrxaiToLibp2p target = t.mtrxaiToLibp2p target := congrArg AskerView.address view
  unfold resolveLibp2pPeer
  rw [address, resolvedPeer_alike view]
  split
  · exact view
  · exact bindPeer_alike view _ _

/-- A delivery is heard alike. -/
theorem deliverLocal_alike (other : String) (item : Except String String) :
    (deliverLocal s other item).filterMap (SwarmOutput.heardBy reqId) =
      (deliverLocal t other item).filterMap (SwarmOutput.heardBy reqId) := by
  have waiting : s.pendingProxyByReqId reqId = t.pendingProxyByReqId reqId :=
    congrArg AskerView.waiting view
  unfold deliverLocal
  by_cases same : other = reqId
  · subst same
    rw [waiting]
  · split <;> split <;> simp [SwarmOutput.heardBy, same]

theorem dropCaller_alike (other : String) :
    (s.dropCaller other).askerView target reqId = (t.dropCaller other).askerView target reqId := by
  by_cases same : other = reqId
  · subst same
    rw [askerView_dropCaller_self, askerView_dropCaller_self, view]
  · rw [askerView_dropCaller same, askerView_dropCaller same, view]

theorem dropStreams_alike (other : String) :
    (s.dropStreams other).askerView target reqId = (t.dropStreams other).askerView target reqId := by
  by_cases same : other = reqId
  · subst same
    rw [askerView_dropStreams_self, askerView_dropStreams_self, view]
  · rw [askerView_dropStreams same, askerView_dropStreams same, view]

theorem failProxyRequest_alike (other error : String) :
    SwarmAlike target reqId (failProxyRequest s other error) (failProxyRequest t other error) :=
  ⟨dropCaller_alike view other, deliverLocal_alike view other _⟩

theorem dropSent_alike (id : OutboundRequestId) :
    (s.dropSent id).askerView target reqId = (t.dropSent id).askerView target reqId := by
  rw [askerView_dropSent, askerView_dropSent, view]

end Alike

/-! ## What is of no concern -/

theorem deliverLocal_unheard {other : String} (differs : other ≠ reqId)
    (item : Except String String) :
    (deliverLocal s other item).filterMap (SwarmOutput.heardBy reqId) = [] := by
  unfold deliverLocal
  split <;> simp [SwarmOutput.heardBy, differs]

theorem failProxyRequest_unheard {other : String} (differs : other ≠ reqId) (error : String) :
    SwarmUnheard target reqId s (failProxyRequest s other error) :=
  ⟨askerView_dropCaller differs, deliverLocal_unheard differs _⟩

end MtrxPeer
