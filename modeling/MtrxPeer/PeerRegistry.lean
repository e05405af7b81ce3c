import MtrxPeer.PeerNames

/-! The registry of connected peers that a swarm manager keeps: an entry for each
connected peer, under the name the peer had when it connected. -/
namespace MtrxPeer

open Function (update update_of_ne update_self)

/-- A peer in the registry. -/
structure TrackedPeer where
  peerId : String
  clusterId : Option String
  swarmId : Option String
  dataChannelOpen : Bool
  attestationFlags : Nat

/-- `swarm_peer_registry_key`. -/
def swarmPeerRegistryKey (peerId swarmId : String) : String := peerId ++ "@swarm:" ++ swarmId

/-- A manager and the registry, which it shares with others. -/
structure TrackingState where
  manager : SwarmState
  peerRegistry : String → Option TrackedPeer

variable (m : SwarmManager)

/-- The entry of a peer that `track_libp2p_peer` makes. -/
def trackedPeer (name : String) : TrackedPeer := ⟨name, none, some m.swarmId, true, 0⟩

/-- The registry after an event: an entry is made when a peer is tracked, and taken out
when it is untracked. -/
def registryAfter (s : TrackingState) : SwarmEvent → String → Option TrackedPeer
  | .connectionEstablished peer _ sendings =>
    if peer = m.localPeerId || m.isBootnode peer || s.manager.handledSwarmPeers peer then
      s.peerRegistry
    else
      let name := (flushedState m s.manager peer sendings).nameOf peer
      update s.peerRegistry (swarmPeerRegistryKey name m.swarmId) (some (trackedPeer m name))
  | .connectionClosed peer _ =>
    update s.peerRegistry (swarmPeerRegistryKey (s.manager.nameOf peer) m.swarmId) none
  | _ => s.peerRegistry

def trackingMachine : Machine TrackingState SwarmEvent SwarmOutput where
  step s e := (⟨(swarmStep m s.manager e).1, registryAfter m s e⟩, (swarmStep m s.manager e).2)

/-! ## What the registry should say -/

/-- A peer of the swarm is connected. -/
def SwarmState.Peered (s : SwarmState) (peer : PeerId) : Prop :=
  s.connected peer = true ∧ m.isBootnode peer = false ∧ peer ≠ m.localPeerId

/-- An entry of the swarm. -/
def TrackingState.Entry (s : TrackingState) (key : String) : Prop :=
  ∃ entry, s.peerRegistry key = some entry ∧ entry.swarmId = some m.swarmId

/-- The entries of the swarm and the connected peers are in one-to-one correspondence,
each peer having the entry under its name. -/
def TrackingState.Accurate (s : TrackingState) : Prop :=
  ∃ f : {peer // s.manager.Peered m peer} ≃ {key // s.Entry m key},
    ∀ peer, (f peer).1 = swarmPeerRegistryKey (s.manager.nameOf peer.1) m.swarmId

/-- The names are kept apart, and only the last connection to a peer closes. -/
def TrackingApart (s : TrackingState) (e : SwarmEvent) : Prop :=
  NamesApart m s.manager e ∧
    match e with
    | .connectionClosed peer connected => connected = true → m.isBootnode peer = true
    | _ => True

/-! ## What is kept -/

/-- The peers that are handled are the connected ones; these have names, and the
entries are theirs. -/
structure Tracking (s : TrackingState) : Prop where
  inverse : s.manager.Inverse
  handled : ∀ peer, s.manager.handledSwarmPeers peer = true ↔ s.manager.Peered m peer
  named : ∀ peer, s.manager.Peered m peer → s.manager.libp2pToMtrxai peer ≠ none
  entries : ∀ key, s.Entry m key ↔ ∃ peer, s.manager.Peered m peer ∧
    key = swarmPeerRegistryKey (s.manager.nameOf peer) m.swarmId

variable {m} {s : TrackingState}

theorem swarmPeerRegistryKey_injective {name other swarmId : String}
    (same : swarmPeerRegistryKey name swarmId = swarmPeerRegistryKey other swarmId) :
    name = other := by
  unfold swarmPeerRegistryKey at same
  have chars := congrArg String.toList same
  simp only [String.toList_append] at chars
  exact String.toList_injective (List.append_cancel_right (List.append_cancel_right chars))

/-- Two peers with names do not share one. -/
theorem Tracking.apart (tracking : Tracking m s) {peer other : PeerId}
    (peered : s.manager.Peered m peer) (peered' : s.manager.Peered m other)
    (same : s.manager.nameOf peer = s.manager.nameOf other) : peer = other := by
  obtain ⟨name, known⟩ := Option.ne_none_iff_exists'.mp (tracking.named peer peered)
  obtain ⟨name', known'⟩ := Option.ne_none_iff_exists'.mp (tracking.named other peered')
  rw [SwarmState.nameOf, SwarmState.nameOf, known, known'] at same
  obtain rfl : name = name' := same
  have first := (tracking.inverse name peer).mpr known
  rw [(tracking.inverse name other).mpr known'] at first
  exact (Option.some.inj first).symm

theorem Tracking.accurate (tracking : Tracking m s) : s.Accurate m := by
  let key (peer : {peer // s.manager.Peered m peer}) : {key // s.Entry m key} :=
    ⟨swarmPeerRegistryKey (s.manager.nameOf peer.1) m.swarmId,
      (tracking.entries _).mpr ⟨peer.1, peer.2, rfl⟩⟩
  have bijective : Function.Bijective key := by
    refine ⟨?_, ?_⟩
    · intro peer other same
      have names := swarmPeerRegistryKey_injective (congrArg Subtype.val same)
      exact Subtype.ext (tracking.apart peer.2 other.2 names)
    · rintro ⟨entryKey, entry⟩
      obtain ⟨peer, peered, rfl⟩ := (tracking.entries entryKey).mp entry
      exact ⟨⟨peer, peered⟩, rfl⟩
  exact ⟨Equiv.ofBijective key bijective, fun peer => rfl⟩

/-! ## The handled peers -/

section Handled

variable {s : SwarmState}

@[simp] private theorem dialCached_handled (name : String) :
    (dialCached m s name).handledSwarmPeers = s.handledSwarmPeers := by
  unfold dialCached
  split <;> rfl

@[simp] private theorem resolve_handled (name : String) :
    (resolveLibp2pPeer m s name).handledSwarmPeers = s.handledSwarmPeers := by
  unfold resolveLibp2pPeer
  split <;> rfl

@[simp] private theorem sendOutboundProxy_handled (pending : PendingOutboundProxy) (sending : Sending) :
    (sendOutboundProxy m s pending sending).1.handledSwarmPeers = s.handledSwarmPeers :=
  (sendOutboundProxy_names s pending sending).handled.trans (resolve_handled _)

private theorem onProxyCommand_handled (cmd : ProxyRequestCommand) (ranked : List String)
    (sending : Sending) :
    (onProxyCommand m s cmd ranked sending).1.handledSwarmPeers = s.handledSwarmPeers := by
  have located (target : String) :
      (locateProvider m s target).handledSwarmPeers = s.handledSwarmPeers := by
    unfold locateProvider
    dsimp only
    split
    · rfl
    · exact dialCached_handled target
  unfold onProxyCommand
  split
  · rfl
  · rename_i target chosen
    dsimp only
    split
    · exact located target
    · unfold submitRequest
      split
      · exact (sendOutboundProxy_handled _ _).trans (located target)
      · split
        · exact located target
        · exact (dialCached_handled _).trans (located target)

private theorem onOutboundFailure_handled (id : OutboundRequestId) (retryable : Bool) (error : String)
    (sending : Sending) :
    (onOutboundFailure m s id retryable error sending).1.handledSwarmPeers = s.handledSwarmPeers := by
  unfold onOutboundFailure
  split
  · rfl
  · dsimp only
    split
    · split
      · exact sendOutboundProxy_handled _ _
      · rfl
    · rfl

private theorem drainStream_handled (reqId : String) (ctx : PendingEncryptedStreamCtx) :
    (drainStream m s reqId ctx).1.handledSwarmPeers = s.handledSwarmPeers := by
  unfold drainStream
  dsimp only
  split <;> rfl

private theorem onSwarmResponse_handled (peer : PeerId) (id : OutboundRequestId) (msg : StreamMessage) :
    (onSwarmResponse m s peer id msg).1.handledSwarmPeers = s.handledSwarmPeers := by
  unfold onSwarmResponse
  dsimp only
  split
  · rfl
  · split
    · rfl
    · split
      · rfl
      · split
        · split
          · rfl
          · unfold onStreamAck
            split
            · rfl
            · dsimp only
              split
              · exact drainStream_handled ..
              · rfl
        · unfold onEncryptedResponse
          dsimp only
          split <;> rfl
    · rfl

private theorem sendReverse_handled (peer : PeerId) (msgs : List StreamMessage) :
    (sendReverse m s peer msgs).1.handledSwarmPeers = s.handledSwarmPeers := by
  unfold sendReverse
  split
  · rfl
  · split
    · rfl
    · cases s.libp2pToMtrxai peer with
      | none => rfl
      | some mtrxai => exact dialCached_handled mtrxai

private theorem onSwarmRequest_handled (peer : PeerId) (msg : StreamMessage) (answers : Answers) :
    (onSwarmRequest m s peer msg answers).1.handledSwarmPeers = s.handledSwarmPeers := by
  cases msg with
  | catalogSync record =>
    simp only [onSwarmRequest, applyRemoteCatalog]
    split <;> rfl
  | proxyRequest =>
    simp only [onSwarmRequest]
    split <;> rfl
  | encryptedProxyRequest =>
    simp only [onSwarmRequest]
    split
    · rfl
    · split
      · unfold serveEncryptedRequest
        dsimp only
        rw [sendReverse_handled]
        split <;> rfl
      · rfl
  | encryptedProxyStreamChunk reqId seq nonce ciphertext version done =>
    simp only [onSwarmRequest, onEncryptedStreamChunk]
    split
    · split
      · exact drainStream_handled ..
      · rfl
    · rfl
  | proxyRequestEnd reqId =>
    simp only [onSwarmRequest, onProxyRequestEnd]
    split <;> rfl
  | _ => rfl

private theorem syncPresence_handled (peers : List (String × List String)) :
    (syncPresence m s peers).handledSwarmPeers = s.handledSwarmPeers := by
  induction peers generalizing s with
  | nil => rfl
  | cons first rest ih =>
    obtain ⟨mtrxai, addrs⟩ := first
    unfold syncPresence
    split
    · exact ih
    · dsimp only
      split
      · split
        · exact ih
        · exact ih
      · split
        · exact ih
        · exact ih

/-- Only a connection that comes or goes changes which peers are handled. -/
theorem swarmStep_handled {e : SwarmEvent}
    (comes : ∀ peer cached sendings, e ≠ .connectionEstablished peer cached sendings)
    (goes : ∀ peer connected, e ≠ .connectionClosed peer connected) :
    (swarmStep m s e).1.handledSwarmPeers = s.handledSwarmPeers := by
  cases e with
  | request peer msg answers => exact onSwarmRequest_handled ..
  | response peer id msg => exact onSwarmResponse_handled ..
  | gossip source record =>
    simp only [swarmStep, applyRemoteCatalog]
    split <;> rfl
  | proxyCommand cmd ranked sending => exact onProxyCommand_handled ..
  | outboundFailure id retryable error sending => exact onOutboundFailure_handled ..
  | connectionEstablished peer cached sendings => exact absurd rfl (comes peer cached sendings)
  | connectionClosed peer connected => exact absurd rfl (goes peer connected)
  | presence peers => exact syncPresence_handled peers
  | proxyChanged proxy => rfl
  | requestsNumbered count => rfl

end Handled

/-! ## One event -/

/-- A change that leaves connections and handled peers alone, and names where they are. -/
private theorem Tracking.frame {t : TrackingState} (tracking : Tracking m s)
    (inverse : t.manager.Inverse)
    (peered : ∀ peer, t.manager.Peered m peer ↔ s.manager.Peered m peer)
    (handled : t.manager.handledSwarmPeers = s.manager.handledSwarmPeers)
    (registry : t.peerRegistry = s.peerRegistry)
    (kept : ∀ peer name, s.manager.libp2pToMtrxai peer = some name →
      t.manager.libp2pToMtrxai peer = some name) : Tracking m t := by
  have named (peer : PeerId) (there : s.manager.Peered m peer) :
      t.manager.libp2pToMtrxai peer = s.manager.libp2pToMtrxai peer := by
    obtain ⟨name, known⟩ := Option.ne_none_iff_exists'.mp (tracking.named peer there)
    rw [known, kept peer name known]
  refine ⟨inverse, ?_, ?_, ?_⟩
  · intro peer
    rw [handled, peered, tracking.handled]
  · intro peer there
    rw [named peer ((peered peer).mp there)]
    exact tracking.named peer ((peered peer).mp there)
  · intro key
    have same : t.Entry m key ↔ s.Entry m key := by
      rw [TrackingState.Entry, TrackingState.Entry, registry]
    rw [same, tracking.entries]
    constructor
    · rintro ⟨peer, there, rfl⟩
      refine ⟨peer, (peered peer).mpr there, ?_⟩
      rw [SwarmState.nameOf, SwarmState.nameOf, named peer there]
    · rintro ⟨peer, there, rfl⟩
      have before := (peered peer).mp there
      refine ⟨peer, before, ?_⟩
      rw [SwarmState.nameOf, SwarmState.nameOf, named peer before]

/-- Whose name was kept is called by it. -/
private theorem nameOf_kept {t s : SwarmState} {peer : PeerId}
    (known : t.libp2pToMtrxai peer = s.libp2pToMtrxai peer) : t.nameOf peer = s.nameOf peer := by
  rw [SwarmState.nameOf, SwarmState.nameOf, known]

/-- A peer goes, and its entry is taken out; the others keep their names. -/
private theorem Tracking.remove {t : TrackingState} {peer : PeerId} (tracking : Tracking m s)
    (inverse : t.manager.Inverse)
    (peered : ∀ probe, t.manager.Peered m probe ↔ s.manager.Peered m probe ∧ probe ≠ peer)
    (handled : ∀ probe, t.manager.handledSwarmPeers probe = true ↔
      s.manager.Peered m probe ∧ probe ≠ peer)
    (known : ∀ probe, probe ≠ peer →
      t.manager.libp2pToMtrxai probe = s.manager.libp2pToMtrxai probe)
    (apart : ∀ probe, s.manager.Peered m probe → probe ≠ peer →
      s.manager.nameOf probe ≠ s.manager.nameOf peer)
    (registry : t.peerRegistry =
      update s.peerRegistry (swarmPeerRegistryKey (s.manager.nameOf peer) m.swarmId) none) :
    Tracking m t := by
  refine ⟨inverse, fun probe => (handled probe).trans (peered probe).symm, ?_, ?_⟩
  · intro probe there
    obtain ⟨before, other⟩ := (peered probe).mp there
    rw [known probe other]
    exact tracking.named probe before
  · intro key
    have names (probe : PeerId) (other : probe ≠ peer) :
        t.manager.nameOf probe = s.manager.nameOf probe := nameOf_kept (known probe other)
    by_cases own : key = swarmPeerRegistryKey (s.manager.nameOf peer) m.swarmId
    · refine iff_of_false ?_ ?_
      · rintro ⟨entry, there, -⟩
        rw [registry, own, update_self] at there
        cases there
      · rintro ⟨probe, there, same⟩
        obtain ⟨before, other⟩ := (peered probe).mp there
        rw [own, names probe other] at same
        exact apart probe before other (swarmPeerRegistryKey_injective same).symm
    · have same : t.Entry m key ↔ s.Entry m key := by
        rw [TrackingState.Entry, registry, update_of_ne own]
        rfl
      rw [same, tracking.entries]
      constructor
      · rintro ⟨probe, before, rfl⟩
        have other : probe ≠ peer := by
          rintro rfl
          exact own rfl
        exact ⟨probe, (peered probe).mpr ⟨before, other⟩, by rw [names probe other]⟩
      · rintro ⟨probe, there, rfl⟩
        obtain ⟨before, other⟩ := (peered probe).mp there
        exact ⟨probe, before, by rw [names probe other]⟩

/-- A peer comes, and an entry is made under its name; the others keep theirs. -/
private theorem Tracking.add {t : TrackingState} {peer : PeerId} {name : String}
    (tracking : Tracking m s) (inverse : t.manager.Inverse)
    (peered : ∀ probe, t.manager.Peered m probe ↔ s.manager.Peered m probe ∨ probe = peer)
    (handled : ∀ probe, t.manager.handledSwarmPeers probe = true ↔
      s.manager.Peered m probe ∨ probe = peer)
    (kept : ∀ probe name, s.manager.libp2pToMtrxai probe = some name →
      t.manager.libp2pToMtrxai probe = some name)
    (known : t.manager.libp2pToMtrxai peer = some name)
    (registry : t.peerRegistry =
      update s.peerRegistry (swarmPeerRegistryKey name m.swarmId) (some (trackedPeer m name))) :
    Tracking m t := by
  refine ⟨inverse, fun probe => (handled probe).trans (peered probe).symm, ?_, ?_⟩
  · intro probe there
    rcases (peered probe).mp there with before | rfl
    · obtain ⟨name, called⟩ := Option.ne_none_iff_exists'.mp (tracking.named probe before)
      rw [kept probe name called]
      exact Option.some_ne_none name
    · rw [known]
      exact Option.some_ne_none name
  · intro key
    have names (probe : PeerId) (before : s.manager.Peered m probe) :
        t.manager.nameOf probe = s.manager.nameOf probe := by
      obtain ⟨name, called⟩ := Option.ne_none_iff_exists'.mp (tracking.named probe before)
      exact nameOf_kept (by rw [called, kept probe name called])
    have its : t.manager.nameOf peer = name := by
      rw [SwarmState.nameOf, known]
      rfl
    have entry : t.Entry m key ↔ key = swarmPeerRegistryKey name m.swarmId ∨ s.Entry m key := by
      rw [TrackingState.Entry, registry]
      by_cases own : key = swarmPeerRegistryKey name m.swarmId
      · rw [own, update_self]
        exact iff_of_true ⟨_, rfl, rfl⟩ (.inl rfl)
      · rw [update_of_ne own]
        simp only [own, false_or]
        rfl
    rw [entry, tracking.entries]
    constructor
    · rintro (rfl | ⟨probe, before, rfl⟩)
      · exact ⟨peer, (peered peer).mpr (.inr rfl), by rw [its]⟩
      · exact ⟨probe, (peered probe).mpr (.inl before), by rw [names probe before]⟩
    · rintro ⟨probe, there, rfl⟩
      rcases (peered probe).mp there with before | rfl
      · exact .inr ⟨probe, before, by rw [names probe before]⟩
      · exact .inl (by rw [its])

private theorem swarmStep_registered {s : SwarmState} {e : SwarmEvent}
    (comes : ¬ ∃ peer cached sendings, e = .connectionEstablished peer cached sendings)
    (goes : ¬ ∃ peer connected, e = .connectionClosed peer connected) :
    (swarmStep m s e).1.connected = s.connected := by
  have change := @swarmStep_surroundings m s e
  show (swarmStep m s e).1.surroundings.connected = s.connected
  generalize (swarmStep m s e).1.surroundings = later at change ⊢
  cases change with
  | established peer cached sendings => exact absurd ⟨_, _, _, rfl⟩ comes
  | closed peer connected => exact absurd ⟨_, _, rfl⟩ goes
  | _ => rfl

section Closed

variable {peer : PeerId} {connected : Bool}

private theorem closed_peered (last : connected = true → m.isBootnode peer = true) (probe : PeerId) :
    (onConnectionClosed m s.manager peer connected).Peered m probe ↔
      s.manager.Peered m probe ∧ probe ≠ peer := by
  have around := congrArg Surroundings.connected
    (@onConnectionClosed_surroundings m s.manager peer connected)
  have now : (onConnectionClosed m s.manager peer connected).connected =
    update s.manager.connected peer connected := around
  rw [SwarmState.Peered, SwarmState.Peered, now]
  by_cases same : probe = peer
  · subst same
    rw [update_self]
    refine iff_of_false ?_ (fun both => both.2 rfl)
    rintro ⟨still, notBoot, -⟩
    rw [last still] at notBoot
    cases notBoot
  · simp [same]

private theorem closed_handled (tracking : Tracking m s)
    (last : connected = true → m.isBootnode peer = true) (probe : PeerId) :
    (onConnectionClosed m s.manager peer connected).handledSwarmPeers probe = true ↔
      s.manager.Peered m probe ∧ probe ≠ peer := by
  unfold onConnectionClosed SwarmState.untrack
  dsimp only
  split
  · rename_i stays
    dsimp only
    rw [tracking.handled]
    refine ⟨fun there => ⟨there, ?_⟩, And.left⟩
    rintro rfl
    have boot : m.isBootnode probe = true := (Bool.or_eq_true_iff.mp stays).elim id last
    rw [there.2.1] at boot
    cases boot
  · dsimp only
    by_cases same : probe = peer
    · subst same
      simp
    · rw [update_of_ne same, tracking.handled]
      exact ⟨fun there => ⟨there, same⟩, And.left⟩

private theorem closed_known (probe : PeerId) (other : probe ≠ peer) :
    (onConnectionClosed m s.manager peer connected).libp2pToMtrxai probe =
      s.manager.libp2pToMtrxai probe := by
  unfold onConnectionClosed SwarmState.untrack
  dsimp only
  rw [update_of_ne other]
  split <;> rfl

end Closed

/-- A connection that goes takes its peer out of all tables. -/
private theorem tracking_closed {peer : PeerId} {connected : Bool} (tracking : Tracking m s)
    (apart : TrackingApart m s (.connectionClosed peer connected)) :
    Tracking m ((trackingMachine m).step s (.connectionClosed peer connected)).1 := by
  obtain ⟨⟨-, named⟩, last⟩ := apart
  have nameApart (probe : PeerId) (there : s.manager.Peered m probe) (other : probe ≠ peer) :
      s.manager.nameOf probe ≠ s.manager.nameOf peer := by
    obtain ⟨name, called⟩ := Option.ne_none_iff_exists'.mp (tracking.named probe there)
    have bound := (tracking.inverse name probe).mpr called
    rw [SwarmState.nameOf, SwarmState.nameOf, called, Option.getD_some]
    rintro rfl
    cases its : s.manager.libp2pToMtrxai peer with
    | none =>
      rw [its, Option.getD_none, named its] at bound
      cases bound
    | some name =>
      rw [its, Option.getD_some, (tracking.inverse name peer).mpr its] at bound
      exact other (Option.some.inj bound).symm
  exact tracking.remove (onConnectionClosed_inverse connected tracking.inverse named)
    (closed_peered last) (closed_handled tracking last) closed_known nameApart rfl

/-- A peer that is tracked is handled, and called by the name it has its entry under. -/
private theorem newly_tracked {s : SwarmState} {peer : PeerId} {cached : List String}
    {sendings : String → Sending} {old : PeerId → Option String}
    (admits : Admits old s (ConnectionOffers m s peer cached)) (remote : peer ≠ m.localPeerId)
    (new : (m.isBootnode peer || s.handledSwarmPeers peer) = false) :
    (onConnectionEstablished m s peer cached sendings).1.handledSwarmPeers =
        update s.handledSwarmPeers peer true ∧
      (onConnectionEstablished m s peer cached sendings).1.libp2pToMtrxai peer =
        some ((flushedState m s peer sendings).nameOf peer) := by
  have tracked := @Admits.tracked m s old peer cached sendings admits remote new
  have catalogs := congrArg Surroundings.peerCache (@flushedState_surroundings m s peer sendings)
  have known : ({ flushedState m s peer sendings with
      handledSwarmPeers := update s.handledSwarmPeers peer true }.track peer).libp2pToMtrxai peer =
      some ((flushedState m s peer sendings).nameOf peer) := update_self ..
  rw [onConnectionEstablished_eq remote, if_neg (by simp [new])]
  unfold mapConnectedPeer
  split
  · rename_i name found
    refine ⟨rfl, ?_⟩
    have offered := connectionOffers_cached remote new catalogs found
    rw [tracked.fits.right name peer _ offered known]
    exact update_self ..
  · exact ⟨rfl, known⟩

section Established

variable {peer : PeerId} {cached : List String} {sendings : String → Sending}

private theorem established_peered_other (probe : PeerId) (other : probe ≠ peer) :
    (onConnectionEstablished m s.manager peer cached sendings).1.Peered m probe ↔
      s.manager.Peered m probe := by
  have now : (onConnectionEstablished m s.manager peer cached sendings).1.connected =
      update s.manager.connected peer true := congrArg Surroundings.connected
    (@onConnectionEstablished_surroundings m s.manager peer cached sendings)
  rw [SwarmState.Peered, SwarmState.Peered, now, update_of_ne other]

private theorem established_connected :
    (onConnectionEstablished m s.manager peer cached sendings).1.connected peer = true := by
  have now : (onConnectionEstablished m s.manager peer cached sendings).1.connected =
      update s.manager.connected peer true := congrArg Surroundings.connected
    (@onConnectionEstablished_surroundings m s.manager peer cached sendings)
  rw [now, update_self]

/-- Which peers are connected is the same after a connection of a peer that is no new one. -/
private theorem established_peered_old (tracking : Tracking m s)
    (old : peer = m.localPeerId ∨ m.isBootnode peer = true ∨
      s.manager.handledSwarmPeers peer = true) (probe : PeerId) :
    (onConnectionEstablished m s.manager peer cached sendings).1.Peered m probe ↔
      s.manager.Peered m probe := by
  by_cases same : probe = peer
  · subst same
    rcases old with own | boot | handled
    · exact iff_of_false (fun there => there.2.2 own) fun there => there.2.2 own
    · have notBoot (t : SwarmState) : ¬ t.Peered m probe := fun there => by
        rw [there.2.1] at boot
        cases boot
      exact iff_of_false (notBoot _) (notBoot _)
    · have before := (tracking.handled probe).mp handled
      exact iff_of_true ⟨established_connected, before.2⟩ before
  · exact established_peered_other probe same

private theorem established_handled_old
    (old : peer = m.localPeerId ∨ m.isBootnode peer = true ∨
      s.manager.handledSwarmPeers peer = true) :
    (onConnectionEstablished m s.manager peer cached sendings).1.handledSwarmPeers =
      s.manager.handledSwarmPeers := by
  by_cases own : peer = m.localPeerId
  · unfold onConnectionEstablished
    rw [if_pos own]
  · rw [onConnectionEstablished_eq own, if_pos (by simpa [own] using old)]
    exact flushedState_handled s.manager peer sendings

end Established

/-- A connection that comes enters its peer, if it is the first. -/
private theorem tracking_established {peer : PeerId} {cached : List String}
    {sendings : String → Sending} (tracking : Tracking m s)
    (apart : TrackingApart m s (.connectionEstablished peer cached sendings)) :
    Tracking m ((trackingMachine m).step s (.connectionEstablished peer cached sendings)).1 := by
  have admits := admits_self tracking.inverse apart.1
  have established := @Admits.connectionEstablished m s.manager _ peer cached sendings admits
  by_cases old : peer = m.localPeerId ∨ m.isBootnode peer = true ∨
      s.manager.handledSwarmPeers peer = true
  · have registry : registryAfter m s (.connectionEstablished peer cached sendings) =
        s.peerRegistry := by
      simp only [registryAfter]
      rw [if_pos]
      simpa [or_assoc] using old
    exact tracking.frame established.inverse (established_peered_old tracking old)
      (established_handled_old old) registry established.kept
  · obtain ⟨remote, notBoot, unhandled⟩ : peer ≠ m.localPeerId ∧ m.isBootnode peer = false ∧
        s.manager.handledSwarmPeers peer = false := by
      simpa [not_or] using old
    obtain ⟨handled, known⟩ := newly_tracked admits remote (by simp [notBoot, unhandled])
    apply tracking.add established.inverse _ _ established.kept known
    · simp only [trackingMachine, registryAfter]
      rw [if_neg (by simp [remote, notBoot, unhandled])]
    · intro probe
      by_cases same : probe = peer
      · subst same
        exact iff_of_true ⟨established_connected, notBoot, remote⟩ (.inr rfl)
      · refine (established_peered_other probe same).trans ?_
        simp [same]
    · intro probe
      show (onConnectionEstablished m s.manager peer cached sendings).1.handledSwarmPeers probe = true ↔ _
      rw [handled]
      by_cases same : probe = peer
      · subst same
        simp
      · rw [update_of_ne same, tracking.handled]
        simp [same]

/-- What is kept over an event. -/
theorem tracking_step {e : SwarmEvent} (tracking : Tracking m s) (apart : TrackingApart m s e) :
    Tracking m ((trackingMachine m).step s e).1 := by
  by_cases comes : ∃ peer cached sendings, e = .connectionEstablished peer cached sendings
  · obtain ⟨peer, cached, sendings, rfl⟩ := comes
    exact tracking_established tracking apart
  by_cases goes : ∃ peer connected, e = .connectionClosed peer connected
  · obtain ⟨peer, connected, rfl⟩ := goes
    exact tracking_closed tracking apart
  have open_ : ∀ peer connected, e ≠ .connectionClosed peer connected :=
    fun peer connected same => goes ⟨peer, connected, same⟩
  have admits := swarmStep_admits tracking.inverse apart.1 open_
  have connected := @swarmStep_registered m s.manager e comes goes
  have handled := @swarmStep_handled m s.manager e
    (fun peer cached sendings same => comes ⟨peer, cached, sendings, same⟩) open_
  have registry : registryAfter m s e = s.peerRegistry := by
    cases e with
    | connectionEstablished peer cached sendings => exact absurd ⟨_, _, _, rfl⟩ comes
    | connectionClosed peer connected => exact absurd ⟨_, _, rfl⟩ goes
    | _ => rfl
  refine tracking.frame admits.inverse (fun peer => ?_) handled registry admits.kept
  show (swarmStep m s.manager e).1.Peered m peer ↔ _
  rw [SwarmState.Peered, SwarmState.Peered, connected]

/-- In a run in which names are kept apart and peers have one connection, or close the
last one only, the registry tells which peers are connected. -/
theorem registry_accurate {proxy : ProxyState} {nextReqId : Nat}
    {registry : String → Option TrackedPeer} {past : List (Record TrackingState SwarmEvent SwarmOutput)}
    (others : ∀ key entry, registry key = some entry → entry.swarmId ≠ some m.swarmId)
    (ran : (trackingMachine m).Reaches ⟨.initial proxy nextReqId, registry⟩ past s)
    (apart : ∀ r ∈ past, TrackingApart m r.before r.event) : s.Accurate m := by
  have init : Tracking m ⟨.initial proxy nextReqId, registry⟩ := by
    refine ⟨mutuallyInverse_empty, ?_, ?_, ?_⟩
    · intro peer
      simp [SwarmState.Peered, SwarmState.initial]
    · rintro peer ⟨connected, -⟩
      cases connected
    · intro key
      refine iff_of_false ?_ ?_
      · rintro ⟨entry, there, own⟩
        exact others key entry there own
      · rintro ⟨peer, ⟨connected, -⟩, -⟩
        cases connected
  exact (ran.invariant (fun _ s => Tracking m s) (fun r => TrackingApart m r.before r.event) init
    (fun _ _ _ tracking meets => tracking_step tracking meets) apart).accurate

private def sampleTracked (events : List SwarmEvent) :
    List (Record TrackingState SwarmEvent SwarmOutput) × TrackingState :=
  (trackingMachine (sampleSwarmManager true false)).history ⟨sampleSwarm, fun _ => none⟩ events

private def sampleConnection : SwarmEvent :=
  .connectionEstablished "P" [] fun _ => ⟨⟨[], [], 0⟩, 0⟩

/-- A connection of a peer with a name, when nothing is queued. -/
private theorem namesApart_known {s : SwarmState} {peer : PeerId} {sendings : String → Sending}
    (idle : s.pendingOutboundProxies = []) (known : s.libp2pToMtrxai peer ≠ none) :
    NamesApart m s (.connectionEstablished peer [] sendings) := by
  have nothing : ∀ name probe, ¬ Offers m s (.connectionEstablished peer [] sendings) name probe := by
    rintro name probe ⟨-, ⟨pending, member, -⟩ | ⟨-, -, ⟨-, unknown, -⟩ | found⟩⟩
    · rw [idle] at member
      cases member
    · exact known unknown
    · cases found
  exact ⟨⟨fun a b _ pair => absurd pair (nothing a b), fun a b _ pair => absurd pair (nothing a b),
    fun a b _ _ pair => absurd pair (nothing a b)⟩, trivial⟩

/-- A peer connects after its catalog came. -/
theorem registry_accurate_sample :
    (sampleTracked [.gossip "P" (sampleCatalog "p" "P"), sampleConnection]).2.Accurate
      (sampleSwarmManager true false) := by
  refine registry_accurate (m := sampleSwarmManager true false) (by simp)
    (Machine.reaches_history _ _ _) ?_
  refine List.forall_mem_cons.mpr ⟨⟨?_, trivial⟩, List.forall_mem_cons.mpr ⟨⟨?_, trivial⟩, by simp⟩⟩
  · exact namesApart_known rfl (by decide)
  · exact namesApart_gossip (by decide) (by decide)

/-- One of two connections to a peer closes, and its entry is gone. -/
theorem registry_forgets_connected :
    ∃ past s, (trackingMachine (sampleSwarmManager true false)).Reaches
      ⟨sampleSwarm, fun _ => none⟩ past s ∧ ¬ s.Accurate (sampleSwarmManager true false) := by
  let events : List SwarmEvent := [.gossip "P" (sampleCatalog "p" "P"), sampleConnection,
    sampleConnection, .connectionClosed "P" true]
  refine ⟨(sampleTracked events).1, (sampleTracked events).2, Machine.reaches_history _ _ _, ?_⟩
  rintro ⟨f, keys⟩
  have peered : (sampleTracked events).2.manager.Peered (sampleSwarmManager true false) "P" :=
    ⟨by decide, by decide, by decide⟩
  obtain ⟨entry, there, -⟩ := (f ⟨"P", peered⟩).2
  rw [keys] at there
  have gone : ((sampleTracked events).2.peerRegistry (swarmPeerRegistryKey
      ((sampleTracked events).2.manager.nameOf "P") (sampleSwarmManager true false).swarmId)).isNone =
      true := by decide
  rw [there] at gone
  cases gone

end MtrxPeer
