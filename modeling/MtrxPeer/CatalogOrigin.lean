import MtrxPeer.Sample

/-! Whose word the catalog of a swarm follows. A catalog names the peer it
speaks for, and that name is all that is looked at: the sender of the message is
not. -/
namespace MtrxPeer

open Function (update_of_ne)

variable (m : SwarmManager) (s : SwarmState)

/-! ## Announcements -/

/-- A catalog on its way in: by gossip, or as a `CatalogSync` request. -/
structure Announcement where
  sender : PeerId
  record : CatalogRecord
  sync : Option Answers

def Announcement.event (a : Announcement) : SwarmEvent :=
  match a.sync with
  | some answers => .request a.sender (.catalogSync a.record) answers
  | none => .gossip a.sender a.record

/-- The catalogs of other peers that a list of announcements declares for `peer`. -/
def declaredFor (peer : String) (announcements : List Announcement) : List CatalogRecord :=
  (announcements.map Announcement.record).filter fun record =>
    record.peerId = peer ∧ record.peerId ≠ m.peerId

/-- What is kept of a peer: its catalog entry and its libp2p identity. -/
def SwarmState.knownOf (s : SwarmState) (peer : String) : Option CachedPeerRecord × Option PeerId :=
  (s.peerCache peer, s.mtrxaiToLibp2p peer)

/-- What a catalog says about the peer it declares. -/
def CatalogRecord.says (ids : Libp2pIds) (record : CatalogRecord) :
    Option CachedPeerRecord × Option PeerId :=
  (some record.cached, some (resolveLibp2pPeerId ids record.listenAddrs record.peerId))

/-! ## One catalog -/

@[simp] theorem applyRemoteCatalog_own {record : CatalogRecord} (own : record.peerId = m.peerId) :
    applyRemoteCatalog m s record = s := by
  simp [applyRemoteCatalog, own]

/-- A catalog of another peer replaces what was known of the peer it declares. -/
theorem applyRemoteCatalog_declared {record : CatalogRecord} (other : record.peerId ≠ m.peerId) :
    (applyRemoteCatalog m s record).knownOf record.peerId = record.says m.ids := by
  simp [applyRemoteCatalog, other, SwarmState.knownOf, CatalogRecord.says, dialMtrxaiPeer,
    SwarmState.bindPeer]

/-- It leaves every other peer alone. -/
theorem applyRemoteCatalog_others (record : CatalogRecord) {peer : String}
    (other : peer ≠ record.peerId) :
    (applyRemoteCatalog m s record).knownOf peer = s.knownOf peer := by
  unfold applyRemoteCatalog
  split
  · rfl
  · simp [SwarmState.knownOf, dialMtrxaiPeer, SwarmState.bindPeer, update_of_ne other]

theorem announcement_step (a : Announcement) :
    ((swarmMachine m).step s a.event).1 = applyRemoteCatalog m s a.record := by
  unfold Announcement.event
  cases a.sync <;> rfl

/-! ## Any sequence of catalogs -/

/-- After any catalogs from anybody, what is known of a peer is what the last of
them that declares it says, and what was known before if none does. -/
theorem catalog_follows_declarations (announcements : List Announcement) (peer : String) :
    ((swarmMachine m).after s (announcements.map Announcement.event)).knownOf peer =
      match (declaredFor m peer announcements).getLast? with
      | some record => record.says m.ids
      | none => s.knownOf peer := by
  induction announcements generalizing s with
  | nil => rfl
  | cons a rest ih =>
    have later : declaredFor m peer (a :: rest) =
        declaredFor m peer [a] ++ declaredFor m peer rest := by
      simp [declaredFor, List.filter_cons]
      split <;> rfl
    rw [List.map_cons, Machine.after, announcement_step, ih, later, List.getLast?_append]
    cases declared : (declaredFor m peer rest).getLast? with
    | some record => rfl
    | none =>
      by_cases own : a.record.peerId = m.peerId
      · simp [declaredFor, own]
      · by_cases same : a.record.peerId = peer
        · subst same
          simpa [declaredFor, own] using applyRemoteCatalog_declared m s own
        · simpa [declaredFor, own, same] using
            applyRemoteCatalog_others m s a.record (Ne.symm same)

/-- What a step changes of a peer that is bound to an identity comes from a
message of that identity. -/
def FollowsBinding (m : SwarmManager) (r : SwarmRecord) : Prop :=
  ∀ peer identity, r.before.mtrxaiToLibp2p peer = some identity →
    ((swarmMachine m).step r.before r.event).1.knownOf peer ≠ r.before.knownOf peer →
    ∃ a : Announcement, r.event = a.event ∧ a.sender = identity

/-- A peer announces another one under its own address, and is believed: the
binding moves to it. -/
theorem forged_catalog_rebinds :
    ¬ Machine.Always (fun _ => FollowsBinding (sampleSwarmManager true false))
      ((swarmMachine (sampleSwarmManager true false)).history sampleSwarm
        [.gossip "A" (sampleCatalog "alice" "A"), .gossip "M" (sampleCatalog "alice" "M")]).1 := by
  rintro ⟨follows, -⟩
  have moved : ((swarmStep (sampleSwarmManager true false) (applyRemoteCatalog
      (sampleSwarmManager true false) sampleSwarm (sampleCatalog "alice" "A"))
      (.gossip "M" (sampleCatalog "alice" "M"))).1.mtrxaiToLibp2p "alice") = some "M" := by decide
  obtain ⟨a, sent, sender⟩ := follows "alice" "A" (by decide) (fun kept => by
    have same := congrArg Prod.snd kept
    exact absurd (moved.symm.trans same) (by decide))
  cases a with
  | mk _ _ sync =>
    cases sync with
    | some answers => simp [Machine.record, Announcement.event] at sent
    | none =>
      obtain ⟨rfl, -⟩ := SwarmEvent.gossip.inj sent
      exact absurd (show "M" = "A" from sender) (by decide)

end MtrxPeer
