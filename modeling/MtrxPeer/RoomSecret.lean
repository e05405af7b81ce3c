import MtrxPeer.ProxyE2ee
import MtrxPeer.Runs

/-! The stored cluster memberships and the room secret derived from them. A join
enters a membership only where the cluster is not in the list yet, so a password
that changed between two joins is never stored. -/
namespace MtrxPeer

/-! ## Memberships -/

/-- A membership as it is saved, with the settings of the room. -/
structure StoredMembership extends ClusterMembership where
  name : Option String
  visibility : Option String
  requireE2ee : Option Bool
  requireTee : Option Bool
  requiredAttestationFlags : Option Nat
  scheduleEnabled : Option Bool
  scheduleStart : Option String
  scheduleEnd : Option String
  deriving DecidableEq

/-- The lobby's answer to a join. -/
structure ClusterResponse where
  clusterId : String
  name : Option String
  visibility : Option String
  requireE2ee : Option Bool
  requiredAttestationFlags : Option Nat

def membershipFromResponse (resp : ClusterResponse) (roomSecret : Option String) :
    StoredMembership where
  clusterId := resp.clusterId
  name := resp.name
  visibility := resp.visibility.or (some "public")
  acceptingJobs := some true
  connected := some true
  roomSecret := some (roomSecret.getD "")
  clusterPassword := some (roomSecret.getD "")
  requireE2ee := resp.requireE2ee
  requireTee := none
  requiredAttestationFlags := resp.requiredAttestationFlags
  scheduleEnabled := none
  scheduleStart := none
  scheduleEnd := none

/-- The membership of a cluster in the list. -/
def findStored (clusters : List StoredMembership) (clusterId : String) :
    Option StoredMembership :=
  clusters.find? fun c => c.clusterId = clusterId

/-- A change through `find_cluster_mut`: to the first entry of the cluster. -/
def modifyCluster (clusterId : String) (change : StoredMembership → StoredMembership) :
    List StoredMembership → List StoredMembership
  | [] => []
  | c :: rest =>
    if c.clusterId = clusterId then change c :: rest else c :: modifyCluster clusterId change rest

/-- What `upsert_cluster` takes over into an entry that exists. -/
def refreshNames (cluster existing : StoredMembership) : StoredMembership :=
  { existing with
    name := cluster.name.or existing.name
    visibility := cluster.visibility.or existing.visibility }

def upsertCluster (clusters : List StoredMembership) (cluster : StoredMembership) :
    List StoredMembership :=
  if (findStored clusters cluster.clusterId).isSome then
    modifyCluster cluster.clusterId (refreshNames cluster) clusters
  else clusters ++ [cluster]

def removeCluster (clusters : List StoredMembership) (clusterId : String) :
    List StoredMembership :=
  clusters.filter fun c => c.clusterId ≠ clusterId

/-! ## The machine -/

/-- The changes the node makes to memberships it has: by hand, by the scheduler,
or because the lobby says so. -/
inductive MembershipEdit where
  | connected (value : Bool)
  | acceptingJobs (value : Bool)
  | requiredAttestationFlags (flags : Nat)
  | schedule (enabled : Option Bool) (start stop : Option String)

def MembershipEdit.apply (c : StoredMembership) : MembershipEdit → StoredMembership
  | .connected value => { c with connected := some value }
  | .acceptingJobs value => { c with acceptingJobs := some value }
  | .requiredAttestationFlags flags => { c with requiredAttestationFlags := some flags }
  | .schedule enabled start stop =>
    { c with
      scheduleEnabled := enabled.or c.scheduleEnabled
      scheduleStart := start.or c.scheduleStart
      scheduleEnd := stop.or c.scheduleEnd }

/-- The configuration in memory and the memberships a load would read. -/
structure MembershipState where
  /-- The settings other than the clusters. -/
  base : ClientConfig
  clusters : List StoredMembership
  file : List StoredMembership

def MembershipState.config (s : MembershipState) : ClientConfig :=
  { s.base with clusters := s.clusters.map StoredMembership.toClusterMembership }

/-- `saved` says whether the file could be written. -/
inductive MembershipEvent where
  | create (resp : ClusterResponse) (password : Option String) (saved : Bool)
  | join (resp : ClusterResponse) (password : Option String) (saved : Bool)
  | remove (clusterId : String) (saved : Bool)
  | edit (clusterId : String) (edit : MembershipEdit) (saved : Bool)
  | editAll (edit : MembershipEdit) (saved : Bool)
  | otherSettings (base : ClientConfig)
  | load

/-- `save_client_config`. -/
def MembershipState.save (s : MembershipState) (saved : Bool) : MembershipState :=
  if saved then { s with file := s.clusters } else s

/-- What a join and a creation do with the lobby's answer. -/
def enterCluster (s : MembershipState) (resp : ClusterResponse) (password : Option String)
    (saved : Bool) : MembershipState :=
  { s with clusters := upsertCluster s.clusters (membershipFromResponse resp password) }.save saved

def membershipStep (s : MembershipState) : MembershipEvent → MembershipState
  | .create resp password saved => enterCluster s resp password saved
  | .join resp password saved => enterCluster s resp password saved
  | .remove clusterId saved =>
    { s with clusters := removeCluster s.clusters clusterId }.save saved
  | .edit clusterId edit saved =>
    { s with clusters := modifyCluster clusterId edit.apply s.clusters }.save saved
  | .editAll edit saved => { s with clusters := s.clusters.map edit.apply }.save saved
  | .otherSettings base => { s with base }
  | .load => { s with clusters := s.file }

def membershipMachine : Machine MembershipState MembershipEvent Empty :=
  ⟨fun s e => (membershipStep s e, [])⟩

/-! ## What the operations do to an entry -/

theorem findStored_modifyCluster {clusters : List StoredMembership} {clusterId id : String}
    {change : StoredMembership → StoredMembership} (kept : ∀ c, (change c).clusterId = c.clusterId) :
    findStored (modifyCluster clusterId change clusters) id =
      if id = clusterId then (findStored clusters id).map change else findStored clusters id := by
  induction clusters with
  | nil => simp [modifyCluster, findStored]
  | cons c rest ih =>
    simp only [findStored] at ih ⊢
    by_cases this : c.clusterId = clusterId
    · by_cases same : id = clusterId
      · subst same
        simp [modifyCluster, this, kept]
      · have other : ¬ clusterId = id := fun h => same h.symm
        simp [modifyCluster, this, kept, same, other]
    · by_cases found : c.clusterId = id
      · have other : ¬ id = clusterId := fun h => this (found.trans h)
        simp [modifyCluster, found, other]
      · simp [modifyCluster, this, found, ih]

private theorem findStored_map {clusters : List StoredMembership} {id : String}
    {change : StoredMembership → StoredMembership} (kept : ∀ c, (change c).clusterId = c.clusterId) :
    findStored (clusters.map change) id = (findStored clusters id).map change := by
  simp only [findStored, List.find?_map, Function.comp_def, kept]

private theorem findStored_removeCluster {clusters : List StoredMembership} {clusterId id : String}
    (other : id ≠ clusterId) :
    findStored (removeCluster clusters clusterId) id = findStored clusters id := by
  simp only [findStored, removeCluster, List.find?_filter]
  congr 1
  funext c
  by_cases found : c.clusterId = id
  · simp [found, other]
  · simp [found]

theorem findStored_upsertCluster (clusters : List StoredMembership) (cluster : StoredMembership)
    (id : String) :
    findStored (upsertCluster clusters cluster) id =
      if id = cluster.clusterId then
        some (((findStored clusters id).map (refreshNames cluster)).getD cluster)
      else findStored clusters id := by
  have kept : ∀ c, (refreshNames cluster c).clusterId = c.clusterId := fun _ => rfl
  by_cases same : id = cluster.clusterId
  · subst same
    cases found : findStored clusters cluster.clusterId with
    | none =>
      have absent : clusters.find? (fun c => c.clusterId = cluster.clusterId) = none := found
      simp [upsertCluster, findStored, List.find?_append, absent]
    | some existing =>
      rw [upsertCluster, found, Option.isSome_some, if_pos rfl, findStored_modifyCluster kept,
        if_pos rfl, found, if_pos rfl]
      rfl
  · rw [if_neg same, upsertCluster]
    split
    · rw [findStored_modifyCluster kept, if_neg same]
    · have other : ¬ cluster.clusterId = id := fun h => same h.symm
      simp [findStored, List.find?_append, other]

theorem MembershipEdit.apply_kept (edit : MembershipEdit) (c : StoredMembership) :
    (edit.apply c).clusterId = c.clusterId ∧
      (edit.apply c).roomSecret = c.roomSecret ∧
      (edit.apply c).clusterPassword = c.clusterPassword := by
  cases edit <;> exact ⟨rfl, rfl, rfl⟩

/-- The secret of a room whose cluster is in the list is that of its entry. -/
theorem roomSecretForProxy_stored (P : Primitives) {s : MembershipState} {c : StoredMembership}
    {id : String} (found : findStored s.clusters id = some c) :
    roomSecretForProxy P s.config id = some (clusterEffectiveRoomSecret id
      (clusterPasswordFromMembership c.toClusterMembership)) := by
  have named : c.clusterId = id := by simpa using List.find?_some found
  have entry : findCluster s.config id = some c.toClusterMembership := by
    simp only [findCluster, MembershipState.config, List.find?_map, Function.comp_def]
    exact congrArg (Option.map _) found
  rw [roomSecretForProxy, entry]
  simp [named]

/-! ## Joins -/

/-- The membership of a joined cluster is connected, has the requirements that the
lobby named, and derives the room's secret from the password. -/
def JoinedAs (P : Primitives) (s : MembershipState) (resp : ClusterResponse)
    (password : Option String) : Prop :=
  ∃ c, findStored s.clusters resp.clusterId = some c ∧
    clusterIsConnected c.toClusterMembership = true ∧ c.requireE2ee = resp.requireE2ee ∧
    c.requiredAttestationFlags = resp.requiredAttestationFlags ∧
    roomSecretForProxy P s.config resp.clusterId =
      some (clusterEffectiveRoomSecret resp.clusterId password)

/-- The cluster is not in the list, or its entry already is what the join asks for. -/
def FreshOrAgreeing (P : Primitives) (s : MembershipState) (resp : ClusterResponse)
    (password : Option String) : Prop :=
  findStored s.clusters resp.clusterId = none ∨ JoinedAs P s resp password

@[simp] theorem save_clusters (s : MembershipState) (saved : Bool) :
    (s.save saved).clusters = s.clusters := by
  cases saved <;> rfl

@[simp] theorem save_config (s : MembershipState) (saved : Bool) :
    (s.save saved).config = s.config := by
  cases saved <;> rfl

/-- A join does what it says exactly when the cluster is new or agrees already. -/
theorem joinedAs_enterCluster_iff (P : Primitives) (s : MembershipState) (resp : ClusterResponse)
    (password : Option String) (saved : Bool) :
    JoinedAs P (enterCluster s resp password saved) resp password ↔
      FreshOrAgreeing P s resp password := by
  have entered := findStored_upsertCluster s.clusters (membershipFromResponse resp password)
    resp.clusterId
  have this : resp.clusterId = (membershipFromResponse resp password).clusterId := rfl
  rw [if_pos this] at entered
  have stored : (enterCluster s resp password saved).clusters =
      upsertCluster s.clusters (membershipFromResponse resp password) := save_clusters _ saved
  have entered' := entered
  rw [← stored] at entered'
  cases found : findStored s.clusters resp.clusterId with
  | none =>
    rw [found] at entered'
    refine ⟨fun _ => .inl found, fun _ => ⟨_, entered', rfl, rfl, rfl, ?_⟩⟩
    rw [roomSecretForProxy_stored P entered']
    cases password <;> rfl
  | some existing =>
    rw [found] at entered'
    have secret := roomSecretForProxy_stored P entered'
    have before := roomSecretForProxy_stored P found
    constructor
    · rintro ⟨c, this, connected, e2ee, flags, same⟩
      obtain rfl := Option.some.inj (entered'.symm.trans this)
      exact .inr ⟨existing, found, connected, e2ee, flags, before.trans (secret.symm.trans same)⟩
    · rintro (absent | ⟨c, this, connected, e2ee, flags, same⟩)
      · rw [found] at absent
        cases absent
      · obtain rfl := Option.some.inj (found.symm.trans this)
        exact ⟨_, entered', connected, e2ee, flags, secret.trans (before.symm.trans same)⟩

/-! ## Runs -/

abbrev MembershipRecord := Record MembershipState MembershipEvent Empty

/-- A step that enters a cluster with a password. -/
def Enters (r : MembershipRecord) (resp : ClusterResponse) (password : Option String)
    (saved : Bool) : Prop :=
  r.event = .join resp password saved ∨ r.event = .create resp password saved

/-- A step joins or leaves a cluster. -/
def Touches (id : String) (r : MembershipRecord) : Prop :=
  (∃ resp password saved, Enters r resp password saved ∧ resp.clusterId = id) ∨
    ∃ saved, r.event = .remove id saved

/-- The last thing that happened to the membership of a cluster was a successful
join with a password. -/
def LastJoined (past : List MembershipRecord) (id : String) (password : Option String) : Prop :=
  ∃ newer r older resp, past = newer ++ r :: older ∧ Enters r resp password true ∧
    resp.clusterId = id ∧ ∀ later ∈ newer, ¬ Touches id later

/-- A successful join takes effect at once. -/
def JoinTakesEffect (P : Primitives) (_ : List MembershipRecord) (r : MembershipRecord) : Prop :=
  ∀ resp password, Enters r resp password true →
    JoinedAs P (membershipStep r.before r.event) resp password

/-- Every successful join of a step is of a new cluster or one that agrees. -/
def JoinsAgree (P : Primitives) (r : MembershipRecord) : Prop :=
  ∀ resp password, Enters r resp password true → FreshOrAgreeing P r.before resp password

/-- The entry of a cluster keeps a password. -/
def Keeps (clusters : List StoredMembership) (id : String) (password : Option String) : Prop :=
  ∃ c, findStored clusters id = some c ∧
    (clusterPasswordFromMembership c.toClusterMembership).getD "" = password.getD ""

private theorem Keeps.change {clusters clusters' : List StoredMembership} {id : String}
    {password : Option String} {change : StoredMembership → StoredMembership}
    (keeps : Keeps clusters id password)
    (same : ∀ c, (change c).roomSecret = c.roomSecret ∧
      (change c).clusterPassword = c.clusterPassword)
    (found : findStored clusters' id = (findStored clusters id).map change) :
    Keeps clusters' id password := by
  obtain ⟨c, this, kept⟩ := keeps
  refine ⟨change c, by rw [found, this]; rfl, ?_⟩
  rw [← kept, clusterPasswordFromMembership, clusterPasswordFromMembership, (same c).1, (same c).2]

private theorem Keeps.same {clusters clusters' : List StoredMembership} {id : String}
    {password : Option String} (keeps : Keeps clusters id password)
    (found : findStored clusters' id = findStored clusters id) : Keeps clusters' id password :=
  keeps.change (fun _ => ⟨rfl, rfl⟩) (found.trans (Option.map_id').symm)

private theorem save_keeps {s : MembershipState} {clusters : List StoredMembership} {id : String}
    {password : Option String} (memory : Keeps clusters id password)
    (file : Keeps s.file id password) (saved : Bool) :
    Keeps ({ s with clusters }.save saved).clusters id password ∧
      Keeps ({ s with clusters }.save saved).file id password := by
  cases saved with
  | false => exact ⟨memory, file⟩
  | true => exact ⟨memory, memory⟩

/-- Only a join or a removal of a cluster can change its password, in memory or in
the file. -/
theorem membershipStep_keeps {s : MembershipState} {e : MembershipEvent} {id : String}
    {password : Option String} (memory : Keeps s.clusters id password)
    (file : Keeps s.file id password)
    (untouched : ¬ Touches id (membershipMachine.record s e)) :
    Keeps (membershipStep s e).clusters id password ∧
      Keeps (membershipStep s e).file id password := by
  have entered (resp : ClusterResponse) (given : Option String) (saved : Bool)
      (other : id ≠ resp.clusterId) :
      Keeps (enterCluster s resp given saved).clusters id password ∧
        Keeps (enterCluster s resp given saved).file id password := by
    refine save_keeps (memory.same ?_) file saved
    rw [findStored_upsertCluster]
    exact if_neg other
  have edited (edit : MembershipEdit) (c : StoredMembership) := (edit.apply_kept c).2
  cases e with
  | create resp given saved =>
    refine entered resp given saved ?_
    exact fun same => untouched (.inl ⟨resp, given, saved, .inr rfl, same.symm⟩)
  | join resp given saved =>
    refine entered resp given saved ?_
    exact fun same => untouched (.inl ⟨resp, given, saved, .inl rfl, same.symm⟩)
  | remove clusterId saved =>
    refine save_keeps (memory.same (findStored_removeCluster ?_)) file saved
    rintro rfl
    exact untouched (.inr ⟨saved, rfl⟩)
  | edit clusterId edit saved =>
    have found : findStored (modifyCluster clusterId edit.apply s.clusters) id =
        if id = clusterId then (findStored s.clusters id).map edit.apply
          else findStored s.clusters id :=
      findStored_modifyCluster fun c => (edit.apply_kept c).1
    refine save_keeps ?_ file saved
    split_ifs at found with same
    · exact memory.change (edited edit) found
    · exact memory.same found
  | editAll edit saved =>
    refine save_keeps (memory.change (edited edit) ?_) file saved
    exact findStored_map fun c => (edit.apply_kept c).1
  | otherSettings base => exact ⟨memory, file⟩
  | load => exact ⟨file, file⟩

/-- A successful join of an agreeing cluster is kept in memory and in the file. -/
private theorem joined_keeps (P : Primitives) {s : MembershipState} {resp : ClusterResponse}
    {password : Option String} (agrees : FreshOrAgreeing P s resp password) :
    Keeps (enterCluster s resp password true).clusters resp.clusterId password ∧
      Keeps (enterCluster s resp password true).file resp.clusterId password := by
  obtain ⟨c, found, -, -, -, secret⟩ :=
    (joinedAs_enterCluster_iff P s resp password true).mpr agrees
  rw [roomSecretForProxy_stored P found] at secret
  have same : (clusterPasswordFromMembership c.toClusterMembership).getD "" = password.getD "" := by
    have text := Option.some.inj secret
    simp only [clusterEffectiveRoomSecret] at text
    simpa [String.ext_iff] using text
  exact ⟨⟨c, found, same⟩, ⟨c, found, same⟩⟩

private theorem enters_step {r : MembershipRecord} {resp : ClusterResponse}
    {password : Option String} {saved : Bool} (enters : Enters r resp password saved) :
    membershipStep r.before r.event = enterCluster r.before resp password saved := by
  rcases enters with event | event
  all_goals
    rw [event]
    rfl

/-- What holds of the entries of joined clusters after any run whose joins agree. -/
private theorem lastJoined_keeps (P : Primitives) {start s : MembershipState}
    {past : List MembershipRecord} (ran : membershipMachine.Reaches start past s)
    (agree : ∀ r ∈ past, JoinsAgree P r) :
    ∀ id password, LastJoined past id password →
      Keeps s.clusters id password ∧ Keeps s.file id password := by
  refine ran.invariant (fun past s => ∀ id password, LastJoined past id password →
    Keeps s.clusters id password ∧ Keeps s.file id password) (JoinsAgree P) ?_ ?_ agree
  · rintro id password ⟨newer, r, older, resp, empty, -⟩
    simp at empty
  · rintro past s e recorded agrees id password ⟨newer, r, older, resp, split, enters, rfl, untouched⟩
    cases newer with
    | nil =>
      obtain ⟨rfl, rfl⟩ := List.cons.inj split
      have ran := enters_step enters
      have kept := joined_keeps P (agrees resp password enters)
      change Keeps (membershipStep s e).clusters _ _ ∧ Keeps (membershipStep s e).file _ _
      rw [show membershipStep s e = _ from ran]
      exact kept
    | cons first newer =>
      obtain ⟨rfl, rfl⟩ := List.cons.inj split
      have earlier : LastJoined (newer ++ r :: older) resp.clusterId password :=
        ⟨newer, r, older, resp, rfl, enters, rfl,
          fun later member => untouched later (List.mem_cons_of_mem _ member)⟩
      obtain ⟨memory, file⟩ := recorded _ _ earlier
      exact membershipStep_keeps memory file (untouched _ List.mem_cons_self)

private theorem Keeps.secret {P : Primitives} {s : MembershipState} {id : String}
    {password : Option String} (keeps : Keeps s.clusters id password) :
    roomSecretForProxy P s.config id = some (clusterEffectiveRoomSecret id password) := by
  obtain ⟨c, found, same⟩ := keeps
  rw [roomSecretForProxy_stored P found, clusterEffectiveRoomSecret, clusterEffectiveRoomSecret, same]

/-- In runs whose joins agree with what is stored, every successful join takes
effect, the secret of a room is that of its last join from then on, and two peers
that last joined with one password share it. -/
theorem room_secret_follows_password (P : Primitives) (mine theirs : MembershipState)
    (events events' : List MembershipEvent)
    (agree : ∀ r ∈ (membershipMachine.history mine events).1, JoinsAgree P r)
    (agree' : ∀ r ∈ (membershipMachine.history theirs events').1, JoinsAgree P r) :
    let run := membershipMachine.history mine events
    let run' := membershipMachine.history theirs events'
    Machine.Always (JoinTakesEffect P) run.1 ∧
      (∀ id password, LastJoined run.1 id password →
        roomSecretForProxy P run.2.config id = some (clusterEffectiveRoomSecret id password)) ∧
      ∀ id password, LastJoined run.1 id password → LastJoined run'.1 id password →
        roomSecretForProxy P run.2.config id = roomSecretForProxy P run'.2.config id := by
  intro run run'
  have reached := membershipMachine.reaches_history mine events
  have reached' := membershipMachine.reaches_history theirs events'
  have secret : ∀ id password, LastJoined run.1 id password →
      roomSecretForProxy P run.2.config id = some (clusterEffectiveRoomSecret id password) :=
    fun id password joined => (lastJoined_keeps P reached agree id password joined).1.secret
  refine ⟨?_, secret, ?_⟩
  · refine reached.always (fun _ _ => True) (JoinsAgree P) trivial (fun _ _ _ _ _ => trivial) ?_ agree
    intro past s e _ agrees resp password enters
    rw [enters_step enters]
    exact (joinedAs_enterCluster_iff P s resp password true).mpr (agrees resp password enters)
  · intro id password joined joined'
    rw [secret id password joined]
    exact (lastJoined_keeps P reached' agree' id password joined').1.secret.symm

private def newConfiguration : MembershipState where
  base := ⟨[], [], false, false, none, none, none, none⟩
  clusters := []
  file := []

private def roomAnswer : ClusterResponse := ⟨"room", some "Room", none, some true, none⟩

private theorem joinsAgree_first (P : Primitives) (password : Option String) (saved : Bool) :
    JoinsAgree P (membershipMachine.record newConfiguration (.join roomAnswer password saved)) := by
  intro resp given enters
  rcases enters with same | same
  · obtain ⟨rfl, -, -⟩ := MembershipEvent.join.inj same
    exact .inl rfl
  · cases same

/-- One peer joins and restarts, another joins with the same password. -/
theorem room_secret_follows_password_sample :
    let run := membershipMachine.history newConfiguration [.join roomAnswer (some "pw") true, .load]
    let run' := membershipMachine.history newConfiguration [.join roomAnswer (some "pw") true]
    Machine.Always (JoinTakesEffect .transparent) run.1 ∧
      (∀ id password, LastJoined run.1 id password →
        roomSecretForProxy .transparent run.2.config id =
          some (clusterEffectiveRoomSecret id password)) ∧
      ∀ id password, LastJoined run.1 id password → LastJoined run'.1 id password →
        roomSecretForProxy .transparent run.2.config id =
          roomSecretForProxy .transparent run'.2.config id := by
  refine room_secret_follows_password .transparent newConfiguration newConfiguration
    [.join roomAnswer (some "pw") true, .load] [.join roomAnswer (some "pw") true] ?_ ?_
  · intro r member
    rcases List.mem_cons.mp member with rfl | member
    · rintro resp password (same | same) <;> cases same
    · obtain rfl := List.mem_singleton.mp member
      exact joinsAgree_first _ _ _
  · intro r member
    obtain rfl := List.mem_singleton.mp member
    exact joinsAgree_first _ _ _

/-- A join with a changed password, after a disconnection, keeps the old secret
and stays disconnected. -/
theorem rejoin_keeps_old_secret :
    let run := membershipMachine.history newConfiguration [.join roomAnswer (some "old") true,
      .edit "room" (.connected false) true, .join roomAnswer (some "new") true]
    roomSecretForProxy .transparent run.2.config "room" = some "room:old" ∧
      (∃ c, findStored run.2.clusters "room" = some c ∧
        clusterIsConnected c.toClusterMembership = false) ∧
      ¬ Machine.Always (JoinTakesEffect .transparent) run.1 := by
  intro run
  have secret : roomSecretForProxy .transparent run.2.config "room" = some "room:old" := by
    decide
  refine ⟨secret, ⟨_, rfl, rfl⟩, ?_⟩
  rintro ⟨effect, -⟩
  obtain ⟨c, -, -, -, -, same⟩ := effect roomAnswer (some "new") (.inl rfl)
  have text : some "room:old" = some (clusterEffectiveRoomSecret "room" (some "new")) :=
    secret.symm.trans same
  revert text
  decide

end MtrxPeer
