import MtrxPeer.ManagerRuns

/-! What becomes of a command: the running task of its network is given it, the caller is told
why not, or it goes down with a channel that nobody reads. -/
namespace MtrxPeer

/-! ## The first of the greatest -/

section FirstGreatest

variable {α : Type} {weight : α → Nat} {items : List α} {item : α}

/-- Nothing before the item weighs as much as it, and nothing after it weighs more. -/
def FirstGreatest (weight : α → Nat) (items : List α) (item : α) : Prop :=
  ∃ before after, items = before ++ item :: after ∧ (∀ other ∈ before, weight other < weight item) ∧
    ∀ other ∈ after, weight other ≤ weight item

theorem firstGreatest_append (items : List α) (last : α) :
    firstGreatest weight (items ++ [last]) = heavier weight (firstGreatest weight items) last := by
  rw [firstGreatest, List.foldl_append, List.foldl_cons, List.foldl_nil, firstGreatest]

theorem firstGreatest_isSome (weight : α → Nat) (nonempty : items ≠ []) :
    ∃ item, firstGreatest weight items = some item := by
  cases items using List.reverseRecOn with
  | nil => exact absurd rfl nonempty
  | append_singleton items last =>
    rw [firstGreatest_append]
    cases firstGreatest weight items with
    | none => exact ⟨last, rfl⟩
    | some held =>
      rw [heavier]
      split <;> exact ⟨_, rfl⟩

theorem firstGreatest_sound (found : firstGreatest weight items = some item) :
    FirstGreatest weight items item := by
  induction items using List.reverseRecOn generalizing item with
  | nil => cases found
  | append_singleton items last ih =>
    rw [firstGreatest_append] at found
    cases best : firstGreatest weight items with
    | some held =>
      obtain ⟨before, after, rfl, less, atMost⟩ := ih best
      rw [best, heavier] at found
      split at found
      · rename_i enough
        cases found
        refine ⟨before, after ++ [last], by simp, less, fun other member => ?_⟩
        rcases List.mem_append.mp member with earlier | new
        · exact atMost other earlier
        · rw [List.mem_singleton.mp new]
          exact enough
      · rename_i more
        cases found
        refine ⟨before ++ held :: after, [], rfl, fun other member => ?_, by simp⟩
        have least : weight other ≤ weight held := by
          rcases List.mem_append.mp member with earlier | here | later
          · exact Nat.le_of_lt (less other earlier)
          · exact Nat.le_refl _
          · exact atMost other (by assumption)
        omega
    | none =>
      rw [best, heavier] at found
      cases found
      have empty : items = [] := by
        by_contra nonempty
        obtain ⟨other, some_⟩ := firstGreatest_isSome weight nonempty
        rw [best] at some_
        cases some_
      exact ⟨[], [], by rw [empty], by simp, by simp⟩

/-- There is no more than one. -/
theorem FirstGreatest.unique {other : α} (one : FirstGreatest weight items item)
    (two : FirstGreatest weight items other) : item = other := by
  obtain ⟨before, after, split, less, atMost⟩ := one
  obtain ⟨before', after', split', less', atMost'⟩ := two
  rw [split] at split'
  obtain ⟨between, rfl, rest⟩ | ⟨between, rfl, rest⟩ := List.append_eq_append_iff.mp split'
  · cases between with
    | nil => exact (List.cons.inj rest).1
    | cons first between =>
      obtain ⟨rfl, rfl⟩ := List.cons.inj rest
      have more := less' item (by simp)
      have notMore := atMost other (by simp)
      omega
  · cases between with
    | nil => exact (List.cons.inj rest).1.symm
    | cons first between =>
      obtain ⟨rfl, rfl⟩ := List.cons.inj rest
      have more := less other (by simp)
      have notMore := atMost' item (by simp)
      omega

theorem firstGreatest_eq_some : firstGreatest weight items = some item ↔ FirstGreatest weight items item := by
  refine ⟨firstGreatest_sound, fun first => ?_⟩
  have nonempty : items ≠ [] := by
    obtain ⟨before, after, rfl, -⟩ := first
    simp
  obtain ⟨found, eq⟩ := firstGreatest_isSome weight nonempty
  rw [eq, first.unique (firstGreatest_sound eq)]

end FirstGreatest

/-! ## Commands -/

variable {M : Type} {kind : ManagerKind M} {s : ManagerState M} {cmd : ProxyRequestCommand}

/-- A command is for the network it names, or for the first with the most peers among those
that advertise its model. -/
def CommandNetwork (kind : ManagerKind M) (s : ManagerState M) (cmd : ProxyRequestCommand)
    (id : String) : Prop :=
  kind.scope.commandNetwork cmd = some id ∨ kind.scope.commandNetwork cmd = none ∧
    ∃ peers, FirstGreatest Prod.snd (advertisedPeers s.networkModels cmd.model) (id, peers)

/-- The peer that the command names, if it names one, is not blocked. -/
def TargetAllowed (s : ManagerState M) (cmd : ProxyRequestCommand) : Prop :=
  ∀ peer, cmd.targetPeer = some peer → s.isPeerBlocked peer = false

private theorem targetAllowed_iff : TargetAllowed s cmd ↔ cmd.targetPeer.filter s.isPeerBlocked = none := by
  rw [TargetAllowed, Option.filter_eq_none_iff]
  cases cmd.targetPeer <;> simp

private theorem commandNetwork_iff (id : String) :
    CommandNetwork kind s cmd id ↔
      (kind.scope.commandNetwork cmd).or (findNetworkForModel s.networkModels cmd.model) = some id := by
  rw [CommandNetwork, findNetworkForModel]
  cases kind.scope.commandNetwork cmd with
  | some named => simp
  | none =>
    rw [Option.none_or, Option.map_eq_some_iff]
    constructor
    · rintro (named | ⟨-, peers, first⟩)
      · cases named
      · exact ⟨(id, peers), firstGreatest_eq_some.mpr first, rfl⟩
    · rintro ⟨⟨network, peers⟩, found, rfl⟩
      exact .inr ⟨rfl, peers, firstGreatest_eq_some.mp found⟩

theorem CommandNetwork.unique {id id' : String} (one : CommandNetwork kind s cmd id)
    (two : CommandNetwork kind s cmd id') : id = id' := by
  rw [commandNetwork_iff] at one two
  exact Option.some.inj (one.symm.trans two)

/-- The ways of a command. -/
inductive CommandRoute (kind : ManagerKind M) (s : ManagerState M) (cmd : ProxyRequestCommand) :
    ManagerOutput → Prop where
  | blocked (error : String) (refuses : ¬ TargetAllowed s cmd) : CommandRoute kind s cmd (.refused error)
  | unadvertised (error : String) (allowed : TargetAllowed s cmd)
      (nowhere : ∀ id, ¬ CommandNetwork kind s cmd id) : CommandRoute kind s cmd (.refused error)
  | unconnected (error : String) (allowed : TargetAllowed s cmd) {id : String}
      (network : CommandNetwork kind s cmd id) (none_ : (s.txs .cmd).get id = none) :
      CommandRoute kind s cmd (.refused error)
  | sent (allowed : TargetAllowed s cmd) {id : String} (network : CommandNetwork kind s cmd id)
      {attempt : Attempt} (sender : (s.txs .cmd).get id = some attempt) :
      CommandRoute kind s cmd (s.sendTo (.cmd cmd) attempt)

theorem routeProxyCmd_route (s : ManagerState M) (cmd : ProxyRequestCommand) :
    CommandRoute kind s cmd (s.routeProxyCmd kind cmd) := by
  rw [ManagerState.routeProxyCmd]
  split
  · rename_i peer blocked
    apply CommandRoute.blocked
    rw [targetAllowed_iff, blocked]
    intro none_
    cases none_
  · rename_i none_
    have allowed := targetAllowed_iff.mpr none_
    split
    · rename_i nowhere
      apply CommandRoute.unadvertised _ allowed
      intro id network
      rw [commandNetwork_iff, nowhere] at network
      cases network
    · rename_i id network
      have network := (commandNetwork_iff id).mpr network
      split
      · rename_i none_
        exact .unconnected _ allowed network none_
      · rename_i attempt sender
        exact .sent allowed network sender

/-- In every run, a command is given to a task exactly when the task runs for the command's
network and the peer it names is not blocked; it is lost without an answer exactly when no
task runs for the network any more and the network has not been stopped; in all other cases the
caller is sent an error. -/
theorem command_outcome (configured : List M) (networkModels peerRegistry isPeerBlocked)
    (events : List (ManagerEvent M)) (cmd : ProxyRequestCommand) :
    let s := (networkManager kind).after
      (newManager configured networkModels peerRegistry isPeerBlocked) events
    (∀ task, s.routeProxyCmd kind cmd = .handed task (.cmd cmd) ↔
      TargetAllowed s cmd ∧ CommandNetwork kind s cmd (s.networkOf task) ∧ s.running task = true) ∧
    ((∃ task, s.routeProxyCmd kind cmd = .lost task (.cmd cmd)) ↔
      TargetAllowed s cmd ∧ ∃ id, CommandNetwork kind s cmd id ∧ (s.txs .cmd).contains id = true ∧
        ∀ task, s.running task = true → s.networkOf task ≠ id) ∧
    ((∃ error, s.routeProxyCmd kind cmd = .refused error) ↔
      ¬ TargetAllowed s cmd ∨ ∀ id, CommandNetwork kind s cmd id → (s.txs .cmd).contains id = false) := by
  intro s
  have ok : s.Supervised kind := ManagerState.Supervised.after
    (ManagerState.newManager_supervised configured networkModels peerRegistry isPeerBlocked) events
  have sender : ∀ task, s.running task = true → (s.txs .cmd).get (s.networkOf task) = some task :=
    fun task runs => ok.held _ _ (ok.alive task runs).2
  generalize routed : s.routeProxyCmd kind cmd = output
  have route : CommandRoute kind s cmd output := routed ▸ routeProxyCmd_route s cmd
  cases route with
  | blocked error refuses => simp [refuses]
  | unadvertised error allowed nowhere => simp [allowed, nowhere]
  | unconnected error allowed network none_ =>
    rename_i id
    have only : ∀ other, CommandNetwork kind s cmd other → other = id := fun _ it => it.unique network
    have absent : (s.txs .cmd).contains id = false := VisitedMap.contains_eq_false.mpr none_
    refine ⟨fun task => iff_of_false ?_ ?_, iff_of_false ?_ ?_, iff_of_true ⟨error, rfl⟩ (.inr ?_)⟩
    · intro eq
      cases eq
    · rintro ⟨-, for_, runs⟩
      have found := sender task runs
      rw [only _ for_, none_] at found
      cases found
    · rintro ⟨task, eq⟩
      cases eq
    · rintro ⟨-, other, for_, has, -⟩
      rw [only other for_, absent] at has
      cases has
    · intro other for_
      rw [only other for_, absent]
  | sent allowed network found =>
    rename_i id attempt
    have only : ∀ other, CommandNetwork kind s cmd other → other = id := fun _ it => it.unique network
    have of : s.networkOf attempt = id := (ok.opened .cmd id attempt found).2
    have has : (s.txs .cmd).contains id = true := by rw [VisitedMap.contains, found, Option.isSome_some]
    have notRefused : ¬ ∃ error, s.sendTo (.cmd cmd) attempt = .refused error := by
      rintro ⟨error, eq⟩
      rw [ManagerState.sendTo] at eq
      split at eq <;> cases eq
    have notAbsent : ¬ (¬ TargetAllowed s cmd ∨
        ∀ id, CommandNetwork kind s cmd id → (s.txs .cmd).contains id = false) := by
      rintro (refuses | absent)
      · exact refuses allowed
      · rw [absent id network] at has
        cases has
    refine ⟨fun task => ?_, ?_, iff_of_false notRefused notAbsent⟩
    · constructor
      · intro eq
        rw [ManagerState.sendTo] at eq
        split at eq
        · rename_i runs
          cases eq
          exact ⟨allowed, of ▸ network, runs⟩
        · cases eq
      · rintro ⟨-, for_, runs⟩
        have same := sender task runs
        rw [only _ for_, found] at same
        obtain rfl := Option.some.inj same
        rw [ManagerState.sendTo, if_pos runs]
    · constructor
      · rintro ⟨task, eq⟩
        rw [ManagerState.sendTo] at eq
        split at eq
        · cases eq
        · rename_i ended
          refine ⟨allowed, id, network, has, fun other runs same => ?_⟩
          have own := sender other runs
          rw [same, found] at own
          obtain rfl := Option.some.inj own
          exact ended runs
      · rintro ⟨-, other, for_, -, none_⟩
        refine ⟨attempt, ?_⟩
        rw [ManagerState.sendTo, if_neg]
        intro runs
        exact none_ attempt runs (of.trans (only other for_).symm)

end MtrxPeer
