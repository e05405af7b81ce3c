import Mathlib.Logic.Function.Basic
import MtrxPeer.TaskPools

/-! How a cluster manager sets up its WebRTC sessions and closes them. Each command, each offer
and each moderation action is handled in a task of its own, and a task holds a lock for one
look or one change only: between two of its steps the other tasks take theirs. -/
namespace MtrxPeer

open Function (update update_self update_of_ne)

/-! ## The tables -/

/-- The tables of a manager. A connection is numbered when it is made. -/
structure Sessions where
  /-- The connection with a peer. -/
  peers : String → Option Nat
  /-- The peers with which a session is being negotiated. -/
  negotiatingPeers : String → Bool
  /-- The connections that were made, each with its peer. -/
  made : List String
  closed : List Nat
  /-- The connections that another one has taken the place of. -/
  replaced : List Nat

def Sessions.none : Sessions := ⟨fun _ => Option.none, fun _ => false, [], [], []⟩

/-! ## The tasks -/

inductive SetupDirection where
  | inbound
  | outbound
  deriving DecidableEq

/-- Why a session is closed. -/
inductive ClosedFor where
  /-- `remove_stale_peer_if_needed`. -/
  | stale
  /-- `replace_incomplete_session_if_needed`. -/
  | incomplete
  /-- The polls of its data channel are used up. -/
  | gaveUp
  /-- A moderation action, or a ban. -/
  | moderation
  deriving DecidableEq

/-- What a task does next. -/
inductive SetupStage where
  /-- `get_peer_state`, in `remove_stale_peer_if_needed`. -/
  | lookStale
  | readStale
  /-- `is_peer_session_ready`, in `replace_incomplete_session_if_needed`. -/
  | lookReady
  | lookNegotiating
  | lookIncomplete
  /-- `connect_and_proxy` looks for a session. -/
  | lookSession
  | lookFree
  /-- `try_begin_negotiation`. -/
  | tryBegin
  | create (direction : SetupDirection)
  | insert (direction : SetupDirection) (connection : Nat)
  /-- `end_negotiation`. -/
  | endNegotiation (sent : Bool)
  /-- The session is taken for the request. -/
  | useSession
  | awaitChannel
  /-- `close_peer_connection`: the peer is no longer being negotiated with, its connection is
  taken out, and closed. -/
  | unmark (why : ClosedFor)
  | take (why : ClosedFor)
  | shut (why : ClosedFor) (connection : Nat)
  | ended
  deriving DecidableEq

structure SetupTask where
  peer : String
  /-- The lobby has approved the connection: `connect_req_id` is there. -/
  approved : Bool
  stage : SetupStage
  deriving DecidableEq

/-- Where a task goes on when it has closed a session. -/
def ClosedFor.next : ClosedFor → SetupStage
  | .stale => .lookReady
  | .incomplete => .lookSession
  | .gaveUp => .ended
  | .moderation => .ended

/-- One step of a task. `choice` is what WebRTC says where it is asked: that a session is stale
or ready, that a connection could be made, that a data channel has opened. -/
def setupStage (s : Sessions) (peer : String) (approved choice : Bool) : SetupStage → Sessions × SetupStage
  | .lookStale => (s, if (s.peers peer).isSome then .readStale else .lookReady)
  | .readStale => (s, if choice then .unmark .stale else .lookReady)
  | .lookReady =>
    (s, if !approved || (s.peers peer).isSome && choice then .lookSession else .lookNegotiating)
  | .lookNegotiating => (s, if s.negotiatingPeers peer then .lookSession else .lookIncomplete)
  | .lookIncomplete => (s, if (s.peers peer).isSome then .unmark .incomplete else .lookSession)
  | .lookSession => (s, if (s.peers peer).isSome then .useSession else .lookFree)
  | .lookFree =>
    -- without an approval the command is turned down
    (s, if s.negotiatingPeers peer then .useSession else if approved then .tryBegin else .ended)
  | .tryBegin =>
    if s.negotiatingPeers peer then (s, .useSession)
    else ({ s with negotiatingPeers := update s.negotiatingPeers peer true }, .create .outbound)
  | .create direction =>
    if choice then ({ s with made := s.made ++ [peer] }, .insert direction s.made.length)
    else
      (s, match direction with
        | .outbound => .endNegotiation false
        | .inbound => .ended)
  | .insert direction connection =>
    ({ s with
        peers := update s.peers peer (some connection)
        -- a connection that was there is let go as it is
        replaced := s.replaced ++ (s.peers peer).toList },
      match direction with
      | .outbound => .endNegotiation true
      | .inbound => .ended)
  | .endNegotiation sent =>
    ({ s with negotiatingPeers := update s.negotiatingPeers peer false },
      if sent then .useSession else .ended)
  | .useSession => (s, if (s.peers peer).isSome then .awaitChannel else .ended)
  | .awaitChannel => (s, if choice then .ended else .take .gaveUp)
  | .unmark why => ({ s with negotiatingPeers := update s.negotiatingPeers peer false }, .take why)
  | .take why =>
    ({ s with peers := update s.peers peer none },
      match s.peers peer with
      | none => why.next
      | some connection => .shut why connection)
  | .shut why connection => ({ s with closed := s.closed ++ [connection] }, why.next)
  | .ended => (s, .ended)

def setupRun (s : Sessions) (task : SetupTask) (choice : Bool) : Sessions × SetupTask :=
  let (s, stage) := setupStage s task.peer task.approved choice task.stage
  (s, { task with stage })

/-- What a task is started for. -/
inductive SetupStart where
  /-- `connect_and_proxy`. -/
  | command (peer : String) (approved : Bool)
  /-- An SDP offer that has passed all checks. -/
  | offer (peer : String)
  /-- `close_peer_connection`, for a moderation action or a ban. -/
  | moderation (peer : String)

def SetupStart.task : SetupStart → SetupTask
  | .command peer approved => ⟨peer, approved, .lookStale⟩
  | .offer peer => ⟨peer, true, .create .inbound⟩
  | .moderation peer => ⟨peer, false, .unmark .moderation⟩

abbrev SetupPool := Pool Sessions SetupTask

def setupMachine : Machine SetupPool (PoolEvent SetupStart Bool) Unit :=
  Pool.machine SetupStart.task setupRun

def SetupPool.initial : SetupPool := ⟨.none, []⟩

/-! ## What becomes of a connection -/

/-- The connection that a task has in its hands: it is to go into the table, or was taken out
of it to be closed. -/
def SetupStage.hand : SetupStage → Option Nat
  | .insert _ connection => some connection
  | .shut _ connection => some connection
  | _ => none

/-- The tasks that have a connection in their hands. -/
def hands (tasks : List SetupTask) (c : Nat) : Nat := tasks.countP fun task => task.stage.hand = some c

/-- Whether a connection is the entry of a table. -/
def entered (entry : Option Nat) (c : Nat) : Nat := if entry = some c then 1 else 0

/-- How often a connection with a peer is accounted for: in the table, in the hands of a task,
as one that was closed, or as one that was replaced. -/
def accounts (s : Sessions) (tasks : List SetupTask) (peer : String) (c : Nat) : Nat :=
  entered (s.peers peer) c + hands tasks c + s.closed.count c + s.replaced.count c

/-- A task is between `try_begin_negotiation` and `end_negotiation`. -/
def SetupStage.negotiates : SetupStage → Bool
  | .create .outbound => true
  | .insert .outbound _ => true
  | .endNegotiation _ => true
  | _ => false

/-- What a step of a task does to the connections. -/
inductive Move (s : Sessions) (peer : String) (stage : SetupStage) : Sessions × SetupStage → Prop where
  | quiet (marks : String → Bool) (stage' : SetupStage) (idle : stage.hand = none) (idle' : stage'.hand = none) :
      Move s peer stage ({ s with negotiatingPeers := marks }, stage')
  | make (stage' : SetupStage) (idle : stage.hand = none) (takes : stage'.hand = some s.made.length) :
      Move s peer stage ({ s with made := s.made ++ [peer] }, stage')
  | insert (c : Nat) (stage' : SetupStage) (holds : stage.hand = some c) (idle : stage'.hand = none) :
      Move s peer stage ({ s with
        peers := update s.peers peer (some c)
        replaced := s.replaced ++ (s.peers peer).toList }, stage')
  | take (stage' : SetupStage) (idle : stage.hand = none) (takes : stage'.hand = s.peers peer) :
      Move s peer stage ({ s with peers := update s.peers peer none }, stage')
  | shut (c : Nat) (stage' : SetupStage) (holds : stage.hand = some c) (idle : stage'.hand = none) :
      Move s peer stage ({ s with closed := s.closed ++ [c] }, stage')

section Moves

variable {s : Sessions} {peer : String}

theorem hand_next (why : ClosedFor) : why.next.hand = none := by cases why <;> rfl

theorem setupStage_move (s : Sessions) (peer : String) (approved choice : Bool) (stage : SetupStage) :
    Move s peer stage (setupStage s peer approved choice stage) := by
  have looks (stage stage' : SetupStage) (idle : stage.hand = none) (idle' : stage'.hand = none) :
      Move s peer stage (s, stage') := .quiet s.negotiatingPeers stage' idle idle'
  cases stage with
  | lookStale => exact looks _ _ rfl (by split <;> rfl)
  | readStale => exact looks _ _ rfl (by split <;> rfl)
  | lookReady => exact looks _ _ rfl (by split <;> rfl)
  | lookNegotiating => exact looks _ _ rfl (by split <;> rfl)
  | lookIncomplete => exact looks _ _ rfl (by split <;> rfl)
  | lookSession => exact looks _ _ rfl (by split <;> rfl)
  | lookFree =>
    refine looks _ _ rfl ?_
    split
    · rfl
    · split <;> rfl
  | tryBegin =>
    rw [setupStage]
    split
    · exact looks _ _ rfl rfl
    · exact .quiet _ _ rfl rfl
  | create direction =>
    cases choice with
    | true => exact .make _ rfl rfl
    | false => exact looks _ _ rfl (by cases direction <;> rfl)
  | insert direction c => exact .insert c _ rfl (by cases direction <;> rfl)
  | endNegotiation sent => exact .quiet _ _ rfl (by cases sent <;> rfl)
  | useSession => exact looks _ _ rfl (by split <;> rfl)
  | awaitChannel => exact looks _ _ rfl (by split <;> rfl)
  | unmark why => exact .quiet _ _ rfl rfl
  | take why =>
    refine .take _ rfl ?_
    cases s.peers peer with
    | none => exact hand_next why
    | some c => rfl
  | shut why c => exact .shut c _ rfl (hand_next why)
  | ended => exact looks _ _ rfl rfl

theorem hands_around (before after : List SetupTask) (task : SetupTask) (c : Nat) :
    hands (before ++ task :: after) c =
      hands before c + hands after c + entered task.stage.hand c := by
  simp only [hands, entered, List.countP_append, List.countP_cons, decide_eq_true_eq]
  omega

@[simp] theorem entered_none (c : Nat) : entered none c = 0 := rfl

@[simp] theorem entered_self (c : Nat) : entered (some c) c = 1 := if_pos rfl

theorem entered_ne {entry : Option Nat} {c : Nat} (differs : entry ≠ some c) : entered entry c = 0 :=
  if_neg differs

theorem count_toList (entry : Option Nat) (c : Nat) : entry.toList.count c = entered entry c := by
  cases entry with
  | none => rfl
  | some d => simp [entered, List.count_singleton]

end Moves

/-- Every connection that was made is accounted for once, and no other one is. -/
structure Accounted (s : Sessions) (tasks : List SetupTask) : Prop where
  entry : ∀ (peer : String) (c : Nat), s.peers peer = some c → s.made[c]? = some peer
  held : ∀ task ∈ tasks, ∀ c : Nat, task.stage.hand = some c → s.made[c]? = some task.peer
  once : ∀ (c : Nat) (peer : String), s.made[c]? = some peer → accounts s tasks peer c = 1
  unmade : ∀ c, s.made.length ≤ c → hands tasks c = 0 ∧ s.closed.count c = 0 ∧ s.replaced.count c = 0

namespace Accounted

variable {s s' : Sessions} {before after : List SetupTask} {task : SetupTask} {stage' : SetupStage}

/-- The tasks keep their hands on connections of their peers. -/
private theorem held_around (held : ∀ other ∈ before ++ task :: after, ∀ c : Nat,
      other.stage.hand = some c → s.made[c]? = some other.peer)
    (grows : ∀ (c : Nat) (peer : String), s.made[c]? = some peer → s'.made[c]? = some peer)
    (own : ∀ c : Nat, stage'.hand = some c → s'.made[c]? = some task.peer) :
    ∀ other ∈ before ++ { task with stage := stage' } :: after, ∀ c : Nat,
      other.stage.hand = some c → s'.made[c]? = some other.peer := by
  intro other member c hand
  rcases Pool.mem_replace task member with rfl | old
  · exact own c hand
  · exact grows _ _ (held other old c hand)

/-- The numbers of the connections that were made are below their count. -/
private theorem made_lt {made : List String} {c : Nat} {peer : String} (found : made[c]? = some peer) :
    c < made.length := (List.getElem?_eq_some_iff.mp found).1

/-- A connection has one peer. -/
private theorem entered_other (ok : Accounted s before) {peer other : String} {c : Nat}
    (found : s.made[c]? = some peer) (differs : peer ≠ other) : entered (s.peers other) c = 0 := by
  apply entered_ne
  intro held
  have own := ok.entry other c held
  rw [found] at own
  exact differs (Option.some.inj own)

private theorem entered_new (ok : Accounted s before) {c : Nat} (new : s.made.length ≤ c) (peer : String) :
    entered (s.peers peer) c = 0 := by
  apply entered_ne
  intro held
  have below := made_lt (ok.entry peer c held)
  omega

theorem quiet (ok : Accounted s (before ++ task :: after)) (marks : String → Bool)
    (idle : task.stage.hand = none) (idle' : stage'.hand = none) :
    Accounted { s with negotiatingPeers := marks } (before ++ { task with stage := stage' } :: after) where
  entry := ok.entry
  held := held_around ok.held (fun _ _ found => found) fun c hand => by simp [idle'] at hand
  once c peer found := by
    have once := ok.once c peer found
    simp only [accounts, hands_around, idle, idle'] at once ⊢
    exact once
  unmade c new := by
    have unmade := ok.unmade c new
    simp only [hands_around, idle, idle'] at unmade ⊢
    exact unmade

theorem make (ok : Accounted s (before ++ task :: after)) (idle : task.stage.hand = none)
    (takes : stage'.hand = some s.made.length) :
    Accounted { s with made := s.made ++ [task.peer] } (before ++ { task with stage := stage' } :: after) := by
  have grows : ∀ (c : Nat) (peer : String), s.made[c]? = some peer →
      (s.made ++ [task.peer])[c]? = some peer := by
    intro c peer found
    rw [List.getElem?_append_left (made_lt found)]
    exact found
  refine ⟨fun peer c found => grows c peer (ok.entry peer c found), ?_, ?_, ?_⟩
  · refine held_around ok.held grows fun c hand => ?_
    obtain rfl : s.made.length = c := by simpa [takes] using hand
    simp
  · intro c peer found
    dsimp only at found
    by_cases new : c = s.made.length
    · subst new
      obtain ⟨untouched, unclosed, unreplaced⟩ := ok.unmade s.made.length (Nat.le_refl _)
      have absent := ok.entered_new (Nat.le_refl _) peer
      simp only [hands_around, idle, entered_none] at untouched
      simp only [accounts, hands_around, takes, entered_self, absent, unclosed, unreplaced]
      omega
    · have older : s.made[c]? = some peer := by
        have below := made_lt found
        rw [List.length_append, List.length_singleton] at below
        rwa [List.getElem?_append_left (by omega)] at found
      have once := ok.once c peer older
      have other : some s.made.length ≠ some c := fun same => new (Option.some.inj same).symm
      simp only [accounts, hands_around, idle, takes, entered_none, entered_ne other] at once ⊢
      exact once
  · intro c new
    dsimp only at new
    rw [List.length_append, List.length_singleton] at new
    have unmade := ok.unmade c (by omega)
    have other : some s.made.length ≠ some c := fun same => by
      have same := Option.some.inj same
      omega
    simp only [hands_around, idle, takes, entered_none, entered_ne other] at unmade ⊢
    exact unmade

theorem insert {c : Nat} (ok : Accounted s (before ++ task :: after)) (holds : task.stage.hand = some c)
    (idle : stage'.hand = none) :
    Accounted { s with
      peers := update s.peers task.peer (some c)
      replaced := s.replaced ++ (s.peers task.peer).toList }
      (before ++ { task with stage := stage' } :: after) := by
  have own : s.made[c]? = some task.peer :=
    ok.held task (List.mem_append_right _ List.mem_cons_self) c holds
  refine ⟨?_, ?_, ?_, ?_⟩
  · intro peer d entered
    dsimp only at entered ⊢
    by_cases same : peer = task.peer
    · subst same
      rw [update_self] at entered
      obtain rfl := Option.some.inj entered
      exact own
    · rw [update_of_ne same] at entered
      exact ok.entry peer d entered
  · exact held_around ok.held (fun _ _ found => found) fun d hand => by simp [idle] at hand
  · intro d peer found
    dsimp only at found
    have once := ok.once d peer found
    simp only [accounts, hands_around, holds, idle, List.count_append, count_toList, entered_none] at once ⊢
    by_cases same : peer = task.peer
    · -- the task's connection takes the place of the one in the table
      subst same
      rw [update_self]
      omega
    · have other : some c ≠ some d := by
        intro this
        rw [← Option.some.inj this, own] at found
        exact same (Option.some.inj found).symm
      rw [update_of_ne same, ok.entered_other found same]
      rw [entered_ne other] at once
      omega
  · intro d new
    dsimp only at new
    obtain ⟨untouched, unclosed, unreplaced⟩ := ok.unmade d new
    have below := made_lt own
    have other : some c ≠ some d := fun same => by
      have same := Option.some.inj same
      omega
    simp only [hands_around, holds, idle, entered_none, entered_ne other] at untouched ⊢
    refine ⟨untouched, unclosed, ?_⟩
    rw [List.count_append, count_toList, unreplaced, ok.entered_new new]

theorem take (ok : Accounted s (before ++ task :: after)) (idle : task.stage.hand = none)
    (takes : stage'.hand = s.peers task.peer) :
    Accounted { s with peers := update s.peers task.peer none }
      (before ++ { task with stage := stage' } :: after) := by
  refine ⟨?_, ?_, ?_, ?_⟩
  · intro peer c entered
    dsimp only at entered ⊢
    by_cases same : peer = task.peer
    · subst same
      rw [update_self] at entered
      cases entered
    · rw [update_of_ne same] at entered
      exact ok.entry peer c entered
  · refine held_around ok.held (fun _ _ found => found) fun c hand => ?_
    rw [takes] at hand
    exact ok.entry _ _ hand
  · intro c peer found
    dsimp only at found
    have once := ok.once c peer found
    simp only [accounts, hands_around, idle, takes, entered_none] at once ⊢
    by_cases same : peer = task.peer
    · subst same
      rw [update_self, entered_none]
      omega
    · rw [update_of_ne same, ok.entered_other found same]
      exact once
  · intro c new
    dsimp only at new
    obtain ⟨untouched, unclosed, unreplaced⟩ := ok.unmade c new
    simp only [hands_around, idle, takes, entered_none, ok.entered_new new] at untouched ⊢
    exact ⟨untouched, unclosed, unreplaced⟩

theorem shut {c : Nat} (ok : Accounted s (before ++ task :: after)) (holds : task.stage.hand = some c)
    (idle : stage'.hand = none) :
    Accounted { s with closed := s.closed ++ [c] } (before ++ { task with stage := stage' } :: after) := by
  have own : s.made[c]? = some task.peer :=
    ok.held task (List.mem_append_right _ List.mem_cons_self) c holds
  have count (d : Nat) : (s.closed ++ [c]).count d = s.closed.count d + entered (some c) d := by
    rw [List.count_append, ← count_toList, Option.toList_some]
  refine ⟨ok.entry, ?_, ?_, ?_⟩
  · exact held_around ok.held (fun _ _ found => found) fun d hand => by simp [idle] at hand
  · intro d peer found
    have once := ok.once d peer found
    simp only [accounts, hands_around, holds, idle, count, entered_none] at once ⊢
    omega
  · intro d new
    dsimp only at new
    obtain ⟨untouched, unclosed, unreplaced⟩ := ok.unmade d new
    have below := made_lt own
    have other : some c ≠ some d := fun same => by
      have same := Option.some.inj same
      omega
    simp only [hands_around, holds, idle, count, entered_none, entered_ne other] at untouched ⊢
    exact ⟨untouched, unclosed, unreplaced⟩

theorem step (ok : Accounted s (before ++ task :: after)) (choice : Bool) :
    Accounted (setupRun s task choice).1 (before ++ (setupRun s task choice).2 :: after) := by
  have move := setupStage_move s task.peer task.approved choice task.stage
  rw [setupRun]
  generalize setupStage s task.peer task.approved choice task.stage = result at move
  cases move with
  | quiet marks stage' idle idle' => exact ok.quiet marks idle idle'
  | make stage' idle takes => exact ok.make idle takes
  | insert c stage' holds idle => exact ok.insert holds idle
  | take stage' idle takes => exact ok.take idle takes
  | shut c stage' holds idle => exact ok.shut holds idle

theorem join (ok : Accounted s before) (start : SetupStart) : Accounted s (before ++ [start.task]) := by
  have idle : start.task.stage.hand = none := by cases start <;> rfl
  have same (c : Nat) : hands (before ++ [start.task]) c = hands before c := by
    rw [hands_around, idle]
    rfl
  refine ⟨ok.entry, ?_, ?_, ?_⟩
  · intro task member c hand
    rcases List.mem_append.mp member with old | new
    · exact ok.held task old c hand
    · rw [List.mem_singleton.mp new, idle] at hand
      cases hand
  · intro c peer found
    have once := ok.once c peer found
    simp only [accounts, same] at once ⊢
    exact once
  · intro c new
    rw [same]
    exact ok.unmade c new

end Accounted

/-! ## Negotiations -/

/-- A peer that is marked as negotiated with has a task that negotiates with it. -/
def MarksHeld (s : Sessions) (tasks : List SetupTask) : Prop :=
  ∀ peer, s.negotiatingPeers peer = true → ∃ task ∈ tasks, task.peer = peer ∧ task.stage.negotiates = true

/-- A step marks its own peer only, and a task that leaves the peer marked goes on negotiating,
if it has negotiated. -/
theorem setupStage_marks (s : Sessions) (peer : String) (approved choice : Bool) (stage : SetupStage) :
    let result := setupStage s peer approved choice stage
    (∀ other, other ≠ peer → result.1.negotiatingPeers other = s.negotiatingPeers other) ∧
      (result.1.negotiatingPeers peer = true →
        result.2.negotiates = true ∨ s.negotiatingPeers peer = true ∧ stage.negotiates = false) := by
  have stays (stage' : SetupStage) (quiet : stage.negotiates = false) :
      (∀ other, other ≠ peer → s.negotiatingPeers other = s.negotiatingPeers other) ∧
        (s.negotiatingPeers peer = true →
          stage'.negotiates = true ∨ s.negotiatingPeers peer = true ∧ stage.negotiates = false) :=
    ⟨fun _ _ => rfl, fun marked => .inr ⟨marked, quiet⟩⟩
  have goesOn (stage' : SetupStage) (same : stage'.negotiates = stage.negotiates) :
      (∀ other, other ≠ peer → s.negotiatingPeers other = s.negotiatingPeers other) ∧
        (s.negotiatingPeers peer = true →
          stage'.negotiates = true ∨ s.negotiatingPeers peer = true ∧ stage.negotiates = false) := by
    refine ⟨fun _ _ => rfl, fun marked => ?_⟩
    cases negotiates : stage.negotiates with
    | true => exact .inl (same.trans negotiates)
    | false => exact .inr ⟨marked, rfl⟩
  have unmarked (stage' : SetupStage) :
      (∀ other, other ≠ peer →
        update s.negotiatingPeers peer false other = s.negotiatingPeers other) ∧
        (update s.negotiatingPeers peer false peer = true →
          stage'.negotiates = true ∨ s.negotiatingPeers peer = true ∧ stage.negotiates = false) :=
    ⟨fun other differs => update_of_ne differs _ _, fun marked => by simp at marked⟩
  intro result
  cases stage with
  | tryBegin =>
    by_cases marked : s.negotiatingPeers peer = true
    · rw [show result = (s, .useSession) from if_pos marked]
      exact stays _ rfl
    · rw [show result = ({ s with negotiatingPeers := update s.negotiatingPeers peer true }, .create .outbound)
        from if_neg marked]
      exact ⟨fun other differs => update_of_ne differs _ _, fun _ => .inl rfl⟩
  | create direction => cases choice <;> cases direction <;> exact goesOn _ rfl
  | insert direction c => cases direction <;> exact goesOn _ rfl
  | endNegotiation sent => exact unmarked _
  | unmark why => exact unmarked _
  | _ => exact stays _ rfl

theorem MarksHeld.step {s : Sessions} {before after : List SetupTask} {task : SetupTask}
    (ok : MarksHeld s (before ++ task :: after)) (choice : Bool) :
    MarksHeld (setupRun s task choice).1 (before ++ (setupRun s task choice).2 :: after) := by
  obtain ⟨others, own⟩ := setupStage_marks s task.peer task.approved choice task.stage
  intro peer marked
  have new := List.mem_append_right before (List.mem_cons_self (a := (setupRun s task choice).2) (l := after))
  by_cases mine : peer = task.peer
  · subst mine
    rcases own marked with negotiates | ⟨before_, quiet⟩
    · exact ⟨_, new, rfl, negotiates⟩
    · obtain ⟨other, member, same, negotiates⟩ := ok task.peer before_
      refine ⟨other, Pool.mem_replace_of_ne member ?_, same, negotiates⟩
      rintro rfl
      rw [quiet] at negotiates
      cases negotiates
  · obtain ⟨other, member, same, negotiates⟩ := ok peer ((others peer mine).symm.trans marked)
    refine ⟨other, Pool.mem_replace_of_ne member ?_, same, negotiates⟩
    rintro rfl
    exact mine same.symm

end MtrxPeer
