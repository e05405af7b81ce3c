import MtrxPeer.PeerStats
import MtrxPeer.TransactionRows

/-! Mismatches of token counts, as the lobby finds them. A peer's number of them is raised
when a row changes to that status, but not when the row is made with it. -/
namespace MtrxPeer

/-! ## The store and the counters -/

/-- The stored rows, and the counters of this process. -/
structure MismatchState where
  store : TxStore
  stats : PeerStatsTracker

inductive MismatchEvent where
  | lobbyView (view : TransactionView) (now : Nat)
  | localReport (reqId : String) (role : ExchangeRole) (remotePeerId model : String) (usage : TokenUsage)
    (now : Nat)
  /-- The other events of the counters; only the store tells them of a mismatch. -/
  | traffic (now : StatsClock) (event : StatsEvent) (other : ∀ peerId, event ≠ .tokenMismatch peerId)

variable (me : String)

/-- The other party of an exchange, as the lobby sees it. -/
def viewCounterparty (view : TransactionView) : String :=
  if me = view.consumerPeerId.getD "" then view.providerPeerId.getD "" else view.consumerPeerId.getD ""

/-- The peer whose mismatches `upsert_from_lobby` counts one more of: a row that is not
there yet is made of the view before it is asked for its status. -/
def newlyMismatched (row : Option PeerTransaction) (view : TransactionView) : Option String :=
  if me ≠ view.consumerPeerId.getD "" ∧ me ≠ view.providerPeerId.getD "" then none
  else if view.status = "mismatched" ∧ (row.map PeerTransaction.status).getD view.status ≠ "mismatched" then
    some (viewCounterparty me view)
  else none

def mismatchStep (s : MismatchState) : MismatchEvent → MismatchState
  | .lobbyView view now =>
    { store := s.store.upsertFromLobby now view me
      stats := match newlyMismatched me (s.store.transactions view.reqId) view with
        | none => s.stats
        | some peerId => s.stats.onTokenMismatch peerId }
  | .localReport reqId role remotePeerId model usage now =>
    { s with store := s.store.recordLocalReport now reqId role me remotePeerId model usage }
  | .traffic now event _ => { s with stats := statsStep s.stats now event }

def mismatchMachine : Machine MismatchState MismatchEvent Unit where
  step s e := (mismatchStep me s e, [])

abbrev MismatchRecord := Record MismatchState MismatchEvent Unit

/-! ## Transitions -/

def isMismatched (row : Option PeerTransaction) : Bool := (row.map PeerTransaction.status) = some "mismatched"

/-- The id of the row that an event enters. -/
def MismatchEvent.reqId : MismatchEvent → Option String
  | .lobbyView view _ => some view.reqId
  | .localReport reqId _ _ _ _ _ => some reqId
  | .traffic _ _ _ => none

/-- The peer of a row that is mismatched and was not. -/
def becomesMismatched (before after : Option PeerTransaction) : Option String :=
  if isMismatched after && !isMismatched before then after.map PeerTransaction.counterpartyPeerId else none

/-- The peer whose row a step makes mismatched. -/
def intoMismatched (r : MismatchRecord) : Option String :=
  r.event.reqId.bind fun reqId =>
    becomesMismatched (r.before.store.transactions reqId)
      ((mismatchStep me r.before r.event).store.transactions reqId)

/-- A mismatch that the lobby tells of has a row already, or none is counted because the
exchange is another's; the number of the peer can still be raised, and none is dropped with
a peer that has one. -/
def CountsMismatch (r : MismatchRecord) : Prop :=
  match r.event with
  | .lobbyView view _ =>
    view.status = "mismatched" → me = view.consumerPeerId.getD "" ∨ me = view.providerPeerId.getD "" →
      r.before.store.transactions view.reqId ≠ none ∧
        (r.before.stats.accum (viewCounterparty me view)).tokenMismatchCount < u32Max
  | .traffic _ (.removePeer peerId) _ => (r.before.stats.accum peerId).tokenMismatchCount = 0
  | _ => True

variable {me}

section Step

variable {s : MismatchState} {view : TransactionView}

/-- A report of this peer makes no row mismatched. -/
private theorem reportedRow_mismatched (row : Option PeerTransaction) (now : Nat) (reqId : String)
    (role : ExchangeRole) (peerId remotePeerId model : String) (usage : TokenUsage) :
    isMismatched (some (reportedRow row now reqId role peerId remotePeerId model usage)) =
      isMismatched row := by
  cases row with
  | none => rfl
  | some tx =>
    simp only [isMismatched, Option.map_some, reportedRow, Option.getD_some]
    split
    · rename_i empty
      simp [empty]
    · rfl

/-- What a view makes of the row and of the counters goes together, where there was a row. -/
private theorem lobbyView_into (keyed : s.store.Keyed) (now : Nat)
    (there : view.status = "mismatched" →
      me = view.consumerPeerId.getD "" ∨ me = view.providerPeerId.getD "" →
        s.store.transactions view.reqId ≠ none) :
    intoMismatched me ((mismatchMachine me).record s (.lobbyView view now)) =
      newlyMismatched me (s.store.transactions view.reqId) view := by
  simp only [intoMismatched, Machine.record, MismatchEvent.reqId, Option.bind_some, mismatchStep,
    TxStore.upsertFromLobby, newlyMismatched]
  by_cases apart : me ≠ view.consumerPeerId.getD "" ∧ me ≠ view.providerPeerId.getD ""
  · rw [if_pos apart, if_pos apart, becomesMismatched, if_neg (by simp)]
  · have part : me = view.consumerPeerId.getD "" ∨ me = view.providerPeerId.getD "" := by tauto
    rw [if_neg apart, if_neg apart, write_transactions, viewedRow_reqId keyed, Function.update_self]
    have status : isMismatched (some (viewedRow (s.store.transactions view.reqId) now view me)) =
        decide (view.status = "mismatched") := by
      simp only [isMismatched, Option.map_some, Option.some.injEq]
      rfl
    rw [becomesMismatched, status]
    by_cases mismatched : view.status = "mismatched"
    · obtain ⟨tx, found⟩ := Option.ne_none_iff_exists'.mp (there mismatched part)
      have before : isMismatched (some tx) = decide (tx.status = "mismatched") := by
        simp [isMismatched]
      rw [found, before, mismatched]
      simp only [Option.map_some, Option.getD_some]
      by_cases already : tx.status = "mismatched"
      · rw [if_neg (by simp [already]), if_neg (by simp [already])]
      · rw [if_pos (by simp [already]), if_pos ⟨trivial, already⟩]
        rfl
    · rw [if_neg (by simp [mismatched]), if_neg (by simp [mismatched])]

private theorem tokenMismatchCount_traffic (now : StatsClock) {event : StatsEvent}
    (other : ∀ peerId, event ≠ .tokenMismatch peerId) (t : PeerStatsTracker)
    (kept : ∀ peerId, event = .removePeer peerId → (t.accum peerId).tokenMismatchCount = 0)
    (peerId : String) :
    ((statsStep t now event).accum peerId).tokenMismatchCount = (t.accum peerId).tokenMismatchCount := by
  cases event with
  | start reqId target model bytesSent =>
    simp only [statsStep, PeerStatsTracker.onRequestStart, accum_active]
    apply accum_alter_keeps PeerAccum.tokenMismatchCount
    intro a
    rfl
  | progress reqId bytesReceived tokens =>
    cases found : t.active.lookup reqId with
    | none => rw [statsStep, onStreamProgress_none found]
    | some active =>
      exact onStreamProgress_keeps found now bytesReceived tokens PeerAccum.tokenMismatchCount
        (fun _ _ _ => rfl) fun _ _ => rfl
  | complete reqId tokens bytesReceived =>
    simp only [statsStep, PeerStatsTracker.onRequestComplete]
    split
    · rfl
    · refine (accum_alter_keeps PeerAccum.tokenMismatchCount fun a => ?_).trans rfl
      rfl
  | error reqId =>
    simp only [statsStep, PeerStatsTracker.onRequestError]
    split
    · rfl
    · refine (accum_alter_keeps PeerAccum.tokenMismatchCount fun a => ?_).trans rfl
      rfl
  | tokenMismatch target => exact absurd rfl (other target)
  | removePeer target =>
    by_cases same : peerId = target
    · rw [same, kept target rfl]
      simp [statsStep, PeerStatsTracker.removePeer, PeerStatsTracker.accum, PeerAccum.default]
    · simp [statsStep, PeerStatsTracker.removePeer, PeerStatsTracker.accum, Function.update_of_ne same]

/-- One step changes the number of a peer by the transitions of its rows. -/
private theorem mismatchStep_counts (keyed : s.store.Keyed) {e : MismatchEvent}
    (counts : CountsMismatch me ((mismatchMachine me).record s e)) (peerId : String) :
    ((mismatchStep me s e).stats.accum peerId).tokenMismatchCount =
      (s.stats.accum peerId).tokenMismatchCount +
        if intoMismatched me ((mismatchMachine me).record s e) = some peerId then 1 else 0 := by
  cases e with
  | lobbyView view now =>
    rw [lobbyView_into keyed now fun mismatched part => (counts mismatched part).1]
    simp only [mismatchStep]
    cases newly : newlyMismatched me (s.store.transactions view.reqId) view with
    | none => simp
    | some target =>
      simp only [newlyMismatched] at newly
      split_ifs at newly with apart mismatched
      have part : me = view.consumerPeerId.getD "" ∨ me = view.providerPeerId.getD "" := by tauto
      obtain rfl := Option.some.inj newly
      have below := (counts mismatched.1 part).2
      by_cases same : peerId = viewCounterparty me view
      · subst same
        simp only [PeerStatsTracker.onTokenMismatch, accum_alter_self, if_pos]
        exact min_eq_left below
      · simp only [PeerStatsTracker.onTokenMismatch, accum_alter_ne same]
        rw [if_neg fun other => same (Option.some.inj other).symm, Nat.add_zero]
  | localReport reqId role remotePeerId model usage now =>
    have none_ : intoMismatched me ((mismatchMachine me).record s
        (.localReport reqId role remotePeerId model usage now)) = none := by
      simp only [intoMismatched, Machine.record, MismatchEvent.reqId, Option.bind_some, mismatchStep,
        TxStore.recordLocalReport, write_transactions]
      rw [reportedRow_reqId keyed, Function.update_self, becomesMismatched, reportedRow_mismatched,
        if_neg (by simp)]
    rw [none_]
    rfl
  | traffic now event other =>
    have none_ : intoMismatched me ((mismatchMachine me).record s (.traffic now event other)) = none := rfl
    rw [none_, if_neg (by simp), Nat.add_zero]
    refine tokenMismatchCount_traffic now other s.stats ?_ peerId
    rintro target rfl
    exact counts

private theorem mismatchStep_keyed (keyed : s.store.Keyed) (e : MismatchEvent) :
    (mismatchStep me s e).store.Keyed := by
  cases e with
  | lobbyView view now => exact upsertFromLobby_keyed keyed
  | localReport reqId role remotePeerId model usage now => exact keyed.write now
  | traffic now event other => exact keyed

end Step

/-- In a run in which the lobby finds mismatches of exchanges that have a row only, and no
peer with mismatches is removed, the number shown of a peer is that of the transitions of
its rows into that status. -/
theorem mismatches_count_transitions {store : TxStore} (keyed : store.Keyed)
    {past : List MismatchRecord} {s : MismatchState}
    (ran : (mismatchMachine me).Reaches ⟨store, .new⟩ past s)
    (counts : ∀ r ∈ past, CountsMismatch me r) (now lifetime : Nat) (peerId : String) :
    (s.stats.snapshot now peerId lifetime).tokenMismatchCount =
      past.countP fun r => intoMismatched me r = some peerId := by
  have kept := ran.invariant
    (fun past s => s.store.Keyed ∧ ∀ peerId, (s.stats.accum peerId).tokenMismatchCount =
      past.countP fun r => intoMismatched me r = some peerId)
    (CountsMismatch me) ⟨keyed, fun _ => rfl⟩
    (fun past s e kept counts => ⟨mismatchStep_keyed kept.1 e, fun peerId => ?_⟩) counts
  · exact kept.2 peerId
  · refine (mismatchStep_counts kept.1 counts peerId).trans ?_
    rw [kept.2 peerId, List.countP_cons]
    simp only [decide_eq_true_eq]

private def sampleMismatch (status : String) : TransactionView :=
  ⟨"me:1", some "me", some "a", some "llama3", some 20, none, none, none, status, none⟩

private theorem empty_keyed : TxStore.empty.Keyed := by
  intro reqId tx found
  cases found

/-- A row that is pending, then mismatched, twice. -/
theorem mismatches_count_transitions_sample :
    ((((mismatchMachine "me").history ⟨.empty, .new⟩
      [.localReport "me:1" .consumer "a" "llama3" ⟨5, 20, 25⟩ 10,
        .lobbyView (sampleMismatch "mismatched") 11, .lobbyView (sampleMismatch "mismatched") 12]).2).stats.snapshot
      12 "a" 0).tokenMismatchCount = 1 := by
  refine (mismatches_count_transitions empty_keyed
    (Machine.reaches_history (mismatchMachine "me") ⟨.empty, .new⟩ _) ?_ 12 0 "a").trans (by decide)
  intro r member
  simp only [Machine.history, List.foldl_cons, List.foldl_nil, List.mem_cons, List.not_mem_nil,
    or_false] at member
  rcases member with rfl | rfl | rfl
  · intro _ _
    refine ⟨fun absent => ?_, by decide⟩
    cases absent
  · intro _ _
    refine ⟨fun absent => ?_, by decide⟩
    cases absent
  · trivial

/-- A mismatch that the lobby tells of before the peer has a row is not counted. -/
theorem first_mismatch_uncounted :
    ∃ past s, (mismatchMachine "me").Reaches ⟨.empty, .new⟩ past s ∧
      (s.stats.snapshot 11 "a" 0).tokenMismatchCount ≠
        past.countP fun r => intoMismatched "me" r = some "a" :=
  ⟨_, _, Machine.reaches_history (mismatchMachine "me") ⟨.empty, .new⟩
    [.lobbyView (sampleMismatch "mismatched") 11], by decide⟩

end MtrxPeer
