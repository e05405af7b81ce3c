import Mathlib.Algebra.GroupWithZero.Nat
import Mathlib.Data.Finset.Card
import Mathlib.Data.List.AList
import MtrxPeer.Runs

/-! The counters that are kept of each peer, beside the table of the requests under way.
How many requests are under way is counted, not read from that table: the two agree as
long as no id is given to a request while another one has it. -/
namespace MtrxPeer

/-! ## The tracker -/

def u32Max : Nat := 2 ^ 32 - 1

def u64Max : Nat := 2 ^ 64 - 1

/-- `saturating_add`, of a number that is at most `bound`. -/
def saturatingAdd (bound a b : Nat) : Nat := min (a + b) bound

/-- `push_capped`. -/
def pushCapped {α : Type} (buf : List α) (cap : Nat) (item : α) : List α :=
  (if cap ≤ buf.length then buf.tail else buf) ++ [item]

def rollingWindowSecs : Nat := 60

def tokenSampleCap : Nat := 128

def requestTsCap : Nat := 128

def recentOutcomesCap : Nat := 10

/-- The clocks that are read: seconds of the day's clock, milliseconds of a steady one. -/
structure StatsClock where
  unix : Nat
  millis : Nat

structure ActiveExchange where
  peerId : String
  model : String
  startedAt : Nat
  bytesSent : Nat
  bytesReceived : Nat
  lastPartialTokens : UInt32

structure PeerAccum where
  sessionTokens : Nat
  totalRequests : Nat
  totalErrors : Nat
  activeRequests : Nat
  bytesSent : Nat
  bytesReceived : Nat
  lastBytesSent : Nat
  durationSumMs : Nat
  durationCount : Nat
  lastModel : Option String
  lastRequestAtUnix : Nat
  tokenMismatchCount : Nat
  tokenSamples : List (Nat × UInt32)
  requestTimestamps : List Nat
  recentOutcomes : List Bool

def PeerAccum.default : PeerAccum := ⟨0, 0, 0, 0, 0, 0, 0, 0, 0, none, 0, 0, [], [], []⟩

structure PeerStatsTracker where
  peers : String → Option PeerAccum
  active : AList fun _ : String => ActiveExchange

namespace PeerAccum

/-- A request begins. -/
def start (accum : PeerAccum) (now bytesSent : Nat) : PeerAccum := { accum with
  activeRequests := saturatingAdd u32Max accum.activeRequests 1
  bytesSent := saturatingAdd u64Max accum.bytesSent bytesSent
  lastBytesSent := bytesSent
  requestTimestamps := pushCapped accum.requestTimestamps requestTsCap now }

/-- Tokens are told of before a request is complete. -/
def sample (accum : PeerAccum) (now : Nat) (tokens : UInt32) : PeerAccum := { accum with
  tokenSamples := pushCapped accum.tokenSamples tokenSampleCap (now, tokens) }

/-- A part of a response arrives. -/
def receive (accum : PeerAccum) (bytesReceived : Nat) : PeerAccum := { accum with
  bytesReceived := saturatingAdd u64Max accum.bytesReceived bytesReceived }

/-- A request is complete. -/
def complete (accum : PeerAccum) (now : StatsClock) (active : ActiveExchange) (tokens : UInt32)
    (bytesReceived : Nat) : PeerAccum := { accum with
  activeRequests := accum.activeRequests - 1
  totalRequests := saturatingAdd u32Max accum.totalRequests 1
  sessionTokens := saturatingAdd u64Max accum.sessionTokens tokens.toNat
  bytesSent := saturatingAdd u64Max accum.bytesSent active.bytesSent
  bytesReceived := saturatingAdd u64Max accum.bytesReceived bytesReceived
  lastBytesSent := active.bytesSent
  durationSumMs := saturatingAdd u64Max accum.durationSumMs (now.millis - active.startedAt)
  durationCount := saturatingAdd u32Max accum.durationCount 1
  lastModel := some active.model
  lastRequestAtUnix := now.unix
  tokenSamples := pushCapped accum.tokenSamples tokenSampleCap (now.unix, tokens)
  recentOutcomes := pushCapped accum.recentOutcomes recentOutcomesCap true }

/-- A request fails. -/
def fail (accum : PeerAccum) : PeerAccum := { accum with
  activeRequests := accum.activeRequests - 1
  totalErrors := saturatingAdd u32Max accum.totalErrors 1
  recentOutcomes := pushCapped accum.recentOutcomes recentOutcomesCap false }

/-- The lobby has other token counts than the peer. -/
def mismatch (accum : PeerAccum) : PeerAccum := { accum with
  tokenMismatchCount := saturatingAdd u32Max accum.tokenMismatchCount 1 }

end PeerAccum

namespace PeerStatsTracker

def new : PeerStatsTracker := ⟨fun _ => none, ∅⟩

/-- The counters of a peer; none yet is all zero. -/
def accum (t : PeerStatsTracker) (peerId : String) : PeerAccum := (t.peers peerId).getD .default

/-- The counters of a peer, changed. -/
def alter (t : PeerStatsTracker) (peerId : String) (f : PeerAccum → PeerAccum) : PeerStatsTracker :=
  { t with peers := Function.update t.peers peerId (some (f (t.accum peerId))) }

/-- `on_request_start`. -/
def onRequestStart (t : PeerStatsTracker) (now : StatsClock) (reqId peerId model : String)
    (bytesSent : Nat) : PeerStatsTracker :=
  let t := t.alter peerId (·.start now.unix bytesSent)
  { t with active := t.active.insert reqId ⟨peerId, model, now.millis, bytesSent, 0, 0⟩ }

/-- `on_stream_progress`. -/
def onStreamProgress (t : PeerStatsTracker) (now : StatsClock) (reqId : String) (bytesReceived : Nat)
    (partialTokens : UInt32) : PeerStatsTracker :=
  match t.active.lookup reqId with
  | none => t
  | some active =>
    let more := active.lastPartialTokens < partialTokens
    let t :=
      if more then t.alter active.peerId (·.sample now.unix (partialTokens - active.lastPartialTokens))
      else t
    let t := { t with active := t.active.insert reqId { active with
      bytesReceived := saturatingAdd u64Max active.bytesReceived bytesReceived
      lastPartialTokens := if more then partialTokens else active.lastPartialTokens } }
    match t.peers active.peerId with
    | none => t
    | some _ => t.alter active.peerId (·.receive bytesReceived)

/-- `on_request_complete`. -/
def onRequestComplete (t : PeerStatsTracker) (now : StatsClock) (reqId : String) (tokens : UInt32)
    (bytesReceived : Nat) : PeerStatsTracker :=
  match t.active.lookup reqId with
  | none => t
  | some active =>
    let t := { t with active := t.active.erase reqId }
    t.alter active.peerId (·.complete now active tokens bytesReceived)

/-- `on_request_error`. -/
def onRequestError (t : PeerStatsTracker) (reqId : String) : PeerStatsTracker :=
  match t.active.lookup reqId with
  | none => t
  | some active =>
    let t := { t with active := t.active.erase reqId }
    t.alter active.peerId (·.fail)

/-- `on_token_mismatch`. -/
def onTokenMismatch (t : PeerStatsTracker) (peerId : String) : PeerStatsTracker :=
  t.alter peerId (·.mismatch)

end PeerStatsTracker

/-- `HashMap::retain`. -/
def retain {α : Type} (keep : α → Bool) (table : AList fun _ : String => α) :
    AList fun _ : String => α where
  entries := table.entries.filter fun entry => keep entry.2
  nodupKeys := table.nodupKeys.sublist List.filter_sublist

namespace PeerStatsTracker

/-- `remove_peer`. -/
def removePeer (t : PeerStatsTracker) (peerId : String) : PeerStatsTracker where
  peers := Function.update t.peers peerId none
  active := retain (fun active => active.peerId ≠ peerId) t.active

end PeerStatsTracker

/-! ## What is shown of a peer -/

/-- What is shown of a peer; the rates are of one minute, in which the tokens and requests
are counted. -/
structure PeerTrafficStats where
  tokensInWindow : Nat
  requestsInWindow : Nat
  sessionTokens : Nat
  lifetimeTokens : Nat
  totalRequests : Nat
  activeRequests : Nat
  errorCount : Nat
  bytesSent : Nat
  bytesReceived : Nat
  avgDurationMs : Nat
  lastModel : Option String
  tokenMismatchCount : Nat
  warnings : List String
  deriving DecidableEq, Repr

/-- The tokens of the samples that are in the window that ends now. -/
def windowTokens (now : Nat) (samples : List (Nat × UInt32)) : Nat :=
  samples.foldl (fun total sample =>
    if now - rollingWindowSecs ≤ sample.1 then saturatingAdd u64Max total sample.2.toNat else total) 0

/-- The tokens that requests under way of a peer have told of. -/
def partialTokens (peerId : String) (active : AList fun _ : String => ActiveExchange) (total : Nat) : Nat :=
  active.entries.foldl (fun total entry =>
    if entry.2.peerId = peerId ∧ 0 < entry.2.lastPartialTokens then
      saturatingAdd u64Max total entry.2.lastPartialTokens.toNat
    else total) total

/-- `snapshot`. -/
def PeerStatsTracker.snapshot (t : PeerStatsTracker) (now : Nat) (peerId : String) (lifetimeTokens : Nat) :
    PeerTrafficStats :=
  let a := t.accum peerId
  let avgDurationMs := if 0 < a.durationCount then a.durationSumMs / a.durationCount else 0
  let requestsInWindow := a.requestTimestamps.countP fun ts => now - rollingWindowSecs ≤ ts
  let errors := a.recentOutcomes.countP (!·)
  { tokensInWindow := match t.peers peerId with
      | none => 0
      | some a => partialTokens peerId t.active (windowTokens now a.tokenSamples)
    requestsInWindow
    sessionTokens := a.sessionTokens
    lifetimeTokens
    totalRequests := a.totalRequests
    activeRequests := a.activeRequests
    errorCount := a.totalErrors
    bytesSent := a.bytesSent
    bytesReceived := a.bytesReceived
    avgDurationMs
    lastModel := a.lastModel
    tokenMismatchCount := a.tokenMismatchCount
    warnings :=
      (if 30 < requestsInWindow then ["high_request_rate"] else []) ++
      (if 0 < a.tokenMismatchCount then ["token_mismatch"] else []) ++
      (if 400 * 1024 < a.lastBytesSent then ["large_payload"] else []) ++
      (if 3 ≤ a.totalRequests ∧ 120000 < avgDurationMs then ["slow_response"] else []) ++
      (if 3 ≤ a.recentOutcomes.length ∧ a.recentOutcomes.length ≤ 2 * errors then ["high_error_rate"]
        else []) }

/-! ## Events -/

inductive StatsEvent where
  | start (reqId peerId model : String) (bytesSent : Nat)
  | progress (reqId : String) (bytesReceived : Nat) (partialTokens : UInt32)
  | complete (reqId : String) (tokens : UInt32) (bytesReceived : Nat)
  | error (reqId : String)
  | tokenMismatch (peerId : String)
  | removePeer (peerId : String)

def statsStep (t : PeerStatsTracker) (now : StatsClock) : StatsEvent → PeerStatsTracker
  | .start reqId peerId model bytesSent => t.onRequestStart now reqId peerId model bytesSent
  | .progress reqId bytesReceived partialTokens =>
    t.onStreamProgress now reqId bytesReceived partialTokens
  | .complete reqId tokens bytesReceived => t.onRequestComplete now reqId tokens bytesReceived
  | .error reqId => t.onRequestError reqId
  | .tokenMismatch peerId => t.onTokenMismatch peerId
  | .removePeer peerId => t.removePeer peerId

def statsMachine : Machine PeerStatsTracker (StatsClock × StatsEvent) Unit where
  step t e := (statsStep t e.1 e.2, [])

/-- A step of the tracker. -/
abbrev StatsRecord := Record PeerStatsTracker (StatsClock × StatsEvent) Unit

/-- The requests that were started and have not ended, with their peers. -/
def openRequests : List StatsRecord → Finset (String × String)
  | [] => ∅
  | r :: past =>
    match r.event.2 with
    | .start reqId peerId _ _ => insert (reqId, peerId) (openRequests past)
    | .complete reqId _ _ => (openRequests past).filter (·.1 ≠ reqId)
    | .error reqId => (openRequests past).filter (·.1 ≠ reqId)
    | .removePeer peerId => (openRequests past).filter (·.2 ≠ peerId)
    | _ => openRequests past

/-- A request is started under an id that no other one has, of a peer that has fewer under
way than can be counted. -/
def StartsFresh (r : StatsRecord) : Prop :=
  ∀ reqId peerId model bytesSent, r.event.2 = .start reqId peerId model bytesSent →
    r.before.active.lookup reqId = none ∧ (r.before.accum peerId).activeRequests < u32Max

/-! ## The parts of a tracker -/

section Parts

variable {t : PeerStatsTracker} {peerId other reqId : String} {f : PeerAccum → PeerAccum}

@[simp] theorem alter_active : (t.alter peerId f).active = t.active := rfl

@[simp] theorem accum_alter_self : (t.alter peerId f).accum peerId = f (t.accum peerId) := by
  simp [PeerStatsTracker.alter, PeerStatsTracker.accum]

theorem accum_alter_ne (differs : other ≠ peerId) : (t.alter peerId f).accum other = t.accum other := by
  simp [PeerStatsTracker.alter, PeerStatsTracker.accum, Function.update_of_ne differs]

/-- What a change keeps of the counters of its peer, it keeps of all. -/
theorem accum_alter_keeps {α : Type} (field : PeerAccum → α) (kept : ∀ a, field (f a) = field a) :
    field ((t.alter peerId f).accum other) = field (t.accum other) := by
  by_cases same : other = peerId
  · rw [same, accum_alter_self, kept]
  · rw [accum_alter_ne same]

theorem lookup_retain {α : Type} (keep : α → Bool) (table : AList fun _ : String => α) (key : String) :
    (retain keep table).lookup key = (table.lookup key).filter keep := by
  refine Option.ext fun value => ?_
  have kept : value ∈ (retain keep table).lookup key ↔
      (⟨key, value⟩ : Sigma fun _ : String => α) ∈ (retain keep table).entries :=
    AList.mem_lookup_iff
  have held : value ∈ table.lookup key ↔ (⟨key, value⟩ : Sigma fun _ : String => α) ∈ table.entries :=
    AList.mem_lookup_iff
  rw [Option.mem_def] at kept held
  rw [kept, Option.filter_eq_some_iff, held]
  exact List.mem_filter

@[simp] theorem accum_active (active : AList fun _ : String => ActiveExchange) :
    PeerStatsTracker.accum { t with active } peerId = t.accum peerId := rfl

/-- Of a request that is not under way nothing is entered. -/
theorem onStreamProgress_none (idle : t.active.lookup reqId = none) (now : StatsClock) (bytes : Nat)
    (tokens : UInt32) : t.onStreamProgress now reqId bytes tokens = t := by
  simp only [PeerStatsTracker.onStreamProgress, idle]

section Progress

variable {active : ActiveExchange} (running : t.active.lookup reqId = some active) (now : StatsClock)
  (bytes : Nat) (tokens : UInt32)

include running

/-- Progress changes the request's own entry. -/
theorem onStreamProgress_active :
    (t.onStreamProgress now reqId bytes tokens).active = t.active.insert reqId { active with
      bytesReceived := saturatingAdd u64Max active.bytesReceived bytes
      lastPartialTokens :=
        if active.lastPartialTokens < tokens then tokens else active.lastPartialTokens } := by
  simp only [PeerStatsTracker.onStreamProgress, running]
  by_cases more : active.lastPartialTokens < tokens
  · simp only [if_pos more]
    split <;> rfl
  · simp only [if_neg more]
    split <;> rfl

/-- What progress keeps of the counters. -/
theorem onStreamProgress_keeps {α : Type} (field : PeerAccum → α)
    (sampled : ∀ a time tokens, field (a.sample time tokens) = field a)
    (received : ∀ a bytes, field (a.receive bytes) = field a) :
    field ((t.onStreamProgress now reqId bytes tokens).accum other) = field (t.accum other) := by
  simp only [PeerStatsTracker.onStreamProgress, running]
  by_cases more : active.lastPartialTokens < tokens
  · simp only [if_pos more]
    split
    · exact accum_alter_keeps field fun a => sampled a _ _
    · refine (accum_alter_keeps field fun a => received a _).trans ?_
      exact accum_alter_keeps field fun a => sampled a _ _
  · simp only [if_neg more]
    split
    · rfl
    · exact accum_alter_keeps field fun a => received a _

end Progress

end Parts

/-! ## Requests under way -/

section Open

variable {t : PeerStatsTracker} {running : Finset (String × String)} {reqId peerId : String}

/-- The table and the counters of a tracker agree with the requests under way. -/
structure CountsOpen (running : Finset (String × String)) (t : PeerStatsTracker) : Prop where
  listed : ∀ reqId peerId, (reqId, peerId) ∈ running ↔
    ∃ active, t.active.lookup reqId = some active ∧ active.peerId = peerId
  counted : ∀ peerId, (t.accum peerId).activeRequests = (running.filter (·.2 = peerId)).card

/-- An id that is not in the table is of no request under way. -/
private theorem CountsOpen.idle (counts : CountsOpen running t) (idle : t.active.lookup reqId = none) :
    running.filter (·.1 ≠ reqId) = running := by
  refine Finset.filter_true_of_mem ?_
  rintro ⟨id, peer⟩ member same
  obtain ⟨active, found, -⟩ := (counts.listed id peer).mp member
  rw [show id = reqId from same, idle] at found
  cases found

private theorem CountsOpen.start (counts : CountsOpen running t) (now : StatsClock) (model : String)
    (bytesSent : Nat) (fresh : t.active.lookup reqId = none)
    (below : (t.accum peerId).activeRequests < u32Max) :
    CountsOpen (insert (reqId, peerId) running) (t.onRequestStart now reqId peerId model bytesSent) := by
  have new (peer : String) : (reqId, peer) ∉ running := by
    intro member
    obtain ⟨active, found, -⟩ := (counts.listed reqId peer).mp member
    rw [fresh] at found
    cases found
  constructor
  · intro id peer
    simp only [PeerStatsTracker.onRequestStart, alter_active, Finset.mem_insert, Prod.mk.injEq]
    by_cases same : id = reqId
    · subst same
      simp [AList.lookup_insert, new peer, eq_comm]
    · rw [AList.lookup_insert_ne same, ← counts.listed id peer]
      simp [same]
  · intro peer
    by_cases same : peer = peerId
    · subst same
      have entered : ((insert (reqId, peer) running).filter (·.2 = peer)).card =
          (running.filter (·.2 = peer)).card + 1 := by
        rw [Finset.filter_insert, if_pos rfl, Finset.card_insert_of_notMem]
        simp [new peer]
      rw [entered, ← counts.counted peer, PeerStatsTracker.onRequestStart, accum_active,
        accum_alter_self]
      exact min_eq_left below
    · rw [Finset.filter_insert, if_neg (Ne.symm same), ← counts.counted peer,
        PeerStatsTracker.onRequestStart, accum_active, accum_alter_ne same]

/-- A request that ends leaves the table, and is one less of its peer. -/
private theorem CountsOpen.ended (counts : CountsOpen running t) {active : ActiveExchange}
    (found : t.active.lookup reqId = some active) {f : PeerAccum → PeerAccum}
    (less : ∀ a, (f a).activeRequests = a.activeRequests - 1) :
    CountsOpen (running.filter (·.1 ≠ reqId))
      ({ t with active := t.active.erase reqId }.alter active.peerId f) := by
  have mine (peer : String) : (reqId, peer) ∈ running ↔ peer = active.peerId := by
    rw [counts.listed reqId peer, found]
    simp [eq_comm]
  constructor
  · intro id peer
    simp only [alter_active, Finset.mem_filter]
    by_cases same : id = reqId
    · subst same
      simp [AList.lookup_erase]
    · rw [AList.lookup_erase_ne same, counts.listed id peer]
      simp [same]
  · intro peer
    have erased : (running.filter (·.1 ≠ reqId)).filter (·.2 = peer) =
        (running.filter (·.2 = peer)).erase (reqId, peer) := by
      ext ⟨id, other⟩
      simp only [Finset.mem_filter, Finset.mem_erase, ne_eq, Prod.mk.injEq, not_and]
      constructor
      · rintro ⟨⟨member, differs⟩, rfl⟩
        exact ⟨fun same => absurd same differs, member, rfl⟩
      · rintro ⟨differs, member, rfl⟩
        exact ⟨⟨member, fun same => differs same rfl⟩, rfl⟩
    rw [erased]
    by_cases same : peer = active.peerId
    · subst same
      rw [Finset.card_erase_of_mem (by simp [mine]), accum_alter_self, less, ← counts.counted]
      rfl
    · rw [Finset.erase_eq_of_notMem (by simp [mine, same]), accum_alter_ne same, ← counts.counted]
      rfl

private theorem CountsOpen.removed (counts : CountsOpen running t) :
    CountsOpen (running.filter (·.2 ≠ peerId)) (t.removePeer peerId) := by
  constructor
  · intro id peer
    simp only [PeerStatsTracker.removePeer, lookup_retain, Option.filter_eq_some_iff, Finset.mem_filter,
      counts.listed id peer, decide_eq_true_eq]
    constructor
    · rintro ⟨⟨active, found, rfl⟩, differs⟩
      exact ⟨active, ⟨found, differs⟩, rfl⟩
    · rintro ⟨active, ⟨found, differs⟩, rfl⟩
      exact ⟨⟨active, found, rfl⟩, differs⟩
  · intro peer
    by_cases same : peer = peerId
    · subst same
      have none_ : (running.filter (·.2 ≠ peer)).filter (·.2 = peer) = ∅ := by
        ext ⟨id, other⟩
        simp
      rw [none_]
      simp [PeerStatsTracker.removePeer, PeerStatsTracker.accum, PeerAccum.default]
    · have kept : (running.filter (·.2 ≠ peerId)).filter (·.2 = peer) = running.filter (·.2 = peer) := by
        ext ⟨id, other⟩
        simp only [Finset.mem_filter]
        constructor
        · exact fun ⟨⟨member, _⟩, mine⟩ => ⟨member, mine⟩
        · rintro ⟨member, rfl⟩
          exact ⟨⟨member, same⟩, rfl⟩
      rw [kept, ← counts.counted peer]
      simp [PeerStatsTracker.removePeer, PeerStatsTracker.accum, Function.update_of_ne same]

/-- One step keeps the agreement of the table, the counters and the requests under way. -/
theorem statsStep_counts (past : List StatsRecord) (e : StatsClock × StatsEvent)
    (counts : CountsOpen (openRequests past) t) (fresh : StartsFresh (statsMachine.record t e)) :
    CountsOpen (openRequests (statsMachine.record t e :: past)) (statsStep t e.1 e.2) := by
  obtain ⟨now, e⟩ := e
  cases e with
  | start reqId peerId model bytesSent =>
    obtain ⟨new, below⟩ := fresh reqId peerId model bytesSent rfl
    exact counts.start now model bytesSent new below
  | progress reqId bytesReceived partialTokens =>
    cases found : t.active.lookup reqId with
    | none =>
      simp only [statsStep, onStreamProgress_none found]
      exact counts
    | some active =>
      refine ⟨fun id peer => (counts.listed id peer).trans ?_, fun peer =>
        (onStreamProgress_keeps found now bytesReceived partialTokens PeerAccum.activeRequests
          (fun _ _ _ => rfl) fun _ _ => rfl).trans (counts.counted peer)⟩
      simp only [statsStep, onStreamProgress_active found]
      by_cases same : id = reqId
      · subst same
        simp [AList.lookup_insert, found]
      · rw [AList.lookup_insert_ne same]
  | complete reqId tokens bytesReceived =>
    cases found : t.active.lookup reqId with
    | none =>
      simp only [statsStep, PeerStatsTracker.onRequestComplete, found, openRequests, Machine.record,
        counts.idle found]
      exact counts
    | some active =>
      simp only [statsStep, PeerStatsTracker.onRequestComplete, found]
      exact counts.ended found fun _ => rfl
  | error reqId =>
    cases found : t.active.lookup reqId with
    | none =>
      simp only [statsStep, PeerStatsTracker.onRequestError, found, openRequests, Machine.record,
        counts.idle found]
      exact counts
    | some active =>
      simp only [statsStep, PeerStatsTracker.onRequestError, found]
      exact counts.ended found fun _ => rfl
  | tokenMismatch peerId =>
    refine ⟨counts.listed, fun peer => ?_⟩
    refine Eq.trans ?_ (counts.counted peer)
    exact accum_alter_keeps PeerAccum.activeRequests fun a => rfl
  | removePeer peerId => exact counts.removed

/-- In a run in which every request is started under an id that no other one has, the
active requests that are shown of a peer are those that were started and have not ended. -/
theorem active_requests_exact {past : List StatsRecord}
    (ran : statsMachine.Reaches .new past t) (fresh : ∀ r ∈ past, StartsFresh r) (now lifetime : Nat)
    (peerId : String) :
    (t.snapshot now peerId lifetime).activeRequests =
      ((openRequests past).filter (·.2 = peerId)).card := by
  have init : CountsOpen (openRequests []) PeerStatsTracker.new := by
    refine ⟨fun reqId peerId => ?_, fun peerId => rfl⟩
    simp [openRequests, PeerStatsTracker.new]
  have counts := ran.invariant (fun past t => CountsOpen (openRequests past) t) StartsFresh init
    (fun past t e counts fresh => statsStep_counts past e counts fresh) fresh
  exact counts.counted peerId

end Open

private def sampleStats (events : List StatsEvent) : List StatsRecord × PeerStatsTracker :=
  statsMachine.history .new (events.map (⟨100, 5000⟩, ·))

theorem active_requests_exact_sample :
    ((sampleStats [.start "r1" "a" "llama3" 40, .progress "r1" 7 3, .error "r1"]).2.snapshot 101 "a"
      0).activeRequests = 0 := by
  refine (active_requests_exact (Machine.reaches_history statsMachine .new _) ?_ 101 0 "a").trans (by decide)
  intro r member reqId peerId model bytesSent started
  simp only [Machine.history, List.map_cons, List.map_nil, List.foldl_cons, List.foldl_nil, List.mem_cons,
    List.not_mem_nil, or_false] at member
  rcases member with rfl | rfl | rfl
  · cases started
  · cases started
  · cases started
    exact ⟨rfl, by decide⟩

/-- One id for two requests of a peer: one is counted for ever. -/
theorem repeated_id_counted_twice :
    ∃ past t, statsMachine.Reaches .new past t ∧
      (t.snapshot 101 "a" 0).activeRequests ≠ ((openRequests past).filter (·.2 = "a")).card := by
  let events : List StatsEvent := [.start "r1" "a" "llama3" 40, .start "r1" "a" "llama3" 40,
    .complete "r1" 5 9, .complete "r1" 5 9]
  exact ⟨_, (sampleStats events).2, Machine.reaches_history statsMachine .new _, by decide⟩

end MtrxPeer
