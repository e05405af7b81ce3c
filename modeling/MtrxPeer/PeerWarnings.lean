import MtrxPeer.CappedBuffers
import MtrxPeer.PeerStats

/-! The warnings that are shown of a peer, and the whole history of its requests. The tracker
keeps the last of it only, in buffers of a fixed size. -/
namespace MtrxPeer

/-! ## The history of a peer -/

/-- What has happened with a peer since it was last removed. -/
structure PeerHistory where
  /-- When its requests were started. -/
  started : List Nat
  /-- How its requests ended. -/
  ended : List Bool
  completed : Nat
  durationMs : Nat
  mismatches : Nat
  latestSize : Nat

namespace PeerHistory

def none : PeerHistory := ⟨[], [], 0, 0, 0, 0⟩

def start (h : PeerHistory) (now size : Nat) : PeerHistory :=
  { h with started := h.started ++ [now], latestSize := size }

def complete (h : PeerHistory) (durationMs size : Nat) : PeerHistory := { h with
  ended := h.ended ++ [true]
  completed := h.completed + 1
  durationMs := h.durationMs + durationMs
  latestSize := size }

def fail (h : PeerHistory) : PeerHistory := { h with ended := h.ended ++ [false] }

def mismatch (h : PeerHistory) : PeerHistory := { h with mismatches := h.mismatches + 1 }

/-- The requests that were started in the window that ends now. -/
def inWindow (h : PeerHistory) (now : Nat) : Nat :=
  h.started.countP fun ts => now - rollingWindowSecs ≤ ts

/-- How the last requests ended. -/
def recent (h : PeerHistory) : List Bool := h.ended.rtake recentOutcomesCap

/-- The warnings that the history gives rise to. -/
def warnings (h : PeerHistory) (now : Nat) : List String :=
  (if 30 < h.inWindow now then ["high_request_rate"] else []) ++
  (if 0 < h.mismatches then ["token_mismatch"] else []) ++
  (if 400 * 1024 < h.latestSize then ["large_payload"] else []) ++
  (if 3 ≤ h.completed ∧ 120000 < h.durationMs / h.completed then ["slow_response"] else []) ++
  (if 3 ≤ h.recent.length ∧ h.recent.length ≤ 2 * h.recent.countP (!·) then ["high_error_rate"] else [])

/-- The counters of a tracker can hold the totals. -/
structure Holdable (h : PeerHistory) : Prop where
  completed : h.completed ≤ u32Max
  durationMs : h.durationMs ≤ u64Max

end PeerHistory

/-- A request under way. -/
structure RunningRequest where
  peerId : String
  startedAt : Nat
  size : Nat

/-- What a run has to tell of the requests under way and of the peers. -/
structure PeerLog where
  running : String → Option RunningRequest
  history : String → PeerHistory

namespace PeerLog

def empty : PeerLog := ⟨fun _ => Option.none, fun _ => .none⟩

/-- A request under way ends. -/
def finish (log : PeerLog) (reqId : String) (f : RunningRequest → PeerHistory → PeerHistory) : PeerLog :=
  match log.running reqId with
  | Option.none => log
  | some r =>
    ⟨Function.update log.running reqId Option.none,
      Function.update log.history r.peerId (f r (log.history r.peerId))⟩

def enter (log : PeerLog) (clock : StatsClock) : StatsEvent → PeerLog
  | .start reqId peerId _ size =>
    ⟨Function.update log.running reqId (some ⟨peerId, clock.millis, size⟩),
      Function.update log.history peerId ((log.history peerId).start clock.unix size)⟩
  | .progress .. => log
  | .complete reqId _ _ => log.finish reqId fun r h => h.complete (clock.millis - r.startedAt) r.size
  | .error reqId => log.finish reqId fun _ h => h.fail
  | .tokenMismatch peerId =>
    { log with history := Function.update log.history peerId (log.history peerId).mismatch }
  | .removePeer peerId =>
    ⟨fun reqId => (log.running reqId).filter (·.peerId ≠ peerId),
      Function.update log.history peerId .none⟩

end PeerLog

/-- The log of a run, its newest step first. -/
def peerLog : List StatsRecord → PeerLog
  | [] => .empty
  | r :: past => (peerLog past).enter r.event.1 r.event.2

/-! ## The tracker and the log -/

/-- The counters of a peer that has this history. -/
structure SameHistory (a : PeerAccum) (h : PeerHistory) : Prop where
  started : a.requestTimestamps = h.started.rtake requestTsCap
  ended : a.recentOutcomes = h.recent
  totalRequests : a.totalRequests = min h.completed u32Max
  durationCount : a.durationCount = min h.completed u32Max
  durationSumMs : a.durationSumMs = min h.durationMs u64Max
  mismatches : a.tokenMismatchCount = min h.mismatches u32Max
  latestSize : a.lastBytesSent = h.latestSize

/-- The log's view of an entry of the table. -/
def ActiveExchange.running (active : ActiveExchange) : RunningRequest :=
  ⟨active.peerId, active.startedAt, active.bytesSent⟩

/-- A tracker that has the last of what the log tells. -/
structure FollowsLog (t : PeerStatsTracker) (log : PeerLog) : Prop where
  history : ∀ peerId, SameHistory (t.accum peerId) (log.history peerId)
  running : ∀ reqId, log.running reqId = (t.active.lookup reqId).map ActiveExchange.running

private theorem pushCapped_rtake {α : Type} {cap : Nat} (room : 0 < cap) (items : List α) (item : α) :
    pushCapped (items.rtake cap) cap item = (items ++ [item]).rtake cap := rtake_push room items item

/-- A counter that stops at its bound. -/
private theorem saturatingAdd_min (bound total more : Nat) :
    saturatingAdd bound (min total bound) more = min (total + more) bound := by
  rw [saturatingAdd]
  omega

namespace SameHistory

variable {a : PeerAccum} {h : PeerHistory}

theorem default : SameHistory .default .none :=
  ⟨rfl, rfl, rfl, rfl, rfl, rfl, rfl⟩

theorem start (same : SameHistory a h) (now size : Nat) : SameHistory (a.start now size) (h.start now size) where
  started := by
    rw [PeerAccum.start, PeerHistory.start, same.started]
    exact pushCapped_rtake (by decide) _ _
  ended := same.ended
  totalRequests := same.totalRequests
  durationCount := same.durationCount
  durationSumMs := same.durationSumMs
  mismatches := same.mismatches
  latestSize := rfl

theorem complete (same : SameHistory a h) (clock : StatsClock) (active : ActiveExchange) (tokens : UInt32)
    (bytesReceived : Nat) :
    SameHistory (a.complete clock active tokens bytesReceived)
      (h.complete (clock.millis - active.startedAt) active.bytesSent) where
  started := same.started
  ended := by
    rw [PeerAccum.complete, PeerHistory.complete, same.ended]
    exact pushCapped_rtake (by decide) _ _
  totalRequests := by
    rw [PeerAccum.complete, PeerHistory.complete, same.totalRequests, saturatingAdd_min]
  durationCount := by
    rw [PeerAccum.complete, PeerHistory.complete, same.durationCount, saturatingAdd_min]
  durationSumMs := by
    rw [PeerAccum.complete, PeerHistory.complete, same.durationSumMs, saturatingAdd_min]
  mismatches := same.mismatches
  latestSize := rfl

theorem fail (same : SameHistory a h) : SameHistory a.fail h.fail where
  started := same.started
  ended := by
    rw [PeerAccum.fail, PeerHistory.fail, same.ended]
    exact pushCapped_rtake (by decide) _ _
  totalRequests := same.totalRequests
  durationCount := same.durationCount
  durationSumMs := same.durationSumMs
  mismatches := same.mismatches
  latestSize := same.latestSize

theorem mismatch (same : SameHistory a h) : SameHistory a.mismatch h.mismatch where
  started := same.started
  ended := same.ended
  totalRequests := same.totalRequests
  durationCount := same.durationCount
  durationSumMs := same.durationSumMs
  mismatches := by
    rw [PeerAccum.mismatch, PeerHistory.mismatch, same.mismatches, saturatingAdd_min]
  latestSize := same.latestSize

end SameHistory

namespace FollowsLog

variable {t : PeerStatsTracker} {log : PeerLog} {reqId peerId : String}

/-- One peer's counters and its history change alike. -/
private theorem alter (follows : FollowsLog t log) {f : PeerAccum → PeerAccum} {h : PeerHistory}
    (same : SameHistory (f (t.accum peerId)) h) (other : String) :
    SameHistory ((t.alter peerId f).accum other) (Function.update log.history peerId h other) := by
  by_cases mine : other = peerId
  · subst mine
    rw [accum_alter_self, Function.update_self]
    exact same
  · rw [accum_alter_ne mine, Function.update_of_ne mine]
    exact follows.history other

theorem start (follows : FollowsLog t log) (clock : StatsClock) (model : String) (size : Nat) :
    FollowsLog (t.onRequestStart clock reqId peerId model size)
      (log.enter clock (.start reqId peerId model size)) where
  history := follows.alter (f := (·.start clock.unix size)) ((follows.history peerId).start clock.unix size)
  running other := by
    simp only [PeerLog.enter, PeerStatsTracker.onRequestStart, alter_active]
    by_cases mine : other = reqId
    · subst mine
      rw [Function.update_self, AList.lookup_insert]
      rfl
    · rw [Function.update_of_ne mine, AList.lookup_insert_ne mine, follows.running]

/-- Progress changes nothing that the log tells of. -/
theorem progress (follows : FollowsLog t log) (clock : StatsClock) (bytes : Nat) (tokens : UInt32) :
    FollowsLog (t.onStreamProgress clock reqId bytes tokens) log := by
  cases found : t.active.lookup reqId with
  | none =>
    rw [onStreamProgress_none found]
    exact follows
  | some active =>
    have keeps {α : Type} (field : PeerAccum → α) (other : String)
        (sampled : ∀ a time tokens, field (a.sample time tokens) = field a)
        (received : ∀ a bytes, field (a.receive bytes) = field a) :
        field ((t.onStreamProgress clock reqId bytes tokens).accum other) = field (t.accum other) :=
      onStreamProgress_keeps found clock bytes tokens field sampled received
    refine ⟨fun other => ?_, fun other => ?_⟩
    · have same := follows.history other
      exact
        { started := (keeps (·.requestTimestamps) other (fun _ _ _ => rfl) fun _ _ => rfl).trans same.started
          ended := (keeps (·.recentOutcomes) other (fun _ _ _ => rfl) fun _ _ => rfl).trans same.ended
          totalRequests :=
            (keeps (·.totalRequests) other (fun _ _ _ => rfl) fun _ _ => rfl).trans same.totalRequests
          durationCount :=
            (keeps (·.durationCount) other (fun _ _ _ => rfl) fun _ _ => rfl).trans same.durationCount
          durationSumMs :=
            (keeps (·.durationSumMs) other (fun _ _ _ => rfl) fun _ _ => rfl).trans same.durationSumMs
          mismatches :=
            (keeps (·.tokenMismatchCount) other (fun _ _ _ => rfl) fun _ _ => rfl).trans same.mismatches
          latestSize :=
            (keeps (·.lastBytesSent) other (fun _ _ _ => rfl) fun _ _ => rfl).trans same.latestSize }
    · rw [follows.running, onStreamProgress_active found]
      by_cases mine : other = reqId
      · subst mine
        rw [found, AList.lookup_insert]
        rfl
      · rw [AList.lookup_insert_ne mine]

/-- A request ends in the tracker and in the log. -/
private theorem finish (follows : FollowsLog t log) {active : ActiveExchange}
    (found : t.active.lookup reqId = some active) {f : PeerAccum → PeerAccum}
    {g : RunningRequest → PeerHistory → PeerHistory}
    (same : ∀ a h, SameHistory a h → SameHistory (f a) (g active.running h)) :
    FollowsLog ({ t with active := t.active.erase reqId }.alter active.peerId f) (log.finish reqId g) := by
  have held : log.running reqId = some active.running := by rw [follows.running, found, Option.map_some]
  have entered : log.finish reqId g =
      ⟨Function.update log.running reqId none,
        Function.update log.history active.peerId (g active.running (log.history active.peerId))⟩ := by
    rw [PeerLog.finish, held]
    rfl
  rw [entered]
  refine ⟨fun other => ?_, fun other => ?_⟩
  · have left : FollowsLog { t with active := t.active.erase reqId }
        { log with running := fun id => ((t.active.erase reqId).lookup id).map ActiveExchange.running } :=
      ⟨follows.history, fun _ => rfl⟩
    exact alter left (same _ _ (follows.history active.peerId)) other
  · simp only [alter_active]
    by_cases mine : other = reqId
    · subst mine
      rw [Function.update_self, AList.lookup_erase]
      rfl
    · rw [Function.update_of_ne mine, AList.lookup_erase_ne mine, follows.running]

/-- An end of a request that is not under way is nothing to the log. -/
private theorem finish_absent (follows : FollowsLog t log) (absent : t.active.lookup reqId = none)
    (f : RunningRequest → PeerHistory → PeerHistory) : log.finish reqId f = log := by
  rw [PeerLog.finish, follows.running, absent]
  rfl

theorem removed (follows : FollowsLog t log) (clock : StatsClock) :
    FollowsLog (t.removePeer peerId) (log.enter clock (.removePeer peerId)) where
  history other := by
    simp only [PeerLog.enter]
    by_cases mine : other = peerId
    · subst mine
      rw [Function.update_self]
      have forgotten : (t.removePeer other).accum other = .default := by
        simp [PeerStatsTracker.removePeer, PeerStatsTracker.accum]
      rw [forgotten]
      exact .default
    · have kept : (t.removePeer peerId).accum other = t.accum other := by
        simp [PeerStatsTracker.removePeer, PeerStatsTracker.accum, Function.update_of_ne mine]
      rw [Function.update_of_ne mine, kept]
      exact follows.history other
  running other := by
    simp only [PeerLog.enter, PeerStatsTracker.removePeer, lookup_retain, follows.running]
    cases t.active.lookup other with
    | none => rfl
    | some active =>
      by_cases mine : active.peerId = peerId <;> simp [ActiveExchange.running, Option.filter_some, mine]

/-- The log follows every step of the tracker. -/
theorem step (follows : FollowsLog t log) (clock : StatsClock) (e : StatsEvent) :
    FollowsLog (statsStep t clock e) (log.enter clock e) := by
  cases e with
  | start reqId peerId model size => exact follows.start clock model size
  | progress reqId bytes tokens => exact follows.progress clock bytes tokens
  | complete reqId tokens bytes =>
    cases found : t.active.lookup reqId with
    | none =>
      simp only [statsStep, PeerStatsTracker.onRequestComplete, found, PeerLog.enter,
        follows.finish_absent found]
      exact follows
    | some active =>
      simp only [statsStep, PeerStatsTracker.onRequestComplete, found, PeerLog.enter]
      exact follows.finish found fun a h same => same.complete clock active tokens bytes
  | error reqId =>
    cases found : t.active.lookup reqId with
    | none =>
      simp only [statsStep, PeerStatsTracker.onRequestError, found, PeerLog.enter,
        follows.finish_absent found]
      exact follows
    | some active =>
      simp only [statsStep, PeerStatsTracker.onRequestError, found, PeerLog.enter]
      exact follows.finish found fun a h same => same.fail
  | tokenMismatch peerId =>
    exact ⟨follows.alter (f := (·.mismatch)) (follows.history peerId).mismatch, follows.running⟩
  | removePeer peerId => exact follows.removed clock

end FollowsLog

/-- The log of a run. -/
theorem followsLog_run {past : List StatsRecord} {t : PeerStatsTracker}
    (ran : statsMachine.Reaches .new past t) : FollowsLog t (peerLog past) := by
  have init : FollowsLog .new (peerLog []) :=
    ⟨fun _ => .default, fun _ => rfl⟩
  exact ran.invariant (fun past t => FollowsLog t (peerLog past)) (fun _ => True) init
    (fun _ _ e follows _ => follows.step e.1 e.2) fun _ _ => trivial

/-! ## The clock -/

/-- The clock does not go back in a run, whose newest step is the first one. -/
def Steady (past : List StatsRecord) : Prop :=
  past.Pairwise fun later earlier => earlier.event.1.unix ≤ later.event.1.unix

/-- The starts of a history are in their order, up to now. -/
structure PeerHistory.Ordered (h : PeerHistory) (now : Nat) : Prop where
  inOrder : h.started.Pairwise (· ≤ ·)
  past : ∀ ts ∈ h.started, ts ≤ now

namespace PeerHistory.Ordered

variable {h : PeerHistory} {now later : Nat}

theorem none : PeerHistory.none.Ordered now := ⟨.nil, fun _ member => absurd member (List.not_mem_nil)⟩

theorem mono (ordered : h.Ordered now) (order : now ≤ later) : h.Ordered later :=
  ⟨ordered.inOrder, fun ts member => (ordered.past ts member).trans order⟩

theorem start (ordered : h.Ordered now) (size : Nat) : (h.start now size).Ordered now where
  inOrder := by
    refine List.pairwise_append.mpr ⟨ordered.inOrder, List.pairwise_singleton _ _, ?_⟩
    intro ts member new latest
    rw [List.mem_singleton.mp latest]
    exact ordered.past ts member
  past ts member := by
    rcases List.mem_append.mp member with old | new
    · exact ordered.past ts old
    · exact (List.mem_singleton.mp new).le

end PeerHistory.Ordered

section Clock

variable {log : PeerLog} {clock : StatsClock}

private theorem ordered_update {peerId : String} {h : PeerHistory} {now : Nat}
    (ordered : ∀ other, (log.history other).Ordered now) (own : h.Ordered now) (other : String) :
    (Function.update log.history peerId h other).Ordered now := by
  by_cases mine : other = peerId
  · subst mine
    rw [Function.update_self]
    exact own
  · rw [Function.update_of_ne mine]
    exact ordered other

private theorem ordered_finish {now : Nat} (ordered : ∀ other, (log.history other).Ordered now)
    (reqId : String) {f : RunningRequest → PeerHistory → PeerHistory}
    (kept : ∀ r h, (f r h).started = h.started) (other : String) :
    ((log.finish reqId f).history other).Ordered now := by
  rw [PeerLog.finish]
  split
  · exact ordered other
  · rename_i r _
    have own := ordered r.peerId
    refine ordered_update ordered ⟨?_, ?_⟩ other
    · rw [kept]
      exact own.inOrder
    · rw [kept]
      exact own.past

private theorem ordered_enter (ordered : ∀ other, (log.history other).Ordered clock.unix) (e : StatsEvent)
    (other : String) : ((log.enter clock e).history other).Ordered clock.unix := by
  cases e with
  | start reqId peerId model size => exact ordered_update ordered ((ordered peerId).start size) other
  | progress reqId bytes tokens => exact ordered other
  | complete reqId tokens bytes =>
    exact ordered_finish (f := fun r h => h.complete (clock.millis - r.startedAt) r.size) ordered reqId
      (fun _ _ => rfl) other
  | error reqId => exact ordered_finish (f := fun _ h => h.fail) ordered reqId (fun _ _ => rfl) other
  | tokenMismatch peerId =>
    exact ordered_update (h := (log.history peerId).mismatch) ordered
      ⟨(ordered peerId).inOrder, (ordered peerId).past⟩ other
  | removePeer peerId => exact ordered_update ordered .none other

/-- Where the clock is steady the starts of a peer are in their order. -/
theorem started_ordered {past : List StatsRecord} (steady : Steady past) (peerId : String) :
    ((peerLog past).history peerId).started.Pairwise (· ≤ ·) := by
  suffices ∀ now, (∀ r ∈ past, r.event.1.unix ≤ now) → ∀ other, ((peerLog past).history other).Ordered now by
    cases past with
    | nil => exact (PeerHistory.Ordered.none : PeerHistory.none.Ordered 0).inOrder
    | cons r past =>
      refine (this r.event.1.unix ?_ peerId).inOrder
      intro earlier member
      rcases List.mem_cons.mp member with rfl | older
      · exact Nat.le_refl _
      · exact List.rel_of_pairwise_cons steady older
  induction past with
  | nil => exact fun now _ other => .none
  | cons r past ih =>
    intro now bound other
    obtain ⟨newest, older⟩ := List.pairwise_cons.mp steady
    have before := ih older r.event.1.unix newest
    exact (ordered_enter before r.event.2 other).mono (bound r List.mem_cons_self)

end Clock

/-! ## What is shown -/

/-- The warnings that are shown of a peer are those of its whole history since it was last
removed, though the tracker keeps 128 starts and 10 outcomes of it. -/
theorem warnings_of_history {past : List StatsRecord} {t : PeerStatsTracker}
    (ran : statsMachine.Reaches .new past t) (steady : Steady past) (peerId : String)
    (holdable : ((peerLog past).history peerId).Holdable) (now lifetime : Nat) :
    let h := (peerLog past).history peerId
    let shown := t.snapshot now peerId lifetime
    shown.warnings = h.warnings now ∧ shown.requestsInWindow = min requestTsCap (h.inWindow now) := by
  intro h shown
  have same : SameHistory (t.accum peerId) h := (followsLog_run ran).history peerId
  have stays : h.started.Pairwise fun a b =>
      decide (now - rollingWindowSecs ≤ a) = true → decide (now - rollingWindowSecs ≤ b) = true :=
    (started_ordered steady peerId).imp fun order inside =>
      decide_eq_true ((of_decide_eq_true inside).trans order)
  have requests : shown.requestsInWindow = min requestTsCap (h.inWindow now) := by
    change (t.accum peerId).requestTimestamps.countP _ = _
    rw [same.started]
    exact countP_rtake stays
  refine ⟨?_, requests⟩
  have total : (t.accum peerId).totalRequests = h.completed :=
    same.totalRequests.trans (min_eq_left holdable.completed)
  have count : (t.accum peerId).durationCount = h.completed :=
    same.durationCount.trans (min_eq_left holdable.completed)
  have sum : (t.accum peerId).durationSumMs = h.durationMs :=
    same.durationSumMs.trans (min_eq_left holdable.durationMs)
  have rate : 30 < shown.requestsInWindow ↔ 30 < h.inWindow now := by
    rw [requests, requestTsCap]
    omega
  have mismatched : 0 < (t.accum peerId).tokenMismatchCount ↔ 0 < h.mismatches := by
    rw [same.mismatches, u32Max]
    omega
  have slow : (3 ≤ h.completed ∧ 120000 < if 0 < h.completed then h.durationMs / h.completed else 0) ↔
      3 ≤ h.completed ∧ 120000 < h.durationMs / h.completed := by
    refine and_congr_right fun enough => ?_
    rw [if_pos (by omega)]
  change (if 30 < shown.requestsInWindow then _ else _) ++
    (if 0 < (t.accum peerId).tokenMismatchCount then _ else _) ++
    (if 400 * 1024 < (t.accum peerId).lastBytesSent then _ else _) ++
    (if 3 ≤ (t.accum peerId).totalRequests ∧ _ then _ else _) ++
    (if 3 ≤ (t.accum peerId).recentOutcomes.length ∧ _ then _ else _) = _
  simp only [rate, mismatched, same.latestSize, same.ended, total, count, sum, slow, PeerHistory.warnings]

private def failingHistory : List StatsRecord × PeerStatsTracker :=
  statsMachine.history .new <| [
    StatsEvent.start "r1" "a" "llama3" 40, .error "r1",
    .start "r2" "a" "llama3" 40, .error "r2",
    .start "r3" "a" "llama3" 500000, .complete "r3" 5 9].map (⟨100, 5000⟩, ·)

/-- Two requests fail, and one of 500000 bytes is complete. -/
theorem warnings_of_history_sample :
    (failingHistory.2.snapshot 101 "a" 0).warnings = ["large_payload", "high_error_rate"] := by
  have steady : Steady failingHistory.1 := by
    unfold Steady
    decide +kernel
  have holdable : ((peerLog failingHistory.1).history "a").Holdable :=
    ⟨by decide +kernel, by decide +kernel⟩
  refine (warnings_of_history (Machine.reaches_history statsMachine .new _) steady "a" holdable 101 0).1.trans ?_
  decide +kernel

end MtrxPeer
