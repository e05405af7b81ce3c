import Mathlib.Algebra.GroupWithZero.Nat
import Mathlib.Algebra.BigOperators.Group.List.Basic
import MtrxPeer.PeerStats

/-! What is entered of the traffic with a peer, against a ledger of its requests: their
sizes, their responses and the tokens they produced, each counted once. -/
namespace MtrxPeer

/-! ## The ledger -/

/-- A request under way: its size, and what has come of its response. -/
structure OpenTraffic where
  peerId : String
  size : Nat
  received : Nat
  tokens : Nat

structure TrafficLedger where
  running : String → Option OpenTraffic
  sent : String → Nat
  received : String → Nat
  tokens : String → Nat
  /-- The tokens of a peer, each at the time it was told of. -/
  produced : String → List (Nat × Nat)

def TrafficLedger.empty : TrafficLedger := ⟨fun _ => none, 0, 0, 0, fun _ => []⟩

/-- A request is sent once, at its start. Progress tells of more bytes and of the tokens so
far; what the completion tells of is the whole response. -/
def TrafficLedger.enter (l : TrafficLedger) (now : Nat) : StatsEvent → TrafficLedger
  | .start reqId peerId _ bytesSent => { l with
    running := Function.update l.running reqId (some ⟨peerId, bytesSent, 0, 0⟩)
    sent := Function.update l.sent peerId (l.sent peerId + bytesSent) }
  | .progress reqId bytesReceived partialTokens => match l.running reqId with
    | none => l
    | some o => { l with
      running := Function.update l.running reqId (some { o with
        received := o.received + bytesReceived
        tokens := max o.tokens partialTokens.toNat })
      received := Function.update l.received o.peerId (l.received o.peerId + bytesReceived)
      produced := Function.update l.produced o.peerId
        (l.produced o.peerId ++ [(now, partialTokens.toNat - o.tokens)]) }
  | .complete reqId tokens bytesReceived => match l.running reqId with
    | none => l
    | some o => { l with
      running := Function.update l.running reqId none
      received := Function.update l.received o.peerId (l.received o.peerId - o.received + bytesReceived)
      tokens := Function.update l.tokens o.peerId (l.tokens o.peerId + tokens.toNat)
      produced := Function.update l.produced o.peerId
        (l.produced o.peerId ++ [(now, tokens.toNat - o.tokens)]) }
  | .error reqId => { l with running := Function.update l.running reqId none }
  | _ => l

/-- The ledger of a history, the newest step first. -/
def trafficLedger : List StatsRecord → TrafficLedger
  | [] => .empty
  | r :: past => (trafficLedger past).enter r.event.1.unix r.event.2

/-- The tokens that were produced in the window that ends now. -/
def producedInWindow (now : Nat) (produced : List (Nat × Nat)) : Nat :=
  (produced.map fun p => if now - rollingWindowSecs ≤ p.1 then p.2 else 0).sum

/-! ## The steps that count once -/

/-- The oldest sample is not of the window that ends now, or there is room for one more. -/
def SampleRoom (now : Nat) (samples : List (Nat × UInt32)) : Prop :=
  samples.length < tokenSampleCap ∨ windowTokens now (samples.take 1) = 0

/-- The step is one of a request, and what it tells of is told of once: progress tells of no
tokens, and a request that is completed was of no size and had nothing told of by progress.
The sums can be held, and a sample of the window is not pushed out. -/
def CountsOnce (now : Nat) (r : StatsRecord) : Prop :=
  match r.event.2 with
  | .start _ peerId _ bytesSent => (r.before.accum peerId).bytesSent + bytesSent ≤ u64Max
  | .progress reqId bytesReceived partialTokens =>
    ∀ active, r.before.active.lookup reqId = some active → partialTokens = 0 ∧
      (r.before.accum active.peerId).bytesReceived + bytesReceived ≤ u64Max
  | .complete reqId tokens bytesReceived =>
    ∀ active, r.before.active.lookup reqId = some active →
      active.bytesSent = 0 ∧ active.bytesReceived = 0 ∧
        (r.before.accum active.peerId).bytesReceived + bytesReceived ≤ u64Max ∧
        (r.before.accum active.peerId).sessionTokens + tokens.toNat ≤ u64Max ∧
        SampleRoom now (r.before.accum active.peerId).tokenSamples
  | .error _ => True
  | .tokenMismatch _ => False
  | .removePeer _ => False

/-! ## The window -/

/-- The tokens of one sample, if it is in the window. -/
private def inWindow (now : Nat) (sample : Nat × UInt32) : Nat :=
  if now - rollingWindowSecs ≤ sample.1 then sample.2.toNat else 0

private theorem foldl_saturating {α : Type} (f : α → Nat) (keep : α → Prop) [DecidablePred keep] (items : List α)
    {total : Nat} (fits : total ≤ u64Max) :
    items.foldl (fun total a => if keep a then saturatingAdd u64Max total (f a) else total) total =
      min (total + (items.map fun a => if keep a then f a else 0).sum) u64Max := by
  induction items generalizing total with
  | nil =>
    rw [List.foldl_nil, List.map_nil, List.sum_nil]
    omega
  | cons a rest ih =>
    rw [List.foldl_cons, List.map_cons, List.sum_cons]
    by_cases kept : keep a
    · rw [if_pos kept, if_pos kept, saturatingAdd, ih (min_le_right _ _)]
      omega
    · rw [if_neg kept, if_neg kept, ih fits]
      omega

private theorem sum_inWindow_le (now : Nat) (samples : List (Nat × UInt32)) :
    (samples.map (inWindow now)).sum ≤ samples.length * 2 ^ 32 := by
  induction samples with
  | nil => exact Nat.zero_le _
  | cons sample rest ih =>
    have one : inWindow now sample ≤ 2 ^ 32 := by
      have := sample.2.toNat_lt
      unfold inWindow
      split <;> omega
    rw [List.map_cons, List.sum_cons, List.length_cons]
    omega

/-- So many samples as are kept do not fill the sum. -/
private theorem windowTokens_eq (now : Nat) {samples : List (Nat × UInt32)}
    (capped : samples.length ≤ tokenSampleCap) :
    windowTokens now samples = (samples.map (inWindow now)).sum := by
  have small := sum_inWindow_le now samples
  have bound : tokenSampleCap * 2 ^ 32 ≤ u64Max := by decide
  have folded := foldl_saturating (fun sample : Nat × UInt32 => sample.2.toNat)
    (fun sample => now - rollingWindowSecs ≤ sample.1) samples (Nat.zero_le u64Max)
  refine folded.trans ?_
  rw [Nat.zero_add]
  apply min_eq_left
  refine Nat.le_trans small (Nat.le_trans ?_ bound)
  exact Nat.mul_le_mul_right _ capped

private theorem pushCapped_length {α : Type} {buf : List α} {cap : Nat} (positive : 0 < cap)
    (capped : buf.length ≤ cap) (item : α) : (pushCapped buf cap item).length ≤ cap := by
  unfold pushCapped
  split
  · simp only [List.length_append, List.length_tail, List.length_singleton]
    omega
  · simp only [List.length_append, List.length_singleton]
    omega

/-- Where there is room, a sample adds its tokens to the window. -/
private theorem windowTokens_push {now : Nat} {samples : List (Nat × UInt32)}
    (capped : samples.length ≤ tokenSampleCap) (room : SampleRoom now samples) (time : Nat) (tokens : UInt32) :
    windowTokens now (pushCapped samples tokenSampleCap (time, tokens)) =
      windowTokens now samples + if now - rollingWindowSecs ≤ time then tokens.toNat else 0 := by
  rw [windowTokens_eq now (pushCapped_length (by decide) capped _), windowTokens_eq now capped, pushCapped,
    List.map_append, List.sum_append]
  congr 1
  rcases room with room | gone
  · rw [if_neg (by omega)]
  · split
    · cases samples with
      | nil => rfl
      | cons oldest rest =>
        have none_ : inWindow now oldest = 0 := by
          have one : [oldest].length ≤ tokenSampleCap := by
            rw [List.length_singleton]
            decide
          have shown := windowTokens_eq now one
          simp only [List.take_succ_cons, List.take_zero] at gone
          simpa [gone] using shown.symm
        simp [none_]
    · rfl

private theorem producedInWindow_append (now time tokens : Nat) (produced : List (Nat × Nat)) :
    producedInWindow now (produced ++ [(time, tokens)]) =
      producedInWindow now produced + if now - rollingWindowSecs ≤ time then tokens else 0 := by
  simp [producedInWindow]

/-! ## The totals and the ledger -/

/-- The counters of a peer are those of the ledger. -/
structure SameTotals (now : Nat) (l : TrafficLedger) (t : PeerStatsTracker) (peerId : String) : Prop where
  held : (t.accum peerId).bytesSent ≤ u64Max
  sent : (t.accum peerId).bytesSent = l.sent peerId
  received : (t.accum peerId).bytesReceived = l.received peerId
  tokens : (t.accum peerId).sessionTokens = l.tokens peerId
  capped : (t.accum peerId).tokenSamples.length ≤ tokenSampleCap
  produced : windowTokens now (t.accum peerId).tokenSamples = producedInWindow now (l.produced peerId)

/-- The entry of a request under way and the one of the ledger. -/
structure SameRequest (t : PeerStatsTracker) (active : ActiveExchange) (o : OpenTraffic) : Prop where
  peer : active.peerId = o.peerId
  fresh : active.bytesReceived = 0 → o.received = 0
  untold : active.lastPartialTokens = 0 ∧ o.tokens = 0
  known : t.peers active.peerId ≠ none

/-- A tracker that tells of its peers what the ledger does. -/
structure TellsLedger (now : Nat) (l : TrafficLedger) (t : PeerStatsTracker) : Prop where
  totals : ∀ peerId, SameTotals now l t peerId
  running : ∀ reqId, Option.Rel (SameRequest t) (t.active.lookup reqId) (l.running reqId)

section Steps

variable {now : Nat} {l l' : TrafficLedger} {t t' : PeerStatsTracker} {reqId peerId : String}

private theorem SameTotals.of_eq (same : SameTotals now l t peerId) (accum : t'.accum peerId = t.accum peerId)
    (sent : l'.sent peerId = l.sent peerId) (received : l'.received peerId = l.received peerId)
    (tokens : l'.tokens peerId = l.tokens peerId) (produced : l'.produced peerId = l.produced peerId) :
    SameTotals now l' t' peerId := by
  constructor
  · rw [accum]
    exact same.held
  · rw [accum, same.sent, sent]
  · rw [accum, same.received, received]
  · rw [accum, same.tokens, tokens]
  · rw [accum]
    exact same.capped
  · rw [accum, same.produced, produced]

private theorem alter_known {f : PeerAccum → PeerAccum} {other : String} (known : t.peers other ≠ none) :
    (t.alter peerId f).peers other ≠ none := by
  by_cases same : other = peerId
  · subst same
    simp [PeerStatsTracker.alter]
  · simpa [PeerStatsTracker.alter, Function.update_of_ne same] using known

/-- Requests stay the same where no peer is forgotten. -/
private theorem SameRequest.kept {active : ActiveExchange} {o : OpenTraffic} (same : SameRequest t active o)
    (known : ∀ peerId, t.peers peerId ≠ none → t'.peers peerId ≠ none) : SameRequest t' active o :=
  ⟨same.peer, same.fresh, same.untold, known _ same.known⟩

private theorem rel_imp {α β : Type} {r r' : α → β → Prop} (imp : ∀ a b, r a b → r' a b) {x : Option α}
    {y : Option β} (rel : Option.Rel r x y) : Option.Rel r' x y := by
  cases rel with
  | some holds => exact .some (imp _ _ holds)
  | none => exact .none

/-- The requests under way stay the same where one enters the table, or changes there, -/
private theorem running_insert {active : ActiveExchange} {o : OpenTraffic}
    (tells : ∀ reqId, Option.Rel (SameRequest t) (t.active.lookup reqId) (l.running reqId))
    (known : ∀ peerId, t.peers peerId ≠ none → t'.peers peerId ≠ none) (same : SameRequest t' active o)
    (id : String) :
    Option.Rel (SameRequest t') ((t.active.insert reqId active).lookup id)
      (Function.update l.running reqId (some o) id) := by
  by_cases mine : id = reqId
  · subst mine
    rw [AList.lookup_insert, Function.update_self]
    exact .some same
  · rw [AList.lookup_insert_ne mine, Function.update_of_ne mine]
    exact rel_imp (fun _ _ other => other.kept known) (tells id)

/-- and where one leaves it. -/
private theorem running_erase
    (tells : ∀ reqId, Option.Rel (SameRequest t) (t.active.lookup reqId) (l.running reqId))
    (known : ∀ peerId, t.peers peerId ≠ none → t'.peers peerId ≠ none) (id : String) :
    Option.Rel (SameRequest t') ((t.active.erase reqId).lookup id)
      (Function.update l.running reqId none id) := by
  by_cases mine : id = reqId
  · subst mine
    rw [AList.lookup_erase, Function.update_self]
    exact .none
  · rw [AList.lookup_erase_ne mine, Function.update_of_ne mine]
    exact rel_imp (fun _ _ other => other.kept known) (tells id)

/-- The entry of the ledger for a request in the table. -/
private theorem TellsLedger.found (tells : TellsLedger now l t) {active : ActiveExchange}
    (found : t.active.lookup reqId = some active) :
    ∃ o, l.running reqId = some o ∧ SameRequest t active o := by
  have rel := tells.running reqId
  rw [found] at rel
  cases running : l.running reqId with
  | none =>
    rw [running] at rel
    cases rel
  | some o =>
    rw [running] at rel
    cases rel with
    | some same => exact ⟨o, rfl, same⟩

private theorem TellsLedger.absent (tells : TellsLedger now l t) (absent : t.active.lookup reqId = none) :
    l.running reqId = none := by
  have rel := tells.running reqId
  rw [absent] at rel
  cases running : l.running reqId with
  | none => rfl
  | some o =>
    rw [running] at rel
    cases rel

private theorem TellsLedger.start (tells : TellsLedger now l t) (clock : StatsClock) (model : String)
    {bytesSent : Nat} (fits : (t.accum peerId).bytesSent + bytesSent ≤ u64Max) :
    TellsLedger now (l.enter clock.unix (.start reqId peerId model bytesSent))
      (t.onRequestStart clock reqId peerId model bytesSent) := by
  constructor
  · intro peer
    have before := tells.totals peer
    by_cases same : peer = peerId
    · subst same
      simp only [TrafficLedger.enter, PeerStatsTracker.onRequestStart]
      constructor
      all_goals
        rw [accum_active, accum_alter_self]
      · exact min_le_right _ _
      · simp only [Function.update_self]
        rw [← before.sent]
        exact min_eq_left fits
      · exact before.received
      · exact before.tokens
      · exact before.capped
      · exact before.produced
    · refine before.of_eq ?_ (Function.update_of_ne same _ _) rfl rfl rfl
      simp only [PeerStatsTracker.onRequestStart, accum_active, accum_alter_ne same]
  · refine running_insert (t := t) tells.running (fun _ known => ?_) ⟨rfl, fun _ => rfl, ⟨rfl, rfl⟩, ?_⟩
    · simp only [PeerStatsTracker.onRequestStart]
      exact alter_known known
    · simp [PeerStatsTracker.onRequestStart, PeerStatsTracker.alter]

/-- Progress that tells of no tokens enters its bytes. -/
private theorem onStreamProgress_bytes {active : ActiveExchange}
    (found : t.active.lookup reqId = some active) (known : t.peers active.peerId ≠ none) (clock : StatsClock)
    (bytes : Nat) :
    t.onStreamProgress clock reqId bytes 0 =
      { t with active := t.active.insert reqId { active with
          bytesReceived := saturatingAdd u64Max active.bytesReceived bytes } }.alter active.peerId
        (·.receive bytes) := by
  have untold : ¬ active.lastPartialTokens < 0 := by
    intro less
    simp [UInt32.lt_iff_toNat_lt] at less
  obtain ⟨accum, held⟩ := Option.ne_none_iff_exists'.mp known
  simp only [PeerStatsTracker.onStreamProgress, found, if_neg untold, held]

private theorem TellsLedger.progress (tells : TellsLedger now l t) (clock : StatsClock)
    {active : ActiveExchange} (found : t.active.lookup reqId = some active) {bytesReceived : Nat}
    (fits : (t.accum active.peerId).bytesReceived + bytesReceived ≤ u64Max) :
    TellsLedger now (l.enter clock.unix (.progress reqId bytesReceived 0))
      (t.onStreamProgress clock reqId bytesReceived 0) := by
  obtain ⟨o, running, request⟩ := tells.found found
  rw [onStreamProgress_bytes found request.known]
  simp only [TrafficLedger.enter, running, ← request.peer]
  constructor
  · intro peer
    have before := tells.totals peer
    by_cases same : peer = active.peerId
    · subst same
      constructor
      all_goals
        rw [accum_alter_self, accum_active]
      · exact before.held
      · exact before.sent
      · simp only [Function.update_self]
        rw [← before.received]
        exact min_eq_left fits
      · exact before.tokens
      · exact before.capped
      · simp only [Function.update_self]
        rw [producedInWindow_append, ← before.produced]
        simp [PeerAccum.receive]
    · refine before.of_eq ?_ rfl (Function.update_of_ne same _ _) rfl (Function.update_of_ne same _ _)
      rw [accum_alter_ne same, accum_active]
  · refine running_insert (t := t) tells.running (fun _ known => ?_)
      ⟨rfl, ?_, ⟨request.untold.1, ?_⟩, ?_⟩
    · exact alter_known known
    · intro none_
      have fresh := request.fresh
      simp only [saturatingAdd, u64Max] at none_ ⊢
      omega
    · simpa using request.untold.2
    · exact alter_known request.known

private theorem TellsLedger.complete (tells : TellsLedger now l t) (clock : StatsClock)
    {active : ActiveExchange} (found : t.active.lookup reqId = some active) {tokens : UInt32}
    {bytesReceived : Nat} (unsized : active.bytesSent = 0) (untold : active.bytesReceived = 0)
    (fits : (t.accum active.peerId).bytesReceived + bytesReceived ≤ u64Max)
    (fitting : (t.accum active.peerId).sessionTokens + tokens.toNat ≤ u64Max)
    (room : SampleRoom now (t.accum active.peerId).tokenSamples) :
    TellsLedger now (l.enter clock.unix (.complete reqId tokens bytesReceived))
      (t.onRequestComplete clock reqId tokens bytesReceived) := by
  obtain ⟨o, running, request⟩ := tells.found found
  simp only [PeerStatsTracker.onRequestComplete, found, TrafficLedger.enter, running, ← request.peer,
    request.fresh untold, request.untold.2, Nat.sub_zero]
  constructor
  · intro peer
    have before := tells.totals peer
    by_cases same : peer = active.peerId
    · subst same
      constructor
      all_goals
        rw [accum_alter_self, accum_active]
      · exact min_le_right _ _
      · rw [← before.sent]
        simp only [PeerAccum.complete, unsized]
        exact min_eq_left before.held
      · simp only [Function.update_self]
        rw [← before.received]
        exact min_eq_left fits
      · simp only [Function.update_self]
        rw [← before.tokens]
        exact min_eq_left fitting
      · exact pushCapped_length (by decide) before.capped _
      · simp only [Function.update_self]
        rw [producedInWindow_append, ← before.produced]
        exact windowTokens_push before.capped room clock.unix tokens
    · refine before.of_eq ?_ rfl (Function.update_of_ne same _ _) (Function.update_of_ne same _ _)
        (Function.update_of_ne same _ _)
      rw [accum_alter_ne same, accum_active]
  · refine running_erase (t := t) tells.running fun _ known => ?_
    exact alter_known known

private theorem TellsLedger.error (tells : TellsLedger now l t) {active : ActiveExchange}
    (found : t.active.lookup reqId = some active) (time : Nat) :
    TellsLedger now (l.enter time (.error reqId)) (t.onRequestError reqId) := by
  simp only [PeerStatsTracker.onRequestError, found, TrafficLedger.enter]
  constructor
  · intro peer
    have before := tells.totals peer
    by_cases same : peer = active.peerId
    · subst same
      constructor
      all_goals
        rw [accum_alter_self, accum_active]
      · exact before.held
      · exact before.sent
      · exact before.received
      · exact before.tokens
      · exact before.capped
      · exact before.produced
    · refine before.of_eq ?_ rfl rfl rfl rfl
      rw [accum_alter_ne same, accum_active]
  · refine running_erase (t := t) tells.running fun _ known => ?_
    exact alter_known known

/-- A step that counts once keeps the tracker and the ledger together. -/
theorem statsStep_tellsLedger {past : List StatsRecord} {e : StatsClock × StatsEvent}
    (tells : TellsLedger now (trafficLedger past) t) (once : CountsOnce now (statsMachine.record t e)) :
    TellsLedger now (trafficLedger (statsMachine.record t e :: past)) (statsStep t e.1 e.2) := by
  obtain ⟨clock, e⟩ := e
  simp only [trafficLedger, Machine.record]
  cases e with
  | start reqId peerId model bytesSent => exact tells.start clock model once
  | progress reqId bytesReceived partialTokens =>
    cases found : t.active.lookup reqId with
    | none =>
      simp only [statsStep, onStreamProgress_none found, TrafficLedger.enter, tells.absent found]
      exact tells
    | some active =>
      obtain ⟨rfl, fits⟩ := once active found
      exact tells.progress clock found fits
  | complete reqId tokens bytesReceived =>
    cases found : t.active.lookup reqId with
    | none =>
      simp only [statsStep, PeerStatsTracker.onRequestComplete, found, TrafficLedger.enter,
        tells.absent found]
      exact tells
    | some active =>
      obtain ⟨unsized, untold, fits, fitting, room⟩ := once active found
      exact tells.complete clock found unsized untold fits fitting room
  | error reqId =>
    cases found : t.active.lookup reqId with
    | none =>
      simp only [statsStep, PeerStatsTracker.onRequestError, found, TrafficLedger.enter]
      rw [← tells.absent found, Function.update_eq_self]
      exact tells
    | some active => exact tells.error found clock.unix
  | tokenMismatch peerId => exact once.elim
  | removePeer peerId => exact once.elim

/-- Requests that have told of no tokens add none to the window. -/
private theorem partialTokens_untold (tells : TellsLedger now l t) (total : Nat) :
    partialTokens peerId t.active total = total := by
  have none_ : ∀ entry ∈ t.active.entries, entry.2.lastPartialTokens = 0 := by
    rintro ⟨reqId, active⟩ member
    obtain ⟨o, -, request⟩ := tells.found (AList.mem_lookup_iff.mpr member)
    exact request.untold.1
  unfold partialTokens
  revert none_
  induction t.active.entries with
  | nil => exact fun _ => rfl
  | cons entry rest ih =>
    intro none_
    rw [List.foldl_cons, if_neg (by simp [none_ entry List.mem_cons_self])]
    exact ih fun entry member => none_ entry (List.mem_cons_of_mem _ member)

/-- In a run whose steps count once, what is shown of a peer is what the ledger of its
requests has. -/
theorem traffic_conserved {past : List StatsRecord} (ran : statsMachine.Reaches .new past t)
    (once : ∀ r ∈ past, CountsOnce now r) (lifetime : Nat) (peerId : String) :
    (t.snapshot now peerId lifetime).bytesSent = (trafficLedger past).sent peerId ∧
      (t.snapshot now peerId lifetime).bytesReceived = (trafficLedger past).received peerId ∧
      (t.snapshot now peerId lifetime).sessionTokens = (trafficLedger past).tokens peerId ∧
      (t.snapshot now peerId lifetime).tokensInWindow =
        producedInWindow now ((trafficLedger past).produced peerId) := by
  have init : TellsLedger now (trafficLedger []) .new :=
    ⟨fun _ => ⟨Nat.zero_le _, rfl, rfl, rfl, Nat.zero_le _, rfl⟩, fun _ => .none⟩
  have tells := ran.invariant (fun past t => TellsLedger now (trafficLedger past) t) (CountsOnce now) init
    (fun past t e tells once => statsStep_tellsLedger tells once) once
  have totals := tells.totals peerId
  refine ⟨totals.sent, totals.received, totals.tokens, ?_⟩
  rw [← totals.produced]
  simp only [PeerStatsTracker.snapshot]
  cases known : t.peers peerId with
  | none => simp [PeerStatsTracker.accum, known, PeerAccum.default, windowTokens]
  | some accum =>
    have held : t.accum peerId = accum := by simp [PeerStatsTracker.accum, known]
    rw [held]
    exact partialTokens_untold tells _

end Steps

private def trafficHistory (events : List StatsEvent) : List StatsRecord × PeerStatsTracker :=
  statsMachine.history .new (events.map (⟨100, 5000⟩, ·))

/-- A request of no size, whose response of 9 bytes and 5 tokens is told of when it is complete. -/
theorem traffic_conserved_sample :
    ((trafficHistory [.start "r1" "a" "llama3" 0, .complete "r1" 5 9]).2.snapshot 101 "a" 0).bytesReceived = 9 ∧
      ((trafficHistory [.start "r1" "a" "llama3" 0, .complete "r1" 5 9]).2.snapshot 101 "a"
        0).tokensInWindow = 5 := by
  have ran := Machine.reaches_history statsMachine .new
    ([.start "r1" "a" "llama3" 0, .complete "r1" 5 9].map ((⟨100, 5000⟩ : StatsClock), ·))
  have once : ∀ r ∈ (trafficHistory [.start "r1" "a" "llama3" 0, .complete "r1" 5 9]).1,
      CountsOnce 101 r := by
    intro r member
    simp only [trafficHistory, Machine.history, List.map_cons, List.map_nil, List.foldl_cons, List.foldl_nil,
      List.mem_cons, List.not_mem_nil, or_false] at member
    rcases member with rfl | rfl
    · intro active found
      cases found
      exact ⟨rfl, rfl, by decide, by decide, .inl (by decide)⟩
    · exact Nat.zero_le _
  obtain ⟨-, received, -, window⟩ := traffic_conserved ran once 0 "a"
  exact ⟨received.trans (by decide), window.trans (by decide)⟩

/-- A request of 100 bytes is 200 bytes sent. -/
theorem request_size_counted_twice :
    ∃ past t, statsMachine.Reaches .new past t ∧
      (t.snapshot 101 "a" 0).bytesSent ≠ (trafficLedger past).sent "a" :=
  ⟨_, (trafficHistory [.start "r1" "a" "llama3" 100, .complete "r1" 5 9]).2,
    Machine.reaches_history statsMachine .new _, by decide⟩

end MtrxPeer
