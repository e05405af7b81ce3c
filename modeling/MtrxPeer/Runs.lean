import Mathlib.Data.List.Basic

/-! Deterministic machines with labelled steps: runs with their history, the
invariant rule over a run, and non-interference by unwinding. -/
namespace MtrxPeer

/-- A machine: a state and an event give the next state and the outputs, in
their order. -/
structure Machine (σ ε ω : Type) where
  step : σ → ε → σ × List ω

/-- One step of a run: the state it started in, its event and its outputs. -/
structure Record (σ ε ω : Type) where
  before : σ
  event : ε
  outputs : List ω

namespace Machine

variable {σ ε ω τ ν : Type} (m : Machine σ ε ω)

/-- The record of stepping from `s` on `e`. -/
def record (s : σ) (e : ε) : Record σ ε ω := ⟨s, e, (m.step s e).2⟩

/-- `s` is reached from `start` by the steps of `past`, the newest first. -/
inductive Reaches (start : σ) : List (Record σ ε ω) → σ → Prop where
  | start : Reaches start [] start
  | step {past : List (Record σ ε ω)} {s : σ} (ran : Reaches start past s) (e : ε) :
      Reaches start (m.record s e :: past) (m.step s e).1

/-- Every step of a run satisfies `Good` of the steps before it and itself. -/
def Always (Good : List (Record σ ε ω) → Record σ ε ω → Prop) : List (Record σ ε ω) → Prop
  | [] => True
  | r :: past => Good past r ∧ Always Good past

variable {m} {start s : σ} {past : List (Record σ ε ω)}

/-- What holds initially and is kept by each step that meets `Meets` holds after
every run whose steps all meet it. -/
theorem Reaches.invariant (I : List (Record σ ε ω) → σ → Prop)
    (Meets : Record σ ε ω → Prop) (init : I [] start)
    (kept : ∀ past s e, I past s → Meets (m.record s e) →
      I (m.record s e :: past) (m.step s e).1)
    (ran : m.Reaches start past s) (all : ∀ r ∈ past, Meets r) : I past s := by
  induction ran with
  | start => exact init
  | step ran e ih =>
    exact kept _ _ e (ih fun r member => all r (List.mem_cons_of_mem _ member))
      (all _ List.mem_cons_self)

/-- An invariant that makes every step good makes the whole run good. -/
theorem Reaches.always (I : List (Record σ ε ω) → σ → Prop)
    (Meets : Record σ ε ω → Prop) {Good : List (Record σ ε ω) → Record σ ε ω → Prop}
    (init : I [] start)
    (kept : ∀ past s e, I past s → Meets (m.record s e) →
      I (m.record s e :: past) (m.step s e).1)
    (good : ∀ past s e, I past s → Meets (m.record s e) → Good past (m.record s e))
    (ran : m.Reaches start past s) (all : ∀ r ∈ past, Meets r) : Always Good past := by
  induction ran with
  | start => trivial
  | step ran e ih =>
    have older := fun r member => all r (List.mem_cons_of_mem _ member)
    have holds := ran.invariant I Meets init kept older
    exact ⟨good _ _ e holds (all _ List.mem_cons_self), ih older⟩

theorem Always.imp {Good Good' : List (Record σ ε ω) → Record σ ε ω → Prop}
    (always : Always Good past) (weaker : ∀ past r, Good past r → Good' past r) :
    Always Good' past := by
  induction past with
  | nil => trivial
  | cons r past ih => exact ⟨weaker past r always.1, ih always.2⟩

/-- A good run is good at each of its steps. -/
theorem Always.at {Good : List (Record σ ε ω) → Record σ ε ω → Prop}
    {newer older : List (Record σ ε ω)} {r : Record σ ε ω}
    (always : Always Good (newer ++ r :: older)) : Good older r := by
  induction newer with
  | nil => exact always.1
  | cons _ newer ih => exact ih always.2

/-- A run with a bad step is not good throughout. -/
theorem not_always_of_mem {Good Bad : Record σ ε ω → Prop} (bad : ∀ r, Bad r → ¬ Good r)
    (found : ∃ r ∈ past, Bad r) : ¬ Always (fun _ r => Good r) past := by
  intro always
  obtain ⟨r, member, isBad⟩ := found
  obtain ⟨newer, older, rfl⟩ := List.append_of_mem member
  exact bad r isBad always.at

variable (m)

/-- The history of a list of events, the newest step first, and the state it
ends in. -/
def history (start : σ) (events : List ε) : List (Record σ ε ω) × σ :=
  events.foldl (fun (past, s) e => (m.record s e :: past, (m.step s e).1)) ([], start)

/-- A history is a run. -/
theorem reaches_history (start : σ) (events : List ε) :
    m.Reaches start (m.history start events).1 (m.history start events).2 := by
  suffices ∀ (events : List ε) (past : List (Record σ ε ω)) (s : σ), m.Reaches start past s →
      m.Reaches start
        (events.foldl (fun (past, s) e => (m.record s e :: past, (m.step s e).1)) (past, s)).1
        (events.foldl (fun (past, s) e => (m.record s e :: past, (m.step s e).1)) (past, s)).2 from
    this events [] start .start
  intro events
  induction events with
  | nil => intro past s ran; exact ran
  | cons e rest ih => intro past s ran; exact ih _ _ (ran.step e)

/-! ## Two runs -/

/-- The state after a list of events. -/
def after (s : σ) : List ε → σ
  | [] => s
  | e :: rest => after (m.step s e).1 rest

/-- A run whose events are made from other things is a run over these. -/
theorem after_map {κ : Type} (f : κ → ε) (s : σ) (entries : List κ) :
    m.after s (entries.map f) = entries.foldl (fun s entry => (m.step s (f entry)).1) s := by
  induction entries generalizing s with
  | nil => rfl
  | cons entry rest ih => exact ih _

/-- A measure that each counted event lowers while it can, and no event raises, is
used up by as many counted events. -/
theorem after_countdown {m : Machine σ ε ω} {I : σ → Prop} (left : σ → Nat) (counts : ε → Bool)
    (falls : ∀ s e, I s → I (m.step s e).1 ∧
      left (m.step s e).1 ≤ left s - if counts e then 1 else 0)
    {s : σ} (init : I s) (events : List ε) :
    I (m.after s events) ∧ left (m.after s events) ≤ left s - events.countP counts := by
  induction events generalizing s with
  | nil => exact ⟨init, Nat.le_refl _⟩
  | cons e rest ih =>
    obtain ⟨kept, lower⟩ := falls s e init
    obtain ⟨end_, used⟩ := ih kept
    refine ⟨end_, ?_⟩
    rw [List.countP_cons, after]
    omega

/-- What an observer makes of a run: what it makes of each step, in order. -/
def trace (observe : σ → List ω → σ → List τ) (s : σ) : List ε → List τ
  | [] => []
  | e :: rest =>
    observe s (m.step s e).2 (m.step s e).1 ++ trace observe (m.step s e).1 rest

theorem trace_append (observe : σ → List ω → σ → List τ) (s : σ) (events later : List ε) :
    m.trace observe s (events ++ later) =
      m.trace observe s events ++ m.trace observe (m.after s events) later := by
  induction events generalizing s with
  | nil => rfl
  | cons e rest ih =>
    rw [List.cons_append, trace, ih, trace, List.append_assoc]
    rfl

/-- Each step of a run meets a condition on its event and the state it starts in. -/
def Along (Meets : σ → ε → Prop) (s : σ) : List ε → Prop
  | [] => True
  | e :: rest => Meets s e ∧ Along Meets (m.step s e).1 rest

variable {m}

/-- What the steps of a run keep holds at each of them. -/
theorem Along.invariant {Meets : σ → ε → Prop} {I : σ → Prop}
    (kept : ∀ s e, I s → Meets s e → I (m.step s e).1) {events : List ε} {s : σ} (init : I s)
    (all : m.Along Meets s events) : m.Along (fun s e => Meets s e ∧ I s) s events := by
  induction events generalizing s with
  | nil => trivial
  | cons e rest ih => exact ⟨⟨all.1, init⟩, ih (kept s e init all.1) all.2⟩

/-- What the steps of a run keep holds after each of them. -/
theorem Along.kept {Meets : σ → ε → Prop} {I : σ → Prop}
    (kept : ∀ s e, I s → Meets s e → I (m.step s e).1) {events : List ε} {s : σ} (init : I s)
    (all : m.Along Meets s events) : m.Along (fun s e => I (m.step s e).1) s events := by
  induction events generalizing s with
  | nil => trivial
  | cons e rest ih =>
    have first := kept s e init all.1
    exact ⟨first, ih first all.2⟩

/-- Where a condition says which steps keep `I`, the runs that keep it throughout
are those whose steps all meet the condition. -/
theorem along_kept_iff {Meets : σ → ε → Prop} {I : σ → Prop}
    (exact : ∀ s e, I s → (I (m.step s e).1 ↔ Meets s e)) {events : List ε} {s : σ} (init : I s) :
    m.Along (fun s e => I (m.step s e).1) s events ↔ m.Along Meets s events := by
  induction events generalizing s with
  | nil => exact Iff.rfl
  | cons e rest ih =>
    constructor
    · rintro ⟨first, later⟩
      exact ⟨(exact s e init).mp first, (ih first).mp later⟩
    · rintro ⟨first, later⟩
      have kept := (exact s e init).mpr first
      exact ⟨kept, (ih kept).mpr later⟩

/-- Where what holds after a step held before it and the step meets a condition, it holds at the
end of a run exactly when it held at the start and all steps meet the condition. -/
theorem after_iff_along {Kept I : σ → Prop} {Meets : σ → ε → Prop}
    (keeps : ∀ s e, Kept s → Kept (m.step s e).1)
    (exact : ∀ s e, Kept s → (I (m.step s e).1 ↔ I s ∧ Meets s e)) {s : σ} (init : Kept s)
    (events : List ε) : I (m.after s events) ↔ I s ∧ m.Along Meets s events := by
  induction events generalizing s with
  | nil => exact (and_iff_left trivial).symm
  | cons e rest ih =>
    rw [after, ih (keeps s e init), exact s e init, and_assoc]
    rfl

/-- What each step of a run gives out. -/
def outputs (m : Machine σ ε ω) (s : σ) : List ε → List (List ω)
  | [] => []
  | e :: rest => (m.step s e).2 :: outputs m (m.step s e).1 rest

/-- Where a condition says which steps of two machines in related states give out the same,
and such steps keep them related, their runs give out the same just when each step of the
second one meets the condition. -/
theorem outputs_eq_iff {σ' : Type} {m : Machine σ ε ω} {a : Machine σ' ε ω} {R : σ → σ' → Prop}
    {Meets : σ' → ε → Prop} (alike : ∀ s t e, R s t → ((m.step s e).2 = (a.step t e).2 ↔ Meets t e))
    (kept : ∀ s t e, R s t → Meets t e → R (m.step s e).1 (a.step t e).1)
    {s : σ} {t : σ'} (related : R s t) (events : List ε) :
    m.outputs s events = a.outputs t events ↔ a.Along Meets t events := by
  induction events generalizing s t with
  | nil => exact iff_of_true rfl trivial
  | cons e rest ih =>
    rw [outputs, outputs, List.cons.injEq, alike s t e related]
    exact and_congr_right fun meets => ih (kept s t e related meets)

/-- Hidden events that change neither the view nor what is observed can be taken
out of a run. -/
private theorem skip_hidden {view : σ → ν} {observe : σ → List ω → σ → List τ} {hidden : ε → Prop}
    [DecidablePred hidden] {Meets : σ → ε → Prop}
    (ignored : ∀ s e, hidden e → Meets s e →
      view (m.step s e).1 = view s ∧ observe s (m.step s e).2 (m.step s e).1 = [])
    {events : List ε} {s : σ} (all : m.Along Meets s events) :
    (∀ e ∈ events, hidden e) ∧ view (m.after s events) = view s ∧ m.trace observe s events = [] ∨
      ∃ t e rest, ¬ hidden e ∧ view t = view s ∧ m.Along Meets t (e :: rest) ∧
        events.filter (¬ hidden ·) = e :: rest.filter (¬ hidden ·) ∧
        m.after s events = m.after t (e :: rest) ∧
        m.trace observe s events = m.trace observe t (e :: rest) := by
  induction events generalizing s with
  | nil => exact .inl ⟨by simp, rfl, rfl⟩
  | cons e rest ih =>
    by_cases secret : hidden e
    · obtain ⟨kept, silent⟩ := ignored s e secret all.1
      rcases ih all.2 with ⟨quiet, last, none⟩ | ⟨t, e', rest', visible, same, meets, filtered, end_, seen⟩
      · refine .inl ⟨?_, last.trans kept, ?_⟩
        · intro e' member
          rcases List.mem_cons.mp member with rfl | later
          · exact secret
          · exact quiet e' later
        · rw [trace, silent, none]
          rfl
      · refine .inr ⟨t, e', rest', visible, same.trans kept, meets, ?_, end_, ?_⟩
        · rw [← filtered]
          simp [secret]
        · rw [trace, silent, seen]
          rfl
    · exact .inr ⟨s, e, rest, secret, rfl, all, by simp [secret], rfl, rfl⟩

/-- Unwinding: if hidden events neither change the view nor give anything to
observe, and any other event acts alike on equal views, then runs with the same
other events are observed alike. -/
theorem trace_noninterference (view : σ → ν) {observe : σ → List ω → σ → List τ} (hidden : ε → Prop)
    [DecidablePred hidden] {Meets : σ → ε → Prop}
    (ignored : ∀ s e, hidden e → Meets s e →
      view (m.step s e).1 = view s ∧ observe s (m.step s e).2 (m.step s e).1 = [])
    (agrees : ∀ s t e, view s = view t → ¬ hidden e → Meets s e → Meets t e →
      view (m.step s e).1 = view (m.step t e).1 ∧
        observe s (m.step s e).2 (m.step s e).1 = observe t (m.step t e).2 (m.step t e).1)
    {events events' : List ε} {s t : σ} (same : view s = view t)
    (all : m.Along Meets s events) (all' : m.Along Meets t events')
    (visible : events.filter (¬ hidden ·) = events'.filter (¬ hidden ·)) :
    view (m.after s events) = view (m.after t events') ∧
      m.trace observe s events = m.trace observe t events' := by
  induction events generalizing s t events' with
  | nil =>
    rcases skip_hidden ignored all' with ⟨-, last, none⟩ | ⟨_, _, _, -, -, -, filtered, -⟩
    · exact ⟨same.trans last.symm, none.symm⟩
    · rw [filtered] at visible
      cases visible
  | cons e rest ih =>
    by_cases secret : hidden e
    · obtain ⟨kept, silent⟩ := ignored s e secret all.1
      have shorter : rest.filter (¬ hidden ·) = events'.filter (¬ hidden ·) := by
        rw [← visible]
        simp [secret]
      obtain ⟨last, seen⟩ := ih (kept.trans same) all.2 all' shorter
      refine ⟨last, ?_⟩
      rw [trace, silent, ← seen]
      rfl
    · have first : (e :: rest).filter (¬ hidden ·) = e :: rest.filter (¬ hidden ·) := by
        simp [secret]
      rw [first] at visible
      rcases skip_hidden ignored all' with
        ⟨quiet, -, -⟩ | ⟨t', e', rest', -, same', all', filtered, end_, seen⟩
      · have none : events'.filter (¬ hidden ·) = [] := by
          simpa using quiet
        rw [none] at visible
        cases visible
      · rw [filtered] at visible
        obtain ⟨rfl, others⟩ := List.cons.inj visible
        obtain ⟨stepped, equal⟩ := agrees s t' e (same.trans same'.symm) secret all.1 all'.1
        obtain ⟨last, later⟩ := ih stepped all.2 all'.2 others
        refine ⟨?_, ?_⟩
        · rw [end_]
          exact last
        · rw [seen, trace, trace, equal, later]

end Machine

end MtrxPeer
