import Mathlib.Data.List.Induction
import MtrxPeer.ConnectAllowance

/-! Connection allowances over whole runs: each validation that succeeds uses up a grant of
its own. An operation reads the clock more than once, so it carries each of its readings. -/
namespace MtrxPeer

open Function (update update_self update_of_ne)

namespace ConnectionAllowanceStore

/-- `grant`: the clock is read to purge and again for the expiry. -/
def grantAt (store : ConnectionAllowanceStore) (purgedAt grantedAt ttl : Nat)
    (reqId requesterPeerId model : String) : ConnectionAllowanceStore :=
  update (purgeExpired store purgedAt) reqId (some ⟨requesterPeerId, model, grantedAt + ttl⟩)

/-- `validate_and_consume`: the clock is read to purge and again to check the expiry. -/
def validateAndConsumeAt (store : ConnectionAllowanceStore) (purgedAt checkedAt : Nat)
    (reqId requesterPeerId : String) : Option String × ConnectionAllowanceStore :=
  let purged := purgeExpired store purgedAt
  match purged reqId with
  | none => (none, purged)
  | some allowance =>
    let left := update purged reqId none
    if allowance.expiresAt ≤ checkedAt then (none, left)
    else if allowance.requesterPeerId ≠ requesterPeerId then (none, left)
    else (some allowance.model, left)

/-- Where the clock stands still, the readings are one. -/
theorem grantAt_self (store : ConnectionAllowanceStore) (now ttl : Nat)
    (reqId requesterPeerId model : String) :
    grantAt store now now ttl reqId requesterPeerId model =
      grant store now ttl reqId requesterPeerId model := rfl

theorem validateAndConsumeAt_self (store : ConnectionAllowanceStore) (now : Nat)
    (reqId requesterPeerId : String) :
    validateAndConsumeAt store now now reqId requesterPeerId =
      validateAndConsume store now reqId requesterPeerId := rfl

/-- What is in the store after granting is the new grant or was there before. -/
theorem grantAt_eq_some {store : ConnectionAllowanceStore} {purgedAt grantedAt ttl : Nat}
    {reqId requesterPeerId model probe : String} {a : ConnectionAllowance}
    (live : grantAt store purgedAt grantedAt ttl reqId requesterPeerId model probe = some a) :
    (probe = reqId ∧ a = ⟨requesterPeerId, model, grantedAt + ttl⟩) ∨
      (probe ≠ reqId ∧ store probe = some a) := by
  by_cases same : probe = reqId
  · subst same
    rw [grantAt, update_self] at live
    exact .inl ⟨rfl, (Option.some.inj live).symm⟩
  · rw [grantAt, update_of_ne same] at live
    exact .inr ⟨same, (purgeExpired_eq_some.mp live).1⟩

/-- A validation uses up the grant of its request, if there is one, and adds none. -/
theorem validateAndConsumeAt_store {store : ConnectionAllowanceStore} {purgedAt checkedAt : Nat}
    {reqId requesterPeerId probe : String} {a : ConnectionAllowance}
    (live : (validateAndConsumeAt store purgedAt checkedAt reqId requesterPeerId).2 probe = some a) :
    probe ≠ reqId ∧ store probe = some a := by
  simp only [validateAndConsumeAt] at live
  cases found : purgeExpired store purgedAt reqId with
  | none =>
    rw [found] at live
    refine ⟨?_, (purgeExpired_eq_some.mp live).1⟩
    rintro rfl
    cases found.symm.trans live
  | some b =>
    have left : update (purgeExpired store purgedAt) reqId none probe = some a := by
      rw [found] at live
      dsimp only at live
      split_ifs at live <;> exact live
    by_cases same : probe = reqId
    · rw [same, update_self] at left
      cases left
    · rw [update_of_ne same] at left
      exact ⟨same, (purgeExpired_eq_some.mp left).1⟩

/-- A validation that succeeds finds a grant for its requester that has not expired. -/
theorem validateAndConsumeAt_eq_some {store : ConnectionAllowanceStore} {purgedAt checkedAt : Nat}
    {reqId requesterPeerId model : String}
    (valid : (validateAndConsumeAt store purgedAt checkedAt reqId requesterPeerId).1 = some model) :
    ∃ a, store reqId = some a ∧ checkedAt < a.expiresAt ∧ a.requesterPeerId = requesterPeerId ∧
      a.model = model := by
  simp only [validateAndConsumeAt] at valid
  cases found : purgeExpired store purgedAt reqId with
  | none =>
    rw [found] at valid
    cases valid
  | some a =>
    rw [found] at valid
    dsimp only at valid
    split_ifs at valid with expired other
    refine ⟨a, (purgeExpired_eq_some.mp found).1, Nat.lt_of_not_le expired, ?_, ?_⟩
    · exact not_not.mp other
    · exact Option.some.inj valid

end ConnectionAllowanceStore

/-! ## Runs -/

open ConnectionAllowanceStore

inductive AllowanceOp where
  | grant (purgedAt grantedAt : Nat) (reqId requesterPeerId model : String)
  | validate (purgedAt checkedAt : Nat) (reqId requesterPeerId : String)
  | purge (now : Nat)

/-- The readings of the clock, in the order in which they are taken. -/
def AllowanceOp.readings : AllowanceOp → List Nat
  | .grant purgedAt grantedAt .. => [purgedAt, grantedAt]
  | .validate purgedAt checkedAt .. => [purgedAt, checkedAt]
  | .purge now => [now]

/-- One operation: what a validation answers, and the store it leaves. -/
def allowanceStep (ttl : Nat) (store : ConnectionAllowanceStore) :
    AllowanceOp → Option String × ConnectionAllowanceStore
  | .grant purgedAt grantedAt reqId requesterPeerId model =>
    (none, grantAt store purgedAt grantedAt ttl reqId requesterPeerId model)
  | .validate purgedAt checkedAt reqId requesterPeerId =>
    validateAndConsumeAt store purgedAt checkedAt reqId requesterPeerId
  | .purge now => (none, purgeExpired store now)

/-- The answers of a run from the empty store, one for each operation, and the store at its end. -/
def allowanceRun (ttl : Nat) (ops : List AllowanceOp) :
    List (Option String) × ConnectionAllowanceStore :=
  ops.foldl (fun (answers, store) op =>
    (answers ++ [(allowanceStep ttl store op).1], (allowanceStep ttl store op).2)) ([], fun _ => none)

/-- The `i`-th operation is a validation that succeeds. -/
def Consumes (ttl : Nat) (ops : List AllowanceOp) (i : Nat) (reqId requesterPeerId model : String)
    (checkedAt : Nat) : Prop :=
  (∃ purgedAt, ops[i]? = some (.validate purgedAt checkedAt reqId requesterPeerId)) ∧
    (allowanceRun ttl ops).1[i]? = some (some model)

/-- The `k`-th operation is a grant. -/
def Grants (ops : List AllowanceOp) (k : Nat) (reqId requesterPeerId model : String)
    (grantedAt : Nat) : Prop :=
  ∃ purgedAt, ops[k]? = some (.grant purgedAt grantedAt reqId requesterPeerId model)

section Run

variable {ttl : Nat} {ops : List AllowanceOp} {op : AllowanceOp} {i k checkedAt grantedAt : Nat}
  {reqId requesterPeerId model : String}

private theorem allowanceRun_snoc (ttl : Nat) (ops : List AllowanceOp) (op : AllowanceOp) :
    allowanceRun ttl (ops ++ [op]) =
      ((allowanceRun ttl ops).1 ++ [(allowanceStep ttl (allowanceRun ttl ops).2 op).1],
        (allowanceStep ttl (allowanceRun ttl ops).2 op).2) := by
  simp only [allowanceRun, List.foldl_append, List.foldl_cons, List.foldl_nil]

private theorem allowanceRun_snoc_store (ttl : Nat) (ops : List AllowanceOp) (op : AllowanceOp) :
    (allowanceRun ttl (ops ++ [op])).2 = (allowanceStep ttl (allowanceRun ttl ops).2 op).2 := by
  rw [allowanceRun_snoc]

private theorem answers_length (ttl : Nat) (ops : List AllowanceOp) :
    (allowanceRun ttl ops).1.length = ops.length := by
  induction ops using List.reverseRecOn with
  | nil => rfl
  | append_singleton ops op ih => simp [allowanceRun_snoc, ih]

theorem Consumes.lt (consumes : Consumes ttl ops i reqId requesterPeerId model checkedAt) :
    i < ops.length := by
  obtain ⟨⟨_, at_⟩, -⟩ := consumes
  exact (List.getElem?_eq_some_iff.mp at_).1

theorem Grants.lt (grants : Grants ops k reqId requesterPeerId model grantedAt) : k < ops.length := by
  obtain ⟨_, at_⟩ := grants
  exact (List.getElem?_eq_some_iff.mp at_).1

/-- A grant is one after any further operation. -/
theorem Grants.snoc (grants : Grants ops k reqId requesterPeerId model grantedAt) (op : AllowanceOp) :
    Grants (ops ++ [op]) k reqId requesterPeerId model grantedAt := by
  obtain ⟨purgedAt, at_⟩ := grants
  exact ⟨purgedAt, by rw [List.getElem?_append_left (Grants.lt ⟨purgedAt, at_⟩), at_]⟩

/-- The operation that is granted last of a run is the one that is added. -/
private theorem grants_last (purgedAt grantedAt : Nat) (reqId requesterPeerId model : String) :
    Grants (ops ++ [.grant purgedAt grantedAt reqId requesterPeerId model]) ops.length reqId
      requesterPeerId model grantedAt := by
  exact ⟨purgedAt, List.getElem?_concat_length⟩

/-- A consumption of a longer run is one of the run before, or the operation that is added. -/
private theorem consumes_snoc
    (consumes : Consumes ttl (ops ++ [op]) i reqId requesterPeerId model checkedAt) :
    Consumes ttl ops i reqId requesterPeerId model checkedAt ∨
      i = ops.length ∧ (∃ purgedAt, op = .validate purgedAt checkedAt reqId requesterPeerId) ∧
        (allowanceStep ttl (allowanceRun ttl ops).2 op).1 = some model := by
  have bound := consumes.lt
  obtain ⟨⟨purgedAt, at_⟩, answered⟩ := consumes
  rw [allowanceRun_snoc] at answered
  rw [List.length_append, List.length_singleton] at bound
  by_cases older : i < ops.length
  · rw [List.getElem?_append_left older] at at_
    rw [List.getElem?_append_left (by rw [answers_length]; exact older)] at answered
    exact .inl ⟨⟨purgedAt, at_⟩, answered⟩
  · obtain rfl : i = ops.length := by omega
    rw [List.getElem?_concat_length] at at_
    rw [← answers_length ttl, List.getElem?_concat_length] at answered
    exact .inr ⟨rfl, ⟨purgedAt, Option.some.inj at_⟩, Option.some.inj answered⟩

/-- A reading of an operation is not before one of an earlier operation. -/
private theorem grants_before {now : Nat}
    (clock : ((ops ++ [op]).flatMap AllowanceOp.readings).Pairwise (· ≤ ·))
    (grants : Grants ops k reqId requesterPeerId model grantedAt) (reading : now ∈ op.readings) :
    grantedAt ≤ now := by
  obtain ⟨purgedAt, at_⟩ := grants
  rw [List.flatMap_append, List.pairwise_append] at clock
  refine clock.2.2 grantedAt ?_ now (by simpa using reading)
  exact List.mem_flatMap.mpr ⟨_, List.mem_of_getElem? at_, by simp [AllowanceOp.readings]⟩

end Run

/-! ## The matching -/

/-- The grants behind a run so far: `grantOf` gives each validation that succeeded its grant,
and `origin` gives each grant that is still in the store its place. -/
structure GrantsTracked (ttl : Nat) (ops : List AllowanceOp) (grantOf : Nat → Nat)
    (origin : String → Nat) : Prop where
  matched : ∀ i reqId requesterPeerId model checkedAt,
    Consumes ttl ops i reqId requesterPeerId model checkedAt →
      grantOf i < i ∧ ∃ grantedAt, Grants ops (grantOf i) reqId requesterPeerId model grantedAt ∧
        grantedAt ≤ checkedAt ∧ checkedAt ≤ grantedAt + ttl
  apart : ∀ i j reqId requesterPeerId model checkedAt reqId' requesterPeerId' model' checkedAt',
    Consumes ttl ops i reqId requesterPeerId model checkedAt →
      Consumes ttl ops j reqId' requesterPeerId' model' checkedAt' → grantOf i = grantOf j → i = j
  live : ∀ reqId a, (allowanceRun ttl ops).2 reqId = some a →
    ∃ grantedAt, Grants ops (origin reqId) reqId a.requesterPeerId a.model grantedAt ∧
      a.expiresAt = grantedAt + ttl
  unspent : ∀ reqId a, (allowanceRun ttl ops).2 reqId = some a →
    ∀ i reqId' requesterPeerId model checkedAt,
      Consumes ttl ops i reqId' requesterPeerId model checkedAt → grantOf i ≠ origin reqId

section Matching

variable {ttl : Nat} {ops : List AllowanceOp} {op : AllowanceOp} {grantOf : Nat → Nat}
  {origin : String → Nat}

/-- Two grants in one place are one. -/
private theorem Grants.reqId_eq {k grantedAt grantedAt' : Nat}
    {reqId requesterPeerId model reqId' requesterPeerId' model' : String}
    (grants : Grants ops k reqId requesterPeerId model grantedAt)
    (again : Grants ops k reqId' requesterPeerId' model' grantedAt') : reqId = reqId' := by
  obtain ⟨_, at_⟩ := grants
  obtain ⟨_, same⟩ := again
  rw [at_] at same
  injection Option.some.inj same

/-- An operation that lets no validation succeed and adds nothing to the store. -/
private theorem GrantsTracked.quiet (tracked : GrantsTracked ttl ops grantOf origin)
    (silent : (allowanceStep ttl (allowanceRun ttl ops).2 op).1 = none)
    (kept : ∀ reqId a, (allowanceStep ttl (allowanceRun ttl ops).2 op).2 reqId = some a →
      (allowanceRun ttl ops).2 reqId = some a) :
    GrantsTracked ttl (ops ++ [op]) grantOf origin := by
  have older : ∀ {i reqId requesterPeerId model checkedAt},
      Consumes ttl (ops ++ [op]) i reqId requesterPeerId model checkedAt →
        Consumes ttl ops i reqId requesterPeerId model checkedAt := by
    intro i reqId requesterPeerId model checkedAt consumes
    rcases consumes_snoc consumes with before | ⟨-, -, answered⟩
    · exact before
    · rw [silent] at answered
      cases answered
  rw [← allowanceRun_snoc_store] at kept
  constructor
  · intro i reqId requesterPeerId model checkedAt consumes
    obtain ⟨earlier, grantedAt, grants, times⟩ := tracked.matched _ _ _ _ _ (older consumes)
    exact ⟨earlier, grantedAt, grants.snoc op, times⟩
  · intro i j _ _ _ _ _ _ _ _ first second same
    exact tracked.apart i j _ _ _ _ _ _ _ _ (older first) (older second) same
  · intro reqId a stored
    obtain ⟨grantedAt, grants, expires⟩ := tracked.live reqId a (kept reqId a stored)
    exact ⟨grantedAt, grants.snoc op, expires⟩
  · intro reqId a stored i _ _ _ _ consumes
    exact tracked.unspent reqId a (kept reqId a stored) i _ _ _ _ (older consumes)

/-- A grant is tracked under its place in the run. -/
private theorem GrantsTracked.grant (tracked : GrantsTracked ttl ops grantOf origin)
    (purgedAt grantedAt : Nat) (reqId requesterPeerId model : String) :
    GrantsTracked ttl (ops ++ [.grant purgedAt grantedAt reqId requesterPeerId model]) grantOf
      (update origin reqId ops.length) := by
  have older : ∀ {i reqId' requesterPeerId' model' checkedAt},
      Consumes ttl (ops ++ [.grant purgedAt grantedAt reqId requesterPeerId model]) i reqId'
        requesterPeerId' model' checkedAt → Consumes ttl ops i reqId' requesterPeerId' model' checkedAt := by
    intro i _ _ _ _ consumes
    rcases consumes_snoc consumes with before | ⟨-, ⟨_, same⟩, -⟩
    · exact before
    · cases same
  have stored : ∀ {probe a}, (allowanceRun ttl
      (ops ++ [.grant purgedAt grantedAt reqId requesterPeerId model])).2 probe = some a →
      (probe = reqId ∧ a = ⟨requesterPeerId, model, grantedAt + ttl⟩) ∨
        (probe ≠ reqId ∧ (allowanceRun ttl ops).2 probe = some a) := by
    intro probe a found
    rw [allowanceRun_snoc_store] at found
    exact grantAt_eq_some found
  constructor
  · intro i _ _ _ _ consumes
    obtain ⟨earlier, at_, grants, times⟩ := tracked.matched _ _ _ _ _ (older consumes)
    exact ⟨earlier, at_, grants.snoc _, times⟩
  · intro i j _ _ _ _ _ _ _ _ first second same
    exact tracked.apart i j _ _ _ _ _ _ _ _ (older first) (older second) same
  · intro probe a found
    rcases stored found with ⟨rfl, rfl⟩ | ⟨other, before⟩
    · rw [update_self]
      exact ⟨grantedAt, grants_last .., rfl⟩
    · obtain ⟨at_, grants, expires⟩ := tracked.live probe a before
      rw [update_of_ne other]
      exact ⟨at_, grants.snoc _, expires⟩
  · intro probe a found i _ _ _ _ consumes
    rcases stored found with ⟨rfl, -⟩ | ⟨other, before⟩
    · -- what was consumed was granted before
      have earlier := (tracked.matched _ _ _ _ _ (older consumes)).1
      have bound := (older consumes).lt
      rw [update_self]
      omega
    · rw [update_of_ne other]
      exact tracked.unspent probe a before i _ _ _ _ (older consumes)

/-- A validation that succeeds is matched to the grant it takes out of the store. -/
private theorem GrantsTracked.consume (tracked : GrantsTracked ttl ops grantOf origin)
    {purgedAt checkedAt : Nat} {reqId requesterPeerId model : String}
    (clock : ((ops ++ [AllowanceOp.validate purgedAt checkedAt reqId requesterPeerId]).flatMap
      AllowanceOp.readings).Pairwise (· ≤ ·))
    (valid : (validateAndConsumeAt (allowanceRun ttl ops).2 purgedAt checkedAt reqId
      requesterPeerId).1 = some model) :
    GrantsTracked ttl (ops ++ [.validate purgedAt checkedAt reqId requesterPeerId])
      (update grantOf ops.length (origin reqId)) origin := by
  obtain ⟨a, found, inTime, rfl, rfl⟩ := validateAndConsumeAt_eq_some valid
  obtain ⟨grantedAt, grants, expires⟩ := tracked.live reqId a found
  have step : ∀ {i reqId' requesterPeerId' model' checkedAt'},
      Consumes ttl (ops ++ [.validate purgedAt checkedAt reqId a.requesterPeerId]) i reqId'
        requesterPeerId' model' checkedAt' →
      (i < ops.length ∧ Consumes ttl ops i reqId' requesterPeerId' model' checkedAt') ∨
        (i = ops.length ∧ reqId' = reqId ∧ requesterPeerId' = a.requesterPeerId ∧
          model' = a.model ∧ checkedAt' = checkedAt) := by
    intro i reqId' requesterPeerId' model' checkedAt' consumes
    rcases consumes_snoc consumes with before | ⟨rfl, ⟨_, same⟩, answered⟩
    · exact .inl ⟨before.lt, before⟩
    · obtain ⟨-, rfl, rfl, rfl⟩ := AllowanceOp.validate.inj same
      exact .inr ⟨rfl, rfl, rfl, Option.some.inj (answered.symm.trans valid), rfl⟩
  have stored : ∀ {probe b}, (allowanceRun ttl
      (ops ++ [.validate purgedAt checkedAt reqId a.requesterPeerId])).2 probe = some b →
      probe ≠ reqId ∧ (allowanceRun ttl ops).2 probe = some b := by
    intro probe b live
    rw [allowanceRun_snoc_store] at live
    exact validateAndConsumeAt_store live
  have before : ∀ {i}, i < ops.length → update grantOf ops.length (origin reqId) i = grantOf i :=
    fun bound => update_of_ne (Nat.ne_of_lt bound) ..
  constructor
  · intro i _ _ _ _ consumes
    rcases step consumes with ⟨bound, older⟩ | ⟨rfl, rfl, rfl, rfl, rfl⟩
    · obtain ⟨earlier, at_, granted, times⟩ := tracked.matched _ _ _ _ _ older
      rw [before bound]
      exact ⟨earlier, at_, granted.snoc _, times⟩
    · rw [update_self]
      refine ⟨grants.lt, grantedAt, grants.snoc _, ?_, by omega⟩
      exact grants_before clock grants (by simp [AllowanceOp.readings])
  · intro i j _ _ _ _ _ _ _ _ first second same
    rcases step first with ⟨bound, older⟩ | ⟨rfl, -⟩
    · rcases step second with ⟨bound', older'⟩ | ⟨rfl, -⟩
      · rw [before bound, before bound'] at same
        exact tracked.apart i j _ _ _ _ _ _ _ _ older older' same
      · rw [before bound, update_self] at same
        exact absurd same (tracked.unspent reqId a found i _ _ _ _ older)
    · rcases step second with ⟨bound', older'⟩ | ⟨rfl, -⟩
      · rw [before bound', update_self] at same
        exact absurd same.symm (tracked.unspent reqId a found j _ _ _ _ older')
      · rfl
  · intro probe b live
    obtain ⟨at_, granted, expires'⟩ := tracked.live probe b (stored live).2
    exact ⟨at_, granted.snoc _, expires'⟩
  · intro probe b live i _ _ _ _ consumes
    obtain ⟨other, older⟩ := stored live
    rcases step consumes with ⟨bound, earlier⟩ | ⟨rfl, -⟩
    · rw [before bound]
      exact tracked.unspent probe b older i _ _ _ _ earlier
    · -- the two grants are of two requests
      rw [update_self]
      intro same
      obtain ⟨at_, granted, -⟩ := tracked.live probe b older
      rw [← same] at granted
      exact other (granted.reqId_eq grants)

end Matching

/-- Every run is tracked. -/
private theorem grants_tracked (ttl : Nat) (ops : List AllowanceOp)
    (clock : (ops.flatMap AllowanceOp.readings).Pairwise (· ≤ ·)) :
    ∃ grantOf origin, GrantsTracked ttl ops grantOf origin := by
  induction ops using List.reverseRecOn with
  | nil =>
    refine ⟨fun _ => 0, fun _ => 0, ?_, ?_, ?_, ?_⟩
    · intro i _ _ _ _ consumes
      exact absurd consumes.lt (Nat.not_lt_zero i)
    · intro i _ _ _ _ _ _ _ _ _ consumes
      exact absurd consumes.lt (Nat.not_lt_zero i)
    · intro reqId a stored
      cases stored
    · intro reqId a stored
      cases stored
  | append_singleton ops op ih =>
    have earlier : (ops.flatMap AllowanceOp.readings).Pairwise (· ≤ ·) := by
      rw [List.flatMap_append, List.pairwise_append] at clock
      exact clock.1
    obtain ⟨grantOf, origin, tracked⟩ := ih earlier
    cases op with
    | grant purgedAt grantedAt reqId requesterPeerId model =>
      exact ⟨_, _, tracked.grant purgedAt grantedAt reqId requesterPeerId model⟩
    | validate purgedAt checkedAt reqId requesterPeerId =>
      cases answer : (validateAndConsumeAt (allowanceRun ttl ops).2 purgedAt checkedAt reqId
          requesterPeerId).1 with
      | none => exact ⟨_, _, tracked.quiet answer fun _ _ live => (validateAndConsumeAt_store live).2⟩
      | some model => exact ⟨_, _, tracked.consume clock answer⟩
    | purge now => exact ⟨_, _, tracked.quiet rfl fun _ _ live => (purgeExpired_eq_some.mp live).1⟩

/-- In every run over a clock that does not go back, each validation that succeeds has a grant of
its own: an earlier one of that request to that requester, for the model returned, at most the
lifetime before. -/
theorem each_validation_has_its_own_grant (ttl : Nat) (ops : List AllowanceOp)
    (clock : (ops.flatMap AllowanceOp.readings).Pairwise (· ≤ ·)) :
    ∃ grantOf : Nat → Nat,
      (∀ i reqId requesterPeerId model checkedAt,
        Consumes ttl ops i reqId requesterPeerId model checkedAt →
          grantOf i < i ∧ ∃ grantedAt,
            Grants ops (grantOf i) reqId requesterPeerId model grantedAt ∧
              grantedAt ≤ checkedAt ∧ checkedAt ≤ grantedAt + ttl) ∧
      ∀ i j reqId requesterPeerId model checkedAt reqId' requesterPeerId' model' checkedAt',
        Consumes ttl ops i reqId requesterPeerId model checkedAt →
          Consumes ttl ops j reqId' requesterPeerId' model' checkedAt' →
            grantOf i = grantOf j → i = j := by
  obtain ⟨grantOf, origin, tracked⟩ := grants_tracked ttl ops clock
  exact ⟨grantOf, tracked.matched, tracked.apart⟩

/-- Two grants of one request, each of them used once; a third validation finds none. -/
private def sampleOps : List AllowanceOp :=
  [.grant 0 1 "r" "a" "m", .validate 2 3 "r" "a", .grant 4 5 "r" "a" "n", .validate 6 7 "r" "a",
    .validate 8 9 "r" "a"]

theorem sample_validations_have_their_own_grants :
    (allowanceRun 60 sampleOps).1 = [none, some "m", none, some "n", none] ∧
      ∃ grantOf : Nat → Nat,
        (∀ i reqId requesterPeerId model checkedAt,
          Consumes 60 sampleOps i reqId requesterPeerId model checkedAt →
            grantOf i < i ∧ ∃ grantedAt,
              Grants sampleOps (grantOf i) reqId requesterPeerId model grantedAt ∧
                grantedAt ≤ checkedAt ∧ checkedAt ≤ grantedAt + 60) ∧
        ∀ i j reqId requesterPeerId model checkedAt reqId' requesterPeerId' model' checkedAt',
          Consumes 60 sampleOps i reqId requesterPeerId model checkedAt →
            Consumes 60 sampleOps j reqId' requesterPeerId' model' checkedAt' →
              grantOf i = grantOf j → i = j :=
  ⟨by decide, each_validation_has_its_own_grant 60 sampleOps (by decide)⟩

end MtrxPeer
