import Mathlib.Logic.Function.Basic
import MtrxPeer.TaskPools

/-! The keys of a peer: each is made when it is first asked for, and is read from the store from
then on. Reading the store and writing to it are two steps, between which other calls take
theirs. -/
namespace MtrxPeer

open Function (update update_self update_of_ne)

/-! ## Asking for a key -/

/-- Keys of one sort, how they are stored, and the keys that the generator gives, one after the
other and no two alike. -/
structure KeySource (κ β : Type) where
  encode : κ → β
  decode : β → Option κ
  decode_encode : ∀ key, decode (encode key) = some key
  draw : Nat → κ
  fresh : Function.Injective draw

/-- The records of the store, and how many keys have been drawn. -/
structure KeyRecords (β : Type) where
  stored : String → Option β
  drawn : Nat

/-- What a call does next, or what it has returned. -/
inductive KeyStage (κ : Type) where
  | load
  | generate
  /-- The key with this number is to be stored. -/
  | store (n : Nat)
  | created (n : Nat)
  /-- What was stored, if it is a key. -/
  | loaded (key : Option κ)
  /-- The store has failed. -/
  | failed

structure KeyCall (κ : Type) where
  recordId : String
  stage : KeyStage κ

section Calls

variable {κ β : Type} (source : KeySource κ β)

/-- A step of a call that loads a key or creates it; `works` says whether the store can be
read and written. -/
def keyRun (s : KeyRecords β) (call : KeyCall κ) (works : Bool) : KeyRecords β × KeyCall κ :=
  match call.stage with
  | .load =>
    (s, { call with stage :=
      if works then
        match s.stored call.recordId with
        | some bytes => .loaded (source.decode bytes)
        | none => .generate
      else .failed })
  | .generate => ({ s with drawn := s.drawn + 1 }, { call with stage := .store s.drawn })
  | .store n =>
    if works then
      ({ s with stored := update s.stored call.recordId (some (source.encode (source.draw n))) },
        { call with stage := .created n })
    else (s, { call with stage := .failed })
  | _ => (s, call)

/-- A call under a record id. -/
def keyCall (recordId : String) : KeyCall κ := ⟨recordId, .load⟩

def keyMachine : Machine (Pool (KeyRecords β) (KeyCall κ)) (PoolEvent String Bool) Unit :=
  Pool.machine keyCall (keyRun source)

/-- `load_or_create_libp2p_keypair`: the record has the id of the peer. -/
def loadOrCreateLibp2pKeypair (mtrxaiPeerId : String) : PoolEvent String Bool := .spawn mtrxaiPeerId

/-- `load_or_create_peer_signing_key`: there is one record. -/
def loadOrCreatePeerSigningKey : PoolEvent String Bool := .spawn "__mtrxai_peer_auth__"

/-- The key that a call has returned. -/
def KeyCall.key (call : KeyCall κ) : Option κ :=
  match call.stage with
  | .created n => some (source.draw n)
  | .loaded key => key
  | _ => none

end Calls

/-! ## Calls under one record -/

/-- The key a call has drawn. -/
def KeyStage.own {κ : Type} : KeyStage κ → Option Nat
  | .store n => some n
  | .created n => some n
  | _ => none

def KeyStage.isCreated {κ : Type} : KeyStage κ → Bool
  | .created _ => true
  | _ => false

/-- The calls under a record that have created a key. -/
def creators {κ : Type} (calls : List (KeyCall κ)) (recordId : String) : Nat :=
  calls.countP fun call => decide (call.recordId = recordId) && call.stage.isCreated

/-- The calls that have drawn a key. -/
def drawers {κ : Type} (calls : List (KeyCall κ)) (n : Nat) : Nat :=
  calls.countP fun call => decide (call.stage.own = some n)

/-- A call has found no key. -/
def KeyStage.foundNone {κ : Type} : KeyStage κ → Bool
  | .generate => true
  | .store _ => true
  | .created _ => true
  | _ => false

/-- Each key is drawn by one call, and the record of an id has what it had at first, or the key
of a call under it. -/
structure KeysKept {κ β : Type} (source : KeySource κ β) (initial : String → Option β) (recordId : String)
    (s : KeyRecords β) (calls : List (KeyCall κ)) : Prop where
  drawnOnce : ∀ n, drawers calls n ≤ 1
  undrawn : ∀ n, s.drawn ≤ n → drawers calls n = 0
  none_ : ∀ call ∈ calls, call.recordId = recordId → call.stage.foundNone = true → initial recordId = none
  untouched : creators calls recordId = 0 → s.stored recordId = initial recordId ∧
    ∀ call ∈ calls, call.recordId = recordId → ∀ key, call.stage = .loaded key →
      (initial recordId).map source.decode = some key
  stored : 0 < creators calls recordId → ∃ n, s.stored recordId = some (source.encode (source.draw n)) ∧
    (∃ call ∈ calls, call.recordId = recordId ∧ call.stage = .created n) ∧
    (creators calls recordId = 1 → ∀ call ∈ calls, call.recordId = recordId → ∀ key,
      call.stage = .loaded key → key = some (source.draw n))

namespace KeysKept

variable {κ β : Type} {source : KeySource κ β} {initial : String → Option β} {recordId : String}
  {s : KeyRecords β} {before after : List (KeyCall κ)} {call : KeyCall κ} {stage' : KeyStage κ}

private theorem drawers_replace (before after : List (KeyCall κ)) (call : KeyCall κ) (stage' : KeyStage κ)
    (n : Nat) :
    drawers (before ++ { call with stage := stage' } :: after) n + (decide (call.stage.own = some n)).toNat =
      drawers (before ++ call :: after) n + (decide (stage'.own = some n)).toNat :=
  Pool.countP_replace _ before after call { call with stage := stage' }

private theorem creators_replace (recordId : String) (before after : List (KeyCall κ)) (call : KeyCall κ)
    (stage' : KeyStage κ) :
    creators (before ++ { call with stage := stage' } :: after) recordId +
        (decide (call.recordId = recordId) && call.stage.isCreated).toNat =
      creators (before ++ call :: after) recordId +
        (decide (call.recordId = recordId) && stage'.isCreated).toNat :=
  Pool.countP_replace _ before after call { call with stage := stage' }

/-- A record that is not there was not there at first. -/
private theorem initial_none {calls : List (KeyCall κ)} (kept : KeysKept source initial recordId s calls)
    (absent : s.stored recordId = none) : initial recordId = none := by
  cases untouched : creators calls recordId with
  | zero => exact (kept.untouched untouched).1.symm.trans absent
  | succ more =>
    obtain ⟨n, stored, -⟩ := kept.stored (by omega)
    rw [absent] at stored
    cases stored

/-- A call goes on without drawing a key or storing one. -/
private theorem idle (kept : KeysKept source initial recordId s (before ++ call :: after))
    (own : stage'.own = call.stage.own ∨ stage'.own = none) (uncreated : call.stage.isCreated = false)
    (uncreated' : stage'.isCreated = false)
    (finds : stage'.foundNone = true → call.stage.foundNone = true ∨ s.stored call.recordId = none)
    (loads : ∀ key, stage' = .loaded key → (s.stored call.recordId).map source.decode = some key) :
    KeysKept source initial recordId s (before ++ { call with stage := stage' } :: after) := by
  have fewer (n : Nat) : drawers (before ++ { call with stage := stage' } :: after) n ≤
      drawers (before ++ call :: after) n := by
    have counts := drawers_replace before after call stage' n
    rcases own with same | none_
    · rw [same] at counts
      omega
    · rw [none_] at counts
      simp only [reduceCtorEq, decide_false, Bool.toNat_false] at counts
      omega
  have same : creators (before ++ { call with stage := stage' } :: after) recordId =
      creators (before ++ call :: after) recordId := by
    have counts := creators_replace recordId before after call stage'
    rw [uncreated, uncreated', Bool.and_false] at counts
    exact counts
  refine ⟨fun n => Nat.le_trans (fewer n) (kept.drawnOnce n),
    fun n new => Nat.eq_zero_of_le_zero (kept.undrawn n new ▸ fewer n), ?_, ?_, ?_⟩
  · intro other member mine found
    rcases Pool.mem_replace call member with rfl | old
    · rcases finds found with before_ | absent
      · exact kept.none_ call (List.mem_append_right _ List.mem_cons_self) mine before_
      · exact kept.initial_none ((congrArg s.stored mine).symm.trans absent)
    · exact kept.none_ other old mine found
  · intro untouched
    obtain ⟨stored, loaded⟩ := kept.untouched (same.symm.trans untouched)
    refine ⟨stored, fun other member mine key found => ?_⟩
    rcases Pool.mem_replace call member with rfl | old
    · have read := loads key found
      rw [show call.recordId = recordId from mine, stored] at read
      exact read
    · exact loaded other old mine key found
  · intro created
    rw [same] at created ⊢
    obtain ⟨n, stored, ⟨creator, member, theirs, stage⟩, loaded⟩ := kept.stored created
    refine ⟨n, stored, ⟨creator, Pool.mem_replace_of_ne member ?_, theirs, stage⟩, ?_⟩
    · rintro rfl
      rw [stage] at uncreated
      cases uncreated
    · intro one other member mine key found
      rcases Pool.mem_replace call member with rfl | old
      · have read := loads key found
        rw [show call.recordId = recordId from mine, stored, Option.map_some, source.decode_encode] at read
        exact (Option.some.inj read).symm
      · exact loaded one other old mine key found

/-- A call draws a key. -/
private theorem draws (kept : KeysKept source initial recordId s (before ++ call :: after))
    (generates : call.stage = .generate) :
    KeysKept source initial recordId { s with drawn := s.drawn + 1 }
      (before ++ { call with stage := .store s.drawn } :: after) := by
  have same : creators (before ++ { call with stage := .store s.drawn } :: after) recordId =
      creators (before ++ call :: after) recordId := by
    have counts := creators_replace recordId before after call (.store s.drawn)
    rw [generates] at counts
    simpa [KeyStage.isCreated] using counts
  have counts (n : Nat) : drawers (before ++ { call with stage := .store s.drawn } :: after) n =
      drawers (before ++ call :: after) n + (decide (s.drawn = n)).toNat := by
    have counts := drawers_replace before after call (.store s.drawn) n
    rw [generates] at counts
    simpa [KeyStage.own] using counts
  refine ⟨fun n => ?_, fun n new => ?_, ?_, ?_, ?_⟩
  · rw [counts]
    by_cases this : s.drawn = n
    · rw [← this, kept.undrawn s.drawn (Nat.le_refl _)]
      have one := Bool.toNat_le (decide (s.drawn = s.drawn))
      omega
    · rw [decide_eq_false this]
      exact kept.drawnOnce n
  · dsimp only at new
    rw [counts, kept.undrawn n (by omega), decide_eq_false (by omega)]
    rfl
  · intro other member mine found
    rcases Pool.mem_replace call member with rfl | old
    · exact kept.none_ call (List.mem_append_right _ List.mem_cons_self) mine (by rw [generates]; rfl)
    · exact kept.none_ other old mine found
  · intro untouched
    obtain ⟨stored, loaded⟩ := kept.untouched (same.symm.trans untouched)
    refine ⟨stored, fun other member mine key found => ?_⟩
    rcases Pool.mem_replace call member with rfl | old
    · cases found
    · exact loaded other old mine key found
  · intro created
    rw [same] at created ⊢
    obtain ⟨n, stored, ⟨creator, member, theirs, stage⟩, loaded⟩ := kept.stored created
    refine ⟨n, stored, ⟨creator, Pool.mem_replace_of_ne member ?_, theirs, stage⟩, ?_⟩
    · rintro rfl
      rw [stage] at generates
      cases generates
    · intro one other member mine key found
      rcases Pool.mem_replace call member with rfl | old
      · cases found
      · exact loaded one other old mine key found

/-- A call stores the key it has drawn. -/
private theorem stores (kept : KeysKept source initial recordId s (before ++ call :: after)) {n : Nat}
    (storing : call.stage = .store n) :
    KeysKept source initial recordId
      { s with stored := update s.stored call.recordId (some (source.encode (source.draw n))) }
      (before ++ { call with stage := .created n } :: after) := by
  have counts (m : Nat) : drawers (before ++ { call with stage := .created n } :: after) m =
      drawers (before ++ call :: after) m := by
    have counts := drawers_replace before after call (.created n) m
    rw [storing] at counts
    simpa [KeyStage.own] using counts
  have created := creators_replace recordId before after call (.created n)
  rw [storing] at created
  simp only [KeyStage.isCreated, Bool.and_false, Bool.and_true, Bool.toNat_false, Nat.add_zero] at created
  have here : call ∈ before ++ call :: after := List.mem_append_right _ List.mem_cons_self
  have absent : call.recordId = recordId → initial recordId = none := fun mine =>
    kept.none_ call here mine (by rw [storing]; rfl)
  refine ⟨fun m => (counts m).symm ▸ kept.drawnOnce m, fun m new => (counts m).trans (kept.undrawn m new),
    ?_, ?_, ?_⟩
  · intro other member mine found
    rcases Pool.mem_replace call member with rfl | old
    · exact absent mine
    · exact kept.none_ other old mine found
  · intro untouched
    have differs : call.recordId ≠ recordId := by
      intro mine
      rw [decide_eq_true mine, Bool.toNat_true] at created
      omega
    rw [decide_eq_false differs, Bool.toNat_false, Nat.add_zero] at created
    obtain ⟨stored, loaded⟩ := kept.untouched (created.symm.trans untouched)
    refine ⟨(update_of_ne (Ne.symm differs) _ _).trans stored, fun other member mine key found => ?_⟩
    rcases Pool.mem_replace call member with rfl | old
    · cases found
    · exact loaded other old mine key found
  · intro some_
    by_cases mine : call.recordId = recordId
    · rw [decide_eq_true mine, Bool.toNat_true] at created
      refine ⟨n, ?_, ⟨_, List.mem_append_right _ List.mem_cons_self, mine, rfl⟩, ?_⟩
      · rw [← mine]
        exact update_self _ _ _
      · intro one other member theirs key found
        rcases Pool.mem_replace call member with rfl | old
        · cases found
        · -- the first key of the record: nothing was there to be loaded before
          have read := (kept.untouched (by omega)).2 other old theirs key found
          rw [absent mine] at read
          cases read
    · rw [decide_eq_false mine, Bool.toNat_false, Nat.add_zero] at created
      rw [created] at some_ ⊢
      obtain ⟨m, stored, ⟨creator, member, theirs, stage⟩, loaded⟩ := kept.stored some_
      refine ⟨m, (update_of_ne (Ne.symm mine) _ _).trans stored,
        ⟨creator, Pool.mem_replace_of_ne member ?_, theirs, stage⟩, ?_⟩
      · rintro rfl
        exact mine theirs
      · intro one other member theirs key found
        rcases Pool.mem_replace call member with rfl | old
        · cases found
        · exact loaded one other old theirs key found

/-- What one step of a call keeps. -/
theorem step (kept : KeysKept source initial recordId s (before ++ call :: after)) (works : Bool) :
    KeysKept source initial recordId (keyRun source s call works).1
      (before ++ (keyRun source s call works).2 :: after) := by
  have fails (stage : call.stage.isCreated = false) :
      KeysKept source initial recordId s (before ++ { call with stage := .failed } :: after) :=
    kept.idle (.inr rfl) stage rfl (fun found => absurd found Bool.false_ne_true) fun key loaded => by cases loaded
  rw [keyRun]
  cases stage : call.stage with
  | load =>
    have uncreated : call.stage.isCreated = false := by rw [stage]; rfl
    cases works with
    | false => exact fails uncreated
    | true =>
      simp only [if_true]
      cases read : s.stored call.recordId with
      | none =>
        refine kept.idle (.inr rfl) uncreated rfl (fun _ => .inr read) fun key loaded => ?_
        cases loaded
      | some bytes =>
        refine kept.idle (.inr rfl) uncreated rfl (fun found => absurd found Bool.false_ne_true)
          fun key loaded => ?_
        rw [read, Option.map_some, KeyStage.loaded.inj loaded]
  | generate => exact kept.draws stage
  | store n =>
    cases works with
    | true => exact kept.stores stage
    | false => exact fails (by rw [stage]; rfl)
  | created n => exact kept
  | loaded key => exact kept
  | failed => exact kept

theorem join {calls : List (KeyCall κ)} (kept : KeysKept source initial recordId s calls) (id : String) :
    KeysKept source initial recordId s (calls ++ [keyCall id]) := by
  have same : creators (calls ++ [keyCall id]) recordId = creators calls recordId := by
    simp [creators, keyCall, KeyStage.isCreated]
  have counts (n : Nat) : drawers (calls ++ [keyCall id]) n = drawers calls n := by
    simp [drawers, keyCall, KeyStage.own]
  have old {other : KeyCall κ} (member : other ∈ calls ++ [keyCall id]) :
      other ∈ calls ∨ other.stage = .load := by
    rcases List.mem_append.mp member with old | new
    · exact .inl old
    · rw [List.mem_singleton.mp new]
      exact .inr rfl
  refine ⟨fun n => (counts n).symm ▸ kept.drawnOnce n, fun n new => (counts n).trans (kept.undrawn n new),
    ?_, ?_, ?_⟩
  · intro other member mine found
    rcases old member with before_ | new
    · exact kept.none_ other before_ mine found
    · rw [new] at found
      cases found
  · intro untouched
    obtain ⟨stored, loaded⟩ := kept.untouched (same.symm.trans untouched)
    refine ⟨stored, fun other member mine key found => ?_⟩
    rcases old member with before_ | new
    · exact loaded other before_ mine key found
    · rw [new] at found
      cases found
  · intro created
    rw [same] at created ⊢
    obtain ⟨n, stored, ⟨creator, member, theirs, stage⟩, loaded⟩ := kept.stored created
    refine ⟨n, stored, ⟨creator, List.mem_append_left _ member, theirs, stage⟩, ?_⟩
    intro one other member mine key found
    rcases old member with before_ | new
    · exact loaded one other before_ mine key found
    · rw [new] at found
      cases found

theorem initially : KeysKept source initial recordId ⟨initial, 0⟩ [] where
  drawnOnce _ := Nat.zero_le _
  undrawn _ _ := rfl
  none_ _ member := absurd member List.not_mem_nil
  untouched _ := ⟨rfl, fun _ member => absurd member List.not_mem_nil⟩
  stored created := absurd created (Nat.lt_irrefl 0)

end KeysKept

/-! ## Runs -/

end MtrxPeer
