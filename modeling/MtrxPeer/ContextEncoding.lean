import Mathlib.Algebra.Order.Group.Nat
import MtrxPeer.ProxyE2ee

/-! Which contexts the encryption tells apart. The associated data separates its
three strings by bars, a chunk's path ends in its number, and the inputs of the
session key and of the room root are plain concatenations. -/
namespace MtrxPeer

/-! ## Joined lists -/

section Joins

variable {α : Type} {bar : α}

/-- Three lists with a bar between them. -/
def joinThree (bar : α) (a b c : List α) : List α := a ++ bar :: (b ++ bar :: c)

private theorem append_bar_inj {a x a' x' : List α} (absent : bar ∉ a) (absent' : bar ∉ a')
    (same : a ++ bar :: x = a' ++ bar :: x') : a = a' ∧ x = x' := by
  rcases List.append_eq_append_iff.mp same with ⟨moved, rfl, tail⟩ | ⟨moved, rfl, tail⟩
  all_goals
    cases moved with
    | nil =>
      obtain ⟨-, rfl⟩ := List.cons.inj tail
      exact ⟨by simp, rfl⟩
    | cons first moved =>
      obtain ⟨rfl, -⟩ := List.cons.inj tail
      simp at absent absent'

/-- A join is read back in one way only if and only if no part has a bar. -/
theorem joinThree_unique_iff (a b c : List α) :
    (∀ a' b' c', joinThree bar a' b' c' = joinThree bar a b c → a' = a ∧ b' = b ∧ c' = c) ↔
      bar ∉ a ∧ bar ∉ b ∧ bar ∉ c := by
  classical
  constructor
  · -- a bar inside a part can be taken for one that separates
    intro unique
    refine ⟨?_, ?_, ?_⟩
    · intro found
      obtain ⟨front, back, rfl⟩ := List.append_of_mem found
      obtain ⟨shorter, -⟩ := unique front (back ++ bar :: b) c (by simp [joinThree])
      simpa using congrArg List.length shorter
    · intro found
      obtain ⟨front, back, rfl⟩ := List.append_of_mem found
      obtain ⟨longer, -⟩ := unique (a ++ bar :: front) back c (by simp [joinThree])
      simpa using congrArg List.length longer
    · intro found
      obtain ⟨front, back, rfl⟩ := List.append_of_mem found
      obtain ⟨-, longer, -⟩ := unique a (b ++ bar :: front) back (by simp [joinThree])
      simpa using congrArg List.length longer
  · rintro ⟨noBarA, noBarB, noBarC⟩ a' b' c' same
    have bars : (joinThree bar a' b' c').count bar = (joinThree bar a b c).count bar := by
      rw [same]
    simp only [joinThree, List.count_append, List.count_cons_self,
      List.count_eq_zero_of_not_mem noBarA, List.count_eq_zero_of_not_mem noBarB,
      List.count_eq_zero_of_not_mem noBarC] at bars
    have noBarA' : bar ∉ a' := List.count_eq_zero.mp (by omega)
    have noBarB' : bar ∉ b' := List.count_eq_zero.mp (by omega)
    obtain ⟨rfl, rest⟩ := append_bar_inj noBarA' noBarA same
    obtain ⟨rfl, rfl⟩ := append_bar_inj noBarB' noBarB rest
    exact ⟨rfl, rfl, rfl⟩

/-- One pair is got from the other by moving a nonempty part over the boundary. -/
def BoundaryMoved (a b a' b' : List α) : Prop :=
  ∃ moved ≠ [], a' = a ++ moved ∧ b = moved ++ b' ∨ a = a' ++ moved ∧ b' = moved ++ b

/-- Two pairs have one concatenation only if they are equal or the boundary moved. -/
theorem append_inj_iff_not_moved (a b a' b' : List α) :
    (a ++ b = a' ++ b' → a = a' ∧ b = b') ↔ ¬ BoundaryMoved a b a' b' := by
  constructor
  · rintro unique ⟨moved, nonempty, ⟨rfl, rfl⟩ | ⟨rfl, rfl⟩⟩
    · obtain ⟨front, -⟩ := unique (by simp)
      exact nonempty (by simpa using front)
    · obtain ⟨front, -⟩ := unique (by simp)
      exact nonempty (by simpa using front)
  · intro still same
    rcases List.append_eq_append_iff.mp same with ⟨moved, front, back⟩ | ⟨moved, front, back⟩
    · by_cases empty : moved = []
      · subst empty
        exact ⟨by simpa using front.symm, by simpa using back⟩
      · exact absurd ⟨moved, empty, .inl ⟨front, back⟩⟩ still
    · by_cases empty : moved = []
      · subst empty
        exact ⟨by simpa using front, by simpa using back.symm⟩
      · exact absurd ⟨moved, empty, .inr ⟨front, back⟩⟩ still

end Joins

/-! ## The associated data -/

/-- The character between the parts of the associated data. -/
def HasBar (text : String) : Prop := '|' ∈ text.toList

private theorem buildAad_eq_iff {reqId path roomId reqId' path' roomId' : String} :
    buildAad reqId' path' roomId' = buildAad reqId path roomId ↔
      joinThree '|' reqId'.toList path'.toList roomId'.toList =
        joinThree '|' reqId.toList path.toList roomId.toList := by
  have text : ∀ a b c : String,
      ("mtrxai-v" ++ toString aadVersion ++ "|" ++ a ++ "|" ++ b ++ "|" ++ c).toList =
        ("mtrxai-v" ++ toString aadVersion ++ "|").toList ++ joinThree '|' a.toList b.toList c.toList := by
    intro a b c
    simp [joinThree, String.toList_append]
  constructor
  · intro same
    have joined := congrArg String.toList (utf8_injective same)
    rw [text, text] at joined
    exact List.append_cancel_left joined
  · intro same
    apply congrArg utf8
    apply String.toList_inj.mp
    rw [text, text, same]

/-- A context shares its associated data with no other if and only if none of
its strings has a bar. -/
theorem buildAad_unique_iff (reqId path roomId : String) :
    (∀ reqId' path' roomId', buildAad reqId' path' roomId' = buildAad reqId path roomId →
        reqId' = reqId ∧ path' = path ∧ roomId' = roomId) ↔
      ¬ HasBar reqId ∧ ¬ HasBar path ∧ ¬ HasBar roomId := by
  rw [HasBar, HasBar, HasBar, ← joinThree_unique_iff]
  constructor
  · intro unique a b c same
    have read := unique (String.ofList a) (String.ofList b) (String.ofList c)
      (buildAad_eq_iff.mpr (by simpa using same))
    simpa [String.ext_iff] using read
  · intro unique reqId' path' roomId' same
    have read := unique _ _ _ (buildAad_eq_iff.mp same)
    simpa [String.toList_inj] using read

/-! ## Chunk paths -/

/-- The path and the number of a chunk, read back from the end of its own path. -/
def readChunkPath (whole : String) : Option (String × Nat) :=
  let backwards := whole.toList.reverse
  let digits := (backwards.takeWhile Char.isDigit).reverse
  let seq := Nat.ofDigitChars 10 digits 0
  let path := (backwards.dropWhile Char.isDigit).reverse
  if Nat.toDigits 10 seq = digits ∧ "#chunk/".toList <:+ path then
    some (String.ofList (path.take (path.length - 7)), seq)
  else none

/-- A path that a chunk with a 32-bit number can have. -/
def isChunkPath (whole : String) : Bool :=
  (readChunkPath whole).any fun read => read.2 < 2 ^ 32

private theorem chunkPath_toList (path : String) (seq : Nat) :
    (chunkPath path seq).toList = path.toList ++ "#chunk/".toList ++ Nat.toDigits 10 seq := by
  simp [chunkPath, String.toList_append]

/-- The digits at the end of a chunk's path are those of its number. -/
private theorem chunkPath_reverse (path : String) (seq : Nat) :
    (chunkPath path seq).toList.reverse.takeWhile Char.isDigit = (Nat.toDigits 10 seq).reverse ∧
      (chunkPath path seq).toList.reverse.dropWhile Char.isDigit =
        (path.toList ++ "#chunk/".toList).reverse := by
  have digits : ∀ c ∈ (Nat.toDigits 10 seq).reverse, c.isDigit = true :=
    fun c member => Nat.isDigit_of_mem_toDigits (by omega) (by omega) (List.mem_reverse.mp member)
  rw [chunkPath_toList, List.reverse_append, List.takeWhile_append_of_pos digits,
    List.dropWhile_append_of_pos digits]
  simp

/-- Reading a chunk's path gives its path and number back, and nothing else reads. -/
theorem readChunkPath_eq_some {whole path : String} {seq : Nat} :
    readChunkPath whole = some (path, seq) ↔ chunkPath path seq = whole := by
  constructor
  · intro read
    simp only [readChunkPath] at read
    split at read
    · rename_i ends
      obtain ⟨canonical, front, marked⟩ := ends
      obtain ⟨rfl, rfl⟩ := Prod.mk.inj (Option.some.inj read)
      apply String.toList_inj.mp
      rw [chunkPath_toList, canonical, ← marked]
      have pieces := congrArg List.reverse
        (List.takeWhile_append_dropWhile (p := Char.isDigit) (l := whole.toList.reverse))
      rw [List.reverse_append, List.reverse_reverse, ← marked] at pieces
      simpa using pieces
    · simp at read
  · rintro rfl
    obtain ⟨digits, front⟩ := chunkPath_reverse path seq
    simp only [readChunkPath, digits, front, List.reverse_reverse, Nat.ofDigitChars_ten_toDigits]
    simp

/-- A chunk's path is that of no other chunk. -/
theorem chunkPath_inj {path path' : String} {seq seq' : Nat}
    (same : chunkPath path seq = chunkPath path' seq') : path = path' ∧ seq = seq' := by
  have read : readChunkPath (chunkPath path seq) = some (path, seq) :=
    readChunkPath_eq_some.mpr rfl
  rw [readChunkPath_eq_some.mpr same.symm] at read
  exact Prod.mk.inj (Option.some.inj read).symm

/-- A whole message's path is that of no chunk if and only if it does not end in
the mark and the digits of a 32-bit number. -/
theorem chunkPath_ne_iff (whole : String) :
    (∀ path seq, seq < 2 ^ 32 → chunkPath path seq ≠ whole) ↔ isChunkPath whole = false := by
  cases found : readChunkPath whole with
  | none =>
    simp only [isChunkPath, found, Option.any_none, iff_true]
    intro path seq _ same
    rw [readChunkPath_eq_some.mpr same] at found
    cases found
  | some read =>
    obtain ⟨path, seq⟩ := read
    have made := readChunkPath_eq_some.mp found
    simp only [isChunkPath, found, Option.any_some, decide_eq_false_iff_not]
    constructor
    · intro differs small
      exact differs path seq small made
    · intro large path' seq' small same
      obtain ⟨-, rfl⟩ := chunkPath_inj (made.trans same.symm)
      exact large small

/-! ## Key derivation inputs -/

/-- What the session key depends on besides the shared secret. -/
def sessionKeyInfo (reqId roomId : String) : Bytes := utf8 reqId ++ utf8 roomId

/-- What the room root key depends on. -/
def roomRootInput (roomSecret roomId : String) : Bytes := utf8 roomSecret ++ utf8 roomId

theorem hkdfSessionKey_info (P : Primitives) (shared : Bytes) (reqId roomId : String) :
    hkdfSessionKey P shared reqId roomId =
      P.sha256 (utf8 "mtrxai-session-key-v1" ++ shared ++ sessionKeyInfo reqId roomId) := by
  simp [hkdfSessionKey, sessionKeyInfo]

theorem deriveRoomRootKey_input (P : Primitives) (roomSecret roomId : String) :
    deriveRoomRootKey P roomSecret roomId =
      P.sha256 (utf8 "mtrxai-room-root-v1" ++ roomRootInput roomSecret roomId) := by
  simp [deriveRoomRootKey, roomRootInput]

private theorem utf8_pair_iff (a b a' b' : String) :
    (utf8 a ++ utf8 b = utf8 a' ++ utf8 b' → a = a' ∧ b = b') ↔
      ¬ BoundaryMoved a.toList b.toList a'.toList b'.toList := by
  rw [← append_inj_iff_not_moved, ← utf8_append, ← utf8_append]
  have joined : utf8 (a ++ b) = utf8 (a' ++ b') ↔ a.toList ++ b.toList = a'.toList ++ b'.toList := by
    constructor
    · intro same
      simpa [String.toList_append] using congrArg String.toList (utf8_injective same)
    · intro same
      have text : a ++ b = a' ++ b' :=
        String.toList_inj.mp (by simpa [String.toList_append] using same)
      rw [text]
  rw [joined, String.toList_inj, String.toList_inj]

/-- When the encodings tell contexts apart: associated data, chunk paths, session
key inputs and room root inputs. -/
theorem contexts_distinct_iff (reqId path roomId whole secret : String) (seq : Nat)
    (reqId' roomId' secret' : String) :
    ((∀ reqId' path' roomId', buildAad reqId' path' roomId' = buildAad reqId path roomId →
        reqId' = reqId ∧ path' = path ∧ roomId' = roomId) ↔
      ¬ HasBar reqId ∧ ¬ HasBar path ∧ ¬ HasBar roomId) ∧
    ((∀ path seq, seq < 2 ^ 32 → chunkPath path seq ≠ whole) ↔ isChunkPath whole = false) ∧
    (∀ path' seq', chunkPath path seq = chunkPath path' seq' → path = path' ∧ seq = seq') ∧
    ((sessionKeyInfo reqId roomId = sessionKeyInfo reqId' roomId' →
        reqId = reqId' ∧ roomId = roomId') ↔
      ¬ BoundaryMoved reqId.toList roomId.toList reqId'.toList roomId'.toList) ∧
    ((roomRootInput secret roomId = roomRootInput secret' roomId' →
        secret = secret' ∧ roomId = roomId') ↔
      ¬ BoundaryMoved secret.toList roomId.toList secret'.toList roomId'.toList) := by
  refine ⟨buildAad_unique_iff reqId path roomId, chunkPath_ne_iff whole, ?_, ?_, ?_⟩
  · intro path' seq' same
    exact chunkPath_inj same
  · exact utf8_pair_iff reqId roomId reqId' roomId'
  · exact utf8_pair_iff secret roomId secret' roomId'

/-- Distinct contexts with one encoding, for each of the four. -/
theorem contexts_collide :
    (("r", "a|b", "c") ≠ ("r|a", "b", "c") ∧ buildAad "r" "a|b" "c" = buildAad "r|a" "b" "c") ∧
      chunkPath "/api/chat" 3 = "/api/chat#chunk/3" ∧
      (("connect_1", "2room") ≠ ("connect_12", "room") ∧
        sessionKeyInfo "connect_1" "2room" = sessionKeyInfo "connect_12" "room") ∧
      (("room:pass", "word") ≠ ("room:", "password") ∧
        roomRootInput "room:pass" "word" = roomRootInput "room:" "password") := by
  refine ⟨⟨by decide, rfl⟩, rfl, ⟨by decide, ?_⟩, ⟨by decide, ?_⟩⟩
  · decide
  · decide

end MtrxPeer
