import MtrxPeer.Bytes

/-! Cryptographic primitives as a program finds them in its libraries, and the
laws of an ideal authenticated encryption and key agreement. -/
namespace MtrxPeer

/-- A hash, a MAC, a Diffie-Hellman group and an authenticated cipher. -/
structure Primitives where
  sha256 : Bytes → Bytes
  hmacSha256 (key message : Bytes) : Bytes
  /-- The public key of a secret. -/
  publicKey (secret : Bytes) : Bytes
  diffieHellman (secret theirPublic : Bytes) : Bytes
  /-- Encryption of a plaintext under a key, a nonce and associated data. -/
  encrypt (key nonce aad plaintext : Bytes) : Bytes
  decrypt (key nonce aad ciphertext : Bytes) : Option Bytes

namespace Primitives

variable (P : Primitives)

/-- The two sides of a key agreement compute one secret, and public keys have
the size of an X25519 point. -/
structure Agreement : Prop where
  agrees : ∀ a b, P.diffieHellman a (P.publicKey b) = P.diffieHellman b (P.publicKey a)
  length : ∀ secret, (P.publicKey secret).length = 32

/-- Decryption undoes encryption. -/
def Opens : Prop :=
  ∀ key nonce aad plaintext, P.decrypt key nonce aad (P.encrypt key nonce aad plaintext) = some plaintext

/-- An ideal cipher: a ciphertext opens only to what was encrypted, and
determines the key, the nonce and the associated data it was made under. -/
structure Ideal : Prop where
  opens : P.Opens
  authentic : ∀ {key nonce aad ciphertext plaintext},
    P.decrypt key nonce aad ciphertext = some plaintext →
      ciphertext = P.encrypt key nonce aad plaintext
  binding : ∀ {key nonce aad plaintext key' nonce' aad' plaintext'},
    P.encrypt key nonce aad plaintext = P.encrypt key' nonce' aad' plaintext' →
      key = key' ∧ nonce = nonce' ∧ aad = aad'

variable {P}

/-- An ideal ciphertext opens only under what it was made with. -/
theorem Ideal.decrypt_encrypt (ideal : P.Ideal) {key nonce aad key' nonce' aad' plaintext opened : Bytes}
    (ran : P.decrypt key nonce aad (P.encrypt key' nonce' aad' plaintext) = some opened) :
    key = key' ∧ nonce = nonce' ∧ aad = aad' ∧ opened = plaintext := by
  obtain ⟨rfl, rfl, rfl⟩ := ideal.binding (ideal.authentic ran)
  rw [ideal.opens] at ran
  exact ⟨rfl, rfl, rfl, (Option.some.inj ran).symm⟩

/-! ## A transparent instance -/

/-- A byte string as a self-delimiting one: a mark before each byte, and one
that ends it. -/
def frame : Bytes → Bytes
  | [] => [0]
  | byte :: rest => 1 :: byte :: frame rest

theorem frame_append_inj {a b x y : Bytes} (same : frame a ++ x = frame b ++ y) :
    a = b ∧ x = y := by
  induction a generalizing b with
  | nil =>
    cases b with
    | nil => simpa [frame] using same
    | cons c b => simp [frame] at same
  | cons c a ih =>
    cases b with
    | nil => simp [frame] at same
    | cons d b =>
      simp only [frame, List.cons_append, List.cons.injEq, true_and] at same
      obtain ⟨rfl, rest⟩ := same
      obtain ⟨rfl, rfl⟩ := ih rest
      exact ⟨rfl, rfl⟩

/-- Primitives that hide nothing: the laws are consistent, and examples run. -/
def transparent : Primitives where
  sha256 bytes := bytes
  hmacSha256 key message := frame key ++ message
  publicKey secret := (secret ++ List.replicate 32 0).take 32
  diffieHellman secret theirPublic :=
    List.zipWith (· + ·) ((secret ++ List.replicate 32 0).take 32) theirPublic
  encrypt key nonce aad plaintext := frame key ++ (frame nonce ++ (frame aad ++ plaintext))
  decrypt key nonce aad ciphertext :=
    let head := frame key ++ (frame nonce ++ frame aad)
    if head.isPrefixOf ciphertext then some (ciphertext.drop head.length) else none

theorem transparent_agreement : transparent.Agreement where
  agrees a b := List.zipWith_comm_of_comm fun x y => UInt8.add_comm x y
  length secret := by simp [transparent]

theorem transparent_ideal : transparent.Ideal where
  opens key nonce aad plaintext := by
    have starts : (frame key ++ (frame nonce ++ frame aad)).isPrefixOf
        (frame key ++ (frame nonce ++ (frame aad ++ plaintext))) = true := by
      rw [List.isPrefixOf_iff_prefix]
      exact ⟨plaintext, by simp⟩
    have ends : (frame key ++ (frame nonce ++ (frame aad ++ plaintext))).drop
        (frame key ++ (frame nonce ++ frame aad)).length = plaintext := by
      rw [show frame key ++ (frame nonce ++ (frame aad ++ plaintext)) =
        (frame key ++ (frame nonce ++ frame aad)) ++ plaintext by simp]
      exact List.drop_left
    simp only [transparent, starts, ↓reduceIte, ends]
  authentic := by
    intro key nonce aad ciphertext plaintext ran
    simp only [transparent] at ran ⊢
    split at ran
    · rename_i starts
      obtain ⟨tail, rfl⟩ := List.isPrefixOf_iff_prefix.mp starts
      rw [List.drop_left] at ran
      obtain rfl := Option.some.inj ran
      simp
    · simp at ran
  binding := by
    intro key nonce aad plaintext key' nonce' aad' plaintext' same
    obtain ⟨sameKey, rest⟩ := frame_append_inj same
    obtain ⟨sameNonce, rest⟩ := frame_append_inj rest
    exact ⟨sameKey, sameNonce, (frame_append_inj rest).1⟩

end Primitives

/-! ## Who encrypted what -/

/-- One encryption: everything that went into it, and who made it. -/
structure Sealing (ρ : Type) where
  key : Bytes
  nonce : Bytes
  aad : Bytes
  plaintext : Bytes
  maker : ρ

/-- The ciphertext of a sealing. -/
def Sealing.ciphertext (P : Primitives) (s : Sealing ρ) : Bytes :=
  P.encrypt s.key s.nonce s.aad s.plaintext

/-- Nobody outside `ledger` has made this ciphertext: it opens under a key of
`keys` only if a sealing of the ledger made it. -/
def Unforged (P : Primitives) (keys : Bytes → Prop) (ledger : List (Sealing ρ))
    (nonce ciphertext : Bytes) : Prop :=
  ∀ key aad plaintext, keys key → P.decrypt key nonce aad ciphertext = some plaintext →
    ∃ s ∈ ledger, s.ciphertext P = ciphertext

/-- What opens under a guarded key is a sealing of the ledger, made under that
key and associated data. -/
theorem Unforged.opened {P : Primitives} (ideal : P.Ideal) {keys : Bytes → Prop}
    {ledger : List (Sealing ρ)} {key nonce aad ciphertext plaintext : Bytes}
    (unforged : Unforged P keys ledger nonce ciphertext) (guarded : keys key)
    (ran : P.decrypt key nonce aad ciphertext = some plaintext) :
    ∃ s ∈ ledger, s.key = key ∧ s.nonce = nonce ∧ s.aad = aad ∧ s.plaintext = plaintext := by
  obtain ⟨s, member, made⟩ := unforged key aad plaintext guarded ran
  rw [← made, Sealing.ciphertext] at ran
  obtain ⟨sameKey, sameNonce, sameAad, samePlain⟩ := ideal.decrypt_encrypt ran
  exact ⟨s, member, sameKey.symm, sameNonce.symm, sameAad.symm, samePlain.symm⟩

end MtrxPeer
