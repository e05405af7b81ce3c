import MtrxPeer.E2eeRoundTrip
import MtrxPeer.Sample
import MtrxPeer.Served

/-! The chunks of an encrypted response as an honest provider makes them, and what
its consumer reads in each. -/
namespace MtrxPeer

/-- The two ends of a request can read each other. -/
structure SharedKeys (host : Host) (consumer provider : ClientConfig) (roomId : String)
    (pk : Bytes) : Prop where
  agreement : host.crypto.Agreement
  opens : host.crypto.Opens
  secret : ∃ secret, roomSecretForProxy host.crypto consumer roomId = some secret ∧
    roomSecretForProxy host.crypto provider roomId = some secret
  source : ProviderKeyFrom host.crypto consumer provider roomId pk

/-- The chunks of a response, as a provider seals them: the texts in order, numbered
from zero, the last one marked. -/
structure SealedStream (P : Primitives) (provider : ClientConfig) (reqId path roomId : String)
    (ephemeralPk : Bytes) where
  texts : List String
  nonempty : texts ≠ []
  chunk : Nat → EncryptedStreamChunkData
  numbered : ∀ i, (chunk i).seq = i
  last : ∀ i, (chunk i).done = decide (i + 1 = texts.length)
  long : ∀ i, (chunk i).nonce.length = 12
  isSealed : ∀ i (bound : i < texts.length),
    encryptProxyChunk P provider roomId reqId path i ephemeralPk (chunk i).nonce (utf8 texts[i]) =
      .ok ⟨(chunk i).nonce, (chunk i).ciphertext⟩

variable {host : Host} {consumer provider : ClientConfig} {reqId path roomId : String}
  {ephemeral pk : Bytes}

/-- The consumer that asked opens each chunk to its text. -/
theorem SealedStream.opened (keys : SharedKeys host consumer provider roomId pk)
    (stream : SealedStream host.crypto provider reqId path roomId (host.crypto.publicKey ephemeral))
    (i : Nat) (bound : i < stream.texts.length) :
    decryptProxyChunk host consumer reqId path i roomId ephemeral pk (stream.chunk i).nonce
      (stream.chunk i).ciphertext = .ok stream.texts[i] := by
  obtain ⟨secret, mine, theirs⟩ := keys.secret
  obtain ⟨payload, made, opened⟩ := response_chunk_round_trip keys.agreement keys.opens mine theirs
    keys.source ephemeral (stream.long i) reqId path i stream.texts[i]
  obtain rfl : (⟨(stream.chunk i).nonce, (stream.chunk i).ciphertext⟩ : EncryptedPayload) = payload :=
    Except.ok.inj ((stream.isSealed i bound).symm.trans made)
  exact opened

/-- What a provider needs to seal chunks for a consumer. -/
def CanSeal (P : Primitives) (provider : ClientConfig) (roomId : String) (ephemeralPk : Bytes) : Prop :=
  ephemeralPk.length = 32 ∧ (providerStaticSecret P provider roomId).isSome

/-- The ciphertext of a chunk. -/
def sealText (P : Primitives) (provider : ClientConfig) (reqId path roomId : String)
    (ephemeralPk nonce : Bytes) (seq : Nat) (text : String) : Bytes :=
  match encryptProxyChunk P provider roomId reqId path seq ephemeralPk nonce (utf8 text) with
  | .ok payload => payload.ciphertext
  | .error _ => []

section Sealing

variable {P : Primitives} {nonce ephemeralPk : Bytes} {seq : Nat} {text : String}

theorem encryptProxyChunk_eq (able : CanSeal P provider roomId ephemeralPk) :
    encryptProxyChunk P provider roomId reqId path seq ephemeralPk nonce (utf8 text) =
      .ok ⟨nonce, sealText P provider reqId path roomId ephemeralPk nonce seq text⟩ := by
  obtain ⟨secret, theirs⟩ := Option.isSome_iff_exists.mp able.2
  simp [sealText, encryptProxyChunk, able.1, theirs, encryptPayload]

/-- Nothing is sealed without the key and the room's secret. -/
theorem encryptProxyChunk_unable (unable : ¬ CanSeal P provider roomId ephemeralPk) (plain : Bytes) :
    ∃ error, encryptProxyChunk P provider roomId reqId path seq ephemeralPk nonce plain =
      .error error := by
  unfold encryptProxyChunk
  by_cases key : ephemeralPk.length = 32
  · rw [if_neg (not_not.mpr key)]
    cases theirs : providerStaticSecret P provider roomId with
    | none => exact ⟨_, rfl⟩
    | some secret => exact absurd ⟨key, by rw [theirs]; rfl⟩ unable
  · exact ⟨_, if_pos key⟩

/-- A sealed chunk has one text. -/
theorem encryptProxyChunk_inj (opens : P.Opens) {payload : EncryptedPayload} {text' : String}
    (made : encryptProxyChunk P provider roomId reqId path seq ephemeralPk nonce (utf8 text) =
      .ok payload)
    (made' : encryptProxyChunk P provider roomId reqId path seq ephemeralPk nonce (utf8 text') =
      .ok payload) : text = text' := by
  unfold encryptProxyChunk at made made'
  split at made
  · cases made
  · rename_i key
    rw [if_neg key] at made'
    cases theirs : providerStaticSecret P provider roomId with
    | none =>
      rw [theirs] at made
      cases made
    | some secret =>
      rw [theirs] at made made'
      have same := congrArg EncryptedPayload.ciphertext
        (Except.ok.inj (made'.trans made.symm))
      refine utf8_injective (Option.some.inj ?_)
      rw [← opens (deriveSessionKey P secret ephemeralPk reqId roomId) nonce
          (buildAad reqId (chunkPath path seq) roomId) (utf8 text),
        ← opens _ _ _ (utf8 text')]
      exact congrArg _ same.symm

end Sealing

theorem SharedKeys.canSeal (keys : SharedKeys host consumer provider roomId pk) (ephemeral : Bytes) :
    CanSeal host.crypto provider roomId (host.crypto.publicKey ephemeral) := by
  obtain ⟨secret, -, theirs⟩ := keys.secret
  exact ⟨keys.agreement.length ephemeral, by simp [providerStaticSecret, theirs]⟩

/-- A provider can seal any texts. -/
def SealedStream.ofTexts {P : Primitives} {ephemeralPk : Bytes}
    (able : CanSeal P provider roomId ephemeralPk) (reqId path : String) (texts : List String)
    (nonempty : texts ≠ []) (nonce : Nat → Bytes) (long : ∀ i, (nonce i).length = 12) :
    SealedStream P provider reqId path roomId ephemeralPk where
  texts := texts
  nonempty := nonempty
  chunk i := ⟨i, nonce i, sealText P provider reqId path roomId ephemeralPk (nonce i) i
    (texts.getD i ""), i + 1 = texts.length⟩
  numbered _ := rfl
  last _ := rfl
  long := long
  isSealed i bound := by
    have text : texts.getD i "" = texts[i] := by simp [bound]
    rw [text]
    exact encryptProxyChunk_eq able

/-- The message that carries a chunk. -/
def SealedStream.message {P : Primitives} {ephemeralPk : Bytes}
    (stream : SealedStream P provider reqId path roomId ephemeralPk) (version i : Nat) :
    StreamMessage :=
  .encryptedProxyStreamChunk reqId (stream.chunk i).seq (stream.chunk i).nonce
    (stream.chunk i).ciphertext version (stream.chunk i).done

/-- The text of a whole response. -/
def SealedStream.text {P : Primitives} {ephemeralPk : Bytes}
    (stream : SealedStream P provider reqId path roomId ephemeralPk) : String :=
  String.join stream.texts

/-- The keys of two members of one cluster. -/
theorem sampleKeys : SharedKeys (sampleHost true false) sampleConfig sampleConfig "c"
    (Primitives.transparent.publicKey (roomStaticSecret .transparent
      (deriveRoomRootKey .transparent "c:pw" "c"))) := by
  have mine : roomSecretForProxy .transparent sampleConfig "c" = some "c:pw" := by decide
  refine ⟨Primitives.transparent_agreement, Primitives.transparent_ideal.opens,
    ⟨"c:pw", mine, mine⟩, .derived ?_⟩
  decide

end MtrxPeer
