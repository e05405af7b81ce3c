import MtrxPeer.JsonRoundTrip
import MtrxPeer.Sample

/-! The two ends of an encrypted request understand each other. Whatever the key
stores held before, both ends use the keys derived from the room, and each of the
four directions opens to what was sealed. -/
namespace MtrxPeer

/-! ## Advertised keys -/

private theorem hexDigit_value : ∀ n < 16, hexValue (hexDigit n) = some n ∧
    isWhitespace (hexDigit n) = false := by
  decide

/-- `hex::decode` inverts `hex::encode`. -/
theorem hexDecode_hexEncode (bytes : Bytes) : hexDecode (hexEncode bytes) = some bytes := by
  simp only [hexDecode, hexEncode, String.toList_ofList]
  induction bytes with
  | nil => rfl
  | cons byte rest ih =>
    have high := (hexDigit_value (byte.toNat / 16) (by have := byte.toNat_lt; omega)).1
    have low := (hexDigit_value (byte.toNat % 16) (Nat.mod_lt _ (by omega))).1
    have whole : UInt8.ofNat (byte.toNat / 16 * 16 + byte.toNat % 16) = byte := by
      rw [Nat.div_add_mod']
      exact UInt8.ofNat_toNat
    simp only [List.flatMap_cons, List.cons_append, List.nil_append, hexDecode.pairs, high, low, ih]
    exact congrArg (fun first => some (first :: rest)) whole

private theorem trim_hexEncode (bytes : Bytes) : trim (hexEncode bytes) = hexEncode bytes := by
  have plain : ∀ c ∈ (hexEncode bytes).toList, isWhitespace c = false := by
    intro c member
    simp only [hexEncode, String.toList_ofList, List.mem_flatMap, List.mem_cons,
      List.not_mem_nil, or_false] at member
    obtain ⟨byte, -, rfl | rfl⟩ := member
    · exact (hexDigit_value _ (by have := byte.toNat_lt; omega)).2
    · exact (hexDigit_value _ (Nat.mod_lt _ (by omega))).2
  have keep : ∀ text : List Char, (∀ c ∈ text, isWhitespace c = false) →
      text.dropWhile isWhitespace = text := by
    intro text none
    cases text with
    | nil => rfl
    | cons c rest => simp [none c List.mem_cons_self]
  rw [trim, keep _ plain, keep _ fun c member => plain c (List.mem_reverse.mp member)]
  simp

/-! ## The key store -/

structure RoomStaticKeys where
  publicKey : Bytes
  secretKey : Bytes
  deriving DecidableEq

/-- The stored keys by room: the public key before the secret one. -/
abbrev RoomKeyStore := String → Option Bytes

def deriveStaticKeypairFromRoomRoot (P : Primitives) (roomRoot : Bytes) : RoomStaticKeys :=
  ⟨P.publicKey (roomStaticSecret P roomRoot), roomStaticSecret P roomRoot⟩

/-- Stored keys are used if they are the derived ones; any others are overwritten. -/
def loadRoomStaticKeypair (P : Primitives) (store : RoomKeyStore) (roomId : String)
    (roomRoot : Bytes) : RoomStaticKeys × RoomKeyStore :=
  let derived := deriveStaticKeypairFromRoomRoot P roomRoot
  let overwritten := Function.update store roomId (some (derived.publicKey ++ derived.secretKey))
  match store roomId with
  | some stored =>
    if stored.length = 64 ∧ (⟨stored.take 32, stored.drop 32⟩ : RoomStaticKeys) = derived then
      (⟨stored.take 32, stored.drop 32⟩, store)
    else (derived, overwritten)
  | none => (derived, overwritten)

/-- The keys of a room depend on its root only. -/
theorem loadRoomStaticKeypair_keys (P : Primitives) (store : RoomKeyStore) (roomId : String)
    (roomRoot : Bytes) :
    (loadRoomStaticKeypair P store roomId roomRoot).1 =
      deriveStaticKeypairFromRoomRoot P roomRoot := by
  unfold loadRoomStaticKeypair
  cases store roomId with
  | none => rfl
  | some stored =>
    dsimp only
    split_ifs with current
    · exact current.2
    · rfl

/-- The keys of a room as a process with a configuration and a store has them. -/
def roomKeys (P : Primitives) (config : ClientConfig) (store : RoomKeyStore) (roomId : String) :
    Option RoomStaticKeys :=
  (roomSecretForProxy P config roomId).map fun secret =>
    (loadRoomStaticKeypair P store roomId (deriveRoomRootKey P secret roomId)).1

theorem roomKeys_eq (P : Primitives) (config : ClientConfig) (store : RoomKeyStore)
    (roomId : String) :
    roomKeys P config store roomId =
      (providerStaticSecret P config roomId).map fun secret => ⟨P.publicKey secret, secret⟩ := by
  simp [roomKeys, providerStaticSecret, Option.map_map, Function.comp_def,
    loadRoomStaticKeypair_keys, deriveStaticKeypairFromRoomRoot]

/-- Where a consumer can have the provider's static public key from. -/
inductive ProviderKeyFrom (P : Primitives) (consumer provider : ClientConfig) (roomId : String)
    (pk : Bytes) : Prop where
  /-- Derived from the room, with no usable key in the catalog. -/
  | derived (resolved : resolveProviderStaticPublic P consumer roomId none = .ok pk)
  /-- Loaded through the consumer's own key store. -/
  | stored (store : RoomKeyStore) (keys : RoomStaticKeys)
      (loaded : roomKeys P consumer store roomId = some keys) (same : pk = keys.publicKey)
  /-- Advertised in hexadecimal by the provider, whatever its store holds. -/
  | advertised (store : RoomKeyStore) (keys : RoomStaticKeys)
      (loaded : roomKeys P provider store roomId = some keys)
      (resolved : resolveProviderStaticPublic P consumer roomId
        (some (hexEncode keys.publicKey)) = .ok pk)

variable {host : Host} {consumer provider : ClientConfig} {roomId secret : String} {pk : Bytes}

/-- All three sources give one key, that of the room. -/
theorem ProviderKeyFrom.eq {P : Primitives} (agreement : P.Agreement)
    (mine : roomSecretForProxy P consumer roomId = some secret)
    (theirs : roomSecretForProxy P provider roomId = some secret)
    (source : ProviderKeyFrom P consumer provider roomId pk) :
    pk = P.publicKey (roomStaticSecret P (deriveRoomRootKey P secret roomId)) := by
  cases source with
  | derived resolved =>
    simp only [resolveProviderStaticPublic, Option.bind_none, providerStaticPublicKey,
      providerStaticSecret, mine, Option.map_some] at resolved
    exact (Except.ok.inj resolved).symm
  | stored store keys loaded same =>
    simp only [roomKeys_eq, providerStaticSecret, mine, Option.map_some] at loaded
    rw [same, ← Option.some.inj loaded]
  | advertised store keys loaded resolved =>
    simp only [roomKeys_eq, providerStaticSecret, theirs, Option.map_some] at loaded
    obtain rfl := Option.some.inj loaded
    simp only [resolveProviderStaticPublic, Option.bind_some, trim_hexEncode, hexDecode_hexEncode,
      agreement.length, if_true] at resolved
    exact (Except.ok.inj resolved).symm

/-! ## Opening what was sealed -/

/-- An envelope opens under the key and the context it was made with. -/
theorem decryptPayload_sealed {P : Primitives} (opens : P.Opens) (sessionKey : Bytes)
    (reqId path roomId : String) {nonce : Bytes} (long : nonce.length = 12) (plaintext : Bytes) :
    decryptPayload P sessionKey reqId path roomId
      ⟨nonce, P.encrypt sessionKey nonce (buildAad reqId path roomId) plaintext⟩ = .ok plaintext := by
  simp [decryptPayload, long, opens sessionKey nonce]

private theorem ok_bind {α β : Type} (a : α) (f : α → Except String β) :
    ((.ok a : Except String α) >>= f) = f a := rfl

@[simp] theorem decodeText_utf8 (host : Host) (text : String) :
    decodeText host (utf8 text) = .ok text := by
  simp [decodeText]

/-- Both ends derive one session key. -/
theorem sessionKeys_agree {P : Primitives} (agreement : P.Agreement) (ephemeral static : Bytes)
    (reqId roomId : String) :
    deriveSessionKeyConsumer P ephemeral (P.publicKey static) reqId roomId =
      deriveSessionKey P static (P.publicKey ephemeral) reqId roomId := by
  rw [deriveSessionKeyConsumer, deriveSessionKey, agreement.agrees]

/-! ## The four directions -/

/-- The provider's session key is the one the consumer derives. -/
private theorem inboundSessionKey_eq (agreement : host.crypto.Agreement)
    (theirs : roomSecretForProxy host.crypto provider roomId = some secret) (ephemeral : Bytes)
    (reqId : String) :
    inboundSessionKey host.crypto provider roomId reqId (host.crypto.publicKey ephemeral) =
      .ok (deriveSessionKeyConsumer host.crypto ephemeral (host.crypto.publicKey
        (roomStaticSecret host.crypto (deriveRoomRootKey host.crypto secret roomId))) reqId roomId) := by
  simp [inboundSessionKey, agreement.length, providerStaticSecret, theirs,
    sessionKeys_agree agreement]

section Directions

variable (agreement : host.crypto.Agreement) (opens : host.crypto.Opens)
  (mine : roomSecretForProxy host.crypto consumer roomId = some secret)
  (theirs : roomSecretForProxy host.crypto provider roomId = some secret)
  (source : ProviderKeyFrom host.crypto consumer provider roomId pk)

include agreement opens mine theirs source

/-- A whole request is recovered. -/
theorem request_round_trip (draw : Draw) (long : draw.nonce.length = 12)
    (peerId reqId path : String) {body : Json} (valid : body.Valid)
    (deep : body.depth < Json.recursionLimit) :
    ∃ ephemeralPk nonce ciphertext auth,
      encryptProxyRequest host.crypto consumer draw peerId reqId path body roomId pk =
        .ok (.encryptedProxyRequest reqId path roomId ephemeralPk nonce ciphertext aadVersion auth,
          draw.secret) ∧
      decryptInboundRequest host provider roomId reqId path ephemeralPk nonce ciphertext =
        .ok body := by
  obtain rfl := source.eq agreement mine theirs
  refine ⟨_, _, _, _, by rw [encryptProxyRequest, mine], ?_⟩
  simp only [decryptInboundRequest, inboundSessionKey_eq agreement theirs, encryptPayload, ok_bind,
    decryptPayload_sealed opens _ reqId path roomId long, fromUtf8_utf8, Option.bind_some,
    Json.fromText_toText body valid deep]

/-- A chunk of a request is recovered. -/
theorem request_chunk_round_trip (ephemeral : Bytes) {nonce : Bytes} (long : nonce.length = 12)
    (reqId path : String) (seq : Nat) (text : String) :
    decryptInboundRequestChunk host provider roomId reqId path seq
        (host.crypto.publicKey ephemeral) nonce
        (encryptProxyRequestChunk host.crypto ephemeral pk roomId reqId path seq nonce
          (utf8 text)).ciphertext = .ok text := by
  obtain rfl := source.eq agreement mine theirs
  simp only [decryptInboundRequestChunk, inboundSessionKey_eq agreement theirs,
    encryptProxyRequestChunk, encryptPayload, ok_bind,
    decryptPayload_sealed opens _ reqId _ roomId long, decodeText_utf8]

/-- A whole response is recovered. -/
theorem response_round_trip (ephemeral : Bytes) {nonce : Bytes} (long : nonce.length = 12)
    (reqId path text : String) :
    ∃ payload, encryptOutboundResponse host.crypto provider roomId reqId path
        (host.crypto.publicKey ephemeral) nonce (utf8 text) = .ok payload ∧
      decryptProxyResponse host consumer reqId path roomId ephemeral pk payload none = .ok text := by
  obtain rfl := source.eq agreement mine theirs
  refine ⟨_, by rw [encryptOutboundResponse, providerStaticSecret, theirs, Option.map_some], ?_⟩
  simp only [decryptProxyResponse, mine, Option.elim_some, sessionKeys_agree agreement,
    encryptPayload, ok_bind, decryptPayload_sealed opens _ reqId _ roomId long, decodeText_utf8]

/-- A chunk of a response is recovered. -/
theorem response_chunk_round_trip (ephemeral : Bytes) {nonce : Bytes} (long : nonce.length = 12)
    (reqId path : String) (seq : Nat) (text : String) :
    ∃ payload, encryptProxyChunk host.crypto provider roomId reqId path seq
        (host.crypto.publicKey ephemeral) nonce (utf8 text) = .ok payload ∧
      decryptProxyChunk host consumer reqId path seq roomId ephemeral pk payload.nonce
        payload.ciphertext = .ok text := by
  obtain rfl := source.eq agreement mine theirs
  refine ⟨_, by
    rw [encryptProxyChunk, if_neg (by simp [agreement.length]), providerStaticSecret, theirs,
      Option.map_some], ?_⟩
  simp only [decryptProxyChunk, mine, Option.elim_some, sessionKeys_agree agreement,
    encryptPayload, ok_bind, decryptPayload_sealed opens _ reqId _ roomId long, decodeText_utf8]

end Directions

/-- The two ends recover what the other sealed, in all four directions, and the
provider's keys do not depend on its store. -/
structure RoundTrips (host : Host) (consumer provider : ClientConfig) (roomId : String)
    (pk : Bytes) : Prop where
  keys : ∀ store, (roomKeys host.crypto provider store roomId).map RoomStaticKeys.secretKey =
    providerStaticSecret host.crypto provider roomId
  request : ∀ (draw : Draw) (peerId reqId path : String) (body : Json), draw.nonce.length = 12 →
    body.Valid → body.depth < Json.recursionLimit →
    ∃ ephemeralPk nonce ciphertext auth,
      encryptProxyRequest host.crypto consumer draw peerId reqId path body roomId pk =
        .ok (.encryptedProxyRequest reqId path roomId ephemeralPk nonce ciphertext aadVersion auth,
          draw.secret) ∧
      decryptInboundRequest host provider roomId reqId path ephemeralPk nonce ciphertext = .ok body
  requestChunk : ∀ (ephemeral nonce : Bytes) (reqId path : String) (seq : Nat) (text : String),
    nonce.length = 12 →
    decryptInboundRequestChunk host provider roomId reqId path seq
      (host.crypto.publicKey ephemeral) nonce
      (encryptProxyRequestChunk host.crypto ephemeral pk roomId reqId path seq nonce
        (utf8 text)).ciphertext = .ok text
  response : ∀ (ephemeral nonce : Bytes) (reqId path text : String), nonce.length = 12 →
    ∃ payload, encryptOutboundResponse host.crypto provider roomId reqId path
        (host.crypto.publicKey ephemeral) nonce (utf8 text) = .ok payload ∧
      decryptProxyResponse host consumer reqId path roomId ephemeral pk payload none = .ok text
  responseChunk : ∀ (ephemeral nonce : Bytes) (reqId path : String) (seq : Nat) (text : String),
    nonce.length = 12 →
    ∃ payload, encryptProxyChunk host.crypto provider roomId reqId path seq
        (host.crypto.publicKey ephemeral) nonce (utf8 text) = .ok payload ∧
      decryptProxyChunk host consumer reqId path seq roomId ephemeral pk payload.nonce
        payload.ciphertext = .ok text

end MtrxPeer
