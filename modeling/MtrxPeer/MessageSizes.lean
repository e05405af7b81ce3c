import Mathlib.Algebra.Order.BigOperators.Group.List
import MtrxPeer.AnswerStream
import MtrxPeer.JsonReading
import MtrxPeer.Sample
import MtrxPeer.StreamCutting
import MtrxPeer.WebrtcManager

/-! How long the messages of a data channel get. A byte of an array takes up to four characters,
a character of a JSON text at most two once it is written as a string; with these the chunks of
requests and answers stay below the limit. -/
namespace MtrxPeer

/-! ## Sizes of written values -/

/-- The bytes of a value's text. -/
def Json.size (json : Json) : Nat := byteCount json.write

theorem text_size_eq (msg : StreamMessage) : msg.text.utf8ByteSize = (Json.obj msg.fields).size := rfl

/-- The bytes between the quotes of a written string. -/
def escapedSize (text : String) : Nat := byteCount (text.toList.flatMap Json.escapeChar)

/-- No character of the text is escaped. -/
def Unescaped (text : String) : Prop := ∀ c ∈ text.toList, Json.escapeChar c = [c]

instance (text : String) : Decidable (Unescaped text) :=
  List.decidableBAll (fun c => Json.escapeChar c = [c]) text.toList

theorem writeString_size (text : String) : byteCount (Json.writeString text) = escapedSize text + 2 := by
  rw [Json.writeString, byteCount_cons, byteCount_append, byteCount_cons, byteCount_nil, escapedSize,
    show '"'.utf8Size = 1 from rfl]
  omega

@[simp] theorem size_str (text : String) : (Json.str text).size = escapedSize text + 2 := by
  rw [Json.size, Json.write, writeString_size]

theorem escapedSize_unescaped {text : String} (unescaped : Unescaped text) :
    escapedSize text = text.utf8ByteSize := by
  have same : ∀ chars : List Char, (∀ c ∈ chars, Json.escapeChar c = [c]) →
      chars.flatMap Json.escapeChar = chars := by
    intro chars each
    induction chars with
    | nil => rfl
    | cons c rest ih =>
      rw [List.flatMap_cons, each c List.mem_cons_self,
        ih fun d member => each d (List.mem_cons_of_mem c member)]
      rfl
  rw [escapedSize, same _ unescaped, byteCount, String.ofList_toList]

/-- A character that is no control character is escaped with one more at most. -/
private theorem escapeChar_size {c : Char} (printable : Json.Printable c) :
    byteCount (Json.escapeChar c) ≤ 2 * c.utf8Size := by
  have some_ := c.utf8Size_pos
  have form := Json.escapeChar_form c
  generalize Json.escapeChar c = written at form ⊢
  cases form with
  | letter short other plain narrow =>
    have slash : '\\'.utf8Size = 1 := rfl
    rw [byteCount_cons, byteCount_cons, byteCount_nil, narrow, slash]
    omega
  | code control => exact absurd control (Nat.not_lt.mpr printable)
  | itself =>
    rw [byteCount_cons, byteCount_nil]
    omega

/-- A text without control characters at most doubles. -/
theorem escapedSize_printable {text : List Char} (printable : ∀ c ∈ text, Json.Printable c) :
    escapedSize (String.ofList text) ≤ 2 * byteCount text := by
  rw [escapedSize, String.toList_ofList]
  induction text with
  | nil => exact Nat.zero_le _
  | cons c rest ih =>
    have first := escapeChar_size (printable c List.mem_cons_self)
    have others := ih fun d member => printable d (List.mem_cons_of_mem c member)
    rw [List.flatMap_cons, byteCount_append, byteCount_cons]
    omega

private theorem byteCount_digits {text : List Char} (digits : ∀ c ∈ text, c.isDigit = true) :
    byteCount text = text.length := by
  induction text with
  | nil => rfl
  | cons c rest ih =>
    have narrow : c.utf8Size = 1 := by
      have below := (Char.isDigit_iff_toNat.mp (digits c List.mem_cons_self)).2
      rw [Char.utf8Size_eq_one_iff]
      exact Nat.le_trans below (by decide)
    rw [byteCount_cons, narrow, ih fun d member => digits d (List.mem_cons_of_mem c member),
      List.length_cons, Nat.add_comm]

/-- A number below a power of ten has that many digits at most. -/
theorem size_ofNat_le {n k : Nat} (some_ : 0 < k) (small : n < 10 ^ k) : (Json.ofNat n).size ≤ k := by
  have text : (Json.ofNat n).write = n.repr.toList := rfl
  have digits : ∀ c ∈ n.repr.toList, c.isDigit = true := by
    intro c member
    rw [Nat.repr_eq_ofList_toDigits, String.toList_ofList] at member
    exact Nat.isDigit_of_mem_toDigits (by decide) (by decide) member
  rw [Json.size, text, byteCount_digits digits]
  exact (Nat.length_repr_le_iff some_).mpr small

/-- A byte takes three digits and a comma at most. -/
theorem size_bytesJson_le (bytes : Bytes) : (bytesJson bytes).size ≤ 4 * bytes.length + 2 := by
  have items : ∀ bytes : Bytes, byteCount (Json.writeItems (bytes.map fun byte => .ofNat byte.toNat)) ≤
      4 * bytes.length + 1 := by
    intro bytes
    induction bytes with
    | nil => decide
    | cons byte rest ih =>
      have digits : (Json.ofNat byte.toNat).size ≤ 3 :=
        size_ofNat_le (by decide) (Nat.lt_of_lt_of_le byte.toNat_lt (by decide))
      rw [Json.size] at digits
      rw [List.map_cons, Json.writeItems, byteCount_cons, byteCount_append, List.length_cons,
        show ','.utf8Size = 1 from rfl]
      omega
  cases bytes with
  | nil => decide
  | cons byte rest =>
    have digits : (Json.ofNat byte.toNat).size ≤ 3 :=
      size_ofNat_le (by decide) (Nat.lt_of_lt_of_le byte.toNat_lt (by decide))
    have others := items rest
    rw [Json.size] at digits ⊢
    rw [bytesJson, List.map_cons, Json.write, byteCount_cons, byteCount_append, List.length_cons,
      show '['.utf8Size = 1 from rfl]
    omega

/-- The bytes of a field with its colon and its comma. -/
def fieldSize (field : String × Json) : Nat := escapedSize field.1 + field.2.size + 4

private theorem writeFields_size (fields : List (String × Json)) :
    byteCount (Json.writeFields fields) = (fields.map fieldSize).sum + 1 := by
  induction fields with
  | nil => rfl
  | cons field rest ih =>
    obtain ⟨key, value⟩ := field
    rw [Json.writeFields, byteCount_cons, byteCount_append, writeString_size, byteCount_cons,
      byteCount_append, ih, List.map_cons, List.sum_cons,
      show ','.utf8Size = 1 from rfl, show ':'.utf8Size = 1 from rfl]
    simp only [fieldSize, Json.size]
    omega

/-- An object with fields is as long as its fields and one brace: the other stands for a comma. -/
theorem size_obj {fields : List (String × Json)} (some_ : fields ≠ []) :
    (Json.obj fields).size = (fields.map fieldSize).sum + 1 := by
  cases fields with
  | nil => exact absurd rfl some_
  | cons field rest =>
    obtain ⟨key, value⟩ := field
    rw [Json.size, Json.write, byteCount_cons, byteCount_append, writeString_size, byteCount_cons,
      byteCount_append, writeFields_size, List.map_cons, List.sum_cons,
      show '{'.utf8Size = 1 from rfl, show ':'.utf8Size = 1 from rfl]
    simp only [fieldSize, Json.size]
    omega

/-- No value of an object is longer than the object. -/
theorem size_le_obj {fields : List (String × Json)} {key : String} {value : Json}
    (member : (key, value) ∈ fields) : value.size ≤ (Json.obj fields).size := by
  have part : fieldSize (key, value) ≤ (fields.map fieldSize).sum :=
    List.single_le_sum (fun _ _ => Nat.zero_le _) _ (List.mem_map_of_mem member)
  rw [size_obj (List.ne_nil_of_mem member)]
  simp only [fieldSize] at part
  omega

/-! ## Pieces -/

/-- A piece of a JSON text: no longer than allowed, and at most twice that as a string. -/
theorem chunkUtf8_sizes {maxBytes : Nat} (wide : 4 ≤ maxBytes) {body : Json} (valid : body.Valid) :
    ∀ chunk ∈ chunkUtf8 body.toText maxBytes,
      chunk.utf8ByteSize ≤ maxBytes ∧ escapedSize chunk ≤ 2 * maxBytes := by
  intro chunk member
  obtain ⟨part, cut, rfl⟩ := List.mem_map.mp member
  have short := pieces_size wide _ part cut
  have printable : ∀ c ∈ part, Json.Printable c := by
    intro c inside
    have there : c ∈ body.toText.toList := by
      rw [← pieces_flatten maxBytes body.toText.toList]
      exact List.mem_flatten.mpr ⟨part, cut, inside⟩
    rw [Json.toText, String.toList_ofList] at there
    exact Json.write_printable body (Json.writable_of_valid valid) c there
  have doubled := escapedSize_printable printable
  exact ⟨short, by omega⟩

/-! ## Names and keys -/

/-- A name as requests have them: at most 128 bytes, none of them escaped. -/
structure ShortName (text : String) : Prop where
  short : text.utf8ByteSize ≤ 128
  unescaped : Unescaped text

theorem ShortName.size {text : String} (name : ShortName text) : (Json.str text).size ≤ 130 := by
  have short := name.short
  rw [size_str, escapedSize_unescaped name.unescaped]
  omega

/-- The sizes of keys, codes and ciphertexts, and a clock of 64 bits. -/
structure WireSizes (P : Primitives) (answers : Answers) : Prop where
  publicKey : ∀ secret, (P.publicKey secret).length = 32
  mac : ∀ key message, (P.hmacSha256 key message).length = 32
  sealed_ : ∀ key nonce aad plaintext, (P.encrypt key nonce aad plaintext).length = plaintext.length + 16
  nonce : ∀ i, (answers.draws i).nonce.length = 12
  clock : ∀ i, (answers.draws i).unixNow < 2 ^ 64

private theorem hexDigit_size : ∀ n < 16, byteCount (Json.escapeChar (hexDigit n)) = 1 := by decide

theorem hexEncode_size (bytes : Bytes) : escapedSize (hexEncode bytes) = 2 * bytes.length := by
  rw [escapedSize, hexEncode, String.toList_ofList]
  induction bytes with
  | nil => rfl
  | cons byte rest ih =>
    have small := byte.toNat_lt
    have high := hexDigit_size (byte.toNat / 16) (by omega)
    have low := hexDigit_size (byte.toNat % 16) (by omega)
    rw [List.flatMap_cons, List.flatMap_append, byteCount_append, ih, List.flatMap_cons,
      byteCount_append, high, List.flatMap_cons, List.flatMap_nil, List.append_nil, low,
      List.length_cons]
    omega

/-! ## Messages -/

private theorem labels_short :
    (escapedSize "type" ≤ 26 ∧ escapedSize "req_id" ≤ 26 ∧ escapedSize "path" ≤ 26 ∧
      escapedSize "seq" ≤ 26 ∧ escapedSize "chunk" ≤ 26 ∧ escapedSize "room_id" ≤ 26 ∧
      escapedSize "consumer_ephemeral_pk" ≤ 26 ∧ escapedSize "nonce" ≤ 26 ∧
      escapedSize "ciphertext" ≤ 26 ∧ escapedSize "aad_version" ≤ 26 ∧ escapedSize "auth" ≤ 26 ∧
      escapedSize "done" ≤ 26 ∧ escapedSize "stream" ≤ 26 ∧ escapedSize "peer_id" ≤ 26 ∧
      escapedSize "timestamp" ≤ 26 ∧ escapedSize "mac" ≤ 26) ∧
      escapedSize "proxyrequeststart" ≤ 26 ∧ escapedSize "proxyrequestchunk" ≤ 26 ∧
      escapedSize "proxyrequestend" ≤ 26 ∧ escapedSize "encryptedproxyrequeststart" ≤ 26 ∧
      escapedSize "encryptedproxyrequestchunk" ≤ 26 ∧ escapedSize "encryptedproxyrequestend" ≤ 26 ∧
      escapedSize "encryptedproxyresponse" ≤ 26 ∧ escapedSize "encryptedproxystreamchunk" ≤ 26 := by
  decide +kernel

private theorem seq_size (i : Nat) : (Json.ofNat (i % 2 ^ 32)).size ≤ 10 :=
  size_ofNat_le (by decide) (Nat.lt_trans (Nat.mod_lt i (by decide)) (by decide))

private theorem flag_size (flag : Bool) : (Json.bool flag).size ≤ 5 := by
  cases flag <;> decide

/-- A message with fields fits if they do. -/
private theorem wireFits_of_fields {msg : StreamMessage} (some_ : msg.fields ≠ [])
    (small : (msg.fields.map fieldSize).sum < maxDcWireBytes) : wireFits msg = true := by
  rw [wireFits, decide_eq_true_eq, text_size_eq, size_obj some_]
  exact small

/-- Every message of a plaintext request fits. -/
theorem plaintextRequest_fits {reqId path : String} {body : Json} (request : ShortName reqId)
    (target : ShortName path) (valid : body.Valid) :
    ∀ msg ∈ plaintextRequest reqId path body, wireFits msg.asStream = true := by
  have labels := labels_short
  have reqIdSize := request.size
  have pathSize := target.size
  rw [size_str] at reqIdSize pathSize
  intro msg member
  rw [plaintextRequest, List.cons_append, List.mem_cons, List.mem_append, List.mem_mapIdx,
    List.mem_singleton] at member
  rcases member with rfl | ⟨i, below, rfl⟩ | rfl
  · apply wireFits_of_fields (by simp [DataChannelMessage.asStream, StreamMessage.fields])
    simp only [DataChannelMessage.asStream, StreamMessage.fields, List.map_cons, List.map_nil,
      List.sum_cons, List.sum_nil, fieldSize, size_str, maxDcWireBytes]
    omega
  · have chunk := (chunkUtf8_sizes (by decide : 4 ≤ maxDcChunkBytes) valid _ (List.getElem_mem below)).2
    have seq := seq_size i
    apply wireFits_of_fields (by simp [DataChannelMessage.asStream, StreamMessage.fields])
    simp only [DataChannelMessage.asStream, StreamMessage.fields, List.map_cons, List.map_nil,
      List.sum_cons, List.sum_nil, fieldSize, size_str, maxDcWireBytes, maxDcChunkBytes] at chunk ⊢
    omega
  · apply wireFits_of_fields (by simp [DataChannelMessage.asStream, StreamMessage.fields])
    simp only [DataChannelMessage.asStream, StreamMessage.fields, List.map_cons, List.map_nil,
      List.sum_cons, List.sum_nil, fieldSize, size_str, maxDcWireBytes]
    omega

/-- The name of the own peer: up to 7 KiB once it is written. -/
def maxPeerIdBytes : Nat := 7 * 1024

section
variable {P : Primitives} {config : ClientConfig} {answers : Answers}

/-- The proof that a request carries is as long as the peer's name and the two numbers. -/
private theorem proxyAuth_size (sizes : WireSizes P answers) {peerId roomId : String}
    (name : escapedSize peerId ≤ maxPeerIdBytes) (i : Nat) {proof : ProxyAuthProof}
    (made : proxyAuthForRoom P (answers.draws i).unixNow config peerId roomId = some proof) :
    proof.toJson.size ≤ maxPeerIdBytes + 190 := by
  obtain ⟨token, rfl⟩ : ∃ token, proof = buildProxyAuth P (answers.draws i).unixNow token peerId := by
    unfold proxyAuthForRoom at made
    split at made
    · exact ⟨_, (Option.some.inj made).symm⟩
    · split at made
      · exact ⟨_, (Option.some.inj made).symm⟩
      · obtain ⟨token, -, same⟩ := Option.map_eq_some_iff.mp made
        exact ⟨token, same.symm⟩
  have labels := labels_short
  have clock : (Json.ofNat (answers.draws i).unixNow).size ≤ 20 :=
    size_ofNat_le (by decide) (Nat.lt_trans (sizes.clock i) (by decide))
  have mac : escapedSize (computeMac P token peerId (answers.draws i).unixNow) = 64 := by
    rw [computeMac, hexEncode_size, sizes.mac]
  rw [ProxyAuthProof.toJson, size_obj (List.cons_ne_nil _ _)]
  simp only [buildProxyAuth, List.map_cons, List.map_nil, List.sum_cons, List.sum_nil, fieldSize,
    size_str, mac]
  omega

/-- Every message of a chunked encrypted request fits. -/
theorem chunkedRequest_fits (sizes : WireSizes P answers) {peerId reqId path roomId : String}
    {body : Json} (name : escapedSize peerId ≤ maxPeerIdBytes) (request : ShortName reqId)
    (target : ShortName path) (room : ShortName roomId) (valid : body.Valid) (providerPk : Bytes) :
    ∀ msg ∈ chunkedRequest P config answers peerId reqId path body roomId providerPk,
      wireFits msg = true := by
  have labels := labels_short
  have reqIdSize := request.size
  have pathSize := target.size
  have roomSize := room.size
  have version : (Json.ofNat aadVersion).size ≤ 3 := by decide
  rw [size_str] at reqIdSize pathSize roomSize
  intro msg member
  rw [chunkedRequest, List.cons_append, List.mem_cons, List.mem_append, List.mem_mapIdx,
    List.mem_singleton] at member
  rcases member with rfl | ⟨i, below, rfl⟩ | rfl
  · have key := size_bytesJson_le (P.publicKey (answers.draws 1).secret)
    rw [sizes.publicKey] at key
    apply wireFits_of_fields (by simp [StreamMessage.fields])
    cases made : proxyAuthForRoom P (answers.draws 1).unixNow config peerId roomId with
    | none =>
      simp only [StreamMessage.fields, optionalField, Option.map_none, List.append_nil,
        List.map_cons, List.map_nil, List.sum_cons, List.sum_nil, fieldSize, size_str, maxDcWireBytes]
      omega
    | some proof =>
      have auth := proxyAuth_size sizes name 1 made
      simp only [StreamMessage.fields, optionalField, Option.map_some, List.map_append,
        List.sum_append, List.map_cons, List.map_nil, List.sum_cons, List.sum_nil, fieldSize,
        size_str, maxDcWireBytes, maxPeerIdBytes] at auth ⊢
      omega
  · have chunk :=
      (chunkUtf8_sizes (by decide : 4 ≤ maxE2eePlaintextChunkBytes) valid _ (List.getElem_mem below)).1
    have nonce := size_bytesJson_le (answers.draws (2 + i)).nonce
    have seq := seq_size i
    have sealed_ := size_bytesJson_le (encryptProxyRequestChunk P (answers.draws 1).secret providerPk
      roomId reqId path (i % 2 ^ 32) (answers.draws (2 + i)).nonce
      (utf8 (chunkUtf8 body.toText maxE2eePlaintextChunkBytes)[i])).ciphertext
    rw [sizes.nonce] at nonce
    rw [encryptProxyRequestChunk, encryptPayload, sizes.sealed_, utf8_length] at sealed_
    apply wireFits_of_fields (by simp [StreamMessage.fields])
    simp only [StreamMessage.fields, encryptProxyRequestChunk, encryptPayload, List.map_cons,
      List.map_nil, List.sum_cons, List.sum_nil, fieldSize, size_str, maxDcWireBytes,
      maxE2eePlaintextChunkBytes] at chunk sealed_ ⊢
    omega
  · apply wireFits_of_fields (by simp [StreamMessage.fields])
    simp only [StreamMessage.fields, List.map_cons, List.map_nil, List.sum_cons, List.sum_nil,
      fieldSize, size_str, maxDcWireBytes]
    omega

/-- The acknowledgement of a response stream fits. -/
theorem streamAck_fits {reqId : String} (request : ShortName reqId) {version : Nat}
    (byte : version < 256) :
    wireFits (.encryptedProxyResponse reqId [] [] version none (some true)) = true := by
  have labels := labels_short
  have reqIdSize := request.size
  have number : (Json.ofNat version).size ≤ 3 :=
    size_ofNat_le (by decide) (Nat.lt_of_lt_of_le byte (by decide))
  have empty : (bytesJson []).size ≤ 2 := by decide
  have flag := flag_size true
  rw [size_str] at reqIdSize
  apply wireFits_of_fields (by simp [StreamMessage.fields])
  simp only [StreamMessage.fields, optionalField, Option.map_none, Option.map_some, List.append_nil,
    List.map_append, List.sum_append, List.map_cons, List.map_nil, List.sum_cons, List.sum_nil,
    fieldSize, size_str, maxDcWireBytes]
  omega

/-- A chunk of a response stream fits. -/
theorem streamChunk_fits {reqId : String} (request : ShortName reqId) {version : Nat}
    (byte : version < 256) {nonce ciphertext : Bytes} (short : nonce.length = 12)
    (sealed_ : ciphertext.length ≤ streamChunkBytes + 16) (seq : Nat) (done : Bool) :
    wireFits (.encryptedProxyStreamChunk reqId (seq % 2 ^ 32) nonce ciphertext version done) = true := by
  have labels := labels_short
  have reqIdSize := request.size
  have number : (Json.ofNat version).size ≤ 3 :=
    size_ofNat_le (by decide) (Nat.lt_of_lt_of_le byte (by decide))
  have nonceSize := size_bytesJson_le nonce
  have ciphertextSize := size_bytesJson_le ciphertext
  have seqSize := seq_size seq
  have flag := flag_size done
  rw [size_str] at reqIdSize
  rw [streamChunkBytes] at sealed_
  apply wireFits_of_fields (by simp [StreamMessage.fields])
  simp only [StreamMessage.fields, List.map_cons, List.map_nil, List.sum_cons, List.sum_nil,
    fieldSize, size_str, maxDcWireBytes]
  omega

end

/-! ## Nothing is refused -/

section
variable {host : Host} {config : ClientConfig} {answers : Answers}

private theorem nextStreamChunk_size (pending : List Char) :
    byteCount (nextStreamChunk streamChunkBytes pending) ≤ streamChunkBytes := by
  rw [nextStreamChunk]
  split
  · exact fitting_size streamChunkBytes pending
  · rename_i short
    exact Nat.le_of_not_le short

private theorem sealText_length (sizes : WireSizes host.crypto answers) {roomId : String} {pk : Bytes}
    (able : CanSeal host.crypto config roomId pk) (reqId path : String) (nonce : Bytes) (seq : Nat)
    (text : String) :
    (sealText host.crypto config reqId path roomId pk nonce seq text).length = text.utf8ByteSize + 16 := by
  obtain ⟨secret, found⟩ := Option.isSome_iff_exists.mp able.2
  simp only [sealText, encryptProxyChunk, able.1, found, ne_eq, not_true_eq_false, if_false,
    encryptPayload, sizes.sealed_, utf8_length]

/-- On an open channel no chunk of a response is refused. -/
theorem flushEncryptedResponseChunks_alive (sizes : WireSizes host.crypto answers)
    (channel : answers.channelOpen = true) {roomId reqId path : String} {pk : Bytes}
    (able : CanSeal host.crypto config roomId pk) (request : ShortName reqId) {version : Nat}
    (byte : version < 256) (done : Bool) (fuel : Nat) {flush : Flush} (alive : flush.alive = true) :
    (flushEncryptedResponseChunks host config answers roomId reqId path pk version done fuel
      flush).alive = true := by
  induction fuel generalizing flush with
  | zero => exact alive
  | succ fuel ih =>
    unfold flushEncryptedResponseChunks
    split
    · exact alive
    · split
      · have chunk := nextStreamChunk_size flush.pending
        have length := sealText_length sizes able reqId path (answers.draws flush.seq).nonce
          (flush.seq % 2 ^ 32) (String.ofList (nextStreamChunk streamChunkBytes flush.pending))
        simp only [encryptProxyChunk_eq able]
        rw [if_pos]
        · exact ih rfl
        · rw [canSend, channel, Bool.true_and]
          apply streamChunk_fits request byte (sizes.nonce flush.seq)
          rw [length]
          exact Nat.add_le_add_right chunk 16
      · exact alive

private theorem sendInOrder_all (channel : answers.channelOpen = true) {msgs : List StreamMessage}
    (fits : ∀ msg ∈ msgs, wireFits msg = true) : sendInOrder answers msgs = (msgs, true) := by
  induction msgs with
  | nil => rfl
  | cons msg rest ih =>
    rw [sendInOrder, canSend, channel, fits msg List.mem_cons_self, Bool.and_true, if_pos rfl,
      ih fun other member => fits other (List.mem_cons_of_mem msg member)]

/-- On an open channel, with names of at most 128 bytes and an own name of at most 7 KiB, every
message of a request and of a response stream fits, so none is refused. -/
theorem messages_fit_the_wire (sizes : WireSizes host.crypto answers)
    (channel : answers.channelOpen = true) {peerId reqId path roomId : String} {body : Json}
    (name : escapedSize peerId ≤ maxPeerIdBytes) (request : ShortName reqId) (target : ShortName path)
    (room : ShortName roomId) (valid : body.Valid) (catalogPk : Option String) :
    (∀ msg ∈ plaintextRequest reqId path body, wireFits msg.asStream = true) ∧
      (∀ providerPk, ∀ msg ∈ chunkedRequest host.crypto config answers peerId reqId path body roomId
        providerPk, wireFits msg = true) ∧
      (∀ providerPk, resolveProviderStaticPublic host.crypto config roomId catalogPk = .ok providerPk →
        (roomSecretForProxy host.crypto config roomId).isSome →
          ∃ sent kept, sendEncryptedProxyRequest host config answers peerId reqId path body roomId
            catalogPk = (sent, .ok kept) ∧ ∀ msg ∈ sent, wireFits msg = true) ∧
      ∀ (pk : Bytes) (version : Nat), CanSeal host.crypto config roomId pk → version < 256 →
        wireFits (.encryptedProxyResponse reqId [] [] version none (some true)) = true ∧
          ∀ (done : Bool) (fuel : Nat) (flush : Flush), flush.alive = true →
            (flushEncryptedResponseChunks host config answers roomId reqId path pk version done fuel
              flush).alive = true := by
  have chunked := fun providerPk =>
    @chunkedRequest_fits host.crypto config answers sizes _ _ _ _ _ name request target room valid providerPk
  refine ⟨plaintextRequest_fits request target valid, chunked, ?_, ?_⟩
  · intro providerPk resolved known
    obtain ⟨secret, found⟩ := Option.isSome_iff_exists.mp known
    simp only [sendEncryptedProxyRequest, resolved, encryptProxyRequest, found]
    split
    · rename_i whole
      exact ⟨_, _, rfl, by simpa using whole⟩
    · rw [sendInOrder_all channel (chunked providerPk)]
      exact ⟨_, _, rfl, chunked providerPk⟩
  · intro pk version able byte
    refine ⟨streamAck_fits request byte, ?_⟩
    intro done fuel flush alive
    exact flushEncryptedResponseChunks_alive sizes channel able request byte done fuel alive

end

/-- Primitives with the sizes of the real ones, and nothing else. -/
private def sizedPrimitives : Primitives where
  sha256 _ := List.replicate 32 0
  hmacSha256 _ _ := List.replicate 32 0
  publicKey _ := List.replicate 32 0
  diffieHellman _ _ := List.replicate 32 0
  encrypt _ _ _ plaintext := plaintext ++ List.replicate 16 0
  decrypt _ _ _ ciphertext := some (ciphertext.take (ciphertext.length - 16))

private def sizedHost : Host := { sampleHost true false with crypto := sizedPrimitives }

private theorem sizedPrimitives_sizes : WireSizes sizedPrimitives sampleAnswers where
  publicKey _ := rfl
  mac _ _ := rfl
  sealed_ _ _ _ plaintext := by simp [sizedPrimitives]
  nonce i := by simp [sampleAnswers]
  clock i := by simp [sampleAnswers]

private theorem sampleName_short : escapedSize "me" ≤ maxPeerIdBytes := by
  have two : escapedSize "me" = 2 := by decide
  rw [two, maxPeerIdBytes]
  omega

theorem messages_fit_the_wire_sample :
    (∀ msg ∈ plaintextRequest "1" "/api/chat" (sampleBody "llama3"), wireFits msg.asStream = true) ∧
      (∀ providerPk, ∀ msg ∈ chunkedRequest sizedPrimitives sampleConfig sampleAnswers "me" "1"
        "/api/chat" (sampleBody "llama3") "c" providerPk, wireFits msg = true) ∧
      (∀ providerPk, resolveProviderStaticPublic sizedPrimitives sampleConfig "c" none = .ok providerPk →
        (roomSecretForProxy sizedPrimitives sampleConfig "c").isSome →
          ∃ sent kept, sendEncryptedProxyRequest sizedHost sampleConfig sampleAnswers "me" "1" "/api/chat"
            (sampleBody "llama3") "c" none = (sent, .ok kept) ∧ ∀ msg ∈ sent, wireFits msg = true) ∧
      ∀ (pk : Bytes) (version : Nat), CanSeal sizedPrimitives sampleConfig "c" pk → version < 256 →
        wireFits (.encryptedProxyResponse "1" [] [] version none (some true)) = true ∧
          ∀ (done : Bool) (fuel : Nat) (flush : Flush), flush.alive = true →
            (flushEncryptedResponseChunks sizedHost sampleConfig sampleAnswers "c" "1" "/api/chat" pk
              version done fuel flush).alive = true :=
  @messages_fit_the_wire sizedHost sampleConfig sampleAnswers sizedPrimitives_sizes rfl "me" "1"
    "/api/chat" "c" (sampleBody "llama3")
    sampleName_short ⟨by decide, by decide⟩ ⟨by decide, by decide⟩
    ⟨by decide, by decide⟩ (by simp [sampleBody, Json.KeysSorted]) none

/-- A name of some letters. -/
private def letters (count : Nat) : String := String.ofList (List.replicate count 'n')

private theorem letters_size (count : Nat) : escapedSize (letters count) = count := by
  rw [escapedSize, letters, String.toList_ofList]
  induction count with
  | zero => rfl
  | succ count ih =>
    have one : byteCount (Json.escapeChar 'n') = 1 := by decide
    rw [List.replicate_succ, List.flatMap_cons, byteCount_append, ih, one, Nat.add_comm]

/-- A message with the proof of a long name does not fit. -/
private theorem letters_unfit {msg : StreamMessage} {now : Nat} {mac : String}
    (carries : ("auth", ProxyAuthProof.toJson ⟨letters 9000, now, mac⟩) ∈ msg.fields) :
    wireFits msg = false := by
  have name : (Json.str (letters 9000)).size ≤ (ProxyAuthProof.toJson ⟨letters 9000, now, mac⟩).size :=
    size_le_obj List.mem_cons_self
  have whole : (ProxyAuthProof.toJson ⟨letters 9000, now, mac⟩).size ≤ (Json.obj msg.fields).size :=
    size_le_obj carries
  rw [size_str, letters_size] at name
  rw [wireFits, text_size_eq, maxDcWireBytes]
  exact decide_eq_false (by omega)

/-- Under a long name no encrypted request goes out, short as its other names are. -/
theorem long_name_sends_nothing :
    sendEncryptedProxyRequest sizedHost sampleConfig sampleAnswers (letters 9000) "1" "/api/chat"
        (sampleBody "llama3") "c" none = ([], .error "data channel message not sent") ∧
      ShortName "1" ∧ ShortName "/api/chat" ∧ ShortName "c" := by
  refine ⟨?_, ⟨by decide, by decide⟩, ⟨by decide, by decide⟩, ⟨by decide, by decide⟩⟩
  have whole : ∀ ciphertext : Bytes, wireFits (.encryptedProxyRequest "1" "/api/chat" "c"
      (sizedPrimitives.publicKey (sampleAnswers.draws 0).secret) (sampleAnswers.draws 0).nonce ciphertext
      aadVersion (proxyAuthForRoom sizedPrimitives (sampleAnswers.draws 0).unixNow sampleConfig
        (letters 9000) "c")) = false :=
    fun ciphertext => @letters_unfit _ 1000 (computeMac sizedPrimitives "c:pw" (letters 9000) 1000)
      (List.mem_append_right _ List.mem_cons_self)
  have start : wireFits (.encryptedProxyRequestStart "1" "/api/chat" "c"
      (sizedPrimitives.publicKey (sampleAnswers.draws 1).secret) aadVersion
      (proxyAuthForRoom sizedPrimitives (sampleAnswers.draws 1).unixNow sampleConfig (letters 9000)
        "c")) = false :=
    @letters_unfit _ 1000 (computeMac sizedPrimitives "c:pw" (letters 9000) 1000)
      (List.mem_append_right _ List.mem_cons_self)
  have known : roomSecretForProxy sizedPrimitives sampleConfig "c" = some "c:pw" := rfl
  have resolved : resolveProviderStaticPublic sizedPrimitives sampleConfig "c" none =
      .ok (List.replicate 32 0) := rfl
  have crypto : sizedHost.crypto = sizedPrimitives := rfl
  have sends : encryptProxyRequest sizedPrimitives sampleConfig (sampleAnswers.draws 0) (letters 9000) "1"
      "/api/chat" (sampleBody "llama3") "c" (List.replicate 32 0) = .ok (.encryptedProxyRequest "1"
        "/api/chat" "c" (sizedPrimitives.publicKey (sampleAnswers.draws 0).secret)
        (sampleAnswers.draws 0).nonce (utf8 (sampleBody "llama3").toText ++ List.replicate 16 0) aadVersion
        (proxyAuthForRoom sizedPrimitives (sampleAnswers.draws 0).unixNow sampleConfig (letters 9000) "c"),
      (sampleAnswers.draws 0).secret) := by
    rw [encryptProxyRequest, known]
    rfl
  simp only [sendEncryptedProxyRequest, crypto, resolved, sends, whole, Bool.false_eq_true, if_false]
  rw [chunkedRequest, List.cons_append, sendInOrder, canSend, start, Bool.and_false]
  rfl

end MtrxPeer
