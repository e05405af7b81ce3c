import MtrxPeer.Bytes
import MtrxPeer.JsonText

/-! The messages peers exchange over WebRTC data channels and libp2p streams,
and their JSON text, whose length the data channel limits. -/
namespace MtrxPeer

structure ProxyAuthProof where
  peerId : String
  timestamp : Nat
  mac : String
  deriving DecidableEq

/-- The catalog a peer announces about itself. `peerInfo` and `gpuHost` are
kept as the JSON they travel as. -/
structure CatalogRecord where
  peerId : String
  models : List Json
  peerInfo : Option Json
  gpuHost : Option Json
  acceptingJobs : Bool
  listenAddrs : List String
  teeCapable : Option Bool
  gpuModel : Option String
  attestationExpiry : Option Nat
  trustLevel : Option String
  providerStaticPk : Option String

/-- The messages of a libp2p stream; the encrypted ones also travel over data
channels. -/
inductive StreamMessage where
  | proxyRequest (reqId path : String) (body : Json)
  | proxyResponse (reqId body : String) (error : Option String)
  | proxyRequestStart (reqId path : String)
  | proxyRequestChunk (reqId : String) (seq : Nat) (chunk : String)
  | proxyRequestEnd (reqId : String)
  | proxyResponseChunk (reqId chunk : String)
  | proxyResponseDone (reqId : String)
  | proxyResponseError (reqId error : String)
  | ping
  | pong
  | catalogSync (record : CatalogRecord)
  | encryptedProxyRequest (reqId path roomId : String)
      (consumerEphemeralPk nonce ciphertext : Bytes) (aadVersion : Nat)
      (auth : Option ProxyAuthProof)
  | encryptedProxyRequestStart (reqId path roomId : String) (consumerEphemeralPk : Bytes)
      (aadVersion : Nat) (auth : Option ProxyAuthProof)
  | encryptedProxyRequestChunk (reqId : String) (seq : Nat) (nonce ciphertext : Bytes)
      (aadVersion : Nat)
  | encryptedProxyRequestEnd (reqId : String)
  | encryptedProxyResponse (reqId : String) (nonce ciphertext : Bytes) (aadVersion : Nat)
      (error : Option String) (stream : Option Bool)
  | encryptedProxyStreamChunk (reqId : String) (seq : Nat) (nonce ciphertext : Bytes)
      (aadVersion : Nat) (done : Bool)
  | proxyAuth (proof : ProxyAuthProof)

/-- The plaintext messages of a data channel. -/
inductive DataChannelMessage where
  | proxyRequest (reqId path : String) (body : Json)
  | proxyRequestStart (reqId path : String)
  | proxyRequestChunk (reqId : String) (seq : Nat) (chunk : String)
  | proxyRequestEnd (reqId : String)
  | proxyResponseChunk (reqId chunk : String)
  | proxyResponseDone (reqId : String)
  | proxyResponseError (reqId error : String)
  | ping
  | pong

/-- The request that a message brings, or brings a part of. -/
def StreamMessage.requestId : StreamMessage → Option String
  | .proxyRequest reqId .. | .proxyRequestStart reqId _ | .proxyRequestChunk reqId .. |
    .proxyRequestEnd reqId | .encryptedProxyRequest reqId .. | .encryptedProxyRequestStart reqId .. |
    .encryptedProxyRequestChunk reqId .. | .encryptedProxyRequestEnd reqId => some reqId
  | _ => none

/-- The second reading of a data-channel text. Both message types are tagged
alike and share these variants with the same fields, so a text that reads as
one of them reads as both, and no other text reads as a `DataChannelMessage`. -/
def StreamMessage.asDataChannel : StreamMessage → Option DataChannelMessage
  | .proxyRequest reqId path body => some (.proxyRequest reqId path body)
  | .proxyRequestStart reqId path => some (.proxyRequestStart reqId path)
  | .proxyRequestChunk reqId seq chunk => some (.proxyRequestChunk reqId seq chunk)
  | .proxyRequestEnd reqId => some (.proxyRequestEnd reqId)
  | .proxyResponseChunk reqId chunk => some (.proxyResponseChunk reqId chunk)
  | .proxyResponseDone reqId => some (.proxyResponseDone reqId)
  | .proxyResponseError reqId error => some (.proxyResponseError reqId error)
  | .ping => some .ping
  | .pong => some .pong
  | _ => none

/-! ## JSON text -/

/-- A `Vec<u8>` is an array of numbers. -/
def bytesJson (bytes : Bytes) : Json := .arr (bytes.map fun byte => .ofNat byte.toNat)

/-- A field that is left out when there is nothing to say. -/
def optionalField (name : String) (value : Option Json) : List (String × Json) :=
  match value with
  | some value => [(name, value)]
  | none => []

def ProxyAuthProof.toJson (proof : ProxyAuthProof) : Json :=
  .obj [("peer_id", .str proof.peerId), ("timestamp", .ofNat proof.timestamp),
    ("mac", .str proof.mac)]

def CatalogRecord.fields (record : CatalogRecord) : List (String × Json) :=
  [("peer_id", .str record.peerId), ("models", .arr record.models)] ++
    optionalField "peer_info" record.peerInfo ++ optionalField "gpu_host" record.gpuHost ++
    [("accepting_jobs", .bool record.acceptingJobs)] ++
    (if record.listenAddrs = [] then []
      else [("listen_addrs", .arr (record.listenAddrs.map .str))]) ++
    optionalField "tee_capable" (record.teeCapable.map .bool) ++
    optionalField "gpu_model" (record.gpuModel.map .str) ++
    optionalField "attestation_expiry" (record.attestationExpiry.map .ofNat) ++
    optionalField "trust_level" (record.trustLevel.map .str) ++
    optionalField "provider_static_pk" (record.providerStaticPk.map .str)

/-- The fields of a message in the order they are written, the tag first. -/
def StreamMessage.fields : StreamMessage → List (String × Json)
  | .proxyRequest reqId path body =>
    [("type", .str "proxyrequest"), ("req_id", .str reqId), ("path", .str path), ("body", body)]
  | .proxyResponse reqId body error =>
    [("type", .str "proxyresponse"), ("req_id", .str reqId), ("body", .str body)] ++
      optionalField "error" (error.map .str)
  | .proxyRequestStart reqId path =>
    [("type", .str "proxyrequeststart"), ("req_id", .str reqId), ("path", .str path)]
  | .proxyRequestChunk reqId seq chunk =>
    [("type", .str "proxyrequestchunk"), ("req_id", .str reqId), ("seq", .ofNat seq),
      ("chunk", .str chunk)]
  | .proxyRequestEnd reqId => [("type", .str "proxyrequestend"), ("req_id", .str reqId)]
  | .proxyResponseChunk reqId chunk =>
    [("type", .str "proxyresponsechunk"), ("req_id", .str reqId), ("chunk", .str chunk)]
  | .proxyResponseDone reqId => [("type", .str "proxyresponsedone"), ("req_id", .str reqId)]
  | .proxyResponseError reqId error =>
    [("type", .str "proxyresponseerror"), ("req_id", .str reqId), ("error", .str error)]
  | .ping => [("type", .str "ping")]
  | .pong => [("type", .str "pong")]
  | .catalogSync record => ("type", .str "catalogsync") :: record.fields
  | .encryptedProxyRequest reqId path roomId pk nonce ciphertext aadVersion auth =>
    [("type", .str "encryptedproxyrequest"), ("req_id", .str reqId), ("path", .str path),
      ("room_id", .str roomId), ("consumer_ephemeral_pk", bytesJson pk),
      ("nonce", bytesJson nonce), ("ciphertext", bytesJson ciphertext),
      ("aad_version", .ofNat aadVersion)] ++ optionalField "auth" (auth.map ProxyAuthProof.toJson)
  | .encryptedProxyRequestStart reqId path roomId pk aadVersion auth =>
    [("type", .str "encryptedproxyrequeststart"), ("req_id", .str reqId), ("path", .str path),
      ("room_id", .str roomId), ("consumer_ephemeral_pk", bytesJson pk),
      ("aad_version", .ofNat aadVersion)] ++ optionalField "auth" (auth.map ProxyAuthProof.toJson)
  | .encryptedProxyRequestChunk reqId seq nonce ciphertext aadVersion =>
    [("type", .str "encryptedproxyrequestchunk"), ("req_id", .str reqId), ("seq", .ofNat seq),
      ("nonce", bytesJson nonce), ("ciphertext", bytesJson ciphertext),
      ("aad_version", .ofNat aadVersion)]
  | .encryptedProxyRequestEnd reqId =>
    [("type", .str "encryptedproxyrequestend"), ("req_id", .str reqId)]
  | .encryptedProxyResponse reqId nonce ciphertext aadVersion error stream =>
    [("type", .str "encryptedproxyresponse"), ("req_id", .str reqId), ("nonce", bytesJson nonce),
      ("ciphertext", bytesJson ciphertext), ("aad_version", .ofNat aadVersion)] ++
      optionalField "error" (error.map .str) ++ optionalField "stream" (stream.map .bool)
  | .encryptedProxyStreamChunk reqId seq nonce ciphertext aadVersion done =>
    [("type", .str "encryptedproxystreamchunk"), ("req_id", .str reqId), ("seq", .ofNat seq),
      ("nonce", bytesJson nonce), ("ciphertext", bytesJson ciphertext),
      ("aad_version", .ofNat aadVersion), ("done", .bool done)]
  | .proxyAuth proof => [("type", .str "proxyauth"), ("proof", proof.toJson)]

/-- `serde_json::to_string` of a message. -/
def StreamMessage.text (msg : StreamMessage) : String := Json.toText (.obj msg.fields)

/-- A data-channel message is written as the stream message it shares its
variant with. -/
def DataChannelMessage.asStream : DataChannelMessage → StreamMessage
  | .proxyRequest reqId path body => .proxyRequest reqId path body
  | .proxyRequestStart reqId path => .proxyRequestStart reqId path
  | .proxyRequestChunk reqId seq chunk => .proxyRequestChunk reqId seq chunk
  | .proxyRequestEnd reqId => .proxyRequestEnd reqId
  | .proxyResponseChunk reqId chunk => .proxyResponseChunk reqId chunk
  | .proxyResponseDone reqId => .proxyResponseDone reqId
  | .proxyResponseError reqId error => .proxyResponseError reqId error
  | .ping => .ping
  | .pong => .pong

@[simp] theorem DataChannelMessage.asDataChannel_asStream (msg : DataChannelMessage) :
    msg.asStream.asDataChannel = some msg := by
  cases msg <;> rfl

/-! ## The limit of a data channel -/

def maxDcWireBytes : Nat := 8 * 1024

/-- Whether a message may be sent in one data-channel text. -/
def wireFits (msg : StreamMessage) : Bool := msg.text.utf8ByteSize ≤ maxDcWireBytes

theorem utf8ByteSize_ofList (text : List Char) :
    (String.ofList text).utf8ByteSize = (text.map Char.utf8Size).sum := by
  induction text with
  | nil => rfl
  | cons c rest ih =>
    have split_ : String.ofList (c :: rest) = String.singleton c ++ String.ofList rest := by
      rw [String.singleton_eq_ofList, ← String.ofList_append]
      rfl
    rw [split_, String.utf8ByteSize_append, String.utf8ByteSize_singleton, ih, List.map_cons,
      List.sum_cons]

/-- The size of a message, counted without building its text. -/
theorem StreamMessage.text_size (msg : StreamMessage) :
    msg.text.utf8ByteSize = ((Json.write (.obj msg.fields)).map Char.utf8Size).sum :=
  utf8ByteSize_ofList _

/-! ## Splitting text -/

/-- The longest start of a text that fits in `room` bytes. -/
def fitting : (room : Nat) → List Char → List Char
  | room, c :: rest => if c.utf8Size ≤ room then c :: fitting (room - c.utf8Size) rest else []
  | _, [] => []

/-- One piece: what fits, or one character when none does. -/
def piece (maxBytes : Nat) (text : List Char) : List Char :=
  match fitting maxBytes text with
  | [] => text.take 1
  | fits => fits

theorem fitting_append (room : Nat) (text : List Char) :
    fitting room text ++ text.drop (fitting room text).length = text := by
  induction text generalizing room with
  | nil => rfl
  | cons c rest ih =>
    unfold fitting
    split
    · simp [ih]
    · rfl

theorem piece_append (maxBytes : Nat) (text : List Char) :
    piece maxBytes text ++ text.drop (piece maxBytes text).length = text := by
  unfold piece
  split
  · cases text <;> simp
  · exact fitting_append maxBytes text

theorem piece_length_pos (maxBytes : Nat) (c : Char) (rest : List Char) :
    0 < (piece maxBytes (c :: rest)).length := by
  unfold piece
  split
  · simp
  · rename_i nonempty
    exact List.length_pos_of_ne_nil nonempty

/-- The loop of `chunk_utf8` over the characters still to be cut. -/
def pieces (maxBytes : Nat) (text : List Char) : List (List Char) :=
  match text with
  | [] => []
  | c :: rest =>
    piece maxBytes (c :: rest) ::
      pieces maxBytes ((c :: rest).drop (piece maxBytes (c :: rest)).length)
termination_by text.length
decreasing_by
  have advances := piece_length_pos maxBytes c rest
  simp only [List.length_drop, List.length_cons]
  omega

/-- `chunk_utf8`: pieces of at most `maxBytes` bytes, cut at characters. -/
def chunkUtf8 (text : String) (maxBytes : Nat) : List String :=
  (pieces maxBytes text.toList).map String.ofList

/-- The pieces of a text put together are the text. -/
theorem pieces_flatten (maxBytes : Nat) (text : List Char) :
    (pieces maxBytes text).flatten = text := by
  fun_induction pieces maxBytes text with
  | case1 => rfl
  | case2 c rest ih => rw [List.flatten_cons, ih, piece_append]

theorem join_ofList (pieces : List (List Char)) :
    String.join (pieces.map String.ofList) = String.ofList pieces.flatten := by
  induction pieces with
  | nil => rfl
  | cons piece rest ih =>
    rw [List.map_cons, String.join_cons, ih, List.flatten_cons, String.ofList_append]

theorem chunkUtf8_join (text : String) (maxBytes : Nat) :
    String.join (chunkUtf8 text maxBytes) = text := by
  rw [chunkUtf8, join_ofList, pieces_flatten, String.ofList_toList]

end MtrxPeer
