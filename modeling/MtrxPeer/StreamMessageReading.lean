import MtrxPeer.JsonReading
import MtrxPeer.Wire

/-! Reading a stream message of its JSON text. A message whose numbers fit their types is read
back as it was written, unless it is nested deeper than the reader goes. -/
namespace MtrxPeer

open Json (normal)

/-- What the protocol crate reads the JSON of its types as: the JSON it would write for them. -/
structure ProtocolTypes where
  peerInfo : Json → Option Json
  gpuHost : Json → Option Json

/-! ## Fields -/

/-- A number of so many bits: a `u8`, a `u32` or a `u64`. -/
def natOfBits (bits : Nat) (json : Json) : Option Nat :=
  json.asU64.bind fun n => if n < 2 ^ bits then some n else none

/-- A `Vec<u8>`. -/
def readBytes (json : Json) : Option Bytes :=
  json.asArray.bind fun items => items.mapM fun item => (natOfBits 8 item).map UInt8.ofNat

/-- A field that may be missing or null. -/
def readOptional {α : Type} (read : Json → Option α) : Option Json → Option (Option α)
  | none => some none
  | some .null => some none
  | some value => (read value).map some

def ProxyAuthProof.ofJson (json : Json) : Option ProxyAuthProof := do
  let peerId ← (json.get "peer_id").bind Json.asStr
  let timestamp ← (json.get "timestamp").bind (natOfBits 64)
  let mac ← (json.get "mac").bind Json.asStr
  return ⟨peerId, timestamp, mac⟩

/-- The strings of an array. -/
def readStrings (json : Json) : Option (List String) :=
  json.asArray.bind fun items => items.mapM Json.asStr

/-- A list that may be missing. -/
def readDefaultStrings : Option Json → Option (List String)
  | none => some []
  | some value => readStrings value

section
variable (types : ProtocolTypes) (field : String → Option Json)

def CatalogRecord.ofFields : Option CatalogRecord := do
  let peerId ← (field "peer_id").bind Json.asStr
  let models ← (field "models").bind Json.asArray
  let peerInfo ← readOptional types.peerInfo (field "peer_info")
  let gpuHost ← readOptional types.gpuHost (field "gpu_host")
  let acceptingJobs ← (field "accepting_jobs").bind Json.asBool
  let listenAddrs ← readDefaultStrings (field "listen_addrs")
  let teeCapable ← readOptional Json.asBool (field "tee_capable")
  let gpuModel ← readOptional Json.asStr (field "gpu_model")
  let attestationExpiry ← readOptional (natOfBits 64) (field "attestation_expiry")
  let trustLevel ← readOptional Json.asStr (field "trust_level")
  let providerStaticPk ← readOptional Json.asStr (field "provider_static_pk")
  return ⟨peerId, models, peerInfo, gpuHost, acceptingJobs, listenAddrs, teeCapable, gpuModel,
    attestationExpiry, trustLevel, providerStaticPk⟩

def textField (key : String) : Option String := (field key).bind Json.asStr

def bytesField (key : String) : Option Bytes := (field key).bind readBytes

def seqField : Option Nat := (field "seq").bind (natOfBits 32)

def aadVersionField : Option Nat := (field "aad_version").bind (natOfBits 8)

def authField : Option (Option ProxyAuthProof) := readOptional ProxyAuthProof.ofJson (field "auth")

def readEncryptedProxyRequest : Option StreamMessage := do
  let reqId ← textField field "req_id"
  let path ← textField field "path"
  let roomId ← textField field "room_id"
  let consumerEphemeralPk ← bytesField field "consumer_ephemeral_pk"
  let nonce ← bytesField field "nonce"
  let ciphertext ← bytesField field "ciphertext"
  let aadVersion ← aadVersionField field
  let auth ← authField field
  return .encryptedProxyRequest reqId path roomId consumerEphemeralPk nonce ciphertext aadVersion auth

def readEncryptedProxyRequestStart : Option StreamMessage := do
  let reqId ← textField field "req_id"
  let path ← textField field "path"
  let roomId ← textField field "room_id"
  let consumerEphemeralPk ← bytesField field "consumer_ephemeral_pk"
  let aadVersion ← aadVersionField field
  let auth ← authField field
  return .encryptedProxyRequestStart reqId path roomId consumerEphemeralPk aadVersion auth

def readEncryptedProxyRequestChunk : Option StreamMessage := do
  let reqId ← textField field "req_id"
  let seq ← seqField field
  let nonce ← bytesField field "nonce"
  let ciphertext ← bytesField field "ciphertext"
  let aadVersion ← aadVersionField field
  return .encryptedProxyRequestChunk reqId seq nonce ciphertext aadVersion

def readEncryptedProxyResponse : Option StreamMessage := do
  let reqId ← textField field "req_id"
  let nonce ← bytesField field "nonce"
  let ciphertext ← bytesField field "ciphertext"
  let aadVersion ← aadVersionField field
  let error ← readOptional Json.asStr (field "error")
  let stream ← readOptional Json.asBool (field "stream")
  return .encryptedProxyResponse reqId nonce ciphertext aadVersion error stream

def readEncryptedProxyStreamChunk : Option StreamMessage := do
  let reqId ← textField field "req_id"
  let seq ← seqField field
  let nonce ← bytesField field "nonce"
  let ciphertext ← bytesField field "ciphertext"
  let aadVersion ← aadVersionField field
  let done ← (field "done").bind Json.asBool
  return .encryptedProxyStreamChunk reqId seq nonce ciphertext aadVersion done

/-- The fields of one variant, by its tag. -/
def StreamMessage.ofTagged (tag : String) : Option StreamMessage :=
  match tag with
  | "proxyrequest" => do
    return .proxyRequest (← textField field "req_id") (← textField field "path") (← field "body")
  | "proxyresponse" => do
    return .proxyResponse (← textField field "req_id") (← textField field "body")
      (← readOptional Json.asStr (field "error"))
  | "proxyrequeststart" => do
    return .proxyRequestStart (← textField field "req_id") (← textField field "path")
  | "proxyrequestchunk" => do
    return .proxyRequestChunk (← textField field "req_id") (← seqField field) (← textField field "chunk")
  | "proxyrequestend" => do return .proxyRequestEnd (← textField field "req_id")
  | "proxyresponsechunk" => do
    return .proxyResponseChunk (← textField field "req_id") (← textField field "chunk")
  | "proxyresponsedone" => do return .proxyResponseDone (← textField field "req_id")
  | "proxyresponseerror" => do
    return .proxyResponseError (← textField field "req_id") (← textField field "error")
  | "ping" => some .ping
  | "pong" => some .pong
  | "catalogsync" => do return .catalogSync (← CatalogRecord.ofFields types field)
  | "encryptedproxyrequest" => readEncryptedProxyRequest field
  | "encryptedproxyrequeststart" => readEncryptedProxyRequestStart field
  | "encryptedproxyrequestchunk" => readEncryptedProxyRequestChunk field
  | "encryptedproxyrequestend" => do return .encryptedProxyRequestEnd (← textField field "req_id")
  | "encryptedproxyresponse" => readEncryptedProxyResponse field
  | "encryptedproxystreamchunk" => readEncryptedProxyStreamChunk field
  | "proxyauth" => do return .proxyAuth (← (field "proof").bind ProxyAuthProof.ofJson)
  | _ => none

def StreamMessage.ofFields : Option StreamMessage :=
  ((field "type").bind Json.asStr).bind (StreamMessage.ofTagged types field)

end

/-- `serde_json::from_slice` for a message, of a text. -/
def StreamMessage.ofText (types : ProtocolTypes) (text : String) : Option StreamMessage :=
  match Json.fromText text with
  | some (.obj fields) => StreamMessage.ofFields types (List.lookup · fields)
  | _ => none

/-! ## Values of their types -/

section
variable (types : ProtocolTypes)

/-- The numbers fit their types, the listed models are JSON values, and the values of the
protocol crate are read back of what it writes for them. -/
structure CatalogRecord.WellTyped (record : CatalogRecord) : Prop where
  models : Json.Valid.ValidItems record.models
  peerInfo : ∀ info ∈ record.peerInfo,
    info.Writable ∧ info.normal ≠ .null ∧ types.peerInfo info.normal = some info
  gpuHost : ∀ host ∈ record.gpuHost,
    host.Writable ∧ host.normal ≠ .null ∧ types.gpuHost host.normal = some host
  attestationExpiry : ∀ expiry ∈ record.attestationExpiry, expiry < 2 ^ 64

/-- The numbers of a message fit their types, and what it carries are JSON values. -/
def StreamMessage.WellTyped : StreamMessage → Prop
  | .proxyRequest _ _ body => body.Valid
  | .proxyRequestChunk _ seq _ => seq < 2 ^ 32
  | .catalogSync record => record.WellTyped types
  | .encryptedProxyRequest _ _ _ _ _ _ aadVersion auth =>
    aadVersion < 256 ∧ ∀ proof ∈ auth, proof.timestamp < 2 ^ 64
  | .encryptedProxyRequestStart _ _ _ _ aadVersion auth =>
    aadVersion < 256 ∧ ∀ proof ∈ auth, proof.timestamp < 2 ^ 64
  | .encryptedProxyRequestChunk _ seq _ _ aadVersion => seq < 2 ^ 32 ∧ aadVersion < 256
  | .encryptedProxyResponse _ _ _ aadVersion _ _ => aadVersion < 256
  | .encryptedProxyStreamChunk _ seq _ _ aadVersion _ => seq < 2 ^ 32 ∧ aadVersion < 256
  | .proxyAuth proof => proof.timestamp < 2 ^ 64
  | _ => True

end

/-! ## Received fields -/

private theorem insertField_keys_perm {name : String} {fields : List (String × Json)}
    (fresh : name ∉ fields.map Prod.fst) (value : Json) :
    ((Json.insertField name value fields).map Prod.fst).Perm (name :: fields.map Prod.fst) := by
  induction fields with
  | nil => exact .refl _
  | cons field rest ih =>
    obtain ⟨key, other⟩ := field
    obtain ⟨differs, later⟩ := not_or.mp (mt List.mem_cons.mpr fresh)
    simp only [Json.insertField, if_neg differs]
    split
    · exact .refl _
    · rw [List.map_cons, List.map_cons]
      exact ((ih later).cons key).trans (.swap name key _)

/-- Entering fields with different names into a map leaves each to be found. -/
theorem lookup_enterFields {fields done : List (String × Json)}
    (apart : ((done ++ fields).map Prod.fst).Nodup) (key : String) :
    (Json.enterFields done fields).lookup key = (done.lookup key).or (fields.lookup key) := by
  induction fields generalizing done with
  | nil => simp [Json.enterFields]
  | cons field rest ih =>
    obtain ⟨name, value⟩ := field
    have moved : Json.enterFields done ((name, value) :: rest) =
        Json.enterFields (Json.insertField name value done) rest := rfl
    have keys : ((Json.insertField name value done).map Prod.fst).Perm (name :: done.map Prod.fst) := by
      have fresh : name ∉ done.map Prod.fst := by
        rw [List.map_append, List.map_cons] at apart
        intro member
        exact (List.nodup_append.mp apart).2.2 name member name List.mem_cons_self rfl
      exact insertField_keys_perm fresh value
    have still : ((Json.insertField name value done ++ rest).map Prod.fst).Nodup := by
      rw [List.map_append]
      apply ((keys.append_right (rest.map Prod.fst)).nodup_iff).mpr
      rw [List.map_append, List.map_cons] at apart
      exact (List.perm_middle.nodup_iff).mp apart
    rw [moved, ih still]
    by_cases same : key = name
    · have none_ : done.lookup name = none := by
        rw [List.lookup_eq_none_iff]
        intro field member
        rw [List.map_append, List.map_cons] at apart
        have other := (List.nodup_append.mp apart).2.2 field.1 (List.mem_map_of_mem member) name
          List.mem_cons_self
        simpa using other.symm
      rw [same, Json.lookup_insertField_self, none_]
      simp
    · have differs : (key == name) = false := beq_eq_false_iff_ne.mpr same
      rw [Json.lookup_insertField_of_ne same, List.lookup_cons, differs]

theorem lookup_normalFields (key : String) (fields : List (String × Json)) :
    (normal.normalFields fields).lookup key = (fields.lookup key).map normal := by
  induction fields with
  | nil => rfl
  | cons field rest ih =>
    obtain ⟨name, value⟩ := field
    rw [normal.normalFields, List.lookup_cons, List.lookup_cons, ih]
    split <;> rfl

private theorem normalFields_keys (fields : List (String × Json)) :
    (normal.normalFields fields).map Prod.fst = fields.map Prod.fst := by
  induction fields with
  | nil => rfl
  | cons field rest ih =>
    obtain ⟨name, value⟩ := field
    rw [normal.normalFields, List.map_cons, List.map_cons, ih]

/-- Of an object whose names differ each field is found, its value as it is read. -/
theorem get_normal {fields : List (String × Json)} (apart : (fields.map Prod.fst).Nodup)
    (key : String) : (Json.obj fields).normal.get key = (fields.lookup key).map normal := by
  have names : (([] ++ normal.normalFields fields).map Prod.fst).Nodup := by
    rwa [List.nil_append, normalFields_keys]
  rw [normal, Json.get, lookup_enterFields names, lookup_normalFields]
  rfl

private theorem natural_valid {n : Nat} (small : n < 2 ^ 64) : (Json.ofNat n).Valid := by
  refine ⟨?_, ?_⟩ <;> omega

private theorem bytesJson_valid (bytes : Bytes) : (bytesJson bytes).Valid := by
  induction bytes with
  | nil => trivial
  | cons byte rest ih =>
    have small := byte.toNat_lt
    exact ⟨natural_valid (by omega), ih⟩

/-! ## Fields come back -/

theorem natOfBits_ofNat {bits n : Nat} (small : n < 2 ^ bits) (narrow : bits ≤ 64) :
    natOfBits bits (Json.ofNat n) = some n := by
  have below : n < 2 ^ 64 := Nat.lt_of_lt_of_le small (Nat.pow_le_pow_right (by decide) narrow)
  have read : (Json.ofNat n).asU64 = some n := by
    simp only [Json.ofNat, Json.asU64]
    rw [if_pos (by omega)]
    rfl
  rw [natOfBits, read, Option.bind_some, if_pos small]

theorem readBytes_bytesJson (bytes : Bytes) : readBytes (bytesJson bytes) = some bytes := by
  rw [readBytes, bytesJson, Json.asArray, Option.bind_some, List.mapM_map]
  induction bytes with
  | nil => rfl
  | cons byte rest ih =>
    rw [List.mapM_cons, ih, Function.comp_apply, @natOfBits_ofNat 8 _ byte.toNat_lt (by decide)]
    simp

theorem proxyAuthProof_ofJson {proof : ProxyAuthProof} (small : proof.timestamp < 2 ^ 64) :
    ProxyAuthProof.ofJson proof.toJson.normal = some proof := by
  have found (key : String) := @get_normal [("peer_id", .str proof.peerId),
    ("timestamp", .ofNat proof.timestamp), ("mac", .str proof.mac)] (by simp) key
  have there : (proof.toJson.normal.get "timestamp") = some (Json.ofNat proof.timestamp) := found _
  have holder : (proof.toJson.normal.get "peer_id") = some (.str proof.peerId) := found _
  have code : (proof.toJson.normal.get "mac") = some (.str proof.mac) := found _
  rw [ProxyAuthProof.ofJson, there, holder, code, Option.bind_some, Option.bind_some, Option.bind_some,
    natOfBits_ofNat small (Nat.le_refl 64)]
  rfl

theorem readStrings_arr (texts : List String) : readStrings (.arr (texts.map .str)) = some texts := by
  rw [readStrings, Json.asArray, Option.bind_some, List.mapM_map]
  induction texts with
  | nil => rfl
  | cons text rest ih =>
    rw [List.mapM_cons, ih]
    rfl

theorem readOptional_some {α : Type} {read : Json → Option α} {json : Json} {value : α}
    (there : json ≠ .null) (ran : read json = some value) :
    readOptional read (some json) = some (some value) := by
  cases json with
  | null => exact absurd rfl there
  | _ => simp [readOptional, ran]

theorem readOptional_map {α : Type} {read : Json → Option α} {write : α → Json} {value : Option α}
    (back : ∀ inner ∈ value, read (write inner) = some inner ∧ write inner ≠ .null) :
    readOptional read (value.map write) = some value := by
  cases value with
  | none => rfl
  | some inner =>
    obtain ⟨ran, there⟩ := back inner rfl
    rw [Option.map_some, readOptional_some there ran]

private theorem lookup_one (key name : String) (value : Json) :
    List.lookup key [(name, value)] = if key = name then some value else none := by
  by_cases same : key = name
  · simp [same]
  · have differs : (key == name) = false := beq_eq_false_iff_ne.mpr same
    simp [List.lookup_cons, differs, same]

/-- The lookup of an optional field finds its value, and nothing under another name. -/
theorem lookup_optionalField (key name : String) (value : Option Json) :
    List.lookup key (optionalField name value) = if key = name then value else none := by
  cases value with
  | none => simp [optionalField]
  | some value => rw [optionalField, lookup_one]

private theorem readOptional_str (value : Option String) :
    readOptional Json.asStr (value.map .str) = some value :=
  readOptional_map fun _ _ => ⟨rfl, by simp⟩

private theorem readOptional_bool (value : Option Bool) :
    readOptional Json.asBool (value.map .bool) = some value :=
  readOptional_map fun _ _ => ⟨rfl, by simp⟩

private theorem readOptional_auth {auth : Option ProxyAuthProof}
    (small : ∀ proof ∈ auth, proof.timestamp < 2 ^ 64) :
    readOptional ProxyAuthProof.ofJson (auth.map fun proof => proof.toJson.normal) = some auth :=
  readOptional_map fun proof member =>
    ⟨proxyAuthProof_ofJson (small proof member), by simp [ProxyAuthProof.toJson, normal]⟩

private theorem readOptional_nat {value : Option Nat} (small : ∀ inner ∈ value, inner < 2 ^ 64) :
    readOptional (natOfBits 64) (value.map .ofNat) = some value :=
  readOptional_map fun inner member =>
    ⟨natOfBits_ofNat (small inner member) (Nat.le_refl 64), by simp [Json.ofNat]⟩

/-- The fields of a record as they are received: the values of the protocol crate with sorted keys. -/
private def receivedFields (record : CatalogRecord) : List (String × Json) :=
  [("peer_id", .str record.peerId), ("models", .arr record.models)] ++
    optionalField "peer_info" (record.peerInfo.map normal) ++
    optionalField "gpu_host" (record.gpuHost.map normal) ++
    [("accepting_jobs", .bool record.acceptingJobs)] ++
    (if record.listenAddrs = [] then []
      else [("listen_addrs", .arr (record.listenAddrs.map .str))]) ++
    optionalField "tee_capable" (record.teeCapable.map .bool) ++
    optionalField "gpu_model" (record.gpuModel.map .str) ++
    optionalField "attestation_expiry" (record.attestationExpiry.map .ofNat) ++
    optionalField "trust_level" (record.trustLevel.map .str) ++
    optionalField "provider_static_pk" (record.providerStaticPk.map .str)

private theorem normalFields_append (front back : List (String × Json)) :
    normal.normalFields (front ++ back) = normal.normalFields front ++ normal.normalFields back := by
  induction front with
  | nil => rfl
  | cons field rest ih =>
    obtain ⟨name, value⟩ := field
    rw [List.cons_append, normal.normalFields, ih, normal.normalFields, List.cons_append]

private theorem normalFields_optionalField (name : String) (value : Option Json) :
    normal.normalFields (optionalField name value) = optionalField name (value.map normal) := by
  cases value <;> rfl

private theorem map_normal {α : Type} {write : α → Json} {value : Option α}
    (valid : ∀ inner ∈ value, (write inner).Valid) :
    (value.map write).map normal = value.map write := by
  cases value with
  | none => rfl
  | some inner => rw [Option.map_some, Option.map_some, Json.normal_of_valid (valid inner rfl)]

private theorem normal_texts (value : Option String) :
    (value.map Json.str).map normal = value.map .str :=
  map_normal fun _ _ => trivial

private theorem normal_flags (value : Option Bool) :
    (value.map Json.bool).map normal = value.map .bool :=
  map_normal fun _ _ => trivial

private theorem strings_valid (texts : List String) : (Json.arr (texts.map .str)).Valid := by
  induction texts with
  | nil => trivial
  | cons text rest ih => exact ⟨trivial, ih⟩

private theorem normalFields_record {record : CatalogRecord} {types : ProtocolTypes}
    (typed : record.WellTyped types) :
    normal.normalFields record.fields = receivedFields record := by
  have models : (Json.arr record.models).normal = .arr record.models :=
    Json.normal_of_valid typed.models
  have addrs : normal.normalFields (if record.listenAddrs = [] then []
      else [("listen_addrs", .arr (record.listenAddrs.map .str))]) =
        if record.listenAddrs = [] then [] else [("listen_addrs", .arr (record.listenAddrs.map .str))] := by
    split
    · rfl
    · rw [normal.normalFields, Json.normal_of_valid (strings_valid _)]
      rfl
  have expiry : (record.attestationExpiry.map Json.ofNat).map normal =
      record.attestationExpiry.map .ofNat :=
    map_normal fun inner member => natural_valid (typed.attestationExpiry inner member)
  simp only [CatalogRecord.fields, normalFields_append, normalFields_optionalField, addrs, normal_texts,
    normal_flags, expiry, normal.normalFields, models, receivedFields]
  rfl

/-- A record is read back of its fields. -/
theorem CatalogRecord.ofFields_fields {types : ProtocolTypes} {record : CatalogRecord}
    (typed : record.WellTyped types) {field : String → Option Json}
    (same : ∀ key, key ≠ "type" → field key = (record.fields.lookup key).map normal) :
    CatalogRecord.ofFields types field = some record := by
  have addrs : readDefaultStrings (if record.listenAddrs = [] then none
      else some (.arr (record.listenAddrs.map .str))) = some record.listenAddrs := by
    by_cases none_ : record.listenAddrs = []
    · rw [if_pos none_, none_]
      rfl
    · rw [if_neg none_, readDefaultStrings, readStrings_arr]
  have listed : ∀ key, List.lookup key (if record.listenAddrs = [] then ([] : List (String × Json))
      else [("listen_addrs", .arr (record.listenAddrs.map .str))]) =
        if key = "listen_addrs" then
          (if record.listenAddrs = [] then none else some (.arr (record.listenAddrs.map .str)))
        else none := by
    intro key
    by_cases none_ : record.listenAddrs = []
    · simp [none_]
    · rw [if_neg none_, if_neg none_, lookup_one]
  have info : readOptional types.peerInfo (record.peerInfo.map normal) = some record.peerInfo :=
    readOptional_map fun inner member => ⟨(typed.peerInfo inner member).2.2, (typed.peerInfo inner member).2.1⟩
  have host : readOptional types.gpuHost (record.gpuHost.map normal) = some record.gpuHost :=
    readOptional_map fun inner member => ⟨(typed.gpuHost inner member).2.2, (typed.gpuHost inner member).2.1⟩
  have expiry := readOptional_nat typed.attestationExpiry
  have found : ∀ key, key ≠ "type" → field key = (receivedFields record).lookup key := by
    intro key other
    rw [same key other, ← lookup_normalFields, normalFields_record typed]
  simp only [CatalogRecord.ofFields, found _ (by decide : "peer_id" ≠ "type"),
    found _ (by decide : "models" ≠ "type"), found _ (by decide : "peer_info" ≠ "type"),
    found _ (by decide : "gpu_host" ≠ "type"), found _ (by decide : "accepting_jobs" ≠ "type"),
    found _ (by decide : "listen_addrs" ≠ "type"), found _ (by decide : "tee_capable" ≠ "type"),
    found _ (by decide : "gpu_model" ≠ "type"), found _ (by decide : "attestation_expiry" ≠ "type"),
    found _ (by decide : "trust_level" ≠ "type"), found _ (by decide : "provider_static_pk" ≠ "type")]
  simp [receivedFields, List.lookup_append, lookup_optionalField, listed,
    List.lookup_cons, addrs, info, host, expiry, readOptional_str, readOptional_bool, Json.asArray,
    Json.asBool]

section
variable {types : ProtocolTypes} {field : String → Option Json}

private theorem seqField_ofNat {seq : Nat} (there : field "seq" = some (Json.ofNat seq))
    (small : seq < 2 ^ 32) : seqField field = some seq := by
  rw [seqField, there, Option.bind_some, natOfBits_ofNat small (by decide)]

private theorem aadVersionField_ofNat {version : Nat}
    (there : field "aad_version" = some (Json.ofNat version)) (small : version < 2 ^ 8) :
    aadVersionField field = some version := by
  rw [aadVersionField, there, Option.bind_some, natOfBits_ofNat small (by decide)]

private theorem bytesField_json {key : String} {bytes : Bytes}
    (there : field key = some (bytesJson bytes).normal) : bytesField field key = some bytes := by
  rw [bytesField, there, Json.normal_of_valid (bytesJson_valid bytes), Option.bind_some,
    readBytes_bytesJson]

private theorem textField_str {key text : String} (there : field key = some (.str text)) :
    textField field key = some text := by
  rw [textField, there]
  rfl

private theorem authField_json {auth : Option ProxyAuthProof}
    (there : field "auth" = (auth.map ProxyAuthProof.toJson).map normal)
    (small : ∀ proof ∈ auth, proof.timestamp < 2 ^ 64) : authField field = some auth := by
  rw [authField, there, Option.map_map]
  exact readOptional_auth small

private theorem ofFields_tagged {tag : String} (there : field "type" = some (.str tag)) :
    StreamMessage.ofFields types field = StreamMessage.ofTagged types field tag := by
  rw [StreamMessage.ofFields, there]
  rfl

private theorem ofTagged_proxyRequest : StreamMessage.ofTagged types field "proxyrequest" =
    (textField field "req_id").bind fun reqId => (textField field "path").bind fun path =>
      (field "body").bind fun body => some (.proxyRequest reqId path body) := rfl

private theorem ofTagged_proxyRequestChunk : StreamMessage.ofTagged types field "proxyrequestchunk" =
    (textField field "req_id").bind fun reqId => (seqField field).bind fun seq =>
      (textField field "chunk").bind fun chunk => some (.proxyRequestChunk reqId seq chunk) := rfl

private theorem ofTagged_proxyResponse : StreamMessage.ofTagged types field "proxyresponse" =
    (textField field "req_id").bind fun reqId => (textField field "body").bind fun body =>
      (readOptional Json.asStr (field "error")).bind fun error =>
        some (.proxyResponse reqId body error) := rfl

private theorem ofTagged_catalogSync : StreamMessage.ofTagged types field "catalogsync" =
    (CatalogRecord.ofFields types field).bind fun record => some (.catalogSync record) := rfl

private theorem ofTagged_encryptedProxyRequest :
    StreamMessage.ofTagged types field "encryptedproxyrequest" = readEncryptedProxyRequest field := rfl

private theorem ofTagged_encryptedProxyRequestStart :
    StreamMessage.ofTagged types field "encryptedproxyrequeststart" =
      readEncryptedProxyRequestStart field := rfl

private theorem ofTagged_encryptedProxyResponse :
    StreamMessage.ofTagged types field "encryptedproxyresponse" = readEncryptedProxyResponse field := rfl

private theorem ofTagged_encryptedProxyRequestChunk :
    StreamMessage.ofTagged types field "encryptedproxyrequestchunk" =
      readEncryptedProxyRequestChunk field := rfl

private theorem ofTagged_encryptedProxyStreamChunk :
    StreamMessage.ofTagged types field "encryptedproxystreamchunk" =
      readEncryptedProxyStreamChunk field := rfl

private theorem ofTagged_proxyAuth : StreamMessage.ofTagged types field "proxyauth" =
    ((field "proof").bind ProxyAuthProof.ofJson).bind fun proof => some (.proxyAuth proof) := rfl

end

/-- What a message is read as, of its own fields with sorted keys. -/
private def readBack (types : ProtocolTypes) (msg : StreamMessage) : Option StreamMessage :=
  StreamMessage.ofFields types fun key => (msg.fields.lookup key).map normal

section
variable {types : ProtocolTypes} {reqId path roomId : String} {pk nonce ciphertext : Bytes}
  {aadVersion seq : Nat}
  {auth : Option ProxyAuthProof} {error : Option String} {stream : Option Bool}

private theorem proxyRequest_back {body : Json} (valid : body.Valid) :
    readBack types (.proxyRequest reqId path body) = some (.proxyRequest reqId path body) := by
  have there : (List.lookup "body" (StreamMessage.proxyRequest reqId path body).fields).map normal =
      some body := congrArg some (Json.normal_of_valid valid)
  rw [readBack, ofFields_tagged rfl, ofTagged_proxyRequest, textField_str rfl, textField_str rfl, there]
  rfl

private theorem proxyResponse_back (body : String) :
    readBack types (.proxyResponse reqId body error) = some (.proxyResponse reqId body error) := by
  have found : List.lookup "error" (StreamMessage.proxyResponse reqId body error).fields =
      error.map .str := by
    change List.lookup "error" (optionalField "error" (error.map .str)) = _
    rw [lookup_optionalField, if_pos rfl]
  rw [readBack, ofFields_tagged rfl, ofTagged_proxyResponse, textField_str rfl, textField_str rfl,
    found, normal_texts, readOptional_str]
  rfl

private theorem proxyRequestChunk_back (chunk : String) (small : seq < 2 ^ 32) :
    readBack types (.proxyRequestChunk reqId seq chunk) = some (.proxyRequestChunk reqId seq chunk) := by
  rw [readBack, ofFields_tagged rfl, ofTagged_proxyRequestChunk, textField_str rfl,
    seqField_ofNat rfl small, textField_str rfl]
  rfl

private theorem catalogSync_back {record : CatalogRecord} (typed : record.WellTyped types) :
    readBack types (.catalogSync record) = some (.catalogSync record) := by
  have read := @CatalogRecord.ofFields_fields types record typed
    (fun key => ((StreamMessage.catalogSync record).fields.lookup key).map normal) fun key other => by
      simp [StreamMessage.fields, List.lookup_cons, beq_eq_false_iff_ne.mpr other]
  rw [readBack, ofFields_tagged rfl, ofTagged_catalogSync, read]
  rfl

private theorem encryptedProxyRequest_back (version : aadVersion < 256)
    (proof : ∀ proof ∈ auth, proof.timestamp < 2 ^ 64) :
    readBack types (.encryptedProxyRequest reqId path roomId pk nonce ciphertext aadVersion auth) =
      some (.encryptedProxyRequest reqId path roomId pk nonce ciphertext aadVersion auth) := by
  have found : List.lookup "auth" (StreamMessage.encryptedProxyRequest reqId path roomId pk nonce
      ciphertext aadVersion auth).fields = auth.map ProxyAuthProof.toJson := by
    change List.lookup "auth" (optionalField "auth" (auth.map ProxyAuthProof.toJson)) = _
    rw [lookup_optionalField, if_pos rfl]
  rw [readBack, ofFields_tagged rfl, ofTagged_encryptedProxyRequest, readEncryptedProxyRequest,
    textField_str rfl, textField_str rfl, textField_str rfl, bytesField_json rfl, bytesField_json rfl,
    bytesField_json rfl, aadVersionField_ofNat rfl version,
    @authField_json _ auth (congrArg (Option.map normal) found) proof]
  rfl

private theorem encryptedProxyRequestStart_back (version : aadVersion < 256)
    (proof : ∀ proof ∈ auth, proof.timestamp < 2 ^ 64) :
    readBack types (.encryptedProxyRequestStart reqId path roomId pk aadVersion auth) =
      some (.encryptedProxyRequestStart reqId path roomId pk aadVersion auth) := by
  have found : List.lookup "auth" (StreamMessage.encryptedProxyRequestStart reqId path roomId pk
      aadVersion auth).fields = auth.map ProxyAuthProof.toJson := by
    change List.lookup "auth" (optionalField "auth" (auth.map ProxyAuthProof.toJson)) = _
    rw [lookup_optionalField, if_pos rfl]
  rw [readBack, ofFields_tagged rfl, ofTagged_encryptedProxyRequestStart,
    readEncryptedProxyRequestStart, textField_str rfl, textField_str rfl, textField_str rfl,
    bytesField_json rfl, aadVersionField_ofNat rfl version,
    @authField_json _ auth (congrArg (Option.map normal) found) proof]
  rfl

private theorem encryptedProxyRequestChunk_back (small : seq < 2 ^ 32) (version : aadVersion < 256) :
    readBack types (.encryptedProxyRequestChunk reqId seq nonce ciphertext aadVersion) =
      some (.encryptedProxyRequestChunk reqId seq nonce ciphertext aadVersion) := by
  rw [readBack, ofFields_tagged rfl, ofTagged_encryptedProxyRequestChunk,
    readEncryptedProxyRequestChunk, textField_str rfl, seqField_ofNat rfl small, bytesField_json rfl,
    bytesField_json rfl, aadVersionField_ofNat rfl version]
  rfl

private theorem encryptedProxyResponse_back (version : aadVersion < 256) :
    readBack types (.encryptedProxyResponse reqId nonce ciphertext aadVersion error stream) =
      some (.encryptedProxyResponse reqId nonce ciphertext aadVersion error stream) := by
  have found : List.lookup "error" (StreamMessage.encryptedProxyResponse reqId nonce ciphertext
      aadVersion error stream).fields = error.map .str := by
    change List.lookup "error" (optionalField "error" (error.map .str) ++
      optionalField "stream" (stream.map .bool)) = _
    rw [List.lookup_append, lookup_optionalField, lookup_optionalField, if_pos rfl,
      if_neg (by decide), Option.or_none]
  have flag : List.lookup "stream" (StreamMessage.encryptedProxyResponse reqId nonce ciphertext
      aadVersion error stream).fields = stream.map .bool := by
    change List.lookup "stream" (optionalField "error" (error.map .str) ++
      optionalField "stream" (stream.map .bool)) = _
    rw [List.lookup_append, lookup_optionalField, lookup_optionalField, if_neg (by decide),
      if_pos rfl, Option.none_or]
  rw [readBack, ofFields_tagged rfl, ofTagged_encryptedProxyResponse, readEncryptedProxyResponse,
    textField_str rfl, bytesField_json rfl, bytesField_json rfl, aadVersionField_ofNat rfl version,
    found, flag, normal_texts, normal_flags, readOptional_str, readOptional_bool]
  rfl

private theorem encryptedProxyStreamChunk_back (done : Bool) (small : seq < 2 ^ 32)
    (version : aadVersion < 256) :
    readBack types (.encryptedProxyStreamChunk reqId seq nonce ciphertext aadVersion done) =
      some (.encryptedProxyStreamChunk reqId seq nonce ciphertext aadVersion done) := by
  rw [readBack, ofFields_tagged rfl, ofTagged_encryptedProxyStreamChunk,
    readEncryptedProxyStreamChunk, textField_str rfl, seqField_ofNat rfl small, bytesField_json rfl,
    bytesField_json rfl, aadVersionField_ofNat rfl version]
  rfl

private theorem proxyAuth_back {proof : ProxyAuthProof} (small : proof.timestamp < 2 ^ 64) :
    readBack types (.proxyAuth proof) = some (.proxyAuth proof) := by
  have there : List.lookup "proof" (StreamMessage.proxyAuth proof).fields = some proof.toJson := rfl
  rw [readBack, ofFields_tagged rfl, ofTagged_proxyAuth, there, Option.map_some, Option.bind_some,
    proxyAuthProof_ofJson small]
  rfl

end

/-- A message is read back of its fields. -/
private theorem readBack_eq {types : ProtocolTypes} {msg : StreamMessage} (typed : msg.WellTyped types) :
    readBack types msg = some msg := by
  cases msg with
  | proxyRequest reqId path body => exact proxyRequest_back typed
  | proxyResponse reqId body error => exact proxyResponse_back body
  | proxyRequestStart reqId path => rfl
  | proxyRequestChunk reqId seq chunk => exact proxyRequestChunk_back chunk typed
  | proxyRequestEnd reqId => rfl
  | proxyResponseChunk reqId chunk => rfl
  | proxyResponseDone reqId => rfl
  | proxyResponseError reqId error => rfl
  | ping => rfl
  | pong => rfl
  | catalogSync record => exact catalogSync_back typed
  | encryptedProxyRequest reqId path roomId pk nonce ciphertext aadVersion auth =>
    exact encryptedProxyRequest_back typed.1 typed.2
  | encryptedProxyRequestStart reqId path roomId pk aadVersion auth =>
    exact encryptedProxyRequestStart_back typed.1 typed.2
  | encryptedProxyRequestChunk reqId seq nonce ciphertext aadVersion =>
    exact encryptedProxyRequestChunk_back typed.1 typed.2
  | encryptedProxyRequestEnd reqId => rfl
  | encryptedProxyResponse reqId nonce ciphertext aadVersion error stream =>
    exact encryptedProxyResponse_back typed
  | encryptedProxyStreamChunk reqId seq nonce ciphertext aadVersion done =>
    exact encryptedProxyStreamChunk_back done typed.1 typed.2
  | proxyAuth proof => exact proxyAuth_back typed

/-! ## Texts come back -/

private theorem optionalField_keys (name : String) (value : Option Json) :
    ((optionalField name value).map Prod.fst).Sublist [name] := by
  cases value with
  | none => exact List.nil_sublist _
  | some value => exact .refl _

/-- The names of the fields that a message may have. -/
private def StreamMessage.fieldNames : StreamMessage → List String
  | .proxyResponse .. => ["type", "req_id", "body", "error"]
  | .catalogSync _ => ["type", "peer_id", "models", "peer_info", "gpu_host", "accepting_jobs",
      "listen_addrs", "tee_capable", "gpu_model", "attestation_expiry", "trust_level",
      "provider_static_pk"]
  | .encryptedProxyRequest .. => ["type", "req_id", "path", "room_id", "consumer_ephemeral_pk", "nonce",
      "ciphertext", "aad_version", "auth"]
  | .encryptedProxyRequestStart .. => ["type", "req_id", "path", "room_id", "consumer_ephemeral_pk",
      "aad_version", "auth"]
  | .encryptedProxyResponse .. =>
    ["type", "req_id", "nonce", "ciphertext", "aad_version", "error", "stream"]
  | msg => msg.fields.map Prod.fst

private theorem fields_sublist (msg : StreamMessage) :
    (msg.fields.map Prod.fst).Sublist msg.fieldNames := by
  have optional := optionalField_keys
  cases msg with
  | proxyResponse reqId body error =>
    simp only [StreamMessage.fields, List.map_append]
    exact (List.Sublist.refl ["type", "req_id", "body"]).append (optional "error" _)
  | catalogSync record =>
    have addrs : ((if record.listenAddrs = [] then ([] : List (String × Json))
        else [("listen_addrs", .arr (record.listenAddrs.map .str))]).map Prod.fst).Sublist
          ["listen_addrs"] := by
      split
      · exact List.nil_sublist _
      · exact .refl _
    simp only [StreamMessage.fields, CatalogRecord.fields, List.map_append, List.map_cons]
    exact ((((((((((List.Sublist.refl ["peer_id", "models"]).append (optional "peer_info" _)).append
      (optional "gpu_host" _)).append (List.Sublist.refl ["accepting_jobs"])).append addrs).append
      (optional "tee_capable" _)).append (optional "gpu_model" _)).append
      (optional "attestation_expiry" _)).append (optional "trust_level" _)).append
      (optional "provider_static_pk" _)).cons_cons "type"
  | encryptedProxyRequest =>
    simp only [StreamMessage.fields, List.map_append]
    exact (List.Sublist.refl ["type", "req_id", "path", "room_id", "consumer_ephemeral_pk", "nonce",
      "ciphertext", "aad_version"]).append (optional "auth" _)
  | encryptedProxyRequestStart =>
    simp only [StreamMessage.fields, List.map_append]
    exact (List.Sublist.refl ["type", "req_id", "path", "room_id", "consumer_ephemeral_pk",
      "aad_version"]).append (optional "auth" _)
  | encryptedProxyResponse =>
    simp only [StreamMessage.fields, List.map_append]
    exact ((List.Sublist.refl ["type", "req_id", "nonce", "ciphertext", "aad_version"]).append
      (optional "error" _)).append (optional "stream" _)
  | _ => exact .refl _

/-- No field of a message has the name of another. -/
theorem StreamMessage.fields_nodup (msg : StreamMessage) : (msg.fields.map Prod.fst).Nodup := by
  apply (fields_sublist msg).nodup
  cases msg <;> simp +decide [StreamMessage.fieldNames, StreamMessage.fields]

private theorem writableFields_append {front back : List (String × Json)}
    (first : Json.Writable.WritableFields front) (second : Json.Writable.WritableFields back) :
    Json.Writable.WritableFields (front ++ back) := by
  induction front with
  | nil => exact second
  | cons field rest ih => exact ⟨first.1, ih first.2⟩

private theorem optionalField_writable {α : Type} {name : String} {write : α → Json} {value : Option α}
    (writable : ∀ inner ∈ value, (write inner).Writable) :
    Json.Writable.WritableFields (optionalField name (value.map write)) := by
  cases value with
  | none => trivial
  | some inner => exact ⟨writable inner rfl, trivial⟩

private theorem ofNat_writable {n : Nat} (small : n < 2 ^ 64) : (Json.ofNat n).Writable :=
  Json.writable_of_valid (natural_valid small)

private theorem bytesJson_writable (bytes : Bytes) : (bytesJson bytes).Writable :=
  Json.writable_of_valid (bytesJson_valid bytes)

private theorem proof_writable {proof : ProxyAuthProof} (small : proof.timestamp < 2 ^ 64) :
    proof.toJson.Writable :=
  ⟨trivial, ofNat_writable small, trivial, trivial⟩

private theorem record_writable {types : ProtocolTypes} {record : CatalogRecord}
    (typed : record.WellTyped types) : Json.Writable.WritableFields record.fields := by
  have models : (Json.arr record.models).Writable := Json.writable_of_valid typed.models
  have info : Json.Writable.WritableFields (optionalField "peer_info" (record.peerInfo.map id)) :=
    optionalField_writable fun inner member => (typed.peerInfo inner member).1
  have host : Json.Writable.WritableFields (optionalField "gpu_host" (record.gpuHost.map id)) :=
    optionalField_writable fun inner member => (typed.gpuHost inner member).1
  rw [Option.map_id, id] at info host
  have addrs : Json.Writable.WritableFields (if record.listenAddrs = [] then []
      else [("listen_addrs", .arr (record.listenAddrs.map .str))]) := by
    split
    · trivial
    · exact ⟨Json.writable_of_valid (strings_valid _), trivial⟩
  have texts (name : String) (value : Option String) :
      Json.Writable.WritableFields (optionalField name (value.map .str)) :=
    optionalField_writable fun _ _ => trivial
  have flags (name : String) (value : Option Bool) :
      Json.Writable.WritableFields (optionalField name (value.map .bool)) :=
    optionalField_writable fun _ _ => trivial
  have expiry : Json.Writable.WritableFields
      (optionalField "attestation_expiry" (record.attestationExpiry.map .ofNat)) :=
    optionalField_writable fun inner member => ofNat_writable (typed.attestationExpiry inner member)
  have front : Json.Writable.WritableFields
      [("peer_id", .str record.peerId), ("models", .arr record.models)] := ⟨trivial, models, trivial⟩
  have accepting : Json.Writable.WritableFields [("accepting_jobs", .bool record.acceptingJobs)] :=
    ⟨trivial, trivial⟩
  rw [CatalogRecord.fields]
  apply writableFields_append _ (texts _ _)
  apply writableFields_append _ (texts _ _)
  apply writableFields_append _ expiry
  apply writableFields_append _ (texts _ _)
  apply writableFields_append _ (flags _ _)
  apply writableFields_append _ addrs
  apply writableFields_append _ accepting
  exact writableFields_append (writableFields_append front info) host

private theorem auth_writable {auth : Option ProxyAuthProof}
    (small : ∀ proof ∈ auth, proof.timestamp < 2 ^ 64) :
    Json.Writable.WritableFields (optionalField "auth" (auth.map ProxyAuthProof.toJson)) :=
  optionalField_writable fun proof member => proof_writable (small proof member)

/-- What a message writes is JSON. -/
theorem StreamMessage.fields_writable {types : ProtocolTypes} {msg : StreamMessage}
    (typed : msg.WellTyped types) : (Json.obj msg.fields).Writable := by
  have wide {n bits : Nat} (small : n < 2 ^ bits) (narrow : bits ≤ 64) : (Json.ofNat n).Writable :=
    ofNat_writable (Nat.lt_of_lt_of_le small (Nat.pow_le_pow_right (by decide) narrow))
  have bytes := bytesJson_writable
  cases msg with
  | proxyRequest reqId path body =>
    exact ⟨trivial, trivial, trivial, Json.writable_of_valid typed, trivial⟩
  | proxyResponse reqId body error =>
    have front : Json.Writable.WritableFields [("type", .str "proxyresponse"), ("req_id", .str reqId),
      ("body", .str body)] := ⟨trivial, trivial, trivial, trivial⟩
    exact writableFields_append front (optionalField_writable fun _ _ => trivial)
  | proxyRequestChunk reqId seq chunk =>
    exact ⟨trivial, trivial, wide typed (by decide), trivial, trivial⟩
  | catalogSync record => exact ⟨trivial, record_writable typed⟩
  | encryptedProxyRequest reqId path roomId pk nonce ciphertext aadVersion auth =>
    apply writableFields_append _ (auth_writable typed.2)
    exact ⟨trivial, trivial, trivial, trivial, bytes pk, bytes nonce, bytes ciphertext,
      @wide _ 8 typed.1 (by decide), trivial⟩
  | encryptedProxyRequestStart reqId path roomId pk aadVersion auth =>
    apply writableFields_append _ (auth_writable typed.2)
    exact ⟨trivial, trivial, trivial, trivial, bytes pk, @wide _ 8 typed.1 (by decide), trivial⟩
  | encryptedProxyRequestChunk reqId seq nonce ciphertext aadVersion =>
    exact ⟨trivial, trivial, wide typed.1 (by decide), bytes nonce, bytes ciphertext,
      @wide _ 8 typed.2 (by decide), trivial⟩
  | encryptedProxyResponse reqId nonce ciphertext aadVersion error stream =>
    have flag : Json.Writable.WritableFields (optionalField "stream" (stream.map .bool)) :=
      optionalField_writable fun _ _ => trivial
    have text : Json.Writable.WritableFields (optionalField "error" (error.map .str)) :=
      optionalField_writable fun _ _ => trivial
    apply writableFields_append _ flag
    apply writableFields_append _ text
    exact ⟨trivial, trivial, bytes nonce, bytes ciphertext, @wide _ 8 typed (by decide), trivial⟩
  | encryptedProxyStreamChunk reqId seq nonce ciphertext aadVersion done =>
    exact ⟨trivial, trivial, wide typed.1 (by decide), bytes nonce, bytes ciphertext,
      @wide _ 8 typed.2 (by decide), trivial, trivial⟩
  | proxyAuth proof => exact ⟨trivial, proof_writable typed, trivial⟩
  | _ => simp [StreamMessage.fields, Json.Writable, Json.Writable.WritableFields]

/-- How deep the text of a message is nested is all that keeps it from being read back. -/
theorem StreamMessage.ofText_text {types : ProtocolTypes} {msg : StreamMessage}
    (typed : msg.WellTyped types) :
    StreamMessage.ofText types msg.text =
      if (Json.obj msg.fields).depth < Json.recursionLimit then some msg else none := by
  rw [StreamMessage.ofText, StreamMessage.text, Json.fromText_written _ (fields_writable typed)]
  by_cases shallow : (Json.obj msg.fields).depth < Json.recursionLimit
  · have found : (fun key => (Json.enterFields [] (normal.normalFields msg.fields)).lookup key) =
        fun key => (msg.fields.lookup key).map normal :=
      funext fun key => get_normal msg.fields_nodup key
    rw [if_pos shallow, if_pos shallow, normal]
    simp only [found]
    exact readBack_eq typed
  · rw [if_neg shallow, if_neg shallow]

end MtrxPeer
