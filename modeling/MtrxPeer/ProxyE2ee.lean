import MtrxPeer.Aead
import MtrxPeer.ClientConfig
import MtrxPeer.Wire

/-! End-to-end encryption of proxied requests: room and session keys, the
authenticated envelope, and the membership proof a request may carry. -/
namespace MtrxPeer

/-- What the process takes from its libraries and its environment. -/
structure Host where
  crypto : Primitives
  /-- The parser's account of why a text is not JSON. -/
  jsonError : Bytes → String
  /-- The decoder's account of why bytes are not UTF-8. -/
  utf8Error : Bytes → String
  /-- `MTRXAI_E2EE_ENABLED`. -/
  e2eeEnabled : Bool
  /-- `MTRXAI_INFERENCE_SIDECAR`. -/
  inferenceSidecarEnabled : Bool
  /-- The attestation flag of an unmodified build. -/
  attestationMtrxaiBuild : Nat
  /-- `MTRXAI_DEFAULT_NUM_PREDICT`. -/
  envNumPredict : Option Nat
  /-- `MTRXAI_DEFAULT_NUM_CTX`. -/
  envNumCtx : Option Nat
  /-- `MTRXAI_REQUIRE_TEE`. -/
  requireTee : Bool

/-! ## Membership proofs -/

def proxyAuthMaxSkewSecs : Nat := 300

/-- `u64::to_le_bytes`. -/
def leBytes64 (n : Nat) : Bytes := (List.range 8).map fun i => UInt8.ofNat (n / 256 ^ i)

def computeMac (P : Primitives) (p2pToken peerId : String) (timestamp : Nat) : String :=
  hexEncode (P.hmacSha256 (utf8 p2pToken)
    (utf8 "mtrxai-proxy-auth-v1" ++ utf8 peerId ++ leBytes64 timestamp))

def buildProxyAuth (P : Primitives) (now : Nat) (p2pToken peerId : String) : ProxyAuthProof :=
  ⟨peerId, now, computeMac P p2pToken peerId now⟩

def verifyProxyAuth (P : Primitives) (now : Nat) (proof : ProxyAuthProof)
    (p2pToken expectedPeerId : String) : Bool :=
  if proof.peerId ≠ expectedPeerId then false
  else if proof.timestamp - now + (now - proof.timestamp) > proxyAuthMaxSkewSecs then false
  else proof.mac = computeMac P p2pToken proof.peerId proof.timestamp

theorem verifyProxyAuth_peerId {P : Primitives} {now : Nat} {proof : ProxyAuthProof}
    {p2pToken expected : String} (verified : verifyProxyAuth P now proof p2pToken expected = true) :
    proof.peerId = expected := by
  by_contra differs
  simp [verifyProxyAuth, differs] at verified

/-- A fresh proof verifies under the secret and for the peer it was built for. -/
theorem verifyProxyAuth_buildProxyAuth (P : Primitives) (now : Nat) (p2pToken peerId : String) :
    verifyProxyAuth P now (buildProxyAuth P now p2pToken peerId) p2pToken peerId = true := by
  simp [verifyProxyAuth, buildProxyAuth]

/-! ## Rooms -/

/-- `token_namespace`, the shared room id of a swarm's token. -/
def tokenNamespace (P : Primitives) (p2pToken : String) : String :=
  hexEncode (P.sha256 (utf8 p2pToken))

def e2eeRoomIdForSwarmMembership (P : Primitives) (config : ClientConfig) (swarmId : String) :
    Option String :=
  (findSwarm config swarmId).map fun s => tokenNamespace P s.p2pToken

def roomIdForProxy (P : Primitives) (config : ClientConfig) (clusterId swarmId : Option String) :
    Option String :=
  match clusterId with
  | some clusterId => some clusterId
  | none => swarmId.bind (e2eeRoomIdForSwarmMembership P config)

def clusterEffectiveRoomSecret (clusterId : String) (password : Option String) : String :=
  clusterId ++ ":" ++ password.getD ""

def clusterPasswordFromMembership (cluster : ClusterMembership) : Option String :=
  cluster.clusterPassword.or cluster.roomSecret

def swarmOfRoom (P : Primitives) (config : ClientConfig) (roomId : String) :
    Option SwarmMembership :=
  config.swarms.find? fun s => tokenNamespace P s.p2pToken = roomId ∨ s.swarmId = roomId

def roomSecretForProxy (P : Primitives) (config : ClientConfig) (roomId : String) :
    Option String :=
  match findCluster config roomId with
  | some c => some (clusterEffectiveRoomSecret c.clusterId (clusterPasswordFromMembership c))
  | none => (swarmOfRoom P config roomId).map fun s => s.p2pToken

def proxyAuthForRoom (P : Primitives) (now : Nat) (config : ClientConfig)
    (peerId roomId : String) : Option ProxyAuthProof :=
  match findCluster config roomId with
  | some c => some (buildProxyAuth P now
      (clusterEffectiveRoomSecret c.clusterId (clusterPasswordFromMembership c)) peerId)
  | none => match swarmOfRoom P config roomId with
    | some s => some (buildProxyAuth P now s.p2pToken peerId)
    | none => config.proxyToken.map fun token => buildProxyAuth P now token peerId

/-! ## Keys -/

def deriveRoomRootKey (P : Primitives) (roomSecret roomId : String) : Bytes :=
  P.sha256 (utf8 "mtrxai-room-root-v1" ++ utf8 roomSecret ++ utf8 roomId)

/-- The static secret of a room; the stored copy is only a cache of it. -/
def roomStaticSecret (P : Primitives) (roomRoot : Bytes) : Bytes :=
  P.sha256 (roomRoot ++ utf8 "static-x25519")

def hkdfSessionKey (P : Primitives) (shared : Bytes) (reqId roomId : String) : Bytes :=
  P.sha256 (utf8 "mtrxai-session-key-v1" ++ shared ++ utf8 reqId ++ utf8 roomId)

def deriveSessionKey (P : Primitives) (roomStaticSecret consumerEphemeralPublic : Bytes)
    (reqId roomId : String) : Bytes :=
  hkdfSessionKey P (P.diffieHellman roomStaticSecret consumerEphemeralPublic) reqId roomId

def deriveSessionKeyConsumer (P : Primitives) (consumerEphemeralSecret providerStaticPublic : Bytes)
    (reqId roomId : String) : Bytes :=
  hkdfSessionKey P (P.diffieHellman consumerEphemeralSecret providerStaticPublic) reqId roomId

/-- The provider's static secret for a room, as far as it knows the room. -/
def providerStaticSecret (P : Primitives) (config : ClientConfig) (roomId : String) :
    Option Bytes :=
  (roomSecretForProxy P config roomId).map fun secret =>
    roomStaticSecret P (deriveRoomRootKey P secret roomId)

def providerStaticPublicKey (P : Primitives) (config : ClientConfig) (roomId : String) :
    Except String Bytes :=
  match providerStaticSecret P config roomId with
  | some secret => .ok (P.publicKey secret)
  | none => .error "missing room secret"

/-- The catalog's key if it is one, else the key derived from the room. -/
def resolveProviderStaticPublic (P : Primitives) (config : ClientConfig) (roomId : String)
    (catalogPkHex : Option String) : Except String Bytes :=
  match catalogPkHex.bind fun text => hexDecode (trim text) with
  | some pk => if pk.length = 32 then .ok pk else providerStaticPublicKey P config roomId
  | none => providerStaticPublicKey P config roomId

/-! ## The envelope -/

def aadVersion : Nat := 1

def buildAad (reqId path roomId : String) : Bytes :=
  utf8 ("mtrxai-v" ++ toString aadVersion ++ "|" ++ reqId ++ "|" ++ path ++ "|" ++ roomId)

structure EncryptedPayload where
  nonce : Bytes
  ciphertext : Bytes
  deriving DecidableEq

def encryptPayload (P : Primitives) (sessionKey : Bytes) (reqId path roomId : String)
    (nonce plaintext : Bytes) : EncryptedPayload :=
  ⟨nonce, P.encrypt sessionKey nonce (buildAad reqId path roomId) plaintext⟩

def decryptPayload (P : Primitives) (sessionKey : Bytes) (reqId path roomId : String)
    (payload : EncryptedPayload) : Except String Bytes :=
  if payload.nonce.length ≠ 12 then .error "invalid nonce length"
  else match P.decrypt sessionKey payload.nonce (buildAad reqId path roomId) payload.ciphertext with
    | some plaintext => .ok plaintext
    | none => .error "decrypt: aead::Error"

/-- `String::from_utf8` of a decrypted text. -/
def decodeText (host : Host) (plaintext : Bytes) : Except String String :=
  match fromUtf8 plaintext with
  | some text => .ok text
  | none => .error (host.utf8Error plaintext)

def chunkPath (path : String) (seq : Nat) : String := path ++ "#chunk/" ++ toString seq

/-! ## Consumer side -/

/-- The ephemeral key, nonce and time one encryption draws. -/
structure Draw where
  secret : Bytes
  nonce : Bytes
  unixNow : Nat

def encryptProxyRequest (P : Primitives) (config : ClientConfig) (draw : Draw)
    (peerId reqId path : String) (body : Json) (roomId : String) (providerStaticPublic : Bytes) :
    Except String (StreamMessage × Bytes) :=
  match roomSecretForProxy P config roomId with
  | none => .error ("missing room secret for " ++ roomId)
  | some _ =>
    let sessionKey := deriveSessionKeyConsumer P draw.secret providerStaticPublic reqId roomId
    let enc := encryptPayload P sessionKey reqId path roomId draw.nonce (utf8 body.toText)
    let auth := proxyAuthForRoom P draw.unixNow config peerId roomId
    .ok (.encryptedProxyRequest reqId path roomId (P.publicKey draw.secret) enc.nonce
      enc.ciphertext aadVersion auth, draw.secret)

def encryptProxyRequestChunk (P : Primitives)
    (consumerEphemeralSecret providerStaticPublic : Bytes) (roomId reqId path : String) (seq : Nat)
    (nonce plaintext : Bytes) : EncryptedPayload :=
  let sessionKey :=
    deriveSessionKeyConsumer P consumerEphemeralSecret providerStaticPublic reqId roomId
  encryptPayload P sessionKey reqId (chunkPath path seq) roomId nonce plaintext

def decryptProxyChunk (host : Host) (config : ClientConfig) (reqId path : String) (seq : Nat)
    (roomId : String) (consumerEphemeralSecret providerStaticPublic nonce ciphertext : Bytes) :
    Except String String := do
  let _ ← (roomSecretForProxy host.crypto config roomId).elim (.error "missing room secret") .ok
  let sessionKey :=
    deriveSessionKeyConsumer host.crypto consumerEphemeralSecret providerStaticPublic reqId roomId
  let plain ← decryptPayload host.crypto sessionKey reqId (chunkPath path seq) roomId ⟨nonce, ciphertext⟩
  decodeText host plain

/-- `decrypt_proxy_response` on the parts of an `EncryptedProxyResponse`. -/
def decryptProxyResponse (host : Host) (config : ClientConfig) (reqId path roomId : String)
    (consumerEphemeralSecret providerStaticPublic : Bytes) (payload : EncryptedPayload)
    (error : Option String) : Except String String := do
  if let some text := error then .error text
  let _ ← (roomSecretForProxy host.crypto config roomId).elim (.error "missing room secret") .ok
  let sessionKey :=
    deriveSessionKeyConsumer host.crypto consumerEphemeralSecret providerStaticPublic reqId roomId
  let plain ← decryptPayload host.crypto sessionKey reqId path roomId payload
  decodeText host plain

/-! ## Provider side -/

/-- The session key of an inbound request. -/
def inboundSessionKey (P : Primitives) (config : ClientConfig) (roomId reqId : String)
    (consumerEphemeralPk : Bytes) : Except String Bytes :=
  if consumerEphemeralPk.length ≠ 32 then .error "invalid ephemeral public key"
  else match providerStaticSecret P config roomId with
    | none => .error ("no room secret for " ++ roomId)
    | some secret => .ok (deriveSessionKey P secret consumerEphemeralPk reqId roomId)

def decryptInboundRequest (host : Host) (config : ClientConfig) (roomId reqId path : String)
    (consumerEphemeralPk nonce ciphertext : Bytes) : Except String Json := do
  let sessionKey ← inboundSessionKey host.crypto config roomId reqId consumerEphemeralPk
  let plain ← decryptPayload host.crypto sessionKey reqId path roomId ⟨nonce, ciphertext⟩
  match (fromUtf8 plain).bind Json.fromText with
  | some body => .ok body
  | none => .error (host.jsonError plain)

def decryptInboundRequestChunk (host : Host) (config : ClientConfig)
    (roomId reqId path : String) (seq : Nat) (consumerEphemeralPk nonce ciphertext : Bytes) :
    Except String String := do
  let sessionKey ← inboundSessionKey host.crypto config roomId reqId consumerEphemeralPk
  let plain ← decryptPayload host.crypto sessionKey reqId (chunkPath path seq) roomId ⟨nonce, ciphertext⟩
  decodeText host plain

/-- Provider-side encryption of one response chunk. -/
def encryptProxyChunk (P : Primitives) (config : ClientConfig) (roomId reqId path : String)
    (seq : Nat) (consumerEphemeralPk nonce plaintext : Bytes) : Except String EncryptedPayload :=
  if consumerEphemeralPk.length ≠ 32 then .error "invalid ephemeral public key"
  else match providerStaticSecret P config roomId with
    | none => .error "missing room secret"
    | some secret =>
      let sessionKey := deriveSessionKey P secret consumerEphemeralPk reqId roomId
      .ok (encryptPayload P sessionKey reqId (chunkPath path seq) roomId nonce plaintext)

/-- Encryption of a whole response. The key's length was checked when the
request was decrypted. -/
def encryptOutboundResponse (P : Primitives) (config : ClientConfig) (roomId reqId path : String)
    (consumerEphemeralPk nonce plaintext : Bytes) : Except String EncryptedPayload :=
  match providerStaticSecret P config roomId with
  | none => .error ("no room secret for " ++ roomId)
  | some secret =>
    let sessionKey := deriveSessionKey P secret consumerEphemeralPk reqId roomId
    .ok (encryptPayload P sessionKey reqId path roomId nonce plaintext)

end MtrxPeer
