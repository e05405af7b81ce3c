import MtrxPeer.P2pManager
import MtrxPeer.WebrtcManager

/-! A small concrete peer, for runs on given inputs. -/
namespace MtrxPeer

def sampleHost (e2ee sidecar : Bool) : Host where
  crypto := .transparent
  jsonError _ := "expected value"
  utf8Error _ := "invalid utf-8 sequence"
  e2eeEnabled := e2ee
  inferenceSidecarEnabled := sidecar
  attestationMtrxaiBuild := 1
  envNumPredict := none
  envNumCtx := none
  requireTee := false

/-- A member of the cluster `c` and of a swarm with the token `t`. -/
def sampleConfig : ClientConfig where
  clusters := [⟨"c", some true, some true, none, some "pw"⟩]
  swarms := [⟨"s", "t", some true, some true⟩]
  autoApproveInferenceConnections := true
  allowUnattestedPeers := true
  defaultNumPredict := none
  defaultNumCtx := none
  proxyToken := none
  requireTeeForInference := none

/-- One Ollama server on this machine. -/
def sampleRegistry : Registry where
  servers := [⟨"ollama", 0, .fromServerEntry .ollama "http://127.0.0.1:11434"⟩]
  modelRoutes _ := none

def sampleProxy : ProxyState := ⟨sampleConfig, sampleRegistry, fun _ => false⟩

def sampleManager (e2ee sidecar : Bool) : Manager := ⟨sampleHost e2ee sidecar, "c", "me"⟩

/-- A backend that answers with an empty stream. -/
def sampleAnswers : Answers where
  draws i := ⟨[UInt8.ofNat i], List.replicate 12 (UInt8.ofNat i), 1000⟩
  unixNow := 1000
  upstream := .ok []
  channelOpen := true
  ipcError := none

/-- A request body that names a model and nothing else. -/
def sampleBody (model : String) : Json := .obj [("model", .str model)]

/-- The payload of an SDP offer for the cluster `c`. -/
def samplePayload (connectReqId : String) : Json :=
  .obj [("cluster_id", .str "c"), ("connect_req_id", .str connectReqId), ("sdp", .str "v=0"),
    ("sdp_type", .str "offer")]

/-- `peer` asks for `model`, is approved, and opens the data channel `d`. -/
def sampleConnect (peer model : String) : List ClusterEvent :=
  [.connectOffer "r" model peer none, .route peer (samplePayload "r") true,
    .channelOpened "d" peer true]

/-- A request for the model `llama3`, encrypted for a room, from the peer whose
ephemeral secret is the byte 7. -/
def sampleEncrypted (roomId : String) (auth : Option ProxyAuthProof) : StreamMessage :=
  let P := Primitives.transparent
  let providerPk := (providerStaticPublicKey P sampleConfig roomId).toOption.getD []
  let enc := encryptPayload P (deriveSessionKeyConsumer P [7] providerPk "1" roomId) "1" "/api/chat"
    roomId (List.replicate 12 0) (utf8 (sampleBody "llama3").toText)
  .encryptedProxyRequest "1" "/api/chat" roomId (P.publicKey [7]) enc.nonce enc.ciphertext aadVersion
    auth

/-- The last component of an address text, as its peer id. -/
def sampleIds : Libp2pIds where
  peerIdFromAddr addr := some (String.ofList (addr.toList.reverse.takeWhile (· ≠ '/')).reverse)
  legacyPeerId mtrxai := "legacy-" ++ mtrxai

def sampleSwarmManager (e2ee sidecar : Bool) : SwarmManager where
  host := sampleHost e2ee sidecar
  ids := sampleIds
  peerId := "me"
  localPeerId := "L"
  swarmId := "s"
  p2pToken := "t"
  isBootnode _ := false

/-- The catalog of a peer that can be reached at `libp2p`. -/
def sampleCatalog (peerId libp2p : String) : CatalogRecord where
  peerId := peerId
  models := []
  peerInfo := none
  gpuHost := none
  acceptingJobs := true
  listenAddrs := ["/ip4/10.0.0.1/tcp/4001/p2p/" ++ libp2p]
  teeCapable := none
  gpuModel := none
  attestationExpiry := none
  trustLevel := none
  providerStaticPk := none

def sampleSwarm : SwarmState := .initial sampleProxy 1

end MtrxPeer
