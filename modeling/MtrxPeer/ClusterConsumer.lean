import MtrxPeer.PeerPolicy
import MtrxPeer.Sealed

/-! A cluster manager's own requests. A command becomes a request that waits for
its data channel, and the request goes out in a task of its own. -/
namespace MtrxPeer

open Function (update)

/-! ## State -/

/-- What WebRTC has for a peer once a session that cannot be used is gone. -/
inductive Session where
  /-- Nothing; `created` says whether a session could be offered. -/
  | absent (created : Bool)
  /-- Another task is making a session. -/
  | negotiating
  | opening
  | opened

/-- A request that was registered and is not sent. -/
structure WaitingRequest where
  reqId : String
  targetPeer : String
  path : String
  body : Json
  /-- The data channel was not open when the request was registered. -/
  delayed : Bool

/-- A cluster manager with the requests that its tasks still have to send. -/
structure ConsumerState where
  cluster : ClusterState
  /-- Whether the latest catalog of a peer says that it has a TEE. -/
  teeCatalogued : String → Bool
  /-- The number of the next request of this process. -/
  nextReqId : Nat
  waiting : List WaitingRequest

inductive ConsumerEvent where
  /-- A local command; without a target it is left with the lobby. -/
  | command (cmd : ProxyRequestCommand) (session : Session)
  /-- `request_brokered_peer` ends for a command without a target: the provider,
  the id of its approval and its attestation flags, or an error. -/
  | brokered (cmd : ProxyRequestCommand) (answer : Except String (String × String × Nat))
      (session : Session)
  /-- The data channel a request waits for is open. -/
  | channelReady (reqId channel : String) (answers : Answers)
  /-- The polls of a data channel are used up. -/
  | gaveUp (reqId : String)
  /-- Other tasks of this process number requests. -/
  | requestsNumbered (count : Nat)
  | catalogChanged (teeCatalogued : String → Bool)
  /-- Anything else that happens to the manager. -/
  | cluster (e : ClusterEvent)

inductive ConsumerOutput where
  | cluster (o : ClusterOutput)
  /-- `track_consumer_exchange`. -/
  | tracked (reqId targetPeer : String)
  /-- Told to the caller of a request, whether or not it is still registered. -/
  | tell (reqId : String) (item : Except String String)
  /-- A command turned down before its request has an id. -/
  | reject (error : String)

variable (m : Manager)

/-! ## Commands -/

/-- The request is numbered, tracked and registered, and waits in a task. -/
def registerRequest (s : ConsumerState) (cmd : ProxyRequestCommand) (targetPeer : String)
    (delayed : Bool) : ConsumerState × List ConsumerOutput :=
  let reqId := m.peerId ++ ":" ++ toString s.nextReqId
  ({ s with
    cluster := { s.cluster with pendingRequests := update s.cluster.pendingRequests reqId true }
    nextReqId := s.nextReqId + 1
    waiting := s.waiting ++ [⟨reqId, targetPeer, cmd.path, cmd.body, delayed⟩] },
    [.tracked reqId targetPeer])

/-- A session with a peer is kept. -/
def ConsumerState.keepSession (s : ConsumerState) (peer : String) : ConsumerState :=
  { s with cluster := { s.cluster with peers := update s.cluster.peers peer true } }

/-- `connect_and_proxy`. A command is lost when its session cannot be made, or
when another task is still making it. -/
def connectAndProxy (s : ConsumerState) (cmd : ProxyRequestCommand) (targetPeer : String)
    (connectReqId : Option String) (session : Session) : ConsumerState × List ConsumerOutput :=
  match session, connectReqId with
  | .absent _, none => (s, [.reject "Missing connection approval for new WebRTC session"])
  | .absent true, some _ => registerRequest m (s.keepSession targetPeer) cmd targetPeer true
  | .absent false, some _ => (s, [])
  | .negotiating, _ => (s, [])
  | .opening, _ => registerRequest m s cmd targetPeer true
  | .opened, _ => registerRequest m s cmd targetPeer false

/-- A command is for this manager's cluster. -/
def commandMatches (cmd : ProxyRequestCommand) : Bool := cmd.clusterId.all (· = m.clusterId)

/-- `handle_proxy_cmd`, up to the lobby's answer. -/
def onConsumerCommand (s : ConsumerState) (cmd : ProxyRequestCommand) (session : Session) :
    ConsumerState × List ConsumerOutput :=
  match commandMatches m cmd, cmd.targetPeer with
  | true, some peer =>
    if s.cluster.proxy.isPeerBlocked peer then (s, [.reject ("Peer " ++ peer ++ " is blocked")])
    else connectAndProxy m s cmd peer none session
  | _, _ => (s, [])

/-- `handle_proxy_cmd`, from the lobby's answer on. -/
def onBrokered (s : ConsumerState) (cmd : ProxyRequestCommand)
    (answer : Except String (String × String × Nat)) (session : Session) :
    ConsumerState × List ConsumerOutput :=
  match commandMatches m cmd, cmd.targetPeer, answer with
  | true, none, .error error => (s, [.reject error])
  | true, none, .ok (peer, reqId, flags) =>
    if !peerConnectionAllowed m.host s.cluster.proxy.config.allowUnattestedPeers flags then
      (s, [.reject "Provider is not attested"])
    else connectAndProxy m { s with cluster := s.cluster.noteHint peer flags } cmd peer (some reqId)
      session
  | _, _, _ => (s, [])

/-! ## Sending -/

/-- `send_cluster_proxy_on_dc`, with the error it ends in. -/
def sendClusterProxyOnDc (s : ClusterState) (reqId path : String) (body : Json) (answers : Answers) :
    ClusterState × List ChannelEffect × Option String :=
  if m.host.e2eeEnabled then
    match sendEncryptedProxyRequest m.host s.proxy.config answers m.peerId reqId path body
      m.clusterId none with
    | (sent, .ok state) =>
      ({ s with
        pendingEncryptedConsumer := update s.pendingEncryptedConsumer reqId (some state) },
        sent.map .stream, none)
    | (sent, .error error) => (s, sent.map .stream, some error)
  else
    let messages := plaintextRequest reqId path body
    let sent := sendDcInOrder answers messages
    (s, sent, if sent.length = messages.length then none else some "data channel message not sent")

/-- What its caller is told when a request could not be sent: nothing, if the
data channel was open from the start. -/
def sendFailure (waiting : WaitingRequest) (error : Option String) : List ConsumerOutput :=
  match error with
  | some error =>
    if waiting.delayed then [.tell waiting.reqId (.error ("Failed to send: " ++ error))] else []
  | none => []

def ConsumerState.waitingFor (s : ConsumerState) (reqId : String) : Option WaitingRequest :=
  s.waiting.find? fun waiting => waiting.reqId = reqId

/-- The task of a request ends. -/
def ConsumerState.dropWaiting (s : ConsumerState) (reqId : String) : ConsumerState :=
  { s with waiting := s.waiting.filter fun waiting => waiting.reqId ≠ reqId }

def onChannelReady (s : ConsumerState) (reqId channel : String) (answers : Answers) :
    ConsumerState × List ConsumerOutput :=
  match s.waitingFor reqId with
  | none => (s, [])
  | some waiting =>
    let (cluster, sent, error) :=
      sendClusterProxyOnDc m s.cluster reqId waiting.path waiting.body answers
    ({ s.dropWaiting reqId with cluster },
      sent.map (fun effect => .cluster (.effect channel effect)) ++ sendFailure waiting error)

/-- The session that never opened is given up with the request. -/
def onGaveUp (s : ConsumerState) (reqId : String) : ConsumerState × List ConsumerOutput :=
  match s.waitingFor reqId with
  | none => (s, [])
  | some waiting =>
    ({ s.dropWaiting reqId with cluster := closePeerConnection s.cluster waiting.targetPeer },
      [.tell reqId (.error "Timeout waiting for WebRTC connection")])

/-! ## The machine -/

/-- One event handled. A local request is only sent by the events above. -/
def consumerStep (s : ConsumerState) : ConsumerEvent → ConsumerState × List ConsumerOutput
  | .command cmd session => onConsumerCommand m s cmd session
  | .brokered cmd answer session => onBrokered m s cmd answer session
  | .channelReady reqId channel answers => onChannelReady m s reqId channel answers
  | .gaveUp reqId => onGaveUp s reqId
  | .requestsNumbered count => ({ s with nextReqId := s.nextReqId + count }, [])
  | .catalogChanged teeCatalogued => ({ s with teeCatalogued }, [])
  | .cluster (.sendRequest ..) => (s, [])
  | .cluster e =>
    let (cluster, outputs) := clusterStep m s.cluster e
    ({ s with cluster }, outputs.map .cluster)

abbrev ConsumerRecord := Record ConsumerState ConsumerEvent ConsumerOutput

def consumerMachine : Machine ConsumerState ConsumerEvent ConsumerOutput := ⟨consumerStep m⟩

def ConsumerState.initial (proxy : ProxyState) (teeCatalogued : String → Bool) (now nextReqId : Nat) :
    ConsumerState where
  cluster := .initial proxy now
  teeCatalogued := teeCatalogued
  nextReqId := nextReqId
  waiting := []

end MtrxPeer
