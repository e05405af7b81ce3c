import MtrxPeer.Sample
import MtrxPeer.SwarmServed

/-! Who is turned away. A blocked sender, a network that takes no jobs and one
the user has left should all bar a request; each dispatcher asks some of these
questions in its own order, so what is decided here is when the answer to a
request is a refusal. -/
namespace MtrxPeer

/-! ## Clusters -/

section Cluster

variable {m : Manager} {s : ClusterState} {id : String} {channel : Channel} {answers : Answers}

/-- Whether requests of a consumer are barred in a cluster: it is blocked, or the
cluster takes no jobs, was disconnected, or was removed. -/
def clusterBars (proxy : ProxyState) (clusterId consumer : String) : Bool :=
  proxy.isPeerBlocked consumer || (findCluster proxy.config clusterId).all fun c =>
    !clusterAcceptsJobs c || !clusterIsConnected c

/-- A request that a message of a channel completes: a plaintext one that is not
even read, a plaintext one whose body may fail to parse, or an encrypted one. -/
inductive ClusterRequest where
  | gated (reqId : String)
  | plaintext (reqId path : String) (body : Option Json)
  | encrypted (request : EncryptedRequest) (recovered : Except String Json)

def clusterRequest (host : Host) (config : ClientConfig) (channel : Channel) (msg : StreamMessage) :
    Option ClusterRequest :=
  match msg with
  | .proxyRequest reqId path body =>
    if channel.isProvider && host.e2eeEnabled then some (.gated reqId)
    else some (.plaintext reqId path (some body))
  | .proxyRequestEnd reqId =>
    if channel.isProvider && host.e2eeEnabled then some (.gated reqId)
    else (channel.pendingIncoming reqId).map fun pending =>
      .plaintext reqId pending.path (assemblePlaintext pending)
  | other => (encryptedArrival host config channel other).map fun (request, recovered) =>
    .encrypted request recovered

/-- The reply of the first check on a request's path that it fails: the gate in
front of plaintext requests, the recovery of an encrypted body, its proof, the
sidecar, the block list, the cluster's `accepting_jobs` and the approved model.
A plaintext body that does not parse gets none. -/
def ClusterRequest.refusalReply (m : Manager) (s : ClusterState) (channel : Channel)
    (answers : Answers) : ClusterRequest → Option StreamMessage
  | .gated reqId =>
    some (.proxyResponseError reqId "Plaintext proxy rejected; upgrade to E2EE v2")
  | .plaintext _ _ none => none
  | .plaintext reqId path (some body) =>
    ((Arrived.plaintext reqId path body).refusal m s channel).map (.proxyResponseError reqId)
  | .encrypted request (.error error) =>
    some (encryptedErrorResponse request.reqId request.aadVersion error)
  | .encrypted request (.ok body) =>
    match verifyEncryptedRequestAuth m.host s.proxy.config answers.unixNow request.auth
      request.roomId with
    | some error => some (encryptedErrorResponse request.reqId request.aadVersion error)
    | none =>
      if m.host.inferenceSidecarEnabled then some (sidecarReply m.host s.proxy answers request)
      else ((Arrived.encrypted request body).refusal m s channel).map
        (encryptedErrorResponse request.reqId request.aadVersion)

/-- An error sent to the consumer. -/
def ChannelEffect.isErrorReply : ChannelEffect → Bool
  | .data (.proxyResponseError ..) => true
  | .stream (.encryptedProxyResponse _ _ _ _ error _) => error.isSome
  | _ => false

/-- No backend is called, and the consumer is sent an error. -/
def Refuses (effects : List ChannelEffect) : Prop :=
  (∀ call, .forward call ∉ effects) ∧ ∃ effect ∈ effects, effect.isErrorReply = true

private theorem refuses_sendDcMessage (reqId error : String) :
    Refuses (sendDcMessage answers (.proxyResponseError reqId error)) ↔
      canSend answers (.proxyResponseError reqId error) = true := by
  by_cases sent : canSend answers (.proxyResponseError reqId error) = true
  · simp [sendDcMessage, DataChannelMessage.asStream, Refuses, ChannelEffect.isErrorReply, sent]
  · simp [sendDcMessage, DataChannelMessage.asStream, Refuses, sent]

private theorem refuses_sendStreamMessage (reqId error : String) (version : Nat) :
    Refuses (sendStreamMessage answers (encryptedErrorResponse reqId version error)) ↔
      canSend answers (encryptedErrorResponse reqId version error) = true := by
  by_cases sent : canSend answers (encryptedErrorResponse reqId version error) = true
  · simp only [sendStreamMessage, sent, ↓reduceIte, iff_true]
    exact ⟨by simp, _, List.mem_singleton_self _, rfl⟩
  · simp [sendStreamMessage, Refuses, sent]

private theorem not_refuses_servePlaintext (reqId path : String) (body : Json) :
    ¬ Refuses (servePlaintext m.host s.proxy answers reqId path body) := by
  rintro ⟨quiet, -⟩
  exact quiet _ (servePlaintext_forward.mpr rfl)

private theorem not_refuses_serveEncrypted (request : EncryptedRequest) (body : Json) :
    ¬ Refuses (serveEncrypted m.host s.proxy answers request body) := by
  rintro ⟨quiet, effect, member, -⟩
  by_cases acked : canSend answers (.encryptedProxyResponse request.reqId [] [] request.aadVersion
      none (some true)) = true
  · exact quiet _ (serveEncrypted_forward.mpr ⟨acked, rfl⟩)
  · simp [serveEncrypted, acked] at member

/-- What a completed request comes to. -/
def ClusterRequest.outcome (m : Manager) (s : ClusterState) (channel : Channel)
    (answers : Answers) : ClusterRequest → List ChannelEffect
  | .gated reqId => sendDcMessage answers
      (.proxyResponseError reqId "Plaintext proxy rejected; upgrade to E2EE v2")
  | .plaintext _ _ none => []
  | .plaintext reqId path (some body) =>
    (dispatched m s channel answers (.plaintext reqId path body)).2
  | .encrypted request recovered => (dispatchRecovered m.host s.proxy answers m.clusterId
      channel.peer s.approvedProxyModels request recovered).2

private theorem onMessage_plaintext {msg : StreamMessage} {dc : DataChannelMessage}
    (read : msg.asDataChannel = some dc) (request : msg.isEncryptedRequest = false)
    (answer : msg.isEncryptedAnswer = false) :
    onMessage m s id channel msg answers = gateDataChannelMessage m s id channel dc answers := by
  simp [onMessage, request, answer, read]

private theorem onMessage_clusterRequest {msg : StreamMessage} {request : ClusterRequest}
    (complete : clusterRequest m.host s.proxy.config channel msg = some request) :
    (onMessage m s id channel msg answers).2 = request.outcome m s channel answers := by
  have encryptedCase : ∀ {msg : StreamMessage}, (encryptedArrival m.host s.proxy.config channel
      msg).map (fun (request, recovered) => ClusterRequest.encrypted request recovered) =
        some request →
      (onMessage m s id channel msg answers).2 = request.outcome m s channel answers := by
    intro msg complete
    obtain ⟨⟨request, recovered⟩, arrival, rfl⟩ := Option.map_eq_some_iff.mp complete
    exact onMessage_encrypted arrival
  cases msg with
  | proxyRequest reqId path body =>
    rw [onMessage_plaintext rfl rfl rfl]
    simp only [clusterRequest] at complete
    split at complete
    · rename_i gated
      obtain rfl := Option.some.inj complete
      simp [gateDataChannelMessage, DataChannelMessage.plaintextRequestId, gated,
        ClusterRequest.outcome]
    · rename_i passed
      obtain rfl := Option.some.inj complete
      simp [gateDataChannelMessage, DataChannelMessage.plaintextRequestId, passed,
        onDataChannelMessage, dispatched, ClusterRequest.outcome]
  | proxyRequestEnd reqId =>
    rw [onMessage_plaintext rfl rfl rfl]
    simp only [clusterRequest] at complete
    split at complete
    · rename_i gated
      obtain rfl := Option.some.inj complete
      simp [gateDataChannelMessage, DataChannelMessage.plaintextRequestId, gated,
        ClusterRequest.outcome]
    · rename_i passed
      obtain ⟨pending, found, rfl⟩ := Option.map_eq_some_iff.mp complete
      simp only [gateDataChannelMessage, DataChannelMessage.plaintextRequestId, passed,
        onDataChannelMessage, found, Bool.false_eq_true, ↓reduceIte]
      cases assemblePlaintext pending with
      | none => rfl
      | some body => rfl
  | _ => exact encryptedCase complete

/-- A completed request is refused exactly when it fails a check on its path and
the reply can be sent. -/
theorem onMessage_refuses {msg : StreamMessage} {request : ClusterRequest}
    (complete : clusterRequest m.host s.proxy.config channel msg = some request) :
    Refuses (onMessage m s id channel msg answers).2 ↔
      ∃ reply, request.refusalReply m s channel answers = some reply ∧
        canSend answers reply = true := by
  rw [onMessage_clusterRequest complete]
  cases request with
  | gated reqId => simp [ClusterRequest.outcome, ClusterRequest.refusalReply, refuses_sendDcMessage]
  | plaintext reqId path body =>
    cases body with
    | none => simp [ClusterRequest.outcome, ClusterRequest.refusalReply, Refuses]
    | some body =>
      simp only [ClusterRequest.outcome, ClusterRequest.refusalReply, dispatched, dispatchProxyRequest,
        Arrived.refusal, Arrived.approval, Arrived.body]
      cases clusterRefusal s.proxy m.clusterId channel.peer (requestedModel body)
        (if channel.isProvider = true then s.approvedProxyModels channel.peer else none) with
      | none => simp [not_refuses_servePlaintext]
      | some error => simp [refuses_sendDcMessage]
  | encrypted request recovered =>
    cases recovered with
    | error error =>
      simp [ClusterRequest.outcome, ClusterRequest.refusalReply, dispatchRecovered,
        sendEncryptedStreamError, refuses_sendStreamMessage]
    | ok body =>
      simp only [ClusterRequest.outcome, ClusterRequest.refusalReply, dispatchRecovered,
        dispatchClusterEncryptedProxyBody, Arrived.refusal, Arrived.approval, Arrived.body]
      cases verifyEncryptedRequestAuth m.host s.proxy.config answers.unixNow request.auth
        request.roomId with
      | some error => simp [sendEncryptedStreamError, refuses_sendStreamMessage]
      | none =>
        cases m.host.inferenceSidecarEnabled with
        | true =>
          obtain ⟨error, reply, only⟩ := serveBySidecar_eq m.host s.proxy answers request
          simp only [↓reduceIte, only, reply, sendEncryptedStreamError, refuses_sendStreamMessage,
            Option.some.injEq, exists_eq_left']
        | false =>
          simp only [Bool.false_eq_true, ↓reduceIte]
          cases clusterRefusal s.proxy m.clusterId channel.peer (requestedModel body)
            (s.approvedProxyModels channel.peer) with
          | none => simp [not_refuses_serveEncrypted]
          | some error => simp [sendEncryptedStreamError, refuses_sendStreamMessage]

end Cluster

/-! ## Swarms -/

section Swarm

variable {m : SwarmManager} {s : SwarmState} {peer : PeerId} {answers : Answers}

/-- Whether requests of a consumer are barred in a swarm: it is blocked, or the
swarm takes no jobs, was disconnected, or was removed. -/
def swarmBars (proxy : ProxyState) (swarmId consumer : String) : Bool :=
  proxy.isPeerBlocked consumer || (findSwarm proxy.config swarmId).all fun membership =>
    !swarmAcceptsJobs membership || !swarmIsConnected membership

/-- The messages of a peer that ask for an answer of the backend. -/
def StreamMessage.isSwarmRequest : StreamMessage → Bool
  | .proxyRequest .. | .proxyRequestEnd .. | .encryptedProxyRequest .. => true
  | _ => false

/-- Whether a request fails a check on its path. Encrypted requests are not asked
whether the swarm takes jobs, and with the sidecar not even whether their sender
is blocked. -/
def swarmTurnsAway (m : SwarmManager) (s : SwarmState) (peer : PeerId) (answers : Answers) :
    StreamMessage → Bool
  | .proxyRequest .. =>
    m.host.e2eeEnabled || (swarmRefusal s.proxy m.swarmId (s.nameOf peer)).isSome
  | .proxyRequestEnd reqId =>
    ((s.pendingIncomingProxy reqId).bind assemblePlaintext).isNone ||
      (swarmRefusal s.proxy m.swarmId (s.nameOf peer)).isSome
  | .encryptedProxyRequest reqId path roomId pk nonce ciphertext _ auth =>
    !auth.any (verifySwarmAuth m answers.unixNow) ||
      !encryptedAdmitted m.host s.proxy answers (s.nameOf peer) ||
      !(decryptInboundRequest m.host s.proxy.config roomId reqId path pk nonce ciphertext).isOk
  | _ => false

/-- A response that only says what went wrong. -/
def StreamMessage.isErrorResponse : StreamMessage → Bool
  | .proxyResponse _ _ error => error.isSome
  | .encryptedProxyResponse _ _ _ _ error _ => error.isSome
  | _ => false

/-- No backend is called, and the peer is sent an error. -/
def RefusesPeer (peer : PeerId) (outputs : List SwarmOutput) : Prop :=
  Quiet outputs ∧ ∃ msg, .respond peer msg ∈ outputs ∧ msg.isErrorResponse = true

private theorem refusesPeer_respond {msg : StreamMessage} (error : msg.isErrorResponse = true) :
    RefusesPeer peer (respond answers peer msg) ↔ answers.channelOpen = true := by
  constructor
  · rintro ⟨-, other, member, -⟩
    by_contra closed
    simp [respond, closed] at member
  · intro waits
    exact ⟨quiet_respond msg, msg, by simp [respond, waits], error⟩

private theorem not_refusesPeer {outputs : List SwarmOutput} {call : BackendCall}
    (called : .forward call ∈ outputs) : ¬ RefusesPeer peer outputs :=
  fun refused => refused.1 call called

@[simp] theorem sendReverse_nil : sendReverse m s peer [] = (s, []) := by
  unfold sendReverse
  split <;> rfl

private theorem refusesPeer_plaintext (reqId path : String) (body : Json) :
    RefusesPeer peer (dispatchSwarmProxyRequest m.host s.proxy answers m.swarmId (s.nameOf peer) peer
        reqId path body) ↔
      (swarmRefusal s.proxy m.swarmId (s.nameOf peer)).isSome = true ∧
        answers.channelOpen = true := by
  cases refused : swarmRefusal s.proxy m.swarmId (s.nameOf peer) with
  | none =>
    have served : ¬ RefusesPeer peer (dispatchSwarmProxyRequest m.host s.proxy answers m.swarmId
        (s.nameOf peer) peer reqId path body) :=
      not_refusesPeer (dispatchSwarmProxyRequest_forward.mpr ⟨refused, rfl⟩)
    simpa using served
  | some error =>
    have replied : (StreamMessage.proxyResponse reqId "" (some error)).isErrorResponse = true := rfl
    simpa [dispatchSwarmProxyRequest, refused] using refusesPeer_respond replied

private theorem refusesPeer_relay {proxy : ProxyState} {request : EncryptedRequest}
    {nonce ciphertext : Bytes}
    (idle : ¬ (answers.ipcError.isNone = true ∧ (decryptInboundRequest m.host proxy.config
      request.roomId request.reqId request.path request.consumerEphemeralPk nonce
      ciphertext).isOk = true)) :
    RefusesPeer peer (relayToSidecar m.host proxy answers peer request nonce ciphertext) ↔
      answers.channelOpen = true := by
  unfold relayToSidecar
  cases ipc : answers.ipcError with
  | some error =>
    simp only [forwardRequest, ipc]
    exact refusesPeer_respond rfl
  | none =>
    have refused : ∀ body, verifyInboundAuth m.host proxy.config answers.unixNow none = none →
        decryptInboundRequest m.host proxy.config request.roomId request.reqId request.path
          request.consumerEphemeralPk nonce ciphertext ≠ .ok body := by
      intro body _ opened
      simp [ipc, opened, Except.isOk, Except.toBool] at idle
    rcases forwardRequest_refused refused with ⟨error, ran⟩ | ⟨error, ran⟩
    · rw [ran]
      exact refusesPeer_respond rfl
    · rw [ran]
      exact refusesPeer_respond rfl

private theorem refusesPeer_encrypted {proxy : ProxyState} {consumer : String}
    (peer : PeerId) (request : EncryptedRequest) {nonce ciphertext : Bytes}
    (refused : ¬ (encryptedAdmitted m.host proxy answers consumer = true ∧
      (decryptInboundRequest m.host proxy.config request.roomId request.reqId request.path
        request.consumerEphemeralPk nonce ciphertext).isOk = true)) :
    (dispatchSwarmEncryptedProxyRequest m.host proxy answers consumer peer request nonce
        ciphertext).2 = [] ∧
      (RefusesPeer peer (dispatchSwarmEncryptedProxyRequest m.host proxy answers consumer peer
        request nonce ciphertext).1 ↔ answers.channelOpen = true) := by
  unfold encryptedAdmitted at refused
  unfold dispatchSwarmEncryptedProxyRequest
  dsimp only
  split
  · rename_i sidecar
    simp only [sidecar, ↓reduceIte] at refused
    exact ⟨rfl, refusesPeer_relay refused⟩
  · rename_i inProcess
    simp only [inProcess] at refused
    split
    · exact ⟨rfl, refusesPeer_respond rfl⟩
    · rename_i notBlocked
      split
      · exact ⟨rfl, refusesPeer_respond rfl⟩
      · rename_i body opened
        simp [notBlocked, opened, Except.isOk, Except.toBool] at refused

/-- A request of a peer is refused exactly when it fails a check on its path and
the peer still waits. -/
theorem onSwarmRequest_refuses {msg : StreamMessage} (complete : msg.isSwarmRequest = true) :
    RefusesPeer peer (onSwarmRequest m s peer msg answers).2 ↔
      swarmTurnsAway m s peer answers msg = true ∧ answers.channelOpen = true := by
  cases msg with
  | proxyRequest reqId path body =>
    cases e2ee : m.host.e2eeEnabled with
    | true =>
      have replied : (StreamMessage.proxyResponse reqId ""
        (some "Plaintext proxy rejected; upgrade to E2EE v2")).isErrorResponse = true := rfl
      simpa [onSwarmRequest, swarmTurnsAway, e2ee] using refusesPeer_respond replied
    | false =>
      simpa [onSwarmRequest, swarmTurnsAway, e2ee] using
        refusesPeer_plaintext (m := m) (s := s) reqId path body
  | proxyRequestEnd reqId =>
    simp only [onSwarmRequest, onProxyRequestEnd, swarmTurnsAway]
    cases s.pendingIncomingProxy reqId with
    | none =>
      have replied : (StreamMessage.proxyResponse reqId ""
        (some "Unknown proxy request")).isErrorResponse = true := rfl
      simpa using refusesPeer_respond replied
    | some pending =>
      dsimp only [Option.bind_some]
      cases assemblePlaintext pending with
      | none =>
        have replied : (StreamMessage.proxyResponse reqId "" (some ("Invalid JSON body: " ++
          m.host.jsonError (utf8 (plaintextOf pending))))).isErrorResponse = true := rfl
        simpa using refusesPeer_respond replied
      | some body => simpa using refusesPeer_plaintext (m := m) (s := s) reqId pending.path body
  | encryptedProxyRequest reqId path roomId pk nonce ciphertext version auth =>
    cases auth with
    | none =>
      have replied : (encryptedErrorResponse reqId version
        "Proxy auth required").isErrorResponse = true := rfl
      simpa [onSwarmRequest, swarmTurnsAway] using refusesPeer_respond replied
    | some proof =>
      cases verified : verifySwarmAuth m answers.unixNow proof with
      | false =>
        have replied : (encryptedErrorResponse reqId version
          "Proxy auth failed").isErrorResponse = true := rfl
        simpa [onSwarmRequest, swarmTurnsAway, verified] using refusesPeer_respond replied
      | true =>
        by_cases admitted : encryptedAdmitted m.host s.proxy answers (s.nameOf peer) = true ∧
          (decryptInboundRequest m.host s.proxy.config roomId reqId path pk nonce
            ciphertext).isOk = true
        · obtain ⟨passed, recovered⟩ := admitted
          cases opened : decryptInboundRequest m.host s.proxy.config roomId reqId path pk nonce
            ciphertext with
          | error error => simp [opened, Except.isOk, Except.toBool] at recovered
          | ok body =>
            have served : ¬ RefusesPeer peer (onSwarmRequest m s peer (.encryptedProxyRequest reqId
                path roomId pk nonce ciphertext version (some proof)) answers).2 :=
              not_refusesPeer (onSwarmRequest_forward.mpr (.encrypted verified passed opened rfl))
            simp [served, swarmTurnsAway, verified, passed, opened, Except.isOk, Except.toBool]
        · have turned : swarmTurnsAway m s peer answers (.encryptedProxyRequest reqId path roomId pk
              nonce ciphertext version (some proof)) = true := by
            simp only [swarmTurnsAway, Option.any_some, verified, Bool.not_true, Bool.false_or,
              Bool.or_eq_true, Bool.not_eq_true']
            by_contra both
            rw [not_or, Bool.not_eq_false, Bool.not_eq_false] at both
            exact admitted both
          rw [turned]
          have proxy : ∀ b : Bool, (if b = true then s.bindPeer (s.nameOf peer) peer
              else (s.bindPeer (s.nameOf peer) peer).dropReverse peer).proxy = s.proxy := by
            intro b
            cases b <;> rfl
          obtain ⟨noChunks, refused⟩ := refusesPeer_encrypted peer
            ⟨reqId, path, roomId, pk, version, some proof⟩ admitted
          simp only [onSwarmRequest, verified, ↓reduceIte, serveEncryptedRequest, proxy, noChunks,
            sendReverse_nil, List.append_nil, true_and]
          exact refused
  | _ => simp [StreamMessage.isSwarmRequest] at complete

end Swarm

/-! ## Every entry point -/

/-- A request that arrives by some entry point, complete. -/
inductive Entry where
  | cluster (m : Manager) (s : ClusterState) (id : String) (channel : Channel) (msg : StreamMessage)
      (answers : Answers) (request : ClusterRequest)
      (complete : clusterRequest m.host s.proxy.config channel msg = some request)
  | swarm (m : SwarmManager) (s : SwarmState) (peer : PeerId) (msg : StreamMessage)
      (answers : Answers) (complete : msg.isSwarmRequest = true)

/-- The sender is blocked, or the network takes no jobs or was left. -/
def Entry.Barred : Entry → Prop
  | .cluster m s _ channel _ _ _ _ => clusterBars s.proxy m.clusterId channel.peer = true
  | .swarm m s peer _ _ _ => swarmBars s.proxy m.swarmId (s.nameOf peer) = true

/-- No backend is called for the request, and its sender is sent an error. -/
def Entry.Refused : Entry → Prop
  | .cluster m s id channel msg answers _ _ => Refuses (onMessage m s id channel msg answers).2
  | .swarm m s peer msg answers _ => RefusesPeer peer (onSwarmRequest m s peer msg answers).2

/-- The request fails a check that its own path makes, and the error can be sent. -/
def Entry.FailsCheck : Entry → Prop
  | .cluster m s _ channel _ answers request _ =>
    ∃ reply, request.refusalReply m s channel answers = some reply ∧ canSend answers reply = true
  | .swarm m s peer msg answers _ =>
    swarmTurnsAway m s peer answers msg = true ∧ answers.channelOpen = true

/-- Barring is enforced for exactly the requests that, if they are barred, fail a
check their own path makes. -/
theorem admission_enforced_iff (entry : Entry) :
    (entry.Barred → entry.Refused) ↔ (entry.Barred → entry.FailsCheck) := by
  refine imp_congr_right fun _ => ?_
  cases entry with
  | cluster m s id channel msg answers request complete => exact onMessage_refuses complete
  | swarm m s peer msg answers complete => exact onSwarmRequest_refuses complete

/-- The swarm of the sample configuration in maintenance. -/
private def sampleMaintenance : SwarmState := { sampleSwarm with
  proxy := { sampleProxy with
    config := { sampleConfig with swarms := [⟨"s", "t", some false, some true⟩] } } }

/-- The sample swarm with everybody blocked. -/
private def sampleBlocked : SwarmState := { sampleSwarm with
  proxy := { sampleProxy with isPeerBlocked := fun _ => true } }

/-- An encrypted request of the peer `A` to the sample swarm. -/
private def sampleEntry (sidecar : Bool) (s : SwarmState) : Entry :=
  .swarm (sampleSwarmManager true sidecar) s "A" (sampleEncrypted "74"
    (some (buildProxyAuth .transparent 1000 "t" "A"))) sampleAnswers rfl

/-- A swarm in maintenance serves an encrypted request, and with the sidecar it
serves one of a blocked peer. -/
theorem barred_requests_served :
    ¬ ((sampleEntry false sampleMaintenance).Barred →
        (sampleEntry false sampleMaintenance).Refused) ∧
      ¬ ((sampleEntry true sampleBlocked).Barred → (sampleEntry true sampleBlocked).Refused) := by
  constructor
  · intro enforced
    have refused := enforced (show swarmBars _ _ _ = true by decide)
    have failed := (onSwarmRequest_refuses rfl).mp refused
    revert failed
    decide +kernel
  · intro enforced
    have refused := enforced (show swarmBars _ _ _ = true by decide)
    have failed := (onSwarmRequest_refuses rfl).mp refused
    revert failed
    decide +kernel

end MtrxPeer
