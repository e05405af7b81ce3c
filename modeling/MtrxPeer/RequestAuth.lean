import MtrxPeer.Sample
import MtrxPeer.SwarmServed

/-! The membership proofs of encrypted requests. A proof is checked for the peer
it names itself and, in a cluster, under the secret of the room the request
names, and a cluster takes requests without one; so the proof speaks for the
connection when it names the connection's peer and the request its room. -/
namespace MtrxPeer

open Function (update update_of_ne update_self)

/-- Whether a request carried a proof that verifies for `peer` under a secret. -/
def authenticated (P : Primitives) (now : Nat) (auth : Option ProxyAuthProof)
    (secret : Option String) (peer : String) : Bool :=
  match auth, secret with
  | some proof, some secret => verifyProxyAuth P now proof secret peer
  | _, _ => false

/-! ## Clusters -/

section Cluster

variable {m : Manager} {s : ClusterState}

/-- Each encrypted request that a step completes is authenticated for the room
and the peer of its channel, or answered with an error and nothing else. -/
def ClusterAuthenticated (m : Manager) (r : ClusterRecord) : Prop :=
  ∀ id msg answers channel request recovered, r.event = .message id msg answers →
    r.before.channels id = some channel →
    encryptedArrival m.host r.before.proxy.config channel msg = some (request, recovered) →
    authenticated m.host.crypto answers.unixNow request.auth
        (roomSecretForProxy m.host.crypto r.before.proxy.config m.clusterId) channel.peer = true ∨
      ∃ error, r.outputs =
        (sendEncryptedStreamError answers request error).map (.effect id)

/-- The room and the proof of a message that brings them. -/
def StreamMessage.credentials : StreamMessage → Option (String × Option ProxyAuthProof)
  | .encryptedProxyRequest _ _ roomId _ _ _ _ auth => some (roomId, auth)
  | .encryptedProxyRequestStart _ _ roomId _ _ auth => some (roomId, auth)
  | _ => none

/-- The credentials speak for a channel: they name the cluster's room and carry a
proof that names the channel's peer. -/
def SpeaksFor (m : Manager) (channel : Channel) (credentials : String × Option ProxyAuthProof) :
    Prop :=
  credentials.1 = m.clusterId ∧ ∃ proof, credentials.2 = some proof ∧ proof.peerId = channel.peer

/-- The room has a secret, and the credentials that arrive on a channel this peer
serves on speak for it. -/
structure ClusterProofsNamed (m : Manager) (r : ClusterRecord) : Prop where
  secret : (roomSecretForProxy m.host.crypto r.before.proxy.config m.clusterId).isSome = true
  named : ∀ id msg answers channel credentials, r.event = .message id msg answers →
    r.before.channels id = some channel → channel.isProvider = true →
    msg.credentials = some credentials → SpeaksFor m channel credentials

/-- The credentials kept of the requests still being received speak for their
channels. -/
def IncomingNamed (m : Manager) (s : ClusterState) : Prop :=
  ∀ id channel reqId pending, s.channels id = some channel →
    channel.pendingEncryptedIncoming reqId = some pending →
    SpeaksFor m channel (pending.roomId, pending.auth)

private theorem incomingNamed_step {e : ClusterEvent} (kept : IncomingNamed m s)
    (meets : ClusterProofsNamed m ((clusterMachine m).record s e)) :
    IncomingNamed m ((clusterMachine m).step s e).1 := by
  intro id after reqId pending found stored
  rcases clusterStep_channels found with
    same | ⟨peer, isProvider, rfl, rfl⟩ | ⟨msg, answers, channel, rfl, before, steps⟩
  · exact kept id after reqId pending same stored
  · simp [Channel.opened] at stored
  · rcases steps.incoming reqId pending stored with
      ⟨old, storedBefore, sameRoom, sameAuth⟩ | ⟨provider, path, pk, version, rfl⟩
    · obtain ⟨room, proof, carried, named⟩ := kept id channel reqId old before storedBefore
      exact ⟨sameRoom ▸ room, proof, sameAuth ▸ carried, steps.peer ▸ named⟩
    · obtain ⟨room, proof, carried, named⟩ := meets.named id _ answers channel
        (pending.roomId, pending.auth) rfl before provider rfl
      exact ⟨room, proof, carried, steps.peer ▸ named⟩

/-- The credentials of a completed request speak for its channel. -/
private theorem arrival_named {id : String} {channel : Channel} {msg : StreamMessage}
    {answers : Answers} {request : EncryptedRequest} {recovered : Except String Json}
    (kept : IncomingNamed m s)
    (meets : ClusterProofsNamed m ((clusterMachine m).record s (.message id msg answers)))
    (found : s.channels id = some channel)
    (complete : encryptedArrival m.host s.proxy.config channel msg = some (request, recovered)) :
    SpeaksFor m channel (request.roomId, request.auth) := by
  cases msg with
  | encryptedProxyRequest reqId path roomId pk nonce ciphertext version auth =>
    simp only [encryptedArrival] at complete
    split at complete
    · rename_i provider
      obtain ⟨rfl, -⟩ := Prod.mk.inj (Option.some.inj complete)
      exact meets.named id _ answers channel (roomId, auth) rfl found provider rfl
    · cases complete
  | encryptedProxyRequestEnd reqId =>
    simp only [encryptedArrival] at complete
    split at complete
    · obtain ⟨incoming, stored, same⟩ := Option.map_eq_some_iff.mp complete
      obtain ⟨rfl, -⟩ := Prod.mk.inj same
      exact kept id channel reqId incoming found stored
    · cases complete
  | _ => cases complete

/-- A request whose credentials speak for its channel passes the dispatcher's
check exactly when it is authenticated. -/
private theorem verifyEncryptedRequestAuth_named {channel : Channel} {request : EncryptedRequest}
    {secret : String} (now : Nat) (named : SpeaksFor m channel (request.roomId, request.auth))
    (known : roomSecretForProxy m.host.crypto s.proxy.config m.clusterId = some secret) :
    verifyEncryptedRequestAuth m.host s.proxy.config now request.auth request.roomId =
      if authenticated m.host.crypto now request.auth (some secret) channel.peer then none
      else some "Proxy auth failed" := by
  obtain ⟨room, proof, carried, same⟩ := named
  dsimp only at room carried
  simp only [verifyEncryptedRequestAuth, carried, room, known, authenticated, same]

private theorem dispatchRecovered_unverified {proxy : ProxyState} {answers : Answers}
    {error : String} {request : EncryptedRequest} (consumer : String)
    (approvals : String → Option String)
    (failed : verifyEncryptedRequestAuth m.host proxy.config answers.unixNow request.auth
      request.roomId = some error) (recovered : Except String Json) :
    ∃ error, (dispatchRecovered m.host proxy answers m.clusterId consumer approvals request
      recovered).2 = sendEncryptedStreamError answers request error := by
  cases recovered with
  | error why => exact ⟨why, rfl⟩
  | ok body =>
    refine ⟨error, ?_⟩
    simp only [dispatchRecovered, dispatchClusterEncryptedProxyBody, failed]

private theorem clusterAuthenticated_step {e : ClusterEvent} (kept : IncomingNamed m s)
    (meets : ClusterProofsNamed m ((clusterMachine m).record s e)) :
    ClusterAuthenticated m ((clusterMachine m).record s e) := by
  rintro id msg answers channel request recovered rfl found complete
  change s.channels id = some channel at found
  change encryptedArrival m.host s.proxy.config channel msg = some (request, recovered) at complete
  obtain ⟨secret, known⟩ := Option.isSome_iff_exists.mp meets.secret
  have named := arrival_named kept meets found complete
  have check := verifyEncryptedRequestAuth_named answers.unixNow named known
  by_cases passed : authenticated m.host.crypto answers.unixNow request.auth (some secret)
      channel.peer = true
  · left
    simpa only [known] using passed
  · right
    rw [if_neg passed] at check
    obtain ⟨error, only⟩ := dispatchRecovered_unverified channel.peer s.approvedProxyModels check
      recovered
    refine ⟨error, ?_⟩
    have effects : (onMessage m s id channel msg answers).2 = _ := onMessage_encrypted complete
    simp only [Machine.record, clusterMachine, clusterStep, found, effects]
    exact congrArg (List.map (ClusterOutput.effect id)) only

end Cluster

/-! ## Swarms -/

section Swarm

variable {m : SwarmManager} {s : SwarmState}

/-- Each encrypted request of a step is authenticated for the swarm and the peer
of its connection, or answered with an error and nothing else. -/
def SwarmAuthenticated (m : SwarmManager) (r : SwarmRecord) : Prop :=
  ∀ peer reqId path roomId pk nonce ciphertext version auth answers, r.event = .request peer
      (.encryptedProxyRequest reqId path roomId pk nonce ciphertext version auth) answers →
    authenticated m.host.crypto answers.unixNow auth (some m.p2pToken) (r.before.nameOf peer) =
        true ∨
      ∃ error, r.outputs = respond answers peer (encryptedErrorResponse reqId version error)

/-- A proof that an encrypted request carries names the peer of its connection. -/
def SwarmProofsNamed (r : SwarmRecord) : Prop :=
  ∀ peer msg answers roomId proof, r.event = .request peer msg answers →
    msg.credentials = some (roomId, some proof) → proof.peerId = r.before.nameOf peer

private theorem swarmAuthenticated_step {e : SwarmEvent}
    (meets : SwarmProofsNamed ((swarmMachine m).record s e)) :
    SwarmAuthenticated m ((swarmMachine m).record s e) := by
  rintro peer reqId path roomId pk nonce ciphertext version auth answers rfl
  cases auth with
  | none => exact .inr ⟨"Proxy auth required", rfl⟩
  | some proof =>
    have named := meets peer _ answers roomId proof rfl rfl
    by_cases verified : verifySwarmAuth m answers.unixNow proof = true
    · left
      rw [verifySwarmAuth, named] at verified
      exact verified
    · right
      refine ⟨"Proxy auth failed", ?_⟩
      simp [Machine.record, swarmMachine, swarmStep, onSwarmRequest, verified]

end Swarm

/-! ## Runs -/

def ClusterOutput.isCall : ClusterOutput → Bool
  | .effect _ (.forward _) => true
  | _ => false

private theorem sendEncryptedStreamError_noCall {answers : Answers} {request : EncryptedRequest}
    {error id : String} :
    ((sendEncryptedStreamError answers request error).map (ClusterOutput.effect id)).any
      ClusterOutput.isCall = false := by
  unfold sendEncryptedStreamError sendStreamMessage
  split <;> rfl

end MtrxPeer
