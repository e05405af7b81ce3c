import MtrxPeer.DataChannel
import MtrxPeer.Runs

/-! A cluster manager as a machine: lobby messages, the user's answers to
connection requests, the data channels, and changes made elsewhere in the
process. Each event is handled as one step, with the tasks it spawns. -/
namespace MtrxPeer

open Function (update update_of_ne update_self)

/-- What happens to a cluster manager. -/
inductive ClusterEvent where
  /-- A message arrives on a data channel. -/
  | message (channel : String) (msg : StreamMessage) (answers : Answers)
  /-- The handlers of a data channel are set up. -/
  | channelOpened (channel peer : String) (isProvider : Bool)
  /-- A local request is registered and sent on an open data channel. -/
  | sendRequest (channel reqId path : String) (body : Json) (answers : Answers)
  | connectOffer (reqId model requestedBy : String) (requestedByAttestationFlags : Option Nat)
  | connectUpdate (reqId status : String) (providerPeer : Option String)
      (providerAttestationFlags : Option Nat)
  /-- A request for a brokered peer is sent to the lobby. -/
  | requestPeerConnect (reqId : String)
  /-- A brokered provider's flags are noted before connecting to it. -/
  | brokered (peer : String) (flags : Nat)
  /-- `Route` from the lobby; `created` says whether WebRTC gave a connection. -/
  | route (sender : String) (payload : Json) (created : Bool)
  | peerBanned (peerId : String)
  /-- The user answers a connection request. -/
  | respond (reqId : String) (accept : Bool) (clusterId : Option String)
  /-- The configuration, the servers or the block list change. -/
  | proxyChanged (proxy : ProxyState)
  /-- Other managers change the shared list of connection requests. -/
  | offersChanged (offers : List IncomingConnectionOffer)
  | elapsed (time : Nat)

/-- What a cluster manager does. -/
inductive ClusterOutput where
  | effect (channel : String) (effect : ChannelEffect)
  /-- A connection allowance is granted. -/
  | granted (reqId requester model : String)
  /-- `RespondConnectOffer` to the lobby. -/
  | answered (reqId : String) (accept : Bool)
  /-- An SDP offer used its allowance up. -/
  | approved (peer connectReqId model : String)
  /-- An inbound WebRTC session is created. -/
  | session (peer connectReqId : String)

variable (m : Manager)

/-! ## Connection requests -/

def peerConnectionAllowed (host : Host) (allowUnattestedPeers : Bool) (peerFlags : Nat) : Bool :=
  allowUnattestedPeers || (peerFlags &&& host.attestationMtrxaiBuild) != 0

/-- A request leaves the list of those that wait for an answer. -/
def ClusterState.dropOffer (s : ClusterState) (reqId : String) : ClusterState :=
  { s with
    incomingConnectionOffers := s.incomingConnectionOffers.filter fun o => o.reqId ≠ reqId }

/-- A request joins that list, in place of one with its id. -/
def ClusterState.addOffer (s : ClusterState) (offer : IncomingConnectionOffer) : ClusterState :=
  { s with incomingConnectionOffers := (s.dropOffer offer.reqId).incomingConnectionOffers ++ [offer] }

/-- `grant_connection_allowance`. -/
def ClusterState.grantAllowance (s : ClusterState) (reqId requester model : String) : ClusterState :=
  { s with connectionAllowances :=
      s.connectionAllowances.grant s.now connectionAllowanceTtl reqId requester model }

/-- The attestation flags last heard of a peer. -/
def ClusterState.noteHint (s : ClusterState) (peer : String) (flags : Nat) : ClusterState :=
  { s with peerAttestationHints := update s.peerAttestationHints peer (some flags) }

/-- `respond_to_connect_offer`; `requester` is the requesting peer and its model. -/
def respondToConnectOffer (s : ClusterState) (reqId : String) (accept : Bool)
    (requester : Option (String × String)) : ClusterState × List ClusterOutput :=
  match accept, requester with
  | true, some (peer, model) =>
    ((s.dropOffer reqId).grantAllowance reqId peer model,
      [.granted reqId peer model, .answered reqId true])
  | accept, _ => (s.dropOffer reqId, [.answered reqId accept])

/-- The `ConnectOffer` handler. -/
def onConnectOffer (s : ClusterState) (reqId model requestedBy : String) (flags : Option Nat) :
    ClusterState × List ClusterOutput :=
  let config := s.proxy.config
  let noted := s.noteHint requestedBy (flags.getD 0)
  let attestationOk := peerConnectionAllowed m.host config.allowUnattestedPeers (flags.getD 0)
  if config.autoApproveInferenceConnections then
    if clusterAccepting config m.clusterId && attestationOk then
      respondToConnectOffer noted reqId true (some (requestedBy, model))
    else respondToConnectOffer noted reqId false none
  else if !attestationOk then respondToConnectOffer noted reqId false none
  else (noted.addOffer ⟨reqId, model, some m.clusterId, requestedBy⟩, [])

/-- `handle_connection_action`: the user's answer, addressed to one cluster. -/
def onRespond (s : ClusterState) (reqId : String) (accept : Bool) (clusterId : Option String) :
    ClusterState × List ClusterOutput :=
  if clusterId ≠ some m.clusterId then (s, [])
  else match s.incomingConnectionOffers.find? fun o => o.reqId = reqId, accept with
    | none, _ => (s, [])
    | some offer, true =>
      respondToConnectOffer s reqId true (some (offer.requestedBy, offer.model))
    | some _, false => respondToConnectOffer s reqId false none

/-- `pending_connect_approvals.remove`. -/
def ClusterState.dropApproval (s : ClusterState) (reqId : String) : ClusterState :=
  { s with pendingConnectApprovals := update s.pendingConnectApprovals reqId false }

/-- The `ConnectUpdate` handler, as far as it changes the manager: an approved
provider that is attested has its flags noted. -/
def onConnectUpdate (s : ClusterState) (reqId status : String) (providerPeer : Option String)
    (flags : Option Nat) : ClusterState :=
  if status = "approved" then
    match s.pendingConnectApprovals reqId &&
      peerConnectionAllowed m.host s.proxy.config.allowUnattestedPeers (flags.getD 0), providerPeer with
    | true, some peer => (s.dropApproval reqId).noteHint peer (flags.getD 0)
    | _, _ => s.dropApproval reqId
  else if status = "failed" ∨ status = "rejected" ∨ status = "timeout" then s.dropApproval reqId
  else s

/-! ## Sessions -/

/-- `payload_cluster_matches`. -/
def payloadClusterMatches (payload : Json) (clusterId : String) : Bool :=
  (((payload.get "cluster_id").or (payload.get "room_id")).bind Json.asStr).any (· = clusterId)

/-- Why an SDP offer is turned away before its allowance is looked at. -/
def offerRefusal (s : ClusterState) (sender : String) (payload : Json) : Option String :=
  if !payloadClusterMatches payload m.clusterId then some "room_id mismatch"
  else if s.proxy.isPeerBlocked sender then some "peer is blocked"
  else if !clusterAccepting s.proxy.config m.clusterId then some "maintenance mode"
  else if !peerConnectionAllowed m.host s.proxy.config.allowUnattestedPeers
    ((s.peerAttestationHints sender).getD 0) then some "requester is not attested"
  else none

/-- The state after an offer used its allowance: the model is approved for its
sender, and a session is kept if WebRTC gave a connection. -/
def ClusterState.openSession (s : ClusterState) (store : ConnectionAllowanceStore)
    (sender model : String) (created : Bool) : ClusterState :=
  { s with
    connectionAllowances := store
    approvedProxyModels := update s.approvedProxyModels sender (some model)
    peers := if created then update s.peers sender true else s.peers }

/-- The handler of an SDP offer. -/
def onOffer (s : ClusterState) (sender : String) (payload : Json) (created : Bool) :
    ClusterState × List ClusterOutput :=
  match offerRefusal m s sender payload, (payload.get "connect_req_id").bind Json.asStr with
  | none, some connectReqId =>
    match s.connectionAllowances.validateAndConsume s.now connectReqId sender with
    | (none, store) => ({ s with connectionAllowances := store }, [])
    | (some model, store) =>
      (s.openSession store sender model created, .approved sender connectReqId model ::
        if created then [.session sender connectReqId] else [])
  | _, _ => (s, [])

/-- The `Route` handler; an answer only completes a session that exists. -/
def onRoute (s : ClusterState) (sender : String) (payload : Json) (created : Bool) :
    ClusterState × List ClusterOutput :=
  if (payload.get "sdp_type").bind Json.asStr = some "offer" then onOffer m s sender payload created
  else (s, [])

/-- `close_peer_connection`. -/
def closePeerConnection (s : ClusterState) (peerId : String) : ClusterState :=
  { s with peers := update s.peers peerId false }

def blockPeer (proxy : ProxyState) (peerId : String) : ProxyState :=
  { proxy with isPeerBlocked := update proxy.isPeerBlocked peerId true }

/-! ## Local requests -/

/-- `send_proxy_request`: a plaintext request in chunks. -/
def plaintextRequest (reqId path : String) (body : Json) : List DataChannelMessage :=
  .proxyRequestStart reqId path ::
    ((chunkUtf8 body.toText maxDcChunkBytes).mapIdx fun seq chunk =>
      .proxyRequestChunk reqId (seq % 2 ^ 32) chunk) ++ [.proxyRequestEnd reqId]

/-- `send_cluster_proxy_on_dc`, after the caller was registered. -/
def onSendRequest (s : ClusterState) (reqId path : String) (body : Json)
    (answers : Answers) : ClusterState × List ChannelEffect :=
  let s := { s with pendingRequests := update s.pendingRequests reqId true }
  if m.host.e2eeEnabled then
    match sendEncryptedProxyRequest m.host s.proxy.config answers m.peerId reqId path body
      m.clusterId none with
    | (sent, .ok state) =>
      ({ s with
        pendingEncryptedConsumer := update s.pendingEncryptedConsumer reqId (some state) },
        sent.map .stream)
    | (sent, .error _) => (s, sent.map .stream)
  else (s, sendDcInOrder answers (plaintextRequest reqId path body))

/-! ## The machine -/

/-- One event handled. -/
def clusterStep (s : ClusterState) : ClusterEvent → ClusterState × List ClusterOutput
  | .message id msg answers =>
    match s.channels id with
    | none => (s, [])
    | some channel =>
      let (s', effects) := onMessage m s id channel msg answers
      (s', effects.map (.effect id))
  | .channelOpened id peer isProvider => (s.setChannel id (.opened peer isProvider), [])
  | .sendRequest id reqId path body answers =>
    match s.channels id with
    | none => (s, [])
    | some _ =>
      let (s', effects) := onSendRequest m s reqId path body answers
      (s', effects.map (.effect id))
  | .connectOffer reqId model requestedBy flags => onConnectOffer m s reqId model requestedBy flags
  | .connectUpdate reqId status providerPeer flags =>
    (onConnectUpdate m s reqId status providerPeer flags, [])
  | .requestPeerConnect reqId =>
    ({ s with pendingConnectApprovals := update s.pendingConnectApprovals reqId true }, [])
  | .brokered peer flags => (s.noteHint peer flags, [])
  | .route sender payload created => onRoute m s sender payload created
  | .peerBanned peerId =>
    (closePeerConnection { s with proxy := blockPeer s.proxy peerId } peerId, [])
  | .respond reqId accept clusterId => onRespond m s reqId accept clusterId
  | .proxyChanged proxy => ({ s with proxy }, [])
  | .offersChanged offers => ({ s with incomingConnectionOffers := offers }, [])
  | .elapsed time => ({ s with now := s.now + time }, [])

abbrev ClusterRecord := Record ClusterState ClusterEvent ClusterOutput

/-- The machine of one cluster manager. -/
def clusterMachine : Machine ClusterState ClusterEvent ClusterOutput := ⟨clusterStep m⟩

/-- A manager that has just started. -/
def ClusterState.initial (proxy : ProxyState) (now : Nat) : ClusterState where
  proxy := proxy
  now := now
  connectionAllowances := fun _ => none
  approvedProxyModels := fun _ => none
  peerAttestationHints := fun _ => none
  incomingConnectionOffers := []
  pendingConnectApprovals := fun _ => false
  peers := fun _ => false
  channels := fun _ => none
  pendingRequests := fun _ => false
  pendingEncryptedConsumer := fun _ => none

/-! ## What each handler can do -/

variable {m} {s : ClusterState}

theorem onConnectOffer_cases (reqId model requestedBy : String) (flags : Option Nat) :
    let noted := s.noteHint requestedBy (flags.getD 0)
    onConnectOffer m s reqId model requestedBy flags =
        ((noted.dropOffer reqId).grantAllowance reqId requestedBy model,
          [.granted reqId requestedBy model, .answered reqId true]) ∨
      onConnectOffer m s reqId model requestedBy flags =
        (noted.dropOffer reqId, [.answered reqId false]) ∨
      onConnectOffer m s reqId model requestedBy flags =
        (noted.addOffer ⟨reqId, model, some m.clusterId, requestedBy⟩, []) := by
  intro noted
  unfold onConnectOffer
  dsimp only
  split
  · split
    · exact .inl rfl
    · exact .inr (.inl rfl)
  · split
    · exact .inr (.inl rfl)
    · exact .inr (.inr rfl)

theorem onRespond_cases (reqId : String) (accept : Bool) (clusterId : Option String) :
    onRespond m s reqId accept clusterId = (s, []) ∨
      (∃ offer ∈ s.incomingConnectionOffers, offer.reqId = reqId ∧ accept = true ∧
        onRespond m s reqId accept clusterId =
          ((s.dropOffer reqId).grantAllowance reqId offer.requestedBy offer.model,
            [.granted reqId offer.requestedBy offer.model, .answered reqId true])) ∨
      onRespond m s reqId accept clusterId = (s.dropOffer reqId, [.answered reqId false]) := by
  unfold onRespond
  split
  · exact .inl rfl
  · split
    · exact .inl rfl
    · rename_i offer found
      have named : offer.reqId = reqId := by simpa using List.find?_some found
      exact .inr (.inl ⟨offer, List.mem_of_find?_eq_some found, named, rfl, rfl⟩)
    · exact .inr (.inr rfl)

/-- An offer is turned away, or it fails on its allowance, or it uses it up. -/
theorem onOffer_cases (sender : String) (payload : Json) (created : Bool) :
    onOffer m s sender payload created = (s, []) ∨
      (∃ connectReqId store,
        s.connectionAllowances.validateAndConsume s.now connectReqId sender = (none, store) ∧
        onOffer m s sender payload created = ({ s with connectionAllowances := store }, [])) ∨
      ∃ connectReqId model store, offerRefusal m s sender payload = none ∧
        (payload.get "connect_req_id").bind Json.asStr = some connectReqId ∧
        s.connectionAllowances.validateAndConsume s.now connectReqId sender = (some model, store) ∧
        onOffer m s sender payload created =
          (s.openSession store sender model created, .approved sender connectReqId model ::
            if created then [.session sender connectReqId] else []) := by
  unfold onOffer
  split
  · rename_i connectReqId passed named
    split
    · rename_i store ran
      exact .inr (.inl ⟨connectReqId, store, ran, rfl⟩)
    · rename_i model store ran
      exact .inr (.inr ⟨connectReqId, model, store, passed, named, ran, rfl⟩)
  · exact .inl rfl

/-- What an offer must show before its allowance is looked at. -/
structure Admissible (m : Manager) (s : ClusterState) (peer : String) (payload : Json) : Prop where
  clusterMatches : payloadClusterMatches payload m.clusterId = true
  notBlocked : s.proxy.isPeerBlocked peer = false
  acceptsJobs : clusterAccepting s.proxy.config m.clusterId = true
  attested : peerConnectionAllowed m.host s.proxy.config.allowUnattestedPeers
    ((s.peerAttestationHints peer).getD 0) = true

theorem offerRefusal_eq_none {sender : String} {payload : Json} :
    offerRefusal m s sender payload = none ↔ Admissible m s sender payload := by
  unfold offerRefusal
  constructor
  · intro passed
    split_ifs at passed with matching blocked accepting attested
    exact ⟨by simpa using matching, by simpa using blocked, by simpa using accepting,
      by simpa using attested⟩
  · rintro ⟨matching, notBlocked, accepting, attested⟩
    simp [matching, notBlocked, accepting, attested]

theorem onRoute_cases (sender : String) (payload : Json) (created : Bool) :
    onRoute m s sender payload created = (s, []) ∨
      (payload.get "sdp_type").bind Json.asStr = some "offer" ∧
        onRoute m s sender payload created = onOffer m s sender payload created := by
  unfold onRoute
  split
  · rename_i offer
    exact .inr ⟨offer, rfl⟩
  · exact .inl rfl

/-- A connect update touches only the approvals waited for and the hints. -/
theorem onConnectUpdate_cases (reqId status : String) (providerPeer : Option String)
    (flags : Option Nat) :
    (∃ peer flags', onConnectUpdate m s reqId status providerPeer flags =
        (s.dropApproval reqId).noteHint peer flags') ∨
      onConnectUpdate m s reqId status providerPeer flags = s.dropApproval reqId ∨
      onConnectUpdate m s reqId status providerPeer flags = s := by
  unfold onConnectUpdate
  split
  · split
    · exact .inl ⟨_, _, rfl⟩
    · exact .inr (.inl rfl)
  · split
    · exact .inr (.inl rfl)
    · exact .inr (.inr rfl)

@[simp] theorem onSendRequest_lobby (reqId path : String) (body : Json) (answers : Answers) :
    (onSendRequest m s reqId path body answers).1.lobby = s.lobby := by
  unfold onSendRequest
  dsimp only
  split
  · split <;> rfl
  · rfl

/-- The events a data channel is concerned with. -/
def ClusterEvent.isChannel : ClusterEvent → Bool
  | .message .. | .channelOpened .. | .sendRequest .. => true
  | _ => false

/-- Channel events leave the lobby's part of the state alone, and what they do
to the outside is done on their channel. -/
theorem clusterStep_channel {e : ClusterEvent} (channel : e.isChannel = true) :
    (clusterStep m s e).1.lobby = s.lobby ∧
      ∀ o ∈ (clusterStep m s e).2, ∃ id effect, o = .effect id effect := by
  cases e with
  | message id msg answers =>
    simp only [clusterStep]
    split
    · simp
    · exact ⟨onMessage_lobby msg, by simp⟩
  | channelOpened id peer isProvider => exact ⟨rfl, by simp [clusterStep]⟩
  | sendRequest id reqId path body answers =>
    simp only [clusterStep]
    split
    · simp
    · exact ⟨onSendRequest_lobby .., by simp⟩
  | _ => simp [ClusterEvent.isChannel] at channel

/-- The parts of the state that only the data channels use. -/
structure ChannelState where
  channels : String → Option Channel
  pendingRequests : String → Bool
  pendingEncryptedConsumer : String → Option EncryptedConsumerState

def ClusterState.channelState (s : ClusterState) : ChannelState :=
  ⟨s.channels, s.pendingRequests, s.pendingEncryptedConsumer⟩

/-- The other events leave the channels' part of the state alone, and do nothing
on a channel. -/
theorem clusterStep_lobby {e : ClusterEvent} (lobby : e.isChannel = false) :
    (clusterStep m s e).1.channelState = s.channelState ∧
      ∀ id effect, .effect id effect ∉ (clusterStep m s e).2 := by
  cases e with
  | connectOffer reqId model requestedBy flags =>
    simp only [clusterStep]
    rcases onConnectOffer_cases (m := m) (s := s) reqId model requestedBy flags with ran | ran | ran
    all_goals
      rw [ran]
      exact ⟨rfl, by simp⟩
  | respond reqId accept clusterId =>
    simp only [clusterStep]
    rcases onRespond_cases (m := m) (s := s) reqId accept clusterId with
      ran | ⟨offer, -, -, -, ran⟩ | ran
    all_goals
      rw [ran]
      exact ⟨rfl, by simp⟩
  | connectUpdate reqId status providerPeer flags =>
    simp only [clusterStep]
    rcases onConnectUpdate_cases (m := m) (s := s) reqId status providerPeer flags with
      ⟨peer, flags', ran⟩ | ran | ran
    all_goals
      rw [ran]
      exact ⟨rfl, by simp⟩
  | route sender payload created =>
    simp only [clusterStep]
    rcases onRoute_cases (m := m) (s := s) sender payload created with ran | ⟨-, ran⟩
    · rw [ran]
      exact ⟨rfl, by simp⟩
    · rw [ran]
      rcases onOffer_cases (m := m) (s := s) sender payload created with
        ran | ⟨_, _, -, ran⟩ | ⟨_, _, _, -, -, -, ran⟩
      · rw [ran]
        exact ⟨rfl, by simp⟩
      · rw [ran]
        exact ⟨rfl, by simp⟩
      · rw [ran]
        exact ⟨rfl, by cases created <;> simp⟩
  | message => simp [ClusterEvent.isChannel] at lobby
  | channelOpened => simp [ClusterEvent.isChannel] at lobby
  | sendRequest => simp [ClusterEvent.isChannel] at lobby
  | _ => exact ⟨rfl, by simp [clusterStep]⟩

@[simp] theorem onSendRequest_channels (reqId path : String) (body : Json) (answers : Answers) :
    (onSendRequest m s reqId path body answers).1.channels = s.channels := by
  unfold onSendRequest
  dsimp only
  split
  · split <;> rfl
  · rfl

/-- A channel was there before a step, or was opened by it, or took its message. -/
theorem clusterStep_channels {e : ClusterEvent} {id : String} {after : Channel}
    (found : (clusterStep m s e).1.channels id = some after) :
    s.channels id = some after ∨
      (∃ peer isProvider, e = .channelOpened id peer isProvider ∧ after = .opened peer isProvider) ∨
      ∃ msg answers channel, e = .message id msg answers ∧ s.channels id = some channel ∧
        channel.Steps msg after := by
  by_cases lobby : e.isChannel = false
  · have frame := congrArg ChannelState.channels (clusterStep_lobby (m := m) (s := s) lobby).1
    exact .inl ((congrFun frame id).symm.trans found)
  cases e with
  | message id' msg answers =>
    simp only [clusterStep] at found
    split at found
    · exact .inl found
    · rename_i channel before
      have entered : (onMessage m s id' channel msg answers).1.channels = s.channels ∨ _ :=
        onMessage_channels msg
      rcases entered with same | ⟨after', steps, same⟩
      · exact .inl (same ▸ found)
      · dsimp only at found
        rw [same] at found
        by_cases this : id = id'
        · subst this
          rw [update_self] at found
          obtain rfl := Option.some.inj found
          exact .inr (.inr ⟨msg, answers, channel, rfl, before, steps⟩)
        · rw [update_of_ne this] at found
          exact .inl found
  | channelOpened id' peer isProvider =>
    simp only [clusterStep, ClusterState.setChannel] at found
    by_cases this : id = id'
    · subst this
      rw [update_self] at found
      exact .inr (.inl ⟨peer, isProvider, rfl, (Option.some.inj found).symm⟩)
    · rw [update_of_ne this] at found
      exact .inl found
  | sendRequest id' reqId path body answers =>
    simp only [clusterStep] at found
    split at found
    · exact .inl found
    · rw [onSendRequest_channels] at found
      exact .inl found
  | _ => exact absurd rfl lobby

/-- What a lobby event leaves of the configuration, the servers and the block list. -/
def ClusterEvent.proxyAfter (proxy : ProxyState) : ClusterEvent → ProxyState
  | .peerBanned peerId => blockPeer proxy peerId
  | .proxyChanged changed => changed
  | _ => proxy

theorem clusterStep_proxy (e : ClusterEvent) : (clusterStep m s e).1.proxy = e.proxyAfter s.proxy := by
  cases e with
  | message id msg answers =>
    have channel : (ClusterEvent.message id msg answers).isChannel = true := rfl
    exact congrArg LobbyState.proxy (clusterStep_channel channel).1
  | sendRequest id reqId path body answers =>
    have channel : (ClusterEvent.sendRequest id reqId path body answers).isChannel = true := rfl
    exact congrArg LobbyState.proxy (clusterStep_channel channel).1
  | connectOffer reqId model requestedBy flags =>
    simp only [clusterStep]
    rcases onConnectOffer_cases (m := m) (s := s) reqId model requestedBy flags with ran | ran | ran
    all_goals
      rw [ran]
      rfl
  | respond reqId accept clusterId =>
    simp only [clusterStep]
    rcases onRespond_cases (m := m) (s := s) reqId accept clusterId with
      ran | ⟨offer, -, -, -, ran⟩ | ran
    all_goals
      rw [ran]
      rfl
  | connectUpdate reqId status providerPeer flags =>
    simp only [clusterStep]
    rcases onConnectUpdate_cases (m := m) (s := s) reqId status providerPeer flags with
      ⟨peer, flags', ran⟩ | ran | ran
    all_goals
      rw [ran]
      rfl
  | route sender payload created =>
    simp only [clusterStep]
    rcases onRoute_cases (m := m) (s := s) sender payload created with ran | ⟨-, ran⟩
    · rw [ran]
      rfl
    · rw [ran]
      rcases onOffer_cases (m := m) (s := s) sender payload created with
        ran | ⟨_, _, -, ran⟩ | ⟨_, _, _, -, -, -, ran⟩
      all_goals
        rw [ran]
        rfl
  | _ => rfl

end MtrxPeer
