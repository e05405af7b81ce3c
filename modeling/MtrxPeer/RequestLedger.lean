import MtrxPeer.ConsumerPolicy

/-! The tables in which a cluster's consumer counts a request: the callers, the keys, the
streams, the exchanges and the active requests of the statistics. What ends a request
should take it out of all of them. -/
namespace MtrxPeer

open Function (update update_of_ne update_self)

/-! ## State -/

/-- A cluster manager, its exchanges and the active requests of the statistics, each
with the peer that was asked. Requests that are served to others are not counted here. -/
structure LedgerState where
  consumer : ConsumerState
  /-- `active_exchanges`. -/
  exchanges : String → Option String
  /-- `PeerStatsTracker::active`. -/
  active : String → Option String

namespace LedgerState

/-- `track_consumer_exchange`. -/
def start (s : LedgerState) (reqId peer : String) : LedgerState :=
  { s with
    exchanges := update s.exchanges reqId (some peer)
    active := update s.active reqId (some peer) }

/-- `stats_request_error`. -/
def fail (s : LedgerState) (reqId : String) : LedgerState :=
  { s with active := update s.active reqId none }

/-- The exchange is taken out and, if it was there, counted as complete. -/
def finish (s : LedgerState) (reqId : String) : LedgerState :=
  match s.exchanges reqId with
  | none => s
  | some _ => { s with
      exchanges := update s.exchanges reqId none
      active := update s.active reqId none }

/-- `stats_remove_peer`. -/
def forgetPeer (s : LedgerState) (peer : String) : LedgerState :=
  { s with active := fun reqId => (s.active reqId).filter (· ≠ peer) }

def channels (s : LedgerState) : String → Option Channel := s.consumer.cluster.channels

end LedgerState

inductive LedgerEvent where
  | consumer (e : ConsumerEvent)
  /-- A session is closed because it is stale or the network is left. -/
  | peerClosed (peer : String)
  /-- The other end closes a data channel, for which no handler is set. -/
  | channelClosed (id : String)

variable (m : Manager)

/-- What a consumer makes of a chunk of an encrypted stream. -/
def chunkOutcome (s : LedgerState) (channel : Channel) (reqId : String)
    (chunk : EncryptedStreamChunkData) : Except String EncryptedStreamChunkOutcome :=
  (handleEncryptedStreamChunk m.host s.consumer.cluster.proxy.config reqId
    (channel.pendingEncryptedStreams reqId) chunk).1

/-- What the handler of a message counts. -/
def LedgerState.countMessage (s : LedgerState) (channel : Channel) (msg : StreamMessage) :
    LedgerState :=
  match msg with
  | .encryptedProxyStreamChunk reqId seq nonce ciphertext _ done =>
    if channel.isProvider then s
    else match chunkOutcome m s channel reqId ⟨seq, nonce, ciphertext, done⟩ with
      | .ok (.finished _) => s.finish reqId
      | _ => s
  | .proxyResponseDone reqId => if channel.isProvider then s else s.finish reqId
  | .proxyResponseError reqId _ => s.fail reqId
  | _ => s

/-- Whether the request cannot be sent. -/
def sendFails (s : ConsumerState) (waiting : WaitingRequest) (answers : Answers) : Bool :=
  (sendClusterProxyOnDc m s.cluster waiting.reqId waiting.path waiting.body answers).2.2.isSome

/-- What an event counts, apart from new requests. -/
def LedgerState.count (s : LedgerState) : ConsumerEvent → LedgerState
  | .channelReady reqId _ answers =>
    match s.consumer.waitingFor reqId with
    | some waiting => if sendFails m s.consumer waiting answers then s.fail reqId else s
    | none => s
  | .gaveUp reqId =>
    match s.consumer.waitingFor reqId with
    | some waiting => (s.forgetPeer waiting.targetPeer).fail reqId
    | none => s
  | .cluster (.message id msg _) =>
    match s.channels id with
    | some channel => s.countMessage m channel msg
    | none => s
  | .cluster (.peerBanned peer) => s.forgetPeer peer
  | _ => s

/-- New requests are counted. -/
def LedgerState.startAll (s : LedgerState) (outputs : List ConsumerOutput) : LedgerState :=
  outputs.foldl (fun s output =>
    match output with
    | .tracked reqId peer => s.start reqId peer
    | _ => s) s

def ledgerStep (s : LedgerState) : LedgerEvent → LedgerState × List ConsumerOutput
  | .channelClosed _ => (s, [])
  | .peerClosed peer =>
    ({ s.forgetPeer peer with
      consumer := { s.consumer with cluster := closePeerConnection s.consumer.cluster peer } }, [])
  | .consumer e =>
    let (consumer, outputs) := consumerStep m s.consumer e
    ({ (s.count m e).startAll outputs with consumer }, outputs)

abbrev LedgerRecord := Record LedgerState LedgerEvent ConsumerOutput

def ledgerMachine : Machine LedgerState LedgerEvent ConsumerOutput := ⟨ledgerStep m⟩

def LedgerState.initial (proxy : ProxyState) (teeCatalogued : String → Bool) (now nextReqId : Nat) :
    LedgerState := ⟨.initial proxy teeCatalogued now nextReqId, fun _ => none, fun _ => none⟩

/-! ## Ends of requests -/

/-- A message that ends a request: a whole response, the end of a plaintext answer or of a
stream, or an error. -/
def EndsByMessage (s : LedgerState) (reqId : String) (channel : Channel) : StreamMessage → Prop
  | .encryptedProxyResponse other _ _ _ error stream =>
    other = reqId ∧ channel.isProvider = false ∧ ¬ (stream = some true ∧ error = none) ∧
      (s.consumer.cluster.pendingEncryptedConsumer reqId).isSome
  | .encryptedProxyStreamChunk other seq nonce ciphertext _ done =>
    other = reqId ∧ channel.isProvider = false ∧
      ∀ parts, chunkOutcome m s channel reqId ⟨seq, nonce, ciphertext, done⟩ ≠ .ok (.progress parts) ∧
        chunkOutcome m s channel reqId ⟨seq, nonce, ciphertext, done⟩ ≠ .ok .waiting
  | .proxyResponseDone other | .proxyResponseError other _ => other = reqId
  | _ => False

/-- A caller waits for a request that the manager numbered. -/
def LedgerState.Asked (s : LedgerState) (reqId : String) : Prop :=
  s.consumer.cluster.pendingRequests reqId = true ∧
    ∃ n < s.consumer.nextReqId, reqId = m.peerId ++ ":" ++ toString n

/-- An event that ends a request that a caller waits for: a message, a request that cannot
be sent, the end of waiting for a channel, or the end of a channel or session. -/
def Ends (s : LedgerState) (e : LedgerEvent) (reqId : String) : Prop :=
  s.Asked m reqId ∧ match e with
  | .consumer (.cluster (.message id msg _)) =>
    ∃ channel, s.channels id = some channel ∧ EndsByMessage m s reqId channel msg
  | .consumer (.channelReady other _ answers) =>
    other = reqId ∧ ∃ waiting, s.consumer.waitingFor reqId = some waiting ∧
      sendFails m s.consumer waiting answers = true
  | .consumer (.gaveUp other) => other = reqId ∧ (s.consumer.waitingFor reqId).isSome
  | .consumer (.cluster (.peerBanned peer)) | .peerClosed peer => s.exchanges reqId = some peer
  | .channelClosed id =>
    ∃ channel, s.channels id = some channel ∧ s.exchanges reqId = some channel.peer
  | _ => False

/-- No table has the request. -/
structure LedgerState.Gone (s : LedgerState) (reqId : String) : Prop where
  caller : s.consumer.cluster.pendingRequests reqId = false
  keys : s.consumer.cluster.pendingEncryptedConsumer reqId = none
  streams : ∀ id channel, s.channels id = some channel →
    channel.pendingEncryptedStreams reqId = none
  exchange : s.exchanges reqId = none
  active : s.active reqId = none

/-- All tables have for a request what they had. -/
structure SameEntries (s t : LedgerState) (reqId : String) : Prop where
  caller : t.consumer.cluster.pendingRequests reqId = s.consumer.cluster.pendingRequests reqId
  keys : t.consumer.cluster.pendingEncryptedConsumer reqId =
    s.consumer.cluster.pendingEncryptedConsumer reqId
  streams : ∀ id, (t.channels id).map (·.pendingEncryptedStreams reqId) =
    (s.channels id).map (·.pendingEncryptedStreams reqId)
  exchange : t.exchanges reqId = s.exchanges reqId
  active : t.active reqId = s.active reqId

/-- An end that clears the tables: a plaintext answer's, of a request that no keys or
streams are kept of, or a stream's, of which no other channel has chunks. The request
was sent. -/
def EndsCleanly (s : LedgerState) (e : LedgerEvent) (reqId : String) : Prop :=
  s.consumer.waitingFor reqId = none ∧
  match e with
  | .consumer (.cluster (.message id (.proxyResponseDone _) _)) =>
    (∃ channel, s.channels id = some channel ∧ channel.isProvider = false) ∧
      s.consumer.cluster.pendingEncryptedConsumer reqId = none ∧
      ∀ id channel, s.channels id = some channel → channel.pendingEncryptedStreams reqId = none
  | .consumer (.cluster (.message id (.encryptedProxyStreamChunk _ seq nonce ciphertext _ done) _)) =>
    (∃ channel parts, s.channels id = some channel ∧
      chunkOutcome m s channel reqId ⟨seq, nonce, ciphertext, done⟩ = .ok (.finished parts)) ∧
      ∀ other channel, other ≠ id → s.channels other = some channel →
        channel.pendingEncryptedStreams reqId = none
  | _ => False

/-! ## Requests that are gone -/

variable {m}

/-- A manager keeps nothing of a request. -/
structure ClusterState.Rid (s : ClusterState) (reqId : String) : Prop where
  caller : s.pendingRequests reqId = false
  keys : s.pendingEncryptedConsumer reqId = none
  streams : ∀ id channel, s.channels id = some channel →
    channel.pendingEncryptedStreams reqId = none

section Rid

variable {s : ClusterState} {id reqId : String} {channel : Channel} {answers : Answers}

theorem ClusterState.Rid.setChannel (rid : s.Rid reqId)
    (none_ : channel.pendingEncryptedStreams reqId = none) : (s.setChannel id channel).Rid reqId := by
  refine ⟨rid.caller, rid.keys, fun other kept opened => ?_⟩
  by_cases same : other = id
  · subst same
    obtain rfl : channel = kept := by simpa [ClusterState.setChannel] using opened
    exact none_
  · exact rid.streams other kept (by simpa [ClusterState.setChannel, same] using opened)

theorem ClusterState.Rid.dropRequest (rid : s.Rid reqId) (other : String) :
    (s.dropRequest other).Rid reqId := by
  refine ⟨?_, rid.keys, rid.streams⟩
  by_cases same : reqId = other
  · simp [ClusterState.dropRequest, same]
  · simp [ClusterState.dropRequest, same, rid.caller]

theorem ClusterState.Rid.dropEncrypted (rid : s.Rid reqId) (other : String) :
    (s.dropEncrypted other).Rid reqId := by
  refine ⟨rid.caller, ?_, rid.streams⟩
  by_cases same : reqId = other
  · simp [ClusterState.dropEncrypted, same]
  · simp [ClusterState.dropEncrypted, same, rid.keys]

theorem ClusterState.Rid.approvals (rid : s.Rid reqId) (approvals : String → Option String) :
    ClusterState.Rid { s with approvedProxyModels := approvals } reqId :=
  ⟨rid.caller, rid.keys, rid.streams⟩

private theorem onDataChannelMessage_rid (rid : s.Rid reqId) (found : s.channels id = some channel)
    (msg : DataChannelMessage) : (onDataChannelMessage m s id channel msg answers).1.Rid reqId := by
  have none_ := rid.streams id channel found
  cases msg with
  | proxyRequest reqId' path body => exact rid.approvals _
  | proxyRequestStart reqId' path => exact rid.setChannel none_
  | proxyRequestChunk reqId' seq chunk =>
    simp only [onDataChannelMessage]
    split
    · exact rid
    · exact rid.setChannel none_
  | proxyRequestEnd reqId' =>
    simp only [onDataChannelMessage]
    split
    · exact rid
    · have kept : (s.setChannel id { channel with
          pendingIncoming := update channel.pendingIncoming reqId' none }).Rid reqId :=
        rid.setChannel none_
      split
      · exact kept
      · exact kept.approvals _
  | proxyResponseDone reqId' => exact rid.dropRequest reqId'
  | proxyResponseError reqId' error => exact rid.dropRequest reqId'
  | _ => exact rid

private theorem onEncryptedRequest_rid (rid : s.Rid reqId) (found : s.channels id = some channel)
    (msg : StreamMessage) : (onEncryptedRequest m s id channel msg answers).1.Rid reqId := by
  have none_ := rid.streams id channel found
  cases msg with
  | encryptedProxyRequest => exact rid.approvals _
  | encryptedProxyRequestStart => exact rid.setChannel none_
  | encryptedProxyRequestChunk reqId' seq nonce ciphertext version =>
    simp only [onEncryptedRequest]
    split
    · exact rid
    · exact rid.setChannel none_
  | encryptedProxyRequestEnd reqId' =>
    simp only [onEncryptedRequest]
    split
    · exact rid
    · have kept : (s.setChannel id { channel with
          pendingEncryptedIncoming := update channel.pendingEncryptedIncoming reqId' none }).Rid reqId :=
        rid.setChannel none_
      exact kept.approvals _
  | _ => exact rid

private theorem stream_none {left : Option PendingEncryptedStream} {other : String}
    (none_ : channel.pendingEncryptedStreams reqId = none) (same : reqId = other → left = none) :
    update channel.pendingEncryptedStreams other left reqId = none := by
  by_cases own : reqId = other
  · rw [own, update_self, same own]
  · rw [update_of_ne own, none_]

private theorem onEncryptedAnswer_rid (rid : s.Rid reqId) (found : s.channels id = some channel)
    (msg : StreamMessage) : (onEncryptedAnswer m s id channel msg).1.Rid reqId := by
  have none_ := rid.streams id channel found
  cases msg with
  | encryptedProxyResponse other nonce ciphertext version error stream =>
    simp only [onEncryptedAnswer]
    split
    · split
      · exact rid
      · rename_i kept
        refine rid.setChannel (stream_none none_ fun own => ?_)
        rw [← own, rid.keys] at kept
        cases kept
    · split
      · exact rid
      · exact rid.dropEncrypted other
  | encryptedProxyStreamChunk other seq nonce ciphertext version done =>
    -- A chunk of the request itself finds no stream, and starts none.
    have left : reqId = other → (handleEncryptedStreamChunk m.host s.proxy.config other
        (channel.pendingEncryptedStreams other) ⟨seq, nonce, ciphertext, done⟩).2 = none := by
      rintro rfl
      rw [none_]
      rfl
    simp only [onEncryptedAnswer]
    split
    · exact rid.setChannel (stream_none none_ left)
    · exact rid.setChannel (stream_none none_ left)
    · exact ((rid.setChannel (stream_none none_ left)).dropEncrypted other).dropRequest other
    · exact ((rid.setChannel (stream_none none_ fun _ => rfl)).dropEncrypted other).dropRequest other
  | _ => exact rid

theorem onMessage_rid (rid : s.Rid reqId) (found : s.channels id = some channel)
    (msg : StreamMessage) : (onMessage m s id channel msg answers).1.Rid reqId := by
  unfold onMessage
  split
  · exact onEncryptedRequest_rid rid found msg
  · split
    · exact onEncryptedAnswer_rid rid found msg
    · split
      · rename_i plain _
        unfold gateDataChannelMessage
        split
        · split
          · exact rid
          · exact onDataChannelMessage_rid rid found plain
        · exact onDataChannelMessage_rid rid found plain
      · exact rid

/-- Nothing that happens to the manager brings a request back. -/
theorem clusterStep_rid {e : ClusterEvent} (rid : s.Rid reqId)
    (unsent : ∀ id other path body answers, e ≠ .sendRequest id other path body answers) :
    (clusterStep m s e).1.Rid reqId := by
  by_cases lobby : e.isChannel = false
  · have same := (clusterStep_lobby (m := m) (s := s) lobby).1
    have channels : (clusterStep m s e).1.channels = s.channels :=
      congrArg ChannelState.channels same
    refine ⟨?_, ?_, ?_⟩
    · rw [show (clusterStep m s e).1.pendingRequests = s.pendingRequests from
        congrArg ChannelState.pendingRequests same]
      exact rid.caller
    · rw [show (clusterStep m s e).1.pendingEncryptedConsumer = s.pendingEncryptedConsumer from
        congrArg ChannelState.pendingEncryptedConsumer same]
      exact rid.keys
    · rw [channels]
      exact rid.streams
  cases e with
  | message id msg answers =>
    simp only [clusterStep]
    split
    · exact rid
    · rename_i channel found
      exact onMessage_rid rid found msg
  | channelOpened id peer isProvider => exact rid.setChannel rfl
  | sendRequest id other path body answers => exact absurd rfl (unsent id other path body answers)
  | _ => exact absurd rfl lobby

end Rid

/-- A manager keeps nothing of a request whose number was given. -/
structure ConsumerState.Closed (m : Manager) (s : ConsumerState) (reqId : String) : Prop where
  rid : s.cluster.Rid reqId
  sent : ∀ waiting ∈ s.waiting, waiting.reqId ≠ reqId
  numbered : ∃ n < s.nextReqId, reqId = m.peerId ++ ":" ++ toString n

theorem waitingFor_eq_none {s : ConsumerState} {reqId : String} :
    s.waitingFor reqId = none ↔ ∀ waiting ∈ s.waiting, waiting.reqId ≠ reqId := by
  simp [ConsumerState.waitingFor]

section Closed

variable {s : ConsumerState} {reqId : String}

private theorem registerRequest_closed (closed : s.Closed m reqId) (cmd : ProxyRequestCommand)
    (peer : String) (delayed : Bool) : (registerRequest m s cmd peer delayed).1.Closed m reqId := by
  obtain ⟨rid, sent, n, below, named⟩ := closed
  have fresh : reqId ≠ m.peerId ++ ":" ++ toString s.nextReqId := by
    intro same
    exact Nat.ne_of_lt below (numbered_inj (named.symm.trans same))
  refine ⟨⟨?_, rid.keys, rid.streams⟩, ?_, n, Nat.lt_succ_of_lt below, named⟩
  · simp only [registerRequest, update_of_ne fresh]
    exact rid.caller
  · intro waiting member
    rcases List.mem_append.mp member with older | new
    · exact sent waiting older
    · rw [List.mem_singleton.mp new]
      exact Ne.symm fresh

private theorem connectAndProxy_closed (closed : s.Closed m reqId) (cmd : ProxyRequestCommand)
    (peer : String) (connectReqId : Option String) (session : Session) :
    (connectAndProxy m s cmd peer connectReqId session).1.Closed m reqId := by
  have kept : (s.keepSession peer).Closed m reqId :=
    ⟨⟨closed.rid.caller, closed.rid.keys, closed.rid.streams⟩, closed.sent, closed.numbered⟩
  unfold connectAndProxy
  split
  · exact closed
  · exact registerRequest_closed kept cmd peer true
  · exact closed
  · exact closed
  · exact registerRequest_closed closed cmd peer true
  · exact registerRequest_closed closed cmd peer false

private theorem sendClusterProxyOnDc_rid {c : ClusterState} (rid : c.Rid reqId) {other : String}
    (differs : other ≠ reqId) (path : String) (body : Json) (answers : Answers) :
    (sendClusterProxyOnDc m c other path body answers).1.Rid reqId := by
  unfold sendClusterProxyOnDc
  split
  · split
    · refine ⟨rid.caller, ?_, rid.streams⟩
      simp only [update_of_ne (Ne.symm differs)]
      exact rid.keys
    · exact rid
  · exact rid

/-- Nothing that happens brings a request back whose number was given. -/
theorem consumerStep_closed (closed : s.Closed m reqId) (e : ConsumerEvent) :
    (consumerStep m s e).1.Closed m reqId := by
  have dropped (other : String) {cluster : ClusterState} (rid : cluster.Rid reqId) :
      ConsumerState.Closed m { s.dropWaiting other with cluster } reqId :=
    ⟨rid, fun waiting member => closed.sent waiting (List.mem_of_mem_filter member), closed.numbered⟩
  cases e with
  | command cmd session =>
    simp only [consumerStep, onConsumerCommand]
    split
    · split
      · exact closed
      · exact connectAndProxy_closed closed cmd _ none session
    · exact closed
  | brokered cmd answer session =>
    simp only [consumerStep, onBrokered]
    split
    · exact closed
    · rename_i peer _ flags _ _
      split
      · exact closed
      · have noted : ConsumerState.Closed m { s with cluster := s.cluster.noteHint peer flags } reqId :=
          ⟨⟨closed.rid.caller, closed.rid.keys, closed.rid.streams⟩, closed.sent, closed.numbered⟩
        exact connectAndProxy_closed noted cmd _ _ session
    · exact closed
  | channelReady other channel answers =>
    simp only [consumerStep, onChannelReady]
    split
    · exact closed
    · rename_i waiting found
      have named : waiting.reqId = other := by simpa using List.find?_some found
      have differs : other ≠ reqId := named ▸ closed.sent waiting (List.mem_of_find?_eq_some found)
      exact dropped other (sendClusterProxyOnDc_rid closed.rid differs _ _ answers)
  | gaveUp other =>
    simp only [consumerStep, onGaveUp]
    split
    · exact closed
    · exact dropped other ⟨closed.rid.caller, closed.rid.keys, closed.rid.streams⟩
  | requestsNumbered count =>
    obtain ⟨n, below, named⟩ := closed.numbered
    exact ⟨closed.rid, closed.sent, n, Nat.lt_add_right count below, named⟩
  | catalogChanged tee => exact ⟨closed.rid, closed.sent, closed.numbered⟩
  | cluster e =>
    have stepped (unsent : ∀ id other path body answers, e ≠ .sendRequest id other path body answers) :
        ConsumerState.Closed m { s with cluster := (clusterStep m s.cluster e).1 } reqId :=
      ⟨clusterStep_rid closed.rid unsent, closed.sent, closed.numbered⟩
    cases e with
    | sendRequest id other path body answers => exact closed
    | _ => exact stepped (by simp)

end Closed

/-! ## Counting -/

section Counting

variable {s : LedgerState} {reqId other : String}

/-- Nothing is counted of a request. -/
def LedgerState.Uncounted (s : LedgerState) (reqId : String) : Prop :=
  s.exchanges reqId = none ∧ s.active reqId = none

/-- A request that is active in the statistics has an exchange. -/
def LedgerState.Counted (s : LedgerState) : Prop :=
  ∀ reqId, (s.active reqId).isSome → (s.exchanges reqId).isSome

/-- Tables that say no more than others. -/
structure Fewer (s t : LedgerState) (reqId : String) : Prop where
  exchange : t.exchanges reqId = s.exchanges reqId ∨ t.exchanges reqId = none ∧ t.active reqId = none
  active : t.active reqId = s.active reqId ∨ t.active reqId = none

theorem Fewer.refl (s : LedgerState) (reqId : String) : Fewer s s reqId := ⟨.inl rfl, .inl rfl⟩

theorem Fewer.trans {t u : LedgerState} (first : Fewer s t reqId) (then_ : Fewer t u reqId) :
    Fewer s u reqId := by
  refine ⟨?_, ?_⟩
  · rcases then_.exchange with same | gone
    · rcases first.exchange with same' | ⟨gone, quiet⟩
      · exact .inl (same.trans same')
      · refine .inr ⟨same.trans gone, ?_⟩
        rcases then_.active with kept | none_
        · exact kept.trans quiet
        · exact none_
    · exact .inr gone
  · rcases then_.active with same | none_
    · rcases first.active with same' | none_
      · exact .inl (same.trans same')
      · exact .inr (same.trans none_)
    · exact .inr none_

theorem Fewer.uncounted {t : LedgerState} (fewer : Fewer s t reqId) (none_ : s.Uncounted reqId) :
    t.Uncounted reqId := by
  refine ⟨?_, ?_⟩
  · rcases fewer.exchange with same | gone
    · exact same.trans none_.1
    · exact gone.1
  · rcases fewer.active with same | gone
    · exact same.trans none_.2
    · exact gone

theorem Fewer.counted {t : LedgerState} (fewer : ∀ reqId, Fewer s t reqId) (counted : s.Counted) :
    t.Counted := by
  intro reqId some_
  rcases (fewer reqId).exchange with same | ⟨-, none_⟩
  · rw [same]
    rcases (fewer reqId).active with same' | none_
    · exact counted reqId (same' ▸ some_)
    · rw [none_] at some_
      cases some_
  · rw [none_] at some_
    cases some_

private theorem fail_fewer (s : LedgerState) (other reqId : String) :
    Fewer s (s.fail other) reqId := by
  refine ⟨.inl rfl, ?_⟩
  by_cases same : reqId = other
  · exact .inr (by simp [LedgerState.fail, same])
  · exact .inl (update_of_ne same ..)

private theorem finish_fewer (s : LedgerState) (other reqId : String) :
    Fewer s (s.finish other) reqId := by
  unfold LedgerState.finish
  split
  · exact .refl s reqId
  · by_cases same : reqId = other
    · exact ⟨.inr (by simp [same]), .inr (by simp [same])⟩
    · exact ⟨.inl (update_of_ne same ..), .inl (update_of_ne same ..)⟩

private theorem forgetPeer_fewer (s : LedgerState) (peer reqId : String) :
    Fewer s (s.forgetPeer peer) reqId := by
  refine ⟨.inl rfl, ?_⟩
  have left : (s.forgetPeer peer).active reqId = (s.active reqId).filter (· ≠ peer) := rfl
  rw [left]
  cases s.active reqId with
  | none => exact .inl rfl
  | some asked =>
    by_cases own : asked = peer
    · exact .inr (by simp [own])
    · exact .inl (by simp [own])

private theorem countMessage_fewer (s : LedgerState) (channel : Channel) (msg : StreamMessage)
    (reqId : String) : Fewer s (s.countMessage m channel msg) reqId := by
  cases msg with
  | encryptedProxyStreamChunk other seq nonce ciphertext version done =>
    simp only [LedgerState.countMessage]
    split
    · exact .refl s reqId
    · split
      · exact finish_fewer s other reqId
      · exact .refl s reqId
  | proxyResponseDone other =>
    simp only [LedgerState.countMessage]
    split
    · exact .refl s reqId
    · exact finish_fewer s other reqId
  | proxyResponseError other error => exact fail_fewer s other reqId
  | _ => exact .refl s reqId

/-- Apart from new requests, nothing is added to what is counted. -/
theorem count_fewer (s : LedgerState) (e : ConsumerEvent) (reqId : String) :
    Fewer s (s.count m e) reqId := by
  cases e with
  | channelReady other channel answers =>
    simp only [LedgerState.count]
    split
    · split
      · exact fail_fewer s other reqId
      · exact .refl s reqId
    · exact .refl s reqId
  | gaveUp other =>
    simp only [LedgerState.count]
    split
    · exact (forgetPeer_fewer s _ reqId).trans (fail_fewer _ other reqId)
    · exact .refl s reqId
  | cluster e =>
    cases e with
    | message id msg answers =>
      simp only [LedgerState.count]
      split
      · exact countMessage_fewer s _ msg reqId
      · exact .refl s reqId
    | peerBanned peer => exact forgetPeer_fewer s peer reqId
    | _ => exact .refl s reqId
  | _ => exact .refl s reqId

/-- Only requests that are tracked are counted anew. -/
theorem startAll_other {outputs : List ConsumerOutput}
    (untracked : ∀ peer, .tracked reqId peer ∉ outputs) (s : LedgerState) :
    (s.startAll outputs).exchanges reqId = s.exchanges reqId ∧
      (s.startAll outputs).active reqId = s.active reqId := by
  induction outputs generalizing s with
  | nil => exact ⟨rfl, rfl⟩
  | cons output rest ih =>
    have later := fun peer member => untracked peer (List.mem_cons_of_mem output member)
    cases output with
    | tracked other peer =>
      have differs : reqId ≠ other := by
        rintro rfl
        exact untracked peer List.mem_cons_self
      obtain ⟨exchange, active⟩ := ih later (s.start other peer)
      exact ⟨exchange.trans (update_of_ne differs ..), active.trans (update_of_ne differs ..)⟩
    | _ => exact ih later s

theorem startAll_counted (outputs : List ConsumerOutput) (counted : s.Counted) :
    (s.startAll outputs).Counted := by
  induction outputs generalizing s with
  | nil => exact counted
  | cons output rest ih =>
    cases output with
    | tracked other peer =>
      refine ih (s := s.start other peer) fun reqId some_ => ?_
      by_cases same : reqId = other
      · simp [LedgerState.start, same]
      · simp only [LedgerState.start, update_of_ne same] at some_ ⊢
        exact counted reqId some_
    | _ => exact ih counted

/-- A new request has the next number. -/
theorem tracked_next {s : ConsumerState} {e : ConsumerEvent} {peer : String}
    (tracked : .tracked reqId peer ∈ (consumerStep m s e).2) :
    reqId = m.peerId ++ ":" ++ toString s.nextReqId := by
  have change := consumerStep_change (m := m) (s := s) e
  revert tracked
  generalize (consumerStep m s e).1 = s' at change
  generalize (consumerStep m s e).2 = outputs at change
  intro tracked
  cases change with
  | registered chosen named =>
    obtain ⟨rfl, -⟩ := ConsumerOutput.tracked.inj (List.mem_singleton.mp tracked)
    exact named
  | other untracked => exact absurd tracked (untracked reqId peer)

end Counting

/-! ## Runs -/

section Runs

variable {s : LedgerState} {reqId : String} {e : LedgerEvent} {past : List LedgerRecord}

/-- A request that was numbered and is in no table. -/
structure LedgerState.Closed (m : Manager) (s : LedgerState) (reqId : String) : Prop where
  consumer : s.consumer.Closed m reqId
  uncounted : s.Uncounted reqId

theorem LedgerState.Closed.gone (closed : s.Closed m reqId) : s.Gone reqId :=
  ⟨closed.consumer.rid.caller, closed.consumer.rid.keys, closed.consumer.rid.streams,
    closed.uncounted.1, closed.uncounted.2⟩

/-- What is in no table stays out of all. -/
theorem ledgerStep_closed (closed : s.Closed m reqId) (e : LedgerEvent) :
    (ledgerStep m s e).1.Closed m reqId := by
  cases e with
  | channelClosed id => exact closed
  | peerClosed peer =>
    obtain ⟨rid, sent, numbered⟩ := closed.consumer
    exact ⟨⟨⟨rid.caller, rid.keys, rid.streams⟩, sent, numbered⟩,
      (forgetPeer_fewer s peer reqId).uncounted closed.uncounted⟩
  | consumer e =>
    obtain ⟨n, below, named⟩ := closed.consumer.numbered
    have untracked : ∀ peer, .tracked reqId peer ∉ (consumerStep m s.consumer e).2 := by
      intro peer tracked
      exact Nat.ne_of_lt below (numbered_inj (named.symm.trans (tracked_next tracked)))
    obtain ⟨exchange, active⟩ := startAll_other untracked (s.count m e)
    obtain ⟨noExchange, inactive⟩ := (count_fewer s e reqId).uncounted closed.uncounted
    exact ⟨consumerStep_closed closed.consumer e, exchange.trans noExchange, active.trans inactive⟩

theorem ledgerStep_counted (counted : s.Counted) (e : LedgerEvent) :
    (ledgerStep m s e).1.Counted := by
  cases e with
  | channelClosed id => exact counted
  | peerClosed peer =>
    have left : (s.forgetPeer peer).Counted :=
      Fewer.counted (fun reqId => forgetPeer_fewer s peer reqId) counted
    exact left
  | consumer e => exact startAll_counted _ (Fewer.counted (fun reqId => count_fewer s e reqId) counted)

private theorem finish_uncounted (counted : s.Counted) (reqId : String) :
    (s.finish reqId).Uncounted reqId := by
  unfold LedgerState.finish
  cases exchange : s.exchanges reqId with
  | none =>
    refine ⟨exchange, ?_⟩
    cases active : s.active reqId with
    | none => rfl
    | some peer =>
      have some_ := counted reqId (by rw [active]; rfl)
      rw [exchange] at some_
      cases some_
  | some peer => exact ⟨update_self .., update_self ..⟩

private theorem finish_same {other : String} (differs : other ≠ reqId) :
    (s.finish reqId).exchanges other = s.exchanges other ∧
      (s.finish reqId).active other = s.active other := by
  unfold LedgerState.finish
  split
  · exact ⟨rfl, rfl⟩
  · exact ⟨update_of_ne differs .., update_of_ne differs ..⟩

/-- A stream that finishes is gone. -/
theorem drainEncryptedStream_finished {host : Host} {config : ClientConfig} {fuel : Nat}
    {stream : PendingEncryptedStream} {parts whole : List String}
    (finished : (drainEncryptedStream host config reqId fuel stream parts).1 =
      .ok (.finished whole)) : (drainEncryptedStream host config reqId fuel stream parts).2 = none := by
  induction fuel generalizing stream parts with
  | zero =>
    unfold drainEncryptedStream at finished
    split at finished <;> cases finished
  | succ fuel ih =>
    unfold drainEncryptedStream at finished ⊢
    split at finished
    · split at finished <;> cases finished
    · rename_i chunk found
      split at finished
      · cases finished
      · rename_i part read
        split at finished
        · rename_i last
          simp only [last, if_true]
        · rename_i more
          simp only [more, Bool.false_eq_true, if_false]
          exact ih finished

theorem handleEncryptedStreamChunk_finished {host : Host} {config : ClientConfig}
    {stream : Option PendingEncryptedStream} {chunk : EncryptedStreamChunkData} {whole : List String}
    (finished : (handleEncryptedStreamChunk host config reqId stream chunk).1 =
      .ok (.finished whole)) : (handleEncryptedStreamChunk host config reqId stream chunk).2 = none := by
  cases stream with
  | none => cases finished
  | some stream => exact drainEncryptedStream_finished finished

/-- Without new requests nothing is counted. -/
private theorem startAll_untracked {outputs : List ConsumerOutput}
    (untracked : ∀ reqId peer, .tracked reqId peer ∉ outputs) (s : LedgerState) :
    s.startAll outputs = s := by
  induction outputs generalizing s with
  | nil => rfl
  | cons output rest ih =>
    have later := fun reqId peer member => untracked reqId peer (List.mem_cons_of_mem output member)
    cases output with
    | tracked reqId peer => exact absurd List.mem_cons_self (untracked reqId peer)
    | _ => exact ih later s

private theorem startAll_cluster (s : LedgerState) (outputs : List ClusterOutput) :
    s.startAll (outputs.map .cluster) = s := startAll_untracked (by simp) s

/-- A plaintext request that can be sent is sent, and stays in the tables. -/
theorem channelReady_step {waiting : WaitingRequest} {id : String} {answers : Answers}
    (found : s.consumer.waitingFor waiting.reqId = some waiting) (plain : m.host.e2eeEnabled = false)
    (sends : sendFails m s.consumer waiting answers = false) :
    (ledgerStep m s (.consumer (.channelReady waiting.reqId id answers))).1 =
      { s with consumer := s.consumer.dropWaiting waiting.reqId } := by
  have counted : s.count m (.channelReady waiting.reqId id answers) = s := by
    simp only [LedgerState.count, found, sends, Bool.false_eq_true, if_false]
  have unchanged : (sendClusterProxyOnDc m s.consumer.cluster waiting.reqId waiting.path waiting.body
      answers).1 = s.consumer.cluster := by
    simp only [sendClusterProxyOnDc, plain, Bool.false_eq_true, if_false]
  have untracked : ∀ reqId peer,
      .tracked reqId peer ∉ (onChannelReady m s.consumer waiting.reqId id answers).2 := by
    intro reqId peer
    simp only [onChannelReady, found, sendFailure, List.mem_append, not_or]
    refine ⟨by simp, ?_⟩
    split
    · split <;> simp
    · simp
  have stepped : (onChannelReady m s.consumer waiting.reqId id answers).1 =
      s.consumer.dropWaiting waiting.reqId := by
    simp only [onChannelReady, found, unchanged]
    rfl
  simp only [ledgerStep, consumerStep, counted, startAll_untracked untracked, stepped]

section Message

variable {id : String} {channel : Channel} {answers : Answers}

/-- The end of a plaintext answer. -/
theorem done_step (opened : s.channels id = some channel) (consumer : channel.isProvider = false) :
    (ledgerStep m s (.consumer (.cluster (.message id (.proxyResponseDone reqId) answers)))).1 =
      { s.finish reqId with
        consumer := { s.consumer with cluster := s.consumer.cluster.dropRequest reqId } } := by
  have opened' : s.consumer.cluster.channels id = some channel := opened
  have handled : clusterStep m s.consumer.cluster (.message id (.proxyResponseDone reqId) answers) =
      (s.consumer.cluster.dropRequest reqId, []) := by
    simp only [clusterStep, opened', onMessage, StreamMessage.isEncryptedRequest, Bool.false_and,
      Bool.false_eq_true, if_false, StreamMessage.isEncryptedAnswer, StreamMessage.asDataChannel]
    rfl
  simp only [ledgerStep, consumerStep, handled, LedgerState.count, opened, LedgerState.countMessage,
    consumer, Bool.false_eq_true, if_false, List.map_nil]
  rfl

/-- The last chunk of a stream. -/
theorem finished_step (opened : s.channels id = some channel) (consumer : channel.isProvider = false)
    {seq version : Nat} {nonce ciphertext : Bytes} {done : Bool} {parts : List String}
    (finished : chunkOutcome m s channel reqId ⟨seq, nonce, ciphertext, done⟩ = .ok (.finished parts)) :
    (ledgerStep m s (.consumer (.cluster (.message id
        (.encryptedProxyStreamChunk reqId seq nonce ciphertext version done) answers)))).1 =
      { s.finish reqId with
        consumer := { s.consumer with
          cluster := ((s.consumer.cluster.setChannel id { channel with
            pendingEncryptedStreams := update channel.pendingEncryptedStreams reqId none }
              ).dropEncrypted reqId).dropRequest reqId } } := by
  have opened' : s.consumer.cluster.channels id = some channel := opened
  have left := handleEncryptedStreamChunk_finished finished
  have handled : handleEncryptedStreamChunk m.host s.consumer.cluster.proxy.config reqId
      (channel.pendingEncryptedStreams reqId) ⟨seq, nonce, ciphertext, done⟩ =
        (.ok (.finished parts), none) := Prod.ext finished left
  have stepped : (clusterStep m s.consumer.cluster (.message id
      (.encryptedProxyStreamChunk reqId seq nonce ciphertext version done) answers)).1 =
        ((s.consumer.cluster.setChannel id { channel with
          pendingEncryptedStreams := update channel.pendingEncryptedStreams reqId none }
            ).dropEncrypted reqId).dropRequest reqId := by
    simp only [clusterStep, opened', onMessage, StreamMessage.isEncryptedRequest,
      Bool.false_eq_true, if_false, StreamMessage.isEncryptedAnswer, consumer, Bool.not_false,
      Bool.and_self, if_true, onEncryptedAnswer, handled]
  have counted : s.count m (.cluster (.message id
      (.encryptedProxyStreamChunk reqId seq nonce ciphertext version done) answers)) =
        s.finish reqId := by
    simp only [LedgerState.count, opened, LedgerState.countMessage, consumer, Bool.false_eq_true,
      if_false, finished]
  simp only [ledgerStep, consumerStep, counted, startAll_cluster, stepped]

/-- A stream that is taken out of its channel is in no other. -/
private theorem dropped_stream
    (streams : ∀ other kept, other ≠ id → s.channels other = some kept →
      kept.pendingEncryptedStreams reqId = none) :
    ∀ other kept, (s.consumer.cluster.setChannel id { channel with
        pendingEncryptedStreams := update channel.pendingEncryptedStreams reqId none }).channels other =
          some kept → kept.pendingEncryptedStreams reqId = none := by
  intro other kept opened
  by_cases same : other = id
  · subst same
    simp only [ClusterState.setChannel, update_self, Option.some.injEq] at opened
    rw [← opened]
    exact update_self ..
  · simp only [ClusterState.setChannel, update_of_ne same] at opened
    exact streams other kept same opened

private theorem kept_streams {another : String} (opened : s.channels id = some channel)
    (differs : another ≠ reqId) (other : String) :
    ((s.consumer.cluster.setChannel id { channel with
        pendingEncryptedStreams := update channel.pendingEncryptedStreams reqId none }).channels
          other).map (·.pendingEncryptedStreams another) =
      (s.channels other).map (·.pendingEncryptedStreams another) := by
  by_cases same : other = id
  · subst same
    rw [opened]
    simp only [ClusterState.setChannel, update_self, Option.map_some, update_of_ne differs]
  · simp only [ClusterState.setChannel, update_of_ne same, LedgerState.channels]

end Message

/-- An end that clears the tables leaves nothing of the request, and everything of others. -/
theorem endsCleanly_step (counted : s.Counted) (ends : Ends m s e reqId)
    (cleanly : EndsCleanly m s e reqId) :
    (ledgerStep m s e).1.Closed m reqId ∧
      ∀ other, other ≠ reqId → SameEntries s (ledgerStep m s e).1 other := by
  obtain ⟨⟨-, numbered⟩, kind⟩ := ends
  obtain ⟨sent, cleared⟩ := cleanly
  have unsent := waitingFor_eq_none.mp sent
  cases e with
  | consumer e =>
    cases e with
    | cluster e =>
      cases e with
      | message id msg answers =>
        obtain ⟨channel, opened, byMessage⟩ := kind
        cases msg with
        | proxyResponseDone other =>
          obtain rfl : other = reqId := byMessage
          obtain ⟨⟨channel', opened', consumer⟩, keys, streams⟩ := cleared
          rw [done_step opened' consumer]
          refine ⟨⟨⟨⟨update_self .., keys, streams⟩, unsent, numbered⟩,
            finish_uncounted counted other⟩, fun another differs => ?_⟩
          obtain ⟨exchange, active⟩ := finish_same (s := s) differs
          exact ⟨update_of_ne differs .., rfl, fun _ => rfl, exchange, active⟩
        | encryptedProxyStreamChunk other seq nonce ciphertext version done =>
          obtain ⟨rfl, consumer, -⟩ := byMessage
          obtain ⟨⟨channel', parts, opened', finished⟩, streams⟩ := cleared
          obtain rfl : channel = channel' := Option.some.inj (opened.symm.trans opened')
          rw [finished_step opened consumer finished]
          refine ⟨⟨⟨⟨update_self .., update_self .., ?_⟩, unsent, numbered⟩,
            finish_uncounted counted other⟩, fun another differs => ?_⟩
          · exact dropped_stream streams
          · obtain ⟨exchange, active⟩ := finish_same (s := s) differs
            exact ⟨update_of_ne differs .., update_of_ne differs .., kept_streams opened differs,
              exchange, active⟩
        | _ => exact cleared.elim
      | _ => exact cleared.elim
    | _ => exact cleared.elim
  | _ => exact cleared.elim

/-- What a run keeps: the statistics agree with the exchanges, and requests that ended
are in no table. -/
structure LedgerKept (m : Manager) (past : List LedgerRecord) (s : LedgerState) : Prop where
  counted : s.Counted
  closed : ∀ r ∈ past, ∀ reqId, Ends m r.before r.event reqId → s.Closed m reqId
  same : ∀ r ∈ past, ∀ reqId, Ends m r.before r.event reqId →
    ∀ other, other ≠ reqId → SameEntries r.before (ledgerStep m r.before r.event).1 other

/-- In a run in which requests end only by the end of a plaintext answer or of a stream,
those that ended are in no table, and the others' entries were not touched. -/
theorem ended_requests_gone {proxy : ProxyState} {tee : String → Bool} {now nextReqId : Nat}
    (ran : (ledgerMachine m).Reaches (.initial proxy tee now nextReqId) past s)
    (cleanly : ∀ r ∈ past, ∀ reqId, Ends m r.before r.event reqId →
      EndsCleanly m r.before r.event reqId) :
    ∀ r ∈ past, ∀ reqId, Ends m r.before r.event reqId → s.Gone reqId ∧
      ∀ other, other ≠ reqId → SameEntries r.before (ledgerStep m r.before r.event).1 other := by
  have start : LedgerKept m [] (.initial proxy tee now nextReqId) := by
    refine ⟨fun reqId some_ => ?_, by simp, by simp⟩
    cases some_
  have kept : LedgerKept m past s := by
    refine ran.invariant (LedgerKept m)
      (fun r => ∀ reqId, Ends m r.before r.event reqId → EndsCleanly m r.before r.event reqId)
      start (fun past s e kept meets => ?_) cleanly
    refine ⟨ledgerStep_counted kept.counted e, ?_, ?_⟩
    · intro r member reqId ends
      rcases List.mem_cons.mp member with rfl | older
      · exact (endsCleanly_step kept.counted ends (meets reqId ends)).1
      · exact ledgerStep_closed (kept.closed r older reqId ends) e
    · intro r member reqId ends
      rcases List.mem_cons.mp member with rfl | older
      · exact (endsCleanly_step kept.counted ends (meets reqId ends)).2
      · exact kept.same r older reqId ends
  exact fun r member reqId ends =>
    ⟨(kept.closed r member reqId ends).gone, kept.same r member reqId ends⟩

end Runs

/-- A request to `prov` that was sent on `d`. -/
private def askedLedger : LedgerState where
  consumer := { ConsumerState.initial sampleProxy (fun _ => false) 0 2 with
    cluster := { (ClusterState.initial sampleProxy 0).setChannel "d" (.opened "prov" false) with
      pendingRequests := update (fun _ => false) "me:1" true } }
  exchanges := update (fun _ => none) "me:1" (some "prov")
  active := update (fun _ => none) "me:1" (some "prov")

private def unsentLedger : LedgerState :=
  { askedLedger with consumer := { askedLedger.consumer with
      waiting := [⟨"me:1", "prov", "/api/chat", sampleBody "llama3", true⟩] } }

private theorem unsentLedger_sends : sendFails (sampleManager false false) unsentLedger.consumer
    ⟨"me:1", "prov", "/api/chat", sampleBody "llama3", true⟩ sampleAnswers = false := by decide +kernel

private theorem askedLedger_reached : ∃ past,
    (ledgerMachine (sampleManager false false)).Reaches (.initial sampleProxy (fun _ => false) 0 1)
        past askedLedger ∧
      ∀ r ∈ past, ∀ reqId, ¬ Ends (sampleManager false false) r.before r.event reqId := by
  have initial : (ledgerMachine (sampleManager false false)).Reaches
      (.initial sampleProxy (fun _ => false) 0 1) [] (.initial sampleProxy (fun _ => false) 0 1) :=
    .start
  have registered := initial.step (.consumer (.command
    ⟨some "prov", "llama3", "/api/chat", sampleBody "llama3", none, none⟩ .opening))
  have opened := registered.step (.consumer (.cluster (.channelOpened "d" "prov" false)))
  have asked : (ledgerStep (sampleManager false false) unsentLedger
      (.consumer (.channelReady "me:1" "d" sampleAnswers))).1 = askedLedger :=
    (channelReady_step rfl rfl unsentLedger_sends).trans rfl
  have sent := opened.step (.consumer (.channelReady "me:1" "d" sampleAnswers))
  refine ⟨_, asked ▸ sent, ?_⟩
  rintro r (_ | ⟨_, _ | ⟨_, _ | ⟨_, ⟨⟩⟩⟩⟩) reqId ⟨-, kind⟩
  · obtain ⟨rfl, waiting, found, fails⟩ := kind
    obtain rfl := Option.some.inj found
    exact Bool.false_ne_true (unsentLedger_sends.symm.trans fails)
  · exact kind.elim
  · exact kind.elim

/-- A request that is sent and answered in plaintext. -/
theorem ended_requests_gone_sample :
    (ledgerStep (sampleManager false false) askedLedger (.consumer (.cluster
      (.message "d" (.proxyResponseDone "me:1") sampleAnswers)))).1.Gone "me:1" := by
  obtain ⟨past, ran, quiet⟩ := askedLedger_reached
  have asked : askedLedger.Asked (sampleManager false false) "me:1" := ⟨rfl, 1, by decide, by decide⟩
  refine (ended_requests_gone (ran.step (.consumer (.cluster
    (.message "d" (.proxyResponseDone "me:1") sampleAnswers)))) ?_ _ List.mem_cons_self "me:1"
      ⟨asked, _, rfl, rfl⟩).1
  rintro r (_ | ⟨_, older⟩) reqId ends
  · obtain ⟨-, channel, opened, rfl⟩ := ends
    refine ⟨rfl, ⟨_, rfl, rfl⟩, rfl, fun id kept opened' => ?_⟩
    have only : kept = .opened "prov" false := by
      by_cases same : id = "d"
      · subst same
        exact (Option.some.inj opened').symm
      · have closed : askedLedger.channels id = none := update_of_ne same ..
        exact absurd (closed.symm.trans opened') (by simp)
    rw [only]
    rfl
  · exact absurd ends (quiet r older reqId)

/-- A peer answers a request with an error, and its exchange stays. -/
theorem refused_request_kept :
    ∃ past s, (ledgerMachine (sampleManager false false)).Reaches
        (.initial sampleProxy (fun _ => false) 0 1) past s ∧
      ∃ r ∈ past, Ends (sampleManager false false) r.before r.event "me:1" ∧ ¬ s.Gone "me:1" := by
  obtain ⟨past, ran, -⟩ := askedLedger_reached
  refine ⟨_, _, ran.step (.consumer (.cluster
    (.message "d" (.proxyResponseError "me:1" "Model not found") sampleAnswers))),
    _, List.mem_cons_self, ⟨⟨rfl, 1, by decide, by decide⟩, _, rfl, rfl⟩, fun gone => ?_⟩
  have none_ := gone.exchange
  revert none_
  decide

end MtrxPeer
