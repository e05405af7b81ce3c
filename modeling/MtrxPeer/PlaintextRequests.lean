import MtrxPeer.Interleaving
import MtrxPeer.JsonRoundTrip
import MtrxPeer.Sample
import MtrxPeer.SwarmServed

/-! Plaintext requests that are sent in chunks, many at a time: what a cluster provider
and a swarm provider dispatch at the end of each. -/
namespace MtrxPeer

open Function (update update_of_ne update_self)

/-! ## The messages of one request -/

/-- What a plaintext request is sent from. -/
structure PlainSend where
  reqId : String
  path : String
  body : Json

namespace PlainSend

variable (send : PlainSend)

/-- The pieces of the body's text. -/
def texts : List String := chunkUtf8 send.body.toText maxDcChunkBytes

/-- The number of a piece on the wire, and the piece. -/
def piece (i : Nat) : Nat × String := (i % 2 ^ 32, send.texts.getD i "")

def message : Part → StreamMessage
  | .start => .proxyRequestStart send.reqId send.path
  | .chunk i => .proxyRequestChunk send.reqId (send.piece i).1 (send.piece i).2
  | .finish => .proxyRequestEnd send.reqId

/-- The parts in their order are the messages that `send_proxy_request` sends. -/
theorem message_sent :
    ((Part.start :: ((List.range send.texts.length).map .chunk ++ [.finish])).map
        send.message).map StreamMessage.asDataChannel =
      (plaintextRequest send.reqId send.path send.body).map some := by
  have chunks : (List.range send.texts.length).map (fun i =>
      DataChannelMessage.proxyRequestChunk send.reqId (i % 2 ^ 32) (send.texts.getD i "")) =
      send.texts.mapIdx fun seq chunk => .proxyRequestChunk send.reqId (seq % 2 ^ 32) chunk := by
    refine List.ext_getElem (by simp) ?_
    intro i below _
    simp only [List.length_map, List.length_range] at below
    simp [below]
  rw [plaintextRequest, ← texts, ← chunks]
  simp [message, piece, StreamMessage.asDataChannel]

/-- A body that can be read back from its text, and whose pieces can be numbered. -/
structure Sendable : Prop where
  valid : send.body.Valid
  shallow : send.body.depth < Json.recursionLimit
  few : send.texts.length ≤ 2 ^ 32

/-- What a receiver keeps of the request once chunks arrived. -/
def incoming (order : List Nat) : PendingIncomingProxyRequest := ⟨send.path, order.map send.piece⟩

variable {send}

/-- The pieces in any order come to the body. -/
theorem assemble_all (sendable : send.Sendable) {order : List Nat}
    (all : order.Perm (List.range send.texts.length)) :
    assemblePlaintext (send.incoming order) = some send.body := by
  have number : ∀ i ∈ order, (send.piece i).1 = i := by
    intro i member
    have below := List.mem_range.mp (all.mem_iff.mp member)
    exact Nat.mod_eq_of_lt (Nat.lt_of_lt_of_le below sendable.few)
  have sorted : order.insertionSort (· ≤ ·) = List.range send.texts.length := by
    refine List.Perm.eq_of_pairwise ?_ (List.pairwise_insertionSort (· ≤ ·) order) ?_
      ((List.perm_insertionSort _ order).trans all)
    · intro a b _ _ below above
      exact Nat.le_antisymm below above
    · exact List.pairwise_le_range
  have pieces : (send.incoming order).chunks.insertionSort (fun a b => a.1 ≤ b.1) =
      (List.range send.texts.length).map send.piece := by
    rw [← sorted]
    symm
    refine List.map_insertionSort _ _ _ _ fun a there b there' => ?_
    rw [number a there, number b there']
  have together : ((List.range send.texts.length).map send.piece).map Prod.snd = send.texts := by
    refine List.ext_getElem (by simp) ?_
    intro i below _
    simp only [List.length_map, List.length_range] at below
    simp [piece, below]
  rw [assemblePlaintext, plaintextOf, pieces, together, texts, chunkUtf8_join]
  exact Json.fromText_toText _ sendable.valid sendable.shallow

end PlainSend

/-! ## On a data channel -/

/-- The request whose chunked transfer a message is a part of. -/
def StreamMessage.partOf : StreamMessage → Option String
  | .proxyRequestStart reqId _ => some reqId
  | .proxyRequestChunk reqId _ _ => some reqId
  | .proxyRequestEnd reqId => some reqId
  | _ => none

/-- A consumer's request on its data channel; `serves` tells whether this node is the
provider there. -/
structure ChannelSend extends PlainSend where
  id : String
  peer : String
  serves : Bool

def ChannelSend.event {ι : Type} (sends : ι → ChannelSend) :
    Scheduled ι Answers ClusterEvent → ClusterEvent
  | .part k part answers => .message (sends k).id ((sends k).message part) answers
  | .other e => e

/-- What else happens is no part of a chunked plaintext request, and opens none of the
channels anew. -/
def ClusterEvent.Apart {ι : Type} (sends : ι → ChannelSend) : ClusterEvent → Prop
  | .message _ msg _ => msg.partOf = none
  | .channelOpened id _ _ => ∀ k, (sends k).id ≠ id
  | _ => True

/-- The channels of the consumers are open. -/
def ChannelsOpen {ι : Type} (sends : ι → ChannelSend) (s : ClusterState) : Prop :=
  ∀ k, ∃ channel, s.channels (sends k).id = some channel ∧ channel.peer = (sends k).peer ∧
    channel.isProvider = (sends k).serves

/-- On a channel this node serves on, plaintext is turned away while E2EE is on. -/
def ChannelSend.gated (m : Manager) (send : ChannelSend) : Bool := send.serves && m.host.e2eeEnabled

/-- What is done at the end of a request. -/
def ChannelSend.ending (m : Manager) (send : ChannelSend) (s : ClusterState) (answers : Answers) :
    List ClusterOutput :=
  (if send.gated m then
    sendDcMessage answers
      (.proxyResponseError send.reqId "Plaintext proxy rejected; upgrade to E2EE v2")
  else (dispatchProxyRequest m.host s.proxy answers m.clusterId send.peer send.serves
    s.approvedProxyModels send.reqId send.path send.body).2).map (.effect send.id)

section Cluster

variable {m : Manager} {s : ClusterState} {id : String} {channel : Channel} {answers : Answers}

/-- What a message leaves of its channel. -/
structure Channel.KeepsParts (channel : Channel) (msg : StreamMessage) (after : Channel) : Prop where
  peer : after.peer = channel.peer
  isProvider : after.isProvider = channel.isProvider
  others : ∀ reqId, msg.partOf ≠ some reqId →
    after.pendingIncoming reqId = channel.pendingIncoming reqId

/-- A handler's result for a message of the channel `id`. -/
def ChannelKept (s : ClusterState) (id : String) (channel : Channel) (msg : StreamMessage)
    (channels : String → Option Channel) : Prop :=
  channels = s.channels ∨ ∃ after, channel.KeepsParts msg after ∧
    channels = update s.channels id (some after)

private theorem onDataChannelMessage_kept {msg : DataChannelMessage} {wire : StreamMessage}
    (read : wire.asDataChannel = some msg) :
    ChannelKept s id channel wire (onDataChannelMessage m s id channel msg answers).1.channels := by
  have entered : ∀ (reqId : String) (entry : Option PendingIncomingProxyRequest),
      wire.partOf = some reqId → channel.KeepsParts wire { channel with
        pendingIncoming := update channel.pendingIncoming reqId entry } := by
    intro reqId entry own
    refine ⟨rfl, rfl, fun other differs => update_of_ne ?_ ..⟩
    rintro rfl
    exact differs own
  cases wire with
  | proxyRequestStart reqId path =>
    obtain rfl := Option.some.inj read
    exact .inr ⟨_, entered reqId _ rfl, rfl⟩
  | proxyRequestChunk reqId seq chunk =>
    obtain rfl := Option.some.inj read
    simp only [onDataChannelMessage]
    split
    · exact .inl rfl
    · exact .inr ⟨_, entered reqId _ rfl, rfl⟩
  | proxyRequestEnd reqId =>
    obtain rfl := Option.some.inj read
    simp only [onDataChannelMessage]
    split
    · exact .inl rfl
    · split <;> exact .inr ⟨_, entered reqId _ rfl, rfl⟩
  | proxyRequest | proxyResponseChunk | proxyResponseDone | proxyResponseError | ping | pong =>
    obtain rfl := Option.some.inj read
    exact .inl rfl
  | _ => cases read

theorem onMessage_kept (msg : StreamMessage) :
    ChannelKept s id channel msg (onMessage m s id channel msg answers).1.channels := by
  have same : ∀ (channels : String → Option Channel) (after : Channel),
      channels = update s.channels id (some after) → after.peer = channel.peer →
      after.isProvider = channel.isProvider → after.pendingIncoming = channel.pendingIncoming →
        ChannelKept s id channel msg channels :=
    fun channels after entry peer serves table =>
      .inr ⟨after, ⟨peer, serves, fun reqId _ => congrFun table reqId⟩, entry⟩
  unfold onMessage
  split
  · cases msg with
    | encryptedProxyRequestStart => exact same _ _ rfl rfl rfl rfl
    | encryptedProxyRequestChunk reqId =>
      simp only [onEncryptedRequest]
      split
      · exact .inl rfl
      · exact same _ _ rfl rfl rfl rfl
    | encryptedProxyRequestEnd reqId =>
      simp only [onEncryptedRequest]
      split
      · exact .inl rfl
      · exact same _ _ rfl rfl rfl rfl
    | _ => exact .inl rfl
  · split
    · cases msg with
      | encryptedProxyResponse =>
        simp only [onEncryptedAnswer]
        split
        · split
          · exact .inl rfl
          · exact same _ _ rfl rfl rfl rfl
        · split <;> exact .inl rfl
      | encryptedProxyStreamChunk =>
        simp only [onEncryptedAnswer]
        split <;> exact same _ _ rfl rfl rfl rfl
      | _ => exact .inl rfl
    · split
      · rename_i read
        unfold gateDataChannelMessage
        split
        · split
          · exact .inl rfl
          · exact onDataChannelMessage_kept read
        · exact onDataChannelMessage_kept read
      · exact .inl rfl

/-- A channel that is open stays so, with what came of the requests that an event is no
part of. -/
theorem clusterStep_kept {e : ClusterEvent} (opened : s.channels id = some channel)
    (anew : ∀ peer serves, e ≠ .channelOpened id peer serves) :
    ∃ after, (clusterStep m s e).1.channels id = some after ∧ after.peer = channel.peer ∧
      after.isProvider = channel.isProvider ∧
      ∀ reqId, (∀ msg answers, e = .message id msg answers → msg.partOf ≠ some reqId) →
        after.pendingIncoming reqId = channel.pendingIncoming reqId := by
  have kept : (clusterStep m s e).1.channels id = s.channels id → ∃ after,
      (clusterStep m s e).1.channels id = some after ∧ after.peer = channel.peer ∧
      after.isProvider = channel.isProvider ∧
      ∀ reqId, (∀ msg answers, e = .message id msg answers → msg.partOf ≠ some reqId) →
        after.pendingIncoming reqId = channel.pendingIncoming reqId :=
    fun same => ⟨channel, same.trans opened, rfl, rfl, fun _ _ => rfl⟩
  by_cases lobby : e.isChannel = false
  · exact kept (congrFun (congrArg ChannelState.channels
      (clusterStep_lobby (m := m) (s := s) lobby).1) id)
  cases e with
  | message id' msg answers =>
    by_cases own : id' = id
    · subst own
      have handled := @onMessage_kept m s id' channel answers msg
      have step : (clusterStep m s (.message id' msg answers)).1 =
          (onMessage m s id' channel msg answers).1 := by
        simp only [clusterStep, opened]
      rcases handled with same | ⟨after, keeps, entry⟩
      · exact kept (by rw [step, same])
      · refine ⟨after, by rw [step, entry, update_self], keeps.peer, keeps.isProvider, ?_⟩
        exact fun reqId other => keeps.others reqId (other msg answers rfl)
    · refine kept ?_
      simp only [clusterStep]
      split
      · rfl
      · rename_i other _
        have handled := @onMessage_kept m s id' other answers msg
        dsimp only
        rcases handled with same | ⟨after, -, entry⟩
        · rw [same]
        · rw [entry, update_of_ne (Ne.symm own)]
  | channelOpened id' peer serves =>
    have differs : id ≠ id' := by
      rintro rfl
      exact anew peer serves rfl
    exact kept (update_of_ne differs ..)
  | sendRequest id' reqId path body answers =>
    refine kept ?_
    simp only [clusterStep]
    split
    · rfl
    · rw [onSendRequest_channels]
  | _ => exact absurd rfl lobby

section Requests

variable {ι : Type} {sends : ι → ChannelSend}

theorem partOf_message (send : PlainSend) (part : Part) :
    (send.message part).partOf = some send.reqId := by
  cases part <;> rfl

/-- A part goes to its handler, unless it is turned away. -/
private theorem clusterStep_part {k : ι} (opened : s.channels (sends k).id = some channel)
    (serves : channel.isProvider = (sends k).serves) (ungated : (sends k).gated m = false) (part : Part)
    {msg : DataChannelMessage} (read : ((sends k).message part).asDataChannel = some msg)
    (answers : Answers) :
    clusterStep m s (.message (sends k).id ((sends k).message part) answers) =
      ((onDataChannelMessage m s (sends k).id channel msg answers).1,
        (onDataChannelMessage m s (sends k).id channel msg answers).2.map
          (.effect (sends k).id)) := by
  have open_ : (channel.isProvider && m.host.e2eeEnabled) = false := by
    rw [serves]
    exact ungated
  have gate : gateDataChannelMessage m s (sends k).id channel msg answers =
      onDataChannelMessage m s (sends k).id channel msg answers := by
    unfold gateDataChannelMessage
    split
    · rw [open_]
      rfl
    · rfl
  have plain : ((sends k).message part).isEncryptedRequest = false ∧
      ((sends k).message part).isEncryptedAnswer = false := by
    cases part <;> exact ⟨rfl, rfl⟩
  simp only [clusterStep, opened, onMessage, plain.1, plain.2, Bool.false_and, Bool.false_eq_true,
    if_false, read, gate]

/-- The channels of consumers stay open. -/
theorem channelsOpen_step {entry : Scheduled ι Answers ClusterEvent}
    (quiet : ∀ e, entry = .other e → e.Apart sends) (opened : ChannelsOpen sends s) :
    ChannelsOpen sends (clusterStep m s (ChannelSend.event sends entry)).1 := by
  intro k
  obtain ⟨channel, here, peer, serves⟩ := opened k
  obtain ⟨after, there, peer', serves', -⟩ := @clusterStep_kept m s (sends k).id channel
    (ChannelSend.event sends entry) here (by
      intro peer serves same
      cases entry with
      | part l part answers => cases same
      | other e =>
        have apart := quiet e rfl
        obtain rfl : e = .channelOpened (sends k).id peer serves := same
        exact apart k rfl)
  exact ⟨after, there, peer'.trans peer, serves'.trans serves⟩

/-- A provider holds what came of a request that is not turned away. -/
def ChannelHolds (m : Manager) (sends : ι → ChannelSend) (s : ClusterState) (k : ι)
    (order : List Nat) : Prop :=
  (sends k).gated m = false → ∃ channel, s.channels (sends k).id = some channel ∧
    channel.isProvider = (sends k).serves ∧
    channel.pendingIncoming (sends k).reqId = some ((sends k).incoming order)

/-- At the end of each request its body is dispatched, for the consumer it came from. -/
theorem channel_requests_whole [DecidableEq ι] {schedule : List (Scheduled ι Answers ClusterEvent)}
    (opened : ChannelsOpen sends s) (sendable : ∀ k, (sends k).Sendable)
    (distinct : ∀ k l, (sends k).id = (sends l).id → (sends k).reqId = (sends l).reqId → k = l)
    (quiet : ∀ e, .other e ∈ schedule → e.Apart sends)
    (whole : Interleaved (fun k => (sends k).texts.length) schedule)
    {before after : List (Scheduled ι Answers ClusterEvent)} {k : ι}
    (split : schedule = before ++ .part k .finish answers :: after) :
    let now := (clusterMachine m).after s (before.map (ChannelSend.event sends))
    (clusterStep m now (.message (sends k).id (.proxyRequestEnd (sends k).reqId) answers)).2 =
      (sends k).ending m now answers := by
  have apart : KeysApart (fun k => ((sends k).id, (sends k).reqId)) schedule :=
    keysApart_of_injective schedule fun k l same =>
      distinct k l (congrArg Prod.fst same) (congrArg Prod.snd same)
  obtain ⟨order, all, came⟩ := whole.collected_finish split
  have held := apart.held
    (fun s entry => (clusterStep m s (ChannelSend.event sends entry)).1) (ChannelHolds m sends)
    (fun s entry member opened => channelsOpen_step
      (fun e same => quiet e (same ▸ member)) opened)
    ?starts ?grows ?others ?quiet opened split
  · obtain ⟨channels, holds⟩ := held
    intro now
    have same : now = before.foldl
        (fun s entry => (clusterStep m s (ChannelSend.event sends entry)).1) s :=
      Machine.after_map (clusterMachine m) _ s before
    rw [← same] at channels holds
    obtain ⟨channel, here, peer, serves⟩ := channels k
    unfold ChannelSend.ending
    cases gate : (sends k).gated m with
    | true =>
      have closed : (channel.isProvider && m.host.e2eeEnabled) = true := by
        rw [serves]
        exact gate
      simp [clusterStep, here, onMessage, StreamMessage.isEncryptedRequest,
        StreamMessage.isEncryptedAnswer, StreamMessage.asDataChannel, gateDataChannelMessage,
        DataChannelMessage.plaintextRequestId, closed]
    | false =>
      obtain ⟨channel', here', -, entry⟩ := holds k order came gate
      obtain rfl := Option.some.inj (here'.symm.trans here)
      have step := clusterStep_part here serves gate .finish rfl answers
      have ended : (clusterStep m now
          (.message (sends k).id (.proxyRequestEnd (sends k).reqId) answers)).2 = _ :=
        congrArg Prod.snd step
      rw [ended, if_neg Bool.false_ne_true]
      simp only [onDataChannelMessage, entry, PlainSend.assemble_all (sendable k) all, peer, serves]
      rfl
  case starts =>
    intro s k answers opened ungated
    obtain ⟨channel, here, -, serves⟩ := opened k
    rw [ChannelSend.event, clusterStep_part here serves ungated .start rfl answers]
    exact ⟨_, update_self .., serves, update_self ..⟩
  case grows =>
    intro s k i answers order holds ungated
    obtain ⟨channel, here, serves, entry⟩ := holds ungated
    rw [ChannelSend.event, clusterStep_part here serves ungated (.chunk i) rfl answers]
    simp only [onDataChannelMessage, entry]
    refine ⟨_, update_self .., serves, ?_⟩
    simp [PlainSend.incoming]
  case others =>
    intro s k l part answers order differs holds ungated
    obtain ⟨channel, here, serves, entry⟩ := holds ungated
    obtain ⟨after, there, -, serves', kept⟩ := @clusterStep_kept m s (sends k).id channel
      (ChannelSend.event sends (.part l part answers)) here (by
      intro _ _ same
      cases same)
    refine ⟨after, there, serves'.trans serves, (kept _ ?_).trans entry⟩
    intro msg answers' same own
    obtain ⟨sameId, rfl, -⟩ := ClusterEvent.message.inj same
    rw [partOf_message] at own
    exact differs (by rw [sameId, Option.some.inj own])
  case quiet =>
    intro s k e order member holds ungated
    obtain ⟨channel, here, serves, entry⟩ := holds ungated
    have apart := quiet e member
    obtain ⟨after, there, -, serves', kept⟩ := @clusterStep_kept m s (sends k).id channel e here (by
      rintro peer serves rfl
      exact apart k rfl)
    refine ⟨after, there, serves'.trans serves, (kept _ ?_).trans entry⟩
    rintro msg answers rfl own
    have none_ : msg.partOf = none := apart
    rw [none_] at own
    cases own

end Requests

end Cluster

/-! ## On the swarm -/

section Swarm

variable {m : SwarmManager} {s : SwarmState} {answers : Answers}

private theorem resolve_incoming (name : String) :
    (resolveLibp2pPeer m s name).pendingIncomingProxy = s.pendingIncomingProxy := by
  unfold resolveLibp2pPeer
  split <;> rfl

private theorem dialCached_incoming (name : String) :
    (dialCached m s name).pendingIncomingProxy = s.pendingIncomingProxy := by
  unfold dialCached
  split <;> rfl

private theorem sendOutboundProxy_incoming (pending : PendingOutboundProxy) (sending : Sending) :
    (sendOutboundProxy m s pending sending).1.pendingIncomingProxy = s.pendingIncomingProxy := by
  have resolved := @resolve_incoming m s pending.targetMtrxaiPeer
  have forgotten : ∀ kept, (forgetStreams (resolveLibp2pPeer m s pending.targetMtrxaiPeer)
      kept).pendingIncomingProxy = s.pendingIncomingProxy := by
    intro kept
    unfold forgetStreams
    split <;> exact resolved
  unfold sendOutboundProxy
  dsimp only
  split
  · exact resolved
  · split <;> exact forgotten _

private theorem flush_incoming (peer : PeerId) (sendings : String → Sending)
    (queue : List PendingOutboundProxy) :
    (flushPendingProxies m s peer sendings queue).1.pendingIncomingProxy =
      s.pendingIncomingProxy := by
  induction queue generalizing s with
  | nil => rfl
  | cons pending rest ih =>
    simp only [flushPendingProxies]
    rw [ih]
    split
    · rw [sendOutboundProxy_incoming, resolve_incoming]
    · exact resolve_incoming _

private theorem drainStream_incoming (reqId : String) (ctx : PendingEncryptedStreamCtx) :
    (drainStream m s reqId ctx).1.pendingIncomingProxy = s.pendingIncomingProxy := by
  unfold drainStream
  dsimp only
  split <;> rfl

private theorem onSwarmResponse_incoming (peer : PeerId) (id : OutboundRequestId)
    (msg : StreamMessage) :
    (onSwarmResponse m s peer id msg).1.pendingIncomingProxy = s.pendingIncomingProxy := by
  unfold onSwarmResponse
  dsimp only
  split
  · rfl
  · split
    · rfl
    · split
      · rfl
      · split
        · split
          · rfl
          · unfold onStreamAck
            split
            · rfl
            · dsimp only
              split
              · rw [drainStream_incoming]
                rfl
              · rfl
        · unfold onEncryptedResponse
          dsimp only
          split <;> rfl
    · rfl

private theorem onProxyCommand_incoming (cmd : ProxyRequestCommand) (ranked : List String)
    (sending : Sending) :
    (onProxyCommand m s cmd ranked sending).1.pendingIncomingProxy = s.pendingIncomingProxy := by
  have located : ∀ target, (locateProvider m s target).pendingIncomingProxy =
      s.pendingIncomingProxy := by
    intro target
    unfold locateProvider
    dsimp only
    split
    · rfl
    · exact dialCached_incoming _
  unfold onProxyCommand
  split
  · rfl
  · dsimp only
    split
    · exact located _
    · unfold submitRequest
      split
      · rw [sendOutboundProxy_incoming]
        exact located _
      · split
        · exact located _
        · exact (dialCached_incoming _).trans (located _)

private theorem syncPresence_incoming (peers : List (String × List String)) :
    (syncPresence m s peers).pendingIncomingProxy = s.pendingIncomingProxy := by
  induction peers generalizing s with
  | nil => rfl
  | cons entry rest ih =>
    unfold syncPresence
    split
    · exact ih
    · dsimp only
      split <;> split <;> exact ih.trans rfl

private theorem serveEncryptedRequest_incoming (peer : PeerId) (request : EncryptedRequest)
    (nonce ciphertext : Bytes) :
    (serveEncryptedRequest m s peer answers request nonce ciphertext).1.pendingIncomingProxy =
      s.pendingIncomingProxy := by
  have queued : ∀ (t : SwarmState) msgs,
      (sendReverse m t peer msgs).1.pendingIncomingProxy = t.pendingIncomingProxy := by
    intro t msgs
    unfold sendReverse
    split
    · rfl
    · split
      · rfl
      · split
        · exact dialCached_incoming _
        · rfl
  unfold serveEncryptedRequest
  dsimp only
  rw [queued]
  split <;> rfl

private theorem applyRemoteCatalog_incoming (record : CatalogRecord) :
    (applyRemoteCatalog m s record).pendingIncomingProxy = s.pendingIncomingProxy := by
  unfold applyRemoteCatalog
  split <;> rfl

/-- The parts of plaintext requests that peers send. -/
def SwarmEvent.Apart : SwarmEvent → Prop
  | .request _ msg _ => msg.partOf = none
  | _ => True

/-- Nothing else touches the table of the requests being received. -/
theorem swarmStep_incoming {e : SwarmEvent} (apart : e.Apart) :
    (swarmStep m s e).1.pendingIncomingProxy = s.pendingIncomingProxy := by
  cases e with
  | request peer msg answers =>
    cases msg with
    | catalogSync record => exact applyRemoteCatalog_incoming record
    | proxyRequest =>
      simp only [swarmStep, onSwarmRequest]
      split <;> rfl
    | encryptedProxyRequest =>
      simp only [swarmStep, onSwarmRequest]
      split
      · rfl
      · split
        · exact serveEncryptedRequest_incoming ..
        · rfl
    | encryptedProxyStreamChunk =>
      simp only [swarmStep, onSwarmRequest, onEncryptedStreamChunk]
      split
      · split
        · exact drainStream_incoming _ _
        · rfl
      · rfl
    | proxyRequestStart => cases apart
    | proxyRequestChunk => cases apart
    | proxyRequestEnd => cases apart
    | _ => rfl
  | response peer id msg => exact onSwarmResponse_incoming peer id msg
  | gossip source record => exact applyRemoteCatalog_incoming record
  | proxyCommand cmd ranked sending => exact onProxyCommand_incoming cmd ranked sending
  | outboundFailure id retryable error sending =>
    simp only [swarmStep, onOutboundFailure]
    split
    · rfl
    · split
      · split
        · exact sendOutboundProxy_incoming _ _
        · rfl
      · rfl
  | connectionEstablished peer cached sendings =>
    simp only [swarmStep, onConnectionEstablished]
    split
    · rfl
    · have flushed := @flush_incoming m { s with
        connected := update s.connected peer true
        pendingOutboundProxies := [] } peer sendings s.pendingOutboundProxies
      split
      · exact flushed
      · unfold mapConnectedPeer
        split <;> exact flushed
  | connectionClosed peer connected =>
    simp only [swarmStep, onConnectionClosed]
    split <;> rfl
  | presence peers => exact syncPresence_incoming peers
  | proxyChanged proxy => rfl
  | requestsNumbered count => rfl

/-- A consumer's request to this node as a peer of the swarm. -/
structure SwarmSend extends PlainSend where
  peer : PeerId

def SwarmSend.event {ι : Type} (sends : ι → SwarmSend) :
    Scheduled ι Answers SwarmEvent → SwarmEvent
  | .part k part answers => .request (sends k).peer ((sends k).message part) answers
  | .other e => e

/-- At the end of each request its body is dispatched, for the consumer it came from, if
requests of one id are not under way at the same time. -/
theorem swarm_requests_whole {ι : Type} [DecidableEq ι] {sends : ι → SwarmSend}
    {schedule : List (Scheduled ι Answers SwarmEvent)} (sendable : ∀ k, (sends k).Sendable)
    (apart : KeysApart (fun k => (sends k).reqId) schedule)
    (quiet : ∀ e, .other e ∈ schedule → e.Apart)
    (whole : Interleaved (fun k => (sends k).texts.length) schedule)
    {before after : List (Scheduled ι Answers SwarmEvent)} {k : ι}
    (split : schedule = before ++ .part k .finish answers :: after) :
    let now := (swarmMachine m).after s (before.map (SwarmSend.event sends))
    (swarmStep m now (.request (sends k).peer (.proxyRequestEnd (sends k).reqId) answers)).2 =
      dispatchSwarmProxyRequest m.host now.proxy answers m.swarmId (now.nameOf (sends k).peer)
        (sends k).peer (sends k).reqId (sends k).path (sends k).body := by
  obtain ⟨order, all, came⟩ := whole.collected_finish split
  have held := @KeysApart.held ι String Answers SwarmEvent _ SwarmState (fun k => (sends k).reqId)
    schedule apart (fun s entry => (swarmStep m s (SwarmSend.event sends entry)).1) (fun _ => True)
    (fun s k order => s.pendingIncomingProxy (sends k).reqId = some ((sends k).incoming order))
    (fun _ _ _ ready => ready) ?starts ?grows ?others ?quiet s trivial before
    (.part k .finish answers :: after) split
  · intro now
    have same : now = before.foldl (fun s entry => (swarmStep m s (SwarmSend.event sends entry)).1) s :=
      Machine.after_map (swarmMachine m) _ s before
    have entry := held.2 k order came
    rw [← same] at entry
    simp only [swarmStep, onSwarmRequest, onProxyRequestEnd, entry,
      PlainSend.assemble_all (sendable k) all]
    rfl
  case starts =>
    intro s k answers _
    exact update_self ..
  case grows =>
    intro s k i answers order entry
    simp [SwarmSend.event, PlainSend.message, swarmStep, onSwarmRequest, entry, PlainSend.incoming]
  case others =>
    intro s k l part answers order differs entry
    cases part with
    | start => exact (update_of_ne differs ..).trans entry
    | chunk i => exact (update_of_ne differs ..).trans entry
    | finish =>
      simp only [SwarmSend.event, PlainSend.message, swarmStep, onSwarmRequest, onProxyRequestEnd]
      split
      · exact entry
      · exact (update_of_ne differs ..).trans entry
  case quiet =>
    intro s k e order member entry
    rw [SwarmSend.event, swarmStep_incoming (quiet e member)]
    exact entry

end Swarm

/-! ## Both -/

private def samplePlain (reqId : String) (second : Bool) : PlainSend where
  reqId := reqId
  path := "/api/chat"
  body := sampleBody (if second then "b" else "a")

private theorem samplePlain_texts (reqId : String) (second : Bool) :
    (samplePlain reqId second).texts.length = 1 := by
  show (chunkUtf8 (sampleBody (if second then "b" else "a")).toText maxDcChunkBytes).length = 1
  cases second <;> decide +kernel

private theorem samplePlain_sendable (reqId : String) (second : Bool) :
    (samplePlain reqId second).Sendable where
  valid := by cases second <;> exact ⟨List.pairwise_singleton .., trivial, trivial⟩
  shallow := by
    show (sampleBody (if second then "b" else "a")).depth < Json.recursionLimit
    cases second <;> decide
  few := by
    rw [samplePlain_texts]
    decide

/-- Two consumers ask under one id, each on its channel. -/
private def sampleChannelSends (second : Bool) : ChannelSend where
  toPlainSend := samplePlain "1" second
  id := if second then "e" else "d"
  peer := if second then "B" else "A"
  serves := true

/-- Two peers of the swarm ask. -/
private def sampleSwarmSends (ids : Bool → String) (second : Bool) : SwarmSend where
  toPlainSend := samplePlain (ids second) second
  peer := if second then "B" else "A"

/-- The parts of the two requests come in turn. -/
private def sampleTurns (ε : Type) : List (Scheduled Bool Answers ε) :=
  [.part false .start sampleAnswers, .part false (.chunk 0) sampleAnswers,
    .part true .start sampleAnswers, .part true (.chunk 0) sampleAnswers]

private theorem sampleTurns_interleaved (ε : Type) {count : Bool → Nat}
    (one : ∀ second, count second = 1) :
    Interleaved count (sampleTurns ε ++ [.part false .finish sampleAnswers,
      .part true .finish sampleAnswers]) := by
  intro second
  rw [one]
  refine ⟨[0], List.Perm.refl _, ?_⟩
  cases second <;> rfl

end MtrxPeer
