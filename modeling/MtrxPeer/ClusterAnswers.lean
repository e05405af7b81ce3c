import MtrxPeer.Served

/-! What the caller of a cluster request hears, and which messages it depends on:
those of its own channel, and answers of other channels that name it. -/
namespace MtrxPeer

open Function (update update_of_ne update_self)

/-- What a caller hears of its request: a part of the answer or an error, and that
nothing more will come. -/
inductive Heard where
  | item (item : Except String String)
  | ended

/-- The end of a caller's stream, if a step is it. -/
def heardEnd (before after : Bool) : List Heard := if before && !after then [.ended] else []

@[simp] theorem heardEnd_self (waiting : Bool) : heardEnd waiting waiting = [] := by
  cases waiting <;> rfl

/-- The request that a message of an answering kind names. -/
def StreamMessage.answeredRequest : StreamMessage → Option String
  | .proxyResponse reqId _ _ | .proxyResponseChunk reqId _ | .proxyResponseDone reqId
  | .proxyResponseError reqId _ | .encryptedProxyResponse reqId _ _ _ _ _
  | .encryptedProxyStreamChunk reqId _ _ _ _ _ => some reqId
  | _ => none

/-- The request that a channel's handler takes a message as an answer to. A channel
this peer serves on takes no encrypted answers. -/
def Channel.answerTaken (channel : Channel) (msg : StreamMessage) : Option String :=
  if msg.isEncryptedAnswer && channel.isProvider then none else msg.answeredRequest

/-! ## What a caller depends on -/

variable {m : Manager} {s t : ClusterState} {id reqId asked : String} {channel : Channel}
  {answers : Answers}

/-- What is handed to the caller of a request. -/
def ChannelEffect.heardBy (reqId : String) : ChannelEffect → Option Heard
  | .deliver probe item => if probe = reqId then some (.item item) else none
  | _ => none

def ClusterOutput.heardBy (reqId : String) : ClusterOutput → Option Heard
  | .effect _ done => done.heardBy reqId
  | _ => none

/-- What the caller of a request hears of a step. -/
def clusterHeard (reqId : String) (s : ClusterState) (outputs : List ClusterOutput)
    (s' : ClusterState) : List Heard :=
  outputs.filterMap (ClusterOutput.heardBy reqId) ++
    heardEnd (s.pendingRequests reqId) (s'.pendingRequests reqId)

/-- The part of a manager's state that the caller of a request put to the channel
`asked` depends on. -/
structure CallerView where
  waiting : Bool
  kept : Option EncryptedConsumerState
  proxy : ProxyState
  opened : String → Bool
  /-- Whether this peer serves on the channel, and the request's stream on it. -/
  stream : Option (Bool × Option PendingEncryptedStream)

def ClusterState.callerView (s : ClusterState) (asked reqId : String) : CallerView where
  waiting := s.pendingRequests reqId
  kept := s.pendingEncryptedConsumer reqId
  proxy := s.proxy
  opened := fun id => (s.channels id).isSome
  stream := (s.channels asked).map fun channel =>
    (channel.isProvider, channel.pendingEncryptedStreams reqId)

/-- A handler's result is of no concern to a caller. -/
def Unheard (asked reqId : String) (s : ClusterState) (result : ClusterState × List ChannelEffect) :
    Prop :=
  result.1.callerView asked reqId = s.callerView asked reqId ∧
    result.2.filterMap (ChannelEffect.heardBy reqId) = []

/-- Two results are the same to a caller. -/
def HeardAlike (asked reqId : String) (a b : ClusterState × List ChannelEffect) : Prop :=
  a.1.callerView asked reqId = b.1.callerView asked reqId ∧
    a.2.filterMap (ChannelEffect.heardBy reqId) = b.2.filterMap (ChannelEffect.heardBy reqId)

/-- Changing a channel's tables, but not the request's stream. -/
theorem callerView_setChannel {after : Channel} (found : s.channels id = some channel)
    (provider : after.isProvider = channel.isProvider)
    (stream : after.pendingEncryptedStreams reqId = channel.pendingEncryptedStreams reqId) :
    (s.setChannel id after).callerView asked reqId = s.callerView asked reqId := by
  have opened : (fun probe => (update s.channels id (some after) probe).isSome) =
      fun probe => (s.channels probe).isSome := by
    funext probe
    by_cases same : probe = id
    · subst same
      simp [found]
    · rw [update_of_ne same]
  have streams : ((update s.channels id (some after)) asked).map (fun channel =>
      (channel.isProvider, channel.pendingEncryptedStreams reqId)) =
      (s.channels asked).map fun channel =>
        (channel.isProvider, channel.pendingEncryptedStreams reqId) := by
    by_cases same : asked = id
    · subst same
      simp [found, provider, stream]
    · rw [update_of_ne same]
  simp only [ClusterState.callerView, ClusterState.setChannel, opened, streams]

theorem callerView_dropRequest {other : String} (differs : other ≠ reqId) :
    (s.dropRequest other).callerView asked reqId = s.callerView asked reqId := by
  simp [ClusterState.callerView, ClusterState.dropRequest, update_of_ne differs.symm]

theorem callerView_dropEncrypted {other : String} (differs : other ≠ reqId) :
    (s.dropEncrypted other).callerView asked reqId = s.callerView asked reqId := by
  simp [ClusterState.callerView, ClusterState.dropEncrypted, update_of_ne differs.symm]

theorem heardBy_deliverTo {other : String} (differs : other ≠ reqId) (item : Except String String) :
    (deliverTo s other item).filterMap (ChannelEffect.heardBy reqId) = [] := by
  unfold deliverTo
  split <;> simp [ChannelEffect.heardBy, differs]

theorem heardBy_deliverTo_parts {other : String} (differs : other ≠ reqId) (parts : List String) :
    (parts.flatMap fun part => deliverTo s other (.ok part)).filterMap
      (ChannelEffect.heardBy reqId) = [] := by
  rw [List.filterMap_eq_nil_iff]
  intro effect member
  obtain ⟨part, -, made⟩ := List.mem_flatMap.mp member
  exact List.filterMap_eq_nil_iff.mp (heardBy_deliverTo differs _) effect made

/-! ## Messages that do not answer -/

private theorem heardBy_reply {effect : ChannelEffect} (reply : effect.isReply) :
    effect.heardBy reqId = none := by
  cases effect with
  | deliver => exact reply.elim
  | _ => rfl

private theorem heardBy_dispatched (request : Arrived) :
    (dispatched m s channel answers request).2.filterMap (ChannelEffect.heardBy reqId) = [] := by
  rw [List.filterMap_eq_nil_iff]
  intro effect member
  rcases dispatched_effects member with ⟨-, -, rfl⟩ | reply
  · rfl
  · exact heardBy_reply reply

private theorem dispatchOn_unheard (request : EncryptedRequest) (recovered : Except String Json) :
    Unheard asked reqId s (dispatchOn m s channel answers request recovered) := by
  refine ⟨rfl, ?_⟩
  cases recovered with
  | error error =>
    rw [List.filterMap_eq_nil_iff]
    intro effect member
    exact heardBy_reply (sendEncryptedStreamError_isReply _ _ effect member)
  | ok body => exact heardBy_dispatched (.encrypted request body)

private theorem onEncryptedRequest_unheard (msg : StreamMessage)
    (found : s.channels id = some channel) :
    Unheard asked reqId s (onEncryptedRequest m s id channel msg answers) := by
  cases msg with
  | encryptedProxyRequest => exact dispatchOn_unheard _ _
  | encryptedProxyRequestStart => exact ⟨callerView_setChannel found rfl rfl, rfl⟩
  | encryptedProxyRequestChunk =>
    simp only [onEncryptedRequest]
    split
    · exact ⟨rfl, rfl⟩
    · exact ⟨callerView_setChannel found rfl rfl, rfl⟩
  | encryptedProxyRequestEnd =>
    simp only [onEncryptedRequest]
    split
    · exact ⟨rfl, rfl⟩
    · obtain ⟨view, silent⟩ : Unheard asked reqId _ (dispatchOn m _ channel answers _ _) :=
        dispatchOn_unheard _ _
      exact ⟨view.trans (callerView_setChannel found rfl rfl), silent⟩
  | _ => exact ⟨rfl, rfl⟩

private theorem onDataChannelMessage_unheard (msg : DataChannelMessage)
    (found : s.channels id = some channel) (other : msg.asStream.answeredRequest ≠ some reqId) :
    Unheard asked reqId s (onDataChannelMessage m s id channel msg answers) := by
  cases msg with
  | proxyRequest reqId' path body => exact ⟨rfl, heardBy_dispatched (.plaintext reqId' path body)⟩
  | proxyRequestStart => exact ⟨callerView_setChannel found rfl rfl, rfl⟩
  | proxyRequestChunk =>
    simp only [onDataChannelMessage]
    split
    · exact ⟨rfl, rfl⟩
    · exact ⟨callerView_setChannel found rfl rfl, rfl⟩
  | proxyRequestEnd reqId' =>
    simp only [onDataChannelMessage]
    split
    · exact ⟨rfl, rfl⟩
    · split
      · exact ⟨callerView_setChannel found rfl rfl, rfl⟩
      · rename_i pending _ _ body _
        have view : (s.setChannel id { channel with
            pendingIncoming := update channel.pendingIncoming reqId' none }).callerView asked reqId =
            s.callerView asked reqId := callerView_setChannel found rfl rfl
        exact ⟨view, heardBy_dispatched (.plaintext reqId' pending.path body)⟩
  | proxyResponseChunk reqId' chunk =>
    have differs : reqId' ≠ reqId := fun same => other (congrArg some same)
    exact ⟨rfl, heardBy_deliverTo differs _⟩
  | proxyResponseDone reqId' =>
    have differs : reqId' ≠ reqId := fun same => other (congrArg some same)
    exact ⟨callerView_dropRequest differs, rfl⟩
  | proxyResponseError reqId' error =>
    have differs : reqId' ≠ reqId := fun same => other (congrArg some same)
    exact ⟨callerView_dropRequest differs, heardBy_deliverTo differs _⟩
  | ping =>
    refine ⟨rfl, ?_⟩
    simp only [onDataChannelMessage]
    split <;> rfl
  | pong => exact ⟨rfl, rfl⟩

private theorem sendDcMessage_unheard (msg : DataChannelMessage) :
    (sendDcMessage answers msg).filterMap (ChannelEffect.heardBy reqId) = [] := by
  unfold sendDcMessage
  split <;> rfl

private theorem onEncryptedAnswer_unheard (msg : StreamMessage)
    (found : s.channels id = some channel) (other : msg.answeredRequest ≠ some reqId) :
    Unheard asked reqId s (onEncryptedAnswer m s id channel msg) := by
  cases msg with
  | encryptedProxyResponse reqId' nonce ciphertext version error stream =>
    have differs : reqId' ≠ reqId := fun same => other (congrArg some same)
    simp only [onEncryptedAnswer]
    split
    · split
      · exact ⟨rfl, rfl⟩
      · exact ⟨callerView_setChannel found rfl (update_of_ne differs.symm _ _), rfl⟩
    · split
      · exact ⟨rfl, rfl⟩
      · exact ⟨callerView_dropEncrypted differs, heardBy_deliverTo differs _⟩
  | encryptedProxyStreamChunk reqId' seq nonce ciphertext version done =>
    have differs : reqId' ≠ reqId := fun same => other (congrArg some same)
    have entered : ∀ entry, (s.setChannel id { channel with
        pendingEncryptedStreams := update channel.pendingEncryptedStreams reqId' entry }).callerView
        asked reqId = s.callerView asked reqId :=
      fun entry => callerView_setChannel found rfl (update_of_ne differs.symm _ _)
    have dropped : ∀ s' : ClusterState, ((s'.dropEncrypted reqId').dropRequest reqId').callerView
        asked reqId = s'.callerView asked reqId :=
      fun s' => (callerView_dropRequest differs).trans (callerView_dropEncrypted differs)
    simp only [onEncryptedAnswer]
    split
    · exact ⟨entered _, rfl⟩
    · exact ⟨entered _, heardBy_deliverTo_parts differs _⟩
    · exact ⟨(dropped _).trans (entered _), heardBy_deliverTo_parts differs _⟩
    · exact ⟨(dropped _).trans (entered _), heardBy_deliverTo differs _⟩
  | _ => exact ⟨rfl, rfl⟩

/-- A message that its channel does not take as an answer to a request leaves the
request's caller alone. -/
theorem onMessage_unheard (msg : StreamMessage) (found : s.channels id = some channel)
    (other : channel.answerTaken msg ≠ some reqId) :
    Unheard asked reqId s (onMessage m s id channel msg answers) := by
  unfold onMessage
  split
  · exact onEncryptedRequest_unheard msg found
  · split
    · rename_i kind
      rw [Bool.and_eq_true, Bool.not_eq_true'] at kind
      refine onEncryptedAnswer_unheard msg found ?_
      simpa [Channel.answerTaken, kind.2] using other
    · split
      · rename_i dc read
        have plain : msg.isEncryptedAnswer = false := by
          cases msg <;> first | rfl | cases read
        have same : dc.asStream = msg := asStream_of_asDataChannel read
        have differs : dc.asStream.answeredRequest ≠ some reqId := by
          rw [same]
          simpa [Channel.answerTaken, plain] using other
        unfold gateDataChannelMessage
        split
        · split
          · exact ⟨rfl, sendDcMessage_unheard _⟩
          · exact onDataChannelMessage_unheard dc found differs
        · exact onDataChannelMessage_unheard dc found differs
      · exact ⟨rfl, rfl⟩

/-! ## Messages that answer -/

theorem callerView_dropRequest_self : (s.dropRequest reqId).callerView asked reqId =
    { s.callerView asked reqId with waiting := false } := by
  simp [ClusterState.callerView, ClusterState.dropRequest]

theorem callerView_dropEncrypted_self : (s.dropEncrypted reqId).callerView asked reqId =
    { s.callerView asked reqId with kept := none } := by
  simp [ClusterState.callerView, ClusterState.dropEncrypted]

/-- Changing the request's own stream. -/
theorem callerView_setStream (found : s.channels asked = some channel)
    (entry : Option PendingEncryptedStream) :
    (s.setChannel asked { channel with
      pendingEncryptedStreams := update channel.pendingEncryptedStreams reqId entry }).callerView
      asked reqId = { s.callerView asked reqId with
        stream := some (channel.isProvider, entry) } := by
  have opened : (fun probe => (update s.channels asked (some { channel with
      pendingEncryptedStreams := update channel.pendingEncryptedStreams reqId entry }) probe).isSome) =
      fun probe => (s.channels probe).isSome := by
    funext probe
    by_cases same : probe = asked
    · subst same
      simp [found]
    · rw [update_of_ne same]
  simp only [ClusterState.callerView, ClusterState.setChannel, opened]
  simp

theorem heardBy_deliverTo_self (item : Except String String) :
    (deliverTo s reqId item).filterMap (ChannelEffect.heardBy reqId) =
      if s.pendingRequests reqId then [.item item] else [] := by
  unfold deliverTo
  split <;> simp [ChannelEffect.heardBy]

/-- A caller hears the same of a delivery wherever it waits alike. -/
theorem heardBy_deliverTo_alike (waiting : s.pendingRequests reqId = t.pendingRequests reqId)
    (item : Except String String) :
    (deliverTo s reqId item).filterMap (ChannelEffect.heardBy reqId) =
      (deliverTo t reqId item).filterMap (ChannelEffect.heardBy reqId) := by
  rw [heardBy_deliverTo_self, heardBy_deliverTo_self, waiting]

private theorem deliverTo_parts_alike (waiting : s.pendingRequests reqId = t.pendingRequests reqId)
    (parts : List String) :
    (parts.flatMap fun part => deliverTo s reqId (.ok part)).filterMap
        (ChannelEffect.heardBy reqId) =
      (parts.flatMap fun part => deliverTo t reqId (.ok part)).filterMap
        (ChannelEffect.heardBy reqId) := by
  induction parts with
  | nil => rfl
  | cons part rest ih =>
    simp only [List.flatMap_cons, List.filterMap_append, ih, heardBy_deliverTo_alike waiting]

section Alike

variable {channel' : Channel} (view : s.callerView asked reqId = t.callerView asked reqId)
  (found : s.channels asked = some channel) (found' : t.channels asked = some channel')

include view

private theorem waiting_alike : s.pendingRequests reqId = t.pendingRequests reqId :=
  congrArg CallerView.waiting view

include found found'

private theorem stream_alike : channel.isProvider = channel'.isProvider ∧
    channel.pendingEncryptedStreams reqId = channel'.pendingEncryptedStreams reqId := by
  have same := congrArg CallerView.stream view
  simpa [ClusterState.callerView, found, found'] using same

private theorem setStream_alike (entry : Option PendingEncryptedStream) :
    (s.setChannel asked { channel with
      pendingEncryptedStreams := update channel.pendingEncryptedStreams reqId entry }).callerView
        asked reqId =
      (t.setChannel asked { channel' with
        pendingEncryptedStreams := update channel'.pendingEncryptedStreams reqId entry }).callerView
        asked reqId := by
  rw [callerView_setStream found, callerView_setStream found', view,
    (stream_alike view found found').1]

private theorem onEncryptedAnswer_alike (msg : StreamMessage)
    (answered : msg.answeredRequest = some reqId) :
    HeardAlike asked reqId (onEncryptedAnswer m s asked channel msg)
      (onEncryptedAnswer m t asked channel' msg) := by
  have waiting := waiting_alike view
  have kept : s.pendingEncryptedConsumer reqId = t.pendingEncryptedConsumer reqId :=
    congrArg CallerView.kept view
  have proxy : s.proxy = t.proxy := congrArg CallerView.proxy view
  have entered := setStream_alike view found found'
  cases msg with
  | encryptedProxyResponse reqId' nonce ciphertext version error stream =>
    obtain rfl := Option.some.inj answered
    simp only [onEncryptedAnswer, ← kept, ← proxy]
    by_cases ack : stream = some true ∧ error = none
    · rw [if_pos ack, if_pos ack]
      cases s.pendingEncryptedConsumer reqId' with
      | none => exact ⟨view, rfl⟩
      | some state => exact ⟨entered _, rfl⟩
    · rw [if_neg ack, if_neg ack]
      cases s.pendingEncryptedConsumer reqId' with
      | none => exact ⟨view, rfl⟩
      | some state =>
        refine ⟨?_, heardBy_deliverTo_alike waiting _⟩
        simp only [callerView_dropEncrypted_self, view]
  | encryptedProxyStreamChunk reqId' seq nonce ciphertext version done =>
    obtain rfl := Option.some.inj answered
    have dropped : ∀ a b : ClusterState, a.callerView asked reqId' = b.callerView asked reqId' →
        ((a.dropEncrypted reqId').dropRequest reqId').callerView asked reqId' =
          ((b.dropEncrypted reqId').dropRequest reqId').callerView asked reqId' := by
      intro a b same
      simp only [callerView_dropRequest_self, callerView_dropEncrypted_self, same]
    simp only [onEncryptedAnswer, ← (stream_alike view found found').2, ← proxy]
    obtain ⟨outcome, left⟩ := handleEncryptedStreamChunk m.host s.proxy.config reqId'
      (channel.pendingEncryptedStreams reqId') ⟨seq, nonce, ciphertext, done⟩
    cases outcome with
    | error error => exact ⟨dropped _ _ (entered _), heardBy_deliverTo_alike waiting _⟩
    | ok outcome =>
      cases outcome with
      | waiting => exact ⟨entered _, rfl⟩
      | progress parts => exact ⟨entered _, deliverTo_parts_alike waiting parts⟩
      | finished parts => exact ⟨dropped _ _ (entered _), deliverTo_parts_alike waiting parts⟩
  | _ => exact ⟨view, rfl⟩

omit found found' in
private theorem onDataChannelMessage_alike (msg : DataChannelMessage)
    (answered : msg.asStream.answeredRequest = some reqId) :
    HeardAlike asked reqId (onDataChannelMessage m s id channel msg answers)
      (onDataChannelMessage m t id channel' msg answers) := by
  have waiting := waiting_alike view
  cases msg with
  | proxyResponseChunk reqId' chunk =>
    obtain rfl := Option.some.inj answered
    exact ⟨view, heardBy_deliverTo_alike waiting _⟩
  | proxyResponseDone reqId' =>
    obtain rfl := Option.some.inj answered
    refine ⟨?_, rfl⟩
    simp only [onDataChannelMessage, callerView_dropRequest_self, view]
  | proxyResponseError reqId' error =>
    obtain rfl := Option.some.inj answered
    refine ⟨?_, heardBy_deliverTo_alike waiting _⟩
    simp only [onDataChannelMessage, callerView_dropRequest_self, view]
  | _ => cases answered

/-- What a caller hears of a message on its channel, and what becomes of what it
depends on, is decided by what it depends on. -/
theorem onMessage_alike (msg : StreamMessage) :
    HeardAlike asked reqId (onMessage m s asked channel msg answers)
      (onMessage m t asked channel' msg answers) := by
  have provider := (stream_alike view found found').1
  by_cases taken : channel.answerTaken msg = some reqId
  · have consumer : (msg.isEncryptedAnswer && channel.isProvider) = false := by
      cases served : msg.isEncryptedAnswer && channel.isProvider with
      | false => rfl
      | true => simp [Channel.answerTaken, served] at taken
    have answered : msg.answeredRequest = some reqId := by
      simpa [Channel.answerTaken, consumer] using taken
    have notRequest : msg.isEncryptedRequest = false := by
      cases msg <;> first | rfl | cases answered
    unfold onMessage
    simp only [notRequest, Bool.false_and, Bool.false_eq_true, ↓reduceIte, ← provider]
    by_cases kind : msg.isEncryptedAnswer = true
    · have isConsumer : channel.isProvider = false := by simpa [kind] using consumer
      simp only [kind, isConsumer, Bool.not_false, Bool.and_self, ↓reduceIte]
      exact onEncryptedAnswer_alike view found found' msg answered
    · simp only [kind, Bool.false_and, Bool.false_eq_true, ↓reduceIte]
      split
      · rename_i dc read
        have same : dc.asStream = msg := asStream_of_asDataChannel read
        have plain : dc.plaintextRequestId = none := by
          cases dc <;> first | rfl | (rw [← same] at answered; cases answered)
        simp only [gateDataChannelMessage, plain]
        exact onDataChannelMessage_alike view dc (same ▸ answered)
      · exact ⟨view, rfl⟩
  · have taken' : channel'.answerTaken msg ≠ some reqId := by
      rwa [Channel.answerTaken, ← provider]
    obtain ⟨left, silent⟩ : Unheard asked reqId s (onMessage m s asked channel msg answers) :=
      onMessage_unheard msg found taken
    obtain ⟨left', silent'⟩ : Unheard asked reqId t (onMessage m t asked channel' msg answers) :=
      onMessage_unheard msg found' taken'
    exact ⟨left.trans (view.trans left'.symm), silent.trans silent'.symm⟩

end Alike

/-! ## Steps -/

/-- A message of another channel than the one a request was put to. -/
def ClusterEvent.OtherChannel (asked : String) : ClusterEvent → Prop
  | .message id _ _ => id ≠ asked
  | _ => False

instance (asked : String) : DecidablePred (ClusterEvent.OtherChannel asked) := fun e =>
  match e with
  | .message id _ _ => inferInstanceAs (Decidable (id ≠ asked))
  | .channelOpened .. | .sendRequest .. | .connectOffer .. | .connectUpdate ..
  | .requestPeerConnect .. | .brokered .. | .route .. | .peerBanned .. | .respond ..
  | .proxyChanged .. | .offersChanged .. | .elapsed .. => inferInstanceAs (Decidable False)

/-- No other channel takes a message as an answer to a request. -/
def AnsweredOnlyOn (asked reqId : String) (s : ClusterState) (e : ClusterEvent) : Prop :=
  ∀ id msg answers channel, e = .message id msg answers → id ≠ asked →
    s.channels id = some channel → channel.answerTaken msg ≠ some reqId

theorem heardBy_map (effects : List ChannelEffect) :
    (effects.map (ClusterOutput.effect id)).filterMap (ClusterOutput.heardBy reqId) =
      effects.filterMap (ChannelEffect.heardBy reqId) := by
  rw [List.filterMap_map]
  rfl

/-- A message of another channel is not heard by the caller. -/
theorem clusterStep_unheard {e : ClusterEvent} (other : e.OtherChannel asked)
    (owned : AnsweredOnlyOn asked reqId s e) :
    (clusterStep m s e).1.callerView asked reqId = s.callerView asked reqId ∧
      clusterHeard reqId s (clusterStep m s e).2 (clusterStep m s e).1 = [] := by
  cases e with
  | message id msg answers =>
    simp only [clusterStep]
    cases found : s.channels id with
    | none => exact ⟨rfl, by simp [clusterHeard]⟩
    | some channel =>
      obtain ⟨view, silent⟩ : Unheard asked reqId s (onMessage m s id channel msg answers) :=
        onMessage_unheard msg found (owned id msg answers channel rfl other found)
      refine ⟨view, ?_⟩
      have waiting : (onMessage m s id channel msg answers).1.pendingRequests reqId =
          s.pendingRequests reqId := congrArg CallerView.waiting view
      simp only [clusterHeard, heardBy_map, silent, waiting, heardEnd_self, List.append_nil]
  | _ => exact other.elim

/-- A local request acts alike on managers that are alike to a caller. -/
private theorem onSendRequest_alike {reqId' path : String} {body : Json}
    (view : s.callerView asked reqId = t.callerView asked reqId) :
    HeardAlike asked reqId (onSendRequest m s reqId' path body answers)
      (onSendRequest m t reqId' path body answers) := by
  have proxy : s.proxy = t.proxy := congrArg CallerView.proxy view
  have waiting : s.pendingRequests reqId = t.pendingRequests reqId := congrArg CallerView.waiting view
  have kept : s.pendingEncryptedConsumer reqId = t.pendingEncryptedConsumer reqId :=
    congrArg CallerView.kept view
  have opened := congrArg CallerView.opened view
  have stream := congrArg CallerView.stream view
  have registered : ∀ value, update s.pendingRequests reqId' value reqId =
      update t.pendingRequests reqId' value reqId := by
    intro value
    by_cases same : reqId = reqId'
    · subst same
      simp
    · rw [update_of_ne same, update_of_ne same, waiting]
  have entered : ∀ value, update s.pendingEncryptedConsumer reqId' value reqId =
      update t.pendingEncryptedConsumer reqId' value reqId := by
    intro value
    by_cases same : reqId = reqId'
    · subst same
      simp
    · rw [update_of_ne same, update_of_ne same, kept]
  simp only [ClusterState.callerView] at opened stream
  unfold onSendRequest
  simp only [← proxy]
  cases m.host.e2eeEnabled with
  | true =>
    simp only [↓reduceIte]
    obtain ⟨sent, outcome⟩ := sendEncryptedProxyRequest m.host s.proxy.config answers m.peerId reqId'
      path body m.clusterId none
    cases outcome with
    | ok state =>
      refine ⟨?_, rfl⟩
      simp only [ClusterState.callerView, registered, entered, proxy, opened, stream]
    | error error =>
      refine ⟨?_, rfl⟩
      simp only [ClusterState.callerView, registered, kept, proxy, opened, stream]
  | false =>
    refine ⟨?_, rfl⟩
    simp only [Bool.false_eq_true, ↓reduceIte, ClusterState.callerView, registered, kept, proxy,
      opened, stream]

/-- What agrees after a step, and is handed over alike in it, is heard alike. -/
private theorem heard_alike {a b : ClusterState × List ClusterOutput}
    (view : s.callerView asked reqId = t.callerView asked reqId)
    (after : a.1.callerView asked reqId = b.1.callerView asked reqId)
    (outputs : a.2.filterMap (ClusterOutput.heardBy reqId) =
      b.2.filterMap (ClusterOutput.heardBy reqId)) :
    a.1.callerView asked reqId = b.1.callerView asked reqId ∧
      clusterHeard reqId s a.2 a.1 = clusterHeard reqId t b.2 b.1 := by
  have waiting : s.pendingRequests reqId = t.pendingRequests reqId := congrArg CallerView.waiting view
  have later : a.1.pendingRequests reqId = b.1.pendingRequests reqId :=
    congrArg CallerView.waiting after
  exact ⟨after, by simp only [clusterHeard, outputs, waiting, later]⟩

/-- Managers that are alike to a caller have the same channels open. -/
private theorem opened_alike (view : s.callerView asked reqId = t.callerView asked reqId)
    (id : String) : (s.channels id).isSome = (t.channels id).isSome :=
  congrFun (congrArg CallerView.opened view) id

private theorem lobby_alike {e : ClusterEvent}
    (view : s.callerView asked reqId = t.callerView asked reqId) (lobby : e.isChannel = false) :
    (clusterStep m s e).1.callerView asked reqId = (clusterStep m t e).1.callerView asked reqId ∧
      clusterHeard reqId s (clusterStep m s e).2 (clusterStep m s e).1 =
        clusterHeard reqId t (clusterStep m t e).2 (clusterStep m t e).1 := by
  refine heard_alike view ?_ ?_
  · have frame := (clusterStep_lobby (m := m) (s := s) lobby).1
    have frame' := (clusterStep_lobby (m := m) (s := t) lobby).1
    have proxy : s.proxy = t.proxy := congrArg CallerView.proxy view
    simp only [ClusterState.channelState, ChannelState.mk.injEq] at frame frame'
    obtain ⟨channels, requests, consumers⟩ := frame
    obtain ⟨channels', requests', consumers'⟩ := frame'
    simp only [ClusterState.callerView, CallerView.mk.injEq] at view ⊢
    simp only [channels, requests, consumers, channels', requests', consumers', clusterStep_proxy,
      proxy]
    exact ⟨view.1, view.2.1, trivial, view.2.2.2⟩
  · have silent : ∀ u : ClusterState,
        (clusterStep m u e).2.filterMap (ClusterOutput.heardBy reqId) = [] := by
      intro u
      rw [List.filterMap_eq_nil_iff]
      intro o member
      cases o with
      | effect id effect => exact ((clusterStep_lobby lobby).2 id effect member).elim
      | _ => rfl
    rw [silent, silent]

private theorem setChannel_alike {id peer : String} {isProvider : Bool}
    (view : s.callerView asked reqId = t.callerView asked reqId) :
    (s.setChannel id (.opened peer isProvider)).callerView asked reqId =
      (t.setChannel id (.opened peer isProvider)).callerView asked reqId := by
  have both : (fun probe => (update s.channels id (some (.opened peer isProvider)) probe).isSome) =
      fun probe => (update t.channels id (some (.opened peer isProvider)) probe).isSome := by
    funext probe
    by_cases same : probe = id
    · subst same
      simp
    · rw [update_of_ne same, update_of_ne same]
      exact opened_alike view probe
  have stream := congrArg CallerView.stream view
  have streams : (update s.channels id (some (.opened peer isProvider)) asked).map (fun channel =>
      (channel.isProvider, channel.pendingEncryptedStreams reqId)) =
      (update t.channels id (some (.opened peer isProvider)) asked).map fun channel =>
        (channel.isProvider, channel.pendingEncryptedStreams reqId) := by
    by_cases same : asked = id
    · subst same
      simp
    · rw [update_of_ne same, update_of_ne same]
      exact stream
  simp only [ClusterState.callerView, CallerView.mk.injEq] at view
  simp only [ClusterState.setChannel, ClusterState.callerView, both, streams, view]

/-- Every other event acts alike on managers that are alike to a caller. -/
theorem clusterStep_alike {e : ClusterEvent}
    (view : s.callerView asked reqId = t.callerView asked reqId) (own : ¬ e.OtherChannel asked) :
    (clusterStep m s e).1.callerView asked reqId = (clusterStep m t e).1.callerView asked reqId ∧
      clusterHeard reqId s (clusterStep m s e).2 (clusterStep m s e).1 =
        clusterHeard reqId t (clusterStep m t e).2 (clusterStep m t e).1 := by
  by_cases lobby : e.isChannel = false
  · exact lobby_alike view lobby
  · cases e with
    | message id msg answers =>
      obtain rfl : id = asked := by_contra own
      have opened := opened_alike view id
      simp only [clusterStep]
      cases found : s.channels id with
      | none =>
        rw [found] at opened
        have absent : t.channels id = none := by simpa using opened.symm
        rw [absent]
        exact heard_alike view view rfl
      | some channel =>
        rw [found] at opened
        obtain ⟨channel', found'⟩ := Option.isSome_iff_exists.mp opened.symm
        rw [found']
        obtain ⟨after, outputs⟩ : HeardAlike id reqId (onMessage m s id channel msg answers)
          (onMessage m t id channel' msg answers) := onMessage_alike view found found' msg
        refine heard_alike view after ?_
        rw [heardBy_map, heardBy_map, outputs]
    | channelOpened id peer isProvider => exact heard_alike view (setChannel_alike view) rfl
    | sendRequest id reqId' path body answers =>
      have opened := opened_alike view id
      simp only [clusterStep]
      cases found : s.channels id with
      | none =>
        rw [found] at opened
        have absent : t.channels id = none := by simpa using opened.symm
        rw [absent]
        exact heard_alike view view rfl
      | some channel =>
        rw [found] at opened
        obtain ⟨channel', found'⟩ := Option.isSome_iff_exists.mp opened.symm
        rw [found']
        obtain ⟨after, outputs⟩ : HeardAlike asked reqId (onSendRequest m s reqId' path body answers)
          (onSendRequest m t reqId' path body answers) := onSendRequest_alike view
        refine heard_alike view after ?_
        rw [heardBy_map, heardBy_map, outputs]
    | _ => exact absurd rfl lobby

end MtrxPeer
