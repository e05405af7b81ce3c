import MtrxPeer.ClusterAnswers
import MtrxPeer.ClusterConsumer
import MtrxPeer.StreamReorder

/-! The two steps in which a cluster's consumer sends an encrypted request: its messages
go out, and only then are the keys recorded that read the answer. The channel's handler
may run in between. -/
namespace MtrxPeer

open Function (update update_of_ne update_self)

/-! ## Sending in two steps -/

/-- A cluster manager, and the keys of the requests between the two steps. -/
structure SendingState where
  cluster : ClusterState
  unrecorded : String → Option EncryptedConsumerState

inductive SendingEvent where
  /-- `send_encrypted_proxy_request` returns. -/
  | sends (reqId path : String) (body : Json) (channel : String) (answers : Answers)
  /-- `pending_encrypted_consumer.insert`. -/
  | records (reqId : String)
  | message (channel : String) (msg : StreamMessage) (answers : Answers)

def sendingStep (m : Manager) (s : SendingState) : SendingEvent → SendingState × List ClusterOutput
  | .sends reqId path body channel answers =>
    let (sent, keys) := sendEncryptedProxyRequest m.host s.cluster.proxy.config answers m.peerId
      reqId path body m.clusterId none
    (match keys with
      | .ok keys => { s with unrecorded := update s.unrecorded reqId (some keys) }
      | .error _ => s,
      sent.map fun msg => .effect channel (.stream msg))
  | .records reqId =>
    match s.unrecorded reqId with
    | none => (s, [])
    | some keys =>
      ({ cluster := { s.cluster with
            pendingEncryptedConsumer := update s.cluster.pendingEncryptedConsumer reqId (some keys) }
         unrecorded := update s.unrecorded reqId none }, [])
  | .message channel msg answers =>
    let (cluster, outputs) := clusterStep m s.cluster (.message channel msg answers)
    ({ s with cluster }, outputs)

def sendingMachine (m : Manager) : Machine SendingState SendingEvent ClusterOutput := ⟨sendingStep m⟩

/-- What the caller of a request hears of a step. -/
def sendingHeard (reqId : String) (s : SendingState) (outputs : List ClusterOutput)
    (s' : SendingState) : List Heard := clusterHeard reqId s.cluster outputs s'.cluster

/-- The two steps together are what the manager's task does. -/
theorem sends_then_records {m : Manager} {s : SendingState} {reqId path channel : String}
    {body : Json} {answers : Answers} (enabled : m.host.e2eeEnabled = true)
    (fresh : s.unrecorded reqId = none) :
    let sent := sendingStep m s (.sends reqId path body channel answers)
    let whole := sendClusterProxyOnDc m s.cluster reqId path body answers
    (sendingStep m sent.1 (.records reqId)).1.cluster = whole.1 ∧
      sent.2 = whole.2.1.map (.effect channel) := by
  simp only [sendingStep, sendClusterProxyOnDc, enabled, if_true]
  generalize sendEncryptedProxyRequest m.host s.cluster.proxy.config answers m.peerId reqId path body
    m.clusterId none = result
  obtain ⟨sent, keys⟩ := result
  cases keys with
  | ok keys => simp
  | error error => simp [fresh]

/-! ## What a provider replies -/

/-- A reply to an encrypted request: a refusal, an acknowledgement that an error follows,
or an acknowledgement that a stream follows. -/
inductive Reply (P : Primitives) (provider : ClientConfig) (reqId path roomId : String)
    (ephemeralPk : Bytes) where
  | refused (error : String)
  | failed (error : String)
  | stream (chunks : SealedStream P provider reqId path roomId ephemeralPk)

section Replies

variable {P : Primitives} {provider : ClientConfig} {reqId path roomId : String} {ephemeralPk : Bytes}

/-- The messages of a reply, in order. -/
def Reply.messages (version : Nat) :
    Reply P provider reqId path roomId ephemeralPk → List StreamMessage
  | .refused error => [encryptedErrorResponse reqId version error]
  | .failed error => [.encryptedProxyResponse reqId [] [] version none (some true),
      encryptedErrorResponse reqId version error]
  | .stream chunks => .encryptedProxyResponse reqId [] [] version none (some true) ::
      (List.range chunks.texts.length).map (chunks.message version)

/-- What the caller should hear of it. -/
def Reply.heard : Reply P provider reqId path roomId ephemeralPk → List Heard
  | .refused error | .failed error => [.item (.error error)]
  | .stream chunks => chunks.texts.map (fun text => .item (.ok text)) ++ [.ended]

/-- How many messages of a reply may come before the keys are recorded: none, but for an
acknowledgement that an error follows. -/
def Reply.Survives (reply : Reply P provider reqId path roomId ephemeralPk) (early : Nat) : Prop :=
  match reply with
  | .failed _ => early ≤ 1
  | _ => early = 0

end Replies

/-! ## Reading a reply -/

variable {m : Manager} {s : ClusterState} {id reqId path roomId : String} {channel : Channel}
  {answers : Answers}

/-- A consumer's channel hands an answer to its handler. -/
theorem answer_step (opened : s.channels id = some channel) (consumer : channel.isProvider = false)
    {msg : StreamMessage} (answer : msg.isEncryptedAnswer = true) :
    clusterStep m s (.message id msg answers) =
      ((onEncryptedAnswer m s id channel msg).1,
        (onEncryptedAnswer m s id channel msg).2.map (.effect id)) := by
  simp only [clusterStep, opened, onMessage, consumer, answer, Bool.and_false, Bool.false_eq_true,
    if_false, Bool.not_false, Bool.and_true, if_true]

/-- A caller waits for a stream on a channel, of which the first chunks have come. -/
structure Hearing {host : Host} {config provider : ClientConfig} {ephemeral pk : Bytes}
    (shared : SharedKeys host config provider roomId pk)
    (stream : SealedStream host.crypto provider reqId path roomId (host.crypto.publicKey ephemeral))
    (id : String) (came : Nat) (s : ClusterState) : Prop where
  config : s.proxy.config = config
  waits : s.pendingRequests reqId = true
  opened : ∃ channel, s.channels id = some channel ∧ channel.isProvider = false ∧
    stream.Received pk (List.range came) (channel.pendingEncryptedStreams reqId)

section Hearing

variable {config provider : ClientConfig} {ephemeral pk : Bytes}
  {shared : SharedKeys m.host config provider roomId pk}
  {stream : SealedStream m.host.crypto provider reqId path roomId (m.host.crypto.publicKey ephemeral)}
  {came version : Nat}

private theorem frontier_range (n : Nat) : frontier (List.range n) = n :=
  frontier_eq (by simp) (by simp)

/-- The next chunk hands its text over, and the last one ends the answer. -/
theorem chunk_heard (hearing : Hearing shared stream id came s) (bound : came < stream.texts.length) :
    let result := clusterStep m s (.message id (stream.message version came) answers)
    clusterHeard reqId s result.2 result.1 = .item (.ok stream.texts[came]) ::
        (if came + 1 = stream.texts.length then [.ended] else []) ∧
      (came + 1 < stream.texts.length → Hearing shared stream id (came + 1) result.1) := by
  obtain ⟨known, waits, channel, opened, consumer, received⟩ := hearing
  have sent : ∀ i ∈ List.range came, i < stream.texts.length := by
    intro i member
    have below := List.mem_range.mp member
    omega
  obtain ⟨outcome, kept⟩ := handleEncryptedStreamChunk_received shared stream sent received bound
  rw [← List.range_succ, frontier_range, frontier_range, SealedStream.outcome,
    if_neg (Nat.ne_of_lt bound), segment_succ _ (Nat.lt_succ_self came) bound, segment_self] at outcome
  rw [← List.range_succ] at kept
  rw [answer_step opened consumer rfl]
  obtain ⟨⟨read, left⟩, handled⟩ : ∃ result, handleEncryptedStreamChunk m.host config reqId
    (channel.pendingEncryptedStreams reqId) (stream.chunk came) = result := ⟨_, rfl⟩
  rw [handled] at outcome kept
  obtain rfl : read = _ := outcome
  have handled' : handleEncryptedStreamChunk m.host s.proxy.config reqId
      (channel.pendingEncryptedStreams reqId) ⟨(stream.chunk came).seq, (stream.chunk came).nonce,
        (stream.chunk came).ciphertext, (stream.chunk came).done⟩ =
        (.ok (drainOutcome (came + 1 = stream.texts.length) [stream.texts[came]]), left) := by
    rw [known]
    exact handled
  simp only [onEncryptedAnswer, SealedStream.message, handled', drainOutcome]
  by_cases last : came + 1 = stream.texts.length
  · simp only [last, if_true, clusterHeard, heardBy_map, List.flatMap_cons, List.flatMap_nil,
      List.append_nil, heardBy_deliverTo_self, waits]
    refine ⟨?_, fun more => absurd more (Nat.lt_irrefl _)⟩
    simp [ClusterState.dropRequest, heardEnd]
  · simp only [last, if_false, List.cons_ne_nil, clusterHeard, heardBy_map, List.flatMap_cons,
      List.flatMap_nil, List.append_nil, heardBy_deliverTo_self, waits]
    refine ⟨?_, fun _ => ⟨known, waits, _, update_self .., consumer, ?_⟩⟩
    · have still : (s.setChannel id { channel with
          pendingEncryptedStreams := update channel.pendingEncryptedStreams reqId left }
        ).pendingRequests reqId = true := waits
      rw [still]
      rfl
    · dsimp only
      rw [update_self]
      exact kept

/-- The chunks hand their texts over in order, and the last one ends the answer. -/
theorem chunks_heard (hearing : Hearing shared stream id came s) (bound : came < stream.texts.length) :
    (clusterMachine m).trace (clusterHeard reqId) s
        ((List.range' came (stream.texts.length - came)).map fun i =>
          .message id (stream.message version i) answers) =
      (stream.texts.drop came).map (fun text => Heard.item (.ok text)) ++ [.ended] := by
  obtain ⟨missing, count⟩ : ∃ missing, stream.texts.length - came = missing + 1 :=
    ⟨stream.texts.length - came - 1, by omega⟩
  rw [count]
  induction missing generalizing s came with
  | zero =>
    obtain ⟨heard, -⟩ := @chunk_heard m s id reqId path roomId answers config provider ephemeral pk
      shared stream came version hearing bound
    have last : came + 1 = stream.texts.length := by omega
    rw [if_pos last] at heard
    simp only [Nat.zero_add, List.range'_one, List.map_cons, List.map_nil, Machine.trace,
      List.append_nil, clusterMachine, heard]
    rw [List.drop_eq_getElem_cons bound, last, List.drop_length]
    rfl
  | succ missing ih =>
    obtain ⟨heard, next⟩ := @chunk_heard m s id reqId path roomId answers config provider ephemeral pk
      shared stream came version hearing bound
    have more : came + 1 < stream.texts.length := by omega
    have rest := ih (next more) more (by omega)
    rw [if_neg (Nat.ne_of_lt more)] at heard
    rw [List.range'_succ, List.map_cons, Machine.trace]
    simp only [clusterMachine] at rest ⊢
    rw [heard, rest, List.drop_eq_getElem_cons bound]
    rfl

end Hearing

/-! ## Schedules -/

/-- The keys of a request are recorded. -/
def ClusterState.record (s : ClusterState) (reqId : String) (keys : EncryptedConsumerState) :
    ClusterState :=
  { s with pendingEncryptedConsumer := update s.pendingEncryptedConsumer reqId (some keys) }

/-- A caller waits for a request that is about to be sent on a channel. -/
structure ClusterState.Awaits (s : ClusterState) (reqId id : String) : Prop where
  waits : s.pendingRequests reqId = true
  unkeyed : s.pendingEncryptedConsumer reqId = none
  opened : ∃ channel, s.channels id = some channel ∧ channel.isProvider = false ∧
    channel.pendingEncryptedStreams reqId = none

section Steps

variable {keys : EncryptedConsumerState} {version : Nat} {error : String}

/-- Without the keys an acknowledgement or a response is ignored. -/
theorem response_ignored (awaits : s.Awaits reqId id) (nonce ciphertext : Bytes)
    (error : Option String) (stream : Option Bool) :
    clusterStep m s (.message id
      (.encryptedProxyResponse reqId nonce ciphertext version error stream) answers) = (s, []) := by
  obtain ⟨-, unkeyed, channel, opened, consumer, -⟩ := awaits
  rw [answer_step opened consumer rfl]
  simp only [onEncryptedAnswer, unkeyed]
  split <;> rfl

/-- Without a stream a chunk fails the request. -/
theorem chunk_refused (waits : s.pendingRequests reqId = true) (opened : s.channels id = some channel)
    (consumer : channel.isProvider = false) (none_ : channel.pendingEncryptedStreams reqId = none)
    (seq : Nat) (nonce ciphertext : Bytes) (done : Bool) :
    let result := clusterStep m s (.message id
      (.encryptedProxyStreamChunk reqId seq nonce ciphertext version done) answers)
    clusterHeard reqId s result.2 result.1 =
      [.item (.error "missing encrypted stream state"), .ended] := by
  rw [answer_step opened consumer rfl]
  simp only [onEncryptedAnswer, none_, handleEncryptedStreamChunk, clusterHeard, heardBy_map,
    heardBy_deliverTo_self, waits, if_true]
  simp [ClusterState.dropRequest, heardEnd]

/-- With the keys an error is handed over. -/
theorem error_heard (waits : s.pendingRequests reqId = true) (opened : s.channels id = some channel)
    (consumer : channel.isProvider = false) (kept : s.pendingEncryptedConsumer reqId = some keys) :
    let result := clusterStep m s (.message id (encryptedErrorResponse reqId version error) answers)
    clusterHeard reqId s result.2 result.1 = [.item (.error error)] := by
  rw [answer_step opened consumer rfl]
  have handled : onEncryptedAnswer m s id channel (encryptedErrorResponse reqId version error) =
      (s.dropEncrypted reqId, deliverTo s reqId (.error error)) := by
    simp only [onEncryptedAnswer, encryptedErrorResponse, kept]
    rfl
  have still : (s.dropEncrypted reqId).pendingRequests reqId = true := waits
  simp only [handled, clusterHeard, heardBy_map, heardBy_deliverTo_self, waits, still, if_true,
    heardEnd_self, List.append_nil]

/-- With the keys an acknowledgement starts the stream, and nothing is heard yet. -/
theorem ack_recorded (awaits : s.Awaits reqId id) :
    let result := clusterStep m (s.record reqId keys) (.message id
      (.encryptedProxyResponse reqId [] [] version none (some true)) answers)
    clusterHeard reqId (s.record reqId keys) result.2 result.1 = [] ∧
      result.1.proxy = s.proxy ∧ result.1.pendingRequests reqId = true ∧
      result.1.pendingEncryptedConsumer reqId = some keys ∧
      ∃ channel, result.1.channels id = some channel ∧ channel.isProvider = false ∧
        channel.pendingEncryptedStreams reqId = some (initPendingEncryptedStream keys) := by
  obtain ⟨waits, -, channel, opened, consumer, -⟩ := awaits
  have kept : (s.record reqId keys).pendingEncryptedConsumer reqId = some keys := update_self ..
  rw [@answer_step m (s.record reqId keys) id channel answers opened consumer _ rfl]
  simp only [onEncryptedAnswer, kept, and_self, if_true]
  refine ⟨?_, rfl, waits, kept, _, update_self .., consumer, update_self ..⟩
  simp only [clusterHeard, List.map_nil, List.filterMap_nil, List.nil_append]
  exact heardEnd_self _

end Steps

/-- Messages to the channel do in both machines the same. -/
theorem messages_trace (s : SendingState) (msgs : List StreamMessage) :
    (sendingMachine m).trace (sendingHeard reqId) s (msgs.map (.message id · answers)) =
        (clusterMachine m).trace (clusterHeard reqId) s.cluster (msgs.map (.message id · answers)) ∧
      (sendingMachine m).after s (msgs.map (.message id · answers)) =
        { s with cluster := (clusterMachine m).after s.cluster (msgs.map (.message id · answers)) } := by
  induction msgs generalizing s with
  | nil => exact ⟨rfl, rfl⟩
  | cons msg rest ih =>
    obtain ⟨heard, after⟩ := ih (sendingStep m s (.message id msg answers)).1
    refine ⟨?_, after⟩
    rw [List.map_cons, List.map_cons, Machine.trace, Machine.trace]
    exact congrArg (_ ++ ·) heard

/-- A run of the two steps with a reply: the messages that come before the keys are
recorded, and those that come after. -/
theorem schedule_trace {s : SendingState} {path : String} {body : Json} {sending : Answers}
    {sent : List StreamMessage} {keys : EncryptedConsumerState}
    (goes : sendEncryptedProxyRequest m.host s.cluster.proxy.config sending m.peerId reqId path body
      m.clusterId none = (sent, .ok keys)) (early later : List StreamMessage) :
    (sendingMachine m).trace (sendingHeard reqId) s
        (.sends reqId path body id sending :: (early.map (.message id · answers) ++
          .records reqId :: later.map (.message id · answers))) =
      (clusterMachine m).trace (clusterHeard reqId) s.cluster (early.map (.message id · answers)) ++
        (clusterMachine m).trace (clusterHeard reqId)
          (((clusterMachine m).after s.cluster (early.map (.message id · answers))).record reqId keys)
          (later.map (.message id · answers)) := by
  let sent_ : SendingState := { s with unrecorded := update s.unrecorded reqId (some keys) }
  have first : sendingStep m s (.sends reqId path body id sending) =
      (sent_, sent.map fun msg => .effect id (.stream msg)) := by
    simp only [sendingStep, goes]
    rfl
  have silent : sendingHeard reqId s (sent.map fun msg => .effect id (.stream msg)) sent_ = [] := by
    have none_ : (sent.map fun msg => ClusterOutput.effect id (.stream msg)).filterMap
        (ClusterOutput.heardBy reqId) = [] := by
      rw [List.filterMap_map]
      exact List.filterMap_eq_nil_iff.mpr fun _ _ => rfl
    rw [sendingHeard, clusterHeard, none_]
    exact heardEnd_self _
  obtain ⟨heard, after⟩ := @messages_trace m id reqId answers sent_ early
  have recorded (c : ClusterState) : sendingStep m { sent_ with cluster := c } (.records reqId) =
      (⟨c.record reqId keys, update sent_.unrecorded reqId none⟩, []) := by
    simp only [sendingStep, sent_, update_self]
    rfl
  have quiet (c : ClusterState) (t : SendingState) (same : t.cluster = c.record reqId keys) :
      sendingHeard reqId { sent_ with cluster := c } [] t = [] := by
    rw [sendingHeard, same]
    exact heardEnd_self _
  rw [Machine.trace]
  simp only [sendingMachine] at heard after ⊢
  rw [first]
  dsimp only
  rw [silent, List.nil_append, Machine.trace_append, heard, after, Machine.trace]
  dsimp only
  rw [recorded]
  dsimp only
  rw [quiet _ _ rfl, List.nil_append]
  exact congrArg (_ ++ ·) (messages_trace ⟨_, _⟩ later).1

/-- The keys that are kept of a sent request. -/
theorem sendEncryptedProxyRequest_keys {host : Host} {config : ClientConfig} {sending : Answers}
    {peerId path : String} {body : Json} {sent : List StreamMessage} {keys : EncryptedConsumerState}
    (goes : sendEncryptedProxyRequest host config sending peerId reqId path body roomId none =
      (sent, .ok keys)) : keys.path = path ∧ keys.roomId = roomId := by
  unfold sendEncryptedProxyRequest at goes
  dsimp only at goes
  split at goes
  · cases goes
  · split at goes
    · cases goes
    · split at goes
      · split at goes
        · cases goes
          exact ⟨rfl, rfl⟩
        · cases goes
      · split at goes
        · cases goes
          exact ⟨rfl, rfl⟩
        · cases goes

section Reading

variable {keys : EncryptedConsumerState} {provider : ClientConfig} {path : String} {version : Nat}
  (awaits : s.Awaits reqId id)
  (shared : SharedKeys m.host s.proxy.config provider keys.roomId keys.providerPk)
  (stream : SealedStream m.host.crypto provider reqId keys.path keys.roomId
    (m.host.crypto.publicKey keys.ephemeralSecret))

include awaits shared

/-- With the keys a whole stream is heard. -/
theorem stream_heard :
    (clusterMachine m).trace (clusterHeard reqId) (s.record reqId keys)
        (((Reply.stream stream).messages version).map (.message id · answers)) =
      (Reply.stream stream).heard := by
  obtain ⟨quiet, known, waits, -, channel, opened, consumer, started⟩ :=
    @ack_recorded m s id reqId answers keys version awaits
  have some_ := List.length_pos_iff.mpr stream.nonempty
  have hearing : Hearing shared stream id 0 (clusterStep m (s.record reqId keys) (.message id
      (.encryptedProxyResponse reqId [] [] version none (some true)) answers)).1 := by
    refine ⟨congrArg ProxyState.config known, waits, channel, opened, consumer, ?_⟩
    rw [started, List.range_zero]
    refine ⟨by rwa [frontier_nil], ⟨rfl, rfl, rfl, rfl⟩, frontier_nil.symm, ?_⟩
    rw [frontier_nil]
    exact .empty _ _
  have chunks := @chunks_heard m _ id reqId keys.path keys.roomId answers _ provider _ _ shared stream 0
    version hearing some_
  rw [Nat.sub_zero, List.drop_zero, ← List.range_eq_range'] at chunks
  rw [Reply.messages, List.map_cons, List.map_map, Machine.trace]
  simp only [clusterMachine] at chunks ⊢
  rw [quiet, List.nil_append]
  exact chunks

end Reading

/-- With the keys an error is heard. -/
theorem refused_heard {keys : EncryptedConsumerState} {version : Nat}
     (waits : s.pendingRequests reqId = true) (opened : s.channels id = some channel)
    (consumer : channel.isProvider = false) (kept : s.pendingEncryptedConsumer reqId = some keys)
    (error : String) :
    (clusterMachine m).trace (clusterHeard reqId) s
      [.message id (encryptedErrorResponse reqId version error) answers] = [.item (.error error)] := by
  rw [Machine.trace, Machine.trace, List.append_nil]
  exact @error_heard m s id reqId channel answers keys version error waits opened consumer kept

/-- Without the keys the first message of a reply changes nothing. -/
private theorem ignored_first (awaits : s.Awaits reqId id) {nonce ciphertext : Bytes} {version : Nat}
    {error : Option String} {flag : Option Bool} (rest : List StreamMessage) :
    (clusterMachine m).trace (clusterHeard reqId) s
        ((.encryptedProxyResponse reqId nonce ciphertext version error flag :: rest).map
          (.message id · answers)) =
        (clusterMachine m).trace (clusterHeard reqId) s (rest.map (.message id · answers)) ∧
      (clusterMachine m).after s
        ((.encryptedProxyResponse reqId nonce ciphertext version error flag :: rest).map
          (.message id · answers)) =
        (clusterMachine m).after s (rest.map (.message id · answers)) := by
  have step := @response_ignored m s id reqId answers version awaits nonce ciphertext error flag
  have quiet : clusterHeard reqId s [] s = [] := heardEnd_self _
  rw [List.map_cons, Machine.trace, Machine.after]
  simp only [clusterMachine]
  rw [step]
  exact ⟨by rw [quiet, List.nil_append], rfl⟩

section Race

variable {keys : EncryptedConsumerState} {provider : ClientConfig} {version : Nat}
  {early later : List StreamMessage}

/-- What is heard of messages of which some come before the keys are recorded and some after. -/
private def raceHeard (m : Manager) (s : ClusterState) (id reqId : String) (answers : Answers)
    (keys : EncryptedConsumerState) (early later : List StreamMessage) : List Heard :=
  (clusterMachine m).trace (clusterHeard reqId) s (early.map (.message id · answers)) ++
    (clusterMachine m).trace (clusterHeard reqId)
      (((clusterMachine m).after s (early.map (.message id · answers))).record reqId keys)
      (later.map (.message id · answers))

/-- A response that comes before the keys might as well not come. -/
private theorem raceHeard_ignored (awaits : s.Awaits reqId id) {nonce ciphertext : Bytes}
    {error : Option String} {flag : Option Bool} :
    raceHeard m s id reqId answers keys
        (.encryptedProxyResponse reqId nonce ciphertext version error flag :: early) later =
      raceHeard m s id reqId answers keys early later := by
  obtain ⟨silent, same⟩ :=
    @ignored_first m s id reqId answers awaits nonce ciphertext version error flag early
  rw [raceHeard, silent, same]
  rfl

/-- An error is heard unless it comes before the keys. -/
private theorem error_race_iff (awaits : s.Awaits reqId id) {error : String}
    (cut : [encryptedErrorResponse reqId version error] = early ++ later) :
    raceHeard m s id reqId answers keys early later = [.item (.error error)] ↔ early.length = 0 := by
  obtain ⟨channel, opened, consumer, -⟩ := awaits.opened
  cases early with
  | nil =>
    obtain rfl : later = [encryptedErrorResponse reqId version error] := cut.symm
    refine iff_of_true ?_ rfl
    exact refused_heard (s := s.record reqId keys) awaits.waits opened consumer (update_self ..) error
  | cons msg rest =>
    obtain ⟨rfl, over_⟩ := List.cons.inj cut
    obtain ⟨rfl, rfl⟩ := List.append_eq_nil_iff.mp over_.symm
    refine iff_of_false (fun heard => ?_) (Nat.succ_ne_zero _)
    rw [encryptedErrorResponse, raceHeard_ignored awaits] at heard
    cases heard

/-- An error after an acknowledgement is heard unless it comes before the keys itself. -/
private theorem failed_race_iff (awaits : s.Awaits reqId id) {error : String}
    (cut : [.encryptedProxyResponse reqId [] [] version none (some true),
      encryptedErrorResponse reqId version error] = early ++ later) :
    raceHeard m s id reqId answers keys early later = [.item (.error error)] ↔ early.length ≤ 1 := by
  cases early with
  | nil =>
    obtain rfl : later = [.encryptedProxyResponse reqId [] [] version none (some true),
      encryptedErrorResponse reqId version error] := cut.symm
    obtain ⟨quiet, -, waits, kept, channel, opened, consumer, -⟩ :=
      @ack_recorded m s id reqId answers keys version awaits
    have told := @refused_heard m _ id reqId channel answers keys version waits opened consumer kept error
    refine iff_of_true ?_ (Nat.zero_le 1)
    rw [raceHeard, List.map_nil, Machine.trace, List.nil_append, Machine.after, List.map_cons,
      Machine.trace]
    simp only [clusterMachine] at told ⊢
    rw [quiet]
    exact told
  | cons msg rest =>
    obtain ⟨rfl, more⟩ := List.cons.inj cut
    rw [raceHeard_ignored awaits, error_race_iff awaits more, List.length_cons]
    omega

/-- A chunk that finds no stream is heard as an error. -/
private theorem chunk_unread {path roomId : String} {pk : Bytes}
    (stream : SealedStream m.host.crypto provider reqId path roomId pk)
    (waits : s.pendingRequests reqId = true) (opened : s.channels id = some channel)
    (consumer : channel.isProvider = false) (none_ : channel.pendingEncryptedStreams reqId = none)
    (i : Nat) (more : List StreamMessage) :
    ∃ tail, (clusterMachine m).trace (clusterHeard reqId) s
      ((stream.message version i :: more).map (.message id · answers)) =
        .item (.error "missing encrypted stream state") :: tail := by
  have refused := @chunk_refused m s id reqId channel answers version waits opened consumer none_
    (stream.chunk i).seq (stream.chunk i).nonce (stream.chunk i).ciphertext (stream.chunk i).done
  rw [List.map_cons, Machine.trace]
  simp only [clusterMachine, SealedStream.message]
  rw [refused]
  exact ⟨_, rfl⟩

/-- A stream is heard unless its acknowledgement comes before the keys. -/
private theorem stream_race_iff (awaits : s.Awaits reqId id)
    (shared : SharedKeys m.host s.proxy.config provider keys.roomId keys.providerPk)
    (stream : SealedStream m.host.crypto provider reqId keys.path keys.roomId
      (m.host.crypto.publicKey keys.ephemeralSecret))
    (cut : (Reply.stream stream).messages version = early ++ later) :
    raceHeard m s id reqId answers keys early later = (Reply.stream stream).heard ↔
      early.length = 0 := by
  cases early with
  | nil =>
    obtain rfl : (Reply.stream stream).messages version = later := cut
    exact iff_of_true (stream_heard awaits shared stream) rfl
  | cons msg rest =>
    obtain ⟨rfl, chunks⟩ := List.cons.inj cut
    obtain ⟨channel, opened, consumer, none_⟩ := awaits.opened
    obtain ⟨text, texts, parts⟩ := List.exists_cons_of_ne_nil stream.nonempty
    rw [raceHeard_ignored awaits]
    refine iff_of_false (fun heard => ?_) (Nat.succ_ne_zero _)
    have begins : (Reply.stream stream).heard =
        .item (.ok text) :: (texts.map (fun text => .item (.ok text)) ++ [.ended]) := by
      rw [Reply.heard, parts]
      rfl
    rw [parts, List.length_cons, List.range_succ_eq_map, List.map_cons] at chunks
    rw [begins, raceHeard] at heard
    -- The first chunk finds no stream, before the keys are recorded or after.
    cases rest with
    | nil =>
      obtain rfl : _ = later := chunks
      obtain ⟨tail, told⟩ := @chunk_unread m (s.record reqId keys) id reqId channel answers provider
        version _ _ _ stream awaits.waits opened consumer none_ 0
        (((List.range texts.length).map Nat.succ).map (stream.message version))
      rw [List.map_nil, Machine.trace, List.nil_append, Machine.after, told] at heard
      cases heard
    | cons msg rest =>
      obtain ⟨rfl, -⟩ := List.cons.inj chunks
      obtain ⟨tail, told⟩ := @chunk_unread m s id reqId channel answers provider version _ _ _ stream
        awaits.waits opened consumer none_ 0 rest
      rw [told] at heard
      cases heard

/-- What is heard of a reply of which some messages come before the keys are recorded. -/
private theorem race_iff (awaits : s.Awaits reqId id)
    (shared : SharedKeys m.host s.proxy.config provider keys.roomId keys.providerPk)
    (reply : Reply m.host.crypto provider reqId keys.path keys.roomId
      (m.host.crypto.publicKey keys.ephemeralSecret))
    (cut : reply.messages version = early ++ later) :
    raceHeard m s id reqId answers keys early later = reply.heard ↔ reply.Survives early.length := by
  cases reply with
  | refused error => exact error_race_iff awaits cut
  | failed error => exact failed_race_iff awaits cut
  | stream stream => exact stream_race_iff awaits shared stream cut

end Race

/-- In a run of the two steps of sending a request and of the provider's reply to it, the
caller hears the reply exactly when no message of it comes before the keys are recorded,
but for an acknowledgement that an error follows. -/
theorem reply_heard_iff {s : SendingState} {path : String} {body : Json} {sending : Answers}
    {sent : List StreamMessage} {keys : EncryptedConsumerState} {provider : ClientConfig}
    {version : Nat} (awaits : s.cluster.Awaits reqId id)
    (goes : sendEncryptedProxyRequest m.host s.cluster.proxy.config sending m.peerId reqId path body
      m.clusterId none = (sent, .ok keys))
    (shared : SharedKeys m.host s.cluster.proxy.config provider m.clusterId keys.providerPk)
    (reply : Reply m.host.crypto provider reqId path m.clusterId
      (m.host.crypto.publicKey keys.ephemeralSecret))
    {early later : List StreamMessage} (cut : reply.messages version = early ++ later) :
    (sendingMachine m).trace (sendingHeard reqId) s
        (.sends reqId path body id sending :: (early.map (.message id · answers) ++
          .records reqId :: later.map (.message id · answers))) = reply.heard ↔
      reply.Survives early.length := by
  rw [schedule_trace goes]
  obtain ⟨rfl, room⟩ := sendEncryptedProxyRequest_keys goes
  clear goes
  revert reply
  rw [← room] at shared ⊢
  intro reply cut
  exact race_iff awaits shared reply cut

/-! ## Sample runs -/

/-- A consumer that waits for the request `1`, which is about to be sent on `d`. -/
private def unsentRequest : SendingState where
  cluster := { (ClusterState.initial sampleProxy 0).setChannel "d" (.opened "prov" false) with
    pendingRequests := update (fun _ => false) "1" true }
  unrecorded _ := none

private def sampleRecorded : EncryptedConsumerState :=
  ⟨[0], "/api/chat", "c", Primitives.transparent.publicKey (roomStaticSecret .transparent
    (deriveRoomRootKey .transparent "c:pw" "c")), aadVersion⟩

private theorem unsentRequest_awaits : unsentRequest.cluster.Awaits "1" "d" :=
  ⟨rfl, rfl, .opened "prov" false, rfl, rfl, rfl⟩

private theorem unsentRequest_goes : ∃ sent, sendEncryptedProxyRequest (sampleHost true false)
    sampleConfig sampleAnswers "me" "1" "/api/chat" (sampleBody "llama3") "c" none =
      (sent, .ok sampleRecorded) := by
  have kept : (sendEncryptedProxyRequest (sampleHost true false) sampleConfig sampleAnswers "me" "1"
      "/api/chat" (sampleBody "llama3") "c" none).2.toOption = some sampleRecorded := by
    simp only [sendEncryptedProxyRequest, wireFits, StreamMessage.text_size]
    decide +kernel
  generalize sendEncryptedProxyRequest (sampleHost true false) sampleConfig sampleAnswers "me" "1"
    "/api/chat" (sampleBody "llama3") "c" none = result at kept
  obtain ⟨sent, keys | keys⟩ := result
  · cases kept
  · obtain rfl := Option.some.inj kept
    exact ⟨sent, rfl⟩

private def sampleReply : Reply .transparent sampleConfig "1" "/api/chat" "c"
    (Primitives.transparent.publicKey [0]) :=
  .stream (.ofTexts (sampleKeys.canSeal [0]) "1" "/api/chat" ["hi"] (by simp)
    (fun _ => List.replicate 12 0) (by simp))

/-- The answers of a provider to the sample request, of which `early` messages come before
the keys are recorded. -/
private def sampleSchedule (early : Nat) : List SendingEvent :=
  .sends "1" "/api/chat" (sampleBody "llama3") "d" sampleAnswers ::
    (((sampleReply.messages aadVersion).take early).map (.message "d" · sampleAnswers) ++
      .records "1" :: ((sampleReply.messages aadVersion).drop early).map (.message "d" · sampleAnswers))

theorem reply_heard_iff_sample :
    (sendingMachine (sampleManager true false)).trace (sendingHeard "1") unsentRequest
      (sampleSchedule 0) = sampleReply.heard ↔ sampleReply.Survives 0 := by
  obtain ⟨sent, goes⟩ := unsentRequest_goes
  exact reply_heard_iff (m := sampleManager true false) (s := unsentRequest) unsentRequest_awaits goes
    sampleKeys sampleReply (List.take_append_drop 0 (sampleReply.messages aadVersion)).symm

/-- The acknowledgement comes before the keys are recorded: the stream is not heard. -/
theorem early_reply_lost :
    (sendingMachine (sampleManager true false)).trace (sendingHeard "1") unsentRequest
      (sampleSchedule 1) ≠ sampleReply.heard := by
  obtain ⟨sent, goes⟩ := unsentRequest_goes
  rw [sampleSchedule, schedule_trace (m := sampleManager true false) (s := unsentRequest) goes]
  intro heard
  have survives := (@race_iff (sampleManager true false) _ "d" "1" sampleAnswers sampleRecorded
    sampleConfig aadVersion _ _ unsentRequest_awaits sampleKeys sampleReply
    (List.take_append_drop 1 (sampleReply.messages aadVersion)).symm).mp heard
  exact absurd survives (Nat.succ_ne_zero 0)

end MtrxPeer
