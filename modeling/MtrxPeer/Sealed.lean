import MtrxPeer.Served

/-! What a cluster's data channels let through in end-to-end mode: where the
bodies that reach a backend and the texts that reach a caller come from, and
what goes out. -/
namespace MtrxPeer

open Function (update_of_ne update_self)

/-! ## Kinds of messages -/

/-- Whether a message has a request body, or a piece of one, as it is. -/
def StreamMessage.carriesBody : StreamMessage → Bool
  | .proxyRequest .. | .proxyRequestChunk .. => true
  | _ => false

/-- An encrypted answer to a request, and a text that its ciphertext opens to
under a session key of that request. -/
inductive StreamMessage.OpensTo (host : Host) (reqId : String) : StreamMessage → String → Prop where
  | response {config : ClientConfig} {path roomId text : String} {secret pk nonce ciphertext : Bytes}
      {version : Nat} {error : Option String} {stream : Option Bool}
      (opened : decryptProxyResponse host config reqId path roomId secret pk ⟨nonce, ciphertext⟩
        error = .ok text) :
      OpensTo host reqId (.encryptedProxyResponse reqId nonce ciphertext version error stream) text
  | chunk {config : ClientConfig} {path roomId text : String} {secret pk nonce ciphertext : Bytes}
      {seq version : Nat} {done : Bool}
      (opened : decryptProxyChunk host config reqId path seq roomId secret pk nonce ciphertext =
        .ok text) :
      OpensTo host reqId (.encryptedProxyStreamChunk reqId seq nonce ciphertext version done) text

/-- The message an effect puts on its channel. -/
def ChannelEffect.sent : ChannelEffect → Option StreamMessage
  | .stream msg => some msg
  | .data msg => some msg.asStream
  | _ => none

theorem isReply_carriesBody {effect : ChannelEffect} {msg : StreamMessage} (reply : effect.isReply)
    (sent : effect.sent = some msg) : msg.carriesBody = false := by
  cases effect with
  | stream other =>
    obtain rfl := Option.some.inj sent
    cases other with
    | encryptedProxyResponse => rfl
    | encryptedProxyStreamChunk => rfl
    | _ => exact reply.elim
  | data other =>
    obtain rfl := Option.some.inj sent
    cases other with
    | proxyResponseChunk => rfl
    | proxyResponseDone => rfl
    | proxyResponseError => rfl
    | pong => rfl
    | _ => exact reply.elim
  | _ => cases sent

theorem isEncryptedRequest_carriesBody {msg : StreamMessage} (kind : msg.isEncryptedRequest = true) :
    msg.carriesBody = false := by
  cases msg with
  | proxyRequest => cases kind
  | proxyRequestChunk => cases kind
  | _ => rfl

/-! ## What arrived before -/

variable {m : Manager} {s : ClusterState}

/-- A message has arrived on a data channel. -/
def Received (past : List ClusterRecord) (id : String) (msg : StreamMessage) : Prop :=
  ∃ r ∈ past, ∃ answers, r.event = .message id msg answers

theorem Received.later {past : List ClusterRecord} {id : String} {msg : StreamMessage}
    (received : Received past id msg) (r : ClusterRecord) : Received (r :: past) id msg := by
  obtain ⟨r', member, arrived⟩ := received
  exact ⟨r', List.mem_cons_of_mem _ member, arrived⟩

/-- The chunks in a channel's tables have arrived on it. -/
structure TablesReceived (past : List ClusterRecord) (s : ClusterState) : Prop where
  requests : ∀ id channel reqId pending, s.channels id = some channel →
    channel.pendingEncryptedIncoming reqId = some pending → ∀ chunk ∈ pending.chunks,
    ∃ version, Received past id
      (.encryptedProxyRequestChunk reqId chunk.1 chunk.2.1 chunk.2.2 version)
  streams : ∀ id channel reqId stream, s.channels id = some channel →
    channel.pendingEncryptedStreams reqId = some stream → ∀ chunk ∈ stream.reorder,
    ∃ version, Received past id
      (.encryptedProxyStreamChunk reqId chunk.seq chunk.nonce chunk.ciphertext version chunk.done)

theorem tablesReceived_initial (proxy : ProxyState) (now : Nat) :
    TablesReceived [] (.initial proxy now) where
  requests := by
    intro id channel reqId pending found
    cases found
  streams := by
    intro id channel reqId stream found
    cases found

theorem tablesReceived_step {past : List ClusterRecord} {e : ClusterEvent}
    (kept : TablesReceived past s) :
    TablesReceived ((clusterMachine m).record s e :: past) ((clusterMachine m).step s e).1 where
  requests := by
    intro id after reqId pending found stored chunk member
    rcases clusterStep_channels found with
      same | ⟨peer, isProvider, rfl, rfl⟩ | ⟨msg, answers, channel, rfl, before, steps⟩
    · obtain ⟨version, received⟩ := kept.requests id after reqId pending same stored chunk member
      exact ⟨version, received.later _⟩
    · cases stored
    · rcases steps.chunks reqId pending stored chunk member with
        ⟨old, storedBefore, older⟩ | ⟨version, rfl⟩
      · obtain ⟨version, received⟩ :=
          kept.requests id channel reqId old before storedBefore chunk older
        exact ⟨version, received.later _⟩
      · exact ⟨version, _, List.mem_cons_self, answers, rfl⟩
  streams := by
    intro id after reqId stream found stored chunk member
    rcases clusterStep_channels found with
      same | ⟨peer, isProvider, rfl, rfl⟩ | ⟨msg, answers, channel, rfl, before, steps⟩
    · obtain ⟨version, received⟩ := kept.streams id after reqId stream same stored chunk member
      exact ⟨version, received.later _⟩
    · cases stored
    · rcases steps.streams reqId stream stored chunk member with
        ⟨old, storedBefore, older⟩ | ⟨version, rfl⟩
      · obtain ⟨version, received⟩ :=
          kept.streams id channel reqId old before storedBefore chunk older
        exact ⟨version, received.later _⟩
      · exact ⟨version, _, List.mem_cons_self, answers, rfl⟩

/-! ## Where bodies and texts come from -/

/-- An encrypted request that a message completes and the body it opens to: the
message's own ciphertext, or those of the chunks that arrived on the channel. -/
inductive BodyOpened (m : Manager) (past : List ClusterRecord) (config : ClientConfig) (id : String) :
    StreamMessage → EncryptedRequest → Json → Prop where
  | whole {reqId path roomId : String} {pk nonce ciphertext : Bytes} {version : Nat}
      {auth : Option ProxyAuthProof} {body : Json}
      (opened : decryptInboundRequest m.host config roomId reqId path pk nonce ciphertext = .ok body) :
      BodyOpened m past config id
        (.encryptedProxyRequest reqId path roomId pk nonce ciphertext version auth)
        ⟨reqId, path, roomId, pk, version, auth⟩ body
  | chunked {reqId : String} {incoming : PendingEncryptedIncomingRequest} {body : Json}
      (came : ∀ chunk ∈ incoming.chunks, ∃ version, Received past id
        (.encryptedProxyRequestChunk reqId chunk.1 chunk.2.1 chunk.2.2 version))
      (opened : assembleBody m.host config reqId incoming = .ok body) :
      BodyOpened m past config id (.encryptedProxyRequestEnd reqId)
        ⟨reqId, incoming.path, incoming.roomId, incoming.consumerEphemeralPk, incoming.aadVersion,
          incoming.auth⟩ body

theorem arrived_opened {past : List ClusterRecord} {id : String} {channel : Channel}
    {msg : StreamMessage} {request : EncryptedRequest} {body : Json} (kept : TablesReceived past s)
    (found : s.channels id = some channel)
    (complete : arrived m.host s.proxy.config channel msg = some (.encrypted request body)) :
    BodyOpened m past s.proxy.config id msg request body := by
  have recovered : ∀ {request' : EncryptedRequest} {result : Except String Json},
      recoveredRequest request' result = some (.encrypted request body) →
      request' = request ∧ result = .ok body := by
    intro request' result same
    cases result with
    | error error => cases same
    | ok body' =>
      obtain ⟨rfl, rfl⟩ := Arrived.encrypted.inj (Option.some.inj same)
      exact ⟨rfl, rfl⟩
  cases msg with
  | proxyRequest reqId path body =>
    simp only [arrived] at complete
    split at complete <;> cases complete
  | proxyRequestEnd reqId =>
    simp only [arrived] at complete
    split at complete
    · cases complete
    · obtain ⟨pending, -, complete⟩ := Option.bind_eq_some_iff.mp complete
      obtain ⟨_, -, same⟩ := Option.map_eq_some_iff.mp complete
      cases same
  | encryptedProxyRequest reqId path roomId pk nonce ciphertext version auth =>
    simp only [arrived] at complete
    split at complete
    · obtain ⟨rfl, opened⟩ := recovered complete
      exact .whole opened
    · cases complete
  | encryptedProxyRequestEnd reqId =>
    simp only [arrived] at complete
    split at complete
    · obtain ⟨incoming, stored, complete⟩ := Option.bind_eq_some_iff.mp complete
      obtain ⟨rfl, opened⟩ := recovered complete
      exact .chunked (kept.requests id channel reqId incoming found stored) opened
    · cases complete
  | _ => cases complete

/-- In a step of a cluster manager, only decrypted bodies reach a backend, only
decrypted texts a caller, and no body goes out as it is. -/
structure ClusterSealed (m : Manager) (past : List ClusterRecord) (r : ClusterRecord) : Prop where
  calls : ∀ id call, .effect id (.forward call) ∈ r.outputs →
    ∃ msg answers request body, r.event = .message id msg answers ∧
      BodyOpened m past r.before.proxy.config id msg request body ∧
      call = (Arrived.encrypted request body).call m.host r.before.proxy.config
  texts : ∀ id reqId text, .effect id (.deliver reqId (.ok text)) ∈ r.outputs →
    ∃ msg, Received (r :: past) id msg ∧ msg.OpensTo m.host reqId text
  wire : ∀ id effect msg, .effect id effect ∈ r.outputs → effect.sent = some msg →
    msg.carriesBody = false

/-- No message of a step completes a plaintext request that would be admitted, and
none brings a plaintext text for a caller that waits. -/
structure ClusterTakesNoPlaintext (m : Manager) (r : ClusterRecord) : Prop where
  requests : ∀ id msg answers channel reqId path body, r.event = .message id msg answers →
    r.before.channels id = some channel →
    arrived m.host r.before.proxy.config channel msg = some (.plaintext reqId path body) →
    (Arrived.plaintext reqId path body).refusal m r.before channel ≠ none
  texts : ∀ id reqId text answers, r.event = .message id (.proxyResponseChunk reqId text) answers →
    r.before.pendingRequests reqId = false

/-- What a message hands to a caller opens from a message that arrived on its
channel, unless it is a plaintext text. -/
theorem handed_opened {past : List ClusterRecord} {id : String} {channel : Channel}
    {msg : StreamMessage} {answers : Answers} {reqId text : String} (kept : TablesReceived past s)
    (found : s.channels id = some channel)
    (handed : Handed m s channel msg (.deliver reqId (.ok text)))
    (encrypted : ∀ text, msg = .proxyResponseChunk reqId text → s.pendingRequests reqId = false) :
    ∃ msg', Received ((clusterMachine m).record s (.message id msg answers) :: past) id msg' ∧
      msg'.OpensTo m.host reqId text := by
  have now : Received ((clusterMachine m).record s (.message id msg answers) :: past) id msg :=
    ⟨_, List.mem_cons_self, answers, rfl⟩
  generalize made : ChannelEffect.deliver reqId (.ok text) = effect at handed
  cases handed with
  | plaintextChunk waits =>
    obtain ⟨rfl, -⟩ := ChannelEffect.deliver.inj made
    rw [encrypted _ rfl] at waits
    cases waits
  | plaintextError => cases made
  | response kept =>
    obtain ⟨rfl, opened⟩ := ChannelEffect.deliver.inj made
    exact ⟨_, now, .response opened.symm⟩
  | chunk stored among opened =>
    obtain ⟨rfl, same⟩ := ChannelEffect.deliver.inj made
    obtain rfl := Except.ok.inj same
    rcases among with rfl | older
    · exact ⟨_, now, .chunk opened⟩
    · obtain ⟨version, received⟩ := kept.streams id channel _ _ found stored _ older
      exact ⟨_, received.later _, .chunk opened⟩
  | chunkError => cases made

/-- A step that takes no plaintext is sealed. -/
theorem clusterSealed_step {past : List ClusterRecord} {e : ClusterEvent}
    (e2ee : m.host.e2eeEnabled = true) (kept : TablesReceived past s)
    (meets : ClusterTakesNoPlaintext m ((clusterMachine m).record s e)) :
    ClusterSealed m past ((clusterMachine m).record s e) := by
  have local_ : ∀ {reqId path : String} {body : Json} {answers : Answers} {effect : ChannelEffect},
      effect ∈ (onSendRequest m s reqId path body answers).2 →
      ∃ msg, effect = .stream msg ∧ msg.isEncryptedRequest = true := by
    intro reqId path body answers effect member
    rcases onSendRequest_effects member with ⟨-, sealed_⟩ | ⟨plain, -⟩
    · exact sealed_
    · rw [e2ee] at plain
      cases plain
  refine ⟨?_, ?_, ?_⟩
  · intro id call member
    rcases clusterStep_effects member with
      ⟨msg, answers, channel, rfl, found, made⟩ | ⟨reqId, path, body, answers, rfl, sent⟩
    · rcases onMessage_effects made with reply | handed | ⟨request, complete, -, admitted, same⟩
      · exact reply.elim
      · cases handed
      · cases request with
        | plaintext reqId path body =>
          exact absurd admitted (meets.requests id msg answers channel reqId path body rfl found
            complete)
        | encrypted request body =>
          exact ⟨msg, answers, request, body, rfl, arrived_opened kept found complete,
            ChannelEffect.forward.inj same⟩
    · obtain ⟨msg, same, -⟩ := local_ sent
      cases same
  · intro id reqId text member
    rcases clusterStep_effects member with
      ⟨msg, answers, channel, rfl, found, made⟩ | ⟨reqId, path, body, answers, rfl, sent⟩
    · rcases onMessage_effects made with reply | handed | ⟨request, -, -, -, same⟩
      · exact reply.elim
      · refine handed_opened kept found handed ?_
        rintro text rfl
        exact meets.texts id reqId text answers rfl
      · cases same
    · obtain ⟨msg, same, -⟩ := local_ sent
      cases same
  · intro id effect msg member sent
    rcases clusterStep_effects member with
      ⟨_, answers, channel, rfl, found, made⟩ | ⟨reqId, path, body, answers, rfl, made⟩
    · rcases onMessage_effects made with reply | handed | ⟨request, -, -, -, rfl⟩
      · exact isReply_carriesBody reply sent
      · cases handed <;> cases sent
      · cases sent
    · obtain ⟨other, rfl, kind⟩ := local_ made
      obtain rfl := Option.some.inj sent
      exact isEncryptedRequest_carriesBody kind

end MtrxPeer
