import MtrxPeer.Sample
import MtrxPeer.SwarmSealed

/-! End-to-end mode over whole runs. As long as no plaintext request is let in and
no plaintext text handed over, nothing but decrypted bodies reaches a backend,
nothing but decrypted texts a caller, and no body goes out as it is. The gates
leave open the chunked requests of a swarm, the channels this peer opened as a
consumer, and every plaintext answer. -/
namespace MtrxPeer

/-! ## Swarms -/

/-- An event is the arrival of a message, as a request or as a response. -/
def SwarmEvent.Brings (e : SwarmEvent) (msg : StreamMessage) : Prop :=
  (∃ peer answers, e = .request peer msg answers) ∨ ∃ peer id, e = .response peer id msg

/-- A message has come from a peer of the swarm. -/
def Came (past : List SwarmRecord) (msg : StreamMessage) : Prop := ∃ r ∈ past, r.event.Brings msg

/-- In a step of a swarm manager, only decrypted bodies reach a backend, only
texts cut from decrypted ones a caller, and no body goes out as it is. -/
structure SwarmSealed (m : SwarmManager) (past : List SwarmRecord) (r : SwarmRecord) : Prop where
  calls : ∀ call, .forward call ∈ r.outputs →
    ∃ peer reqId path roomId pk nonce ciphertext version auth answers body,
      r.event = .request peer
        (.encryptedProxyRequest reqId path roomId pk nonce ciphertext version auth) answers ∧
      decryptInboundRequest m.host r.before.proxy.config roomId reqId path pk nonce ciphertext =
        .ok body ∧
      call = encryptedCall m.host r.before.proxy.config ⟨reqId, path, roomId, pk, version, auth⟩ body
  texts : ∀ reqId text, .deliver reqId (.ok text) ∈ r.outputs →
    Recovered m.host (Came (r :: past)) reqId text
  wire : ∀ peer msg, .send peer msg ∈ r.outputs ∨ .respond peer msg ∈ r.outputs →
    msg.carriesBody = false

/-- No request of a step completes a plaintext request that would be admitted, no
plaintext text comes for a caller that waits, and a command names a room. -/
structure SwarmTakesNoPlaintext (m : SwarmManager) (r : SwarmRecord) : Prop where
  requests : ∀ peer msg answers request, r.event = .request peer msg answers →
    swarmPlaintext m r.before msg = some request →
    swarmRefusal r.before.proxy m.swarmId (r.before.nameOf peer) ≠ none
  chunks : ∀ peer reqId text answers,
    r.event = .request peer (.proxyResponseChunk reqId text) answers →
    r.before.pendingProxyByReqId reqId = false
  responses : ∀ peer id reqId body, r.event = .response peer id (.proxyResponse reqId body none) →
    r.before.pendingProxyByReqId reqId = false
  rooms : ∀ cmd ranked sending, r.event = .proxyCommand cmd ranked sending →
    (roomIdForProxy m.host.crypto r.before.proxy.config cmd.clusterId cmd.swarmId).isSome = true

section Swarm

variable {m : SwarmManager} {s : SwarmState} {past : List SwarmRecord} {e : SwarmEvent}

/-- A step that takes no plaintext keeps the tables sealed. -/
private theorem swarmStep_sealed (e2ee : m.host.e2eeEnabled = true)
    (kept : SealedTables m.host (Came past) s)
    (meets : SwarmTakesNoPlaintext m ((swarmMachine m).record s e)) :
    SealedStep m.host (Came ((swarmMachine m).record s e :: past)) (swarmStep m s e) := by
  have later : SealedTables m.host (Came ((swarmMachine m).record s e :: past)) s := by
    refine kept.mono ?_
    rintro msg ⟨r, member, brings⟩
    exact ⟨r, List.mem_cons_of_mem _ member, brings⟩
  cases e with
  | request peer msg answers =>
    refine onSwarmRequest_sealed later ⟨_, List.mem_cons_self, .inl ⟨peer, answers, rfl⟩⟩ ?_
    rintro reqId text rfl
    exact meets.chunks peer reqId text answers rfl
  | response peer id msg =>
    refine onSwarmResponse_sealed later ⟨_, List.mem_cons_self, .inr ⟨peer, id, rfl⟩⟩ ?_
    rintro reqId body rfl
    exact meets.responses peer id reqId body rfl
  | gossip source record =>
    refine ⟨?_, sealedOutputs_nil⟩
    simp only [swarmStep, applyRemoteCatalog]
    split
    · exact later
    · exact later.frame rfl rfl rfl rfl rfl
  | proxyCommand cmd ranked sending =>
    exact onProxyCommand_sealed later e2ee (meets.rooms cmd ranked sending rfl)
  | outboundFailure => exact onOutboundFailure_sealed later
  | connectionEstablished => exact onConnectionEstablished_sealed later
  | connectionClosed => exact ⟨onConnectionClosed_sealed later, sealedOutputs_nil⟩
  | presence => exact ⟨syncPresence_sealed later, sealedOutputs_nil⟩
  | proxyChanged => exact ⟨later.frame rfl rfl rfl rfl rfl, sealedOutputs_nil⟩
  | requestsNumbered => exact ⟨later.frame rfl rfl rfl rfl rfl, sealedOutputs_nil⟩

private theorem swarmSealed_step (e2ee : m.host.e2eeEnabled = true)
    (kept : SealedTables m.host (Came past) s)
    (meets : SwarmTakesNoPlaintext m ((swarmMachine m).record s e)) :
    SwarmSealed m past ((swarmMachine m).record s e) := by
  have outputs := (swarmStep_sealed e2ee kept meets).2
  refine ⟨?_, ?_, ?_⟩
  · intro call called
    obtain ⟨peer, msg, answers, rfl, serves⟩ := swarmStep_forward called
    cases serves with
    | plaintext complete admitted made =>
      exact absurd admitted (meets.requests peer msg answers _ rfl complete)
    | encrypted verified admitted opened made =>
      exact ⟨peer, _, _, _, _, _, _, _, _, answers, _, rfl, opened, made⟩
  · intro reqId text member
    exact outputs _ member
  · intro peer msg member
    rcases member with sent | answered
    · exact outputs _ sent
    · exact outputs _ answered

end Swarm

/-! ## Runs -/

/-- In end-to-end mode, every run that takes no plaintext is sealed. -/
theorem runs_sealed (m : Manager) (sm : SwarmManager) (proxy : ProxyState) (now nextReqId : Nat)
    (events : List ClusterEvent) (swarmEvents : List SwarmEvent)
    (e2ee : m.host.e2eeEnabled = true) (swarmE2ee : sm.host.e2eeEnabled = true)
    (gated : ∀ r ∈ ((clusterMachine m).history (.initial proxy now) events).1,
      ClusterTakesNoPlaintext m r)
    (swarmGated : ∀ r ∈ ((swarmMachine sm).history (.initial proxy nextReqId) swarmEvents).1,
      SwarmTakesNoPlaintext sm r) :
    Machine.Always (ClusterSealed m) ((clusterMachine m).history (.initial proxy now) events).1 ∧
      Machine.Always (SwarmSealed sm)
        ((swarmMachine sm).history (.initial proxy nextReqId) swarmEvents).1 := by
  constructor
  · exact ((clusterMachine m).reaches_history _ events).always TablesReceived
      (ClusterTakesNoPlaintext m) (tablesReceived_initial proxy now)
      (fun past s e kept _ => tablesReceived_step kept)
      (fun past s e kept meets => clusterSealed_step e2ee kept meets) gated
  · exact ((swarmMachine sm).reaches_history _ swarmEvents).always
      (fun past s => SealedTables sm.host (Came past) s) (SwarmTakesNoPlaintext sm)
      (sealedTables_initial proxy nextReqId)
      (fun past s e kept meets => (swarmStep_sealed swarmE2ee kept meets).1)
      (fun past s e kept meets => swarmSealed_step swarmE2ee kept meets) swarmGated

/-- An encrypted request to a cluster and to a swarm, and a local one to the
swarm's peer. -/
theorem runs_sealed_sample :
    Machine.Always (ClusterSealed (sampleManager true false))
        ((clusterMachine (sampleManager true false)).history (.initial sampleProxy 0)
          (sampleConnect "alice" "llama3" ++
            [.message "d" (sampleEncrypted "c" none) sampleAnswers])).1 ∧
      Machine.Always (SwarmSealed (sampleSwarmManager true false))
        ((swarmMachine (sampleSwarmManager true false)).history (.initial sampleProxy 1)
          [.request "A" (sampleEncrypted "74" (some (buildProxyAuth .transparent 1000 "t" "A")))
              sampleAnswers,
            .proxyCommand ⟨some "A", "llama3", "/api/chat", sampleBody "llama3", none, some "s"⟩ []
              ⟨sampleAnswers.draws 0, 7⟩]).1 := by
  have noPlaintext : ∀ {config : ClientConfig} {channel : Channel} {roomId reqId path : String}
      {auth : Option ProxyAuthProof} {body : Json},
      arrived (sampleHost true false) config channel (sampleEncrypted roomId auth) ≠
        some (.plaintext reqId path body) := by
    intro config channel roomId reqId path auth body complete
    simp only [arrived, sampleEncrypted, recoveredRequest] at complete
    split at complete
    · split at complete <;> cases complete
    · cases complete
  have noSwarmPlaintext : ∀ {s : SwarmState} {roomId : String} {auth : Option ProxyAuthProof}
      {request : Arrived},
      swarmPlaintext (sampleSwarmManager true false) s (sampleEncrypted roomId auth) ≠
        some request := by
    intro s roomId auth request complete
    cases complete
  refine runs_sealed _ _ _ _ _ _ _ rfl rfl ?_ ?_
  · intro r member
    simp only [Machine.history, sampleConnect, List.cons_append, List.nil_append, List.foldl_cons,
      List.foldl_nil, List.mem_cons, List.not_mem_nil, or_false] at member
    refine ⟨?_, ?_⟩
    · intro id msg answers channel reqId path body event found complete
      rcases member with rfl | rfl | rfl | rfl <;> cases event
      exact absurd complete noPlaintext
    · intro id reqId text answers event
      rcases member with rfl | rfl | rfl | rfl <;> cases event
  · intro r member
    simp only [Machine.history, List.foldl_cons, List.foldl_nil, List.mem_cons, List.not_mem_nil,
      or_false] at member
    refine ⟨?_, ?_, ?_, ?_⟩
    · intro peer msg answers request event complete
      rcases member with rfl | rfl
      · cases event
      · obtain ⟨rfl, rfl, rfl⟩ := SwarmEvent.request.inj event
        exact absurd complete noSwarmPlaintext
    · intro peer reqId text answers event
      rcases member with rfl | rfl <;> cases event
    · intro peer id reqId body event
      rcases member with rfl | rfl <;> cases event
    · intro cmd ranked sending event
      rcases member with rfl | rfl <;> cases event
      decide +kernel

/-- A peer of the swarm sends a plaintext request in chunks, and it is served. -/
theorem chunked_plaintext_served :
    ¬ Machine.Always (SwarmSealed (sampleSwarmManager true false))
      ((swarmMachine (sampleSwarmManager true false)).history (.initial sampleProxy 1)
        [.request "A" (.proxyRequestStart "1" "/api/chat") sampleAnswers,
          .request "A" (.proxyRequestChunk "1" 0 "{}") sampleAnswers,
          .request "A" (.proxyRequestEnd "1") sampleAnswers]).1 := by
  rintro ⟨last, -⟩
  obtain ⟨_, _, _, _, _, _, _, _, _, _, _, event, -⟩ := last.calls _
    (onSwarmRequest_forward.mpr (.plaintext rfl rfl rfl))
  cases event

end MtrxPeer
