import MtrxPeer.ClusterConsumer

/-! The consumer's policy for providers in a cluster, where it is looked at even
less, and the policy's law for both kinds of networks. -/
namespace MtrxPeer

open Function (update)

/-! ## The law in a cluster -/

/-- A request was registered for a target. -/
def RegisteredIn (past : List ConsumerRecord) (reqId target : String) : Prop :=
  ∃ r ∈ past, .tracked reqId target ∈ r.outputs

/-- The cluster's consumer admits a peer. -/
abbrev ConsumerState.Allows (m : Manager) (s : ConsumerState) (peer : String) : Prop :=
  PolicyAllows m.host s.cluster.proxy s.teeCatalogued peer

/-- What goes out is for a peer that the policy allows at that moment, and a
command that names another is answered with an error. -/
structure SentByClusterPolicy (m : Manager) (past : List ConsumerRecord) (r : ConsumerRecord) :
    Prop where
  sends : ∀ channel effect msg reqId, .cluster (.effect channel effect) ∈ r.outputs →
    effect.sent = some msg → msg.requestId = some reqId →
      (∃ target, RegisteredIn (r :: past) reqId target) ∧
        ∀ target, RegisteredIn (r :: past) reqId target → r.before.Allows m target
  refused : ∀ cmd session peer, r.event = .command cmd session → commandMatches m cmd = true →
    cmd.targetPeer = some peer → ¬ r.before.Allows m peer → ∃ error, .reject error ∈ r.outputs

/-- The policy never turns against the provider of a request that waits, a
provider named in a command has a TEE if one is required, and one that the lobby
gives is allowed. -/
def ClusterPolicySettled (m : Manager) (r : ConsumerRecord) : Prop :=
  match r.event with
  | .command cmd _ => ∀ peer ∈ cmd.targetPeer, commandMatches m cmd = true →
      r.before.cluster.proxy.isPeerBlocked peer = false →
      teeRequired m.host r.before.cluster.proxy.config = true → r.before.teeCatalogued peer = true
  | .brokered cmd answer _ => ∀ peer reqId flags, answer = .ok (peer, reqId, flags) →
      commandMatches m cmd = true → cmd.targetPeer = none → peerConnectionAllowed m.host
        r.before.cluster.proxy.config.allowUnattestedPeers flags = true → r.before.Allows m peer
  | .catalogChanged teeCatalogued => ∀ waiting ∈ r.before.waiting,
      PolicyAllows m.host r.before.cluster.proxy teeCatalogued waiting.targetPeer
  | .cluster (.proxyChanged proxy) => ∀ waiting ∈ r.before.waiting,
      PolicyAllows m.host proxy r.before.teeCatalogued waiting.targetPeer
  | .cluster (.peerBanned peer) => ∀ waiting ∈ r.before.waiting, waiting.targetPeer ≠ peer
  | _ => True

/-! ## What goes out -/

variable {m : Manager} {s : ConsumerState}

private theorem isReply_requestId {effect : ChannelEffect} {msg : StreamMessage}
    (reply : effect.isReply) (sent : effect.sent = some msg) : msg.requestId = none := by
  cases effect with
  | stream other =>
    obtain rfl := Option.some.inj sent
    cases other with
    | encryptedProxyResponse => rfl
    | encryptedProxyStreamChunk => rfl
    | _ => exact reply.elim
  | data other =>
    obtain rfl := Option.some.inj sent
    cases other with
    | proxyResponseChunk => rfl
    | proxyResponseDone => rfl
    | proxyResponseError => rfl
    | pong => rfl
    | _ => exact reply.elim
  | _ => cases sent

/-- Nothing else that a manager does puts a request on a channel. -/
private theorem clusterStep_requestId {s : ClusterState} {e : ClusterEvent} {channel : String}
    {effect : ChannelEffect} {msg : StreamMessage}
    (other : ∀ id reqId path body answers, e ≠ .sendRequest id reqId path body answers)
    (done : .effect channel effect ∈ (clusterStep m s e).2) (sent : effect.sent = some msg) :
    msg.requestId = none := by
  by_cases lobby : e.isChannel = false
  · exact absurd done ((clusterStep_lobby lobby).2 channel effect)
  cases e with
  | message id incoming answers =>
    simp only [clusterStep] at done
    split at done
    · cases done
    · obtain ⟨effect', member, same⟩ := List.mem_map.mp done
      obtain ⟨-, rfl⟩ := ClusterOutput.effect.inj same
      rcases onMessage_effects member with reply | handed | ⟨request, -, -, -, rfl⟩
      · exact isReply_requestId reply sent
      · cases handed <;> cases sent
      · cases sent
  | channelOpened => cases done
  | sendRequest id reqId path body answers => exact absurd rfl (other id reqId path body answers)
  | _ => exact absurd rfl lobby

private theorem plaintextRequest_requestId {reqId path : String} {body : Json}
    {msg : DataChannelMessage} (member : msg ∈ plaintextRequest reqId path body) :
    msg.asStream.requestId = some reqId := by
  rcases List.mem_append.mp member with front | last
  · rcases List.mem_cons.mp front with rfl | chunk
    · rfl
    · obtain ⟨seq, below, rfl⟩ := List.mem_mapIdx.mp chunk
      rfl
  · obtain rfl := List.mem_singleton.mp last
    rfl

/-- A request goes out under its own id. -/
private theorem sendClusterProxyOnDc_requestId {s : ClusterState} {reqId path : String} {body : Json}
    {answers : Answers} {effect : ChannelEffect} {msg : StreamMessage}
    (member : effect ∈ (sendClusterProxyOnDc m s reqId path body answers).2.1)
    (sent : effect.sent = some msg) : msg.requestId = some reqId := by
  unfold sendClusterProxyOnDc at member
  split at member
  · have mapped : effect ∈ (sendEncryptedProxyRequest m.host s.proxy.config answers m.peerId reqId
        path body m.clusterId none).1.map ChannelEffect.stream := by
      split at member
      all_goals
        rename_i ran
        rw [ran]
        exact member
    obtain ⟨other, among, rfl⟩ := List.mem_map.mp mapped
    obtain rfl := Option.some.inj sent
    exact (sendEncryptedProxyRequest_kind among).2
  · obtain ⟨other, among, rfl⟩ := sendDcInOrder_sent member
    obtain rfl := Option.some.inj sent
    exact plaintextRequest_requestId among

private theorem sendClusterProxyOnDc_proxy {s : ClusterState} {reqId path : String} {body : Json}
    {answers : Answers} : (sendClusterProxyOnDc m s reqId path body answers).1.proxy = s.proxy := by
  unfold sendClusterProxyOnDc
  split
  · split <;> rfl
  · rfl

/-! ## One step -/

/-- The configuration and the block list after an event. -/
def ConsumerEvent.proxyAfter (proxy : ProxyState) : ConsumerEvent → ProxyState
  | .cluster e => e.proxyAfter proxy
  | _ => proxy

/-- What the catalogs say of TEEs after an event. -/
def ConsumerEvent.teeAfter (teeCatalogued : String → Bool) : ConsumerEvent → String → Bool
  | .catalogChanged changed => changed
  | _ => teeCatalogued

/-- An event chooses a provider for a command. -/
def Chooses (m : Manager) (s : ConsumerState) (peer : String) : ConsumerEvent → Prop
  | .command cmd _ => commandMatches m cmd = true ∧ cmd.targetPeer = some peer ∧
      s.cluster.proxy.isPeerBlocked peer = false
  | .brokered cmd answer _ => commandMatches m cmd = true ∧ cmd.targetPeer = none ∧
      ∃ reqId flags, answer = .ok (peer, reqId, flags) ∧
        peerConnectionAllowed m.host s.cluster.proxy.config.allowUnattestedPeers flags = true
  | _ => False

/-- All that an event can do: it registers a request for the peer it chooses, or
it sends at most a request that waits. -/
inductive ConsumerChange (m : Manager) (s : ConsumerState) (e : ConsumerEvent) :
    ConsumerState → List ConsumerOutput → Prop
  | registered {s' : ConsumerState} {waiting : WaitingRequest}
      (chosen : Chooses m s waiting.targetPeer e)
      (named : waiting.reqId = m.peerId ++ ":" ++ toString s.nextReqId)
      (proxy : s'.cluster.proxy = s.cluster.proxy) (tee : s'.teeCatalogued = s.teeCatalogued)
      (next : s'.nextReqId = s.nextReqId + 1) (added : s'.waiting = s.waiting ++ [waiting]) :
      ConsumerChange m s e s' [.tracked waiting.reqId waiting.targetPeer]
  | other {s' : ConsumerState} {outputs : List ConsumerOutput}
      (untracked : ∀ reqId target, .tracked reqId target ∉ outputs)
      (sends : ∀ channel effect msg, .cluster (.effect channel effect) ∈ outputs →
        effect.sent = some msg → ∀ reqId ∈ msg.requestId,
          ∃ waiting ∈ s.waiting, waiting.reqId = reqId)
      (proxy : s'.cluster.proxy = e.proxyAfter s.cluster.proxy)
      (tee : s'.teeCatalogued = e.teeAfter s.teeCatalogued)
      (next : s.nextReqId ≤ s'.nextReqId) (left : ∀ waiting ∈ s'.waiting, waiting ∈ s.waiting) :
      ConsumerChange m s e s' outputs

private theorem connectAndProxy_change {e : ConsumerEvent} {s' : ConsumerState}
    {cmd : ProxyRequestCommand} {peer : String} (connectReqId : Option String) (session : Session)
    (chosen : Chooses m s peer e) (proxy : s'.cluster.proxy = s.cluster.proxy)
    (tee : s'.teeCatalogued = s.teeCatalogued) (next : s'.nextReqId = s.nextReqId)
    (waiting : s'.waiting = s.waiting) (quiet : e.proxyAfter s.cluster.proxy = s.cluster.proxy ∧
      e.teeAfter s.teeCatalogued = s.teeCatalogued) :
    ConsumerChange m s e (connectAndProxy m s' cmd peer connectReqId session).1
      (connectAndProxy m s' cmd peer connectReqId session).2 := by
  have registers : ∀ {t : ConsumerState} (delayed : Bool), t.cluster.proxy = s.cluster.proxy →
      t.teeCatalogued = s.teeCatalogued → t.nextReqId = s.nextReqId → t.waiting = s.waiting →
      ConsumerChange m s e (registerRequest m t cmd peer delayed).1
        (registerRequest m t cmd peer delayed).2 := by
    intro t delayed proxy tee next waiting
    let request : WaitingRequest :=
      ⟨m.peerId ++ ":" ++ toString t.nextReqId, peer, cmd.path, cmd.body, delayed⟩
    refine @ConsumerChange.registered _ _ _ _ request chosen ?_ proxy tee ?_ ?_
    · rw [← next]
    · exact congrArg (· + 1) next
    · exact congrArg (· ++ [_]) waiting
  have nothing : ∀ outputs : List ConsumerOutput, (∀ o ∈ outputs, ∃ error, o = .reject error) →
      ConsumerChange m s e s' outputs := by
    intro outputs rejects
    refine .other ?_ ?_ (proxy.trans quiet.1.symm) (tee.trans quiet.2.symm) (Nat.le_of_eq next.symm)
      (fun w member => waiting ▸ member)
    · intro reqId target member
      obtain ⟨error, same⟩ := rejects _ member
      cases same
    · intro channel effect msg member
      obtain ⟨error, same⟩ := rejects _ member
      cases same
  unfold connectAndProxy
  split
  · exact nothing _ (by simp)
  · exact registers true proxy tee next waiting
  · exact nothing _ (by simp)
  · exact nothing _ (by simp)
  · exact registers true proxy tee next waiting
  · exact registers false proxy tee next waiting

/-- A failure to send is told to the caller, and nothing else comes of it. -/
private theorem sendFailure_tells {waiting : WaitingRequest} {error : Option String}
    {o : ConsumerOutput} (failed : o ∈ sendFailure waiting error) :
    ∃ told, o = .tell waiting.reqId (.error told) := by
  unfold sendFailure at failed
  split at failed
  · split at failed
    · exact ⟨_, List.mem_singleton.mp failed⟩
    · cases failed
  · cases failed

private theorem onChannelReady_change {reqId channel : String} {answers : Answers} :
    ConsumerChange m s (.channelReady reqId channel answers)
      (consumerStep m s (.channelReady reqId channel answers)).1
      (consumerStep m s (.channelReady reqId channel answers)).2 := by
  simp only [consumerStep, onChannelReady]
  split
  · exact .other (by simp) (by simp) rfl rfl (Nat.le_refl _) fun _ member => member
  · rename_i waiting found
    have named : waiting.reqId = reqId := by simpa using List.find?_some found
    refine .other ?_ ?_ sendClusterProxyOnDc_proxy rfl (Nat.le_refl _)
      fun _ member => List.mem_of_mem_filter member
    · intro other target member
      rcases List.mem_append.mp member with sent | failed
      · simp at sent
      · obtain ⟨told, same⟩ := sendFailure_tells failed
        cases same
    · intro id effect msg member sent other carried
      rcases List.mem_append.mp member with mapped | failed
      · obtain ⟨effect', among, same⟩ := List.mem_map.mp mapped
        obtain ⟨-, rfl⟩ := ClusterOutput.effect.inj (ConsumerOutput.cluster.inj same)
        rw [sendClusterProxyOnDc_requestId among sent] at carried
        obtain rfl := Option.some.inj carried
        exact ⟨waiting, List.mem_of_find?_eq_some found, named⟩
      · obtain ⟨told, same⟩ := sendFailure_tells failed
        cases same

theorem consumerStep_change (e : ConsumerEvent) :
    ConsumerChange m s e (consumerStep m s e).1 (consumerStep m s e).2 := by
  have rejected : ∀ error, e.proxyAfter s.cluster.proxy = s.cluster.proxy →
      e.teeAfter s.teeCatalogued = s.teeCatalogued → ConsumerChange m s e s [.reject error] :=
    fun error proxy tee => .other (by simp) (by simp) proxy.symm tee.symm (Nat.le_refl _)
      fun _ member => member
  have nothing : e.proxyAfter s.cluster.proxy = s.cluster.proxy →
      e.teeAfter s.teeCatalogued = s.teeCatalogued → ConsumerChange m s e s [] :=
    fun proxy tee => .other (by simp) (by simp) proxy.symm tee.symm (Nat.le_refl _)
      fun _ member => member
  cases e with
  | command cmd session =>
    simp only [consumerStep, onConsumerCommand]
    split
    · rename_i peer matching named
      split
      · exact rejected _ rfl rfl
      · rename_i free
        exact connectAndProxy_change none session ⟨matching, named, by simpa using free⟩ rfl rfl rfl
          rfl ⟨rfl, rfl⟩
    · exact nothing rfl rfl
  | brokered cmd answer session =>
    simp only [consumerStep, onBrokered]
    split
    · exact rejected _ rfl rfl
    · rename_i peer reqId flags matching unnamed
      split
      · exact rejected _ rfl rfl
      · rename_i attested
        exact connectAndProxy_change (some reqId) session
          ⟨matching, unnamed, reqId, flags, rfl, by simpa using attested⟩ rfl rfl rfl rfl ⟨rfl, rfl⟩
    · exact nothing rfl rfl
  | channelReady reqId channel answers => exact onChannelReady_change
  | gaveUp reqId =>
    simp only [consumerStep, onGaveUp]
    split
    · exact nothing rfl rfl
    · exact .other (by simp) (by simp) rfl rfl (Nat.le_refl _)
        fun _ member => List.mem_of_mem_filter member
  | requestsNumbered count =>
    exact .other (by simp [consumerStep]) (by simp [consumerStep]) rfl rfl (Nat.le_add_right ..)
      fun _ member => member
  | catalogChanged tee =>
    exact .other (by simp [consumerStep]) (by simp [consumerStep]) rfl rfl (Nat.le_refl _)
      fun _ member => member
  | cluster e =>
    by_cases send : ∃ id reqId path body answers, e = .sendRequest id reqId path body answers
    · obtain ⟨id, reqId, path, body, answers, rfl⟩ := send
      exact nothing rfl rfl
    · have other : ∀ id reqId path body answers, e ≠ .sendRequest id reqId path body answers :=
        fun id reqId path body answers same => send ⟨id, reqId, path, body, answers, same⟩
      have ran : consumerStep m s (.cluster e) =
          ({ s with cluster := (clusterStep m s.cluster e).1 },
            (clusterStep m s.cluster e).2.map .cluster) := by
        cases e with
        | sendRequest => exact absurd rfl (other _ _ _ _ _)
        | _ => rfl
      rw [ran]
      refine .other (by simp) ?_ (clusterStep_proxy e) rfl (Nat.le_refl _) fun _ member => member
      intro channel effect msg member sent reqId carried
      obtain ⟨o, among, same⟩ := List.mem_map.mp member
      obtain rfl := ConsumerOutput.cluster.inj same
      rw [clusterStep_requestId other among sent] at carried
      cases carried

/-! ## Runs -/

/-- Requests that wait are for allowed peers, each under a number of its own. -/
structure ClusterPolicyKept (m : Manager) (past : List ConsumerRecord) (s : ConsumerState) : Prop where
  waiting : ∀ waiting ∈ s.waiting,
    RegisteredIn past waiting.reqId waiting.targetPeer ∧ s.Allows m waiting.targetPeer
  numbered : ∀ reqId target, RegisteredIn past reqId target →
    ∃ n < s.nextReqId, reqId = m.peerId ++ ":" ++ toString n
  unique : ∀ reqId target target', RegisteredIn past reqId target → RegisteredIn past reqId target' →
    target = target'

private theorem registeredIn_cons {past : List ConsumerRecord} {r : ConsumerRecord}
    {reqId target : String} : RegisteredIn (r :: past) reqId target ↔
      .tracked reqId target ∈ r.outputs ∨ RegisteredIn past reqId target := by
  simp [RegisteredIn]

/-- A provider is chosen only if the policy allows it. -/
private theorem chooses_allows {e : ConsumerEvent} {peer : String} (chosen : Chooses m s peer e)
    (settled : ClusterPolicySettled m ((consumerMachine m).record s e)) : s.Allows m peer := by
  cases e with
  | command cmd session =>
    obtain ⟨matching, named, free⟩ := chosen
    exact ⟨free, settled peer named matching free⟩
  | brokered cmd answer session =>
    obtain ⟨matching, unnamed, reqId, flags, answered, attested⟩ := chosen
    exact settled peer reqId flags answered matching unnamed attested
  | _ => exact chosen.elim

/-- The policy after a step still allows who a request waits for. -/
private theorem allows_after {e : ConsumerEvent} {waiting : WaitingRequest}
    (settled : ClusterPolicySettled m ((consumerMachine m).record s e)) (waits : waiting ∈ s.waiting)
    (allows : s.Allows m waiting.targetPeer) :
    PolicyAllows m.host (e.proxyAfter s.cluster.proxy) (e.teeAfter s.teeCatalogued)
      waiting.targetPeer := by
  cases e with
  | catalogChanged tee => exact settled waiting waits
  | cluster e =>
    cases e with
    | proxyChanged proxy => exact settled waiting waits
    | peerBanned peer =>
      refine ⟨?_, allows.tee⟩
      exact (Function.update_of_ne (settled waiting waits) ..).trans allows.notBlocked
    | _ => exact allows
  | _ => exact allows

/-- A command that names a peer whom the policy turns away is answered with an error. -/
private theorem onConsumerCommand_refused {cmd : ProxyRequestCommand} {session : Session}
    {peer : String} (settled : ClusterPolicySettled m ((consumerMachine m).record s
      (.command cmd session))) (matching : commandMatches m cmd = true)
    (named : cmd.targetPeer = some peer) (turnedAway : ¬ s.Allows m peer) :
    ∃ error, .reject error ∈ (onConsumerCommand m s cmd session).2 := by
  have blocked : s.cluster.proxy.isPeerBlocked peer = true := by
    by_contra free
    have free : s.cluster.proxy.isPeerBlocked peer = false := by simpa using free
    exact turnedAway ⟨free, settled peer named matching free⟩
  refine ⟨"Peer " ++ peer ++ " is blocked", ?_⟩
  simp [onConsumerCommand, matching, named, blocked]

theorem clusterPolicyKept_step {past : List ConsumerRecord} {e : ConsumerEvent}
    (kept : ClusterPolicyKept m past s)
    (settled : ClusterPolicySettled m ((consumerMachine m).record s e)) :
    ClusterPolicyKept m ((consumerMachine m).record s e :: past) (consumerStep m s e).1 ∧
      SentByClusterPolicy m past ((consumerMachine m).record s e) := by
  have refused : ∀ cmd session peer, e = .command cmd session → commandMatches m cmd = true →
      cmd.targetPeer = some peer → ¬ s.Allows m peer →
      ∃ error, .reject error ∈ (consumerStep m s e).2 := by
    rintro cmd session peer rfl matching named turnedAway
    exact onConsumerCommand_refused settled matching named turnedAway
  have registered : ∀ reqId target,
      RegisteredIn ((consumerMachine m).record s e :: past) reqId target ↔
        .tracked reqId target ∈ (consumerStep m s e).2 ∨ RegisteredIn past reqId target :=
    fun reqId target => registeredIn_cons
  have change := consumerStep_change (m := m) (s := s) e
  generalize step : consumerStep m s e = after at change registered
  obtain ⟨s', outputs⟩ := after
  have made : ((consumerMachine m).record s e).outputs = outputs := congrArg Prod.snd step
  cases change with
  | @registered waiting chosen named proxy tee next added =>
    have allows := chooses_allows chosen settled
    have same : s'.Allows m = s.Allows m := by
      funext peer
      rw [ConsumerState.Allows, proxy, tee]
    have fresh : ∀ {target}, ¬ RegisteredIn past waiting.reqId target := by
      intro target before
      obtain ⟨n, below, text⟩ := kept.numbered _ _ before
      exact Nat.lt_irrefl _ (numbered_inj (named.symm.trans text) ▸ below)
    simp only [List.mem_singleton, ConsumerOutput.tracked.injEq] at registered
    refine ⟨⟨?_, ?_, ?_⟩, ?_, refused⟩
    · intro other member
      rw [added] at member
      rw [registered, same]
      rcases List.mem_append.mp member with older | new
      · obtain ⟨before, allows⟩ := kept.waiting other older
        exact ⟨.inr before, allows⟩
      · obtain rfl := List.mem_singleton.mp new
        exact ⟨.inl ⟨rfl, rfl⟩, allows⟩
    · intro reqId target member
      rw [registered] at member
      rw [next]
      rcases member with ⟨rfl, rfl⟩ | before
      · exact ⟨s.nextReqId, Nat.lt_succ_self _, named⟩
      · obtain ⟨n, below, text⟩ := kept.numbered reqId target before
        exact ⟨n, Nat.lt_succ_of_lt below, text⟩
    · intro reqId target target' first second
      rw [registered] at first second
      rcases first with ⟨rfl, rfl⟩ | before
      · rcases second with ⟨-, rfl⟩ | before'
        · rfl
        · exact absurd before' fresh
      · rcases second with ⟨rfl, rfl⟩ | before'
        · exact absurd before fresh
        · exact kept.unique reqId target target' before before'
    · intro channel effect msg reqId member
      rw [made] at member
      simp at member
  | other untracked sends proxy tee next left =>
    have older : ∀ reqId target, RegisteredIn ((consumerMachine m).record s e :: past) reqId target ↔
        RegisteredIn past reqId target := by
      intro reqId target
      rw [registered]
      exact or_iff_right (untracked reqId target)
    refine ⟨⟨?_, ?_, ?_⟩, ?_, refused⟩
    · intro waiting member
      obtain ⟨before, allows⟩ := kept.waiting waiting (left waiting member)
      rw [older, ConsumerState.Allows, proxy, tee]
      exact ⟨before, allows_after settled (left waiting member) allows⟩
    · intro reqId target member
      obtain ⟨n, below, text⟩ := kept.numbered reqId target ((older reqId target).mp member)
      exact ⟨n, Nat.lt_of_lt_of_le below next, text⟩
    · intro reqId target target' first second
      exact kept.unique reqId target target' ((older _ _).mp first) ((older _ _).mp second)
    · intro channel effect msg reqId member sent carried
      rw [made] at member
      obtain ⟨waiting, waits, rfl⟩ := sends channel effect msg member sent reqId carried
      obtain ⟨before, allows⟩ := kept.waiting waiting waits
      refine ⟨⟨_, (older _ _).mpr before⟩, ?_⟩
      intro target requested
      obtain rfl := kept.unique _ _ _ before ((older _ _).mp requested)
      exact allows

/-- In a run in which the policy never turns against a request that waits, every
request goes out to a peer that the policy allows. -/
theorem cluster_sends_by_policy (m : Manager) (proxy : ProxyState) (tee : String → Bool)
    (now nextReqId : Nat) (events : List ConsumerEvent)
    (settled : ∀ r ∈ ((consumerMachine m).history (.initial proxy tee now nextReqId) events).1,
      ClusterPolicySettled m r) :
    Machine.Always (SentByClusterPolicy m)
      ((consumerMachine m).history (.initial proxy tee now nextReqId) events).1 := by
  refine ((consumerMachine m).reaches_history _ events).always (ClusterPolicyKept m)
    (ClusterPolicySettled m) ?_ (fun past s e kept settles => (clusterPolicyKept_step kept settles).1)
    (fun past s e kept settles => (clusterPolicyKept_step kept settles).2) settled
  have never : ∀ reqId target, ¬ RegisteredIn [] reqId target := by
    simp [RegisteredIn]
  exact ⟨by rintro waiting ⟨⟩, fun reqId target member => absurd member (never _ _),
    fun reqId target target' member => absurd member (never _ _)⟩

/-! ## Both networks -/

/-- The policy holds whenever a request is sent, in a swarm and in a cluster, in
runs in which it never turns against the provider of a request under way. -/
theorem policy_holds_at_send (swarm : SwarmManager) (cluster : Manager) (proxy : ProxyState)
    (tee : String → Bool) (now nextReqId : Nat) (swarmEvents : List SwarmEvent)
    (clusterEvents : List ConsumerEvent)
    (ranked : ∀ r ∈ ((swarmMachine swarm).history (.initial proxy nextReqId) swarmEvents).1,
      RankedByCode swarm r)
    (settled : ∀ r ∈ ((swarmMachine swarm).history (.initial proxy nextReqId) swarmEvents).1,
      PolicySettled swarm r)
    (clusterSettled : ∀ r ∈ ((consumerMachine cluster).history (.initial proxy tee now nextReqId)
      clusterEvents).1, ClusterPolicySettled cluster r) :
    Machine.Always (SentByPolicy swarm)
        ((swarmMachine swarm).history (.initial proxy nextReqId) swarmEvents).1 ∧
      Machine.Always (SentByClusterPolicy cluster)
        ((consumerMachine cluster).history (.initial proxy tee now nextReqId) clusterEvents).1 :=
  ⟨swarm_sends_by_policy swarm proxy nextReqId swarmEvents ranked settled,
    cluster_sends_by_policy cluster proxy tee now nextReqId clusterEvents clusterSettled⟩

private def sampleCommand (target : String) : ProxyRequestCommand :=
  ⟨some target, "llama3", "/api/chat", sampleBody "llama3", none, none⟩

private def sampleSending : Sending := ⟨⟨[7], List.replicate 12 0, 1000⟩, 0⟩

/-- A request that waits for its peer, and one that waits for its data channel. -/
theorem policy_holds_at_send_sample :
    Machine.Always (SentByPolicy (sampleSwarmManager false false))
        ((swarmMachine (sampleSwarmManager false false)).history (.initial sampleProxy 1)
          [.gossip "P" (sampleCatalog "prov" "P"), .proxyCommand (sampleCommand "prov") [] sampleSending,
            .connectionEstablished "P" ["prov"] fun _ => sampleSending]).1 ∧
      Machine.Always (SentByClusterPolicy (sampleManager false false))
        ((consumerMachine (sampleManager false false)).history
          (.initial sampleProxy (fun _ => false) 0 1)
          [.command (sampleCommand "prov") .opening, .channelReady "me:1" "d" sampleAnswers]).1 := by
  refine policy_holds_at_send _ _ _ _ _ _ _ _ ?_ ?_ ?_
  · rintro r (_ | ⟨_, _ | ⟨_, _ | ⟨_, ⟨⟩⟩⟩⟩)
    · trivial
    · rintro ⟨⟩
    · trivial
  · rintro r (_ | ⟨_, _ | ⟨_, _ | ⟨_, ⟨⟩⟩⟩⟩)
    · trivial
    · rintro peer - - ⟨⟩
    · rintro ⟨⟩
  · rintro r (_ | ⟨_, _ | ⟨_, ⟨⟩⟩⟩)
    · trivial
    · rintro peer - - - ⟨⟩

/-- A request that waits for its peer is sent to it though it is blocked by then. -/
theorem blocked_peer_gets_queued_request :
    ¬ Machine.Always (SentByPolicy (sampleSwarmManager false false))
      ((swarmMachine (sampleSwarmManager false false)).history (.initial sampleProxy 1)
        [.gossip "P" (sampleCatalog "prov" "P"), .proxyCommand (sampleCommand "prov") [] sampleSending,
          .proxyChanged (blockPeer sampleProxy "prov"),
          .connectionEstablished "P" ["prov"] fun _ => sampleSending]).1 := by
  rintro ⟨⟨sends, -⟩, -⟩
  have allowed := (sends "P" (.proxyRequest "p2p_1" "/api/chat" (sampleBody "llama3")) "p2p_1"
    List.mem_cons_self rfl).2 "prov" ?_
  · have free := allowed.notBlocked
    revert free
    decide
  · refine ⟨_, List.mem_cons_of_mem _ (List.mem_cons_of_mem _ List.mem_cons_self),
      sampleCommand "prov", [], sampleSending, rfl, rfl, ?_, rfl⟩
    decide

end MtrxPeer
