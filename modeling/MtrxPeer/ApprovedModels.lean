import MtrxPeer.LiveGrant
import MtrxPeer.Sample
import MtrxPeer.Served

/-! Which models a provider serves. A consumer's approval is an entry that the
first request past the block and maintenance checks takes out, so it guards one
request: whatever is served while the entry is there was approved, and a request
that finds it gone is not compared with anything. -/
namespace MtrxPeer

open Function (update_of_ne)

variable {m : Manager} {s : ClusterState}

/-! ## What was granted and what is served -/

/-- The consumers and models of the connection requests approved in a run. -/
def grantedModels (past : List ClusterRecord) : List (String × String) :=
  past.flatMap fun r => r.outputs.filterMap fun
    | .granted _ requester model => some (requester, model)
    | _ => none

/-- The consumer and model of each request body that a step hands to the backend
for a channel this peer serves on. -/
def servedModels (r : ClusterRecord) : List (String × String) :=
  r.outputs.filterMap fun
    | .effect id (.forward call) =>
      match r.before.channels id with
      | some channel =>
        if channel.isProvider then some (channel.peer, requestedModel call.body) else none
      | none => none
    | _ => none

/-- Every model a step serves was granted to its consumer before. -/
def ServesGranted (past : List ClusterRecord) (r : ClusterRecord) : Prop :=
  ∀ served ∈ servedModels r, served ∈ grantedModels past

instance (past : List ClusterRecord) (r : ClusterRecord) : Decidable (ServesGranted past r) :=
  inferInstanceAs (Decidable (∀ served ∈ servedModels r, served ∈ grantedModels past))

/-- The branch that compares is taken: a request that passes its proof, from a
consumer that is not blocked in a cluster that accepts jobs, finds the
consumer's approval in place. -/
def ApprovalInPlace (m : Manager) (r : ClusterRecord) : Prop :=
  ∀ id msg answers channel request, r.event = .message id msg answers →
    r.before.channels id = some channel → channel.isProvider = true →
    arrived m.host r.before.proxy.config channel msg = some request →
    request.passesProof m.host r.before.proxy.config answers.unixNow = true →
    r.before.proxy.isPeerBlocked channel.peer = false →
    clusterAccepting r.before.proxy.config m.clusterId = true →
    r.before.approvedProxyModels channel.peer ≠ none

/-! ## The invariant -/

/-- Every allowance and every approval was granted. -/
structure ApprovalsGranted (past : List ClusterRecord) (s : ClusterState) : Prop where
  allowances : ∀ reqId a, s.connectionAllowances reqId = some a →
    (a.requesterPeerId, a.model) ∈ grantedModels past
  approvals : ∀ consumer model, s.approvedProxyModels consumer = some model →
    (consumer, model) ∈ grantedModels past

private theorem grantedModels_later {past : List ClusterRecord} {grant : String × String}
    (r : ClusterRecord) (earlier : grant ∈ grantedModels past) :
    grant ∈ grantedModels (r :: past) := by
  rw [grantedModels, List.flatMap_cons]
  exact List.mem_append_right _ earlier

private theorem grantedModels_now {past : List ClusterRecord} {r : ClusterRecord}
    {reqId requester model : String} (made : .granted reqId requester model ∈ r.outputs) :
    (requester, model) ∈ grantedModels (r :: past) := by
  rw [grantedModels, List.flatMap_cons]
  apply List.mem_append_left
  exact List.mem_filterMap.mpr ⟨_, made, rfl⟩

/-- An approval was there before the step, or the step took it from an allowance. -/
private theorem clusterStep_approvals {e : ClusterEvent} {consumer model : String}
    (live : (clusterStep m s e).1.approvedProxyModels consumer = some model) :
    s.approvedProxyModels consumer = some model ∨
      ∃ reqId a, s.connectionAllowances reqId = some a ∧ a.requesterPeerId = consumer ∧
        a.model = model := by
  cases e with
  | message id msg answers =>
    left
    simp only [clusterStep] at live
    split at live
    · exact live
    · exact onMessage_approvals live
  | sendRequest id reqId path body answers =>
    left
    simp only [clusterStep, onSendRequest] at live
    split at live
    · exact live
    · split at live
      · split at live <;> exact live
      · exact live
  | connectOffer reqId offered requestedBy flags =>
    left
    simp only [clusterStep] at live
    rcases onConnectOffer_cases (m := m) (s := s) reqId offered requestedBy flags with
      ran | ran | ran
    all_goals
      rw [ran] at live
      exact live
  | respond reqId accept clusterId =>
    left
    simp only [clusterStep] at live
    rcases onRespond_cases (m := m) (s := s) reqId accept clusterId with
      ran | ⟨offer, -, -, -, ran⟩ | ran
    all_goals
      rw [ran] at live
      exact live
  | connectUpdate reqId status providerPeer flags =>
    left
    simp only [clusterStep] at live
    rcases onConnectUpdate_cases (m := m) (s := s) reqId status providerPeer flags with
      ⟨peer, flags', ran⟩ | ran | ran
    all_goals
      rw [ran] at live
      exact live
  | route sender payload created =>
    simp only [clusterStep] at live
    rcases onRoute_cases (m := m) (s := s) sender payload created with ran | ⟨-, ran⟩
    · rw [ran] at live
      exact .inl live
    · rw [ran] at live
      rcases onOffer_cases (m := m) (s := s) sender payload created with
        ran | ⟨_, _, -, ran⟩ | ⟨connectReqId, given, store, -, -, valid, ran⟩
      · rw [ran] at live
        exact .inl live
      · rw [ran] at live
        exact .inl live
      · rw [ran] at live
        by_cases same : consumer = sender
        · subst same
          have valid' : (s.connectionAllowances.validateAndConsume s.now connectReqId consumer).1 =
              some given := by rw [valid]
          obtain ⟨a, stored, -, requester, named⟩ :=
            ConnectionAllowanceStore.validateAndConsume_eq_some valid'
          have taken : given = model := by simpa [ClusterState.openSession] using live
          exact .inr ⟨connectReqId, a, stored, requester, named.trans taken⟩
        · left
          simpa [ClusterState.openSession, update_of_ne same] using live
  | _ => exact .inl live

theorem approvalsGranted_step {past : List ClusterRecord} (granted : ApprovalsGranted past s)
    (e : ClusterEvent) :
    ApprovalsGranted ((clusterMachine m).record s e :: past) ((clusterMachine m).step s e).1 where
  allowances := by
    intro reqId a live
    rcases clusterStep_grants live with ⟨stored, -⟩ | ⟨made, -, -⟩
    · exact grantedModels_later _ (granted.allowances reqId a stored)
    · exact grantedModels_now made
  approvals := by
    intro consumer model live
    rcases clusterStep_approvals live with kept | ⟨reqId, a, stored, rfl, rfl⟩
    · exact grantedModels_later _ (granted.approvals consumer model kept)
    · exact grantedModels_later _ (granted.allowances reqId a stored)

/-! ## Served models -/

/-- The model a step serves is named by a request that passed the comparison with
the consumer's approval. -/
private theorem servedModels_step {e : ClusterEvent} {consumer model : String}
    (served : (consumer, model) ∈ servedModels ((clusterMachine m).record s e)) :
    ∃ id msg answers channel request, e = .message id msg answers ∧ s.channels id = some channel ∧
      channel.isProvider = true ∧ consumer = channel.peer ∧
      arrived m.host s.proxy.config channel msg = some request ∧
      request.passesProof m.host s.proxy.config answers.unixNow = true ∧
      request.refusal m s channel = none ∧ model = requestedModel request.body := by
  obtain ⟨output, made, read⟩ := List.mem_filterMap.mp served
  split at read
  · rename_i id call
    split at read
    · rename_i channel found
      split at read
      · rename_i provider
        obtain ⟨rfl, rfl⟩ : channel.peer = consumer ∧ requestedModel call.body = model := by
          simpa using read
        obtain ⟨msg, answers, channel', request, rfl, found', complete, proof, admitted, rfl⟩ :=
          clusterStep_forward made
        obtain rfl : channel' = channel := Option.some.inj (found'.symm.trans found)
        exact ⟨id, msg, answers, channel', request, rfl, found', provider, rfl, complete, proof,
          admitted, requestedModel_normalizeRemoteBody ..⟩
      · simp at read
    · simp at read
  · simp at read

/-- A request that was admitted against an approval names its model. -/
private theorem refusal_eq_none {channel : Channel} {request : Arrived}
    (admitted : request.refusal m s channel = none) :
    s.proxy.isPeerBlocked channel.peer = false ∧
      clusterAccepting s.proxy.config m.clusterId = true ∧
      ∀ expected, request.approval s channel = some expected →
        expected = requestedModel request.body := by
  unfold Arrived.refusal clusterRefusal at admitted
  split_ifs at admitted with blocked accepting
  refine ⟨by simpa using blocked, by simpa using accepting, ?_⟩
  intro expected approval
  by_contra differs
  simp [approval, differs] at admitted

private theorem approval_of_provider {channel : Channel} (provider : channel.isProvider = true)
    (request : Arrived) : request.approval s channel = s.approvedProxyModels channel.peer := by
  cases request <;> simp [Arrived.approval, provider]

/-- In every run whose requests all find their approval in place, only granted
models are served. -/
theorem served_models_granted (m : Manager) (proxy : ProxyState) (now : Nat)
    (events : List ClusterEvent)
    (inPlace : ∀ r ∈ ((clusterMachine m).history (.initial proxy now) events).1,
      ApprovalInPlace m r) :
    Machine.Always ServesGranted ((clusterMachine m).history (.initial proxy now) events).1 := by
  refine ((clusterMachine m).reaches_history _ events).always ApprovalsGranted (ApprovalInPlace m)
    ⟨by simp [ClusterState.initial], by simp [ClusterState.initial]⟩
    (fun past s e granted _ => approvalsGranted_step granted e) ?_ inPlace
  rintro past s e granted meets ⟨consumer, model⟩ served
  obtain ⟨id, msg, answers, channel, request, rfl, found, provider, rfl, complete, proof, admitted,
    rfl⟩ := servedModels_step served
  obtain ⟨notBlocked, accepting, named⟩ := refusal_eq_none admitted
  have present := meets id msg answers channel request rfl found provider complete proof notBlocked
    accepting
  obtain ⟨expected, approval⟩ := Option.ne_none_iff_exists'.mp present
  have same := named expected ((approval_of_provider provider request).trans approval)
  exact same ▸ granted.approvals channel.peer expected approval

/-- A consumer approved for one model has a first request for it served. -/
theorem served_models_granted_sample :
    Machine.Always ServesGranted ((clusterMachine (sampleManager false false)).history
      (.initial sampleProxy 0) (sampleConnect "alice" "llama3" ++
        [.message "d" (.proxyRequest "1" "/api/chat" (sampleBody "llama3")) sampleAnswers])).1 := by
  refine served_models_granted _ _ _ _ ?_
  intro r member id msg answers channel request event found
  simp only [Machine.history, sampleConnect, List.cons_append, List.nil_append, List.foldl_cons,
    List.foldl_nil, List.mem_cons, List.not_mem_nil, or_false] at member
  rcases member with rfl | rfl | rfl | rfl <;> cases event
  intros
  cases found
  decide

/-- The second request of a consumer is compared with nothing: approved for one
model, it has another served. -/
theorem second_request_not_compared :
    ¬ Machine.Always ServesGranted ((clusterMachine (sampleManager false false)).history
      (.initial sampleProxy 0) (sampleConnect "alice" "llama3" ++
        [.message "d" (.proxyRequest "1" "/api/chat" (sampleBody "llama3")) sampleAnswers,
          .message "d" (.proxyRequest "2" "/api/chat" (sampleBody "mistral")) sampleAnswers])).1 := by
  rintro ⟨latest, -⟩
  revert latest
  decide

end MtrxPeer
