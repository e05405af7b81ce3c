import MtrxPeer.WebrtcManager

/-! Inbound sessions need a live grant. Every allowance in the store can be traced
to the step that approved it, and no later step has used it, so an offer that
passes the checks finds an approval that is unexpired and unused. -/
namespace MtrxPeer

variable {m : Manager} {s : ClusterState}

/-! ## Approvals in a run -/

/-- A connection request reached this manager, or another that shares its list. -/
def Requested (reqId requester model : String) (past : List ClusterRecord) : Prop :=
  ∃ r ∈ past, (∃ flags, r.event = .connectOffer reqId model requester flags) ∨
    ∃ offers, r.event = .offersChanged offers ∧
      ∃ o ∈ offers, o.reqId = reqId ∧ o.requestedBy = requester ∧ o.model = model

/-- A step approves a connection request: automatically as it arrives, or by the
user's answer to one that arrived before. -/
def Approves (reqId requester model : String) (older : List ClusterRecord) (r : ClusterRecord) :
    Prop :=
  .granted reqId requester model ∈ r.outputs ∧
    ((∃ flags, r.event = .connectOffer reqId model requester flags) ∨
      (∃ clusterId, r.event = .respond reqId true clusterId) ∧
        Requested reqId requester model older)

/-- An offer used the approval of a request up. -/
def Uses (reqId : String) (r : ClusterRecord) : Prop :=
  ∃ peer model, .approved peer reqId model ∈ r.outputs

/-- An approval earlier in the run that nothing has used since, at time `granted`. -/
def UnusedApproval (past : List ClusterRecord) (reqId requester model : String) (granted : Nat) :
    Prop :=
  ∃ newer r older, past = newer ++ r :: older ∧ Approves reqId requester model older r ∧
    r.before.now = granted ∧ ∀ later ∈ newer, ¬ Uses reqId later

/-- Every session a step creates answers an offer of its peer that carries the
id of a live approval, and the peer is admissible at that moment. -/
def SessionsGranted (m : Manager) (past : List ClusterRecord) (r : ClusterRecord) : Prop :=
  ∀ peer reqId, .session peer reqId ∈ r.outputs →
    ∃ payload created, r.event = .route peer payload created ∧
      (payload.get "sdp_type").bind Json.asStr = some "offer" ∧
      (payload.get "connect_req_id").bind Json.asStr = some reqId ∧
      Admissible m r.before peer payload ∧
      ∃ model granted, UnusedApproval past reqId peer model granted ∧
        r.before.now < granted + connectionAllowanceTtl

/-! ## What a step does to the grants -/

/-- Where a live grant comes from: it was there and the step did not use it, or
the step made it. -/
def GrantOrigin (s : ClusterState) (e : ClusterEvent) (outputs : List ClusterOutput)
    (reqId : String) (a : ConnectionAllowance) : Prop :=
  (s.connectionAllowances reqId = some a ∧ ∀ peer model, .approved peer reqId model ∉ outputs) ∨
    (.granted reqId a.requesterPeerId a.model ∈ outputs ∧
      a.expiresAt = s.now + connectionAllowanceTtl ∧
      ((∃ flags, e = .connectOffer reqId a.model a.requesterPeerId flags) ∨
        (∃ clusterId, e = .respond reqId true clusterId) ∧
          ∃ o ∈ s.incomingConnectionOffers, o.reqId = reqId ∧
            o.requestedBy = a.requesterPeerId ∧ o.model = a.model))

/-- The origin of every grant that is live after a step. -/
theorem clusterStep_grants {e : ClusterEvent} {reqId : String} {a : ConnectionAllowance}
    (live : (clusterStep m s e).1.connectionAllowances reqId = some a) :
    GrantOrigin s e (clusterStep m s e).2 reqId a := by
  by_cases channel : e.isChannel = true
  · obtain ⟨same, effects⟩ := clusterStep_channel (m := m) (s := s) channel
    refine .inl ⟨?_, ?_⟩
    · rw [← live]
      exact (congrFun (congrArg LobbyState.connectionAllowances same) reqId).symm
    · intro peer model member
      obtain ⟨id, effect, other⟩ := effects _ member
      cases other
  cases e with
  | connectOffer offered model requestedBy flags =>
    simp only [clusterStep] at live ⊢
    rcases onConnectOffer_cases (m := m) (s := s) offered model requestedBy flags with
      ran | ran | ran
    · rw [ran] at live ⊢
      rcases ConnectionAllowanceStore.grant_eq_some live with ⟨rfl, rfl⟩ | ⟨-, stored⟩
      · exact .inr ⟨by simp, rfl, .inl ⟨flags, rfl⟩⟩
      · exact .inl ⟨stored, by simp⟩
    · rw [ran] at live ⊢
      exact .inl ⟨live, by simp⟩
    · rw [ran] at live ⊢
      exact .inl ⟨live, by simp⟩
  | respond answered accept clusterId =>
    simp only [clusterStep] at live ⊢
    rcases onRespond_cases (m := m) (s := s) answered accept clusterId with
      ran | ⟨offer, member, rfl, rfl, ran⟩ | ran
    · rw [ran] at live ⊢
      exact .inl ⟨live, by simp⟩
    · rw [ran] at live ⊢
      rcases ConnectionAllowanceStore.grant_eq_some live with ⟨rfl, rfl⟩ | ⟨-, stored⟩
      · exact .inr ⟨by simp, rfl, .inr ⟨⟨clusterId, rfl⟩, offer, member, rfl, rfl, rfl⟩⟩
      · exact .inl ⟨stored, by simp⟩
    · rw [ran] at live ⊢
      exact .inl ⟨live, by simp⟩
  | route sender payload created =>
    simp only [clusterStep] at live ⊢
    rcases onRoute_cases (m := m) (s := s) sender payload created with ran | ⟨-, ran⟩
    · rw [ran] at live ⊢
      exact .inl ⟨live, by simp⟩
    · rw [ran] at live ⊢
      rcases onOffer_cases (m := m) (s := s) sender payload created with
        ran | ⟨connectReqId, store, valid, ran⟩ | ⟨connectReqId, model, store, -, -, valid, ran⟩
      · rw [ran] at live ⊢
        exact .inl ⟨live, by simp⟩
      · rw [ran] at live ⊢
        have kept := ConnectionAllowanceStore.validateAndConsume_store valid live
        exact .inl ⟨kept.2, by simp⟩
      · rw [ran] at live ⊢
        have kept := ConnectionAllowanceStore.validateAndConsume_store valid live
        refine .inl ⟨kept.2, ?_⟩
        intro peer model' member
        cases created <;> simp [kept.1] at member
  | connectUpdate request status providerPeer flags =>
    refine .inl ⟨?_, by simp [clusterStep]⟩
    simp only [clusterStep] at live
    rcases onConnectUpdate_cases (m := m) (s := s) request status providerPeer flags with
      ⟨peer, flags', ran⟩ | ran | ran
    all_goals
      rw [ran] at live
      exact live
  | message | channelOpened | sendRequest => exact absurd rfl channel
  | _ => exact .inl ⟨live, by simp [clusterStep]⟩

/-- Every waiting connection request was waiting before or arrived just now. -/
private theorem clusterStep_offers {e : ClusterEvent} {o : IncomingConnectionOffer}
    (member : o ∈ (clusterStep m s e).1.incomingConnectionOffers) :
    o ∈ s.incomingConnectionOffers ∨
      (∃ flags, e = .connectOffer o.reqId o.model o.requestedBy flags) ∨
      ∃ offers, e = .offersChanged offers ∧ o ∈ offers := by
  by_cases channel : e.isChannel = true
  · obtain ⟨same, -⟩ := clusterStep_channel (m := m) (s := s) channel
    have kept : (clusterStep m s e).1.incomingConnectionOffers = s.incomingConnectionOffers :=
      congrArg LobbyState.incomingConnectionOffers same
    exact .inl (kept ▸ member)
  cases e with
  | connectOffer offered model requestedBy flags =>
    simp only [clusterStep] at member
    rcases onConnectOffer_cases (m := m) (s := s) offered model requestedBy flags with
      ran | ran | ran
    · rw [ran] at member
      exact .inl (List.mem_of_mem_filter member)
    · rw [ran] at member
      exact .inl (List.mem_of_mem_filter member)
    · rw [ran] at member
      rcases List.mem_append.mp member with old | new
      · exact .inl (List.mem_of_mem_filter old)
      · obtain rfl := List.mem_singleton.mp new
        exact .inr (.inl ⟨flags, rfl⟩)
  | respond answered accept clusterId =>
    simp only [clusterStep] at member
    rcases onRespond_cases (m := m) (s := s) answered accept clusterId with
      ran | ⟨offer, -, -, -, ran⟩ | ran
    · rw [ran] at member
      exact .inl member
    · rw [ran] at member
      exact .inl (List.mem_of_mem_filter member)
    · rw [ran] at member
      exact .inl (List.mem_of_mem_filter member)
  | route sender payload created =>
    simp only [clusterStep] at member
    rcases onRoute_cases (m := m) (s := s) sender payload created with ran | ⟨-, ran⟩
    · rw [ran] at member
      exact .inl member
    · rw [ran] at member
      rcases onOffer_cases (m := m) (s := s) sender payload created with
        ran | ⟨_, _, -, ran⟩ | ⟨_, _, _, -, -, -, ran⟩
      all_goals
        rw [ran] at member
        exact .inl member
  | connectUpdate request status providerPeer flags =>
    simp only [clusterStep] at member
    rcases onConnectUpdate_cases (m := m) (s := s) request status providerPeer flags with
      ⟨peer, flags', ran⟩ | ran | ran
    all_goals
      rw [ran] at member
      exact .inl member
  | offersChanged offers => exact .inr (.inr ⟨offers, rfl, member⟩)
  | message | channelOpened | sendRequest => exact absurd rfl channel
  | _ => exact .inl member

/-! ## The invariant -/

/-- Every waiting request was received, and every grant in the store is that of
an approval nothing has used since. -/
structure GrantsRecorded (past : List ClusterRecord) (s : ClusterState) : Prop where
  offers : ∀ o ∈ s.incomingConnectionOffers, Requested o.reqId o.requestedBy o.model past
  grants : ∀ reqId a, s.connectionAllowances reqId = some a →
    ∃ granted, UnusedApproval past reqId a.requesterPeerId a.model granted ∧
      a.expiresAt = granted + connectionAllowanceTtl

private theorem requested_later {reqId requester model : String} {past : List ClusterRecord}
    (r : ClusterRecord) (earlier : Requested reqId requester model past) :
    Requested reqId requester model (r :: past) := by
  obtain ⟨source, member, said⟩ := earlier
  exact ⟨source, List.mem_cons_of_mem _ member, said⟩

private theorem unusedApproval_later {reqId requester model : String} {granted : Nat}
    {past : List ClusterRecord} {r : ClusterRecord} (unused : ¬ Uses reqId r)
    (earlier : UnusedApproval past reqId requester model granted) :
    UnusedApproval (r :: past) reqId requester model granted := by
  obtain ⟨newer, source, older, rfl, approves, time, free⟩ := earlier
  refine ⟨r :: newer, source, older, rfl, approves, time, ?_⟩
  intro later member
  rcases List.mem_cons.mp member with rfl | member
  · exact unused
  · exact free later member

theorem grantsRecorded_step {past : List ClusterRecord} (recorded : GrantsRecorded past s)
    (e : ClusterEvent) :
    GrantsRecorded ((clusterMachine m).record s e :: past) ((clusterMachine m).step s e).1 where
  offers := by
    intro o member
    rcases clusterStep_offers member with old | ⟨flags, rfl⟩ | ⟨offers, rfl, new⟩
    · exact requested_later _ (recorded.offers o old)
    · exact ⟨_, List.mem_cons_self, .inl ⟨flags, rfl⟩⟩
    · exact ⟨_, List.mem_cons_self, .inr ⟨offers, rfl, o, new, rfl, rfl, rfl⟩⟩
  grants := by
    intro reqId a live
    rcases clusterStep_grants live with ⟨stored, unused⟩ | ⟨made, expires, source⟩
    · obtain ⟨granted, approval, expires⟩ := recorded.grants reqId a stored
      refine ⟨granted, unusedApproval_later ?_ approval, expires⟩
      rintro ⟨peer, model, used⟩
      exact unused peer model used
    · refine ⟨s.now, ⟨[], _, past, rfl, ⟨made, ?_⟩, rfl, by simp⟩, expires⟩
      rcases source with ⟨flags, rfl⟩ | ⟨⟨clusterId, rfl⟩, o, member, rfl, sameRequester, sameModel⟩
      · exact .inl ⟨flags, rfl⟩
      · have received := recorded.offers o member
        rw [sameRequester, sameModel] at received
        exact .inr ⟨⟨clusterId, rfl⟩, received⟩

/-! ## Sessions -/

/-- A step that creates a session handles an offer that passed every check. -/
theorem clusterStep_session {e : ClusterEvent} {peer reqId : String}
    (created : .session peer reqId ∈ (clusterStep m s e).2) :
    ∃ payload made, e = .route peer payload made ∧
      (payload.get "sdp_type").bind Json.asStr = some "offer" ∧
      (payload.get "connect_req_id").bind Json.asStr = some reqId ∧ Admissible m s peer payload ∧
      ∃ model, (s.connectionAllowances.validateAndConsume s.now reqId peer).1 = some model := by
  by_cases channel : e.isChannel = true
  · obtain ⟨-, effects⟩ := clusterStep_channel (m := m) (s := s) channel
    obtain ⟨id, effect, other⟩ := effects _ created
    cases other
  cases e with
  | connectOffer offered model requestedBy flags =>
    simp only [clusterStep] at created
    rcases onConnectOffer_cases (m := m) (s := s) offered model requestedBy flags with
      ran | ran | ran
    all_goals simp [ran] at created
  | respond answered accept clusterId =>
    simp only [clusterStep] at created
    rcases onRespond_cases (m := m) (s := s) answered accept clusterId with
      ran | ⟨offer, -, -, -, ran⟩ | ran
    all_goals simp [ran] at created
  | route sender payload made =>
    simp only [clusterStep] at created
    rcases onRoute_cases (m := m) (s := s) sender payload made with ran | ⟨offer, ran⟩
    · simp [ran] at created
    · rw [ran] at created
      rcases onOffer_cases (m := m) (s := s) sender payload made with
        ran | ⟨_, _, -, ran⟩ | ⟨connectReqId, model, store, passed, named, valid, ran⟩
      · simp [ran] at created
      · simp [ran] at created
      · obtain ⟨rfl, rfl⟩ : peer = sender ∧ reqId = connectReqId := by
          cases made with
          | false => simp [ran] at created
          | true => simpa [ran] using created
        exact ⟨payload, made, rfl, offer, named, offerRefusal_eq_none.mp passed, model,
          by rw [valid]⟩
  | message | channelOpened | sendRequest => exact absurd rfl channel
  | _ => simp [clusterStep] at created

end MtrxPeer
