import MtrxPeer.Sample

/-! One requester's events and another's grants. Grants and waiting requests are
kept under ids that the requesters choose themselves, so the requesters leave each
other alone only while their ids do not meet. -/
namespace MtrxPeer

open Function (update update_self update_of_ne)

variable {m : Manager} {s : ClusterState}

/-! ## What the store does to other grants -/

namespace ConnectionAllowanceStore

variable {store : ConnectionAllowanceStore} {now : Nat} {probe : String} {a : ConnectionAllowance}

theorem grant_self (store : ConnectionAllowanceStore) (now ttl : Nat) (reqId requester model : String) :
    store.grant now ttl reqId requester model reqId = some ⟨requester, model, now + ttl⟩ :=
  update_self ..

theorem grant_other {reqId : String} (stored : store probe = some a) (fresh : now < a.expiresAt)
    (other : probe ≠ reqId) (ttl : Nat) (requester model : String) :
    store.grant now ttl reqId requester model probe = some a := by
  rw [grant, update_of_ne other]
  exact purgeExpired_eq_some.mpr ⟨stored, fresh⟩

theorem validateAndConsume_other {reqId : String} (stored : store probe = some a)
    (fresh : now < a.expiresAt) (other : probe ≠ reqId) (requester : String) :
    (store.validateAndConsume now reqId requester).2 probe = some a := by
  have kept := purgeExpired_eq_some.mpr ⟨stored, fresh⟩
  simp only [validateAndConsume]
  cases store.purgeExpired now reqId with
  | none => exact kept
  | some b =>
    dsimp only
    split_ifs
    all_goals exact (update_of_ne other ..).trans kept

/-- A live grant validates for its requester, and what is left validates for nobody. -/
theorem validateAndConsume_once (stored : store probe = some a) (fresh : now < a.expiresAt) :
    (store.validateAndConsume now probe a.requesterPeerId).1 = some a.model ∧
      ∀ later peer, ((store.validateAndConsume now probe a.requesterPeerId).2.validateAndConsume
        later probe peer).1 = none := by
  have kept := purgeExpired_eq_some.mpr ⟨stored, fresh⟩
  refine ⟨by simp [validateAndConsume, kept, Nat.not_le.mpr fresh], ?_⟩
  intro later peer
  have consumed := validateAndConsume_consumes store now probe a.requesterPeerId
  have purged : purgeExpired (store.validateAndConsume now probe a.requesterPeerId).2 later probe =
      none := by
    simp [purgeExpired, consumed]
  rw [validateAndConsume, purged]

end ConnectionAllowanceStore

/-! ## Requesters -/

/-- A request that waits under an id, as the user's answer finds it. -/
def ClusterState.waiting (s : ClusterState) (reqId : String) : Option IncomingConnectionOffer :=
  s.incomingConnectionOffers.find? fun o => o.reqId = reqId

/-- An event is one of a requester: its request, the answer to it, or its offer. -/
def ActsFor (m : Manager) (s : ClusterState) (requester : String) : ClusterEvent → Prop
  | .connectOffer _ _ requestedBy _ => requestedBy = requester
  | .route sender _ _ => sender = requester
  | .respond reqId _ clusterId =>
    clusterId = some m.clusterId ∧ ∃ o, s.waiting reqId = some o ∧ o.requestedBy = requester
  | _ => False

/-- Whatever is live under an id is a requester's own. -/
structure OwnId (s : ClusterState) (reqId requester : String) : Prop where
  grants : ∀ a ∈ s.connectionAllowances reqId, s.now < a.expiresAt → a.requesterPeerId = requester
  offers : ∀ o ∈ s.incomingConnectionOffers, o.reqId = reqId → o.requestedBy = requester

instance (s : ClusterState) (reqId requester : String) : Decidable (OwnId s reqId requester) :=
  decidable_of_iff
    ((∀ a ∈ s.connectionAllowances reqId, s.now < a.expiresAt → a.requesterPeerId = requester) ∧
      ∀ o ∈ s.incomingConnectionOffers, o.reqId = reqId → o.requestedBy = requester)
    ⟨fun ⟨grants, offers⟩ => ⟨grants, offers⟩, fun ⟨grants, offers⟩ => ⟨grants, offers⟩⟩

/-- No step names an id under which something of another requester is live. -/
def KeepsApart (m : Manager) (r : ClusterRecord) : Prop :=
  match r.event with
  | .connectOffer reqId _ requestedBy _ => OwnId r.before reqId requestedBy
  | .respond reqId _ clusterId => clusterId = some m.clusterId →
    ∀ o ∈ r.before.waiting reqId, OwnId r.before reqId o.requestedBy
  | .route sender payload _ =>
    (payload.get "sdp_type").bind Json.asStr = some "offer" →
    ∀ reqId ∈ (payload.get "connect_req_id").bind Json.asStr,
      offerRefusal m r.before sender payload = none → OwnId r.before reqId sender
  | _ => True

instance (m : Manager) : DecidablePred (KeepsApart m) := by
  rintro ⟨s, e, outputs⟩
  cases e <;> simp only [KeepsApart] <;> infer_instance

/-- An approval given to a requester that it has not used and that no later
approval of its own has replaced, at time `granted`. -/
def OpenApproval (past : List ClusterRecord) (reqId requester model : String) (granted : Nat) :
    Prop :=
  ∃ newer r older, past = newer ++ r :: older ∧ .granted reqId requester model ∈ r.outputs ∧
    r.before.now = granted ∧ ∀ later ∈ newer,
      (∀ model', .approved requester reqId model' ∉ later.outputs) ∧
      ∀ model', .granted reqId requester model' ∉ later.outputs

/-- No requester loses anything by another: an open approval validates, once, until
it expires, and another's request, answer or offer leaves a requester's waiting
requests alone and approves none of them. -/
structure Isolated (m : Manager) (past : List ClusterRecord) (r : ClusterRecord) : Prop where
  approvals : ∀ reqId requester model granted, OpenApproval past reqId requester model granted →
    r.before.now < granted + connectionAllowanceTtl →
    (r.before.connectionAllowances.validateAndConsume r.before.now reqId requester).1 = some model ∧
      ∀ later peer, ((r.before.connectionAllowances.validateAndConsume r.before.now reqId
        requester).2.validateAndConsume later reqId peer).1 = none
  offers : ∀ requester, ActsFor m r.before requester r.event →
    ∀ o ∈ r.before.incomingConnectionOffers, o.requestedBy ≠ requester →
      o ∈ (clusterStep m r.before r.event).1.incomingConnectionOffers ∧
        ∀ reqId model, .granted reqId o.requestedBy model ∉ r.outputs

/-! ## One step -/

/-- An answer does nothing, or it takes the waiting request out and may grant it. -/
theorem onRespond_waiting (reqId : String) (accept : Bool) (clusterId : Option String) :
    onRespond m s reqId accept clusterId = (s, []) ∨
      clusterId = some m.clusterId ∧ ∃ offer, s.waiting reqId = some offer ∧
        (onRespond m s reqId accept clusterId =
            ((s.dropOffer reqId).grantAllowance reqId offer.requestedBy offer.model,
              [.granted reqId offer.requestedBy offer.model, .answered reqId true]) ∨
          onRespond m s reqId accept clusterId = (s.dropOffer reqId, [.answered reqId false])) := by
  unfold onRespond
  by_cases other : clusterId ≠ some m.clusterId
  · exact .inl (if_pos other)
  rw [if_neg other]
  cases found : s.waiting reqId with
  | none =>
    have absent : s.incomingConnectionOffers.find? (fun o => o.reqId = reqId) = none := found
    exact .inl (by rw [absent])
  | some offer =>
    have present : s.incomingConnectionOffers.find? (fun o => o.reqId = reqId) = some offer := found
    refine .inr ⟨not_not.mp other, offer, rfl, ?_⟩
    rw [present]
    cases accept with
    | true => exact .inl rfl
    | false => exact .inr rfl

/-- A grant that a step announces is in the store after it. -/
theorem clusterStep_granted {e : ClusterEvent} {reqId requester model : String}
    (granted : .granted reqId requester model ∈ (clusterStep m s e).2) :
    (clusterStep m s e).1.connectionAllowances reqId =
        some ⟨requester, model, s.now + connectionAllowanceTtl⟩ ∧
      (clusterStep m s e).1.now = s.now ∧ ActsFor m s requester e := by
  by_cases channel : e.isChannel = true
  · obtain ⟨-, effects⟩ := clusterStep_channel (m := m) (s := s) channel
    obtain ⟨id, effect, other⟩ := effects _ granted
    cases other
  cases e with
  | connectOffer offered model' requestedBy flags =>
    simp only [clusterStep] at granted ⊢
    rcases onConnectOffer_cases (m := m) (s := s) offered model' requestedBy flags with
      ran | ran | ran
    · rw [ran] at granted ⊢
      simp only [List.mem_cons, ClusterOutput.granted.injEq, reduceCtorEq, List.not_mem_nil,
        or_false] at granted
      obtain ⟨rfl, rfl, rfl⟩ := granted
      exact ⟨ConnectionAllowanceStore.grant_self .., rfl, rfl⟩
    · simp [ran] at granted
    · simp [ran] at granted
  | respond answered accept clusterId =>
    simp only [clusterStep] at granted ⊢
    rcases onRespond_waiting (m := m) (s := s) answered accept clusterId with
      ran | ⟨this, offer, found, ran | ran⟩
    · simp [ran] at granted
    · rw [ran] at granted ⊢
      simp only [List.mem_cons, ClusterOutput.granted.injEq, reduceCtorEq, List.not_mem_nil,
        or_false] at granted
      obtain ⟨rfl, rfl, rfl⟩ := granted
      exact ⟨ConnectionAllowanceStore.grant_self .., rfl, this, offer, found, rfl⟩
    · simp [ran] at granted
  | route sender payload created =>
    simp only [clusterStep] at granted
    rcases onRoute_cases (m := m) (s := s) sender payload created with ran | ⟨-, ran⟩
    · simp [ran] at granted
    · rw [ran] at granted
      rcases onOffer_cases (m := m) (s := s) sender payload created with
        ran | ⟨_, _, -, ran⟩ | ⟨_, _, _, -, -, -, ran⟩
      · simp [ran] at granted
      · simp [ran] at granted
      · cases created <;> simp [ran] at granted
  | message | channelOpened | sendRequest => exact absurd rfl channel
  | _ => simp [clusterStep] at granted

/-- An offer that reaches its allowance, with what it finds there. -/
private theorem onOffer_reached (sender : String) (payload : Json) (created : Bool) :
    onOffer m s sender payload created = (s, []) ∨
      ∃ reqId, (payload.get "connect_req_id").bind Json.asStr = some reqId ∧
        offerRefusal m s sender payload = none ∧
        (onOffer m s sender payload created).1.connectionAllowances =
          (s.connectionAllowances.validateAndConsume s.now reqId sender).2 ∧
        ∀ model, (s.connectionAllowances.validateAndConsume s.now reqId sender).1 = some model →
          .approved sender reqId model ∈ (onOffer m s sender payload created).2 := by
  unfold onOffer
  split
  · rename_i reqId passed named
    refine .inr ⟨reqId, named, passed, ?_⟩
    cases ran : s.connectionAllowances.validateAndConsume s.now reqId sender with
    | mk result store =>
      cases result with
      | none => exact ⟨rfl, by simp⟩
      | some model => exact ⟨rfl, by simp⟩
  · exact .inl rfl

/-- A live grant outlives a step that keeps requesters apart, unless its requester
uses it or is approved again. -/
theorem clusterStep_keeps_grant {e : ClusterEvent} {reqId : String} {a : ConnectionAllowance}
    (stored : s.connectionAllowances reqId = some a) (fresh : s.now < a.expiresAt)
    (apart : KeepsApart m ((clusterMachine m).record s e))
    (unused : ∀ model, .approved a.requesterPeerId reqId model ∉ (clusterStep m s e).2)
    (notAgain : ∀ model, .granted reqId a.requesterPeerId model ∉ (clusterStep m s e).2) :
    (clusterStep m s e).1.connectionAllowances reqId = some a := by
  by_cases channel : e.isChannel = true
  · obtain ⟨same, -⟩ := clusterStep_channel (m := m) (s := s) channel
    exact (congrFun (congrArg LobbyState.connectionAllowances same) reqId).trans stored
  cases e with
  | connectOffer offered model requestedBy flags =>
    simp only [clusterStep] at unused notAgain ⊢
    rcases onConnectOffer_cases (m := m) (s := s) offered model requestedBy flags with
      ran | ran | ran
    · rw [ran] at notAgain ⊢
      by_cases same : reqId = offered
      · subst same
        obtain rfl := apart.grants a stored fresh
        exact absurd List.mem_cons_self (notAgain model)
      · exact ConnectionAllowanceStore.grant_other stored fresh same ..
    · rw [ran]
      exact stored
    · rw [ran]
      exact stored
  | respond answered accept clusterId =>
    simp only [clusterStep] at unused notAgain ⊢
    rcases onRespond_waiting (m := m) (s := s) answered accept clusterId with
      ran | ⟨this, offer, found, ran | ran⟩
    · rw [ran]
      exact stored
    · rw [ran] at notAgain ⊢
      by_cases same : reqId = answered
      · subst same
        have own := (apart this offer found).grants a stored fresh
        rw [own] at notAgain
        exact absurd List.mem_cons_self (notAgain offer.model)
      · exact ConnectionAllowanceStore.grant_other stored fresh same ..
    · rw [ran]
      exact stored
  | route sender payload created =>
    simp only [clusterStep] at unused notAgain ⊢
    rcases onRoute_cases (m := m) (s := s) sender payload created with ran | ⟨offer, ran⟩
    · rw [ran]
      exact stored
    · rw [ran] at unused ⊢
      rcases onOffer_reached (m := m) (s := s) sender payload created with
        ran | ⟨named, given, passed, left, approved⟩
      · rw [ran]
        exact stored
      · rw [left]
        by_cases same : reqId = named
        · subst same
          obtain rfl := (apart offer reqId given passed).grants a stored fresh
          have valid := (ConnectionAllowanceStore.validateAndConsume_once stored fresh).1
          exact absurd (approved a.model valid) (unused a.model)
        · exact ConnectionAllowanceStore.validateAndConsume_other stored fresh same sender
  | connectUpdate request status providerPeer flags =>
    simp only [clusterStep]
    rcases onConnectUpdate_cases (m := m) (s := s) request status providerPeer flags with
      ⟨peer, flags', ran⟩ | ran | ran
    all_goals
      rw [ran]
      exact stored
  | message | channelOpened | sendRequest => exact absurd rfl channel
  | _ => exact stored

/-- Time never runs backwards. -/
private theorem clusterStep_now (e : ClusterEvent) : s.now ≤ (clusterStep m s e).1.now := by
  by_cases channel : e.isChannel = true
  · obtain ⟨same, -⟩ := clusterStep_channel (m := m) (s := s) channel
    exact Nat.le_of_eq (congrArg LobbyState.now same).symm
  cases e with
  | connectOffer offered model requestedBy flags =>
    simp only [clusterStep]
    rcases onConnectOffer_cases (m := m) (s := s) offered model requestedBy flags with
      ran | ran | ran
    all_goals
      rw [ran]
      exact Nat.le_refl _
  | respond answered accept clusterId =>
    simp only [clusterStep]
    rcases onRespond_cases (m := m) (s := s) answered accept clusterId with
      ran | ⟨offer, -, -, -, ran⟩ | ran
    all_goals rw [ran] <;> exact Nat.le_refl _
  | route sender payload created =>
    simp only [clusterStep]
    rcases onRoute_cases (m := m) (s := s) sender payload created with ran | ⟨-, ran⟩
    · rw [ran]
    · rw [ran]
      rcases onOffer_cases (m := m) (s := s) sender payload created with
        ran | ⟨_, _, -, ran⟩ | ⟨_, _, _, -, -, -, ran⟩
      all_goals rw [ran] <;> exact Nat.le_refl _
  | connectUpdate request status providerPeer flags =>
    simp only [clusterStep]
    rcases onConnectUpdate_cases (m := m) (s := s) request status providerPeer flags with
      ⟨peer, flags', ran⟩ | ran | ran
    all_goals rw [ran] <;> exact Nat.le_refl _
  | elapsed time => exact Nat.le_add_right ..
  | message | channelOpened | sendRequest => exact absurd rfl channel
  | _ => exact Nat.le_refl _

/-- Another's event leaves a requester's waiting requests alone and approves none. -/
private theorem clusterStep_offers_kept {e : ClusterEvent} {requester : String}
    (apart : KeepsApart m ((clusterMachine m).record s e)) (acts : ActsFor m s requester e)
    {o : IncomingConnectionOffer} (waiting : o ∈ s.incomingConnectionOffers)
    (other : o.requestedBy ≠ requester) :
    o ∈ (clusterStep m s e).1.incomingConnectionOffers ∧
      ∀ reqId model, .granted reqId o.requestedBy model ∉ (clusterStep m s e).2 := by
  have noGrant : ∀ reqId model, .granted reqId o.requestedBy model ∉ (clusterStep m s e).2 := by
    intro reqId model granted
    have actsToo := (clusterStep_granted granted).2.2
    cases e with
    | connectOffer => exact other (actsToo.symm.trans acts)
    | respond =>
      obtain ⟨-, first, found, rfl⟩ := acts
      obtain ⟨-, second, found', same⟩ := actsToo
      obtain rfl := Option.some.inj (found.symm.trans found')
      exact other same.symm
    | route => exact other (actsToo.symm.trans acts)
    | _ => exact acts
  refine ⟨?_, noGrant⟩
  have stays : ∀ reqId, (o.reqId = reqId → o.requestedBy = requester) →
      o ∈ (s.dropOffer reqId).incomingConnectionOffers := by
    intro reqId own
    refine List.mem_filter.mpr ⟨waiting, ?_⟩
    simpa using fun same => other (own same)
  cases e with
  | connectOffer offered model requestedBy flags =>
    obtain rfl : requestedBy = requester := acts
    have left := stays offered (apart.offers o waiting)
    simp only [clusterStep]
    rcases onConnectOffer_cases (m := m) (s := s) offered model requestedBy flags with
      ran | ran | ran
    · rw [ran]
      exact left
    · rw [ran]
      exact left
    · rw [ran]
      exact List.mem_append_left _ left
  | respond answered accept clusterId =>
    obtain ⟨this, first, found, rfl⟩ := acts
    have left := stays answered ((apart this first found).offers o waiting)
    simp only [clusterStep]
    rcases onRespond_waiting (m := m) (s := s) answered accept clusterId with
      ran | ⟨-, offer, -, ran | ran⟩
    · rw [ran]
      exact waiting
    · rw [ran]
      exact left
    · rw [ran]
      exact left
  | route sender payload created =>
    simp only [clusterStep]
    rcases onRoute_cases (m := m) (s := s) sender payload created with ran | ⟨-, ran⟩
    · rw [ran]
      exact waiting
    · rw [ran]
      rcases onOffer_cases (m := m) (s := s) sender payload created with
        ran | ⟨_, _, -, ran⟩ | ⟨_, _, _, -, -, -, ran⟩
      all_goals
        rw [ran]
        exact waiting
  | _ => exact absurd acts id

/-! ## Runs -/

/-- Every open approval that is not expired is in the store. -/
def ApprovalsStored (past : List ClusterRecord) (s : ClusterState) : Prop :=
  ∀ reqId requester model granted, OpenApproval past reqId requester model granted →
    s.now < granted + connectionAllowanceTtl →
    s.connectionAllowances reqId = some ⟨requester, model, granted + connectionAllowanceTtl⟩

theorem approvalsStored_step {past : List ClusterRecord} (recorded : ApprovalsStored past s)
    {e : ClusterEvent} (apart : KeepsApart m ((clusterMachine m).record s e)) :
    ApprovalsStored ((clusterMachine m).record s e :: past) (clusterStep m s e).1 := by
  rintro reqId requester model granted ⟨newer, r, older, split, approved, rfl, own⟩ fresh
  cases newer with
  | nil =>
    obtain ⟨rfl, rfl⟩ := List.cons.inj split
    exact (clusterStep_granted approved).1
  | cons first newer =>
    obtain ⟨rfl, rfl⟩ := List.cons.inj split
    have open' : OpenApproval (newer ++ r :: older) reqId requester model r.before.now :=
      ⟨newer, r, older, rfl, approved, rfl,
        fun later member => own later (List.mem_cons_of_mem _ member)⟩
    have before : s.now < r.before.now + connectionAllowanceTtl :=
      Nat.lt_of_le_of_lt (clusterStep_now e) fresh
    have stored := recorded _ _ _ _ open' before
    obtain ⟨unused, notAgain⟩ := own _ List.mem_cons_self
    exact clusterStep_keeps_grant stored before apart unused notAgain

/-- Requesters whose ids never meet cost each other nothing, in any run. -/
theorem requesters_isolated (m : Manager) (proxy : ProxyState) (now : Nat)
    (events : List ClusterEvent)
    (apart : ∀ r ∈ ((clusterMachine m).history (.initial proxy now) events).1, KeepsApart m r) :
    Machine.Always (Isolated m) ((clusterMachine m).history (.initial proxy now) events).1 := by
  refine ((clusterMachine m).reaches_history _ events).always ApprovalsStored (KeepsApart m)
    ?_ (fun past s e recorded kept => approvalsStored_step recorded kept) ?_ apart
  · rintro reqId requester model granted ⟨newer, r, older, empty, -⟩
    simp at empty
  · intro past s e recorded kept
    refine ⟨?_, ?_⟩
    · intro reqId requester model granted approval fresh
      exact ConnectionAllowanceStore.validateAndConsume_once
        (recorded reqId requester model granted approval fresh) fresh
    · intro requester acts o waiting other
      exact clusterStep_offers_kept kept acts waiting other

/-- Two requesters with ids of their own, both approved and one connected. -/
theorem requesters_isolated_sample :
    Machine.Always (Isolated (sampleManager false false))
      ((clusterMachine (sampleManager false false)).history (.initial sampleProxy 0)
        [.connectOffer "a1" "llama3" "alice" none, .connectOffer "b1" "mistral" "bob" none,
          .route "bob" (samplePayload "b1") true]).1 := by
  exact requesters_isolated _ _ _ _ (by decide)

/-- Both requesters count from one: the second approval replaces the first, which
then validates no more. -/
theorem colliding_ids_cost_approval :
    ¬ Machine.Always (Isolated (sampleManager false false))
      ((clusterMachine (sampleManager false false)).history (.initial sampleProxy 0)
        [.connectOffer "connect_1" "llama3" "alice" none,
          .connectOffer "connect_1" "mistral" "bob" none, .elapsed 1]).1 := by
  rintro ⟨isolated, -⟩
  refine absurd (isolated.approvals "connect_1" "alice" "llama3" 0 ?_ (by decide)).1
    (by decide)
  refine ⟨[_], _, [], rfl, List.mem_cons_self, rfl, ?_⟩
  intro later member
  obtain rfl := List.mem_singleton.mp member
  constructor <;> intro model' named
  · have listed : .approved "alice" "connect_1" model' ∈ [ClusterOutput.granted "connect_1" "bob"
      "mistral", .answered "connect_1" true] := named
    simp at listed
  · have listed : .granted "connect_1" "alice" model' ∈ [ClusterOutput.granted "connect_1" "bob"
      "mistral", .answered "connect_1" true] := named
    simp at listed

end MtrxPeer
