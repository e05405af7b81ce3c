import Mathlib.Data.List.Sort
import MtrxPeer.Sample
import MtrxPeer.SwarmOutbound

/-! The consumer's policy for providers in a swarm. It is looked at when a command
is handled; a request may go out long after, when its peer connects or when a
sending has failed. -/
namespace MtrxPeer

open Function (update update_of_ne update_self)

/-! ## The policy -/

/-- `require_tee` or `require_tee_for_inference`. -/
def teeRequired (host : Host) (config : ClientConfig) : Bool :=
  host.requireTee || config.requireTeeForInference.getD false

/-- The policy admits a peer: it is not blocked and, where a TEE is required, its
latest catalog says that it has one. -/
structure PolicyAllows (host : Host) (proxy : ProxyState) (tee : String → Bool) (peer : String) :
    Prop where
  notBlocked : proxy.isPeerBlocked peer = false
  tee : teeRequired host proxy.config = true → tee peer = true

instance (host : Host) (proxy : ProxyState) (tee : String → Bool) (peer : String) :
    Decidable (PolicyAllows host proxy tee peer) :=
  decidable_of_iff (proxy.isPeerBlocked peer = false ∧
      (teeRequired host proxy.config = true → tee peer = true))
    ⟨fun ⟨notBlocked, tee⟩ => ⟨notBlocked, tee⟩, fun ⟨notBlocked, tee⟩ => ⟨notBlocked, tee⟩⟩

/-- The latest catalog of a peer says that it has a TEE. -/
def SwarmState.teeCatalogued (s : SwarmState) (peer : String) : Bool :=
  (s.peerCache peer).any CachedPeerRecord.teeCapable

/-- The swarm's consumer admits a peer. -/
abbrev SwarmState.Allows (m : SwarmManager) (s : SwarmState) (peer : String) : Prop :=
  PolicyAllows m.host s.proxy s.teeCatalogued peer

/-! ## Ranking -/

/-- A peer takes jobs for a model. -/
def CachedPeerRecord.serves (record : CachedPeerRecord) (model : String) : Bool :=
  record.acceptingJobs &&
    record.models.any fun entry => (entry.get "name").bind Json.asStr = some model

/-- `rank_swarm_peers_for_model_with_tee`; `ahead` is the order that latency and
load give. -/
def rankSwarmPeersForModelWithTee (ahead : CachedPeerRecord → CachedPeerRecord → Bool)
    (model : String) (peers : List CachedPeerRecord) (requesterPeerId : String)
    (blocked : String → Bool) (requireTee : Bool) : List String :=
  ((peers.filter fun peer => peer.peerId ≠ requesterPeerId && !blocked peer.peerId &&
    !(requireTee && !peer.teeCapable) && peer.serves model).mergeSort ahead).map
      CachedPeerRecord.peerId

/-- A ranking of the peers in the cache and the peer itself, as they come. -/
def Ranking (m : SwarmManager) (s : SwarmState) (model : String) (ranked : List String) : Prop :=
  ∃ ahead peers self, self.peerId = m.peerId ∧
    (∀ record, record ∈ peers ↔ record = self ∨ ∃ peer, s.peerCache peer = some record) ∧
    ranked = rankSwarmPeersForModelWithTee ahead model peers m.peerId s.proxy.isPeerBlocked
      (teeRequired m.host s.proxy.config)

/-- The ranking of a command that names no provider is the code's. -/
def RankedByCode (m : SwarmManager) (r : SwarmRecord) : Prop :=
  match r.event with
  | .proxyCommand cmd ranked _ => cmd.targetPeer = none → Ranking m r.before cmd.model ranked
  | _ => True

/-! ## The law -/

/-- A command's request has an id and a target. -/
def RequestedIn (m : SwarmManager) (past : List SwarmRecord) (reqId target : String) : Prop :=
  ∃ r ∈ past, ∃ cmd ranked sending, r.event = .proxyCommand cmd ranked sending ∧
    Requests m r.before cmd ranked reqId target

/-- No peer that the policy allows can take a command. -/
def NoProvider (m : SwarmManager) (s : SwarmState) (cmd : ProxyRequestCommand) : Prop :=
  match cmd.targetPeer with
  | some peer => ¬ s.Allows m peer
  | none => ∀ peer record, s.peerCache peer = some record → peer ≠ m.peerId → s.Allows m peer →
    record.serves cmd.model = false

/-- What goes out is for a peer that the policy allows at that moment, and a
command without such a peer is answered with an error. -/
structure SentByPolicy (m : SwarmManager) (past : List SwarmRecord) (r : SwarmRecord) : Prop where
  sends : ∀ peer msg reqId, .send peer msg ∈ r.outputs → msg.requestId = some reqId →
    (∃ target, RequestedIn m (r :: past) reqId target) ∧
      ∀ target, RequestedIn m (r :: past) reqId target → r.before.Allows m target
  refused : ∀ cmd ranked sending, r.event = .proxyCommand cmd ranked sending →
    NoProvider m r.before cmd → ∃ error, .reject error ∈ r.outputs

/-- The policy never turns against the provider of a request under way, and a
provider named in a command has a TEE if one is required. -/
def PolicySettled (m : SwarmManager) (r : SwarmRecord) : Prop :=
  match r.event with
  | .proxyCommand cmd _ _ => ∀ peer ∈ cmd.targetPeer, commandTarget m r.before cmd [] = .ok peer →
      teeRequired m.host r.before.proxy.config = true → r.before.teeCatalogued peer = true
  | .proxyChanged proxy => ∀ pending, OnTheWay r.before pending →
      PolicyAllows m.host proxy r.before.teeCatalogued pending.targetMtrxaiPeer
  | .gossip _ record | .request _ (.catalogSync record) _ =>
      teeRequired m.host r.before.proxy.config = true → record.teeCapable ≠ some true →
        ∀ pending, OnTheWay r.before pending → pending.targetMtrxaiPeer ≠ record.peerId
  | _ => True

/-! ## One step -/

variable {m : SwarmManager} {s : SwarmState}

private theorem allows_of_same {s' : SwarmState} {peer : String} (proxy : s'.proxy = s.proxy)
    (tee : s'.teeCatalogued peer = s.teeCatalogued peer) (allows : s.Allows m peer) :
    s'.Allows m peer := by
  refine ⟨by rw [proxy]; exact allows.notBlocked, ?_⟩
  intro required
  rw [proxy] at required
  exact tee.trans (allows.tee required)

private theorem teeCatalogued_congr {s' : SwarmState} (cache : s'.peerCache = s.peerCache)
    (peer : String) : s'.teeCatalogued peer = s.teeCatalogued peer := by
  rw [SwarmState.teeCatalogued, SwarmState.teeCatalogued, cache]

/-- A step that settles the policy still allows who a request under way is for. -/
private theorem swarmStep_allows {e : SwarmEvent} {pending : PendingOutboundProxy}
    (settled : PolicySettled m ((swarmMachine m).record s e)) (under : OnTheWay s pending)
    (allows : s.Allows m pending.targetMtrxaiPeer) :
    (swarmStep m s e).1.Allows m pending.targetMtrxaiPeer := by
  have change := swarmStep_surroundings (m := m) (s := s) e
  generalize (swarmStep m s e).1 = s' at change ⊢
  obtain ⟨around, same⟩ : ∃ around, s'.surroundings = around := ⟨_, rfl⟩
  rw [same] at change
  have proxy : s'.proxy = around.proxy := congrArg Surroundings.proxy same
  have cache : s'.peerCache = around.peerCache := congrArg Surroundings.peerCache same
  cases change with
  | numbered => exact allows_of_same proxy (teeCatalogued_congr cache _) allows
  | established => exact allows_of_same proxy (teeCatalogued_congr cache _) allows
  | closed => exact allows_of_same proxy (teeCatalogued_congr cache _) allows
  | @catalog _ record brought other =>
    have apart : teeRequired m.host s.proxy.config = true → record.teeCapable ≠ some true →
        pending.targetMtrxaiPeer ≠ record.peerId := by
      intro required lacks
      cases e with
      | gossip =>
        obtain rfl := Option.some.inj brought
        exact settled required lacks pending under
      | request peer msg answers =>
        cases msg with
        | catalogSync =>
          obtain rfl := Option.some.inj brought
          exact settled required lacks pending under
        | _ => cases brought
      | _ => cases brought
    refine ⟨by rw [proxy]; exact allows.notBlocked, ?_⟩
    intro required
    rw [proxy] at required
    rw [SwarmState.teeCatalogued, cache]
    by_cases same : pending.targetMtrxaiPeer = record.peerId
    · have capable : record.teeCapable = some true := by
        by_contra lacks
        exact apart required lacks same
      simp [same, CatalogRecord.cached, capable]
    · dsimp only
      rw [update_of_ne same]
      exact allows.tee required
  | presence peers known =>
    refine allows_of_same proxy ?_ allows
    have record := congrArg (Option.any CachedPeerRecord.teeCapable) (known pending.targetMtrxaiPeer)
    rw [Option.any_map, Option.any_map] at record
    rw [SwarmState.teeCatalogued, cache]
    exact record
  | configured proxy' =>
    have admitted := settled pending under
    rw [SwarmState.Allows, proxy, show s'.teeCatalogued = s.teeCatalogued from
      funext (teeCatalogued_congr cache)]
    exact admitted

/-- The numbers of requests only grow. -/
theorem swarmStep_nextReqId (e : SwarmEvent) : s.nextReqId ≤ (swarmStep m s e).1.nextReqId := by
  have change := swarmStep_surroundings (m := m) (s := s) e
  change s.nextReqId ≤ (swarmStep m s e).1.surroundings.nextReqId
  generalize (swarmStep m s e).1.surroundings = after at change ⊢
  cases change with
  | numbered e grows => exact grows
  | _ => exact Nat.le_refl _

/-- Every record is kept under the name of its peer. -/
def CacheKeyed (cache : String → Option CachedPeerRecord) : Prop :=
  ∀ peer record, cache peer = some record → record.peerId = peer

private theorem swarmStep_keyed (e : SwarmEvent) (keyed : CacheKeyed s.peerCache) :
    CacheKeyed (swarmStep m s e).1.peerCache := by
  have change := swarmStep_surroundings (m := m) (s := s) e
  change CacheKeyed (swarmStep m s e).1.surroundings.peerCache
  generalize (swarmStep m s e).1.surroundings = after at change ⊢
  cases change with
  | @catalog _ record brought other =>
    intro peer known stored
    dsimp only at stored
    by_cases same : peer = record.peerId
    · rw [same, update_self] at stored
      obtain rfl := Option.some.inj stored
      exact same.symm
    · rw [update_of_ne same] at stored
      exact keyed peer known stored
  | presence peers known =>
    intro peer record stored
    have same := congrArg (Option.map CachedPeerRecord.unaddressed) stored
    obtain ⟨before, found, equal⟩ := Option.map_eq_some_iff.mp ((known peer).symm.trans same)
    exact (congrArg CachedPeerRecord.peerId equal).symm.trans (keyed peer before found)
  | _ => exact keyed

/-! ## Requests and their targets -/

private theorem requestedIn_cons {past : List SwarmRecord} {r : SwarmRecord} {reqId target : String} :
    RequestedIn m (r :: past) reqId target ↔
      (∃ cmd ranked sending, r.event = .proxyCommand cmd ranked sending ∧
        Requests m r.before cmd ranked reqId target) ∨ RequestedIn m past reqId target := by
  simp [RequestedIn]

/-- Ranked are the peers that the policy allows and that serve the model. -/
theorem mem_ranking {model peer : String} {ranked : List String} (keyed : CacheKeyed s.peerCache)
    (ranking : Ranking m s model ranked) :
    peer ∈ ranked ↔ peer ≠ m.peerId ∧ s.Allows m peer ∧
      ∃ record, s.peerCache peer = some record ∧ record.serves model = true := by
  obtain ⟨ahead, peers, self, own, lists, rfl⟩ := ranking
  simp only [rankSwarmPeersForModelWithTee, List.mem_map, List.mem_mergeSort, List.mem_filter,
    Bool.and_eq_true, ne_eq, decide_not, Bool.not_eq_eq_eq_not, Bool.not_true,
    decide_eq_false_iff_not, Bool.and_eq_false_imp, lists]
  constructor
  · rintro ⟨record, ⟨among, ⟨⟨other, free⟩, capable⟩, serves⟩, rfl⟩
    obtain ⟨peer, found⟩ := among.resolve_left (by rintro rfl; exact other own)
    obtain rfl := keyed peer record found
    refine ⟨other, ⟨free, ?_⟩, record, found, serves⟩
    intro required
    rw [SwarmState.teeCatalogued, found]
    simpa using capable required
  · rintro ⟨other, ⟨free, tee⟩, record, found, serves⟩
    obtain rfl := keyed peer record found
    refine ⟨record, ⟨.inr ⟨_, found⟩, ⟨⟨other, free⟩, ?_⟩, serves⟩, rfl⟩
    intro required
    have capable := tee required
    rw [SwarmState.teeCatalogued, found] at capable
    simpa using capable

/-- The ranking has no say in a command that names its provider. -/
private theorem commandTarget_named {cmd : ProxyRequestCommand} {peer : String}
    (named : cmd.targetPeer = some peer) (ranked : List String) :
    commandTarget m s cmd ranked = commandTarget m s cmd [] := by
  unfold commandTarget
  rw [named]
  cases cmd.swarmId.filter (· ≠ m.swarmId) <;> rfl

/-- Who a command is for is allowed. -/
private theorem commandTarget_allows {cmd : ProxyRequestCommand} {ranked : List String}
    {target : String} (keyed : CacheKeyed s.peerCache)
    (ranking : cmd.targetPeer = none → Ranking m s cmd.model ranked)
    (settled : ∀ peer ∈ cmd.targetPeer, commandTarget m s cmd [] = .ok peer →
      teeRequired m.host s.proxy.config = true → s.teeCatalogued peer = true)
    (chosen : commandTarget m s cmd ranked = .ok target) : s.Allows m target := by
  have again := chosen
  unfold commandTarget at chosen
  split at chosen
  · cases chosen
  · rename_i peer foreign named
    split at chosen
    · cases chosen
    · rename_i free
      obtain rfl := Except.ok.inj chosen
      exact ⟨by simpa using free, settled peer named (commandTarget_named named _ ▸ again)⟩
  · rename_i foreign unnamed
    obtain rfl := Except.ok.inj chosen
    exact ((mem_ranking keyed (ranking unnamed)).mp List.mem_cons_self).2.1
  · cases chosen

/-- A command that no allowed peer can take is turned down. -/
private theorem onProxyCommand_refused {cmd : ProxyRequestCommand} {ranked : List String}
    (sending : Sending) (keyed : CacheKeyed s.peerCache)
    (ranking : cmd.targetPeer = none → Ranking m s cmd.model ranked)
    (settled : ∀ peer ∈ cmd.targetPeer, commandTarget m s cmd [] = .ok peer →
      teeRequired m.host s.proxy.config = true → s.teeCatalogued peer = true)
    (without : NoProvider m s cmd) :
    ∃ error, .reject error ∈ (onProxyCommand m s cmd ranked sending).2 := by
  cases chosen : commandTarget m s cmd ranked with
  | error error =>
    refine ⟨error, ?_⟩
    rw [onProxyCommand, chosen]
    exact List.mem_cons_self
  | ok target =>
    exfalso
    have allows := commandTarget_allows keyed ranking settled chosen
    unfold commandTarget at chosen
    split at chosen
    · cases chosen
    · rename_i peer foreign named
      rw [NoProvider, named] at without
      split at chosen
      · cases chosen
      · obtain rfl := Except.ok.inj chosen
        exact without allows
    · rename_i best rest foreign unnamed
      obtain rfl := Except.ok.inj chosen
      obtain ⟨other, -, record, found, serves⟩ :=
        (mem_ranking keyed (ranking unnamed)).mp List.mem_cons_self
      rw [NoProvider, unnamed] at without
      rw [without best record found other allows] at serves
      cases serves
    · cases chosen

/-! ## Runs -/

/-- Requests under way are for allowed peers, each under a number of its own. -/
structure PolicyKept (m : SwarmManager) (past : List SwarmRecord) (s : SwarmState) : Prop where
  outbound : Outbound (fun reqId target => RequestedIn m past reqId target ∧ s.Allows m target) s
  keyed : CacheKeyed s.peerCache
  numbered : ∀ reqId target, RequestedIn m past reqId target →
    ∃ n < s.nextReqId, reqId = "p2p_" ++ toString n
  unique : ∀ reqId target target', RequestedIn m past reqId target →
    RequestedIn m past reqId target' → target = target'

/-- Numbers are told apart by their texts after any beginning. -/
theorem numbered_inj {start : String} {n k : Nat} (same : start ++ toString n = start ++ toString k) :
    n = k := by
  have digits : Nat.toDigits 10 n = Nat.toDigits 10 k := by
    have text := (String.append_right_inj start).mp same
    rw [Nat.toString_eq_ofList_toDigits, Nat.toString_eq_ofList_toDigits] at text
    exact String.ofList_injective text
  have read := congrArg (fun text => Nat.ofDigitChars 10 text 0) digits
  simpa only [Nat.ofDigitChars_ten_toDigits] using read

theorem policyKept_step {past : List SwarmRecord} {e : SwarmEvent} (kept : PolicyKept m past s)
    (ranked : RankedByCode m ((swarmMachine m).record s e))
    (settled : PolicySettled m ((swarmMachine m).record s e)) :
    PolicyKept m ((swarmMachine m).record s e :: past) (swarmStep m s e).1 ∧
      SentByPolicy m past ((swarmMachine m).record s e) := by
  have grows := swarmStep_nextReqId (m := m) (s := s) e
  -- the request of a command is for an allowed peer and takes the next number
  have new : ∀ {cmd ranked sending reqId target}, e = .proxyCommand cmd ranked sending →
      Requests m s cmd ranked reqId target → s.Allows m target ∧
        (swarmStep m s e).1.Allows m target ∧ s.nextReqId < (swarmStep m s e).1.nextReqId := by
    rintro cmd ranking sending reqId target rfl ⟨chosen, small, -⟩
    have allows := commandTarget_allows kept.keyed ranked settled chosen
    have around := onProxyCommand_numbered sending chosen small
    refine ⟨allows, allows_of_same (congrArg Surroundings.proxy around)
      (teeCatalogued_congr (congrArg Surroundings.peerCache around) _) allows, ?_⟩
    exact Nat.lt_of_succ_le (Nat.le_of_eq (congrArg Surroundings.nextReqId around).symm)
  have older : ∀ {reqId target}, RequestedIn m past reqId target →
      RequestedIn m ((swarmMachine m).record s e :: past) reqId target :=
    fun requested => requestedIn_cons.mpr (.inr requested)
  have unique : ∀ reqId target target',
      RequestedIn m ((swarmMachine m).record s e :: past) reqId target →
      RequestedIn m ((swarmMachine m).record s e :: past) reqId target' → target = target' := by
    -- a number already given is below the next one
    have apart : ∀ {cmd ranked reqId target target'}, Requests m s cmd ranked reqId target →
        ¬ RequestedIn m past reqId target' := by
      rintro cmd ranked reqId target target' ⟨-, -, rfl⟩ requested
      obtain ⟨n, below, same⟩ := kept.numbered _ _ requested
      exact Nat.lt_irrefl _ (numbered_inj same ▸ below)
    intro reqId target target' first second
    rcases requestedIn_cons.mp first with ⟨cmd, ranked, sending, event, requests⟩ | before
    · rcases requestedIn_cons.mp second with ⟨cmd', ranked', sending', event', requests'⟩ | before'
      · obtain ⟨rfl, rfl, -⟩ := SwarmEvent.proxyCommand.inj (event.symm.trans event')
        exact Except.ok.inj (requests.1.symm.trans requests'.1)
      · exact absurd before' (apart requests)
    · rcases requestedIn_cons.mp second with ⟨cmd', ranked', sending', event', requests'⟩ | before'
      · exact absurd before (apart requests')
      · exact kept.unique reqId target target' before before'
  obtain ⟨tables, outputs⟩ : OutboundStep (fun reqId target =>
      RequestedIn m ((swarmMachine m).record s e :: past) reqId target ∧ s.Allows m target ∧
        (swarmStep m s e).1.Allows m target) (swarmStep m s e) := by
    refine swarmStep_outbound (kept.outbound.mono ?_) ?_
    · rintro pending under ⟨requested, allows⟩
      exact ⟨older requested, allows, swarmStep_allows settled under allows⟩
    · rintro cmd ranked sending event reqId target requests
      obtain ⟨before, after, -⟩ := new event requests
      exact ⟨requestedIn_cons.mpr (.inl ⟨cmd, ranked, sending, event, requests⟩), before, after⟩
  refine ⟨⟨tables.mono fun pending _ ⟨requested, _, after⟩ => ⟨requested, after⟩,
    swarmStep_keyed e kept.keyed, ?_, unique⟩, ?_, ?_⟩
  · intro reqId target requested
    rcases requestedIn_cons.mp requested with ⟨cmd, ranked, sending, event, requests⟩ | before
    · exact ⟨s.nextReqId, (new event requests).2.2, requests.2.2⟩
    · obtain ⟨n, below, same⟩ := kept.numbered reqId target before
      exact ⟨n, Nat.lt_of_lt_of_le below grows, same⟩
  · intro peer msg reqId sent named
    obtain ⟨target, requested, allows, -⟩ := outputs _ sent reqId named
    refine ⟨⟨target, requested⟩, ?_⟩
    intro target' requested'
    obtain rfl := unique reqId target target' requested requested'
    exact allows
  · rintro cmd ranking sending same without
    obtain rfl : e = .proxyCommand cmd ranking sending := same
    exact onProxyCommand_refused sending kept.keyed ranked settled without

/-- In a run in which the policy never turns against a request under way, every
request goes out to a peer that the policy allows. -/
theorem swarm_sends_by_policy (m : SwarmManager) (proxy : ProxyState) (nextReqId : Nat)
    (events : List SwarmEvent)
    (ranked : ∀ r ∈ ((swarmMachine m).history (.initial proxy nextReqId) events).1, RankedByCode m r)
    (settled : ∀ r ∈ ((swarmMachine m).history (.initial proxy nextReqId) events).1,
      PolicySettled m r) :
    Machine.Always (SentByPolicy m) ((swarmMachine m).history (.initial proxy nextReqId) events).1 := by
  refine ((swarmMachine m).reaches_history _ events).always (PolicyKept m)
    (fun r => RankedByCode m r ∧ PolicySettled m r) ?_ ?_ ?_
    fun r member => ⟨ranked r member, settled r member⟩
  · have never : ∀ reqId target, ¬ RequestedIn m [] reqId target := by
      simp [RequestedIn]
    exact ⟨outbound_initial proxy nextReqId, by rintro peer record ⟨⟩,
      fun reqId target requested => absurd requested (never _ _),
      fun reqId target target' requested => absurd requested (never _ _)⟩
  · rintro past s e kept ⟨byCode, settles⟩
    exact (policyKept_step kept byCode settles).1
  · rintro past s e kept ⟨byCode, settles⟩
    exact (policyKept_step kept byCode settles).2

end MtrxPeer
