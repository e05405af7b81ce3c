import MtrxPeer.MemberOrder
import MtrxPeer.PeerPolicy

/-! The ranking of a swarm's peers for a model: which peers it lists, and in which order. -/
namespace MtrxPeer

variable {Score : Type}

/-- `peer_load_score` and `partial_cmp` of its results, from the protocol's crate. -/
structure LoadScoring (Score : Type) where
  peerLoadScore : Json → Option Json → Score
  partialCmp : Score → Score → Option Ordering

/-- What a peer is ranked by: its place among attested peers, whether it has the model loaded,
its latency and its load. -/
structure RankCandidate (Score : Type) where
  peerId : String
  teeRank : Bool
  loaded : Bool
  rtt : Nat
  loadScore : Score

/-- The first of a peer's entries with the model's name. -/
def CachedPeerRecord.modelEntry (peer : CachedPeerRecord) (model : String) : Option Json :=
  peer.models.find? fun entry => (entry.get "name").bind Json.asStr = some model

/-- The candidate that a peer is with its entry for the model. A peer never measured has
latency `u64::MAX / 2`. -/
def rankCandidate (scoring : LoadScoring Score) (latencyMs : String → Option Nat)
    (peer : CachedPeerRecord) (modelEntry : Json) : RankCandidate Score where
  peerId := peer.peerId
  teeRank := peer.teeCapable || peer.trustLevel == some "tee_gpu"
  loaded := (((modelEntry.get "_status").bind (Json.get · "loaded")).bind Json.asBool).getD false
  rtt := (latencyMs peer.peerId).getD ((2 ^ 64 - 1) / 2)
  loadScore := scoring.peerLoadScore modelEntry peer.gpuHost

/-- The loop's body: the checks in the order in which the code makes them. -/
def swarmCandidate (scoring : LoadScoring Score) (model requesterPeerId : String)
    (blocked : String → Bool) (latencyMs : String → Option Nat) (requireTee : Bool)
    (peer : CachedPeerRecord) : Option (RankCandidate Score) :=
  if peer.peerId = requesterPeerId then none
  else if blocked peer.peerId then none
  else if !peer.acceptingJobs then none
  else if requireTee && !peer.teeCapable then none
  else (peer.modelEntry model).map (rankCandidate scoring latencyMs peer)

/-- The comparison of load scores; scores that do not compare count as equal. -/
def LoadScoring.compareLoad (scoring : LoadScoring Score) (left right : RankCandidate Score) :
    Ordering :=
  (scoring.partialCmp left.loadScore right.loadScore).getD .eq

/-- The comparison that the candidates are sorted by. -/
def LoadScoring.compareCandidates (scoring : LoadScoring Score) (a b : RankCandidate Score) :
    Ordering :=
  (((compare b.teeRank a.teeRank).then (compare b.loaded a.loaded)).then
    (compare a.rtt b.rtt)).then (scoring.compareLoad a b)

/-- The candidates among the peers. -/
def swarmCandidates (scoring : LoadScoring Score) (model : String) (peers : List CachedPeerRecord)
    (requesterPeerId : String) (blocked : String → Bool) (latencyMs : String → Option Nat)
    (requireTee : Bool) : List (RankCandidate Score) :=
  peers.filterMap (swarmCandidate scoring model requesterPeerId blocked latencyMs requireTee)

/-- `rank_swarm_peers_for_model_with_tee`. -/
def rankSwarmPeers (scoring : LoadScoring Score) (model : String) (peers : List CachedPeerRecord)
    (requesterPeerId : String) (blocked : String → Bool) (latencyMs : String → Option Nat)
    (requireTee : Bool) : List String :=
  ((swarmCandidates scoring model peers requesterPeerId blocked latencyMs requireTee).mergeSort
    fun a b => (scoring.compareCandidates a b).isLE).map RankCandidate.peerId

/-! ## What is ranked -/

/-- A peer that a request for the model may go to. -/
structure Eligible (model requesterPeerId : String) (blocked : String → Bool) (requireTee : Bool)
    (peer : CachedPeerRecord) : Prop where
  lists : ∃ entry ∈ peer.models, (entry.get "name").bind Json.asStr = some model
  accepting : peer.acceptingJobs = true
  free : blocked peer.peerId = false
  other : peer.peerId ≠ requesterPeerId
  attested : requireTee = true → peer.teeCapable = true

/-- One candidate is not worse than another: at the first of attestation, model loaded and
latency where they differ it is the better one, or they do not differ there and its load
does not compare as greater. -/
inductive NotWorse (scoring : LoadScoring Score) (a b : RankCandidate Score) : Prop
  | attested (better : a.teeRank = true) (worse : b.teeRank = false)
  | loaded (attested : a.teeRank = b.teeRank) (better : a.loaded = true) (worse : b.loaded = false)
  | nearer (attested : a.teeRank = b.teeRank) (loaded : a.loaded = b.loaded) (better : a.rtt < b.rtt)
  | load (attested : a.teeRank = b.teeRank) (loaded : a.loaded = b.loaded) (near : a.rtt = b.rtt)
      (better : scoring.compareLoad a b ≠ .gt)

/-- The ids are those of the eligible peers, each once, and none comes before a better one. -/
structure RankedRight (scoring : LoadScoring Score) (model : String) (peers : List CachedPeerRecord)
    (requesterPeerId : String) (blocked : String → Bool) (latencyMs : String → Option Nat)
    (requireTee : Bool) (ranked : List String) : Prop where
  eligible : ∀ id, id ∈ ranked ↔
    ∃ peer ∈ peers, peer.peerId = id ∧ Eligible model requesterPeerId blocked requireTee peer
  once : ranked.Nodup
  ordered : ranked.Pairwise fun earlier later => ∀ a ∈ peers, ∀ b ∈ peers,
    a.peerId = earlier → b.peerId = later → ∀ entryA ∈ a.modelEntry model,
      ∀ entryB ∈ b.modelEntry model,
        NotWorse scoring (rankCandidate scoring latencyMs a entryA)
          (rankCandidate scoring latencyMs b entryB)

/-! ## The candidates -/

variable {scoring : LoadScoring Score} {model requesterPeerId : String} {blocked : String → Bool}
  {latencyMs : String → Option Nat} {requireTee : Bool} {peers : List CachedPeerRecord}

private theorem modelEntry_lists {peer : CachedPeerRecord} {entry : Json}
    (found : peer.modelEntry model = some entry) :
    ∃ entry ∈ peer.models, (entry.get "name").bind Json.asStr = some model :=
  ⟨entry, List.mem_of_find?_eq_some found, by simpa using List.find?_some found⟩

private theorem modelEntry_found {peer : CachedPeerRecord}
    (lists : ∃ entry ∈ peer.models, (entry.get "name").bind Json.asStr = some model) :
    ∃ entry, peer.modelEntry model = some entry := by
  rw [← Option.isSome_iff_exists, CachedPeerRecord.modelEntry, List.find?_isSome]
  simpa using lists

/-- A peer is a candidate just when it is eligible, with its first entry for the model. -/
theorem swarmCandidate_some {peer : CachedPeerRecord} {candidate : RankCandidate Score} :
    swarmCandidate scoring model requesterPeerId blocked latencyMs requireTee peer = some candidate ↔
      Eligible model requesterPeerId blocked requireTee peer ∧
        ∃ entry ∈ peer.modelEntry model, rankCandidate scoring latencyMs peer entry = candidate := by
  unfold swarmCandidate
  constructor
  · intro made
    split_ifs at made with other free accepting attested
    obtain ⟨entry, found, same⟩ := Option.map_eq_some_iff.mp made
    refine ⟨⟨modelEntry_lists found, by simpa using accepting, by simpa using free, other, ?_⟩,
      entry, found, same⟩
    intro required
    simpa [required] using attested
  · rintro ⟨⟨-, accepting, free, other, attested⟩, entry, found, same⟩
    have passes : ¬ (requireTee && !peer.teeCapable) = true := by
      intro fails
      simp [attested (Bool.and_eq_true_iff.mp fails).1] at fails
    rw [if_neg other, if_neg (by simp [free]), if_neg (by simp [accepting]), if_neg passes,
      Option.mem_def.mp found, Option.map_some, same]

private theorem swarmCandidate_peerId {peer : CachedPeerRecord} {candidate : RankCandidate Score}
    (made : swarmCandidate scoring model requesterPeerId blocked latencyMs requireTee peer =
      some candidate) : candidate.peerId = peer.peerId := by
  obtain ⟨-, entry, -, rfl⟩ := swarmCandidate_some.mp made
  rfl

/-- The candidates of distinct peers have distinct ids. -/
theorem swarmCandidates_nodup (distinct : (peers.map CachedPeerRecord.peerId).Nodup) :
    ((swarmCandidates scoring model peers requesterPeerId blocked latencyMs requireTee).map
      RankCandidate.peerId).Nodup := by
  rw [List.Nodup, List.pairwise_map] at distinct ⊢
  refine List.Pairwise.filterMap _ ?_ distinct
  intro peer other apart candidate made second also
  rw [swarmCandidate_peerId made, swarmCandidate_peerId also]
  exact apart

/-! ## The order -/

private theorem compare_bool_lt {worse better : Bool} :
    compare worse better = .lt ↔ better = true ∧ worse = false := by
  cases worse <;> cases better <;> decide

/-- The comparison puts a candidate first just when it is not worse. -/
theorem compareCandidates_isLE {a b : RankCandidate Score} :
    (scoring.compareCandidates a b).isLE = true ↔ NotWorse scoring a b := by
  rw [LoadScoring.compareCandidates, Ordering.isLE_then_iff_or, Ordering.isLE_iff_ne_gt]
  simp only [Ordering.then_eq_lt, Ordering.then_eq_eq, compare_bool_lt, Nat.compare_eq_lt,
    Std.LawfulEqCmp.compare_eq_iff_eq]
  constructor
  · rintro (((⟨better, worse⟩ | ⟨attested, better, worse⟩) | ⟨⟨attested, loaded⟩, better⟩) |
      ⟨⟨⟨attested, loaded⟩, near⟩, better⟩)
    · exact .attested better worse
    · exact .loaded attested.symm better worse
    · exact .nearer attested.symm loaded.symm better
    · exact .load attested.symm loaded.symm near better
  · intro notWorse
    cases notWorse with
    | attested better worse => exact .inl (.inl (.inl ⟨better, worse⟩))
    | loaded attested better worse => exact .inl (.inl (.inr ⟨attested.symm, better, worse⟩))
    | nearer attested loaded better => exact .inl (.inr ⟨⟨attested.symm, loaded.symm⟩, better⟩)
    | load attested loaded near better =>
      exact .inr ⟨⟨⟨attested.symm, loaded.symm⟩, near⟩, better⟩

/-- With load scores that compare as a total preorder, so do the candidates. -/
theorem compareCandidates_orders {candidates : List (RankCandidate Score)}
    (total : OrdersMembers scoring.compareLoad candidates) :
    OrdersMembers scoring.compareCandidates candidates := by
  have attested : OrdersMembers (compareOn RankCandidate.teeRank) candidates := .by_key _
  have loaded : OrdersMembers (compareOn RankCandidate.loaded) candidates := .by_key _
  have near : OrdersMembers (compareOn RankCandidate.rtt) candidates := .by_key _
  exact ((attested.reversed.lex loaded.reversed).lex near).lex total

/-! ## The ranking -/

/-- Every two candidates stand in an order in which the first is not worse. -/
theorem rankedCandidates_ordered {candidates : List (RankCandidate Score)}
    (total : OrdersMembers scoring.compareLoad candidates) :
    (candidates.mergeSort fun a b => (scoring.compareCandidates a b).isLE).Pairwise
      (NotWorse scoring) := by
  refine (compareCandidates_orders total).pairwise_mergeSort.imp ?_
  intro a b
  exact compareCandidates_isLE.mp

private theorem mem_swarmCandidates {candidate : RankCandidate Score} :
    candidate ∈ swarmCandidates scoring model peers requesterPeerId blocked latencyMs requireTee ↔
      ∃ peer ∈ peers, Eligible model requesterPeerId blocked requireTee peer ∧
        ∃ entry ∈ peer.modelEntry model, rankCandidate scoring latencyMs peer entry = candidate := by
  simp only [swarmCandidates, List.mem_filterMap, swarmCandidate_some]

/-- Peers of which two differ in latency only. -/
private def rankSample : List CachedPeerRecord :=
  let entry : Json := .obj [("name", .str "llama3"), ("_status", .obj [("loaded", .bool true)])]
  let peer (id : String) (teeCapable : Bool) : CachedPeerRecord :=
    ⟨id, [entry], none, none, true, [], teeCapable, none, none, none⟩
  [peer "far" false, peer "me" false, peer "near" false, peer "attested" true]

/-- Peers with one entry and no GPU host have one load score. -/
private def oneScore : LoadScoring Nat := ⟨fun _ _ => 0, fun left right => some (compare left right)⟩

/-- The order of the candidates as an order of peers. -/
def LoadScoring.peerAhead (scoring : LoadScoring Score) (model : String)
    (latencyMs : String → Option Nat) (left right : CachedPeerRecord) : Bool :=
  (scoring.compareCandidates
    (rankCandidate scoring latencyMs left ((left.modelEntry model).getD .null))
    (rankCandidate scoring latencyMs right ((right.modelEntry model).getD .null))).isLE

private theorem swarmCandidate_serves (peer : CachedPeerRecord) :
    swarmCandidate scoring model requesterPeerId blocked latencyMs requireTee peer =
      if peer.peerId ≠ requesterPeerId && !blocked peer.peerId &&
          !(requireTee && !peer.teeCapable) && peer.serves model then
        some (rankCandidate scoring latencyMs peer ((peer.modelEntry model).getD .null))
      else none := by
  have listed : (peer.models.any fun entry => (entry.get "name").bind Json.asStr = some model) =
      (peer.modelEntry model).isSome := by
    rw [CachedPeerRecord.modelEntry, Bool.eq_iff_iff, List.find?_isSome, List.any_eq_true]
  rw [CachedPeerRecord.serves, listed, swarmCandidate]
  cases peer.modelEntry model with
  | none => simp
  | some entry => split_ifs <;> simp_all

/-- It is the ranking from which the consumer's policy takes a request's provider. -/
theorem rankSwarmPeers_policy (scoring : LoadScoring Score) (model : String)
    (peers : List CachedPeerRecord) (requesterPeerId : String) (blocked : String → Bool)
    (latencyMs : String → Option Nat) (requireTee : Bool) :
    rankSwarmPeers scoring model peers requesterPeerId blocked latencyMs requireTee =
      rankSwarmPeersForModelWithTee (scoring.peerAhead model latencyMs) model peers
        requesterPeerId blocked requireTee := by
  rw [rankSwarmPeersForModelWithTee]
  generalize kept : (peers.filter fun peer => peer.peerId ≠ requesterPeerId &&
    !blocked peer.peerId && !(requireTee && !peer.teeCapable) && peer.serves model) = eligible
  have candidates : swarmCandidates scoring model peers requesterPeerId blocked latencyMs requireTee =
      eligible.map fun peer =>
        rankCandidate scoring latencyMs peer ((peer.modelEntry model).getD .null) := by
    rw [← kept, ← List.filterMap_eq_map, List.filterMap_filter, swarmCandidates]
    exact List.filterMap_congr fun peer _ => swarmCandidate_serves peer
  have sorted := List.map_mergeSort (l := eligible) (r := scoring.peerAhead model latencyMs)
    (s := fun a b => (scoring.compareCandidates a b).isLE)
    (f := fun peer => rankCandidate scoring latencyMs peer ((peer.modelEntry model).getD .null))
    (fun _ _ _ _ => rfl)
  rw [rankSwarmPeers, candidates, ← sorted, List.map_map]
  rfl

end MtrxPeer
