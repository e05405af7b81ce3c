import MtrxPeer.CatalogAdvertising
import MtrxPeer.MessageSizes

/-! A catalog message made to fit the gossip limit: what is left out of it, in which order, and
when it fits in the end. -/
namespace MtrxPeer

/-! ## The message -/

/-- `GossipMessage::CatalogUpdate`. The two records are the JSON that they are written as. -/
structure CatalogUpdate where
  peerId : String
  models : List Json
  peerInfo : Option Json
  gpuHost : Option Json
  acceptingJobs : Bool
  listenAddrs : List String
  teeCapable : Option Bool
  gpuModel : Option String
  attestationExpiry : Option Nat
  trustLevel : Option String
  providerStaticPk : Option String

namespace CatalogUpdate

/-- A field that is left out if there is none. -/
def optional (key : String) (value : Option Json) : List (String × Json) :=
  (value.map fun value => (key, value)).toList

def fields (u : CatalogUpdate) : List (String × Json) :=
  [("type", .str "catalog_update"), ("peer_id", .str u.peerId), ("models", .arr u.models)] ++
    optional "peer_info" u.peerInfo ++ optional "gpu_host" u.gpuHost ++
    [("accepting_jobs", .bool u.acceptingJobs)] ++
    optional "listen_addrs" (if u.listenAddrs = [] then none else some (.arr (u.listenAddrs.map .str))) ++
    optional "tee_capable" (u.teeCapable.map .bool) ++ optional "gpu_model" (u.gpuModel.map .str) ++
    optional "attestation_expiry" (u.attestationExpiry.map .ofNat) ++
    optional "trust_level" (u.trustLevel.map .str) ++
    optional "provider_static_pk" (u.providerStaticPk.map .str)

/-- `encode_gossip`. -/
def encodeGossip (u : CatalogUpdate) : Bytes := utf8 (Json.obj u.fields).toText

/-- The encoded message is within a limit. -/
def Fits (limit : Nat) (u : CatalogUpdate) : Prop := u.encodeGossip.length ≤ limit

instance (limit : Nat) (u : CatalogUpdate) : Decidable (u.Fits limit) :=
  inferInstanceAs (Decidable (_ ≤ _))

/-- `fit_catalog_gossip`, for any limit. -/
def fitWithin (limit : Nat) (u : CatalogUpdate) : CatalogUpdate :=
  if u.Fits limit then u
  else if u.gpuHost.isSome then fitWithin limit { u with gpuHost := none }
  else if u.peerInfo.isSome then fitWithin limit { u with peerInfo := none }
  else if 1 < u.models.length then fitWithin limit { u with models := u.models.take (u.models.length / 2) }
  else { u with models := [] }
termination_by u.gpuHost.isSome.toNat + u.peerInfo.isSome.toNat + u.models.length
decreasing_by
  all_goals simp_all
  omega

/-- `fit_catalog_gossip`. -/
def fitCatalogGossip (u : CatalogUpdate) : CatalogUpdate := u.fitWithin gossipCatalogMaxBytes

/-- The message without models and without the two records. -/
def bare (u : CatalogUpdate) : CatalogUpdate := { u with models := [], peerInfo := none, gpuHost := none }

/-- The message without models and without any field that may be left out. -/
def required (u : CatalogUpdate) : CatalogUpdate :=
  { u.bare with
    listenAddrs := [], teeCapable := none, gpuModel := none, attestationExpiry := none
    trustLevel := none, providerStaticPk := none }

end CatalogUpdate

/-- How a message is made to fit: the gpu record goes first, then the peer record, then models from
the end, each only if the message does not fit without. -/
structure Fitted (limit : Nat) (given fitted : CatalogUpdate) : Prop where
  models : fitted.models <+: given.models
  gpuFirst : fitted.gpuHost = given.gpuHost ∨ fitted.gpuHost = none ∧ ¬given.Fits limit
  peerNext : fitted.peerInfo = given.peerInfo ∨ fitted.peerInfo = none ∧ fitted.gpuHost = none ∧
    ¬CatalogUpdate.Fits limit { given with gpuHost := none }
  modelsLast : fitted.models = given.models ∨ fitted.gpuHost = none ∧ fitted.peerInfo = none ∧
    ¬CatalogUpdate.Fits limit { given with gpuHost := none, peerInfo := none }
  others : fitted = { given with
    models := fitted.models, peerInfo := fitted.peerInfo, gpuHost := fitted.gpuHost }
  whole : given.Fits limit → fitted = given
  within : given.bare.Fits limit → fitted.Fits limit

/-! ## Fitting -/

namespace CatalogUpdate

private theorem without_gpu {u : CatalogUpdate} (none_ : u.gpuHost = none) :
    { u with gpuHost := none } = u := by
  cases u
  cases none_
  rfl

private theorem without_records {u : CatalogUpdate} (noGpu : u.gpuHost = none) (noPeer : u.peerInfo = none) :
    { u with gpuHost := none, peerInfo := none } = u := by
  cases u
  cases noGpu
  cases noPeer
  rfl

/-- What is fitted of a message without its gpu record. -/
private theorem fitted_gpu {limit : Nat} {u fitted : CatalogUpdate} (wide : ¬u.Fits limit)
    (next : Fitted limit { u with gpuHost := none } fitted) : Fitted limit u fitted where
  models := next.models
  gpuFirst := by
    rcases next.gpuFirst with none_ | ⟨none_, -⟩
    · exact .inr ⟨none_, wide⟩
    · exact .inr ⟨none_, wide⟩
  peerNext := next.peerNext
  modelsLast := next.modelsLast
  others := next.others
  whole fits := absurd fits wide
  within := next.within

/-- What is fitted of a message without its peer record, once it has no gpu record. -/
private theorem fitted_peer {limit : Nat} {u fitted : CatalogUpdate} (wide : ¬u.Fits limit)
    (noGpu : u.gpuHost = none) (next : Fitted limit { u with peerInfo := none } fitted) :
    Fitted limit u fitted := by
  have gpu : fitted.gpuHost = none := by
    rcases next.gpuFirst with same | ⟨none_, -⟩
    · exact same.trans noGpu
    · exact none_
  have peer : fitted.peerInfo = none := by
    rcases next.peerNext with same | ⟨none_, -⟩
    · exact same
    · exact none_
  exact {
    models := next.models
    gpuFirst := .inl (gpu.trans noGpu.symm)
    peerNext := .inr ⟨peer, gpu, by rw [without_gpu noGpu]; exact wide⟩
    modelsLast := next.modelsLast
    others := next.others
    whole := fun fits => absurd fits wide
    within := next.within }

/-- What is fitted of a message with fewer models, once it has no records. -/
private theorem fitted_models {limit : Nat} {u fitted : CatalogUpdate} {kept : List Json}
    (wide : ¬u.Fits limit) (noGpu : u.gpuHost = none) (noPeer : u.peerInfo = none)
    (front : kept <+: u.models) (next : Fitted limit { u with models := kept } fitted) :
    Fitted limit u fitted := by
  have gpu : fitted.gpuHost = none := by
    rcases next.gpuFirst with same | ⟨none_, -⟩
    · exact same.trans noGpu
    · exact none_
  have peer : fitted.peerInfo = none := by
    rcases next.peerNext with same | ⟨none_, -⟩
    · exact same.trans noPeer
    · exact none_
  exact {
    models := next.models.trans front
    gpuFirst := .inl (gpu.trans noGpu.symm)
    peerNext := .inl (peer.trans noPeer.symm)
    modelsLast := .inr ⟨gpu, peer, by rw [without_records noGpu noPeer]; exact wide⟩
    others := next.others
    whole := fun fits => absurd fits wide
    within := next.within }

/-- A message of any size is fitted to any limit: it is within the limit if it is so without its
models and the two records. -/
theorem fitWithin_fitted (limit : Nat) (u : CatalogUpdate) : Fitted limit u (u.fitWithin limit) := by
  fun_induction fitWithin limit u with
  | case1 u fits =>
    exact ⟨List.prefix_refl _, .inl rfl, .inl rfl, .inl rfl, rfl, fun _ => rfl, fun _ => fits⟩
  | case2 u wide _ ih => exact fitted_gpu wide ih
  | case3 u wide noGpu _ ih => exact fitted_peer wide (Option.not_isSome_iff_eq_none.mp noGpu) ih
  | case4 u wide noGpu noPeer _ ih =>
    exact fitted_models wide (Option.not_isSome_iff_eq_none.mp noGpu) (Option.not_isSome_iff_eq_none.mp noPeer)
      (List.take_prefix _ _) ih
  | case5 u wide noGpu noPeer _ =>
    have gpu := Option.not_isSome_iff_eq_none.mp noGpu
    have peer := Option.not_isSome_iff_eq_none.mp noPeer
    have bare : u.bare = { u with models := [] } :=
      congrArg (fun u : CatalogUpdate => { u with models := [] }) (without_records gpu peer)
    exact {
      models := List.nil_prefix
      gpuFirst := .inl rfl
      peerNext := .inl rfl
      modelsLast := .inr ⟨gpu, peer, by rw [without_records gpu peer]; exact wide⟩
      others := rfl
      whole := fun fits => absurd fits wide
      within := fun fits => bare ▸ fits }

private theorem fitWithin_trustLevel (u : CatalogUpdate) (limit : Nat) :
    (u.fitWithin limit).trustLevel = u.trustLevel := by
  fun_induction fitWithin limit u with
  | case1 | case5 => rfl
  | case2 _ _ _ ih => exact ih
  | case3 _ _ _ _ ih => exact ih
  | case4 _ _ _ _ _ ih => exact ih

/-! ## The node's messages -/

/-- The contents of a message that an announcement fills in. -/
def around (u : CatalogUpdate) (contents : CatalogContents) : CatalogUpdate :=
  { u with
    models := contents.models.map (·.json), peerInfo := contents.peerInfo, gpuHost := contents.gpuHost }

/-- An announcement is fitted as the message around it. -/
theorem fitCatalogGossip_around (u : CatalogUpdate) {host : CatalogHost}
    (length : ∀ contents, host.gossipLength contents = (u.around contents).encodeGossip.length)
    (contents : CatalogContents) :
    (u.around contents).fitCatalogGossip = u.around (MtrxPeer.fitCatalogGossip host contents) := by
  have within : ∀ contents, host.gossipLength contents ≤ gossipCatalogMaxBytes ↔
      (u.around contents).Fits gossipCatalogMaxBytes := fun contents => by rw [length, Fits]
  simp only [CatalogUpdate.fitCatalogGossip] at *
  fun_induction MtrxPeer.fitCatalogGossip host contents with
  | case1 contents fits => rw [fitWithin, if_pos ((within contents).mp fits)]
  | case2 contents wide gpu ih =>
    rw [fitWithin, if_neg (mt (within contents).mpr wide), if_pos (by exact gpu)]
    exact ih
  | case3 contents wide noGpu peer ih =>
    rw [fitWithin, if_neg (mt (within contents).mpr wide), if_neg (by exact noGpu), if_pos (by exact peer)]
    exact ih
  | case4 contents wide noGpu noPeer many ih =>
    have several : 1 < (u.around contents).models.length := by simpa [around] using many
    rw [fitWithin, if_neg (mt (within contents).mpr wide), if_neg (by exact noGpu), if_neg (by exact noPeer),
      if_pos several, ← ih]
    simp [around, List.map_take]
  | case5 contents wide noGpu noPeer few =>
    have single : ¬1 < (u.around contents).models.length := by simpa [around] using few
    rw [fitWithin, if_neg (mt (within contents).mpr wide), if_neg (by exact noGpu), if_neg (by exact noPeer),
      if_neg single]
    rfl

end CatalogUpdate

/-! ## A long text -/

private def trusted (trustLevel : String) : CatalogUpdate where
  peerId := "p"
  models := []
  peerInfo := none
  gpuHost := none
  acceptingJobs := true
  listenAddrs := []
  teeCapable := none
  gpuModel := none
  attestationExpiry := none
  trustLevel
  providerStaticPk := none

private theorem encodeGossip_length (u : CatalogUpdate) : u.encodeGossip.length = (Json.obj u.fields).size := by
  rw [CatalogUpdate.encodeGossip, utf8_length]
  rfl

private theorem trusted_required (trustLevel : String) :
    (trusted trustLevel).required.Fits gossipCatalogMaxBytes := by
  have same : (trusted trustLevel).required = (trusted "").required := rfl
  rw [same, CatalogUpdate.Fits, encodeGossip_length]
  decide +kernel

/-- The level of trust is sent as it is. -/
private theorem trusted_long {n : Nat} (limit : Nat) (long : limit ≤ n) :
    ¬((trusted (String.ofList (List.replicate n 'a'))).fitWithin limit).Fits limit := by
  have kept : ((trusted (String.ofList (List.replicate n 'a'))).fitWithin limit).trustLevel =
      some (String.ofList (List.replicate n 'a')) := CatalogUpdate.fitWithin_trustLevel _ limit
  have inside : ("trust_level", Json.str (String.ofList (List.replicate n 'a'))) ∈
      ((trusted (String.ofList (List.replicate n 'a'))).fitWithin limit).fields := by
    simp [CatalogUpdate.fields, CatalogUpdate.optional, kept]
  have wide := size_le_obj inside
  have plain : Unescaped (String.ofList (List.replicate n 'a')) := by
    intro c member
    rw [String.toList_ofList] at member
    rw [List.eq_of_mem_replicate member]
    decide
  have bytes : (String.ofList (List.replicate n 'a')).utf8ByteSize = n := by
    have one : 'a'.utf8Size = 1 := rfl
    rw [utf8ByteSize_ofList, List.map_replicate, List.sum_replicate_nat, one, Nat.mul_one]
  rw [size_str, escapedSize_unescaped plain, bytes] at wide
  rw [CatalogUpdate.Fits, encodeGossip_length]
  omega

/-- The other optional fields stay, however long they are. -/
theorem long_trust_level_stays : ∃ u : CatalogUpdate,
    u.required.Fits gossipCatalogMaxBytes ∧ ¬u.fitCatalogGossip.Fits gossipCatalogMaxBytes :=
  ⟨trusted (String.ofList (List.replicate gossipCatalogMaxBytes 'a')), trusted_required _,
    trusted_long gossipCatalogMaxBytes (Nat.le_refl _)⟩

end MtrxPeer
