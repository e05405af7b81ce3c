import MtrxPeer.ServerRegistry
import MtrxPeer.StoredConfig

/-! The setup of a node: the configuration it starts with, as the file, the environment and the
lobby make it, and when the setup counts as complete. -/
namespace MtrxPeer

/-! ## The configuration of a node -/

/-- The configuration without what a start neither reads nor changes. -/
structure NodeConfig where
  networks : StoredConfig
  serviceId : Option String
  servers : List ConfigServer
  llmUrl : Option String
  llmBackend : Option String
  setupComplete : Bool
  deriving DecidableEq

/-- The answer to a registration: the ids are texts of UUIDs. -/
structure RegisterPeerResponse where
  peerId : String
  serviceId : String
  named : peerId ≠ ""

def hasAttachedLlmServers (servers : List ConfigServer) : Bool := servers.any (·.attached)

namespace NodeConfig

/-- What `save_client_config` writes of it. -/
def persisted (cfg : NodeConfig) : NodeConfig :=
  { cfg with networks := { cfg.networks with cluster := none }, llmUrl := none, llmBackend := none }

def registered (cfg : NodeConfig) : Bool := cfg.networks.peerId.isSome && cfg.serviceId.isSome

/-- There is everything that makes a setup complete. -/
def ready (cfg : NodeConfig) : Bool :=
  cfg.registered && !cfg.networks.clusters.isEmpty && hasAttachedLlmServers cfg.servers

/-- The setup is recomputed from what there is. -/
def recompute (cfg : NodeConfig) : NodeConfig := { cfg with setupComplete := cfg.ready }

def applyRegisterResponse (cfg : NodeConfig) (reg : RegisterPeerResponse) : NodeConfig :=
  { cfg with
    networks := { cfg.networks with peerId := some reg.peerId }
    serviceId := some reg.serviceId }

def invalidateLocalPeerIdentity (cfg : NodeConfig) : NodeConfig :=
  { cfg with
    networks := { cfg.networks with peerId := none, clusters := [], swarms := [], cluster := none }
    serviceId := none
    setupComplete := false }

/-- A setup that is complete has the ids of the peer and of its service, and no peer has an
empty id. -/
structure Whole (cfg : NodeConfig) : Prop where
  named : cfg.networks.peerId ≠ some ""
  registered : cfg.setupComplete = true → cfg.registered = true

end NodeConfig

/-- The settings there are without a file. -/
def defaultSettings : StoredSettings where
  autoApproveRunModelRequest := false
  autoApproveInferenceConnections := true
  allowUnattestedPeers := false
  ollamaTlsInsecure := true
  defaultNumPredict := none
  defaultNumCtx := none
  defaultScheduleEnabled := none
  defaultScheduleStart := none
  defaultScheduleEnd := none
  gpuThermalGuardEnabled := none
  gpuThermalThresholdC := none
  gpuThermalDurationSecs := none
  gpuThermalCooldownC := none
  gpuThermalAutoResume := none

/-- `ClientConfig::default`. -/
def defaultNodeConfig : NodeConfig where
  networks := ⟨none, [], [], .cluster, none, defaultSettings⟩
  serviceId := none
  servers := []
  llmUrl := none
  llmBackend := none
  setupComplete := false

/-! ## Starting -/

structure LegacyPeerConfig where
  peerId : String
  serviceId : String

/-- What comes of a file that is there. -/
inductive FileRead where
  | intact
  /-- It is read, but is no configuration. -/
  | garbled
  | unreadable

/-- How the registration of a start in Docker ends. -/
inductive BootRegistration where
  /-- It was put off or has failed. -/
  | deferred
  /-- The peer is registered, and joins a cluster or does not. -/
  | registered (reg : RegisterPeerResponse) (join : Option ClusterResponse)

/-- The environment of a start in Docker, and what becomes of it. -/
structure DockerBoot where
  force : Bool
  envPeerId : Option String
  envServiceId : Option String
  /-- `MTRXAI_CLUSTER_NAME` or `MTRXAI_ROOM_NAME`. -/
  envCluster : Option String
  registration : BootRegistration
  saves : Bool

/-- What `run` finds when it starts. -/
structure StartInputs where
  fileRead : FileRead
  legacy : Option LegacyPeerConfig
  /-- `MTRXAI_P2P_MODE`. -/
  envMode : NetworkMode
  cellUrl : Option String
  llmHost : Option String
  /-- The ids of servers that are entered. -/
  migratedId : String
  enteredId : String
  docker : Option DockerBoot
  /-- The lobby's answer when the key of the device is synced, if it accepts it. -/
  keySync : Option RegisterPeerResponse
  syncSaves : Bool
  invalidationSaves : Bool

/-- `env_non_empty`. -/
def envNonEmpty (value : Option String) : Option String := (value.map trim).filter (· ≠ "")

/-- The configuration made of the file of an older version. -/
def legacyNodeConfig (legacy : LegacyPeerConfig) : NodeConfig where
  networks := ⟨some legacy.peerId, [], [], .cluster, none, defaultSettings⟩
  serviceId := some legacy.serviceId
  servers := []
  llmUrl := some "http://127.0.0.1:11434"
  llmBackend := some "ollama"
  setupComplete := decide (legacy.serviceId ≠ "" ∧ legacy.peerId ≠ "")

/-- The configuration that `load_client_config` reads, before it is migrated. -/
def readNodeConfig (file : Option NodeConfig) (inputs : StartInputs) : NodeConfig :=
  let older := (inputs.legacy.map legacyNodeConfig).getD defaultNodeConfig
  match file with
  | none => older
  | some cfg =>
    match inputs.fileRead with
    | .intact => cfg
    | .garbled => defaultNodeConfig
    | .unreadable => older

def loadClientConfig (file : Option NodeConfig) (inputs : StartInputs) : NodeConfig :=
  let cfg := readNodeConfig file inputs
  { cfg with servers := migrateConfig cfg.servers inputs.migratedId cfg.llmUrl cfg.llmBackend }

/-- `apply_cli_overrides`. -/
def NodeConfig.applyCliOverrides (cfg : NodeConfig) (inputs : StartInputs) : NodeConfig :=
  let p2pMode := if cfg.networks.p2pMode = .cluster then inputs.envMode else cfg.networks.p2pMode
  let servers := MtrxPeer.applyCliOverrides cfg.servers inputs.enteredId inputs.cellUrl inputs.llmHost
  let cfg := { cfg with networks := { cfg.networks with p2pMode }, servers }
  match (inputs.cellUrl.map fun url => trimEndSlashes (trim url)).filter (· ≠ "") with
  | some url =>
    { cfg with
      llmUrl := some url
      llmBackend := cfg.llmBackend.or (some "inference-cell")
      setupComplete := cfg.setupComplete || cfg.ready }
  | none =>
    match inputs.llmHost with
    | some host =>
      { cfg with
        llmUrl := some ("http://" ++ host)
        llmBackend := cfg.llmBackend.or (some "ollama")
        setupComplete := cfg.setupComplete || cfg.registered && !cfg.networks.clusters.isEmpty }
    | none => cfg

def NodeConfig.applyEnvIdentity (cfg : NodeConfig) (boot : DockerBoot) : NodeConfig :=
  { cfg with
    networks := { cfg.networks with peerId := cfg.networks.peerId.or (envNonEmpty boot.envPeerId) }
    serviceId := cfg.serviceId.or (envNonEmpty boot.envServiceId) }

def defaultPublicClusterName (cfg : NodeConfig) (boot : DockerBoot) : String :=
  ((boot.envCluster.filter fun name => trim name ≠ "").or cfg.networks.cluster).getD "europe"

/-- `complete_docker_bootstrap_after_registration`, once the cluster is joined and before it
saves. -/
def NodeConfig.completeDockerBootstrap (cfg : NodeConfig) (clusterName : String) (join : ClusterResponse) :
    NodeConfig :=
  let clusters := upsertCluster cfg.networks.clusters (membershipFromResponse join (some ""))
  ({ cfg with
    networks := { cfg.networks with clusters, cluster := some clusterName }
    llmBackend := cfg.llmBackend.or (some "ollama") } : NodeConfig).recompute

/-- `bootstrap_docker_peer`: the configuration and the file. -/
def bootstrapDockerPeer (cfg : NodeConfig) (file : Option NodeConfig) (boot : DockerBoot) :
    NodeConfig × Option NodeConfig :=
  if !boot.force && !cfg.networks.clusters.isEmpty && cfg.setupComplete then (cfg, file)
  else
    let clusterName := defaultPublicClusterName cfg boot
    let cfg := cfg.applyEnvIdentity boot
    match boot.registration with
    | .deferred => (cfg, file)
    | .registered reg none => (cfg.applyRegisterResponse reg, file)
    | .registered reg (some join) =>
      let cfg := (cfg.applyRegisterResponse reg).completeDockerBootstrap clusterName join
      (cfg, if boot.saves then some cfg.persisted else file)

/-- `sync_peer_device_key_with_lobby` asks the lobby, unless the peer has no id. -/
def NodeConfig.syncsDeviceKey (cfg : NodeConfig) : Bool := cfg.networks.peerId.any fun id => trim id ≠ ""

/-- The sync of the key at a start: the configuration, or none if it ends the start, and the
file. A lobby that rejects the peer, or a file that cannot be written, costs it its identity. -/
def syncAtStart (cfg : NodeConfig) (file : Option NodeConfig) (inputs : StartInputs) :
    Option NodeConfig × Option NodeConfig :=
  if !(cfg.setupComplete && cfg.syncsDeviceKey) then (some cfg, file)
  else
    let synced := (inputs.keySync.map cfg.applyRegisterResponse).filter fun _ => inputs.syncSaves
    match synced with
    | some cfg => (some cfg, some cfg.persisted)
    | none =>
      let cfg := ((inputs.keySync.map cfg.applyRegisterResponse).getD cfg).invalidateLocalPeerIdentity
      if inputs.invalidationSaves then (some cfg, some cfg.persisted) else (none, file)

/-- The configuration that `run` goes on with, if it does, and the file. -/
def startNode (file : Option NodeConfig) (inputs : StartInputs) : Option NodeConfig × Option NodeConfig :=
  let cfg := (loadClientConfig file inputs).applyCliOverrides inputs
  match inputs.docker with
  | none => syncAtStart cfg file inputs
  | some boot => syncAtStart (bootstrapDockerPeer cfg file boot).1 (bootstrapDockerPeer cfg file boot).2 inputs

/-! ## What is kept -/

namespace NodeConfig.Whole

variable {cfg : NodeConfig} {file : Option NodeConfig} {inputs : StartInputs} {boot : DockerBoot}

theorem persisted (whole : cfg.Whole) : cfg.persisted.Whole := ⟨whole.named, whole.registered⟩

theorem default_ : defaultNodeConfig.Whole :=
  ⟨fun same => (by cases same), fun complete => (by cases complete)⟩

theorem applyRegisterResponse (cfg : NodeConfig) (reg : RegisterPeerResponse) :
    (cfg.applyRegisterResponse reg).Whole where
  named same := reg.named (Option.some.inj same)
  registered _ := rfl

theorem invalidated : cfg.invalidateLocalPeerIdentity.Whole :=
  ⟨fun same => (by cases same), fun complete => (by cases complete)⟩

theorem recompute (named : cfg.networks.peerId ≠ some "") : cfg.recompute.Whole where
  named
  registered complete := by
    simp only [NodeConfig.recompute, ready, Bool.and_eq_true] at complete
    exact complete.1.1

theorem legacy {legacy : LegacyPeerConfig} (named : legacy.peerId ≠ "") :
    (legacyNodeConfig legacy).Whole where
  named same := named (Option.some.inj same)
  registered _ := rfl

theorem load (whole : ∀ cfg ∈ file, cfg.Whole) (named : ∀ legacy ∈ inputs.legacy, legacy.peerId ≠ "") :
    (loadClientConfig file inputs).Whole := by
  have older : ((inputs.legacy.map legacyNodeConfig).getD defaultNodeConfig).Whole := by
    cases found : inputs.legacy with
    | none => exact default_
    | some older => exact legacy (named older found)
  have read : (readNodeConfig file inputs).Whole := by
    cases file with
    | none => exact older
    | some cfg =>
      cases how : inputs.fileRead with
      | intact =>
        simp only [readNodeConfig, how]
        exact whole cfg rfl
      | garbled =>
        simp only [readNodeConfig, how]
        exact default_
      | unreadable =>
        simp only [readNodeConfig, how]
        exact older
  exact ⟨read.named, read.registered⟩

/-- The command line can complete a setup, but makes no identity up. -/
theorem applyCliOverrides (whole : cfg.Whole) : (cfg.applyCliOverrides inputs).Whole := by
  have kept : cfg.setupComplete = true → cfg.registered = true := whole.registered
  rw [NodeConfig.applyCliOverrides]
  dsimp only
  split
  · refine ⟨whole.named, fun complete => ?_⟩
    rcases Bool.or_eq_true _ _ ▸ complete with before | now
    · exact kept before
    · simp only [ready, Bool.and_eq_true] at now
      exact now.1.1
  · split
    · refine ⟨whole.named, fun complete => ?_⟩
      rcases Bool.or_eq_true _ _ ▸ complete with before | now
      · exact kept before
      · exact (Bool.and_eq_true _ _ ▸ now).1
    · exact ⟨whole.named, kept⟩

theorem applyEnvIdentity (whole : cfg.Whole) : (cfg.applyEnvIdentity boot).Whole where
  named same := by
    rcases Option.or_eq_some_iff.mp same with own | ⟨-, given⟩
    · exact whole.named own
    · have nonempty := (Option.filter_eq_some_iff.mp given).2
      simp at nonempty
  registered complete := by
    have both := whole.registered complete
    simp only [NodeConfig.registered, Bool.and_eq_true] at both ⊢
    refine ⟨?_, ?_⟩
    · rw [NodeConfig.applyEnvIdentity, Option.isSome_or, both.1, Bool.true_or]
    · rw [NodeConfig.applyEnvIdentity, Option.isSome_or, both.2, Bool.true_or]

theorem bootstrap (whole : cfg.Whole) (kept : ∀ cfg ∈ file, cfg.Whole) (boot : DockerBoot) :
    (bootstrapDockerPeer cfg file boot).1.Whole ∧
      ∀ saved ∈ (bootstrapDockerPeer cfg file boot).2, saved.Whole := by
  unfold bootstrapDockerPeer
  split
  · exact ⟨whole, kept⟩
  · dsimp only
    cases boot.registration with
    | deferred => exact ⟨whole.applyEnvIdentity, kept⟩
    | registered reg join =>
      cases join with
      | none => exact ⟨applyRegisterResponse _ reg, kept⟩
      | some join =>
        have completed : (((cfg.applyEnvIdentity boot).applyRegisterResponse reg).completeDockerBootstrap
            (defaultPublicClusterName cfg boot) join).Whole :=
        recompute fun same => reg.named (Option.some.inj same)
        refine ⟨completed, ?_⟩
        dsimp only
        split
        · rintro _ ⟨⟩
          exact completed.persisted
        · exact kept

theorem syncAtStart (whole : cfg.Whole) (kept : ∀ cfg ∈ file, cfg.Whole) :
    (∀ cfg' ∈ (syncAtStart cfg file inputs).1, cfg'.Whole) ∧
      ∀ cfg' ∈ (MtrxPeer.syncAtStart cfg file inputs).2, cfg'.Whole := by
  rw [MtrxPeer.syncAtStart]
  split
  · refine ⟨?_, kept⟩
    rintro _ ⟨⟩
    exact whole
  · dsimp only
    split
    · rename_i synced found
      obtain ⟨reg, -, rfl⟩ := Option.map_eq_some_iff.mp (Option.filter_eq_some_iff.mp found).1
      refine ⟨?_, ?_⟩ <;> rintro _ ⟨⟩
      · exact applyRegisterResponse _ reg
      · exact (applyRegisterResponse _ reg).persisted
    · split
      · refine ⟨?_, ?_⟩ <;> rintro _ ⟨⟩
        · exact invalidated
        · exact invalidated.persisted
      · exact ⟨fun _ found => (by cases found), kept⟩

end NodeConfig.Whole

/-- A start makes a whole configuration of a whole file. -/
theorem startNode_whole {file : Option NodeConfig} {inputs : StartInputs} (whole : ∀ cfg ∈ file, cfg.Whole)
    (named : ∀ legacy ∈ inputs.legacy, legacy.peerId ≠ "") :
    (∀ cfg ∈ (startNode file inputs).1, cfg.Whole) ∧ ∀ cfg ∈ (startNode file inputs).2, cfg.Whole := by
  have loaded : ((loadClientConfig file inputs).applyCliOverrides inputs).Whole :=
    (NodeConfig.Whole.load whole named).applyCliOverrides
  unfold startNode
  cases inputs.docker with
  | none => exact loaded.syncAtStart whole
  | some boot =>
    obtain ⟨booted, kept⟩ := loaded.bootstrap whole boot
    exact booted.syncAtStart kept

end MtrxPeer
