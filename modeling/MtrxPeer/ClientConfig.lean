import Mathlib.Data.List.Basic

/-! The client configuration: the networks a peer has joined and the settings
that its request paths read. -/
namespace MtrxPeer

/-- The two kinds of networks. -/
inductive NetworkScope where
  | cluster
  | swarm
  deriving DecidableEq

/-- `p2p_mode`. -/
inductive NetworkMode where
  | cluster
  | swarm
  | both
  deriving DecidableEq

structure ClusterMembership where
  clusterId : String
  acceptingJobs : Option Bool
  connected : Option Bool
  /-- Room password used to derive the room keys, stored locally only. -/
  roomSecret : Option String
  clusterPassword : Option String
  deriving DecidableEq

structure SwarmMembership where
  swarmId : String
  p2pToken : String
  acceptingJobs : Option Bool
  connected : Option Bool
  deriving DecidableEq

structure ClientConfig where
  clusters : List ClusterMembership
  swarms : List SwarmMembership
  autoApproveInferenceConnections : Bool
  allowUnattestedPeers : Bool
  defaultNumPredict : Option Nat
  defaultNumCtx : Option Nat
  proxyToken : Option String
  requireTeeForInference : Option Bool
  deriving DecidableEq

def clusterAcceptsJobs (cluster : ClusterMembership) : Bool := cluster.acceptingJobs.getD true

def clusterIsConnected (cluster : ClusterMembership) : Bool := cluster.connected.getD true

def swarmAcceptsJobs (swarm : SwarmMembership) : Bool := swarm.acceptingJobs.getD true

def swarmIsConnected (swarm : SwarmMembership) : Bool := swarm.connected.getD true

def findCluster (config : ClientConfig) (clusterId : String) : Option ClusterMembership :=
  config.clusters.find? fun c => c.clusterId = clusterId

def findSwarm (config : ClientConfig) (swarmId : String) : Option SwarmMembership :=
  config.swarms.find? fun s => s.swarmId = swarmId

/-- What every cluster path asks before it takes work; a cluster that is no
longer configured counts as accepting. -/
def clusterAccepting (config : ClientConfig) (clusterId : String) : Bool :=
  ((findCluster config clusterId).map clusterAcceptsJobs).getD true

/-- The same question about a swarm. -/
def swarmAccepting (config : ClientConfig) (swarmId : String) : Bool :=
  ((findSwarm config swarmId).map swarmAcceptsJobs).getD true

end MtrxPeer
