import MtrxPeer.ClusterAnswers
import MtrxPeer.SwarmAnswers
import MtrxPeer.Sample

/-! Whose messages the caller of a request hears, and what the channels that this
peer opened as a consumer make it do. Callers wait in tables that all peers of a
manager share, under ids that can be guessed. -/
namespace MtrxPeer

open Machine (Along)

variable {providerOf : String → String} {reqId : String} {asked : PeerId}

/-! ## Runs -/

/-- In runs where only the provider answers a request, its caller hears the same
whatever the other peers send. -/
theorem swarm_caller_hears_provider (m : SwarmManager) {start : SwarmState}
    (put : PutTo providerOf start) {events events' : List SwarmEvent}
    (all : (swarmMachine m).Along (AnsweredByProvider m providerOf reqId asked) start events)
    (all' : (swarmMachine m).Along (AnsweredByProvider m providerOf reqId asked) start events')
    (same : events.filter (¬ SwarmEvent.OtherPeer asked ·) =
      events'.filter (¬ SwarmEvent.OtherPeer asked ·)) :
    (swarmMachine m).trace (swarmHeard reqId) start events =
      (swarmMachine m).trace (swarmHeard reqId) start events' := by
  have kept : ∀ s e, PutTo providerOf s → AnsweredByProvider m providerOf reqId asked s e →
      PutTo providerOf ((swarmMachine m).step s e).1 :=
    fun s e put meets => swarmStep_putTo put meets
  exact (Machine.trace_noninterference (·.askerView (providerOf reqId) reqId)
    (SwarmEvent.OtherPeer asked)
    (fun s e other meets => swarmStep_unheard other meets.1)
    (fun s t e view own meets meets' =>
      swarmStep_alike meets.2 meets'.2 view own meets.1 meets'.1)
    rfl (all.invariant kept put) (all'.invariant kept put) same).2

/-- In runs where no other channel takes a message as an answer to a request, its
caller hears the same whatever comes over the other channels. -/
theorem cluster_caller_hears_channel (m : Manager) {channel : String} {start : ClusterState}
    {events events' : List ClusterEvent}
    (all : (clusterMachine m).Along (AnsweredOnlyOn channel reqId) start events)
    (all' : (clusterMachine m).Along (AnsweredOnlyOn channel reqId) start events')
    (same : events.filter (¬ ClusterEvent.OtherChannel channel ·) =
      events'.filter (¬ ClusterEvent.OtherChannel channel ·)) :
    (clusterMachine m).trace (clusterHeard reqId) start events =
      (clusterMachine m).trace (clusterHeard reqId) start events' :=
  (Machine.trace_noninterference (·.callerView channel reqId) (ClusterEvent.OtherChannel channel)
    (fun _ _ other owned => clusterStep_unheard other owned)
    (fun _ _ _ view own _ _ => clusterStep_alike view own) rfl all all' same).2

/-! ## Channels opened as a consumer -/

/-- A plaintext request that completes on a channel this peer opened as a consumer is
refused. -/
def RefusedOnConsumerChannels (m : Manager) (s : ClusterState) (e : ClusterEvent) : Prop :=
  ∀ id msg answers channel request, e = .message id msg answers → s.channels id = some channel →
    channel.isProvider = false → arrived m.host s.proxy.config channel msg = some request →
    request.refusal m s channel ≠ none

/-- No message on such a channel makes a backend call. -/
def CallsNothingAsConsumer (r : ClusterRecord) : Prop :=
  ∀ id msg answers channel call, r.event = .message id msg answers →
    r.before.channels id = some channel → channel.isProvider = false →
    .effect id (.forward call) ∉ r.outputs

theorem consumer_channels_call_nothing (m : Manager) {start s : ClusterState}
    {past : List ClusterRecord} (ran : (clusterMachine m).Reaches start past s)
    (refused : ∀ r ∈ past, RefusedOnConsumerChannels m r.before r.event) :
    Machine.Always (fun _ r => CallsNothingAsConsumer r) past := by
  refine ran.always (fun _ _ => True) (fun r => RefusedOnConsumerChannels m r.before r.event) trivial
    (fun _ _ _ _ _ => trivial) ?_ refused
  intro _ s e _ refused id msg answers channel call event found consumer called
  obtain ⟨msg', answers', channel', request, event', found', complete, -, admitted, -⟩ :=
    clusterStep_forward (m := m) (s := s) (e := e) called
  obtain rfl : e = .message id msg answers := event
  obtain ⟨-, rfl, rfl⟩ := ClusterEvent.message.inj event'
  obtain rfl : channel = channel' := Option.some.inj (found.symm.trans found')
  exact refused id msg answers channel request rfl found consumer complete admitted

/-! ## All of it -/

/-- Peer `p` is asked over the channel `a`, and `q` has the channel `b`. -/
private def sampleAsked : List ClusterEvent :=
  [.channelOpened "a" "p" false, .channelOpened "b" "q" false,
    .sendRequest "a" "1" "/api/chat" (sampleBody "llama3") sampleAnswers]

end MtrxPeer
