import MtrxPeer.SwarmFrame

/-! The local requests that a swarm manager keeps and sends. Whatever is true of
each request under way, by its id and its target, is true of each request sent. -/
namespace MtrxPeer

open Function (update update_of_ne update_self)

/-- A request that waits for a connection, or that was sent and not answered. -/
inductive OnTheWay (s : SwarmState) (pending : PendingOutboundProxy) : Prop where
  | queued (waits : pending ∈ s.pendingOutboundProxies)
  | sent {id : OutboundRequestId} (noted : s.pendingProxyByOutboundId id = some pending)

/-- Something is true of all requests under way. -/
structure Outbound (P : String → String → Prop) (s : SwarmState) : Prop where
  pending : ∀ pending, OnTheWay s pending → P pending.reqId pending.targetMtrxaiPeer
  reverse : ∀ peer, ∀ msg ∈ s.pendingReverseProxies peer, msg.requestId = none

/-- It is true of a request that goes out. -/
def SwarmOutput.RequestsFor (P : String → String → Prop) : SwarmOutput → Prop
  | .send _ msg => ∀ reqId ∈ msg.requestId, ∃ target, P reqId target
  | _ => True

def OutboundStep (P : String → String → Prop) (result : SwarmState × List SwarmOutput) : Prop :=
  Outbound P result.1 ∧ ∀ o ∈ result.2, o.RequestsFor P

variable {m : SwarmManager} {s : SwarmState} {P : String → String → Prop} {peer : PeerId}

/-! ## Outputs -/

theorem requestsFor_append {a b : List SwarmOutput} (left : ∀ o ∈ a, o.RequestsFor P)
    (right : ∀ o ∈ b, o.RequestsFor P) : ∀ o ∈ a ++ b, o.RequestsFor P := by
  intro o member
  rcases List.mem_append.mp member with early | late
  · exact left o early
  · exact right o late

theorem requestsFor_respond {answers : Answers} {msg : StreamMessage} :
    ∀ o ∈ respond answers peer msg, o.RequestsFor P := by
  intro o member
  unfold respond at member
  split at member
  · obtain rfl := List.mem_singleton.mp member
    trivial
  · cases member

theorem requestsFor_deliverLocal {reqId : String} {item : Except String String} :
    ∀ o ∈ deliverLocal s reqId item, o.RequestsFor P := by
  intro o member
  unfold deliverLocal at member
  split at member
  · obtain rfl := List.mem_singleton.mp member
    trivial
  · cases member

theorem requestsFor_sendAll {msgs : List StreamMessage}
    (none_ : ∀ msg ∈ msgs, msg.requestId = none) :
    ∀ o ∈ msgs.map (SwarmOutput.send peer), o.RequestsFor P := by
  intro o member
  obtain ⟨msg, among, rfl⟩ := List.mem_map.mp member
  intro reqId named
  rw [none_ msg among] at named
  cases named

private theorem requestsFor_forwards (calls : List BackendCall) :
    ∀ o ∈ calls.map SwarmOutput.forward, o.RequestsFor P := by
  intro o member
  obtain ⟨call, -, rfl⟩ := List.mem_map.mp member
  trivial

private theorem requestsFor_single {o : SwarmOutput} (holds : o.RequestsFor P) :
    ∀ o' ∈ [o], o'.RequestsFor P := by
  intro o' member
  obtain rfl := List.mem_singleton.mp member
  exact holds

theorem IsStreamChunk.requestId {msg : StreamMessage} (chunk : msg.IsStreamChunk) :
    msg.requestId = none := by
  cases msg with
  | encryptedProxyStreamChunk => rfl
  | _ => exact absurd chunk id

/-! ## Tables -/

namespace Outbound

variable (kept : Outbound P s)

include kept

theorem mono {Q : String → String → Prop} (weaker : ∀ pending, OnTheWay s pending →
    P pending.reqId pending.targetMtrxaiPeer → Q pending.reqId pending.targetMtrxaiPeer) :
    Outbound Q s :=
  ⟨fun pending onTheWay => weaker pending onTheWay (kept.pending pending onTheWay), kept.reverse⟩

/-- Changes of anything but the tables of requests. -/
theorem frame {s' : SwarmState} (queue : s'.pendingOutboundProxies = s.pendingOutboundProxies)
    (sent : s'.pendingProxyByOutboundId = s.pendingProxyByOutboundId)
    (reverse : s'.pendingReverseProxies = s.pendingReverseProxies) : Outbound P s' where
  pending := by
    rintro pending (waits | noted)
    · exact kept.pending pending (.queued (queue ▸ waits))
    · exact kept.pending pending (.sent (sent ▸ noted))
  reverse := reverse ▸ kept.reverse

theorem bindPeer (mtrxai : String) (peer : PeerId) : Outbound P (s.bindPeer mtrxai peer) :=
  kept.frame rfl rfl rfl

theorem dialCached (m : SwarmManager) (mtrxai : String) :
    Outbound P (MtrxPeer.dialCached m s mtrxai) := by
  unfold MtrxPeer.dialCached
  split
  · exact kept
  · exact kept.bindPeer _ _

theorem resolve (m : SwarmManager) (mtrxai : String) : Outbound P (resolveLibp2pPeer m s mtrxai) := by
  unfold resolveLibp2pPeer
  split
  · exact kept
  · exact kept.bindPeer _ _

theorem dropStreams (reqId : String) : Outbound P (s.dropStreams reqId) := kept.frame rfl rfl rfl

theorem registerCaller : Outbound P s.registerCaller := kept.frame rfl rfl rfl

theorem enqueue {pending : PendingOutboundProxy} (holds : P pending.reqId pending.targetMtrxaiPeer) :
    Outbound P (s.enqueue pending) where
  pending := by
    rintro other (waits | noted)
    · rcases List.mem_append.mp waits with older | new
      · exact kept.pending other (.queued older)
      · obtain rfl := List.mem_singleton.mp new
        exact holds
    · exact kept.pending other (.sent noted)
  reverse := kept.reverse

/-- Entering a request among those sent, or taking one out. -/
theorem sentEntry (id : OutboundRequestId) {entry : Option PendingOutboundProxy}
    (holds : ∀ pending, entry = some pending → P pending.reqId pending.targetMtrxaiPeer) :
    Outbound P { s with
      pendingProxyByOutboundId := update s.pendingProxyByOutboundId id entry } where
  pending := by
    rintro other (waits | ⟨noted⟩)
    · exact kept.pending other (.queued waits)
    · rename_i probe
      dsimp only at noted
      by_cases same : probe = id
      · subst same
        rw [update_self] at noted
        exact holds other noted
      · rw [update_of_ne same] at noted
        exact kept.pending other (.sent noted)
  reverse := kept.reverse

theorem dropSent (id : OutboundRequestId) : Outbound P (s.dropSent id) :=
  kept.sentEntry id (by
    intro pending same
    cases same)

theorem reverseEntry (peer : PeerId) {msgs : List StreamMessage}
    (none_ : ∀ msg ∈ msgs, msg.requestId = none) :
    Outbound P { s with pendingReverseProxies := update s.pendingReverseProxies peer msgs } where
  pending := by
    rintro other (waits | noted)
    · exact kept.pending other (.queued waits)
    · exact kept.pending other (.sent noted)
  reverse := by
    intro probe msg member
    dsimp only at member
    by_cases same : probe = peer
    · subst same
      rw [update_self] at member
      exact none_ msg member
    · rw [update_of_ne same] at member
      exact kept.reverse probe msg member

theorem dropReverse (peer : PeerId) : Outbound P (s.dropReverse peer) :=
  kept.reverseEntry peer (by simp)

theorem fail (reqId error : String) : OutboundStep P (failProxyRequest s reqId error) :=
  ⟨kept.frame rfl rfl rfl, requestsFor_deliverLocal⟩

end Outbound

theorem outbound_initial (proxy : ProxyState) (nextReqId : Nat) :
    Outbound P (.initial proxy nextReqId) where
  pending := by
    rintro pending (waits | noted)
    · cases waits
    · cases noted
  reverse := by
    intro peer msg member
    cases member

/-! ## Sending -/

/-- A request goes out under its own id. -/
theorem outboundMessage_requestId {config : ClientConfig} {catalogPk : Option String} {draw : Draw}
    {pending kept : PendingOutboundProxy} {msg : StreamMessage}
    (made : outboundMessage m config catalogPk draw pending = .ok (msg, kept)) :
    msg.requestId = some pending.reqId ∧ kept.reqId = pending.reqId ∧
      kept.targetMtrxaiPeer = pending.targetMtrxaiPeer := by
  unfold outboundMessage at made
  split at made
  · split at made
    · cases made
    · split at made
      · cases made
      · split at made
        · cases made
        · rename_i encrypted
          obtain ⟨rfl, rfl⟩ := Prod.mk.inj (Except.ok.inj made)
          refine ⟨?_, rfl, rfl⟩
          unfold encryptProxyRequest at encrypted
          grind [StreamMessage.requestId]
  · obtain ⟨rfl, rfl⟩ := Prod.mk.inj (Except.ok.inj made)
    exact ⟨rfl, rfl, rfl⟩

theorem sendOutboundProxy_outbound {pending : PendingOutboundProxy} {sending : Sending}
    (kept : Outbound P s) (holds : P pending.reqId pending.targetMtrxaiPeer) :
    OutboundStep P (sendOutboundProxy m s pending sending) := by
  have resolved := kept.resolve m pending.targetMtrxaiPeer
  unfold sendOutboundProxy
  dsimp only
  split
  · exact ⟨resolved.enqueue holds, by simp⟩
  · have forgotten : ∀ other, Outbound P
        (forgetStreams (resolveLibp2pPeer m s pending.targetMtrxaiPeer) other) := by
      intro other
      unfold forgetStreams
      split
      · exact resolved.dropStreams _
      · exact resolved
    split
    · exact (forgotten _).fail _ _
    · rename_i msg noted made
      obtain ⟨named, sameId, sameTarget⟩ := outboundMessage_requestId made
      refine ⟨(forgotten _).sentEntry _ ?_, requestsFor_single ?_⟩
      · rintro other ⟨⟩
        rw [sameId, sameTarget]
        exact holds
      · intro reqId member
        rw [named] at member
        obtain rfl := Option.some.inj member
        exact ⟨_, holds⟩

theorem submitRequest_outbound {pending : PendingOutboundProxy} {sending : Sending}
    (kept : Outbound P s) (holds : P pending.reqId pending.targetMtrxaiPeer) :
    OutboundStep P (submitRequest m s pending sending) := by
  unfold submitRequest
  split
  · exact sendOutboundProxy_outbound kept holds
  · split
    · exact kept.fail _ _
    · exact ⟨(kept.dialCached m _).enqueue holds, by simp⟩

/-- The request that a command makes, if it is not turned down. -/
def Requests (m : SwarmManager) (s : SwarmState) (cmd : ProxyRequestCommand) (ranked : List String)
    (reqId target : String) : Prop :=
  commandTarget m s cmd ranked = .ok target ∧ cmd.body.toText.utf8ByteSize ≤ maxProxyBodyBytes ∧
    reqId = s.freshReqId

private theorem locateProvider_outbound (kept : Outbound P s) (target : String) :
    Outbound P (locateProvider m s target) := by
  unfold locateProvider
  dsimp only
  split
  · exact kept.bindPeer _ _
  · exact (kept.bindPeer _ _).dialCached m target

theorem onProxyCommand_outbound {cmd : ProxyRequestCommand} {ranked : List String} {sending : Sending}
    (kept : Outbound P s)
    (holds : ∀ reqId target, Requests m s cmd ranked reqId target → P reqId target) :
    OutboundStep P (onProxyCommand m s cmd ranked sending) := by
  unfold onProxyCommand
  split
  · exact ⟨kept, requestsFor_single trivial⟩
  · rename_i target chosen
    have located := locateProvider_outbound (m := m) kept target
    dsimp only
    split
    · exact ⟨located, requestsFor_single trivial⟩
    · rename_i small
      exact submitRequest_outbound located.registerCaller
        (holds _ _ ⟨chosen, Nat.not_lt.mp small, rfl⟩)

theorem onOutboundFailure_outbound {id : OutboundRequestId} {retryable : Bool} {error : String}
    {sending : Sending} (kept : Outbound P s) :
    OutboundStep P (onOutboundFailure m s id retryable error sending) := by
  unfold onOutboundFailure
  split
  · exact ⟨kept, by simp⟩
  · rename_i pending noted
    have holds := kept.pending pending (.sent noted)
    dsimp only
    split
    · split
      · exact sendOutboundProxy_outbound (kept.dropSent id) holds
      · exact ⟨(kept.dropSent id).enqueue holds, by simp⟩
    · exact (kept.dropSent id).fail _ _

theorem flushPendingProxies_outbound {sendings : String → Sending}
    {queue : List PendingOutboundProxy} (kept : Outbound P s)
    (holds : ∀ pending ∈ queue, P pending.reqId pending.targetMtrxaiPeer) :
    OutboundStep P (flushPendingProxies m s peer sendings queue) := by
  induction queue generalizing s with
  | nil => exact ⟨kept, by simp [flushPendingProxies]⟩
  | cons pending rest ih =>
    have first := holds pending List.mem_cons_self
    have others := fun other member => holds other (List.mem_cons_of_mem pending member)
    have resolved := kept.resolve m pending.targetMtrxaiPeer
    simp only [flushPendingProxies]
    split
    · obtain ⟨tables, outputs⟩ := sendOutboundProxy_outbound resolved (by exact first)
      obtain ⟨later, sent⟩ := ih tables others
      exact ⟨later, requestsFor_append outputs sent⟩
    · have requeued : Outbound P
          ((resolveLibp2pPeer m s pending.targetMtrxaiPeer).enqueue { pending with
            libp2pPeer := resolvedPeer m s pending.targetMtrxaiPeer }) := resolved.enqueue first
      obtain ⟨later, sent⟩ := ih requeued others
      exact ⟨later, requestsFor_append (by simp) sent⟩

theorem onConnectionEstablished_outbound {cached : List String} {sendings : String → Sending}
    (kept : Outbound P s) :
    OutboundStep P (onConnectionEstablished m s peer cached sendings) := by
  have connected : Outbound P { s with connected := update s.connected peer true } :=
    kept.frame rfl rfl rfl
  unfold onConnectionEstablished
  dsimp only
  split
  · exact ⟨connected, by simp⟩
  · have emptied : Outbound P { s with
        connected := update s.connected peer true
        pendingOutboundProxies := [] } := by
      refine ⟨?_, kept.reverse⟩
      rintro pending (waits | noted)
      · cases waits
      · exact kept.pending pending (.sent noted)
    obtain ⟨flushed, sent⟩ : OutboundStep P (flushPendingProxies m _ peer sendings _) :=
      flushPendingProxies_outbound emptied fun pending waits => kept.pending pending (.queued waits)
    have dropped := flushed.dropReverse peer
    refine ⟨?_, requestsFor_append sent (requestsFor_sendAll (flushed.reverse peer))⟩
    split
    · exact dropped
    · unfold mapConnectedPeer
      split
      · exact dropped.frame rfl rfl rfl
      · exact dropped.frame rfl rfl rfl

/-! ## Streams and answers -/

private theorem drainStream_outbound {reqId : String} {ctx : PendingEncryptedStreamCtx}
    (kept : Outbound P s) : OutboundStep P (drainStream m s reqId ctx) := by
  have delivered : ∀ parts : List String, ∀ o ∈ parts.map fun part =>
      SwarmOutput.deliver reqId (.ok part), o.RequestsFor P := by
    intro parts o member
    obtain ⟨part, -, rfl⟩ := List.mem_map.mp member
    trivial
  unfold drainStream
  dsimp only
  split
  · exact ⟨kept.frame rfl rfl rfl, delivered _⟩
  · exact ⟨kept.frame rfl rfl rfl, delivered _⟩
  · exact ⟨kept.frame rfl rfl rfl, requestsFor_append (delivered _) (requestsFor_single trivial)⟩

private theorem onEncryptedStreamChunk_outbound (reqId : String) (chunk : EncryptedStreamChunkData)
    (kept : Outbound P s) : OutboundStep P (onEncryptedStreamChunk m s reqId chunk) := by
  unfold onEncryptedStreamChunk
  split
  · split
    · exact drainStream_outbound kept
    · exact ⟨kept.frame rfl rfl rfl, by simp⟩
  · exact ⟨kept, by simp⟩

private theorem onStreamAck_outbound {reqId : String} {pending : PendingOutboundProxy}
    (kept : Outbound P s) : OutboundStep P (onStreamAck m s reqId pending) := by
  unfold onStreamAck
  split
  · exact kept.fail _ _
  · dsimp only
    split
    · exact drainStream_outbound (kept.frame rfl rfl rfl)
    · exact ⟨kept.frame rfl rfl rfl, by simp⟩

private theorem requestsFor_responseLines {t : SwarmState} {reqId body : String} :
    ∀ o ∈ (responseLines body).flatMap fun line => deliverLocal t reqId (.ok line),
      o.RequestsFor P := by
  intro o member
  obtain ⟨line, -, delivered⟩ := List.mem_flatMap.mp member
  exact requestsFor_deliverLocal o delivered

private theorem onEncryptedResponse_outbound {reqId : String} {pending : Option PendingOutboundProxy}
    {payload : EncryptedPayload} (kept : Outbound P s) :
    OutboundStep P (onEncryptedResponse m s reqId pending payload) := by
  unfold onEncryptedResponse
  dsimp only
  split
  · exact kept.fail _ _
  · exact ⟨kept.frame rfl rfl rfl, requestsFor_responseLines⟩

theorem onSwarmResponse_outbound {id : OutboundRequestId} {msg : StreamMessage}
    (kept : Outbound P s) : OutboundStep P (onSwarmResponse m s peer id msg) := by
  have dropped := kept.dropSent id
  unfold onSwarmResponse
  dsimp only
  split
  · exact ⟨kept, by simp⟩
  · split
    · refine ⟨dropped.frame rfl rfl rfl, ?_⟩
      split
      · exact requestsFor_deliverLocal
      · exact requestsFor_responseLines
    · split
      · exact dropped.fail _ _
      · split
        · split
          · exact ⟨dropped, by simp⟩
          · exact onStreamAck_outbound dropped
        · exact onEncryptedResponse_outbound dropped
    · exact ⟨kept, by simp⟩

/-! ## Requests of peers -/

private theorem dispatchSwarmProxyRequest_outbound {host : Host} {proxy : ProxyState}
    {answers : Answers} {swarmId consumer reqId path : String} {body : Json} :
    ∀ o ∈ dispatchSwarmProxyRequest host proxy answers swarmId consumer peer reqId path body,
      o.RequestsFor P := by
  unfold dispatchSwarmProxyRequest
  split
  · exact requestsFor_respond
  · unfold serveSwarm
    dsimp only
    refine requestsFor_append (requestsFor_forwards [_]) ?_
    split
    · simp
    · exact requestsFor_respond
    · exact requestsFor_respond

private theorem dispatchSwarmEncryptedProxyRequest_outbound {host : Host} {proxy : ProxyState}
    {answers : Answers} {consumer : String} {request : EncryptedRequest} {nonce ciphertext : Bytes} :
    ∀ o ∈ (dispatchSwarmEncryptedProxyRequest host proxy answers consumer peer request nonce
      ciphertext).1, o.RequestsFor P := by
  unfold dispatchSwarmEncryptedProxyRequest
  dsimp only
  split
  · unfold relayToSidecar
    split
    · exact requestsFor_append (requestsFor_forwards _) requestsFor_respond
    · exact requestsFor_append (requestsFor_forwards _) requestsFor_respond
  · split
    · exact requestsFor_respond
    · split
      · exact requestsFor_respond
      · exact requestsFor_append requestsFor_respond (requestsFor_forwards [_])

private theorem sendReverse_outbound {msgs : List StreamMessage} (kept : Outbound P s)
    (none_ : ∀ msg ∈ msgs, msg.requestId = none) : OutboundStep P (sendReverse m s peer msgs) := by
  unfold sendReverse
  split
  · exact ⟨kept, requestsFor_sendAll none_⟩
  · split
    · exact ⟨kept, by simp⟩
    · have entered {t : SwarmState} (kept : Outbound P t) :
          ∀ msg ∈ t.pendingReverseProxies peer ++ msgs, msg.requestId = none := by
        intro msg member
        rcases List.mem_append.mp member with older | new
        · exact kept.reverse peer msg older
        · exact none_ msg new
      cases s.libp2pToMtrxai peer with
      | none => exact ⟨kept.reverseEntry peer (entered kept), by simp⟩
      | some mtrxai =>
        have dialed := kept.dialCached m mtrxai
        exact ⟨dialed.reverseEntry peer (entered dialed), by simp⟩

private theorem serveEncryptedRequest_outbound {answers : Answers} {request : EncryptedRequest}
    {nonce ciphertext : Bytes} (kept : Outbound P s) :
    OutboundStep P (serveEncryptedRequest m s peer answers request nonce ciphertext) := by
  have bound := kept.bindPeer (s.nameOf peer) peer
  have ready : Outbound P (if m.host.inferenceSidecarEnabled then s.bindPeer (s.nameOf peer) peer
      else (s.bindPeer (s.nameOf peer) peer).dropReverse peer) := by
    split
    · exact bound
    · exact bound.dropReverse peer
  obtain ⟨tables, sent⟩ := sendReverse_outbound ready fun msg member =>
    IsStreamChunk.requestId (dispatchSwarmEncryptedProxyRequest_chunks msg member)
  exact ⟨tables, requestsFor_append dispatchSwarmEncryptedProxyRequest_outbound sent⟩

theorem onSwarmRequest_outbound {msg : StreamMessage} {answers : Answers} (kept : Outbound P s) :
    OutboundStep P (onSwarmRequest m s peer msg answers) := by
  cases msg with
  | catalogSync record =>
    refine ⟨?_, requestsFor_respond⟩
    simp only [onSwarmRequest, applyRemoteCatalog]
    split
    · exact kept
    · exact kept.frame rfl rfl rfl
  | proxyRequest reqId path body =>
    simp only [onSwarmRequest]
    split
    · exact ⟨kept, requestsFor_respond⟩
    · exact ⟨kept, dispatchSwarmProxyRequest_outbound⟩
  | encryptedProxyRequest reqId path roomId pk nonce ciphertext version auth =>
    simp only [onSwarmRequest]
    split
    · exact ⟨kept, requestsFor_respond⟩
    · split
      · exact serveEncryptedRequest_outbound kept
      · exact ⟨kept, requestsFor_respond⟩
  | encryptedProxyStreamChunk reqId seq nonce ciphertext version done =>
    obtain ⟨tables, outputs⟩ :=
      onEncryptedStreamChunk_outbound (m := m) reqId ⟨seq, nonce, ciphertext, done⟩ kept
    exact ⟨tables, requestsFor_append outputs requestsFor_respond⟩
  | proxyAuth proof =>
    refine ⟨kept, ?_⟩
    simp only [onSwarmRequest]
    split <;> exact requestsFor_respond
  | proxyRequestStart => exact ⟨kept.frame rfl rfl rfl, requestsFor_respond⟩
  | proxyRequestChunk => exact ⟨kept.frame rfl rfl rfl, requestsFor_respond⟩
  | proxyRequestEnd reqId =>
    simp only [onSwarmRequest, onProxyRequestEnd]
    split
    · exact ⟨kept, requestsFor_respond⟩
    · refine ⟨kept.frame rfl rfl rfl, ?_⟩
      split
      · exact dispatchSwarmProxyRequest_outbound
      · exact requestsFor_respond
  | proxyResponseChunk =>
    exact ⟨kept, requestsFor_append requestsFor_deliverLocal requestsFor_respond⟩
  | proxyResponseDone => exact ⟨kept.frame rfl rfl rfl, requestsFor_respond⟩
  | proxyResponseError =>
    exact ⟨kept.frame rfl rfl rfl, requestsFor_append requestsFor_deliverLocal requestsFor_respond⟩
  | _ => exact ⟨kept, requestsFor_respond⟩

/-! ## One step -/

private theorem syncPresence_outbound {peers : List (String × List String)} (kept : Outbound P s) :
    Outbound P (syncPresence m s peers) := by
  induction peers generalizing s with
  | nil => exact kept
  | cons first rest ih =>
    obtain ⟨mtrxai, listenAddrs⟩ := first
    simp only [syncPresence]
    split
    · exact ih kept
    · split
      · split
        · exact ih kept
        · exact ih (kept.frame rfl rfl rfl)
      · split
        · exact ih (kept.frame rfl rfl rfl)
        · exact ih (kept.frame rfl rfl rfl)

/-- What is true of the requests under way stays true of them, and of a command's
request if it is made so, and it is true of each request that goes out. -/
theorem swarmStep_outbound {e : SwarmEvent} (kept : Outbound P s)
    (holds : ∀ cmd ranked sending, e = .proxyCommand cmd ranked sending →
      ∀ reqId target, Requests m s cmd ranked reqId target → P reqId target) :
    OutboundStep P (swarmStep m s e) := by
  cases e with
  | request peer msg answers => exact onSwarmRequest_outbound kept
  | response peer id msg => exact onSwarmResponse_outbound kept
  | gossip source record =>
    refine ⟨?_, by simp [swarmStep]⟩
    simp only [swarmStep, applyRemoteCatalog]
    split
    · exact kept
    · exact kept.frame rfl rfl rfl
  | proxyCommand cmd ranked sending =>
    exact onProxyCommand_outbound kept (holds cmd ranked sending rfl)
  | outboundFailure => exact onOutboundFailure_outbound kept
  | connectionEstablished => exact onConnectionEstablished_outbound kept
  | connectionClosed peer connected =>
    refine ⟨?_, by simp [swarmStep]⟩
    simp only [swarmStep, onConnectionClosed]
    split <;> exact kept.frame rfl rfl rfl
  | presence => exact ⟨syncPresence_outbound kept, by simp [swarmStep]⟩
  | proxyChanged => exact ⟨kept.frame rfl rfl rfl, by simp [swarmStep]⟩
  | requestsNumbered => exact ⟨kept.frame rfl rfl rfl, by simp [swarmStep]⟩

end MtrxPeer
