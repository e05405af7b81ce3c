import MtrxPeer.PeerPolicy
import MtrxPeer.RequestTables
import MtrxPeer.Sample

/-! Every request that a local caller of a swarm manager waits for is in exactly one of
the manager's tables, as long as a message that ends a request ends the one it answers. -/
namespace MtrxPeer

open Function (update update_of_ne update_self)
open RequestView (nowhere Settled)

variable {m : SwarmManager} {s t : SwarmState} {tries : String → Nat} {reqId : String}

/-! ## Bookkeeping -/

/-- The requests that were numbered so far, by this manager or another of its process. -/
def SwarmState.Numbered (s : SwarmState) (reqId : String) : Prop :=
  ∃ n < s.nextReqId, reqId = "p2p_" ++ toString n

/-- Every request is settled. -/
def SwarmState.AllSettled (s : SwarmState) (tries : String → Nat) : Prop :=
  ∀ reqId, Settled (s.Numbered reqId) (tries reqId) (s.requestView reqId)

/-- The step is the failure of a sending of the request, and its caller waits on. -/
def survivesFailure (m : SwarmManager) (reqId : String) (r : SwarmRecord) : Bool :=
  match r.event with
  | .outboundFailure id _ _ _ =>
    (r.before.pendingProxyByOutboundId id).any (·.reqId = reqId) &&
      (swarmStep m r.before r.event).1.pendingProxyByReqId reqId
  | _ => false

/-- How often a request was queued or sent again. -/
def retries (m : SwarmManager) (past : List SwarmRecord) (reqId : String) : Nat :=
  past.countP (survivesFailure m reqId)

/-- A response ends the request it answers; where none is answered, it ends none. -/
def AnswersAsked (s : SwarmState) (peer : PeerId) (id : OutboundRequestId) (reqId : String) : Prop :=
  match s.pendingProxyByOutboundId id with
  | some pending => pending.libp2pPeer = peer → pending.reqId = reqId
  | none => s.pendingProxyByReqId reqId = false

instance (s : SwarmState) (peer : PeerId) (id : OutboundRequestId) (reqId : String) :
    Decidable (AnswersAsked s peer id reqId) :=
  match entry : s.pendingProxyByOutboundId id with
  | some pending => decidable_of_iff (pending.libp2pPeer = peer → pending.reqId = reqId)
      (by unfold AnswersAsked; rw [entry])
  | none => decidable_of_iff (s.pendingProxyByReqId reqId = false)
      (by unfold AnswersAsked; rw [entry])

/-- Sendings are numbered freshly, responses end the requests they answer, and no peer's
request ends one that a caller waits for. -/
def KeepsPlaces (s : SwarmState) : SwarmEvent → Prop
  | .request _ (.proxyResponseDone reqId) _ => s.pendingProxyByReqId reqId = false
  | .request _ (.proxyResponseError reqId _) _ => s.pendingProxyByReqId reqId = false
  | .response peer id (.proxyResponse reqId _ _) => AnswersAsked s peer id reqId
  | .response peer id (.encryptedProxyResponse reqId _ _ _ error stream) =>
    error = none ∧ stream = some true ∧ s.pendingProxyByOutboundId id = none ∨
      AnswersAsked s peer id reqId
  | .proxyCommand _ _ sending => s.pendingProxyByOutboundId sending.outboundId = none
  | .outboundFailure _ _ _ sending => s.pendingProxyByOutboundId sending.outboundId = none
  | .connectionEstablished _ _ sendings => FreshSendings s sendings s.pendingOutboundProxies
  | _ => True

theorem SameTables.allSettled (same : SameTables t s) (numbers : s.nextReqId ≤ t.nextReqId)
    (settled : s.AllSettled tries) : t.AllSettled tries := by
  intro reqId
  rw [same.view]
  exact (settled reqId).imp fun ⟨n, below, named⟩ => ⟨n, Nat.lt_of_lt_of_le below numbers, named⟩

/-- Where one request is settled and the others are as before, all are settled. -/
theorem SwarmState.AllSettled.of_others (settled : s.AllSettled tries) (reqId : String)
    (numbers : t.nextReqId = s.nextReqId)
    (own : Settled (s.Numbered reqId) (tries reqId) (t.requestView reqId))
    (others : ∀ other, reqId ≠ other → t.requestView other = s.requestView other) :
    t.AllSettled tries := by
  intro other
  have numbered : t.Numbered other = s.Numbered other := by
    unfold SwarmState.Numbered
    rw [numbers]
  rw [numbered]
  by_cases same : reqId = other
  · exact same ▸ own
  · rw [others other same]
    exact settled other

/-! ## Answers -/

/-- Ending a request nobody waits for. -/
theorem SwarmState.AllSettled.dropSilent (settled : s.AllSettled tries)
    (silent : s.pendingProxyByReqId reqId = false) : (s.dropCaller reqId).AllSettled tries := by
  refine settled.of_others reqId rfl ?_ fun other differs => dropCaller_viewOther differs
  rw [dropCaller_view, (settled reqId).of_silent silent]
  exact .idle

/-- Ending the request that is answered. -/
theorem answered_settled {peer : PeerId} {id : OutboundRequestId} (settled : s.AllSettled tries)
    (asked : AnswersAsked s peer id reqId)
    (taken : ∀ pending, s.pendingProxyByOutboundId id = some pending → pending.libp2pPeer = peer) :
    ((s.dropSent id).dropCaller reqId).AllSettled tries := by
  unfold AnswersAsked at asked
  cases entry : s.pendingProxyByOutboundId id with
  | none =>
    rw [entry] at asked
    have unused : s.dropSent id = s := by
      unfold SwarmState.dropSent
      rw [← entry, Function.update_eq_self]
    rw [unused]
    exact settled.dropSilent asked
  | some pending =>
    rw [entry] at asked
    obtain rfl := asked (taken pending entry)
    refine settled.of_others pending.reqId rfl ?_ fun other differs => ?_
    · rw [dropCaller_view, (dropSent_settled (settled _) entry).1]
      exact .idle
    · rw [dropCaller_viewOther differs, dropSent_viewOther entry differs]

/-- A stream that is drained goes on, or ends. -/
theorem drainStream_settled {made : Prop} {n : Nat} (ctx : PendingEncryptedStreamCtx) (numbered : made)
    (waits : (s.requestView reqId).waiting = true) (unqueued : (s.requestView reqId).queued = [])
    (unsent : (s.requestView reqId).sent = fun _ => none) :
    Settled made n ((drainStream m s reqId ctx).1.requestView reqId) := by
  have view : s.requestView reqId =
      ⟨true, [], fun _ => none, (s.requestView reqId).streaming⟩ := by
    rw [← waits, ← unqueued, ← unsent]
  have ended : Settled made n (((s.dropCaller reqId).dropStreams reqId).requestView reqId) := by
    rw [dropStreams_view, dropCaller_view, view]
    exact .idle
  unfold drainStream
  dsimp only
  split
  · rw [setStream_view, view]
    exact .streaming numbered
  · exact ended
  · exact ended

theorem drainStream_viewOther {other : String} (ctx : PendingEncryptedStreamCtx)
    (differs : other ≠ reqId) :
    (drainStream m s other ctx).1.requestView reqId = s.requestView reqId := by
  unfold drainStream
  dsimp only
  split
  · exact setStream_viewOther differs _
  · rw [dropStreams_viewOther differs, dropCaller_viewOther differs]
  · rw [dropStreams_viewOther differs, dropCaller_viewOther differs]

theorem drainStream_nextReqId (ctx : PendingEncryptedStreamCtx) :
    (drainStream m s reqId ctx).1.nextReqId = s.nextReqId :=
  congrArg Surroundings.nextReqId (drainStream_surroundings reqId ctx)

theorem onEncryptedStreamChunk_settled (settled : s.AllSettled tries)
    (chunk : EncryptedStreamChunkData) :
    (onEncryptedStreamChunk m s reqId chunk).1.AllSettled tries := by
  unfold onEncryptedStreamChunk
  split
  · rename_i waits
    split
    · rename_i ctx entry
      have streams : (s.requestView reqId).streaming = true := by
        simp [SwarmState.requestView, entry]
      have view := (settled reqId).of_streaming streams
      refine settled.of_others reqId (drainStream_nextReqId _) ?_
        fun other differs => drainStream_viewOther _ differs
      exact drainStream_settled _ ((settled reqId).of_waiting waits) waits
        (congrArg RequestView.queued view) (congrArg RequestView.sent view)
    · exact SameTables.allSettled ⟨rfl, rfl, rfl, rfl⟩ (Nat.le_refl _) settled
  · exact settled

private theorem onStreamAck_settled {id : OutboundRequestId} {pending : PendingOutboundProxy}
    (settled : s.AllSettled tries) (entry : s.pendingProxyByOutboundId id = some pending) :
    (onStreamAck m (s.dropSent id) pending.reqId pending).1.AllSettled tries := by
  obtain ⟨placeless, -, waits, -⟩ := dropSent_settled (settled pending.reqId) entry
  have numbered := (settled pending.reqId).of_waiting waits
  have others : ∀ other, pending.reqId ≠ other →
      (s.dropSent id).requestView other = s.requestView other :=
    fun other differs => dropSent_viewOther entry differs
  unfold onStreamAck
  split
  · refine settled.of_others pending.reqId rfl (failProxyRequest_settled _ placeless) fun other differs => ?_
    rw [failProxyRequest, dropCaller_viewOther differs, others other differs]
  · rename_i secret _
    dsimp only
    have waits' : (s.dropSent id).pendingProxyByReqId pending.reqId = true := waits
    rw [if_pos waits']
    have early : ∀ chunks, SameTables ({ s.dropSent id with
        pendingEncryptedStreamEarly := chunks } : SwarmState) (s.dropSent id) :=
      fun _ => ⟨rfl, rfl, rfl, rfl⟩
    refine settled.of_others pending.reqId (drainStream_nextReqId _) ?_ fun other differs => ?_
    · refine drainStream_settled _ numbered ?_ ?_ ?_
      · rw [(early _).view, placeless]
        rfl
      · rw [(early _).view, placeless]
        rfl
      · rw [(early _).view, placeless]
        rfl
    · rw [drainStream_viewOther _ differs, (early _).view, others other differs]

/-- A response leaves every request settled. -/
theorem onSwarmResponse_settled {peer : PeerId} {id : OutboundRequestId} {msg : StreamMessage}
    (settled : s.AllSettled tries) (keeps : KeepsPlaces s (.response peer id msg)) :
    (onSwarmResponse m s peer id msg).1.AllSettled tries := by
  unfold onSwarmResponse
  dsimp only
  split
  · exact settled
  rename_i accepted
  have taken : ∀ pending, s.pendingProxyByOutboundId id = some pending → pending.libp2pPeer = peer := by
    intro pending entry
    simpa [entry] using accepted
  split
  · exact answered_settled settled keeps taken
  · split
    · rename_i error
      rcases keeps with ⟨none_, -⟩ | asked
      · cases none_
      · exact answered_settled settled asked taken
    · split
      · rename_i acks
        split
        · rename_i entry
          have unused : s.dropSent id = s := by
            unfold SwarmState.dropSent
            rw [← entry, Function.update_eq_self]
          rw [unused]
          exact settled
        · rename_i pending entry
          rcases keeps with ⟨-, -, none_⟩ | asked
          · rw [entry] at none_
            cases none_
          · unfold AnswersAsked at asked
            rw [entry] at asked
            obtain rfl := asked (taken pending entry)
            exact onStreamAck_settled settled entry
      · rename_i whole
        rcases keeps with ⟨-, acks, -⟩ | asked
        · exact absurd acks whole
        · have answered := answered_settled settled asked taken
          unfold onEncryptedResponse
          dsimp only
          split <;> exact answered
  · exact settled

/-! ## Requests of peers -/

theorem applyRemoteCatalog_tables (record : CatalogRecord) :
    SameTables (applyRemoteCatalog m s record) s := by
  unfold applyRemoteCatalog
  split <;> exact ⟨rfl, rfl, rfl, rfl⟩

theorem syncPresence_tables (peers : List (String × List String)) :
    SameTables (syncPresence m s peers) s := by
  induction peers generalizing s with
  | nil => exact ⟨rfl, rfl, rfl, rfl⟩
  | cons entry rest ih =>
    obtain ⟨mtrxai, addrs⟩ := entry
    unfold syncPresence
    split
    · exact ih
    · dsimp only
      split <;> split <;> exact ih.trans ⟨rfl, rfl, rfl, rfl⟩

theorem sendReverse_tables (peer : PeerId) (msgs : List StreamMessage) :
    SameTables (sendReverse m s peer msgs).1 s := by
  unfold sendReverse
  split
  · exact ⟨rfl, rfl, rfl, rfl⟩
  · split
    · exact ⟨rfl, rfl, rfl, rfl⟩
    · split
      · rename_i mtrxai _
        have dialed := @dialCached_tables m s mtrxai
        exact ⟨dialed.callers, dialed.queue, dialed.sent, dialed.streams⟩
      · exact ⟨rfl, rfl, rfl, rfl⟩

theorem serveEncryptedRequest_tables (peer : PeerId) (answers : Answers) (request : EncryptedRequest)
    (nonce ciphertext : Bytes) :
    SameTables (serveEncryptedRequest m s peer answers request nonce ciphertext).1 s := by
  unfold serveEncryptedRequest
  dsimp only
  split <;> exact (sendReverse_tables ..).trans ⟨rfl, rfl, rfl, rfl⟩

theorem onSwarmRequest_settled {peer : PeerId} {msg : StreamMessage} {answers : Answers}
    (settled : s.AllSettled tries) (keeps : KeepsPlaces s (.request peer msg answers)) :
    (onSwarmRequest m s peer msg answers).1.AllSettled tries := by
  have quiet : SameTables (onSwarmRequest m s peer msg answers).1 s →
      (onSwarmRequest m s peer msg answers).1.AllSettled tries :=
    fun same => same.allSettled (swarmStep_nextReqId (.request peer msg answers)) settled
  cases msg with
  | catalogSync record => exact quiet (applyRemoteCatalog_tables record)
  | proxyRequest reqId path body =>
    refine quiet ?_
    simp only [onSwarmRequest]
    split <;> exact ⟨rfl, rfl, rfl, rfl⟩
  | encryptedProxyRequest reqId path roomId pk nonce ciphertext version auth =>
    refine quiet ?_
    simp only [onSwarmRequest]
    split
    · exact ⟨rfl, rfl, rfl, rfl⟩
    · split
      · exact serveEncryptedRequest_tables ..
      · exact ⟨rfl, rfl, rfl, rfl⟩
  | encryptedProxyStreamChunk reqId seq nonce ciphertext version done =>
    simp only [onSwarmRequest]
    exact onEncryptedStreamChunk_settled settled _
  | proxyRequestEnd reqId =>
    refine quiet ?_
    simp only [onSwarmRequest, onProxyRequestEnd]
    split <;> exact ⟨rfl, rfl, rfl, rfl⟩
  | proxyResponseDone reqId => exact settled.dropSilent keeps
  | proxyResponseError reqId error => exact settled.dropSilent keeps
  | _ => exact quiet ⟨rfl, rfl, rfl, rfl⟩

/-! ## Local requests -/

/-- Different numbers are written differently. -/
private theorem toString_injective {a b : Nat} (same : toString a = toString b) : a = b := by
  have digits : Nat.toDigits 10 a = Nat.toDigits 10 b := by
    simpa using congrArg String.toList same
  simpa using congrArg (fun text => Nat.ofDigitChars 10 text 0) digits

/-- The next id is given to a request that is in no place yet. -/
theorem freshReqId_unnumbered (s : SwarmState) : ¬ s.Numbered s.freshReqId := by
  rintro ⟨n, below, named⟩
  have same : toString s.nextReqId = toString n := by
    simpa [SwarmState.freshReqId] using named
  have equal : s.nextReqId = n := toString_injective same
  omega

theorem locateProvider_tables (target : String) : SameTables (locateProvider m s target) s := by
  unfold locateProvider
  dsimp only
  split
  · exact bindPeer_tables ..
  · exact dialCached_tables _ |>.trans (bindPeer_tables ..)

theorem submitRequest_settled {made : Prop} {pending : PendingOutboundProxy} (sending : Sending)
    (numbered : made) (placeless : s.requestView pending.reqId = nowhere true) :
    Settled made pending.attempts
      ((submitRequest m s pending sending).1.requestView pending.reqId) := by
  unfold submitRequest
  split
  · exact sendOutboundProxy_settled sending numbered placeless
  · split
    · exact failProxyRequest_settled _ placeless
    · dsimp only
      rw [enqueue_view rfl, (dialCached_tables _).view, placeless]
      exact .queued numbered _ rfl

theorem submitRequest_viewOther {pending : PendingOutboundProxy} {sending : Sending}
    (differs : pending.reqId ≠ reqId)
    (unused : s.pendingProxyByOutboundId sending.outboundId = none) :
    (submitRequest m s pending sending).1.requestView reqId = s.requestView reqId := by
  unfold submitRequest
  split
  · exact sendOutboundProxy_viewOther differs unused
  · split
    · exact dropCaller_viewOther differs
    · exact (enqueue_viewOther differs).trans ((dialCached_tables _).view reqId)

/-- A command's request is placed, and the others stay where they are. -/
theorem onProxyCommand_settled {cmd : ProxyRequestCommand} {ranked : List String} {sending : Sending}
    (settled : s.AllSettled tries) (untried : tries s.freshReqId = 0)
    (unused : s.pendingProxyByOutboundId sending.outboundId = none) :
    (onProxyCommand m s cmd ranked sending).1.AllSettled tries := by
  have numbers := swarmStep_nextReqId (m := m) (s := s) (.proxyCommand cmd ranked sending)
  simp only [swarmStep] at numbers
  unfold onProxyCommand at numbers ⊢
  split
  · exact settled
  · rename_i target chosen
    rw [chosen] at numbers
    dsimp only at numbers ⊢
    have located := @locateProvider_tables m s target
    have around := @locateProvider_surroundings m s target
    have next : (locateProvider m s target).nextReqId = s.nextReqId :=
      congrArg Surroundings.nextReqId around
    have named : (locateProvider m s target).freshReqId = s.freshReqId := by
      unfold SwarmState.freshReqId
      rw [next]
    split
    · exact located.allSettled (Nat.le_of_eq next.symm) settled
    · rename_i small
      rw [if_neg small] at numbers
      have idle : s.requestView s.freshReqId = nowhere false := by
        refine (settled s.freshReqId).of_silent ?_
        by_contra waits
        exact freshReqId_unnumbered s ((settled s.freshReqId).of_waiting (by simpa using waits))
      have placeless : (locateProvider m s target).registerCaller.requestView s.freshReqId =
          nowhere true := by
        rw [SwarmState.registerCaller, named, dropStreams_view]
        have view : (locateProvider m s target).requestView s.freshReqId = nowhere false := by
          rw [located.view, idle]
        simp only [SwarmState.requestView, nowhere, RequestView.mk.injEq] at view ⊢
        simp [view.2.1, congrFun view.2.2.1]
      have numbered : (submitRequest m (locateProvider m s target).registerCaller
          (commandRequest m s cmd target) sending).1.Numbered s.freshReqId := by
        refine ⟨s.nextReqId, ?_, rfl⟩
        have counted : (submitRequest m (locateProvider m s target).registerCaller
            (commandRequest m s cmd target) sending).1.nextReqId =
            (locateProvider m s target).nextReqId + 1 :=
          congrArg Surroundings.nextReqId (submitRequest_surroundings _ _)
        rw [counted, next]
        exact Nat.lt_succ_self _
      intro other
      by_cases own : s.freshReqId = other
      · subst own
        rw [untried]
        exact @submitRequest_settled m (locateProvider m s target).registerCaller _
          (commandRequest m s cmd target) sending numbered placeless
      · rw [@submitRequest_viewOther m (locateProvider m s target).registerCaller other
          (commandRequest m s cmd target) sending own (located.sent ▸ unused)]
        have registered : (locateProvider m s target).registerCaller.requestView other =
            (locateProvider m s target).requestView other := by
          rw [SwarmState.registerCaller, named, dropStreams_viewOther own]
          simp [SwarmState.requestView, update_of_ne (Ne.symm own)]
        rw [registered, located.view]
        refine (settled other).imp ?_
        rintro ⟨n, below, written⟩
        exact ⟨n, Nat.lt_of_lt_of_le below numbers, written⟩

/-- A failed sending is tried again, or its caller is told. -/
theorem onOutboundFailure_settled {id : OutboundRequestId} {retryable : Bool} {error : String}
    {sending : Sending} (settled : s.AllSettled tries)
    (unused : s.pendingProxyByOutboundId sending.outboundId = none) :
    let after := (onOutboundFailure m s id retryable error sending).1
    after.AllSettled fun reqId => tries reqId +
      if (s.pendingProxyByOutboundId id).any (·.reqId = reqId) &&
        after.pendingProxyByReqId reqId then 1 else 0 := by
  unfold onOutboundFailure
  cases entry : s.pendingProxyByOutboundId id with
  | none => simpa using settled
  | some pending =>
    dsimp only
    obtain ⟨placeless, attempts, waits, -⟩ := dropSent_settled (settled pending.reqId) entry
    have numbered := (settled pending.reqId).of_waiting waits
    have free : (s.dropSent id).pendingProxyByOutboundId sending.outboundId = none := by
      by_cases same : sending.outboundId = id
      · subst same
        exact update_self ..
      · exact (update_of_ne same _ _).trans unused
    have others : ∀ other, pending.reqId ≠ other →
        (s.dropSent id).requestView other = s.requestView other :=
      fun other differs => dropSent_viewOther entry differs
    -- The request itself: `n` is one more than its tries so far, unless its caller is gone.
    have placed : ∀ u : SwarmState, u.nextReqId = s.nextReqId →
        (u.pendingProxyByReqId pending.reqId = true →
          Settled (s.Numbered pending.reqId) (pending.attempts + 1) (u.requestView pending.reqId)) →
        (u.pendingProxyByReqId pending.reqId = false →
          u.requestView pending.reqId = nowhere false) →
        (∀ other, pending.reqId ≠ other → u.requestView other = s.requestView other) →
        u.AllSettled fun reqId => tries reqId +
          if decide (pending.reqId = reqId) && u.pendingProxyByReqId reqId then 1 else 0 := by
      intro u numbers again gone rest other
      have same : u.Numbered other = s.Numbered other := by
        unfold SwarmState.Numbered
        rw [numbers]
      rw [same]
      by_cases own : pending.reqId = other
      · subst own
        cases caller : u.pendingProxyByReqId pending.reqId with
        | true => simpa [attempts, caller] using again caller
        | false =>
          rw [gone caller]
          exact .idle
      · simpa [own, rest other own] using settled other
    have idle : ∀ u : SwarmState, ∀ n,
        Settled (s.Numbered pending.reqId) n (u.requestView pending.reqId) →
        u.pendingProxyByReqId pending.reqId = false → u.requestView pending.reqId = nowhere false :=
      fun u n settled gone => settled.of_silent gone
    split
    · split
      · have again := @sendOutboundProxy_settled m (s.dropSent id) (s.Numbered pending.reqId)
          { pending with attempts := pending.attempts + 1 } sending numbered placeless
        refine placed _ (congrArg Surroundings.nextReqId (sendOutboundProxy_surroundings _ _))
          (fun _ => again) (idle _ _ again) fun other differs => ?_
        rw [@sendOutboundProxy_viewOther m (s.dropSent id) other
          { pending with attempts := pending.attempts + 1 } sending differs free, others other differs]
      · have again : Settled (s.Numbered pending.reqId) (pending.attempts + 1)
            (((s.dropSent id).enqueue { pending with attempts := pending.attempts + 1 }).requestView
              pending.reqId) := by
          rw [enqueue_view rfl, placeless]
          exact .queued numbered _ rfl
        refine placed _ rfl (fun _ => again) (idle _ _ again) fun other differs => ?_
        refine (enqueue_viewOther ?_).trans (others other differs)
        exact differs
    · have failed : Settled (s.Numbered pending.reqId) 0 ((failProxyRequest (s.dropSent id)
          pending.reqId ("Swarm proxy request failed: " ++ error)).1.requestView pending.reqId) :=
        failProxyRequest_settled _ placeless
      refine placed _ rfl (fun waits => ?_) (idle _ _ failed) fun other differs => ?_
      · simp [failProxyRequest, SwarmState.dropCaller] at waits
      · exact (dropCaller_viewOther differs).trans (others other differs)

/-- A failed sending beyond the last retry is never survived. -/
theorem survivesFailure_bounded {r : SwarmRecord} (settled : r.before.AllSettled tries)
    (survives : survivesFailure m reqId r = true) : tries reqId < maxProxySendAttempts := by
  unfold survivesFailure at survives
  split at survives
  · rename_i id retryable error sending event
    rw [event] at survives
    obtain ⟨named, waits⟩ := Bool.and_eq_true_iff.mp survives
    cases entry : r.before.pendingProxyByOutboundId id with
    | none =>
      rw [entry] at named
      cases named
    | some pending =>
      rw [entry] at named
      obtain rfl : pending.reqId = reqId := by simpa using named
      obtain ⟨-, attempts, -, -⟩ := dropSent_settled (settled pending.reqId) entry
      simp only [swarmStep, onOutboundFailure, entry] at waits
      split at waits
      · rename_i again
        rw [← attempts]
        simpa using (Bool.and_eq_true_iff.mp again).2
      · simp [failProxyRequest, SwarmState.dropCaller] at waits
  · cases survives

/-- A failure whose caller does not wait on is told to it. -/
theorem onOutboundFailure_told {id : OutboundRequestId} {pending : PendingOutboundProxy}
    (settled : s.AllSettled tries) (entry : s.pendingProxyByOutboundId id = some pending)
    (retryable : Bool) (error : String) (sending : Sending) :
    (onOutboundFailure m s id retryable error sending).1.pendingProxyByReqId pending.reqId = true ∨
      ∃ error', .deliver pending.reqId (.error error') ∈
        (onOutboundFailure m s id retryable error sending).2 := by
  obtain ⟨-, -, waits, -⟩ := dropSent_settled (settled pending.reqId) entry
  have waits' : (s.dropSent id).pendingProxyByReqId pending.reqId = true := waits
  unfold onOutboundFailure
  rw [entry]
  dsimp only
  split
  · split
    · exact sendOutboundProxy_caller (s.dropSent id)
        { pending with attempts := pending.attempts + 1 } sending waits'
    · exact .inl waits'
  · refine .inr ⟨"Swarm proxy request failed: " ++ error, ?_⟩
    simp [failProxyRequest, deliverLocal, waits']

/-! ## Connections -/

/-- Requests of the queue have different ids. -/
theorem SwarmState.AllSettled.distinct (settled : s.AllSettled tries) :
    (s.pendingOutboundProxies.map PendingOutboundProxy.reqId).Nodup := by
  rw [List.nodup_iff_count_le_one]
  intro reqId
  have counted : (s.pendingOutboundProxies.map PendingOutboundProxy.reqId).count reqId =
      (s.requestView reqId).queued.length := by
    rw [List.count_eq_countP, List.countP_map, SwarmState.requestView, List.countP_eq_length_filter]
    congr 1
  rw [counted]
  cases view : (s.requestView reqId).queued with
  | nil => exact Nat.zero_le _
  | cons pending rest =>
    obtain ⟨-, same⟩ := (settled reqId).of_queued view
    have single := congrArg RequestView.queued same
    rw [view] at single
    rw [single]
    exact Nat.le_refl _

/-- A flush leaves every request settled. -/
theorem flushedState_settled {peer : PeerId} {sendings : String → Sending}
    (settled : s.AllSettled tries) (fresh : FreshSendings s sendings s.pendingOutboundProxies) :
    (flushedState m s peer sendings).AllSettled tries := by
  let emptied : SwarmState := { s with
    connected := update s.connected peer true
    pendingOutboundProxies := [] }
  have fresh' : FreshSendings emptied sendings s.pendingOutboundProxies := ⟨fresh.unused, fresh.apart⟩
  intro reqId
  have numbers : (flushedState m s peer sendings).nextReqId = s.nextReqId :=
    congrArg Surroundings.nextReqId (flushedState_surroundings (m := m) s peer sendings)
  have numbered : (flushedState m s peer sendings).Numbered reqId = s.Numbered reqId := by
    unfold SwarmState.Numbered
    rw [numbers]
  have same : (flushedState m s peer sendings).requestView reqId =
      (flushPendingProxies m emptied peer sendings s.pendingOutboundProxies).1.requestView reqId := rfl
  rw [numbered, same]
  have flushed := @flush_settled m emptied reqId peer sendings (s.Numbered reqId)
    s.pendingOutboundProxies fresh' settled.distinct
  cases queue : (s.requestView reqId).queued with
  | nil =>
    have elsewhere : ∀ pending ∈ s.pendingOutboundProxies, pending.reqId ≠ reqId := by
      intro pending member
      simpa using List.filter_eq_nil_iff.mp queue pending member
    have unchanged : emptied.requestView reqId = s.requestView reqId := by
      rw [SwarmState.requestView, SwarmState.requestView, RequestView.mk.injEq]
      exact ⟨rfl, queue.symm, rfl, rfl⟩
    rw [flushed.1 elsewhere, unchanged]
    exact settled reqId
  | cons pending rest =>
    obtain ⟨attempts, view⟩ := (settled reqId).of_queued queue
    have member : pending ∈ s.pendingOutboundProxies ∧ pending.reqId = reqId := by
      have there : pending ∈ (s.requestView reqId).queued := by
        rw [queue]
        exact List.mem_cons_self
      simpa [SwarmState.requestView] using there
    have placeless : emptied.requestView reqId = nowhere true := by
      have waiting := congrArg RequestView.waiting view
      have sent := congrArg RequestView.sent view
      have streaming := congrArg RequestView.streaming view
      rw [SwarmState.requestView, nowhere, RequestView.mk.injEq]
      exact ⟨waiting, rfl, sent, streaming⟩
    have made := (settled reqId).of_waiting (congrArg RequestView.waiting view)
    have placed := flushed.2 pending member.1 member.2 made placeless
    rwa [attempts] at placed

theorem onConnectionEstablished_settled {peer : PeerId} {cached : List String}
    {sendings : String → Sending} (settled : s.AllSettled tries)
    (fresh : FreshSendings s sendings s.pendingOutboundProxies) :
    (onConnectionEstablished m s peer cached sendings).1.AllSettled tries := by
  have numbers := swarmStep_nextReqId (m := m) (s := s) (.connectionEstablished peer cached sendings)
  by_cases own : peer = m.localPeerId
  · unfold onConnectionEstablished
    rw [if_pos own]
    exact SameTables.allSettled ⟨rfl, rfl, rfl, rfl⟩ (Nat.le_refl _) settled
  · have flushed := @flushedState_settled m s tries peer sendings settled fresh
    rw [onConnectionEstablished_eq own]
    split
    · exact flushed
    · unfold mapConnectedPeer
      split
      · exact SameTables.allSettled ⟨rfl, rfl, rfl, rfl⟩ (Nat.le_refl _) flushed
      · exact SameTables.allSettled ⟨rfl, rfl, rfl, rfl⟩ (Nat.le_refl _) flushed

theorem onConnectionClosed_tables (peer : PeerId) (connected : Bool) :
    SameTables (onConnectionClosed m s peer connected) s := by
  unfold onConnectionClosed
  dsimp only
  split <;> exact ⟨rfl, rfl, rfl, rfl⟩

/-! ## Runs -/

/-- What a step leaves settled. -/
theorem swarmStep_settled {e : SwarmEvent} (settled : s.AllSettled tries)
    (untried : tries s.freshReqId = 0) (keeps : KeepsPlaces s e) :
    (swarmStep m s e).1.AllSettled fun reqId =>
      tries reqId + if survivesFailure m reqId ((swarmMachine m).record s e) then 1 else 0 := by
  have quiet : SameTables (swarmStep m s e).1 s → (swarmStep m s e).1.AllSettled tries :=
    fun same => same.allSettled (swarmStep_nextReqId e) settled
  cases e with
  | outboundFailure id retryable error sending => exact onOutboundFailure_settled settled keeps
  | request peer msg answers => exact onSwarmRequest_settled settled keeps
  | response peer id msg => exact onSwarmResponse_settled settled keeps
  | gossip source record => exact quiet (applyRemoteCatalog_tables record)
  | proxyCommand cmd ranked sending => exact onProxyCommand_settled settled untried keeps
  | connectionEstablished peer cached sendings => exact onConnectionEstablished_settled settled keeps
  | connectionClosed peer connected => exact quiet (onConnectionClosed_tables peer connected)
  | presence peers => exact quiet (syncPresence_tables peers)
  | proxyChanged proxy => exact quiet ⟨rfl, rfl, rfl, rfl⟩
  | requestsNumbered count => exact quiet ⟨rfl, rfl, rfl, rfl⟩

/-- The tables of a run: every request is settled, was tried again at most the allowed
number of times, and only if it was numbered. -/
structure SwarmState.Kept (m : SwarmManager) (past : List SwarmRecord) (s : SwarmState) : Prop where
  settled : s.AllSettled (retries m past)
  bounded : ∀ reqId, retries m past reqId ≤ maxProxySendAttempts
  counted : ∀ reqId, retries m past reqId ≠ 0 → s.Numbered reqId

theorem survivesFailure_waits {r : SwarmRecord} (survives : survivesFailure m reqId r = true) :
    (swarmStep m r.before r.event).1.pendingProxyByReqId reqId = true := by
  unfold survivesFailure at survives
  split at survives
  · exact (Bool.and_eq_true_iff.mp survives).2
  · cases survives

theorem kept_initial (proxy : ProxyState) (nextReqId : Nat) :
    (SwarmState.initial proxy nextReqId).Kept m [] where
  settled _ := .idle
  bounded _ := Nat.zero_le _
  counted _ tried := absurd rfl tried

theorem kept_step {past : List SwarmRecord} {e : SwarmEvent} (kept : s.Kept m past)
    (keeps : KeepsPlaces s e) :
    (swarmStep m s e).1.Kept m ((swarmMachine m).record s e :: past) := by
  have untried : retries m past s.freshReqId = 0 := by
    by_contra tried
    exact freshReqId_unnumbered s (kept.counted _ tried)
  have grows : ∀ reqId, s.Numbered reqId → (swarmStep m s e).1.Numbered reqId :=
    fun reqId ⟨n, below, named⟩ => ⟨n, Nat.lt_of_lt_of_le below (swarmStep_nextReqId e), named⟩
  have counts : ∀ reqId, retries m ((swarmMachine m).record s e :: past) reqId =
      retries m past reqId +
        if survivesFailure m reqId ((swarmMachine m).record s e) then 1 else 0 :=
    fun reqId => List.countP_cons
  have survived : ∀ reqId, survivesFailure m reqId ((swarmMachine m).record s e) = true →
      retries m past reqId < maxProxySendAttempts :=
    fun reqId survives => survivesFailure_bounded (r := (swarmMachine m).record s e) kept.settled
      survives
  refine ⟨?_, fun reqId => ?_, fun reqId tried => ?_⟩
  · intro reqId
    rw [counts]
    exact swarmStep_settled kept.settled untried keeps reqId
  · rw [counts]
    have below := kept.bounded reqId
    split
    · rename_i survives
      have strictly := survived reqId survives
      omega
    · exact below
  · rw [counts] at tried
    by_cases before : retries m past reqId = 0
    · split at tried
      · rename_i survives
        have placed := swarmStep_settled (m := m) kept.settled untried keeps reqId
        exact placed.of_waiting (survivesFailure_waits survives)
      · exact absurd before tried
    · exact grows reqId (kept.counted reqId before)

/-- In a run in which sendings are numbered freshly, responses end the requests they
answer and no peer's request ends one that is waited for: every request that is waited
for is in exactly one place and no other is in any; none is tried again more often than
allowed; a failure that is not survived is told to the caller; a flush ends. -/
theorem outbound_bookkeeping {proxy : ProxyState} {nextReqId : Nat} {past : List SwarmRecord}
    (ran : (swarmMachine m).Reaches (.initial proxy nextReqId) past s)
    (keeps : ∀ r ∈ past, KeepsPlaces r.before r.event) :
    (∀ reqId, Settled (s.Numbered reqId) (retries m past reqId) (s.requestView reqId)) ∧
    (∀ reqId, retries m past reqId ≤ maxProxySendAttempts) ∧
    (∀ id pending retryable error sending, s.pendingProxyByOutboundId id = some pending →
      (onOutboundFailure m s id retryable error sending).1.pendingProxyByReqId pending.reqId = true ∨
        ∃ error', .deliver pending.reqId (.error error') ∈
          (onOutboundFailure m s id retryable error sending).2) ∧
    ∀ peer sendings, s.connected peer = true →
      flushLoop m peer sendings (s.pendingOutboundProxies.length + 1) 0 s =
        some (flushPendingProxies m (s.setQueue []) peer sendings s.pendingOutboundProxies) := by
  have kept : s.Kept m past := ran.invariant (fun past s => s.Kept m past)
    (fun r => KeepsPlaces r.before r.event) (kept_initial proxy nextReqId)
    (fun _ _ _ kept keeps => kept_step kept keeps) keeps
  refine ⟨kept.settled, kept.bounded, ?_, ?_⟩
  · intro id pending retryable error sending entry
    exact onOutboundFailure_told kept.settled entry retryable error sending
  · intro peer sendings reached
    exact flushLoop_ends [] s.pendingOutboundProxies rfl reached

private def samplePlaces (events : List SwarmEvent) : List SwarmRecord × SwarmState :=
  (swarmMachine (sampleSwarmManager false false)).history sampleSwarm events

/-- A request for the peer `p`, sent under the number `id`. -/
private def placedCommand (id : OutboundRequestId) : SwarmEvent :=
  .proxyCommand ⟨some "p", "llama3", "/api/chat", sampleBody "llama3", none, none⟩ []
    ⟨⟨[], [], 0⟩, id⟩

/-- A request waits for the connection, is sent, fails, is sent again and is answered. -/
private def sampleRetried : List SwarmEvent :=
  [.gossip "P" (sampleCatalog "p" "P"), placedCommand 0,
    .connectionEstablished "P" [] fun _ => ⟨⟨[], [], 0⟩, 1⟩,
    .outboundFailure 1 true "connection closed" ⟨⟨[], [], 0⟩, 2⟩,
    .response "P" 2 (.proxyResponse "p2p_1" "done" none)]

theorem outbound_bookkeeping_sample :
    Settled ((samplePlaces sampleRetried).2.Numbered "p2p_1")
      (retries (sampleSwarmManager false false) (samplePlaces sampleRetried).1 "p2p_1")
      ((samplePlaces sampleRetried).2.requestView "p2p_1") := by
  refine (outbound_bookkeeping (m := sampleSwarmManager false false)
    (Machine.reaches_history _ sampleSwarm sampleRetried) ?_).1 "p2p_1"
  refine List.forall_mem_cons.mpr ⟨?_, List.forall_mem_cons.mpr ⟨?_, List.forall_mem_cons.mpr ⟨?_,
    List.forall_mem_cons.mpr ⟨?_, List.forall_mem_cons.mpr ⟨trivial, by simp⟩⟩⟩⟩⟩
  · have asked : AnswersAsked (samplePlaces (sampleRetried.take 4)).2 "P" 2 "p2p_1" := by
      decide
    exact asked
  · show SwarmState.pendingProxyByOutboundId _ 2 = none
    exact Option.isNone_iff_eq_none.mp (by decide)
  · refine ⟨fun _ _ => Option.isNone_iff_eq_none.mp (by decide), ?_⟩
    decide
  · show SwarmState.pendingProxyByOutboundId _ 0 = none
    exact Option.isNone_iff_eq_none.mp (by decide)

/-- A peer ends a request that another peer was asked, whose sending stays noted. -/
theorem request_left_behind :
    ∃ past s, (swarmMachine (sampleSwarmManager false false)).Reaches sampleSwarm past s ∧
      ¬ ∀ reqId, Settled (s.Numbered reqId) (retries (sampleSwarmManager false false) past reqId)
        (s.requestView reqId) := by
  let events : List SwarmEvent := [.gossip "P" (sampleCatalog "p" "P"),
    .connectionEstablished "P" [] fun _ => ⟨⟨[], [], 0⟩, 1⟩, placedCommand 2,
    .request "Q" (.proxyResponseDone "p2p_1") sampleAnswers]
  refine ⟨(samplePlaces events).1, (samplePlaces events).2, Machine.reaches_history _ _ _, ?_⟩
  intro settled
  have ended : ((samplePlaces events).2.requestView "p2p_1").waiting = false := by decide
  have noted : (((samplePlaces events).2.requestView "p2p_1").sent 2).isSome = true := by
    decide
  rw [(settled "p2p_1").of_silent ended] at noted
  cases noted

end MtrxPeer
