import MtrxPeer.PeerNames
import MtrxPeer.SwarmOutbound

/-! Where a swarm manager keeps the requests that local callers wait for: the queue of
those that wait for a connection, the table of those sent, and the table of the
encrypted streams. -/
namespace MtrxPeer

open Function (update update_of_ne update_self)

variable {m : SwarmManager} {s t : SwarmState} {reqId other : String}

/-! ## One request -/

/-- What a manager's tables hold of one request. -/
structure RequestView where
  waiting : Bool
  queued : List PendingOutboundProxy
  sent : OutboundRequestId → Option PendingOutboundProxy
  streaming : Bool

def SwarmState.requestView (s : SwarmState) (reqId : String) : RequestView where
  waiting := s.pendingProxyByReqId reqId
  queued := s.pendingOutboundProxies.filter (·.reqId = reqId)
  sent := fun id => (s.pendingProxyByOutboundId id).filter (·.reqId = reqId)
  streaming := (s.pendingEncryptedStreams reqId).isSome

namespace RequestView

/-- A request that is in no place. -/
def nowhere (waiting : Bool) : RequestView := ⟨waiting, [], fun _ => none, false⟩

/-- A request with a caller was `made`, is in exactly one place and was tried again
`tries` times so far; a request without a caller is in no place. -/
inductive Settled (made : Prop) (tries : Nat) : RequestView → Prop where
  | idle : Settled made tries (nowhere false)
  | queued (numbered : made) (pending : PendingOutboundProxy) (attempts : pending.attempts = tries) :
      Settled made tries ⟨true, [pending], fun _ => none, false⟩
  | sent (numbered : made) (id : OutboundRequestId) (pending : PendingOutboundProxy)
      (attempts : pending.attempts = tries) :
      Settled made tries ⟨true, [], update (fun _ => none) id (some pending), false⟩
  | streaming (numbered : made) : Settled made tries ⟨true, [], fun _ => none, true⟩

end RequestView

open RequestView (nowhere Settled)

/-! ## Setters -/

/-- The tables of requests are as before. -/
structure SameTables (t s : SwarmState) : Prop where
  callers : t.pendingProxyByReqId = s.pendingProxyByReqId
  queue : t.pendingOutboundProxies = s.pendingOutboundProxies
  sent : t.pendingProxyByOutboundId = s.pendingProxyByOutboundId
  streams : t.pendingEncryptedStreams = s.pendingEncryptedStreams

theorem SameTables.trans {u : SwarmState} (first : SameTables u t) (second : SameTables t s) :
    SameTables u s :=
  ⟨first.callers.trans second.callers, first.queue.trans second.queue,
    first.sent.trans second.sent, first.streams.trans second.streams⟩

theorem SameTables.view (same : SameTables t s) (reqId : String) :
    t.requestView reqId = s.requestView reqId := by
  unfold SwarmState.requestView
  rw [same.callers, same.queue, same.sent, same.streams]

theorem bindPeer_tables (mtrxai : String) (peer : PeerId) : SameTables (s.bindPeer mtrxai peer) s :=
  ⟨rfl, rfl, rfl, rfl⟩

theorem dialCached_tables (mtrxai : String) : SameTables (dialCached m s mtrxai) s := by
  unfold dialCached
  split
  · exact ⟨rfl, rfl, rfl, rfl⟩
  · exact bindPeer_tables ..

theorem resolve_tables (mtrxai : String) : SameTables (resolveLibp2pPeer m s mtrxai) s := by
  unfold resolveLibp2pPeer
  split
  · exact ⟨rfl, rfl, rfl, rfl⟩
  · exact bindPeer_tables ..

theorem dropCaller_view :
    (s.dropCaller reqId).requestView reqId = { s.requestView reqId with waiting := false } := by
  simp [SwarmState.requestView, SwarmState.dropCaller]

theorem dropCaller_viewOther (differs : other ≠ reqId) :
    (s.dropCaller other).requestView reqId = s.requestView reqId := by
  simp [SwarmState.requestView, SwarmState.dropCaller, update_of_ne differs.symm]

theorem dropStreams_view :
    (s.dropStreams reqId).requestView reqId = { s.requestView reqId with streaming := false } := by
  simp [SwarmState.requestView, SwarmState.dropStreams]

theorem dropStreams_viewOther (differs : other ≠ reqId) :
    (s.dropStreams other).requestView reqId = s.requestView reqId := by
  simp [SwarmState.requestView, SwarmState.dropStreams, update_of_ne differs.symm]

theorem setStream_view (entry : Option PendingEncryptedStreamCtx) :
    ({ s with pendingEncryptedStreams := update s.pendingEncryptedStreams reqId entry } :
      SwarmState).requestView reqId = { s.requestView reqId with streaming := entry.isSome } := by
  simp [SwarmState.requestView]

theorem setStream_viewOther (differs : other ≠ reqId) (entry : Option PendingEncryptedStreamCtx) :
    ({ s with pendingEncryptedStreams := update s.pendingEncryptedStreams other entry } :
      SwarmState).requestView reqId = s.requestView reqId := by
  simp [SwarmState.requestView, update_of_ne differs.symm]

theorem enqueue_view {pending : PendingOutboundProxy} (own : pending.reqId = reqId) :
    (s.enqueue pending).requestView reqId =
      { s.requestView reqId with queued := (s.requestView reqId).queued ++ [pending] } := by
  simp [SwarmState.requestView, SwarmState.enqueue, own]

theorem enqueue_viewOther {pending : PendingOutboundProxy} (differs : pending.reqId ≠ reqId) :
    (s.enqueue pending).requestView reqId = s.requestView reqId := by
  simp [SwarmState.requestView, SwarmState.enqueue, differs]

/-- Entering a request among those sent, or taking one out. -/
theorem setSent_view (id : OutboundRequestId) (entry : Option PendingOutboundProxy) :
    ({ s with pendingProxyByOutboundId := update s.pendingProxyByOutboundId id entry } :
      SwarmState).requestView reqId =
      { s.requestView reqId with
        sent := update (s.requestView reqId).sent id (entry.filter (·.reqId = reqId)) } := by
  have sent : (fun probe => (update s.pendingProxyByOutboundId id entry probe).filter
      (·.reqId = reqId)) =
      update (fun probe => (s.pendingProxyByOutboundId probe).filter (·.reqId = reqId)) id
        (entry.filter (·.reqId = reqId)) := by
    funext probe
    by_cases same : probe = id
    · subst same
      simp
    · rw [update_of_ne same, update_of_ne same]
  simp only [SwarmState.requestView, sent]

theorem noteSent_view {id : OutboundRequestId} {pending : PendingOutboundProxy}
    (own : pending.reqId = reqId) :
    (s.noteSent id pending).requestView reqId =
      { s.requestView reqId with sent := update (s.requestView reqId).sent id (some pending) } := by
  have kept : (some pending).filter (·.reqId = reqId) = some pending := by
    simp [Option.filter_some, own]
  rw [SwarmState.noteSent, setSent_view, kept]

/-- Another request is noted under a number that is not in use. -/
theorem noteSent_viewOther {id : OutboundRequestId} {pending : PendingOutboundProxy}
    (differs : pending.reqId ≠ reqId) (unused : s.pendingProxyByOutboundId id = none) :
    (s.noteSent id pending).requestView reqId = s.requestView reqId := by
  have elsewhere : (some pending).filter (·.reqId = reqId) = (s.requestView reqId).sent id := by
    simp [Option.filter_some, differs, SwarmState.requestView, unused]
  rw [SwarmState.noteSent, setSent_view, elsewhere, Function.update_eq_self]

theorem dropSent_view (id : OutboundRequestId) :
    (s.dropSent id).requestView reqId =
      { s.requestView reqId with sent := update (s.requestView reqId).sent id none } :=
  setSent_view id none

/-- Forgetting the sending of another request. -/
theorem dropSent_viewOther {id : OutboundRequestId} {pending : PendingOutboundProxy}
    (entry : s.pendingProxyByOutboundId id = some pending) (differs : pending.reqId ≠ reqId) :
    (s.dropSent id).requestView reqId = s.requestView reqId := by
  have elsewhere : none = (s.requestView reqId).sent id := by
    simp [SwarmState.requestView, entry, Option.filter_some, differs]
  rw [dropSent_view, elsewhere, Function.update_eq_self]

/-! ## Settled requests -/

namespace RequestView.Settled

variable {made : Prop} {tries : Nat} {view : RequestView} {pending : PendingOutboundProxy}

theorem of_silent (settled : Settled made tries view) (silent : view.waiting = false) :
    view = nowhere false := by
  cases settled with
  | idle => rfl
  | _ => cases silent

theorem of_sent {id : OutboundRequestId} (settled : Settled made tries view)
    (entry : view.sent id = some pending) :
    pending.attempts = tries ∧
      view = ⟨true, [], update (fun _ => none) id (some pending), false⟩ := by
  cases settled with
  | sent _ id' pending' attempts =>
    by_cases same : id = id'
    · subst same
      obtain rfl : pending' = pending := by simpa using entry
      exact ⟨attempts, rfl⟩
    · simp [update_of_ne same] at entry
  | _ => cases entry

theorem of_queued {rest : List PendingOutboundProxy} (settled : Settled made tries view)
    (entry : view.queued = pending :: rest) :
    pending.attempts = tries ∧ view = ⟨true, [pending], fun _ => none, false⟩ := by
  cases settled with
  | queued _ pending' attempts =>
    obtain ⟨rfl, -⟩ := List.cons.inj entry
    exact ⟨attempts, rfl⟩
  | _ => cases entry

/-- Only requests that were made have a caller. -/
theorem of_waiting (settled : Settled made tries view) (waits : view.waiting = true) : made := by
  cases settled with
  | idle => cases waits
  | queued numbered => exact numbered
  | sent numbered => exact numbered
  | streaming numbered => exact numbered

theorem imp {made' : Prop} (settled : Settled made tries view) (weaker : made → made') :
    Settled made' tries view := by
  cases settled with
  | idle => exact .idle
  | queued numbered pending attempts => exact .queued (weaker numbered) pending attempts
  | sent numbered id pending attempts => exact .sent (weaker numbered) id pending attempts
  | streaming numbered => exact .streaming (weaker numbered)

theorem of_streaming (settled : Settled made tries view) (streams : view.streaming = true) :
    view = ⟨true, [], fun _ => none, true⟩ := by
  cases settled with
  | streaming _ => rfl
  | _ => cases streams

end RequestView.Settled

/-- A settled request whose sending is answered or fails is in no place. -/
theorem dropSent_settled {made : Prop} {tries : Nat} {id : OutboundRequestId} {pending : PendingOutboundProxy}
    (settled : Settled made tries (s.requestView pending.reqId))
    (entry : s.pendingProxyByOutboundId id = some pending) :
    (s.dropSent id).requestView pending.reqId = nowhere true ∧ pending.attempts = tries ∧
      s.pendingProxyByReqId pending.reqId = true ∧
      s.pendingEncryptedStreams pending.reqId = none := by
  have here : (s.requestView pending.reqId).sent id = some pending := by
    simp [SwarmState.requestView, entry, Option.filter_some]
  obtain ⟨attempts, view⟩ := settled.of_sent here
  refine ⟨?_, attempts, congrArg RequestView.waiting view, ?_⟩
  · rw [dropSent_view, view]
    simp [nowhere]
  · simpa [SwarmState.requestView, nowhere] using congrArg RequestView.streaming view

/-- Failing a request that is in no place. -/
theorem failProxyRequest_settled {made : Prop} {tries : Nat} (error : String)
    (placeless : s.requestView reqId = nowhere true) :
    Settled made tries ((failProxyRequest s reqId error).1.requestView reqId) := by
  have idle : (failProxyRequest s reqId error).1.requestView reqId = nowhere false := by
    rw [failProxyRequest, dropCaller_view, placeless]
    rfl
  rw [idle]
  exact .idle

/-! ## Sending -/

/-- What is kept of a request is the same request. -/
theorem outboundMessage_attempts {config : ClientConfig} {catalogPk : Option String} {draw : Draw}
    {pending kept : PendingOutboundProxy} {msg : StreamMessage}
    (made : outboundMessage m config catalogPk draw pending = .ok (msg, kept)) :
    kept.attempts = pending.attempts := by
  unfold outboundMessage at made
  split at made
  · split at made
    · cases made
    · split at made
      · cases made
      · split at made
        · cases made
        · obtain ⟨-, rfl⟩ := Prod.mk.inj (Except.ok.inj made)
          rfl
  · obtain ⟨-, rfl⟩ := Prod.mk.inj (Except.ok.inj made)
    rfl

theorem forgetStreams_view {pending : PendingOutboundProxy}
    (placeless : s.requestView pending.reqId = nowhere true) :
    (forgetStreams s pending).requestView pending.reqId = nowhere true := by
  unfold forgetStreams
  split
  · rw [dropStreams_view, placeless]
    rfl
  · exact placeless

theorem forgetStreams_viewOther {pending : PendingOutboundProxy} (differs : pending.reqId ≠ reqId) :
    (forgetStreams s pending).requestView reqId = s.requestView reqId := by
  unfold forgetStreams
  split
  · exact dropStreams_viewOther differs
  · rfl

theorem forgetStreams_sent (pending : PendingOutboundProxy) :
    (forgetStreams s pending).pendingProxyByOutboundId = s.pendingProxyByOutboundId := by
  unfold forgetStreams
  split <;> rfl

/-- A request that is in no place is sent, queued or failed. -/
theorem sendOutboundProxy_settled {made : Prop} {pending : PendingOutboundProxy} (sending : Sending)
    (numbered : made)
    (placeless : s.requestView pending.reqId = nowhere true) :
    Settled made pending.attempts
      ((sendOutboundProxy m s pending sending).1.requestView pending.reqId) := by
  have resolved := (@resolve_tables m s pending.targetMtrxaiPeer).view pending.reqId
  rw [placeless] at resolved
  unfold sendOutboundProxy
  dsimp only
  split
  · rw [enqueue_view rfl, resolved]
    exact .queued numbered _ rfl
  · have forgotten := @forgetStreams_view (resolveLibp2pPeer m s pending.targetMtrxaiPeer)
      { pending with libp2pPeer := resolvedPeer m s pending.targetMtrxaiPeer } resolved
    split
    · exact failProxyRequest_settled _ forgotten
    · rename_i made
      have named := (outboundMessage_requestId made).2.1
      have attempts := outboundMessage_attempts made
      dsimp only at named attempts ⊢
      rw [noteSent_view named, forgotten]
      exact .sent numbered _ _ attempts

/-- Sending a request leaves the places of the others. -/
theorem sendOutboundProxy_viewOther {pending : PendingOutboundProxy} {sending : Sending}
    (differs : pending.reqId ≠ reqId)
    (unused : s.pendingProxyByOutboundId sending.outboundId = none) :
    (sendOutboundProxy m s pending sending).1.requestView reqId = s.requestView reqId := by
  have same := @resolve_tables m s pending.targetMtrxaiPeer
  unfold sendOutboundProxy
  dsimp only
  split
  · refine (enqueue_viewOther ?_).trans (same.view reqId)
    exact differs
  · have forgotten := @forgetStreams_viewOther (resolveLibp2pPeer m s pending.targetMtrxaiPeer) reqId
      { pending with libp2pPeer := resolvedPeer m s pending.targetMtrxaiPeer } differs
    split
    · dsimp only [failProxyRequest]
      rw [dropCaller_viewOther differs, forgotten, same.view]
    · rename_i made
      have free : (forgetStreams (resolveLibp2pPeer m s pending.targetMtrxaiPeer)
          { pending with libp2pPeer := resolvedPeer m s pending.targetMtrxaiPeer
            }).pendingProxyByOutboundId sending.outboundId = none := by
        rw [forgetStreams_sent, same.sent]
        exact unused
      have named := (outboundMessage_requestId made).2.1.trans_ne differs
      dsimp only
      rw [noteSent_viewOther named free, forgotten, same.view]

/-- The numbers in use after a sending. -/
theorem sendOutboundProxy_unused {pending : PendingOutboundProxy} {sending : Sending}
    {id : OutboundRequestId} (apart : id ≠ sending.outboundId)
    (unused : s.pendingProxyByOutboundId id = none) :
    (sendOutboundProxy m s pending sending).1.pendingProxyByOutboundId id = none := by
  have same := @resolve_tables m s pending.targetMtrxaiPeer
  have free : (resolveLibp2pPeer m s pending.targetMtrxaiPeer).pendingProxyByOutboundId id = none := by
    rw [same.sent]
    exact unused
  unfold sendOutboundProxy
  dsimp only
  split
  · exact free
  · split
    · rw [← forgetStreams_sent] at free
      exact free
    · rw [← forgetStreams_sent] at free
      exact (update_of_ne apart _ _).trans free

/-- A caller stays, or is told of an error. -/
theorem sendOutboundProxy_caller (s : SwarmState) (pending : PendingOutboundProxy)
    (sending : Sending) (waits : s.pendingProxyByReqId pending.reqId = true) :
    (sendOutboundProxy m s pending sending).1.pendingProxyByReqId pending.reqId = true ∨
      ∃ error, .deliver pending.reqId (.error error) ∈ (sendOutboundProxy m s pending sending).2 := by
  have same := @resolve_tables m s pending.targetMtrxaiPeer
  have waits' : (resolveLibp2pPeer m s pending.targetMtrxaiPeer).pendingProxyByReqId pending.reqId =
      true := by
    rw [same.callers]
    exact waits
  have forgotten : ∀ kept, (forgetStreams (resolveLibp2pPeer m s pending.targetMtrxaiPeer)
      kept).pendingProxyByReqId pending.reqId = true := by
    intro kept
    unfold forgetStreams
    split <;> exact waits'
  unfold sendOutboundProxy
  dsimp only
  split
  · exact .inl waits'
  · split
    · rename_i error _
      refine .inr ⟨error, ?_⟩
      simp [failProxyRequest, deliverLocal, forgotten]
    · exact .inl (forgotten _)

/-! ## Flushing -/

/-- What the queued requests draw is numbered freshly. -/
structure FreshSendings (s : SwarmState) (sendings : String → Sending)
    (queue : List PendingOutboundProxy) : Prop where
  unused : ∀ pending ∈ queue,
    s.pendingProxyByOutboundId (sendings pending.reqId).outboundId = none
  apart : ∀ pending ∈ queue, ∀ later ∈ queue, pending.reqId ≠ later.reqId →
    (sendings pending.reqId).outboundId ≠ (sendings later.reqId).outboundId

variable {peer : PeerId} {sendings : String → Sending}

/-- A queued request that is flushed is sent, failed, or queued again. -/
private theorem flushOne_settled {made : Prop} {pending : PendingOutboundProxy} (numbered : made)
    (placeless : s.requestView pending.reqId = nowhere true) :
    Settled made pending.attempts ((flushOne m s peer sendings pending).1.requestView pending.reqId) := by
  have resolved := (@resolve_tables m s pending.targetMtrxaiPeer).view pending.reqId
  rw [placeless] at resolved
  unfold flushOne
  dsimp only
  split
  · exact @sendOutboundProxy_settled m _ made
      { pending with libp2pPeer := resolvedPeer m s pending.targetMtrxaiPeer } _ numbered resolved
  · rw [enqueue_view rfl, resolved]
    exact .queued numbered _ rfl

private theorem flushOne_viewOther {pending : PendingOutboundProxy} (differs : pending.reqId ≠ reqId)
    (unused : s.pendingProxyByOutboundId (sendings pending.reqId).outboundId = none) :
    (flushOne m s peer sendings pending).1.requestView reqId = s.requestView reqId := by
  have same := @resolve_tables m s pending.targetMtrxaiPeer
  unfold flushOne
  dsimp only
  split
  · refine (sendOutboundProxy_viewOther ?_ ?_).trans (same.view reqId)
    · exact differs
    · rw [same.sent]
      exact unused
  · refine (enqueue_viewOther ?_).trans (same.view reqId)
    exact differs

private theorem flushOne_unused {pending : PendingOutboundProxy} {id : OutboundRequestId}
    (apart : id ≠ (sendings pending.reqId).outboundId) (unused : s.pendingProxyByOutboundId id = none) :
    (flushOne m s peer sendings pending).1.pendingProxyByOutboundId id = none := by
  have same := @resolve_tables m s pending.targetMtrxaiPeer
  rw [← same.sent] at unused
  unfold flushOne
  dsimp only
  split
  · exact sendOutboundProxy_unused apart unused
  · exact unused

/-- The rest of a queue is still numbered freshly after its first request. -/
private theorem FreshSendings.rest {pending : PendingOutboundProxy} {rest : List PendingOutboundProxy}
    (fresh : FreshSendings s sendings (pending :: rest))
    (distinct : ∀ later ∈ rest, pending.reqId ≠ later.reqId) :
    FreshSendings (flushOne m s peer sendings pending).1 sendings rest where
  unused later member := flushOne_unused
    (fresh.apart pending List.mem_cons_self later (List.mem_cons_of_mem _ member)
      (distinct later member)).symm
    (fresh.unused later (List.mem_cons_of_mem _ member))
  apart first member later member' := fresh.apart first (List.mem_cons_of_mem _ member) later
    (List.mem_cons_of_mem _ member')

/-- A flush leaves a request that is not in the queue where it was, and settles one that
is. -/
theorem flush_settled {made : Prop} {queue : List PendingOutboundProxy} (fresh : FreshSendings s sendings queue)
    (distinct : (queue.map PendingOutboundProxy.reqId).Nodup) :
    ((∀ pending ∈ queue, pending.reqId ≠ reqId) →
      (flushPendingProxies m s peer sendings queue).1.requestView reqId = s.requestView reqId) ∧
    ∀ pending ∈ queue, pending.reqId = reqId → made → s.requestView reqId = nowhere true →
      Settled made pending.attempts
        ((flushPendingProxies m s peer sendings queue).1.requestView reqId) := by
  induction queue generalizing s with
  | nil => exact ⟨fun _ => rfl, fun _ member => nomatch member⟩
  | cons pending rest ih =>
    obtain ⟨others, distinct'⟩ := List.nodup_cons.mp distinct
    have apart : ∀ later ∈ rest, pending.reqId ≠ later.reqId := by
      intro later member same
      exact others (same ▸ List.mem_map_of_mem member)
    have later := ih (@FreshSendings.rest m s peer sendings pending rest fresh apart) distinct'
    have unused := fresh.unused pending List.mem_cons_self
    rw [flush_cons]
    refine ⟨fun elsewhere => ?_, fun queued member own numbered placeless => ?_⟩
    · refine (later.1 fun other member => elsewhere other (List.mem_cons_of_mem _ member)).trans ?_
      exact flushOne_viewOther (elsewhere pending List.mem_cons_self) unused
    · rcases List.mem_cons.mp member with rfl | member
      · subst own
        dsimp only
        rw [later.1 fun other member => (apart other member).symm]
        exact flushOne_settled numbered placeless
      · refine later.2 queued member own numbered ?_
        rw [flushOne_viewOther (own ▸ apart queued member) unused]
        exact placeless

/-- The loop of `flush_pending_proxies_for_peer` over the queue as it stands, from the
position `i`. `fuel` bounds its rounds. -/
def flushLoop (m : SwarmManager) (peer : PeerId) (sendings : String → Sending) :
    (fuel : Nat) → (i : Nat) → SwarmState → Option (SwarmState × List SwarmOutput)
  | 0, _, _ => none
  | fuel + 1, i, s =>
    match s.pendingOutboundProxies[i]? with
    | none => some (s, [])
    | some pending =>
      let resolved := resolvedPeer m s pending.targetMtrxaiPeer
      let s := resolveLibp2pPeer m s pending.targetMtrxaiPeer
      let pending := { pending with libp2pPeer := resolved }
      if resolved = peer && s.connected resolved then
        let s := { s with pendingOutboundProxies := s.pendingOutboundProxies.eraseIdx i }
        let (s, sent) := sendOutboundProxy m s pending (sendings pending.reqId)
        (flushLoop m peer sendings fuel i s).map fun (s, later) => (s, sent ++ later)
      else
        let s := { s with pendingOutboundProxies := s.pendingOutboundProxies.set i pending }
        flushLoop m peer sendings fuel (i + 1) s

/-- Resolving a name again gives the same identity. -/
theorem resolvedPeer_resolve (s : SwarmState) (name : String) :
    resolvedPeer m (resolveLibp2pPeer m s name) name = resolvedPeer m s name := by
  unfold resolveLibp2pPeer
  split
  · rfl
  · simp [resolvedPeer, SwarmState.bindPeer]

def SwarmState.setQueue (s : SwarmState) (queue : List PendingOutboundProxy) : SwarmState :=
  { s with pendingOutboundProxies := queue }

theorem resolve_setQueue (queue : List PendingOutboundProxy) (name : String) :
    resolveLibp2pPeer m (s.setQueue queue) name =
      (resolveLibp2pPeer m s name).setQueue queue := by
  unfold resolveLibp2pPeer SwarmState.setQueue
  dsimp only
  split <;> rfl

/-- What `send_outbound_proxy` does once the peer is known to be connected. -/
def sendConnected (m : SwarmManager) (s : SwarmState) (pending : PendingOutboundProxy)
    (sending : Sending) : SwarmState × List SwarmOutput :=
  let s := forgetStreams s pending
  match outboundMessage m s.proxy.config
    ((s.peerCache pending.targetMtrxaiPeer).bind CachedPeerRecord.providerStaticPk)
    sending.draw pending with
  | .error error => failProxyRequest s pending.reqId error
  | .ok (msg, kept) => (s.noteSent sending.outboundId kept, [.send pending.libp2pPeer msg])

theorem sendOutboundProxy_connected {pending : PendingOutboundProxy} (sending : Sending)
    (reached : s.connected (resolvedPeer m s pending.targetMtrxaiPeer) = true) :
    sendOutboundProxy m s pending sending =
      sendConnected m (resolveLibp2pPeer m s pending.targetMtrxaiPeer)
        { pending with libp2pPeer := resolvedPeer m s pending.targetMtrxaiPeer } sending := by
  have connected : (resolveLibp2pPeer m s pending.targetMtrxaiPeer).connected = s.connected :=
    congrArg Surroundings.connected (resolveLibp2pPeer_surroundings _)
  unfold sendOutboundProxy
  dsimp only
  rw [if_neg (by simp [connected, reached])]
  rfl

theorem sendConnected_setQueue (queue : List PendingOutboundProxy) (pending : PendingOutboundProxy)
    (sending : Sending) :
    sendConnected m (s.setQueue queue) pending sending =
      ((sendConnected m s pending sending).1.setQueue queue,
        (sendConnected m s pending sending).2) := by
  have forgotten : forgetStreams (s.setQueue queue) pending =
      (forgetStreams s pending).setQueue queue := by
    unfold forgetStreams
    split <;> rfl
  unfold sendConnected
  rw [forgotten]
  generalize forgetStreams s pending = forgot
  dsimp only [SwarmState.setQueue]
  cases outboundMessage m forgot.proxy.config
    ((forgot.peerCache pending.targetMtrxaiPeer).bind CachedPeerRecord.providerStaticPk) sending.draw
    pending with
  | error error => rfl
  | ok made => rfl

/-- A flushed request whose peer is the one connected is sent. -/
private theorem flushOne_connected {pending : PendingOutboundProxy}
    (reached : s.connected peer = true)
    (own : resolvedPeer m s pending.targetMtrxaiPeer = peer) :
    flushOne m s peer sendings pending =
      sendConnected m (resolveLibp2pPeer m s pending.targetMtrxaiPeer)
        { pending with libp2pPeer := peer } (sendings pending.reqId) := by
  have connected : (resolveLibp2pPeer m s pending.targetMtrxaiPeer).connected = s.connected :=
    congrArg Surroundings.connected (resolveLibp2pPeer_surroundings _)
  have bound : (resolveLibp2pPeer m s pending.targetMtrxaiPeer).mtrxaiToLibp2p
      pending.targetMtrxaiPeer ≠ none := fun unbound => (resolve_names s unbound).2 rfl
  have again := resolvedPeer_resolve (m := m) s pending.targetMtrxaiPeer
  unfold flushOne
  dsimp only
  rw [if_pos own, sendOutboundProxy_connected]
  · dsimp only
    rw [resolve_bound bound, again, own]
  · dsimp only
    rw [again, own, connected]
    exact reached

private theorem flushOne_setQueue {pending : PendingOutboundProxy} (reached : s.connected peer = true)
    (own : resolvedPeer m s pending.targetMtrxaiPeer = peer) (queue : List PendingOutboundProxy) :
    flushOne m (s.setQueue queue) peer sendings pending =
      ((flushOne m s peer sendings pending).1.setQueue queue,
        (flushOne m s peer sendings pending).2) := by
  have own' : resolvedPeer m (s.setQueue queue) pending.targetMtrxaiPeer = peer := own
  rw [flushOne_connected reached own, flushOne_connected (s := s.setQueue queue) reached own',
    resolve_setQueue, sendConnected_setQueue]

theorem flushOne_surroundings (pending : PendingOutboundProxy) :
    (flushOne m s peer sendings pending).1.surroundings = s.surroundings :=
  flushPendingProxies_surroundings peer sendings [pending]

/-- One round of the loop sends a request, or goes on to the next. -/
private theorem flushLoop_round {pending : PendingOutboundProxy} {fuel : Nat}
    {front rest : List PendingOutboundProxy}
    (queue : s.pendingOutboundProxies = front ++ pending :: rest)
    (reached : s.connected peer = true) :
    flushLoop m peer sendings (fuel + 1) front.length s =
      if resolvedPeer m s pending.targetMtrxaiPeer = peer then
        (flushLoop m peer sendings fuel front.length
          (flushOne m (s.setQueue (front ++ rest)) peer sendings pending).1).map fun (t, later) =>
            (t, (flushOne m (s.setQueue (front ++ rest)) peer sendings pending).2 ++ later)
      else flushLoop m peer sendings fuel (front.length + 1)
        ((resolveLibp2pPeer m s pending.targetMtrxaiPeer).setQueue
          (front ++ { pending with
            libp2pPeer := resolvedPeer m s pending.targetMtrxaiPeer } :: rest)) := by
  have here : s.pendingOutboundProxies[front.length]? = some pending := by
    rw [queue, List.getElem?_append_right (Nat.le_refl _), Nat.sub_self]
    rfl
  have resolved := @resolve_tables m s pending.targetMtrxaiPeer
  have connected : (resolveLibp2pPeer m s pending.targetMtrxaiPeer).connected = s.connected :=
    congrArg Surroundings.connected (resolveLibp2pPeer_surroundings _)
  rw [flushLoop, here]
  dsimp only
  by_cases own : resolvedPeer m s pending.targetMtrxaiPeer = peer
  · have erased : (front ++ pending :: rest).eraseIdx front.length = front ++ rest := by
      rw [List.eraseIdx_append_of_length_le (Nat.le_refl _), Nat.sub_self]
      rfl
    rw [if_pos own, if_pos (by simp [own, connected, reached]), resolved.queue, queue, erased,
      flushOne, resolve_setQueue]
    have own' : resolvedPeer m (s.setQueue (front ++ rest)) pending.targetMtrxaiPeer = peer := own
    rw [own, own', if_pos rfl]
    rfl
  · have replaced : ∀ other, (front ++ pending :: rest).set front.length other =
        front ++ other :: rest := by
      intro other
      rw [List.set_append_right _ _ (Nat.le_refl _), Nat.sub_self]
      rfl
    rw [if_neg own, if_neg (by simp [own]), resolved.queue, queue, replaced]
    rfl

/-- The loop over the live queue ends after one round for each request in it, and does
what a pass over the requests does. -/
theorem flushLoop_ends (front rest : List PendingOutboundProxy)
    (queue : s.pendingOutboundProxies = front ++ rest) (reached : s.connected peer = true) :
    flushLoop m peer sendings (rest.length + 1) front.length s =
      some (flushPendingProxies m (s.setQueue front) peer sendings rest) := by
  induction rest generalizing s front with
  | nil =>
    have stop : s.pendingOutboundProxies[front.length]? = none := by
      rw [queue, List.append_nil]
      exact List.getElem?_eq_none (Nat.le_refl _)
    have same : s.setQueue front = s := by
      rw [List.append_nil] at queue
      rw [SwarmState.setQueue, ← queue]
    rw [flushLoop, stop, same]
    rfl
  | cons pending rest ih =>
    rw [List.length_cons, flushLoop_round queue reached, flush_cons]
    by_cases own : resolvedPeer m s pending.targetMtrxaiPeer = peer
    · have around := congrArg Surroundings.connected
        (@flushOne_surroundings m (s.setQueue (front ++ rest)) peer sendings pending)
      have later := ih front (s := (flushOne m (s.setQueue (front ++ rest)) peer sendings pending).1)
        (by rw [flushOne_setQueue reached own]; rfl) ((congrFun around peer).trans reached)
      rw [if_pos own, later, flushOne_setQueue reached own, flushOne_setQueue reached own]
      rfl
    · have unsent : flushOne m (s.setQueue front) peer sendings pending =
          ((resolveLibp2pPeer m s pending.targetMtrxaiPeer).setQueue (front ++
            [{ pending with libp2pPeer := resolvedPeer m s pending.targetMtrxaiPeer }]), []) := by
        have own' : resolvedPeer m (s.setQueue front) pending.targetMtrxaiPeer ≠ peer := own
        rw [flushOne, resolve_setQueue]
        dsimp only
        rw [if_neg own']
        rfl
      have around := congrArg Surroundings.connected
        (@resolveLibp2pPeer_surroundings m s pending.targetMtrxaiPeer)
      have later := ih (front ++
        [{ pending with libp2pPeer := resolvedPeer m s pending.targetMtrxaiPeer }])
        (s := (resolveLibp2pPeer m s pending.targetMtrxaiPeer).setQueue (front ++
          { pending with libp2pPeer := resolvedPeer m s pending.targetMtrxaiPeer } :: rest))
        (by simp [SwarmState.setQueue]) ((congrFun around peer).trans reached)
      rw [if_neg own, unsent]
      rw [List.length_append] at later
      exact later

end MtrxPeer
