import MtrxPeer.SwarmAsker
import MtrxPeer.SwarmOutbound

/-! Requests to other providers do not concern a caller, and those to its own are
sent alike, whether a command makes them, a failure or a connection. -/
namespace MtrxPeer

open Function (update update_of_ne update_self)

variable {m : SwarmManager} {s t : SwarmState} {target reqId : String} {peer : PeerId}
  {providerOf : String → String}

/-! ## Sending -/

theorem forgetStreams_alike (view : s.askerView target reqId = t.askerView target reqId)
    (pending : PendingOutboundProxy) :
    (forgetStreams s pending).askerView target reqId =
      (forgetStreams t pending).askerView target reqId := by
  unfold forgetStreams
  split
  · exact dropStreams_alike view _
  · exact view

/-- A request to the provider is sent alike. -/
theorem sendOutboundProxy_alike (view : s.askerView target reqId = t.askerView target reqId)
    {pending : PendingOutboundProxy} (own : pending.targetMtrxaiPeer = target) (sending : Sending) :
    SwarmAlike target reqId (sendOutboundProxy m s pending sending)
      (sendOutboundProxy m t pending sending) := by
  subst own
  have resolved := resolve_alike (m := m) view
  have address := resolvedPeer_alike (m := m) view
  have connected := congrArg AskerView.connected resolved
  simp only [SwarmState.askerView] at connected
  unfold sendOutboundProxy
  simp only [address, connected]
  split
  · refine ⟨?_, rfl⟩
    rw [askerView_enqueue rfl, askerView_enqueue rfl, resolved]
  · have forgotten := forgetStreams_alike resolved { pending with
      libp2pPeer := resolvedPeer m t pending.targetMtrxaiPeer }
    have proxy := congrArg AskerView.proxy forgotten
    have cached := congrArg AskerView.cached forgotten
    simp only [SwarmState.askerView] at proxy cached
    simp only [proxy, cached]
    generalize outboundMessage m _ _ _ _ = made
    rcases made with error | ⟨msg, kept⟩
    · exact failProxyRequest_alike forgotten _ _
    · refine ⟨?_, rfl⟩
      rw [askerView_noteSent, askerView_noteSent, forgotten]

private theorem reqId_ne_of_put {other provider : String} (put : provider = providerOf other)
    (elsewhere : provider ≠ providerOf reqId) : other ≠ reqId := by
  rintro rfl
  exact elsewhere put

/-- A request to another provider, sent under a number that is not in use. -/
theorem sendOutboundProxy_unheard (apart : AddressesApart m providerOf (providerOf reqId) s)
    {pending : PendingOutboundProxy} (put : pending.targetMtrxaiPeer = providerOf pending.reqId)
    (other : pending.targetMtrxaiPeer ≠ providerOf reqId) {sending : Sending}
    (unused : (s.askerView (providerOf reqId) reqId).sent sending.outboundId = none) :
    SwarmUnheard (providerOf reqId) reqId s (sendOutboundProxy m s pending sending) := by
  have differs := reqId_ne_of_put put other
  have resolved : (resolveLibp2pPeer m s pending.targetMtrxaiPeer).askerView (providerOf reqId) reqId =
      s.askerView (providerOf reqId) reqId := askerView_resolve apart other (.inr ⟨_, put.symm⟩)
  have forgotten : ∀ kept : PendingOutboundProxy, kept.reqId = pending.reqId →
      (forgetStreams (resolveLibp2pPeer m s pending.targetMtrxaiPeer) kept).askerView
        (providerOf reqId) reqId = s.askerView (providerOf reqId) reqId := by
    intro kept same
    unfold forgetStreams
    split
    · rw [askerView_dropStreams (by rw [same]; exact differs), resolved]
    · exact resolved
  unfold sendOutboundProxy
  dsimp only
  split
  · refine ⟨?_, rfl⟩
    rw [askerView_enqueueOther (by exact other), resolved]
  · split
    · obtain ⟨after, silent⟩ : SwarmUnheard (providerOf reqId) reqId _ (failProxyRequest _ _ _) :=
        failProxyRequest_unheard differs _
      exact ⟨after.trans (forgotten _ rfl), silent⟩
    · rename_i msg kept made
      have elsewhere : kept.targetMtrxaiPeer ≠ providerOf reqId := by
        rw [(outboundMessage_requestId made).2.2]
        exact other
      refine ⟨(askerView_noteOther elsewhere ?_).trans (forgotten _ rfl), rfl⟩
      exact (congrFun (congrArg AskerView.sent (forgotten _ rfl)) _).trans unused

theorem sendOutboundProxy_apart (apart : AddressesApart m providerOf target s)
    (pending : PendingOutboundProxy) (sending : Sending) :
    AddressesApart m providerOf target (sendOutboundProxy m s pending sending).1 := by
  have resolved := apart.resolve pending.targetMtrxaiPeer
  have forgotten : ∀ kept : PendingOutboundProxy, AddressesApart m providerOf target
      (forgetStreams (resolveLibp2pPeer m s pending.targetMtrxaiPeer) kept) := by
    intro kept
    unfold forgetStreams
    split
    · exact resolved.frame rfl rfl rfl
    · exact resolved
  unfold sendOutboundProxy
  dsimp only
  split
  · exact resolved.frame rfl rfl rfl
  · split
    · exact (forgotten _).frame rfl rfl rfl
    · exact (forgotten _).frame rfl rfl rfl

/-- Sending enters nothing under another number. -/
theorem sendOutboundProxy_sent (pending : PendingOutboundProxy) (sending : Sending)
    {id : OutboundRequestId} (differs : id ≠ sending.outboundId) :
    (sendOutboundProxy m s pending sending).1.pendingProxyByOutboundId id =
      s.pendingProxyByOutboundId id := by
  have resolved : (resolveLibp2pPeer m s pending.targetMtrxaiPeer).pendingProxyByOutboundId =
      s.pendingProxyByOutboundId := by
    unfold resolveLibp2pPeer
    split <;> rfl
  have forgotten : ∀ kept : PendingOutboundProxy, (forgetStreams (resolveLibp2pPeer m s
      pending.targetMtrxaiPeer) kept).pendingProxyByOutboundId = s.pendingProxyByOutboundId := by
    intro kept
    unfold forgetStreams
    split
    · exact resolved
    · exact resolved
  unfold sendOutboundProxy
  dsimp only
  split
  · exact congrFun resolved id
  · split
    · exact congrFun (forgotten _) id
    · rw [SwarmState.noteSent]
      exact (update_of_ne differs ..).trans (congrFun (forgotten _) id)

/-! ## The queue -/

/-- The numbers that a flush sends under are not in use, and each is used once. -/
def FreshFor (sendings : String → Sending) (s : SwarmState) : Prop :=
  (∀ reqId, s.pendingProxyByOutboundId (sendings reqId).outboundId = none) ∧
    ∀ reqId reqId', (sendings reqId).outboundId = (sendings reqId').outboundId → reqId = reqId'

/-- What a flush does with one request. -/
private def flushedOne (m : SwarmManager) (s : SwarmState) (peer : PeerId) (sendings : String → Sending)
    (pending : PendingOutboundProxy) : SwarmState × List SwarmOutput :=
  let resolved := resolvedPeer m s pending.targetMtrxaiPeer
  let s := resolveLibp2pPeer m s pending.targetMtrxaiPeer
  let pending := { pending with libp2pPeer := resolved }
  if resolved = peer then sendOutboundProxy m s pending (sendings pending.reqId)
  else (s.enqueue pending, [])

private theorem flushed_cons (sendings : String → Sending) (pending : PendingOutboundProxy)
    (rest : List PendingOutboundProxy) :
    flushPendingProxies m s peer sendings (pending :: rest) =
      ((flushPendingProxies m (flushedOne m s peer sendings pending).1 peer sendings rest).1,
        (flushedOne m s peer sendings pending).2 ++
          (flushPendingProxies m (flushedOne m s peer sendings pending).1 peer sendings rest).2) := by
  simp only [flushPendingProxies, flushedOne]

section Flush

variable {sendings : String → Sending}

/-- The names stay apart, and the numbers for requests to other providers free. -/
private structure Flushing (m : SwarmManager) (providerOf : String → String) (reqId : String)
    (sendings : String → Sending) (s : SwarmState) : Prop where
  apart : AddressesApart m providerOf (providerOf reqId) s
  free : ∀ other, providerOf other ≠ providerOf reqId →
    (s.askerView (providerOf reqId) reqId).sent (sendings other).outboundId = none

private theorem flushedOne_alike
    (view : s.askerView target reqId = t.askerView target reqId)
    {pending : PendingOutboundProxy} (own : pending.targetMtrxaiPeer = target) :
    SwarmAlike target reqId (flushedOne m s peer sendings pending)
      (flushedOne m t peer sendings pending) := by
  subst own
  have resolved := resolve_alike (m := m) view
  unfold flushedOne
  rw [resolvedPeer_alike view]
  dsimp only
  split
  · exact sendOutboundProxy_alike resolved rfl _
  · refine ⟨?_, rfl⟩
    rw [askerView_enqueue rfl, askerView_enqueue rfl, resolved]

private theorem flushedOne_unheard (apart : AddressesApart m providerOf (providerOf reqId) s)
    {pending : PendingOutboundProxy} (put : pending.targetMtrxaiPeer = providerOf pending.reqId)
    (other : pending.targetMtrxaiPeer ≠ providerOf reqId)
    (unused : (s.askerView (providerOf reqId) reqId).sent (sendings pending.reqId).outboundId = none) :
    SwarmUnheard (providerOf reqId) reqId s (flushedOne m s peer sendings pending) := by
  have resolved : (resolveLibp2pPeer m s pending.targetMtrxaiPeer).askerView (providerOf reqId) reqId =
      s.askerView (providerOf reqId) reqId := askerView_resolve apart other (.inr ⟨_, put.symm⟩)
  unfold flushedOne
  dsimp only
  split
  · obtain ⟨after, silent⟩ : SwarmUnheard (providerOf reqId) reqId _ (sendOutboundProxy m
        (resolveLibp2pPeer m s pending.targetMtrxaiPeer) _ (sendings pending.reqId)) :=
      sendOutboundProxy_unheard (apart.resolve _) (by exact put) (by exact other)
        (by rw [resolved]; exact unused)
    exact ⟨after.trans resolved, silent⟩
  · exact ⟨(askerView_enqueueOther (by exact other)).trans resolved, rfl⟩

private theorem flushedOne_flushing (peer : PeerId)
    (distinct : ∀ a b, (sendings a).outboundId = (sendings b).outboundId → a = b)
    (flushing : Flushing m providerOf reqId sendings s) {pending : PendingOutboundProxy}
    (put : pending.targetMtrxaiPeer = providerOf pending.reqId) :
    Flushing m providerOf reqId sendings (flushedOne m s peer sendings pending).1 where
  apart := by
    have resolved := flushing.apart.resolve pending.targetMtrxaiPeer
    unfold flushedOne
    dsimp only
    split
    · exact sendOutboundProxy_apart resolved _ _
    · exact resolved.frame rfl rfl rfl
  free := by
    intro other elsewhere
    by_cases same : other = pending.reqId
    · subst same
      rw [← put] at elsewhere
      have unused := flushing.free pending.reqId (by rw [← put]; exact elsewhere)
      obtain ⟨after, -⟩ : SwarmUnheard (providerOf reqId) reqId s
          (flushedOne m s peer sendings pending) :=
        flushedOne_unheard flushing.apart put elsewhere unused
      rw [after]
      exact unused
    · have number : (sendings other).outboundId ≠ (sendings pending.reqId).outboundId :=
        fun equal => same (distinct _ _ equal)
      have untouched : (flushedOne m s peer sendings pending).1.pendingProxyByOutboundId
          (sendings other).outboundId = s.pendingProxyByOutboundId (sendings other).outboundId := by
        have resolved : (resolveLibp2pPeer m s pending.targetMtrxaiPeer).pendingProxyByOutboundId =
            s.pendingProxyByOutboundId := by
          unfold resolveLibp2pPeer
          split <;> rfl
        unfold flushedOne
        dsimp only
        split
        · rw [sendOutboundProxy_sent _ _ number, resolved]
        · exact congrFun resolved _
      have before := flushing.free other elsewhere
      simp only [SwarmState.askerView, untouched] at before ⊢
      exact before

/-- On managers that are alike, the same queue is flushed alike. -/
private theorem flush_alike (peer : PeerId)
    (distinct : ∀ a b, (sendings a).outboundId = (sendings b).outboundId → a = b)
    {queue : List PendingOutboundProxy}
    (put : ∀ pending ∈ queue, pending.targetMtrxaiPeer = providerOf pending.reqId)
    (flushing : Flushing m providerOf reqId sendings s)
    (flushing' : Flushing m providerOf reqId sendings t)
    (view : s.askerView (providerOf reqId) reqId = t.askerView (providerOf reqId) reqId) :
    SwarmAlike (providerOf reqId) reqId (flushPendingProxies m s peer sendings queue)
      (flushPendingProxies m t peer sendings queue) := by
  induction queue generalizing s t with
  | nil => exact ⟨view, rfl⟩
  | cons pending rest ih =>
    have one := put pending List.mem_cons_self
    have others := fun other member => put other (List.mem_cons_of_mem pending member)
    have first : SwarmAlike (providerOf reqId) reqId (flushedOne m s peer sendings pending)
        (flushedOne m t peer sendings pending) := by
      by_cases own : pending.targetMtrxaiPeer = providerOf reqId
      · exact flushedOne_alike view own
      · have elsewhere : providerOf pending.reqId ≠ providerOf reqId := by
          rw [← one]
          exact own
        exact (flushedOne_unheard flushing.apart one own (flushing.free _ elsewhere)).alike
          (flushedOne_unheard flushing'.apart one own (flushing'.free _ elsewhere)) view
    have later := ih others (flushedOne_flushing peer distinct flushing one)
      (flushedOne_flushing peer distinct flushing' one) first.1
    rw [flushed_cons, flushed_cons]
    exact ⟨later.1, by rw [List.filterMap_append, List.filterMap_append, first.2, later.2]⟩

/-- A flush concerns a caller as far as the requests to the provider are flushed. -/
private theorem flush_own (peer : PeerId)
    (distinct : ∀ a b, (sendings a).outboundId = (sendings b).outboundId → a = b)
    {queue : List PendingOutboundProxy}
    (put : ∀ pending ∈ queue, pending.targetMtrxaiPeer = providerOf pending.reqId)
    (flushing : Flushing m providerOf reqId sendings s) :
    SwarmAlike (providerOf reqId) reqId (flushPendingProxies m s peer sendings queue)
      (flushPendingProxies m s peer sendings
        (queue.filter (·.targetMtrxaiPeer = providerOf reqId))) := by
  induction queue generalizing s with
  | nil => exact ⟨rfl, rfl⟩
  | cons pending rest ih =>
    have one := put pending List.mem_cons_self
    have others := fun other member => put other (List.mem_cons_of_mem pending member)
    have flushed := flushedOne_flushing peer distinct flushing one
    by_cases own : pending.targetMtrxaiPeer = providerOf reqId
    · have later := ih others flushed
      rw [List.filter_cons_of_pos (by simpa using own), flushed_cons, flushed_cons]
      exact ⟨later.1, by rw [List.filterMap_append, List.filterMap_append, later.2]⟩
    · have elsewhere : providerOf pending.reqId ≠ providerOf reqId := by
        rw [← one]
        exact own
      obtain ⟨after, silent⟩ : SwarmUnheard (providerOf reqId) reqId s
          (flushedOne m s peer sendings pending) :=
        flushedOne_unheard flushing.apart one own (flushing.free _ elsewhere)
      have later := flush_alike peer distinct others flushed flushing after
      have rest := ih others flushing
      rw [List.filter_cons_of_neg (by simpa using own), flushed_cons]
      refine ⟨later.1.trans rest.1, ?_⟩
      rw [List.filterMap_append, silent, List.nil_append, later.2, rest.2]

/-- Queues with the same requests to the provider are flushed alike. -/
private theorem flushPendingProxies_alike (peer : PeerId)
    (distinct : ∀ a b, (sendings a).outboundId = (sendings b).outboundId → a = b)
    {queue queue' : List PendingOutboundProxy}
    (put : ∀ pending ∈ queue, pending.targetMtrxaiPeer = providerOf pending.reqId)
    (put' : ∀ pending ∈ queue', pending.targetMtrxaiPeer = providerOf pending.reqId)
    (flushing : Flushing m providerOf reqId sendings s)
    (flushing' : Flushing m providerOf reqId sendings t)
    (view : s.askerView (providerOf reqId) reqId = t.askerView (providerOf reqId) reqId)
    (same : queue.filter (·.targetMtrxaiPeer = providerOf reqId) =
      queue'.filter (·.targetMtrxaiPeer = providerOf reqId)) :
    SwarmAlike (providerOf reqId) reqId (flushPendingProxies m s peer sendings queue)
      (flushPendingProxies m t peer sendings queue') := by
  have mine := flush_own peer distinct put flushing
  have theirs := flush_own peer distinct put' flushing'
  have own : ∀ pending ∈ queue.filter (·.targetMtrxaiPeer = providerOf reqId),
      pending.targetMtrxaiPeer = providerOf pending.reqId :=
    fun pending member => put pending (List.mem_of_mem_filter member)
  have between := flush_alike peer distinct own flushing flushing' view
  rw [same] at mine between
  exact ⟨mine.1.trans (between.1.trans theirs.1.symm), mine.2.trans (between.2.trans theirs.2.symm)⟩

/-- A flush leaves the names apart. -/
private theorem flush_flushing (peer : PeerId)
    (distinct : ∀ a b, (sendings a).outboundId = (sendings b).outboundId → a = b)
    {queue : List PendingOutboundProxy}
    (put : ∀ pending ∈ queue, pending.targetMtrxaiPeer = providerOf pending.reqId)
    (flushing : Flushing m providerOf reqId sendings s) :
    Flushing m providerOf reqId sendings (flushPendingProxies m s peer sendings queue).1 := by
  induction queue generalizing s with
  | nil => exact flushing
  | cons pending rest ih =>
    rw [flushed_cons]
    exact ih (fun other member => put other (List.mem_cons_of_mem pending member))
      (flushedOne_flushing peer distinct flushing (put pending List.mem_cons_self))

end Flush

/-! ## Failures and commands -/

/-- What is under way was put to the provider of its request. -/
def PutTo (providerOf : String → String) (s : SwarmState) : Prop :=
  Outbound (fun reqId target => target = providerOf reqId) s

section Local

variable {sending : Sending}

/-- A number that is not in use is none of a request to the provider. -/
private theorem unused_view {id : OutboundRequestId} (unused : s.pendingProxyByOutboundId id = none) :
    (s.askerView target reqId).sent id = none := by
  simp [SwarmState.askerView, unused]

theorem dropSent_unheard {id : OutboundRequestId}
    (other : (s.askerView target reqId).sent id = none) :
    (s.dropSent id).askerView target reqId = s.askerView target reqId := by
  rw [askerView_dropSent, ← other, Function.update_eq_self]

private theorem onOutboundFailure_unheard (put : PutTo providerOf s)
    (apart : AddressesApart m providerOf (providerOf reqId) s) {id : OutboundRequestId}
    (other : (s.askerView (providerOf reqId) reqId).sent id = none)
    (unused : s.pendingProxyByOutboundId sending.outboundId = none) (retryable : Bool)
    (error : String) :
    SwarmUnheard (providerOf reqId) reqId s (onOutboundFailure m s id retryable error sending) := by
  have dropped := dropSent_unheard other
  unfold onOutboundFailure
  split
  · exact ⟨rfl, rfl⟩
  · rename_i pending noted
    have provider : pending.targetMtrxaiPeer = providerOf pending.reqId :=
      put.pending pending (.sent noted)
    have elsewhere : pending.targetMtrxaiPeer ≠ providerOf reqId := by
      simpa [SwarmState.askerView, noted, Option.filter_some] using other
    have differs := reqId_ne_of_put provider elsewhere
    have dropApart : AddressesApart m providerOf (providerOf reqId) (s.dropSent id) := apart.frame rfl rfl rfl
    have free : ((s.dropSent id).askerView (providerOf reqId) reqId).sent sending.outboundId = none := by
      rw [dropped]
      exact unused_view unused
    dsimp only
    split
    · split
      · obtain ⟨after, silent⟩ : SwarmUnheard (providerOf reqId) reqId _
            (sendOutboundProxy m (s.dropSent id) { pending with attempts := pending.attempts + 1 }
              sending) :=
          sendOutboundProxy_unheard dropApart (by exact provider) (by exact elsewhere) free
        exact ⟨after.trans dropped, silent⟩
      · exact ⟨(askerView_enqueueOther (by exact elsewhere)).trans dropped, rfl⟩
    · obtain ⟨after, silent⟩ : SwarmUnheard (providerOf reqId) reqId _
          (failProxyRequest (s.dropSent id) _ _) := failProxyRequest_unheard differs _
      exact ⟨after.trans dropped, silent⟩

/-- A request to the provider is among those sent wherever managers are alike. -/
theorem sent_alike (view : s.askerView target reqId = t.askerView target reqId)
    {id : OutboundRequestId} {pending : PendingOutboundProxy}
    (found : s.pendingProxyByOutboundId id = some pending)
    (own : pending.targetMtrxaiPeer = target) : t.pendingProxyByOutboundId id = some pending := by
  have same := congrFun (congrArg AskerView.sent view) id
  simp only [SwarmState.askerView, found, Option.filter_some, own, decide_true, if_true] at same
  exact Option.eq_some_of_filter_eq_some same.symm

theorem onOutboundFailure_alike (put : PutTo providerOf s) (put' : PutTo providerOf t)
    (apart : AddressesApart m providerOf (providerOf reqId) s)
    (apart' : AddressesApart m providerOf (providerOf reqId) t)
    (view : s.askerView (providerOf reqId) reqId = t.askerView (providerOf reqId) reqId)
    (unused : s.pendingProxyByOutboundId sending.outboundId = none)
    (unused' : t.pendingProxyByOutboundId sending.outboundId = none) (id : OutboundRequestId)
    (retryable : Bool) (error : String) :
    SwarmAlike (providerOf reqId) reqId (onOutboundFailure m s id retryable error sending)
      (onOutboundFailure m t id retryable error sending) := by
  cases entry : (s.askerView (providerOf reqId) reqId).sent id with
  | none =>
    have entry' := entry
    rw [view] at entry'
    exact (onOutboundFailure_unheard put apart entry unused retryable error).alike
      (onOutboundFailure_unheard put' apart' entry' unused' retryable error) view
  | some pending =>
    obtain ⟨found, own⟩ : s.pendingProxyByOutboundId id = some pending ∧
        pending.targetMtrxaiPeer = providerOf reqId := by
      simpa using Option.filter_eq_some_iff.mp entry
    have dropped := dropSent_alike view id
    have connected := congrArg AskerView.connected dropped
    simp only [SwarmState.askerView] at connected
    unfold onOutboundFailure
    simp only [found, sent_alike view found own, connected]
    split
    · split
      · exact sendOutboundProxy_alike dropped (by exact own) _
      · refine ⟨?_, rfl⟩
        rw [askerView_enqueue (by exact own), askerView_enqueue (by exact own), dropped]
    · exact failProxyRequest_alike dropped _ _

private theorem locateProvider_apart (apart : AddressesApart m providerOf target s) (name : String) :
    AddressesApart m providerOf target (locateProvider m s name) := by
  have bound : AddressesApart m providerOf target (s.bindPeer name (resolvedPeer m s name)) :=
    apart.bindPeer (.inl rfl)
  unfold locateProvider
  dsimp only
  split
  · exact bound
  · exact bound.dialCached name

private theorem locateProvider_unheard (apart : AddressesApart m providerOf target s) {name : String}
    (other : name ≠ target) (dialed : Dialed providerOf s name) :
    (locateProvider m s name).askerView target reqId = s.askerView target reqId := by
  have bound : (s.bindPeer name (resolvedPeer m s name)).askerView target reqId =
      s.askerView target reqId := askerView_bindOwn apart other dialed (.inl rfl)
  unfold locateProvider
  dsimp only
  split
  · exact bound
  · exact (askerView_dialCached (apart.bindPeer (.inl rfl)) other).trans bound

private theorem locateProvider_sent (name : String) :
    (locateProvider m s name).pendingProxyByOutboundId = s.pendingProxyByOutboundId := by
  unfold locateProvider dialCached
  dsimp only
  split
  · rfl
  · split <;> rfl

private theorem locateProvider_alike (view : s.askerView target reqId = t.askerView target reqId) :
    (locateProvider m s target).askerView target reqId =
      (locateProvider m t target).askerView target reqId := by
  have bound := bindPeer_alike view target (resolvedPeer m t target)
  have connected : (s.bindPeer target (resolvedPeer m t target)).connected =
      (t.bindPeer target (resolvedPeer m t target)).connected := congrArg AskerView.connected bound
  unfold locateProvider
  rw [resolvedPeer_alike view]
  simp only [connected]
  split
  · exact bound
  · exact dialCached_alike bound

private theorem registerCaller_alike (view : s.askerView target reqId = t.askerView target reqId) :
    s.registerCaller.askerView target reqId = t.registerCaller.askerView target reqId := by
  have numbered : s.nextReqId = t.nextReqId := congrArg AskerView.nextReqId view
  have fresh : s.freshReqId = t.freshReqId := by rw [SwarmState.freshReqId, numbered]; rfl
  unfold SwarmState.registerCaller
  rw [fresh]
  refine dropStreams_alike ?_ _
  simp only [SwarmState.askerView, AskerView.mk.injEq, SwarmState.nameOf] at view ⊢
  refine ⟨view.1, view.2.1, view.2.2.1, by rw [numbered], ?_, view.2.2.2.2.2⟩
  by_cases same : reqId = t.freshReqId
  · subst same
    rw [update_self, update_self]
  · rw [update_of_ne same, update_of_ne same]
    exact view.2.2.2.2.1

private theorem submitRequest_alike (view : s.askerView target reqId = t.askerView target reqId)
    {pending : PendingOutboundProxy} (own : pending.targetMtrxaiPeer = target) :
    SwarmAlike target reqId (submitRequest m s pending sending) (submitRequest m t pending sending) := by
  have connected : s.connected = t.connected := congrArg AskerView.connected view
  unfold submitRequest
  rw [own, connected, cachedAddrs_alike view]
  split
  · exact sendOutboundProxy_alike view own _
  · split
    · exact failProxyRequest_alike view _ _
    · refine ⟨?_, rfl⟩
      rw [askerView_enqueue own, askerView_enqueue own, dialCached_alike view]

private theorem submitRequest_unheard (apart : AddressesApart m providerOf (providerOf reqId) s)
    {pending : PendingOutboundProxy} (put : pending.targetMtrxaiPeer = providerOf pending.reqId)
    (other : pending.targetMtrxaiPeer ≠ providerOf reqId)
    (unused : s.pendingProxyByOutboundId sending.outboundId = none) :
    SwarmUnheard (providerOf reqId) reqId s (submitRequest m s pending sending) := by
  unfold submitRequest
  split
  · exact sendOutboundProxy_unheard apart put other (unused_view unused)
  · split
    · exact failProxyRequest_unheard (reqId_ne_of_put put other) _
    · exact ⟨(askerView_enqueueOther other).trans (askerView_dialCached apart other), rfl⟩

theorem onProxyCommand_alike (apart : AddressesApart m providerOf (providerOf reqId) s)
    (apart' : AddressesApart m providerOf (providerOf reqId) t)
    (view : s.askerView (providerOf reqId) reqId = t.askerView (providerOf reqId) reqId)
    (unused : s.pendingProxyByOutboundId sending.outboundId = none)
    (unused' : t.pendingProxyByOutboundId sending.outboundId = none) {cmd : ProxyRequestCommand}
    {ranked : List String}
    (puts : ∀ target, commandTarget m s cmd ranked = .ok target → target = providerOf s.freshReqId) :
    SwarmAlike (providerOf reqId) reqId (onProxyCommand m s cmd ranked sending)
      (onProxyCommand m t cmd ranked sending) := by
  have proxy : s.proxy = t.proxy := congrArg AskerView.proxy view
  have numbered : s.nextReqId = t.nextReqId := congrArg AskerView.nextReqId view
  have fresh : s.freshReqId = t.freshReqId := by rw [SwarmState.freshReqId, numbered]; rfl
  have chosen : commandTarget m s cmd ranked = commandTarget m t cmd ranked := by
    simp only [commandTarget, proxy]
  unfold onProxyCommand
  rw [← chosen]
  cases decided : commandTarget m s cmd ranked with
  | error error => exact ⟨view, rfl⟩
  | ok target =>
    have provider := puts target decided
    have provider' : target = providerOf t.freshReqId := fresh ▸ provider
    have located : (locateProvider m s target).askerView (providerOf reqId) reqId =
        (locateProvider m t target).askerView (providerOf reqId) reqId := by
      by_cases own : target = providerOf reqId
      · rw [own]
        exact locateProvider_alike view
      · have dialed : ∀ u : SwarmState, Dialed providerOf u target :=
          fun _ => .inr ⟨_, provider.symm⟩
        rw [locateProvider_unheard apart own (dialed s), locateProvider_unheard apart' own (dialed t),
          view]
    have registered := registerCaller_alike located
    dsimp only
    split
    · exact ⟨located, rfl⟩
    · by_cases own : target = providerOf reqId
      · have request : commandRequest m s cmd target = commandRequest m t cmd target := by
          rw [own]
          simp only [commandRequest, fresh, resolvedPeer_alike view, proxy]
        rw [request]
        exact submitRequest_alike registered own
      · have locatedApart : AddressesApart m providerOf (providerOf reqId)
            (locateProvider m s target).registerCaller :=
          (locateProvider_apart apart target).frame rfl rfl rfl
        have locatedApart' : AddressesApart m providerOf (providerOf reqId)
            (locateProvider m t target).registerCaller :=
          (locateProvider_apart apart' target).frame rfl rfl rfl
        refine (submitRequest_unheard locatedApart (by exact provider) own ?_).alike
          (submitRequest_unheard locatedApart' (by exact provider') own ?_) registered
        · exact (congrFun (locateProvider_sent target) _).trans unused
        · exact (congrFun (locateProvider_sent target) _).trans unused'

/-! ## Connections -/

/-- What leaves the peers known by the provider's name alone is tracked alike. -/
theorem track_alike (view : s.askerView target reqId = t.askerView target reqId) (peer : PeerId) :
    (s.track peer).askerView target reqId = (t.track peer).askerView target reqId := by
  by_cases own : s.nameOf peer = target
  · have own' : t.nameOf peer = target := (nameOf_alike view peer).mp own
    rw [SwarmState.track, SwarmState.track, own, own']
    exact bindPeer_alike view target peer
  · have own' : t.nameOf peer ≠ target := fun named => own ((nameOf_alike view peer).mpr named)
    rw [SwarmState.track, SwarmState.track, askerView_bindUnknown own own,
      askerView_bindUnknown own' own', view]

theorem untrack_alike (view : s.askerView target reqId = t.askerView target reqId) (peer : PeerId) :
    (s.untrack peer).askerView target reqId = (t.untrack peer).askerView target reqId := by
  have untracked : ∀ u : SwarmState, (u.untrack peer).askerView target reqId =
      { u.askerView target reqId with
        address := if u.nameOf peer = target then none else u.mtrxaiToLibp2p target
        known := update (u.askerView target reqId).known peer (peer == target) } := by
    intro u
    have known : (fun probe => (u.untrack peer).nameOf probe == target) =
        update (fun probe => u.nameOf probe == target) peer (peer == target) := by
      funext probe
      by_cases same : probe = peer
      · subst same
        simp [SwarmState.untrack, SwarmState.nameOf]
      · simp [SwarmState.untrack, SwarmState.nameOf, update_of_ne same]
    simp only [SwarmState.askerView, known]
    simp only [SwarmState.untrack, Function.update_apply, eq_comm (a := target)]
  have address : s.mtrxaiToLibp2p target = t.mtrxaiToLibp2p target := congrArg AskerView.address view
  rw [untracked, untracked, view, address]
  simp only [nameOf_alike view]

/-- No peer of a catalog is derived to be a peer known as the provider, or the one
the provider is derived to be. -/
private def DerivedApart (m : SwarmManager) (target : String) (peer : PeerId) (s : SwarmState) :
    Prop :=
  ∀ name, name ≠ target → (s.peerCache name).isSome → resolveLibp2pPeerId m.ids [] name = peer →
    s.nameOf peer ≠ target ∧ resolveLibp2pPeerId m.ids [] target ≠ peer

private theorem mapConnectedPeer_alike (view : s.askerView target reqId = t.askerView target reqId)
    (apart : DerivedApart m target peer s) (apart' : DerivedApart m target peer t)
    (cached : List String) :
    (mapConnectedPeer m s peer cached).askerView target reqId =
      (mapConnectedPeer m t peer cached).askerView target reqId := by
  by_cases derived : resolveLibp2pPeerId m.ids [] target = peer
  · -- Only the provider can be found, and it is found in both or in neither.
    have absent : ∀ u, DerivedApart m target peer u → ∀ name, name ≠ target →
        ((u.peerCache name).isSome && decide (resolveLibp2pPeerId m.ids [] name = peer)) = false := by
      intro u apart name other
      rw [Bool.eq_false_iff]
      intro both
      rw [Bool.and_eq_true, decide_eq_true_iff] at both
      exact (apart name other both.1 both.2).2 derived
    have found : (fun name => (s.peerCache name).isSome &&
          decide (resolveLibp2pPeerId m.ids [] name = peer)) =
        fun name => (t.peerCache name).isSome &&
          decide (resolveLibp2pPeerId m.ids [] name = peer) := by
      funext name
      by_cases own : name = target
      · have same : s.peerCache target = t.peerCache target := congrArg AskerView.cached view
        rw [own, same]
      · rw [absent s apart name own, absent t apart' name own]
    unfold mapConnectedPeer
    rw [found]
    split
    · exact bindPeer_alike view _ _
    · exact view
  · have unchanged : ∀ u, DerivedApart m target peer u →
        (mapConnectedPeer m u peer cached).askerView target reqId = u.askerView target reqId := by
      intro u apart
      unfold mapConnectedPeer
      split
      · rename_i name found
        have holds := List.find?_some found
        rw [Bool.and_eq_true, decide_eq_true_iff] at holds
        have other : name ≠ target := by
          rintro rfl
          exact derived holds.2
        exact askerView_bindUnknown other (apart name other holds.1 holds.2).1
      · rfl
    rw [unchanged s apart, unchanged t apart', view]

private theorem AddressesApart.derived (apart : AddressesApart m providerOf target s)
    (peer : PeerId) : DerivedApart m target peer s := by
  intro name other cached derives
  obtain ⟨unknown, elsewhere⟩ :=
    apart name other (.inl cached) peer (.inr (.inr derives.symm))
  exact ⟨unknown, fun same => elsewhere (.inr (.inr same.symm))⟩

/-- A connection to a peer is noted alike. -/
private theorem noteConnected_alike (view : s.askerView target reqId = t.askerView target reqId)
    (apart : AddressesApart m providerOf target s) (apart' : AddressesApart m providerOf target t)
    (peer : PeerId) (cached : List String) :
    (mapConnectedPeer m ({ s with
        handledSwarmPeers := update s.handledSwarmPeers peer true }.track peer) peer
        cached).askerView target reqId =
      (mapConnectedPeer m ({ t with
        handledSwarmPeers := update t.handledSwarmPeers peer true }.track peer) peer
        cached).askerView target reqId := by
  have noted : ({ s with handledSwarmPeers := update s.handledSwarmPeers peer true } :
        SwarmState).askerView target reqId =
      ({ t with handledSwarmPeers := update t.handledSwarmPeers peer true } :
        SwarmState).askerView target reqId := by
    have handled : s.handledSwarmPeers = t.handledSwarmPeers := congrArg AskerView.handled view
    have frame : ∀ u : SwarmState, ({ u with
        handledSwarmPeers := update u.handledSwarmPeers peer true } : SwarmState).askerView target
          reqId = { u.askerView target reqId with
            handled := update u.handledSwarmPeers peer true } := fun _ => rfl
    rw [frame, frame, view, handled]
  have tracked : ∀ u : SwarmState, AddressesApart m providerOf target u →
      DerivedApart m target peer ({ u with
        handledSwarmPeers := update u.handledSwarmPeers peer true }.track peer) := by
    intro u apart name other cached derives
    have before := apart.derived peer name other cached derives
    refine ⟨?_, before.2⟩
    simpa [SwarmState.track, SwarmState.bindPeer, SwarmState.nameOf] using before.1
  exact mapConnectedPeer_alike (track_alike noted peer) (tracked s apart) (tracked t apart') cached

@[simp] theorem heardBy_sends (msgs : List StreamMessage) :
    (msgs.map (SwarmOutput.send peer)).filterMap (SwarmOutput.heardBy reqId) = [] := by
  rw [List.filterMap_map]
  exact List.filterMap_eq_nil_iff.mpr fun _ _ => rfl

theorem onConnectionEstablished_alike {sendings : String → Sending} (put : PutTo providerOf s)
    (put' : PutTo providerOf t) (apart : AddressesApart m providerOf (providerOf reqId) s)
    (apart' : AddressesApart m providerOf (providerOf reqId) t) (fresh : FreshFor sendings s)
    (fresh' : FreshFor sendings t)
    (view : s.askerView (providerOf reqId) reqId = t.askerView (providerOf reqId) reqId)
    (cached : List String) :
    SwarmAlike (providerOf reqId) reqId (onConnectionEstablished m s peer cached sendings)
      (onConnectionEstablished m t peer cached sendings) := by
  have connected : s.connected = t.connected := congrArg AskerView.connected view
  have opened : ({ s with connected := update s.connected peer true } : SwarmState).askerView
        (providerOf reqId) reqId =
      ({ t with connected := update t.connected peer true } : SwarmState).askerView
        (providerOf reqId) reqId := by
    have frame : ∀ u : SwarmState, ({ u with connected := update u.connected peer true } :
        SwarmState).askerView (providerOf reqId) reqId =
          { u.askerView (providerOf reqId) reqId with
            connected := update u.connected peer true } := fun _ => rfl
    rw [frame, frame, view, connected]
  have emptied : ({ s with
        connected := update s.connected peer true
        pendingOutboundProxies := [] } : SwarmState).askerView (providerOf reqId) reqId =
      ({ t with
        connected := update t.connected peer true
        pendingOutboundProxies := [] } : SwarmState).askerView (providerOf reqId) reqId := by
    have frame : ∀ u : SwarmState, ({ u with pendingOutboundProxies := [] } :
        SwarmState).askerView (providerOf reqId) reqId =
          { u.askerView (providerOf reqId) reqId with queue := [] } := fun _ => rfl
    have before := congrArg (fun view => { view with queue := [] }) opened
    exact (frame _).trans (before.trans (frame _).symm)
  have flushing : ∀ u : SwarmState, AddressesApart m providerOf (providerOf reqId) u →
      FreshFor sendings u → Flushing m providerOf reqId sendings { u with
        connected := update u.connected peer true
        pendingOutboundProxies := [] } := by
    intro u apart fresh
    exact ⟨apart.frame rfl rfl rfl, fun other _ => unused_view (fresh.1 other)⟩
  have waits : ∀ u : SwarmState, PutTo providerOf u → ∀ pending ∈ u.pendingOutboundProxies,
      pending.targetMtrxaiPeer = providerOf pending.reqId :=
    fun u put pending member => put.pending pending (.queued member)
  have queue : s.pendingOutboundProxies.filter (·.targetMtrxaiPeer = providerOf reqId) =
      t.pendingOutboundProxies.filter (·.targetMtrxaiPeer = providerOf reqId) :=
    congrArg AskerView.queue view
  have flushed := flushPendingProxies_alike peer fresh.2 (waits s put) (waits t put')
    (flushing s apart fresh) (flushing t apart' fresh') emptied queue
  have after := flush_flushing peer fresh.2 (waits s put) (flushing s apart fresh)
  have after' := flush_flushing peer fresh.2 (waits t put') (flushing t apart' fresh')
  unfold onConnectionEstablished
  dsimp only
  split
  · exact ⟨opened, rfl⟩
  · generalize flushPendingProxies m _ peer sendings s.pendingOutboundProxies = a at flushed after ⊢
    generalize flushPendingProxies m _ peer sendings t.pendingOutboundProxies = b at flushed after' ⊢
    have dropped : (a.1.dropReverse peer).askerView (providerOf reqId) reqId =
        (b.1.dropReverse peer).askerView (providerOf reqId) reqId := flushed.1
    have handled : (a.1.dropReverse peer).handledSwarmPeers = (b.1.dropReverse peer).handledSwarmPeers :=
      congrArg AskerView.handled dropped
    refine ⟨?_, ?_⟩
    · dsimp only
      by_cases settled : (m.isBootnode peer || (b.1.dropReverse peer).handledSwarmPeers peer) = true
      · rw [if_pos (by rw [handled]; exact settled), if_pos settled]
        exact dropped
      · rw [if_neg (by rw [handled]; exact settled), if_neg settled]
        exact noteConnected_alike dropped (after.apart.frame rfl rfl rfl)
          (after'.apart.frame rfl rfl rfl) peer cached
    · simp only [List.filterMap_append, heardBy_sends, List.append_nil]
      exact flushed.2

theorem onConnectionClosed_alike (view : s.askerView target reqId = t.askerView target reqId)
    (peer : PeerId) (still : Bool) :
    (onConnectionClosed m s peer still).askerView target reqId =
      (onConnectionClosed m t peer still).askerView target reqId := by
  have connected : s.connected = t.connected := congrArg AskerView.connected view
  have handled : s.handledSwarmPeers = t.handledSwarmPeers := congrArg AskerView.handled view
  have closed : ∀ entry, ({ s with
        connected := update s.connected peer still
        handledSwarmPeers := entry } : SwarmState).askerView target reqId =
      ({ t with
        connected := update t.connected peer still
        handledSwarmPeers := entry } : SwarmState).askerView target reqId := by
    intro entry
    have frame : ∀ u : SwarmState, ({ u with
        connected := update u.connected peer still
        handledSwarmPeers := entry } : SwarmState).askerView target reqId =
          { u.askerView target reqId with
            connected := update u.connected peer still
            handled := entry } := fun _ => rfl
    rw [frame, frame, view, connected]
  unfold onConnectionClosed
  refine untrack_alike ?_ peer
  split
  · have same := closed s.handledSwarmPeers
    nth_rewrite 2 [handled] at same
    exact same
  · rw [← handled]
    exact closed _

/-! ## Catalogs -/

private theorem readdress_alike (view : s.askerView target reqId = t.askerView target reqId)
    (name : String) (listenAddrs : List String) :
    ({ s with
        peerCache := update s.peerCache name
          ((s.peerCache name).map fun record => { record with listenAddrs }) } :
        SwarmState).askerView target reqId =
      ({ t with
        peerCache := update t.peerCache name
          ((t.peerCache name).map fun record => { record with listenAddrs }) } :
        SwarmState).askerView target reqId := by
  have frame : ∀ (u : SwarmState) entry, ({ u with peerCache := update u.peerCache name entry } :
      SwarmState).askerView target reqId = { u.askerView target reqId with
        cached := update u.peerCache name entry target } := fun _ _ => rfl
  have cached : s.peerCache target = t.peerCache target := congrArg AskerView.cached view
  rw [frame, frame, view]
  by_cases own : name = target
  · subst own
    rw [update_self, update_self, cached]
  · rw [update_of_ne (Ne.symm own), update_of_ne (Ne.symm own), cached]

/-- What the lobby says of addresses is taken alike. -/
theorem syncPresence_alike (view : s.askerView target reqId = t.askerView target reqId)
    (peers : List (String × List String)) :
    (syncPresence m s peers).askerView target reqId =
      (syncPresence m t peers).askerView target reqId := by
  induction peers generalizing s t with
  | nil => exact view
  | cons first rest ih =>
    obtain ⟨mtrxai, listenAddrs⟩ := first
    have readdressed : (if listenAddrs = [] then s else { s with
          peerCache := update s.peerCache mtrxai
            ((s.peerCache mtrxai).map fun record => { record with listenAddrs }) }).askerView
          target reqId =
        (if listenAddrs = [] then t else { t with
          peerCache := update t.peerCache mtrxai
            ((t.peerCache mtrxai).map fun record => { record with listenAddrs }) }).askerView
          target reqId := by
      split
      · exact view
      · exact readdress_alike view mtrxai listenAddrs
    have dialed : ∀ a b : SwarmState, a.askerView target reqId = b.askerView target reqId →
        (if a.connected (resolveLibp2pPeerId m.ids listenAddrs mtrxai) then syncPresence m a rest
          else syncPresence m (dialMtrxaiPeer m a mtrxai listenAddrs) rest).askerView target reqId =
        (if b.connected (resolveLibp2pPeerId m.ids listenAddrs mtrxai) then syncPresence m b rest
          else syncPresence m (dialMtrxaiPeer m b mtrxai listenAddrs) rest).askerView target
            reqId := by
      intro a b same
      have connected : a.connected = b.connected := congrArg AskerView.connected same
      rw [connected]
      split
      · exact ih same
      · exact ih (bindPeer_alike same _ _)
    simp only [syncPresence]
    split
    · exact ih view
    · exact dialed _ _ readdressed

/-- A catalog is taken alike. -/
theorem applyRemoteCatalog_alike (view : s.askerView target reqId = t.askerView target reqId)
    (record : CatalogRecord) :
    (applyRemoteCatalog m s record).askerView target reqId =
      (applyRemoteCatalog m t record).askerView target reqId := by
  have bound := bindPeer_alike view record.peerId
    (resolveLibp2pPeerId m.ids record.listenAddrs record.peerId)
  have cached := congrArg AskerView.cached bound
  have frame : ∀ (u : SwarmState) entry,
      ({ u with peerCache := update u.peerCache record.peerId entry } :
        SwarmState).askerView target reqId = { u.askerView target reqId with
          cached := update u.peerCache record.peerId entry target } := fun _ _ => rfl
  simp only [SwarmState.askerView] at cached
  unfold applyRemoteCatalog
  split
  · exact view
  · simp only [dialMtrxaiPeer]
    rw [frame, frame, bound, Function.update_apply, Function.update_apply, cached]

/-- A catalog of another peer, with an address that is not known as the provider's. -/
def CatalogElsewhere (m : SwarmManager) (target : String) (s : SwarmState) (record : CatalogRecord) :
    Prop :=
  record.peerId = m.peerId ∨ record.peerId ≠ target ∧
    s.nameOf (resolveLibp2pPeerId m.ids record.listenAddrs record.peerId) ≠ target

theorem applyRemoteCatalog_unheard {record : CatalogRecord}
    (elsewhere : CatalogElsewhere m target s record) :
    (applyRemoteCatalog m s record).askerView target reqId = s.askerView target reqId := by
  unfold applyRemoteCatalog
  split
  · rfl
  · rename_i foreign
    obtain ⟨other, unknown⟩ := elsewhere.resolve_left foreign
    have bound : (s.bindPeer record.peerId (resolveLibp2pPeerId m.ids record.listenAddrs
        record.peerId)).askerView target reqId = s.askerView target reqId :=
      askerView_bindUnknown other unknown
    rw [← bound]
    have absent : ∀ entry, update s.peerCache record.peerId entry target = s.peerCache target :=
      fun entry => update_of_ne (Ne.symm other) _ _
    simp only [SwarmState.askerView, dialMtrxaiPeer, SwarmState.bindPeer, SwarmState.nameOf, absent]

end Local

end MtrxPeer
