import MtrxPeer.SwarmAsking

/-! What the messages of a swarm's peers do to a caller: those of the peer that was
asked do the same whatever else is going on, and those of the others nothing, unless
they are taken as answers to the request or move the provider's address. -/
namespace MtrxPeer

open Function (update update_of_ne update_self)

variable {m : SwarmManager} {s t : SwarmState} {target reqId : String} {asked peer : PeerId}
  {answers : Answers} {providerOf : String → String}

/-! ## Outputs that are not heard -/

@[simp] theorem heardBy_respond (msg : StreamMessage) :
    (respond answers peer msg).filterMap (SwarmOutput.heardBy reqId) = [] := by
  unfold respond
  split <;> rfl

@[simp] theorem heardBy_forwards (calls : List BackendCall) :
    (calls.map SwarmOutput.forward).filterMap (SwarmOutput.heardBy reqId) = [] := by
  rw [List.filterMap_map]
  exact List.filterMap_eq_nil_iff.mpr fun _ _ => rfl

private theorem heardBy_delivered {other : String} (differs : other ≠ reqId) (parts : List String) :
    (parts.map fun part => SwarmOutput.deliver other (.ok part)).filterMap
      (SwarmOutput.heardBy reqId) = [] := by
  rw [List.filterMap_map]
  exact List.filterMap_eq_nil_iff.mpr fun part _ => by simp [SwarmOutput.heardBy, differs]

private theorem heardBy_lines {other : String} (differs : other ≠ reqId) (lines : List String) :
    (lines.flatMap fun line => deliverLocal s other (.ok line)).filterMap
      (SwarmOutput.heardBy reqId) = [] := by
  rw [List.filterMap_eq_nil_iff]
  intro o member
  obtain ⟨line, -, delivered⟩ := List.mem_flatMap.mp member
  exact List.filterMap_eq_nil_iff.mp (deliverLocal_unheard differs _) o delivered

private theorem heardBy_lines_alike (view : s.askerView target reqId = t.askerView target reqId)
    (other : String) (lines : List String) :
    (lines.flatMap fun line => deliverLocal s other (.ok line)).filterMap
        (SwarmOutput.heardBy reqId) =
      (lines.flatMap fun line => deliverLocal t other (.ok line)).filterMap
        (SwarmOutput.heardBy reqId) := by
  induction lines with
  | nil => rfl
  | cons line rest ih =>
    simp only [List.flatMap_cons, List.filterMap_append, ih, deliverLocal_alike view]

private theorem dispatchSwarmProxyRequest_silent {host : Host} {proxy : ProxyState}
    {swarmId consumer other path : String} {body : Json} :
    (dispatchSwarmProxyRequest host proxy answers swarmId consumer peer other path body).filterMap
      (SwarmOutput.heardBy reqId) = [] := by
  unfold dispatchSwarmProxyRequest
  split
  · exact heardBy_respond _
  · unfold serveSwarm
    rw [List.filterMap_cons_none rfl]
    split
    · rfl
    · exact heardBy_respond _
    · exact heardBy_respond _

private theorem dispatchSwarmEncryptedProxyRequest_silent {host : Host} {proxy : ProxyState}
    {consumer : String} {request : EncryptedRequest} {nonce ciphertext : Bytes} :
    (dispatchSwarmEncryptedProxyRequest host proxy answers consumer peer request nonce
      ciphertext).1.filterMap (SwarmOutput.heardBy reqId) = [] := by
  unfold dispatchSwarmEncryptedProxyRequest
  dsimp only
  split
  · unfold relayToSidecar
    split
    · rw [List.filterMap_append, heardBy_forwards, heardBy_respond, List.nil_append]
    · rw [List.filterMap_append, heardBy_forwards, heardBy_respond, List.nil_append]
  · split
    · exact heardBy_respond _
    · split
      · exact heardBy_respond _
      · simp only [serveSwarmEncrypted, List.filterMap_append, heardBy_respond, List.nil_append]
        rfl

/-! ## Streams -/

private theorem drainStream_unheard {other : String} (differs : other ≠ reqId)
    (ctx : PendingEncryptedStreamCtx) :
    SwarmUnheard target reqId s (drainStream m s other ctx) := by
  have dropped : ((s.dropCaller other).dropStreams other).askerView target reqId =
      s.askerView target reqId :=
    (askerView_dropStreams differs).trans (askerView_dropCaller differs)
  unfold drainStream
  dsimp only
  split
  · exact ⟨askerView_setStreamOther differs _, heardBy_delivered differs _⟩
  · exact ⟨dropped, heardBy_delivered differs _⟩
  · refine ⟨dropped, ?_⟩
    rw [List.filterMap_append, heardBy_delivered differs, List.nil_append]
    simp [SwarmOutput.heardBy, differs]

private theorem setAskerStream_alike (view : s.askerView target reqId = t.askerView target reqId)
    (entry : Option PendingEncryptedStreamCtx) :
    ({ s with pendingEncryptedStreams := update s.pendingEncryptedStreams reqId entry } :
        SwarmState).askerView target reqId =
      ({ t with pendingEncryptedStreams := update t.pendingEncryptedStreams reqId entry } :
        SwarmState).askerView target reqId := by
  rw [askerView_setStream, askerView_setStream, view]

private theorem drainStream_alike (view : s.askerView target reqId = t.askerView target reqId)
    (ctx : PendingEncryptedStreamCtx) :
    SwarmAlike target reqId (drainStream m s reqId ctx) (drainStream m t reqId ctx) := by
  have proxy : s.proxy = t.proxy := congrArg AskerView.proxy view
  have drained : drainEncryptedStreamChunks m.host s.proxy.config reqId ctx.reorder.length ctx =
      drainEncryptedStreamChunks m.host t.proxy.config reqId ctx.reorder.length ctx := by rw [proxy]
  have dropped : ((s.dropCaller reqId).dropStreams reqId).askerView target reqId =
      ((t.dropCaller reqId).dropStreams reqId).askerView target reqId :=
    dropStreams_alike (dropCaller_alike view reqId) reqId
  unfold drainStream
  rw [drained]
  dsimp only
  split
  · exact ⟨setAskerStream_alike view _, rfl⟩
  · exact ⟨dropped, rfl⟩
  · exact ⟨dropped, rfl⟩

private theorem onEncryptedStreamChunk_unheard {other : String} (differs : other ≠ reqId)
    (chunk : EncryptedStreamChunkData) :
    SwarmUnheard target reqId s (onEncryptedStreamChunk m s other chunk) := by
  unfold onEncryptedStreamChunk
  split
  · split
    · exact drainStream_unheard differs _
    · exact ⟨askerView_setEarlyOther differs _, rfl⟩
  · exact ⟨rfl, rfl⟩

private theorem onEncryptedStreamChunk_alike
    (view : s.askerView target reqId = t.askerView target reqId) (other : String)
    (chunk : EncryptedStreamChunkData) :
    SwarmAlike target reqId (onEncryptedStreamChunk m s other chunk)
      (onEncryptedStreamChunk m t other chunk) := by
  by_cases same : other = reqId
  · subst same
    have waiting : s.pendingProxyByReqId other = t.pendingProxyByReqId other :=
      congrArg AskerView.waiting view
    have stream : s.pendingEncryptedStreams other = t.pendingEncryptedStreams other :=
      congrArg AskerView.stream view
    have early : s.pendingEncryptedStreamEarly other = t.pendingEncryptedStreamEarly other :=
      congrArg AskerView.early view
    unfold onEncryptedStreamChunk
    rw [waiting, stream, early]
    split
    · split
      · exact drainStream_alike view _
      · refine ⟨?_, rfl⟩
        rw [askerView_setEarly, askerView_setEarly, view]
    · exact ⟨view, rfl⟩
  · exact (onEncryptedStreamChunk_unheard same chunk).alike
      (onEncryptedStreamChunk_unheard same chunk) view

/-! ## Requests of peers -/

private theorem sendReverse_unheard (msgs : List StreamMessage)
    (dials : ∀ name, s.libp2pToMtrxai peer = some name →
      (dialCached m s name).askerView target reqId = s.askerView target reqId) :
    SwarmUnheard target reqId s (sendReverse m s peer msgs) := by
  unfold sendReverse
  split
  · exact ⟨rfl, heardBy_sends msgs⟩
  · split
    · exact ⟨rfl, rfl⟩
    · cases known : s.libp2pToMtrxai peer with
      | none => exact ⟨rfl, rfl⟩
      | some name => exact ⟨dials name known, rfl⟩

private theorem sendReverse_alike (view : s.askerView target reqId = t.askerView target reqId)
    (known : s.libp2pToMtrxai peer = some target) (known' : t.libp2pToMtrxai peer = some target)
    (msgs : List StreamMessage) :
    SwarmAlike target reqId (sendReverse m s peer msgs) (sendReverse m t peer msgs) := by
  have connected : s.connected = t.connected := congrArg AskerView.connected view
  unfold sendReverse
  rw [connected, known, known']
  split
  · exact ⟨view, rfl⟩
  · split
    · exact ⟨view, rfl⟩
    · exact ⟨dialCached_alike view, rfl⟩

/-- Serving a peer that is not known as the provider. -/
private theorem serveEncryptedRequest_unheard (apart : AddressesApart m providerOf target s)
    (unknown : s.nameOf peer ≠ target) (request : EncryptedRequest) (nonce ciphertext : Bytes) :
    SwarmUnheard target reqId s
      (serveEncryptedRequest m s peer answers request nonce ciphertext) := by
  have bound : (s.bindPeer (s.nameOf peer) peer).askerView target reqId =
      s.askerView target reqId := askerView_bindUnknown unknown unknown
  -- The peer's cached address is not known as the provider's, nor is the peer now.
  have dials : ∀ u : SwarmState, u.peerCache = s.peerCache →
      u.libp2pToMtrxai = (s.bindPeer (s.nameOf peer) peer).libp2pToMtrxai →
      ∀ name, u.libp2pToMtrxai peer = some name →
        (dialCached m u name).askerView target reqId = u.askerView target reqId := by
    intro u catalogs peers name known
    obtain rfl : s.nameOf peer = name := by
      simpa [peers, SwarmState.bindPeer] using known
    unfold dialCached
    split
    · rfl
    · rename_i cached
      have addrs : u.cachedAddrs (s.nameOf peer) = s.cachedAddrs (s.nameOf peer) := by
        simp only [SwarmState.cachedAddrs, catalogs]
      refine askerView_bindUnknown unknown ?_
      have before := (apart _ unknown (dialed_of_cachedAddrs (addrs ▸ cached)) _
        (.inr (.inl rfl))).1
      rw [addrs]
      by_cases same : resolveLibp2pPeerId m.ids (s.cachedAddrs (s.nameOf peer)) (s.nameOf peer) = peer
      · rw [same]
        simpa [SwarmState.nameOf, peers, SwarmState.bindPeer] using unknown
      · have elsewhere : ∀ probe, probe ≠ peer → u.nameOf probe = s.nameOf probe := by
          intro probe differs
          simp [SwarmState.nameOf, peers, SwarmState.bindPeer, update_of_ne differs]
        rw [elsewhere _ same]
        exact before
  unfold serveEncryptedRequest
  dsimp only
  split
  · obtain ⟨after, silent⟩ : SwarmUnheard target reqId _ (sendReverse m _ peer _) :=
      sendReverse_unheard _ (dials (s.bindPeer (s.nameOf peer) peer) rfl rfl)
    refine ⟨after.trans bound, ?_⟩
    rw [List.filterMap_append, dispatchSwarmEncryptedProxyRequest_silent, List.nil_append]
    exact silent
  · obtain ⟨after, silent⟩ : SwarmUnheard target reqId _ (sendReverse m _ peer _) :=
      sendReverse_unheard _ (dials ((s.bindPeer (s.nameOf peer) peer).dropReverse peer) rfl rfl)
    refine ⟨after.trans bound, ?_⟩
    rw [List.filterMap_append, dispatchSwarmEncryptedProxyRequest_silent, List.nil_append]
    exact silent

private theorem serveEncryptedRequest_alike (apart : AddressesApart m providerOf target s)
    (apart' : AddressesApart m providerOf target t)
    (view : s.askerView target reqId = t.askerView target reqId) (request : EncryptedRequest)
    (nonce ciphertext : Bytes) :
    SwarmAlike target reqId (serveEncryptedRequest m s peer answers request nonce ciphertext)
      (serveEncryptedRequest m t peer answers request nonce ciphertext) := by
  by_cases own : s.nameOf peer = target
  · have own' : t.nameOf peer = target := (nameOf_alike view peer).mp own
    have proxy : s.proxy = t.proxy := congrArg AskerView.proxy view
    have bound := bindPeer_alike view target peer
    have named : ∀ u : SwarmState, (u.bindPeer target peer).libp2pToMtrxai peer = some target :=
      fun u => by simp [SwarmState.bindPeer]
    unfold serveEncryptedRequest
    simp only [own, own']
    have served : ∀ a b : SwarmState, a.askerView target reqId = b.askerView target reqId →
        a.libp2pToMtrxai peer = some target → b.libp2pToMtrxai peer = some target →
        SwarmAlike target reqId
          ((sendReverse m a peer (dispatchSwarmEncryptedProxyRequest m.host a.proxy answers target
              peer request nonce ciphertext).2).1,
            (dispatchSwarmEncryptedProxyRequest m.host a.proxy answers target peer request nonce
              ciphertext).1 ++ (sendReverse m a peer (dispatchSwarmEncryptedProxyRequest m.host
              a.proxy answers target peer request nonce ciphertext).2).2)
          ((sendReverse m b peer (dispatchSwarmEncryptedProxyRequest m.host b.proxy answers target
              peer request nonce ciphertext).2).1,
            (dispatchSwarmEncryptedProxyRequest m.host b.proxy answers target peer request nonce
              ciphertext).1 ++ (sendReverse m b peer (dispatchSwarmEncryptedProxyRequest m.host
              b.proxy answers target peer request nonce ciphertext).2).2) := by
      intro a b same known known'
      have proxies : a.proxy = b.proxy := congrArg AskerView.proxy same
      rw [proxies]
      obtain ⟨after, outputs⟩ := sendReverse_alike (m := m) same known known'
        (dispatchSwarmEncryptedProxyRequest m.host b.proxy answers target peer request nonce
          ciphertext).2
      refine ⟨after, ?_⟩
      rw [List.filterMap_append, List.filterMap_append, outputs]
    split
    · exact served _ _ bound (named s) (named t)
    · exact served _ _ bound (named s) (named t)
  · have own' : t.nameOf peer ≠ target := fun named => own ((nameOf_alike view peer).mpr named)
    exact (serveEncryptedRequest_unheard apart own request nonce ciphertext).alike
      (serveEncryptedRequest_unheard apart' own' request nonce ciphertext) view

/-! ## Requests that answer -/

/-- The request that a message put as a request is taken to answer. -/
def StreamMessage.pushedAnswer : StreamMessage → Option String
  | .proxyResponseChunk reqId _ | .proxyResponseDone reqId | .proxyResponseError reqId _
  | .encryptedProxyStreamChunk reqId _ _ _ _ _ => some reqId
  | _ => none

/-- What a peer asks for does not move the provider's address. -/
def RequestElsewhere (m : SwarmManager) (target : String) (s : SwarmState) (peer : PeerId)
    (answers : Answers) : StreamMessage → Prop
  | .catalogSync record => CatalogElsewhere m target s record
  | .encryptedProxyRequest _ _ _ _ _ _ _ auth =>
    auth.any (verifySwarmAuth m answers.unixNow) → s.nameOf peer ≠ target
  | _ => True

/-- A request that answers nothing. -/
private theorem onSwarmRequest_silent {msg : StreamMessage} (plain : msg.pushedAnswer = none)
    (notCatalog : ∀ record, msg ≠ .catalogSync record)
    (notServed : ∀ other path roomId pk nonce ciphertext version proof,
      msg = .encryptedProxyRequest other path roomId pk nonce ciphertext version (some proof) →
        verifySwarmAuth m answers.unixNow proof = false) :
    SwarmUnheard target reqId s (onSwarmRequest m s peer msg answers) := by
  cases msg with
  | catalogSync record => exact absurd rfl (notCatalog record)
  | proxyRequest other path body =>
    simp only [onSwarmRequest]
    split
    · exact ⟨rfl, heardBy_respond _⟩
    · exact ⟨rfl, dispatchSwarmProxyRequest_silent⟩
  | encryptedProxyRequest other path roomId pk nonce ciphertext version auth =>
    cases auth with
    | none => exact ⟨rfl, heardBy_respond _⟩
    | some proof =>
      have refused := notServed other path roomId pk nonce ciphertext version proof rfl
      simp only [onSwarmRequest, refused, Bool.false_eq_true, ↓reduceIte]
      exact ⟨rfl, heardBy_respond _⟩
  | proxyAuth proof =>
    refine ⟨rfl, ?_⟩
    simp only [onSwarmRequest]
    split <;> exact heardBy_respond _
  | proxyRequestEnd other =>
    simp only [onSwarmRequest, onProxyRequestEnd]
    split
    · exact ⟨rfl, heardBy_respond _⟩
    · refine ⟨rfl, ?_⟩
      dsimp only
      split
      · exact dispatchSwarmProxyRequest_silent
      · exact heardBy_respond _
  | proxyResponseChunk | proxyResponseDone | proxyResponseError | encryptedProxyStreamChunk =>
    cases plain
  | _ => exact ⟨rfl, heardBy_respond _⟩

/-- What a peer asks for concerns no caller that it is not taken to answer, unless it
moves the provider's address. -/
theorem onSwarmRequest_unheard (apart : AddressesApart m providerOf target s) {msg : StreamMessage}
    (other : msg.pushedAnswer ≠ some reqId) (elsewhere : RequestElsewhere m target s peer answers msg) :
    SwarmUnheard target reqId s (onSwarmRequest m s peer msg answers) := by
  cases msg with
  | catalogSync record =>
    exact ⟨applyRemoteCatalog_unheard elsewhere, heardBy_respond _⟩
  | encryptedProxyRequest other' path roomId pk nonce ciphertext version auth =>
    by_cases served : auth.any (verifySwarmAuth m answers.unixNow) = true
    · obtain ⟨proof, rfl, verified⟩ := (Option.any_eq_true _ _).mp served
      simp only [onSwarmRequest, verified, ↓reduceIte]
      exact serveEncryptedRequest_unheard apart (elsewhere served) _ _ _
    · refine onSwarmRequest_silent rfl (by simp) ?_
      rintro _ _ _ _ _ _ _ proof ⟨⟩
      simpa using served
  | encryptedProxyStreamChunk other' seq nonce ciphertext version done =>
    have differs : other' ≠ reqId := fun same => other (congrArg some same)
    obtain ⟨after, silent⟩ : SwarmUnheard target reqId s
        (onEncryptedStreamChunk m s other' ⟨seq, nonce, ciphertext, done⟩) :=
      onEncryptedStreamChunk_unheard differs _
    refine ⟨after, ?_⟩
    simp only [onSwarmRequest, List.filterMap_append, silent, heardBy_respond, List.append_nil]
  | proxyResponseChunk other' chunk =>
    have differs : other' ≠ reqId := fun same => other (congrArg some same)
    refine ⟨rfl, ?_⟩
    simp only [onSwarmRequest, List.filterMap_append, deliverLocal_unheard differs, heardBy_respond,
      List.append_nil]
  | proxyResponseDone other' =>
    have differs : other' ≠ reqId := fun same => other (congrArg some same)
    exact ⟨askerView_dropCaller differs, heardBy_respond _⟩
  | proxyResponseError other' error =>
    have differs : other' ≠ reqId := fun same => other (congrArg some same)
    refine ⟨askerView_dropCaller differs, ?_⟩
    simp only [onSwarmRequest, List.filterMap_append, deliverLocal_unheard differs, heardBy_respond,
      List.append_nil]
  | _ => exact onSwarmRequest_silent rfl (by simp) (by simp)

/-- The requests of a peer act alike on managers that are alike. -/
theorem onSwarmRequest_alike (apart : AddressesApart m providerOf target s)
    (apart' : AddressesApart m providerOf target t)
    (view : s.askerView target reqId = t.askerView target reqId) (msg : StreamMessage) :
    SwarmAlike target reqId (onSwarmRequest m s peer msg answers)
      (onSwarmRequest m t peer msg answers) := by
  cases msg with
  | catalogSync record => exact ⟨applyRemoteCatalog_alike view record, rfl⟩
  | encryptedProxyRequest other path roomId pk nonce ciphertext version auth =>
    by_cases served : auth.any (verifySwarmAuth m answers.unixNow) = true
    · obtain ⟨proof, rfl, verified⟩ := (Option.any_eq_true _ _).mp served
      simp only [onSwarmRequest, verified, ↓reduceIte]
      exact serveEncryptedRequest_alike apart apart' view _ _ _
    · have refused : ∀ u : SwarmState, SwarmUnheard target reqId u (onSwarmRequest m u peer
          (.encryptedProxyRequest other path roomId pk nonce ciphertext version auth) answers) := by
        intro u
        refine onSwarmRequest_silent rfl (by simp) ?_
        rintro _ _ _ _ _ _ _ proof ⟨⟩
        simpa using served
      exact (refused s).alike (refused t) view
  | encryptedProxyStreamChunk other seq nonce ciphertext version done =>
    obtain ⟨after, outputs⟩ := onEncryptedStreamChunk_alike (m := m) view other
      ⟨seq, nonce, ciphertext, done⟩
    refine ⟨after, ?_⟩
    simp only [onSwarmRequest, List.filterMap_append, outputs, heardBy_respond]
  | proxyResponseChunk other chunk =>
    refine ⟨view, ?_⟩
    simp only [onSwarmRequest, List.filterMap_append, deliverLocal_alike view, heardBy_respond]
  | proxyResponseDone other => exact ⟨dropCaller_alike view other, rfl⟩
  | proxyResponseError other error =>
    refine ⟨dropCaller_alike view other, ?_⟩
    simp only [onSwarmRequest, List.filterMap_append, deliverLocal_alike view, heardBy_respond]
  | _ =>
    exact (onSwarmRequest_silent rfl (by simp) (by simp)).alike
      (onSwarmRequest_silent rfl (by simp) (by simp)) view

/-! ## Responses -/

/-- The request that a response is taken to answer. -/
def StreamMessage.wholeAnswer : StreamMessage → Option String
  | .proxyResponse reqId _ _ | .encryptedProxyResponse reqId _ _ _ _ _ => some reqId
  | _ => none

private theorem onStreamAck_unheard {other : String} (differs : other ≠ reqId)
    (pending : PendingOutboundProxy) :
    SwarmUnheard target reqId s (onStreamAck m s other pending) := by
  unfold onStreamAck
  split
  · exact failProxyRequest_unheard differs _
  · have cleared : ({ s with
        pendingEncryptedStreamEarly := update s.pendingEncryptedStreamEarly other [] } :
        SwarmState).askerView target reqId = s.askerView target reqId :=
      askerView_setEarlyOther differs _
    dsimp only
    split
    · obtain ⟨after, silent⟩ : SwarmUnheard target reqId _ (drainStream m _ other _) :=
        drainStream_unheard differs _
      exact ⟨after.trans cleared, silent⟩
    · exact ⟨(askerView_setStreamOther differs _).trans cleared, rfl⟩

private theorem onStreamAck_alike (view : s.askerView target reqId = t.askerView target reqId)
    (pending : PendingOutboundProxy) :
    SwarmAlike target reqId (onStreamAck m s reqId pending) (onStreamAck m t reqId pending) := by
  have waiting : s.pendingProxyByReqId reqId = t.pendingProxyByReqId reqId :=
    congrArg AskerView.waiting view
  have early : s.pendingEncryptedStreamEarly reqId = t.pendingEncryptedStreamEarly reqId :=
    congrArg AskerView.early view
  have cleared : ({ s with
        pendingEncryptedStreamEarly := update s.pendingEncryptedStreamEarly reqId [] } :
        SwarmState).askerView target reqId =
      ({ t with
        pendingEncryptedStreamEarly := update t.pendingEncryptedStreamEarly reqId [] } :
        SwarmState).askerView target reqId := by
    rw [askerView_setEarly, askerView_setEarly, view]
  unfold onStreamAck
  split
  · exact failProxyRequest_alike view _ _
  · dsimp only
    rw [waiting, early]
    split
    · exact drainStream_alike cleared _
    · exact ⟨setAskerStream_alike cleared _, rfl⟩

private theorem onEncryptedResponse_unheard {other : String} (differs : other ≠ reqId)
    (pending : Option PendingOutboundProxy) (payload : EncryptedPayload) :
    SwarmUnheard target reqId s (onEncryptedResponse m s other pending payload) := by
  unfold onEncryptedResponse
  dsimp only
  split
  · exact failProxyRequest_unheard differs _
  · exact ⟨askerView_dropCaller differs, heardBy_lines differs _⟩

private theorem onEncryptedResponse_alike (view : s.askerView target reqId = t.askerView target reqId)
    (other : String) (pending : Option PendingOutboundProxy) (payload : EncryptedPayload) :
    SwarmAlike target reqId (onEncryptedResponse m s other pending payload)
      (onEncryptedResponse m t other pending payload) := by
  have proxy : s.proxy = t.proxy := congrArg AskerView.proxy view
  unfold onEncryptedResponse
  simp only [proxy]
  split
  · exact failProxyRequest_alike view _ _
  · exact ⟨dropCaller_alike view other, heardBy_lines_alike view other _⟩

/-- Whether a peer's response is handled: a request it answers was sent to that peer. -/
def SwarmState.TakesResponse (s : SwarmState) (peer : PeerId) (id : OutboundRequestId) : Prop :=
  ∀ sent, s.pendingProxyByOutboundId id = some sent → sent.libp2pPeer = peer

/-- The request sent under a number was put to a provider. -/
def SwarmState.PutToProvider (s : SwarmState) (target : String) (id : OutboundRequestId) : Prop :=
  ∃ sent, s.pendingProxyByOutboundId id = some sent ∧ sent.targetMtrxaiPeer = target

private theorem sent_none_iff (reqId : String) {id : OutboundRequestId} :
    (s.askerView target reqId).sent id = none ↔ ¬ s.PutToProvider target id := by
  simp only [SwarmState.askerView, SwarmState.PutToProvider, Option.filter_eq_none_iff,
    decide_eq_true_eq, not_exists, not_and]

/-- A response is of no concern if it is not taken to answer the caller's request, nor
answers a request put to the provider. -/
theorem onSwarmResponse_unheard {id : OutboundRequestId} {msg : StreamMessage}
    (elsewhere : ∀ other, msg.wholeAnswer = some other → s.TakesResponse peer id →
      other ≠ reqId ∧ ¬ s.PutToProvider target id) :
    SwarmUnheard target reqId s (onSwarmResponse m s peer id msg) := by
  unfold onSwarmResponse
  dsimp only
  split
  · exact ⟨rfl, rfl⟩
  · rename_i notIgnored
    have taken : s.TakesResponse peer id := by
      intro sent found
      simpa [found] using notIgnored
    split
    · rename_i other body error
      obtain ⟨differs, notPut⟩ := elsewhere other rfl taken
      have dropped := dropSent_unheard ((sent_none_iff reqId).mpr notPut)
      refine ⟨(askerView_dropCaller differs).trans dropped, ?_⟩
      dsimp only
      split
      · exact deliverLocal_unheard differs _
      · exact heardBy_lines differs _
    · rename_i other nonce ciphertext version error stream
      obtain ⟨differs, notPut⟩ := elsewhere other rfl taken
      have dropped := dropSent_unheard ((sent_none_iff reqId).mpr notPut)
      split
      · obtain ⟨after, silent⟩ : SwarmUnheard target reqId _ (failProxyRequest (s.dropSent id) _ _) :=
          failProxyRequest_unheard differs _
        exact ⟨after.trans dropped, silent⟩
      · split
        · split
          · exact ⟨dropped, rfl⟩
          · obtain ⟨after, silent⟩ : SwarmUnheard target reqId _ (onStreamAck m (s.dropSent id) _ _) :=
              onStreamAck_unheard differs _
            exact ⟨after.trans dropped, silent⟩
        · obtain ⟨after, silent⟩ : SwarmUnheard target reqId _
              (onEncryptedResponse m (s.dropSent id) _ _ _) := onEncryptedResponse_unheard differs _ _
          exact ⟨after.trans dropped, silent⟩
    · exact ⟨rfl, rfl⟩

/-- Responses act alike on managers that are alike, if those taken to answer the
caller's request are responses to a request put to the provider. -/
theorem onSwarmResponse_alike (view : s.askerView target reqId = t.askerView target reqId)
    {id : OutboundRequestId} {msg : StreamMessage}
    (owned : msg.wholeAnswer = some reqId → s.TakesResponse peer id → s.PutToProvider target id)
    (owned' : msg.wholeAnswer = some reqId → t.TakesResponse peer id → t.PutToProvider target id) :
    SwarmAlike target reqId (onSwarmResponse m s peer id msg) (onSwarmResponse m t peer id msg) := by
  cases entry : (s.askerView target reqId).sent id with
  | none =>
    have notPut : ¬ s.PutToProvider target id := (sent_none_iff reqId).mp entry
    rw [view] at entry
    have notPut' : ¬ t.PutToProvider target id := (sent_none_iff reqId).mp entry
    refine (onSwarmResponse_unheard ?_).alike (onSwarmResponse_unheard ?_) view
    · intro other named taken
      refine ⟨?_, notPut⟩
      rintro rfl
      exact notPut (owned named taken)
    · intro other named taken
      refine ⟨?_, notPut'⟩
      rintro rfl
      exact notPut' (owned' named taken)
  | some pending =>
    obtain ⟨found, own⟩ : s.pendingProxyByOutboundId id = some pending ∧
        pending.targetMtrxaiPeer = target := by
      simpa using Option.filter_eq_some_iff.mp entry
    have dropped := dropSent_alike view id
    unfold onSwarmResponse
    simp only [found, sent_alike view found own]
    split
    · exact ⟨view, rfl⟩
    · split
      · rename_i other body error
        refine ⟨dropCaller_alike dropped other, ?_⟩
        dsimp only
        split
        · exact deliverLocal_alike dropped other _
        · exact heardBy_lines_alike dropped other _
      · rename_i other nonce ciphertext version error stream
        split
        · exact failProxyRequest_alike dropped _ _
        · split
          · by_cases same : other = reqId
            · subst same
              exact onStreamAck_alike dropped pending
            · exact (onStreamAck_unheard same pending).alike (onStreamAck_unheard same pending)
                dropped
          · exact onEncryptedResponse_alike dropped other _ _
      · exact ⟨view, rfl⟩

/-! ## Steps -/

/-- A message of another peer than the one that was asked. -/
def SwarmEvent.OtherPeer (asked : PeerId) : SwarmEvent → Prop
  | .request peer _ _ | .response peer _ _ | .gossip peer _ => peer ≠ asked
  | _ => False

instance (asked : PeerId) : DecidablePred (SwarmEvent.OtherPeer asked) := fun e =>
  match e with
  | .request peer _ _ | .response peer _ _ | .gossip peer _ =>
    inferInstanceAs (Decidable (peer ≠ asked))
  | .proxyCommand .. | .outboundFailure .. | .connectionEstablished .. | .connectionClosed ..
  | .presence .. | .proxyChanged .. | .requestsNumbered .. => inferInstanceAs (Decidable False)

/-- A peer's message is not taken to answer a request, and does not move the address
of the request's provider. -/
def SwarmEvent.Elsewhere (m : SwarmManager) (target reqId : String) (s : SwarmState) :
    SwarmEvent → Prop
  | .request peer msg answers =>
    msg.pushedAnswer ≠ some reqId ∧ RequestElsewhere m target s peer answers msg
  | .gossip _ record => CatalogElsewhere m target s record
  | .response peer id msg => ∀ other, msg.wholeAnswer = some other → s.TakesResponse peer id →
    other ≠ reqId ∧ ¬ s.PutToProvider target id
  | _ => True

/-- The numbers that libp2p gives are new, a command's request is put to the provider
that its id stands for, and the response that answers a request is one of its provider. -/
def SwarmEvent.Regular (m : SwarmManager) (providerOf : String → String) (reqId : String)
    (s : SwarmState) : SwarmEvent → Prop
  | .response peer id msg => msg.wholeAnswer = some reqId → s.TakesResponse peer id →
    s.PutToProvider (providerOf reqId) id
  | .proxyCommand cmd ranked sending =>
    s.pendingProxyByOutboundId sending.outboundId = none ∧
      ∀ target, commandTarget m s cmd ranked = .ok target → target = providerOf s.freshReqId
  | .outboundFailure _ _ _ sending => s.pendingProxyByOutboundId sending.outboundId = none
  | .connectionEstablished _ _ sendings => FreshFor sendings s
  | _ => True

/-- Only its provider answers a request, and no other peer has the provider's address. -/
structure AnsweredByProvider (m : SwarmManager) (providerOf : String → String) (reqId : String)
    (asked : PeerId) (s : SwarmState) (e : SwarmEvent) : Prop where
  apart : AddressesApart m providerOf (providerOf reqId) s
  others : e.OtherPeer asked → e.Elsewhere m (providerOf reqId) reqId s
  regular : ¬ e.OtherPeer asked → e.Regular m providerOf reqId s

private theorem swarmHeard_nil {result : SwarmState × List SwarmOutput}
    (unheard : SwarmUnheard target reqId s result) : swarmHeard reqId s result.2 result.1 = [] := by
  have waiting : result.1.pendingProxyByReqId reqId = s.pendingProxyByReqId reqId :=
    congrArg AskerView.waiting unheard.1
  rw [swarmHeard, unheard.2, waiting, heardEnd_self, List.nil_append]

/-- A message of another peer is not heard by the caller. -/
theorem swarmStep_unheard {e : SwarmEvent} (other : e.OtherPeer asked)
    (meets : AnsweredByProvider m providerOf reqId asked s e) :
    (swarmStep m s e).1.askerView (providerOf reqId) reqId = s.askerView (providerOf reqId) reqId ∧
      swarmHeard reqId s (swarmStep m s e).2 (swarmStep m s e).1 = [] := by
  have elsewhere := meets.others other
  have unheard : SwarmUnheard (providerOf reqId) reqId s (swarmStep m s e) := by
    cases e with
    | request peer msg answers =>
      exact onSwarmRequest_unheard meets.apart elsewhere.1 elsewhere.2
    | response peer id msg => exact onSwarmResponse_unheard elsewhere
    | gossip source record => exact ⟨applyRemoteCatalog_unheard elsewhere, rfl⟩
    | _ => exact other.elim
  exact ⟨unheard.1, swarmHeard_nil unheard⟩

/-- Every other event acts alike on managers that are alike to a caller. -/
theorem swarmStep_alike {e : SwarmEvent} (put : PutTo providerOf s) (put' : PutTo providerOf t)
    (view : s.askerView (providerOf reqId) reqId = t.askerView (providerOf reqId) reqId)
    (own : ¬ e.OtherPeer asked) (meets : AnsweredByProvider m providerOf reqId asked s e)
    (meets' : AnsweredByProvider m providerOf reqId asked t e) :
    (swarmStep m s e).1.askerView (providerOf reqId) reqId =
        (swarmStep m t e).1.askerView (providerOf reqId) reqId ∧
      swarmHeard reqId s (swarmStep m s e).2 (swarmStep m s e).1 =
        swarmHeard reqId t (swarmStep m t e).2 (swarmStep m t e).1 := by
  have regular := meets.regular own
  have regular' := meets'.regular own
  have alike : SwarmAlike (providerOf reqId) reqId (swarmStep m s e) (swarmStep m t e) := by
    cases e with
    | request peer msg answers => exact onSwarmRequest_alike meets.apart meets'.apart view msg
    | response peer id msg => exact onSwarmResponse_alike view regular regular'
    | gossip source record => exact ⟨applyRemoteCatalog_alike view record, rfl⟩
    | proxyCommand cmd ranked sending =>
      exact onProxyCommand_alike meets.apart meets'.apart view regular.1 regular'.1 regular.2
    | outboundFailure id retryable error sending =>
      exact onOutboundFailure_alike put put' meets.apart meets'.apart view regular regular' id
        retryable error
    | connectionEstablished peer cached sendings =>
      exact onConnectionEstablished_alike put put' meets.apart meets'.apart regular regular' view
        cached
    | connectionClosed peer connected => exact ⟨onConnectionClosed_alike view peer connected, rfl⟩
    | presence peers => exact ⟨syncPresence_alike view peers, rfl⟩
    | proxyChanged proxy =>
      have frame : ∀ u : SwarmState, ({ u with proxy } : SwarmState).askerView (providerOf reqId)
          reqId = { u.askerView (providerOf reqId) reqId with proxy } := fun _ => rfl
      refine ⟨?_, rfl⟩
      simp only [swarmStep]
      rw [frame, frame, view]
    | requestsNumbered count =>
      have frame : ∀ u : SwarmState, ({ u with nextReqId := u.nextReqId + count } :
          SwarmState).askerView (providerOf reqId) reqId =
            { u.askerView (providerOf reqId) reqId with
              nextReqId := (u.askerView (providerOf reqId) reqId).nextReqId + count } :=
        fun _ => rfl
      refine ⟨?_, rfl⟩
      simp only [swarmStep]
      rw [frame, frame, view]
  have waiting : s.pendingProxyByReqId reqId = t.pendingProxyByReqId reqId :=
    congrArg AskerView.waiting view
  have later : (swarmStep m s e).1.pendingProxyByReqId reqId =
      (swarmStep m t e).1.pendingProxyByReqId reqId := congrArg AskerView.waiting alike.1
  exact ⟨alike.1, by rw [swarmHeard, swarmHeard, alike.2, waiting, later]⟩

/-- The requests under way stay put to their providers. -/
theorem swarmStep_putTo {e : SwarmEvent} (put : PutTo providerOf s)
    (meets : AnsweredByProvider m providerOf reqId asked s e) :
    PutTo providerOf (swarmStep m s e).1 := by
  refine (swarmStep_outbound put ?_).1
  rintro cmd ranked sending rfl other target ⟨chosen, -, rfl⟩
  exact (meets.regular not_false).2 target chosen

end MtrxPeer
