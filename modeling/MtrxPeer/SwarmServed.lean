import MtrxPeer.P2pManager
import MtrxPeer.Served

/-! Which requests of a swarm's peers reach a backend. -/
namespace MtrxPeer

variable {m : SwarmManager} {s : SwarmState} {peer : PeerId} {answers : Answers}

/-! ## Outputs that call no backend -/

/-- No call of the backend is among the outputs. -/
def Quiet (outputs : List SwarmOutput) : Prop := ∀ call, .forward call ∉ outputs

@[simp] theorem quiet_nil : Quiet [] := by simp [Quiet]

@[simp] theorem quiet_append {a b : List SwarmOutput} : Quiet (a ++ b) ↔ Quiet a ∧ Quiet b := by
  simp only [Quiet, List.mem_append, not_or, forall_and]

@[simp] theorem quiet_respond (msg : StreamMessage) : Quiet (respond answers peer msg) := by
  unfold respond
  split <;> simp [Quiet]

@[simp] theorem quiet_deliverLocal (reqId : String) (item : Except String String) :
    Quiet (deliverLocal s reqId item) := by
  unfold deliverLocal
  split <;> simp [Quiet]

@[simp] theorem quiet_flatMap_deliverLocal (reqId : String) (parts : List String) :
    Quiet (parts.flatMap fun part => deliverLocal s reqId (.ok part)) := by
  intro call member
  obtain ⟨part, -, member⟩ := List.mem_flatMap.mp member
  exact quiet_deliverLocal _ _ call member

@[simp] theorem quiet_failProxyRequest (reqId error : String) :
    Quiet (failProxyRequest s reqId error).2 := quiet_deliverLocal _ _

private theorem quiet_map_deliver (reqId : String) (parts : List String) :
    Quiet (parts.map fun part => .deliver reqId (.ok part)) := by
  simp [Quiet]

theorem drainStream_quiet (reqId : String) (ctx : PendingEncryptedStreamCtx) :
    Quiet (drainStream m s reqId ctx).2 := by
  unfold drainStream
  dsimp only
  split
  · exact quiet_map_deliver _ _
  · exact quiet_map_deliver _ _
  · exact quiet_append.mpr ⟨quiet_map_deliver _ _, by simp [Quiet]⟩

theorem onEncryptedStreamChunk_quiet (reqId : String) (chunk : EncryptedStreamChunkData) :
    Quiet (onEncryptedStreamChunk m s reqId chunk).2 := by
  unfold onEncryptedStreamChunk
  split
  · split
    · exact drainStream_quiet _ _
    · exact quiet_nil
  · exact quiet_nil

theorem sendOutboundProxy_quiet (pending : PendingOutboundProxy) (sending : Sending) :
    Quiet (sendOutboundProxy m s pending sending).2 := by
  unfold sendOutboundProxy
  dsimp only
  split
  · exact quiet_nil
  · split
    · exact quiet_failProxyRequest _ _
    · simp [Quiet]

theorem flushPendingProxies_quiet (sendings : String → Sending) (queue : List PendingOutboundProxy) :
    Quiet (flushPendingProxies m s peer sendings queue).2 := by
  induction queue generalizing s with
  | nil => exact quiet_nil
  | cons pending rest ih =>
    simp only [flushPendingProxies, quiet_append]
    refine ⟨?_, ih⟩
    split
    · exact sendOutboundProxy_quiet _ _
    · exact quiet_nil

theorem sendReverse_quiet (msgs : List StreamMessage) : Quiet (sendReverse m s peer msgs).2 := by
  unfold sendReverse
  split
  · simp [Quiet]
  · split <;> exact quiet_nil

theorem onProxyCommand_quiet (cmd : ProxyRequestCommand) (ranked : List String) (sending : Sending) :
    Quiet (onProxyCommand m s cmd ranked sending).2 := by
  unfold onProxyCommand submitRequest
  dsimp only
  split
  · simp [Quiet]
  · split
    · simp [Quiet]
    · split
      · exact sendOutboundProxy_quiet _ _
      · split
        · exact quiet_failProxyRequest _ _
        · exact quiet_nil

theorem onOutboundFailure_quiet (id : OutboundRequestId) (retryable : Bool) (error : String)
    (sending : Sending) : Quiet (onOutboundFailure m s id retryable error sending).2 := by
  unfold onOutboundFailure
  dsimp only
  split
  · exact quiet_nil
  · split
    · split
      · exact sendOutboundProxy_quiet _ _
      · exact quiet_nil
    · exact quiet_failProxyRequest _ _

theorem onSwarmResponse_quiet (id : OutboundRequestId) (msg : StreamMessage) :
    Quiet (onSwarmResponse m s peer id msg).2 := by
  unfold onSwarmResponse
  dsimp only
  split
  · exact quiet_nil
  · split
    · split
      · exact quiet_deliverLocal _ _
      · exact quiet_flatMap_deliverLocal _ _
    · split
      · exact quiet_failProxyRequest _ _
      · split
        · split
          · exact quiet_nil
          · unfold onStreamAck
            split
            · exact quiet_failProxyRequest _ _
            · dsimp only
              split
              · exact drainStream_quiet _ _
              · exact quiet_nil
        · unfold onEncryptedResponse
          dsimp only
          split
          · exact quiet_failProxyRequest _ _
          · exact quiet_flatMap_deliverLocal _ _
    · exact quiet_nil

theorem onConnectionEstablished_quiet (cached : List String) (sendings : String → Sending) :
    Quiet (onConnectionEstablished m s peer cached sendings).2 := by
  unfold onConnectionEstablished
  dsimp only
  split
  · exact quiet_nil
  · exact quiet_append.mpr ⟨flushPendingProxies_quiet _ _, by simp [Quiet]⟩

/-! ## The dispatchers -/

/-- An admitted plaintext request makes exactly its call; a refused one none. -/
theorem dispatchSwarmProxyRequest_forward {host : Host} {proxy : ProxyState}
    {swarmId consumer reqId path : String} {body : Json} {call : BackendCall} :
    .forward call ∈ dispatchSwarmProxyRequest host proxy answers swarmId consumer peer reqId path
        body ↔
      swarmRefusal proxy swarmId consumer = none ∧
        call = (Arrived.plaintext reqId path body).call host proxy.config := by
  unfold dispatchSwarmProxyRequest
  split
  · rename_i refused
    simp [refused, quiet_respond _ call]
  · rename_i admitted
    unfold serveSwarm
    dsimp only
    rw [List.mem_cons]
    constructor
    · rintro (same | later)
      · exact ⟨admitted, SwarmOutput.forward.inj same⟩
      · exfalso
        split at later
        · simp at later
        · exact quiet_respond _ _ later
        · exact quiet_respond _ _ later
    · rintro ⟨-, rfl⟩
      exact .inl rfl

/-- The calls of the sidecar on a request without a proof. -/
theorem forwardRequest_unproved {host : Host} {config : ClientConfig} {registry : Registry}
    {reqId path roomId : String} {pk nonce ciphertext : Bytes} {version : Nat} :
    (forwardRequest host config registry answers reqId path roomId pk nonce ciphertext version
        none).1 =
      match answers.ipcError, decryptInboundRequest host config roomId reqId path pk nonce
        ciphertext with
      | none, .ok body => [⟨path, body, requestedModel body⟩]
      | _, _ => [] := by
  unfold forwardRequest
  cases answers.ipcError with
  | some error => rfl
  | none =>
    unfold handleSidecarMessage
    simp only [verifyInboundAuth]
    cases decryptInboundRequest host config roomId reqId path pk nonce ciphertext with
    | error error => rfl
    | ok body =>
      cases outcome : callOutcome registry answers ⟨path, body, requestedModel body⟩ with
      | none => simp [outcome]
      | some result =>
        cases result with
        | error error => simp [outcome]
        | ok chunks =>
          simp only [outcome]
          cases encryptOutboundResponse host.crypto config roomId reqId path pk
            (answers.draws 0).nonce (utf8 (collectText chunks)) <;> rfl

theorem relayToSidecar_forward {host : Host} {proxy : ProxyState} {request : EncryptedRequest}
    {nonce ciphertext : Bytes} {call : BackendCall} :
    .forward call ∈ relayToSidecar host proxy answers peer request nonce ciphertext ↔
      call ∈ (forwardRequest host proxy.config proxy.registry answers request.reqId request.path
        request.roomId request.consumerEphemeralPk nonce ciphertext request.aadVersion none).1 := by
  unfold relayToSidecar
  split
  all_goals
    rename_i ran
    simp [ran, quiet_respond _ call]

/-- The call that an encrypted request leads to once it is decrypted: the sidecar
posts the body as it is. -/
def encryptedCall (host : Host) (config : ClientConfig) (request : EncryptedRequest) (body : Json) :
    BackendCall :=
  if host.inferenceSidecarEnabled then ⟨request.path, body, requestedModel body⟩
  else (Arrived.encrypted request body).call host config

/-- What stands between an encrypted request and a backend in its dispatcher:
without the sidecar only the block list, with it only the way to the vault. -/
def encryptedAdmitted (host : Host) (proxy : ProxyState) (answers : Answers) (consumer : String) :
    Bool :=
  if host.inferenceSidecarEnabled then answers.ipcError.isNone else !proxy.isPeerBlocked consumer

theorem dispatchSwarmEncryptedProxyRequest_forward {host : Host} {proxy : ProxyState}
    {consumer : String} {request : EncryptedRequest} {nonce ciphertext : Bytes}
    {call : BackendCall} :
    .forward call ∈ (dispatchSwarmEncryptedProxyRequest host proxy answers consumer peer request
        nonce ciphertext).1 ↔
      encryptedAdmitted host proxy answers consumer = true ∧
        ∃ body, decryptInboundRequest host proxy.config request.roomId request.reqId request.path
            request.consumerEphemeralPk nonce ciphertext = .ok body ∧
          call = encryptedCall host proxy.config request body := by
  unfold dispatchSwarmEncryptedProxyRequest encryptedAdmitted encryptedCall
  dsimp only
  cases sidecar : host.inferenceSidecarEnabled with
  | true =>
    simp only [↓reduceIte, relayToSidecar_forward, forwardRequest_unproved]
    cases answers.ipcError with
    | some error => simp
    | none =>
      cases decryptInboundRequest host proxy.config request.roomId request.reqId request.path
        request.consumerEphemeralPk nonce ciphertext with
      | error error => simp
      | ok body => simp
  | false =>
    cases blocked : proxy.isPeerBlocked consumer with
    | true => simp [quiet_respond _ call]
    | false =>
      simp only [Bool.false_eq_true, ↓reduceIte]
      cases decryptInboundRequest host proxy.config request.roomId request.reqId request.path
        request.consumerEphemeralPk nonce ciphertext with
      | error error => simp [quiet_respond _ call]
      | ok body =>
        simp [serveSwarmEncrypted, quiet_respond _ call, Arrived.call, Arrived.path, Arrived.body]

/-! ## The calls of a manager -/

/-- The plaintext request that a message of a peer completes. -/
def swarmPlaintext (m : SwarmManager) (s : SwarmState) : StreamMessage → Option Arrived
  | .proxyRequest reqId path body =>
    if m.host.e2eeEnabled then none else some (.plaintext reqId path body)
  | .proxyRequestEnd reqId =>
    (s.pendingIncomingProxy reqId).bind fun pending =>
      (assemblePlaintext pending).map (.plaintext reqId pending.path)
  | _ => none

/-- How a message of a peer gets a call made: it completes a plaintext request
that is admitted, or it is an encrypted request that passes its checks. -/
inductive SwarmServes (m : SwarmManager) (s : SwarmState) (peer : PeerId) (answers : Answers)
    (call : BackendCall) : StreamMessage → Prop where
  | plaintext {msg : StreamMessage} {request : Arrived}
      (complete : swarmPlaintext m s msg = some request)
      (admitted : swarmRefusal s.proxy m.swarmId (s.nameOf peer) = none)
      (made : call = request.call m.host s.proxy.config) : SwarmServes m s peer answers call msg
  | encrypted {reqId path roomId : String} {pk nonce ciphertext : Bytes} {version : Nat}
      {proof : ProxyAuthProof} {body : Json}
      (verified : verifySwarmAuth m answers.unixNow proof = true)
      (admitted : encryptedAdmitted m.host s.proxy answers (s.nameOf peer) = true)
      (opened : decryptInboundRequest m.host s.proxy.config roomId reqId path pk nonce ciphertext =
        .ok body)
      (made : call = encryptedCall m.host s.proxy.config
        ⟨reqId, path, roomId, pk, version, some proof⟩ body) :
      SwarmServes m s peer answers call
        (.encryptedProxyRequest reqId path roomId pk nonce ciphertext version (some proof))

private theorem proxyRequest_forward {reqId path : String} {body : Json} {call : BackendCall} :
    .forward call ∈ (onSwarmRequest m s peer (.proxyRequest reqId path body) answers).2 ↔
      SwarmServes m s peer answers call (.proxyRequest reqId path body) := by
  constructor
  · intro called
    simp only [onSwarmRequest] at called
    split at called
    · exact (quiet_respond _ _ called).elim
    · rename_i plain
      obtain ⟨admitted, made⟩ := dispatchSwarmProxyRequest_forward.mp called
      exact .plaintext (by simp [swarmPlaintext, plain]) admitted made
  · intro serves
    cases serves with
    | plaintext complete admitted made =>
      simp only [swarmPlaintext] at complete
      split at complete
      · cases complete
      · rename_i plain
        obtain rfl := Option.some.inj complete
        simpa [onSwarmRequest, plain] using
          dispatchSwarmProxyRequest_forward.mpr ⟨admitted, made⟩

private theorem proxyRequestEnd_forward {reqId : String} {call : BackendCall} :
    .forward call ∈ (onSwarmRequest m s peer (.proxyRequestEnd reqId) answers).2 ↔
      SwarmServes m s peer answers call (.proxyRequestEnd reqId) := by
  constructor
  · intro called
    simp only [onSwarmRequest, onProxyRequestEnd] at called
    cases found : s.pendingIncomingProxy reqId with
    | none =>
      rw [found] at called
      exact (quiet_respond _ _ called).elim
    | some pending =>
      rw [found] at called
      dsimp only at called
      cases assembled : assemblePlaintext pending with
      | none =>
        rw [assembled] at called
        exact (quiet_respond _ _ called).elim
      | some body =>
        rw [assembled] at called
        obtain ⟨admitted, made⟩ := dispatchSwarmProxyRequest_forward.mp called
        exact .plaintext (by simp [swarmPlaintext, found, assembled]) admitted made
  · intro serves
    cases serves with
    | plaintext complete admitted made =>
      obtain ⟨pending, found, complete⟩ := Option.bind_eq_some_iff.mp complete
      obtain ⟨body, assembled, rfl⟩ := Option.map_eq_some_iff.mp complete
      simpa [onSwarmRequest, onProxyRequestEnd, found, assembled] using
        dispatchSwarmProxyRequest_forward.mpr ⟨admitted, made⟩

private theorem encryptedProxyRequest_forward {reqId path roomId : String}
    {pk nonce ciphertext : Bytes} {version : Nat} {auth : Option ProxyAuthProof} {call : BackendCall} :
    .forward call ∈ (onSwarmRequest m s peer
        (.encryptedProxyRequest reqId path roomId pk nonce ciphertext version auth) answers).2 ↔
      SwarmServes m s peer answers call
        (.encryptedProxyRequest reqId path roomId pk nonce ciphertext version auth) := by
  constructor
  · intro called
    simp only [onSwarmRequest] at called
    cases auth with
    | none => exact (quiet_respond _ _ called).elim
    | some proof =>
      dsimp only at called
      split at called
      · rename_i verified
        simp only [serveEncryptedRequest, List.mem_append] at called
        rcases called with called | sent
        · obtain ⟨admitted, body, opened, made⟩ :=
            dispatchSwarmEncryptedProxyRequest_forward.mp called
          have config : ∀ b : Bool,
              (if b = true then s.bindPeer (s.nameOf peer) peer
                else (s.bindPeer (s.nameOf peer) peer).dropReverse peer).proxy = s.proxy := by
            intro b
            cases b <;> rfl
          rw [config] at admitted opened made
          exact .encrypted verified admitted opened made
        · exact (sendReverse_quiet _ _ sent).elim
      · exact (quiet_respond _ _ called).elim
  · intro serves
    cases serves with
    | plaintext complete => cases complete
    | encrypted verified admitted opened made =>
      simp only [onSwarmRequest, verified, ↓reduceIte, serveEncryptedRequest, List.mem_append]
      left
      refine dispatchSwarmEncryptedProxyRequest_forward.mpr ?_
      cases m.host.inferenceSidecarEnabled
      · exact ⟨admitted, _, opened, made⟩
      · exact ⟨admitted, _, opened, made⟩

/-- No other message completes a request. -/
private theorem other_forward {msg : StreamMessage} {call : BackendCall}
    (silent : .forward call ∉ (onSwarmRequest m s peer msg answers).2)
    (incomplete : swarmPlaintext m s msg = none)
    (plain : ∀ reqId path roomId pk nonce ciphertext version auth,
      msg ≠ .encryptedProxyRequest reqId path roomId pk nonce ciphertext version auth) :
    .forward call ∈ (onSwarmRequest m s peer msg answers).2 ↔
      SwarmServes m s peer answers call msg := by
  refine iff_of_false silent ?_
  intro serves
  cases serves with
  | plaintext complete => cases incomplete.symm.trans complete
  | encrypted => exact plain _ _ _ _ _ _ _ _ rfl

theorem onSwarmRequest_forward {msg : StreamMessage} {call : BackendCall} :
    .forward call ∈ (onSwarmRequest m s peer msg answers).2 ↔
      SwarmServes m s peer answers call msg := by
  cases msg with
  | proxyRequest reqId path body => exact proxyRequest_forward
  | proxyRequestEnd reqId => exact proxyRequestEnd_forward
  | encryptedProxyRequest reqId path roomId pk nonce ciphertext version auth =>
    exact encryptedProxyRequest_forward
  | encryptedProxyStreamChunk =>
    refine other_forward (fun called => ?_) rfl (by simp)
    simp only [onSwarmRequest, List.mem_append] at called
    rcases called with called | pong
    · exact onEncryptedStreamChunk_quiet _ _ _ called
    · exact quiet_respond _ _ pong
  | proxyAuth proof =>
    refine other_forward (fun called => ?_) rfl (by simp)
    simp only [onSwarmRequest] at called
    split at called <;> exact quiet_respond _ _ called
  | proxyResponseChunk =>
    refine other_forward (fun called => ?_) rfl (by simp)
    simp only [onSwarmRequest, List.mem_append] at called
    rcases called with called | pong
    · exact quiet_deliverLocal _ _ _ called
    · exact quiet_respond _ _ pong
  | proxyResponseError =>
    refine other_forward (fun called => ?_) rfl (by simp)
    simp only [onSwarmRequest, List.mem_append] at called
    rcases called with called | pong
    · exact quiet_deliverLocal _ _ _ called
    · exact quiet_respond _ _ pong
  | _ => exact other_forward (fun called => quiet_respond _ _ called) rfl (by simp)

/-- A manager calls a backend only for a request of a peer that is served. -/
theorem swarmStep_forward {e : SwarmEvent} {call : BackendCall}
    (called : .forward call ∈ (swarmStep m s e).2) :
    ∃ peer msg answers, e = .request peer msg answers ∧ SwarmServes m s peer answers call msg := by
  cases e with
  | request peer msg answers => exact ⟨peer, msg, answers, rfl, onSwarmRequest_forward.mp called⟩
  | response peer id msg => exact (onSwarmResponse_quiet _ _ _ called).elim
  | proxyCommand cmd ranked sending => exact (onProxyCommand_quiet _ _ _ _ called).elim
  | outboundFailure id retryable error sending =>
    exact (onOutboundFailure_quiet _ _ _ _ _ called).elim
  | connectionEstablished peer cached sendings =>
    exact (onConnectionEstablished_quiet _ _ _ called).elim
  | _ => simp [swarmStep] at called

end MtrxPeer
