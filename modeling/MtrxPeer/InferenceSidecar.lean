import MtrxPeer.LlmProxy

/-! The inference sidecar: a handler behind a local socket that decrypts a
request, has it served, and encrypts the whole response as one message. -/
namespace MtrxPeer

/-- An `EncryptedProxyResponse` that only carries an error. -/
def encryptedErrorResponse (reqId : String) (aadVersion : Nat) (error : String) : StreamMessage :=
  .encryptedProxyResponse reqId [] [] aadVersion (some error) none

/-- The text of the chunks that are UTF-8, up to the end of a stream or its first
error. -/
def collectText (items : List (Except String Bytes)) : String :=
  String.join ((okItems items).filterMap fromUtf8)

/-- A missing proof passes; a proof must verify, for the peer it names itself,
under the token of some swarm or under the proxy token. -/
def verifyInboundAuth (host : Host) (config : ClientConfig) (now : Nat)
    (auth : Option ProxyAuthProof) : Option String :=
  match auth with
  | none => none
  | some proof =>
    let verifies token := verifyProxyAuth host.crypto now proof token proof.peerId
    if config.swarms.any (fun s => verifies s.p2pToken) || config.proxyToken.any verifies then none
    else some "Proxy auth failed"

/-- `handle_sidecar_message` on an `EncryptedProxyRequest`: the calls it makes
and its answer, which a panic leaves out. -/
def handleSidecarMessage (host : Host) (config : ClientConfig) (registry : Registry)
    (answers : Answers) (reqId path roomId : String) (consumerEphemeralPk nonce ciphertext : Bytes)
    (aadVersion : Nat) (auth : Option ProxyAuthProof) : List BackendCall × Option StreamMessage :=
  match verifyInboundAuth host config answers.unixNow auth with
  | some error => ([], some (encryptedErrorResponse reqId aadVersion error))
  | none =>
    match decryptInboundRequest host config roomId reqId path consumerEphemeralPk nonce ciphertext with
    | .error error => ([], some (encryptedErrorResponse reqId aadVersion error))
    | .ok body =>
      let call : BackendCall := ⟨path, body, requestedModel body⟩
      match callOutcome registry answers call with
      | none => ([call], none)
      | some (.error error) =>
        ([call], some (encryptedErrorResponse reqId aadVersion ("Upstream error: " ++ error)))
      | some (.ok items) =>
        match encryptOutboundResponse host.crypto config roomId reqId path consumerEphemeralPk
          (answers.draws 0).nonce (utf8 (collectText items)) with
        | .ok enc => ([call], some (.encryptedProxyResponse reqId enc.nonce enc.ciphertext
            aadVersion none none))
        | .error error => ([call], some (encryptedErrorResponse reqId aadVersion error))

/-- The longest frame that `read_frame` takes. -/
def maxIpcFrameBytes : Nat := 16 * 1024 * 1024

/-- `read_frame` on a message written with `write_frame`. -/
def readFrame (msg : StreamMessage) : Except String StreamMessage :=
  if maxIpcFrameBytes < msg.text.utf8ByteSize then .error "IPC frame too large" else .ok msg

/-- A message that is read is the one that was written. -/
theorem readFrame_eq_ok {msg read : StreamMessage} :
    readFrame msg = .ok read ↔ msg.text.utf8ByteSize ≤ maxIpcFrameBytes ∧ read = msg := by
  unfold readFrame
  split
  · rename_i large
    exact iff_of_false (by simp) fun fits => Nat.not_le_of_lt large fits.1
  · rename_i fits
    rw [Except.ok.injEq, eq_comm]
    exact (and_iff_right (Nat.not_lt.mp fits)).symm

/-- `InferenceIpcClient::forward_request`: the answer of the sidecar, or why the
vault could not be asked or its answer not be read. -/
def forwardRequest (host : Host) (config : ClientConfig) (registry : Registry) (answers : Answers)
    (reqId path roomId : String) (consumerEphemeralPk nonce ciphertext : Bytes) (aadVersion : Nat)
    (auth : Option ProxyAuthProof) : List BackendCall × Except String StreamMessage :=
  match answers.ipcError with
  | some error => ([], .error error)
  | none =>
    match handleSidecarMessage host config registry answers reqId path roomId consumerEphemeralPk
      nonce ciphertext aadVersion auth with
    | (calls, some response) => (calls, readFrame response)
    | (calls, none) => (calls, .error "early eof")

/-- Every call of the sidecar posts the body it decrypted from the request. -/
theorem handleSidecarMessage_calls {host : Host} {config : ClientConfig} {registry : Registry}
    {answers : Answers} {reqId path roomId : String} {consumerEphemeralPk nonce ciphertext : Bytes}
    {aadVersion : Nat} {auth : Option ProxyAuthProof} {call : BackendCall}
    (called : call ∈ (handleSidecarMessage host config registry answers reqId path roomId
      consumerEphemeralPk nonce ciphertext aadVersion auth).1) :
    verifyInboundAuth host config answers.unixNow auth = none ∧ call.path = path ∧
      call.model = requestedModel call.body ∧
      decryptInboundRequest host config roomId reqId path consumerEphemeralPk nonce ciphertext =
        .ok call.body := by
  unfold handleSidecarMessage at called
  split at called
  · simp at called
  · rename_i verified
    split at called
    · simp at called
    · rename_i body decrypted
      have same : call = ⟨path, body, requestedModel body⟩ := by
        dsimp only at called
        split at called
        · simpa using called
        · simpa using called
        · split at called <;> simpa using called
      subst same
      exact ⟨verified, rfl, rfl, decrypted⟩

theorem forwardRequest_calls {host : Host} {config : ClientConfig} {registry : Registry}
    {answers : Answers} {reqId path roomId : String} {consumerEphemeralPk nonce ciphertext : Bytes}
    {aadVersion : Nat} {auth : Option ProxyAuthProof} {call : BackendCall}
    (called : call ∈ (forwardRequest host config registry answers reqId path roomId
      consumerEphemeralPk nonce ciphertext aadVersion auth).1) :
    verifyInboundAuth host config answers.unixNow auth = none ∧ call.path = path ∧
      call.model = requestedModel call.body ∧
      decryptInboundRequest host config roomId reqId path consumerEphemeralPk nonce ciphertext =
        .ok call.body := by
  unfold forwardRequest at called
  split at called
  · simp at called
  · split at called
    all_goals
      rename_i calls _ ran
      exact handleSidecarMessage_calls (by rw [ran]; exact called)

/-- A sidecar that refuses calls nothing; its client gets the error, or one of its own. -/
theorem forwardRequest_refused {host : Host} {config : ClientConfig} {registry : Registry}
    {answers : Answers} {reqId path roomId : String} {consumerEphemeralPk nonce ciphertext : Bytes}
    {aadVersion : Nat} {auth : Option ProxyAuthProof}
    (refused : ∀ body, verifyInboundAuth host config answers.unixNow auth = none →
      decryptInboundRequest host config roomId reqId path consumerEphemeralPk nonce ciphertext ≠
        .ok body) :
    (∃ error, forwardRequest host config registry answers reqId path roomId consumerEphemeralPk nonce
        ciphertext aadVersion auth = ([], .error error)) ∨
      ∃ error, forwardRequest host config registry answers reqId path roomId consumerEphemeralPk nonce
        ciphertext aadVersion auth = ([], .ok (encryptedErrorResponse reqId aadVersion error)) := by
  have framed (error : String) :
      (∃ e, readFrame (encryptedErrorResponse reqId aadVersion error) = .error e) ∨
        readFrame (encryptedErrorResponse reqId aadVersion error) =
          .ok (encryptedErrorResponse reqId aadVersion error) := by
    unfold readFrame
    split
    · exact .inl ⟨_, rfl⟩
    · exact .inr rfl
  unfold forwardRequest
  cases answers.ipcError with
  | some error => exact .inl ⟨error, rfl⟩
  | none =>
    have handled : ∃ error, handleSidecarMessage host config registry answers reqId path roomId
        consumerEphemeralPk nonce ciphertext aadVersion auth =
          ([], some (encryptedErrorResponse reqId aadVersion error)) := by
      unfold handleSidecarMessage
      cases verified : verifyInboundAuth host config answers.unixNow auth with
      | some error => exact ⟨error, rfl⟩
      | none =>
        cases opened : decryptInboundRequest host config roomId reqId path consumerEphemeralPk nonce
          ciphertext with
        | error error => exact ⟨error, rfl⟩
        | ok body => exact absurd opened (refused body verified)
    obtain ⟨error, handled⟩ := handled
    simp only [handled]
    rcases framed error with ⟨tooLarge, failed⟩ | read
    · exact .inl ⟨tooLarge, by rw [failed]⟩
    · exact .inr ⟨error, by rw [read]⟩

/-- A nonce of the wrong length never decrypts. -/
theorem decryptInboundRequest_badNonce {host : Host} {config : ClientConfig}
    {roomId reqId path : String} {consumerEphemeralPk nonce ciphertext : Bytes} {body : Json}
    (bad : nonce.length ≠ 12) :
    decryptInboundRequest host config roomId reqId path consumerEphemeralPk nonce ciphertext ≠
      .ok body := by
  unfold decryptInboundRequest
  cases inboundSessionKey host.crypto config roomId reqId consumerEphemeralPk with
  | error e => simp [bind, Except.bind]
  | ok key => simp [bind, Except.bind, decryptPayload, bad]

end MtrxPeer
