import MtrxPeer.ContextEncoding
import MtrxPeer.E2eeRoundTrip

/-! One end-to-end encrypted session, with a network that keeps what it sees and
puts it in again anywhere: whose texts the two ends accept. Both directions are
sealed under one key and one kind of context. -/
namespace MtrxPeer

/-! ## The session -/

/-- The request of a session, and what its two ends derive their keys from. -/
structure E2eeSession where
  consumer : ClientConfig
  provider : ClientConfig
  peerId : String
  reqId : String
  path : String
  roomId : String
  ephemeral : Bytes
  providerPk : Bytes

inductive SessionEnd where
  | consumer
  | provider
  deriving DecidableEq

/-- A whole request or response, or one chunk of it. -/
inductive SessionPart where
  | whole
  | chunk (seq : Nat)
  deriving DecidableEq

/-- The path a part is sealed for. -/
def SessionPart.path (path : String) : SessionPart → String
  | .whole => path
  | .chunk seq => chunkPath path seq

/-- What an end has sealed: its text and the envelope that went out. -/
structure SealedPart where
  maker : SessionEnd
  part : SessionPart
  text : String
  payload : EncryptedPayload

inductive SessionEvent where
  /-- The consumer seals the whole request. -/
  | request (nonce : Bytes) (unixNow : Nat) (body : Json)
  | requestChunk (seq : Nat) (nonce : Bytes) (text : String)
  /-- The provider seals a whole response. -/
  | response (nonce : Bytes) (text : String)
  | responseChunk (seq : Nat) (nonce : Bytes) (text : String)
  /-- The network hands the consumer an envelope as the whole response. -/
  | takeResponse (payload : EncryptedPayload)
  | takeResponseChunk (seq : Nat) (payload : EncryptedPayload)
  /-- The network hands the provider an envelope as a request for a path. -/
  | takeRequest (path : String) (payload : EncryptedPayload)
  | takeRequestChunk (path : String) (seq : Nat) (payload : EncryptedPayload)

/-- What an end accepts. -/
inductive Accepted where
  | response (part : SessionPart) (text : String)
  | request (path : String) (body : Json)
  | requestChunk (path : String) (seq : Nat) (text : String)

/-- The envelope a network hands to an end. -/
def SessionEvent.payload : SessionEvent → Option EncryptedPayload
  | .takeResponse payload | .takeResponseChunk _ payload | .takeRequest _ payload
  | .takeRequestChunk _ _ payload => some payload
  | _ => none

namespace E2eeSession

variable (session : E2eeSession)

/-- What an end seals in a step. -/
def sealed (P : Primitives) : SessionEvent → Option SealedPart
  | .request nonce unixNow body =>
    match encryptProxyRequest P session.consumer ⟨session.ephemeral, nonce, unixNow⟩ session.peerId
      session.reqId session.path body session.roomId session.providerPk with
    | .ok (.encryptedProxyRequest _ _ _ _ nonce ciphertext _ _, _) =>
      some ⟨.consumer, .whole, body.toText, ⟨nonce, ciphertext⟩⟩
    | _ => none
  | .requestChunk seq nonce text =>
    some ⟨.consumer, .chunk seq, text, encryptProxyRequestChunk P session.ephemeral
      session.providerPk session.roomId session.reqId session.path seq nonce (utf8 text)⟩
  | .response nonce text =>
    (encryptOutboundResponse P session.provider session.roomId session.reqId session.path
      (P.publicKey session.ephemeral) nonce (utf8 text)).toOption.map fun payload =>
        ⟨.provider, .whole, text, payload⟩
  | .responseChunk seq nonce text =>
    (encryptProxyChunk P session.provider session.roomId session.reqId session.path seq
      (P.publicKey session.ephemeral) nonce (utf8 text)).toOption.map fun payload =>
        ⟨.provider, .chunk seq, text, payload⟩
  | _ => none

/-- What an end accepts in a step. -/
def accepted (host : Host) : SessionEvent → Option Accepted
  | .takeResponse payload =>
    (decryptProxyResponse host session.consumer session.reqId session.path session.roomId
      session.ephemeral session.providerPk payload none).toOption.map (.response .whole)
  | .takeResponseChunk seq payload =>
    (decryptProxyChunk host session.consumer session.reqId session.path seq session.roomId
      session.ephemeral session.providerPk payload.nonce payload.ciphertext).toOption.map
        (.response (.chunk seq))
  | .takeRequest path payload =>
    (decryptInboundRequest host session.provider session.roomId session.reqId path
      (host.crypto.publicKey session.ephemeral) payload.nonce payload.ciphertext).toOption.map
        (.request path)
  | .takeRequestChunk path seq payload =>
    (decryptInboundRequestChunk host session.provider session.roomId session.reqId path seq
      (host.crypto.publicKey session.ephemeral) payload.nonce payload.ciphertext).toOption.map
        (.requestChunk path seq)
  | _ => none

/-- The session as a machine: its state is all that the network has seen. -/
def machine (host : Host) : Machine (List SealedPart) SessionEvent Accepted where
  step seen e := ((session.sealed host.crypto e).toList ++ seen, (session.accepted host e).toList)

/-- The keys the two ends use in the session. -/
def Key (P : Primitives) (key : Bytes) : Prop :=
  key = deriveSessionKeyConsumer P session.ephemeral session.providerPk session.reqId
      session.roomId ∨
    ∃ secret, providerStaticSecret P session.provider session.roomId = some secret ∧
      key = deriveSessionKey P secret (P.publicKey session.ephemeral) session.reqId session.roomId

/-- The network cannot seal: what it hands over was seen before, or opens under no
key of the session. -/
def Relayed (P : Primitives) (r : Record (List SealedPart) SessionEvent Accepted) : Prop :=
  ∀ payload, r.event.payload = some payload →
    (∃ s ∈ r.before, s.payload.ciphertext = payload.ciphertext) ∨
      ∀ key aad, session.Key P key → P.decrypt key payload.nonce aad payload.ciphertext = none

/-- What is accepted is what one of `makers` has sealed, as the part it is accepted
for. -/
def SealedBy (makers : SessionEnd → SessionEnd → Prop) (seen : List SealedPart) : Accepted → Prop
  | .response part text => ∃ s ∈ seen, makers .consumer s.maker ∧ s.part = part ∧ s.text = text
  | .request path body => ∃ s ∈ seen, makers .provider s.maker ∧
      s.part.path session.path = path ∧ Json.fromText s.text = some body
  | .requestChunk path seq text => ∃ s ∈ seen, makers .provider s.maker ∧
      s.part.path session.path = chunkPath path seq ∧ s.text = text

/-- All that is accepted in a step was sealed by one of `makers` before. -/
def AcceptsSealed (makers : SessionEnd → SessionEnd → Prop)
    (r : Record (List SealedPart) SessionEvent Accepted) : Prop :=
  ∀ output ∈ r.outputs, session.SealedBy makers r.before output

end E2eeSession

/-! ## Contexts -/

private theorem buildAad_path {reqId path path' roomId : String}
    (same : buildAad reqId path roomId = buildAad reqId path' roomId) : path = path' := by
  have texts := congrArg String.toList (utf8_injective same)
  simp only [String.toList_append, List.append_cancel_left_eq, List.append_cancel_right_eq] at texts
  exact String.toList_inj.mp texts

private theorem chunkPath_ne (path : String) (seq : Nat) : chunkPath path seq ≠ path := by
  intro same
  have lengths := congrArg String.length same
  simp only [chunkPath, String.length_append] at lengths
  have marked : 0 < "#chunk/".length := by decide
  omega

/-- The parts of one message are sealed for different paths. -/
theorem SessionPart.path_injective {path : String} {part part' : SessionPart}
    (same : part.path path = part'.path path) : part = part' := by
  cases part with
  | whole =>
    cases part' with
    | whole => rfl
    | chunk seq => exact absurd same.symm (chunkPath_ne path seq)
  | chunk seq =>
    cases part' with
    | whole => exact absurd same (chunkPath_ne path seq)
    | chunk seq' => rw [(chunkPath_inj same).2]

/-! ## What is sealed and what opens -/

variable {session : E2eeSession} {host : Host} {P : Primitives} {seen : List SealedPart}

/-- A part sealed in the session: under one of its keys, for its request and the
part's path. -/
def SealedPart.Honest (P : Primitives) (session : E2eeSession) (s : SealedPart) : Prop :=
  ∃ key, session.Key P key ∧ s.payload.ciphertext = P.encrypt key s.payload.nonce
    (buildAad session.reqId (s.part.path session.path) session.roomId) (utf8 s.text)

theorem sealed_honest {e : SessionEvent} {s : SealedPart} (sealed : session.sealed P e = some s) :
    s.Honest P session := by
  cases e with
  | request nonce unixNow body =>
    simp only [E2eeSession.sealed, encryptProxyRequest] at sealed
    cases known : roomSecretForProxy P session.consumer session.roomId with
    | none =>
      rw [known] at sealed
      cases sealed
    | some secret =>
      rw [known] at sealed
      obtain rfl := Option.some.inj sealed
      exact ⟨_, .inl rfl, rfl⟩
  | requestChunk seq nonce text =>
    obtain rfl := Option.some.inj sealed
    exact ⟨_, .inl rfl, rfl⟩
  | response nonce text =>
    simp only [E2eeSession.sealed, encryptOutboundResponse] at sealed
    cases known : providerStaticSecret P session.provider session.roomId with
    | none =>
      rw [known] at sealed
      cases sealed
    | some secret =>
      rw [known] at sealed
      obtain rfl := Option.some.inj sealed
      exact ⟨_, .inr ⟨secret, known, rfl⟩, rfl⟩
  | responseChunk seq nonce text =>
    simp only [E2eeSession.sealed, encryptProxyChunk] at sealed
    split at sealed
    · cases sealed
    · cases known : providerStaticSecret P session.provider session.roomId with
      | none =>
        rw [known] at sealed
        cases sealed
      | some secret =>
        rw [known] at sealed
        obtain rfl := Option.some.inj sealed
        exact ⟨_, .inr ⟨secret, known, rfl⟩, rfl⟩
  | _ => cases sealed

/-- What opens under a key of the session was sealed there, for the path it is
opened for. -/
theorem opened_sealed (ideal : P.Ideal) (honest : ∀ s ∈ seen, s.Honest P session)
    {payload : EncryptedPayload}
    (relayed : (∃ s ∈ seen, s.payload.ciphertext = payload.ciphertext) ∨
      ∀ key aad, session.Key P key → P.decrypt key payload.nonce aad payload.ciphertext = none)
    {key plain : Bytes} (guarded : session.Key P key) {path : String}
    (opened : decryptPayload P key session.reqId path session.roomId payload = .ok plain) :
    ∃ s ∈ seen, s.part.path session.path = path ∧ utf8 s.text = plain := by
  unfold decryptPayload at opened
  split at opened
  · cases opened
  · split at opened
    · rename_i plaintext ran
      obtain rfl := Except.ok.inj opened
      rcases relayed with ⟨s, member, same⟩ | nothing
      · obtain ⟨key', -, made⟩ := honest s member
        rw [← same, made] at ran
        obtain ⟨-, -, context, text⟩ := ideal.decrypt_encrypt ran
        exact ⟨s, member, (buildAad_path context).symm, text.symm⟩
      · rw [nothing key _ guarded] at ran
        cases ran
    · cases opened

/-- A text decoded from what opened is the text that was sealed. -/
private theorem decoded_sealed {plain : Bytes} {text sealed : String}
    (decoded : decodeText host plain = .ok text) (same : utf8 sealed = plain) : sealed = text := by
  rw [← same, decodeText_utf8] at decoded
  exact Except.ok.inj decoded

/-- The provider's key for an inbound request of the session is one of its keys. -/
private theorem inboundSessionKey_guarded {key : Bytes}
    (derived : inboundSessionKey P session.provider session.roomId session.reqId
      (P.publicKey session.ephemeral) = .ok key) : session.Key P key := by
  unfold inboundSessionKey at derived
  split at derived
  · cases derived
  · cases known : providerStaticSecret P session.provider session.roomId with
    | none =>
      rw [known] at derived
      cases derived
    | some secret =>
      rw [known] at derived
      exact .inr ⟨secret, known, (Except.ok.inj derived).symm⟩

private theorem ok_of_toOption {α : Type} {result : Except String α} {f : α → Accepted}
    {output : Accepted} (came : result.toOption.map f = some output) :
    ∃ a, result = .ok a ∧ output = f a := by
  cases result with
  | error error => cases came
  | ok a => exact ⟨a, rfl, (Option.some.inj came).symm⟩

private theorem bind_ok {α β : Type} {x : Except String α} {f : α → Except String β} {b : β}
    (ran : (x >>= f) = .ok b) : ∃ a, x = .ok a ∧ f a = .ok b := by
  cases x with
  | error error => cases ran
  | ok a => exact ⟨a, rfl, ran⟩

/-- Whatever an end accepts was sealed by an end of the session, as the part it is
accepted for. -/
theorem accepted_sealed (ideal : host.crypto.Ideal)
    (honest : ∀ s ∈ seen, s.Honest host.crypto session) {e : SessionEvent}
    (relayed : session.Relayed host.crypto ((session.machine host).record seen e))
    {output : Accepted} (accepts : session.accepted host e = some output) :
    session.SealedBy (fun _ _ => True) seen output := by
  cases e with
  | takeResponse payload =>
    obtain ⟨text, ran, rfl⟩ := ok_of_toOption accepts
    obtain ⟨_, -, ran⟩ := bind_ok ran
    obtain ⟨plain, opened, decoded⟩ := bind_ok ran
    obtain ⟨s, member, path, same⟩ :=
      opened_sealed ideal honest (relayed payload rfl) (.inl rfl) opened
    exact ⟨s, member, trivial, SessionPart.path_injective path, decoded_sealed decoded same⟩
  | takeResponseChunk seq payload =>
    obtain ⟨text, ran, rfl⟩ := ok_of_toOption accepts
    obtain ⟨_, -, ran⟩ := bind_ok ran
    obtain ⟨plain, opened, decoded⟩ := bind_ok ran
    obtain ⟨s, member, path, same⟩ :=
      opened_sealed ideal honest (relayed payload rfl) (.inl rfl) opened
    exact ⟨s, member, trivial, SessionPart.path_injective path, decoded_sealed decoded same⟩
  | takeRequest path payload =>
    obtain ⟨body, ran, rfl⟩ := ok_of_toOption accepts
    obtain ⟨key, derived, ran⟩ := bind_ok ran
    obtain ⟨plain, opened, decoded⟩ := bind_ok ran
    obtain ⟨s, member, path, same⟩ :=
      opened_sealed ideal honest (relayed payload rfl) (inboundSessionKey_guarded derived) opened
    refine ⟨s, member, trivial, path, ?_⟩
    rw [← same, fromUtf8_utf8, Option.bind_some] at decoded
    cases read : Json.fromText s.text with
    | none =>
      rw [read] at decoded
      cases decoded
    | some body' =>
      rw [read] at decoded
      rw [Except.ok.inj decoded]
  | takeRequestChunk path seq payload =>
    obtain ⟨text, ran, rfl⟩ := ok_of_toOption accepts
    obtain ⟨key, derived, ran⟩ := bind_ok ran
    obtain ⟨plain, opened, decoded⟩ := bind_ok ran
    obtain ⟨s, member, path, same⟩ :=
      opened_sealed ideal honest (relayed payload rfl) (inboundSessionKey_guarded derived) opened
    exact ⟨s, member, trivial, path, decoded_sealed decoded same⟩
  | _ => cases accepts

/-! ## Runs -/

/-- In every run of a session over a network that cannot seal, whatever an end
accepts was sealed before by one of the two ends: the same chunk, or the whole
message, for the path it is accepted for. -/
theorem session_keeps_parts (host : Host) (ideal : host.crypto.Ideal) (session : E2eeSession)
    (events : List SessionEvent)
    (relayed : ∀ r ∈ ((session.machine host).history [] events).1,
      session.Relayed host.crypto r) :
    Machine.Always (fun _ r => session.AcceptsSealed (fun _ _ => True) r)
      ((session.machine host).history [] events).1 := by
  refine ((session.machine host).reaches_history _ events).always
    (fun _ seen => ∀ s ∈ seen, s.Honest host.crypto session) (session.Relayed host.crypto)
    (fun s member => nomatch member) ?_ ?_ relayed
  · intro _ seen e honest _ s member
    rcases List.mem_append.mp member with new | old
    · exact sealed_honest (Option.mem_toList.mp new)
    · exact honest s old
  · intro _ seen e honest relayed output came
    exact accepted_sealed ideal honest relayed (Option.mem_toList.mp came)

/-! ## A reflected request -/

/-- The envelope of a whole request. -/
def E2eeSession.requestPayload (P : Primitives) (session : E2eeSession) (nonce : Bytes)
    (body : Json) : EncryptedPayload :=
  encryptPayload P (deriveSessionKeyConsumer P session.ephemeral session.providerPk session.reqId
    session.roomId) session.reqId session.path session.roomId nonce (utf8 body.toText)

theorem sealed_request {secret : String}
    (known : roomSecretForProxy P session.consumer session.roomId = some secret) (nonce : Bytes)
    (unixNow : Nat) (body : Json) :
    session.sealed P (.request nonce unixNow body) =
      some ⟨.consumer, .whole, body.toText, session.requestPayload P nonce body⟩ := by
  simp only [E2eeSession.sealed, encryptProxyRequest, known]
  rfl

/-- A request is accepted as its own response. -/
theorem accepted_reflected (opens : host.crypto.Opens) {secret : String}
    (known : roomSecretForProxy host.crypto session.consumer session.roomId = some secret)
    {nonce : Bytes} (long : nonce.length = 12) (body : Json) :
    session.accepted host (.takeResponse (session.requestPayload host.crypto nonce body)) =
      some (.response .whole body.toText) := by
  simp only [E2eeSession.accepted, decryptProxyResponse, known, Option.elim_some, bind, Except.bind,
    E2eeSession.requestPayload, encryptPayload, decryptPayload_sealed opens _ _ _ _ long,
    decodeText_utf8]
  rfl

/-- Whatever the session: the network can hand the consumer its request back. -/
theorem reflected_unsealed (opens : host.crypto.Opens) {secret : String}
    (known : roomSecretForProxy host.crypto session.consumer session.roomId = some secret)
    {nonce : Bytes} (long : nonce.length = 12) (unixNow : Nat) (body : Json) :
    ¬ Machine.Always (fun _ r => session.AcceptsSealed (fun taker maker => maker ≠ taker) r)
      ((session.machine host).history [] [.request nonce unixNow body,
        .takeResponse (session.requestPayload host.crypto nonce body)]).1 := by
  rintro ⟨good, -⟩
  obtain ⟨s, member, other, -⟩ :=
    good _ (Option.mem_toList.mpr (accepted_reflected opens known long body))
  rcases List.mem_append.mp member with new | old
  · have only := (Option.mem_toList.mp new).symm.trans (sealed_request known nonce unixNow body)
    rw [Option.some.inj only] at other
    exact other rfl
  · cases old

def sampleSession : E2eeSession where
  consumer := sampleConfig
  provider := sampleConfig
  peerId := "you"
  reqId := "1"
  path := "/api/chat"
  roomId := "c"
  ephemeral := [7]
  providerPk := (providerStaticPublicKey .transparent sampleConfig "c").toOption.getD []

private theorem sampleSession_known :
    roomSecretForProxy .transparent sampleSession.consumer sampleSession.roomId = some "c:pw" := by
  decide

theorem session_keeps_parts_sample :
    Machine.Always (fun _ r => sampleSession.AcceptsSealed (fun _ _ => True) r)
      ((sampleSession.machine (sampleHost true false)).history []
        [.request (List.replicate 12 0) 1000 (sampleBody "llama3"),
          .takeRequest "/api/chat" (sampleSession.requestPayload .transparent (List.replicate 12 0)
            (sampleBody "llama3"))]).1 := by
  refine session_keeps_parts _ Primitives.transparent_ideal _ _ ?_
  intro r member payload hands
  rcases List.mem_cons.mp member with rfl | member
  · obtain rfl := Option.some.inj hands
    have seen := sealed_request sampleSession_known (List.replicate 12 0) 1000 (sampleBody "llama3")
    exact .inl ⟨_, List.mem_append_left _ (Option.mem_toList.mpr seen), rfl⟩
  · rcases List.mem_cons.mp member with rfl | member
    · cases hands
    · cases member

/-- The network hands the consumer its own request as the response, which it accepts. -/
theorem request_reflected :
    ¬ Machine.Always (fun _ r => sampleSession.AcceptsSealed (fun taker maker => maker ≠ taker) r)
      ((sampleSession.machine (sampleHost true false)).history []
        [.request (List.replicate 12 0) 1000 (sampleBody "llama3"),
          .takeResponse (sampleSession.requestPayload .transparent (List.replicate 12 0)
            (sampleBody "llama3"))]).1 :=
  reflected_unsealed Primitives.transparent_ideal.opens sampleSession_known rfl 1000
    (sampleBody "llama3")

end MtrxPeer
