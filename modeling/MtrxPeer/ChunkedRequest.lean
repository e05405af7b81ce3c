import MtrxPeer.E2eeRoundTrip

/-! A request that is sent in encrypted chunks, over a network that may drop,
repeat and reorder its messages: what the provider takes for its body. -/
namespace MtrxPeer

open Function (update update_self)

/-! ## The messages of one request -/

/-- What a consumer sends a request in chunks from. -/
structure ChunkedSend where
  config : ClientConfig
  answers : Answers
  peerId : String
  reqId : String
  path : String
  body : Json
  roomId : String
  providerPk : Bytes

/-- A message of the request arrives. -/
inductive Arrival (chunks : Nat) where
  | start
  | chunk (index : Fin chunks)
  | finish

namespace ChunkedSend

variable (send : ChunkedSend)

def messages (P : Primitives) : List StreamMessage :=
  chunkedRequest P send.config send.answers send.peerId send.reqId send.path send.body send.roomId
    send.providerPk

/-- The pieces of the body's text. -/
def texts : List String := chunkUtf8 send.body.toText maxE2eePlaintextChunkBytes

/-- The secret that the request's keys are derived from. -/
def ephemeral : Bytes := (send.answers.draws 1).secret

def sealedChunk (P : Primitives) (index : Fin send.texts.length) : EncryptedPayload :=
  encryptProxyRequestChunk P send.ephemeral send.providerPk send.roomId send.reqId send.path
    (index % 2 ^ 32) (send.answers.draws (2 + index)).nonce (utf8 (send.texts.get index))

def auth (P : Primitives) : Option ProxyAuthProof :=
  proxyAuthForRoom P (send.answers.draws 1).unixNow send.config send.peerId send.roomId

def message (P : Primitives) : Arrival send.texts.length → StreamMessage
  | .start => .encryptedProxyRequestStart send.reqId send.path send.roomId
      (P.publicKey send.ephemeral) aadVersion (send.auth P)
  | .chunk index => .encryptedProxyRequestChunk send.reqId (index % 2 ^ 32)
      (send.sealedChunk P index).nonce (send.sealedChunk P index).ciphertext aadVersion
  | .finish => .encryptedProxyRequestEnd send.reqId

/-- The arrivals are those of the messages that were sent. -/
theorem mem_messages (P : Primitives) (msg : StreamMessage) :
    msg ∈ send.messages P ↔ ∃ arrival, send.message P arrival = msg := by
  simp only [messages, chunkedRequest, List.mem_append, List.mem_cons, List.mem_mapIdx,
    List.not_mem_nil, or_false]
  constructor
  · rintro ((rfl | ⟨i, bound, rfl⟩) | rfl)
    · exact ⟨.start, rfl⟩
    · exact ⟨.chunk ⟨i, bound⟩, rfl⟩
    · exact ⟨.finish, rfl⟩
  · rintro ⟨_ | index | _, rfl⟩
    · exact .inl (.inl rfl)
    · exact .inl (.inr ⟨index, index.isLt, rfl⟩)
    · exact .inr rfl

/-- The chunks that are there since the request's start, if it is being received. -/
def received (got : Option (List (Fin send.texts.length))) :
    Arrival send.texts.length → Option (List (Fin send.texts.length))
  | .start => some []
  | .chunk index => got.map (· ++ [index])
  | .finish => none

/-- What chunks spell in the order of their numbers, those of one number as they
arrived. -/
def spelled (chunks : List (Fin send.texts.length)) : String :=
  ((chunks.insertionSort fun a b => a.val % 2 ^ 32 ≤ b.val % 2 ^ 32).map send.texts.get).foldr
    (· ++ ·) ""

/-- Chunks that spell no JSON, or the body. -/
def SpellsBody (chunks : List (Fin send.texts.length)) : Prop :=
  ∀ body, Json.fromText (send.spelled chunks) = some body → body = send.body

/-- The provider derives the key the chunks were sealed with. -/
def Readable (P : Primitives) (provider : ClientConfig) : Prop :=
  inboundSessionKey P provider send.roomId send.reqId (P.publicKey send.ephemeral) =
    .ok (deriveSessionKeyConsumer P send.ephemeral send.providerPk send.reqId send.roomId)

/-- Whenever the request ends, the chunks since its start spell no JSON, or its
body, unless they cannot be read. -/
def Whole (P : Primitives) (provider : ClientConfig) :
    (got : Option (List (Fin send.texts.length))) → List (Arrival send.texts.length) → Prop
  | _, [] => True
  | got, arrival :: rest =>
    (arrival = .finish → ∀ chunks, got = some chunks → send.Readable P provider →
      send.SpellsBody chunks) ∧
    Whole P provider (send.received got arrival) rest

end ChunkedSend

/-! ## What the provider makes of it -/

/-- The body, or the error, that the end of a request comes to on a channel, if
the request is being received there. -/
def handedOver (m : Manager) (s : ClusterState) (id reqId : String) : Option (Except String Json) :=
  (s.channels id).bind fun channel =>
    (channel.pendingEncryptedIncoming reqId).map (assembleBody m.host s.proxy.config reqId)

/-- At the end of a request its body is dispatched, or an error is answered. An
end without a start comes to nothing. -/
def KeepsBody (m : Manager) (id reqId : String) (body : Json) (s : ClusterState)
    (e : ClusterEvent) : Prop :=
  ∀ answers, e = .message id (.encryptedProxyRequestEnd reqId) answers →
    match handedOver m s id reqId with
    | none => (clusterStep m s e).2 = []
    | some (.ok received) => received = body
    | some (.error error) => ∃ version, (clusterStep m s e).2 =
        (sendStreamMessage answers (encryptedErrorResponse reqId version error)).map (.effect id)

/-- What a provider keeps of the request once chunks arrived. -/
def ChunkedSend.incoming (P : Primitives) (send : ChunkedSend)
    (chunks : List (Fin send.texts.length)) : PendingEncryptedIncomingRequest where
  path := send.path
  roomId := send.roomId
  consumerEphemeralPk := P.publicKey send.ephemeral
  aadVersion := aadVersion
  auth := send.auth P
  chunks := chunks.map fun index =>
    (index.val % 2 ^ 32, (send.sealedChunk P index).nonce, (send.sealedChunk P index).ciphertext)

/-- A channel that a peer serves on, with what came of the request. -/
structure Receiving (P : Primitives) (send : ChunkedSend) (id : String) (s : ClusterState)
    (channel : Channel) (got : Option (List (Fin send.texts.length))) : Prop where
  opened : s.channels id = some channel
  serves : channel.isProvider = true
  entry : channel.pendingEncryptedIncoming send.reqId = got.map (send.incoming P)

variable {m : Manager} {send : ChunkedSend} {id : String} {s : ClusterState} {channel : Channel}
  {got : Option (List (Fin send.texts.length))}

/-- On a channel that a peer serves on, the messages of a request go to their
handler. -/
private theorem clusterStep_request {msg : StreamMessage} (opened : s.channels id = some channel)
    (serves : channel.isProvider = true) (kind : msg.isEncryptedRequest = true)
    (answers : Answers) :
    clusterStep m s (.message id msg answers) =
      ((onEncryptedRequest m s id channel msg answers).1,
        (onEncryptedRequest m s id channel msg answers).2.map (.effect id)) := by
  simp [clusterStep, opened, onMessage, kind, serves]

private theorem message_kind (P : Primitives) (arrival : Arrival send.texts.length) :
    (send.message P arrival).isEncryptedRequest = true := by
  cases arrival <;> rfl

private theorem receiving_entered {P : Primitives} {s : ClusterState}
    (serves : channel.isProvider = true)
    (entered : s.channels id = some { channel with
      pendingEncryptedIncoming :=
        update channel.pendingEncryptedIncoming send.reqId (got.map (send.incoming P)) }) :
    ∃ channel', Receiving P send id s channel' got :=
  ⟨_, entered, serves, update_self ..⟩

/-- Each message leaves what came of the request so far. -/
theorem Receiving.step (receiving : Receiving m.host.crypto send id s channel got)
    (arrival : Arrival send.texts.length) (answers : Answers) :
    ∃ channel', Receiving m.host.crypto send id
      (clusterStep m s (.message id (send.message m.host.crypto arrival) answers)).1 channel'
      (send.received got arrival) := by
  obtain ⟨opened, serves, entry⟩ := receiving
  rw [clusterStep_request opened serves (message_kind _ arrival)]
  cases arrival with
  | start => exact receiving_entered serves (update_self ..)
  | chunk index =>
    cases got with
    | none =>
      refine ⟨channel, ?_, serves, entry⟩
      simpa [ChunkedSend.message, onEncryptedRequest, entry] using opened
    | some chunks =>
      refine receiving_entered serves ?_
      simp [ChunkedSend.message, onEncryptedRequest, entry, ClusterState.setChannel,
        ChunkedSend.received, ChunkedSend.incoming]
  | finish =>
    cases got with
    | none =>
      refine ⟨channel, ?_, serves, entry⟩
      simpa [ChunkedSend.message, onEncryptedRequest, entry] using opened
    | some chunks =>
      refine receiving_entered serves ?_
      simp [ChunkedSend.message, onEncryptedRequest, entry, ClusterState.setChannel, dispatchOn,
        ChunkedSend.received]

/-! ## What the end of a request comes to -/

section Assembly

variable {host : Host} {config : ClientConfig}

private theorem sortChunks_incoming (P : Primitives) (chunks : List (Fin send.texts.length)) :
    sortChunks (send.incoming P chunks).chunks =
      (chunks.insertionSort fun a b => a.val % 2 ^ 32 ≤ b.val % 2 ^ 32).map fun index =>
        (index.val % 2 ^ 32, (send.sealedChunk P index).nonce,
          (send.sealedChunk P index).ciphertext) := by
  symm
  apply List.map_insertionSort
  exact fun a _ b _ => .rfl

private theorem open_sealedChunk (opens : host.crypto.Opens)
    (long : ∀ i, (send.answers.draws i).nonce.length = 12)
    (readable : send.Readable host.crypto config) (index : Fin send.texts.length) :
    decryptInboundRequestChunk host config send.roomId send.reqId send.path (index.val % 2 ^ 32)
      (host.crypto.publicKey send.ephemeral) (send.sealedChunk host.crypto index).nonce
      (send.sealedChunk host.crypto index).ciphertext = .ok (send.texts.get index) := by
  rw [decryptInboundRequestChunk, readable]
  simp only [ChunkedSend.sealedChunk, encryptProxyRequestChunk, encryptPayload, bind, Except.bind,
    decryptPayload_sealed opens _ _ _ _ (long _), decodeText_utf8]

/-- A chunk opens only under the key it was sealed with. -/
private theorem readable_of_open (ideal : host.crypto.Ideal) {index : Fin send.texts.length}
    {part : String}
    (opened : decryptInboundRequestChunk host config send.roomId send.reqId send.path
      (index.val % 2 ^ 32) (host.crypto.publicKey send.ephemeral)
      (send.sealedChunk host.crypto index).nonce
      (send.sealedChunk host.crypto index).ciphertext = .ok part) :
    send.Readable host.crypto config := by
  unfold decryptInboundRequestChunk at opened
  cases derived : inboundSessionKey host.crypto config send.roomId send.reqId
    (host.crypto.publicKey send.ephemeral) with
  | error error =>
    rw [derived] at opened
    cases opened
  | ok key =>
    rw [derived] at opened
    simp only [bind, Except.bind, decryptPayload] at opened
    split at opened
    · cases opened
    · rename_i plain decrypted
      split at decrypted
      · cases decrypted
      · split at decrypted
        · rename_i ran
          obtain ⟨same, -⟩ := ideal.decrypt_encrypt ran
          rw [ChunkedSend.Readable, derived, same]
        · cases decrypted

/-- Readable chunks open to what they spell. -/
private theorem decryptChunks_readable (opens : host.crypto.Opens)
    (long : ∀ i, (send.answers.draws i).nonce.length = 12)
    (readable : send.Readable host.crypto config) (all chunks : List (Fin send.texts.length)) :
    decryptChunks host config send.reqId (send.incoming host.crypto all)
        (chunks.map fun index => (index.val % 2 ^ 32, (send.sealedChunk host.crypto index).nonce,
          (send.sealedChunk host.crypto index).ciphertext)) =
      .ok ((chunks.map send.texts.get).foldr (· ++ ·) "") := by
  induction chunks with
  | nil => rfl
  | cons index rest ih =>
    rw [List.map_cons, decryptChunks, ih]
    simp only [ChunkedSend.incoming, open_sealedChunk opens long readable, bind, Except.bind, pure,
      Except.pure, List.map_cons, List.foldr_cons]

/-- Readable chunks come to what they spell. -/
theorem assembleBody_readable (opens : host.crypto.Opens)
    (long : ∀ i, (send.answers.draws i).nonce.length = 12)
    (readable : send.Readable host.crypto config) (chunks : List (Fin send.texts.length))
    (body : Json) :
    assembleBody host config send.reqId (send.incoming host.crypto chunks) = .ok body ↔
      Json.fromText (send.spelled chunks) = some body := by
  have decrypted : decryptChunks host config send.reqId (send.incoming host.crypto chunks)
      (sortChunks (send.incoming host.crypto chunks).chunks) = .ok (send.spelled chunks) := by
    rw [sortChunks_incoming, decryptChunks_readable opens long readable]
    rfl
  rw [assembleBody, decrypted]
  dsimp only
  cases Json.fromText (send.spelled chunks) with
  | none => simp
  | some json => simp

/-- Chunks that cannot be read come to an error, and so does their absence. -/
theorem assembleBody_unreadable (ideal : host.crypto.Ideal)
    (unreadable : ¬ send.Readable host.crypto config) (chunks : List (Fin send.texts.length))
    (body : Json) :
    assembleBody host config send.reqId (send.incoming host.crypto chunks) ≠ .ok body := by
  rw [assembleBody, sortChunks_incoming]
  cases chunks.insertionSort fun a b => a.val % 2 ^ 32 ≤ b.val % 2 ^ 32 with
  | nil =>
    have empty : Json.fromText "" = none := by decide
    simp [decryptChunks, empty]
  | cons index rest =>
    rw [List.map_cons, decryptChunks]
    cases opened : decryptInboundRequestChunk host config (send.incoming host.crypto chunks).roomId
      send.reqId (send.incoming host.crypto chunks).path (index.val % 2 ^ 32)
      (send.incoming host.crypto chunks).consumerEphemeralPk
      (send.sealedChunk host.crypto index).nonce
      (send.sealedChunk host.crypto index).ciphertext with
    | error error => simp [bind, Except.bind]
    | ok part => exact absurd (readable_of_open ideal opened) unreadable

end Assembly

/-! ## Runs -/

/-- The arrivals of a request on a channel, each with what the node draws and is
answered then. -/
def ChunkedSend.events (P : Primitives) (send : ChunkedSend) (id : String)
    (schedule : List (Arrival send.texts.length × Answers)) : List ClusterEvent :=
  schedule.map fun (arrival, answers) => .message id (send.message P arrival) answers

/-- What the end of a request that was started does. -/
private theorem clusterStep_finish (receiving : Receiving m.host.crypto send id s channel got)
    {chunks : List (Fin send.texts.length)} (started : got = some chunks) {error : String}
    (failed : assembleBody m.host s.proxy.config send.reqId (send.incoming m.host.crypto chunks) =
      .error error) (answers : Answers) :
    (clusterStep m s (.message id (.encryptedProxyRequestEnd send.reqId) answers)).2 =
      (sendStreamMessage answers (encryptedErrorResponse send.reqId aadVersion error)).map
        (.effect id) := by
  subst started
  rw [clusterStep_request receiving.opened receiving.serves rfl]
  simp only [onEncryptedRequest, receiving.entry, Option.map_some, dispatchOn]
  change ((dispatchRecovered _ _ _ _ _ _ _
    (assembleBody m.host s.proxy.config send.reqId (send.incoming m.host.crypto chunks))).2).map _ = _
  rw [failed]
  rfl

/-- A message keeps the body unless it ends the request and the chunks that came
spell another one. -/
theorem keepsBody_iff (ideal : m.host.crypto.Ideal)
    (long : ∀ i, (send.answers.draws i).nonce.length = 12)
    (receiving : Receiving m.host.crypto send id s channel got)
    (arrival : Arrival send.texts.length) (answers : Answers) :
    KeepsBody m id send.reqId send.body s
        (.message id (send.message m.host.crypto arrival) answers) ↔
      (arrival = .finish → ∀ chunks, got = some chunks →
        send.Readable m.host.crypto s.proxy.config → send.SpellsBody chunks) := by
  cases arrival with
  | start => simp [KeepsBody, ChunkedSend.message]
  | chunk index => simp [KeepsBody, ChunkedSend.message]
  | finish =>
    have handed : handedOver m s id send.reqId = got.map fun chunks =>
        assembleBody m.host s.proxy.config send.reqId (send.incoming m.host.crypto chunks) := by
      simp [handedOver, receiving.opened, receiving.entry, Function.comp_def]
    simp only [KeepsBody, ChunkedSend.message, ClusterEvent.message.injEq, true_and, forall_eq',
      forall_true_left, handed]
    cases got with
    | none =>
      have nothing : (clusterStep m s
          (.message id (.encryptedProxyRequestEnd send.reqId) answers)).2 = [] := by
        rw [clusterStep_request receiving.opened receiving.serves rfl]
        simp [onEncryptedRequest, receiving.entry]
      simpa using nothing
    | some chunks =>
      simp only [Option.map_some, Option.some.injEq, forall_eq']
      have reads : ∀ (_ : send.Readable m.host.crypto s.proxy.config) (body : Json),
          assembleBody m.host s.proxy.config send.reqId (send.incoming m.host.crypto chunks) =
            .ok body ↔ Json.fromText (send.spelled chunks) = some body :=
        fun readable => assembleBody_readable ideal.opens long readable chunks
      cases came : assembleBody m.host s.proxy.config send.reqId
        (send.incoming m.host.crypto chunks) with
      | ok received =>
        by_cases readable : send.Readable m.host.crypto s.proxy.config
        · have text := (reads readable received).mp came
          simp only [readable, forall_true_left, ChunkedSend.SpellsBody, text, Option.some.injEq,
            forall_eq']
        · exact absurd came (assembleBody_unreadable ideal readable chunks received)
      | error error =>
        refine iff_of_true ⟨_, clusterStep_finish receiving rfl came answers⟩ ?_
        intro readable body text
        rw [(reads readable body).mpr text] at came
        cases came

/-- The messages of the request leave the configuration as it is. -/
private theorem clusterStep_message_proxy (msg : StreamMessage) (answers : Answers) :
    (clusterStep m s (.message id msg answers)).1.proxy = s.proxy := by
  simp only [clusterStep]
  split
  · rfl
  · exact congrArg LobbyState.proxy (onMessage_lobby msg)

theorem along_keepsBody_iff (ideal : m.host.crypto.Ideal)
    (long : ∀ i, (send.answers.draws i).nonce.length = 12)
    (receiving : Receiving m.host.crypto send id s channel got)
    (schedule : List (Arrival send.texts.length × Answers)) :
    (clusterMachine m).Along (KeepsBody m id send.reqId send.body) s
        (send.events m.host.crypto id schedule) ↔
      send.Whole m.host.crypto s.proxy.config got (schedule.map Prod.fst) := by
  induction schedule generalizing s channel got with
  | nil => exact .rfl
  | cons first rest ih =>
    obtain ⟨arrival, answers⟩ := first
    obtain ⟨channel', later⟩ := receiving.step arrival answers
    have others := ih later
    rw [clusterStep_message_proxy] at others
    exact and_congr (keepsBody_iff ideal long receiving arrival answers) others

/-- All chunks, each once and in any order, spell the body. -/
theorem all_chunks_spell_body (valid : send.body.Valid)
    (deep : send.body.depth < Json.recursionLimit) (few : send.texts.length ≤ 2 ^ 32)
    {chunks : List (Fin send.texts.length)} (all : chunks.Perm (List.finRange send.texts.length)) :
    send.SpellsBody chunks := by
  have sorted : chunks.insertionSort (fun a b => a.val % 2 ^ 32 ≤ b.val % 2 ^ 32) =
      List.finRange send.texts.length := by
    have number : ∀ a : Fin send.texts.length, a.val % 2 ^ 32 = a.val :=
      fun a => Nat.mod_eq_of_lt (Nat.lt_of_lt_of_le a.isLt few)
    simp only [number]
    refine List.Perm.eq_of_pairwise ?_ (List.pairwise_insertionSort (fun a b => a ≤ b) chunks)
      (List.pairwise_le_finRange _) ((List.perm_insertionSort _ chunks).trans all)
    intro a b _ _ below above
    exact Fin.le_antisymm below above
  have together : ∀ texts : List (List Char),
      (texts.map String.ofList).foldr (· ++ ·) "" = String.ofList texts.flatten := by
    intro texts
    induction texts with
    | nil => rfl
    | cons text rest ih => rw [List.map_cons, List.foldr_cons, ih, List.flatten_cons,
        String.ofList_append]
  have spelled : send.spelled chunks = send.body.toText := by
    rw [ChunkedSend.spelled, sorted, List.map_get_finRange, ChunkedSend.texts, chunkUtf8, together,
      pieces_flatten, String.ofList_toList]
  intro body text
  rw [spelled, Json.fromText_toText _ valid deep] at text
  exact (Option.some.inj text).symm

/-- When nothing but chunks comes between the start and the end, these decide. -/
theorem whole_between {P : Primitives} {provider : ClientConfig}
    (chunks : List (Fin send.texts.length)) :
    send.Whole P provider got (.start :: (chunks.map .chunk ++ [.finish])) ↔
      (send.Readable P provider → send.SpellsBody chunks) := by
  have later : ∀ before chunks : List (Fin send.texts.length),
      send.Whole P provider (some before) (chunks.map .chunk ++ [.finish]) ↔
        (send.Readable P provider → send.SpellsBody (before ++ chunks)) := by
    intro before chunks
    induction chunks generalizing before with
    | nil => simp [ChunkedSend.Whole]
    | cons index rest ih =>
      have rest := ih (before ++ [index])
      rw [List.append_assoc] at rest
      simpa [ChunkedSend.Whole, ChunkedSend.received] using rest
  simpa [ChunkedSend.Whole, ChunkedSend.received] using later [] chunks

/-- A request with a prompt of `n` letters. -/
def promptBody (n : Nat) : Json :=
  .obj [("model", .str "llama3"), ("prompt", .str (String.ofList (List.replicate n 'a')))]

/-- A request with a long prompt, for the cluster `c`. -/
def sampleSend : ChunkedSend where
  config := sampleConfig
  answers := sampleAnswers
  peerId := "you"
  reqId := "1"
  path := "/api/chat"
  body := promptBody 3042
  roomId := "c"
  providerPk := Primitives.transparent.publicKey (roomStaticSecret .transparent
    (deriveRoomRootKey .transparent "c:pw" "c"))

/-- The text of such a request up to the prompt. -/
def promptHead : List Char :=
  '{' :: (Json.writeString "model" ++ ':' :: (Json.writeString "llama3" ++
    ',' :: (Json.writeString "prompt" ++ [':', '"'])))

private theorem promptBody_write (n : Nat) :
    (promptBody n).write = promptHead ++ (List.replicate n 'a' ++ ['"', '}']) := by
  have plain : (List.replicate n 'a').flatMap Json.escapeChar = List.replicate n 'a' := by
    induction n with
    | zero => rfl
    | succ n ih =>
      rw [List.replicate_succ, List.flatMap_cons, ih]
      rfl
  have prompt : Json.writeString (String.ofList (List.replicate n 'a')) =
      '"' :: (List.replicate n 'a' ++ ['"']) := by
    rw [Json.writeString, String.toList_ofList, plain]
  simp only [promptBody, promptHead, Json.write, Json.writeFields, prompt, List.append_assoc,
    List.cons_append, List.nil_append]

/-- Characters of one byte each that fill the room are what fits. -/
private theorem fitting_narrow (full rest : List Char) (narrow : ∀ c ∈ full, c.utf8Size = 1) :
    fitting full.length (full ++ rest) = full := by
  induction full with
  | nil =>
    cases rest with
    | nil => rfl
    | cons c rest => simp [fitting, Nat.pos_iff_ne_zero.mp c.utf8Size_pos]
  | cons c full ih =>
    have one := narrow c List.mem_cons_self
    have others := ih fun d member => narrow d (List.mem_cons_of_mem _ member)
    simp [fitting, one, others]

private theorem pieces_narrow {size : Nat} {full : List Char} (rest : List Char)
    (long : full.length = size) (positive : 0 < size) (narrow : ∀ c ∈ full, c.utf8Size = 1) :
    pieces size (full ++ rest) = full :: pieces size rest := by
  subst long
  obtain ⟨c, tail, rfl⟩ := List.exists_cons_of_length_pos positive
  have first : piece (c :: tail).length (c :: (tail ++ rest)) = c :: tail := by
    rw [piece, ← List.cons_append, fitting_narrow _ _ narrow]
  rw [List.cons_append, pieces, first]
  simp

private theorem promptHead_length : promptHead.length = 28 := by
  decide

/-- The text of the request is cut into three pieces. -/
private theorem sampleSend_texts :
    sampleSend.texts = [promptHead ++ List.replicate 996 'a', List.replicate 1024 'a',
      List.replicate 1022 'a' ++ ['"', '}']].map String.ofList := by
  have head : ∀ c ∈ promptHead, c.utf8Size = 1 := by
    have all : promptHead.all (fun c => c.utf8Size == 1) = true := by decide
    exact fun c member => eq_of_beq (List.all_eq_true.mp all c member)
  have letters : ∀ n, ∀ c ∈ List.replicate n 'a', c.utf8Size = 1 := by
    intro n c member
    rw [List.eq_of_mem_replicate member]
    rfl
  have text : (promptBody 3042).write = (promptHead ++ List.replicate 996 'a') ++
      (List.replicate 1024 'a' ++ ((List.replicate 1022 'a' ++ ['"', '}']) ++ [])) := by
    rw [promptBody_write, show 3042 = 996 + (1024 + 1022) from rfl, List.replicate_add,
      List.replicate_add]
    simp only [List.append_assoc, List.append_nil]
  have first : (promptHead ++ List.replicate 996 'a').length = 1024 := by
    have lengths := promptHead_length
    simp only [List.length_append, List.length_replicate, lengths]
  have last : (List.replicate 1022 'a' ++ ['"', '}']).length = 1024 := by
    simp only [List.length_append, List.length_replicate, List.length_cons, List.length_nil]
  have ends : ∀ c ∈ ['"', '}'], c.utf8Size = 1 :=
    List.forall_mem_cons.mpr ⟨rfl, List.forall_mem_singleton.mpr rfl⟩
  rw [ChunkedSend.texts, chunkUtf8, Json.toText, String.toList_ofList]
  change (pieces 1024 (promptBody 3042).write).map String.ofList = _
  rw [text, pieces_narrow _ first (by decide) (List.forall_mem_append.mpr ⟨head, letters 996⟩),
    pieces_narrow _ (List.length_replicate ..) (by decide) (letters 1024),
    pieces_narrow _ last (by decide) (List.forall_mem_append.mpr ⟨letters 1022, ends⟩), pieces]

/-- A channel on which the sample peer serves, before the request. -/
def sampleServing : ClusterState :=
  (ClusterState.initial sampleProxy 0).setChannel "d" (.opened "you" true)

private theorem sampleServing_receiving :
    Receiving .transparent sampleSend "d" sampleServing (.opened "you" true) none where
  opened := by simp [sampleServing, ClusterState.setChannel]
  serves := rfl
  entry := rfl

private theorem arrivals_sampled {n : Nat} (arrivals : List (Arrival n)) :
    (arrivals.map fun arrival => (arrival, sampleAnswers)).map Prod.fst = arrivals := by
  rw [List.map_map]
  exact List.map_id' arrivals

private theorem promptBody_injective {n k : Nat} (same : promptBody n = promptBody k) : n = k := by
  simp only [promptBody, Json.obj.injEq, List.cons.injEq, Prod.mk.injEq, Json.str.injEq, true_and,
    and_true, String.ofList_inj] at same
  simpa using congrArg List.length same

private theorem promptBody_valid (n : Nat) : (promptBody n).Valid := by
  refine ⟨?_, trivial, trivial, trivial⟩
  have sorted : ["model", "prompt"].Pairwise (· < ·) := by decide
  exact sorted

end MtrxPeer
