import MtrxPeer.SidecarParity
import Mathlib.Data.List.Flatten
import Mathlib.Data.List.TakeWhile

/-! The text of an upstream's answer on its way through a provider. Each relay decodes
the network's chunks one by one, and two of them cut the text for a limit on messages. -/
namespace MtrxPeer

/-! ## Messages up to the first that cannot be sent -/

section Cutting

variable {α β : Type} {sendable : α → Bool} {text : α → List β}

theorem flatMap_takeWhile_length_le (items : List α) :
    ((items.takeWhile sendable).flatMap text).length ≤ (items.flatMap text).length := by
  conv_rhs => rw [← List.takeWhile_append_dropWhile (l := items) (p := sendable),
    List.flatMap_append, List.length_append]
  exact Nat.le_add_right _ _

/-- Where each message carries something, stopping early loses text. -/
theorem flatMap_takeWhile_eq_iff {items : List α} (some_ : ∀ item ∈ items, text item ≠ []) :
    (items.takeWhile sendable).flatMap text = items.flatMap text ↔
      ∀ item ∈ items, sendable item := by
  induction items with
  | nil => simp
  | cons item rest ih =>
    obtain ⟨here, later⟩ := List.forall_mem_cons.mp some_
    rw [List.forall_mem_cons]
    by_cases goes : sendable item
    · rw [List.takeWhile_cons_of_pos goes, List.flatMap_cons, List.flatMap_cons,
        List.append_cancel_left_eq, ih later]
      exact (and_iff_right goes).symm
    · rw [List.takeWhile_cons_of_neg goes, List.flatMap_nil, List.flatMap_cons]
      refine iff_of_false (fun same => ?_) fun all => goes all.1
      exact here (List.append_eq_nil_iff.mp same.symm).1

private theorem takeWhile_append_stuck {items : List α} (stuck : ¬ ∀ item ∈ items, sendable item)
    (more : List α) : (items ++ more).takeWhile sendable = items.takeWhile sendable := by
  induction items with
  | nil => simp at stuck
  | cons item rest ih =>
    rw [List.cons_append, List.takeWhile_cons, List.takeWhile_cons]
    split
    · rename_i goes
      rw [ih fun all => stuck (List.forall_mem_cons.mpr ⟨goes, all⟩)]
    · rfl

end Cutting

theorem sendDcInOrder_eq (answers : Answers) (msgs : List DataChannelMessage) :
    sendDcInOrder answers msgs =
      (msgs.takeWhile fun msg => canSend answers msg.asStream).map .data := by
  induction msgs with
  | nil => rfl
  | cons msg rest ih =>
    rw [sendDcInOrder, List.takeWhile_cons]
    split
    · rw [List.map_cons, ih]
    · rfl

theorem pieces_nonempty (maxBytes : Nat) (text : List Char) :
    ∀ piece ∈ pieces maxBytes text, piece ≠ [] := by
  fun_induction pieces maxBytes text with
  | case1 => simp
  | case2 c rest ih =>
    rw [List.forall_mem_cons]
    exact ⟨List.ne_nil_of_length_pos (piece_length_pos maxBytes c rest), ih⟩

theorem allPieces_nonempty {maxBytes : Nat} (wide : 4 ≤ maxBytes) (text : List Char) :
    ∀ piece ∈ allPieces maxBytes text, piece ≠ [] := by
  have cut : ∀ piece ∈ (fullPieces maxBytes text).1, piece ≠ [] := by
    induction text using fullPieces_induction wide with
    | short text short =>
      rw [fullPieces_short short]
      simp
    | full text full ih =>
      have nonempty : text ≠ [] := by
        rintro rfl
        rw [byteCount_nil] at full
        omega
      rw [fullPieces_full wide full, List.forall_mem_cons]
      exact ⟨fitting_ne_nil wide nonempty, ih⟩
  intro piece member
  unfold allPieces at member
  split at member
  · exact cut piece (by simpa using member)
  · rename_i left
    rcases List.mem_append.mp member with full | rest
    · exact cut piece full
    · rw [List.mem_singleton.mp rest]
      exact left

/-! ## A stream that cannot be sent to its end -/

section Stuck

variable {host : Host} {config : ClientConfig} {answers : Answers} {request : EncryptedRequest}

/-- The messages that a flush before the end makes. -/
private def flushed (host : Host) (config : ClientConfig) (answers : Answers)
    (request : EncryptedRequest) (start : Nat) (text : List Char) : List StreamMessage :=
  pieceMessages host.crypto config answers request start (fullPieces streamChunkBytes text).1

private theorem flushed_append (text more : List Char) :
    flushed host config answers request 0 (text ++ more) =
      flushed host config answers request 0 text ++
        flushed host config answers request (fullPieces streamChunkBytes text).1.length
          ((fullPieces streamChunkBytes text).2 ++ more) := by
  rw [flushed, fullPieces_append (by decide), pieceMessages_append, Nat.zero_add]
  rfl

/-- A flush stops at the first piece that cannot be sent. -/
private theorem flushEncryptedResponseChunks_stuck
    (able : CanSeal host.crypto config request.roomId request.consumerEphemeralPk) {fuel : Nat}
    (flush : Flush) (enough : flush.pending.length ≤ fuel) (alive : flush.alive = true)
    (stuck : ¬ ∀ msg ∈ flushed host config answers request flush.seq flush.pending,
      canSend answers msg) :
    let result := flushEncryptedResponseChunks host config answers request.roomId request.reqId
      request.path request.consumerEphemeralPk request.aadVersion false fuel flush
    result.alive = false ∧ result.sent = flush.sent ++
      ((flushed host config answers request flush.seq flush.pending).takeWhile
        (canSend answers)).map .stream := by
  have wide : 4 ≤ streamChunkBytes := by decide
  induction fuel generalizing flush with
  | zero =>
    refine absurd ?_ stuck
    rw [flushed, List.length_eq_zero_iff.mp (Nat.le_zero.mp enough)]
    simp [pieceMessages]
  | succ fuel ih =>
    obtain ⟨pending, seq, sent, live⟩ := flush
    obtain rfl : live = true := alive
    unfold flushEncryptedResponseChunks
    by_cases full : streamChunkBytes ≤ byteCount pending
    · have nonempty : pending ≠ [] := by
        rintro rfl
        exact absurd full (by decide)
      have shorter := drop_fitting_length wide nonempty
      have sized : streamChunkBytes ≤ (String.ofList pending).utf8ByteSize := full
      have made : flushed host config answers request seq pending =
          pieceMessage host.crypto config answers request seq (fitting streamChunkBytes pending)
            false :: flushed host config answers request (seq + 1)
              (pending.drop (fitting streamChunkBytes pending).length) := by
        rw [flushed, fullPieces_full wide full, pieceMessages_cons]
        rfl
      dsimp only at stuck enough ⊢
      rw [made] at stuck ⊢
      rw [if_neg nonempty, if_pos (.inl sized)]
      simp only [nextStreamChunk, if_pos sized, encryptProxyChunk_eq able, Bool.false_and]
      by_cases goes : canSend answers (pieceMessage host.crypto config answers request seq
          (fitting streamChunkBytes pending) false)
      · have later := ih ⟨pending.drop (fitting streamChunkBytes pending).length, seq + 1,
            sent ++ [.stream (pieceMessage host.crypto config answers request seq
              (fitting streamChunkBytes pending) false)], true⟩ (by dsimp only; omega) rfl
          fun all => stuck (List.forall_mem_cons.mpr ⟨goes, all⟩)
        rw [List.takeWhile_cons_of_pos goes, List.map_cons]
        simp only [pieceMessage, List.append_assoc, List.singleton_append] at goes later ⊢
        rw [if_pos goes]
        exact later
      · rw [List.takeWhile_cons_of_neg goes, List.map_nil, List.append_nil]
        simp only [pieceMessage] at goes
        rw [if_neg goes]
        exact ⟨rfl, rfl⟩
    · refine absurd ?_ stuck
      rw [flushed, fullPieces_short (Nat.lt_of_not_le full)]
      simp [pieceMessages]

/-- One step of the loop over the network's chunks. -/
private def arrive (host : Host) (config : ClientConfig) (answers : Answers)
    (request : EncryptedRequest) (flush : Flush) (chunk : Bytes) : Flush :=
  if flush.alive then
    flushEncryptedResponseChunks host config answers request.roomId request.reqId request.path
      request.consumerEphemeralPk request.aadVersion false
      (flush.pending ++ ((fromUtf8 chunk).getD "").toList).length
      { flush with pending := flush.pending ++ ((fromUtf8 chunk).getD "").toList }
  else flush

private theorem arrive_dead (chunks : List Bytes) (flush : Flush) (dead : flush.alive = false) :
    chunks.foldl (arrive host config answers request) flush = flush := by
  induction chunks with
  | nil => rfl
  | cons chunk rest ih =>
    have unchanged : arrive host config answers request flush chunk = flush := by
      rw [arrive, dead, if_neg Bool.false_ne_true]
    rw [List.foldl_cons, unchanged, ih]

/-- A stream that gets stuck before the end has sent what goes out before. -/
private theorem arrives_stuck
    (able : CanSeal host.crypto config request.roomId request.consumerEphemeralPk)
    (chunks : List Bytes) (text : List Char)
    (sends : ∀ msg ∈ flushed host config answers request 0 text, canSend answers msg)
    (stuck : ¬ ∀ msg ∈ flushed host config answers request 0 (text ++ readText chunks),
      canSend answers msg) :
    let result := chunks.foldl (arrive host config answers request)
      (Flush.after host config answers request text)
    result.alive = false ∧ result.sent =
      ((flushed host config answers request 0 (text ++ readText chunks)).takeWhile
        (canSend answers)).map .stream := by
  have wide : 4 ≤ streamChunkBytes := by decide
  induction chunks generalizing text with
  | nil =>
    refine absurd ?_ stuck
    rwa [show readText [] = [] from rfl, List.append_nil]
  | cons chunk rest ih =>
    have joined : text ++ readText (chunk :: rest) =
        (text ++ ((fromUtf8 chunk).getD "").toList) ++ readText rest := by
      rw [List.append_assoc]
      rfl
    rw [List.foldl_cons]
    by_cases now : ∀ msg ∈ flushed host config answers request 0
        (text ++ ((fromUtf8 chunk).getD "").toList), canSend answers msg
    · have step := @flushes_after config answers request host able [chunk] text (by
        rw [show readText [chunk] = ((fromUtf8 chunk).getD "").toList from List.flatMap_singleton _ _]
        exact now)
      rw [joined] at stuck ⊢
      have next : arrive host config answers request (Flush.after host config answers request text)
          chunk = Flush.after host config answers request
            (text ++ ((fromUtf8 chunk).getD "").toList) := by
        rw [show readText [chunk] = ((fromUtf8 chunk).getD "").toList from
          List.flatMap_singleton _ _] at step
        exact step
      rw [next]
      exact ih _ now stuck
    · -- This chunk completes a piece that cannot be sent.
      have blocked : ¬ ∀ msg ∈ flushed host config answers request
          (fullPieces streamChunkBytes text).1.length ((fullPieces streamChunkBytes text).2 ++
            ((fromUtf8 chunk).getD "").toList), canSend answers msg := by
        intro all
        refine now ?_
        rw [flushed_append]
        exact List.forall_mem_append.mpr ⟨sends, all⟩
      have alive : (Flush.after host config answers request text).alive = true := rfl
      have step : arrive host config answers request (Flush.after host config answers request text)
          chunk = flushEncryptedResponseChunks host config answers request.roomId request.reqId
            request.path request.consumerEphemeralPk request.aadVersion false
            ((fullPieces streamChunkBytes text).2 ++ ((fromUtf8 chunk).getD "").toList).length
            { Flush.after host config answers request text with
              pending := (fullPieces streamChunkBytes text).2 ++
                ((fromUtf8 chunk).getD "").toList } := by
        rw [arrive, if_pos alive]
        rfl
      have stops := @flushEncryptedResponseChunks_stuck host config answers request able _
        { Flush.after host config answers request text with
          pending := (fullPieces streamChunkBytes text).2 ++ ((fromUtf8 chunk).getD "").toList }
        (Nat.le_refl _) rfl blocked
      rw [← step] at stops
      have whole : flushed host config answers request 0 (text ++ readText (chunk :: rest)) =
          flushed host config answers request 0 text ++
            (flushed host config answers request (fullPieces streamChunkBytes text).1.length
              ((fullPieces streamChunkBytes text).2 ++ ((fromUtf8 chunk).getD "").toList) ++
            flushed host config answers request
              (fullPieces streamChunkBytes (text ++ ((fromUtf8 chunk).getD "").toList)).1.length
              ((fullPieces streamChunkBytes (text ++ ((fromUtf8 chunk).getD "").toList)).2 ++
                readText rest)) := by
        rw [joined, flushed_append, flushed_append, List.append_assoc]
      rw [arrive_dead rest _ stops.1, whole, List.takeWhile_append_of_pos sends,
        takeWhile_append_stuck blocked, List.map_append]
      exact stops

/-- The flush at the end adds nothing if what is left cannot be sent. -/
private theorem flushEncryptedResponseChunks_unsent
    (able : CanSeal host.crypto config request.roomId request.consumerEphemeralPk) (flush : Flush)
    (short : byteCount flush.pending < streamChunkBytes) (left : flush.pending ≠ [])
    (unsent : ¬ canSend answers
      (pieceMessage host.crypto config answers request flush.seq flush.pending true)) :
    (flushEncryptedResponseChunks host config answers request.roomId request.reqId request.path
        request.consumerEphemeralPk request.aadVersion true flush.pending.length flush).sent =
      flush.sent := by
  obtain ⟨pending, seq, sent, live⟩ := flush
  cases pending with
  | nil => exact absurd rfl left
  | cons c rest =>
    have unsized : ¬ streamChunkBytes ≤ (String.ofList (c :: rest)).utf8ByteSize := Nat.not_le.mpr short
    simp only [pieceMessage] at unsent
    rw [List.length_cons, flushEncryptedResponseChunks, if_neg left, if_pos (.inr rfl)]
    simp only [nextStreamChunk, if_neg unsized, encryptProxyChunk_eq able, List.drop_length,
      Bool.true_and, decide_true, if_neg unsent]

/-- What a cluster provider streams: the planned messages up to the first that cannot be
sent. -/
theorem streamEncryptedAnswer_sent
    (able : CanSeal host.crypto config request.roomId request.consumerEphemeralPk)
    (items : List (Except String Bytes)) :
    streamEncryptedAnswer host config answers request.roomId request.reqId request.path
        request.consumerEphemeralPk request.aadVersion items =
      ((plannedChunks host.crypto config answers request streamChunkBytes
        (readText (okItems items))).takeWhile (canSend answers)).map .stream := by
  have wide : 4 ≤ streamChunkBytes := by decide
  by_cases sends : ∀ msg ∈ plannedChunks host.crypto config answers request streamChunkBytes
      (readText (okItems items)), canSend answers msg
  · rw [streamEncryptedAnswer_eq able items sends, List.takeWhile_eq_self_iff.mpr sends]
  · have start : (⟨[], 0, [], true⟩ : Flush) = .after host config answers request [] := rfl
    have loop : streamEncryptedAnswer host config answers request.roomId request.reqId request.path
        request.consumerEphemeralPk request.aadVersion items =
          let arrived := (okItems items).foldl (arrive host config answers request)
            (.after host config answers request [])
          if arrived.alive then
            (flushEncryptedResponseChunks host config answers request.roomId request.reqId
              request.path request.consumerEphemeralPk request.aadVersion true
              arrived.pending.length arrived).sent
          else arrived.sent := rfl
    rw [plannedChunks_eq] at sends ⊢
    rw [loop]
    by_cases full : ∀ msg ∈ flushed host config answers request 0 (readText (okItems items)),
        canSend answers msg
    · have arrived := @flushes_after config answers request host able (okItems items) [] full
      rw [List.nil_append] at arrived
      have left : (fullPieces streamChunkBytes (readText (okItems items))).2 ≠ [] := by
        intro empty
        rw [if_pos empty, List.append_nil] at sends
        exact sends full
      have unsent : ¬ canSend answers (pieceMessage host.crypto config answers request
          (fullPieces streamChunkBytes (readText (okItems items))).1.length
          (fullPieces streamChunkBytes (readText (okItems items))).2 true) := by
        intro goes
        refine sends (List.forall_mem_append.mpr ⟨full, ?_⟩)
        rw [if_neg left]
        simpa using goes
      have last := flushEncryptedResponseChunks_unsent able
        (.after host config answers request (readText (okItems items))) (fullPieces_rest wide _)
        left unsent
      have goes : ∀ msg ∈ pieceMessages host.crypto config answers request 0
        (fullPieces streamChunkBytes (readText (okItems items))).1, canSend answers msg := full
      rw [if_neg left, List.takeWhile_append_of_pos goes, List.takeWhile_cons_of_neg unsent,
        List.append_nil]
      exact (congrArg (fun flush : Flush => if flush.alive then
        (flushEncryptedResponseChunks host config answers request.roomId request.reqId request.path
          request.consumerEphemeralPk request.aadVersion true flush.pending.length flush).sent
        else flush.sent) arrived).trans last
    · have stops := @arrives_stuck host config answers request able (okItems items) []
        (by simp [flushed, pieceMessages]) (by rwa [List.nil_append])
      rw [List.nil_append] at stops
      dsimp only
      rw [stops.1, if_neg Bool.false_ne_true, stops.2]
      exact congrArg (List.map ChannelEffect.stream) (takeWhile_append_stuck full _).symm

end Stuck

/-! ## The relays -/

/-- The ways of an answer through a provider. -/
inductive Way where
  | clusterPlaintext | clusterEncrypted | swarmPlaintext | swarmEncrypted | sidecar
  deriving DecidableEq

/-- A request that a provider serves in one of the ways, and the consumer that reads the
answer. The body is what the provider recovered; only the sidecar is handed the request
as it came. -/
structure Relaying where
  way : Way
  settings : Host
  proxy : ProxyState
  answers : Answers
  peer : PeerId
  reqId : String
  path : String
  roomId : String
  body : Json
  nonce : Bytes
  ciphertext : Bytes
  version : Nat
  auth : Option ProxyAuthProof
  consumer : Host
  config : ClientConfig
  ephemeral : Bytes
  pk : Bytes
  keys : SharedKeys consumer config proxy.config roomId pk
  long : ∀ i, (answers.draws i).nonce.length = 12

namespace Relaying

/-- The provider computes with the primitives of the consumer. -/
def host (x : Relaying) : Host := { x.settings with crypto := x.consumer.crypto }

def request (x : Relaying) : EncryptedRequest :=
  ⟨x.reqId, x.path, x.roomId, x.consumer.crypto.publicKey x.ephemeral, x.version, x.auth⟩

def ack (x : Relaying) : StreamMessage :=
  .encryptedProxyResponse x.reqId [] [] x.version none (some true)

/-- What is posted to the backend. -/
def call (x : Relaying) : BackendCall :=
  let normalized := normalizeRemoteBody x.host x.proxy.config x.body
  match x.way with
  | .clusterPlaintext | .clusterEncrypted | .swarmPlaintext =>
    ⟨x.path, normalized, requestedModel x.body⟩
  | .swarmEncrypted => ⟨x.path, normalized, requestedModel normalized⟩
  | .sidecar => ⟨x.path, x.body, requestedModel x.body⟩

/-- The call is made: an acknowledgement in front of it goes out, and the sidecar is
reached and recovers the body. -/
def Called (x : Relaying) : Prop :=
  match x.way with
  | .clusterEncrypted => canSend x.answers x.ack
  | .sidecar => x.answers.ipcError = none ∧
      decryptInboundRequest x.host x.proxy.config x.roomId x.reqId x.path
        x.request.consumerEphemeralPk x.nonce x.ciphertext = .ok x.body
  | _ => True

/-- The backend's answer arrives in the given chunks. -/
structure Answered (x : Relaying) (chunks : List Bytes) : Prop where
  called : x.Called
  outcome : callOutcome x.proxy.registry x.answers x.call = some (.ok (chunks.map .ok))

/-- The messages to the consumer. -/
def sent (x : Relaying) : List StreamMessage :=
  match x.way with
  | .clusterPlaintext =>
    (servePlaintext x.host x.proxy x.answers x.reqId x.path x.body).filterMap ChannelEffect.sent
  | .clusterEncrypted =>
    (serveEncrypted x.host x.proxy x.answers x.request x.body).filterMap ChannelEffect.sent
  | .swarmPlaintext =>
    (serveSwarm x.host x.proxy x.answers x.peer x.reqId x.path x.body).filterMap SwarmOutput.response
  | .swarmEncrypted =>
    let (outputs, chunks) := serveSwarmEncrypted x.host x.proxy x.answers x.peer x.request x.body
    outputs.filterMap SwarmOutput.response ++ chunks
  | .sidecar =>
    (relayToSidecar x.host x.proxy x.answers x.peer x.request x.nonce x.ciphertext).filterMap
      SwarmOutput.response

/-- What the consumer makes of a message: a text, an error, or nothing. -/
def reads (x : Relaying) : StreamMessage → Option (Except String String)
  | .proxyResponseChunk _ chunk => some (.ok chunk)
  | .proxyResponseError _ error => some (.error error)
  | .proxyResponse _ text none => some (.ok text)
  | .proxyResponse _ _ (some error) => some (.error error)
  | .encryptedProxyResponse _ nonce ciphertext _ error stream =>
    if stream = some true ∧ error = none then none
    else some (decryptProxyResponse x.consumer x.config x.reqId x.path x.roomId x.ephemeral x.pk
      ⟨nonce, ciphertext⟩ error)
  | .encryptedProxyStreamChunk _ seq nonce ciphertext _ _ =>
    some (decryptProxyChunk x.consumer x.config x.reqId x.path seq x.roomId x.ephemeral x.pk nonce
      ciphertext)
  | _ => none

/-- The text that a message adds. -/
def adds (x : Relaying) (msg : StreamMessage) : List Char :=
  match x.reads msg with
  | some (.ok text) => text.toList
  | _ => []

/-- The consumer is told of an error. -/
def ToldError (x : Relaying) : Prop := ∃ msg ∈ x.sent, ∃ error, x.reads msg = some (.error error)

/-- The consumer gets the whole text, or is told of an error. -/
def Relayed (x : Relaying) (text : String) : Prop :=
  String.ofList (x.sent.flatMap x.adds) = text ∨ x.ToldError

/-- The sidecar's response with the text of the chunks. -/
def wholeResponse (x : Relaying) (chunks : List Bytes) : StreamMessage :=
  match encryptOutboundResponse x.host.crypto x.proxy.config x.roomId x.reqId x.path
    x.request.consumerEphemeralPk (x.answers.draws 0).nonce
    (utf8 (String.ofList (readText chunks))) with
  | .ok enc => .encryptedProxyResponse x.reqId enc.nonce enc.ciphertext x.version none none
  | .error error => encryptedErrorResponse x.reqId x.version error

/-- When the text gets through: no chunk ends inside a character, and each message that
it is cut into can be sent. A sidecar's response that is too long for a frame is
reported. -/
def Keeps (x : Relaying) (chunks : List Bytes) : Prop :=
  match x.way with
  | .clusterPlaintext => AllText chunks ∧ ∀ text ∈ chunks.filterMap fromUtf8,
      ∀ piece ∈ chunkUtf8 text maxDcChunkBytes, canSend x.answers (.proxyResponseChunk x.reqId piece)
  | .clusterEncrypted => AllText chunks ∧
      ∀ msg ∈ plannedChunks x.host.crypto x.proxy.config x.answers x.request streamChunkBytes
        (readText chunks), canSend x.answers msg
  | .swarmPlaintext => if x.answers.channelOpen then AllText chunks else chunks.flatten = []
  | .swarmEncrypted => AllText chunks
  | .sidecar =>
    if x.answers.channelOpen then
      AllText chunks ∨ maxIpcFrameBytes < (x.wholeResponse chunks).text.utf8ByteSize
    else chunks.flatten = []

variable {x : Relaying} {chunks : List Bytes} {text : String}

/-- Where no error is told, the text must get through. -/
theorem relayed_iff (silent : ∀ msg ∈ x.sent, ∀ error, x.reads msg ≠ some (.error error)) :
    x.Relayed text ↔ x.sent.flatMap x.adds = text.toList := by
  have untold : ¬ x.ToldError := by
    rintro ⟨msg, member, error, told⟩
    exact silent msg member error told
  rw [Relayed, or_iff_left untold, ← String.toList_inj, String.toList_ofList]

/-- The text that is read of the chunks is the whole text only if each chunk is text. -/
theorem readText_eq_iff (whole : utf8 text = chunks.flatten) :
    readText chunks = text.toList ↔ AllText chunks := by
  constructor
  · intro same
    apply (readText_length chunks).2
    rw [same, String.ofList_toList, whole]
  · intro all
    have bytes := utf8_readText all
    rw [← whole] at bytes
    rw [← utf8_injective bytes, String.toList_ofList]

private theorem byteCount_sublist {part text : List Char} (sublist : part.Sublist text) :
    byteCount part ≤ byteCount text := by
  induction sublist with
  | slnil => exact Nat.le_refl _
  | cons c _ ih =>
    rw [byteCount_cons]
    omega
  | cons_cons c _ ih =>
    rw [byteCount_cons, byteCount_cons]
    omega

/-- A part of the text that is read is the whole text only if nothing is missing. -/
theorem part_eq_iff (whole : utf8 text = chunks.flatten) {part : List Char}
    (sublist : part.Sublist (readText chunks)) :
    part = text.toList ↔ AllText chunks ∧ part = readText chunks := by
  constructor
  · rintro rfl
    have fewer := byteCount_sublist sublist
    obtain ⟨most, all⟩ := readText_length chunks
    rw [byteCount, byteCount, String.ofList_toList, ← utf8_length, ← utf8_length, whole] at fewer
    have text_ := all (Nat.le_antisymm most fewer)
    exact ⟨text_, ((readText_eq_iff whole).mpr text_).symm⟩
  · rintro ⟨all, rfl⟩
    exact (readText_eq_iff whole).mpr all

@[simp] theorem okItems_ok (chunks : List Bytes) : okItems (chunks.map .ok) = chunks := by
  induction chunks with
  | nil => rfl
  | cons chunk rest ih => rw [List.map_cons, okItems, ih]

theorem chunkUtf8_flatMap (text : String) (maxBytes : Nat) :
    (chunkUtf8 text maxBytes).flatMap String.toList = text.toList := by
  rw [chunkUtf8, List.flatMap_map]
  simp only [String.toList_ofList, List.flatMap_id']
  exact pieces_flatten maxBytes text.toList

theorem readText_eq (chunks : List Bytes) :
    readText chunks = (chunks.filterMap fromUtf8).flatMap String.toList := by
  induction chunks with
  | nil => rfl
  | cons chunk rest ih =>
    rw [readText, List.flatMap_cons, ← readText, ih, List.filterMap_cons]
    cases fromUtf8 chunk with
    | none => rfl
    | some text => rfl

/-- The pieces of one chunk's text up to the first that cannot be sent. -/
def sentPieces (x : Relaying) (text : String) : List String :=
  (chunkUtf8 text maxDcChunkBytes).takeWhile fun piece =>
    canSend x.answers (.proxyResponseChunk x.reqId piece)

theorem clusterPlaintext_sent (way : x.way = .clusterPlaintext) (answered : x.Answered chunks) :
    ∃ ending : List StreamMessage, (∀ msg ∈ ending, x.reads msg = none) ∧
      x.sent = ((chunks.filterMap fromUtf8).flatMap fun text =>
        (x.sentPieces text).map (.proxyResponseChunk x.reqId)) ++ ending := by
  have outcome := answered.outcome
  refine ⟨(sendDcMessage x.answers (.proxyResponseDone x.reqId)).filterMap ChannelEffect.sent, ?_, ?_⟩
  · intro msg member
    unfold sendDcMessage at member
    split at member
    · obtain rfl : msg = (DataChannelMessage.proxyResponseDone x.reqId).asStream := by
        simpa [ChannelEffect.sent] using member
      rfl
    · cases member
  · simp only [call, way] at outcome
    simp only [sent, way, servePlaintext, outcome, okItems_ok]
    rw [List.filterMap_cons_none rfl, List.filterMap_append, List.filterMap_flatMap]
    congr 1
    refine List.flatMap_congr fun text _ => ?_
    rw [sendProxyResponseChunk, sendDcInOrder_eq, List.takeWhile_map, List.map_map,
      List.filterMap_map]
    exact congrFun List.filterMap_eq_map _

/-- The consumer reads the text of each piece. -/
theorem reads_pieceMessage (x : Relaying) (i : Nat) (piece : List Char) (done : Bool) :
    x.reads (pieceMessage x.host.crypto x.proxy.config x.answers x.request i piece done) =
      some (.ok (String.ofList piece)) := by
  obtain ⟨secret, mine, theirs⟩ := x.keys.secret
  obtain ⟨payload, made, opened⟩ := response_chunk_round_trip x.keys.agreement x.keys.opens mine
    theirs x.keys.source x.ephemeral (x.long i) x.reqId x.path (i % 2 ^ 32) (String.ofList piece)
  have able : CanSeal x.consumer.crypto x.proxy.config x.roomId
      (x.consumer.crypto.publicKey x.ephemeral) := x.keys.canSeal x.ephemeral
  obtain rfl := Except.ok.inj ((encryptProxyChunk_eq able).symm.trans made)
  exact congrArg some opened

private theorem flatMap_mapIdx {α β γ : Type} {f : Nat → α → β} {g : β → List γ} {h : α → List γ}
    (same : ∀ i a, g (f i a) = h a) (items : List α) : (items.mapIdx f).flatMap g = items.flatMap h := by
  induction items generalizing f with
  | nil => rfl
  | cons a rest ih =>
    rw [List.mapIdx_cons, List.flatMap_cons, List.flatMap_cons, same,
      ih fun i a => same (i + 1) a]

/-- What is planned for a text brings that text, each message a part of it. -/
theorem plannedChunks_adds (x : Relaying) {maxBytes : Nat} (wide : 4 ≤ maxBytes) (text : List Char) :
    let planned := plannedChunks x.host.crypto x.proxy.config x.answers x.request maxBytes text
    planned.flatMap x.adds = text ∧ (∀ msg ∈ planned, x.adds msg ≠ []) ∧
      ∀ msg ∈ planned, ∀ error, x.reads msg ≠ some (.error error) := by
  have adds (i : Nat) (piece : List Char) (done : Bool) : x.adds (pieceMessage x.host.crypto
      x.proxy.config x.answers x.request i piece done) = piece := by
    rw [Relaying.adds, reads_pieceMessage]
    exact String.toList_ofList
  refine ⟨?_, ?_, ?_⟩
  · rw [plannedChunks, flatMap_mapIdx (h := id) fun i piece => adds i piece _]
    rw [List.flatMap_id]
    exact allPieces_flatten wide text
  · intro msg member
    obtain ⟨i, bound, rfl⟩ := List.mem_mapIdx.mp member
    rw [adds]
    exact allPieces_nonempty wide text _ (List.getElem_mem bound)
  · intro msg member error told
    obtain ⟨i, bound, rfl⟩ := List.mem_mapIdx.mp member
    rw [reads_pieceMessage] at told
    cases told

theorem clusterEncrypted_sent (way : x.way = .clusterEncrypted) (answered : x.Answered chunks) :
    x.sent = x.ack :: (plannedChunks x.host.crypto x.proxy.config x.answers x.request
      streamChunkBytes (readText chunks)).takeWhile (canSend x.answers) := by
  have acked := answered.called
  have outcome := answered.outcome
  have able : CanSeal x.host.crypto x.proxy.config x.request.roomId x.request.consumerEphemeralPk :=
    x.keys.canSeal x.ephemeral
  simp only [Called, way] at acked
  simp only [call, way] at outcome
  have streamed := @streamEncryptedAnswer_sent x.host x.proxy.config x.answers x.request able
    (chunks.map .ok)
  rw [okItems_ok] at streamed
  simp only [sent, way]
  rw [@serveEncrypted_eq x.answers x.request x.host x.proxy x.body _ acked outcome]
  dsimp only
  have kept (msgs : List StreamMessage) :
      (msgs.map ChannelEffect.stream).filterMap ChannelEffect.sent = msgs := by
    rw [List.filterMap_map]
    exact List.filterMap_some
  rw [streamed]
  exact congrArg (x.ack :: ·) (kept _)

theorem swarmPlaintext_sent (way : x.way = .swarmPlaintext) (answered : x.Answered chunks) :
    x.sent = if x.answers.channelOpen then
      [.proxyResponse x.reqId (String.ofList (readText chunks)) none] else [] := by
  have outcome := answered.outcome
  simp only [call, way] at outcome
  simp only [sent, way, serveSwarm, outcome, respond, collectText_eq, okItems_ok]
  rw [List.filterMap_cons_none rfl]
  split <;> rfl

theorem swarmEncrypted_sent (way : x.way = .swarmEncrypted) (answered : x.Answered chunks) :
    ∃ start : List StreamMessage, (∀ msg ∈ start, x.reads msg = none) ∧
      x.sent = start ++ plannedChunks x.host.crypto x.proxy.config x.answers x.request
        reverseChunkBytes (readText chunks) := by
  have outcome := answered.outcome
  have able : CanSeal x.host.crypto x.proxy.config x.request.roomId x.request.consumerEphemeralPk :=
    x.keys.canSeal x.ephemeral
  simp only [call, way] at outcome
  have made := @reverseChunks_eq x.proxy.config x.answers x.request x.host able (chunks.map .ok)
  rw [okItems_ok] at made
  refine ⟨(respond x.answers x.peer x.ack).filterMap SwarmOutput.response, ?_, ?_⟩
  · intro msg member
    unfold respond at member
    split at member
    · obtain rfl : msg = x.ack := by simpa [SwarmOutput.response] using member
      rfl
    · cases member
  · have chunks_ := @serveSwarmEncrypted_chunks x.answers x.request x.host x.proxy x.peer x.body _
      outcome
    dsimp only at chunks_
    simp only [sent, way]
    rw [chunks_, made]
    congr 1
    simp only [serveSwarmEncrypted, List.filterMap_append]
    exact List.append_nil _

/-- The sidecar's response, if it is short enough for a frame. -/
theorem sidecar_sent (way : x.way = .sidecar) (answered : x.Answered chunks) :
    x.sent = if x.answers.channelOpen then
      match readFrame (x.wholeResponse chunks) with
      | .ok response => [response]
      | .error error => [encryptedErrorResponse x.reqId x.version ("Sidecar IPC error: " ++ error)]
      else [] := by
  obtain ⟨called, outcome⟩ := answered
  simp only [Called, way] at called
  simp only [call, way] at outcome
  have handled : handleSidecarMessage x.host x.proxy.config x.proxy.registry x.answers x.reqId x.path
      x.roomId x.request.consumerEphemeralPk x.nonce x.ciphertext x.version none =
        ([⟨x.path, x.body, requestedModel x.body⟩], some (x.wholeResponse chunks)) := by
    simp only [handleSidecarMessage, verifyInboundAuth, called.2, outcome, collectText_eq, okItems_ok,
      wholeResponse]
    cases encryptOutboundResponse x.host.crypto x.proxy.config x.roomId x.reqId x.path
      x.request.consumerEphemeralPk (x.answers.draws 0).nonce
      (utf8 (String.ofList (readText chunks))) <;> rfl
  have asked : forwardRequest x.host x.proxy.config x.proxy.registry x.answers x.request.reqId
      x.request.path x.request.roomId x.request.consumerEphemeralPk x.nonce x.ciphertext
      x.request.aadVersion none =
        ([⟨x.path, x.body, requestedModel x.body⟩], readFrame (x.wholeResponse chunks)) := by
    rw [forwardRequest, called.1]
    dsimp only
    rw [show handleSidecarMessage _ _ _ _ x.request.reqId x.request.path x.request.roomId _ _ _
      x.request.aadVersion _ = _ from handled]
  simp only [sent, way, relayToSidecar, asked]
  cases readFrame (x.wholeResponse chunks) <;> simp only [respond] <;> split <;> rfl

/-! ## What gets through -/

/-- The consumer opens the sidecar's response to the text. -/
theorem reads_wholeResponse (x : Relaying) (chunks : List Bytes) :
    x.reads (x.wholeResponse chunks) = some (.ok (String.ofList (readText chunks))) := by
  obtain ⟨secret, mine, theirs⟩ := x.keys.secret
  obtain ⟨enc, made, opened⟩ := response_round_trip x.keys.agreement x.keys.opens mine theirs
    x.keys.source x.ephemeral (x.long 0) x.reqId x.path (String.ofList (readText chunks))
  have sealed_ : encryptOutboundResponse x.host.crypto x.proxy.config x.roomId x.reqId x.path
      x.request.consumerEphemeralPk (x.answers.draws 0).nonce
      (utf8 (String.ofList (readText chunks))) = .ok enc := made
  rw [wholeResponse, sealed_]
  exact congrArg some opened

/-- Messages that bring the text in parts bring it whole if all chunks are text and all
messages go out. -/
private theorem takeWhile_adds_iff (whole : utf8 text = chunks.flatten) {msgs : List StreamMessage}
    {sendable : StreamMessage → Bool} (all : msgs.flatMap x.adds = readText chunks)
    (some_ : ∀ msg ∈ msgs, x.adds msg ≠ []) :
    (msgs.takeWhile sendable).flatMap x.adds = text.toList ↔
      AllText chunks ∧ ∀ msg ∈ msgs, sendable msg := by
  have sublist : ((msgs.takeWhile sendable).flatMap x.adds).Sublist (readText chunks) := by
    rw [← all]
    exact List.Sublist.flatMap (List.takeWhile_sublist _) _
  rw [part_eq_iff whole sublist, ← all, flatMap_takeWhile_eq_iff some_]

private theorem flatMap_eq_nil_of {msgs : List StreamMessage} (none_ : ∀ msg ∈ msgs, x.reads msg = none) :
    msgs.flatMap x.adds = [] := by
  refine List.flatMap_eq_nil_iff.mpr fun msg member => ?_
  rw [adds, none_ msg member]

theorem clusterPlaintext_relayed_iff (way : x.way = .clusterPlaintext) (answered : x.Answered chunks)
    (whole : utf8 text = chunks.flatten) : x.Relayed text ↔ x.Keeps chunks := by
  obtain ⟨ending, silent, sent⟩ := clusterPlaintext_sent way answered
  have untold : ∀ msg ∈ x.sent, ∀ error, x.reads msg ≠ some (.error error) := by
    intro msg member error told
    rw [sent] at member
    rcases List.mem_append.mp member with piece | last
    · obtain ⟨read, -, piece⟩ := List.mem_flatMap.mp piece
      obtain ⟨part, -, rfl⟩ := List.mem_map.mp piece
      cases told
    · rw [silent msg last] at told
      cases told
  have added : x.sent.flatMap x.adds =
      (chunks.filterMap fromUtf8).flatMap fun text => (x.sentPieces text).flatMap String.toList := by
    rw [sent, List.flatMap_append, flatMap_eq_nil_of silent, List.append_nil, List.flatMap_assoc]
    refine List.flatMap_congr fun read _ => ?_
    rw [List.flatMap_map]
    rfl
  have pieces_ (read : String) : ∀ piece ∈ chunkUtf8 read maxDcChunkBytes, piece.toList ≠ [] := by
    intro piece member
    obtain ⟨chars, cut, rfl⟩ := List.mem_map.mp member
    rw [String.toList_ofList]
    exact pieces_nonempty _ _ chars cut
  have shorter (read : String) : ((x.sentPieces read).flatMap String.toList).length ≤
      ((chunkUtf8 read maxDcChunkBytes).flatMap String.toList).length := flatMap_takeWhile_length_le _
  have sublist : (x.sent.flatMap x.adds).Sublist (readText chunks) := by
    rw [added, readText_eq]
    refine List.Sublist.flatMap_right _ fun read _ => ?_
    rw [← chunkUtf8_flatMap read maxDcChunkBytes]
    exact List.Sublist.flatMap (List.takeWhile_sublist _) _
  have complete := flatMap_eq_iff shorter (chunks.filterMap fromUtf8) (Nat.le_refl ([] : List Char).length)
  have same : x.sent.flatMap x.adds = readText chunks ↔ ∀ read ∈ chunks.filterMap fromUtf8,
      ∀ piece ∈ chunkUtf8 read maxDcChunkBytes,
        canSend x.answers (.proxyResponseChunk x.reqId piece) := by
    have read : readText chunks = (chunks.filterMap fromUtf8).flatMap fun text =>
        (chunkUtf8 text maxDcChunkBytes).flatMap String.toList := by
      rw [readText_eq]
      exact List.flatMap_congr fun text _ => (chunkUtf8_flatMap text maxDcChunkBytes).symm
    rw [List.append_nil, List.append_nil, and_iff_left rfl] at complete
    rw [added, read, eq_comm, complete]
    refine forall₂_congr fun read _ => ?_
    rw [eq_comm]
    exact flatMap_takeWhile_eq_iff (pieces_ read)
  rw [relayed_iff untold, part_eq_iff whole sublist, same, Keeps, way]

theorem clusterEncrypted_relayed_iff (way : x.way = .clusterEncrypted) (answered : x.Answered chunks)
    (whole : utf8 text = chunks.flatten) : x.Relayed text ↔ x.Keeps chunks := by
  have sent := clusterEncrypted_sent way answered
  obtain ⟨all, some_, silent⟩ := x.plannedChunks_adds (show 4 ≤ streamChunkBytes by decide)
    (readText chunks)
  have untold : ∀ msg ∈ x.sent, ∀ error, x.reads msg ≠ some (.error error) := by
    intro msg member
    rw [sent] at member
    rcases List.mem_cons.mp member with rfl | chunk
    · rintro error ⟨⟩
    · exact silent msg ((List.takeWhile_sublist _).subset chunk)
  have acked : x.adds x.ack = [] := rfl
  rw [relayed_iff untold, sent, List.flatMap_cons, acked, List.nil_append,
    takeWhile_adds_iff whole all some_, Keeps, way]

/-- The whole text in one response. -/
private theorem one_response_iff {msg : StreamMessage} (sent : x.sent = [msg])
    (reads : x.reads msg = some (.ok (String.ofList (readText chunks))))
    (whole : utf8 text = chunks.flatten) : x.Relayed text ↔ AllText chunks := by
  have untold : ∀ other ∈ x.sent, ∀ error, x.reads other ≠ some (.error error) := by
    intro other member error told
    rw [sent] at member
    rw [List.mem_singleton.mp member, reads] at told
    cases told
  have added : x.adds msg = readText chunks := by
    rw [adds, reads]
    exact String.toList_ofList
  rw [relayed_iff untold, sent, List.flatMap_singleton, added, readText_eq_iff whole]

/-- Nothing at all is right for an empty text only. -/
private theorem nothing_iff (sent : x.sent = []) (whole : utf8 text = chunks.flatten) :
    x.Relayed text ↔ chunks.flatten = [] := by
  have untold : ∀ other ∈ x.sent, ∀ error, x.reads other ≠ some (.error error) := by
    rw [sent]
    simp
  rw [relayed_iff untold, sent, List.flatMap_nil, ← whole, eq_comm, String.toList_eq_nil_iff]
  constructor
  · rintro rfl
    rfl
  · intro empty
    exact utf8_injective empty

theorem swarmPlaintext_relayed_iff (way : x.way = .swarmPlaintext) (answered : x.Answered chunks)
    (whole : utf8 text = chunks.flatten) : x.Relayed text ↔ x.Keeps chunks := by
  have sent := swarmPlaintext_sent way answered
  simp only [Keeps, way]
  split
  · rename_i connected
    rw [if_pos connected] at sent
    exact one_response_iff sent rfl whole
  · rename_i gone
    rw [if_neg gone] at sent
    exact nothing_iff sent whole

theorem swarmEncrypted_relayed_iff (way : x.way = .swarmEncrypted) (answered : x.Answered chunks)
    (whole : utf8 text = chunks.flatten) : x.Relayed text ↔ x.Keeps chunks := by
  obtain ⟨start, quiet, sent⟩ := swarmEncrypted_sent way answered
  obtain ⟨all, -, silent⟩ := x.plannedChunks_adds (show 4 ≤ reverseChunkBytes by decide)
    (readText chunks)
  have untold : ∀ msg ∈ x.sent, ∀ error, x.reads msg ≠ some (.error error) := by
    intro msg member error told
    rw [sent] at member
    rcases List.mem_append.mp member with first | chunk
    · rw [quiet msg first] at told
      cases told
    · exact silent msg chunk error told
  rw [relayed_iff untold, sent, List.flatMap_append, flatMap_eq_nil_of quiet, List.nil_append, all,
    readText_eq_iff whole, Keeps, way]

theorem sidecar_relayed_iff (way : x.way = .sidecar) (answered : x.Answered chunks)
    (whole : utf8 text = chunks.flatten) : x.Relayed text ↔ x.Keeps chunks := by
  have sent := sidecar_sent way answered
  simp only [Keeps, way]
  by_cases connected : x.answers.channelOpen
  · rw [if_pos connected] at sent
    rw [if_pos connected]
    by_cases large : maxIpcFrameBytes < (x.wholeResponse chunks).text.utf8ByteSize
    · rw [readFrame, if_pos large] at sent
      refine iff_of_true (.inr ⟨encryptedErrorResponse x.reqId x.version
        ("Sidecar IPC error: " ++ "IPC frame too large"), ?_, _, rfl⟩) (.inr large)
      rw [sent]
      exact List.mem_singleton_self _
    · rw [readFrame, if_neg large] at sent
      rw [or_iff_left large]
      exact one_response_iff sent (x.reads_wholeResponse chunks) whole
  · rw [if_neg connected] at sent
    rw [if_neg connected]
    exact nothing_iff sent whole

end Relaying

/-- However the network cuts an answer that is text as a whole, the consumer gets the
text or is told of an error exactly when no chunk ends inside a character and each
message that the text is cut into can be sent. -/
theorem text_relayed_iff (x : Relaying) {chunks : List Bytes} {text : String}
    (answered : x.Answered chunks) (whole : utf8 text = chunks.flatten) :
    x.Relayed text ↔ x.Keeps chunks := by
  cases way : x.way with
  | clusterPlaintext => exact Relaying.clusterPlaintext_relayed_iff way answered whole
  | clusterEncrypted => exact Relaying.clusterEncrypted_relayed_iff way answered whole
  | swarmPlaintext => exact Relaying.swarmPlaintext_relayed_iff way answered whole
  | swarmEncrypted => exact Relaying.swarmEncrypted_relayed_iff way answered whole
  | sidecar => exact Relaying.sidecar_relayed_iff way answered whole

private def sampleRelaying (way : Way) (chunks : List Bytes) : Relaying where
  way := way
  settings := sampleHost true false
  proxy := sampleProxy
  answers := { sampleAnswers with upstream := .ok (chunks.map .ok) }
  peer := "Q"
  reqId := "1"
  path := "/api/chat"
  roomId := "c"
  body := sampleBody "llama3"
  nonce := []
  ciphertext := []
  version := aadVersion
  auth := none
  consumer := sampleHost true false
  config := sampleConfig
  ephemeral := [7]
  pk := _
  keys := sampleKeys
  long _ := by simp [sampleAnswers]

private theorem sampleRelaying_answered {way : Way} (relays : way ≠ .sidecar) (chunks : List Bytes) :
    (sampleRelaying way chunks).Answered chunks := by
  cases way with
  | sidecar => exact absurd rfl relays
  | clusterEncrypted =>
    have acked : canSend sampleAnswers (.encryptedProxyResponse "1" [] [] aadVersion none (some true)) :=
      by decide
    exact ⟨acked, rfl⟩
  | _ => exact ⟨trivial, rfl⟩

theorem text_relayed_iff_sample :
    (sampleRelaying .swarmEncrypted [utf8 "h", utf8 "i"]).Relayed "hi" ↔
      (sampleRelaying .swarmEncrypted [utf8 "h", utf8 "i"]).Keeps [utf8 "h", utf8 "i"] :=
  text_relayed_iff _ (sampleRelaying_answered (by decide) _) (by decide)

/-- The backend answers with a text, and neither the text nor an error gets through. -/
private def Loses (way : Way) (chunks : List Bytes) (text : String) : Prop :=
  (sampleRelaying way chunks).Answered chunks ∧ utf8 text = chunks.flatten ∧
    ¬ (sampleRelaying way chunks).Relayed text

/-- A character that is split between two network chunks is lost on every way. -/
theorem split_character_lost :
    Loses .clusterPlaintext [[0xC3], [0xA9]] "é" ∧ Loses .clusterEncrypted [[0xC3], [0xA9]] "é" ∧
      Loses .swarmPlaintext [[0xC3], [0xA9]] "é" ∧ Loses .swarmEncrypted [[0xC3], [0xA9]] "é" := by
  have whole : utf8 "é" = ([[0xC3], [0xA9]] : List Bytes).flatten := by decide
  have broken : ¬ AllText [[0xC3], [0xA9]] := fun all => absurd (all [0xC3] (by simp)) (by decide)
  have answered (way : Way) (relays : way ≠ .sidecar) :=
    sampleRelaying_answered relays [[0xC3], [0xA9]]
  refine ⟨⟨answered _ (by decide), whole, ?_⟩, ⟨answered _ (by decide), whole, ?_⟩,
    ⟨answered _ (by decide), whole, ?_⟩, ⟨answered _ (by decide), whole, ?_⟩⟩
  · rw [Relaying.clusterPlaintext_relayed_iff rfl (answered _ (by decide)) whole]
    exact fun keeps => broken keeps.1
  · rw [Relaying.clusterEncrypted_relayed_iff rfl (answered _ (by decide)) whole]
    exact fun keeps => broken keeps.1
  · rw [Relaying.swarmPlaintext_relayed_iff rfl (answered _ (by decide)) whole]
    exact broken
  · rw [Relaying.swarmEncrypted_relayed_iff rfl (answered _ (by decide)) whole]
    exact broken

end MtrxPeer
