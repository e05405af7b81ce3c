import MtrxPeer.P2pProxy
import MtrxPeer.SealedStream
import MtrxPeer.StreamCutting

/-! What a consumer is sent of an upstream's answer: numbered chunks with the whole
text and a marked end, or an error. Both kinds of provider cut the text the same way. -/
namespace MtrxPeer

variable {P : Primitives} {config : ClientConfig} {answers : Answers} {request : EncryptedRequest}

/-! ## The text that is read -/

/-- The text of the chunks that are UTF-8. -/
def readText (chunks : List Bytes) : List Char :=
  chunks.flatMap fun chunk => ((fromUtf8 chunk).getD "").toList

/-- Every chunk that a stream arrives in is UTF-8 by itself. -/
def AllText (chunks : List Bytes) : Prop := ∀ chunk ∈ chunks, (fromUtf8 chunk).isSome

private theorem utf8_ofList_append (text more : List Char) :
    utf8 (String.ofList (text ++ more)) = utf8 (String.ofList text) ++ utf8 (String.ofList more) := by
  rw [String.ofList_append, utf8_append]

/-- No more is read than came, and all of it if every chunk is text. -/
theorem readText_length (chunks : List Bytes) :
    (utf8 (String.ofList (readText chunks))).length ≤ chunks.flatten.length ∧
      ((utf8 (String.ofList (readText chunks))).length = chunks.flatten.length → AllText chunks) := by
  induction chunks with
  | nil => exact ⟨Nat.le_refl _, fun _ => by simp [AllText]⟩
  | cons chunk rest ih =>
    obtain ⟨short, whole⟩ := ih
    have parts : (utf8 (String.ofList (readText (chunk :: rest)))).length =
        (utf8 ((fromUtf8 chunk).getD "")).length +
          (utf8 (String.ofList (readText rest))).length := by
      rw [show readText (chunk :: rest) = ((fromUtf8 chunk).getD "").toList ++ readText rest from rfl,
        utf8_ofList_append, List.length_append, String.ofList_toList]
    rw [parts, List.flatten_cons, List.length_append]
    cases read : fromUtf8 chunk with
    | none =>
      have empty : (utf8 "").length = 0 := rfl
      have some_ : chunk.length ≠ 0 := by
        intro none_
        rw [List.length_eq_zero_iff.mp none_] at read
        exact absurd read (by decide)
      simp only [Option.getD_none, empty]
      exact ⟨by omega, fun same => by omega⟩
    | some text =>
      have all := congrArg List.length (utf8_of_fromUtf8 read)
      simp only [Option.getD_some, all]
      refine ⟨by omega, fun same => ?_⟩
      intro other member
      rcases List.mem_cons.mp member with rfl | later
      · rw [read]
        rfl
      · exact whole (by omega) other later

theorem utf8_readText {chunks : List Bytes} (text : AllText chunks) :
    utf8 (String.ofList (readText chunks)) = chunks.flatten := by
  induction chunks with
  | nil => rfl
  | cons chunk rest ih =>
    obtain ⟨read, decoded⟩ := Option.isSome_iff_exists.mp (text chunk List.mem_cons_self)
    rw [show readText (chunk :: rest) = ((fromUtf8 chunk).getD "").toList ++ readText rest from rfl,
      utf8_ofList_append, ih fun other member => text other (List.mem_cons_of_mem chunk member),
      decoded, Option.getD_some, String.ofList_toList, utf8_of_fromUtf8 decoded, List.flatten_cons]

/-! ## The chunks that are made -/

/-- The message for one piece of an answer. -/
def pieceMessage (P : Primitives) (config : ClientConfig) (answers : Answers)
    (request : EncryptedRequest) (i : Nat) (text : List Char) (done : Bool) : StreamMessage :=
  .encryptedProxyStreamChunk request.reqId (i % 2 ^ 32) (answers.draws i).nonce
    (sealText P config request.reqId request.path request.roomId request.consumerEphemeralPk
      (answers.draws i).nonce (i % 2 ^ 32) (String.ofList text)) request.aadVersion done

/-- The pieces of a text: full ones, and what is left if anything is. -/
def allPieces (maxBytes : Nat) (text : List Char) : List (List Char) :=
  (fullPieces maxBytes text).1 ++
    if (fullPieces maxBytes text).2 = [] then [] else [(fullPieces maxBytes text).2]

/-- The messages for a text; only the piece that is left at the end is marked. -/
def plannedChunks (P : Primitives) (config : ClientConfig) (answers : Answers)
    (request : EncryptedRequest) (maxBytes : Nat) (text : List Char) : List StreamMessage :=
  (allPieces maxBytes text).mapIdx fun i piece =>
    pieceMessage P config answers request i piece (i = (fullPieces maxBytes text).1.length)

/-- A call that is not refused yields what the backend streams. -/
theorem callOutcome_ok {registry : Registry} {call : BackendCall}
    {items : List (Except String Bytes)} (called : callOutcome registry answers call = some (.ok items)) :
    answers.upstream = .ok items := by
  unfold callOutcome at called
  split at called
  · exact Option.some.inj called
  · cases called
  · cases called

/-! ## What a consumer should be sent -/

/-- A whole answer: chunks numbered from zero that hold the upstream's bytes, the last
one and no other marked. -/
def CompleteAnswer (P : Primitives) (config : ClientConfig) (request : EncryptedRequest)
    (bytes : Bytes) (msgs : List StreamMessage) : Prop :=
  ∃ stream : SealedStream P config request.reqId request.path request.roomId
      request.consumerEphemeralPk,
    utf8 stream.text = bytes ∧
      msgs = (List.range stream.texts.length).map (stream.message request.aadVersion)

/-- A message that tells of a failure. -/
def StreamMessage.tellsError : StreamMessage → Bool
  | .encryptedProxyResponse _ _ _ _ error _ | .proxyResponse _ _ error => error.isSome
  | .proxyResponseError _ _ => true
  | _ => false

/-- A chunk that ends an answer. -/
def StreamMessage.endsAnswer : StreamMessage → Bool
  | .encryptedProxyStreamChunk _ _ _ _ _ done => done
  | _ => false

/-- A failure is told, and no chunk is passed off as the end. -/
def FailureTold (msgs : List StreamMessage) : Prop :=
  (∃ msg ∈ msgs, msg.tellsError) ∧ ∀ msg ∈ msgs, ¬ msg.endsAnswer

/-- No item of a stream is an error. -/
def Unbroken (items : List (Except String Bytes)) : Prop := ∀ item ∈ items, item.isOk

instance (items : List (Except String Bytes)) : Decidable (Unbroken items) :=
  inferInstanceAs (Decidable (∀ item ∈ items, item.isOk = true))

instance (roomId : String) (ephemeralPk : Bytes) : Decidable (CanSeal P config roomId ephemeralPk) :=
  inferInstanceAs (Decidable (_ ∧ _))

/-- What the messages after an acknowledgement owe the consumer: the whole answer, or
that the backend refused, the stream broke or the chunks could not be sealed. -/
def Answered (P : Primitives) (config : ClientConfig) (request : EncryptedRequest)
    (upstream : Except String (List (Except String Bytes))) (msgs : List StreamMessage) : Prop :=
  match upstream with
  | .error _ => FailureTold msgs
  | .ok items =>
    if Unbroken items ∧ CanSeal P config request.roomId request.consumerEphemeralPk then
      CompleteAnswer P config request (okItems items).flatten msgs
    else FailureTold msgs

/-- When cutting a stream ends it properly: every item is text by itself, something is
left when the full pieces are cut off, and the chunks can be numbered in 32 bits. -/
structure EndsMarked (maxBytes : Nat) (items : List (Except String Bytes)) : Prop where
  unbroken : Unbroken items
  text : AllText (okItems items)
  left : (fullPieces maxBytes (readText (okItems items))).2 ≠ []
  count : (allPieces maxBytes (readText (okItems items))).length ≤ 2 ^ 32

variable {maxBytes : Nat}

theorem plannedChunks_silent (text : List Char) :
    ¬ FailureTold (plannedChunks P config answers request maxBytes text) := by
  rintro ⟨⟨msg, member, tells⟩, -⟩
  obtain ⟨i, bound, rfl⟩ := List.mem_mapIdx.mp member
  cases tells

theorem allPieces_flatten (wide : 4 ≤ maxBytes) (text : List Char) :
    (allPieces maxBytes text).flatten = text := by
  conv_rhs => rw [← fullPieces_flatten wide text]
  unfold allPieces
  split
  · rename_i empty
    simp [empty]
  · simp

theorem allPieces_length (maxBytes : Nat) (text : List Char) :
    (allPieces maxBytes text).length = (fullPieces maxBytes text).1.length +
      if (fullPieces maxBytes text).2 = [] then 0 else 1 := by
  unfold allPieces
  split <;> simp

/-- The messages for a text are a whole answer. -/
theorem plannedChunks_complete (wide : 4 ≤ maxBytes)
    (able : CanSeal P config request.roomId request.consumerEphemeralPk)
    (long : ∀ i, (answers.draws i).nonce.length = 12) {items : List (Except String Bytes)}
    (ends : EndsMarked maxBytes items) :
    CompleteAnswer P config request (okItems items).flatten
      (plannedChunks P config answers request maxBytes (readText (okItems items))) := by
  have count := allPieces_length maxBytes (readText (okItems items))
  rw [if_neg ends.left] at count
  have bound := ends.count
  have whole := allPieces_flatten wide (readText (okItems items))
  unfold plannedChunks
  generalize allPieces maxBytes (readText (okItems items)) = pieces at count bound whole
  generalize (fullPieces maxBytes (readText (okItems items))).1.length = full at count
  have nonempty : pieces.map String.ofList ≠ [] := by
    intro empty
    rw [List.map_eq_nil_iff.mp empty] at count
    cases count
  refine ⟨.ofTexts able request.reqId request.path (pieces.map String.ofList) nonempty
    (fun i => (answers.draws i).nonce) long, ?_, ?_⟩
  · rw [← utf8_readText ends.text, ← whole, ← join_ofList]
    rfl
  · refine List.ext_getElem (by simp [SealedStream.ofTexts]) ?_
    intro i below _
    rw [List.length_mapIdx] at below
    have wraps : i % 2 ^ 32 = i := Nat.mod_eq_of_lt (Nat.lt_of_lt_of_le below bound)
    have last : (i = full) ↔ (i + 1 = pieces.length) := by omega
    have text : (pieces.map String.ofList).getD i "" = String.ofList pieces[i] := by simp [below]
    simp only [List.getElem_mapIdx, List.getElem_map, List.getElem_range, pieceMessage,
      SealedStream.message, SealedStream.ofTexts, wraps, text, last, List.length_map]

/-- The messages for a text are those of a stream only if the pieces are the stream's
texts, sealed with the nonces drawn, a piece is left when the full ones are cut off, and
there are numbers for all. -/
theorem plannedChunks_stream (opens : P.Opens) {text : List Char}
    (stream : SealedStream P config request.reqId request.path request.roomId
      request.consumerEphemeralPk)
    (same : plannedChunks P config answers request maxBytes text =
      (List.range stream.texts.length).map (stream.message request.aadVersion)) :
    stream.texts = (allPieces maxBytes text).map String.ofList ∧
      (∀ i < stream.texts.length, (stream.chunk i).nonce = (answers.draws i).nonce) ∧
      (fullPieces maxBytes text).2 ≠ [] ∧ stream.texts.length ≤ 2 ^ 32 := by
  have count := allPieces_length maxBytes text
  have lengths := congrArg List.length same
  rw [plannedChunks, List.length_mapIdx, List.length_map, List.length_range] at lengths
  have at_ (i : Nat) (below : i < stream.texts.length)
      (below' : i < (allPieces maxBytes text).length) :
      pieceMessage P config answers request i (allPieces maxBytes text)[i]
          (i = (fullPieces maxBytes text).1.length) = stream.message request.aadVersion i := by
    have both := congrArg (·[i]?) same
    simpa [plannedChunks, below, below'] using both
  have some_ := List.length_pos_iff.mpr stream.nonempty
  have left : (fullPieces maxBytes text).2 ≠ [] := by
    intro empty
    rw [if_pos empty] at count
    have marked := at_ (stream.texts.length - 1) (by omega) (by omega)
    have done := congrArg StreamMessage.endsAnswer marked
    simp only [pieceMessage, SealedStream.message, StreamMessage.endsAnswer, stream.last,
      decide_eq_decide] at done
    omega
  have numbers (i : Nat) (below : i < stream.texts.length) : i < 2 ^ 32 := by
    have seq : i % 2 ^ 32 = (stream.chunk i).seq := by
      have both := at_ i below (by omega)
      simp only [pieceMessage, SealedStream.message, StreamMessage.encryptedProxyStreamChunk.injEq] at both
      exact both.2.1
    rw [stream.numbered] at seq
    omega
  have able : CanSeal P config request.roomId request.consumerEphemeralPk := by
    by_contra unable
    obtain ⟨error, failed⟩ := encryptProxyChunk_unable unable (utf8 stream.texts[0])
    have made := stream.isSealed 0 some_
    rw [failed] at made
    cases made
  have payloads (i : Nat) (below : i < stream.texts.length)
      (below' : i < (allPieces maxBytes text).length) :
      (answers.draws i).nonce = (stream.chunk i).nonce ∧
        sealText P config request.reqId request.path request.roomId request.consumerEphemeralPk
          (answers.draws i).nonce i (String.ofList (allPieces maxBytes text)[i]) =
        (stream.chunk i).ciphertext := by
    have both := at_ i below below'
    have wraps : i % 2 ^ 32 = i := Nat.mod_eq_of_lt (numbers i below)
    simp only [pieceMessage, SealedStream.message, StreamMessage.encryptedProxyStreamChunk.injEq,
      wraps] at both
    exact ⟨both.2.2.1, both.2.2.2.1⟩
  refine ⟨?_, ?_, left, ?_⟩
  · refine List.ext_getElem (by rw [List.length_map, lengths]) ?_
    intro i below below'
    rw [List.length_map] at below'
    obtain ⟨nonce, ciphertext⟩ := payloads i below below'
    refine encryptProxyChunk_inj opens (stream.isSealed i below) ?_
    rw [List.getElem_map, ← ciphertext, ← nonce]
    exact encryptProxyChunk_eq able
  · exact fun i below => (payloads i below (by omega)).1.symm
  · by_contra above
    have last := numbers (2 ^ 32) (by omega)
    omega

/-- So the text of the stream is the text. -/
theorem SealedStream.text_of_allPieces (wide : 4 ≤ maxBytes) {reqId path roomId : String}
    {ephemeralPk : Bytes} {text : List Char}
    (stream : SealedStream P config reqId path roomId ephemeralPk)
    (texts : stream.texts = (allPieces maxBytes text).map String.ofList) :
    stream.text = String.ofList text := by
  rw [SealedStream.text, texts, join_ofList, allPieces_flatten wide]

/-- Only then. -/
theorem endsMarked_of_complete (wide : 4 ≤ maxBytes) (opens : P.Opens)
    {items : List (Except String Bytes)} (unbroken : Unbroken items)
    (complete : CompleteAnswer P config request (okItems items).flatten
      (plannedChunks P config answers request maxBytes (readText (okItems items)))) :
    EndsMarked maxBytes items := by
  obtain ⟨stream, bytes, same⟩ := complete
  obtain ⟨texts, -, left, count⟩ := plannedChunks_stream opens stream same
  refine ⟨unbroken, ?_, left, ?_⟩
  · apply (readText_length _).2
    rw [← bytes, stream.text_of_allPieces wide texts]
  · rwa [texts, List.length_map] at count

/-! ## Cutting as it arrives -/

/-- The messages for full pieces, numbered from `start`. -/
def pieceMessages (P : Primitives) (config : ClientConfig) (answers : Answers)
    (request : EncryptedRequest) (start : Nat) (pieces : List (List Char)) : List StreamMessage :=
  pieces.mapIdx fun i piece => pieceMessage P config answers request (start + i) piece false

theorem pieceMessages_cons (start : Nat) (piece : List Char) (rest : List (List Char)) :
    pieceMessages P config answers request start (piece :: rest) =
      pieceMessage P config answers request start piece false ::
        pieceMessages P config answers request (start + 1) rest := by
  rw [pieceMessages, List.mapIdx_cons, Nat.add_zero, pieceMessages]
  congr 2
  funext i piece
  rw [Nat.add_right_comm, Nat.add_assoc]

theorem pieceMessages_append (start : Nat) (pieces more : List (List Char)) :
    pieceMessages P config answers request start (pieces ++ more) =
      pieceMessages P config answers request start pieces ++
        pieceMessages P config answers request (start + pieces.length) more := by
  rw [pieceMessages, List.mapIdx_append, pieceMessages, pieceMessages]
  congr 2
  funext i piece
  rw [Nat.add_right_comm, Nat.add_assoc]

/-- The full pieces come first, the marked one last. -/
theorem plannedChunks_eq (text : List Char) :
    plannedChunks P config answers request maxBytes text =
      pieceMessages P config answers request 0 (fullPieces maxBytes text).1 ++
        if (fullPieces maxBytes text).2 = [] then []
        else [pieceMessage P config answers request (fullPieces maxBytes text).1.length
          (fullPieces maxBytes text).2 true] := by
  have unmarked : ∀ pieces : List (List Char),
      (pieces.mapIdx fun i piece => pieceMessage P config answers request i piece
        (i = pieces.length)) = pieceMessages P config answers request 0 pieces := by
    intro pieces
    refine List.ext_getElem (by simp [pieceMessages]) ?_
    intro i below _
    rw [List.length_mapIdx] at below
    simp [pieceMessages, Nat.ne_of_lt below]
  rw [plannedChunks, allPieces, List.mapIdx_append, unmarked]
  split <;> simp

variable {host : Host}

/-- A flush before the end sends the full pieces. -/
theorem flushEncryptedResponseChunks_eq
    (able : CanSeal host.crypto config request.roomId request.consumerEphemeralPk) {fuel : Nat}
    (flush : Flush) (enough : flush.pending.length ≤ fuel) (alive : flush.alive = true)
    (sends : ∀ msg ∈ pieceMessages host.crypto config answers request flush.seq
      (fullPieces streamChunkBytes flush.pending).1, canSend answers msg) :
    flushEncryptedResponseChunks host config answers request.roomId request.reqId request.path
        request.consumerEphemeralPk request.aadVersion false fuel flush =
      ⟨(fullPieces streamChunkBytes flush.pending).2,
        flush.seq + (fullPieces streamChunkBytes flush.pending).1.length,
        flush.sent ++ (pieceMessages host.crypto config answers request flush.seq
          (fullPieces streamChunkBytes flush.pending).1).map .stream, true⟩ := by
  have wide : 4 ≤ streamChunkBytes := by decide
  induction fuel generalizing flush with
  | zero =>
    obtain ⟨pending, seq, sent, live⟩ := flush
    obtain rfl : pending = [] := List.length_eq_zero_iff.mp (Nat.le_zero.mp enough)
    obtain rfl : live = true := alive
    simp [flushEncryptedResponseChunks, pieceMessages]
  | succ fuel ih =>
    obtain ⟨pending, seq, sent, live⟩ := flush
    obtain rfl : live = true := alive
    unfold flushEncryptedResponseChunks
    by_cases full : streamChunkBytes ≤ byteCount pending
    · have nonempty : pending ≠ [] := by
        rintro rfl
        exact absurd full (by decide)
      have shorter := drop_fitting_length wide nonempty
      simp only [fullPieces_full wide full, pieceMessages_cons, List.mem_cons, forall_eq_or_imp] at sends
      let cut : Flush := ⟨pending.drop (fitting streamChunkBytes pending).length, seq + 1,
        sent ++ [.stream (pieceMessage host.crypto config answers request seq
          (fitting streamChunkBytes pending) false)], true⟩
      have fewer : cut.pending.length ≤ fuel := by
        simp only [cut] at enough ⊢
        omega
      have rest := ih cut fewer rfl sends.2
      have sized : streamChunkBytes ≤ (String.ofList pending).utf8ByteSize := full
      rw [if_neg nonempty, if_pos (.inl sized)]
      simp only [nextStreamChunk, if_pos sized, encryptProxyChunk_eq able, Bool.false_and]
      simp only [cut, pieceMessage] at sends rest
      rw [if_pos sends.1, rest, fullPieces_full wide full]
      simp only [pieceMessages_cons, pieceMessage, List.map_cons, List.length_cons,
        List.append_assoc, List.singleton_append, Nat.add_assoc, Nat.add_comm 1]
    · have short := Nat.lt_of_not_le full
      rw [fullPieces_short short]
      have unsized : ¬ streamChunkBytes ≤ (String.ofList pending).utf8ByteSize := full
      simp [unsized, pieceMessages]

/-- The flush at the end sends what is left, marked. -/
theorem flushEncryptedResponseChunks_last
    (able : CanSeal host.crypto config request.roomId request.consumerEphemeralPk) (flush : Flush)
    (short : byteCount flush.pending < streamChunkBytes)
    (sends : flush.pending ≠ [] →
      canSend answers (pieceMessage host.crypto config answers request flush.seq flush.pending true)) :
    (flushEncryptedResponseChunks host config answers request.roomId request.reqId request.path
        request.consumerEphemeralPk request.aadVersion true flush.pending.length flush).sent =
      flush.sent ++ if flush.pending = [] then [] else
        [.stream (pieceMessage host.crypto config answers request flush.seq flush.pending true)] := by
  obtain ⟨pending, seq, sent, live⟩ := flush
  cases pending with
  | nil => simp [flushEncryptedResponseChunks]
  | cons c rest =>
    have unsized : ¬ streamChunkBytes ≤ (String.ofList (c :: rest)).utf8ByteSize := Nat.not_le.mpr short
    have goes := sends (List.cons_ne_nil c rest)
    simp only [pieceMessage] at goes
    have ended : ∀ flush : Flush, flush.pending = [] → ∀ fuel,
        (flushEncryptedResponseChunks host config answers request.roomId request.reqId request.path
          request.consumerEphemeralPk request.aadVersion true fuel flush).sent = flush.sent := by
      intro flush empty fuel
      cases fuel with
      | zero => rfl
      | succ fuel => rw [flushEncryptedResponseChunks, if_pos empty]
    rw [List.length_cons, flushEncryptedResponseChunks, if_neg (List.cons_ne_nil c rest),
      if_pos (.inr rfl), if_neg (List.cons_ne_nil c rest)]
    simp only [nextStreamChunk, if_neg unsized, encryptProxyChunk_eq able, List.drop_length,
      Bool.true_and, decide_true, if_pos goes]
    rw [ended _ rfl]
    rfl

/-- A flush is where it would be had its whole text come at once. -/
def Flush.after (host : Host) (config : ClientConfig) (answers : Answers) (request : EncryptedRequest)
    (text : List Char) : Flush where
  pending := (fullPieces streamChunkBytes text).2
  seq := (fullPieces streamChunkBytes text).1.length
  sent := (pieceMessages host.crypto config answers request 0
    (fullPieces streamChunkBytes text).1).map .stream
  alive := true

/-- However a text arrives, the same is sent. -/
theorem flushes_after
    (able : CanSeal host.crypto config request.roomId request.consumerEphemeralPk)
    (chunks : List Bytes) (text : List Char)
    (sends : ∀ msg ∈ pieceMessages host.crypto config answers request 0
      (fullPieces streamChunkBytes (text ++ readText chunks)).1, canSend answers msg) :
    (chunks.foldl (fun flush chunk =>
        if flush.alive then
          flushEncryptedResponseChunks host config answers request.roomId request.reqId request.path
            request.consumerEphemeralPk request.aadVersion false
            (flush.pending ++ ((fromUtf8 chunk).getD "").toList).length
            { flush with pending := flush.pending ++ ((fromUtf8 chunk).getD "").toList }
        else flush) (Flush.after host config answers request text)) =
      Flush.after host config answers request (text ++ readText chunks) := by
  have wide : 4 ≤ streamChunkBytes := by decide
  induction chunks generalizing text with
  | nil => simp [readText]
  | cons chunk rest ih =>
    have joined : text ++ readText (chunk :: rest) =
        (text ++ ((fromUtf8 chunk).getD "").toList) ++ readText rest := by
      rw [List.append_assoc]
      rfl
    rw [joined] at sends ⊢
    have next := fullPieces_append wide text ((fromUtf8 chunk).getD "").toList
    have sendsNow : ∀ msg ∈ pieceMessages host.crypto config answers request
        (fullPieces streamChunkBytes text).1.length (fullPieces streamChunkBytes
          ((fullPieces streamChunkBytes text).2 ++ ((fromUtf8 chunk).getD "").toList)).1,
        canSend answers msg := by
      intro msg member
      refine sends msg ?_
      rw [fullPieces_append wide, next, pieceMessages_append, pieceMessages_append, Nat.zero_add]
      exact List.mem_append_left _ (List.mem_append_right _ member)
    rw [List.foldl_cons, ← ih _ sends]
    congr 1
    have alive : (Flush.after host config answers request text).alive = true := rfl
    have flushed := flushEncryptedResponseChunks_eq able
      { Flush.after host config answers request text with
        pending := (fullPieces streamChunkBytes text).2 ++ ((fromUtf8 chunk).getD "").toList }
      (Nat.le_refl _) rfl sendsNow
    rw [if_pos alive]
    refine flushed.trans ?_
    simp only [Flush.after, next, pieceMessages_append, List.map_append, List.length_append,
      Nat.zero_add]

/-- The answer that a cluster provider streams. -/
theorem streamEncryptedAnswer_eq
    (able : CanSeal host.crypto config request.roomId request.consumerEphemeralPk)
    (items : List (Except String Bytes))
    (sends : ∀ msg ∈ plannedChunks host.crypto config answers request streamChunkBytes
      (readText (okItems items)), canSend answers msg) :
    streamEncryptedAnswer host config answers request.roomId request.reqId request.path
        request.consumerEphemeralPk request.aadVersion items =
      (plannedChunks host.crypto config answers request streamChunkBytes
        (readText (okItems items))).map .stream := by
  have wide : 4 ≤ streamChunkBytes := by decide
  rw [plannedChunks_eq] at sends ⊢
  have arrived := flushes_after able (okItems items) [] fun msg member =>
    sends msg (List.mem_append_left _ member)
  have start : (⟨[], 0, [], true⟩ : Flush) = .after host config answers request [] := rfl
  have sendsLast : (fullPieces streamChunkBytes (readText (okItems items))).2 ≠ [] →
      canSend answers (pieceMessage host.crypto config answers request
        (fullPieces streamChunkBytes (readText (okItems items))).1.length
        (fullPieces streamChunkBytes (readText (okItems items))).2 true) := by
    intro left
    refine sends _ (List.mem_append_right _ ?_)
    rw [if_neg left]
    exact List.mem_singleton_self _
  have last := flushEncryptedResponseChunks_last able
    (.after host config answers request (readText (okItems items))) (fullPieces_rest wide _) sendsLast
  have alive : (Flush.after host config answers request (readText (okItems items))).alive = true := rfl
  unfold streamEncryptedAnswer
  simp only [List.nil_append] at arrived
  simp only [start, arrived]
  rw [if_pos alive, last, List.map_append]
  by_cases left : (fullPieces streamChunkBytes (readText (okItems items))).2 = []
  · have empty : (Flush.after host config answers request (readText (okItems items))).pending = [] :=
      left
    rw [if_pos left, if_pos empty]
    rfl
  · have some_ : (Flush.after host config answers request (readText (okItems items))).pending ≠ [] :=
      left
    rw [if_neg left, if_neg some_]
    rfl

/-- Nothing goes out when nothing can be sealed. -/
theorem streamEncryptedAnswer_unable
    (unable : ¬ CanSeal host.crypto config request.roomId request.consumerEphemeralPk)
    (items : List (Except String Bytes)) :
    streamEncryptedAnswer host config answers request.roomId request.reqId request.path
      request.consumerEphemeralPk request.aadVersion items = [] := by
  have flushed : ∀ done fuel flush, flush.sent = [] → (flushEncryptedResponseChunks host config
      answers request.roomId request.reqId request.path request.consumerEphemeralPk
      request.aadVersion done fuel flush).sent = [] := by
    intro done fuel flush none_
    cases fuel with
    | zero => exact none_
    | succ fuel =>
      unfold flushEncryptedResponseChunks
      split
      · exact none_
      · split
        · obtain ⟨error, failed⟩ : ∃ error, encryptProxyChunk host.crypto config request.roomId
              request.reqId request.path (flush.seq % 2 ^ 32) request.consumerEphemeralPk
              (answers.draws flush.seq).nonce (utf8 (String.ofList
                (nextStreamChunk streamChunkBytes flush.pending))) = .error error :=
            encryptProxyChunk_unable unable _
          simp only [failed]
          exact none_
        · exact none_
  have arrived : ∀ (chunks : List Bytes) (flush : Flush), flush.sent = [] →
      (chunks.foldl (fun flush chunk =>
        if flush.alive then
          flushEncryptedResponseChunks host config answers request.roomId request.reqId request.path
            request.consumerEphemeralPk request.aadVersion false
            (flush.pending ++ ((fromUtf8 chunk).getD "").toList).length
            { flush with pending := flush.pending ++ ((fromUtf8 chunk).getD "").toList }
        else flush) flush).sent = [] := by
    intro chunks
    induction chunks with
    | nil => exact fun _ none_ => none_
    | cons chunk rest ih =>
      intro flush none_
      rw [List.foldl_cons]
      refine ih _ ?_
      split
      · exact flushed _ _ _ none_
      · exact none_
  unfold streamEncryptedAnswer
  dsimp only
  split
  · exact flushed _ _ _ (arrived _ _ rfl)
  · exact arrived _ _ rfl

/-! ## Reverse chunks -/

/-- A flush before the end queues the full pieces. -/
theorem flushEncryptedPending_eq
    (able : CanSeal host.crypto config request.roomId request.consumerEphemeralPk) {fuel : Nat}
    (flush : ReverseFlush) (enough : flush.pending.length ≤ fuel) :
    flushEncryptedPending host config answers request false fuel flush =
      ⟨(fullPieces reverseChunkBytes flush.pending).2,
        flush.seq + (fullPieces reverseChunkBytes flush.pending).1.length,
        flush.queued ++ pieceMessages host.crypto config answers request flush.seq
          (fullPieces reverseChunkBytes flush.pending).1⟩ := by
  have wide : 4 ≤ reverseChunkBytes := by decide
  induction fuel generalizing flush with
  | zero =>
    obtain ⟨pending, seq, queued⟩ := flush
    obtain rfl : pending = [] := List.length_eq_zero_iff.mp (Nat.le_zero.mp enough)
    simp [flushEncryptedPending, pieceMessages]
  | succ fuel ih =>
    obtain ⟨pending, seq, queued⟩ := flush
    unfold flushEncryptedPending
    by_cases full : reverseChunkBytes ≤ byteCount pending
    · have nonempty : pending ≠ [] := by
        rintro rfl
        exact absurd full (by decide)
      have shorter := drop_fitting_length wide nonempty
      let cut : ReverseFlush := ⟨pending.drop (fitting reverseChunkBytes pending).length, seq + 1,
        queued ++ [pieceMessage host.crypto config answers request seq
          (fitting reverseChunkBytes pending) false]⟩
      have fewer : cut.pending.length ≤ fuel := by
        simp only [cut] at enough ⊢
        omega
      have rest := ih cut fewer
      have sized : reverseChunkBytes ≤ (String.ofList pending).utf8ByteSize := full
      rw [if_neg nonempty, if_pos (.inl sized)]
      simp only [nextStreamChunk, if_pos sized, encryptProxyChunk_eq able, Bool.false_and]
      simp only [cut, pieceMessage] at rest
      rw [rest, fullPieces_full wide full]
      simp only [pieceMessages_cons, pieceMessage, List.length_cons, List.append_assoc,
        List.singleton_append, Nat.add_assoc, Nat.add_comm 1]
    · have unsized : ¬ reverseChunkBytes ≤ (String.ofList pending).utf8ByteSize := full
      rw [fullPieces_short (Nat.lt_of_not_le full)]
      simp [unsized, pieceMessages]

/-- The flush at the end queues what is left, marked. -/
theorem flushEncryptedPending_last
    (able : CanSeal host.crypto config request.roomId request.consumerEphemeralPk)
    (flush : ReverseFlush) (short : byteCount flush.pending < reverseChunkBytes) :
    (flushEncryptedPending host config answers request true flush.pending.length flush).queued =
      flush.queued ++ if flush.pending = [] then [] else
        [pieceMessage host.crypto config answers request flush.seq flush.pending true] := by
  obtain ⟨pending, seq, queued⟩ := flush
  cases pending with
  | nil => simp [flushEncryptedPending]
  | cons c rest =>
    have unsized : ¬ reverseChunkBytes ≤ (String.ofList (c :: rest)).utf8ByteSize := Nat.not_le.mpr short
    have ended : ∀ flush : ReverseFlush, flush.pending = [] → ∀ fuel,
        (flushEncryptedPending host config answers request true fuel flush).queued = flush.queued := by
      intro flush empty fuel
      cases fuel with
      | zero => rfl
      | succ fuel => rw [flushEncryptedPending, if_pos empty]
    rw [List.length_cons, flushEncryptedPending, if_neg (List.cons_ne_nil c rest),
      if_pos (.inr rfl), if_neg (List.cons_ne_nil c rest)]
    simp only [nextStreamChunk, if_neg unsized, encryptProxyChunk_eq able, List.drop_length,
      Bool.true_and, decide_true]
    rw [ended _ rfl]
    rfl

/-- A flush is where it would be had its whole text come at once. -/
def ReverseFlush.after (host : Host) (config : ClientConfig) (answers : Answers)
    (request : EncryptedRequest) (text : List Char) : ReverseFlush where
  pending := (fullPieces reverseChunkBytes text).2
  seq := (fullPieces reverseChunkBytes text).1.length
  queued := pieceMessages host.crypto config answers request 0 (fullPieces reverseChunkBytes text).1

/-- However a text arrives, the same is queued. -/
theorem reverseFlushes_after
    (able : CanSeal host.crypto config request.roomId request.consumerEphemeralPk)
    (chunks : List Bytes) (text : List Char) :
    (chunks.foldl (fun flush chunk =>
        match fromUtf8 chunk with
        | some text => flushEncryptedPending host config answers request false
            (flush.pending ++ text.toList).length { flush with pending := flush.pending ++ text.toList }
        | none => flush) (ReverseFlush.after host config answers request text)) =
      ReverseFlush.after host config answers request (text ++ readText chunks) := by
  have wide : 4 ≤ reverseChunkBytes := by decide
  induction chunks generalizing text with
  | nil => simp [readText]
  | cons chunk rest ih =>
    have joined : text ++ readText (chunk :: rest) =
        (text ++ ((fromUtf8 chunk).getD "").toList) ++ readText rest := by
      rw [List.append_assoc]
      rfl
    rw [joined, List.foldl_cons, ← ih]
    congr 1
    cases fromUtf8 chunk with
    | none => simp
    | some read =>
      have next := fullPieces_append wide text read.toList
      refine (flushEncryptedPending_eq able
        { ReverseFlush.after host config answers request text with
          pending := (fullPieces reverseChunkBytes text).2 ++ read.toList }
        (Nat.le_refl _)).trans ?_
      simp only [ReverseFlush.after, Option.getD_some, next, pieceMessages_append,
        List.length_append, Nat.zero_add]

/-- The chunks that a swarm provider queues. -/
theorem reverseChunks_eq
    (able : CanSeal host.crypto config request.roomId request.consumerEphemeralPk)
    (items : List (Except String Bytes)) :
    reverseChunks host config answers request items =
      plannedChunks host.crypto config answers request reverseChunkBytes (readText (okItems items)) := by
  have wide : 4 ≤ reverseChunkBytes := by decide
  have arrived := @reverseFlushes_after config answers request host able (okItems items) []
  have start : (⟨[], 0, []⟩ : ReverseFlush) = .after host config answers request [] := rfl
  have last := @flushEncryptedPending_last config answers request host able
    (.after host config answers request (readText (okItems items))) (fullPieces_rest wide _)
  rw [List.nil_append] at arrived
  rw [plannedChunks_eq]
  unfold reverseChunks
  simp only [start]
  refine (congrArg (fun flush => (flushEncryptedPending host config answers request true
    flush.pending.length flush).queued) arrived).trans (last.trans ?_)
  by_cases left : (fullPieces reverseChunkBytes (readText (okItems items))).2 = []
  · have empty : (ReverseFlush.after host config answers request
        (readText (okItems items))).pending = [] := left
    rw [if_pos left, if_pos empty]
    rfl
  · have some_ : (ReverseFlush.after host config answers request
        (readText (okItems items))).pending ≠ [] := left
    rw [if_neg left, if_neg some_]
    rfl

/-- Nothing is queued when nothing can be sealed. -/
theorem reverseChunks_unable
    (unable : ¬ CanSeal host.crypto config request.roomId request.consumerEphemeralPk)
    (items : List (Except String Bytes)) : reverseChunks host config answers request items = [] := by
  have flushed : ∀ done fuel flush, flush.queued = [] →
      (flushEncryptedPending host config answers request done fuel flush).queued = [] := by
    intro done fuel flush none_
    cases fuel with
    | zero => exact none_
    | succ fuel =>
      unfold flushEncryptedPending
      split
      · exact none_
      · split
        · obtain ⟨error, failed⟩ : ∃ error, encryptProxyChunk host.crypto config request.roomId
              request.reqId request.path (flush.seq % 2 ^ 32) request.consumerEphemeralPk
              (answers.draws flush.seq).nonce (utf8 (String.ofList
                (nextStreamChunk reverseChunkBytes flush.pending))) = .error error :=
            encryptProxyChunk_unable unable _
          simp only [failed]
          exact none_
        · exact none_
  have arrived : ∀ (chunks : List Bytes) (flush : ReverseFlush), flush.queued = [] →
      (chunks.foldl (fun flush chunk =>
        match fromUtf8 chunk with
        | some text => flushEncryptedPending host config answers request false
            (flush.pending ++ text.toList).length { flush with pending := flush.pending ++ text.toList }
        | none => flush) flush).queued = [] := by
    intro chunks
    induction chunks with
    | nil => exact fun _ none_ => none_
    | cons chunk rest ih =>
      intro flush none_
      rw [List.foldl_cons]
      refine ih _ ?_
      split
      · exact flushed _ _ _ none_
      · exact none_
  exact flushed _ _ _ (arrived _ _ rfl)

/-! ## Cluster answers -/

/-- The messages that a cluster provider means to send for an answer. -/
def clusterAnswer (P : Primitives) (config : ClientConfig) (answers : Answers)
    (request : EncryptedRequest) :
    Except String (List (Except String Bytes)) → List StreamMessage
  | .error error =>
    [encryptedErrorResponse request.reqId request.aadVersion ("Proxy Error: " ++ error)]
  | .ok items =>
    plannedChunks P config answers request streamChunkBytes (readText (okItems items))

/-- When a cluster provider answers in full: the backend refuses at once, or its
stream ends properly and its chunks can be sealed. -/
def AnswersInFull (P : Primitives) (config : ClientConfig) (request : EncryptedRequest) :
    Except String (List (Except String Bytes)) → Prop
  | .error _ => True
  | .ok items => EndsMarked streamChunkBytes items ∧
    CanSeal P config request.roomId request.consumerEphemeralPk

private theorem not_failureTold_nil : ¬ FailureTold [] := by
  rintro ⟨⟨msg, member, -⟩, -⟩
  cases member

/-- The messages of a stream are a whole answer, or tell a failure, exactly when the
stream ends properly. -/
theorem answered_stream_iff (wide : 4 ≤ maxBytes) (opens : P.Opens)
    (long : ∀ i, (answers.draws i).nonce.length = 12) {items : List (Except String Bytes)}
    {msgs : List StreamMessage}
    (able : CanSeal P config request.roomId request.consumerEphemeralPk →
      msgs = plannedChunks P config answers request maxBytes (readText (okItems items)))
    (unable : ¬ CanSeal P config request.roomId request.consumerEphemeralPk → msgs = []) :
    Answered P config request (.ok items) msgs ↔
      EndsMarked maxBytes items ∧ CanSeal P config request.roomId request.consumerEphemeralPk := by
  unfold Answered
  by_cases seals : CanSeal P config request.roomId request.consumerEphemeralPk
  · obtain rfl := able seals
    by_cases unbroken : Unbroken items
    · simp only [unbroken, seals, and_self, if_true, and_true]
      exact ⟨endsMarked_of_complete wide opens unbroken, plannedChunks_complete wide seals long⟩
    · simp only [unbroken, false_and, if_false]
      exact ⟨fun told => absurd told (plannedChunks_silent _),
        fun ends => absurd ends.1.unbroken unbroken⟩
  · obtain rfl := unable seals
    simp only [seals, and_false, if_false, iff_false]
    exact not_failureTold_nil

/-- Nothing at all is no answer. -/
theorem not_answered_nil {upstream : Except String (List (Except String Bytes))} :
    ¬ Answered P config request upstream [] := by
  unfold Answered
  cases upstream with
  | error error => exact not_failureTold_nil
  | ok items =>
    dsimp only
    split
    · rintro ⟨stream, -, same⟩
      have none_ := congrArg List.length same
      rw [List.length_map, List.length_range, List.length_nil] at none_
      exact stream.nonempty (List.length_eq_zero_iff.mp none_.symm)
    · exact not_failureTold_nil

/-- A served request is acknowledged and forwarded before anything else. -/
theorem serveEncrypted_eq (proxy : ProxyState) (body : Json)
    {upstream : Except String (List (Except String Bytes))}
    (acked : canSend answers (.encryptedProxyResponse request.reqId [] [] request.aadVersion none
      (some true)))
    (called : callOutcome proxy.registry answers
      ⟨request.path, normalizeRemoteBody host proxy.config body, requestedModel body⟩ = some upstream) :
    serveEncrypted host proxy answers request body =
      .stream (.encryptedProxyResponse request.reqId [] [] request.aadVersion none (some true)) ::
        .forward ⟨request.path, normalizeRemoteBody host proxy.config body, requestedModel body⟩ ::
        match upstream with
        | .error error => sendEncryptedStreamError answers request ("Proxy Error: " ++ error)
        | .ok items => streamEncryptedAnswer host proxy.config answers request.roomId request.reqId
            request.path request.consumerEphemeralPk request.aadVersion items := by
  unfold serveEncrypted
  simp only [if_pos acked, called]
  cases upstream <;> rfl

/-- A request of the peer whose ephemeral secret is the byte 7. -/
private def sampleServed : EncryptedRequest :=
  ⟨"1", "/api/chat", "c", Primitives.transparent.publicKey [7], aadVersion, none⟩

private def sampleUpstream (items : List (Except String Bytes)) : Answers :=
  { sampleAnswers with upstream := .ok items }

/-- What the sample request is answered with when no text is read of the stream. -/
private def Unfinished (items : List (Except String Bytes)) : Prop :=
  serveEncrypted (sampleHost true false) sampleProxy (sampleUpstream items) sampleServed
      (sampleBody "llama3") =
    [.stream (.encryptedProxyResponse "1" [] [] aadVersion none (some true)),
      .forward ⟨"/api/chat", normalizeRemoteBody (sampleHost true false) sampleConfig
        (sampleBody "llama3"), requestedModel (sampleBody "llama3")⟩] ∧
  ¬ Answered .transparent sampleConfig sampleServed (.ok items) []

private theorem unfinished_of_silent {items : List (Except String Bytes)}
    (nothing : readText (okItems items) = []) : Unfinished items := by
  refine ⟨?_, not_answered_nil⟩
  have able : CanSeal (sampleHost true false).crypto sampleConfig sampleServed.roomId
      sampleServed.consumerEphemeralPk := by decide
  have planned : plannedChunks (sampleHost true false).crypto sampleConfig (sampleUpstream items)
      sampleServed streamChunkBytes (readText (okItems items)) = [] := by
    rw [nothing]
    rfl
  have streamed : streamEncryptedAnswer (sampleHost true false) sampleConfig (sampleUpstream items)
      sampleServed.roomId sampleServed.reqId sampleServed.path sampleServed.consumerEphemeralPk
      sampleServed.aadVersion items = [] := by
    rw [streamEncryptedAnswer_eq able items (by rw [planned]; simp), planned]
    rfl
  have acked : canSend (sampleUpstream items)
      (.encryptedProxyResponse "1" [] [] aadVersion none (some true)) :=
    show canSend sampleAnswers (.encryptedProxyResponse "1" [] [] aadVersion none (some true)) by
      decide
  have called : callOutcome sampleRegistry (sampleUpstream items) ⟨"/api/chat",
      normalizeRemoteBody (sampleHost true false) sampleConfig (sampleBody "llama3"),
      requestedModel (sampleBody "llama3")⟩ = some (.ok items) := rfl
  have served := @serveEncrypted_eq (sampleUpstream items) sampleServed (sampleHost true false)
    sampleProxy (sampleBody "llama3") (.ok items) acked called
  exact served.trans (congrArg (_ :: _ :: ·) streamed)

/-- When a swarm provider answers in full: the backend takes the request, its stream
ends properly and its chunks can be sealed. -/
def SwarmAnswersInFull (P : Primitives) (config : ClientConfig) (request : EncryptedRequest) :
    Except String (List (Except String Bytes)) → Prop
  | .error _ => False
  | .ok items => EndsMarked reverseChunkBytes items ∧
    CanSeal P config request.roomId request.consumerEphemeralPk

/-- The chunks that a served request is answered with. -/
theorem serveSwarmEncrypted_chunks (proxy : ProxyState) (peer : PeerId) (body : Json)
    {upstream : Except String (List (Except String Bytes))}
    (called : callOutcome proxy.registry answers
      ⟨request.path, normalizeRemoteBody host proxy.config body,
        requestedModel (normalizeRemoteBody host proxy.config body)⟩ = some upstream) :
    (serveSwarmEncrypted host proxy answers peer request body).2 =
      match upstream with
      | .error _ => []
      | .ok items => reverseChunks host proxy.config answers request items := by
  unfold serveSwarmEncrypted
  simp only [called]
  cases upstream <;> rfl

/-- What a consumer is sent after the acknowledgement is a whole answer or tells the
failure exactly when the backend takes the request and its stream ends properly. -/
theorem swarm_answer_complete_iff (proxy : ProxyState) (peer : PeerId) (body : Json)
    {upstream : Except String (List (Except String Bytes))} (opens : host.crypto.Opens)
    (long : ∀ i, (answers.draws i).nonce.length = 12)
    (called : callOutcome proxy.registry answers
      ⟨request.path, normalizeRemoteBody host proxy.config body,
        requestedModel (normalizeRemoteBody host proxy.config body)⟩ = some upstream) :
    Answered host.crypto proxy.config request upstream
        (serveSwarmEncrypted host proxy answers peer request body).2 ↔
      SwarmAnswersInFull host.crypto proxy.config request upstream := by
  rw [serveSwarmEncrypted_chunks proxy peer body called]
  cases upstream with
  | error error => exact iff_of_false not_failureTold_nil id
  | ok items =>
    exact answered_stream_iff (by decide) opens long (reverseChunks_eq · items)
      (reverseChunks_unable · items)

theorem swarm_answer_complete_iff_sample :
    Answered .transparent sampleConfig sampleServed (.ok [.ok (utf8 "hi")])
        (serveSwarmEncrypted (sampleHost true false) sampleProxy (sampleUpstream [.ok (utf8 "hi")])
          "P" sampleServed (sampleBody "llama3")).2 ↔
      SwarmAnswersInFull .transparent sampleConfig sampleServed (.ok [.ok (utf8 "hi")]) := by
  refine @swarm_answer_complete_iff (sampleUpstream [.ok (utf8 "hi")]) sampleServed
    (sampleHost true false) sampleProxy "P" (sampleBody "llama3") _
    Primitives.transparent_ideal.opens (fun i => ?_) rfl
  simp [sampleUpstream, sampleAnswers]

/-- What the sample request is answered with when no text is read of the stream. -/
private def SwarmUnfinished (upstream : Except String (List (Except String Bytes))) : Prop :=
  (serveSwarmEncrypted (sampleHost true false) sampleProxy { sampleAnswers with upstream } "P"
      sampleServed (sampleBody "llama3")).2 = [] ∧
    ¬ Answered .transparent sampleConfig sampleServed upstream []

private theorem swarmUnfinished_of_silent {upstream : Except String (List (Except String Bytes))}
    (nothing : ∀ items, upstream = .ok items → readText (okItems items) = []) :
    SwarmUnfinished upstream := by
  unfold SwarmUnfinished
  have able : CanSeal (sampleHost true false).crypto sampleConfig sampleServed.roomId
      sampleServed.consumerEphemeralPk := by decide
  have called : callOutcome sampleRegistry { sampleAnswers with upstream } ⟨"/api/chat",
      normalizeRemoteBody (sampleHost true false) sampleConfig (sampleBody "llama3"),
      requestedModel (normalizeRemoteBody (sampleHost true false) sampleConfig
        (sampleBody "llama3"))⟩ = some upstream := rfl
  have chunks := @serveSwarmEncrypted_chunks { sampleAnswers with upstream } sampleServed
    (sampleHost true false) sampleProxy "P" (sampleBody "llama3") upstream called
  rw [chunks]
  cases upstream with
  | error error => exact ⟨rfl, not_failureTold_nil⟩
  | ok items =>
    refine ⟨?_, not_answered_nil⟩
    dsimp only
    rw [show sampleProxy.config = sampleConfig from rfl, reverseChunks_eq able items, nothing items rfl]
    rfl

/-- A backend that refuses, a stream that breaks, a character that is split and an
empty answer all leave the consumer with the acknowledgement alone. -/
theorem swarm_answer_unfinished :
    SwarmUnfinished (.error "connection refused") ∧
      SwarmUnfinished (.ok [.error "connection reset"]) ∧
      SwarmUnfinished (.ok [.ok [0xC3], .ok [0xA9]]) ∧ SwarmUnfinished (.ok []) := by
  refine ⟨swarmUnfinished_of_silent ?_, swarmUnfinished_of_silent ?_, swarmUnfinished_of_silent ?_,
    swarmUnfinished_of_silent ?_⟩
  · rintro items ⟨⟩
  · rintro items ⟨⟩
    rfl
  · rintro items ⟨⟩
    decide
  · rintro items ⟨⟩
    rfl

end MtrxPeer
