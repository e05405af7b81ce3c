import MtrxPeer.Reordering
import MtrxPeer.SealedStream
import MtrxPeer.SwarmAnswers

/-! The chunks of an encrypted response as a swarm consumer assembles them: in order
of their numbers, into lines, from the acknowledgement on. -/
namespace MtrxPeer

open Function (update update_of_ne update_self)

/-! ## Lines -/

/-- The lines of a text that are not blank, each with a newline. -/
def nonBlankLines (text : String) : List String :=
  (((text.toList.splitOn '\n').map String.ofList).filter fun line => !isBlank line).map (· ++ "\n")

private theorem splitOn_cons (c : Char) (rest : List Char) :
    (c :: rest).splitOn '\n' =
      if c = '\n' then [] :: rest.splitOn '\n' else (rest.splitOn '\n').modifyHead (c :: ·) := by
  rw [List.splitOn, List.splitOnP_cons_eq_if_modifyHead]
  simp only [beq_iff_eq]
  rfl

/-- What was cut off complete stays as it is when more of the text comes. -/
theorem cutLines_append (text more : List Char) :
    cutLines (text ++ more) =
      ((cutLines text).1 ++ (cutLines ((cutLines text).2 ++ more)).1,
        (cutLines ((cutLines text).2 ++ more)).2) := by
  induction text with
  | nil => rfl
  | cons c rest ih =>
    rw [List.cons_append, cutLines, ih]
    by_cases newline : c = '\n'
    · simp only [cutLines, if_pos newline, List.cons_append]
    · cases complete : (cutLines rest).1 with
      | nil =>
        simp only [cutLines, if_neg newline, complete, List.nil_append, List.cons_append]
      | cons line others =>
        simp only [cutLines, if_neg newline, complete, List.cons_append]

/-- A complete line ends in the only newline it has. -/
theorem cutLines_complete {text line : List Char} (member : line ∈ (cutLines text).1) :
    line = line.dropLast ++ ['\n'] := by
  induction text generalizing line with
  | nil => cases member
  | cons c rest ih =>
    unfold cutLines at member
    split at member
    rename_i complete tail cut
    rw [cut] at ih
    split at member
    · rename_i newline
      rcases List.mem_cons.mp member with rfl | older
      · rw [newline]
        rfl
      · exact ih older
    · cases complete with
      | nil => cases member
      | cons first others =>
        rcases List.mem_cons.mp member with rfl | older
        · have ends := ih List.mem_cons_self
          have nonempty : first ≠ [] := by
            rw [ends]
            simp
          rw [List.dropLast_cons_of_ne_nil nonempty, List.cons_append, ← ends]
        · exact ih (List.mem_cons_of_mem _ older)

/-- The lines that are cut off are what lies between newlines. -/
theorem splitOn_cutLines (text : List Char) :
    text.splitOn '\n' = (cutLines text).1.map List.dropLast ++ [(cutLines text).2] := by
  induction text with
  | nil => rfl
  | cons c rest ih =>
    rw [splitOn_cons, ih]
    by_cases newline : c = '\n'
    · simp only [cutLines, if_pos newline, List.map_cons, List.dropLast_singleton, List.cons_append]
    · cases complete : (cutLines rest).1 with
      | nil => simp [cutLines, newline, complete]
      | cons line others =>
        have among : line ∈ (cutLines rest).1 := by
          rw [complete]
          exact List.mem_cons_self
        have nonempty : line ≠ [] := by
          rw [cutLines_complete among]
          simp
        simp [cutLines, newline, complete, List.dropLast_cons_of_ne_nil nonempty]

/-- What is left over has no newline. -/
theorem newline_notMem_cutLines (text : List Char) : '\n' ∉ (cutLines text).2 := by
  induction text with
  | nil => simp [cutLines]
  | cons c rest ih =>
    unfold cutLines
    split
    rename_i complete tail cut
    rw [cut] at ih
    split
    · exact ih
    · rename_i other
      cases complete with
      | nil =>
        intro member
        rcases List.mem_cons.mp member with same | older
        · exact other same.symm
        · exact ih older
      | cons line others => exact ih

/-- A line is cut off at its newline. -/
theorem cutLines_line {line : List Char} (one : '\n' ∉ line) (rest : List Char) :
    cutLines (line ++ '\n' :: rest) = ((line ++ ['\n']) :: (cutLines rest).1, (cutLines rest).2) := by
  induction line with
  | nil => simp [cutLines]
  | cons c line ih =>
    obtain ⟨other, later⟩ := not_or.mp (mt List.mem_cons.mpr one)
    rw [List.cons_append, cutLines, ih later]
    simp [Ne.symm other]

theorem stripLine_newline (line : List Char) :
    stripLine (line ++ ['\n']) = if line.getLast? = some '\r' then line.dropLast else line := by
  rcases List.eq_nil_or_concat line with rfl | ⟨front, last, rfl⟩
  · rfl
  · by_cases carriage : last = '\r'
    · subst carriage
      simp [stripLine]
    · simp [stripLine, carriage]

/-- Texts without a newline, each ended by one, are the lines of what they make up. -/
theorem lines_flatMap {texts : List (List Char)} (one : ∀ line ∈ texts, '\n' ∉ line)
    (plain : ∀ line ∈ texts, line.getLast? ≠ some '\r') :
    lines (String.ofList (texts.flatMap (· ++ ['\n']))) = texts.map String.ofList := by
  have cut : cutLines (texts.flatMap (· ++ ['\n'])) = (texts.map (· ++ ['\n']), []) := by
    clear plain
    induction texts with
    | nil => rfl
    | cons line rest ih =>
      rw [List.flatMap_cons, List.append_assoc, List.singleton_append,
        cutLines_line (one line List.mem_cons_self),
        ih fun other member => one other (List.mem_cons_of_mem line member)]
      rfl
  simp only [lines, String.toList_ofList, cut, if_true, List.append_nil, List.map_map]
  apply List.map_congr_left
  intro line member
  rw [Function.comp_apply, Function.comp_apply, stripLine_newline, if_neg (plain line member)]

theorem cutLines_rest {line : List Char} (one : '\n' ∉ line) : cutLines line = ([], line) := by
  induction line with
  | nil => rfl
  | cons c line ih =>
    obtain ⟨other, later⟩ := not_or.mp (mt List.mem_cons.mpr one)
    rw [cutLines, ih later]
    simp [Ne.symm other]

/-! ## What has been handed over -/

/-- The complete lines of what was read, without the blank ones. -/
def completeLines (text : String) : List String := (takeLines text).1.filter fun line => !isBlank line

/-- The line that is not complete. -/
def partialLine (text : String) : String := (takeLines text).2

/-- A part that comes next completes lines and leaves another. -/
theorem takeLines_append (text more : String) :
    completeLines (text ++ more) =
        completeLines text ++ (takeLines (partialLine text ++ more)).1.filter (!isBlank ·) ∧
      partialLine (text ++ more) = (takeLines (partialLine text ++ more)).2 := by
  have cut := cutLines_append text.toList more.toList
  simp only [takeLines, partialLine, completeLines, String.toList_append, String.toList_ofList, cut,
    List.map_append, List.filter_append, and_self]

private theorem isBlank_line (line : List Char) :
    isBlank (String.ofList (line ++ ['\n'])) = isBlank (String.ofList line) := by
  simp [isBlank, isWhitespace]

private theorem nonBlank_complete (lines : List (List Char))
    (ends : ∀ line ∈ lines, line = line.dropLast ++ ['\n']) :
    (lines.map String.ofList).filter (fun line => !isBlank line) =
      (((lines.map List.dropLast).map String.ofList).filter fun line => !isBlank line).map
        (· ++ "\n") := by
  induction lines with
  | nil => rfl
  | cons line others ih =>
    have same := ends line List.mem_cons_self
    have rest := ih fun line member => ends line (List.mem_cons_of_mem _ member)
    have blank := isBlank_line line.dropLast
    rw [← same] at blank
    have appended : String.ofList line.dropLast ++ "\n" = String.ofList line := by
      conv_rhs => rw [same]
      simp [String.ofList_append]
    simp only [List.map_cons, List.filter_cons, blank, rest]
    split
    · rw [List.map_cons, appended]
    · rfl

private theorem streamTail_eq {tail : List Char} (missing : '\n' ∉ tail) :
    streamTail (String.ofList tail) =
      (([tail].map String.ofList).filter fun line => !isBlank line).map (· ++ "\n") := by
  have unended : tail.getLast? ≠ some '\n' := fun last => missing (List.mem_of_getLast? last)
  unfold streamTail
  by_cases blank : isBlank (String.ofList tail)
  · simp [blank]
  · simp [blank, unended]

/-- With the rest of the last buffer the lines are those of the text. -/
theorem completeLines_tail (text : String) :
    completeLines text ++ streamTail (partialLine text) = nonBlankLines text := by
  have complete : completeLines text = ((cutLines text.toList).1.map String.ofList).filter
      (fun line => !isBlank line) := rfl
  have rest : partialLine text = String.ofList (cutLines text.toList).2 := rfl
  rw [complete, rest, nonBlank_complete _ fun _ => cutLines_complete,
    streamTail_eq (newline_notMem_cutLines _), nonBlankLines, splitOn_cutLines, List.map_append,
    List.filter_append, List.map_append]

variable {host : Host} {consumer provider : ClientConfig} {reqId path roomId : String}
  {ephemeral pk : Bytes} {arrived : List Nat}

section Stream

variable {P : Primitives} {ephemeralPk : Bytes}
  (stream : SealedStream P provider reqId path roomId ephemeralPk)

/-- The text of the first chunks. -/
def SealedStream.joined (k : Nat) : String := String.join (stream.texts.take k)

/-- What a caller has been handed once the first chunks were read. -/
def SealedStream.handed (k : Nat) : List String :=
  completeLines (stream.joined k) ++
    if k = stream.texts.length then streamTail (partialLine (stream.joined k)) else []

theorem SealedStream.joined_succ {k : Nat} (bound : k < stream.texts.length) :
    stream.joined (k + 1) = stream.joined k ++ stream.texts[k] := by
  rw [SealedStream.joined, SealedStream.joined, List.take_succ_eq_append_getElem bound, String.join,
    List.foldl_append]
  rfl

/-- At the end the caller has the lines of the text. -/
theorem SealedStream.handed_all : stream.handed stream.texts.length = nonBlankLines stream.text := by
  rw [SealedStream.handed, if_pos rfl, completeLines_tail, SealedStream.joined, List.take_length,
    SealedStream.text]

theorem SealedStream.handed_zero : stream.handed 0 = [] := by
  have some' : 0 ≠ stream.texts.length := fun empty =>
    stream.nonempty (List.length_eq_zero_iff.mp empty.symm)
  rw [SealedStream.handed, if_neg some']
  rfl

/-- The lines handed over are never taken back. -/
theorem SealedStream.handed_prefix {k : Nat} (le : k ≤ stream.texts.length) :
    stream.handed k <+: nonBlankLines stream.text := by
  rw [← stream.handed_all]
  induction le using Nat.decreasingInduction with
  | self => exact List.prefix_refl _
  | of_succ k below ih =>
    refine List.IsPrefix.trans ?_ ih
    rw [SealedStream.handed, SealedStream.handed, if_neg (Nat.ne_of_lt below), List.append_nil,
      stream.joined_succ below, (takeLines_append _ _).1, List.append_assoc]
    exact List.prefix_append _ _

end Stream

/-! ## Draining -/

/-- The context of a stream is what its chunks are read with. -/
structure PendingEncryptedStreamCtx.Reads (ctx : PendingEncryptedStreamCtx) (ephemeral : Bytes)
    (path roomId : String) (pk : Bytes) : Prop where
  secret : ctx.consumerEphemeralSecret = ephemeral
  path : ctx.path = path
  room : ctx.roomId = roomId
  key : ctx.providerStaticPublic = pk

section Drain

variable (keys : SharedKeys host consumer provider roomId pk)
  (stream : SealedStream host.crypto provider reqId path roomId (host.crypto.publicKey ephemeral))

include keys

/-- A drain hands over the lines that are complete before the first chunk that is
missing. -/
theorem drainEncryptedStreamChunks_eq (sent : ∀ i ∈ arrived, i < stream.texts.length)
    (ctx : PendingEncryptedStreamCtx) {fuel : Nat} (reads : ctx.Reads ephemeral path roomId pk)
    (held : Buffered EncryptedStreamChunkData.seq stream.chunk arrived ctx.nextSeq ctx.reorder)
    (carried : ctx.lineBuf = partialLine (stream.joined ctx.nextSeq))
    (enough : ctx.reorder.length ≤ fuel) (opened : ctx.nextSeq < stream.texts.length) :
    ∃ reorder parts,
      Buffered EncryptedStreamChunkData.seq stream.chunk arrived (frontier arrived) reorder ∧
      stream.handed ctx.nextSeq ++ parts = stream.handed (frontier arrived) ∧
      drainEncryptedStreamChunks host consumer reqId fuel ctx =
        (parts, if frontier arrived = stream.texts.length then .finished
          else .waiting { ctx with
            lineBuf := partialLine (stream.joined (frontier arrived))
            nextSeq := frontier arrived
            reorder }) := by
  induction fuel generalizing ctx with
  | zero =>
    have empty : ctx.reorder = [] := List.length_eq_zero_iff.mp (Nat.le_zero.mp enough)
    have missing : ctx.nextSeq ∉ arrived := by
      intro came
      simpa [empty] using held.kept _ came (Nat.le_refl _)
    have stops := held.frontier_eq missing
    refine ⟨ctx.reorder, [], by rw [stops]; exact held, by rw [stops, List.append_nil], ?_⟩
    rw [stops, if_neg (Nat.ne_of_lt opened), ← carried]
    rfl
  | succ fuel ih =>
    unfold drainEncryptedStreamChunks
    by_cases came : ctx.nextSeq ∈ arrived
    · have later := held.advance stream.numbered came
      have shrinks := held.advance_length stream.numbered came
      have text : decryptProxyChunk host consumer reqId ctx.path ctx.nextSeq ctx.roomId
          ctx.consumerEphemeralSecret ctx.providerStaticPublic (stream.chunk ctx.nextSeq).nonce
          (stream.chunk ctx.nextSeq).ciphertext = .ok stream.texts[ctx.nextSeq] := by
        rw [reads.path, reads.room, reads.secret, reads.key]
        exact stream.opened keys _ opened
      obtain ⟨completed, left⟩ :=
        takeLines_append (stream.joined ctx.nextSeq) stream.texts[ctx.nextSeq]
      rw [← stream.joined_succ opened, ← carried] at completed left
      have handed : stream.handed ctx.nextSeq = completeLines (stream.joined ctx.nextSeq) := by
        rw [SealedStream.handed, if_neg (Nat.ne_of_lt opened), List.append_nil]
      rw [held.find_next stream.numbered came]
      simp only [stream.numbered, text, stream.last, decide_eq_true_eq]
      by_cases ends : ctx.nextSeq + 1 = stream.texts.length
      · have complete : frontier arrived = stream.texts.length :=
          Nat.le_antisymm (frontier_le sent) (by have := later.next_le; omega)
        refine ⟨_, _, by rw [complete, ← ends]; exact later, ?_, by rw [if_pos ends, if_pos complete]⟩
        rw [handed, complete, ← ends, SealedStream.handed, if_pos ends, completed, left,
          List.append_assoc]
      · let advanced : PendingEncryptedStreamCtx := { ctx with
          lineBuf := (takeLines (ctx.lineBuf ++ stream.texts[ctx.nextSeq])).2
          nextSeq := ctx.nextSeq + 1
          reorder := ctx.reorder.filter fun other => other.seq ≠ ctx.nextSeq }
        have reads' : advanced.Reads ephemeral path roomId pk :=
          ⟨reads.secret, reads.path, reads.room, reads.key⟩
        have enough' : advanced.reorder.length ≤ fuel := by
          simp only [advanced]
          omega
        have opened' : advanced.nextSeq < stream.texts.length := by
          simp only [advanced]
          omega
        obtain ⟨reorder, parts, after, rest, drained⟩ :=
          ih advanced reads' later left.symm enough' opened'
        refine ⟨reorder, _, after, ?_, by rw [if_neg ends, drained]⟩
        rw [handed, ← List.append_assoc, ← completed, ← rest, SealedStream.handed, if_neg ends,
          List.append_nil]
    · have stops := held.frontier_eq came
      refine ⟨ctx.reorder, [], by rw [stops]; exact held, by rw [stops, List.append_nil], ?_⟩
      rw [held.find_missing came, stops, if_neg (Nat.ne_of_lt opened), ← carried]

end Drain

/-! ## Events of an answer -/

/-- Something that comes of a streamed answer. -/
inductive AnswerPart where
  /-- The provider's acknowledgement. -/
  | ack (nonce ciphertext : Bytes) (version : Nat)
  /-- A chunk, in a request of its own. -/
  | chunk (i : Nat) (source : PeerId) (version : Nat) (answers : Answers)

/-- The numbers of the chunks that came. -/
def AnswerPart.numbers : AnswerPart → List Nat
  | .ack .. => []
  | .chunk i .. => [i]

def AnswerPart.acknowledges : AnswerPart → Bool
  | .ack .. => true
  | .chunk .. => false

/-- The event of a manager that an arrival is. -/
def SealedStream.event {P : Primitives} {ephemeralPk : Bytes}
    (stream : SealedStream P provider reqId path roomId ephemeralPk) (peer : PeerId)
    (id : OutboundRequestId) : AnswerPart → SwarmEvent
  | .ack nonce ciphertext version =>
    .response peer id (.encryptedProxyResponse reqId nonce ciphertext version none (some true))
  | .chunk i source version answers =>
    .request source (stream.message version i) answers

/-- A noted request has what its streamed answer is read with. -/
structure PendingOutboundProxy.Reads (pending : PendingOutboundProxy) (peer : PeerId)
    (ephemeral : Bytes) (path roomId : String) (pk : Bytes) : Prop where
  secret : pending.consumerEphemeralSecret = some ephemeral
  path : pending.path = path
  room : pending.roomId = some roomId
  key : pending.providerStaticPublic = some pk
  provider : pending.libp2pPeer = peer

theorem mergeChunks_singleton (buffer : List EncryptedStreamChunkData)
    (chunk : EncryptedStreamChunkData) :
    mergeChunks buffer [chunk] = chunk :: buffer.filter fun other => other.seq ≠ chunk.seq := by
  have same (other : EncryptedStreamChunkData) :
      ([chunk].all fun kept => decide (kept.seq ≠ other.seq)) = decide (other.seq ≠ chunk.seq) := by
    simp [eq_comm]
  rw [mergeChunks, List.singleton_append]
  simp only [same]

section Events

variable (stream : SealedStream host.crypto provider reqId path roomId
  (host.crypto.publicKey ephemeral)) (peer : PeerId) (id : OutboundRequestId) (pk : Bytes)

/-- What a manager keeps of an answer: chunks that came before the acknowledgement,
a stream that is not complete, or nothing. -/
inductive Assembling (arrived : List Nat) : (acked : Bool) → SwarmState → Prop where
  | early {s : SwarmState} (pending : PendingOutboundProxy) (waits : s.pendingProxyByReqId reqId)
      (noted : s.pendingProxyByOutboundId id = some pending)
      (reads : pending.Reads peer ephemeral path roomId pk)
      (unopened : s.pendingEncryptedStreams reqId = none)
      (held : Buffered EncryptedStreamChunkData.seq stream.chunk arrived 0
        (s.pendingEncryptedStreamEarly reqId)) : Assembling arrived false s
  | opened {s : SwarmState} (ctx : PendingEncryptedStreamCtx) (waits : s.pendingProxyByReqId reqId)
      (answered : s.pendingProxyByOutboundId id = none)
      (kept : s.pendingEncryptedStreams reqId = some ctx)
      (reads : ctx.Reads ephemeral path roomId pk) (next : ctx.nextSeq = frontier arrived)
      (missing : frontier arrived < stream.texts.length)
      (carried : ctx.lineBuf = partialLine (stream.joined (frontier arrived)))
      (held : Buffered EncryptedStreamChunkData.seq stream.chunk arrived (frontier arrived)
        ctx.reorder) : Assembling arrived true s
  | complete {s : SwarmState} (gone : s.pendingProxyByReqId reqId = false)
      (answered : s.pendingProxyByOutboundId id = none)
      (closed : s.pendingEncryptedStreams reqId = none)
      (empty : s.pendingEncryptedStreamEarly reqId = [])
      (all : frontier arrived = stream.texts.length) : Assembling arrived true s

/-- What the caller has heard of an answer. -/
def SealedStream.heard {P : Primitives} {ephemeralPk : Bytes}
    (stream : SealedStream P provider reqId path roomId ephemeralPk) (acked : Bool)
    (arrived : List Nat) : List Heard :=
  if acked then
    (stream.handed (frontier arrived)).map (fun line => Heard.item (.ok line)) ++
      if frontier arrived = stream.texts.length then [.ended] else []
  else []

theorem SealedStream.heard_unacknowledged {P : Primitives} {ephemeralPk : Bytes}
    (stream : SealedStream P provider reqId path roomId ephemeralPk) (arrived : List Nat) :
    stream.heard false arrived = [] := if_neg Bool.false_ne_true

end Events

/-! ## One event -/

theorem drainStream_proxy {m : SwarmManager} (s : SwarmState) (ctx : PendingEncryptedStreamCtx) :
    (drainStream m s reqId ctx).1.proxy = s.proxy := by
  unfold drainStream
  split
  dsimp only
  split <;> rfl

/-- An answer does not change the configuration. -/
theorem event_proxy {m : SwarmManager} {P : Primitives} {ephemeralPk : Bytes}
    (stream : SealedStream P provider reqId path roomId ephemeralPk) (peer : PeerId)
    (id : OutboundRequestId) (s : SwarmState) (arrival : AnswerPart) :
    (swarmStep m s (stream.event peer id arrival)).1.proxy = s.proxy := by
  cases arrival with
  | ack nonce ciphertext version =>
    simp only [SealedStream.event, swarmStep, onSwarmResponse]
    split
    · rfl
    · cases s.pendingProxyByOutboundId id with
      | none => rfl
      | some pending =>
        simp only [if_true, onStreamAck]
        split
        · rfl
        · split
          · exact drainStream_proxy _ _
          · rfl
  | chunk i source version answers =>
    simp only [SealedStream.event, SealedStream.message, swarmStep, onSwarmRequest,
    onEncryptedStreamChunk]
    split
    · split
      · exact drainStream_proxy _ _
      · rfl
    · rfl

section Steps

variable {m : SwarmManager} {s : SwarmState} (peer : PeerId) (id : OutboundRequestId)
  (keys : SharedKeys m.host s.proxy.config provider roomId pk)
  (stream : SealedStream m.host.crypto provider reqId path roomId (m.host.crypto.publicKey ephemeral))

include keys

/-- Draining for a caller that waits. -/
theorem drainStream_assembling (sent : ∀ i ∈ arrived, i < stream.texts.length)
    (ctx : PendingEncryptedStreamCtx) (waits : s.pendingProxyByReqId reqId)
    (answered : s.pendingProxyByOutboundId id = none) (reads : ctx.Reads ephemeral path roomId pk)
    (held : Buffered EncryptedStreamChunkData.seq stream.chunk arrived ctx.nextSeq ctx.reorder)
    (carried : ctx.lineBuf = partialLine (stream.joined ctx.nextSeq))
    (opened : ctx.nextSeq < stream.texts.length) :
    Assembling stream peer id pk arrived true (drainStream m s reqId ctx).1 ∧
      (stream.handed ctx.nextSeq).map (fun line => Heard.item (.ok line)) ++
          swarmHeard reqId s (drainStream m s reqId ctx).2 (drainStream m s reqId ctx).1 =
        stream.heard true arrived := by
  obtain ⟨reorder, parts, after, handed, drained⟩ := drainEncryptedStreamChunks_eq keys stream sent
    ctx reads held carried (Nat.le_refl _) opened
  have heardParts : (parts.map fun part => SwarmOutput.deliver reqId (.ok part)).filterMap
      (SwarmOutput.heardBy reqId) = parts.map fun line => Heard.item (.ok line) := by
    rw [List.filterMap_map, ← List.filterMap_eq_map]
    congr 1
    funext line
    simp [SwarmOutput.heardBy]
  have capped := frontier_le sent
  rw [drainStream, drained]
  by_cases complete : frontier arrived = stream.texts.length
  · simp only [if_pos complete]
    refine ⟨.complete ?_ ?_ ?_ ?_ complete, ?_⟩
    · simp [SwarmState.dropCaller, SwarmState.dropStreams]
    · simpa [SwarmState.dropCaller, SwarmState.dropStreams] using answered
    · simp [SwarmState.dropCaller, SwarmState.dropStreams]
    · simp [SwarmState.dropCaller, SwarmState.dropStreams]
    · have gone : ((s.dropCaller reqId).dropStreams reqId).pendingProxyByReqId reqId = false := by
        simp [SwarmState.dropCaller, SwarmState.dropStreams]
      rw [swarmHeard, heardParts, waits, gone, SealedStream.heard, if_pos rfl, if_pos complete,
        ← handed, List.map_append, List.append_assoc]
      rfl
  · simp only [if_neg complete]
    refine ⟨.opened _ waits answered (update_self ..) ?_ rfl (by omega) rfl after, ?_⟩
    · exact ⟨reads.secret, reads.path, reads.room, reads.key⟩
    · rw [swarmHeard, heardParts, heardEnd_self, SealedStream.heard, if_pos rfl, if_neg complete,
        ← handed, List.map_append, List.append_nil, List.append_nil]

omit keys in
private theorem heard_nothing {acked acked' : Bool} {arrived' : List Nat} {s' : SwarmState}
    {outputs : List SwarmOutput} (silent : outputs.filterMap (SwarmOutput.heardBy reqId) = [])
    (waiting : s'.pendingProxyByReqId reqId = s.pendingProxyByReqId reqId)
    (same : stream.heard acked arrived = stream.heard acked' arrived') :
    stream.heard acked arrived ++ swarmHeard reqId s outputs s' = stream.heard acked' arrived' := by
  rw [swarmHeard, silent, waiting, heardEnd_self, List.append_nil, List.append_nil, same]

/-- The acknowledgement opens the stream and takes in what came before it. -/
theorem acknowledged_assembling (sent : ∀ i ∈ arrived, i < stream.texts.length) {acked : Bool}
    (held : Assembling stream peer id pk arrived acked s) (nonce ciphertext : Bytes) (version : Nat) :
    let result := swarmStep m s (stream.event peer id (.ack nonce ciphertext version))
    Assembling stream peer id pk arrived true result.1 ∧
      stream.heard acked arrived ++ swarmHeard reqId s result.2 result.1 =
        stream.heard true arrived := by
  simp only [SealedStream.event, swarmStep, onSwarmResponse]
  cases held with
  | early pending waits noted reads unopened held =>
    have other : (some pending).any (fun sent => decide (sent.libp2pPeer ≠ peer)) = false := by
      simp [reads.provider]
    have read : answerKeys pending "encrypted stream" = .ok (roomId, ephemeral, pk) := by
      rw [answerKeys, reads.room, reads.secret, reads.key]
    let emptied : SwarmState := { s.dropSent id with
      pendingEncryptedStreamEarly := update s.pendingEncryptedStreamEarly reqId [] }
    have drained := drainStream_assembling (s := emptied) peer id keys stream sent
      ⟨pending.path, roomId, ephemeral, pk, "", 0, s.pendingEncryptedStreamEarly reqId⟩ waits
      (by simp [emptied, SwarmState.dropSent]) ⟨rfl, reads.path, rfl, rfl⟩ held rfl
      (List.length_pos_iff.mpr stream.nonempty)
    have handled : (onStreamAck m (s.dropSent id) reqId pending) = drainStream m emptied reqId
        ⟨pending.path, roomId, ephemeral, pk, "", 0, s.pendingEncryptedStreamEarly reqId⟩ := by
      have waits' : (s.dropSent id).pendingProxyByReqId reqId = true := waits
      rw [onStreamAck, read]
      simp only [waits', if_true]
      rfl
    rw [noted, other]
    simp only [Bool.false_eq_true, if_false, if_true, handled]
    refine ⟨drained.1, ?_⟩
    rw [← drained.2, stream.handed_zero]
    rfl
  | opened ctx waits answered kept reads next missing carried held =>
    rw [answered]
    exact ⟨.opened ctx waits (update_self ..) kept reads next missing carried held,
      heard_nothing stream rfl rfl rfl⟩
  | complete gone answered closed empty all =>
    rw [answered]
    exact ⟨.complete gone (update_self ..) closed empty all, heard_nothing stream rfl rfl rfl⟩

/-- A chunk is kept until the acknowledgement, or taken in. -/
theorem chunk_assembling (sent : ∀ i ∈ arrived, i < stream.texts.length) {acked : Bool}
    (held : Assembling stream peer id pk arrived acked s) {i : Nat} (bound : i < stream.texts.length)
    (source : PeerId) (version : Nat) (answers : Answers) :
    let result := swarmStep m s (stream.event peer id (.chunk i source version answers))
    Assembling stream peer id pk (arrived ++ [i]) acked result.1 ∧
      stream.heard acked arrived ++ swarmHeard reqId s result.2 result.1 =
        stream.heard acked (arrived ++ [i]) := by
  have sent' := forall_mem_snoc sent bound
  have inserted (next : Nat) (buffer : List EncryptedStreamChunkData)
      (held : Buffered EncryptedStreamChunkData.seq stream.chunk arrived next buffer) :
      Buffered EncryptedStreamChunkData.seq stream.chunk (arrived ++ [i]) next
        (mergeChunks buffer [stream.chunk i]) := by
    rw [mergeChunks_singleton, stream.numbered]
    exact held.insert stream.numbered i
  simp only [SealedStream.event, SealedStream.message, swarmStep, onSwarmRequest,
    onEncryptedStreamChunk]
  cases held with
  | early pending waits noted reads unopened held =>
    rw [if_pos waits, unopened]
    refine ⟨.early pending waits noted reads unopened ?_, ?_⟩
    · simp only [update_self]
      exact inserted 0 _ held
    · refine heard_nothing stream (by simp) rfl ?_
      rw [stream.heard_unacknowledged, stream.heard_unacknowledged]
  | opened ctx waits answered kept reads next missing carried held =>
    rw [if_pos waits, kept]
    rw [← next] at missing carried held
    obtain ⟨after, heard⟩ := drainStream_assembling peer id keys stream sent'
      { ctx with reorder := mergeChunks ctx.reorder [stream.chunk i] } waits answered
      ⟨reads.secret, reads.path, reads.room, reads.key⟩ (inserted _ _ held) carried missing
    have before : stream.heard true arrived =
        (stream.handed ctx.nextSeq).map fun line => Heard.item (.ok line) := by
      rw [SealedStream.heard, if_pos rfl, ← next, if_neg (Nat.ne_of_lt missing), List.append_nil]
    refine ⟨after, ?_⟩
    rw [← heard, before, swarmHeard, swarmHeard, List.filterMap_append, heardBy_respond,
      List.append_nil]
  | complete gone answered closed empty all =>
    have stays : frontier (arrived ++ [i]) = stream.texts.length :=
      Nat.le_antisymm (frontier_le sent') (all ▸ frontier_le_append arrived [i])
    rw [if_neg (by simp [gone])]
    refine ⟨.complete gone answered closed empty stays, heard_nothing stream (by simp) rfl ?_⟩
    simp only [SealedStream.heard, all, stays]

end Steps

/-! ## A whole answer -/

section Run

variable {m : SwarmManager} {s : SwarmState} (peer : PeerId) (id : OutboundRequestId)
  (stream : SealedStream m.host.crypto provider reqId path roomId (m.host.crypto.publicKey ephemeral))

/-- A run of arrivals. -/
theorem arrivals_assembling (keys : SharedKeys m.host s.proxy.config provider roomId pk)
    (sent : ∀ i ∈ arrived, i < stream.texts.length) {acked : Bool}
    (held : Assembling stream peer id pk arrived acked s) (arrivals : List AnswerPart)
    (bound : ∀ i ∈ arrivals.flatMap AnswerPart.numbers, i < stream.texts.length) :
    let events := arrivals.map (stream.event peer id)
    let acked' := acked || arrivals.any AnswerPart.acknowledges
    let arrived' := arrived ++ arrivals.flatMap AnswerPart.numbers
    Assembling stream peer id pk arrived' acked' ((swarmMachine m).after s events) ∧
      stream.heard acked arrived ++ (swarmMachine m).trace (swarmHeard reqId) s events =
        stream.heard acked' arrived' := by
  induction arrivals generalizing s arrived acked with
  | nil =>
    simp only [List.map_nil, List.any_nil, Bool.or_false, List.flatMap_nil, List.append_nil]
    exact ⟨held, List.append_nil _⟩
  | cons arrival rest ih =>
    have first (i : Nat) (member : i ∈ arrival.numbers) : i < stream.texts.length :=
      bound i (by rw [List.flatMap_cons]; exact List.mem_append_left _ member)
    have later (i : Nat) (member : i ∈ rest.flatMap AnswerPart.numbers) : i < stream.texts.length :=
      bound i (by rw [List.flatMap_cons]; exact List.mem_append_right _ member)
    have sent' : ∀ i ∈ arrived ++ arrival.numbers, i < stream.texts.length := fun i member =>
      (List.mem_append.mp member).elim (sent i) (first i)
    obtain ⟨stepped, heard⟩ : Assembling stream peer id pk (arrived ++ arrival.numbers)
        (acked || arrival.acknowledges) (swarmStep m s (stream.event peer id arrival)).1 ∧
        stream.heard acked arrived ++ swarmHeard reqId s
          (swarmStep m s (stream.event peer id arrival)).2
          (swarmStep m s (stream.event peer id arrival)).1 =
        stream.heard (acked || arrival.acknowledges) (arrived ++ arrival.numbers) := by
      cases arrival with
      | ack nonce ciphertext version =>
        rw [AnswerPart.acknowledges, Bool.or_true, AnswerPart.numbers, List.append_nil]
        exact acknowledged_assembling peer id keys stream sent held nonce ciphertext version
      | chunk i source version answers =>
        rw [AnswerPart.acknowledges, Bool.or_false, AnswerPart.numbers]
        exact chunk_assembling peer id keys stream sent held (first i (List.mem_singleton_self i))
          source version answers
    have keys' : SharedKeys m.host (swarmStep m s (stream.event peer id arrival)).1.proxy.config
        provider roomId pk := by
      rw [event_proxy]
      exact keys
    obtain ⟨after, trace⟩ := ih keys' sent' stepped later
    simp only [List.map_cons, List.any_cons, List.flatMap_cons, ← List.append_assoc, ← Bool.or_assoc]
    refine ⟨after, ?_⟩
    rw [← trace, ← heard, List.append_assoc]
    rfl

/-- The caller of a request waits for its streamed answer, of which nothing came. -/
structure AwaitsStream (s : SwarmState) (reqId path roomId : String) (ephemeral pk : Bytes)
    (peer : PeerId) (id : OutboundRequestId) : Prop where
  waits : s.pendingProxyByReqId reqId
  noted : ∃ pending, s.pendingProxyByOutboundId id = some pending ∧
    pending.Reads peer ephemeral path roomId pk
  unopened : s.pendingEncryptedStreams reqId = none
  nothing : s.pendingEncryptedStreamEarly reqId = []

omit stream in
private theorem outboundMessage_reads {config : ClientConfig} {catalogPk : Option String}
    {draw : Draw} {pending kept : PendingOutboundProxy} {msg : StreamMessage}
    (e2ee : pending.useE2ee = true)
    (made : outboundMessage m config catalogPk draw pending = .ok (msg, kept)) :
    ∃ roomId pk nonce ciphertext auth,
      msg = .encryptedProxyRequest pending.reqId pending.path roomId
        (m.host.crypto.publicKey draw.secret) nonce ciphertext aadVersion auth ∧
      kept.Reads pending.libp2pPeer draw.secret pending.path roomId pk := by
  unfold outboundMessage at made
  rw [if_pos e2ee] at made
  split at made
  · cases made
  · rename_i roomId room
    split at made
    · cases made
    · rename_i pk resolved
      split at made
      · cases made
      · rename_i sealed_ secret ran
        obtain ⟨rfl, rfl⟩ := Prod.mk.inj (Except.ok.inj made)
        unfold encryptProxyRequest at ran
        split at ran
        · cases ran
        · obtain ⟨rfl, rfl⟩ := Prod.mk.inj (Except.ok.inj ran)
          exact ⟨roomId, pk, _, _, _, rfl, rfl, rfl, room, rfl, rfl⟩

omit stream in
/-- A caller whose request has just gone out awaits the answer to the key it was
sealed with. -/
theorem sendOutboundProxy_awaits {pending : PendingOutboundProxy} {sending : Sending}
    {msg : StreamMessage} (waits : s.pendingProxyByReqId pending.reqId)
    (e2ee : pending.useE2ee = true) (room : pending.roomId.isSome)
    (sent : (sendOutboundProxy m s pending sending).2 = [.send peer msg]) :
    ∃ roomId pk nonce ciphertext auth,
      msg = .encryptedProxyRequest pending.reqId pending.path roomId
        (m.host.crypto.publicKey sending.draw.secret) nonce ciphertext aadVersion auth ∧
      AwaitsStream (sendOutboundProxy m s pending sending).1 pending.reqId pending.path roomId
        sending.draw.secret pk peer sending.outboundId := by
  have waits' : (resolveLibp2pPeer m s pending.targetMtrxaiPeer).pendingProxyByReqId
      pending.reqId = true := by
    unfold resolveLibp2pPeer
    split <;> exact waits
  unfold sendOutboundProxy at sent ⊢
  dsimp only at sent ⊢
  split at sent
  · cases sent
  · rename_i connected
    rw [if_neg connected]
    split at sent
    · rename_i error failed
      unfold failProxyRequest deliverLocal at sent
      split at sent <;> simp at sent
    · rename_i msg' kept made
      obtain ⟨rfl, rfl⟩ : _ ∧ msg' = msg := by simpa using sent
      obtain ⟨roomId, pk, nonce, ciphertext, auth, same, reads⟩ :=
        outboundMessage_reads (by exact e2ee) made
      refine ⟨roomId, pk, nonce, ciphertext, auth, same, ?_, ⟨kept, update_self .., reads⟩, ?_, ?_⟩
      · simp [forgetStreams, e2ee, room, SwarmState.dropStreams, SwarmState.noteSent, waits']
      · simp [forgetStreams, e2ee, room, SwarmState.dropStreams, SwarmState.noteSent]
      · simp [forgetStreams, e2ee, room, SwarmState.dropStreams, SwarmState.noteSent]

/-- What a caller hears of a streamed answer: lines of the text, in order and once,
and all of them and the end when the acknowledgement and every chunk have come. -/
structure SealedStream.Assembled {P : Primitives} {ephemeralPk : Bytes}
    (stream : SealedStream P provider reqId path roomId ephemeralPk) (arrivals : List AnswerPart)
    (heard : List Heard) : Prop where
  whole : arrivals.any AnswerPart.acknowledges →
    (∀ i < stream.texts.length, i ∈ arrivals.flatMap AnswerPart.numbers) →
    heard = (nonBlankLines stream.text).map (fun line => Heard.item (.ok line)) ++ [.ended]
  started : ¬ (arrivals.any AnswerPart.acknowledges ∧
      ∀ i < stream.texts.length, i ∈ arrivals.flatMap AnswerPart.numbers) →
    ∃ lines, lines <+: nonBlankLines stream.text ∧
      heard = lines.map fun line => Heard.item (.ok line)

/-- The chunks of a streamed answer and its acknowledgement in any order, each any
number of times. -/
theorem encrypted_stream_assembled (keys : SharedKeys m.host s.proxy.config provider roomId pk)
    (start : AwaitsStream s reqId path roomId ephemeral pk peer id) (arrivals : List AnswerPart)
    (sent : ∀ i ∈ arrivals.flatMap AnswerPart.numbers, i < stream.texts.length) :
    stream.Assembled arrivals
      ((swarmMachine m).trace (swarmHeard reqId) s (arrivals.map (stream.event peer id))) := by
  obtain ⟨pending, noted, reads⟩ := start.noted
  have nothing : Buffered EncryptedStreamChunkData.seq stream.chunk [] 0
      (s.pendingEncryptedStreamEarly reqId) := by
    rw [start.nothing]
    exact .empty _ _
  obtain ⟨-, heard⟩ := arrivals_assembling peer id stream keys (by simp)
    (.early pending start.waits noted reads start.unopened nothing) arrivals sent
  simp only [Bool.false_or, List.nil_append] at heard
  have all : (∀ i < stream.texts.length, i ∈ arrivals.flatMap AnswerPart.numbers) ↔
      frontier (arrivals.flatMap AnswerPart.numbers) = stream.texts.length := by
    have capped := frontier_le sent
    rw [← le_frontier_iff]
    omega
  rw [stream.heard_unacknowledged, List.nil_append] at heard
  rw [heard]
  refine ⟨?_, ?_⟩
  · intro acked came
    rw [SealedStream.heard, if_pos acked, if_pos (all.mp came), all.mp came, stream.handed_all]
  · intro partly
    by_cases acked : arrivals.any AnswerPart.acknowledges
    · refine ⟨_, stream.handed_prefix (frontier_le sent), ?_⟩
      rw [SealedStream.heard, if_pos acked, if_neg fun done => partly ⟨acked, all.mpr done⟩,
        List.append_nil]
    · refine ⟨[], List.nil_prefix, ?_⟩
      rw [SealedStream.heard, if_neg acked]
      rfl

end Run

theorem sampleSwarmKeys : SharedKeys (sampleHost true false) sampleConfig sampleConfig "74"
    (Primitives.transparent.publicKey (roomStaticSecret .transparent
      (deriveRoomRootKey .transparent "t" "74"))) := by
  have mine : roomSecretForProxy .transparent sampleConfig "74" = some "t" := by decide
  refine ⟨Primitives.transparent_agreement, Primitives.transparent_ideal.opens,
    ⟨"t", mine, mine⟩, .derived ?_⟩
  decide

/-- A request that went out to the peer `P`. -/
def sampleSent : PendingOutboundProxy where
  reqId := "p2p_1"
  path := "/api/chat"
  body := sampleBody "llama3"
  targetMtrxaiPeer := "p"
  libp2pPeer := "P"
  attempts := 0
  roomId := some "74"
  consumerEphemeralSecret := some [7]
  providerStaticPublic := some (Primitives.transparent.publicKey (roomStaticSecret .transparent
    (deriveRoomRootKey .transparent "t" "74")))
  useE2ee := true

/-- Its caller waits for the answer. -/
def sampleAwaiting : SwarmState := { sampleSwarm with
  pendingProxyByReqId := update (fun _ => false) "p2p_1" true
  pendingProxyByOutboundId := update (fun _ => none) 0 (some sampleSent) }

theorem sampleAwaits : AwaitsStream sampleAwaiting "p2p_1" "/api/chat" "74" [7]
    (Primitives.transparent.publicKey (roomStaticSecret .transparent
      (deriveRoomRootKey .transparent "t" "74"))) "P" 0 where
  waits := by simp [sampleAwaiting]
  noted := ⟨sampleSent, by simp [sampleAwaiting], rfl, rfl, rfl, rfl, rfl⟩
  unopened := rfl
  nothing := rfl

/-- The second chunk comes before the acknowledgement, and again after it. -/
theorem encrypted_stream_assembled_sample :
    let stream := SealedStream.ofTexts (sampleSwarmKeys.canSeal [7]) "p2p_1" "/api/chat"
      ["a\nb", "c\n\nd"] (by simp) (fun _ => List.replicate 12 0) (by simp)
    let arrivals := [.chunk 1 "P" 1 sampleAnswers, .ack [] [] 1, .chunk 1 "P" 1 sampleAnswers,
      .chunk 0 "P" 1 sampleAnswers]
    stream.Assembled arrivals ((swarmMachine (sampleSwarmManager true false)).trace
      (swarmHeard "p2p_1") sampleAwaiting (arrivals.map (stream.event "P" 0))) := by
  intro stream arrivals
  refine encrypted_stream_assembled (m := sampleSwarmManager true false) (s := sampleAwaiting) "P" 0
    stream sampleSwarmKeys sampleAwaits arrivals ?_
  intro i member
  have named : i = 1 ∨ i = 1 ∨ i = 0 := by simpa [arrivals, AnswerPart.numbers] using member
  simp only [stream, SealedStream.ofTexts, List.length_cons, List.length_nil]
  omega

example : nonBlankLines "a\nbc\n\nd" = ["a\n", "bc\n", "d\n"] := by decide

end MtrxPeer
