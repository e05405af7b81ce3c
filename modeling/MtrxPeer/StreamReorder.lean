import MtrxPeer.Reordering
import MtrxPeer.SealedStream

/-! The chunks of an encrypted response as a cluster consumer puts them in order:
whatever order they arrive in and however often, each is handed over once. -/
namespace MtrxPeer

variable {host : Host} {consumer provider : ClientConfig} {reqId path roomId : String}
  {ephemeral pk : Bytes}

/-! ## Parts of a stream -/

/-- The texts numbered from `start` up to `stop`. -/
def segment (texts : List String) (start stop : Nat) : List String :=
  (texts.drop start).take (stop - start)

theorem take_append_segment (texts : List String) {start stop : Nat} (le : start ≤ stop) :
    texts.take start ++ segment texts start stop = texts.take stop := by
  have taken : texts.take start = (texts.take stop).take start := by
    rw [List.take_take, Nat.min_eq_left le]
  rw [segment, ← List.drop_take, taken, List.take_append_drop]

theorem segment_succ (texts : List String) {start stop : Nat} (below : start < stop)
    (bound : start < texts.length) :
    segment texts start stop = texts[start] :: segment texts (start + 1) stop := by
  rw [segment, List.drop_eq_getElem_cons bound]
  obtain ⟨more, rfl⟩ := Nat.exists_eq_add_of_lt below
  rw [show start + more + 1 - start = more + 1 by omega, List.take_succ_cons, segment,
    show start + more + 1 - (start + 1) = more by omega]

theorem segment_append (texts : List String) {start mid stop : Nat} (le : start ≤ mid)
    (le' : mid ≤ stop) :
    segment texts start mid ++ segment texts mid stop = segment texts start stop := by
  apply @List.append_cancel_left _ (texts.take start)
  rw [← List.append_assoc, take_append_segment texts le, take_append_segment texts le',
    take_append_segment texts (Nat.le_trans le le')]

theorem segment_self (texts : List String) (start : Nat) : segment texts start start = [] := by
  simp [segment]

/-! ## Draining -/

/-- A consumer keeps for a stream what it is read with. -/
structure PendingEncryptedStream.Reads (entry : PendingEncryptedStream)
    (ephemeral : Bytes) (path roomId : String) (pk : Bytes) : Prop where
  secret : entry.consumerEphemeralSecret = ephemeral
  path : entry.path = path
  room : entry.roomId = roomId
  key : entry.providerPk = pk

/-- How a drain ends that hands over some texts. -/
def drainOutcome (finished : Prop) [Decidable finished] (parts : List String) :
    EncryptedStreamChunkOutcome :=
  if finished then .finished parts else if parts = [] then .waiting else .progress parts

variable {arrived : List Nat}

section Stream

variable (keys : SharedKeys host consumer provider roomId pk)
  (stream : SealedStream host.crypto provider reqId path roomId (host.crypto.publicKey ephemeral))

include keys

/-- A drain hands over everything up to the first chunk that is missing. -/
theorem drainEncryptedStream_eq (sent : ∀ i ∈ arrived, i < stream.texts.length)
    (entry : PendingEncryptedStream) {fuel : Nat} (parts : List String)
    (reads : entry.Reads ephemeral path roomId pk)
    (held : Buffered EncryptedStreamChunkData.seq stream.chunk arrived entry.nextSeq entry.reorder)
    (enough : entry.reorder.length ≤ fuel) (opened : entry.nextSeq < stream.texts.length) :
    ∃ reorder, Buffered EncryptedStreamChunkData.seq stream.chunk arrived (frontier arrived) reorder ∧
      drainEncryptedStream host consumer reqId fuel entry parts =
        (.ok (drainOutcome (frontier arrived = stream.texts.length)
            (parts ++ segment stream.texts entry.nextSeq (frontier arrived))),
          if frontier arrived = stream.texts.length then none
          else some { entry with nextSeq := frontier arrived, reorder }) := by
  induction fuel generalizing entry parts with
  | zero =>
    have empty : entry.reorder = [] := List.length_eq_zero_iff.mp (Nat.le_zero.mp enough)
    have missing : entry.nextSeq ∉ arrived := by
      intro came
      simpa [empty] using held.kept _ came (Nat.le_refl _)
    have stops := held.frontier_eq missing
    refine ⟨entry.reorder, by rw [stops]; exact held, ?_⟩
    simp [drainEncryptedStream, stops, segment_self, drainOutcome, Nat.ne_of_lt opened]
  | succ fuel ih =>
    unfold drainEncryptedStream
    by_cases came : entry.nextSeq ∈ arrived
    · have later := held.advance stream.numbered came
      have shrinks := held.advance_length stream.numbered came
      have passed := later.next_le
      have text : decryptProxyChunk host consumer reqId entry.path entry.nextSeq entry.roomId
          entry.consumerEphemeralSecret entry.providerPk (stream.chunk entry.nextSeq).nonce
          (stream.chunk entry.nextSeq).ciphertext = .ok stream.texts[entry.nextSeq] := by
        rw [reads.path, reads.room, reads.secret, reads.key]
        exact stream.opened keys _ opened
      rw [held.find_next stream.numbered came]
      simp only [stream.numbered, text, stream.last, decide_eq_true_eq]
      by_cases ends : entry.nextSeq + 1 = stream.texts.length
      · have complete : frontier arrived = stream.texts.length :=
          Nat.le_antisymm (frontier_le sent) (by omega)
        refine ⟨_, by rw [complete, ← ends]; exact later, ?_⟩
        rw [if_pos ends, if_pos complete, complete, segment_succ _ opened opened, ends, segment_self,
          drainOutcome, if_pos rfl]
      · let advanced : PendingEncryptedStream := { entry with
          nextSeq := entry.nextSeq + 1
          reorder := entry.reorder.filter fun other => other.seq ≠ entry.nextSeq }
        have reads' : advanced.Reads ephemeral path roomId pk :=
          ⟨reads.secret, reads.path, reads.room, reads.key⟩
        have enough' : advanced.reorder.length ≤ fuel := by
          simp only [advanced]
          omega
        have opened' : advanced.nextSeq < stream.texts.length := by
          simp only [advanced]
          omega
        obtain ⟨left, after, drained⟩ :=
          ih advanced (parts ++ [stream.texts[entry.nextSeq]]) reads' later enough' opened'
        refine ⟨left, after, ?_⟩
        rw [if_neg ends, segment_succ _ (Nat.lt_of_succ_le passed) opened]
        simpa only [List.append_assoc, List.singleton_append] using drained
    · have stops := held.frontier_eq came
      refine ⟨entry.reorder, by rw [stops]; exact held, ?_⟩
      rw [held.find_missing came]
      simp [stops, segment_self, drainOutcome, Nat.ne_of_lt opened]

/-! ## Receiving -/

/-- What a consumer keeps of a stream of which some chunks arrived: nothing, once
none is missing. -/
def SealedStream.Received (pk : Bytes) (arrived : List Nat) :
    Option PendingEncryptedStream → Prop
  | none => frontier arrived = stream.texts.length
  | some entry => frontier arrived < stream.texts.length ∧
      entry.Reads ephemeral path roomId pk ∧ entry.nextSeq = frontier arrived ∧
      Buffered EncryptedStreamChunkData.seq stream.chunk arrived (frontier arrived) entry.reorder

/-- What a consumer does with a chunk that moves the first missing number from one
place to another. -/
def SealedStream.outcome (before after : Nat) : Except String EncryptedStreamChunkOutcome :=
  if before = stream.texts.length then .error "missing encrypted stream state"
  else .ok (drainOutcome (after = stream.texts.length) (segment stream.texts before after))

/-- The texts that handling a chunk hands over. -/
def deliveredTexts : Except String EncryptedStreamChunkOutcome → List String
  | .ok outcome => outcome.parts
  | .error _ => []

omit keys in
theorem deliveredTexts_outcome {before after : Nat} (grows : before ≤ after)
    (capped : after ≤ stream.texts.length) :
    deliveredTexts (stream.outcome before after) = segment stream.texts before after := by
  unfold SealedStream.outcome
  split
  · obtain rfl : after = before := by omega
    rw [segment_self]
    rfl
  · unfold drainOutcome
    split
    · rfl
    · split
      · rename_i empty
        rw [empty]
        rfl
      · rfl

/-- One chunk handled, new or not. -/
theorem handleEncryptedStreamChunk_received (sent : ∀ i ∈ arrived, i < stream.texts.length)
    {entry : Option PendingEncryptedStream} (held : stream.Received pk arrived entry) {i : Nat}
    (bound : i < stream.texts.length) :
    (handleEncryptedStreamChunk host consumer reqId entry (stream.chunk i)).1 =
        stream.outcome (frontier arrived) (frontier (arrived ++ [i])) ∧
      stream.Received pk (arrived ++ [i])
        (handleEncryptedStreamChunk host consumer reqId entry (stream.chunk i)).2 := by
  have sent' := forall_mem_snoc sent bound
  have grows := frontier_le_append arrived [i]
  have capped := frontier_le sent'
  cases entry with
  | none =>
    have complete : frontier arrived = stream.texts.length := held
    refine ⟨by rw [SealedStream.outcome, if_pos complete, handleEncryptedStreamChunk], ?_⟩
    show frontier (arrived ++ [i]) = stream.texts.length
    omega
  | some entry =>
    obtain ⟨missing, reads, next, buffered⟩ := held
    have inserted := buffered.insert stream.numbered i
    rw [← next] at inserted missing
    let taken : PendingEncryptedStream := { entry with
      reorder := stream.chunk i :: entry.reorder.filter fun other => other.seq ≠ i }
    have reads' : taken.Reads ephemeral path roomId pk :=
      ⟨reads.secret, reads.path, reads.room, reads.key⟩
    obtain ⟨reorder, after, drained⟩ := drainEncryptedStream_eq keys stream sent' taken [] reads'
      inserted (Nat.le_refl _) missing
    have handled : handleEncryptedStreamChunk host consumer reqId (some entry) (stream.chunk i) =
        drainEncryptedStream host consumer reqId taken.reorder.length taken [] := by
      rw [handleEncryptedStreamChunk, stream.numbered]
    rw [handled, drained, SealedStream.outcome, ← next, if_neg (Nat.ne_of_lt missing)]
    refine ⟨rfl, ?_⟩
    by_cases complete : frontier (arrived ++ [i]) = stream.texts.length
    · rw [if_pos complete]
      exact complete
    · rw [if_neg complete]
      exact ⟨Nat.lt_of_le_of_ne capped complete, ⟨reads.secret, reads.path, reads.room, reads.key⟩,
        rfl, after⟩

end Stream

/-- Chunks handled one after the other: what each gave, and what is kept. -/
def feedEncryptedStream (host : Host) (config : ClientConfig) (reqId : String) :
    Option PendingEncryptedStream → List EncryptedStreamChunkData →
    List (Except String EncryptedStreamChunkOutcome) × Option PendingEncryptedStream
  | entry, [] => ([], entry)
  | entry, chunk :: chunks =>
    let (outcome, left) := handleEncryptedStreamChunk host config reqId entry chunk
    let (outcomes, last) := feedEncryptedStream host config reqId left chunks
    (outcome :: outcomes, last)

/-- All chunks of a stream are among some arrivals. -/
def SealedStream.AllIn {P : Primitives} {ephemeralPk : Bytes}
    (stream : SealedStream P provider reqId path roomId ephemeralPk) (arrivals : List Nat) : Prop :=
  ∀ i < stream.texts.length, i ∈ arrivals

/-- Feeding a consumer the chunks of a stream hands their texts over in order and
once. The arrival that completes the stream finishes it, and nothing of it is kept. -/
structure SealedStream.Reordered {P : Primitives} {ephemeralPk : Bytes}
    (stream : SealedStream P provider reqId path roomId ephemeralPk) (arrivals : List Nat)
    (outcomes : List (Except String EncryptedStreamChunkOutcome))
    (left : Option PendingEncryptedStream) : Prop where
  parts : outcomes.flatMap deliveredTexts = stream.texts.take (frontier arrivals)
  whole : stream.AllIn arrivals → outcomes.flatMap deliveredTexts = stream.texts
  accepts : ∀ k < arrivals.length, ¬ stream.AllIn (arrivals.take k) →
    ∃ outcome, outcomes[k]? = some (.ok outcome)
  finishes : ∀ k < arrivals.length, (∃ parts, outcomes[k]? = some (.ok (.finished parts))) ↔
    stream.AllIn (arrivals.take (k + 1)) ∧ ¬ stream.AllIn (arrivals.take k)
  gone : left = none ↔ stream.AllIn arrivals

section Feed

variable (keys : SharedKeys host consumer provider roomId pk)
  (stream : SealedStream host.crypto provider reqId path roomId (host.crypto.publicKey ephemeral))

include keys

/-- A run of chunks from a state in which some have arrived. -/
theorem feedEncryptedStream_received (sent : ∀ i ∈ arrived, i < stream.texts.length)
    {entry : Option PendingEncryptedStream} (held : stream.Received pk arrived entry)
    (arrivals : List Nat) (bound : ∀ i ∈ arrivals, i < stream.texts.length) :
    (∀ k < arrivals.length,
        (feedEncryptedStream host consumer reqId entry (arrivals.map stream.chunk)).1[k]? =
          some (stream.outcome (frontier (arrived ++ arrivals.take k))
            (frontier (arrived ++ arrivals.take (k + 1))))) ∧
      ((feedEncryptedStream host consumer reqId entry (arrivals.map stream.chunk)).1.flatMap
        deliveredTexts = segment stream.texts (frontier arrived) (frontier (arrived ++ arrivals))) ∧
      stream.Received pk (arrived ++ arrivals)
        (feedEncryptedStream host consumer reqId entry (arrivals.map stream.chunk)).2 := by
  induction arrivals generalizing arrived entry with
  | nil => simpa [feedEncryptedStream, segment_self] using held
  | cons i arrivals ih =>
    have new : i < stream.texts.length := bound i List.mem_cons_self
    obtain ⟨first, kept⟩ := handleEncryptedStreamChunk_received keys stream sent held new
    have sent' := forall_mem_snoc sent new
    obtain ⟨outcomes, parts, last⟩ := ih sent' kept fun j member =>
      bound j (List.mem_cons_of_mem i member)
    have joined : arrived ++ i :: arrivals = arrived ++ [i] ++ arrivals := by simp
    have all : ∀ j ∈ arrived ++ [i] ++ arrivals, j < stream.texts.length := by
      rw [← joined]
      intro j member
      rcases List.mem_append.mp member with older | later
      · exact sent j older
      · exact bound j later
    have capped := frontier_le all
    refine ⟨?_, ?_, by rw [joined]; exact last⟩
    · intro k below
      cases k with
      | zero => simpa [feedEncryptedStream] using first
      | succ k =>
        have one := outcomes k (by simpa using below)
        simpa [feedEncryptedStream] using one
    · have grows := frontier_le_append (arrived ++ [i]) arrivals
      rw [List.map_cons, feedEncryptedStream, List.flatMap_cons, parts, first,
        deliveredTexts_outcome stream (frontier_le_append arrived [i]) (Nat.le_trans grows capped),
        segment_append _ (frontier_le_append arrived [i]) grows, joined]

omit keys in
/-- All chunks have arrived when none is missing. -/
theorem allIn_iff {arrivals : List Nat} (sent : ∀ i ∈ arrivals, i < stream.texts.length) :
    stream.AllIn arrivals ↔ frontier arrivals = stream.texts.length := by
  have capped := frontier_le sent
  rw [SealedStream.AllIn, ← le_frontier_iff]
  omega

omit keys in
/-- A chunk finishes the stream if it completes it. -/
theorem outcome_finished {before after : Nat} :
    (∃ parts, stream.outcome before after = .ok (.finished parts)) ↔
      after = stream.texts.length ∧ before ≠ stream.texts.length := by
  unfold SealedStream.outcome drainOutcome
  constructor
  · rintro ⟨parts, same⟩
    split at same
    · cases same
    · rename_i missing
      split at same
      · rename_i complete
        exact ⟨complete, missing⟩
      · split at same <;> cases same
  · rintro ⟨complete, missing⟩
    exact ⟨_, by rw [if_neg missing, if_pos complete]⟩

/-- The chunks of a stream in any order, each any number of times. -/
theorem encrypted_stream_reordered (version : Nat) (arrivals : List Nat)
    (sent : ∀ i ∈ arrivals, i < stream.texts.length) :
    let fed := feedEncryptedStream host consumer reqId
      (some (initPendingEncryptedStream ⟨ephemeral, path, roomId, pk, version⟩))
      (arrivals.map stream.chunk)
    stream.Reordered arrivals fed.1 fed.2 := by
  have start : stream.Received pk [] (some (initPendingEncryptedStream
      ⟨ephemeral, path, roomId, pk, version⟩)) := by
    refine ⟨?_, ⟨rfl, rfl, rfl, rfl⟩, frontier_nil.symm, ?_⟩
    · rw [frontier_nil]
      exact List.length_pos_iff.mpr stream.nonempty
    · rw [frontier_nil]
      exact .empty _ _
  obtain ⟨outcomes, parts, last⟩ :=
    feedEncryptedStream_received keys stream (by simp) start arrivals sent
  simp only [List.nil_append] at outcomes parts last
  have taken (k : Nat) : ∀ i ∈ arrivals.take k, i < stream.texts.length := fun i member =>
    sent i (List.mem_of_mem_take member)
  intro fed
  have handed : fed.1.flatMap deliveredTexts = stream.texts.take (frontier arrivals) := by
    rw [parts, frontier_nil]
    simp [segment]
  refine ⟨handed, ?_, ?_, ?_, ?_⟩
  · intro all
    rw [handed, (allIn_iff stream sent).mp all, List.take_length]
  · intro k below missing
    rw [allIn_iff stream (taken k)] at missing
    exact ⟨_, by rw [outcomes k below, SealedStream.outcome, if_neg missing]⟩
  · intro k below
    rw [outcomes k below, allIn_iff stream (taken k), allIn_iff stream (taken (k + 1)),
      ← ne_eq, ← outcome_finished stream]
    simp only [Option.some.injEq]
  · rw [allIn_iff stream sent]
    refine ⟨fun empty => ?_, fun complete => ?_⟩
    · rw [show (feedEncryptedStream _ _ _ _ _).2 = none from empty] at last
      exact last
    · cases kept : fed.2 with
      | none => rfl
      | some entry =>
        rw [show (feedEncryptedStream _ _ _ _ _).2 = some entry from kept] at last
        exact absurd complete (Nat.ne_of_lt last.1)

end Feed

/-- Two chunks; the second comes first, and again when the stream is complete. -/
theorem encrypted_stream_reordered_sample :
    let stream := SealedStream.ofTexts (sampleKeys.canSeal [7]) "1" "/api/chat" ["he", "llo"] (by simp)
      (fun _ => List.replicate 12 0) (by simp)
    let fed := feedEncryptedStream (sampleHost true false) sampleConfig "1"
      (some (initPendingEncryptedStream ⟨[7], "/api/chat", "c", Primitives.transparent.publicKey
        (roomStaticSecret .transparent (deriveRoomRootKey .transparent "c:pw" "c")), aadVersion⟩))
      ([1, 0, 1].map stream.chunk)
    stream.Reordered [1, 0, 1] fed.1 fed.2 :=
  encrypted_stream_reordered sampleKeys _ aadVersion [1, 0, 1] (by
    intro i member
    have named : i = 1 ∨ i = 0 ∨ i = 1 := by simpa using member
    simp only [SealedStream.ofTexts, List.length_cons, List.length_nil]
    omega)

end MtrxPeer
