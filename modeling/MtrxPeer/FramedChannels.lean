import MtrxPeer.Framing
import MtrxPeer.InferenceSidecar
import MtrxPeer.LossyText
import MtrxPeer.MessageSizes
import MtrxPeer.StreamMessageReading

/-! The channels that carry messages in frames: the IPC between the relay and the vault, the
helpers for libp2p streams and the codec of the request-response protocol. No writer checks
what its reader refuses. -/
namespace MtrxPeer

/-! ## The channels -/

/-- `serde_json::from_slice`. -/
def StreamMessage.fromSlice (types : ProtocolTypes) (bytes : Bytes) : Option StreamMessage :=
  (fromUtf8 bytes).bind (StreamMessage.ofText types)

namespace IpcStream

/-- The length goes out as a `u32`. -/
def writeFrame (msg : StreamMessage) : Bytes := framed 4 (utf8 msg.text)

/-- The message of the next frame and what follows it. -/
def readFrame (types : ProtocolTypes) (bytes : Bytes) : Option (StreamMessage × Bytes) :=
  (readFramed 4 maxIpcFrameBytes bytes).bind fun (buf, rest) =>
    (StreamMessage.fromSlice types buf).map (·, rest)

end IpcStream

def encodeStreamLine (msg : StreamMessage) : String := msg.text ++ "\n"

def writeStreamMessage (msg : StreamMessage) : Bytes := utf8 (encodeStreamLine msg)

/-- The longest line that `read_stream_message` takes. -/
def maxStreamMessageBytes : Nat := 4 * 1024 * 1024

def newlineByte : UInt8 := 10

def readStreamMessage (types : ProtocolTypes) (bytes : Bytes) : Option (StreamMessage × Bytes) :=
  (readTerminated newlineByte (some maxStreamMessageBytes) [] bytes).bind fun (buf, rest) =>
    (StreamMessage.fromSlice types buf).map (·, rest)

def writeJsonLine (msg : StreamMessage) : Bytes := utf8 (msg.text.push '\n')

def readJsonLine (types : ProtocolTypes) (bytes : Bytes) : Option (StreamMessage × Bytes) :=
  (readTerminated newlineByte none [] bytes).bind fun (buf, rest) =>
    (StreamMessage.fromSlice types buf).map (·, rest)

/-- A channel with its writer and its reader. -/
inductive FramedChannel where
  | ipc
  | streamHelpers
  | proxyCodec

namespace FramedChannel

/-- What the writer puts on the channel; it refuses no message. -/
def write : FramedChannel → StreamMessage → Bytes
  | ipc => IpcStream.writeFrame
  | streamHelpers => writeStreamMessage
  | proxyCodec => writeJsonLine

def read (types : ProtocolTypes) : FramedChannel → Bytes → Option (StreamMessage × Bytes)
  | ipc => IpcStream.readFrame types
  | streamHelpers => readStreamMessage types
  | proxyCodec => readJsonLine types

/-- The longest message that the reader of a channel takes. -/
def limit : FramedChannel → Option Nat
  | ipc => some maxIpcFrameBytes
  | streamHelpers => some maxStreamMessageBytes
  | proxyCodec => none

/-- What is written on a channel comes out of it: the reader returns the message and stops right
behind it, and a length in front is that of the message. -/
structure Carries (types : ProtocolTypes) (channel : FramedChannel) (msg : StreamMessage) : Prop where
  back : ∀ rest, channel.read types (channel.write msg ++ rest) = some (msg, rest)
  length : channel = ipc →
    fromLittleEndian ((channel.write msg).take 4) = msg.text.utf8ByteSize

/-- The reader takes a message of this length and depth. -/
def Takes (channel : FramedChannel) (msg : StreamMessage) : Prop :=
  (∀ limit ∈ channel.limit, msg.text.utf8ByteSize ≤ limit) ∧
    (Json.obj msg.fields).depth < Json.recursionLimit

end FramedChannel

/-! ## Reading what was written -/

section
variable {types : ProtocolTypes} {msg : StreamMessage}

theorem fromSlice_text (typed : msg.WellTyped types) :
    StreamMessage.fromSlice types (utf8 msg.text) =
      if (Json.obj msg.fields).depth < Json.recursionLimit then some msg else none := by
  rw [StreamMessage.fromSlice, fromUtf8_utf8, Option.bind_some, StreamMessage.ofText_text typed]

private theorem encoded_above {c : Char} (printable : Json.Printable c) :
    ∀ byte ∈ String.utf8EncodeChar c, 32 ≤ byte.toNat := by
  have above : 32 ≤ c.val.toNat := printable
  intro byte member
  unfold String.utf8EncodeChar at member
  dsimp only at member
  split_ifs at member <;> simp only [List.mem_cons, List.not_mem_nil, or_false] at member
  · rw [member, UInt8.toNat_ofNat']
    omega
  · rcases member with rfl | rfl <;> rw [UInt8.toNat_ofNat'] <;> omega
  · rcases member with rfl | rfl | rfl <;> rw [UInt8.toNat_ofNat'] <;> omega
  · rcases member with rfl | rfl | rfl | rfl <;> rw [UInt8.toNat_ofNat'] <;> omega

/-- The text of a message is one line of bytes. -/
private theorem newlineByte_notMem (typed : msg.WellTyped types) : newlineByte ∉ utf8 msg.text := by
  have bytes : ∀ text : List Char, (∀ c ∈ text, Json.Printable c) →
      ∀ byte ∈ utf8 (String.ofList text), 32 ≤ byte.toNat := by
    intro text printable
    induction text with
    | nil => exact fun byte member => absurd member List.not_mem_nil
    | cons c rest ih =>
      intro byte member
      rw [utf8_cons, List.mem_append] at member
      rcases member with first | later
      · exact encoded_above (printable c List.mem_cons_self) byte first
      · exact ih (fun d member => printable d (List.mem_cons_of_mem c member)) byte later
  intro member
  have above := bytes _ (Json.write_printable _ (StreamMessage.fields_writable typed)) _ member
  exact absurd above (by decide)

/-- The bytes of a line are the text and the mark behind it. -/
private theorem line_bytes (msg : StreamMessage) :
    utf8 (msg.text ++ "\n") = utf8 msg.text ++ [newlineByte] := by
  rw [utf8_append]
  rfl

theorem readStreamMessage_written (typed : msg.WellTyped types) (rest : Bytes) :
    readStreamMessage types (writeStreamMessage msg ++ rest) =
      if msg.text.utf8ByteSize ≤ maxStreamMessageBytes ∧
          (Json.obj msg.fields).depth < Json.recursionLimit then some (msg, rest)
      else none := by
  rw [readStreamMessage, writeStreamMessage, encodeStreamLine, line_bytes, List.append_assoc,
    List.singleton_append, readTerminated_append (newlineByte_notMem typed), utf8_length]
  by_cases long : maxStreamMessageBytes < msg.text.utf8ByteSize
  · simp [long]
  · have short : msg.text.utf8ByteSize ≤ maxStreamMessageBytes := Nat.le_of_not_lt long
    by_cases shallow : (Json.obj msg.fields).depth < Json.recursionLimit
    · simp [long, short, shallow, fromSlice_text typed]
    · simp [long, shallow, fromSlice_text typed]

theorem readJsonLine_written (typed : msg.WellTyped types) (rest : Bytes) :
    readJsonLine types (writeJsonLine msg ++ rest) =
      if (Json.obj msg.fields).depth < Json.recursionLimit then some (msg, rest) else none := by
  have line : msg.text.push '\n' = msg.text ++ "\n" := rfl
  rw [readJsonLine, writeJsonLine, line, line_bytes, List.append_assoc, List.singleton_append,
    readTerminated_append (newlineByte_notMem typed)]
  by_cases shallow : (Json.obj msg.fields).depth < Json.recursionLimit
  · simp [shallow, fromSlice_text typed]
  · simp [shallow, fromSlice_text typed]

theorem readFrame_short (typed : msg.WellTyped types)
    (short : msg.text.utf8ByteSize ≤ maxIpcFrameBytes) (rest : Bytes) :
    IpcStream.readFrame types (IpcStream.writeFrame msg ++ rest) =
      if (Json.obj msg.fields).depth < Json.recursionLimit then some (msg, rest) else none := by
  have fits : (utf8 msg.text).length ≤ maxIpcFrameBytes := by rwa [utf8_length]
  rw [IpcStream.readFrame, IpcStream.writeFrame, readFramed_of_le (by decide) fits]
  simp only [Option.bind_some, fromSlice_text typed]
  split <;> rfl

/-- Of a longer frame something is always left over. -/
theorem readFrame_long (long : maxIpcFrameBytes < msg.text.utf8ByteSize) {read : StreamMessage}
    {rest left : Bytes}
    (ran : IpcStream.readFrame types (IpcStream.writeFrame msg ++ rest) = some (read, left)) :
    rest.length < left.length := by
  obtain ⟨⟨buf, beyond⟩, framed, parsed⟩ := Option.bind_eq_some_iff.mp ran
  dsimp only at parsed
  obtain ⟨_, -, same⟩ := Option.map_eq_some_iff.mp parsed
  obtain ⟨-, rfl⟩ := Prod.mk.inj same
  obtain ⟨more, some_, -, rfl⟩ := readFramed_of_lt (by rwa [utf8_length]) framed
  have counted := List.length_pos_of_ne_nil some_
  rw [List.length_append]
  omega

/-- The model of the vault's answer agrees with the bytes: a frame that is read is read as it was written. -/
theorem readFrame_agrees (typed : msg.WellTyped types)
    (shallow : (Json.obj msg.fields).depth < Json.recursionLimit) {read : StreamMessage}
    (ran : MtrxPeer.readFrame msg = .ok read) (rest : Bytes) :
    IpcStream.readFrame types (IpcStream.writeFrame msg ++ rest) = some (read, rest) := by
  obtain ⟨short, rfl⟩ := readFrame_eq_ok.mp ran
  rw [readFrame_short typed short, if_pos shallow]

private theorem ipc_carries_iff (typed : msg.WellTyped types) :
    FramedChannel.ipc.Carries types msg ↔ FramedChannel.ipc.Takes msg := by
  constructor
  · intro carries
    have ran := carries.back []
    have short : msg.text.utf8ByteSize ≤ maxIpcFrameBytes := by
      by_contra long
      exact absurd (readFrame_long (Nat.lt_of_not_le long) ran) (Nat.lt_irrefl 0)
    refine ⟨fun limit member => by rwa [← Option.some.inj member], ?_⟩
    by_contra deep
    have none_ := readFrame_short typed short []
    rw [if_neg deep] at none_
    exact absurd (none_.symm.trans ran) (by simp)
  · rintro ⟨short, shallow⟩
    have fits : msg.text.utf8ByteSize ≤ maxIpcFrameBytes := short _ rfl
    constructor
    · intro rest
      exact (readFrame_short typed fits rest).trans (if_pos shallow)
    · intro _
      have narrow : msg.text.utf8ByteSize < 256 ^ 4 := Nat.lt_of_le_of_lt fits (by decide)
      have front : ((FramedChannel.write .ipc msg).take 4) = littleEndian 4 (utf8 msg.text).length :=
        List.take_left' (littleEndian_length 4 _)
      rw [front, fromLittleEndian_littleEndian, utf8_length, Nat.mod_eq_of_lt narrow]

private theorem streamHelpers_carries_iff (typed : msg.WellTyped types) :
    FramedChannel.streamHelpers.Carries types msg ↔ FramedChannel.streamHelpers.Takes msg := by
  constructor
  · intro carries
    have ran := (readStreamMessage_written typed []).symm.trans (carries.back [])
    by_contra refuses
    have beyond : ¬(msg.text.utf8ByteSize ≤ maxStreamMessageBytes ∧
        (Json.obj msg.fields).depth < Json.recursionLimit) := by
      rintro ⟨short, shallow⟩
      exact refuses ⟨fun limit member => by rwa [← Option.some.inj member], shallow⟩
    rw [if_neg beyond] at ran
    cases ran
  · rintro ⟨short, shallow⟩
    refine ⟨fun rest => ?_, by simp⟩
    exact (readStreamMessage_written typed rest).trans (if_pos ⟨short _ rfl, shallow⟩)

private theorem proxyCodec_carries_iff (typed : msg.WellTyped types) :
    FramedChannel.proxyCodec.Carries types msg ↔ FramedChannel.proxyCodec.Takes msg := by
  constructor
  · intro carries
    have ran := (readJsonLine_written typed []).symm.trans (carries.back [])
    refine ⟨by simp [FramedChannel.limit], ?_⟩
    by_contra deep
    rw [if_neg deep] at ran
    cases ran
  · rintro ⟨-, shallow⟩
    refine ⟨fun rest => ?_, by simp⟩
    exact (readJsonLine_written typed rest).trans (if_pos shallow)

end

/-- Types of the protocol crate that are read as they are written. -/
def plainTypes : ProtocolTypes := ⟨some, some⟩

/-- An answer of so many letters. -/
def lettersAnswer (count : Nat) : StreamMessage :=
  .proxyResponse "1" (String.ofList (List.replicate count 'a')) none

private theorem lettersAnswer_size (count : Nat) : count ≤ (lettersAnswer count).text.utf8ByteSize := by
  have body : ("body", Json.str (String.ofList (List.replicate count 'a'))) ∈ (lettersAnswer count).fields := by
    simp [lettersAnswer, StreamMessage.fields]
  have inside := size_le_obj body
  have plain : Unescaped (String.ofList (List.replicate count 'a')) := by
    intro c member
    rw [String.toList_ofList, List.mem_replicate] at member
    rw [member.2]
    decide
  have letters : ∀ count, byteCount (List.replicate count 'a') = count := by
    intro count
    induction count with
    | zero => rfl
    | succ count ih => rw [List.replicate_succ, byteCount_cons, ih, Nat.add_comm]; rfl
  have counted : (String.ofList (List.replicate count 'a')).utf8ByteSize = count := letters count
  rw [size_str, escapedSize_unescaped plain, counted] at inside
  rw [text_size_eq]
  omega

/-- An array in an array, so many times. -/
def nestedArrays : Nat → Json
  | 0 => .null
  | count + 1 => .arr [nestedArrays count]

private theorem nestedArrays_valid (count : Nat) : (nestedArrays count).Valid := by
  induction count with
  | zero => trivial
  | succ count ih => exact ⟨ih, trivial⟩

private theorem nestedArrays_depth (count : Nat) : (nestedArrays count).depth = count := by
  induction count with
  | zero => rfl
  | succ count ih =>
    rw [nestedArrays, Json.depth, Json.depth.depthItems, Json.depth.depthItems, ih]
    omega

end MtrxPeer
