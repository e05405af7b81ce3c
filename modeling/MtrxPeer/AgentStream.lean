import MtrxPeer.LossyText
import MtrxPeer.StreamAssembly
import MtrxPeer.WithheldText

/-! The streams an agent client is sent: of a backend of this peer, and of a peer
elsewhere. Both feed the lines of the upstream to the transformer and end with its end
mark; they differ in how they tell that the mark was sent already. -/
namespace MtrxPeer

/-! ## The two streams -/

/-- The variables of a stream, with how many lines it has handled. -/
structure AgentStream where
  sseState : SseTransformState
  doneSent : Bool
  handled : Nat

def AgentStream.initial (format : AgentResponseFormat) : AgentStream :=
  ⟨.withResponseFormat format, false, 0⟩

/-- One line: `compares` is the test of the line itself, `watches` that of each line
that is sent. -/
def agentLine (ambients : Nat → Ambient) (compares watches : Bool) (s : AgentStream)
    (trimmed : String) : Option (AgentStream × List String) :=
  (processLine (ambients s.handled) s.sseState trimmed).map fun (sseState, out) =>
    (⟨sseState,
      s.doneSent || (compares && trimmed = "data: [DONE]") ||
        (watches && out.any fun outLine => trim outLine = "data: [DONE]"),
      s.handled + 1⟩, out)

/-- The complete lines of the buffer, one after another. -/
def agentLines (ambients : Nat → Ambient) (compares watches : Bool) (s : AgentStream) :
    List (List Char) → Option (AgentStream × List String)
  | [] => some (s, [])
  | line :: rest =>
    match agentLine ambients compares watches s (String.ofList (trimEnd line)) with
    | none => none
    | some (s, out) =>
      (agentLines ambients compares watches s rest).map fun (s, more) => (s, out ++ more)

/-- `format!("{}\n", out_line)`. -/
def sentLine (outLine : String) : Except String String := .ok (outLine ++ "\n")

/-- The loop over what the upstream sends; an error ends it. -/
def agentChunks (ambients : Nat → Ambient) (watches : Bool)
    (onError : String → List (Except String String)) (s : AgentStream) (buf : List Char) :
    List (Except String (List Char)) → Option (AgentStream × List Char × List (Except String String))
  | [] => some (s, buf, [])
  | .error e :: _ => some (s, buf, onError e)
  | .ok chunk :: rest =>
    let (complete, tail) := cutLines (buf ++ chunk)
    match agentLines ambients true watches s complete with
    | none => none
    | some (s, out) =>
      (agentChunks ambients watches onError s tail rest).map fun (s, buf, more) =>
        (s, buf, out.map sentLine ++ more)

/-- What is left in the buffer, unless it is blank. -/
def agentRest (ambients : Nat → Ambient) (compares watches : Bool) (s : AgentStream)
    (buf : List Char) : Option (AgentStream × List String) :=
  if trim (String.ofList buf) = "" then some (s, [])
  else agentLine ambients compares watches s (String.ofList (trimEnd buf))

/-- A whole stream; `compares` and `watches` are the tests of its last, open line. -/
def agentStream (ambients : Nat → Ambient) (compares watches : Bool)
    (onError : String → List (Except String String)) (format : AgentResponseFormat)
    (items : List (Except String (List Char))) : Option (List (Except String String)) :=
  match agentChunks ambients watches onError (.initial format) [] items with
  | none => none
  | some (s, buf, sent) =>
    match agentRest ambients compares watches s buf with
    | none => none
    | some (s, out) =>
      (finalizeStream (ambients s.handled) s.sseState s.doneSent).map fun (_, last) =>
        sent ++ (out ++ last).map sentLine

/-- The stream of `forward_agent_remote`. -/
def forwardAgentRemote (ambients : Nat → Ambient) (format : AgentResponseFormat)
    (items : List (Except String String)) : Option (List (Except String String)) :=
  agentStream ambients true true (fun e => [.ok ("data: \x7b\"error\":\"" ++ e ++ "\"\x7d\n\n")]) format
    (items.map (Except.map String.toList))

/-- The stream of `forward_agent_local`. -/
def forwardAgentLocal (ambients : Nat → Ambient) (format : AgentResponseFormat)
    (items : List (Except String Bytes)) : Option (List (Except String String)) :=
  agentStream ambients false false (fun e => [.error e]) format
    (items.map (Except.map fromUtf8Lossy))

end MtrxPeer
