import MtrxPeer.BytePositions
import MtrxPeer.DoneMark
import MtrxPeer.JsonReading
import MtrxPeer.RequestNormalizing
import MtrxPeer.ToolCallAgreement

/-! Where the proxy panics. Keys are assigned on the bodies of two requests as they come, whatever
they are, and previews of answers are cut at a byte that may be inside a character; all other
assignments and slices are safe. -/
namespace MtrxPeer

/-! ## The request to a translated backend -/

/-- `apply_ollama_body_defaults_with_default`. -/
def applyOllamaBodyDefaultsWithDefault (body : String) (defaultPredict defaultCtx : Option Nat) : String :=
  match Json.fromText body with
  | none => body
  | some json => (ensureOllamaCtxOptionsWithDefault
      (ensureOllamaPredictOptionsWithDefault json defaultPredict) defaultCtx).toText

/-- What `chat_completion` reads of a request. -/
def readRequest (body : String) : Json := (Json.fromText body).getD .null

/-- The body that `forward_ollama_chat_via_openai` posts; nothing where the program panics. -/
def openaiChatBody (defaultPredict defaultCtx : Option Nat) (ollamaBody : Json) (model : Option String)
    (stream : Bool) : Option Json := do
  let bodyStr := applyOllamaBodyDefaultsWithDefault ollamaBody.toText defaultPredict defaultCtx
  let normalized ← ((Json.fromText bodyStr).getD .null).assign "stream" (.bool stream)
  match model with
  | some m => normalized.assign "model" (.str (withoutGguf m))
  | none => some normalized

/-- A value that takes a key. -/
def Assignable (json : Json) : Prop := (∃ fields, json = .obj fields) ∨ json = .null

theorem assign_returns_iff (json : Json) (key : String) (value : Json) :
    (json.assign key value).isSome ↔ Assignable json := by
  cases json with
  | obj fields => exact iff_of_true rfl (.inl ⟨fields, rfl⟩)
  | null => exact iff_of_true rfl (.inr rfl)
  | _ => exact iff_of_false (by simp [Json.assign]) (by simp [Assignable])

private theorem assign_object {json assigned value : Json} {key : String}
    (ran : json.assign key value = some assigned) : ∃ fields, assigned = .obj fields := by
  cases json with
  | obj fields => exact ⟨_, (Option.some.inj ran).symm⟩
  | null => exact ⟨_, (Option.some.inj ran).symm⟩
  | _ => cases ran

private theorem ensurePredict_object (fields : List (String × Json)) (defaultPredict : Option Nat) :
    ∃ given, ensureOllamaPredictOptionsWithDefault (.obj fields) defaultPredict = .obj given := by
  simp only [ensureOllamaPredictOptionsWithDefault]
  split
  · exact ⟨_, rfl⟩
  · exact ⟨_, rfl⟩

private theorem ensureCtx_object (fields : List (String × Json)) (defaultCtx : Option Nat) :
    ∃ given, ensureOllamaCtxOptionsWithDefault (.obj fields) defaultCtx = .obj given := by
  simp only [ensureOllamaCtxOptionsWithDefault]
  split
  · rename_i same
    obtain rfl := Json.obj.inj same
    split
    · exact ⟨_, rfl⟩
    · exact ⟨_, rfl⟩
  · exact ⟨fields, rfl⟩

/-- The defaults are entered into objects only. -/
private theorem defaults_other {json : Json} (other : ¬∃ fields, json = .obj fields)
    (defaultPredict defaultCtx : Option Nat) :
    ensureOllamaCtxOptionsWithDefault (ensureOllamaPredictOptionsWithDefault json defaultPredict)
      defaultCtx = json := by
  have first : ensureOllamaPredictOptionsWithDefault json defaultPredict = json := by
    cases json with
    | obj fields => exact absurd ⟨fields, rfl⟩ other
    | _ => rfl
  rw [first]
  unfold ensureOllamaCtxOptionsWithDefault
  split
  · exact absurd ⟨_, rfl⟩ other
  · rfl

private theorem readRequest_read (body : String) :
    Json.fromText (readRequest body).toText = some (readRequest body) := by
  rw [readRequest]
  cases ran : Json.fromText body with
  | none => rfl
  | some json => exact Json.fromText_toText_read ran

/-- After the defaults a body still is what takes a key, or not. -/
private theorem defaulted_assignable (body : String) (defaultPredict defaultCtx : Option Nat) :
    Assignable ((Json.fromText (applyOllamaBodyDefaultsWithDefault (readRequest body).toText
      defaultPredict defaultCtx)).getD .null) ↔ Assignable (readRequest body) := by
  rw [applyOllamaBodyDefaultsWithDefault, readRequest_read]
  by_cases object : ∃ fields, readRequest body = .obj fields
  · obtain ⟨fields, same⟩ := object
    obtain ⟨given, first⟩ := ensurePredict_object fields defaultPredict
    obtain ⟨last, second⟩ := ensureCtx_object given defaultCtx
    refine iff_of_true ?_ (.inl ⟨fields, same⟩)
    simp only [same, first, second]
    cases ran : Json.fromText (Json.obj last).toText with
    | none => exact .inr rfl
    | some json =>
      obtain ⟨middle, braces⟩ := write_obj last
      have brace : (Json.obj last).toText.toList = '{' :: (middle ++ ['}']) := by
        rw [Json.toText, String.toList_ofList, braces]
      rw [Json.fromText, brace] at ran
      exact .inl (Json.fromChars_brace ran)
  · simp only [defaults_other object, readRequest_read, Option.getD_some]

/-- Whatever a request reads as, the posted body is made exactly if it takes a key. -/
theorem openaiChatBody_returns_iff (defaultPredict defaultCtx : Option Nat) (body : String)
    (model : Option String) (stream : Bool) :
    (openaiChatBody defaultPredict defaultCtx (readRequest body) model stream).isSome ↔
      Assignable (readRequest body) := by
  rw [← defaulted_assignable body defaultPredict defaultCtx,
    ← assign_returns_iff _ "stream" (.bool stream), openaiChatBody]
  cases ran : Json.assign ((Json.fromText (applyOllamaBodyDefaultsWithDefault (readRequest body).toText
      defaultPredict defaultCtx)).getD .null) "stream" (.bool stream) with
  | none => rfl
  | some normalized =>
    obtain ⟨fields, rfl⟩ := assign_object ran
    cases model with
    | none => rfl
    | some m => rfl

/-! ## The request of a peer -/

/-- `forward_chat_stream` panics exactly where it renames the model of a body that takes no key. -/
theorem forwardChatStream_returns_iff (registry : Registry) (call : BackendCall) :
    forwardChatStream registry call ≠ .panicked ↔
      ∀ backend, selectedBackend registry call.model = some backend →
        translatesOllamaChat backend call.path = true → Assignable call.body := by
  unfold forwardChatStream
  cases selected : selectedBackend registry call.model with
  | none => simp
  | some backend =>
    by_cases translated : translatesOllamaChat backend call.path = true
    · have assigned : setModel call.body (withoutGguf call.model) =
          call.body.assign "model" (.str (withoutGguf call.model)) := rfl
      have returns := assign_returns_iff call.body "model" (.str (withoutGguf call.model))
      simp only [translated, if_true, assigned, Option.some.injEq, forall_eq', forall_const, ← returns]
      cases call.body.assign "model" (.str (withoutGguf call.model)) with
      | none => simp
      | some body => simp
    · simp [translated]

/-! ## Previews -/

/-- A text can be cut at this byte. -/
def CharBoundary (text : String) (n : Nat) : Prop :=
  ∃ front back : String, text = front ++ back ∧ front.utf8ByteSize = n

/-- A text that is longer than its preview can be cut where the preview ends. -/
def PreviewFits (text : String) : Prop := 200 < text.utf8ByteSize → CharBoundary text 200

theorem not_previewCut_iff (text : String) : ¬PreviewCut text ↔ PreviewFits text := by
  have boundary : (takeBytes 200 text.toList).isSome ↔ CharBoundary text 200 := by
    rw [takeBytes_isSome_iff]
    constructor
    · rintro ⟨front, back, split, counted⟩
      refine ⟨String.ofList front, String.ofList back, ?_, counted⟩
      rw [← String.ofList_append, ← split, String.ofList_toList]
    · rintro ⟨front, back, rfl, counted⟩
      refine ⟨front.toList, back.toList, String.toList_append, ?_⟩
      rw [byteCount, String.ofList_toList, counted]
  rw [PreviewFits, ← boundary, PreviewCut, truncatePreview]
  by_cases short : text.utf8ByteSize ≤ 200
  · simp [short, Nat.not_lt.mpr short]
  · have long : 200 < text.utf8ByteSize := Nat.lt_of_not_le short
    simp [short, long, Option.isSome_iff_ne_none]

/-! ## Whole answers -/

/-- Where an answer is rewritten, its first choice and the choice's message are objects. -/
def RewriteAssignsObjects (ambient : Ambient) (body : Json) : Prop :=
  ∀ choice rest message toolCalls, (body.get "choices").bind Json.asArray = some (choice :: rest) →
    choice.get "message" = some message → hasToolCalls message = false →
      textContentToToolCalls ambient (messageTextContent message) = some toolCalls →
        (∃ fields, choice = .obj fields) ∧ ∃ fields, message = .obj fields

theorem rewrite_assigns_objects (ambient : Ambient) (body : Json) : RewriteAssignsObjects ambient body := by
  intro choice rest message toolCalls _ there _ calls
  have empty : textContentToToolCalls ambient "" = none := rfl
  refine ⟨Json.get_some there, ?_⟩
  cases message with
  | obj fields => exact ⟨fields, rfl⟩
  | _ => exact absurd (empty.symm.trans calls) (Option.some_ne_none _).symm

theorem rewriteChatResponse_returns_iff (ambient : Ambient) (body : Json) :
    (rewriteChatResponse ambient body).isSome ↔ ∀ text, TextAnswer body text → PreviewFits text := by
  constructor
  · intro returns text answer
    rw [← not_previewCut_iff]
    intro cut
    rw [rewriteChatResponse_cut answer cut] at returns
    cases returns
  · intro fits
    unfold rewriteChatResponse
    split
    · rename_i choice rest choices
      split
      · rfl
      · rename_i message there
        split
        · rfl
        · rename_i plain
          have answer : TextAnswer body (messageTextContent message) :=
            ⟨choice, rest, message, choices, there, by simpa using plain, rfl⟩
          have fine := (not_previewCut_iff _).mpr (fits _ answer)
          obtain ⟨preview, made⟩ := Option.ne_none_iff_exists'.mp fine
          simp only [made]
          split
          · rfl
          · rfl
    · rfl

/-! ## Streams -/

/-- Where a line's delta is replaced, the choice that it is of is an object. -/
def DeltaAssignsObject (line : String) : Prop :=
  ∀ chunk choice rest, lineChunk line = some chunk → chunkChoices chunk = choice :: rest →
    choiceContent choice ≠ "" → ∃ fields, choice = .obj fields

theorem delta_assigns_object (line : String) : DeltaAssignsObject line := by
  intro chunk choice rest _ _ some_
  cases choice with
  | obj fields => exact ⟨fields, rfl⟩
  | _ => exact absurd rfl some_

section
variable {ambients : Nat → Ambient} {last : Ambient} {state : SseTransformState}
  {held : Option String} {doneSent : Bool}

private theorem finalize_returns_iff (holds : Holds state held) :
    (finalizeStream last state doneSent).isSome ↔ ∀ text ∈ held, ¬PreviewCut text := by
  rw [finalizeStream, Option.isSome_map]
  cases held with
  | none =>
    rw [flushOnStreamEnd_idle holds]
    exact iff_of_true rfl (by simp)
  | some text =>
    obtain ⟨panics, releases⟩ := @flushOnStreamEnd_held last state text holds
    by_cases cut : PreviewCut text
    · rw [panics cut]
      exact iff_of_false (by simp) (by simpa using cut)
    · obtain ⟨after, flushed, -⟩ := releases cut
      rw [flushed]
      exact iff_of_true rfl (by simpa using cut)

/-- A stream is carried to its end exactly if each withheld text can be previewed when it ends. -/
theorem endStream_returns_iff (lines : List String) (holds : Holds state held) :
    (endStream ambients last state lines doneSent).isSome ↔ PreviewsFit held lines := by
  induction lines generalizing state held with
  | nil =>
    rw [endStream, processLines, Option.bind_some, Option.isSome_map, finalize_returns_iff holds]
    rfl
  | cons line rest ih =>
    rw [endStream_cons, PreviewsFit]
    rcases @processLine_stepped held (ambients rest.length) state line holds with
      ⟨kind, ⟨text, member, cut⟩, panic⟩ | ⟨fits, after, sent, step, stepped⟩
    · rw [panic]
      exact iff_of_false (by simp) fun right => right.1 kind text member cut
    · rw [step, Option.bind_some, Option.isSome_map, ih stepped.holds]
      exact (and_iff_right fits).symm

end

/-! ## Every request and answer -/

/-- What the proxy does to a request or an answer, with all it is given. -/
inductive ProxyCall where
  | normalize (defaultPredict defaultCtx : Option Nat) (body : Json)
  | forwardChat (registry : Registry) (call : BackendCall)
  | forwardOllamaChat (defaultPredict defaultCtx : Option Nat) (request : String)
      (model : Option String) (stream : Bool)
  | rewrite (ambient : Ambient) (body : Json)
  | toResponses (ambient : Ambient) (body : Json)
  | streamLines (ambients : Nat → Ambient) (last : Ambient) (format : AgentResponseFormat)
      (lines : List String) (doneSent : Bool)

/-- The call comes to its end, and the values that it assigns keys on take them. -/
def ProxyCall.Returns : ProxyCall → Prop
  | .normalize defaultPredict defaultCtx body =>
    (normalizeChatRequestWithDefault defaultPredict defaultCtx body).isSome
  | .forwardChat registry call => forwardChatStream registry call ≠ .panicked
  | .forwardOllamaChat defaultPredict defaultCtx request model stream =>
    (openaiChatBody defaultPredict defaultCtx (readRequest request) model stream).isSome
  | .rewrite ambient body => (rewriteChatResponse ambient body).isSome ∧ RewriteAssignsObjects ambient body
  | .toResponses ambient body => ∃ fields, chatCompletionToResponses ambient body = .obj fields
  | .streamLines ambients last format lines doneSent =>
    (endStream ambients last (.withResponseFormat format) lines doneSent).isSome ∧
      ∀ line ∈ lines, DeltaAssignsObject line

/-- The bodies that keys are assigned on take them, and the texts that are previewed can be cut. -/
def ProxyCall.Fits : ProxyCall → Prop
  | .normalize _ _ _ => True
  | .forwardChat registry call =>
    ∀ backend, selectedBackend registry call.model = some backend →
      translatesOllamaChat backend call.path = true → Assignable call.body
  | .forwardOllamaChat _ _ request _ _ => Assignable (readRequest request)
  | .rewrite _ body => ∀ text, TextAnswer body text → PreviewFits text
  | .toResponses _ _ => True
  | .streamLines _ _ _ lines _ => PreviewsFit none lines

/-- A call returns exactly if its bodies take keys and its previews can be cut. -/
theorem proxy_call_returns_iff (call : ProxyCall) : call.Returns ↔ call.Fits := by
  cases call with
  | normalize defaultPredict defaultCtx body =>
    obtain ⟨normalized, ran⟩ := normalizeChatRequest_returns defaultPredict defaultCtx body
    exact iff_of_true (Option.isSome_iff_exists.mpr ⟨normalized, ran⟩) trivial
  | forwardChat registry call => exact forwardChatStream_returns_iff registry call
  | forwardOllamaChat defaultPredict defaultCtx request model stream =>
    exact openaiChatBody_returns_iff defaultPredict defaultCtx request model stream
  | rewrite ambient body =>
    exact (and_iff_left (rewrite_assigns_objects ambient body)).trans
      (rewriteChatResponse_returns_iff ambient body)
  | toResponses ambient body => exact iff_of_true ⟨_, rfl⟩ trivial
  | streamLines ambients last format lines doneSent =>
    have idle : Holds (.withResponseFormat format) none := ⟨rfl, rfl, by simp⟩
    exact (and_iff_left fun line _ => delta_assigns_object line).trans
      (endStream_returns_iff lines idle)

/-! ## Panics -/

/-- So many letters, and one of two bytes. -/
def accentedText (count : Nat) : String := String.ofList (List.replicate count 'a') ++ "é"

/-- An answer of this text. -/
def answerOf (text : String) : Json :=
  .obj [("choices", .arr [.obj [("message", .obj [("content", .str text)])]])]

private theorem accentedText_chars (count : Nat) :
    (accentedText count).toList = List.replicate count 'a' ++ ['é'] := by
  rw [accentedText, String.toList_append, String.toList_ofList]
  rfl

private theorem accentedText_size (count : Nat) : (accentedText count).utf8ByteSize = count + 2 := by
  have letters : byteCount (List.replicate count 'a') = count := by
    induction count with
    | zero => rfl
    | succ count ih => rw [List.replicate_succ, byteCount_cons, ih, Nat.add_comm]; rfl
  rw [accentedText, String.utf8ByteSize_append]
  exact congrArg (· + 2) letters

private theorem takeBytes_accented (count : Nat) :
    takeBytes (count + 1) (List.replicate count 'a' ++ ['é']) = none := by
  induction count with
  | zero => rfl
  | succ count ih =>
    have narrow : 'a'.utf8Size = 1 := rfl
    rw [List.replicate_succ, List.cons_append, takeBytes, if_pos (by omega), narrow,
      Nat.add_sub_cancel, ih, Option.map_none]

/-- The last letter is cut if one more byte than there are letters before it fits. -/
private theorem accentedText_cut : PreviewCut (accentedText 199) := by
  have long : ¬(accentedText 199).utf8ByteSize ≤ 200 := by
    rw [accentedText_size]
    omega
  rw [PreviewCut, truncatePreview, if_neg long, accentedText_chars, takeBytes_accented 199,
    Option.map_none]

/-- A peer's request whose body is an array, a client's whose body is a text, and an answer that
ends a letter after its preview. -/
theorem bodies_and_previews_panic :
    ¬(ProxyCall.forwardChat ⟨[⟨"a", 0, .fromServerEntry .openAiCompat "http://127.0.0.1"⟩], fun _ => none⟩
        ⟨"/api/chat", .arr [], "llama3"⟩).Returns ∧
      ¬(ProxyCall.forwardOllamaChat none none "\"hello\"" none false).Returns ∧
      ∀ ambient, ¬(ProxyCall.rewrite ambient (answerOf (accentedText 199))).Returns := by
  refine ⟨fun returns => returns rfl, ?_, ?_⟩
  · intro returns
    have takes := (openaiChatBody_returns_iff none none "\"hello\"" none false).mp returns
    have text : readRequest "\"hello\"" = .str "hello" := rfl
    rw [text] at takes
    simp [Assignable] at takes
  · intro ambient returns
    have fits := (rewriteChatResponse_returns_iff ambient _).mp returns.1 (accentedText 199)
      ⟨_, _, _, rfl, rfl, rfl, rfl⟩
    exact (not_previewCut_iff _).mpr fits accentedText_cut

end MtrxPeer
