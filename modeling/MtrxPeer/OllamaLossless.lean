import MtrxPeer.OllamaStream

/-! What an Ollama client reads of a translated event stream, against what the upstream
sent. Cut between characters, a stream is translated without loss exactly when nothing is
said after its last newline. -/
namespace MtrxPeer

/-! ## Contents -/

/-- `message.content` of a line that is sent. -/
def ollamaContent (line : String) : List Char :=
  (((((Json.fromText line).bind (Json.get · "message")).bind (Json.get · "content")).bind
    Json.asStr).getD "").toList

/-- `done` of a line that is sent. -/
def isDoneLine (line : String) : Bool :=
  (((Json.fromText line).bind (Json.get · "done")).bind Json.asBool).getD false

/-- The content deltas of some lines, up to the end mark. -/
def deltasOf : List (List Char) → List Char
  | [] => []
  | line :: rest =>
    match readSseLine line with
    | .done => []
    | .delta content => content.toList ++ deltasOf rest
    | .skipped => deltasOf rest

/-- The end mark is among some lines. -/
def marked (texts : List (List Char)) : Bool := texts.any fun line => readSseLine line = .done

/-- The content deltas of an event stream, its last line included. -/
def upstreamContents (text : List Char) : List Char :=
  deltasOf ((cutLines text).1 ++ [(cutLines text).2])

/-- The text an Ollama client is sent for a response that arrives in some chunks. -/
def ollamaText (model : String) (chunks : List Bytes) : String :=
  streamText ((forwardChatTranslation model (chunks.map .ok)).map (Except.map ndjson))

/-- A response is translated faithfully: both translators say the same, the client reads
the content of the upstream, and one done line ends it. -/
structure Translated (model : String) (chunks : List Bytes) (text : List Char) : Prop where
  same : forwardChatTranslation model (chunks.map .ok) =
    forwardOllamaChatViaOpenai model (chunks.map .ok)
  content : (lines (ollamaText model chunks)).flatMap ollamaContent = upstreamContents text
  done : ∃ front last, lines (ollamaText model chunks) = front ++ [last] ∧
    isDoneLine last = true ∧ ∀ line ∈ front, isDoneLine line = false

/-! ## The loop over chunks -/

/-- Lines after the end mark are not read. -/
private theorem translateLines_append (model : String) (front rest : List (List Char)) :
    translateLines model (front ++ rest) =
      if (translateLines model front).2 then translateLines model front
      else ((translateLines model front).1 ++ (translateLines model rest).1,
        (translateLines model rest).2) := by
  induction front with
  | nil => rfl
  | cons line front ih =>
    cases kind : readSseLine line with
    | done => simp only [List.cons_append, translateLines, kind, if_true]
    | skipped =>
      simp only [List.cons_append, translateLines, kind]
      exact ih
    | delta content =>
      simp only [List.cons_append, translateLines, kind, ih]
      cases stopped : (translateLines model front).2 with
      | true => simp [stopped]
      | false => simp

/-- The lines that are answered by a whole response: the complete ones of its text as it
was decoded, and the done line if no mark came before. -/
theorem translateChunks_ok (model : String) (onError : String → List (Except String Json))
    (buf : List Char) (chunks : List Bytes) (quiet : '\n' ∉ buf) :
    translateChunks model onError buf (chunks.map .ok) =
      ((translateLines model (cutLines (buf ++ chunks.flatMap fromUtf8Lossy)).1).1 ++
        if (translateLines model (cutLines (buf ++ chunks.flatMap fromUtf8Lossy)).1).2 then []
        else [ollamaDone model]).map .ok := by
  induction chunks generalizing buf with
  | nil =>
    rw [List.flatMap_nil, List.append_nil, cutLines_rest quiet]
    rfl
  | cons chunk rest ih =>
    rw [List.map_cons, List.flatMap_cons, ← List.append_assoc, cutLines_append,
      translateLines_append]
    simp only [translateChunks]
    cases stopped : (translateLines model (cutLines (buf ++ fromUtf8Lossy chunk)).1).2 with
    | true => simp [stopped]
    | false =>
      rw [ih _ (newline_notMem_cutLines (buf ++ fromUtf8Lossy chunk))]
      simp

/-- Text that is cut between characters is decoded as it is. -/
theorem decoded_text {chunks : List Bytes} {text : List Char} (cuts : AllText chunks)
    (whole : chunks.flatten = utf8 (String.ofList text)) : chunks.flatMap fromUtf8Lossy = text := by
  have each : chunks.flatMap fromUtf8Lossy = readText chunks := by
    clear whole
    induction chunks with
    | nil => rfl
    | cons chunk rest ih =>
      obtain ⟨read, decoded⟩ := Option.isSome_iff_exists.mp (cuts chunk List.mem_cons_self)
      have one : fromUtf8Lossy chunk = read.toList := by
        rw [← utf8_of_fromUtf8 decoded, ← fromUtf8Lossy_utf8 read.toList, String.ofList_toList]
      rw [List.flatMap_cons, one, ih fun other member => cuts other (List.mem_cons_of_mem chunk member),
        show readText (chunk :: rest) = ((fromUtf8 chunk).getD "").toList ++ readText rest from rfl,
        decoded]
      rfl
  rw [each, ← String.toList_ofList (l := readText chunks),
    utf8_injective ((utf8_readText cuts).trans whole), String.toList_ofList]

/-! ## What is read of it -/

private theorem ollamaContent_delta (model content : String) :
    ollamaContent (ollamaDelta model content).toText = content.toList := by
  obtain ⟨-, valid, deep, -⟩ := ollamaDelta_oneLine model content
  rw [ollamaContent, Json.fromText_toText _ valid deep]
  rfl

private theorem ollamaContent_done (model : String) : ollamaContent (ollamaDone model).toText = [] := by
  obtain ⟨-, valid, deep, -⟩ := ollamaDone_oneLine model
  rw [ollamaContent, Json.fromText_toText _ valid deep]
  rfl

private theorem isDoneLine_delta (model content : String) :
    isDoneLine (ollamaDelta model content).toText = false := by
  obtain ⟨-, valid, deep, -⟩ := ollamaDelta_oneLine model content
  rw [isDoneLine, Json.fromText_toText _ valid deep]
  rfl

private theorem isDoneLine_done (model : String) : isDoneLine (ollamaDone model).toText = true := by
  obtain ⟨-, valid, deep, -⟩ := ollamaDone_oneLine model
  rw [isDoneLine, Json.fromText_toText _ valid deep]
  rfl

/-- The answered lines are content lines, and a done line exactly at a mark. -/
private theorem translateLines_shape (model : String) (texts : List (List Char)) :
    ∃ contents : List String,
      (translateLines model texts).1 = contents.map (ollamaDelta model) ++
        (if (translateLines model texts).2 then [ollamaDone model] else []) ∧
      contents.flatMap String.toList = deltasOf texts ∧
      (translateLines model texts).2 = marked texts := by
  induction texts with
  | nil => exact ⟨[], rfl, rfl, rfl⟩
  | cons line rest ih =>
    obtain ⟨contents, out, same, stop⟩ := ih
    cases kind : readSseLine line with
    | done => exact ⟨[], by simp [translateLines, kind], by simp [deltasOf, kind],
        by simp [translateLines, marked, kind]⟩
    | skipped =>
      refine ⟨contents, ?_, ?_, ?_⟩
      · simpa only [translateLines, kind] using out
      · simpa only [deltasOf, kind] using same
      · simpa [translateLines, marked, kind] using stop
    | delta content =>
      refine ⟨content :: contents, ?_, ?_, ?_⟩
      · simp only [translateLines, kind]
        rw [out]
        rfl
      · simp [deltasOf, kind, same]
      · simpa [translateLines, marked, kind] using stop

/-- Whole lines are read before what follows them. -/
private theorem deltasOf_append (front : List (List Char)) (line : List Char) :
    deltasOf (front ++ [line]) =
      deltasOf front ++ (if marked front then [] else deltasOf [line]) := by
  have none_ : deltasOf [] = [] := by rw [deltasOf]
  induction front with
  | nil => simp [none_, marked]
  | cons first rest ih =>
    cases kind : readSseLine first with
    | done => simp [deltasOf, marked, kind]
    | skipped => simpa [deltasOf, marked, kind] using ih
    | delta content =>
      have rests : marked (first :: rest) = marked rest := by simp [marked, kind]
      simp only [List.cons_append, deltasOf, kind, ih, rests, List.append_assoc]

private theorem readSseLine_nonempty {line : List Char} {content : String}
    (kind : readSseLine line = .delta content) : content.toList ≠ [] := by
  simp only [readSseLine] at kind
  split at kind
  · split at kind
    · cases kind
    · split at kind
      · cases kind
      · rename_i some_
        obtain rfl := SseEvent.delta.inj kind
        exact fun none_ => some_ (String.toList_eq_nil_iff.mp none_)
  · cases kind

/-- A last line without content has no delta. -/
private theorem deltasOf_last (line : List Char) :
    deltasOf [line] = [] ↔ ∀ content, readSseLine line ≠ .delta content := by
  constructor
  · intro none_ content kind
    simp only [deltasOf, kind, List.append_nil] at none_
    exact readSseLine_nonempty kind none_
  · intro other
    cases kind : readSseLine line with
    | done => simp only [deltasOf, kind]
    | skipped => simp only [deltasOf, kind]
    | delta content => exact absurd kind (other content)

/-- What the client is sent: the complete lines of the response as it was decoded. -/
theorem ollamaText_read (model : String) (chunks : List Bytes) :
    ∃ contents : List String,
      lines (ollamaText model chunks) =
        contents.map (fun content => (ollamaDelta model content).toText) ++ [(ollamaDone model).toText] ∧
      contents.flatMap String.toList = deltasOf (cutLines (chunks.flatMap fromUtf8Lossy)).1 := by
  have all := translateChunks_oneLine model [] (chunks.map .ok)
    (fun e json member => by simp [okJsons] at member :
      ∀ e, ∀ json ∈ okJsons [.error e], json = ollamaDone model)
  have sent := translateChunks_ok model (fun e => [.error e]) [] chunks (by simp)
  rw [List.nil_append] at sent
  obtain ⟨contents, out, same, -⟩ :=
    translateLines_shape model (cutLines (chunks.flatMap fromUtf8Lossy)).1
  refine ⟨contents, ?_, same⟩
  have jsons : okJsons (forwardChatTranslation model (chunks.map .ok)) =
      contents.map (ollamaDelta model) ++ [ollamaDone model] := by
    have plain (sent : List Json) : okJsons (sent.map .ok) = sent := by
      simpa [okJsons] using okJsons_append sent []
    rw [forwardChatTranslation, sent, plain, out]
    cases (translateLines model (cutLines (chunks.flatMap fromUtf8Lossy)).1).2 <;> simp
  rw [ollamaText, streamText, okItems_ndjson, readText_ndjson, lines_ndjsonText, jsons]
  · simp
  · exact fun json member => (all json member).1

/-- A response is translated without loss exactly when its complete lines, as they were
decoded, carry all its content. -/
theorem translated_iff_decoded (model : String) (chunks : List Bytes) (text : List Char) :
    Translated model chunks text ↔
      deltasOf (cutLines (chunks.flatMap fromUtf8Lossy)).1 = upstreamContents text := by
  obtain ⟨contents, read, same⟩ := ollamaText_read model chunks
  have content : (lines (ollamaText model chunks)).flatMap ollamaContent =
      deltasOf (cutLines (chunks.flatMap fromUtf8Lossy)).1 := by
    rw [read, List.flatMap_append, List.flatMap_map, List.flatMap_singleton, ollamaContent_done,
      List.append_nil, ← same]
    exact List.flatMap_congr fun one _ => ollamaContent_delta model one
  have done : ∃ front last, lines (ollamaText model chunks) = front ++ [last] ∧
      isDoneLine last = true ∧ ∀ line ∈ front, isDoneLine line = false := by
    refine ⟨_, _, read, isDoneLine_done model, ?_⟩
    intro line member
    obtain ⟨one, -, rfl⟩ := List.mem_map.mp member
    exact isDoneLine_delta model one
  have both : forwardChatTranslation model (chunks.map .ok) =
      forwardOllamaChatViaOpenai model (chunks.map .ok) := by
    rw [forwardChatTranslation, forwardOllamaChatViaOpenai, translateChunks_ok _ _ _ _ (by simp),
      translateChunks_ok _ _ _ _ (by simp)]
  rw [← content]
  exact ⟨fun translated => translated.content, fun same => ⟨both, same, done⟩⟩

/-- A response that is cut between characters is translated without loss exactly when
its last line carries no content, or comes after the end mark. -/
theorem translated_iff (model : String) {chunks : List Bytes} {text : List Char}
    (cuts : AllText chunks) (whole : chunks.flatten = utf8 (String.ofList text)) :
    Translated model chunks text ↔
      marked (cutLines text).1 = true ∨ ∀ content, readSseLine (cutLines text).2 ≠ .delta content := by
  rw [translated_iff_decoded, decoded_text cuts whole, upstreamContents, deltasOf_append,
    ← deltasOf_last]
  cases marked (cutLines text).1 with
  | true => exact ⟨fun _ => .inl rfl, fun _ => (List.append_nil _).symm⟩
  | false => simp only [Bool.false_eq_true, if_false, false_or, List.self_eq_append_right]

/-- A response with one content delta. -/
private def oneDelta (ending : List Char) : List Char := (contentDelta "hi").toList ++ ending

private theorem oneDelta_cut (ending : List Char) :
    AllText [utf8 (String.ofList (oneDelta ending))] := by
  intro chunk member
  obtain rfl := List.mem_singleton.mp member
  rw [fromUtf8_utf8]
  rfl

private theorem contentDelta_quiet : '\n' ∉ (contentDelta "hi").toList := by decide

private theorem contentDelta_read : readSseLine (contentDelta "hi").toList = .delta "hi" := by
  decide

theorem translated_iff_sample :
    (AllText [utf8 (String.ofList (oneDelta ['\n']))] ∧
      [utf8 (String.ofList (oneDelta ['\n']))].flatten = utf8 (String.ofList (oneDelta ['\n']))) ∧
    (Translated "llama3" [utf8 (String.ofList (oneDelta ['\n']))] (oneDelta ['\n']) ↔
      marked (cutLines (oneDelta ['\n'])).1 = true ∨
        ∀ content, readSseLine (cutLines (oneDelta ['\n'])).2 ≠ .delta content) :=
  ⟨⟨oneDelta_cut ['\n'], List.flatten_singleton⟩,
    translated_iff "llama3" (oneDelta_cut ['\n']) List.flatten_singleton⟩

/-- A response whose last line has no newline loses that line. -/
theorem last_line_lost :
    ¬Translated "llama3" [utf8 (String.ofList (oneDelta []))] (oneDelta []) := by
  have cut : cutLines (oneDelta []) = ([], (contentDelta "hi").toList) := by
    rw [oneDelta, List.append_nil]
    exact cutLines_rest contentDelta_quiet
  rw [translated_iff_decoded, decoded_text (oneDelta_cut []) List.flatten_singleton,
    upstreamContents, cut]
  simp only [List.nil_append, deltasOf, contentDelta_read]
  decide

/-- A character that is cut in two arrives as two replacements. -/
example : [[0x68, 0xC3], [0xA9, 0x0A]].flatMap fromUtf8Lossy =
    ['h', Char.ofNat 0xFFFD, Char.ofNat 0xFFFD, '\n'] := by decide

end MtrxPeer
