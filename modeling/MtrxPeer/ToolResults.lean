import Mathlib.Data.List.Forall2
import MtrxPeer.RequestNormalizing

/-! What becomes of tool results in a request. A user's message may carry any number of them
beside other parts; the normalisation turns a message into one message. -/
namespace MtrxPeer

/-! ## Messages with results -/

/-- The parts of a message's content, if it has parts. -/
def contentParts (msg : Json) : List Json := ((msg.get "content").bind Json.asArray).getD []

/-- The tool results of a user's message. -/
def resultBlocks (msg : Json) : List Json :=
  if messageRole msg = some "user" then (contentParts msg).filter isToolResult else []

/-- The other parts of a message. -/
def otherParts (msg : Json) : List Json := (contentParts msg).filter (!isToolResult ·)

/-- A developer's message, as one of the system. -/
def developerAsSystem (msg : Json) : Json :=
  if messageRole msg = some "developer" then msg.insert "role" (.str "system") else msg

def isToolMessage (msg : Json) : Bool := messageRole msg = some "tool"

/-- A tool's message that has the identifier and the content of a result. -/
structure CarriesResult (block msg : Json) : Prop where
  role : isToolMessage msg = true
  id : ∀ id, block.get "tool_use_id" = some id → msg.get "tool_call_id" = some id
  content : ∀ content, block.get "content" = some content → msg.get "content" = some content

/-- What a message is to become: one message for each of its results, in order, and users'
messages with its other parts. A message without results stays one message. -/
def Becomes (msg : Json) (out : List Json) : Prop :=
  if resultBlocks msg = [] then out = [developerAsSystem msg]
  else
    List.Forall₂ CarriesResult (resultBlocks msg) (out.filter isToolMessage) ∧
      (∀ m ∈ out, isToolMessage m = false → messageRole m = some "user") ∧
      (out.filter (!isToolMessage ·)).flatMap contentParts = otherParts msg

/-- Each message of a list has become the messages it is to become, in the order of the list. -/
inductive ToolResultsSurvive : List Json → List Json → Prop where
  | nil : ToolResultsSurvive [] []
  | cons {msg : Json} {rest out more : List Json} (becomes : Becomes msg out)
      (others : ToolResultsSurvive rest more) : ToolResultsSurvive (msg :: rest) (out ++ more)

/-- A user's message that has a tool result has no other part. -/
def ResultAlone (msg : Json) : Prop := resultBlocks msg ≠ [] → ∃ block, contentParts msg = [block]

/-! ## One message -/

theorem normalizeMessageRoles_eq (msg : Json) : normalizeMessageRoles msg = some (developerAsSystem msg) := by
  unfold normalizeMessageRoles developerAsSystem
  split
  · rename_i developer
    obtain ⟨role, given, -⟩ := Option.bind_eq_some_iff.mp developer
    obtain ⟨fields, rfl⟩ := Json.get_some given
    rfl
  · rfl

private theorem developerAsSystem_user {msg : Json} (user : messageRole msg = some "user") :
    developerAsSystem msg = msg := by
  rw [developerAsSystem, user]
  rfl

private theorem user_of_resultBlocks {msg : Json} (some_ : resultBlocks msg ≠ []) :
    messageRole msg = some "user" := by
  by_contra other
  rw [resultBlocks, if_neg other] at some_
  exact some_ rfl

/-- The renaming makes no user. -/
private theorem user_of_renamed {msg : Json} (user : messageRole (developerAsSystem msg) = some "user") :
    messageRole msg = some "user" := by
  unfold developerAsSystem at user
  split at user
  · rename_i developer
    obtain ⟨role, given, -⟩ := Option.bind_eq_some_iff.mp developer
    obtain ⟨fields, rfl⟩ := Json.get_some given
    rw [Json.insert_obj, messageRole, Json.get_obj, Json.lookup_insertField_self, Option.bind_some,
      Json.asStr_str] at user
    exact absurd (Option.some.inj user) (by decide)
  · exact user

private theorem normalizeToolMessage_user {msg : Json} (user : messageRole msg = some "user") :
    normalizeToolMessage msg = some (match contentParts msg |>.filter isToolResult, otherParts msg with
      | [part], [] => toolResultMessage part
      | _, _ => msg) := by
  rw [normalizeToolMessage, normalizeMessageRoles_eq, Option.map_some, developerAsSystem_user user,
    if_pos user, otherParts, contentParts]
  cases (msg.get "content").bind Json.asArray with
  | none => rfl
  | some content => rfl

/-- A message without results is only renamed. -/
theorem normalizeToolMessage_plain {msg : Json} (none_ : resultBlocks msg = []) :
    normalizeToolMessage msg = some (developerAsSystem msg) := by
  by_cases user : messageRole msg = some "user"
  · rw [resultBlocks, if_pos user] at none_
    rw [normalizeToolMessage_user user, none_, developerAsSystem_user user]
  · rw [normalizeToolMessage, normalizeMessageRoles_eq, Option.map_some,
      if_neg fun renamed => user (user_of_renamed renamed)]

/-- A message that is a result becomes a tool's. -/
theorem normalizeToolMessage_alone {msg block : Json} (some_ : resultBlocks msg ≠ [])
    (alone : contentParts msg = [block]) :
    normalizeToolMessage msg = some (toolResultMessage block) ∧ resultBlocks msg = [block] ∧
      otherParts msg = [] := by
  have user := user_of_resultBlocks some_
  have result : isToolResult block = true := by
    by_contra other
    rw [resultBlocks, if_pos user, alone] at some_
    exact some_ (by simp [other])
  have results : (contentParts msg).filter isToolResult = [block] := by simp [alone, result]
  have others : otherParts msg = [] := by simp [otherParts, alone, result]
  refine ⟨?_, by rw [resultBlocks, if_pos user, results], others⟩
  rw [normalizeToolMessage_user user, results, others]

/-- A result beside other parts passes through. -/
theorem normalizeToolMessage_beside {msg : Json} (some_ : resultBlocks msg ≠ [])
    (beside : ¬ ∃ block, contentParts msg = [block]) : normalizeToolMessage msg = some msg := by
  have user := user_of_resultBlocks some_
  rw [normalizeToolMessage_user user]
  split
  · rename_i part results others
    refine absurd ⟨part, ?_⟩ beside
    have perm := List.filter_append_perm isToolResult (contentParts msg)
    rw [results, show (contentParts msg).filter (!isToolResult ·) = [] from others] at perm
    exact List.perm_singleton.mp perm.symm
  · rfl

/-! ## All messages -/

private theorem carriesResult_toolResultMessage (block : Json) :
    CarriesResult block (toolResultMessage block) := by
  refine ⟨rfl, ?_, ?_⟩
  · intro id given
    have field : (toolResultMessage block).get "tool_call_id" =
        some ((block.get "tool_use_id").getD (.str "")) := rfl
    rw [field, given, Option.getD_some]
  · intro content given
    have field : (toolResultMessage block).get "content" =
        some ((block.get "content").getD (.str "")) := rfl
    rw [field, given, Option.getD_some]

/-- A message becomes at least one. -/
private theorem Becomes.ne_nil {msg : Json} {out : List Json} (becomes : Becomes msg out) : out ≠ [] := by
  rintro rfl
  unfold Becomes at becomes
  split at becomes
  · cases becomes
  · rename_i some_
    exact some_ (List.forall₂_nil_right_iff.mp becomes.1)

private theorem ToolResultsSurvive.length_le {messages after : List Json}
    (survive : ToolResultsSurvive messages after) : messages.length ≤ after.length := by
  induction survive with
  | nil => exact Nat.le_refl 0
  | cons becomes _ ih =>
    have some_ := List.length_pos_of_ne_nil becomes.ne_nil
    rw [List.length_cons, List.length_append]
    omega

/-- The one message that is made of a message is what it is to become, unless a result stands
beside other parts. -/
private theorem becomes_one_iff {msg turned : Json} (made : normalizeToolMessage msg = some turned) :
    Becomes msg [turned] ↔ ResultAlone msg := by
  by_cases none_ : resultBlocks msg = []
  · obtain rfl := Option.some.inj (made.symm.trans (normalizeToolMessage_plain none_))
    rw [Becomes, if_pos none_]
    exact iff_of_true rfl fun some_ => absurd none_ some_
  · by_cases alone : ∃ block, contentParts msg = [block]
    · obtain ⟨block, single⟩ := alone
      obtain ⟨tool, results, others⟩ := normalizeToolMessage_alone none_ single
      obtain rfl := Option.some.inj (made.symm.trans tool)
      have carries := carriesResult_toolResultMessage block
      refine iff_of_true ?_ fun _ => ⟨block, single⟩
      rw [Becomes, if_neg none_, results, others]
      refine ⟨by simp [carries.role, carries], ?_, by simp [carries.role]⟩
      intro m member notTool
      obtain rfl := List.mem_singleton.mp member
      rw [carries.role] at notTool
      cases notTool
    · have same := Option.some.inj ((normalizeToolMessage_beside none_ alone).symm.trans made)
      subst same
      refine iff_of_false ?_ fun whole => alone (whole none_)
      -- what passed through is no tool's message
      intro becomes
      have notTool : isToolMessage msg = false := by
        rw [isToolMessage, user_of_resultBlocks none_]
        decide
      rw [Becomes, if_neg none_] at becomes
      have empty := becomes.1
      rw [List.filter_cons_of_neg (by simp [notTool]), List.filter_nil] at empty
      exact none_ (List.forall₂_nil_right_iff.mp empty)

private theorem mapM_forall₂ {α β : Type} {f : α → Option β} {items : List α} {outs : List β}
    (made : items.mapM f = some outs) : List.Forall₂ (fun item out => f item = some out) items outs := by
  induction items generalizing outs with
  | nil =>
    obtain rfl := Option.some.inj made
    exact .nil
  | cons item rest ih =>
    rw [List.mapM_cons] at made
    obtain ⟨out, first, made⟩ := Option.bind_eq_some_iff.mp made
    obtain ⟨others, more, same⟩ := Option.bind_eq_some_iff.mp made
    obtain rfl := Option.some.inj same
    exact .cons first (ih more)

/-- Where each message is turned into one, every result survives exactly if each stands alone. -/
private theorem survive_iff {messages after : List Json}
    (made : List.Forall₂ (fun msg turned => normalizeToolMessage msg = some turned) messages after) :
    ToolResultsSurvive messages after ↔ ∀ msg ∈ messages, ResultAlone msg := by
  induction made with
  | nil => exact iff_of_true .nil (by simp)
  | @cons msg turned messages after first others ih =>
    rw [List.forall_mem_cons, ← ih, ← becomes_one_iff first]
    constructor
    · intro survive
      generalize whole : turned :: after = all at survive
      cases survive with
      | @cons _ _ out more becomes rest =>
        -- each message becomes at least one, so this one became no more
        obtain ⟨head, tail, rfl⟩ := List.exists_cons_of_ne_nil becomes.ne_nil
        obtain ⟨rfl, same⟩ := List.cons.inj whole
        have same : after = tail ++ more := same
        subst same
        have enough := rest.length_le
        have count := others.length_eq
        rw [List.length_append] at count
        obtain rfl : tail = [] := List.eq_nil_of_length_eq_zero (by omega)
        exact ⟨becomes, rest⟩
    · rintro ⟨becomes, rest⟩
      exact .cons becomes rest

/-- The tool results of a request survive its normalisation exactly where each stands alone in
its message. -/
theorem tool_results_survive_iff (defaultPredict defaultCtx : Option Nat) {body : Json}
    {messages : List Json} (given : requestMessages body = some messages) :
    (∃ normalized after,
        normalizeChatRequestWithDefault defaultPredict defaultCtx body = some normalized ∧
          (normalized.get "messages").bind Json.asArray = some after ∧
          ToolResultsSurvive messages after) ↔
      ∀ msg ∈ messages, ResultAlone msg := by
  obtain ⟨normalized, after, done, made, kept⟩ :=
    normalizeChatRequest_messages defaultPredict defaultCtx given
  rw [← survive_iff (mapM_forall₂ made)]
  constructor
  · rintro ⟨normalized', after', done', kept', survive⟩
    obtain rfl := Option.some.inj (done.symm.trans done')
    obtain rfl := Option.some.inj (kept.symm.trans kept')
    exact survive
  · exact fun survive => ⟨normalized, after, done, kept, survive⟩

private def resultPart : Json :=
  .obj [("content", .str "42"), ("tool_use_id", .str "call_1"), ("type", .str "tool_result")]

private def textPart : Json := .obj [("text", .str "go on"), ("type", .str "text")]

/-- A request with one user's message. -/
private def resultRequest (parts : List Json) : Json :=
  .obj [("messages", .arr [userMessage (.arr parts)])]

theorem tool_results_survive_iff_sample :
    (∃ normalized after,
        normalizeChatRequestWithDefault none none (resultRequest [resultPart]) = some normalized ∧
          (normalized.get "messages").bind Json.asArray = some after ∧
          ToolResultsSurvive [userMessage (.arr [resultPart])] after) ↔
      ∀ msg ∈ [userMessage (.arr [resultPart])], ResultAlone msg :=
  tool_results_survive_iff none none rfl

/-- A result beside a text stays a part of the user's message. -/
theorem result_beside_text_lost :
    ¬ ∃ normalized after,
      normalizeChatRequestWithDefault none none (resultRequest [resultPart, textPart]) = some normalized ∧
        (normalized.get "messages").bind Json.asArray = some after ∧
        ToolResultsSurvive [userMessage (.arr [resultPart, textPart])] after := by
  rintro ⟨normalized, after, done, kept, survive⟩
  have passed : normalizeChatRequestWithDefault none none (resultRequest [resultPart, textPart]) =
      some (resultRequest [resultPart, textPart]) := rfl
  obtain rfl := Option.some.inj (passed.symm.trans done)
  obtain rfl := Option.some.inj
    ((rfl : _ = some [userMessage (.arr [resultPart, textPart])]).symm.trans kept)
  have made : List.Forall₂ (fun msg turned => normalizeToolMessage msg = some turned)
      [userMessage (.arr [resultPart, textPart])] [userMessage (.arr [resultPart, textPart])] :=
    .cons rfl .nil
  have results : resultBlocks (userMessage (.arr [resultPart, textPart])) = [resultPart] := rfl
  have alone := (survive_iff made).mp survive _ List.mem_cons_self
  obtain ⟨block, single⟩ := alone (by rw [results]; exact List.cons_ne_nil _ _)
  have two := congrArg List.length single
  rw [show contentParts (userMessage (.arr [resultPart, textPart])) = [resultPart, textPart] from rfl]
    at two
  cases two

end MtrxPeer
