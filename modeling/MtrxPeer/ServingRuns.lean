import MtrxPeer.ServingTasks

/-! Every encrypted request that is served in this process comes to its end, and none is
hurt by another, as long as no request begins while its consumer still waits for one. -/
namespace MtrxPeer

open Function (update update_of_ne update_self)

variable (host : Host)

/-! ## The chunks still to come -/

/-- The chunks in the end, if `chunks` are what is still to be read. -/
def ServingTask.rest (config : ClientConfig) (task : ServingTask) (chunks : List Bytes)
    (flush : ReverseFlush) : List StreamMessage :=
  let flushNow done (flush : ReverseFlush) := flushEncryptedPending host config task.answers
    task.request done flush.pending.length flush
  (flushNow true (chunks.foldl (fun flush chunk =>
    match fromUtf8 chunk with
    | some text => flushNow false { flush with pending := flush.pending ++ text.toList }
    | none => flush) flush)).queued

/-- What was sent of an answer that will have `chunks`. -/
def ServingTask.Streams (config : ClientConfig) (task : ServingTask) (flush : ReverseFlush)
    (chunks : List StreamMessage) : Prop :=
  task.sent = task.ack :: flush.queued ∧
    Answered host.crypto config task.request task.answers.upstream chunks

/-- What a flush loop with `fuel` still makes of an answer. -/
def ServingTask.flushed (config : ClientConfig) (task : ServingTask) (done : Bool)
    (items : List (Except String Bytes)) (fuel : Nat) (flush : ReverseFlush) : List StreamMessage :=
  let flush := flushEncryptedPending host config task.answers task.request done fuel flush
  if done then flush.queued else task.rest host config (okItems items) flush

/-- Whether what a task has sent agrees with where it is. -/
def ServingTask.Sound (task : ServingTask) : Prop :=
  match task.phase with
  | .spawned | .claimed | .dropped | .admitted => task.sent = []
  | .replying msg served | .sendingReply msg served => task.sent = [] ∧
    match served with
    | none => ∃ error, msg = task.refusal error
    | some _ => msg = task.ack
  | .forwarding _ => task.sent = [task.ack]
  | .receiving config items flush =>
    task.Streams host config flush (task.rest host config (okItems items) flush)
  | .received config item items flush =>
    task.Streams host config flush (task.rest host config (okItems (item :: items)) flush)
  | .flushing config done items flush => ∃ fuel, flush.pending.length ≤ fuel ∧
    task.Streams host config flush (task.flushed host config done items fuel flush)
  | .sealing config done items flush _ => ∃ fuel, flush.pending.length ≤ fuel ∧
    (reverseChunkBytes ≤ (String.ofList flush.pending).utf8ByteSize ∨ done = true) ∧
    task.Streams host config flush (task.flushed host config done items fuel flush)
  | .finished => task.Ended host

/-! ## Every request ends -/

/-- The steps that taking in an item may cost, with those for the text it brings. -/
def itemSteps : Except String Bytes → Nat
  | .ok chunk => 2 * ((fromUtf8 chunk).getD "").toList.length + 3
  | .error _ => 3

/-- The steps from waiting for the next item to the end. -/
def streamSteps (items : List (Except String Bytes)) (pending : List Char) : Nat :=
  (items.map itemSteps).sum + 2 * pending.length + 2

/-- How many steps a task can still take, if the answer takes `ahead` of them. -/
def ServingPhase.stepsLeft (ahead : Nat) : ServingPhase → Nat
  | .spawned => ahead + 7
  | .claimed => ahead + 6
  | .dropped => ahead + 5
  | .admitted => ahead + 4
  | .replying _ _ => ahead + 3
  | .sendingReply _ _ => ahead + 2
  | .forwarding _ => ahead + 1
  | .receiving _ items flush => streamSteps items flush.pending
  | .received _ item items flush => streamSteps items flush.pending + itemSteps item - 1
  | .flushing _ done items flush =>
    if done then 2 * flush.pending.length + 1 else streamSteps items flush.pending + 1
  | .sealing _ done items flush _ =>
    if done then 2 * flush.pending.length else streamSteps items flush.pending
  | .finished => 0

/-- The steps that what the backend streams may cost. -/
def ServingTask.answerSteps (task : ServingTask) : Nat :=
  match task.answers.upstream with
  | .ok items => streamSteps items []
  | .error _ => 0

def ServingTask.stepsLeft (task : ServingTask) : Nat := task.phase.stepsLeft task.answerSteps

variable {host}

theorem stepsLeft_eq_zero {task : ServingTask} : task.stepsLeft = 0 ↔ task.phase = .finished := by
  unfold ServingTask.stepsLeft
  cases task.phase with
  | finished => simp [ServingPhase.stepsLeft]
  | flushing config done items flush => cases done <;> simp [ServingPhase.stepsLeft]
  | received config item items flush =>
    cases item <;> simp [ServingPhase.stepsLeft, streamSteps, itemSteps]
  | sealing config done items flush some_ =>
    cases done <;> simp [ServingPhase.stepsLeft, streamSteps, some_]
  | _ => simp [ServingPhase.stepsLeft, streamSteps]

private theorem nextStreamChunk_shortens {pending : List Char} (some_ : pending ≠ []) :
    (pending.drop (nextStreamChunk reverseChunkBytes pending).length).length < pending.length := by
  unfold nextStreamChunk
  split
  · exact drop_fitting_length (by decide) some_
  · simpa [List.length_pos_iff] using some_

private theorem afterReply_steps (ahead : Nat) (served : Option Json) :
    (afterReply served).stepsLeft ahead ≤ ahead + 1 := by
  cases served with
  | none => exact Nat.zero_le _
  | some body => exact Nat.le_refl _

private theorem afterFlush_steps (ahead : Nat) (config : ClientConfig) (done : Bool)
    (items : List (Except String Bytes)) (flush : ReverseFlush) :
    (afterFlush config done items flush).stepsLeft ahead =
      if done then 0 else streamSteps items flush.pending := by
  cases done <;> rfl

private theorem afterItem_steps (ahead : Nat) (config : ClientConfig)
    (items : List (Except String Bytes)) (flush : ReverseFlush) (item : Except String Bytes) :
    (afterItem config items flush item).stepsLeft ahead + 1 <
      streamSteps items flush.pending + itemSteps item := by
  cases item with
  | error error =>
    simp only [afterItem, ServingPhase.stepsLeft, streamSteps, itemSteps, if_true]
    omega
  | ok chunk =>
    cases read : fromUtf8 chunk with
    | none =>
      simp only [afterItem, read, ServingPhase.stepsLeft, itemSteps]
      omega
    | some text =>
      simp only [afterItem, read, ServingPhase.stepsLeft, itemSteps, streamSteps,
        List.length_append, Option.getD_some, Bool.false_eq_true, if_false]
      omega

/-- A step brings a task nearer to its end. -/
theorem taskStep_stepsLeft (s : ServingState) (task : ServingTask) :
    (taskStep host s task).2.1.stepsLeft ≤ task.stepsLeft - 1 := by
  unfold taskStep ServingTask.stepsLeft
  cases phase : task.phase with
  | spawned => exact Nat.le_refl _
  | claimed => exact Nat.le_refl _
  | dropped =>
    dsimp only [ServingTask.moveTo]
    split
    · exact Nat.le_succ _
    · exact Nat.le_refl _
  | admitted =>
    dsimp only [ServingTask.moveTo]
    split
    · exact Nat.le_refl _
    · exact Nat.le_refl _
  | replying msg served =>
    dsimp only [ServingTask.moveTo]
    split
    · exact Nat.le_refl _
    · exact Nat.le_succ_of_le (afterReply_steps _ served)
  | sendingReply msg served => exact afterReply_steps _ served
  | forwarding body =>
    dsimp only [ServingTask.moveTo]
    split
    · rename_i items called
      have steps : task.answerSteps = streamSteps items [] := by
        rw [ServingTask.answerSteps, callOutcome_ok called]
      rw [steps]
      exact Nat.le_refl _
    · exact Nat.zero_le _
  | receiving config items flush =>
    cases items with
    | nil =>
      simp only [ServingTask.moveTo, ServingPhase.stepsLeft, streamSteps, if_true]
      omega
    | cons item rest =>
      simp only [ServingTask.moveTo, ServingPhase.stepsLeft, streamSteps, List.map_cons,
        List.sum_cons]
      omega
  | received config item items flush =>
    dsimp only [ServingTask.moveTo]
    split
    · have fewer := afterItem_steps task.answerSteps config items flush item
      exact Nat.le_sub_of_add_le (Nat.le_sub_of_add_le fewer)
    · have some_ : 3 ≤ itemSteps item := by cases item <;> simp [itemSteps]
      simp only [ServingPhase.stepsLeft, streamSteps, if_true]
      omega
  | flushing config done items flush =>
    dsimp only [ServingTask.moveTo]
    split
    · cases done <;> simp [ServingPhase.stepsLeft]
    · rw [afterFlush_steps]
      cases done <;> simp [ServingPhase.stepsLeft]
  | sealing config done items flush some_ =>
    have shorter := nextStreamChunk_shortens some_
    dsimp only [ServingTask.moveTo]
    split
    · dsimp only
      rw [afterFlush_steps]
      cases done with
      | false =>
        simp only [ServingPhase.stepsLeft, streamSteps, Bool.false_eq_true, if_false]
        omega
      | true => exact Nat.zero_le _
    · cases done with
      | false =>
        simp only [ServingPhase.stepsLeft, streamSteps, Bool.false_eq_true, if_false]
        omega
      | true =>
        simp only [ServingPhase.stepsLeft, if_true]
        omega
  | finished =>
    rw [phase]
    exact Nat.le_refl _

theorem taskStep_tasks (s : ServingState) (task : ServingTask) :
    (taskStep host s task).1.tasks = s.tasks := by
  unfold taskStep
  cases task.phase with
  | sealing config done items flush some_ =>
    dsimp only
    split <;> rfl
  | _ => rfl

/-- A move is the step of its task. -/
theorem servingStep_moves {s : ServingState} {i : Nat} {task : ServingTask}
    (found : s.tasks[i]? = some task) :
    servingStep host s (.moves i) =
      ({ (taskStep host s task).1 with tasks := s.tasks.set i (taskStep host s task).2.1 },
        (taskStep host s task).2.2) := by
  simp only [servingStep, found, taskStep_tasks]

theorem servingStep_idle {s : ServingState} {i : Nat} (none_ : s.tasks[i]? = none) :
    servingStep host s (.moves i) = (s, []) := by
  simp only [servingStep, none_]

/-- The tasks after an event: one more, or one that went on. -/
theorem servingStep_tasks (s : ServingState) (e : ServingEvent) :
    (servingStep host s e).1.tasks =
      match e with
      | .arrives incoming => s.tasks ++ [.spawn incoming]
      | .moves i => s.tasks.modify i fun task => (taskStep host s task).2.1
      | _ => s.tasks := by
  cases e with
  | moves i =>
    cases found : s.tasks[i]? with
    | none =>
      rw [servingStep_idle found]
      exact (List.modify_eq_self (List.getElem?_eq_none_iff.mp found)).symm
    | some task =>
      rw [servingStep_moves found]
      obtain ⟨below, rfl⟩ := List.getElem?_eq_some_iff.mp found
      refine List.ext_getElem? fun j => ?_
      rw [List.getElem?_modify, List.getElem?_set]
      by_cases same : i = j
      · subst same
        simp [below]
      · simp [same]
  | relays =>
    unfold servingStep sendOrQueueReverseProxy
    dsimp only
    split
    · rfl
    · split <;> rfl
  | _ => rfl

/-- Where a task of the state after an event comes from. -/
theorem servingStep_task {s : ServingState} {e : ServingEvent} {j : Nat} {task : ServingTask}
    (found : (servingStep host s e).1.tasks[j]? = some task) :
    (∃ older, e = .moves j ∧ s.tasks[j]? = some older ∧ task = (taskStep host s older).2.1) ∨
      (e ≠ .moves j ∧ s.tasks[j]? = some task) ∨ ∃ incoming, task = .spawn incoming := by
  rw [servingStep_tasks] at found
  cases e with
  | arrives incoming =>
    by_cases older : j < s.tasks.length
    · rw [List.getElem?_append_left older] at found
      exact .inr (.inl ⟨by simp, found⟩)
    · rw [List.getElem?_append_right (Nat.le_of_not_lt older)] at found
      exact .inr (.inr ⟨incoming, List.mem_singleton.mp (List.mem_of_getElem? found)⟩)
  | moves i =>
    rw [List.getElem?_modify] at found
    by_cases same : i = j
    · subst same
      cases there : s.tasks[i]? with
      | none => simp [there] at found
      | some older =>
        simp only [there, if_true, Option.map_eq_map, Option.map_some, Option.some.injEq] at found
        exact .inl ⟨older, rfl, rfl, found.symm⟩
    · refine .inr (.inl ⟨by simpa using same, ?_⟩)
      simpa [same] using found
  | _ => exact .inr (.inl ⟨by simp, found⟩)

/-- A task that goes on often enough comes to its end. -/
theorem serving_ends {s : ServingState} {i : Nat} (there : i < s.tasks.length) :
    ∃ n, ∀ events : List ServingEvent, n ≤ events.countP (ServingEvent.isMove i) →
      ((servingMachine host).after s events).Finished i := by
  let left (s : ServingState) : Nat := (s.tasks[i]?.map ServingTask.stepsLeft).getD 0
  refine ⟨left s, fun events often => ?_⟩
  have falls (s : ServingState) (e : ServingEvent) (there : i < s.tasks.length) :
      i < (servingStep host s e).1.tasks.length ∧
        left (servingStep host s e).1 ≤ left s - if ServingEvent.isMove i e then 1 else 0 := by
    simp only [left, servingStep_tasks]
    cases e with
    | arrives incoming =>
      rw [List.getElem?_append_left there]
      exact ⟨by simp; omega, Nat.le_refl _⟩
    | moves j =>
      rw [List.length_modify, List.getElem?_modify, List.getElem?_eq_getElem there]
      refine ⟨there, ?_⟩
      by_cases same : j = i
      · subst same
        simpa [ServingEvent.isMove] using taskStep_stepsLeft s s.tasks[j]
      · simp [same, Ne.symm same, ServingEvent.isMove]
    | _ => exact ⟨there, Nat.le_refl _⟩
  obtain ⟨there, used⟩ := Machine.after_countdown (m := servingMachine host) left _ falls there events
  refine ⟨_, List.getElem?_eq_getElem there, stepsLeft_eq_zero.mp ?_⟩
  have none_ : left ((servingMachine host).after s events) = 0 := by omega
  simpa only [left, List.getElem?_eq_getElem there, Option.map_some, Option.getD_some] using none_

/-! ## What a task has sent -/

private theorem flush_idle {config : ClientConfig} {answers : Answers} {request : EncryptedRequest}
    {done : Bool} {flush : ReverseFlush} (idle : ¬ (flush.pending ≠ [] ∧
      (reverseChunkBytes ≤ (String.ofList flush.pending).utf8ByteSize ∨ done = true))) (fuel : Nat) :
    flushEncryptedPending host config answers request done fuel flush = flush := by
  cases fuel with
  | zero => rfl
  | succ fuel =>
    unfold flushEncryptedPending
    split
    · rfl
    · rename_i some_
      rw [if_neg fun more => idle ⟨some_, more⟩]

private theorem afterFlush_sound {task : ServingTask} {config : ClientConfig} {done : Bool}
    {items : List (Except String Bytes)} {flush : ReverseFlush}
    (streams : task.Streams host config flush
      (if done then flush.queued else task.rest host config (okItems items) flush)) :
    (task.moveTo (afterFlush config done items flush)).Sound host := by
  cases done with
  | true => exact .inr ⟨config, flush.queued, streams⟩
  | false => exact streams

private theorem afterItem_sound {task : ServingTask} {config : ClientConfig}
    {item : Except String Bytes} {items : List (Except String Bytes)} {flush : ReverseFlush}
    (streams : task.Streams host config flush
      (task.rest host config (okItems (item :: items)) flush)) :
    (task.moveTo (afterItem config items flush item)).Sound host := by
  cases item with
  | error error => exact ⟨_, Nat.le_refl _, streams⟩
  | ok chunk =>
    rw [okItems, ServingTask.rest, List.foldl_cons] at streams
    unfold afterItem
    dsimp only
    cases read : fromUtf8 chunk with
    | none =>
      rw [read] at streams
      exact streams
    | some text =>
      rw [read] at streams
      exact ⟨_, Nat.le_refl _, streams⟩

/-- A request that is forwarded has its whole answer before it. -/
private theorem forwarded_sound (opens : host.crypto.Opens) {task : ServingTask} {config : ClientConfig}
    {items : List (Except String Bytes)} (acked : task.sent = [task.ack])
    (upstream : task.answers.upstream = .ok items) (ends : EndsMarked reverseChunkBytes items)
    (able : CanSeal host.crypto config task.request.roomId task.request.consumerEphemeralPk) :
    (task.moveTo (.receiving config items ⟨[], 0, []⟩)).Sound host := by
  refine ⟨acked, ?_⟩
  have whole := answered_stream_iff (by decide) opens task.long
    (@reverseChunks_eq config task.answers task.request host · items) (reverseChunks_unable · items)
  show Answered _ _ _ task.answers.upstream _
  rw [upstream]
  exact whole.mpr ⟨ends, able⟩

/-- One piece more is cut off and sent. -/
private theorem sealing_sound {s : ServingState} {task : ServingTask} {config : ClientConfig} {done : Bool}
    {items : List (Except String Bytes)} {flush : ReverseFlush} {some_ : flush.pending ≠ []}
    (phase : task.phase = .sealing config done items flush some_) (sound : task.Sound host) :
    (taskStep host s task).2.1.Sound host := by
  unfold ServingTask.Sound at sound
  rw [phase] at sound
  obtain ⟨fuel, enough, more, sent, answered⟩ := sound
  have shorter := nextStreamChunk_shortens some_
  unfold taskStep
  rw [phase]
  cases fuel with
  | zero => exact absurd (List.length_eq_zero_iff.mp (Nat.le_zero.mp enough)) some_
  | succ fuel =>
    rw [ServingTask.flushed, flushEncryptedPending, if_neg some_, if_pos more] at answered
    dsimp only at answered ⊢
    split
    · rename_i error failed
      rw [failed] at answered
      exact afterFlush_sound ⟨sent, answered⟩
    · rename_i enc sealed_
      rw [sealed_] at answered
      refine ⟨fuel, by dsimp only; omega, ?_, answered⟩
      dsimp only
      rw [sent]
      rfl

/-- A task sends its refusal, or the acknowledgement that its answer follows. -/
private theorem sendingReply_sound {s : ServingState} {task : ServingTask} {msg : StreamMessage}
    {served : Option Json} (phase : task.phase = .sendingReply msg served) (sound : task.Sound host) :
    (taskStep host s task).2.1.Sound host := by
  unfold ServingTask.Sound at sound
  rw [phase] at sound
  obtain ⟨unsent, reply⟩ := sound
  unfold taskStep
  rw [phase]
  cases served with
  | none =>
    obtain ⟨error, rfl⟩ := reply
    refine .inl ⟨error, ?_⟩
    dsimp only
    rw [unsent]
    rfl
  | some body =>
    obtain rfl := reply
    show task.sent ++ [task.ack] = [task.ack]
    rw [unsent]
    rfl

/-- A flush that has nothing to seal yet leaves the rest of the stream to come. -/
private theorem flushing_sound {s : ServingState} {task : ServingTask} {config : ClientConfig}
    {done : Bool} {items : List (Except String Bytes)} {flush : ReverseFlush}
    (phase : task.phase = .flushing config done items flush) (sound : task.Sound host)
    (active : ¬ (done = true ∧ flush.pending = []) →
      encryptedProxyStillActive s.activeEncryptedProxies task = true) :
    (taskStep host s task).2.1.Sound host := by
  unfold ServingTask.Sound at sound
  rw [phase] at sound
  obtain ⟨fuel, enough, streams⟩ := sound
  unfold taskStep
  rw [phase]
  dsimp only
  split
  · rename_i more
    exact ⟨fuel, enough, more.2.2, streams⟩
  · rename_i stops
    have idle : ¬ (flush.pending ≠ [] ∧
        (reverseChunkBytes ≤ (String.ofList flush.pending).utf8ByteSize ∨ done = true)) :=
      fun more => stops ⟨active fun ended => more.1 ended.2, more⟩
    rw [ServingTask.flushed, flush_idle idle] at streams
    exact afterFlush_sound streams

/-- What a step sends agrees with where it leads. -/
theorem taskStep_sound (opens : host.crypto.Opens) {s : ServingState} {task : ServingTask} {i : Nat}
    (sound : task.Sound host)
    (active : task.Speaks → encryptedProxyStillActive s.activeEncryptedProxies task = true)
    (found : s.tasks[i]? = some task) (undisturbed : Undisturbed host s (.moves i)) :
    (taskStep host s task).2.1.Sound host := by
  have meets := undisturbed task found
  have kept := sound
  unfold ServingTask.Sound at sound
  unfold ServingTask.Speaks at active
  cases phase : task.phase with
  | sealing config done items flush some_ => exact sealing_sound phase kept
  | spawned =>
    rw [phase] at sound
    unfold taskStep
    rw [phase]
    exact sound
  | claimed =>
    rw [phase] at sound
    unfold taskStep
    rw [phase]
    exact sound
  | dropped =>
    rw [phase] at sound
    unfold taskStep
    rw [phase]
    dsimp only
    split
    · exact ⟨sound, _, rfl⟩
    · exact sound
  | admitted =>
    rw [phase] at sound
    unfold taskStep
    rw [phase]
    dsimp only
    split
    · exact ⟨sound, _, rfl⟩
    · exact ⟨sound, rfl⟩
  | replying msg served =>
    rw [phase] at sound active
    unfold taskStep
    rw [phase]
    dsimp only
    rw [if_pos (active trivial)]
    exact sound
  | sendingReply msg served => exact sendingReply_sound phase kept
  | forwarding body =>
    rw [phase] at sound meets
    obtain ⟨items, called, ends, able⟩ := meets
    unfold taskStep
    rw [phase]
    dsimp only
    rw [called]
    exact forwarded_sound opens sound (callOutcome_ok called) ends able
  | receiving config items flush =>
    rw [phase] at sound
    unfold taskStep
    rw [phase]
    cases items with
    | nil => exact ⟨_, Nat.le_refl _, sound⟩
    | cons item rest => exact sound
  | received config item items flush =>
    rw [phase] at sound active
    unfold taskStep
    rw [phase]
    dsimp only
    rw [if_pos (active trivial)]
    exact afterItem_sound sound
  | flushing config done items flush =>
    rw [phase] at active
    exact flushing_sound phase kept active
  | finished =>
    unfold taskStep
    rw [phase]
    exact kept

/-! ## Slots and queues over a run -/

private theorem taskStep_incoming (s : ServingState) (task : ServingTask) :
    (taskStep host s task).2.1.toIncomingRequest = task.toIncomingRequest := by
  unfold taskStep
  cases task.phase with
  | sealing config done items flush some_ =>
    dsimp only
    split <;> rfl
  | _ => rfl

/-- Only a task that begins touches the slots. -/
private theorem taskStep_slots {s : ServingState} {task : ServingTask} (begun : task.phase ≠ .spawned) :
    (taskStep host s task).1.activeEncryptedProxies = s.activeEncryptedProxies ∧
      (taskStep host s task).2.1.generation = task.generation := by
  unfold taskStep
  cases phase : task.phase with
  | spawned => exact absurd phase begun
  | sealing config done items flush some_ =>
    dsimp only
    split <;> exact ⟨rfl, rfl⟩
  | _ => exact ⟨rfl, rfl⟩

/-- A task that is silent stays so. -/
private theorem taskStep_speaks {s : ServingState} {task : ServingTask} (begun : task.phase ≠ .spawned)
    (speaks : (taskStep host s task).2.1.Speaks) : task.Speaks := by
  unfold taskStep at speaks
  unfold ServingTask.Speaks
  cases phase : task.phase with
  | spawned => exact absurd phase begun
  | finished =>
    rw [phase] at speaks
    unfold ServingTask.Speaks at speaks
    rw [phase] at speaks
    exact speaks
  | flushing config done items flush =>
    rintro ⟨rfl, empty⟩
    rw [phase] at speaks
    dsimp only at speaks
    rw [dif_neg fun more => more.2.1 empty] at speaks
    exact speaks
  | _ => trivial

private theorem encryptedProxyStillActive_congr {slots slots' : PeerId → Option EncryptedProxySlot}
    {task task' : ServingTask} (incoming : task'.toIncomingRequest = task.toIncomingRequest)
    (generation : task'.generation = task.generation)
    (slot : slots' task.consumer = slots task.consumer) :
    encryptedProxyStillActive slots' task' = encryptedProxyStillActive slots task := by
  unfold encryptedProxyStillActive
  rw [incoming, generation, slot]

private theorem claimed_active (slots : PeerId → Option EncryptedProxySlot) {task : ServingTask}
    (claims : task.generation = nextGeneration slots task.consumer) :
    encryptedProxyStillActive (claimEncryptedProxySlot slots task.consumer task.request.reqId) task =
      true := by
  unfold encryptedProxyStillActive claimEncryptedProxySlot
  rw [update_self]
  simp [claims]

/-- An event leaves the slots alone, unless a task begins. -/
private theorem servingStep_slots {s : ServingState} {e : ServingEvent}
    (none_ : ∀ i task, e = .moves i → s.tasks[i]? = some task → task.phase ≠ .spawned) :
    (servingStep host s e).1.activeEncryptedProxies = s.activeEncryptedProxies := by
  cases e with
  | moves i =>
    cases found : s.tasks[i]? with
    | none => rw [servingStep_idle found]
    | some task =>
      rw [servingStep_moves found]
      exact (taskStep_slots (none_ i task rfl found)).1
  | relays =>
    unfold servingStep sendOrQueueReverseProxy
    dsimp only
    split
    · rfl
    · split <;> rfl
  | _ => rfl

private theorem taskStep_claims {s : ServingState} {task : ServingTask} (spawned : task.phase = .spawned) :
    (taskStep host s task).1.activeEncryptedProxies =
        claimEncryptedProxySlot s.activeEncryptedProxies task.consumer task.request.reqId ∧
      (taskStep host s task).2.1.generation =
        nextGeneration s.activeEncryptedProxies task.consumer := by
  unfold taskStep
  rw [spawned]
  exact ⟨rfl, rfl⟩

/-- Whoever still speaks has the slot of its consumer. -/
private theorem servingStep_active {s : ServingState} {e : ServingEvent}
    (active : ∀ task ∈ s.tasks, task.Speaks →
      encryptedProxyStillActive s.activeEncryptedProxies task = true)
    (undisturbed : Undisturbed host s e) :
    ∀ task ∈ (servingStep host s e).1.tasks, task.Speaks →
      encryptedProxyStillActive (servingStep host s e).1.activeEncryptedProxies task = true := by
  intro task member speaks
  obtain ⟨j, found⟩ := List.mem_iff_getElem?.mp member
  rcases servingStep_task found with ⟨older, rfl, there, rfl⟩ | ⟨other, there⟩ | ⟨incoming, rfl⟩
  · have incoming := @taskStep_incoming host s older
    rw [servingStep_moves there]
    by_cases begins : older.phase = .spawned
    · obtain ⟨slots, generation⟩ := @taskStep_claims host s older begins
      dsimp only
      rw [slots, ← incoming]
      refine claimed_active _ ?_
      rw [generation, incoming]
    · obtain ⟨slots, generation⟩ := @taskStep_slots host s older begins
      rw [encryptedProxyStillActive_congr incoming generation (congrFun slots _)]
      exact active older (List.mem_of_getElem? there) (taskStep_speaks begins speaks)
  · have before := active task (List.mem_of_getElem? there) speaks
    by_cases begins : ∃ i mover, e = .moves i ∧ s.tasks[i]? = some mover ∧ mover.phase = .spawned
    · obtain ⟨i, mover, rfl, moves, spawned⟩ := begins
      have quiet := undisturbed mover moves
      rw [spawned] at quiet
      have apart : task.consumer ≠ mover.consumer := fun same =>
        quiet j task (fun itself => other (by rw [itself])) there same speaks
      rw [servingStep_moves moves, encryptedProxyStillActive_congr rfl rfl, before]
      rw [(taskStep_claims spawned).1]
      exact update_of_ne apart _ _
    · rw [servingStep_slots, before]
      intro i mover moves at_ spawned
      exact begins ⟨i, mover, moves, at_, spawned⟩
  · exact absurd speaks id

private theorem taskStep_reverse (s : ServingState) (task : ServingTask) :
    ∃ more, (taskStep host s task).1.reverse = s.reverse ++ more := by
  unfold taskStep
  cases task.phase with
  | sealing config done items flush some_ =>
    dsimp only
    split
    · exact ⟨[], (List.append_nil _).symm⟩
    · exact ⟨_, rfl⟩
  | _ => exact ⟨[], (List.append_nil _).symm⟩

/-- A step drops no chunks if none are queued for a consumer whose request begins. -/
private theorem taskStep_pending {s : ServingState} {task : ServingTask}
    (quiet : task.phase = .claimed → s.pendingReverseProxies task.consumer = []) :
    (taskStep host s task).1.pendingReverseProxies = s.pendingReverseProxies := by
  unfold taskStep
  cases phase : task.phase with
  | claimed =>
    have nothing := quiet phase
    dsimp only
    rw [← nothing, Function.update_eq_self]
  | sealing config done items flush some_ =>
    dsimp only
    split <;> rfl
  | _ => rfl

/-- What a step sends goes to the consumer or on its way there. -/
private theorem taskStep_sent {s : ServingState} {task : ServingTask}
    (there : ∀ msg served, task.phase = .sendingReply msg served → task.answers.channelOpen = true)
    {msg : StreamMessage} (sent : msg ∈ (taskStep host s task).2.1.sent) :
    msg ∈ task.sent ∨ .respond task.consumer msg ∈ (taskStep host s task).2.2 ∨
      (task.consumer, msg) ∈ (taskStep host s task).1.reverse := by
  unfold taskStep at sent ⊢
  cases phase : task.phase with
  | sendingReply reply served =>
    rw [phase] at sent
    rcases List.mem_append.mp sent with older | new
    · exact .inl older
    · obtain rfl := List.mem_singleton.mp new
      refine .inr (.inl ?_)
      dsimp only [respond]
      rw [if_pos (there msg served phase)]
      exact List.mem_singleton_self _
  | sealing config done items flush some_ =>
    rw [phase] at sent
    dsimp only at sent ⊢
    split at sent
    · exact .inl sent
    · rename_i enc sealed_
      rcases List.mem_append.mp sent with older | new
      · exact .inl older
      · obtain rfl := List.mem_singleton.mp new
        exact .inr (.inr (List.mem_append_right _ (List.mem_singleton_self _)))
  | _ =>
    rw [phase] at sent
    exact .inl sent

/-- What waits for a connection goes on waiting, or goes out when it is made. -/
private theorem waits_step {past : List ServingRecord} {s : ServingState} {e : ServingEvent}
    (undisturbed : Undisturbed host s e) {consumer : PeerId} {msg : StreamMessage}
    (waits : msg ∈ s.pendingReverseProxies consumer) :
    Gone ((servingMachine host).record s e :: past) (servingStep host s e).1 consumer msg := by
  refine or_iff_not_imp_left.mpr fun unheard => .inl ?_
  cases e with
  | moves i =>
    cases found : s.tasks[i]? with
    | none =>
      rw [servingStep_idle found]
      exact waits
    | some task =>
      have quiet := undisturbed task found
      rw [servingStep_moves found]
      dsimp only
      rw [taskStep_pending fun claimed => by rwa [claimed] at quiet]
      exact waits
  | relays =>
    unfold servingStep sendOrQueueReverseProxy
    cases s.reverse with
    | nil => exact waits
    | cons first rest =>
      dsimp only
      split
      · exact waits
      · dsimp only
        by_cases same : consumer = first.1
        · subst same
          rw [update_self]
          exact List.mem_append_left _ waits
        · rw [update_of_ne same]
          exact waits
  | connectionEstablished peer =>
    by_cases same : consumer = peer
    · subst same
      refine absurd ⟨_, List.mem_cons_self, .inr ?_⟩ unheard
      exact List.mem_map_of_mem waits
    · show msg ∈ update s.pendingReverseProxies peer [] consumer
      rw [update_of_ne same]
      exact waits
  | _ => exact waits

/-- What travels to the connection goes out, or waits for it. -/
private theorem travels_step {past : List ServingRecord} {s : ServingState} {e : ServingEvent}
    {consumer : PeerId} {msg : StreamMessage} (travels : (consumer, msg) ∈ s.reverse) :
    Gone ((servingMachine host).record s e :: past) (servingStep host s e).1 consumer msg := by
  cases e with
  | moves i =>
    cases found : s.tasks[i]? with
    | none =>
      rw [servingStep_idle found]
      exact .inr (.inr travels)
    | some task =>
      rw [servingStep_moves found]
      obtain ⟨more, longer⟩ := @taskStep_reverse host s task
      refine .inr (.inr ?_)
      dsimp only
      rw [longer]
      exact List.mem_append_left _ travels
  | relays =>
    cases queue : s.reverse with
    | nil =>
      rw [queue] at travels
      cases travels
    | cons first rest =>
      rw [queue] at travels
      have stepped : servingStep host s .relays =
          sendOrQueueReverseProxy { s with reverse := rest } first.1 first.2 := by
        simp only [servingStep, queue]
      rcases List.mem_cons.mp travels with rfl | later
      · by_cases open_ : s.connected consumer
        · refine .inl ⟨_, List.mem_cons_self, .inr ?_⟩
          show SwarmOutput.send consumer msg ∈ (servingStep host s .relays).2
          rw [stepped, sendOrQueueReverseProxy, if_pos open_]
          exact List.mem_singleton_self _
        · refine .inr (.inl ?_)
          rw [stepped, sendOrQueueReverseProxy, if_neg open_]
          dsimp only
          rw [update_self]
          exact List.mem_append_right _ (List.mem_singleton_self _)
      · refine .inr (.inr ?_)
        rw [stepped, sendOrQueueReverseProxy]
        split
        · exact later
        · exact later
  | _ => exact .inr (.inr travels)

/-- What has gone out or waits still does after an event. -/
private theorem gone_step {past : List ServingRecord} {s : ServingState} {e : ServingEvent}
    (undisturbed : Undisturbed host s e) {consumer : PeerId} {msg : StreamMessage}
    (gone : Gone past s consumer msg) :
    Gone ((servingMachine host).record s e :: past) (servingStep host s e).1 consumer msg := by
  rcases gone with ⟨r, member, out⟩ | waits | travels
  · exact .inl ⟨r, List.mem_cons_of_mem _ member, out⟩
  · exact waits_step undisturbed waits
  · exact travels_step travels

/-- What holds of the tasks, the slots and the queues throughout an undisturbed run. -/
private structure Serving (host : Host) (past : List ServingRecord) (s : ServingState) : Prop where
  sound : ∀ task ∈ s.tasks, task.Sound host
  active : ∀ task ∈ s.tasks, task.Speaks →
    encryptedProxyStillActive s.activeEncryptedProxies task = true
  kept : ∀ task ∈ s.tasks, ∀ msg ∈ task.sent, Gone past s task.consumer msg

private theorem serving_step (opens : host.crypto.Opens) {past : List ServingRecord}
    {s : ServingState} {e : ServingEvent} (serving : Serving host past s)
    (undisturbed : Undisturbed host s e) :
    Serving host ((servingMachine host).record s e :: past) (servingStep host s e).1 := by
  obtain ⟨sound, active, kept⟩ := serving
  refine ⟨?_, servingStep_active active undisturbed, ?_⟩
  · intro task member
    obtain ⟨j, found⟩ := List.mem_iff_getElem?.mp member
    rcases servingStep_task found with ⟨older, rfl, there, rfl⟩ | ⟨-, there⟩ | ⟨incoming, rfl⟩
    · have member := List.mem_of_getElem? there
      exact taskStep_sound opens (sound older member) (active older member) there undisturbed
    · exact sound task (List.mem_of_getElem? there)
    · rfl
  · intro task member msg sent
    obtain ⟨j, found⟩ := List.mem_iff_getElem?.mp member
    rcases servingStep_task found with ⟨older, rfl, there, rfl⟩ | ⟨-, there⟩ | ⟨incoming, rfl⟩
    · have incoming := @taskStep_incoming host s older
      have meets := undisturbed older there
      rw [incoming]
      rcases taskStep_sent (fun msg served phase => by rwa [phase] at meets) sent with
        before | out | travels
      · exact gone_step undisturbed (kept older (List.mem_of_getElem? there) msg before)
      · refine .inl ⟨_, List.mem_cons_self, .inl ?_⟩
        show _ ∈ (servingStep host s (.moves j)).2
        rw [servingStep_moves there]
        exact out
      · refine .inr (.inr ?_)
        rw [servingStep_moves there]
        exact travels
    · exact gone_step undisturbed (kept task (List.mem_of_getElem? there) msg sent)
    · cases sent

instance (items : List (Except String Bytes)) : Decidable (EndsMarked reverseChunkBytes items) :=
  decidable_of_iff (Unbroken items ∧ (∀ chunk ∈ okItems items, (fromUtf8 chunk).isSome = true) ∧
      (fullPieces reverseChunkBytes (readText (okItems items))).2 ≠ [] ∧
      (allPieces reverseChunkBytes (readText (okItems items))).length ≤ 2 ^ 32)
    ⟨fun ⟨unbroken, text, left, count⟩ => ⟨unbroken, text, left, count⟩,
      fun ends => ⟨ends.unbroken, ends.text, ends.left, ends.count⟩⟩

/-- A check that a step of the only request is undisturbed. -/
private def aloneUndisturbed (host : Host) (r : ServingRecord) : Bool :=
  match r.event, r.before.tasks with
  | .moves _, [task] =>
    match task.phase with
    | .claimed => (r.before.pendingReverseProxies task.consumer).isEmpty
    | .sendingReply _ _ => task.answers.channelOpen
    | .forwarding body =>
      match callOutcome r.before.proxy.registry task.answers
        (task.call host r.before.proxy.config body) with
      | some (.ok items) => EndsMarked reverseChunkBytes items ∧ CanSeal host.crypto
          r.before.proxy.config task.request.roomId task.request.consumerEphemeralPk
      | _ => false
    | _ => true
  | .moves _, _ => false
  | _, _ => true

private theorem undisturbed_of_alone {r : ServingRecord} (alone : aloneUndisturbed host r = true) :
    Undisturbed host r.before r.event := by
  rcases r with ⟨s, e, outputs⟩
  cases e with
  | moves i =>
    intro task found
    unfold aloneUndisturbed at alone
    dsimp only at alone ⊢
    cases tasks : s.tasks with
    | nil => simp [tasks] at alone
    | cons only others =>
      cases others with
      | cons second others => simp [tasks] at alone
      | nil =>
        simp only [tasks] at alone found
        obtain ⟨rfl, rfl⟩ : i = 0 ∧ task = only := by
          cases i with
          | zero => exact ⟨rfl, (Option.some.inj found).symm⟩
          | succ i => cases found
        cases phase : task.phase with
        | spawned =>
          intro j other apart there
          cases j with
          | zero => exact absurd rfl apart
          | succ j => cases there
        | claimed =>
          simp only [phase] at alone
          exact List.isEmpty_iff.mp alone
        | sendingReply msg served =>
          simp only [phase] at alone
          exact alone
        | forwarding body =>
          simp only [phase] at alone
          split at alone
          · rename_i items called
            exact ⟨items, called, of_decide_eq_true alone⟩
          · cases alone
        | _ => trivial
  | _ => trivial

/-- A request of the consumer `P`, encrypted with the ephemeral secret 7. -/
private def sampleIncoming (reqId : String) : IncomingRequest where
  consumer := "P"
  name := "P"
  request := ⟨reqId, "/api/chat", "c", Primitives.transparent.publicKey [7], aadVersion, none⟩
  nonce := List.replicate 12 0
  ciphertext :=
    (encryptPayload .transparent (deriveSessionKeyConsumer .transparent [7]
      ((providerStaticPublicKey .transparent sampleConfig "c").toOption.getD []) reqId "c") reqId
      "/api/chat" "c" (List.replicate 12 0) (utf8 (sampleBody "llama3").toText)).ciphertext
  answers := { sampleAnswers with upstream := .ok [.ok (utf8 "hi")] }
  long := fun i => by simp [sampleAnswers]

/-- A run of the sample peer, to whose consumers nothing is connected at first. -/
private def sampleServingRun (events : List ServingEvent) : List ServingRecord × ServingState :=
  (servingMachine (sampleHost true false)).history (.initial sampleProxy fun _ => false) events

/-- The events in which the only request is served to its end. -/
private def servedAlone : List ServingEvent :=
  .arrives (sampleIncoming "1") :: List.replicate 14 (.moves 0) ++ [.relays]

/-- A second request of the consumer comes while the first is answered, or when the
answer waits for the consumer to be connected. -/
private def overtaken (steps : Nat) (later : List ServingEvent) : List ServingEvent :=
  .arrives (sampleIncoming "1") :: List.replicate steps (.moves 0) ++
    [.relays, .arrives (sampleIncoming "2"), .moves 1, .moves 1] ++ later

/-- The first task has finished, and all it sent is an acknowledgement. -/
private def leftUnanswered (s : ServingState) : Bool :=
  match s.tasks[0]? with
  | some task =>
    match task.phase with
    | .finished => task.sent.length = 1 ∧ ¬ task.sent.any StreamMessage.tellsError
    | _ => false
  | none => false

private theorem not_finish_of_unanswered {past : List ServingRecord} {s : ServingState}
    (unanswered : leftUnanswered s = true) : ¬ RequestsFinish host past s := by
  intro finish
  unfold leftUnanswered at unanswered
  split at unanswered
  · rename_i task found
    split at unanswered
    · rename_i done
      obtain ⟨one, silent⟩ := of_decide_eq_true unanswered
      rcases finish.ended task (List.mem_of_getElem? found) done with
        ⟨error, refused⟩ | ⟨config, chunks, acked, answered⟩
      · rw [refused] at silent
        exact silent rfl
      · rw [acked, List.length_cons] at one
        obtain rfl := List.length_eq_zero_iff.mp (Nat.succ.inj one)
        exact not_answered_nil answered
    · cases unanswered
  · cases unanswered

private def SwarmOutput.carriesEnd : SwarmOutput → Bool
  | .respond _ msg | .send _ msg => msg.endsAnswer
  | _ => false

/-- The first task has sent the end of an answer that is nowhere. -/
private def lostItsEnd (past : List ServingRecord) (s : ServingState) : Bool :=
  match s.tasks[0]? with
  | some task => task.sent.any StreamMessage.endsAnswer ∧ (s.pendingReverseProxies task.consumer).isEmpty ∧
      s.reverse.isEmpty ∧ ¬ past.any fun r => r.outputs.any SwarmOutput.carriesEnd
  | none => false

private theorem not_finish_of_lost {past : List ServingRecord} {s : ServingState}
    (lost : lostItsEnd past s = true) : ¬ RequestsFinish host past s := by
  intro finish
  unfold lostItsEnd at lost
  split at lost
  · rename_i task found
    obtain ⟨ended, unqueued, untravelled, unheard⟩ := of_decide_eq_true lost
    obtain ⟨msg, sent, ends⟩ := List.any_eq_true.mp ended
    rcases finish.kept task (List.mem_of_getElem? found) msg sent with
      ⟨r, member, out⟩ | waits | travels
    · refine unheard (List.any_eq_true.mpr ⟨r, member, List.any_eq_true.mpr ?_⟩)
      rcases out with replied | went
      · exact ⟨_, replied, ends⟩
      · exact ⟨_, went, ends⟩
    · rw [List.isEmpty_iff.mp unqueued] at waits
      cases waits
    · rw [List.isEmpty_iff.mp untravelled] at travels
      cases travels
  · cases lost

end MtrxPeer
