import PriorityKernel.Proofs.Scheduler.Operation

namespace PriorityKernel

/-- Whether the deed moved a message. -/
def Deed.IsMail : Deed → Prop
  | .sent .. | .taken .. => True
  | .prepared .. | .parked _ => False

open Scheduler

/-- What an operation can come to. -/
inductive Operation.Effect (state : Scheduler) (outcome : Outcome (Option Handover)) : Operation → Prop
  /-- One task may have changed, and no message moved. -/
  | shifted {operation} (id : TaskId) (shift : state.Shift id outcome.next)
      (silent : ∀ deed ∈ outcome.deeds, ¬deed.IsMail)
      (reply : outcome.reply = .ok none ∨ ∃ error, outcome.reply = .error (.refused error)) :
      Effect state outcome operation
  | taken {task message rest} (here : state.tasks.get? task.id = some task)
      (oldest : task.messages = message :: rest) (next : outcome.next = state.repost task rest)
      (deeds : outcome.deeds = [.taken task.id message]) (reply : outcome.reply = .ok none) :
      Effect state outcome (.receive task.id)
  | sent {task message} (here : state.tasks.get? task.id = some task)
      (shift : (state.repost task (task.messages ++ [message])).Shift task.id outcome.next)
      (deeds : outcome.deeds = [.sent task.id message]) (reply : outcome.reply = .ok none) :
      Effect state outcome (.send task.id message)
  /-- The executing task was put aside, and the next one was picked. -/
  | decided {operation sleeping outgoing incoming} (decides : operation.Decides state)
      (executing : state.current? = some outgoing) (next : outcome.next = (state.aside sleeping outgoing).settle)
      (sound : outcome.next.Sound) (chosen : outcome.next.current? = some incoming)
      (reply : outcome.reply = .ok (if outgoing = incoming then none else some ⟨outgoing, incoming⟩))
      (silent : ∀ deed ∈ outcome.deeds, ¬deed.IsMail) : Effect state outcome operation

namespace Operation

variable {state : Scheduler}

theorem effect_of_refused {outcome : Outcome (Option Handover)} {operation : Operation} (id : TaskId)
    {error : TaskError} (refused : outcome = Outcome.refuse error state) : Effect state outcome operation := by
  subst refused
  exact .shifted id .stay (by simp [Outcome.refuse]) (Or.inr ⟨error, rfl⟩)

theorem effect_switch (sound : state.Sound) (operation : Operation) (decides : operation.Decides state)
    (sleeping : Bool) : Effect state (state.switch sleeping) operation := by
  obtain ⟨outgoing, incoming, executing, after, chosen, made⟩ := sound.switch sleeping
  rw [made]
  refine .decided decides executing rfl after chosen rfl ?_
  intro deed member
  dsimp only at member
  split at member
  · rw [List.mem_singleton.mp member]
    exact id
  · simp at member

theorem absent_ne_idle (sound : state.Sound) {id : TaskId} (absent : state.tasks.get? id = none) :
    id ≠ state.idle := by
  obtain ⟨task, here, _⟩ := sound.idle_task
  rintro rfl
  rw [sound.idle, here] at absent
  exact Option.some_ne_none _ absent

theorem outcome_of_absent (sound : state.Sound) {operation : Operation} {id : TaskId}
    (addressed : operation.addressee? = some id) (absent : state.tasks.get? id = none) :
    operation.outcome state = Outcome.refuse (.noSuchTask id) state := by
  cases operation with
  | create | switch => cases addressed
  | sleep =>
    cases addressed
    obtain ⟨front, executing⟩ := sound.executing
    simp only [outcome, Scheduler.sleep, absent_ne_idle sound absent, if_false, withCurrent, executing,
      withTask_none absent]
  | prepare | receive | send | wakeup | setLevel =>
    cases addressed
    simp only [outcome, Scheduler.prepare, Scheduler.receive, Scheduler.send, Scheduler.wakeup, Scheduler.setLevel,
      withTask_none absent]
    rfl

theorem effect_of_here (sound : state.Sound) {operation : Operation} {task : Task}
    (addressed : operation.addressee? = some task.id) (here : state.tasks.get? task.id = some task) :
    Effect state (operation.outcome state) operation := by
  have plain : ∀ {α : Type} {outcome : Outcome α}, state.Shift task.id outcome.next → outcome.deeds = [] →
      (∃ value, outcome.reply = .ok value) → Effect state (outcome.map fun _ => none) operation := by
    rintro α outcome shift deeds ⟨value, reply⟩
    exact .shifted task.id shift (by simp [Outcome.map, deeds]) (Or.inl (by simp [Outcome.map, reply, Except.map]))
  cases operation with
  | create | switch => cases addressed
  | prepare memoryShort id entry argument =>
    cases addressed
    obtain ⟨shift, faults, deeds⟩ := prepare_shift here memoryShort entry argument
    refine .shifted task.id shift ?_ ?_
    · intro deed member
      rw [deeds deed member]
      exact id
    · cases reply : (state.prepare memoryShort task.id entry argument).reply with
      | ok => exact Or.inl (by simp [outcome, Outcome.map, reply, Except.map])
      | error fault =>
        exact Or.inr ⟨.outOfMemory task.id Config.stackBytes, by
          simp only [outcome, Outcome.map, reply, Except.map, faults fault reply]⟩
  | receive =>
    cases addressed
    simp only [outcome, receive_eq here]
    cases queue : task.messages with
    | nil => exact plain .stay rfl ⟨_, rfl⟩
    | cons message rest => exact .taken here queue rfl rfl rfl
  | send id message =>
    cases addressed
    obtain ⟨shift, reply, deeds⟩ := sound.send here message
    exact .sent here shift deeds (by simp [outcome, Outcome.map, reply, Except.map])
  | wakeup id level =>
    cases addressed
    obtain ⟨shift, reply, deeds⟩ := sound.wakeup here level
    exact plain shift deeds ⟨_, reply⟩
  | setLevel id level =>
    cases addressed
    obtain ⟨shift, reply, deeds⟩ := sound.setLevel here level
    exact plain shift deeds ⟨_, reply⟩
  | sleep =>
    cases addressed
    by_cases decides : Decides state (.sleep task.id)
    · rw [outcome, sound.sleep_deciding decides]
      exact effect_switch sound _ decides true
    · obtain ⟨shift, reply, deeds⟩ := sound.sleep_waiting here decides
      exact .shifted task.id shift (fun deed member => by rw [deeds deed member]; exact id) (Or.inl reply)

/-- Every operation on a sound scheduler has one of the effects. -/
theorem effect (sound : state.Sound) (operation : Operation) :
    Effect state (operation.outcome state) operation := by
  cases addressed : operation.addressee? with
  | none =>
    cases operation with
    | create => exact .shifted _ .created (by simp [outcome, Outcome.map, Scheduler.create]) (Or.inl rfl)
    | switch sleeping => exact effect_switch sound (.switch sleeping) trivial sleeping
    | prepare | receive | send | wakeup | setLevel | sleep => cases addressed
  | some id =>
    rcases state.tasks.absent_or_here id with absent | ⟨task, rfl, here⟩
    · exact effect_of_refused id (outcome_of_absent sound addressed absent)
    · exact effect_of_here sound addressed here

variable {outcome : Outcome (Option Handover)} {operation : Operation}

theorem Effect.sound (effect : Effect state outcome operation) (sound : state.Sound) : outcome.next.Sound := by
  cases effect with
  | shifted _ shift => exact shift.sound sound
  | taken here _ next => rw [next]; exact sound.repost here _
  | sent here shift => exact shift.sound (sound.repost here _)
  | decided _ _ _ after => exact after

theorem Effect.known (effect : Effect state outcome operation) {id : TaskId} (here : id ∈ state.tasks.ids) :
    id ∈ outcome.next.tasks.ids := by
  cases effect with
  | shifted _ shift => exact shift.known here
  | taken _ _ next =>
    rw [next]
    exact (mem_ids_store _).mpr here
  | sent _ shift => exact shift.known ((mem_ids_store _).mpr here)
  | decided _ _ next =>
    rw [next, settle_tasks, aside_tasks_ids]
    exact here

theorem Effect.memory (effect : Effect state outcome operation) : outcome.next.memory = state.memory := by
  cases effect with
  | shifted _ shift | sent _ shift => exact shift.memory
  | taken _ _ next =>
    rw [next]
    rfl
  | decided _ _ next => rw [next, settle_memory, aside_memory]

theorem Effect.refused (effect : Effect state outcome operation) {fault : Fault}
    (failed : outcome.reply = .error fault) : ∃ error, fault = .refused error := by
  cases effect with
  | shifted _ _ _ reply =>
    rcases reply with reply | ⟨error, reply⟩
    · rw [reply] at failed
      cases failed
    · rw [reply] at failed
      cases failed
      exact ⟨error, rfl⟩
  | taken _ _ _ _ reply | sent _ _ _ reply | decided _ _ _ _ _ reply =>
    rw [reply] at failed
    cases failed

theorem Effect.handover (effect : Effect state outcome operation) {ends : Handover}
    (reply : outcome.reply = .ok (some ends)) : operation.Decides state ∧ state.current? = some ends.save ∧
      outcome.next.current? = some ends.load ∧ ends.save ≠ ends.load := by
  cases effect with
  | shifted _ _ _ other =>
    rcases other with other | ⟨_, other⟩
    · rw [other] at reply
      cases reply
    · rw [other] at reply
      cases reply
  | taken _ _ _ _ other | sent _ _ _ other =>
    rw [other] at reply
    cases reply
  | decided decides executing _ _ chosen answer =>
    rw [answer] at reply
    split at reply
    · cases reply
    · next distinct =>
      cases reply
      exact ⟨decides, executing, chosen, distinct⟩

end Operation

end PriorityKernel
