import PriorityKernel.Proofs.Scheduler.Effect
import PriorityKernel.Proofs.Scheduler.Start

namespace PriorityKernel

namespace Scheduler

variable {state : Scheduler} {task : Task} {id : TaskId}

/-- The messages that wait for a task, oldest first. -/
def mailbox (state : Scheduler) (id : TaskId) : List Message :=
  ((state.tasks.get? id).map (·.messages)).getD []

theorem mailbox_of_get? (here : state.tasks.get? id = some task) : state.mailbox id = task.messages := by
  simp only [mailbox, here, Option.map_some, Option.getD_some]

theorem mailbox_store (task : Task) {found : Task} (here : state.tasks.get? task.id = some found) (id : TaskId) :
    (state.store task).mailbox id = if id = task.id then task.messages else state.mailbox id := by
  split
  · next same =>
    subst same
    exact mailbox_of_get? (TaskTable.get?_set_self here)
  · next distinct => simp only [mailbox, store, TaskTable.get?_set_of_ne distinct]

theorem initial_mailbox (memory : Memory) (id : TaskId) : (initial memory).mailbox id = [] := by
  cases here : (initial memory).tasks.get? id with
  | none => simp only [mailbox, here, Option.map_none, Option.getD_none]
  | some task =>
    have member : task ∈ [mainTask, idleTask memory] := List.mem_of_find?_eq_some here
    rw [mailbox_of_get? here]
    rcases List.mem_cons.mp member with rfl | last
    · rfl
    · rw [List.mem_singleton.mp last]
      rfl

theorem mailbox_kept (task : Task) {found : Task} (here : state.tasks.get? task.id = some found)
    (kept : task.messages = found.messages) (id : TaskId) : (state.store task).mailbox id = state.mailbox id := by
  rw [mailbox_store task here]
  split
  · next same =>
    subst same
    rw [kept, mailbox_of_get? here]
  · rfl

theorem mailbox_repost (here : state.tasks.get? task.id = some task) (messages : List Message) (id : TaskId) :
    (state.repost task messages).mailbox id = if id = task.id then messages else state.mailbox id :=
  mailbox_store { task with messages } here id

theorem Shift.mailbox {next : Scheduler} {moved : TaskId} (shift : state.Shift moved next) (sound : state.Sound)
    (id : TaskId) : next.mailbox id = state.mailbox id := by
  cases shift with
  | stay => rfl
  | created =>
    simp only [Scheduler.mailbox, TaskTable.get?_push]
    by_cases new : state.lastId + 1 = id
    · subst new
      rw [sound.fresh]
      simp
    · simp [new]
  | @equipped task here stack context => exact mailbox_kept { task with stack, context } here rfl id
  | @relevelled task here asleep level => exact mailbox_kept { task with level } here rfl id
  | @woken task here asleep level => exact mailbox_kept { task with level, running := true } here rfl id
  | @carried task here running executing mobile level => exact mailbox_kept { task with level } here rfl id
  | @migrated task here running waiting mobile level => exact mailbox_kept { task with level } here rfl id
  | @dismissed task here running waiting mobile => exact mailbox_kept { task with running := false } here rfl id

theorem aside_mailbox (sleeping : Bool) (outgoing id : TaskId) :
    (state.aside sleeping outgoing).settle.mailbox id = state.mailbox id := by
  rw [mailbox, settle_tasks]
  rcases state.aside_tasks sleeping outgoing with same | ⟨task, rfl, here, parked⟩
  · rw [same, mailbox]
  · rw [parked]
    exact mailbox_kept { task with running := false } here rfl id

/-- A message waits behind the others of its receiver, and nobody else is sent anything. -/
theorem Sound.send_mailbox (sound : state.Sound) (here : state.tasks.get? task.id = some task) (message : Message)
    (id : TaskId) : (state.send task.id message).next.mailbox id =
      state.mailbox id ++ if id = task.id then [message] else [] := by
  rw [(sound.send here message).1.mailbox (sound.repost here _), mailbox_repost here]
  split
  · next own => rw [own, mailbox_of_get? here]
  · rw [List.append_nil]

theorem Sound.send_event_loop_mailbox (sound : state.Sound) (message : Message) (id : TaskId) :
    (state.send TaskId.eventLoop message).next.mailbox id =
      state.mailbox id ++ if id = TaskId.eventLoop then [message] else [] := by
  obtain ⟨task, here⟩ := sound.event_loop_task
  have same := TaskTable.id_of_get? here
  rw [← same] at here ⊢
  exact sound.send_mailbox here message id

theorem receive_waiting {message : Message} {rest : List Message} (waits : state.mailbox id = message :: rest) :
    ∃ next, state.receive id = ⟨.ok (some message), next, [], [.taken id message]⟩ ∧ next.mailbox id = rest ∧
      next.tasks.ids = state.tasks.ids := by
  rcases state.tasks.absent_or_here id with absent | ⟨task, rfl, here⟩
  · rw [mailbox, absent] at waits
    cases waits
  · rw [mailbox_of_get? here] at waits
    rw [receive_eq here, waits]
    exact ⟨_, rfl, by rw [mailbox_repost here, if_pos rfl], TaskTable.ids_set⟩

theorem receive_empty (empty : state.mailbox id = []) :
    state.receive id = Outcome.pure none state ∨ state.receive id = Outcome.refuse (.noSuchTask id) state := by
  rcases state.tasks.absent_or_here id with absent | ⟨task, rfl, here⟩
  · exact Or.inr (withTask_none absent)
  · rw [mailbox_of_get? here] at empty
    rw [receive_eq here, empty]
    exact Or.inl rfl

end Scheduler

namespace Operation

open Scheduler

variable {state : Scheduler} {operation : Operation} {id : TaskId}

theorem mailbox_of_other (sound : state.Sound) (sends : ∀ id message, operation ≠ .send id message)
    (receives : ∀ id, operation ≠ .receive id) (id : TaskId) :
    (operation.outcome state).next.mailbox id = state.mailbox id := by
  cases operation.effect sound with
  | shifted _ shift => exact shift.mailbox sound id
  | taken => exact absurd rfl (receives _)
  | sent => exact absurd rfl (sends _ _)
  | decided _ _ next => rw [next, aside_mailbox]

/-- Only a send puts a message in a mailbox. -/
theorem sent_or_waited (sound : state.Sound) (operation : Operation)
    (any : (operation.outcome state).next.mailbox id ≠ []) :
    state.mailbox id ≠ [] ∨ ∃ message, operation = .send id message := by
  cases operation.effect sound with
  | shifted _ shift => exact Or.inl (shift.mailbox sound id ▸ any)
  | @taken task message rest here oldest next =>
    rw [next, mailbox_repost here] at any
    split at any
    · next same =>
      subst same
      rw [mailbox_of_get? here, oldest]
      exact Or.inl (List.cons_ne_nil _ _)
    · exact Or.inl any
  | @sent task message here shift =>
    rw [shift.mailbox (sound.repost here _), mailbox_repost here] at any
    split at any
    · next same => exact Or.inr ⟨message, by rw [same]⟩
    · exact Or.inl any
  | decided _ _ next =>
    rw [next, aside_mailbox] at any
    exact Or.inl any

/-- A message that was taken was received. -/
theorem taken_deed (sound : state.Sound) {owner : TaskId} {message : Message}
    (did : Deed.taken owner message ∈ (operation.outcome state).deeds) : operation = .receive owner := by
  cases operation.effect sound with
  | shifted _ _ silent => exact absurd trivial (silent _ did)
  | taken _ _ _ deeds =>
    rw [deeds] at did
    cases List.mem_singleton.mp did
    rfl
  | sent _ _ deeds =>
    rw [deeds] at did
    cases List.mem_singleton.mp did
  | decided _ _ _ _ _ _ silent => exact absurd trivial (silent _ did)

end Operation

end PriorityKernel
