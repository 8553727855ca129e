import PriorityKernel.Proofs.Scheduler.Awake

namespace PriorityKernel

namespace Scheduler

variable {state : Scheduler} {task found : Task} {id : TaskId}

/-- The stack of a task; one that does not exist has none. -/
def stack (state : Scheduler) (id : TaskId) : Stack := ((state.tasks.get? id).map (·.stack)).getD {}

theorem stack_of_get? (here : state.tasks.get? id = some task) : state.stack id = task.stack := by
  simp only [stack, here, Option.map_some, Option.getD_some]

theorem stack_store (task : Task) (here : state.tasks.get? task.id = some found) (id : TaskId) :
    (state.store task).stack id = if id = task.id then task.stack else state.stack id := by
  split
  · next same =>
    subst same
    exact stack_of_get? (TaskTable.get?_set_self here)
  · next distinct => simp only [stack, store, TaskTable.get?_set_of_ne distinct]

theorem initial_stack (memory : Memory) (id : TaskId) :
    (initial memory).stack id = if id = 2 then (idleTask memory).stack else {} := by
  cases here : (initial memory).tasks.get? id with
  | none =>
    have absent : id ≠ 2 := by
      rintro rfl
      cases here
    rw [stack, here, if_neg absent]
    rfl
  | some task =>
    have same := TaskTable.id_of_get? here
    have member : task ∈ [mainTask, idleTask memory] := List.mem_of_find?_eq_some here
    rw [stack_of_get? here, ← same]
    rcases List.mem_cons.mp member with rfl | last
    · rfl
    · rw [List.mem_singleton.mp last]
      rfl

theorem Awake.of_store_other (awake : (state.store task).Awake id) (distinct : id ≠ task.id) : state.Awake id := by
  obtain ⟨after, there, running⟩ := awake
  exact ⟨after, (TaskTable.get?_set_of_ne distinct).symm.trans there, running⟩

/-- Stacks are as they were, and whoever runs ran before. -/
structure Still (before after : Scheduler) : Prop where
  stack : ∀ id, after.stack id = before.stack id
  awake : ∀ id, after.Awake id → before.Awake id

theorem Still.refl (state : Scheduler) : state.Still state := ⟨fun _ => rfl, fun _ awake => awake⟩

theorem Still.trans {first second third : Scheduler} (earlier : first.Still second) (later : second.Still third) :
    first.Still third :=
  ⟨fun id => (later.stack id).trans (earlier.stack id), fun id awake => earlier.awake id (later.awake id awake)⟩

theorem Still.of_tasks {before after : Scheduler} (same : after.tasks = before.tasks) : before.Still after := by
  constructor
  · intro id
    rw [Scheduler.stack, same, Scheduler.stack]
  · rintro id ⟨task, here, running⟩
    exact ⟨task, same ▸ here, running⟩

theorem Still.store (task : Task) (here : state.tasks.get? task.id = some found) (stack : task.stack = found.stack)
    (kept : task.running = true → found.running = true) : state.Still (state.store task) := by
  constructor
  · intro id
    rw [stack_store task here]
    split
    · next same =>
      subst same
      rw [stack, stack_of_get? here]
    · rfl
  · intro id awake
    by_cases same : id = task.id
    · subst same
      obtain ⟨after, there, running⟩ := awake
      have stored : (state.store task).tasks.get? task.id = some task := TaskTable.get?_set_self here
      rw [stored] at there
      cases there
      exact ⟨found, here, kept running⟩
    · exact awake.of_store_other same

theorem Still.moveRunning (here : state.tasks.get? task.id = some task) (level : Level) :
    state.Still (state.moveRunning task level).next := by
  have stored : state.Still (state.store { task with level }) :=
    .store { task with level } here rfl fun running => running
  unfold Scheduler.moveRunning
  split
  · exact .refl state
  split
  · exact .refl state
  unfold withCurrent
  split
  · exact .refl state
  dsimp only
  split
  · exact stored.trans (.of_tasks rfl)
  · exact stored.trans (.of_tasks rfl)

theorem Still.aside (sleeping : Bool) (outgoing : TaskId) : state.Still (state.aside sleeping outgoing).settle := by
  refine Still.trans ?_ (.of_tasks settle_tasks)
  rcases state.aside_tasks sleeping outgoing with same | ⟨task, rfl, here, parked⟩
  · exact .of_tasks same
  · have stored : state.Still (state.store { task with running := false }) :=
      .store { task with running := false } here rfl (absurd · Bool.false_ne_true)
    exact stored.trans (.of_tasks parked)

theorem Sound.created_still (sound : state.Sound) : state.Still state.create.next := by
  have rows : ∀ id, state.create.next.tasks.get? id =
      (state.tasks.get? id).or (if state.lastId + 1 = id then some { id := state.lastId + 1 } else none) :=
    fun id => TaskTable.get?_push
  constructor
  · intro id
    simp only [stack, rows]
    by_cases new : state.lastId + 1 = id
    · subst new
      simp [sound.fresh]
    · simp [new]
  · rintro id ⟨task, there, running⟩
    rw [rows] at there
    cases here : state.tasks.get? id with
    | some found =>
      rw [here] at there
      cases there
      exact ⟨task, here, running⟩
    | none =>
      rw [here, Option.none_or] at there
      split at there
      · cases there
        cases running
      · cases there

end Scheduler

open Scheduler

/-- Prepares nobody, leaves every stack as it is, and says so if it wakes a task without one. -/
structure Outcome.Spares {α : Type} (outcome : Outcome α) (state : Scheduler) : Prop where
  stack : ∀ id, outcome.next.stack id = state.stack id
  awake : ∀ id, outcome.next.Awake id → state.Awake id ∨
    (id ≠ TaskId.eventLoop → (state.stack id).bytes = 0 → .wokenUnprepared id ∈ outcome.notices)
  deeds : ∀ deed ∈ outcome.deeds, ∀ id entry argument, deed ≠ .prepared id entry argument

namespace Outcome.Spares

variable {α : Type} {outcome : Outcome α} {state before : Scheduler}

theorem of_still (still : state.Still outcome.next)
    (deeds : ∀ deed ∈ outcome.deeds, ∀ id entry argument, deed ≠ .prepared id entry argument) :
    outcome.Spares state :=
  ⟨still.stack, fun id awake => Or.inl (still.awake id awake), deeds⟩

theorem refuse (error : TaskError) : (Outcome.refuse error state : Outcome α).Spares state :=
  of_still (.refl state) (by simp [Outcome.refuse])

theorem map {β : Type} (spares : outcome.Spares state) (answer : α → β) : (outcome.map answer).Spares state :=
  ⟨spares.stack, spares.awake, spares.deeds⟩

theorem after (spares : outcome.Spares state) (still : before.Still state) : outcome.Spares before := by
  refine ⟨fun id => (spares.stack id).trans (still.stack id), fun id awake => ?_, spares.deeds⟩
  rw [← still.stack]
  exact (spares.awake id awake).imp_left (still.awake id)

end Outcome.Spares

namespace Scheduler

variable {state : Scheduler} {task : Task}

theorem Sound.moveRunning_spares (sound : state.Sound) (here : state.tasks.get? task.id = some task)
    (running : task.running = true) (level : Level) : (state.moveRunning task level).Spares state :=
  .of_still (.moveRunning here level) (by simp [(sound.moveRunning here running level).2.2])

theorem Sound.wakeup_spares (sound : state.Sound) (here : state.tasks.get? task.id = some task) (level : Option Nat) :
    (state.wakeup task.id level).Spares state := by
  rw [Scheduler.wakeup, withTask_some here]
  split
  · next running =>
    cases level with
    | none => exact .of_still (.refl state) (by simp [Outcome.pure])
    | some level => exact sound.moveRunning_spares here running _
  · have rows := fun id => stack_store
      { task with level := (level.map Level.clamp).getD task.level, running := true } here id
    refine ⟨fun id => (rows id).trans ?_, ?_, by simp⟩
    · split
      · next same =>
        subst same
        exact (stack_of_get? here).symm
      · rfl
    · intro id awake
      by_cases same : id = task.id
      · subst same
        refine Or.inr fun other bare => ?_
        rw [stack_of_get? here] at bare
        simp [bare, other]
      · exact Or.inl (Awake.of_store_other awake same)

theorem Sound.setLevel_spares (sound : state.Sound) (here : state.tasks.get? task.id = some task) (level : Nat) :
    (state.setLevel task.id level).Spares state := by
  rw [Scheduler.setLevel, withTask_some here]
  split
  · next running => exact sound.moveRunning_spares here running _
  · exact .of_still (.store { task with level := Level.clamp level } here rfl fun running => running)
      (by simp [Outcome.pure])

theorem Sound.send_spares (sound : state.Sound) (here : state.tasks.get? task.id = some task) (message : Message) :
    (state.send task.id message).Spares state := by
  have posted : state.Still (state.repost task (task.messages ++ [message])) :=
    .store { task with messages := task.messages ++ [message] } here rfl fun running => running
  obtain ⟨stack, awake, deeds⟩ := ((sound.repost here _).wakeup_spares (get?_repost here _) none).after posted
  rw [Scheduler.send, withTask_some here]
  exact ⟨stack, awake, List.forall_mem_cons.mpr ⟨fun _ _ _ => Deed.noConfusion, deeds⟩⟩

theorem receive_spares (here : state.tasks.get? task.id = some task) : (state.receive task.id).Spares state := by
  rw [receive_eq here]
  cases task.messages with
  | nil => exact .of_still (.refl state) (by simp [Outcome.pure])
  | cons message rest =>
    exact .of_still (.store { task with messages := rest } here rfl fun running => running) (by simp)

theorem Sound.switch_spares (sound : state.Sound) (sleeping : Bool) : (state.switch sleeping).Spares state := by
  obtain ⟨outgoing, _, _, _, _, made⟩ := sound.switch sleeping
  rw [made]
  refine .of_still (.aside sleeping outgoing) fun deed member => ?_
  dsimp only at member
  split at member
  · rw [List.mem_singleton.mp member]
    exact fun _ _ _ => Deed.noConfusion
  · cases member

theorem Sound.sleep_spares (sound : state.Sound) (here : state.tasks.get? task.id = some task) :
    (state.sleep task.id).Spares state := by
  by_cases decides : Operation.Decides state (.sleep task.id)
  · rw [sound.sleep_deciding decides]
    exact sound.switch_spares true
  · obtain ⟨_, _, deeds⟩ := sound.sleep_waiting here decides
    refine .of_still ?_ fun deed member => by rw [deeds deed member]; exact fun _ _ _ => Deed.noConfusion
    obtain ⟨front, executing⟩ := sound.executing
    unfold Scheduler.sleep
    split
    · exact .refl state
    · next mobile =>
      have other : front ≠ task.id := fun same => decides ⟨same ▸ executing, mobile⟩
      simp only [withCurrent, executing, withTask_some here, other, if_false]
      split
      · exact (Still.store { task with running := false } here rfl
          (absurd · Bool.false_ne_true)).trans (.of_tasks rfl)
      · exact .refl state

end Scheduler

/-- An operation that may prepare a task. -/
def Operation.Prepares : Operation → Prop
  | .prepare .. => True
  | .create | .receive _ | .send .. | .wakeup .. | .setLevel .. | .sleep _ | .switch _ => False

theorem Operation.spares {state : Scheduler} (sound : state.Sound) {operation : Operation}
    (other : ¬operation.Prepares) : (operation.outcome state).Spares state := by
  cases addressed : operation.addressee? with
  | none =>
    cases operation with
    | create => exact .of_still sound.created_still (by simp [outcome, Outcome.map, Scheduler.create])
    | switch sleeping => exact sound.switch_spares sleeping
    | prepare | receive | send | wakeup | setLevel | sleep => cases addressed
  | some id =>
    rcases state.tasks.absent_or_here id with absent | ⟨task, rfl, here⟩
    · rw [outcome_of_absent sound addressed absent]
      exact .refuse _
    · cases operation with
      | create | switch => cases addressed
      | prepare => exact absurd trivial other
      | receive => cases addressed; exact (receive_spares here).map _
      | send _ message => cases addressed; exact (sound.send_spares here message).map _
      | wakeup _ level => cases addressed; exact (sound.wakeup_spares here level).map _
      | setLevel _ level => cases addressed; exact (sound.setLevel_spares here level).map _
      | sleep => cases addressed; exact sound.sleep_spares here

namespace Scheduler

variable {state : Scheduler} {task : Task}

/-- The record of a task that may have been prepared. -/
theorem prepare_here (here : state.tasks.get? task.id = some task)
    (lasting : task.stack.block = none → task.stack.words = 0) (memoryShort : Bool) (entry : UInt64)
    (argument : Int64) :
    (state.prepare memoryShort task.id entry argument).Spares state ∨
      ∃ block context, (state.prepare memoryShort task.id entry argument).next =
          state.store { task with stack := ⟨some block, Config.stackBytes / Config.wordBytes⟩, context } ∧
        (state.prepare memoryShort task.id entry argument).deeds = [.prepared task.id entry argument] := by
  rw [Scheduler.prepare, withTask_some here, Task.prepare]
  cases reserved : task.stack.block.or (state.memory.offer memoryShort task.id) with
  | none =>
    have bare := (Option.or_eq_none_iff.mp reserved).1
    have same : ({ task.stack with words := 0 } : Stack) = task.stack := by rw [← lasting bare]
    refine Or.inl (.of_still ?_ (by simp [Outcome.refuse]))
    exact .store { task with stack := { task.stack with words := 0 } } here same fun running => running
  | some block => exact Or.inr ⟨block, _, rfl, rfl⟩

end Scheduler

end PriorityKernel
