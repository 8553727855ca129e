import PriorityKernel.Proofs.Scheduler.Sound
import PriorityKernel.Scheduler.Switching
import PriorityKernel.Scheduler.Waking

namespace PriorityKernel.Scheduler

/-- What may happen to a task while the executing task stays the same. -/
inductive Shift (state : Scheduler) : TaskId → Scheduler → Prop
  | stay {id} : Shift state id state
  | created : Shift state (state.lastId + 1)
      { state with lastId := state.lastId + 1, tasks := state.tasks.push { id := state.lastId + 1 } }
  | equipped {task} (here : state.tasks.get? task.id = some task) (stack : Stack) (context : TaskContext) :
      Shift state task.id (state.store { task with stack, context })
  | relevelled {task} (here : state.tasks.get? task.id = some task) (asleep : task.running = false)
      (level : Level) : Shift state task.id (state.store { task with level })
  | woken {task} (here : state.tasks.get? task.id = some task) (asleep : task.running = false)
      (level : Level) : Shift state task.id (state.enqueue { task with level })
  /-- The executing task takes the current level with it. -/
  | carried {task} (here : state.tasks.get? task.id = some task) (running : task.running = true)
      (executing : state.current? = some task.id) (mobile : task.id ≠ state.idle) (level : Level) :
      Shift state task.id { state.store { task with level } with
        ready := (state.ready.popFront state.currentLevel).pushFront level task.id
        currentLevel := level
        levelChanged := decide (level < state.currentLevel) || state.levelChanged }
  | migrated {task} (here : state.tasks.get? task.id = some task) (running : task.running = true)
      (waiting : state.current? ≠ some task.id) (mobile : task.id ≠ state.idle) (level : Level) :
      Shift state task.id { state.store { task with level } with
        ready := (state.ready.erase task.level task.id).pushBack level task.id
        levelChanged := decide (state.currentLevel < level) || state.levelChanged }
  | dismissed {task} (here : state.tasks.get? task.id = some task) (running : task.running = true)
      (waiting : state.current? ≠ some task.id) (mobile : task.id ≠ state.idle) :
      Shift state task.id { state.store { task with running := false } with
        ready := state.ready.erase task.level task.id }

variable {state : Scheduler} {task : Task} {id : TaskId}

theorem Sound.store (sound : state.Sound) (task : Task) {found : Task} (here : state.tasks.get? task.id = some found)
    (seats : ∀ level, task.seats level = found.seats level) : (state.store task).Sound := by
  refine ⟨sound.toPlaced.replace task here state.ready state.currentLevel state.levelChanged ?_ ?_, sound.busy⟩
  · intro id level
    rw [seats]
  · intro idle
    rw [seats, ← TaskTable.seats_of_get? here, idle]
    exact sound.idleSeated

theorem Sound.created (sound : state.Sound) :
    { state with lastId := state.lastId + 1, tasks := state.tasks.push { id := state.lastId + 1 } }.Sound := by
  have seats : ∀ id level,
      (state.tasks.push { id := state.lastId + 1 }).seats id level = state.tasks.seats id level := by
    intro id level
    rw [TaskTable.seats_push sound.fresh, Task.seats_asleep rfl, ite_self, Nat.add_zero]
  refine ⟨⟨?_, ?_, sound.idle, ?_⟩, sound.busy⟩
  · simp only [TaskTable.ids_push, sound.numbered, List.range'_concat, Nat.one_mul, Nat.add_comm 1]
  · intro id level
    rw [seats]
    exact sound.seated id level
  · rw [seats]
    exact sound.idleSeated

theorem Sound.woken (sound : state.Sound) (here : state.tasks.get? task.id = some task)
    (asleep : task.running = false) (level : Level) : (state.enqueue { task with level }).Sound := by
  refine ⟨sound.toPlaced.replace { task with level, running := true } here _ _ _ ?_ ?_, ?_⟩
  · intro id place
    rw [ReadyQueues.count_pushBack, Task.seats_asleep asleep, Task.seats_running rfl]
    split_ifs <;> simp_all
  · intro idle
    have seated := sound.idleSeated
    rw [← idle, TaskTable.seats_of_get? here, Task.seats_asleep asleep] at seated
    omega
  · show (state.ready.pushBack level task.id).queue state.currentLevel ≠ []
    simp only [ReadyQueues.pushBack, ReadyQueues.queue_update]
    split
    · simp
    · exact sound.busy

theorem Sound.executing_level (sound : state.Sound) (here : state.tasks.get? task.id = some task)
    (executing : state.current? = some task.id) : task.level = state.currentLevel := by
  obtain ⟨same, found, _, level⟩ := sound.executing_task executing
  rw [here] at found
  rw [Option.some.inj found, level]

theorem Sound.carried (sound : state.Sound) (here : state.tasks.get? task.id = some task)
    (running : task.running = true) (executing : state.current? = some task.id)
    (mobile : task.id ≠ state.idle) (level : Level) (levelChanged : Bool) :
    { state.store { task with level } with
      ready := (state.ready.popFront state.currentLevel).pushFront level task.id
      currentLevel := level
      levelChanged }.Sound := by
  refine ⟨sound.toPlaced.replace { task with level } here _ _ levelChanged ?_ ?_, ?_⟩
  · intro id place
    have front := ReadyQueues.count_popFront executing id place
    rw [ReadyQueues.count_pushFront, Task.seats_running running,
      Task.seats_running (show ({ task with level } : Task).running = true from running),
      sound.executing_level here executing]
    split_ifs at front ⊢ <;> simp_all
  · intro idle
    exact absurd (idle.trans sound.idle.symm) mobile
  · simp [ReadyQueues.pushFront, ReadyQueues.queue_update_self]

theorem erase_front (waiting : state.current? ≠ some id) (place : Level) :
    ((state.ready.erase place id).queue state.currentLevel).head? = state.current? := by
  unfold current? at waiting ⊢
  simp only [ReadyQueues.erase, ReadyQueues.queue_update]
  split
  · next same =>
    subst same
    cases whole : state.ready.queue state.currentLevel with
    | nil => rfl
    | cons front rest =>
      have distinct : front ≠ id := by simpa [whole] using waiting
      simp [distinct]
  · rfl

theorem Sound.erase_busy (sound : state.Sound) (waiting : state.current? ≠ some id) (place : Level) :
    (state.ready.erase place id).queue state.currentLevel ≠ [] := by
  obtain ⟨front, executing⟩ := sound.executing
  have kept := erase_front waiting place
  rw [executing] at kept
  exact List.ne_nil_of_mem (List.mem_of_mem_head? kept)

theorem Sound.migrated (sound : state.Sound) (here : state.tasks.get? task.id = some task)
    (running : task.running = true) (waiting : state.current? ≠ some task.id)
    (mobile : task.id ≠ state.idle) (level : Level) (levelChanged : Bool) :
    { state.store { task with level } with
      ready := (state.ready.erase task.level task.id).pushBack level task.id
      levelChanged }.Sound := by
  refine ⟨sound.toPlaced.replace { task with level } here _ _ levelChanged ?_ ?_, ?_⟩
  · intro id place
    have removed := ReadyQueues.count_erase (sound.mem_own_queue here running) id place
    rw [ReadyQueues.count_pushBack, Task.seats_running running,
      Task.seats_running (show ({ task with level } : Task).running = true from running)]
    split_ifs at removed ⊢ <;> simp_all
  · intro idle
    exact absurd (idle.trans sound.idle.symm) mobile
  · simp only [ReadyQueues.pushBack, ReadyQueues.queue_update]
    split
    · simp
    · exact sound.erase_busy waiting _

theorem Sound.dismissed (sound : state.Sound) (here : state.tasks.get? task.id = some task)
    (running : task.running = true) (waiting : state.current? ≠ some task.id)
    (mobile : task.id ≠ state.idle) :
    { state.store { task with running := false } with
      ready := state.ready.erase task.level task.id }.Sound := by
  refine ⟨sound.toPlaced.replace { task with running := false } here _ _ state.levelChanged ?_ ?_, ?_⟩
  · intro id place
    have removed := ReadyQueues.count_erase (sound.mem_own_queue here running) id place
    rw [Task.seats_running running, Task.seats_asleep rfl]
    split_ifs at removed ⊢ <;> simp_all
  · intro idle
    exact absurd (idle.trans sound.idle.symm) mobile
  · exact sound.erase_busy waiting _

theorem Shift.sound {next : Scheduler} (shift : state.Shift id next) (sound : state.Sound) : next.Sound := by
  cases shift with
  | stay => exact sound
  | created => exact sound.created
  | equipped here => exact sound.store _ here fun _ => rfl
  | @relevelled task here asleep level =>
    refine sound.store { task with level } here fun place => ?_
    rw [Task.seats_asleep asleep, Task.seats_asleep (show ({ task with level } : Task).running = false from asleep)]
  | woken here asleep => exact sound.woken here asleep _
  | carried here running executing mobile => exact sound.carried here running executing mobile _ _
  | migrated here running waiting mobile => exact sound.migrated here running waiting mobile _ _
  | dismissed here running waiting mobile => exact sound.dismissed here running waiting mobile

theorem mem_ids_store (task : Task) : id ∈ (state.store task).tasks.ids ↔ id ∈ state.tasks.ids := by
  rw [store, TaskTable.ids_set]

/-- Tasks stay. -/
theorem Shift.known {next : Scheduler} {moved : TaskId} (shift : state.Shift moved next)
    (here : id ∈ state.tasks.ids) : id ∈ next.tasks.ids := by
  cases shift with
  | stay => exact here
  | created => exact TaskTable.ids_push ▸ List.mem_append_left _ here
  | equipped | relevelled | woken | carried | migrated | dismissed => exact (mem_ids_store _).mpr here

/-- Blocks stay where they are. -/
theorem Shift.memory {next : Scheduler} (shift : state.Shift id next) : next.memory = state.memory := by
  cases shift <;> rfl

end PriorityKernel.Scheduler
