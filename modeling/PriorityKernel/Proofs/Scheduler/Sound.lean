import PriorityKernel.Proofs.Scheduler.Seats
import PriorityKernel.Scheduler.Basic

namespace PriorityKernel

/-- The queues agree with the table, though nobody may be ready at the current level. -/
structure Scheduler.Placed (state : Scheduler) : Prop where
  /-- Numbers are given in order from 1. -/
  numbered : state.tasks.ids = List.range' 1 state.lastId
  /-- A task stands in a queue as often as it has a seat there. -/
  seated : ∀ id level, (state.ready.queue level).count id = state.tasks.seats id level
  idle : state.idle = 2
  /-- The idle task runs at the lowest level. -/
  idleSeated : state.tasks.seats 2 0 = 1

structure Scheduler.Sound (state : Scheduler) : Prop extends state.Placed where
  /-- Somebody is ready at the current level. -/
  busy : state.ready.queue state.currentLevel ≠ []

namespace Scheduler

/-- What a change of one task has to keep right, apart from the task's own place. -/
theorem Placed.replace {state : Scheduler} (placed : state.Placed) (task : Task) {found : Task}
    (here : state.tasks.get? task.id = some found) (ready : ReadyQueues) (currentLevel : Level)
    (levelChanged : Bool)
    (exchanged : ∀ id level, (ready.queue level).count id + (if id = task.id then found.seats level else 0) =
      (state.ready.queue level).count id + if id = task.id then task.seats level else 0)
    (idle : task.id = 2 → task.seats 0 = 1) :
    { state with tasks := state.tasks.set task, ready, currentLevel, levelChanged }.Placed where
  numbered := by rw [TaskTable.ids_set]; exact placed.numbered
  seated := by
    intro id level
    have change := exchanged id level
    have before := placed.seated id level
    rw [TaskTable.seats_set here]
    by_cases same : id = task.id
    · subst same
      have old := TaskTable.seats_of_get? here level
      simp only [if_true] at change ⊢
      omega
    · simp only [same, if_false] at change ⊢
      omega
  idle := placed.idle
  idleSeated := by
    rw [TaskTable.seats_set here]
    split
    · next same => exact idle same.symm
    · exact placed.idleSeated

variable {state : Scheduler} {id : TaskId} {task : Task} {level : Level}

theorem Placed.known_iff (placed : state.Placed) : id ∈ state.tasks.ids ↔ 1 ≤ id ∧ id ≤ state.lastId := by
  rw [placed.numbered, List.mem_range'_1, Nat.lt_one_add_iff]

theorem Placed.mem_queue_iff (placed : state.Placed) : id ∈ state.ready.queue level ↔
    ∃ task, state.tasks.get? id = some task ∧ task.running = true ∧ task.level = level := by
  rw [← List.count_pos_iff, placed.seated]
  constructor
  · exact TaskTable.seats_pos
  · rintro ⟨task, here, running, rfl⟩
    rw [TaskTable.seats_of_get? here, Task.seats_running running]
    simp

theorem Placed.mem_own_queue (placed : state.Placed) (here : state.tasks.get? id = some task)
    (running : task.running = true) : id ∈ state.ready.queue task.level :=
  placed.mem_queue_iff.mpr ⟨task, here, running, rfl⟩

theorem Placed.idle_ready (placed : state.Placed) : state.ready.queue 0 ≠ [] := by
  have ready : 0 < (state.ready.queue 0).count 2 := by rw [placed.seated, placed.idleSeated]; omega
  exact ReadyQueues.queue_ne_nil_of_count ready

theorem Sound.executing (sound : state.Sound) : ∃ id, state.current? = some id := by
  obtain ⟨front, rest, whole⟩ := List.exists_cons_of_ne_nil sound.busy
  exact ⟨front, by simp [current?, whole]⟩

theorem Sound.executing_task (sound : state.Sound) (executing : state.current? = some id) :
    ∃ task, state.tasks.get? id = some task ∧ task.running = true ∧ task.level = state.currentLevel :=
  sound.mem_queue_iff.mp (List.mem_of_mem_head? executing)

theorem Placed.idle_task (placed : state.Placed) :
    ∃ task, state.tasks.get? 2 = some task ∧ task.running = true ∧ task.level = 0 :=
  TaskTable.seats_pos (by rw [placed.idleSeated]; omega)

theorem Placed.two_le (placed : state.Placed) : 2 ≤ state.lastId := by
  obtain ⟨task, here, _⟩ := placed.idle_task
  exact (placed.known_iff.mp (TaskTable.mem_ids_iff.mpr ⟨task, here⟩)).2

theorem Placed.event_loop_task (placed : state.Placed) :
    ∃ task, state.tasks.get? TaskId.eventLoop = some task := by
  have many := placed.two_le
  exact TaskTable.mem_ids_iff.mp (placed.known_iff.mpr ⟨Nat.le_refl 1, Nat.le_of_succ_le many⟩)

theorem Placed.fresh (placed : state.Placed) : state.tasks.get? (state.lastId + 1) = none := by
  rw [← Option.not_isSome_iff_eq_none, Option.isSome_iff_exists, ← TaskTable.mem_ids_iff, placed.known_iff]
  exact fun known => Nat.not_succ_le_self _ known.2

end Scheduler

end PriorityKernel
