import PriorityKernel.Proofs.Machine.History

namespace PriorityKernel

namespace Scheduler

variable {state : Scheduler} {id : TaskId} {task : Task}

/-- How the queues represent the tasks that can execute. -/
structure Orderly (state : Scheduler) : Prop where
  /-- A task runs exactly if it stands once in the queue of its own level and in no other queue. -/
  running_once : ∀ {id task}, state.tasks.get? id = some task →
    (task.running = true ↔ ∀ level, (state.ready.queue level).count id = if level = task.level then 1 else 0)
  /-- A task that does not run stands in no queue. -/
  asleep_nowhere : ∀ {id task}, state.tasks.get? id = some task → task.running = false →
    ∀ level, id ∉ state.ready.queue level
  /-- Only tasks stand in queues. -/
  known : ∀ {level id}, id ∈ state.ready.queue level → id ∈ state.tasks.ids
  /-- Tasks are numbered from 1 in the order in which they were created. -/
  numbered : state.tasks.ids = List.range' 1 state.tasks.size
  within_levels : ∀ {id task}, state.tasks.get? id = some task → task.level.val ≤ Config.maxLevel
  idle : state.idle = 2
  /-- The idle task runs at the lowest level. -/
  idle_ready : ∃ task, state.tasks.get? 2 = some task ∧ task.running = true ∧
    task.level.val = Config.idleLevel ∧
    2 ∈ state.ready.queue 0
  /-- Somebody executes. -/
  busy : state.ready.queue state.currentLevel ≠ []

theorem Sound.orderly (sound : state.Sound) : state.Orderly where
  running_once := by
    intro id task here
    simp only [sound.seated, TaskTable.seats_of_get? here]
    refine ⟨fun running level => Task.seats_running running level, fun seats => ?_⟩
    have own := seats task.level
    rw [if_pos rfl] at own
    exact (Task.seats_pos (by rw [own]; exact Nat.one_pos)).1
  asleep_nowhere := by
    intro id task here asleep level member
    obtain ⟨found, foundHere, running, _⟩ := sound.mem_queue_iff.mp member
    rw [here] at foundHere
    cases foundHere
    rw [asleep] at running
    cases running
  known := by
    intro level id member
    obtain ⟨task, here, _⟩ := sound.mem_queue_iff.mp member
    exact TaskTable.mem_ids_iff.mpr ⟨task, here⟩
  numbered := by
    have count : state.tasks.size = state.lastId := by
      have lengths := congrArg List.length sound.numbered
      simpa [TaskTable.ids, TaskTable.size] using lengths
    rw [count]
    exact sound.numbered
  within_levels := fun {_ task} _ => Nat.le_of_lt_succ task.level.isLt
  idle := sound.idle
  idle_ready := by
    obtain ⟨task, here, running, level⟩ := sound.idle_task
    exact ⟨task, here, running, congrArg Fin.val level, sound.mem_queue_iff.mpr ⟨task, here, running, level⟩⟩
  busy := sound.busy

theorem get?_relevelled (here : state.tasks.get? task.id = some task) (level : Level) :
    (state.store { task with level }).tasks.get? task.id = some { task with level } := by
  apply TaskTable.get?_set_self
  exact here

theorem Sound.moveRunning_level (sound : state.Sound) (here : state.tasks.get? task.id = some task)
    (mobile : task.id ≠ state.idle) (level : Level) :
    ∃ after, (state.moveRunning task level).next.tasks.get? task.id = some after ∧ after.level = level := by
  obtain ⟨front, executing⟩ := sound.executing
  unfold Scheduler.moveRunning
  split
  · next same => exact ⟨task, here, same.symm⟩
  · simp only [withCurrent, executing]
    split
    · exact ⟨_, get?_relevelled here level, rfl⟩
    · exact ⟨_, get?_relevelled here level, rfl⟩

/-- A level asked for is cut at the highest one, whether the task runs or sleeps. -/
theorem Sound.asked_level (sound : state.Sound) (here : state.tasks.get? task.id = some task)
    (mobile : task.id ≠ state.idle) (wanted : Nat) {operation : Operation}
    (asks : operation = .setLevel task.id wanted ∨ operation = .wakeup task.id (some wanted)) :
    ∃ after, (operation.outcome state).next.tasks.get? task.id = some after ∧
      after.level.val = min wanted Config.maxLevel := by
  have moved := sound.moveRunning_level here mobile (Level.clamp wanted)
  have cut := Level.val_clamp wanted
  rcases asks with rfl | rfl
  · simp only [Operation.outcome, Outcome.map, Scheduler.setLevel, withTask_some here]
    split
    · obtain ⟨after, found, level⟩ := moved
      exact ⟨after, found, by rw [level, cut]⟩
    · exact ⟨_, get?_relevelled here (Level.clamp wanted), cut⟩
  · simp only [Operation.outcome, Outcome.map, Scheduler.wakeup, withTask_some here]
    split
    · obtain ⟨after, found, level⟩ := moved
      exact ⟨after, found, by rw [level, cut]⟩
    · refine ⟨{ task with level := Level.clamp wanted, running := true }, ?_, cut⟩
      apply TaskTable.get?_set_self
      exact here

end Scheduler

namespace Program.Reaches

variable {program : Program} {machine : Machine}

/-- At every moment of every run the ready queues represent the running tasks, whatever levels were
asked for, and no call finds the queue of the current level empty. -/
theorem queues_orderly (reached : program.Reaches machine) :
    (∀ kernel ∈ machine.kernels, kernel.sched.Orderly ∧
      ∀ task wanted, kernel.sched.tasks.get? task.id = some task → task.id ≠ kernel.sched.idle →
        ∀ operation : Operation, operation = .setLevel task.id wanted ∨
          operation = .wakeup task.id (some wanted) →
          ∃ after, (operation.outcome kernel.sched).next.tasks.get? task.id = some after ∧
            after.level.val = min wanted Config.maxLevel) ∧
    (∀ kernel ∈ machine.kernels, ∀ operation : Operation,
      (operation.outcome kernel.sched).reply ≠ .error (.panic .emptyReadyQueue)) ∧
    ∀ entry ∈ machine.trace, ∀ depth step,
      entry.event ≠ .finished depth step (.error (.panic .emptyReadyQueue)) := by
  refine ⟨fun kernel member => ?_, fun kernel member operation failed => ?_,
    fun entry member depth step ended => ?_⟩
  · have sound := reached.sound kernel member
    exact ⟨sound.orderly, fun task wanted here mobile operation asks => sound.asked_level here mobile wanted asks⟩
  · obtain ⟨error, refused⟩ := (operation.effect (reached.sound kernel member)).refused failed
    cases refused
  · exact reached.faultless entry member depth step _ ended (by decide)

/-- A run with an interrupt that wakes a task above the executing one, a script inside of a switch,
and levels beyond the highest. -/
def crowded : Program where
  core := .kernel
  filter := .standard
  memoryShort := false
  script := [.create [.prepare false 0x1000 0, .wakeup (some 9)], .create [.setLevel 70],
    .hook [.sleep 3, .wakeup 4 none], .raise [.wakeup 3 (some 2), .switch false], .switch true, .forever .kernel]

theorem crowded_queues_orderly : crowded.Reaches crowded.ending ∧ crowded.ending.kernels.length = 24 ∧
    (∀ kernel ∈ crowded.ending.kernels, kernel.sched.Orderly) ∧
    [3, 2, 1, 0].map crowded.ending.kernel.sched.readyAt = [[4], [3], [], [2]] ∧
    crowded.ending.kernel.sched.tasks.ids = [1, 2, 3, 4] ∧
    (∃ after, ((Operation.setLevel 3 70).outcome crowded.ending.kernel.sched).next.tasks.get? 3 = some after ∧
      after.level.val = 3) ∧
    ∀ entry ∈ crowded.ending.trace, ∀ depth step,
      entry.event ≠ .finished depth step (.error (.panic .emptyReadyQueue)) := by
  have reached : crowded.Reaches crowded.ending := reaches_ending rfl
  obtain ⟨everywhere, _, entries⟩ := queues_orderly reached
  have ids : crowded.ending.kernel.sched.tasks.ids = [1, 2, 3, 4] := by decide +kernel
  have mobile : 3 ≠ crowded.ending.kernel.sched.idle := by decide +kernel
  have known : 3 ∈ crowded.ending.kernel.sched.tasks.ids := by simp [ids]
  obtain ⟨task, here⟩ := TaskTable.mem_ids_iff.mp known
  have asked := (everywhere _ crowded.ending.kernel_mem_kernels).2 task 70
  rw [TaskTable.id_of_get? here] at asked
  exact ⟨reached, by decide +kernel, fun kernel member => (everywhere kernel member).1, by decide +kernel, ids,
    asked here mobile (.setLevel 3 70) (Or.inl rfl), entries⟩

end Program.Reaches

end PriorityKernel
