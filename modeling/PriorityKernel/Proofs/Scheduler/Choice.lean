import PriorityKernel.Proofs.Scheduler.Sound
import PriorityKernel.Scheduler.Switching

namespace PriorityKernel

theorem Level.descending_sorted : Level.descending.Pairwise (· > ·) := by decide

namespace ReadyQueues

variable {ready : ReadyQueues} {level : Level}

theorem of_highest? (found : ready.highest? = some level) :
    ready.queue level ≠ [] ∧ ∀ higher, level < higher → ready.queue higher = [] := by
  obtain ⟨here, before, after, whole, passed⟩ := List.find?_eq_some_iff_append.mp found
  refine ⟨by simpa using here, ?_⟩
  intro higher above
  have member := Level.mem_descending higher
  have sorted := Level.descending_sorted
  rw [whole] at member sorted
  rcases List.mem_append.mp member with skipped | rest
  · simpa using passed higher skipped
  · rcases List.mem_cons.mp rest with same | later
    · exact absurd (same ▸ above) (Fin.lt_irrefl _)
    · have below := (List.pairwise_cons.mp (List.pairwise_append.mp sorted).2.1).1 higher later
      exact absurd (Fin.lt_trans below above) (Fin.lt_irrefl _)

theorem exists_highest? (someone : ready.queue level ≠ []) : ∃ highest, ready.highest? = some highest := by
  rw [← Option.isSome_iff_exists, highest?, List.find?_isSome]
  exact ⟨level, Level.mem_descending level, by simpa using someone⟩

end ReadyQueues

namespace Scheduler

variable {state : Scheduler}

theorem settle_eq : state.settle = { state with currentLevel := state.settle.currentLevel, levelChanged := false } := by
  unfold settle
  split
  · rfl
  · next calm =>
    simp only [Bool.or_eq_true, not_or, Bool.not_eq_true] at calm
    rw [← calm.1]

@[simp] theorem settle_tasks : state.settle.tasks = state.tasks := by rw [settle_eq]
@[simp] theorem settle_ready : state.settle.ready = state.ready := by rw [settle_eq]
@[simp] theorem settle_idle : state.settle.idle = state.idle := by rw [settle_eq]
@[simp] theorem settle_lastId : state.settle.lastId = state.lastId := by rw [settle_eq]
@[simp] theorem settle_memory : state.settle.memory = state.memory := by rw [settle_eq]
@[simp] theorem settle_levelChanged : state.settle.levelChanged = false := by rw [settle_eq]

theorem Placed.settle (placed : state.Placed) : state.settle.Sound where
  numbered := by simpa using placed.numbered
  seated := by simpa using placed.seated
  idle := by simpa using placed.idle
  idleSeated := by simpa using placed.idleSeated
  busy := by
    obtain ⟨highest, found⟩ := ReadyQueues.exists_highest? placed.idle_ready
    rw [settle_ready]
    unfold Scheduler.settle
    split
    · rw [found]
      exact (ReadyQueues.of_highest? found).1
    · next calm =>
      simp only [Bool.or_eq_true, not_or, List.isEmpty_iff] at calm
      exact calm.2

/-- The executing task steps aside: it goes to sleep if `sleeping`, unless it is the idle task. -/
def aside (state : Scheduler) (sleeping : Bool) (outgoing : TaskId) : Scheduler :=
  if sleeping = true ∧ outgoing ≠ state.idle then state.park outgoing else state.requeue outgoing

variable {outgoing : TaskId} {task : Task}

theorem Sound.requeue (sound : state.Sound) (executing : state.current? = some outgoing) :
    (state.requeue outgoing).Placed where
  numbered := sound.numbered
  seated := by
    intro id level
    have front := ReadyQueues.count_popFront executing id level
    rw [Scheduler.requeue, ReadyQueues.count_pushBack, front]
    exact sound.seated id level
  idle := sound.idle
  idleSeated := sound.idleSeated

theorem park_eq (here : state.tasks.get? outgoing = some task) : state.park outgoing =
    { state with
      ready := state.ready.popFront state.currentLevel
      tasks := state.tasks.set { task with running := false } } := by
  simp only [Scheduler.park, here, Scheduler.store]

theorem Sound.park (sound : state.Sound) (executing : state.current? = some outgoing)
    (mobile : outgoing ≠ state.idle) : (state.park outgoing).Placed := by
  obtain ⟨task, here, running, level⟩ := sound.executing_task executing
  have same := TaskTable.id_of_get? here
  subst same
  rw [park_eq here]
  refine sound.toPlaced.replace { task with running := false } here _ _ _ ?_ ?_
  · intro id place
    have front := ReadyQueues.count_popFront executing id place
    rw [Task.seats_running running, Task.seats_asleep rfl, level]
    split_ifs at front ⊢ <;> simp_all
  · intro idle
    exact absurd (idle.trans sound.idle.symm) mobile

theorem Sound.aside (sound : state.Sound) (executing : state.current? = some outgoing) (sleeping : Bool) :
    (state.aside sleeping outgoing).Placed := by
  unfold Scheduler.aside
  split
  · next parks => exact sound.park executing parks.2
  · exact sound.requeue executing

theorem rotate_of_executing (executing : state.current? = some outgoing) (sleeping : Bool) {incoming : TaskId}
    (chosen : (state.aside sleeping outgoing).settle.current? = some incoming) :
    state.rotate sleeping =
      { reply := .ok (outgoing, incoming)
        next := (state.aside sleeping outgoing).settle
        notices := (if sleeping = true ∧ outgoing = state.idle then [.idleSleepRefused] else []) ++
          levelNotices (state.aside sleeping outgoing) (state.aside sleeping outgoing).settle
        deeds := if sleeping = true ∧ outgoing ≠ state.idle then [.parked outgoing] else [] } := by
  have moved : (if (sleeping && !(sleeping && outgoing == state.idle)) = true then state.park outgoing
      else state.requeue outgoing) = state.aside sleeping outgoing := by
    unfold Scheduler.aside
    congr 1
    cases sleeping <;> simp
  simp only [Scheduler.rotate, Scheduler.withCurrent, executing, moved, chosen]
  cases sleeping <;> simp

/-- Whoever steps aside keeps its record or goes to sleep, and all other records stay. -/
theorem aside_tasks (state : Scheduler) (sleeping : Bool) (outgoing : TaskId) :
    (state.aside sleeping outgoing).tasks = state.tasks ∨
    ∃ task, task.id = outgoing ∧ state.tasks.get? task.id = some task ∧
      (state.aside sleeping outgoing).tasks = (state.store { task with running := false }).tasks := by
  unfold Scheduler.aside
  split
  · rcases state.tasks.absent_or_here outgoing with absent | ⟨task, rfl, here⟩
    · left
      simp only [Scheduler.park, absent]
    · right
      exact ⟨task, rfl, here, by rw [park_eq here, Scheduler.store]⟩
  · exact Or.inl rfl

theorem aside_memory (sleeping : Bool) : (state.aside sleeping outgoing).memory = state.memory := by
  unfold aside Scheduler.park
  dsimp only
  split
  · split <;> rfl
  · rfl

theorem aside_tasks_ids (sleeping : Bool) : (state.aside sleeping outgoing).tasks.ids = state.tasks.ids := by
  rcases state.aside_tasks sleeping outgoing with same | ⟨_, _, _, parked⟩
  · rw [same]
  · rw [parked]
    exact TaskTable.ids_set

/-- Every decision of a sound scheduler puts the executing task aside, settles on a level, and hands
the processor to the task in front there, unless that is the same task. -/
theorem Sound.switch (sound : state.Sound) (sleeping : Bool) :
    ∃ outgoing incoming, state.current? = some outgoing ∧
      (state.aside sleeping outgoing).settle.Sound ∧
      (state.aside sleeping outgoing).settle.current? = some incoming ∧
      state.switch sleeping =
        { reply := .ok (if outgoing = incoming then none else some ⟨outgoing, incoming⟩)
          next := (state.aside sleeping outgoing).settle
          notices := (if sleeping = true ∧ outgoing = state.idle then [.idleSleepRefused] else []) ++
            levelNotices (state.aside sleeping outgoing) (state.aside sleeping outgoing).settle
          deeds := if sleeping = true ∧ outgoing ≠ state.idle then [.parked outgoing] else [] } := by
  obtain ⟨outgoing, executing⟩ := sound.executing
  have after := (sound.aside executing sleeping).settle
  obtain ⟨incoming, chosen⟩ := after.executing
  refine ⟨outgoing, incoming, executing, after, chosen, ?_⟩
  obtain ⟨loaded, atLoaded, _⟩ := after.executing_task chosen
  obtain ⟨saved, atSaved⟩ : ∃ saved, (state.aside sleeping outgoing).settle.tasks.get? outgoing = some saved := by
    obtain ⟨task, here, _⟩ := sound.executing_task executing
    rw [← TaskTable.mem_ids_iff, settle_tasks, aside_tasks_ids]
    exact TaskTable.mem_ids_iff.mpr ⟨task, here⟩
  rw [settle_tasks] at atLoaded atSaved
  simp [Scheduler.switch, rotate_of_executing executing sleeping chosen, Outcome.andThen, Outcome.pure,
    Scheduler.handover?, atLoaded, atSaved]

theorem park_store (here : state.tasks.get? task.id = some task) :
    (state.store { task with running := false }).park task.id = state.park task.id := by
  have marked : (state.store { task with running := false }).tasks.get? task.id =
      some { task with running := false } := by
    apply TaskTable.get?_set_self
    exact here
  rw [park_eq here, park_eq marked]
  simp only [Scheduler.store]
  rw [TaskTable.set_set (by rfl)]

theorem sleep_executing (here : state.tasks.get? task.id = some task) (running : task.running = true)
    (executing : state.current? = some task.id) (mobile : task.id ≠ state.idle) :
    state.sleep task.id = state.switch true := by
  have front : (state.store { task with running := false }).current? = some task.id := executing
  have fixed : (state.store { task with running := false }).idle = state.idle := rfl
  simp only [Scheduler.sleep, mobile, if_false, Scheduler.withCurrent, executing, Scheduler.withTask, here,
    running, if_true, Scheduler.switch, Scheduler.rotate, front, fixed, park_store here]
  simp [mobile]

end Scheduler

end PriorityKernel
