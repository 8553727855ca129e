import PriorityKernel.Proofs.Scheduler.Gear
import PriorityKernel.Proofs.Scheduler.Readiness
import PriorityKernel.Proofs.Scheduler.Turns

namespace PriorityKernel

namespace ReadyQueues

variable {ready : ReadyQueues} {place : Level} {id : TaskId}

/-- An edit that leaves a queue as it was but for one task leaves all of them so. -/
theorem filter_update {edit : List TaskId → List TaskId}
    (spares : (edit (ready.queue place)).filter (· != id) = (ready.queue place).filter (· != id)) (level : Level) :
    ((ready.update place edit).queue level).filter (· != id) = (ready.queue level).filter (· != id) := by
  rw [queue_update]
  split
  · next same =>
    subst same
    exact spares
  · rfl

theorem filter_pushBack (level : Level) :
    ((ready.pushBack place id).queue level).filter (· != id) = (ready.queue level).filter (· != id) :=
  filter_update (by simp) level

theorem filter_pushFront (level : Level) :
    ((ready.pushFront place id).queue level).filter (· != id) = (ready.queue level).filter (· != id) :=
  filter_update (by simp) level

theorem filter_popFront (front : (ready.queue place).head? = some id) (level : Level) :
    ((ready.popFront place).queue level).filter (· != id) = (ready.queue level).filter (· != id) := by
  obtain ⟨rest, whole⟩ := List.head?_eq_some_iff.mp front
  exact filter_update (by simp [whole]) level

theorem filter_erase (level : Level) :
    ((ready.erase place id).queue level).filter (· != id) = (ready.queue level).filter (· != id) := by
  refine filter_update ?_ level
  generalize ready.queue place = queue
  induction queue with
  | nil => rfl
  | cons first rest ih =>
    by_cases same : first = id
    · simp [same]
    · simp [same, ih]

end ReadyQueues

namespace Scheduler

/-- Nothing but the places and the record of one task may differ. -/
structure Confined (id : TaskId) (before after : Scheduler) : Prop where
  queues : ∀ level, (after.ready.queue level).filter (· != id) = (before.ready.queue level).filter (· != id)
  others : ∀ other, other ≠ id → after.tasks.get? other = before.tasks.get? other

variable {state next : Scheduler} {task : Task} {id : TaskId}

theorem Confined.refl (id : TaskId) (state : Scheduler) : Confined id state state := ⟨fun _ => rfl, fun _ _ => rfl⟩

theorem Confined.trans {first second third : Scheduler} (earlier : Confined id first second)
    (later : Confined id second third) : Confined id first third :=
  ⟨fun level => (later.queues level).trans (earlier.queues level),
    fun other distinct => (later.others other distinct).trans (earlier.others other distinct)⟩

theorem Confined.store (task : Task) {ready : ReadyQueues} {currentLevel : Level} {levelChanged : Bool}
    (queues : ∀ level, (ready.queue level).filter (· != task.id) =
      (state.ready.queue level).filter (· != task.id)) :
    Confined task.id state { state.store task with ready, currentLevel, levelChanged } :=
  ⟨queues, fun _ distinct => TaskTable.get?_set_of_ne distinct⟩

theorem Shift.confined (shift : state.Shift id next) : Confined id state next := by
  cases shift with
  | stay => exact .refl id state
  | created =>
    refine ⟨fun _ => rfl, fun other distinct => ?_⟩
    rw [TaskTable.get?_push, if_neg (Ne.symm distinct), Option.or_none]
  | @equipped task _ stack context => exact .store { task with stack, context } fun _ => rfl
  | @relevelled task _ _ level => exact .store { task with level } fun _ => rfl
  | @woken task _ _ level =>
    exact .store { task with level, running := true } fun _ => ReadyQueues.filter_pushBack _
  | @carried task _ _ executing _ level =>
    exact .store { task with level } fun place =>
      (ReadyQueues.filter_pushFront place).trans (ReadyQueues.filter_popFront executing place)
  | @migrated task _ _ _ _ level =>
    exact .store { task with level } fun place =>
      (ReadyQueues.filter_pushBack place).trans (ReadyQueues.filter_erase place)
  | @dismissed task => exact .store { task with running := false } fun _ => ReadyQueues.filter_erase _

theorem Shift.currentLevel (shift : state.Shift id next) (waiting : state.current? ≠ some id) :
    next.currentLevel = state.currentLevel := by
  cases shift with
  | carried _ _ executing => exact absurd executing waiting
  | _ => rfl

theorem repost_confined (task : Task) (messages : List Message) : Confined task.id state (state.repost task messages) :=
  .store { task with messages } fun _ => rfl

/-- A switch concerns the task that it puts aside. -/
theorem Sound.switch_confined (sound : state.Sound) (sleeping : Bool) (executing : state.current? = some id) :
    Confined id state (state.switch sleeping).next := by
  obtain ⟨outgoing, _, same, _, _, made⟩ := sound.switch sleeping
  cases executing.symm.trans same
  rw [made]
  constructor
  · intro level
    rw [settle_ready, aside_ready]
    have popped := ReadyQueues.filter_popFront executing level
    split
    · exact popped
    · exact (ReadyQueues.filter_pushBack level).trans popped
  · intro other distinct
    rw [settle_tasks]
    rcases state.aside_tasks sleeping id with same | ⟨task, rfl, _, parked⟩
    · rw [same]
    · rw [parked]
      exact TaskTable.get?_set_of_ne distinct

end Scheduler

namespace Operation

open Scheduler

variable {state : Scheduler} {operation : Operation} {id : TaskId}

theorem confined (sound : state.Sound) (addressed : operation.addressee? = some id) :
    Confined id state (operation.outcome state).next := by
  rcases state.tasks.absent_or_here id with absent | ⟨task, rfl, here⟩
  · rw [outcome_of_absent sound addressed absent]
    exact .refl id state
  cases operation with
  | create | switch => cases addressed
  | prepare memoryShort owner entry argument =>
    cases addressed
    exact (prepare_shift here memoryShort entry argument).1.confined
  | receive =>
    cases addressed
    simp only [outcome, receive_eq here]
    cases task.messages with
    | nil => exact .refl _ state
    | cons message rest => exact repost_confined task rest
  | send owner message =>
    cases addressed
    exact (repost_confined task _).trans (sound.send here message).1.confined
  | wakeup owner level =>
    cases addressed
    exact (sound.wakeup here level).1.confined
  | setLevel owner level =>
    cases addressed
    exact (sound.setLevel here level).1.confined
  | sleep =>
    cases addressed
    by_cases decides : Decides state (.sleep task.id)
    · rw [outcome, sound.sleep_deciding decides]
      exact sound.switch_confined true decides.1
    · exact (sound.sleep_waiting here decides).1.confined

/-- Whether an operation sets the level of the executing task. -/
def Moves (state : Scheduler) : Operation → Prop
  | setLevel id _ | wakeup id (some _) => state.current? = some id
  | _ => False

/-- Only a decision or a new level of the executing task changes the current level. -/
theorem currentLevel_kept (sound : state.Sound) (decides : ¬operation.Decides state)
    (moves : ¬operation.Moves state) :
    (operation.outcome state).next.currentLevel = state.currentLevel := by
  cases addressed : operation.addressee? with
  | none =>
    cases operation with
    | create => rfl
    | switch => exact absurd trivial decides
    | _ => cases addressed
  | some id =>
    rcases state.tasks.absent_or_here id with absent | ⟨task, rfl, here⟩
    · rw [outcome_of_absent sound addressed absent]
      rfl
    cases operation with
    | create | switch => cases addressed
    | prepare memoryShort owner entry argument =>
      cases addressed
      simp only [outcome, Scheduler.prepare, withTask_some here]
      rcases task.prepare (state.memory.offer memoryShort task.id) entry argument with ⟨_ | _, _⟩ <;> rfl
    | receive =>
      cases addressed
      simp only [outcome, receive_eq here]
      cases task.messages <;> rfl
    | send owner message => exact (state.send_ready owner message).1
    | wakeup owner level =>
      cases addressed
      cases level with
      | none => exact (state.wakeup_ready task.id).1
      | some level => exact (sound.wakeup here (some level)).1.currentLevel moves
    | setLevel owner level =>
      cases addressed
      exact (sound.setLevel here level).1.currentLevel moves
    | sleep owner =>
      cases addressed
      by_cases idle : task.id = state.idle
      · simp only [outcome, Scheduler.sleep, idle, if_true]
        rfl
      · exact (sound.sleep_waiting here decides).1.currentLevel fun executing => decides ⟨executing, idle⟩

theorem decides_or_moves (sound : state.Sound)
    (changed : (operation.outcome state).next.currentLevel ≠ state.currentLevel) :
    operation.Decides state ∨ operation.Moves state := by
  by_contra neither
  obtain ⟨decides, moves⟩ := not_or.mp neither
  exact changed (currentLevel_kept sound decides moves)

end Operation

end PriorityKernel
