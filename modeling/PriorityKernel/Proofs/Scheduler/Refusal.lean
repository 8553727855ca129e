import PriorityKernel.Proofs.Scheduler.Gear

namespace PriorityKernel

open Scheduler

variable {state : Scheduler} {id : TaskId}

/-- The numbers that name nobody are 0 and those not given yet. -/
theorem Scheduler.Placed.unknown_iff (placed : state.Placed) :
    id ∉ state.tasks.ids ↔ id = 0 ∨ state.tasks.size < id := by
  have count : state.tasks.size = state.lastId := by
    have lengths := congrArg List.length placed.numbered
    simpa [TaskTable.ids, TaskTable.size] using lengths
  rw [placed.known_iff, count, not_and_or, Nat.not_le, Nat.not_le, Nat.lt_one_iff]

/-- A preparation is refused for want of the task, or of memory for a first stack, and nothing changes then. -/
theorem Scheduler.Placed.prepare_refused (placed : state.Placed) {last : Option (UInt64 × Int64)}
    (laid : Gear.Laid state.memory id last (state.gear id)) {memoryShort : Bool} {entry : UInt64} {argument : Int64}
    {error : TaskError}
    (failed : (state.prepare memoryShort id entry argument).reply = .error (.refused error)) :
    state.prepare memoryShort id entry argument = Outcome.refuse error state ∧
      ((error = .noSuchTask id ∧ id ∉ state.tasks.ids) ∨
        (error = .outOfMemory id Config.stackBytes ∧ id ∈ state.tasks.ids ∧ (state.stack id).bytes = 0 ∧
          (memoryShort = true ∨ state.memory.block? id = none))) := by
  rcases placed.prepare_cases laid memoryShort entry argument with
    ⟨_, _, _, _, _, made⟩ | ⟨absent, made⟩ | ⟨here, bare, short, made⟩
  all_goals
    rw [made] at failed ⊢
    cases failed
  · have unknown : id ∉ state.tasks.ids := by
      rw [TaskTable.mem_ids_iff, absent]
      exact nofun
    exact ⟨rfl, Or.inl ⟨rfl, unknown⟩⟩
  · exact ⟨rfl, Or.inr ⟨rfl, TaskTable.mem_ids_iff.mpr here, bare, short⟩⟩

/-- A task that was prepared on a block and not woken yet. -/
def Task.housed (id : TaskId) (block : Block) (entry : UInt64) (argument : Int64) : Task :=
  { id
    stack := ⟨some block, Config.stackBytes / Config.wordBytes⟩
    context := TaskContext.start Processor.boot id entry argument block.stop }

/-- The scheduler with one more task. -/
def Scheduler.joined (state : Scheduler) (task : Task) : Scheduler :=
  { state with lastId := state.lastId + 1, tasks := state.tasks.push task }

/-- The scheduler with one more task, which has been woken. -/
def Scheduler.spawned (state : Scheduler) (block : Block) (entry : UInt64) (argument : Int64) : Scheduler :=
  { state.joined { Task.housed (state.lastId + 1) block entry argument with running := true } with
    ready := state.ready.pushBack (Level.clamp Config.defaultLevel) (state.lastId + 1)
    levelChanged := decide (state.currentLevel < Level.clamp Config.defaultLevel) || state.levelChanged }

theorem Scheduler.Sound.get?_joined (sound : state.Sound) {task : Task} (next : task.id = state.lastId + 1) :
    (state.joined task).tasks.get? (state.lastId + 1) = some task := by
  show (state.tasks.push task).get? _ = _
  rw [TaskTable.get?_push, sound.fresh, if_pos next, Option.none_or]

theorem Scheduler.Sound.store_joined (sound : state.Sound) {task record : Task} (next : task.id = state.lastId + 1)
    (same : record.id = task.id) : (state.joined task).store record = state.joined record := by
  have fresh := sound.fresh
  rw [← next] at fresh
  rw [Scheduler.store, joined, TaskTable.set_push fresh same, joined]

theorem Scheduler.Sound.store_housed (sound : state.Sound) (block : Block) (entry : UInt64) (argument : Int64) :
    (state.joined { id := state.lastId + 1 }).store (Task.housed (state.lastId + 1) block entry argument) =
      state.joined (Task.housed (state.lastId + 1) block entry argument) :=
  sound.store_joined rfl rfl

theorem Scheduler.Sound.store_awake (sound : state.Sound) (block : Block) (entry : UInt64) (argument : Int64) :
    (state.joined (Task.housed (state.lastId + 1) block entry argument)).store
        { Task.housed (state.lastId + 1) block entry argument with running := true } =
      state.joined { Task.housed (state.lastId + 1) block entry argument with running := true } :=
  sound.store_joined rfl rfl

theorem Scheduler.Sound.prepare_joined (sound : state.Sound) {memoryShort : Bool} {block : Block}
    (offered : state.memory.offer memoryShort (state.lastId + 1) = some block) (entry : UInt64) (argument : Int64) :
    (state.joined { id := state.lastId + 1 }).prepare memoryShort (state.lastId + 1) entry argument =
      ⟨.ok (), state.joined (Task.housed (state.lastId + 1) block entry argument),
        [.contextPrepared (state.lastId + 1)],
        [.prepared (state.lastId + 1) entry argument]⟩ := by
  have given : (state.joined { id := state.lastId + 1 }).memory.offer memoryShort (state.lastId + 1) = some block :=
    offered
  rw [Scheduler.prepare, withTask_some (sound.get?_joined rfl), Task.prepare, given, Option.none_or,
    ← sound.store_housed]
  rfl

theorem Scheduler.Sound.wakeup_joined (sound : state.Sound) (block : Block) (entry : UInt64) (argument : Int64) :
    (state.joined (Task.housed (state.lastId + 1) block entry argument)).wakeup (state.lastId + 1) none =
      ⟨.ok (), state.spawned block entry argument, [], []⟩ := by
  have full : ¬((Task.housed (state.lastId + 1) block entry argument).stack.bytes = 0 ∧
      state.lastId + 1 ≠ TaskId.eventLoop) :=
    fun bare => absurd bare.1 (show Config.stackBytes / Config.wordBytes * Config.wordBytes ≠ 0 by decide)
  rw [Scheduler.wakeup, withTask_some (sound.get?_joined rfl), Scheduler.spawned, ← sound.store_awake]
  exact congrArg (fun notices => (⟨.ok (), _, notices, []⟩ : Outcome Unit)) (if_neg full)

theorem Scheduler.Sound.joined (sound : state.Sound) (block : Block) (entry : UInt64) (argument : Int64) :
    (state.joined (Task.housed (state.lastId + 1) block entry argument)).Sound := by
  rw [← sound.store_housed]
  refine sound.created.store _ (sound.get?_joined rfl) fun level => ?_
  rw [Task.seats_asleep rfl, Task.seats_asleep rfl]

theorem Scheduler.Sound.spawned (sound : state.Sound) (block : Block) (entry : UInt64) (argument : Int64) :
    (state.spawned block entry argument).Sound := by
  rw [Scheduler.spawned, ← sound.store_awake]
  have here : (state.joined (Task.housed (state.lastId + 1) block entry argument)).tasks.get?
      (Task.housed (state.lastId + 1) block entry argument).id = some _ := sound.get?_joined rfl
  exact (sound.joined block entry argument).woken here rfl (Level.clamp Config.defaultLevel)

/-- Whoever exists is not refused, but perhaps a stack. -/
theorem Operation.accepted (sound : state.Sound) (operation : Operation) (addressed : operation.addressee? = some id)
    (other : ¬operation.Prepares) (known : id ∈ state.tasks.ids) :
    ∃ ends, (operation.outcome state).reply = .ok ends := by
  obtain ⟨task, here⟩ := TaskTable.mem_ids_iff.mp known
  cases TaskTable.id_of_get? here
  cases operation with
  | create | switch => cases addressed
  | prepare => exact absurd trivial other
  | receive owner =>
    cases addressed
    simp only [outcome, receive_eq here]
    cases task.messages <;> exact ⟨none, rfl⟩
  | send owner message =>
    cases addressed
    exact ⟨none, by simp only [outcome, Outcome.map, (sound.send here message).2.1, Except.map]⟩
  | wakeup owner level =>
    cases addressed
    exact ⟨none, by simp only [outcome, Outcome.map, (sound.wakeup here level).2.1, Except.map]⟩
  | setLevel owner level =>
    cases addressed
    exact ⟨none, by simp only [outcome, Outcome.map, (sound.setLevel here level).2.1, Except.map]⟩
  | sleep owner =>
    cases addressed
    by_cases decides : Operation.Decides state (.sleep task.id)
    · obtain ⟨_, _, _, _, _, made⟩ := sound.switch true
      rw [outcome, sound.sleep_deciding decides, made]
      exact ⟨_, rfl⟩
    · exact ⟨none, (sound.sleep_waiting here decides).2.1⟩

end PriorityKernel
