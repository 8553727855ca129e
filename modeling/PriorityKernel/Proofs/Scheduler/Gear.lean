import PriorityKernel.Proofs.Scheduler.Stacks
import Mathlib.Data.List.Nodup

namespace PriorityKernel

/-- What a task is resumed with. -/
structure Gear where
  stack : Stack := {}
  context : TaskContext := TaskContext.zeroed

def Task.gear (task : Task) : Gear := ⟨task.stack, task.context⟩

/-- What a deed prepares a task with: the entry point and the argument. -/
def Deed.preparation? (id : TaskId) : Deed → Option (UInt64 × Int64)
  | .prepared owner entry argument => if owner = id then some (entry, argument) else none
  | _ => none

/-- The gear of a task after its last preparation, and before the first one. -/
inductive Gear.Laid (memory : Memory) (id : TaskId) : Option (UInt64 × Int64) → Gear → Prop
  | bare : Laid memory id none {}
  | prepared {entry argument block} (housed : memory.block? id = some block) :
      Laid memory id (some (entry, argument)) ⟨⟨some block, Config.stackBytes / Config.wordBytes⟩,
        TaskContext.start Processor.boot id entry argument block.stop⟩

theorem Gear.Laid.bare_bytes {memory : Memory} {id : TaskId} {gear : Gear} (laid : Gear.Laid memory id none gear) :
    gear.stack.bytes = 0 := by
  cases laid
  rfl

/-- A record that was put in place of another one is found in its place. -/
theorem TaskTable.get?_set_at {table : TaskTable} {task found : Task} {id : TaskId} (own : task.id = id)
    (here : table.get? id = some found) : (table.set task).get? id = some task := by
  subst own
  exact get?_set_self here

namespace Scheduler

variable {state : Scheduler} {task found : Task} {id : TaskId}

/-- The gear of a task; one that does not exist has none. -/
def gear (state : Scheduler) (id : TaskId) : Gear := ((state.tasks.get? id).map Task.gear).getD {}

theorem gear_of_get? (here : state.tasks.get? id = some task) : state.gear id = task.gear := by
  simp only [gear, here, Option.map_some, Option.getD_some]

theorem gear_stack (state : Scheduler) (id : TaskId) : (state.gear id).stack = state.stack id := by
  unfold gear stack
  cases state.tasks.get? id <;> rfl

theorem gear_store (task : Task) (here : state.tasks.get? task.id = some found) (id : TaskId) :
    (state.store task).gear id = if id = task.id then task.gear else state.gear id := by
  split
  · next same =>
    subst same
    exact gear_of_get? (TaskTable.get?_set_self here)
  · next distinct => simp only [gear, store, TaskTable.get?_set_of_ne distinct]

theorem gear_kept (task : Task) (here : state.tasks.get? task.id = some found) (kept : task.gear = found.gear)
    (id : TaskId) : (state.store task).gear id = state.gear id := by
  rw [gear_store task here]
  split
  · next same =>
    subst same
    rw [kept, gear_of_get? here]
  · rfl

/-! ### Operations that prepare nobody -/

theorem withTask_gear {α : Type} (owner : TaskId) {body : Task → Outcome α}
    (kept : ∀ task, state.tasks.get? task.id = some task → (body task).next.gear id = state.gear id) :
    (state.withTask owner body).next.gear id = state.gear id := by
  rcases state.tasks.absent_or_here owner with absent | ⟨task, rfl, here⟩
  · rw [withTask_none absent]
    rfl
  · rw [withTask_some here]
    exact kept task here

theorem moveRunning_gear (here : state.tasks.get? task.id = some task) (level : Level) (id : TaskId) :
    (state.moveRunning task level).next.gear id = state.gear id := by
  have moved := gear_kept { task with level } here rfl id
  unfold Scheduler.moveRunning
  split
  · rfl
  split
  · rfl
  unfold withCurrent
  split
  · rfl
  dsimp only
  split
  · exact moved
  · exact moved

theorem wakeup_gear (state : Scheduler) (owner : TaskId) (level : Option Nat) (id : TaskId) :
    (state.wakeup owner level).next.gear id = state.gear id := by
  refine withTask_gear owner fun task here => ?_
  split
  · cases level with
    | none => rfl
    | some level => exact moveRunning_gear here _ id
  · exact gear_kept { task with level := (level.map Level.clamp).getD task.level, running := true } here rfl id

theorem setLevel_gear (state : Scheduler) (owner : TaskId) (level : Nat) (id : TaskId) :
    (state.setLevel owner level).next.gear id = state.gear id := by
  refine withTask_gear owner fun task here => ?_
  split
  · exact moveRunning_gear here _ id
  · exact gear_kept { task with level := Level.clamp level } here rfl id

theorem send_gear (state : Scheduler) (receiver : TaskId) (message : Message) (id : TaskId) :
    (state.send receiver message).next.gear id = state.gear id :=
  withTask_gear receiver fun task here =>
    (wakeup_gear (state.repost task (task.messages ++ [message])) receiver none id).trans
      (gear_kept { task with messages := task.messages ++ [message] } here rfl id)

theorem receive_gear (state : Scheduler) (owner id : TaskId) :
    (state.receive owner).next.gear id = state.gear id := by
  refine withTask_gear owner fun task here => ?_
  cases task.messages with
  | nil => rfl
  | cons message rest => exact gear_kept { task with messages := rest } here rfl id

theorem Sound.create_gear (sound : state.Sound) (id : TaskId) : state.create.next.gear id = state.gear id := by
  show (((state.tasks.push { id := state.lastId + 1 }).get? id).map Task.gear).getD {} = state.gear id
  rw [TaskTable.get?_push]
  by_cases new : state.lastId + 1 = id
  · subst new
    simp only [gear, sound.fresh, if_true, Option.none_or]
    rfl
  · rw [if_neg new, Option.or_none, gear]

theorem Sound.switch_gear (sound : state.Sound) (sleeping : Bool) (id : TaskId) :
    (state.switch sleeping).next.gear id = state.gear id := by
  obtain ⟨outgoing, _, _, _, _, made⟩ := sound.switch sleeping
  rw [made, gear, settle_tasks]
  rcases state.aside_tasks sleeping outgoing with same | ⟨task, rfl, here, parked⟩
  · rw [same, gear]
  · rw [parked]
    exact gear_kept { task with running := false } here rfl id

theorem Sound.sleep_gear (sound : state.Sound) (owner id : TaskId) :
    (state.sleep owner).next.gear id = state.gear id := by
  by_cases decides : Operation.Decides state (.sleep owner)
  · rw [sound.sleep_deciding decides]
    exact sound.switch_gear true id
  · obtain ⟨front, executing⟩ := sound.executing
    unfold Scheduler.sleep
    split
    · rfl
    · next mobile =>
      have other : front ≠ owner := fun same => decides ⟨same ▸ executing, mobile⟩
      simp only [withCurrent, executing, other, if_false]
      refine withTask_gear owner fun task here => ?_
      split
      · exact gear_kept { task with running := false } here rfl id
      · rfl

end Scheduler

open Scheduler

theorem Operation.gear_of_other {state : Scheduler} (sound : state.Sound) {operation : Operation}
    (other : ¬operation.Prepares) (id : TaskId) : (operation.outcome state).next.gear id = state.gear id := by
  cases operation with
  | create => exact sound.create_gear id
  | prepare => exact absurd trivial other
  | receive owner => exact receive_gear state owner id
  | send receiver message => exact send_gear state receiver message id
  | wakeup owner level => exact wakeup_gear state owner level id
  | setLevel owner level => exact setLevel_gear state owner level id
  | sleep owner => exact sound.sleep_gear owner id
  | switch sleeping => exact sound.switch_gear sleeping id

/-! ### Preparing a task -/

namespace Scheduler

variable {state : Scheduler} {task : Task} {id : TaskId}

/-- A preparation is nobody else's concern. -/
theorem prepare_gear (state : Scheduler) (memoryShort : Bool) {owner : TaskId} (entry : UInt64) (argument : Int64)
    (distinct : id ≠ owner) : (state.prepare memoryShort owner entry argument).next.gear id = state.gear id := by
  rcases state.tasks.absent_or_here owner with absent | ⟨task, rfl, here⟩
  · rw [Scheduler.prepare, withTask_none absent]
    rfl
  · rw [Scheduler.prepare, withTask_some here, Task.prepare]
    cases task.stack.block.or (state.memory.offer memoryShort task.id) with
    | none => exact (gear_store { task with stack := { task.stack with words := 0 } } here id).trans (if_neg distinct)
    | some block =>
      exact (gear_store { task with stack := ⟨some block, _⟩, context := _ } here id).trans (if_neg distinct)

theorem Placed.store_self (placed : state.Placed) (here : state.tasks.get? task.id = some task) :
    state.store task = state := by
  have single : (state.tasks.tasks.map (·.id)).Nodup := by
    rw [show state.tasks.tasks.map (·.id) = _ from placed.numbered]
    exact List.nodup_range'
  have member := List.mem_of_find?_eq_some here
  have same : state.tasks.set task = state.tasks := by
    refine congrArg TaskTable.mk ((List.map_congr_left fun old inside => ?_).trans (List.map_id _))
    split
    · next own => exact (List.inj_on_of_nodup_map single inside member own).symm
    · rfl
  rw [store, same]

/-- Whoever has no stack is refused if there is no block for one, and then nothing changes. -/
theorem Placed.prepare_bare (placed : state.Placed) (here : state.tasks.get? id = some task) (bare : task.stack = {})
    {memoryShort : Bool} (short : memoryShort = true ∨ state.memory.block? id = none) (entry : UInt64)
    (argument : Int64) :
    state.prepare memoryShort id entry argument = Outcome.refuse (.outOfMemory id Config.stackBytes) state := by
  cases TaskTable.id_of_get? here
  have none : task.stack.block.or (state.memory.offer memoryShort task.id) = none := by
    rw [bare, Memory.offer_none_iff.mpr short]
    rfl
  have same : ({ task with stack := { task.stack with words := 0 } } : Task) = task := by
    rw [show ({ task.stack with words := 0 } : Stack) = task.stack by rw [bare]]
  rw [Scheduler.prepare, withTask_some here, Task.prepare, none, same]
  dsimp only
  rw [placed.store_self here]

/-- A preparation lays the gear out; only a task that has none is refused, and then nothing changes. -/
theorem Placed.prepare (placed : state.Placed) (here : state.tasks.get? task.id = some task)
    {last : Option (UInt64 × Int64)} (laid : Gear.Laid state.memory task.id last task.gear) (memoryShort : Bool)
    (entry : UInt64) (argument : Int64) :
    (∃ gear, Gear.Laid state.memory task.id (some (entry, argument)) gear ∧
      state.prepare memoryShort task.id entry argument =
        ⟨.ok (), state.store { task with stack := gear.stack, context := gear.context },
          [.contextPrepared task.id], [.prepared task.id entry argument]⟩) ∨
    (last = none ∧ (memoryShort = true ∨ state.memory.block? task.id = none) ∧
      state.prepare memoryShort task.id entry argument =
        Outcome.refuse (.outOfMemory task.id Config.stackBytes) state) := by
  generalize made : task.gear = gear at laid
  cases laid with
  | bare =>
    have stack : task.stack = {} := congrArg Gear.stack made
    cases offered : state.memory.offer memoryShort task.id with
    | none =>
      have short := Memory.offer_none_iff.mp offered
      exact Or.inr ⟨rfl, short, placed.prepare_bare here stack short entry argument⟩
    | some block =>
      refine Or.inl ⟨_, .prepared (Memory.block_of_offer offered), ?_⟩
      rw [Scheduler.prepare, withTask_some here, Task.prepare, stack, offered]
      rfl
  | prepared kept =>
    have block : task.stack.block = _ := congrArg (·.stack.block) made
    rw [Scheduler.prepare, withTask_some here, Task.prepare, block, Option.some_or]
    exact Or.inl ⟨_, .prepared kept, rfl⟩

/-- A preparation lays the gear out or is refused, and what is refused changes nothing. It is refused for want
of the task, or of memory for a first stack. -/
theorem Placed.prepare_cases (placed : state.Placed) {last : Option (UInt64 × Int64)}
    (laid : Gear.Laid state.memory id last (state.gear id)) (memoryShort : Bool) (entry : UInt64)
    (argument : Int64) :
    (∃ task gear, task.id = id ∧ state.tasks.get? task.id = some task ∧
      Gear.Laid state.memory id (some (entry, argument)) gear ∧
      state.prepare memoryShort id entry argument =
        ⟨.ok (), state.store { task with stack := gear.stack, context := gear.context },
          [.contextPrepared id], [.prepared id entry argument]⟩) ∨
    (state.tasks.get? id = none ∧
      state.prepare memoryShort id entry argument = Outcome.refuse (.noSuchTask id) state) ∨
    ((∃ task, state.tasks.get? id = some task) ∧ (state.stack id).bytes = 0 ∧
      (memoryShort = true ∨ state.memory.block? id = none) ∧
      state.prepare memoryShort id entry argument = Outcome.refuse (.outOfMemory id Config.stackBytes) state) := by
  rcases state.tasks.absent_or_here id with absent | ⟨task, rfl, here⟩
  · exact Or.inr (Or.inl ⟨absent, withTask_none absent⟩)
  · have own := laid
    rw [gear_of_get? here] at own
    rcases placed.prepare here own memoryShort entry argument with ⟨gear, after, made⟩ | ⟨rfl, short, made⟩
    · exact Or.inl ⟨task, gear, rfl, here, after, made⟩
    · have bare : (state.stack task.id).bytes = 0 := by
        rw [← state.gear_stack]
        exact laid.bare_bytes
      exact Or.inr (Or.inr ⟨⟨task, here⟩, bare, short, made⟩)

end Scheduler

theorem Operation.gear_of_unprepared {state : Scheduler} (sound : state.Sound) {operation : Operation} {id : TaskId}
    (other : ∀ memoryShort entry argument, operation ≠ .prepare memoryShort id entry argument) :
    (operation.outcome state).next.gear id = state.gear id := by
  by_cases prepares : operation.Prepares
  · cases operation with
    | prepare memoryShort owner entry argument =>
      exact state.prepare_gear memoryShort entry argument fun same => other memoryShort entry argument (same ▸ rfl)
    | _ => exact prepares.elim
  · exact gear_of_other sound prepares id

/-- Whatever is done, the gear of every task is as its last preparation laid it out. -/
theorem Operation.laid {state : Scheduler} (sound : state.Sound) {last : TaskId → Option (UInt64 × Int64)}
    (laid : ∀ id, Gear.Laid state.memory id (last id) (state.gear id)) (operation : Operation) (id : TaskId) :
    Gear.Laid (operation.outcome state).next.memory id
      (((operation.outcome state).deeds.filterMap (Deed.preparation? id)).getLast?.or (last id))
      ((operation.outcome state).next.gear id) := by
  rw [(operation.effect sound).memory]
  by_cases other : operation.Prepares
  · cases operation with
    | prepare memoryShort owner entry argument =>
      rcases sound.toPlaced.prepare_cases (laid owner) memoryShort entry argument with
        ⟨task, gear, rfl, here, after, made⟩ | ⟨_, made⟩ | ⟨_, _, _, made⟩
      · have stored : Gear.Laid state.memory task.id (some (entry, argument))
          ({ task with stack := gear.stack, context := gear.context } : Task).gear := after
        simp only [outcome, made, Outcome.map]
        rw [gear_store { task with stack := gear.stack, context := gear.context } here id]
        split
        · next same =>
          subst same
          simpa [Deed.preparation?] using stored
        · next distinct => simpa [Deed.preparation?, Ne.symm distinct] using laid id
      all_goals
        simp only [outcome, made]
        exact laid id
    | _ => exact other.elim
  · have none : (operation.outcome state).deeds.filterMap (Deed.preparation? id) = [] := by
      refine List.filterMap_eq_nil_iff.mpr fun deed member => ?_
      cases deed with
      | prepared owner entry argument => exact absurd rfl ((spares sound other).deeds _ member owner entry argument)
      | sent | taken | parked => rfl
    rw [none, gear_of_other sound other]
    exact laid id

end PriorityKernel
