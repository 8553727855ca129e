import PriorityKernel.Proofs.Scheduler.Sound
import PriorityKernel.Scheduler.Waking

namespace PriorityKernel.Scheduler

/-- The calling thread. -/
def mainTask : Task := { id := 1, level := Level.top, running := true }

def idleTask (memory : Memory) : Task :=
  { id := 2
    level := Level.clamp 0
    running := true
    stack := ⟨memory.block? 2, Config.stackBytes / Config.wordBytes⟩
    context := TaskContext.start Processor.boot 2 idleEntry 0 (((memory.block? 2).map Block.stop).getD 0) }

/-- A scheduler that has just started. -/
def initial (memory : Memory) : Scheduler :=
  { tasks := (TaskTable.empty.push mainTask).push (idleTask memory)
    ready := (ReadyQueues.empty.pushBack Level.top 1).pushBack (Level.clamp 0) 2
    currentLevel := Level.top
    levelChanged := false
    lastId := 2
    idle := 2
    memory }

/-- What starting prepares. -/
def idlePreparation : Deed := .prepared 2 idleEntry 0

/-- The scheduler of the calling thread and of an idle task that has no stack yet. -/
def unhoused (memory : Memory) : Scheduler :=
  { tasks := (TaskTable.empty.push mainTask).push { id := 2 }
    ready := ReadyQueues.empty.pushBack Level.top 1
    currentLevel := Level.top
    levelChanged := false
    lastId := 2
    idle := TaskId.kernel
    memory }

variable {memory : Memory} {memoryShort : Bool}

theorem start_eq_prepare (memory : Memory) (memoryShort : Bool) : start memory memoryShort =
    ((unhoused memory).prepare memoryShort 2 idleEntry 0).andThen fun _ state =>
      ({ state with idle := 2 }.wakeup 2 (some Config.idleLevel)).noting (.schedulerStarted 1 2) := by
  rfl

theorem prepare_unhoused (memory : Memory) (memoryShort : Bool) :
    (unhoused memory).prepare memoryShort 2 idleEntry 0 =
      match memory.offer memoryShort 2 with
      | none => Outcome.refuse (.outOfMemory 2 Config.stackBytes) ((unhoused memory).store { id := 2 })
      | some block =>
        ⟨.ok (), (unhoused memory).store
            { id := 2
              stack := ⟨some block, Config.stackBytes / Config.wordBytes⟩
              context := TaskContext.start Processor.boot 2 idleEntry 0 block.stop },
          [.contextPrepared 2], [idlePreparation]⟩ := by
  have here : (unhoused memory).tasks.get? 2 = some { id := 2 } := rfl
  have given : (unhoused memory).memory = memory := rfl
  simp only [prepare, withTask, here, given, Task.prepare, Option.none_or]
  cases memory.offer memoryShort 2 <;> rfl

theorem start_refused (refused : memory.offer memoryShort 2 = none) :
    (start memory memoryShort).reply = .error (.refused (.outOfMemory 2 Config.stackBytes)) := by
  rw [start_eq_prepare, prepare_unhoused, refused]
  rfl

theorem start_eq {block : Block} (offered : memory.offer memoryShort 2 = some block) :
    start memory memoryShort =
      ⟨.ok (), initial memory, [.contextPrepared 2, .schedulerStarted 1 2], [idlePreparation]⟩ := by
  rw [start_eq_prepare, prepare_unhoused, offered, initial, idleTask, Memory.block_of_offer offered]
  rfl

theorem initial_sound (memory : Memory) : (initial memory).Sound := by
  have seats : ∀ id level, (initial memory).tasks.seats id level =
      (if id = 1 then mainTask.seats level else 0) + if id = 2 then (idleTask memory).seats level else 0 := by
    intro id level
    simp only [initial]
    rw [TaskTable.seats_push (by rfl), TaskTable.seats_push (by rfl), TaskTable.seats_empty, Nat.zero_add]
    rfl
  refine ⟨⟨rfl, ?_, rfl, rfl⟩, List.cons_ne_nil 1 []⟩
  intro id level
  rw [seats, Task.seats_running rfl, Task.seats_running rfl]
  simp only [initial, ReadyQueues.count_pushBack, ReadyQueues.queue_empty, List.count_nil, Nat.zero_add]
  show _ = (if id = 1 then if level = Level.top then 1 else 0 else 0) +
    if id = 2 then if level = Level.clamp 0 then 1 else 0 else 0
  split_ifs <;> simp_all

end PriorityKernel.Scheduler
