import PriorityKernel.Scheduler.Basic

namespace PriorityKernel.Scheduler

/-- Moves a running task to another level. The executing task stays in front and takes the current
level with it; any other task goes to the back of its new queue. The idle task does not move. -/
def moveRunning (state : Scheduler) (task : Task) (level : Level) : Outcome Unit :=
  if level = task.level then Outcome.pure () state
  else if task.id = state.idle then (Outcome.pure () state).noting .idleLevelKept
  else
    state.withCurrent fun current =>
      let relevelled := state.store { task with level }
      if task.id = current then
        let ready := (state.ready.popFront state.currentLevel).pushFront level task.id
        let lowered := decide (level < state.currentLevel)
        ⟨.ok (), { relevelled with
          ready
          currentLevel := level
          levelChanged := lowered || state.levelChanged }, [.executingMoved task.id level], []⟩
      else
        let ready := (state.ready.erase task.level task.id).pushBack level task.id
        let raised := decide (state.currentLevel < level)
        ⟨.ok (), { relevelled with ready, levelChanged := raised || state.levelChanged }, [], []⟩

/-- Puts a sleeping task at the back of the queue of its level. -/
def enqueue (state : Scheduler) (task : Task) : Scheduler :=
  let raised := decide (state.currentLevel < task.level)
  { state.store { task with running := true } with
    ready := state.ready.pushBack task.level task.id
    levelChanged := raised || state.levelChanged }

/-- Makes a task ready, at `level` if one is given. A task that runs already only moves. -/
def wakeup (state : Scheduler) (id : TaskId) (level : Option Nat) : Outcome Unit :=
  state.withTask id fun task =>
    if task.running then
      match level with
      | none => Outcome.pure () state
      | some level => state.moveRunning task (Level.clamp level)
    else
      let unprepared := task.stack.bytes = 0 ∧ id ≠ TaskId.eventLoop
      let levelled := { task with level := (level.map Level.clamp).getD task.level }
      ⟨.ok (), state.enqueue levelled, if unprepared then [.wokenUnprepared id] else [], []⟩

/-- Sets the level of a sleeping task, or moves a running one. -/
def setLevel (state : Scheduler) (id : TaskId) (level : Nat) : Outcome Unit :=
  state.withTask id fun task =>
    if task.running then state.moveRunning task (Level.clamp level)
    else Outcome.pure () (state.store { task with level := Level.clamp level })

/-- Appends a message to the queue of a task and wakes it. -/
def send (state : Scheduler) (id : TaskId) (message : Message) : Outcome Unit :=
  state.withTask id fun task =>
    let posted := state.store { task with messages := task.messages ++ [message] }
    let woken := posted.wakeup id none
    { woken with deeds := .sent id message :: woken.deeds }

def idleEntry : UInt64 := 0x10_1000

/-- Starts the scheduler around the calling thread, which becomes task 1 at the highest level; task
2 is the idle task. Refused if there is no memory for the idle task's stack. -/
def start (memory : Memory) (memoryShort : Bool) : Outcome Unit :=
  let main := (blank memory).create
  let adopted : Outcome TaskId := main.andThen fun id state =>
    state.withTask id fun task =>
      Outcome.pure id (state.enqueue { task with level := Level.top })
  adopted.andThen fun main state =>
    state.create.andThen fun idle state =>
      (state.prepare memoryShort idle idleEntry 0).andThen fun _ state =>
        ({ state with idle }.wakeup idle (some Config.idleLevel)).noting
          (.schedulerStarted main idle)

end PriorityKernel.Scheduler
