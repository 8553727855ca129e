import PriorityKernel.Machine.Masking
import PriorityKernel.Scheduler.Switching
import PriorityKernel.Scheduler.Waking

namespace PriorityKernel.KernelM

/-- Goes from one task to another. The script set aside for this switch runs before the outgoing
task is resumed. -/
def perform (ends : Handover) : KernelM Unit := do
  modifyKernel fun kernel => { kernel with switches := kernel.switches + 1 }
  record (.switched ends)
  match (← get).agenda.hooks with
  | [] => pure ()
  | script :: rest =>
    modify fun machine => { machine with agenda.hooks := rest }
    nest script

/-- Decides on a switch under the lock and performs it after. -/
def switching (decide : Scheduler → Outcome (Option Handover)) : KernelM Unit := masked do
  match ← critical fun kernel => decide kernel.sched with
  | none => pure ()
  | some ends => perform ends

/-- Gives the processor to the next task; the executing one sleeps if `sleeping`. -/
def switch (sleeping : Bool) : KernelM Unit := switching (·.switch sleeping)

/-- Takes a task off the processor until it is woken again. -/
def sleep (id : TaskId) : KernelM Unit := switching (·.sleep id)

def wakeup (id : TaskId) (level : Option Nat) : KernelM Unit :=
  critical (·.sched.wakeup id level)

def setLevel (id : TaskId) (level : Nat) : KernelM Unit := critical (·.sched.setLevel id level)

def send (id : TaskId) (message : Message) : KernelM Unit := critical (·.sched.send id message)

def receive (id : TaskId) : KernelM (Option Message) := critical (·.sched.receive id)

def snapshot (id : TaskId) : KernelM Snapshot := critical (·.sched.snapshot id)

def create : KernelM TaskId := do
  let id ← critical (·.sched.create)
  log (.taskCreated id)
  return id

/-- Refused if there is no such task. -/
def find (id : TaskId) : KernelM Unit :=
  critical fun kernel => kernel.sched.withTask id fun _ => Outcome.pure () kernel.sched

def prepare (id : TaskId) (entry : UInt64) (argument : Int64) : KernelM Unit :=
  critical fun kernel => kernel.sched.prepare kernel.memoryShort id entry argument

/-- Runs a call during which no stack can be reserved, if `short`. -/
def withMemory {α : Type} (short : Bool) (call : KernelM α) : KernelM α := do
  let before := (← kernel).memoryShort
  modifyKernel fun kernel => { kernel with memoryShort := short || before }
  let result ← observe call
  modifyKernel fun kernel => { kernel with memoryShort := before }
  resume result

def currentTask : KernelM TaskId :=
  critical fun kernel => kernel.sched.withCurrent fun id => Outcome.pure id kernel.sched

def currentLevel : KernelM Level := inspect (·.currentLevel)

def taskIds : KernelM (List TaskId) := inspect (·.tasks.ids)

def taskCount : KernelM Nat := inspect (·.tasks.size)

def idleTask : KernelM TaskId := inspect (·.idle)

/-- The tasks ready at a level, front first. -/
def readyAt (level : Nat) : KernelM (List TaskId) := inspect (·.readyAt level)

/-- The executing task, or nothing if the scheduler is locked. -/
def visibleTask : KernelM (Option TaskId) := masked do return (← kernel).visibleTask?

def overview : KernelM Overview := do
  let ids ← taskIds
  let count ← taskCount
  let idle ← idleTask
  return ⟨ids, count, idle, ← visibleTask⟩

/-- Takes a message or puts the task to sleep. Looking and going to sleep happen in one masked
section, so that no message can slip in between. -/
def waitTurn (id : TaskId) : KernelM (Option Message) := masked do
  match ← receive id with
  | some message => return some message
  | none =>
    sleep id
    return none

/-- Repeats turns until one takes a message. A turn in which nothing else ran will be followed by
turns just like it, so the call is stuck. -/
def waitTurns (id : TaskId) : Nat → KernelM Message
  | 0 => throw .stuck
  | turns + 1 => do
    let before := (← get).activity
    match ← waitTurn id with
    | some message => return message
    | none => if (← get).activity = before then throw .stuck else waitTurns id turns

/-- The next message of a task, which sleeps until there is one. A turn that is followed by another
one started a script or switched away from the task. After such a switch the task is asleep, and
only a script wakes it, so there are at most two turns for each script and three more. -/
def wait (id : TaskId) : KernelM Message := do waitTurns id (2 * (← read).credit + 3)

def call (id : TaskId) : Call → KernelM CallReply
  | .prepare short entry argument => do
    withMemory short (prepare id entry argument)
    return .done
  | .setLevel level => do
    setLevel id level
    return .done
  | .wakeup level => do
    wakeup id level
    return .done
  | .sleep => do
    sleep id
    return .done
  | .send message => do
    send id message
    return .done
  | .receive => return .message (← receive id)
  | .snapshot => return .snapshot (← snapshot id)

/-- Makes calls one after another; a refusal is the last result. -/
def calls (id : TaskId) : List Call → KernelM (List (Except TaskError CallReply))
  | [] => return []
  | next :: rest => do
    match ← attempt (call id next) with
    | .error error => return [.error error]
    | .ok reply => return .ok reply :: (← calls id rest)

end PriorityKernel.KernelM
