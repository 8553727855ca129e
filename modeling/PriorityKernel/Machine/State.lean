import PriorityKernel.Keyboard.Decoder
import PriorityKernel.Machine.Step
import PriorityKernel.Device.InterruptController
import PriorityKernel.Scheduler.Basic

namespace PriorityKernel

/-- The locks of the kernel, in the order in which they may be taken. -/
inductive Lock where
  | timers
  | scheduler
  | keyboard
  | serial
  deriving DecidableEq, Repr

structure Kernel where
  interrupts : Bool := true
  /-- The locks held, the one taken last first. -/
  locks : List Lock := []
  sched : Scheduler
  timers : TimerQueue := TimerQueue.empty
  /-- Set up before any program runs, so that there always is one to poll. -/
  keyboard : Keyboard := Keyboard.fresh
  /-- Bytes waiting in the keyboard controller. -/
  scanCodes : List UInt8 := []
  lineMasks : LineMasks := ⟨0xFF, 0xFF⟩
  cursorVisible : Bool := false
  layerRequests : Nat := 0
  /-- Whether a request for a stack is refused. -/
  memoryShort : Bool := false
  switches : Nat := 0

namespace Kernel

/-- The executing task, unless the scheduler is locked. -/
def visibleTask? (kernel : Kernel) : Option TaskId :=
  if Lock.scheduler ∈ kernel.locks then none else kernel.sched.current?

/-- The context that a task would be resumed with. -/
def context (kernel : Kernel) (id : TaskId) : TaskContext :=
  ((kernel.sched.tasks.get? id).map (·.context)).getD TaskContext.zeroed

end Kernel

/-- How far the event loop has come with a message. -/
inductive Answering where
  /-- It begins to dispatch a message that it took. -/
  | begun (message : Message)
  /-- It has sent that task the reply to a request. -/
  | done (id : TaskId)

inductive Event where
  | logged (notice : Notice)
  | switched (ends : Handover)
  | interrupted
  | handled (message : Message)
  /-- The interrupt controller was told that a timer interrupt is over. -/
  | acknowledged
  | did (deed : Deed)
  | answered (answering : Answering)
  /-- A step ended; the depth counts the scripts it ran inside of. -/
  | finished (depth : Nat) (step : Step) (reply : Except Fault Reply)

structure Entry where
  event : Event
  kernel : Kernel

/-- Scripts set aside. -/
structure Agenda where
  /-- One script for each of the next context switches. -/
  hooks : List Script := []
  /-- Interrupts that wait until interrupts are enabled. -/
  pending : List Script := []
  /-- Scripts for the next calls of each handler. -/
  reactions : List (HandlerKind × Script) := []

namespace Agenda

/-- Takes the first script set aside for a handler. -/
def popReaction? (agenda : Agenda) (kind : HandlerKind) : Option (Script × Agenda) :=
  match agenda.reactions.find? (·.1 == kind) with
  | none => none
  | some (_, script) =>
    some (script, { agenda with reactions := agenda.reactions.eraseP (·.1 == kind) })

end Agenda

/-- Whether there is a kernel, or only a scheduler and timers side by side. -/
inductive Core where
  | bare
  | kernel
  deriving DecidableEq, Repr

structure Machine where
  core : Core
  filter : LogFilter
  kernel : Kernel
  agenda : Agenda := {}
  /-- Scripts started from the agenda so far. -/
  started : Nat := 0
  /-- What happened, the latest first. -/
  trace : List Entry := []

namespace Machine

def record (machine : Machine) (event : Event) : Machine :=
  { machine with trace := ⟨event, machine.kernel⟩ :: machine.trace }

/-- Counts what can bring a message to a waiting task: context switches and scripts started. -/
def activity (machine : Machine) : Nat × Nat := (machine.kernel.switches, machine.started)

end Machine

/-- Where a call runs: how to run a script inside of it, and how many scripts there can be. -/
structure Scope where
  /-- At least as many as there are scripts that can still be started. -/
  credit : Nat
  /-- Runs a script inside the call. -/
  nest : Script → Machine → Machine

/-- Calls on the machine. A fault keeps the state that was reached. -/
abbrev KernelM := ReaderT Scope (ExceptT Fault (StateM Machine))

namespace KernelM

variable {α : Type}

def kernel : KernelM Kernel := return (← get).kernel

def modifyKernel (change : Kernel → Kernel) : KernelM Unit :=
  modify fun machine => { machine with kernel := change machine.kernel }

def record (event : Event) : KernelM Unit := modify fun machine => machine.record event

/-- Runs a call and answers with its result, also when it is a fault. -/
def observe (call : KernelM α) : KernelM (Except Fault α) := fun scope machine =>
  let (result, after) := call scope machine
  (.ok result, after)

/-- Goes on with an observed result. -/
def resume (result : Except Fault α) : KernelM α := fun _ machine => (result, machine)

/-- Runs a call and answers with its result, also when it is refused. -/
def attempt (call : KernelM α) : KernelM (Except TaskError α) := do
  match ← observe call with
  | .ok value => return .ok value
  | .error (.refused error) => return .error error
  | .error fault => throw fault

def refuse (error : TaskError) : KernelM α := throw (.refused error)

/-- Runs a script inside the call. Its steps record their own faults. -/
def nest (script : Script) : KernelM Unit := fun scope machine =>
  (.ok (), scope.nest script { machine with started := machine.started + 1 })

end KernelM

end PriorityKernel
