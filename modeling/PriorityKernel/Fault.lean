import PriorityKernel.Record
import PriorityKernel.TaskId

namespace PriorityKernel

/-- Refusals of calls that name a task. -/
inductive TaskError where
  | noSuchTask (id : TaskId)
  | outOfMemory (task : TaskId) (bytes : Nat)
  deriving DecidableEq, Repr

def TaskError.message : TaskError → String
  | .noSuchTask id => s!"no such task: {id}"
  | .outOfMemory task bytes => s!"out of memory allocating {bytes} byte stack for task {task}"

def TaskError.written : TaskError → String
  | .noSuchTask id => Record.wrap "NoSuchTask" (TaskId.written id)
  | .outOfMemory task bytes =>
    Record.fields "OutOfMemory" [("task", TaskId.written task), ("bytes", toString bytes)]

/-- Conditions under which the kernel gives up. -/
inductive Panic where
  | emptyReadyQueue
  /-- A sum does not fit its word. -/
  | overflow
  | divisionByZero
  deriving DecidableEq, Repr

def Panic.message : Panic → String
  | .emptyReadyQueue => "ready queue of the current level is empty"
  | .overflow => "attempt to add with overflow"
  | .divisionByZero => "attempt to divide by zero"

inductive Fault where
  | refused (error : TaskError)
  /-- The call would never return. -/
  | stuck
  /-- The call waits for a lock that its own caller holds. -/
  | deadlock
  | panic (cause : Panic)
  /-- The call needs a kernel, and there is only a scheduler with its timers. -/
  | needsKernel
  deriving DecidableEq, Repr

def Fault.message : Fault → String
  | .refused error => error.message
  | .stuck => "stuck: would loop forever"
  | .deadlock => "lock already held"
  | .panic cause => cause.message
  | .needsKernel => "needs a kernel"

/-- Whether the fault leaves a call by unwinding it, in place of an ordinary return. -/
def Fault.unwinds : Fault → Bool
  | .stuck | .deadlock | .panic _ => true
  | .refused _ | .needsKernel => false

end PriorityKernel
