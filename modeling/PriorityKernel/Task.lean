import PriorityKernel.Context
import PriorityKernel.Fault
import PriorityKernel.Level
import PriorityKernel.Memory
import PriorityKernel.Message

namespace PriorityKernel

/-- The stack of a task. The block stays with the task once it has been reserved. -/
structure Stack where
  block : Option Block := none
  words : Nat := 0
  deriving DecidableEq, Repr

namespace Stack

def bytes (stack : Stack) : Nat := stack.words * Config.wordBytes

end Stack

structure Task where
  id : TaskId
  level : Level := Level.clamp Config.defaultLevel
  /-- Whether the task is in a ready queue. -/
  running : Bool := false
  stack : Stack := {}
  context : TaskContext := TaskContext.zeroed
  /-- Messages not yet taken, oldest first. -/
  messages : List Message := []
  deriving DecidableEq

/-- The scheduling state of a task at one moment. -/
structure Snapshot where
  id : TaskId
  level : Level
  running : Bool
  pendingMessages : Nat
  stackBytes : Nat
  deriving DecidableEq, Repr

namespace Task

/-- Lays the task out to start at `entry` with the given argument, on a stack of its own. A task
without a block is refused if it is offered none; its record then stays as it was. -/
def prepare (task : Task) (offered : Option Block) (entry : UInt64) (argument : Int64) :
    Except TaskError Unit × Task :=
  let emptied := { task with stack := { task.stack with words := 0 } }
  match task.stack.block.or offered with
  | none => (.error (.outOfMemory task.id Config.stackBytes), emptied)
  | some block =>
    (.ok (), { emptied with
      stack := ⟨some block, Config.stackBytes / Config.wordBytes⟩
      context := TaskContext.start Processor.boot task.id entry argument block.stop })

def snapshot (task : Task) : Snapshot :=
  ⟨task.id, task.level, task.running, task.messages.length, task.stack.bytes⟩

end Task

def Snapshot.written (snapshot : Snapshot) : String :=
  Record.fields "TaskSnapshot" [("id", TaskId.written snapshot.id),
    ("level", toString snapshot.level.val), ("running", toString snapshot.running),
    ("pending_messages", toString snapshot.pendingMessages),
    ("stack_bytes", toString snapshot.stackBytes)]

end PriorityKernel
