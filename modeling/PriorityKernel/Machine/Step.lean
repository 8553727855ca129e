import PriorityKernel.Task
import PriorityKernel.Timer

namespace PriorityKernel

/-- The events of the event loop that have a handler. -/
inductive HandlerKind where
  | device
  | timer
  | key
  | layer
  deriving DecidableEq, Repr

/-- The handler of a message, if its kind has one. -/
def MessageKind.handlerKind? : MessageKind → Option HandlerKind
  | .deviceInterrupt => some .device
  | .timerTimeout .. => some .timer
  | .keyPush _ => some .key
  | .layer _ => some .layer
  | .layerFinish => none

/-- Who handles the messages that the event loop takes. -/
inductive Handler where
  /-- Records each call and then runs a script set aside for it. -/
  | recording
  /-- Records each call, does what the kernel does for it, and then runs a script set aside. -/
  | kernel
  /-- Ignores everything. -/
  | silent
  deriving DecidableEq, Repr

inductive Call where
  | prepare (memoryShort : Bool) (entry : UInt64) (argument : Int64)
  | setLevel (level : Nat)
  | wakeup (level : Option Nat)
  | sleep
  | send (message : Message)
  | receive
  | snapshot
  deriving DecidableEq, Repr

inductive Step where
  | create (calls : List Call)
  | handle (id : TaskId) (calls : List Call)
  | current
  | setLevel (id : TaskId) (level : Nat)
  | wakeup (id : TaskId) (level : Option Nat)
  | sleep (id : TaskId)
  | switch (sleeping : Bool)
  | send (id : TaskId) (message : Message)
  | receive (id : TaskId)
  | wait (id : TaskId)
  | queue (level : Nat)
  | snapshot (id : TaskId)
  | overview
  | disableInterrupts
  | enableInterrupts
  /-- Sets a script aside for a context switch. -/
  | hook (script : List Step)
  /-- Raises an interrupt whose body is the script. -/
  | raise (script : List Step)
  /-- Sets a script aside for a handler call. -/
  | react (kind : HandlerKind) (script : List Step)
  | addTimer (timer : Timer)
  | tick (times : Nat)
  /-- Timer interrupts; the script runs when an interrupt is acknowledged. -/
  | timerInterrupt (times : Nat) (acknowledging : List Step)
  | deviceInterrupt
  | loop (times : Nat) (handler : Handler)
  | dispatch (message : Message) (handler : Handler)
  | forever (handler : Handler)
  | keys (bytes : List UInt8)
  | poll
  | keyboardInit
  | demo (memoryShort : Bool)

abbrev Script := List Step

mutual

/-- How many scripts and steps a step can set running, itself included. -/
def Step.weight : Step → Nat
  | .hook script | .raise script | .react _ script => 1 + scriptWeight script
  | .timerInterrupt times script => 1 + times * scriptWeight script
  | _ => 1

/-- How many scripts and steps a script can set running, itself included. -/
def scriptWeight : List Step → Nat
  | [] => 1
  | step :: rest => step.weight + scriptWeight rest

end

inductive CallReply where
  | done
  | message (message : Option Message)
  | snapshot (snapshot : Snapshot)
  deriving DecidableEq, Repr

structure Overview where
  ids : List TaskId
  count : Nat
  idle : TaskId
  current : Option TaskId
  deriving DecidableEq, Repr

inductive Reply where
  | done
  | task (id : TaskId)
  | chain (id : TaskId) (results : List (Except TaskError CallReply))
  | message (message : Option Message)
  | queue (ids : List TaskId)
  | snapshot (snapshot : Snapshot)
  | overview (overview : Overview)
  /-- Which of a number of ticks asked for a switch, counted from 1. -/
  | ticks (numbers : List Nat)
  /-- The results of turns of the event loop, and how often a handler was called. -/
  | turns (results : List (Except TaskError Bool)) (handled : Nat)
  /-- Whether a single turn dispatched a message. -/
  | turn (dispatched : Bool)
  | bytesLeft (count : Nat)
  /-- Bytes left in the keyboard controller, and the masks of the interrupt controllers. -/
  | keyboard (count : Nat) (first second : UInt8)

end PriorityKernel
