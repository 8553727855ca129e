import PriorityKernel.Machine.Tasks

namespace PriorityKernel.KernelM

def addTimer (timer : Timer) : KernelM Unit := holding .timers do
  modifyKernel fun kernel => { kernel with timers := kernel.timers.add timer }

def clock : KernelM Nat := holding .timers do return (← kernel).timers.clock

/-- Tells the event loop that a timer came due. -/
def sendTimeout (timer : Timer) : KernelM Unit := do
  let message : Message := ⟨TaskId.kernel, .timerTimeout timer.timeout timer.value⟩
  match ← attempt (send TaskId.eventLoop message) with
  | .ok () => pure ()
  | .error error => log (.timeoutDropped timer error)

/-- Advances the clock by one tick; answers whether a scheduling timer came due. -/
def tick : KernelM Bool := holding .timers do
  let due := (← kernel).timers.tick
  modifyKernel fun kernel => { kernel with timers := due.queue }
  due.expired.forM sendTimeout
  return due.switchDue

/-- Ticks a number of times; answers with the numbers of those that asked for a switch, counting
from `first`. -/
def ticks (first : Nat) : Nat → KernelM (List Nat)
  | 0 => return []
  | times + 1 => do
    let due ← tick
    let later ← ticks (first + 1) times
    return if due then first :: later else later

/-- The body of the timer interrupt. The interrupt is acknowledged before any switch, since the
next task may not return here for a long time. -/
def timerInterrupt (acknowledge : KernelM Unit) : KernelM Unit := do
  let due ← tick
  acknowledge
  if due then switch false

def acknowledging (script : Script) : KernelM Unit := do
  record .acknowledged
  nest script

def timerInterrupts (script : Script) : Nat → KernelM Unit
  | 0 => pure ()
  | times + 1 => do
    timerInterrupt (acknowledging script)
    timerInterrupts script times

/-- The body of a device interrupt: the event loop is told to poll the device. -/
def deviceInterrupt : KernelM Unit := do
  match ← attempt (send TaskId.eventLoop Message.deviceInterrupt) with
  | .ok () => pure ()
  | .error error => log (.deviceInterruptLost error)

end PriorityKernel.KernelM
