import PriorityKernel.Machine.State

namespace PriorityKernel.KernelM

variable {α : Type}

def setInterrupts (enabled : Bool) : KernelM Unit :=
  modifyKernel fun kernel => { kernel with interrupts := enabled }

/-- Lets pending interrupts arrive one after another, at most `rounds` of them. -/
def deliver : Nat → KernelM Unit
  | 0 => pure ()
  | rounds + 1 => do
    match (← get).agenda.pending with
    | [] => pure ()
    | script :: rest =>
      modify fun machine => { machine with agenda.pending := rest }
      setInterrupts false
      record .interrupted
      nest script
      setInterrupts true
      deliver rounds

/-- Enables interrupts; those that are pending arrive at once. -/
def enable : KernelM Unit := do
  setInterrupts true
  deliver (← read).credit

def disable : KernelM Unit := setInterrupts false

/-- Puts the interrupt flag back after a section that found interrupts enabled. -/
def unmask (result : Except Fault α) : KernelM Unit :=
  match result with
  | .ok _ => enable
  | .error fault => if fault.unwinds then setInterrupts true else enable

/-- Masks interrupts for a call. Only the outermost section enables them again, and those that wait then arrive. -/
def masked (call : KernelM α) : KernelM α := do
  let enabled := (← kernel).interrupts
  disable
  let result ← observe call
  if enabled then unmask result
  resume result

/-- Runs a call with a lock held and interrupts masked. -/
def holding (lock : Lock) (call : KernelM α) : KernelM α := masked do
  if lock ∈ (← kernel).locks then throw .deadlock
  modifyKernel fun kernel => { kernel with locks := lock :: kernel.locks }
  let result ← observe call
  modifyKernel fun kernel => { kernel with locks := kernel.locks.erase lock }
  resume result

/-- Writes a log line if the filter admits it. The serial line is locked while it is written. -/
def log (notice : Notice) : KernelM Unit := do
  if (← get).filter.admits notice.level then holding .serial (record (.logged notice))

def critical (body : Kernel → Outcome α) : KernelM α := holding .scheduler do
  let outcome := body (← kernel)
  modifyKernel fun kernel => { kernel with sched := outcome.next }
  outcome.notices.forM log
  outcome.deeds.forM fun deed => record (.did deed)
  resume outcome.reply

def inspect (body : Scheduler → α) : KernelM α :=
  critical fun kernel => Outcome.pure (body kernel.sched) kernel.sched

end PriorityKernel.KernelM
