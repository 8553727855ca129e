import PriorityKernel.Machine.EventLoop

namespace PriorityKernel

namespace KernelM

def needKernel : KernelM Unit := do
  if (← get).core = .bare then throw .needsKernel

def carryOut : Step → KernelM Reply
  | .create list => do
    let id ← create
    return .chain id (← calls id list)
  | .handle id list => do
    find id
    return .chain id (← calls id list)
  | .current => return .task (← currentTask)
  | .setLevel id level => do
    setLevel id level
    return .done
  | .wakeup id level => do
    wakeup id level
    return .done
  | .sleep id => do
    sleep id
    return .done
  | .switch sleeping => do
    switch sleeping
    return .done
  | .send id message => do
    send id message
    return .done
  | .receive id => return .message (← receive id)
  | .wait id => return .message (some (← wait id))
  | .queue level => return .queue (← readyAt level)
  | .snapshot id => return .snapshot (← snapshot id)
  | .overview => return .overview (← overview)
  | .disableInterrupts => do
    disable
    return .done
  | .enableInterrupts => do
    enable
    return .done
  | .hook script => do
    modify fun machine => { machine with agenda.hooks := machine.agenda.hooks ++ [script] }
    return .done
  | .raise script => do
    modify fun machine => { machine with agenda.pending := machine.agenda.pending ++ [script] }
    return .done
  | .react kind script => do
    modify fun machine =>
      { machine with agenda.reactions := machine.agenda.reactions ++ [(kind, script)] }
    return .done
  | .addTimer timer => do
    addTimer timer
    return .done
  | .tick times => return .ticks (← ticks 1 times)
  | .timerInterrupt times script => do
    needKernel
    timerInterrupts script times
    return .done
  | .deviceInterrupt => do
    needKernel
    deviceInterrupt
    return .done
  | .loop times handler => do
    needKernel
    if handler = .silent then
      match (← loopTurn handler).result with
      | .ok dispatched => return .turn dispatched
      | .error error => refuse error
    else
      let turns ← loopTurns handler times
      return .turns (turns.map (·.result)) (turns.foldl (fun handled turn => handled + turn.handled) 0)
  | .dispatch message handler => do
    needKernel
    dispatch handler message
    return .done
  | .forever handler => do
    needKernel
    runLoop handler
    return .done
  | .keys bytes => do
    typeKeys bytes
    return .done
  | .poll => do
    poll
    return .bytesLeft (← kernel).scanCodes.length
  | .keyboardInit => do
    keyboardInit
    let after ← kernel
    return .keyboard after.scanCodes.length after.lineMasks.first after.lineMasks.second
  | .demo short => do
    needKernel
    withMemory short startDemo
    return .done

end KernelM

namespace Machine

def step (scope : Scope) (depth : Nat) (machine : Machine) (next : Step) : Machine :=
  let (reply, after) := KernelM.carryOut next scope machine
  after.record (.finished depth next reply)

/-- Runs a script. The credit bounds how deeply scripts can run inside of each other. -/
def exec : Nat → Nat → Script → Machine → Machine
  | 0, _, _, machine => machine
  | credit + 1, depth, script, machine =>
    script.foldl (step ⟨credit, exec credit (depth + 1)⟩ depth) machine

/-- Logs lines while no script runs. -/
def announce (machine : Machine) (notices : List Notice) : Machine :=
  (notices.forM KernelM.log ⟨0, fun _ machine => machine⟩ machine).2

end Machine

/-- A machine to start and a script to run on it. -/
structure Program where
  core : Core
  filter : LogFilter
  /-- Whether there is no memory for the stack of the idle task. -/
  memoryShort : Bool
  script : Script
  /-- Where the stacks of tasks are reserved. -/
  memory : Memory := Memory.region

structure Outline where
  started : Machine
  ended : Machine

namespace Program

/-- Starts the machine. With a kernel the recurring scheduling timer is armed. -/
def boot (program : Program) : Except Fault Machine := do
  let outcome := Scheduler.start program.memory program.memoryShort
  outcome.reply
  let machine : Machine :=
    { core := program.core
      filter := program.filter
      kernel := { sched := outcome.next } }
  match program.core with
  | .bare => return machine.announce outcome.notices
  | .kernel =>
    let first : Timer := ⟨Config.schedulerPeriod, Config.schedulerTag⟩
    let armed := { machine with kernel.timers := machine.kernel.timers.add first }
    return armed.announce (outcome.notices ++ [.schedulingArmed first.timeout])

/-- More than the scripts that the program can start. -/
def credit (program : Program) : Nat := scriptWeight program.script + 1

def run (program : Program) : Except Fault Outline := do
  let started ← program.boot
  return ⟨started, started.exec program.credit 0 program.script⟩

end Program

end PriorityKernel
