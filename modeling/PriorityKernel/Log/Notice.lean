import PriorityKernel.Log.Hex
import PriorityKernel.Log.Level
import PriorityKernel.Task
import PriorityKernel.Timer

namespace PriorityKernel

inductive Notice where
  | schedulerStarted (main idle : TaskId)
  | taskCreated (id : TaskId)
  | contextPrepared (id : TaskId)
  | idleSleepRefused
  | idleLevelKept
  | levelSwitched (old new : Level)
  | executingMoved (id : TaskId) (level : Level)
  | wokenUnprepared (id : TaskId)
  | schedulingArmed (timeout : Nat)
  | timeoutDropped (timer : Timer) (error : TaskError)
  | deviceInterruptLost (error : TaskError)
  | loopStarted
  | loopFailed (error : TaskError)
  | strayFinish (source : TaskId)
  | keyboardReady (dropped : Nat)
  | keyPushLost (error : TaskError)
  | demoStarted (drawing counter : TaskId)
  | timerFired (timeout : Nat) (value : Int)
  | cursorToggled (visible : Bool)
  | keyPushed (key : KeyPush)
  | tableHead (clock count : Nat) (current : TaskId) (level : Level)
  | tableRow (task : Snapshot)
  | tableQueue (level : Level) (ids : List TaskId)
  | tableFoot (layerRequests : Nat)
  | layerRequested (source : TaskId) (request : LayerRequest) (count : Nat)
  deriving DecidableEq, Repr

namespace Notice

def level : Notice → LogLevel
  | loopFailed _ => .error
  | idleSleepRefused | idleLevelKept | wokenUnprepared _ | timeoutDropped .. | deviceInterruptLost _
  | keyPushLost _ => .warn
  | loopStarted | keyboardReady _ | demoStarted .. | keyPushed _ | tableHead .. | tableRow _
  | tableQueue .. | tableFoot _ => .info
  | schedulerStarted .. | taskCreated _ | executingMoved .. | schedulingArmed _ | strayFinish _
  | timerFired .. | layerRequested .. => .debug
  | contextPrepared _ | levelSwitched .. | cursorToggled _ => .trace

/-- The part of the kernel that writes the line. -/
def target : Notice → String
  | schedulerStarted .. | taskCreated _ | idleSleepRefused | idleLevelKept | levelSwitched ..
  | executingMoved .. | wokenUnprepared _ => "ksched::manager"
  | contextPrepared _ => "ksched::task"
  | schedulingArmed _ | deviceInterruptLost _ => "ksched::kernel"
  | timeoutDropped .. => "ksched::timer"
  | loopStarted | loopFailed _ | strayFinish _ => "ksched::event_loop"
  | keyboardReady _ | keyPushLost _ => "mikan_kernel::drivers::keyboard"
  | demoStarted .. => "mikan_kernel::task::demo"
  | timerFired .. | cursorToggled _ | keyPushed _ | tableHead .. | tableRow _ | tableQueue ..
  | tableFoot _ | layerRequested .. => "mikan_kernel::task::events"

/-- The key's own character, or a dot if it has no visible one. -/
def visibleChar (ascii : UInt8) : String :=
  let code := ascii.toNat
  if 0x21 ≤ code ∧ code ≤ 0x7E then String.singleton (Char.ofNat code) else "."

/-- What is logged of a key push: code, held control and shift, character, modifiers. -/
def keyText (key : KeyPush) : String :=
  let control := if key.modifiers.control then "C-" else ""
  let shift := if key.modifiers.shift then "S-" else ""
  s!"key: code {Hex.byte key.code} {control}{shift}'{visibleChar key.ascii}' modifiers " ++
    key.modifiers.written

def text : Notice → String
  | schedulerStarted main idle =>
    s!"sched: main task {main} at level {Config.maxLevel}, idle task {idle}"
  | taskCreated id => s!"sched: created task {id}"
  | contextPrepared id => s!"task {id}: context"
  | idleSleepRefused => "sched: refusing to put the idle task to sleep"
  | idleLevelKept => s!"sched: the idle task stays at level {Config.idleLevel}"
  | levelSwitched old new => s!"sched: level {old.val} -> {new.val}"
  | executingMoved id level => s!"sched: task {id} now runs at level {level.val}"
  | wokenUnprepared id => s!"sched: task {id} woken before init_context"
  | schedulingArmed timeout => s!"kernel: scheduler timer armed at tick {timeout}"
  | timeoutDropped timer error =>
    s!"timer: dropped timeout {timer.timeout} (value {timer.value}): " ++ error.message
  | deviceInterruptLost error => "kernel: device interrupt lost: " ++ error.message
  | loopStarted => s!"event loop: running as task {TaskId.eventLoop}"
  | loopFailed error => "event loop: " ++ error.message
  | strayFinish source => s!"event loop: stray layer-finish from task {source}"
  | keyboardReady dropped =>
    s!"keyboard: PS/2 on IRQ {Config.keyboardLine} (dropped {dropped} stale bytes)"
  | keyPushLost error => "keyboard: key push lost: " ++ error.message
  | demoStarted drawing counter => s!"demo: drawing task {drawing}, counter task {counter}"
  | timerFired timeout value => s!"events: timer {value} fired at tick {timeout}"
  | cursorToggled visible => "events: cursor " ++ (if visible then "on" else "off")
  | keyPushed key => keyText key
  | tableHead clock count current level =>
    s!"tick {clock}: {count} tasks, current {current} at level {level.val}, " ++
      s!"heap {Config.heapUsed} / {Config.heapBytes} bytes"
  | tableRow task =>
    let activity := if task.running then "running " else "sleeping"
    s!"  task {task.id}  level {task.level.val}  {activity}  {task.pendingMessages} pending"
  | tableQueue level ids =>
    s!"  ready[{level.val}] = " ++ Record.list (ids.map TaskId.written)
  | tableFoot layerRequests => s!"  counter 0, layer requests {layerRequests}"
  | layerRequested source request count =>
    s!"events: {request.operation.written} layer {request.layer} {request.area.written} " ++
      s!"from task {source} ({count} requests so far)"

end Notice

end PriorityKernel
