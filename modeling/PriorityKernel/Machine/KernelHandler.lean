import PriorityKernel.Machine.Clock
import PriorityKernel.Machine.KeyboardDriver

namespace PriorityKernel.KernelM

/-- Runs a call if lines of this severity are written. -/
def whenLogged (level : LogLevel) (call : KernelM Unit) : KernelM Unit := do
  if (← get).filter.admits level then call

def logRow (id : TaskId) : KernelM Unit := do
  match ← attempt (snapshot id) with
  | .ok task => log (.tableRow task)
  | .error _ => pure ()

def logTable : KernelM Unit := do
  whenLogged .info do
    let now ← clock
    let count ← taskCount
    let current ← currentTask
    let level ← currentLevel
    log (.tableHead now count current level)
  (← taskIds).forM logRow
  Level.descending.forM fun level => whenLogged .info do
    log (.tableQueue level (← readyAt level.val))
  log (.tableFoot (← kernel).layerRequests)

/-- Reacts to a timer. The blink timer toggles the cursor and is armed again, one interval after its
own timeout. -/
def onTimer (timeout : Nat) (value : Int) : KernelM Unit := do
  if value = Config.blinkTag then
    modifyKernel fun kernel => { kernel with cursorVisible := !kernel.cursorVisible }
    log (.cursorToggled (← kernel).cursorVisible)
    if Config.lastTick < timeout + Config.blinkInterval then throw (.panic .overflow)
    addTimer ⟨timeout + Config.blinkInterval, Config.blinkTag⟩
  else log (.timerFired timeout value)

def onKey (key : KeyPush) : KernelM Unit := do
  log (.keyPushed key)
  if key.ascii = UInt8.ofNat 't'.toNat then logTable

/-- Reacts to a layer request; every hundredth one is logged, from the first on. -/
def onLayer (source : TaskId) (request : LayerRequest) : KernelM Unit := do
  modifyKernel fun kernel => { kernel with layerRequests := kernel.layerRequests + 1 }
  let count := (← kernel).layerRequests
  if count % 100 = 1 then log (.layerRequested source request count)

def onMessage (message : Message) : KernelM Unit :=
  match message.kind with
  | .deviceInterrupt => poll
  | .timerTimeout timeout value => onTimer timeout value
  | .keyPush key => onKey key
  | .layer request => onLayer message.source request
  | .layerFinish => pure ()

def drawingEntry : UInt64 := 0x10_2000

def counterEntry : UInt64 := 0x10_3000

def spawn (entry : UInt64) (argument : Int64) : KernelM TaskId := do
  let id ← create
  prepare id entry argument
  wakeup id none
  return id

def startDemo : KernelM Unit := do
  let drawing ← spawn drawingEntry (Int64.ofNat Config.demoLayer)
  let counter ← spawn counterEntry 0
  log (.demoStarted drawing counter)

end PriorityKernel.KernelM
