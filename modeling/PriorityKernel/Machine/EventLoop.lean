import PriorityKernel.Machine.KernelHandler

namespace PriorityKernel.KernelM

/-- Runs the script set aside for a handler, if there is one. -/
def runReaction (kind : HandlerKind) : KernelM Unit := do
  match (← get).agenda.popReaction? kind with
  | none => pure ()
  | some (script, agenda) =>
    modify fun machine => { machine with agenda }
    nest script

def callHandler (handler : Handler) (kind : HandlerKind) (message : Message) : KernelM Unit :=
  match handler with
  | .silent => pure ()
  | .recording => do
    record (.handled message)
    runReaction kind
  | .kernel => do
    record (.handled message)
    onMessage message
    runReaction kind

def dispatch (handler : Handler) (message : Message) : KernelM Unit := do
  match message.kind.handlerKind? with
  | none => log (.strayFinish message.source)
  | some kind =>
    callHandler handler kind message
    if kind = .layer then
      send message.source Message.layerFinish
      record (.answered (.done message.source))

/-- What one turn of the event loop did. -/
structure Turn where
  /-- Whether a message was dispatched; otherwise the loop went to sleep. -/
  result : Except TaskError Bool
  handled : Nat

/-- Handles one message, or sleeps if there is none. -/
def loopTurn (handler : Handler) : KernelM Turn := do
  match ← attempt (waitTurn TaskId.eventLoop) with
  | .error error => return ⟨.error error, 0⟩
  | .ok none => return ⟨.ok false, 0⟩
  | .ok (some message) =>
    record (.answered (.begun message))
    let handled := if message.kind.handlerKind?.isSome then 1 else 0
    match ← attempt (dispatch handler message) with
    | .error error => return ⟨.error error, handled⟩
    | .ok () => return ⟨.ok true, handled⟩

def loopTurns (handler : Handler) : Nat → KernelM (List Turn)
  | 0 => return []
  | times + 1 => do
    let turn ← loopTurn handler
    return turn :: (← loopTurns handler times)

/-- One turn of a loop that never ends: errors are logged. The loop is stuck once it went to sleep
without anything else running, for every later turn would do the same. -/
def endlessTurn (handler : Handler) : KernelM Unit := do
  let before := (← get).activity
  let turn ← loopTurn handler
  match turn.result with
  | .error error => log (.loopFailed error)
  | .ok true => pure ()
  | .ok false => if (← get).activity = before then throw .stuck

def endlessTurns (handler : Handler) : Nat → KernelM Unit
  | 0 => pure ()
  | times + 1 => do
    endlessTurn handler
    endlessTurns handler times

/-- How many turns it takes at most to handle everything that waits for the event loop, unless
scripts bring more: messages, a request of the loop to itself counted twice, and scan codes. -/
def backlog (kernel : Kernel) : Nat :=
  let messages := ((kernel.sched.tasks.get? TaskId.eventLoop).map (·.messages)).getD []
  let answers := messages.countP fun message =>
    message.kind.handlerKind? == some .layer && message.source == TaskId.eventLoop
  messages.length + answers + kernel.scanCodes.length

/-- Turns in rounds that are long enough to handle the backlog; a round can only be followed by
another one if it started a script. -/
def endlessRounds (handler : Handler) : Nat → KernelM Unit
  | 0 => throw .stuck
  | rounds + 1 => do
    endlessTurns handler (backlog (← kernel) + 2)
    endlessRounds handler rounds

def runLoop (handler : Handler) : KernelM Unit := do
  log .loopStarted
  endlessRounds handler ((← read).credit + 1)

end PriorityKernel.KernelM
