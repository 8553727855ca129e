import PriorityKernel.Machine.Tasks

namespace PriorityKernel.KernelM

/-- Takes a byte out of the keyboard controller, if one is waiting. -/
def takeScanCode : KernelM (Option UInt8) := do
  match (← kernel).scanCodes with
  | [] => return none
  | byte :: rest =>
    modifyKernel fun kernel => { kernel with scanCodes := rest }
    return some byte

def typeKeys (bytes : List UInt8) : KernelM Unit :=
  modifyKernel fun kernel => { kernel with scanCodes := kernel.scanCodes ++ bytes }

def decode (byte : UInt8) : KernelM (Option KeyPush) := holding .keyboard do
  let (push, keyboard) := (← kernel).keyboard.feed byte
  modifyKernel fun kernel => { kernel with keyboard }
  return push

def sendKeyPush (push : KeyPush) : KernelM Unit := do
  match ← attempt (send TaskId.eventLoop ⟨TaskId.kernel, .keyPush push⟩) with
  | .ok () => pure ()
  | .error error => log (.keyPushLost error)

/-- Takes and decodes bytes until none is waiting, at most `bytes` of them. -/
def pollBytes : Nat → KernelM Unit
  | 0 => pure ()
  | bytes + 1 => do
    match ← takeScanCode with
    | none => pure ()
    | some byte =>
      match ← decode byte with
      | none => pure ()
      | some push => sendKeyPush push
      pollBytes bytes

/-- Empties the keyboard controller into key pushes, a burst at a time. -/
def poll : KernelM Unit := pollBytes Config.scanBurst

/-- Drops waiting bytes, at most `bytes` of them; answers how many were dropped. -/
def dropStale : Nat → KernelM Nat
  | 0 => return 0
  | bytes + 1 => do
    match ← takeScanCode with
    | none => return 0
    | some _ => return (← dropStale bytes) + 1

/-- Starts the keyboard afresh: nothing is held, stale bytes are dropped, its interrupt line is let
through. -/
def keyboardInit : KernelM Unit := do
  holding .keyboard (modifyKernel fun kernel => { kernel with keyboard := Keyboard.fresh })
  let dropped ← dropStale Config.scanBurst
  let (_, _, lineMasks) :=
    (InterruptController.unmask Config.keyboardLine).runOn (← kernel).lineMasks
  modifyKernel fun kernel => { kernel with lineMasks }
  log (.keyboardReady dropped)

end PriorityKernel.KernelM
