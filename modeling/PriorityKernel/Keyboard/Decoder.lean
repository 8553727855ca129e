import PriorityKernel.Keyboard.Layout
import PriorityKernel.Message

namespace PriorityKernel

/-- A known key that went down or came up. -/
structure KeyEvent where
  cap : KeyCap
  down : Bool
  deriving DecidableEq, Repr

/-- The state of the keys that decide which character a key stands for. -/
structure CharState where
  leftShift : Bool := false
  rightShift : Bool := false
  capsLock : Bool := false
  numLock : Bool := true
  pauseControl : Bool := false
  deriving DecidableEq, Repr

namespace CharState

def shift (state : CharState) : Bool := state.leftShift || state.rightShift

/-- The state after a key event. Shift keys count while they are held, lock keys change when they go
down, and num lock stays as it is behind the pause key's control. -/
def after (state : CharState) (event : KeyEvent) : CharState :=
  match event.cap with
  | .modifier key =>
    if key = .leftShift then { state with leftShift := event.down }
    else if key = .rightShift then { state with rightShift := event.down }
    else state
  | .capsLock => if event.down then { state with capsLock := !state.capsLock } else state
  | .numLock =>
    if event.down && !state.pauseControl then { state with numLock := !state.numLock } else state
  | .pauseControl => { state with pauseControl := event.down }
  | _ => state

/-- The character of a key in this state, 0 for none. -/
def ascii (state : CharState) : KeyCap → UInt8
  | .letter small =>
    UInt8.ofNat (if state.shift != state.capsLock then small.toUpper else small).toNat
  | .pair plain shifted => UInt8.ofNat (if state.shift then shifted else plain).toNat
  | .fixed char => UInt8.ofNat char.toNat
  | .numeric char otherwise => if state.numLock then UInt8.ofNat char.toNat else otherwise
  | .modifier _ | .capsLock | .numLock | .pauseControl | .silent => 0

end CharState

/-- The decoder's place inside a scan code. -/
structure Keyboard where
  page : ScanPage := .plain
  chars : CharState := {}
  modifiers : Modifiers := .none
  deriving DecidableEq, Repr

namespace Keyboard

/-- A keyboard on which nothing has been pressed. Num lock is on. -/
def fresh : Keyboard := {}

/-- The page a byte announces; only on the plain page does a byte announce another one. -/
def announced? (page : ScanPage) (byte : UInt8) : Option ScanPage :=
  if page = .plain ∧ byte = 0xE0 then some .extended
  else if page = .plain ∧ byte = 0xE1 then some .extendedTwice
  else none

/-- The key event that a byte completes on a page, if the key is known. The high bit marks a key
that came up. -/
def keyEvent? (page : ScanPage) (byte : UInt8) : Option KeyEvent :=
  (KeyCap.find? page (byte &&& 0x7F)).map fun cap => ⟨cap, byte < 0x80⟩

def heldAfter (held : Modifiers) (event : KeyEvent) : Modifiers :=
  match event.cap with
  | .modifier key => held.set key event.down
  | _ => held

/-- Takes one byte; answers with a key push when the byte completes the press of a known key. -/
def feed (keyboard : Keyboard) (byte : UInt8) : Option KeyPush × Keyboard :=
  match announced? keyboard.page byte with
  | some page => (none, { keyboard with page })
  | none =>
    match keyEvent? keyboard.page byte with
    | none => (none, { keyboard with page := .plain })
    | some event =>
      let chars := keyboard.chars.after event
      let modifiers := heldAfter keyboard.modifiers event
      let push : KeyPush := ⟨modifiers, byte, chars.ascii event.cap⟩
      (if event.down then some push else none, ⟨.plain, chars, modifiers⟩)

/-- Takes bytes one after another; answers with the key pushes in order. -/
def feedAll (keyboard : Keyboard) : List UInt8 → List KeyPush × Keyboard
  | [] => ([], keyboard)
  | byte :: rest =>
    let (push, next) := keyboard.feed byte
    let (pushes, last) := next.feedAll rest
    (push.toList ++ pushes, last)

end Keyboard

end PriorityKernel
