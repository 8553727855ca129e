import PriorityKernel.Record

namespace PriorityKernel

structure Modifiers where
  bits : UInt8
  deriving DecidableEq, Repr

namespace Modifiers

def none : Modifiers := ⟨0x00⟩
def leftControl : Modifiers := ⟨0x01⟩
def leftShift : Modifiers := ⟨0x02⟩
def leftAlt : Modifiers := ⟨0x04⟩
def leftGui : Modifiers := ⟨0x08⟩
def rightControl : Modifiers := ⟨0x10⟩
def rightShift : Modifiers := ⟨0x20⟩
def rightAlt : Modifiers := ⟨0x40⟩
def rightGui : Modifiers := ⟨0x80⟩

/-- Whether some key of `keys` is in `held`. -/
def intersects (held keys : Modifiers) : Bool := held.bits &&& keys.bits != 0

/-- The set after the keys of `keys` went down, or came up. -/
def set (held keys : Modifiers) (down : Bool) : Modifiers :=
  if down then ⟨held.bits ||| keys.bits⟩ else ⟨held.bits &&& ~~~keys.bits⟩

def shift (held : Modifiers) : Bool := held.intersects leftShift || held.intersects rightShift

def control (held : Modifiers) : Bool := held.intersects leftControl || held.intersects rightControl

/-- The single keys with their written names, lowest bit first. -/
def named : List (Modifiers × String) :=
  [(leftControl, "L_CONTROL"), (leftShift, "L_SHIFT"), (leftAlt, "L_ALT"), (leftGui, "L_GUI"),
   (rightControl, "R_CONTROL"), (rightShift, "R_SHIFT"), (rightAlt, "R_ALT"), (rightGui, "R_GUI")]

/-- The held keys by name; the empty set is written as a number. -/
def written (held : Modifiers) : String :=
  let names := (named.filter fun entry => held.intersects entry.1).map (·.2)
  Record.wrap "Modifiers" (if names.isEmpty then "0x0" else " | ".intercalate names)

end Modifiers

end PriorityKernel
