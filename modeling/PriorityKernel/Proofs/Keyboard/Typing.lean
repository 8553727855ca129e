import PriorityKernel.Proofs.Keyboard.Strokes

namespace PriorityKernel

namespace Stroke

/-- Whether a stroke presses this key. -/
def Presses (stroke : Stroke) (cap : KeyCap) : Prop := stroke.cap? = some cap ∧ stroke.down = true

instance (stroke : Stroke) (cap : KeyCap) : Decidable (stroke.Presses cap) :=
  inferInstanceAs (Decidable (_ ∧ _))

/-- Whether a stroke presses some key that is known. -/
def pushes (stroke : Stroke) : Bool := stroke.cap?.isSome && stroke.down

/-- Whether a key is held: the last stroke of it pressed it. Histories have the oldest stroke first. -/
def held (cap : KeyCap) (history : List Stroke) : Bool :=
  ((history.filter fun stroke => stroke.cap? = some cap).getLast?.map (·.down)).getD false

/-- How often a key was pressed. -/
def presses (cap : KeyCap) (history : List Stroke) : Nat := history.countP fun stroke => stroke.Presses cap

def shiftHeld (history : List Stroke) : Bool :=
  held (.modifier .leftShift) history || held (.modifier .rightShift) history

/-- Caps lock is on after an odd number of presses. -/
def capsOn (history : List Stroke) : Bool := presses .capsLock history % 2 = 1

/-- How often num lock was pressed in the later part of a history while the pause key's control was not
held. -/
def numLockPresses : (earlier later : List Stroke) → Nat
  | _, [] => 0
  | earlier, stroke :: rest =>
    (if stroke.Presses .numLock ∧ held .pauseControl earlier = false then 1 else 0) +
      numLockPresses (earlier ++ [stroke]) rest

/-- Num lock is on at first, and changes whenever it is pressed while the pause key's control is not
held. -/
def numbersOn (history : List Stroke) : Bool := numLockPresses [] history % 2 = 0

variable {stroke : Stroke} {history : List Stroke} {cap : KeyCap}

theorem held_append (cap : KeyCap) (history : List Stroke) (stroke : Stroke) : held cap (history ++ [stroke]) =
    if stroke.cap? = some cap then stroke.down else held cap history := by
  unfold held
  rw [List.filter_append]
  by_cases same : stroke.cap? = some cap
  · simp [same]
  · simp [same]

theorem presses_append (cap : KeyCap) (history : List Stroke) (stroke : Stroke) :
    presses cap (history ++ [stroke]) = presses cap history + if stroke.Presses cap then 1 else 0 := by
  simp [presses, List.countP_append, List.countP_singleton]

theorem capsOn_append (history : List Stroke) (stroke : Stroke) : capsOn (history ++ [stroke]) =
    if stroke.Presses .capsLock then !capsOn history else capsOn history := by
  unfold capsOn
  rw [presses_append]
  split
  · rcases Nat.mod_two_eq_zero_or_one (presses .capsLock history) with even | odd
    · rw [Nat.add_mod, even]
      rfl
    · rw [Nat.add_mod, odd]
      rfl
  · rfl

theorem numLockPresses_append (earlier history : List Stroke) (stroke : Stroke) :
    numLockPresses earlier (history ++ [stroke]) = numLockPresses earlier history +
      if stroke.Presses .numLock ∧ held .pauseControl (earlier ++ history) = false then 1 else 0 := by
  induction history generalizing earlier with
  | nil => simp [numLockPresses]
  | cons first rest ih =>
    rw [List.cons_append, numLockPresses, ih, numLockPresses, List.append_assoc, List.singleton_append, Nat.add_assoc]

theorem numbersOn_append (history : List Stroke) (stroke : Stroke) : numbersOn (history ++ [stroke]) =
    if stroke.Presses .numLock ∧ held .pauseControl history = false then !numbersOn history
    else numbersOn history := by
  unfold numbersOn
  rw [numLockPresses_append, List.nil_append]
  split
  · rcases Nat.mod_two_eq_zero_or_one (numLockPresses [] history) with even | odd
    · rw [Nat.add_mod, even]
      rfl
    · rw [Nat.add_mod, odd]
      rfl
  · rfl

end Stroke

/-- The character code that a key types, with shift held or not, caps lock on or not, and num lock on or
not; 0 for keys without a character. -/
inductive KeyCap.Types (shift caps numbers : Bool) : KeyCap → UInt8 → Prop
  | small {char} (same : shift = caps) : Types shift caps numbers (.letter char) (UInt8.ofNat char.toNat)
  | capital {char} (differ : shift ≠ caps) :
      Types shift caps numbers (.letter char) (UInt8.ofNat char.toUpper.toNat)
  | plain {plain shifted} (up : shift = false) :
      Types shift caps numbers (.pair plain shifted) (UInt8.ofNat plain.toNat)
  | shifted {plain shifted} (down : shift = true) :
      Types shift caps numbers (.pair plain shifted) (UInt8.ofNat shifted.toNat)
  | fixed {char} : Types shift caps numbers (.fixed char) (UInt8.ofNat char.toNat)
  | number {char otherwise} (on : numbers = true) :
      Types shift caps numbers (.numeric char otherwise) (UInt8.ofNat char.toNat)
  | otherwise {char otherwise} (off : numbers = false) : Types shift caps numbers (.numeric char otherwise) otherwise
  | modifier {key} : Types shift caps numbers (.modifier key) 0
  | capsLock : Types shift caps numbers .capsLock 0
  | numLock : Types shift caps numbers .numLock 0
  | pauseControl : Types shift caps numbers .pauseControl 0
  | silent : Types shift caps numbers .silent 0

theorem CharState.types_ascii (state : CharState) (cap : KeyCap) :
    cap.Types state.shift state.capsLock state.numLock (state.ascii cap) := by
  cases cap with
  | letter char =>
    simp only [CharState.ascii]
    by_cases same : state.shift = state.capsLock
    · simp only [same, bne_self_eq_false, Bool.false_eq_true, if_false]
      exact .small rfl
    · simp only [bne_iff_ne.mpr same, if_true]
      exact .capital same
  | pair plain shifted =>
    simp only [CharState.ascii]
    split
    · next down => exact .shifted down
    · next up => exact .plain (eq_false_of_ne_true up)
  | numeric char otherwise =>
    simp only [CharState.ascii]
    split
    · next on => exact .number on
    · next off => exact .otherwise (eq_false_of_ne_true off)
  | fixed => exact .fixed
  | modifier => exact .modifier
  | capsLock => exact .capsLock
  | numLock => exact .numLock
  | pauseControl => exact .pauseControl
  | silent => exact .silent

/-- A letter is written as a capital exactly if shift and caps lock differ. -/
theorem KeyCap.Types.capital_iff {shift caps numbers : Bool} {char : Char} {ascii : UInt8}
    (types : (letter char).Types shift caps numbers ascii) (regular : (letter char).Regular) :
    Capital ascii ↔ shift ≠ caps := by
  obtain ⟨small, raised⟩ := regular
  cases types with
  | small same => exact iff_of_false small (not_not.mpr same)
  | capital differ => exact iff_of_true raised differ

end PriorityKernel
