namespace PriorityKernel

structure Guard where
  /-- Whether dropping the guard enables interrupts. -/
  restoresEnabled : Bool
  /-- The cell that the guard holds, if it is a lock. -/
  cell : Option Nat := none
  deriving DecidableEq, Repr

/-- The interrupt flag, the cells behind locks, and the guards made so far. -/
structure GuardBoard where
  interrupts : Bool := true
  cells : List Int := [0, 100, 200]
  /-- Guards by slot; a dropped one leaves its slot empty. -/
  slots : List (Option Guard) := []
  deriving DecidableEq, Repr

inductive GuardStep where
  | guard
  | lock (cell : Nat)
  | tryLock (cell : Nat)
  | drop (slot : Nat)
  | restores (slot : Nat)
  | get (slot : Nat)
  | add (slot : Nat) (amount : Int)
  | disable
  | enable
  deriving DecidableEq, Repr

inductive GuardReply where
  | nothing
  | slot (number : Nat)
  | flag (value : Bool)
  | value (content : Int)
  /-- The lock is held already and the caller would wait for itself. -/
  | deadlock
  deriving DecidableEq, Repr

namespace GuardBoard

def guardAt (board : GuardBoard) (slot : Nat) : Option Guard := board.slots.getD slot none

def isHeld (board : GuardBoard) (cell : Nat) : Bool :=
  board.slots.any fun slot => slot.any fun guard => guard.cell == some cell

/-- Makes a guard, which masks interrupts. -/
def mask (board : GuardBoard) (cell : Option Nat) : GuardReply × GuardBoard :=
  (.slot board.slots.length,
    { board with
      interrupts := false
      slots := board.slots ++ [some ⟨board.interrupts, cell⟩] })

/-- The cell held by the lock in a slot, with its content. -/
def content? (board : GuardBoard) (slot : Nat) : Option (Nat × Int) := do
  let guard ← board.guardAt slot
  let cell ← guard.cell
  let content ← board.cells[cell]?
  return (cell, content)

def drop (board : GuardBoard) (slot : Nat) : GuardBoard :=
  match board.guardAt slot with
  | none => board
  | some guard =>
    { board with
      slots := board.slots.set slot none
      interrupts := board.interrupts || guard.restoresEnabled }

def step (board : GuardBoard) : GuardStep → GuardReply × GuardBoard
  | .guard => board.mask none
  | .lock cell => if board.isHeld cell then (.deadlock, board) else board.mask (some cell)
  | .tryLock cell => if board.isHeld cell then (.nothing, board) else board.mask (some cell)
  | .drop slot => (.nothing, board.drop slot)
  | .restores slot =>
    match board.guardAt slot with
    | some ⟨restoresEnabled, none⟩ => (.flag restoresEnabled, board)
    | _ => (.nothing, board)
  | .get slot =>
    match board.content? slot with
    | some (_, content) => (.value content, board)
    | none => (.nothing, board)
  | .add slot amount =>
    match board.content? slot with
    | some (cell, content) =>
      (.value (content + amount), { board with cells := board.cells.set cell (content + amount) })
    | none => (.nothing, board)
  | .disable => (.nothing, { board with interrupts := false })
  | .enable => (.nothing, { board with interrupts := true })

/-- Each step's reply with the interrupt flag after it. -/
def run (board : GuardBoard) : List GuardStep → List (GuardReply × Bool)
  | [] => []
  | step :: rest =>
    let (reply, next) := board.step step
    (reply, next.interrupts) :: next.run rest

end GuardBoard

end PriorityKernel
