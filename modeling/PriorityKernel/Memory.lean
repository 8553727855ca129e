import PriorityKernel.Config
import PriorityKernel.TaskId

namespace PriorityKernel

/-- A block of memory for one stack. It begins at a whole word and ends inside of the address space; an
allocator of words promises no more. -/
structure Block where
  start : UInt64
  aligned : start.toNat % Config.wordBytes = 0
  room : start.toNat + Config.stackBytes < UInt64.size
  deriving DecidableEq, Repr

namespace Block

/-- The block above an address. -/
def above (start : Nat) (aligned : start % Config.wordBytes = 0) (room : start + Config.stackBytes < UInt64.size) :
    Block :=
  have small : (UInt64.ofNat start).toNat = start :=
    UInt64.toNat_ofNat_of_lt' (Nat.lt_of_le_of_lt (Nat.le_add_right ..) room)
  { start := UInt64.ofNat start
    aligned := small.symm ▸ aligned
    room := small.symm ▸ room }

/-- The first address behind the block. -/
def stop (block : Block) : UInt64 := block.start + UInt64.ofNat Config.stackBytes

/-- Two blocks that have no byte in common. -/
def Apart (one other : Block) : Prop :=
  one.start.toNat + Config.stackBytes ≤ other.start.toNat ∨
    other.start.toNat + Config.stackBytes ≤ one.start.toNat

theorem above_start {start : Nat} (aligned : start % Config.wordBytes = 0)
    (room : start + Config.stackBytes < UInt64.size) : (above start aligned room).start.toNat = start :=
  UInt64.toNat_ofNat_of_lt' (Nat.lt_of_le_of_lt (Nat.le_add_right ..) room)

theorem stop_toNat (block : Block) : block.stop.toNat = block.start.toNat + Config.stackBytes := by
  rw [stop, UInt64.toNat_add]
  exact Nat.mod_eq_of_lt block.room

end Block

/-- Where the allocator has a block for the stack of each task, if it has one. A task keeps its block, and
needs no other. -/
structure Memory where
  block? : TaskId → Option Block
  /-- Task numbers are words, and nobody else asks. -/
  counted : ∀ {id block}, block? id = some block → id < UInt64.size
  apart : ∀ {first second one other}, first ≠ second → block? first = some one → block? second = some other →
    one.Apart other

namespace Memory

/-- The block that a task gets on request; none if the request is refused. -/
def offer (memory : Memory) (refused : Bool) (id : TaskId) : Option Block :=
  if refused then none else memory.block? id

theorem offer_none_iff {memory : Memory} {refused : Bool} {id : TaskId} :
    memory.offer refused id = none ↔ refused = true ∨ memory.block? id = none := by
  cases refused <;> simp [offer]

theorem block_of_offer {memory : Memory} {refused : Bool} {id : TaskId} {block : Block}
    (offered : memory.offer refused id = some block) : memory.block? id = some block := by
  cases refused with
  | true => cases offered
  | false => exact offered

/-- So many blocks one after another, in the order of task numbers. -/
def row (start count : Nat) (aligned : start % Config.wordBytes = 0)
    (room : start + count * Config.stackBytes < UInt64.size) : Memory where
  block? := fun id : Nat =>
    if below : id < count then
      some (.above (start + id * Config.stackBytes)
        (by simp only [Config.wordBytes, Config.stackBytes] at aligned ⊢; omega)
        (by simp only [Config.stackBytes] at room ⊢; omega))
    else none
  counted := by
    intro (id : Nat) block given
    split at given
    · have bound : id < UInt64.size := by
        simp only [Config.stackBytes] at room
        omega
      exact bound
    · cases given
  apart := by
    intro (first : Nat) (second : Nat) one other distinct atFirst atSecond
    split at atFirst
    · split at atSecond
      · cases atFirst
        cases atSecond
        have differ : first ≠ second := distinct
        rw [Block.Apart, Block.above_start, Block.above_start]
        simp only [Config.stackBytes]
        omega
      · cases atSecond
    · cases atFirst

/-- A region of stacks in the lower half of the address space. -/
def region : Memory := row 0x0000_1000_0000_0000 0x7_0000_0000 (by decide) (by decide)

end Memory

end PriorityKernel
