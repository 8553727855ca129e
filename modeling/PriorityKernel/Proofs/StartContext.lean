import PriorityKernel.Proofs.Scheduler.Gear
import Mathlib.Data.Nat.Bitwise

namespace PriorityKernel

namespace TaskContext

/-- Clearing the low four bits rounds an address down to a multiple of 16. -/
theorem toNat_roundDown (address : UInt64) : (address &&& ~~~0xF).toNat = address.toNat / 2 ^ 4 * 2 ^ 4 := by
  apply Nat.eq_of_testBit_eq
  intro place
  rw [UInt64.toNat_and, Nat.testBit_and, Nat.testBit_mul_two_pow, Nat.testBit_div_two_pow,
    show (~~~(0xF : UInt64)).toNat = (2 ^ 60 - 1) * 2 ^ 4 by decide, Nat.testBit_mul_two_pow,
    Nat.testBit_two_pow_sub_one]
  by_cases low : place < 4
  · simp [Nat.not_le.mpr low]
  · have high : 4 ≤ place := Nat.not_lt.mp low
    rw [Nat.sub_add_cancel high]
    by_cases inside : place < 64
    · have within : place - 4 < 60 := by omega
      simp [high, within]
    · have large : 2 ^ 64 ≤ 2 ^ place := Nat.pow_le_pow_right (by decide) (Nat.not_lt.mp inside)
      have none := Nat.testBit_lt_two_pow (Nat.lt_of_lt_of_le address.toNat_lt large)
      simp [none]

/-- A stack of any alignment gives a stack pointer that is aligned like a call's. -/
theorem start_rsp (cpu : Processor) (id : TaskId) (entry : UInt64) (argument : Int64) {stackEnd : UInt64}
    (room : 16 ≤ stackEnd.toNat) : (start cpu id entry argument stackEnd).rsp.toNat =
      stackEnd.toNat / 16 * 16 - 8 := by
  have rounded := toNat_roundDown stackEnd
  show ((stackEnd &&& ~~~0xF) - 8).toNat = _
  rw [UInt64.toNat_sub_of_le, rounded]
  · rfl
  · rw [UInt64.le_iff_toNat_le, rounded]
    show 8 ≤ stackEnd.toNat / 16 * 16
    omega

theorem word_of_bytes (value : UInt32) :
    value.toUInt8.toUInt32 ||| (value >>> 8).toUInt8.toUInt32 <<< 8 ||| (value >>> 16).toUInt8.toUInt32 <<< 16 |||
      (value >>> 24).toUInt8.toUInt32 <<< 24 = value := by
  apply UInt32.eq_of_toBitVec_eq
  apply BitVec.eq_of_getLsbD_eq
  intro place inside
  simp only [UInt32.toBitVec_or, UInt32.toBitVec_shiftLeft, UInt32.toBitVec_shiftRight, UInt8.toBitVec_toUInt32,
    UInt32.toBitVec_toUInt8, UInt32.toBitVec_ofNat, BitVec.getLsbD_or]
  simp [-BitVec.setWidth_eq, BitVec.getLsbD_setWidth]
  grind

theorem mxcsr_setMxcsr (context : TaskContext) (value : UInt32) : (context.setMxcsr value).mxcsr = value := by
  simp only [mxcsr, setMxcsr, Vector.getElem_set]
  exact word_of_bytes value

/-- The context of a task that has just been called at `entry` with its number and an argument, on its own
stack. -/
structure Starts (context : TaskContext) (id : TaskId) (entry : UInt64) (argument : Int64) (stack : Stack) :
    Prop where
  rip : context.rip = entry
  rdi : context.rdi.toNat = id
  /-- The argument has the same bits, whether it is negative or not. -/
  rsi : context.rsi.toBitVec = argument.toBitVec
  cr3 : context.cr3 = Processor.boot.addressSpace
  cs : context.cs = Processor.boot.codeSelector
  ss : context.ss = Processor.boot.stackSelector
  rflags : context.rflags = 0x202
  mxcsr : context.mxcsr = 0x1F80
  aligned : context.rsp.toNat % 16 = 8
  /-- The stack pointer is inside of the stack, and so is the whole word that it points to. -/
  inside : ∃ block, stack.block = some block ∧ block.start.toNat < context.rsp.toNat ∧
    context.rsp.toNat + Config.wordBytes ≤ block.start.toNat + stack.bytes
  /-- Nothing else is set. -/
  others : { context with rip := 0, rdi := 0, rsi := 0, cr3 := 0, cs := 0, ss := 0, rflags := 0, rsp := 0 } =
    TaskContext.zeroed.setMxcsr 0x1F80

end TaskContext

/-- Whoever was prepared starts on a block of its own. A block may begin at any word: its end is rounded down,
and there is room for the word below. -/
theorem Gear.Laid.starts {memory : Memory} {id : TaskId} {entry : UInt64} {argument : Int64} {gear : Gear}
    (laid : Gear.Laid memory id (some (entry, argument)) gear) :
    gear.context.Starts id entry argument gear.stack ∧ gear.stack.bytes = Config.stackBytes := by
  cases laid with | @prepared _ _ block housed =>
  have size : Config.stackBytes = 4096 := rfl
  have top := block.stop_toNat
  have pointer := TaskContext.start_rsp Processor.boot id entry argument (show 16 ≤ block.stop.toNat by omega)
  rw [top] at pointer
  refine ⟨⟨rfl, ?_, rfl, rfl, rfl, rfl, rfl, TaskContext.mxcsr_setMxcsr _ _, ?_, ⟨block, rfl, ?_, ?_⟩,
    rfl⟩, rfl⟩
  · exact UInt64.toNat_ofNat_of_lt' (memory.counted housed)
  · rw [pointer]
    omega
  · rw [pointer]
    omega
  · rw [pointer]
    show (block.start.toNat + Config.stackBytes) / 16 * 16 - 8 + 8 ≤ block.start.toNat + Config.stackBytes
    omega

end PriorityKernel
