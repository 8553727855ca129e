import PriorityKernel.Config
import PriorityKernel.TaskId

namespace PriorityKernel

/-- The processor's own settings, which every task shares. -/
structure Processor where
  /-- Root of the address space. -/
  addressSpace : UInt64
  codeSelector : UInt64
  stackSelector : UInt64
  deriving DecidableEq, Repr

def Processor.boot : Processor := ⟨0x103000, 0x28, 0x30⟩

/-- The bytes saved and restored by the floating-point instructions. -/
abbrev FloatImage := Vector UInt8 Config.floatImageBytes

/-- Every register that a context switch saves and restores. -/
structure TaskContext where
  cr3 : UInt64 := 0
  rip : UInt64 := 0
  rflags : UInt64 := 0
  reserved : UInt64 := 0
  cs : UInt64 := 0
  ss : UInt64 := 0
  fs : UInt64 := 0
  gs : UInt64 := 0
  rax : UInt64 := 0
  rbx : UInt64 := 0
  rcx : UInt64 := 0
  rdx : UInt64 := 0
  rdi : UInt64 := 0
  rsi : UInt64 := 0
  rsp : UInt64 := 0
  rbp : UInt64 := 0
  r8 : UInt64 := 0
  r9 : UInt64 := 0
  r10 : UInt64 := 0
  r11 : UInt64 := 0
  r12 : UInt64 := 0
  r13 : UInt64 := 0
  r14 : UInt64 := 0
  r15 : UInt64 := 0
  floats : FloatImage := Vector.replicate _ 0
  deriving DecidableEq

namespace TaskContext

/-- A context in which every register and every saved byte is zero. -/
def zeroed : TaskContext := {}

/-- The floating-point control word, lowest byte first in the image. -/
def mxcsr (context : TaskContext) : UInt32 :=
  context.floats[24].toUInt32 ||| context.floats[25].toUInt32 <<< 8 |||
    context.floats[26].toUInt32 <<< 16 ||| context.floats[27].toUInt32 <<< 24

def setMxcsr (context : TaskContext) (value : UInt32) : TaskContext :=
  { context with
    floats := (((context.floats.set 24 value.toUInt8).set 25 (value >>> 8).toUInt8).set 26
      (value >>> 16).toUInt8).set 27 (value >>> 24).toUInt8 }

/-- Overwrites one byte of the image; a position outside it changes nothing. -/
def setFloatByte (context : TaskContext) (position : Nat) (value : UInt8) : TaskContext :=
  { context with floats := context.floats.setIfInBounds position value }

/-- The bytes of the image that are not zero, with their positions. -/
def nonzeroFloats (context : TaskContext) : List (Nat × UInt8) :=
  (context.floats.toList.zipIdx.filter fun entry => entry.1 != 0).map fun entry =>
    (entry.2, entry.1)

/-- The state in which `entry(id, argument)` has just been called on a stack that ends at
`stackEnd`: the stack pointer lies 8 bytes below a 16-byte boundary, and interrupts are enabled. -/
def start (cpu : Processor) (id : TaskId) (entry : UInt64) (argument : Int64) (stackEnd : UInt64) :
    TaskContext :=
  let registers : TaskContext :=
    { rip := entry
      rdi := UInt64.ofNat id
      rsi := argument.toUInt64
      cr3 := cpu.addressSpace
      rflags := Config.initialFlags
      cs := cpu.codeSelector
      ss := cpu.stackSelector
      rsp := (stackEnd &&& ~~~0xF) - 8 }
  registers.setMxcsr Config.initialMxcsr

end TaskContext

end PriorityKernel
