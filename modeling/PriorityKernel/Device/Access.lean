namespace PriorityKernel

/-- Where a register lies in the input and output space of the processor. -/
abbrev Address := UInt16

inductive Access where
  | read (address : Address) (value : UInt8)
  | write (address : Address) (value : UInt8)
  deriving DecidableEq, Repr

/-- A device that answers accesses to its registers. -/
class Device (σ : Type) where
  read : Address → σ → UInt8 × σ
  write : Address → UInt8 → σ → σ

/-- A device with the accesses made so far, the latest first. -/
structure Bus (σ : Type) where
  device : σ
  accesses : List Access := []

abbrev DeviceM (σ : Type) := StateM (Bus σ)

namespace DeviceM

variable {σ α : Type}

def input [Device σ] (address : Address) : DeviceM σ UInt8 := fun bus =>
  let (value, device) := Device.read address bus.device
  (value, ⟨device, .read address value :: bus.accesses⟩)

def output [Device σ] (address : Address) (value : UInt8) : DeviceM σ Unit := fun bus =>
  ((), ⟨Device.write address value bus.device, .write address value :: bus.accesses⟩)

/-- Runs a program on a device; answers with its result, the accesses in order, and the device. -/
def runOn (program : DeviceM σ α) (device : σ) : α × List Access × σ :=
  let (value, bus) := program.run ⟨device, []⟩
  (value, bus.accesses.reverse, bus.device)

end DeviceM

end PriorityKernel
