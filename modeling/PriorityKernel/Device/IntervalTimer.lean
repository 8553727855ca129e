import PriorityKernel.Config
import PriorityKernel.Fault
import PriorityKernel.Device.Access

namespace PriorityKernel.IntervalTimer

def commandAddress : Address := 0x43
def dataAddress : Address := 0x40

/-- First channel, low byte then high byte, rate generator. -/
def rateGenerator : UInt8 := 0x34

/-- The reload value for a frequency, clamped to what the counter holds. -/
def divisor (frequency : Nat) : Except Panic Nat :=
  if frequency = 0 then .error .divisionByZero
  else .ok (max 1 (min 0xFFFF (Config.intervalClock / frequency)))

variable {σ : Type} [Device σ]

def load (reload : Nat) : DeviceM σ Unit := do
  DeviceM.output commandAddress rateGenerator
  DeviceM.output dataAddress (UInt8.ofNat reload)
  DeviceM.output dataAddress (UInt8.ofNat (reload / 256))

/-- A timer that is only written to. -/
instance : Device Unit where
  read _ _ := (0, ())
  write _ _ _ := ()

def program (frequency : Nat) : Except Panic (Nat × List Access) := do
  let reload ← divisor frequency
  let (_, accesses, _) := (load reload).runOn ()
  return (reload, accesses)

end PriorityKernel.IntervalTimer
