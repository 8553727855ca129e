import PriorityKernel.Config
import PriorityKernel.Device.Access

namespace PriorityKernel

/-- The mask registers of the two controllers; a set bit holds a line back. -/
structure LineMasks where
  first : UInt8
  second : UInt8
  deriving DecidableEq, Repr

namespace InterruptController

def firstCommand : Address := 0x20
def firstData : Address := 0x21
def secondCommand : Address := 0xA0
def secondData : Address := 0xA1

/-- A register whose writes only take time. -/
def delayAddress : Address := 0x80

/-- The line of the first controller on which the second one hangs. -/
def cascadeLine : UInt8 := 2

/-- Reading a data register gives the byte written there last. -/
instance : Device LineMasks where
  read address masks :=
    (if address = firstData then masks.first
      else if address = secondData then masks.second
      else 0, masks)
  write address value masks :=
    if address = firstData then { masks with first := value }
    else if address = secondData then { masks with second := value }
    else masks

variable {σ : Type} [Device σ]

/-- Writes a byte and gives the controller time to take it. -/
def command (address : Address) (value : UInt8) : DeviceM σ Unit := do
  DeviceM.output address value
  DeviceM.output delayAddress 0

/-- Moves the lines to their vectors and masks all of them. -/
def init : DeviceM σ Unit := do
  command firstCommand 0x11
  command secondCommand 0x11
  command firstData Config.firstVector
  command secondData Config.secondVector
  command firstData (1 <<< cascadeLine)
  command secondData cascadeLine
  command firstData 0x01
  command secondData 0x01
  DeviceM.output firstData 0xFF
  DeviceM.output secondData 0xFF

def clearBit (address : Address) (bit : UInt8) : DeviceM σ Unit := do
  let mask ← DeviceM.input address
  DeviceM.output address (mask &&& ~~~(1 <<< bit))

/-- Lets a line through, and the cascade with it for a line of the second controller. -/
def unmask (line : UInt8) : DeviceM σ Unit := do
  if line < 8 then clearBit firstData line
  else
    clearBit secondData (line - 8)
    clearBit firstData cascadeLine

/-- Acknowledges the interrupt of a line, so that the next one can arrive. -/
def endOfInterrupt (line : UInt8) : DeviceM σ Unit := do
  if 8 ≤ line then DeviceM.output secondCommand 0x20
  DeviceM.output firstCommand 0x20

end InterruptController

end PriorityKernel
