import PriorityKernel.Device.Access

namespace PriorityKernel

/-- A serial controller with its loopback path. -/
structure Uart where
  base : Address
  /-- What the loopback path changes in a byte. -/
  fault : UInt8 := 0
  /-- For how many status reads the transmitter stays busy after a byte. -/
  busyReads : Nat := 0
  lineControl : UInt8 := 0
  modemControl : UInt8 := 0
  /-- The byte that reading the data register gives. -/
  echo : UInt8 := 0
  /-- Status reads for which the transmitter is still busy. -/
  busy : Nat := 0
  /-- Bytes sent so far, the latest first. -/
  sent : List UInt8 := []
  deriving DecidableEq, Repr

namespace Uart

def data : Address := 0
def interruptEnable : Address := 1
def fifoControl : Address := 2
def lineControlRegister : Address := 3
def modemControlRegister : Address := 4
def lineStatus : Address := 5

/-- Loops what is written back to the reader. -/
def loopback (uart : Uart) : Bool := uart.modemControl &&& 0x10 != 0

/-- Whether the data register stands for the divisor. -/
def divisorLatch (uart : Uart) : Bool := uart.lineControl &&& 0x80 != 0

def transmit (uart : Uart) (value : UInt8) : Uart :=
  if uart.loopback then { uart with echo := value ^^^ uart.fault }
  else if uart.divisorLatch then uart
  else { uart with sent := value :: uart.sent, busy := uart.busyReads }

/-- A read of the line status: busy, or empty and idle. -/
def status (uart : Uart) : UInt8 × Uart :=
  match uart.busy with
  | 0 => (0x60, uart)
  | left + 1 => (0x40, { uart with busy := left })

instance : Device Uart where
  read address uart :=
    if address = uart.base + data then (uart.echo, uart)
    else if address = uart.base + lineStatus then uart.status
    else (0, uart)
  write address value uart :=
    if address = uart.base + data then uart.transmit value
    else if address = uart.base + lineControlRegister then { uart with lineControl := value }
    else if address = uart.base + modemControlRegister then { uart with modemControl := value }
    else uart

end Uart

namespace SerialLine

/-- The bytes on the wire for a text: a carriage return goes before every line feed. -/
def wire : List UInt8 → List UInt8
  | [] => []
  | byte :: rest => if byte = 10 then 13 :: byte :: wire rest else byte :: wire rest

def firstBase : Address := 0x3F8

def writeRegister (register : Address) (value : UInt8) : DeviceM Uart Unit := do
  DeviceM.output ((← get).device.base + register) value

def readRegister (register : Address) : DeviceM Uart UInt8 := do
  DeviceM.input ((← get).device.base + register)

/-- Sets the line up, 115200 baud with eight bits and queues on, and tests it on itself. Answers
whether the test byte came back; the line is set up either way. -/
def init : DeviceM Uart Bool := do
  writeRegister Uart.interruptEnable 0x00
  writeRegister Uart.lineControlRegister 0x80
  writeRegister Uart.data 0x01
  writeRegister Uart.interruptEnable 0x00
  writeRegister Uart.lineControlRegister 0x03
  writeRegister Uart.fifoControl 0xC7
  writeRegister Uart.modemControlRegister 0x0B
  writeRegister Uart.modemControlRegister 0x1E
  writeRegister Uart.data 0xAE
  let echoed ← readRegister Uart.data
  writeRegister Uart.modemControlRegister 0x0F
  return echoed == 0xAE

/-- Reads the status, at most `reads` times, until the transmitter is empty. -/
def awaitEmpty : Nat → DeviceM Uart Unit
  | 0 => pure ()
  | reads + 1 => do
    let status ← readRegister Uart.lineStatus
    if status &&& 0x20 = 0 then awaitEmpty reads

/-- Writes one byte when the transmitter is empty. -/
def writeByte (byte : UInt8) : DeviceM Uart Unit := do
  awaitEmpty ((← get).device.busy + 1)
  writeRegister Uart.data byte

def writeText (text : String) : DeviceM Uart Unit :=
  (wire text.toUTF8.toList).forM writeByte

def writePieces (pieces : List String) : DeviceM Uart Unit := pieces.forM writeText

end SerialLine

end PriorityKernel
