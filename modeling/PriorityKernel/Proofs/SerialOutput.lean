import PriorityKernel.Proofs.Serial.LineFeeds
import PriorityKernel.Log.Console

namespace PriorityKernel

namespace Uart

/-- What is written to the data register goes out. -/
structure Open (line : Uart) : Prop where
  outward : line.loopback = false
  plain : line.divisorLatch = false

/-- The line once its transmitter is empty. -/
def settled (line : Uart) : Uart := { line with busy := 0 }

theorem lineStatus_ne_data (base : Address) : base + lineStatus ≠ base + data := by
  intro same
  have offsets : lineStatus = data := by simpa using same
  exact absurd offsets (by decide)

theorem read_lineStatus (line : Uart) : Device.read (line.base + lineStatus) line = line.status := by
  simp only [Device.read, if_neg (lineStatus_ne_data line.base), if_true]

theorem write_data (line : Uart) (byte : UInt8) : Device.write (line.base + data) byte line = line.transmit byte := by
  simp only [Device.write, if_true]

end Uart

namespace SerialLine

theorem run_bind {α β : Type} (first : DeviceM Uart α) (rest : α → DeviceM Uart β) (bus : Bus Uart) :
    (first >>= rest).run bus = (rest (first.run bus).1).run (first.run bus).2 := rfl

theorem run_pure {α : Type} (value : α) (bus : Bus Uart) :
    (pure value : DeviceM Uart α).run bus = (value, bus) := rfl

/-- The bus after one look at the line status. -/
def looked (bus : Bus Uart) : Bus Uart :=
  ⟨bus.device.status.2, .read (bus.device.base + Uart.lineStatus) bus.device.status.1 :: bus.accesses⟩

theorem run_readStatus (bus : Bus Uart) :
    (readRegister Uart.lineStatus).run bus = (bus.device.status.1, looked bus) := by
  rw [looked, ← Uart.read_lineStatus bus.device]
  rfl

theorem run_awaitEmpty (reads : Nat) (bus : Bus Uart) :
    (awaitEmpty (reads + 1)).run bus =
      if bus.device.status.1 &&& 0x20 = 0 then (awaitEmpty reads).run (looked bus) else ((), looked bus) := by
  rw [awaitEmpty, StateT.run_bind, run_readStatus]
  show (if bus.device.status.1 &&& 0x20 = 0 then awaitEmpty reads else pure ()).run (looked bus) = _
  by_cases waits : bus.device.status.1 &&& 0x20 = 0
  · rw [if_pos waits, if_pos waits]
  · rw [if_neg waits, if_neg waits]
    rfl

/-- As many reads as the transmitter stays busy, and one more, find it empty. -/
theorem device_awaitEmpty {reads : Nat} {bus : Bus Uart} (enough : bus.device.busy < reads) :
    ((awaitEmpty reads).run bus).2.device = bus.device.settled := by
  induction reads generalizing bus with
  | zero => exact absurd enough (Nat.not_lt_zero _)
  | succ reads ih =>
    rw [run_awaitEmpty]
    cases busy : bus.device.busy with
    | zero =>
      have status : bus.device.status = (0x60, bus.device) := by simp only [Uart.status, busy]
      have idle : bus.device.settled = bus.device := by rw [Uart.settled, ← busy]
      have empty : (0x60 : UInt8) &&& 0x20 ≠ 0 := by decide
      rw [status, if_neg empty, looked, status, idle]
    | succ left =>
      have status : bus.device.status = (0x40, { bus.device with busy := left }) := by
        simp only [Uart.status, busy]
      have fewer : (looked bus).device.busy < reads := by
        rw [looked, status]
        show left < reads
        omega
      have full : (0x40 : UInt8) &&& 0x20 = 0 := by decide
      rw [status, if_pos full, ih fewer, looked, status]
      rfl

theorem device_writeByte (byte : UInt8) (bus : Bus Uart) :
    ((writeByte byte).run bus).2.device = bus.device.settled.transmit byte := by
  have emptied := device_awaitEmpty (Nat.lt_succ_self bus.device.busy)
  show Device.write (((awaitEmpty (bus.device.busy + 1)).run bus).2.device.base + Uart.data) byte
    ((awaitEmpty (bus.device.busy + 1)).run bus).2.device = _
  rw [Uart.write_data, emptied]

/-- What a program puts on an open line, in order. It leaves the line open. -/
def Sends (program : DeviceM Uart Unit) (bytes : List UInt8) : Prop :=
  ∀ bus : Bus Uart, bus.device.Open →
    (program.run bus).2.device.Open ∧ (program.run bus).2.device.sent = bytes.reverse ++ bus.device.sent

theorem sends_pure : Sends (pure ()) [] := fun _ ready => ⟨ready, rfl⟩

theorem Sends.then {first second : DeviceM Uart Unit} {bytes later : List UInt8} (earlier : Sends first bytes)
    (rest : Sends second later) : Sends (do first; second) (bytes ++ later) := by
  intro bus ready
  obtain ⟨between, sent⟩ := earlier bus ready
  obtain ⟨after, further⟩ := rest _ between
  refine ⟨after, further.trans ?_⟩
  rw [sent, List.reverse_append, List.append_assoc]

theorem sends_forM {α : Type} {body : α → DeviceM Uart Unit} {bytes : α → List UInt8}
    (each : ∀ item, Sends (body item) (bytes item)) (items : List α) :
    Sends (items.forM body) (items.flatMap bytes) := by
  induction items with
  | nil => exact sends_pure
  | cons item rest ih => exact (each item).then ih

theorem sends_writeByte (byte : UInt8) : Sends (writeByte byte) [byte] := by
  intro bus ready
  have outward : bus.device.settled.loopback = false := ready.outward
  have plain : bus.device.settled.divisorLatch = false := ready.plain
  rw [device_writeByte, Uart.transmit, outward, plain]
  exact ⟨⟨ready.outward, ready.plain⟩, rfl⟩

theorem sends_writeText (text : String) : Sends (writeText text) (wire (textBytes text)) := by
  have each := sends_forM sends_writeByte (wire (textBytes text))
  rwa [List.flatMap_singleton'] at each

/-- The pieces of a text go out like the text itself, wherever it was cut. -/
theorem sends_writePieces (pieces : List String) :
    Sends (writePieces pieces) (wire (textBytes (String.join pieces))) := by
  rw [textBytes_join, wire_flatMap]
  exact sends_forM sends_writeText pieces

end SerialLine

namespace SerialLine

end SerialLine

/-- What a console write sends on an idle line is its text with a carriage return before each line feed. -/
theorem ConsoleWrite.bytes_eq (filter : LogFilter) (write : ConsoleWrite) :
    write.bytes filter = SerialLine.wire (textBytes (String.join (write.pieces filter))) := by
  have idle : Uart.Open { base := SerialLine.firstBase } := ⟨rfl, rfl⟩
  have sent := (SerialLine.sends_writePieces (write.pieces filter) ⟨{ base := SerialLine.firstBase }, []⟩ idle).2
  show List.reverse
    ((SerialLine.writePieces (write.pieces filter)).run ⟨{ base := SerialLine.firstBase }, []⟩).2.device.sent = _
  rw [sent, List.append_nil, List.reverse_reverse]

end PriorityKernel
