import PriorityKernel.Log.Level
import PriorityKernel.Device.SerialLine

namespace PriorityKernel

/-- A log line on its way to the console. -/
structure LogRecord where
  level : LogLevel
  target : String
  text : String
  deriving DecidableEq, Repr

namespace LogRecord

/-- The escape sequence that sets the colour of a level. -/
def color : LogLevel → String
  | .error => "\x1b[31m"
  | .warn => "\x1b[33m"
  | .info => "\x1b[32m"
  | .debug => "\x1b[36m"
  | .trace => "\x1b[90m"

/-- The tag of a level, five characters wide. -/
def tag : LogLevel → String
  | .error => "ERROR"
  | .warn => " WARN"
  | .info => " INFO"
  | .debug => "DEBUG"
  | .trace => "TRACE"

def pieces (entry : LogRecord) : List String :=
  [color entry.level, "[", tag entry.level, "]\x1b[0m ", entry.target, ": ", entry.text, "\n"]

def line (entry : LogRecord) : String := String.join entry.pieces

end LogRecord

/-- A log line as it comes to the console: in pieces, cut anywhere. -/
structure CutRecord where
  entry : LogRecord
  fragments : List String
  whole : String.join fragments = entry.line

namespace LogFilter

/-- The lines that a filter lets through, in order. -/
def lines (filter : LogFilter) (records : List CutRecord) : List String :=
  (records.filter fun record => filter.admits record.entry.level).map (·.entry.line)

/-- Writes the records that a filter lets through. -/
def write (filter : LogFilter) (records : List CutRecord) : DeviceM Uart Unit :=
  records.forM fun record =>
    if filter.admits record.entry.level then SerialLine.writePieces record.fragments else pure ()

end LogFilter

inductive ConsoleWrite where
  | record (entry : LogRecord)
  | print (text : String)
  | printLine (text : String)
  | flush
  /-- A second attempt to install the logger, which keeps the first. -/
  | install
  deriving DecidableEq, Repr

namespace ConsoleWrite

/-- The pieces that a write puts on the serial line under a filter. -/
def pieces (filter : LogFilter) : ConsoleWrite → List String
  | record entry => if filter.admits entry.level then entry.pieces else []
  | print text => [text]
  | printLine text => [text, "\n"]
  | flush => []
  | install => ["[logger] already installed", "\n"]

/-- The bytes that a write sends on an idle line. -/
def bytes (filter : LogFilter) (write : ConsoleWrite) : List UInt8 :=
  let line : Uart := { base := SerialLine.firstBase }
  let (_, _, after) := (SerialLine.writePieces (write.pieces filter)).runOn line
  after.sent.reverse

end ConsoleWrite

end PriorityKernel
