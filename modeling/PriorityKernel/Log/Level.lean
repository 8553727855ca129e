namespace PriorityKernel

inductive LogLevel where
  | error
  | warn
  | info
  | debug
  | trace
  deriving DecidableEq, Repr

namespace LogLevel

/-- The more detail a level stands for, the greater its rank. -/
def rank : LogLevel → Nat
  | error => 1
  | warn => 2
  | info => 3
  | debug => 4
  | trace => 5

def name : LogLevel → String
  | error => "ERROR"
  | warn => "WARN"
  | info => "INFO"
  | debug => "DEBUG"
  | trace => "TRACE"

end LogLevel

/-- The most detailed level that is written; `none` silences the log. -/
structure LogFilter where
  most : Option LogLevel
  deriving DecidableEq, Repr

namespace LogFilter

def admits (filter : LogFilter) (level : LogLevel) : Bool :=
  filter.most.any fun most => level.rank ≤ most.rank

/-- The filter the kernel starts with. -/
def standard : LogFilter := ⟨some .debug⟩

def name (filter : LogFilter) : String := (filter.most.map LogLevel.name).getD "OFF"

end LogFilter

end PriorityKernel
