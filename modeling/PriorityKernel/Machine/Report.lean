import PriorityKernel.Machine.Run

namespace PriorityKernel

/-- One outer step of a program. -/
structure StepReport where
  /-- What happened during the step, in order. -/
  entries : List Entry
  reply : Except Fault Reply
  kernel : Kernel

namespace StepReport

/-- Cuts entries, given in order, at the ends of outer steps. `earlier` holds what happened since
the last cut, the latest first. -/
def cut (earlier : List Entry) : List Entry → List StepReport
  | [] => []
  | entry :: rest =>
    match entry.event with
    | .finished 0 _ reply => ⟨earlier.reverse, reply, entry.kernel⟩ :: cut [] rest
    | _ => cut (entry :: earlier) rest

end StepReport

/-- What happened while the machine started, in order. -/
def Outline.opening (outline : Outline) : List Entry := outline.started.trace.reverse

/-- The outer steps in order. -/
def Outline.steps (outline : Outline) : List StepReport :=
  StepReport.cut [] (outline.ended.trace.reverse.drop outline.started.trace.length)

end PriorityKernel
