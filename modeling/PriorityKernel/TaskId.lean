namespace PriorityKernel

abbrev TaskId := Nat

namespace TaskId

/-- The sender of messages raised by interrupts. -/
def kernel : TaskId := 0

/-- The task that runs the event loop: the thread that started the kernel. -/
def eventLoop : TaskId := 1

def written (id : TaskId) : String := "TaskId(" ++ toString id ++ ")"

end TaskId

end PriorityKernel
