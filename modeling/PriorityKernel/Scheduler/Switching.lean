import PriorityKernel.Scheduler.Basic

namespace PriorityKernel.Scheduler

/-- The executing task goes to the back of its queue. -/
def requeue (state : Scheduler) (id : TaskId) : Scheduler :=
  { state with
    ready := (state.ready.popFront state.currentLevel).pushBack state.currentLevel id }

/-- The executing task leaves its queue and stops running. -/
def park (state : Scheduler) (id : TaskId) : Scheduler :=
  let left := { state with ready := state.ready.popFront state.currentLevel }
  match left.tasks.get? id with
  | none => left
  | some task => left.store { task with running := false }

/-- Chooses the level to run. The level stays as it is unless its queue ran empty or a change of
levels was announced; then the highest level with a ready task is taken. -/
def settle (state : Scheduler) : Scheduler :=
  if state.levelChanged || (state.ready.queue state.currentLevel).isEmpty then
    { state with
      levelChanged := false
      currentLevel := state.ready.highest?.getD state.currentLevel }
  else state

/-- The line logged when the level changes from one state to the next. -/
def levelNotices (before after : Scheduler) : List Notice :=
  if before.currentLevel = after.currentLevel then []
  else [.levelSwitched before.currentLevel after.currentLevel]

/-- Lets the executing task step aside, asleep if `sleeping`, and picks the next one. Answers with
both; they are the same when nobody else can run. The idle task does not go to sleep. -/
def rotate (state : Scheduler) (sleeping : Bool) : Outcome (TaskId × TaskId) :=
  state.withCurrent fun outgoing =>
    let refused := sleeping && outgoing == state.idle
    let parks := sleeping && !refused
    let moved := if parks then state.park outgoing else state.requeue outgoing
    let settled := moved.settle
    let notices := (if refused then [.idleSleepRefused] else []) ++ levelNotices moved settled
    let deeds := if parks then [.parked outgoing] else []
    match settled.current? with
    | none => ⟨.error (.panic .emptyReadyQueue), settled, notices, deeds⟩
    | some incoming => ⟨.ok (outgoing, incoming), settled, notices, deeds⟩

/-- The switch from one task to another; none if they are the same. -/
def handover? (state : Scheduler) (outgoing incoming : TaskId) : Option Handover :=
  if outgoing = incoming then none
  else
    match state.tasks.get? incoming, state.tasks.get? outgoing with
    | some _, some _ => some ⟨outgoing, incoming⟩
    | _, _ => none

def switch (state : Scheduler) (sleeping : Bool) : Outcome (Option Handover) :=
  (state.rotate sleeping).andThen fun ends next =>
    Outcome.pure (next.handover? ends.1 ends.2) next

/-- Puts a task to sleep; the executing task gives up the processor. Nothing happens to a task
that sleeps already, and the idle task stays awake. -/
def sleep (state : Scheduler) (id : TaskId) : Outcome (Option Handover) :=
  if id = state.idle then (Outcome.pure none state).noting .idleSleepRefused
  else
    state.withCurrent fun current =>
      state.withTask id fun task =>
        if task.running then
          let asleep := state.store { task with running := false }
          if current = id then asleep.switch true
          else
            ⟨.ok none, { asleep with ready := asleep.ready.erase task.level id }, [], [.parked id]⟩
        else Outcome.pure none state

end PriorityKernel.Scheduler
