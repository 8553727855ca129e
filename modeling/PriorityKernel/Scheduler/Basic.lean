import PriorityKernel.Log.Notice
import PriorityKernel.ReadyQueues
import PriorityKernel.TaskTable

namespace PriorityKernel

structure Scheduler where
  tasks : TaskTable
  ready : ReadyQueues
  currentLevel : Level
  /-- Asks the next switch to look for the highest level afresh. -/
  levelChanged : Bool
  /-- The number given last. -/
  lastId : TaskId
  idle : TaskId
  /-- Where stacks are reserved. -/
  memory : Memory

/-- What a critical section did, for the record. -/
inductive Deed where
  | sent (receiver : TaskId) (message : Message)
  | taken (owner : TaskId) (message : Message)
  | prepared (id : TaskId) (entry : UInt64) (argument : Int64)
  | parked (id : TaskId)
  deriving DecidableEq

/-- What a critical section leaves behind. -/
structure Outcome (α : Type) where
  reply : Except Fault α
  next : Scheduler
  /-- The lines it logs, in order. -/
  notices : List Notice := []
  deeds : List Deed := []

namespace Outcome

variable {α β : Type}

def pure (value : α) (state : Scheduler) : Outcome α := ⟨.ok value, state, [], []⟩

def refuse (error : TaskError) (state : Scheduler) : Outcome α :=
  ⟨.error (.refused error), state, [], []⟩

def panic (cause : Panic) (state : Scheduler) : Outcome α := ⟨.error (.panic cause), state, [], []⟩

/-- Goes on with a second operation in the state that the first one left, unless it failed. -/
def andThen (first : Outcome α) (second : α → Scheduler → Outcome β) : Outcome β :=
  match first.reply with
  | .error fault => ⟨.error fault, first.next, first.notices, first.deeds⟩
  | .ok value =>
    let last := second value first.next
    { last with notices := first.notices ++ last.notices, deeds := first.deeds ++ last.deeds }

def noting (outcome : Outcome α) (notice : Notice) : Outcome α :=
  { outcome with notices := outcome.notices ++ [notice] }

end Outcome

/-- The two ends of a context switch: the task whose state is saved and the task whose state is
loaded. -/
structure Handover where
  save : TaskId
  load : TaskId
  deriving DecidableEq, Repr

namespace Scheduler

def blank (memory : Memory) : Scheduler :=
  { tasks := TaskTable.empty
    ready := ReadyQueues.empty
    currentLevel := Level.top
    levelChanged := false
    lastId := 0
    idle := TaskId.kernel
    memory }

/-- The executing task. There is one as soon as the scheduler has started. -/
def current? (state : Scheduler) : Option TaskId := (state.ready.queue state.currentLevel).head?

def store (state : Scheduler) (task : Task) : Scheduler :=
  { state with tasks := state.tasks.set task }

/-- Applies an operation to the record of a task, if there is such a task. -/
def withTask {α : Type} (state : Scheduler) (id : TaskId) (body : Task → Outcome α) : Outcome α :=
  match state.tasks.get? id with
  | none => Outcome.refuse (.noSuchTask id) state
  | some task => body task

def withCurrent {α : Type} (state : Scheduler) (body : TaskId → Outcome α) : Outcome α :=
  match state.current? with
  | none => Outcome.panic .emptyReadyQueue state
  | some id => body id

/-- Creates a task at the default level, asleep and without a stack. -/
def create (state : Scheduler) : Outcome TaskId :=
  let id := state.lastId + 1
  ⟨.ok id, { state with lastId := id, tasks := state.tasks.push { id } }, [], []⟩

/-- Prepares a task to start. If memory is short no block can be reserved. -/
def prepare (state : Scheduler) (memoryShort : Bool) (id : TaskId) (entry : UInt64)
    (argument : Int64) : Outcome Unit :=
  state.withTask id fun task =>
    match task.prepare (state.memory.offer memoryShort task.id) entry argument with
    | (.error error, record) => Outcome.refuse error (state.store record)
    | (.ok (), record) =>
      ⟨.ok (), state.store record, [.contextPrepared id], [.prepared id entry argument]⟩

/-- Takes the oldest message of a task, if it has one. -/
def receive (state : Scheduler) (id : TaskId) : Outcome (Option Message) :=
  state.withTask id fun task =>
    match task.messages with
    | [] => Outcome.pure none state
    | message :: rest =>
      ⟨.ok (some message), state.store { task with messages := rest }, [], [.taken id message]⟩

def snapshot (state : Scheduler) (id : TaskId) : Outcome Snapshot :=
  state.withTask id fun task => Outcome.pure task.snapshot state

/-- The tasks ready at a level, front first; nobody is ready at a level that does not exist. -/
def readyAt (state : Scheduler) (level : Nat) : List TaskId :=
  if h : level < Config.levelCount then state.ready.queue ⟨level, h⟩ else []

end Scheduler

end PriorityKernel
