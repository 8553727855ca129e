import PriorityKernel.Level
import PriorityKernel.TaskId

namespace PriorityKernel

structure ReadyQueues where
  lanes : Vector (List TaskId) Config.levelCount
  deriving DecidableEq

namespace ReadyQueues

def empty : ReadyQueues := ⟨Vector.replicate _ []⟩

/-- The tasks ready at a level, front first. -/
def queue (ready : ReadyQueues) (level : Level) : List TaskId := ready.lanes[level]

def update (ready : ReadyQueues) (level : Level) (edit : List TaskId → List TaskId) :
    ReadyQueues :=
  ⟨ready.lanes.set level (edit (ready.queue level))⟩

def pushBack (ready : ReadyQueues) (level : Level) (id : TaskId) : ReadyQueues :=
  ready.update level (· ++ [id])

def pushFront (ready : ReadyQueues) (level : Level) (id : TaskId) : ReadyQueues :=
  ready.update level (id :: ·)

def popFront (ready : ReadyQueues) (level : Level) : ReadyQueues := ready.update level List.tail

/-- Removes the first occurrence of a task at a level. -/
def erase (ready : ReadyQueues) (level : Level) (id : TaskId) : ReadyQueues :=
  ready.update level (·.erase id)

/-- The highest level at which somebody is ready. -/
def highest? (ready : ReadyQueues) : Option Level :=
  Level.descending.find? fun level => !(ready.queue level).isEmpty

variable {ready : ReadyQueues} {level other : Level} {id : TaskId}

@[simp] theorem queue_empty : empty.queue level = [] := by
  simp [queue, empty]

@[simp] theorem queue_update_self (edit : List TaskId → List TaskId) :
    (ready.update level edit).queue level = edit (ready.queue level) := by
  simp [queue, update]

theorem queue_update_of_ne (edit : List TaskId → List TaskId) (distinct : other ≠ level) :
    (ready.update level edit).queue other = ready.queue other := by
  have differ : level.val ≠ other.val := fun same => distinct (Fin.ext same.symm)
  simp [queue, update, differ]

theorem queue_update (edit : List TaskId → List TaskId) :
    (ready.update level edit).queue other =
      if other = level then edit (ready.queue level) else ready.queue other := by
  split
  · next same => subst same; exact queue_update_self edit
  · next distinct => exact queue_update_of_ne edit distinct

@[ext] theorem ext {first second : ReadyQueues}
    (same : ∀ level, first.queue level = second.queue level) : first = second := by
  obtain ⟨lanes⟩ := first
  obtain ⟨others⟩ := second
  congr 1
  apply Vector.ext
  intro i bound
  exact same ⟨i, bound⟩

end ReadyQueues

end PriorityKernel
