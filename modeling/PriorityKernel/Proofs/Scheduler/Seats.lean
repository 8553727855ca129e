import PriorityKernel.ReadyQueues
import PriorityKernel.TaskTable
import Mathlib.Tactic.SplitIfs

namespace PriorityKernel

/-- How often a task ought to stand in the queue of a level. -/
def Task.seats (task : Task) (level : Level) : Nat :=
  if task.running = true ∧ task.level = level then 1 else 0

/-- How often the task of this number ought to stand in the queue of a level. -/
def TaskTable.seats (table : TaskTable) (id : TaskId) (level : Level) : Nat :=
  ((table.get? id).map (·.seats level)).getD 0

theorem Task.seats_running {task : Task} (running : task.running = true) (level : Level) :
    task.seats level = if level = task.level then 1 else 0 := by
  simp [Task.seats, running, eq_comm]

theorem Task.seats_asleep {task : Task} (asleep : task.running = false) (level : Level) :
    task.seats level = 0 := by
  simp [Task.seats, asleep]

theorem Task.seats_pos {task : Task} {level : Level} (seated : 0 < task.seats level) :
    task.running = true ∧ task.level = level := by
  unfold Task.seats at seated
  split at seated
  · assumption
  · omega

namespace TaskTable

variable {table : TaskTable} {task found : Task} {id : TaskId} {level : Level}

theorem seats_of_get? (here : table.get? id = some task) (level : Level) : table.seats id level = task.seats level := by
  simp [seats, here]

theorem seats_of_absent (absent : table.get? id = none) : table.seats id level = 0 := by
  simp [seats, absent]

theorem seats_pos (seated : 0 < table.seats id level) :
    ∃ task, table.get? id = some task ∧ task.running = true ∧ task.level = level := by
  cases here : table.get? id with
  | none => rw [seats_of_absent here] at seated; omega
  | some task =>
    rw [seats_of_get? here] at seated
    exact ⟨task, rfl, Task.seats_pos seated⟩

theorem seats_set (here : table.get? task.id = some found) :
    (table.set task).seats id level = if id = task.id then task.seats level else table.seats id level := by
  split
  · next same => subst same; exact seats_of_get? (get?_set_self here) level
  · next distinct => simp only [seats, get?_set_of_ne distinct]

theorem seats_push (fresh : table.get? task.id = none) : (table.push task).seats id level =
    table.seats id level + if id = task.id then task.seats level else 0 := by
  simp only [seats, get?_push]
  by_cases same : id = task.id
  · subst same
    simp [fresh]
  · simp [same, Ne.symm same]

@[simp] theorem seats_empty : empty.seats id level = 0 := rfl

end TaskTable

namespace ReadyQueues

variable {ready : ReadyQueues} {moved id : TaskId} {place level : Level}

theorem count_pushBack (id : TaskId) (level : Level) : ((ready.pushBack place moved).queue level).count id =
    (ready.queue level).count id + if level = place ∧ id = moved then 1 else 0 := by
  simp only [pushBack, queue_update]
  by_cases there : level = place
  · simp only [there, if_true, List.count_append, List.count_singleton, true_and, beq_iff_eq]
    simp only [eq_comm]
  · simp [there]

theorem count_pushFront (id : TaskId) (level : Level) : ((ready.pushFront place moved).queue level).count id =
    (ready.queue level).count id + if level = place ∧ id = moved then 1 else 0 := by
  simp only [pushFront, queue_update]
  by_cases there : level = place
  · simp only [there, if_true, List.count_cons, true_and, beq_iff_eq]
    simp only [eq_comm]
  · simp [there]

theorem count_popFront (front : (ready.queue place).head? = some moved) (id : TaskId) (level : Level) :
    ((ready.popFront place).queue level).count id + (if level = place ∧ id = moved then 1 else 0) =
      (ready.queue level).count id := by
  obtain ⟨rest, whole⟩ := List.head?_eq_some_iff.mp front
  simp only [popFront, queue_update]
  by_cases there : level = place
  · simp only [there, if_true, whole, List.tail_cons, List.count_cons, true_and, beq_iff_eq]
    simp only [eq_comm]
  · simp [there]

theorem count_erase (member : moved ∈ ready.queue place) (id : TaskId) (level : Level) :
    ((ready.erase place moved).queue level).count id + (if level = place ∧ id = moved then 1 else 0) =
      (ready.queue level).count id := by
  simp only [erase, queue_update]
  by_cases there : level = place
  · subst there
    have positive : 0 < (ready.queue level).count moved := List.count_pos_iff.mpr member
    by_cases same : id = moved
    · subst same
      simp only [if_true, List.count_erase_self, and_self]
      omega
    · simp [same, List.count_erase_of_ne same]
  · simp [there]

theorem queue_ne_nil_of_erase (someone : (ready.erase place moved).queue level ≠ []) : ready.queue level ≠ [] := by
  simp only [erase, queue_update] at someone
  split at someone
  · next there =>
    subst there
    exact fun empty => someone (by rw [empty]; rfl)
  · exact someone

theorem queue_ne_nil_of_count {ready : ReadyQueues} (positive : 0 < (ready.queue level).count id) :
    ready.queue level ≠ [] :=
  List.ne_nil_of_mem (List.count_pos_iff.mp positive)

end ReadyQueues

end PriorityKernel
