import PriorityKernel.Task

namespace PriorityKernel

structure TaskTable where
  tasks : List Task
  deriving DecidableEq

namespace TaskTable

def empty : TaskTable := ⟨[]⟩

def ids (table : TaskTable) : List TaskId := table.tasks.map (·.id)

def size (table : TaskTable) : Nat := table.tasks.length

def get? (table : TaskTable) (id : TaskId) : Option Task := table.tasks.find? (·.id == id)

def push (table : TaskTable) (task : Task) : TaskTable := ⟨table.tasks ++ [task]⟩

/-- Replaces the record that has the number of `task`. -/
def set (table : TaskTable) (task : Task) : TaskTable :=
  ⟨table.tasks.map fun old => if old.id = task.id then task else old⟩

variable {table : TaskTable} {task found : Task} {id : TaskId}

theorem id_of_get? (here : table.get? id = some found) : found.id = id := by
  simpa using List.find?_some here

theorem mem_ids_iff : id ∈ table.ids ↔ ∃ task, table.get? id = some task := by
  rw [← Option.isSome_iff_exists, get?, List.find?_isSome]
  simp [ids]

theorem absent_or_here (table : TaskTable) (id : TaskId) :
    table.get? id = none ∨ ∃ task, id = task.id ∧ table.get? task.id = some task := by
  cases here : table.get? id with
  | none => exact Or.inl rfl
  | some task =>
    have same := id_of_get? here
    subst same
    exact Or.inr ⟨task, rfl, here⟩

@[simp] theorem ids_set : (table.set task).ids = table.ids := by
  simp only [ids, set, List.map_map]
  apply List.map_congr_left
  intro old _
  simp only [Function.comp_apply]
  split
  · next same => exact same.symm
  · rfl

theorem get?_set_self (here : table.get? task.id = some found) :
    (table.set task).get? task.id = some task := by
  have same := id_of_get? here
  simp only [get?, set, List.find?_map] at here ⊢
  have hit : List.find? ((fun t : Task => t.id == task.id) ∘
      fun old => if old.id = task.id then task else old) table.tasks = some found := by
    rw [← here]
    congr 1
    funext old
    simp only [Function.comp_apply]
    split
    · next same => simp [same]
    · rfl
  rw [hit]
  simp [same]

theorem get?_set_of_ne (distinct : id ≠ task.id) : (table.set task).get? id = table.get? id := by
  simp only [get?, set, List.find?_map]
  have same : ((fun t : Task => t.id == id) ∘ fun old : Task => if old.id = task.id then task else old)
      = fun t : Task => t.id == id := by
    funext old
    simp only [Function.comp_apply]
    split
    · next this => simp [this]
    · rfl
  rw [same]
  cases here : List.find? (fun t : Task => t.id == id) table.tasks with
  | none => rfl
  | some old =>
    have : old.id = id := by simpa using List.find?_some here
    simp [this, distinct]

theorem set_set {earlier : Task} (same : earlier.id = task.id) : (table.set earlier).set task = table.set task := by
  simp only [set, List.map_map, same]
  congr 1
  apply List.map_congr_left
  intro old _
  simp only [Function.comp_apply]
  split <;> simp

@[simp] theorem ids_push : (table.push task).ids = table.ids ++ [task.id] := by
  simp [ids, push]

/-- A record that has only just been pushed is replaced where it is. -/
theorem set_push (fresh : table.get? task.id = none) (same : found.id = task.id) :
    (table.push task).set found = table.push found := by
  have others : ∀ old ∈ table.tasks, old.id ≠ task.id := by
    intro old member
    simpa using List.find?_eq_none.mp fresh old member
  simp only [set, push, List.map_append, List.map_singleton, same, if_true]
  congr 2
  refine (List.map_congr_left fun old member => if_neg (others old member)).trans (List.map_id _)

theorem get?_push : (table.push task).get? id =
    (table.get? id).or (if task.id = id then some task else none) := by
  simp [get?, push, List.find?_append, List.find?_cons]
  split <;> simp_all

end TaskTable

end PriorityKernel
