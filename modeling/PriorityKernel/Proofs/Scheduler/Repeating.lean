import PriorityKernel.Proofs.Scheduler.Refusal

namespace PriorityKernel

/-- The operation has nothing to do: it may log, but it changes nothing and decides on no switch. -/
def Operation.Vain (state : Scheduler) (operation : Operation) : Prop :=
  ∃ notices, operation.outcome state = ⟨.ok none, state, notices, []⟩

/-- Whether an operation asks for a level of the task, for the task to run, or for it to sleep. -/
def Operation.Places (id : TaskId) : Operation → Prop
  | .sleep other | .wakeup other _ | .setLevel other _ => other = id
  | _ => False

namespace Scheduler

variable {state : Scheduler} {task : Task} {id : TaskId}

theorem Sound.moveRunning_record (sound : state.Sound) (here : state.tasks.get? task.id = some task) (level : Level) :
    ∃ record, (state.moveRunning task level).next.tasks.get? task.id = some record ∧
      record.running = task.running ∧
      (level = record.level ∨ task.id = state.idle) := by
  obtain ⟨front, executing⟩ := sound.executing
  have moved : (state.store { task with level }).tasks.get? task.id = some { task with level } :=
    TaskTable.get?_set_at rfl here
  unfold Scheduler.moveRunning
  split
  · next same => exact ⟨task, here, rfl, Or.inl same⟩
  split
  · next idle => exact ⟨task, here, rfl, Or.inr idle⟩
  · simp only [withCurrent, executing]
    split
    · exact ⟨_, moved, rfl, Or.inl rfl⟩
    · exact ⟨_, moved, rfl, Or.inl rfl⟩

/-- Whoever is woken runs, at the level asked for unless it is the idle task. -/
theorem Sound.wakeup_record (sound : state.Sound) (here : state.tasks.get? task.id = some task) (level : Option Nat) :
    ∃ record, (state.wakeup task.id level).next.tasks.get? task.id = some record ∧ record.running = true ∧
      ∀ wanted, level = some wanted → Level.clamp wanted = record.level ∨ task.id = state.idle := by
  rw [Scheduler.wakeup, withTask_some here]
  split
  · next running =>
    cases level with
    | none =>
      refine ⟨task, here, running, fun wanted asked => ?_⟩
      cases asked
    | some wanted =>
      obtain ⟨record, there, kept, level⟩ := sound.moveRunning_record here (Level.clamp wanted)
      refine ⟨record, there, kept.trans running, ?_⟩
      rintro _ ⟨⟩
      exact level
  · refine ⟨{ task with level := (level.map Level.clamp).getD task.level, running := true }, ?_, rfl, ?_⟩
    · exact TaskTable.get?_set_at rfl here
    · rintro _ rfl
      exact Or.inl rfl

theorem Sound.setLevel_record (sound : state.Sound) (here : state.tasks.get? task.id = some task) (wanted : Nat) :
    ∃ record, (state.setLevel task.id wanted).next.tasks.get? task.id = some record ∧
      record.running = task.running ∧
      (Level.clamp wanted = record.level ∨ task.id = state.idle) := by
  rw [Scheduler.setLevel, withTask_some here]
  split
  · exact sound.moveRunning_record here (Level.clamp wanted)
  · exact ⟨{ task with level := Level.clamp wanted }, TaskTable.get?_set_at rfl here, rfl, Or.inl rfl⟩

theorem Sound.sleep_record (sound : state.Sound) (here : state.tasks.get? task.id = some task)
    (mobile : task.id ≠ state.idle) :
    ∃ record, (state.sleep task.id).next.tasks.get? task.id = some record ∧ record.running = false := by
  have parked : (state.tasks.set { task with running := false }).get? task.id = some { task with running := false } :=
    TaskTable.get?_set_at rfl here
  by_cases decides : Operation.Decides state (.sleep task.id)
  · obtain ⟨outgoing, _, executing, _, _, made⟩ := sound.switch true
    cases decides.1.symm.trans executing
    rw [sound.sleep_deciding decides, made, settle_tasks, Scheduler.aside, if_pos ⟨rfl, mobile⟩, park_eq here]
    exact ⟨_, parked, rfl⟩
  · obtain ⟨front, executing⟩ := sound.executing
    have other : front ≠ task.id := fun same => decides ⟨same ▸ executing, mobile⟩
    simp only [Scheduler.sleep, mobile, if_false, withCurrent, executing, withTask_some here, other]
    split
    · exact ⟨_, parked, rfl⟩
    · next asleep => exact ⟨task, here, eq_false_of_ne_true asleep⟩

theorem moveRunning_vain (task : Task) {level : Level} (settled : level = task.level ∨ task.id = state.idle) :
    ∃ notices, state.moveRunning task level = ⟨.ok (), state, notices, []⟩ := by
  unfold Scheduler.moveRunning
  split
  · exact ⟨[], rfl⟩
  · next other =>
    rw [if_pos (settled.resolve_left other)]
    exact ⟨[.idleLevelKept], rfl⟩

theorem wakeup_vain (here : state.tasks.get? id = some task) (running : task.running = true) {level : Option Nat}
    (settled : ∀ wanted, level = some wanted → Level.clamp wanted = task.level ∨ id = state.idle) :
    (Operation.wakeup id level).Vain state := by
  cases TaskTable.id_of_get? here
  simp only [Operation.Vain, Operation.outcome, Scheduler.wakeup, withTask_some here, running, if_true]
  cases level with
  | none => exact ⟨[], rfl⟩
  | some wanted =>
    obtain ⟨notices, moved⟩ := moveRunning_vain task (settled wanted rfl)
    exact ⟨notices, by simp only [moved, Outcome.map, Except.map]⟩

theorem Sound.setLevel_vain (sound : state.Sound) (here : state.tasks.get? id = some task) {wanted : Nat}
    (settled : Level.clamp wanted = task.level ∨ id = state.idle) : (Operation.setLevel id wanted).Vain state := by
  cases TaskTable.id_of_get? here
  simp only [Operation.Vain, Operation.outcome, Scheduler.setLevel, withTask_some here]
  split
  · obtain ⟨notices, moved⟩ := moveRunning_vain task settled
    exact ⟨notices, by simp only [moved, Outcome.map, Except.map]⟩
  · next asleep =>
    have mobile : task.id ≠ state.idle := by
      intro same
      obtain ⟨idle, there, running, _⟩ := sound.idle_task
      rw [← sound.idle, ← same, here] at there
      cases there
      exact asleep running
    have kept : ({ task with level := Level.clamp wanted } : Task) = task := by
      rw [settled.resolve_right mobile]
    rw [kept, sound.toPlaced.store_self here]
    exact ⟨[], rfl⟩

theorem Sound.sleep_asleep (sound : state.Sound) (here : state.tasks.get? id = some task)
    (asleep : task.running = false)
    (mobile : id ≠ state.idle) : state.sleep id = Outcome.pure none state := by
  obtain ⟨front, executing⟩ := sound.executing
  simp only [Scheduler.sleep, if_neg mobile, withCurrent, executing, withTask_some here, asleep, Bool.false_eq_true,
    if_false]

theorem Sound.sleep_vain (sound : state.Sound) (here : state.tasks.get? id = some task)
    (still : task.running = false ∨ id = state.idle) : (Operation.sleep id).Vain state := by
  by_cases lazy : id = state.idle
  · simp only [Operation.Vain, Operation.outcome, Scheduler.sleep, if_pos lazy]
    exact ⟨[.idleSleepRefused], rfl⟩
  · exact ⟨[], sound.sleep_asleep here (still.resolve_right lazy) lazy⟩

end Scheduler

open Scheduler

namespace Operation

variable {state : Scheduler} {operation : Operation} {id : TaskId}

theorem Places.again (places : operation.Places id) (sound : state.Sound) (known : id ∈ state.tasks.ids) :
    operation.Vain (operation.outcome state).next := by
  obtain ⟨task, here⟩ := TaskTable.mem_ids_iff.mp known
  cases TaskTable.id_of_get? here
  have after := (operation.effect sound).sound sound
  have idle : (operation.outcome state).next.idle = state.idle := after.idle.trans sound.idle.symm
  cases operation with
  | sleep other =>
    cases places
    by_cases lazy : task.id = state.idle
    · obtain ⟨_, same⟩ := sound.sleep_vain here (Or.inr lazy)
      rw [same]
      exact sound.sleep_vain here (Or.inr lazy)
    · obtain ⟨record, there, asleep⟩ := sound.sleep_record here lazy
      exact after.sleep_vain there (Or.inl asleep)
  | wakeup other level =>
    cases places
    obtain ⟨record, there, running, settled⟩ := sound.wakeup_record here level
    exact wakeup_vain there running (idle ▸ settled)
  | setLevel other wanted =>
    cases places
    obtain ⟨record, there, _, settled⟩ := sound.setLevel_record here wanted
    exact after.setLevel_vain there (idle ▸ settled)
  | _ => exact places.elim

theorem Places.silent (places : operation.Places id) (wakes : ∀ other, operation ≠ .sleep other)
    (sound : state.Sound)
    (known : id ∈ state.tasks.ids) :
    (operation.outcome state).reply = .ok none ∧ (operation.outcome state).deeds = [] := by
  obtain ⟨task, here⟩ := TaskTable.mem_ids_iff.mp known
  cases TaskTable.id_of_get? here
  cases operation with
  | sleep other => exact absurd rfl (wakes other)
  | wakeup other level =>
    cases places
    obtain ⟨_, reply, deeds⟩ := sound.wakeup here level
    exact ⟨by simp only [outcome, Outcome.map, reply, Except.map], deeds⟩
  | setLevel other wanted =>
    cases places
    obtain ⟨_, reply, deeds⟩ := sound.setLevel here wanted
    exact ⟨by simp only [outcome, Outcome.map, reply, Except.map], deeds⟩
  | _ => exact places.elim

theorem Places.accepted (places : operation.Places id) (sound : state.Sound) (known : id ∈ state.tasks.ids) :
    ∃ ends, (operation.outcome state).reply = .ok ends := by
  cases operation with
  | sleep | wakeup | setLevel => exact accepted sound _ (congrArg some places) not_false known
  | _ => exact places.elim

end Operation

namespace Scheduler

variable {state : Scheduler} {task : Task}

theorem setLevel_min (state : Scheduler) (id : TaskId) (wanted : Nat) :
    state.setLevel id (min wanted Config.maxLevel) = state.setLevel id wanted := by
  simp only [Scheduler.setLevel, Level.clamp_min]

theorem wakeup_min (state : Scheduler) (id : TaskId) (wanted : Nat) :
    state.wakeup id (some (min wanted Config.maxLevel)) = state.wakeup id (some wanted) := by
  simp only [Scheduler.wakeup, Option.map_some, Level.clamp_min]

/-- To set the level of a running task is to wake it at that level. -/
theorem setLevel_of_running (here : state.tasks.get? task.id = some task) (running : task.running = true)
    (wanted : Nat) : state.setLevel task.id wanted = state.wakeup task.id (some wanted) := by
  simp only [Scheduler.setLevel, Scheduler.wakeup, withTask_some here, running, if_true]

theorem wakeup_of_asleep {id : TaskId} (here : state.tasks.get? id = some task) (asleep : task.running = false)
    (level : Option Nat) : (state.wakeup id level).next =
      state.enqueue { task with level := (level.map Level.clamp).getD task.level } := by
  simp only [Scheduler.wakeup, withTask_some here, asleep, Bool.false_eq_true, if_false]

theorem enqueue_store (state : Scheduler) (task : Task) : (state.store task).enqueue task = state.enqueue task := by
  have replaced : (state.tasks.set task).set { task with running := true } =
      state.tasks.set { task with running := true } :=
    TaskTable.set_set (by rfl)
  simp only [enqueue, store, replaced]
  rfl

/-- To set a level and then to wake is to wake at the level. -/
theorem Sound.setLevel_wakeup (sound : state.Sound) (here : state.tasks.get? task.id = some task) (wanted : Nat) :
    ((state.setLevel task.id wanted).next.wakeup task.id none).next = (state.wakeup task.id (some wanted)).next := by
  cases running : task.running with
  | true =>
    obtain ⟨record, there, awake, _⟩ := sound.wakeup_record here (some wanted)
    rw [setLevel_of_running here running, Scheduler.wakeup, withTask_some there, if_pos awake]
    rfl
  | false =>
    have levelled : (state.setLevel task.id wanted).next = state.store { task with level := Level.clamp wanted } := by
      simp only [Scheduler.setLevel, withTask_some here, running, Bool.false_eq_true, if_false, Outcome.pure]
    have there : (state.store { task with level := Level.clamp wanted }).tasks.get? task.id =
        some { task with level := Level.clamp wanted } :=
      TaskTable.get?_set_at rfl here
    calc ((state.setLevel task.id wanted).next.wakeup task.id none).next
      _ = ((state.store { task with level := Level.clamp wanted }).wakeup task.id none).next := by rw [levelled]
      _ = (state.store { task with level := Level.clamp wanted }).enqueue { task with level := Level.clamp wanted } :=
        wakeup_of_asleep there running none
      _ = state.enqueue { task with level := Level.clamp wanted } := enqueue_store _ _
      _ = (state.wakeup task.id (some wanted)).next := (wakeup_of_asleep here running (some wanted)).symm

end Scheduler

end PriorityKernel
