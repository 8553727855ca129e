import PriorityKernel.Proofs.Machine.HandleCalls
import PriorityKernel.Proofs.Scheduler.Confined

namespace PriorityKernel

open Machine Scheduler

/-- What a call on a task's handle may change. -/
structure Call.Owned (id : TaskId) (next : Call) (before after : Scheduler) : Prop where
  confined : Confined id before after
  /-- The stack and the context stay unless the call prepares the task. -/
  gear : (∀ short entry argument, next ≠ .prepare short entry argument) → after.gear id = before.gear id
  /-- The current level stays unless the executing task goes to sleep or is moved. -/
  level : after.currentLevel ≠ before.currentLevel → before.current? = some id ∧
    (next = .sleep ∨ (∃ level, next = .setLevel level) ∨ ∃ level, next = .wakeup (some level))

theorem Call.owned {state : Scheduler} (sound : state.Sound) (id : TaskId) (memoryShort : Bool) (next : Call) :
    next.Owned id state (match next.operation? id memoryShort with
      | some operation => (operation.outcome state).next
      | none => state) := by
  cases asks : next.operation? id memoryShort with
  | none => exact ⟨.refl id state, fun _ => rfl, fun changed => absurd rfl changed⟩
  | some operation =>
    refine ⟨operation.confined sound (Call.operation?_addressee asks), fun other => ?_, fun changed => ?_⟩
    · refine operation.gear_of_unprepared sound ?_
      rintro short entry argument rfl
      cases next with
      | prepare first entry argument => exact other first entry argument rfl
      | _ => cases asks
    · have either := operation.decides_or_moves sound changed
      cases next with
      | sleep =>
        cases asks
        rcases either with decides | moves
        · exact ⟨decides.1, Or.inl rfl⟩
        · exact moves.elim
      | setLevel level =>
        cases asks
        rcases either with decides | moves
        · exact decides.elim
        · exact ⟨moves, Or.inr (Or.inl ⟨level, rfl⟩)⟩
      | wakeup level =>
        cases asks
        rcases either with decides | moves
        · exact decides.elim
        · cases level with
          | none => exact moves.elim
          | some level => exact ⟨moves, Or.inr (Or.inr ⟨level, rfl⟩)⟩
      | prepare | send | receive =>
        cases asks
        rcases either with decides | moves
        · exact decides.elim
        · exact moves.elim
      | snapshot => cases asks

namespace Program.Reaches

variable {program : Program} {machine : Machine}

/-- Wherever a run is between calls and nothing waits to run: a call on a handle touches its task only, a switch
touches the outgoing task only, and the current level changes in a decision or with the executing task's own. -/
theorem touches_own_task (reached : program.Reaches machine) {kernel : Kernel} (member : kernel ∈ machine.kernels)
    (free : kernel.locks = []) {start : Machine} (same : start.kernel = kernel) (unraised : start.agenda.pending = [])
    (hookless : start.agenda.hooks = []) (scope : Scope) :
    (∀ id (next : Call), next.Owned id kernel.sched (KernelM.call id next scope start).2.kernel.sched) ∧
    (∀ sleeping, ∃ outgoing, kernel.sched.current? = some outgoing ∧
      Confined outgoing kernel.sched (KernelM.switch sleeping scope start).2.kernel.sched ∧
      (KernelM.switch sleeping scope start).2.kernel.sched.gear outgoing = kernel.sched.gear outgoing) ∧
    ∀ operation : Operation, (operation.outcome kernel.sched).next.currentLevel ≠ kernel.sched.currentLevel →
      operation.Decides kernel.sched ∨ operation.Moves kernel.sched := by
  subst same
  have sound := reached.sound _ member
  have alone : start.Alone := ⟨⟨free, sound⟩, fun _ => unraised, hookless⟩
  refine ⟨fun id next => ?_, fun sleeping => ?_, fun operation => operation.decides_or_moves sound⟩
  · rw [KernelM.call_sched alone]
    exact Call.owned sound id _ next
  · obtain ⟨outgoing, executing⟩ := sound.executing
    have switched : start.Undergoes (KernelM.switch sleeping scope start).2 (.switch sleeping) :=
      KernelM.switching_undergoes alone (·.switch sleeping) (fun _ => rfl) scope
    refine ⟨outgoing, executing, ?_⟩
    rw [switched.sched]
    exact ⟨sound.switch_confined sleeping executing, sound.switch_gear sleeping outgoing⟩

/-- A run that leaves three tasks ready at one level, below the executing one. -/
def queued : Program where
  core := .bare
  filter := .standard
  memoryShort := false
  script := [.create [.prepare false 0x1000 0, .wakeup (some 2)], .create [.prepare false 0x1000 0, .wakeup (some 2)],
    .create [.prepare false 0x1000 0, .wakeup (some 2)], .send 4 ⟨1, .layerFinish⟩]

theorem queued_touches_own_task : queued.Reaches queued.ending ∧
    queued.ending.kernel.sched.ready.queue 2 = [3, 4, 5] ∧
    let after := (KernelM.call 4 (.wakeup (some 1)) ⟨1, Machine.exec 1 1⟩ queued.ending).2.kernel.sched
    (∀ level, (after.ready.queue level).filter (· != 4) =
      (queued.ending.kernel.sched.ready.queue level).filter (· != 4)) ∧
    after.ready.queue 2 = [3, 5] ∧ after.tasks.get? 5 = queued.ending.kernel.sched.tasks.get? 5 ∧
    after.gear 4 = queued.ending.kernel.sched.gear 4 := by
  have reached : queued.Reaches queued.ending := reaches_ending rfl
  have unraised : queued.ending.agenda.pending = [] := List.isEmpty_iff.mp (by decide +kernel)
  have hookless : queued.ending.agenda.hooks = [] := List.isEmpty_iff.mp (by decide +kernel)
  obtain ⟨calls, _⟩ := touches_own_task reached queued.ending.kernel_mem_kernels reached.calm.unlocked rfl unraised
    hookless ⟨1, Machine.exec 1 1⟩
  have owned := calls 4 (.wakeup (some 1))
  exact ⟨reached, by decide +kernel, owned.confined.queues, by decide +kernel, owned.confined.others 5 (by decide),
    owned.gear nofun⟩

end Program.Reaches

end PriorityKernel
