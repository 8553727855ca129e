import PriorityKernel.Proofs.Machine.Timeouts
import PriorityKernel.Proofs.Machine.History

namespace PriorityKernel

open Machine

variable {α : Type} {scope : Scope} {machine : Machine}

namespace Machine

/-- No interrupt waits to arrive once interrupts are enabled. -/
def Undisturbed (machine : Machine) : Prop := machine.kernel.interrupts = true → machine.agenda.pending = []

theorem Calm.ticked (calm : machine.Calm) : (machine.mask.ticked.flag machine.kernel.interrupts).Calm := by
  rw [ticked_eq]
  exact ⟨calm.unlocked, calm.sound.notified _⟩

theorem Undisturbed.ticked (undisturbed : machine.Undisturbed) :
    (machine.mask.ticked.flag machine.kernel.interrupts).Undisturbed := by
  rw [ticked_eq]
  exact undisturbed

end Machine

namespace KernelM

theorem deliver_of_none (none : machine.agenda.pending = []) (rounds : Nat) (scope : Scope) :
    deliver rounds scope machine = (.ok (), machine) := by
  cases rounds with
  | zero => rfl
  | succ rounds =>
    rw [deliver, run_bind_of_ok (run_get scope machine), none]
    rfl

theorem unmask_of_none {result : Except Fault α} (none : machine.agenda.pending = []) (scope : Scope) :
    KernelM.unmask result scope machine = (.ok (), machine.unmask) := by
  have still : machine.unmask.agenda.pending = [] := none
  rcases unmask_cases result with same | same
  · rw [same]
    exact deliver_of_none still scope.credit scope
  · rw [same]
    rfl

/-- A masked section at whose end nothing can arrive is its body. -/
theorem masked_of_undisturbed {call : KernelM α} {result : Except Fault α} {after : Machine}
    (run : call scope machine.mask = (result, after)) (off : after.kernel.interrupts = false)
    (quiet : machine.kernel.interrupts = true → after.agenda.pending = []) :
    masked call scope machine = (result, after.flag machine.kernel.interrupts) := by
  cases on : machine.kernel.interrupts with
  | false =>
    have same : after.flag false = after := mask_of_off off
    rw [masked_of_off on, same, ← run, mask_of_off on]
  | true =>
    have ended : KernelM.unmask (call scope machine.mask).1 scope (call scope machine.mask).2 =
        (.ok (), after.unmask) := by
      rw [run]
      exact unmask_of_none (quiet on) scope
    rw [masked_of_on on call ended, run]
    rfl

theorem holding_of_undisturbed {lock : Lock} {call : KernelM α} {result : Except Fault α} {after : Machine}
    (run : holding lock call scope machine.mask = (result, after)) (off : after.kernel.interrupts = false)
    (quiet : machine.kernel.interrupts = true → after.agenda.pending = []) :
    holding lock call scope machine = (result, after.flag machine.kernel.interrupts) := by
  rw [holding, masked_of_off rfl] at run
  exact masked_of_undisturbed run off quiet

theorem run_addTimer (calm : machine.Calm) (undisturbed : machine.Undisturbed) (timer : Timer) (scope : Scope) :
    addTimer timer scope machine =
      (.ok (), { machine with kernel.timers := machine.kernel.timers.add timer }) := by
  have inside := addTimer_of_off calm.mask rfl timer scope
  exact holding_of_undisturbed inside rfl undisturbed

theorem run_tick (calm : machine.Calm) (undisturbed : machine.Undisturbed) (scope : Scope) :
    tick scope machine = (.ok machine.kernel.timers.tick.switchDue,
      machine.mask.ticked.flag machine.kernel.interrupts) := by
  have inside := (tick_of_calm scope machine.mask rfl calm.mask.steady).1
  have whole := machine.mask.ticked_eq
  refine holding_of_undisturbed inside ?_ ?_
  · rw [whole]
    rfl
  · rw [whole]
    exact undisturbed

theorem tick_answer (calm : machine.Calm) (scope : Scope) :
    (tick scope machine).1 = .ok machine.kernel.timers.tick.switchDue := by
  have inside := (tick_of_calm scope machine.mask rfl calm.mask.steady).1
  calc (tick scope machine).1
    _ = (tick scope machine.mask).1 := masked_answer_mask ..
    _ = .ok machine.kernel.timers.tick.switchDue := congrArg Prod.fst inside

theorem run_clock (calm : machine.Calm) (undisturbed : machine.Undisturbed) (scope : Scope) :
    clock scope machine = (.ok machine.kernel.timers.clock, machine) := by
  have inside : clock scope machine.mask = (.ok machine.kernel.timers.clock, machine.mask) := by
    rw [clock, holding_of_off rfl (calm.mask.free _), run_bind_of_ok (run_kernel ..)]
    simp only [run_pure, Machine.release, Machine.hold, List.erase_cons_head]
    rfl
  have whole := holding_of_undisturbed inside rfl undisturbed
  exact whole

theorem run_critical (calm : machine.Calm) (undisturbed : machine.Undisturbed) (body : Kernel → Outcome α)
    (scope : Scope) : critical body scope machine = ((body (machine.mask.hold .scheduler).kernel).reply,
      (machine.mask.enter (body (machine.mask.hold .scheduler).kernel)).flag machine.kernel.interrupts) :=
  holding_of_undisturbed (critical_of_calm scope calm.mask rfl body) rfl undisturbed

theorem run_look (calm : machine.Calm) (undisturbed : machine.Undisturbed) {body : Kernel → Outcome α}
    (same : (body (machine.mask.hold .scheduler).kernel).next = machine.kernel.sched)
    (notices : (body (machine.mask.hold .scheduler).kernel).notices = [])
    (deeds : (body (machine.mask.hold .scheduler).kernel).deeds = []) (scope : Scope) :
    critical body scope machine = ((body (machine.mask.hold .scheduler).kernel).reply, machine) := by
  rw [run_critical calm undisturbed body scope, machine.mask.enter_look same notices deeds]
  rfl

theorem run_log (calm : machine.Calm) (undisturbed : machine.Undisturbed) (notice : Notice) (scope : Scope) :
    ∃ lines : List Entry, (∀ line ∈ lines, line.event = .logged notice) ∧
      log notice scope machine = (.ok (), { machine with trace := lines ++ machine.trace }) := by
  rw [log, run_bind_of_ok (run_get scope machine)]
  split
  · next admitted =>
    have inside : holding .serial (record (.logged notice)) scope machine.mask =
        (.ok (), { machine.mask with trace := machine.mask.lineEntry notice :: machine.trace }) := by
      rw [holding_of_off rfl (calm.mask.free _), run_record]
      simp only [Machine.release, Machine.record, Machine.hold, List.erase_cons_head]
      rfl
    exact ⟨[machine.mask.lineEntry notice], List.forall_mem_singleton.mpr rfl,
      holding_of_undisturbed inside rfl undisturbed⟩
  · exact ⟨[], List.forall_mem_nil _, rfl⟩

/-- A call that may end in a switch at which no script waits is its decision and the handover. -/
theorem run_decision (calm : machine.Calm) (off : machine.kernel.interrupts = false)
    (hookless : machine.agenda.hooks = []) {decide : Scheduler → Outcome (Option Handover)} {operation : Operation}
    (same : ∀ state, operation.outcome state = decide state) (scope : Scope) :
    switching decide scope machine =
      ((operation.outcome machine.kernel.sched).reply.map fun _ => (), machine.operate operation) := by
  have decided : critical (fun kernel => decide kernel.sched) scope machine =
      ((operation.outcome machine.kernel.sched).reply, machine.enter (operation.outcome machine.kernel.sched)) := by
    rw [same]
    exact critical_of_calm scope calm off fun kernel => decide kernel.sched
  rw [switching, masked_of_off off]
  cases reply : (operation.outcome machine.kernel.sched).reply with
  | error fault =>
    rw [reply] at decided
    rw [operate_of_stayed (by simp [reply])]
    exact run_bind_of_error decided
  | ok ends =>
    rw [reply] at decided
    cases ends with
    | none =>
      rw [operate_of_stayed (by simp [reply])]
      exact run_bind_of_ok decided
    | some ends =>
      rw [operate_of_handover reply]
      exact (run_bind_of_ok decided).trans
        (@run_perform_nil scope (machine.enter (operation.outcome machine.kernel.sched)) hookless ends)

theorem run_switching (calm : machine.Calm) (undisturbed : machine.Undisturbed) (hookless : machine.agenda.hooks = [])
    {decide : Scheduler → Outcome (Option Handover)} (operation : Operation)
    (same : ∀ state, operation.outcome state = decide state) (scope : Scope) : switching decide scope machine =
      ((operation.outcome machine.kernel.sched).reply.map fun _ => (),
        (machine.mask.operate operation).flag machine.kernel.interrupts) := by
  have agenda : (machine.mask.operate operation).agenda = machine.agenda := by rw [operate_eq]; rfl
  have inside := run_decision calm.mask rfl hookless same scope
  rw [switching, masked_of_off rfl] at inside
  exact masked_of_undisturbed inside (machine.operate_off operation) fun on => agenda ▸ undisturbed on

theorem run_switch (calm : machine.Calm) (undisturbed : machine.Undisturbed) (hookless : machine.agenda.hooks = [])
    (sleeping : Bool) (scope : Scope) : switch sleeping scope machine =
      (.ok (), (machine.mask.operate (.switch sleeping)).flag machine.kernel.interrupts) := by
  obtain ⟨_, _, _, _, _, made⟩ := calm.sound.switch sleeping
  have answered : ((Operation.switch sleeping).outcome machine.kernel.sched).reply.map (fun _ => ()) = .ok () := by
    simp only [Operation.outcome, made, Except.map]
  have run := run_switching calm undisturbed hookless (.switch sleeping) (fun _ => rfl) scope
  rw [answered] at run
  exact run

end KernelM

end PriorityKernel
