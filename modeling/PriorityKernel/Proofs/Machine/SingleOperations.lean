import PriorityKernel.Proofs.Machine.Undisturbed

namespace PriorityKernel

open Machine

variable {α : Type} {scope : Scope} {machine : Machine}

/-- The operation that a step asks for, if it asks for a single one. -/
def Step.operation? : Step → Option Operation
  | .create [] => some .create
  | .setLevel id level => some (.setLevel id level)
  | .wakeup id level => some (.wakeup id level)
  | .sleep id => some (.sleep id)
  | .switch sleeping => some (.switch sleeping)
  | .send id message => some (.send id message)
  | .receive id => some (.receive id)
  | _ => none

namespace Machine

/-- A machine between calls on which nothing waits to run: no interrupt arrives, and no script was set
aside for a switch. -/
structure Alone (machine : Machine) : Prop extends machine.Calm where
  undisturbed : machine.Undisturbed
  hookless : machine.agenda.hooks = []

/-- The machine is between calls again, with the same scripts set aside and the interrupt flag as it was. -/
structure Continues (before after : Machine) : Prop where
  calm : after.Calm
  agenda : after.agenda = before.agenda
  interrupts : after.kernel.interrupts = before.kernel.interrupts

theorem Continues.refl (calm : machine.Calm) : machine.Continues machine := ⟨calm, rfl, rfl⟩

theorem Continues.trans {first second third : Machine} (earlier : first.Continues second)
    (later : second.Continues third) : first.Continues third :=
  ⟨later.calm, later.agenda.trans earlier.agenda, later.interrupts.trans earlier.interrupts⟩

theorem Continues.undisturbed {after : Machine} (continues : machine.Continues after)
    (undisturbed : machine.Undisturbed) : after.Undisturbed := by
  intro on
  rw [continues.agenda]
  exact undisturbed (continues.interrupts ▸ on)

theorem Continues.alone {after : Machine} (continues : machine.Continues after) (alone : machine.Alone) :
    after.Alone :=
  ⟨continues.calm, continues.undisturbed alone.undisturbed,
    (congrArg Agenda.hooks continues.agenda).trans alone.hookless⟩

/-- Nothing but the scheduler, the count of switches and the trace may differ, and the scheduler is as
an operation leaves it. -/
def Undergoes (before after : Machine) (operation : Operation) : Prop :=
  ∃ switches trace, after = { before with
    kernel.sched := (operation.outcome before.kernel.sched).next, kernel.switches := switches, trace := trace }

theorem undergoes_operate (machine : Machine) (operation : Operation) :
    machine.Undergoes ((machine.mask.operate operation).flag machine.kernel.interrupts) operation := by
  refine ⟨(machine.mask.operate operation).kernel.switches, (machine.mask.operate operation).trace, ?_⟩
  rw [operate_eq]
  rfl

theorem Undergoes.retrace {before after : Machine} {operation : Operation}
    (undergoes : before.Undergoes after operation)
    (trace : List Entry) : before.Undergoes { after with trace } operation := by
  obtain ⟨switches, _, rfl⟩ := undergoes
  exact ⟨switches, trace, rfl⟩

variable {after : Machine} {operation : Operation}

theorem Undergoes.sched (undergoes : machine.Undergoes after operation) :
    after.kernel.sched = (operation.outcome machine.kernel.sched).next := by
  obtain ⟨_, _, rfl⟩ := undergoes
  rfl

theorem Undergoes.keyboard (undergoes : machine.Undergoes after operation) :
    after.kernel.keyboard = machine.kernel.keyboard ∧ after.kernel.scanCodes = machine.kernel.scanCodes := by
  obtain ⟨_, _, rfl⟩ := undergoes
  exact ⟨rfl, rfl⟩

theorem Undergoes.continues (undergoes : machine.Undergoes after operation) (calm : machine.Calm) :
    machine.Continues after := by
  obtain ⟨_, _, rfl⟩ := undergoes
  exact ⟨⟨calm.unlocked, (operation.effect calm.sound).sound calm.sound⟩, rfl, rfl⟩

theorem Undergoes.alone (undergoes : machine.Undergoes after operation) (alone : machine.Alone) : after.Alone :=
  (undergoes.continues alone.toCalm).alone alone

end Machine

namespace KernelM

/-- A critical section of the scheduler with the effect of an operation. No script for a switch runs in it. -/
theorem critical_undergoes_of_calm (calm : machine.Calm) (undisturbed : machine.Undisturbed)
    (body : Kernel → Outcome α)
    {operation : Operation}
    (same : ∀ kernel : Kernel, operation.outcome kernel.sched = (body kernel).map fun _ => none)
    (scope : Scope) : machine.Undergoes (critical body scope machine).2 operation := by
  have made := same (machine.mask.hold .scheduler).kernel
  rw [run_critical calm undisturbed body scope, ← operate_of_map machine.mask made]
  exact machine.undergoes_operate operation

theorem critical_undergoes (alone : machine.Alone) (body : Kernel → Outcome α) {operation : Operation}
    (same : ∀ kernel : Kernel, operation.outcome kernel.sched = (body kernel).map fun _ => none) (scope : Scope) :
    machine.Undergoes (critical body scope machine).2 operation :=
  critical_undergoes_of_calm alone.toCalm alone.undisturbed body same scope

theorem switching_undergoes (alone : machine.Alone) (decide : Scheduler → Outcome (Option Handover))
    {operation : Operation} (same : ∀ state, operation.outcome state = decide state) (scope : Scope) :
    machine.Undergoes (switching decide scope machine).2 operation := by
  rw [run_switching alone.toCalm alone.undisturbed alone.hookless operation same scope]
  exact machine.undergoes_operate operation

theorem create_undergoes (alone : machine.Alone) (scope : Scope) :
    machine.Undergoes (create scope machine).2 .create := by
  have created : machine.Undergoes (critical (·.sched.create) scope machine).2 .create :=
    critical_undergoes alone (·.sched.create) (fun _ => rfl) scope
  have answered : (critical (·.sched.create) scope machine).1 = .ok (machine.kernel.sched.lastId + 1) := by
    rw [run_critical alone.toCalm alone.undisturbed]
    rfl
  have after := created.alone alone
  obtain ⟨lines, _, line⟩ := run_log after.toCalm after.undisturbed
    (.taskCreated (machine.kernel.sched.lastId + 1)) scope
  rw [create, run_bind_of_ok (Prod.ext answered rfl), run_bind_of_ok line]
  exact created.retrace _

theorem run_answering {β : Type} (call : KernelM α) (answer : α → β) (scope : Scope) (machine : Machine) :
    (call >>= fun value => pure (answer value)) scope machine =
      ((call scope machine).1.map answer, (call scope machine).2) := by
  rw [run_bind]
  rcases call scope machine with ⟨_ | _, _⟩ <;> rfl

theorem carryOut_undergoes (alone : machine.Alone) {next : Step} {operation : Operation}
    (asks : next.operation? = some operation) (scope : Scope) :
    machine.Undergoes (carryOut next scope machine).2 operation := by
  have answered : ∀ {α : Type} {call : KernelM α} (reply : α → Reply),
      machine.Undergoes (call scope machine).2 operation →
        machine.Undergoes ((call >>= fun value => pure (reply value)) scope machine).2 operation := by
    intro α call reply made
    rw [run_answering]
    exact made
  cases next with
  | create calls =>
    cases calls with
    | nil =>
      cases asks
      exact answered (fun id => .chain id []) (create_undergoes alone scope)
    | cons => cases asks
  | setLevel id level =>
    cases asks
    have made : machine.Undergoes (setLevel id level scope machine).2 (.setLevel id level) :=
      critical_undergoes alone (·.sched.setLevel id level) (fun _ => rfl) scope
    exact answered (fun _ => .done) made
  | wakeup id level =>
    cases asks
    have made : machine.Undergoes (wakeup id level scope machine).2 (.wakeup id level) :=
      critical_undergoes alone (·.sched.wakeup id level) (fun _ => rfl) scope
    exact answered (fun _ => .done) made
  | send id message =>
    cases asks
    have made : machine.Undergoes (send id message scope machine).2 (.send id message) :=
      critical_undergoes alone (·.sched.send id message) (fun _ => rfl) scope
    exact answered (fun _ => .done) made
  | receive id =>
    cases asks
    have made : machine.Undergoes (receive id scope machine).2 (.receive id) :=
      critical_undergoes alone (·.sched.receive id) (fun _ => rfl) scope
    exact answered .message made
  | sleep id =>
    cases asks
    have made : machine.Undergoes (sleep id scope machine).2 (.sleep id) :=
      switching_undergoes alone (·.sleep id) (fun _ => rfl) scope
    exact answered (fun _ => .done) made
  | switch sleeping =>
    cases asks
    have made : machine.Undergoes (switch sleeping scope machine).2 (.switch sleeping) :=
      switching_undergoes alone (·.switch sleeping) (fun _ => rfl) scope
    exact answered (fun _ => .done) made
  | _ => cases asks

end KernelM

theorem Machine.step_undergoes (alone : machine.Alone) {next : Step} {operation : Operation}
    (asks : next.operation? = some operation) (scope : Scope) (depth : Nat) :
    machine.Undergoes (machine.step scope depth next) operation :=
  (KernelM.carryOut_undergoes alone asks scope).retrace _

end PriorityKernel
