import PriorityKernel.Proofs.Machine.SingleOperations

namespace PriorityKernel

open Machine

variable {α : Type} {scope : Scope} {machine : Machine}

/-- The operation that a call on a task's handle asks for; a snapshot asks for none. -/
def Call.operation? (id : TaskId) (memoryShort : Bool) : Call → Option Operation
  | .prepare short entry argument => some (.prepare (short || memoryShort) id entry argument)
  | .setLevel level => some (.setLevel id level)
  | .wakeup level => some (.wakeup id level)
  | .sleep => some (.sleep id)
  | .send message => some (.send id message)
  | .receive => some (.receive id)
  | .snapshot => none

theorem Call.operation?_addressee {id : TaskId} {memoryShort : Bool} {next : Call} {operation : Operation}
    (asks : next.operation? id memoryShort = some operation) : operation.addressee? = some id := by
  cases next <;> cases asks <;> rfl

/-- The machine while no stack can be reserved, if `short`. -/
def Machine.shorten (machine : Machine) (short : Bool) : Machine :=
  { machine with kernel.memoryShort := short || machine.kernel.memoryShort }

namespace KernelM

theorem run_withMemory (short : Bool) (call : KernelM α) (scope : Scope) (machine : Machine) :
    withMemory short call scope machine = ((call scope (machine.shorten short)).1,
      { (call scope (machine.shorten short)).2 with kernel.memoryShort := machine.kernel.memoryShort }) := by
  simp only [withMemory, run_bind, run_kernel, run_modifyKernel, run_observe, run_resume]
  rfl

/-- A preparation is carried out with the memory that there is, and nothing else of the machine changes. -/
theorem run_prepare (calm : machine.Calm) (undisturbed : machine.Undisturbed) (short : Bool) (id : TaskId)
    (entry : UInt64) (argument : Int64) (scope : Scope) :
    let outcome := machine.kernel.sched.prepare (short || machine.kernel.memoryShort) id entry argument
    withMemory short (prepare id entry argument) scope machine = (outcome.reply, { machine with
      kernel.sched := outcome.next, trace := ((machine.shorten short).mask.enter outcome).trace }) := by
  have calmShort : (machine.shorten short).Calm := ⟨calm.unlocked, calm.sound⟩
  rw [run_withMemory, prepare, run_critical calmShort undisturbed]
  rfl

theorem run_look_at (calm : machine.Calm) (undisturbed : machine.Undisturbed) (id : TaskId) (answer : Task → α)
    (scope : Scope) :
    critical (fun kernel => kernel.sched.withTask id fun task => Outcome.pure (answer task) kernel.sched) scope
      machine = ((machine.kernel.sched.withTask id fun task => Outcome.pure (answer task) machine.kernel.sched).reply,
        machine) := by
  have look : ∀ outcome,
      machine.kernel.sched.withTask id (fun task => Outcome.pure (answer task) machine.kernel.sched) =
      outcome → outcome.next = machine.kernel.sched ∧ outcome.notices = [] ∧ outcome.deeds = [] := by
    rintro _ rfl
    rcases machine.kernel.sched.tasks.absent_or_here id with absent | ⟨task, rfl, here⟩
    · rw [Scheduler.withTask_none absent]
      exact ⟨rfl, rfl, rfl⟩
    · rw [Scheduler.withTask_some here]
      exact ⟨rfl, rfl, rfl⟩
  obtain ⟨same, notices, deeds⟩ := look _ rfl
  exact run_look calm undisturbed same notices deeds scope

theorem call_undergoes (alone : machine.Alone) (id : TaskId) {next : Call} {operation : Operation}
    (asks : next.operation? id machine.kernel.memoryShort = some operation) (scope : Scope) :
    machine.Undergoes (call id next scope machine).2 operation := by
  have answered : ∀ {α : Type} {call : KernelM α} (reply : α → CallReply),
      machine.Undergoes (call scope machine).2 operation →
        machine.Undergoes ((call >>= fun value => pure (reply value)) scope machine).2 operation := by
    intro α call reply made
    rw [run_answering]
    exact made
  cases next with
  | prepare short entry argument =>
    cases asks
    refine answered (fun _ => .done) ?_
    rw [run_prepare alone.toCalm alone.undisturbed]
    exact ⟨machine.kernel.switches, _, rfl⟩
  | setLevel level =>
    cases asks
    exact answered (fun _ => .done) (critical_undergoes alone (·.sched.setLevel id level) (fun _ => rfl) scope)
  | wakeup level =>
    cases asks
    exact answered (fun _ => .done) (critical_undergoes alone (·.sched.wakeup id level) (fun _ => rfl) scope)
  | sleep =>
    cases asks
    exact answered (fun _ => .done) (switching_undergoes alone (·.sleep id) (fun _ => rfl) scope)
  | send message =>
    cases asks
    exact answered (fun _ => .done) (critical_undergoes alone (·.sched.send id message) (fun _ => rfl) scope)
  | receive =>
    cases asks
    exact answered .message (critical_undergoes alone (·.sched.receive id) (fun _ => rfl) scope)
  | snapshot => cases asks

theorem call_sched (alone : machine.Alone) (id : TaskId) (next : Call) (scope : Scope) :
    (call id next scope machine).2.kernel.sched =
      match next.operation? id machine.kernel.memoryShort with
      | some operation => (operation.outcome machine.kernel.sched).next
      | none => machine.kernel.sched := by
  cases asks : next.operation? id machine.kernel.memoryShort with
  | some operation => exact (call_undergoes alone id asks scope).sched
  | none =>
    cases next with
    | snapshot =>
      have looked := run_look_at alone.toCalm alone.undisturbed id Task.snapshot scope
      have same : (call id .snapshot scope machine).2 = (snapshot id scope machine).2 :=
        congrArg Prod.snd (run_answering (snapshot id) CallReply.snapshot scope machine)
      rw [same, snapshot, show critical (·.sched.snapshot id) scope machine = _ from looked]
    | _ => cases asks

end KernelM

end PriorityKernel
