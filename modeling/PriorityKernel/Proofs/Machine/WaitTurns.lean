import PriorityKernel.Proofs.Machine.Taking
import PriorityKernel.Proofs.Scheduler.Repeating

namespace PriorityKernel

open Machine

variable {machine : Machine} {scope : Scope} {id : TaskId}

namespace Machine

theorem operate_vain {operation : Operation} (vain : operation.Vain machine.kernel.sched) :
    ∃ trace, (machine.mask.operate operation).flag machine.kernel.interrupts = { machine with trace } := by
  obtain ⟨notices, made⟩ := vain
  have stayed : machine.mask.operate operation = machine.mask.enter (operation.outcome machine.kernel.sched) :=
    operate_of_stayed fun ends goes => by cases (congrArg Outcome.reply made).symm.trans goes
  rw [stayed, made]
  exact ⟨_, rfl⟩

theorem operate_look {operation : Operation}
    (looks : operation.outcome machine.kernel.sched = Outcome.pure none machine.kernel.sched) :
    (machine.mask.operate operation).flag machine.kernel.interrupts = machine := by
  have stayed : machine.mask.operate operation = machine.mask.enter (operation.outcome machine.kernel.sched) :=
    operate_of_stayed fun ends goes => by cases (congrArg Outcome.reply looks).symm.trans goes
  rw [stayed, looks, enter_look _ rfl rfl rfl]
  rfl

theorem operate_switches (machine : Machine) (operation : Operation) :
    (machine.operate operation).kernel.switches ≤ machine.kernel.switches + 1 := by
  unfold operate
  dsimp only
  split
  · exact Nat.le_refl _
  · exact Nat.le_succ _

end Machine

namespace KernelM

/-- Whoever has messages takes the oldest one, and of the kernel only the task's own record changes. -/
theorem run_waitTurn_waiting (calm : machine.Calm) (undisturbed : machine.Undisturbed) {task : Task}
    (here : machine.kernel.sched.tasks.get? task.id = some task) {message : Message} {rest : List Message}
    (waits : task.messages = message :: rest) (scope : Scope) : ∃ trace, waitTurn task.id scope machine =
      (.ok (some message), { machine with kernel.sched := machine.kernel.sched.repost task rest, trace }) := by
  have received : machine.kernel.sched.receive task.id =
      ⟨.ok (some message), machine.kernel.sched.repost task rest, [], [.taken task.id message]⟩ := by
    rw [Scheduler.receive_eq here, waits]
  have turn := @waitTurn_of_waiting scope machine task.id message calm rest
    ((Scheduler.mailbox_of_get? here).trans waits)
  have ended := close_of_undisturbed (machine.mask.enter (machine.kernel.sched.receive task.id)) rfl undisturbed scope
  rw [Machine.conclude, ended, received] at turn
  exact ⟨_, turn⟩

theorem run_waitTurn_empty (alone : machine.Alone) {task : Task}
    (here : machine.kernel.sched.tasks.get? task.id = some task) (empty : task.messages = []) (scope : Scope) :
    waitTurn task.id scope machine =
      (.ok none, (machine.mask.operate (.sleep task.id)).flag machine.kernel.interrupts) := by
  have decided : sleep task.id scope machine.mask = (_, machine.mask.operate (.sleep task.id)) :=
    @run_decision machine.mask alone.mask rfl alone.hookless (fun state => state.sleep task.id) (.sleep task.id)
      (fun _ => rfl) scope
  have left : (sleep task.id scope machine.mask).2 = machine.mask.operate (.sleep task.id) := congrArg Prod.snd decided
  have agenda : (machine.mask.operate (.sleep task.id)).agenda = machine.agenda := by rw [operate_eq]; rfl
  have ended := close_of_undisturbed _ (machine.operate_off (.sleep task.id))
    (fun on => agenda ▸ alone.undisturbed on) scope
  have turn := @waitTurn_of_empty scope machine task.id alone.toCalm ((Scheduler.mailbox_of_get? here).trans empty)
  rw [sleep_answer alone.mask (TaskTable.mem_ids_iff.mpr ⟨task, here⟩), Machine.doze, left, ended] at turn
  exact turn

end KernelM

end PriorityKernel
