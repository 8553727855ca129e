import PriorityKernel.Proofs.Machine.HandleCalls
import PriorityKernel.Proofs.Scheduler.Refusal

namespace PriorityKernel

open Machine

variable {α β : Type} {scope : Scope} {machine : Machine} {id : TaskId} {error : TaskError}

namespace KernelM

theorem critical_answer (calm : machine.Calm) (body : Kernel → Outcome α) (scope : Scope) :
    (critical body scope machine).1 = (body (machine.mask.hold .scheduler).kernel).reply :=
  (masked_answer_mask _ scope machine).trans (congrArg Prod.fst (critical_of_calm scope calm.mask rfl body))

theorem perform_answer (ends : Handover) (scope : Scope) (machine : Machine) :
    (perform ends scope machine).1 = .ok () := by
  cases hooks : machine.agenda.hooks with
  | nil => rw [run_perform_nil hooks]
  | cons script rest =>
    rw [run_perform_cons hooks]
    rfl

/-- A call that may end in a switch answers what it decided, whatever runs during the switch. -/
theorem switching_answer (calm : machine.Calm) (decide : Scheduler → Outcome (Option Handover)) (scope : Scope) :
    (switching decide scope machine).1 = (decide machine.kernel.sched).reply.map fun _ => () := by
  have decided : critical (fun kernel => decide kernel.sched) scope machine.mask =
      ((decide machine.kernel.sched).reply, machine.mask.enter (decide machine.kernel.sched)) :=
    critical_of_calm scope calm.mask rfl fun kernel => decide kernel.sched
  rw [switching, masked_answer]
  cases reply : (decide machine.kernel.sched).reply with
  | error fault =>
    rw [reply] at decided
    exact congrArg Prod.fst (run_bind_of_error decided)
  | ok ends =>
    rw [reply] at decided
    refine (congrArg Prod.fst (run_bind_of_ok decided)).trans ?_
    cases ends with
    | none => rfl
    | some ends => exact perform_answer ends scope _

/-- Putting somebody to sleep who exists is never refused. -/
theorem sleep_answer (calm : machine.Calm) (known : id ∈ machine.kernel.sched.tasks.ids) (scope : Scope) :
    (sleep id scope machine).1 = .ok () := by
  obtain ⟨ends, accepted⟩ := Operation.accepted calm.sound (.sleep id) rfl not_false known
  have answer := switching_answer calm (fun state => state.sleep id) scope
  exact answer.trans (congrArg (·.map fun _ => ()) accepted)

theorem fails_of_answering {call : KernelM α} {answer : α → β} {fault : Fault}
    (failed : ((call >>= fun value => pure (answer value)) scope machine).1 = .error fault) :
    (call scope machine).1 = .error fault := by
  rw [run_answering] at failed
  cases reply : (call scope machine).1 with
  | ok value =>
    rw [reply] at failed
    cases failed
  | error other =>
    rw [reply] at failed
    cases failed
    rfl

/-- The call is refused, and all is as it was, unless something arrived. -/
structure Bounces (error : TaskError) (scope : Scope) (machine : Machine) (call : KernelM α) : Prop where
  answer : (call scope machine).1 = .error (.refused error)
  still : machine.agenda.pending = [] → (call scope machine).2 = machine

theorem Bounces.bind {call : KernelM α} (bounces : Bounces error scope machine call) (next : α → KernelM β) :
    Bounces error scope machine (call >>= next) := by
  have run : (call >>= next) scope machine = (.error (.refused error), (call scope machine).2) :=
    run_bind_of_error (Prod.ext bounces.answer rfl)
  exact ⟨congrArg Prod.fst run, fun none => (congrArg Prod.snd run).trans (bounces.still none)⟩

theorem Bounces.looking {body : Machine → KernelM α} (bounces : Bounces error scope machine (body machine)) :
    Bounces error scope machine (get >>= body) :=
  ⟨bounces.answer, bounces.still⟩

/-- With interrupts off it is refused at once, and then nothing arrives at the end of the section. -/
theorem bounces_masked {call : KernelM α}
    (inside : masked call scope machine.mask = (.error (.refused error), machine.mask)) :
    Bounces error scope machine (masked call) := by
  refine ⟨(masked_answer_mask call scope machine).trans (congrArg Prod.fst inside), fun none => ?_⟩
  rw [masked_of_off rfl] at inside
  exact congrArg Prod.snd (masked_of_undisturbed inside rfl fun _ => none)

theorem critical_refused (calm : machine.Calm) (off : machine.kernel.interrupts = false) {body : Kernel → Outcome α}
    (refused : body (machine.hold .scheduler).kernel = Outcome.refuse error machine.kernel.sched) (scope : Scope) :
    critical body scope machine = (.error (.refused error), machine) := by
  rw [critical_of_calm scope calm off, refused, machine.enter_look rfl rfl rfl]
  rfl

theorem bounces_critical (calm : machine.Calm) {body : Kernel → Outcome α}
    (refused : body (machine.mask.hold .scheduler).kernel = Outcome.refuse error machine.kernel.sched) (scope : Scope) :
    Bounces error scope machine (critical body) :=
  bounces_masked (critical_refused calm.mask rfl refused scope)

theorem bounces_switching (calm : machine.Calm) {decide : Scheduler → Outcome (Option Handover)}
    (refused : decide machine.kernel.sched = Outcome.refuse error machine.kernel.sched) (scope : Scope) :
    Bounces error scope machine (switching decide) := by
  have decided : critical (fun kernel => decide kernel.sched) scope machine.mask =
      (.error (.refused error), machine.mask) := critical_refused calm.mask rfl refused scope
  refine bounces_masked ((masked_of_off rfl _).trans ?_)
  exact run_bind_of_error decided

theorem Bounces.withMemory {call : KernelM α} {short : Bool}
    (bounces : Bounces error scope (machine.shorten short) call) :
    Bounces error scope machine (withMemory short call) := by
  refine ⟨?_, fun none => ?_⟩
  · rw [run_withMemory]
    exact bounces.answer
  · rw [run_withMemory, bounces.still none]
    rfl

/-- The call is not refused. -/
def Unrefused (scope : Scope) (machine : Machine) (call : KernelM α) : Prop :=
  ∀ error, (call scope machine).1 ≠ .error (.refused error)

theorem unrefused_pure (value : α) : Unrefused scope machine (pure value : KernelM α) := nofun

theorem Unrefused.bind {call : KernelM α} {next : α → KernelM β} (first : Unrefused scope machine call)
    (rest : ∀ value after, call scope machine = (.ok value, after) → Unrefused scope after (next value)) :
    Unrefused scope machine (call >>= next) := by
  intro error failed
  rw [run_bind] at failed
  cases run : call scope machine with
  | mk result after =>
    rw [run] at failed
    cases result with
    | error fault =>
      refine first error ?_
      rw [run, Except.error.inj failed]
    | ok value => exact rest value after run error failed

theorem Unrefused.looking {body : Machine → KernelM α} (unrefused : Unrefused scope machine (body machine)) :
    Unrefused scope machine (get >>= body) :=
  unrefused

theorem unrefused_masked {call : KernelM α} (inside : Unrefused scope machine.mask call) :
    Unrefused scope machine (masked call) := by
  intro error
  rw [masked_answer]
  exact inside error

/-- A refusal that is attempted is a result. -/
theorem unrefused_attempt (call : KernelM α) : Unrefused scope machine (attempt call) := by
  intro error
  rw [run_attempt]
  rcases call scope machine with ⟨fault | value, after⟩
  · cases fault <;> nofun
  · nofun

/-- A chain of calls ends with a refusal among its results. -/
theorem unrefused_calls (id : TaskId) (list : List Call) : Unrefused scope machine (calls id list) := by
  induction list generalizing machine with
  | nil => exact unrefused_pure _
  | cons next rest ih =>
    refine (unrefused_attempt (call id next)).bind fun result after _ => ?_
    cases result with
    | error => exact unrefused_pure _
    | ok reply => exact ih.bind fun _ _ _ => unrefused_pure _

end KernelM

end PriorityKernel
