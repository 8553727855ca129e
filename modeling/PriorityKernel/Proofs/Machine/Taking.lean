import PriorityKernel.Proofs.Machine.Answers
import PriorityKernel.Proofs.Scheduler.Awake

namespace PriorityKernel

open Machine

variable {α : Type} {scope : Scope} {machine : Machine} {id : TaskId}

/-! ### The end of a section -/

namespace Machine

/-- The machine when a section ends that found the interrupt flag like that. -/
def close (scope : Scope) (enabled : Bool) (inside : Machine) : Machine :=
  if enabled then (KernelM.enable scope inside).2 else inside

/-- The machine when a critical section of the scheduler has ended, and whatever arrives then. -/
def conclude (scope : Scope) (machine : Machine) (outcome : Outcome α) : Machine :=
  (machine.mask.enter outcome).close scope machine.kernel.interrupts

/-- The machine when a turn of waiting has ended in which the task was put to sleep. -/
def doze (scope : Scope) (machine : Machine) (id : TaskId) : Machine :=
  (KernelM.sleep id scope machine.mask).2.close scope machine.kernel.interrupts

end Machine

namespace KernelM

/-- A masked section is its body, and then what arrives. -/
theorem masked_close {call : KernelM α} {result : Except Fault α} {inside : Machine}
    (run : call scope machine.mask = (result, inside))
    (returns : ∀ fault, result = .error fault → fault.unwinds = false) :
    masked call scope machine = (result, inside.close scope machine.kernel.interrupts) := by
  cases on : machine.kernel.interrupts with
  | false =>
    rw [mask_of_off on] at run
    rw [masked_of_off on, run]
    rfl
  | true =>
    have restored : KernelM.unmask (call scope machine.mask).1 scope (call scope machine.mask).2 =
        (.ok (), inside.close scope true) := by
      rw [run]
      have enables : KernelM.unmask result = enable := by
        cases result with
        | ok => rfl
        | error fault => exact if_neg (by rw [returns fault rfl]; exact Bool.false_ne_true)
      obtain ⟨after, arrived⟩ := unmask_ok result scope inside
      rw [enables] at arrived
      show KernelM.unmask result scope inside = _
      rw [enables, arrived, Machine.close, if_pos rfl, arrived]
    rw [masked_of_on on call restored, run]

/-- If nothing can arrive, a section just ends. -/
theorem close_of_undisturbed {enabled : Bool} (inside : Machine) (off : inside.kernel.interrupts = false)
    (quiet : enabled = true → inside.agenda.pending = []) (scope : Scope) :
    inside.close scope enabled = inside.flag enabled := by
  cases enabled with
  | false => exact (mask_of_off off).symm
  | true =>
    have ended : KernelM.unmask (.ok ()) scope inside = (.ok (), inside.unmask) := unmask_of_none (quiet rfl) scope
    exact congrArg Prod.snd ended

/-- A critical section answers what its operation answers, and then whatever waits arrives. -/
theorem critical_close (calm : machine.Calm) (body : Kernel → Outcome α)
    (returns : ∀ fault, (body (machine.mask.hold .scheduler).kernel).reply = .error fault → fault.unwinds = false) :
    critical body scope machine = ((body (machine.mask.hold .scheduler).kernel).reply,
      machine.conclude scope (body (machine.mask.hold .scheduler).kernel)) := by
  have inside := critical_of_calm scope calm.mask rfl body
  rw [critical, holding, masked_of_off rfl] at inside
  exact masked_close inside returns

end KernelM

/-! ### Sending and taking -/

namespace Machine

/-- A message goes to the back of a mailbox, and that is on record. -/
structure Sends (scope : Scope) (id : TaskId) (message : Message) (start after : Machine) : Prop where
  newest : (start.kernel.sched.send id message).next.mailbox id = start.kernel.sched.mailbox id ++ [message]
  recorded : (start.kernel.sched.send id message).deeds = [.sent id message]
  left : after = start.conclude scope (start.kernel.sched.send id message)

/-- The oldest message is taken from a mailbox, and that is on record. -/
structure Takes (scope : Scope) (id : TaskId) (message : Message) (start after : Machine) : Prop where
  oldest : start.kernel.sched.mailbox id = message :: (start.kernel.sched.receive id).next.mailbox id
  recorded : (start.kernel.sched.receive id).deeds = [.taken id message]
  left : after = start.conclude scope (start.kernel.sched.receive id)

/-- A task waits. While there is no message for it, nothing is taken from it, and it is put to sleep; the first
one that it finds it takes, and the wait is over. Without a message the wait can only be given up. -/
inductive Awaits (scope : Scope) (id : TaskId) : Option Message → Machine → Machine → Prop
  | took {message : Message} {start after : Machine} (takes : Takes scope id message start after) :
      Awaits scope id (some message) start after
  | gaveUp (start : Machine) : Awaits scope id none start start
  | dozed {message? : Option Message} {start after : Machine} (empty : start.kernel.sched.mailbox id = [])
      (later : Awaits scope id message? (start.doze scope id) after) : Awaits scope id message? start after

theorem takes_of_waiting {message : Message} {rest : List Message}
    (waits : machine.kernel.sched.mailbox id = message :: rest) :
    Takes scope id message machine (machine.conclude scope (machine.kernel.sched.receive id)) := by
  obtain ⟨next, received, left, _⟩ := Scheduler.receive_waiting waits
  refine ⟨?_, congrArg Outcome.deeds received, rfl⟩
  rw [received, waits, left]

end Machine

namespace KernelM

variable {message : Message} {after : Machine}

/-- A sender is told of success exactly if its message was put in the mailbox. -/
theorem send_iff (calm : machine.Calm) (message : Message) :
    send id message scope machine = (.ok (), after) ↔ Sends scope id message machine after := by
  rcases calm.sound.send_awakens id message with ⟨_, reply, deeds, queued, _⟩ | ⟨_, refused⟩
  · have run : send id message scope machine =
        ((machine.kernel.sched.send id message).reply, machine.conclude scope (machine.kernel.sched.send id message)) :=
      critical_close calm (fun kernel => kernel.sched.send id message) fun _ failed =>
        absurd (reply.symm.trans failed) nofun
    rw [reply] at run
    constructor
    · intro sent
      cases run.symm.trans sent
      exact ⟨queued, deeds, rfl⟩
    · rintro ⟨_, _, rfl⟩
      exact run
  · have answer : (send id message scope machine).1 = .error (.refused (.noSuchTask id)) :=
      (critical_answer calm (fun kernel => kernel.sched.send id message) scope).trans (congrArg Outcome.reply refused)
    constructor
    · intro sent
      rw [sent] at answer
      cases answer
    · intro sends
      have recorded := sends.recorded
      rw [refused] at recorded
      cases recorded

/-- A receiver is given a message exactly if that was taken from the front of the mailbox. -/
theorem receive_iff (calm : machine.Calm) :
    receive id scope machine = (.ok (some message), after) ↔ Takes scope id message machine after := by
  cases waits : machine.kernel.sched.mailbox id with
  | nil =>
    have answer : (receive id scope machine).1 = (machine.kernel.sched.receive id).reply :=
      critical_answer calm (fun kernel => kernel.sched.receive id) scope
    constructor
    · intro received
      rw [received] at answer
      rcases Scheduler.receive_empty waits with none | refused
      · rw [none] at answer
        cases answer
      · rw [refused] at answer
        cases answer
    · intro takes
      cases waits.symm.trans takes.oldest
  | cons first rest =>
    obtain ⟨next, received, _⟩ := Scheduler.receive_waiting waits
    have reply : (machine.kernel.sched.receive id).reply = .ok (some first) := congrArg Outcome.reply received
    have run : receive id scope machine =
        ((machine.kernel.sched.receive id).reply, machine.conclude scope (machine.kernel.sched.receive id)) :=
      critical_close calm (fun kernel => kernel.sched.receive id) fun _ failed =>
        absurd (reply.symm.trans failed) nofun
    rw [reply] at run
    constructor
    · intro given
      cases run.symm.trans given
      exact takes_of_waiting waits
    · intro takes
      cases (List.cons.inj (waits.symm.trans takes.oldest)).1
      rw [takes.left]
      exact run

/-! ### Waiting -/

theorem receive_masked (calm : machine.Calm) (id : TaskId) (scope : Scope) : receive id scope machine.mask =
    ((machine.kernel.sched.receive id).reply, machine.mask.enter (machine.kernel.sched.receive id)) :=
  critical_of_calm scope calm.mask rfl fun kernel => kernel.sched.receive id

theorem waitTurn_of_waiting (calm : machine.Calm) {rest : List Message}
    (waits : machine.kernel.sched.mailbox id = message :: rest) :
    waitTurn id scope machine = (.ok (some message), machine.conclude scope (machine.kernel.sched.receive id)) := by
  obtain ⟨next, received, _⟩ := Scheduler.receive_waiting waits
  have took := receive_masked calm id scope
  rw [congrArg Outcome.reply received] at took
  exact masked_close (run_bind_of_ok took) nofun

theorem waitTurn_of_empty (calm : machine.Calm) (empty : machine.kernel.sched.mailbox id = []) :
    waitTurn id scope machine = ((sleep id scope machine.mask).1.map fun _ => none, machine.doze scope id) := by
  rcases machine.kernel.sched.tasks.absent_or_here id with absent | ⟨task, rfl, here⟩
  · -- Whoever does not exist is refused a message as it would be refused its sleep.
    have unseen : receive id scope machine.mask = (.error (.refused (.noSuchTask id)), machine.mask) :=
      critical_refused calm.mask rfl (Scheduler.withTask_none absent) scope
    have refused : machine.kernel.sched.sleep id = Outcome.refuse (.noSuchTask id) machine.kernel.sched :=
      Operation.outcome_of_absent calm.sound (rfl : (Operation.sleep id).addressee? = some id) absent
    have decided : critical (fun kernel => kernel.sched.sleep id) scope machine.mask =
        (.error (.refused (.noSuchTask id)), machine.mask) := critical_refused calm.mask rfl refused scope
    have unslept : sleep id scope machine.mask = (.error (.refused (.noSuchTask id)), machine.mask) :=
      (masked_of_off rfl _).trans (run_bind_of_error decided)
    rw [Machine.doze, unslept]
    refine masked_close (run_bind_of_error unseen) fun fault failed => ?_
    cases failed
    rfl
  · have lazy : machine.kernel.sched.receive task.id = Outcome.pure none machine.kernel.sched := by
      rw [Scheduler.receive_eq here, (Scheduler.mailbox_of_get? here).symm.trans empty]
    have slept : (sleep task.id scope machine.mask).1 = .ok () :=
      sleep_answer calm.mask (TaskTable.mem_ids_iff.mpr ⟨task, here⟩) scope
    have looked := receive_masked calm task.id scope
    rw [lazy, enter_look _ rfl rfl rfl] at looked
    have dozed : (sleep task.id >>= fun _ => pure (none : Option Message)) scope machine.mask =
        (.ok none, (sleep task.id scope machine.mask).2) := by
      rw [run_answering (sleep task.id) (fun _ => none), slept]
      rfl
    rw [slept]
    exact masked_close ((run_bind_of_ok looked).trans dozed) nofun

/-- Whatever runs while a task waits, the wait hands on the message that it took, and takes no other. -/
theorem waitTurns_awaits (nested : scope.Obeys (fun _ _ => True) fun _ => True)
    (steady : machine.Steady fun _ => True) (turns : Nat) :
    Awaits scope id (waitTurns id turns scope machine).1.toOption machine (waitTurns id turns scope machine).2 := by
  induction turns generalizing machine with
  | zero => exact .gaveUp machine
  | succ turns ih =>
    rw [waitTurns, run_bind_of_ok (run_get scope machine)]
    cases waits : machine.kernel.sched.mailbox id with
    | cons message rest =>
      rw [run_bind_of_ok (waitTurn_of_waiting steady.toCalm waits)]
      exact .took (takes_of_waiting waits)
    | nil =>
      have run := @waitTurn_of_empty scope machine id steady.toCalm waits
      have left := (obeys_waitTurn id (fun _ _ _ _ => trivial) scope machine nested steady).steady
      rw [run] at left
      cases slept : (sleep id scope machine.mask).1 with
      | error fault =>
        rw [slept] at run
        rw [run_bind_of_error run]
        exact .dozed waits (.gaveUp _)
      | ok =>
        rw [slept] at run
        rw [run_bind_of_ok run]
        dsimp only
        rw [run_bind_of_ok (run_get scope _)]
        split
        · exact .dozed waits (.gaveUp _)
        · exact .dozed waits (ih left)

/-- A turn of the event loop dispatches the message that it took. -/
theorem loopTurn_of_waiting (calm : machine.Calm) {rest : List Message}
    (waits : machine.kernel.sched.mailbox TaskId.eventLoop = message :: rest) (handler : Handler) :
    ∃ taken, Takes scope TaskId.eventLoop message machine taken ∧
      (loopTurn handler scope machine).2 =
        (dispatch handler message scope (taken.record (.answered (.begun message)))).2 := by
  refine ⟨_, takes_of_waiting waits, ?_⟩
  rw [run_loopTurn handler (waitTurn_of_waiting calm waits)]
  split
  all_goals
    next ended => rw [ended]

theorem loopTurn_of_none {after : Machine} (handler : Handler)
    (run : waitTurn TaskId.eventLoop scope machine = (.ok none, after)) :
    loopTurn handler scope machine = (.ok ⟨.ok false, 0⟩, after) := by
  rw [loopTurn, run_bind_of_ok (attempt_of_ok run)]
  rfl

theorem loopTurn_of_empty (calm : machine.Calm) (empty : machine.kernel.sched.mailbox TaskId.eventLoop = [])
    (handler : Handler) :
    loopTurn handler scope machine = (.ok ⟨.ok false, 0⟩, machine.doze scope TaskId.eventLoop) := by
  have run := @waitTurn_of_empty scope machine TaskId.eventLoop calm empty
  rw [sleep_answer calm.mask (TaskTable.mem_ids_iff.mpr calm.sound.event_loop_task)] at run
  exact loopTurn_of_none handler run

theorem answering_iff {β : Type} {call : KernelM α} {answer : α → β} (apart : answer.Injective) {value : α} :
    (call >>= fun value => pure (answer value)) scope machine = (.ok (answer value), after) ↔
      call scope machine = (.ok value, after) := by
  rw [run_answering]
  obtain ⟨result, last⟩ := call scope machine
  rcases result with fault | other
  · exact ⟨nofun, nofun⟩
  · constructor
    · intro same
      obtain ⟨told, rfl⟩ := Prod.mk.inj same
      rw [apart (Except.ok.inj told)]
    · rintro ⟨⟩
      rfl

end KernelM

/-! ### What is told -/

/-- Whoever sends or takes on a machine is told what is on record: in a call of its own, on a handle, or by the
reply of a step. A wait hands on the message that it took, and a turn of the event loop dispatches it. -/
structure Machine.Accounts (scope : Scope) (start : Machine) : Prop where
  sends : ∀ id message after,
    (KernelM.send id message scope start = (.ok (), after) ↔ Sends scope id message start after) ∧
    (KernelM.call id (.send message) scope start = (.ok .done, after) ↔ Sends scope id message start after) ∧
    (KernelM.carryOut (.send id message) scope start = (.ok .done, after) ↔ Sends scope id message start after)
  receives : ∀ id message after,
    (KernelM.receive id scope start = (.ok (some message), after) ↔ Takes scope id message start after) ∧
    (KernelM.call id .receive scope start = (.ok (.message (some message)), after) ↔
      Takes scope id message start after) ∧
    (KernelM.carryOut (.receive id) scope start = (.ok (.message (some message)), after) ↔
      Takes scope id message start after)
  waits : ∀ id,
    Awaits scope id (KernelM.wait id scope start).1.toOption start (KernelM.wait id scope start).2 ∧
    KernelM.carryOut (.wait id) scope start =
      ((KernelM.wait id scope start).1.map fun message => .message (some message), (KernelM.wait id scope start).2)
  dispatches : ∀ handler message rest, start.kernel.sched.mailbox TaskId.eventLoop = message :: rest →
    ∃ taken, Takes scope TaskId.eventLoop message start taken ∧
      (KernelM.loopTurn handler scope start).2 =
        (KernelM.dispatch handler message scope (taken.record (.answered (.begun message)))).2
  idles : ∀ handler, start.kernel.sched.mailbox TaskId.eventLoop = [] →
    KernelM.loopTurn handler scope start = (.ok ⟨.ok false, 0⟩, start.doze scope TaskId.eventLoop)

theorem Machine.Steady.accounts (steady : machine.Steady fun _ => True)
    (nested : scope.Obeys (fun _ _ => True) fun _ => True) : machine.Accounts scope where
  sends := by
    intro id message after
    have sends := @KernelM.send_iff scope machine id after steady.toCalm message
    have alike : ∀ {β : Type} (reply : β), Function.Injective fun _ : Unit => reply := fun _ _ _ _ => rfl
    exact ⟨sends, (KernelM.answering_iff (alike CallReply.done)).trans sends,
      (KernelM.answering_iff (alike Reply.done)).trans sends⟩
  receives := by
    intro id message after
    have takes := @KernelM.receive_iff scope machine id message after steady.toCalm
    exact ⟨takes, (KernelM.answering_iff fun _ _ => CallReply.message.inj).trans takes,
      (KernelM.answering_iff fun _ _ => Reply.message.inj).trans takes⟩
  waits := fun id => ⟨KernelM.waitTurns_awaits nested steady _,
    KernelM.run_answering (KernelM.wait id) _ scope machine⟩
  dispatches := fun handler _ _ waits => KernelM.loopTurn_of_waiting steady.toCalm waits handler
  idles := fun handler empty => KernelM.loopTurn_of_empty steady.toCalm empty handler

end PriorityKernel
