import PriorityKernel.Machine.Run
import PriorityKernel.Proofs.Machine.Section
import PriorityKernel.Proofs.Scheduler.Effect
import PriorityKernel.Proofs.Scheduler.Mailbox

namespace PriorityKernel

/-! ### Scripts of permitted steps -/

mutual

/-- Every step of a script, at any depth, is one of those allowed. -/
def Step.Within (allowed : Step → Prop) : Step → Prop
  | .hook script => allowed (.hook script) ∧ scriptWithin allowed script
  | .raise script => allowed (.raise script) ∧ scriptWithin allowed script
  | .react kind script => allowed (.react kind script) ∧ scriptWithin allowed script
  | .timerInterrupt times script => allowed (.timerInterrupt times script) ∧ scriptWithin allowed script
  | step => allowed step

def scriptWithin (allowed : Step → Prop) : List Step → Prop
  | [] => True
  | step :: rest => step.Within allowed ∧ scriptWithin allowed rest

end

theorem Step.Within.allowed {allowed : Step → Prop} {step : Step} (within : step.Within allowed) : allowed step := by
  cases step <;> first | exact within | exact within.1

theorem scriptWithin_iff {allowed : Step → Prop} {script : Script} :
    scriptWithin allowed script ↔ ∀ step ∈ script, step.Within allowed := by
  induction script with
  | nil => simp [scriptWithin]
  | cons step rest ih => simp [scriptWithin, ih]

mutual

theorem Step.within_all : ∀ step : Step, step.Within fun _ => True
  | .hook script => ⟨trivial, scriptWithin_all script⟩
  | .raise script => ⟨trivial, scriptWithin_all script⟩
  | .react _ script => ⟨trivial, scriptWithin_all script⟩
  | .timerInterrupt _ script => ⟨trivial, scriptWithin_all script⟩
  | .create _ | .handle .. | .current | .setLevel .. | .wakeup .. | .sleep _ | .switch _ | .send .. | .receive _
  | .wait _ | .queue _ | .snapshot _ | .overview | .disableInterrupts | .enableInterrupts | .addTimer _ | .tick _
  | .deviceInterrupt | .loop .. | .dispatch .. | .forever _ | .keys _ | .poll | .keyboardInit | .demo _ => trivial

theorem scriptWithin_all : ∀ script : List Step, scriptWithin (fun _ => True) script
  | [] => trivial
  | step :: rest => ⟨step.within_all, scriptWithin_all rest⟩

end

/-- Whether an operation puts a task to sleep at once, whatever waits for the task. -/
def Operation.Naps : Operation → Prop
  | .sleep _ => True
  | .switch sleeping => sleeping = true
  | .create | .prepare .. | .receive _ | .send .. | .wakeup .. | .setLevel .. => False

/-- Whether a step asks for such an operation itself. Waiting for a message does not. -/
def Step.Naps : Step → Prop
  | .create calls | .handle _ calls => Call.sleep ∈ calls
  | .sleep _ => True
  | .switch sleeping => sleeping = true
  | _ => False

/-- Whether a step takes messages of the event loop's task in place of the event loop. A task that the
step creates is another one. -/
def Step.Collects : Step → Prop
  | .receive id | .wait id => id = TaskId.eventLoop
  | .handle id calls => id = TaskId.eventLoop ∧ Call.receive ∈ calls
  | _ => False

/-- Whether a step sets the interrupt flag itself. -/
def Step.Flags : Step → Prop
  | .disableInterrupts | .enableInterrupts => True
  | _ => False

/-- Whether a step brings something in: a message that it hands to the event loop directly, or a timer. -/
def Step.Brings : Step → Prop
  | .dispatch .. | .addTimer _ => True
  | _ => False

/-- Whether a step lets the event loop take turns. -/
def Step.Turns (handler : Handler) : Step → Prop
  | .loop _ other | .forever other => other = handler
  | _ => False

/-- Every script set aside holds only steps that are allowed. -/
structure Agenda.Within (allowed : Step → Prop) (agenda : Agenda) : Prop where
  hooks : ∀ script ∈ agenda.hooks, scriptWithin allowed script
  pending : ∀ script ∈ agenda.pending, scriptWithin allowed script
  reactions : ∀ entry ∈ agenda.reactions, scriptWithin allowed entry.2

theorem Agenda.Within.popReaction {allowed : Step → Prop} {agenda left : Agenda} {kind : HandlerKind}
    {script : Script}
    (within : agenda.Within allowed) (popped : agenda.popReaction? kind = some (script, left)) :
    scriptWithin allowed script ∧ left.Within allowed ∧ left.pending = agenda.pending := by
  unfold Agenda.popReaction? at popped
  split at popped
  · cases popped
  · next found =>
    cases popped
    refine ⟨within.reactions _ (List.mem_of_find?_eq_some found), ⟨within.hooks, within.pending, ?_⟩, rfl⟩
    exact fun entry member => within.reactions entry (List.mem_of_mem_eraseP member)

/-! ### Machines between calls -/

/-- A machine outside of every critical section. -/
structure Machine.Calm (machine : Machine) : Prop where
  unlocked : machine.kernel.locks = []
  sound : machine.kernel.sched.Sound

/-- A machine on which scripts of allowed steps may run. -/
structure Machine.Steady (allowed : Step → Prop) (machine : Machine) : Prop extends machine.Calm where
  agenda : machine.agenda.Within allowed

/-- Only devices and memory may differ. -/
structure Kernel.Alike (before after : Kernel) : Prop where
  sched : after.sched = before.sched
  timers : after.timers = before.timers
  interrupts : after.interrupts = before.interrupts
  locks : after.locks = before.locks
  switches : after.switches = before.switches

/-- Only devices, memory, and scripts set aside may differ. -/
structure Machine.Quiet (before after : Machine) : Prop where
  core : after.core = before.core
  filter : after.filter = before.filter
  trace : after.trace = before.trace
  kernel : before.kernel.Alike after.kernel
  /-- Interrupts may be raised, and none arrives. -/
  pending : before.agenda.pending <+: after.agenda.pending

namespace Machine

variable (machine : Machine)

/-- The machine after a switch to another task. -/
def handOver (ends : Handover) : Machine :=
  { machine with kernel.switches := machine.kernel.switches + 1 }.record (.switched ends)

/-- The machine after an operation of the scheduler and the switch that it decides on. -/
def operate (operation : Operation) : Machine :=
  let outcome := operation.outcome machine.kernel.sched
  match outcome.reply with
  | .ok (some ends) => (machine.enter outcome).handOver ends
  | _ => machine.enter outcome

/-- The machine when the first pending interrupt has arrived. -/
def arrive (rest : List Script) : Machine :=
  { { machine with agenda.pending := rest }.mask.record .interrupted with started := machine.started + 1 }

/-- The machine after the event loop was told that a timer came due. -/
def post (timer : Timer) : Machine :=
  machine.enter (machine.kernel.sched.send TaskId.eventLoop
    ⟨TaskId.kernel, .timerTimeout timer.timeout timer.value⟩)

/-- The machine inside of a tick, when everything that is due has been taken out. -/
def advance : Machine := { machine with kernel.timers := machine.kernel.timers.tick.queue }.hold .timers

/-- The machine after a tick of the clock. -/
def ticked : Machine := (machine.kernel.timers.tick.expired.foldl post machine.advance).release .timers

end Machine

/-- Faults that a sound scheduler with disciplined locks never gives rise to. -/
def Fault.Excluded (fault : Fault) : Prop := fault = .deadlock ∨ fault = .panic .emptyReadyQueue

instance (fault : Fault) : Decidable fault.Excluded := inferInstanceAs (Decidable (_ ∨ _))

theorem Fault.ordinary_of_refused {fault : Fault} (refused : ∃ error, fault = .refused error) : ¬fault.Excluded := by
  obtain ⟨error, rfl⟩ := refused
  rintro (impossible | impossible) <;> cases impossible

/-- What is sure about the reply of a step. -/
structure Step.Answers (step : Step) (reply : Except Fault Reply) : Prop where
  ordinary : ∀ fault, reply = .error fault → ¬fault.Excluded
  /-- Whoever asks for an overview is shown who executes: the scheduler is not locked. -/
  shown : step = .overview → ∃ overview id, reply = .ok (.overview overview) ∧ overview.current = some id

/-- Events that are recorded between critical sections. -/
def Event.Outside : Event → Prop
  | .handled _ | .acknowledged | .answered _ => True
  | .finished _ step reply => step.Answers reply
  | .logged _ | .switched _ | .interrupted | .did _ => False

/-- Those of them that are recorded inside of a step, and settle nothing. -/
def Event.Passing : Event → Prop
  | .handled _ | .acknowledged | .answered (.begun _) => True
  | .answered _ | .finished .. | .logged _ | .switched _ | .interrupted | .did _ => False

/-! ### Laws -/

/-- A relation between the machine before a call and the machine after it. -/
abbrev Law := Machine → Machine → Prop

/-- What a law has to bear of sections and of what arrives in between. -/
class Law.Framed (law : Law) : Prop where
  refl : ∀ machine, law machine machine
  trans : ∀ {first second third}, law first second → law second third → law first third
  quiet : ∀ {before after}, before.Quiet after → law before after
  /-- A masked section that found interrupts enabled. -/
  masked : ∀ {before after : Machine}, before.kernel.interrupts = true → law before.mask after →
    law before after.unmask
  /-- A pending interrupt and the script of its body. -/
  arrived : ∀ {before after : Machine} {script rest}, before.Calm → before.kernel.interrupts = true →
    before.agenda.pending = script :: rest → law (before.arrive rest) after → law before after.unmask
  wrote : ∀ {machine : Machine} (notice), machine.Calm → machine.kernel.interrupts = false →
    law machine (machine.write notice)

/-- What a law has to bear whatever the call. -/
class Law.Closed (law : Law) : Prop extends law.Framed where
  noted : ∀ {machine : Machine} {event : Event}, machine.Calm → event.Passing → law machine (machine.record event)

/-- The law bears an operation of the scheduler. -/
def Law.Grants (law : Law) (operation : Operation) : Prop :=
  ∀ machine : Machine, machine.Calm → machine.kernel.interrupts = false → law machine (machine.operate operation)

/-- Every event between critical sections is fine with the law. -/
def Law.Records (law : Law) : Prop :=
  ∀ {machine : Machine} {event : Event}, machine.Calm → event.Outside → law machine (machine.record event)

/-- The law bears whatever a script can ask for. -/
class Law.Total (law : Law) : Prop extends law.Framed where
  noted : law.Records
  granted : ∀ operation, law.Grants operation
  added : ∀ {machine : Machine} (timer), machine.Calm →
    law machine { machine with kernel.timers := machine.kernel.timers.add timer }
  ticked : ∀ {machine : Machine}, machine.Calm → machine.kernel.interrupts = false → law machine machine.ticked
  flagged : ∀ {machine : Machine} (enabled), machine.Calm →
    law machine { machine with kernel.interrupts := enabled }

/-- The law bears what calls ask for in scripts of allowed steps, new timers and the turns of the event loop
apart. -/
class Law.Conveys (law : Law) (allowed : Step → Prop) : Prop extends law.Closed where
  granted : ∀ {operation : Operation}, ¬operation.Naps → operation ≠ .receive TaskId.eventLoop →
    law.Grants operation
  /-- A task goes to sleep for which no message waits. -/
  dozed : ∀ {machine : Machine} (id), machine.Calm → machine.kernel.interrupts = false →
    machine.kernel.sched.mailbox id = [] → law machine (machine.operate (.sleep id))
  /-- If scripts may put tasks to sleep, the law bears it. -/
  napped : ∀ {step : Step}, allowed step → step.Naps →
    ∀ {operation : Operation}, operation.Naps → law.Grants operation
  /-- If scripts may take messages of the event loop's task, the law bears it. -/
  collected : ∀ {step : Step}, allowed step → step.Collects → law.Grants (.receive TaskId.eventLoop)
  ticked : ∀ {machine : Machine}, machine.Calm → machine.kernel.interrupts = false → law machine machine.ticked
  /-- If scripts may set the interrupt flag, the law bears it. -/
  flagged : ∀ {step : Step}, allowed step → step.Flags → ∀ {machine : Machine} (enabled), machine.Calm →
    law machine { machine with kernel.interrupts := enabled }

/-- The law bears new timers as well, also those that the kernel's handler arms again. -/
class Law.Carries (law : Law) (allowed : Step → Prop) : Prop extends law.Conveys allowed where
  added : ∀ {machine : Machine} (timer), machine.Calm →
    law machine { machine with kernel.timers := machine.kernel.timers.add timer }

theorem Law.Conveys.grants_receive {law : Law} {allowed : Step → Prop} (conveys : law.Conveys allowed) (id : TaskId)
    (own : id = TaskId.eventLoop → law.Grants (.receive TaskId.eventLoop)) : law.Grants (.receive id) := by
  by_cases same : id = TaskId.eventLoop
  · rw [same]
    exact own same
  · exact conveys.granted not_false fun collects => same (Operation.receive.inj collects)

/-- A law that bears every operation but the taking of the event loop's messages bears scripts that do not ask
for that. -/
theorem Law.Closed.conveys {law : Law} {allowed : Step → Prop} (closed : law.Closed)
    (spared : ∀ step, allowed step → ¬step.Collects)
    (operated : ∀ operation : Operation, operation ≠ .receive TaskId.eventLoop → law.Grants operation)
    (ticked : ∀ {machine : Machine}, machine.Calm → machine.kernel.interrupts = false →
      law machine machine.ticked)
    (flagged : ∀ {machine : Machine} (enabled), machine.Calm →
      law machine { machine with kernel.interrupts := enabled }) : law.Conveys allowed where
  toClosed := closed
  granted := fun _ other => operated _ other
  dozed := fun id calm off _ => operated (.sleep id) nofun _ calm off
  napped := by
    intro _ _ _ operation naps
    refine operated operation ?_
    rintro rfl
    exact naps
  collected := fun own collects => absurd collects (spared _ own)
  ticked := ticked
  flagged := fun _ _ => flagged

/-- Scripts that run inside of a call keep the law. -/
def Scope.Obeys (law : Law) (allowed : Step → Prop) (scope : Scope) : Prop :=
  ∀ script machine, scriptWithin allowed script → machine.Steady allowed →
    law machine (scope.nest script machine) ∧ (scope.nest script machine).Steady allowed

namespace KernelM

variable {α β : Type}

/-- What becomes of a call on one machine: the law holds from start to end, the machine is ready for
the next call, and no excluded fault ends the call. -/
structure ObeysAt (law : Law) (allowed : Step → Prop) (scope : Scope) (machine : Machine) (call : KernelM α) :
    Prop where
  law : law machine (call scope machine).2
  steady : (call scope machine).2.Steady allowed
  fault : ∀ fault, (call scope machine).1 = .error fault → ¬fault.Excluded

/-- The call keeps the law wherever scripts keep it. -/
def Obeys (law : Law) (allowed : Step → Prop) (call : KernelM α) : Prop :=
  ∀ scope machine, scope.Obeys law allowed → machine.Steady allowed → ObeysAt law allowed scope machine call

end KernelM

/-- The law bears whatever a script of allowed steps can ask for. A turn of the event loop, and a step that
brings something in, may keep the law as a whole without each of its parts doing so. -/
class Law.Bears (law : Law) (allowed : Step → Prop) : Prop extends law.Conveys allowed where
  ended : ∀ {machine : Machine} {step : Step} {reply} (depth), machine.Calm → ¬step.Brings →
    step.Answers reply →
    law machine (machine.record (.finished depth step reply))
  turned : ∀ {step : Step} {handler : Handler}, allowed step → step.Turns handler →
    KernelM.Obeys law allowed (KernelM.loopTurn handler)
  brought : ∀ {step : Step} {scope : Scope} {machine : Machine} (depth), allowed step → step.Brings →
    scope.Obeys law allowed → machine.Steady allowed → law machine (machine.step scope depth step)

theorem Event.Passing.outside {event : Event} (passing : event.Passing) : event.Outside := by
  cases event <;> first | exact trivial | exact (passing : False).elim

instance Law.Total.carries {law : Law} [total : law.Total] (allowed : Step → Prop) : law.Carries allowed where
  noted := fun calm passing => total.noted calm passing.outside
  granted := fun _ _ => total.granted _
  dozed := fun id calm off _ => total.granted (.sleep id) _ calm off
  napped := fun _ _ _ _ => total.granted _
  collected := fun _ _ => total.granted _
  added := total.added
  ticked := total.ticked
  flagged := fun _ _ => total.flagged

end PriorityKernel
