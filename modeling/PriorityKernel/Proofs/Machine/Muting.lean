import PriorityKernel.Proofs.Machine.SingleOperations

namespace PriorityKernel

open Machine

variable {α β : Type}

/-- Whether an event is a log line. -/
def Event.isLine : Event → Bool
  | .logged _ => true
  | _ => false

/-- The entries that are not log lines. -/
def unlogged (trace : List Entry) : List Entry := trace.filter fun entry => !entry.event.isLine

theorem unlogged_append (added trace : List Entry) : unlogged (added ++ trace) = unlogged added ++ unlogged trace :=
  List.filter_append ..

theorem unlogged_lines {lines : List Entry} {notice : Notice}
    (written : ∀ line ∈ lines, line.event = .logged notice) :
    unlogged lines = [] := by
  refine List.filter_eq_nil_iff.mpr fun line member => ?_
  rw [written line member]
  exact Bool.false_ne_true

/-- Whether a step raises an interrupt. -/
def Step.Raises : Step → Prop
  | .raise _ => True
  | _ => False

namespace Machine

/-- The machine with nothing logged, neither so far nor from now on. -/
def mute (machine : Machine) : Machine := { machine with filter := ⟨none⟩, trace := unlogged machine.trace }

/-- A machine between calls on which no interrupt waits, and no script raises one. -/
structure Tranquil (machine : Machine) : Prop extends machine.Steady fun step => ¬step.Raises where
  unraised : machine.agenda.pending = []

variable {machine : Machine}

theorem Tranquil.undisturbed (tranquil : machine.Tranquil) : machine.Undisturbed := fun _ => tranquil.unraised

theorem Tranquil.mute (tranquil : machine.Tranquil) : machine.mute.Tranquil :=
  ⟨⟨⟨tranquil.unlocked, tranquil.sound⟩, tranquil.agenda⟩, tranquil.unraised⟩

theorem Tranquil.flag (tranquil : machine.Tranquil) (enabled : Bool) : (machine.flag enabled).Tranquil :=
  ⟨⟨⟨tranquil.unlocked, tranquil.sound⟩, tranquil.agenda⟩, tranquil.unraised⟩

theorem Tranquil.retrace (tranquil : machine.Tranquil) (trace : List Entry) : { machine with trace }.Tranquil :=
  ⟨⟨⟨tranquil.unlocked, tranquil.sound⟩, tranquil.agenda⟩, tranquil.unraised⟩

theorem Tranquil.setAside (tranquil : machine.Tranquil) {agenda : Agenda}
    (within : agenda.Within fun step => ¬step.Raises) (same : agenda.pending = machine.agenda.pending) :
    { machine with agenda }.Tranquil :=
  ⟨⟨⟨tranquil.unlocked, tranquil.sound⟩, within⟩, same.trans tranquil.unraised⟩

theorem mute_lines {lines : List Entry} (silent : unlogged lines = []) :
    { machine with trace := lines ++ machine.trace }.mute = machine.mute := by
  have same : unlogged (lines ++ machine.trace) = unlogged machine.trace := by
    rw [unlogged_append, silent, List.nil_append]
  exact congrArg (fun trace => ({ machine with filter := ⟨none⟩, trace } : Machine)) same

theorem mute_record {event : Event} (silent : event.isLine = false) :
    (machine.record event).mute = machine.mute.record event := by
  simp only [Machine.mute, Machine.record, unlogged, List.filter_cons, silent, Bool.not_false, if_true]

/-- What a critical section records but for its log lines. -/
theorem mute_enter (machine : Machine) (outcome : Outcome α) :
    (machine.enter outcome).mute = machine.mute.enter outcome := by
  have lines : ∀ (inside : Machine) (notices : List Notice), unlogged (notices.map inside.lineEntry) = [] := by
    intro inside notices
    simp [unlogged, List.filter_map, Machine.lineEntry, Function.comp_def, Event.isLine]
  have deeds : ∀ kernel : Kernel, unlogged (outcome.deeds.reverse.map fun deed => ⟨.did deed, kernel⟩) =
      outcome.deeds.reverse.map fun deed => ⟨.did deed, kernel⟩ := by
    intro kernel
    refine List.filter_eq_self.mpr fun entry member => ?_
    obtain ⟨deed, _, rfl⟩ := List.mem_map.mp member
    rfl
  have quiet : ∀ inside : Machine, unlogged (inside.sectionEntries outcome) =
      (inside.mute).sectionEntries outcome := by
    intro inside
    have none : (outcome.notices.filter fun notice => inside.mute.filter.admits notice.level) = [] :=
      List.filter_eq_nil_iff.mpr fun _ _ => Bool.false_ne_true
    rw [sectionEntries, sectionEntries, none, unlogged_append, lines, deeds]
    rfl
  refine congrArg (fun trace => ({ machine with
    kernel.sched := outcome.next, filter := ⟨none⟩, trace } : Machine)) ?_
  rw [enter, unlogged_append, quiet]
  rfl

end Machine

/-! ### Heedless calls -/

/-- Scripts that run inside of a call do on the muted machine what they do otherwise. -/
def Scope.Heedless (scope : Scope) : Prop :=
  ∀ script machine, scriptWithin (fun step => ¬step.Raises) script → machine.Tranquil →
    scope.nest script machine.mute = (scope.nest script machine).mute ∧ (scope.nest script machine).Tranquil

namespace KernelM

/-- On this machine, muted, the call has the same result and leaves the same, muted. -/
structure HeedlessAt (scope : Scope) (machine : Machine) (call : KernelM α) : Prop where
  muted : call scope machine.mute = ((call scope machine).1, (call scope machine).2.mute)
  tranquil : (call scope machine).2.Tranquil

/-- The call is heedless of the log wherever scripts are. -/
def Heedless (call : KernelM α) : Prop :=
  ∀ scope machine, scope.Heedless → machine.Tranquil → HeedlessAt scope machine call

variable {scope : Scope} {machine : Machine}

theorem HeedlessAt.of_run {call : KernelM α} {result : Except Fault α} {after : Machine}
    (run : call scope machine = (result, after)) (muted : call scope machine.mute = (result, after.mute))
    (tranquil : after.Tranquil) : HeedlessAt scope machine call := by
  constructor
  · rw [run, muted]
  · rw [run]
    exact tranquil

/-! ### In sequence -/

theorem HeedlessAt.bind {call : KernelM α} {next : α → KernelM β} (first : HeedlessAt scope machine call)
    (rest : ∀ value after, call scope machine = (.ok value, after) → after.Tranquil →
      HeedlessAt scope after (next value)) : HeedlessAt scope machine (call >>= next) := by
  obtain ⟨muted, tranquil⟩ := first
  cases run : call scope machine with
  | mk result after =>
    rw [run] at muted tranquil
    cases result with
    | error fault => exact .of_run (run_bind_of_error run) (run_bind_of_error muted) tranquil
    | ok value =>
      obtain ⟨later, last⟩ := rest value after run tranquil
      have whole : (call >>= next) scope machine = next value scope after := run_bind_of_ok run
      refine ⟨?_, by rw [whole]; exact last⟩
      rw [run_bind_of_ok muted, later, whole]

theorem Heedless.bind {call : KernelM α} {next : α → KernelM β} (first : Heedless call)
    (rest : ∀ value, Heedless (next value)) : Heedless (call >>= next) := fun scope machine nested tranquil =>
  (first scope machine nested tranquil).bind fun value after _ tranquilAfter =>
    rest value scope after nested tranquilAfter

theorem heedless_pure (value : α) : Heedless (pure value : KernelM α) := fun _ _ _ tranquil =>
  .of_run rfl rfl tranquil

theorem heedless_throw (fault : Fault) : Heedless (throw fault : KernelM α) := fun _ _ _ tranquil =>
  .of_run rfl rfl tranquil

theorem heedless_kernel : Heedless kernel := fun _ _ _ tranquil => .of_run rfl rfl tranquil

theorem heedless_read : Heedless (read : KernelM Scope) := fun _ _ _ tranquil => .of_run rfl rfl tranquil

/-- A look at the machine that sees neither the filter nor the trace. -/
theorem HeedlessAt.looking {next : Machine → KernelM β} (blind : next machine.mute = next machine)
    (rest : HeedlessAt scope machine (next machine)) : HeedlessAt scope machine (get >>= next) := by
  obtain ⟨muted, tranquil⟩ := rest
  have whole : (get >>= next) scope machine = next machine scope machine := run_bind_of_ok (run_get scope machine)
  refine ⟨?_, by rw [whole]; exact tranquil⟩
  rw [run_bind_of_ok (run_get scope machine.mute), whole, blind, muted]

theorem heedless_get {next : Machine → KernelM β} (blind : ∀ machine : Machine, next machine.mute = next machine)
    (rest : ∀ machine, Heedless (next machine)) : Heedless (get >>= next) := fun scope machine nested tranquil =>
  .looking (blind machine) (rest machine scope machine nested tranquil)

theorem Heedless.forM {call : α → KernelM Unit} (each : ∀ item, Heedless (call item)) (items : List α) :
    Heedless (items.forM call) := by
  induction items with
  | nil => exact heedless_pure ()
  | cons item rest ih => exact (each item).bind fun _ => ih

theorem Heedless.ite {choose : Prop} [Decidable choose] {first second : KernelM α} (yes : Heedless first)
    (no : Heedless second) : Heedless (if choose then first else second) := by
  split
  · exact yes
  · exact no

/-! ### Under an observed fault -/

theorem Heedless.observed {call : KernelM α} (first : Heedless call) {next : Except Fault α → KernelM β}
    (rest : ∀ result, Heedless (next result)) : Heedless (observe call >>= next) := by
  intro scope machine nested tranquil
  obtain ⟨muted, after⟩ := first scope machine nested tranquil
  have seen : observe call scope machine.mute = (.ok (call scope machine).1, (call scope machine).2.mute) := by
    rw [run_observe, muted]
  exact (HeedlessAt.of_run (run_observe scope machine call) seen after).bind fun result last _ tranquilLast =>
    rest result scope last nested tranquilLast

theorem heedless_resume (result : Except Fault α) : Heedless (resume result) := fun _ _ _ tranquil =>
  .of_run rfl rfl tranquil

theorem Heedless.attempt {call : KernelM α} (first : Heedless call) : Heedless (attempt call) :=
  first.observed fun result => by
    rcases result with fault | value
    · cases fault with
      | refused error => exact heedless_pure _
      | deadlock | stuck | panic | needsKernel => exact heedless_throw _
    · exact heedless_pure _

/-! ### Changes of the machine -/

theorem heedless_modifyKernel {change : Kernel → Kernel}
    (same : ∀ kernel : Kernel, (change kernel).sched = kernel.sched ∧ (change kernel).locks = kernel.locks) :
    Heedless (modifyKernel change) := by
  intro scope machine _ tranquil
  obtain ⟨sched, locks⟩ := same machine.kernel
  refine .of_run rfl rfl ⟨⟨⟨locks.trans tranquil.unlocked, ?_⟩, tranquil.agenda⟩, tranquil.unraised⟩
  show (change machine.kernel).sched.Sound
  rw [sched]
  exact tranquil.sound

theorem heedless_record {event : Event} (silent : event.isLine = false) : Heedless (record event) :=
  fun scope machine _ tranquil =>
    .of_run rfl (by rw [run_record, mute_record silent]) (tranquil.retrace _)

theorem heedless_nest {script : Script} (within : scriptWithin (fun step => ¬step.Raises) script) :
    Heedless (nest script) := by
  intro scope machine nested tranquil
  have counted : ({ machine with started := machine.started + 1 } : Machine).Tranquil :=
    ⟨⟨⟨tranquil.unlocked, tranquil.sound⟩, tranquil.agenda⟩, tranquil.unraised⟩
  obtain ⟨muted, after⟩ := nested script _ within counted
  exact .of_run rfl (Prod.ext rfl muted) after

/-! ### Masked sections and locks -/

theorem HeedlessAt.masked {call : KernelM α} (inside : HeedlessAt scope machine.mask call) :
    HeedlessAt scope machine (masked call) := by
  obtain ⟨muted, after⟩ := inside
  have same : machine.mute.mask = machine.mask.mute := rfl
  rw [← same] at muted
  cases on : machine.kernel.interrupts with
  | false =>
    have offMuted : machine.mute.kernel.interrupts = false := on
    rw [mask_of_off offMuted] at muted
    rw [mask_of_off on] at muted after
    exact .of_run (masked_of_off on call) ((masked_of_off offMuted call).trans muted) after
  | true =>
    have onMuted : machine.mute.kernel.interrupts = true := on
    have none : (call scope machine.mask).2.mute.agenda.pending = [] := after.unraised
    have closing : KernelM.unmask (call scope machine.mute.mask).1 scope (call scope machine.mute.mask).2 =
        (.ok (), (call scope machine.mask).2.mute.unmask) := by
      rw [muted]
      exact unmask_of_none none scope
    have ended := masked_of_on on call (unmask_of_none after.unraised scope)
    have endedMuted := masked_of_on onMuted call closing
    rw [muted] at endedMuted
    exact .of_run ended endedMuted (after.flag true)

theorem Heedless.masked {call : KernelM α} (inside : Heedless call) : Heedless (masked call) :=
  fun scope machine nested tranquil => (inside scope machine.mask nested (tranquil.flag false)).masked

theorem heedless_masked_off {call : KernelM α} (inside : ∀ scope machine, machine.Tranquil →
    machine.kernel.interrupts = false → HeedlessAt scope machine (masked call)) : Heedless (masked call) := by
  intro scope machine _ tranquil
  obtain ⟨muted, after⟩ := inside scope machine.mask (tranquil.flag false) rfl
  have offMuted : machine.mask.mute.kernel.interrupts = false := rfl
  rw [masked_of_off offMuted, masked_of_off rfl] at muted
  rw [masked_of_off rfl] at after
  exact HeedlessAt.masked ⟨muted, after⟩

theorem heedless_holding {lock : Lock} {call : KernelM α} (answer : Kernel → α) (change : Kernel → Kernel)
    (same : ∀ kernel : Kernel, (change kernel).sched = kernel.sched ∧ (change kernel).locks = kernel.locks)
    (run : ∀ scope machine, call scope machine =
      (.ok (answer machine.kernel), { machine with kernel := change machine.kernel })) :
    Heedless (holding lock call) := by
  refine heedless_masked_off fun scope machine tranquil off => ?_
  have offMuted : machine.mute.kernel.interrupts = false := off
  have whole := holding_of_run off (tranquil.free lock) (run scope (machine.hold lock))
  have wholeMuted := holding_of_run offMuted (tranquil.mute.free lock) (run scope (machine.mute.hold lock))
  obtain ⟨sched, locks⟩ := same (machine.hold lock).kernel
  refine .of_run whole wholeMuted ⟨⟨⟨?_, ?_⟩, tranquil.agenda⟩, tranquil.unraised⟩
  · refine (congrArg (List.erase · lock) locks).trans ?_
    rw [Machine.hold, List.erase_cons_head]
    exact tranquil.unlocked
  · show (change (machine.hold lock).kernel).sched.Sound
    rw [sched]
    exact tranquil.sound

theorem heedless_critical {body : Kernel → Outcome α}
    (sound : ∀ kernel : Kernel, kernel.sched.Sound → (body kernel).next.Sound) : Heedless (critical body) := by
  refine heedless_masked_off fun scope machine tranquil off => ?_
  have offMuted : machine.mute.kernel.interrupts = false := off
  have whole := critical_of_calm scope tranquil.toCalm off body
  have wholeMuted := critical_of_calm scope tranquil.mute.toCalm offMuted body
  have same : (machine.mute.hold .scheduler).kernel = (machine.hold .scheduler).kernel := rfl
  rw [same, ← mute_enter] at wholeMuted
  exact .of_run whole wholeMuted ⟨tranquil.enter (sound _ tranquil.sound), tranquil.unraised⟩

theorem heedless_inspect (body : Scheduler → α) : Heedless (inspect body) := heedless_critical fun _ sound => sound

theorem heedless_operation {body : Kernel → Outcome α} (operation : Kernel → Operation)
    (same : ∀ kernel : Kernel, (operation kernel).outcome kernel.sched = (body kernel).map fun _ => none) :
    Heedless (critical body) := by
  refine heedless_critical fun kernel sound => ?_
  have after := ((operation kernel).effect sound).sound sound
  rw [same] at after
  exact after

/-! ### Log lines -/

/-- A call that at most logs, and always answers. -/
def Logs (call : KernelM α) : Prop :=
  ∀ scope machine, machine.Tranquil → ∃ value, ∃ lines : List Entry, unlogged lines = [] ∧
    call scope machine = (.ok value, { machine with trace := lines ++ machine.trace })

theorem Logs.bind {call : KernelM α} {next : α → KernelM β} (first : Logs call)
    (rest : ∀ value, Logs (next value)) :
    Logs (call >>= next) := by
  intro scope machine tranquil
  obtain ⟨value, lines, silent, run⟩ := first scope machine tranquil
  obtain ⟨last, later, silentLater, ran⟩ := rest value scope _ (tranquil.retrace (lines ++ machine.trace))
  refine ⟨last, later ++ lines, ?_, ?_⟩
  · rw [unlogged_append, silent, silentLater, List.nil_append]
  · rw [run_bind_of_ok run, ran, List.append_assoc]

theorem logs_log (notice : Notice) : Logs (log notice) := by
  intro scope machine tranquil
  obtain ⟨lines, written, run⟩ := run_log tranquil.toCalm tranquil.undisturbed notice scope
  exact ⟨(), lines, unlogged_lines written, run⟩

/-- A call that only looks, and always answers. -/
theorem logs_of_look {call : KernelM α} (look : ∀ scope machine, machine.Tranquil → ∃ value,
    call scope machine = (.ok value, machine)) : Logs call := fun scope machine tranquil =>
  let ⟨value, run⟩ := look scope machine tranquil
  ⟨value, [], rfl, run⟩

theorem logs_inspect (body : Scheduler → α) : Logs (inspect body) := logs_of_look fun scope _ tranquil =>
  ⟨_, run_look tranquil.toCalm tranquil.undisturbed rfl rfl rfl scope⟩

theorem logs_clock : Logs clock := logs_of_look fun scope _ tranquil =>
  ⟨_, run_clock tranquil.toCalm tranquil.undisturbed scope⟩

theorem logs_currentTask : Logs currentTask := logs_of_look fun scope machine tranquil => by
  obtain ⟨id, executing⟩ := tranquil.sound.executing
  have shown : (machine.mask.hold .scheduler).kernel.sched.withCurrent (fun id => Outcome.pure id
      (machine.mask.hold .scheduler).kernel.sched) = Outcome.pure id machine.kernel.sched := by
    rw [Scheduler.withCurrent, show (machine.mask.hold .scheduler).kernel.sched.current? = some id from executing]
    rfl
  refine ⟨id, (run_look tranquil.toCalm tranquil.undisturbed ?_ ?_ ?_ scope).trans ?_⟩
  all_goals rw [shown]
  all_goals rfl

theorem Logs.heedless {call : KernelM Unit} (logs : Logs call) (silenced : ∀ scope (machine : Machine),
    call scope machine.mute = (.ok (), machine.mute)) : Heedless call := by
  intro scope machine _ tranquil
  obtain ⟨_, lines, silent, run⟩ := logs scope machine tranquil
  refine .of_run run ?_ (tranquil.retrace _)
  rw [mute_lines silent]
  exact silenced scope machine

theorem heedless_log (notice : Notice) : Heedless (log notice) :=
  (logs_log notice).heedless fun _ _ => rfl

/-- A call that at most logs may be left out when nothing is logged. -/
theorem Logs.whenLogged {call : KernelM Unit} (logs : Logs call) (level : LogLevel) :
    Heedless (whenLogged level call) := by
  refine Logs.heedless (fun scope machine tranquil => ?_) fun _ _ => rfl
  rw [KernelM.whenLogged, run_bind_of_ok (run_get scope machine)]
  split
  · exact logs scope machine tranquil
  · exact ⟨(), [], rfl, rfl⟩

end KernelM

end PriorityKernel
