import PriorityKernel.Proofs.Machine.Law

namespace PriorityKernel

variable {α β : Type} {law : Law} {allowed : Step → Prop} {scope : Scope} {machine : Machine}

theorem Machine.Calm.steady (calm : machine.Calm) : machine.Steady fun _ => True where
  toCalm := calm
  agenda := ⟨fun script _ => scriptWithin_all script, fun script _ => scriptWithin_all script,
    fun entry _ => scriptWithin_all entry.2⟩

theorem Machine.Calm.mask (calm : machine.Calm) : machine.mask.Calm := ⟨calm.unlocked, calm.sound⟩

theorem Machine.Steady.quiet {before after : Machine} (steady : before.Steady allowed) (same : before.Quiet after)
    (agenda : after.agenda.Within allowed) : after.Steady allowed where
  unlocked := same.kernel.locks.trans steady.unlocked
  sound := by rw [same.kernel.sched]; exact steady.sound
  agenda := agenda

theorem Machine.Steady.mask (steady : machine.Steady allowed) : machine.mask.Steady allowed :=
  ⟨⟨steady.unlocked, steady.sound⟩, steady.agenda⟩

theorem Machine.Steady.unmask (steady : machine.Steady allowed) : machine.unmask.Steady allowed :=
  ⟨⟨steady.unlocked, steady.sound⟩, steady.agenda⟩

theorem Machine.Steady.record (steady : machine.Steady allowed) (event : Event) :
    (machine.record event).Steady allowed :=
  ⟨⟨steady.unlocked, steady.sound⟩, steady.agenda⟩

theorem Machine.Steady.arrive (steady : machine.Steady allowed) {script : Script} {rest : List Script}
    (raised : machine.agenda.pending = script :: rest) :
    scriptWithin allowed script ∧ (machine.arrive rest).Steady allowed := by
  have all := steady.agenda.pending
  rw [raised] at all
  refine ⟨all script (List.mem_cons_self ..), ⟨⟨steady.unlocked, steady.sound⟩, ?_⟩⟩
  exact ⟨steady.agenda.hooks, fun later member => all later (List.mem_cons_of_mem _ member),
    steady.agenda.reactions⟩

namespace KernelM

theorem ObeysAt.of_run {call : KernelM α} {result : Except Fault α} {after : Machine}
    (run : call scope machine = (result, after)) (kept : law machine after) (steady : after.Steady allowed)
    (fault : ∀ fault, result = .error fault → ¬fault.Excluded) : ObeysAt law allowed scope machine call := by
  refine ⟨?_, ?_, ?_⟩ <;> rw [run] <;> assumption

theorem ObeysAt.of_ok {call : KernelM α} {value : α} {after : Machine}
    (run : call scope machine = (.ok value, after)) (kept : law machine after) (steady : after.Steady allowed) :
    ObeysAt law allowed scope machine call :=
  .of_run run kept steady (fun _ impossible => by cases impossible)

theorem ObeysAt.congr {call other : KernelM α} (obeys : ObeysAt law allowed scope machine other)
    (same : call scope machine = other scope machine) : ObeysAt law allowed scope machine call := by
  refine ⟨?_, ?_, ?_⟩
  all_goals rw [same]
  · exact obeys.law
  · exact obeys.steady
  · exact obeys.fault

theorem ObeysAt.bind [closed : law.Closed] {call : KernelM α} {next : α → KernelM β}
    (first : ObeysAt law allowed scope machine call)
    (rest : ∀ value after, call scope machine = (.ok value, after) → after.Steady allowed →
      ObeysAt law allowed scope after (next value)) : ObeysAt law allowed scope machine (call >>= next) := by
  obtain ⟨kept, steady, fault⟩ := first
  cases run : call scope machine with
  | mk result after =>
    rw [run] at kept steady fault
    cases result with
    | error cause => exact .of_run (run_bind_of_error run) kept steady (fun _ same => fault _ (by cases same; rfl))
    | ok value =>
      obtain ⟨later, steadyLater, faultLater⟩ := rest value after run steady
      have whole : (call >>= next) scope machine = next value scope after := run_bind_of_ok run
      refine .of_run whole (closed.trans kept later) steadyLater faultLater

theorem Obeys.bind [closed : law.Closed] {call : KernelM α} {next : α → KernelM β}
    (first : Obeys law allowed call) (rest : ∀ value, Obeys law allowed (next value)) :
    Obeys law allowed (call >>= next) := fun scope machine nested steady =>
  (first scope machine nested steady).bind fun value after _ steadyAfter =>
    rest value scope after nested steadyAfter

theorem obeys_pure [closed : law.Closed] (value : α) : Obeys law allowed (pure value : KernelM α) :=
  fun scope machine _ steady => .of_ok (run_pure scope machine value) (closed.refl machine) steady

theorem obeys_throw [closed : law.Closed] {fault : Fault} (ordinary : ¬fault.Excluded) :
    Obeys law allowed (throw fault : KernelM α) := fun scope machine _ steady =>
  .of_run (run_throw scope machine fault) (closed.refl machine) steady (fun _ same => by cases same; exact ordinary)

theorem obeys_get [closed : law.Closed] : Obeys law allowed (get : KernelM Machine) :=
  fun scope machine _ steady => .of_ok (run_get scope machine) (closed.refl machine) steady

theorem obeys_kernel [closed : law.Closed] : Obeys law allowed kernel :=
  fun scope machine _ steady => .of_ok (run_kernel scope machine) (closed.refl machine) steady

theorem obeys_read [closed : law.Closed] : Obeys law allowed (read : KernelM Scope) :=
  fun _ machine _ steady => .of_ok rfl (closed.refl machine) steady

theorem Obeys.forM [closed : law.Closed] {call : α → KernelM Unit} (each : ∀ item, Obeys law allowed (call item))
    (items : List α) : Obeys law allowed (items.forM call) := by
  induction items with
  | nil => exact obeys_pure ()
  | cons item rest ih => exact (each item).bind fun _ => ih

theorem Obeys.ite {choose : Prop} [Decidable choose] {first second : KernelM α} (yes : Obeys law allowed first)
    (no : Obeys law allowed second) : Obeys law allowed (if choose then first else second) := by
  split
  · exact yes
  · exact no

theorem Obeys.observed [closed : law.Closed] {call : KernelM α} (first : Obeys law allowed call)
    {next : Except Fault α → KernelM β}
    (rest : ∀ result, (∀ fault, result = .error fault → ¬fault.Excluded) → Obeys law allowed (next result)) :
    Obeys law allowed (observe call >>= next) := by
  intro scope machine nested steady
  obtain ⟨kept, steadyAfter, fault⟩ := first scope machine nested steady
  obtain ⟨later, steadyLater, faultLater⟩ := rest _ fault scope _ nested steadyAfter
  exact .of_run (run_bind_of_ok (run_observe scope machine call)) (closed.trans kept later) steadyLater faultLater

theorem obeys_resume [closed : law.Closed] {result : Except Fault α}
    (ordinary : ∀ fault, result = .error fault → ¬fault.Excluded) : Obeys law allowed (resume result) :=
  fun scope machine _ steady => .of_run (run_resume scope machine result) (closed.refl machine) steady ordinary

theorem ObeysAt.attempt {call : KernelM α} (first : ObeysAt law allowed scope machine call) :
    ObeysAt law allowed scope machine (attempt call) := by
  obtain ⟨kept, steady, ordinary⟩ := first
  have run := run_attempt scope machine call
  cases made : call scope machine with
  | mk result after =>
    rw [made] at kept steady ordinary run
    rcases result with fault | value
    · cases fault with
      | refused error => exact .of_ok run kept steady
      | deadlock | stuck | panic | needsKernel =>
        exact .of_run run kept steady fun _ same => by cases same; exact ordinary _ rfl
    · exact .of_ok run kept steady

theorem Obeys.attempt {call : KernelM α} (first : Obeys law allowed call) : Obeys law allowed (attempt call) :=
  fun scope machine nested steady => (first scope machine nested steady).attempt

theorem obeys_modify [closed : law.Closed] {change : Machine → Machine}
    (quiet : ∀ machine : Machine, machine.Quiet (change machine))
    (agenda : ∀ machine : Machine, machine.agenda.Within allowed → (change machine).agenda.Within allowed) :
    Obeys law allowed (modify change) := fun _ machine _ steady =>
  .of_ok rfl (closed.quiet (quiet machine)) (steady.quiet (quiet machine) (agenda machine steady.agenda))

theorem obeys_modifyKernel [closed : law.Closed] {change : Kernel → Kernel}
    (alike : ∀ kernel : Kernel, kernel.Alike (change kernel)) : Obeys law allowed (modifyKernel change) :=
  obeys_modify (fun _ => ⟨rfl, rfl, rfl, alike _, List.prefix_rfl⟩) fun _ within => within

theorem obeys_record [closed : law.Closed] {event : Event} (passing : event.Passing) :
    Obeys law allowed (record event) := fun scope machine _ steady =>
  .of_ok (run_record scope machine event) (closed.noted steady.toCalm passing) (steady.record event)

theorem obeysAt_nest [closed : law.Closed] (nested : scope.Obeys law allowed) (steady : machine.Steady allowed)
    {script : Script} (within : scriptWithin allowed script) : ObeysAt law allowed scope machine (nest script) := by
  have counted : ({ machine with started := machine.started + 1 } : Machine).Steady allowed :=
    ⟨⟨steady.unlocked, steady.sound⟩, steady.agenda⟩
  obtain ⟨kept, after⟩ := nested script _ within counted
  refine .of_ok rfl (closed.trans (closed.quiet ?_) kept) after
  exact ⟨rfl, rfl, rfl, ⟨rfl, rfl, rfl, rfl, rfl⟩, List.prefix_rfl⟩

theorem deliver_obeys [closed : law.Closed] (nested : scope.Obeys law allowed) (rounds : Nat)
    (steady : machine.Steady allowed) (on : machine.kernel.interrupts = true) :
    ∃ after, deliver rounds scope machine = (.ok (), after) ∧ law machine after ∧ after.Steady allowed := by
  induction rounds generalizing machine with
  | zero => exact ⟨machine, rfl, closed.refl machine, steady⟩
  | succ rounds ih =>
    rw [deliver, run_bind_of_ok (run_get scope machine)]
    cases raised : machine.agenda.pending with
    | nil => exact ⟨machine, rfl, closed.refl machine, steady⟩
    | cons script rest =>
      obtain ⟨within, arrived⟩ := steady.arrive raised
      obtain ⟨kept, steadyAfter⟩ := nested script _ within arrived
      obtain ⟨last, run, later, steadyLast⟩ := ih (steadyAfter.unmask) rfl
      refine ⟨last, ?_, closed.trans (closed.arrived steady.toCalm on raised kept) later, steadyLast⟩
      exact run

/-- A masked section that found interrupts enabled is its body with interrupts off, and then what arrives. -/
theorem masked_splits [closed : law.Closed] (nested : scope.Obeys law allowed) {call : KernelM α}
    (inside : (call scope machine.mask).2.Steady allowed) (on : machine.kernel.interrupts = true) :
    ∃ last, masked call scope machine = ((call scope machine.mask).1, last) ∧
      law (call scope machine.mask).2.unmask last ∧ last.Steady allowed := by
  have steadyOn := inside.unmask
  obtain ⟨arrived, run, later, steadyLast⟩ := deliver_obeys nested scope.credit steadyOn rfl
  rcases unmask_cases (call scope machine.mask).1 with same | same
  · have enabled : enable scope (call scope machine.mask).2 = (.ok (), arrived) := run
    refine ⟨arrived, masked_of_on on call ?_, later, steadyLast⟩
    rw [same]
    exact enabled
  · refine ⟨_, masked_of_on on call ?_, closed.refl _, steadyOn⟩
    rw [same]
    rfl

/-- What a masked section leaves when its body has run with interrupts off, but for what arrives then. -/
theorem masked_closes [closed : law.Closed] (nested : scope.Obeys law allowed) {call : KernelM α}
    {result : Except Fault α} {after : Machine} (run : masked call scope machine.mask = (result, after))
    (steady : after.Steady allowed) (off : after.kernel.interrupts = false) :
    ∃ last, masked call scope machine = (result, last) ∧ law (after.flag machine.kernel.interrupts) last ∧
      last.Steady allowed := by
  cases on : machine.kernel.interrupts with
  | false =>
    have same : after.flag false = after := Machine.mask_of_off off
    rw [Machine.mask_of_off on] at run
    exact ⟨after, run, same ▸ closed.refl after, steady⟩
  | true =>
    rw [masked_of_off rfl] at run
    have inside : (call scope machine.mask).2.Steady allowed := by
      rw [run]
      exact steady
    obtain ⟨last, closing, later, steadyLast⟩ := masked_splits nested inside on
    rw [run] at closing later
    exact ⟨last, closing, later, steadyLast⟩

/-- A law that holds of a masked section's body holds of the section, whichever way the flag was. -/
theorem flag_of_masked [framed : law.Framed] {after : Machine} (kept : law machine.mask after)
    (off : after.kernel.interrupts = false) : law machine (after.flag machine.kernel.interrupts) := by
  cases on : machine.kernel.interrupts with
  | false =>
    have same : after.flag false = after := Machine.mask_of_off off
    rw [Machine.mask_of_off on] at kept
    rw [same]
    exact kept
  | true => exact framed.masked on kept

theorem obeysAt_masked [closed : law.Closed] (nested : scope.Obeys law allowed) {call : KernelM α}
    (inside : ObeysAt law allowed scope machine.mask call) : ObeysAt law allowed scope machine (masked call) := by
  obtain ⟨kept, steady, fault⟩ := inside
  cases on : machine.kernel.interrupts with
  | false =>
    have same := Machine.mask_of_off on
    rw [same] at kept steady fault
    exact ⟨by rw [masked_of_off on]; exact kept, by rw [masked_of_off on]; exact steady,
      by rw [masked_of_off on]; exact fault⟩
  | true =>
    obtain ⟨last, run, later, steadyLast⟩ := masked_splits nested steady on
    exact .of_run run (closed.trans (closed.masked on kept) later) steadyLast fault

end KernelM

end PriorityKernel
