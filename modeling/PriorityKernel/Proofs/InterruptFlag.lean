import PriorityKernel.Proofs.Machine.History

namespace PriorityKernel

open Machine

/-- The flag is as it was, and if it was off, no interrupt has arrived: those that were waiting wait. -/
structure Machine.Restored (before after : Machine) : Prop where
  flag : after.kernel.interrupts = before.kernel.interrupts
  undelivered : before.kernel.interrupts = false →
    before.agenda.pending <+: after.agenda.pending ∧
      ∃ added, after.trace = added ++ before.trace ∧ ∀ entry ∈ added, entry.event ≠ .interrupted

namespace Machine

variable {machine before after : Machine}

theorem Restored.refl (machine : Machine) : machine.Restored machine :=
  ⟨rfl, fun _ => ⟨List.prefix_rfl, [], rfl, by simp⟩⟩

theorem Restored.trans {first second third : Machine} (earlier : first.Restored second)
    (later : second.Restored third) : first.Restored third where
  flag := later.flag.trans earlier.flag
  undelivered := by
    intro off
    obtain ⟨waiting, added, trace, quiet⟩ := earlier.undelivered off
    obtain ⟨waitingToo, addedToo, traceToo, quietToo⟩ := later.undelivered (earlier.flag.trans off)
    refine ⟨waiting.trans waitingToo, addedToo ++ added, ?_, List.forall_mem_append.mpr ⟨quietToo, quiet⟩⟩
    rw [traceToo, trace, List.append_assoc]

/-- A section that found the flag on, or an interrupt that arrived, leaves it on. -/
theorem Restored.unmask (on : before.kernel.interrupts = true) : before.Restored after.unmask :=
  ⟨on.symm, fun off => absurd (on.symm.trans off) Bool.noConfusion⟩

theorem Restored.of_entries (flag : after.kernel.interrupts = before.kernel.interrupts)
    (agenda : after.agenda = before.agenda) {added : List Entry} (trace : after.trace = added ++ before.trace)
    (quiet : ∀ entry ∈ added, entry.event ≠ .interrupted) : before.Restored after :=
  ⟨flag, fun _ => ⟨agenda ▸ List.prefix_rfl, added, trace, quiet⟩⟩

theorem Restored.record {event : Event} (other : event ≠ .interrupted) :
    machine.Restored (machine.record event) :=
  .of_entries rfl rfl (List.singleton_append ..).symm (List.forall_mem_singleton.mpr other)

theorem Restored.operate (machine : Machine) (operation : Operation) :
    machine.Restored (machine.operate operation) := by
  obtain ⟨added, trace, fresh⟩ := machine.operate_trace operation
  have whole := machine.operate_eq operation
  refine .of_entries (by rw [whole]) (by rw [whole]) trace fun entry member => ?_
  obtain ⟨_, ⟨_, _, event⟩ | ⟨_, event⟩ | ⟨_, _, event⟩⟩ := fresh entry member
  all_goals
    rw [event]
    nofun

theorem Restored.posts (sound : machine.kernel.sched.Sound) (expired : List Timer) :
    machine.Restored (expired.foldl post machine) :=
  History.posts_relate .refl .trans (fun machine _ _ => .operate machine _) sound expired

theorem restored_records : Law.Records Restored := fun _ outside => .record fun arrived => by
  rw [arrived] at outside
  exact outside

theorem restored_carries : Law.Carries Restored fun step => ¬step.Flags where
  refl := .refl
  trans := .trans
  quiet := fun quiet => ⟨quiet.kernel.interrupts, fun _ => ⟨quiet.pending, [], quiet.trace, by simp⟩⟩
  masked := fun on _ => .unmask on
  arrived := fun _ on _ _ => .unmask on
  wrote := by
    intro machine notice _ _
    unfold Machine.write
    split
    · exact .of_entries rfl rfl (List.singleton_append ..).symm (List.forall_mem_singleton.mpr nofun)
    · exact .refl machine
  noted := fun calm passing => restored_records calm passing.outside
  granted := fun _ _ machine _ _ => .operate machine _
  dozed := fun _ _ _ _ => .operate _ _
  napped := fun _ _ _ _ machine _ _ => .operate machine _
  collected := fun _ _ machine _ _ => .operate machine _
  added := fun _ _ => .of_entries rfl rfl (List.nil_append _).symm (by simp)
  ticked := by
    intro machine calm _
    obtain ⟨flag, undelivered⟩ := @Restored.posts machine.advance calm.sound machine.kernel.timers.tick.expired
    exact ⟨flag, undelivered⟩
  flagged := fun calm flags => absurd flags calm

theorem restored_bears : Law.Bears Restored fun step => ¬step.Flags :=
  restored_carries.bears restored_records fun machine _ _ => .operate machine _

end Machine

/-- With interrupts off nothing arrives during the call. With interrupts on it does the same first, and
then puts the flag back, which is when interrupts arrive. -/
structure KernelM.Defers {α : Type} (call : KernelM α) (scope : Scope) (start : Machine) : Prop where
  shut : start.mask.Restored (call scope start.mask).2
  closing : start.kernel.interrupts = true → call scope start =
    ((call scope start.mask).1, (KernelM.unmask (call scope start.mask).1 scope (call scope start.mask).2).2)

namespace KernelM

/-- Calls that are a single masked section. -/
inductive Guarded : {α : Type} → KernelM α → Prop
  | inspect {α : Type} (body : Scheduler → α) : Guarded (inspect body)
  | visibleTask : Guarded visibleTask
  | currentTask : Guarded currentTask
  | find (id : TaskId) : Guarded (find id)
  | snapshot (id : TaskId) : Guarded (snapshot id)
  | prepare (id : TaskId) (entry : UInt64) (argument : Int64) : Guarded (prepare id entry argument)
  | setLevel (id : TaskId) (level : Nat) : Guarded (setLevel id level)
  | wakeup (id : TaskId) (level : Option Nat) : Guarded (wakeup id level)
  | sleep (id : TaskId) : Guarded (sleep id)
  | switch (sleeping : Bool) : Guarded (switch sleeping)
  | send (id : TaskId) (message : Message) : Guarded (send id message)
  | receive (id : TaskId) : Guarded (receive id)
  | waitTurn (id : TaskId) : Guarded (waitTurn id)
  | addTimer (timer : Timer) : Guarded (addTimer timer)
  | clock : Guarded clock
  | tick : Guarded tick
  | decode (byte : UInt8) : Guarded (decode byte)
  /-- Whatever a step asks for, inside of one more section. -/
  | around {step : Step} (within : step.Within fun step => ¬step.Flags) : Guarded (masked (carryOut step))
  /-- Sections inside of sections, however deep. -/
  | again {α : Type} {call : KernelM α} (inner : Guarded call) : Guarded (masked call)

variable {α : Type} {scope : Scope} {start : Machine}

theorem Guarded.masked {call : KernelM α} (guarded : Guarded call) : ∃ body, call = masked body := by
  cases guarded <;> exact ⟨_, rfl⟩

theorem Guarded.obeys {call : KernelM α} (guarded : Guarded call) :
    Obeys Restored (fun step => ¬step.Flags) call := by
  have carries := restored_carries
  have operated : ∀ operation, Law.Grants Restored operation := fun _ machine _ _ => .operate machine _
  induction guarded with
  | inspect body => exact obeys_inspect body
  | visibleTask => exact obeys_visibleTask
  | currentTask => exact obeys_currentTask
  | find id => exact obeys_find id
  | snapshot id => exact obeys_snapshot id
  | prepare id entry argument => exact obeys_prepare id entry argument
  | setLevel id level => exact obeys_setLevel id level
  | wakeup id level => exact obeys_wakeup id level
  | sleep id => exact obeys_switching (.sleep id) (fun _ => rfl) (operated _)
  | switch sleeping => exact obeys_switching (.switch sleeping) (fun _ => rfl) (operated _)
  | send id message => exact obeys_send id message
  | receive id => exact obeys_receive id fun _ => operated _
  | waitTurn id => exact obeys_waitTurn id fun _ => operated _
  | addTimer timer => exact obeys_addTimer timer
  | clock => exact obeys_clock
  | tick => exact obeys_tick
  | decode byte => exact obeys_decode byte
  | around within =>
    intro scope machine nested steady
    exact obeysAt_masked nested
      (carryOut_whole restored_carries restored_records (operated _) within nested steady.mask)
  | again _ ih =>
    intro scope machine nested steady
    exact obeysAt_masked nested (ih scope machine.mask nested steady.mask)

theorem Guarded.defers {call : KernelM α} (guarded : Guarded call)
    (nested : scope.Obeys Restored fun step => ¬step.Flags) (steady : start.Steady fun step => ¬step.Flags) :
    call.Defers scope start where
  shut := (guarded.obeys scope start.mask nested steady.mask).law
  closing := by
    intro on
    obtain ⟨body, rfl⟩ := guarded.masked
    obtain ⟨after, restored⟩ := unmask_ok (body scope start.mask).1 scope (body scope start.mask).2
    rw [masked_of_on on body restored, masked_of_off rfl, restored]

end KernelM

namespace Program.Reaches

variable {program : Program} {machine : Machine}

/-- Take the scheduler of a run at any moment, no lock held, the flag either way, and any scripts waiting
for switches, interrupts, acknowledgements and handlers, none of which sets the flag. Every step puts the
flag back as it was, and if it was off, lets no interrupt arrive. Neither does an inner section: it ends
without a difference. An outer section lets interrupts arrive after everything that it does. -/
theorem interrupts_restored (reached : program.Reaches machine) {start : Machine}
    (known : ∃ kernel ∈ machine.kernels, start.kernel.sched = kernel.sched) (free : start.kernel.locks = [])
    (agenda : start.agenda.Within fun step => ¬step.Flags) (credit depth : Nat) :
    (∀ step : Step, step.Within (fun step => ¬step.Flags) →
      start.Restored (start.step ⟨credit, exec credit (depth + 1)⟩ depth step)) ∧
    ∀ (α : Type) (call : KernelM α), call.Guarded →
      start.Restored (call ⟨credit, exec credit (depth + 1)⟩ start).2 ∧
      call.Defers ⟨credit, exec credit (depth + 1)⟩ start ∧
      (start.kernel.interrupts = false → KernelM.masked call ⟨credit, exec credit (depth + 1)⟩ start =
        call ⟨credit, exec credit (depth + 1)⟩ start) := by
  have bears := restored_bears
  have nested : Scope.Obeys Restored (fun step => ¬step.Flags) ⟨credit, exec credit (depth + 1)⟩ :=
    obeys_exec bears credit (depth + 1)
  have steady : start.Steady fun step => ¬step.Flags := by
    obtain ⟨kernel, member, same⟩ := known
    exact ⟨⟨free, same ▸ reached.sound kernel member⟩, agenda⟩
  refine ⟨fun step within => (step_obeys within nested steady depth).1, fun α call guarded => ⟨?_, ?_, ?_⟩⟩
  · exact (guarded.obeys _ start nested steady).law
  · exact guarded.defers nested steady
  · exact fun off => KernelM.masked_of_off off call

/-- A run that leaves a task ready behind the event loop's. -/
def paired : Program where
  core := .kernel
  filter := .standard
  memoryShort := false
  script := [.create [.prepare false 0x1000 0, .wakeup (some 1)]]

/-- After that run a script waits for the next switch, and another one for interrupts to be enabled. -/
def awaiting (enabled : Bool) : Machine where
  core := .kernel
  filter := .standard
  kernel := { paired.ending.kernel with interrupts := enabled }
  agenda := { hooks := [[.send 1 Message.deviceInterrupt, .sleep 1]], pending := [[.overview, .wait 1]] }

theorem paired_interrupts_restored : paired.Reaches paired.ending ∧
    (∀ enabled, (awaiting enabled).Restored
      ((awaiting enabled).step ⟨9, exec 9 1⟩ 0 (.switch false))) ∧
    ((awaiting true).step ⟨9, exec 9 1⟩ 0 (.switch false)).trace.countP
      (fun entry => entry.event matches .interrupted) = 1 := by
  have reached : paired.Reaches paired.ending := reaches_ending rfl
  have scripts : ∀ enabled, (awaiting enabled).agenda.Within fun step => ¬step.Flags := by
    intro enabled
    constructor <;> simp [awaiting, scriptWithin, Step.Within, Step.Flags]
  have kept := fun enabled => @interrupts_restored paired _ reached (awaiting enabled)
    ⟨_, paired.ending.kernel_mem_kernels, rfl⟩ reached.calm.unlocked (scripts enabled) 9 0
  exact ⟨reached, fun enabled => (kept enabled).1 (.switch false) not_false, by decide +kernel⟩

end Program.Reaches

end PriorityKernel
