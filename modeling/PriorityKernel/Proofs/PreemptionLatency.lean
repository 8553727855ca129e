import PriorityKernel.Proofs.Machine.Interrupts

namespace PriorityKernel

open KernelM

/-- The machine after a number of timer interrupts, with a script without steps run at each. -/
def Machine.interrupted (start : Machine) (scope : Scope) (times : Nat) : Machine :=
  (timerInterrupts [] times scope start).2

namespace KernelM

theorem timerInterrupts_succ (script : Script) (times : Nat) : timerInterrupts script (times + 1) =
    (timerInterrupts script times >>= fun _ => timerInterrupt (acknowledging script)) := by
  induction times with
  | zero =>
    show (timerInterrupt (acknowledging script) >>= fun _ => pure ()) =
      (pure () >>= fun _ => timerInterrupt (acknowledging script))
    rw [pure_bind, bind_pure_unit]
  | succ times ih =>
    calc timerInterrupts script (times + 1 + 1)
      _ = (timerInterrupt (acknowledging script) >>= fun _ => timerInterrupts script (times + 1)) := rfl
      _ = (timerInterrupt (acknowledging script) >>= fun _ =>
            timerInterrupts script times >>= fun _ => timerInterrupt (acknowledging script)) := by rw [ih]
      _ = ((timerInterrupt (acknowledging script) >>= fun _ => timerInterrupts script times) >>= fun _ =>
            timerInterrupt (acknowledging script)) := (bind_assoc ..).symm
      _ = (timerInterrupts script (times + 1) >>= fun _ => timerInterrupt (acknowledging script)) := rfl

end KernelM

namespace Machine

variable {start : Machine} {scope : Scope} {number : Nat}

theorem interrupted_zero (start : Machine) (scope : Scope) : start.interrupted scope 0 = start := rfl

theorem interrupted_step (inert : ∀ machine, scope.nest [] machine = machine)
    (run : timerInterrupts [] number scope start = (.ok (), start.interrupted scope number))
    (paced : (start.interrupted scope number).Paced) :
    timerInterrupt (acknowledging []) scope (start.interrupted scope number) =
        (.ok (), start.interrupted scope (number + 1)) ∧
      (start.interrupted scope number).TimerInterrupt (start.interrupted scope (number + 1)) := by
  obtain ⟨after, once, interrupt⟩ := run_timerInterrupt paced inert
  have next : start.interrupted scope (number + 1) = after := by
    rw [interrupted, timerInterrupts_succ, run_bind_of_ok run, once]
  rw [next]
  exact ⟨once, interrupt⟩

/-- However many interrupts there were, the machine is ready for the next one. -/
theorem Paced.interrupted (paced : start.Paced) (inert : ∀ machine, scope.nest [] machine = machine) (number : Nat) :
    timerInterrupts [] number scope start = (.ok (), start.interrupted scope number) ∧
      (start.interrupted scope number).Paced := by
  induction number with
  | zero => exact ⟨rfl, paced⟩
  | succ number ih =>
    obtain ⟨run, before⟩ := ih
    obtain ⟨once, interrupt⟩ := interrupted_step inert run before
    refine ⟨?_, interrupt.paced before⟩
    rw [timerInterrupts_succ, run_bind_of_ok run, once]

section

variable (paced : start.Paced) (inert : ∀ machine, scope.nest [] machine = machine)

include paced inert

theorem Paced.interrupt (number : Nat) :
    (start.interrupted scope number).TimerInterrupt (start.interrupted scope (number + 1)) := by
  obtain ⟨run, before⟩ := paced.interrupted inert number
  exact (interrupted_step inert run before).2

theorem Paced.clock (number : Nat) :
    (start.interrupted scope number).kernel.timers.clock = start.kernel.timers.clock + number := by
  induction number with
  | zero => rfl
  | succ number ih =>
    have before := (paced.interrupted inert number).2
    rw [(paced.interrupt inert number).timers, before.rhythmic.tick_clock, ih, Nat.add_assoc]

theorem Paced.decides (number : Nat) : ∃ wait < Config.schedulerPeriod,
    (start.interrupted scope (number + wait)).kernel.timers.tick.switchDue = true := by
  have positive := Timer.schedulerPeriod_pos
  have below := Nat.mod_lt (start.kernel.timers.clock + number) positive
  have parts := Nat.div_add_mod (start.kernel.timers.clock + number) Config.schedulerPeriod
  refine ⟨Config.schedulerPeriod - 1 - (start.kernel.timers.clock + number) % Config.schedulerPeriod, by omega, ?_⟩
  refine (paced.interrupted inert _).2.rhythmic.switchDue ?_
  rw [paced.clock inert]
  refine ⟨(start.kernel.timers.clock + number) / Config.schedulerPeriod + 1, ?_⟩
  rw [Nat.mul_succ]
  omega

theorem Paced.ready {id : TaskId} {level : Level}
    (member : id ∈ (start.interrupted scope number).kernel.sched.ready.queue level) (later : Nat) :
    id ∈ (start.interrupted scope (number + later)).kernel.sched.ready.queue level := by
  induction later with
  | zero => exact member
  | succ later ih =>
    exact (paced.interrupt inert (number + later)).ready (paced.interrupted inert (number + later)).2 ih

/-- A period after somebody became ready the processor has come up to his level, and it stays there or
above. -/
theorem Paced.level {id : TaskId} {level : Level}
    (member : id ∈ (start.interrupted scope number).kernel.sched.ready.queue level) :
    ∃ wait < Config.schedulerPeriod, ∀ later, wait < later →
      level ≤ (start.interrupted scope (number + later)).kernel.sched.currentLevel := by
  obtain ⟨wait, soon, due⟩ := paced.decides inert number
  refine ⟨wait, soon, fun later after => ?_⟩
  have step : ∀ past, (start.interrupted scope (number + past)).kernel.timers.tick.switchDue = true ∨
      level ≤ (start.interrupted scope (number + past)).kernel.sched.currentLevel →
      level ≤ (start.interrupted scope (number + past + 1)).kernel.sched.currentLevel := fun past reached =>
    (paced.interrupt inert (number + past)).level (paced.interrupted inert (number + past)).2
      (paced.ready inert member past) reached
  induction after with
  | refl => exact step wait (Or.inl due)
  | step _ ih => exact step _ (Or.inr ih)

end

end Machine

namespace Program.Reaches

variable {program : Program} {machine start : Machine} {kernel : Kernel} {scope : Scope}

/-- Timer interrupts on a kernel as it is at any moment of any run outside of critical sections, with
nothing else to run inside of them. Every one of them returns: the event loop is told what came due,
then the interrupt is acknowledged, once, then there may be one switch. Among as many as there are ticks
in a period one makes a decision, and right after it somebody at the highest level that is ready
executes, the event loop included if the tick woke it. So within a period the processor leaves the
levels below anybody who is ready, and does not come back. -/
theorem preemption_latency (core : program.core = .kernel) (reached : program.Reaches machine)
    (member : kernel ∈ machine.kernels) (free : kernel.locks = []) (same : start.kernel = kernel)
    (undisturbed : start.Undisturbed) (hookless : start.agenda.hooks = [])
    (inert : ∀ machine, scope.nest [] machine = machine) (number : Nat) :
    timerInterrupts [] number scope start = (.ok (), start.interrupted scope number) ∧
    timerInterrupt (acknowledging []) scope (start.interrupted scope number) =
      (.ok (), start.interrupted scope (number + 1)) ∧
    (start.interrupted scope number).TimerInterrupt (start.interrupted scope (number + 1)) ∧
    (∃ wait < Config.schedulerPeriod,
      (start.interrupted scope (number + wait)).kernel.timers.tick.switchDue = true) ∧
    ((start.interrupted scope number).kernel.timers.tick.switchDue = true →
      ∃ id, (start.interrupted scope (number + 1)).kernel.sched.TopFront id) ∧
    ((start.interrupted scope number).kernel.timers.tick.expired ≠ [] → ∃ level,
      TaskId.eventLoop ∈ (start.interrupted scope (number + 1)).kernel.sched.ready.queue level) ∧
    ∀ id level, id ∈ (start.interrupted scope number).kernel.sched.ready.queue level →
      ∃ wait < Config.schedulerPeriod, ∀ later, wait < later →
        level ≤ (start.interrupted scope (number + later)).kernel.sched.currentLevel := by
  subst same
  have paced : start.Paced := ⟨⟨free, reached.sound _ member⟩, undisturbed, hookless,
    reached.rhythmic core _ member,
    reached.alert _ member⟩
  obtain ⟨run, before⟩ := paced.interrupted inert number
  obtain ⟨once, interrupt⟩ := Machine.interrupted_step inert run before
  exact ⟨run, once, interrupt, paced.decides inert number, interrupt.top_front before, interrupt.woken before,
    fun _ _ ready => paced.level inert ready⟩

/-- A run that leaves a task ready above the executing one, which timers will not wake. -/
def outranked : Program where
  core := .kernel
  filter := .standard
  memoryShort := false
  script := [.create [.prepare false 0x1000 0, .setLevel 3], .addTimer ⟨2, 4⟩, .tick 1, .setLevel 1 0,
    .wakeup 3 none]

theorem outranked_preemption_latency : outranked.Reaches outranked.ending ∧
    outranked.ending.kernel.sched.currentLevel = 0 ∧ 3 ∈ outranked.ending.kernel.sched.ready.queue 3 ∧
    ∃ wait < Config.schedulerPeriod, ∀ later, wait < later →
      3 ≤ (outranked.ending.interrupted ⟨1, Machine.exec 1 1⟩ later).kernel.sched.currentLevel := by
  have reached : outranked.Reaches outranked.ending := reaches_ending rfl
  have undisturbed : outranked.ending.agenda.pending = [] := List.isEmpty_iff.mp (by decide +kernel)
  have hookless : outranked.ending.agenda.hooks = [] := List.isEmpty_iff.mp (by decide +kernel)
  have ready : 3 ∈ outranked.ending.kernel.sched.ready.queue 3 := by decide +kernel
  have inert : ∀ machine, (⟨1, Machine.exec 1 1⟩ : Scope).nest [] machine = machine := fun _ => rfl
  obtain ⟨_, _, _, _, _, _, levels⟩ := preemption_latency rfl reached outranked.ending.kernel_mem_kernels
    reached.calm.unlocked rfl (fun _ => undisturbed) hookless inert 0
  rw [Machine.interrupted_zero] at levels
  obtain ⟨wait, soon, above⟩ := levels 3 3 ready
  refine ⟨reached, by decide +kernel, ready, wait, soon, fun later after => ?_⟩
  have high := above later after
  rw [Nat.zero_add] at high
  exact high

end Program.Reaches

end PriorityKernel
