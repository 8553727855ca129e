import PriorityKernel.Proofs.Machine.Timeouts

namespace PriorityKernel

open Machine

/-- The locks that are held when an event is recorded, and whether interrupts are off then. -/
def Entry.Disciplined (entry : Entry) : Prop :=
  match entry.event with
  | .logged _ => entry.kernel.interrupts = false ∧
      entry.kernel.locks ∈ [[.serial], [.serial, .scheduler], [.serial, .scheduler, .timers]]
  | .did _ => entry.kernel.interrupts = false ∧ entry.kernel.locks ∈ [[.scheduler], [.scheduler, .timers]]
  | .switched _ | .interrupted => entry.kernel.interrupts = false ∧ entry.kernel.locks = []
  | .handled _ | .acknowledged | .answered _ => entry.kernel.locks = []
  | .finished _ step reply => entry.kernel.locks = [] ∧ step.Answers reply

/-- Events that are recorded while a lock is held. No step ends there, and no script begins. -/
def Event.Inside : Event → Prop
  | .logged _ | .did _ => True
  | .switched _ | .interrupted | .handled _ | .acknowledged | .answered _ | .finished .. => False

theorem Entry.Disciplined.of_held {entry : Entry} (disciplined : entry.Disciplined) (held : entry.kernel.locks ≠ []) :
    entry.kernel.interrupts = false ∧ entry.event.Inside := by
  obtain ⟨event, kernel⟩ := entry
  cases event with
  | logged | did => exact ⟨disciplined.1, trivial⟩
  | switched | interrupted => exact absurd disciplined.2 held
  | handled | acknowledged | answered => exact absurd disciplined held
  | finished => exact absurd disciplined.1 held

namespace Machine

variable {machine : Machine} {α : Type}

/-- Every event so far found the locks as it should. -/
def Disciplined (machine : Machine) : Prop := ∀ entry ∈ machine.trace, entry.Disciplined

/-- What is recorded inside of a section that was entered without a lock, or while the timers are locked. -/
theorem Disciplined.enter (disciplined : machine.Disciplined) (off : machine.kernel.interrupts = false)
    (outer : machine.kernel.locks ∈ [[], [.timers]]) (outcome : Outcome α) :
    (machine.enter outcome).Disciplined := by
  have held : (Lock.scheduler :: machine.kernel.locks) ∈ [[.scheduler], [.scheduler, .timers]] := by
    simpa using outer
  have line : (Lock.serial :: Lock.scheduler :: machine.kernel.locks) ∈
      [[.serial], [.serial, .scheduler], [.serial, .scheduler, .timers]] :=
    List.mem_cons_of_mem _ (by simpa using outer)
  refine List.forall_mem_append.mpr ⟨List.forall_mem_append.mpr ⟨?_, ?_⟩, disciplined⟩
  · exact List.forall_mem_map.mpr fun deed _ => ⟨off, held⟩
  · exact List.forall_mem_map.mpr fun notice _ => ⟨off, line⟩

theorem Disciplined.operate (disciplined : machine.Disciplined) (off : machine.kernel.interrupts = false)
    (free : machine.kernel.locks = []) (operation : Operation) : (machine.operate operation).Disciplined := by
  have entered := disciplined.enter off (by simp [free]) (operation.outcome machine.kernel.sched)
  unfold Machine.operate
  dsimp only
  split
  · exact List.forall_mem_cons.mpr ⟨⟨off, free⟩, entered⟩
  · exact entered

theorem Disciplined.posts (disciplined : machine.Disciplined) (off : machine.kernel.interrupts = false)
    (held : machine.kernel.locks = [.timers]) (expired : List Timer) : (expired.foldl post machine).Disciplined := by
  induction expired generalizing machine with
  | nil => exact disciplined
  | cons timer rest ih => exact @ih (machine.post timer) (disciplined.enter off (by simp [held]) _) off held

theorem disciplined_total : Law.Total fun before after => before.Disciplined → after.Disciplined where
  refl := fun _ disciplined => disciplined
  trans := fun first second disciplined => second (first disciplined)
  quiet := fun quiet disciplined => by
    unfold Disciplined
    rw [quiet.trace]
    exact disciplined
  masked := fun _ inner => inner
  arrived := fun calm _ _ inner disciplined =>
    inner (List.forall_mem_cons.mpr ⟨⟨rfl, calm.unlocked⟩, disciplined⟩)
  wrote := by
    intro machine notice calm off disciplined
    unfold Machine.write
    split
    · refine List.forall_mem_cons.mpr ⟨⟨off, ?_⟩, disciplined⟩
      simp [lineEntry, calm.unlocked]
    · exact disciplined
  noted := by
    intro machine event calm outside disciplined
    refine List.forall_mem_cons.mpr ⟨?_, disciplined⟩
    cases event with
    | handled | acknowledged | answered => exact calm.unlocked
    | finished => exact ⟨calm.unlocked, outside⟩
    | logged | switched | interrupted | did => exact outside.elim
  granted := fun operation _ calm off disciplined => disciplined.operate off calm.unlocked operation
  added := fun _ _ disciplined => disciplined
  ticked := by
    intro machine calm off disciplined
    have held : machine.advance.kernel.locks = [.timers] := congrArg (Lock.timers :: ·) calm.unlocked
    exact @Disciplined.posts machine.advance disciplined off held machine.kernel.timers.tick.expired
  flagged := fun _ _ disciplined => disciplined

end Machine

/-- With interrupts off a call comes to the same whatever scripts would do: nothing nested runs in it. -/
def KernelM.Sealed {α : Type} (call : KernelM α) (machine : Machine) : Prop :=
  ∀ scope other, call scope machine.mask = call other machine.mask

namespace KernelM

variable {α : Type} {machine : Machine}

theorem sealed_critical (calm : machine.Calm) (body : Kernel → Outcome α) : (critical body).Sealed machine :=
  fun scope other =>
    (critical_of_calm scope calm.mask rfl body).trans (critical_of_calm other calm.mask rfl body).symm

theorem sealed_tick (calm : machine.Calm) : tick.Sealed machine := fun scope other =>
  (tick_of_calm scope machine.mask rfl calm.mask.steady).1.trans
    (tick_of_calm other machine.mask rfl calm.mask.steady).1.symm

theorem sealed_holding (calm : machine.Calm) {lock : Lock} {call : KernelM α}
    (alike : ∀ scope other inside, call scope inside = call other inside) : (holding lock call).Sealed machine := by
  intro scope other
  rw [holding_of_off rfl (calm.mask.free lock), holding_of_off rfl (calm.mask.free lock), alike scope other]

end KernelM

namespace Program.Reaches

variable {program : Program} {machine : Machine}

/-- In every run: switches and interrupts happen with interrupts off and no lock held, interrupt
acknowledgements, handlers, replies and the ends of steps with no lock held; whenever none is held the
executing task can be seen; while one is held, interrupts are off and nothing but deeds and log lines is
recorded. No step finds a lock taken by itself, and every overview shows the executing task. Between the
taking of a lock and its release no script runs, whatever scripts there are. -/
theorem lock_discipline (reached : program.Reaches machine) :
    (∀ entry ∈ machine.trace, entry.Disciplined ∧
      (entry.kernel.locks = [] → ∃ id, entry.kernel.visibleTask? = some id) ∧
      (entry.kernel.locks ≠ [] → entry.kernel.interrupts = false ∧ entry.event.Inside)) ∧
    (∀ entry ∈ machine.trace, ∀ depth step reply, entry.event = .finished depth step reply →
      reply ≠ .error .deadlock ∧
      (step = .overview → ∃ shown id, reply = .ok (.overview shown) ∧ shown.current = some id)) ∧
    ∀ start : Machine, start.kernel ∈ machine.kernels → start.kernel.locks = [] →
      (∀ (α : Type) (body : Kernel → Outcome α), (KernelM.critical body).Sealed start) ∧
      KernelM.tick.Sealed start ∧ KernelM.clock.Sealed start ∧
        ∀ timer, (KernelM.addTimer timer).Sealed start := by
  have disciplined : machine.Disciplined := (reached.obeys disciplined_total).1 (by simp [Machine.Disciplined, fresh])
  refine ⟨fun entry member => ⟨disciplined entry member, fun free => ?_, ?_⟩, ?_, ?_⟩
  · have sound := reached.sound entry.kernel (List.mem_cons_of_mem _ (List.mem_map_of_mem member))
    obtain ⟨id, executing⟩ := sound.executing
    refine ⟨id, ?_⟩
    simp only [Kernel.visibleTask?, free, List.not_mem_nil, if_false, executing]
  · exact (disciplined entry member).of_held
  · intro entry member depth step reply ended
    have answers : entry.kernel.locks = [] ∧ step.Answers reply := by
      have whole := disciplined entry member
      rwa [Entry.Disciplined, ended] at whole
    refine ⟨fun deadlock => ?_, answers.2.shown⟩
    exact answers.2.ordinary .deadlock deadlock (Or.inl rfl)
  · intro start kernel free
    have calm : start.Calm := ⟨free, reached.sound _ kernel⟩
    refine ⟨fun _ => KernelM.sealed_critical calm, KernelM.sealed_tick calm, ?_, fun timer => ?_⟩
    · exact KernelM.sealed_holding calm fun _ _ _ => rfl
    · exact KernelM.sealed_holding calm fun _ _ _ => rfl

/-- A run in which scripts set the interrupt flag inside of a switch, an interrupt, the acknowledgement
of another one, and a handler, and look from there who executes. -/
def reentrant : Program where
  core := .kernel
  filter := .standard
  memoryShort := false
  script := [.create [.prepare false 0x1000 0, .wakeup (some 3)],
    .hook [.enableInterrupts, .overview, .disableInterrupts],
    .raise [.enableInterrupts, .send 1 Message.deviceInterrupt, .overview], .switch false,
    .timerInterrupt 1 [.enableInterrupts, .overview], .react .device [.disableInterrupts, .overview],
    .loop 1 .recording]

theorem reentrant_lock_discipline : reentrant.Reaches reentrant.ending ∧
    (reentrant.ending.trace.countP fun entry => entry.event matches .finished _ .overview _) = 4 ∧
    (reentrant.ending.trace.countP fun entry => !entry.kernel.locks.isEmpty) = 6 ∧
    ∀ entry ∈ reentrant.ending.trace, entry.Disciplined := by
  have reached : reentrant.Reaches reentrant.ending := reaches_ending rfl
  exact ⟨reached, by decide +kernel, by decide +kernel,
    fun entry member => ((lock_discipline reached).1 entry member).1⟩

end Program.Reaches

end PriorityKernel
