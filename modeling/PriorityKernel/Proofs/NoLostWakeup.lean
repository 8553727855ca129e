import PriorityKernel.Proofs.Machine.History
import PriorityKernel.Proofs.Scheduler.Awake

namespace PriorityKernel

open Machine

namespace Operation

open Scheduler

variable {state : Scheduler} {operation : Operation}

theorem awake (sound : state.Sound) (restless : ¬operation.Naps) {id : TaskId} (awake : state.Awake id) :
    (operation.outcome state).next.Awake id := by
  cases operation with
  | create => exact awake.create
  | prepare memoryShort owner entry argument => exact awake.prepare memoryShort owner entry argument
  | receive owner => exact awake.receive owner
  | send receiver message => exact awake.send receiver message
  | wakeup woken level => exact awake.wakeup woken level
  | setLevel moved level => exact awake.setLevel moved level
  | sleep => exact absurd trivial restless
  | switch sleeping =>
    cases sleeping with
    | true => exact absurd rfl restless
    | false => exact awake.switch sound

theorem parks_nobody_here (sound : state.Sound) (restless : ¬operation.Naps) {task : Task}
    (addressed : operation.addressee? = some task.id) (here : state.tasks.get? task.id = some task) (id : TaskId) :
    Deed.parked id ∉ (operation.outcome state).deeds := by
  cases operation with
  | create | switch => cases addressed
  | sleep => exact absurd trivial restless
  | prepare memoryShort owner entry argument =>
    cases addressed
    intro member
    cases (prepare_shift here memoryShort entry argument).2.2 _ member
  | receive owner =>
    cases addressed
    simp only [outcome, receive_eq here]
    cases task.messages <;> simp [Outcome.map, Outcome.pure]
  | send receiver message =>
    cases addressed
    have deeds : (outcome state (.send task.id message)).deeds = [.sent task.id message] :=
      (sound.send here message).2.2
    simp [deeds]
  | wakeup woken level =>
    cases addressed
    have deeds : (outcome state (.wakeup task.id level)).deeds = [] := (sound.wakeup here level).2.2
    simp [deeds]
  | setLevel moved level =>
    cases addressed
    have deeds : (outcome state (.setLevel task.id level)).deeds = [] := (sound.setLevel here level).2.2
    simp [deeds]

theorem parks_nobody (sound : state.Sound) (restless : ¬operation.Naps) (id : TaskId) :
    Deed.parked id ∉ (operation.outcome state).deeds := by
  cases addressed : operation.addressee? with
  | some owner =>
    rcases state.tasks.absent_or_here owner with absent | ⟨task, rfl, here⟩
    · simp [outcome_of_absent sound addressed absent, Outcome.refuse]
    · exact parks_nobody_here sound restless addressed here id
  | none =>
    cases operation with
    | create => simp [outcome, Outcome.map, Scheduler.create]
    | switch sleeping =>
      have stays : sleeping = false := Bool.eq_false_iff.mpr restless
      subst stays
      obtain ⟨_, _, _, _, _, made⟩ := sound.switch false
      have deeds : (outcome state (.switch false)).deeds = [] := by simp [outcome, made]
      simp [deeds]
    | prepare | receive | send | wakeup | setLevel | sleep => cases addressed

theorem send_wakes (sound : state.Sound) (attentive : state.Attentive) {id : TaskId} {message : Message}
    (any : ((Operation.send id message).outcome state).next.mailbox id ≠ []) :
    ((Operation.send id message).outcome state).next.Awake id := by
  rcases state.tasks.absent_or_here id with absent | ⟨task, rfl, here⟩
  · rw [outcome_of_absent sound rfl absent] at any ⊢
    exact attentive id any
  · obtain ⟨level, woken⟩ := sound.send_wakes here message
    have after := ((Operation.send task.id message).effect sound).sound sound
    exact after.awake_of_ready woken

/-- Whether an operation puts only such tasks to sleep for which no message waits. -/
def Heeds (state : Scheduler) (operation : Operation) : Prop :=
  ¬operation.Naps ∨ ∃ id, operation = .sleep id ∧ state.mailbox id = []

theorem attentive (sound : state.Sound) (attentive : state.Attentive) (heeds : operation.Heeds state) :
    (operation.outcome state).next.Attentive ∧
      ∀ id, Deed.parked id ∈ (operation.outcome state).deeds →
        (operation.outcome state).next.mailbox id = [] := by
  rcases heeds with restless | ⟨sleeper, rfl, empty⟩
  · refine ⟨fun id any => ?_, fun id member => absurd member (parks_nobody sound restless id)⟩
    rcases sent_or_waited sound operation any with before | ⟨message, rfl⟩
    · exact awake sound restless (attentive id before)
    · exact send_wakes sound attentive any
  · have same : ∀ id, ((Operation.sleep sleeper).outcome state).next.mailbox id = state.mailbox id :=
      mailbox_of_other sound (by simp) (by simp)
    obtain ⟨others, deeds⟩ := sound.sleep_own sleeper
    constructor
    · intro id any
      rw [same] at any
      refine others id (attentive id any) ?_
      rintro rfl
      exact any empty
    · intro id member
      have own : id = sleeper := Deed.parked.inj (deeds _ member)
      rw [same, own, empty]

end Operation

namespace Machine

variable {machine : Machine}

/-- Whoever had a message was awake, at every entry of the trace and now, and whoever went to sleep had
none. -/
def Attentive (machine : Machine) : Prop :=
  machine.kernel.sched.Attentive ∧ ∀ entry ∈ machine.trace, entry.kernel.sched.Attentive ∧
    ∀ id, entry.event = .did (.parked id) → entry.kernel.sched.mailbox id = []

theorem Attentive.note (attentive : machine.Attentive) {event : Event} (plain : event.Plain) (kernel : Kernel)
    (same : kernel.sched = machine.kernel.sched) : ∀ entry ∈ ⟨event, kernel⟩ :: machine.trace,
      entry.kernel.sched.Attentive ∧ ∀ id, entry.event = .did (.parked id) →
        entry.kernel.sched.mailbox id = [] := by
  refine List.forall_mem_cons.mpr ⟨⟨?_, fun id parked => ?_⟩, attentive.2⟩
  · rw [same]
    exact attentive.1
  · subst parked
    exact plain.elim

theorem Attentive.operate (attentive : machine.Attentive) (sound : machine.kernel.sched.Sound)
    {operation : Operation} (heeds : operation.Heeds machine.kernel.sched) : (machine.operate operation).Attentive := by
  obtain ⟨after, parked⟩ := Operation.attentive sound attentive.1 heeds
  obtain ⟨added, trace, records⟩ := machine.operate_trace operation
  unfold Attentive
  rw [machine.operate_sched, trace]
  refine ⟨after, List.forall_mem_append.mpr ⟨fun entry member => ?_, attentive.2⟩⟩
  obtain ⟨state, recorded⟩ := records entry member
  rw [state]
  refine ⟨after, fun id event => ?_⟩
  rcases recorded with ⟨deed, done, same⟩ | ⟨_, same⟩ | ⟨_, _, same⟩
  · rw [event] at same
    cases same
    exact parked id done
  · rw [event] at same
    cases same
  · rw [event] at same
    cases same

theorem Attentive.posts (attentive : machine.Attentive) (sound : machine.kernel.sched.Sound) (expired : List Timer) :
    (expired.foldl post machine).Attentive :=
  @History.posts_relate machine
    (fun before after => before.Attentive → after.Attentive) (fun _ attentive => attentive)
    (fun first second attentive => second (first attentive))
    (fun _ _ sound attentive => attentive.operate sound (Or.inl not_false)) sound expired attentive

theorem attentive_noted : Law.Records fun before after => before.Attentive → after.Attentive :=
  fun _ outside attentive => ⟨attentive.1, attentive.note outside.plain _ rfl⟩

theorem attentive_carries : Law.Carries (fun before after => before.Attentive → after.Attentive)
    fun step => ¬step.Naps where
  refl := fun _ attentive => attentive
  trans := fun first second attentive => second (first attentive)
  quiet := fun quiet attentive => by
    obtain ⟨now, before⟩ := attentive
    exact ⟨quiet.kernel.sched ▸ now, quiet.trace ▸ before⟩
  masked := fun _ inner => inner
  arrived := fun _ _ _ inner attentive =>
    inner ⟨attentive.1, attentive.note (show Event.interrupted.Plain from trivial) _ rfl⟩
  wrote := by
    intro machine notice _ _ attentive
    unfold Machine.write
    split
    · exact ⟨attentive.1, attentive.note (show (Event.logged notice).Plain from trivial) _ rfl⟩
    · exact attentive
  noted := fun calm passing => attentive_noted calm passing.outside
  granted := fun restless _ _ calm _ attentive => attentive.operate calm.sound (Or.inl restless)
  dozed := fun id calm _ empty attentive => attentive.operate calm.sound (Or.inr ⟨id, rfl, empty⟩)
  napped := fun awake naps => absurd naps awake
  collected := fun _ _ _ calm _ attentive => attentive.operate calm.sound (Or.inl not_false)
  added := fun _ _ attentive => attentive
  ticked := by
    intro machine calm _ attentive
    exact @Attentive.posts machine.advance attentive calm.sound machine.kernel.timers.tick.expired
  flagged := fun _ _ _ _ _ attentive => attentive

/-- Steps that put no task to sleep by themselves keep everybody attentive. -/
theorem attentive_bears : Law.Bears (fun before after => before.Attentive → after.Attentive)
    fun step => ¬step.Naps :=
  attentive_carries.bears attentive_noted fun _ calm _ attentive => attentive.operate calm.sound (Or.inl not_false)

end Machine

namespace Program.Reaches

variable {program : Program} {machine : Machine}

/-- In a run whose scripts, at any depth, ask for no bare sleep, everybody with a message runs and stands
in the queue of his level, at every moment; and whoever went to sleep had no message then. -/
theorem no_lost_wakeup (waiting : scriptWithin (fun step => ¬step.Naps) program.script)
    (reached : program.Reaches machine) :
    (∀ kernel ∈ machine.kernels, ∀ id task, kernel.sched.tasks.get? id = some task → task.messages ≠ [] →
      task.running = true ∧ id ∈ kernel.sched.ready.queue task.level) ∧
    ∀ entry ∈ machine.trace, ∀ id, entry.event = .did (.parked id) → entry.kernel.sched.mailbox id = [] := by
  have start : program.fresh.Attentive :=
    ⟨fun id any => absurd (Scheduler.initial_mailbox _ id) any, by simp [Program.fresh]⟩
  obtain ⟨now, before⟩ := (reached.obeys_within Machine.attentive_bears waiting).1 start
  have everywhere : ∀ kernel ∈ machine.kernels, kernel.sched.Attentive :=
    List.forall_mem_cons.mpr ⟨now, List.forall_mem_map.mpr fun entry member => (before entry member).1⟩
  refine ⟨fun kernel member id task here any => ?_, fun entry member => (before entry member).2⟩
  have full : kernel.sched.mailbox id ≠ [] := by
    rw [Scheduler.mailbox_of_get? here]
    exact any
  obtain ⟨same, found, running⟩ := everywhere kernel member id full
  rw [here] at found
  cases found
  exact ⟨running, (reached.sound kernel member).mem_own_queue here running⟩

/-- A run in which tasks wait for messages that come out of a switch, an interrupt, a timer and the
acknowledgement of an interrupt. -/
def patient : Program where
  core := .kernel
  filter := .standard
  memoryShort := false
  script := [.create [.prepare false 0x1000 0, .wakeup (some 2)], .hook [.send 3 ⟨1, .layerFinish⟩], .wait 3,
    .hook [.raise [.send 1 Message.deviceInterrupt]], .loop 2 .recording, .addTimer ⟨1, 7⟩,
    .timerInterrupt 2 [.send 3 ⟨1, .layerFinish⟩], .forever .kernel]

theorem patient_no_lost_wakeup : patient.Reaches patient.ending ∧
    scriptWithin (fun step => ¬step.Naps) patient.script ∧
    (patient.ending.trace.countP fun entry => entry.event matches .did (.parked _)) = 3 ∧
    ∀ entry ∈ patient.ending.trace, ∀ id, entry.event = .did (.parked id) →
      entry.kernel.sched.mailbox id = [] := by
  have waiting : scriptWithin (fun step => ¬step.Naps) patient.script := by
    simp [patient, scriptWithin, Step.Within, Step.Naps]
  have reached : patient.Reaches patient.ending := reaches_ending rfl
  exact ⟨reached, waiting, by decide +kernel, (no_lost_wakeup waiting reached).2⟩

end Program.Reaches

end PriorityKernel
