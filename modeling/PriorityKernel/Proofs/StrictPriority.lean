import PriorityKernel.Proofs.Machine.History

namespace PriorityKernel

namespace Scheduler

variable {state : Scheduler} {id outgoing : TaskId}

/-- Whoever is ready above the current level has been announced. -/
def Alert (state : Scheduler) : Prop :=
  ∀ level, state.currentLevel < level → state.ready.queue level ≠ [] → state.levelChanged = true

/-- A decision that always looks through all levels, from the highest down: the queues after it, the
level it picks, and the task in front there. -/
def rescan (state : Scheduler) (sleeping : Bool) : Option (ReadyQueues × Level × TaskId) := do
  let outgoing ← state.current?
  let left := state.ready.popFront state.currentLevel
  let ready :=
    if sleeping && outgoing != state.idle then left else left.pushBack state.currentLevel outgoing
  let level ← Level.descending.find? fun level => !(ready.queue level).isEmpty
  let incoming ← (ready.queue level).head?
  return (ready, level, incoming)

theorem initial_alert (memory : Memory) : (initial memory).Alert := by
  intro level above
  have none : ∀ level : Level, ¬Level.top < level := by decide
  exact absurd above (none level)

/-- Every change that can put a task above the current level announces it. -/
theorem Shift.alert {next : Scheduler} (shift : state.Shift id next) (alert : state.Alert) : next.Alert := by
  cases shift with
  | stay => exact alert
  | created => exact alert
  | equipped => exact alert
  | relevelled => exact alert
  | @woken task here asleep level =>
    intro higher above someone
    show (decide (state.currentLevel < level) || state.levelChanged) = true
    rw [Bool.or_eq_true, decide_eq_true_eq]
    by_cases same : higher = level
    · exact Or.inl (same ▸ above)
    · have before : state.ready.queue higher ≠ [] := by
        simpa [enqueue, ReadyQueues.pushBack, ReadyQueues.queue_update, same] using someone
      exact Or.inr (alert higher above before)
  | @carried task here running executing mobile level =>
    intro higher above someone
    show (decide (level < state.currentLevel) || state.levelChanged) = true
    rw [Bool.or_eq_true, decide_eq_true_eq]
    -- a level that is above the new one but not above the old one can only be there if the task went down
    by_cases down : level < state.currentLevel
    · exact Or.inl down
    · have old : state.currentLevel < higher := Fin.lt_of_le_of_lt (Fin.not_lt.mp down) above
      have before : state.ready.queue higher ≠ [] := by
        simpa [ReadyQueues.pushFront, ReadyQueues.popFront, ReadyQueues.queue_update, Fin.ne_of_gt above,
          Fin.ne_of_gt old] using someone
      exact Or.inr (alert higher old before)
  | @migrated task here running waiting mobile level =>
    intro higher above someone
    show (decide (state.currentLevel < level) || state.levelChanged) = true
    rw [Bool.or_eq_true, decide_eq_true_eq]
    by_cases same : higher = level
    · exact Or.inl (same ▸ above)
    · have left : (state.ready.erase task.level task.id).queue higher ≠ [] := by
        simpa [ReadyQueues.pushBack, ReadyQueues.queue_update, same] using someone
      exact Or.inr (alert higher above (ReadyQueues.queue_ne_nil_of_erase left))
  | @dismissed task here running waiting mobile =>
    exact fun higher above someone => alert higher above (ReadyQueues.queue_ne_nil_of_erase someone)

theorem aside_ready (sleeping : Bool) (outgoing : TaskId) : (state.aside sleeping outgoing).ready =
    if sleeping && outgoing != state.idle then state.ready.popFront state.currentLevel
    else (state.ready.popFront state.currentLevel).pushBack state.currentLevel outgoing := by
  have parked : (state.park outgoing).ready = state.ready.popFront state.currentLevel := by
    unfold Scheduler.park
    dsimp only
    split <;> rfl
  unfold Scheduler.aside
  by_cases parks : sleeping = true ∧ outgoing ≠ state.idle
  · rw [if_pos parks, parked]
    simp [parks]
  · have stays : (sleeping && outgoing != state.idle) = false := by simpa using parks
    rw [if_neg parks, stays]
    rfl

theorem aside_level (state : Scheduler) (sleeping : Bool) (outgoing : TaskId) :
    (state.aside sleeping outgoing).currentLevel = state.currentLevel ∧
      (state.aside sleeping outgoing).levelChanged = state.levelChanged := by
  unfold Scheduler.aside Scheduler.park
  dsimp only
  split
  · split
    · exact ⟨rfl, rfl⟩
    · exact ⟨rfl, rfl⟩
  · exact ⟨rfl, rfl⟩

theorem Alert.aside (alert : state.Alert) (sleeping : Bool) (outgoing : TaskId) :
    (state.aside sleeping outgoing).Alert := by
  obtain ⟨level, changed⟩ := aside_level state sleeping outgoing
  intro higher above someone
  rw [level] at above
  rw [changed]
  refine alert higher above ?_
  rw [aside_ready] at someone
  split at someone
  · simpa [ReadyQueues.popFront, ReadyQueues.queue_update, Fin.ne_of_gt above] using someone
  · simpa [ReadyQueues.pushBack, ReadyQueues.popFront, ReadyQueues.queue_update, Fin.ne_of_gt above] using someone

/-- With announcements the shortcut misses nothing: settling finds the highest level. -/
theorem Alert.settle (alert : state.Alert) (placed : state.Placed) :
    state.ready.highest? = some state.settle.currentLevel := by
  obtain ⟨highest, found⟩ := ReadyQueues.exists_highest? placed.idle_ready
  obtain ⟨ready, top⟩ := ReadyQueues.of_highest? found
  rw [found]
  unfold Scheduler.settle
  split
  · rw [found]
    rfl
  · next calm =>
    simp only [Bool.or_eq_true, not_or, Bool.not_eq_true, List.isEmpty_eq_false_iff] at calm
    obtain ⟨quiet, busy⟩ := calm
    rcases Nat.lt_trichotomy highest.val state.currentLevel.val with below | same | above
    · exact absurd (top _ below) busy
    · rw [Fin.ext same]
    · have announced := alert highest above ready
      rw [quiet] at announced
      cases announced

theorem Alert.rescan_switch (alert : state.Alert) (sound : state.Sound) (sleeping : Bool) :
    ∃ incoming, (state.switch sleeping).next.current? = some incoming ∧
      state.rescan sleeping =
        some ((state.switch sleeping).next.ready, (state.switch sleeping).next.currentLevel, incoming) ∧
      ∀ higher, (state.switch sleeping).next.currentLevel < higher →
        (state.switch sleeping).next.ready.queue higher = [] := by
  obtain ⟨outgoing, incoming, executing, _, chosen, made⟩ := sound.switch sleeping
  have highest := (alert.aside sleeping outgoing).settle (sound.aside executing sleeping)
  have top := (ReadyQueues.of_highest? highest).2
  have front : ((state.aside sleeping outgoing).ready.queue
      (state.aside sleeping outgoing).settle.currentLevel).head? = some incoming := by
    rw [← settle_ready]
    exact chosen
  rw [made]
  refine ⟨incoming, chosen, ?_, fun higher above => ?_⟩
  · rw [ReadyQueues.highest?, aside_ready] at highest
    rw [aside_ready] at front
    simp only [rescan, executing, Option.bind_eq_bind, Option.bind_some, highest, front, settle_ready, aside_ready]
    rfl
  · rw [settle_ready]
    exact top higher above

end Scheduler

namespace Operation

open Scheduler

variable {state : Scheduler} {operation : Operation}

/-- Whether a decision means to put the executing task to sleep. -/
def sleeping : Operation → Bool
  | switch sleeping => sleeping
  | _ => true

theorem outcome_of_decides (sound : state.Sound) (decides : operation.Decides state) :
    operation.outcome state = state.switch operation.sleeping := by
  cases operation with
  | sleep id => exact sound.sleep_deciding decides
  | switch sleeping => rfl
  | create | prepare | receive | send | wakeup | setLevel => exact decides.elim

theorem alert (sound : state.Sound) (alert : state.Alert) (operation : Operation) :
    (operation.outcome state).next.Alert := by
  cases operation.effect sound with
  | shifted _ shift => exact shift.alert alert
  | taken here _ next =>
    rw [next]
    exact alert
  | sent here shift => exact shift.alert alert
  | decided decides executing next _ _ _ _ =>
    rw [outcome_of_decides sound decides]
    obtain ⟨_, _, _, top⟩ := alert.rescan_switch sound operation.sleeping
    exact fun higher above someone => absurd (top higher above) someone

end Operation

namespace Scheduler

/-- Whoever is in front at the current level is in front at the highest level that is ready. -/
def TopFront (state : Scheduler) (id : TaskId) : Prop :=
  state.current? = some id ∧ ∀ higher, state.currentLevel < higher → state.ready.queue higher = []

end Scheduler

theorem switches_stable : History.Stable fun state trace => state.Alert ∧
    ∀ entry ∈ trace, ∀ ends, entry.event = .switched ends → entry.kernel.sched.TopFront ends.load := by
  refine History.stable_entries (fun _ operation sound alert => operation.alert sound alert) ?_ ?_
  · rintro event kernel plain _ ends rfl
    exact plain.elim
  · rintro state operation entry sound alert ⟨after, recorded⟩ ends switched
    obtain ⟨_, _, event⟩ | ⟨_, event⟩ | ⟨others, reply, event⟩ := recorded
    · rw [event] at switched
      cases switched
    · rw [event] at switched
      cases switched
    · rw [event] at switched
      cases switched
      obtain ⟨decides, _, loaded, _⟩ := (operation.effect sound).handover reply
      obtain ⟨_, _, _, top⟩ := alert.rescan_switch sound operation.sleeping
      rw [← Operation.outcome_of_decides sound decides] at top
      rw [after]
      exact ⟨loaded, top⟩

namespace Program.Reaches

variable {program : Program} {machine : Machine}

theorem alert (reached : program.Reaches machine) : ∀ kernel ∈ machine.kernels, kernel.sched.Alert :=
  reached.everywhere (Scheduler.initial_alert _) fun _ operation sound alert => operation.alert sound alert

/-- At every moment of every run whoever is ready above the current level has been announced. A
decision made there comes out as a look through all levels would have it, and picks the front of the
highest queue that is not empty; so did every switch of the run. -/
theorem strict_priority (reached : program.Reaches machine) :
    (∀ kernel ∈ machine.kernels,
      (∀ level, kernel.sched.currentLevel < level → kernel.sched.ready.queue level ≠ [] →
        kernel.sched.levelChanged = true) ∧
      ∀ operation : Operation, operation.Decides kernel.sched →
        ∃ incoming, (operation.outcome kernel.sched).next.TopFront incoming ∧
          kernel.sched.rescan operation.sleeping = some ((operation.outcome kernel.sched).next.ready,
            (operation.outcome kernel.sched).next.currentLevel, incoming)) ∧
    ∀ entry ∈ machine.trace, ∀ ends, entry.event = .switched ends → entry.kernel.sched.TopFront ends.load := by
  have announced := reached.alert
  refine ⟨fun kernel member => ⟨announced kernel member, fun operation decides => ?_⟩, ?_⟩
  · have sound := reached.sound kernel member
    obtain ⟨incoming, front, found, top⟩ := (announced kernel member).rescan_switch sound operation.sleeping
    rw [Operation.outcome_of_decides sound decides]
    exact ⟨incoming, ⟨front, top⟩, found⟩
  · exact (reached.keeps switches_stable ⟨Scheduler.initial_alert _, by simp⟩).2

/-- A run in which an interrupt wakes a task above the executing one, which steps aside later. -/
def overtaken : Program where
  core := .kernel
  filter := .standard
  memoryShort := false
  script := [.create [.prepare false 0x1000 0, .setLevel 3], .setLevel 1 1, .raise [.wakeup 3 none], .switch false,
    .switch true, .sleep 3]

/-- Its two switches go up to the highest level and down to the lowest one. -/
theorem overtaken_strict_priority : overtaken.Reaches overtaken.ending ∧
    (overtaken.ending.trace.reverse.filterMap fun entry =>
      match entry.event with
      | .switched ends => some (ends, entry.kernel.sched.currentLevel.val)
      | _ => none) = [(⟨1, 3⟩, 3), (⟨3, 2⟩, 0)] ∧
    (∀ operation : Operation, operation.Decides overtaken.ending.kernel.sched →
      ∃ incoming, (operation.outcome overtaken.ending.kernel.sched).next.TopFront incoming) ∧
    ∀ entry ∈ overtaken.ending.trace, ∀ ends, entry.event = .switched ends →
      entry.kernel.sched.TopFront ends.load := by
  have reached : overtaken.Reaches overtaken.ending := reaches_ending rfl
  obtain ⟨everywhere, switched⟩ := strict_priority reached
  refine ⟨reached, by decide +kernel, fun operation decides => ?_, switched⟩
  obtain ⟨incoming, top, _⟩ := (everywhere _ overtaken.ending.kernel_mem_kernels).2 operation decides
  exact ⟨incoming, top⟩

end Program.Reaches

end PriorityKernel
