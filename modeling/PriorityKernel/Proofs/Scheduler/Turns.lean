import PriorityKernel.Proofs.StrictPriority
import Mathlib.Data.List.Rotate

namespace PriorityKernel

namespace Scheduler

variable {state next : Scheduler} {id moved outgoing : TaskId} {ahead : Nat}

/-- Nobody is ready above the current level. -/
def Topmost (state : Scheduler) : Prop := ∀ higher, state.currentLevel < higher → state.ready.queue higher = []

/-- A task waits its turn at the current level, with no more than so many tasks before it. -/
def Waits (state : Scheduler) (id : TaskId) (ahead : Nat) : Prop :=
  ∃ before after, state.ready.queue state.currentLevel = before ++ id :: after ∧ before.length ≤ ahead

theorem waits_of_getElem? {place : Nat} (there : (state.ready.queue state.currentLevel)[place]? = some id) :
    state.Waits id place := by
  obtain ⟨inside, here⟩ := List.getElem?_eq_some_iff.mp there
  refine ⟨(state.ready.queue state.currentLevel).take place, (state.ready.queue state.currentLevel).drop (place + 1),
    ?_, List.length_take_le ..⟩
  rw [← here, List.getElem_cons_drop, List.take_append_drop]

theorem Waits.current (waits : state.Waits id 0) : state.current? = some id := by
  obtain ⟨before, after, whole, few⟩ := waits
  have none : before = [] := List.length_eq_zero_iff.mp (Nat.le_zero.mp few)
  rw [current?, whole, none]
  rfl

/-- Nobody stands in a queue twice. -/
theorem Placed.nodup_queue (placed : state.Placed) (level : Level) : (state.ready.queue level).Nodup := by
  rw [List.nodup_iff_count_le_one]
  intro id
  rw [placed.seated]
  rcases state.tasks.absent_or_here id with absent | ⟨task, rfl, here⟩
  · rw [TaskTable.seats_of_absent absent]
    exact Nat.zero_le 1
  · rw [TaskTable.seats_of_get? here, Task.seats]
    split
    · exact Nat.le_refl 1
    · exact Nat.zero_le 1

theorem settle_level (busy : state.ready.queue state.currentLevel ≠ []) (top : state.Topmost) :
    state.settle.currentLevel = state.currentLevel := by
  obtain ⟨highest, found⟩ := ReadyQueues.exists_highest? busy
  obtain ⟨ready, none⟩ := ReadyQueues.of_highest? found
  unfold Scheduler.settle
  split
  · rw [found]
    rcases Nat.lt_trichotomy highest.val state.currentLevel.val with below | same | above
    · exact absurd (none _ below) busy
    · exact Fin.ext same
    · exact absurd (top highest above) ready
  · rfl

/-- What becomes of the queues in a decision at the highest ready level, at which somebody waits. -/
structure Turned (state next : Scheduler) (sleeping : Bool) : Prop where
  level : next.currentLevel = state.currentLevel
  queue : ∀ outgoing rest, state.ready.queue state.currentLevel = outgoing :: rest →
    next.ready.queue state.currentLevel = rest ++ if sleeping && outgoing != state.idle then [] else [outgoing]
  others : ∀ other, other ≠ state.currentLevel → next.ready.queue other = state.ready.queue other

theorem Sound.turned (sound : state.Sound) (top : state.Topmost) (sleeping : Bool)
    (someone : ∀ outgoing, state.ready.queue state.currentLevel = [outgoing] → sleeping = false) :
    state.Turned (state.switch sleeping).next sleeping := by
  obtain ⟨outgoing, incoming, executing, _, _, made⟩ := sound.switch sleeping
  obtain ⟨rest, whole⟩ := List.head?_eq_some_iff.mp executing
  obtain ⟨level, _⟩ := aside_level state sleeping outgoing
  have own : (state.aside sleeping outgoing).ready.queue state.currentLevel =
      rest ++ if sleeping && outgoing != state.idle then [] else [outgoing] := by
    rw [aside_ready]
    split
    · simp [ReadyQueues.popFront, whole]
    · simp [ReadyQueues.popFront, ReadyQueues.pushBack, whole]
  have others : ∀ other, other ≠ state.currentLevel →
      (state.aside sleeping outgoing).ready.queue other = state.ready.queue other := by
    intro other distinct
    rw [aside_ready]
    split
    · exact ReadyQueues.queue_update_of_ne _ distinct
    · exact (ReadyQueues.queue_update_of_ne _ distinct).trans (ReadyQueues.queue_update_of_ne _ distinct)
  have busy : (state.aside sleeping outgoing).ready.queue (state.aside sleeping outgoing).currentLevel ≠ [] := by
    rw [level, own]
    cases rest with
    | nil => simp [someone outgoing whole]
    | cons => simp
  have topmost : (state.aside sleeping outgoing).Topmost := by
    intro higher above
    rw [level] at above
    rw [others higher (Fin.ne_of_gt above)]
    exact top higher above
  rw [made]
  refine ⟨(settle_level busy topmost).trans level, ?_, ?_⟩
  · intro first later same
    rw [whole] at same
    cases same
    rw [settle_ready]
    exact own
  · intro other distinct
    rw [settle_ready]
    exact others other distinct

theorem Turned.topmost {sleeping : Bool} (turned : state.Turned next sleeping) (top : state.Topmost) :
    next.Topmost := by
  intro higher above
  rw [turned.level] at above
  rw [turned.others higher (Fin.ne_of_gt above)]
  exact top higher above

/-- Everybody but the one in front moves up. -/
theorem Sound.switch_waits (sound : state.Sound) (top : state.Topmost) (sleeping : Bool)
    (waits : state.Waits id (ahead + 1)) (behind : state.current? ≠ some id) :
    (state.switch sleeping).next.Waits id ahead ∧ (state.switch sleeping).next.currentLevel = state.currentLevel := by
  obtain ⟨before, after, whole, few⟩ := waits
  cases before with
  | nil => exact absurd (by rw [current?, whole]; rfl) behind
  | cons outgoing before =>
    have turned := sound.turned top sleeping (by simp [whole])
    refine ⟨⟨before, after ++ if sleeping && outgoing != state.idle then [] else [outgoing], ?_, ?_⟩,
      turned.level⟩
    · rw [turned.level, turned.queue outgoing (before ++ id :: after) whole, List.append_assoc, List.cons_append]
    · exact Nat.le_of_succ_le_succ few

theorem Waits.of_queue (waits : state.Waits id ahead) (level : next.currentLevel = state.currentLevel)
    (queue : next.ready.queue state.currentLevel = state.ready.queue state.currentLevel) : next.Waits id ahead := by
  obtain ⟨before, after, whole, few⟩ := waits
  exact ⟨before, after, by rw [level, queue, whole], few⟩

/-- Whoever lines up lines up behind. -/
theorem Waits.pushBack {ready : ReadyQueues} (waits : { state with ready }.Waits id ahead) (place : Level) :
    { state with ready := ready.pushBack place moved }.Waits id ahead := by
  obtain ⟨before, after, whole, few⟩ := waits
  have queue : ready.queue state.currentLevel = before ++ id :: after := whole
  by_cases same : state.currentLevel = place
  · refine ⟨before, after ++ [moved], ?_, few⟩
    show (ready.pushBack place moved).queue state.currentLevel = before ++ id :: (after ++ [moved])
    rw [ReadyQueues.pushBack, ReadyQueues.queue_update, if_pos same, ← same, queue, List.append_assoc,
      List.cons_append]
  · refine ⟨before, after, ?_, few⟩
    show (ready.pushBack place moved).queue state.currentLevel = before ++ id :: after
    rw [ReadyQueues.pushBack, ReadyQueues.queue_update_of_ne _ same, queue]

/-- Whoever leaves a queue pushes nobody back. -/
theorem Waits.erase (waits : state.Waits id ahead) (distinct : moved ≠ id) (place : Level) :
    { state with ready := state.ready.erase place moved }.Waits id ahead := by
  obtain ⟨before, after, whole, few⟩ := waits
  by_cases same : state.currentLevel = place
  · by_cases inside : moved ∈ before
    · refine ⟨before.erase moved, after, ?_, (List.length_erase_le ..).trans few⟩
      show (state.ready.erase place moved).queue state.currentLevel = before.erase moved ++ id :: after
      rw [ReadyQueues.erase, ReadyQueues.queue_update, if_pos same, ← same, whole, List.erase_append_left _ inside]
    · refine ⟨before, after.erase moved, ?_, few⟩
      show (state.ready.erase place moved).queue state.currentLevel = before ++ id :: after.erase moved
      rw [ReadyQueues.erase, ReadyQueues.queue_update, if_pos same, ← same, whole, List.erase_append_right _ inside,
        List.erase_cons_tail (by simpa using distinct.symm)]
  · refine ⟨before, after, ?_, few⟩
    show (state.ready.erase place moved).queue state.currentLevel = before ++ id :: after
    rw [ReadyQueues.erase, ReadyQueues.queue_update_of_ne _ same, whole]

theorem Shift.waits (shift : state.Shift moved next) (distinct : moved ≠ id) (waiting : state.current? ≠ some moved)
    (waits : state.Waits id ahead) : next.Waits id ahead ∧ next.currentLevel = state.currentLevel := by
  cases shift with
  | stay | created | equipped | relevelled => exact ⟨waits.of_queue rfl rfl, rfl⟩
  | @woken task here asleep level =>
    have lined : { state with ready := state.ready.pushBack level task.id }.Waits id ahead := waits.pushBack level
    exact ⟨lined.of_queue rfl rfl, rfl⟩
  | carried _ _ executing => exact absurd executing waiting
  | @migrated task here running _ mobile level =>
    exact ⟨((waits.erase distinct task.level).pushBack level).of_queue rfl rfl, rfl⟩
  | @dismissed task => exact ⟨(waits.erase distinct task.level).of_queue rfl rfl, rfl⟩

end Scheduler

namespace Operation

open Scheduler

variable {state : Scheduler} {operation : Operation} {id : TaskId} {ahead : Nat}

instance (state : Scheduler) : (operation : Operation) → Decidable (operation.Decides state)
  | sleep id => inferInstanceAs (Decidable (state.current? = some id ∧ id ≠ state.idle))
  | switch _ => isTrue trivial
  | create | prepare .. | receive _ | send .. | wakeup .. | setLevel .. => isFalse not_false

theorem shift_of_addressee (sound : state.Sound) {addressee : TaskId}
    (addressed : operation.addressee? = some addressee)
    (undecided : ¬operation.Decides state) : ∃ base : Scheduler, base.ready = state.ready ∧
      base.currentLevel = state.currentLevel ∧ base.Shift addressee (operation.outcome state).next := by
  rcases state.tasks.absent_or_here addressee with absent | ⟨task, rfl, here⟩
  · rw [outcome_of_absent sound addressed absent]
    exact ⟨state, rfl, rfl, .stay⟩
  cases operation with
  | create | switch => cases addressed
  | prepare memoryShort _ entry argument =>
    cases addressed
    exact ⟨state, rfl, rfl, (prepare_shift here memoryShort entry argument).1⟩
  | receive =>
    cases addressed
    simp only [outcome, receive_eq here]
    cases task.messages with
    | nil => exact ⟨state, rfl, rfl, .stay⟩
    | cons message rest => exact ⟨state.repost task rest, rfl, rfl, .stay⟩
  | send _ message =>
    cases addressed
    exact ⟨state.repost task (task.messages ++ [message]), rfl, rfl, (sound.send here message).1⟩
  | wakeup _ level =>
    cases addressed
    exact ⟨state, rfl, rfl, (sound.wakeup here level).1⟩
  | setLevel _ level =>
    cases addressed
    exact ⟨state, rfl, rfl, (sound.setLevel here level).1⟩
  | sleep =>
    cases addressed
    exact ⟨state, rfl, rfl, (sound.sleep_waiting here undecided).1⟩

/-- Whether an operation leaves a task and the executing one alone: it makes a new task, or it is
addressed to another task, which does not execute. The idle task's sleep is refused, so that it concerns
nobody. -/
structure Elsewhere (operation : Operation) (state : Scheduler) (id : TaskId) : Prop where
  undecided : ¬operation.Decides state
  other : ∀ addressee, operation.addressee? = some addressee →
    operation = .sleep state.idle ∨ addressee ≠ id ∧ state.current? ≠ some addressee

theorem Elsewhere.waits (elsewhere : operation.Elsewhere state id) (sound : state.Sound)
    (waits : state.Waits id ahead) : (operation.outcome state).next.Waits id ahead ∧
      (operation.outcome state).next.currentLevel = state.currentLevel := by
  cases addressed : operation.addressee? with
  | none =>
    cases operation with
    | create => exact ⟨waits.of_queue rfl rfl, rfl⟩
    | switch => exact absurd trivial elsewhere.undecided
    | prepare | receive | send | wakeup | setLevel | sleep => cases addressed
  | some addressee =>
    rcases elsewhere.other addressee addressed with rfl | ⟨distinct, waiting⟩
    · have same : ((sleep state.idle).outcome state).next = state := by
        simp only [outcome, Scheduler.sleep, if_true, Outcome.noting, Outcome.pure]
      rw [same]
      exact ⟨waits, rfl⟩
    · obtain ⟨base, ready, level, shift⟩ := shift_of_addressee sound addressed elsewhere.undecided
      have executing : base.current? ≠ some addressee := by
        rw [current?, ready, level]
        exact waiting
      have before : base.Waits id ahead := waits.of_queue level (congrArg (·.queue state.currentLevel) ready)
      obtain ⟨after, kept⟩ := shift.waits distinct executing before
      exact ⟨after, kept.trans level⟩

/-- A decision brings a task that waits its turn one place nearer. -/
theorem decides_waits (sound : state.Sound) (top : state.Topmost) (decides : operation.Decides state)
    (waits : state.Waits id (ahead + 1)) (behind : state.current? ≠ some id) :
    (operation.outcome state).next.Waits id ahead ∧
      (operation.outcome state).next.currentLevel = state.currentLevel := by
  rw [outcome_of_decides sound decides]
  exact sound.switch_waits top operation.sleeping waits behind

end Operation

end PriorityKernel
