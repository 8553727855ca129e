import PriorityKernel.Proofs.Machine.Ticks
import PriorityKernel.Proofs.Scheduler.Mailbox
import PriorityKernel.Proofs.Scheduler.Readiness
import PriorityKernel.Proofs.StrictPriority

namespace PriorityKernel

open Machine

/-- The message that tells the event loop of a timer. -/
def Timer.message (timer : Timer) : Message := ⟨TaskId.kernel, .timerTimeout timer.timeout timer.value⟩

namespace Scheduler

variable {state : Scheduler} {id : TaskId}

/-- The scheduler after the event loop was told of some timers, one after another. -/
def notified (state : Scheduler) (expired : List Timer) : Scheduler :=
  expired.foldl (fun state timer => (state.send TaskId.eventLoop timer.message).next) state

/-- Messages to the event loop are recorded, and no line is logged for them: it needs no stack. -/
theorem Sound.send_event_loop_recorded (sound : state.Sound) (message : Message) :
    (state.send TaskId.eventLoop message).deeds = [.sent TaskId.eventLoop message] ∧
      (state.send TaskId.eventLoop message).notices = [] := by
  obtain ⟨task, here⟩ := sound.event_loop_task
  have same := TaskTable.id_of_get? here
  rw [← same] at here
  have posted := get?_repost here (task.messages ++ [message])
  constructor
  · rw [← same]
    exact (sound.send here message).2.2
  · rw [← same, Scheduler.send, withTask_some here]
    show ((state.repost task (task.messages ++ [message])).wakeup task.id none).notices = []
    rw [Scheduler.wakeup, withTask_some posted]
    split
    · rfl
    · simp [same]

theorem Sound.notified (sound : state.Sound) (expired : List Timer) : (state.notified expired).Sound := by
  induction expired generalizing state with
  | nil => exact sound
  | cons timer rest ih => exact ih (sound.send_event_loop timer.message).2

/-- The event loop finds a message for every timer, and nobody else does. -/
theorem Sound.notified_mailbox (sound : state.Sound) (expired : List Timer) (id : TaskId) :
    (state.notified expired).mailbox id =
      state.mailbox id ++ if id = TaskId.eventLoop then expired.map Timer.message else [] := by
  induction expired generalizing state with
  | nil => simp [Scheduler.notified]
  | cons timer rest ih =>
    have told := sound.send_event_loop_mailbox timer.message id
    have later := ih (sound.send_event_loop timer.message).2
    rw [told, List.append_assoc] at later
    refine later.trans ?_
    split
    · rfl
    · rfl

theorem notified_ready (state : Scheduler) (expired : List Timer) :
    (state.notified expired).currentLevel = state.currentLevel ∧
      ∀ id level, id ∈ state.ready.queue level → id ∈ (state.notified expired).ready.queue level := by
  induction expired generalizing state with
  | nil => exact ⟨rfl, fun _ _ member => member⟩
  | cons timer rest ih =>
    obtain ⟨level, ready⟩ := state.send_ready TaskId.eventLoop timer.message
    obtain ⟨levelLast, readyLast⟩ := ih (state.send TaskId.eventLoop timer.message).next
    exact ⟨levelLast.trans level, fun id place member => readyLast id place (ready id place member)⟩

theorem Sound.notified_wakes (sound : state.Sound) {expired : List Timer} (any : expired ≠ []) :
    ∃ level, TaskId.eventLoop ∈ (state.notified expired).ready.queue level := by
  obtain ⟨timer, rest, rfl⟩ := List.exists_cons_of_ne_nil any
  obtain ⟨task, here⟩ := sound.event_loop_task
  obtain ⟨level, woken⟩ := sound.send_wakes here timer.message
  exact ⟨level, (notified_ready _ rest).2 TaskId.eventLoop level woken⟩

theorem Alert.notified (alert : state.Alert) (sound : state.Sound) (expired : List Timer) :
    (state.notified expired).Alert := by
  induction expired generalizing state with
  | nil => exact alert
  | cons timer rest ih =>
    exact ih (Operation.alert sound alert (.send TaskId.eventLoop timer.message))
      (sound.send_event_loop timer.message).2

end Scheduler

namespace Machine

variable {machine : Machine}

theorem posts_eq (machine : Machine) (expired : List Timer) : expired.foldl post machine =
    { machine with
      kernel.sched := machine.kernel.sched.notified expired
      trace := (expired.foldl post machine).trace } := by
  induction expired generalizing machine with
  | nil => rfl
  | cons timer rest ih => exact ih (machine.post timer)

theorem post_trace (sound : machine.kernel.sched.Sound) (timer : Timer) : (machine.post timer).trace =
    ⟨.did (.sent TaskId.eventLoop timer.message),
      ((machine.post timer).hold .scheduler).kernel⟩ :: machine.trace := by
  obtain ⟨deeds, notices⟩ := sound.send_event_loop_recorded timer.message
  have recorded : ∀ inside : Machine, inside.sectionEntries
    (machine.kernel.sched.send TaskId.eventLoop timer.message) =
      [⟨.did (.sent TaskId.eventLoop timer.message), inside.kernel⟩] := by
    intro inside
    rw [sectionEntries, deeds, notices]
    rfl
  exact congrArg (· ++ machine.trace) (recorded _)

theorem posts_trace (expired : List Timer) (sound : machine.kernel.sched.Sound) :
    ∃ added, (expired.foldl post machine).trace = added ++ machine.trace ∧
      added.map (·.event) = (expired.map fun timer => Event.did (.sent TaskId.eventLoop timer.message)).reverse ∧
      ∀ entry ∈ added, entry.kernel.timers = machine.kernel.timers := by
  induction expired generalizing machine with
  | nil => exact ⟨[], rfl, rfl, by simp⟩
  | cons timer rest ih =>
    obtain ⟨added, trace, events, timers⟩ := @ih (machine.post timer) (sound.send_event_loop timer.message).2
    rw [post_trace sound timer, List.append_cons] at trace
    refine ⟨_, trace, ?_, List.forall_mem_append.mpr ⟨timers, List.forall_mem_singleton.mpr rfl⟩⟩
    simp only [List.map_append, events, List.map_cons, List.map_nil, List.reverse_cons]

theorem ticked_eq (machine : Machine) : machine.ticked =
    { machine with
      kernel.timers := machine.kernel.timers.tick.queue
      kernel.sched := machine.kernel.sched.notified machine.kernel.timers.tick.expired
      trace := machine.ticked.trace } := by
  have posted := posts_eq machine.advance machine.kernel.timers.tick.expired
  rw [ticked, posted]
  simp only [release, advance, hold, List.erase_cons_head]

theorem ticked_timers (machine : Machine) : machine.ticked.kernel.timers = machine.kernel.timers.tick.queue := by
  rw [ticked_eq]

theorem ticked_sched (machine : Machine) : machine.ticked.kernel.sched =
    machine.kernel.sched.notified machine.kernel.timers.tick.expired := by
  rw [ticked_eq]

theorem ticked_agenda (machine : Machine) : machine.ticked.agenda = machine.agenda := by rw [ticked_eq]

theorem ticked_locks (machine : Machine) : machine.ticked.kernel.locks = machine.kernel.locks := by rw [ticked_eq]

theorem ticked_trace (sound : machine.kernel.sched.Sound) : ∃ added, machine.ticked.trace = added ++ machine.trace ∧
    added.map (·.event) =
      (machine.kernel.timers.tick.expired.map fun timer => Event.did (.sent TaskId.eventLoop timer.message)).reverse ∧
    ∀ entry ∈ added, entry.kernel.timers = machine.kernel.timers.tick.queue :=
  @posts_trace machine.advance machine.kernel.timers.tick.expired sound

end Machine

end PriorityKernel
