import PriorityKernel.Proofs.Machine.Undisturbed
import PriorityKernel.Proofs.Scheduler.Readiness
import PriorityKernel.Proofs.Timers.Rhythm

namespace PriorityKernel

open Machine

/-- What one timer interrupt does, if nothing else runs inside of it. -/
structure Machine.TimerInterrupt (before after : Machine) : Prop where
  timers : after.kernel.timers = before.kernel.timers.tick.queue
  /-- The event loop is told what came due first, and counts in the decision if that woke it. -/
  sched : after.kernel.sched =
    if before.kernel.timers.tick.switchDue = true then
      ((before.kernel.sched.notified before.kernel.timers.tick.expired).switch false).next
    else before.kernel.sched.notified before.kernel.timers.tick.expired
  /-- The interrupt is acknowledged once, after all messages of the tick and before the switch; there is
  at most one switch, and none if no scheduling timer came due. -/
  trace : ∃ (ends : Option Handover) (lines : List Notice) (added : List Entry),
    after.trace = added ++ before.trace ∧
    added.map (·.event) = ends.toList.map Event.switched ++ lines.map Event.logged ++ Event.acknowledged ::
      (before.kernel.timers.tick.expired.map fun timer =>
        Event.did (.sent TaskId.eventLoop timer.message)).reverse ∧
    (before.kernel.timers.tick.switchDue = false → ends = none ∧ lines = [])
  agenda : after.agenda = before.agenda
  interrupts : after.kernel.interrupts = before.kernel.interrupts
  locks : after.kernel.locks = before.kernel.locks

variable {machine after : Machine} {scope : Scope}

namespace Machine

/-- The machine after the interrupt was acknowledged, with a script that has no steps. -/
def acknowledge (machine : Machine) : Machine := { machine.record .acknowledged with started := machine.started + 1 }

/-- A switch in which nobody goes to sleep records the switch and its lines. -/
theorem operate_switch_trace (sound : machine.kernel.sched.Sound) :
    ∃ (ends : Option Handover) (lines : List Notice) (added : List Entry),
      (machine.operate (.switch false)).trace = added ++ machine.trace ∧
        added.map (·.event) = ends.toList.map Event.switched ++ lines.map Event.logged := by
  obtain ⟨outgoing, incoming, _, _, _, made⟩ := sound.switch false
  have deeds : (machine.kernel.sched.switch false).deeds = [] := by rw [made]; simp
  have lines : ∀ inside : Machine, (inside.sectionEntries (machine.kernel.sched.switch false)).map (·.event) =
      ((machine.kernel.sched.switch false).notices.filter
        fun notice => inside.filter.admits notice.level).reverse.map Event.logged := by
    intro inside
    simp only [sectionEntries, deeds, List.reverse_nil, List.map_nil, List.nil_append, List.map_map]
    rfl
  have events := lines ({ machine with kernel.sched := (machine.kernel.sched.switch false).next }.hold .scheduler)
  unfold operate
  dsimp only
  split
  · next ends _ => exact ⟨some ends, _, _ :: _, rfl, congrArg (Event.switched ends :: ·) events⟩
  · exact ⟨none, _, _, rfl, events⟩

theorem TimerInterrupt.of_quiet (calm : machine.Calm) (quiet : machine.kernel.timers.tick.switchDue = false) :
    machine.TimerInterrupt (machine.mask.ticked.flag machine.kernel.interrupts).acknowledge := by
  obtain ⟨told, trace, events, _⟩ := machine.mask.ticked_trace calm.sound
  rw [ticked_eq]
  refine ⟨rfl, ?_, ⟨none, [], _ :: told, congrArg (_ :: ·) trace, ?_, fun _ => ⟨rfl, rfl⟩⟩, rfl, rfl, rfl⟩
  · rw [quiet]
    rfl
  · rw [List.map_cons, events]
    rfl

theorem TimerInterrupt.of_due (calm : machine.Calm) (due : machine.kernel.timers.tick.switchDue = true) :
    machine.TimerInterrupt (((machine.mask.ticked.flag machine.kernel.interrupts).acknowledge.mask.operate
      (.switch false)).flag machine.kernel.interrupts) := by
  generalize atDecision : (machine.mask.ticked.flag machine.kernel.interrupts).acknowledge.mask = decision
  have sched : decision.kernel.sched = machine.kernel.sched.notified machine.kernel.timers.tick.expired := by
    rw [← atDecision]
    exact machine.mask.ticked_sched
  obtain ⟨told, trace, events, _⟩ := machine.mask.ticked_trace calm.sound
  obtain ⟨noted, acknowledged, event⟩ : ∃ noted : Entry, decision.trace = noted :: told ++ machine.trace ∧
      noted.event = .acknowledged := by
    rw [← atDecision]
    exact ⟨_, congrArg (_ :: ·) trace, rfl⟩
  have sound : decision.kernel.sched.Sound := by
    rw [sched]
    exact calm.sound.notified _
  obtain ⟨ends, lines, added, later, decided⟩ := operate_switch_trace sound
  have whole := decision.operate_eq (.switch false)
  refine ⟨?_, ?_, ⟨ends, lines, added ++ noted :: told, ?_, ?_, fun quiet => ?_⟩, ?_, rfl, ?_⟩
  · rw [whole, ← atDecision]
    exact machine.mask.ticked_timers
  · rw [if_pos due, ← sched]
    exact decision.operate_sched _
  · rw [List.append_assoc, ← acknowledged]
    exact later
  · rw [List.map_append, decided, List.map_cons, events, event]
    rfl
  · rw [due] at quiet
    cases quiet
  · rw [whole, ← atDecision]
    exact machine.mask.ticked_agenda
  · rw [whole, ← atDecision]
    exact machine.mask.ticked_locks

end Machine

/-- What a machine has to bring along for timer interrupts to run by themselves, and in rhythm. -/
structure Machine.Paced (machine : Machine) : Prop extends machine.Calm where
  undisturbed : machine.Undisturbed
  hookless : machine.agenda.hooks = []
  rhythmic : machine.kernel.timers.Rhythmic
  alert : machine.kernel.sched.Alert

namespace Machine

variable (interrupt : machine.TimerInterrupt after)

include interrupt

theorem TimerInterrupt.paced (paced : machine.Paced) : after.Paced := by
  have told := paced.sound.notified machine.kernel.timers.tick.expired
  have alerted := paced.alert.notified paced.sound machine.kernel.timers.tick.expired
  refine ⟨⟨interrupt.locks.trans paced.unlocked, ?_⟩, ?_, ?_, ?_, ?_⟩
  · rw [interrupt.sched]
    split
    · exact (Operation.effect told (.switch false)).sound told
    · exact told
  · intro on
    rw [interrupt.agenda]
    exact paced.undisturbed (interrupt.interrupts ▸ on)
  · rw [interrupt.agenda]
    exact paced.hookless
  · rw [interrupt.timers]
    exact paced.rhythmic.tick
  · rw [interrupt.sched]
    split
    · exact Operation.alert told alerted (.switch false)
    · exact alerted

/-- Right after a decision somebody at the highest level that is ready executes. -/
theorem TimerInterrupt.top_front (paced : machine.Paced) (due : machine.kernel.timers.tick.switchDue = true) :
    ∃ id, after.kernel.sched.TopFront id := by
  have told := paced.sound.notified machine.kernel.timers.tick.expired
  obtain ⟨incoming, front, _, top⟩ :=
    (paced.alert.notified paced.sound machine.kernel.timers.tick.expired).rescan_switch told false
  rw [interrupt.sched, if_pos due]
  exact ⟨incoming, front, top⟩

theorem TimerInterrupt.woken (paced : machine.Paced) (any : machine.kernel.timers.tick.expired ≠ []) :
    ∃ level, TaskId.eventLoop ∈ after.kernel.sched.ready.queue level := by
  have told := paced.sound.notified machine.kernel.timers.tick.expired
  obtain ⟨level, woken⟩ := paced.sound.notified_wakes any
  refine ⟨level, ?_⟩
  rw [interrupt.sched]
  split
  · exact told.mem_switch_iff.mpr woken
  · exact woken

/-- Nobody who is ready is put aside. -/
theorem TimerInterrupt.ready (paced : machine.Paced) {id : TaskId} {level : Level}
    (member : id ∈ machine.kernel.sched.ready.queue level) : id ∈ after.kernel.sched.ready.queue level := by
  have told := paced.sound.notified machine.kernel.timers.tick.expired
  have still := (machine.kernel.sched.notified_ready machine.kernel.timers.tick.expired).2 id level member
  rw [interrupt.sched]
  split
  · exact told.mem_switch_iff.mpr still
  · exact still

/-- Once the processor has come up to a level where somebody is ready, it does not go below. -/
theorem TimerInterrupt.level (paced : machine.Paced) {id : TaskId} {level : Level}
    (member : id ∈ machine.kernel.sched.ready.queue level)
    (reached : machine.kernel.timers.tick.switchDue = true ∨ level ≤ machine.kernel.sched.currentLevel) :
    level ≤ after.kernel.sched.currentLevel := by
  have later := interrupt.ready paced member
  cases due : machine.kernel.timers.tick.switchDue with
  | true =>
    obtain ⟨_, _, top⟩ := interrupt.top_front paced due
    refine Fin.not_lt.mp fun below => ?_
    rw [top level below] at later
    cases later
  | false =>
    have before : level ≤ machine.kernel.sched.currentLevel := by simpa [due] using reached
    rw [interrupt.sched, due, if_neg Bool.false_ne_true, (machine.kernel.sched.notified_ready _).1]
    exact before

end Machine

namespace KernelM

theorem run_timerInterrupt (paced : machine.Paced) (inert : ∀ machine, scope.nest [] machine = machine) :
    ∃ after, timerInterrupt (acknowledging []) scope machine = (.ok (), after) ∧ machine.TimerInterrupt after := by
  have ticks := run_tick paced.toCalm paced.undisturbed scope
  have calm : (machine.mask.ticked.flag machine.kernel.interrupts).acknowledge.Calm :=
    ⟨paced.toCalm.ticked.unlocked, paced.toCalm.ticked.sound⟩
  have undisturbed : (machine.mask.ticked.flag machine.kernel.interrupts).acknowledge.Undisturbed :=
    paced.undisturbed.ticked
  have hookless : (machine.mask.ticked.flag machine.kernel.interrupts).acknowledge.agenda.hooks = [] := by
    show machine.mask.ticked.agenda.hooks = []
    rw [ticked_agenda]
    exact paced.hookless
  have acknowledges : acknowledging [] scope (machine.mask.ticked.flag machine.kernel.interrupts) =
      (.ok (), (machine.mask.ticked.flag machine.kernel.interrupts).acknowledge) :=
    congrArg (Except.ok (), ·) (inert _)
  rw [timerInterrupt, run_bind_of_ok ticks, run_bind_of_ok acknowledges]
  cases due : machine.kernel.timers.tick.switchDue with
  | true =>
    have switches := run_switch calm undisturbed hookless false scope
    exact ⟨_, switches, .of_due paced.toCalm due⟩
  | false => exact ⟨_, rfl, .of_quiet paced.toCalm due⟩

end KernelM

end PriorityKernel
