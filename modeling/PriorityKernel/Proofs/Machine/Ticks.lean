import PriorityKernel.Proofs.Machine.Calls

namespace PriorityKernel

open Machine

variable {law : Law} {allowed : Step → Prop} {scope : Scope} {machine : Machine}

namespace Scheduler

/-- The event loop exists, so that it always gets its messages. -/
theorem Sound.send_event_loop {state : Scheduler} (sound : state.Sound) (message : Message) :
    (state.send TaskId.eventLoop message).reply = .ok () ∧ (state.send TaskId.eventLoop message).next.Sound := by
  obtain ⟨task, here⟩ := sound.event_loop_task
  have same := TaskTable.id_of_get? here
  rw [← same] at here ⊢
  obtain ⟨shift, reply, _⟩ := sound.send here message
  exact ⟨reply, shift.sound (sound.repost here _)⟩

end Scheduler

namespace KernelM

theorem attempt_of_ok {α : Type} {call : KernelM α} {value : α} {after : Machine}
    (run : call scope machine = (.ok value, after)) : attempt call scope machine = (.ok (.ok value), after) := by
  rw [run_attempt, run]

theorem ok_of_attempt {α : Type} {call : KernelM α} {value : α} {after : Machine}
    (run : attempt call scope machine = (.ok (.ok value), after)) : call scope machine = (.ok value, after) := by
  rw [run_attempt] at run
  split at run
  · next same =>
    cases run
    exact same
  · cases run
  · cases run

theorem sendTimeout_posts (off : machine.kernel.interrupts = false) (held : machine.kernel.locks = [.timers])
    (sound : machine.kernel.sched.Sound) (timer : Timer) :
    sendTimeout timer scope machine = (.ok (), machine.post timer) := by
  have unlocked : Lock.scheduler ∉ machine.kernel.locks := by simp [held]
  have line : Lock.serial ∉ machine.kernel.locks := by simp [held]
  have sent := critical_of_off scope off unlocked line fun kernel =>
    kernel.sched.send TaskId.eventLoop ⟨TaskId.kernel, .timerTimeout timer.timeout timer.value⟩
  have reply := (sound.send_event_loop ⟨TaskId.kernel, .timerTimeout timer.timeout timer.value⟩).1
  have run : send TaskId.eventLoop ⟨TaskId.kernel, .timerTimeout timer.timeout timer.value⟩ scope machine =
      (.ok (), machine.post timer) := sent.trans (congrArg (·, machine.post timer) reply)
  rw [sendTimeout]
  exact run_bind_of_ok (attempt_of_ok run)

theorem posts (scope : Scope) (machine : Machine) (off : machine.kernel.interrupts = false)
    (held : machine.kernel.locks = [.timers]) (sound : machine.kernel.sched.Sound) (expired : List Timer) :
    expired.forM sendTimeout scope machine = (.ok (), expired.foldl post machine) ∧
      (expired.foldl post machine).kernel.locks = [.timers] ∧ (expired.foldl post machine).kernel.sched.Sound ∧
      (expired.foldl post machine).agenda = machine.agenda := by
  induction expired generalizing machine with
  | nil => exact ⟨rfl, held, sound, rfl⟩
  | cons timer rest ih =>
    have after := (sound.send_event_loop ⟨TaskId.kernel, .timerTimeout timer.timeout timer.value⟩).2
    obtain ⟨run, heldAfter, soundAfter, agenda⟩ := ih (machine.post timer) off held after
    exact ⟨(run_bind_of_ok (sendTimeout_posts off held sound timer)).trans run, heldAfter, soundAfter, agenda⟩

theorem tick_of_calm (scope : Scope) (machine : Machine) (off : machine.kernel.interrupts = false)
    (steady : machine.Steady allowed) :
    tick scope machine = (.ok machine.kernel.timers.tick.switchDue, machine.ticked) ∧
      machine.ticked.Steady allowed := by
  have held : machine.advance.kernel.locks = [.timers] := congrArg (Lock.timers :: ·) steady.unlocked
  obtain ⟨run, locks, sound, agenda⟩ :=
    posts scope machine.advance off held steady.sound machine.kernel.timers.tick.expired
  refine ⟨holding_of_run off (steady.free _) (run_bind_of_ok run), ⟨⟨?_, sound⟩, ?_⟩⟩
  · exact (congrArg (List.erase · Lock.timers) locks).trans rfl
  · have kept : machine.ticked.agenda = machine.agenda := agenda
    rw [kept]
    exact steady.agenda

theorem obeys_tick [conveys : law.Conveys allowed] : Obeys law allowed tick := by
  intro scope machine nested steady
  have off := steady.mask
  obtain ⟨run, after⟩ := tick_of_calm scope machine.mask rfl off
  exact obeysAt_masked_off nested (.of_ok run (conveys.ticked off.toCalm rfl) after)

end KernelM

end PriorityKernel
