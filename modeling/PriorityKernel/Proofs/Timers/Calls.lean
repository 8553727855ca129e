import PriorityKernel.Proofs.Machine.Undisturbed
import PriorityKernel.Proofs.Timers.Histories

namespace PriorityKernel

open Machine

namespace KernelM

/-- Makes calls on the timers one after another; answers with what the ticks answered. -/
def timerCalls : List TimerCall → KernelM (List Bool)
  | [] => return []
  | .add timer :: rest => do
    addTimer timer
    timerCalls rest
  | .tick :: rest => do
    let due ← tick
    return due :: (← timerCalls rest)

end KernelM

/-- What calls on the timers have done to a machine. -/
structure Machine.Serves (before : Machine) (calls : List TimerCall) (after : Machine) : Prop where
  calm : after.Calm
  undisturbed : after.Undisturbed
  timers : after.kernel.timers = before.kernel.timers.after calls
  mailbox : ∀ id, after.kernel.sched.mailbox id = before.kernel.sched.mailbox id ++
    if id = TaskId.eventLoop then (before.kernel.timers.told calls).map (·.timer.message) else []

variable {machine middle after : Machine} {scope : Scope} {calls : List TimerCall}

namespace Machine

theorem Serves.nil (calm : machine.Calm) (undisturbed : machine.Undisturbed) : machine.Serves [] machine where
  calm := calm
  undisturbed := undisturbed
  timers := rfl
  mailbox := by simp [TimerQueue.told]

theorem Serves.add (timer : Timer)
    (served : Serves { machine with kernel.timers := machine.kernel.timers.add timer } calls after) :
    machine.Serves (.add timer :: calls) after :=
  ⟨served.calm, served.undisturbed, served.timers, served.mailbox⟩

theorem Serves.tick (calm : machine.Calm)
    (served : Serves (machine.mask.ticked.flag machine.kernel.interrupts) calls after) :
    machine.Serves (.tick :: calls) after where
  calm := served.calm
  undisturbed := served.undisturbed
  timers := by
    have first := served.timers
    rw [ticked_eq] at first
    exact first
  mailbox := by
    intro id
    have told := calm.sound.notified_mailbox machine.kernel.timers.tick.expired id
    have later := served.mailbox id
    rw [ticked_eq] at later
    refine (later.trans (congrArg (· ++ _) told)).trans ?_
    rw [List.append_assoc]
    split
    · simp only [TimerQueue.told, List.map_append, List.map_map]
      rfl
    · rfl

end Machine

/-- Every sequence of calls on the timers returns, and answers what the queue answers. -/
theorem KernelM.run_timerCalls (calm : machine.Calm) (undisturbed : machine.Undisturbed) (scope : Scope)
    (calls : List TimerCall) : ∃ after,
      timerCalls calls scope machine = (.ok (machine.kernel.timers.answers calls), after) ∧
        machine.Serves calls after := by
  induction calls generalizing machine with
  | nil => exact ⟨machine, rfl, .nil calm undisturbed⟩
  | cons call rest ih =>
    cases call with
    | add timer =>
      obtain ⟨after, run, served⟩ := @ih { machine with kernel.timers := machine.kernel.timers.add timer }
        ⟨calm.unlocked, calm.sound⟩ undisturbed
      refine ⟨after, ?_, served.add timer⟩
      rw [timerCalls, run_bind_of_ok (run_addTimer calm undisturbed timer scope), run]
      rfl
    | tick =>
      obtain ⟨after, run, served⟩ := ih calm.ticked undisturbed.ticked
      have timers : (machine.mask.ticked.flag machine.kernel.interrupts).kernel.timers =
          machine.kernel.timers.tick.queue := by
        rw [ticked_eq]
        rfl
      refine ⟨after, ?_, served.tick calm⟩
      rw [timerCalls, run_bind_of_ok (run_tick calm undisturbed scope), run_bind_of_ok run, timers]
      rfl

end PriorityKernel
