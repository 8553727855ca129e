import PriorityKernel.Proofs.Machine.TaskCalls

namespace PriorityKernel.KernelM

open Machine

variable {α : Type} {law : Law} {allowed : Step → Prop} {scope : Scope} {machine : Machine}

section Flags

variable [conveys : law.Conveys allowed] {step : Step}

theorem obeys_disable (asked : allowed step) (flags : step.Flags) : Obeys law allowed disable :=
  fun _ _ _ steady => .of_ok rfl (conveys.flagged asked flags false steady.toCalm) steady.mask

theorem obeys_enable (asked : allowed step) (flags : step.Flags) : Obeys law allowed enable := by
  intro scope machine nested steady
  obtain ⟨after, run, kept, steadyAfter⟩ := deliver_obeys nested scope.credit steady.unmask rfl
  exact .of_ok (run_bind_of_ok rfl |>.trans run) (conveys.trans (conveys.flagged asked flags true steady.toCalm) kept)
    steadyAfter

end Flags

theorem obeys_holding [closed : law.Closed] {lock : Lock} {call : KernelM α}
    (body : ∀ scope machine, machine.Steady allowed → machine.kernel.interrupts = false → ∃ value after,
      call scope (machine.hold lock) = (.ok value, after) ∧ law machine (after.release lock) ∧
        (after.release lock).Steady allowed) : Obeys law allowed (holding lock call) := by
  intro scope machine nested steady
  have off := steady.mask
  obtain ⟨value, after, run, kept, steadyAfter⟩ := body scope machine.mask off rfl
  exact obeysAt_masked_off nested (.of_ok (holding_of_run rfl (off.free lock) run) kept steadyAfter)

theorem obeys_holding_alike [closed : law.Closed] {lock : Lock} {call : KernelM α} (answer : Kernel → α)
    (change : Kernel → Kernel) (alike : ∀ kernel : Kernel, kernel.Alike (change kernel))
    (run : ∀ scope machine, call scope machine =
      (.ok (answer machine.kernel), { machine with kernel := change machine.kernel })) :
    Obeys law allowed (holding lock call) := by
  refine obeys_holding fun scope machine steady _ => ⟨_, _, run scope (machine.hold lock), ?_⟩
  obtain ⟨sched, timers, interrupts, locks, switches⟩ := alike (machine.hold lock).kernel
  have released : (change (machine.hold lock).kernel).locks.erase lock = machine.kernel.locks :=
    (congrArg (List.erase · lock) locks).trans (List.erase_cons_head ..)
  have quiet : machine.Quiet ({ machine.hold lock with kernel := change (machine.hold lock).kernel }.release lock) :=
    ⟨rfl, rfl, rfl, ⟨sched, timers, interrupts, released, switches⟩, List.prefix_rfl⟩
  exact ⟨closed.quiet quiet, steady.quiet quiet steady.agenda⟩

theorem addTimer_of_off (calm : machine.Calm) (off : machine.kernel.interrupts = false) (timer : Timer)
    (scope : Scope) : addTimer timer scope machine =
      (.ok (), { machine with kernel.timers := machine.kernel.timers.add timer }) := by
  rw [addTimer, holding_of_off off (calm.free _), run_modifyKernel]
  simp only [Machine.release, Machine.hold, List.erase_cons_head]

theorem addTimer_arms [closed : law.Closed] (nested : scope.Obeys law allowed) (steady : machine.Steady allowed)
    (timer : Timer) : ∃ armed, addTimer timer scope machine = (.ok (), armed) ∧
      law { machine with kernel.timers := machine.kernel.timers.add timer } armed ∧ armed.Steady allowed := by
  have after : ({ machine.mask with kernel.timers := machine.kernel.timers.add timer } : Machine).Steady allowed :=
    ⟨⟨steady.unlocked, steady.sound⟩, steady.agenda⟩
  exact masked_closes nested (addTimer_of_off steady.mask.toCalm rfl timer scope) after rfl

theorem obeys_addTimer [carries : law.Carries allowed] (timer : Timer) : Obeys law allowed (addTimer timer) := by
  intro scope machine nested steady
  obtain ⟨armed, run, later, steadyArmed⟩ := addTimer_arms nested steady timer
  exact .of_ok run (carries.trans (carries.added timer steady.toCalm) later) steadyArmed

theorem obeys_clock [closed : law.Closed] : Obeys law allowed clock :=
  obeys_holding_alike (·.timers.clock) id (fun _ => ⟨rfl, rfl, rfl, rfl, rfl⟩) fun _ _ => rfl

section Interrupts

variable [conveys : law.Conveys allowed]

theorem obeys_ticks (first times : Nat) : Obeys law allowed (ticks first times) := by
  induction times generalizing first with
  | zero => exact obeys_pure _
  | succ times ih =>
    exact obeys_tick.bind fun _ => (ih (first + 1)).bind fun _ => obeys_pure _

theorem timerInterrupt_obeysAt (nested : scope.Obeys law allowed) (steady : machine.Steady allowed) {script : Script}
    (within : scriptWithin allowed script) :
    ObeysAt law allowed scope machine (timerInterrupt (acknowledging script)) := by
  refine (obeys_tick scope machine nested steady).bind fun due after _ steadyAfter => ?_
  refine ObeysAt.bind ?_ fun _ last _ steadyLast => ?_
  · have noted : Obeys law allowed (record .acknowledged) := obeys_record trivial
    exact (noted scope after nested steadyAfter).bind fun _ _ _ steadyNoted =>
      obeysAt_nest nested steadyNoted within
  · exact ((obeys_switch).ite (obeys_pure ())) scope last nested steadyLast

theorem timerInterrupts_obeysAt (nested : scope.Obeys law allowed) (steady : machine.Steady allowed) {script : Script}
    (within : scriptWithin allowed script) (times : Nat) :
    ObeysAt law allowed scope machine (timerInterrupts script times) := by
  induction times generalizing machine with
  | zero => exact obeys_pure () scope machine nested steady
  | succ times ih =>
    exact (timerInterrupt_obeysAt nested steady within).bind fun _ _ _ steadyAfter => ih steadyAfter

theorem obeys_send_or_log (id : TaskId) (message : Message) (lost : TaskError → Notice) :
    Obeys law allowed (do
      match ← attempt (send id message) with
      | .ok () => pure ()
      | .error error => log (lost error)) := by
  refine (obeys_send id message).attempt.bind fun result => ?_
  cases result with
  | ok => exact obeys_pure ()
  | error error => exact obeys_log _

theorem obeys_deviceInterrupt : Obeys law allowed deviceInterrupt :=
  obeys_send_or_log TaskId.eventLoop Message.deviceInterrupt .deviceInterruptLost

end Interrupts

section Keyboard

variable [conveys : law.Conveys allowed]

theorem obeys_takeScanCode : Obeys law allowed takeScanCode := by
  refine obeys_kernel.bind fun kernel => ?_
  split
  · exact obeys_pure _
  · refine Obeys.bind ?_ fun _ => obeys_pure _
    exact obeys_modifyKernel fun _ => ⟨rfl, rfl, rfl, rfl, rfl⟩

theorem obeys_decode (byte : UInt8) : Obeys law allowed (decode byte) :=
  obeys_holding_alike (fun kernel => (kernel.keyboard.feed byte).1)
    (fun kernel => { kernel with keyboard := (kernel.keyboard.feed byte).2 }) (fun _ => ⟨rfl, rfl, rfl, rfl, rfl⟩)
    fun _ _ => rfl

theorem obeys_pollBytes (bytes : Nat) : Obeys law allowed (pollBytes bytes) := by
  induction bytes with
  | zero => exact obeys_pure ()
  | succ bytes ih =>
    refine obeys_takeScanCode.bind fun taken => ?_
    cases taken with
    | none => exact obeys_pure ()
    | some byte =>
      refine (obeys_decode byte).bind fun push => ?_
      cases push with
      | none => exact (obeys_pure ()).bind fun _ => ih
      | some push => exact (obeys_send_or_log _ _ .keyPushLost).bind fun _ => ih

theorem obeys_dropStale (bytes : Nat) : Obeys law allowed (dropStale bytes) := by
  induction bytes with
  | zero => exact obeys_pure 0
  | succ bytes ih =>
    refine obeys_takeScanCode.bind fun taken => ?_
    cases taken with
    | none => exact obeys_pure 0
    | some byte => exact ih.bind fun _ => obeys_pure _

theorem obeys_keyboardInit : Obeys law allowed keyboardInit := by
  refine Obeys.bind ?_ fun _ => (obeys_dropStale _).bind fun _ =>
    obeys_kernel.bind fun _ => Obeys.bind ?_ fun _ => obeys_log _
  · exact obeys_holding_alike (fun _ => ()) (fun kernel => { kernel with keyboard := Keyboard.fresh })
      (fun _ => ⟨rfl, rfl, rfl, rfl, rfl⟩) fun _ _ => rfl
  · exact obeys_modifyKernel fun _ => ⟨rfl, rfl, rfl, rfl, rfl⟩

end Keyboard

end PriorityKernel.KernelM
