import PriorityKernel.Proofs.Machine.Muting

namespace PriorityKernel.KernelM

open Machine

variable {α : Type} {scope : Scope} {machine : Machine}

/-! ### Calls on tasks -/

theorem heedless_create : Heedless create :=
  (heedless_operation (fun _ => .create) fun _ => rfl).bind fun _ => (heedless_log _).bind fun _ => heedless_pure _

theorem heedless_prepare (id : TaskId) (entry : UInt64) (argument : Int64) : Heedless (prepare id entry argument) :=
  heedless_operation (fun kernel => .prepare kernel.memoryShort id entry argument) fun _ => rfl

theorem heedless_wakeup (id : TaskId) (level : Option Nat) : Heedless (wakeup id level) :=
  heedless_operation (fun _ => .wakeup id level) fun _ => rfl

theorem heedless_setLevel (id : TaskId) (level : Nat) : Heedless (setLevel id level) :=
  heedless_operation (fun _ => .setLevel id level) fun _ => rfl

theorem heedless_send (id : TaskId) (message : Message) : Heedless (send id message) :=
  heedless_operation (fun _ => .send id message) fun _ => rfl

theorem heedless_receive (id : TaskId) : Heedless (receive id) :=
  heedless_operation (fun _ => .receive id) fun _ => rfl

theorem heedless_withTask (id : TaskId) (answer : Task → α) :
    Heedless (critical fun kernel => kernel.sched.withTask id fun task => Outcome.pure (answer task) kernel.sched) := by
  refine heedless_critical fun kernel sound => ?_
  unfold Scheduler.withTask
  cases kernel.sched.tasks.get? id with
  | none => exact sound
  | some task => exact sound

theorem heedless_snapshot (id : TaskId) : Heedless (snapshot id) := heedless_withTask id (·.snapshot)

theorem heedless_find (id : TaskId) : Heedless (find id) := heedless_withTask id fun _ => ()

theorem heedless_currentTask : Heedless currentTask := by
  refine heedless_critical fun kernel sound => ?_
  unfold Scheduler.withCurrent
  cases kernel.sched.current? with
  | none => exact sound
  | some id => exact sound

theorem heedless_overview : Heedless overview :=
  (heedless_inspect _).bind fun _ => (heedless_inspect _).bind fun _ => (heedless_inspect _).bind fun _ =>
    (heedless_kernel.bind fun _ => heedless_pure _).masked.bind fun _ => heedless_pure _

theorem heedless_perform (ends : Handover) : Heedless (perform ends) := by
  have noted : Heedless (record (.switched ends)) := heedless_record rfl
  refine Heedless.bind (heedless_modifyKernel fun _ => ⟨rfl, rfl⟩) fun _ => noted.bind fun _ => ?_
  intro scope machine nested tranquil
  refine .looking rfl ?_
  cases hooks : machine.agenda.hooks with
  | nil => exact heedless_pure () scope machine nested tranquil
  | cons script rest =>
    have all := tranquil.agenda.hooks
    rw [hooks] at all
    have left : ({ machine with agenda.hooks := rest } : Machine).Tranquil :=
      tranquil.setAside ⟨fun later member => all later (List.mem_cons_of_mem _ member), tranquil.agenda.pending,
        tranquil.agenda.reactions⟩ rfl
    have popped : HeedlessAt scope machine
        (modify fun machine => { machine with agenda.hooks := rest } : KernelM Unit) := .of_run rfl rfl left
    exact popped.bind fun _ after _ tranquilAfter =>
      heedless_nest (all script (List.mem_cons_self ..)) scope after nested tranquilAfter

theorem heedless_switching {decide : Scheduler → Outcome (Option Handover)} (operation : Operation)
    (same : ∀ state, operation.outcome state = decide state) : Heedless (switching decide) := by
  have decided : Heedless (critical fun kernel => decide kernel.sched) := by
    refine heedless_critical fun kernel sound => ?_
    rw [← same]
    exact (operation.effect sound).sound sound
  refine (decided.bind fun ends => ?_).masked
  cases ends with
  | none => exact heedless_pure ()
  | some ends => exact heedless_perform ends

theorem heedless_switch (sleeping : Bool) : Heedless (switch sleeping) :=
  heedless_switching (.switch sleeping) fun _ => rfl

theorem heedless_sleep (id : TaskId) : Heedless (sleep id) := heedless_switching (.sleep id) fun _ => rfl

theorem Heedless.withMemory {call : KernelM α} (first : Heedless call) (short : Bool) :
    Heedless (withMemory short call) := by
  refine heedless_kernel.bind fun _ => Heedless.bind ?_ fun _ => first.observed fun _ => Heedless.bind ?_ fun _ =>
    heedless_resume _
  all_goals exact heedless_modifyKernel fun _ => ⟨rfl, rfl⟩

theorem heedless_waitTurn (id : TaskId) : Heedless (waitTurn id) := by
  refine ((heedless_receive id).bind fun message => ?_).masked
  cases message with
  | some message => exact heedless_pure _
  | none => exact (heedless_sleep id).bind fun _ => heedless_pure _

theorem heedless_waitTurns (id : TaskId) (turns : Nat) : Heedless (waitTurns id turns) := by
  induction turns with
  | zero => exact heedless_throw _
  | succ turns ih =>
    refine heedless_get (fun _ => rfl) fun _ => (heedless_waitTurn id).bind fun message => ?_
    cases message with
    | some message => exact heedless_pure _
    | none => exact heedless_get (fun _ => rfl) fun _ => (heedless_throw _).ite ih

theorem heedless_wait (id : TaskId) : Heedless (wait id) := heedless_read.bind fun _ => heedless_waitTurns id _

theorem heedless_call (id : TaskId) (next : Call) : Heedless (call id next) := by
  cases next with
  | prepare short entry argument =>
    exact ((heedless_prepare id entry argument).withMemory short).bind fun _ => heedless_pure _
  | setLevel level => exact (heedless_setLevel id level).bind fun _ => heedless_pure _
  | wakeup level => exact (heedless_wakeup id level).bind fun _ => heedless_pure _
  | sleep => exact (heedless_sleep id).bind fun _ => heedless_pure _
  | send message => exact (heedless_send id message).bind fun _ => heedless_pure _
  | receive => exact (heedless_receive id).bind fun _ => heedless_pure _
  | snapshot => exact (heedless_snapshot id).bind fun _ => heedless_pure _

theorem heedless_calls (id : TaskId) (list : List Call) : Heedless (calls id list) := by
  induction list with
  | nil => exact heedless_pure _
  | cons next rest ih =>
    refine (heedless_call id next).attempt.bind fun result => ?_
    cases result with
    | error error => exact heedless_pure _
    | ok reply => exact ih.bind fun _ => heedless_pure _

/-! ### Clock ticks, interrupts and the keyboard driver -/

theorem heedless_addTimer (timer : Timer) : Heedless (addTimer timer) :=
  heedless_holding (fun _ => ()) (fun kernel => { kernel with timers := kernel.timers.add timer })
    (fun _ => ⟨rfl, rfl⟩) fun _ _ => rfl

theorem mute_posts (machine : Machine) (expired : List Timer) :
    (expired.foldl post machine).mute = expired.foldl post machine.mute := by
  induction expired generalizing machine with
  | nil => rfl
  | cons timer rest ih =>
    rw [List.foldl_cons, List.foldl_cons, ih]
    exact congrArg (rest.foldl post) (mute_enter machine _)

theorem heedless_tick : Heedless tick := by
  refine heedless_masked_off fun scope machine tranquil off => ?_
  have offMuted : machine.mute.kernel.interrupts = false := off
  obtain ⟨run, after⟩ := tick_of_calm scope machine off tranquil.toSteady
  have runMuted := (tick_of_calm scope machine.mute offMuted tranquil.mute.toSteady).1
  have same : machine.mute.ticked = machine.ticked.mute :=
    congrArg (·.release .timers) (mute_posts machine.advance machine.kernel.timers.tick.expired).symm
  rw [same] at runMuted
  refine .of_run run runMuted ⟨after, ?_⟩
  rw [ticked_agenda]
  exact tranquil.unraised

theorem heedless_ticks (first times : Nat) : Heedless (ticks first times) := by
  induction times generalizing first with
  | zero => exact heedless_pure _
  | succ times ih => exact heedless_tick.bind fun _ => (ih (first + 1)).bind fun _ => heedless_pure _

theorem heedless_timerInterrupts {script : Script} (within : scriptWithin (fun step => ¬step.Raises) script)
    (times : Nat) : Heedless (timerInterrupts script times) := by
  have acknowledged : Heedless (acknowledging script) := (heedless_record rfl).bind fun _ => heedless_nest within
  have once : Heedless (timerInterrupt (acknowledging script)) :=
    heedless_tick.bind fun _ => acknowledged.bind fun _ => (heedless_switch false).ite (heedless_pure ())
  induction times with
  | zero => exact heedless_pure ()
  | succ times ih => exact once.bind fun _ => ih

theorem heedless_send_or_log (id : TaskId) (message : Message) (lost : TaskError → Notice) :
    Heedless (do
      match ← attempt (send id message) with
      | .ok () => pure ()
      | .error error => log (lost error)) := by
  refine (heedless_send id message).attempt.bind fun result => ?_
  cases result with
  | ok => exact heedless_pure ()
  | error error => exact heedless_log _

theorem heedless_deviceInterrupt : Heedless deviceInterrupt :=
  heedless_send_or_log TaskId.eventLoop Message.deviceInterrupt .deviceInterruptLost

theorem heedless_takeScanCode : Heedless takeScanCode := by
  refine heedless_kernel.bind fun kernel => ?_
  split
  · exact heedless_pure _
  · refine Heedless.bind ?_ fun _ => heedless_pure _
    exact heedless_modifyKernel fun _ => ⟨rfl, rfl⟩

theorem heedless_decode (byte : UInt8) : Heedless (decode byte) :=
  heedless_holding (fun kernel => (kernel.keyboard.feed byte).1)
    (fun kernel => { kernel with keyboard := (kernel.keyboard.feed byte).2 }) (fun _ => ⟨rfl, rfl⟩) fun _ _ => rfl

theorem heedless_pollBytes (bytes : Nat) : Heedless (pollBytes bytes) := by
  induction bytes with
  | zero => exact heedless_pure ()
  | succ bytes ih =>
    refine heedless_takeScanCode.bind fun taken => ?_
    cases taken with
    | none => exact heedless_pure ()
    | some byte =>
      refine (heedless_decode byte).bind fun push => ?_
      cases push with
      | none => exact (heedless_pure ()).bind fun _ => ih
      | some push => exact (heedless_send_or_log _ _ .keyPushLost).bind fun _ => ih

theorem heedless_dropStale (bytes : Nat) : Heedless (dropStale bytes) := by
  induction bytes with
  | zero => exact heedless_pure 0
  | succ bytes ih =>
    refine heedless_takeScanCode.bind fun taken => ?_
    cases taken with
    | none => exact heedless_pure 0
    | some byte => exact ih.bind fun _ => heedless_pure _

theorem heedless_keyboardInit : Heedless keyboardInit := by
  refine Heedless.bind ?_ fun _ => (heedless_dropStale _).bind fun _ => heedless_kernel.bind fun _ =>
    Heedless.bind ?_ fun _ => heedless_log _
  · exact heedless_holding (fun _ => ()) (fun kernel => { kernel with keyboard := Keyboard.fresh })
      (fun _ => ⟨rfl, rfl⟩) fun _ _ => rfl
  · exact heedless_modifyKernel fun _ => ⟨rfl, rfl⟩

/-! ### The kernel's handler -/

theorem heedless_logRow (id : TaskId) : Heedless (logRow id) := by
  refine (heedless_snapshot id).attempt.bind fun row => ?_
  cases row with
  | ok task => exact heedless_log _
  | error => exact heedless_pure ()

/-- What is left out of the table when it is not written does nothing but look and log. -/
theorem heedless_logTable : Heedless logTable := by
  have head : Logs (do
      let now ← clock
      let count ← taskCount
      let current ← currentTask
      let level ← currentLevel
      log (.tableHead now count current level)) :=
    logs_clock.bind fun _ => (logs_inspect _).bind fun _ => logs_currentTask.bind fun _ =>
      (logs_inspect _).bind fun _ => logs_log _
  have queue : ∀ level : Level, Logs (do log (.tableQueue level (← readyAt level.val))) := fun _ =>
    (logs_inspect _).bind fun _ => logs_log _
  exact (head.whenLogged .info).bind fun _ => (heedless_inspect _).bind fun ids =>
    (Heedless.forM heedless_logRow ids).bind fun _ =>
      (Heedless.forM (fun level => (queue level).whenLogged .info) Level.descending).bind fun _ =>
        heedless_kernel.bind fun _ => heedless_log _

theorem heedless_onTimer (timeout : Nat) (value : Int) : Heedless (onTimer timeout value) := by
  refine Heedless.ite (Heedless.bind ?_ fun _ => heedless_kernel.bind fun _ => (heedless_log _).bind fun _ => ?_)
    (heedless_log _)
  · exact heedless_modifyKernel fun _ => ⟨rfl, rfl⟩
  · exact ((heedless_throw _).bind fun _ => heedless_addTimer _).ite (heedless_addTimer _)

theorem heedless_onKey (key : KeyPush) : Heedless (onKey key) :=
  (heedless_log _).bind fun _ => heedless_logTable.ite (heedless_pure ())

theorem heedless_onLayer (source : TaskId) (request : LayerRequest) : Heedless (onLayer source request) := by
  refine Heedless.bind ?_ fun _ => heedless_kernel.bind fun _ => (heedless_log _).ite (heedless_pure ())
  exact heedless_modifyKernel fun _ => ⟨rfl, rfl⟩

theorem heedless_onMessage (message : Message) : Heedless (onMessage message) := by
  unfold onMessage
  cases message.kind with
  | deviceInterrupt => exact heedless_pollBytes _
  | timerTimeout timeout value => exact heedless_onTimer timeout value
  | keyPush key => exact heedless_onKey key
  | layer request => exact heedless_onLayer message.source request
  | layerFinish => exact heedless_pure ()

theorem heedless_spawn (entry : UInt64) (argument : Int64) : Heedless (spawn entry argument) :=
  heedless_create.bind fun _ => (heedless_prepare _ _ _).bind fun _ => (heedless_wakeup _ _).bind fun _ =>
    heedless_pure _

theorem heedless_startDemo : Heedless startDemo :=
  (heedless_spawn _ _).bind fun _ => (heedless_spawn _ _).bind fun _ => heedless_log _

/-! ### The event loop -/

theorem heedless_runReaction (kind : HandlerKind) : Heedless (runReaction kind) := by
  intro scope machine nested tranquil
  refine .looking rfl ?_
  cases popped : machine.agenda.popReaction? kind with
  | none => exact heedless_pure () scope machine nested tranquil
  | some taken =>
    obtain ⟨script, agenda⟩ := taken
    obtain ⟨within, left, pending⟩ := tranquil.agenda.popReaction popped
    have tranquilLeft : ({ machine with agenda } : Machine).Tranquil := tranquil.setAside left pending
    have removed : HeedlessAt scope machine (modify fun machine => { machine with agenda } : KernelM Unit) :=
      .of_run rfl rfl tranquilLeft
    exact removed.bind fun _ after _ tranquilAfter => heedless_nest within scope after nested tranquilAfter

theorem heedless_callHandler (handler : Handler) (kind : HandlerKind) (message : Message) :
    Heedless (callHandler handler kind message) := by
  have noted : Heedless (record (.handled message)) := heedless_record rfl
  cases handler with
  | silent => exact heedless_pure ()
  | recording => exact noted.bind fun _ => heedless_runReaction kind
  | kernel => exact noted.bind fun _ => (heedless_onMessage message).bind fun _ => heedless_runReaction kind

theorem heedless_dispatch (handler : Handler) (message : Message) : Heedless (dispatch handler message) := by
  unfold dispatch
  cases message.kind.handlerKind? with
  | none => exact heedless_log _
  | some kind =>
    refine (heedless_callHandler handler kind message).bind fun _ => Heedless.ite ?_ (heedless_pure ())
    exact (heedless_send _ _).bind fun _ => heedless_record rfl

theorem heedless_loopTurn (handler : Handler) : Heedless (loopTurn handler) := by
  refine (heedless_waitTurn TaskId.eventLoop).attempt.bind fun taken => ?_
  rcases taken with error | _ | message
  · exact heedless_pure _
  · exact heedless_pure _
  · refine (heedless_record rfl).bind fun _ => (heedless_dispatch handler message).attempt.bind fun result => ?_
    cases result with
    | error => exact heedless_pure _
    | ok => exact heedless_pure _

theorem heedless_loopTurns (handler : Handler) (times : Nat) : Heedless (loopTurns handler times) := by
  induction times with
  | zero => exact heedless_pure _
  | succ times ih => exact (heedless_loopTurn handler).bind fun _ => ih.bind fun _ => heedless_pure _

theorem heedless_endlessTurn (handler : Handler) : Heedless (endlessTurn handler) := by
  refine heedless_get (fun _ => rfl) fun _ => (heedless_loopTurn handler).bind fun taken => ?_
  rcases taken with ⟨error | dispatched, handled⟩
  · exact heedless_log _
  · cases dispatched with
    | true => exact heedless_pure ()
    | false => exact heedless_get (fun _ => rfl) fun _ => (heedless_throw _).ite (heedless_pure ())

theorem heedless_endlessTurns (handler : Handler) (times : Nat) : Heedless (endlessTurns handler times) := by
  induction times with
  | zero => exact heedless_pure ()
  | succ times ih => exact (heedless_endlessTurn handler).bind fun _ => ih

theorem heedless_endlessRounds (handler : Handler) (rounds : Nat) : Heedless (endlessRounds handler rounds) := by
  induction rounds with
  | zero => exact heedless_throw _
  | succ rounds ih => exact heedless_kernel.bind fun _ => (heedless_endlessTurns handler _).bind fun _ => ih

theorem heedless_runLoop (handler : Handler) : Heedless (runLoop handler) :=
  (heedless_log _).bind fun _ => heedless_read.bind fun _ => heedless_endlessRounds handler _

/-! ### Steps -/

theorem heedless_needKernel : Heedless needKernel :=
  heedless_get (fun _ => rfl) fun _ => (heedless_throw _).ite (heedless_pure ())

theorem heedless_setInterrupts (enabled : Bool) : Heedless (setInterrupts enabled) :=
  heedless_modifyKernel fun _ => ⟨rfl, rfl⟩

theorem heedless_enable : Heedless enable := by
  refine (heedless_setInterrupts true).bind fun _ => heedless_read.bind fun _ => ?_
  intro scope machine _ tranquil
  exact .of_run (deliver_of_none tranquil.unraised _ scope) (deliver_of_none tranquil.mute.unraised _ scope) tranquil

theorem heedless_carryOut {step : Step} (within : step.Within fun step => ¬step.Raises) :
    Heedless (carryOut step) := by
  have answered : ∀ {α : Type} {call : KernelM α} (reply : α → Reply), Heedless call →
      Heedless (call >>= fun value => pure (reply value)) := fun reply heedless =>
    heedless.bind fun _ => heedless_pure _
  cases step with
  | create list => exact heedless_create.bind fun id => answered (.chain id) (heedless_calls id list)
  | handle id list => exact (heedless_find id).bind fun _ => answered (.chain id) (heedless_calls id list)
  | current => exact answered .task heedless_currentTask
  | setLevel id level => exact answered _ (heedless_setLevel id level)
  | wakeup id level => exact answered _ (heedless_wakeup id level)
  | sleep id => exact answered _ (heedless_sleep id)
  | switch sleeping => exact answered _ (heedless_switch sleeping)
  | send id message => exact answered _ (heedless_send id message)
  | receive id => exact answered .message (heedless_receive id)
  | wait id => exact answered (fun message => .message (some message)) (heedless_wait id)
  | queue level => exact answered .queue (heedless_inspect _)
  | snapshot id => exact answered .snapshot (heedless_snapshot id)
  | overview => exact answered .overview heedless_overview
  | disableInterrupts => exact answered _ (heedless_setInterrupts false)
  | enableInterrupts => exact answered _ heedless_enable
  | hook script =>
    refine fun _ _ _ tranquil => .of_run rfl rfl (tranquil.setAside ⟨?_, tranquil.agenda.pending,
      tranquil.agenda.reactions⟩ rfl)
    exact List.forall_mem_append.mpr ⟨tranquil.agenda.hooks, List.forall_mem_singleton.mpr within.2⟩
  | raise script => exact absurd trivial within.1
  | react kind script =>
    refine fun _ _ _ tranquil => .of_run rfl rfl (tranquil.setAside ⟨tranquil.agenda.hooks,
      tranquil.agenda.pending, ?_⟩ rfl)
    exact List.forall_mem_append.mpr ⟨tranquil.agenda.reactions, List.forall_mem_singleton.mpr within.2⟩
  | addTimer timer => exact answered _ (heedless_addTimer timer)
  | tick times => exact answered .ticks (heedless_ticks 1 times)
  | timerInterrupt times script =>
    exact heedless_needKernel.bind fun _ => answered _ (heedless_timerInterrupts within.2 times)
  | deviceInterrupt => exact heedless_needKernel.bind fun _ => answered _ heedless_deviceInterrupt
  | loop times handler =>
    refine heedless_needKernel.bind fun _ => Heedless.ite ?_ (answered _ (heedless_loopTurns handler times))
    refine (heedless_loopTurn handler).bind fun turn => ?_
    cases turn.result with
    | error => exact heedless_throw _
    | ok => exact heedless_pure _
  | dispatch message handler =>
    exact heedless_needKernel.bind fun _ => answered _ (heedless_dispatch handler message)
  | forever handler => exact heedless_needKernel.bind fun _ => answered _ (heedless_runLoop handler)
  | keys bytes => exact answered _ (heedless_modifyKernel fun _ => ⟨rfl, rfl⟩)
  | poll => exact (heedless_pollBytes _).bind fun _ => answered _ heedless_kernel
  | keyboardInit => exact heedless_keyboardInit.bind fun _ => answered _ heedless_kernel
  | demo short => exact heedless_needKernel.bind fun _ => answered _ (heedless_startDemo.withMemory short)

end PriorityKernel.KernelM
