import PriorityKernel.Proofs.Machine.DeviceCalls

namespace PriorityKernel

variable {law : Law} {allowed : Step → Prop} {scope : Scope} {machine : Machine}

namespace KernelM

section

variable [conveys : law.Conveys allowed]

/-! ### The kernel's handler -/

theorem obeys_whenLogged (level : LogLevel) {call : KernelM Unit} (first : Obeys law allowed call) :
    Obeys law allowed (whenLogged level call) :=
  obeys_get.bind fun _ => first.ite (obeys_pure ())

theorem obeys_logRow (id : TaskId) : Obeys law allowed (logRow id) := by
  refine (obeys_snapshot id).attempt.bind fun row => ?_
  cases row with
  | ok task => exact obeys_log _
  | error => exact obeys_pure ()

theorem obeys_logTable : Obeys law allowed logTable := by
  refine (obeys_whenLogged .info ?_).bind fun _ => (obeys_inspect _).bind fun ids =>
    (Obeys.forM obeys_logRow ids).bind fun _ =>
      (Obeys.forM (fun level => obeys_whenLogged .info ?_) Level.descending).bind fun _ =>
        obeys_kernel.bind fun _ => obeys_log _
  · exact obeys_clock.bind fun _ => (obeys_inspect _).bind fun _ => obeys_currentTask.bind fun _ =>
      (obeys_inspect _).bind fun _ => obeys_log _
  · exact (obeys_inspect _).bind fun _ => obeys_log _

theorem obeys_onTimer_other (timeout : Nat) {value : Int} (other : value ≠ Config.blinkTag) :
    Obeys law allowed (onTimer timeout value) := by
  rw [onTimer, if_neg other]
  exact obeys_log _

theorem obeys_onKey (key : KeyPush) : Obeys law allowed (onKey key) :=
  (obeys_log _).bind fun _ => obeys_logTable.ite (obeys_pure ())

theorem obeys_onLayer (source : TaskId) (request : LayerRequest) : Obeys law allowed (onLayer source request) := by
  refine Obeys.bind ?_ fun _ => obeys_kernel.bind fun _ => (obeys_log _).ite (obeys_pure ())
  exact obeys_modifyKernel fun _ => ⟨rfl, rfl, rfl, rfl, rfl⟩

theorem Obeys.onMessage {message : Message} (told : ∀ timeout value, message.kind = .timerTimeout timeout value →
    Obeys law allowed (onTimer timeout value)) : Obeys law allowed (KernelM.onMessage message) := by
  unfold KernelM.onMessage
  cases kind : message.kind with
  | deviceInterrupt => exact obeys_pollBytes _
  | timerTimeout timeout value => exact told timeout value kind
  | keyPush key => exact obeys_onKey key
  | layer request => exact obeys_onLayer message.source request
  | layerFinish => exact obeys_pure ()

theorem obeys_spawn (entry : UInt64) (argument : Int64) : Obeys law allowed (spawn entry argument) :=
  obeys_create.bind fun _ => (obeys_prepare _ _ _).bind fun _ => (obeys_wakeup _ _).bind fun _ => obeys_pure _

theorem obeys_startDemo : Obeys law allowed startDemo :=
  (obeys_spawn _ _).bind fun _ => (obeys_spawn _ _).bind fun _ => obeys_log _

/-! ### The event loop -/

theorem obeys_runReaction (kind : HandlerKind) : Obeys law allowed (runReaction kind) := by
  intro scope machine nested steady
  cases popped : machine.agenda.popReaction? kind with
  | none =>
    have run : runReaction kind scope machine = (.ok (), machine) := by
      rw [runReaction, run_bind_of_ok (run_get scope machine), popped]
      rfl
    exact .of_ok run (conveys.refl machine) steady
  | some taken =>
    obtain ⟨script, agenda⟩ := taken
    obtain ⟨within, left, pending⟩ := steady.agenda.popReaction popped
    have run : runReaction kind scope machine = nest script scope { machine with agenda } := by
      rw [runReaction, run_bind_of_ok (run_get scope machine), popped]
      rfl
    have steadyLeft : ({ machine with agenda } : Machine).Steady allowed :=
      ⟨⟨steady.unlocked, steady.sound⟩, left⟩
    have inner := obeysAt_nest nested steadyLeft within
    have quiet : machine.Quiet { machine with agenda } :=
      ⟨rfl, rfl, rfl, ⟨rfl, rfl, rfl, rfl, rfl⟩, pending ▸ List.prefix_rfl⟩
    exact .of_run run (conveys.trans (conveys.quiet quiet) inner.law) inner.steady inner.fault

theorem runReaction_answer (kind : HandlerKind) : (runReaction kind scope machine).1 = .ok () := by
  rw [runReaction, run_bind_of_ok (run_get scope machine)]
  cases machine.agenda.popReaction? kind with
  | none => rfl
  | some taken => rfl

theorem onLayer_answer (calm : machine.Calm) (source : TaskId) (request : LayerRequest) :
    (onLayer source request scope machine).1 = .ok () := by
  rw [onLayer, run_bind_of_ok (run_modifyKernel scope machine _), run_bind_of_ok (run_kernel scope _)]
  have counted : ({ machine with kernel.layerRequests := machine.kernel.layerRequests + 1 } : Machine).Calm :=
    ⟨calm.unlocked, calm.sound⟩
  split
  · exact log_answer counted _
  · rfl

theorem callHandler_answer (calm : machine.Calm) (handler : Handler) (source : TaskId) (request : LayerRequest) :
    (callHandler handler .layer ⟨source, .layer request⟩ scope machine).1 = .ok () := by
  cases handler with
  | silent => rfl
  | recording => exact runReaction_answer .layer
  | kernel =>
    have noted : (machine.record (.handled ⟨source, .layer request⟩)).Calm := ⟨calm.unlocked, calm.sound⟩
    have counted : onLayer source request scope (machine.record (.handled ⟨source, .layer request⟩)) =
      (.ok (), _) :=
      Prod.ext (onLayer_answer noted source request) rfl
    exact (congrArg Prod.fst (run_bind_of_ok counted)).trans (runReaction_answer .layer)

theorem Obeys.callHandler {handler : Handler} {message : Message}
    (handled : handler = .kernel → Obeys law allowed (KernelM.onMessage message)) (kind : HandlerKind) :
    Obeys law allowed (KernelM.callHandler handler kind message) := by
  have noted : Obeys law allowed (record (.handled message)) := obeys_record trivial
  cases handler with
  | silent => exact obeys_pure ()
  | recording => exact noted.bind fun _ => obeys_runReaction kind
  | kernel =>
    exact noted.bind fun _ => (handled rfl).bind fun _ => obeys_runReaction kind

/-- What the event loop does with a message, if the law bears that it answers. -/
theorem Obeys.dispatch {handler : Handler} {message : Message}
    (handled : handler = .kernel → Obeys law allowed (KernelM.onMessage message))
    (answered : ∀ {machine : Machine} (id), machine.Calm → law machine (machine.record (.answered (.done id)))) :
    Obeys law allowed (KernelM.dispatch handler message) := by
  unfold KernelM.dispatch
  cases message.kind.handlerKind? with
  | none => exact obeys_log _
  | some kind =>
    refine (Obeys.callHandler handled kind).bind fun _ => Obeys.ite ?_ (obeys_pure ())
    refine (obeys_send _ _).bind fun _ => fun scope machine _ steady => ?_
    exact .of_ok (run_record scope machine _) (answered message.source steady.toCalm) (steady.record _)

/-- A turn that has taken a message ends as the handing over of the message ends. -/
theorem run_loopTurn {taken : Machine} {message : Message} (handler : Handler)
    (took : waitTurn TaskId.eventLoop scope machine = (.ok (some message), taken)) :
    loopTurn handler scope machine =
      match dispatch handler message scope (taken.record (.answered (.begun message))) with
      | (.ok (), last) => (.ok ⟨.ok true, if message.kind.handlerKind?.isSome then 1 else 0⟩, last)
      | (.error (.refused error), last) =>
        (.ok ⟨.error error, if message.kind.handlerKind?.isSome then 1 else 0⟩, last)
      | (.error fault, last) => (.error fault, last) := by
  rw [loopTurn, run_bind_of_ok (attempt_of_ok took)]
  dsimp only
  rw [run_bind_of_ok (run_record scope taken _), run_bind, run_attempt]
  obtain ⟨result, last⟩ := dispatch handler message scope (taken.record (.answered (.begun message)))
  rcases result with fault | _
  · cases fault <;> rfl
  · rfl

omit conveys in
theorem obeysAt_turn {taken last : Machine} {message : Message} {handler : Handler} {result : Except Fault Unit}
    (took : waitTurn TaskId.eventLoop scope machine = (.ok (some message), taken))
    (run : dispatch handler message scope (taken.record (.answered (.begun message))) = (result, last))
    (kept : law machine last)
    (steady : last.Steady allowed) (ordinary : ∀ fault, result = .error fault → ¬fault.Excluded) :
    ObeysAt law allowed scope machine (loopTurn handler) := by
  have turned := run_loopTurn handler took
  rw [run] at turned
  rcases result with fault | _
  · cases fault with
    | refused error => exact .of_ok turned kept steady
    | deadlock | stuck | panic | needsKernel =>
      exact .of_run turned kept steady fun _ same => by cases same; exact ordinary _ rfl
  · exact .of_ok turned kept steady

theorem loopTurn_dozes (nested : scope.Obeys law allowed) (steady : machine.Steady allowed) (handler : Handler)
    (waits : machine.kernel.sched.mailbox TaskId.eventLoop = []) :
    ObeysAt law allowed scope machine (loopTurn handler) := by
  obtain ⟨dozes, none⟩ := waitTurn_dozes nested steady waits
  refine dozes.attempt.bind fun taken after run steadyAfter => ?_
  rcases taken with error | _ | message
  · exact obeys_pure _ scope after nested steadyAfter
  · exact obeys_pure _ scope after nested steadyAfter
  · exact absurd (congrArg Prod.fst (ok_of_attempt run)) (none message)

section

variable {handler : Handler} (turn : Obeys law allowed (loopTurn handler))

include turn

theorem obeys_loopTurns (times : Nat) : Obeys law allowed (loopTurns handler times) := by
  induction times with
  | zero => exact obeys_pure _
  | succ times ih => exact turn.bind fun _ => ih.bind fun _ => obeys_pure _

theorem obeys_endlessTurn : Obeys law allowed (endlessTurn handler) := by
  refine obeys_get.bind fun _ => turn.bind fun taken => ?_
  rcases taken with ⟨error | dispatched, handled⟩
  · exact obeys_log _
  · cases dispatched with
    | true => exact obeys_pure ()
    | false =>
      exact obeys_get.bind fun _ => (obeys_throw (by decide)).ite (obeys_pure ())

theorem obeys_endlessTurns (times : Nat) : Obeys law allowed (endlessTurns handler times) := by
  induction times with
  | zero => exact obeys_pure ()
  | succ times ih => exact (obeys_endlessTurn turn).bind fun _ => ih

theorem obeys_endlessRounds (rounds : Nat) : Obeys law allowed (endlessRounds handler rounds) := by
  induction rounds with
  | zero => exact obeys_throw (by decide)
  | succ rounds ih =>
    exact obeys_kernel.bind fun _ => (obeys_endlessTurns turn _).bind fun _ => ih

theorem obeys_runLoop : Obeys law allowed (runLoop handler) :=
  (obeys_log _).bind fun _ => obeys_read.bind fun _ => obeys_endlessRounds turn _

end

theorem obeys_needKernel : Obeys law allowed needKernel :=
  obeys_get.bind fun _ => (obeys_throw (by decide)).ite (obeys_pure ())

end

/-! ### Laws that bear new timers -/

section

variable [carries : law.Carries allowed]

theorem obeys_onTimer (timeout : Nat) (value : Int) : Obeys law allowed (onTimer timeout value) := by
  refine Obeys.ite (Obeys.bind ?_ fun _ => obeys_kernel.bind fun _ =>
    (obeys_log _).bind fun _ => ?_) (obeys_log _)
  · exact obeys_modifyKernel fun _ => ⟨rfl, rfl, rfl, rfl, rfl⟩
  · exact ((obeys_throw (by decide)).bind fun _ => obeys_addTimer _).ite (obeys_addTimer _)

theorem obeys_onMessage (message : Message) : Obeys law allowed (onMessage message) :=
  .onMessage fun timeout value _ => obeys_onTimer timeout value

theorem obeys_callHandler (handler : Handler) (kind : HandlerKind) (message : Message) :
    Obeys law allowed (callHandler handler kind message) :=
  .callHandler (fun _ => obeys_onMessage message) kind

theorem obeys_dispatch_other (handler : Handler) {message : Message}
    (other : message.kind.handlerKind? ≠ some .layer) : Obeys law allowed (dispatch handler message) := by
  unfold dispatch
  cases known : message.kind.handlerKind? with
  | none => exact obeys_log _
  | some kind =>
    refine (obeys_callHandler handler kind message).bind fun _ => ?_
    rw [if_neg fun layer => other (known.trans (congrArg some layer))]
    exact obeys_pure ()

/-- The handler of a layer request comes back, and then its source is told, unless it does not exist. -/
theorem dispatch_layer (nested : scope.Obeys law allowed) (steady : machine.Steady allowed) (handler : Handler)
    (source : TaskId) (request : LayerRequest) :
    ∃ handled told, callHandler handler .layer ⟨source, .layer request⟩ scope machine = (.ok (), handled) ∧
      law machine handled ∧ handled.Steady allowed ∧ send source Message.layerFinish scope handled =
        ((handled.kernel.sched.send source Message.layerFinish).reply, told) ∧
      law ((handled.mask.operate (.send source Message.layerFinish)).flag handled.kernel.interrupts) told ∧
      told.Steady allowed ∧ dispatch handler ⟨source, .layer request⟩ scope machine =
        match (handled.kernel.sched.send source Message.layerFinish).reply with
        | .ok () => (.ok (), told.record (.answered (.done source)))
        | .error fault => (.error fault, told) := by
  obtain ⟨handled, called⟩ : ∃ handled, callHandler handler .layer ⟨source, .layer request⟩ scope machine =
      (.ok (), handled) := ⟨_, Prod.ext (callHandler_answer steady.toCalm handler source request) rfl⟩
  obtain ⟨kept, steadyHandled, _⟩ :=
    obeys_callHandler handler .layer ⟨source, .layer request⟩ scope machine nested steady
  rw [called] at kept steadyHandled
  obtain ⟨told, sent, later, steadyTold⟩ := send_closes nested steadyHandled source Message.layerFinish
  refine ⟨handled, told, called, kept, steadyHandled, sent, later, steadyTold, (run_bind_of_ok called).trans ?_⟩
  rw [if_pos rfl, run_bind, sent]
  cases (handled.kernel.sched.send source Message.layerFinish).reply <;> rfl

/-- A law that bears every event between critical sections bears what the event loop does with a message. -/
theorem obeys_dispatch (records : law.Records) (handler : Handler) (message : Message) :
    Obeys law allowed (dispatch handler message) :=
  .dispatch (fun _ => obeys_onMessage message) fun _ calm => records calm trivial

theorem obeys_loopTurn (records : law.Records) (collects : law.Grants (.receive TaskId.eventLoop))
    (handler : Handler) : Obeys law allowed (loopTurn handler) := by
  refine (obeys_waitTurn TaskId.eventLoop fun _ => collects).attempt.bind fun taken => ?_
  rcases taken with error | _ | message
  · exact obeys_pure _
  · exact obeys_pure _
  · refine Obeys.bind (obeys_record trivial) fun _ =>
      (obeys_dispatch records handler message).attempt.bind fun result => ?_
    cases result with
    | error => exact obeys_pure _
    | ok => exact obeys_pure _

/-! ### Steps -/

theorem carryOut_dispatch (records : law.Records) (message : Message) (handler : Handler) :
    Obeys law allowed (carryOut (.dispatch message handler)) :=
  obeys_needKernel.bind fun _ => (obeys_dispatch records handler message).bind fun _ => obeys_pure _

end

end KernelM

theorem Machine.step_dispatch {handler : Handler} {message : Message} {result : Except Fault Unit} {last : Machine}
    (run : KernelM.dispatch handler message scope machine = (result, last)) (depth : Nat) :
    machine.step scope depth (.dispatch message handler) =
      if machine.core = .bare then machine.record (.finished depth (.dispatch message handler) (.error .needsKernel))
      else last.record (.finished depth (.dispatch message handler) (result.map fun _ => .done)) := by
  have stepped : ∀ {reply after}, KernelM.carryOut (.dispatch message handler) scope machine = (reply, after) →
      machine.step scope depth (.dispatch message handler) =
        after.record (.finished depth (.dispatch message handler) reply) := by
    intro reply after carried
    rw [Machine.step, carried]
  split
  · next bare =>
    refine stepped (KernelM.run_bind_of_error ?_)
    rw [KernelM.needKernel, KernelM.run_bind_of_ok (KernelM.run_get scope machine), if_pos bare]
    rfl
  · next kernel =>
    have passed : KernelM.needKernel scope machine = (.ok (), machine) := by
      rw [KernelM.needKernel, KernelM.run_bind_of_ok (KernelM.run_get scope machine), if_neg kernel]
      rfl
    cases result with
    | ok => exact stepped ((KernelM.run_bind_of_ok passed).trans (KernelM.run_bind_of_ok run))
    | error fault => exact stepped ((KernelM.run_bind_of_ok passed).trans (KernelM.run_bind_of_error run))

theorem Law.Carries.arms (carries : law.Carries allowed) (nested : scope.Obeys law allowed)
    (steady : machine.Steady allowed) (depth : Nat) (timer : Timer)
    (ended : ∀ {machine : Machine} {reply}, machine.Calm → Step.Answers (.addTimer timer) reply →
      law machine (machine.record (.finished depth (.addTimer timer) reply))) :
    law machine (machine.step scope depth (.addTimer timer)) := by
  have armed : KernelM.Obeys law allowed (KernelM.carryOut (.addTimer timer)) :=
    (KernelM.obeys_addTimer timer).bind fun _ => KernelM.obeys_pure _
  obtain ⟨kept, after, fault⟩ := armed scope machine nested steady
  exact carries.trans kept (ended after.toCalm ⟨fault, nofun⟩)

theorem Law.Carries.brings (carries : law.Carries allowed) (records : law.Records)
    (nested : scope.Obeys law allowed) (steady : machine.Steady allowed) (depth : Nat) {step : Step}
    (brings : step.Brings) : law machine (machine.step scope depth step) := by
  cases step with
  | addTimer timer => exact carries.arms nested steady depth timer fun calm answers => records calm answers
  | dispatch message handler =>
    obtain ⟨kept, after, fault⟩ := KernelM.carryOut_dispatch records message handler scope machine nested steady
    exact carries.trans kept (records after.toCalm ⟨fault, nofun⟩)
  | _ => exact brings.elim

/-- A law that bears every part of a turn of the event loop bears the whole. -/
theorem Law.Carries.bears (carries : law.Carries allowed) (records : law.Records)
    (collects : law.Grants (.receive TaskId.eventLoop)) : law.Bears allowed where
  ended := fun _ calm _ answers => records calm answers
  turned := fun _ _ => KernelM.obeys_loopTurn records collects _
  brought := fun depth _ brings nested steady => carries.brings records nested steady depth brings

instance Law.Total.bears [total : law.Total] (allowed : Step → Prop) :
    law.Bears allowed :=
  (total.carries allowed).bears total.noted (total.granted _)

namespace KernelM

section

variable [bears : law.Bears allowed]

/-- Scripts that are set aside are allowed, since the step that sets them aside is. -/
theorem carryOut_obeysAt {step : Step} (within : step.Within allowed) (inner : ¬step.Brings)
    (nested : scope.Obeys law allowed) (steady : machine.Steady allowed) :
    ObeysAt law allowed scope machine (carryOut step) := by
  have done : ∀ reply : Reply, Obeys law allowed (pure reply : KernelM Reply) := obeys_pure
  have whole : ∀ {α : Type} {call : KernelM α} (reply : α → Reply), Obeys law allowed call →
      ObeysAt law allowed scope machine (call >>= fun value => pure (reply value)) := fun reply obeys =>
    obeys.bind (fun _ => done _) scope machine nested steady
  have setAside : ∀ {change : Machine → Machine}, machine.Quiet (change machine) →
      (change machine).agenda.Within allowed →
      ObeysAt law allowed scope machine (modify change >>= fun _ => pure Reply.done) := fun quiet agenda =>
    .of_ok rfl (bears.quiet quiet) (steady.quiet quiet agenda)
  cases step with
  | create list =>
    refine (obeys_create scope machine nested steady).bind fun id after created steadyAfter => ?_
    have bare : Call.sleep ∈ list → law.Grants (.sleep id) := fun naps => bears.napped within naps trivial
    have other : id ≠ TaskId.eventLoop := create_answer steady.toCalm created
    have chain : Obeys law allowed (calls id list) := obeys_calls id bare fun _ own => absurd own other
    exact chain.bind (fun _ => done _) scope after nested steadyAfter
  | handle id list =>
    have bare : Call.sleep ∈ list → law.Grants (.sleep id) := fun naps => bears.napped within naps trivial
    have chain : Obeys law allowed (calls id list) :=
      obeys_calls id bare fun takes own => bears.collected within ⟨own, takes⟩
    exact (obeys_find id).bind (fun _ => chain.bind fun _ => done _) scope machine nested steady
  | current => exact whole .task obeys_currentTask
  | setLevel id level => exact whole _ (obeys_setLevel id level)
  | wakeup id level => exact whole _ (obeys_wakeup id level)
  | sleep id => exact whole _ (obeys_switching (.sleep id) (fun _ => rfl) (bears.napped within trivial trivial))
  | switch sleeping =>
    cases sleeping with
    | true => exact whole _ (obeys_switching (.switch true) (fun _ => rfl) (bears.napped within rfl rfl))
    | false => exact whole _ obeys_switch
  | send id message => exact whole _ (obeys_send id message)
  | receive id => exact whole .message (obeys_receive id (bears.collected within))
  | wait id => exact whole (fun message => .message (some message)) (obeys_wait id (bears.collected within))
  | queue level => exact whole .queue (obeys_inspect _)
  | snapshot id => exact whole .snapshot (obeys_snapshot id)
  | overview => exact whole .overview obeys_overview
  | disableInterrupts => exact whole _ (obeys_disable within trivial)
  | enableInterrupts => exact whole _ (obeys_enable within trivial)
  | hook script =>
    refine setAside ⟨rfl, rfl, rfl, ⟨rfl, rfl, rfl, rfl, rfl⟩, List.prefix_rfl⟩
      ⟨?_, steady.agenda.pending, steady.agenda.reactions⟩
    exact List.forall_mem_append.mpr ⟨steady.agenda.hooks, List.forall_mem_singleton.mpr within.2⟩
  | raise script =>
    refine setAside ⟨rfl, rfl, rfl, ⟨rfl, rfl, rfl, rfl, rfl⟩, List.prefix_append _ _⟩
      ⟨steady.agenda.hooks, ?_, steady.agenda.reactions⟩
    exact List.forall_mem_append.mpr ⟨steady.agenda.pending, List.forall_mem_singleton.mpr within.2⟩
  | react kind script =>
    refine setAside ⟨rfl, rfl, rfl, ⟨rfl, rfl, rfl, rfl, rfl⟩, List.prefix_rfl⟩
      ⟨steady.agenda.hooks, steady.agenda.pending, ?_⟩
    exact List.forall_mem_append.mpr ⟨steady.agenda.reactions, List.forall_mem_singleton.mpr within.2⟩
  | addTimer timer => exact absurd trivial inner
  | tick times => exact whole .ticks (obeys_ticks 1 times)
  | timerInterrupt times script =>
    exact (obeys_needKernel scope machine nested steady).bind fun _ _ _ steadyAfter =>
      (timerInterrupts_obeysAt nested steadyAfter within.2 times).bind fun _ after _ steadyLast =>
        done _ scope after nested steadyLast
  | deviceInterrupt =>
    exact obeys_needKernel.bind (fun _ => obeys_deviceInterrupt.bind fun _ => done _) scope machine nested steady
  | loop times handler =>
    refine obeys_needKernel.bind (fun _ => Obeys.ite ?_ ?_) scope machine nested steady
    · refine (bears.turned within rfl).bind fun turn => ?_
      cases turn.result with
      | error => exact obeys_throw (Fault.ordinary_of_refused ⟨_, rfl⟩)
      | ok => exact done _
    · exact (obeys_loopTurns (bears.turned within rfl) times).bind fun _ => done _
  | dispatch message handler => exact absurd trivial inner
  | forever handler =>
    exact obeys_needKernel.bind (fun _ => (obeys_runLoop (bears.turned within rfl)).bind fun _ => done _) scope machine
      nested steady
  | keys bytes =>
    exact whole _ (obeys_modifyKernel fun _ => ⟨rfl, rfl, rfl, rfl, rfl⟩)
  | poll =>
    exact (obeys_pollBytes _).bind (fun _ => obeys_kernel.bind fun _ => done _) scope machine nested steady
  | keyboardInit =>
    exact obeys_keyboardInit.bind (fun _ => obeys_kernel.bind fun _ => done _) scope machine nested steady
  | demo short =>
    exact obeys_needKernel.bind (fun _ => (obeys_startDemo.withMemory short).bind fun _ => done _) scope machine nested
      steady

theorem carryOut_answers {step : Step} (within : step.Within allowed) (inner : ¬step.Brings)
    (nested : scope.Obeys law allowed) (steady : machine.Steady allowed) :
    step.Answers (carryOut step scope machine).1 where
  ordinary := (carryOut_obeysAt within inner nested steady).fault
  shown := by
    rintro rfl
    obtain ⟨shown, id, answer, visible⟩ := overview_answer nested steady
    have run : overview scope machine = (.ok shown, (overview scope machine).2) := Prod.ext answer rfl
    have whole : carryOut .overview scope machine = (.ok (.overview shown), _) := run_bind_of_ok run
    exact ⟨shown, id, congrArg Prod.fst whole, visible⟩

end

theorem carryOut_whole (carries : law.Carries allowed) (records : law.Records)
    (collects : law.Grants (.receive TaskId.eventLoop)) {step : Step} (within : step.Within allowed)
    (nested : scope.Obeys law allowed) (steady : machine.Steady allowed) :
    ObeysAt law allowed scope machine (carryOut step) := by
  have bears := carries.bears records collects
  by_cases brings : step.Brings
  · cases step with
    | addTimer timer => exact (obeys_addTimer timer).bind (fun _ => obeys_pure _) scope machine nested steady
    | dispatch message handler => exact carryOut_dispatch records message handler scope machine nested steady
    | _ => exact brings.elim
  · exact carryOut_obeysAt within brings nested steady

end KernelM

end PriorityKernel
