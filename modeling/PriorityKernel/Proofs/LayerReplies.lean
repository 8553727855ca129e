import PriorityKernel.Proofs.RequestLedger

namespace PriorityKernel

open Machine

variable {scope : Scope} {machine : Machine} {source : TaskId}

/-! ### What comes of one request -/

/-- What comes of a layer request when its handler is done: the source is sent a reply and is awake, or
nobody is and the request is refused. -/
inductive KernelM.Replies (scope : Scope) (source : TaskId) (handled : Machine) :
    Except TaskError Unit → Machine → Prop
  | answered {told : Machine} (here : source ∈ handled.kernel.sched.tasks.ids)
      (sent : send source Message.layerFinish scope handled = (.ok (), told))
      (queued : (handled.kernel.sched.send source Message.layerFinish).next.mailbox source =
        handled.kernel.sched.mailbox source ++ [Message.layerFinish])
      (awake : (handled.kernel.sched.send source Message.layerFinish).next.Awake source) :
      Replies scope source handled (.ok ()) (told.record (.answered (.done source)))
  | refused {told : Machine} (absent : source ∉ handled.kernel.sched.tasks.ids)
      (sent : send source Message.layerFinish scope handled = (.error (.refused (.noSuchTask source)), told))
      (unchanged : (handled.kernel.sched.send source Message.layerFinish).next = handled.kernel.sched) :
      Replies scope source handled (.error (.noSuchTask source)) told

/-- The handler is called for a layer request and comes back, and only then there is a reply; a source
that existed before gets one. -/
def KernelM.Serves (scope : Scope) (handler : Handler) (source : TaskId) (request : LayerRequest) (before : Machine)
    (result : Except TaskError Unit) (last : Machine) : Prop :=
  ∃ handled, callHandler handler .layer ⟨source, .layer request⟩ scope before = (.ok (), handled) ∧
    Replies scope source handled result last ∧ (source ∈ before.kernel.sched.tasks.ids → result = .ok ())

namespace KernelM

section

variable (id : TaskId) (nested : scope.Obeys (Settles id 0 0) fun step => ¬step.Collects)
  (steady : machine.Steady fun step => ¬step.Collects) (handler : Handler)

include nested steady

/-- A layer request that is handed to the event loop is served; an answer settles what its source was
owed, and only a source that did not exist goes without. -/
theorem dispatch_serves (source : TaskId) (request : LayerRequest) :
    ∃ result last, Serves scope handler source request machine result last ∧
      dispatch handler ⟨source, .layer request⟩ scope machine = (result.mapError Fault.refused, last) ∧
      (last.Steady fun step => ¬step.Collects) ∧
      (result = .ok () ∧ machine.Settles id (Message.owed id ⟨source, .layer request⟩) 0 last ∨
        result = .error (.noSuchTask source) ∧ source ∉ machine.kernel.sched.tasks.ids ∧
          machine.Settles id 0 0 last) := by
  have carries := settles_carries id
  obtain ⟨handled, told, called, kept, steadyHandled, sent, later, steadyTold, run⟩ :=
    dispatch_layer nested steady handler source request
  rcases steadyHandled.sound.send_awakens source Message.layerFinish with
    ⟨here, reply, deeds, queued, awake⟩ | ⟨absent, refused⟩
  · rw [reply] at sent run
    have replied : handled.Settles id 0 _ _ :=
      (@Settles.reply id handled.mask steadyHandled.sound source deeds).flag handled.kernel.interrupts
    have settled := (kept.trans (replied.trans later)).trans (.answer source)
    refine ⟨_, _, ⟨handled, called, .answered here sent queued awake, fun _ => rfl⟩, run, steadyTold.record _,
      Or.inl ⟨rfl, ?_⟩⟩
    have owed : Message.owed id ⟨source, .layer request⟩ = if source = id then 1 else 0 := by
      simp [Message.owed, Message.requests]
    rw [owed]
    split_ifs at settled ⊢ <;> exact settled
  · rw [refused] at sent run
    have stranger : source ∉ machine.kernel.sched.tasks.ids := fun known => absent (kept.known known)
    have replied : handled.Settles id 0 0 _ :=
      (@Settles.operate id handled.mask steadyHandled.sound (Operation.send source Message.layerFinish) (by simp)).flag
        handled.kernel.interrupts
    exact ⟨_, _, ⟨handled, called, .refused absent sent (congrArg Outcome.next refused),
      fun known => absurd known stranger⟩, run, steadyTold,
        Or.inr ⟨rfl, stranger, kept.trans (replied.trans later)⟩⟩

/-- However a message that the event loop took or was handed comes out, its source is owed nothing more, or it
did not exist. -/
theorem dispatch_settles (message : Message) :
    ∃ result last, dispatch handler message scope machine = (result, last) ∧
      (last.Steady fun step => ¬step.Collects) ∧ (∀ fault, result = .error fault → ¬fault.Excluded) ∧
      (result = .ok () ∧ machine.Settles id (message.owed id) 0 last ∨
        (∃ fault, result = .error fault) ∧ (message.requests id = true →
          id ∉ machine.kernel.sched.tasks.ids) ∧
          machine.Settles id 0 0 last) := by
  have carries := settles_carries id
  by_cases asks : message.kind.handlerKind? = some .layer
  · obtain ⟨source, kind⟩ := message
    cases kind with
    | layer request =>
      obtain ⟨result, last, _, run, steadyLast, settled⟩ := dispatch_serves id nested steady handler source request
      rcases settled with ⟨rfl, settles⟩ | ⟨rfl, stranger, settles⟩
      · exact ⟨_, last, run, steadyLast, nofun, Or.inl ⟨rfl, settles⟩⟩
      · refine ⟨_, last, run, steadyLast, ?_, Or.inr ⟨⟨_, rfl⟩, fun own => ?_, settles⟩⟩
        · rintro fault ⟨⟩
          exact Fault.ordinary_of_refused ⟨_, rfl⟩
        · have same : source = id := beq_iff_eq.mp own
          exact same ▸ stranger
    | _ => cases asks
  · have apart : message.requests id = false := by
      obtain ⟨source, kind⟩ := message
      cases kind <;> first | rfl | exact absurd rfl asks
    have none : message.owed id = 0 := by rw [Message.owed, apart, if_neg Bool.false_ne_true]
    obtain ⟨kept, steadyLast, ordinary⟩ := obeys_dispatch_other handler asks scope machine nested steady
    obtain ⟨result, last, run⟩ : ∃ result last, dispatch handler message scope machine = (result, last) :=
      ⟨_, _, rfl⟩
    rw [run] at kept steadyLast ordinary
    refine ⟨result, last, run, steadyLast, ordinary, ?_⟩
    cases result with
    | ok => exact Or.inl ⟨rfl, none ▸ kept⟩
    | error fault => exact Or.inr ⟨⟨fault, rfl⟩, fun yes =>
        absurd (apart.symm.trans yes) Bool.false_ne_true, kept⟩

theorem turn_settles {message : Message} {rest : List Message}
    (waits : machine.kernel.sched.mailbox TaskId.eventLoop = message :: rest) :
    ObeysAt (Settles id 0 0) (fun step => ¬step.Collects) scope machine (loopTurn handler) := by
  have carries := settles_carries id
  obtain ⟨taken, took, later, steadyTaken⟩ := waitTurn_takes nested steady waits
  obtain ⟨result, last, run, steadyLast, ordinary, settled⟩ :=
    dispatch_settles id nested (steadyTaken.record (.answered (.begun message))) handler message
  have taking := @Settles.take id machine.mask message rest waits
  have begun : taken.Settles id 0 0 (taken.record (.answered (.begun message))) := .record rfl
  have before := ((taking.flag machine.kernel.interrupts).trans later).trans begun
  have whole : machine.Settles id 0 0 last := by
    rcases settled with ⟨_, settles⟩ | ⟨_, stranger, settles⟩
    · exact (before.trans settles).waive fun _ => by omega
    · -- A refused request had no source when its dispatch began, which is not so for a known task.
      refine (before.trans settles).waive fun known => ?_
      have member := settles.grown.subset (List.mem_cons_self ..)
      have askless : message.requests id ≠ true := fun own => stranger own (known _ member own)
      rw [Message.owed, if_neg askless]
      rfl
  exact obeysAt_turn took run whole steadyLast ordinary

theorem step_dispatch_settles (depth : Nat) (message : Message) :
    machine.Settles id 0 0 (machine.step scope depth (.dispatch message handler)) := by
  obtain ⟨result, last, run, _, _, settled⟩ := dispatch_settles id nested steady handler message
  rw [step_dispatch run]
  split
  · exact .record rfl
  · rcases settled with ⟨rfl, settles⟩ | ⟨⟨fault, rfl⟩, _, settles⟩
    · exact (settles.trans (.hand depth message handler .done)).waive fun _ => by omega
    · exact settles.trans (.record rfl)

end

/-- A turn of the event loop leaves no debts, whether it takes a message or goes to sleep. -/
theorem obeys_loopTurn_settles (id : TaskId) (handler : Handler) :
    Obeys (Settles id 0 0) (fun step => ¬step.Collects) (loopTurn handler) := by
  have carries := settles_carries id
  intro scope machine nested steady
  cases waits : machine.kernel.sched.mailbox TaskId.eventLoop with
  | cons message rest => exact turn_settles id nested steady handler waits
  | nil => exact loopTurn_dozes nested steady handler waits

end KernelM

theorem Machine.settles_bears (id : TaskId) : Law.Bears (Settles id 0 0) fun step => ¬step.Collects where
  toConveys := (settles_carries id).toConveys
  ended := by
    intro machine step reply depth _ inner _
    refine .record ?_
    cases step <;> first | rfl | exact absurd trivial inner
  turned := fun _ _ => KernelM.obeys_loopTurn_settles id _
  brought := by
    intro step scope machine depth _ brings nested steady
    cases step with
    | addTimer timer => exact (settles_carries id).arms nested steady depth timer fun _ _ => .record rfl
    | dispatch message handler => exact KernelM.step_dispatch_settles id nested steady handler depth message
    | _ => exact brings.elim

/-! ### What waits behind a request -/

/-- Whether a step leaves the messages of the event loop where they are. -/
def Step.Spares (step : Step) : Prop := ¬step.Collects ∧ ∀ handler, ¬step.Turns handler

/-- A turn that finds a layer request in front of others takes it and serves it. It fails if nobody could
be told, which ends neither the loop nor what waits for it. -/
structure KernelM.TurnServes (scope : Scope) (handler : Handler) (source : TaskId) (request : LayerRequest)
    (rest : List Message) (start : Machine) (result : Except TaskError Unit) (last : Machine) : Prop where
  served : ∃ taken, waitTurn TaskId.eventLoop scope start = (.ok (some ⟨source, .layer request⟩), taken) ∧
    start.kernel.sched.tasks.ids ⊆ taken.kernel.sched.tasks.ids ∧
    Serves scope handler source request (taken.record (.answered (.begun ⟨source, .layer request⟩))) result last
  ended : loopTurn handler scope start = (.ok ⟨result.map fun _ => true, 1⟩, last)
  endless : (endlessTurn handler scope start).1 = .ok ()
  steady : last.Steady fun step => ¬step.Collects
  /-- If the scripts set aside leave them alone, the other messages go on waiting, in their order. -/
  others : start.Steady Step.Spares → rest <+: last.kernel.sched.mailbox TaskId.eventLoop

namespace Machine

/-- What waits for the event loop goes on waiting, in front of what comes. -/
def Spares (before after : Machine) : Prop :=
  before.kernel.sched.mailbox TaskId.eventLoop <+: after.kernel.sched.mailbox TaskId.eventLoop

theorem Spares.operate (sound : machine.kernel.sched.Sound) {operation : Operation}
    (other : operation ≠ .receive TaskId.eventLoop) : machine.Spares (machine.operate operation) := by
  have balance := operation.mailbox_balance sound TaskId.eventLoop
  rw [Operation.untaken sound other, List.nil_append] at balance
  rw [Spares, machine.operate_sched, ← balance]
  exact List.prefix_append _ _

theorem Spares.posts (sound : machine.kernel.sched.Sound) (expired : List Timer) :
    machine.Spares (expired.foldl post machine) :=
  @History.posts_relate machine Spares (fun _ => List.prefix_rfl) List.IsPrefix.trans
    (fun _ _ sound => .operate sound (by simp)) sound expired

theorem spares_records : Law.Records Spares := fun _ _ => List.prefix_rfl

theorem spares_closed : Law.Closed Spares where
  refl := fun _ => List.prefix_rfl
  trans := List.IsPrefix.trans
  quiet := fun quiet => ⟨[], by rw [List.append_nil, quiet.kernel.sched]⟩
  masked := fun _ inner => inner
  arrived := fun _ _ _ inner => inner
  wrote := by
    intro machine notice _ _
    unfold Machine.write
    split <;> exact List.prefix_rfl
  noted := fun calm passing => spares_records calm passing.outside

theorem spares_carries : Law.Carries Spares Step.Spares := by
  refine { toConveys := spares_closed.conveys (fun _ spares => spares.1) ?_ ?_ (fun _ _ => List.prefix_rfl),
           added := fun _ _ => List.prefix_rfl }
  · exact fun operation other machine calm _ => .operate calm.sound other
  · intro machine calm _
    exact @Spares.posts machine.advance calm.sound machine.kernel.timers.tick.expired

theorem spares_bears : Law.Bears Spares Step.Spares where
  toConveys := spares_carries.toConveys
  ended := fun _ _ _ _ => List.prefix_rfl
  turned := fun spares turns => absurd turns (spares.2 _)
  brought := fun depth _ brings nested steady => spares_carries.brings spares_records nested steady depth brings

end Machine

namespace KernelM

theorem loopTurn_spares (nested : scope.Obeys Spares Step.Spares) (steady : machine.Steady Step.Spares)
    (handler : Handler) {message : Message} {rest : List Message}
    (waits : machine.kernel.sched.mailbox TaskId.eventLoop = message :: rest) :
    rest <+: (loopTurn handler scope machine).2.kernel.sched.mailbox TaskId.eventLoop := by
  have carries := spares_carries
  obtain ⟨taken, took, later, steadyTaken⟩ := waitTurn_takes nested steady waits
  obtain ⟨next, received, left, _⟩ := Scheduler.receive_waiting waits
  have remains : rest <+: taken.kernel.sched.mailbox TaskId.eventLoop := by
    have begins : (machine.mask.operate (.receive TaskId.eventLoop)).kernel.sched.mailbox TaskId.eventLoop = rest := by
      rw [Machine.operate_sched]
      exact (congrArg (fun outcome => outcome.next.mailbox TaskId.eventLoop) received).trans left
    exact begins ▸ later
  have kept := (obeys_dispatch spares_records handler message scope (taken.record (.answered (.begun message))) nested
    (steadyTaken.record _)).law
  refine remains.trans (List.IsPrefix.trans kept ?_)
  rw [run_loopTurn handler took]
  obtain ⟨result, last⟩ := dispatch handler message scope (taken.record (.answered (.begun message)))
  rcases result with fault | _
  · cases fault <;> exact List.prefix_rfl
  · exact List.prefix_rfl

theorem endlessTurn_answer {handler : Handler} {result : Except TaskError Unit} {handled : Nat} {last : Machine}
    (calm : last.Calm) (turned : loopTurn handler scope machine = (.ok ⟨result.map fun _ => true, handled⟩, last)) :
    (endlessTurn handler scope machine).1 = .ok () := by
  rw [endlessTurn, run_bind_of_ok (run_get scope machine), run_bind_of_ok turned]
  cases result with
  | ok => rfl
  | error error => exact log_answer calm _

theorem turn_serves (nested : scope.Obeys (Settles source 0 0) fun step => ¬step.Collects)
    (sparing : scope.Obeys Spares Step.Spares) (steady : machine.Steady fun step => ¬step.Collects) (handler : Handler)
    {request : LayerRequest} {rest : List Message}
    (waits : machine.kernel.sched.mailbox TaskId.eventLoop = ⟨source, .layer request⟩ :: rest) :
    ∃ result last, TurnServes scope handler source request rest machine result last := by
  have carries := settles_carries source
  obtain ⟨taken, took, later, steadyTaken⟩ := waitTurn_takes nested steady waits
  obtain ⟨result, last, served, run, steadyLast, _⟩ := dispatch_serves source nested
    (steadyTaken.record (.answered (.begun ⟨source, .layer request⟩))) handler source request
  have taking := @Settles.take source machine.mask _ rest waits
  have turned : loopTurn handler scope machine = (.ok ⟨result.map fun _ => true, 1⟩, last) := by
    rw [run_loopTurn handler took, run]
    cases result <;> rfl
  refine ⟨result, last, ⟨taken, took, List.Subset.trans taking.known later.known, served⟩, turned,
    endlessTurn_answer steadyLast.toCalm turned, steadyLast, fun spared => ?_⟩
  have remains := loopTurn_spares sparing spared handler waits
  rw [turned] at remains
  exact remains

end KernelM

/-! ### Whole runs -/

theorem awake_stable : History.Stable fun _ trace => True ∧ ∀ entry ∈ trace, ∀ id message,
    entry.event = .did (.sent id message) → entry.kernel.sched.Awake id := by
  refine History.stable_entries (fun _ _ _ _ => trivial) ?_ ?_
  · rintro event kernel plain _ id message rfl
    exact plain.elim
  · rintro state operation entry sound _ ⟨after, recorded⟩ id message sent
    obtain ⟨deed, done, event⟩ | ⟨_, event⟩ | ⟨_, _, event⟩ := recorded
    · rw [sent] at event
      cases event
      rw [after]
      exact Operation.sent_deed sound done
    all_goals
      rw [sent] at event
      cases event

namespace Program

variable {program : Program}

theorem Reaches.settles {id : TaskId} (reached : program.Reaches machine)
    (own : scriptWithin (fun step => ¬step.Collects) program.script) :
    (Known id machine.trace →
      count (Event.sendsRequest id) machine.trace + count (Event.handsRequest id) machine.trace =
        (machine.kernel.sched.mailbox TaskId.eventLoop).countP (·.requests id) +
          count (Event.answers id) machine.trace) ∧
      count (Event.answers id) machine.trace ≤ count (Event.sendsReply id) machine.trace := by
  have settles := (reached.obeys_within (settles_bears id) own).1
  have ledger := reached.keeps ledger_stable (fun id => by rw [Scheduler.initial_mailbox]; rfl) TaskId.eventLoop
  have sent : count (Event.sendsRequest id) machine.trace = count (Event.takesRequest id) machine.trace +
      (machine.kernel.sched.mailbox TaskId.eventLoop).countP (·.requests id) := by
    have balanced := congrArg (List.countP (·.requests id)) ledger
    rw [List.countP_append, count_readings, count_readings] at balanced
    exact balanced
  constructor
  · intro known
    have settled : lead id machine.trace = 0 := settles.owed known
    rw [lead] at settled
    omega
  · have backed : 0 ≤ surplus id machine.trace := settles.backed
    rw [surplus] at backed
    omega

namespace Pauses

/-- Take a run whose scripts, at any depth, take no message of the event loop's task. Whenever an outermost
step has ended, the layer requests of a task that were sent to the event loop or handed to it are those that
still wait and those that it has answered, if the task existed when the event loop began to dispatch them; every
answer is a reply that was sent, and whoever is sent anything is awake then. Wherever the event loop takes a layer
request, or is handed one, the handler is called and comes back before there is an answer. A request of nobody
is refused then, and the turn ends with that error: what waits goes on waiting, and the loop goes on. -/
theorem layer_requests_answered (paused : program.Pauses machine)
    (own : scriptWithin (fun step => ¬step.Collects) program.script) :
    (machine.Steady fun step => ¬step.Collects) ∧
    (∀ id, Known id machine.trace →
      count (Event.sendsRequest id) machine.trace + count (Event.handsRequest id) machine.trace =
        (machine.kernel.sched.mailbox TaskId.eventLoop).countP (·.requests id) +
          count (Event.answers id) machine.trace) ∧
    (∀ id, count (Event.answers id) machine.trace ≤ count (Event.sendsReply id) machine.trace) ∧
    (∀ entry ∈ machine.trace, ∀ id message, entry.event = .did (.sent id message) →
      entry.kernel.sched.Awake id) ∧
    ∀ start : Machine, (start.Steady fun step => ¬step.Collects) → ∀ credit depth handler source request,
      (∃ result last,
        KernelM.Serves ⟨credit, exec credit (depth + 1)⟩ handler source request start result last ∧
        KernelM.dispatch handler ⟨source, .layer request⟩ ⟨credit, exec credit (depth + 1)⟩ start =
          (result.mapError Fault.refused, last)) ∧
      ∀ rest, start.kernel.sched.mailbox TaskId.eventLoop = ⟨source, .layer request⟩ :: rest →
        ∃ result last,
          KernelM.TurnServes ⟨credit, exec credit (depth + 1)⟩ handler source request rest start result last := by
  obtain ⟨ended, later, script, reached⟩ := paused
  have ownEnded : scriptWithin (fun step => ¬step.Collects) ended := by
    rw [script, scriptWithin_iff] at own
    exact scriptWithin_iff.mpr fun step member => own step (List.mem_append_left _ member)
  refine ⟨(reached.obeys_within (settles_bears 0) ownEnded).2, fun id => (reached.settles ownEnded).1,
    fun id => (reached.settles ownEnded).2, (reached.keeps awake_stable ⟨trivial, by simp⟩).2, ?_⟩
  intro start steady credit depth handler source request
  have nested : Scope.Obeys (Settles source 0 0) (fun step => ¬step.Collects) ⟨credit, exec credit (depth + 1)⟩ :=
    obeys_exec (settles_bears source) credit (depth + 1)
  obtain ⟨result, last, served, run, _⟩ := KernelM.dispatch_serves source nested steady handler source request
  exact ⟨⟨result, last, served, run⟩, fun rest waits =>
    KernelM.turn_serves nested (obeys_exec spares_bears credit (depth + 1)) steady handler waits⟩

/-- A run with requests of nobody, of a task, of the event loop itself, of a task that a handler creates, and
of one handed over. -/
def asking : Program where
  core := .kernel
  filter := .standard
  memoryShort := false
  script := [.create [.prepare false 0x1000 0, .wakeup (some 2)], .send 1 ⟨9, .layer ⟨.move, 0, {}⟩⟩,
    .send 1 ⟨3, .layer ⟨.draw, 0, {}⟩⟩, .send 1 ⟨1, .layer ⟨.draw, 1, {}⟩⟩,
      .send 1 ⟨4, .layer ⟨.draw, 2, {}⟩⟩,
    .react .layer [.create [], .dispatch ⟨3, .layer ⟨.drawArea, 0, {}⟩⟩ .silent], .loop 4 .kernel,
    .send 1 ⟨3, .layer ⟨.draw, 0, {}⟩⟩]

/-- The same run before the event loop takes its turns. -/
def waiting : Program := { asking with script := asking.script.take 6 }

theorem asking_layer_requests_answered : asking.Pauses asking.ending ∧ asking.Pauses waiting.ending ∧
    (∀ id ∈ [1, 3, 4], Known id asking.ending.trace ∧ count (Event.sendsRequest id) asking.ending.trace +
      count (Event.handsRequest id) asking.ending.trace =
        (asking.ending.kernel.sched.mailbox TaskId.eventLoop).countP (·.requests id) +
          count (Event.answers id) asking.ending.trace) ∧
    [1, 3, 4, 9].map (fun id => count (Event.answers id) asking.ending.trace) = [1, 2, 1, 0] ∧
    ∃ result last, KernelM.TurnServes ⟨9, exec 9 1⟩ .kernel 9 ⟨.move, 0, {}⟩
      [⟨3, .layer ⟨.draw, 0, {}⟩⟩, ⟨1, .layer ⟨.draw, 1, {}⟩⟩,
        ⟨4, .layer ⟨.draw, 2, {}⟩⟩] waiting.ending
      result last := by
  have paused : asking.Pauses asking.ending := ⟨asking.script, [], rfl, reaches_ending rfl⟩
  have earlier : asking.Pauses waiting.ending := ⟨waiting.script, asking.script.drop 6, rfl, reaches_ending rfl⟩
  have own : scriptWithin (fun step => ¬step.Collects) asking.script := by
    simp [asking, scriptWithin, Step.Within, Step.Collects]
  have known : ∀ id ∈ [1, 3, 4], Known id asking.ending.trace := by
    unfold Known
    decide +kernel
  have answered := (layer_requests_answered paused own).2.1
  obtain ⟨steady, _, _, _, served⟩ := layer_requests_answered earlier own
  refine ⟨paused, earlier, fun id member => ⟨known id member, answered id (known id member)⟩,
    by decide +kernel, ?_⟩
  exact (served waiting.ending steady 9 0 .kernel 9 ⟨.move, 0, {}⟩).2 _ (by decide +kernel)

end Pauses

end Program

end PriorityKernel
