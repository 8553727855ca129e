import PriorityKernel.Proofs.Machine.Ticks

namespace PriorityKernel.KernelM

open Machine

variable {α : Type} {law : Law} {allowed : Step → Prop} {scope : Scope} {machine : Machine}

section Tasks

variable [conveys : law.Conveys allowed]

theorem obeys_create : Obeys law allowed create :=
  (obeys_operation (fun _ => .create) (fun _ => rfl) fun _ => conveys.granted not_false nofun).bind
    fun _ => (obeys_log _).bind fun _ => obeys_pure _

theorem create_answer {id : TaskId} {after : Machine} (calm : machine.Calm)
    (created : create scope machine = (.ok id, after)) : id ≠ TaskId.eventLoop := by
  have known := calm.sound.toPlaced.two_le
  have answer : (critical (·.sched.create) scope machine).1 = .ok (machine.kernel.sched.lastId + 1) :=
    (masked_answer _ scope machine).trans (congrArg Prod.fst (critical_of_calm scope calm.mask rfl (·.sched.create)))
  obtain ⟨entered, made⟩ : ∃ entered, critical (·.sched.create) scope machine =
      (.ok (machine.kernel.sched.lastId + 1), entered) := ⟨_, Prod.ext answer rfl⟩
  rw [create, run_bind_of_ok made, run_bind] at created
  split at created
  · cases created
    exact Nat.ne_of_gt (Nat.lt_succ_of_le (Nat.le_of_succ_le known))
  · cases created

theorem obeys_prepare (id : TaskId) (entry : UInt64) (argument : Int64) :
    Obeys law allowed (prepare id entry argument) :=
  obeys_operation (fun kernel => .prepare kernel.memoryShort id entry argument) (fun _ => rfl)
    fun _ => conveys.granted not_false nofun

theorem obeys_setLevel (id : TaskId) (level : Nat) : Obeys law allowed (setLevel id level) :=
  obeys_operation (fun _ => .setLevel id level) (fun _ => rfl) fun _ => conveys.granted not_false nofun

theorem obeys_wakeup (id : TaskId) (level : Option Nat) : Obeys law allowed (wakeup id level) :=
  obeys_operation (fun _ => .wakeup id level) (fun _ => rfl) fun _ => conveys.granted not_false nofun

theorem obeys_send (id : TaskId) (message : Message) : Obeys law allowed (send id message) :=
  obeys_operation (fun _ => .send id message) (fun _ => rfl) fun _ => conveys.granted not_false nofun

/-- Messages of the event loop's task are taken if the law bears it. -/
theorem obeys_receive (id : TaskId) (own : id = TaskId.eventLoop → law.Grants (.receive TaskId.eventLoop)) :
    Obeys law allowed (receive id) :=
  obeys_operation (fun _ => .receive id) (fun _ => rfl) fun _ => conveys.grants_receive id own

theorem obeys_switch : Obeys law allowed (switch false) :=
  obeys_switching (.switch false) (fun _ => rfl) (conveys.granted Bool.false_ne_true nofun)

end Tasks

section Looking

variable [closed : law.Closed]

theorem obeys_look_at (id : TaskId) (answer : Task → α) : Obeys law allowed (critical fun kernel =>
    kernel.sched.withTask id fun task => Outcome.pure (answer task) kernel.sched) := by
  refine obeys_look fun kernel _ => ?_
  rcases kernel.sched.tasks.absent_or_here id with absent | ⟨task, rfl, here⟩
  · rw [Scheduler.withTask_none absent]
    refine ⟨rfl, rfl, rfl, fun fault failed => Fault.ordinary_of_refused ⟨.noSuchTask id, ?_⟩⟩
    cases failed
    rfl
  · rw [Scheduler.withTask_some here]
    exact ⟨rfl, rfl, rfl, fun _ impossible => by cases impossible⟩

theorem obeys_snapshot (id : TaskId) : Obeys law allowed (snapshot id) := obeys_look_at id Task.snapshot

theorem obeys_find (id : TaskId) : Obeys law allowed (find id) := obeys_look_at id fun _ => ()

theorem obeys_currentTask : Obeys law allowed currentTask := by
  refine obeys_look fun kernel sound => ?_
  obtain ⟨id, executing⟩ := sound.executing
  simp only [Scheduler.withCurrent, executing]
  exact ⟨rfl, rfl, rfl, fun _ impossible => by cases impossible⟩

theorem obeys_visibleTask : Obeys law allowed visibleTask := fun _ machine nested steady =>
  obeysAt_masked nested (.of_ok (run_bind_of_ok (run_kernel _ machine.mask)) (closed.refl _) steady.mask)

theorem obeys_overview : Obeys law allowed overview :=
  (obeys_inspect _).bind fun _ => (obeys_inspect _).bind fun _ =>
    (obeys_inspect _).bind fun _ => obeys_visibleTask.bind fun _ => obeys_pure _

theorem inspect_answer (calm : machine.Calm) (body : Scheduler → α) :
    (inspect body scope machine).1 = .ok (body machine.kernel.sched) :=
  (masked_answer _ scope machine).trans (congrArg Prod.fst (critical_of_calm scope calm.mask rfl _))

theorem visibleTask_answer (calm : machine.Calm) :
    ∃ id, (visibleTask scope machine).1 = .ok (some id) := by
  obtain ⟨id, executing⟩ := calm.sound.executing
  have visible : machine.mask.kernel.visibleTask? = some id := (if_neg (calm.free .scheduler)).trans executing
  refine ⟨id, (masked_answer _ scope machine).trans ?_⟩
  exact congrArg (fun shown => Except.ok shown) visible

theorem overview_answer (nested : scope.Obeys law allowed) (steady : machine.Steady allowed) :
    ∃ shown id, (overview scope machine).1 = .ok shown ∧ shown.current = some id := by
  have looked : ∀ {β : Type} (body : Scheduler → β) {machine : Machine}, machine.Steady allowed →
      ∃ after, inspect body scope machine = (.ok (body machine.kernel.sched), after) ∧ after.Steady allowed :=
    fun body machine steady =>
      ⟨_, Prod.ext (inspect_answer steady.toCalm body) rfl, (obeys_inspect body scope machine nested steady).steady⟩
  obtain ⟨first, ids, steadyFirst⟩ := looked (·.tasks.ids) steady
  obtain ⟨second, count, steadySecond⟩ := looked (·.tasks.size) steadyFirst
  obtain ⟨third, idle, steadyThird⟩ := looked (·.idle) steadySecond
  obtain ⟨id, visible⟩ := @visibleTask_answer scope third steadyThird.toCalm
  have last : visibleTask scope third = (.ok (some id), (visibleTask scope third).2) := Prod.ext visible rfl
  refine ⟨⟨machine.kernel.sched.tasks.ids, first.kernel.sched.tasks.size, second.kernel.sched.idle,
    some id⟩, id, ?_, rfl⟩
  unfold overview taskIds taskCount idleTask
  rw [run_bind_of_ok ids, run_bind_of_ok count, run_bind_of_ok idle, run_bind_of_ok last]
  rfl

theorem Obeys.withMemory {call : KernelM α} (first : Obeys law allowed call) (short : Bool) :
    Obeys law allowed (withMemory short call) := by
  refine obeys_kernel.bind fun _ => Obeys.bind ?_ fun _ => first.observed fun _ ordinary => Obeys.bind ?_ fun _ =>
    obeys_resume ordinary
  all_goals exact obeys_modifyKernel fun _ => ⟨rfl, rfl, rfl, rfl, rfl⟩

end Looking

section Mail

variable [closed : law.Closed]

/-- A message is sent, or refused, before anything else can happen. -/
theorem send_closes (nested : scope.Obeys law allowed) (steady : machine.Steady allowed) (id : TaskId)
    (message : Message) : ∃ last, send id message scope machine =
      ((machine.kernel.sched.send id message).reply, last) ∧
      law ((machine.mask.operate (.send id message)).flag machine.kernel.interrupts) last ∧ last.Steady allowed := by
  have operated : machine.mask.operate (.send id message) = machine.mask.enter (machine.kernel.sched.send id message) :=
    machine.mask.operate_of_map rfl
  have inside : send id message scope machine.mask =
      ((machine.kernel.sched.send id message).reply, machine.mask.operate (.send id message)) := by
    rw [operated]
    exact critical_of_calm scope steady.mask.toCalm rfl fun kernel => kernel.sched.send id message
  exact masked_closes nested inside (steady.mask.operate _) (machine.operate_off _)

/-- A task that has messages takes the oldest one, before anything else can happen. -/
theorem waitTurn_takes (nested : scope.Obeys law allowed) (steady : machine.Steady allowed) {id : TaskId}
    {message : Message} {rest : List Message} (waits : machine.kernel.sched.mailbox id = message :: rest) :
    ∃ last, waitTurn id scope machine = (.ok (some message), last) ∧
      law ((machine.mask.operate (.receive id)).flag machine.kernel.interrupts) last ∧ last.Steady allowed := by
  obtain ⟨next, received, _⟩ := Scheduler.receive_waiting waits
  have looked := critical_of_calm scope steady.mask.toCalm rfl fun kernel => kernel.sched.receive id
  have operated : machine.mask.operate (.receive id) = machine.mask.enter (machine.kernel.sched.receive id) :=
    machine.mask.operate_of_map rfl
  have took : receive id scope machine.mask = (.ok (some message), machine.mask.operate (.receive id)) := by
    rw [operated]
    exact looked.trans (congrArg (·, _) (congrArg Outcome.reply received))
  have inside : waitTurn id scope machine.mask = (.ok (some message), machine.mask.operate (.receive id)) :=
    (masked_of_off rfl _).trans (run_bind_of_ok took)
  exact masked_closes nested inside (steady.mask.operate _) (machine.operate_off _)

end Mail

section Handles

variable [conveys : law.Conveys allowed]

/-- Looking for a message and going to sleep are one masked section, so the task goes to sleep while
none waits. -/
theorem waitTurn_dozes (nested : scope.Obeys law allowed) (steady : machine.Steady allowed) {id : TaskId}
    (empty : machine.kernel.sched.mailbox id = []) : ObeysAt law allowed scope machine (waitTurn id) ∧
      ∀ message, (waitTurn id scope machine).1 ≠ .ok (some message) := by
  have off := steady.mask
  have looked := critical_of_calm scope off.toCalm rfl fun kernel => kernel.sched.receive id
  have unchanged : ∀ reply : Except Fault (Option Message), machine.kernel.sched.receive id =
      ⟨reply, machine.kernel.sched, [], []⟩ → receive id scope machine.mask = (reply, machine.mask) := by
    intro reply received
    refine looked.trans (Prod.ext (congrArg Outcome.reply received) ?_)
    exact machine.mask.enter_look (congrArg Outcome.next received) (congrArg Outcome.notices received)
      (congrArg Outcome.deeds received)
  have answer : (waitTurn id scope machine).1 = (waitTurn id scope machine.mask).1 := masked_answer_mask ..
  rcases Scheduler.receive_empty empty with received | refused
  · have inside : waitTurn id scope machine.mask = (sleep id >>= fun _ => pure none) scope machine.mask :=
      (masked_of_off rfl _).trans (run_bind_of_ok (unchanged _ received))
    have dozes := obeysAt_switching nested off (.sleep id) (fun _ => rfl) (conveys.dozed id off.mask.toCalm rfl empty)
    have whole : ObeysAt law allowed scope machine.mask (sleep id >>= fun _ => pure (none : Option Message)) :=
      dozes.bind fun _ last _ steadyLast => obeys_pure none scope last nested steadyLast
    refine ⟨obeysAt_masked_off nested (whole.congr inside), fun message => ?_⟩
    rw [answer, inside, run_bind]
    split <;> nofun
  · have inside : waitTurn id scope machine.mask = (.error (.refused (.noSuchTask id)), machine.mask) :=
      (masked_of_off rfl _).trans (run_bind_of_error (unchanged _ refused))
    have ordinary : ¬(Fault.refused (.noSuchTask id)).Excluded := Fault.ordinary_of_refused ⟨_, rfl⟩
    refine ⟨obeysAt_masked_off nested (.of_run inside (conveys.refl _) off fun _ same => ?_), fun message => ?_⟩
    · cases same
      exact ordinary
    · rw [answer, inside]
      nofun

theorem obeys_waitTurn (id : TaskId) (own : id = TaskId.eventLoop → law.Grants (.receive TaskId.eventLoop)) :
    Obeys law allowed (waitTurn id) := by
  intro scope machine nested steady
  cases waits : machine.kernel.sched.mailbox id with
  | nil => exact (waitTurn_dozes nested steady waits).1
  | cons message rest =>
    obtain ⟨last, run, later, steadyLast⟩ := waitTurn_takes nested steady waits
    have took := conveys.grants_receive id own machine.mask steady.mask.toCalm rfl
    exact .of_ok run (conveys.trans (flag_of_masked took (machine.operate_off _)) later) steadyLast

theorem obeys_waitTurns (id : TaskId) (own : id = TaskId.eventLoop → law.Grants (.receive TaskId.eventLoop))
    (turns : Nat) : Obeys law allowed (waitTurns id turns) := by
  induction turns with
  | zero => exact obeys_throw (by decide)
  | succ turns ih =>
    refine obeys_get.bind fun _ => (obeys_waitTurn id own).bind fun message => ?_
    cases message with
    | some message => exact obeys_pure _
    | none => exact obeys_get.bind fun _ => (obeys_throw (by decide)).ite ih

theorem obeys_wait (id : TaskId) (own : id = TaskId.eventLoop → law.Grants (.receive TaskId.eventLoop)) :
    Obeys law allowed (wait id) :=
  obeys_read.bind fun _ => obeys_waitTurns id own _

theorem obeys_call (id : TaskId) {next : Call} (bare : next = .sleep → law.Grants (.sleep id))
    (own : next = .receive → id = TaskId.eventLoop → law.Grants (.receive TaskId.eventLoop)) :
    Obeys law allowed (call id next) := by
  have done : ∀ reply : CallReply, Obeys law allowed (pure reply : KernelM CallReply) := obeys_pure
  cases next with
  | prepare short entry argument =>
    exact ((obeys_prepare id entry argument).withMemory short).bind fun _ => done _
  | setLevel level => exact (obeys_setLevel id level).bind fun _ => done _
  | wakeup level => exact (obeys_wakeup id level).bind fun _ => done _
  | sleep => exact (obeys_switching (.sleep id) (fun _ => rfl) (bare rfl)).bind fun _ => done _
  | send message => exact (obeys_send id message).bind fun _ => done _
  | receive => exact (obeys_receive id (own rfl)).bind fun _ => done _
  | snapshot => exact (obeys_snapshot id).bind fun _ => done _

theorem obeys_calls (id : TaskId) {list : List Call} (bare : Call.sleep ∈ list → law.Grants (.sleep id))
    (own : Call.receive ∈ list → id = TaskId.eventLoop → law.Grants (.receive TaskId.eventLoop)) :
    Obeys law allowed (calls id list) := by
  induction list with
  | nil => exact obeys_pure _
  | cons next rest ih =>
    refine (obeys_call id (fun sleeps => bare (sleeps ▸ List.mem_cons_self ..))
      fun takes => own (takes ▸ List.mem_cons_self ..)).attempt.bind fun result => ?_
    cases result with
    | error error => exact obeys_pure _
    | ok reply =>
      exact (ih (fun member => bare (List.mem_cons_of_mem _ member))
        fun member => own (List.mem_cons_of_mem _ member)).bind fun _ => obeys_pure _

end Handles

end PriorityKernel.KernelM
