import PriorityKernel.Proofs.ContextIntegrity
import PriorityKernel.Proofs.Machine.Spawning

namespace PriorityKernel

open Machine

variable {α : Type} {scope : Scope} {machine : Machine} {id : TaskId} {error : TaskError}

/-- The task that a step names, for want of which it is refused. -/
def Step.names? : Step → Option TaskId
  | .handle id _ | .setLevel id _ | .wakeup id _ | .sleep id | .send id _ | .receive id | .wait id | .snapshot id =>
    some id
  | _ => none

namespace KernelM

theorem bounces_wait (calm : machine.Calm) (absent : machine.kernel.sched.tasks.get? id = none) (scope : Scope) :
    Bounces (.noSuchTask id) scope machine (wait id) := by
  have looked : receive id scope machine.mask = (.error (.refused (.noSuchTask id)), machine.mask) :=
    critical_refused calm.mask rfl (Scheduler.withTask_none absent) scope
  have turn : Bounces (.noSuchTask id) scope machine (waitTurn id) :=
    bounces_masked ((masked_of_off rfl _).trans (run_bind_of_error looked))
  -- a wait has at least one turn, and the first one is refused
  have turns : Bounces (.noSuchTask id) scope machine (waitTurns id (2 * scope.credit + 3)) :=
    (turn.bind _).looking
  exact ⟨turns.answer, turns.still⟩

theorem carryOut_bounces (calm : machine.Calm) (absent : machine.kernel.sched.tasks.get? id = none) {next : Step}
    (names : next.names? = some id) (scope : Scope) : Bounces (.noSuchTask id) scope machine (carryOut next) := by
  cases next with
  | handle =>
    cases names
    exact (bounces_critical calm (Scheduler.withTask_none absent) scope).bind _
  | setLevel | wakeup | send | receive | snapshot =>
    cases names
    exact (bounces_critical calm (Scheduler.withTask_none absent) scope).bind _
  | sleep =>
    cases names
    have refused := Operation.outcome_of_absent calm.sound (rfl : (Operation.sleep id).addressee? = some id) absent
    exact (bounces_switching calm refused scope).bind _
  | wait =>
    cases names
    exact (bounces_wait calm absent scope).bind _
  | _ => cases names

theorem unrefused_operation (calm : machine.Calm) {body : Kernel → Outcome α} (operation : Operation)
    (same : ∀ kernel : Kernel, operation.outcome kernel.sched = (body kernel).map fun _ => none)
    (addressed : operation.addressee? = some id) (other : ¬operation.Prepares)
    (known : id ∈ machine.kernel.sched.tasks.ids) : Unrefused scope machine (critical body) := by
  intro error failed
  obtain ⟨ends, accepted⟩ := operation.accepted calm.sound addressed other known
  rw [critical_answer calm] at failed
  rw [show operation.outcome machine.kernel.sched = _ from same (machine.mask.hold .scheduler).kernel] at accepted
  simp only [Outcome.map, failed, Except.map] at accepted
  cases accepted

theorem unrefused_look (calm : machine.Calm) (known : id ∈ machine.kernel.sched.tasks.ids) (answer : Task → α) :
    Unrefused scope machine (critical fun kernel =>
      kernel.sched.withTask id fun task => Outcome.pure (answer task) kernel.sched) := by
  intro error failed
  obtain ⟨task, here⟩ := TaskTable.mem_ids_iff.mp known
  rw [critical_answer calm] at failed
  cases (congrArg Outcome.reply (Scheduler.withTask_some here)).symm.trans failed

theorem unrefused_sleep (calm : machine.Calm) (known : id ∈ machine.kernel.sched.tasks.ids) :
    Unrefused scope machine (sleep id) := by
  intro error failed
  cases (sleep_answer calm known scope).symm.trans failed

theorem known_stable (id : TaskId) : History.Stable fun state _ => id ∈ state.tasks.ids where
  noted := fun _ _ known => known
  operated := by
    intro machine operation sound known
    rw [machine.operate_sched]
    exact (operation.effect sound).known known

/-- A law for scripts that run during a wait: whoever exists goes on to exist. -/
def Lasting (filter : LogFilter) (id : TaskId) : Law := fun before after =>
  before.filter = filter ∧ id ∈ before.kernel.sched.tasks.ids →
    after.filter = filter ∧ id ∈ after.kernel.sched.tasks.ids

instance lasting_total (filter : LogFilter) (id : TaskId) : (Lasting filter id).Total :=
  ((known_stable id).under filter).total

variable {filter : LogFilter}

theorem unrefused_waitTurn (nested : scope.Obeys (Lasting filter id) fun _ => True)
    (steady : machine.Steady fun _ => True)
    (known : machine.filter = filter ∧ id ∈ machine.kernel.sched.tasks.ids) :
    Unrefused scope machine (waitTurn id) := by
  have total := lasting_total filter id
  have looked : ObeysAt (Lasting filter id) (fun _ => True) scope machine.mask (receive id) :=
    obeys_receive id (fun _ => total.granted _) scope machine.mask nested steady.mask
  have first : Unrefused scope machine.mask (receive id) :=
    unrefused_operation steady.mask.toCalm (.receive id) (fun _ => rfl) rfl not_false known.2
  refine unrefused_masked (first.bind fun message after run => ?_)
  have kept := looked.law known
  have calm := looked.steady.toCalm
  rw [run] at kept calm
  cases message with
  | some message => exact unrefused_pure _
  | none => exact (unrefused_sleep calm kept.2).bind fun _ _ _ => unrefused_pure _

theorem unrefused_waitTurns (nested : scope.Obeys (Lasting filter id) fun _ => True)
    (steady : machine.Steady fun _ => True) (known : machine.filter = filter ∧ id ∈ machine.kernel.sched.tasks.ids)
    (turns : Nat) : Unrefused scope machine (waitTurns id turns) := by
  induction turns generalizing machine with
  | zero => nofun
  | succ turns ih =>
    have total := lasting_total filter id
    have turned : ObeysAt (Lasting filter id) (fun _ => True) scope machine (waitTurn id) :=
      obeys_waitTurn id (fun _ => total.granted _) scope machine nested steady
    refine Unrefused.looking ((unrefused_waitTurn nested steady known).bind fun message after run => ?_)
    have kept := turned.law known
    have later := turned.steady
    rw [run] at kept later
    cases message with
    | some message => exact unrefused_pure _
    | none =>
      refine Unrefused.looking ?_
      split
      · nofun
      · exact ih later kept

theorem unrefused_wait (nested : scope.Obeys (Lasting machine.filter id) fun _ => True)
    (steady : machine.Steady fun _ => True) (known : id ∈ machine.kernel.sched.tasks.ids) :
    Unrefused scope machine (wait id) := by
  have looked : Unrefused scope machine (read : KernelM Scope) := nofun
  refine looked.bind fun _ _ got => ?_
  cases got
  exact unrefused_waitTurns nested steady ⟨rfl, known⟩ _

theorem carryOut_unrefused (nested : scope.Obeys (Lasting machine.filter id) fun _ => True)
    (steady : machine.Steady fun _ => True) (known : id ∈ machine.kernel.sched.tasks.ids) {next : Step}
    (names : next.names? = some id) : Unrefused scope machine (carryOut next) := by
  have answered : ∀ {α : Type} {call : KernelM α} (reply : α → Reply), Unrefused scope machine call →
      Unrefused scope machine (call >>= fun value => pure (reply value)) := fun _ unrefused =>
    unrefused.bind fun _ _ _ => unrefused_pure _
  have calm := steady.toCalm
  cases next with
  | handle owner list =>
    cases names
    exact (unrefused_look calm known fun _ => ()).bind fun _ _ _ =>
      (unrefused_calls id list).bind fun _ _ _ => unrefused_pure _
  | setLevel owner level =>
    cases names
    exact answered _ (unrefused_operation calm (.setLevel id level) (fun _ => rfl) rfl not_false known)
  | wakeup owner level =>
    cases names
    exact answered _ (unrefused_operation calm (.wakeup id level) (fun _ => rfl) rfl not_false known)
  | send owner message =>
    cases names
    exact answered _ (unrefused_operation calm (.send id message) (fun _ => rfl) rfl not_false known)
  | receive =>
    cases names
    exact answered _ (unrefused_operation calm (.receive id) (fun _ => rfl) rfl not_false known)
  | sleep =>
    cases names
    exact answered _ (unrefused_sleep calm known)
  | snapshot =>
    cases names
    exact answered _ (unrefused_look calm known Task.snapshot)
  | wait =>
    cases names
    exact answered _ (unrefused_wait nested steady known)
  | _ => cases names

/-- A preparation is refused for want of the task, or of memory for a first stack, and then all is as it was
unless something arrives. -/
theorem prepare_refused (calm : machine.Calm) {last : Option (UInt64 × Int64)}
    (laid : Gear.Laid machine.kernel.sched.memory id last (machine.kernel.sched.gear id)) {short : Bool}
    {entry : UInt64} {argument : Int64}
    (failed : (call id (.prepare short entry argument) scope machine).1 = .error (.refused error)) :
    Bounces error scope machine (call id (.prepare short entry argument)) ∧
      ((error = .noSuchTask id ∧ id ∉ machine.kernel.sched.tasks.ids) ∨
        (error = .outOfMemory id Config.stackBytes ∧ id ∈ machine.kernel.sched.tasks.ids ∧
          (machine.kernel.sched.stack id).bytes = 0 ∧
          ((short || machine.kernel.memoryShort) = true ∨ machine.kernel.sched.memory.block? id = none))) := by
  have shortened : (machine.shorten short).Calm := ⟨calm.unlocked, calm.sound⟩
  have answer : (withMemory short (prepare id entry argument) scope machine).1 =
      (machine.kernel.sched.prepare (short || machine.kernel.memoryShort) id entry argument).reply := by
    rw [run_withMemory]
    exact critical_answer shortened _ scope
  have refused : (machine.kernel.sched.prepare (short || machine.kernel.memoryShort) id entry argument).reply =
      .error (.refused error) := by
    rw [← answer]
    exact fails_of_answering failed
  obtain ⟨same, cause⟩ := calm.sound.toPlaced.prepare_refused laid refused
  exact ⟨(Bounces.withMemory (bounces_critical shortened same scope)).bind _, cause⟩

end KernelM

namespace Program.Reaches

open KernelM

variable {program : Program} {machine : Machine}

/-- Wherever a run is between calls: a call is refused if and only if it names a task that does not exist,
and nothing has changed then; a preparation is refused also for want of memory if the task has no stack yet,
and nothing has changed then either; and of demo tasks for which there is no memory the last one is left, asleep
and without a stack, after the first one if that got a stack and was woken. Nothing changes, that is, unless an
interrupt was raised before. -/
theorem refusals (reached : program.Reaches machine) {kernel : Kernel} (member : kernel ∈ machine.kernels)
    (free : kernel.locks = []) {start : Machine} (same : start.kernel = kernel) (credit depth : Nat) :
    let scope : Scope := ⟨credit, Machine.exec credit depth⟩
    (∀ id, id ∉ kernel.sched.tasks.ids ↔ id = 0 ∨ kernel.sched.tasks.size < id) ∧
    (∀ (next : Step) id, next.names? = some id →
      (∀ error, (carryOut next scope start).1 = .error (.refused error) ↔
        error = .noSuchTask id ∧ id ∉ kernel.sched.tasks.ids) ∧
      (id ∉ kernel.sched.tasks.ids → start.agenda.pending = [] → (carryOut next scope start).2 = start)) ∧
    (∀ id short entry argument error,
      (call id (.prepare short entry argument) scope start).1 = .error (.refused error) →
        ((error = .noSuchTask id ∧ id ∉ kernel.sched.tasks.ids) ∨
          (error = .outOfMemory id Config.stackBytes ∧ id ∈ kernel.sched.tasks.ids ∧
            (kernel.sched.stack id).bytes = 0 ∧
            ((short || kernel.memoryShort) = true ∨ kernel.sched.memory.block? id = none))) ∧
        (start.agenda.pending = [] → (call id (.prepare short entry argument) scope start).2 = start)) ∧
    (∀ short, start.core = .kernel → start.agenda.pending = [] →
      ((short || kernel.memoryShort) = true ∨ kernel.sched.memory.block? (kernel.sched.lastId + 1) = none) →
        ∃ lines : List Entry, (∀ line ∈ lines, line.event = .logged (.taskCreated (kernel.sched.lastId + 1))) ∧
          carryOut (.demo short) scope start =
            (.error (.refused (.outOfMemory (kernel.sched.lastId + 1) Config.stackBytes)), { start with
              kernel.sched := kernel.sched.joined { id := kernel.sched.lastId + 1 }
              trace := lines ++ start.trace })) ∧
    ∀ short block, start.core = .kernel → start.agenda.pending = [] → (short || kernel.memoryShort) = false →
      kernel.sched.memory.block? (kernel.sched.lastId + 1) = some block →
      kernel.sched.memory.block? (kernel.sched.lastId + 2) = none →
        ∃ lines : List Entry, (∀ line ∈ lines,
            line.event = .did (.prepared (kernel.sched.lastId + 1) drawingEntry (Int64.ofNat Config.demoLayer)) ∨
              ∃ notice, line.event = .logged notice) ∧
          carryOut (.demo short) scope start =
            (.error (.refused (.outOfMemory (kernel.sched.lastId + 2) Config.stackBytes)), { start with
              kernel.sched := (kernel.sched.spawned block drawingEntry (Int64.ofNat Config.demoLayer)).joined
                { id := kernel.sched.lastId + 2 }
              trace := lines ++ start.trace }) := by
  subst same
  intro scope
  have sound := reached.sound _ member
  have calm : start.Calm := ⟨free, sound⟩
  refine ⟨fun id => sound.toPlaced.unknown_iff, fun next id names => ?_,
    fun id short entry argument error failed => ?_,
    fun short core unraised none => writes_demo_short calm unraised core none,
    fun short block core unraised enough housed none => writes_demo_halved calm unraised core enough housed none⟩
  · have nested : scope.Obeys (Lasting start.filter id) fun _ => True :=
      Machine.obeys_exec (Law.Total.bears _) credit depth
    rcases start.kernel.sched.tasks.absent_or_here id with absent | ⟨task, rfl, here⟩
    · have unknown : id ∉ start.kernel.sched.tasks.ids := by
        rw [TaskTable.mem_ids_iff, absent]
        exact nofun
      have bounces := carryOut_bounces calm absent names scope
      refine ⟨fun error => ⟨fun failed => ?_, fun ⟨cause, _⟩ => cause ▸ bounces.answer⟩, fun _ =>
        bounces.still⟩
      cases bounces.answer.symm.trans failed
      exact ⟨rfl, unknown⟩
    · have known := TaskTable.mem_ids_iff.mpr ⟨task, here⟩
      have unrefused := carryOut_unrefused nested calm.steady known names
      exact ⟨fun error => ⟨fun failed => absurd failed (unrefused error), fun ⟨_, unknown⟩ =>
        absurd known unknown⟩,
        fun unknown => absurd known unknown⟩
  · obtain ⟨last, laid⟩ := reached.furnished _ member id
    obtain ⟨bounces, cause⟩ := prepare_refused calm laid failed
    exact ⟨cause, bounces.still⟩

/-- A run that leaves two tasks without a stack: one was only created, and for the other there was no memory. The
allocator has one more block, for task 5. -/
def outfitless : Program where
  core := .kernel
  filter := .standard
  memoryShort := false
  memory := .row 0x2000_0000_0008 6 (by decide) (by decide)
  script := [.create [], .demo true]

theorem outfitless_refusals :
    let start := outfitless.ending
    let scope : Scope := ⟨1, Machine.exec 1 1⟩
    outfitless.Reaches start ∧ start.kernel.sched.tasks.ids = [1, 2, 3, 4] ∧
    (carryOut (.wait 9) scope start).1 = .error (.refused (.noSuchTask 9)) ∧
    (carryOut (.wait 9) scope start).2 = start ∧
    (∀ error, (carryOut (.sleep 1) scope start).1 ≠ .error (.refused error)) ∧
    (call 3 (.prepare true 0x1000 0) scope start).1 = .error (.refused (.outOfMemory 3 4096)) ∧
    (call 3 (.prepare true 0x1000 0) scope start).2 = start ∧
    (carryOut (.demo true) scope start).1 = .error (.refused (.outOfMemory 5 4096)) ∧
    (carryOut (.demo true) scope start).2.kernel.sched.ready = start.kernel.sched.ready ∧
    (carryOut (.demo false) scope start).1 = .error (.refused (.outOfMemory 6 4096)) ∧
    (carryOut (.demo false) scope start).2.kernel.sched.ready = start.kernel.sched.ready.pushBack 1 5 := by
  intro start scope
  have reached : outfitless.Reaches start := reaches_ending rfl
  have unraised : start.agenda.pending = [] := List.isEmpty_iff.mp (by decide +kernel)
  have ids : start.kernel.sched.tasks.ids = [1, 2, 3, 4] := by decide +kernel
  have last : start.kernel.sched.lastId = 4 := by decide +kernel
  have enough : start.kernel.memoryShort = false := by decide +kernel
  have core : start.core = .kernel := by decide +kernel
  obtain ⟨_, named, prepared, shorted, halved⟩ :=
    refusals reached start.kernel_mem_kernels reached.calm.unlocked rfl 1 1
  obtain ⟨waited, still⟩ := named (.wait 9) 9 rfl
  obtain ⟨slept, _⟩ := named (.sleep 1) 1 rfl
  have unknown : 9 ∉ start.kernel.sched.tasks.ids := by rw [ids]; decide
  have known : 1 ∈ start.kernel.sched.tasks.ids := by rw [ids]; decide
  have short : (call 3 (.prepare true 0x1000 0) scope start).1 = .error (.refused (.outOfMemory 3 4096)) := by
    decide +kernel
  have first : ∃ block, start.kernel.sched.memory.block? (start.kernel.sched.lastId + 1) = some block :=
    Option.isSome_iff_exists.mp (by decide +kernel)
  obtain ⟨block, first⟩ := first
  obtain ⟨_, _, spawned⟩ := shorted true core unraised (Or.inl rfl)
  obtain ⟨_, _, drawing⟩ := halved false block core unraised enough first
    (Option.isNone_iff_eq_none.mp (by decide +kernel))
  rw [last] at spawned drawing
  have queued := congrArg (fun next => start.kernel.sched.ready.pushBack 1 (next + 1)) last
  refine ⟨reached, ids, (waited _).mpr ⟨rfl, unknown⟩, still unknown unraised,
    fun error failed => ((slept error).mp failed).2 known, short, (prepared 3 _ _ _ _ short).2 unraised,
    congrArg Prod.fst spawned, congrArg (·.2.kernel.sched.ready) spawned, congrArg Prod.fst drawing,
    (congrArg (·.2.kernel.sched.ready) drawing).trans queued⟩

/-- A machine whose allocator has no block but for the idle task and for one more. -/
def cramped : Program where
  core := .kernel
  filter := .standard
  memoryShort := false
  memory := .row 0x2000_0000_0008 4 (by decide) (by decide)
  script := []

/-- A machine with an interrupt waiting that wakes the next task as soon as there is one. -/
def hasty : Program where
  core := .kernel
  filter := .standard
  memoryShort := false
  script := [.raise [.wakeup 3 none]]

/-- Demo tasks that are refused have changed the queues, if the first one got a stack or an interrupt came. -/
theorem cramped_demo_wakes :
    let scope : Scope := ⟨1, Machine.exec 1 1⟩
    let halved := carryOut (.demo false) scope cramped.ending
    let interrupted := carryOut (.demo true) scope hasty.ending
    (cramped.Reaches cramped.ending ∧ (halved.1 matches .error (.refused (.outOfMemory 4 4096))) ∧
      cramped.ending.kernel.sched.tasks.ids = [1, 2] ∧ halved.2.kernel.sched.tasks.ids = [1, 2, 3, 4] ∧
      cramped.ending.kernel.sched.ready.queue 1 = [] ∧ halved.2.kernel.sched.ready.queue 1 = [3] ∧
      (halved.2.kernel.sched.stack 3).bytes = 4096) ∧
    hasty.Reaches hasty.ending ∧ (interrupted.1 matches .error (.refused (.outOfMemory 3 4096))) ∧
    hasty.ending.kernel.sched.ready.queue 1 = [] ∧ interrupted.2.kernel.sched.ready.queue 1 = [3] := by
  refine ⟨⟨reaches_ending rfl, ?_, ?_, ?_, ?_, ?_, ?_⟩, reaches_ending rfl, ?_, ?_, ?_⟩
  all_goals decide +kernel

end Program.Reaches

end PriorityKernel
