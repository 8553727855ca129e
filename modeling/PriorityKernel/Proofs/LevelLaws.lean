import PriorityKernel.Proofs.Machine.Muting
import PriorityKernel.Proofs.Scheduler.Awake
import PriorityKernel.Proofs.Scheduler.Repeating

namespace PriorityKernel

open Machine

variable {operation : Operation} {call : KernelM Unit} {scope : Scope} {machine : Machine}

theorem Machine.mute_enter_silent {α : Type} {outcome : Outcome α} (silent : outcome.deeds = []) :
    (machine.enter outcome).mute = { machine with kernel.sched := outcome.next }.mute := by
  have nothing : ∀ inside : Machine, inside.filter = ⟨none⟩ → inside.sectionEntries outcome = [] := by
    intro inside off
    have none : (outcome.notices.filter fun notice => inside.filter.admits notice.level) = [] := by
      rw [off]
      exact List.filter_eq_nil_iff.mpr fun _ _ => Bool.false_ne_true
    rw [sectionEntries, silent, none]
    rfl
  rw [mute_enter, enter, nothing _ rfl]
  rfl

namespace KernelM

/-- On this machine the calls have the same reply and leave the same behind, but for log lines. -/
def SameAt (scope : Scope) (machine : Machine) (first second : KernelM Unit) : Prop :=
  (first scope machine).1 = (second scope machine).1 ∧ (first scope machine).2.mute = (second scope machine).2.mute

/-- On a machine on which nothing waits to run the call is this operation. -/
def Performs (call : KernelM Unit) (operation : Operation) : Prop :=
  ∀ scope machine, machine.Alone → call scope machine =
    ((operation.outcome machine.kernel.sched).reply.map fun _ => (),
    (machine.mask.operate operation).flag machine.kernel.interrupts)

theorem performs_critical {body : Kernel → Outcome Unit}
    (same : ∀ kernel : Kernel, operation.outcome kernel.sched = (body kernel).map fun _ => none) :
    Performs (critical body) operation := by
  intro scope machine alone
  have made := same (machine.mask.hold .scheduler).kernel
  have reply : ((operation.outcome machine.kernel.sched).reply.map fun _ => ()) =
      (body (machine.mask.hold .scheduler).kernel).reply := by
    rw [show operation.outcome machine.kernel.sched = _ from made]
    simp only [Outcome.map]
    cases (body (machine.mask.hold .scheduler).kernel).reply <;> rfl
  rw [run_critical alone.toCalm alone.undisturbed body scope, ← operate_of_map machine.mask made, reply]

theorem performs_setLevel (id : TaskId) (level : Nat) : Performs (setLevel id level) (.setLevel id level) :=
  performs_critical fun _ => rfl

theorem performs_wakeup (id : TaskId) (level : Option Nat) : Performs (wakeup id level) (.wakeup id level) :=
  performs_critical fun _ => rfl

theorem performs_sleep (id : TaskId) : Performs (sleep id) (.sleep id) := fun scope _ alone =>
  run_switching alone.toCalm alone.undisturbed alone.hookless (.sleep id) (fun _ => rfl) scope

/-- What is left of an operation that makes no switch and does nothing for the record. -/
theorem Performs.quiet (performs : Performs call operation) (alone : machine.Alone)
    (stays : (operation.outcome machine.kernel.sched).reply = .ok none)
    (silent : (operation.outcome machine.kernel.sched).deeds = []) (scope : Scope) :
    (call scope machine).1 = .ok () ∧ (call scope machine).2.mute =
      { machine with kernel.sched := (operation.outcome machine.kernel.sched).next }.mute := by
  have entered : machine.mask.operate operation = machine.mask.enter (operation.outcome machine.kernel.sched) :=
    operate_of_stayed fun ends goes => by cases stays.symm.trans goes
  have muted : (machine.mask.enter (operation.outcome machine.kernel.sched)).mute = _ := mute_enter_silent silent
  rw [performs scope machine alone]
  constructor
  · rw [stays]
    rfl
  · calc ((machine.mask.operate operation).flag machine.kernel.interrupts).mute
      _ = (machine.mask.enter (operation.outcome machine.kernel.sched)).mute.flag machine.kernel.interrupts :=
        congrArg (fun after => (after.flag machine.kernel.interrupts).mute) entered
      _ = _ := congrArg (·.flag machine.kernel.interrupts) muted

theorem Performs.after (performs : Performs call operation) (alone : machine.Alone) (scope : Scope) :
    (call scope machine).2.Alone ∧
      (call scope machine).2.kernel.sched = (operation.outcome machine.kernel.sched).next := by
  have undergoes := machine.undergoes_operate operation
  rw [performs scope machine alone]
  exact ⟨undergoes.alone alone, undergoes.sched⟩

theorem Performs.congr {other : KernelM Unit} {second : Operation} (performs : Performs call operation)
    (performed : Performs other second) (alone : machine.Alone) (scope : Scope)
    (same : operation.outcome machine.kernel.sched = second.outcome machine.kernel.sched) :
    call scope machine = other scope machine := by
  have operated : machine.mask.operate operation = machine.mask.operate second := by
    simp only [operate, show operation.outcome machine.mask.kernel.sched = _ from same]
    rfl
  rw [performs scope machine alone, performed scope machine alone, same, operated]

/-- To call again is to do nothing. -/
theorem Performs.twice (performs : Performs call operation) (alone : machine.Alone) {id : TaskId}
    (places : operation.Places id) (known : id ∈ machine.kernel.sched.tasks.ids) (scope : Scope) :
    (call scope machine).1 = .ok () ∧ SameAt scope machine (do call; call) call := by
  obtain ⟨ends, accepted⟩ := places.accepted alone.sound known
  obtain ⟨later, sched⟩ := performs.after alone scope
  obtain ⟨notices, vain⟩ := places.again alone.sound known
  have first : call scope machine = (.ok (), (call scope machine).2) := by
    refine Prod.ext ?_ rfl
    rw [performs scope machine alone, accepted]
    rfl
  rw [← sched] at vain
  obtain ⟨reply, left⟩ := performs.quiet later (congrArg Outcome.reply vain) (congrArg Outcome.deeds vain) scope
  rw [vain] at left
  refine ⟨congrArg Prod.fst first, ?_⟩
  have again : (call >>= fun _ => call) scope machine = call scope (call scope machine).2 := run_bind_of_ok first
  exact ⟨(congrArg Prod.fst again).trans (reply.trans (congrArg Prod.fst first).symm),
    (congrArg (·.2.mute) again).trans left⟩

end KernelM

open KernelM

/-- To set a level and then to wake is to wake at the level. -/
theorem Machine.Alone.setLevel_wakeup (alone : machine.Alone) {id : TaskId}
    (known : id ∈ machine.kernel.sched.tasks.ids) (level : Nat) (scope : Scope) :
    SameAt scope machine (do setLevel id level; wakeup id none) (wakeup id (some level)) := by
  have sound := alone.sound
  obtain ⟨later, sched⟩ := (performs_setLevel id level).after alone scope
  have stays : id ∈ (setLevel id level scope machine).2.kernel.sched.tasks.ids := by
    rw [sched]
    exact ((Operation.setLevel id level).effect sound).known known
  have places : (Operation.setLevel id level).Places id ∧ ∀ level, (Operation.wakeup id level).Places id :=
    ⟨rfl, fun _ => rfl⟩
  have levelled := places.1.silent nofun sound known
  have woken := (places.2 none).silent nofun later.sound stays
  have direct := (places.2 (some level)).silent nofun sound known
  obtain ⟨first, left⟩ := (performs_setLevel id level).quiet alone levelled.1 levelled.2 scope
  obtain ⟨second, last⟩ := (performs_wakeup id none).quiet later woken.1 woken.2 scope
  obtain ⟨reply, whole⟩ := (performs_wakeup id (some level)).quiet alone direct.1 direct.2 scope
  have both : (setLevel id level >>= fun _ => wakeup id none) scope machine =
      wakeup id none scope (setLevel id level scope machine).2 := run_bind_of_ok (Prod.ext first rfl)
  refine ⟨(congrArg Prod.fst both).trans (second.trans reply.symm), ?_⟩
  obtain ⟨task, here⟩ := TaskTable.mem_ids_iff.mp known
  cases TaskTable.id_of_get? here
  have state : ((Operation.wakeup task.id none).outcome (setLevel task.id level scope machine).2.kernel.sched).next =
      ((Operation.wakeup task.id (some level)).outcome machine.kernel.sched).next := by
    rw [sched]
    exact sound.setLevel_wakeup here level
  rw [state] at last
  calc ((setLevel task.id level >>= fun _ => wakeup task.id none) scope machine).2.mute
    _ = (wakeup task.id none scope (setLevel task.id level scope machine).2).2.mute := congrArg (·.2.mute) both
    _ = { (setLevel task.id level scope machine).2 with
          kernel.sched := ((Operation.wakeup task.id (some level)).outcome machine.kernel.sched).next }.mute := last
    _ = { machine with
          kernel.sched := ((Operation.wakeup task.id (some level)).outcome machine.kernel.sched).next }.mute :=
      congrArg (fun muted : Machine => { muted with
        kernel.sched := ((Operation.wakeup task.id (some level)).outcome machine.kernel.sched).next }) left
    _ = (wakeup task.id (some level) scope machine).2.mute := whole.symm

namespace Program.Reaches

variable {program : Program}

/-- Wherever a run is between calls and nothing waits to run, for every task and every level, and but for log
lines: to set the level and then wake is to wake at the level, which for a running task is the same as to set
it; a level above the highest counts as the highest; and each call made twice is accepted and leaves all as
the first one left it, without another switch. -/
theorem level_laws {machine : Machine} (reached : program.Reaches machine) {kernel : Kernel}
    (member : kernel ∈ machine.kernels) (free : kernel.locks = []) {start : Machine} (same : start.kernel = kernel)
    (unraised : start.agenda.pending = []) (hookless : start.agenda.hooks = []) {id : TaskId}
    (known : id ∈ kernel.sched.tasks.ids) (level : Nat) (scope : Scope) :
    SameAt scope start (do setLevel id level; wakeup id none) (wakeup id (some level)) ∧
    (kernel.sched.Awake id → SameAt scope start (setLevel id level) (wakeup id (some level))) ∧
    setLevel id (min level Config.maxLevel) = setLevel id level ∧
    wakeup id (some (min level Config.maxLevel)) = wakeup id (some level) ∧
    ∀ call ∈ [sleep id, wakeup id none, wakeup id (some level), setLevel id level],
      (call scope start).1 = .ok () ∧ SameAt scope start (do call; call) call := by
  subst same
  have sound := reached.sound _ member
  have alone : start.Alone := ⟨⟨free, sound⟩, fun _ => unraised, hookless⟩
  refine ⟨alone.setLevel_wakeup known level scope, fun awake => ?_, ?_, ?_, ?_⟩
  · obtain ⟨task, here, running⟩ := awake
    cases TaskTable.id_of_get? here
    have same : (Operation.setLevel task.id level).outcome start.kernel.sched =
        (Operation.wakeup task.id (some level)).outcome start.kernel.sched := by
      simp only [Operation.outcome, Scheduler.setLevel_of_running here running]
    have equal := (performs_setLevel task.id level).congr (performs_wakeup task.id (some level)) alone scope same
    exact ⟨congrArg Prod.fst equal, congrArg (·.2.mute) equal⟩
  · exact congrArg critical (funext fun kernel => kernel.sched.setLevel_min id level)
  · exact congrArg critical (funext fun kernel => kernel.sched.wakeup_min id level)
  · exact List.forall_mem_cons.mpr ⟨(performs_sleep id).twice alone rfl known scope,
      List.forall_mem_cons.mpr ⟨(performs_wakeup id none).twice alone rfl known scope,
        List.forall_mem_cons.mpr ⟨(performs_wakeup id (some level)).twice alone rfl known scope,
          List.forall_mem_singleton.mpr ((performs_setLevel id level).twice alone rfl known scope)⟩⟩⟩

/-- A run that leaves one task asleep, one ready, and the calling thread executing. -/
def levelled : Program where
  core := .bare
  filter := .standard
  memoryShort := false
  script := [.create [.prepare false 0x1000 0, .setLevel 9], .create [.prepare false 0x1000 0, .wakeup (some 1)]]

theorem levelled_level_laws : levelled.Reaches levelled.ending ∧ levelled.ending.kernel.sched.current? = some 1 ∧
    SameAt ⟨1, Machine.exec 1 1⟩ levelled.ending (do setLevel 3 1; wakeup 3 none) (wakeup 3 (some 1)) ∧
    SameAt ⟨1, Machine.exec 1 1⟩ levelled.ending (setLevel 1 0) (wakeup 1 (some 0)) ∧
    (sleep 1 ⟨1, Machine.exec 1 1⟩ levelled.ending).2.kernel.switches = 1 ∧
    SameAt ⟨1, Machine.exec 1 1⟩ levelled.ending (do sleep 1; sleep 1) (sleep 1) := by
  have reached : levelled.Reaches levelled.ending := reaches_ending rfl
  have unraised : levelled.ending.agenda.pending = [] := List.isEmpty_iff.mp (by decide +kernel)
  have hookless : levelled.ending.agenda.hooks = [] := List.isEmpty_iff.mp (by decide +kernel)
  have executing : levelled.ending.kernel.sched.current? = some 1 := by decide +kernel
  have laws : ∀ id, id ∈ levelled.ending.kernel.sched.tasks.ids → ∀ level, _ := fun id known level =>
    level_laws reached levelled.ending.kernel_mem_kernels reached.calm.unlocked rfl unraised hookless known level
      ⟨1, Machine.exec 1 1⟩
  obtain ⟨sleeper, _⟩ := laws 3 (by decide +kernel) 1
  obtain ⟨_, runner, _, _, twice⟩ := laws 1 (by decide +kernel) 0
  have sound := reached.sound _ levelled.ending.kernel_mem_kernels
  have awake := sound.toPlaced.awake_of_ready (List.mem_of_mem_head? executing)
  exact ⟨reached, executing, sleeper, runner awake, by decide +kernel, (twice _ (List.mem_cons_self ..)).2⟩

end Program.Reaches

end PriorityKernel
