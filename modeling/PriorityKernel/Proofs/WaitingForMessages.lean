import PriorityKernel.Proofs.Machine.WaitTurns

namespace PriorityKernel

open Machine Scheduler

variable {machine : Machine} {scope : Scope} {id : TaskId}

namespace KernelM

/-- So many turns of waiting, whatever each of them takes. -/
def turnsOf (id : TaskId) : Nat → KernelM (List (Option Message))
  | 0 => return []
  | times + 1 => do
    let taken ← waitTurn id
    return taken :: (← turnsOf id times)

theorem run_wait_waiting (calm : machine.Calm) (undisturbed : machine.Undisturbed) {task : Task}
    (here : machine.kernel.sched.tasks.get? task.id = some task) {message : Message} {rest : List Message}
    (waits : task.messages = message :: rest) (scope : Scope) : ∃ trace, wait task.id scope machine =
      (.ok message, { machine with kernel.sched := machine.kernel.sched.repost task rest, trace }) := by
  obtain ⟨trace, run⟩ := run_waitTurn_waiting calm undisturbed here waits scope
  refine ⟨trace, ?_⟩
  show waitTurns task.id (2 * scope.credit + 3) scope machine = _
  rw [waitTurns, run_bind_of_ok (run_get scope machine), run_bind_of_ok run]
  rfl

end KernelM

/-- A machine on which a task waits in vain: it has no message, nothing else can run, and there is nobody left
to put to sleep for it. -/
structure Machine.Starves (machine : Machine) (id : TaskId) : Prop extends machine.Alone where
  known : id ∈ machine.kernel.sched.tasks.ids
  empty : machine.kernel.sched.mailbox id = []
  vain : (Operation.sleep id).Vain machine.kernel.sched

namespace Machine

/-- Waiting once more changes nothing but the trace. -/
theorem Starves.turn (starves : machine.Starves id) (scope : Scope) : ∃ trace,
    KernelM.waitTurn id scope machine = (.ok none, { machine with trace }) ∧ { machine with trace }.Starves id := by
  obtain ⟨task, here⟩ := TaskTable.mem_ids_iff.mp starves.known
  cases TaskTable.id_of_get? here
  have empty : task.messages = [] := (mailbox_of_get? here).symm.trans starves.empty
  obtain ⟨trace, still⟩ := operate_vain starves.vain
  have alone : ({ machine with trace } : Machine).Alone :=
    ⟨⟨starves.unlocked, starves.sound⟩, starves.undisturbed, starves.hookless⟩
  refine ⟨trace, ?_, alone, starves.known, starves.empty, starves.vain⟩
  rw [KernelM.run_waitTurn_empty starves.toAlone here empty scope, still]

theorem Starves.turns (starves : machine.Starves id) (times : Nat) (scope : Scope) : ∃ trace,
    KernelM.turnsOf id times scope machine = (.ok (List.replicate times none), { machine with trace }) := by
  induction times generalizing machine with
  | zero => exact ⟨machine.trace, rfl⟩
  | succ times ih =>
    obtain ⟨_, run, still⟩ := starves.turn scope
    obtain ⟨trace, ran⟩ := ih still
    refine ⟨trace, ?_⟩
    rw [KernelM.turnsOf, KernelM.run_bind_of_ok run, KernelM.run_bind_of_ok ran]
    rfl

theorem Starves.stuck (starves : machine.Starves id) (turns : Nat) (scope : Scope) :
    (KernelM.waitTurns id (turns + 1) scope machine).1 = .error .stuck := by
  obtain ⟨trace, run, -⟩ := starves.turn scope
  rw [KernelM.waitTurns, KernelM.run_bind_of_ok (KernelM.run_get scope machine), KernelM.run_bind_of_ok run]
  dsimp only
  have idle : ({ machine with trace } : Machine).activity = machine.activity := rfl
  rw [KernelM.run_bind_of_ok (KernelM.run_get scope _), if_pos idle]
  rfl

/-- One turn of a task without a message: it is asleep then, unless it is the idle task, and waits in vain. -/
theorem Alone.dozes (alone : machine.Alone) {task : Task} (here : machine.kernel.sched.tasks.get? task.id = some task)
    (empty : task.messages = []) (scope : Scope) : ∃ asleep,
    KernelM.waitTurn task.id scope machine = (.ok none, asleep) ∧ asleep.Starves task.id ∧
      machine.Undergoes asleep (.sleep task.id) ∧ asleep.kernel.switches ≤ machine.kernel.switches + 1 := by
  have known : task.id ∈ machine.kernel.sched.tasks.ids := TaskTable.mem_ids_iff.mpr ⟨task, here⟩
  have places : (Operation.sleep task.id).Places task.id := rfl
  have undergoes := machine.undergoes_operate (.sleep task.id)
  generalize made : (machine.mask.operate (.sleep task.id)).flag machine.kernel.interrupts = asleep at undergoes
  have run := KernelM.run_waitTurn_empty alone here empty scope
  rw [made] at run
  refine ⟨asleep, run, ⟨undergoes.alone alone, ?_, ?_, ?_⟩, undergoes, ?_⟩
  · rw [undergoes.sched]
    exact ((Operation.sleep task.id).effect alone.sound).known known
  · rw [undergoes.sched, Operation.mailbox_of_other alone.sound (by simp) (by simp), mailbox_of_get? here, empty]
  · rw [undergoes.sched]
    exact places.again alone.sound known
  · rw [← made]
    exact operate_switches machine.mask (.sleep task.id)

theorem Undergoes.dismissed {asleep : Machine} {task : Task} (undergoes : machine.Undergoes asleep (.sleep task.id))
    (calm : machine.Calm) (here : machine.kernel.sched.tasks.get? task.id = some task)
    (mobile : task.id ≠ machine.kernel.sched.idle) (level : Level) :
    task.id ∉ asleep.kernel.sched.ready.queue level := by
  intro queued
  obtain ⟨record, there, still⟩ := calm.sound.sleep_record here mobile
  obtain ⟨found, atFound, running, -⟩ := (undergoes.continues calm).calm.sound.mem_queue_iff.mp queued
  rw [undergoes.sched] at atFound
  cases there.symm.trans atFound
  exact absurd running (ne_true_of_eq_false still)

/-- The idle task waits in vain from the start, and stays queued. -/
theorem Alone.idles (alone : machine.Alone) {task : Task} (here : machine.kernel.sched.tasks.get? task.id = some task)
    (empty : task.messages = []) (idle : task.id = machine.kernel.sched.idle) :
    machine.Starves task.id ∧ ∃ level, task.id ∈ machine.kernel.sched.ready.queue level := by
  have known : task.id ∈ machine.kernel.sched.tasks.ids := TaskTable.mem_ids_iff.mpr ⟨task, here⟩
  have vain := alone.sound.sleep_vain here (Or.inr idle)
  obtain ⟨lazy, atIdle, running, -⟩ := alone.sound.idle_task
  rw [← alone.sound.idle, ← idle] at atIdle
  exact ⟨⟨alone, known, (mailbox_of_get? here).trans empty, vain⟩, lazy.level,
    alone.sound.mem_own_queue atIdle running⟩

theorem Alone.wait_stuck (alone : machine.Alone) {task : Task}
    (here : machine.kernel.sched.tasks.get? task.id = some task) (empty : task.messages = []) (scope : Scope) :
      (KernelM.wait task.id scope machine).1 = .error .stuck := by
  obtain ⟨asleep, run, starves, -⟩ := alone.dozes here empty scope
  show (KernelM.waitTurns task.id (2 * scope.credit + 3) scope machine).1 = _
  rw [KernelM.waitTurns, KernelM.run_bind_of_ok (KernelM.run_get scope machine), KernelM.run_bind_of_ok run]
  dsimp only
  rw [KernelM.run_bind_of_ok (KernelM.run_get scope asleep)]
  -- Going to sleep can count as activity, and then the wait takes one turn more.
  split
  · rfl
  · exact starves.stuck (2 * scope.credit + 1) scope

end Machine

namespace Program.Reaches

variable {program : Program} {start : Machine} {kernel : Kernel}

/-- On a kernel as it is at any moment of any run outside of critical sections, with no interrupt to come, for
every task that there is. If it has messages, waiting takes the oldest one, and of the kernel only the task's
own record changes, by that message. If it has none and no script waits for a switch, one turn takes the task
out of the ready queues with at most one switch, and leaves the idle task where it is; however many turns
follow, none of them takes a message or changes anything of the kernel, and the wait is given up. -/
theorem wait_blocks_only_unserved (reached : program.Reaches machine) (member : kernel ∈ machine.kernels)
    (free : kernel.locks = []) (same : start.kernel = kernel) (unraised : start.agenda.pending = []) {task : Task}
    (here : kernel.sched.tasks.get? id = some task) (scope : Scope) :
    (∀ message rest, task.messages = message :: rest → ∃ after,
      KernelM.wait id scope start = (.ok message, after) ∧
      after.kernel = { kernel with sched.tasks := kernel.sched.tasks.set { task with messages := rest } }) ∧
    (task.messages = [] → start.agenda.hooks = [] →
      ∃ asleep, KernelM.waitTurn id scope start = (.ok none, asleep) ∧
        (id ≠ kernel.sched.idle → ∀ level, id ∉ asleep.kernel.sched.ready.queue level) ∧
        (id = kernel.sched.idle → asleep.kernel = kernel ∧ ∃ level, id ∈ kernel.sched.ready.queue level) ∧
        asleep.kernel.switches ≤ kernel.switches + 1 ∧ asleep.kernel.interrupts = kernel.interrupts ∧
        (∀ times, ∃ later, KernelM.turnsOf id times scope asleep = (.ok (List.replicate times none), later) ∧
          later.kernel = asleep.kernel) ∧
        (KernelM.wait id scope start).1 = .error .stuck) := by
  subst same
  cases TaskTable.id_of_get? here
  have calm : start.Calm := ⟨free, reached.sound _ member⟩
  have undisturbed : start.Undisturbed := fun _ => unraised
  constructor
  · intro message rest waits
    obtain ⟨trace, run⟩ := KernelM.run_wait_waiting calm undisturbed here waits scope
    exact ⟨_, run, rfl⟩
  · intro empty hookless
    have alone : start.Alone := ⟨calm, undisturbed, hookless⟩
    obtain ⟨asleep, run, starves, undergoes, switches⟩ := alone.dozes here empty scope
    refine ⟨asleep, run, ?_, ?_, switches, (undergoes.continues calm).interrupts, ?_,
      alone.wait_stuck here empty scope⟩
    · exact undergoes.dismissed calm here
    · intro idle
      obtain ⟨idles, queued⟩ := alone.idles here empty idle
      obtain ⟨trace, stays, -⟩ := idles.turn scope
      cases run.symm.trans stays
      exact ⟨rfl, queued⟩
    · intro times
      obtain ⟨trace, ran⟩ := starves.turns times scope
      exact ⟨_, ran, rfl⟩

/-- A run that leaves two messages for the calling thread and none for a sleeping task. -/
def expectant : Program where
  core := .kernel
  filter := .standard
  memoryShort := false
  script := [.create [.prepare false 0x1000 0], .send 1 ⟨3, .layerFinish⟩, .send 1 ⟨7, .layerFinish⟩]

theorem expectant_wait_blocks_only_unserved : expectant.Reaches expectant.ending ∧
    (∃ after, KernelM.wait 1 ⟨1, Machine.exec 1 1⟩ expectant.ending = (.ok ⟨3, .layerFinish⟩, after) ∧
      after.kernel.sched.mailbox 1 = [⟨7, .layerFinish⟩] ∧
      after.kernel.sched.ready = expectant.ending.kernel.sched.ready) ∧
    (KernelM.wait 2 ⟨1, Machine.exec 1 1⟩ expectant.ending).1 = .error .stuck ∧
    (∃ asleep, KernelM.waitTurn 3 ⟨1, Machine.exec 1 1⟩ expectant.ending = (.ok none, asleep) ∧
      ∀ level, 3 ∉ asleep.kernel.sched.ready.queue level) := by
  have reached : expectant.Reaches expectant.ending := reaches_ending rfl
  have unraised : expectant.ending.agenda.pending = [] := List.isEmpty_iff.mp (by decide +kernel)
  have hookless : expectant.ending.agenda.hooks = [] := List.isEmpty_iff.mp (by decide +kernel)
  have letters : expectant.ending.kernel.sched.mailbox 1 = [⟨3, .layerFinish⟩, ⟨7, .layerFinish⟩] :=
    by decide +kernel
  have known : ∀ id ∈ [1, 2, 3], id ∈ expectant.ending.kernel.sched.tasks.ids := by decide +kernel
  obtain ⟨reader, first⟩ := TaskTable.mem_ids_iff.mp (known 1 (by decide))
  obtain ⟨lazy, second⟩ := TaskTable.mem_ids_iff.mp (known 2 (by decide))
  obtain ⟨sleeper, third⟩ := TaskTable.mem_ids_iff.mp (known 3 (by decide))
  have laws : ∀ {id task}, expectant.ending.kernel.sched.tasks.get? id = some task → _ := fun here =>
    wait_blocks_only_unserved reached expectant.ending.kernel_mem_kernels reached.calm.unlocked rfl unraised here
      ⟨1, Machine.exec 1 1⟩
  obtain ⟨after, run, left⟩ := (laws first).1 _ _ ((mailbox_of_get? first).symm.trans letters)
  have none : ∀ id ∈ [2, 3], expectant.ending.kernel.sched.mailbox id = [] := by decide +kernel
  obtain ⟨_, _, _, _, _, _, _, stuck⟩ :=
    (laws second).2 ((mailbox_of_get? second).symm.trans (none 2 (by decide))) hookless
  obtain ⟨asleep, turn, gone, _⟩ :=
    (laws third).2 ((mailbox_of_get? third).symm.trans (none 3 (by decide))) hookless
  have mobile : 3 ≠ expectant.ending.kernel.sched.idle := by decide +kernel
  refine ⟨reached, ⟨after, run, ?_, ?_⟩, stuck, asleep, turn, gone mobile⟩
  · have own : reader.id = 1 := TaskTable.id_of_get? first
    have atOwn : expectant.ending.kernel.sched.tasks.get? reader.id = some reader := by rw [own, first]
    rw [left]
    exact (mailbox_repost atOwn _ 1).trans (if_pos own.symm)
  · rw [left]

end Program.Reaches

end PriorityKernel
