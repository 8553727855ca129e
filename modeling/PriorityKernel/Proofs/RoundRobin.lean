import PriorityKernel.Proofs.Machine.SingleOperations
import PriorityKernel.Proofs.Scheduler.Turns

namespace PriorityKernel

open Scheduler

/-- Whether a step decides who executes next. -/
def Step.Decides (next : Step) (state : Scheduler) : Prop :=
  ∃ operation ∈ next.operation?, operation.Decides state

instance (next : Step) (state : Scheduler) : Decidable (next.Decides state) :=
  inferInstanceAs (Decidable (∃ operation ∈ next.operation?, operation.Decides state))

namespace Machine

variable {start machine : Machine} {scope : Scope} {depth : Nat} {id : TaskId} {level : Level}

/-- The machine after the executing task gave up the processor so many times, without going to sleep. -/
def turned (start : Machine) (scope : Scope) (depth turns : Nat) : Machine :=
  (List.replicate turns (Step.switch false)).foldl (step scope depth) start

theorem turned_succ (start : Machine) (scope : Scope) (depth turns : Nat) :
    start.turned scope depth (turns + 1) = (start.turned scope depth turns).step scope depth (.switch false) := by
  rw [turned, List.replicate_succ', List.foldl_concat]
  rfl

/-- The queue of the current level has been rotated, and no other queue has changed. -/
structure Rotated (before after : Scheduler) (turns : Nat) : Prop where
  level : after.currentLevel = before.currentLevel
  queue : after.ready.queue before.currentLevel = (before.ready.queue before.currentLevel).rotate turns
  others : ∀ other, other ≠ before.currentLevel → after.ready.queue other = before.ready.queue other

theorem Rotated.refl (state : Scheduler) : Rotated state state 0 :=
  ⟨rfl, (List.rotate_zero _).symm, fun _ _ => rfl⟩

theorem Rotated.topmost {before after : Scheduler} {turns : Nat} (rotated : Rotated before after turns)
    (top : before.Topmost) : after.Topmost := by
  intro higher above
  rw [rotated.level] at above
  rw [rotated.others higher (Fin.ne_of_gt above)]
  exact top higher above

theorem Rotated.switch {before after : Scheduler} {turns : Nat} (rotated : Rotated before after turns)
    (sound : after.Sound) (top : before.Topmost) : Rotated before (after.switch false).next (turns + 1) := by
  obtain ⟨outgoing, executing⟩ := sound.executing
  obtain ⟨rest, whole⟩ := List.head?_eq_some_iff.mp executing
  have turned := sound.turned (rotated.topmost top) false fun _ _ => rfl
  refine ⟨turned.level.trans rotated.level, ?_, ?_⟩
  · have queue : (before.ready.queue before.currentLevel).rotate turns = outgoing :: rest := by
      rw [← rotated.queue, ← rotated.level, whole]
    have lined := turned.queue outgoing rest whole
    rw [rotated.level] at lined
    rw [lined, ← List.rotate_rotate, queue, List.rotate_cons_succ, List.rotate_zero]
    rfl
  · intro other distinct
    have distinctToo : other ≠ after.currentLevel := rotated.level ▸ distinct
    rw [turned.others other distinctToo, rotated.others other distinct]

theorem Alone.turned (alone : start.Alone) (top : start.kernel.sched.Topmost) (scope : Scope) (depth turns : Nat) :
    (start.turned scope depth turns).Alone ∧
      Rotated start.kernel.sched (start.turned scope depth turns).kernel.sched turns := by
  induction turns with
  | zero => exact ⟨alone, .refl _⟩
  | succ turns ih =>
    obtain ⟨before, rotated⟩ := ih
    have asks : (Step.switch false).operation? = some (.switch false) := rfl
    have undergoes := step_undergoes before asks scope depth
    rw [turned_succ]
    refine ⟨undergoes.alone before, ?_⟩
    rw [undergoes.sched]
    exact rotated.switch before.sound top

theorem Rotated.current {before after : Scheduler} {turns : Nat} (rotated : Rotated before after turns)
    (sound : before.Sound) : after.current? =
      (before.ready.queue before.currentLevel)[turns % (before.ready.queue before.currentLevel).length]? := by
  have some : 0 < (before.ready.queue before.currentLevel).length := List.length_pos_iff.mpr sound.busy
  rw [current?, rotated.level, rotated.queue, ← List.rotate_mod, List.head?_rotate (Nat.mod_lt _ some)]

/-- How many steps of a script decide who executes next. -/
def decisions (scope : Scope) (depth : Nat) : Machine → Script → Nat
  | _, [] => 0
  | machine, next :: rest =>
    (if next.Decides machine.kernel.sched then 1 else 0) + decisions scope depth (machine.step scope depth next) rest

/-- Every step of a script makes a decision or leaves a task and the executing one alone, and after none
of them anybody is ready above a level. -/
def Interleaves (scope : Scope) (depth : Nat) (id : TaskId) (level : Level) : Machine → Script → Prop
  | _, [] => True
  | machine, next :: rest =>
    (∃ operation ∈ next.operation?, operation.Decides machine.kernel.sched ∨
      operation.Elsewhere machine.kernel.sched id) ∧
    (∀ higher, level < higher → (machine.step scope depth next).kernel.sched.ready.queue higher = []) ∧
    Interleaves scope depth id level (machine.step scope depth next) rest

/-- A task executes after as many decisions as there are tasks before it. -/
theorem Alone.turn_comes (alone : machine.Alone) (top : machine.kernel.sched.Topmost) {ahead : Nat}
    (waits : machine.kernel.sched.Waits id ahead) {script : Script}
    (interleaves : machine.Interleaves scope depth id machine.kernel.sched.currentLevel script)
    (enough : ahead ≤ machine.decisions scope depth script) :
    ∃ earlier later, script = earlier ++ later ∧ machine.decisions scope depth earlier ≤ ahead ∧
      (earlier.foldl (step scope depth) machine).kernel.sched.current? = some id := by
  induction script generalizing machine ahead with
  | nil =>
    have none : ahead = 0 := Nat.le_zero.mp enough
    subst none
    exact ⟨[], [], rfl, Nat.le_refl 0, waits.current⟩
  | cons next rest ih =>
    by_cases executes : machine.kernel.sched.current? = some id
    · exact ⟨[], next :: rest, rfl, Nat.zero_le _, executes⟩
    obtain ⟨⟨operation, asks, kind⟩, topmost, spared⟩ := interleaves
    have undergoes := step_undergoes alone asks scope depth
    have after := undergoes.alone alone
    have sound := alone.sound
    -- what is left to show when the task waits with `left` tasks before it and `left + made` is enough
    have onward : ∀ left made, (operation.outcome machine.kernel.sched).next.Waits id left →
        (operation.outcome machine.kernel.sched).next.currentLevel = machine.kernel.sched.currentLevel →
        (if next.Decides machine.kernel.sched then 1 else 0) = made → left + made = ahead →
        ∃ earlier later, next :: rest = earlier ++ later ∧ machine.decisions scope depth earlier ≤ ahead ∧
          (earlier.foldl (step scope depth) machine).kernel.sched.current? = some id := by
      intro left made nearer level count total
      rw [← undergoes.sched] at nearer level
      rw [← level] at topmost spared
      rw [decisions, count] at enough
      obtain ⟨earlier, later, whole, few, current⟩ := ih after topmost nearer spared (by omega)
      refine ⟨next :: earlier, later, by rw [whole, List.cons_append], ?_, current⟩
      rw [decisions, count]
      omega
    have single : next.Decides machine.kernel.sched ↔ operation.Decides machine.kernel.sched := by
      constructor
      · rintro ⟨other, asked, decides⟩
        rw [Option.mem_def, Option.mem_def.mp asks] at asked
        cases asked
        exact decides
      · exact fun decides => ⟨operation, asks, decides⟩
    rcases kind with decides | elsewhere
    · obtain ⟨left, rfl⟩ : ∃ left, ahead = left + 1 := by
        refine Nat.exists_eq_succ_of_ne_zero fun none => executes ?_
        subst none
        exact waits.current
      obtain ⟨nearer, level⟩ := operation.decides_waits sound top decides waits executes
      exact onward left 1 nearer level (if_pos (single.mpr decides)) rfl
    · obtain ⟨still, level⟩ := elsewhere.waits sound waits
      exact onward ahead 0 still level (if_neg fun decides => elsewhere.undecided (single.mp decides)) rfl

end Machine

/-- Everybody's turn comes once in a round. -/
theorem perm_turns {queue : List TaskId} (first : Nat) :
    ((List.range' first queue.length).map fun turns => queue[turns % queue.length]?).Perm (queue.map some) := by
  have round : ((List.range' first queue.length).map fun turns => queue[turns % queue.length]?) =
      (queue.rotate first).map some := by
    apply List.ext_getElem
    · simp
    · intro place inside insideToo
      have within : place < queue.length := by simpa using inside
      have some : 0 < queue.length := by omega
      simp only [List.getElem_map, List.getElem_range', List.getElem_rotate, Nat.one_mul]
      rw [Nat.add_comm first place, List.getElem?_eq_getElem (Nat.mod_lt _ some)]
  rw [round]
  exact (List.rotate_perm queue first).map some

namespace Program.Reaches

variable {program : Program} {machine start : Machine} {kernel : Kernel}

/-- Turns on a kernel as it is at any moment of any run outside of critical sections, with nothing else
to run, when nobody is ready above the current level. Switches rotate the queue of the level and leave
the others alone, so each task of the level executes once in a round. And whatever else is done to other
tasks, as long as nobody becomes ready above the level, each task executes after as many decisions as
there are tasks before it: a decision is a switch, or the sleep of the executing task unless that is the
idle task. -/
theorem round_robin (reached : program.Reaches machine) (member : kernel ∈ machine.kernels) (free : kernel.locks = [])
    (same : start.kernel = kernel) (unraised : start.agenda.pending = []) (hookless : start.agenda.hooks = [])
    (top : ∀ higher, kernel.sched.currentLevel < higher → kernel.sched.ready.queue higher = [])
    (scope : Scope) (depth : Nat) :
    let queue := kernel.sched.ready.queue kernel.sched.currentLevel
    queue.Nodup ∧
    (∀ turns, (start.turned scope depth turns).kernel.sched.current? = queue[turns % queue.length]? ∧
      (start.turned scope depth turns).kernel.sched.currentLevel = kernel.sched.currentLevel ∧
      (start.turned scope depth turns).kernel.sched.ready.queue kernel.sched.currentLevel = queue.rotate turns ∧
      ∀ other, other ≠ kernel.sched.currentLevel →
        (start.turned scope depth turns).kernel.sched.ready.queue other = kernel.sched.ready.queue other) ∧
    (∀ turns, ((List.range' (turns + 1) queue.length).map fun number =>
      (start.turned scope depth number).kernel.sched.current?).Perm (queue.map some)) ∧
    ∀ id place script, queue[place]? = some id →
      start.Interleaves scope depth id kernel.sched.currentLevel script →
      place ≤ start.decisions scope depth script →
      ∃ earlier later, script = earlier ++ later ∧ start.decisions scope depth earlier ≤ place ∧
        (earlier.foldl (Machine.step scope depth) start).kernel.sched.current? = some id := by
  subst same
  intro queue
  have sound := reached.sound _ member
  have alone : start.Alone := ⟨⟨free, sound⟩, fun _ => unraised, hookless⟩
  have current : ∀ turns, (start.turned scope depth turns).kernel.sched.current? = queue[turns % queue.length]? :=
    fun turns => (alone.turned top scope depth turns).2.current sound
  have single : queue.Nodup := sound.nodup_queue _
  refine ⟨single, fun turns => ?_, fun turns => ?_, fun id place script there interleaves enough => ?_⟩
  · obtain ⟨level, rotated, others⟩ := (alone.turned top scope depth turns).2
    exact ⟨current turns, level, rotated, others⟩
  · simp only [current]
    exact perm_turns (turns + 1)
  · exact alone.turn_comes top (waits_of_getElem? there) interleaves enough

/-- A run that leaves the executing task, two more and a sleeping one at the same level, after a change of
levels that no decision has noticed yet. -/
def shared : Program where
  core := .bare
  filter := .standard
  memoryShort := false
  script := [.create [.prepare false 0x1000 0, .setLevel 1, .wakeup none],
    .create [.prepare false 0x1000 0, .setLevel 1, .wakeup none], .create [.prepare false 0x1000 0, .setLevel 1],
    .setLevel 1 1]

theorem shared_round_robin : shared.Reaches shared.ending ∧
    shared.ending.kernel.sched.ready.queue 1 = [1, 3, 4] ∧ shared.ending.kernel.sched.levelChanged = true ∧
    (shared.ending.turned ⟨1, Machine.exec 1 1⟩ 0 5).kernel.sched.current? = some 4 ∧
    ∃ earlier later, [.wakeup 5 none, .switch true, .setLevel 5 0, .sleep 3] = earlier ++ later ∧
      (earlier.foldl (Machine.step ⟨1, Machine.exec 1 1⟩ 0) shared.ending).kernel.sched.current? = some 4 := by
  have reached : shared.Reaches shared.ending := reaches_ending rfl
  have unraised : shared.ending.agenda.pending = [] := List.isEmpty_iff.mp (by decide +kernel)
  have hookless : shared.ending.agenda.hooks = [] := List.isEmpty_iff.mp (by decide +kernel)
  have level : shared.ending.kernel.sched.currentLevel = 1 := by decide +kernel
  have queue : shared.ending.kernel.sched.ready.queue 1 = [1, 3, 4] := by decide +kernel
  obtain ⟨_, turns, _, waits⟩ := round_robin reached shared.ending.kernel_mem_kernels
    reached.calm.unlocked rfl unraised
    hookless (by decide +kernel) ⟨1, Machine.exec 1 1⟩ 0
  have current := (turns 5).1
  rw [level, queue] at current waits
  -- two calls on task 5, of which the first puts it at the back of the queue, and a decision after each
  have spared : shared.ending.Interleaves ⟨1, Machine.exec 1 1⟩ 0 4 1
      [.wakeup 5 none, .switch true, .setLevel 5 0, .sleep 3] := by
    refine ⟨⟨_, rfl, Or.inr ⟨not_false, ?_⟩⟩, by decide +kernel, ⟨_, rfl, Or.inl trivial⟩,
      by decide +kernel,
      ⟨_, rfl, Or.inr ⟨not_false, ?_⟩⟩, by decide +kernel, ⟨_, rfl, Or.inl (by decide +kernel)⟩,
        by decide +kernel,
      trivial⟩
    · rintro _ ⟨⟩
      exact Or.inr (by decide +kernel)
    · rintro _ ⟨⟩
      exact Or.inr (by decide +kernel)
  obtain ⟨earlier, later, whole, _, executes⟩ := waits 4 2 _ rfl spared (by decide +kernel)
  exact ⟨reached, queue, by decide +kernel, current, earlier, later, whole, executes⟩

/-- A run that leaves the idle task executing, with another task of its level behind it. -/
def lulled : Program where
  core := .bare
  filter := .standard
  memoryShort := false
  script := [.create [.prepare false 0x1000 0, .setLevel 0, .wakeup none], .sleep 1]

/-- The sleep of the executing task decides nothing if that is the idle task: whoever is next waits on. -/
theorem lulled_waits_on : lulled.Reaches lulled.ending ∧ lulled.ending.agenda.pending = [] ∧
    lulled.ending.agenda.hooks = [] ∧ lulled.ending.kernel.sched.currentLevel = 0 ∧
    (∀ higher, 0 < higher → lulled.ending.kernel.sched.ready.queue higher = []) ∧
    lulled.ending.kernel.sched.ready.queue 0 = [2, 3] ∧ lulled.ending.kernel.sched.current? = some 2 ∧
    (lulled.ending.step ⟨1, Machine.exec 1 1⟩ 0 (.sleep 2)).kernel.sched.current? = some 2 ∧
    (lulled.ending.step ⟨1, Machine.exec 1 1⟩ 0 (.sleep 2)).kernel.sched.ready.queue 0 = [2, 3] :=
  ⟨reaches_ending rfl, List.isEmpty_iff.mp (by decide +kernel), List.isEmpty_iff.mp (by decide +kernel),
    by decide +kernel, by decide +kernel, by decide +kernel, by decide +kernel, by decide +kernel, by decide +kernel⟩

end Program.Reaches

end PriorityKernel
