import PriorityKernel.Proofs.PreparedContexts
import PriorityKernel.Proofs.StartContext

namespace PriorityKernel

open Machine Scheduler

/-- A step ended, or a switch was made. -/
def Event.Landmark (event : Event) : Prop := event.Closing ∨ event.Switching

/-- What a task was prepared with, in order. The idle task was prepared when the scheduler started. -/
def preparations (trace : List Entry) (id : TaskId) : List (UInt64 × Int64) :=
  (idlePreparation :: readings Event.deed? trace).filterMap (Deed.preparation? id)

/-- What a task would be resumed with, and the size of its stack, are as its last preparation has them. -/
structure Kernel.Resumes (kernel : Kernel) (trace : List Entry) (id : TaskId) : Prop where
  bare : preparations trace id = [] → kernel.context id = TaskContext.zeroed ∧ (kernel.sched.stack id).bytes = 0
  laid : ∀ {entry argument}, (preparations trace id).getLast? = some (entry, argument) →
    (kernel.context id).Starts id entry argument (kernel.sched.stack id) ∧
      (kernel.sched.stack id).bytes = Config.stackBytes

/-- The gear of every task is as its last preparation laid it out. -/
def Scheduler.Fitted (state : Scheduler) (trace : List Entry) : Prop :=
  ∀ id, Gear.Laid state.memory id (preparations trace id).getLast? (state.gear id)

/-- The gear of every task is as some preparation of it laid it out, or there was none. -/
def Scheduler.Furnished (state : Scheduler) : Prop := ∀ id, ∃ last, Gear.Laid state.memory id last (state.gear id)

/-- Whoever has a stack has it on the block that the allocator has for him. -/
theorem Scheduler.Furnished.housed {state : Scheduler} (furnished : state.Furnished) {id : TaskId} {block : Block}
    (has : (state.stack id).block = some block) : state.memory.block? id = some block := by
  obtain ⟨last, laid⟩ := furnished id
  rw [← gear_stack] at has
  generalize state.gear id = gear at laid has
  cases laid with
  | bare => cases has
  | prepared housed =>
    cases has
    exact housed

theorem Scheduler.gear_context (kernel : Kernel) (id : TaskId) :
    (kernel.sched.gear id).context = kernel.context id := by
  unfold gear Kernel.context
  cases kernel.sched.tasks.get? id <;> rfl

theorem Scheduler.Fitted.resumes {kernel : Kernel} {trace : List Entry} (fitted : kernel.sched.Fitted trace)
    (id : TaskId) : kernel.Resumes trace id := by
  have laid := fitted id
  constructor
  all_goals rw [← gear_context, ← gear_stack]
  · intro none
    rw [none] at laid
    generalize kernel.sched.gear id = gear at laid
    cases laid
    exact ⟨rfl, rfl⟩
  · intro entry argument last
    rw [last] at laid
    exact laid.starts

theorem preparations_skip {entry : Entry} (silent : entry.event.deed? = none) (trace : List Entry) (id : TaskId) :
    preparations (entry :: trace) id = preparations trace id := by
  rw [preparations, readings_skip silent, preparations]

theorem preparations_operate (machine : Machine) (operation : Operation) (id : TaskId) :
    preparations (machine.operate operation).trace id = preparations machine.trace id ++
      (operation.outcome machine.kernel.sched).deeds.filterMap (Deed.preparation? id) := by
  have all : (operation.outcome machine.kernel.sched).deeds.filterMap (fun deed => Event.deed? (.did deed)) =
    (operation.outcome machine.kernel.sched).deeds := List.filterMap_some
  rw [preparations, readings_deeds _ (fun _ => rfl) (fun _ => rfl), all, ← List.cons_append, List.filterMap_append,
    preparations]

theorem fitted_stable : History.Stable Scheduler.Fitted where
  noted := by
    intro event trace kernel plain fitted id
    have silent : event.deed? = none := by
      cases event <;> first | rfl | exact plain.elim
    rw [preparations_skip silent]
    exact fitted id
  operated := by
    intro machine operation sound fitted id
    rw [machine.operate_sched, preparations_operate, List.getLast?_append]
    exact operation.laid sound fitted id

/-- It was so at the end of each step and at each switch. -/
theorem fitted_throughout : History.Stable fun state trace => state.Fitted trace ∧ ∀ entry earlier,
    entry :: earlier <:+ trace → entry.event.Landmark → entry.kernel.sched.Fitted earlier where
  noted := by
    rintro event trace kernel plain ⟨fitted, before⟩
    refine ⟨fitted_stable.noted kernel plain fitted, fun entry earlier suffix shown => ?_⟩
    rcases List.suffix_cons_iff.mp suffix with whole | inner
    · cases whole
      exact fitted
    · exact before entry earlier inner shown
  operated := by
    rintro machine operation sound ⟨fitted, before⟩
    have after := fitted_stable.operated operation sound fitted
    have inside : ∀ entry earlier, entry :: earlier <:+
        (machine.enter (operation.outcome machine.kernel.sched)).trace → entry.event.Landmark →
          entry.kernel.sched.Fitted earlier := by
      intro entry earlier suffix shown
      have others : ∀ entry ∈ ({ machine with kernel.sched := (operation.outcome machine.kernel.sched).next }.hold
          .scheduler).sectionEntries (operation.outcome machine.kernel.sched), ¬entry.event.Landmark := by
        intro entry member
        obtain ⟨_, ⟨_, _, event⟩ | ⟨_, event⟩⟩ := mem_sectionEntries member
        all_goals
          rw [event]
          exact not_or.mpr ⟨not_false, not_false⟩
      exact before entry earlier (suffix_of_added others shown suffix) shown
    refine ⟨after, fun entry earlier suffix shown => ?_⟩
    by_cases goes : ∃ ends, (operation.outcome machine.kernel.sched).reply = .ok (some ends)
    · obtain ⟨ends, reply⟩ := goes
      rw [operate_of_handover reply] at after suffix
      rcases List.suffix_cons_iff.mp suffix with whole | inner
      · cases whole
        intro id
        have laid := after id
        rw [handOver, record, preparations_skip rfl] at laid
        exact laid
      · exact inside entry earlier inner shown
    · rw [operate_of_stayed (not_exists.mp goes)] at suffix
      exact inside entry earlier suffix shown

theorem fitted_initial {memory : Memory} {block : Block} (housed : memory.block? 2 = some block) :
    (initial memory).Fitted [] := by
  intro id
  have once : preparations [] id = if 2 = id then [(idleEntry, 0)] else [] := by
    simp only [preparations, idlePreparation, readings, List.reverse_nil, List.filterMap_nil, List.filterMap_cons,
      Deed.preparation?]
    by_cases same : 2 = id
    · rw [if_pos same, if_pos same]
    · rw [if_neg same, if_neg same]
  rw [once]
  split
  · next same =>
    subst same
    have gear : (initial memory).gear 2 = (idleTask memory).gear := rfl
    rw [gear, Task.gear, idleTask, housed]
    exact .prepared housed
  · next other =>
    have bare : (initial memory).gear id = {} := by
      have row : (initial memory).tasks.get? id = ((none : Option Task).or (if 1 = id then some mainTask else none)).or
          (if 2 = id then some (idleTask memory) else none) := by
        simp only [Scheduler.initial, TaskTable.get?_push]
        rfl
      rw [gear, row, if_neg other]
      split <;> rfl
    rw [bare]
    exact .bare

/-- What is sure when a task is prepared. It is done as asked, or nothing changes; whoever has a stack is
not refused; and nothing of the task changes but its gear. -/
structure Scheduler.Preparation (state : Scheduler) (id : TaskId) (entry : UInt64) (argument : Int64)
    (outcome : Outcome Unit) : Prop where
  done : outcome.reply = .ok () → outcome.deeds = [.prepared id entry argument]
  refused : ∀ fault, outcome.reply = .error fault → outcome.next = state ∧ outcome.deeds = []
  again : (state.stack id).bytes ≠ 0 → outcome.reply = .ok ()
  kept : ∀ task, state.tasks.get? id = some task →
    ∃ stack context, outcome.next.tasks.get? id = some { task with stack, context }

theorem Scheduler.Placed.preparation {state : Scheduler} (placed : state.Placed)
    {id : TaskId} {last : Option (UInt64 × Int64)} (laid : Gear.Laid state.memory id last (state.gear id))
    (memoryShort : Bool) (entry : UInt64) (argument : Int64) :
    state.Preparation id entry argument (state.prepare memoryShort id entry argument) := by
  rcases placed.prepare_cases laid memoryShort entry argument with
    ⟨task, _, rfl, here, _, made⟩ | ⟨absent, made⟩ | ⟨_, bare, _, made⟩
  all_goals rw [made]
  · refine ⟨fun _ => rfl, fun fault failed => ?_, fun _ => rfl, fun found same => ?_⟩
    · cases failed
    · cases here.symm.trans same
      exact ⟨_, _, TaskTable.get?_set_at rfl here⟩
  · have bare : (state.stack id).bytes = 0 := by
      rw [stack, absent]
      rfl
    refine ⟨fun done => ?_, fun _ _ => ⟨rfl, rfl⟩, fun full => absurd bare full, fun _ here => ⟨_, _, here⟩⟩
    cases done
  · refine ⟨fun done => ?_, fun _ _ => ⟨rfl, rfl⟩, fun full => absurd bare full, fun _ here =>
    ⟨_, _, here⟩⟩
    cases done

namespace Program.Reaches

variable {program : Program} {machine : Machine}

/-- At every moment of a run the gear of every task is as some preparation of it, or none, has left it. -/
theorem furnished (reached : program.Reaches machine) : ∀ kernel ∈ machine.kernels, kernel.sched.Furnished := by
  obtain ⟨block, housed⟩ := reached.housed
  refine reached.everywhere (fun id => ⟨_, fitted_initial housed id⟩) fun state operation sound furnished id => ?_
  choose last laid using furnished
  exact ⟨_, operation.laid sound laid id⟩

/-- Wherever the allocator puts stacks: now, at the end of every step and at every switch, a task is resumed with
what its last preparation laid out, or with nothing; no two tasks share a byte of stack at any moment; and at
every moment only a preparation of the task that is not refused changes what it is resumed with. -/
theorem contexts_intact (reached : program.Reaches machine) :
    (∀ id, machine.kernel.Resumes machine.trace id) ∧
    (∀ entry earlier, entry :: earlier <:+ machine.trace → entry.event.Closing ∨ entry.event.Switching →
      ∀ id, entry.kernel.Resumes earlier id) ∧
    (∀ kernel ∈ machine.kernels, ∀ first second one other, first ≠ second →
      (kernel.sched.stack first).block = some one → (kernel.sched.stack second).block = some other →
        one.Apart other) ∧
    ∀ kernel ∈ machine.kernels, ∀ id,
      (∀ operation : Operation, (∀ memoryShort entry argument,
        operation ≠ .prepare memoryShort id entry argument) →
        (operation.outcome kernel.sched).next.gear id = kernel.sched.gear id) ∧
      ∀ memoryShort entry argument, kernel.sched.Preparation id entry argument
        (kernel.sched.prepare memoryShort id entry argument) := by
  obtain ⟨block, housed⟩ := reached.housed
  obtain ⟨now, before⟩ := reached.keeps fitted_throughout ⟨fitted_initial housed, by simp⟩
  refine ⟨now.resumes, fun entry earlier suffix shown => (before entry earlier suffix shown).resumes,
    fun kernel member first second one other distinct atFirst atSecond => ?_, fun kernel member id => ?_⟩
  · have furnished := reached.furnished kernel member
    exact kernel.sched.memory.apart distinct (furnished.housed atFirst) (furnished.housed atSecond)
  · have sound := reached.sound kernel member
    obtain ⟨last, laid⟩ := reached.furnished kernel member id
    exact ⟨fun operation other => operation.gear_of_unprepared sound other, sound.toPlaced.preparation laid⟩

/-- A run that prepares a task with a negative argument after it was refused once, switches to it, prepares it
again while memory is short, and switches away and back. Its stacks are aligned to words and to nothing more. -/
def refitted : Program where
  core := .bare
  filter := .standard
  memoryShort := false
  memory := .row 0x1000_0000_0008 16 (by decide) (by decide)
  script := [.create [.prepare true 0x1000 0], .handle 3 [.prepare false 0x2000 (-7), .wakeup (some 3)], .switch false,
    .handle 3 [.prepare true 0x3000 5], .switch false, .switch false]

theorem refitted_contexts_intact : refitted.Reaches refitted.ending ∧
    (refitted.ending.trace.countP fun entry => entry.event matches .switched _) = 3 ∧
    preparations refitted.ending.trace 3 = [(0x2000, -7), (0x3000, 5)] ∧
    (refitted.ending.kernel.sched.stack 3).block.map (·.start) = some 0x1000_0000_3008 ∧
    (refitted.ending.kernel.context 3).rsp = 0x1000_0000_3FF8 ∧
    (refitted.ending.kernel.context 3).Starts 3 0x3000 5 (refitted.ending.kernel.sched.stack 3) ∧
    (∀ entry earlier, entry :: earlier <:+ refitted.ending.trace → entry.event.Switching →
      entry.kernel.Resumes earlier 3) := by
  have reached : refitted.Reaches refitted.ending := reaches_ending rfl
  have twice : preparations refitted.ending.trace 3 = [(0x2000, -7), (0x3000, 5)] := by decide +kernel
  obtain ⟨now, before, _⟩ := contexts_intact reached
  refine ⟨reached, by decide +kernel, twice, by decide +kernel, by decide +kernel, ?_,
    fun entry earlier suffix switched =>
    before entry earlier suffix (Or.inr switched) 3⟩
  exact ((now 3).laid (congrArg List.getLast? twice)).1

end Program.Reaches

end PriorityKernel
