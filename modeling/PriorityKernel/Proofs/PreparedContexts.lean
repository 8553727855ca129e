import PriorityKernel.Proofs.SwitchChain
import PriorityKernel.Proofs.Scheduler.Stacks

namespace PriorityKernel

open Machine

/-- The deed that an event records. -/
def Event.deed? : Event → Option Deed
  | .did deed => some deed
  | _ => none

theorem Event.switched_of_handover? {event : Event} {ends : Handover} (said : event.handover? = some ends) :
    event = .switched ends := by
  cases event <;> cases said
  rfl

/-- The event is a switch. -/
def Event.Switching : Event → Prop
  | .switched _ => True
  | _ => False

/-- The task was prepared, the idle task when the scheduler started, any other one since. -/
def Prepared (trace : List Entry) (id : TaskId) : Prop :=
  ∃ entry argument, Deed.prepared id entry argument ∈ Scheduler.idlePreparation :: readings Event.deed? trace

/-- The log says that the task was woken without a stack. -/
def WokenUnprepared (trace : List Entry) (id : TaskId) : Prop :=
  ∃ entry ∈ trace, entry.event = .logged (.wokenUnprepared id)

theorem Prepared.note {event : Event} {kernel : Kernel} {trace : List Entry} {id : TaskId}
    (silent : event.deed? = none) : Prepared (⟨event, kernel⟩ :: trace) id ↔ Prepared trace id := by
  rw [Prepared, readings_skip silent, Prepared]

theorem WokenUnprepared.of_suffix {earlier trace : List Entry} {id : TaskId} (woken : WokenUnprepared earlier id)
    (suffix : earlier <:+ trace) : WokenUnprepared trace id := by
  obtain ⟨entry, member, logged⟩ := woken
  exact ⟨entry, suffix.subset member, logged⟩

theorem Prepared.enter {α : Type} {machine : Machine} {outcome : Outcome α} {id : TaskId} :
    Prepared (machine.enter outcome).trace id ↔
      Prepared machine.trace id ∨ ∃ entry argument, Deed.prepared id entry argument ∈ outcome.deeds := by
  have all : outcome.deeds.filterMap (fun deed => Event.deed? (.did deed)) = outcome.deeds := List.filterMap_some
  have entered : readings Event.deed? (machine.enter outcome).trace = _ := readings_enter (fun _ => rfl) machine outcome
  rw [all] at entered
  simp only [Prepared, entered, ← List.cons_append, List.mem_append, exists_or]

theorem WokenUnprepared.enter {α : Type} {machine : Machine} {outcome : Outcome α} {id : TaskId}
    (warns : machine.filter.admits .warn = true) (noticed : .wokenUnprepared id ∈ outcome.notices) :
    WokenUnprepared (machine.enter outcome).trace id := by
  have admitted : Notice.wokenUnprepared id ∈
      outcome.notices.filter fun notice => machine.filter.admits notice.level :=
        List.mem_filter.mpr ⟨noticed, warns⟩
  exact ⟨_, List.mem_append_left _ (List.mem_append_right _ (List.mem_map_of_mem (List.mem_reverse.mpr admitted))),
    rfl⟩

/-! ### Stacks and preparations -/

/-- Stacks stay, whoever has one was prepared and conversely, and whoever runs without one was woken
with a warning, if warnings are logged. -/
structure Outfitted (filter : LogFilter) (state : Scheduler) (trace : List Entry) : Prop where
  lasting : ∀ id, (state.stack id).block = none → (state.stack id).words = 0
  prepared : ∀ id, (state.stack id).bytes ≠ 0 ↔ Prepared trace id
  warned : filter.admits .warn = true → ∀ id, state.Awake id → id ≠ TaskId.eventLoop →
    (state.stack id).bytes = 0 →
    WokenUnprepared trace id

namespace Outfitted

variable {filter : LogFilter} {machine : Machine} {trace : List Entry}

theorem note {state : Scheduler} (fits : Outfitted filter state trace) {event : Event} (silent : event.deed? = none)
    (kernel : Kernel) : Outfitted filter state (⟨event, kernel⟩ :: trace) where
  lasting := fits.lasting
  prepared := fun id => (fits.prepared id).trans (Prepared.note silent).symm
  warned := fun warns id awake other bare => (fits.warned warns id awake other bare).of_suffix (List.suffix_cons ..)

theorem spares {α : Type} {outcome : Outcome α} (fits : Outfitted machine.filter machine.kernel.sched machine.trace)
    (spares : outcome.Spares machine.kernel.sched) :
    Outfitted machine.filter outcome.next (machine.enter outcome).trace where
  lasting := fun id => by
    rw [spares.stack]
    exact fits.lasting id
  prepared := fun id => by
    have nobody : ¬∃ entry argument, Deed.prepared id entry argument ∈ outcome.deeds :=
      fun ⟨entry, argument, member⟩ => spares.deeds _ member id entry argument rfl
    rw [spares.stack, fits.prepared, Prepared.enter, or_iff_left nobody]
  warned := by
    intro warns id awake other bare
    rw [spares.stack] at bare
    rcases spares.awake id awake with before | noticed
    · exact (fits.warned warns id before other bare).of_suffix (List.suffix_append ..)
    · exact .enter warns (noticed other bare)

theorem prepares (fits : Outfitted machine.filter machine.kernel.sched machine.trace) {task : Task} {block : Block}
    {context : TaskContext} {entry : UInt64} {argument : Int64} {outcome : Outcome (Option Handover)}
    (here : machine.kernel.sched.tasks.get? task.id = some task)
    (next : outcome.next = machine.kernel.sched.store
      { task with stack := ⟨some block, Config.stackBytes / Config.wordBytes⟩, context })
    (deeds : outcome.deeds = [.prepared task.id entry argument]) :
    Outfitted machine.filter outcome.next (machine.enter outcome).trace := by
  have rows : ∀ id, outcome.next.stack id =
      if id = task.id then ⟨some block, Config.stackBytes / Config.wordBytes⟩
      else machine.kernel.sched.stack id := by
    intro id
    rw [next]
    exact Scheduler.stack_store { task with stack := ⟨some block, _⟩, context } here id
  have full : (⟨some block, Config.stackBytes / Config.wordBytes⟩ : Stack).bytes ≠ 0 :=
    show Config.stackBytes / Config.wordBytes * Config.wordBytes ≠ 0 by decide
  refine ⟨fun id bare => ?_, fun id => ?_, fun warns id awake other bare => ?_⟩
  · rw [rows] at bare ⊢
    split at bare
    · cases bare
    · next distinct =>
      rw [if_neg distinct]
      exact fits.lasting id bare
  · rw [rows, Prepared.enter, deeds]
    split
    · next same => exact iff_of_true full (Or.inr ⟨entry, argument, by rw [same]; exact List.mem_singleton_self _⟩)
    · next distinct =>
      rw [fits.prepared, or_iff_left]
      rintro ⟨_, _, member⟩
      exact distinct (Deed.prepared.inj (List.mem_singleton.mp member)).1
  · rw [rows] at bare
    split at bare
    · exact absurd bare full
    · next distinct =>
      rw [next] at awake
      have before := awake.of_store_other distinct
      exact (fits.warned warns id before other bare).of_suffix (List.suffix_append ..)

theorem enter (fits : Outfitted machine.filter machine.kernel.sched machine.trace) (sound : machine.kernel.sched.Sound)
    (operation : Operation) : Outfitted machine.filter (operation.outcome machine.kernel.sched).next
      (machine.enter (operation.outcome machine.kernel.sched)).trace := by
  by_cases other : operation.Prepares
  · cases operation with
    | prepare memoryShort id entry argument =>
      rcases machine.kernel.sched.tasks.absent_or_here id with absent | ⟨task, rfl, here⟩
      · have refused := Operation.outcome_of_absent sound
          (rfl : (Operation.prepare memoryShort id entry argument).addressee? = some id) absent
        rw [refused]
        exact fits.spares (.refuse _)
      · have lasting := fits.lasting task.id
        rw [Scheduler.stack_of_get? here] at lasting
        rcases Scheduler.prepare_here here lasting memoryShort entry argument with
          spares | ⟨block, context, next, deeds⟩
        · exact fits.spares (spares.map _)
        · exact fits.prepares here next deeds
    | _ => exact other.elim
  · exact fits.spares (Operation.spares sound other)

theorem initial (filter : LogFilter) {memory : Memory} {block : Block} (housed : memory.block? 2 = some block) :
    Outfitted filter (Scheduler.initial memory) [] := by
  have rows := Scheduler.initial_stack memory
  have full : (Scheduler.idleTask memory).stack.bytes ≠ 0 :=
    show Config.stackBytes / Config.wordBytes * Config.wordBytes ≠ 0 by decide
  have first : ∀ id, Prepared [] id ↔ id = 2 := by
    intro id
    simp [Prepared, Scheduler.idlePreparation, readings]
  refine ⟨fun id bare => ?_, fun id => ?_, fun _ id awake other bare => ?_⟩
  · rw [rows] at bare ⊢
    split
    · next same =>
      rw [if_pos same] at bare
      cases bare.symm.trans housed
    · rfl
  · rw [rows, first]
    split
    · next same => exact iff_of_true full same
    · next distinct => exact iff_of_false (fun any => any rfl) distinct
  · obtain ⟨task, here, _⟩ := awake
    have known : id ∈ [1, 2] := TaskTable.mem_ids_iff.mpr ⟨task, here⟩
    have idle : id = 2 := List.mem_singleton.mp ((List.mem_cons.mp known).resolve_left other)
    rw [rows, if_pos idle] at bare
    exact absurd bare full

end Outfitted

/-! ### What a switch loads -/

/-- A context that a switch may load: it was saved before, or prepared before, or it belongs to a task that
never had a stack, and was woken all the same. -/
def Loaded (filter : LogFilter) (state : Scheduler) (earlier : List Entry) (id : TaskId) : Prop :=
  (id = TaskId.eventLoop → ∃ past ∈ earlier, ∃ next, past.event = .switched ⟨id, next⟩) ∧
  (id ≠ TaskId.eventLoop → Prepared earlier id ∨
    ((state.stack id).bytes = 0 ∧ ¬Prepared earlier id ∧
      (filter.admits .warn = true → WokenUnprepared earlier id)))

/-- Switches that have left from where they started begin with one that saved it. -/
theorem Linked.left {first last : TaskId} {switches : List Handover} (linked : Linked first switches last)
    (elsewhere : last ≠ first) : ∃ next, ⟨first, next⟩ ∈ switches := by
  cases linked with
  | here => exact absurd rfl elsewhere
  | @onward ends => exact ⟨ends.load, List.mem_cons_self ..⟩

theorem loaded_of_decided {filter : LogFilter} {machine : Machine} {operation : Operation} {ends : Handover}
    (fits : Outfitted filter (operation.outcome machine.kernel.sched).next
      (machine.enter (operation.outcome machine.kernel.sched)).trace)
    (sound : machine.kernel.sched.Sound)
    (chain : ∃ current, machine.kernel.sched.current? = some current ∧
      Linked TaskId.eventLoop (readings Event.handover? machine.trace) current)
    (reply : (operation.outcome machine.kernel.sched).reply = .ok (some ends)) :
    Loaded filter (operation.outcome machine.kernel.sched).next
      (machine.enter (operation.outcome machine.kernel.sched)).trace ends.load := by
  obtain ⟨_, saved, loaded, distinct⟩ := (operation.effect sound).handover reply
  refine ⟨fun own => ?_, fun other => ?_⟩
  · obtain ⟨current, executing, linked⟩ := chain
    rw [saved] at executing
    cases executing
    obtain ⟨next, member⟩ := linked.left (own ▸ distinct)
    obtain ⟨past, before, said⟩ := mem_readings.mp member
    refine ⟨past, List.mem_append_right _ before, next, ?_⟩
    rw [own, Event.switched_of_handover? said]
  · have after := (operation.effect sound).sound sound
    obtain ⟨task, here, running, _⟩ := after.executing_task loaded
    by_cases bare : ((operation.outcome machine.kernel.sched).next.stack ends.load).bytes = 0
    · have never : ¬Prepared _ ends.load := fun prepared => (fits.prepared _).mpr prepared bare
      exact Or.inr ⟨bare, never, fun warns => fits.warned warns _ ⟨task, here, running⟩ other bare⟩
    · exact Or.inl ((fits.prepared _).mp bare)

/-- Every switch so far loaded such a context, whatever follows. -/
theorem loads_stable (filter : LogFilter) : History.StableUnder filter fun state trace =>
    (Outfitted filter state trace ∧ ∃ current, state.current? = some current ∧
      Linked TaskId.eventLoop (readings Event.handover? trace) current) ∧
    ∀ entry earlier ends, entry :: earlier <:+ trace → entry.event = .switched ends →
      Loaded filter entry.kernel.sched earlier ends.load where
  noted := by
    rintro event trace kernel plain ⟨⟨fits, chain⟩, before⟩
    have silent : event.deed? = none := by
      cases event <;> first | rfl | exact plain.elim
    refine ⟨⟨fits.note silent kernel, chain_stable.noted kernel plain chain⟩,
      fun entry earlier ends suffix switched => ?_⟩
    rcases List.suffix_cons_iff.mp suffix with whole | inner
    · cases whole
      subst switched
      exact plain.elim
    · exact before entry earlier ends inner switched
  operated := by
    rintro machine operation rfl sound ⟨⟨fits, chain⟩, before⟩
    have entered := fits.enter sound operation
    have inside : ∀ entry earlier ends, entry :: earlier <:+
        (machine.enter (operation.outcome machine.kernel.sched)).trace → entry.event = .switched ends →
          Loaded machine.filter entry.kernel.sched earlier ends.load := by
      intro entry earlier ends suffix switched
      have others : ∀ entry ∈ ({ machine with kernel.sched := (operation.outcome machine.kernel.sched).next }.hold
          .scheduler).sectionEntries (operation.outcome machine.kernel.sched), ¬entry.event.Switching := by
        intro entry member
        obtain ⟨_, ⟨_, _, event⟩ | ⟨_, event⟩⟩ := mem_sectionEntries member
        all_goals
          rw [event]
          exact not_false
      have switching : entry.event.Switching := by
        rw [switched]
        exact trivial
      exact before entry earlier ends (suffix_of_added others switching suffix) switched
    have chained := chain_stable.operated operation sound chain
    by_cases goes : ∃ ends, (operation.outcome machine.kernel.sched).reply = .ok (some ends)
    · obtain ⟨ends, reply⟩ := goes
      rw [operate_of_handover reply] at chained ⊢
      refine ⟨⟨entered.note rfl _, chained⟩, fun entry earlier last suffix switched => ?_⟩
      rcases List.suffix_cons_iff.mp suffix with whole | inner
      · cases whole
        cases switched
        exact loaded_of_decided entered sound chain reply
      · exact inside entry earlier last inner switched
    · rw [operate_of_stayed (not_exists.mp goes)] at chained ⊢
      exact ⟨⟨entered, chained⟩, inside⟩

namespace Program.Reaches

variable {program : Program} {machine : Machine}

/-- Whatever a run loads in a switch is task 1, saved by an earlier switch, or a task that was prepared
before, or a task that has no stack and was never prepared; and if warnings are logged, the log has said
that this one was woken. -/
theorem loads_prepared (reached : program.Reaches machine) :
    ∀ entry earlier ends, entry :: earlier <:+ machine.trace → entry.event = .switched ends →
      (ends.load = TaskId.eventLoop → ∃ past ∈ earlier, ∃ next,
        past.event = .switched ⟨ends.load, next⟩) ∧
      (ends.load ≠ TaskId.eventLoop → Prepared earlier ends.load ∨
        ((entry.kernel.sched.stack ends.load).bytes = 0 ∧ ¬Prepared earlier ends.load ∧
          (program.filter.admits .warn = true → WokenUnprepared earlier ends.load))) := by
  obtain ⟨block, housed⟩ := reached.housed
  exact (reached.keeps_under (loads_stable program.filter)
    ⟨⟨.initial program.filter housed, TaskId.eventLoop, rfl, .here⟩, by simp⟩).2

/-- A run that wakes a task which was only created, and sends a message to another one for whose stack
there was no memory. -/
def premature : Program where
  core := .bare
  filter := .standard
  memoryShort := false
  script := [.create [.wakeup (some 3)], .create [.prepare true 0x1000 0], .send 4 ⟨1, .layerFinish⟩, .switch false,
    .sleep 3, .sleep 1]

theorem premature_loads_prepared : premature.Reaches premature.ending ∧
    (premature.ending.trace.countP fun entry => entry.event matches .switched _) = 3 ∧
    ∀ entry earlier ends, entry :: earlier <:+ premature.ending.trace → entry.event = .switched ends →
      ends.load ≠ TaskId.eventLoop → Prepared earlier ends.load ∨ WokenUnprepared earlier ends.load := by
  have reached : premature.Reaches premature.ending := reaches_ending rfl
  refine ⟨reached, by decide +kernel, fun entry earlier ends suffix switched other => ?_⟩
  have warns : premature.filter.admits .warn = true := rfl
  exact ((loads_prepared reached entry earlier ends suffix switched).2 other).imp_right fun bare => bare.2.2 warns

theorem unprepared_of_drop {trace : List Entry} {id : TaskId} (place : Nat) (other : id ≠ 2)
    (switched : ((trace.drop place).head?.bind fun entry => entry.event.handover?) = some ⟨TaskId.eventLoop, id⟩)
    (nobody : ((readings Event.deed? (trace.drop place).tail).any fun deed => deed matches .prepared ..) = false) :
    ∃ entry earlier, entry :: earlier <:+ trace ∧ entry.event = .switched ⟨TaskId.eventLoop, id⟩ ∧
      ¬Prepared earlier id := by
  have suffix := List.drop_suffix place trace
  cases whole : trace.drop place with
  | nil =>
    rw [whole] at switched
    cases switched
  | cons entry earlier =>
    rw [whole] at suffix switched nobody
    refine ⟨entry, earlier, suffix, Event.switched_of_handover? switched, ?_⟩
    rintro ⟨start, argument, prepared⟩
    rcases List.mem_cons.mp prepared with first | later
    · exact other (Deed.prepared.inj first).1
    · exact List.any_eq_false.mp nobody _ later rfl

/-- Neither of the two tasks is prepared before it is loaded. -/
theorem premature_loads_unprepared : premature.Reaches premature.ending ∧ ∀ id ∈ [3, 4],
    ∃ entry earlier, entry :: earlier <:+ premature.ending.trace ∧
      entry.event = .switched ⟨TaskId.eventLoop, id⟩ ∧
      ¬Prepared earlier id := by
  refine ⟨reaches_ending rfl, List.forall_mem_cons.mpr ⟨?_, List.forall_mem_singleton.mpr ?_⟩⟩
  · exact unprepared_of_drop 7 (by decide) (by decide +kernel) (by decide +kernel)
  · exact unprepared_of_drop 1 (by decide) (by decide +kernel) (by decide +kernel)

end Program.Reaches

end PriorityKernel
