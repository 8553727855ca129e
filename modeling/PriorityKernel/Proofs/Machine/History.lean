import PriorityKernel.Proofs.Machine.Runs

namespace PriorityKernel

open Machine

/-- A property of the scheduler and of the trace, the latest entry first. -/
abbrev History := Scheduler → List Entry → Prop

/-- Events that come from no operation of the scheduler. -/
def Event.Plain : Event → Prop
  | .did _ | .switched _ => False
  | .finished _ _ reply => ∀ fault, reply = .error fault → ¬fault.Excluded
  | .logged _ | .interrupted | .handled _ | .acknowledged | .answered _ => True

theorem Event.Outside.plain {event : Event} (outside : event.Outside) : event.Plain := by
  cases event <;> first | exact trivial | exact outside.elim | exact outside.ordinary

/-- A step ended. -/
def Event.Closing : Event → Prop
  | .finished .. => True
  | _ => False

instance : DecidablePred Event.Closing
  | .finished .. => .isTrue trivial
  | .logged _ | .switched _ | .interrupted | .handled _ | .acknowledged | .did _ | .answered _ => .isFalse id

/-- The property outlasts every operation and every plain event, while the log is filtered in one way. -/
structure History.StableUnder (filter : LogFilter) (history : History) : Prop where
  noted : ∀ {event trace} (kernel : Kernel), Event.Plain event → history kernel.sched trace →
    history kernel.sched (⟨event, kernel⟩ :: trace)
  operated : ∀ {machine : Machine} (operation), machine.filter = filter → machine.kernel.sched.Sound →
    history machine.kernel.sched machine.trace →
    history (machine.operate operation).kernel.sched (machine.operate operation).trace

/-- The property outlasts every operation and every plain event. -/
structure History.Stable (history : History) : Prop where
  noted : ∀ {event trace} (kernel : Kernel), Event.Plain event → history kernel.sched trace →
    history kernel.sched (⟨event, kernel⟩ :: trace)
  operated : ∀ {machine : Machine} (operation), machine.kernel.sched.Sound →
    history machine.kernel.sched machine.trace →
    history (machine.operate operation).kernel.sched (machine.operate operation).trace

namespace History

variable {history : History} {machine : Machine}

theorem Stable.under (stable : history.Stable) (filter : LogFilter) : history.StableUnder filter :=
  ⟨stable.noted, fun operation _ => stable.operated operation⟩

theorem post_eq (machine : Machine) (timer : Timer) : machine.post timer =
    machine.operate (.send TaskId.eventLoop ⟨TaskId.kernel, .timerTimeout timer.timeout timer.value⟩) :=
  (machine.operate_of_map rfl).symm

/-- What holds from before a message for the event loop is sent to after, holds of all that a tick sends. -/
theorem posts_relate {relation : Machine → Machine → Prop} (refl : ∀ machine, relation machine machine)
    (trans : ∀ {first second third}, relation first second → relation second third → relation first third)
    (sent : ∀ (machine : Machine) (message : Message), machine.kernel.sched.Sound →
      relation machine (machine.operate (.send TaskId.eventLoop message)))
    (sound : machine.kernel.sched.Sound) (expired : List Timer) : relation machine (expired.foldl post machine) := by
  induction expired generalizing machine with
  | nil => exact refl machine
  | cons timer rest ih =>
    have posted := sent machine ⟨TaskId.kernel, .timerTimeout timer.timeout timer.value⟩ sound
    rw [← post_eq] at posted
    exact trans posted (@ih (machine.post timer) (sound.send_event_loop _).2)

variable {filter : LogFilter}

theorem StableUnder.operate (stable : history.StableUnder filter) (operation : Operation)
    (sound : machine.kernel.sched.Sound)
    (holds : machine.filter = filter ∧ history machine.kernel.sched machine.trace) :
    (machine.operate operation).filter = filter ∧
      history (machine.operate operation).kernel.sched (machine.operate operation).trace := by
  refine ⟨?_, stable.operated operation holds.1 sound holds.2⟩
  rw [operate_eq]
  exact holds.1

theorem StableUnder.posts (stable : history.StableUnder filter) (sound : machine.kernel.sched.Sound)
    (expired : List Timer) : machine.filter = filter ∧ history machine.kernel.sched machine.trace →
      (expired.foldl post machine).filter = filter ∧
        history (expired.foldl post machine).kernel.sched (expired.foldl post machine).trace :=
  @posts_relate machine (fun before after => before.filter = filter ∧ history before.kernel.sched before.trace →
    after.filter = filter ∧ history after.kernel.sched after.trace) (fun _ holds => holds)
    (fun first second holds => second (first holds)) (fun _ _ sound holds => stable.operate _ sound holds) sound expired

/-- While the log is filtered in that way, and it goes on to be, the property is kept. -/
theorem StableUnder.total (stable : history.StableUnder filter) : Law.Total fun before after =>
    before.filter = filter ∧ history before.kernel.sched before.trace →
      after.filter = filter ∧ history after.kernel.sched after.trace where
  refl := fun _ holds => holds
  trans := fun first second holds => second (first holds)
  quiet := fun quiet holds => by rw [quiet.filter, quiet.kernel.sched, quiet.trace]; exact holds
  masked := fun _ inner => inner
  arrived := fun _ _ _ inner holds =>
    inner ⟨holds.1, stable.noted _ (show Event.interrupted.Plain from trivial) holds.2⟩
  wrote := by
    intro machine notice _ _ holds
    unfold Machine.write
    split
    · exact ⟨holds.1,
        stable.noted (machine.lineEntry notice).kernel (show (Event.logged notice).Plain from trivial) holds.2⟩
    · exact holds
  noted := fun _ outside holds => ⟨holds.1, stable.noted _ outside.plain holds.2⟩
  granted := fun operation _ calm _ holds => stable.operate operation calm.sound holds
  added := fun _ _ holds => holds
  ticked := by
    intro machine calm _ holds
    exact @StableUnder.posts history machine.advance filter stable calm.sound machine.kernel.timers.tick.expired holds
  flagged := fun _ _ holds => holds

end History

/-! ### What an operation records -/

/-- An entry that an operation adds to the trace: it shows the state that the operation leaves, and
it is a deed, a log line, or the switch that was decided on. -/
def Operation.Records (operation : Operation) (state : Scheduler) (entry : Entry) : Prop :=
  entry.kernel.sched = (operation.outcome state).next ∧
    ((∃ deed ∈ (operation.outcome state).deeds, entry.event = .did deed) ∨
      (∃ notice, entry.event = .logged notice) ∨
      ∃ ends, (operation.outcome state).reply = .ok (some ends) ∧ entry.event = .switched ends)

namespace Machine

variable {machine : Machine} {α : Type}

theorem mem_sectionEntries {outcome : Outcome α} {entry : Entry} (member : entry ∈ machine.sectionEntries outcome) :
    entry.kernel.sched = machine.kernel.sched ∧
      ((∃ deed ∈ outcome.deeds, entry.event = .did deed) ∨ ∃ notice, entry.event = .logged notice) := by
  rcases List.mem_append.mp member with did | logged
  · obtain ⟨deed, done, rfl⟩ := List.mem_map.mp did
    exact ⟨rfl, Or.inl ⟨deed, List.mem_reverse.mp done, rfl⟩⟩
  · obtain ⟨notice, _, rfl⟩ := List.mem_map.mp logged
    exact ⟨rfl, Or.inr ⟨notice, rfl⟩⟩

theorem operate_trace (machine : Machine) (operation : Operation) :
    ∃ added, (machine.operate operation).trace = added ++ machine.trace ∧
      ∀ entry ∈ added, operation.Records machine.kernel.sched entry := by
  have inside : ∀ entry ∈ ({ machine with kernel.sched := (operation.outcome machine.kernel.sched).next }.hold
      .scheduler).sectionEntries (operation.outcome machine.kernel.sched),
      operation.Records machine.kernel.sched entry := by
    intro entry member
    obtain ⟨state, did | logged⟩ := mem_sectionEntries member
    · exact ⟨state, Or.inl did⟩
    · exact ⟨state, Or.inr (Or.inl logged)⟩
  unfold operate
  dsimp only
  split
  · next ends reply =>
    exact ⟨_ :: _, rfl, List.forall_mem_cons.mpr ⟨⟨rfl, Or.inr (Or.inr ⟨ends, reply, rfl⟩)⟩, inside⟩⟩
  · exact ⟨_, rfl, inside⟩

theorem operate_unfinished (machine : Machine) (operation : Operation) :
    ∃ added, (machine.operate operation).trace = added ++ machine.trace ∧
      ∀ entry ∈ added, ¬entry.event.Closing := by
  obtain ⟨added, trace, fresh⟩ := machine.operate_trace operation
  refine ⟨added, trace, fun entry member => ?_⟩
  obtain ⟨_, ⟨_, _, event⟩ | ⟨_, event⟩ | ⟨_, _, event⟩⟩ := fresh entry member
  all_goals
    rw [event]
    exact id

end Machine

/-- What was recorded stays on record. -/
theorem History.grows (filter : LogFilter) (trace : List Entry) :
    History.StableUnder filter fun _ later => trace <:+ later where
  noted := fun _ _ grown => grown.trans (List.suffix_cons _ _)
  operated := by
    intro machine operation _ _ grown
    obtain ⟨added, recorded, _⟩ := machine.operate_unfinished operation
    rw [recorded]
    exact grown.trans (List.suffix_append _ _)

theorem Machine.exec_grows {machine : Machine} (steady : machine.Steady fun _ => True) (credit depth : Nat)
    (script : Script) : machine.trace <:+ (exec credit depth script machine).trace := by
  have bears := (History.grows machine.filter machine.trace).total.bears fun _ => True
  have kept := (@exec_obeys _ _ machine bears credit depth script (scriptWithin_all script) steady).1
  exact (kept ⟨rfl, List.suffix_rfl⟩).2

/-- A property of entries is stable if plain events have it, and whatever an operation records, while the
scheduler is as every operation keeps it. -/
theorem History.stable_entries {good : Scheduler → Prop} {fine : Entry → Prop}
    (kept : ∀ state (operation : Operation), state.Sound → good state → good (operation.outcome state).next)
    (noted : ∀ event (kernel : Kernel), Event.Plain event → good kernel.sched → fine ⟨event, kernel⟩)
    (recorded : ∀ state (operation : Operation) entry, state.Sound → good state →
      operation.Records state entry →
      fine entry) : History.Stable fun state trace => good state ∧ ∀ entry ∈ trace, fine entry := by
  constructor
  · rintro event trace kernel plain ⟨holds, before⟩
    exact ⟨holds, List.forall_mem_cons.mpr ⟨noted event kernel plain holds, before⟩⟩
  · rintro machine operation sound ⟨holds, before⟩
    obtain ⟨added, trace, fresh⟩ := machine.operate_trace operation
    rw [machine.operate_sched, trace]
    exact ⟨kept _ operation sound holds, List.forall_mem_append.mpr
      ⟨fun entry member => recorded _ operation entry sound holds (fresh entry member), before⟩⟩

/-! ### Reading a trace -/

section Readings

variable {β : Type}

/-- What the entries of a trace say, in the order in which they were made. -/
def readings (read : Event → Option β) (trace : List Entry) : List β :=
  trace.reverse.filterMap fun entry => read entry.event

theorem readings_cons (read : Event → Option β) (entry : Entry) (trace : List Entry) :
    readings read (entry :: trace) = readings read trace ++ (read entry.event).toList := by
  simp only [readings, List.reverse_cons, List.filterMap_append]
  cases said : read entry.event <;> simp [said]

theorem readings_skip {read : Event → Option β} {entry : Entry} (silent : read entry.event = none)
    (trace : List Entry) : readings read (entry :: trace) = readings read trace := by
  rw [readings_cons, silent, Option.toList_none, List.append_nil]

theorem readings_append (read : Event → Option β) (added trace : List Entry) :
    readings read (added ++ trace) = readings read trace ++ readings read added := by
  simp only [readings, List.reverse_append, List.filterMap_append]

theorem mem_readings {read : Event → Option β} {trace : List Entry} {item : β} :
    item ∈ readings read trace ↔ ∃ entry ∈ trace, read entry.event = some item := by
  simp only [readings, List.mem_filterMap, List.mem_reverse]

theorem readings_enter {read : Event → Option β} (silent : ∀ notice, read (.logged notice) = none) {α : Type}
    (machine : Machine) (outcome : Outcome α) : readings read (machine.enter outcome).trace =
      readings read machine.trace ++ outcome.deeds.filterMap fun deed => read (.did deed) := by
  have lines : ∀ notices : List Notice, notices.filterMap (fun notice => read (.logged notice)) = [] := fun notices =>
    List.filterMap_eq_nil_iff.mpr fun notice _ => silent notice
  rw [Machine.enter, readings_append]
  simp only [readings, Machine.sectionEntries, List.reverse_append, List.map_reverse, List.reverse_reverse,
    List.filterMap_append, List.filterMap_map, Function.comp_def, Machine.lineEntry, lines, List.nil_append]

/-- An operation says what its deeds say, and then the switch that it decided on. -/
theorem readings_operate {read : Event → Option β} (silent : ∀ notice, read (.logged notice) = none)
    (machine : Machine) (operation : Operation) :
    readings read (machine.operate operation).trace = readings read machine.trace ++
      ((operation.outcome machine.kernel.sched).deeds.filterMap fun deed => read (.did deed)) ++
      match (operation.outcome machine.kernel.sched).reply with
      | .ok (some ends) => (read (.switched ends)).toList
      | _ => [] := by
  have entered := readings_enter silent machine (operation.outcome machine.kernel.sched)
  simp only [Machine.operate]
  rcases reply : (operation.outcome machine.kernel.sched).reply with fault | none | ends
  · rw [List.append_nil]
    exact entered
  · rw [List.append_nil]
    exact entered
  · show readings read (⟨.switched ends, _⟩ :: (machine.enter (operation.outcome machine.kernel.sched)).trace) = _
    rw [readings_cons, entered]

theorem readings_deeds (read : Event → Option β) (silent : ∀ notice, read (.logged notice) = none)
    (still : ∀ ends, read (.switched ends) = none) (machine : Machine) (operation : Operation) :
    readings read (machine.operate operation).trace = readings read machine.trace ++
      (operation.outcome machine.kernel.sched).deeds.filterMap fun deed => read (.did deed) := by
  rw [readings_operate silent]
  split
  · rw [still, Option.toList_none, List.append_nil]
  · rw [List.append_nil]

end Readings

/-! ### Whole runs -/

theorem suffix_of_added {kind : Event → Prop} {added trace earlier : List Entry} {entry : Entry}
    (others : ∀ entry ∈ added, ¬kind entry.event) (same : kind entry.event)
    (suffix : entry :: earlier <:+ added ++ trace) : entry :: earlier <:+ trace := by
  induction added with
  | nil => exact suffix
  | cons first rest ih =>
    rcases List.suffix_cons_iff.mp suffix with whole | inner
    · cases whole
      exact absurd same (others entry (List.mem_cons_self ..))
    · exact ih (fun entry member => others entry (List.mem_cons_of_mem _ member)) inner

namespace Program.Reaches

variable {program : Program} {machine : Machine}

theorem keeps_under {history : History} (stable : history.StableUnder program.filter)
    (start : history (Scheduler.initial program.memory) []) (reached : program.Reaches machine) :
    history machine.kernel.sched machine.trace :=
  ((reached.obeys stable.total).1 ⟨rfl, start⟩).2

theorem keeps {history : History} (stable : history.Stable) (start : history (Scheduler.initial program.memory) [])
    (reached : program.Reaches machine) : history machine.kernel.sched machine.trace :=
  reached.keeps_under (stable.under _) start

theorem calm (reached : program.Reaches machine) : machine.Calm := (reached.obeys total_true).2.toCalm

/-- A stable property holds whenever a step of the run has ended, with what happened until then. -/
theorem throughout {history : History} (stable : history.Stable)
    (start : history (Scheduler.initial program.memory) []) (reached : program.Reaches machine) :
    ∀ entry earlier, entry :: earlier <:+ machine.trace →
      entry.event.Closing → history entry.kernel.sched earlier := by
  have both : History.Stable fun state trace => history state trace ∧
      ∀ entry earlier, entry :: earlier <:+ trace →
      entry.event.Closing → history entry.kernel.sched earlier := by
    constructor
    · rintro event trace kernel plain ⟨holds, before⟩
      refine ⟨stable.noted kernel plain holds, fun entry earlier suffix ended => ?_⟩
      rcases List.suffix_cons_iff.mp suffix with whole | inner
      · cases whole
        exact holds
      · exact before entry earlier inner ended
    · rintro machine operation sound ⟨holds, before⟩
      refine ⟨stable.operated operation sound holds, fun entry earlier suffix ended => ?_⟩
      obtain ⟨added, trace, unfinished⟩ := machine.operate_unfinished operation
      rw [trace] at suffix
      exact before entry earlier (suffix_of_added unfinished ended suffix) ended
  exact (reached.keeps both ⟨start, by simp⟩).2

/-- What every operation keeps is true of the scheduler at every moment of the run. -/
theorem everywhere {good : Scheduler → Prop} (start : good (Scheduler.initial program.memory))
    (kept : ∀ state (operation : Operation), state.Sound → good state → good (operation.outcome state).next)
    (reached : program.Reaches machine) : ∀ kernel ∈ machine.kernels, good kernel.sched := by
  have stable : History.Stable fun state trace => good state ∧ ∀ entry ∈ trace, good entry.kernel.sched :=
    History.stable_entries kept (fun _ _ _ holds => holds) fun _ operation _ sound holds fresh =>
      fresh.1 ▸ kept _ operation sound holds
  obtain ⟨now, before⟩ := reached.keeps stable ⟨start, by simp⟩
  exact List.forall_mem_cons.mpr ⟨now, List.forall_mem_map.mpr before⟩

theorem sound (reached : program.Reaches machine) : ∀ kernel ∈ machine.kernels, kernel.sched.Sound :=
  reached.everywhere (Scheduler.initial_sound _) fun _ operation sound _ => (operation.effect sound).sound sound

theorem faultless (reached : program.Reaches machine) : ∀ entry ∈ machine.trace, ∀ depth step fault,
    entry.event = .finished depth step (.error fault) → ¬fault.Excluded := by
  have stable : History.Stable fun _ trace => True ∧ ∀ entry ∈ trace, ∀ depth step fault,
      entry.event = .finished depth step (.error fault) → ¬fault.Excluded := by
    refine History.stable_entries (fun _ _ _ _ => trivial) ?_ ?_
    · rintro event kernel plain _ depth step fault rfl
      exact plain fault rfl
    · rintro state operation entry _ _ ⟨_, recorded⟩ depth step fault ended
      obtain ⟨_, _, event⟩ | ⟨_, event⟩ | ⟨_, _, event⟩ := recorded
      all_goals
        rw [ended] at event
        cases event
  exact (reached.keeps stable ⟨trivial, by simp⟩).2

end Program.Reaches

end PriorityKernel
