import PriorityKernel.Proofs.Machine.History

namespace PriorityKernel

/-- The switch that an event records. -/
def Event.handover? : Event → Option Handover
  | .switched ends => some ends
  | _ => none

/-- Switches that lead from one task to another, each one saving what the one before it loaded. -/
inductive Linked : TaskId → List Handover → TaskId → Prop
  | here {id} : Linked id [] id
  | onward {ends rest last} (distinct : ends.save ≠ ends.load) (later : Linked ends.load rest last) :
      Linked ends.save (ends :: rest) last

theorem Linked.append {first last : TaskId} {earlier : List Handover} {ends : Handover}
    (linked : Linked first earlier last) (saved : ends.save = last) (distinct : ends.save ≠ ends.load) :
    Linked first (earlier ++ [ends]) ends.load := by
  induction linked with
  | here =>
    subst saved
    exact .onward distinct .here
  | onward other _ ih => exact .onward other (ih saved)

namespace Scheduler

variable {state : Scheduler} {id : TaskId}

theorem pushBack_front {ready : ReadyQueues} {current level : Level} {id : TaskId} (busy : ready.queue current ≠ []) :
    ((ready.pushBack level id).queue current).head? = (ready.queue current).head? := by
  simp only [ReadyQueues.pushBack, ReadyQueues.queue_update]
  split
  · next same =>
    subst same
    obtain ⟨front, rest, whole⟩ := List.exists_cons_of_ne_nil busy
    rw [whole]
    rfl
  · rfl

/-- No change of one task changes who executes. -/
theorem Shift.current {next : Scheduler} (shift : state.Shift id next) (sound : state.Sound) :
    next.current? = state.current? := by
  cases shift with
  | stay => rfl
  | created => rfl
  | equipped => rfl
  | relevelled => rfl
  | woken => exact pushBack_front sound.busy
  | carried here running executing mobile level =>
    rw [executing]
    simp [current?, ReadyQueues.pushFront, ReadyQueues.queue_update_self]
  | @migrated task here running waiting mobile level =>
    exact (pushBack_front (sound.erase_busy waiting task.level)).trans (erase_front waiting task.level)
  | @dismissed task here running waiting mobile => exact erase_front waiting task.level

end Scheduler

namespace Operation

variable {state : Scheduler} {operation : Operation}

theorem current_of_stayed (sound : state.Sound) (stayed : ∀ ends,
    (operation.outcome state).reply ≠ .ok (some ends)) :
    (operation.outcome state).next.current? = state.current? := by
  cases operation.effect sound with
  | shifted _ shift => exact shift.current sound
  | taken here _ next =>
    rw [next]
    rfl
  | sent here shift => exact shift.current (sound.repost here _)
  | @decided _ _ outgoing incoming decides executing _ _ chosen reply =>
    by_cases same : outgoing = incoming
    · rw [executing, chosen, same]
    · rw [if_neg same] at reply
      exact absurd reply (stayed _)

theorem current_of_not_decides (sound : state.Sound) (waits : ¬operation.Decides state) :
    (operation.outcome state).next.current? = state.current? :=
  current_of_stayed sound fun _ reply => waits ((operation.effect sound).handover reply).1

end Operation

theorem chain_stable : History.Stable fun state trace => ∃ current, state.current? = some current ∧
    Linked TaskId.eventLoop (readings Event.handover? trace) current := by
  constructor
  · rintro event trace kernel plain ⟨current, executing, linked⟩
    refine ⟨current, executing, ?_⟩
    have silent : event.handover? = none := by
      cases event <;> first | rfl | exact plain.elim
    rw [readings_skip silent]
    exact linked
  · rintro machine operation sound ⟨current, executing, linked⟩
    have lines : ∀ notice, Event.handover? (.logged notice) = none := fun _ => rfl
    have deeds : (operation.outcome machine.kernel.sched).deeds.filterMap
        (fun deed => Event.handover? (.did deed)) = [] := List.filterMap_eq_nil_iff.mpr fun _ _ => rfl
    rw [machine.operate_sched, readings_operate lines, deeds, List.append_nil]
    rcases reply : (operation.outcome machine.kernel.sched).reply with fault | none | ends
    · refine ⟨current, ?_, by simpa using linked⟩
      rw [Operation.current_of_stayed sound (by simp [reply]), executing]
    · refine ⟨current, ?_, by simpa using linked⟩
      rw [Operation.current_of_stayed sound (by simp [reply]), executing]
    · obtain ⟨_, saved, loaded, distinct⟩ := (operation.effect sound).handover reply
      rw [executing] at saved
      exact ⟨ends.load, loaded, linked.append (Option.some.inj saved).symm distinct⟩

namespace Program.Reaches

variable {program : Program} {machine : Machine}

/-- Whenever a step of a run has ended, the switches made so far lead from the first task to the one
that executes; and no operation but a decision picks another one. -/
theorem switch_chain (reached : program.Reaches machine) :
    (∀ entry earlier, entry :: earlier <:+ machine.trace → entry.event.Closing →
      ∃ current, entry.kernel.sched.current? = some current ∧
        Linked TaskId.eventLoop (readings Event.handover? earlier) current) ∧
    ∀ kernel ∈ machine.kernels, ∀ operation : Operation, ¬operation.Decides kernel.sched →
      (operation.outcome kernel.sched).next.current? = kernel.sched.current? :=
  ⟨reached.throughout chain_stable ⟨TaskId.eventLoop, rfl, .here⟩, fun kernel member _ waits =>
    Operation.current_of_not_decides (reached.sound kernel member) waits⟩

/-- A run with a switch inside of a switch, a task that takes the current level along, and one that
is put to sleep by somebody else. -/
def relay : Program where
  core := .bare
  filter := .standard
  memoryShort := false
  script := [.create [.wakeup (some 3)], .create [.wakeup (some 3)], .hook [.setLevel 3 2, .switch false],
    .switch false, .sleep 4, .setLevel 1 1, .switch true]

theorem relay_switch_chain : relay.Reaches relay.ending ∧
    readings Event.handover? relay.ending.trace = [⟨1, 3⟩, ⟨3, 4⟩, ⟨4, 1⟩, ⟨1, 3⟩] ∧
    relay.ending.kernel.sched.current? = some 3 ∧
    ∀ entry earlier, entry :: earlier <:+ relay.ending.trace → entry.event.Closing →
      ∃ current, entry.kernel.sched.current? = some current ∧
        Linked TaskId.eventLoop (readings Event.handover? earlier) current :=
  have reached : relay.Reaches relay.ending := reaches_ending rfl
  ⟨reached, by decide +kernel, by decide +kernel, (switch_chain reached).1⟩

end Program.Reaches

end PriorityKernel
