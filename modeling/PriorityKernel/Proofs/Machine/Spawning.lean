import PriorityKernel.Proofs.Machine.Answers

namespace PriorityKernel.KernelM

open Machine

variable {α β : Type} {scope : Scope} {machine : Machine} {call : KernelM α} {next : Scheduler}
  {kinds : Event → Prop}

/-- The call answers so and leaves the scheduler so. It adds only such events to the trace, and nothing else of the
machine changes. -/
def Writes (kinds : Event → Prop) (scope : Scope) (machine : Machine) (call : KernelM α) (reply : Except Fault α)
    (next : Scheduler) : Prop :=
  ∃ lines : List Entry, (∀ line ∈ lines, kinds line.event) ∧
    call scope machine = (reply, { machine with kernel.sched := next, trace := lines ++ machine.trace })

theorem writes_pure (value : α) : Writes kinds scope machine (pure value) (.ok value) machine.kernel.sched :=
  ⟨[], List.forall_mem_nil _, rfl⟩

theorem Writes.mono {reply : Except Fault α} {others : Event → Prop}
    (writes : Writes kinds scope machine call reply next) (wider : ∀ event, kinds event → others event) :
    Writes others scope machine call reply next := by
  obtain ⟨lines, written, run⟩ := writes
  exact ⟨lines, fun line member => wider _ (written line member), run⟩

theorem Writes.bind {value : α} {rest : α → KernelM β} {reply : Except Fault β} {last : Scheduler}
    (first : Writes kinds scope machine call (.ok value) next)
    (second : ∀ trace, Writes kinds scope { machine with kernel.sched := next, trace } (rest value) reply last) :
    Writes kinds scope machine (call >>= rest) reply last := by
  obtain ⟨early, wrote, run⟩ := first
  obtain ⟨late, added, ran⟩ := second (early ++ machine.trace)
  refine ⟨late ++ early, fun line member => (List.mem_append.mp member).elim (added line) (wrote line), ?_⟩
  rw [run_bind_of_ok run, ran, List.append_assoc]

theorem Writes.stop {fault : Fault} (first : Writes kinds scope machine call (.error fault) next)
    (rest : α → KernelM β) : Writes kinds scope machine (call >>= rest) (.error fault) next := by
  obtain ⟨lines, written, run⟩ := first
  exact ⟨lines, written, run_bind_of_error run⟩

theorem writes_log (calm : machine.Calm) (unraised : machine.agenda.pending = []) (notice : Notice) :
    Writes (· = .logged notice) scope machine (log notice) (.ok ()) machine.kernel.sched :=
  run_log calm (fun _ => unraised) notice scope

theorem writes_section (calm : machine.Calm) (unraised : machine.agenda.pending = []) (body : Kernel → Outcome α)
    {outcome : Outcome α} (made : body (machine.mask.hold .scheduler).kernel = outcome) :
    Writes (fun event => (∃ deed ∈ outcome.deeds, event = .did deed) ∨ ∃ notice, event = .logged notice) scope
      machine (critical body) outcome.reply outcome.next := by
  subst made
  exact ⟨_, fun line member => (mem_sectionEntries member).2, run_critical calm (fun _ => unraised) body scope⟩

theorem writes_create (calm : machine.Calm) (unraised : machine.agenda.pending = []) :
    Writes (· = .logged (.taskCreated (machine.kernel.sched.lastId + 1))) scope machine create
      (.ok (machine.kernel.sched.lastId + 1))
      (machine.kernel.sched.joined { id := machine.kernel.sched.lastId + 1 }) := by
  have made : Writes (· = .logged (.taskCreated (machine.kernel.sched.lastId + 1))) scope machine
      (critical (·.sched.create)) (.ok (machine.kernel.sched.lastId + 1))
      (machine.kernel.sched.joined { id := machine.kernel.sched.lastId + 1 }) :=
    ⟨[], List.forall_mem_nil _, run_critical calm (fun _ => unraised) (·.sched.create) scope⟩
  refine made.bind fun trace => ?_
  have after : ({ machine with
      kernel.sched := machine.kernel.sched.joined { id := machine.kernel.sched.lastId + 1 }, trace } : Machine).Calm :=
    ⟨calm.unlocked, calm.sound.created⟩
  exact (writes_log after unraised _).bind fun _ => writes_pure _

/-- A task that is spawned without memory for its stack is left asleep. -/
theorem writes_spawn_short (calm : machine.Calm) (unraised : machine.agenda.pending = [])
    (none : machine.kernel.memoryShort = true ∨
      machine.kernel.sched.memory.block? (machine.kernel.sched.lastId + 1) = none)
    (entry : UInt64) (argument : Int64) :
    Writes (· = .logged (.taskCreated (machine.kernel.sched.lastId + 1))) scope machine (spawn entry argument)
      (.error (.refused (.outOfMemory (machine.kernel.sched.lastId + 1) Config.stackBytes)))
      (machine.kernel.sched.joined { id := machine.kernel.sched.lastId + 1 }) := by
  refine (writes_create calm unraised).bind fun trace => Writes.stop ?_ _
  have made : (machine.kernel.sched.joined { id := machine.kernel.sched.lastId + 1 }).Sound := calm.sound.created
  have refused := made.toPlaced.prepare_bare (calm.sound.get?_joined rfl) rfl none entry argument
  have after : ({ machine with
      kernel.sched := machine.kernel.sched.joined { id := machine.kernel.sched.lastId + 1 }, trace } : Machine).Calm :=
    ⟨calm.unlocked, made⟩
  have bounces : Bounces _ scope _ (prepare (machine.kernel.sched.lastId + 1) entry argument) :=
    bounces_critical after refused scope
  exact ⟨[], List.forall_mem_nil _, Prod.ext bounces.answer (bounces.still unraised)⟩

/-- A task that is spawned with memory for its stack is prepared and woken. -/
theorem writes_spawn_housed (calm : machine.Calm) (unraised : machine.agenda.pending = []) {block : Block}
    (offered : machine.kernel.sched.memory.offer machine.kernel.memoryShort (machine.kernel.sched.lastId + 1) =
      some block) (entry : UInt64) (argument : Int64) :
    Writes (fun event => event = .did (.prepared (machine.kernel.sched.lastId + 1) entry argument) ∨
        ∃ notice, event = .logged notice) scope machine (spawn entry argument)
      (.ok (machine.kernel.sched.lastId + 1)) (machine.kernel.sched.spawned block entry argument) := by
  have sound := calm.sound
  refine ((writes_create calm unraised).mono fun _ created => Or.inr ⟨_, created⟩).bind fun trace => ?_
  have after : ({ machine with
      kernel.sched := machine.kernel.sched.joined { id := machine.kernel.sched.lastId + 1 }, trace } : Machine).Calm :=
    ⟨calm.unlocked, sound.created⟩
  have equipped : Writes _ scope _ (prepare (machine.kernel.sched.lastId + 1) entry argument) _ _ :=
    writes_section after unraised
      (fun kernel => kernel.sched.prepare kernel.memoryShort (machine.kernel.sched.lastId + 1) entry argument)
      (sound.prepare_joined offered entry argument)
  refine (equipped.mono fun event => Or.imp_left ?_).bind fun later => ?_
  · rintro ⟨deed, done, rfl⟩
    rw [List.mem_singleton.mp done]
  have ready : ({ machine with
      kernel.sched := machine.kernel.sched.joined (Task.housed (machine.kernel.sched.lastId + 1) block entry argument)
      trace := later } : Machine).Calm :=
    ⟨calm.unlocked, sound.joined block entry argument⟩
  have woken : Writes _ scope _ (wakeup (machine.kernel.sched.lastId + 1) none) _ _ :=
    writes_section ready unraised (fun kernel => kernel.sched.wakeup (machine.kernel.sched.lastId + 1) none)
      (sound.wakeup_joined block entry argument)
  refine (woken.mono fun event => Or.imp_left ?_).bind fun _ => writes_pure _
  rintro ⟨_, done, _⟩
  cases done

/-- Demo tasks that cannot all be started are refused with what was done until then. -/
theorem writes_demo {short : Bool} {fault : Fault} (core : machine.core = .kernel)
    (started : Writes kinds scope (machine.shorten short) startDemo (.error fault) next) :
    Writes kinds scope machine (carryOut (.demo short)) (.error fault) next := by
  obtain ⟨lines, written, run⟩ := started
  have needed : needKernel scope machine = (.ok (), machine) := by
    rw [needKernel, run_bind_of_ok (run_get scope machine), core]
    rfl
  have ended := run_withMemory short startDemo scope machine
  rw [run] at ended
  refine ⟨lines, written, ?_⟩
  rw [carryOut, run_bind_of_ok needed]
  exact run_bind_of_error ended

/-- Demo tasks end with the first one if there is no memory for its stack. -/
theorem writes_demo_short (calm : machine.Calm) (unraised : machine.agenda.pending = [])
    (core : machine.core = .kernel) {short : Bool} (none : (short || machine.kernel.memoryShort) = true ∨
      machine.kernel.sched.memory.block? (machine.kernel.sched.lastId + 1) = none) :
    Writes (· = .logged (.taskCreated (machine.kernel.sched.lastId + 1))) scope machine (carryOut (.demo short))
      (.error (.refused (.outOfMemory (machine.kernel.sched.lastId + 1) Config.stackBytes)))
      (machine.kernel.sched.joined { id := machine.kernel.sched.lastId + 1 }) := by
  have shortened : (machine.shorten short).Calm := ⟨calm.unlocked, calm.sound⟩
  exact writes_demo core
    ((writes_spawn_short shortened unraised none drawingEntry (Int64.ofNat Config.demoLayer)).stop _)

/-- If there is memory for the first stack and none for the second, the first demo task has been started. -/
theorem writes_demo_halved (calm : machine.Calm) (unraised : machine.agenda.pending = [])
    (core : machine.core = .kernel) {short : Bool} (enough : (short || machine.kernel.memoryShort) = false)
    {block : Block} (housed : machine.kernel.sched.memory.block? (machine.kernel.sched.lastId + 1) = some block)
    (none : machine.kernel.sched.memory.block? (machine.kernel.sched.lastId + 2) = none) :
    Writes (fun event =>
        event = .did (.prepared (machine.kernel.sched.lastId + 1) drawingEntry (Int64.ofNat Config.demoLayer)) ∨
          ∃ notice, event = .logged notice) scope machine (carryOut (.demo short))
      (.error (.refused (.outOfMemory (machine.kernel.sched.lastId + 2) Config.stackBytes)))
      ((machine.kernel.sched.spawned block drawingEntry (Int64.ofNat Config.demoLayer)).joined
        { id := machine.kernel.sched.lastId + 2 }) := by
  have shortened : (machine.shorten short).Calm := ⟨calm.unlocked, calm.sound⟩
  have offered : machine.kernel.sched.memory.offer (short || machine.kernel.memoryShort)
      (machine.kernel.sched.lastId + 1) = some block := by
    rw [enough]
    exact housed
  refine writes_demo core ((writes_spawn_housed shortened unraised offered drawingEntry
    (Int64.ofNat Config.demoLayer)).bind fun trace => Writes.stop ?_ _)
  have after : ({ machine.shorten short with
      kernel.sched := machine.kernel.sched.spawned block drawingEntry (Int64.ofNat Config.demoLayer)
      trace } : Machine).Calm :=
    ⟨calm.unlocked, calm.sound.spawned block drawingEntry (Int64.ofNat Config.demoLayer)⟩
  exact (writes_spawn_short after unraised (Or.inr none) counterEntry 0).mono fun _ created => Or.inr ⟨_, created⟩

end PriorityKernel.KernelM
