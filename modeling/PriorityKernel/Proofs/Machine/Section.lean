import PriorityKernel.Machine.Masking

namespace PriorityKernel

variable {α β : Type}

namespace KernelM

theorem run_bind (call : KernelM α) (next : α → KernelM β) (scope : Scope) (machine : Machine) :
    (call >>= next) scope machine =
      match call scope machine with
      | (.ok value, after) => next value scope after
      | (.error fault, after) => (.error fault, after) := by
  simp only [bind, ReaderT.bind, ExceptT.bind, ExceptT.mk, StateT.bind]
  rcases call scope machine with ⟨_ | _, _⟩ <;> rfl

theorem run_bind_of_ok {call : KernelM α} {next : α → KernelM β} {scope : Scope} {machine after : Machine}
    {value : α} (run : call scope machine = (.ok value, after)) :
    (call >>= next) scope machine = next value scope after := by
  rw [run_bind, run]

theorem run_bind_of_error {call : KernelM α} {next : α → KernelM β} {scope : Scope} {machine after : Machine}
    {fault : Fault} (run : call scope machine = (.error fault, after)) :
    (call >>= next) scope machine = (.error fault, after) := by
  rw [run_bind, run]

variable (scope : Scope) (machine : Machine)

theorem run_pure (value : α) : (pure value : KernelM α) scope machine = (.ok value, machine) := rfl

theorem run_throw (fault : Fault) : (throw fault : KernelM α) scope machine = (.error fault, machine) := rfl

theorem run_get : (get : KernelM Machine) scope machine = (.ok machine, machine) := rfl

theorem run_kernel : kernel scope machine = (.ok machine.kernel, machine) := rfl

theorem run_modifyKernel (change : Kernel → Kernel) :
    modifyKernel change scope machine = (.ok (), { machine with kernel := change machine.kernel }) := rfl

theorem run_record (event : Event) : record event scope machine = (.ok (), machine.record event) := rfl

theorem run_observe (call : KernelM α) :
    observe call scope machine = (.ok (call scope machine).1, (call scope machine).2) := rfl

theorem run_attempt (call : KernelM α) : attempt call scope machine =
    match call scope machine with
    | (.ok value, after) => (.ok (.ok value), after)
    | (.error (.refused error), after) => (.ok (.error error), after)
    | (.error fault, after) => (.error fault, after) := by
  rw [attempt, run_bind_of_ok (run_observe scope machine call)]
  obtain ⟨result, after⟩ := call scope machine
  rcases result with fault | value
  · cases fault <;> rfl
  · rfl

theorem run_resume (result : Except Fault α) : resume result scope machine = (result, machine) := rfl

end KernelM

namespace Machine

variable (machine : Machine)

/-- The machine with interrupts off. -/
def mask : Machine := { machine with kernel.interrupts := false }

/-- The machine with interrupts on. -/
def unmask : Machine := { machine with kernel.interrupts := true }

/-- The machine with the interrupt flag set one way. -/
def flag (enabled : Bool) : Machine := { machine with kernel.interrupts := enabled }

/-- An entry for a log line, which is written with the serial line locked. -/
def lineEntry (notice : Notice) : Entry :=
  ⟨.logged notice, { machine.kernel with locks := .serial :: machine.kernel.locks }⟩

/-- The machine after a log line, if the filter admits it. -/
def write (notice : Notice) : Machine :=
  if machine.filter.admits notice.level then { machine with trace := machine.lineEntry notice :: machine.trace }
  else machine

/-- The machine with a lock held. -/
def hold (lock : Lock) : Machine := { machine with kernel.locks := lock :: machine.kernel.locks }

/-- The machine after a lock was released. -/
def release (lock : Lock) : Machine := { machine with kernel.locks := machine.kernel.locks.erase lock }

/-- What a critical section records while the lock is held, the latest first. -/
def sectionEntries (outcome : Outcome α) : List Entry :=
  (outcome.deeds.reverse.map fun deed => ⟨.did deed, machine.kernel⟩) ++
    (outcome.notices.filter fun notice => machine.filter.admits notice.level).reverse.map machine.lineEntry

/-- The machine after a critical section of the scheduler. -/
def enter (outcome : Outcome α) : Machine :=
  let inside := { machine with kernel.sched := outcome.next }
  { inside with trace := (inside.hold .scheduler).sectionEntries outcome ++ machine.trace }

theorem mask_of_off {machine : Machine} (off : machine.kernel.interrupts = false) : machine.mask = machine := by
  obtain ⟨core, filter, ⟨interrupts, _⟩, agenda, started, trace⟩ := machine
  cases off
  rfl

end Machine

namespace KernelM

open Machine

variable {scope : Scope} {machine : Machine}

theorem masked_of_off (off : machine.kernel.interrupts = false) (call : KernelM α) :
    masked call scope machine = call scope machine := by
  have same := mask_of_off off
  simp only [masked, run_bind, run_kernel, run_observe, disable, setInterrupts, run_modifyKernel, off,
    Bool.false_eq_true, if_false]
  show ((call scope machine.mask).1, (call scope machine.mask).2) = _
  rw [same]
  rfl

/-- A section that ends puts the interrupt flag back, and if it did not unwind lets interrupts arrive. -/
theorem unmask_cases (result : Except Fault α) :
    KernelM.unmask result = enable ∨ KernelM.unmask result = setInterrupts true := by
  cases result with
  | ok => exact Or.inl rfl
  | error cause =>
    cases unwinds : cause.unwinds with
    | true => exact Or.inr (if_pos unwinds)
    | false => exact Or.inl (if_neg (ne_true_of_eq_false unwinds))

theorem masked_of_on (on : machine.kernel.interrupts = true) (call : KernelM α) {after : Machine}
    (restored : KernelM.unmask (call scope machine.mask).1 scope (call scope machine.mask).2 = (.ok (), after)) :
    masked call scope machine = ((call scope machine.mask).1, after) := by
  have closing : (KernelM.unmask (call scope machine.mask).1 >>= fun _ => resume (call scope machine.mask).1) scope
      (call scope machine.mask).2 = ((call scope machine.mask).1, after) := run_bind_of_ok restored
  simp only [masked, run_bind_of_ok (run_kernel scope machine), on, if_true]
  exact closing

theorem deliver_ok (rounds : Nat) (scope : Scope) (machine : Machine) :
    ∃ after, deliver rounds scope machine = (.ok (), after) := by
  induction rounds generalizing machine with
  | zero => exact ⟨machine, rfl⟩
  | succ rounds ih =>
    rw [deliver, run_bind_of_ok (run_get scope machine)]
    cases machine.agenda.pending with
    | nil => exact ⟨machine, rfl⟩
    | cons script rest => exact ih _

theorem unmask_ok (result : Except Fault α) (scope : Scope) (machine : Machine) :
    ∃ after, KernelM.unmask result scope machine = (.ok (), after) := by
  rcases unmask_cases result with same | same
  · rw [same]
    exact deliver_ok scope.credit scope _
  · rw [same]
    exact ⟨_, rfl⟩

theorem masked_answer (call : KernelM α) (scope : Scope) (machine : Machine) :
    (masked call scope machine).1 = (call scope machine.mask).1 := by
  cases on : machine.kernel.interrupts with
  | false => rw [masked_of_off on, mask_of_off on]
  | true =>
    obtain ⟨after, restored⟩ := unmask_ok (call scope machine.mask).1 scope (call scope machine.mask).2
    rw [masked_of_on on call restored]

theorem masked_answer_mask (call : KernelM α) (scope : Scope) (machine : Machine) :
    (masked call scope machine).1 = (masked call scope machine.mask).1 := by
  rw [masked_answer, masked_of_off rfl]

theorem holding_of_off {lock : Lock} (off : machine.kernel.interrupts = false) (free : lock ∉ machine.kernel.locks)
    (call : KernelM α) : holding lock call scope machine =
      ((call scope (machine.hold lock)).1, (call scope (machine.hold lock)).2.release lock) := by
  rw [holding, masked_of_off off]
  simp only [run_bind, run_kernel, free, if_false]
  rfl

theorem holding_of_run {lock : Lock} (off : machine.kernel.interrupts = false) (free : lock ∉ machine.kernel.locks)
    {call : KernelM α} {result : Except Fault α} {after : Machine}
    (run : call scope (machine.hold lock) = (result, after)) :
    holding lock call scope machine = (result, after.release lock) := by
  rw [holding_of_off off free, run]

theorem log_of_off (off : machine.kernel.interrupts = false) (free : Lock.serial ∉ machine.kernel.locks)
    (notice : Notice) : log notice scope machine = (.ok (), machine.write notice) := by
  unfold log Machine.write
  rw [run_bind_of_ok (run_get scope machine)]
  split
  · rw [holding_of_off off free, run_record]
    simp only [Machine.release, Machine.record, Machine.hold, List.erase_cons_head]
    rfl
  · rfl

theorem logs_of_off (off : machine.kernel.interrupts = false) (free : Lock.serial ∉ machine.kernel.locks)
    (notices : List Notice) : notices.forM log scope machine = (.ok (), { machine with
      trace := (notices.filter fun notice => machine.filter.admits notice.level).reverse.map machine.lineEntry ++
        machine.trace }) := by
  induction notices generalizing machine with
  | nil => rfl
  | cons notice rest ih =>
    rw [List.forM, run_bind_of_ok (log_of_off off free notice)]
    unfold Machine.write
    split
    · next admitted =>
      refine (@ih { machine with trace := machine.lineEntry notice :: machine.trace } off free).trans ?_
      simp only [List.filter_cons, admitted, if_true, List.reverse_cons, List.map_append, List.append_assoc]
      rfl
    · next dropped =>
      rw [ih off free]
      simp only [List.filter_cons, dropped, Bool.false_eq_true, if_false]

theorem records_deeds (deeds : List Deed) : deeds.forM (fun deed => record (.did deed)) scope machine =
    (.ok (), { machine with
      trace := (deeds.reverse.map fun deed => ⟨.did deed, machine.kernel⟩) ++ machine.trace }) := by
  induction deeds generalizing machine with
  | nil => rfl
  | cons deed rest ih =>
    rw [List.forM, run_bind_of_ok (run_record scope machine _), ih]
    simp only [List.reverse_cons, List.map_append, List.append_assoc]
    rfl

/-- A critical section without interrupts: nothing runs inside of it, and it releases its lock. -/
theorem critical_of_off (scope : Scope) (off : machine.kernel.interrupts = false)
    (unlocked : Lock.scheduler ∉ machine.kernel.locks) (quiet : Lock.serial ∉ machine.kernel.locks)
    (body : Kernel → Outcome α) : critical body scope machine =
      ((body (machine.hold .scheduler).kernel).reply, machine.enter (body (machine.hold .scheduler).kernel)) := by
  generalize made : body (machine.hold .scheduler).kernel = outcome
  have inner : ({ machine.hold .scheduler with kernel.sched := outcome.next } : Machine).kernel.interrupts = false :=
    off
  have line :
      Lock.serial ∉ ({ machine.hold .scheduler with kernel.sched := outcome.next } : Machine).kernel.locks := by
    simpa [Machine.hold] using quiet
  rw [critical, holding_of_off off unlocked]
  simp only [run_bind, run_kernel, made, run_modifyKernel, logs_of_off inner line, records_deeds, run_resume]
  simp only [Machine.release, Machine.enter, Machine.sectionEntries, Machine.hold, List.erase_cons_head,
    List.append_assoc]

end KernelM

end PriorityKernel
