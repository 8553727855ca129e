import PriorityKernel.Proofs.Machine.Obeys

namespace PriorityKernel

open Machine

variable {α : Type} {law : Law} {allowed : Step → Prop} {scope : Scope} {machine : Machine}

namespace Machine

theorem Calm.free (calm : machine.Calm) (lock : Lock) : lock ∉ machine.kernel.locks := by
  rw [calm.unlocked]
  exact List.not_mem_nil

theorem Steady.write (steady : machine.Steady allowed) (notice : Notice) : (machine.write notice).Steady allowed := by
  unfold Machine.write
  split
  · exact ⟨⟨steady.unlocked, steady.sound⟩, steady.agenda⟩
  · exact steady

theorem Steady.enter (steady : machine.Steady allowed) {outcome : Outcome α} (sound : outcome.next.Sound) :
    (machine.enter outcome).Steady allowed :=
  ⟨⟨steady.unlocked, sound⟩, steady.agenda⟩

theorem enter_look (machine : Machine) {outcome : Outcome α} (same : outcome.next = machine.kernel.sched)
    (notices : outcome.notices = []) (deeds : outcome.deeds = []) : machine.enter outcome = machine := by
  simp only [Machine.enter, Machine.sectionEntries, same, notices, deeds, List.filter_nil, List.reverse_nil,
    List.map_nil, List.nil_append]

theorem operate_of_map (machine : Machine) {operation : Operation} {outcome : Outcome α}
    (made : operation.outcome machine.kernel.sched = outcome.map fun _ => none) :
    machine.operate operation = machine.enter outcome := by
  simp only [Machine.operate, made]
  obtain ⟨reply, next, notices, deeds⟩ := outcome
  cases reply <;> rfl

theorem operate_sched (machine : Machine) (operation : Operation) :
    (machine.operate operation).kernel.sched = (operation.outcome machine.kernel.sched).next := by
  unfold operate
  dsimp only
  split <;> rfl

theorem operate_eq (machine : Machine) (operation : Operation) : machine.operate operation =
    { machine with
      kernel.sched := (operation.outcome machine.kernel.sched).next
      kernel.switches := (machine.operate operation).kernel.switches
      trace := (machine.operate operation).trace } := by
  unfold operate
  dsimp only
  split <;> rfl

theorem operate_off (machine : Machine) (operation : Operation) :
    (machine.mask.operate operation).kernel.interrupts = false := by
  rw [operate_eq]
  rfl

theorem operate_of_handover {operation : Operation} {ends : Handover}
    (reply : (operation.outcome machine.kernel.sched).reply = .ok (some ends)) :
    machine.operate operation = (machine.enter (operation.outcome machine.kernel.sched)).handOver ends := by
  simp only [Machine.operate, reply]

theorem operate_of_stayed {operation : Operation}
    (stayed : ∀ ends, (operation.outcome machine.kernel.sched).reply ≠ .ok (some ends)) :
    machine.operate operation = machine.enter (operation.outcome machine.kernel.sched) := by
  unfold Machine.operate
  dsimp only
  split
  · next reply => exact absurd reply (stayed _)
  · rfl

theorem Steady.operate (steady : machine.Steady allowed) (operation : Operation) :
    (machine.operate operation).Steady allowed := by
  have sound := (operation.effect steady.sound).sound steady.sound
  unfold Machine.operate
  dsimp only
  split
  · exact ⟨⟨steady.unlocked, sound⟩, steady.agenda⟩
  · exact steady.enter sound

end Machine

namespace KernelM

theorem obeysAt_masked_off [closed : law.Closed] (nested : scope.Obeys law allowed) {call : KernelM α}
    (inside : ObeysAt law allowed scope machine.mask (masked call)) :
    ObeysAt law allowed scope machine (masked call) := by
  have same : masked call scope machine.mask = call scope machine.mask := masked_of_off rfl call
  exact obeysAt_masked nested (inside.congr same.symm)

theorem obeys_log [closed : law.Closed] (notice : Notice) : Obeys law allowed (log notice) := by
  intro scope machine nested steady
  by_cases admitted : machine.filter.admits notice.level = true
  · have line : ∀ machine : Machine, machine.filter.admits notice.level = true →
        log notice scope machine = holding .serial (record (.logged notice)) scope machine := by
      intro machine admitted
      rw [log, run_bind_of_ok (run_get scope machine), admitted, if_pos rfl]
    have masked : ObeysAt law allowed scope machine (holding .serial (record (.logged notice))) := by
      have off := steady.mask
      refine obeysAt_masked_off nested (.of_ok ((line machine.mask admitted).symm.trans
        (log_of_off rfl (off.free _) notice)) (closed.wrote notice off.toCalm rfl) (off.write notice))
    obtain ⟨kept, after, fault⟩ := masked
    rw [← line machine admitted] at kept after fault
    exact ⟨kept, after, fault⟩
  · have run : log notice scope machine = (.ok (), machine) := by
      rw [log, run_bind_of_ok (run_get scope machine), if_neg admitted]
      rfl
    exact .of_ok run (closed.refl machine) steady

theorem critical_of_calm (scope : Scope) (calm : machine.Calm) (off : machine.kernel.interrupts = false)
    (body : Kernel → Outcome α) : critical body scope machine =
      ((body (machine.hold .scheduler).kernel).reply, machine.enter (body (machine.hold .scheduler).kernel)) :=
  critical_of_off scope off (calm.free _) (calm.free _) body

theorem log_answer (calm : machine.Calm) (notice : Notice) : (log notice scope machine).1 = .ok () := by
  rw [log, run_bind_of_ok (run_get scope machine)]
  split
  · refine (masked_answer_mask _ scope machine).trans ?_
    show (holding .serial (record (.logged notice)) scope machine.mask).1 = .ok ()
    rw [holding_of_off rfl (calm.mask.free _)]
    rfl
  · rfl

theorem obeys_look [closed : law.Closed] {body : Kernel → Outcome α}
    (look : ∀ kernel : Kernel, kernel.sched.Sound → (body kernel).next = kernel.sched ∧
      (body kernel).notices = [] ∧
      (body kernel).deeds = [] ∧ ∀ fault, (body kernel).reply = .error fault → ¬fault.Excluded) :
    Obeys law allowed (critical body) := by
  intro scope machine nested steady
  have off := steady.mask
  obtain ⟨same, notices, deeds, ordinary⟩ := look (machine.mask.hold .scheduler).kernel off.sound
  have unchanged := machine.mask.enter_look same notices deeds
  refine obeysAt_masked_off nested (.of_run (critical_of_calm scope off.toCalm rfl body) ?_ ?_ ordinary)
  · rw [unchanged]
    exact closed.refl _
  · rw [unchanged]
    exact off

theorem obeys_inspect [closed : law.Closed] (body : Scheduler → α) : Obeys law allowed (inspect body) :=
  obeys_look fun _ _ => ⟨rfl, rfl, rfl, fun _ impossible => by cases impossible⟩

theorem obeys_operation [closed : law.Closed] {body : Kernel → Outcome α} (operation : Kernel → Operation)
    (same : ∀ kernel : Kernel, (operation kernel).outcome kernel.sched = (body kernel).map fun _ => none)
    (granted : ∀ kernel, law.Grants (operation kernel)) : Obeys law allowed (critical body) := by
  intro scope machine nested steady
  have off := steady.mask
  have made := same (machine.mask.hold .scheduler).kernel
  have bears := granted (machine.mask.hold .scheduler).kernel
  generalize operation (machine.mask.hold .scheduler).kernel = chosen at made bears
  have whole := machine.mask.operate_of_map made
  have effect := chosen.effect off.sound
  refine obeysAt_masked_off nested (.of_run (critical_of_calm scope off.toCalm rfl body) ?_ ?_ ?_)
  · rw [← whole]
    exact bears machine.mask off.toCalm rfl
  · rw [← whole]
    exact off.operate chosen
  · intro fault failed
    have failedToo : (chosen.outcome machine.mask.kernel.sched).reply = .error fault := by
      refine (congrArg Outcome.reply made).trans ?_
      simp only [Outcome.map, failed, Except.map]
    exact Fault.ordinary_of_refused (effect.refused failedToo)

theorem run_perform_nil (hookless : machine.agenda.hooks = []) (ends : Handover) :
    perform ends scope machine = (.ok (), machine.handOver ends) := by
  simp only [perform, run_bind, run_modifyKernel, run_record, run_get, Machine.record, hookless]
  rfl

theorem run_perform_cons {script : Script} {rest : List Script} (hooks : machine.agenda.hooks = script :: rest)
    (ends : Handover) :
    perform ends scope machine = nest script scope { machine.handOver ends with agenda.hooks := rest } := by
  simp only [perform, run_bind, run_modifyKernel, run_record, run_get, Machine.record, hooks]
  rfl

theorem perform_obeys [closed : law.Closed] (nested : scope.Obeys law allowed) (ends : Handover)
    (steady : (machine.handOver ends).Steady allowed) : ∃ after,
      perform ends scope machine = (.ok (), after) ∧ law (machine.handOver ends) after ∧ after.Steady allowed := by
  cases hooks : machine.agenda.hooks with
  | nil => exact ⟨_, run_perform_nil hooks ends, closed.refl _, steady⟩
  | cons script rest =>
    have all := steady.agenda.hooks
    rw [show (machine.handOver ends).agenda.hooks = script :: rest from hooks] at all
    have popped : ({ machine.handOver ends with agenda.hooks := rest } : Machine).Steady allowed :=
      ⟨⟨steady.unlocked, steady.sound⟩, fun later member => all later (List.mem_cons_of_mem _ member),
        steady.agenda.pending, steady.agenda.reactions⟩
    have inner := obeysAt_nest nested popped (all script (List.mem_cons_self ..))
    refine ⟨_, run_perform_cons hooks ends, closed.trans (closed.quiet ?_) inner.law, inner.steady⟩
    exact ⟨rfl, rfl, rfl, ⟨rfl, rfl, rfl, rfl, rfl⟩, List.prefix_rfl⟩

theorem obeysAt_switching [closed : law.Closed] (nested : scope.Obeys law allowed) (steady : machine.Steady allowed)
    {decide : Scheduler → Outcome (Option Handover)} (operation : Operation)
    (same : ∀ state, operation.outcome state = decide state)
    (kept : law machine.mask (machine.mask.operate operation)) :
    ObeysAt law allowed scope machine (switching decide) := by
  have off := steady.mask
  have after := off.operate operation
  have effect := operation.effect off.sound
  have decided := critical_of_calm scope off.toCalm rfl fun kernel => decide kernel.sched
  refine obeysAt_masked nested ?_
  generalize made : decide (machine.mask.hold .scheduler).kernel.sched = outcome at decided
  have known : operation.outcome machine.mask.kernel.sched = outcome := (same _).trans made
  rw [known] at effect
  simp only [Machine.operate, known] at kept after
  cases reply : outcome.reply with
  | error fault =>
    rw [reply] at decided kept after
    refine .of_run (run_bind_of_error decided) kept after fun cause same => ?_
    cases same
    exact Fault.ordinary_of_refused (effect.refused reply)
  | ok ends =>
    rw [reply] at decided kept after
    cases ends with
    | none => exact .of_ok (run_bind_of_ok decided) kept after
    | some ends =>
      obtain ⟨last, run, later, steadyLast⟩ := perform_obeys nested ends after
      exact .of_ok ((run_bind_of_ok decided).trans run) (closed.trans kept later) steadyLast

theorem obeys_switching [closed : law.Closed] {decide : Scheduler → Outcome (Option Handover)} (operation : Operation)
    (same : ∀ state, operation.outcome state = decide state) (granted : law.Grants operation) :
    Obeys law allowed (switching decide) := fun _ machine nested steady =>
  obeysAt_switching nested steady operation same (granted machine.mask steady.mask.toCalm rfl)

end KernelM

end PriorityKernel
