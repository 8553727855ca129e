import PriorityKernel.Machine.Report
import PriorityKernel.Proofs.Machine.HeedlessCalls

namespace PriorityKernel

open Machine

namespace Machine

variable {machine : Machine}

theorem step_heedless {scope : Scope} (nested : scope.Heedless) (tranquil : machine.Tranquil) {next : Step}
    (within : next.Within fun step => ¬step.Raises) (depth : Nat) :
    machine.mute.step scope depth next = (machine.step scope depth next).mute ∧
      (machine.step scope depth next).Tranquil := by
  obtain ⟨muted, after⟩ := KernelM.heedless_carryOut within scope machine nested tranquil
  refine ⟨?_, after.retrace _⟩
  rw [step, muted]
  exact (mute_record rfl).symm

theorem steps_heedless {scope : Scope} (nested : scope.Heedless) (depth : Nat) {script : Script}
    (within : ∀ step ∈ script, step.Within fun step => ¬step.Raises) (tranquil : machine.Tranquil) :
    script.foldl (step scope depth) machine.mute = (script.foldl (step scope depth) machine).mute ∧
      (script.foldl (step scope depth) machine).Tranquil := by
  induction script generalizing machine with
  | nil => exact ⟨rfl, tranquil⟩
  | cons next rest ih =>
    obtain ⟨first, after⟩ := step_heedless nested tranquil (within next (List.mem_cons_self ..)) depth
    rw [List.foldl_cons, List.foldl_cons, first]
    exact ih (fun step member => within step (List.mem_cons_of_mem _ member)) after

/-- Scripts inside of scripts, by induction on the credit. -/
theorem exec_heedless (credit depth : Nat) : Scope.Heedless ⟨credit, exec credit depth⟩ := by
  induction credit generalizing depth with
  | zero => exact fun _ _ _ tranquil => ⟨rfl, tranquil⟩
  | succ credit ih =>
    exact fun _ _ within tranquil => steps_heedless (ih (depth + 1)) depth (scriptWithin_iff.mp within) tranquil

end Machine

/-- The report without the log lines. -/
def StepReport.unlogged (report : StepReport) : StepReport :=
  { report with entries := PriorityKernel.unlogged report.entries }

/-- Log lines end no step. -/
theorem StepReport.cut_unlogged (earlier entries : List Entry) :
    (cut earlier entries).map StepReport.unlogged =
      cut (PriorityKernel.unlogged earlier) (PriorityKernel.unlogged entries) := by
  induction entries generalizing earlier with
  | nil => rfl
  | cons entry rest ih =>
    obtain ⟨event, kernel⟩ := entry
    have whole : ∀ entries : List Entry, PriorityKernel.unlogged entries.reverse =
        (PriorityKernel.unlogged entries).reverse := fun entries => List.filter_reverse ..
    cases event with
    | logged notice => exact ih _
    | finished depth step reply =>
      cases depth with
      | zero =>
        show StepReport.unlogged ⟨earlier.reverse, reply, kernel⟩ :: (cut [] rest).map StepReport.unlogged =
          ⟨(PriorityKernel.unlogged earlier).reverse, reply, kernel⟩ :: cut [] (PriorityKernel.unlogged rest)
        rw [ih, StepReport.unlogged, whole]
        rfl
      | succ depth => exact ih _
    | _ => exact ih _

/-- What a run shows besides its log. -/
structure Account where
  /-- What happened while the machine started. -/
  opening : List Entry
  steps : List StepReport
  kernel : Kernel
  agenda : Agenda

def Outline.account (outline : Outline) : Account where
  opening := unlogged outline.opening
  steps := outline.steps.map StepReport.unlogged
  kernel := outline.ended.kernel
  agenda := outline.ended.agenda

/-- The account of a run can be given from its muted machines. -/
theorem Outline.account_eq {outline : Outline} {added : List Entry}
    (grown : added ++ outline.started.trace = outline.ended.trace) : outline.account =
      ⟨(unlogged outline.started.trace).reverse, StepReport.cut [] (unlogged added).reverse, outline.ended.kernel,
        outline.ended.agenda⟩ := by
  have later : outline.ended.trace.reverse.drop outline.started.trace.length = added.reverse := by
    rw [← grown, List.reverse_append, ← List.length_reverse, List.drop_left]
  have steps : outline.steps.map StepReport.unlogged = StepReport.cut [] (unlogged added).reverse := by
    rw [Outline.steps, later, StepReport.cut_unlogged]
    exact congrArg (StepReport.cut []) (List.filter_reverse ..)
  have opening : unlogged outline.opening = (unlogged outline.started.trace).reverse := List.filter_reverse ..
  rw [Outline.account, steps, opening]

theorem Outline.account_of_mute {first second : Outline} (started : first.started.mute = second.started.mute)
    (ended : first.ended.mute = second.ended.mute) (grown : first.started.trace <:+ first.ended.trace)
    (grown' : second.started.trace <:+ second.ended.trace) : first.account = second.account := by
  obtain ⟨_, grown⟩ := grown
  obtain ⟨_, grown'⟩ := grown'
  have opened : unlogged first.started.trace = unlogged second.started.trace := congrArg (·.trace) started
  have whole : unlogged first.ended.trace = unlogged second.ended.trace := congrArg (·.trace) ended
  rw [← grown, ← grown', unlogged_append, unlogged_append, opened] at whole
  have kernel : first.ended.kernel = second.ended.kernel := congrArg (·.kernel) ended
  have agenda : first.ended.agenda = second.ended.agenda := congrArg (·.agenda) ended
  rw [account_eq grown, account_eq grown', opened, List.append_cancel_right whole, kernel, agenda]

namespace Program

variable {program : Program}

theorem fresh_tranquil (program : Program) : program.fresh.Tranquil := ⟨program.fresh_steady _, rfl⟩

theorem greeted (program : Program) : (program.fresh.announce program.greeting).mute = program.fresh.mute ∧
    (program.fresh.announce program.greeting).Tranquil := by
  have idle : Scope.Heedless ⟨0, fun _ machine => machine⟩ := fun _ _ _ tranquil => ⟨rfl, tranquil⟩
  obtain ⟨muted, tranquil⟩ := KernelM.Heedless.forM KernelM.heedless_log program.greeting _ _ idle
    program.fresh_tranquil
  have silent : ∀ (notices : List Notice) (machine : Machine), machine.mute.announce notices = machine.mute := by
    intro notices machine
    induction notices with
    | nil => rfl
    | cons notice rest ih => exact ih
  exact ⟨(congrArg Prod.snd muted).symm.trans (silent program.greeting program.fresh), tranquil⟩

/-- The run of a program that starts. -/
def outline (program : Program) : Outline := ⟨program.fresh.announce program.greeting, program.ending⟩

theorem run_eq (program : Program) : program.run =
    match program.memory.offer program.memoryShort 2 with
    | none => .error (.refused (.outOfMemory 2 Config.stackBytes))
    | some _ => .ok program.outline := by
  rw [Program.run, boot_eq]
  cases program.memory.offer program.memoryShort 2 <;> rfl

theorem ending_heedless (unraised : scriptWithin (fun step => ¬step.Raises) program.script) :
    program.ending.mute = exec program.credit 0 program.script program.fresh.mute := by
  obtain ⟨muted, tranquil⟩ := program.greeted
  obtain ⟨last, _⟩ := exec_heedless program.credit 0 program.script _ unraised tranquil
  rw [muted] at last
  exact last.symm

theorem outline_grows (program : Program) : program.outline.started.trace <:+ program.outline.ended.trace :=
  exec_grows program.greeted.2.toCalm.steady program.credit 0 program.script

/-- Programs that differ in the log filter only have the same account, or fail to start in the same way. A script
that raises an interrupt can tell them apart: a line that is written is one more masked section, and at its end
the interrupt arrives. -/
theorem account_of_filter (program : Program) (unraised : scriptWithin (fun step => ¬step.Raises) program.script)
    (filter : LogFilter) :
    ({ program with filter } : Program).run.map Outline.account = program.run.map Outline.account := by
  have other : scriptWithin (fun step => ¬step.Raises) ({ program with filter } : Program).script := unraised
  have started : ({ program with filter } : Program).outline.started.mute = program.outline.started.mute :=
    (greeted { program with filter }).1.trans program.greeted.1.symm
  have ended : ({ program with filter } : Program).outline.ended.mute = program.outline.ended.mute :=
    (ending_heedless other).trans (ending_heedless unraised).symm
  have grown := outline_grows { program with filter }
  have grown' := program.outline_grows
  rw [run_eq, run_eq]
  dsimp only
  cases program.memory.offer program.memoryShort 2 with
  | none => rfl
  | some block => exact congrArg Except.ok (Outline.account_of_mute started ended grown grown')

/-- A run with scripts for two switches, one for the acknowledgements of a timer interrupt, one for a handler,
and the table of tasks. -/
def chatty : Program where
  core := .kernel
  filter := ⟨some .trace⟩
  memoryShort := false
  script := [.create [.prepare false 0x1000 0, .wakeup (some 3)], .hook [.hook [.current], .switch true, .tick 2],
    .switch false, .react .key [.send 1 ⟨3, .layer ⟨.draw, 0, {}⟩⟩, .sleep 3], .keys [0x14], .poll,
    .timerInterrupt 3 [.deviceInterrupt, .wakeup 3 none], .loop 5 .kernel]

theorem chatty_account : scriptWithin (fun step => ¬step.Raises) chatty.script ∧
    (chatty.ending.trace.length, ({ chatty with filter := ⟨none⟩ } : Program).ending.trace.length) = (68, 52) ∧
    ({ chatty with filter := ⟨none⟩ } : Program).run.map Outline.account = chatty.run.map Outline.account := by
  have unraised : scriptWithin (fun step => ¬step.Raises) chatty.script := by
    simp [chatty, scriptWithin, Step.Within, Step.Raises]
  exact ⟨unraised, by decide +kernel, account_of_filter chatty unraised ⟨none⟩⟩

end Program

end PriorityKernel
