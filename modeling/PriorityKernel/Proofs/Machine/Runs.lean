import PriorityKernel.Proofs.Machine.Steps
import PriorityKernel.Proofs.Scheduler.Start

namespace PriorityKernel

namespace Machine

variable {law : Law} {allowed : Step → Prop} {scope : Scope} {machine : Machine}

/-- The law that asks for nothing, for what is true of every law. -/
instance total_true : Law.Total fun _ _ => True where
  refl := fun _ => trivial
  trans := fun _ _ => trivial
  quiet := fun _ => trivial
  masked := fun _ _ => trivial
  arrived := fun _ _ _ _ => trivial
  wrote := fun _ _ _ => trivial
  noted := fun _ _ => trivial
  granted := fun _ _ _ _ => trivial
  added := fun _ _ => trivial
  ticked := fun _ _ => trivial
  flagged := fun _ _ => trivial

theorem step_obeys [bears : law.Bears allowed] {next : Step} (within : next.Within allowed)
    (nested : scope.Obeys law allowed) (steady : machine.Steady allowed) (depth : Nat) :
    law machine (machine.step scope depth next) ∧ (machine.step scope depth next).Steady allowed := by
  by_cases brings : next.Brings
  · have idle : scope.Obeys (fun _ _ => True) allowed := fun script machine within steady =>
      ⟨trivial, (nested script machine within steady).2⟩
    have free := KernelM.carryOut_whole (Law.Total.carries allowed) (total_true.noted) (total_true.granted _) within
      idle steady
    exact ⟨bears.brought depth within.allowed brings nested steady, free.steady.record _⟩
  · obtain ⟨kept, after, _⟩ := KernelM.carryOut_obeysAt within brings nested steady
    have answers := KernelM.carryOut_answers within brings nested steady
    exact ⟨bears.trans kept (bears.ended depth after.toCalm brings answers), after.record _⟩

theorem steps_obey [bears : law.Bears allowed] (nested : scope.Obeys law allowed) (depth : Nat) {script : Script}
    (within : ∀ step ∈ script, step.Within allowed) (steady : machine.Steady allowed) :
    law machine (script.foldl (step scope depth) machine) ∧
      (script.foldl (step scope depth) machine).Steady allowed := by
  induction script generalizing machine with
  | nil => exact ⟨bears.refl machine, steady⟩
  | cons next rest ih =>
    obtain ⟨first, after⟩ := step_obeys (within next (List.mem_cons_self ..)) nested steady depth
    obtain ⟨later, last⟩ := ih (fun step member => within step (List.mem_cons_of_mem _ member)) after
    exact ⟨bears.trans first later, last⟩

/-- Scripts inside of scripts, by induction on the credit. -/
theorem exec_obeys [bears : law.Bears allowed] (credit depth : Nat) {script : Script}
    (within : scriptWithin allowed script) (steady : machine.Steady allowed) :
    law machine (exec credit depth script machine) ∧ (exec credit depth script machine).Steady allowed := by
  induction credit generalizing depth script machine with
  | zero => exact ⟨bears.refl machine, steady⟩
  | succ credit ih =>
    have nested : Scope.Obeys law allowed ⟨credit, exec credit (depth + 1)⟩ := fun script machine within steady =>
      ih (depth + 1) within steady
    exact steps_obey nested depth (scriptWithin_iff.mp within) steady

theorem obeys_exec (bears : law.Bears allowed) (credit depth : Nat) :
    Scope.Obeys law allowed ⟨credit, exec credit depth⟩ :=
  fun _ _ within steady => exec_obeys credit depth within steady

/-- The kernel now and at every entry of the trace. -/
def kernels (machine : Machine) : List Kernel := machine.kernel :: machine.trace.map (·.kernel)

theorem kernel_mem_kernels (machine : Machine) : machine.kernel ∈ machine.kernels := List.mem_cons_self ..

end Machine

namespace Program

variable {program : Program} {machine : Machine}

/-- The machine before its first log line. With a kernel the recurring scheduling timer is armed. -/
def fresh (program : Program) : Machine :=
  let timers : TimerQueue :=
    match program.core with
    | .bare => TimerQueue.empty
    | .kernel => TimerQueue.empty.add ⟨Config.schedulerPeriod, Config.schedulerTag⟩
  { core := program.core, filter := program.filter, kernel := { sched := Scheduler.initial program.memory, timers } }

/-- The first log lines. -/
def greeting (program : Program) : List Notice :=
  match program.core with
  | .bare => [.contextPrepared 2, .schedulerStarted 1 2]
  | .kernel => [.contextPrepared 2, .schedulerStarted 1 2, .schedulingArmed Config.schedulerPeriod]

/-- A machine starts unless there is no memory for the stack of the idle task. -/
theorem boot_eq (program : Program) : program.boot =
    match program.memory.offer program.memoryShort 2 with
    | none => .error (.refused (.outOfMemory 2 Config.stackBytes))
    | some _ => .ok (program.fresh.announce program.greeting) := by
  obtain ⟨core, filter, memoryShort, script, memory⟩ := program
  cases offered : memory.offer memoryShort 2 with
  | none =>
    simp only [boot, Scheduler.start_refused offered]
    rfl
  | some block =>
    simp only [boot, Scheduler.start_eq offered]
    cases core with
    | bare => rfl
    | kernel => rfl

/-- The program comes to this machine, with enough credit or with too little for some of its scripts. -/
def Reaches (program : Program) (machine : Machine) : Prop :=
  ∃ started credit, program.boot = .ok started ∧ machine = started.exec credit 0 program.script

/-- The program comes to this machine when the steps of some beginning of its script have ended. -/
def Pauses (program : Program) (machine : Machine) : Prop :=
  ∃ ended rest, program.script = ended ++ rest ∧ ({ program with script := ended } : Program).Reaches machine

theorem run_reaches {outline : Outline} (run : program.run = .ok outline) : program.Reaches outline.ended := by
  unfold Program.run at run
  cases booted : program.boot with
  | error => rw [booted] at run; cases run
  | ok started =>
    rw [booted] at run
    cases run
    exact ⟨started, program.credit, booted, rfl⟩

/-- The machine that a program comes to with all the credit that it needs. -/
def ending (program : Program) : Machine :=
  (program.fresh.announce program.greeting).exec program.credit 0 program.script

theorem reaches_ending (housed : (program.memory.offer program.memoryShort 2).isSome = true) :
    program.Reaches program.ending := by
  obtain ⟨block, offered⟩ := Option.isSome_iff_exists.mp housed
  refine ⟨_, program.credit, ?_, rfl⟩
  rw [boot_eq, offered]

/-- Only a machine with a block for the idle task comes to anything. -/
theorem Reaches.housed (reached : program.Reaches machine) : ∃ block, program.memory.block? 2 = some block := by
  obtain ⟨started, credit, booted, rfl⟩ := reached
  rw [boot_eq] at booted
  split at booted
  · cases booted
  · next block offered => exact ⟨block, Memory.block_of_offer offered⟩

theorem fresh_calm (program : Program) : program.fresh.Calm where
  unlocked := rfl
  sound := Scheduler.initial_sound program.memory

theorem fresh_steady (program : Program) (allowed : Step → Prop) : program.fresh.Steady allowed where
  toCalm := program.fresh_calm
  agenda := by constructor <;> simp [fresh]

/-- Whatever a law that bears the steps of a program says of a run, it says from the very start. -/
theorem Reaches.obeys_within {law : Law} {allowed : Step → Prop} (bears : law.Bears allowed)
    (within : scriptWithin allowed program.script) (reached : program.Reaches machine) :
    law program.fresh machine ∧ machine.Steady allowed := by
  obtain ⟨started, credit, booted, rfl⟩ := reached
  rw [boot_eq] at booted
  split at booted
  · cases booted
  · cases booted
    have idle : Scope.Obeys law allowed ⟨0, fun _ machine => machine⟩ := fun _ machine _ steady =>
      ⟨bears.refl machine, steady⟩
    have lines : KernelM.Obeys law allowed (program.greeting.forM KernelM.log) :=
      .forM KernelM.obeys_log program.greeting
    have greeted := lines ⟨0, fun _ machine => machine⟩ program.fresh idle (program.fresh_steady allowed)
    have ran : law (program.fresh.announce program.greeting) _ ∧ _ :=
      Machine.exec_obeys credit 0 within greeted.steady
    exact ⟨bears.trans greeted.law ran.1, ran.2⟩

theorem Reaches.obeys {law : Law} (total : law.Total) (reached : program.Reaches machine) :
    law program.fresh machine ∧ machine.Steady fun _ => True :=
  reached.obeys_within (Law.Total.bears _) (scriptWithin_all program.script)

end Program

end PriorityKernel
