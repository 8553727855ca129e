import PriorityKernel.Proofs.Machine.Polling
import PriorityKernel.Proofs.NoLostWakeup

namespace PriorityKernel

open Machine

variable {scope : Scope} {depth : Nat} {machine : Machine}

namespace KernelM

/-! ### Starting the keyboard -/

theorem run_dropStale (bytes : Nat) (scope : Scope) (machine : Machine) : dropStale bytes scope machine =
    (.ok (min bytes machine.kernel.scanCodes.length),
      { machine with kernel.scanCodes := machine.kernel.scanCodes.drop bytes }) := by
  induction bytes generalizing machine with
  | zero => rw [Nat.zero_min, dropStale]; rfl
  | succ bytes ih =>
    cases waits : machine.kernel.scanCodes with
    | nil =>
      have none : takeScanCode scope machine = (.ok none, machine) := by
        rw [takeScanCode, run_bind_of_ok (run_kernel scope machine), waits]
        rfl
      have same : ({ machine with kernel.scanCodes := [] } : Machine) = machine := by rw [← waits]
      rw [dropStale, run_bind_of_ok none, List.drop_nil, same]
      rfl
    | cons byte rest =>
      have taken : takeScanCode scope machine = (.ok (some byte), { machine with kernel.scanCodes := rest }) := by
        rw [takeScanCode, run_bind_of_ok (run_kernel scope machine), waits]
        rfl
      rw [dropStale, run_bind_of_ok taken]
      dsimp only
      rw [run_bind_of_ok (ih _)]
      simp only [run_pure, List.drop_succ_cons, List.length_cons, Nat.succ_min_succ]

theorem run_forget (calm : machine.Calm) (undisturbed : machine.Undisturbed) (scope : Scope) :
    holding .keyboard (modifyKernel fun kernel => { kernel with keyboard := Keyboard.fresh }) scope machine =
      (.ok (), { machine with kernel.keyboard := Keyboard.fresh }) := by
  have inside : holding .keyboard (modifyKernel fun kernel => { kernel with keyboard := Keyboard.fresh }) scope
      machine.mask = (.ok (), { machine.mask with kernel.keyboard := Keyboard.fresh }) := by
    rw [holding_of_off rfl (calm.mask.free _)]
    simp only [run_modifyKernel, Machine.release, Machine.hold, List.erase_cons_head]
  exact holding_of_undisturbed inside rfl undisturbed

/-- Starting the keyboard forgets what was held, and drops a burst of the bytes that wait. -/
theorem run_keyboardInit (calm : machine.Calm) (undisturbed : machine.Undisturbed) (scope : Scope) : ∃ after,
    keyboardInit scope machine = (.ok (), after) ∧ machine.Continues after ∧
      after.kernel.sched = machine.kernel.sched ∧
      after.kernel.keyboard = Keyboard.fresh ∧
      after.kernel.scanCodes = machine.kernel.scanCodes.drop Config.scanBurst := by
  obtain ⟨first, cleared, continues, sched, keyboard, codes⟩ : ∃ first,
      holding .keyboard (modifyKernel fun kernel => { kernel with keyboard := Keyboard.fresh }) scope machine =
        (.ok (), first) ∧ machine.Continues first ∧ first.kernel.sched = machine.kernel.sched ∧
        first.kernel.keyboard = Keyboard.fresh ∧ first.kernel.scanCodes = machine.kernel.scanCodes :=
    ⟨_, run_forget calm undisturbed scope, ⟨⟨calm.unlocked, calm.sound⟩, rfl, rfl⟩, rfl, rfl, rfl⟩
  generalize masks : ((InterruptController.unmask Config.keyboardLine).runOn first.kernel.lineMasks).2.2 = lineMasks
  have calmUnmasked : ({ first with
      kernel.scanCodes := first.kernel.scanCodes.drop Config.scanBurst
      kernel.lineMasks := lineMasks } : Machine).Calm :=
    ⟨continues.calm.unlocked, continues.calm.sound⟩
  obtain ⟨lines, -, line⟩ := run_log calmUnmasked (continues.undisturbed undisturbed)
    (.keyboardReady (min Config.scanBurst first.kernel.scanCodes.length)) scope
  have ran : keyboardInit scope machine =
      log (.keyboardReady (min Config.scanBurst first.kernel.scanCodes.length)) scope { first with
        kernel.scanCodes := first.kernel.scanCodes.drop Config.scanBurst
        kernel.lineMasks := lineMasks } := by
    rw [keyboardInit, run_bind_of_ok cleared, run_bind_of_ok (run_dropStale _ scope first), ← masks]
    rfl
  refine ⟨_, ran.trans line, ?_, sched, keyboard, ?_⟩
  · exact continues.trans ⟨⟨calmUnmasked.unlocked, calmUnmasked.sound⟩, rfl, rfl⟩
  · rw [← codes]

end KernelM

/-- The bytes that a step leaves in the keyboard controller. -/
def Step.typed : Step → List UInt8
  | .keys bytes => bytes
  | _ => []

/-- A step that types, polls, or asks for one operation of the scheduler. If scripts wait for a switch they
would run in such an operation, but not in a poll. -/
inductive Step.Plain (hooks : List Script) : Step → Prop
  | keys (bytes : List UInt8) : Plain hooks (.keys bytes)
  | poll : Plain hooks .poll
  | asks {next : Step} {operation : Operation} (asked : next.operation? = some operation) (hookless : hooks = []) :
      Plain hooks next

theorem Step.asks_nap {next : Step} {operation : Operation} (asked : next.operation? = some operation)
    (naps : operation.Naps) :
    (∃ id, next = .sleep id ∧ operation = .sleep id) ∨ next = .switch true ∧ operation = .switch true := by
  cases next with
  | sleep id => exact Or.inl ⟨id, rfl, (Option.some.inj asked).symm⟩
  | switch sleeping =>
    cases asked
    cases (show sleeping = true from naps)
    exact Or.inr ⟨rfl, rfl⟩
  | create calls =>
    cases calls with
    | nil => cases asked; exact naps.elim
    | cons => cases asked
  | setLevel | wakeup | send | receive => cases asked; exact naps.elim
  | _ => cases asked

/-- What is plain stays plain, since no step changes the scripts that wait. -/
theorem Machine.Continues.plain {after : Machine} (continues : machine.Continues after) {script : Script}
    (plain : ∀ next ∈ script, next.Plain machine.agenda.hooks) :
    ∀ next ∈ script, next.Plain after.agenda.hooks := by
  rw [continues.agenda]
  exact plain

/-- When the executing task goes to sleep every other task stays awake. -/
theorem Scheduler.Awake.switch_true {state : Scheduler} {id : TaskId} (awake : state.Awake id) (sound : state.Sound)
    (waits : state.current? ≠ some id) : (state.switch true).next.Awake id := by
  obtain ⟨outgoing, _, executing, _, _, made⟩ := sound.switch true
  have distinct : id ≠ outgoing := fun same => waits (same ▸ executing)
  rw [made, Awake, settle_tasks, Scheduler.aside]
  split
  · exact awake.park distinct
  · exact awake

namespace Machine

/-! ### Steps -/

/-- The messages for the event loop that a step adds by polling the keyboard. -/
def posted (scope : Scope) (depth : Nat) (machine : Machine) : Step → List Message
  | .poll => ((machine.step scope depth .poll).kernel.sched.mailbox TaskId.eventLoop).drop
      (machine.kernel.sched.mailbox TaskId.eventLoop).length
  | _ => []

/-- The messages that all polls of a script add, in order. -/
def postedBy (scope : Scope) (depth : Nat) : Machine → Script → List Message
  | _, [] => []
  | machine, next :: rest =>
    machine.posted scope depth next ++ postedBy scope depth (machine.step scope depth next) rest

/-- Whether a step puts the event loop to sleep. -/
def Dozes (machine : Machine) : Step → Prop
  | .sleep id => id = TaskId.eventLoop
  | .switch sleeping => sleeping = true ∧ machine.kernel.sched.current? = some TaskId.eventLoop
  | _ => False

/-- No step of a script puts the event loop to sleep. -/
def Restless (scope : Scope) (depth : Nat) : Machine → Script → Prop
  | _, [] => True
  | machine, next :: rest => ¬machine.Dozes next ∧ Restless scope depth (machine.step scope depth next) rest

/-- Of the bytes that waited and the bytes typed since, some were taken and decoded, and their key pushes
were sent. -/
structure Catches (before after : Machine) (typed taken : List UInt8) (posted : List Message) : Prop where
  continues : before.Continues after
  scanCodes : before.kernel.scanCodes ++ typed = taken ++ after.kernel.scanCodes
  keyboard : after.kernel.keyboard = (before.kernel.keyboard.feedAll taken).2
  posted : posted = (before.kernel.keyboard.feedAll taken).1.map KeyPush.message

theorem Catches.refl (calm : machine.Calm) : machine.Catches machine [] [] [] :=
  ⟨.refl calm, List.append_nil _, rfl, rfl⟩

theorem Catches.trans {first second third : Machine} {typed typedLater taken takenLater : List UInt8}
    {posted postedLater : List Message} (earlier : first.Catches second typed taken posted)
    (later : second.Catches third typedLater takenLater postedLater) :
    first.Catches third (typed ++ typedLater) (taken ++ takenLater) (posted ++ postedLater) where
  continues := earlier.continues.trans later.continues
  scanCodes := by
    rw [← List.append_assoc, earlier.scanCodes, List.append_assoc, later.scanCodes, List.append_assoc]
  keyboard := by rw [later.keyboard, earlier.keyboard, Keyboard.feedAll_append]
  posted := by rw [later.posted, earlier.posted, earlier.keyboard, Keyboard.feedAll_append, List.map_append]

/-- A poll takes a burst of the bytes that wait, or all of them if there are fewer, and says how many are left. -/
theorem step_poll (calm : machine.Calm) (undisturbed : machine.Undisturbed) (scope : Scope) (depth : Nat) :
    machine.Polled (machine.step scope depth .poll) (machine.kernel.scanCodes.take Config.scanBurst) ∧
      (KernelM.carryOut .poll scope machine).1 =
        .ok (.bytesLeft (machine.step scope depth .poll).kernel.scanCodes.length) := by
  obtain ⟨after, run, polled⟩ := KernelM.run_burst calm undisturbed Config.scanBurst scope
  have carried : KernelM.carryOut .poll scope machine = (.ok (.bytesLeft after.kernel.scanCodes.length), after) := by
    rw [KernelM.carryOut, KernelM.poll, KernelM.run_bind_of_ok run]
    rfl
  have stepped : machine.step scope depth .poll =
      after.record (.finished depth .poll (.ok (.bytesLeft after.kernel.scanCodes.length))) := by
    rw [Machine.step, carried]
  have calmAfter := polled.continues.calm
  rw [stepped, carried]
  exact ⟨⟨⟨⟨calmAfter.unlocked, calmAfter.sound⟩, polled.continues.agenda, polled.continues.interrupts⟩,
    polled.scanCodes, polled.keyboard, polled.mailbox, polled.wakes, polled.awake⟩, rfl⟩

theorem posted_poll (calm : machine.Calm) (undisturbed : machine.Undisturbed) (scope : Scope) (depth : Nat) :
    machine.posted scope depth .poll =
      (machine.kernel.keyboard.feedAll (machine.kernel.scanCodes.take Config.scanBurst)).1.map KeyPush.message := by
  rw [posted, (step_poll calm undisturbed scope depth).1.mailbox, List.drop_left]

theorem posted_of_asks {next : Step} {operation : Operation} (asked : next.operation? = some operation)
    (scope : Scope) (depth : Nat) (machine : Machine) : machine.posted scope depth next = [] ∧ next.typed = [] := by
  cases next with
  | poll | keys => cases asked
  | _ => exact ⟨rfl, rfl⟩

theorem step_catches (calm : machine.Calm) (undisturbed : machine.Undisturbed) {next : Step}
    (plain : next.Plain machine.agenda.hooks) (scope : Scope) (depth : Nat) : ∃ taken,
    machine.Catches (machine.step scope depth next) next.typed taken (machine.posted scope depth next) := by
  cases plain with
  | keys bytes => exact ⟨[], ⟨⟨calm.unlocked, calm.sound⟩, rfl, rfl⟩, rfl, rfl, rfl⟩
  | poll =>
    have polled := (step_poll calm undisturbed scope depth).1
    exact ⟨_, polled.continues, (List.append_nil _).trans polled.scanCodes, polled.keyboard,
      posted_poll calm undisturbed scope depth⟩
  | asks asked hookless =>
    have undergoes := step_undergoes ⟨calm, undisturbed, hookless⟩ asked scope depth
    obtain ⟨keyboard, scanCodes⟩ := undergoes.keyboard
    obtain ⟨none, nothing⟩ := posted_of_asks asked scope depth machine
    rw [none, nothing]
    exact ⟨[], undergoes.continues calm, (List.append_nil _).trans scanCodes.symm, keyboard, rfl⟩

theorem steps_catch (calm : machine.Calm) (undisturbed : machine.Undisturbed) {script : Script}
    (plain : ∀ next ∈ script, next.Plain machine.agenda.hooks) (scope : Scope) (depth : Nat) : ∃ taken,
    machine.Catches (script.foldl (step scope depth) machine) (script.flatMap Step.typed) taken
      (machine.postedBy scope depth script) := by
  induction script generalizing machine with
  | nil => exact ⟨[], .refl calm⟩
  | cons next rest ih =>
    obtain ⟨taken, first⟩ := step_catches calm undisturbed (plain next (List.mem_cons_self ..)) scope depth
    have plainLater := first.continues.plain fun later member => plain later (List.mem_cons_of_mem _ member)
    obtain ⟨takenLater, later⟩ := ih first.continues.calm (first.continues.undisturbed undisturbed) plainLater
    exact ⟨taken ++ takenLater, first.trans later⟩

/-! ### Who is awake -/

theorem step_awake (calm : machine.Calm) (undisturbed : machine.Undisturbed) {next : Step}
    (plain : next.Plain machine.agenda.hooks) (awake : machine.kernel.sched.Awake TaskId.eventLoop)
    (kept : ¬machine.Dozes next) (scope : Scope) (depth : Nat) :
    (machine.step scope depth next).kernel.sched.Awake TaskId.eventLoop := by
  cases plain with
  | keys bytes => exact awake
  | poll => exact (step_poll calm undisturbed scope depth).1.awake awake
  | @asks next operation asked hookless =>
    rw [(step_undergoes ⟨calm, undisturbed, hookless⟩ asked scope depth).sched]
    by_cases naps : operation.Naps
    · rcases Step.asks_nap asked naps with ⟨id, rfl, rfl⟩ | ⟨rfl, rfl⟩
      · exact (calm.sound.sleep_own id).1 TaskId.eventLoop awake (Ne.symm kept)
      · exact awake.switch_true calm.sound fun executes => kept ⟨rfl, executes⟩
    · exact Operation.awake calm.sound naps awake

theorem steps_awake (calm : machine.Calm) (undisturbed : machine.Undisturbed) {script : Script}
    (plain : ∀ next ∈ script, next.Plain machine.agenda.hooks) (awake : machine.kernel.sched.Awake TaskId.eventLoop)
    (restless : machine.Restless scope depth script) :
    (script.foldl (step scope depth) machine).kernel.sched.Awake TaskId.eventLoop := by
  induction script generalizing machine with
  | nil => exact awake
  | cons next rest ih =>
    obtain ⟨taken, first⟩ := step_catches calm undisturbed (plain next (List.mem_cons_self ..)) scope depth
    have plainLater := first.continues.plain fun later member => plain later (List.mem_cons_of_mem _ member)
    have awakeLater := step_awake calm undisturbed (plain next (List.mem_cons_self ..)) awake restless.1 scope depth
    exact ih first.continues.calm (first.continues.undisturbed undisturbed) plainLater awakeLater restless.2

theorem awake_since (calm : machine.Calm) (undisturbed : machine.Undisturbed) {before since : Script}
    (plain : ∀ next ∈ before ++ .poll :: since, next.Plain machine.agenda.hooks)
    (sent : (before.foldl (step scope depth) machine).posted scope depth .poll ≠ [])
    (restless : ((before.foldl (step scope depth) machine).step scope depth .poll).Restless scope depth since) :
    ((before ++ .poll :: since).foldl (step scope depth) machine).kernel.sched.Awake TaskId.eventLoop := by
  have plainBefore : ∀ next ∈ before, next.Plain machine.agenda.hooks := fun next member =>
    plain next (List.mem_append_left _ member)
  obtain ⟨_, first⟩ := steps_catch calm undisturbed plainBefore scope depth
  have quiet := first.continues.undisturbed undisturbed
  have burst := (step_poll first.continues.calm quiet scope depth).1
  rw [posted_poll first.continues.calm quiet scope depth] at sent
  have pushed := fun none => sent (List.map_eq_nil_iff.mpr none)
  have plainSince := (first.continues.trans burst.continues).plain fun next member =>
    plain next (List.mem_append_right _ (List.mem_cons_of_mem _ member))
  rw [List.foldl_append]
  exact steps_awake burst.continues.calm (burst.continues.undisturbed quiet) plainSince (burst.wakes pushed) restless

theorem step_keyboardInit (calm : machine.Calm) (undisturbed : machine.Undisturbed) (scope : Scope) (depth : Nat) :
    machine.Continues (machine.step scope depth .keyboardInit) ∧
      (machine.step scope depth .keyboardInit).kernel.keyboard = Keyboard.fresh ∧
      (machine.step scope depth .keyboardInit).kernel.scanCodes = machine.kernel.scanCodes.drop Config.scanBurst := by
  obtain ⟨after, run, continues, -, keyboard, scanCodes⟩ := KernelM.run_keyboardInit calm undisturbed scope
  obtain ⟨reply, carried⟩ : ∃ reply, KernelM.carryOut .keyboardInit scope machine = (reply, after) := by
    refine ⟨.ok (.keyboard after.kernel.scanCodes.length after.kernel.lineMasks.first after.kernel.lineMasks.second),
      ?_⟩
    rw [KernelM.carryOut, KernelM.run_bind_of_ok run]
    rfl
  have stepped : machine.step scope depth .keyboardInit = after.record (.finished depth .keyboardInit reply) := by
    rw [Machine.step, carried]
  have calmAfter := continues.calm
  rw [stepped]
  exact ⟨⟨⟨calmAfter.unlocked, calmAfter.sound⟩, continues.agenda, continues.interrupts⟩,
    keyboard, scanCodes⟩

end Machine

namespace Program.Reaches

variable {program : Program} {start : Machine} {kernel : Kernel}

/-- On a kernel as it is at any moment of any run outside of critical sections, with no interrupt to come: once
the keyboard is started, let bytes come in and polls take them in whatever pieces. The bytes taken are then the
first of all that came, the next poll takes a burst of the others, or all if there are fewer, and what the
polls have sent to the event loop, behind what waited there, is what one keyboard makes of the bytes taken, fed
one after another. Whenever a poll has sent something and no step since put the event loop to sleep, the event
loop is awake. -/
theorem polled_piecewise (reached : program.Reaches machine) (member : kernel ∈ machine.kernels)
    (free : kernel.locks = []) (same : start.kernel = kernel) (unraised : start.agenda.pending = []) {script : Script}
    (plain : ∀ next ∈ script, next.Plain start.agenda.hooks) (scope : Scope) (depth : Nat) :
    let ready := start.step scope depth .keyboardInit
    let now := script.foldl (Machine.step scope depth) ready
    let polled := now.step scope depth .poll
    (∃ taken, ready.kernel.scanCodes ++ script.flatMap Step.typed = taken ++ now.kernel.scanCodes ∧
      now.kernel.keyboard = (Keyboard.fresh.feedAll taken).2 ∧
      ready.postedBy scope depth script =
        (Keyboard.fresh.feedAll taken).1.map fun push => ⟨TaskId.kernel, .keyPush push⟩) ∧
    (KernelM.carryOut .poll scope now).1 = .ok (.bytesLeft polled.kernel.scanCodes.length) ∧
    polled.kernel.scanCodes = now.kernel.scanCodes.drop (min 32 now.kernel.scanCodes.length) ∧
    polled.kernel.sched.mailbox TaskId.eventLoop =
      now.kernel.sched.mailbox TaskId.eventLoop ++ now.posted scope depth .poll ∧
    ∀ before since, script = before ++ .poll :: since →
      let last := before.foldl (Machine.step scope depth) ready
      last.posted scope depth .poll ≠ [] → (last.step scope depth .poll).Restless scope depth since →
      now.kernel.sched.Awake TaskId.eventLoop := by
  subst same
  have calm : start.Calm := ⟨free, reached.sound _ member⟩
  have undisturbed : start.Undisturbed := fun _ => unraised
  obtain ⟨started, keyboard, -⟩ := Machine.step_keyboardInit calm undisturbed scope depth
  have quiet := started.undisturbed undisturbed
  have plain := started.plain plain
  intro ready now polled
  obtain ⟨taken, caught⟩ := Machine.steps_catch started.calm quiet plain scope depth
  have calmNow := caught.continues.calm
  have quietNow := caught.continues.undisturbed quiet
  obtain ⟨burst, answer⟩ := Machine.step_poll calmNow quietNow scope depth
  refine ⟨⟨taken, caught.scanCodes, keyboard ▸ caught.keyboard, keyboard ▸ caught.posted⟩,
    answer, ?_, ?_, ?_⟩
  · have whole := burst.scanCodes.symm.trans (List.take_append_drop Config.scanBurst now.kernel.scanCodes).symm
    exact (List.append_cancel_left whole).trans List.drop_eq_drop_min
  · rw [Machine.posted_poll calmNow quietNow scope depth]
    exact burst.mailbox
  · rintro before since rfl last sent restless
    exact Machine.awake_since started.calm quiet plain sent restless

/-- A run that leaves a byte in the keyboard controller and the event loop asleep. -/
def drowsy : Program where
  core := .kernel
  filter := .standard
  memoryShort := false
  script := [.keys [0x1E], .sleep TaskId.eventLoop]

/-- Left shift, an arrow key whose scan code is cut in two, and a letter. -/
def pieces : Script :=
  [.keys [0x2A, 0xE0], .poll, .sleep TaskId.eventLoop, .keys [0x48, 0x1E], .poll]

theorem drowsy_polled_piecewise : drowsy.Reaches drowsy.ending ∧
    let ready := drowsy.ending.step ⟨1, Machine.exec 1 1⟩ 0 .keyboardInit
    (ready.postedBy ⟨1, Machine.exec 1 1⟩ 0 pieces).length = 3 ∧
      ready.postedBy ⟨1, Machine.exec 1 1⟩ 0 pieces =
        (Keyboard.fresh.feedAll [0x2A, 0xE0, 0x48, 0x1E]).1.map (fun push => ⟨TaskId.kernel, .keyPush push⟩) ∧
      (pieces.foldl (Machine.step ⟨1, Machine.exec 1 1⟩ 0) ready).kernel.sched.Awake TaskId.eventLoop := by
  have reached : drowsy.Reaches drowsy.ending := reaches_ending rfl
  have unraised : drowsy.ending.agenda.pending = [] := List.isEmpty_iff.mp (by decide +kernel)
  have hookless : drowsy.ending.agenda.hooks = [] := List.isEmpty_iff.mp (by decide +kernel)
  have plain : ∀ next ∈ pieces, next.Plain drowsy.ending.agenda.hooks :=
    List.forall_mem_cons.mpr ⟨.keys _, List.forall_mem_cons.mpr ⟨.poll, List.forall_mem_cons.mpr
      ⟨.asks rfl hookless, List.forall_mem_cons.mpr ⟨.keys _, List.forall_mem_singleton.mpr .poll⟩⟩⟩⟩
  obtain ⟨⟨taken, bytes, -, posted⟩, -, -, -, awake⟩ :=
    polled_piecewise reached drowsy.ending.kernel_mem_kernels
    reached.calm.unlocked rfl unraised plain ⟨1, Machine.exec 1 1⟩ 0
  have stale : (drowsy.ending.step ⟨1, Machine.exec 1 1⟩ 0 .keyboardInit).kernel.scanCodes = [] := by decide +kernel
  have empty : (pieces.foldl (Machine.step ⟨1, Machine.exec 1 1⟩ 0)
      (drowsy.ending.step ⟨1, Machine.exec 1 1⟩ 0 .keyboardInit)).kernel.scanCodes = [] := by decide +kernel
  have all : taken = [0x2A, 0xE0, 0x48, 0x1E] := by
    rw [stale, empty, List.nil_append, List.append_nil] at bytes
    exact bytes.symm
  subst all
  refine ⟨reached, ?_, posted, ?_⟩
  · rw [posted]
    decide +kernel
  · exact awake (pieces.take 4) [] rfl (by decide +kernel) trivial

end Program.Reaches

end PriorityKernel
