import PriorityKernel.Proofs.BlinkLedger
import PriorityKernel.Proofs.Machine.Runs

namespace PriorityKernel

open Machine

variable {scope : Scope} {machine : Machine}

/-- The machine with the cursor shown if it was not, and hidden if it was. -/
def Machine.toggled (machine : Machine) : Machine :=
  { machine with kernel.cursorVisible := !machine.kernel.cursorVisible }

namespace KernelM

theorem run_onTimer {lined : Machine} (line : log (.cursorToggled machine.toggled.kernel.cursorVisible) scope
    machine.toggled = (.ok (), lined)) (due : Nat) : onTimer due Config.blinkTag scope machine =
      if Config.lastTick < due + Config.blinkInterval then (.error (.panic .overflow), lined)
      else addTimer ⟨due + Config.blinkInterval, Config.blinkTag⟩ scope lined := by
  rw [onTimer, if_pos rfl]
  refine (run_bind_of_ok rfl).trans ((run_bind_of_ok rfl).trans ((run_bind_of_ok line).trans ?_))
  split
  · rfl
  · rfl

section

variable (nested : scope.Obeys (Renews []) Step.Entrusts) (steady : machine.Steady Step.Entrusts)

include nested steady

/-- The handler arms the timer again, unless the clock cannot count so far. -/
theorem onTimer_renews (due : Nat) : ∃ result last, onTimer due Config.blinkTag scope machine = (result, last) ∧
    last.Steady Step.Entrusts ∧ (result = .ok () ∨ result = .error (.panic .overflow)) ∧
      machine.Renews (blinkAgain? due).toList last := by
  have conveys := renews_conveys
  have quiet : machine.Quiet machine.toggled := ⟨rfl, rfl, rfl, ⟨rfl, rfl, rfl, rfl, rfl⟩, List.prefix_rfl⟩
  have steadyToggled : machine.toggled.Steady Step.Entrusts := ⟨⟨steady.unlocked, steady.sound⟩, steady.agenda⟩
  obtain ⟨kept, steadyLined, _⟩ := obeys_log (.cursorToggled machine.toggled.kernel.cursorVisible) scope
    machine.toggled nested steadyToggled
  have line : log (.cursorToggled machine.toggled.kernel.cursorVisible) scope machine.toggled = (.ok (), _) :=
    Prod.ext (log_answer steadyToggled.toCalm _) rfl
  have lined := conveys.trans (conveys.quiet quiet) kept
  rw [run_onTimer line due, blinkAgain?]
  split
  · exact ⟨_, _, rfl, steadyLined, Or.inr rfl, lined⟩
  · obtain ⟨armed, added, later, steadyArmed⟩ :=
      addTimer_arms nested steadyLined ⟨due + Config.blinkInterval, Config.blinkTag⟩
    exact ⟨_, armed, added, steadyArmed, Or.inl rfl, lined.trans ((renews_add _).trans later)⟩

theorem dispatch_blink (source : TaskId) (due : Nat) : ∃ result last,
    dispatch .kernel ⟨source, .timerTimeout due Config.blinkTag⟩ scope machine = (result, last) ∧
      last.Steady Step.Entrusts ∧ (result = .ok () ∨ result = .error (.panic .overflow)) ∧
      machine.Renews (blinkAgain? due).toList last := by
  have conveys := renews_conveys
  have noted : machine.Renews [] (machine.record (.handled ⟨source, .timerTimeout due Config.blinkTag⟩)) :=
    renews_record rfl rfl
  obtain ⟨result, told, run, steadyTold, answer, renews⟩ := onTimer_renews nested (steady.record _) due
  have called : callHandler .kernel .timer ⟨source, .timerTimeout due Config.blinkTag⟩ scope machine =
      (onTimer due Config.blinkTag >>= fun _ => runReaction .timer) scope
        (machine.record (.handled ⟨source, .timerTimeout due Config.blinkTag⟩)) := rfl
  rcases answer with rfl | rfl
  · obtain ⟨kept, steadyLast, _⟩ := obeys_runReaction .timer scope told nested steadyTold
    have reacted : runReaction .timer scope told = (.ok (), _) := Prod.ext (runReaction_answer .timer) rfl
    rw [run_bind_of_ok run, reacted] at called
    refine ⟨.ok (), _, run_bind_of_ok called, steadyLast, Or.inl rfl, ?_⟩
    have whole := noted.trans (renews.trans kept)
    rwa [List.append_nil] at whole
  · rw [run_bind_of_error run] at called
    exact ⟨_, told, run_bind_of_error called, steadyTold, Or.inr rfl, noted.trans renews⟩

/-- What the event loop does with a message leaves the blink timers as they are, but for one that the kernel's
handler arms again. -/
theorem dispatch_renews (handler : Handler) (message : Message) : ∃ result last,
    dispatch handler message scope machine = (result, last) ∧ last.Steady Step.Entrusts ∧
      (∀ fault, result = .error fault → ¬fault.Excluded) ∧
      (handler = .kernel → message.blink? ≠ none → result ≠ .error .needsKernel) ∧
      machine.Renews (if handler = .kernel then message.blink?.bind blinkAgain? else none).toList last := by
  have conveys := renews_conveys
  by_cases tells : handler = .kernel ∧ message.blink? ≠ none
  · obtain ⟨rfl, tells⟩ := tells
    obtain ⟨source, due, rfl⟩ : ∃ source due, message = ⟨source, .timerTimeout due Config.blinkTag⟩ := by
      obtain ⟨source, kind⟩ := message
      cases kind with
      | timerTimeout due value =>
        have same : value = Config.blinkTag := Decidable.not_not.mp fun other => tells (if_neg other)
        exact ⟨source, due, by rw [same]⟩
      | _ => exact absurd rfl tells
    obtain ⟨result, last, run, steadyLast, answer, renews⟩ := dispatch_blink nested steady source due
    refine ⟨result, last, run, steadyLast, ?_, fun _ _ => ?_, renews⟩
    · rintro fault rfl
      rcases answer with impossible | overflowed
      · cases impossible
      · cases overflowed
        decide
    · rcases answer with rfl | rfl
      · nofun
      · nofun
  · have handled : handler = .kernel → Obeys (Renews []) Step.Entrusts (onMessage message) := by
      refine fun own => .onMessage fun due value kind => obeys_onTimer_other due fun same => tells ⟨own, ?_⟩
      rw [Message.blink?, kind, same]
      nofun
    have answered : ∀ {machine : Machine} (id), machine.Calm →
        machine.Renews [] (machine.record (.answered (.done id))) := fun _ _ => renews_record rfl rfl
    obtain ⟨kept, steadyLast, ordinary⟩ := Obeys.dispatch handled answered scope machine nested steady
    have none : (if handler = .kernel then message.blink?.bind blinkAgain? else none) = none := by
      split
      · next own =>
        rw [Decidable.not_not.mp fun any => tells ⟨own, any⟩]
        rfl
      · rfl
    rw [none]
    exact ⟨_, _, rfl, steadyLast, ordinary, fun own any => absurd ⟨own, any⟩ tells, kept⟩

end

theorem obeys_loopTurn_renews : Obeys (Renews []) Step.Entrusts (loopTurn .kernel) := by
  have conveys := renews_conveys
  intro scope machine nested steady
  cases waits : machine.kernel.sched.mailbox TaskId.eventLoop with
  | nil => exact loopTurn_dozes nested steady .kernel waits
  | cons message rest =>
    obtain ⟨taken, took, later, steadyTaken⟩ := waitTurn_takes nested steady waits
    obtain ⟨result, last, run, steadyLast, ordinary, _, renews⟩ :=
      dispatch_renews nested (steadyTaken.record (.answered (.begun message))) .kernel message
    have begun : taken.Renews [] (taken.record (.answered (.begun message))) := renews_record rfl rfl
    have flagged : Renews [] (machine.mask.operate (.receive TaskId.eventLoop))
        ((machine.mask.operate (.receive TaskId.eventLoop)).flag machine.kernel.interrupts) :=
      .of_still rfl (.of_eq (List.append_nil _))
    have renewed : machine.Renews [] last :=
      @renews_take machine.mask last steady.sound (steady.toCalm.free .timers) message rest waits
        (flagged.trans (later.trans (begun.trans renews)))
    exact obeysAt_turn took run renewed steadyLast ordinary

end KernelM

/-- A message that was handed to the kernel's handler brings in the timer that is armed again. -/
theorem brings_handed (depth : Nat) {message : Message} {handler : Handler} {reply : Except Fault Reply}
    (kernel : Kernel)
    (served : handler = .kernel → message.blink? ≠ none → reply ≠ .error .needsKernel) :
    Entry.brings? ⟨.finished depth (.dispatch message handler) reply, kernel⟩ =
      if handler = .kernel then message.blink?.bind blinkAgain? else none := by
  cases handler with
  | silent | recording => rfl
  | kernel =>
    rcases reply with fault | reply
    · cases fault with
      | needsKernel =>
        have none : message.blink? = none := Decidable.not_not.mp fun any => served rfl any rfl
        rw [none]
        rfl
      | _ => rfl
    · rfl

namespace Machine

theorem step_brings_renews (nested : scope.Obeys (Renews []) Step.Entrusts)
    (steady : machine.Steady Step.Entrusts) (depth : Nat) {step : Step} (brings : step.Brings) :
    machine.Renews [] (machine.step scope depth step) := by
  have conveys := renews_conveys
  cases step with
  | addTimer timer =>
    obtain ⟨armed, run, later, _⟩ := KernelM.addTimer_arms nested steady timer
    have stepped : machine.step scope depth (.addTimer timer) =
        armed.record (.finished depth (.addTimer timer) (.ok .done)) := by
      have carried : KernelM.carryOut (.addTimer timer) scope machine = (.ok .done, armed) := KernelM.run_bind_of_ok run
      rw [Machine.step, carried]
    have whole := (renews_add timer).trans later
    rw [List.append_nil] at whole
    rw [stepped]
    exact whole.settle rfl rfl
  | dispatch message handler =>
    obtain ⟨result, last, run, _, _, served, renews⟩ := KernelM.dispatch_renews nested steady handler message
    rw [step_dispatch run]
    split
    · exact renews_record rfl (by cases handler <;> rfl)
    · refine renews.settle rfl (brings_handed depth last.kernel fun own any same => ?_)
      cases result with
      | ok => cases same
      | error fault =>
        cases same
        exact served own any rfl
  | _ => exact brings.elim

theorem renews_bears : Law.Bears (Renews []) Step.Entrusts where
  toConveys := renews_conveys
  ended := by
    intro machine step reply depth _ inner _
    refine renews_record rfl ?_
    cases step <;> first | rfl | exact absurd trivial inner
  turned := by
    intro step handler entrusts turns
    cases entrusts.2 handler turns
    exact KernelM.obeys_loopTurn_renews
  brought := fun depth _ brings nested steady => step_brings_renews nested steady depth brings

end Machine

/-- No blink timer fired so late that the clock could not count on to the next. -/
def Timely (trace : List Entry) : Prop :=
  ∀ timeout ∈ firings trace, timeout + Config.blinkInterval ≤ Config.lastTick

instance (trace : List Entry) : Decidable (Timely trace) := inferInstanceAs (Decidable (∀ _ ∈ _, _))

/-- From one machine to another every blink timer that waited, or was brought in, went on as a chain: it
fired at its timeout and then interval by interval, and the next of the chain waits. -/
structure Machine.Blinks (before : Machine) (added : List Entry) (chains : List BlinkChain)
    (after : Machine) : Prop where
  trace : after.trace = added ++ before.trace
  starts : (before.kernel.blinks ++ brought added).Perm (chains.map (·.start))
  waiting : after.kernel.blinks.Perm (chains.map (·.waiting))
  fired : Merges (chains.map (·.fired)) (firings added)

namespace Machine

variable {before after : Machine}

/-- As many timers wait as waited and were brought in. -/
theorem Blinks.length {added : List Entry} {chains : List BlinkChain} (blinks : before.Blinks added chains after) :
    after.kernel.blinks.length = before.kernel.blinks.length + (brought added).length := by
  have starts := blinks.starts.length_eq
  have waiting := blinks.waiting.length_eq
  rw [List.length_append, List.length_map] at starts
  rw [List.length_map] at waiting
  exact waiting.trans starts.symm

theorem Renews.exists_blinks (renews : before.Renews [] after) (timely : Timely after.trace) :
    ∃ added chains, before.Blinks added chains after := by
  obtain ⟨added, trace, run⟩ := renews
  rw [List.append_nil] at run
  have later : ∀ timeout ∈ firings added, timeout + Config.blinkInterval ≤ Config.lastTick := by
    refine fun timeout member => timely timeout ?_
    rw [trace, firings_append]
    exact List.mem_append_right _ member
  obtain ⟨chains, starts, waiting, fired⟩ := run.exists_chains later
  exact ⟨added, chains, trace, starts, waiting, fired⟩

end Machine

namespace Program

variable {program : Program}

theorem fresh_blinks (program : Program) : program.fresh.kernel.blinks = [] := by
  rw [Kernel.blinks, show program.fresh.kernel.sched.mailbox TaskId.eventLoop = [] from
    Scheduler.initial_mailbox _ _]
  obtain ⟨core, _⟩ := program
  cases core <;> rfl

namespace Pauses

/-- Take a run whose scripts, at any depth, leave the messages of the event loop's task to event loops with the
kernel's handler, and in which no blink timer fired so late that the clock could not count on to the next.
Whenever an outermost step has ended, as many blink timers wait as were brought in, in as many chains: each
starts with one that was brought in, fired at its start and then interval by interval, and waits for the next.
All that fired are those of the chains, each chain in its order. Every step, whatever arrives and runs inside
of it, takes up each chain where it was, and changes their number by what is brought in and nothing else. -/
theorem blinks_conserved (paused : program.Pauses machine) (entrusted : scriptWithin Step.Entrusts program.script)
    (timely : Timely machine.trace) :
    machine.kernel.blinks.length = (brought machine.trace).length ∧
    (∃ chains : List BlinkChain, (brought machine.trace).Perm (chains.map (·.start)) ∧
      machine.kernel.blinks.Perm (chains.map (·.waiting)) ∧
      Merges (chains.map (·.fired)) (firings machine.trace)) ∧
    ∀ start : Machine, start.Steady Step.Entrusts → ∀ credit depth next, next.Within Step.Entrusts →
      ∀ after, after = start.step ⟨credit, exec credit (depth + 1)⟩ depth next → Timely after.trace →
        ∃ added chains, start.Blinks added chains after ∧
          after.kernel.blinks.length = start.kernel.blinks.length + (brought added).length := by
  obtain ⟨ended, rest, script, reached⟩ := paused
  have entrustedEnded : scriptWithin Step.Entrusts ended := by
    rw [script, scriptWithin_iff] at entrusted
    exact scriptWithin_iff.mpr fun step member => entrusted step (List.mem_append_left _ member)
  obtain ⟨added, chains, blinks⟩ := (reached.obeys_within renews_bears entrustedEnded).1.exists_blinks timely
  have whole : machine.trace = added := blinks.trace.trans (List.append_nil added)
  have length := blinks.length
  have starts := blinks.starts
  rw [fresh_blinks] at length starts
  rw [whole]
  refine ⟨length.trans (Nat.zero_add _), ⟨chains, starts, blinks.waiting, blinks.fired⟩, ?_⟩
  rintro start steady credit depth next within after rfl timelyAfter
  have bears := renews_bears
  have kept : start.Renews [] _ := (step_obeys within (obeys_exec bears credit (depth + 1)) steady depth).1
  obtain ⟨brings, on, goes⟩ := kept.exists_blinks timelyAfter
  exact ⟨brings, on, goes, goes.length⟩

/-- A run with blink timers that are added, sent and handed over, one of them inside of a handler, and that
fire late. -/
def blinking : Program where
  core := .kernel
  filter := .standard
  memoryShort := false
  script := [.addTimer ⟨3, 1⟩, .tick 3, .send 1 ⟨0, .timerTimeout 7 1⟩,
    .dispatch ⟨0, .timerTimeout 9 1⟩ .kernel,
    .react .timer [.addTimer ⟨2, 1⟩, .tick 60, .deviceInterrupt], .loop 4 .kernel, .tick 50, .loop 9 .kernel]

theorem blinking_blinks_conserved : blinking.Pauses blinking.ending ∧ scriptWithin Step.Entrusts blinking.script ∧
    Timely blinking.ending.trace ∧ brought blinking.ending.trace = [3, 7, 59, 2] ∧
    firings blinking.ending.trace = [3, 7, 2, 53, 59, 52, 57, 103] ∧
    blinking.ending.kernel.blinks = [102, 107, 109, 153] ∧
    (∃ chains : List BlinkChain, (brought blinking.ending.trace).Perm (chains.map (·.start)) ∧
      blinking.ending.kernel.blinks.Perm (chains.map (·.waiting)) ∧
      Merges (chains.map (·.fired)) (firings blinking.ending.trace)) ∧
    ∃ added chains, blinking.fresh.Blinks added chains
        (blinking.fresh.step ⟨1, exec 1 1⟩ 0 (.dispatch ⟨0, .timerTimeout 9 1⟩ .kernel)) ∧
          brought added = [59] := by
  have paused : blinking.Pauses blinking.ending := ⟨blinking.script, [], rfl, reaches_ending rfl⟩
  have entrusted : scriptWithin Step.Entrusts blinking.script := by
    simp [blinking, scriptWithin, Step.Within, Step.Entrusts, Step.Collects, Step.Turns]
  have timely : Timely blinking.ending.trace := by decide +kernel
  obtain ⟨_, chains, steps⟩ := blinks_conserved paused entrusted timely
  have handed : (Step.dispatch ⟨0, .timerTimeout 9 1⟩ .kernel).Within Step.Entrusts :=
    ⟨id, fun _ turns => turns.elim⟩
  obtain ⟨added, others, blinks, _⟩ := steps blinking.fresh (fresh_steady _ _) 1 0 _ handed _ rfl
    (by decide +kernel)
  refine ⟨paused, entrusted, timely, by decide +kernel, by decide +kernel, by decide +kernel, chains,
    added, others, blinks, ?_⟩
  have trace := blinks.trace
  rw [show blinking.fresh.trace = [] from rfl, List.append_nil] at trace
  rw [← trace]
  decide +kernel

end Pauses

end Program

end PriorityKernel
