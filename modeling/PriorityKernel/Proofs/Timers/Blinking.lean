import Mathlib.Data.List.Perm.Basic
import PriorityKernel.Message
import PriorityKernel.Proofs.Timers.Draining

namespace PriorityKernel

/-- The timeout of a blink timer. -/
def Timer.blink? (timer : Timer) : Option Nat := if timer.value = Config.blinkTag then some timer.timeout else none

/-- The timeout of the blink timer that a message tells of. -/
def Message.blink? (message : Message) : Option Nat :=
  match message.kind with
  | .timerTimeout timeout value => Timer.blink? ⟨timeout, value⟩
  | .deviceInterrupt | .keyPush _ | .layer _ | .layerFinish => none

theorem Timer.blink?_of_scheduling {timer : Timer} (scheduling : timer.isScheduling = true) : timer.blink? = none := by
  have value : timer.value = Config.schedulerTag := beq_iff_eq.mp scheduling
  rw [Timer.blink?, value]
  rfl

/-- The timeout of the timer that is armed when a blink timer fires, unless the clock cannot count so far. -/
def blinkAgain? (timeout : Nat) : Option Nat :=
  if Config.lastTick < timeout + Config.blinkInterval then none else some (timeout + Config.blinkInterval)

namespace TimerQueue

variable {queue : TimerQueue} {last : Tick}

/-- The timeouts of the blink timers that have not come due. -/
def blinks (queue : TimerQueue) : List Nat := queue.waiting.filterMap Timer.blink?

theorem add_blinks (queue : TimerQueue) (timer : Timer) :
    (queue.add timer).blinks.Perm (timer.blink?.toList ++ queue.blinks) := by
  have added := (add_perm queue timer).filterMap Timer.blink?
  rw [List.filterMap_cons] at added
  cases blinks : timer.blink? with
  | none => rwa [blinks] at added
  | some timeout => rwa [blinks] at added

/-- No blink timer is lost or made in a tick. -/
theorem Drains.blinks (run : Drains queue last) :
    (last.expired.filterMap Timer.blink? ++ last.queue.blinks).Perm queue.blinks := by
  induction run with
  | ended | early => exact .refl _
  | @rearmed queue timer rest last first due scheduling others ih =>
    have again := add_blinks { queue with waiting := rest } (Timer.rearmed queue.clock)
    rw [Timer.blink?_of_scheduling rfl] at again
    have taken : queue.blinks = TimerQueue.blinks { queue with waiting := rest } := by
      rw [TimerQueue.blinks, first, List.filterMap_cons, Timer.blink?_of_scheduling scheduling]
      rfl
    rw [taken]
    exact ih.trans again
  | @expired queue timer rest last first due ordinary others ih =>
    rw [TimerQueue.blinks, TimerQueue.blinks, first, List.filterMap_cons, List.filterMap_cons]
    cases timer.blink? with
    | none => exact ih
    | some timeout => exact ih.cons timeout

theorem tick_blinks (queue : TimerQueue) :
    (queue.tick.expired.filterMap Timer.blink? ++ queue.tick.queue.blinks).Perm queue.blinks :=
  (drains_tick queue).blinks

end TimerQueue

/-- Of the timers that wait, those fire one after another, and the last ones wait then. -/
inductive BlinkRun : List Nat → List Nat → List Nat → Prop
  | ended {waiting last : List Nat} (same : waiting.Perm last) : BlinkRun waiting [] last
  | fires {waiting others fired last : List Nat} {timeout : Nat} (due : waiting.Perm (timeout :: others))
      (rest : BlinkRun ((blinkAgain? timeout).toList ++ others) fired last) : BlinkRun waiting (timeout :: fired) last

namespace BlinkRun

variable {waiting fired last : List Nat}

theorem of_perm {other : List Nat} (same : other.Perm waiting) (run : BlinkRun waiting fired last) :
    BlinkRun other fired last := by
  cases run with
  | ended still => exact .ended (same.trans still)
  | fires due rest => exact .fires (same.trans due) rest

/-- Timers that wait meanwhile change nothing. -/
theorem frame (run : BlinkRun waiting fired last) (more : List Nat) :
    BlinkRun (waiting ++ more) fired (last ++ more) := by
  induction run with
  | ended same => exact .ended (same.append_right more)
  | fires due _ ih => exact .fires (due.append_right more) (by rwa [List.append_assoc] at ih)

theorem trans {later final : List Nat} (run : BlinkRun waiting fired last) (next : BlinkRun last later final) :
    BlinkRun waiting (fired ++ later) final := by
  induction run with
  | ended same => exact next.of_perm same
  | fires due _ ih => exact .fires due (ih next)

end BlinkRun

/-- The whole merges its parts: the items of each stand in it in their order, and no others. -/
inductive Merges {α : Type} : List (List α) → List α → Prop
  | nil {parts : List (List α)} (empty : ∀ part ∈ parts, part = []) : Merges parts []
  | cons {parts others : List (List α)} {first : α} {part whole : List α}
      (taken : parts.Perm ((first :: part) :: others)) (rest : Merges (part :: others) whole) :
      Merges parts (first :: whole)

theorem Merges.of_perm {α : Type} {parts others : List (List α)} {whole : List α} (same : others.Perm parts)
    (merges : Merges parts whole) : Merges others whole := by
  cases merges with
  | nil empty => exact .nil fun part member => empty part (same.mem_iff.mp member)
  | cons taken rest => exact .cons (same.trans taken) rest

/-- The timers that come of one blink timer, each armed when the one before it fired. -/
structure BlinkChain where
  /-- The timeout of the first of them. -/
  start : Nat
  /-- How many of them fired. -/
  rounds : Nat
  deriving DecidableEq, Repr

namespace BlinkChain

/-- The timeout of the one that waits. -/
def waiting (chain : BlinkChain) : Nat := chain.start + chain.rounds * Config.blinkInterval

/-- The timeouts of those that fired, in order. -/
def fired (chain : BlinkChain) : List Nat :=
  (List.range chain.rounds).map fun round => chain.start + round * Config.blinkInterval

/-- A chain goes on with what comes of its first timer, one interval later. -/
theorem next_round {chain : BlinkChain} {timeout : Nat} (next : chain.start = timeout + Config.blinkInterval) :
    waiting ⟨timeout, chain.rounds + 1⟩ = chain.waiting ∧
      fired ⟨timeout, chain.rounds + 1⟩ = timeout :: chain.fired := by
  have later : ∀ round, timeout + (round + 1) * Config.blinkInterval =
      chain.start + round * Config.blinkInterval := by
    intro round
    rw [next, Nat.succ_mul]
    omega
  refine ⟨later chain.rounds, ?_⟩
  rw [fired, fired, List.range_succ_eq_map, List.map_cons, List.map_map, Nat.zero_mul]
  exact congrArg _ (List.map_congr_left fun round _ => later round)

end BlinkChain

/-- While the clock can count from each firing to the next, every timer starts a chain. -/
theorem BlinkRun.exists_chains {waiting fired last : List Nat} (run : BlinkRun waiting fired last)
    (timely : ∀ timeout ∈ fired, timeout + Config.blinkInterval ≤ Config.lastTick) :
    ∃ chains : List BlinkChain, waiting.Perm (chains.map (·.start)) ∧ last.Perm (chains.map (·.waiting)) ∧
      Merges (chains.map (·.fired)) fired := by
  induction run with
  | @ended waiting last same =>
    have alone : ∀ chain ∈ waiting.map (BlinkChain.mk · 0), chain.fired = [] :=
      List.forall_mem_map.mpr fun _ _ => rfl
    refine ⟨waiting.map (BlinkChain.mk · 0), ?_, ?_, .nil (List.forall_mem_map.mpr alone)⟩
    · simp [Function.comp_def]
    · simpa [BlinkChain.waiting, Function.comp_def] using same.symm
  | @fires waiting others fired last timeout due rest ih =>
    obtain ⟨first, later⟩ := List.forall_mem_cons.mp timely
    obtain ⟨chains, starts, ends, merges⟩ := ih later
    rw [blinkAgain?, if_neg (Nat.not_lt.mpr first)] at starts
    obtain ⟨chain, inside, next⟩ := List.mem_map.mp (starts.mem_iff.mp (List.mem_cons_self ..))
    obtain ⟨same, again⟩ := BlinkChain.next_round next
    have split := List.perm_cons_erase inside
    refine ⟨⟨timeout, chain.rounds + 1⟩ :: chains.erase chain, ?_, ?_, ?_⟩
    · have left := starts.trans (split.map (·.start))
      rw [List.map_cons, next] at left
      exact due.trans (left.cons_inv.cons timeout)
    · rw [List.map_cons, same]
      exact ends.trans (split.map (·.waiting))
    · rw [List.map_cons, again]
      exact .cons (.refl _) (merges.of_perm (split.map BlinkChain.fired).symm)

end PriorityKernel
