import PriorityKernel.Timer
import Mathlib.Data.List.Sort

namespace PriorityKernel

namespace Timer

/-! ### The order of the queue -/

theorem le_def (first second : Timer) : first ≤ second ↔
    first.timeout < second.timeout ∨ first.timeout = second.timeout ∧ first.value ≤ second.value := Iff.rfl

theorem timeout_le {first second : Timer} (ordered : first ≤ second) : first.timeout ≤ second.timeout := by
  rw [le_def] at ordered
  omega

instance : Std.Total fun first second : Timer => first ≤ second where
  total first second := by
    simp only [le_def]
    omega

instance : IsTrans Timer fun first second => first ≤ second where
  trans first second third := by
    simp only [le_def]
    omega

instance : Std.Antisymm fun first second : Timer => first ≤ second where
  antisymm first second := by
    intro forward backward
    obtain ⟨timeout, value⟩ := first
    obtain ⟨later, other⟩ := second
    simp only [le_def] at forward backward
    have timeouts : timeout = later := by omega
    have values : value = other := by omega
    rw [timeouts, values]

theorem insert_eq (timer : Timer) (timers : List Timer) :
    insert timer timers = timers.orderedInsert (· ≤ ·) timer := by
  induction timers with
  | nil => rfl
  | cons head rest ih => simp only [insert, List.orderedInsert_cons, ih]

theorem insert_perm (timer : Timer) (timers : List Timer) : (insert timer timers).Perm (timer :: timers) := by
  rw [insert_eq]
  exact List.perm_orderedInsert _ timer timers

theorem insert_ordered (timer : Timer) {timers : List Timer} (ordered : timers.Pairwise (· ≤ ·)) :
    (insert timer timers).Pairwise (· ≤ ·) := by
  rw [insert_eq]
  exact ordered.orderedInsert timer timers

/-! ### What becomes of a timer -/

/-- Whether a timer is due at a tick. -/
def isDue (clock : Nat) (timer : Timer) : Bool := timer.timeout ≤ clock

/-- Whether the event loop is told of a timer at a tick. -/
def expires (clock : Nat) (timer : Timer) : Bool := timer.isDue clock && !timer.isScheduling

/-- Whether a timer asks for a switch at a tick. -/
def strikes (clock : Nat) (timer : Timer) : Bool := timer.isDue clock && timer.isScheduling

/-- The scheduling timer that is armed at a tick. -/
def rearmed (clock : Nat) : Timer := ⟨clock + Config.schedulerPeriod, Config.schedulerTag⟩

/-- What waits after a tick in place of a timer that waited before it. -/
def passed (clock : Nat) (timer : Timer) : Option Timer :=
  if timer.isDue clock = true then
    if timer.isScheduling = true then some (rearmed clock) else none
  else some timer

variable {clock : Nat} {timer : Timer}

theorem schedulerPeriod_pos : 0 < Config.schedulerPeriod := by decide

@[simp] theorem rearmed_early : (rearmed clock).isDue clock = false := by
  have later := schedulerPeriod_pos
  refine decide_eq_false ?_
  show ¬clock + Config.schedulerPeriod ≤ clock
  omega

theorem expires_of_early (early : timer.isDue clock = false) : timer.expires clock = false := by
  simp only [expires, early, Bool.false_and]

theorem strikes_of_early (early : timer.isDue clock = false) : timer.strikes clock = false := by
  simp only [strikes, early, Bool.false_and]

theorem passed_of_early (early : timer.isDue clock = false) : timer.passed clock = some timer := by
  simp only [passed, early, Bool.false_eq_true, if_false]

end Timer

namespace TimerQueue

open Timer

/-- The loop of a tick, without a bound on its rounds: what it gives if it ends. -/
inductive Drains : TimerQueue → Tick → Prop
  | ended {queue} (none : queue.waiting = []) : Drains queue ⟨[], false, queue⟩
  | early {queue timer rest} (first : queue.waiting = timer :: rest) (later : queue.clock < timer.timeout) :
      Drains queue ⟨[], false, queue⟩
  | rearmed {queue timer rest last} (first : queue.waiting = timer :: rest) (due : ¬queue.clock < timer.timeout)
      (scheduling : timer.isScheduling = true)
      (others : Drains ({ queue with waiting := rest }.add (Timer.rearmed queue.clock)) last) :
      Drains queue { last with switchDue := true }
  | expired {queue timer rest last} (first : queue.waiting = timer :: rest) (due : ¬queue.clock < timer.timeout)
      (ordinary : timer.isScheduling = false) (others : Drains { queue with waiting := rest } last) :
      Drains queue { last with expired := timer :: last.expired }

/-- The queue is kept in order. -/
def Ordered (queue : TimerQueue) : Prop := queue.waiting.Pairwise (· ≤ ·)

variable {queue : TimerQueue} {last : Tick} {timer : Timer} {rest : List Timer}

theorem Ordered.add (ordered : queue.Ordered) (timer : Timer) : (queue.add timer).Ordered :=
  insert_ordered timer ordered

theorem add_perm (queue : TimerQueue) (timer : Timer) : (queue.add timer).waiting.Perm (timer :: queue.waiting) :=
  insert_perm timer queue.waiting

theorem due_of_not_early {clock : Nat} (due : ¬clock < timer.timeout) : timer.isDue clock = true :=
  decide_eq_true (Nat.not_lt.mp due)

theorem not_due_of_early {clock : Nat} (later : clock < timer.timeout) : timer.isDue clock = false :=
  decide_eq_false (Nat.not_le.mpr later)

/-! ### The rounds of the loop -/

theorem drain_nil (none : queue.waiting = []) (rounds : Nat) : drain rounds queue = ⟨[], false, queue⟩ := by
  cases rounds with
  | zero => rfl
  | succ rounds => simp only [drain, none]

theorem drain_early (first : queue.waiting = timer :: rest) (early : queue.clock < timer.timeout) (rounds : Nat) :
    drain rounds queue = ⟨[], false, queue⟩ := by
  cases rounds with
  | zero => rfl
  | succ rounds => simp only [drain, first, early, if_true]

theorem drain_rearmed (first : queue.waiting = timer :: rest) (due : ¬queue.clock < timer.timeout)
    (scheduling : timer.isScheduling = true) (rounds : Nat) : drain (rounds + 1) queue =
      { drain rounds ({ queue with waiting := rest }.add (Timer.rearmed queue.clock)) with switchDue := true } := by
  simp only [drain, first, due, if_false, scheduling, if_true]
  rfl

theorem drain_expired (first : queue.waiting = timer :: rest) (due : ¬queue.clock < timer.timeout)
    (ordinary : timer.isScheduling = false) (rounds : Nat) : drain (rounds + 1) queue =
      { drain rounds { queue with waiting := rest } with
        expired := timer :: (drain rounds { queue with waiting := rest }).expired } := by
  simp only [drain, first, due, if_false, ordinary, Bool.false_eq_true]

/-- How many timers are due. -/
def dueCount (queue : TimerQueue) : Nat := queue.waiting.countP (isDue queue.clock)

/-- A round takes out one timer that is due. -/
theorem dueCount_taken (first : queue.waiting = timer :: rest) (due : ¬queue.clock < timer.timeout) :
    queue.dueCount = dueCount { queue with waiting := rest } + 1 := by
  rw [dueCount, first, List.countP_cons_of_pos (due_of_not_early due)]
  rfl

theorem dueCount_rearmed (queue : TimerQueue) : (queue.add (Timer.rearmed queue.clock)).dueCount = queue.dueCount := by
  rw [dueCount, (add_perm queue _).countP_eq]
  exact List.countP_cons_of_neg (by simp [add])

/-! ### The loop ends -/

/-- As many rounds as there are timers that are due bring the loop to its end. -/
theorem drains_drain (rounds : Nat) (enough : queue.dueCount ≤ rounds) : Drains queue (drain rounds queue) := by
  induction rounds generalizing queue with
  | zero =>
    cases first : queue.waiting with
    | nil => exact .ended first
    | cons timer rest =>
      refine .early first (Decidable.not_not.mp fun due => ?_)
      rw [dueCount_taken first due] at enough
      cases enough
  | succ rounds ih =>
    cases first : queue.waiting with
    | nil =>
      rw [drain_nil first]
      exact .ended first
    | cons timer rest =>
      by_cases early : queue.clock < timer.timeout
      · rw [drain_early first early]
        exact .early first early
      · rw [dueCount_taken first early] at enough
        have fewer := Nat.le_of_succ_le_succ enough
        cases scheduling : timer.isScheduling with
        | true =>
          rw [drain_rearmed first early scheduling]
          exact .rearmed first early scheduling (ih (dueCount_rearmed { queue with waiting := rest } ▸ fewer))
        | false =>
          rw [drain_expired first early scheduling]
          exact .expired first early scheduling (ih fewer)

theorem drains_tick (queue : TimerQueue) : Drains { queue with clock := queue.clock + 1 } queue.tick :=
  drains_drain _ List.countP_le_length

/-- The loop ends in one way only, and more rounds than there are timers that are due change nothing. -/
theorem Drains.eq_drain (run : Drains queue last) {rounds : Nat} (enough : queue.dueCount ≤ rounds) :
    last = drain rounds queue := by
  induction run generalizing rounds with
  | ended none => exact (drain_nil none rounds).symm
  | early first later => exact (drain_early first later rounds).symm
  | @rearmed queue _ rest _ first due scheduling _ ih =>
    rw [dueCount_taken first due] at enough
    obtain ⟨fewer, rfl⟩ := Nat.exists_eq_add_of_le' (Nat.le_of_add_left_le enough)
    rw [drain_rearmed first due scheduling, ih]
    rw [dueCount_rearmed { queue with waiting := rest }]
    exact Nat.le_of_succ_le_succ enough
  | expired first due ordinary _ ih =>
    rw [dueCount_taken first due] at enough
    obtain ⟨fewer, rfl⟩ := Nat.exists_eq_add_of_le' (Nat.le_of_add_left_le enough)
    rw [drain_expired first due ordinary, ih (Nat.le_of_succ_le_succ enough)]

/-! ### What the loop went through -/

/-- What the loop gives of an ordered queue: told of are the ordinary timers that were due, in order,
a switch is due if a scheduling timer was, and everything else waits on. -/
structure Drained (queue : TimerQueue) (last : Tick) : Prop where
  expired : last.expired = queue.waiting.filter (Timer.expires queue.clock)
  switchDue : last.switchDue = queue.waiting.any (strikes queue.clock)
  waiting : last.queue.waiting.Perm (queue.waiting.filterMap (passed queue.clock))
  ordered : last.queue.Ordered
  clock : last.queue.clock = queue.clock

theorem drained_of_early (ordered : queue.Ordered)
    (early : ∀ timer ∈ queue.waiting, timer.isDue queue.clock = false) :
    Drained queue ⟨[], false, queue⟩ where
  expired := (List.filter_eq_nil_iff.mpr fun timer member => by simp [expires_of_early (early timer member)]).symm
  switchDue := (List.any_eq_false.mpr fun timer member => by simp [strikes_of_early (early timer member)]).symm
  waiting := by
    rw [List.filterMap_congr fun timer member => passed_of_early (early timer member), List.filterMap_some]
  ordered := ordered
  clock := rfl

theorem Ordered.early_all (ordered : queue.Ordered) (first : queue.waiting = timer :: rest)
    (later : queue.clock < timer.timeout) : ∀ other ∈ queue.waiting, other.isDue queue.clock = false := by
  intro other member
  have after : timer.timeout ≤ other.timeout := by
    rw [Ordered, first, List.pairwise_cons] at ordered
    rw [first] at member
    rcases List.mem_cons.mp member with rfl | behind
    · exact Nat.le_refl _
    · exact timeout_le (ordered.1 other behind)
  exact not_due_of_early (Nat.lt_of_lt_of_le later after)

theorem Ordered.taken (ordered : queue.Ordered) (first : queue.waiting = timer :: rest) :
    Ordered { queue with waiting := rest } := by
  rw [Ordered, first] at ordered
  exact ordered.of_cons

/-- A timer that is armed again does not come between those that the event loop is told of. -/
theorem Ordered.expires_rearmed (ordered : queue.Ordered) :
    (queue.add (Timer.rearmed queue.clock)).waiting.filter (Timer.expires queue.clock) =
      queue.waiting.filter (Timer.expires queue.clock) := by
  have moved := (add_perm queue (Timer.rearmed queue.clock)).filter (Timer.expires queue.clock)
  rw [List.filter_cons_of_neg (by simp [expires_of_early])] at moved
  exact moved.eq_of_pairwise' ((ordered.add _).filter _) (List.Pairwise.filter _ ordered)

/-- What waits after a round in place of a scheduling timer that was due. -/
theorem passed_rearmed (first : queue.waiting = timer :: rest) (due : timer.isDue queue.clock = true)
    (scheduling : timer.isScheduling = true) :
    (({ queue with waiting := rest }.add (Timer.rearmed queue.clock)).waiting.filterMap (passed queue.clock)).Perm
      (queue.waiting.filterMap (passed queue.clock)) := by
  have stays : (Timer.rearmed queue.clock).passed queue.clock = some (Timer.rearmed queue.clock) :=
    passed_of_early rearmed_early
  have returns : timer.passed queue.clock = some (Timer.rearmed queue.clock) := by
    simp only [passed, due, scheduling, if_true]
  rw [first, List.filterMap_cons_some returns, ← List.filterMap_cons_some stays]
  exact (add_perm { queue with waiting := rest } (Timer.rearmed queue.clock)).filterMap _

theorem Drains.drained (run : Drains queue last) (ordered : queue.Ordered) : Drained queue last := by
  induction run with
  | ended none => exact drained_of_early ordered (by simp [none])
  | early first later => exact drained_of_early ordered (ordered.early_all first later)
  | @rearmed queue timer rest last first due scheduling _ ih =>
    have taken := ordered.taken first
    have here := due_of_not_early due
    obtain ⟨expired, _, waiting, after, clock⟩ := ih (taken.add (Timer.rearmed queue.clock))
    refine ⟨?_, ?_, waiting.trans (passed_rearmed first here scheduling), after, clock⟩
    · rw [first, List.filter_cons_of_neg (by simp [expires, scheduling])]
      exact expired.trans taken.expires_rearmed
    · simp [first, strikes, here, scheduling]
  | @expired queue timer rest last first due ordinary _ ih =>
    obtain ⟨expired, switchDue, waiting, after, clock⟩ := ih (ordered.taken first)
    have here := due_of_not_early due
    have tells : timer.expires queue.clock = true := by simp [expires, here, ordinary]
    have leaves : timer.passed queue.clock = none := by simp [passed, here, ordinary]
    refine ⟨?_, ?_, ?_, after, clock⟩
    · rw [first, List.filter_cons_of_pos tells]
      exact congrArg (timer :: ·) expired
    · rw [first, List.any_cons, show timer.strikes queue.clock = false by simp [strikes, ordinary], Bool.false_or]
      exact switchDue
    · rw [first, List.filterMap_cons_none leaves]
      exact waiting

theorem Ordered.tick (ordered : queue.Ordered) : Drained { queue with clock := queue.clock + 1 } queue.tick :=
  (drains_tick queue).drained ordered

theorem empty_ordered : empty.Ordered := List.pairwise_singleton _ _

end TimerQueue

end PriorityKernel
