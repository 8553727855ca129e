import PriorityKernel.Proofs.Timers.Draining

namespace PriorityKernel

open Timer

/-- A call on the timers. -/
inductive TimerCall where
  | add (timer : Timer)
  | tick
  deriving DecidableEq, Repr

/-- A timer with the clock at which it was added. -/
structure Booking where
  timer : Timer
  clock : Nat
  deriving DecidableEq, Repr

namespace Booking

/-- The tick at which the timer comes due: an overdue one does at the very next tick. -/
def due (booking : Booking) : Nat := max booking.timer.timeout (booking.clock + 1)

/-- The first tick after `clock` that lies a number of whole periods after the due one. -/
def next (booking : Booking) (clock : Nat) : Nat :=
  booking.due + ((clock - booking.due) / Config.schedulerPeriod + 1) * Config.schedulerPeriod

/-- The timer that waits at a clock for this booking. -/
def standing (clock : Nat) (booking : Booking) : Option Timer :=
  if clock < booking.due then some booking.timer
  else if booking.timer.isScheduling = true then some ⟨booking.next clock, Config.schedulerTag⟩
  else none

/-- Whether the event loop is told of the timer at a tick. -/
def ringsAt (clock : Nat) (booking : Booking) : Bool :=
  booking.due == clock && !booking.timer.isScheduling

/-- Whether the timer asks for a switch at a tick. -/
def StrikesAt (clock : Nat) (booking : Booking) : Prop :=
  booking.timer.isScheduling = true ∧ booking.due ≤ clock ∧ Config.schedulerPeriod ∣ clock - booking.due

variable {booking : Booking} {clock : Nat}

theorem standing_early (early : clock < booking.due) : booking.standing clock = some booking.timer := by
  simp only [standing, early, if_true]

theorem standing_over (elapsed : booking.due ≤ clock) (ordinary : booking.timer.isScheduling = false) :
    booking.standing clock = none := by
  simp only [standing, Nat.not_lt.mpr elapsed, if_false, ordinary, Bool.false_eq_true]

theorem standing_again (elapsed : booking.due ≤ clock) (scheduling : booking.timer.isScheduling = true) :
    booking.standing clock = some ⟨booking.next clock, Config.schedulerTag⟩ := by
  simp only [standing, Nat.not_lt.mpr elapsed, if_false, scheduling, if_true]

theorem isDue_of_early (made : booking.clock ≤ clock) (early : clock < booking.due) :
    booking.timer.isDue (clock + 1) = decide (booking.due = clock + 1) := by
  simp only [isDue, due] at early ⊢
  refine decide_eq_decide.mpr ?_
  omega

theorem lt_next (elapsed : booking.due ≤ clock) : clock < booking.next clock := by
  have below := Nat.lt_mul_div_succ (clock - booking.due) schedulerPeriod_pos
  rw [Nat.mul_comm] at below
  unfold next
  omega

theorem next_due (booking : Booking) : booking.next booking.due = booking.due + Config.schedulerPeriod := by
  simp [next]

theorem next_succ_of_lt (elapsed : booking.due ≤ clock) (later : clock + 1 < booking.next clock) :
    booking.next (clock + 1) = booking.next clock := by
  have period := Nat.div_mul_le_self (clock - booking.due) Config.schedulerPeriod
  unfold next at later ⊢
  have same : (clock + 1 - booking.due) / Config.schedulerPeriod =
      (clock - booking.due) / Config.schedulerPeriod := by
    apply Nat.div_eq_of_lt_le
    · omega
    · omega
  rw [same]

theorem next_succ_of_eq (elapsed : booking.due ≤ clock) (now : booking.next clock = clock + 1) :
    booking.next (clock + 1) = clock + 1 + Config.schedulerPeriod := by
  unfold next at now ⊢
  have passed : clock + 1 - booking.due =
      ((clock - booking.due) / Config.schedulerPeriod + 1) * Config.schedulerPeriod := by omega
  rw [passed, Nat.mul_div_cancel _ schedulerPeriod_pos, Nat.succ_mul]
  omega

/-- The next time has come exactly if whole periods have passed since the timer came due. -/
theorem next_eq_iff (elapsed : booking.due ≤ clock) :
    booking.next clock = clock + 1 ↔ Config.schedulerPeriod ∣ clock + 1 - booking.due := by
  constructor
  · intro now
    refine ⟨(clock - booking.due) / Config.schedulerPeriod + 1, ?_⟩
    unfold next at now
    rw [Nat.mul_comm]
    omega
  · rintro ⟨periods, whole⟩
    obtain ⟨before, rfl⟩ : ∃ before, periods = before + 1 :=
      Nat.exists_eq_succ_of_ne_zero (by rintro rfl; omega)
    have split : Config.schedulerPeriod * (before + 1) = (before + 1) * Config.schedulerPeriod := Nat.mul_comm _ _
    have inner : (before + 1) * Config.schedulerPeriod = before * Config.schedulerPeriod + Config.schedulerPeriod :=
      Nat.succ_mul _ _
    have positive := schedulerPeriod_pos
    have quotient : (clock - booking.due) / Config.schedulerPeriod = before := by
      apply Nat.div_eq_of_lt_le
      · omega
      · omega
    unfold next
    rw [quotient]
    omega

theorem standing_succ (made : booking.clock ≤ clock) :
    (booking.standing clock).bind (passed (clock + 1)) = booking.standing (clock + 1) := by
  rcases Nat.lt_or_ge clock booking.due with early | elapsed
  · have due := isDue_of_early made early
    rw [standing_early early, Option.bind_some]
    by_cases now : booking.due = clock + 1
    · have late : booking.due ≤ clock + 1 := Nat.le_of_eq now
      rw [decide_eq_true now] at due
      cases scheduling : booking.timer.isScheduling with
      | true =>
        have armed : booking.next (clock + 1) = clock + 1 + Config.schedulerPeriod := by
          rw [← now, next_due]
        rw [standing_again late scheduling, armed]
        simp only [passed, due, scheduling, if_true, rearmed]
      | false =>
        rw [standing_over late scheduling]
        simp only [passed, due, scheduling, if_true, Bool.false_eq_true, if_false]
    · rw [decide_eq_false now] at due
      rw [passed_of_early due, standing_early (by omega)]
  · have late : booking.due ≤ clock + 1 := Nat.le_succ_of_le elapsed
    cases scheduling : booking.timer.isScheduling with
    | false => rw [standing_over elapsed scheduling, standing_over late scheduling, Option.bind_none]
    | true =>
      rw [standing_again elapsed scheduling, standing_again late scheduling, Option.bind_some]
      rcases Nat.lt_or_eq_of_le (lt_next elapsed) with later | now
      · rw [next_succ_of_lt elapsed later]
        exact passed_of_early (decide_eq_false (Nat.not_le.mpr later))
      · have due : Timer.isDue (clock + 1) ⟨booking.next clock, Config.schedulerTag⟩ = true :=
          decide_eq_true (Nat.le_of_eq now.symm)
        rw [next_succ_of_eq elapsed now.symm, passed, due, if_pos rfl]
        rfl

/-- A booking tells the event loop of its timer at the tick at which it comes due. -/
theorem standing_expires (made : booking.clock ≤ clock) :
    (booking.standing clock).filter (expires (clock + 1)) =
      if booking.ringsAt (clock + 1) = true then some booking.timer else none := by
  rcases Nat.lt_or_ge clock booking.due with early | elapsed
  · rw [standing_early early, Option.filter_some, expires, isDue_of_early made early, ringsAt]
    rfl
  · have past : booking.ringsAt (clock + 1) = false := by
      have missed : (booking.due == clock + 1) = false := by
        rw [beq_eq_false_iff_ne]
        omega
      rw [ringsAt, missed, Bool.false_and]
    rw [past, if_neg Bool.false_ne_true]
    cases scheduling : booking.timer.isScheduling with
    | false => rw [standing_over elapsed scheduling, Option.filter_none]
    | true =>
      rw [standing_again elapsed scheduling, Option.filter_some]
      exact if_neg (by simp [expires, isScheduling])

/-- A booking asks for a switch whole periods after it came due. -/
theorem standing_strikes (made : booking.clock ≤ clock) :
    (∃ timer, booking.standing clock = some timer ∧ timer.strikes (clock + 1) = true) ↔
      booking.StrikesAt (clock + 1) := by
  rcases Nat.lt_or_ge clock booking.due with early | elapsed
  · have due := isDue_of_early made early
    simp only [standing_early early, Option.some.injEq, exists_eq_left', strikes, due, Bool.and_eq_true,
      decide_eq_true_eq, StrikesAt]
    constructor
    · rintro ⟨now, scheduling⟩
      refine ⟨scheduling, Nat.le_of_eq now, ?_⟩
      rw [now, Nat.sub_self]
      exact Nat.dvd_zero _
    · rintro ⟨scheduling, late, _⟩
      exact ⟨by omega, scheduling⟩
  · cases scheduling : booking.timer.isScheduling with
    | false => simp [standing_over elapsed scheduling, StrikesAt, scheduling]
    | true =>
      have later := lt_next elapsed
      have due : Timer.strikes (clock + 1) ⟨booking.next clock, Config.schedulerTag⟩ =
          decide (booking.next clock ≤ clock + 1) := by simp [strikes, isDue, isScheduling]
      simp only [standing_again elapsed scheduling, Option.some.injEq, exists_eq_left', due,
        decide_eq_true_eq, StrikesAt,
        scheduling, true_and, ← next_eq_iff elapsed]
      constructor
      · intro come
        exact ⟨Nat.le_succ_of_le elapsed, by omega⟩
      · rintro ⟨_, now⟩
        exact Nat.le_of_eq now

end Booking

end PriorityKernel
