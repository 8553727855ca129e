import PriorityKernel.Proofs.Timers.Bookings

namespace PriorityKernel

open Timer Booking

namespace TimerCall

/-- The ticks among some calls. -/
def ticks (calls : List TimerCall) : Nat := calls.count .tick

/-- The timers added by calls that begin at a clock. -/
def bookings : Nat → List TimerCall → List Booking
  | _, [] => []
  | clock, .add timer :: rest => ⟨timer, clock⟩ :: bookings clock rest
  | clock, .tick :: rest => bookings (clock + 1) rest

@[simp] theorem ticks_add (timer : Timer) (rest : List TimerCall) : ticks (.add timer :: rest) = ticks rest :=
  List.count_cons_of_ne (by simp)

@[simp] theorem ticks_tick (rest : List TimerCall) : ticks (.tick :: rest) = ticks rest + 1 := List.count_cons_self

theorem made_of_mem {calls : List TimerCall} {clock : Nat} {booking : Booking}
    (member : booking ∈ bookings clock calls) : clock ≤ booking.clock := by
  induction calls generalizing clock with
  | nil => cases member
  | cons call rest ih =>
    cases call with
    | add timer =>
      rcases List.mem_cons.mp member with rfl | later
      · exact Nat.le_refl _
      · exact ih later
    | tick => exact Nat.le_of_succ_le (ih member)

end TimerCall

open TimerCall

/-- A timer that the event loop was told of, with the number of the tick. -/
structure Delivery where
  tick : Nat
  timer : Timer
  deriving DecidableEq, Repr

namespace Delivery

/-- Deliveries come tick after tick, and those of one tick in the order of their timers. -/
def Sooner (first second : Delivery) : Prop :=
  first.tick < second.tick ∨ first.tick = second.tick ∧ first.timer ≤ second.timer

instance : Std.Antisymm Sooner where
  antisymm first second := by
    rintro (before | ⟨same, forward⟩) (after | ⟨_, backward⟩)
    · omega
    · omega
    · omega
    · obtain ⟨tick, timer⟩ := first
      obtain ⟨other, later⟩ := second
      have ticks : tick = other := same
      have timers : timer = later := antisymm forward backward
      rw [ticks, timers]

end Delivery

/-- The delivery of a booked timer. -/
def Booking.delivery (booking : Booking) : Delivery := ⟨booking.due, booking.timer⟩

/-- Whether a timer is told of after one clock and not after another. -/
def Booking.ringsBetween (first last : Nat) (booking : Booking) : Bool :=
  first < booking.due && booking.due ≤ last && !booking.timer.isScheduling

section

variable {booking : Booking} {last clock : Nat}

theorem due_of_later {calls : List TimerCall} (member : booking ∈ bookings clock calls) : clock < booking.due :=
  Nat.lt_of_lt_of_le (Nat.lt_succ_of_le (made_of_mem member)) (Nat.le_max_right ..)

theorem due_of_ringsAt (rings : booking.ringsAt clock = true) : booking.due = clock := by
  simp only [ringsAt, Bool.and_eq_true, beq_iff_eq] at rings
  exact rings.1

theorem ringsBetween_now : (ringsAt (clock + 1) booking && ringsBetween clock (clock + 1 + last) booking) =
    ringsAt (clock + 1) booking := by
  rw [Bool.eq_iff_iff]
  simp only [ringsAt, ringsBetween, Bool.and_eq_true, beq_iff_eq, decide_eq_true_eq]
  constructor
  · exact fun both => both.1
  · exact fun now => ⟨now, ⟨by omega, by omega⟩, now.2⟩

theorem ringsBetween_later : (!ringsAt (clock + 1) booking && ringsBetween clock (clock + 1 + last) booking) =
    ringsBetween (clock + 1) (clock + 1 + last) booking := by
  rw [Bool.eq_iff_iff]
  simp only [ringsAt, ringsBetween, Bool.and_eq_true, Bool.not_eq_true', Bool.and_eq_false_iff, beq_eq_false_iff_ne,
    decide_eq_true_eq]
  constructor
  · rintro ⟨other | silent, ⟨after, before⟩, ordinary⟩
    · exact ⟨⟨by omega, before⟩, ordinary⟩
    · rw [ordinary] at silent
      cases silent
  · rintro ⟨⟨after, before⟩, ordinary⟩
    exact ⟨Or.inl (by omega), ⟨by omega, before⟩, ordinary⟩

theorem filter_ringsAt_later (clock : Nat) (calls : List TimerCall) :
    (bookings clock calls).filter (ringsAt clock) = [] := by
  refine List.filter_eq_nil_iff.mpr fun booking member rings => ?_
  have later := due_of_later member
  have now := due_of_ringsAt rings
  omega

end

namespace TimerQueue

def perform (queue : TimerQueue) : TimerCall → TimerQueue
  | .add timer => queue.add timer
  | .tick => queue.tick.queue

/-- The queue after some calls. -/
def after (queue : TimerQueue) (calls : List TimerCall) : TimerQueue := calls.foldl perform queue

/-- What the event loop is told during some calls, in order. -/
def told (queue : TimerQueue) : List TimerCall → List Delivery
  | [] => []
  | .add timer :: rest => (queue.add timer).told rest
  | .tick :: rest => queue.tick.expired.map (Delivery.mk (queue.clock + 1)) ++ queue.tick.queue.told rest

/-- What each tick among some calls answers, in order. -/
def answers (queue : TimerQueue) : List TimerCall → List Bool
  | [] => []
  | .add timer :: rest => (queue.add timer).answers rest
  | .tick :: rest => queue.tick.switchDue :: queue.tick.queue.answers rest

/-! ### What a queue keeps -/

/-- The queue holds what stands for some bookings. -/
structure Keeps (queue : TimerQueue) (booked : List Booking) : Prop where
  ordered : queue.Ordered
  waiting : queue.waiting.Perm (booked.filterMap (standing queue.clock))
  /-- The bookings were made before. -/
  made : ∀ booking ∈ booked, booking.clock ≤ queue.clock

variable {queue : TimerQueue} {booked : List Booking}

theorem empty_keeps : empty.Keeps [⟨sentinel, 0⟩] where
  ordered := empty_ordered
  waiting := List.Perm.refl _
  made := by simp

theorem tick_clock (ordered : queue.Ordered) : queue.tick.queue.clock = queue.clock + 1 := ordered.tick.clock

theorem Keeps.add (keeps : queue.Keeps booked) (timer : Timer) :
    (queue.add timer).Keeps (booked ++ [⟨timer, queue.clock⟩]) where
  ordered := keeps.ordered.add timer
  waiting := by
    have early : queue.clock < (Booking.mk timer queue.clock).due :=
      Nat.lt_of_lt_of_le (Nat.lt_succ_self _) (Nat.le_max_right ..)
    have stands : [Booking.mk timer queue.clock].filterMap (standing queue.clock) = [timer] := by
      rw [List.filterMap_cons_some (standing_early early), List.filterMap_nil]
    show (queue.add timer).waiting.Perm ((booked ++ [Booking.mk timer queue.clock]).filterMap (standing queue.clock))
    rw [List.filterMap_append, stands]
    exact ((add_perm queue timer).trans (keeps.waiting.cons timer)).trans (List.perm_append_singleton _ _).symm
  made := by
    intro booking member
    rcases List.mem_append.mp member with before | new
    · exact keeps.made booking before
    · rw [List.mem_singleton.mp new]
      exact Nat.le_refl _

theorem Keeps.tick (keeps : queue.Keeps booked) : queue.tick.queue.Keeps booked where
  ordered := keeps.ordered.tick.ordered
  waiting := by
    have passes : (booked.filterMap (standing queue.clock)).filterMap (passed (queue.clock + 1)) =
        booked.filterMap (standing (queue.clock + 1)) := by
      rw [List.filterMap_filterMap]
      exact List.filterMap_congr fun booking member => standing_succ (keeps.made booking member)
    rw [tick_clock keeps.ordered, ← passes]
    exact keeps.ordered.tick.waiting.trans (keeps.waiting.filterMap _)
  made := by
    intro booking member
    rw [tick_clock keeps.ordered]
    exact Nat.le_succ_of_le (keeps.made booking member)

theorem Keeps.expired (keeps : queue.Keeps booked) :
    queue.tick.expired.Perm ((booked.filter (ringsAt (queue.clock + 1))).map (·.timer)) := by
  have rings : (booked.filterMap (standing queue.clock)).filter (expires (queue.clock + 1)) =
      (booked.filter (ringsAt (queue.clock + 1))).map (·.timer) := by
    rw [List.filter_filterMap, List.filterMap_congr fun booking member => standing_expires (keeps.made booking member),
      ← List.filterMap_filter, List.filterMap_eq_map']
  rw [keeps.ordered.tick.expired, ← rings]
  exact keeps.waiting.filter _

theorem Ordered.expired (ordered : queue.Ordered) : queue.tick.expired.Pairwise (· ≤ ·) := by
  rw [ordered.tick.expired]
  exact List.Pairwise.filter _ ordered

theorem Keeps.switchDue (keeps : queue.Keeps booked) :
    queue.tick.switchDue = true ↔ ∃ booking ∈ booked, booking.StrikesAt (queue.clock + 1) := by
  rw [keeps.ordered.tick.switchDue]
  show queue.waiting.any (strikes (queue.clock + 1)) = true ↔ _
  rw [keeps.waiting.any_eq, List.any_eq_true]
  simp only [List.mem_filterMap]
  constructor
  · rintro ⟨timer, ⟨booking, member, stands⟩, strikes⟩
    exact ⟨booking, member, (standing_strikes (keeps.made booking member)).mp ⟨timer, stands, strikes⟩⟩
  · rintro ⟨booking, member, due⟩
    obtain ⟨timer, stands, strikes⟩ := (standing_strikes (keeps.made booking member)).mpr due
    exact ⟨timer, ⟨booking, member, stands⟩, strikes⟩

/-! ### What a sequence of calls does -/

theorem Keeps.after (keeps : queue.Keeps booked) (calls : List TimerCall) :
    (queue.after calls).Keeps (booked ++ bookings queue.clock calls) ∧
      (queue.after calls).clock = queue.clock + ticks calls := by
  induction calls generalizing queue booked with
  | nil =>
    rw [bookings, List.append_nil]
    exact ⟨keeps, rfl⟩
  | cons call rest ih =>
    cases call with
    | add timer =>
      obtain ⟨kept, clock⟩ := ih (keeps.add timer)
      rw [List.append_assoc] at kept
      exact ⟨kept, by rw [ticks_add]; exact clock⟩
    | tick =>
      obtain ⟨kept, clock⟩ := ih keeps.tick
      rw [tick_clock keeps.ordered] at kept clock
      refine ⟨kept, ?_⟩
      rw [ticks_tick, ← Nat.add_assoc, Nat.add_right_comm]
      exact clock

theorem empty_after_keeps (calls : List TimerCall) :
    (empty.after calls).Keeps (⟨Timer.sentinel, 0⟩ :: bookings 0 calls) := (empty_keeps.after calls).1

@[simp] theorem empty_after_clock (calls : List TimerCall) : (empty.after calls).clock = ticks calls :=
  (empty_keeps.after calls).2.trans (Nat.zero_add _)

/-- What the event loop is told during some calls: each ordinary timer that comes due in the course of
them, once for each time it was booked, at the tick at which it comes due. -/
theorem Keeps.told (keeps : queue.Keeps booked) (calls : List TimerCall) :
    (queue.told calls).Perm (((booked ++ bookings queue.clock calls).filter
      (ringsBetween queue.clock (queue.clock + ticks calls))).map Booking.delivery) := by
  induction calls generalizing queue booked with
  | nil =>
    rw [List.filter_eq_nil_iff.mpr fun booking _ => ?_]
    · exact List.Perm.refl _
    · show ¬ringsBetween queue.clock (queue.clock + 0) booking = true
      simp only [ringsBetween, Bool.and_eq_true, decide_eq_true_eq]
      omega
  | cons call rest ih =>
    cases call with
    | add timer =>
      have later := ih (keeps.add timer)
      rw [List.append_assoc] at later
      rw [ticks_add]
      exact later
    | tick =>
      have later := ih keeps.tick
      rw [tick_clock keeps.ordered] at later
      have span : queue.clock + ticks (.tick :: rest) = queue.clock + 1 + ticks rest := by
        rw [ticks_tick]
        omega
      -- some bookings ring at this tick, and the others of this span at a later one
      have parts := List.filter_append_perm (ringsAt (queue.clock + 1))
        ((booked ++ bookings (queue.clock + 1) rest).filter (ringsBetween queue.clock (queue.clock + 1 + ticks rest)))
      simp only [List.filter_filter, ringsBetween_now, ringsBetween_later] at parts
      have now : queue.tick.expired.map (Delivery.mk (queue.clock + 1)) |>.Perm
          (((booked ++ bookings (queue.clock + 1) rest).filter (ringsAt (queue.clock + 1))).map Booking.delivery) := by
        rw [List.filter_append, filter_ringsAt_later, List.append_nil]
        refine (keeps.expired.map _).trans (List.Perm.of_eq ?_)
        rw [List.map_map]
        refine List.map_congr_left fun booking member => ?_
        rw [delivery, due_of_ringsAt (List.of_mem_filter member)]
        rfl
      rw [span]
      refine (now.append later).trans ?_
      rw [← List.map_append]
      exact parts.map _

theorem told_sooner (ordered : queue.Ordered) (calls : List TimerCall) :
    (queue.told calls).Pairwise Delivery.Sooner ∧ ∀ delivery ∈ queue.told calls, queue.clock < delivery.tick := by
  induction calls generalizing queue with
  | nil => exact ⟨.nil, by simp [told]⟩
  | cons call rest ih =>
    cases call with
    | add timer => exact ih (ordered.add timer)
    | tick =>
      obtain ⟨sooner, later⟩ := ih ordered.tick.ordered
      rw [tick_clock ordered] at later
      have now : ∀ delivery ∈ queue.tick.expired.map (Delivery.mk (queue.clock + 1)),
          delivery.tick = queue.clock + 1 := by
        intro delivery member
        obtain ⟨timer, _, rfl⟩ := List.mem_map.mp member
        rfl
      constructor
      · refine List.pairwise_append.mpr ⟨List.pairwise_map.mpr ?_, sooner, ?_⟩
        · exact ordered.expired.imp fun before => Or.inr ⟨rfl, before⟩
        · intro first member second after
          rw [Delivery.Sooner, now first member]
          exact Or.inl (later second after)
      · intro delivery member
        rcases List.mem_append.mp member with first | after
        · rw [now delivery first]
          exact Nat.lt_succ_self _
        · exact Nat.lt_of_succ_lt (later delivery after)

theorem answers_length (queue : TimerQueue) (calls : List TimerCall) : (queue.answers calls).length = ticks calls := by
  induction calls generalizing queue with
  | nil => rfl
  | cons call rest ih =>
    cases call with
    | add timer => rw [ticks_add, ← ih (queue.add timer)]; rfl
    | tick => rw [ticks_tick, ← ih queue.tick.queue]; rfl

theorem Keeps.answers (keeps : queue.Keeps booked) (calls : List TimerCall) {number : Nat} {answer : Bool}
    (answered : (queue.answers calls)[number]? = some answer) :
    answer = true ↔ ∃ booking ∈ booked ++ bookings queue.clock calls,
      booking.StrikesAt (queue.clock + 1 + number) := by
  induction calls generalizing queue booked number with
  | nil => cases answered
  | cons call rest ih =>
    cases call with
    | add timer =>
      have later := ih (keeps.add timer) answered
      rw [List.append_assoc] at later
      exact later
    | tick =>
      cases number with
      | zero =>
        cases answered
        refine keeps.switchDue.trans ⟨?_, ?_⟩
        · rintro ⟨booking, member, strikes⟩
          exact ⟨booking, List.mem_append_left _ member, strikes⟩
        · rintro ⟨booking, member, strikes⟩
          rcases List.mem_append.mp member with before | after
          · exact ⟨booking, before, strikes⟩
          · exact absurd strikes.2.1 (Nat.not_le.mpr (due_of_later after))
      | succ number =>
        have later := ih keeps.tick answered
        rw [tick_clock keeps.ordered, Nat.add_assoc (queue.clock + 1), Nat.add_comm 1] at later
        exact later

/-- An ordinary timer that has not come due waits, and so does every scheduling timer. -/
theorem Keeps.pending (keeps : queue.Keeps booked) : queue.pending =
    booked.countP (fun booking => queue.clock < booking.due && !booking.timer.isScheduling) +
      booked.countP (·.timer.isScheduling) := by
  have stands : ∀ booking : Booking, (booking.standing queue.clock).isSome =
      (decide (queue.clock < booking.due) || booking.timer.isScheduling) := by
    intro booking
    unfold Booking.standing
    by_cases early : queue.clock < booking.due
    · simp [early]
    · cases scheduling : booking.timer.isScheduling with
      | true => simp [early]
      | false => simp [early]
  rw [TimerQueue.pending, keeps.waiting.length_eq, List.length_filterMap_eq_countP,
    List.countP_eq_countP_filter_add _ _ (·.timer.isScheduling), Nat.add_comm, List.countP_filter, List.countP_filter]
  simp only [stands]
  congr 1
  · refine List.countP_congr fun booking _ => ?_
    cases booking.timer.isScheduling <;> simp
  · refine List.countP_congr fun booking _ => ?_
    cases booking.timer.isScheduling <;> simp

end TimerQueue

end PriorityKernel
