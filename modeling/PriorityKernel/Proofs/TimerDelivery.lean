import PriorityKernel.Proofs.Timers.Calls

namespace PriorityKernel

open TimerCall Booking

namespace TimerQueue

variable {calls earlier : List TimerCall}

theorem sentinel_early (bound : ticks calls ≤ Config.lastTick - Config.schedulerPeriod) :
    ticks calls < (Booking.mk Timer.sentinel 0).due :=
  Nat.lt_of_le_of_lt bound (by decide)

/-- The event loop was told of the ordinary timers that have come due, of each once for each time that
it was added, and at the tick at which it came due. -/
theorem told_perm (bound : ticks calls ≤ Config.lastTick - Config.schedulerPeriod) :
    (empty.told calls).Perm (((bookings 0 calls).filter (ringsBetween 0 (ticks calls))).map delivery) := by
  have all := empty_keeps.told calls
  have silent : ¬ringsBetween 0 (ticks calls) ⟨Timer.sentinel, 0⟩ = true := by
    have early := sentinel_early bound
    simp only [ringsBetween, Bool.and_eq_true, decide_eq_true_eq]
    omega
  have clock : empty.clock + ticks calls = ticks calls := Nat.zero_add _
  rw [clock, List.singleton_append, show empty.clock = 0 from rfl, List.filter_cons_of_neg silent] at all
  exact all

/-- The order of the calls does not matter, as long as each timer is added at the same clock. -/
theorem told_unique {other : List TimerCall} (bound : ticks calls ≤ Config.lastTick - Config.schedulerPeriod)
    (span : ticks other = ticks calls) (same : (bookings 0 other).Perm (bookings 0 calls)) :
    empty.told other = empty.told calls := by
  have first := told_perm (span ▸ bound : ticks other ≤ Config.lastTick - Config.schedulerPeriod)
  rw [span] at first
  have second := (told_perm bound).symm
  exact (first.trans (((same.filter _).map _).trans second)).eq_of_pairwise' (told_sooner empty_ordered other).1
    (told_sooner empty_ordered calls).1

/-- A tick tells the event loop of the ordinary timers that come due at it. -/
theorem after_tick_expired (bound : ticks earlier < Config.lastTick - Config.schedulerPeriod) :
    (empty.after earlier).tick.expired.Perm
      (((bookings 0 earlier).filter (ringsAt (ticks earlier + 1))).map (·.timer)) := by
  have rung := (empty_after_keeps earlier).expired
  have silent : ¬ringsAt (ticks earlier + 1) ⟨Timer.sentinel, 0⟩ = true := by
    intro rings
    have now := due_of_ringsAt rings
    have never : (Booking.mk Timer.sentinel 0).due = Config.lastTick := rfl
    have positive := Timer.schedulerPeriod_pos
    omega
  rw [empty_after_clock, List.filter_cons_of_neg silent] at rung
  exact rung

theorem after_pending (bound : ticks calls ≤ Config.lastTick - Config.schedulerPeriod) :
    (empty.after calls).pending =
      1 + (bookings 0 calls).countP (fun booking => ticks calls < booking.due && !booking.timer.isScheduling) +
        (bookings 0 calls).countP (·.timer.isScheduling) := by
  have count := (empty_after_keeps calls).pending
  have early := sentinel_early bound
  have ordinary : Timer.sentinel.isScheduling = false := by decide
  rw [empty_after_clock, List.countP_cons_of_pos (by simp [early, ordinary]),
    List.countP_cons_of_neg (by simp [ordinary])] at count
  rw [count, Nat.add_comm 1]

theorem sentinel_waits (bound : ticks calls ≤ Config.lastTick - Config.schedulerPeriod) :
    Timer.sentinel ∈ (empty.after calls).waiting := by
  rw [(empty_after_keeps calls).waiting.mem_iff, empty_after_clock, List.mem_filterMap]
  exact ⟨⟨Timer.sentinel, 0⟩, List.mem_cons_self .., standing_early (sentinel_early bound)⟩

end TimerQueue

namespace TimerCall

open TimerQueue

/-- Calls on new timers, as long as the clock can count, made on a machine that nothing disturbs. All
of them return; the event loop finds a message for each ordinary timer that has come due, once for each
time that it was added, and nobody else finds any. The message comes at the tick at which the timer
comes due, among those of the same tick in the order of the timers, whatever the order was in which
they were added. The sentinel waits, and so do the ordinary timers that have not come due and the
scheduling timers. -/
theorem timers_delivered (calls : List TimerCall)
    (bound : ticks calls ≤ Config.lastTick - Config.schedulerPeriod) :
    (∀ scope (machine : Machine), machine.Calm → machine.Undisturbed →
      machine.kernel.timers = TimerQueue.empty →
      (∃ after, KernelM.timerCalls calls scope machine = (.ok (TimerQueue.empty.answers calls), after) ∧
        after.kernel.timers = TimerQueue.empty.after calls ∧
        ∀ id, after.kernel.sched.mailbox id = machine.kernel.sched.mailbox id ++
          if id = TaskId.eventLoop then (TimerQueue.empty.told calls).map (·.timer.message) else []) ∧
      ∀ earlier later, calls = earlier ++ .tick :: later → ∃ rung : List Timer,
        (KernelM.tick scope (KernelM.timerCalls earlier scope machine).2).2.kernel.sched.mailbox TaskId.eventLoop =
          (KernelM.timerCalls earlier scope machine).2.kernel.sched.mailbox TaskId.eventLoop ++
            rung.map Timer.message ∧
        rung.Pairwise (· ≤ ·) ∧
        rung.Perm (((bookings 0 earlier).filter (ringsAt (ticks earlier + 1))).map (·.timer))) ∧
    (TimerQueue.empty.told calls).Perm (((bookings 0 calls).filter (ringsBetween 0 (ticks calls))).map delivery) ∧
    (TimerQueue.empty.told calls).Pairwise Delivery.Sooner ∧
    (∀ other, ticks other = ticks calls → (bookings 0 other).Perm (bookings 0 calls) →
      TimerQueue.empty.told other = TimerQueue.empty.told calls) ∧
    Timer.sentinel ∈ (TimerQueue.empty.after calls).waiting ∧
    (TimerQueue.empty.after calls).pending =
      1 + (bookings 0 calls).countP (fun booking => ticks calls < booking.due && !booking.timer.isScheduling) +
        (bookings 0 calls).countP (·.timer.isScheduling) := by
  refine ⟨fun scope machine calm undisturbed new => ⟨?_, fun earlier later whole => ?_⟩, told_perm bound,
    (told_sooner empty_ordered calls).1, fun other span same => told_unique bound span same, sentinel_waits bound,
    after_pending bound⟩
  · obtain ⟨after, run, served⟩ := KernelM.run_timerCalls calm undisturbed scope calls
    rw [new] at run
    exact ⟨after, run, new ▸ served.timers, new ▸ served.mailbox⟩
  · obtain ⟨before, run, served⟩ := KernelM.run_timerCalls calm undisturbed scope earlier
    have timers : before.kernel.timers = TimerQueue.empty.after earlier := new ▸ served.timers
    have span : ticks earlier < ticks calls := by
      rw [whole, ticks, ticks, List.count_append, List.count_cons_self]
      omega
    refine ⟨before.kernel.timers.tick.expired, ?_, ?_, ?_⟩
    · have told := served.calm.sound.notified_mailbox before.kernel.timers.tick.expired TaskId.eventLoop
      rw [run, KernelM.run_tick served.calm served.undisturbed, Machine.ticked_eq]
      exact told
    · rw [timers]
      exact (empty_after_keeps earlier).ordered.expired
    · rw [timers]
      exact after_tick_expired (Nat.lt_of_lt_of_le span bound)

/-- A timer added twice, one that is overdue, a scheduling timer, and two of one tick in reverse order. -/
def booked : List TimerCall :=
  [.add ⟨3, 9⟩, .add ⟨3, -9⟩, .tick, .tick, .add ⟨1, 5⟩, .add ⟨3, 9⟩,
    .add ⟨0, Config.schedulerTag⟩, .tick, .tick]

/-- A machine with nothing but a scheduler and timers that nobody has used. -/
def bareProgram : Program where
  core := .bare
  filter := .standard
  memoryShort := false
  script := []

theorem booked_delivered : ticks booked ≤ Config.lastTick - Config.schedulerPeriod ∧
    (∃ after, KernelM.timerCalls booked ⟨0, fun _ machine => machine⟩ bareProgram.fresh =
        (.ok (TimerQueue.empty.answers booked), after) ∧
      after.kernel.sched.mailbox TaskId.eventLoop =
        [⟨0, .timerTimeout 1 5⟩, ⟨0, .timerTimeout 3 (-9)⟩, ⟨0, .timerTimeout 3 9⟩,
          ⟨0, .timerTimeout 3 9⟩]) ∧
    (TimerQueue.empty.after booked).pending = 2 := by
  have bound : ticks booked ≤ Config.lastTick - Config.schedulerPeriod := by decide
  obtain ⟨runs, _, _, _, _, pending⟩ := timers_delivered booked bound
  obtain ⟨⟨after, run, _, mailbox⟩, _⟩ := runs ⟨0, fun _ machine => machine⟩ bareProgram.fresh
    bareProgram.fresh_calm (fun _ => rfl) rfl
  refine ⟨bound, ⟨after, run, ?_⟩, pending.trans (by decide)⟩
  rw [mailbox]
  decide

end TimerCall

end PriorityKernel
