import PriorityKernel.Proofs.Timers.Calls
import PriorityKernel.Proofs.Timers.Rhythm

namespace PriorityKernel

open TimerCall Booking

namespace Booking

variable {booking : Booking} {clock : Nat}

/-- What stands for a scheduling timer is a scheduling timer, and nothing else is. -/
theorem standing_scheduling (clock : Nat) (booking : Booking) :
    (booking.standing clock).filter Timer.isScheduling =
      if booking.timer.isScheduling = true then booking.standing clock else none := by
  rcases Nat.lt_or_ge clock booking.due with early | elapsed
  · rw [standing_early early, Option.filter_some]
  · cases scheduling : booking.timer.isScheduling with
    | true =>
      rw [standing_again elapsed scheduling, Option.filter_some]
      rfl
    | false => rw [standing_over elapsed scheduling, Option.filter_none, if_neg Bool.false_ne_true]

theorem standing_isSome (scheduling : booking.timer.isScheduling = true) :
    (booking.standing clock).isSome = true := by
  rcases Nat.lt_or_ge clock booking.due with early | elapsed
  · rw [standing_early early, Option.isSome_some]
  · rw [standing_again elapsed scheduling, Option.isSome_some]

end Booking

namespace TimerQueue

variable {queue : TimerQueue} {booked : List Booking}

/-- The scheduling timers that wait are those that were booked, each in its place. -/
theorem Keeps.scheduling (keeps : queue.Keeps booked) : (queue.waiting.filter Timer.isScheduling).Perm
    ((booked.filter (·.timer.isScheduling)).filterMap (standing queue.clock)) := by
  have stands : (booked.filterMap (standing queue.clock)).filter Timer.isScheduling =
      (booked.filter (·.timer.isScheduling)).filterMap (standing queue.clock) := by
    rw [List.filter_filterMap, List.filterMap_congr fun booking _ => standing_scheduling queue.clock booking,
      ← List.filterMap_filter]
  rw [← stands]
  exact keeps.waiting.filter _

theorem Keeps.scheduling_count (keeps : queue.Keeps booked) :
    queue.waiting.countP Timer.isScheduling = booked.countP (·.timer.isScheduling) := by
  rw [List.countP_eq_length_filter, keeps.scheduling.length_eq, List.length_filterMap_eq_countP,
    List.countP_eq_length.mpr, List.countP_eq_length_filter]
  intro booking member
  exact standing_isSome (List.mem_filter.mp member).2

/-- The loop of a tick ends, and in one way only. -/
theorem drains_tick_iff (queue : TimerQueue) (last : Tick) :
    Drains { queue with clock := queue.clock + 1 } last ↔ last = queue.tick := by
  constructor
  · exact fun run => run.eq_drain List.countP_le_length
  · rintro rfl
    exact drains_tick queue

theorem told_ordinary (ordered : queue.Ordered) (calls : List TimerCall) :
    ∀ delivery ∈ queue.told calls, delivery.timer.isScheduling = false := by
  induction calls generalizing queue with
  | nil => simp [told]
  | cons call rest ih =>
    cases call with
    | add timer => exact ih (ordered.add timer)
    | tick =>
      refine List.forall_mem_append.mpr ⟨List.forall_mem_map.mpr fun timer member => ?_, ih ordered.tick.ordered⟩
      rw [ordered.tick.expired] at member
      have expires := List.of_mem_filter member
      simp only [Timer.expires, Bool.and_eq_true, Bool.not_eq_true'] at expires
      exact expires.2

end TimerQueue

/-- Only a scheduling timer has a message with its tag. -/
theorem Timer.message_ordinary {timer : Timer} (ordinary : timer.isScheduling = false) (timeout : Nat) :
    timer.message.kind ≠ .timerTimeout timeout Config.schedulerTag := by
  intro same
  have tag : timer.value = Config.schedulerTag := (MessageKind.timerTimeout.inj same).2
  rw [Timer.isScheduling, tag] at ordinary
  cases ordinary

namespace TimerCall

/-- Calls on new timers, made on a machine that nothing disturbs, all return, and the tick of a number
asks for a switch exactly if whole periods have passed since a scheduling timer came due. Each
scheduling timer that was added waits, either for its own timeout or armed again, and no message tells
of one. The loop of every tick ends. So in every run of a kernel each tick whose number is a number of
whole periods asks for a switch, whatever else was added. -/
theorem ticks_recur (calls : List TimerCall) :
    (∀ scope (machine : Machine), machine.Calm → machine.Undisturbed →
      machine.kernel.timers = TimerQueue.empty →
      ∃ replies after, KernelM.timerCalls calls scope machine = (.ok replies, after) ∧
        replies.length = ticks calls ∧
        (∀ number reply, replies[number]? = some reply →
          (reply = true ↔ ∃ booking ∈ bookings 0 calls, booking.StrikesAt (number + 1))) ∧
        after.kernel.timers = TimerQueue.empty.after calls ∧
        ∀ id, ∃ received, after.kernel.sched.mailbox id = machine.kernel.sched.mailbox id ++ received ∧
          ∀ message ∈ received, ∀ timeout, message.kind ≠ .timerTimeout timeout Config.schedulerTag) ∧
    ((TimerQueue.empty.after calls).waiting.filter Timer.isScheduling).Perm
      (((bookings 0 calls).filter (·.timer.isScheduling)).filterMap (standing (ticks calls))) ∧
    (TimerQueue.empty.after calls).waiting.countP Timer.isScheduling =
      (bookings 0 calls).countP (·.timer.isScheduling) ∧
    (∀ earlier later, calls = earlier ++ .tick :: later → ∀ last,
      TimerQueue.Drains { TimerQueue.empty.after earlier with clock := ticks earlier + 1 } last ↔
        last = (TimerQueue.empty.after earlier).tick) ∧
    ∀ (program : Program) machine, program.core = .kernel → program.Reaches machine →
      ∀ kernel ∈ machine.kernels,
      Config.schedulerPeriod ∣ kernel.timers.clock + 1 → ∀ scope (start : Machine), start.Calm →
        start.kernel.timers = kernel.timers → (KernelM.tick scope start).1 = .ok true := by
  have keeps := TimerQueue.empty_after_keeps calls
  have clock := TimerQueue.empty_after_clock calls
  have silent : ¬(Booking.mk Timer.sentinel 0).timer.isScheduling = true := by decide
  refine ⟨fun scope machine calm undisturbed new => ?_, ?_, ?_, fun earlier _ _ last => ?_, ?_⟩
  · obtain ⟨after, run, served⟩ := KernelM.run_timerCalls calm undisturbed scope calls
    rw [new] at run
    refine ⟨_, after, run, TimerQueue.answers_length _ calls, fun number reply answered => ?_, new ▸ served.timers,
      fun id => ⟨_, served.mailbox id, ?_⟩⟩
    · have recurs := TimerQueue.empty_keeps.answers calls answered
      rw [List.singleton_append, List.exists_mem_cons_iff] at recurs
      have span : TimerQueue.empty.clock + 1 + number = number + 1 := by
        rw [show TimerQueue.empty.clock = 0 from rfl, Nat.zero_add, Nat.add_comm]
      rw [span, or_iff_right fun strikes => silent strikes.1] at recurs
      exact recurs
    · split
      · intro message member timeout same
        obtain ⟨delivery, told, rfl⟩ := List.mem_map.mp member
        rw [new] at told
        exact Timer.message_ordinary
          (TimerQueue.told_ordinary TimerQueue.empty_ordered calls delivery told) timeout same
      · simp
  · have stands := keeps.scheduling
    rw [clock, List.filter_cons, if_neg silent] at stands
    exact stands
  · have count := keeps.scheduling_count
    rw [List.countP_cons, if_neg silent] at count
    exact count
  · have ends := TimerQueue.drains_tick_iff (TimerQueue.empty.after earlier) last
    rw [TimerQueue.empty_after_clock] at ends
    exact ends
  · intro program machine core reached kernel member whole scope start calm same
    rw [KernelM.tick_answer calm scope, same, (reached.rhythmic core kernel member).switchDue whole]

/-- Two scheduling timers out of phase, one of them overdue, among other timers. -/
def hurried : List TimerCall :=
  [.add ⟨4, Config.schedulerTag⟩, .add ⟨2, 3⟩, .tick, .tick, .add ⟨0, Config.schedulerTag⟩,
    .tick, .tick, .tick]

/-- A kernel whose user adds scheduling timers too. -/
def hurriedKernel : Program where
  core := .kernel
  filter := .standard
  memoryShort := false
  script := [.addTimer ⟨1, Config.schedulerTag⟩, .addTimer ⟨3, 5⟩, .tick 2,
    .addTimer ⟨0, Config.schedulerTag⟩,
    .timerInterrupt 1 []]

theorem hurried_ticks_recur :
    (∃ replies after, KernelM.timerCalls hurried ⟨0, fun _ machine => machine⟩
        (⟨.bare, .standard, false, [], .region⟩ : Program).fresh = (.ok replies, after) ∧ replies.length = 5 ∧
      after.kernel.timers.waiting.countP Timer.isScheduling = 2) ∧
    ∃ machine, hurriedKernel.Reaches machine ∧
      (KernelM.tick ⟨0, fun _ machine => machine⟩ machine).1 = .ok true := by
  obtain ⟨runs, _, count, _, kernels⟩ := ticks_recur hurried
  constructor
  · have fresh := (⟨.bare, .standard, false, [], .region⟩ : Program).fresh_calm
    obtain ⟨replies, after, run, length, _, timers, _⟩ :=
      runs ⟨0, fun _ machine => machine⟩ _ fresh (fun _ => rfl) rfl
    exact ⟨replies, after, run, length, by rw [timers, count]; decide⟩
  · have reached : hurriedKernel.Reaches _ := ⟨_, hurriedKernel.credit, rfl, rfl⟩
    exact ⟨_, reached, kernels _ _ rfl reached _ (List.mem_cons_self ..) (by decide +kernel) _ _ reached.calm rfl⟩

end TimerCall

end PriorityKernel
