import PriorityKernel.Config
import PriorityKernel.Record

namespace PriorityKernel

structure Timer where
  /-- The tick at which the timer comes due. -/
  timeout : Nat
  /-- The tag that the timer's message carries. -/
  value : Int
  deriving DecidableEq, Repr

namespace Timer

/-- Earlier timeouts come first; the tag breaks ties. -/
instance : LE Timer where
  le first second :=
    first.timeout < second.timeout ∨ first.timeout = second.timeout ∧ first.value ≤ second.value

instance (first second : Timer) : Decidable (first ≤ second) :=
  inferInstanceAs (Decidable (_ ∨ _))

/-- How two timers compare in the order of the queue. -/
def order (first second : Timer) : Ordering :=
  if first = second then .eq else if first ≤ second then .lt else .gt

/-- Puts a timer in its place of an ordered list. -/
def insert (timer : Timer) : List Timer → List Timer
  | [] => [timer]
  | head :: rest => if timer ≤ head then timer :: head :: rest else head :: insert timer rest

def sort (timers : List Timer) : List Timer := timers.foldr insert []

/-- The timer that never comes due. -/
def sentinel : Timer := ⟨Config.lastTick, Config.sentinelTag⟩

def isScheduling (timer : Timer) : Bool := timer.value == Config.schedulerTag

def written (timer : Timer) : String :=
  Record.fields "Timer" [("timeout", toString timer.timeout), ("value", toString timer.value)]

end Timer

structure TimerQueue where
  /-- The timers that have not come due, in order. -/
  waiting : List Timer
  clock : Nat
  deriving DecidableEq, Repr

structure Tick where
  /-- The ordinary timers that came due, in order. -/
  expired : List Timer
  /-- Whether a scheduling timer came due. -/
  switchDue : Bool
  queue : TimerQueue
  deriving DecidableEq, Repr

namespace TimerQueue

def empty : TimerQueue := ⟨[Timer.sentinel], 0⟩

def add (queue : TimerQueue) (timer : Timer) : TimerQueue :=
  { queue with waiting := Timer.insert timer queue.waiting }

/-- Timers still waiting, the sentinel included. -/
def pending (queue : TimerQueue) : Nat := queue.waiting.length

/-- Takes out the timers that are due, at most `rounds` of them. What is armed again lies in the
future, so as many rounds as there are timers leave nothing due. -/
def drain : Nat → TimerQueue → Tick
  | 0, queue => ⟨[], false, queue⟩
  | rounds + 1, queue =>
    match queue.waiting with
    | [] => ⟨[], false, queue⟩
    | timer :: rest =>
      if queue.clock < timer.timeout then ⟨[], false, queue⟩
      else
        let taken := { queue with waiting := rest }
        if timer.isScheduling then
          let again : Timer := ⟨queue.clock + Config.schedulerPeriod, Config.schedulerTag⟩
          { drain rounds (taken.add again) with switchDue := true }
        else
          let later := drain rounds taken
          { later with expired := timer :: later.expired }

/-- Advances the clock by one tick and takes out everything that is due. -/
def tick (queue : TimerQueue) : Tick :=
  drain queue.waiting.length { queue with clock := queue.clock + 1 }

end TimerQueue

end PriorityKernel
