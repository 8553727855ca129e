import PriorityKernel.Proofs.Machine.History
import PriorityKernel.Proofs.Machine.Undisturbed
import PriorityKernel.Proofs.Timers.Histories

namespace PriorityKernel

open Machine

namespace Machine

variable {machine : Machine}

theorem timers_of_mem_sectionEntries {α : Type} {outcome : Outcome α} {entry : Entry}
    (member : entry ∈ machine.sectionEntries outcome) : entry.kernel.timers = machine.kernel.timers := by
  rcases List.mem_append.mp member with did | logged
  · obtain ⟨deed, _, rfl⟩ := List.mem_map.mp did
    rfl
  · obtain ⟨notice, _, rfl⟩ := List.mem_map.mp logged
    rfl

theorem operate_timers (machine : Machine) (operation : Operation) :
    (machine.operate operation).kernel.timers = machine.kernel.timers ∧
      ∃ added, (machine.operate operation).trace = added ++ machine.trace ∧
        ∀ entry ∈ added, entry.kernel.timers = machine.kernel.timers := by
  have inside : ∀ entry ∈ ({ machine with kernel.sched := (operation.outcome machine.kernel.sched).next }.hold
      .scheduler).sectionEntries (operation.outcome machine.kernel.sched),
      entry.kernel.timers = machine.kernel.timers := fun entry member =>
    (timers_of_mem_sectionEntries member).trans rfl
  unfold operate
  dsimp only
  split
  · exact ⟨rfl, _ :: _, rfl, List.forall_mem_cons.mpr ⟨rfl, inside⟩⟩
  · exact ⟨rfl, _, rfl, inside⟩

/-- The timers have a property, and had it at every entry of the trace. -/
def TimersAll (good : TimerQueue → Prop) (machine : Machine) : Prop :=
  good machine.kernel.timers ∧ ∀ entry ∈ machine.trace, good entry.kernel.timers

theorem TimersAll.extend {good : TimerQueue → Prop} {after : Machine} (all : machine.TimersAll good)
    (now : good after.kernel.timers) {added : List Entry} (trace : after.trace = added ++ machine.trace)
    (same : ∀ entry ∈ added, entry.kernel.timers = after.kernel.timers) : after.TimersAll good := by
  refine ⟨now, ?_⟩
  rw [trace]
  refine List.forall_mem_append.mpr ⟨fun entry member => ?_, all.2⟩
  rw [same entry member]
  exact now

end Machine

/-- What adding a timer and ticking keep, every call keeps. -/
theorem timers_total {good : TimerQueue → Prop} (added : ∀ queue timer, good queue → good (queue.add timer))
    (ticked : ∀ queue, good queue → good queue.tick.queue) :
    Law.Total fun before after => before.TimersAll good → after.TimersAll good where
  refl := fun _ all => all
  trans := fun first second all => second (first all)
  quiet := fun quiet all => by
    obtain ⟨now, before⟩ := all
    exact ⟨quiet.kernel.timers ▸ now, quiet.trace ▸ before⟩
  masked := fun _ inner => inner
  arrived := fun _ _ _ inner all => inner ⟨all.1, List.forall_mem_cons.mpr all⟩
  wrote := by
    intro machine notice _ _ all
    unfold Machine.write
    split
    · exact ⟨all.1, List.forall_mem_cons.mpr all⟩
    · exact all
  noted := fun _ _ all => ⟨all.1, List.forall_mem_cons.mpr all⟩
  granted := by
    intro operation machine _ _ all
    obtain ⟨same, entries, trace, before⟩ := machine.operate_timers operation
    refine all.extend ?_ trace ?_
    · rw [same]
      exact all.1
    · rw [same]
      exact before
  added := fun timer _ all => ⟨added _ timer all.1, all.2⟩
  ticked := by
    intro machine calm _ all
    obtain ⟨entries, trace, _, timers⟩ := machine.ticked_trace calm.sound
    have now : machine.ticked.kernel.timers = machine.kernel.timers.tick.queue := by rw [ticked_eq]
    refine all.extend ?_ trace ?_
    · rw [now]
      exact ticked _ all.1
    · rw [now]
      exact timers
  flagged := fun _ _ all => all

theorem Program.Reaches.timers_everywhere {program : Program} {machine : Machine} {good : TimerQueue → Prop}
    (start : good program.fresh.kernel.timers) (added : ∀ queue timer, good queue → good (queue.add timer))
    (ticked : ∀ queue, good queue → good queue.tick.queue) (reached : program.Reaches machine) :
    ∀ kernel ∈ machine.kernels, good kernel.timers := by
  obtain ⟨now, before⟩ := (reached.obeys (timers_total added ticked)).1 ⟨start, by simp [Program.fresh]⟩
  exact List.forall_mem_cons.mpr ⟨now, List.forall_mem_map.mpr before⟩

namespace TimerQueue

/-- The scheduling timer that a kernel arms when it starts. -/
def rhythm : Booking := ⟨⟨Config.schedulerPeriod, Config.schedulerTag⟩, 0⟩

/-- The scheduling timer of the start is still booked. -/
def Rhythmic (queue : TimerQueue) : Prop := ∃ booked, queue.Keeps booked ∧ rhythm ∈ booked

variable {queue : TimerQueue}

theorem Rhythmic.add (rhythmic : queue.Rhythmic) (timer : Timer) : (queue.add timer).Rhythmic := by
  obtain ⟨booked, keeps, member⟩ := rhythmic
  exact ⟨_, keeps.add timer, List.mem_append_left _ member⟩

theorem Rhythmic.tick (rhythmic : queue.Rhythmic) : queue.tick.queue.Rhythmic := by
  obtain ⟨booked, keeps, member⟩ := rhythmic
  exact ⟨booked, keeps.tick, member⟩

theorem Rhythmic.tick_clock (rhythmic : queue.Rhythmic) : queue.tick.queue.clock = queue.clock + 1 := by
  obtain ⟨_, keeps, _⟩ := rhythmic
  exact TimerQueue.tick_clock keeps.ordered

/-- A kernel's timers ask for a switch at every tick whose number is a number of whole periods. -/
theorem Rhythmic.switchDue (rhythmic : queue.Rhythmic) (whole : Config.schedulerPeriod ∣ queue.clock + 1) :
    queue.tick.switchDue = true := by
  obtain ⟨booked, keeps, member⟩ := rhythmic
  have due : rhythm.due = Config.schedulerPeriod := Nat.max_eq_left Timer.schedulerPeriod_pos
  refine keeps.switchDue.mpr ⟨rhythm, member, rfl, ?_, ?_⟩
  · rw [due]
    exact Nat.le_of_dvd (Nat.succ_pos _) whole
  · rw [due]
    exact Nat.dvd_sub whole (Nat.dvd_refl _)

end TimerQueue

theorem Program.fresh_rhythmic {program : Program} (core : program.core = .kernel) :
    program.fresh.kernel.timers.Rhythmic := by
  have timers : program.fresh.kernel.timers =
      TimerQueue.empty.add ⟨Config.schedulerPeriod, Config.schedulerTag⟩ := by
    simp only [fresh, core]
  rw [timers]
  exact ⟨_, TimerQueue.empty_keeps.add _, by simp [TimerQueue.rhythm, TimerQueue.empty]⟩

theorem Program.Reaches.rhythmic {program : Program} {machine : Machine} (core : program.core = .kernel)
    (reached : program.Reaches machine) : ∀ kernel ∈ machine.kernels, kernel.timers.Rhythmic :=
  reached.timers_everywhere (Program.fresh_rhythmic core) (fun _ timer rhythmic => rhythmic.add timer)
    fun _ rhythmic => rhythmic.tick

end PriorityKernel
