import PriorityKernel.Proofs.Machine.Timeouts
import PriorityKernel.Proofs.MessageLedger
import PriorityKernel.Proofs.Timers.Blinking

namespace PriorityKernel

open Machine TimerQueue

/-- The timeouts of the blink timers that wait: of those in the timer queue, and of those that the event
loop was told of. -/
def Kernel.blinks (kernel : Kernel) : List Nat :=
  kernel.timers.blinks ++ (kernel.sched.mailbox TaskId.eventLoop).filterMap Message.blink?

/-- The timeout of the blink timer that fires: the event loop takes its message. -/
def Event.fires? (event : Event) : Option Nat := (event.takenFrom? TaskId.eventLoop).bind Message.blink?

/-- The timeout of a blink timer that is brought in: the timer itself, or its message sent to the event loop.
A message handed to the kernel's handler directly has fired, and brings in the timer that is armed again. A
tick brings in nothing: it sends its messages while the timers are locked. -/
def Entry.brings? (entry : Entry) : Option Nat :=
  match entry.event with
  | .finished _ (.addTimer timer) _ => timer.blink?
  | .finished _ (.dispatch _ .kernel) (.error .needsKernel) => none
  | .finished _ (.dispatch message .kernel) _ => message.blink?.bind blinkAgain?
  | .did (.sent id message) =>
    if id = TaskId.eventLoop ∧ Lock.timers ∉ entry.kernel.locks then message.blink? else none
  | _ => none

/-- The timeouts of the blink timers that fired, in order. -/
def firings (trace : List Entry) : List Nat := readings Event.fires? trace

/-- The timeouts of the blink timers that were brought in, in order. -/
def brought (trace : List Entry) : List Nat := trace.reverse.filterMap Entry.brings?

theorem firings_append (added trace : List Entry) : firings (added ++ trace) = firings trace ++ firings added :=
  readings_append ..

theorem firings_cons (entry : Entry) (trace : List Entry) :
    firings (entry :: trace) = firings trace ++ entry.event.fires?.toList :=
  readings_cons ..

theorem brought_append (added trace : List Entry) : brought (added ++ trace) = brought trace ++ brought added := by
  rw [brought, List.reverse_append, List.filterMap_append]
  rfl

theorem brought_cons (entry : Entry) (trace : List Entry) :
    brought (entry :: trace) = brought trace ++ entry.brings?.toList := by
  rw [← List.singleton_append, brought_append]
  refine congrArg (_ ++ ·) (List.filterMap_cons.trans ?_)
  cases entry.brings? with
  | none => rfl
  | some timeout => rfl

/-- The messages that the event loop takes in an operation. -/
def Outcome.takes {α : Type} (outcome : Outcome α) : List Message :=
  outcome.deeds.filterMap fun deed => Event.takenFrom? TaskId.eventLoop (.did deed)

/-- The messages that it is sent. -/
def Outcome.sends {α : Type} (outcome : Outcome α) : List Message :=
  outcome.deeds.filterMap fun deed => Event.sentTo? TaskId.eventLoop (.did deed)

namespace Machine

variable {machine before middle after : Machine} {extra more : List Nat}

/-- From one machine to the other, with some extra timers armed on the way: of these, of the timers that waited
and of those brought in, some fire one after another, each to be armed again, and the last ones wait then. -/
def Renews (extra : List Nat) (before after : Machine) : Prop :=
  ∃ added, after.trace = added ++ before.trace ∧
    BlinkRun (before.kernel.blinks ++ extra ++ brought added) (firings added) after.kernel.blinks

theorem Renews.of_still (trace : after.trace = before.trace)
    (same : (before.kernel.blinks ++ extra).Perm after.kernel.blinks) : before.Renews extra after :=
  ⟨[], trace, .ended ((List.append_nil _).symm ▸ same)⟩

theorem Renews.of_idle {added : List Entry} (trace : after.trace = added ++ before.trace)
    (unfired : firings added = []) (same : (before.kernel.blinks ++ brought added).Perm after.kernel.blinks) :
    before.Renews [] after := by
  refine ⟨added, trace, ?_⟩
  rw [unfired, List.append_nil]
  exact .ended same

theorem Renews.trans (first : before.Renews extra middle) (second : middle.Renews more after) :
    before.Renews (extra ++ more) after := by
  obtain ⟨earlier, trace, run⟩ := first
  obtain ⟨later, traceLater, runLater⟩ := second
  refine ⟨later ++ earlier, by rw [traceLater, trace, List.append_assoc], ?_⟩
  have framed := run.frame (more ++ brought later)
  rw [← List.append_assoc middle.kernel.blinks] at framed
  rw [firings_append]
  refine (framed.trans runLater).of_perm (List.perm_iff_count.mpr fun timeout => ?_)
  rw [brought_append]
  simp only [List.count_append]
  omega

/-- A timer fires, and then it is still to be armed again. -/
theorem Renews.of_firing {added : List Entry} {found : Option Nat} (trace : middle.trace = added ++ before.trace)
    (fired : firings added = found.toList)
    (moved : (before.kernel.blinks ++ brought added).Perm (found.toList ++ middle.kernel.blinks))
    (later : middle.Renews (found.bind blinkAgain?).toList after) : before.Renews [] after := by
  cases found with
  | none => exact Renews.trans (.of_idle trace fired moved) later
  | some timeout =>
    obtain ⟨more, traceMore, run⟩ := later
    refine ⟨more ++ added, by rw [traceMore, trace, List.append_assoc], ?_⟩
    rw [firings_append, fired, brought_append]
    have due : (before.kernel.blinks ++ [] ++ (brought added ++ brought more)).Perm
        (timeout :: (middle.kernel.blinks ++ brought more)) := by
      have framed := moved.append_right (brought more)
      rwa [List.append_assoc, ← List.append_nil before.kernel.blinks] at framed
    refine .fires due (run.of_perm ?_)
    rw [← List.append_assoc]
    exact List.perm_append_comm.append_right _

theorem renews_idle {entry : Entry} (trace : after.trace = entry :: before.trace)
    (blinks : after.kernel.blinks = before.kernel.blinks) (unfired : entry.event.fires? = none)
    (unbrought : entry.brings? = none) : before.Renews [] after := by
  have none : firings [entry] = [] := by
    rw [firings_cons, unfired]
    rfl
  refine @Renews.of_idle before after [entry] trace none ?_
  rw [blinks, brought_cons, unbrought]
  exact .of_eq (List.append_nil _)

theorem renews_record {event : Event} (unfired : event.fires? = none)
    (unbrought : Entry.brings? ⟨event, machine.kernel⟩ = none) : machine.Renews [] (machine.record event) :=
  renews_idle rfl rfl unfired unbrought

theorem Renews.settle {found : Option Nat} (renews : before.Renews found.toList after) {event : Event}
    (unfired : event.fires? = none) (brings : Entry.brings? ⟨event, after.kernel⟩ = found) :
    before.Renews [] (after.record event) := by
  obtain ⟨added, trace, run⟩ := renews
  refine ⟨⟨event, after.kernel⟩ :: added, congrArg (_ :: ·) trace, ?_⟩
  rw [firings, readings_skip unfired, brought_cons, brings]
  refine run.of_perm (List.perm_iff_count.mpr fun timeout => ?_)
  simp only [List.count_append, List.count_nil]
  omega

theorem renews_add (timer : Timer) :
    machine.Renews timer.blink?.toList { machine with kernel.timers := machine.kernel.timers.add timer } := by
  have added := (add_blinks machine.kernel.timers timer).append_right
    ((machine.kernel.sched.mailbox TaskId.eventLoop).filterMap Message.blink?)
  rw [List.append_assoc] at added
  exact .of_still rfl (List.perm_append_comm.trans added.symm)

/-! ### Operations -/

theorem firings_operate (machine : Machine) (operation : Operation) : firings (machine.operate operation).trace =
    firings machine.trace ++ (operation.outcome machine.kernel.sched).takes.filterMap Message.blink? := by
  rw [firings, readings_deeds Event.fires? (fun _ => rfl) (fun _ => rfl), Outcome.takes, List.filterMap_filterMap]
  rfl

/-- While the timers are unlocked, what the event loop is sent is brought in. -/
theorem brought_enter (unlocked : Lock.timers ∉ machine.kernel.locks) {α : Type} (outcome : Outcome α) :
    brought (machine.enter outcome).trace = brought machine.trace ++ outcome.sends.filterMap Message.blink? := by
  have lines : ∀ notices : List Notice, notices.filterMap
      (fun notice => (({ machine with kernel.sched := outcome.next }.hold .scheduler).lineEntry notice).brings?) = [] :=
    fun notices => List.filterMap_eq_nil_iff.mpr fun _ _ => rfl
  have deeds : ∀ deed ∈ outcome.deeds,
      Entry.brings? ⟨.did deed, ({ machine with kernel.sched := outcome.next }.hold .scheduler).kernel⟩ =
        (Event.sentTo? TaskId.eventLoop (.did deed)).bind Message.blink? := by
    intro deed _
    cases deed with
    | sent id message =>
      by_cases own : id = TaskId.eventLoop
      · simp [Entry.brings?, Event.sentTo?, own, hold, unlocked]
      · simp [Entry.brings?, Event.sentTo?, own]
    | _ => rfl
  rw [enter, brought_append, brought, brought, Outcome.sends, List.filterMap_filterMap, ← List.filterMap_congr deeds]
  simp only [sectionEntries, List.reverse_append, List.map_reverse, List.reverse_reverse, List.filterMap_append,
    List.filterMap_map, Function.comp_def, lines, List.nil_append]

theorem brought_operate (unlocked : Lock.timers ∉ machine.kernel.locks) (operation : Operation) :
    brought (machine.operate operation).trace = brought machine.trace ++
      (operation.outcome machine.kernel.sched).sends.filterMap Message.blink? := by
  have entered := brought_enter unlocked (operation.outcome machine.kernel.sched)
  unfold operate
  dsimp only
  split
  · exact (brought_cons _ _).trans ((List.append_nil _).trans entered)
  · exact entered

/-- In an operation those timers fire whose messages the event loop takes. -/
theorem operate_blinks (sound : machine.kernel.sched.Sound) (unlocked : Lock.timers ∉ machine.kernel.locks)
    (operation : Operation) : ∃ added, (machine.operate operation).trace = added ++ machine.trace ∧
      firings added = (operation.outcome machine.kernel.sched).takes.filterMap Message.blink? ∧
      (machine.kernel.blinks ++ brought added).Perm (firings added ++ (machine.operate operation).kernel.blinks) := by
  obtain ⟨added, trace, _⟩ := machine.operate_trace operation
  have fired := machine.firings_operate operation
  rw [trace, firings_append] at fired
  have sent := brought_operate unlocked operation
  rw [trace, brought_append] at sent
  have mail := congrArg (List.filterMap Message.blink?) (operation.mailbox_balance sound TaskId.eventLoop)
  rw [List.filterMap_append, List.filterMap_append] at mail
  have fires := List.append_cancel_left fired
  refine ⟨added, trace, fires, ?_⟩
  have now : (machine.operate operation).kernel.blinks = machine.kernel.timers.blinks ++
      ((operation.outcome machine.kernel.sched).next.mailbox TaskId.eventLoop).filterMap Message.blink? := by
    rw [operate_eq]
    rfl
  rw [fires, List.append_cancel_left sent, now, Kernel.blinks, List.append_assoc]
  refine (List.Perm.append_left _ (.of_eq mail)).trans ?_
  rw [← List.append_assoc, ← List.append_assoc]
  exact List.perm_append_comm.append_right _

theorem renews_operate (sound : machine.kernel.sched.Sound) (unlocked : Lock.timers ∉ machine.kernel.locks)
    {operation : Operation} (other : operation ≠ .receive TaskId.eventLoop) :
    machine.Renews [] (machine.operate operation) := by
  have untaken : (operation.outcome machine.kernel.sched).takes = [] := Operation.untaken sound other
  obtain ⟨added, trace, fired, moved⟩ := operate_blinks sound unlocked operation
  rw [untaken] at fired
  rw [fired] at moved
  exact .of_idle trace fired moved

/-- The event loop takes the oldest message; if it tells of a blink timer, that one fires, and is still to be
armed again. -/
theorem renews_take (sound : machine.kernel.sched.Sound) (unlocked : Lock.timers ∉ machine.kernel.locks)
    {message : Message} {rest : List Message}
    (waits : machine.kernel.sched.mailbox TaskId.eventLoop = message :: rest)
    (later : (machine.operate (.receive TaskId.eventLoop)).Renews (message.blink?.bind blinkAgain?).toList after) :
    machine.Renews [] after := by
  obtain ⟨next, received, _⟩ := Scheduler.receive_waiting waits
  have takes : ((Operation.receive TaskId.eventLoop).outcome machine.kernel.sched).takes = [message] :=
    congrArg (fun outcome : Outcome (Option Message) => (outcome.map fun _ => (none : Option Handover)).takes) received
  obtain ⟨added, trace, fired, moved⟩ := operate_blinks sound unlocked (.receive TaskId.eventLoop)
  have found : firings added = message.blink?.toList := by
    rw [fired, takes, List.filterMap_cons]
    cases message.blink? with
    | none => rfl
    | some timeout => rfl
  rw [found] at moved
  exact .of_firing trace found moved later

/-! ### Ticks -/

theorem posts_idle (expired : List Timer) (sound : machine.kernel.sched.Sound)
    (locked : Lock.timers ∈ machine.kernel.locks) : ∃ added,
      (expired.foldl post machine).trace = added ++ machine.trace ∧ firings added = [] ∧ brought added = [] := by
  induction expired generalizing machine with
  | nil => exact ⟨[], rfl, rfl, rfl⟩
  | cons timer rest ih =>
    obtain ⟨added, trace, unfired, unbrought⟩ :=
      @ih (machine.post timer) (sound.send_event_loop timer.message).2 locked
    have held : Lock.timers ∈ ((machine.post timer).hold .scheduler).kernel.locks := List.mem_cons_of_mem _ locked
    have sent : Entry.brings? ⟨.did (.sent TaskId.eventLoop timer.message),
        ((machine.post timer).hold .scheduler).kernel⟩ = none := if_neg fun free => free.2 held
    rw [post_trace sound timer, List.append_cons] at trace
    refine ⟨_, trace, ?_, ?_⟩
    · rw [firings_append, unfired]
      rfl
    · rw [brought_append, unbrought, brought_cons, sent]
      rfl

/-- A blink timer that comes due goes from the timers to the event loop. -/
theorem renews_ticked (sound : machine.kernel.sched.Sound) : machine.Renews [] machine.ticked := by
  obtain ⟨added, trace, unfired, unbrought⟩ :=
    @posts_idle machine.advance machine.kernel.timers.tick.expired sound (List.mem_cons_self ..)
  have mail := sound.notified_mailbox machine.kernel.timers.tick.expired TaskId.eventLoop
  rw [if_pos rfl] at mail
  refine .of_idle trace unfired ?_
  rw [unbrought, List.append_nil, Kernel.blinks, Kernel.blinks, ticked_timers, ticked_sched, mail,
    List.filterMap_append, List.filterMap_map]
  have moved := (tick_blinks machine.kernel.timers).append_right
    ((machine.kernel.sched.mailbox TaskId.eventLoop).filterMap Message.blink?)
  rw [List.append_assoc] at moved
  refine moved.symm.trans (List.perm_append_comm.trans (.of_eq ?_))
  rw [List.append_assoc]
  rfl

/-! ### Calls -/

theorem renews_closed : Law.Closed (Renews []) where
  refl := fun _ => .of_still rfl (.of_eq (List.append_nil _))
  trans := Renews.trans
  quiet := by
    intro before after quiet
    have same : after.kernel.blinks = before.kernel.blinks := by
      rw [Kernel.blinks, Kernel.blinks, quiet.kernel.sched, quiet.kernel.timers]
    exact .of_still quiet.trace (.of_eq (same ▸ List.append_nil _))
  masked := fun _ inner => inner
  arrived := by
    intro before after script rest _ _ _ inner
    have arrived : before.Renews [] (before.arrive rest) := renews_idle rfl rfl rfl rfl
    exact arrived.trans inner
  wrote := by
    intro machine notice _ _
    unfold Machine.write
    split
    · exact renews_idle rfl rfl rfl rfl
    · exact .of_still rfl (.of_eq (List.append_nil _))
  noted := by
    intro machine event _ passing
    cases event with
    | handled | acknowledged => exact renews_record rfl rfl
    | answered answering =>
      cases answering with
      | begun message => exact renews_record rfl rfl
      | done => exact passing.elim
    | _ => exact passing.elim

end Machine

/-- Whether a step leaves the messages of the event loop's task to event loops with the kernel's handler. -/
def Step.Entrusts (step : Step) : Prop := ¬step.Collects ∧ ∀ handler, step.Turns handler → handler = .kernel

theorem Machine.renews_conveys : Law.Conveys (Renews []) Step.Entrusts := by
  refine renews_closed.conveys (fun _ entrusts => entrusts.1) ?_ ?_ fun _ _ =>
    .of_still rfl (.of_eq (List.append_nil _))
  · intro operation other machine calm _
    exact renews_operate calm.sound (calm.free .timers) other
  · intro machine calm _
    exact renews_ticked calm.sound

end PriorityKernel
