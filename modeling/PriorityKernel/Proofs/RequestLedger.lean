import PriorityKernel.Proofs.MessageLedger
import PriorityKernel.Proofs.Scheduler.Awake

namespace PriorityKernel

open Machine

/-- The message is a layer request of that task. -/
def Message.requests (id : TaskId) (message : Message) : Bool :=
  match message.kind with
  | .layer _ => message.source == id
  | .deviceInterrupt | .timerTimeout .. | .keyPush _ | .layerFinish => false

/-- How many requests of the task the message is. -/
def Message.owed (id : TaskId) (message : Message) : Int := if message.requests id then 1 else 0

namespace Event

/-- A layer request of the task was sent to the event loop. -/
def sendsRequest (id : TaskId) (event : Event) : Bool := (event.sentTo? TaskId.eventLoop).any (·.requests id)

/-- A layer request of the task was taken from the event loop's mailbox. -/
def takesRequest (id : TaskId) (event : Event) : Bool := (event.takenFrom? TaskId.eventLoop).any (·.requests id)

/-- The event loop begins to dispatch a layer request of the task that it took. -/
def beginsRequest (id : TaskId) : Event → Bool
  | .answered (.begun message) => message.requests id
  | _ => false

/-- A layer request of the task was handed to the event loop directly, and not refused. -/
def handsRequest (id : TaskId) : Event → Bool
  | .finished _ (.dispatch message _) (.ok _) => message.requests id
  | _ => false

/-- A reply was sent to the task. -/
def sendsReply (id : TaskId) (event : Event) : Bool := (event.sentTo? id).any (· == Message.layerFinish)

/-- The event loop has sent the task the reply to one of its layer requests. -/
def answers (id : TaskId) : Event → Bool
  | .answered (.done receiver) => receiver == id
  | _ => false

/-- Whether the event stands on one side of the ledger. -/
def settles (id : TaskId) (event : Event) : Bool := event.answers id || event.takesRequest id || event.handsRequest id

end Event

/-- How many entries are of that kind. -/
def count (kind : Event → Bool) (trace : List Entry) : Nat := trace.countP fun entry => kind entry.event

/-- How far the answers to a task are ahead of its requests. -/
def lead (id : TaskId) (trace : List Entry) : Int :=
  count (Event.answers id) trace - count (Event.takesRequest id) trace - count (Event.handsRequest id) trace

/-- How many more replies were sent to a task than the answers it was owed. -/
def surplus (id : TaskId) (trace : List Entry) : Int :=
  count (Event.sendsReply id) trace - count (Event.answers id) trace

/-- The task existed whenever the event loop began to dispatch one of its requests. -/
def Known (id : TaskId) (trace : List Entry) : Prop :=
  ∀ entry ∈ trace, entry.event.beginsRequest id = true → id ∈ entry.kernel.sched.tasks.ids

theorem count_cons (kind : Event → Bool) (entry : Entry) (trace : List Entry) :
    count kind (entry :: trace) = count kind trace + if kind entry.event then 1 else 0 := List.countP_cons

theorem count_append (kind : Event → Bool) (added trace : List Entry) :
    count kind (added ++ trace) = count kind added + count kind trace := List.countP_append

theorem count_silent {kind : Event → Bool} {added : List Entry}
    (silent : ∀ entry ∈ added, kind entry.event = false)
    (trace : List Entry) : count kind (added ++ trace) = count kind trace := by
  have none : count kind added = 0 := List.countP_eq_zero.mpr fun entry member => by simp [silent entry member]
  rw [count_append, none, Nat.zero_add]

theorem count_readings {β : Type} (read : Event → Option β) (kind : β → Bool) (trace : List Entry) :
    (readings read trace).countP kind = count (fun event => (read event).any kind) trace := by
  induction trace with
  | nil => rfl
  | cons entry rest ih =>
    rw [readings_cons, List.countP_append, ih, count_cons]
    cases read entry.event <;> simp [List.countP_cons]

/-- A machine is settled with a task from before to after: it was left that much more of answers than
of requests, and with at least that much more of replies than of answers. -/
structure Machine.Settles (id : TaskId) (due spare : Int) (before after : Machine) : Prop where
  grown : before.trace <:+ after.trace
  known : before.kernel.sched.tasks.ids ⊆ after.kernel.sched.tasks.ids
  owed : Known id after.trace → lead id after.trace = lead id before.trace + due
  backed : surplus id before.trace + spare ≤ surplus id after.trace

namespace Machine

variable {id : TaskId} {due spare : Int} {machine before after : Machine}

theorem Settles.trans {dueToo spareToo : Int} {first second third : Machine}
    (earlier : first.Settles id due spare second) (later : second.Settles id dueToo spareToo third) :
    first.Settles id (due + dueToo) (spare + spareToo) third where
  grown := earlier.grown.trans later.grown
  known := List.Subset.trans earlier.known later.known
  owed := by
    intro known
    have first := earlier.owed fun entry member => known entry (later.grown.subset member)
    have second := later.owed known
    omega
  backed := by
    have first := earlier.backed
    have second := later.backed
    omega

/-- If the task did not exist when it ought to have, nothing is said of what it is owed. -/
theorem Settles.waive {dueToo : Int} (settles : before.Settles id due spare after)
    (waived : Known id after.trace → due = dueToo) : before.Settles id dueToo spare after where
  grown := settles.grown
  known := settles.known
  owed := fun known => waived known ▸ settles.owed known
  backed := settles.backed

theorem Settles.of_same (sched : after.kernel.sched = before.kernel.sched) (trace : after.trace = before.trace) :
    before.Settles id 0 0 after where
  grown := trace ▸ List.suffix_rfl
  known := by rw [sched]; exact List.Subset.refl _
  owed := by rw [trace]; omega
  backed := by rw [trace]; omega

theorem Settles.flag (settles : machine.mask.Settles id due spare after) (enabled : Bool) :
    machine.Settles id due spare (after.flag enabled) :=
  ⟨settles.grown, settles.known, settles.owed, settles.backed⟩

theorem Settles.of_entries {added : List Entry} (trace : after.trace = added ++ before.trace)
    (kept : before.kernel.sched.tasks.ids ⊆ after.kernel.sched.tasks.ids)
    (apart : ∀ entry ∈ added, entry.event.settles id = false)
    (gain : spare ≤ count (Event.sendsReply id) added) : before.Settles id 0 spare after := by
  have silent : ∀ entry ∈ added, entry.event.answers id = false ∧ entry.event.takesRequest id = false ∧
      entry.event.handsRequest id = false := by
    intro entry member
    have none := apart entry member
    rw [Event.settles, Bool.or_eq_false_iff, Bool.or_eq_false_iff] at none
    exact ⟨none.1.1, none.1.2, none.2⟩
  have answers := count_silent (fun entry member => (silent entry member).1) before.trace
  have takes := count_silent (fun entry member => (silent entry member).2.1) before.trace
  have hands := count_silent (fun entry member => (silent entry member).2.2) before.trace
  refine ⟨trace ▸ List.suffix_append _ _, kept, fun _ => ?_, ?_⟩
  · rw [trace, lead, lead, answers, takes, hands]
    omega
  · rw [trace, surplus, surplus, answers, count_append]
    omega

theorem Settles.record {event : Event} (apart : event.settles id = false) :
    machine.Settles id 0 0 (machine.record event) :=
  .of_entries (List.singleton_append ..).symm (List.Subset.refl _) (List.forall_mem_singleton.mpr apart)
    (Int.natCast_nonneg _)

theorem operate_apart (sound : machine.kernel.sched.Sound) {operation : Operation}
    (other : operation ≠ .receive TaskId.eventLoop) {entry : Entry}
    (recorded : operation.Records machine.kernel.sched entry) : entry.event.settles id = false := by
  obtain ⟨_, ⟨deed, done, event⟩ | ⟨_, event⟩ | ⟨_, _, event⟩⟩ := recorded
  · rw [event]
    cases deed with
    | taken owner message =>
      have distinct : owner ≠ TaskId.eventLoop := fun own => other (own ▸ Operation.taken_deed sound done)
      simp [Event.settles, Event.answers, Event.takesRequest, Event.handsRequest, Event.takenFrom?, distinct]
    | _ => rfl
  all_goals
    rw [event]
    rfl

theorem Settles.operate (sound : machine.kernel.sched.Sound) {operation : Operation}
    (other : operation ≠ .receive TaskId.eventLoop) : machine.Settles id 0 0 (machine.operate operation) := by
  obtain ⟨added, trace, records⟩ := machine.operate_trace operation
  refine .of_entries trace ?_ (fun entry member => operate_apart sound other (records entry member))
    (Int.natCast_nonneg _)
  rw [machine.operate_sched]
  exact fun _ => (operation.effect sound).known

theorem Settles.posts (sound : machine.kernel.sched.Sound) (expired : List Timer) :
    machine.Settles id 0 0 (expired.foldl post machine) :=
  History.posts_relate (fun _ => .of_same rfl rfl) (fun first second => first.trans second)
    (fun _ _ sound => .operate sound (by simp)) sound expired

/-- A reply that goes out backs one answer. -/
theorem Settles.reply (sound : machine.kernel.sched.Sound) (source : TaskId)
    (reply : (machine.kernel.sched.send source Message.layerFinish).deeds = [.sent source Message.layerFinish]) :
    machine.Settles id 0 (if source = id then 1 else 0) (machine.operate (.send source Message.layerFinish)) := by
  obtain ⟨added, trace, records⟩ := machine.operate_trace (.send source Message.layerFinish)
  refine .of_entries trace ?_ (fun entry member => operate_apart sound (by simp) (records entry member)) ?_
  · rw [machine.operate_sched]
    exact fun _ => (Operation.effect sound (.send source Message.layerFinish)).known
  · have deeds : ((Operation.send source Message.layerFinish).outcome machine.kernel.sched).deeds =
        [.sent source Message.layerFinish] := reply
    have sent := readings_deeds (Event.sentTo? id) (fun _ => rfl) (fun _ => rfl) machine
      (.send source Message.layerFinish)
    rw [trace, readings_append, deeds] at sent
    have gained := congrArg (List.countP (· == Message.layerFinish)) (List.append_cancel_left sent)
    rw [count_readings] at gained
    show _ ≤ ((count (fun event => (event.sentTo? id).any (· == Message.layerFinish)) added : Nat) : Int)
    rw [gained]
    by_cases own : source = id
    · simp [Event.sentTo?, own]
    · simp [Event.sentTo?, own]

/-- The event loop takes the oldest message, which leaves the source owed an answer if the message is a
layer request. -/
theorem Settles.take {message : Message} {rest : List Message}
    (waits : machine.kernel.sched.mailbox TaskId.eventLoop = message :: rest) :
    machine.Settles id (-message.owed id) 0 (machine.operate (.receive TaskId.eventLoop)) := by
  obtain ⟨next, received, _, ids⟩ := Scheduler.receive_waiting waits
  have whole : machine.operate (.receive TaskId.eventLoop) = machine.enter ⟨.ok (some message), next, [],
      [.taken TaskId.eventLoop message]⟩ := received ▸ machine.operate_of_map rfl
  rw [whole]
  have takes : (Event.did (.taken TaskId.eventLoop message)).takesRequest id = message.requests id := by
    simp [Event.takesRequest, Event.takenFrom?]
  refine ⟨List.suffix_append _ _, fun _ here => ids ▸ here, fun _ => ?_, ?_⟩
  · show lead id (⟨_, _⟩ :: machine.trace) = _
    simp only [lead, count_cons, takes, Message.owed]
    cases message.requests id <;> simp [Event.answers, Event.handsRequest]
    omega
  · show _ ≤ surplus id (⟨_, _⟩ :: machine.trace)
    simp [surplus, count_cons, Event.answers, Event.sendsReply, Event.sentTo?]

theorem Settles.answer (source : TaskId) : machine.Settles id (if source = id then 1 else 0)
    (if source = id then -1 else 0) (machine.record (.answered (.done source))) where
  grown := List.suffix_cons _ _
  known := List.Subset.refl _
  owed := fun _ => by
    simp only [Machine.record, lead, count_cons]
    by_cases own : source = id <;> simp [own, Event.answers, Event.takesRequest, Event.takenFrom?, Event.handsRequest]
    omega
  backed := by
    simp only [Machine.record, surplus, count_cons]
    by_cases own : source = id <;> simp [own, Event.answers, Event.sendsReply, Event.sentTo?]
    omega

theorem Settles.hand (depth : Nat) (message : Message) (handler : Handler) (reply : Reply) : machine.Settles id
    (-message.owed id) 0 (machine.record (.finished depth (.dispatch message handler) (.ok reply))) where
  grown := List.suffix_cons _ _
  known := List.Subset.refl _
  owed := fun _ => by
    simp only [Machine.record, lead, count_cons, Message.owed]
    cases asks : message.requests id <;>
      simp [asks, Event.answers, Event.takesRequest, Event.takenFrom?, Event.handsRequest]
    omega
  backed := by
    simp [Machine.record, surplus, count_cons, Event.answers, Event.sendsReply, Event.sentTo?]

theorem settles_closed (id : TaskId) : Law.Closed (Settles id 0 0) where
  refl := fun _ => .of_same rfl rfl
  trans := fun first second => first.trans second
  quiet := fun quiet => .of_same quiet.kernel.sched quiet.trace
  masked := fun _ inner => inner.flag true
  arrived := by
    intro before after script rest _ _ _ inner
    have arrived : before.Settles id 0 0 (before.arrive rest) :=
      .of_entries (List.singleton_append ..).symm (List.Subset.refl _) (List.forall_mem_singleton.mpr rfl)
        (Int.natCast_nonneg _)
    have whole := arrived.trans inner
    exact ⟨whole.grown, whole.known, whole.owed, whole.backed⟩
  wrote := by
    intro machine notice _ _
    unfold Machine.write
    split
    · exact .of_entries (List.singleton_append ..).symm (List.Subset.refl _) (List.forall_mem_singleton.mpr rfl)
        (Int.natCast_nonneg _)
    · exact .of_same rfl rfl
  noted := by
    intro machine event _ passing
    refine .record ?_
    cases event with
    | handled | acknowledged => rfl
    | answered answering =>
      cases answering with
      | begun message => rfl
      | done => exact passing.elim
    | _ => exact passing.elim

/-- Between the turns of the event loop the ledger stands still, if scripts take none of its messages. -/
theorem settles_carries (id : TaskId) : Law.Carries (Settles id 0 0) fun step => ¬step.Collects := by
  refine { toConveys := (settles_closed id).conveys (fun _ own => own) ?_ ?_ (fun _ _ => .of_same rfl rfl),
           added := fun _ _ => .of_same rfl rfl }
  · exact fun operation other machine calm _ => .operate calm.sound other
  · intro machine calm _
    have posted := @Settles.posts id machine.advance calm.sound machine.kernel.timers.tick.expired
    exact ⟨posted.grown, posted.known, posted.owed, posted.backed⟩

end Machine

end PriorityKernel
