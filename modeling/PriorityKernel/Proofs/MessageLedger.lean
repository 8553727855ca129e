import PriorityKernel.Proofs.Machine.Taking

namespace PriorityKernel

/-- The message that an event brings to a task. -/
def Event.sentTo? (id : TaskId) : Event → Option Message
  | .did (.sent receiver message) => if receiver = id then some message else none
  | _ => none

/-- The message that an event takes from a task. -/
def Event.takenFrom? (id : TaskId) : Event → Option Message
  | .did (.taken owner message) => if owner = id then some message else none
  | _ => none

namespace Operation

open Scheduler

variable {state : Scheduler} {operation : Operation}

/-- What an operation brings to a mailbox goes to its back, and what it takes comes from the front. -/
theorem mailbox_balance (sound : state.Sound) (operation : Operation) (id : TaskId) :
    state.mailbox id ++ ((operation.outcome state).deeds.filterMap fun deed => Event.sentTo? id (.did deed)) =
      ((operation.outcome state).deeds.filterMap fun deed => Event.takenFrom? id (.did deed)) ++
        (operation.outcome state).next.mailbox id := by
  have silent : ∀ deeds : List Deed, (∀ deed ∈ deeds, ¬deed.IsMail) →
      (deeds.filterMap fun deed => Event.sentTo? id (.did deed)) = [] ∧
        (deeds.filterMap fun deed => Event.takenFrom? id (.did deed)) = [] := by
    intro deeds none
    constructor
    all_goals
      refine List.filterMap_eq_nil_iff.mpr fun deed member => ?_
      have idle := none deed member
      cases deed <;> first | rfl | exact absurd trivial idle
  cases operation.effect sound with
  | shifted _ shift quiet =>
    obtain ⟨sent, taken⟩ := silent _ quiet
    rw [sent, taken, shift.mailbox sound, List.append_nil, List.nil_append]
  | @taken task message rest here oldest next deeds =>
    rw [deeds, next, mailbox_repost here]
    by_cases own : id = task.id
    · subst own
      rw [mailbox_of_get? here, oldest]
      simp [Event.sentTo?, Event.takenFrom?]
    · simp [Event.sentTo?, Event.takenFrom?, own, Ne.symm own]
  | @sent task message here shift deeds =>
    rw [deeds, shift.mailbox (sound.repost here _), mailbox_repost here]
    by_cases own : id = task.id
    · subst own
      rw [mailbox_of_get? here]
      simp [Event.sentTo?, Event.takenFrom?]
    · simp [Event.sentTo?, Event.takenFrom?, own, Ne.symm own]
  | decided _ _ next _ _ _ quiet =>
    obtain ⟨sent, taken⟩ := silent _ quiet
    rw [sent, taken, next, aside_mailbox, List.append_nil, List.nil_append]

theorem sender_of_deed (sound : state.Sound) {receiver : TaskId} {message : Message}
    (did : Deed.sent receiver message ∈ (operation.outcome state).deeds) : operation = .send receiver message := by
  cases operation.effect sound with
  | shifted _ _ silent => exact absurd trivial (silent _ did)
  | taken _ _ _ deeds =>
    rw [deeds] at did
    cases List.mem_singleton.mp did
  | sent _ _ deeds =>
    rw [deeds] at did
    cases List.mem_singleton.mp did
    rfl
  | decided _ _ _ _ _ _ silent => exact absurd trivial (silent _ did)

theorem untaken (sound : state.Sound) {id : TaskId} (other : operation ≠ .receive id) :
    ((operation.outcome state).deeds.filterMap fun deed => Event.takenFrom? id (.did deed)) = [] := by
  refine List.filterMap_eq_nil_iff.mpr fun deed done => ?_
  cases deed with
  | taken owner message => exact if_neg fun own : owner = id => other (own ▸ taken_deed sound done)
  | _ => rfl

end Operation

namespace Scheduler

variable {state : Scheduler}

/-- A message is on record as sent exactly if its sender is told so. -/
theorem Sound.send_recorded (sound : state.Sound) (id : TaskId) (message : Message) :
    (state.send id message).reply = .ok () ∧ (state.send id message).deeds = [.sent id message] ∨
      (state.send id message).reply = .error (.refused (.noSuchTask id)) ∧ (state.send id message).deeds = [] := by
  rcases state.tasks.absent_or_here id with absent | ⟨task, rfl, here⟩
  · rw [Scheduler.send, withTask_none absent]
    exact Or.inr ⟨rfl, rfl⟩
  · exact Or.inl (sound.send here message).2

/-- A message is on record as taken exactly if a receiver is given it. -/
theorem receive_recorded (state : Scheduler) (id : TaskId) :
    (∃ message, (state.receive id).reply = .ok (some message) ∧ (state.receive id).deeds = [.taken id message]) ∨
      ((state.receive id).reply = .ok none ∨ (state.receive id).reply = .error (.refused (.noSuchTask id))) ∧
        (state.receive id).deeds = [] := by
  rcases state.tasks.absent_or_here id with absent | ⟨task, rfl, here⟩
  · rw [Scheduler.receive, withTask_none absent]
    exact Or.inr ⟨Or.inr rfl, rfl⟩
  · rw [receive_eq here]
    cases task.messages with
    | nil => exact Or.inr ⟨Or.inl rfl, rfl⟩
    | cons message rest => exact Or.inl ⟨message, rfl, rfl⟩

theorem snapshot_pending {id : TaskId} {row : Snapshot} (seen : (state.snapshot id).reply = .ok row) :
    row.pendingMessages = (state.mailbox id).length := by
  rcases state.tasks.absent_or_here id with absent | ⟨task, rfl, here⟩
  · rw [Scheduler.snapshot, withTask_none absent] at seen
    cases seen
  · rw [Scheduler.snapshot, withTask_some here] at seen
    cases seen
    rw [mailbox_of_get? here]
    rfl

end Scheduler

theorem ledger_stable : History.Stable fun state trace => ∀ id,
    readings (Event.sentTo? id) trace = readings (Event.takenFrom? id) trace ++ state.mailbox id := by
  constructor
  · intro event trace kernel plain balanced id
    have sent : event.sentTo? id = none := by
      cases event <;> first | rfl | exact plain.elim
    have taken : event.takenFrom? id = none := by
      cases event <;> first | rfl | exact plain.elim
    rw [readings_skip sent, readings_skip taken, balanced id]
  · intro machine operation sound balanced id
    have sent := readings_deeds (Event.sentTo? id) (fun _ => rfl) (fun _ => rfl) machine operation
    have taken := readings_deeds (Event.takenFrom? id) (fun _ => rfl) (fun _ => rfl) machine operation
    rw [machine.operate_sched, sent, taken, balanced id, List.append_assoc, List.append_assoc,
      operation.mailbox_balance sound id]

namespace Program.Reaches

variable {program : Program} {machine : Machine}

/-- Whenever a step of a run has ended, the messages sent to a task so far are those taken from it
followed by those that wait, in this order. Only sends and receipts are on record as such, the count of
waiting messages is theirs, and nothing else touches a mailbox. Whoever sends or takes is told what is
on record, wherever the call stands in the run and whatever scripts run inside of it. -/
theorem messages_conserved (reached : program.Reaches machine) :
    (∀ entry earlier, entry :: earlier <:+ machine.trace → entry.event.Closing → ∀ id,
      readings (Event.sentTo? id) earlier = readings (Event.takenFrom? id) earlier ++ entry.kernel.sched.mailbox id) ∧
    (∀ kernel ∈ machine.kernels, ∀ id,
      (∀ message, (kernel.sched.send id message).reply = .ok () ∧
          (kernel.sched.send id message).deeds = [.sent id message] ∨
        (kernel.sched.send id message).reply = .error (.refused (.noSuchTask id)) ∧
          (kernel.sched.send id message).deeds = []) ∧
      ((∃ message, (kernel.sched.receive id).reply = .ok (some message) ∧
          (kernel.sched.receive id).deeds = [.taken id message]) ∨
        ((kernel.sched.receive id).reply = .ok none ∨
          (kernel.sched.receive id).reply = .error (.refused (.noSuchTask id))) ∧
          (kernel.sched.receive id).deeds = []) ∧
      (∀ row, (kernel.sched.snapshot id).reply = .ok row →
        row.pendingMessages = (kernel.sched.mailbox id).length) ∧
      (∀ operation : Operation, (∀ receiver message, operation ≠ .send receiver message) →
        (∀ owner, operation ≠ .receive owner) →
        (operation.outcome kernel.sched).next.mailbox id = kernel.sched.mailbox id) ∧
      ∀ (operation : Operation) message,
        (Deed.sent id message ∈ (operation.outcome kernel.sched).deeds → operation = .send id message) ∧
        (Deed.taken id message ∈ (operation.outcome kernel.sched).deeds → operation = .receive id)) ∧
    ∀ start : Machine, start.kernel ∈ machine.kernels → start.kernel.locks = [] → ∀ credit depth,
      start.Accounts ⟨credit, Machine.exec credit depth⟩ := by
  have start : ∀ id, readings (Event.sentTo? id) [] = readings (Event.takenFrom? id) [] ++
      (Scheduler.initial program.memory).mailbox id := by
    intro id
    rw [Scheduler.initial_mailbox]
    rfl
  refine ⟨reached.throughout ledger_stable start, fun kernel member id => ?_,
    fun start member free credit depth => ?_⟩
  · have sound := reached.sound kernel member
    exact ⟨sound.send_recorded id, kernel.sched.receive_recorded id, fun _ seen => Scheduler.snapshot_pending seen,
      fun _ sends receives => Operation.mailbox_of_other sound sends receives id,
      fun _ _ => ⟨Operation.sender_of_deed sound, Operation.taken_deed sound⟩⟩
  · have calm : start.Calm := ⟨free, reached.sound _ member⟩
    exact calm.steady.accounts (Machine.obeys_exec (Law.Total.bears _) credit depth)

/-- A run with messages from a timer, a device, a thread and the event loop itself, one of them taken in the
middle of a switch. -/
def post : Program where
  core := .kernel
  filter := .standard
  memoryShort := false
  script := [.create [.wakeup none], .addTimer ⟨2, 7⟩, .hook [.send 3 ⟨4, .timerTimeout 5 6⟩, .receive 3],
    .raise [.deviceInterrupt], .send 1 ⟨3, .layer ⟨.draw, 0, {}⟩⟩, .timerInterrupt 3 [.receive 3], .sleep 3,
    .forever .kernel, .send 1 ⟨3, .layerFinish⟩]

/-- Task 3 was sent two messages and has one left, which it gets if it waits. -/
theorem post_messages_conserved : post.Reaches post.ending ∧
    (∃ entry earlier, post.ending.trace = entry :: earlier ∧
      readings (Event.sentTo? 3) earlier = [⟨1, .layerFinish⟩, ⟨4, .timerTimeout 5 6⟩] ∧
      readings (Event.takenFrom? 3) earlier = [⟨1, .layerFinish⟩] ∧
      entry.kernel.sched.mailbox 3 = [⟨4, .timerTimeout 5 6⟩]) ∧
    (∃ after, KernelM.wait 3 ⟨1, Machine.exec 1 1⟩ post.ending = (.ok ⟨4, .timerTimeout 5 6⟩, after) ∧
      Machine.Takes ⟨1, Machine.exec 1 1⟩ 3 ⟨4, .timerTimeout 5 6⟩ post.ending after) ∧
    ∃ taken, Machine.Takes ⟨1, Machine.exec 1 1⟩ TaskId.eventLoop ⟨3, .layerFinish⟩ post.ending taken ∧
      (KernelM.loopTurn .kernel ⟨1, Machine.exec 1 1⟩ post.ending).2 =
        (KernelM.dispatch .kernel ⟨3, .layerFinish⟩
        ⟨1, Machine.exec 1 1⟩ (taken.record (.answered (.begun ⟨3, .layerFinish⟩)))).2 := by
  have reached : post.Reaches post.ending := reaches_ending rfl
  obtain ⟨ledger, -, told⟩ := messages_conserved reached
  have accounts := told post.ending post.ending.kernel_mem_kernels reached.calm.unlocked 1 1
  have letter : post.ending.kernel.sched.mailbox 3 = [⟨4, .timerTimeout 5 6⟩] := by decide +kernel
  have request : post.ending.kernel.sched.mailbox TaskId.eventLoop = [⟨3, .layerFinish⟩] := by decide +kernel
  have sent : readings (Event.sentTo? 3) post.ending.trace.tail =
      [⟨1, .layerFinish⟩, ⟨4, .timerTimeout 5 6⟩] := by
    decide +kernel
  have taken : readings (Event.takenFrom? 3) post.ending.trace.tail = [⟨1, .layerFinish⟩] := by decide +kernel
  have given : (KernelM.wait 3 ⟨1, Machine.exec 1 1⟩ post.ending).1.toOption = some ⟨4, .timerTimeout 5 6⟩ := by
    decide +kernel
  have closed : ∃ entry ∈ post.ending.trace.head?, entry.event.Closing := by decide +kernel
  refine ⟨reached, ?_, ?_, accounts.dispatches .kernel _ _ request⟩
  · cases trace : post.ending.trace with
    | nil =>
      rw [trace] at closed
      obtain ⟨_, none, _⟩ := closed
      cases none
    | cons entry earlier =>
      rw [trace] at sent taken closed
      obtain ⟨_, latest, ended⟩ := closed
      obtain rfl := Option.mem_some_iff.mp latest
      have balance := ledger entry earlier (trace ▸ List.suffix_rfl) ended 3
      rw [List.tail_cons] at sent taken
      rw [sent, taken] at balance
      exact ⟨entry, earlier, rfl, sent, taken, (List.cons.inj balance).2.symm⟩
  · have awaits := (accounts.waits 3).1
    generalize KernelM.wait 3 ⟨1, Machine.exec 1 1⟩ post.ending = ran at given awaits
    obtain ⟨_ | message, after⟩ := ran
    · cases given
    · cases given
      cases awaits with
      | took takes => exact ⟨after, rfl, takes⟩
      | dozed empty => exact absurd (empty.symm.trans letter) (List.cons_ne_nil _ _).symm

end Program.Reaches

end PriorityKernel
