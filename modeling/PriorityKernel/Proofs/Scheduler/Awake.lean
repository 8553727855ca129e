import PriorityKernel.Proofs.Scheduler.Mailbox
import PriorityKernel.Proofs.Scheduler.Readiness

namespace PriorityKernel

namespace Scheduler

variable {state : Scheduler} {task found : Task} {id other : TaskId}

/-- The task exists and runs. -/
def Awake (state : Scheduler) (id : TaskId) : Prop :=
  ∃ task, state.tasks.get? id = some task ∧ task.running = true

/-- Whoever has a message is awake. -/
def Attentive (state : Scheduler) : Prop := ∀ id, state.mailbox id ≠ [] → state.Awake id

theorem Placed.awake_of_ready (placed : state.Placed) {level : Level} (member : id ∈ state.ready.queue level) :
    state.Awake id := by
  obtain ⟨task, here, running, _⟩ := placed.mem_queue_iff.mp member
  exact ⟨task, here, running⟩

theorem Awake.store_other (awake : state.Awake id) (distinct : id ≠ task.id) : (state.store task).Awake id := by
  obtain ⟨same, here, running⟩ := awake
  exact ⟨same, (TaskTable.get?_set_of_ne distinct).trans here, running⟩

theorem Awake.store (awake : state.Awake id) (task : Task) (here : state.tasks.get? task.id = some found)
    (kept : found.running = true → task.running = true) : (state.store task).Awake id := by
  by_cases same : id = task.id
  · subst same
    obtain ⟨before, at', running⟩ := awake
    rw [here] at at'
    cases at'
    exact ⟨task, TaskTable.get?_set_self here, kept running⟩
  · exact awake.store_other same

theorem Awake.moveRunning (awake : state.Awake id) (here : state.tasks.get? task.id = some task) (level : Level) :
    (state.moveRunning task level).next.Awake id := by
  have stored := awake.store { task with level } here fun running => running
  unfold Scheduler.moveRunning
  split
  · exact awake
  · split
    · exact awake
    · unfold withCurrent
      split
      · exact awake
      · dsimp only
        split
        · exact stored
        · exact stored

theorem Awake.withTask {α : Type} (awake : state.Awake id) (owner : TaskId) {body : Task → Outcome α}
    (kept : ∀ task, state.tasks.get? task.id = some task → (body task).next.Awake id) :
    (state.withTask owner body).next.Awake id := by
  rcases state.tasks.absent_or_here owner with absent | ⟨task, rfl, here⟩
  · rw [withTask_none absent]
    exact awake
  · rw [withTask_some here]
    exact kept task here

theorem Awake.wakeup (awake : state.Awake id) (woken : TaskId) (level : Option Nat) :
    (state.wakeup woken level).next.Awake id := by
  refine awake.withTask woken fun task here => ?_
  split
  · cases level with
    | none => exact awake
    | some level => exact awake.moveRunning here _
  · exact awake.store { task with level := (level.map Level.clamp).getD task.level, running := true } here fun _ => rfl

theorem Awake.setLevel (awake : state.Awake id) (moved : TaskId) (level : Nat) :
    (state.setLevel moved level).next.Awake id := by
  refine awake.withTask moved fun task here => ?_
  split
  · exact awake.moveRunning here _
  · exact awake.store { task with level := Level.clamp level } here fun running => running

theorem Awake.send (awake : state.Awake id) (receiver : TaskId) (message : Message) :
    (state.send receiver message).next.Awake id :=
  awake.withTask receiver fun task here =>
    (awake.store { task with messages := task.messages ++ [message] } here fun running => running).wakeup receiver none

theorem Awake.receive (awake : state.Awake id) (owner : TaskId) : (state.receive owner).next.Awake id := by
  refine awake.withTask owner fun task here => ?_
  cases task.messages with
  | nil => exact awake
  | cons message rest => exact awake.store { task with messages := rest } here fun running => running

theorem Awake.prepare (awake : state.Awake id) (memoryShort : Bool) (owner : TaskId) (entry : UInt64)
    (argument : Int64) : (state.prepare memoryShort owner entry argument).next.Awake id := by
  refine awake.withTask owner fun task here => ?_
  have stored : ∀ stack context, (state.store { task with stack, context }).Awake id := fun stack context =>
    awake.store { task with stack, context } here fun running => running
  rw [Task.prepare]
  cases task.stack.block.or (state.memory.offer memoryShort task.id) with
  | none => exact stored _ _
  | some block => exact stored _ _

theorem Awake.create (awake : state.Awake id) : state.create.next.Awake id := by
  obtain ⟨task, here, running⟩ := awake
  refine ⟨task, ?_, running⟩
  show (state.tasks.push _).get? id = some task
  rw [TaskTable.get?_push, here]
  rfl

theorem Awake.switch (awake : state.Awake id) (sound : state.Sound) : (state.switch false).next.Awake id := by
  obtain ⟨outgoing, _, _, _, _, made⟩ := sound.switch false
  have same : (state.aside false outgoing).settle.tasks = state.tasks := by
    rw [settle_tasks, Scheduler.aside, if_neg (by simp)]
    rfl
  rw [made, Awake, same]
  exact awake

/-- A message for a task that exists goes to the back of its mailbox and leaves the task awake; one for
a task that does not exist is refused. -/
theorem Sound.send_awakens (sound : state.Sound) (id : TaskId) (message : Message) :
    (id ∈ state.tasks.ids ∧ (state.send id message).reply = .ok () ∧
      (state.send id message).deeds = [.sent id message] ∧
      (state.send id message).next.mailbox id = state.mailbox id ++ [message] ∧
      (state.send id message).next.Awake id) ∨
    (id ∉ state.tasks.ids ∧ state.send id message = Outcome.refuse (.noSuchTask id) state) := by
  rcases state.tasks.absent_or_here id with absent | ⟨task, rfl, here⟩
  · refine Or.inr ⟨fun known => ?_, withTask_none absent⟩
    obtain ⟨task, here⟩ := TaskTable.mem_ids_iff.mp known
    rw [absent] at here
    cases here
  · obtain ⟨shift, reply, deeds⟩ := sound.send here message
    have posted := sound.repost here (task.messages ++ [message])
    obtain ⟨level, ready⟩ := sound.send_wakes here message
    refine Or.inl ⟨TaskTable.mem_ids_iff.mpr ⟨task, here⟩, reply, deeds, ?_, ?_⟩
    · rw [shift.mailbox posted, mailbox_repost here, if_pos rfl, mailbox_of_get? here]
    · exact (shift.sound posted).toPlaced.awake_of_ready ready

theorem Shift.awake {moved : TaskId} {next : Scheduler} (shift : state.Shift moved next) (awake : state.Awake id)
    (distinct : id ≠ moved) : next.Awake id := by
  cases shift with
  | stay => exact awake
  | created => exact awake.create
  | equipped | relevelled | woken | carried | migrated | dismissed => exact awake.store_other distinct

theorem Awake.park (awake : state.Awake id) (distinct : id ≠ other) : (state.park other).Awake id := by
  rcases state.tasks.absent_or_here other with absent | ⟨task, rfl, here⟩
  · simp only [Scheduler.park, absent]
    exact awake
  · rw [park_eq here]
    exact awake.store_other distinct

theorem Sound.sleep_own (sound : state.Sound) (id : TaskId) :
    (∀ other, state.Awake other → other ≠ id → (state.sleep id).next.Awake other) ∧
      ∀ deed ∈ (state.sleep id).deeds, deed = .parked id := by
  by_cases decides : Operation.Decides state (.sleep id)
  · obtain ⟨outgoing, _, executing, _, _, made⟩ := sound.switch true
    have own : outgoing = id := Option.some.inj (executing.symm.trans decides.1)
    subst own
    rw [sound.sleep_deciding decides, made]
    constructor
    · intro other awake distinct
      rw [Awake, settle_tasks, Scheduler.aside]
      split
      · exact awake.park distinct
      · exact awake
    · simp
  · rcases state.tasks.absent_or_here id with absent | ⟨task, rfl, here⟩
    · have refused : state.sleep id = Outcome.refuse (.noSuchTask id) state :=
        Operation.outcome_of_absent sound (rfl : (Operation.sleep id).addressee? = some id) absent
      rw [refused]
      exact ⟨fun _ awake _ => awake, by simp [Outcome.refuse]⟩
    · obtain ⟨shift, _, deeds⟩ := sound.sleep_waiting here decides
      exact ⟨fun _ awake distinct => shift.awake awake distinct, deeds⟩

end Scheduler

theorem Operation.sent_deed {state : Scheduler} {operation : Operation} (sound : state.Sound) {receiver : TaskId}
    {message : Message} (did : Deed.sent receiver message ∈ (operation.outcome state).deeds) :
    (operation.outcome state).next.Awake receiver := by
  have after := (operation.effect sound).sound sound
  cases operation.effect sound with
  | shifted _ _ silent => exact absurd trivial (silent _ did)
  | taken _ _ _ deeds =>
    rw [deeds] at did
    cases List.mem_singleton.mp did
  | @sent task message here _ deeds =>
    rw [deeds] at did
    cases List.mem_singleton.mp did
    obtain ⟨level, ready⟩ := sound.send_wakes here message
    exact after.awake_of_ready ready
  | decided _ _ _ _ _ _ silent => exact absurd trivial (silent _ did)

end PriorityKernel
