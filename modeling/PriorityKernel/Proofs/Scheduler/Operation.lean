import PriorityKernel.Proofs.Scheduler.Choice
import PriorityKernel.Proofs.Scheduler.Shift

namespace PriorityKernel

/-- The same outcome with another answer. -/
def Outcome.map {α β : Type} (answer : α → β) (outcome : Outcome α) : Outcome β :=
  { outcome with reply := outcome.reply.map answer }

/-- The critical sections that change the scheduler. -/
inductive Operation where
  | create
  | prepare (memoryShort : Bool) (id : TaskId) (entry : UInt64) (argument : Int64)
  | receive (id : TaskId)
  | send (id : TaskId) (message : Message)
  | wakeup (id : TaskId) (level : Option Nat)
  | setLevel (id : TaskId) (level : Nat)
  | sleep (id : TaskId)
  | switch (sleeping : Bool)
  deriving DecidableEq

namespace Operation

/-- What an operation does to a scheduler; it answers with the switch to be made, if any. -/
def outcome (state : Scheduler) : Operation → Outcome (Option Handover)
  | create => state.create.map fun _ => none
  | prepare memoryShort id entry argument => (state.prepare memoryShort id entry argument).map fun _ => none
  | receive id => (state.receive id).map fun _ => none
  | send id message => (state.send id message).map fun _ => none
  | wakeup id level => (state.wakeup id level).map fun _ => none
  | setLevel id level => (state.setLevel id level).map fun _ => none
  | sleep id => state.sleep id
  | switch sleeping => state.switch sleeping

/-- The task that an operation names. -/
def addressee? : Operation → Option TaskId
  | create | switch _ => none
  | prepare _ id _ _ | receive id | send id _ | wakeup id _ | setLevel id _ | sleep id => some id

/-- Whether an operation picks the task to execute: a switch, or the executing task's sleep. The
idle task does not sleep, so its sleep picks nobody. -/
def Decides (state : Scheduler) : Operation → Prop
  | sleep id => state.current? = some id ∧ id ≠ state.idle
  | switch _ => True
  | _ => False

end Operation

namespace Scheduler

variable {state : Scheduler} {task : Task} {id : TaskId}

theorem withTask_none {α : Type} {body : Task → Outcome α} (absent : state.tasks.get? id = none) :
    state.withTask id body = Outcome.refuse (.noSuchTask id) state := by
  simp only [withTask, absent]

theorem withTask_some {α : Type} {body : Task → Outcome α} (here : state.tasks.get? id = some task) :
    state.withTask id body = body task := by
  simp only [withTask, here]

theorem Sound.moveRunning (sound : state.Sound) (here : state.tasks.get? task.id = some task)
    (running : task.running = true) (level : Level) :
    state.Shift task.id (state.moveRunning task level).next ∧ (state.moveRunning task level).reply = .ok () ∧
      (state.moveRunning task level).deeds = [] := by
  obtain ⟨front, executing⟩ := sound.executing
  unfold Scheduler.moveRunning
  split
  · exact ⟨.stay, rfl, rfl⟩
  split
  · exact ⟨.stay, rfl, rfl⟩
  · next mobile =>
    simp only [withCurrent, executing]
    split
    · next same =>
      subst same
      exact ⟨.carried here running executing mobile level, rfl, rfl⟩
    · next distinct =>
      have waiting : state.current? ≠ some task.id := by simpa [executing] using Ne.symm distinct
      exact ⟨.migrated here running waiting mobile level, rfl, rfl⟩

theorem Sound.wakeup (sound : state.Sound) (here : state.tasks.get? task.id = some task) (level : Option Nat) :
    state.Shift task.id (state.wakeup task.id level).next ∧ (state.wakeup task.id level).reply = .ok () ∧
      (state.wakeup task.id level).deeds = [] := by
  rw [Scheduler.wakeup, withTask_some here]
  split
  · next running =>
    cases level with
    | none => exact ⟨.stay, rfl, rfl⟩
    | some level => exact sound.moveRunning here running (Level.clamp level)
  · next asleep => exact ⟨.woken here (by simpa using asleep) _, rfl, rfl⟩

theorem Sound.setLevel (sound : state.Sound) (here : state.tasks.get? task.id = some task) (level : Nat) :
    state.Shift task.id (state.setLevel task.id level).next ∧ (state.setLevel task.id level).reply = .ok () ∧
      (state.setLevel task.id level).deeds = [] := by
  rw [Scheduler.setLevel, withTask_some here]
  split
  · next running => exact sound.moveRunning here running (Level.clamp level)
  · next asleep => exact ⟨.relevelled here (by simpa using asleep) _, rfl, rfl⟩

theorem prepare_shift (here : state.tasks.get? task.id = some task) (memoryShort : Bool) (entry : UInt64)
    (argument : Int64) :
    state.Shift task.id (state.prepare memoryShort task.id entry argument).next ∧
      (∀ fault, (state.prepare memoryShort task.id entry argument).reply = .error fault →
        fault = .refused (.outOfMemory task.id Config.stackBytes)) ∧
      ∀ deed ∈ (state.prepare memoryShort task.id entry argument).deeds,
        deed = .prepared task.id entry argument := by
  rw [Scheduler.prepare, withTask_some here, Task.prepare]
  cases reserved : task.stack.block.or (state.memory.offer memoryShort task.id) with
  | none =>
    exact ⟨.equipped here _ task.context, by simp [Outcome.refuse, eq_comm], by simp [Outcome.refuse]⟩
  | some block =>
    exact ⟨.equipped here _ _, by simp, by simp⟩

theorem Sound.sleep_waiting (sound : state.Sound) (here : state.tasks.get? task.id = some task)
    (waiting : ¬Operation.Decides state (.sleep task.id)) :
    state.Shift task.id (state.sleep task.id).next ∧ (state.sleep task.id).reply = .ok none ∧
      ∀ deed ∈ (state.sleep task.id).deeds, deed = .parked task.id := by
  obtain ⟨front, executing⟩ := sound.executing
  unfold Scheduler.sleep
  split
  · exact ⟨.stay, rfl, by simp [Outcome.pure, Outcome.noting]⟩
  · next mobile =>
    have other : state.current? ≠ some task.id := fun same => waiting ⟨same, mobile⟩
    have distinct : front ≠ task.id := by simpa [executing] using other
    simp only [withCurrent, executing, withTask_some here, distinct, if_false]
    split
    · next running => exact ⟨.dismissed here running other mobile, rfl, by simp⟩
    · exact ⟨.stay, rfl, by simp [Outcome.pure]⟩

theorem Sound.sleep_deciding (sound : state.Sound) (deciding : Operation.Decides state (.sleep id)) :
    state.sleep id = state.switch true := by
  obtain ⟨task, here, running, _⟩ := sound.executing_task deciding.1
  have same := TaskTable.id_of_get? here
  subst same
  exact sleep_executing here running deciding.1 deciding.2

/-- The table after the messages of a task changed. -/
def repost (state : Scheduler) (task : Task) (messages : List Message) : Scheduler :=
  state.store { task with messages }

theorem Sound.repost (sound : state.Sound) (here : state.tasks.get? task.id = some task)
    (messages : List Message) : (state.repost task messages).Sound :=
  sound.store { task with messages } here fun _ => rfl

theorem get?_repost (here : state.tasks.get? task.id = some task) (messages : List Message) :
    (state.repost task messages).tasks.get? ({ task with messages } : Task).id = some { task with messages } := by
  apply TaskTable.get?_set_self
  exact here

theorem receive_eq (here : state.tasks.get? task.id = some task) :
    state.receive task.id =
      match task.messages with
      | [] => Outcome.pure none state
      | message :: rest => ⟨.ok (some message), state.repost task rest, [], [.taken task.id message]⟩ :=
  withTask_some here

/-- A message is put in the queue, and then the receiver is woken. -/
theorem Sound.send (sound : state.Sound) (here : state.tasks.get? task.id = some task) (message : Message) :
    (state.repost task (task.messages ++ [message])).Shift task.id (state.send task.id message).next ∧
      (state.send task.id message).reply = .ok () ∧
      (state.send task.id message).deeds = [.sent task.id message] := by
  have posted := get?_repost here (task.messages ++ [message])
  have woken := (sound.repost here (task.messages ++ [message])).wakeup posted none
  rw [Scheduler.send, withTask_some here]
  exact ⟨woken.1, woken.2.1, congrArg (Deed.sent task.id message :: ·) woken.2.2⟩

end Scheduler

end PriorityKernel
