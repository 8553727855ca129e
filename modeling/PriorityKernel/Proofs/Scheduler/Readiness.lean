import PriorityKernel.Proofs.Scheduler.Operation

namespace PriorityKernel.Scheduler

variable {state : Scheduler} {task : Task} {id : TaskId} {level : Level}

theorem wakeup_ready (state : Scheduler) (id : TaskId) :
    (state.wakeup id none).next.currentLevel = state.currentLevel ∧
      ∀ other level, other ∈ state.ready.queue level →
        other ∈ (state.wakeup id none).next.ready.queue level := by
  rcases state.tasks.absent_or_here id with absent | ⟨task, rfl, here⟩
  · rw [Scheduler.wakeup, withTask_none absent]
    exact ⟨rfl, fun _ _ member => member⟩
  · rw [Scheduler.wakeup, withTask_some here]
    split
    · exact ⟨rfl, fun _ _ member => member⟩
    · refine ⟨rfl, fun other level member => ?_⟩
      show other ∈ (state.ready.pushBack task.level task.id).queue level
      simp only [ReadyQueues.pushBack, ReadyQueues.queue_update]
      split
      · next same =>
        subst same
        exact List.mem_append_left _ member
      · exact member

theorem send_ready (state : Scheduler) (id : TaskId) (message : Message) :
    (state.send id message).next.currentLevel = state.currentLevel ∧
      ∀ other level, other ∈ state.ready.queue level →
        other ∈ (state.send id message).next.ready.queue level := by
  rcases state.tasks.absent_or_here id with absent | ⟨task, rfl, here⟩
  · rw [Scheduler.send, withTask_none absent]
    exact ⟨rfl, fun _ _ member => member⟩
  · rw [Scheduler.send, withTask_some here]
    exact wakeup_ready (state.repost task (task.messages ++ [message])) task.id

theorem Sound.wakeup_wakes (sound : state.Sound) (here : state.tasks.get? task.id = some task) :
    ∃ level, task.id ∈ (state.wakeup task.id none).next.ready.queue level := by
  rw [Scheduler.wakeup, withTask_some here]
  split
  · next running => exact ⟨task.level, sound.mem_own_queue here running⟩
  · refine ⟨task.level, ?_⟩
    show task.id ∈ (state.ready.pushBack task.level task.id).queue task.level
    rw [ReadyQueues.pushBack, ReadyQueues.queue_update_self]
    exact List.mem_append_right _ (List.mem_singleton_self _)

theorem Sound.send_wakes (sound : state.Sound) (here : state.tasks.get? id = some task) (message : Message) :
    ∃ level, id ∈ (state.send id message).next.ready.queue level := by
  have same := TaskTable.id_of_get? here
  subst same
  have posted := get?_repost here (task.messages ++ [message])
  have woken := (sound.repost here (task.messages ++ [message])).wakeup_wakes posted
  rw [Scheduler.send, withTask_some here]
  exact woken

/-- Nobody goes to sleep in a switch in which the executing task stays awake. -/
theorem Sound.mem_switch_iff (sound : state.Sound) :
    id ∈ (state.switch false).next.ready.queue level ↔ id ∈ state.ready.queue level := by
  obtain ⟨outgoing, _, executing, _, _, made⟩ := sound.switch false
  have front := ReadyQueues.count_popFront executing id level
  have same : ((state.requeue outgoing).ready.queue level).count id = (state.ready.queue level).count id := by
    rw [Scheduler.requeue, ReadyQueues.count_pushBack, front]
  rw [made, settle_ready, Scheduler.aside, if_neg (by simp), ← List.count_pos_iff, same, List.count_pos_iff]

end PriorityKernel.Scheduler
