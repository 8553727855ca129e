import PriorityKernel.Proofs.Keyboard.Typing
import PriorityKernel.Proofs.Machine.SingleOperations
import PriorityKernel.Proofs.Scheduler.Awake

namespace PriorityKernel

open Machine

variable {machine : Machine} {scope : Scope}

/-- The message that tells the event loop of a key push. -/
def KeyPush.message (push : KeyPush) : Message := ⟨TaskId.kernel, .keyPush push⟩

namespace Machine

/-- What becomes of a machine while bytes from its keyboard controller are decoded. -/
structure Polled (before after : Machine) (bytes : List UInt8) : Prop where
  continues : before.Continues after
  scanCodes : before.kernel.scanCodes = bytes ++ after.kernel.scanCodes
  keyboard : after.kernel.keyboard = (before.kernel.keyboard.feedAll bytes).2
  mailbox : after.kernel.sched.mailbox TaskId.eventLoop = before.kernel.sched.mailbox TaskId.eventLoop ++
    (before.kernel.keyboard.feedAll bytes).1.map KeyPush.message
  /-- Whoever is sent a key push is awake. -/
  wakes : (before.kernel.keyboard.feedAll bytes).1 ≠ [] → after.kernel.sched.Awake TaskId.eventLoop
  awake : before.kernel.sched.Awake TaskId.eventLoop → after.kernel.sched.Awake TaskId.eventLoop

theorem Polled.refl (calm : machine.Calm) : machine.Polled machine [] :=
  ⟨.refl calm, rfl, rfl, (List.append_nil _).symm, fun pushed => absurd rfl pushed, fun awake => awake⟩

theorem Polled.trans {first second third : Machine} {bytes later : List UInt8} (earlier : first.Polled second bytes)
    (last : second.Polled third later) : first.Polled third (bytes ++ later) where
  continues := earlier.continues.trans last.continues
  scanCodes := by rw [earlier.scanCodes, last.scanCodes, List.append_assoc]
  keyboard := by rw [last.keyboard, earlier.keyboard, Keyboard.feedAll_append]
  mailbox := by
    rw [last.mailbox, earlier.mailbox, earlier.keyboard, Keyboard.feedAll_append, List.map_append, List.append_assoc]
  wakes := by
    intro pushed
    by_cases before : (first.kernel.keyboard.feedAll bytes).1 = []
    · rw [Keyboard.feedAll_append, before, List.nil_append, ← earlier.keyboard] at pushed
      exact last.wakes pushed
    · exact last.awake (earlier.wakes before)
  awake := fun awake => last.awake (earlier.awake awake)

end Machine

namespace KernelM

theorem run_decode (calm : machine.Calm) (undisturbed : machine.Undisturbed) (byte : UInt8) (scope : Scope) :
    decode byte scope machine = (.ok (machine.kernel.keyboard.feed byte).1,
      { machine with kernel.keyboard := (machine.kernel.keyboard.feed byte).2 }) := by
  have inside : decode byte scope machine.mask = (.ok (machine.kernel.keyboard.feed byte).1,
      { machine.mask with kernel.keyboard := (machine.kernel.keyboard.feed byte).2 }) := by
    rw [decode, holding_of_off rfl (calm.mask.free _), run_bind_of_ok (run_kernel ..)]
    simp only [run_bind, run_modifyKernel, run_pure, Machine.release, Machine.hold, List.erase_cons_head]
    rfl
  exact holding_of_undisturbed inside rfl undisturbed

theorem run_sendKeyPush (calm : machine.Calm) (undisturbed : machine.Undisturbed) (push : KeyPush) (scope : Scope) :
    ∃ after, sendKeyPush push scope machine = (.ok (), after) ∧
      machine.Undergoes after (.send TaskId.eventLoop push.message) := by
  have made : machine.Undergoes (send TaskId.eventLoop push.message scope machine).2
      (.send TaskId.eventLoop push.message) :=
    critical_undergoes_of_calm calm undisturbed (·.sched.send TaskId.eventLoop push.message) (fun _ => rfl) scope
  have answered : (send TaskId.eventLoop push.message scope machine).1 = .ok () := by
    rw [send, run_critical calm undisturbed]
    exact (calm.sound.send_event_loop push.message).1
  exact ⟨_, run_bind_of_ok (attempt_of_ok (Prod.ext answered rfl)), made⟩

/-- A byte that waits is decoded, and the key push that it completes is sent. -/
theorem run_pollBytes_cons (calm : machine.Calm) (undisturbed : machine.Undisturbed) {byte : UInt8} {rest : List UInt8}
    (waits : machine.kernel.scanCodes = byte :: rest) (bytes : Nat) (scope : Scope) : ∃ after,
    pollBytes (bytes + 1) scope machine = pollBytes bytes scope after ∧ machine.Polled after [byte] := by
  have taken : takeScanCode scope machine = (.ok (some byte), { machine with kernel.scanCodes := rest }) := by
    rw [takeScanCode, run_bind_of_ok (run_kernel scope machine), waits]
    rfl
  generalize fed : machine.kernel.keyboard.feed byte = result
  obtain ⟨push?, keyboard⟩ := result
  have calmTaken : ({ machine with kernel.scanCodes := rest } : Machine).Calm := ⟨calm.unlocked, calm.sound⟩
  have calmDecoded : ({ machine with kernel.scanCodes := rest, kernel.keyboard := keyboard } : Machine).Calm :=
    ⟨calm.unlocked, calm.sound⟩
  have decoded : decode byte scope { machine with kernel.scanCodes := rest } =
      (.ok push?, { machine with kernel.scanCodes := rest, kernel.keyboard := keyboard }) := by
    have run := run_decode calmTaken undisturbed byte scope
    simp only [fed] at run
    exact run
  have feedAll : machine.kernel.keyboard.feedAll [byte] = (push?.toList, keyboard) := by
    simp [Keyboard.feedAll, fed]
  cases push? with
  | none =>
    refine ⟨{ machine with kernel.scanCodes := rest, kernel.keyboard := keyboard }, ?_, ?_⟩
    · rw [pollBytes, run_bind_of_ok taken]
      exact run_bind_of_ok decoded
    · refine ⟨⟨calmDecoded, rfl, rfl⟩, waits, ?_, ?_, ?_, fun awake => awake⟩
      · rw [feedAll]
      · rw [feedAll]
        exact (List.append_nil _).symm
      · rw [feedAll]
        exact fun pushed => absurd rfl pushed
  | some push =>
    obtain ⟨after, sent, made⟩ := run_sendKeyPush calmDecoded undisturbed push scope
    obtain ⟨keyboardKept, codesKept⟩ := made.keyboard
    have started : machine.Continues { machine with kernel.scanCodes := rest, kernel.keyboard := keyboard } :=
      ⟨calmDecoded, rfl, rfl⟩
    have known : TaskId.eventLoop ∈ machine.kernel.sched.tasks.ids :=
      TaskTable.mem_ids_iff.mpr calm.sound.event_loop_task
    have woken : (machine.kernel.sched.send TaskId.eventLoop push.message).next.Awake TaskId.eventLoop := by
      rcases calm.sound.send_awakens TaskId.eventLoop push.message with ⟨-, -, -, -, awake⟩ | ⟨absent, -⟩
      · exact awake
      · exact absurd known absent
    refine ⟨after, ?_, started.trans (made.continues calmDecoded), ?_, ?_, ?_, ?_, ?_⟩
    · rw [pollBytes, run_bind_of_ok taken]
      exact (run_bind_of_ok decoded).trans (run_bind_of_ok sent)
    · rw [codesKept]
      exact waits
    · rw [keyboardKept, feedAll]
    · rw [feedAll, made.sched]
      exact calm.sound.send_event_loop_mailbox push.message TaskId.eventLoop
    · rw [made.sched]
      exact fun _ => woken
    · rw [made.sched]
      exact fun _ => woken

theorem run_burst (calm : machine.Calm) (undisturbed : machine.Undisturbed) (bytes : Nat) (scope : Scope) : ∃ after,
    pollBytes bytes scope machine = (.ok (), after) ∧
      machine.Polled after (machine.kernel.scanCodes.take bytes) := by
  induction bytes generalizing machine with
  | zero => exact ⟨machine, rfl, .refl calm⟩
  | succ bytes ih =>
    cases waits : machine.kernel.scanCodes with
    | nil =>
      have none : takeScanCode scope machine = (.ok none, machine) := by
        rw [takeScanCode, run_bind_of_ok (run_kernel scope machine), waits]
        rfl
      refine ⟨machine, ?_, .refl calm⟩
      rw [pollBytes, run_bind_of_ok none]
      rfl
    | cons byte rest =>
      obtain ⟨next, run, first⟩ := run_pollBytes_cons calm undisturbed waits bytes scope
      obtain ⟨after, ran, later⟩ := ih first.continues.calm (first.continues.undisturbed undisturbed)
      have left : next.kernel.scanCodes = rest := by
        have whole := first.scanCodes
        rw [waits] at whole
        exact (List.cons.inj whole).2.symm
      rw [left] at later
      exact ⟨after, run.trans ran, first.trans later⟩

theorem run_pollBytes (alone : machine.Alone) (bytes : Nat) (scope : Scope) : ∃ after,
    pollBytes bytes scope machine = (.ok (), after) ∧
      machine.Polled after (machine.kernel.scanCodes.take bytes) :=
  run_burst alone.toCalm alone.undisturbed bytes scope

end KernelM

end PriorityKernel
