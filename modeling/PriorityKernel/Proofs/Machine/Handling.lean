import PriorityKernel.Proofs.Machine.Polling
import PriorityKernel.Proofs.Machine.Muting
import PriorityKernel.Proofs.Machine.Steps

namespace PriorityKernel

open Machine

variable {α β : Type} {scope : Scope} {machine : Machine} {extra more : Nat}

/-- A message whose handling brings the event loop no other. -/
def Message.Light (message : Message) : Prop := (∃ push, message.kind = .keyPush push) ∨ message.kind = .layerFinish

/-- If the message tells of a blink timer, that timer can be armed again. -/
def Message.Early (message : Message) : Prop :=
  ∀ timeout, message.kind = .timerTimeout timeout Config.blinkTag →
    timeout + Config.blinkInterval ≤ Config.lastTick

/-- A request of the event loop to itself. -/
def Message.Own (message : Message) : Bool :=
  message.kind.handlerKind? == some .layer && message.source == TaskId.eventLoop

theorem Message.Light.foreign {message : Message} (light : message.Light) : message.Own = false := by
  obtain ⟨source, kind⟩ := message
  rcases light with ⟨push, rfl⟩ | rfl
  · rfl
  · rfl

namespace Machine

/-- A machine between calls on which nothing was set aside to run. -/
structure Vacant (machine : Machine) : Prop extends machine.Calm where
  agenda : machine.agenda = {}

theorem Vacant.alone (vacant : machine.Vacant) : machine.Alone where
  toCalm := vacant.toCalm
  undisturbed := fun _ => congrArg Agenda.pending vacant.agenda
  hookless := congrArg Agenda.hooks vacant.agenda

theorem Vacant.tranquil (vacant : machine.Vacant) : machine.Tranquil where
  toCalm := vacant.toCalm
  agenda := by
    rw [vacant.agenda]
    constructor <;> simp
  unraised := congrArg Agenda.pending vacant.agenda

theorem Continues.vacant {after : Machine} (continues : machine.Continues after) (vacant : machine.Vacant) :
    after.Vacant :=
  ⟨continues.calm, continues.agenda.trans vacant.agenda⟩

/-- Between the two machines the event loop was sent light messages only, and no more of them than bytes were
taken from the keyboard controller and `extra`. -/
structure Spends (before after : Machine) (extra : Nat) : Prop where
  continues : before.Continues after
  added : ∃ new, after.kernel.sched.mailbox TaskId.eventLoop = before.kernel.sched.mailbox TaskId.eventLoop ++ new ∧
    (∀ message ∈ new, message.Light) ∧
    new.length + after.kernel.scanCodes.length ≤ before.kernel.scanCodes.length + extra

theorem Spends.trans {first second third : Machine} (earlier : first.Spends second extra)
    (later : second.Spends third more) : first.Spends third (extra + more) := by
  obtain ⟨new, mailbox, light, few⟩ := earlier.added
  obtain ⟨newer, mailboxLater, lightLater, fewLater⟩ := later.added
  refine ⟨earlier.continues.trans later.continues, new ++ newer, ?_, ?_, ?_⟩
  · rw [mailboxLater, mailbox, List.append_assoc]
  · exact fun message member => (List.mem_append.mp member).elim (light message) (lightLater message)
  · rw [List.length_append]
    omega

/-- A change that leaves the mailbox of the event loop and the keyboard controller alone. -/
theorem Continues.spends {after : Machine} (continues : machine.Continues after)
    (mailbox : after.kernel.sched.mailbox TaskId.eventLoop = machine.kernel.sched.mailbox TaskId.eventLoop)
    (scanCodes : after.kernel.scanCodes = machine.kernel.scanCodes) : machine.Spends after 0 := by
  refine ⟨continues, [], by rw [mailbox, List.append_nil], List.forall_mem_nil _, ?_⟩
  rw [scanCodes, List.length_nil, Nat.zero_add]
  exact Nat.le_refl _

end Machine

theorem Keyboard.feedAll_length (keyboard : Keyboard) (bytes : List UInt8) :
    (keyboard.feedAll bytes).1.length ≤ bytes.length := by
  induction bytes generalizing keyboard with
  | nil => exact Nat.le_refl 0
  | cons byte rest ih =>
    have later := ih (keyboard.feed byte).2
    have one : (keyboard.feed byte).1.toList.length ≤ 1 := by
      cases (keyboard.feed byte).1 with
      | none => exact Nat.zero_le 1
      | some push => exact Nat.le_refl 1
    simp only [Keyboard.feedAll, List.length_append, List.length_cons]
    omega

theorem Machine.Polled.spends {after : Machine} {bytes : List UInt8} (polled : machine.Polled after bytes) :
    machine.Spends after 0 := by
  refine ⟨polled.continues, _, polled.mailbox, ?_, ?_⟩
  · rintro _ member
    obtain ⟨push, -, rfl⟩ := List.mem_map.mp member
    exact Or.inl ⟨push, rfl⟩
  · have few := machine.kernel.keyboard.feedAll_length bytes
    rw [polled.scanCodes, List.length_append, List.length_map]
    omega

namespace KernelM

/-- A call that answers, and spends no more than `extra`, wherever nothing was set aside to run. -/
def Frugal (call : KernelM α) (extra : Nat) : Prop :=
  ∀ scope machine, machine.Vacant →
    ∃ value after, call scope machine = (.ok value, after) ∧ machine.Spends after extra

/-! ### Rules -/

theorem frugal_pure (value : α) : Frugal (pure value : KernelM α) 0 := fun _ machine vacant =>
  ⟨value, machine, rfl, (Continues.refl vacant.toCalm).spends rfl rfl⟩

theorem Frugal.bind {call : KernelM α} {next : α → KernelM β} (first : Frugal call extra)
    (rest : ∀ value, Frugal (next value) more) : Frugal (call >>= next) (extra + more) := by
  intro scope machine vacant
  obtain ⟨value, between, run, earlier⟩ := first scope machine vacant
  obtain ⟨last, after, ran, later⟩ := rest value scope between (earlier.continues.vacant vacant)
  exact ⟨last, after, (run_bind_of_ok run).trans ran, earlier.trans later⟩

theorem Frugal.ite {choose : Prop} [Decidable choose] {first second : KernelM α} (yes : Frugal first extra)
    (no : Frugal second extra) : Frugal (if choose then first else second) extra := by
  split
  · exact yes
  · exact no

theorem Frugal.forM {call : α → KernelM Unit} (each : ∀ item, Frugal (call item) 0) (items : List α) :
    Frugal (items.forM call) 0 := by
  induction items with
  | nil => exact frugal_pure ()
  | cons item rest ih => exact (each item).bind fun _ => ih

theorem Logs.frugal {call : KernelM α} (logs : Logs call) : Frugal call 0 := by
  intro scope machine vacant
  obtain ⟨value, lines, -, run⟩ := logs scope machine vacant.tranquil
  exact ⟨value, _, run, Continues.spends ⟨⟨vacant.unlocked, vacant.sound⟩, rfl, rfl⟩ rfl rfl⟩

theorem frugal_log (notice : Notice) : Frugal (log notice) 0 := (logs_log notice).frugal

theorem frugal_record (event : Event) : Frugal (record event) 0 := fun _ _ vacant =>
  ⟨(), _, rfl, Continues.spends ⟨⟨vacant.unlocked, vacant.sound⟩, rfl, rfl⟩ rfl rfl⟩

theorem frugal_kernel : Frugal kernel 0 := fun _ machine vacant =>
  ⟨machine.kernel, machine, rfl, (Continues.refl vacant.toCalm).spends rfl rfl⟩

theorem frugal_modifyKernel {change : Kernel → Kernel}
    (same : ∀ kernel, (change kernel).sched = kernel.sched ∧ (change kernel).locks = kernel.locks ∧
      (change kernel).interrupts = kernel.interrupts ∧ (change kernel).scanCodes = kernel.scanCodes) :
    Frugal (modifyKernel change) 0 := by
  intro scope machine vacant
  obtain ⟨sched, locks, interrupts, scanCodes⟩ := same machine.kernel
  have calm : ({ machine with kernel := change machine.kernel } : Machine).Calm :=
    ⟨locks.trans vacant.unlocked, by rw [sched]; exact vacant.sound⟩
  refine ⟨(), _, rfl, Continues.spends ⟨calm, rfl, interrupts⟩ ?_ scanCodes⟩
  rw [sched]

theorem Frugal.whenLogged {call : KernelM Unit} (frugal : Frugal call 0) (level : LogLevel) :
    Frugal (whenLogged level call) 0 := by
  intro scope machine vacant
  rw [KernelM.whenLogged, run_bind_of_ok (run_get scope machine)]
  split
  · exact frugal scope machine vacant
  · exact frugal_pure () scope machine vacant

/-! ### The kernel's handler -/

theorem frugal_logRow (id : TaskId) : Frugal (logRow id) 0 := by
  intro scope machine vacant
  have looked (reply : Except Fault Snapshot)
      (shown : (machine.mask.hold .scheduler).kernel.sched.snapshot id = ⟨reply, machine.kernel.sched, [], []⟩) :
      snapshot id scope machine = (reply, machine) := by
    refine (run_look vacant.toCalm vacant.alone.undisturbed ?_ ?_ ?_ scope).trans ?_
    all_goals rw [shown]
  rcases machine.kernel.sched.tasks.absent_or_here id with absent | ⟨task, rfl, here⟩
  · have run := looked _ (Scheduler.withTask_none absent)
    have tried : attempt (snapshot id) scope machine = (.ok (.error (.noSuchTask id)), machine) := by
      rw [run_attempt, run]
    rw [logRow, run_bind_of_ok tried]
    exact frugal_pure () scope machine vacant
  · have run := looked _ (Scheduler.withTask_some here)
    rw [logRow, run_bind_of_ok (attempt_of_ok run)]
    exact frugal_log _ scope machine vacant

theorem frugal_logTable : Frugal logTable 0 := by
  have head : Frugal (do
      let now ← clock
      let count ← taskCount
      let current ← currentTask
      let level ← currentLevel
      log (.tableHead now count current level)) 0 :=
    logs_clock.frugal.bind fun _ => (logs_inspect _).frugal.bind fun _ => logs_currentTask.frugal.bind fun _ =>
      (logs_inspect _).frugal.bind fun _ => frugal_log _
  have queue (level : Level) : Frugal (do log (.tableQueue level (← readyAt level.val))) 0 :=
    (logs_inspect _).frugal.bind fun _ => frugal_log _
  exact (head.whenLogged .info).bind fun _ => (logs_inspect _).frugal.bind fun ids =>
    (Frugal.forM frugal_logRow ids).bind fun _ =>
      (Frugal.forM (fun level => (queue level).whenLogged .info) Level.descending).bind fun _ =>
        frugal_kernel.bind fun _ => frugal_log _

theorem frugal_addTimer (timer : Timer) : Frugal (addTimer timer) 0 := fun scope _ vacant =>
  ⟨(), _, run_addTimer vacant.toCalm vacant.alone.undisturbed timer scope,
    Continues.spends ⟨⟨vacant.unlocked, vacant.sound⟩, rfl, rfl⟩ rfl rfl⟩

/-- A timer is handled unless it is a blink timer that comes due again after the last tick. -/
theorem frugal_onTimer {timeout : Nat} {value : Int}
    (early : value = Config.blinkTag → timeout + Config.blinkInterval ≤ Config.lastTick) :
    Frugal (onTimer timeout value) 0 := by
  unfold onTimer
  split
  · next blinks =>
    have armed := frugal_addTimer ⟨timeout + Config.blinkInterval, Config.blinkTag⟩
    have toggled : Frugal (modifyKernel fun kernel => { kernel with cursorVisible := !kernel.cursorVisible }) 0 :=
      frugal_modifyKernel fun _ => ⟨rfl, rfl, rfl, rfl⟩
    have counts : ¬Config.lastTick < timeout + Config.blinkInterval := Nat.not_lt.mpr (early blinks)
    simp only [if_neg counts]
    exact toggled.bind fun _ => frugal_kernel.bind fun _ => (frugal_log _).bind fun _ => armed
  · exact frugal_log _

theorem frugal_onKey (key : KeyPush) : Frugal (onKey key) 0 :=
  (frugal_log _).bind fun _ => frugal_logTable.ite (frugal_pure ())

theorem frugal_onLayer (source : TaskId) (request : LayerRequest) : Frugal (onLayer source request) 0 := by
  have counted : Frugal (modifyKernel fun kernel => { kernel with layerRequests := kernel.layerRequests + 1 }) 0 :=
    frugal_modifyKernel fun _ => ⟨rfl, rfl, rfl, rfl⟩
  exact counted.bind fun _ => frugal_kernel.bind fun _ => (frugal_log _).ite (frugal_pure ())

theorem frugal_poll : Frugal poll 0 := by
  intro scope machine vacant
  obtain ⟨after, run, polled⟩ := run_pollBytes vacant.alone Config.scanBurst scope
  exact ⟨(), after, run, polled.spends⟩

theorem frugal_onMessage {message : Message} (early : message.Early) : Frugal (onMessage message) 0 := by
  unfold onMessage
  cases kind : message.kind with
  | deviceInterrupt => exact frugal_poll
  | timerTimeout timeout value =>
    refine frugal_onTimer ?_
    rintro rfl
    exact early timeout kind
  | keyPush key => exact frugal_onKey key
  | layer request => exact frugal_onLayer message.source request
  | layerFinish => exact frugal_pure ()

/-! ### Handing over -/

theorem frugal_runReaction (kind : HandlerKind) : Frugal (runReaction kind) 0 := by
  intro scope machine vacant
  have none : machine.agenda.popReaction? kind = none := by
    rw [vacant.agenda]
    rfl
  rw [runReaction, run_bind_of_ok (run_get scope machine), none]
  exact frugal_pure () scope machine vacant

theorem frugal_callHandler {handler : Handler} {message : Message} (early : handler = .kernel → message.Early)
    (kind : HandlerKind) : Frugal (callHandler handler kind message) 0 := by
  have noted : Frugal (record (.handled message)) 0 := frugal_record _
  cases handler with
  | silent => exact frugal_pure ()
  | recording => exact noted.bind fun _ => frugal_runReaction kind
  | kernel => exact noted.bind fun _ => (frugal_onMessage (early rfl)).bind fun _ => frugal_runReaction kind

theorem spends_send {after : Machine} {task : Task} {message : Message} (calm : machine.Calm)
    (here : machine.kernel.sched.tasks.get? task.id = some task) (light : message.Light)
    (sent : machine.Undergoes after (.send task.id message)) :
    machine.Spends after (if task.id = TaskId.eventLoop then 1 else 0) := by
  have mailbox := calm.sound.send_mailbox here message TaskId.eventLoop
  have sched : after.kernel.sched = (machine.kernel.sched.send task.id message).next := sent.sched
  by_cases own : task.id = TaskId.eventLoop
  · rw [if_pos own.symm, ← sched] at mailbox
    refine ⟨sent.continues calm, [message], mailbox, List.forall_mem_singleton.mpr light, ?_⟩
    rw [if_pos own, sent.keyboard.2, List.length_singleton]
    omega
  · rw [if_neg (Ne.symm own), List.append_nil, ← sched] at mailbox
    rw [if_neg own]
    exact (sent.continues calm).spends mailbox sent.keyboard.2

/-- The answer to a layer request reaches its source, unless there is no such task. -/
theorem run_answer (vacant : machine.Vacant) (source : TaskId) (scope : Scope) : ∃ result after,
    (send source Message.layerFinish >>= fun _ => record (.answered (.done source))) scope machine = (result, after) ∧
      (result = .ok () ∨ result = .error (.refused (.noSuchTask source))) ∧
      machine.Spends after (if source = TaskId.eventLoop then 1 else 0) := by
  have calm := vacant.toCalm
  have quiet := vacant.alone.undisturbed
  have undergoes : machine.Undergoes (send source Message.layerFinish scope machine).2
      (.send source Message.layerFinish) :=
    critical_undergoes_of_calm calm quiet (·.sched.send source Message.layerFinish) (fun _ => rfl) scope
  have replied : (send source Message.layerFinish scope machine).1 =
      (machine.kernel.sched.send source Message.layerFinish).reply :=
    congrArg Prod.fst (run_critical calm quiet (·.sched.send source Message.layerFinish) scope)
  generalize made : send source Message.layerFinish scope machine = sent at undergoes replied
  obtain ⟨reply, after⟩ := sent
  rcases machine.kernel.sched.tasks.absent_or_here source with absent | ⟨task, rfl, here⟩
  · have refused : machine.kernel.sched.send source Message.layerFinish =
        Outcome.refuse (.noSuchTask source) machine.kernel.sched := Scheduler.withTask_none absent
    have foreign : source ≠ TaskId.eventLoop := by
      rintro rfl
      obtain ⟨_, present⟩ := calm.sound.event_loop_task
      cases absent.symm.trans present
    have same : after.kernel.sched = machine.kernel.sched := undergoes.sched.trans (congrArg Outcome.next refused)
    obtain rfl : reply = .error (.refused (.noSuchTask source)) := replied.trans (congrArg Outcome.reply refused)
    rw [if_neg foreign]
    refine ⟨_, after, run_bind_of_error made, Or.inr rfl, (undergoes.continues calm).spends ?_ undergoes.keyboard.2⟩
    rw [same]
  · obtain rfl : reply = .ok () := replied.trans (calm.sound.send here Message.layerFinish).2.1
    have spends := spends_send calm here (Or.inr rfl) undergoes
    obtain ⟨_, last, noted, later⟩ :=
      frugal_record (.answered (.done task.id)) scope after (spends.continues.vacant vacant)
    exact ⟨.ok (), last, (run_bind_of_ok made).trans noted, Or.inl rfl, spends.trans later⟩

/-- The handing over of a message costs nothing, but for a request of the event loop to itself. -/
theorem run_dispatch (vacant : machine.Vacant) {handler : Handler} {message : Message}
    (early : handler = .kernel → message.Early) (scope : Scope) : ∃ result after,
    dispatch handler message scope machine = (result, after) ∧
      (result = .ok () ∨ result = .error (.refused (.noSuchTask message.source))) ∧
      machine.Spends after (if message.Own then 1 else 0) := by
  unfold dispatch
  cases known : message.kind.handlerKind? with
  | none =>
    obtain ⟨_, after, run, spends⟩ := frugal_log (.strayFinish message.source) scope machine vacant
    have foreign : message.Own = false := by simp [Message.Own, known]
    rw [foreign]
    exact ⟨_, after, run, Or.inl rfl, spends⟩
  | some kind =>
    obtain ⟨_, handled, run, spends⟩ := frugal_callHandler early kind scope machine vacant
    dsimp only
    rw [run_bind_of_ok run]
    by_cases layer : kind = .layer
    · obtain ⟨result, after, ran, answer, later⟩ :=
        run_answer (spends.continues.vacant vacant) message.source scope
      have own : message.Own = true ↔ message.source = TaskId.eventLoop := by simp [Message.Own, known, layer]
      have whole := spends.trans later
      rw [Nat.zero_add, ← if_congr own rfl rfl] at whole
      rw [if_pos layer]
      exact ⟨result, after, ran, answer, whole⟩
    · have foreign : message.Own = false := by simp [Message.Own, known, layer]
      rw [if_neg layer, foreign]
      exact ⟨_, handled, rfl, Or.inl rfl, spends⟩

end KernelM

end PriorityKernel
