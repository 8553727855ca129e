import PriorityKernel.Proofs.Machine.Handling
import PriorityKernel.Proofs.Machine.WaitTurns

namespace PriorityKernel

open Machine KernelM Scheduler

variable {machine : Machine} {scope : Scope} {handler : Handler}

/-- A turn that took a message and handled it, or found that nobody is there to be answered. -/
def KernelM.Turn.Handles (turn : Turn) : Prop :=
  turn.result = .ok true ∨ ∃ source, turn.result = .error (.noSuchTask source)

/-- A turn without a message. -/
def KernelM.Turn.idle : Turn := ⟨.ok false, 0⟩

theorem Scheduler.Sound.event_loop_record {state : Scheduler} (sound : state.Sound) :
    ∃ task, task.id = TaskId.eventLoop ∧ state.tasks.get? task.id = some task := by
  obtain ⟨task, here⟩ := sound.event_loop_task
  have own : task.id = TaskId.eventLoop := TaskTable.id_of_get? here
  exact ⟨task, own, own ▸ here⟩

theorem Scheduler.Sound.event_loop_mobile {state : Scheduler} (sound : state.Sound) :
    TaskId.eventLoop ≠ state.idle := by
  rw [sound.idle]
  decide

namespace Machine

/-- The event loop sleeps and has nothing to do, and nothing was set aside to run. -/
structure Rests (machine : Machine) : Prop extends machine.Vacant where
  empty : machine.kernel.sched.mailbox TaskId.eventLoop = []
  asleep : ¬machine.kernel.sched.Awake TaskId.eventLoop

/-- The event loop can handle whatever waits for it. -/
structure Winds (machine : Machine) (handler : Handler) : Prop extends machine.Vacant where
  early : handler = .kernel → ∀ message ∈ machine.kernel.sched.mailbox TaskId.eventLoop, message.Early

theorem Calm.vacant (calm : machine.Calm) (unraised : machine.agenda.pending = [])
    (hookless : machine.agenda.hooks = []) (reactionless : machine.agenda.reactions = []) : machine.Vacant := by
  obtain ⟨_, _, _, ⟨_, _, _⟩, _, _⟩ := machine
  cases unraised
  cases hookless
  cases reactionless
  exact ⟨calm, rfl⟩

theorem backlog_eq (kernel : Kernel) : backlog kernel = (kernel.sched.mailbox TaskId.eventLoop).length +
    (kernel.sched.mailbox TaskId.eventLoop).countP Message.Own + kernel.scanCodes.length := rfl

/-- Without a message the event loop goes to sleep. -/
theorem Vacant.dozes (vacant : machine.Vacant) (empty : machine.kernel.sched.mailbox TaskId.eventLoop = [])
    (handler : Handler) (scope : Scope) :
    ∃ asleep, loopTurn handler scope machine = (.ok .idle, asleep) ∧ asleep.Rests := by
  obtain ⟨task, own, here⟩ := vacant.sound.event_loop_record
  rw [← own] at empty
  have run := run_waitTurn_empty vacant.alone here ((mailbox_of_get? here).symm.trans empty) scope
  have undergoes := machine.undergoes_operate (.sleep task.id)
  have mobile : task.id ≠ machine.kernel.sched.idle := own ▸ vacant.sound.event_loop_mobile
  obtain ⟨record, there, still⟩ := vacant.sound.sleep_record here mobile
  rw [own] at run undergoes there empty
  refine ⟨_, loopTurn_of_none handler run, (undergoes.continues vacant.toCalm).vacant vacant, ?_, ?_⟩
  · rw [undergoes.sched, Operation.mailbox_of_other vacant.sound (by simp) (by simp), empty]
  · rw [undergoes.sched]
    rintro ⟨found, atFound, running⟩
    cases there.symm.trans atFound
    exact absurd running (ne_true_of_eq_false still)

theorem Vacant.last_turn (vacant : machine.Vacant) (empty : machine.kernel.sched.mailbox TaskId.eventLoop = [])
    (handler : Handler) (scope : Scope) :
    ∃ asleep, loopTurns handler 1 scope machine = (.ok [.idle], asleep) ∧ asleep.Rests := by
  obtain ⟨asleep, run, rests⟩ := vacant.dozes empty handler scope
  refine ⟨asleep, ?_, rests⟩
  rw [loopTurns, run_bind_of_ok run]
  rfl

/-- While the event loop sleeps, its turns change nothing at all. -/
theorem Rests.turn (rests : machine.Rests) (handler : Handler) (scope : Scope) :
    loopTurn handler scope machine = (.ok .idle, machine) := by
  obtain ⟨task, own, here⟩ := rests.sound.event_loop_record
  have still : task.running = false := by
    refine eq_false_of_ne_true fun running => rests.asleep ⟨task, ?_, running⟩
    rw [← own, here]
  have looks : (Operation.sleep task.id).outcome machine.kernel.sched = Outcome.pure none machine.kernel.sched :=
    rests.sound.sleep_asleep here still (own ▸ rests.sound.event_loop_mobile)
  have waits : task.messages = machine.kernel.sched.mailbox TaskId.eventLoop := own ▸ (mailbox_of_get? here).symm
  have run := run_waitTurn_empty rests.alone here (waits.trans rests.empty) scope
  rw [operate_look looks, own] at run
  exact loopTurn_of_none handler run

theorem Rests.turns (rests : machine.Rests) (handler : Handler) (times : Nat) (scope : Scope) :
    loopTurns handler times scope machine = (.ok (List.replicate times .idle), machine) := by
  induction times with
  | zero => rfl
  | succ times ih =>
    rw [loopTurns, run_bind_of_ok (rests.turn handler scope), run_bind_of_ok ih]
    rfl

/-- Of what there was to do, the message taken is gone, and what its handling brought was paid for. -/
theorem Winds.hands_over {taken after : Machine} {message : Message} {rest : List Message}
    (winds : machine.Winds handler) (waits : machine.kernel.sched.mailbox TaskId.eventLoop = message :: rest)
    (vacant : taken.Vacant) (left : taken.kernel.sched.mailbox TaskId.eventLoop = rest)
    (scanCodes : taken.kernel.scanCodes = machine.kernel.scanCodes)
    (spends : taken.Spends after (if message.Own then 1 else 0)) :
    after.Winds handler ∧ backlog after.kernel < backlog machine.kernel := by
  obtain ⟨new, mailbox, light, few⟩ := spends.added
  rw [left] at mailbox
  constructor
  · refine ⟨spends.continues.vacant vacant, fun own other member => ?_⟩
    rw [mailbox] at member
    rcases List.mem_append.mp member with waited | brought
    · exact winds.early own other (waits ▸ List.mem_cons_of_mem _ waited)
    · intro timeout kind
      rcases light other brought with ⟨push, key⟩ | finish
      · cases kind.symm.trans key
      · cases kind.symm.trans finish
  · -- Each new message is paid for with a byte that waited, or with the second count of the one taken.
    have foreign : new.countP Message.Own = 0 :=
      List.countP_eq_zero.mpr fun other member => ne_true_of_eq_false (light other member).foreign
    rw [scanCodes] at few
    rw [backlog_eq, backlog_eq, mailbox, waits, List.length_append, List.countP_append, foreign, List.length_cons,
      List.countP_cons]
    omega

theorem Winds.turn (winds : machine.Winds handler) {message : Message} {rest : List Message}
    (waits : machine.kernel.sched.mailbox TaskId.eventLoop = message :: rest) (scope : Scope) :
    ∃ turn after, loopTurn handler scope machine = (.ok turn, after) ∧ turn.Handles ∧ after.Winds handler ∧
      backlog after.kernel < backlog machine.kernel := by
  obtain ⟨task, own, here⟩ := winds.sound.event_loop_record
  have oldest : task.messages = message :: rest := by rw [← mailbox_of_get? here, own, waits]
  obtain ⟨trace, took⟩ := run_waitTurn_waiting winds.toCalm winds.alone.undisturbed here oldest scope
  rw [own] at took
  have vacant : (({ machine with kernel.sched := machine.kernel.sched.repost task rest, trace } : Machine).record
      (.answered (.begun message))).Vacant :=
    ⟨⟨winds.unlocked, winds.sound.repost here rest⟩, winds.agenda⟩
  have left : (machine.kernel.sched.repost task rest).mailbox TaskId.eventLoop = rest :=
    (mailbox_repost here rest TaskId.eventLoop).trans (if_pos own.symm)
  have early : handler = .kernel → message.Early := fun kernel =>
    winds.early kernel message (waits ▸ List.mem_cons_self ..)
  obtain ⟨result, after, ran, answer, spends⟩ := run_dispatch vacant early scope
  have turned := run_loopTurn handler took
  rw [ran] at turned
  have onward := winds.hands_over waits vacant left rfl spends
  rcases answer with rfl | rfl
  · exact ⟨_, after, turned, Or.inl rfl, onward⟩
  · exact ⟨_, after, turned, Or.inr ⟨message.source, rfl⟩, onward⟩

/-- After no more turns than there is to do the event loop sleeps. -/
theorem Winds.drains (winds : machine.Winds handler) {budget : Nat} (enough : backlog machine.kernel ≤ budget)
    (scope : Scope) : ∃ turns asleep, turns.length ≤ budget ∧
      loopTurns handler (turns.length + 1) scope machine = (.ok (turns ++ [.idle]), asleep) ∧
      (∀ turn ∈ turns, turn.Handles) ∧ asleep.Rests := by
  -- The budget falls with the backlog, not with the queue, which a turn may make longer.
  induction budget generalizing machine with
  | zero =>
    have empty : machine.kernel.sched.mailbox TaskId.eventLoop = [] := by
      rw [backlog_eq] at enough
      exact List.eq_nil_of_length_eq_zero (by omega)
    obtain ⟨asleep, run, rests⟩ := winds.last_turn empty handler scope
    exact ⟨[], asleep, Nat.le_refl 0, run, List.forall_mem_nil _, rests⟩
  | succ budget ih =>
    cases waits : machine.kernel.sched.mailbox TaskId.eventLoop with
    | nil =>
      obtain ⟨asleep, run, rests⟩ := winds.last_turn waits handler scope
      exact ⟨[], asleep, Nat.zero_le _, run, List.forall_mem_nil _, rests⟩
    | cons message rest =>
      obtain ⟨turn, after, run, handles, onward, less⟩ := winds.turn waits scope
      obtain ⟨turns, asleep, few, ran, handled, rests⟩ := ih onward (by omega)
      refine ⟨turn :: turns, asleep, Nat.succ_le_succ few, ?_,
        List.forall_mem_cons.mpr ⟨handles, handled⟩, rests⟩
      rw [List.length_cons, loopTurns, run_bind_of_ok run, run_bind_of_ok ran]
      rfl

end Machine

namespace Program.Reaches

variable {program : Program} {start : Machine} {kernel : Kernel}

/-- On a kernel as it is at any moment of any run outside of critical sections, with nothing set aside to run,
whoever handles the messages, unless the kernel does and one of them is of a blink timer too late to be armed
again: after no more turns of the event loop than there are messages for it, those of its own requests counted
twice, and bytes in the keyboard controller, comes a turn that takes no message. Until then each turn took one
and handled it, or had nobody to answer. From then on the event loop has no message and sleeps, and its turns
change nothing. -/
theorem loop_drains (reached : program.Reaches machine) (member : kernel ∈ machine.kernels) (free : kernel.locks = [])
    (same : start.kernel = kernel) (unraised : start.agenda.pending = []) (hookless : start.agenda.hooks = [])
    (reactionless : start.agenda.reactions = []) (early : handler = .kernel →
      ∀ message ∈ kernel.sched.mailbox TaskId.eventLoop, ∀ timeout,
        message.kind = .timerTimeout timeout Config.blinkTag → timeout + Config.blinkInterval ≤ Config.lastTick)
    (scope : Scope) :
    let waiting := kernel.sched.mailbox TaskId.eventLoop
    let work := waiting.length + waiting.countP Message.Own + kernel.scanCodes.length
    ∃ turns asleep, turns.length ≤ work ∧
      loopTurns handler (turns.length + 1) scope start = (.ok (turns ++ [⟨.ok false, 0⟩]), asleep) ∧
      (∀ turn ∈ turns, turn.result = .ok true ∨ ∃ source, turn.result = .error (.noSuchTask source)) ∧
      asleep.kernel.sched.mailbox TaskId.eventLoop = [] ∧ ¬asleep.kernel.sched.Awake TaskId.eventLoop ∧
      ∀ times, loopTurns handler times scope asleep = (.ok (List.replicate times ⟨.ok false, 0⟩), asleep) := by
  subst same
  have calm : start.Calm := ⟨free, reached.sound _ member⟩
  have winds : start.Winds handler := ⟨calm.vacant unraised hookless reactionless, early⟩
  obtain ⟨turns, asleep, few, run, handled, rests⟩ := winds.drains (Nat.le_refl _) scope
  exact ⟨turns, asleep, few, run, handled, rests.empty, rests.asleep, fun times => rests.turns handler times scope⟩

/-- What waits for the event loop: an interrupt of the keyboard, a request of its own, one of a task that does
not exist, and a blink timer. -/
def letters : List Message :=
  [Message.deviceInterrupt, ⟨TaskId.eventLoop, .layer ⟨.draw, 1, {}⟩⟩, ⟨9, .layer ⟨.draw, 2, {}⟩⟩,
    ⟨TaskId.kernel, .timerTimeout 5 Config.blinkTag⟩]

/-- A run that leaves these messages, and the two bytes of a key stroke. -/
def laden : Program where
  core := .kernel
  filter := .standard
  memoryShort := false
  script := .keys [0x1E, 0x9E] :: letters.map (.send TaskId.eventLoop)

theorem laden_loop_drains : laden.Reaches laden.ending ∧
    laden.ending.kernel.sched.mailbox TaskId.eventLoop = letters ∧ ∃ turns asleep, turns.length ≤ 7 ∧
      loopTurns .kernel (turns.length + 1) ⟨1, Machine.exec 1 1⟩ laden.ending =
        (.ok (turns ++ [⟨.ok false, 0⟩]), asleep) ∧
      asleep.kernel.sched.mailbox TaskId.eventLoop = [] ∧
      loopTurns .kernel 3 ⟨1, Machine.exec 1 1⟩ asleep = (.ok (List.replicate 3 ⟨.ok false, 0⟩), asleep) := by
  have reached : laden.Reaches laden.ending := reaches_ending rfl
  have unraised : laden.ending.agenda.pending = [] := List.isEmpty_iff.mp (by decide +kernel)
  have hookless : laden.ending.agenda.hooks = [] := List.isEmpty_iff.mp (by decide +kernel)
  have reactionless : laden.ending.agenda.reactions = [] := List.isEmpty_iff.mp (by decide +kernel)
  have waiting : laden.ending.kernel.sched.mailbox TaskId.eventLoop = letters := by decide +kernel
  have early : ∀ message ∈ laden.ending.kernel.sched.mailbox TaskId.eventLoop, ∀ timeout,
      message.kind = .timerTimeout timeout Config.blinkTag → timeout + Config.blinkInterval ≤ Config.lastTick := by
    rw [waiting]
    intro message member timeout kind
    simp only [letters, List.mem_cons, List.not_mem_nil, or_false] at member
    rcases member with rfl | rfl | rfl | rfl
    all_goals cases kind
    decide
  obtain ⟨turns, asleep, few, run, -, empty, -, still⟩ := loop_drains reached laden.ending.kernel_mem_kernels
    reached.calm.unlocked rfl unraised hookless reactionless (fun _ => early) ⟨1, Machine.exec 1 1⟩
  have work : (laden.ending.kernel.sched.mailbox TaskId.eventLoop).length +
      (laden.ending.kernel.sched.mailbox TaskId.eventLoop).countP Message.Own +
        laden.ending.kernel.scanCodes.length = 7 := by
    decide +kernel
  exact ⟨reached, waiting, turns, asleep, work ▸ few, run, empty, still 3⟩

end Program.Reaches

end PriorityKernel
