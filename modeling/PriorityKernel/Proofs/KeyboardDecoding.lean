import PriorityKernel.Proofs.Keyboard.Typing
import PriorityKernel.Proofs.Machine.Polling

namespace PriorityKernel

open Stroke

theorem CharState.after_eq (state : CharState) (cap : KeyCap) (down : Bool) : state.after ⟨cap, down⟩ =
    { leftShift := if cap = .modifier .leftShift then down else state.leftShift
      rightShift := if cap = .modifier .rightShift then down else state.rightShift
      capsLock := if cap = .capsLock ∧ down = true then !state.capsLock else state.capsLock
      numLock :=
        if (cap = .numLock ∧ down = true) ∧ state.pauseControl = false then !state.numLock else state.numLock
      pauseControl := if cap = .pauseControl then down else state.pauseControl } := by
  have distinct : Modifiers.leftShift ≠ Modifiers.rightShift := by decide
  cases cap with
  | modifier key =>
    by_cases left : key = .leftShift
    · simp [after, left, distinct]
    · by_cases right : key = .rightShift
      · simp [after, right, distinct.symm]
      · simp [after, left, right]
  | capsLock => cases down <;> simp [after]
  | numLock =>
    obtain ⟨_, _, _, _, pauseControl⟩ := state
    cases down <;> cases pauseControl <;> simp [after]
  | pauseControl => simp [after]
  | _ => simp [after]

namespace Keyboard

variable {keyboard : Keyboard} {earlier history : List Stroke} {stroke : Stroke} {cap : KeyCap}

theorem heldAfter_intersects (held : Modifiers) (regular : cap.Regular) {key : Modifiers}
    (known : key ∈ Modifiers.keys)
    (down : Bool) : (heldAfter held ⟨cap, down⟩).intersects key =
      if cap = .modifier key then down else held.intersects key := by
  cases cap with
  | modifier other =>
    have single : other ∈ Modifiers.keys := regular
    simp only [heldAfter, Modifiers.intersects_set single known, KeyCap.modifier.injEq]
  | _ => rfl

/-- The keyboard is at the start of a scan code, and both of its records agree with the strokes so far. -/
structure Tracks (history : List Stroke) (keyboard : Keyboard) : Prop where
  page : keyboard.page = .plain
  modifiers : ∀ key ∈ Modifiers.keys, keyboard.modifiers.intersects key = held (.modifier key) history
  leftShift : keyboard.chars.leftShift = held (.modifier .leftShift) history
  rightShift : keyboard.chars.rightShift = held (.modifier .rightShift) history
  capsLock : keyboard.chars.capsLock = capsOn history
  numLock : keyboard.chars.numLock = numbersOn history
  pauseControl : keyboard.chars.pauseControl = held .pauseControl history

theorem fresh_tracks : Tracks [] fresh := ⟨rfl, fun _ _ => Modifiers.intersects_none _, rfl, rfl, rfl, rfl, rfl⟩

/-- A stroke of an unknown key says nothing of any other. -/
theorem Tracks.unknown (tracks : Tracks history keyboard) (unknown : stroke.cap? = none) :
    Tracks (history ++ [stroke]) { keyboard with page := .plain } where
  page := rfl
  modifiers := fun key known => by simp [held_append, unknown, tracks.modifiers key known]
  leftShift := by simp [held_append, unknown, tracks.leftShift]
  rightShift := by simp [held_append, unknown, tracks.rightShift]
  capsLock := by simp [capsOn_append, Presses, unknown, tracks.capsLock]
  numLock := by simp [numbersOn_append, Presses, unknown, tracks.numLock]
  pauseControl := by simp [held_append, unknown, tracks.pauseControl]

theorem Tracks.strike (tracks : Tracks history keyboard) (stroke : Stroke) :
    Tracks (history ++ [stroke]) (keyboard.strike stroke).2 := by
  unfold Keyboard.strike
  cases found : stroke.cap? with
  | none => exact tracks.unknown found
  | some cap =>
    have regular : cap.Regular := KeyCap.regular_of_find? found
    constructor
    case page => rfl
    case modifiers =>
      intro key known
      simp only [heldAfter_intersects _ regular known, held_append, found, Option.some.injEq,
        tracks.modifiers key known]
    case leftShift =>
      simp only [CharState.after_eq, held_append, found, Option.some.injEq, tracks.leftShift]
    case rightShift =>
      simp only [CharState.after_eq, held_append, found, Option.some.injEq, tracks.rightShift]
    case capsLock =>
      simp only [CharState.after_eq, capsOn_append, Presses, found, Option.some.injEq, tracks.capsLock]
    case numLock =>
      simp only [CharState.after_eq, numbersOn_append, Presses, found, Option.some.injEq, tracks.numLock,
        tracks.pauseControl]
    case pauseControl =>
      simp only [CharState.after_eq, held_append, found, Option.some.injEq, tracks.pauseControl]

theorem Tracks.feedAll (tracks : Tracks earlier keyboard) (clear : ∀ stroke ∈ history, stroke.Clear) :
    Tracks (earlier ++ history) (keyboard.feedAll (history.flatMap Stroke.bytes)).2 := by
  induction history generalizing earlier keyboard with
  | nil =>
    rw [List.append_nil]
    exact tracks
  | cons first rest ih =>
    have once := feedAll_bytes (clear first (List.mem_cons_self ..)) tracks.page
    rw [List.flatMap_cons, feedAll_append, once, List.append_cons]
    exact ih (tracks.strike first) fun stroke member => clear stroke (List.mem_cons_of_mem _ member)

theorem strike_length (keyboard : Keyboard) (stroke : Stroke) :
    (keyboard.strike stroke).1.toList.length = if stroke.pushes then 1 else 0 := by
  unfold Keyboard.strike Stroke.pushes
  cases stroke.cap? with
  | none => rfl
  | some cap => cases stroke.down <;> rfl

theorem Tracks.pushes_length (tracks : Tracks earlier keyboard) (clear : ∀ stroke ∈ history, stroke.Clear) :
    (keyboard.feedAll (history.flatMap Stroke.bytes)).1.length = history.countP Stroke.pushes := by
  induction history generalizing earlier keyboard with
  | nil => rfl
  | cons first rest ih =>
    have once := feedAll_bytes (clear first (List.mem_cons_self ..)) tracks.page
    have later := ih (tracks.strike first) fun stroke member => clear stroke (List.mem_cons_of_mem _ member)
    rw [List.flatMap_cons, feedAll_append, once]
    simp only [List.length_append, strike_length, later, List.countP_cons, Nat.add_comm]

end Keyboard

/-- What a key push says of a key that is known, at the end of a history. -/
structure KeyPush.Tells (push : KeyPush) (history : List Stroke) (code : UInt8) (cap : KeyCap) : Prop where
  code : push.code = code
  modifiers : ∀ key ∈ Modifiers.keys, push.modifiers.intersects key = held (.modifier key) history
  ascii : cap.Types (shiftHeld history) (capsOn history) (numbersOn history) push.ascii
  /-- A letter is a capital exactly if the shift in the same push differs from caps lock. -/
  capital : ∀ char, cap = .letter char → (Capital push.ascii ↔ push.modifiers.shift ≠ capsOn history)

namespace Keyboard

variable {keyboard : Keyboard} {history : List Stroke} {stroke : Stroke} {cap : KeyCap}

theorem Tracks.shift (tracks : Tracks history keyboard) : keyboard.modifiers.shift = shiftHeld history := by
  have left := tracks.modifiers .leftShift (by decide)
  have right := tracks.modifiers .rightShift (by decide)
  rw [Modifiers.shift, left, right, shiftHeld]

theorem Tracks.tells (tracks : Tracks history keyboard) (regular : cap.Regular) (code : UInt8) :
    KeyPush.Tells ⟨keyboard.modifiers, code, keyboard.chars.ascii cap⟩ history code cap := by
  have types := keyboard.chars.types_ascii cap
  rw [CharState.shift, tracks.leftShift, tracks.rightShift, tracks.capsLock, tracks.numLock] at types
  refine ⟨rfl, tracks.modifiers, types, ?_⟩
  rintro char rfl
  rw [tracks.shift]
  exact types.capital_iff regular

theorem Tracks.strike_tells (tracks : Tracks history keyboard) (presses : stroke.Presses cap) :
    ∃ push, (keyboard.strike stroke).1 = some push ∧ push.Tells (history ++ [stroke]) stroke.code cap := by
  obtain ⟨found, down⟩ := presses
  have after := tracks.strike stroke
  have tells := after.tells (KeyCap.regular_of_find? found) stroke.code
  simp only [Keyboard.strike, found, down] at tells ⊢
  exact ⟨_, rfl, tells⟩

end Keyboard

namespace Keyboard

/-- A stroke in the middle of a history gives the push that comes after those of the strokes before it. -/
theorem Tracks.tells_within (tracks : Tracks [] keyboard) {earlier later : List Stroke}
    (clear : ∀ other ∈ earlier ++ stroke :: later, other.Clear) (presses : stroke.Presses cap) :
    ∃ push, (keyboard.feedAll ((earlier ++ stroke :: later).flatMap Stroke.bytes)).1[earlier.countP Stroke.pushes]? =
      some push ∧ push.Tells (earlier ++ [stroke]) stroke.code cap := by
  have clearEarlier : ∀ stroke ∈ earlier, stroke.Clear := fun _ member => clear _ (List.mem_append_left _ member)
  have before := tracks.feedAll clearEarlier
  have once := feedAll_bytes (clear stroke (by simp)) before.page
  obtain ⟨push, made, tells⟩ := before.strike_tells presses
  refine ⟨push, ?_, tells⟩
  rw [List.flatMap_append, List.flatMap_cons, feedAll_append, feedAll_append _ stroke.bytes, once, made,
    ← tracks.pushes_length clearEarlier, List.getElem?_append_right (Nat.le_refl _), Nat.sub_self]
  rfl

/-- The bytes of a history come out of a fresh keyboard as one key push for each press of a known key, in
order, and the decoder is then at the start of a scan code. Each push has the code of its key, holds
exactly the modifier keys whose last stroke was a press, this one included, and has the character that
shift, caps lock and num lock of the history so far give to the key. The driver sends each push to the
event loop as one message, with the kernel as its source, and nothing else. -/
theorem strokes_decoded (clear : ∀ stroke ∈ history, stroke.Clear) :
    let bytes := history.flatMap Stroke.bytes
    let pushes := (fresh.feedAll bytes).1
    (fresh.feedAll bytes).2.page = .plain ∧ pushes.length = history.countP Stroke.pushes ∧
    (∀ earlier stroke later cap, history = earlier ++ stroke :: later → stroke.Presses cap →
      ∃ push, pushes[earlier.countP Stroke.pushes]? = some push ∧
        push.Tells (earlier ++ [stroke]) stroke.code cap) ∧
    ∀ (machine : Machine) (scope : Scope), machine.Alone → machine.kernel.keyboard = fresh →
      machine.kernel.scanCodes = bytes → ∃ after, KernelM.pollBytes bytes.length scope machine = (.ok (), after) ∧
        after.kernel.scanCodes = [] ∧ after.kernel.keyboard = (fresh.feedAll bytes).2 ∧
        after.kernel.sched.mailbox TaskId.eventLoop = machine.kernel.sched.mailbox TaskId.eventLoop ++
          pushes.map fun push => ⟨TaskId.kernel, .keyPush push⟩ := by
  refine ⟨(fresh_tracks.feedAll clear).page, fresh_tracks.pushes_length clear, ?_, ?_⟩
  · rintro earlier stroke later cap rfl presses
    exact fresh_tracks.tells_within clear presses
  · intro machine scope alone untouched waiting
    obtain ⟨after, run, polled⟩ := KernelM.run_pollBytes alone (history.flatMap Stroke.bytes).length scope
    obtain ⟨_, scanCodes, keyboard, mailbox⟩ := polled
    rw [waiting, List.take_length] at scanCodes keyboard mailbox
    rw [untouched] at keyboard mailbox
    exact ⟨after, run, List.self_eq_append_right.mp scanCodes, keyboard, mailbox⟩

/-- Left shift and the letter a, caps lock and the letter again, a release on another page with the code
of left shift, the pause key, a digit of the number pad, and an unknown key. -/
def sample : List Stroke :=
  [⟨.plain, 0x2A, true⟩, ⟨.plain, 0x1E, true⟩, ⟨.plain, 0x3A, true⟩, ⟨.extended, 0x2A, false⟩,
    ⟨.plain, 0x1E, true⟩,
    ⟨.extendedTwice, 0x1D, true⟩, ⟨.plain, 0x45, true⟩, ⟨.plain, 0x47, true⟩, ⟨.plain, 0x7F, true⟩]

/-- A run that leaves the bytes of these strokes in the keyboard controller. -/
def sampled : Program where
  core := .kernel
  filter := .standard
  memoryShort := false
  script := [.keys (sample.flatMap Stroke.bytes)]

theorem sample_decoded : (∀ stroke ∈ sample, stroke.Clear) ∧
    (fresh.feedAll (sample.flatMap Stroke.bytes)).1.length = 7 ∧
    (∃ push, (fresh.feedAll (sample.flatMap Stroke.bytes)).1[1]? = some push ∧ Capital push.ascii ∧
      push.modifiers.shift = true) ∧
    (∃ push, (fresh.feedAll (sample.flatMap Stroke.bytes)).1[3]? = some push ∧ ¬Capital push.ascii) ∧
    (∃ push, (fresh.feedAll (sample.flatMap Stroke.bytes)).1[6]? = some push ∧
      push.ascii = UInt8.ofNat '7'.toNat) ∧
    sampled.Reaches sampled.ending ∧ ∃ after, KernelM.pollBytes (sample.flatMap Stroke.bytes).length
      ⟨1, Machine.exec 1 1⟩ sampled.ending = (.ok (), after) ∧ after.kernel.scanCodes = [] := by
  have clear : ∀ stroke ∈ sample, stroke.Clear := by decide +kernel
  obtain ⟨_, count, tells, polled⟩ := strokes_decoded clear
  have reached : sampled.Reaches sampled.ending := Program.reaches_ending rfl
  have unraised : sampled.ending.agenda.pending = [] := List.isEmpty_iff.mp (by decide +kernel)
  have hookless : sampled.ending.agenda.hooks = [] := List.isEmpty_iff.mp (by decide +kernel)
  obtain ⟨first, firstPush, told⟩ :=
    tells (sample.take 1) ⟨.plain, 0x1E, true⟩ (sample.drop 2) (.letter 'a') rfl
    (by decide +kernel)
  obtain ⟨second, secondPush, toldAgain⟩ :=
    tells (sample.take 4) ⟨.plain, 0x1E, true⟩ (sample.drop 5) (.letter 'a') rfl
    (by decide +kernel)
  obtain ⟨digit, digitPush, toldDigit⟩ :=
    tells (sample.take 7) ⟨.plain, 0x47, true⟩ (sample.drop 8) (.numeric '7' 0) rfl
    (by decide +kernel)
  obtain ⟨after, run, empty, _⟩ := polled sampled.ending ⟨1, Machine.exec 1 1⟩
    ⟨reached.calm, fun _ => unraised, hookless⟩ (by decide +kernel) (by decide +kernel)
  have firstShift : first.modifiers.shift = true := by
    rw [Modifiers.shift, told.modifiers .leftShift (by decide), told.modifiers .rightShift (by decide)]
    decide +kernel
  have secondShift : second.modifiers.shift = true := by
    rw [Modifiers.shift, toldAgain.modifiers .leftShift (by decide), toldAgain.modifiers .rightShift (by decide)]
    decide +kernel
  have number := toldDigit.ascii
  refine ⟨clear, count.trans (by decide +kernel), ⟨first, firstPush, ?_, firstShift⟩,
    ⟨second, secondPush, ?_⟩,
    ⟨digit, digitPush, ?_⟩, reached, after, run, empty⟩
  · rw [told.capital 'a' rfl, firstShift]
    decide +kernel
  · rw [toldAgain.capital 'a' rfl, secondShift]
    decide +kernel
  · generalize digit.ascii = code at number ⊢
    cases number with
    | number => rfl
    | otherwise off => exact absurd off (by decide +kernel)

end Keyboard

end PriorityKernel
