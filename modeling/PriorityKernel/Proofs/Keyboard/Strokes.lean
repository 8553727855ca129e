import PriorityKernel.Keyboard.Decoder
import Mathlib.Data.List.Basic

namespace PriorityKernel

namespace Modifiers

/-- The modifier keys, each by itself. -/
def keys : List Modifiers := named.map (·.1)

theorem inter_union (held key other : UInt8) : (held ||| key) &&& other = held &&& other ||| key &&& other := by
  rw [← UInt8.toBitVec_inj]
  simp only [UInt8.toBitVec_and, UInt8.toBitVec_or, BitVec.and_or_distrib_right]

theorem key_inter : ∀ key ∈ keys, ∀ other ∈ keys,
    key.bits &&& other.bits = if key = other then other.bits else 0 := by
  decide +kernel

theorem key_diff : ∀ key ∈ keys, ∀ other ∈ keys,
    ~~~key.bits &&& other.bits = if key = other then 0 else other.bits := by
  decide +kernel

theorem key_bits : ∀ key ∈ keys, key.bits ≠ 0 := by decide +kernel

/-- Setting one key leaves the other ones alone. -/
theorem intersects_set {key other : Modifiers} (known : key ∈ keys) (knownOther : other ∈ keys) (held : Modifiers)
    (down : Bool) : (held.set key down).intersects other = if key = other then down else held.intersects other := by
  have some := key_bits other knownOther
  cases down with
  | true =>
    simp only [set, intersects, if_true, inter_union, key_inter key known other knownOther]
    split
    · have absorbed : held.bits &&& other.bits ||| other.bits ≠ 0 := by
        intro none
        rw [UInt8.or_eq_zero_iff] at none
        exact some none.2
      simpa using absorbed
    · rw [UInt8.or_zero]
  | false =>
    simp only [set, intersects, Bool.false_eq_true, if_false, UInt8.and_assoc, key_diff key known other knownOther]
    split
    · rw [UInt8.and_zero]
      rfl
    · rfl

theorem intersects_none (key : Modifiers) : none.intersects key = false := by
  simp [none, intersects]

end Modifiers

/-- Whether a code is that of a capital letter. -/
def Capital (ascii : UInt8) : Prop := 0x41 ≤ ascii ∧ ascii ≤ 0x5A

instance (ascii : UInt8) : Decidable (Capital ascii) := inferInstanceAs (Decidable (_ ∧ _))

namespace KeyCap

/-- A modifier key is a single one, and a letter key has a letter that is a capital only when it is raised. -/
def Regular : KeyCap → Prop
  | modifier key => key ∈ Modifiers.keys
  | letter small => ¬Capital (UInt8.ofNat small.toNat) ∧ Capital (UInt8.ofNat small.toUpper.toNat)
  | _ => True

instance : (cap : KeyCap) → Decidable cap.Regular
  | modifier key => inferInstanceAs (Decidable (key ∈ Modifiers.keys))
  | letter small => inferInstanceAs
      (Decidable (¬Capital (UInt8.ofNat small.toNat) ∧ Capital (UInt8.ofNat small.toUpper.toNat)))
  | pair .. | fixed _ | numeric .. | capsLock | numLock | pauseControl | silent => isTrue trivial

theorem regular_plain : ∀ entry ∈ plainPage, entry.2.Regular := by decide +kernel
theorem regular_extended : ∀ entry ∈ extendedPage, entry.2.Regular := by decide +kernel
theorem regular_extendedTwice : ∀ entry ∈ extendedTwicePage, entry.2.Regular := by decide +kernel

theorem mem_of_lookup {code : UInt8} {cap : KeyCap} {entries : List (UInt8 × KeyCap)}
    (found : entries.lookup code = some cap) : (code, cap) ∈ entries := by
  obtain ⟨before, after, whole, _⟩ := List.lookup_eq_some_iff.mp found
  rw [whole]
  exact List.mem_append_right _ (List.mem_cons_self ..)

theorem regular_of_find? {page : ScanPage} {code : UInt8} {cap : KeyCap} (found : find? page code = some cap) :
    cap.Regular := by
  cases page with
  | plain => exact regular_plain _ (mem_of_lookup found)
  | extended => exact regular_extended _ (mem_of_lookup found)
  | extendedTwice => exact regular_extendedTwice _ (mem_of_lookup found)

end KeyCap

/-- A key went down or came up. -/
structure Stroke where
  page : ScanPage
  code : UInt8
  down : Bool
  deriving DecidableEq

/-- The bytes that announce a page. -/
def ScanPage.announcement : ScanPage → List UInt8
  | plain => []
  | extended => [0xE0]
  | extendedTwice => [0xE1]

namespace Stroke

/-- The byte of the key, with the high bit set if the key came up. -/
def key (stroke : Stroke) : UInt8 := if stroke.down then stroke.code else stroke.code + 0x80

def bytes (stroke : Stroke) : List UInt8 := stroke.page.announcement ++ [stroke.key]

/-- The key that was struck, if it is known. -/
def cap? (stroke : Stroke) : Option KeyCap := KeyCap.find? stroke.page stroke.code

/-- The stroke can be told from others: codes have seven bits, and the byte of a plain key announces no
page. -/
structure Clear (stroke : Stroke) : Prop where
  short : stroke.code < 0x80
  plain : stroke.page = .plain → stroke.key ≠ 0xE0 ∧ stroke.key ≠ 0xE1

instance (stroke : Stroke) : Decidable stroke.Clear :=
  decidable_of_iff (stroke.code < 0x80 ∧ (stroke.page = .plain → stroke.key ≠ 0xE0 ∧ stroke.key ≠ 0xE1))
    ⟨fun both => ⟨both.1, both.2⟩, fun clear => ⟨clear.short, clear.plain⟩⟩

theorem low_bits : ∀ code < 128, (UInt8.ofNat code &&& 0x7F) = UInt8.ofNat code ∧
    (UInt8.ofNat code + 0x80 &&& 0x7F) = UInt8.ofNat code ∧ ¬UInt8.ofNat code + 0x80 < 0x80 := by
  decide +kernel

variable {stroke : Stroke}

theorem Clear.code (clear : stroke.Clear) : stroke.key &&& 0x7F = stroke.code := by
  have short : stroke.code.toNat < 128 := UInt8.lt_iff_toNat_lt.mp clear.short
  obtain ⟨pressed, released, _⟩ := low_bits stroke.code.toNat short
  rw [UInt8.ofNat_toNat] at pressed released
  unfold key
  split
  · exact pressed
  · exact released

theorem Clear.down (clear : stroke.Clear) : decide (stroke.key < 0x80) = stroke.down := by
  have short : stroke.code.toNat < 128 := UInt8.lt_iff_toNat_lt.mp clear.short
  obtain ⟨_, _, high⟩ := low_bits stroke.code.toNat short
  rw [UInt8.ofNat_toNat] at high
  unfold key
  cases stroke.down with
  | true => simpa using clear.short
  | false => simpa using high

end Stroke

namespace Keyboard

/-- What the decoder makes of a known key, from the start of a scan code. -/
def strike (keyboard : Keyboard) (stroke : Stroke) : Option KeyPush × Keyboard :=
  match stroke.cap? with
  | none => (none, { keyboard with page := .plain })
  | some cap =>
    let chars := keyboard.chars.after ⟨cap, stroke.down⟩
    let modifiers := heldAfter keyboard.modifiers ⟨cap, stroke.down⟩
    (if stroke.down then some ⟨modifiers, stroke.code, chars.ascii cap⟩ else none, ⟨.plain, chars, modifiers⟩)

variable {keyboard : Keyboard} {stroke : Stroke}

theorem feedAll_append (keyboard : Keyboard) (bytes later : List UInt8) : keyboard.feedAll (bytes ++ later) =
    ((keyboard.feedAll bytes).1 ++ ((keyboard.feedAll bytes).2.feedAll later).1,
      ((keyboard.feedAll bytes).2.feedAll later).2) := by
  induction bytes generalizing keyboard with
  | nil => rfl
  | cons byte rest ih => simp only [List.cons_append, feedAll, ih, List.append_assoc]

/-- The byte of the key ends the scan code on the page that was announced. -/
theorem feed_key (clear : stroke.Clear) (ready : keyboard.page = stroke.page) :
    keyboard.feed stroke.key = keyboard.strike stroke := by
  have unannounced : announced? stroke.page stroke.key = none := by
    unfold announced?
    cases page : stroke.page with
    | plain => simp [clear.plain page]
    | extended | extendedTwice => simp
  have event : keyEvent? stroke.page stroke.key = stroke.cap?.map fun cap => ⟨cap, stroke.down⟩ := by
    rw [keyEvent?, clear.code, clear.down]
    rfl
  have pressed : stroke.down = true → stroke.key = stroke.code := fun down => if_pos down
  rw [feed, ready, unannounced, event, strike]
  cases stroke.cap? with
  | none => rfl
  | some cap =>
    cases down : stroke.down with
    | true => simp [pressed down]
    | false => rfl

theorem feedAll_bytes (clear : stroke.Clear) (ready : keyboard.page = .plain) : keyboard.feedAll stroke.bytes =
    ((keyboard.strike stroke).1.toList, (keyboard.strike stroke).2) := by
  have ended : ∀ before : Keyboard, before.page = stroke.page →
      before.feedAll [stroke.key] = ((before.strike stroke).1.toList, (before.strike stroke).2) := by
    intro before there
    rw [feedAll, feed_key clear there]
    simp [feedAll]
  -- the page announced is the only thing that an announcement changes, and no stroke depends on it
  have same : ∀ page, { keyboard with page }.strike stroke = keyboard.strike stroke := by
    intro page
    unfold strike
    cases stroke.cap? <;> rfl
  have announced : ∀ (byte : UInt8) (page : ScanPage), announced? .plain byte = some page →
      keyboard.feed byte = (none, { keyboard with page }) := by
    intro byte page announces
    rw [feed, ready, announces]
  unfold Stroke.bytes
  cases page : stroke.page with
  | plain => exact ended keyboard (ready.trans page.symm)
  | extended =>
    have after := ended { keyboard with page := .extended } page.symm
    rw [same] at after
    rw [ScanPage.announcement, List.singleton_append, feedAll, announced 0xE0 .extended rfl]
    simp only [after, Option.toList_none, List.nil_append]
  | extendedTwice =>
    have after := ended { keyboard with page := .extendedTwice } page.symm
    rw [same] at after
    rw [ScanPage.announcement, List.singleton_append, feedAll, announced 0xE1 .extendedTwice rfl]
    simp only [after, Option.toList_none, List.nil_append]

end Keyboard

end PriorityKernel
