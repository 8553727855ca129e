import PriorityKernel.Config

namespace PriorityKernel

abbrev Level := Fin Config.levelCount

namespace Level

/-- The level asked for, or the highest one if there is no such level. -/
def clamp (wanted : Nat) : Level :=
  ⟨min wanted Config.maxLevel, Nat.lt_succ_of_le (Nat.min_le_right ..)⟩

def top : Level := clamp Config.maxLevel

/-- All levels, the highest first. -/
def descending : List Level := [3, 2, 1, 0]

theorem mem_descending (level : Level) : level ∈ descending := by
  revert level; decide

theorem val_clamp (wanted : Nat) : (clamp wanted).val = min wanted Config.maxLevel := rfl

@[simp] theorem clamp_min (wanted : Nat) : clamp (min wanted Config.maxLevel) = clamp wanted := by
  simp [clamp]

@[simp] theorem clamp_val (level : Level) : clamp level = level := by
  revert level; decide

end Level

end PriorityKernel
