import Mathlib.Algebra.Group.Fin.Basic
import Mathlib.Algebra.GroupWithZero.Nat
import Mathlib.Data.Fin.Basic

/-!
# Going round

Positions on a circle of `n`, the number of steps from one to another, and the
number of rounds after which a client that comes closer in every round has been
served.
-/

namespace RaceFrame.Core

/-- The number of steps from one position to another, going round. -/
def stepsTo {n : Nat} (here there : Fin n) : Nat := (there - here).val

/-- Going round takes fewer steps than there are positions. -/
theorem stepsTo_lt {n : Nat} (here there : Fin n) : stepsTo here there < n :=
  (there - here).isLt

section

variable {n : Nat} [NeZero n]

/-- The position a number of steps ahead. -/
def stepsFrom (here : Fin n) (steps : Nat) : Fin n := here + Fin.ofNat n steps

@[simp] theorem stepsFrom_zero (here : Fin n) : stepsFrom here 0 = here := by
  rw [stepsFrom, Fin.ofNat_zero, add_zero]

/-- One more step. -/
theorem stepsFrom_succ (here : Fin n) (steps : Nat) :
    stepsFrom here (steps + 1) = stepsFrom here steps + 1 := by
  have hadd : Fin.ofNat n (steps + 1) = Fin.ofNat n steps + 1 := by
    rw [Fin.ext_iff, Fin.val_add, Fin.val_ofNat, Fin.val_ofNat, Fin.val_one', ← Nat.add_mod]
  rw [stepsFrom, stepsFrom, hadd, add_assoc]

/-- The steps to a position lead there. -/
theorem stepsFrom_stepsTo (here there : Fin n) : stepsFrom here (stepsTo here there) = there := by
  rw [stepsFrom, stepsTo, Fin.ofNat_val_eq_self, add_sub_cancel]

/-- Every step taken is one step less to go. -/
theorem stepsTo_stepsFrom {here there : Fin n} {steps : Nat} (h : steps ≤ stepsTo here there) :
    stepsTo (stepsFrom here steps) there = stepsTo here there - steps := by
  have hlt := stepsTo_lt here there
  have hval : (Fin.ofNat n steps).val = steps := by
    rw [Fin.val_ofNat, Nat.mod_eq_of_lt (by omega)]
  have hle : Fin.ofNat n steps ≤ there - here := by
    rw [Fin.le_iff_val_le_val, hval]
    exact h
  rw [stepsTo, stepsFrom, ← sub_sub, Fin.sub_val_of_le hle, hval, stepsTo]

/-- No other position is as many steps ahead. -/
theorem stepsFrom_ne {here there : Fin n} {steps : Nat} (h : steps < stepsTo here there) :
    stepsFrom here steps ≠ there := by
  rintro rfl
  have hback := stepsTo_stepsFrom (Nat.le_of_lt h)
  rw [stepsTo, sub_self, Fin.val_zero] at hback
  omega

end

/-- A distance that falls in every round without service bounds the rounds without service. -/
theorem exists_served {served : Nat → Prop} {distance : Nat → Nat}
    (h : ∀ k ≤ distance 0, ¬served k → distance (k + 1) < distance k) :
    ∃ k ≤ distance 0, served k := by
  by_contra hnone
  have hunserved : ∀ k ≤ distance 0, ¬served k := fun k hk hserved => hnone ⟨k, hk, hserved⟩
  have hfall : ∀ k ≤ distance 0 + 1, distance k + k ≤ distance 0 := by
    intro k
    induction k with
    | zero => exact fun _ => le_refl _
    | succ k ih =>
      intro hk
      have hstep := h k (by omega) (hunserved k (by omega))
      have hbefore := ih (by omega)
      omega
  have hlast := hfall (distance 0 + 1) (le_refl _)
  omega

end RaceFrame.Core
