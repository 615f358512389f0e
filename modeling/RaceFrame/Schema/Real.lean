import Mathlib.Analysis.Real.Sqrt
import RaceFrame.Schema.Rational

/-!
# Exact scores

The scalars of the exact reading of the program: real numbers with the real
square root. Sums over them do not depend on the order, and a vector divided by
its norm has norm one.
-/

namespace RaceFrame

/-- `f"{x:.4f}"` on reals: only a multiple of one twenty-thousandth can be a tie. -/
noncomputable def formatReal4 (x : ℝ) : Text :=
  if Int.fract (x * 10000) = 1 / 2 then formatRat4 ((⌊x * 10000⌋ + 1 / 2) / 10000)
  else formatRat4 (round (x * 10000) / 10000)

noncomputable instance : Scalar ℝ where
  sqrt := Real.sqrt
  isFinite _ := true
  ofRat x := x
  format4 := formatReal4

/-- Scalars with `math.ceil`. -/
class CeilScalar (F : Type) extends Scalar F where
  /-- `math.ceil`. -/
  ceil : F → ℤ

noncomputable instance : CeilScalar ℝ where
  ceil x := ⌈x⌉

instance : CeilScalar ℚ where
  ceil x := ⌈x⌉

namespace Scalar

theorem sum_eq_sum (xs : List ℝ) : Scalar.sum xs = xs.sum := (List.sum_eq_foldl).symm

end Scalar

end RaceFrame
