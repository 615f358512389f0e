import Mathlib.Data.Rat.Floor
import RaceFrame.Schema.Settings

/-!
# Rational scores

The model runs on any scalars. On rationals it can be evaluated: arithmetic and
comparisons are exact there and square roots are exact on squares.
-/

namespace RaceFrame

/-- `int(x)`. -/
def truncate (x : ℚ) : ℤ := if 0 ≤ x then ⌊x⌋ else ⌈x⌉

/-- Rounding to the nearest integer, ties to even. -/
def roundHalfEven (x : ℚ) : ℤ :=
  let below := ⌊x⌋
  let rest := x - below
  if rest < 1 / 2 then below
  else if 1 / 2 < rest then below + 1
  else if below % 2 = 0 then below
  else below + 1

/-- `f"{x:.4f}"` on rationals. -/
def formatRat4 (x : ℚ) : Text :=
  let scaled := roundHalfEven (x * 10000)
  let sign : Text := if scaled < 0 then ['-'] else []
  sign ++ Nat.toDigits 10 (scaled.natAbs / 10000) ++ ['.'] ++
    (Nat.toDigits 10 (scaled.natAbs % 10000)).leftpad 4 '0'

instance : Scalar ℚ where
  sqrt x := (Nat.sqrt (x.num.toNat * x.den) : ℚ) / x.den
  isFinite _ := true
  ofRat x := x
  format4 := formatRat4

example : formatRat4 (-9 / 8) = "-1.1250".toList := by decide +kernel

end RaceFrame
