import Mathlib.Order.Lattice
import Mathlib.Data.Rat.Defs
import Mathlib.Algebra.Order.Ring.Rat

/-!
# Numbers and texts of the program

Scores, confidences and embedding coordinates are Python floats. Nothing proved
here depends on how they round, so the model takes any linearly ordered type
with the operations the code calls. Texts are lists of code points, instants are
natural numbers of microseconds, and identifiers are the 128-bit values that
`uuid4` draws.
-/

namespace RaceFrame

/-- A Python string, as its code points. -/
abbrev Text := List Char

/-- A point in time, in microseconds. -/
abbrev Instant := Nat

/-- A primary key or an attempt id. -/
abbrev Uuid := Nat

/-- The length of `n` seconds. -/
def seconds (n : Nat) : Nat := n * 1000000

/-- The float operations of the source. -/
class Scalar (F : Type) extends LinearOrder F, Zero F, One F, Neg F, Add F, Mul F, Div F where
  /-- `math.sqrt`. -/
  sqrt : F → F
  /-- `math.isfinite`. -/
  isFinite : F → Bool
  /-- The value of a literal. -/
  ofRat : ℚ → F
  /-- `f"{x:.4f}"`. -/
  format4 : F → Text

/-- `sum(xs)`, from the left. -/
def Scalar.sum {F : Type} [Scalar F] (xs : List F) : F := xs.foldl (· + ·) 0

/-- `value or default` for an optional string: the empty string counts as missing. -/
def orText (value : Option Text) (default : Text) : Text :=
  match value with
  | some (c :: cs) => c :: cs
  | _ => default

end RaceFrame
