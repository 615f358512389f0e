import RaceFrame.Core.Program

/-!
# Which exceptions a program raises

`RaisesOnly P x` says that every exception that `x` raises satisfies `P`. The
rules follow the structure of programs.
-/

namespace RaceFrame.Core.Program

variable {σ ε α β : Type}

/-- Every exception that the program raises satisfies `P`. -/
def RaisesOnly (P : ε → Prop) (x : Program σ ε α) : Prop := ∀ s e, (x.run s).1 = .error e → P e

variable {P : ε → Prop}

theorem raisesOnly_pure (a : α) : RaisesOnly P (pure a : Program σ ε α) := by
  rintro s e ⟨⟩

theorem raisesOnly_gets (f : σ → α) : RaisesOnly P (gets f : Program σ ε α) := by
  rintro s e ⟨⟩

theorem raisesOnly_modify (f : σ → σ) : RaisesOnly P (modify f : Program σ ε Unit) := by
  rintro s e ⟨⟩

theorem raisesOnly_raise {e : ε} (h : P e) : RaisesOnly P (raise e : Program σ ε α) := by
  rintro s e' ⟨⟩
  exact h

/-- A sequence raises what its parts raise. -/
theorem RaisesOnly.bind {x : Program σ ε α} {f : α → Program σ ε β} (hx : RaisesOnly P x)
    (hf : ∀ a, RaisesOnly P (f a)) : RaisesOnly P (x >>= f) := by
  intro s e h
  rw [run_bind] at h
  rcases hr : x.run s with ⟨_ | a, t⟩
  · rw [hr] at h
    cases h
    exact hx s e (by rw [hr])
  · rw [hr] at h
    exact hf a t e h

theorem RaisesOnly.discard {x : Program σ ε α} (hx : RaisesOnly P x) :
    RaisesOnly P (Functor.discard x) := by
  rw [discard_eq]
  exact hx.bind fun _ => raisesOnly_pure _

theorem RaisesOnly.ite {c : Prop} [Decidable c] {x y : Program σ ε α} (hx : RaisesOnly P x)
    (hy : RaisesOnly P y) : RaisesOnly P (if c then x else y) := by
  by_cases hc : c
  · simpa only [if_pos hc] using hx
  · simpa only [if_neg hc] using hy

/-- A loop raises what its turns raise. -/
theorem RaisesOnly.forM {f : α → Program σ ε PUnit} {xs : List α}
    (hf : ∀ a, RaisesOnly P (f a)) : RaisesOnly P (xs.forM f) := by
  induction xs with
  | nil => exact raisesOnly_pure _
  | cons a xs ih =>
    change RaisesOnly P (f a >>= fun _ => xs.forM f)
    exact (hf a).bind fun _ => ih

/-- A loop with an accumulator raises what its turns raise. -/
theorem RaisesOnly.foldlM {f : β → α → Program σ ε β} {xs : List α}
    (hf : ∀ b a, RaisesOnly P (f b a)) (b : β) : RaisesOnly P (xs.foldlM f b) := by
  induction xs generalizing b with
  | nil => exact raisesOnly_pure b
  | cons a xs ih =>
    rw [List.foldlM_cons]
    exact (hf b a).bind ih

end RaceFrame.Core.Program
