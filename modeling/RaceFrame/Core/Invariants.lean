import RaceFrame.Core.Program

/-!
# Invariants of programs

A program maintains a property of the state when it leads from states with the
property only to such states, also when it raises. Sequences and loops maintain
what their parts maintain, and what is read is read from a state with the
property.
-/

namespace RaceFrame.Core.Program

variable {σ ε α β : Type} {I : σ → Prop}

/-- The program keeps the property of the state, also when it raises. -/
def Maintains (I : σ → Prop) (x : Program σ ε α) : Prop := ∀ s, I s → I (x.run s).2

theorem maintains_pure (a : α) : Maintains I (pure a : Program σ ε α) := fun _ hs => hs

theorem maintains_raise (e : ε) : Maintains I (raise e : Program σ ε α) := fun _ hs => hs

theorem maintains_gets (f : σ → α) : Maintains I (gets f : Program σ ε α) := fun _ hs => hs

/-- What both parts maintain, the sequence maintains. -/
theorem Maintains.bind {x : Program σ ε α} {f : α → Program σ ε β} (hx : Maintains I x)
    (hf : ∀ a, Maintains I (f a)) : Maintains I (x >>= f) := by
  intro s hs
  have hfirst := hx s hs
  rw [run_bind]
  rcases hr : x.run s with ⟨e | a, t⟩
  · rw [hr] at hfirst
    exact hfirst
  · rw [hr] at hfirst
    exact hf a t hfirst

/-- The value that is read is one of a state with the property. -/
theorem maintains_gets_bind (g : σ → α) {f : α → Program σ ε β}
    (hf : ∀ s, I s → Maintains I (f (g s))) : Maintains I (gets g >>= f) :=
  fun s hs => hf s hs s hs

/-- A handler goes on from the state that the exception leaves. -/
theorem Maintains.attempt {x : Program σ ε α} (hx : Maintains I x) : Maintains I x.attempt := hx

theorem Maintains.map {x : Program σ ε α} (hx : Maintains I x) (f : α → β) :
    Maintains I (f <$> x) := by
  rw [map_eq_pure_bind]
  exact hx.bind fun a => maintains_pure (f a)

theorem Maintains.discard {x : Program σ ε α} (hx : Maintains I x) :
    Maintains I (Functor.discard x) := by
  rw [discard_eq]
  exact hx.bind fun _ => maintains_pure _

theorem Maintains.ite {c : Prop} [Decidable c] {x y : Program σ ε α} (hx : Maintains I x)
    (hy : Maintains I y) : Maintains I (if c then x else y) := by
  by_cases hc : c
  · rw [if_pos hc]
    exact hx
  · rw [if_neg hc]
    exact hy

/-- A loop maintains what its turns maintain. -/
theorem Maintains.forM {f : α → Program σ ε PUnit} {xs : List α}
    (hf : ∀ a ∈ xs, Maintains I (f a)) : Maintains I (xs.forM f) := by
  induction xs with
  | nil => exact maintains_pure _
  | cons a xs ih =>
    change Maintains I (f a >>= fun _ => xs.forM f)
    exact (hf a List.mem_cons_self).bind fun _ => ih fun b hb => hf b (List.mem_cons_of_mem a hb)

/-- A loop with an accumulator maintains what its turns maintain. -/
theorem Maintains.foldlM {f : β → α → Program σ ε β} {xs : List α}
    (hf : ∀ b, ∀ a ∈ xs, Maintains I (f b a)) (b : β) : Maintains I (xs.foldlM f b) := by
  induction xs generalizing b with
  | nil => exact maintains_pure b
  | cons a xs ih =>
    rw [List.foldlM_cons]
    exact (hf b a List.mem_cons_self).bind fun b' =>
      ih (fun b'' a' ha' => hf b'' a' (List.mem_cons_of_mem a ha')) b'

end RaceFrame.Core.Program
