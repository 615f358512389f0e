import Mathlib.Data.List.Basic

/-!
# Programs with a state and exceptions

A `Program` reads and writes a state and either returns or raises; the state it
has reached survives a raise. This is the shape of a request handler: what has
been written stays written unless somebody discards it. A program also records
the states in which it issues a statement, since an exception from outside (a
database that fails) can end it in any of them. The rules below run a program
symbolically (`run_bind` and its companions), carry a projection of the state
through it (`Preserves`) and bound where it can be interrupted (`Exposes`).
-/

namespace RaceFrame.Core

/-- A result that is there is passed on. -/
theorem ok_bind {ε α β : Type} (a : α) (f : α → Except ε β) : (Except.ok a >>= f) = f a := rfl

/-- An exception skips what follows. -/
theorem error_bind {ε α β : Type} (e : ε) (f : α → Except ε β) :
    ((Except.error e : Except ε α) >>= f) = .error e := rfl

/-- A result at the end comes from a result before. -/
theorem bind_eq_ok_iff {ε α β : Type} {x : Except ε α} {f : α → Except ε β} {b : β} :
    (x >>= f) = .ok b ↔ ∃ a, x = .ok a ∧ f a = .ok b := by
  cases x with
  | error e => exact iff_of_false (fun h => nomatch h) fun ⟨a, h, _⟩ => nomatch h
  | ok a =>
    constructor
    · exact fun h => ⟨a, rfl, h⟩
    · rintro ⟨a', ⟨⟩, h⟩
      exact h

/-- A computation over states `σ` that raises exceptions `ε`. -/
structure Program (σ ε α : Type) where
  /-- The result, returned or raised, and the state reached. -/
  run : σ → Except ε α × σ
  /-- The states in which a statement is issued, in order. -/
  visits : σ → List σ

namespace Program

variable {σ ε α β γ : Type}

/-- Sequencing stops at the first raise and keeps the state reached there. -/
protected def bind (x : Program σ ε α) (f : α → Program σ ε β) : Program σ ε β :=
  { run := fun s => match x.run s with
      | (.ok a, t) => (f a).run t
      | (.error e, t) => (.error e, t)
    visits := fun s => x.visits s ++ match x.run s with
      | (.ok a, t) => (f a).visits t
      | (.error _, _) => [] }

instance : Monad (Program σ ε) where
  pure a := ⟨fun s => (.ok a, s), fun _ => []⟩
  bind := Program.bind

/-- The current state, read through a function. -/
def gets (f : σ → α) : Program σ ε α := ⟨fun s => (.ok (f s), s), fun s => [s]⟩

/-- Update the state. -/
def modify (f : σ → σ) : Program σ ε Unit := ⟨fun s => (.ok (), f s), fun s => [s]⟩

/-- Raise an exception, leaving the state as it is. -/
def raise (e : ε) : Program σ ε α := ⟨fun s => (.error e, s), fun _ => []⟩

/-- `try … except`: the exception becomes a result. -/
def attempt (x : Program σ ε α) : Program σ ε (Except ε α) :=
  ⟨fun s => (.ok (x.run s).1, (x.run s).2), x.visits⟩

@[ext] theorem ext {x y : Program σ ε α} (hrun : ∀ s, x.run s = y.run s)
    (hvisits : ∀ s, x.visits s = y.visits s) : x = y := by
  cases x
  cases y
  simp only [Program.mk.injEq]
  exact ⟨funext hrun, funext hvisits⟩

@[simp] theorem run_pure (a : α) (s : σ) : (pure a : Program σ ε α).run s = (.ok a, s) := rfl

@[simp] theorem run_gets (f : σ → α) (s : σ) :
    (gets f : Program σ ε α).run s = (.ok (f s), s) := rfl

@[simp] theorem run_modify (f : σ → σ) (s : σ) :
    (modify f : Program σ ε Unit).run s = (.ok (), f s) := rfl

@[simp] theorem run_raise (e : ε) (s : σ) : (raise e : Program σ ε α).run s = (.error e, s) := rfl

theorem run_bind (x : Program σ ε α) (f : α → Program σ ε β) (s : σ) :
    (x >>= f).run s = match x.run s with
      | (.ok a, t) => (f a).run t
      | (.error e, t) => (.error e, t) := rfl

theorem visits_bind (x : Program σ ε α) (f : α → Program σ ε β) (s : σ) :
    (x >>= f).visits s = x.visits s ++ match x.run s with
      | (.ok a, t) => (f a).visits t
      | (.error _, _) => [] := rfl

theorem run_map (f : α → β) (x : Program σ ε α) (s : σ) :
    (f <$> x).run s = ((x.run s).1.map f, (x.run s).2) := by
  change (x >>= fun a => pure (f a)).run s = _
  rw [run_bind]
  rcases x.run s with ⟨_ | _, t⟩ <;> rfl

/-- A first part that returns hands its value and state to the rest. -/
theorem run_bind_ok {x : Program σ ε α} {f : α → Program σ ε β} {s t : σ} {a : α}
    (h : x.run s = (.ok a, t)) : (x >>= f).run s = (f a).run t := by
  rw [run_bind, h]

/-- A first part that raises ends the whole program. -/
theorem run_bind_error {x : Program σ ε α} {f : α → Program σ ε β} {s t : σ} {e : ε}
    (h : x.run s = (.error e, t)) : (x >>= f).run s = (.error e, t) := by
  rw [run_bind, h]

@[simp] theorem run_pure_bind (a : α) (f : α → Program σ ε β) (s : σ) :
    ((pure a : Program σ ε α) >>= f).run s = (f a).run s := rfl

@[simp] theorem run_gets_bind (g : σ → α) (f : α → Program σ ε β) (s : σ) :
    (gets g >>= f).run s = (f (g s)).run s := rfl

@[simp] theorem run_modify_bind (g : σ → σ) (f : Unit → Program σ ε β) (s : σ) :
    (modify g >>= f).run s = (f ()).run (g s) := rfl

@[simp] theorem run_attempt_bind (x : Program σ ε α) (f : Except ε α → Program σ ε β) (s : σ) :
    (attempt x >>= f).run s = (f (x.run s).1).run (x.run s).2 := rfl

@[simp] theorem run_raise_bind (e : ε) (f : α → Program σ ε β) (s : σ) :
    ((raise e : Program σ ε α) >>= f).run s = (.error e, s) := rfl

private theorem id_map_eq (x : Program σ ε α) : id <$> x = x := by
  apply ext
  · intro s
    change (x >>= fun a => pure a).run s = x.run s
    rw [run_bind]
    rcases x.run s with ⟨_ | _, t⟩ <;> rfl
  · intro s
    change (x >>= fun a => pure a).visits s = x.visits s
    rw [visits_bind]
    rcases x.run s with ⟨_ | _, t⟩ <;> exact List.append_nil _

private theorem bind_bind_eq (x : Program σ ε α) (f : α → Program σ ε β)
    (g : β → Program σ ε γ) : x >>= f >>= g = x >>= fun a => f a >>= g := by
  apply ext
  · intro s
    simp only [run_bind]
    rcases x.run s with ⟨_ | _, t⟩ <;> rfl
  · intro s
    simp only [visits_bind, run_bind]
    rcases x.run s with ⟨_ | _, t⟩
    · rw [List.append_nil, List.append_nil]
    · exact List.append_assoc _ _ _

instance : LawfulMonad (Program σ ε) :=
  LawfulMonad.mk' (Program σ ε) id_map_eq (fun _ _ => rfl) bind_bind_eq

theorem discard_eq (x : Program σ ε α) : discard x = x >>= fun _ => pure PUnit.unit := by
  change (Function.const α PUnit.unit <$> x) = _
  rw [map_eq_pure_bind]

/-- An exception from outside finds the program only in states related to the one it starts
from. -/
def Exposes (R : σ → σ → Prop) (x : Program σ ε α) : Prop := ∀ s, ∀ u ∈ x.visits s, R s u

/-- The program leaves the projection `π` of the state as it was, at every point, also when it
raises. -/
def Preserves (π : σ → γ) (x : Program σ ε α) : Prop :=
  ∀ s, (∀ u ∈ x.visits s, π u = π s) ∧ π (x.run s).2 = π s

variable {π : σ → γ}

theorem preserves_pure (a : α) : Preserves π (pure a : Program σ ε α) :=
  fun _ => ⟨fun _ hu => absurd hu List.not_mem_nil, rfl⟩

theorem preserves_gets (f : σ → α) : Preserves π (gets f : Program σ ε α) :=
  fun _ => ⟨fun _ hu => congrArg π (List.mem_singleton.mp hu), rfl⟩

theorem preserves_raise (e : ε) : Preserves π (raise e : Program σ ε α) :=
  fun _ => ⟨fun _ hu => absurd hu List.not_mem_nil, rfl⟩

theorem preserves_modify {f : σ → σ} (h : ∀ s, π (f s) = π s) :
    Preserves π (modify f : Program σ ε Unit) :=
  fun s => ⟨fun _ hu => congrArg π (List.mem_singleton.mp hu), h s⟩

/-- What both parts preserve, the sequence preserves. -/
theorem Preserves.bind {x : Program σ ε α} {f : α → Program σ ε β} (hx : Preserves π x)
    (hf : ∀ a, Preserves π (f a)) : Preserves π (x >>= f) := by
  intro s
  obtain ⟨hvisits, hend⟩ := hx s
  rw [run_bind, visits_bind]
  rcases hr : x.run s with ⟨e | a, t⟩
  · rw [hr] at hend
    exact ⟨by simpa only [List.append_nil] using hvisits, hend⟩
  · rw [hr] at hend
    obtain ⟨hvisits', hend'⟩ := hf a t
    refine ⟨fun u hu => ?_, hend'.trans hend⟩
    rcases List.mem_append.mp hu with hu | hu
    · exact hvisits u hu
    · exact (hvisits' u hu).trans hend

theorem Preserves.map {x : Program σ ε α} (hx : Preserves π x) (f : α → β) :
    Preserves π (f <$> x) := by
  rw [map_eq_pure_bind]
  exact hx.bind fun a => preserves_pure (f a)

theorem Preserves.discard {x : Program σ ε α} (hx : Preserves π x) :
    Preserves π (Functor.discard x) := by
  rw [discard_eq]
  exact hx.bind fun _ => preserves_pure _

theorem Preserves.ite {c : Prop} [Decidable c] {x y : Program σ ε α} (hx : Preserves π x)
    (hy : Preserves π y) : Preserves π (if c then x else y) := by
  by_cases hc : c
  · simpa only [if_pos hc] using hx
  · simpa only [if_neg hc] using hy

/-- A loop preserves what each of its turns preserves. -/
theorem Preserves.forM {f : α → Program σ ε PUnit} {xs : List α}
    (hf : ∀ a ∈ xs, Preserves π (f a)) : Preserves π (xs.forM f) := by
  induction xs with
  | nil => exact preserves_pure _
  | cons a xs ih =>
    change Preserves π (f a >>= fun _ => xs.forM f)
    exact (hf a List.mem_cons_self).bind fun _ => ih fun b hb => hf b (List.mem_cons_of_mem a hb)

/-- A loop with an accumulator preserves what each of its turns preserves. -/
theorem Preserves.foldlM {f : β → α → Program σ ε β} {xs : List α}
    (hf : ∀ b a, Preserves π (f b a)) (b : β) : Preserves π (xs.foldlM f b) := by
  induction xs generalizing b with
  | nil => exact preserves_pure b
  | cons a xs ih =>
    rw [List.foldlM_cons]
    exact (hf b a).bind ih

/-- A projection of what is preserved is preserved. -/
theorem Preserves.comp {δ : Type} {x : Program σ ε α} (hx : Preserves π x) (g : γ → δ) :
    Preserves (g ∘ π) x :=
  fun s => ⟨fun u hu => congrArg g ((hx s).1 u hu), congrArg g (hx s).2⟩

theorem exposes_pure {R : σ → σ → Prop} (a : α) : Exposes R (pure a : Program σ ε α) :=
  fun _ _ hu => absurd hu List.not_mem_nil

theorem exposes_raise {R : σ → σ → Prop} (e : ε) : Exposes R (raise e : Program σ ε α) :=
  fun _ _ hu => absurd hu List.not_mem_nil

/-- A computation on the result is not exposed. -/
theorem Exposes.bind_pure {R : σ → σ → Prop} {x : Program σ ε α} (hx : Exposes R x)
    {f : α → Program σ ε β} (hf : ∀ a s, (f a).visits s = []) : Exposes R (x >>= f) := by
  intro s u hu
  refine hx s u ?_
  rw [visits_bind] at hu
  rcases hr : x.run s with ⟨e | a, t⟩
  · simpa only [hr, List.append_nil] using hu
  · simpa only [hr, hf, List.append_nil] using hu

/-- What comes first preserves the projection, so the rest is exposed as if it had come first. -/
theorem Preserves.exposes_bind {x : Program σ ε α} {f : α → Program σ ε β} (hx : Preserves π x)
    (hf : ∀ a, Exposes (fun s u => π u = π s) (f a)) :
    Exposes (fun s u => π u = π s) (x >>= f) := by
  intro s u hu
  obtain ⟨hvisits, hend⟩ := hx s
  rw [visits_bind] at hu
  rcases List.mem_append.mp hu with hu | hu
  · exact hvisits u hu
  · rcases hr : x.run s with ⟨e | a, t⟩
    · rw [hr] at hu
      cases hu
    · rw [hr] at hu hend
      exact (hf a t u hu).trans hend

/-- Every state that the program ends in is related to the one it starts from, also when it
raises. -/
def Within (R : σ → σ → Prop) (x : Program σ ε α) : Prop := ∀ s, R s (x.run s).2

variable {R : σ → σ → Prop}

theorem within_pure [Std.Refl R] (a : α) : Within R (pure a : Program σ ε α) :=
  fun s => Std.Refl.refl s

theorem within_gets [Std.Refl R] (f : σ → α) : Within R (gets f : Program σ ε α) :=
  fun s => Std.Refl.refl s

/-- A transitive relation holds across a sequence when it holds across both parts. -/
theorem Within.bind [IsTrans σ R] {x : Program σ ε α} {f : α → Program σ ε β} (hx : Within R x)
    (hf : ∀ a, Within R (f a)) : Within R (x >>= f) := by
  intro s
  have hs := hx s
  rw [run_bind]
  rcases hr : x.run s with ⟨e | a, t⟩
  · simpa only [hr] using hs
  · rw [hr] at hs
    exact IsTrans.trans _ _ _ hs (hf a t)

/-- A loop with an accumulator stays within what each of its turns stays within. -/
theorem Within.foldlM [Std.Refl R] [IsTrans σ R] {f : β → α → Program σ ε β} {xs : List α}
    (hf : ∀ b, ∀ a ∈ xs, Within R (f b a)) (b : β) : Within R (xs.foldlM f b) := by
  induction xs generalizing b with
  | nil => exact within_pure b
  | cons a xs ih =>
    rw [List.foldlM_cons]
    exact (hf b a List.mem_cons_self).bind
      (ih fun b' a' ha' => hf b' a' (List.mem_cons_of_mem a ha'))

/-- A loop stays within what each of its turns stays within. -/
theorem Within.forM [Std.Refl R] [IsTrans σ R] {f : α → Program σ ε PUnit} {xs : List α}
    (hf : ∀ a ∈ xs, Within R (f a)) : Within R (xs.forM f) := by
  induction xs with
  | nil => exact within_pure _
  | cons a xs ih =>
    change Within R (f a >>= fun _ => xs.forM f)
    exact (hf a List.mem_cons_self).bind fun _ => ih fun b hb => hf b (List.mem_cons_of_mem a hb)

end Program

end RaceFrame.Core
