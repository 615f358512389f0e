import Mathlib.Data.List.Basic

/-!
# Bounded retries

A client tries an action on a shared state until an outcome decides, as often as
its budget allows; the last try decides in any case. A try includes what others
do to the state before it. The rules say what a property of the state that every
try keeps means for the whole sequence.
-/

namespace RaceFrame.Core

variable {σ ο ρ : Type}

/-- One try: the state that it meets, its outcome and the state that it leaves. -/
structure Try (σ ο : Type) where
  met : σ
  outcome : ο
  left : σ

/-- The tries that were made, the state that they leave and their result. -/
structure Retried (σ ο ρ : Type) where
  tries : List (Try σ ο)
  state : σ
  result : ρ

/-- Try until an outcome is decisive; a budget of no tries is exhausted at once. -/
def retry (decisive : ο → Option ρ) (giveUp : ο → ρ) (exhausted : ρ) :
    List (σ → Try σ ο) → σ → Retried σ ο ρ
  | [], s => ⟨[], s, exhausted⟩
  | attempt :: rest, s =>
    match decisive (attempt s).outcome with
    | some result => ⟨[attempt s], (attempt s).left, result⟩
    | none =>
      if rest.isEmpty then ⟨[attempt s], (attempt s).left, giveUp (attempt s).outcome⟩
      else
        let later := retry decisive giveUp exhausted rest (attempt s).left
        ⟨attempt s :: later.tries, later.state, later.result⟩

variable {decisive : ο → Option ρ} {giveUp : ο → ρ} {exhausted : ρ}

/-- A sequence of tries ends with its first one or goes on after it. -/
theorem retry_cons_cases (attempt : σ → Try σ ο) (rest : List (σ → Try σ ο)) (s : σ) :
    let retried := retry decisive giveUp exhausted (attempt :: rest) s
    (∃ result, retried = ⟨[attempt s], (attempt s).left, result⟩ ∧
      (decisive (attempt s).outcome = some result ∨
        decisive (attempt s).outcome = none ∧ rest = [] ∧
          result = giveUp (attempt s).outcome)) ∨
    (decisive (attempt s).outcome = none ∧ rest ≠ [] ∧
      let later := retry decisive giveUp exhausted rest (attempt s).left
      retried = ⟨attempt s :: later.tries, later.state, later.result⟩) := by
  rw [retry]
  cases hdecisive : decisive (attempt s).outcome with
  | some result => exact Or.inl ⟨result, rfl, Or.inl rfl⟩
  | none =>
    by_cases hrest : rest = []
    · subst hrest
      exact Or.inl ⟨_, rfl, Or.inr ⟨rfl, rfl, rfl⟩⟩
    · refine Or.inr ⟨rfl, hrest, ?_⟩
      simp only [List.isEmpty_iff, hrest, if_false]

/-- Every try is one of the attempts, made on some state. -/
theorem exists_of_mem_tries {attempts : List (σ → Try σ ο)} {s : σ} {t : Try σ ο}
    (h : t ∈ (retry decisive giveUp exhausted attempts s).tries) :
    ∃ attempt ∈ attempts, ∃ u, attempt u = t := by
  induction attempts generalizing s with
  | nil => exact absurd h List.not_mem_nil
  | cons attempt rest ih =>
    rcases @retry_cons_cases σ ο ρ decisive giveUp exhausted attempt rest s with
      ⟨result, heq, -⟩ | ⟨-, -, heq⟩
    · rw [heq] at h
      obtain rfl := List.mem_singleton.mp h
      exact ⟨attempt, List.mem_cons_self, s, rfl⟩
    · rw [heq] at h
      rcases List.mem_cons.mp h with rfl | h
      · exact ⟨attempt, List.mem_cons_self, s, rfl⟩
      · obtain ⟨attempt', hmem, hmade⟩ := ih h
        exact ⟨attempt', List.mem_cons_of_mem _ hmem, hmade⟩

/-- The last try decides: it is decisive, or nothing was and the client gives up. -/
theorem retry_result {attempts : List (σ → Try σ ο)} (hne : attempts ≠ []) (s : σ) :
    let retried := retry decisive giveUp exhausted attempts s
    ∃ earlier last, retried.tries = earlier ++ [last] ∧ retried.state = last.left ∧
      (∀ t ∈ earlier, decisive t.outcome = none) ∧
      (decisive last.outcome = some retried.result ∨
        decisive last.outcome = none ∧ retried.result = giveUp last.outcome) := by
  induction attempts generalizing s with
  | nil => exact absurd rfl hne
  | cons attempt rest ih =>
    rcases @retry_cons_cases σ ο ρ decisive giveUp exhausted attempt rest s with
      ⟨result, heq, hresult⟩ | ⟨hnone, hrest, heq⟩
    · rw [heq]
      exact ⟨[], attempt s, rfl, rfl, by simp, hresult.imp_right fun h => ⟨h.1, h.2.2⟩⟩
    · obtain ⟨earlier, last, htries, hstate, hearlier, hlast⟩ := ih hrest (attempt s).left
      rw [heq]
      refine ⟨attempt s :: earlier, last, by rw [htries]; rfl, hstate, fun t ht => ?_, hlast⟩
      rcases List.mem_cons.mp ht with rfl | ht
      · exact hnone
      · exact hearlier t ht

section Invariants

variable {P : σ → Prop} {attempts : List (σ → Try σ ο)}

/-- What every attempt keeps, holds in every state that the tries meet or leave. -/
theorem retry_keeps (hkeeps : ∀ attempt ∈ attempts, ∀ s, P s →
      P (attempt s).met ∧ P (attempt s).left) {s : σ} (hs : P s) :
    (∀ t ∈ (retry decisive giveUp exhausted attempts s).tries, P t.met ∧ P t.left) ∧
      P (retry decisive giveUp exhausted attempts s).state := by
  induction attempts generalizing s with
  | nil => exact ⟨fun t ht => absurd ht List.not_mem_nil, hs⟩
  | cons attempt rest ih =>
    have hfirst := hkeeps attempt List.mem_cons_self s hs
    rcases @retry_cons_cases σ ο ρ decisive giveUp exhausted attempt rest s with
      ⟨result, heq, -⟩ | ⟨-, -, heq⟩
    · rw [heq]
      exact ⟨fun t ht => by rw [List.mem_singleton.mp ht]; exact hfirst, hfirst.2⟩
    · obtain ⟨htries, hstate⟩ :=
        ih (fun attempt' hmem => hkeeps attempt' (List.mem_cons_of_mem _ hmem)) hfirst.2
      rw [heq]
      refine ⟨fun t ht => ?_, hstate⟩
      rcases List.mem_cons.mp ht with rfl | ht
      · exact hfirst
      · exact htries t ht

/-- What one try establishes and every attempt keeps, holds from that try on. -/
theorem retry_keeps_after (hkeeps : ∀ attempt ∈ attempts, ∀ s, P s →
      P (attempt s).met ∧ P (attempt s).left) {s : σ} {earlier later : List (Try σ ο)}
    {t : Try σ ο}
    (htries : (retry decisive giveUp exhausted attempts s).tries = earlier ++ t :: later)
    (ht : P t.left) :
    (∀ u ∈ later, P u.met ∧ P u.left) ∧
      P (retry decisive giveUp exhausted attempts s).state := by
  induction attempts generalizing s earlier with
  | nil => cases earlier <;> cases htries
  | cons attempt rest ih =>
    have hrest : ∀ attempt' ∈ rest, ∀ s, P s → P (attempt' s).met ∧ P (attempt' s).left :=
      fun attempt' hmem => hkeeps attempt' (List.mem_cons_of_mem _ hmem)
    rcases @retry_cons_cases σ ο ρ decisive giveUp exhausted attempt rest s with
      ⟨result, heq, -⟩ | ⟨-, -, heq⟩
    · rw [heq] at htries ⊢
      cases earlier with
      | nil =>
        obtain ⟨rfl, rfl⟩ := List.cons.inj htries
        exact ⟨fun u hu => absurd hu List.not_mem_nil, ht⟩
      | cons first earlier =>
        have hnil := (List.cons.inj htries).2
        cases earlier <;> cases hnil
    · rw [heq] at htries ⊢
      cases earlier with
      | nil =>
        obtain ⟨rfl, rfl⟩ := List.cons.inj htries
        exact retry_keeps hrest ht
      | cons first earlier => exact ih hrest (List.cons.inj htries).2

/-- When what one try does makes sure of `P`, and no try does anything from a state with `P`, at
most one try does something. -/
theorem pairwise_tries_retry {acts : Try σ ο → Prop}
    (hkeeps : ∀ attempt ∈ attempts, ∀ s, P s → P (attempt s).met ∧ P (attempt s).left)
    (hacts : ∀ attempt ∈ attempts, ∀ s, acts (attempt s) → P (attempt s).left)
    (hrests : ∀ attempt ∈ attempts, ∀ s, P (attempt s).met → ¬acts (attempt s)) (s : σ) :
    (retry decisive giveUp exhausted attempts s).tries.Pairwise fun t u =>
      acts t → ¬acts u := by
  induction attempts generalizing s with
  | nil => exact List.Pairwise.nil
  | cons attempt rest ih =>
    have hrest : ∀ attempt' ∈ rest, ∀ s, P s → P (attempt' s).met ∧ P (attempt' s).left :=
      fun attempt' hmem => hkeeps attempt' (List.mem_cons_of_mem _ hmem)
    rcases @retry_cons_cases σ ο ρ decisive giveUp exhausted attempt rest s with
      ⟨result, heq, -⟩ | ⟨-, -, heq⟩
    · rw [heq]
      exact List.pairwise_singleton _ _
    · rw [heq]
      refine List.Pairwise.cons (fun u hu hact => ?_) ?_
      · obtain ⟨htries, -⟩ :=
          retry_keeps hrest (hacts attempt List.mem_cons_self s hact)
        obtain ⟨attempt', hmem, v, rfl⟩ := exists_of_mem_tries hu
        exact hrests attempt' (List.mem_cons_of_mem _ hmem) v (htries _ hu).1
      · exact ih hrest (fun attempt' hmem => hacts attempt' (List.mem_cons_of_mem _ hmem))
          (fun attempt' hmem => hrests attempt' (List.mem_cons_of_mem _ hmem)) _

end Invariants

end RaceFrame.Core
