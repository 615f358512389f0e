import Mathlib.Data.List.Perm.Basic
import Mathlib.Data.Set.Defs

/-!
# Ledgers

A ledger holds the keys in use and the dead ones. A move takes keys out of use,
which die by it, and takes new ones into use. It keeps the ledger balanced: each
key is used once and none is used after its death. And it loses no key: whatever
was in use or dead still is.
-/

namespace RaceFrame.Core

/-- Keys in use and dead keys. -/
structure Ledger (κ : Type) where
  live : List κ
  dead : Set κ

namespace Ledger

variable {κ : Type} {l l' : Ledger κ}

/-- The key is in use or dead. -/
def Accounts (l : Ledger κ) (k : κ) : Prop := k ∈ l.live ∨ k ∈ l.dead

/-- Every key is used once, and no dead key is. -/
structure Balanced (l : Ledger κ) : Prop where
  nodup : l.live.Nodup
  alive : ∀ k ∈ l.live, k ∉ l.dead

/-- The dropped keys die, and the fresh ones come into use. -/
structure Moves (l l' : Ledger κ) (dropped fresh : List κ) : Prop where
  split : ∃ kept, l.live.Perm (dropped ++ kept) ∧ l'.live.Perm (fresh ++ kept)
  dead : ∀ k, k ∈ l'.dead ↔ k ∈ l.dead ∨ k ∈ dropped
  nodup : fresh.Nodup
  fresh : ∀ k ∈ fresh, ¬l.Accounts k

variable {dropped fresh : List κ}

/-- A move keeps the ledger balanced. -/
theorem Balanced.move (h : l.Balanced) (hmove : l.Moves l' dropped fresh) : l'.Balanced := by
  obtain ⟨kept, hlive, hlive'⟩ := hmove.split
  obtain ⟨-, hkept, hdisjoint⟩ := List.nodup_append.mp (hlive.nodup_iff.mp h.nodup)
  have hmem : ∀ k ∈ kept, k ∈ l.live := fun k hk => hlive.mem_iff.mpr (List.mem_append_right _ hk)
  constructor
  · refine hlive'.nodup_iff.mpr (List.nodup_append.mpr ⟨hmove.nodup, hkept, ?_⟩)
    rintro k hk _ hk' rfl
    exact hmove.fresh k hk (Or.inl (hmem k hk'))
  · intro k hk hdead
    have hgone : ¬(k ∈ l.live ∧ k ∈ l.dead) := fun hboth => h.alive k hboth.1 hboth.2
    rcases List.mem_append.mp (hlive'.mem_iff.mp hk) with hk | hk
    · rcases (hmove.dead k).mp hdead with hold | hdropped
      · exact hmove.fresh k hk (Or.inr hold)
      · exact hmove.fresh k hk (Or.inl (hlive.mem_iff.mpr (List.mem_append_left _ hdropped)))
    · rcases (hmove.dead k).mp hdead with hold | hdropped
      · exact hgone ⟨hmem k hk, hold⟩
      · exact hdisjoint k hdropped k hk rfl

/-- A move loses no key. -/
theorem Accounts.move {k : κ} (h : l.Accounts k) (hmove : l.Moves l' dropped fresh) :
    l'.Accounts k := by
  obtain ⟨kept, hlive, hlive'⟩ := hmove.split
  rcases h with hk | hk
  · rcases List.mem_append.mp (hlive.mem_iff.mp hk) with hk | hk
    · exact Or.inr ((hmove.dead k).mpr (Or.inr hk))
    · exact Or.inl (hlive'.mem_iff.mpr (List.mem_append_right _ hk))
  · exact Or.inr ((hmove.dead k).mpr (Or.inl hk))

/-! ## Splitting rows -/

/-- The keys of some rows are those of the selected ones and those of the others. -/
theorem perm_flatMap_filter {α : Type} (selects : α → Bool) (f : α → List κ) (rows : List α) :
    (rows.flatMap f).Perm ((rows.filter selects).flatMap f ++
      (rows.filter fun row => !selects row).flatMap f) := by
  rw [← List.flatMap_append]
  exact ((List.filter_append_perm selects rows).symm).flatMap_right f

theorem perm_map_filter {α : Type} (selects : α → Bool) (f : α → κ) (rows : List α) :
    (rows.map f).Perm ((rows.filter selects).map f ++
      (rows.filter fun row => !selects row).map f) := by
  rw [← List.map_append]
  exact ((List.filter_append_perm selects rows).symm).map f

end Ledger

end RaceFrame.Core
