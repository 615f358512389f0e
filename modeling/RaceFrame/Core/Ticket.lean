import Mathlib.Data.List.Basic

/-!
# Fenced tickets

A ticket is a piece of work that is issued to one holder at a time under a token.
Only the current holder may renew it, give it back or settle it; it may be closed
without its holder, and a settled or closed ticket never moves again. The
theorems about runs say who may act when, for any tokens.
-/

namespace RaceFrame.Core

/-- Where a ticket is in its life. -/
inductive TicketPhase
  | waiting | held | closed
  deriving DecidableEq, Repr

/-- A ticket: the token under which it was last issued and its phase. -/
structure Ticket (τ : Type) where
  holder : Option τ
  phase : TicketPhase

/-- What can happen to a ticket. -/
inductive TicketAction (τ : Type)
  | rest
  | issue (token : τ)
  | renew (token : τ)
  | giveBack (token : τ)
  | settle (token : τ)
  | close

variable {τ : Type}

/-- The token that an action issues. -/
def TicketAction.issued? : TicketAction τ → Option τ
  | .issue token => some token
  | _ => none

/-- One step of a ticket. -/
inductive TicketStep : TicketAction τ → Ticket τ → Ticket τ → Prop
  | rest (s : Ticket τ) : TicketStep .rest s s
  | issue {s : Ticket τ} (token : τ) (openPhase : s.phase ≠ .closed) :
    TicketStep (.issue token) s ⟨some token, .held⟩
  | renew (token : τ) : TicketStep (.renew token) ⟨some token, .held⟩ ⟨some token, .held⟩
  | giveBack (token : τ) : TicketStep (.giveBack token) ⟨some token, .held⟩ ⟨some token, .waiting⟩
  | settle (token : τ) : TicketStep (.settle token) ⟨some token, .held⟩ ⟨some token, .closed⟩
  | close {s : Ticket τ} (openPhase : s.phase ≠ .closed) :
    TicketStep .close s ⟨s.holder, .closed⟩

/-- A sequence of steps. -/
inductive TicketRun : List (TicketAction τ) → Ticket τ → Ticket τ → Prop
  | nil (s : Ticket τ) : TicketRun [] s s
  | cons {a : TicketAction τ} {as : List (TicketAction τ)} {s t u : Ticket τ} :
    TicketStep a s t → TicketRun as t u → TicketRun (a :: as) s u

/-- A closed ticket rests. -/
theorem TicketStep.eq_of_closed {a : TicketAction τ} {s t : Ticket τ} (h : TicketStep a s t)
    (hclosed : s.phase = .closed) : a = .rest ∧ t = s := by
  cases h with
  | rest => exact ⟨rfl, rfl⟩
  | issue token openPhase => exact absurd hclosed openPhase
  | close openPhase => exact absurd hclosed openPhase
  | renew | giveBack | settle => cases hclosed

/-- What a holder leaves who gives the ticket back. -/
theorem TicketStep.eq_of_giveBack {token : τ} {s t : Ticket τ}
    (h : TicketStep (.giveBack token) s t) : t = ⟨some token, .waiting⟩ := by
  cases h
  rfl

/-- What a holder leaves who settles the ticket. -/
theorem TicketStep.eq_of_settle {token : τ} {s t : Ticket τ} (h : TicketStep (.settle token) s t) :
    t = ⟨some token, .closed⟩ := by
  cases h
  rfl

/-- A step leaves the token that it issues, or the one before. -/
theorem TicketStep.holder_eq {a : TicketAction τ} {s t : Ticket τ} (h : TicketStep a s t) :
    t.holder = a.issued?.or s.holder := by
  cases h <;> rfl

/-- A holder that has given the ticket back or lost it stays so until the next issue. -/
theorem TicketStep.spent {a : TicketAction τ} {s t : Ticket τ} {token : τ} (h : TicketStep a s t)
    (hissue : a.issued? = none) (hspent : s.holder = some token ∧ s.phase ≠ .held) :
    t.holder = some token ∧ t.phase ≠ .held := by
  cases h with
  | rest => exact hspent
  | issue token openPhase => cases hissue
  | close openPhase => exact ⟨hspent.1, by simp⟩
  | renew | giveBack | settle => exact absurd rfl hspent.2

/-- Nobody comes to hold a ticket under a token that is not issued to them. -/
theorem TicketStep.ne_held {a : TicketAction τ} {s t : Ticket τ} {token : τ} (h : TicketStep a s t)
    (hissue : a.issued? ≠ some token) (hs : s ≠ ⟨some token, .held⟩) :
    t ≠ ⟨some token, .held⟩ := by
  cases h with
  | rest | renew => exact hs
  | issue token' openPhase =>
    intro heq
    cases heq
    exact hissue rfl
  | close | giveBack | settle =>
    intro heq
    have hphase := congrArg Ticket.phase heq
    cases hphase

/-- A closed ticket rests for ever. -/
theorem TicketRun.eq_of_closed {as : List (TicketAction τ)} {s t : Ticket τ}
    (h : TicketRun as s t) (hclosed : s.phase = .closed) : (∀ a ∈ as, a = .rest) ∧ t = s := by
  induction h with
  | nil s => exact ⟨by simp, rfl⟩
  | cons hstep hrun ih =>
    obtain ⟨rfl, rfl⟩ := hstep.eq_of_closed hclosed
    obtain ⟨hrest, heq⟩ := ih hclosed
    refine ⟨?_, heq⟩
    simpa using hrest

/-- The token of a ticket is the last one issued. -/
theorem TicketRun.holder_eq {as : List (TicketAction τ)} {s t : Ticket τ}
    (h : TicketRun as s t) :
    t.holder = (as.filterMap TicketAction.issued?).getLast?.or s.holder := by
  induction h with
  | nil s => rfl
  | @cons a as s t u hstep hrun ih =>
    rw [ih, hstep.holder_eq, List.filterMap_cons]
    cases ha : a.issued? with
    | none => rfl
    | some token =>
      cases as.filterMap TicketAction.issued? with
      | nil => rfl
      | cons token' tokens => simp [List.getLast?_cons]

/-- A holder that has given the ticket back or lost it stays so while nothing is issued. -/
theorem TicketRun.spent {as : List (TicketAction τ)} {s t : Ticket τ} {token : τ}
    (h : TicketRun as s t) (hissue : as.filterMap TicketAction.issued? = [])
    (hspent : s.holder = some token ∧ s.phase ≠ .held) :
    t.holder = some token ∧ t.phase ≠ .held := by
  induction h with
  | nil s => exact hspent
  | @cons a as s t u hstep hrun ih =>
    rw [List.filterMap_cons] at hissue
    cases ha : a.issued? with
    | none =>
      rw [ha] at hissue
      exact ih hissue (hstep.spent ha hspent)
    | some token' =>
      rw [ha] at hissue
      cases hissue

end RaceFrame.Core
