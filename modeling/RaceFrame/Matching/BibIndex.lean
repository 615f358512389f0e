import RaceFrame.Core.Upserts
import RaceFrame.Matching.Upsert

/-!
# The bib index

`participants_by_bib` is a dictionary comprehension over the participants of an
event. It holds, under every token that is not empty, the last participant whose
bib has that token.
-/

namespace RaceFrame

open Core

/-- The entry of a participant in `participants_by_bib`. -/
def bibEntry (normalizeMatchToken : Text → Text) (p : Participant) : Option (Text × Participant) :=
  let key := normalizeMatchToken p.bibNumber
  if key.isEmpty then none else some (key, p)

theorem Database.mem_participantsOf {F : Type} {db : Database F} {eventId : Uuid}
    {p : Participant} :
    p ∈ db.participantsOf eventId ↔ p ∈ db.participants.rows ∧ p.eventId = eventId := by
  simp [participantsOf]

variable (normalizeMatchToken : Text → Text)

private theorem foldl_bibEntry (participants : List Participant)
    (index : Table (Text × Participant) Prod.fst) :
    participants.foldl (fun index participant =>
      let key := normalizeMatchToken participant.bibNumber
      if key.isEmpty then index else index.upsert (fun _ entry => entry) (key, participant)) index =
    (participants.filterMap (bibEntry normalizeMatchToken)).foldl
      (fun index entry => index.upsert (fun _ new => new) entry) index := by
  induction participants generalizing index with
  | nil => rfl
  | cons p participants ih =>
    rw [List.foldl_cons, ih, List.filterMap_cons, bibEntry]
    dsimp only
    cases (normalizeMatchToken p.bibNumber).isEmpty <;> rfl

private theorem filter_bibEntry {token : Text} (htoken : token ≠ [])
    (participants : List Participant) :
    (participants.filterMap (bibEntry normalizeMatchToken)).filter (fun e => e.1 = token) =
      (participants.filter fun p => normalizeMatchToken p.bibNumber = token).map
        fun p => (token, p) := by
  induction participants with
  | nil => rfl
  | cons p participants ih =>
    rw [List.filterMap_cons, bibEntry]
    by_cases hp : normalizeMatchToken p.bibNumber = token
    · have hempty : (normalizeMatchToken p.bibNumber).isEmpty = false := by
        simpa [hp] using htoken
      simp only [hempty, Bool.false_eq_true, ite_false]
      rw [List.filter_cons_of_pos (by simpa using hp), List.filter_cons_of_pos (by simpa using hp),
        List.map_cons, ih, hp]
    · rw [List.filter_cons_of_neg (by simpa using hp), ← ih]
      cases (normalizeMatchToken p.bibNumber).isEmpty with
      | true => rfl
      | false => exact List.filter_cons_of_neg (by simpa using hp)

/-- Under a token the index holds the last participant whose bib has that token. -/
theorem get?_participantsByBib (participants : List Participant) {token : Text}
    (htoken : token ≠ []) :
    (participantsByBib normalizeMatchToken participants).get? token =
      ((participants.filter fun p =>
        normalizeMatchToken p.bibNumber = token).getLast?).map fun p => (token, p) := by
  rw [participantsByBib, foldl_bibEntry, Table.get?_foldl_upsert (fun _ _ h => h.symm),
    Table.get?_empty, foldl_mergeInto_replace, Option.or_none, filter_bibEntry _ htoken,
    List.getLast?_map]

/-- The empty token is not in the index. -/
theorem get?_participantsByBib_nil (participants : List Participant) :
    (participantsByBib normalizeMatchToken participants).get? [] = none := by
  rw [participantsByBib, foldl_bibEntry, Table.get?_foldl_upsert (fun _ _ h => h.symm),
    Table.get?_empty, foldl_mergeInto_replace, Option.or_none, List.getLast?_eq_none_iff,
    List.filter_eq_nil_iff]
  intro e he
  obtain ⟨p, -, hp⟩ := List.mem_filterMap.mp he
  rw [bibEntry] at hp
  split at hp
  · cases hp
  · rename_i hempty
    rw [← Option.some.inj hp]
    simpa using hempty

variable {normalizeMatchToken}

/-- A participant that is found under a token is one of the participants and has that token. -/
theorem of_get?_participantsByBib {participants : List Participant} {token : Text}
    {e : Text × Participant}
    (h : (participantsByBib normalizeMatchToken participants).get? token = some e) :
    e.1 = token ∧ e.2 ∈ participants ∧ normalizeMatchToken e.2.bibNumber = token := by
  by_cases htoken : token = []
  · rw [htoken, get?_participantsByBib_nil] at h
    cases h
  · rw [get?_participantsByBib _ _ htoken, Option.map_eq_some_iff] at h
    obtain ⟨p, hp, rfl⟩ := h
    have hmem := List.mem_filter.mp (List.mem_of_getLast? hp)
    exact ⟨rfl, hmem.1, by simpa using hmem.2⟩

/-- The only participant that has a token is found under it. -/
theorem get?_participantsByBib_of_unique {participants : List Participant} {p : Participant}
    (hp : p ∈ participants) {token : Text} (htoken : token ≠ [])
    (hkey : normalizeMatchToken p.bibNumber = token)
    (hunique : ∀ q ∈ participants, normalizeMatchToken q.bibNumber = token → q = p) :
    (participantsByBib normalizeMatchToken participants).get? token = some (token, p) := by
  have hmem : p ∈ participants.filter fun p => normalizeMatchToken p.bibNumber = token :=
    List.mem_filter.mpr ⟨hp, by simpa using hkey⟩
  obtain ⟨q, hq⟩ := Option.isSome_iff_exists.mp
    (List.getLast?_isSome.mpr (List.ne_nil_of_mem hmem))
  have hq' := List.mem_filter.mp (List.mem_of_getLast? hq)
  obtain rfl : q = p := hunique q hq'.1 (by simpa using hq'.2)
  rw [get?_participantsByBib _ _ htoken, hq, Option.map_some]

end RaceFrame
