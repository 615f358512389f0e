import RaceFrame.Matching.BibIndex
import RaceFrame.Roster.Participants
import RaceFrame.Text.BibKeys

/-!
# Who owns a bib

The roster functions keep the lookup keys of an event apart. The OCR matcher
looks participants up by another key, the match token; its index agrees with the
lookup keys as long as no bib of the event has a lossy code point.
-/

namespace RaceFrame

open Core

variable {F : Type} {lower : Text → Text}

/-- The participants that the roster functions leave: each under the key of its bib, and one for
each key of an event. -/
structure RosterSound (rows : List Participant) : Prop where
  lookup : ∀ p ∈ rows, p.bibLookup = normalizeBibLookup p.bibNumber
  nonempty : ∀ p ∈ rows, p.bibLookup ≠ []
  length : ∀ p ∈ rows, p.bibNumber.length ≤ 64
  unique : ∀ p ∈ rows, ∀ q ∈ rows, p.eventId = q.eventId → p.bibLookup = q.bibLookup → p = q

theorem rosterSound_nil : RosterSound [] where
  lookup := by simp
  nonempty := by simp
  length := by simp
  unique := by simp

/-- An edit of a sound roster leaves a sound roster. -/
theorem RosterEdit.sound {old new : List Participant} (h : RosterEdit lower old new)
    (hold : RosterSound old) : RosterSound new where
  lookup p hp := by
    rcases h.made p hp with hin | ⟨_, _, _, _, -, rfl⟩
    · exact hold.lookup p hin
    · rfl
  nonempty p hp := by
    rcases h.made p hp with hin | ⟨_, _, _, _, hne, rfl⟩
    · exact hold.nonempty p hin
    · exact hne
  length p hp := by
    have hfits := h.fits p hp
    simp only [Participant.fits, Bool.and_eq_true, decide_eq_true_eq] at hfits
    exact hfits.1.1.1
  unique p hp q hq hevent hlookup := by
    have hunique := h.unique
    simp only [participantsUnique, Bool.and_eq_true, decide_eq_true_eq] at hunique
    exact List.inj_on_of_nodup_map hunique.2 hp hq (Prod.ext hevent hlookup)

/-- A roster call keeps the roster sound. -/
theorem RosterCall.serve_sound (world : World) (call : RosterCall) {db : Database F}
    (h : RosterSound db.participants.rows) :
    RosterSound (call.serve lower world db).2.participants.rows := by
  rcases RosterCall.serve_edits lower world call db with hsame | ⟨participants, heq, hedit⟩
  · rw [hsame]
    exact h
  · rw [heq]
    exact hedit.sound h

/-- Every roster that is reached from an empty one is sound. -/
theorem rosterSound_runRoster (calls : List (World × RosterCall)) {db : Database F}
    (h : RosterSound db.participants.rows) :
    RosterSound (runRoster lower db calls).participants.rows := by
  induction calls generalizing db with
  | nil => exact h
  | cons call calls ih => exact ih (call.2.serve_sound call.1 h)

/-- The index that `create_ocr_participant_matches` builds for a photo of an event. -/
def Database.bibIndex (db : Database F) (eventId : Uuid) : Table (Text × Participant) Prod.fst :=
  participantsByBib Face.normalizeMatchToken (db.participantsOf eventId)

/-- Bibs are owned: the participants of the event have different keys in the index, each is found
under its `bib_lookup`, and a token is resolved only to the owner of that bib. -/
structure Database.BibsOwned (db : Database F) (eventId : Uuid) : Prop where
  distinct : ∀ p ∈ db.participantsOf eventId, ∀ q ∈ db.participantsOf eventId,
    Face.normalizeMatchToken p.bibNumber = Face.normalizeMatchToken q.bibNumber → p = q
  indexed : ∀ p ∈ db.participantsOf eventId,
    (db.bibIndex eventId).get? p.bibLookup = some (p.bibLookup, p)
  resolved : ∀ token entry, (db.bibIndex eventId).get? token = some entry →
    entry.2 ∈ db.participantsOf eventId ∧ entry.2.bibLookup = token ∧
      ∀ q ∈ db.participantsOf eventId, q.bibLookup = token → q = entry.2

/-- Bibs of a sound roster are owned exactly when every match token is the lookup key. -/
theorem bibsOwned_iff_tokens {db : Database F} (h : RosterSound db.participants.rows)
    (eventId : Uuid) :
    db.BibsOwned eventId ↔
      ∀ p ∈ db.participantsOf eventId, Face.normalizeMatchToken p.bibNumber = p.bibLookup := by
  have hunique : ∀ p ∈ db.participantsOf eventId, ∀ q ∈ db.participantsOf eventId,
      p.bibLookup = q.bibLookup → p = q := by
    intro p hp q hq hlookup
    rw [Database.mem_participantsOf] at hp hq
    exact h.unique p hp.1 q hq.1 (hp.2.trans hq.2.symm) hlookup
  constructor
  · intro howned p hp
    exact (of_get?_participantsByBib (howned.indexed p hp)).2.2
  · intro htokens
    refine ⟨?_, ?_, ?_⟩
    · intro p hp q hq heq
      rw [htokens p hp, htokens q hq] at heq
      exact hunique p hp q hq heq
    · intro p hp
      have hne := h.nonempty p (Database.mem_participantsOf.mp hp).1
      refine get?_participantsByBib_of_unique hp hne (htokens p hp) fun q hq heq => ?_
      rw [htokens q hq] at heq
      exact hunique q hq p hp heq
    · intro token entry hentry
      obtain ⟨-, hmem, hkey⟩ := of_get?_participantsByBib hentry
      rw [htokens entry.2 hmem] at hkey
      refine ⟨hmem, hkey, fun q hq hq' => ?_⟩
      exact hunique q hq entry.2 hmem (hq'.trans hkey.symm)

/-- In every roster reached by the roster functions, the bibs of an event are owned exactly when
none of them has a lossy code point. -/
theorem bibsOwned_iff_not_isLossy (lower : Text → Text) (db : Database F)
    (calls : List (World × RosterCall)) (eventId : Uuid) :
    let reached := runRoster lower (db.setParticipants .empty) calls
    reached.BibsOwned eventId ↔
      ∀ p ∈ reached.participantsOf eventId, ∀ c ∈ p.bibNumber, isLossy c = false := by
  intro reached
  have hsound : RosterSound reached.participants.rows :=
    rosterSound_runRoster calls rosterSound_nil
  rw [bibsOwned_iff_tokens hsound]
  refine forall₂_congr fun p hp => ?_
  have hmem := (Database.mem_participantsOf.mp hp).1
  rw [hsound.lookup p hmem]
  exact normalizeMatchToken_eq_lookup_iff (hsound.length p hmem)

/-- The roster of one event after its participants with the bibs `1` and `1ß` are added. -/
def sharpBibRoster : Database ℚ :=
  runRoster id (Database.empty.setParticipants .empty)
    [(World.still 0 fun _ => 1, .add 7 ['1'] ['A', 'd', 'a']),
      (World.still 0 fun _ => 2, .add 7 ['1', 'ß'] ['B', 'o', 'b'])]

/-- The bib `1ß` takes the key of the bib `1`: the token `1` is resolved to the wrong
participant. -/
theorem sharpBib_takes_key :
    (sharpBibRoster.participantsOf 7).map (fun p => (p.id, p.bibLookup)) =
        [(1, ['1']), (2, ['1', 'S', 'S'])] ∧
      ((sharpBibRoster.bibIndex 7).get? ['1']).map (fun entry => entry.2.id) = some 2 ∧
      ¬ sharpBibRoster.BibsOwned 7 := by
  have hindex : ((sharpBibRoster.bibIndex 7).get? ['1']).map
      (fun entry => (entry.2.id, entry.2.bibLookup)) = some (2, ['1', 'S', 'S']) := by
    decide +kernel
  refine ⟨by decide +kernel, by decide +kernel, fun howned => ?_⟩
  obtain ⟨entry, hentry, hpair⟩ := Option.map_eq_some_iff.mp hindex
  have hkey : entry.2.bibLookup = ['1', 'S', 'S'] := congrArg Prod.snd hpair
  have howner := (howned.resolved _ entry hentry).2.1
  rw [hkey] at howner
  cases howner

end RaceFrame
