import Mathlib.Data.List.Perm.Subperm
import RaceFrame.Roster.Ownership

/-!
# Importing a roster

`upsert_participants` keeps the acceptable rows of a file, looks the participants
that they name up in one query, and writes the last row of each canonical bib.
The roster it leaves is the fold of the acceptable rows, each overwriting what is
listed under its bib, and importing the file again changes nothing.
-/

namespace RaceFrame

open Core

variable {F : Type} {lower : Text → Text}

/-! ## Rosters -/

/-- The rosters that the roster functions leave: every row is made by one of them, fits its columns
and has its two keys for itself. -/
structure RosterMade (lower : Text → Text) (rows : List Participant) : Prop where
  made : ∀ p ∈ rows, p.IsMade lower
  fits : ∀ p ∈ rows, p.fits = true
  unique : participantsUnique rows = true

theorem rosterMade_nil : RosterMade lower [] where
  made _ hp := absurd hp List.not_mem_nil
  fits _ hp := absurd hp List.not_mem_nil
  unique := rfl

/-- An edit keeps a roster made. -/
theorem RosterEdit.rosterMade {old new : List Participant} (h : RosterEdit lower old new)
    (hold : RosterMade lower old) : RosterMade lower new where
  made p hp := (h.made p hp).elim (hold.made p) id
  fits := h.fits
  unique := h.unique

/-- Every roster that is reached from an empty one is made. -/
theorem rosterMade_runRoster (calls : List (World × RosterCall)) {db : Database F}
    (h : RosterMade lower db.participants.rows) :
    RosterMade lower (runRoster lower db calls).participants.rows := by
  induction calls generalizing db with
  | nil => exact h
  | cons call calls ih =>
    have hserved : RosterMade lower (call.2.serve lower call.1 db).2.participants.rows := by
      rcases RosterCall.serve_edits lower call.1 call.2 db with hsame | ⟨participants, heq, hedit⟩
      · rw [hsame]
        exact h
      · rw [heq]
        exact hedit.rosterMade h
    exact ih hserved

/-- A made row is the row of its texts. -/
theorem Participant.IsMade.eq_row {p : Participant} (h : p.IsMade lower) :
    p = participantRow lower p.id p.eventId p.bibNumber p.fullName := by
  obtain ⟨id, eventId, bibNumber, fullName, -, rfl⟩ := h
  rfl

/-- Bibs with different keys are different bibs. -/
theorem rosterMade_of_lookups {rows : List Participant} (hmade : ∀ p ∈ rows, p.IsMade lower)
    (hfits : ∀ p ∈ rows, p.fits = true)
    (hlookups : (rows.map fun p => (p.eventId, p.bibLookup)).Nodup) : RosterMade lower rows where
  made := hmade
  fits := hfits
  unique := by
    have hkeys : (rows.map fun p => (p.eventId, p.bibLookup)) =
        (rows.map fun p => (p.eventId, p.bibNumber)).map fun key =>
          (key.1, normalizeBibLookup key.2) := by
      rw [List.map_map]
      refine List.map_congr_left fun p hp => ?_
      exact congrArg (Prod.mk p.eventId) (congrArg Participant.bibLookup (hmade p hp).eq_row)
    rw [participantsUnique, Bool.and_eq_true, decide_eq_true_eq, decide_eq_true_eq]
    refine ⟨List.Nodup.of_map (fun key => (key.1, normalizeBibLookup key.2)) ?_, hlookups⟩
    rw [← hkeys]
    exact hlookups

theorem RosterMade.lookups {rows : List Participant} (h : RosterMade lower rows) :
    (rows.map fun p => (p.eventId, p.bibLookup)).Nodup := by
  have hunique := h.unique
  rw [participantsUnique, Bool.and_eq_true, decide_eq_true_eq, decide_eq_true_eq] at hunique
  exact hunique.2

/-- The participant that an event lists under a key. -/
def listing (rows : List Participant) (eventId : Uuid) (key : Text) : Option Participant :=
  rows.find? fun p => p.eventId == eventId && p.bibLookup == key

theorem of_listing_eq_some {rows : List Participant} {eventId : Uuid} {key : Text}
    {p : Participant} (h : listing rows eventId key = some p) :
    p ∈ rows ∧ p.eventId = eventId ∧ p.bibLookup = key := by
  have hselected := List.find?_some h
  simp only [Bool.and_eq_true, beq_iff_eq] at hselected
  exact ⟨List.mem_of_find?_eq_some h, hselected⟩

theorem listing_eq_some_iff {rows : List Participant} (h : RosterMade lower rows) {eventId : Uuid}
    {key : Text} {p : Participant} :
    listing rows eventId key = some p ↔ p ∈ rows ∧ p.eventId = eventId ∧ p.bibLookup = key := by
  refine ⟨of_listing_eq_some, fun ⟨hp, hevent, hkey⟩ => ?_⟩
  cases hfound : listing rows eventId key with
  | none =>
    have hnot := List.find?_eq_none.mp hfound p hp
    simp [hevent, hkey] at hnot
  | some q =>
    obtain ⟨hq, hevent', hkey'⟩ := of_listing_eq_some hfound
    have hsame : q = p := List.inj_on_of_nodup_map h.lookups hq hp
      (Prod.ext (hevent'.trans hevent.symm) (hkey'.trans hkey.symm))
    rw [hsame]

/-! ## One row -/

/-- The row of a file as it is stored. -/
def CleanedRow.toParticipant (lower : Text → Text) (row : CleanedRow) (id eventId : Uuid) :
    Participant :=
  participantRow lower id eventId row.bibNumber row.fullName

theorem CleanedRow.toParticipant_made (row : CleanedRow) (id eventId : Uuid) :
    (row.toParticipant lower id eventId).IsMade lower :=
  ⟨id, eventId, row.bibNumber, row.fullName, row.lookup_ne, rfl⟩

theorem CleanedRow.toParticipant_fits (row : CleanedRow) (id eventId : Uuid) :
    (row.toParticipant lower id eventId).fits = true := by
  have hlookup : (normalizeBibLookup row.bibNumber).length ≤ 64 := by
    rw [normalizeBibLookup, List.length_take]
    exact Nat.min_le_left 64 _
  have hname : (normalizeNameLookup lower row.fullName).length ≤ 255 := by
    rw [normalizeNameLookup, List.length_take]
    exact Nat.min_le_left 255 _
  simp [Participant.fits, toParticipant, participantRow, row.bib_length, row.name_length, hlookup,
    hname]

/-- What rows with different bibs do to a roster: each is listed under its bib, under the
identifier that was there if there was one, and nothing else changes. -/
structure Imported (lower : Text → Text) (eventId : Uuid) (rows : List CleanedRow)
    (old new : List Participant) : Prop where
  roster : RosterMade lower new
  listed : ∀ row ∈ rows, ∃ id,
    listing new eventId row.bibLookup = some (row.toParticipant lower id eventId) ∧
      ∀ p, listing old eventId row.bibLookup = some p → p.id = id
  others : ∀ key, key ∉ rows.map CleanedRow.bibLookup →
    listing new eventId key = listing old eventId key
  events : ∀ p, p.eventId ≠ eventId → (p ∈ new ↔ p ∈ old)

theorem Imported.nil {eventId : Uuid} {old : List Participant} (h : RosterMade lower old) :
    Imported lower eventId [] old old where
  roster := h
  listed _ hrow := absurd hrow List.not_mem_nil
  others _ _ := rfl
  events _ _ := Iff.rfl

theorem Imported.cons {eventId : Uuid} {row : CleanedRow} {rows : List CleanedRow}
    {old mid new : List Participant} (h : Imported lower eventId [row] old mid)
    (hrest : Imported lower eventId rows mid new)
    (hdistinct : row.bibLookup ∉ rows.map CleanedRow.bibLookup) :
    Imported lower eventId (row :: rows) old new where
  roster := hrest.roster
  listed r hr := by
    rcases List.mem_cons.mp hr with rfl | hr
    · rw [hrest.others _ hdistinct]
      exact h.listed r List.mem_cons_self
    · have hother : r.bibLookup ∉ [row].map CleanedRow.bibLookup := by
        rw [List.map_singleton, List.mem_singleton]
        exact fun heq => hdistinct (heq ▸ List.mem_map_of_mem hr)
      rw [← h.others _ hother]
      exact hrest.listed r hr
  others key hkey := by
    rw [List.map_cons, List.mem_cons, not_or] at hkey
    rw [hrest.others key hkey.2, h.others key (by simpa using hkey.1)]
  events p hp := (hrest.events p hp).trans (h.events p hp)

/-- A new bib. -/
theorem Imported.insert {eventId id : Uuid} {row : CleanedRow} {old : List Participant}
    (h : RosterMade lower old) (hnew : listing old eventId row.bibLookup = none) :
    Imported lower eventId [row] old (old ++ [row.toParticipant lower id eventId]) := by
  have hkey : (row.toParticipant lower id eventId).bibLookup = row.bibLookup := rfl
  have hfound : ∀ key, listing (old ++ [row.toParticipant lower id eventId]) eventId key =
      (listing old eventId key).or
        (if row.bibLookup = key then some (row.toParticipant lower id eventId) else none) := by
    intro key
    have hselected : ((row.toParticipant lower id eventId).eventId == eventId &&
        (row.toParticipant lower id eventId).bibLookup == key) = decide (row.bibLookup = key) := by
      rw [Bool.eq_iff_iff, hkey]
      simp [CleanedRow.toParticipant, participantRow]
    rw [listing, List.find?_append, List.find?_singleton, hselected]
    by_cases heq : row.bibLookup = key
    · simp [heq, listing]
    · simp [heq, listing]
  have hroster : RosterMade lower (old ++ [row.toParticipant lower id eventId]) := by
    refine rosterMade_of_lookups (fun p hp => ?_) (fun p hp => ?_) ?_
    · rcases List.mem_append.mp hp with hp | hp
      · exact h.made p hp
      · rw [List.mem_singleton.mp hp]
        exact row.toParticipant_made id eventId
    · rcases List.mem_append.mp hp with hp | hp
      · exact h.fits p hp
      · rw [List.mem_singleton.mp hp]
        exact row.toParticipant_fits id eventId
    · rw [List.map_append, List.map_singleton, List.nodup_append]
      refine ⟨h.lookups, List.nodup_singleton _, fun a ha b hb heq => ?_⟩
      obtain ⟨p, hp, rfl⟩ := List.mem_map.mp ha
      rw [List.mem_singleton.mp hb] at heq
      have hlisted : listing old eventId row.bibLookup = some p :=
        (listing_eq_some_iff h).mpr ⟨hp, congrArg Prod.fst heq, congrArg Prod.snd heq⟩
      rw [hnew] at hlisted
      cases hlisted
  refine ⟨hroster, fun r hr => ?_, fun key hother => ?_, fun p hp => ?_⟩
  · rw [List.mem_singleton.mp hr]
    refine ⟨id, ?_, fun p hp => ?_⟩
    · rw [hfound, hnew, if_pos rfl, Option.none_or]
    · rw [hnew] at hp
      cases hp
  · rw [List.map_singleton, List.mem_singleton] at hother
    rw [hfound, if_neg (Ne.symm hother), Option.or_none]
  · rw [List.mem_append, List.mem_singleton]
    refine ⟨fun hmem => hmem.resolve_right fun heq => hp ?_, Or.inl⟩
    rw [heq]
    rfl

/-- A bib that is listed. -/
theorem Imported.put {eventId : Uuid} {row : CleanedRow} {p : Participant}
    {table : Table Participant Participant.id} (h : RosterMade lower table.rows)
    (hlisted : listing table.rows eventId row.bibLookup = some p) :
    Imported lower eventId [row] table.rows
      (table.put (row.toParticipant lower p.id eventId)).rows := by
  obtain ⟨hp, hevent, hlookup⟩ := of_listing_eq_some hlisted
  have hmem : ∀ q, q ∈ (table.put (row.toParticipant lower p.id eventId)).rows ↔
      q = row.toParticipant lower p.id eventId ∨ q ∈ table.rows ∧ q ≠ p := by
    intro q
    rw [Table.mem_put]
    refine or_congr (and_iff_left ⟨p, hp, rfl⟩) (and_congr_right fun hq => not_congr ?_)
    exact ⟨fun hid => Table.eq_of_key_eq hq hp hid, fun heq => heq ▸ rfl⟩
  have hroster : RosterMade lower (table.put (row.toParticipant lower p.id eventId)).rows := by
    refine rosterMade_of_lookups (fun q hq => ?_) (fun q hq => ?_) ?_
    · rcases (hmem q).mp hq with rfl | ⟨hq, -⟩
      · exact row.toParticipant_made p.id eventId
      · exact h.made q hq
    · rcases (hmem q).mp hq with rfl | ⟨hq, -⟩
      · exact row.toParticipant_fits p.id eventId
      · exact h.fits q hq
    · have hkeys : (table.put (row.toParticipant lower p.id eventId)).rows.map
          (fun q => (q.eventId, q.bibLookup)) =
            table.rows.map fun q => (q.eventId, q.bibLookup) := by
        rw [Table.put, List.map_map]
        refine List.map_congr_left fun q hq => ?_
        by_cases hid : q.id = (row.toParticipant lower p.id eventId).id
        · have hqp : q = p := Table.eq_of_key_eq hq hp hid
          rw [Function.comp_apply, if_pos hid, hqp, hevent, hlookup]
          rfl
        · rw [Function.comp_apply, if_neg hid]
      rw [hkeys]
      exact h.lookups
  refine ⟨hroster, fun r hr => ?_, fun key hother => Option.ext fun q => ?_, fun q hq => ?_⟩
  · rw [List.mem_singleton.mp hr]
    refine ⟨p.id, (listing_eq_some_iff hroster).mpr ⟨(hmem _).mpr (Or.inl rfl), rfl, rfl⟩, ?_⟩
    intro q hq
    rw [hlisted] at hq
    rw [← Option.some.inj hq]
  · rw [List.map_singleton, List.mem_singleton] at hother
    rw [listing_eq_some_iff hroster, listing_eq_some_iff h, hmem]
    constructor
    · rintro ⟨rfl | ⟨hq, -⟩, hqevent, hqkey⟩
      · exact absurd hqkey.symm hother
      · exact ⟨hq, hqevent, hqkey⟩
    · rintro ⟨hq, hqevent, hqkey⟩
      refine ⟨Or.inr ⟨hq, fun heq => hother ?_⟩, hqevent, hqkey⟩
      rw [← hqkey, heq, hlookup]
  · rw [hmem]
    constructor
    · rintro (rfl | ⟨hin, -⟩)
      · exact absurd rfl hq
      · exact hin
    · intro hin
      exact Or.inr ⟨hin, fun heq => hq (heq ▸ hevent)⟩

/-! ## The loop over the rows -/

/-- The values that a world draws are different, and no participant has one of them. -/
def World.DrawsFresh (world : World) (participants : List Participant) : Prop :=
  Function.Injective world.uuids ∧ ∀ n, ∀ p ∈ participants, p.id ≠ world.uuids n

/-- The first value may be given to a participant, and the other values are fresh again. -/
theorem World.DrawsFresh.draw {world : World} {participants : List Participant}
    (h : world.DrawsFresh participants) {p : Participant} (hp : p.id = world.uuids 0) :
    (world.draw 1).DrawsFresh (participants ++ [p]) := by
  refine ⟨fun m n heq => Nat.add_left_cancel (h.1 heq), fun n q hq => ?_⟩
  rcases List.mem_append.mp hq with hq | hq
  · exact h.2 (1 + n) q hq
  · rw [List.mem_singleton.mp hq, hp]
    intro heq
    have hzero : 0 = 1 + n := h.1 heq
    omega

/-- Identifiers that are kept leave a world as fresh as it was. -/
theorem World.DrawsFresh.put {world : World} {table : Table Participant Participant.id}
    (h : world.DrawsFresh table.rows) {p : Participant} :
    world.DrawsFresh (table.put p).rows := by
  refine ⟨h.1, fun n q hq => ?_⟩
  rcases Table.mem_put.mp hq with ⟨rfl, x, hx, hid⟩ | ⟨hq, -⟩
  · rw [← hid]
    exact h.2 n x hx
  · exact h.2 n q hq

/-- A participant with an identifier of its own is added. -/
private theorem run_addParticipantRow {p : Participant} {s : Session F}
    (hp : p.id ∉ s.current.participants.rows.map Participant.id) :
    ∃ table : Table Participant Participant.id,
      table.rows = s.current.participants.rows ++ [p] ∧
        (addParticipantRow p : Request F Unit).run s =
          (.ok (), s.assign fun db => db.setParticipants table) := by
  cases hinsert : s.current.participants.insert? p with
  | none =>
    rw [Table.insert?, dif_neg hp] at hinsert
    cases hinsert
  | some table =>
    refine ⟨table, Table.rows_of_insert? hinsert, ?_⟩
    rw [addParticipantRow, Request.run_loaded_bind, hinsert]
    rfl

/-- One turn of the loop imports its row. -/
theorem run_upsertParticipantRow {eventId : Uuid} {row : CleanedRow} {s : Session F}
    {existing : Table Participant Participant.bibLookup} (counts : Nat × Nat)
    (hroster : RosterMade lower s.current.participants.rows)
    (hfresh : s.world.DrawsFresh s.current.participants.rows)
    (hexisting : existing.get? row.bibLookup =
      listing s.current.participants.rows eventId row.bibLookup) :
    ∃ counts' t participants,
      (upsertParticipantRow lower eventId existing counts row).run s = (.ok counts', t) ∧
        t.committed = s.committed ∧ t.current = s.current.setParticipants participants ∧
        Imported lower eventId [row] s.current.participants.rows participants.rows ∧
        t.world.DrawsFresh participants.rows ∧
        counts'.1 + counts'.2 ≤ counts.1 + counts.2 + 1 := by
  rw [upsertParticipantRow, hexisting]
  cases hlisted : listing s.current.participants.rows eventId row.bibLookup with
  | none =>
    let p := row.toParticipant lower (s.world.uuids 0) eventId
    have hid : p.id ∉ (s.draw 1).current.participants.rows.map Participant.id := by
      intro hmem
      obtain ⟨q, hq, heq⟩ := List.mem_map.mp hmem
      exact hfresh.2 0 q hq heq
    obtain ⟨table, htable, hrun⟩ := run_addParticipantRow hid
    refine ⟨(counts.1 + 1, counts.2), (s.draw 1).assign fun db => db.setParticipants table, table,
      ?_, rfl, rfl, ?_, ?_, by dsimp only; omega⟩
    · exact Program.run_bind_ok hrun
    · rw [htable]
      exact Imported.insert hroster hlisted
    · rw [htable]
      exact hfresh.draw rfl
  | some p =>
    obtain ⟨hp, hevent, -⟩ := of_listing_eq_some hlisted
    dsimp only
    split
    · refine ⟨(counts.1, counts.2 + 1), s.assign fun db => db.setParticipants
        (db.participants.put (row.toParticipant lower p.id eventId)), _, ?_, rfl, rfl,
        Imported.put hroster hlisted, hfresh.put, by dsimp only; omega⟩
      rw [hevent]
      rfl
    · rename_i hsame
      have hput := Imported.put hroster hlisted
      have hrow : row.toParticipant lower p.id eventId = p := by
        rw [not_or, not_not, not_not] at hsame
        rw [CleanedRow.toParticipant, ← hsame.1, ← hsame.2, ← hevent]
        exact (hroster.made p hp).eq_row.symm
      rw [hrow, Table.put_of_mem hp] at hput
      exact ⟨counts, s, s.current.participants, rfl, rfl, rfl, hput, hfresh, by omega⟩

/-- The loop imports its rows, if the lookup before it has found what is listed under each. -/
theorem run_upsertParticipantRows {eventId : Uuid} {rows : List CleanedRow}
    (hdistinct : (rows.map CleanedRow.bibLookup).Nodup)
    {existing : Table Participant Participant.bibLookup} {s : Session F} (counts : Nat × Nat)
    (hroster : RosterMade lower s.current.participants.rows)
    (hfresh : s.world.DrawsFresh s.current.participants.rows)
    (hexisting : ∀ row ∈ rows, existing.get? row.bibLookup =
      listing s.current.participants.rows eventId row.bibLookup) :
    ∃ counts' t participants,
      (rows.foldlM (upsertParticipantRow lower eventId existing) counts).run s =
          (.ok counts', t) ∧
        t.committed = s.committed ∧ t.current = s.current.setParticipants participants ∧
        Imported lower eventId rows s.current.participants.rows participants.rows ∧
        counts'.1 + counts'.2 ≤ counts.1 + counts.2 + rows.length := by
  induction rows generalizing counts s with
  | nil =>
    exact ⟨counts, s, s.current.participants, rfl, rfl, rfl, Imported.nil hroster, le_refl _⟩
  | cons row rows ih =>
    rw [List.map_cons, List.nodup_cons] at hdistinct
    obtain ⟨counts₁, t₁, table₁, hrun₁, hcommitted₁, hcurrent₁, himported₁, hfresh₁, hcounts₁⟩ :=
      run_upsertParticipantRow counts hroster hfresh (hexisting row List.mem_cons_self)
    have hrows : t₁.current.participants.rows = table₁.rows := by
      rw [hcurrent₁]
      rfl
    have hexisting₁ : ∀ r ∈ rows, existing.get? r.bibLookup =
        listing t₁.current.participants.rows eventId r.bibLookup := by
      intro r hr
      have hother : r.bibLookup ∉ [row].map CleanedRow.bibLookup := by
        rw [List.map_singleton, List.mem_singleton]
        exact fun heq => hdistinct.1 (heq ▸ List.mem_map_of_mem hr)
      rw [hexisting r (List.mem_cons_of_mem row hr), hrows, himported₁.others _ hother]
    rw [← hrows] at hfresh₁ himported₁
    obtain ⟨counts₂, t₂, table₂, hrun₂, hcommitted₂, hcurrent₂, himported₂, hcounts₂⟩ :=
      ih hdistinct.2 counts₁ himported₁.roster hfresh₁ hexisting₁
    refine ⟨counts₂, t₂, table₂, ?_, hcommitted₂.trans hcommitted₁, ?_,
      himported₁.cons himported₂ hdistinct.1, ?_⟩
    · rw [List.foldlM_cons, Program.run_bind_ok hrun₁, hrun₂]
    · rw [hcurrent₂, hcurrent₁]
      rfl
    · rw [List.length_cons]
      omega

/-- Rows that are listed already change nothing. -/
theorem run_upsertParticipantRows_listed {eventId : Uuid} {rows : List CleanedRow}
    {existing : Table Participant Participant.bibLookup} (s : Session F) (counts : Nat × Nat)
    (hlisted : ∀ row ∈ rows, ∃ id,
      existing.get? row.bibLookup = some (row.toParticipant lower id eventId)) :
    (rows.foldlM (upsertParticipantRow lower eventId existing) counts).run s =
      (.ok counts, s) := by
  induction rows with
  | nil => rfl
  | cons row rows ih =>
    obtain ⟨id, hid⟩ := hlisted row List.mem_cons_self
    have hrow : upsertParticipantRow lower eventId existing counts row =
        (pure counts : Request F (Nat × Nat)) := by
      rw [upsertParticipantRow, hid]
      exact if_neg fun h => h.elim (fun hne => hne rfl) fun hne => hne rfl
    rw [List.foldlM_cons, hrow, Program.run_pure_bind]
    exact ih fun r hr => hlisted r (List.mem_cons_of_mem row hr)

/-! ## The rows that win -/

/-- A bib is among the deduplicated rows with the last row that has it. -/
theorem get?_dedupedByBib (rows : List CleanedRow) (key : Text) :
    (dedupedByBib rows).get? key = (rows.filter fun row => row.bibLookup = key).getLast? := by
  rw [dedupedByBib, Table.get?_foldl_upsert fun _ _ h => h.symm, foldl_mergeInto_replace,
    Table.get?_empty, Option.or_none]

/-- The lookup of the participants finds what is listed under the key of each row. -/
theorem get?_existingByBib {db : Database F} (h : RosterMade lower db.participants.rows)
    {eventId : Uuid} {rows : List CleanedRow} {row : CleanedRow} (hrow : row ∈ rows) :
    (db.existingByBib eventId rows).get? row.bibLookup =
      listing db.participants.rows eventId row.bibLookup := by
  rw [Database.existingByBib, Table.get?_foldl_upsert fun _ _ h => h.symm,
    foldl_mergeInto_replace, Table.get?_empty, Option.or_none, List.filter_filter]
  have hselected : ∀ p : Participant, (decide (p.bibLookup = row.bibLookup) &&
      (p.eventId == eventId && (rows.map CleanedRow.bibLookup).contains p.bibLookup)) =
        (p.eventId == eventId && p.bibLookup == row.bibLookup) := by
    intro p
    rw [Bool.eq_iff_iff]
    simp only [Bool.and_eq_true, decide_eq_true_eq, beq_iff_eq, List.contains_iff_mem]
    constructor
    · exact fun ⟨hkey, hevent, _⟩ => ⟨hevent, hkey⟩
    · exact fun ⟨hevent, hkey⟩ => ⟨hkey, hevent, hkey ▸ List.mem_map_of_mem hrow⟩
  rw [List.filter_congr fun p _ => hselected p]
  cases hlisted : listing db.participants.rows eventId row.bibLookup with
  | none =>
    rw [listing, ← List.head?_filter, List.head?_eq_none_iff] at hlisted
    rw [hlisted]
    rfl
  | some p =>
    cases hlast : (db.participants.rows.filter fun p =>
        p.eventId == eventId && p.bibLookup == row.bibLookup).getLast? with
    | none =>
      rw [listing, ← List.head?_filter, List.getLast?_eq_none_iff.mp hlast] at hlisted
      cases hlisted
    | some q =>
      have hq := List.mem_filter.mp (List.mem_of_getLast? hlast)
      simp only [Bool.and_eq_true, beq_iff_eq] at hq
      rw [← hlisted]
      exact ((listing_eq_some_iff h).mpr hq).symm

/-! ## The fold over the file -/

/-- The bib number of a row, trimmed. -/
def ImportRow.bib (row : ImportRow) : Text := strip (row.bibNumber.getD [])

/-- The full name of a row, trimmed. -/
def ImportRow.name (row : ImportRow) : Text := strip (row.fullName.getD [])

/-- A row that can be imported: its texts are there and fit, and the bib has a canonical form. -/
def ImportRow.Acceptable (row : ImportRow) : Prop :=
  row.bib ≠ [] ∧ row.name ≠ [] ∧ row.bib.length ≤ 64 ∧ row.name.length ≤ 255 ∧
    normalizeBibLookup row.bib ≠ []

instance (row : ImportRow) : Decidable row.Acceptable :=
  inferInstanceAs (Decidable (_ ∧ _ ∧ _ ∧ _ ∧ _))

/-- The texts that an event lists under a key. -/
def listedTexts (rows : List Participant) (eventId : Uuid) (key : Text) : Option (Text × Text) :=
  (listing rows eventId key).map fun p => (p.bibNumber, p.fullName)

/-- Overwrite what is listed under the canonical bib of a row, if the row is acceptable. -/
def overwriteListed (listed : Text → Option (Text × Text)) (row : ImportRow) :
    Text → Option (Text × Text) :=
  if row.Acceptable then
    Function.update listed (normalizeBibLookup row.bib) (some (row.bib, row.name))
  else listed

/-- A file is imported: the acceptable rows are folded into what the event lists, its participants
keep their identifiers, and nothing else changes. -/
structure LastRowWins (lower : Text → Text) (eventId : Uuid) (rows : List ImportRow)
    (old new : List Participant) : Prop where
  roster : RosterMade lower new
  listed : listedTexts new eventId = rows.foldl overwriteListed (listedTexts old eventId)
  kept : ∀ key p, listing old eventId key = some p →
    ∃ p', listing new eventId key = some p' ∧ p'.id = p.id
  unnamed : ∀ key, (∀ row ∈ rows, row.Acceptable → normalizeBibLookup row.bib ≠ key) →
    listing new eventId key = listing old eventId key
  events : ∀ p, p.eventId ≠ eventId → (p ∈ new ↔ p ∈ old)

/-- The rows that are not skipped are the acceptable ones. -/
theorem cleanedRow_eq_some_iff {row : ImportRow} {cleaned : CleanedRow} :
    cleanedRow row = some cleaned ↔
      row.Acceptable ∧ cleaned.bibNumber = row.bib ∧ cleaned.fullName = row.name := by
  unfold cleanedRow ImportRow.Acceptable
  simp only [Bool.or_eq_true, List.isEmpty_iff]
  constructor
  · intro h
    split at h
    · cases h
    · rename_i hempty
      split at h
      · cases h
      · rename_i hlength
        split at h
        · cases h
        · rename_i hlookup
          rw [not_or] at hempty hlength
          cases h
          exact ⟨⟨hempty.1, hempty.2, not_lt.mp hlength.1, not_lt.mp hlength.2, hlookup⟩, rfl, rfl⟩
  · rintro ⟨⟨hbib, hname, hbibLength, hnameLength, hlookup⟩, hcleanedBib, hcleanedName⟩
    have hempty := not_or.mpr ⟨hbib, hname⟩
    have hlength := not_or.mpr ⟨not_lt.mpr hbibLength, not_lt.mpr hnameLength⟩
    simp only [ImportRow.bib, ImportRow.name] at hempty hlength hlookup hcleanedBib hcleanedName
    rw [if_neg hempty, dif_neg hlength, dif_neg hlookup]
    cases cleaned
    cases hcleanedBib
    cases hcleanedName
    rfl

theorem cleanedRow_eq_none_iff {row : ImportRow} : cleanedRow row = none ↔ ¬row.Acceptable := by
  constructor
  · intro hnone hrow
    have hsome : cleanedRow row =
        some ⟨row.bib, row.name, hrow.2.2.1, hrow.2.2.2.1, hrow.2.2.2.2⟩ :=
      cleanedRow_eq_some_iff.mpr ⟨hrow, rfl, rfl⟩
    rw [hnone] at hsome
    cases hsome
  · intro hrow
    cases h : cleanedRow row with
    | none => rfl
    | some cleaned => exact absurd (cleanedRow_eq_some_iff.mp h).1 hrow

/-- The fold leaves the last row under each key. -/
theorem foldl_overwriteListed (rows : List ImportRow) (listed : Text → Option (Text × Text))
    (key : Text) :
    rows.foldl overwriteListed listed key =
      ((((rows.filterMap cleanedRow).filter fun row => row.bibLookup = key).getLast?).map
        fun row => (row.bibNumber, row.fullName)).or (listed key) := by
  induction rows generalizing listed with
  | nil => rfl
  | cons row rows ih =>
    rw [List.foldl_cons, ih]
    by_cases hrow : row.Acceptable
    · obtain ⟨cleaned, hcleaned⟩ : ∃ cleaned, cleanedRow row = some cleaned := by
        rw [← Option.ne_none_iff_exists']
        exact fun hnone => cleanedRow_eq_none_iff.mp hnone hrow
      obtain ⟨-, hbib, hname⟩ := cleanedRow_eq_some_iff.mp hcleaned
      rw [List.filterMap_cons_some hcleaned, overwriteListed, if_pos hrow, ← hbib, ← hname,
        ← CleanedRow.bibLookup]
      by_cases hkey : cleaned.bibLookup = key
      · rw [List.filter_cons_of_pos (by simpa using hkey), List.getLast?_cons, ← hkey,
          Function.update_self]
        cases (List.filter _ (rows.filterMap cleanedRow)).getLast? <;> rfl
      · rw [List.filter_cons_of_neg (by simpa using hkey),
          Function.update_of_ne (fun heq : key = cleaned.bibLookup => hkey heq.symm)]
    · rw [List.filterMap_cons_none (cleanedRow_eq_none_iff.mpr hrow), overwriteListed,
        if_neg hrow]

private theorem length_dedupedByBib_le (rows : List CleanedRow) :
    (dedupedByBib rows).rows.length ≤ rows.length := by
  have hsubset : (dedupedByBib rows).rows.map CleanedRow.bibLookup ⊆
      rows.map CleanedRow.bibLookup := by
    intro key hkey
    obtain ⟨row, hrow, rfl⟩ := List.mem_map.mp hkey
    have hget := Table.mem_iff_get?.mp hrow
    rw [get?_dedupedByBib] at hget
    exact List.mem_map_of_mem (List.mem_of_mem_filter (List.mem_of_getLast? hget))
  have hlength := ((dedupedByBib rows).nodup.subperm hsubset).length_le
  rwa [List.length_map, List.length_map] at hlength

private theorem run_commitParticipants {s : Session F}
    (h : RosterMade lower s.current.participants.rows) :
    (commitParticipants : Request F Unit).run s = (.ok (), s.commit) := by
  rw [commitParticipants, Request.run_loaded_bind, if_pos (List.all_eq_true.mpr h.fits),
    if_pos h.unique]
  rfl

/-- The last row of each bib, imported, is the fold of the file. -/
theorem Imported.lastRowWins {eventId : Uuid} {rows : List ImportRow} {old new : List Participant}
    (h : Imported lower eventId (dedupedByBib (rows.filterMap cleanedRow)).rows old new) :
    LastRowWins lower eventId rows old new where
  roster := h.roster
  listed := by
    funext key
    rw [foldl_overwriteListed, ← get?_dedupedByBib]
    cases hget : (dedupedByBib (rows.filterMap cleanedRow)).get? key with
    | none =>
      rw [listedTexts, h.others key (Table.get?_eq_none_iff_map.mp hget)]
      rfl
    | some row =>
      obtain ⟨hrow, rfl⟩ := Table.get?_eq_some_iff.mp hget
      obtain ⟨id, hlisted, -⟩ := h.listed row hrow
      rw [listedTexts, hlisted]
      rfl
  kept key p hp := by
    cases hget : (dedupedByBib (rows.filterMap cleanedRow)).get? key with
    | none =>
      rw [h.others key (Table.get?_eq_none_iff_map.mp hget)]
      exact ⟨p, hp, rfl⟩
    | some row =>
      obtain ⟨hrow, rfl⟩ := Table.get?_eq_some_iff.mp hget
      obtain ⟨id, hlisted, hid⟩ := h.listed row hrow
      exact ⟨_, hlisted, (hid p hp).symm⟩
  unnamed key hkey := by
    refine h.others key fun hmem => ?_
    obtain ⟨cleaned, hcleaned, rfl⟩ := List.mem_map.mp hmem
    have hget := Table.mem_iff_get?.mp hcleaned
    rw [get?_dedupedByBib] at hget
    obtain ⟨row, hrow, heq⟩ :=
      List.mem_filterMap.mp (List.mem_of_mem_filter (List.mem_of_getLast? hget))
    obtain ⟨hacceptable, hbib, -⟩ := cleanedRow_eq_some_iff.mp heq
    refine hkey row hrow hacceptable ?_
    rw [← hbib]
    rfl
  events := h.events

/-- What an import answers after its loop, and what it commits. -/
private theorem serve_upsertParticipants_of_run {world : World} {db : Database F} {eventId : Uuid}
    {rows : List ImportRow} {counts : Nat × Nat} {t : Session F}
    (hrows : rows.filterMap cleanedRow ≠ [])
    (hrun : ((dedupedByBib (rows.filterMap cleanedRow)).rows.foldlM
      (upsertParticipantRow lower eventId (db.existingByBib eventId (rows.filterMap cleanedRow)))
      (0, 0)).run (Session.sessionLocal world db) = (.ok counts, t))
    (hroster : RosterMade lower t.current.participants.rows) :
    Request.serve world (upsertParticipants lower eventId rows) db =
      (.ok ⟨(dedupedByBib (rows.filterMap cleanedRow)).rows.length, counts.1, counts.2,
        (rows.countP fun row => (cleanedRow row).isNone) +
          ((rows.filterMap cleanedRow).length -
            (dedupedByBib (rows.filterMap cleanedRow)).rows.length)⟩, t.current) := by
  rw [Request.serve, upsertParticipants]
  dsimp only
  rw [if_neg (by simpa using hrows), Request.run_query_bind, Session.sessionLocal_flushed,
    Program.run_bind_ok hrun, Program.run_bind_ok (run_commitParticipants hroster),
    Program.run_pure, Session.commit_committed]

/-- The deduplicated rows find what is listed under their keys. -/
private theorem get?_existingByBib_of_deduped {db : Database F}
    (h : RosterMade lower db.participants.rows) (eventId : Uuid) {rows : List CleanedRow}
    {row : CleanedRow} (hrow : row ∈ (dedupedByBib rows).rows) :
    (db.existingByBib eventId rows).get? row.bibLookup =
      listing db.participants.rows eventId row.bibLookup := by
  have hget := Table.mem_iff_get?.mp hrow
  rw [get?_dedupedByBib] at hget
  exact get?_existingByBib h (List.mem_of_mem_filter (List.mem_of_getLast? hget))

/-- After an import an event lists the keys that it has listed before and those of the acceptable
rows. -/
theorem LastRowWins.listed_iff {eventId : Uuid} {rows : List ImportRow} {old new : List Participant}
    (h : LastRowWins lower eventId rows old new) {key : Text} :
    (∃ p ∈ new, p.eventId = eventId ∧ p.bibLookup = key) ↔
      (∃ p ∈ old, p.eventId = eventId ∧ p.bibLookup = key) ∨
        ∃ row ∈ rows, row.Acceptable ∧ normalizeBibLookup row.bib = key := by
  have hlists : ∀ participants : List Participant,
      (∃ p ∈ participants, p.eventId = eventId ∧ p.bibLookup = key) ↔
        (listedTexts participants eventId key).isSome = true := by
    intro participants
    rw [listedTexts, Option.isSome_map, listing, List.find?_isSome]
    simp only [Bool.and_eq_true, beq_iff_eq]
  rw [hlists, hlists, h.listed, foldl_overwriteListed, Option.isSome_or, Option.isSome_map,
    Bool.or_eq_true, or_comm]
  refine or_congr_right ?_
  rw [List.getLast?_isSome, ne_eq, List.filter_eq_nil_iff]
  push Not
  constructor
  · rintro ⟨cleaned, hcleaned, hkey⟩
    obtain ⟨row, hrow, heq⟩ := List.mem_filterMap.mp hcleaned
    obtain ⟨hacceptable, hbib, -⟩ := cleanedRow_eq_some_iff.mp heq
    refine ⟨row, hrow, hacceptable, ?_⟩
    rw [← hbib]
    exact of_decide_eq_true hkey
  · rintro ⟨row, hrow, hacceptable, hkey⟩
    refine ⟨⟨row.bib, row.name, hacceptable.2.2.1, hacceptable.2.2.2.1, hacceptable.2.2.2.2⟩,
      List.mem_filterMap.mpr ⟨row, hrow, cleanedRow_eq_some_iff.mpr ⟨hacceptable, rfl, rfl⟩⟩, ?_⟩
    exact decide_eq_true hkey

/-- An import is served: the rows that win are imported, and every row is counted. -/
theorem serve_upsertParticipants {world : World} {db : Database F}
    (hroster : RosterMade lower db.participants.rows)
    (hfresh : world.DrawsFresh db.participants.rows) (eventId : Uuid) (rows : List ImportRow) :
    ∃ result participants,
      Request.serve world (upsertParticipants lower eventId rows) db =
          (.ok result, db.setParticipants participants) ∧
        Imported lower eventId (dedupedByBib (rows.filterMap cleanedRow)).rows
          db.participants.rows participants.rows ∧
        result.processedRows + result.skippedRows = rows.length ∧
        result.insertedRows + result.updatedRows ≤ result.processedRows := by
  have hlength : (rows.filterMap cleanedRow).length +
      rows.countP (fun row => (cleanedRow row).isNone) = rows.length := by
    rw [List.length_filterMap_eq_countP, List.length_eq_countP_add_countP
      (fun row => (cleanedRow row).isSome)]
    refine congrArg _ (List.countP_congr fun row _ => ?_)
    simp
  have hdeduped := length_dedupedByBib_le (rows.filterMap cleanedRow)
  by_cases hrows : rows.filterMap cleanedRow = []
  · refine ⟨⟨0, 0, 0, rows.countP fun row => (cleanedRow row).isNone⟩, db.participants, ?_, ?_, ?_,
      le_refl 0⟩
    · rw [upsertParticipants, hrows]
      rfl
    · rw [hrows]
      exact Imported.nil hroster
    · rw [hrows] at hlength
      exact hlength
  · obtain ⟨counts, t, participants, hrun, -, hcurrent, himported, hcounts⟩ :=
      run_upsertParticipantRows (s := Session.sessionLocal world db)
        (dedupedByBib (rows.filterMap cleanedRow)).nodup (0, 0) hroster hfresh
        fun row hrow => get?_existingByBib_of_deduped hroster eventId hrow
    have hroster' : RosterMade lower t.current.participants.rows := by
      rw [hcurrent]
      exact himported.roster
    have hserved := serve_upsertParticipants_of_run hrows hrun hroster'
    rw [hcurrent] at hserved
    refine ⟨_, participants, hserved, himported, ?_, ?_⟩
    · dsimp only
      omega
    · dsimp only at hcounts ⊢
      omega

/-- A file whose rows are listed is imported without a change. -/
private theorem serve_upsertParticipants_listed {db : Database F}
    (hroster : RosterMade lower db.participants.rows) {eventId : Uuid} {rows : List ImportRow}
    (hlisted : ∀ row ∈ (dedupedByBib (rows.filterMap cleanedRow)).rows, ∃ id,
      listing db.participants.rows eventId row.bibLookup =
        some (row.toParticipant lower id eventId)) (world : World) :
    ∃ result, Request.serve world (upsertParticipants lower eventId rows) db = (.ok result, db) ∧
      result.insertedRows = 0 ∧ result.updatedRows = 0 := by
  by_cases hrows : rows.filterMap cleanedRow = []
  · refine ⟨⟨0, 0, 0, rows.countP fun row => (cleanedRow row).isNone⟩, ?_, rfl, rfl⟩
    rw [upsertParticipants, hrows]
    rfl
  · have hexisting : ∀ row ∈ (dedupedByBib (rows.filterMap cleanedRow)).rows, ∃ id,
        (db.existingByBib eventId (rows.filterMap cleanedRow)).get? row.bibLookup =
          some (row.toParticipant lower id eventId) := by
      intro row hrow
      obtain ⟨id, hid⟩ := hlisted row hrow
      exact ⟨id, (get?_existingByBib_of_deduped hroster eventId hrow).trans hid⟩
    have hrun := run_upsertParticipantRows_listed (Session.sessionLocal world db) (0, 0) hexisting
    exact ⟨_, serve_upsertParticipants_of_run hrows hrun hroster, rfl, rfl⟩

/-- Importing a file folds its acceptable rows into the roster, the last of each canonical bib
winning; every row is counted once, and importing the file again changes nothing. -/
theorem upsertParticipants_lastRowWins {world : World} {db : Database F}
    (hroster : RosterMade lower db.participants.rows)
    (hfresh : world.DrawsFresh db.participants.rows) (eventId : Uuid) (rows : List ImportRow) :
    ∃ result participants,
      Request.serve world (upsertParticipants lower eventId rows) db =
          (.ok result, db.setParticipants participants) ∧
        LastRowWins lower eventId rows db.participants.rows participants.rows ∧
        result.processedRows + result.skippedRows = rows.length ∧
        result.insertedRows + result.updatedRows ≤ result.processedRows ∧
        ∀ world', ∃ again,
          Request.serve world' (upsertParticipants lower eventId rows)
              (db.setParticipants participants) = (.ok again, db.setParticipants participants) ∧
            again.insertedRows = 0 ∧ again.updatedRows = 0 := by
  obtain ⟨result, participants, hserved, himported, hcounted, hchanged⟩ :=
    serve_upsertParticipants hroster hfresh eventId rows
  refine ⟨result, participants, hserved, himported.lastRowWins, hcounted, hchanged, ?_⟩
  refine serve_upsertParticipants_listed himported.roster fun row hrow => ?_
  obtain ⟨id, hlisted, -⟩ := himported.listed row hrow
  exact ⟨id, hlisted⟩

/-- The roster of one event, with the bib `12`. -/
def oneBibRoster : Database ℚ :=
  Database.empty.setParticipants ⟨[participantRow id 1 7 ['1', '2'] ['A', 'd', 'a']],
    List.nodup_singleton _⟩

/-- A file that names the bib `12` twice, a new bib, and a row without a name. -/
def twiceNamedRows : List ImportRow :=
  [⟨some ['1', '2'], some ['E', 'v', 'e']⟩, ⟨some ['1', '3'], some ['B', 'o', 'b']⟩,
    ⟨some [' ', '1', '-', '2'], some ['I', 'd', 'a']⟩, ⟨some ['1', '4'], none⟩]

/-- The second row of the bib `12` wins and keeps the identifier. -/
theorem twiceNamedRows_imported :
    ∃ participants, (Request.serve (World.still 0 fun n => n + 2)
        (upsertParticipants id 7 twiceNamedRows) oneBibRoster).2 =
          oneBibRoster.setParticipants participants ∧
      LastRowWins id 7 twiceNamedRows oneBibRoster.participants.rows participants.rows ∧
      (listing participants.rows 7 ['1', '2']).map (fun p => (p.id, p.bibNumber, p.fullName)) =
        some (1, ['1', '-', '2'], ['I', 'd', 'a']) := by
  have hroster : RosterMade id oneBibRoster.participants.rows := by
    refine ⟨fun p hp => ?_, by decide +kernel, by decide +kernel⟩
    rw [List.mem_singleton.mp hp]
    exact ⟨1, 7, ['1', '2'], ['A', 'd', 'a'], by decide +kernel, rfl⟩
  have hfresh : (World.still 0 fun n => n + 2).DrawsFresh oneBibRoster.participants.rows := by
    refine ⟨fun m n heq => Nat.add_right_cancel heq, fun n p hp => ?_⟩
    rw [List.mem_singleton.mp hp]
    exact ne_of_lt (Nat.lt_add_left n (by decide))
  obtain ⟨result, participants, hserved, hwins, -⟩ :=
    upsertParticipants_lastRowWins hroster hfresh 7 twiceNamedRows
  refine ⟨participants, by rw [hserved], hwins, ?_⟩
  obtain ⟨p, hp, hid⟩ := hwins.kept ['1', '2'] _ rfl
  have htexts := congrFun hwins.listed ['1', '2']
  rw [listedTexts, hp] at htexts
  have hfold : twiceNamedRows.foldl overwriteListed
      (listedTexts oneBibRoster.participants.rows 7) ['1', '2'] =
        some (['1', '-', '2'], ['I', 'd', 'a']) := by
    decide +kernel
  rw [hfold] at htexts
  rw [hp, Option.map_some, hid]
  have hpair := Option.some.inj htexts
  exact congrArg (fun pair => some (1, pair)) hpair

end RaceFrame
