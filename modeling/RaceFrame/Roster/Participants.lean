import RaceFrame.Core.Upserts
import RaceFrame.Orm.Frame
import RaceFrame.Text.Candidates

/-!
# The roster

The functions of `admin.py` that write participants. A commit that has changed
participants checks the column lengths and the two unique constraints of the
table. `str.lower`, on which only the name key depends, is a parameter.
-/

namespace RaceFrame

open Core

variable {F : Type} (lower : Text → Text)

/-- The row of a participant, with the two lookup keys. -/
def participantRow (id eventId : Uuid) (bibNumber fullName : Text) : Participant where
  id := id
  eventId := eventId
  bibNumber := bibNumber
  fullName := fullName
  bibLookup := normalizeBibLookup bibNumber
  nameLookup := normalizeNameLookup lower fullName

/-- Whether the texts of a participant fit their columns. -/
def Participant.fits (p : Participant) : Bool :=
  decide (p.bibNumber.length ≤ 64) && decide (p.fullName.length ≤ 255) &&
    decide (p.bibLookup.length ≤ 64) && decide (p.nameLookup.length ≤ 255)

/-- `uq_participants_event_bib_number` and `uq_participants_event_bib_lookup`. -/
def participantsUnique (rows : List Participant) : Bool :=
  decide (rows.map fun p => (p.eventId, p.bibNumber)).Nodup &&
    decide (rows.map fun p => (p.eventId, p.bibLookup)).Nodup

/-- Replace the participants. -/
@[simps] def Database.setParticipants (db : Database F)
    (participants : Table Participant Participant.id) : Database F :=
  { db with participants := participants }

/-- `session.commit()` after changes to participants. -/
def commitParticipants : Request F Unit := do
  let rows ← Request.loaded fun db => db.participants.rows
  if rows.all Participant.fits then
    if participantsUnique rows then Request.commit
    else Program.raise .integrityError
  else Program.raise .dataError

/-- `session.add` of a participant. -/
def addParticipantRow (participant : Participant) : Request F Unit := do
  let rows ← Request.ofOption .integrityError
    (← Request.loaded fun db => db.participants.insert? participant)
  Request.assign fun db => db.setParticipants rows

/-- Assign the attributes of a participant. -/
def assignParticipant (participant : Participant) : Request F Unit :=
  Request.assign fun db => db.setParticipants (db.participants.put participant)

/-- `add_participant`. -/
def addParticipant (eventId : Uuid) (bibNumber fullName : Text) : Request F Participant := do
  let normalizedBib := strip bibNumber
  let normalizedName := strip fullName
  let bibLookup := normalizeBibLookup normalizedBib
  if bibLookup.isEmpty || normalizedName.isEmpty then
    Program.raise (.valueError "Bib number and full name are required.")
  else
    let existing ← Request.oneOrNone (← Request.query fun db =>
      db.participants.rows.filter fun p => p.eventId == eventId && p.bibLookup == bibLookup)
    if existing.isSome then
      Program.raise (.valueError "That bib number already exists for this event.")
    else
      let id ← Request.uuid4
      let participant := participantRow lower id eventId normalizedBib normalizedName
      addParticipantRow participant
      commitParticipants
      return participant

/-- `update_participant`. -/
def updateParticipant (participant : Participant) (bibNumber fullName : Text) :
    Request F Participant := do
  let normalizedBib := strip bibNumber
  let normalizedName := strip fullName
  let bibLookup := normalizeBibLookup normalizedBib
  if bibLookup.isEmpty || normalizedName.isEmpty then
    Program.raise (.valueError "Bib number and full name are required.")
  else
    let existing ← Request.oneOrNone (← Request.query fun db =>
      db.participants.rows.filter fun p =>
        p.eventId == participant.eventId && p.bibLookup == bibLookup && p.id != participant.id)
    if existing.isSome then
      Program.raise (.valueError "That bib number already exists for this event.")
    else
      let participant :=
        participantRow lower participant.id participant.eventId normalizedBib normalizedName
      assignParticipant participant
      commitParticipants
      return participant

/-- A row of an upload, with the keys that may be missing. -/
structure ImportRow where
  bibNumber : Option Text
  fullName : Option Text
  deriving DecidableEq

/-- An element of `cleaned_rows`; its lookup keys are computed from the two texts. -/
structure CleanedRow where
  bibNumber : Text
  fullName : Text
  bib_length : bibNumber.length ≤ 64
  name_length : fullName.length ≤ 255
  lookup_ne : normalizeBibLookup bibNumber ≠ []

/-- `row["bib_lookup"]`. -/
def CleanedRow.bibLookup (row : CleanedRow) : Text := normalizeBibLookup row.bibNumber

/-- One turn of the first loop of `upsert_participants`: a row that is not skipped. -/
def cleanedRow (row : ImportRow) : Option CleanedRow :=
  let bibNumber := strip (row.bibNumber.getD [])
  let fullName := strip (row.fullName.getD [])
  if bibNumber.isEmpty || fullName.isEmpty then none
  else if hlength : 64 < bibNumber.length ∨ 255 < fullName.length then none
  else if hlookup : normalizeBibLookup bibNumber = [] then none
  else some ⟨bibNumber, fullName, by omega, by omega, hlookup⟩

/-- `deduped_by_bib`: the last row of a bib, at the place of the first. -/
def dedupedByBib (cleanedRows : List CleanedRow) : Table CleanedRow CleanedRow.bibLookup :=
  cleanedRows.foldl (fun rows row => rows.upsert (fun _ new => new) row) .empty

/-- `existing`: the participants of the event that the upload names, by their keys. -/
def Database.existingByBib (db : Database F) (eventId : Uuid) (cleanedRows : List CleanedRow) :
    Table Participant Participant.bibLookup :=
  (db.participants.rows.filter fun p =>
    p.eventId == eventId && (cleanedRows.map CleanedRow.bibLookup).contains p.bibLookup).foldl
      (fun rows p => rows.upsert (fun _ new => new) p) .empty

/-- `ParticipantUploadResult`. -/
structure ParticipantUploadResult where
  processedRows : Nat
  insertedRows : Nat
  updatedRows : Nat
  skippedRows : Nat
  deriving DecidableEq, Repr

/-- One turn of the second loop of `upsert_participants`, with the numbers of inserted and of
updated rows. -/
def upsertParticipantRow (eventId : Uuid) (existing : Table Participant Participant.bibLookup)
    (counts : Nat × Nat) (row : CleanedRow) : Request F (Nat × Nat) :=
  match existing.get? row.bibLookup with
  | none => do
    let id ← Request.uuid4
    addParticipantRow (participantRow lower id eventId row.bibNumber row.fullName)
    return (counts.1 + 1, counts.2)
  | some participant =>
    if participant.fullName ≠ row.fullName ∨ participant.bibNumber ≠ row.bibNumber then do
      assignParticipant
        (participantRow lower participant.id participant.eventId row.bibNumber row.fullName)
      return (counts.1, counts.2 + 1)
    else return counts

/-- `upsert_participants`. -/
def upsertParticipants (eventId : Uuid) (rows : List ImportRow) :
    Request F ParticipantUploadResult := do
  let cleanedRows := rows.filterMap cleanedRow
  let skippedRows := rows.countP fun row => (cleanedRow row).isNone
  if cleanedRows.isEmpty then return ⟨0, 0, 0, skippedRows⟩
  else
    let existing ← Request.query fun db => db.existingByBib eventId cleanedRows
    let deduped := (dedupedByBib cleanedRows).rows
    let counts ← deduped.foldlM (upsertParticipantRow lower eventId existing) (0, 0)
    commitParticipants
    let duplicateRows := cleanedRows.length - deduped.length
    return ⟨deduped.length, counts.1, counts.2, skippedRows + duplicateRows⟩

/-- A call that edits the roster of an event. -/
inductive RosterCall
  | add (eventId : Uuid) (bibNumber fullName : Text)
  | update (eventId participantId : Uuid) (bibNumber fullName : Text)
  | upsert (eventId : Uuid) (rows : List ImportRow)
  deriving DecidableEq

/-- Make the call; an update loads its participant first, as `update_participant_action` does. -/
def RosterCall.handle : RosterCall → Request F Unit
  | .add eventId bibNumber fullName => discard (addParticipant lower eventId bibNumber fullName)
  | .update eventId participantId bibNumber fullName => do
    let participant ← Request.ofOption (.httpException 404 "Participant not found.")
      (← Request.query fun db => db.participants.get? participantId)
    if participant.eventId ≠ eventId then
      Program.raise (.httpException 404 "Participant not found.")
    else discard (updateParticipant lower participant bibNumber fullName)
  | .upsert eventId rows => discard (upsertParticipants lower eventId rows)

/-- Serve one call: its answer and the database it leaves. -/
def RosterCall.serve (world : World) (call : RosterCall) (db : Database F) :
    Except Raised Unit × Database F :=
  Request.serve world (call.handle lower) db

/-- The database after a sequence of roster calls. -/
def runRoster (db : Database F) (calls : List (World × RosterCall)) : Database F :=
  calls.foldl (fun db call => (call.2.serve lower call.1 db).2) db

/-! ## What a call may change -/

/-- A row as the roster functions make it. -/
def Participant.IsMade (p : Participant) : Prop :=
  ∃ id eventId bibNumber fullName, normalizeBibLookup bibNumber ≠ [] ∧
    p = participantRow lower id eventId bibNumber fullName

/-- The participants after an edit: every row was there or is made by a roster function, and the
constraints of the table hold. -/
structure RosterEdit (old new : List Participant) : Prop where
  made : ∀ p ∈ new, p ∈ old ∨ p.IsMade lower
  fits : ∀ p ∈ new, p.fits = true
  unique : participantsUnique new = true

/-- The session has changed participants at most, and nothing is committed. -/
def RosterPending (s t : Session F) : Prop :=
  t.committed = s.committed ∧ ∃ participants,
    t.current = s.current.setParticipants participants ∧
      ∀ p ∈ participants.rows, p ∈ s.current.participants.rows ∨ p.IsMade lower

instance : @Std.Refl (Session F) (RosterPending lower) where
  refl s := ⟨rfl, s.current.participants, rfl, fun _ h => Or.inl h⟩

instance : IsTrans (Session F) (RosterPending lower) where
  trans s t u := by
    rintro ⟨hst, ps, hcurrent, hmade⟩ ⟨htu, ps', hcurrent', hmade'⟩
    refine ⟨htu.trans hst, ps', by rw [hcurrent', hcurrent]; rfl, fun p hp => ?_⟩
    rcases hmade' p hp with hold | hnew
    · rw [hcurrent] at hold
      exact hmade p hold
    · exact Or.inr hnew

namespace Request

variable {α β : Type} {lower}

/-- The request commits nothing, or an edit of the roster. -/
def EditsRoster (lower : Text → Text) (x : Request F α) : Prop :=
  ∀ s, (x.run s).2.committed = s.committed ∨ ∃ participants,
    (x.run s).2.committed = s.current.setParticipants participants ∧
      RosterEdit lower s.current.participants.rows participants.rows

theorem editsRoster_pure (a : α) : EditsRoster lower (pure a : Request F α) :=
  fun _ => Or.inl rfl

theorem editsRoster_raise (e : Raised) : EditsRoster lower (.raise e : Request F α) :=
  fun _ => Or.inl rfl

theorem editsRoster_gets_bind (q : Session F → α) {f : α → Request F β}
    (hf : ∀ a, EditsRoster lower (f a)) : EditsRoster lower (Program.gets q >>= f) :=
  fun s => hf (q s) s

theorem editsRoster_ofOption_bind (e : Raised) (o : Option α) {f : α → Request F β}
    (hf : ∀ a, o = some a → EditsRoster lower (f a)) : EditsRoster lower (ofOption e o >>= f) := by
  cases o with
  | none => exact editsRoster_raise e
  | some a => exact hf a rfl

theorem EditsRoster.discard {x : Request F α} (hx : EditsRoster lower x) :
    EditsRoster lower (Functor.discard x) := by
  intro s
  have hs := hx s
  rw [Program.discard_eq, Program.run_bind]
  rcases hr : x.run s with ⟨e | a, t⟩
  · rw [hr] at hs
    exact hs
  · rw [hr] at hs
    exact hs

/-- Pending changes of participants come before an edit. -/
theorem EditsRoster.after {x : Request F α} {f : α → Request F β}
    (hx : x.Within (RosterPending lower)) (hf : ∀ a, EditsRoster lower (f a)) :
    EditsRoster lower (x >>= f) := by
  intro s
  obtain ⟨hcommitted, ps, hcurrent, hmade⟩ := hx s
  rw [Program.run_bind]
  rcases hr : x.run s with ⟨e | a, t⟩
  · rw [hr] at hcommitted
    exact Or.inl hcommitted
  · rw [hr] at hcommitted hcurrent
    rcases hf a t with hsame | ⟨ps', hps', hedit⟩
    · exact Or.inl (hsame.trans hcommitted)
    · refine Or.inr ⟨ps', ?_, ?_, hedit.fits, hedit.unique⟩
      · dsimp only
        rw [hps', hcurrent]
        rfl
      · intro p hp
        rcases hedit.made p hp with hold | hnew
        · rw [hcurrent] at hold
          exact hmade p hold
        · exact Or.inr hnew

/-- The commit is where the constraints are checked. -/
theorem editsRoster_commitParticipants_bind (f : Unit → Request F α)
    (hf : ∀ s, ((f ()).run s).2.committed = s.committed) :
    EditsRoster lower (commitParticipants >>= f) := by
  intro s
  simp only [commitParticipants, bind_assoc, run_loaded_bind]
  split
  · rename_i hfits
    split
    · rename_i hunique
      refine Or.inr ⟨s.current.participants, ?_, fun p hp => Or.inl hp, ?_, hunique⟩
      · rw [run_commit_bind, hf]
        rfl
      · exact List.all_eq_true.mp hfits
    · exact Or.inl rfl
  · exact Or.inl rfl

theorem within_uuid4 : (uuid4 : Request F Uuid).Within (RosterPending lower) :=
  fun s => ⟨rfl, s.current.participants, rfl, fun _ h => Or.inl h⟩

theorem within_oneOrNone (rows : List α) :
    (oneOrNone rows : Request F (Option α)).Within (RosterPending lower) := by
  intro s
  unfold oneOrNone
  split <;> exact Std.Refl.refl s

theorem within_addParticipantRow {p : Participant} (hp : p.IsMade lower) :
    (addParticipantRow p : Request F Unit).Within (RosterPending lower) := by
  intro s
  simp only [addParticipantRow, run_loaded_bind]
  cases hrows : s.current.participants.insert? p with
  | none => exact Std.Refl.refl s
  | some rows =>
    refine ⟨rfl, rows, rfl, fun q hq => ?_⟩
    rw [Table.rows_of_insert? hrows, List.mem_append, List.mem_singleton] at hq
    rcases hq with hq | rfl
    · exact Or.inl hq
    · exact Or.inr hp

theorem within_assignParticipant {p : Participant} (hp : p.IsMade lower) :
    (assignParticipant p : Request F Unit).Within (RosterPending lower) := by
  intro s
  refine ⟨rfl, s.current.participants.put p, rfl, fun q hq => ?_⟩
  rcases Table.mem_put.mp hq with ⟨rfl, -⟩ | ⟨hq, -⟩
  · exact Or.inr hp
  · exact Or.inl hq

end Request

open Request

variable {lower}

theorem editsRoster_addParticipant (eventId : Uuid) (bibNumber fullName : Text) :
    EditsRoster lower
      (addParticipant lower eventId bibNumber fullName : Request F Participant) := by
  unfold addParticipant
  dsimp only
  split
  · exact editsRoster_raise _
  · rename_i hvalid
    have hlookup : normalizeBibLookup (strip bibNumber) ≠ [] := by
      intro h
      simp [h] at hvalid
    refine editsRoster_gets_bind _ fun rows => ?_
    refine EditsRoster.after (within_oneOrNone rows) fun existing => ?_
    split
    · exact editsRoster_raise _
    · refine EditsRoster.after within_uuid4 fun id => ?_
      refine EditsRoster.after (within_addParticipantRow ⟨_, _, _, _, hlookup, rfl⟩) fun _ => ?_
      exact editsRoster_commitParticipants_bind _ fun _ => rfl

theorem editsRoster_updateParticipant (participant : Participant) (bibNumber fullName : Text) :
    EditsRoster lower
      (updateParticipant lower participant bibNumber fullName : Request F Participant) := by
  unfold updateParticipant
  dsimp only
  split
  · exact editsRoster_raise _
  · rename_i hvalid
    have hlookup : normalizeBibLookup (strip bibNumber) ≠ [] := by
      intro h
      simp [h] at hvalid
    refine editsRoster_gets_bind _ fun rows => ?_
    refine EditsRoster.after (within_oneOrNone rows) fun existing => ?_
    split
    · exact editsRoster_raise _
    · refine EditsRoster.after (within_assignParticipant ⟨_, _, _, _, hlookup, rfl⟩) fun _ => ?_
      exact editsRoster_commitParticipants_bind _ fun _ => rfl

theorem editsRoster_upsertParticipants (eventId : Uuid) (rows : List ImportRow) :
    EditsRoster lower
      (upsertParticipants lower eventId rows : Request F ParticipantUploadResult) := by
  unfold upsertParticipants
  dsimp only
  split
  · exact editsRoster_pure _
  · refine editsRoster_gets_bind _ fun existing => ?_
    refine EditsRoster.after (Program.Within.foldlM (fun counts row _ => ?_) (0, 0))
      fun counts => ?_
    · have hmade : ∀ id eventId, (participantRow lower id eventId row.bibNumber
          row.fullName).IsMade lower := fun id eventId => ⟨_, _, _, _, row.lookup_ne, rfl⟩
      unfold upsertParticipantRow
      split
      · refine within_uuid4.bind fun id => ?_
        exact (within_addParticipantRow (hmade id eventId)).bind fun _ => Program.within_pure _
      · split
        · exact (within_assignParticipant (hmade _ _)).bind fun _ => Program.within_pure _
        · exact Program.within_pure _
    · exact editsRoster_commitParticipants_bind _ fun _ => rfl

/-- A roster call commits nothing, or an edit of the roster. -/
theorem editsRoster_handle (call : RosterCall) :
    EditsRoster lower (call.handle lower : Request F Unit) := by
  cases call with
  | add eventId bibNumber fullName =>
    exact (editsRoster_addParticipant eventId bibNumber fullName).discard
  | update eventId participantId bibNumber fullName =>
    refine editsRoster_gets_bind _ fun row => ?_
    refine editsRoster_ofOption_bind _ row fun participant _ => ?_
    split
    · exact editsRoster_raise _
    · exact (editsRoster_updateParticipant participant bibNumber fullName).discard
  | upsert eventId rows => exact (editsRoster_upsertParticipants eventId rows).discard

/-- A served roster call leaves the database as it was, apart from an edit of the roster. -/
theorem RosterCall.serve_edits (lower : Text → Text) (world : World) (call : RosterCall)
    (db : Database F) :
    (call.serve lower world db).2 = db ∨ ∃ participants,
      (call.serve lower world db).2 = db.setParticipants participants ∧
        RosterEdit lower db.participants.rows participants.rows :=
  editsRoster_handle call (Session.sessionLocal world db)

end RaceFrame
