import RaceFrame.Roster.Deletion

/-!
# Looking participants up

`find_event_participant` looks a query up by its bib key and then by its name
key. Both keys are columns that the roster functions write by hand; they are
right in every roster that these functions and the deletions reach, so that a
participant is found by bib, and by name where the name is no one else's.
-/

namespace RaceFrame

open Core

variable {F : Type} {lower : Text → Text}

/-- `find_event_participant`. -/
def findEventParticipant (lower : Text → Text) (eventId : Uuid) (query : Text) :
    Request F (Option Participant) := do
  let normalizedBib := Photographer.normalizeMatchToken query
  let exactBibMatches ← Request.query fun db =>
    (db.participants.rows.filter fun p =>
      p.eventId == eventId && p.bibLookup == normalizedBib).take 2
  match exactBibMatches with
  | [p] => return some p
  | _ =>
    let normalizedName := normalizeNameLookup lower query
    let exactNameMatches ← Request.query fun db =>
      (db.participants.rows.filter fun p =>
        p.eventId == eventId && p.nameLookup == normalizedName).take 2
    match exactNameMatches with
    | [p] => return some p
    | _ => return none

/-- A call that changes the roster of an event. -/
inductive RosterAction
  | edit (call : RosterCall)
  | delete (eventId participantId : Uuid)
  | deleteAll (eventId : Uuid)
  deriving DecidableEq

/-- Make the call; a deletion loads its participant first, as `delete_participant_action` does. -/
def RosterAction.handle (lower : Text → Text) : RosterAction → Request F Unit
  | .edit call => call.handle lower
  | .delete eventId participantId => do
    let participant ← Request.ofOption (.httpException 404 "Participant not found.")
      (← Request.query fun db => db.participants.get? participantId)
    if participant.eventId ≠ eventId then
      Program.raise (.httpException 404 "Participant not found.")
    else discard (deleteParticipant participant)
  | .deleteAll eventId => discard (deleteAllParticipants eventId)

/-- Serve one call: its answer and the database it leaves. -/
def RosterAction.serve (lower : Text → Text) (world : World) (action : RosterAction)
    (db : Database F) : Except Raised Unit × Database F :=
  Request.serve world (action.handle lower) db

/-- The database after a sequence of calls. -/
def runActions (lower : Text → Text) (db : Database F) (actions : List (World × RosterAction)) :
    Database F :=
  actions.foldl (fun db action => (action.2.serve lower action.1 db).2) db

/-! ## Deletions -/

namespace Request

variable {α β : Type}

/-- Nothing is committed and no participant is changed. -/
abbrev LeavesRoster (x : Request F α) : Prop :=
  x.Preserves fun s => (s.committed, s.current.participants)

/-- The request commits nothing, or leaves some of the participants and no other. -/
def RemovesParticipants (x : Request F α) : Prop :=
  ∀ s, (x.run s).2.committed = s.committed ∨
    ∀ p ∈ (x.run s).2.committed.participants.rows, p ∈ s.current.participants.rows

theorem leavesRoster_execute {f : Database F → Database F}
    (h : ∀ db, (f db).participants = db.participants) : LeavesRoster (execute f) :=
  Program.preserves_modify fun s => by
    change (s.committed, (f s.current).participants) = _
    rw [h]

theorem leavesRoster_query (q : Database F → α) : LeavesRoster (query q) :=
  Program.preserves_gets _

theorem LeavesRoster.removes_bind {x : Request F α} (hx : LeavesRoster x)
    {f : α → Request F β} (hf : ∀ a, RemovesParticipants (f a)) :
    RemovesParticipants (x >>= f) := by
  intro s
  have hs := (hx s).2
  simp only [Prod.mk.injEq] at hs
  rw [Program.run_bind]
  rcases hr : x.run s with ⟨e | a, t⟩
  · rw [hr] at hs
    exact Or.inl hs.1
  · rw [hr] at hs
    rcases hf a t with hsame | hsome
    · exact Or.inl (hsame.trans hs.1)
    · rw [hs.2] at hsome
      exact Or.inr hsome

theorem removesParticipants_raise (e : Raised) : RemovesParticipants (.raise e : Request F α) :=
  fun _ => Or.inl rfl

theorem RemovesParticipants.discard {x : Request F α} (hx : RemovesParticipants x) :
    RemovesParticipants (Functor.discard x) := by
  intro s
  have hs := hx s
  rw [Program.discard_eq, Program.run_bind]
  rcases hr : x.run s with ⟨e | a, t⟩
  · rw [hr] at hs
    exact hs
  · rw [hr] at hs
    exact hs

end Request

open Request

theorem leavesRoster_executeIf (condition : Bool) {f : Database F → Database F}
    (h : ∀ db, (f db).participants = db.participants) : LeavesRoster (executeIf condition f) :=
  Program.Preserves.ite (leavesRoster_execute h) (Program.preserves_pure _)

/-- The cleanup of search sessions leaves the roster alone. -/
theorem leavesRoster_cleanupSearchSessions (ids : List Uuid) :
    LeavesRoster (cleanupSearchSessions ids : Request F (List Text)) := by
  unfold cleanupSearchSessions
  apply Program.Preserves.ite (Program.preserves_pure _)
  refine (leavesRoster_query _).bind fun keys => (leavesRoster_query _).bind fun images => ?_
  apply (leavesRoster_execute (f := fun db => db.deleteFaceSearchResults _) fun _ => rfl).bind
  intro _
  apply (leavesRoster_executeIf _ (f := fun db => db.deleteJobs _) fun _ => rfl).bind
  intro _
  apply (leavesRoster_execute (f := fun db => db.deleteJobs _) fun _ => rfl).bind
  intro _
  apply (leavesRoster_execute (f := fun db => db.deleteFaceSearchImages _) fun _ => rfl).bind
  intro _
  apply (leavesRoster_execute (f := fun db => db.deleteFaceSearchSessions _) fun _ => rfl).bind
  intro _
  exact Program.preserves_pure _

/-- The cleanup of identity data leaves the roster alone. -/
theorem leavesRoster_cleanup (ids : List Uuid) :
    LeavesRoster (cleanupParticipantIdentityData ids : Request F (List Text)) := by
  unfold cleanupParticipantIdentityData
  apply Program.Preserves.ite (Program.preserves_pure _)
  refine (leavesRoster_query _).bind fun sessions => ?_
  refine (leavesRoster_cleanupSearchSessions sessions).bind fun keys => ?_
  refine (leavesRoster_query _).bind fun images => ?_
  apply (leavesRoster_execute (f := fun db => db.deleteFaceParticipantMatches _) fun _ => rfl).bind
  intro _
  apply (leavesRoster_execute (f := fun db => db.deletePhotoParticipantMatches _) fun _ => rfl).bind
  intro _
  apply (leavesRoster_execute (f := fun db => db.deleteJobs _) fun _ => rfl).bind
  intro _
  apply (leavesRoster_execute (f := fun db => db.deleteFaceEmbeddings _) fun _ => rfl).bind
  intro _
  apply (leavesRoster_executeIf _ (f := fun db => db.deleteJobs _) fun _ => rfl).bind
  intro _
  apply (leavesRoster_executeIf _ (f := fun db => db.deleteFaceEmbeddings _) fun _ => rfl).bind
  intro _
  apply (leavesRoster_execute (f := fun db => db.deleteFaceImages _) fun _ => rfl).bind
  intro _
  exact Program.preserves_pure _

theorem removesParticipants_deleteParticipant (participant : Participant) :
    RemovesParticipants (deleteParticipant participant : Request F (List Text)) := by
  refine (leavesRoster_cleanup [participant.id]).removes_bind fun keys => ?_
  intro s
  refine Or.inr fun p hp => ?_
  exact (Table.mem_deleteWhere.mp hp).1

theorem removesParticipants_deleteAllParticipants (eventId : Uuid) :
    RemovesParticipants (deleteAllParticipants eventId : Request F (Nat × List Text)) := by
  refine (leavesRoster_query _).removes_bind fun ids => ?_
  refine (leavesRoster_cleanup ids).removes_bind fun keys => ?_
  refine (leavesRoster_query _).removes_bind fun count => ?_
  intro s
  refine Or.inr fun p hp => ?_
  exact (Table.mem_deleteWhere.mp hp).1

/-! ## The keys of a roster -/

/-- A roster whose two lookup columns say what their functions compute. -/
structure RosterRepresented (lower : Text → Text) (rows : List Participant) : Prop
    extends RosterSound rows where
  name : ∀ p ∈ rows, p.nameLookup = normalizeNameLookup lower p.fullName

theorem rosterRepresented_nil : RosterRepresented lower [] where
  toRosterSound := rosterSound_nil
  name _ hp := absurd hp List.not_mem_nil

/-- An edit of a represented roster leaves a represented roster. -/
theorem RosterEdit.represented {old new : List Participant} (h : RosterEdit lower old new)
    (hold : RosterRepresented lower old) : RosterRepresented lower new where
  toRosterSound := h.sound hold.toRosterSound
  name p hp := by
    rcases h.made p hp with hin | ⟨_, _, _, _, -, rfl⟩
    · exact hold.name p hin
    · rfl

/-- So does the removal of participants. -/
theorem RosterRepresented.of_subset {old new : List Participant} (h : RosterRepresented lower old)
    (hsubset : ∀ p ∈ new, p ∈ old) : RosterRepresented lower new where
  lookup p hp := h.lookup p (hsubset p hp)
  nonempty p hp := h.nonempty p (hsubset p hp)
  length p hp := h.length p (hsubset p hp)
  unique p hp q hq := h.unique p (hsubset p hp) q (hsubset q hq)
  name p hp := h.name p (hsubset p hp)

private theorem represented_of_removes {x : Request F Unit} (hx : RemovesParticipants x)
    (world : World) {db : Database F} (h : RosterRepresented lower db.participants.rows) :
    RosterRepresented lower (x.serve world db).2.participants.rows := by
  rcases hx (Session.sessionLocal world db) with hsame | hsome
  · rw [Request.serve, hsame]
    exact h
  · exact h.of_subset hsome

/-- A call keeps the roster represented, whether it succeeds or not. -/
theorem RosterAction.serve_represented (world : World) (action : RosterAction) {db : Database F}
    (h : RosterRepresented lower db.participants.rows) :
    RosterRepresented lower (action.serve lower world db).2.participants.rows := by
  cases action with
  | edit call =>
    rcases RosterCall.serve_edits lower world call db with hsame | ⟨participants, heq, hedit⟩
    · change RosterRepresented lower (call.serve lower world db).2.participants.rows
      rw [hsame]
      exact h
    · change RosterRepresented lower (call.serve lower world db).2.participants.rows
      rw [heq]
      exact hedit.represented h
  | delete eventId participantId =>
    refine represented_of_removes ((leavesRoster_query _).removes_bind fun row => ?_) world h
    cases row with
    | none => exact removesParticipants_raise _
    | some participant =>
      intro s
      rw [run_ofOption_some_bind]
      split
      · exact removesParticipants_raise _ s
      · exact (removesParticipants_deleteParticipant participant).discard s
  | deleteAll eventId =>
    exact represented_of_removes (removesParticipants_deleteAllParticipants eventId).discard world h

/-- Every roster that is reached from an empty one is represented. -/
theorem rosterRepresented_runActions (actions : List (World × RosterAction)) {db : Database F}
    (h : RosterRepresented lower db.participants.rows) :
    RosterRepresented lower (runActions lower db actions).participants.rows := by
  induction actions generalizing db with
  | nil => exact h
  | cons action actions ih => exact ih (action.2.serve_represented action.1 h)

/-! ## Finding a participant -/

/-- A bib key that is in the roster finds its participant. -/
theorem findEventParticipant_of_bib {s : Session F} {p : Participant} {query : Text}
    (h : RosterSound s.flushed.participants.rows) (hp : p ∈ s.flushed.participants.rows)
    (hquery : normalizeBibLookup query = p.bibLookup) :
    (findEventParticipant lower p.eventId query).run s = (.ok (some p), s) := by
  have hrows : s.flushed.participants.rows.filter (fun q =>
      q.eventId == p.eventId && q.bibLookup == Photographer.normalizeMatchToken query) = [p] := by
    apply filter_eq_singleton s.flushed.participants.rows_nodup hp
    · rw [Photographer.normalizeMatchToken, hquery, beq_self_eq_true, beq_self_eq_true,
        Bool.and_self]
    · intro q hq hselects
      rw [Bool.and_eq_true, beq_iff_eq, beq_iff_eq, Photographer.normalizeMatchToken,
        hquery] at hselects
      exact h.unique q hq p hp hselects.1 hselects.2
  rw [findEventParticipant]
  simp only [run_query_bind, hrows]
  rfl

/-- A name key that one participant has finds it, when it is nobody's bib key. -/
theorem findEventParticipant_of_name {s : Session F} {p : Participant} {query : Text}
    (hp : p ∈ s.flushed.participants.rows)
    (hquery : normalizeNameLookup lower query = p.nameLookup)
    (hname : ∀ q ∈ s.flushed.participants.rows, q.eventId = p.eventId →
      q.nameLookup = p.nameLookup → q = p)
    (hbib : ∀ q ∈ s.flushed.participants.rows, q.eventId = p.eventId →
      q.bibLookup ≠ normalizeBibLookup query) :
    (findEventParticipant lower p.eventId query).run s = (.ok (some p), s) := by
  have hnone : s.flushed.participants.rows.filter (fun q =>
      q.eventId == p.eventId && q.bibLookup == Photographer.normalizeMatchToken query) = [] := by
    rw [List.filter_eq_nil_iff]
    intro q hq hselects
    rw [Bool.and_eq_true, beq_iff_eq, beq_iff_eq] at hselects
    exact hbib q hq hselects.1 hselects.2
  have hrows : s.flushed.participants.rows.filter (fun q =>
      q.eventId == p.eventId && q.nameLookup == normalizeNameLookup lower query) = [p] := by
    apply filter_eq_singleton s.flushed.participants.rows_nodup hp
    · rw [hquery, beq_self_eq_true, beq_self_eq_true, Bool.and_self]
    · intro q hq hselects
      rw [Bool.and_eq_true, beq_iff_eq, beq_iff_eq, hquery] at hselects
      exact hname q hq hselects.1 hselects.2
  rw [findEventParticipant]
  simp only [run_query_bind, hnone, List.take_nil, hrows]
  rfl

/-- In every roster that the roster functions and the deletions reach from an empty one, the two
lookup columns are the keys of bib and name, no two participants of an event share a bib key, and
a participant is found by its bib, and by its name where the name key is no one else's and is not
a bib key of the event. -/
theorem roster_lookup (lower : Text → Text) (db : Database F)
    (actions : List (World × RosterAction)) (world : World) :
    let reached := runActions lower (db.setParticipants .empty) actions
    let rows := reached.participants.rows
    (∀ p ∈ rows, p.bibLookup = normalizeBibLookup p.bibNumber ∧ p.bibLookup ≠ [] ∧
        p.nameLookup = normalizeNameLookup lower p.fullName) ∧
      (∀ p ∈ rows, ∀ q ∈ rows, p.eventId = q.eventId → p.bibLookup = q.bibLookup → p = q) ∧
      ∀ p ∈ rows,
        ((findEventParticipant lower p.eventId p.bibNumber).serve world reached).1 =
            .ok (some p) ∧
          ((∀ q ∈ rows, q.eventId = p.eventId → q.nameLookup = p.nameLookup → q = p) →
            (∀ q ∈ rows, q.eventId = p.eventId → q.bibLookup ≠ normalizeBibLookup p.fullName) →
            ((findEventParticipant lower p.eventId p.fullName).serve world reached).1 =
              .ok (some p)) := by
  intro reached rows
  have hrep : RosterRepresented lower rows := rosterRepresented_runActions actions
    (show RosterRepresented lower (db.setParticipants .empty).participants.rows from
      rosterRepresented_nil)
  refine ⟨fun p hp => ⟨hrep.lookup p hp, hrep.nonempty p hp, hrep.name p hp⟩, hrep.unique, ?_⟩
  intro p hp
  constructor
  · have hfound : (findEventParticipant lower p.eventId p.bibNumber).run
        (Session.sessionLocal world reached) = (.ok (some p), Session.sessionLocal world reached) :=
      findEventParticipant_of_bib hrep.toRosterSound hp (hrep.lookup p hp).symm
    rw [Request.serve, hfound]
  · intro hname hbib
    have hfound : (findEventParticipant lower p.eventId p.fullName).run
        (Session.sessionLocal world reached) = (.ok (some p), Session.sessionLocal world reached) :=
      findEventParticipant_of_name hp (hrep.name p hp).symm hname hbib
    rw [Request.serve, hfound]

/-- The calls that add Alice and Bob and remove Bob again. -/
def aliceCalls : List (World × RosterAction) :=
  [(World.still 0 fun _ => 1, .edit (.add 7 "A-42".toList "  alice   smith  ".toList)),
    (World.still 0 fun _ => 2, .edit (.add 7 "43".toList "bob".toList)),
    (World.still 0 fun _ => 3, .delete 7 2)]

/-- The row of Alice. -/
def alice : Participant := participantRow id 1 7 "A-42".toList "alice   smith".toList

/-- Alice is found by her name. -/
theorem alice_found :
    ((findEventParticipant id 7 alice.fullName).serve (World.still 0 fun _ => 4)
      (runActions id ((Database.empty : Database ℚ).setParticipants .empty) aliceCalls)).1 =
        .ok (some alice) := by
  have hrows : (runActions id ((Database.empty : Database ℚ).setParticipants .empty)
      aliceCalls).participants.rows = [alice] := by decide +kernel
  refine ((roster_lookup id Database.empty aliceCalls (World.still 0 fun _ => 4)).2.2 alice ?_).2
    ?_ ?_
  · rw [hrows]
    exact List.mem_singleton_self alice
  · rw [hrows]
    decide +kernel
  · rw [hrows]
    decide +kernel

end RaceFrame
