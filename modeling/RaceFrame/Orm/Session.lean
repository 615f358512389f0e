import Mathlib.Order.Monotone.Defs
import Mathlib.Tactic.Simps.Basic
import RaceFrame.Core.Program
import RaceFrame.Core.Table
import RaceFrame.Schema.Rows

/-!
# The database and the ORM session

A session of `SessionLocal` holds three views of the database: what is
committed, what its own transaction has written, and what its loaded objects
say, pending changes included. An attribute assignment changes only the last
view. A flush carries the pending changes into the transaction. The sessions of
`db.py` are opened with `autoflush=False`, so a `SELECT` of columns sees the
second view and does not flush first.
-/

namespace RaceFrame

open Core

/-- The tables that the modelled functions use. -/
structure Database (F : Type) where
  participants : Table Participant Participant.id
  photos : Table Photo Photo.id
  jobs : Table (Job F) Job.key
  photoTextDetections : List (PhotoTextDetection F)
  photoFaceDetections : Table (PhotoFaceDetection F) PhotoFaceDetection.id
  photoParticipantMatches : Table (PhotoParticipantMatch F) PhotoParticipantMatch.key
  participantFaceImages : Table ParticipantFaceImage ParticipantFaceImage.id
  participantFaceEmbeddings :
    Table (ParticipantFaceEmbedding F) ParticipantFaceEmbedding.faceImageId
  faceParticipantMatches : Table (FaceParticipantMatch F) FaceParticipantMatch.key
  faceSearchSessions : Table FaceSearchSession FaceSearchSession.id
  faceSearchImages : Table FaceSearchImage FaceSearchImage.id
  faceSearchResults : Table (FaceSearchResult F) FaceSearchResult.key

/-- The database without rows. -/
def Database.empty {F : Type} : Database F where
  participants := .empty
  photos := .empty
  jobs := .empty
  photoTextDetections := []
  photoFaceDetections := .empty
  photoParticipantMatches := .empty
  participantFaceImages := .empty
  participantFaceEmbeddings := .empty
  faceParticipantMatches := .empty
  faceSearchSessions := .empty
  faceSearchImages := .empty
  faceSearchResults := .empty

/-- What a request reads from outside the database. -/
structure World where
  /-- The readings of the server clock, in the order in which the request takes them. -/
  clock : Nat → Instant
  /-- The clock never goes back. -/
  clock_mono : Monotone clock
  /-- The values that `uuid4` draws, in order. -/
  uuids : Nat → Uuid
  /-- The value of `random.uniform(0.8, 1.2)`. -/
  jitter : ℚ
  /-- The range of `random.uniform`. -/
  jitter_mem : 4 / 5 ≤ jitter ∧ jitter ≤ 6 / 5
  /-- The job rows that other transactions hold locked, which `skip_locked` passes over. -/
  locked : JobKey → Bool
  /-- `safe_photo_access_url`. -/
  photoAccessUrl : Text → Option Text

namespace World

/-- The world after one reading of the clock. -/
def tick (w : World) : World :=
  { w with
    clock := fun n => w.clock (n + 1)
    clock_mono := fun _ _ h => w.clock_mono (Nat.add_le_add_right h 1) }

/-- The world after `n` drawings of identifiers. -/
def draw (w : World) (n : Nat) : World := { w with uuids := fun i => w.uuids (n + i) }

@[simp] theorem draw_zero (w : World) : w.draw 0 = w := by
  simp only [draw, Nat.zero_add]

/-- A world whose clock stands still. -/
def still (now : Instant) (uuids : Nat → Uuid) : World where
  clock := fun _ => now
  clock_mono := fun _ _ _ => le_refl now
  uuids := uuids
  jitter := 1
  jitter_mem := by decide +kernel
  locked := fun _ => false
  photoAccessUrl := fun _ => none

end World

/-- A session and the transaction it has open. -/
structure Session (F : Type) where
  /-- What is left of the world of the request. -/
  world : World
  /-- The database as committed. -/
  committed : Database F
  /-- The database as the statements of the transaction see it. -/
  flushed : Database F
  /-- The database as the loaded objects describe it, pending changes included. -/
  current : Database F

/-- What a request raises. -/
inductive Raised
  | httpException (statusCode : Nat) (detail : String)
  | valueError (message : String)
  | runtimeError (message : String)
  | indexError
  | integrityError
  | dataError
  | multipleResultsFound
  | attributeError
  | typeError
  | recursionError
  deriving DecidableEq, Repr

/-- A function that works on a session. -/
abbrev Request (F α : Type) := Program (Session F) Raised α

namespace Session

variable {F : Type}

/-- `SessionLocal()`: a session with nothing pending. -/
@[simps] def sessionLocal (world : World) (db : Database F) : Session F := ⟨world, db, db, db⟩

/-- Write the pending changes into the transaction. -/
@[simps] def flush (s : Session F) : Session F := { s with flushed := s.current }

/-- Flush and commit. -/
@[simps] def commit (s : Session F) : Session F :=
  { s with committed := s.current, flushed := s.current }

/-- Change loaded objects: the change is pending. -/
@[simps] def assign (f : Database F → Database F) (s : Session F) : Session F :=
  { s with current := f s.current }

/-- Run a data-changing statement. -/
@[simps] def execute (f : Database F → Database F) (s : Session F) : Session F :=
  { s with flushed := f s.flushed, current := f s.current }

/-- Take a reading of the clock. -/
@[simps] def tick (s : Session F) : Session F := { s with world := s.world.tick }

/-- Draw `n` identifiers. -/
@[simps] def draw (n : Nat) (s : Session F) : Session F := { s with world := s.world.draw n }

end Session

namespace Request

variable {F α : Type}

/-- `session.flush()`. -/
def flush : Request F Unit := .modify Session.flush

/-- `session.commit()`. -/
def commit : Request F Unit := .modify Session.commit

/-- Attribute assignments and `session.add`: pending until the next flush. -/
def assign (f : Database F → Database F) : Request F Unit := .modify (Session.assign f)

/-- A bulk `DELETE` or an upsert, executed at once. -/
def execute (f : Database F → Database F) : Request F Unit := .modify (Session.execute f)

/-- A `SELECT`. -/
def query (q : Database F → α) : Request F α := .gets fun s => q s.flushed

/-- Read an attribute of loaded objects. -/
def loaded (q : Database F → α) : Request F α := .gets fun s => q s.current

/-- Continue with a pure result, raising its exception if it has one. -/
def ofExcept : Except Raised α → Request F α
  | .ok a => pure a
  | .error e => .raise e

/-- The value of an option, or an exception. -/
def ofOption (e : Raised) : Option α → Request F α
  | some a => pure a
  | none => .raise e

/-- `Query.one_or_none()`, on the rows that the query selects. -/
def oneOrNone (rows : List α) : Request F (Option α) :=
  match rows with
  | [] => pure none
  | [row] => pure (some row)
  | _ :: _ :: _ => .raise .multipleResultsFound

/-- `utc_now()`. -/
def utcNow : Request F Instant := do
  let now ← Program.gets fun s => s.world.clock 0
  Program.modify Session.tick
  return now

/-- `uuid.uuid4()`. -/
def uuid4 : Request F Uuid := do
  let id ← Program.gets fun s => s.world.uuids 0
  Program.modify (Session.draw 1)
  return id

/-- `n` values of `uuid.uuid4()`. -/
def uuid4s (n : Nat) : Request F (List Uuid) := do
  let ids ← Program.gets fun s => (List.range n).map s.world.uuids
  Program.modify (Session.draw n)
  return ids

/-- Run a request in a new session and close it: what was not committed is discarded. -/
def serve (world : World) (r : Request F α) (db : Database F) : Except Raised α × Database F :=
  let result := r.run (Session.sessionLocal world db)
  (result.1, result.2.committed)

variable {β : Type} (s : Session F)

@[simp] theorem run_flush_bind (f : Unit → Request F β) :
    (flush >>= f).run s = (f ()).run s.flush := rfl

@[simp] theorem run_commit : (commit : Request F Unit).run s = (.ok (), s.commit) := rfl

@[simp] theorem run_commit_bind (f : Unit → Request F β) :
    (commit >>= f).run s = (f ()).run s.commit := rfl

@[simp] theorem run_assign (g : Database F → Database F) :
    (assign g).run s = (.ok (), s.assign g) := rfl

@[simp] theorem run_assign_bind (g : Database F → Database F) (f : Unit → Request F β) :
    (assign g >>= f).run s = (f ()).run (s.assign g) := rfl

@[simp] theorem run_execute (g : Database F → Database F) :
    (execute g).run s = (.ok (), s.execute g) := rfl

@[simp] theorem run_execute_bind (g : Database F → Database F) (f : Unit → Request F β) :
    (execute g >>= f).run s = (f ()).run (s.execute g) := rfl

@[simp] theorem run_query_bind (q : Database F → α) (f : α → Request F β) :
    (query q >>= f).run s = (f (q s.flushed)).run s := rfl

@[simp] theorem run_loaded_bind (q : Database F → α) (f : α → Request F β) :
    (loaded q >>= f).run s = (f (q s.current)).run s := rfl

@[simp] theorem run_utcNow_bind (f : Instant → Request F β) :
    (utcNow >>= f).run s = (f (s.world.clock 0)).run s.tick := rfl

@[simp] theorem run_uuid4_bind (f : Uuid → Request F β) :
    (uuid4 >>= f).run s = (f (s.world.uuids 0)).run (s.draw 1) := rfl

@[simp] theorem run_uuid4s_bind (n : Nat) (f : List Uuid → Request F β) :
    (uuid4s n >>= f).run s = (f ((List.range n).map s.world.uuids)).run (s.draw n) := rfl

@[simp] theorem run_ofOption_some_bind (e : Raised) (a : α) (f : α → Request F β) :
    (ofOption e (some a) >>= f).run s = (f a).run s := rfl

@[simp] theorem run_ofOption_none_bind (e : Raised) (f : α → Request F β) :
    (ofOption e none >>= f).run s = (.error e, s) := rfl

@[simp] theorem run_discard_bind (x : Request F α) (f : PUnit → Request F β) :
    (discard x >>= f).run s = (x >>= fun _ => f PUnit.unit).run s := by
  rw [Program.discard_eq, bind_assoc]
  rfl

/-- A loop of statements is one statement. -/
theorem run_forM_execute {f : α → Request F PUnit} {g : α → Database F → Database F}
    (hf : ∀ a s, (f a).run s = (.ok (), s.execute (g a))) (xs : List α) :
    (xs.forM f).run s = (.ok (), s.execute fun db => xs.foldl (fun db a => g a db) db) := by
  induction xs generalizing s with
  | nil => rfl
  | cons a xs ih =>
    change (f a >>= fun _ => xs.forM f).run s = _
    rw [Program.run_bind_ok (hf a s), ih]
    rfl

/-- A loop of assignments is one assignment. -/
theorem run_forM_assign {f : α → Request F PUnit} {g : α → Database F → Database F}
    (hf : ∀ a s, (f a).run s = (.ok (), s.assign (g a))) (xs : List α) :
    (xs.forM f).run s = (.ok (), s.assign fun db => xs.foldl (fun db a => g a db) db) := by
  induction xs generalizing s with
  | nil => rfl
  | cons a xs ih =>
    change (f a >>= fun _ => xs.forM f).run s = _
    rw [Program.run_bind_ok (hf a s), ih]
    rfl

end Request

end RaceFrame
