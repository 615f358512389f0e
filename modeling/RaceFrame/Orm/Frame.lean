import RaceFrame.Orm.Session

/-!
# What a request leaves alone

`Keeps ρ x` says that `x` commits nothing and leaves the part `ρ` of the
session's own views as it was, whether it returns or raises. Parts are given by
blanking the tables that a function may write. `CommitsLast x` says that a
request commits nothing before its last statement, so whatever raises earlier,
the request itself or the database, leaves what was committed.
-/

namespace RaceFrame

open Core

variable {F α β γ : Type}

namespace Request

/-- The request commits nothing and keeps the part `ρ` of the database. -/
def Keeps (ρ : Database F → γ) (x : Request F α) : Prop :=
  x.Preserves fun s => (s.committed, ρ s.flushed, ρ s.current)

variable {ρ : Database F → γ}

theorem keeps_pure (a : α) : Keeps ρ (pure a : Request F α) := Program.preserves_pure a

theorem keeps_raise (e : Raised) : Keeps ρ (.raise e : Request F α) := Program.preserves_raise e

theorem keeps_query (q : Database F → α) : Keeps ρ (query q) := Program.preserves_gets _

theorem keeps_loaded (q : Database F → α) : Keeps ρ (loaded q) := Program.preserves_gets _

theorem keeps_ofExcept (r : Except Raised α) : Keeps ρ (ofExcept r : Request F α) := by
  cases r with
  | error e => exact keeps_raise e
  | ok a => exact keeps_pure a

theorem keeps_execute {f : Database F → Database F} (h : ∀ db, ρ (f db) = ρ db) :
    Keeps ρ (execute f) := by
  refine Program.preserves_modify fun s => ?_
  change (s.committed, ρ (f s.flushed), ρ (f s.current)) =
    (s.committed, ρ s.flushed, ρ s.current)
  rw [h, h]

theorem Keeps.discard {x : Request F α} (hx : Keeps ρ x) : Keeps ρ (Functor.discard x) :=
  Program.Preserves.discard hx

/-- A first part that keeps `ρ` either ends the request with nothing committed or hands over a
session with the same part. -/
theorem Keeps.run_bind {x : Request F α} {f : α → Request F β} (hx : Keeps ρ x)
    (s : Session F) :
    ((∃ e, ((x >>= f).run s).1 = .error e) ∧ ((x >>= f).run s).2.committed = s.committed) ∨
      ∃ a t, (x >>= f).run s = (f a).run t ∧ t.committed = s.committed ∧
        ρ t.flushed = ρ s.flushed ∧ ρ t.current = ρ s.current := by
  have hs := (hx s).2
  rw [Program.run_bind]
  rcases hr : x.run s with ⟨e | a, t⟩
  · rw [hr] at hs
    exact Or.inl ⟨⟨e, rfl⟩, congrArg Prod.fst hs⟩
  · rw [hr] at hs
    exact Or.inr ⟨a, t, rfl, congrArg Prod.fst hs, congrArg (fun p => p.2.1) hs,
      congrArg (fun p => p.2.2) hs⟩

/-- The request commits nothing. -/
def CommitsNothing (x : Request F α) : Prop := x.Preserves Session.committed

/-- Wherever an exception strikes, nothing has been committed. -/
def CommitsLast (x : Request F α) : Prop := x.Exposes fun s u => u.committed = s.committed

theorem Keeps.commitsNothing {x : Request F α} (hx : Keeps ρ x) : CommitsNothing x :=
  Program.Preserves.comp hx Prod.fst

theorem CommitsNothing.bind {x : Request F α} {f : α → Request F β} (hx : CommitsNothing x)
    (hf : ∀ a, CommitsNothing (f a)) : CommitsNothing (x >>= f) := Program.Preserves.bind hx hf

theorem commitsNothing_pure (a : α) : CommitsNothing (pure a : Request F α) :=
  Program.preserves_pure a

theorem commitsNothing_raise (e : Raised) : CommitsNothing (.raise e : Request F α) :=
  Program.preserves_raise e

theorem commitsNothing_gets (q : Session F → α) : CommitsNothing (.gets q : Request F α) :=
  Program.preserves_gets q

theorem commitsNothing_modify {f : Session F → Session F}
    (h : ∀ s, (f s).committed = s.committed) : CommitsNothing (.modify f : Request F Unit) :=
  Program.preserves_modify h

theorem commitsNothing_utcNow : CommitsNothing (utcNow : Request F Instant) :=
  (commitsNothing_gets _).bind fun now =>
    (commitsNothing_modify fun _ => rfl).bind fun _ => commitsNothing_pure now

theorem commitsNothing_uuid4s (n : Nat) : CommitsNothing (uuid4s n : Request F (List Uuid)) :=
  (commitsNothing_gets _).bind fun ids =>
    (commitsNothing_modify fun _ => rfl).bind fun _ => commitsNothing_pure ids

theorem commitsNothing_ofOption (e : Raised) (o : Option α) :
    CommitsNothing (ofOption e o : Request F α) := by
  cases o with
  | none => exact commitsNothing_raise e
  | some a => exact commitsNothing_pure a

theorem CommitsNothing.discard {x : Request F α} (hx : CommitsNothing x) :
    CommitsNothing (Functor.discard x) := Program.Preserves.discard hx

/-- What commits nothing comes before what commits last. -/
theorem CommitsNothing.before {x : Request F α} {f : α → Request F β} (hx : CommitsNothing x)
    (hf : ∀ a, CommitsLast (f a)) : CommitsLast (x >>= f) :=
  Program.Preserves.exposes_bind hx hf

theorem commitsLast_raise (e : Raised) : CommitsLast (.raise e : Request F α) :=
  Program.exposes_raise e

theorem commitsLast_pure (a : α) : CommitsLast (pure a : Request F α) := Program.exposes_pure a

private theorem commitsLast_modify_bind (g : Session F → Session F) {f : Unit → Request F β}
    (hf : ∀ s, (f ()).visits s = []) : CommitsLast (.modify g >>= f) := by
  intro s u hu
  change u ∈ [s] ++ (f ()).visits (g s) at hu
  rw [hf, List.append_nil] at hu
  rw [List.mem_singleton.mp hu]

/-- The commit itself is the last statement. -/
theorem commitsLast_commit_bind {f : Unit → Request F β} (hf : ∀ s, (f ()).visits s = []) :
    CommitsLast (commit >>= f) := commitsLast_modify_bind Session.commit hf

theorem commitsLast_commit : CommitsLast (commit : Request F Unit) :=
  fun _ _ hu => congrArg Session.committed (List.mem_singleton.mp hu)

/-- An answer computed after the commit. -/
theorem CommitsLast.bind_pure {x : Request F α} (hx : CommitsLast x) {f : α → Request F β}
    (hf : ∀ a s, (f a).visits s = []) : CommitsLast (x >>= f) := Program.Exposes.bind_pure hx hf

theorem CommitsLast.map {x : Request F α} (hx : CommitsLast x) (f : α → β) :
    CommitsLast (f <$> x) := by
  rw [map_eq_pure_bind]
  exact hx.bind_pure fun _ _ => rfl

/-- The request raises, or the database raises at one of its statements, and the session is closed:
the database afterwards. -/
def RaisesTo (world : World) (r : Request F α) (db db' : Database F) : Prop :=
  (∃ e, serve world r db = (.error e, db')) ∨
    ∃ u ∈ r.visits (Session.sessionLocal world db), u.committed = db'

/-- What commits last leaves no trace when the database raises. -/
theorem CommitsLast.eq_of_interrupted {r : Request F α} (h : CommitsLast r) {world : World}
    {db : Database F} {u : Session F} (hu : u ∈ r.visits (Session.sessionLocal world db)) :
    u.committed = db :=
  h (Session.sessionLocal world db) u hu

end Request

end RaceFrame
