import RaceFrame.Core.Invariants
import RaceFrame.Orm.Session

/-!
# Invariants of a request

A session shows what is committed and two views of its own. `Maintains P Q` says
of a request that it keeps `P` of what is committed as long as its own views have
`Q`, which implies `P` where the request commits. The rules follow the statements
of a request; a read hands over what is known of the value.
-/

namespace RaceFrame

open Core

variable {F α β : Type} {P Q : Database F → Prop}

/-- A property of what is committed and one of the views of the session itself. -/
structure Session.Every (P Q : Database F → Prop) (s : Session F) : Prop where
  committed : P s.committed
  flushed : Q s.flushed
  current : Q s.current

namespace Request

/-- The request keeps what is known of the views of its session, also when it raises. -/
def Maintains (P Q : Database F → Prop) (x : Request F α) : Prop :=
  Program.Maintains (Session.Every P Q) x

/-- What a request leaves committed has the property that it maintains. -/
theorem Maintains.serve {x : Request F α} (hx : Maintains P P x) (world : World) {db : Database F}
    (h : P db) : P (serve world x db).2 :=
  (hx (Session.sessionLocal world db) ⟨h, h, h⟩).committed

theorem maintains_query (q : Database F → α) : Maintains P Q (query q) :=
  Program.maintains_gets _

theorem maintains_loaded (q : Database F → α) : Maintains P Q (loaded q) :=
  Program.maintains_gets _

/-- A `SELECT` sees a database with the property of the session's own views. -/
theorem maintains_query_bind (q : Database F → α) {f : α → Request F β}
    (hf : ∀ db, Q db → Maintains P Q (f (q db))) : Maintains P Q (query q >>= f) :=
  Program.maintains_gets_bind _ fun s hs => hf s.flushed hs.flushed

theorem maintains_loaded_bind (q : Database F → α) {f : α → Request F β}
    (hf : ∀ db, Q db → Maintains P Q (f (q db))) : Maintains P Q (loaded q >>= f) :=
  Program.maintains_gets_bind _ fun s hs => hf s.current hs.current

/-- A missing value ends the request. -/
theorem maintains_ofOption_bind (e : Raised) (o : Option α) {f : α → Request F β}
    (hf : ∀ a, o = some a → Maintains P Q (f a)) : Maintains P Q (ofOption e o >>= f) := by
  cases o with
  | none => exact fun _ hs => hs
  | some a => exact hf a rfl

theorem maintains_ofOption (e : Raised) (o : Option α) :
    Maintains P Q (ofOption e o : Request F α) := by
  cases o with
  | none => exact Program.maintains_raise e
  | some a => exact Program.maintains_pure a

/-- An exception as a result ends the request. -/
theorem maintains_ofExcept_bind (r : Except Raised α) {f : α → Request F β}
    (hf : ∀ a, r = .ok a → Maintains P Q (f a)) : Maintains P Q (ofExcept r >>= f) := by
  cases r with
  | error e => exact fun _ hs => hs
  | ok a => exact hf a rfl

theorem maintains_oneOrNone (rows : List α) :
    Maintains P Q (oneOrNone rows : Request F (Option α)) := by
  unfold oneOrNone
  split
  · exact Program.maintains_pure _
  · exact Program.maintains_pure _
  · exact Program.maintains_raise _

/-- Assignments change the last view only. -/
theorem maintains_assign {f : Database F → Database F} (h : ∀ db, Q db → Q (f db)) :
    Maintains P Q (assign f) :=
  fun _ hs => ⟨hs.committed, hs.flushed, h _ hs.current⟩

/-- An assignment of what the loaded objects give: without it the request ends. -/
theorem maintains_loaded_assign (e : Raised) (q : Database F → Option β)
    {f : β → Database F → Database F} (h : ∀ db b, Q db → q db = some b → Q (f b db)) :
    Maintains P Q (loaded q >>= fun o => ofOption e o >>= fun b => assign (f b)) := by
  intro s hs
  rw [run_loaded_bind]
  cases hq : q s.current with
  | none => exact hs
  | some b => exact ⟨hs.committed, hs.flushed, h s.current b hs.current hq⟩

/-- A statement changes both views of the session. -/
theorem maintains_execute {f : Database F → Database F} (h : ∀ db, Q db → Q (f db)) :
    Maintains P Q (execute f) :=
  fun _ hs => ⟨hs.committed, h _ hs.flushed, h _ hs.current⟩

theorem maintains_flush : Maintains P Q (flush : Request F Unit) :=
  fun _ hs => ⟨hs.committed, hs.current, hs.current⟩

/-- A commit needs the property of what is committed. -/
theorem maintains_commit (h : ∀ db, Q db → P db) : Maintains P Q (commit : Request F Unit) :=
  fun _ hs => ⟨h _ hs.current, hs.current, hs.current⟩

theorem maintains_utcNow : Maintains P Q (utcNow : Request F Instant) :=
  fun _ hs => ⟨hs.committed, hs.flushed, hs.current⟩

theorem maintains_uuid4 : Maintains P Q (uuid4 : Request F Uuid) :=
  fun _ hs => ⟨hs.committed, hs.flushed, hs.current⟩

end Request

end RaceFrame
