import Mathlib.Data.List.Basic

/-!
# Transactions under READ COMMITTED

Several transactions run the statements of their code, in an order that a
schedule decides. A statement reads what is committed when it runs, with the
transaction's own writes on top; the writes of a transaction reach the others
when it commits. Transactions that would wait for each other's row locks write
the same rows; the systems here are used for transactions that do not.
-/

namespace RaceFrame.Core

/-- A statement of a transaction with memory `σ` on a database `δ`. -/
inductive Statement (δ σ : Type)
  /-- A `SELECT`: its result goes to the memory. -/
  | read (f : δ → σ → σ)
  /-- A data-changing statement, which may use the memory. -/
  | write (f : σ → δ → δ)
  | commit

/-- A transaction in progress. -/
structure Transaction (δ σ : Type) where
  /-- The statements that are left. -/
  code : List (Statement δ σ)
  memory : σ
  /-- The uncommitted writes. -/
  writes : δ → δ

/-- A database and the transactions on it. -/
structure System (ι δ σ : Type) where
  committed : δ
  transactions : ι → Transaction δ σ

namespace System

variable {ι δ σ : Type} [DecidableEq ι]

/-- What a statement of the transaction sees. -/
def view (s : System ι δ σ) (i : ι) : δ := (s.transactions i).writes s.committed

/-- Replace one transaction. -/
def put (s : System ι δ σ) (i : ι) (t : Transaction δ σ) : System ι δ σ :=
  { s with transactions := fun j => if j = i then t else s.transactions j }

/-- Run the next statement of a transaction; a finished transaction has none. -/
def step (s : System ι δ σ) (i : ι) : System ι δ σ :=
  let t := s.transactions i
  match t.code with
  | [] => s
  | .read f :: code => s.put i { t with code := code, memory := f (s.view i) t.memory }
  | .write f :: code =>
    s.put i { t with code := code, writes := fun db => f t.memory (t.writes db) }
  | .commit :: code => { s.put i { t with code := code, writes := id } with committed := s.view i }

/-- Run the statements in the order of a schedule. -/
def run (s : System ι δ σ) (schedule : List ι) : System ι δ σ := schedule.foldl step s

/-- The system in which nothing has run yet. -/
def start (db : δ) (code : ι → List (Statement δ σ)) (memory : σ) : System ι δ σ where
  committed := db
  transactions i := ⟨code i, memory, id⟩

@[simp] theorem put_committed (s : System ι δ σ) (i : ι) (t : Transaction δ σ) :
    (s.put i t).committed = s.committed := rfl

@[simp] theorem put_self (s : System ι δ σ) (i : ι) (t : Transaction δ σ) :
    (s.put i t).transactions i = t := by
  simp [put]

theorem put_ne (s : System ι δ σ) {i j : ι} (h : j ≠ i) (t : Transaction δ σ) :
    (s.put i t).transactions j = s.transactions j := by
  simp [put, h]

theorem step_nil {s : System ι δ σ} {i : ι} (h : (s.transactions i).code = []) : s.step i = s := by
  simp [step, h]

theorem step_read {s : System ι δ σ} {i : ι} {f : δ → σ → σ} {code : List (Statement δ σ)}
    (h : (s.transactions i).code = .read f :: code) :
    s.step i = s.put i
      { s.transactions i with code := code, memory := f (s.view i) (s.transactions i).memory } := by
  simp [step, h]

theorem step_write {s : System ι δ σ} {i : ι} {f : σ → δ → δ} {code : List (Statement δ σ)}
    (h : (s.transactions i).code = .write f :: code) :
    s.step i = s.put i
      { s.transactions i with
        code := code
        writes := fun db => f (s.transactions i).memory ((s.transactions i).writes db) } := by
  simp [step, h]

theorem step_commit {s : System ι δ σ} {i : ι} {code : List (Statement δ σ)}
    (h : (s.transactions i).code = .commit :: code) :
    s.step i =
      { s.put i { s.transactions i with code := code, writes := id } with
        committed := s.view i } := by
  simp [step, h]

/-- A step leaves the other transactions as they are. -/
theorem step_ne (s : System ι δ σ) {i j : ι} (h : j ≠ i) :
    (s.step i).transactions j = s.transactions j := by
  cases hcode : (s.transactions i).code with
  | nil => rw [step_nil hcode]
  | cons statement code =>
    cases statement with
    | read f =>
      rw [step_read hcode]
      exact put_ne s h _
    | write f =>
      rw [step_write hcode]
      exact put_ne s h _
    | commit =>
      rw [step_commit hcode]
      exact put_ne s h _

@[simp] theorem run_nil (s : System ι δ σ) : s.run [] = s := rfl

theorem run_append (s : System ι δ σ) (schedule schedule' : List ι) :
    s.run (schedule ++ schedule') = (s.run schedule).run schedule' :=
  List.foldl_append

@[simp] theorem run_singleton (s : System ι δ σ) (i : ι) : s.run [i] = s.step i := rfl

end System

end RaceFrame.Core
