import Mathlib.Algebra.Order.BigOperators.Group.List
import Mathlib.Algebra.Order.Group.Nat
import Mathlib.Algebra.Ring.Nat
import Mathlib.Logic.Relation

/-!
# Tasks over a shared state

A pool is a shared state and the tasks that use it. Tasks arrive at any time, and
any task may take the next step. What every step keeps holds in every pool that
is reached, and what the shared state counts can be compared with what the tasks
add up to.
-/

namespace RaceFrame.Core

variable {σ τ : Type}

/-- A shared state and the tasks that have arrived. -/
structure Pool (σ τ : Type) where
  shared : σ
  tasks : List τ

namespace Pool

variable (arrives : τ → Prop) (step : σ → τ → σ → τ → Prop)

/-- A task arrives, or one of the tasks takes a step. -/
inductive Step : Pool σ τ → Pool σ τ → Prop
  | arrive {s : σ} {tasks : List τ} {task : τ} (h : arrives task) :
    Step ⟨s, tasks⟩ ⟨s, tasks ++ [task]⟩
  | advance {s s' : σ} (before after : List τ) {task task' : τ} (h : step s task s' task') :
    Step ⟨s, before ++ task :: after⟩ ⟨s', before ++ task' :: after⟩

/-- The pools that are reached from a shared state without tasks. -/
def Reached (s : σ) (p : Pool σ τ) : Prop := Relation.ReflTransGen (Step arrives step) ⟨s, []⟩ p

/-- What the tasks add up to. -/
def total (w : τ → Nat) (p : Pool σ τ) : Nat := (p.tasks.map w).sum

theorem total_arrive (w : τ → Nat) (s : σ) (tasks : List τ) (task : τ) :
    total w ⟨s, tasks ++ [task]⟩ = total w ⟨s, tasks⟩ + w task := by
  simp [total]

theorem total_split (w : τ → Nat) (s : σ) (before after : List τ) (task : τ) :
    total w ⟨s, before ++ task :: after⟩ = total w ⟨s, before ++ after⟩ + w task := by
  simp only [total, List.map_append, List.map_cons, List.sum_append, List.sum_cons]
  omega

theorem total_eq_countP (q : τ → Prop) [DecidablePred q] (p : Pool σ τ) :
    p.total (fun task => if q task then 1 else 0) = p.tasks.countP fun task => decide (q task) := by
  rw [total]
  induction p.tasks with
  | nil => rfl
  | cons task tasks ih =>
    rw [List.map_cons, List.sum_cons, List.countP_cons, ih, Nat.add_comm]
    by_cases h : q task
    · rw [if_pos h, if_pos (decide_eq_true h)]
    · rw [if_neg h, if_neg (by rw [decide_eq_false h]; exact Bool.false_ne_true)]

/-- The tasks with a property are no more than what the tasks add up to, if each of them counts. -/
theorem countP_le_total {q : τ → Prop} [DecidablePred q] {w : τ → Nat}
    (h : ∀ task, q task → 1 ≤ w task) (p : Pool σ τ) :
    (p.tasks.countP fun task => decide (q task)) ≤ p.total w := by
  rw [← total_eq_countP]
  refine List.sum_le_sum fun task _ => ?_
  split_ifs with hq
  · exact h task hq
  · exact Nat.zero_le _

variable {arrives step} {s₀ : σ} {p : Pool σ τ}

/-- What holds of each arriving task and is kept by the steps holds of the shared state and of all
tasks. -/
theorem Reached.forall_tasks {I : σ → Prop} {Q : τ → Prop} (hp : Reached arrives step s₀ p)
    (hI : I s₀) (harrive : ∀ task, arrives task → Q task)
    (hstep : ∀ s task s' task', I s → Q task → step s task s' task' → I s' ∧ Q task') :
    I p.shared ∧ ∀ task ∈ p.tasks, Q task := by
  induction hp with
  | refl => exact ⟨hI, fun task h => absurd h List.not_mem_nil⟩
  | tail _ hlast ih =>
    cases hlast with
    | arrive h =>
      refine ⟨ih.1, fun task htask => ?_⟩
      rcases List.mem_append.mp htask with htask | htask
      · exact ih.2 task htask
      · rw [List.mem_singleton.mp htask]
        exact harrive _ h
    | advance before after h =>
      obtain ⟨hI', hQ'⟩ := hstep _ _ _ _ ih.1
        (ih.2 _ (List.mem_append_right _ List.mem_cons_self)) h
      refine ⟨hI', fun task htask => ?_⟩
      rcases List.mem_append.mp htask with htask | htask
      · exact ih.2 task (List.mem_append_left _ htask)
      · rcases List.mem_cons.mp htask with rfl | htask
        · exact hQ'
        · exact ih.2 task (List.mem_append_right _ (List.mem_cons_of_mem _ htask))

/-- What is kept while tasks that satisfy `Q` step from shared states that satisfy `I`. -/
theorem Reached.keeps {I : σ → Prop} {Q : τ → Prop} {P : Pool σ τ → Prop}
    (hp : Reached arrives step s₀ p) (hI : I s₀) (hstart : P ⟨s₀, []⟩)
    (harrive : ∀ task, arrives task →
      Q task ∧ ∀ s tasks, P ⟨s, tasks⟩ → P ⟨s, tasks ++ [task]⟩)
    (hstep : ∀ s task s' task', I s → Q task → step s task s' task' →
      I s' ∧ Q task' ∧ ∀ before after, P ⟨s, before ++ task :: after⟩ →
        P ⟨s', before ++ task' :: after⟩) :
    P p := by
  induction hp with
  | refl => exact hstart
  | tail hbefore hlast ih =>
    cases hlast with
    | arrive h => exact (harrive _ h).2 _ _ ih
    | advance before after h =>
      obtain ⟨hI', hQ'⟩ := Reached.forall_tasks hbefore hI (fun task h => (harrive task h).1)
        fun s task s' task' hs hq h =>
          ⟨(hstep s task s' task' hs hq h).1, (hstep s task s' task' hs hq h).2.1⟩
      have hQtask := hQ' _ (List.mem_append_right _ List.mem_cons_self)
      exact (hstep _ _ _ _ hI' hQtask h).2.2 _ _ ih

/-- A measure of the shared state that grows with every weight that a task gains bounds the weight
of all tasks. -/
theorem Reached.total_le {I : σ → Prop} {Q : τ → Prop} {m : σ → Nat} {w : τ → Nat}
    (hp : Reached arrives step s₀ p) (hI : I s₀)
    (harrive : ∀ task, arrives task → Q task ∧ w task = 0)
    (hstep : ∀ s task s' task', I s → Q task → step s task s' task' →
      I s' ∧ Q task' ∧ m s + w task' ≤ m s' + w task) :
    p.total w ≤ m p.shared := by
  refine @Reached.keeps _ _ _ _ _ _ I Q (fun p => p.total w ≤ m p.shared) hp hI (Nat.zero_le _)
    (fun task h => ⟨(harrive task h).1, fun s tasks ih => ?_⟩)
    fun s task s' task' hs hq h => ⟨(hstep s task s' task' hs hq h).1,
      (hstep s task s' task' hs hq h).2.1, fun before after ih => ?_⟩
  · rw [total_arrive, (harrive task h).2]
    exact ih
  · have hmoved := (hstep s task s' task' hs hq h).2.2
    rw [total_split] at ih ⊢
    simp only [total] at ih ⊢
    omega

/-- A measure of the shared state that changes as the weights of the tasks do is the weight of all
tasks. -/
theorem Reached.total_eq {I : σ → Prop} {Q : τ → Prop} {m : σ → Nat} {w : τ → Nat}
    (hp : Reached arrives step s₀ p) (hI : I s₀) (hm : m s₀ = 0)
    (harrive : ∀ task, arrives task → Q task ∧ w task = 0)
    (hstep : ∀ s task s' task', I s → Q task → step s task s' task' →
      I s' ∧ Q task' ∧ (w task ≤ m s → m s' + w task = m s + w task')) :
    p.total w = m p.shared := by
  refine @Reached.keeps _ _ _ _ _ _ I Q (fun p => p.total w = m p.shared) hp hI hm.symm
    (fun task h => ⟨(harrive task h).1, fun s tasks ih => ?_⟩)
    fun s task s' task' hs hq h => ⟨(hstep s task s' task' hs hq h).1,
      (hstep s task s' task' hs hq h).2.1, fun before after ih => ?_⟩
  · rw [total_arrive, (harrive task h).2]
    exact ih
  · rw [total_split] at ih ⊢
    simp only [total] at ih ⊢
    have hmoved := (hstep s task s' task' hs hq h).2.2 (by omega)
    omega

/-! ## Computing a run -/

/-- The task at a place takes the step that a function computes. -/
def advanceAt (next : σ → τ → Option (σ × τ)) (p : Pool σ τ) (i : Nat) : Option (Pool σ τ) :=
  p.tasks[i]?.bind fun task =>
    (next p.shared task).map fun moved => ⟨moved.1, p.tasks.set i moved.2⟩

/-- A computed step leads to a pool that is reached. -/
theorem Reached.advanceAt {next : σ → τ → Option (σ × τ)} {i : Nat} {p' : Pool σ τ}
    (hp : Reached arrives step s₀ p)
    (hnext : ∀ task s' task', next p.shared task = some (s', task') → step p.shared task s' task')
    (h : p.advanceAt next i = some p') : Reached arrives step s₀ p' := by
  obtain ⟨s, tasks⟩ := p
  obtain ⟨task, htask, h⟩ := Option.bind_eq_some_iff.mp h
  obtain ⟨⟨s', task'⟩, hmoved, rfl⟩ := Option.map_eq_some_iff.mp h
  obtain ⟨hi, rfl⟩ := List.getElem?_eq_some_iff.mp htask
  have hsplit : tasks = tasks.take i ++ tasks[i] :: tasks.drop (i + 1) := by
    rw [← List.drop_eq_getElem_cons hi, List.take_append_drop]
  dsimp only
  rw [List.set_eq_take_append_cons_drop, if_pos hi]
  rw [hsplit] at hp
  exact hp.tail (.advance (tasks.take i) (tasks.drop (i + 1)) (hnext _ _ _ hmoved))

end Pool

end RaceFrame.Core
