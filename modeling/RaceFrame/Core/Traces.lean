import RaceFrame.Core.Program

/-!
# Traces of programs

The trace of a program is the states in which it issues a statement, and the one
it ends in. `Leads R P x Q` says that from a state with `P` each state is related
by `R` to all that come after it, whether the program returns or raises, and that
`Q` holds of the result and the last state where it returns. For a preorder `R`
the rules follow the structure of the program.
-/

namespace RaceFrame.Core.Program

variable {σ τ ε α β γ : Type}

/-- The states in which a statement is issued, and the last one. -/
def trace (x : Program σ ε α) (s : σ) : List σ := x.visits s ++ [(x.run s).2]

/-- A relation of states, as one of larger states. -/
def Along (f : τ → σ) (R : σ → σ → Prop) (s t : τ) : Prop := R (f s) (f t)

instance (f : τ → σ) (R : σ → σ → Prop) [Std.Refl R] : Std.Refl (Along f R) :=
  ⟨fun s => Std.Refl.refl (f s)⟩

instance (f : τ → σ) (R : σ → σ → Prop) [IsTrans σ R] : IsTrans τ (Along f R) :=
  ⟨fun _ _ _ h h' => IsTrans.trans (r := R) _ _ _ h h'⟩

/-- The program goes along `R` from states with `P`, and returns with `Q`. -/
def Leads (R : σ → σ → Prop) (P : σ → Prop) (x : Program σ ε α) (Q : α → σ → Prop) : Prop :=
  ∀ s, P s → (s :: x.trace s).Pairwise R ∧ ∀ a, (x.run s).1 = .ok a → Q a (x.run s).2

/-- A program on a part of the state: `get` reads the part and `put` writes it back. -/
def onPart (get : σ → τ) (put : τ → σ → σ) (x : Program τ ε α) : Program σ ε α where
  run s := ((x.run (get s)).1, put (x.run (get s)).2 s)
  visits s := (x.visits (get s)).map fun t => put t s

theorem trace_onPart (get : σ → τ) (put : τ → σ → σ) (x : Program τ ε α) (s : σ) :
    (x.onPart get put).trace s = (x.trace (get s)).map fun t => put t s := by
  rw [trace, trace, List.map_append]
  rfl

theorem trace_bind_ok {x : Program σ ε α} {f : α → Program σ ε β} {s t : σ} {a : α}
    (h : x.run s = (.ok a, t)) : (x >>= f).trace s = x.visits s ++ (f a).trace t := by
  rw [trace, visits_bind, run_bind, h, trace, List.append_assoc]

theorem trace_bind_error {x : Program σ ε α} {f : α → Program σ ε β} {s t : σ} {e : ε}
    (h : x.run s = (.error e, t)) : (x >>= f).trace s = x.trace s := by
  rw [trace, visits_bind, run_bind, h, trace, h, List.append_nil]

/-- Two chains that meet in a state are one chain. -/
theorem pairwise_join {R : σ → σ → Prop} [IsTrans σ R] {l m : List σ} {t : σ}
    (hl : (l ++ [t]).Pairwise R) (hm : (t :: m).Pairwise R) : (l ++ m).Pairwise R := by
  obtain ⟨hl, -, hlt⟩ := List.pairwise_append.mp hl
  obtain ⟨htm, hm⟩ := List.pairwise_cons.mp hm
  refine List.pairwise_append.mpr ⟨hl, hm, fun u hu v hv => ?_⟩
  exact IsTrans.trans _ _ _ (hlt u hu t List.mem_cons_self) (htm v hv)

section Rules

variable {R : σ → σ → Prop} {P P' : σ → Prop} {x : Program σ ε α} {Q Q' : α → σ → Prop}

theorem Leads.pairwise (h : Leads R P x Q) {s : σ} (hs : P s) : (s :: x.trace s).Pairwise R :=
  (h s hs).1

/-- Less is asked before and promised after. -/
theorem Leads.imp (h : Leads R P x Q) (hP : ∀ s, P' s → P s) (hQ : ∀ a s, Q a s → Q' a s) :
    Leads R P' x Q' :=
  fun s hs => ⟨(h s (hP s hs)).1, fun a ha => hQ a _ ((h s (hP s hs)).2 a ha)⟩

/-- A property that the relation carries holds at the end if it holds at the start. -/
theorem Leads.carry {I : σ → Prop} (h : Leads R P x Q) (hI : ∀ s u, R s u → I s → I u) :
    Leads R (fun s => P s ∧ I s) x fun a s => Q a s ∧ I s := by
  refine fun s hs => ⟨(h s hs.1).1, fun a ha => ⟨(h s hs.1).2 a ha, ?_⟩⟩
  have hall := (List.pairwise_cons.mp (h.pairwise hs.1)).1
  exact hI s _ (hall _ (List.mem_append_right _ List.mem_cons_self)) hs.2

/-- What is known before may decide which program is meant. -/
theorem leads_of_forall (h : ∀ s, P s → Leads R (fun t => t = s) x Q) : Leads R P x Q :=
  fun s hs => h s hs s rfl

/-- What keeps a projection stays where the projection alone decides. -/
theorem Preserves.leads {π : σ → γ} {Q : σ → Prop} (hx : Preserves π x)
    (hR : ∀ s u, π s = π u → R s u) (hQ : ∀ s u, P s → π u = π s → Q u) :
    Leads R P x fun _ => Q := by
  intro s hs
  obtain ⟨hvisits, hend⟩ := hx s
  have hsame : ∀ u ∈ s :: x.trace s, π u = π s := by
    intro u hu
    rcases List.mem_cons.mp hu with rfl | hu
    · rfl
    · rcases List.mem_append.mp hu with hu | hu
      · exact hvisits u hu
      · rw [List.mem_singleton.mp hu]
        exact hend
  refine ⟨List.pairwise_iff_forall_sublist.mpr fun {u v} huv => ?_, fun _ _ => hQ s _ hs hend⟩
  have hu := hsame u (huv.subset List.mem_cons_self)
  have hv := hsame v (huv.subset (List.mem_cons_of_mem u List.mem_cons_self))
  exact hR u v (hu.trans hv.symm)

/-- What keeps a projection goes along every relation of it. -/
theorem Preserves.leads_along {R : τ → τ → Prop} [Std.Refl R] {π : σ → τ} (hx : Preserves π x) :
    Leads (Along π R) P x fun _ _ => True := by
  refine hx.leads (fun s u hsame => ?_) fun _ _ _ _ => trivial
  change R (π s) (π u)
  rw [hsame]
  exact Std.Refl.refl (π u)

theorem Preserves.attempt {π : σ → γ} (hx : Preserves π x) : Preserves π x.attempt := hx

/-- What goes along the equality of a projection keeps it. -/
theorem Leads.preserves {π : σ → γ} (h : Leads (Along π Eq) (fun _ => True) x Q) :
    Preserves π x := by
  intro s
  have hall := (List.pairwise_cons.mp (h.pairwise (s := s) trivial)).1
  refine ⟨fun u hu => (hall u (List.mem_append_left _ hu)).symm, ?_⟩
  exact (hall _ (List.mem_append_right _ List.mem_cons_self)).symm

/-- A handler learns whether the program has returned. -/
theorem Leads.attempt (h : Leads R P x Q) :
    Leads R P x.attempt fun outcome s => ∀ a, outcome = .ok a → Q a s := by
  refine fun s hs => ⟨(h s hs).1, fun outcome houtcome a ha => ?_⟩
  cases houtcome
  exact (h s hs).2 a ha

/-- What the first part returns with is what the second starts with. -/
theorem Leads.bind [IsTrans σ R] {f : α → Program σ ε β} {Q' : β → σ → Prop} (hx : Leads R P x Q)
    (hf : ∀ a, Leads R (Q a) (f a) Q') : Leads R P (x >>= f) Q' := by
  intro s hs
  obtain ⟨htrace, hpost⟩ := hx s hs
  rcases hr : x.run s with ⟨e | a, t⟩
  · rw [trace_bind_error hr, run_bind_error hr]
    exact ⟨htrace, fun _ hb => nomatch hb⟩
  · rw [hr] at hpost
    obtain ⟨hrest, hend⟩ := hf a t (hpost a rfl)
    rw [trace_bind_ok hr, run_bind_ok hr]
    refine ⟨?_, hend⟩
    rw [← List.cons_append]
    refine pairwise_join ?_ hrest
    rwa [trace, hr] at htrace

theorem Leads.ite {c : Prop} [Decidable c] {y : Program σ ε α} (hx : Leads R P x Q)
    (hy : Leads R P y Q) : Leads R P (if c then x else y) Q := by
  by_cases hc : c
  · simpa only [if_pos hc] using hx
  · simpa only [if_neg hc] using hy

/-- A handler goes on from what is raised, about which nothing is known, or from the result. -/
theorem Leads.attempt_bind [IsTrans σ R] {f : Except ε α → Program σ ε β} {Q' : β → σ → Prop}
    (hx : Leads R P x Q) (herror : ∀ e, Leads R (fun _ => True) (f (.error e)) Q')
    (hok : ∀ a, Leads R (Q a) (f (.ok a)) Q') : Leads R P (x.attempt >>= f) Q' := by
  refine hx.attempt.bind fun outcome => ?_
  cases outcome with
  | error e => exact (herror e).imp (fun _ _ => trivial) fun _ _ h => h
  | ok a => exact (hok a).imp (fun _ hs => hs a rfl) fun _ _ h => h

variable [Std.Refl R]

theorem leads_pure {a : α} (h : ∀ s, P s → Q a s) : Leads R P (pure a : Program σ ε α) Q := by
  refine fun s hs => ⟨List.pairwise_pair.mpr (Std.Refl.refl s), fun b hb => ?_⟩
  cases hb
  exact h s hs

theorem leads_raise (e : ε) : Leads R P (raise e : Program σ ε α) Q :=
  fun s _ => ⟨List.pairwise_pair.mpr (Std.Refl.refl s), fun _ hb => nomatch hb⟩

theorem leads_gets {f : σ → α} (h : ∀ s, P s → Q (f s) s) :
    Leads R P (gets f : Program σ ε α) Q := by
  have hrefl := Std.Refl.refl (r := R)
  refine fun s hs => ⟨?_, fun b hb => ?_⟩
  · change [s, s, s].Pairwise R
    simp [hrefl]
  · cases hb
    exact h s hs

theorem leads_modify {f : σ → σ} {Q : Unit → σ → Prop} (hR : ∀ s, P s → R s (f s))
    (h : ∀ s, P s → Q () (f s)) : Leads R P (modify f : Program σ ε Unit) Q := by
  have hrefl := Std.Refl.refl (r := R)
  refine fun s hs => ⟨?_, fun _ _ => h s hs⟩
  change [s, s, f s].Pairwise R
  simp [hrefl, hR s hs]

/-- The value that is read is one of a state with the property. -/
theorem leads_gets_bind [IsTrans σ R] {g : σ → β} {f : β → Program σ ε α}
    (hf : ∀ b, Leads R (fun s => P s ∧ g s = b) (f b) Q) : Leads R P (gets g >>= f) Q :=
  (leads_gets fun _ hs => ⟨hs, rfl⟩).bind hf

theorem Leads.discard [IsTrans σ R] {Q' : σ → Prop} (h : Leads R P x fun _ => Q') :
    Leads R P (Functor.discard x) fun _ => Q' := by
  rw [discard_eq]
  exact h.bind fun _ => leads_pure fun _ hs => hs

end Rules

/-- A program on a part goes along the relation of the parts. -/
theorem Leads.onPart {R : σ → σ → Prop} {P : σ → Prop} {x : Program τ ε α} {Q : α → σ → Prop}
    {get : σ → τ} {put : τ → σ → σ} (hput : ∀ s, put (get s) s = s)
    (h : ∀ s, P s →
      Leads (Along (fun t => put t s) R) (fun t => t = get s) x fun a t => Q a (put t s)) :
    Leads R P (x.onPart get put) Q := by
  intro s hs
  obtain ⟨htrace, hend⟩ := h s hs (get s) rfl
  refine ⟨?_, hend⟩
  have hmap : ((get s :: x.trace (get s)).map fun t => put t s).Pairwise R :=
    List.pairwise_map.mpr htrace
  rwa [List.map_cons, hput, ← trace_onPart get] at hmap

end RaceFrame.Core.Program
