import Mathlib.Order.Lattice
import RaceFrame.Search.BibEvidence
import RaceFrame.Text.Readings

/-!
# The strength of bib evidence

`score_bib_evidence` returns at the first exact candidate and collects partial
ones meanwhile; `exact_bib_match_values` reads every candidate. Both decide
detection by detection: the strength of a list is the maximum of the strengths of
its members.
-/

namespace RaceFrame

open Core

variable {F : Type}

/-- The place of a strength in the order none, weak, strong. -/
def BibStrength.rank : BibStrength → Nat
  | .none => 0
  | .weak => 1
  | .strong => 2

instance : LinearOrder BibStrength :=
  LinearOrder.lift' BibStrength.rank (by intro a b; cases a <;> cases b <;> decide)

theorem BibStrength.none_le (strength : BibStrength) : .none ≤ strength := Nat.zero_le strength.rank

/-- A text has the bib among its candidates. -/
def ReadsExactly (target : Text) (detection : PhotoTextDetection F) : Prop :=
  target ∈ Face.extractMatchCandidates detection.detectedText

/-- A text has a partial match of the bib among its candidates. -/
def ReadsPartly (target : Text) (detection : PhotoTextDetection F) : Prop :=
  ∃ candidate ∈ Face.extractMatchCandidates detection.detectedText,
    isPartialBibMatch candidate target = true

theorem mem_detectedCandidates {detections : List (PhotoTextDetection F)} {c : Text × Text} :
    c ∈ detectedCandidates detections ↔ ∃ detection ∈ detections,
      c.1 ∈ Face.extractMatchCandidates detection.detectedText ∧
        detection.detectedText = c.2 := by
  rw [detectedCandidates, List.mem_flatMap]
  refine exists_congr fun detection => and_congr_right fun _ => ?_
  rw [List.mem_map]
  constructor
  · rintro ⟨candidate, hcandidate, rfl⟩
    exact ⟨hcandidate, rfl⟩
  · rintro ⟨hcandidate, htext⟩
    exact ⟨c.1, hcandidate, Prod.ext rfl htext⟩

/-- What `score_bib_evidence` returns: the first exact reading, or else the first three partial
ones. -/
theorem scoreBibEvidence_cases (detections : List (PhotoTextDetection F)) (bibNumber : Text) :
    let target := Face.normalizeMatchToken bibNumber
    let evidence := scoreBibEvidence detections bibNumber
    (target = [] ∧ evidence = ⟨.none, []⟩) ∨
      (target ≠ [] ∧ ∃ detection ∈ detections, ReadsExactly target detection ∧
        evidence = ⟨.strong, [detection.detectedText]⟩) ∨
      (target ≠ [] ∧ (∀ detection ∈ detections, ¬ ReadsExactly target detection) ∧
        ((evidence = ⟨.none, []⟩ ∧ ∀ detection ∈ detections, ¬ ReadsPartly target detection) ∨
          (evidence.strength = .weak ∧ evidence.matchedValues ≠ [] ∧
            ∀ value ∈ evidence.matchedValues, ∃ detection ∈ detections,
              ReadsPartly target detection ∧ detection.detectedText = value))) := by
  intro target evidence
  have hevidence : evidence = scoreBibEvidence detections bibNumber := rfl
  unfold scoreBibEvidence at hevidence
  dsimp only at hevidence
  change evidence = if target.isEmpty then _ else _ at hevidence
  by_cases hempty : target = []
  · rw [if_pos (by simpa using hempty)] at hevidence
    exact Or.inl ⟨hempty, hevidence⟩
  · rw [if_neg (by simpa using hempty)] at hevidence
    refine Or.inr ?_
    cases hfound : (detectedCandidates detections).find? fun c => c.1 == target with
    | some exact =>
      rw [hfound] at hevidence
      obtain ⟨detection, hdetection, hcandidate, htext⟩ :=
        mem_detectedCandidates.mp (List.mem_of_find?_eq_some hfound)
      have hexact : exact.1 = target := by simpa using List.find?_some hfound
      refine Or.inl ⟨hempty, detection, hdetection, hexact ▸ hcandidate, ?_⟩
      rw [hevidence, htext]
    | none =>
      rw [hfound] at hevidence
      have hnone : ∀ detection ∈ detections, ¬ ReadsExactly target detection := by
        intro detection hdetection hreads
        have hmem : (target, detection.detectedText) ∈ detectedCandidates detections :=
          mem_detectedCandidates.mpr ⟨detection, hdetection, hreads, rfl⟩
        simpa using List.find?_eq_none.mp hfound _ hmem
      refine Or.inr ⟨hempty, hnone, ?_⟩
      generalize hweak : ((detectedCandidates detections).filter fun c =>
        isPartialBibMatch c.1 target).map Prod.snd = weakMatches at hevidence
      have hmem : ∀ value, value ∈ weakMatches ↔ ∃ detection ∈ detections,
          ReadsPartly target detection ∧ detection.detectedText = value := by
        intro value
        rw [← hweak, List.mem_map]
        constructor
        · rintro ⟨c, hc, rfl⟩
          obtain ⟨hc, hpartial⟩ := List.mem_filter.mp hc
          obtain ⟨detection, hdetection, hcandidate, htext⟩ := mem_detectedCandidates.mp hc
          exact ⟨detection, hdetection, ⟨c.1, hcandidate, hpartial⟩, htext⟩
        · rintro ⟨detection, hdetection, ⟨candidate, hcandidate, hpartial⟩, htext⟩
          refine ⟨(candidate, value), List.mem_filter.mpr ⟨?_, hpartial⟩, rfl⟩
          exact mem_detectedCandidates.mpr ⟨detection, hdetection, hcandidate, htext⟩
      cases weakMatches with
      | nil =>
        refine Or.inl ⟨hevidence, fun detection hdetection hreads => ?_⟩
        exact absurd ((hmem _).mpr ⟨detection, hdetection, hreads, rfl⟩) List.not_mem_nil
      | cons value values =>
        refine Or.inr ?_
        rw [hevidence]
        exact ⟨rfl, List.cons_ne_nil _ _, fun v hv => (hmem v).mp (List.mem_of_mem_take hv)⟩

/-- Strong evidence is an exact reading. -/
theorem strength_eq_strong_iff (detections : List (PhotoTextDetection F)) (bibNumber : Text) :
    (scoreBibEvidence detections bibNumber).strength = .strong ↔
      Face.normalizeMatchToken bibNumber ≠ [] ∧
        ∃ detection ∈ detections, ReadsExactly (Face.normalizeMatchToken bibNumber) detection := by
  rcases scoreBibEvidence_cases detections bibNumber with
    ⟨hempty, hnone⟩ | ⟨htarget, detection, hdetection, hreads, hstrong⟩ |
      ⟨htarget, hnone, ⟨heq, -⟩ | ⟨hweak, -⟩⟩
  · rw [hnone]
    exact iff_of_false BibStrength.noConfusion fun h => h.1 hempty
  · rw [hstrong]
    exact iff_of_true rfl ⟨htarget, detection, hdetection, hreads⟩
  · rw [heq]
    exact iff_of_false BibStrength.noConfusion fun ⟨_, detection, hdetection, hreads⟩ =>
      hnone detection hdetection hreads
  · rw [hweak]
    exact iff_of_false BibStrength.noConfusion fun ⟨_, detection, hdetection, hreads⟩ =>
      hnone detection hdetection hreads

/-- Evidence of some strength is an exact or a partial reading. -/
theorem strength_ne_none_iff (detections : List (PhotoTextDetection F)) (bibNumber : Text) :
    (scoreBibEvidence detections bibNumber).strength ≠ .none ↔
      Face.normalizeMatchToken bibNumber ≠ [] ∧ ∃ detection ∈ detections,
        ReadsExactly (Face.normalizeMatchToken bibNumber) detection ∨
          ReadsPartly (Face.normalizeMatchToken bibNumber) detection := by
  rcases scoreBibEvidence_cases detections bibNumber with
    ⟨hempty, hnone⟩ | ⟨htarget, detection, hdetection, hreads, hstrong⟩ |
      ⟨htarget, hnone, ⟨heq, hnotPartly⟩ | ⟨hweak, hvalues, hpartly⟩⟩
  · rw [hnone]
    exact iff_of_false (fun h => h rfl) fun h => h.1 hempty
  · rw [hstrong]
    exact iff_of_true BibStrength.noConfusion ⟨htarget, detection, hdetection, Or.inl hreads⟩
  · rw [heq]
    refine iff_of_false (fun h => h rfl) ?_
    rintro ⟨-, detection, hdetection, hreads | hreads⟩
    · exact hnone detection hdetection hreads
    · exact hnotPartly detection hdetection hreads
  · rw [hweak]
    obtain ⟨value, hvalue⟩ := List.exists_mem_of_ne_nil _ hvalues
    obtain ⟨detection, hdetection, hreads, -⟩ := hpartly value hvalue
    exact iff_of_true BibStrength.noConfusion ⟨htarget, detection, hdetection, Or.inr hreads⟩

/-- A list reaches a strength exactly when one of its members does. -/
theorem le_strength_iff (bound : BibStrength) (detections : List (PhotoTextDetection F))
    (bibNumber : Text) :
    bound ≤ (scoreBibEvidence detections bibNumber).strength ↔
      bound = .none ∨ ∃ detection ∈ detections,
        bound ≤ (scoreBibEvidence [detection] bibNumber).strength := by
  have hstrong : ∀ strength : BibStrength, .strong ≤ strength ↔ strength = .strong := by
    intro strength
    cases strength <;> decide
  have hweak : ∀ strength : BibStrength, .weak ≤ strength ↔ strength ≠ .none := by
    intro strength
    cases strength <;> decide
  cases bound with
  | none => exact iff_of_true (BibStrength.none_le _) (Or.inl rfl)
  | weak =>
    simp only [hweak, strength_ne_none_iff, List.mem_singleton, exists_eq_left]
    constructor
    · rintro ⟨htarget, detection, hdetection, hreads⟩
      exact Or.inr ⟨detection, hdetection, htarget, hreads⟩
    · rintro (hnone | ⟨detection, hdetection, htarget, hreads⟩)
      · cases hnone
      · exact ⟨htarget, detection, hdetection, hreads⟩
  | strong =>
    simp only [hstrong, strength_eq_strong_iff, List.mem_singleton, exists_eq_left]
    constructor
    · rintro ⟨htarget, detection, hdetection, hreads⟩
      exact Or.inr ⟨detection, hdetection, htarget, hreads⟩
    · rintro (hnone | ⟨detection, hdetection, htarget, hreads⟩)
      · cases hnone
      · exact ⟨htarget, detection, hdetection, hreads⟩

private theorem le_foldr_max {bound : BibStrength} {strengths : List BibStrength} :
    bound ≤ strengths.foldr max .none ↔ bound = .none ∨ ∃ s ∈ strengths, bound ≤ s := by
  induction strengths with
  | nil =>
    rw [List.foldr_nil]
    cases bound <;> decide
  | cons s strengths ih =>
    rw [List.foldr_cons, le_max_iff, ih, List.exists_mem_cons_iff]
    exact or_left_comm

/-- The strength of a list is the maximum of the strengths of its members. -/
theorem strength_eq_foldr_max (detections : List (PhotoTextDetection F)) (bibNumber : Text) :
    (scoreBibEvidence detections bibNumber).strength =
      (detections.map fun detection =>
        (scoreBibEvidence [detection] bibNumber).strength).foldr max .none := by
  refine eq_of_forall_le_iff fun bound => ?_
  rw [le_strength_iff, le_foldr_max]
  simp

/-- Every value that is reported is the text of a detection with the reported strength. -/
theorem of_mem_matchedValues {detections : List (PhotoTextDetection F)} {bibNumber value : Text}
    (h : value ∈ (scoreBibEvidence detections bibNumber).matchedValues) :
    ∃ detection ∈ detections, detection.detectedText = value ∧
      (scoreBibEvidence [detection] bibNumber).strength =
        (scoreBibEvidence detections bibNumber).strength := by
  rcases scoreBibEvidence_cases detections bibNumber with
    ⟨-, hnone⟩ | ⟨htarget, detection, hdetection, hreads, hstrong⟩ |
      ⟨htarget, hnone, ⟨heq, -⟩ | ⟨hweak, -, hpartly⟩⟩
  · rw [hnone] at h
    exact absurd h List.not_mem_nil
  · rw [hstrong] at h ⊢
    refine ⟨detection, hdetection, (List.mem_singleton.mp h).symm, ?_⟩
    exact (strength_eq_strong_iff _ _).mpr ⟨htarget, detection, List.mem_singleton_self _, hreads⟩
  · rw [heq] at h
    exact absurd h List.not_mem_nil
  · obtain ⟨detection, hdetection, hreads, htext⟩ := hpartly value h
    refine ⟨detection, hdetection, htext, ?_⟩
    have hsome : (scoreBibEvidence [detection] bibNumber).strength ≠ .none :=
      (strength_ne_none_iff _ _).mpr
        ⟨htarget, detection, List.mem_singleton_self _, Or.inr hreads⟩
    have hnotStrong : (scoreBibEvidence [detection] bibNumber).strength ≠ .strong := by
      rw [Ne, strength_eq_strong_iff]
      rintro ⟨-, other, hother, hexact⟩
      rw [List.mem_singleton.mp hother] at hexact
      exact hnone detection hdetection hexact
    rw [hweak]
    revert hsome hnotStrong
    cases (scoreBibEvidence [detection] bibNumber).strength <;> decide

/-! ## The exact readings -/

private theorem mem_foldl_exact {target value : Text} (candidates : List (Text × Text))
    (seen : List Text) :
    value ∈ candidates.foldl (fun seen c =>
      if c.1 != target || seen.contains c.2 then seen else seen ++ [c.2]) seen ↔
        value ∈ seen ∨ (target, value) ∈ candidates := by
  induction candidates generalizing seen with
  | nil => simp
  | cons c candidates ih =>
    rw [List.foldl_cons, ih, List.mem_cons]
    by_cases htarget : c.1 = target
    · by_cases hseen : c.2 ∈ seen
      · rw [if_pos (by simp [hseen])]
        constructor
        · rintro (hvalue | hvalue)
          · exact Or.inl hvalue
          · exact Or.inr (Or.inr hvalue)
        · rintro (hvalue | rfl | hvalue)
          · exact Or.inl hvalue
          · exact Or.inl hseen
          · exact Or.inr hvalue
      · rw [if_neg (by simp [hseen, htarget]), List.mem_append, List.mem_singleton, or_assoc]
        refine or_congr_right (or_congr_left ?_)
        rw [Prod.ext_iff]
        constructor
        · rintro rfl
          exact ⟨htarget.symm, rfl⟩
        · rintro ⟨-, hvalue⟩
          exact hvalue
    · rw [if_pos (by simp [htarget])]
      refine or_congr_right ⟨Or.inr, ?_⟩
      rintro (rfl | hvalue)
      · exact absurd rfl htarget
      · exact hvalue

/-- `exact_bib_match_values` reports texts with an exact reading, and at least one if there is
one. -/
theorem exactBibMatchValues_spec (detections : List (PhotoTextDetection F)) (bibNumber : Text) :
    let target := Face.normalizeMatchToken bibNumber
    (exactBibMatchValues detections bibNumber ≠ [] ↔
        target ≠ [] ∧ ∃ detection ∈ detections, ReadsExactly target detection) ∧
      ∀ value ∈ exactBibMatchValues detections bibNumber, target ≠ [] ∧
        ∃ detection ∈ detections, detection.detectedText = value ∧
          ReadsExactly target detection := by
  intro target
  by_cases hempty : target = []
  · have hnone : exactBibMatchValues detections bibNumber = [] := by
      unfold exactBibMatchValues
      exact if_pos (by simpa using hempty)
    rw [hnone]
    exact ⟨iff_of_false (fun h => h rfl) fun h => h.1 hempty,
      fun value hvalue => absurd hvalue List.not_mem_nil⟩
  · have hvalues : exactBibMatchValues detections bibNumber =
        ((detectedCandidates detections).foldl (fun seen c =>
          if c.1 != target || seen.contains c.2 then seen else seen ++ [c.2]) []).take 3 := by
      unfold exactBibMatchValues
      exact if_neg (by simpa using hempty)
    have hmem : ∀ value, value ∈ (detectedCandidates detections).foldl (fun seen c =>
        if c.1 != target || seen.contains c.2 then seen else seen ++ [c.2]) [] ↔
          ∃ detection ∈ detections, ReadsExactly target detection ∧
            detection.detectedText = value := by
      intro value
      rw [mem_foldl_exact, or_iff_right List.not_mem_nil, mem_detectedCandidates]
      exact Iff.rfl
    rw [hvalues]
    constructor
    · rw [Ne, List.take_eq_nil_iff, or_iff_right (by decide)]
      constructor
      · intro hne
        obtain ⟨value, hvalue⟩ := List.exists_mem_of_ne_nil _ hne
        obtain ⟨detection, hdetection, hreads, -⟩ := (hmem value).mp hvalue
        exact ⟨hempty, detection, hdetection, hreads⟩
      · rintro ⟨-, detection, hdetection, hreads⟩
        exact List.ne_nil_of_mem ((hmem _).mpr ⟨detection, hdetection, hreads, rfl⟩)
    · intro value hvalue
      obtain ⟨detection, hdetection, hreads, htext⟩ :=
        (hmem value).mp (List.mem_of_mem_take hvalue)
      exact ⟨hempty, detection, hdetection, htext, hreads⟩

/-- The two ways of reading a bib agree: one is strong exactly when the other is not empty, the
strength is the maximum over the single detections, so that their order does not matter and a
further one never lowers it, and every value that is reported is the text of a detection that has
the strength itself. -/
theorem bibEvidence_agrees (detections : List (PhotoTextDetection F)) (bibNumber : Text) :
    ((scoreBibEvidence detections bibNumber).strength = .strong ↔
        exactBibMatchValues detections bibNumber ≠ []) ∧
      (scoreBibEvidence detections bibNumber).strength =
        (detections.map fun detection =>
          (scoreBibEvidence [detection] bibNumber).strength).foldr max .none ∧
      (∀ detections' : List (PhotoTextDetection F), detections'.Perm detections →
        (scoreBibEvidence detections' bibNumber).strength =
          (scoreBibEvidence detections bibNumber).strength) ∧
      (∀ detections' : List (PhotoTextDetection F), detections ⊆ detections' →
        (scoreBibEvidence detections bibNumber).strength ≤
          (scoreBibEvidence detections' bibNumber).strength) ∧
      (∀ value ∈ (scoreBibEvidence detections bibNumber).matchedValues,
        ∃ detection ∈ detections, detection.detectedText = value ∧
          (scoreBibEvidence [detection] bibNumber).strength =
            (scoreBibEvidence detections bibNumber).strength) ∧
      ∀ value ∈ exactBibMatchValues detections bibNumber,
        ∃ detection ∈ detections, detection.detectedText = value ∧
          (scoreBibEvidence [detection] bibNumber).strength = .strong := by
  have hmono : ∀ detections detections' : List (PhotoTextDetection F), detections ⊆ detections' →
      (scoreBibEvidence detections bibNumber).strength ≤
        (scoreBibEvidence detections' bibNumber).strength := by
    intro detections detections' hsubset
    refine (le_strength_iff _ _ _).mpr (((le_strength_iff _ _ _).mp le_rfl).imp id ?_)
    rintro ⟨detection, hdetection, hreaches⟩
    exact ⟨detection, hsubset hdetection, hreaches⟩
  refine ⟨?_, strength_eq_foldr_max detections bibNumber, fun detections' hperm => ?_,
    hmono detections, fun value => of_mem_matchedValues, fun value hvalue => ?_⟩
  · rw [strength_eq_strong_iff, (exactBibMatchValues_spec detections bibNumber).1]
  · exact le_antisymm (hmono _ _ hperm.subset) (hmono _ _ hperm.symm.subset)
  · obtain ⟨htarget, detection, hdetection, htext, hreads⟩ :=
      (exactBibMatchValues_spec detections bibNumber).2 value hvalue
    refine ⟨detection, hdetection, htext, ?_⟩
    exact (strength_eq_strong_iff _ _).mpr ⟨htarget, detection, List.mem_singleton_self _, hreads⟩

/-! ## Digit boundaries -/

/-- The upper case of an ASCII code point. -/
private def upperAscii (c : Char) : Char := (upperChar c).headD c

private theorem upperAscii_spec {c : Char} (hascii : c.toNat < 128) :
    upperChar c = [upperAscii c] ∧ (upperAscii c).isDigit = c.isDigit ∧
      (c.isDigit = true → upperAscii c = c) := by
  have hupper : upperAscii c = c.toUpper := by
    rw [upperAscii, upperChar_of_ascii hascii]
    rfl
  rw [hupper, isDigit_toUpper hascii]
  refine ⟨upperChar_of_ascii hascii, rfl, fun hdigit => toUpper_of_isToken hascii ?_⟩
  rw [isToken, hdigit, Bool.or_true]

private theorem upper_eq_map {t : Text} (hascii : ∀ c ∈ t, c.toNat < 128) :
    upper t = t.map upperAscii := by
  rw [upper, ← List.flatMap_singleton' (t.map upperAscii), List.flatMap_map]
  exact List.flatMap_congr fun c hc => (upperAscii_spec (hascii c hc)).1

private theorem map_upperAscii_eq_iff {t digits : Text} (hascii : ∀ c ∈ t, c.toNat < 128)
    (hdigits : ∀ c ∈ digits, c.isDigit = true) : t.map upperAscii = digits ↔ t = digits := by
  have hself : (∀ c ∈ t, c.isDigit = true) → t.map upperAscii = t := fun hall => by
    conv_rhs => rw [← List.map_id t]
    exact List.map_congr_left fun c hc => (upperAscii_spec (hascii c hc)).2.2 (hall c hc)
  constructor
  · intro h
    rw [← h]
    refine (hself fun c hc => ?_).symm
    rw [← (upperAscii_spec (hascii c hc)).2.1]
    exact hdigits _ (h ▸ List.mem_map_of_mem hc)
  · rintro rfl
    exact hself hdigits

/-- Upper-casing an ASCII text keeps its runs of digits. -/
theorem isMaximalRun_upper_iff {t digits : Text} (hascii : ∀ c ∈ t, c.toNat < 128)
    (hdigits : ∀ c ∈ digits, c.isDigit = true) :
    IsMaximalRun Char.isDigit digits (upper t) ↔ IsMaximalRun Char.isDigit digits t := by
  rw [upper_eq_map hascii]
  constructor
  · rintro ⟨hne, hall, before, after, ht, hbefore, hafter⟩
    obtain ⟨before', rest, rfl, rfl, hrest⟩ := List.map_eq_append_iff.mp ht
    obtain ⟨run, after', rfl, hrun, rfl⟩ := List.map_eq_append_iff.mp hrest
    have hrunAscii : ∀ c ∈ run, c.toNat < 128 := fun c hc =>
      hascii c (List.mem_append_right _ (List.mem_append_left _ hc))
    rw [(map_upperAscii_eq_iff hrunAscii hdigits).mp hrun]
    refine ⟨hne, hall, before', after', rfl, fun c hc => ?_, fun c hc => ?_⟩
    · have hmem := List.mem_of_getLast? hc
      rw [← (upperAscii_spec (hascii c (List.mem_append_left _ hmem))).2.1]
      exact hbefore _ (by rw [List.getLast?_map, hc]; rfl)
    · have hmem := List.mem_of_head? hc
      rw [← (upperAscii_spec (hascii c
        (List.mem_append_right _ (List.mem_append_right _ hmem)))).2.1]
      exact hafter _ (by rw [List.head?_map, hc]; rfl)
  · rintro ⟨hne, hall, before, after, rfl, hbefore, hafter⟩
    have hrun : digits.map upperAscii = digits := by
      refine (map_upperAscii_eq_iff (fun c hc => ?_) hdigits).mpr rfl
      exact hascii c (List.mem_append_right _ (List.mem_append_left _ hc))
    refine ⟨hne, hall, before.map upperAscii, after.map upperAscii, ?_, ?_, ?_⟩
    · rw [List.map_append, List.map_append, hrun]
    · intro c hc
      rw [List.getLast?_map] at hc
      obtain ⟨d, hd, rfl⟩ := Option.map_eq_some_iff.mp hc
      rw [(upperAscii_spec (hascii d (List.mem_append_left _ (List.mem_of_getLast? hd)))).2.1]
      exact hbefore d hd
    · intro c hc
      rw [List.head?_map] at hc
      obtain ⟨d, hd, rfl⟩ := Option.map_eq_some_iff.mp hc
      rw [(upperAscii_spec (hascii d (List.mem_append_right _
        (List.mem_append_right _ (List.mem_of_head? hd))))).2.1]
      exact hafter d hd

/-- A text in ASCII has a bib of digits among its candidates when the bib is one of its runs of
digits, or all of its letters and digits. -/
theorem readsExactly_iff_of_digits {bib : Text} (hbib : bib ≠ [])
    (hdigits : ∀ c ∈ bib, c.isDigit = true) {detection : PhotoTextDetection F}
    (hascii : ∀ c ∈ detection.detectedText, c.toNat < 128) :
    ReadsExactly bib detection ↔ IsMaximalRun Char.isDigit bib detection.detectedText ∨
      detection.detectedText.filter Char.isAlphanum = bib := by
  have htoken : ∀ c, c.isDigit = true → isToken c = true := fun c hc => by
    rw [isToken, hc, Bool.or_true]
  have hraw : bib = Face.normalizeMatchToken detection.detectedText ↔
      detection.detectedText.filter Char.isAlphanum = bib := by
    have hfiltered : ∀ c ∈ detection.detectedText.filter Char.isAlphanum, c.toNat < 128 :=
      fun c hc => hascii c (List.mem_of_mem_filter hc)
    rw [Face.normalizeMatchToken, upper_eq_map hfiltered, eq_comm,
      map_upperAscii_eq_iff hfiltered hdigits]
  rw [ReadsExactly, mem_faceCandidates, hraw, mem_maximalRuns_iff, mem_maximalRuns_iff,
    isMaximalRun_upper_iff hascii hdigits]
  constructor
  · rintro ⟨-, hall | hrun | hrun⟩
    · exact Or.inr hall
    · have hrun' := hrun.imp hdigits htoken
      exact Or.inl ((isMaximalRun_upper_iff hascii hdigits).mp hrun')
    · exact Or.inl hrun
  · rintro (hrun | hall)
    · exact ⟨hbib, Or.inr (Or.inr hrun)⟩
    · exact ⟨hbib, Or.inl hall⟩

/-- Matching a bib of digits in ASCII texts respects the digit boundaries exactly when some text
has the bib as a run of digits, or no text has the bib as all of its letters and digits. -/
theorem bibMatching_boundarySafe_iff {bib : Text} (hbib : bib ≠ [])
    (hdigits : ∀ c ∈ bib, c.isDigit = true) {detections : List (PhotoTextDetection F)}
    (hascii : ∀ detection ∈ detections, ∀ c ∈ detection.detectedText, c.toNat < 128) :
    ((scoreBibEvidence detections bib).strength = .strong ↔
        ∃ detection ∈ detections, IsMaximalRun Char.isDigit bib detection.detectedText) ↔
      (∃ detection ∈ detections, IsMaximalRun Char.isDigit bib detection.detectedText) ∨
        ∀ detection ∈ detections, detection.detectedText.filter Char.isAlphanum ≠ bib := by
  have htarget : Face.normalizeMatchToken bib = bib :=
    normalizeMatchToken_of_isToken fun c hc => by rw [isToken, hdigits c hc, Bool.or_true]
  have hstrong : (scoreBibEvidence detections bib).strength = .strong ↔
      ∃ detection ∈ detections, IsMaximalRun Char.isDigit bib detection.detectedText ∨
        detection.detectedText.filter Char.isAlphanum = bib := by
    rw [strength_eq_strong_iff, htarget, and_iff_right hbib]
    refine exists_congr fun detection => and_congr_right fun hdetection => ?_
    exact readsExactly_iff_of_digits hbib hdigits (hascii detection hdetection)
  rw [hstrong]
  constructor
  · intro hsafe
    by_cases hrun : ∃ detection ∈ detections, IsMaximalRun Char.isDigit bib detection.detectedText
    · exact Or.inl hrun
    · refine Or.inr fun detection hdetection hall => hrun (hsafe.mp ?_)
      exact ⟨detection, hdetection, Or.inr hall⟩
  · intro hcondition
    constructor
    · rintro ⟨detection, hdetection, hrun | hall⟩
      · exact ⟨detection, hdetection, hrun⟩
      · rcases hcondition with hrun | hnone
        · exact hrun
        · exact absurd hall (hnone detection hdetection)
    · rintro ⟨detection, hdetection, hrun⟩
      exact ⟨detection, hdetection, Or.inl hrun⟩

/-- A detection of a text. -/
def textDetection (text : Text) : PhotoTextDetection ℚ := ⟨1, 3, text, text, none, none⟩

/-- The bib between other characters is read strongly, and is a run of digits of the text. -/
theorem bibMatching_bibText :
    (scoreBibEvidence [textDetection "BIB 1042".toList] "1042".toList).strength = .strong ∧
      ∃ detection ∈ [textDetection "BIB 1042".toList],
        IsMaximalRun Char.isDigit "1042".toList detection.detectedText := by
  have hrun : ∃ detection ∈ [textDetection "BIB 1042".toList],
      IsMaximalRun Char.isDigit "1042".toList detection.detectedText := by
    refine ⟨_, List.mem_singleton_self _, mem_maximalRuns_iff.mp ?_⟩
    decide +kernel
  have hsafe := (bibMatching_boundarySafe_iff (by decide) (List.all_eq_true.mp (by decide))
    (by simp [textDetection])).mpr (Or.inl hrun)
  exact ⟨hsafe.mpr hrun, hrun⟩

/-- The digits of `10-42` are joined to the bib `1042`. -/
theorem digits_joined :
    (scoreBibEvidence [textDetection "10-42".toList] "1042".toList).strength = .strong ∧
      ¬ ∃ detection ∈ [textDetection "10-42".toList],
        IsMaximalRun Char.isDigit "1042".toList detection.detectedText := by
  refine ⟨by decide +kernel, ?_⟩
  rintro ⟨detection, hdetection, hrun⟩
  rw [← mem_maximalRuns_iff] at hrun
  rw [List.mem_singleton.mp hdetection] at hrun
  revert hrun
  decide +kernel

end RaceFrame
