import RaceFrame.Archive.DownloadNames
import RaceFrame.Core.Trim

/-!
# Safe archive names

The names that `unique_download_names` gives are single path components without
characters that a file system treats specially, and the loop that looks for each
of them comes to an end.
-/

namespace RaceFrame

open Core

/-! ## The loops -/

/-- The loop `while candidate.casefold() in used`, entered with the candidate of number `k`,
leaves a candidate. -/
inductive WhileUsed (used : List Text) (candidate : Nat → Text) : Nat → Text → Prop
  | done {k : Nat} (unused : casefold (candidate k) ∉ used) :
    WhileUsed used candidate k (candidate k)
  | again {k : Nat} {name : Text} (inUse : casefold (candidate k) ∈ used)
    (rest : WhileUsed used candidate (k + 1) name) : WhileUsed used candidate k name

/-- The loop of `unique_download_names`, entered with the names in use, returns a list. -/
inductive NamesLoop : Nat → List Text → List Text → List Text → Prop
  | done {index : Nat} {used : List Text} : NamesLoop index used [] []
  | next {index : Nat} {used rest names : List Text} {rawName candidate : Text}
    (loop : WhileUsed used (nameCandidate (safeDownloadName rawName (photoFallback index))) 0
      candidate)
    (others : NamesLoop (index + 1) (casefold candidate :: used) rest names) :
    NamesLoop index used (rawName :: rest) (candidate :: names)

private theorem whileUsed_firstUnused {used : List Text} {candidate : Nat → Text} {fuel k : Nat}
    (h : ∃ j, k ≤ j ∧ j ≤ k + fuel ∧ casefold (candidate j) ∉ used) :
    WhileUsed used candidate k (firstUnused used candidate fuel k) := by
  induction fuel generalizing k with
  | zero =>
    obtain ⟨j, hkj, hj, hfresh⟩ := h
    obtain rfl : j = k := by omega
    exact .done hfresh
  | succ fuel ih =>
    rw [firstUnused]
    split
    next hused =>
      refine .again hused (ih ?_)
      obtain ⟨j, hkj, hj, hfresh⟩ := h
      refine ⟨j, ?_, by omega, hfresh⟩
      by_contra hlt
      obtain rfl : j = k := by omega
      exact hfresh hused
    next hfresh => exact .done hfresh

/-- The bound on the steps of the inner loop is never reached. -/
theorem namesLoop_uniqueNamesFrom (index : Nat) (used fileNames : List Text) :
    NamesLoop index used fileNames (uniqueNamesFrom index used fileNames) := by
  induction fileNames generalizing index used with
  | nil => exact .done
  | cons rawName rest ih =>
    rw [uniqueNamesFrom]
    refine .next (whileUsed_firstUnused ?_) (ih _ _)
    obtain ⟨j, hj, hfresh⟩ := exists_unused used
      (safeDownloadName rawName (photoFallback index))
    exact ⟨j, Nat.zero_le j, by omega, hfresh⟩

/-- What the inner loop leaves is one of the candidates. -/
theorem WhileUsed.exists_candidate {used : List Text} {candidate : Nat → Text} {k : Nat}
    {name : Text} (h : WhileUsed used candidate k name) : ∃ j, name = candidate j := by
  induction h with
  | @done k _ => exact ⟨k, rfl⟩
  | again _ _ ih => exact ih

/-! ## Safe names -/

/-- A character of a safe name. -/
def IsSafeChar (c : Char) : Prop := c ≠ '/' ∧ c ≠ '\\' ∧ c ≠ ':' ∧ c ≠ '"' ∧ 32 ≤ c.toNat

instance : DecidablePred IsSafeChar :=
  fun c => inferInstanceAs (Decidable (c ≠ '/' ∧ c ≠ '\\' ∧ c ≠ ':' ∧ c ≠ '"' ∧ 32 ≤ c.toNat))

/-- A name under which a file is extracted into the target directory itself. -/
structure IsSafeName (name : Text) : Prop where
  ne_nil : name ≠ []
  chars : ∀ c ∈ name, IsSafeChar c
  ne_dot : name ≠ ['.']
  ne_dotDot : name ≠ ['.', '.']

/-- A non-empty text of safe characters that does not begin with a dot is a safe name. -/
theorem isSafeName_of_head {name : Text} {c : Char} (hhead : name.head? = some c) (hc : c ≠ '.')
    (hchars : ∀ c ∈ name, IsSafeChar c) : IsSafeName name := by
  refine ⟨?_, hchars, ?_, ?_⟩ <;> rintro rfl
  · cases hhead
  · exact hc (Option.some.inj hhead).symm
  · exact hc (Option.some.inj hhead).symm

/-- A text of safe characters with a dash in it is a safe name. -/
theorem isSafeName_of_dash {name : Text} (hdash : '-' ∈ name) (hchars : ∀ c ∈ name, IsSafeChar c) :
    IsSafeName name := by
  refine ⟨List.ne_nil_of_mem hdash, hchars, ?_, ?_⟩ <;> rintro rfl
  · exact absurd hdash (by decide)
  · exact absurd hdash (by decide)

private theorem isSafeChar_of_mem_toDigits {n : Nat} {c : Char} (h : c ∈ Nat.toDigits 10 n) :
    IsSafeChar c := by
  have hdigit := Nat.isDigit_of_mem_toDigits (by omega) (by omega) h
  rw [Char.isDigit_iff_toNat] at hdigit
  have h0 : '0'.toNat = 48 := rfl
  have h9 : '9'.toNat = 57 := rfl
  refine ⟨?_, ?_, ?_, ?_, by omega⟩ <;> rintro rfl
  · exact absurd hdigit (by decide)
  · exact absurd hdigit (by decide)
  · exact absurd hdigit (by decide)
  · exact absurd hdigit (by decide)

/-- The fallback names are safe. -/
theorem isSafeName_photoFallback (index : Nat) : IsSafeName (photoFallback index) := by
  have hfront : "photo-".toList.all (fun c => decide (IsSafeChar c)) = true := by decide
  have hback : ".jpg".toList.all (fun c => decide (IsSafeChar c)) = true := by decide
  refine isSafeName_of_head (c := 'p') rfl (by decide) fun c hc => ?_
  rcases List.mem_append.mp hc with hc | hc
  · rcases List.mem_append.mp hc with hc | hc
    · exact of_decide_eq_true (List.all_eq_true.mp hfront c hc)
    · exact isSafeChar_of_mem_toDigits hc
  · exact of_decide_eq_true (List.all_eq_true.mp hback c hc)

private theorem isSafeChar_of_mem_filter {fileName : Text} {c : Char}
    (h : c ∈ (pathName (fileName.map fun c => if c = '\\' then '/' else c)).filter fun c =>
      decide (32 ≤ c.toNat) && !(['"', ':'].contains c)) : IsSafeChar c := by
  obtain ⟨hname, hkept⟩ := List.mem_filter.mp h
  obtain ⟨hpath, hslash⟩ := mem_pathName hname
  have hbackslash : c ≠ '\\' := by
    obtain ⟨d, -, rfl⟩ := List.mem_map.mp hpath
    split
    · decide
    next hd => exact hd
  simp only [Bool.and_eq_true, decide_eq_true_eq, Bool.not_eq_true', List.contains_eq_mem,
    decide_eq_false_iff_not, List.mem_cons, List.not_mem_nil, or_false, not_or] at hkept
  exact ⟨hslash, hbackslash, hkept.2.2, hkept.2.1, hkept.1⟩

/-- Sanitising gives a safe name when the fallback is one. -/
theorem isSafeName_safeDownloadName (fileName : Text) {fallback : Text}
    (h : IsSafeName fallback) : IsSafeName (safeDownloadName fileName fallback) := by
  simp only [safeDownloadName]
  split
  · exact h
  next hne =>
    generalize hkept : (pathName (fileName.map fun c => if c = '\\' then '/' else c)).filter
      (fun c => decide (32 ≤ c.toNat) && !(['"', ':'].contains c)) = kept at hne ⊢
    change ¬(trim ([' ', '.'].contains ·) (kept.take 200)).isEmpty = true at hne
    change IsSafeName (trim ([' ', '.'].contains ·) (kept.take 200))
    cases hname : trim ([' ', '.'].contains ·) (kept.take 200) with
    | nil =>
      rw [hname] at hne
      exact absurd rfl hne
    | cons c cs =>
      have hhead : (trim ([' ', '.'].contains ·) (kept.take 200)).head? = some c := by
        rw [hname]
        rfl
      have hdot : c ≠ '.' := by
        rintro rfl
        exact absurd (head?_trim hhead) (by decide)
      refine isSafeName_of_head rfl hdot fun d hd => ?_
      rw [← hname] at hd
      have hmem := List.mem_of_mem_take (mem_of_mem_trim hd)
      rw [← hkept] at hmem
      exact isSafeChar_of_mem_filter hmem

private theorem isSafeChar_rpartitionDot {name : Text} (h : ∀ c ∈ name, IsSafeChar c) :
    (∀ c ∈ (rpartitionDot name).1, IsSafeChar c) ∧
      (∀ c ∈ (rpartitionDot name).2.1, IsSafeChar c) ∧
      ∀ c ∈ (rpartitionDot name).2.2, IsSafeChar c := by
  rw [rpartitionDot]
  split
  · exact ⟨fun _ hc => absurd hc List.not_mem_nil, fun _ hc => absurd hc List.not_mem_nil, h⟩
  · refine ⟨fun c hc => h c (List.mem_of_mem_take hc), fun c hc => ?_, fun c hc => ?_⟩
    · rw [List.mem_singleton.mp hc]
      decide
    · rw [List.mem_reverse] at hc
      exact h c (List.mem_reverse.mp ((List.takeWhile_prefix _).subset hc))

/-- The numbered candidates of a safe name are safe. -/
theorem isSafeName_nameCandidate {name : Text} (h : IsSafeName name) (k : Nat) :
    IsSafeName (nameCandidate name k) := by
  cases k with
  | zero => exact h
  | succ k =>
    obtain ⟨hstem, hdot, hextension⟩ := isSafeChar_rpartitionDot h.chars
    rcases hparts : rpartitionDot name with ⟨stem, dot, extension⟩
    rw [hparts] at hstem hdot hextension
    have hdash : IsSafeChar '-' := by decide
    simp only [nameCandidate, hparts]
    split
    · refine isSafeName_of_dash (by simp) fun c hc => ?_
      simp only [List.mem_append, List.mem_singleton] at hc
      rcases hc with (hc | rfl) | hc
      · exact h.chars c hc
      · exact hdash
      · exact isSafeChar_of_mem_toDigits hc
    · refine isSafeName_of_dash (by simp) fun c hc => ?_
      simp only [List.mem_append, List.mem_singleton] at hc
      rcases hc with (((hc | rfl) | hc) | hc) | hc
      · split at hc
        · exact h.chars c hc
        · exact hstem c hc
      · exact hdash
      · exact isSafeChar_of_mem_toDigits hc
      · exact hdot c hc
      · exact hextension c hc

/-- The names that the loop returns are safe. -/
theorem NamesLoop.isSafeName {index : Nat} {used fileNames names : List Text}
    (h : NamesLoop index used fileNames names) : ∀ name ∈ names, IsSafeName name := by
  induction h with
  | done => exact fun _ hmem => absurd hmem List.not_mem_nil
  | @next index used rest names rawName candidate loop others ih =>
    obtain ⟨j, rfl⟩ := loop.exists_candidate
    intro name hmem
    rcases List.mem_cons.mp hmem with rfl | hmem
    · exact isSafeName_nameCandidate
        (isSafeName_safeDownloadName rawName (isSafeName_photoFallback index)) j
    · exact ih name hmem

/-- For every list of file names the loops end with as many names, which differ in more than case
and are safe. -/
theorem uniqueDownloadNames_unique_safe (fileNames : List Text) :
    NamesLoop 1 [] fileNames (uniqueDownloadNames fileNames) ∧
      (uniqueDownloadNames fileNames).length = fileNames.length ∧
      ((uniqueDownloadNames fileNames).map casefold).Nodup ∧
      ∀ name ∈ uniqueDownloadNames fileNames, IsSafeName name :=
  ⟨namesLoop_uniqueNamesFrom 1 [] fileNames, length_uniqueDownloadNames fileNames,
    nodup_uniqueDownloadNames fileNames,
    (namesLoop_uniqueNamesFrom 1 [] fileNames).isSafeName⟩

end RaceFrame
