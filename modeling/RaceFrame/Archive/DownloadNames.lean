import Mathlib.Data.List.Nodup
import Mathlib.Data.List.Perm.Subperm
import RaceFrame.Core.Runs
import RaceFrame.Text.Casefold

/-!
# Download names

`photo_archive` turns the stored file names into names for the archive: path
components and unsafe characters are dropped, and a name already used (up to
case) is given a numbered suffix. The numbered names fold to different texts, so
the loop that tries them stops within as many steps as there are names in use.
-/

namespace RaceFrame

open Core

/-- `PurePath(path).name`: the last component that is neither empty nor `.`. -/
def pathName (path : Text) : Text :=
  ((maximalRuns (· != '/') path).filter (· != ['.'])).getLast?.getD []

/-- `s.strip(chars)`. -/
def stripChars (chars : Text) (s : Text) : Text :=
  ((s.dropWhile (chars.contains ·)).reverse.dropWhile (chars.contains ·)).reverse

/-- `s.rpartition(".")`. -/
def rpartitionDot (s : Text) : Text × Text × Text :=
  let extension := (s.reverse.takeWhile (· != '.')).reverse
  if extension.length = s.length then ([], [], s)
  else (s.take (s.length - extension.length - 1), ['.'], extension)

/-- `safe_download_name`. -/
def safeDownloadName (fileName fallback : Text) : Text :=
  let normalized := fileName.map fun c => if c = '\\' then '/' else c
  let name := pathName normalized
  let name := name.filter fun c => decide (32 ≤ c.toNat) && !(['"', ':'].contains c)
  let name := stripChars [' ', '.'] (name.take 200)
  if name.isEmpty then fallback else name

/-- The candidates that the loop of `unique_download_names` tries: the name itself, then the name
with the suffixes 2, 3, … before its extension. -/
def nameCandidate (name : Text) : Nat → Text
  | 0 => name
  | k + 1 =>
    let suffix := Nat.toDigits 10 (k + 2)
    let (stem, dot, extension) := rpartitionDot name
    if dot.isEmpty then name ++ ['-'] ++ suffix
    else (if stem.isEmpty then name else stem) ++ ['-'] ++ suffix ++ dot ++ extension

/-- The loop `while candidate.casefold() in used`, from the candidate of number `k` on. -/
def firstUnused (used : List Text) (candidate : Nat → Text) : Nat → Nat → Text
  | 0, k => candidate k
  | fuel + 1, k =>
    if casefold (candidate k) ∈ used then firstUnused used candidate fuel (k + 1)
    else candidate k

/-- `f"photo-{index}.jpg"`. -/
def photoFallback (index : Nat) : Text :=
  "photo-".toList ++ Nat.toDigits 10 index ++ ".jpg".toList

/-- The loop of `unique_download_names` over the names from number `index` on. -/
def uniqueNamesFrom : Nat → List Text → List Text → List Text
  | _, _, [] => []
  | index, used, rawName :: rest =>
    let name := safeDownloadName rawName (photoFallback index)
    let candidate := firstUnused used (nameCandidate name) (used.length + 1) 0
    candidate :: uniqueNamesFrom (index + 1) (casefold candidate :: used) rest

/-- `unique_download_names`. -/
def uniqueDownloadNames (fileNames : List Text) : List Text := uniqueNamesFrom 1 [] fileNames

/-- The name of a path consists of its characters and has no slash. -/
theorem mem_pathName {path : Text} {c : Char} (h : c ∈ pathName path) :
    c ∈ path ∧ c ≠ '/' := by
  rw [pathName] at h
  cases hlast : ((maximalRuns (· != '/') path).filter (· != ['.'])).getLast? with
  | none =>
    rw [hlast] at h
    cases h
  | some run =>
    rw [hlast] at h
    have hrun := (List.mem_filter.mp (List.mem_of_getLast? hlast)).1
    obtain ⟨before, after, hpath, -, -⟩ := (mem_maximalRuns_iff.mp hrun).occurs
    refine ⟨?_, bne_iff_ne.mp (all_of_mem_maximalRuns hrun c h)⟩
    rw [hpath]
    exact List.mem_append_right before (List.mem_append_left after h)

@[simp] theorem length_uniqueNamesFrom (index : Nat) (used fileNames : List Text) :
    (uniqueNamesFrom index used fileNames).length = fileNames.length := by
  induction fileNames generalizing index used with
  | nil => rfl
  | cons rawName rest ih => simp only [uniqueNamesFrom, List.length_cons, ih]

/-- Every file gets one name. -/
@[simp] theorem length_uniqueDownloadNames (fileNames : List Text) :
    (uniqueDownloadNames fileNames).length = fileNames.length :=
  length_uniqueNamesFrom 1 [] fileNames

theorem toDigits_injective : Function.Injective (Nat.toDigits 10) := by
  intro m n h
  rw [← Nat.ofDigitChars_ten_toDigits (n := m), h, Nat.ofDigitChars_ten_toDigits]

/-- The numbered candidates put the number between two texts that do not depend on it. -/
theorem nameCandidate_succ (name : Text) :
    ∃ before after, ∀ k, nameCandidate name (k + 1) =
      before ++ Nat.toDigits 10 (k + 2) ++ after := by
  rcases h : rpartitionDot name with ⟨stem, dot, extension⟩
  cases hdot : dot.isEmpty with
  | true =>
    refine ⟨name ++ ['-'], [], fun k => ?_⟩
    simp only [nameCandidate, h, hdot, ite_true, List.append_nil]
  | false =>
    refine ⟨(if stem.isEmpty then name else stem) ++ ['-'], dot ++ extension, fun k => ?_⟩
    simp only [nameCandidate, h, hdot, Bool.false_eq_true, ite_false, List.append_assoc]

/-- Two numbered candidates fold to different texts. -/
theorem casefold_nameCandidate_injective (name : Text) :
    Function.Injective fun k => casefold (nameCandidate name (k + 1)) := by
  obtain ⟨before, after, hform⟩ := nameCandidate_succ name
  intro m n h
  simp only [hform, casefold_append, casefold_toDigits, List.append_assoc] at h
  have hdigits := List.append_cancel_right (List.append_cancel_left h)
  have hnumber := toDigits_injective hdigits
  omega

/-- The loop returns the first candidate that is not in use, when there is one within the fuel. -/
theorem firstUnused_fresh {used : List Text} {candidate : Nat → Text} {fuel k : Nat}
    (h : ∃ j, k ≤ j ∧ j ≤ k + fuel ∧ casefold (candidate j) ∉ used) :
    casefold (firstUnused used candidate fuel k) ∉ used := by
  induction fuel generalizing k with
  | zero =>
    obtain ⟨j, hkj, hj, hfresh⟩ := h
    have hjk : j = k := by omega
    rwa [firstUnused, ← hjk]
  | succ fuel ih =>
    simp only [firstUnused]
    split
    next hused =>
      obtain ⟨j, hkj, hj, hfresh⟩ := h
      refine ih ⟨j, ?_, by omega, hfresh⟩
      by_contra hlt
      have hjk : j = k := by omega
      exact hfresh (hjk ▸ hused)
    next hfresh => exact hfresh

/-- Among more numbered candidates than there are names in use, one is free. -/
theorem exists_unused (used : List Text) (name : Text) :
    ∃ j, j ≤ used.length + 1 ∧ casefold (nameCandidate name j) ∉ used := by
  by_contra hall
  push Not at hall
  let folded := (List.range (used.length + 1)).map fun k =>
    casefold (nameCandidate name (k + 1))
  have hnodup : folded.Nodup :=
    List.nodup_range.map (casefold_nameCandidate_injective name)
  have hused : folded ⊆ used := by
    intro text htext
    obtain ⟨k, hk, rfl⟩ := List.mem_map.mp htext
    have hlt := List.mem_range.mp hk
    exact hall (k + 1) (by omega)
  have hlength := (hnodup.subperm hused).length_le
  simp only [folded, List.length_map, List.length_range] at hlength
  omega

private theorem firstUnused_mem (used : List Text) (candidate : Nat → Text) (fuel k : Nat) :
    ∃ j ≤ k + fuel, firstUnused used candidate fuel k = candidate j := by
  induction fuel generalizing k with
  | zero => exact ⟨k, by omega, rfl⟩
  | succ fuel ih =>
    simp only [firstUnused]
    split
    · obtain ⟨j, hj, heq⟩ := ih (k + 1)
      exact ⟨j, by omega, heq⟩
    · exact ⟨k, by omega, rfl⟩

private theorem uniqueNamesFrom_fresh (index : Nat) (used fileNames : List Text) :
    ((uniqueNamesFrom index used fileNames).map casefold).Nodup ∧
      ∀ folded ∈ (uniqueNamesFrom index used fileNames).map casefold, folded ∉ used := by
  induction fileNames generalizing index used with
  | nil => exact ⟨List.nodup_nil, fun _ h => absurd h List.not_mem_nil⟩
  | cons rawName rest ih =>
    simp only [uniqueNamesFrom, List.map_cons]
    generalize hcandidate : firstUnused used
      (nameCandidate (safeDownloadName rawName (photoFallback index))) (used.length + 1) 0 =
        candidate
    obtain ⟨hnodup, hfresh⟩ := ih (index + 1) (casefold candidate :: used)
    have hunused : casefold candidate ∉ used := by
      obtain ⟨j, hj, hj'⟩ := exists_unused used
        (safeDownloadName rawName (photoFallback index))
      rw [← hcandidate]
      exact firstUnused_fresh ⟨j, Nat.zero_le j, by omega, hj'⟩
    constructor
    · refine List.nodup_cons.mpr ⟨fun hmem => ?_, hnodup⟩
      exact hfresh _ hmem List.mem_cons_self
    · intro folded hmem
      rcases List.mem_cons.mp hmem with rfl | hmem
      · exact hunused
      · exact fun hused => hfresh folded hmem (List.mem_cons_of_mem _ hused)

/-- No two download names agree up to case. -/
theorem nodup_uniqueDownloadNames (fileNames : List Text) :
    ((uniqueDownloadNames fileNames).map casefold).Nodup :=
  (uniqueNamesFrom_fresh 1 [] fileNames).1

private theorem length_stripChars_le (chars s : Text) : (stripChars chars s).length ≤ s.length := by
  have hfront := (List.dropWhile_suffix (l := s) (chars.contains ·)).length_le
  have hback := (List.dropWhile_suffix (l := (s.dropWhile (chars.contains ·)).reverse)
    (chars.contains ·)).length_le
  simp only [stripChars, List.length_reverse] at hback ⊢
  omega

private theorem length_toDigits_le {n : Nat} (h : n < 100000) :
    (Nat.toDigits 10 n).length ≤ 5 :=
  (Nat.length_toDigits_le_iff (by omega) (by omega)).mpr h

/-- A safe name has at most 200 code points, unless it is the fallback. -/
theorem length_safeDownloadName_le (fileName : Text) {fallback : Text}
    (h : fallback.length ≤ 200) :
    (safeDownloadName fileName fallback).length ≤ 200 := by
  simp only [safeDownloadName]
  split
  · exact h
  · refine (length_stripChars_le _ _).trans ?_
    rw [List.length_take]
    exact Nat.min_le_left _ _

private theorem length_rpartitionDot (s : Text) :
    (rpartitionDot s).1.length + (rpartitionDot s).2.1.length +
      (rpartitionDot s).2.2.length = s.length := by
  have hle : (s.reverse.takeWhile (· != '.')).reverse.length ≤ s.length := by
    have hprefix := (List.takeWhile_prefix (l := s.reverse) (· != '.')).length_le
    simpa only [List.length_reverse] using hprefix
  simp only [rpartitionDot]
  split
  · simp only [List.length_nil, Nat.zero_add]
  next hne =>
    simp only [List.length_take, List.length_cons, List.length_nil]
    omega

private theorem length_nameCandidate_le (name : Text) {k : Nat} (h : k < 99998) :
    (nameCandidate name k).length ≤ 2 * name.length + 6 := by
  cases k with
  | zero =>
    simp only [nameCandidate]
    omega
  | succ k =>
    have hsuffix : (Nat.toDigits 10 (k + 2)).length ≤ 5 := length_toDigits_le (by omega)
    have hparts := length_rpartitionDot name
    rcases hpartition : rpartitionDot name with ⟨stem, dot, extension⟩
    simp only [hpartition] at hparts
    simp only [nameCandidate, hpartition]
    have hstem : (if stem.isEmpty then name else stem).length ≤ name.length := by
      split <;> omega
    split
    · simp only [List.length_append, List.length_cons, List.length_nil]
      omega
    · simp only [List.length_append, List.length_cons, List.length_nil]
      omega

private theorem length_photoFallback (index : Nat) :
    (photoFallback index).length =
      "photo-".toList.length + (Nat.toDigits 10 index).length + ".jpg".toList.length :=
  List.length_append.trans (congrArg (· + ".jpg".toList.length) List.length_append)

private theorem length_uniqueNamesFrom_le {index : Nat} {used fileNames : List Text}
    (hindex : index + fileNames.length ≤ 65536) (hused : used.length < index) :
    ∀ name ∈ uniqueNamesFrom index used fileNames, name.length ≤ 406 := by
  induction fileNames generalizing index used with
  | nil => exact fun _ h => absurd h List.not_mem_nil
  | cons rawName rest ih =>
    rw [List.length_cons] at hindex
    intro name hname
    rcases List.mem_cons.mp hname with rfl | hname
    · obtain ⟨j, hj, heq⟩ := firstUnused_mem used
        (nameCandidate (safeDownloadName rawName (photoFallback index))) (used.length + 1) 0
      have hfallback : (photoFallback index).length ≤ 200 := by
        have hdigits := length_toDigits_le (n := index) (by omega)
        have hfront : "photo-".toList.length = 6 := rfl
        have hback : ".jpg".toList.length = 4 := rfl
        have hparts := length_photoFallback index
        omega
      have hsafe := length_safeDownloadName_le rawName hfallback
      have hlength := length_nameCandidate_le
        (safeDownloadName rawName (photoFallback index)) (show j < 99998 by omega)
      rw [heq]
      omega
    · exact ih (by omega) (by rw [List.length_cons]; omega) name hname

/-- The download names of up to 65535 files are short. -/
theorem length_le_of_mem_uniqueDownloadNames {fileNames : List Text}
    (h : fileNames.length ≤ 65535) :
    ∀ name ∈ uniqueDownloadNames fileNames, name.length ≤ 406 :=
  length_uniqueNamesFrom_le (by omega) (by rw [List.length_nil]; omega)

end RaceFrame
