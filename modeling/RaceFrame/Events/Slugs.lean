import Mathlib.Data.Set.Finite.Basic
import RaceFrame.Archive.DownloadNames
import RaceFrame.Core.Table
import RaceFrame.Core.Trim
import RaceFrame.Text.Uuids

/-!
# Event slugs

`generate_unique_slug` tries the slug of a name and then the slug with the
suffixes 2, 3, … until no other event has it. The suffixes differ, so a free
slug is found, and it is the first. Nothing in the loop looks at the length of
the slug, which has a column of 255 characters.
-/

namespace RaceFrame

open Core

variable (lower : Text → Text)

/-- The columns of `events` that the slug functions read. -/
structure EventSlug where
  id : Uuid
  slug : Text
  deriving DecidableEq

/-- A character of the class `[a-z0-9]`. -/
def isSlugChar (c : Char) : Bool :=
  (decide ('a' ≤ c) && decide (c ≤ 'z')) || (decide ('0' ≤ c) && decide (c ≤ '9'))

/-- `slugify`. -/
def slugify (value : Text) : Text :=
  let normalized := stripChars ['-'] (collapse (fun c => !isSlugChar c) '-' (lower value))
  if normalized.isEmpty then "event".toList else normalized

/-- The event that `exclude_event_id` excludes; a text that is not an identifier excludes none. -/
def excludedEvent (excludeEventId : Option Text) : Option Uuid :=
  (excludeEventId.filter (!·.isEmpty)).bind parseUuid

/-- `slug_exists`: since slugs are unique, the query has at most one row. -/
def slugExists (events : Table EventSlug EventSlug.slug) (slug : Text)
    (excludeEventId : Option Text) : Bool :=
  (events.rows.find? fun event =>
    event.slug == slug && excludedEvent excludeEventId != some event.id).isSome

/-- `f"{base_slug}-{suffix}"`. -/
def suffixedSlug (baseSlug : Text) (suffix : Nat) : Text :=
  baseSlug ++ ['-'] ++ Nat.toDigits 10 suffix

/-- The loop of `generate_unique_slug`, for at most `fuel` tests of its condition. -/
def uniqueSlugLoop (events : Table EventSlug EventSlug.slug) (excludeEventId : Option Text)
    (baseSlug : Text) : Nat → Text → Nat → Option Text
  | 0, _, _ => none
  | fuel + 1, candidate, suffix =>
    if slugExists events candidate excludeEventId then
      uniqueSlugLoop events excludeEventId baseSlug fuel (suffixedSlug baseSlug suffix)
        (suffix + 1)
    else some candidate

/-- `generate_unique_slug`, for at most `fuel` queries. -/
def generateUniqueSlug (events : Table EventSlug EventSlug.slug) (name : Text)
    (excludeEventId : Option Text) (fuel : Nat) : Option Text :=
  uniqueSlugLoop events excludeEventId (slugify lower name) fuel (slugify lower name) 2

/-! ## What a slug looks like -/

/-- A text of lower-case ASCII letters and digits, and of hyphens that are not at its ends. -/
structure IsSlug (s : Text) : Prop where
  ne_nil : s ≠ []
  chars : ∀ c ∈ s, isSlugChar c = true ∨ c = '-'
  head : s.head? ≠ some '-'
  last : s.getLast? ≠ some '-'

private theorem isSlug_event : IsSlug "event".toList where
  ne_nil := by decide
  chars _ hc := Or.inl (List.all_eq_true.mp (by decide) _ hc)
  head := by decide
  last := by decide

/-- The slug of a name is one. -/
theorem isSlug_slugify (value : Text) : IsSlug (slugify lower value) := by
  rw [slugify]
  split
  · exact isSlug_event
  · rename_i hne
    refine ⟨by simpa using hne, fun c hc => ?_, fun hhead => ?_, fun hlast => ?_⟩
    · rcases mem_collapse (mem_of_mem_trim hc) with rfl | ⟨-, hclass⟩
      · exact Or.inr rfl
      · exact Or.inl (by simpa using hclass)
    · exact absurd (head?_trim hhead) (by decide)
    · exact absurd (getLast?_trim hlast) (by decide)

private theorem isSlugChar_of_mem_toDigits {n : Nat} {c : Char} (h : c ∈ Nat.toDigits 10 n) :
    isSlugChar c = true := by
  have hdigit := Nat.isDigit_of_mem_toDigits (by omega) (by omega) h
  rw [Char.isDigit, Bool.and_eq_true, decide_eq_true_eq, decide_eq_true_eq] at hdigit
  rw [isSlugChar, Bool.or_eq_true, Bool.and_eq_true, Bool.and_eq_true]
  exact Or.inr ⟨decide_eq_true hdigit.1, decide_eq_true hdigit.2⟩

/-- A suffix keeps a slug one. -/
theorem IsSlug.suffixed {s : Text} (h : IsSlug s) (n : Nat) : IsSlug (suffixedSlug s n) where
  ne_nil := by simp [suffixedSlug]
  chars c hc := by
    rw [suffixedSlug, List.mem_append, List.mem_append, List.mem_singleton] at hc
    rcases hc with (hc | hc) | hc
    · exact h.chars c hc
    · exact Or.inr hc
    · exact Or.inl (isSlugChar_of_mem_toDigits hc)
  head := by
    obtain ⟨c, s, rfl⟩ := List.exists_cons_of_ne_nil h.ne_nil
    exact h.head
  last hlast := by
    have hne : Nat.toDigits 10 n ≠ [] := Nat.toDigits_ne_nil
    rw [suffixedSlug, List.getLast?_append_of_ne_nil _ hne] at hlast
    have hclass := isSlugChar_of_mem_toDigits (List.mem_of_getLast? hlast)
    cases hclass

/-! ## The loop -/

/-- A slug exists if an event that is not excluded has it. -/
theorem slugExists_iff {events : Table EventSlug EventSlug.slug} {slug : Text}
    {excludeEventId : Option Text} :
    slugExists events slug excludeEventId = true ↔
      ∃ event ∈ events.rows, event.slug = slug ∧
        excludedEvent excludeEventId ≠ some event.id := by
  simp [slugExists]

/-- What `generate_unique_slug` is to return: it returns, and its slug is one, is held by no other
event, and is the slug of the name or has the smallest suffix from 2 on that makes it free. -/
structure GeneratesSlug (events : Table EventSlug EventSlug.slug) (name : Text)
    (excludeEventId : Option Text) (slug : Text) : Prop where
  returns : ∃ enough, ∀ fuel, enough ≤ fuel →
    generateUniqueSlug lower events name excludeEventId fuel = some slug
  isSlug : IsSlug slug
  free : ∀ event ∈ events.rows, event.slug = slug → excludedEvent excludeEventId = some event.id
  smallest : slug = slugify lower name ∨
    slugExists events (slugify lower name) excludeEventId = true ∧
      ∃ suffix, 2 ≤ suffix ∧ slug = suffixedSlug (slugify lower name) suffix ∧
        ∀ smaller, 2 ≤ smaller → smaller < suffix →
          slugExists events (suffixedSlug (slugify lower name) smaller) excludeEventId = true

private theorem free_of_slugExists {events : Table EventSlug EventSlug.slug} {slug : Text}
    {excludeEventId : Option Text} (h : slugExists events slug excludeEventId = false) :
    ∀ event ∈ events.rows, event.slug = slug →
      excludedEvent excludeEventId = some event.id := by
  intro event hevent hslug
  by_contra hother
  rw [slugExists_iff.mpr ⟨event, hevent, hslug, hother⟩] at h
  cases h

/-- Suffixes make different slugs. -/
theorem suffixedSlug_injective (baseSlug : Text) : Function.Injective (suffixedSlug baseSlug) := by
  intro m n h
  exact toDigits_injective (List.append_cancel_left h)

/-- Some suffix from 2 on makes a slug free. -/
theorem exists_free_suffix (events : Table EventSlug EventSlug.slug) (baseSlug : Text)
    (excludeEventId : Option Text) :
    ∃ suffix, 2 ≤ suffix ∧
      slugExists events (suffixedSlug baseSlug suffix) excludeEventId = false := by
  have hinjective : Function.Injective fun n => suffixedSlug baseSlug (n + 2) :=
    (suffixedSlug_injective baseSlug).comp fun m n h => Nat.add_right_cancel h
  obtain ⟨slug, ⟨n, rfl⟩, hfree⟩ :=
    (Set.infinite_range_of_injective hinjective).exists_notMem_finset
      (events.rows.map EventSlug.slug).toFinset
  refine ⟨n + 2, Nat.le_add_left 2 n, Bool.eq_false_iff.mpr fun hexists => hfree ?_⟩
  obtain ⟨event, hevent, hslug, -⟩ := slugExists_iff.mp hexists
  rw [List.mem_toFinset]
  exact List.mem_map.mpr ⟨event, hevent, hslug⟩

/-- From a suffix on, the loop stops at the first suffix that makes the slug free. -/
theorem uniqueSlugLoop_eq_some {events : Table EventSlug EventSlug.slug} {baseSlug : Text}
    {excludeEventId : Option Text} {suffix free fuel : Nat} (hle : suffix ≤ free)
    (hfree : slugExists events (suffixedSlug baseSlug free) excludeEventId = false)
    (htaken : ∀ smaller, suffix ≤ smaller → smaller < free →
      slugExists events (suffixedSlug baseSlug smaller) excludeEventId = true)
    (hfuel : free - suffix < fuel) :
    uniqueSlugLoop events excludeEventId baseSlug fuel (suffixedSlug baseSlug suffix)
      (suffix + 1) = some (suffixedSlug baseSlug free) := by
  induction fuel generalizing suffix with
  | zero => omega
  | succ fuel ih =>
    rw [uniqueSlugLoop]
    rcases Nat.eq_or_lt_of_le hle with rfl | hlt
    · rw [hfree]
      rfl
    · rw [htaken suffix (le_refl suffix) hlt, if_pos rfl]
      exact ih hlt (fun smaller hsmaller => htaken smaller (by omega)) (by omega)

variable {lower}

/-- A slug that is free is returned at once. -/
theorem generatesSlug_base {events : Table EventSlug EventSlug.slug} {name : Text}
    {excludeEventId : Option Text}
    (hfree : slugExists events (slugify lower name) excludeEventId = false) :
    GeneratesSlug lower events name excludeEventId (slugify lower name) where
  returns := by
    refine ⟨1, fun fuel hfuel => ?_⟩
    obtain ⟨fuel, rfl⟩ := Nat.exists_eq_add_of_le' hfuel
    rw [generateUniqueSlug, uniqueSlugLoop, hfree]
    rfl
  isSlug := isSlug_slugify lower name
  free := free_of_slugExists hfree
  smallest := Or.inl rfl

/-- Otherwise the first free suffix is taken. -/
theorem generatesSlug_suffixed {events : Table EventSlug EventSlug.slug} {name : Text}
    {excludeEventId : Option Text}
    (htaken : slugExists events (slugify lower name) excludeEventId = true) {suffix : Nat}
    (hsuffix : 2 ≤ suffix)
    (hfree : slugExists events (suffixedSlug (slugify lower name) suffix) excludeEventId = false)
    (hsmallest : ∀ smaller, 2 ≤ smaller → smaller < suffix →
      slugExists events (suffixedSlug (slugify lower name) smaller) excludeEventId = true) :
    GeneratesSlug lower events name excludeEventId
      (suffixedSlug (slugify lower name) suffix) where
  returns := by
    refine ⟨suffix, fun fuel hfuel => ?_⟩
    obtain ⟨fuel, rfl⟩ := Nat.exists_eq_add_of_le' (show 1 ≤ fuel by omega)
    rw [generateUniqueSlug, uniqueSlugLoop, htaken, if_pos rfl]
    exact uniqueSlugLoop_eq_some hsuffix hfree hsmallest (by omega)
  isSlug := (isSlug_slugify lower name).suffixed suffix
  free := free_of_slugExists hfree
  smallest := Or.inr ⟨htaken, suffix, hsuffix, rfl, hsmallest⟩

/-- Whether the slugs of the other events leave room for a slug within its column: the slug of the
name itself if no other event has it, or else a suffix with few enough digits. -/
def LeavesRoom (events : Table EventSlug EventSlug.slug) (baseSlug : Text)
    (excludeEventId : Option Text) : Prop :=
  slugExists events baseSlug excludeEventId = false ∧ baseSlug.length ≤ 255 ∨
    slugExists events baseSlug excludeEventId = true ∧
      ∃ suffix, 2 ≤ suffix ∧ suffix < 10 ^ (254 - baseSlug.length) ∧
        slugExists events (suffixedSlug baseSlug suffix) excludeEventId = false

/-- A suffixed slug fits its column if the suffix has few enough digits. -/
theorem length_suffixedSlug_le_iff {baseSlug : Text} {suffix : Nat} (h : 2 ≤ suffix) :
    (suffixedSlug baseSlug suffix).length ≤ 255 ↔ suffix < 10 ^ (254 - baseSlug.length) := by
  have hlength : (suffixedSlug baseSlug suffix).length =
      baseSlug.length + 1 + (Nat.toDigits 10 suffix).length := by
    rw [suffixedSlug, List.length_append, List.length_append, List.length_singleton]
  have hdigits : 0 < (Nat.toDigits 10 suffix).length :=
    List.length_pos_of_ne_nil Nat.toDigits_ne_nil
  rcases Nat.eq_zero_or_pos (254 - baseSlug.length) with hroom | hroom
  · rw [hroom, pow_zero]
    omega
  · rw [← Nat.length_toDigits_le_iff (by omega) hroom]
    omega

/-- A slug is always generated. -/
theorem exists_generatesSlug (events : Table EventSlug EventSlug.slug) (name : Text)
    (excludeEventId : Option Text) :
    ∃ slug, GeneratesSlug lower events name excludeEventId slug := by
  cases hexists : slugExists events (slugify lower name) excludeEventId with
  | false => exact ⟨_, generatesSlug_base hexists⟩
  | true =>
    have hfound := exists_free_suffix events (slugify lower name) excludeEventId
    obtain ⟨hsuffix, hfree⟩ := Nat.find_spec hfound
    refine ⟨_, generatesSlug_suffixed hexists hsuffix hfree fun smaller htwo hlt => ?_⟩
    exact Bool.eq_true_of_not_eq_false fun hsmaller => Nat.find_min hfound hlt ⟨htwo, hsmaller⟩

/-- No other event has a generated slug. -/
theorem GeneratesSlug.slugExists_eq_false {events : Table EventSlug EventSlug.slug} {name : Text}
    {excludeEventId : Option Text} {slug : Text}
    (h : GeneratesSlug lower events name excludeEventId slug) :
    slugExists events slug excludeEventId = false := by
  refine Bool.eq_false_iff.mpr fun htaken => ?_
  obtain ⟨event, hevent, hslug, hother⟩ := slugExists_iff.mp htaken
  exact hother (h.free event hevent hslug)

/-- A generated slug fits its column exactly when the other events leave room for it. -/
theorem generatesSlug_fits_iff {events : Table EventSlug EventSlug.slug} {name : Text}
    {excludeEventId : Option Text} {slug : Text}
    (h : GeneratesSlug lower events name excludeEventId slug) :
    slug.length ≤ 255 ↔ LeavesRoom events (slugify lower name) excludeEventId := by
  have hfree := h.slugExists_eq_false
  rcases h.smallest with rfl | ⟨htaken, suffix, hsuffix, rfl, hsmallest⟩
  · constructor
    · exact fun hlength => Or.inl ⟨hfree, hlength⟩
    · rintro (⟨-, hlength⟩ | ⟨htaken, -⟩)
      · exact hlength
      · rw [hfree] at htaken
        cases htaken
  · rw [length_suffixedSlug_le_iff hsuffix]
    constructor
    · exact fun hroom => Or.inr ⟨htaken, suffix, hsuffix, hroom, hfree⟩
    · rintro (⟨hbase, -⟩ | ⟨-, other, hother, hroom, hotherFree⟩)
      · rw [htaken] at hbase
        cases hbase
      · refine lt_of_le_of_lt (not_lt.mp fun hlt => ?_) hroom
        rw [hsmallest other hother hlt] at hotherFree
        cases hotherFree

/-- A slug is always generated, and it fits its column exactly when the other events leave room
for it. -/
theorem generateUniqueSlug_storable_iff (lower : Text → Text)
    (events : Table EventSlug EventSlug.slug) (name : Text) (excludeEventId : Option Text) :
    (∃ slug, GeneratesSlug lower events name excludeEventId slug) ∧
      ((∃ slug, GeneratesSlug lower events name excludeEventId slug ∧ slug.length ≤ 255) ↔
        LeavesRoom events (slugify lower name) excludeEventId) := by
  have hgenerated : ∃ slug, GeneratesSlug lower events name excludeEventId slug :=
    exists_generatesSlug events name excludeEventId
  refine ⟨hgenerated, fun ⟨slug, hslug, hlength⟩ => (generatesSlug_fits_iff hslug).mp hlength, ?_⟩
  obtain ⟨slug, hslug⟩ := hgenerated
  exact fun hroom => ⟨slug, hslug, (generatesSlug_fits_iff hslug).mpr hroom⟩

/-- A taken slug of 254 characters or more leaves no room. -/
theorem not_leavesRoom {events : Table EventSlug EventSlug.slug} {baseSlug : Text}
    {excludeEventId : Option Text} (htaken : slugExists events baseSlug excludeEventId = true)
    (hlength : 254 ≤ baseSlug.length) : ¬LeavesRoom events baseSlug excludeEventId := by
  rintro (⟨hfree, -⟩ | ⟨-, suffix, hsuffix, hlt, -⟩)
  · rw [htaken] at hfree
    cases hfree
  · rw [Nat.sub_eq_zero_of_le hlength, pow_zero] at hlt
    omega

/-- A name of 255 letters. -/
def longName : Text := List.replicate 255 'a'

/-- The one event there is has this name. -/
def longNameEvents : Table EventSlug EventSlug.slug := ⟨[⟨1, longName⟩], List.nodup_singleton _⟩

/-- The name fits its column and so does the slug that is taken, but no slug of the name does. -/
theorem longName_not_storable :
    longName.length = 255 ∧ (∀ event ∈ longNameEvents.rows, event.slug.length ≤ 255) ∧
      ¬∃ slug, GeneratesSlug id longNameEvents longName none slug ∧ slug.length ≤ 255 := by
  have hname : longName.length = 255 := List.length_replicate
  have hslug : slugify id longName = longName := by decide +kernel
  have hexists : slugExists longNameEvents longName none = true :=
    slugExists_iff.mpr ⟨⟨1, longName⟩, List.mem_singleton_self _, rfl, by decide⟩
  refine ⟨hname, fun event hevent => ?_, fun ⟨slug, hgenerates, hlength⟩ => ?_⟩
  · rw [List.mem_singleton.mp hevent]
    exact hname.le
  · have hroom := (generatesSlug_fits_iff hgenerates).mp hlength
    rw [hslug] at hroom
    exact not_leavesRoom hexists (hname.ge.trans' (Nat.le_succ 254)) hroom

end RaceFrame
