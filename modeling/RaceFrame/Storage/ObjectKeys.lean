import RaceFrame.Core.Segments
import RaceFrame.Core.Trim
import RaceFrame.Events.Thumbnails
import RaceFrame.Text.Lower

/-!
# Object keys

The keys of the stored objects as paths. Every builder makes the key of fixed
folders, identifiers and one file name at the end, and neither an identifier nor
a sanitised file name has a slash in it. So the markers that
`is_sensitive_temporary_key` looks for can only be folders, and the folders tell
selfies and search images from all other objects for all file names.
-/

namespace RaceFrame

open Core

/-- What a builder makes an object key of. -/
inductive ObjectKey
  | original (eventId photoId : Uuid) (fileName : Text)
  | thumbnail (eventId photoId : Uuid) (fileName : Text)
  | eventThumbnail (eventId id : Uuid)
  | selfie (eventId participantId faceImageId : Uuid) (fileName : Text)
  | search (eventId searchSessionId searchImageId : Uuid) (fileName : Text)

namespace ObjectKey

variable (context : CaseContext) (tools : ImageTools)

/-- The key that the builder makes. -/
def key : ObjectKey → Text
  | original eventId photoId fileName =>
    buildOriginalObjectKey { tools with lower := lower context } eventId photoId fileName
  | thumbnail eventId photoId fileName => buildThumbnailObjectKey eventId photoId fileName
  | eventThumbnail eventId id => eventThumbnailKey eventId id
  | selfie eventId participantId faceImageId fileName =>
    buildFaceSelfieObjectKey { tools with lower := lower context } eventId participantId faceImageId
      fileName
  | search eventId searchSessionId searchImageId fileName =>
    buildFaceSearchObjectKey { tools with lower := lower context } eventId searchSessionId
      searchImageId fileName

/-- The keys of temporary biometric objects. -/
def isBiometric : ObjectKey → Bool
  | original .. | thumbnail .. | eventThumbnail .. => false
  | selfie .. | search .. => true

/-- The folders below `events`. -/
def folders : ObjectKey → List Text
  | original eventId _ _ => [uuidText eventId, "originals".toList]
  | thumbnail eventId _ _ => [uuidText eventId, "thumbnails".toList]
  | eventThumbnail eventId _ => [uuidText eventId, "event-thumbnails".toList]
  | selfie eventId participantId _ _ =>
    [uuidText eventId, "participants".toList, uuidText participantId, "faces".toList]
  | search eventId searchSessionId _ _ =>
    [uuidText eventId, "face-search".toList, uuidText searchSessionId]

/-- The name in the last folder. -/
def name : ObjectKey → Text
  | original _ photoId fileName =>
    storedName { tools with lower := lower context } photoId fileName "photo".toList
  | thumbnail _ photoId fileName =>
    uuidText photoId ++ ['-'] ++ safeBaseName (pathParts fileName).1 "photo".toList ++ ".jpg".toList
  | eventThumbnail _ id => uuidText id ++ ".jpg".toList
  | selfie _ _ faceImageId fileName =>
    storedName { tools with lower := lower context } faceImageId fileName "selfie".toList
  | search _ _ searchImageId fileName =>
    storedName { tools with lower := lower context } searchImageId fileName "face-photo".toList

end ObjectKey

/-- `is_sensitive_temporary_key`. -/
def isSensitiveTemporaryKey (key : Text) : Bool :=
  decide ("/face-search/".toList <:+: key) ||
    decide ("/participants/".toList <:+: key) && decide ("/faces/".toList <:+: key)

/-! ## Names without slashes -/

private theorem digitChar_ne : ∀ k < 16, Nat.digitChar k ≠ '/' ∧ Nat.digitChar k ≠ 's' := by decide

theorem slash_not_mem_uuidText (id : Uuid) : '/' ∉ uuidText id := by
  intro h
  rcases dash_or_digitChar_of_mem_uuidText h with h | ⟨k, hk, h⟩
  · exact absurd h (by decide)
  · exact (digitChar_ne k hk).1 h.symm

private theorem s_not_mem_uuidText (id : Uuid) : 's' ∉ uuidText id := by
  intro h
  rcases dash_or_digitChar_of_mem_uuidText h with h | ⟨k, hk, h⟩
  · exact absurd h (by decide)
  · exact (digitChar_ne k hk).2 h.symm

private theorem mem_stripChars {chars s : Text} {c : Char} (h : c ∈ stripChars chars s) : c ∈ s :=
  mem_of_mem_trim (p := (chars.contains ·)) h

private theorem mem_intersperse {α : Type} {separator x : α} {xs : List α}
    (h : x ∈ xs.intersperse separator) : x = separator ∨ x ∈ xs := by
  induction xs using List.twoStepInduction with
  | nil => exact Or.inr h
  | singleton a => exact Or.inr h
  | cons_cons a b xs _ ih =>
    rw [List.intersperse_cons_cons, List.mem_cons, List.mem_cons] at h
    rcases h with rfl | rfl | h
    · exact Or.inr List.mem_cons_self
    · exact Or.inl rfl
    · exact (ih b h).imp_right (List.mem_cons_of_mem a)

/-- A sanitised name has no slash. -/
theorem slash_not_mem_safeBaseName {stem fallback : Text} (h : '/' ∉ fallback) :
    '/' ∉ safeBaseName stem fallback := by
  simp only [safeBaseName]
  split
  · exact h
  · intro hmem
    obtain ⟨run, hrun, hslash⟩ := List.mem_flatten.mp (mem_stripChars hmem)
    rcases mem_intersperse hrun with rfl | hrun
    · exact absurd hslash (by decide)
    · exact absurd (all_of_mem_maximalRuns hrun '/' hslash) (by decide)

private theorem slash_not_mem_suffix (fileName : Text) : '/' ∉ (pathParts fileName).2 := by
  have hname : '/' ∉ pathName fileName := fun h => (mem_pathName h).2 rfl
  simp only [pathParts]
  split
  · exact List.not_mem_nil
  · rw [rpartitionDot]
    split
    · exact hname
    · rw [List.mem_append, List.mem_singleton, List.mem_reverse]
      rintro (h | h)
      · exact absurd h (by decide)
      · exact hname (List.mem_reverse.mp ((List.takeWhile_prefix _).subset h))

/-- A stored name has no slash. -/
theorem slash_not_mem_storedName (context : CaseContext) (tools : ImageTools) (id : Uuid)
    (fileName : Text) {fallback : Text} (h : '/' ∉ fallback) :
    '/' ∉ storedName { tools with lower := lower context } id fileName fallback := by
  have hsuffix : '/' ∉ loweredSuffix { tools with lower := lower context } fileName :=
    slash_not_mem_lower context (slash_not_mem_suffix fileName)
  simp only [storedName, List.mem_append, not_or]
  refine ⟨⟨⟨slash_not_mem_uuidText id, by decide⟩, slash_not_mem_safeBaseName h⟩, ?_⟩
  split
  · decide
  · exact hsuffix

namespace ObjectKey

variable (context : CaseContext) (tools : ImageTools)

theorem slash_not_mem_name (k : ObjectKey) : '/' ∉ k.name context tools := by
  cases k with
  | original _ photoId fileName =>
    exact slash_not_mem_storedName context tools photoId fileName (by decide)
  | thumbnail _ photoId fileName =>
    simp only [name, List.mem_append, not_or]
    exact ⟨⟨⟨slash_not_mem_uuidText photoId, by decide⟩, slash_not_mem_safeBaseName (by decide)⟩,
      by decide⟩
  | eventThumbnail _ id =>
    rw [name, List.mem_append, not_or]
    exact ⟨slash_not_mem_uuidText id, by decide⟩
  | selfie _ _ faceImageId fileName =>
    exact slash_not_mem_storedName context tools faceImageId fileName (by decide)
  | search _ _ searchImageId fileName =>
    exact slash_not_mem_storedName context tools searchImageId fileName (by decide)

theorem slash_not_mem_folders (k : ObjectKey) : ∀ folder ∈ k.folders, '/' ∉ folder := by
  have huuid := slash_not_mem_uuidText
  have hnil : ∀ folder ∈ ([] : List Text), '/' ∉ folder := List.forall_mem_nil _
  cases k <;> simp only [folders, List.forall_mem_cons]
  case original | thumbnail | eventThumbnail => exact ⟨huuid _, by decide, hnil⟩
  case selfie => exact ⟨huuid _, by decide, huuid _, by decide, hnil⟩
  case search => exact ⟨huuid _, by decide, huuid _, hnil⟩

section Paths

variable {root rootSlash folder folderSlashes inner innerSlashes a b last : Text}

private theorem root_folder (hroot : rootSlash = root ++ ['/'])
    (hfolder : folderSlashes = '/' :: (folder ++ ['/'])) :
    rootSlash ++ a ++ folderSlashes ++ last = root ++ behind '/' [a, folder, last] := by
  rw [hroot, hfolder]
  simp only [behind_cons, behind_nil, List.append_assoc, List.cons_append, List.nil_append,
    List.append_nil]

private theorem root_folder_id (hroot : rootSlash = root ++ ['/'])
    (hfolder : folderSlashes = '/' :: (folder ++ ['/'])) :
    rootSlash ++ a ++ folderSlashes ++ b ++ ['/'] ++ last =
      root ++ behind '/' [a, folder, b, last] := by
  rw [root_folder hroot hfolder]
  simp only [behind_cons, behind_nil, List.append_assoc, List.cons_append, List.nil_append,
    List.append_nil]

private theorem root_folder_folder (hroot : rootSlash = root ++ ['/'])
    (hfolder : folderSlashes = '/' :: (folder ++ ['/']))
    (hinner : innerSlashes = '/' :: (inner ++ ['/'])) :
    rootSlash ++ a ++ folderSlashes ++ b ++ innerSlashes ++ last =
      root ++ behind '/' [a, folder, b, inner, last] := by
  rw [root_folder hroot hfolder, hinner]
  simp only [behind_cons, behind_nil, List.append_assoc, List.cons_append, List.nil_append,
    List.append_nil]

private theorem append_name (path id dash base suffix : Text) :
    path ++ id ++ dash ++ base ++ suffix = path ++ (id ++ dash ++ base ++ suffix) := by
  simp only [List.append_assoc]

end Paths

/-- A key is the path of its folders and its name. -/
theorem key_eq_path (k : ObjectKey) :
    k.key context tools =
      "events".toList ++ behind '/' (k.folders ++ [k.name context tools]) := by
  cases k with
  | original => exact root_folder (by decide) (by decide)
  | thumbnail =>
    exact (append_name _ _ _ _ _).trans (root_folder (by decide) (by decide))
  | eventThumbnail =>
    exact (List.append_assoc _ _ _).trans (root_folder (by decide) (by decide))
  | selfie => exact root_folder_folder (by decide) (by decide) (by decide)
  | search => exact root_folder_id (by decide) (by decide)

/-- A marker occurs in a key exactly when it is one of its folders. -/
theorem infix_key_iff (k : ObjectKey) {text marker : Text} (htext : text = delimited '/' marker)
    (h : '/' ∉ marker) : text <:+: k.key context tools ↔ marker ∈ k.folders := by
  rw [htext, key_eq_path]
  exact delimited_infix_path h (by decide) k.slash_not_mem_folders
    (k.slash_not_mem_name context tools)

private theorem ne_uuidText {marker : Text} (h : 's' ∈ marker) (id : Uuid) : marker ≠ uuidText id :=
  fun heq => s_not_mem_uuidText id (heq ▸ h)

/-- The folders tell the temporary biometric objects. -/
theorem isBiometric_iff (k : ObjectKey) :
    k.isBiometric = true ↔ "face-search".toList ∈ k.folders ∨
      "participants".toList ∈ k.folders ∧ "faces".toList ∈ k.folders := by
  have hsearch (id : Uuid) : "face-search".toList ≠ uuidText id := ne_uuidText (by decide) id
  have hparticipants (id : Uuid) : "participants".toList ≠ uuidText id :=
    ne_uuidText (by decide) id
  cases k with
  | original eventId _ _ | thumbnail eventId _ _ | eventThumbnail eventId _ =>
    refine iff_of_false Bool.false_ne_true ?_
    rintro (h | ⟨h, -⟩)
    · rcases List.mem_cons.mp h with h | h
      · exact hsearch eventId h
      · exact absurd (List.mem_singleton.mp h) (by decide)
    · rcases List.mem_cons.mp h with h | h
      · exact hparticipants eventId h
      · exact absurd (List.mem_singleton.mp h) (by decide)
  | selfie eventId participantId _ _ =>
    refine iff_of_true rfl (Or.inr ⟨?_, ?_⟩)
    · exact List.mem_cons_of_mem _ List.mem_cons_self
    · exact List.mem_cons_of_mem _ (List.mem_cons_of_mem _ (List.mem_cons_of_mem _
        List.mem_cons_self))
  | search eventId searchSessionId _ _ =>
    exact iff_of_true rfl (Or.inl (List.mem_cons_of_mem _ List.mem_cons_self))

private theorem decide_or_and {p q r : Prop} [Decidable p] [Decidable q] [Decidable r] :
    (decide p || decide q && decide r) = true ↔ p ∨ q ∧ r := by
  rw [Bool.or_eq_true, Bool.and_eq_true, decide_eq_true_eq, decide_eq_true_eq, decide_eq_true_eq]

/-- Exactly the selfies and the search images are classified as sensitive. -/
theorem isSensitiveTemporaryKey_key (k : ObjectKey) :
    isSensitiveTemporaryKey (k.key context tools) = k.isBiometric := by
  have hsearch : "/face-search/".toList <:+: k.key context tools ↔
      "face-search".toList ∈ k.folders := k.infix_key_iff context tools (by decide) (by decide)
  have hparticipants : "/participants/".toList <:+: k.key context tools ↔
      "participants".toList ∈ k.folders := k.infix_key_iff context tools (by decide) (by decide)
  have hfaces : "/faces/".toList <:+: k.key context tools ↔
      "faces".toList ∈ k.folders := k.infix_key_iff context tools (by decide) (by decide)
  have hsensitive := or_congr hsearch (and_congr hparticipants hfaces)
  exact Bool.eq_iff_iff.mpr (decide_or_and.trans (hsensitive.trans k.isBiometric_iff.symm))

/-- Every key lies below `events/`. -/
theorem events_prefix_key (k : ObjectKey) : "events/".toList <+: k.key context tools := by
  have hprefix {root rootSlash tail : Text} (hroot : rootSlash = root ++ ['/']) :
      rootSlash <+: root ++ '/' :: tail := by
    rw [hroot]
    exact (List.prefix_append_right_inj root).mpr (List.prefix_append ['/'] tail)
  rw [key_eq_path]
  cases k <;> exact hprefix (by decide)

theorem key_ne_nil (k : ObjectKey) : k.key context tools ≠ [] := by
  intro hnil
  have hlength := (k.events_prefix_key context tools).length_le
  rw [hnil] at hlength
  exact absurd hlength (by decide)

end ObjectKey

end RaceFrame
