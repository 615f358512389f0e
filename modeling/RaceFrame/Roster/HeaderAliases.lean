import RaceFrame.Core.Trim
import RaceFrame.Core.Upserts
import RaceFrame.Roster.Participants

/-!
# The columns of a participant file

`_normalize_row` reads the bib and the name of a row from the columns whose
headers are aliases of theirs. The aliases are Python sets of texts, which each
process enumerates in an order of its own, and the first filled column wins. So
the row means the same to every process only if no two filled columns of a kind
disagree.
-/

namespace RaceFrame

open Core

/-- The settings of participant files. -/
structure ParticipantFileSettings where
  maxParticipantUploadBytes : Nat
  maxParticipantRows : Nat
  maxParticipantColumns : Nat
  maxParticipantCellChars : Nat
  maxSpreadsheetUncompressedBytes : Nat

/-- What the parsing of a participant file raises. -/
inductive ParticipantFileError
  | valueError (message : String)
  | csvError
  | indexError
  | libraryError
  deriving DecidableEq, Repr

/-- A row of the parsed file, with its two keys. -/
@[ext] structure ParticipantRow where
  bibNumber : Text
  fullName : Text
  deriving DecidableEq

/-- A key or a value of a raw row: `None`, a text, or the list of the surplus fields. -/
inductive RawCell
  | none
  | text (s : Text)
  | fields (items : List Text)
  deriving DecidableEq

/-- `str(value or "")`; how Python writes a list is a parameter. -/
def RawCell.str (reprFields : List Text → Text) : RawCell → Text
  | .none => []
  | .text s => s
  | .fields [] => []
  | .fields items => reprFields items

/-- `HEADER_ALIASES["bib_number"]`. -/
def bibNumberAliases : List Text :=
  ["bib", "bib_number", "bib_no", "bib_num", "bib_no.", "bib#", "bib_number.", "race_number",
    "runner_number", "number"].map String.toList

/-- `HEADER_ALIASES["full_name"]`. -/
def fullNameAliases : List Text :=
  ["full_name", "name", "participant_name", "runner_name", "athlete_name"].map String.toList

/-- `HEADER_ALIASES["first_name"]`. -/
def firstNameAliases : List Text := ["first_name", "firstname", "given_name"].map String.toList

/-- `HEADER_ALIASES["last_name"]`. -/
def lastNameAliases : List Text :=
  ["last_name", "lastname", "surname", "family_name"].map String.toList

/-- The orders in which a process enumerates the alias sets. -/
structure AliasOrders where
  bibNumber : List Text
  fullName : List Text
  firstName : List Text
  lastName : List Text
  bibNumber_perm : bibNumber.Perm bibNumberAliases
  fullName_perm : fullName.Perm fullNameAliases
  firstName_perm : firstName.Perm firstNameAliases
  lastName_perm : lastName.Perm lastNameAliases

/-- The order in which the aliases are written. -/
def AliasOrders.written : AliasOrders where
  bibNumber := bibNumberAliases
  fullName := fullNameAliases
  firstName := firstNameAliases
  lastName := lastNameAliases
  bibNumber_perm := .refl _
  fullName_perm := .refl _
  firstName_perm := .refl _
  lastName_perm := .refl _

variable (cfg : ParticipantFileSettings) (lower : Text → Text) (reprFields : List Text → Text)

/-- `normalize_header`, after `str(value or "")`. -/
def normalizeHeader (text : Text) : Text :=
  collapse (fun c => isSpace c || c == '-') '_' (lower (strip text))

/-- The value under a header, if the row has it and it is not empty. -/
def filled (row : Dict Text Text) (header : Text) : Option Text :=
  (row.value? header).filter (!·.isEmpty)

/-- `_read_value`, for an order of the aliases. -/
def readValue (row : Dict Text Text) (aliases : List Text) : Text :=
  (aliases.findSome? (filled row)).getD []

/-- `f"{first_name} {last_name}".strip()`. -/
def joinNames (firstName lastName : Text) : Text := strip (firstName ++ ' ' :: lastName)

/-- The text of a cell of a raw row. -/
def cellText (cell : RawCell × RawCell) : Text := strip (cell.2.str reprFields)

/-- One turn of the loop of `_normalize_row`. -/
def normalizedCell (cell : RawCell × RawCell) : Except ParticipantFileError (Text × Text) :=
  if cfg.maxParticipantCellChars < (cellText reprFields cell).length then
    .error (.valueError "A participant cell exceeds the configured length limit.")
  else .ok (normalizeHeader lower (cell.1.str reprFields), cellText reprFields cell)

/-- The loop of `_normalize_row`: the trimmed texts under the normalized headers. -/
def normalizedCells (rawRow : List (RawCell × RawCell)) :
    Except ParticipantFileError (Dict Text Text) :=
  (rawRow.mapM (normalizedCell cfg lower reprFields)).map Dict.ofItems

/-- What `_normalize_row` returns for the normalized cells. -/
def participantRowOf (orders : AliasOrders) (normalized : Dict Text Text) : ParticipantRow :=
  let firstName := readValue normalized orders.firstName
  let lastName := readValue normalized orders.lastName
  let fullName := readValue normalized orders.fullName
  { bibNumber := readValue normalized orders.bibNumber
    fullName :=
      if fullName.isEmpty && (!firstName.isEmpty || !lastName.isEmpty) then
        joinNames firstName lastName
      else fullName }

/-- `_normalize_row`. -/
def normalizeRow (orders : AliasOrders) (rawRow : List (RawCell × RawCell)) :
    Except ParticipantFileError ParticipantRow :=
  (normalizedCells cfg lower reprFields rawRow).map (participantRowOf orders)

/-! ## Reading a value -/

/-- No two filled columns of a kind disagree. -/
def Unambiguous (row : Dict Text Text) (aliases : List Text) : Prop :=
  ∀ a ∈ aliases, ∀ b ∈ aliases, ∀ v w, filled row a = some v → filled row b = some w → v = w

/-- What is read is the text of a filled column; nothing is read if there is none. -/
theorem readValue_cases (row : Dict Text Text) (aliases : List Text) :
    (∃ a ∈ aliases, filled row a = some (readValue row aliases)) ∨
      (readValue row aliases = [] ∧ ∀ a ∈ aliases, filled row a = none) := by
  rw [readValue]
  cases hfound : aliases.findSome? (filled row) with
  | none => exact Or.inr ⟨rfl, List.findSome?_eq_none_iff.mp hfound⟩
  | some v =>
    obtain ⟨a, ha, hv⟩ := List.exists_of_findSome?_eq_some hfound
    exact Or.inl ⟨a, ha, hv⟩

theorem ne_nil_of_filled {row : Dict Text Text} {a v : Text} (h : filled row a = some v) :
    v ≠ [] := by
  have hne := (Option.filter_eq_some_iff.mp h).2
  simpa using hne

/-- Nothing is read exactly when no column is filled. -/
theorem readValue_eq_nil_iff {row : Dict Text Text} {aliases : List Text} :
    readValue row aliases = [] ↔ ∀ a ∈ aliases, filled row a = none := by
  constructor
  · intro hnil
    rcases readValue_cases row aliases with ⟨a, -, hfilled⟩ | ⟨-, hnone⟩
    · exact absurd hnil (ne_nil_of_filled hfilled)
    · exact hnone
  · intro hnone
    rw [readValue, List.findSome?_eq_none_iff.mpr hnone]
    rfl

/-- Whether something is read does not depend on the order. -/
theorem readValue_eq_nil_congr {row : Dict Text Text} {xs ys : List Text} (h : xs.Perm ys) :
    readValue row xs = [] ↔ readValue row ys = [] := by
  rw [readValue_eq_nil_iff, readValue_eq_nil_iff]
  exact forall_congr' fun a => imp_congr_left h.mem_iff

/-- Two orders read the same if they do where both of them read something. -/
private theorem readValue_congr_of_ne_nil {row : Dict Text Text} {xs ys : List Text}
    (hperm : xs.Perm ys)
    (h : readValue row xs ≠ [] → readValue row ys ≠ [] → readValue row xs = readValue row ys) :
    readValue row xs = readValue row ys := by
  have hnil : readValue row xs = [] ↔ readValue row ys = [] := readValue_eq_nil_congr hperm
  by_cases hblank : readValue row xs = []
  · rw [hblank, hnil.mp hblank]
  · exact h hblank fun hc => hblank (hnil.mpr hc)

/-- A filled column in front is the one that is read. -/
theorem readValue_cons {row : Dict Text Text} {a v : Text} (h : filled row a = some v)
    (aliases : List Text) : readValue row (a :: aliases) = v := by
  rw [readValue, List.findSome?_cons, h]
  rfl

/-- A text that only is filled in is read in every order. -/
theorem readValue_of_only {row : Dict Text Text} {aliases order : List Text} {a v : Text}
    (hperm : order.Perm aliases) (ha : a ∈ aliases) (hfilled : filled row a = some v)
    (honly : ∀ b ∈ aliases, ∀ w, filled row b = some w → w = v) : readValue row order = v := by
  rcases readValue_cases row order with ⟨b, hb, hread⟩ | ⟨-, hnone⟩
  · exact honly b (hperm.mem_iff.mp hb) _ hread
  · rw [hnone a (hperm.mem_iff.mpr ha)] at hfilled
    cases hfilled

/-- Every order reads the same exactly when no two filled columns disagree. -/
theorem unambiguous_iff {row : Dict Text Text} {aliases : List Text} :
    Unambiguous row aliases ↔
      ∀ xs ys, xs.Perm aliases → ys.Perm aliases → readValue row xs = readValue row ys := by
  constructor
  · intro h xs ys hxs hys
    rcases readValue_cases row xs with ⟨a, ha, hread⟩ | ⟨hread, hnone⟩
    · rcases readValue_cases row ys with ⟨b, hb, hread'⟩ | ⟨-, hnone⟩
      · exact h a (hxs.mem_iff.mp ha) b (hys.mem_iff.mp hb) _ _ hread hread'
      · rw [hnone a ((hxs.trans hys.symm).mem_iff.mp ha)] at hread
        cases hread
    · rw [hread, (readValue_eq_nil_congr (hxs.trans hys.symm)).mp hread]
  · intro h a ha b hb v w hv hw
    have hfront := h _ _ (List.perm_cons_erase ha).symm (List.perm_cons_erase hb).symm
    rwa [readValue_cons hv, readValue_cons hw] at hfront

/-! ## Joining the names -/

/-- A text with no white space at its ends. -/
def IsTrimmed (s : Text) : Prop :=
  (∀ c, s.head? = some c → isSpace c = false) ∧ ∀ c, s.getLast? = some c → isSpace c = false

theorem isTrimmed_nil : IsTrimmed [] := by
  simp [IsTrimmed]

/-- A stripped text is trimmed. -/
theorem isTrimmed_strip (s : Text) : IsTrimmed (strip s) :=
  ⟨fun _ h => head?_trim h, fun _ h => getLast?_trim h⟩

/-- Nothing is stripped from a trimmed text. -/
theorem IsTrimmed.strip_eq {s : Text} (h : IsTrimmed s) : strip s = s := trim_of_ends h.1 h.2

private theorem isSpace_space : isSpace ' ' = true := by decide

/-- With one name missing, the other is the full name. -/
theorem joinNames_nil_left {s : Text} (h : IsTrimmed s) : joinNames [] s = s :=
  (trim_cons isSpace_space s).trans h.strip_eq

theorem joinNames_nil_right {s : Text} (h : IsTrimmed s) : joinNames s [] = s :=
  (trim_concat isSpace_space s).trans h.strip_eq

/-- Two names are joined by a space. -/
theorem joinNames_of_ne_nil {first last : Text} (hfirst : IsTrimmed first)
    (hlast : IsTrimmed last) (hfirst' : first ≠ []) (hlast' : last ≠ []) :
    joinNames first last = first ++ ' ' :: last := by
  refine trim_of_ends (fun c hc => ?_) fun c hc => ?_
  · rw [List.head?_append_of_ne_nil _ hfirst'] at hc
    exact hfirst.1 c hc
  · rw [List.getLast?_append_cons, List.getLast?_cons_of_ne_nil hlast'] at hc
    exact hlast.2 c hc

/-- The first name is known from the full name and the last name. -/
theorem joinNames_left_cancel {first first' last : Text} (hfirst : IsTrimmed first)
    (hfirst' : IsTrimmed first') (hlast : IsTrimmed last) (hne : first ≠ []) (hne' : first' ≠ [])
    (h : joinNames first last = joinNames first' last) : first = first' := by
  by_cases hnil : last = []
  · rwa [hnil, joinNames_nil_right hfirst, joinNames_nil_right hfirst'] at h
  · rw [joinNames_of_ne_nil hfirst hlast hne hnil, joinNames_of_ne_nil hfirst' hlast hne' hnil] at h
    exact List.append_cancel_right h

/-- The last name is known from the full name and the first name. -/
theorem joinNames_right_cancel {first last last' : Text} (hfirst : IsTrimmed first)
    (hlast : IsTrimmed last) (hlast' : IsTrimmed last') (hne : last ≠ []) (hne' : last' ≠ [])
    (h : joinNames first last = joinNames first last') : last = last' := by
  by_cases hnil : first = []
  · rwa [hnil, joinNames_nil_left hlast, joinNames_nil_left hlast'] at h
  · rw [joinNames_of_ne_nil hfirst hlast hnil hne, joinNames_of_ne_nil hfirst hlast' hnil hne'] at h
    exact (List.cons.inj (List.append_cancel_left h)).2

/-! ## The enumeration orders -/

variable {cfg lower reprFields}

/-- The cells of a row are normalized one by one, unless one of them is too long. -/
theorem mapM_normalizedCell (rawRow : List (RawCell × RawCell)) :
    rawRow.mapM (normalizedCell cfg lower reprFields) =
      if ∃ cell ∈ rawRow, cfg.maxParticipantCellChars < (cellText reprFields cell).length then
        .error (.valueError "A participant cell exceeds the configured length limit.")
      else
        .ok (rawRow.map fun cell =>
          (normalizeHeader lower (cell.1.str reprFields), cellText reprFields cell)) := by
  induction rawRow with
  | nil => simp [pure, Except.pure]
  | cons cell rawRow ih =>
    rw [List.mapM_cons, ih, normalizedCell]
    by_cases hcell : cfg.maxParticipantCellChars < (cellText reprFields cell).length
    · rw [if_pos hcell, error_bind]
      exact (if_pos ⟨cell, List.mem_cons_self, hcell⟩).symm
    · rw [if_neg hcell]
      by_cases hrest : ∃ cell ∈ rawRow,
          cfg.maxParticipantCellChars < (cellText reprFields cell).length
      · rw [if_pos hrest, if_pos (hrest.imp fun c hc => ⟨List.mem_cons_of_mem cell hc.1, hc.2⟩)]
        rfl
      · rw [if_neg hrest, if_neg]
        · rfl
        · simp only [List.mem_cons, not_exists, not_and] at hrest ⊢
          rintro c (rfl | hc)
          · exact hcell
          · exact hrest c hc

/-- The texts of the normalized cells are trimmed. -/
theorem isTrimmed_readValue {rawRow : List (RawCell × RawCell)} {row : Dict Text Text}
    (h : normalizedCells cfg lower reprFields rawRow = .ok row) (aliases : List Text) :
    IsTrimmed (readValue row aliases) := by
  rcases readValue_cases row aliases with ⟨a, -, hread⟩ | ⟨hread, -⟩
  · rw [normalizedCells, mapM_normalizedCell] at h
    split at h
    · cases h
    · cases h
      have hvalue := (Option.filter_eq_some_iff.mp hread).1
      rw [Dict.value?_ofItems, Option.map_eq_some_iff] at hvalue
      obtain ⟨item, hitem, hread⟩ := hvalue
      have hmem := List.mem_of_mem_filter (List.mem_of_getLast? hitem)
      obtain ⟨cell, -, rfl⟩ := List.mem_map.mp hmem
      rw [← hread]
      exact isTrimmed_strip _
  · rw [hread]
    exact isTrimmed_nil

/-- A full name that is read is the full name of the row. -/
theorem participantRowOf_fullName_of_ne_nil {orders : AliasOrders} {row : Dict Text Text}
    (h : readValue row orders.fullName ≠ []) :
    (participantRowOf orders row).fullName = readValue row orders.fullName := by
  simp [participantRowOf, h]

/-- Without a full name, the row is named by its first and its last name. -/
theorem participantRowOf_fullName_of_eq_nil {orders : AliasOrders} {row : Dict Text Text}
    (h : readValue row orders.fullName = []) :
    (participantRowOf orders row).fullName =
      joinNames (readValue row orders.firstName) (readValue row orders.lastName) := by
  by_cases hblank : readValue row orders.firstName = [] ∧ readValue row orders.lastName = []
  · rw [hblank.1, hblank.2, joinNames_nil_left isTrimmed_nil]
    simp [participantRowOf, h, hblank.1, hblank.2]
  · rw [not_and_or] at hblank
    simp [participantRowOf, h, hblank]

/-- The cells of a row whose kinds do not disagree: the bib columns, and the columns of the full
name, or if these are all blank, those of the first and those of the last name. -/
structure Consistent (row : Dict Text Text) : Prop where
  bibNumber : Unambiguous row bibNumberAliases
  fullName : Unambiguous row fullNameAliases
  firstName : (∀ a ∈ fullNameAliases, filled row a = none) → Unambiguous row firstNameAliases
  lastName : (∀ a ∈ fullNameAliases, filled row a = none) → Unambiguous row lastNameAliases

/-- A consistent row means the same in every order. -/
theorem Consistent.participantRowOf_congr {row : Dict Text Text} (h : Consistent row)
    (orders orders' : AliasOrders) :
    participantRowOf orders row = participantRowOf orders' row := by
  have hbib := unambiguous_iff.mp h.bibNumber _ _ orders.bibNumber_perm orders'.bibNumber_perm
  have hfull := unambiguous_iff.mp h.fullName _ _ orders.fullName_perm orders'.fullName_perm
  refine ParticipantRow.ext hbib ?_
  by_cases hblank : readValue row orders.fullName = []
  · have hnone := readValue_eq_nil_iff.mp
      ((readValue_eq_nil_congr orders.fullName_perm).mp hblank)
    rw [participantRowOf_fullName_of_eq_nil hblank,
      participantRowOf_fullName_of_eq_nil (hfull ▸ hblank),
      unambiguous_iff.mp (h.firstName hnone) _ _ orders.firstName_perm orders'.firstName_perm,
      unambiguous_iff.mp (h.lastName hnone) _ _ orders.lastName_perm orders'.lastName_perm]
  · rw [participantRowOf_fullName_of_ne_nil hblank,
      participantRowOf_fullName_of_ne_nil (hfull ▸ hblank), hfull]

/-- A row that means the same in every order is consistent. -/
theorem consistent_of_congr {rawRow : List (RawCell × RawCell)} {row : Dict Text Text}
    (hrow : normalizedCells cfg lower reprFields rawRow = .ok row)
    (h : ∀ orders orders', participantRowOf orders row = participantRowOf orders' row) :
    Consistent row where
  bibNumber := by
    refine unambiguous_iff.mpr fun xs ys hxs hys => ?_
    exact congrArg ParticipantRow.bibNumber
      (h { AliasOrders.written with bibNumber := xs, bibNumber_perm := hxs }
        { AliasOrders.written with bibNumber := ys, bibNumber_perm := hys })
  fullName := by
    refine unambiguous_iff.mpr fun xs ys hxs hys => ?_
    refine readValue_congr_of_ne_nil (hxs.trans hys.symm) fun hne hne' => ?_
    have hname := congrArg ParticipantRow.fullName
      (h { AliasOrders.written with fullName := xs, fullName_perm := hxs }
        { AliasOrders.written with fullName := ys, fullName_perm := hys })
    rwa [participantRowOf_fullName_of_ne_nil hne, participantRowOf_fullName_of_ne_nil hne'] at hname
  firstName hnone := by
    refine unambiguous_iff.mpr fun xs ys hxs hys => ?_
    refine readValue_congr_of_ne_nil (hxs.trans hys.symm) fun hne hne' => ?_
    have hname := congrArg ParticipantRow.fullName
      (h { AliasOrders.written with firstName := xs, firstName_perm := hxs }
        { AliasOrders.written with firstName := ys, firstName_perm := hys })
    have hblank : readValue row fullNameAliases = [] := readValue_eq_nil_iff.mpr hnone
    rw [participantRowOf_fullName_of_eq_nil hblank, participantRowOf_fullName_of_eq_nil hblank]
      at hname
    exact joinNames_left_cancel (isTrimmed_readValue hrow xs) (isTrimmed_readValue hrow ys)
      (isTrimmed_readValue hrow _) hne hne' hname
  lastName hnone := by
    refine unambiguous_iff.mpr fun xs ys hxs hys => ?_
    refine readValue_congr_of_ne_nil (hxs.trans hys.symm) fun hne hne' => ?_
    have hname := congrArg ParticipantRow.fullName
      (h { AliasOrders.written with lastName := xs, lastName_perm := hxs }
        { AliasOrders.written with lastName := ys, lastName_perm := hys })
    have hblank : readValue row fullNameAliases = [] := readValue_eq_nil_iff.mpr hnone
    rw [participantRowOf_fullName_of_eq_nil hblank, participantRowOf_fullName_of_eq_nil hblank]
      at hname
    exact joinNames_right_cancel (isTrimmed_readValue hrow _) (isTrimmed_readValue hrow xs)
      (isTrimmed_readValue hrow ys) hne hne' hname

/-- A row is normalized to the same pair in every order of the alias sets exactly when it is refused
or consistent. -/
theorem normalizeRow_order_independent_iff (cfg : ParticipantFileSettings) (lower : Text → Text)
    (reprFields : List Text → Text) (rawRow : List (RawCell × RawCell)) :
    (∀ orders orders', normalizeRow cfg lower reprFields orders rawRow =
        normalizeRow cfg lower reprFields orders' rawRow) ↔
      ∀ row, normalizedCells cfg lower reprFields rawRow = .ok row → Consistent row := by
  constructor
  · intro h row hrow
    refine consistent_of_congr hrow fun orders orders' => ?_
    have heq := h orders orders'
    rw [normalizeRow, normalizeRow, hrow] at heq
    exact Except.ok.inj heq
  · intro h orders orders'
    rw [normalizeRow, normalizeRow]
    cases hrow : normalizedCells cfg lower reprFields rawRow with
    | error e => rfl
    | ok row => exact congrArg Except.ok ((h row hrow).participantRowOf_congr orders orders')

/-- The settings as they are by default. -/
def ParticipantFileSettings.default : ParticipantFileSettings :=
  ⟨5 * 1024 * 1024, 10000, 32, 512, 50 * 1024 * 1024⟩

/-- A row with two filled columns whose headers are aliases of the bib. -/
def twoBibColumns : List (RawCell × RawCell) :=
  [(.text "bib".toList, .text "12".toList), (.text "number".toList, .text "7".toList),
    (.text "name".toList, .text "Ada".toList)]

/-- One process reads the one column, and another process reads the other. -/
theorem twoBibColumns_depends_on_order :
    normalizeRow .default id (fun _ => []) .written twoBibColumns =
        .ok ⟨"12".toList, "Ada".toList⟩ ∧
      normalizeRow .default id (fun _ => [])
          { AliasOrders.written with
            bibNumber := bibNumberAliases.reverse
            bibNumber_perm := List.reverse_perm _ } twoBibColumns =
        .ok ⟨"7".toList, "Ada".toList⟩ ∧
      ¬∀ orders orders', normalizeRow .default id (fun _ => []) orders twoBibColumns =
        normalizeRow .default id (fun _ => []) orders' twoBibColumns := by
  have hwritten : normalizeRow .default id (fun _ => []) .written twoBibColumns =
      .ok ⟨"12".toList, "Ada".toList⟩ := by
    rfl
  have hreversed : normalizeRow .default id (fun _ => [])
      { AliasOrders.written with
        bibNumber := bibNumberAliases.reverse
        bibNumber_perm := List.reverse_perm _ } twoBibColumns =
      .ok ⟨"7".toList, "Ada".toList⟩ := by
    rfl
  refine ⟨hwritten, hreversed, fun h => ?_⟩
  have heq := (hwritten.symm.trans (h _ _)).trans hreversed
  exact absurd (congrArg ParticipantRow.bibNumber (Except.ok.inj heq)) (by decide)

end RaceFrame
