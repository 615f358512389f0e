import RaceFrame.Roster.ParticipantFile
import RaceFrame.Schema.Rational

/-!
# What the parsing of a participant file raises

Each check of the parsing raises a `ValueError`. What escapes is a `csv.Error`, the
`IndexError` of a spreadsheet row that is longer than the header row, and what
the libraries raise beyond the handlers; and that only if no earlier row is
refused, since the rows are parsed as they are read.
-/

namespace RaceFrame

open Core

/-- The outcome is a result or a `ValueError`. -/
def OnlyValueError {α : Type} (outcome : Except ParticipantFileError α) : Prop :=
  ∀ e, outcome = .error e → ∃ message, e = .valueError message

/-- The outcome is a `ValueError`. -/
def Refused {α : Type} (outcome : Except ParticipantFileError α) : Prop :=
  ∃ message, outcome = .error (.valueError message)

variable {α β : Type} {cfg : ParticipantFileSettings}

theorem onlyValueError_ok (a : α) : OnlyValueError (.ok a) := by
  rintro e ⟨⟩

theorem onlyValueError_valueError (message : String) :
    OnlyValueError (.error (.valueError message) : Except ParticipantFileError α) := by
  rintro e ⟨⟩
  exact ⟨message, rfl⟩

theorem onlyValueError_error_iff {e : ParticipantFileError} :
    OnlyValueError (.error e : Except ParticipantFileError α) ↔
      ∃ message, e = .valueError message := by
  refine ⟨fun h => h e rfl, ?_⟩
  rintro ⟨message, rfl⟩
  exact onlyValueError_valueError message

/-- A result is no reason to raise anything else. -/
theorem onlyValueError_map_iff {outcome : Except ParticipantFileError α} {f : α → β} :
    OnlyValueError (outcome.map f) ↔ OnlyValueError outcome := by
  cases outcome with
  | error e => rw [Except.map, onlyValueError_error_iff, onlyValueError_error_iff]
  | ok a => exact iff_of_true (onlyValueError_ok _) (onlyValueError_ok _)

/-- Reading the rows from one number on raises something else than a `ValueError` only where no row
before is refused and the rows are not too many. -/
structure ReadsSafely (maxRows : Nat) (parse : α → Except ParticipantFileError ParticipantRow)
    (ending : Except ParticipantFileError Unit) (index : Nat) (rows : List α) : Prop where
  rowSafe : ∀ before row after, rows = before ++ row :: after → ¬OnlyValueError (parse row) →
    maxRows < index + before.length ∨ ∃ r ∈ before, Refused (parse r)
  endingSafe : ¬OnlyValueError ending →
    maxRows + 1 < index + rows.length ∨ ∃ r ∈ rows, Refused (parse r)

private theorem readsSafely_cons_iff {maxRows index : Nat}
    {parse : α → Except ParticipantFileError ParticipantRow}
    {ending : Except ParticipantFileError Unit} {row : α} {rows : List α}
    (hsafe : OnlyValueError (parse row)) (hrefused : ¬Refused (parse row)) :
    ReadsSafely maxRows parse ending index (row :: rows) ↔
      ReadsSafely maxRows parse ending (index + 1) rows := by
  have hcons : ∀ before : List α, (∃ r ∈ row :: before, Refused (parse r)) ↔
      ∃ r ∈ before, Refused (parse r) := by
    intro before
    rw [List.exists_mem_cons_iff]
    exact or_iff_right hrefused
  constructor
  · intro h
    refine ⟨fun before r after hrows hescapes => ?_, fun hescapes => ?_⟩
    · have hmany := h.rowSafe (row :: before) r after (by rw [hrows, List.cons_append]) hescapes
      rw [hcons, List.length_cons] at hmany
      rwa [Nat.add_right_comm]
    · have hmany := h.endingSafe hescapes
      rw [hcons, List.length_cons] at hmany
      rwa [Nat.add_right_comm]
  · intro h
    refine ⟨fun before r after hrows hescapes => ?_, fun hescapes => ?_⟩
    · rcases List.cons_eq_append_iff.mp hrows with ⟨rfl, hhead⟩ | ⟨before, rfl, htail⟩
      · rw [(List.cons.inj hhead).1] at hescapes
        exact absurd hsafe hescapes
      · have hmany := h.rowSafe before r after htail hescapes
        rw [hcons, List.length_cons]
        rwa [Nat.add_right_comm] at hmany
    · have hmany := h.endingSafe hescapes
      rw [hcons, List.length_cons]
      rwa [Nat.add_right_comm] at hmany

/-- The loop over the rows raises a `ValueError` at most exactly when it reads them safely. -/
theorem collectRows_onlyValueError_iff
    {parse : α → Except ParticipantFileError ParticipantRow}
    {ending : Except ParticipantFileError Unit} {index : Nat} {rows : List α}
    (hindex : index ≤ cfg.maxParticipantRows + 1) :
    OnlyValueError (collectRows cfg parse ending index rows) ↔
      ReadsSafely cfg.maxParticipantRows parse ending index rows := by
  induction rows generalizing index with
  | nil =>
    rw [collectRows, onlyValueError_map_iff]
    constructor
    · intro h
      refine ⟨fun before row after hrows => ?_, fun hnot => absurd h hnot⟩
      simp at hrows
    · intro h
      by_contra hnot
      rcases h.endingSafe hnot with hmany | ⟨r, hr, -⟩
      · rw [List.length_nil] at hmany
        omega
      · cases hr
  | cons row rows ih =>
    rw [collectRows]
    by_cases hmany : cfg.maxParticipantRows < index
    · rw [if_pos hmany]
      refine iff_of_true (onlyValueError_valueError _) ⟨fun before r after _ _ => ?_, fun _ => ?_⟩
      · exact Or.inl (by omega)
      · rw [List.length_cons]
        exact Or.inl (by omega)
    · rw [if_neg hmany]
      cases hparse : parse row with
      | ok normalized =>
        have hsafe : OnlyValueError (parse row) := hparse ▸ onlyValueError_ok normalized
        have hrefused : ¬Refused (parse row) := by
          rw [hparse]
          rintro ⟨message, ⟨⟩⟩
        rw [ok_bind, readsSafely_cons_iff hsafe hrefused, ← ih (by omega)]
        exact onlyValueError_map_iff
      | error e =>
        rw [error_bind, onlyValueError_error_iff]
        constructor
        · rintro ⟨message, rfl⟩
          refine ⟨fun before r after hrows hescapes => Or.inr ?_, fun _ => Or.inr ?_⟩
          · rcases List.cons_eq_append_iff.mp hrows with ⟨rfl, hhead⟩ | ⟨before, rfl, htail⟩
            · rw [(List.cons.inj hhead).1, hparse] at hescapes
              exact absurd (onlyValueError_valueError message) hescapes
            · exact ⟨row, List.mem_cons_self, message, hparse⟩
          · exact ⟨row, List.mem_cons_self, message, hparse⟩
        · intro h
          by_contra hnot
          have hescapes : ¬OnlyValueError (parse row) := by
            rwa [hparse, onlyValueError_error_iff]
          rcases h.rowSafe [] row rows rfl hescapes with hmany' | ⟨r, hr, -⟩
          · exact hmany hmany'
          · cases hr

/-! ## One row -/

/-- Some cell of a raw row is too long. -/
def HasLongCell (cfg : ParticipantFileSettings) (reprFields : List Text → Text)
    (rawRow : List (RawCell × RawCell)) : Prop :=
  ∃ cell ∈ rawRow, cfg.maxParticipantCellChars < (cellText reprFields cell).length

variable {F : Type} {lib : FileLibrary F} {orders : AliasOrders}

/-- A row is normalized unless it has a cell that is too long. -/
theorem normalizeRow_eq_ok {lower : Text → Text} {reprFields : List Text → Text}
    {rawRow : List (RawCell × RawCell)} (h : ¬HasLongCell cfg reprFields rawRow) :
    normalizeRow cfg lower reprFields orders rawRow =
      .ok (participantRowOf orders (Dict.ofItems (rawRow.map fun cell =>
        (normalizeHeader lower (cell.1.str reprFields), cellText reprFields cell)))) := by
  rw [HasLongCell] at h
  rw [normalizeRow, normalizedCells, mapM_normalizedCell, if_neg h]
  rfl

theorem normalizeRow_eq_error {lower : Text → Text} {reprFields : List Text → Text}
    {rawRow : List (RawCell × RawCell)} (h : HasLongCell cfg reprFields rawRow) :
    normalizeRow cfg lower reprFields orders rawRow =
      .error (.valueError "A participant cell exceeds the configured length limit.") := by
  rw [HasLongCell] at h
  rw [normalizeRow, normalizedCells, mapM_normalizedCell, if_pos h]
  rfl

theorem normalizeRow_onlyValueError (lower : Text → Text) (reprFields : List Text → Text)
    (rawRow : List (RawCell × RawCell)) :
    OnlyValueError (normalizeRow cfg lower reprFields orders rawRow) := by
  by_cases h : HasLongCell cfg reprFields rawRow
  · rw [normalizeRow_eq_error h]
    exact onlyValueError_valueError _
  · rw [normalizeRow_eq_ok h]
    exact onlyValueError_ok _

/-- A row is refused exactly for a cell that is too long. -/
theorem normalizeRow_refused_iff {lower : Text → Text} {reprFields : List Text → Text}
    {rawRow : List (RawCell × RawCell)} :
    Refused (normalizeRow cfg lower reprFields orders rawRow) ↔
      HasLongCell cfg reprFields rawRow := by
  by_cases h : HasLongCell cfg reprFields rawRow
  · rw [normalizeRow_eq_error h]
    exact iff_of_true ⟨_, rfl⟩ h
  · rw [normalizeRow_eq_ok h]
    refine iff_of_false ?_ h
    rintro ⟨message, ⟨⟩⟩

/-- A row of a sheet is refused for its number of columns, or for a cell that is too long. -/
def SheetRowRefused (cfg : ParticipantFileSettings) (lib : FileLibrary F) (headers : List Text)
    (values : List (SheetCell F)) : Prop :=
  cfg.maxParticipantColumns < values.length ∨
    values.length ≤ headers.length ∧
      HasLongCell cfg lib.reprFields (sheetItems lib headers values)

theorem sheetRow_refused_iff {headers : List Text} {values : List (SheetCell F)} :
    Refused (sheetRow cfg lib orders headers values) ↔
      SheetRowRefused cfg lib headers values := by
  rw [sheetRow, SheetRowRefused]
  split
  · rename_i hcolumns
    exact iff_of_true ⟨_, rfl⟩ (Or.inl hcolumns)
  · rename_i hcolumns
    rw [or_iff_right hcolumns]
    split
    · rename_i hragged
      refine iff_of_false ?_ fun h => absurd h.1 (not_le.mpr hragged)
      rintro ⟨message, ⟨⟩⟩
    · rename_i hfits
      rw [normalizeRow_refused_iff, and_iff_right (not_lt.mp hfits)]

/-- A row of a sheet raises an `IndexError` exactly when it is longer than the header row but not
too long. -/
theorem sheetRow_onlyValueError_iff {headers : List Text} {values : List (SheetCell F)} :
    OnlyValueError (sheetRow cfg lib orders headers values) ↔
      (headers.length < values.length → cfg.maxParticipantColumns < values.length) := by
  rw [sheetRow]
  split
  · rename_i hcolumns
    exact iff_of_true (onlyValueError_valueError _) fun _ => hcolumns
  · rename_i hcolumns
    split
    · rename_i hragged
      rw [onlyValueError_error_iff]
      refine iff_of_false ?_ fun h => hcolumns (h hragged)
      rintro ⟨message, ⟨⟩⟩
    · rename_i hfits
      exact iff_of_true (normalizeRow_onlyValueError _ _ _) fun h => absurd h hfits

/-! ## A whole file -/

/-- Some record of a CSV file is refused. -/
def RecordsRefused (cfg : ParticipantFileSettings) (lib : FileLibrary F)
    (read : List (List Text)) : Prop :=
  ∃ fieldnames records, read = fieldnames :: records ∧
    (fieldnames = [] ∨ cfg.maxParticipantColumns < fieldnames.length ∨
      cfg.maxParticipantRows < (filledRecords records).length ∨
      ∃ record ∈ filledRecords records,
        HasLongCell cfg lib.reprFields (csvItems fieldnames record))

private theorem csvEnding_onlyValueError_iff {failed : Bool} :
    OnlyValueError (csvEnding failed) ↔ failed = false := by
  cases failed with
  | false => exact iff_of_true (onlyValueError_ok ()) rfl
  | true =>
    refine iff_of_false (fun h => ?_) (by decide)
    obtain ⟨message, hmessage⟩ := h _ rfl
    cases hmessage

/-- A CSV file raises a `ValueError` at most exactly when a `csv.Error` comes after a record that is
refused, if at all. -/
theorem parseRecords_onlyValueError_iff {read : Csv.Records} :
    OnlyValueError (parseRecords cfg lib orders read) ↔
      (read.failed = true → RecordsRefused cfg lib read.records) := by
  rw [parseRecords]
  cases hrecords : read.records with
  | nil =>
    have hnot : ¬RecordsRefused cfg lib [] := by
      rintro ⟨fieldnames, records, ⟨⟩, -⟩
    rw [imp_iff_not hnot]
    cases read.failed with
    | false => exact iff_of_true (onlyValueError_valueError _) (by decide)
    | true =>
      refine iff_of_false (fun h => ?_) (by decide)
      obtain ⟨message, hmessage⟩ := h _ rfl
      cases hmessage
  | cons fieldnames records =>
    dsimp only
    split
    · rename_i hempty
      exact iff_of_true (onlyValueError_valueError _) fun _ =>
        ⟨fieldnames, records, rfl, Or.inl (List.isEmpty_iff.mp hempty)⟩
    · rename_i hheader
      split
      · rename_i hcolumns
        exact iff_of_true (onlyValueError_valueError _) fun _ =>
          ⟨fieldnames, records, rfl, Or.inr (Or.inl hcolumns)⟩
      · rename_i hcolumns
        rw [collectRows_onlyValueError_iff (by omega)]
        constructor
        · intro h hfailed
          have hsafe := h.endingSafe fun hend => by
            rw [csvEnding_onlyValueError_iff.mp hend] at hfailed
            cases hfailed
          refine ⟨fieldnames, records, rfl, Or.inr (Or.inr ?_)⟩
          rcases hsafe with hmany | ⟨record, hrecord, hrefused⟩
          · exact Or.inl (by omega)
          · exact Or.inr ⟨record, hrecord, normalizeRow_refused_iff.mp hrefused⟩
        · intro h
          refine ⟨fun before record after _ hescapes => ?_, fun hescapes => ?_⟩
          · exact absurd (normalizeRow_onlyValueError _ _ _) hescapes
          · rw [csvEnding_onlyValueError_iff, Bool.not_eq_false] at hescapes
            obtain ⟨fieldnames', records', heq, hrefused⟩ := h hescapes
            obtain ⟨rfl, rfl⟩ := List.cons.inj heq
            rcases hrefused with hnil | hmany | hmany | ⟨record, hrecord, hlong⟩
            · exact absurd (List.isEmpty_iff.mpr hnil) hheader
            · exact absurd hmany hcolumns
            · exact Or.inl (by omega)
            · exact Or.inr ⟨record, hrecord, normalizeRow_refused_iff.mpr hlong⟩

/-- A CSV file is read without an exception that escapes: a `csv.Error` comes after a record that is
refused, if at all. -/
def CsvSafe (cfg : ParticipantFileSettings) (lib : FileLibrary F) (content : Bytes) : Prop :=
  ∀ text, decodeUtf8Sig content = some text →
    (Csv.read csvFieldLimit text).failed = true →
      RecordsRefused cfg lib (Csv.read csvFieldLimit text).records

theorem parseCsv_onlyValueError_iff {content : Bytes} :
    OnlyValueError (parseCsv cfg lib orders content) ↔ CsvSafe cfg lib content := by
  rw [parseCsv, CsvSafe]
  cases hdecoded : decodeUtf8Sig content with
  | none => exact iff_of_true (onlyValueError_valueError _) fun text htext => nomatch htext
  | some text =>
    dsimp only
    rw [parseRecords_onlyValueError_iff]
    exact ⟨fun h text' htext => Option.some.inj htext ▸ h, fun h => h text rfl⟩

/-- The rows of a sheet are read without an exception that escapes: a row that is longer than the
header row comes after a row that is refused or after the last number, if at all, and so does an
exception of the library that its handler does not know. -/
structure SheetRowsSafe (cfg : ParticipantFileSettings) (lib : FileLibrary F) (headers : List Text)
    (rows : List (List (SheetCell F))) (raised : Option LibraryError) : Prop where
  ragged : ∀ before values after, rows = before ++ values :: after →
    headers.length < values.length → cfg.maxParticipantColumns < values.length ∨
      cfg.maxParticipantRows ≤ before.length ∨ ∃ r ∈ before, SheetRowRefused cfg lib headers r
  raised : ∀ e, raised = some e → e.inSheet = .libraryError →
    cfg.maxParticipantRows < rows.length ∨ ∃ r ∈ rows, SheetRowRefused cfg lib headers r

variable [Zero F] [DecidableEq F]

/-- A sheet is read without an exception that escapes. -/
def SheetSafe (cfg : ParticipantFileSettings) (lib : FileLibrary F) (sheet : SheetRows F) : Prop :=
  match sheet.rows with
  | [] => ∀ e, sheet.raised = some e → e.inSheet ≠ .libraryError
  | firstRow :: rows =>
    cfg.maxParticipantColumns < firstRow.length ∨
      (∀ header ∈ sheetHeaders lib firstRow, header = []) ∨
      SheetRowsSafe cfg lib (sheetHeaders lib firstRow) rows sheet.raised

private theorem inSheet_valueError {e : LibraryError} (h : e.inSheet ≠ .libraryError) :
    ∃ message, e.inSheet = .valueError message := by
  cases e with
  | badZipFile => exact absurd rfl h
  | osError => exact ⟨_, rfl⟩
  | keyError => exact ⟨_, rfl⟩
  | valueError message => exact ⟨message, rfl⟩
  | other => exact absurd rfl h

private theorem inArchive_valueError {e : LibraryError} (h : e.inArchive ≠ .libraryError) :
    ∃ message, e.inArchive = .valueError message := by
  cases e with
  | badZipFile => exact ⟨_, rfl⟩
  | osError => exact absurd rfl h
  | keyError => exact absurd rfl h
  | valueError message => exact ⟨message, rfl⟩
  | other => exact absurd rfl h

private theorem sheetEnding_onlyValueError_iff {raised : Option LibraryError} :
    OnlyValueError (sheetEnding raised) ↔
      ∀ e, raised = some e → e.inSheet ≠ .libraryError := by
  cases raised with
  | none => exact iff_of_true (onlyValueError_ok ()) fun e he => nomatch he
  | some e =>
    rw [sheetEnding, onlyValueError_error_iff]
    constructor
    · rintro ⟨message, hmessage⟩ e' he' hlibrary
      rw [← Option.some.inj he', hmessage] at hlibrary
      cases hlibrary
    · exact fun h => inSheet_valueError (h e rfl)

theorem parseSheet_onlyValueError_iff {sheet : SheetRows F} :
    OnlyValueError (parseSheet cfg lib orders sheet) ↔ SheetSafe cfg lib sheet := by
  rw [parseSheet, SheetSafe]
  cases hrows : sheet.rows with
  | nil =>
    dsimp only
    rw [← sheetEnding_onlyValueError_iff]
    cases sheet.raised with
    | none => exact iff_of_true (onlyValueError_valueError _) (onlyValueError_ok ())
    | some e => exact onlyValueError_error_iff.trans onlyValueError_error_iff.symm
  | cons firstRow rows =>
    dsimp only
    split
    · rename_i hcolumns
      exact iff_of_true (onlyValueError_valueError _) (Or.inl hcolumns)
    · rename_i hcolumns
      rw [or_iff_right hcolumns]
      split
      · rename_i hblank
        exact iff_of_true (onlyValueError_valueError _)
          (Or.inl ((blank_sheetHeaders_iff lib).mp hblank))
      · rename_i hfilled
        rw [blank_sheetHeaders_iff] at hfilled
        rw [or_iff_right hfilled, collectRows_onlyValueError_iff (by omega)]
        constructor
        · intro h
          refine ⟨fun before values after heq hlonger => ?_, fun e he hlibrary => ?_⟩
          · by_contra hnot
            rw [not_or] at hnot
            have hescapes : ¬OnlyValueError (sheetRow cfg lib orders
                (sheetHeaders lib firstRow) values) := by
              rw [sheetRow_onlyValueError_iff]
              exact fun himp => hnot.1 (himp hlonger)
            rcases h.rowSafe before values after heq hescapes with hmany | ⟨r, hr, hrefused⟩
            · exact hnot.2 (Or.inl (by omega))
            · exact hnot.2 (Or.inr ⟨r, hr, sheetRow_refused_iff.mp hrefused⟩)
          · have hescapes := mt sheetEnding_onlyValueError_iff.mp fun hsafe => hsafe e he hlibrary
            rcases h.endingSafe hescapes with hmany | ⟨r, hr, hrefused⟩
            · exact Or.inl (by omega)
            · exact Or.inr ⟨r, hr, sheetRow_refused_iff.mp hrefused⟩
        · intro h
          refine ⟨fun before values after heq hescapes => ?_, fun hescapes => ?_⟩
          · rw [sheetRow_onlyValueError_iff, Classical.not_imp] at hescapes
            rcases h.ragged before values after heq hescapes.1 with
              hcolumns' | hmany | ⟨r, hr, hrefused⟩
            · exact absurd hcolumns' hescapes.2
            · exact Or.inl (by omega)
            · exact Or.inr ⟨r, hr, sheetRow_refused_iff.mpr hrefused⟩
          · rw [sheetEnding_onlyValueError_iff] at hescapes
            push Not at hescapes
            obtain ⟨e, he, hlibrary⟩ := hescapes
            rcases h.raised e he hlibrary with hmany | ⟨r, hr, hrefused⟩
            · exact Or.inl (by omega)
            · exact Or.inr ⟨r, hr, sheetRow_refused_iff.mpr hrefused⟩

/-- A spreadsheet is read without an exception that escapes: its archive is opened, and is refused
or has a sheet that is safe. -/
def ExcelSafe (cfg : ParticipantFileSettings) (lib : FileLibrary F) (content : Bytes) : Prop :=
  match lib.archiveEntries content with
  | .error e => e.inArchive ≠ .libraryError
  | .ok entries =>
    2000 < entries.length ∨ archiveExpands cfg entries ∨
      SheetSafe cfg lib (lib.sheetRows content)

theorem parseExcel_onlyValueError_iff {content : Bytes} :
    OnlyValueError (parseExcel cfg lib orders content) ↔ ExcelSafe cfg lib content := by
  rw [parseExcel, ExcelSafe]
  cases lib.archiveEntries content with
  | error e =>
    rw [checkArchive, error_bind, onlyValueError_error_iff]
    refine ⟨?_, inArchive_valueError⟩
    rintro ⟨message, hmessage⟩ hlibrary
    rw [hmessage] at hlibrary
    cases hlibrary
  | ok entries =>
    rw [checkArchive]
    split
    · rename_i hmany
      exact iff_of_true (onlyValueError_valueError _) (Or.inl hmany)
    · rename_i hmany
      dsimp only
      rw [or_iff_right hmany]
      split
      · rename_i hexpands
        exact iff_of_true (onlyValueError_valueError _) (Or.inl hexpands)
      · rename_i hexpands
        rw [or_iff_right hexpands, ok_bind]
        exact parseSheet_onlyValueError_iff

/-- A file is read without an exception that escapes. -/
def FileSafe (cfg : ParticipantFileSettings) (lib : FileLibrary F) (fileName : Text)
    (content : Bytes) : Prop :=
  content = [] ∨ cfg.maxParticipantUploadBytes < content.length ∨
    (fileSuffix lib.lower fileName = "csv".toList → CsvSafe cfg lib content) ∧
      (fileSuffix lib.lower fileName ∈ ["xlsx".toList, "xlsm".toList] →
        ExcelSafe cfg lib content)

/-- The parsing returns rows or raises a `ValueError` exactly for the files that are safe to
read. -/
theorem parseParticipantFile_onlyValueError_iff (cfg : ParticipantFileSettings)
    (lib : FileLibrary F) (orders : AliasOrders) (fileName : Text) (content : Bytes) :
    OnlyValueError (parseParticipantFile cfg lib orders fileName content) ↔
      FileSafe cfg lib fileName content := by
  rw [parseParticipantFile, FileSafe]
  split
  · rename_i hempty
    exact iff_of_true (onlyValueError_valueError _) (Or.inl (List.isEmpty_iff.mp hempty))
  · rename_i hempty
    rw [or_iff_right fun h => hempty (List.isEmpty_iff.mpr h)]
    split
    · rename_i hlarge
      exact iff_of_true (onlyValueError_valueError _) (Or.inl hlarge)
    · rename_i hlarge
      rw [or_iff_right hlarge]
      split
      · rename_i hcsv
        have hnot : fileSuffix lib.lower fileName ∉ ["xlsx".toList, "xlsm".toList] := by
          rw [hcsv]
          decide
        rw [parseCsv_onlyValueError_iff, and_iff_left fun h => absurd h hnot]
        exact (imp_iff_right hcsv).symm
      · rename_i hcsv
        rw [and_iff_right fun h => absurd h hcsv]
        split
        · rename_i hexcel
          rw [parseExcel_onlyValueError_iff]
          exact (imp_iff_right (List.contains_iff_mem.mp hexcel)).symm
        · rename_i hexcel
          exact iff_of_true (onlyValueError_valueError _) fun h =>
            absurd (List.contains_iff_mem.mpr h) hexcel

/-- A line with a carriage return that does not end it. -/
def carriageReturnLine : Text := "bib\r12".toList

/-- A library for which every content is a sheet with a row that is longer than the header row. -/
def raggedLibrary : FileLibrary ℚ where
  lower := id
  reprFields := fun _ => []
  reprFloat := fun _ => []
  archiveEntries := fun _ => .ok [⟨1, 1⟩]
  sheetRows := fun _ => ⟨[[.text "bib".toList], [.int 12, .text "Ada".toList]], none⟩

/-- The carriage return and the long row raise exceptions that the route does not handle. -/
theorem exceptions_escape :
    parseParticipantFile .default raggedLibrary .written "roster.csv".toList
        (encodeUtf8 carriageReturnLine) = .error .csvError ∧
      parseParticipantFile .default raggedLibrary .written "roster.xlsx".toList [0] =
        .error .indexError ∧
      ¬∀ fileName content,
        OnlyValueError (parseParticipantFile .default raggedLibrary .written fileName content) := by
  have hdecoded : decodeUtf8Sig (encodeUtf8 carriageReturnLine) = some carriageReturnLine := by
    rw [decodeUtf8Sig, if_neg (by decide), decodeUtf8_encodeUtf8]
  have hcsv : parseParticipantFile .default raggedLibrary .written "roster.csv".toList
      (encodeUtf8 carriageReturnLine) = .error .csvError := by
    rw [parseParticipantFile, if_neg (by decide), if_neg (by decide), if_pos (by decide), parseCsv,
      hdecoded]
    rfl
  refine ⟨hcsv, by rfl, fun h => ?_⟩
  obtain ⟨message, hmessage⟩ := h _ _ _ hcsv
  cases hmessage

end RaceFrame
