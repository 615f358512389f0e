import RaceFrame.Archive.DownloadNames
import RaceFrame.Core.Bytes
import RaceFrame.Core.Csv
import RaceFrame.Roster.HeaderAliases
import RaceFrame.Text.BoundedJson

/-!
# Parsing a participant file

`parse_participant_file` reads the rows of a CSV or a spreadsheet file. What
`zipfile` and `openpyxl` deliver for a content, the text functions of Python and
the orders of the alias sets are parameters. The route that uploads the file
handles a `ValueError` only, so that every other exception of the parsing
escapes.
-/

namespace RaceFrame

open Core

/-- A value of a cell as `openpyxl` delivers it. Booleans, dates and the like are known by their
truth value and their text. -/
inductive SheetCell (F : Type)
  | none
  | text (s : Text)
  | int (n : Int)
  | float (x : F)
  | other (truthy : Bool) (s : Text)

/-- What a library raises, as far as the handlers tell exceptions apart. -/
inductive LibraryError
  | badZipFile
  | osError
  | keyError
  | valueError (message : String)
  | other

/-- The sizes of a `ZipInfo`. -/
structure ArchiveEntry where
  fileSize : Nat
  compressSize : Nat

/-- What iterating over the active sheet yields: rows, and then its end or an exception. -/
structure SheetRows (F : Type) where
  rows : List (List (SheetCell F))
  raised : Option LibraryError

/-- What the parsing uses of Python and of its packages. -/
structure FileLibrary (F : Type) where
  /-- `str.lower`. -/
  lower : Text → Text
  /-- `str` of a list of texts. -/
  reprFields : List Text → Text
  /-- `str` of a float. -/
  reprFloat : F → Text
  /-- `zipfile.ZipFile(content).infolist()`. -/
  archiveEntries : Bytes → Except LibraryError (List ArchiveEntry)
  /-- `load_workbook(content).active.iter_rows(values_only=True)`. -/
  sheetRows : Bytes → SheetRows F

variable {F : Type}

/-- `str(value or "")`. -/
def SheetCell.headerText [Zero F] [DecidableEq F] (reprFloat : F → Text) : SheetCell F → Text
  | .none => []
  | .text s => s
  | .int n => if n = 0 then [] else intText n
  | .float x => if x = 0 then [] else reprFloat x
  | .other truthy s => if truthy then s else []

/-- `"" if value is None else str(value).strip()`. -/
def SheetCell.valueText (reprFloat : F → Text) : SheetCell F → Text
  | .none => []
  | .text s => strip s
  | .int n => strip (intText n)
  | .float x => strip (reprFloat x)
  | .other _ s => strip s

/-- A parsed row as `upsert_participants` reads it. -/
def ParticipantRow.toImportRow (row : ParticipantRow) : ImportRow :=
  ⟨some row.bibNumber, some row.fullName⟩

variable (cfg : ParticipantFileSettings) (lib : FileLibrary F) (orders : AliasOrders)

/-- The loop over the rows of a file, from the row of number `index` on; `ending` is what comes
after the last row. -/
def collectRows {α : Type} (parse : α → Except ParticipantFileError ParticipantRow)
    (ending : Except ParticipantFileError Unit) :
    Nat → List α → Except ParticipantFileError (List ParticipantRow)
  | _, [] => ending.map fun _ => []
  | index, row :: rows =>
    if cfg.maxParticipantRows < index then
      .error (.valueError "Participant file has too many rows.")
    else do
      let normalized ← parse row
      let rest ← collectRows parse ending (index + 1) rows
      return normalized :: rest

/-! ## CSV files -/

/-- The field limit of the `csv` module. -/
def csvFieldLimit : Nat := 131072

/-- `content.decode("utf-8-sig")`. -/
def decodeUtf8Sig (content : Bytes) : Option Text :=
  decodeUtf8 (if [0xEF, 0xBB, 0xBF].isPrefixOf content then content.drop 3 else content)

/-- The dictionary that `csv.DictReader` makes of a record: fields without a header are listed under
`None`, and headers without a field hold `None`. -/
def csvItems (fieldnames record : List Text) : List (RawCell × RawCell) :=
  let fields := (fieldnames.zip record).map fun item => (RawCell.text item.1, RawCell.text item.2)
  let others :=
    if fieldnames.length < record.length then
      [(RawCell.none, RawCell.fields (record.drop fieldnames.length))]
    else (fieldnames.drop record.length).map fun header => (RawCell.text header, RawCell.none)
  (Dict.ofItems (fields ++ others)).rows

/-- The body of the loop of `_parse_csv`. -/
def csvRow (fieldnames record : List Text) : Except ParticipantFileError ParticipantRow :=
  normalizeRow cfg lib.lower lib.reprFields orders (csvItems fieldnames record)

/-- The records that `csv.DictReader` does not pass over. -/
def filledRecords (records : List (List Text)) : List (List Text) :=
  records.filter fun record => !record.isEmpty

/-- What comes after the records of a CSV file. -/
def csvEnding (failed : Bool) : Except ParticipantFileError Unit :=
  if failed then .error .csvError else .ok ()

/-- `_parse_csv`, for the records of the text. -/
def parseRecords (read : Csv.Records) : Except ParticipantFileError (List ParticipantRow) :=
  match read.records with
  | [] =>
    (csvEnding read.failed).bind fun _ => .error (.valueError "CSV file is missing a header row.")
  | fieldnames :: records =>
    if fieldnames.isEmpty then .error (.valueError "CSV file is missing a header row.")
    else if cfg.maxParticipantColumns < fieldnames.length then
      .error (.valueError "Participant file has too many columns.")
    else
      collectRows cfg (csvRow cfg lib orders fieldnames) (csvEnding read.failed) 1
        (filledRecords records)

/-- `_parse_csv`. -/
def parseCsv (content : Bytes) : Except ParticipantFileError (List ParticipantRow) :=
  match decodeUtf8Sig content with
  | none => .error (.valueError "CSV must be UTF-8 encoded.")
  | some text => parseRecords cfg lib orders (Csv.read csvFieldLimit text)

/-! ## Spreadsheets -/

/-- The handler of `zipfile.BadZipFile`. -/
def LibraryError.inArchive : LibraryError → ParticipantFileError
  | .badZipFile => .valueError "Spreadsheet is not a valid XLSX file."
  | .valueError message => .valueError message
  | _ => .libraryError

/-- The handler of `(OSError, KeyError, ValueError)`. -/
def LibraryError.inSheet : LibraryError → ParticipantFileError
  | .osError | .keyError => .valueError "Spreadsheet could not be parsed safely."
  | .valueError message => .valueError message
  | _ => .libraryError

/-- Whether the archive of a spreadsheet expands beyond the limit. The sizes are far below the
bound from which the quotient of the source would be rounded. -/
def archiveExpands (entries : List ArchiveEntry) : Prop :=
  let expandedSize := (entries.map ArchiveEntry.fileSize).sum
  let compressedSize := max 1 (entries.map ArchiveEntry.compressSize).sum
  cfg.maxSpreadsheetUncompressedBytes < expandedSize ∨ 100 * compressedSize < expandedSize

instance (entries : List ArchiveEntry) : Decidable (archiveExpands cfg entries) :=
  inferInstanceAs (Decidable (_ ∨ _))

/-- The first half of `_parse_excel`. -/
def checkArchive (entries : Except LibraryError (List ArchiveEntry)) :
    Except ParticipantFileError Unit :=
  match entries with
  | .error e => .error e.inArchive
  | .ok entries =>
    if 2000 < entries.length then
      .error (.valueError "Spreadsheet archive contains too many files.")
    else if archiveExpands cfg entries then
      .error
        (.valueError "Spreadsheet archive expands beyond the configured safety limit.")
    else .ok ()

/-- The dictionary of a row of a sheet. -/
def sheetItems (headers : List Text) (values : List (SheetCell F)) : List (RawCell × RawCell) :=
  (Dict.ofItems (headers.zip (values.map (SheetCell.valueText lib.reprFloat)))).rows.map fun item =>
    (RawCell.text item.1, RawCell.text item.2)

/-- The body of the loop of `_parse_excel`. -/
def sheetRow (headers : List Text) (values : List (SheetCell F)) :
    Except ParticipantFileError ParticipantRow :=
  if cfg.maxParticipantColumns < values.length then
    .error (.valueError "Participant file has too many columns.")
  else if headers.length < values.length then .error .indexError
  else normalizeRow cfg lib.lower lib.reprFields orders (sheetItems lib headers values)

variable [Zero F] [DecidableEq F]

/-- The headers of a sheet. -/
def sheetHeaders (firstRow : List (SheetCell F)) : List Text :=
  firstRow.map fun cell => normalizeHeader lib.lower (cell.headerText lib.reprFloat)

@[simp] theorem length_sheetHeaders (firstRow : List (SheetCell F)) :
    (sheetHeaders lib firstRow).length = firstRow.length :=
  List.length_map _

/-- The header row of a sheet is blank. -/
theorem blank_sheetHeaders_iff {firstRow : List (SheetCell F)} :
    (sheetHeaders lib firstRow).all (·.isEmpty) = true ↔
      ∀ header ∈ sheetHeaders lib firstRow, header = [] := by
  simp only [List.all_eq_true, List.isEmpty_iff]

/-- What comes after the rows of a sheet. -/
def sheetEnding : Option LibraryError → Except ParticipantFileError Unit
  | none => .ok ()
  | some e => .error e.inSheet

/-- The second half of `_parse_excel`. -/
def parseSheet (sheet : SheetRows F) : Except ParticipantFileError (List ParticipantRow) :=
  match sheet.rows with
  | [] => (sheetEnding sheet.raised).bind fun _ => .error (.valueError "Spreadsheet is empty.")
  | firstRow :: rows =>
    if cfg.maxParticipantColumns < firstRow.length then
      .error (.valueError "Participant file has too many columns.")
    else if (sheetHeaders lib firstRow).all (·.isEmpty) then
      .error (.valueError "Spreadsheet is missing a header row.")
    else
      collectRows cfg (sheetRow cfg lib orders (sheetHeaders lib firstRow))
        (sheetEnding sheet.raised) 1 rows

/-- `_parse_excel`. -/
def parseExcel (content : Bytes) : Except ParticipantFileError (List ParticipantRow) := do
  checkArchive cfg (lib.archiveEntries content)
  parseSheet cfg lib orders (lib.sheetRows content)

/-- The text after the last dot of a file name, in lower case. -/
def fileSuffix (lower : Text → Text) (fileName : Text) : Text :=
  if fileName.contains '.' then (rpartitionDot (lower fileName)).2.2 else []

/-- `parse_participant_file`. -/
def parseParticipantFile (fileName : Text) (content : Bytes) :
    Except ParticipantFileError (List ParticipantRow) :=
  if content.isEmpty then .error (.valueError "Participant upload is empty.")
  else if cfg.maxParticipantUploadBytes < content.length then
    .error (.valueError "Participant upload exceeds the configured size limit.")
  else if fileSuffix lib.lower fileName = "csv".toList then parseCsv cfg lib orders content
  else if ["xlsx".toList, "xlsm".toList].contains (fileSuffix lib.lower fileName) then
    parseExcel cfg lib orders content
  else .error (.valueError "Upload a CSV or XLSX file.")

end RaceFrame
