import Mathlib.Data.List.Basic

/-!
# Comma-separated values

The reader of Python's `csv` module with the `excel` dialect, as the state
machine that it is, on the lines that iterating over a `StringIO` yields. A
record can span lines, since a quoted field keeps its line ends. The reader
raises on a carriage return inside an unquoted line and on a field that is
longer than the limit of the module.
-/

namespace RaceFrame.Core.Csv

/-- The states of the reader. -/
inductive State
  | startRecord
  | startField
  | inField
  | inQuotedField
  | quoteInQuotedField
  | eatCrnl
  deriving DecidableEq, Repr

/-- The reader between two characters: the field and the record it has begun. -/
structure Reader where
  state : State
  field : List Char
  fields : List (List Char)

/-- `parse_reset`. -/
def Reader.reset : Reader := ⟨.startRecord, [], []⟩

/-- `parse_save_field`, and the state that follows. -/
def Reader.saveField (r : Reader) (next : State) : Reader := ⟨next, [], r.fields ++ [r.field]⟩

/-- `parse_add_char`, and the state that follows. -/
def Reader.addChar (limit : Nat) (r : Reader) (c : Char) (next : State) : Option Reader :=
  if limit ≤ r.field.length then none else some ⟨next, r.field ++ [c], r.fields⟩

/-- The characters that end a line. -/
def isNewline (c : Char) : Bool := c == '\n' || c == '\r'

/-- `parse_process_char` in the state `START_FIELD`. -/
def Reader.processStart (limit : Nat) (r : Reader) (c : Char) : Option Reader :=
  if isNewline c then some (r.saveField .eatCrnl)
  else if c = '"' then some { r with state := .inQuotedField }
  else if c = ',' then some (r.saveField .startField)
  else r.addChar limit c .inField

/-- `parse_process_char`, which raises `csv.Error` where this is `none`. -/
def Reader.processChar (limit : Nat) (r : Reader) (c : Char) : Option Reader :=
  match r.state with
  | .startRecord =>
    if isNewline c then some { r with state := .eatCrnl } else r.processStart limit c
  | .startField => r.processStart limit c
  | .inField =>
    if isNewline c then some (r.saveField .eatCrnl)
    else if c = ',' then some (r.saveField .startField)
    else r.addChar limit c .inField
  | .inQuotedField =>
    if c = '"' then some { r with state := .quoteInQuotedField }
    else r.addChar limit c .inQuotedField
  | .quoteInQuotedField =>
    if c = '"' then r.addChar limit c .inQuotedField
    else if c = ',' then some (r.saveField .startField)
    else if isNewline c then some (r.saveField .eatCrnl)
    else r.addChar limit c .inField
  | .eatCrnl => if isNewline c then some r else none

/-- `parse_process_char` for the end of a line. -/
def Reader.processEol (r : Reader) : Reader :=
  match r.state with
  | .startRecord | .inQuotedField => r
  | .startField | .inField | .quoteInQuotedField => r.saveField .startRecord
  | .eatCrnl => { r with state := .startRecord }

/-- The lines that iterating over a `StringIO` yields, each with its line feed. -/
def lines : List Char → List (List Char)
  | [] => []
  | c :: cs =>
    if c = '\n' then [c] :: lines cs
    else match lines cs with
      | [] => [[c]]
      | line :: rest => (c :: line) :: rest

/-- What the reader yields: records, and then the end of the file or `csv.Error`. -/
structure Records where
  records : List (List (List Char))
  failed : Bool
  deriving DecidableEq

/-- `Reader_iternext`, called until the reader is exhausted or raises. -/
def readFrom (limit : Nat) : Reader → List (List Char) → Records
  | r, [] =>
    if r.field ≠ [] ∨ r.state = .inQuotedField then ⟨[r.fields ++ [r.field]], false⟩
    else ⟨[], false⟩
  | r, line :: rest =>
    match line.foldlM (Reader.processChar limit) r with
    | none => ⟨[], true⟩
    | some r =>
      if r.processEol.state = .startRecord then
        let after := readFrom limit .reset rest
        ⟨r.processEol.fields :: after.records, after.failed⟩
      else readFrom limit r.processEol rest

/-- All records of a text. -/
def read (limit : Nat) (text : List Char) : Records := readFrom limit .reset (lines text)

end RaceFrame.Core.Csv
