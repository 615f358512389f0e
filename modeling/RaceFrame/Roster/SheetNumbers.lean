import RaceFrame.Roster.FileErrors
import RaceFrame.Roster.Import
import RaceFrame.Text.Readings

/-!
# Numeric bibs in spreadsheets

A bib that is a number in the spreadsheet is delivered as an integer or as a
float. The parsing takes the text that Python writes for it, and the import drops
the punctuation of that text, so that the bib `1042.0` is stored under the key
`10420`.
-/

namespace RaceFrame

open Core

variable {cfg : ParticipantFileSettings} {orders : AliasOrders}

/-! ## Accepted spreadsheets -/

/-- The loop over the rows returns a row for each, unless they are too many or one is not
accepted. -/
theorem collectRows_eq_ok_iff {α : Type} {parse : α → Except ParticipantFileError ParticipantRow}
    {ending : Except ParticipantFileError Unit} {index : Nat} {rows : List α}
    {parsed : List ParticipantRow} (hindex : index ≤ cfg.maxParticipantRows + 1) :
    collectRows cfg parse ending index rows = .ok parsed ↔
      ending = .ok () ∧ index + rows.length ≤ cfg.maxParticipantRows + 1 ∧
        List.Forall₂ (fun row normalized => parse row = .ok normalized) rows parsed := by
  induction rows generalizing index parsed with
  | nil =>
    rw [collectRows, List.forall₂_nil_left_iff, List.length_nil, Nat.add_zero,
      and_iff_right hindex]
    cases ending with
    | error e => simp [Except.map]
    | ok u => simp [Except.map, eq_comm]
  | cons row rows ih =>
    rw [collectRows, List.length_cons]
    by_cases hmany : cfg.maxParticipantRows < index
    · rw [if_pos hmany]
      refine iff_of_false (by rintro ⟨⟩) fun h => ?_
      omega
    · have hrest : ∀ rest, collectRows cfg parse ending (index + 1) rows = .ok rest ↔
          ending = .ok () ∧ index + 1 + rows.length ≤ cfg.maxParticipantRows + 1 ∧
            List.Forall₂ (fun row normalized => parse row = .ok normalized) rows rest :=
        fun rest => ih (by omega)
      rw [if_neg hmany, bind_eq_ok_iff, List.forall₂_cons_left_iff, Nat.add_comm rows.length,
        ← Nat.add_assoc]
      constructor
      · rintro ⟨normalized, hrow, h⟩
        obtain ⟨rest, hcollect, ⟨⟩⟩ := bind_eq_ok_iff.mp h
        obtain ⟨hending, hlength, hrows⟩ := (hrest rest).mp hcollect
        exact ⟨hending, hlength, normalized, rest, hrow, hrows, rfl⟩
      · rintro ⟨hending, hlength, normalized, rest, hrow, hrows, rfl⟩
        exact ⟨normalized, hrow,
          bind_eq_ok_iff.mpr ⟨rest, (hrest rest).mpr ⟨hending, hlength, hrows⟩, rfl⟩⟩

variable {F : Type} {lib : FileLibrary F}

private theorem checkArchive_eq_ok_iff {entries : Except LibraryError (List ArchiveEntry)} :
    checkArchive cfg entries = .ok () ↔
      ∃ found, entries = .ok found ∧ found.length ≤ 2000 ∧ ¬archiveExpands cfg found := by
  cases entries with
  | error e => exact iff_of_false (by rintro ⟨⟩) (by rintro ⟨_, ⟨⟩, _⟩)
  | ok found =>
    rw [checkArchive]
    constructor
    · intro h
      split at h
      · cases h
      · rename_i hmany
        split at h
        · cases h
        · rename_i hexpands
          exact ⟨found, rfl, not_lt.mp hmany, hexpands⟩
    · rintro ⟨found', ⟨⟩, hmany, hexpands⟩
      rw [if_neg (not_lt.mpr hmany), if_neg hexpands]

private theorem sheetRow_eq_ok_iff {headers : List Text} {values : List (SheetCell F)} :
    (∃ row, sheetRow cfg lib orders headers values = .ok row) ↔
      values.length ≤ cfg.maxParticipantColumns ∧ values.length ≤ headers.length ∧
        ¬HasLongCell cfg lib.reprFields (sheetItems lib headers values) := by
  constructor
  · rintro ⟨row, hrow⟩
    have hrefused : ¬SheetRowRefused cfg lib headers values := by
      rw [← sheetRow_refused_iff, hrow]
      rintro ⟨message, ⟨⟩⟩
    have hsafe : OnlyValueError (sheetRow cfg lib orders headers values) := by
      rw [hrow]
      exact onlyValueError_ok row
    rw [SheetRowRefused, not_or, not_and] at hrefused
    have hlength : values.length ≤ headers.length := not_lt.mp fun hlt =>
      hrefused.1 (sheetRow_onlyValueError_iff.mp hsafe hlt)
    exact ⟨not_lt.mp hrefused.1, hlength, hrefused.2 hlength⟩
  · rintro ⟨hcolumns, hlength, hcells⟩
    rw [sheetRow, if_neg (not_lt.mpr hcolumns), if_neg (not_lt.mpr hlength),
      normalizeRow_eq_ok hcells]
    exact ⟨_, rfl⟩

private theorem sheetEnding_eq_ok_iff {raised : Option LibraryError} :
    sheetEnding raised = .ok () ↔ raised = none := by
  cases raised with
  | none => exact iff_of_true rfl rfl
  | some e => exact iff_of_false (by rintro ⟨⟩) (by rintro ⟨⟩)

private theorem exists_forall₂_iff {α β : Type} {R : α → β → Prop} {xs : List α} :
    (∃ ys, List.Forall₂ R xs ys) ↔ ∀ x ∈ xs, ∃ y, R x y := by
  induction xs with
  | nil => exact iff_of_true ⟨[], .nil⟩ (by simp)
  | cons x xs ih =>
    rw [List.forall_mem_cons, ← ih]
    constructor
    · rintro ⟨ys, hys⟩
      obtain ⟨y, rest, hy, hrest, rfl⟩ := List.forall₂_cons_left_iff.mp hys
      exact ⟨⟨y, hy⟩, rest, hrest⟩
    · rintro ⟨⟨y, hy⟩, rest, hrest⟩
      exact ⟨y :: rest, .cons hy hrest⟩

/-! ## Reading a column -/

/-- The column of number `j` is the only one whose header is an alias. -/
structure OnlyColumn (lower : Text → Text) (headers aliases : List Text) (j : Nat) : Prop where
  header : ∃ header, headers[j]? = some header ∧ normalizeHeader lower header ∈ aliases
  only : ∀ (i : Nat) (header : Text), headers[i]? = some header →
    normalizeHeader lower header ∈ aliases → i = j

/-- The cells of a row of a sheet under their normalized headers. -/
def sheetCells (lib : FileLibrary F) (headers : List Text) (values : List (SheetCell F)) :
    List (Text × Text) :=
  (sheetItems lib headers values).map fun cell =>
    (normalizeHeader lib.lower (cell.1.str lib.reprFields), cellText lib.reprFields cell)

/-- A cell comes from a column with its header. -/
theorem exists_column_of_mem {headers : List Text} {values : List (SheetCell F)} {key v : Text}
    (h : (key, v) ∈ sheetCells lib headers values) :
    ∃ (i : Nat) (header : Text) (cell : SheetCell F), headers[i]? = some header ∧
      values[i]? = some cell ∧ normalizeHeader lib.lower header = key ∧
      strip (cell.valueText lib.reprFloat) = v := by
  obtain ⟨item, hitem, heq⟩ := List.mem_map.mp h
  obtain ⟨⟨header, text⟩, hmem, rfl⟩ := List.mem_map.mp hitem
  have hzip := Dict.mem_of_value?_ofItems (Dict.mem_rows_iff.mp hmem)
  obtain ⟨i, hi⟩ := List.mem_iff_getElem?.mp hzip
  obtain ⟨hheader, htext⟩ := List.getElem?_zip_eq_some.mp hi
  rw [List.getElem?_map, Option.map_eq_some_iff] at htext
  obtain ⟨cell, hcell, rfl⟩ := htext
  exact ⟨i, header, cell, hheader, hcell, congrArg Prod.fst heq, congrArg Prod.snd heq⟩

/-- The cell under the only column of its kind is read in every order. -/
theorem readValue_of_onlyColumn {headers aliases order : List Text}
    {values : List (SheetCell F)} {j : Nat} {cell : SheetCell F}
    (hcolumn : OnlyColumn lib.lower headers aliases j) (hperm : order.Perm aliases)
    (hcell : values[j]? = some cell) (hne : strip (cell.valueText lib.reprFloat) ≠ []) :
    readValue (Dict.ofItems (sheetCells lib headers values)) order =
      strip (cell.valueText lib.reprFloat) := by
  obtain ⟨header, hheader, halias⟩ := hcolumn.header
  have honly : ∀ key ∈ aliases, ∀ v, (key, v) ∈ sheetCells lib headers values →
      v = strip (cell.valueText lib.reprFloat) := by
    intro key hkey v hv
    obtain ⟨i, header', cell', hheader', hcell', hnormalized, rfl⟩ := exists_column_of_mem hv
    rw [← hnormalized] at hkey
    rw [hcolumn.only i header' hheader' hkey, hcell] at hcell'
    rw [Option.some.inj hcell']
  have hitem : (header, cell.valueText lib.reprFloat) ∈
      headers.zip (values.map (SheetCell.valueText lib.reprFloat)) := by
    refine List.mem_iff_getElem?.mpr ⟨j, List.getElem?_zip_eq_some.mpr ⟨hheader, ?_⟩⟩
    rw [List.getElem?_map, hcell, Option.map_some]
  have hdict : (Dict.ofItems (headers.zip
      (values.map (SheetCell.valueText lib.reprFloat)))).value? header =
        some (cell.valueText lib.reprFloat) := by
    refine Dict.value?_ofItems_of_only hitem fun text htext => ?_
    obtain ⟨i, hi⟩ := List.mem_iff_getElem?.mp htext
    obtain ⟨hheader', htext'⟩ := List.getElem?_zip_eq_some.mp hi
    rw [hcolumn.only i header hheader' halias, List.getElem?_map, hcell, Option.map_some] at htext'
    exact (Option.some.inj htext').symm
  have hmem : (normalizeHeader lib.lower header, strip (cell.valueText lib.reprFloat)) ∈
      sheetCells lib headers values :=
    List.mem_map_of_mem (List.mem_map_of_mem (Dict.mem_rows_iff.mpr hdict))
  have hvalue := Dict.value?_ofItems_of_only hmem (honly _ halias)
  refine readValue_of_only hperm halias
    (Option.filter_eq_some_iff.mpr ⟨hvalue, by simpa using hne⟩) fun key hkey w hw => ?_
  exact honly key hkey w (Dict.mem_of_value?_ofItems (Option.filter_eq_some_iff.mp hw).1)

/-! ## The text of a number -/

private theorem isSpace_of_isDigit {c : Char} (h : c.isDigit = true) : isSpace c = false := by
  rw [Char.isDigit, Bool.and_eq_true, decide_eq_true_eq, decide_eq_true_eq] at h
  have hlow : 48 ≤ c.toNat := UInt32.le_iff_toNat_le.mp h.1
  have hhigh : c.toNat ≤ 57 := UInt32.le_iff_toNat_le.mp h.2
  rw [isSpace, Bool.eq_false_iff]
  intro hspace
  have hmem := List.contains_iff_mem.mp hspace
  simp only [whitespace, List.mem_cons, List.not_mem_nil, or_false] at hmem
  omega

private theorem isDigit_of_mem_digits {n : Nat} {c : Char} (h : c ∈ Nat.toDigits 10 n) :
    c.isDigit = true :=
  Nat.isDigit_of_mem_toDigits (by omega) (by omega) h

private theorem isToken_of_mem_digits {n : Nat} {c : Char} (h : c ∈ Nat.toDigits 10 n) :
    isToken c = true := by
  rw [isToken, isDigit_of_mem_digits h, Bool.or_true]

/-- There is no white space around digits. -/
theorem isTrimmed_digits (n : Nat) : IsTrimmed (Nat.toDigits 10 n) :=
  ⟨fun _ h => isSpace_of_isDigit (isDigit_of_mem_digits (List.mem_of_head? h)),
    fun _ h => isSpace_of_isDigit (isDigit_of_mem_digits (List.mem_of_getLast? h))⟩

theorem isTrimmed_digits_float (n : Nat) : IsTrimmed (Nat.toDigits 10 n ++ ['.', '0']) := by
  refine ⟨fun c hc => ?_, fun c hc => ?_⟩
  · rw [List.head?_append_of_ne_nil _ Nat.toDigits_ne_nil] at hc
    exact (isTrimmed_digits n).1 c hc
  · rw [List.getLast?_append_cons] at hc
    rw [← Option.some.inj hc]
    decide

private theorem length_digits_le {n : Nat} (h : n < 10 ^ 15) : (Nat.toDigits 10 n).length ≤ 15 :=
  (Nat.length_toDigits_le_iff (by omega) (by omega)).mpr h

/-- Digits are their own canonical bib. -/
theorem normalizeBibLookup_digits {n : Nat} (h : n < 10 ^ 15) :
    normalizeBibLookup (Nat.toDigits 10 n) = Nat.toDigits 10 n := by
  have hlength := length_digits_le h
  rw [normalizeBibLookup_of_isToken fun c hc => isToken_of_mem_digits hc,
    List.take_of_length_le (by omega)]

/-- The point of a float is dropped, and the zero behind it is kept. -/
theorem normalizeBibLookup_float {n : Nat} (h : n < 10 ^ 15) :
    normalizeBibLookup (Nat.toDigits 10 n ++ ['.', '0']) = Nat.toDigits 10 n ++ ['0'] := by
  have hlength := length_digits_le h
  have hdigits : ∀ c ∈ Nat.toDigits 10 n, isToken c = true := fun c hc => isToken_of_mem_digits hc
  have hupper : upper (Nat.toDigits 10 n ++ ['.', '0']) = Nat.toDigits 10 n ++ ['.', '0'] := by
    have hback : upper ['.', '0'] = ['.', '0'] := by decide +kernel
    rw [upper, List.flatMap_append, ← upper, ← upper, upper_of_isToken hdigits, hback]
  rw [normalizeBibLookup, hupper, List.filter_append, List.filter_eq_self.mpr hdigits,
    show ['.', '0'].filter isToken = ['0'] from by decide, List.take_of_length_le]
  rw [List.length_append, List.length_singleton]
  omega

/-- A row of a sheet with a number in the only bib column and a text in the only name column. -/
structure NumberRow [NatCast F] (lib : FileLibrary F) (headers : List Text)
    (values : List (SheetCell F)) (n : Nat) (cell : SheetCell F) (name : Text) : Prop where
  bibCell : ∃ j : Nat, OnlyColumn lib.lower headers bibNumberAliases j ∧ values[j]? = some cell
  number : cell = .int n ∨ cell = .float n
  nameCell : ∃ k : Nat, OnlyColumn lib.lower headers fullNameAliases k ∧
    values[k]? = some (.text name)
  name_ne : strip name ≠ []

/-- A row of a sheet is imported under a canonical bib. -/
def SheetRowNames (cfg : ParticipantFileSettings) (lib : FileLibrary F) (orders : AliasOrders)
    (headers : List Text) (values : List (SheetCell F)) (key : Text) : Prop :=
  ∃ row, sheetRow cfg lib orders headers values = .ok row ∧ row.toImportRow.Acceptable ∧
    normalizeBibLookup row.toImportRow.bib = key

private theorem eq_of_sheetRow_eq_ok {headers : List Text} {values : List (SheetCell F)}
    {row : ParticipantRow} (h : sheetRow cfg lib orders headers values = .ok row) :
    row = participantRowOf orders (Dict.ofItems (sheetCells lib headers values)) := by
  have haccepted := sheetRow_eq_ok_iff.mp ⟨row, h⟩
  rw [sheetRow, if_neg (not_lt.mpr haccepted.1), if_neg (not_lt.mpr haccepted.2.1),
    normalizeRow_eq_ok haccepted.2.2] at h
  exact (Except.ok.inj h).symm

section Numbers

variable [NatCast F] {headers : List Text} {values : List (SheetCell F)} {n : Nat}
  {cell : SheetCell F} {name : Text}

/-- A row with a number is read as the text of the number and the name. -/
theorem NumberRow.toImportRow_eq {row : ParticipantRow}
    (h : NumberRow lib headers values n cell name) (hne : strip (cell.valueText lib.reprFloat) ≠ [])
    (hrow : sheetRow cfg lib orders headers values = .ok row) :
    row.toImportRow.bib = strip (strip (cell.valueText lib.reprFloat)) ∧
      row.toImportRow.name = strip name := by
  obtain ⟨j, hj, hcell⟩ := h.bibCell
  obtain ⟨k, hk, hname⟩ := h.nameCell
  have htrimmed : strip (strip name) = strip name := (isTrimmed_strip name).strip_eq
  have hbib := readValue_of_onlyColumn hj orders.bibNumber_perm hcell hne
  have hfull := readValue_of_onlyColumn hk orders.fullName_perm hname
    (by rw [SheetCell.valueText, htrimmed]; exact h.name_ne)
  rw [SheetCell.valueText, htrimmed] at hfull
  rw [eq_of_sheetRow_eq_ok hrow]
  constructor
  · exact congrArg strip hbib
  · have hfilled : (strip name).isEmpty = false := by simpa using h.name_ne
    have hfullName : (participantRowOf orders
        (Dict.ofItems (sheetCells lib headers values))).fullName = strip name := by
      simp only [participantRowOf, hfull, hfilled, Bool.false_and, Bool.false_eq_true, if_false]
    exact (congrArg strip hfullName).trans htrimmed

/-- A row with a number is imported under its digits exactly when the number is delivered as an
integer and the name fits. -/
theorem NumberRow.names_iff (h : NumberRow lib headers values n cell name) (hn : n < 10 ^ 15)
    (hrepr : lib.reprFloat n = Nat.toDigits 10 n ++ ['.', '0'])
    (hrow : ∃ row, sheetRow cfg lib orders headers values = .ok row) :
    SheetRowNames cfg lib orders headers values (Nat.toDigits 10 n) ↔
      cell = .int n ∧ (strip name).length ≤ 255 := by
  obtain ⟨row, hrow⟩ := hrow
  have hdigits : Nat.toDigits 10 n ≠ [] := Nat.toDigits_ne_nil
  have hlength := length_digits_le hn
  rcases h.number with rfl | rfl
  · have hvalue : strip ((SheetCell.int n : SheetCell F).valueText lib.reprFloat) =
        Nat.toDigits 10 n := by
      rw [SheetCell.valueText, intText, if_neg (by omega), Int.natAbs_natCast,
        (isTrimmed_digits n).strip_eq, (isTrimmed_digits n).strip_eq]
    obtain ⟨hbib, hname⟩ := h.toImportRow_eq (hvalue ▸ hdigits) hrow
    rw [hvalue, (isTrimmed_digits n).strip_eq] at hbib
    constructor
    · rintro ⟨row', hrow', hacceptable, -⟩
      rw [hrow] at hrow'
      rw [← Except.ok.inj hrow'] at hacceptable
      exact ⟨rfl, hname ▸ hacceptable.2.2.2.1⟩
    · rintro ⟨-, hfits⟩
      have hcanonical : normalizeBibLookup row.toImportRow.bib = Nat.toDigits 10 n := by
        rw [hbib, normalizeBibLookup_digits hn]
      refine ⟨row, hrow, ⟨hbib ▸ hdigits, hname ▸ h.name_ne, ?_, hname ▸ hfits,
        hcanonical ▸ hdigits⟩, hcanonical⟩
      rw [hbib]
      omega
  · have htext := (isTrimmed_digits_float n).strip_eq
    have hvalue : strip ((SheetCell.float (n : F)).valueText lib.reprFloat) =
        Nat.toDigits 10 n ++ ['.', '0'] := by
      rw [SheetCell.valueText, hrepr, htext, htext]
    obtain ⟨hbib, -⟩ := h.toImportRow_eq (by rw [hvalue]; simp) hrow
    rw [hvalue, htext] at hbib
    refine iff_of_false ?_ (by rintro ⟨⟨⟩, -⟩)
    rintro ⟨row', hrow', -, hcanonical⟩
    rw [hrow] at hrow'
    rw [← Except.ok.inj hrow', hbib, normalizeBibLookup_float hn] at hcanonical
    have hsame := congrArg List.length hcanonical
    rw [List.length_append, List.length_singleton] at hsame
    omega

end Numbers

variable [Zero F] [DecidableEq F]

/-- A spreadsheet that the parsing accepts: its archive, its columns, its rows and its cells are
within their limits, it has a header, and no row is longer than the header row. -/
structure SpreadsheetAccepted (cfg : ParticipantFileSettings) (lib : FileLibrary F)
    (content : Bytes) (firstRow : List (SheetCell F)) (rows : List (List (SheetCell F))) :
    Prop where
  archive : ∃ entries, lib.archiveEntries content = .ok entries ∧ entries.length ≤ 2000 ∧
    ¬archiveExpands cfg entries
  sheet : (lib.sheetRows content).raised = none
  columns : firstRow.length ≤ cfg.maxParticipantColumns
  header : ∃ header ∈ sheetHeaders lib firstRow, header ≠ []
  length : rows.length ≤ cfg.maxParticipantRows
  rows : ∀ values ∈ rows, values.length ≤ cfg.maxParticipantColumns ∧
    values.length ≤ firstRow.length ∧
      ¬HasLongCell cfg lib.reprFields (sheetItems lib (sheetHeaders lib firstRow) values)

private theorem exists_mem_forall₂_iff {α β : Type} {R : α → β → Prop} {xs : List α} {ys : List β}
    (h : List.Forall₂ R xs ys) (hunique : ∀ x y y', R x y → R x y' → y = y') {P : β → Prop} :
    (∃ y ∈ ys, P y) ↔ ∃ x ∈ xs, ∃ y, R x y ∧ P y := by
  induction h with
  | nil => simp
  | @cons x y xs ys hxy _ ih =>
    rw [List.exists_mem_cons_iff, List.exists_mem_cons_iff, ih]
    refine or_congr_left ⟨fun hy => ⟨y, hxy, hy⟩, ?_⟩
    rintro ⟨y', hxy', hy'⟩
    exact hunique x y y' hxy hxy' ▸ hy'

/-- A spreadsheet is parsed exactly when it is accepted, row by row. -/
theorem parseExcel_eq_ok_iff {content : Bytes} {firstRow : List (SheetCell F)}
    {rows : List (List (SheetCell F))} {parsed : List ParticipantRow}
    (hsheet : (lib.sheetRows content).rows = firstRow :: rows) :
    parseExcel cfg lib orders content = .ok parsed ↔
      SpreadsheetAccepted cfg lib content firstRow rows ∧
        List.Forall₂ (fun values row =>
          sheetRow cfg lib orders (sheetHeaders lib firstRow) values = .ok row) rows parsed := by
  rw [parseExcel, bind_eq_ok_iff]
  constructor
  · rintro ⟨⟨⟩, harchive, h⟩
    rw [parseSheet, hsheet] at h
    dsimp only at h
    split at h
    · cases h
    · rename_i hcolumns
      split at h
      · cases h
      · rename_i hblank
        obtain ⟨hending, hlength, hrows⟩ := (collectRows_eq_ok_iff (by omega)).mp h
        refine ⟨⟨checkArchive_eq_ok_iff.mp harchive, sheetEnding_eq_ok_iff.mp hending,
          not_lt.mp hcolumns, ?_, by omega, fun values hvalues => ?_⟩, hrows⟩
        · rw [blank_sheetHeaders_iff] at hblank
          push Not at hblank
          exact hblank
        · have hrow := exists_forall₂_iff.mp ⟨parsed, hrows⟩ values hvalues
          rw [sheetRow_eq_ok_iff, length_sheetHeaders] at hrow
          exact hrow
  · rintro ⟨haccepted, hrows⟩
    refine ⟨(), checkArchive_eq_ok_iff.mpr haccepted.archive, ?_⟩
    have hblank : ¬(sheetHeaders lib firstRow).all (·.isEmpty) = true := by
      rw [blank_sheetHeaders_iff]
      push Not
      exact haccepted.header
    rw [parseSheet, hsheet]
    dsimp only
    rw [if_neg (not_lt.mpr haccepted.columns), if_neg hblank, collectRows_eq_ok_iff (by omega)]
    have hlength := haccepted.length
    exact ⟨sheetEnding_eq_ok_iff.mpr haccepted.sheet, by omega, hrows⟩

/-- An accepted spreadsheet is parsed. -/
theorem SpreadsheetAccepted.exists_parsed {content : Bytes} {firstRow : List (SheetCell F)}
    {rows : List (List (SheetCell F))} (h : SpreadsheetAccepted cfg lib content firstRow rows) :
    ∃ parsed, List.Forall₂ (fun values row =>
      sheetRow cfg lib orders (sheetHeaders lib firstRow) values = .ok row) rows parsed := by
  refine exists_forall₂_iff.mpr fun values hvalues => sheetRow_eq_ok_iff.mpr ?_
  rw [length_sheetHeaders]
  exact h.rows values hvalues

/-! ## Parsing and importing -/

/-- The file is parsed and imported, and then the event has a participant under the key. -/
def StoresBib (cfg : ParticipantFileSettings) (lib : FileLibrary F) (orders : AliasOrders)
    (world : World) (db : Database F) (eventId : Uuid) (content : Bytes) (key : Text) : Prop :=
  ∃ parsed result participants, parseExcel cfg lib orders content = .ok parsed ∧
    Request.serve world (upsertParticipants lib.lower eventId
        (parsed.map ParticipantRow.toImportRow)) db =
      (.ok result, db.setParticipants participants) ∧
    ∃ p ∈ participants.rows, p.eventId = eventId ∧ p.bibLookup = key

/-- A bib is stored exactly when the file is accepted and the bib is there already or named by a
row. -/
theorem storesBib_iff {world : World} {db : Database F}
    (hroster : RosterMade lib.lower db.participants.rows)
    (hfresh : world.DrawsFresh db.participants.rows) {eventId : Uuid} {content : Bytes}
    {firstRow : List (SheetCell F)} {rows : List (List (SheetCell F))} {key : Text}
    (hsheet : (lib.sheetRows content).rows = firstRow :: rows) :
    StoresBib cfg lib orders world db eventId content key ↔
      SpreadsheetAccepted cfg lib content firstRow rows ∧
        ((∃ p ∈ db.participants.rows, p.eventId = eventId ∧ p.bibLookup = key) ∨
          ∃ values ∈ rows,
            SheetRowNames cfg lib orders (sheetHeaders lib firstRow) values key) := by
  have hlists : ∀ {parsed : List ParticipantRow}, List.Forall₂ (fun values row =>
      sheetRow cfg lib orders (sheetHeaders lib firstRow) values = .ok row) rows parsed →
        ∃ result participants,
          Request.serve world (upsertParticipants lib.lower eventId
              (parsed.map ParticipantRow.toImportRow)) db =
            (.ok result, db.setParticipants participants) ∧
          ((∃ p ∈ participants.rows, p.eventId = eventId ∧ p.bibLookup = key) ↔
            (∃ p ∈ db.participants.rows, p.eventId = eventId ∧ p.bibLookup = key) ∨
              ∃ values ∈ rows,
                SheetRowNames cfg lib orders (sheetHeaders lib firstRow) values key) := by
    intro parsed hparsed
    obtain ⟨result, participants, hserved, himported, -⟩ :=
      serve_upsertParticipants hroster hfresh eventId (parsed.map ParticipantRow.toImportRow)
    refine ⟨result, participants, hserved, himported.lastRowWins.listed_iff.trans ?_⟩
    simp only [List.mem_map, exists_exists_and_eq_and]
    rw [exists_mem_forall₂_iff hparsed]
    · rfl
    · intro values row row' hrow hrow'
      rw [hrow] at hrow'
      exact Except.ok.inj hrow'
  constructor
  · rintro ⟨parsed, result, participants, hparse, hserved, hstored⟩
    obtain ⟨haccepted, hparsed⟩ := (parseExcel_eq_ok_iff hsheet).mp hparse
    obtain ⟨result', participants', hserved', hiff⟩ := hlists hparsed
    rw [hserved] at hserved'
    have hrows : participants = participants' :=
      congrArg Database.participants (congrArg Prod.snd hserved')
    rw [hrows] at hstored
    exact ⟨haccepted, hiff.mp hstored⟩
  · rintro ⟨haccepted, hkey⟩
    obtain ⟨parsed, hparsed⟩ :
        ∃ parsed, List.Forall₂ (fun values row =>
          sheetRow cfg lib orders (sheetHeaders lib firstRow) values = .ok row) rows parsed :=
      haccepted.exists_parsed
    obtain ⟨result, participants, hserved, hiff⟩ := hlists hparsed
    exact ⟨parsed, result, participants, (parseExcel_eq_ok_iff hsheet).mpr ⟨haccepted, hparsed⟩,
      hserved, hiff.mpr hkey⟩

/-- The number of a row is stored exactly when the file is accepted and the number is delivered as
an integer beside a name that fits, unless the bib is there already or another row names it. -/
theorem spreadsheetNumber_stored_iff [NatCast F] {world : World} {db : Database F}
    (hroster : RosterMade lib.lower db.participants.rows)
    (hfresh : world.DrawsFresh db.participants.rows) (eventId : Uuid)
    (hrepr : ∀ m : Nat, m < 10 ^ 15 → lib.reprFloat m = Nat.toDigits 10 m ++ ['.', '0'])
    {content : Bytes} {firstRow values : List (SheetCell F)}
    {before after : List (List (SheetCell F))} {n : Nat} {cell : SheetCell F} {name : Text}
    (hsheet : (lib.sheetRows content).rows = firstRow :: (before ++ values :: after))
    (hn : n < 10 ^ 15) (hrow : NumberRow lib (sheetHeaders lib firstRow) values n cell name) :
    StoresBib cfg lib orders world db eventId content (Nat.toDigits 10 n) ↔
      SpreadsheetAccepted cfg lib content firstRow (before ++ values :: after) ∧
        ((cell = .int n ∧ (strip name).length ≤ 255) ∨
          (∃ p ∈ db.participants.rows, p.eventId = eventId ∧
            p.bibLookup = Nat.toDigits 10 n) ∨
          ∃ other ∈ before ++ after, SheetRowNames cfg lib orders (sheetHeaders lib firstRow)
            other (Nat.toDigits 10 n)) := by
  rw [storesBib_iff hroster hfresh hsheet]
  refine and_congr_right fun haccepted => ?_
  have hparsed : ∃ row, sheetRow cfg lib orders (sheetHeaders lib firstRow) values = .ok row := by
    rw [sheetRow_eq_ok_iff, length_sheetHeaders]
    exact haccepted.rows values (List.mem_append_right before List.mem_cons_self)
  have hnames := hrow.names_iff hn (hrepr n hn) hparsed
  have hsplit : (∃ other ∈ before ++ values :: after, SheetRowNames cfg lib orders
      (sheetHeaders lib firstRow) other (Nat.toDigits 10 n)) ↔
        (cell = .int n ∧ (strip name).length ≤ 255) ∨
          ∃ other ∈ before ++ after, SheetRowNames cfg lib orders (sheetHeaders lib firstRow)
            other (Nat.toDigits 10 n) := by
    rw [← hnames]
    simp only [List.mem_append, List.mem_cons]
    constructor
    · rintro ⟨other, hother | rfl | hother, hkey⟩
      · exact Or.inr ⟨other, Or.inl hother, hkey⟩
      · exact Or.inl hkey
      · exact Or.inr ⟨other, Or.inr hother, hkey⟩
    · rintro (hkey | ⟨other, hother | hother, hkey⟩)
      · exact ⟨values, Or.inr (Or.inl rfl), hkey⟩
      · exact ⟨other, Or.inl hother, hkey⟩
      · exact ⟨other, Or.inr (Or.inr hother), hkey⟩
  rw [hsplit]
  exact or_left_comm

/-- A library for which every content is a sheet with one bib. -/
def oneBibLibrary (cell : SheetCell ℚ) : FileLibrary ℚ where
  lower := id
  reprFields := fun _ => []
  reprFloat := fun x => intText x.num ++ ['.', '0']
  archiveEntries := fun _ => .ok [⟨1, 1⟩]
  sheetRows := fun _ =>
    ⟨[[.text "bib".toList, .text "name".toList], [cell, .text "Ada".toList]], none⟩

private theorem oneBibLibrary_repr (cell : SheetCell ℚ) (m : Nat) :
    (oneBibLibrary cell).reprFloat m = Nat.toDigits 10 m ++ ['.', '0'] := by
  simp [oneBibLibrary, intText]

private theorem aliases_of_headers :
    normalizeHeader id "bib".toList ∈ bibNumberAliases ∧
      normalizeHeader id (normalizeHeader id "name".toList) ∉ bibNumberAliases ∧
      normalizeHeader id "name".toList ∈ fullNameAliases ∧
      normalizeHeader id (normalizeHeader id "bib".toList) ∉ fullNameAliases := by
  decide

private theorem oneBibLibrary_row {cell : SheetCell ℚ} (h : cell = .int 1042 ∨ cell = .float 1042) :
    NumberRow (oneBibLibrary cell)
      (sheetHeaders (oneBibLibrary cell) [.text "bib".toList, .text "name".toList])
      [cell, .text "Ada".toList] 1042 cell "Ada".toList where
  bibCell := by
    refine ⟨0, ⟨⟨"bib".toList, by rfl, aliases_of_headers.1⟩, fun i header hheader halias => ?_⟩,
      rfl⟩
    rcases i with _ | _ | i
    · rfl
    · rw [← Option.some.inj hheader] at halias
      exact absurd halias aliases_of_headers.2.1
    · cases hheader
  number := h
  nameCell := by
    refine ⟨1, ⟨⟨"name".toList, by rfl, aliases_of_headers.2.2.1⟩,
      fun i header hheader halias => ?_⟩, rfl⟩
    rcases i with _ | _ | i
    · rw [← Option.some.inj hheader] at halias
      exact absurd halias aliases_of_headers.2.2.2
    · rfl
    · cases hheader
  name_ne := by decide

private theorem oneBibLibrary_short {cell : SheetCell ℚ}
    (h : cell = .int 1042 ∨ cell = .float 1042) :
    ¬HasLongCell .default (oneBibLibrary cell).reprFields
      (sheetItems (oneBibLibrary cell) ["bib".toList, "name".toList]
        [cell, .text "Ada".toList]) := by
  rcases h with rfl | rfl
  · unfold HasLongCell
    decide +kernel
  · unfold HasLongCell
    decide +kernel

private theorem oneBibLibrary_accepted {cell : SheetCell ℚ}
    (h : cell = .int 1042 ∨ cell = .float 1042) :
    SpreadsheetAccepted .default (oneBibLibrary cell) [0]
      [.text "bib".toList, .text "name".toList] [[cell, .text "Ada".toList]] where
  archive := ⟨[⟨1, 1⟩], rfl, by decide, by decide⟩
  sheet := rfl
  columns := by
    rw [List.length_cons, List.length_singleton]
    decide
  header := ⟨"bib".toList, List.mem_cons_self, by decide⟩
  length := by
    rw [List.length_singleton]
    decide
  rows values hvalues := by
    rw [List.mem_singleton.mp hvalues]
    exact ⟨Nat.le_of_ble_eq_true rfl, le_refl _, oneBibLibrary_short h⟩

/-- The bib 1042 that is delivered as an integer is stored under its digits. -/
theorem integerBib_stored :
    StoresBib .default (oneBibLibrary (.int 1042)) .written (World.still 0 id) Database.empty 7 [0]
      (Nat.toDigits 10 1042) := by
  have hfresh : (World.still 0 id).DrawsFresh (Database.empty (F := ℚ)).participants.rows :=
    ⟨fun m n h => h, fun n p hp => absurd hp List.not_mem_nil⟩
  have hsheet : ((oneBibLibrary (.int 1042)).sheetRows [0]).rows =
      [.text "bib".toList, .text "name".toList] ::
        ([] ++ [.int 1042, .text "Ada".toList] :: []) := rfl
  exact (spreadsheetNumber_stored_iff rosterMade_nil hfresh 7
    (fun m _ => oneBibLibrary_repr _ m) hsheet (by decide) (oneBibLibrary_row (Or.inl rfl))).mpr
      ⟨oneBibLibrary_accepted (Or.inl rfl), Or.inl ⟨rfl, by decide⟩⟩

/-- The bib 1042 that is delivered as a float is stored under the key 10420. -/
theorem floatBib_misstored :
    ¬StoresBib .default (oneBibLibrary (.float 1042)) .written (World.still 0 id) Database.empty 7
        [0] (Nat.toDigits 10 1042) ∧
      StoresBib .default (oneBibLibrary (.float 1042)) .written (World.still 0 id) Database.empty 7
        [0] "10420".toList := by
  have hfresh : (World.still 0 id).DrawsFresh (Database.empty (F := ℚ)).participants.rows :=
    ⟨fun m n h => h, fun n p hp => absurd hp List.not_mem_nil⟩
  have hsheet : ((oneBibLibrary (.float 1042)).sheetRows [0]).rows =
      [.text "bib".toList, .text "name".toList] ::
        [[.float 1042, .text "Ada".toList]] := rfl
  have hrow : sheetRow .default (oneBibLibrary (.float 1042)) .written
      (sheetHeaders (oneBibLibrary (.float 1042)) [.text "bib".toList, .text "name".toList])
      [.float 1042, .text "Ada".toList] = .ok ⟨"1042.0".toList, "Ada".toList⟩ := by
    rfl
  have hkey : normalizeBibLookup (ParticipantRow.toImportRow
      ⟨"1042.0".toList, "Ada".toList⟩).bib = "10420".toList := by
    decide +kernel
  have haccepted : SpreadsheetAccepted .default (oneBibLibrary (.float 1042)) [0]
      [.text "bib".toList, .text "name".toList] [[.float 1042, .text "Ada".toList]] :=
    oneBibLibrary_accepted (Or.inr rfl)
  constructor
  · rw [storesBib_iff rosterMade_nil hfresh hsheet]
    rintro ⟨-, ⟨p, hp, -⟩ | ⟨values, hvalues, row, hparsed, -, hcanonical⟩⟩
    · cases hp
    · rw [List.mem_singleton.mp hvalues, hrow] at hparsed
      rw [← Except.ok.inj hparsed, hkey] at hcanonical
      exact absurd hcanonical (by decide +kernel)
  · rw [storesBib_iff rosterMade_nil hfresh hsheet]
    exact ⟨haccepted, Or.inr ⟨_, List.mem_singleton_self _, _, hrow, by decide +kernel, hkey⟩⟩

end RaceFrame
