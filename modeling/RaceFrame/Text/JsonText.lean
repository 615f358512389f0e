import Mathlib.Data.Nat.Digits.Defs
import RaceFrame.Schema.Rows

/-!
# JSON texts

`json.dumps` of a flat object of texts and integers in its compact form with
sorted keys, and the scanner of `json.loads`. Floats are read by a parameter. A
flat object of plain texts is read back as it was written.
-/

namespace RaceFrame

variable {F : Type}

/-! ## Writing -/

/-- The four hexadecimal digits of an escape. -/
def hexEscape (n : Nat) : Text :=
  ['\\', 'u'] ++ (Nat.toDigits 16 n).leftpad 4 '0'

/-- One code point of an ASCII JSON string. -/
def escapeChar (c : Char) : Text :=
  if c = '"' then ['\\', '"']
  else if c = '\\' then ['\\', '\\']
  else if c = '\n' then ['\\', 'n']
  else if c = '\r' then ['\\', 'r']
  else if c = '\t' then ['\\', 't']
  else if c.toNat = 12 then ['\\', 'f']
  else if c.toNat = 8 then ['\\', 'b']
  else if 32 ≤ c.toNat ∧ c.toNat ≤ 126 then [c]
  else if c.toNat < 65536 then hexEscape c.toNat
  else
    hexEscape (0xD800 + (c.toNat - 0x10000) / 1024) ++
      hexEscape (0xDC00 + (c.toNat - 0x10000) % 1024)

/-- `json.dumps` of a string. -/
def dumpsText (s : Text) : Text := '"' :: (s.flatMap escapeChar ++ ['"'])

/-- A value of a flat object. -/
inductive FlatValue
  | str (s : Text)
  | int (n : Nat)
  deriving DecidableEq

/-- `json.dumps` of a value of a flat object. -/
def FlatValue.dumps : FlatValue → Text
  | str s => dumpsText s
  | int n => Nat.toDigits 10 n

/-- The value as `json.loads` returns it. -/
def FlatValue.toJson : FlatValue → Json F
  | str s => .str s
  | int n => .int n

/-- `json.dumps` of an object with `separators=(",", ":")`, its entries in the order of the keys. -/
def dumpsFlat (entries : List (Text × FlatValue)) : Text :=
  ['{'] ++ (List.intersperse [','] (entries.map fun (key, value) =>
    dumpsText key ++ [':'] ++ value.dumps)).flatten ++ ['}']

/-! ## Reading -/

/-- Skip JSON white space. -/
def skipSpace (text : Text) : Text := text.dropWhile [' ', '\t', '\n', '\r'].contains

/-- The value of a hexadecimal digit. -/
def hexValue (c : Char) : Option Nat :=
  if c.isDigit then some (c.toNat - '0'.toNat)
  else if 'a' ≤ c ∧ c ≤ 'f' then some (c.toNat - 'a'.toNat + 10)
  else if 'A' ≤ c ∧ c ≤ 'F' then some (c.toNat - 'A'.toNat + 10)
  else none

/-- The number that hexadecimal digits stand for. -/
def hexNumber (digits : Text) : Option Nat :=
  digits.foldlM (fun n c => (hexValue c).map (n * 16 + ·)) 0

/-- The code unit of four hexadecimal digits. -/
def scanUnit : Text → Option (Nat × Text)
  | a :: b :: c :: d :: rest => (hexNumber [a, b, c, d]).map (·, rest)
  | _ => none

/-- The character of a one-letter escape. -/
def simpleEscape (c : Char) : Option Char :=
  [('"', '"'), ('\\', '\\'), ('/', '/'), ('b', Char.ofNat 8), ('f', Char.ofNat 12), ('n', '\n'),
    ('r', '\r'), ('t', '\t')].lookup c

/-- The character that an escape stands for, after the backslash. An escape that is half of a
surrogate pair has no code point and fails here. -/
def scanEscape : Text → Option (Char × Text)
  | 'u' :: rest => do
    let (unit, rest) ← scanUnit rest
    if 0xD800 ≤ unit ∧ unit < 0xDC00 then
      match rest with
      | '\\' :: 'u' :: rest => do
        let (low, rest) ← scanUnit rest
        if 0xDC00 ≤ low ∧ low < 0xE000 then
          some (Char.ofNat (0x10000 + (unit - 0xD800) * 1024 + (low - 0xDC00)), rest)
        else none
      | _ => none
    else if 0xDC00 ≤ unit ∧ unit < 0xE000 then none
    else some (Char.ofNat unit, rest)
  | e :: rest => (simpleEscape e).map (·, rest)
  | [] => none

/-- `scanstring` after the opening quote, with fuel for the characters. -/
def scanString : Nat → Text → Option (Text × Text)
  | 0, _ => none
  | _ + 1, [] => none
  | fuel + 1, c :: rest =>
    if c = '"' then some ([], rest)
    else if c.toNat < 32 then none
    else if c = '\\' then
      (scanEscape rest).bind fun (c, rest) =>
        (scanString fuel rest).map fun (s, rest) => (c :: s, rest)
    else (scanString fuel rest).map fun (s, rest) => (c :: s, rest)

/-- The fraction of a number, if one follows. -/
def scanFraction (text : Text) : Text × Text :=
  match text with
  | '.' :: rest =>
    let digits := rest.takeWhile Char.isDigit
    if digits.isEmpty then ([], text) else ('.' :: digits, rest.dropWhile Char.isDigit)
  | _ => ([], text)

/-- The exponent of a number, if one follows. -/
def scanExponent (text : Text) : Text × Text :=
  match text with
  | e :: rest =>
    if e = 'e' ∨ e = 'E' then
      let sign := (rest.take 1).filter fun c => c = '+' ∨ c = '-'
      let digits := (rest.drop sign.length).takeWhile Char.isDigit
      if digits.isEmpty then ([], text)
      else (e :: sign ++ digits, rest.drop (sign.length + digits.length))
    else ([], text)
  | [] => ([], text)

/-- The scanner of numbers, over the reader of float literals. -/
def scanNumber (readFloat : Text → F) (text : Text) : Option (Json F × Text) :=
  let sign := (text.take 1).filter (· = '-')
  let digits := (text.drop sign.length).takeWhile Char.isDigit
  let digits := if digits.head? = some '0' then ['0'] else digits
  if digits.isEmpty then none
  else
    let rest := text.drop (sign.length + digits.length)
    let (fraction, rest) := scanFraction rest
    let (exponent, rest) := scanExponent rest
    let n : Nat := Nat.ofDigitChars 10 digits 0
    if fraction.isEmpty && exponent.isEmpty then
      some (.int (if sign.isEmpty then n else -n), rest)
    else some (.float (readFloat (sign ++ digits ++ fraction ++ exponent)), rest)

/-- The literals that are not numbers, strings or containers. -/
def scanLiteral (readFloat : Text → F) (text : Text) : Option (Json F × Text) :=
  let literals : List (Text × Json F) :=
    [("null".toList, .null), ("true".toList, .bool true), ("false".toList, .bool false),
      ("NaN".toList, .float (readFloat "NaN".toList)),
      ("Infinity".toList, .float (readFloat "Infinity".toList)),
      ("-Infinity".toList, .float (readFloat "-Infinity".toList))]
  (literals.find? fun l => l.1.isPrefixOf text).map fun l => (l.2, text.drop l.1.length)

mutual

/-- `scan_once`: the value at the front of a text. -/
def scanOnce (readFloat : Text → F) : Nat → Text → Option (Json F × Text)
  | 0, _ => none
  | fuel + 1, text =>
    match text with
    | '"' :: rest => (scanString (rest.length + 1) rest).map fun (s, rest) => (.str s, rest)
    | '{' :: rest =>
      match skipSpace rest with
      | '}' :: rest => some (.dict [], rest)
      | rest => (scanMembers readFloat fuel rest).map fun (entries, rest) => (.dict entries, rest)
    | '[' :: rest =>
      match skipSpace rest with
      | ']' :: rest => some (.list [], rest)
      | rest => (scanItems readFloat fuel rest).map fun (items, rest) => (.list items, rest)
    | text => (scanLiteral readFloat text).orElse fun _ => scanNumber readFloat text

/-- The members of an object, up to its closing brace. -/
def scanMembers (readFloat : Text → F) : Nat → Text → Option (List (String × Json F) × Text)
  | 0, _ => none
  | fuel + 1, text =>
    match text with
    | '"' :: rest => do
      let (key, rest) ← scanString (rest.length + 1) rest
      match skipSpace rest with
      | ':' :: rest => do
        let (value, rest) ← scanOnce readFloat fuel (skipSpace rest)
        match skipSpace rest with
        | '}' :: rest => some ([(String.ofList key, value)], rest)
        | ',' :: rest => do
          let (entries, rest) ← scanMembers readFloat fuel (skipSpace rest)
          some ((String.ofList key, value) :: entries, rest)
        | _ => none
      | _ => none
    | _ => none

/-- The items of an array, up to its closing bracket. -/
def scanItems (readFloat : Text → F) : Nat → Text → Option (List (Json F) × Text)
  | 0, _ => none
  | fuel + 1, text => do
    let (value, rest) ← scanOnce readFloat fuel text
    match skipSpace rest with
    | ']' :: rest => some ([value], rest)
    | ',' :: rest => do
      let (items, rest) ← scanItems readFloat fuel (skipSpace rest)
      some (value :: items, rest)
    | _ => none

end

/-- `json.loads`. -/
def loads (readFloat : Text → F) (text : Text) : Option (Json F) :=
  match scanOnce readFloat (text.length + 1) (skipSpace text) with
  | some (value, rest) => if (skipSpace rest).isEmpty then some value else none
  | none => none

/-- The value that an object holds under a key: the last one written. -/
def Json.member (entries : JsonDict F) (key : String) : Option (Json F) :=
  entries.reverse.lookup key

/-! ## Reading back what was written -/

/-- Printable ASCII characters that stand for themselves in a JSON string. -/
def IsPlain (s : Text) : Prop :=
  ∀ c ∈ s, 32 ≤ c.toNat ∧ c.toNat ≤ 126 ∧ c ≠ '"' ∧ c ≠ '\\'

theorem dumpsText_of_plain {s : Text} (h : IsPlain s) : dumpsText s = '"' :: (s ++ ['"']) := by
  have hescape : s.flatMap escapeChar = s := by
    induction s with
    | nil => rfl
    | cons c s ih =>
      obtain ⟨hlow, hhigh, hquote, hbackslash⟩ := h c List.mem_cons_self
      have hn : ('\n').toNat = 10 := rfl
      have hr : ('\r').toNat = 13 := rfl
      have ht : ('\t').toNat = 9 := rfl
      have hnewline : c ≠ '\n' := fun hc => by rw [hc, hn] at hlow; omega
      have hreturn : c ≠ '\r' := fun hc => by rw [hc, hr] at hlow; omega
      have htab : c ≠ '\t' := fun hc => by rw [hc, ht] at hlow; omega
      have hc : escapeChar c = [c] := by
        rw [escapeChar, if_neg hquote, if_neg hbackslash, if_neg hnewline, if_neg hreturn,
          if_neg htab, if_neg (by omega), if_neg (by omega), if_pos ⟨hlow, hhigh⟩]
      rw [List.flatMap_cons, hc, ih fun d hd => h d (List.mem_cons_of_mem c hd)]
      rfl
  rw [dumpsText, hescape]

theorem scanString_of_plain {s : Text} (h : IsPlain s) (rest : Text) {fuel : Nat}
    (hfuel : s.length < fuel) : scanString fuel (s ++ '"' :: rest) = some (s, rest) := by
  induction s generalizing fuel with
  | nil =>
    obtain ⟨fuel, rfl⟩ := Nat.exists_eq_succ_of_ne_zero (Nat.ne_of_gt hfuel)
    rfl
  | cons c s ih =>
    obtain ⟨hlow, -, hquote, hbackslash⟩ := h c List.mem_cons_self
    obtain ⟨fuel, rfl⟩ := Nat.exists_eq_succ_of_ne_zero (Nat.ne_of_gt (Nat.zero_lt_of_lt hfuel))
    have hrest := ih (fun d hd => h d (List.mem_cons_of_mem c hd)) (Nat.lt_of_succ_lt_succ hfuel)
    rw [List.cons_append, scanString, if_neg hquote, if_neg (by omega), if_neg hbackslash, hrest]
    rfl

private theorem head?_toDigits {n : Nat} (h : (Nat.toDigits 10 n).head? = some '0') : n = 0 := by
  induction n using Nat.strongRecOn with
  | ind n ih =>
    rcases Nat.lt_or_ge n 10 with hlt | hge
    · rw [Nat.toDigits_of_lt_base hlt] at h
      have hdigits : ∀ m < 10, Nat.digitChar m = '0' → m = 0 := by decide
      exact hdigits n hlt (Option.some.inj h)
    · rw [Nat.toDigits_of_base_le (by omega) hge, List.head?_append] at h
      have hne : (Nat.toDigits 10 (n / 10)).head? ≠ none := by
        rw [ne_eq, List.head?_eq_none_iff]
        exact Nat.toDigits_ne_nil
      obtain ⟨d, hd⟩ := Option.ne_none_iff_exists'.mp hne
      rw [hd] at h
      have hzero := ih (n / 10) (by omega) (by rw [hd]; exact h)
      omega

private theorem isDigit_of_mem_toDigits {n : Nat} {c : Char} (h : c ∈ Nat.toDigits 10 n) :
    c.isDigit = true :=
  Nat.isDigit_of_mem_toDigits (by omega) (by omega) h

/-- The characters that may follow a value of a flat object. -/
def EndsValue (rest : Text) : Prop := ∃ tail, rest = ',' :: tail ∨ rest = '}' :: tail

theorem scanNumber_toDigits (readFloat : Text → F) (n : Nat) {rest : Text}
    (hrest : EndsValue rest) :
    scanNumber readFloat (Nat.toDigits 10 n ++ rest) = some (.int n, rest) := by
  generalize hdigits : Nat.toDigits 10 n = digits
  have hall : ∀ c ∈ digits, c.isDigit = true := by
    rw [← hdigits]
    exact fun c hc => isDigit_of_mem_toDigits hc
  have hne : digits ≠ [] := by
    rw [← hdigits]
    exact Nat.toDigits_ne_nil
  have hvalue : Nat.ofDigitChars 10 digits 0 = n := by
    rw [← hdigits]
    exact Nat.ofDigitChars_ten_toDigits
  have hzero : (if digits.head? = some '0' then ['0'] else digits) = digits := by
    split
    next hhead =>
      have hn : n = 0 := head?_toDigits (hdigits ▸ hhead)
      rw [← hdigits, hn]
      rfl
    next => rfl
  have hsign : ((digits ++ rest).take 1).filter (· = '-') = [] := by
    cases digits with
    | nil => exact absurd rfl hne
    | cons d digits =>
      have hd : d ≠ '-' := by
        rintro rfl
        exact absurd (hall '-' List.mem_cons_self) (by decide)
      rw [List.cons_append, List.take_succ_cons, List.take_zero,
        List.filter_cons_of_neg (by simpa using hd)]
      rfl
  have hstop : ∃ c tail, rest = c :: tail ∧ c.isDigit = false ∧ scanFraction rest = ([], rest) ∧
      scanExponent rest = ([], rest) := by
    obtain ⟨tail, rfl | rfl⟩ := hrest
    · exact ⟨_, _, rfl, rfl, rfl, rfl⟩
    · exact ⟨_, _, rfl, rfl, rfl, rfl⟩
  obtain ⟨c, tail, hcons, hc, hfraction, hexponent⟩ := hstop
  have htake : (digits ++ rest).takeWhile Char.isDigit = digits := by
    rw [List.takeWhile_append_of_pos hall, hcons, List.takeWhile_cons_of_neg (by simp [hc]),
      List.append_nil]
  have hempty : digits.isEmpty = false := List.isEmpty_eq_false_iff.mpr hne
  simp only [scanNumber, hsign, List.length_nil, List.drop_zero, htake, hzero, hempty,
    Bool.false_eq_true, ite_false, Nat.zero_add, List.drop_left, hfraction, hexponent,
    List.isEmpty_nil, Bool.and_self, ite_true, hvalue]

/-- A value of a flat object whose texts are plain. -/
def FlatValue.IsPlain : FlatValue → Prop
  | str s => RaceFrame.IsPlain s
  | int _ => True

private theorem skipSpace_cons {c : Char} {rest : Text}
    (h : [' ', '\t', '\n', '\r'].contains c = false) : skipSpace (c :: rest) = c :: rest :=
  List.dropWhile_cons_of_neg (by rw [h]; exact Bool.false_ne_true)

private theorem digit_cases {d : Char} (h : d.isDigit = true) :
    [' ', '\t', '\n', '\r'].contains d = false ∧ d ≠ '"' ∧ d ≠ '{' ∧ d ≠ '[' ∧
      ['n', 't', 'f', 'N', 'I', '-'].contains d = false := by
  rw [Char.isDigit_iff_toNat] at h
  have hdigits : ∀ m < 58, 48 ≤ m → [' ', '\t', '\n', '\r'].contains (Char.ofNat m) = false ∧
      Char.ofNat m ≠ '"' ∧ Char.ofNat m ≠ '\x7b' ∧ Char.ofNat m ≠ '[' ∧
      ['n', 't', 'f', 'N', 'I', '-'].contains (Char.ofNat m) = false := by
    decide
  have h0 : '0'.toNat = 48 := rfl
  have h9 : '9'.toNat = 57 := rfl
  have hd := hdigits d.toNat (by omega) (by omega)
  rwa [Char.ofNat_toNat] at hd

private theorem scanLiteral_digit (readFloat : Text → F) {d : Char} (rest : Text)
    (h : ['n', 't', 'f', 'N', 'I', '-'].contains d = false) :
    scanLiteral readFloat (d :: rest) = none := by
  have hne : d ≠ 'n' ∧ d ≠ 't' ∧ d ≠ 'f' ∧ d ≠ 'N' ∧ d ≠ 'I' ∧ d ≠ '-' := by simpa using h
  have hprefix : ∀ (c : Char) (s : Text), d ≠ c → (c :: s).isPrefixOf (d :: rest) = false := by
    intro c s hc
    rw [List.isPrefixOf_cons_cons, beq_eq_false_iff_ne.mpr hc.symm, Bool.false_and]
  have hnull := hprefix 'n' ['u', 'l', 'l'] hne.1
  have htrue := hprefix 't' ['r', 'u', 'e'] hne.2.1
  have hfalse := hprefix 'f' ['a', 'l', 's', 'e'] hne.2.2.1
  have hnan := hprefix 'N' ['a', 'N'] hne.2.2.2.1
  have hinf := hprefix 'I' ['n', 'f', 'i', 'n', 'i', 't', 'y'] hne.2.2.2.2.1
  have hneg := hprefix '-' ['I', 'n', 'f', 'i', 'n', 'i', 't', 'y'] hne.2.2.2.2.2
  rw [scanLiteral]
  change Option.map _ (List.find? _ [(['n', 'u', 'l', 'l'], _), (['t', 'r', 'u', 'e'], _),
    (['f', 'a', 'l', 's', 'e'], _), (['N', 'a', 'N'], _),
    (['I', 'n', 'f', 'i', 'n', 'i', 't', 'y'], _),
    (['-', 'I', 'n', 'f', 'i', 'n', 'i', 't', 'y'], _)]) = none
  simp only [List.find?_cons, hnull, htrue, hfalse, hnan, hinf, hneg, List.find?_nil,
    Option.map_none]

/-- A value of a flat object is read back. -/
theorem scanOnce_dumps (readFloat : Text → F) {value : FlatValue} (h : value.IsPlain)
    {rest : Text} (hrest : EndsValue rest) (fuel : Nat) :
    scanOnce readFloat (fuel + 1) (value.dumps ++ rest) = some (value.toJson, rest) := by
  cases value with
  | str s =>
    have hplain : RaceFrame.IsPlain s := h
    have htext : FlatValue.dumps (.str s) ++ rest = '"' :: (s ++ '"' :: rest) := by
      rw [FlatValue.dumps, dumpsText_of_plain hplain]
      simp only [List.cons_append, List.append_assoc, List.nil_append]
    have hfuel : s.length < (s ++ '"' :: rest).length + 1 := by
      rw [List.length_append]
      omega
    rw [htext, scanOnce, scanString_of_plain hplain rest hfuel]
    rfl
  | int n =>
    have hnumber := scanNumber_toDigits readFloat n hrest
    obtain ⟨d, digits, hdigits⟩ :=
      List.exists_cons_of_ne_nil (Nat.toDigits_ne_nil (n := n) (b := 10))
    have hd : d.isDigit = true := by
      apply isDigit_of_mem_toDigits (n := n)
      rw [hdigits]
      exact List.mem_cons_self
    obtain ⟨-, hquote, hbrace, hbracket, hletter⟩ := digit_cases hd
    have htext : FlatValue.dumps (.int n) ++ rest = d :: (digits ++ rest) := by
      rw [FlatValue.dumps, hdigits, List.cons_append]
    rw [hdigits, List.cons_append] at hnumber
    rw [htext]
    rw [scanOnce]
    · rw [scanLiteral_digit readFloat _ hletter, hnumber]
      rfl
    · exact fun _ heq => hquote (List.cons.inj heq).1
    · exact fun _ heq => hbrace (List.cons.inj heq).1
    · exact fun _ heq => hbracket (List.cons.inj heq).1

private theorem skipSpace_dumps {value : FlatValue} (h : value.IsPlain) (rest : Text) :
    skipSpace (value.dumps ++ rest) = value.dumps ++ rest := by
  cases value with
  | str s => rfl
  | int n =>
    obtain ⟨d, digits, hdigits⟩ :=
      List.exists_cons_of_ne_nil (Nat.toDigits_ne_nil (n := n) (b := 10))
    have hd : d.isDigit = true := by
      apply isDigit_of_mem_toDigits (n := n)
      rw [hdigits]
      exact List.mem_cons_self
    rw [FlatValue.dumps, hdigits, List.cons_append]
    exact skipSpace_cons (digit_cases hd).1

/-- The members of a flat object, up to its closing brace. -/
def membersText : List (Text × FlatValue) → Text
  | [] => []
  | [(key, value)] => dumpsText key ++ ':' :: value.dumps
  | (key, value) :: entry :: entries =>
    dumpsText key ++ ':' :: (value.dumps ++ ',' :: membersText (entry :: entries))

theorem dumpsFlat_eq (entries : List (Text × FlatValue)) :
    dumpsFlat entries = '{' :: (membersText entries ++ ['}']) := by
  have hmembers : (List.intersperse [','] (entries.map fun entry : Text × FlatValue =>
      dumpsText entry.1 ++ [':'] ++ entry.2.dumps)).flatten = membersText entries := by
    induction entries using membersText.induct with
    | case1 => rfl
    | case2 key value =>
      simp only [List.map_cons, List.map_nil, List.intersperse_singleton, List.flatten_cons,
        List.flatten_nil, List.append_nil, membersText, List.append_assoc, List.singleton_append]
    | case3 key value entry entries ih =>
      simp only [List.map_cons, List.intersperse_cons_cons, List.flatten_cons, membersText,
        List.append_assoc, List.nil_append, List.cons_append] at ih ⊢
      rw [ih]
  rw [← hmembers]
  rfl

/-- The entries of a flat object are plain. -/
def PlainEntries (entries : List (Text × FlatValue)) : Prop :=
  ∀ entry ∈ entries, IsPlain entry.1 ∧ entry.2.IsPlain

/-- The entries as `json.loads` returns them. -/
def entriesToJson (entries : List (Text × FlatValue)) : JsonDict F :=
  entries.map fun (key, value) => (String.ofList key, value.toJson)

private theorem scanMembers_key (readFloat : Text → F) {key : Text} (hkey : IsPlain key)
    (rest : Text) (fuel : Nat) :
    scanMembers readFloat (fuel + 1) (dumpsText key ++ ':' :: rest) =
      (scanOnce readFloat fuel (skipSpace rest)).bind fun (value, rest) =>
        match skipSpace rest with
        | '}' :: rest => some ([(String.ofList key, value)], rest)
        | ',' :: rest => do
          let (entries, rest) ← scanMembers readFloat fuel (skipSpace rest)
          some ((String.ofList key, value) :: entries, rest)
        | _ => none := by
  have htext : dumpsText key ++ ':' :: rest = '"' :: (key ++ '"' :: ':' :: rest) := by
    rw [dumpsText_of_plain hkey]
    simp only [List.cons_append, List.append_assoc, List.nil_append]
  have hfuel : key.length < (key ++ '"' :: ':' :: rest).length + 1 := by
    rw [List.length_append]
    omega
  have hcolon : skipSpace (':' :: rest) = ':' :: rest := rfl
  rw [htext, scanMembers]
  dsimp only
  rw [scanString_of_plain hkey _ hfuel]
  simp only [Option.bind_eq_bind, Option.bind_some, hcolon]

/-- The members of a flat object are read back. -/
theorem scanMembers_membersText (readFloat : Text → F) {entries : List (Text × FlatValue)}
    (h : PlainEntries entries) (hne : entries ≠ []) (rest : Text) {fuel : Nat}
    (hfuel : entries.length < fuel) :
    scanMembers readFloat fuel (membersText entries ++ '}' :: rest) =
      some (entriesToJson entries, rest) := by
  induction entries using membersText.induct generalizing fuel with
  | case1 => exact absurd rfl hne
  | case2 key value =>
    obtain ⟨hkey, hvalue⟩ := h (key, value) List.mem_cons_self
    obtain ⟨fuel, rfl⟩ : ∃ f, fuel = f + 2 :=
      ⟨fuel - 2, by simp only [List.length_cons, List.length_nil] at hfuel; omega⟩
    have htext : membersText [(key, value)] ++ '}' :: rest =
        dumpsText key ++ ':' :: (value.dumps ++ '}' :: rest) := by
      simp only [membersText, List.append_assoc, List.cons_append]
    have hend : EndsValue ('}' :: rest) := ⟨rest, Or.inr rfl⟩
    rw [htext, scanMembers_key readFloat hkey, skipSpace_dumps hvalue,
      scanOnce_dumps readFloat hvalue hend, Option.bind_some]
    rfl
  | case3 key value entry entries ih =>
    obtain ⟨hkey, hvalue⟩ := h (key, value) List.mem_cons_self
    obtain ⟨fuel, rfl⟩ : ∃ f, fuel = f + 2 :=
      ⟨fuel - 2, by simp only [List.length_cons] at hfuel; omega⟩
    have htext : membersText ((key, value) :: entry :: entries) ++ '}' :: rest =
        dumpsText key ++ ':' :: (value.dumps ++
          ',' :: (membersText (entry :: entries) ++ '}' :: rest)) := by
      simp only [membersText, List.append_assoc, List.cons_append]
    have hend : EndsValue (',' :: (membersText (entry :: entries) ++ '}' :: rest)) :=
      ⟨_, Or.inl rfl⟩
    have hrest := ih (fun e he => h e (List.mem_cons_of_mem _ he)) (List.cons_ne_nil _ _)
      (show (entry :: entries).length < fuel + 1 by
        simp only [List.length_cons] at hfuel ⊢
        omega)
    have hspace : skipSpace (membersText (entry :: entries) ++ '}' :: rest) =
        membersText (entry :: entries) ++ '}' :: rest := by
      cases entries with
      | nil => rfl
      | cons e es => rfl
    rw [htext, scanMembers_key readFloat hkey, skipSpace_dumps hvalue,
      scanOnce_dumps readFloat hvalue hend, Option.bind_some]
    have hcomma : skipSpace (',' :: (membersText (entry :: entries) ++ '}' :: rest)) =
        ',' :: (membersText (entry :: entries) ++ '}' :: rest) := rfl
    simp only [hcomma, hspace, hrest]
    rfl

private theorem length_le_membersText (entries : List (Text × FlatValue)) :
    entries.length ≤ (membersText entries).length := by
  induction entries using membersText.induct with
  | case1 => exact Nat.le_refl _
  | case2 key value =>
    simp only [membersText, List.length_append, List.length_cons, List.length_nil]
    omega
  | case3 key value entry entries ih =>
    simp only [membersText, List.length_append, List.length_cons] at ih ⊢
    omega

/-- A flat object of plain texts is read back as it was written. -/
theorem loads_dumpsFlat (readFloat : Text → F) {entries : List (Text × FlatValue)}
    (h : PlainEntries entries) (hne : entries ≠ []) :
    loads readFloat (dumpsFlat entries) = some (.dict (entriesToJson entries)) := by
  have hlength := length_le_membersText entries
  have hfuel : entries.length < ('{' :: (membersText entries ++ ['}'])).length := by
    simp only [List.length_cons, List.length_append, List.length_nil]
    omega
  have hmembers := scanMembers_membersText readFloat h hne [] hfuel
  obtain ⟨tail, htail⟩ : ∃ tail, membersText entries ++ ['}'] = '"' :: tail := by
    match entries, hne with
    | [_], _ => exact ⟨_, rfl⟩
    | _ :: _ :: _, _ => exact ⟨_, rfl⟩
  have hspace : skipSpace ('{' :: (membersText entries ++ ['}'])) =
      '{' :: (membersText entries ++ ['}']) := rfl
  rw [htail] at hmembers hspace
  have hopen : scanOnce readFloat (('{' :: '"' :: tail).length + 1) ('{' :: '"' :: tail) =
      (scanMembers readFloat ('{' :: '"' :: tail).length ('"' :: tail)).map
        fun (entries, rest) => (.dict entries, rest) := rfl
  rw [dumpsFlat_eq, htail, loads, hspace, hopen, hmembers]
  rfl

end RaceFrame
