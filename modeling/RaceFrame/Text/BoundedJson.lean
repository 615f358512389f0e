import RaceFrame.Core.Bytes
import RaceFrame.Orm.Session
import RaceFrame.Text.JsonText

/-!
# Bounded JSON values

`json.dumps` of any value with `ensure_ascii=False`, and the checks of
`_validate_bounded_json`: the length of the encoded value, its depth and the
number of its items. How floats are written and how deep the interpreter can
enter a value are parameters.
-/

namespace RaceFrame

open Core

variable {F : Type}

/-! ## Walking -/

mutual

/-- The number of values in a value. -/
def Json.nodes : Json F → Nat
  | .list items => 1 + Json.itemNodes items
  | .dict entries => 1 + Json.memberNodes entries
  | _ => 1

/-- The number of values in a list. -/
def Json.itemNodes : List (Json F) → Nat
  | [] => 0
  | item :: items => item.nodes + Json.itemNodes items

/-- The number of values in an object. -/
def Json.memberNodes : List (String × Json F) → Nat
  | [] => 0
  | (_, value) :: entries => value.nodes + Json.memberNodes entries

end

/-- The values directly inside a value. -/
def Json.children : Json F → List (Json F)
  | .list items => items
  | .dict entries => entries.map Prod.snd
  | _ => []

private theorem itemNodes_eq (items : List (Json F)) :
    Json.itemNodes items = (items.map Json.nodes).sum := by
  induction items with
  | nil => rw [Json.itemNodes, List.map_nil, List.sum_nil]
  | cons item items ih => rw [Json.itemNodes, List.map_cons, List.sum_cons, ih]

private theorem memberNodes_eq (entries : List (String × Json F)) :
    Json.memberNodes entries = ((entries.map Prod.snd).map Json.nodes).sum := by
  induction entries with
  | nil => rw [Json.memberNodes, List.map_nil, List.map_nil, List.sum_nil]
  | cons entry entries ih =>
    rw [Json.memberNodes, List.map_cons, List.map_cons, List.sum_cons, ih]

/-- A value is one value more than what is inside it. -/
theorem Json.nodes_eq (value : Json F) : value.nodes = 1 + (value.children.map Json.nodes).sum := by
  cases value with
  | list items => rw [Json.nodes, Json.children, itemNodes_eq]
  | dict entries => rw [Json.nodes, Json.children, memberNodes_eq]
  | _ => rfl

/-- The loop of `_validate_bounded_json` over the values that are still to be visited. -/
def walkJson (label : String) (stack : List (Json F × Nat)) (itemCount : Nat) :
    Except Raised Unit :=
  match stack with
  | [] => .ok ()
  | (current, depth) :: stack =>
    if 10 < depth then .error (.valueError (label ++ " is nested too deeply."))
    else if 10000 < itemCount + current.children.length then
      .error (.valueError (label ++ " contains too many values."))
    else
      walkJson label (current.children.reverse.map (fun item => (item, depth + 1)) ++ stack)
        (itemCount + current.children.length)
termination_by (stack.map fun entry => entry.1.nodes).sum
decreasing_by
  rw [List.map_append, List.sum_append, List.map_map, List.map_cons, List.sum_cons,
    Json.nodes_eq current]
  have hchildren : (current.children.reverse.map ((fun entry : Json F × Nat => entry.1.nodes) ∘
      fun item => (item, depth + 1))).sum = (current.children.map Json.nodes).sum :=
    ((List.reverse_perm current.children).map Json.nodes).sum_nat
  omega

variable [Scalar F]

/-! ## Writing -/

/-- One code point of a JSON string that may hold any character. -/
def escapeControl (c : Char) : Text :=
  if c = '"' then ['\\', '"']
  else if c = '\\' then ['\\', '\\']
  else if c = '\n' then ['\\', 'n']
  else if c = '\r' then ['\\', 'r']
  else if c = '\t' then ['\\', 't']
  else if c.toNat = 12 then ['\\', 'f']
  else if c.toNat = 8 then ['\\', 'b']
  else if c.toNat < 32 then hexEscape c.toNat
  else [c]

/-- `json.dumps(s, ensure_ascii=False)`. -/
def dumpsString (s : Text) : Text := '"' :: (s.flatMap escapeControl ++ ['"'])

/-- `str(n)`. -/
def intText (n : Int) : Text :=
  if n < 0 then '-' :: Nat.toDigits 10 n.natAbs else Nat.toDigits 10 n.natAbs

/-- `sys.get_int_max_str_digits()`: `str` raises on integers with more digits. -/
def intMaxStrDigits : Nat := 4300

/-- `",".join(parts)`. -/
def commaJoin (parts : List Text) : Text := (parts.intersperse [',']).flatten

mutual

/-- The encoding of a value without spaces; a float that is not finite and an integer that is too
long have none. -/
def dumpsJson (reprFloat : F → Text) : Json F → Option Text
  | .null => some "null".toList
  | .bool true => some "true".toList
  | .bool false => some "false".toList
  | .int n =>
    if (Nat.toDigits 10 n.natAbs).length ≤ intMaxStrDigits then some (intText n) else none
  | .float x => if Scalar.isFinite x then some (reprFloat x) else none
  | .str s => some (dumpsString s)
  | .list items => (dumpsItems reprFloat items).map fun parts => '[' :: (commaJoin parts ++ [']'])
  | .dict entries =>
    (dumpsMembers reprFloat entries).map fun parts => '{' :: (commaJoin parts ++ ['}'])

/-- The items of a list. -/
def dumpsItems (reprFloat : F → Text) : List (Json F) → Option (List Text)
  | [] => some []
  | item :: items =>
    (dumpsJson reprFloat item).bind fun part =>
      (dumpsItems reprFloat items).map fun parts => part :: parts

/-- The members of an object. -/
def dumpsMembers (reprFloat : F → Text) : List (String × Json F) → Option (List Text)
  | [] => some []
  | (key, value) :: entries =>
    (dumpsJson reprFloat value).bind fun part =>
      (dumpsMembers reprFloat entries).map fun parts =>
        (dumpsString key.toList ++ ':' :: part) :: parts

end

/-- A list can be written when its items can. -/
theorem isSome_dumpsItems_iff {reprFloat : F → Text} {items : List (Json F)} :
    (dumpsItems reprFloat items).isSome ↔ ∀ item ∈ items, (dumpsJson reprFloat item).isSome := by
  induction items with
  | nil => simp [dumpsItems]
  | cons item items ih =>
    rw [dumpsItems, List.forall_mem_cons, ← ih]
    cases dumpsJson reprFloat item with
    | none => simp
    | some part => simp

/-- An object can be written when its values can. -/
theorem isSome_dumpsMembers_iff {reprFloat : F → Text} {entries : List (String × Json F)} :
    (dumpsMembers reprFloat entries).isSome ↔
      ∀ entry ∈ entries, (dumpsJson reprFloat entry.2).isSome := by
  induction entries with
  | nil => simp [dumpsMembers]
  | cons entry entries ih =>
    obtain ⟨key, value⟩ := entry
    rw [dumpsMembers, List.forall_mem_cons, ← ih]
    cases dumpsJson reprFloat value with
    | none => simp
    | some part => simp

theorem isSome_dumpsJson_list {reprFloat : F → Text} {items : List (Json F)} :
    (dumpsJson reprFloat (.list items)).isSome ↔
      ∀ item ∈ items, (dumpsJson reprFloat item).isSome := by
  rw [dumpsJson, Option.isSome_map, isSome_dumpsItems_iff]

theorem isSome_dumpsJson_dict {reprFloat : F → Text} {entries : List (String × Json F)} :
    (dumpsJson reprFloat (.dict entries)).isSome ↔
      ∀ entry ∈ entries, (dumpsJson reprFloat entry.2).isSome := by
  rw [dumpsJson, Option.isSome_map, isSome_dumpsMembers_iff]

/-- What `json.dumps` takes from the interpreter. -/
structure JsonEncoder (F : Type) where
  /-- `float.__repr__`. -/
  reprFloat : F → Text
  /-- How many containers it can enter inside each other. -/
  maxNesting : Nat
  ten_lt : 10 < maxNesting

/-- What `json.dumps` raises for an integer that is too long. -/
def intTooLong : Raised :=
  .valueError "Exceeds the limit (4300 digits) for integer string conversion"

/-- What `json.dumps` raises for a float that is not finite. -/
def floatOutOfRange : Raised := .valueError "Out of range float values are not JSON compliant"

mutual

/-- `json.dumps` without spaces, when `room` more containers can be entered inside each other. -/
def encodeJson (reprFloat : F → Text) (room : Nat) : Json F → Except Raised Text
  | .null => .ok "null".toList
  | .bool true => .ok "true".toList
  | .bool false => .ok "false".toList
  | .int n =>
    if (Nat.toDigits 10 n.natAbs).length ≤ intMaxStrDigits then .ok (intText n)
    else .error intTooLong
  | .float x => if Scalar.isFinite x then .ok (reprFloat x) else .error floatOutOfRange
  | .str s => .ok (dumpsString s)
  | .list items =>
    match room with
    | 0 => .error .recursionError
    | room + 1 =>
      (encodeItems reprFloat room items).map fun parts => '[' :: (commaJoin parts ++ [']'])
  | .dict entries =>
    match room with
    | 0 => .error .recursionError
    | room + 1 =>
      (encodeMembers reprFloat room entries).map fun parts => '{' :: (commaJoin parts ++ ['}'])

/-- The items of a list. -/
def encodeItems (reprFloat : F → Text) (room : Nat) : List (Json F) → Except Raised (List Text)
  | [] => .ok []
  | item :: items =>
    (encodeJson reprFloat room item).bind fun part =>
      (encodeItems reprFloat room items).map fun parts => part :: parts

/-- The members of an object. -/
def encodeMembers (reprFloat : F → Text) (room : Nat) :
    List (String × Json F) → Except Raised (List Text)
  | [] => .ok []
  | (key, value) :: entries =>
    (encodeJson reprFloat room value).bind fun part =>
      (encodeMembers reprFloat room entries).map fun parts =>
        (dumpsString key.toList ++ ':' :: part) :: parts

end

/-- `_validate_bounded_json`; a `RecursionError` of `json.dumps` is not caught. -/
def validateBoundedJson (encoder : JsonEncoder F) (value : Option (Json F)) (maxBytes : Nat)
    (label : String) : Except Raised Unit :=
  match value with
  | none => .ok ()
  | some value =>
    match encodeJson encoder.reprFloat encoder.maxNesting value with
    | .error (.valueError _) =>
      .error (.valueError (label ++ " must contain valid finite JSON values."))
    | .error raised => .error raised
    | .ok encoded =>
      if maxBytes < (encodeUtf8 encoded).length then
        .error (.valueError (label ++ " exceeds the " ++ toString maxBytes ++ "-byte limit."))
      else walkJson label [(value, 0)] 0

/-! ## How long a value is -/

mutual

/-- A bound on the encoded length of a value, where a float takes at most `floatBytes`. -/
def jsonBound (floatBytes : Nat) : Json F → Nat
  | .null => 4
  | .bool _ => 5
  | .int n => (intText n).length
  | .float _ => floatBytes
  | .str s => 2 + 6 * s.length
  | .list items => 2 + itemsBound floatBytes items
  | .dict entries => 2 + membersBound floatBytes entries

/-- A bound on the encoded length of the items of a list. -/
def itemsBound (floatBytes : Nat) : List (Json F) → Nat
  | [] => 0
  | item :: items => jsonBound floatBytes item + 1 + itemsBound floatBytes items

/-- A bound on the encoded length of the members of an object. -/
def membersBound (floatBytes : Nat) : List (String × Json F) → Nat
  | [] => 0
  | (key, value) :: entries =>
    4 + 6 * key.toList.length + jsonBound floatBytes value + membersBound floatBytes entries

end

@[simp] theorem encodeUtf8_nil : encodeUtf8 [] = [] := rfl

@[simp] theorem encodeUtf8_append (s t : Text) :
    encodeUtf8 (s ++ t) = encodeUtf8 s ++ encodeUtf8 t := List.flatMap_append

theorem length_encodeUtf8_cons (c : Char) (s : Text) :
    (encodeUtf8 (c :: s)).length = c.utf8Size + (encodeUtf8 s).length := by
  rw [encodeUtf8, List.flatMap_cons, List.length_append, String.length_utf8EncodeChar]
  rfl

/-- A text of code points below 128 is as long as its encoding. -/
theorem length_encodeUtf8_ascii {s : Text} (h : ∀ c ∈ s, c.toNat < 128) :
    (encodeUtf8 s).length = s.length := by
  induction s with
  | nil => rfl
  | cons c s ih =>
    have hc : c.utf8Size = 1 := by
      have hle : c.toNat ≤ 127 := Nat.le_of_lt_succ (h c List.mem_cons_self)
      rw [Char.utf8Size, if_pos]
      exact UInt32.le_iff_toNat_le.mpr hle
    rw [length_encodeUtf8_cons, hc, List.length_cons,
      ih fun d hd => h d (List.mem_cons_of_mem c hd)]
    omega

/-- An escaped code point takes at most six bytes. -/
theorem length_escapeControl_le (c : Char) : (encodeUtf8 (escapeControl c)).length ≤ 6 := by
  have hhex : ∀ n < 32, (encodeUtf8 (hexEscape n)).length ≤ 6 := by decide
  have hself : (encodeUtf8 [c]).length ≤ 6 := by
    have hsize := c.utf8Size_le_four
    rw [length_encodeUtf8_cons]
    change c.utf8Size + 0 ≤ 6
    omega
  unfold escapeControl
  split_ifs with _ _ _ _ _ _ _ hcontrol
  all_goals first | exact hhex _ hcontrol | exact hself | decide

theorem length_dumpsString_le (s : Text) :
    (encodeUtf8 (dumpsString s)).length ≤ 2 + 6 * s.length := by
  have hbody : (encodeUtf8 (s.flatMap escapeControl)).length ≤ 6 * s.length := by
    induction s with
    | nil => exact Nat.le_refl _
    | cons c s ih =>
      have hc := length_escapeControl_le c
      rw [List.flatMap_cons, encodeUtf8_append, List.length_append, List.length_cons]
      omega
  have hquote : (encodeUtf8 ['"']).length = 1 := by decide
  rw [dumpsString, length_encodeUtf8_cons, encodeUtf8_append, List.length_append, hquote]
  change 1 + _ ≤ _
  omega

theorem length_intText (n : Int) : (encodeUtf8 (intText n)).length = (intText n).length := by
  apply length_encodeUtf8_ascii
  have hdigits : ∀ c ∈ Nat.toDigits 10 n.natAbs, c.toNat < 128 := by
    intro c hc
    have hdigit := Nat.isDigit_of_mem_toDigits (by omega) (by omega) hc
    rw [Char.isDigit, Bool.and_eq_true, decide_eq_true_eq, decide_eq_true_eq] at hdigit
    have hle : c.toNat ≤ '9'.toNat := UInt32.le_iff_toNat_le.mp hdigit.2
    have hnine : '9'.toNat = 57 := rfl
    omega
  intro c hc
  rw [intText] at hc
  split at hc
  · rcases List.mem_cons.mp hc with rfl | hc
    · decide
    · exact hdigits c hc
  · exact hdigits c hc

/-- Joining the parts costs one byte for each of them. -/
theorem length_commaJoin_le (parts : List Text) :
    (encodeUtf8 (commaJoin parts)).length ≤
      (parts.map fun part => (encodeUtf8 part).length + 1).sum := by
  have hcomma : (encodeUtf8 [',']).length = 1 := by decide
  induction parts with
  | nil => exact Nat.le_refl _
  | cons part parts ih =>
    rw [List.map_cons, List.sum_cons]
    cases parts with
    | nil =>
      rw [commaJoin, List.intersperse_singleton, List.flatten_singleton]
      omega
    | cons next parts =>
      rw [commaJoin, List.intersperse_cons_cons, List.flatten_cons, List.flatten_cons,
        encodeUtf8_append, encodeUtf8_append, List.length_append, List.length_append, hcomma]
      rw [commaJoin] at ih
      omega

variable {reprFloat : F → Text} {floatBytes : Nat}

mutual

/-- A value that can be written is no longer than its bound. -/
theorem length_dumpsJson_le (hfloat : ∀ x, (encodeUtf8 (reprFloat x)).length ≤ floatBytes) :
    ∀ (value : Json F) (encoded : Text), dumpsJson reprFloat value = some encoded →
      (encodeUtf8 encoded).length ≤ jsonBound floatBytes value
  | .null, encoded, h => by
    rw [dumpsJson] at h
    rw [← Option.some.inj h, jsonBound]
    decide
  | .bool true, encoded, h => by
    rw [dumpsJson] at h
    rw [← Option.some.inj h, jsonBound]
    decide
  | .bool false, encoded, h => by
    rw [dumpsJson] at h
    rw [← Option.some.inj h, jsonBound]
    decide
  | .int n, encoded, h => by
    rw [dumpsJson] at h
    split at h
    · rw [← Option.some.inj h, jsonBound, length_intText]
    · cases h
  | .float x, encoded, h => by
    rw [dumpsJson] at h
    split at h
    · rw [← Option.some.inj h, jsonBound]
      exact hfloat x
    · cases h
  | .str s, encoded, h => by
    rw [dumpsJson] at h
    rw [← Option.some.inj h, jsonBound]
    exact length_dumpsString_le s
  | .list items, encoded, h => by
    rw [dumpsJson] at h
    obtain ⟨parts, hparts, rfl⟩ := Option.map_eq_some_iff.mp h
    have hitems := sum_dumpsItems_le hfloat items parts hparts
    have hjoin := length_commaJoin_le parts
    have hclose : (encodeUtf8 [']']).length = 1 := by decide
    have hopen : ('['.utf8Size) = 1 := by decide
    rw [length_encodeUtf8_cons, encodeUtf8_append, List.length_append, hclose, hopen, jsonBound]
    omega
  | .dict entries, encoded, h => by
    rw [dumpsJson] at h
    obtain ⟨parts, hparts, rfl⟩ := Option.map_eq_some_iff.mp h
    have hmembers := sum_dumpsMembers_le hfloat entries parts hparts
    have hjoin := length_commaJoin_le parts
    have hclose : (encodeUtf8 ['}']).length = 1 := by decide
    have hopen : ('{'.utf8Size) = 1 := by decide
    rw [length_encodeUtf8_cons, encodeUtf8_append, List.length_append, hclose, hopen, jsonBound]
    omega

theorem sum_dumpsItems_le (hfloat : ∀ x, (encodeUtf8 (reprFloat x)).length ≤ floatBytes) :
    ∀ (items : List (Json F)) (parts : List Text), dumpsItems reprFloat items = some parts →
      (parts.map fun part => (encodeUtf8 part).length + 1).sum ≤ itemsBound floatBytes items
  | [], parts, h => by
    rw [dumpsItems] at h
    rw [← Option.some.inj h]
    exact Nat.zero_le _
  | item :: items, parts, h => by
    rw [dumpsItems] at h
    obtain ⟨part, hpart, htail⟩ := Option.bind_eq_some_iff.mp h
    obtain ⟨rest, hrest, rfl⟩ := Option.map_eq_some_iff.mp htail
    have hfirst := length_dumpsJson_le hfloat item part hpart
    have hothers := sum_dumpsItems_le hfloat items rest hrest
    rw [List.map_cons, List.sum_cons, itemsBound]
    omega

theorem sum_dumpsMembers_le (hfloat : ∀ x, (encodeUtf8 (reprFloat x)).length ≤ floatBytes) :
    ∀ (entries : List (String × Json F)) (parts : List Text),
      dumpsMembers reprFloat entries = some parts →
      (parts.map fun part => (encodeUtf8 part).length + 1).sum ≤ membersBound floatBytes entries
  | [], parts, h => by
    rw [dumpsMembers] at h
    rw [← Option.some.inj h]
    exact Nat.zero_le _
  | (key, value) :: entries, parts, h => by
    rw [dumpsMembers] at h
    obtain ⟨part, hpart, htail⟩ := Option.bind_eq_some_iff.mp h
    obtain ⟨rest, hrest, rfl⟩ := Option.map_eq_some_iff.mp htail
    have hvalue := length_dumpsJson_le hfloat value part hpart
    have hothers := sum_dumpsMembers_le hfloat entries rest hrest
    have hkey := length_dumpsString_le key.toList
    have hcolon : (':'.utf8Size) = 1 := by decide
    rw [List.map_cons, List.sum_cons, membersBound, encodeUtf8_append, List.length_append,
      length_encodeUtf8_cons, hcolon]
    omega

end

end RaceFrame
