import RaceFrame.Schema.Rational
import RaceFrame.Text.BoundedJson

/-!
# The meaning of the JSON bounds

The depth of a value, the number of elements in it and whether its numbers are
finite, by recursion on the value. The stack of `_validate_bounded_json` computes
the first two: it accepts the values that can be written in few enough bytes and
are neither too deep nor too large.
-/

namespace RaceFrame

open Core

variable {F : Type}

/-! ## Depth and size -/

mutual

/-- The level of the deepest value in a value, which is itself at level zero. -/
def Json.depth : Json F → Nat
  | .list items => Json.itemsDepth items
  | .dict entries => Json.membersDepth entries
  | _ => 0

/-- The level of the deepest value in the items of a list. -/
def Json.itemsDepth : List (Json F) → Nat
  | [] => 0
  | item :: items => max (item.depth + 1) (Json.itemsDepth items)

/-- The level of the deepest value in the members of an object. -/
def Json.membersDepth : List (String × Json F) → Nat
  | [] => 0
  | (_, value) :: entries => max (value.depth + 1) (Json.membersDepth entries)

end

mutual

/-- The number of elements in all lists and objects of a value. -/
def Json.elements : Json F → Nat
  | .list items => items.length + Json.itemsElements items
  | .dict entries => entries.length + Json.membersElements entries
  | _ => 0

/-- The number of elements in the items of a list. -/
def Json.itemsElements : List (Json F) → Nat
  | [] => 0
  | item :: items => item.elements + Json.itemsElements items

/-- The number of elements in the members of an object. -/
def Json.membersElements : List (String × Json F) → Nat
  | [] => 0
  | (_, value) :: entries => value.elements + Json.membersElements entries

end

private theorem itemsDepth_le_iff {items : List (Json F)} {n : Nat} :
    Json.itemsDepth items ≤ n ↔ ∀ item ∈ items, item.depth + 1 ≤ n := by
  induction items with
  | nil => simp [Json.itemsDepth]
  | cons item items ih => rw [Json.itemsDepth, Nat.max_le, ih, List.forall_mem_cons]

private theorem membersDepth_le_iff {entries : List (String × Json F)} {n : Nat} :
    Json.membersDepth entries ≤ n ↔ ∀ entry ∈ entries, entry.2.depth + 1 ≤ n := by
  induction entries with
  | nil => simp [Json.membersDepth]
  | cons entry entries ih => rw [Json.membersDepth, Nat.max_le, ih, List.forall_mem_cons]

/-- What is directly inside a value is one level less deep. -/
theorem Json.depth_le_iff {value : Json F} {n : Nat} :
    value.depth ≤ n ↔ ∀ child ∈ value.children, child.depth + 1 ≤ n := by
  cases value with
  | list items => rw [Json.depth, Json.children, itemsDepth_le_iff]
  | dict entries => rw [Json.depth, Json.children, membersDepth_le_iff, List.forall_mem_map]
  | _ => simp [Json.depth, Json.children]

private theorem itemsElements_eq (items : List (Json F)) :
    Json.itemsElements items = (items.map Json.elements).sum := by
  induction items with
  | nil => rw [Json.itemsElements, List.map_nil, List.sum_nil]
  | cons item items ih => rw [Json.itemsElements, List.map_cons, List.sum_cons, ih]

private theorem membersElements_eq (entries : List (String × Json F)) :
    Json.membersElements entries = ((entries.map Prod.snd).map Json.elements).sum := by
  induction entries with
  | nil => rw [Json.membersElements, List.map_nil, List.map_nil, List.sum_nil]
  | cons entry entries ih =>
    rw [Json.membersElements, List.map_cons, List.map_cons, List.sum_cons, ih]

/-- The elements of a value are those directly inside it and those inside these. -/
theorem Json.elements_eq (value : Json F) :
    value.elements = value.children.length + (value.children.map Json.elements).sum := by
  cases value with
  | list items => rw [Json.elements, Json.children, itemsElements_eq]
  | dict entries => rw [Json.elements, Json.children, membersElements_eq, List.length_map]
  | _ => rfl

/-- The loop comes to its end when no value on the stack is too deep and all of them together are
not too large. -/
theorem walkJson_eq_ok_iff (label : String) {stack : List (Json F × Nat)} {itemCount : Nat}
    (h : itemCount ≤ 10000) :
    walkJson label stack itemCount = .ok () ↔
      (∀ entry ∈ stack, entry.2 + entry.1.depth ≤ 10) ∧
        itemCount + (stack.map fun entry => entry.1.elements).sum ≤ 10000 := by
  induction stack, itemCount using walkJson.induct with
  | case1 itemCount =>
    rw [walkJson]
    simpa using h
  | case2 itemCount current depth stack hdepth =>
    rw [walkJson, if_pos hdepth]
    refine iff_of_false (by rintro ⟨⟩) fun hall => ?_
    have hcurrent := hall.1 _ List.mem_cons_self
    dsimp only at hcurrent
    omega
  | case3 itemCount current depth stack hdepth hcount =>
    rw [walkJson, if_neg hdepth, if_pos hcount]
    refine iff_of_false (by rintro ⟨⟩) fun hall => ?_
    have hsum := hall.2
    rw [List.map_cons, List.sum_cons, current.elements_eq] at hsum
    omega
  | case4 itemCount current depth stack hdepth hcount ih =>
    have hchildren : (current.children.reverse.map ((fun entry : Json F × Nat =>
        entry.1.elements) ∘ fun item => (item, depth + 1))).sum =
          (current.children.map Json.elements).sum :=
      ((List.reverse_perm current.children).map Json.elements).sum_nat
    have hlevels : depth + current.depth ≤ 10 ↔
        ∀ child ∈ current.children, depth + 1 + child.depth ≤ 10 := by
      rw [← Nat.le_sub_iff_add_le' (by omega), Json.depth_le_iff]
      refine forall₂_congr fun child _ => ?_
      omega
    rw [walkJson, if_neg hdepth, if_neg hcount, ih (by omega), List.forall_mem_append,
      List.forall_mem_map, List.forall_mem_cons, hlevels, List.map_append, List.sum_append,
      List.map_map, hchildren, List.map_cons, List.sum_cons, current.elements_eq]
    simp only [List.mem_reverse]
    refine and_congr_right fun _ => ?_
    omega

/-- The loop raises `ValueError` only. -/
theorem walkJson_error (label : String) {stack : List (Json F × Nat)} {itemCount : Nat}
    {e : Raised} (h : walkJson label stack itemCount = .error e) :
    ∃ message, e = .valueError message := by
  induction stack, itemCount using walkJson.induct with
  | case1 itemCount =>
    rw [walkJson] at h
    cases h
  | case2 itemCount current depth stack hdepth =>
    rw [walkJson, if_pos hdepth] at h
    exact ⟨_, (Except.error.inj h).symm⟩
  | case3 itemCount current depth stack hdepth hcount =>
    rw [walkJson, if_neg hdepth, if_pos hcount] at h
    exact ⟨_, (Except.error.inj h).symm⟩
  | case4 itemCount current depth stack hdepth hcount ih =>
    rw [walkJson, if_neg hdepth, if_neg hcount] at h
    exact ih h

/-- The loop over a value comes to its end when the value is neither too deep nor too large. -/
theorem walkJson_value_eq_ok_iff (label : String) (value : Json F) :
    walkJson label [(value, 0)] 0 = .ok () ↔ value.depth ≤ 10 ∧ value.elements ≤ 10000 := by
  rw [walkJson_eq_ok_iff label (Nat.zero_le 10000)]
  simp only [List.mem_singleton, forall_eq, Nat.zero_add, List.map_cons, List.map_nil,
    List.sum_cons, List.sum_nil, Nat.add_zero]

/-! ## What can be written -/

section

variable [Scalar F]

mutual

/-- Every float in a value is finite. -/
def Json.allFinite : Json F → Bool
  | .float x => Scalar.isFinite x
  | .list items => Json.itemsFinite items
  | .dict entries => Json.membersFinite entries
  | _ => true

/-- Every float in the items of a list is finite. -/
def Json.itemsFinite : List (Json F) → Bool
  | [] => true
  | item :: items => item.allFinite && Json.itemsFinite items

/-- Every float in the members of an object is finite. -/
def Json.membersFinite : List (String × Json F) → Bool
  | [] => true
  | (_, value) :: entries => value.allFinite && Json.membersFinite entries

end

mutual

/-- `json.dumps` gives the encoding. It raises `RecursionError` for a deep value only, and
`ValueError` for a value without an encoding. -/
theorem encodeJson_spec (reprFloat : F → Text) :
    ∀ (room : Nat) (value : Json F),
      (∀ encoded, encodeJson reprFloat room value = .ok encoded →
        dumpsJson reprFloat value = some encoded) ∧
      ∀ raised, encodeJson reprFloat room value = .error raised →
        raised = .recursionError ∧ room ≤ value.depth ∨
          dumpsJson reprFloat value = none ∧ ∃ message, raised = .valueError message
  | _, .null | _, .bool true | _, .bool false | _, .str _ => by
    simp [encodeJson, dumpsJson]
  | _, .int n => by
    rw [encodeJson, dumpsJson]
    split_ifs
    · simp
    · simp [intTooLong]
  | _, .float x => by
    rw [encodeJson, dumpsJson]
    split_ifs
    · simp
    · simp [floatOutOfRange]
  | 0, .list _ | 0, .dict _ => by simp [encodeJson]
  | room + 1, .list items => by
    obtain ⟨hok, herror⟩ := encodeItems_spec reprFloat room items
    rw [encodeJson, dumpsJson, Json.depth]
    cases hitems : encodeItems reprFloat room items with
    | ok parts => simp [Except.map, hok parts hitems]
    | error raised =>
      rcases herror raised hitems with ⟨rfl, hdeep⟩ | ⟨hnone, message, rfl⟩
      · simp [Except.map, hdeep]
      · simp [Except.map, hnone]
  | room + 1, .dict entries => by
    obtain ⟨hok, herror⟩ := encodeMembers_spec reprFloat room entries
    rw [encodeJson, dumpsJson, Json.depth]
    cases hmembers : encodeMembers reprFloat room entries with
    | ok parts => simp [Except.map, hok parts hmembers]
    | error raised =>
      rcases herror raised hmembers with ⟨rfl, hdeep⟩ | ⟨hnone, message, rfl⟩
      · simp [Except.map, hdeep]
      · simp [Except.map, hnone]

theorem encodeItems_spec (reprFloat : F → Text) :
    ∀ (room : Nat) (items : List (Json F)),
      (∀ parts, encodeItems reprFloat room items = .ok parts →
        dumpsItems reprFloat items = some parts) ∧
      ∀ raised, encodeItems reprFloat room items = .error raised →
        raised = .recursionError ∧ room + 1 ≤ Json.itemsDepth items ∨
          dumpsItems reprFloat items = none ∧ ∃ message, raised = .valueError message
  | _, [] => by simp [encodeItems, dumpsItems]
  | room, item :: items => by
    obtain ⟨hok, herror⟩ := encodeJson_spec reprFloat room item
    obtain ⟨hoks, herrors⟩ := encodeItems_spec reprFloat room items
    rw [encodeItems, dumpsItems, Json.itemsDepth]
    cases hitem : encodeJson reprFloat room item with
    | error raised =>
      rcases herror raised hitem with ⟨rfl, hdeep⟩ | ⟨hnone, message, rfl⟩
      · simp [Except.bind, hdeep]
      · simp [Except.bind, hnone]
    | ok part =>
      rw [hok part hitem]
      cases hitems : encodeItems reprFloat room items with
      | ok parts => simp [Except.bind, Except.map, hoks parts hitems]
      | error raised =>
        rcases herrors raised hitems with ⟨rfl, hdeep⟩ | ⟨hnone, message, rfl⟩
        · simp [Except.bind, Except.map, hdeep]
        · simp [Except.bind, Except.map, hnone]

theorem encodeMembers_spec (reprFloat : F → Text) :
    ∀ (room : Nat) (entries : List (String × Json F)),
      (∀ parts, encodeMembers reprFloat room entries = .ok parts →
        dumpsMembers reprFloat entries = some parts) ∧
      ∀ raised, encodeMembers reprFloat room entries = .error raised →
        raised = .recursionError ∧ room + 1 ≤ Json.membersDepth entries ∨
          dumpsMembers reprFloat entries = none ∧ ∃ message, raised = .valueError message
  | _, [] => by simp [encodeMembers, dumpsMembers]
  | room, (key, value) :: entries => by
    obtain ⟨hok, herror⟩ := encodeJson_spec reprFloat room value
    obtain ⟨hoks, herrors⟩ := encodeMembers_spec reprFloat room entries
    rw [encodeMembers, dumpsMembers, Json.membersDepth]
    cases hvalue : encodeJson reprFloat room value with
    | error raised =>
      rcases herror raised hvalue with ⟨rfl, hdeep⟩ | ⟨hnone, message, rfl⟩
      · simp [Except.bind, hdeep]
      · simp [Except.bind, hnone]
    | ok part =>
      rw [hok part hvalue]
      cases hmembers : encodeMembers reprFloat room entries with
      | ok parts => simp [Except.bind, Except.map, hoks parts hmembers]
      | error raised =>
        rcases herrors raised hmembers with ⟨rfl, hdeep⟩ | ⟨hnone, message, rfl⟩
        · simp [Except.bind, Except.map, hdeep]
        · simp [Except.bind, Except.map, hnone]

end

mutual

/-- A value that can be written has finite numbers only. -/
theorem allFinite_of_dumpsJson {reprFloat : F → Text} :
    ∀ value : Json F, (dumpsJson reprFloat value).isSome → value.allFinite = true
  | .null, _ | .bool _, _ | .int _, _ | .str _, _ => rfl
  | .float x, h => by
    rw [dumpsJson] at h
    rw [Json.allFinite]
    split at h
    next hfinite => exact hfinite
    · cases h
  | .list items, h => by
    rw [dumpsJson, Option.isSome_map] at h
    rw [Json.allFinite]
    exact itemsFinite_of_dumpsItems items h
  | .dict entries, h => by
    rw [dumpsJson, Option.isSome_map] at h
    rw [Json.allFinite]
    exact membersFinite_of_dumpsMembers entries h

theorem itemsFinite_of_dumpsItems {reprFloat : F → Text} :
    ∀ items : List (Json F), (dumpsItems reprFloat items).isSome → Json.itemsFinite items = true
  | [], _ => rfl
  | item :: items, h => by
    rw [isSome_dumpsItems_iff, List.forall_mem_cons, ← isSome_dumpsItems_iff] at h
    rw [Json.itemsFinite, allFinite_of_dumpsJson item h.1, itemsFinite_of_dumpsItems items h.2]
    rfl

theorem membersFinite_of_dumpsMembers {reprFloat : F → Text} :
    ∀ entries : List (String × Json F), (dumpsMembers reprFloat entries).isSome →
      Json.membersFinite entries = true
  | [], _ => rfl
  | (key, value) :: entries, h => by
    rw [isSome_dumpsMembers_iff, List.forall_mem_cons, ← isSome_dumpsMembers_iff] at h
    rw [Json.membersFinite, allFinite_of_dumpsJson value h.1,
      membersFinite_of_dumpsMembers entries h.2]
    rfl

end

/-! ## The check -/

/-- `_validate_bounded_json`, with the value that it returns. -/
def boundedJson (encoder : JsonEncoder F) (value : Json F) (maxBytes : Nat) (label : String) :
    Except Raised (Json F) :=
  match value with
  | .null => .ok .null
  | value => (validateBoundedJson encoder (some value) maxBytes label).map fun _ => value

/-- What the check accepts, by recursion on the value. -/
structure WithinBounds (reprFloat : F → Text) (maxBytes : Nat) (value : Json F) : Prop where
  bytes : ∃ encoded, dumpsJson reprFloat value = some encoded ∧
    (encodeUtf8 encoded).length ≤ maxBytes
  finite : value.allFinite = true
  depth : value.depth ≤ 10
  elements : value.elements ≤ 10000

theorem boundedJson_eq {encoder : JsonEncoder F} {value : Json F} (h : value ≠ .null)
    (maxBytes : Nat) (label : String) :
    boundedJson encoder value maxBytes label =
      (validateBoundedJson encoder (some value) maxBytes label).map fun _ => value := by
  cases value with
  | null => exact absurd rfl h
  | _ => rfl

/-- The check passes a value within the bounds. -/
theorem validateBoundedJson_eq_ok_iff (encoder : JsonEncoder F) (value : Json F) (maxBytes : Nat)
    (label : String) :
    validateBoundedJson encoder (some value) maxBytes label = .ok () ↔
      WithinBounds encoder.reprFloat maxBytes value := by
  have hten := encoder.ten_lt
  obtain ⟨hok, herror⟩ := encodeJson_spec encoder.reprFloat encoder.maxNesting value
  cases hencode : encodeJson encoder.reprFloat encoder.maxNesting value with
  | error raised =>
    simp only [validateBoundedJson, hencode]
    rcases herror raised hencode with ⟨rfl, hdeep⟩ | ⟨hnone, message, rfl⟩
    · refine iff_of_false (by rintro ⟨⟩) fun hbounds => ?_
      exact absurd hbounds.depth (by omega)
    · refine iff_of_false (by rintro ⟨⟩) fun hbounds => ?_
      obtain ⟨encoded, hencoded, -⟩ := hbounds.bytes
      rw [hnone] at hencoded
      cases hencoded
  | ok encoded =>
    have hdumps := hok encoded hencode
    have hfinite := allFinite_of_dumpsJson value (by rw [hdumps, Option.isSome_some])
    simp only [validateBoundedJson, hencode]
    by_cases hbytes : maxBytes < (encodeUtf8 encoded).length
    · rw [if_pos hbytes]
      refine iff_of_false (by rintro ⟨⟩) fun hbounds => ?_
      obtain ⟨other, hother, hlength⟩ := hbounds.bytes
      rw [hdumps] at hother
      rw [Option.some.inj hother] at hbytes
      omega
    · rw [if_neg hbytes, walkJson_value_eq_ok_iff]
      constructor
      · rintro ⟨hdepth, helements⟩
        exact ⟨⟨encoded, hdumps, not_lt.mp hbytes⟩, hfinite, hdepth, helements⟩
      · exact fun hbounds => ⟨hbounds.depth, hbounds.elements⟩

/-- The check raises `ValueError`, or `RecursionError` for a value that `json.dumps` cannot
enter. -/
theorem validateBoundedJson_error {encoder : JsonEncoder F} {value : Json F} {maxBytes : Nat}
    {label : String} {raised : Raised}
    (h : validateBoundedJson encoder (some value) maxBytes label = .error raised) :
    (∃ message, raised = .valueError message) ∨
      raised = .recursionError ∧ encoder.maxNesting ≤ value.depth := by
  obtain ⟨-, herror⟩ := encodeJson_spec encoder.reprFloat encoder.maxNesting value
  simp only [validateBoundedJson] at h
  cases hencode : encodeJson encoder.reprFloat encoder.maxNesting value with
  | error first =>
    rw [hencode] at h
    rcases herror first hencode with ⟨rfl, hdeep⟩ | ⟨-, message, rfl⟩
    · exact Or.inr ⟨(Except.error.inj h).symm, hdeep⟩
    · exact Or.inl ⟨_, (Except.error.inj h).symm⟩
  | ok encoded =>
    rw [hencode] at h
    dsimp only at h
    split at h
    · exact Or.inl ⟨_, (Except.error.inj h).symm⟩
    · exact Or.inl (walkJson_error label h)

/-- The check returns the values within the bounds unchanged. It raises `ValueError` for the
others, or `RecursionError` when `json.dumps` cannot enter them. -/
theorem boundedJson_iff (encoder : JsonEncoder F) {value : Json F} (h : value ≠ .null)
    (maxBytes : Nat) (label : String) :
    (boundedJson encoder value maxBytes label = .ok value ↔
      WithinBounds encoder.reprFloat maxBytes value) ∧
      (boundedJson encoder value maxBytes label = .ok value ∨
        (∃ message, boundedJson encoder value maxBytes label = .error (.valueError message)) ∨
        boundedJson encoder value maxBytes label = .error .recursionError ∧
          encoder.maxNesting ≤ value.depth) := by
  rw [boundedJson_eq h, ← validateBoundedJson_eq_ok_iff encoder value maxBytes label]
  cases hcheck : validateBoundedJson encoder (some value) maxBytes label with
  | ok passed => exact ⟨iff_of_true rfl rfl, Or.inl rfl⟩
  | error raised =>
    refine ⟨iff_of_false (by rintro ⟨⟩) (by rintro ⟨⟩), Or.inr ?_⟩
    rcases validateBoundedJson_error hcheck with ⟨message, rfl⟩ | ⟨rfl, hdeep⟩
    · exact Or.inl ⟨message, rfl⟩
    · exact Or.inr ⟨rfl, hdeep⟩

end

/-! ## A deep box -/

/-- A number inside lists. -/
def nestedLists : Nat → Json ℚ
  | 0 => .int 12
  | levels + 1 => .list [nestedLists levels]

/-- A box with a number, a float and lists. -/
def deepBox (levels : Nat) : Json ℚ :=
  .dict [("left", .int 3), ("score", .float 0), ("levels", nestedLists levels)]

/-- A list of too many numbers. -/
def crowdedList : Json ℚ := .list (List.replicate 10001 (.int 0))

/-- An interpreter that writes every float like zero. -/
def zeroEncoder (maxNesting : Nat) (h : 10 < maxNesting) : JsonEncoder F :=
  ⟨fun _ => "0.0".toList, maxNesting, h⟩

theorem length_reprFloat_zeroEncoder {maxNesting : Nat} (h : 10 < maxNesting) (x : F) :
    (encodeUtf8 ((zeroEncoder maxNesting h).reprFloat x)).length ≤ 32 := by
  change (encodeUtf8 "0.0".toList).length ≤ 32
  decide

example : boundedJson (zeroEncoder 11 (by decide)) (nestedLists 12) 100 "Bounding box" =
    .error .recursionError := rfl

/-- A box whose number is at level ten passes in 52 bytes, not in 51 bytes and not with another
list around its number; and 10,001 elements are too many. -/
theorem deepBox_bounded :
    let encoder : JsonEncoder ℚ := zeroEncoder 1000 (by decide)
    boundedJson encoder (deepBox 9) 52 "Bounding box" = .ok (deepBox 9) ∧
      boundedJson encoder (deepBox 9) 51 "Bounding box" ≠ .ok (deepBox 9) ∧
      boundedJson encoder (deepBox 10) 100 "Bounding box" ≠ .ok (deepBox 10) ∧
      boundedJson encoder crowdedList 100000 "Raw response" ≠ .ok crowdedList := by
  intro encoder
  have hne : ∀ levels, deepBox levels ≠ .null := fun levels => by rintro ⟨⟩
  have hcrowd : crowdedList ≠ .null := by rintro ⟨⟩
  refine ⟨(boundedJson_iff encoder (hne 9) 52 "Bounding box").1.mpr ?_,
    mt (boundedJson_iff encoder (hne 9) 51 "Bounding box").1.mp fun hbounds => ?_,
    mt (boundedJson_iff encoder (hne 10) 100 "Bounding box").1.mp fun hbounds => ?_,
    mt (boundedJson_iff encoder hcrowd 100000 "Raw response").1.mp fun hbounds => ?_⟩
  · exact ⟨⟨_, rfl, by decide +kernel⟩, rfl, by decide, by decide⟩
  · obtain ⟨encoded, hencoded, hlength⟩ := hbounds.bytes
    have hlong : ∀ encoded ∈ dumpsJson encoder.reprFloat (deepBox 9),
        51 < (encodeUtf8 encoded).length := by
      decide +kernel
    exact absurd hlength (Nat.not_le.mpr (hlong encoded hencoded))
  · exact absurd hbounds.depth (by decide)
  · have helements := hbounds.elements
    rw [Json.elements_eq] at helements
    have hlength : crowdedList.children.length = 10001 := List.length_replicate
    omega

end RaceFrame
