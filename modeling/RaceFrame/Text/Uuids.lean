import RaceFrame.Core.Bytes
import RaceFrame.Text.JsonText
import RaceFrame.Worker.Api

/-!
# Identifiers and digests as texts

`str(uuid)` and `uuid.UUID(text)`, and `hexdigest`. An identifier is read back
from its text, two digests with the same text are the same, and both texts are
plain: they consist of lower-case hexadecimal digits and dashes.
-/

namespace RaceFrame

open Core

/-- `uuid.UUID(text)` for the dashed and the plain form: 32 hexadecimal digits. -/
def parseUuid (text : Text) : Option Uuid :=
  let hex := text.filter (· != '-')
  if hex.length = 32 then hexNumber hex else none

/-- `digest.hex()`. -/
def hexdigest (digest : Bytes) : Text :=
  digest.flatMap fun b => [Nat.digitChar (b.toNat / 16), Nat.digitChar (b.toNat % 16)]

private theorem digitChar_props : ∀ k < 16, hexValue (Nat.digitChar k) = some k ∧
    Nat.digitChar k ≠ '-' ∧ 32 ≤ (Nat.digitChar k).toNat ∧ (Nat.digitChar k).toNat ≤ 126 ∧
    Nat.digitChar k ≠ '"' ∧ Nat.digitChar k ≠ '\\' := by
  decide

private theorem digitChar_injective {j k : Nat} (hj : j < 16) (hk : k < 16)
    (h : Nat.digitChar j = Nat.digitChar k) : j = k := by
  have hvalue := (digitChar_props j hj).1
  rw [h, (digitChar_props k hk).1] at hvalue
  exact (Option.some.inj hvalue).symm

private theorem exists_digitChar_of_mem_toDigits {n : Nat} {c : Char}
    (h : c ∈ Nat.toDigits 16 n) : ∃ k < 16, c = Nat.digitChar k := by
  induction n using Nat.strongRecOn with
  | ind n ih =>
    rcases Nat.lt_or_ge n 16 with hlt | hge
    · rw [Nat.toDigits_of_lt_base hlt] at h
      exact ⟨n, hlt, List.mem_singleton.mp h⟩
    · rw [Nat.toDigits_of_base_le (by omega) hge] at h
      rcases List.mem_append.mp h with h | h
      · exact ih (n / 16) (by omega) h
      · exact ⟨n % 16, by omega, List.mem_singleton.mp h⟩

private theorem hexNumber_append_singleton {digits : Text} {n k : Nat}
    (h : hexNumber digits = some n) (hk : k < 16) :
    hexNumber (digits ++ [Nat.digitChar k]) = some (n * 16 + k) := by
  rw [hexNumber] at h
  rw [hexNumber, List.foldlM_append, h]
  change (hexValue (Nat.digitChar k)).map (n * 16 + ·) >>= _ = _
  rw [(digitChar_props k hk).1]
  rfl

private theorem hexNumber_replicate (k : Nat) : hexNumber (List.replicate k '0') = some 0 := by
  induction k with
  | zero => rfl
  | succ k ih =>
    rw [List.replicate_succ']
    exact hexNumber_append_singleton ih (show 0 < 16 by omega)

private theorem hexNumber_toDigits (k n : Nat) :
    hexNumber (List.replicate k '0' ++ Nat.toDigits 16 n) = some n := by
  induction n using Nat.strongRecOn with
  | ind n ih =>
    rcases Nat.lt_or_ge n 16 with hlt | hge
    · rw [Nat.toDigits_of_lt_base hlt, hexNumber_append_singleton (hexNumber_replicate k) hlt,
        Nat.zero_mul, Nat.zero_add]
    · rw [Nat.toDigits_of_base_le (by omega) hge, ← List.append_assoc,
        hexNumber_append_singleton (ih (n / 16) (by omega)) (by omega), Nat.div_add_mod']

/-- The digits of an identifier, without the dashes. -/
def uuidDigits (id : Uuid) : Text := (Nat.toDigits 16 id).leftpad 32 '0'

private theorem exists_digitChar_of_mem_uuidDigits {id : Uuid} {c : Char} (h : c ∈ uuidDigits id) :
    ∃ k < 16, c = Nat.digitChar k := by
  rcases List.mem_append.mp h with h | h
  · exact ⟨0, by omega, List.eq_of_mem_replicate h⟩
  · exact exists_digitChar_of_mem_toDigits h

theorem filter_uuidText (id : Uuid) : (uuidText id).filter (· != '-') = uuidDigits id := by
  have hkeep : ∀ digits : Text, (∀ c ∈ digits, c ∈ uuidDigits id) →
      digits.filter (· != '-') = digits := by
    intro digits hdigits
    rw [List.filter_eq_self]
    intro c hc
    obtain ⟨k, hk, rfl⟩ := exists_digitChar_of_mem_uuidDigits (hdigits c hc)
    rw [bne_iff_ne]
    exact (digitChar_props k hk).2.1
  have htake : ∀ m n, ∀ c ∈ ((uuidDigits id).drop m).take n, c ∈ uuidDigits id :=
    fun m n c hc => List.mem_of_mem_drop (List.mem_of_mem_take hc)
  have hdash : ['-'].filter (· != '-') = [] := rfl
  change ((uuidDigits id).take 8 ++ ['-'] ++ ((uuidDigits id).drop 8).take 4 ++ ['-'] ++
    ((uuidDigits id).drop 12).take 4 ++ ['-'] ++ ((uuidDigits id).drop 16).take 4 ++ ['-'] ++
      (uuidDigits id).drop 20).filter (· != '-') = _
  simp only [List.filter_append, hdash, List.append_nil,
    hkeep _ fun c hc => List.mem_of_mem_take hc, hkeep _ (htake 8 4), hkeep _ (htake 12 4),
    hkeep _ (htake 16 4), hkeep _ fun c hc => List.mem_of_mem_drop hc]
  have hgroup : ∀ m n, ((uuidDigits id).drop m).take n ++ (uuidDigits id).drop (m + n) =
      (uuidDigits id).drop m := by
    intro m n
    rw [← List.drop_drop, List.take_append_drop]
  rw [List.append_assoc, List.append_assoc, List.append_assoc, hgroup 16 4, hgroup 12 4,
    hgroup 8 4, List.take_append_drop]

/-- Different identifiers have different texts. -/
theorem uuidText_injective : Function.Injective uuidText := by
  intro a b h
  have hdigits : hexNumber (uuidDigits a) = hexNumber (uuidDigits b) := by
    rw [← filter_uuidText, h, filter_uuidText]
  have ha : hexNumber (uuidDigits a) = some a := hexNumber_toDigits _ a
  have hb : hexNumber (uuidDigits b) = some b := hexNumber_toDigits _ b
  rw [ha, hb] at hdigits
  exact Option.some.inj hdigits

/-- A 128-bit identifier is read back from its text. -/
theorem parseUuid_uuidText {id : Uuid} (h : id < 2 ^ 128) : parseUuid (uuidText id) = some id := by
  have hlength : (uuidDigits id).length = 32 := by
    have hdigits : (Nat.toDigits 16 id).length ≤ 32 :=
      (Nat.length_toDigits_le_iff (by omega) (by omega)).mpr (by
        have hpow : (16 : Nat) ^ 32 = 2 ^ 128 := by decide
        omega)
    rw [uuidDigits, List.leftpad, List.length_append, List.length_replicate]
    omega
  simp only [parseUuid, filter_uuidText, hlength, ite_true]
  exact hexNumber_toDigits _ id

private theorem isPlain_of_digitChars {s : Text}
    (h : ∀ c ∈ s, c = '-' ∨ ∃ k < 16, c = Nat.digitChar k) : IsPlain s := by
  intro c hc
  rcases h c hc with rfl | ⟨k, hk, rfl⟩
  · decide
  · exact (digitChar_props k hk).2.2

/-- The text of an identifier consists of dashes and hexadecimal digits. -/
theorem dash_or_digitChar_of_mem_uuidText {id : Uuid} {c : Char} (h : c ∈ uuidText id) :
    c = '-' ∨ ∃ k < 16, c = Nat.digitChar k := by
  by_cases hdash : c = '-'
  · exact Or.inl hdash
  · right
    apply exists_digitChar_of_mem_uuidDigits
    rw [← filter_uuidText]
    exact List.mem_filter.mpr ⟨h, by rw [bne_iff_ne]; exact hdash⟩

theorem isPlain_uuidText (id : Uuid) : IsPlain (uuidText id) :=
  isPlain_of_digitChars fun _ => dash_or_digitChar_of_mem_uuidText

theorem isPlain_hexdigest (digest : Bytes) : IsPlain (hexdigest digest) := by
  apply isPlain_of_digitChars
  intro c hc
  obtain ⟨b, -, hb⟩ := List.mem_flatMap.mp hc
  have hlt := b.toNat_lt
  simp only [List.mem_cons, List.not_mem_nil, or_false] at hb
  rcases hb with rfl | rfl
  · exact Or.inr ⟨_, by omega, rfl⟩
  · exact Or.inr ⟨_, by omega, rfl⟩

/-- Different digests have different texts. -/
theorem hexdigest_injective : Function.Injective hexdigest := by
  intro a
  induction a with
  | nil =>
    intro b h
    cases b with
    | nil => rfl
    | cons y b => exact absurd h.symm (List.cons_ne_nil _ _)
  | cons x a ih =>
    intro b h
    cases b with
    | nil => exact absurd h (List.cons_ne_nil _ _)
    | cons y b =>
      have hx := x.toNat_lt
      have hy := y.toNat_lt
      change Nat.digitChar (x.toNat / 16) :: Nat.digitChar (x.toNat % 16) :: hexdigest a =
        Nat.digitChar (y.toNat / 16) :: Nat.digitChar (y.toNat % 16) :: hexdigest b at h
      obtain ⟨hhigh, hrest⟩ := List.cons.inj h
      obtain ⟨hlow, htail⟩ := List.cons.inj hrest
      have hhigh := digitChar_injective (by omega) (by omega) hhigh
      have hlow := digitChar_injective (by omega) (by omega) hlow
      have hbyte : x = y := UInt8.toNat_inj.mp (by omega)
      rw [hbyte, ih htail]

theorem hexdigest_ne_nil {digest : Bytes} (h : digest ≠ []) : hexdigest digest ≠ [] := by
  cases digest with
  | nil => exact absurd rfl h
  | cons b digest => exact List.cons_ne_nil _ _

end RaceFrame
