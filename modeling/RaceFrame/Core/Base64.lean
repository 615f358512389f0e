import RaceFrame.Core.Bytes

/-!
# Base64 for URLs

The URL-safe alphabet, the encoder with and without padding, and the lenient
decoder: it skips what is not in the alphabet and stops at a complete padding.
Decoding undoes encoding, padded or not.
-/

namespace RaceFrame.Core

/-- The 64 characters of the alphabet. -/
def base64Chars : List Char :=
  "ABCDEFGHIJKLMNOPQRSTUVWXYZabcdefghijklmnopqrstuvwxyz0123456789-_".toList

/-- The character of a sextet. -/
def sextetChar (k : Nat) : Char := base64Chars.getD k 'A'

/-- The sextet of a character; the characters `+` and `/` of the other alphabet are accepted too. -/
def charSextet (c : Char) : Option Nat :=
  if c = '+' then some 62
  else if c = '/' then some 63
  else base64Chars.idxOf? c

/-- The characters of a sequence of bytes, without padding. -/
def base64Unpadded : Bytes → List Char
  | [] => []
  | [a] => [sextetChar (a.toNat / 4), sextetChar (a.toNat % 4 * 16)]
  | [a, b] =>
    [sextetChar (a.toNat / 4), sextetChar (a.toNat % 4 * 16 + b.toNat / 16),
      sextetChar (b.toNat % 16 * 4)]
  | a :: b :: c :: rest =>
    sextetChar (a.toNat / 4) :: sextetChar (a.toNat % 4 * 16 + b.toNat / 16) ::
      sextetChar (b.toNat % 16 * 4 + c.toNat / 64) :: sextetChar (c.toNat % 64) ::
        base64Unpadded rest

/-- `base64.urlsafe_b64encode`. -/
def urlsafeB64encode (value : Bytes) : List Char :=
  base64Unpadded value ++ List.replicate ((3 - value.length % 3) % 3) '='

/-- The loop of `binascii.a2b_base64` in its lenient mode, with the position in the group of four,
the bits left over and the padding seen. -/
def a2bBase64 : Nat → Nat → Nat → List Char → Option Bytes
  | quad, _, _, [] => if quad = 0 then some [] else none
  | quad, left, pads, c :: rest =>
    if c = '=' then
      if quad < 2 then a2bBase64 quad left pads rest
      else if 4 ≤ quad + (pads + 1) then some []
      else a2bBase64 quad left (pads + 1) rest
    else
      match charSextet c with
      | none => a2bBase64 quad left pads rest
      | some k =>
        match quad with
        | 0 => a2bBase64 1 k 0 rest
        | 1 => (a2bBase64 2 (k % 16) 0 rest).map (UInt8.ofNat (left * 4 + k / 16) :: ·)
        | 2 => (a2bBase64 3 (k % 4) 0 rest).map (UInt8.ofNat (left * 16 + k / 4) :: ·)
        | _ => (a2bBase64 0 0 0 rest).map (UInt8.ofNat (left * 64 + k) :: ·)

/-- `base64.urlsafe_b64decode` of a text; it fails on a text that is not ASCII. -/
def urlsafeB64decode (value : List Char) : Option Bytes :=
  if value.all fun c => c.toNat < 128 then a2bBase64 0 0 0 value else none

private theorem sextetChar_props : ∀ k < 64, charSextet (sextetChar k) = some k ∧
    sextetChar k ≠ '=' ∧ sextetChar k ≠ '.' ∧ sextetChar k ≠ '"' ∧ sextetChar k ≠ '\\' ∧
    32 ≤ (sextetChar k).toNat ∧ (sextetChar k).toNat ≤ 126 := by
  decide +kernel

@[simp] theorem charSextet_sextetChar {k : Nat} (h : k < 64) :
    charSextet (sextetChar k) = some k := (sextetChar_props k h).1

theorem sextetChar_ne_pad {k : Nat} (h : k < 64) : sextetChar k ≠ '=' := (sextetChar_props k h).2.1

/-- Every character of the encoding is the character of a sextet. -/
theorem exists_sextet_of_mem {value : Bytes} {c : Char} (h : c ∈ base64Unpadded value) :
    ∃ k < 64, c = sextetChar k := by
  induction value using base64Unpadded.induct with
  | case1 => exact absurd h List.not_mem_nil
  | case2 a =>
    have ha := a.toNat_lt
    simp only [base64Unpadded, List.mem_cons, List.not_mem_nil, or_false] at h
    rcases h with rfl | rfl
    · exact ⟨_, by omega, rfl⟩
    · exact ⟨_, by omega, rfl⟩
  | case3 a b =>
    have ha := a.toNat_lt
    have hb := b.toNat_lt
    simp only [base64Unpadded, List.mem_cons, List.not_mem_nil, or_false] at h
    rcases h with rfl | rfl | rfl
    · exact ⟨_, by omega, rfl⟩
    · exact ⟨_, by omega, rfl⟩
    · exact ⟨_, by omega, rfl⟩
  | case4 a b c rest ih =>
    have ha := a.toNat_lt
    have hb := b.toNat_lt
    have hc := c.toNat_lt
    simp only [base64Unpadded, List.mem_cons] at h
    rcases h with rfl | rfl | rfl | rfl | h
    · exact ⟨_, by omega, rfl⟩
    · exact ⟨_, by omega, rfl⟩
    · exact ⟨_, by omega, rfl⟩
    · exact ⟨_, by omega, rfl⟩
    · exact ih h

/-- The encoding is printable ASCII without dots, quotes and backslashes. -/
theorem props_of_mem_base64Unpadded {value : Bytes} {c : Char} (h : c ∈ base64Unpadded value) :
    c ≠ '.' ∧ c ≠ '"' ∧ c ≠ '\\' ∧ 32 ≤ c.toNat ∧ c.toNat ≤ 126 := by
  obtain ⟨k, hk, rfl⟩ := exists_sextet_of_mem h
  exact (sextetChar_props k hk).2.2

private theorem a2b_sextet {quad left pads k : Nat} (hk : k < 64) (rest : List Char) :
    a2bBase64 quad left pads (sextetChar k :: rest) =
      match quad with
      | 0 => a2bBase64 1 k 0 rest
      | 1 => (a2bBase64 2 (k % 16) 0 rest).map (UInt8.ofNat (left * 4 + k / 16) :: ·)
      | 2 => (a2bBase64 3 (k % 4) 0 rest).map (UInt8.ofNat (left * 16 + k / 4) :: ·)
      | _ => (a2bBase64 0 0 0 rest).map (UInt8.ofNat (left * 64 + k) :: ·) := by
  rw [a2bBase64, if_neg (sextetChar_ne_pad hk), charSextet_sextetChar hk]

private theorem a2b_first {left pads k : Nat} (hk : k < 64) (rest : List Char) :
    a2bBase64 0 left pads (sextetChar k :: rest) = a2bBase64 1 k 0 rest := a2b_sextet hk rest

private theorem a2b_second {left pads k : Nat} {a : UInt8} (hk : k < 64)
    (ha : left * 4 + k / 16 = a.toNat) (rest : List Char) :
    a2bBase64 1 left pads (sextetChar k :: rest) =
      (a2bBase64 2 (k % 16) 0 rest).map (a :: ·) := by
  rw [a2b_sextet hk, ha, UInt8.ofNat_toNat]
  rfl

private theorem a2b_third {left pads k : Nat} {b : UInt8} (hk : k < 64)
    (hb : left * 16 + k / 4 = b.toNat) (rest : List Char) :
    a2bBase64 2 left pads (sextetChar k :: rest) =
      (a2bBase64 3 (k % 4) 0 rest).map (b :: ·) := by
  rw [a2b_sextet hk, hb, UInt8.ofNat_toNat]
  rfl

private theorem a2b_fourth {left pads k : Nat} {c : UInt8} (hk : k < 64)
    (hc : left * 64 + k = c.toNat) (rest : List Char) :
    a2bBase64 3 left pads (sextetChar k :: rest) =
      (a2bBase64 0 0 0 rest).map (c :: ·) := by
  rw [a2b_sextet hk, hc, UInt8.ofNat_toNat]
  rfl

/-- The padding that completes the last group of four. -/
def base64Padding (length : Nat) : List Char := List.replicate ((4 - length % 4) % 4) '='

/-- Decoding undoes the unpadded encoding once the padding is back. -/
theorem a2bBase64_unpadded (value : Bytes) (pads : Nat) :
    a2bBase64 0 0 pads (base64Unpadded value ++ base64Padding (base64Unpadded value).length) =
      some value := by
  induction value using base64Unpadded.induct generalizing pads with
  | case1 => rfl
  | case2 a =>
    have ha := a.toNat_lt
    simp only [base64Unpadded, List.cons_append, List.nil_append]
    rw [a2b_first (by omega), a2b_second (by omega) (show _ = a.toNat by omega)]
    rfl
  | case3 a b =>
    have ha := a.toNat_lt
    have hb := b.toNat_lt
    simp only [base64Unpadded, List.cons_append, List.nil_append]
    rw [a2b_first (by omega), a2b_second (by omega) (show _ = a.toNat by omega),
      a2b_third (by omega) (show _ = b.toNat by omega)]
    rfl
  | case4 a b c rest ih =>
    have ha := a.toNat_lt
    have hb := b.toNat_lt
    have hc := c.toNat_lt
    have hlength : (base64Unpadded (a :: b :: c :: rest)).length =
        (base64Unpadded rest).length + 4 := rfl
    have hpadding : base64Padding ((base64Unpadded rest).length + 4) =
        base64Padding (base64Unpadded rest).length := by
      rw [base64Padding, base64Padding, Nat.add_mod_right]
    rw [hlength, hpadding]
    simp only [base64Unpadded, List.cons_append]
    rw [a2b_first (by omega), a2b_second (by omega) (show _ = a.toNat by omega),
      a2b_third (by omega) (show _ = b.toNat by omega),
      a2b_fourth (by omega) (show _ = c.toNat by omega), ih]
    rfl

/-- `value.rstrip("=")`. -/
def rstripPadding (value : List Char) : List Char :=
  (value.reverse.dropWhile (· == '=')).reverse

/-- Stripping the padding leaves the characters of the sextets. -/
theorem rstripPadding_urlsafeB64encode (value : Bytes) :
    rstripPadding (urlsafeB64encode value) = base64Unpadded value := by
  have hlast : ∀ (chars : List Char) (n : Nat), (∀ c ∈ chars, c ≠ '=') →
      rstripPadding (chars ++ List.replicate n '=') = chars := by
    intro chars n hchars
    have hkeep : chars.reverse.dropWhile (· == '=') = chars.reverse := by
      cases hreverse : chars.reverse with
      | nil => rfl
      | cons c rest =>
        have hmem : c ∈ chars := List.mem_reverse.mp (hreverse ▸ List.mem_cons_self)
        exact List.dropWhile_cons_of_neg (by simpa using hchars c hmem)
    rw [rstripPadding, List.reverse_append, List.reverse_replicate,
      List.dropWhile_append_of_pos fun c hc => by rw [List.eq_of_mem_replicate hc]; rfl, hkeep,
      List.reverse_reverse]
  apply hlast
  intro c hc
  obtain ⟨k, hk, rfl⟩ := exists_sextet_of_mem hc
  exact sextetChar_ne_pad hk

/-- Decoding the unpadded encoding with its padding restored gives the bytes back. -/
theorem urlsafeB64decode_unpadded (value : Bytes) :
    urlsafeB64decode (base64Unpadded value ++ base64Padding (base64Unpadded value).length) =
      some value := by
  have hascii : ((base64Unpadded value ++ base64Padding (base64Unpadded value).length).all fun c =>
      c.toNat < 128) = true := by
    rw [List.all_eq_true]
    intro c hc
    rcases List.mem_append.mp hc with hc | hc
    · have hhigh := (props_of_mem_base64Unpadded hc).2.2.2.2
      exact decide_eq_true (by omega)
    · rw [List.eq_of_mem_replicate hc]
      rfl
  rw [urlsafeB64decode, if_pos hascii, a2bBase64_unpadded]

end RaceFrame.Core
