import Mathlib.Algebra.Ring.Nat
import Mathlib.Data.List.Basic
import Mathlib.Logic.Function.Iterate

/-!
# Packed records and checksums

Records of little-endian unsigned fields, as a format such as `<IHH` describes
them: packing fails when a value does not fit its field, and unpacking undoes
packing and hands back the bytes that follow. The checksum is the reflected
CRC-32, which can be continued from the checksum of what came before. Texts are
coded in UTF-8.
-/

namespace RaceFrame.Core

/-- A sequence of bytes. -/
abbrev Bytes := List UInt8

/-- The `k` low bytes of a number, the lowest first. -/
def leBytes : Nat → Nat → Bytes
  | 0, _ => []
  | k + 1, n => UInt8.ofNat n :: leBytes k (n / 256)

/-- The number whose bytes these are, the lowest first. -/
def leValue : Bytes → Nat
  | [] => 0
  | b :: bs => b.toNat + 256 * leValue bs

@[simp] theorem length_leBytes (k n : Nat) : (leBytes k n).length = k := by
  induction k generalizing n with
  | zero => rfl
  | succ k ih => simp only [leBytes, List.length_cons, ih]

/-- A number below `256 ^ k` is read back from its `k` low bytes. -/
theorem leValue_leBytes {k n : Nat} (h : n < 256 ^ k) : leValue (leBytes k n) = n := by
  induction k generalizing n with
  | zero =>
    rw [Nat.pow_zero, Nat.lt_one_iff] at h
    rw [h]
    rfl
  | succ k ih =>
    have hrest : n / 256 < 256 ^ k := by
      rw [Nat.pow_succ] at h
      omega
    have hbyte : (UInt8.ofNat n).toNat = n % 256 := UInt8.toNat_ofNat'
    simp only [leBytes, leValue, ih hrest, hbyte]
    omega

/-- The field types of a record: `H` takes two bytes and `I` takes four. -/
inductive FormatChar where
  | H
  | I
  deriving DecidableEq, Repr

namespace FormatChar

/-- The number of bytes of a field. -/
def size : FormatChar → Nat
  | H => 2
  | I => 4

/-- The values below this bound fit the field. -/
def bound (c : FormatChar) : Nat := 256 ^ c.size

@[simp] theorem bound_H : bound H = 65536 := rfl

@[simp] theorem bound_I : bound I = 4294967296 := rfl

end FormatChar

/-- The number of bytes of a record. -/
def calcsize (format : List FormatChar) : Nat := (format.map FormatChar.size).sum

/-- `struct.pack` of a little-endian format; it fails on a value too large for its field and on a
wrong number of values. -/
def pack : List FormatChar → List Nat → Option Bytes
  | [], [] => some []
  | c :: format, v :: values =>
    if v < c.bound then (pack format values).map (leBytes c.size v ++ ·) else none
  | _, _ => none

/-- Read one record from the front, with the bytes after it. -/
def unpack : List FormatChar → Bytes → Option (List Nat × Bytes)
  | [], bytes => some ([], bytes)
  | c :: format, bytes =>
    if c.size ≤ bytes.length then
      (unpack format (bytes.drop c.size)).map fun (values, rest) =>
        (leValue (bytes.take c.size) :: values, rest)
    else none

/-- The values fit the fields of the format, one each. -/
def Fits (format : List FormatChar) (values : List Nat) : Prop :=
  List.Forall₂ (fun c v => v < FormatChar.bound c) format values

/-- Values that fit their fields can be packed. -/
theorem Fits.exists_pack {format : List FormatChar} {values : List Nat}
    (h : Fits format values) : ∃ bytes, pack format values = some bytes := by
  unfold Fits at h
  induction h with
  | nil => exact ⟨[], rfl⟩
  | cons hv _ ih =>
    obtain ⟨bytes, hbytes⟩ := ih
    exact ⟨_, by rw [pack, ite_cond_eq_true _ _ (eq_true hv), hbytes]; rfl⟩

/-- Unpacking undoes packing, whatever follows the record. -/
theorem unpack_append {format : List FormatChar} {values : List Nat} {bytes : Bytes}
    (h : pack format values = some bytes) (rest : Bytes) :
    unpack format (bytes ++ rest) = some (values, rest) := by
  induction format generalizing values bytes with
  | nil =>
    cases values with
    | nil =>
      cases h
      rfl
    | cons v values => simp only [pack, reduceCtorEq] at h
  | cons c format ih =>
    cases values with
    | nil => simp only [pack, reduceCtorEq] at h
    | cons v values =>
      simp only [pack] at h
      split at h
      next hv =>
        obtain ⟨tail, htail, rfl⟩ := Option.map_eq_some_iff.mp h
        have hlength : (leBytes c.size v).length = c.size := length_leBytes _ _
        have hle : c.size ≤ (leBytes c.size v ++ tail ++ rest).length := by
          simp only [List.length_append, hlength]
          omega
        have htake : (leBytes c.size v ++ tail ++ rest).take c.size = leBytes c.size v := by
          rw [List.append_assoc]
          exact List.take_left' hlength
        have hdrop : (leBytes c.size v ++ tail ++ rest).drop c.size = tail ++ rest := by
          rw [List.append_assoc]
          exact List.drop_left' hlength
        simp only [unpack, hle, ite_true, hdrop, htake, ih htail, Option.map_some,
          leValue_leBytes hv]
      next => cases h

/-- A packed record has the size of its format. -/
theorem length_of_pack {format : List FormatChar} {values : List Nat} {bytes : Bytes}
    (h : pack format values = some bytes) : bytes.length = calcsize format := by
  induction format generalizing values bytes with
  | nil =>
    cases values with
    | nil =>
      cases h
      rfl
    | cons v values => simp only [pack, reduceCtorEq] at h
  | cons c format ih =>
    cases values with
    | nil => simp only [pack, reduceCtorEq] at h
    | cons v values =>
      simp only [pack] at h
      split at h
      next =>
        obtain ⟨tail, htail, rfl⟩ := Option.map_eq_some_iff.mp h
        rw [List.length_append, length_leBytes, ih htail]
        rfl
      next => cases h

/-- One bit of the reflected CRC-32 with polynomial `0xEDB88320`. -/
def crc32Bit (crc : UInt32) : UInt32 :=
  if crc &&& 1 = 1 then (crc >>> 1) ^^^ 0xEDB88320 else crc >>> 1

/-- One byte of the register update. -/
def crc32Byte (crc : UInt32) (byte : UInt8) : UInt32 :=
  Nat.iterate crc32Bit 8 (crc ^^^ byte.toUInt32)

/-- `zlib.crc32(data, value)`. -/
def crc32 (data : Bytes) (value : UInt32) : UInt32 := ~~~data.foldl crc32Byte (~~~value)

@[simp] theorem crc32_nil (value : UInt32) : crc32 [] value = value := by
  simp only [crc32, List.foldl_nil, UInt32.not_not]

/-- The checksum of a chunk continues the checksum of what came before it. -/
theorem crc32_append (a b : Bytes) (value : UInt32) :
    crc32 (a ++ b) value = crc32 b (crc32 a value) := by
  simp only [crc32, List.foldl_append, UInt32.not_not]

/-- The check value of the standard: the checksum of the digits `123456789`. -/
example : crc32 [49, 50, 51, 52, 53, 54, 55, 56, 57] 0 = 0xCBF43926 := by decide +kernel

/-- `s.encode("utf-8")`. -/
def encodeUtf8 (s : List Char) : Bytes := s.flatMap String.utf8EncodeChar

/-- `bytes.decode("utf-8")`. -/
def decodeUtf8 (bytes : Bytes) : Option (List Char) :=
  (ByteArray.utf8Decode? ⟨bytes.toArray⟩).map Array.toList

/-- Decoding undoes encoding. -/
theorem decodeUtf8_encodeUtf8 (s : List Char) : decodeUtf8 (encodeUtf8 s) = some s := by
  have harray : (⟨(encodeUtf8 s).toArray⟩ : ByteArray) = s.utf8Encode := by
    apply ByteArray.ext
    apply Array.toList_inj.mp
    rw [List.utf8Encode, List.toList_data_toByteArray]
    rfl
  rw [decodeUtf8, harray, List.utf8Decode?_utf8Encode]
  rfl

/-- A code point takes at most four bytes. -/
theorem length_encodeUtf8_le (s : List Char) : (encodeUtf8 s).length ≤ 4 * s.length := by
  induction s with
  | nil => exact Nat.le_refl _
  | cons c s ih =>
    have hc : (String.utf8EncodeChar c).length ≤ 4 := by
      rw [String.length_utf8EncodeChar]
      exact c.utf8Size_le_four
    rw [encodeUtf8] at ih ⊢
    rw [List.flatMap_cons, List.length_append, List.length_cons]
    omega

end RaceFrame.Core
