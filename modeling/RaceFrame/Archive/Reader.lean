import RaceFrame.Core.Bytes

/-!
# Reading a ZIP archive

A reader of stored (uncompressed) archives without comment: it takes the
end-of-central-directory record from the last 22 bytes, walks through the
central directory and fetches each member through its local header. A member
counts only when everything the archive records about it agrees: the local name,
the sizes and the CRC-32, in the local header or in the data descriptor.
-/

namespace RaceFrame.Zip

open Core

/-- A member, with what the central directory records about it. -/
structure Entry where
  name : List Char
  data : Bytes
  crc : Nat
  compressedSize : Nat
  uncompressedSize : Nat
  localOffset : Nat
  deriving DecidableEq

/-- The local file header. -/
def localHeader : List FormatChar := [.I, .H, .H, .H, .H, .H, .I, .I, .I, .H, .H]

/-- The data descriptor, with its optional signature. -/
def dataDescriptor : List FormatChar := [.I, .I, .I, .I]

/-- The central directory header. -/
def centralHeader : List FormatChar :=
  [.I, .H, .H, .H, .H, .H, .H, .I, .I, .I, .H, .H, .H, .H, .H, .I, .I]

/-- The end-of-central-directory record. -/
def endRecord : List FormatChar := [.I, .H, .H, .H, .H, .I, .I, .H]

/-- Fetch the data of a member: its local header must carry the name of the central directory, and
the checksum and the sizes of the central directory must be those of the data and those written
before it or, under flag 3, after it. -/
def readData (archive encodedName : Bytes) (crc size localOffset : Nat) : Option Bytes :=
  match unpack localHeader (archive.drop localOffset) with
  | some ([signature, _, flags, method, _, _, localCrc, localCompressed, localUncompressed,
      nameLength, extraLength], rest) =>
    let body := rest.drop (nameLength + extraLength)
    let data := body.take size
    let written :=
      if flags.testBit 3 then (unpack dataDescriptor (body.drop size)).map Prod.fst
      else some [0x08074B50, localCrc, localCompressed, localUncompressed]
    if signature = 0x04034B50 ∧ method = 0 ∧ rest.take nameLength = encodedName ∧
        data.length = size ∧ (crc32 data 0).toNat = crc ∧
        written = some [0x08074B50, crc, size, size] then
      some data
    else none
  | _ => none

/-- Read the given number of members from the central directory, to its last byte. -/
def readDirectory (archive : Bytes) : Nat → Bytes → Option (List Entry)
  | 0, directory => if directory = [] then some [] else none
  | count + 1, directory =>
    match unpack centralHeader directory with
    | some ([signature, _, _, flags, method, _, _, crc, compressedSize, uncompressedSize,
        nameLength, extraLength, commentLength, _, _, _, localOffset], rest) =>
      let encodedName := rest.take nameLength
      if signature = 0x02014B50 ∧ method = 0 ∧ compressedSize = uncompressedSize ∧
          flags.testBit 11 then do
        let name ← decodeUtf8 encodedName
        let data ← readData archive encodedName crc compressedSize localOffset
        let entries ← readDirectory archive count
          (rest.drop (nameLength + extraLength + commentLength))
        pure (⟨name, data, crc, compressedSize, uncompressedSize, localOffset⟩ :: entries)
      else none
    | _ => none

/-- Read an archive. -/
def read (archive : Bytes) : Option (List Entry) :=
  let start := archive.length - calcsize endRecord
  match unpack endRecord (archive.drop start) with
  | some ([signature, disk, directoryDisk, diskCount, count, size, offset, commentLength],
      rest) =>
    if signature = 0x06054B50 ∧ disk = 0 ∧ directoryDisk = 0 ∧ diskCount = count ∧
        commentLength = 0 ∧ rest = [] ∧ offset + size = start then
      readDirectory archive count ((archive.drop offset).take size)
    else none
  | _ => none

end RaceFrame.Zip
