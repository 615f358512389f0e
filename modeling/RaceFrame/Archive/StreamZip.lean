import RaceFrame.Archive.DownloadNames
import RaceFrame.Core.Bytes
import RaceFrame.Core.Program

/-!
# The archive stream

`stream_photo_zip` as a program over what it has yielded: a local header, the
chunks of the object and a data descriptor for every entry, then the central
directory and its end record. A value too large for its field raises
`struct.error`, and two guards raise when a photo or the archive passes four
gigabytes.
-/

namespace RaceFrame

open Core

/-- `ZIP32_MAX`. -/
def zip32Max : Nat := 0xFFFFFFFF

/-- `ZIP_CHUNK_SIZE`. -/
def zipChunkSize : Nat := 256 * 1024

/-- The exceptions of the generator. -/
inductive ArchiveError where
  | structError
  | photoTooLarge
  | archiveTooLarge
  deriving DecidableEq, Repr

/-- The fields of `datetime.now(timezone.utc)` that a DOS timestamp is made of. -/
structure DateTime where
  year : Nat
  month : Nat
  day : Nat
  hour : Nat
  minute : Nat
  second : Nat
  month_le : month ≤ 12
  day_le : day ≤ 31
  hour_lt : hour < 24
  minute_lt : minute < 60
  second_lt : second < 60

/-- `_dos_timestamp`. -/
def dosTimestamp (now : DateTime) : Nat × Nat :=
  let year := max 1980 (min now.year 2107)
  let dosTime := (now.hour <<< 11) ||| (now.minute <<< 5) ||| (now.second / 2)
  let dosDate := ((year - 1980) <<< 9) ||| (now.month <<< 5) ||| now.day
  (dosTime, dosDate)

/-- What successive calls of `body.read` return for an object, up to the empty result that ends
it. -/
structure Body (object : Bytes) where
  chunks : List Bytes
  flatten_chunks : chunks.flatten = object
  chunk_ne_nil : ∀ chunk ∈ chunks, chunk ≠ []
  length_chunk_le : ∀ chunk ∈ chunks, chunk.length ≤ zipChunkSize

/-- The object storage: the bytes of every object, and how the body opened for the entry of a given
number splits them. -/
structure ObjectStorage where
  object : Text → Bytes
  getObjectBody (index : Nat) (objectKey : Text) : Body (object objectKey)

/-- What the generator keeps about an entry for the central directory. -/
structure CentralRecord where
  encodedName : Bytes
  crc : Nat
  fileSize : Nat
  localOffset : Nat
  dosTime : Nat
  dosDate : Nat
  deriving DecidableEq

/-- What the generator has yielded, and its local variables. -/
structure ZipStream where
  yielded : List Bytes
  offset : Nat
  centralRecords : List CentralRecord
  deriving DecidableEq

namespace ZipStream

/-- The generator before its first step. -/
def start : ZipStream := ⟨[], 0, []⟩

/-- What a client has received. -/
def bytes (s : ZipStream) : Bytes := s.yielded.flatten

end ZipStream

/-- The body of the generator. -/
abbrev Archiver := Program ZipStream ArchiveError

/-- `yield chunk`. -/
def yieldBytes (chunk : Bytes) : Archiver Unit :=
  Program.modify fun s => { s with yielded := s.yielded ++ [chunk] }

/-- `offset += count`. -/
def advance (count : Nat) : Archiver Unit :=
  Program.modify fun s => { s with offset := s.offset + count }

/-- `struct.pack`. -/
def structPack (format : List FormatChar) (values : List Nat) : Archiver Bytes :=
  match pack format values with
  | some bytes => pure bytes
  | none => Program.raise .structError

/-- Data descriptor and UTF-8 names. -/
def zipFlags : Nat := 0x0008 ||| 0x0800

/-- The loop `while chunk := body.read(ZIP_CHUNK_SIZE)`. -/
def copyBody : List Bytes → UInt32 → Nat → Archiver (UInt32 × Nat)
  | [], crc, fileSize => pure (crc, fileSize)
  | chunk :: chunks, crc, fileSize => do
    let crc := crc32 chunk crc
    let fileSize := fileSize + chunk.length
    if zip32Max < fileSize then Program.raise .photoTooLarge
    else do
      yieldBytes chunk
      advance chunk.length
      copyBody chunks crc fileSize

/-- One turn of the loop over the entries. -/
def streamEntry (storage : ObjectStorage) (now : DateTime) (index : Nat)
    (objectKey safeName : Text) : Archiver Unit := do
  let encodedName := encodeUtf8 safeName
  let (dosTime, dosDate) := dosTimestamp now
  let localOffset ← Program.gets ZipStream.offset
  let packed ← structPack [.I, .H, .H, .H, .H, .H, .I, .I, .I, .H, .H]
    [0x04034B50, 20, zipFlags, 0, dosTime, dosDate, 0, 0, 0, encodedName.length, 0]
  let localHeader := packed ++ encodedName
  yieldBytes localHeader
  advance localHeader.length
  let (crc, fileSize) ← copyBody (storage.getObjectBody index objectKey).chunks 0 0
  let descriptor ← structPack [.I, .I, .I, .I]
    [0x08074B50, crc.toNat &&& zip32Max, fileSize, fileSize]
  yieldBytes descriptor
  advance descriptor.length
  let offset ← Program.gets ZipStream.offset
  if zip32Max < offset then Program.raise .archiveTooLarge
  else
    Program.modify fun s => { s with
      centralRecords := s.centralRecords ++
        [⟨encodedName, crc.toNat &&& zip32Max, fileSize, localOffset, dosTime, dosDate⟩] }

/-- The loop over the entries and their names, from the entry of number `index` on. -/
def streamEntries (storage : ObjectStorage) (clock : Nat → DateTime) :
    Nat → List (Text × Text) → Archiver Unit
  | _, [] => pure ()
  | index, (objectKey, safeName) :: rest => do
    streamEntry storage (clock index) index objectKey safeName
    streamEntries storage clock (index + 1) rest

/-- The header of a central record. -/
def centralHeader (record : CentralRecord) : List Nat :=
  [0x02014B50, 20, 20, zipFlags, 0, record.dosTime, record.dosDate, record.crc, record.fileSize,
    record.fileSize, record.encodedName.length, 0, 0, 0, 0, 0, record.localOffset]

/-- The loop over the central records. -/
def streamDirectory : List CentralRecord → Archiver Unit
  | [] => pure ()
  | record :: records => do
    let packed ← structPack [.I, .H, .H, .H, .H, .H, .H, .I, .I, .I, .H, .H, .H, .H, .H, .I, .I]
      (centralHeader record)
    let header := packed ++ record.encodedName
    yieldBytes header
    advance header.length
    streamDirectory records

/-- `stream_photo_zip` over entries of an object key and a file name, where `clock` tells the time
at each entry. -/
def streamPhotoZip (storage : ObjectStorage) (clock : Nat → DateTime)
    (entries : List (Text × Text)) : Archiver Unit := do
  let names := uniqueDownloadNames (entries.map Prod.snd)
  streamEntries storage clock 0 ((entries.map Prod.fst).zip names)
  let centralOffset ← Program.gets ZipStream.offset
  let centralRecords ← Program.gets ZipStream.centralRecords
  streamDirectory centralRecords
  let offset ← Program.gets ZipStream.offset
  let centralSize := offset - centralOffset
  let packed ← structPack [.I, .H, .H, .H, .H, .I, .I, .H]
    [0x06054B50, 0, 0, centralRecords.length, centralRecords.length, centralSize, centralOffset, 0]
  yieldBytes packed

end RaceFrame
