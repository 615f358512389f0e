import Mathlib.Algebra.BigOperators.Group.List.Basic
import Mathlib.Data.List.Forall2
import RaceFrame.Archive.Reader
import RaceFrame.Archive.StreamZip

/-!
# The archive decodes to the photos

While the entries are streamed, `offset` is the number of bytes yielded and every
central record points at the local header, the data and the descriptor of its
member. Later chunks do not move what has been yielded, so the directory written
last leads a reader to every member. The sizes stay below four gigabytes because
the names are short and the objects have a bounded total.
-/

namespace RaceFrame

open Core

private theorem testBit_zipFlags_3 : zipFlags.testBit 3 = true := by decide

private theorem testBit_zipFlags_11 : zipFlags.testBit 11 = true := by decide

private theorem dosTimestamp_fst_lt (now : DateTime) : (dosTimestamp now).1 < 65536 := by
  have hhour : now.hour <<< 11 < 2 ^ 16 := by
    have h := now.hour_lt
    rw [Nat.shiftLeft_eq]
    omega
  have hminute : now.minute <<< 5 < 2 ^ 16 := by
    have h := now.minute_lt
    rw [Nat.shiftLeft_eq]
    omega
  have hsecond : now.second / 2 < 2 ^ 16 := by
    have h := now.second_lt
    omega
  exact Nat.or_lt_two_pow (Nat.or_lt_two_pow hhour hminute) hsecond

private theorem dosTimestamp_snd_lt (now : DateTime) : (dosTimestamp now).2 < 65536 := by
  have hyear : (max 1980 (min now.year 2107) - 1980) <<< 9 < 2 ^ 16 := by
    rw [Nat.shiftLeft_eq]
    omega
  have hmonth : now.month <<< 5 < 2 ^ 16 := by
    have h := now.month_le
    rw [Nat.shiftLeft_eq]
    omega
  have hday : now.day < 2 ^ 16 := by
    have h := now.day_le
    omega
  exact Nat.or_lt_two_pow (Nat.or_lt_two_pow hyear hmonth) hday

private theorem toNat_and_zip32Max (crc : UInt32) : crc.toNat &&& zip32Max = crc.toNat := by
  have hlt : crc.toNat < 2 ^ 32 := crc.toNat_lt
  have hmask := Nat.and_two_pow_sub_one_eq_mod crc.toNat 32
  rw [Nat.mod_eq_of_lt hlt] at hmask
  exact hmask

@[simp] theorem run_yieldBytes (chunk : Bytes) (s : ZipStream) :
    (yieldBytes chunk).run s = (.ok (), { s with yielded := s.yielded ++ [chunk] }) := rfl

@[simp] theorem run_advance (count : Nat) (s : ZipStream) :
    (advance count).run s = (.ok (), { s with offset := s.offset + count }) := rfl

theorem run_structPack {format : List FormatChar} {values : List Nat} {bytes : Bytes}
    (h : pack format values = some bytes) (s : ZipStream) :
    (structPack format values).run s = (.ok bytes, s) := by
  rw [structPack, h]
  rfl

/-- The body loop yields the chunks and returns the checksum and the size of what they hold. -/
theorem run_copyBody {chunks : List Bytes} {crc : UInt32} {fileSize : Nat} (s : ZipStream)
    (h : fileSize + chunks.flatten.length ≤ zip32Max) :
    (copyBody chunks crc fileSize).run s =
      (.ok (crc32 chunks.flatten crc, fileSize + chunks.flatten.length),
        { s with
          yielded := s.yielded ++ chunks
          offset := s.offset + chunks.flatten.length }) := by
  induction chunks generalizing crc fileSize s with
  | nil => simp only [copyBody, List.flatten_nil, crc32_nil, List.length_nil, Nat.add_zero,
      List.append_nil, Program.run_pure]
  | cons chunk chunks ih =>
    rw [List.flatten_cons, List.length_append] at h
    have hguard : ¬zip32Max < fileSize + chunk.length := by omega
    have hrest : fileSize + chunk.length + chunks.flatten.length ≤ zip32Max := by omega
    simp only [copyBody, hguard, ite_false]
    rw [Program.run_bind_ok (run_yieldBytes _ _), Program.run_bind_ok (run_advance _ _), ih _ hrest]
    simp only [List.flatten_cons, List.length_append, crc32_append, List.append_assoc,
      List.singleton_append, Nat.add_assoc]

/-- A central record points at the local record of a member and holds its checksum and size. -/
structure Located (archive : Bytes) (member : Text × Bytes) (record : CentralRecord) : Prop where
  encodedName_eq : record.encodedName = encodeUtf8 member.1
  crc_eq : record.crc = (crc32 member.2 0).toNat
  fileSize_eq : record.fileSize = member.2.length
  fits : Fits Zip.centralHeader (centralHeader record)
  placed : ∃ before header descriptor after,
    archive = before ++ (header ++ (record.encodedName ++ (member.2 ++ (descriptor ++ after)))) ∧
    before.length = record.localOffset ∧
    pack Zip.localHeader [0x04034B50, 20, zipFlags, 0, record.dosTime, record.dosDate, 0, 0, 0,
      record.encodedName.length, 0] = some header ∧
    pack Zip.dataDescriptor [0x08074B50, record.crc, record.fileSize, record.fileSize] =
      some descriptor

/-- What has been yielded stays where it is. -/
theorem Located.append {archive : Bytes} {member : Text × Bytes} {record : CentralRecord}
    (h : Located archive member record) (more : Bytes) :
    Located (archive ++ more) member record := by
  obtain ⟨before, header, descriptor, after, harchive, hrest⟩ := h.placed
  refine { h with placed := ⟨before, header, descriptor, after ++ more, ?_, hrest⟩ }
  simp only [harchive, List.append_assoc]

/-- The reader finds the data of a member through its central record. -/
theorem Located.readData {archive : Bytes} {member : Text × Bytes} {record : CentralRecord}
    (h : Located archive member record) :
    Zip.readData archive record.encodedName record.crc record.fileSize record.localOffset =
      some member.2 := by
  obtain ⟨before, header, descriptor, after, harchive, hbefore, hheader, hdescriptor⟩ := h.placed
  have hdrop : archive.drop record.localOffset =
      header ++ (record.encodedName ++ (member.2 ++ (descriptor ++ after))) := by
    rw [harchive]
    exact List.drop_left' hbefore
  have hname : (record.encodedName ++ (member.2 ++ (descriptor ++ after))).take
      record.encodedName.length = record.encodedName := List.take_left
  have hbody : (record.encodedName ++ (member.2 ++ (descriptor ++ after))).drop
      record.encodedName.length = member.2 ++ (descriptor ++ after) := List.drop_left
  have hdata : (member.2 ++ (descriptor ++ after)).take record.fileSize = member.2 :=
    List.take_left' h.fileSize_eq.symm
  have hafter : (member.2 ++ (descriptor ++ after)).drop record.fileSize = descriptor ++ after :=
    List.drop_left' h.fileSize_eq.symm
  simp only [Zip.readData, hdrop, unpack_append hheader, testBit_zipFlags_3, Nat.add_zero, hname,
    hbody, hdata, hafter, unpack_append hdescriptor, ite_true, Option.map_some]
  exact if_pos ⟨trivial, trivial, trivial, h.fileSize_eq.symm, h.crc_eq.symm, trivial⟩

/-- While the entries are streamed: `offset` counts the bytes yielded and the central records
describe the members streamed so far. -/
structure Archived (s : ZipStream) (members : List (Text × Bytes)) : Prop where
  offset_eq : s.offset = s.bytes.length
  located : List.Forall₂ (Located s.bytes) members s.centralRecords

theorem archived_start : Archived ZipStream.start [] := ⟨rfl, List.Forall₂.nil⟩

/-- The number of bytes that a member takes before the central directory. -/
def localSize (member : Text × Bytes) : Nat :=
  30 + (encodeUtf8 member.1).length + member.2.length + 16

private theorem zipFlags_lt : zipFlags < 65536 := by decide

private theorem fits_localHeader {dosTime dosDate nameLength : Nat} (htime : dosTime < 65536)
    (hdate : dosDate < 65536) (hname : nameLength < 65536) :
    Fits Zip.localHeader
      [0x04034B50, 20, zipFlags, 0, dosTime, dosDate, 0, 0, 0, nameLength, 0] := by
  have hflags := zipFlags_lt
  simp only [Fits, Zip.localHeader, List.forall₂_cons, FormatChar.bound_H, FormatChar.bound_I,
    List.Forall₂.nil, and_true]
  omega

private theorem fits_dataDescriptor {crc fileSize : Nat} (hcrc : crc < 4294967296)
    (hsize : fileSize < 4294967296) :
    Fits Zip.dataDescriptor [0x08074B50, crc, fileSize, fileSize] := by
  simp only [Fits, Zip.dataDescriptor, List.forall₂_cons, FormatChar.bound_I,
    List.Forall₂.nil, and_true]
  omega

private theorem fits_centralHeader {record : CentralRecord} (htime : record.dosTime < 65536)
    (hdate : record.dosDate < 65536) (hname : record.encodedName.length < 65536)
    (hcrc : record.crc < 4294967296) (hsize : record.fileSize < 4294967296)
    (hoffset : record.localOffset < 4294967296) :
    Fits Zip.centralHeader (centralHeader record) := by
  have hflags := zipFlags_lt
  simp only [Fits, Zip.centralHeader, centralHeader, List.forall₂_cons, FormatChar.bound_H,
    FormatChar.bound_I, List.Forall₂.nil, and_true]
  omega

private theorem fits_endRecord {count size offset : Nat} (hcount : count < 65536)
    (hsize : size < 4294967296) (hoffset : offset < 4294967296) :
    Fits Zip.endRecord [0x06054B50, 0, 0, count, count, size, offset, 0] := by
  simp only [Fits, Zip.endRecord, List.forall₂_cons, FormatChar.bound_H, FormatChar.bound_I,
    List.Forall₂.nil, and_true]
  omega

/-- One turn of the loop over the entries adds one member. -/
theorem Archived.streamEntry {s : ZipStream} {members : List (Text × Bytes)}
    (h : Archived s members) (storage : ObjectStorage) (now : DateTime) (index : Nat)
    {objectKey safeName : Text} (hname : (encodeUtf8 safeName).length < 65536)
    (hsize : s.offset + localSize (safeName, storage.object objectKey) ≤ zip32Max) :
    ∃ t, (streamEntry storage now index objectKey safeName).run s = (.ok (), t) ∧
      Archived t (members ++ [(safeName, storage.object objectKey)]) ∧
      t.offset = s.offset + localSize (safeName, storage.object objectKey) := by
  have htime := dosTimestamp_fst_lt now
  have hdate := dosTimestamp_snd_lt now
  rcases hstamp : dosTimestamp now with ⟨dosTime, dosDate⟩
  simp only [hstamp] at htime hdate
  let body := storage.getObjectBody index objectKey
  let data := storage.object objectKey
  have hdata : body.chunks.flatten = data := body.flatten_chunks
  have hmax : zip32Max = 4294967295 := rfl
  have hcrc : (crc32 data 0).toNat < 4294967296 := (crc32 data 0).toNat_lt
  have hbudget : s.offset + (30 + (encodeUtf8 safeName).length + data.length + 16) ≤ zip32Max :=
    hsize
  obtain ⟨header, hheader⟩ := (fits_localHeader htime hdate hname).exists_pack
  obtain ⟨descriptor, hdescriptor⟩ :=
    (fits_dataDescriptor hcrc (show data.length < 4294967296 by omega)).exists_pack
  have hheaderLength : header.length = 30 := length_of_pack hheader
  have hdescriptorLength : descriptor.length = 16 := length_of_pack hdescriptor
  let record : CentralRecord :=
    ⟨encodeUtf8 safeName, (crc32 data 0).toNat, data.length, s.offset, dosTime, dosDate⟩
  let t : ZipStream :=
    { yielded := s.yielded ++ [header ++ encodeUtf8 safeName] ++ body.chunks ++ [descriptor]
      offset := s.offset + (header ++ encodeUtf8 safeName).length + data.length +
        descriptor.length
      centralRecords := s.centralRecords ++ [record] }
  have hbytes : t.bytes =
      s.bytes ++ (header ++ (encodeUtf8 safeName ++ (data ++ (descriptor ++ [])))) := by
    simp only [t, ZipStream.bytes, List.flatten_append, hdata, List.flatten_cons,
      List.flatten_nil, List.append_nil, List.append_assoc]
  have hoffset : t.offset = s.offset + localSize (safeName, data) := by
    simp only [t, localSize, List.length_append, hheaderLength, hdescriptorLength]
    omega
  refine ⟨t, ?_, ⟨?_, ?_⟩, hoffset⟩
  · have hcopy : zip32Max ≥ 0 + body.chunks.flatten.length := by
      rw [hdata]
      omega
    have hguard : ¬zip32Max < t.offset := by
      rw [hoffset]
      exact Nat.not_lt_of_le hsize
    simp only [RaceFrame.streamEntry, hstamp, Program.run_gets_bind]
    refine (Program.run_bind_ok (run_structPack hheader _)).trans ?_
    rw [Program.run_bind_ok (run_yieldBytes _ _), Program.run_bind_ok (run_advance _ _)]
    refine (Program.run_bind_ok (run_copyBody _ hcopy)).trans ?_
    simp only [hdata, toNat_and_zip32Max, Nat.zero_add]
    refine (Program.run_bind_ok (run_structPack hdescriptor _)).trans ?_
    rw [Program.run_bind_ok (run_yieldBytes _ _), Program.run_bind_ok (run_advance _ _),
      Program.run_gets_bind]
    exact (congrArg (fun x : Archiver Unit => x.run _) (if_neg hguard)).trans rfl
  · rw [hoffset, hbytes, h.offset_eq]
    simp only [localSize, List.length_append, hheaderLength, hdescriptorLength, List.length_nil]
    omega
  · rw [hbytes]
    have hlocated : Located (s.bytes ++
        (header ++ (encodeUtf8 safeName ++ (data ++ (descriptor ++ []))))) (safeName, data)
        record := by
      refine ⟨rfl, rfl, rfl, fits_centralHeader htime hdate hname hcrc ?_ ?_,
        s.bytes, header, descriptor, [], rfl, h.offset_eq.symm, hheader, hdescriptor⟩
      · change data.length < 4294967296
        omega
      · change s.offset < 4294967296
        omega
    exact List.rel_append (h.located.imp fun _ _ hr => hr.append _)
      (List.Forall₂.cons hlocated List.Forall₂.nil)

/-- The members that the entries and their names stand for. -/
def archiveMembers (storage : ObjectStorage) (pairs : List (Text × Text)) : List (Text × Bytes) :=
  pairs.map fun (objectKey, safeName) => (safeName, storage.object objectKey)

/-- The loop over the entries adds one member for each. -/
theorem Archived.streamEntries {s : ZipStream} {members : List (Text × Bytes)}
    (h : Archived s members) (storage : ObjectStorage) (clock : Nat → DateTime) (index : Nat)
    {pairs : List (Text × Text)} (hnames : ∀ pair ∈ pairs, (encodeUtf8 pair.2).length < 65536)
    (hsize : s.offset + ((archiveMembers storage pairs).map localSize).sum ≤ zip32Max) :
    ∃ t, (streamEntries storage clock index pairs).run s = (.ok (), t) ∧
      Archived t (members ++ archiveMembers storage pairs) ∧
      t.offset = s.offset + ((archiveMembers storage pairs).map localSize).sum := by
  induction pairs generalizing index s members with
  | nil =>
    refine ⟨s, rfl, ?_, rfl⟩
    rw [archiveMembers, List.map_nil, List.append_nil]
    exact h
  | cons pair rest ih =>
    rcases pair with ⟨objectKey, safeName⟩
    have hsum : ((archiveMembers storage ((objectKey, safeName) :: rest)).map localSize).sum =
        localSize (safeName, storage.object objectKey) +
          ((archiveMembers storage rest).map localSize).sum := by
      simp only [archiveMembers, List.map_cons, List.sum_cons]
    rw [hsum] at hsize ⊢
    have hstep : s.offset + localSize (safeName, storage.object objectKey) ≤ zip32Max := by omega
    have hname : (encodeUtf8 safeName).length < 65536 := hnames _ List.mem_cons_self
    obtain ⟨t, hrun, ht, hoffset⟩ := h.streamEntry storage (clock index) index hname hstep
    obtain ⟨u, hrun', hu, hoffset'⟩ := ih ht (index + 1)
      (fun pair hpair => hnames pair (List.mem_cons_of_mem _ hpair)) (by omega)
    refine ⟨u, ?_, ?_, by omega⟩
    · rw [RaceFrame.streamEntries, Program.run_bind_ok hrun]
      exact hrun'
    · rw [List.append_assoc] at hu
      exact hu

/-- The bytes of the central directory: every record as a header and its name. -/
inductive IsDirectory : List CentralRecord → Bytes → Prop
  | nil : IsDirectory [] []
  | cons {record : CentralRecord} {records : List CentralRecord} {header directory : Bytes}
      (hheader : pack Zip.centralHeader (centralHeader record) = some header)
      (hdirectory : IsDirectory records directory) :
      IsDirectory (record :: records) (header ++ (record.encodedName ++ directory))

/-- The central directory is small when the names are short. -/
theorem IsDirectory.length_le {records : List CentralRecord} {directory : Bytes}
    (h : IsDirectory records directory) (hnames : ∀ r ∈ records, r.encodedName.length ≤ 1624) :
    directory.length ≤ records.length * 1670 := by
  induction h with
  | nil => exact Nat.le_refl _
  | @cons record records header directory hheader _ ih =>
    have hlength : header.length = 46 := length_of_pack hheader
    have hrecord := hnames record List.mem_cons_self
    have hrest := ih fun r hr => hnames r (List.mem_cons_of_mem _ hr)
    simp only [List.length_append, List.length_cons]
    omega

/-- The loop over the central records yields their directory. -/
theorem run_streamDirectory {records : List CentralRecord}
    (hfits : ∀ r ∈ records, Fits Zip.centralHeader (centralHeader r)) (s : ZipStream) :
    ∃ t directory, (streamDirectory records).run s = (.ok (), t) ∧
      IsDirectory records directory ∧ t.bytes = s.bytes ++ directory ∧
      t.offset = s.offset + directory.length := by
  induction records generalizing s with
  | nil => exact ⟨s, [], rfl, IsDirectory.nil, (List.append_nil _).symm, rfl⟩
  | cons record records ih =>
    obtain ⟨header, hheader⟩ := (hfits record List.mem_cons_self).exists_pack
    let u : ZipStream :=
      { s with
        yielded := s.yielded ++ [header ++ record.encodedName]
        offset := s.offset + (header ++ record.encodedName).length }
    obtain ⟨t, directory, hrun, hdirectory, hbytes, hoffset⟩ :=
      ih (fun r hr => hfits r (List.mem_cons_of_mem _ hr)) u
    refine ⟨t, header ++ (record.encodedName ++ directory), ?_,
      IsDirectory.cons hheader hdirectory, ?_, ?_⟩
    · rw [streamDirectory]
      refine (Program.run_bind_ok (run_structPack hheader _)).trans ?_
      rw [Program.run_bind_ok (run_yieldBytes _ _), Program.run_bind_ok (run_advance _ _)]
      exact hrun
    · have hu : u.bytes = s.bytes ++ (header ++ record.encodedName) := by
        simp only [u, ZipStream.bytes, List.flatten_append, List.flatten_cons, List.flatten_nil,
          List.append_nil]
      rw [hbytes, hu]
      simp only [List.append_assoc]
    · have hu : u.offset = s.offset + (header ++ record.encodedName).length := rfl
      rw [hoffset, hu]
      simp only [List.length_append]
      omega

/-- What the reader reports about a member. -/
def zipEntry (member : Text × Bytes) (record : CentralRecord) : Zip.Entry where
  name := member.1
  data := member.2
  crc := record.crc
  compressedSize := record.fileSize
  uncompressedSize := record.fileSize
  localOffset := record.localOffset

/-- The reader recovers the members from the central directory. -/
theorem readDirectory_of_located {archive : Bytes} {members : List (Text × Bytes)}
    {records : List CentralRecord} {directory : Bytes}
    (hlocated : List.Forall₂ (Located archive) members records)
    (hdirectory : IsDirectory records directory) :
    Zip.readDirectory archive records.length directory =
      some (List.zipWith zipEntry members records) := by
  induction hlocated generalizing directory with
  | nil =>
    cases hdirectory
    rfl
  | @cons member record members records hrecord _ ih =>
    cases hdirectory with
    | @cons _ _ header tail hheader htail =>
      have hname : decodeUtf8 record.encodedName = some member.1 := by
        rw [hrecord.encodedName_eq, decodeUtf8_encodeUtf8]
      have hunpack := unpack_append hheader (record.encodedName ++ tail)
      rw [centralHeader] at hunpack
      simp only [List.length_cons, Zip.readDirectory, hunpack, testBit_zipFlags_11, and_self,
        ite_true, Nat.add_zero, List.take_left, List.drop_left, hname, hrecord.readData, ih htail,
        Option.bind_eq_bind, Option.bind_some, List.zipWith_cons_cons, Option.pure_def, zipEntry]

/-- The reader finds the central directory through the end record. -/
theorem read_of_endRecord {archive before directory packed : Bytes} {count offset size : Nat}
    (harchive : archive = before ++ (directory ++ packed)) (hbefore : before.length = offset)
    (hsize : directory.length = size)
    (hpacked : pack Zip.endRecord [0x06054B50, 0, 0, count, count, size, offset, 0] =
      some packed) :
    Zip.read archive = Zip.readDirectory archive count directory := by
  have hlength : packed.length = calcsize Zip.endRecord := length_of_pack hpacked
  have hstart : archive.length - calcsize Zip.endRecord = offset + size := by
    rw [harchive]
    simp only [List.length_append]
    omega
  have hend : archive.drop (offset + size) = packed := by
    rw [harchive, ← List.append_assoc]
    apply List.drop_left'
    rw [List.length_append, hbefore, hsize]
  have hdirectory : (archive.drop offset).take size = directory := by
    rw [harchive, List.drop_left' hbefore]
    exact List.take_left' hsize
  have hunpack := unpack_append hpacked []
  rw [List.append_nil] at hunpack
  generalize hsum : offset + size = start at hstart hend
  have hagree : True ∧ True ∧ True ∧ True ∧ True ∧ True ∧ offset + size = start :=
    ⟨trivial, trivial, trivial, trivial, trivial, trivial, hsum⟩
  rw [← hdirectory]
  unfold Zip.read
  simp only [hstart, hend, hunpack]
  rw [ite_cond_eq_true _ _ (eq_true hagree)]

/-- What the archive records about a member is true of it. -/
structure EntryCorrect (archive : Bytes) (entry : Zip.Entry) : Prop where
  crc_eq : entry.crc = (crc32 entry.data 0).toNat
  compressedSize_eq : entry.compressedSize = entry.data.length
  uncompressedSize_eq : entry.uncompressedSize = entry.data.length
  localHeader_at : Zip.readData archive (encodeUtf8 entry.name) entry.crc entry.compressedSize
    entry.localOffset = some entry.data

private theorem zipEntries_correct {archive : Bytes} {members : List (Text × Bytes)}
    {records : List CentralRecord} (h : List.Forall₂ (Located archive) members records) :
    (List.zipWith zipEntry members records).map (·.name) = members.map Prod.fst ∧
      (List.zipWith zipEntry members records).map (·.data) = members.map Prod.snd ∧
      ∀ entry ∈ List.zipWith zipEntry members records, EntryCorrect archive entry := by
  induction h with
  | nil => exact ⟨rfl, rfl, fun _ h => absurd h List.not_mem_nil⟩
  | @cons member record members records hrecord _ ih =>
    obtain ⟨hnames, hdata, hcorrect⟩ := ih
    simp only [List.zipWith_cons_cons, List.map_cons, hnames, hdata, List.mem_cons]
    refine ⟨rfl, rfl, ?_⟩
    rintro entry (rfl | hentry)
    · refine ⟨hrecord.crc_eq, hrecord.fileSize_eq, hrecord.fileSize_eq, ?_⟩
      have hread := hrecord.readData
      rwa [hrecord.encodedName_eq] at hread
    · exact hcorrect entry hentry

private theorem exists_located {archive : Bytes} {members : List (Text × Bytes)}
    {records : List CentralRecord} (h : List.Forall₂ (Located archive) members records) :
    ∀ r ∈ records, ∃ m ∈ members, Located archive m r := by
  induction h with
  | nil => exact fun _ h => absurd h List.not_mem_nil
  | cons hrecord _ ih =>
    intro r hr
    rcases List.mem_cons.mp hr with rfl | hr
    · exact ⟨_, List.mem_cons_self, hrecord⟩
    · obtain ⟨m, hm, hlocated⟩ := ih r hr
      exact ⟨m, List.mem_cons_of_mem _ hm, hlocated⟩

/-- The local records take little more than the objects when the names are short. -/
theorem sum_localSize_le {members : List (Text × Bytes)}
    (h : ∀ m ∈ members, (encodeUtf8 m.1).length ≤ 1624) :
    (members.map localSize).sum ≤
      (members.map fun m => m.2.length).sum + members.length * 1670 := by
  induction members with
  | nil => exact Nat.le_refl _
  | cons m members ih =>
    have hm := h m List.mem_cons_self
    have hrest := ih fun m' hm' => h m' (List.mem_cons_of_mem _ hm')
    simp only [List.map_cons, List.sum_cons, List.length_cons, localSize]
    omega

private theorem archiveMembers_zip (storage : ObjectStorage) {keys names : List Text}
    (h : keys.length = names.length) :
    (archiveMembers storage (keys.zip names)).map Prod.fst = names ∧
      (archiveMembers storage (keys.zip names)).map Prod.snd = keys.map storage.object := by
  simp only [archiveMembers, List.map_map]
  constructor
  · exact List.map_snd_zip (Nat.le_of_eq h.symm)
  · have hkeys := List.map_fst_zip (Nat.le_of_eq h)
    calc (keys.zip names).map (storage.object ∘ Prod.fst)
        = ((keys.zip names).map Prod.fst).map storage.object := List.map_map.symm
      _ = keys.map storage.object := by rw [hkeys]

/-- The members of an archive are as many as its entries, and as large as their objects. -/
private theorem length_map_archiveMembers (storage : ObjectStorage)
    (entries : List (Text × Text)) :
    (archiveMembers storage ((entries.map Prod.fst).zip
      (uniqueDownloadNames (entries.map Prod.snd)))).map (fun m => m.2.length) =
        entries.map fun e => (storage.object e.1).length := by
  have hlengths : (entries.map Prod.fst).length =
      (uniqueDownloadNames (entries.map Prod.snd)).length := by
    simp only [List.length_map, length_uniqueDownloadNames]
  calc (archiveMembers storage _).map (fun m => m.2.length)
      = ((archiveMembers storage _).map Prod.snd).map List.length := List.map_map.symm
    _ = ((entries.map Prod.fst).map storage.object).map List.length := by
      rw [(archiveMembers_zip storage hlengths).2]
    _ = entries.map fun e => (storage.object e.1).length := by
      simp only [List.map_map]
      rfl

private theorem length_encodeUtf8_of_mem_uniqueDownloadNames {fileNames : List Text}
    (hcount : fileNames.length ≤ 65535) :
    ∀ name ∈ uniqueDownloadNames fileNames, (encodeUtf8 name).length ≤ 1624 := by
  intro name hname
  have hshort := length_le_of_mem_uniqueDownloadNames hcount name hname
  have hbytes := length_encodeUtf8_le name
  omega

/-- The stream of up to 65535 entries whose objects total at most 3.5 GB ends without an exception
(so no value was too large for its field), and a reader recovers the entries in order: the names
are the download names, no two of them equal up to case, the data are the objects, and the sizes,
checksums and offsets recorded are correct. -/
theorem read_streamPhotoZip (storage : ObjectStorage) (clock : Nat → DateTime)
    (entries : List (Text × Text)) (hcount : entries.length ≤ 65535)
    (hsize : (entries.map fun e => (storage.object e.1).length).sum ≤ 3500000000) :
    ∃ s found,
      (streamPhotoZip storage clock entries).run ZipStream.start = (.ok (), s) ∧
      Zip.read s.bytes = some found ∧
      found.map (·.name) = uniqueDownloadNames (entries.map Prod.snd) ∧
      ((uniqueDownloadNames (entries.map Prod.snd)).map casefold).Nodup ∧
      found.map (·.data) = entries.map (fun e => storage.object e.1) ∧
      ∀ entry ∈ found, EntryCorrect s.bytes entry := by
  let keys := entries.map Prod.fst
  let names := uniqueDownloadNames (entries.map Prod.snd)
  let members := archiveMembers storage (keys.zip names)
  have hlengths : keys.length = names.length := by
    simp only [keys, names, List.length_map, length_uniqueDownloadNames]
  obtain ⟨hmemberNames, hmemberData⟩ := archiveMembers_zip storage hlengths
  have hsizes : members.map (fun m => m.2.length) =
      entries.map fun e => (storage.object e.1).length := length_map_archiveMembers storage entries
  have hmembers : members.length = entries.length := by
    simpa only [List.length_map] using congrArg List.length hsizes
  have hnameLength : ∀ name ∈ names, (encodeUtf8 name).length ≤ 1624 :=
    length_encodeUtf8_of_mem_uniqueDownloadNames (by rwa [List.length_map])
  have hmemberLength : ∀ m ∈ members, (encodeUtf8 m.1).length ≤ 1624 := by
    intro m hm
    apply hnameLength
    rw [← hmemberNames]
    exact List.mem_map_of_mem hm
  have hdata : (members.map fun m => m.2.length).sum ≤ 3500000000 := by rwa [hsizes]
  have hlocal := sum_localSize_le hmemberLength
  have hmax : zip32Max = 4294967295 := rfl
  rw [hmembers] at hlocal
  have hstart : ZipStream.start.offset = 0 := rfl
  obtain ⟨t, hrun, harchived, hoffset⟩ := archived_start.streamEntries storage clock 0
    (fun pair hpair => by
      have hshort := hnameLength pair.2 (List.of_mem_zip hpair).2
      omega)
    (show ZipStream.start.offset + (members.map localSize).sum ≤ zip32Max by omega)
  rw [List.nil_append] at harchived
  change Archived t members at harchived
  change t.offset = ZipStream.start.offset + (members.map localSize).sum at hoffset
  have hfits : ∀ r ∈ t.centralRecords, Fits Zip.centralHeader (centralHeader r) := by
    intro r hr
    obtain ⟨m, -, hm⟩ := exists_located harchived.located r hr
    exact hm.fits
  obtain ⟨u, directory, hrun', hdirectory, hbytes, hoffset'⟩ := run_streamDirectory hfits t
  have hrecords : t.centralRecords.length = entries.length := by
    rw [← harchived.located.length_eq, hmembers]
  have hdirectoryLength := hdirectory.length_le fun r hr => by
    obtain ⟨m, hm, hlocated⟩ := exists_located harchived.located r hr
    rw [hlocated.encodedName_eq]
    exact hmemberLength m hm
  rw [hrecords] at hdirectoryLength
  obtain ⟨packed, hpacked⟩ := (fits_endRecord (show t.centralRecords.length < 65536 by omega)
    (show u.offset - t.offset < 4294967296 by omega)
    (show t.offset < 4294967296 by omega)).exists_pack
  have hpackedLength : packed.length = 22 := length_of_pack hpacked
  let final : ZipStream := { u with yielded := u.yielded ++ [packed] }
  have hfinal : final.bytes = t.bytes ++ (directory ++ packed) := by
    have hu : u.yielded.flatten = t.bytes ++ directory := hbytes
    simp only [final, ZipStream.bytes, List.flatten_append, List.flatten_cons, List.flatten_nil,
      List.append_nil, hu]
    rw [List.append_assoc]
  have hlocated : List.Forall₂ (Located final.bytes) members t.centralRecords := by
    rw [hfinal]
    exact harchived.located.imp fun _ _ hr => hr.append _
  obtain ⟨hnames, hfound, hcorrect⟩ := zipEntries_correct hlocated
  refine ⟨final, List.zipWith zipEntry members t.centralRecords, ?_, ?_, ?_,
    nodup_uniqueDownloadNames _, ?_, hcorrect⟩
  · rw [streamPhotoZip]
    refine (Program.run_bind_ok hrun).trans ?_
    rw [Program.run_gets_bind, Program.run_gets_bind, Program.run_bind_ok hrun',
      Program.run_gets_bind]
    refine (Program.run_bind_ok (run_structPack hpacked _)).trans ?_
    rfl
  · have hsize : u.offset - t.offset = directory.length := by omega
    rw [hsize] at hpacked
    rw [read_of_endRecord hfinal harchived.offset_eq.symm rfl hpacked]
    exact readDirectory_of_located hlocated hdirectory
  · rw [hnames]
    exact hmemberNames
  · rw [hfound, hmemberData, List.map_map]
    rfl

/-- An object of three bytes that is read in two chunks. -/
private def threeBytes (a b c : UInt8) : Body [a, b, c] where
  chunks := [[a, b], [c]]
  flatten_chunks := rfl
  chunk_ne_nil := by simp
  length_chunk_le := by simp [zipChunkSize]

/-- A storage whose objects have three bytes. -/
private def threeByteStorage : ObjectStorage where
  object objectKey := [UInt8.ofNat objectKey.length, 2, 3]
  getObjectBody _ objectKey := threeBytes (UInt8.ofNat objectKey.length) 2 3

private def november : DateTime :=
  ⟨2026, 11, 19, 12, 30, 59, by decide, by decide, by decide, by decide, by decide⟩

/-- Two photos with the same name reach the client under two names. -/
theorem read_two_photos :
    ∃ s found,
      (streamPhotoZip threeByteStorage (fun _ => november)
        [("a".toList, "race/photo.jpg".toList), ("bb".toList, "photo.jpg".toList)]).run
          ZipStream.start = (.ok (), s) ∧
      Zip.read s.bytes = some found ∧
      found.map (·.name) = ["photo.jpg".toList, "photo-2.jpg".toList] ∧
      found.map (·.data) = [[1, 2, 3], [2, 2, 3]] := by
  obtain ⟨s, found, hrun, hread, hnames, -, hdata, -⟩ :=
    read_streamPhotoZip threeByteStorage (fun _ => november)
      [("a".toList, "race/photo.jpg".toList), ("bb".toList, "photo.jpg".toList)]
      (by decide) (by decide)
  refine ⟨s, found, hrun, hread, ?_, hdata⟩
  rw [hnames]
  decide +kernel

end RaceFrame
