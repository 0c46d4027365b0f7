import ZFleet.Package.ArchiveExtraction

/-!
What vouches for the bytes of an entry: the local header repeats the CRC-32, the method and
the sizes of the directory, and the bytes are the data of the entry, of the recorded size.
The CRC-32 of the bytes is not computed.
-/
namespace PackageArchive
open ByteReader Package
open FileTrees (Path)

/-- The bytes that an entry stands for. -/
structure Recorded (inflate : Bytes → Bytes × Except String Unit) (archive : ArchiveFile)
    (record : ArchiveRecord) (contents : Bytes) : Prop where
  size : contents.length = record.uncompressedSize
  data : ∃ info dataOffset, DataAt archive record info dataOffset ∧
    (record.compressionMethod = kStoredCompressionMethod ∧
        contents = (archive.contents.range dataOffset record.compressedSize).bytes ∨
      record.compressionMethod = kDeflatedCompressionMethod ∧
        inflate (archive.contents.range dataOffset record.compressedSize).bytes =
          (contents, .ok ()))

theorem checkWritten_ok {entry : ArchiveRecord} {message : String} {delivery : Delivery}
    {contents : Bytes} : checkWritten entry message delivery = (contents, .ok ()) ↔
      delivery = (contents, .ok ()) ∧ contents.length = entry.uncompressedSize := by
  obtain ⟨delivered, ending⟩ := delivery
  unfold checkWritten
  cases ending with
  | error fault => simp
  | ok done =>
    simp only
    split
    · rename_i other
      constructor
      · intro same
        cases same
      · rintro ⟨same, length⟩
        cases same
        exact absurd length other
    · rename_i length
      constructor
      · intro same
        cases same
        exact ⟨rfl, not_not.mp length⟩
      · rintro ⟨same, _⟩
        exact same

theorem inflateDeflatedEntry_ok {inflate : Bytes → Bytes × Except String Unit}
    {archive : ArchiveFile} {entry : ArchiveRecord} {dataOffset : Nat} {contents : Bytes} :
    inflateDeflatedEntry inflate archive entry dataOffset = (contents, .ok ()) ↔
      inflate (archive.contents.range dataOffset entry.compressedSize).bytes =
        (contents, .ok ()) ∧ contents.length = entry.uncompressedSize := by
  unfold inflateDeflatedEntry
  simp only
  rw [checkWritten_ok]
  refine and_congr_left fun _ => ?_
  cases inflate (archive.contents.range dataOffset entry.compressedSize).bytes with
  | mk delivered ending =>
    cases ending with
    | error message => simp [ByteReader.throw]
    | ok done => simp

section Entry

variable {inflate : Bytes → Bytes × Except String Unit} {archive : ArchiveFile}
  {record : ArchiveRecord} (start : record.localHeaderOffset < 2 ^ 32)
  (size : record.compressedSize < 2 ^ 32)
include start size

/-- A header that agrees is let through. -/
theorem dataAt_found {info : LocalFileInfo} {dataOffset : Nat}
    (data : DataAt archive record info dataOffset) :
    readLocalFileInfo archive record = .ok dataOffset := by
  have whole := data.header.length
  have read := (exact_readLocalHeader record.path).complete
    (archive.contents.range record.localHeaderOffset 30) 0 info _ [] (Nat.zero_le _) data.header
    (by rw [List.drop_zero, List.append_nil])
  rw [readLocalFileInfo_header whole, read]
  simp only
  rw [checkLocalHeader_passes data.agrees]
  simp only
  obtain ⟨offset_sum, end_sum⟩ := data_range info start size
  rw [end_sum, offset_sum, ← data.offset, placed, if_neg (not_not.mpr data.name_whole),
    if_neg (not_not.mpr data.name.symm), if_neg (Nat.not_lt.mpr data.inside)]

theorem transfer_recorded (contents : Bytes) :
    transferArchiveEntryData inflate archive record = (contents, .ok ()) ↔
      Recorded inflate archive record contents := by
  constructor
  · intro transferred
    rcases @readLocalFileInfo_cases archive record start size with
      ⟨message, failed⟩ | ⟨info, dataOffset, found, data⟩
    · unfold transferArchiveEntryData at transferred
      rw [failed] at transferred
      cases transferred
    · by_cases stored : record.compressionMethod = kStoredCompressionMethod
      · rw [transfer_stored inflate found stored data.inside, checkWritten_ok] at transferred
        obtain ⟨same, length⟩ := transferred
        cases same
        exact ⟨length, info, dataOffset, data, .inl ⟨stored, rfl⟩⟩
      · unfold transferArchiveEntryData at transferred
        rw [found] at transferred
        simp only at transferred
        rw [if_neg stored] at transferred
        split at transferred
        · rename_i deflated
          obtain ⟨inflated, length⟩ := inflateDeflatedEntry_ok.mp transferred
          exact ⟨length, info, dataOffset, data, .inr ⟨deflated, inflated⟩⟩
        · cases transferred
  · rintro ⟨length, info, dataOffset, data, ⟨stored, rfl⟩ | ⟨deflated, inflated⟩⟩
    · rw [transfer_stored inflate (dataAt_found start size data) stored data.inside,
        checkWritten_ok]
      exact ⟨rfl, length⟩
    · unfold transferArchiveEntryData
      rw [dataAt_found start size data]
      simp only
      rw [if_neg (by rw [deflated]; decide), if_pos deflated]
      exact inflateDeflatedEntry_ok.mpr ⟨inflated, length⟩

theorem readArchiveEntryBytes_recorded (contents : Bytes) :
    readArchiveEntryBytes inflate archive record = .ok contents ↔
      Recorded inflate archive record contents := by
  unfold readArchiveEntryBytes
  constructor
  · intro read
    cases transferred : transferArchiveEntryData inflate archive record with
    | mk delivered ending =>
      rw [transferred] at read
      cases ending with
      | error fault => cases read
      | ok done =>
        simp only at read
        split at read
        · cases read
        · cases read
          exact (transfer_recorded start size _).mp transferred
  · intro recorded
    rw [(transfer_recorded start size contents).mpr recorded]
    simp only
    rw [if_neg (not_not.mpr recorded.size)]

end Entry

theorem parsed_small {archive : ArchiveFile} {records : List ArchiveRecord}
    (parsed : parseCentralDirectory archive = .ok records) {record : ArchiveRecord}
    (inside : record ∈ records) :
    record.localHeaderOffset < 2 ^ 32 ∧ record.compressedSize < 2 ^ 32 := by
  obtain ⟨header, rfl, _⟩ := (parsed_wellFormed parsed).sound record inside
  exact header.record_small

/-- ReadArchiveFile returns the bytes that the entry stands for, and nothing else. -/
theorem readArchiveFile_recorded (inflate : Bytes → Bytes × Except String Unit)
    (archive : ArchiveFile) (path : String) (contents : Bytes) :
    readArchiveFile inflate archive path = .ok contents ↔
      checkArchivePath archive.path = .ok () ∧ isSafeRelativeArchivePath path = true ∧
      ∃ records record, parseCentralDirectory archive = .ok records ∧
        findArchiveRecord records path = .ok record ∧
        Recorded inflate archive record contents := by
  have goes_on : ∀ (α : Type) (a : α) (next : α → Except Fault Bytes),
      (Except.ok a >>= next) = next a := fun _ _ _ => rfl
  have stops : ∀ (α : Type) (fault : Fault) (next : α → Except Fault Bytes),
      ((Except.error fault : Except Fault α) >>= next) = .error fault := fun _ _ _ => rfl
  unfold readArchiveFile
  cases checkArchivePath archive.path with
  | error fault =>
    rw [stops]
    simp
  | ok done =>
    rw [goes_on]
    cases safe : isSafeRelativeArchivePath path with
    | false => simp [ByteReader.throw]
    | true =>
      simp only [Bool.not_true, Bool.false_eq_true, if_false, true_and]
      cases parsed : parseCentralDirectory archive with
      | error fault =>
        rw [stops]
        simp
      | ok records =>
        rw [goes_on]
        cases found : findArchiveRecord records path with
        | error fault =>
          rw [stops]
          simp [found]
        | ok record =>
          rw [goes_on]
          have inside : record ∈ records := by
            rcases findArchiveRecord_cases records path with
              ⟨message, failed⟩ | ⟨record', inside, _, found'⟩
            · rw [failed] at found
              cases found
            · rw [found'] at found
              cases found
              exact inside
          obtain ⟨start, size⟩ := parsed_small parsed inside
          rw [readArchiveEntryBytes_recorded start size]
          simp [found]

/-! What is extracted -/

section Extraction

variable {inflate : Bytes → Bytes × Except String Unit} {archivePath : String}
  {source output : Path} {record : ArchiveRecord} {tree : FileTrees.Tree}

/-- A file that was opened takes what is delivered, however the transfer ends. -/
theorem deliver_ok {archive : ArchiveFile} {tree : FileTrees.Tree}
    (there : (tree.regular (target output record)).isSome) :
    (deliver inflate output archive record tree).2 = .ok () ↔
      (transferArchiveEntryData inflate archive record).2 = .ok () := by
  obtain ⟨written, wrote⟩ := FileTrees.Tree.writeFile_writable (file_writable there)
    (textOf (transferArchiveEntryData inflate archive record).1)
  have files := FileTrees.Tree.put_regular wrote (target output record)
  rw [if_pos rfl] at files
  obtain ⟨marked, marks⟩ : ∃ marked, written.setExecutable (target output record) true =
      .ok marked := by
    unfold FileTrees.Tree.setExecutable
    rw [files]
    exact FileTrees.Tree.put_writable (file_writable (by rw [files]; rfl)) _
  unfold deliver
  simp only
  rw [wrote]
  simp only
  cases (transferArchiveEntryData inflate archive record).2 with
  | error fault => simp
  | ok done =>
    simp only [iff_true]
    split
    · rw [marks]
    · rfl

theorem transfer_ends (start : record.localHeaderOffset < 2 ^ 32)
    (size : record.compressedSize < 2 ^ 32) (archive : ArchiveFile) :
    (transferArchiveEntryData inflate archive record).2 = .ok () ↔
      ∃ contents, Recorded inflate archive record contents := by
  constructor
  · intro ended
    exact ⟨_, (transfer_recorded start size _).mp (Prod.ext rfl ended)⟩
  · rintro ⟨contents, recorded⟩
    rw [(transfer_recorded start size contents).mpr recorded]

/-- A record whose target and archive were opened is extracted exactly if it stands for
    bytes, and these are what its file holds then. -/
theorem extractArchiveEntry_recorded {archive : ArchiveFile}
    (clean : CleanParts record.path.toList) (start : record.localHeaderOffset < 2 ^ 32)
    (size : record.compressedSize < 2 ^ 32) (opens : (openTarget output record tree).2 = .ok ())
    (found : openArchive archivePath source (openTarget output record tree).1 = some archive) :
    ((extractArchiveEntry inflate archivePath source output record tree).2 = .ok () ↔
      ∃ contents, Recorded inflate archive record contents) ∧
    ∀ contents, Recorded inflate archive record contents → ∃ executable,
      (extractArchiveEntry inflate archivePath source output record tree).1.regular
        (target output record) = some (textOf contents, executable) := by
  have opened : openTarget output record tree = ((openTarget output record tree).1, .ok ()) :=
    Prod.ext rfl opens
  have entry : extractArchiveEntry inflate archivePath source output record tree =
      deliver inflate output archive record (openTarget output record tree).1 := by
    unfold extractArchiveEntry
    rw [opened]
    simp only
    rw [found]
  obtain ⟨executable, file⟩ := (openTarget_opened clean opens).file
  have ends := (deliver_ok (by rw [file]; rfl)).trans
    (@transfer_ends inflate record start size archive)
  rw [entry]
  refine ⟨ends, ?_⟩
  intro contents recorded
  obtain ⟨_, executable', holds⟩ :=
    (deliver_frame clean).2 (ends.mpr ⟨contents, recorded⟩)
  rw [(transfer_recorded start size contents).mpr recorded] at holds
  exact ⟨executable', holds⟩

end Extraction

/-- What is delivered of an entry, by reading and by extraction. The bytes of the entry are
    compared with its recorded size, its CRC-32 with the one of the local header. -/
theorem delivered_recorded (inflate : Bytes → Bytes × Except String Unit) :
    (∀ (archive : ArchiveFile) (path : String) (contents : Bytes),
      readArchiveFile inflate archive path = .ok contents ↔
        checkArchivePath archive.path = .ok () ∧ isSafeRelativeArchivePath path = true ∧
        ∃ records record, parseCentralDirectory archive = .ok records ∧
          findArchiveRecord records path = .ok record ∧
          Recorded inflate archive record contents) ∧
    (∀ (archivePath : String) (source output : Path) (force : Bool) (tree : FileTrees.Tree)
      (front : List ArchiveRecord) (record : ArchiveRecord) (made : FileTrees.Tree)
      (archive : ArchiveFile),
      Reached inflate archivePath source output force tree front record made →
      (openTarget output record made).2 = .ok () →
      openArchive archivePath source (openTarget output record made).1 = some archive →
      ((extractArchiveEntry inflate archivePath source output record made).2 = .ok () ↔
        ∃ contents, Recorded inflate archive record contents) ∧
      ∀ contents, Recorded inflate archive record contents → ∃ executable,
        (extractArchiveEntry inflate archivePath source output record made).1.regular
          (target output record) = some (textOf contents, executable)) := by
  constructor
  · exact readArchiveFile_recorded inflate
  · intro archivePath source output force tree front record made archive reached opens found
    obtain ⟨archive', rest, accepted⟩ := reached.split
    have inside : record ∈ front ++ record :: rest := by simp
    obtain ⟨start, size⟩ := parsed_small accepted.parsed inside
    exact extractArchiveEntry_recorded (parsed_clean accepted.parsed record inside) start size
      opens found

/-- The first of the two records that are read from the shelf is extracted as it is. -/
theorem delivered_recorded_twin : ∃ prepared executable,
    (extractArchiveEntry (fun bytes => (bytes, .ok ())) "p.zip" ["p.zip"] ["out"] firstTwin
      prepared).2 = .ok () ∧
    (extractArchiveEntry (fun bytes => (bytes, .ok ())) "p.zip" ["p.zip"] ["out"] firstTwin
      prepared).1.regular (target ["out"] firstTwin) = some (textOf [120], executable) := by
  obtain ⟨prepared, ready, opens, found⟩ := firstTwin_opened
  have reached : Reached (fun bytes => (bytes, .ok ())) "p.zip" ["p.zip"] ["out"] false shelf []
      firstTwin prepared :=
    ⟨⟨twinArchive, [secondTwin], twins_accepted⟩, prepared, ready, rfl⟩
  obtain ⟨start, size⟩ := @parsed_small twinArchive _ twins_parsed firstTwin (by simp)
  have recorded := (transfer_recorded start size [120]).mp
    (twin_transfer fun bytes => (bytes, .ok ()))
  obtain ⟨ends, holds⟩ := (delivered_recorded fun bytes => (bytes, .ok ())).2 _ _ _ _ _ _ _ _ _
    reached opens found
  obtain ⟨executable, there⟩ := holds _ recorded
  exact ⟨prepared, executable, ends.mpr ⟨_, recorded⟩, there⟩

/-! The checksum that zlib's crc32 computes, bit by bit -/

def crcBit (crc : UInt32) : UInt32 :=
  if crc &&& 1 = 1 then (crc >>> 1) ^^^ 0xedb88320 else crc >>> 1

def crcByte (crc : UInt32) (b : UInt8) : UInt32 := crcBit^[8] (crc ^^^ b.toUInt32)

def crc32 (data : Bytes) : UInt32 := data.foldl crcByte 0xffffffff ^^^ 0xffffffff

example : crc32 [49, 50, 51, 52, 53, 54, 55, 56, 57] = 0xcbf43926 := by decide +kernel

/-- What is read of an entry has the CRC-32 that is recorded for it. -/
def CrcIntegrity (inflate : Bytes → Bytes × Except String Unit) (archive : ArchiveFile) : Prop :=
  ∀ path records record contents, parseCentralDirectory archive = .ok records →
    findArchiveRecord records path = .ok record →
    readArchiveFile inflate archive path = .ok contents → crc32 contents = record.crc32

/-- The byte of the entry was an x. -/
def alteredArchive : ArchiveFile where
  path := "p.zip"
  contents := ⟨oneByteData [97] 0x8cdc1683 121 ++ oneByteEntry [97] 0x8cdc1683 0 ++
    directoryEnd 1 47 32, by decide +kernel⟩

def alteredRecord : ArchiveRecord := oneByteRecord "a" 0x8cdc1683 0

example : crc32 [120] = 0x8cdc1683 := by decide

theorem altered_parsed : parseCentralDirectory alteredArchive = .ok [alteredRecord] := by
  decide

theorem altered_delivered : ¬ CrcIntegrity (fun bytes => (bytes, .ok ())) alteredArchive := by
  intro integrity
  have found : readLocalFileInfo alteredArchive alteredRecord = .ok 31 := by decide
  obtain ⟨start, size⟩ := parsed_small altered_parsed (List.mem_singleton.mpr rfl)
  have transferred : transferArchiveEntryData (fun bytes => (bytes, .ok ())) alteredArchive
      alteredRecord = ([121], .ok ()) := by
    rw [transfer_stored _ found rfl (by decide)]
    decide
  have read : readArchiveFile (fun bytes => (bytes, .ok ())) alteredArchive "a" = .ok [121] :=
    (readArchiveFile_recorded _ _ _ _).mpr ⟨by decide, by decide, _, _,
      altered_parsed, by decide, (transfer_recorded start size _).mp transferred⟩
  have same := integrity "a" _ alteredRecord _ altered_parsed (by decide) read
  exact absurd same (by decide)

end PackageArchive
