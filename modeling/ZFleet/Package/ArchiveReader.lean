import ZFleet.Foundations.ByteReader
import ZFleet.Package.ManifestFiles

/-!
The reader of package archives, ZIP files of the 32-bit format: the end record is searched
for from the end of the file, the central directory is read into records, and the data of
an entry is found through its local header, which has to agree with its record.
-/
namespace PackageArchive
open ByteReader Package

def kBufferSize : Nat := 64 * 1024

def kLocalFileHeaderSignature : UInt32 := 0x04034b50
def kCentralDirectorySignature : UInt32 := 0x02014b50
def kEndOfCentralDirectorySignature : UInt32 := 0x06054b50
def kStoredCompressionMethod : UInt16 := 0
def kDeflatedCompressionMethod : UInt16 := 8
def kUnixOsCode : UInt16 := 3
def kUnixFileTypeMask : UInt32 := 0xf000
def kUnixRegularFileType : UInt32 := 0x8000
def kUnixSymlinkFileType : UInt32 := 0xa000

/-- The largest value of a field of four bytes, which marks the 64-bit format. -/
def maxU32 : UInt32 := 0xffffffff

structure ArchiveRecord where
  path : String
  executable : Bool
  compressedSize : Nat
  uncompressedSize : Nat
  localHeaderOffset : Nat
  crc32 : UInt32
  compressionMethod : UInt16
  generalPurposeBitFlag : UInt16
  versionMadeBy : UInt16
  deriving DecidableEq, Repr

/-- An archive on disk, with the path that the messages name. -/
structure ArchiveFile where
  path : String
  contents : Buffer

def ArchiveFile.size (archive : ArchiveFile) : Nat := archive.contents.bytes.length

def isSafeRelativeArchivePath (value : String) : Bool :=
  let chars := value.toList
  if chars = [] then false
  else if chars.head? = some '/' ∨ chars.head? = some '\\' ∨ chars.getLast? = some '/' ∨
      chars.getLast? = some '\\' ∨ '\\' ∈ chars then false
  else if hasWindowsDrivePrefix chars then false
  else (chars.splitOn '/').all fun part => part ≠ [] && !isDots part

/-- A range of the file; a stream that ends before is an exception. -/
def readFileRange (archive : ArchiveFile) (offset size : Nat) : Except Fault Buffer :=
  let range := archive.contents.range offset size
  if range.bytes.length ≠ size then throw ("failed to read file range: " ++ archive.path)
  else .ok range

/-! The end record -/

structure EndOfCentralDirectory where
  centralDirectoryOffset : Nat
  centralDirectorySize : Nat
  entryCount : Nat
  deriving DecidableEq, Repr

/-- The fields behind the signature. -/
structure EndRecord where
  diskNumber : UInt16
  centralDirectoryDisk : UInt16
  entriesOnDisk : UInt16
  totalEntries : UInt16
  centralDirectorySize : UInt32
  centralDirectoryOffset : UInt32
  commentLength : UInt16
  deriving DecidableEq, Repr

def readEndRecord (tail : Bytes) (offset : Nat) : Except Fault EndRecord := do
  let diskNumber ← u16At tail offset
  let centralDirectoryDisk ← u16At tail (offset + 2)
  let entriesOnDisk ← u16At tail (offset + 4)
  let totalEntries ← u16At tail (offset + 6)
  let centralDirectorySize ← u32At tail (offset + 8)
  let centralDirectoryOffset ← u32At tail (offset + 12)
  let commentLength ← u16At tail (offset + 16)
  pure { diskNumber, centralDirectoryDisk, entriesOnDisk, totalEntries, centralDirectorySize,
         centralDirectoryOffset, commentLength }

def checkEndRecord (archivePath : String) (record : EndRecord) :
    Except Fault EndOfCentralDirectory :=
  if record.diskNumber ≠ 0 ∨ record.centralDirectoryDisk ≠ 0 ∨
      record.entriesOnDisk ≠ record.totalEntries then
    throw ("multi-disk ZIP archives are not supported: " ++ archivePath)
  else if record.centralDirectorySize = maxU32 ∨ record.centralDirectoryOffset = maxU32 then
    throw ("ZIP64 archives are not supported: " ++ archivePath)
  else .ok {
    centralDirectoryOffset := record.centralDirectoryOffset.toNat
    centralDirectorySize := record.centralDirectorySize.toNat
    entryCount := record.totalEntries.toNat }

/-- Look at the places before `index`, the last one first. -/
def searchEndRecord (archivePath : String) (tail : Bytes) :
    Nat → Except Fault EndOfCentralDirectory
  | 0 => throw ("archive is missing the EOCD record: " ++ archivePath)
  | index + 1 => do
    let signature ← u32At tail index
    if signature ≠ kEndOfCentralDirectorySignature then searchEndRecord archivePath tail index
    else
      let record ← readEndRecord tail (index + 4)
      if index + 22 + record.commentLength.toNat ≠ tail.length then
        searchEndRecord archivePath tail index
      else checkEndRecord archivePath record

def locateEndOfCentralDirectory (archive : ArchiveFile) : Except Fault EndOfCentralDirectory :=
  if archive.size < 22 then throw ("archive is too small to be a ZIP file: " ++ archive.path)
  else do
    let tailSize := min archive.size (22 + 0xffff)
    let tail ← readFileRange archive (sub64 archive.size tailSize) tailSize
    if tail.bytes.length < 22 then
      throw ("archive is too small to contain EOCD: " ++ archive.path)
    else searchEndRecord archive.path tail.bytes (tail.bytes.length - 22 + 1)

/-! The central directory -/

/-- The fields of an entry of the directory that are read. -/
structure CentralHeader where
  versionMadeBy : UInt16
  versionNeeded : UInt16
  flags : UInt16
  compressionMethod : UInt16
  crc32 : UInt32
  compressedSize : UInt32
  uncompressedSize : UInt32
  nameLength : UInt16
  extraLength : UInt16
  commentLength : UInt16
  externalAttributes : UInt32
  localHeaderOffset : UInt32
  path : String
  deriving DecidableEq, Repr

def readCentralHeader (archivePath : String) : Reader CentralHeader :=
  ensure 46 ("central directory entry is truncated: " ++ archivePath) >>= fun _ => do
    let signature ← readU32
    check (signature = kCentralDirectorySignature)
      ("central directory signature mismatch: " ++ archivePath)
    let versionMadeBy ← readU16
    let versionNeeded ← readU16
    let flags ← readU16
    let compressionMethod ← readU16
    skip 4
    let crc32 ← readU32
    let compressedSize ← readU32
    let uncompressedSize ← readU32
    let nameLength ← readU16
    let extraLength ← readU16
    let commentLength ← readU16
    skip 4
    let externalAttributes ← readU32
    let localHeaderOffset ← readU32
    let path ← readString nameLength.toNat
    skip extraLength.toNat
    skip commentLength.toNat
    pure { versionMadeBy, versionNeeded, flags, compressionMethod, crc32, compressedSize,
           uncompressedSize, nameLength, extraLength, commentLength, externalAttributes,
           localHeaderOffset, path }

def CentralHeader.madeOnUnix (header : CentralHeader) : Bool := header.versionMadeBy >>> 8 = kUnixOsCode

def CentralHeader.unixMode (header : CentralHeader) : UInt32 := header.externalAttributes >>> 16

def CentralHeader.record (header : CentralHeader) : ArchiveRecord where
  path := header.path
  executable := header.madeOnUnix && header.unixMode &&& 0x49 ≠ 0
  compressedSize := header.compressedSize.toNat
  uncompressedSize := header.uncompressedSize.toNat
  localHeaderOffset := header.localHeaderOffset.toNat
  crc32 := header.crc32
  compressionMethod := header.compressionMethod
  generalPurposeBitFlag := header.flags
  versionMadeBy := header.versionMadeBy

/-- The checks of an entry, in the order in which they are made. -/
def checkCentralHeader (archiveSize : Nat) (seenPaths : List String) (header : CentralHeader) :
    Except String ArchiveRecord :=
  if header.flags &&& 0x0001 ≠ 0 then
    .error ("encrypted ZIP entries are not supported: " ++ header.path)
  else if header.flags &&& 0x0008 ≠ 0 then
    .error ("ZIP data descriptors are not supported: " ++ header.path)
  else if header.flags &&& 0x0040 ≠ 0 then
    .error ("strongly encrypted ZIP entries are not supported: " ++ header.path)
  else if header.compressionMethod ≠ kStoredCompressionMethod ∧
      header.compressionMethod ≠ kDeflatedCompressionMethod then
    .error ("unsupported ZIP compression method: " ++ header.path)
  else if header.compressedSize = maxU32 ∨ header.uncompressedSize = maxU32 ∨
      header.localHeaderOffset = maxU32 then
    .error ("ZIP64 archives are not supported: " ++ header.path)
  else if !isSafeRelativeArchivePath header.path then
    .error ("archive entry path is not safe: " ++ header.path)
  else if header.path ∈ seenPaths then
    .error ("duplicate archive entry path: " ++ header.path)
  else if header.localHeaderOffset.toNat ≥ archiveSize then
    .error ("archive entry points outside the ZIP file: " ++ header.path)
  else if header.compressionMethod = kStoredCompressionMethod ∧
      header.compressedSize ≠ header.uncompressedSize then
    .error ("stored ZIP entry has mismatched sizes: " ++ header.path)
  else if header.madeOnUnix ∧ header.unixMode &&& kUnixFileTypeMask = kUnixSymlinkFileType then
    .error ("symlink ZIP entries are not supported: " ++ header.path)
  else if header.madeOnUnix ∧ header.unixMode &&& kUnixFileTypeMask ≠ 0 ∧
      header.unixMode &&& kUnixFileTypeMask ≠ kUnixRegularFileType then
    .error ("unsupported ZIP entry file type: " ++ header.path)
  else .ok header.record

/-- The next entry, and the paths seen with it. -/
def readEntry (archive : ArchiveFile) (seenPaths : List String) :
    Reader (ArchiveRecord × List String) := do
  let header ← readCentralHeader archive.path
  let record ← ofResult (checkCentralHeader archive.size seenPaths header)
  pure (record, record.path :: seenPaths)

def readEntries (archive : ArchiveFile) (count : Nat) : Reader (List ArchiveRecord) :=
  readMany (readEntry archive) count []

def parseCentralDirectory (archive : ArchiveFile) : Except Fault (List ArchiveRecord) := do
  let eocd ← locateEndOfCentralDirectory archive
  if add64 eocd.centralDirectoryOffset eocd.centralDirectorySize > archive.size then
    throw ("central directory is truncated: " ++ archive.path)
  else
    let directory ← readFileRange archive eocd.centralDirectoryOffset eocd.centralDirectorySize
    let (records, offset) ← readEntries archive eocd.entryCount directory 0
    if sub64 directory.bytes.length offset ≠ 0 then
      throw ("central directory contains trailing data: " ++ archive.path)
    else .ok records

/-! The data of an entry -/

structure LocalFileInfo where
  compressionMethod : UInt16
  flags : UInt16
  crc32 : UInt32
  compressedSize : UInt32
  uncompressedSize : UInt32
  nameLength : UInt16
  extraLength : UInt16
  deriving DecidableEq, Repr

def readLocalHeader (entryPath : String) : Reader LocalFileInfo := do
  let signature ← readU32
  check (signature = kLocalFileHeaderSignature)
    ("local file header signature mismatch: " ++ entryPath)
  skip 2
  let flags ← readU16
  let compressionMethod ← readU16
  skip 4
  let crc32 ← readU32
  let compressedSize ← readU32
  let uncompressedSize ← readU32
  let nameLength ← readU16
  let extraLength ← readU16
  pure { compressionMethod, flags, crc32, compressedSize, uncompressedSize, nameLength,
         extraLength }

def checkLocalHeader (entry : ArchiveRecord) (info : LocalFileInfo) : Except Fault Unit :=
  if info.flags &&& 0x0001 ≠ 0 then
    throw ("encrypted ZIP entries are not supported: " ++ entry.path)
  else if info.flags &&& 0x0008 ≠ 0 then
    throw ("ZIP data descriptors are not supported: " ++ entry.path)
  else if info.compressionMethod ≠ entry.compressionMethod then
    throw ("ZIP compression method mismatch: " ++ entry.path)
  else if info.crc32 ≠ entry.crc32 ∨ info.compressedSize.toNat ≠ entry.compressedSize ∨
      info.uncompressedSize.toNat ≠ entry.uncompressedSize then
    throw ("ZIP local header metadata mismatch: " ++ entry.path)
  else .ok ()

/-- Where the data of the entry starts. Ignoring an extra field that is cut off only ends
    the stream, which is no failure; the size check that follows sees it. -/
def readLocalFileInfo (archive : ArchiveFile) (entry : ArchiveRecord) : Except Fault Nat :=
  let header := archive.contents.range entry.localHeaderOffset 30
  if header.bytes.length ≠ 30 then throw ("local file header is truncated: " ++ entry.path)
  else do
    let (info, _) ← readLocalHeader entry.path header 0
    checkLocalHeader entry info
    let name := archive.contents.range (entry.localHeaderOffset + 30) info.nameLength.toNat
    if name.bytes.length ≠ info.nameLength.toNat then
      throw ("local file name is truncated: " ++ entry.path)
    else if textOf name.bytes ≠ entry.path then
      throw ("ZIP local header path mismatch: " ++ entry.path)
    else
      let dataOffset := add64 (add64 (add64 entry.localHeaderOffset 30) info.nameLength.toNat)
        info.extraLength.toNat
      if add64 dataOffset entry.compressedSize > archive.size then
        throw ("ZIP entry is truncated: " ++ entry.path)
      else .ok dataOffset

/-- What a sink was given, and how the transfer ended. -/
abbrev Delivery := Bytes × Except Fault Unit

/-- Copy from the position, one buffer after another. -/
def copyStored (entryPath : String) (contents : Bytes) (position remaining : Nat) : Delivery :=
  if remaining = 0 then ([], .ok ())
  else
    let chunkSize := min remaining kBufferSize
    let chunk := (contents.drop position).take chunkSize
    if chunk.length ≠ chunkSize then
      ([], throw ("stored ZIP entry is truncated: " ++ entryPath))
    else
      let (rest, ending) :=
        copyStored entryPath contents (position + chunkSize) (remaining - chunkSize)
      (chunk ++ rest, ending)
termination_by remaining
decreasing_by
  have positive : 0 < kBufferSize := by decide
  omega

/-- A transfer that went through has to have delivered the size of the record. -/
def checkWritten (entry : ArchiveRecord) (message : String) (delivery : Delivery) : Delivery :=
  match delivery.2 with
  | .error fault => (delivery.1, .error fault)
  | .ok () =>
    if delivery.1.length ≠ entry.uncompressedSize then
      (delivery.1, throw (message ++ entry.path))
    else delivery

def copyStoredEntry (archive : ArchiveFile) (entry : ArchiveRecord) (dataOffset : Nat) :
    Delivery :=
  checkWritten entry "stored ZIP entry size mismatch: " <|
    copyStored entry.path archive.contents.bytes dataOffset entry.compressedSize

/-! `inflate` is what the loop around zlib delivers of compressed bytes, and how it ends. -/

section Transfer
variable (inflate : Bytes → Bytes × Except String Unit)

def inflateDeflatedEntry (archive : ArchiveFile) (entry : ArchiveRecord) (dataOffset : Nat) :
    Delivery :=
  let (delivered, ending) := inflate (archive.contents.range dataOffset entry.compressedSize).bytes
  checkWritten entry "deflated ZIP entry size mismatch: " <|
    (delivered, match ending with
      | .ok () => .ok ()
      | .error message => throw (message ++ entry.path))

def transferArchiveEntryData (archive : ArchiveFile) (entry : ArchiveRecord) : Delivery :=
  match readLocalFileInfo archive entry with
  | .error fault => ([], .error fault)
  | .ok dataOffset =>
    if entry.compressionMethod = kStoredCompressionMethod then
      copyStoredEntry archive entry dataOffset
    else if entry.compressionMethod = kDeflatedCompressionMethod then
      inflateDeflatedEntry inflate archive entry dataOffset
    else ([], throw ("unsupported ZIP compression method: " ++ entry.path))

def readArchiveEntryBytes (archive : ArchiveFile) (entry : ArchiveRecord) : Except Fault Bytes :=
  let (contents, ending) := transferArchiveEntryData inflate archive entry
  match ending with
  | .error fault => .error fault
  | .ok () =>
    if contents.length ≠ entry.uncompressedSize then
      throw ("archive entry size mismatch: " ++ entry.path)
    else .ok contents

def findArchiveRecord (records : List ArchiveRecord) (path : String) :
    Except Fault ArchiveRecord :=
  match records.find? fun record => record.path = path with
  | some record => .ok record
  | none => throw ("archive entry not found: " ++ path)

/-- The files that are taken for archives: their last name ends with the extension. -/
def isArchivePath (path : String) : Bool :=
  let name := (path.toList.splitOn '/').getLast?.getD []
  ".zip".toList <:+ name && name ≠ ".zip".toList

def checkArchivePath (path : String) : Except Fault Unit :=
  if path = "" then throw "archive path is empty"
  else if !isArchivePath path then throw "archive path must use the .zip extension"
  else .ok ()

structure ArchiveEntry where
  path : String
  executable : Bool
  compressedSize : Nat
  uncompressedSize : Nat
  deriving DecidableEq, Repr

def ArchiveRecord.entry (record : ArchiveRecord) : ArchiveEntry where
  path := record.path
  executable := record.executable
  compressedSize := record.compressedSize
  uncompressedSize := record.uncompressedSize

def listArchiveEntries (archive : ArchiveFile) : Except Fault (List ArchiveEntry) := do
  checkArchivePath archive.path
  let records ← parseCentralDirectory archive
  pure (records.map ArchiveRecord.entry)

def readArchiveFile (archive : ArchiveFile) (path : String) : Except Fault Bytes := do
  checkArchivePath archive.path
  if !isSafeRelativeArchivePath path then throw ("archive entry path is not safe: " ++ path)
  else
    let records ← parseCentralDirectory archive
    let record ← findArchiveRecord records path
    readArchiveEntryBytes inflate archive record

end Transfer

end PackageArchive
