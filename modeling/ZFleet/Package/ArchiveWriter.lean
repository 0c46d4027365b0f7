import Mathlib.Data.String.Basic
import ZFleet.Foundations.OutputStreams
import ZFleet.Package.DeflateLoops

/-!
The writer of package archives (CreateArchive). The files below a directory are collected and
sorted by their paths; each one is written behind a local header, which is patched when its
sizes are known, and the directory and the end record come last.
-/
namespace PackageArchive
open ByteReader Package OutputStreams
open FileTrees (Path)

def kZipVersion : UInt16 := 20
def kGeneralPurposeUtf8 : UInt16 := 0x0800

structure SourceEntry where
  path : String
  sourcePath : Path
  executable : Bool
  uncompressedSize : Nat
  deriving DecidableEq, Repr

/-- The text of a place; it is normal. -/
def pathText (place : Path) : String := String.ofList (outputText place)

def relativeText (relative : Path) : String :=
  String.ofList (joinPieces (relative.map String.toList))

/-! The files of the package directory -/

section Collect

variable (tree : FileTrees.Tree) (packageDir : Path)

def collectSourceEntry (entries : List SourceEntry) (relative : Path) :
    Except Fault (List SourceEntry) :=
  let sourcePath := packageDir ++ relative
  match tree.node sourcePath with
  | some .link => throw ("symlink is not allowed in package directory: " ++ pathText sourcePath)
  | some .directory => .ok entries
  | none => throw ("unsupported file type in package directory: " ++ pathText sourcePath)
  | some (.file content executable) =>
    let path := relativeText relative
    let uncompressedSize := (bytesOf content).length
    if !isSafeRelativeArchivePath path then throw ("package path is not safe: " ++ path)
    else if path ∈ entries.map SourceEntry.path then throw ("duplicate package path: " ++ path)
    else if path.length > 0xffff then throw ("archive path is too long: " ++ path)
    else if uncompressedSize > maxSize then throw ("file is too large for ZIP32: " ++ path)
    else .ok (entries ++ [{ path, sourcePath, executable, uncompressedSize }])

/-- `walk` is the order in which the iterator comes to what is below the directory. -/
def collectSourceEntries (walk : List Path) : Except Fault (List SourceEntry) := do
  let entries ← walk.foldlM (collectSourceEntry tree packageDir) []
  pure (entries.mergeSort fun a b => a.path ≤ b.path)

end Collect

/-! The parts of an archive -/

abbrev ArchiveStream := OutputStream UInt8

def writeLocalFileHeader (entry : SourceEntry) (stream : ArchiveStream) : ArchiveStream :=
  stream.write (writeU32 kLocalFileHeaderSignature ++ (writeU16 kZipVersion ++
    (writeU16 kGeneralPurposeUtf8 ++ (writeU16 kDeflatedCompressionMethod ++ (writeU16 0 ++
    (writeU16 0 ++ (writeU32 0 ++ (writeU32 0 ++ (writeU32 0 ++
    (writeU16 entry.path.length.toUInt16 ++ (writeU16 0 ++ bytesOf entry.path)))))))))))

def patchLocalFileHeader (headerOffset : Nat) (stats : FileWriteStats) (stream : ArchiveStream) :
    ArchiveStream :=
  let currentPosition := stream.position
  ((stream.seekp (headerOffset + 14)).write (writeU32 stats.crc32 ++
    (writeU32 stats.compressedSize.toUInt32 ++ writeU32 stats.uncompressedSize.toUInt32))).seekp
      currentPosition

def fileModeForEntry (executable : Bool) : UInt32 := if executable then 0x81ed else 0x81a4

def centralDirectoryEntry (entry : ArchiveRecord) : Bytes :=
  writeU32 kCentralDirectorySignature ++ (writeU16 (kUnixOsCode <<< 8 ||| kZipVersion) ++
    (writeU16 kZipVersion ++ (writeU16 entry.generalPurposeBitFlag ++
    (writeU16 entry.compressionMethod ++ (writeU16 0 ++ (writeU16 0 ++ (writeU32 entry.crc32 ++
    (writeU32 entry.compressedSize.toUInt32 ++ (writeU32 entry.uncompressedSize.toUInt32 ++
    (writeU16 entry.path.length.toUInt16 ++ (writeU16 0 ++ (writeU16 0 ++ (writeU16 0 ++
    (writeU16 0 ++ (writeU32 (fileModeForEntry entry.executable <<< 16) ++
    (writeU32 entry.localHeaderOffset.toUInt32 ++ bytesOf entry.path))))))))))))))))

def writeCentralDirectoryEntry (stream : ArchiveStream) (entry : ArchiveRecord) : ArchiveStream :=
  stream.write (centralDirectoryEntry entry)

/-! Writing -/

/-- zlib for the contents of files: what it makes of them, and how far its calls go. -/
structure Zlib where
  compressed (content : Bytes) : Compressed content
  deflater (content : Bytes) : Deflater (compressed content)

section Write

variable (zlib : Zlib) (fuel : Nat) (tree : FileTrees.Tree)

/-- The local header, the data and what the directory has to say of them. -/
def writeSourceEntry (entry : SourceEntry) (stream : ArchiveStream) :
    Option (Except Fault (ArchiveStream × ArchiveRecord)) :=
  let headerOffset := stream.position
  let stream := writeLocalFileHeader entry stream
  match tree.regular entry.sourcePath with
  | none => some (throw ("failed to open file: " ++ pathText entry.sourcePath))
  | some (content, _) =>
    match writeDeflatedFileData (pathText entry.sourcePath) (bytesOf content)
        (zlib.deflater (bytesOf content)) fuel with
    | none => none
    | some (.error message) => some (throw message)
    | some (.ok (data, stats)) =>
      let stream := stream.write data
      let dataEnd := stream.position
      let stream := (patchLocalFileHeader headerOffset stats stream).seekp dataEnd
      some (.ok (stream, {
        path := entry.path
        executable := entry.executable
        compressedSize := stats.compressedSize
        uncompressedSize := stats.uncompressedSize
        localHeaderOffset := headerOffset
        crc32 := stats.crc32
        compressionMethod := kDeflatedCompressionMethod
        generalPurposeBitFlag := kGeneralPurposeUtf8
        versionMadeBy := 0 }))

def writeSourceEntries : List SourceEntry → ArchiveStream →
    Option (Except Fault (ArchiveStream × List ArchiveRecord))
  | [], stream => some (.ok (stream, []))
  | entry :: rest, stream =>
    match writeSourceEntry zlib fuel tree entry stream with
    | none => none
    | some (.error fault) => some (.error fault)
    | some (.ok (stream, record)) =>
      match writeSourceEntries rest stream with
      | none => none
      | some (.error fault) => some (.error fault)
      | some (.ok (stream, records)) => some (.ok (stream, record :: records))

def writeDirectory (writtenEntries : List ArchiveRecord) (stream : ArchiveStream) :
    Except Fault ArchiveStream :=
  let centralDirectoryOffset := stream.position
  if centralDirectoryOffset > maxSize then throw "ZIP64 archives are not supported"
  else
    let stream := writtenEntries.foldl writeCentralDirectoryEntry stream
    if stream.position < centralDirectoryOffset then
      throw "failed to finalize ZIP central directory"
    else
      let centralDirectorySize := stream.position - centralDirectoryOffset
      if centralDirectorySize > maxSize ∨ writtenEntries.length > 0xffff then
        throw "ZIP64 archives are not supported"
      else .ok (stream.write (writeU32 kEndOfCentralDirectorySignature ++ (writeU16 0 ++
        (writeU16 0 ++ (writeU16 writtenEntries.length.toUInt16 ++
        (writeU16 writtenEntries.length.toUInt16 ++ (writeU32 centralDirectorySize.toUInt32 ++
        (writeU32 centralDirectoryOffset.toUInt32 ++ writeU16 0))))))))

def writeArchive (entries : List SourceEntry) : Option (Except Fault ArchiveStream) :=
  match writeSourceEntries zlib fuel tree entries (atEnd []) with
  | none => none
  | some (.error fault) => some (.error fault)
  | some (.ok (stream, writtenEntries)) => some (writeDirectory writtenEntries stream)

end Write

section Create

variable (packageDir archivePath : Path)

def checkedEntries (walk : List Path) (tree : FileTrees.Tree) :
    Except Fault (List SourceEntry) := do
  checkArchivePath (pathText archivePath)
  if tree.isLink packageDir then
    throw ("package directory cannot be a symlink: " ++ pathText packageDir)
  else if !tree.isDirectory packageDir then
    throw ("package directory does not exist: " ++ pathText packageDir)
  else if outputText packageDir = outputText archivePath then
    throw "package directory and archive path must differ"
  else if isWithinBase (outputText packageDir) (outputText archivePath) then
    throw ("archive path cannot be inside the package directory: " ++ pathText archivePath)
  else
    let entries ← collectSourceEntries tree packageDir walk
    if "META/manifest.json" ∉ entries.map SourceEntry.path then
      throw "package directory must include META/manifest.json"
    else .ok entries

/-- An archive that is there has to be a file, and is only removed if this is wanted. -/
def clearArchive (force : Bool) (tree : FileTrees.Tree) : Except Fault FileTrees.Tree :=
  if tree.exists? archivePath then
    if (tree.regular archivePath).isNone then
      throw ("archive path exists but is not a regular file: " ++ pathText archivePath)
    else if !force then throw ("archive path already exists: " ++ pathText archivePath)
    else
      match tree.remove archivePath with
      | .ok tree => .ok tree
      | .error message => throw message
  else .ok tree

def openForWrite (force : Bool) (tree : FileTrees.Tree) : Outcome :=
  match clearArchive archivePath force tree with
  | .error fault => (tree, .error fault)
  | .ok tree =>
    match tree.makeDirectories archivePath.dropLast with
    | .error message => (tree, throw message)
    | .ok tree =>
      match tree.writeFile archivePath "" with
      | .error _ => (tree, throw ("failed to open file for write: " ++ pathText archivePath))
      | .ok tree => (tree, .ok ())

/-- What an archive that was not finished holds is left open: here it is empty. -/
def createArchive (zlib : Zlib) (fuel : Nat) (walk : List Path) (force : Bool)
    (tree : FileTrees.Tree) : Option Outcome :=
  match checkedEntries packageDir archivePath walk tree with
  | .error fault => some (tree, .error fault)
  | .ok entries =>
    match openForWrite archivePath force tree with
    | (tree, .error fault) => some (tree, .error fault)
    | (tree, .ok ()) =>
      match writeArchive zlib fuel tree entries with
      | none => none
      | some (.error fault) => some (tree, .error fault)
      | some (.ok stream) =>
        match tree.writeFile archivePath (textOf stream.written) with
        | .error _ => some (tree, throw "failed to write ZIP EOCD")
        | .ok tree => some (tree, .ok ())

end Create

end PackageArchive
