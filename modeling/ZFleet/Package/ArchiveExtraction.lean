import ZFleet.Foundations.FileTrees
import ZFleet.Package.ArchiveEntries
import ZFleet.Package.SystemPaths

/-!
Extraction of an archive into a directory (ExtractArchive). The output directory is a place
of the file tree and the archive a file in it, which is opened again for every record. The
paths are checked as texts; the system reads them up to the first NUL.
-/
namespace PackageArchive
open ByteReader Package
open FileTrees (Path)
open LinkedFiles (Name dot dotDot)

def isWithinBase (base candidate : List Char) : Bool :=
  if candidate = base then true
  else if candidate.length ≤ base.length then false
  else if ¬ base <+: candidate then false
  else if base.getLast? = some '/' then true
  else (candidate.drop base.length).head? = some '/'

/-- The text of the output directory; it is normal. -/
def outputText (output : Path) : List Char := '/' :: joinPieces (output.map String.toList)

def targetText (output : Path) (path : String) : List Char :=
  outputText output ++ (if output = [] then [] else ['/']) ++ path.toList

/-- A path that ends in dots or in a slash is one of a directory. -/
def asksDirectory (names : List Name) : Bool :=
  names.getLast? = some dot || names.getLast? = some dotDot

def place (output : Path) (names : List Name) : Path := output ++ names.map String.ofList

def targetNames (record : ArchiveRecord) : List Name := systemNames record.path.toList

def target (output : Path) (record : ArchiveRecord) : Path := place output (targetNames record)

/-- The directories that are made for the parent of the target; dots at the end are there. -/
def parentNames (record : ArchiveRecord) : List Name :=
  let parent := (pieces record.path.toList).dropLast
  if parent = [] then []
  else
    let names := systemNames (joinPieces parent)
    if asksDirectory names then names.dropLast else names

/-- What there is after an operation, and how it ended. -/
abbrev Outcome := FileTrees.Tree × Except Fault Unit

/-- Up to the open stream of the target. -/
def openTarget (output : Path) (record : ArchiveRecord) (tree : FileTrees.Tree) : Outcome :=
  if isWithinBase (outputText output) (targetText output record.path) = false then
    (tree, throw ("archive entry escapes output directory: " ++ record.path))
  else
    match tree.makeDirectories (place output (parentNames record)) with
    | .error message => (tree, throw message)
    | .ok tree =>
      if asksDirectory (targetNames record) then
        (tree, throw ("failed to open file for write: " ++
          String.ofList (targetText output record.path)))
      else
        match tree.writeFile (target output record) "" with
        | .error _ => (tree, throw ("failed to open file for write: " ++
            String.ofList (targetText output record.path)))
        | .ok tree => (tree, .ok ())

/-- The archive as it is in the tree now. -/
def openArchive (archivePath : String) (source : Path) (tree : FileTrees.Tree) :
    Option ArchiveFile :=
  match tree.regular source with
  | none => none
  | some (content, _) =>
    if sized : (bytesOf content).length < 2 ^ 64 then some ⟨archivePath, bytesOf content, sized⟩
    else none

section Extraction

variable (inflate : Bytes → Bytes × Except String Unit) (archivePath : String)
  (source output : Path)

/-- The sink writes what is delivered, also when the transfer ends in an exception. -/
def deliver (archive : ArchiveFile) (record : ArchiveRecord) (tree : FileTrees.Tree) : Outcome :=
  let (delivered, ending) := transferArchiveEntryData inflate archive record
  match tree.writeFile (target output record) (textOf delivered) with
  | .error _ => (tree, throw "failed to write extracted file")
  | .ok tree =>
    match ending with
    | .error fault => (tree, .error fault)
    | .ok () =>
      if record.executable then
        match tree.setExecutable (target output record) true with
        | .error message => (tree, throw message)
        | .ok tree => (tree, .ok ())
      else (tree, .ok ())

def extractArchiveEntry (record : ArchiveRecord) (tree : FileTrees.Tree) : Outcome :=
  match openTarget output record tree with
  | (tree, .error fault) => (tree, .error fault)
  | (tree, .ok ()) =>
    match openArchive archivePath source tree with
    | none => (tree, throw ("failed to open file: " ++ archivePath))
    | some archive => deliver inflate output archive record tree

def extractEntries : List ArchiveRecord → FileTrees.Tree → Outcome
  | [], tree => (tree, .ok ())
  | record :: rest, tree =>
    match extractArchiveEntry inflate archivePath source output record tree with
    | (tree, .error fault) => (tree, .error fault)
    | (tree, .ok ()) => extractEntries rest tree

def makeOutput (tree : FileTrees.Tree) : Outcome :=
  match tree.makeDirectories output with
  | .error message => (tree, throw message)
  | .ok tree => (tree, .ok ())

def prepareOutput (force : Bool) (tree : FileTrees.Tree) : Outcome :=
  if tree.exists? output then
    if force = false then
      (tree, throw ("output directory already exists: " ++ String.ofList (outputText output)))
    else
      match tree.removeAll output with
      | .error message => (tree, throw message)
      | .ok tree => makeOutput output tree
  else makeOutput output tree

def extractArchive (force : Bool) (tree : FileTrees.Tree) : Outcome :=
  match checkArchivePath archivePath with
  | .error fault => (tree, .error fault)
  | .ok () =>
    match openArchive archivePath source tree with
    | none => (tree, throw ("failed to open file: " ++ archivePath))
    | some archive =>
      match parseCentralDirectory archive with
      | .error fault => (tree, .error fault)
      | .ok records =>
        match prepareOutput output force tree with
        | (tree, .error fault) => (tree, .error fault)
        | (tree, .ok ()) => extractEntries inflate archivePath source output records tree

end Extraction

/-! The texts -/

theorem targetText_within (output : Path) {path : String} (nonempty : path ≠ "") :
    isWithinBase (outputText output) (targetText output path) = true := by
  have some_char : path.toList.length ≠ 0 := by simpa using nonempty
  have longer : (outputText output).length < (targetText output path).length := by
    unfold targetText
    rw [List.length_append, List.length_append]
    omega
  have other : targetText output path ≠ outputText output := fun same => by
    rw [same] at longer
    exact Nat.lt_irrefl _ longer
  have front : outputText output <+: targetText output path := by
    unfold targetText
    rw [List.append_assoc]
    exact List.prefix_append _ _
  rw [isWithinBase, if_neg other, if_neg (Nat.not_le.mpr longer), if_neg (not_not.mpr front)]
  by_cases root : output = []
  · rw [root, if_pos (by decide)]
  · split
    · rfl
    · unfold targetText
      rw [List.append_assoc, List.drop_left, if_neg root]
      rfl

/-! The names of a target -/

theorem clean_normal {path : String} (clean : CleanParts path.toList) : NormalPath path := by
  refine ⟨?_, clean.tidy.joined, ?_⟩
  · rw [clean.tidy.pieces]
    exact List.splitOn_ne_nil '/' _
  · rw [clean.tidy.pieces]
    exact clean.proper

/-- Only the last part of the path may have a NUL. -/
def FileLike (record : ArchiveRecord) : Prop :=
  ∀ part ∈ (pieces record.path.toList).dropLast, nul ∉ part

instance (record : ArchiveRecord) : Decidable (FileLike record) :=
  inferInstanceAs (Decidable (∀ part ∈ _, nul ∉ part))

theorem cutNames_behind {front : List Name} (free : ∀ part ∈ front, nul ∉ part)
    (behind : List Name) : cutNames (front ++ behind) = front ++ cutNames behind := by
  induction front with
  | nil => rfl
  | cons part front ih =>
    rw [List.cons_append, cutNames, if_neg (free part (by simp)),
      ih fun other inside => free other (List.mem_cons_of_mem _ inside), List.cons_append]

/-- What stands behind a NUL is not read. -/
theorem cutNames_stop {front : List Name} (cut : ¬ ∀ part ∈ front, nul ∉ part)
    (behind : List Name) : cutNames (front ++ behind) = cutNames front := by
  induction front with
  | nil => exact absurd (by simp) cut
  | cons part front ih =>
    rw [List.cons_append, cutNames, cutNames]
    split
    · rfl
    · rename_i free
      rw [ih]
      intro all
      apply cut
      intro other inside
      rcases List.mem_cons.mp inside with rfl | later
      · exact free
      · exact all other later

section Names

variable {record : ArchiveRecord} (clean : CleanParts record.path.toList)
include clean

theorem targetNames_cut : targetNames record = cutNames (pieces record.path.toList) :=
  normal_names (clean_normal clean)

theorem targetNames_nonempty : targetNames record ≠ [] := by
  rw [targetNames_cut clean]
  exact cutNames_nonempty (clean_normal clean).nonempty

omit clean in
theorem parent_cut (some_parent : (pieces record.path.toList).dropLast ≠ []) :
    systemNames (joinPieces (pieces record.path.toList).dropLast) =
      cutNames (pieces record.path.toList).dropLast :=
  systemNames_joined some_parent fun part inside =>
    proper_pieces _ part (List.dropLast_subset _ inside)

/-- The parent of a target that is like a file is the directory that its file is made in. -/
theorem fileLike_parent (fileLike : FileLike record) :
    ∃ name, targetNames record = parentNames record ++ [name] := by
  have whole := List.dropLast_append_getLast (clean_normal clean).nonempty
  have names := targetNames_cut clean
  rw [← whole, cutNames_behind fileLike] at names
  have parent : parentNames record = (pieces record.path.toList).dropLast := by
    unfold parentNames
    simp only
    split
    · rename_i none
      rw [none]
    · rename_i some_parent
      rw [parent_cut some_parent, cutNames_free fileLike]
      have last_proper : asksDirectory (pieces record.path.toList).dropLast = false := by
        unfold asksDirectory
        cases last : (pieces record.path.toList).dropLast.getLast? with
        | none => rfl
        | some part =>
          have inside := List.dropLast_subset _ (List.mem_of_getLast? last)
          have proper := (clean_normal clean).proper part inside
          simpa [isDots, dot, dotDot] using proper
      rw [last_proper]
      rfl
  rw [names, parent, cutNames]
  split
  · exact ⟨_, rfl⟩
  · exact ⟨_, rfl⟩

/-- The parent of any other target is the target itself. -/
theorem not_fileLike_parent (other : ¬ FileLike record)
    (file : asksDirectory (targetNames record) = false) :
    parentNames record = targetNames record := by
  have whole := List.dropLast_append_getLast (clean_normal clean).nonempty
  have names := targetNames_cut clean
  rw [← whole, cutNames_stop other] at names
  have some_parent : (pieces record.path.toList).dropLast ≠ [] := by
    intro none
    apply other
    unfold FileLike
    rw [none]
    nofun
  unfold parentNames
  simp only
  rw [if_neg some_parent, parent_cut some_parent, ← names, file]
  rfl

end Names

/-! What an entry changes -/

/-- Strictly inside the directory. -/
def Inside (output q : Path) : Prop := output <+: q ∧ q ≠ output

theorem place_inside {output : Path} {names : List Name} (nonempty : names ≠ []) :
    Inside output (place output names) := by
  refine ⟨List.prefix_append _ _, ?_⟩
  intro same
  have lengths := congrArg List.length same
  rw [place, List.length_append, List.length_map] at lengths
  have some_name : names.length ≠ 0 := by simpa using nonempty
  omega

theorem place_injective (output : Path) {names names' : List Name}
    (same : place output names = place output names') : names = names' := by
  have maps := List.append_cancel_left same
  exact List.map_injective_iff.mpr (fun _ _ => String.ofList_injective) maps

/-- Nothing changes outside the output directory, and no other file; no file goes. -/
structure StaysBut (output : Path) (touched : Path → Prop) (t t' : FileTrees.Tree) : Prop where
  outside : ∀ q, ¬ Inside output q → t'.node q = t.node q
  others : ∀ q, ¬ touched q → t'.regular q = t.regular q
  kept : ∀ q, (t.regular q).isSome → (t'.regular q).isSome

theorem StaysBut.refl (output : Path) (touched : Path → Prop) (t : FileTrees.Tree) :
    StaysBut output touched t t :=
  ⟨fun _ _ => rfl, fun _ _ => rfl, fun _ => id⟩

theorem StaysBut.trans {output : Path} {touched : Path → Prop} {t t' t'' : FileTrees.Tree}
    (first : StaysBut output touched t t') (second : StaysBut output touched t' t'') :
    StaysBut output touched t t'' :=
  ⟨fun q out => (second.outside q out).trans (first.outside q out),
    fun q other => (second.others q other).trans (first.others q other),
    fun q there => second.kept q (first.kept q there)⟩

theorem StaysBut.mono {output : Path} {touched wider : Path → Prop} {t t' : FileTrees.Tree}
    (frame : StaysBut output touched t t') (included : ∀ q, touched q → wider q) :
    StaysBut output wider t t' :=
  ⟨frame.outside, fun q other => frame.others q fun inside => other (included q inside),
    frame.kept⟩

/-- One file changes. -/
theorem staysBut_file {output p : Path} {t t' : FileTrees.Tree} {content : String}
    {executable : Bool} (inside : Inside output p)
    (nodes : t'.node = Function.update t.node p (some (.file content executable))) :
    StaysBut output (· = p) t t' := by
  refine ⟨?_, ?_, ?_⟩
  · intro q out
    have other : q ≠ p := by
      rintro rfl
      exact out inside
    rw [nodes, Function.update_of_ne other]
  · intro q other
    exact FileTrees.Tree.regular_of_node_eq (by rw [nodes, Function.update_of_ne other])
  · intro q there
    by_cases here : q = p
    · have node : t'.node q = some (.file content executable) := by
        rw [nodes, here, Function.update_self]
      rw [FileTrees.Tree.regular_iff.mpr node]
      rfl
    · rwa [FileTrees.Tree.regular_of_node_eq
        (show t'.node q = t.node q by rw [nodes, Function.update_of_ne here])]

theorem staysBut_makeDirectories {output : Path} (touched : Path → Prop) {names : List Name}
    {t t' : FileTrees.Tree} (there : t.node output = some .directory)
    (done : t.makeDirectories (place output names) = .ok t') : StaysBut output touched t t' := by
  have files := FileTrees.Tree.makeDirectories_regular done
  refine ⟨?_, fun q _ => files q, fun q there => by rw [files]; exact there⟩
  intro q out
  have changed := (FileTrees.Tree.makeDirectories_ok done).1 q
  by_cases within : q <+: place output names
  · rw [changed, if_pos within]
    rcases List.prefix_or_prefix_of_prefix within (List.prefix_append output _) with
      above | below
    · obtain ⟨rest, shape⟩ := above
      by_cases here : rest = []
      · rw [here, List.append_nil] at shape
        rw [shape, there]
      · have closed := t.closed q rest here (by rw [shape, there]; simp)
        exact closed.symm
    · have same : q = output := by
        by_contra other
        exact out ⟨below, other⟩
      rw [same, there]
  · rw [changed, if_neg within]

section Entries

variable {inflate : Bytes → Bytes × Except String Unit} {archivePath : String}
  {source output : Path} {record : ArchiveRecord} {tree : FileTrees.Tree}

/-- A target that was opened is an empty file beside what there was. -/
structure Opened (output : Path) (record : ArchiveRecord) (tree opened : FileTrees.Tree) :
    Prop where
  fileLike : FileLike record
  file : ∃ executable, opened.regular (target output record) = some ("", executable)

theorem openTarget_frame (clean : CleanParts record.path.toList)
    (there : tree.node output = some .directory) :
    StaysBut output (· = target output record) tree (openTarget output record tree).1 := by
  have inside : Inside output (target output record) := place_inside (targetNames_nonempty clean)
  unfold openTarget
  split
  · exact .refl _ _ _
  · split
    · exact .refl _ _ _
    · rename_i made parents
      have frame := staysBut_makeDirectories (· = target output record) there parents
      split
      · exact frame
      · split
        · exact frame
        · rename_i opened wrote
          exact frame.trans (staysBut_file inside (FileTrees.Tree.put_ok wrote).2.1)

theorem openTarget_opened (clean : CleanParts record.path.toList)
    (opens : (openTarget output record tree).2 = .ok ()) :
    Opened output record tree (openTarget output record tree).1 := by
  unfold openTarget at opens ⊢
  split at opens
  · cases opens
  · rename_i within
    rw [if_neg within]
    split at opens
    · cases opens
    · rename_i made parents
      split at opens
      · cases opens
      · rename_i file
        rw [if_neg file]
        split at opens
        · cases opens
        · rename_i opened wrote
          simp only
          constructor
          · -- otherwise the target is the directory that was made
            by_contra other
            have same := not_fileLike_parent clean other (by simpa using file)
            have made_there := (FileTrees.Tree.makeDirectories_ok parents).1 (target output record)
            rw [same, if_pos (show target output record <+: place output (targetNames record)
              from List.prefix_rfl)] at made_there
            exact (FileTrees.Tree.put_ok wrote).1.not_directory made_there
          · have files := FileTrees.Tree.put_regular wrote (target output record)
            rw [if_pos rfl] at files
            exact ⟨_, files⟩

theorem file_writable {p : Path} (there : (tree.regular p).isSome) : tree.Writable p := by
  obtain ⟨⟨content, executable⟩, found⟩ := Option.isSome_iff_exists.mp there
  have node := FileTrees.Tree.regular_iff.mp found
  have below : p ≠ [] := by
    intro root
    rw [root, tree.root] at node
    cases node
  refine ⟨below, ?_, .inr there⟩
  apply tree.closed p.dropLast [p.getLast below] (by simp)
  rw [List.dropLast_append_getLast, node]
  simp

/-- A file that is there already can be opened again. -/
theorem openTarget_again (clean : CleanParts record.path.toList) (fileLike : FileLike record)
    (file : asksDirectory (targetNames record) = false)
    (there : (tree.regular (target output record)).isSome) :
    (openTarget output record tree).2 = .ok () := by
  obtain ⟨name, names⟩ := fileLike_parent clean fileLike
  have nonempty : record.path ≠ "" := by
    intro empty
    have some_char := (clean_normal clean).nonempty
    rw [empty] at some_char
    exact some_char (by decide)
  obtain ⟨⟨content, executable⟩, found⟩ := Option.isSome_iff_exists.mp there
  have node := FileTrees.Tree.regular_iff.mp found
  have split : target output record = place output (parentNames record) ++ [String.ofList name] := by
    rw [target, names]
    simp [place]
  have above : ∀ q, q <+: place output (parentNames record) → tree.node q = some .directory := by
    intro q short
    obtain ⟨rest, shape⟩ := short
    apply tree.closed q (rest ++ [String.ofList name]) (by simp)
    rw [← List.append_assoc, shape, ← split, node]
    simp
  obtain ⟨made, parents⟩ := @FileTrees.Tree.makeDirectories_succeeds tree
    (place output (parentNames record)) (fun q short => .inr (above q short))
    (fun q short absent => by rw [above q short] at absent; cases absent)
  have kept := FileTrees.Tree.makeDirectories_regular parents (target output record)
  have writable : made.Writable (target output record) := file_writable (by rw [kept]; exact there)
  obtain ⟨opened, wrote⟩ : ∃ opened, made.writeFile (target output record) "" = .ok opened :=
    FileTrees.Tree.put_writable writable _
  unfold openTarget
  rw [targetText_within output nonempty, if_neg (by simp)]
  simp only [parents, file]
  rw [if_neg (by simp), wrote]

/-- An empty archive has no local header. -/
theorem transfer_empty {archive : ArchiveFile} (empty : archive.contents.bytes = []) :
    (transferArchiveEntryData inflate archive record).2 ≠ .ok () := by
  have short : (archive.contents.range record.localHeaderOffset 30).bytes = [] := by
    change (archive.contents.bytes.drop _).take _ = []
    rw [empty]
    simp
  unfold transferArchiveEntryData readLocalFileInfo
  simp only [short]
  nofun

/-- The target is a file already, so what is delivered is written to it. -/
theorem deliver_frame {archive : ArchiveFile} (clean : CleanParts record.path.toList) :
    StaysBut output (· = target output record) tree (deliver inflate output archive record tree).1 ∧
      ((deliver inflate output archive record tree).2 = .ok () →
        (transferArchiveEntryData inflate archive record).2 = .ok () ∧
        ∃ executable, (deliver inflate output archive record tree).1.regular
          (target output record) =
            some (textOf (transferArchiveEntryData inflate archive record).1, executable)) := by
  have inside : Inside output (target output record) := place_inside (targetNames_nonempty clean)
  unfold deliver
  simp only
  split
  · exact ⟨.refl _ _ _, nofun⟩
  · rename_i written wrote
    have frame := staysBut_file inside (FileTrees.Tree.put_ok wrote).2.1
    have files := FileTrees.Tree.put_regular wrote (target output record)
    rw [if_pos rfl] at files
    split
    · exact ⟨frame, nofun⟩
    · rename_i ended
      split
      · split
        · exact ⟨frame, nofun⟩
        · rename_i marked marks
          obtain ⟨content, before, found, changed⟩ := FileTrees.Tree.setExecutable_regular marks
          obtain ⟨content', before', _, node, _⟩ := FileTrees.Tree.setExecutable_ok marks
          have again := staysBut_file inside node
          refine ⟨frame.trans again, fun _ => ⟨ended, true, ?_⟩⟩
          rw [changed, if_pos rfl]
          rw [files, Option.some.injEq, Prod.mk.injEq] at found
          rw [← found.1]
      · exact ⟨frame, fun _ => ⟨ended, _, files⟩⟩

/-- What an extracted entry leaves: its file, and nothing else changed. -/
structure Extracted (inflate : Bytes → Bytes × Except String Unit) (archivePath : String)
    (source output : Path) (record : ArchiveRecord) (tree tree' : FileTrees.Tree) : Prop where
  fileLike : FileLike record
  file : asksDirectory (targetNames record) = false
  decoded : ∃ archive executable, openArchive archivePath source tree = some archive ∧
    (transferArchiveEntryData inflate archive record).2 = .ok () ∧
    tree'.regular (target output record) =
      some (textOf (transferArchiveEntryData inflate archive record).1, executable)

theorem extractArchiveEntry_frame (clean : CleanParts record.path.toList)
    (there : tree.node output = some .directory) :
    StaysBut output (· = target output record) tree
        (extractArchiveEntry inflate archivePath source output record tree).1 ∧
      ((extractArchiveEntry inflate archivePath source output record tree).2 = .ok () →
        Extracted inflate archivePath source output record tree
          (extractArchiveEntry inflate archivePath source output record tree).1) := by
  have frame := @openTarget_frame output record tree clean there
  have opened := @openTarget_opened output record tree clean
  unfold extractArchiveEntry
  split
  · rename_i made fault result
    rw [result] at frame
    exact ⟨frame, nofun⟩
  · rename_i made result
    rw [result] at frame opened
    have file := opened rfl
    obtain ⟨executable, content⟩ := file.file
    split
    · exact ⟨frame, nofun⟩
    · rename_i archive found
      obtain ⟨frame', delivered⟩ := @deliver_frame inflate output record made archive clean
      refine ⟨frame.trans frame', ?_⟩
      intro done
      obtain ⟨ended, executable', holds⟩ := delivered done
      -- the archive is not the file that was just made, which is empty
      have elsewhere : source ≠ target output record := by
        intro same
        unfold openArchive at found
        rw [same, content] at found
        split at found
        · cases found
        · rename_i text _ shape
          cases shape
          split at found
          · cases found
            exact transfer_empty rfl ended
          · cases found
      have before : openArchive archivePath source tree = some archive := by
        rw [← found]
        unfold openArchive
        rw [frame.others source elsewhere]
      have no_directory : asksDirectory (targetNames record) = false := by
        by_contra directory
        unfold openTarget at result
        split at result
        · cases result
        · split at result
          · cases result
          · rw [if_pos (by simpa using directory)] at result
            cases result
      exact ⟨file.fileLike, no_directory, archive, executable', before, ended, holds⟩

/-! The loop -/

theorem extractEntries_append (front rest : List ArchiveRecord) (tree : FileTrees.Tree) :
    extractEntries inflate archivePath source output (front ++ rest) tree =
      match extractEntries inflate archivePath source output front tree with
      | (tree, .error fault) => (tree, .error fault)
      | (tree, .ok ()) => extractEntries inflate archivePath source output rest tree := by
  induction front generalizing tree with
  | nil => rfl
  | cons record front ih =>
    rw [List.cons_append, extractEntries, extractEntries]
    cases extractArchiveEntry inflate archivePath source output record tree with
    | mk made ending =>
      cases ending with
      | error fault => rfl
      | ok _ => exact ih made

theorem extractEntries_frame {records : List ArchiveRecord}
    (clean : ∀ record ∈ records, CleanParts record.path.toList)
    (there : tree.node output = some .directory) :
    StaysBut output (fun q => ∃ record ∈ records, q = target output record) tree
      (extractEntries inflate archivePath source output records tree).1 := by
  induction records generalizing tree with
  | nil => exact .refl _ _ _
  | cons record rest ih =>
    have first := (@extractArchiveEntry_frame inflate archivePath source output record tree
      (clean record (by simp)) there).1
    have first_of : ∀ q, q = target output record →
        ∃ other ∈ record :: rest, q = target output other :=
      fun q here => ⟨record, by simp, here⟩
    rw [extractEntries]
    split
    · rename_i made fault result
      rw [result] at first
      exact first.mono first_of
    · rename_i made result
      rw [result] at first
      have still : made.node output = some .directory := by
        rw [first.outside output (fun inside => inside.2 rfl)]
        exact there
      have later := ih (fun other inside => clean other (by simp [inside])) still
      exact (first.mono first_of).trans
        (later.mono fun q ⟨other, inside, here⟩ => ⟨other, by simp [inside], here⟩)

/-- The archive is the same for every record, if it lies outside. -/
theorem openArchive_same {touched : Path → Prop} {tree' : FileTrees.Tree}
    (frame : StaysBut output touched tree tree') (elsewhere : ¬ output <+: source) :
    openArchive archivePath source tree' = openArchive archivePath source tree := by
  have node := frame.outside source fun inside => elsewhere inside.1
  unfold openArchive
  rw [FileTrees.Tree.regular_of_node_eq node]

/-- A loop that goes through leaves the decoded bytes of every record, if all targets are
    different. -/
theorem extractEntries_holds {records : List ArchiveRecord} {archive : ArchiveFile}
    (clean : ∀ record ∈ records, CleanParts record.path.toList)
    (there : tree.node output = some .directory) (elsewhere : ¬ output <+: source)
    (opened : openArchive archivePath source tree = some archive)
    (apart : ∀ front record rest, records = front ++ record :: rest →
      ∀ earlier ∈ front, target output earlier ≠ target output record)
    (done : (extractEntries inflate archivePath source output records tree).2 = .ok ()) :
    ∀ record ∈ records, ∃ executable,
      (extractEntries inflate archivePath source output records tree).1.regular
          (target output record) =
        some (textOf (transferArchiveEntryData inflate archive record).1, executable) := by
  induction records using List.reverseRecOn with
  | nil => nofun
  | append_singleton front record ih =>
    have clean_front : ∀ other ∈ front, CleanParts other.path.toList :=
      fun other inside => clean other (by simp [inside])
    have frame := @extractEntries_frame inflate archivePath source output tree front clean_front there
    rw [extractEntries_append] at done ⊢
    cases run : extractEntries inflate archivePath source output front tree with
    | mk made ending =>
      rw [run] at frame ih done
      cases ending with
      | error fault => cases done
      | ok _ =>
        have before := ih clean_front
          (fun front' record' rest shape => apart front' record' (rest ++ [record])
            (by rw [shape]; simp)) rfl
        have still : made.node output = some .directory := by
          rw [frame.outside output (fun inside => inside.2 rfl)]
          exact there
        obtain ⟨last_frame, last⟩ := @extractArchiveEntry_frame inflate archivePath source output
          record made (clean record (by simp)) still
        simp only [extractEntries] at done ⊢
        cases entry : extractArchiveEntry inflate archivePath source output record made with
        | mk made' ending' =>
          rw [entry] at done last_frame last
          cases ending' with
          | error fault => cases done
          | ok _ =>
            have extracted := last rfl
            obtain ⟨archive', executable, opened', _, holds⟩ := extracted.decoded
            have same : archive' = archive := by
              rw [openArchive_same frame elsewhere, opened] at opened'
              exact (Option.some.inj opened').symm
            rw [same] at holds
            intro other inside
            rcases List.mem_append.mp inside with earlier | here
            · obtain ⟨executable', kept⟩ := before other earlier
              refine ⟨executable', ?_⟩
              rw [last_frame.others _ (apart front record [] rfl other earlier)]
              exact kept
            · rw [List.mem_singleton.mp here]
              exact ⟨executable, holds⟩

/-- The targets of a loop that went through are files. -/
theorem extractEntries_files {records : List ArchiveRecord}
    (clean : ∀ record ∈ records, CleanParts record.path.toList)
    (there : tree.node output = some .directory)
    (done : (extractEntries inflate archivePath source output records tree).2 = .ok ()) :
    ∀ record ∈ records, FileLike record ∧ asksDirectory (targetNames record) = false ∧
      ((extractEntries inflate archivePath source output records tree).1.regular
        (target output record)).isSome := by
  induction records using List.reverseRecOn with
  | nil => nofun
  | append_singleton front record ih =>
    have clean_front : ∀ other ∈ front, CleanParts other.path.toList :=
      fun other inside => clean other (by simp [inside])
    have frame := @extractEntries_frame inflate archivePath source output tree front clean_front there
    rw [extractEntries_append] at done ⊢
    cases run : extractEntries inflate archivePath source output front tree with
    | mk made ending =>
      rw [run] at frame ih done
      cases ending with
      | error fault => cases done
      | ok _ =>
        have still : made.node output = some .directory := by
          rw [frame.outside output (fun inside => inside.2 rfl)]
          exact there
        obtain ⟨last_frame, last⟩ := @extractArchiveEntry_frame inflate archivePath source output
          record made (clean record (by simp)) still
        simp only [extractEntries] at done ⊢
        cases entry : extractArchiveEntry inflate archivePath source output record made with
        | mk made' ending' =>
          rw [entry] at done last_frame last
          cases ending' with
          | error fault => cases done
          | ok _ =>
            have extracted := last rfl
            obtain ⟨_, _, _, _, holds⟩ := extracted.decoded
            intro other inside
            rcases List.mem_append.mp inside with earlier | here
            · obtain ⟨fileLike, file, kept⟩ := ih clean_front rfl other earlier
              exact ⟨fileLike, file, last_frame.kept _ kept⟩
            · rw [List.mem_singleton.mp here]
              exact ⟨extracted.fileLike, extracted.file, by rw [holds]; rfl⟩

end Entries

/-! The output directory -/

theorem makeDirectories_links {t t' : FileTrees.Tree} {p : Path}
    (done : t.makeDirectories p = .ok t') (q : Path) : t'.isLink q = t.isLink q := by
  have changed := (FileTrees.Tree.makeDirectories_ok done).1 q
  unfold FileTrees.Tree.isLink
  rw [changed]
  split
  · rename_i within
    rcases FileTrees.Tree.makeDirectories_free done q within with absent | directory
    · rw [absent]
      rfl
    · rw [directory]
  · rfl

/-- Outside nothing but directories is made, inside nothing is left of the files before. -/
structure Prepares (output : Path) (t t' : FileTrees.Tree) : Prop where
  outside : ∀ q, ¬ output <+: q → t'.regular q = t.regular q ∧ t'.isLink q = t.isLink q
  inside : ∀ q, output <+: q → t'.regular q = none ∨ t'.regular q = t.regular q

theorem makeOutput_prepares (output : Path) (t : FileTrees.Tree) :
    Prepares output t (makeOutput output t).1 := by
  unfold makeOutput
  split
  · exact ⟨fun _ _ => ⟨rfl, rfl⟩, fun _ _ => .inr rfl⟩
  · rename_i made done
    have files := FileTrees.Tree.makeDirectories_regular done
    exact ⟨fun q _ => ⟨files q, makeDirectories_links done q⟩, fun q _ => .inr (files q)⟩

theorem removeAll_prepares {output : Path} {t t' : FileTrees.Tree}
    (done : t.removeAll output = .ok t') :
    Prepares output t t' ∧ ∀ q, output <+: q → t'.node q = none := by
  have nodes := (FileTrees.Tree.removeAll_ok done).1
  refine ⟨⟨?_, ?_⟩, fun q inside => by rw [nodes q, if_pos inside]⟩
  · intro q out
    have same : t'.node q = t.node q := by rw [nodes q, if_neg out]
    exact ⟨FileTrees.Tree.regular_of_node_eq same, by unfold FileTrees.Tree.isLink; rw [same]⟩
  · intro q inside
    left
    unfold FileTrees.Tree.regular
    rw [nodes q, if_pos inside]

theorem Prepares.trans {output : Path} {t t' t'' : FileTrees.Tree}
    (first : Prepares output t t') (second : Prepares output t' t'') : Prepares output t t'' := by
  constructor
  · intro q out
    obtain ⟨files, links⟩ := first.outside q out
    obtain ⟨files', links'⟩ := second.outside q out
    exact ⟨files'.trans files, links'.trans links⟩
  · intro q inside
    rcases second.inside q inside with gone | same
    · exact .inl gone
    · rw [same]
      exact first.inside q inside

theorem prepareOutput_prepares (output : Path) (force : Bool) (t : FileTrees.Tree) :
    Prepares output t (prepareOutput output force t).1 := by
  unfold prepareOutput
  split
  · split
    · exact ⟨fun _ _ => ⟨rfl, rfl⟩, fun _ _ => .inr rfl⟩
    · split
      · exact ⟨fun _ _ => ⟨rfl, rfl⟩, fun _ _ => .inr rfl⟩
      · rename_i removed done
        exact (removeAll_prepares done).1.trans (makeOutput_prepares output removed)
  · exact makeOutput_prepares output t

theorem makeOutput_fresh {output : Path} {t prepared : FileTrees.Tree}
    (done : makeOutput output t = (prepared, .ok ()))
    (empty : ∀ q, output <+: q → t.regular q = none) :
    prepared.node output = some .directory ∧ ∀ q, output <+: q → prepared.regular q = none := by
  unfold makeOutput at done
  split at done
  · cases done
  · rename_i made directories
    cases done
    constructor
    · rw [(FileTrees.Tree.makeDirectories_ok directories).1, if_pos List.prefix_rfl]
    · intro q inside
      rw [FileTrees.Tree.makeDirectories_regular directories]
      exact empty q inside

/-- The output directory is there and has no file in it. -/
theorem prepareOutput_fresh {output : Path} {force : Bool} {t prepared : FileTrees.Tree}
    (done : prepareOutput output force t = (prepared, .ok ())) :
    prepared.node output = some .directory ∧ ∀ q, output <+: q → prepared.regular q = none := by
  unfold prepareOutput at done
  split at done
  · split at done
    · cases done
    · split at done
      · cases done
      · rename_i removed gone
        apply makeOutput_fresh done
        intro q inside
        unfold FileTrees.Tree.regular
        rw [(removeAll_prepares gone).2 q inside]
  · rename_i absent
    apply makeOutput_fresh done
    intro q inside
    obtain ⟨rest, rfl⟩ := inside
    unfold FileTrees.Tree.regular
    cases node : t.node (output ++ rest) with
    | none => rfl
    | some entry =>
      by_cases here : rest = []
      · rw [here, List.append_nil] at node
        cases entry with
        | file content executable => exact absurd (by simp [FileTrees.Tree.exists?, node]) absent
        | directory => rfl
        | link => rfl
      · have above := t.closed output rest here (by rw [node]; simp)
        exact absurd (by simp [FileTrees.Tree.exists?, above]) absent

/-! Extraction -/

section Runs

variable (inflate : Bytes → Bytes × Except String Unit) (archivePath : String)
  (source output : Path) (force : Bool) (tree : FileTrees.Tree)

/-- The archive that is extracted, with its records. -/
structure Accepted (archive : ArchiveFile) (records : List ArchiveRecord) : Prop where
  checked : checkArchivePath archivePath = .ok ()
  opened : openArchive archivePath source tree = some archive
  parsed : parseCentralDirectory archive = .ok records

/-- Extraction comes to the record, when it is done with those in front. -/
structure Reached (front : List ArchiveRecord) (record : ArchiveRecord) (made : FileTrees.Tree) :
    Prop where
  split : ∃ archive rest, Accepted archivePath source tree archive (front ++ record :: rest)
  extracted : ∃ prepared, prepareOutput output force tree = (prepared, .ok ()) ∧
    extractEntries inflate archivePath source output front prepared = (made, .ok ())

/-- A record names a file that is there from a record in front of it. -/
def Aliased : Prop :=
  ∃ front record made, Reached inflate archivePath source output force tree front record made ∧
    FileLike record ∧ ∃ earlier ∈ front, targetNames earlier = targetNames record

/-- Extraction stays inside, and every record has a file of its own. -/
structure Confined : Prop where
  outside : ∀ q, ¬ output <+: q →
    (extractArchive inflate archivePath source output force tree).1.regular q = tree.regular q ∧
    (extractArchive inflate archivePath source output force tree).1.isLink q = tree.isLink q
  inside : ∀ q,
    (extractArchive inflate archivePath source output force tree).1.regular q ≠ none →
    (extractArchive inflate archivePath source output force tree).1.regular q ≠ tree.regular q →
    Inside output q
  /-- No record is written to the file of another one. -/
  apart : ∀ front record made,
    Reached inflate archivePath source output force tree front record made →
    (openTarget output record made).2 = .ok () →
    ∀ earlier ∈ front, target output earlier ≠ target output record
  holds : (extractArchive inflate archivePath source output force tree).2 = .ok () →
    ∀ archive records, Accepted archivePath source tree archive records →
    ∀ record ∈ records, ∃ executable,
      (extractArchive inflate archivePath source output force tree).1.regular
          (target output record) =
        some (textOf (transferArchiveEntryData inflate archive record).1, executable)

end Runs

section Extraction

variable {inflate : Bytes → Bytes × Except String Unit} {archivePath : String}
  {source output : Path} {force : Bool} {tree : FileTrees.Tree}

theorem parsed_clean {archive : ArchiveFile} {records : List ArchiveRecord}
    (parsed : parseCentralDirectory archive = .ok records) :
    ∀ record ∈ records, CleanParts record.path.toList := by
  intro record inside
  obtain ⟨header, rfl, sound⟩ := (parsed_wellFormed parsed).sound record inside
  exact (isSafeRelativeArchivePath_iff _).mp sound.safe

/-- Either nothing was extracted, or the loop ran over the records of the archive. -/
theorem extractArchive_cases (inflate : Bytes → Bytes × Except String Unit)
    (archivePath : String) (source output : Path) (force : Bool) (tree : FileTrees.Tree) :
    (Prepares output tree (extractArchive inflate archivePath source output force tree).1 ∧
      (extractArchive inflate archivePath source output force tree).2 ≠ .ok ()) ∨
    ∃ archive records prepared, Accepted archivePath source tree archive records ∧
      prepareOutput output force tree = (prepared, .ok ()) ∧
      extractArchive inflate archivePath source output force tree =
        extractEntries inflate archivePath source output records prepared := by
  have unchanged : Prepares output tree tree := ⟨fun _ _ => ⟨rfl, rfl⟩, fun _ _ => .inr rfl⟩
  have prepares := prepareOutput_prepares output force tree
  unfold extractArchive
  cases checked : checkArchivePath archivePath with
  | error fault => exact .inl ⟨unchanged, nofun⟩
  | ok done =>
    cases done
    cases opened : openArchive archivePath source tree with
    | none => exact .inl ⟨unchanged, nofun⟩
    | some archive =>
      simp only
      cases parsed : parseCentralDirectory archive with
      | error fault => exact .inl ⟨unchanged, nofun⟩
      | ok records =>
        cases prepared : prepareOutput output force tree with
        | mk made ending =>
          rw [prepared] at prepares
          cases ending with
          | error fault => exact .inl ⟨prepares, nofun⟩
          | ok done =>
            cases done
            exact .inr ⟨archive, records, made, ⟨checked, opened, parsed⟩, rfl, rfl⟩

theorem extractArchive_outside (q : Path) (out : ¬ output <+: q) :
    (extractArchive inflate archivePath source output force tree).1.regular q = tree.regular q ∧
    (extractArchive inflate archivePath source output force tree).1.isLink q = tree.isLink q := by
  rcases extractArchive_cases inflate archivePath source output force tree with
    ⟨prepares, _⟩ | ⟨archive, records, prepared, accepted, ready, run⟩
  · exact prepares.outside q out
  · have before := (prepareOutput_prepares output force tree).outside q out
    rw [ready] at before
    have frame := @extractEntries_frame inflate archivePath source output prepared records
      (parsed_clean accepted.parsed) (prepareOutput_fresh ready).1
    have same := frame.outside q fun inside => out inside.1
    rw [run, FileTrees.Tree.regular_of_node_eq same, FileTrees.Tree.isLink, same]
    exact before

theorem extractArchive_inside {q : Path}
    (there : (extractArchive inflate archivePath source output force tree).1.regular q ≠ none)
    (changed : (extractArchive inflate archivePath source output force tree).1.regular q ≠
      tree.regular q) : Inside output q := by
  by_cases within : output <+: q
  · rcases extractArchive_cases inflate archivePath source output force tree with
      ⟨prepares, _⟩ | ⟨archive, records, prepared, accepted, ready, run⟩
    · rcases prepares.inside q within with gone | same
      · exact absurd gone there
      · exact absurd same changed
    · obtain ⟨directory, empty⟩ := prepareOutput_fresh ready
      have frame := @extractEntries_frame inflate archivePath source output prepared records
        (parsed_clean accepted.parsed) directory
      by_contra out
      have same := FileTrees.Tree.regular_of_node_eq (frame.outside q out)
      rw [run, same] at there
      exact there (empty q within)
  · exact absurd (extractArchive_outside q within).1 changed

/-- The first record is read from an archive that is still there, so it lies outside. -/
theorem source_outside {prepared : FileTrees.Tree} {records : List ArchiveRecord}
    {record : ArchiveRecord} (clean : CleanParts record.path.toList)
    (ready : prepareOutput output force tree = (prepared, .ok ()))
    (done : (extractEntries inflate archivePath source output (record :: records) prepared).2 =
      .ok ()) : ¬ output <+: source := by
  intro within
  obtain ⟨directory, empty⟩ := prepareOutput_fresh ready
  have first := (@extractArchiveEntry_frame inflate archivePath source output record prepared
    clean directory).2
  rw [extractEntries] at done
  split at done
  · cases done
  · rename_i made result
    rw [result] at first
    obtain ⟨_, _, opened, _⟩ := (first rfl).decoded
    unfold openArchive at opened
    rw [empty source within] at opened
    cases opened

theorem openArchive_prepared {prepared : FileTrees.Tree}
    (ready : prepareOutput output force tree = (prepared, .ok ()))
    (elsewhere : ¬ output <+: source) :
    openArchive archivePath source prepared = openArchive archivePath source tree := by
  have same := ((prepareOutput_prepares output force tree).outside source elsewhere).1
  rw [ready] at same
  unfold openArchive
  rw [same]

/-- A record that is written to the file of another one names a file. -/
theorem Reached.aliased {front : List ArchiveRecord} {record : ArchiveRecord}
    {made : FileTrees.Tree}
    (reached : Reached inflate archivePath source output force tree front record made)
    (opens : (openTarget output record made).2 = .ok ()) {earlier : ArchiveRecord}
    (inside : earlier ∈ front) (same : target output earlier = target output record) :
    Aliased inflate archivePath source output force tree := by
  obtain ⟨archive, rest, accepted⟩ := reached.split
  have clean := parsed_clean accepted.parsed record (by simp)
  exact ⟨front, record, made, reached, (openTarget_opened clean opens).fileLike, earlier, inside,
    place_injective output same⟩

/-- An aliased record is written to the file of another one. -/
theorem Aliased.written (aliased : Aliased inflate archivePath source output force tree) :
    ∃ front record made, Reached inflate archivePath source output force tree front record made ∧
      (openTarget output record made).2 = .ok () ∧
      ∃ earlier ∈ front, target output earlier = target output record := by
  obtain ⟨front, record, made, reached, fileLike, earlier, inside, names⟩ := aliased
  obtain ⟨archive, rest, accepted⟩ := reached.split
  obtain ⟨prepared, ready, run⟩ := reached.extracted
  have clean := parsed_clean accepted.parsed
  have files := @extractEntries_files inflate archivePath source output prepared front
    (fun other within => clean other (by simp [within])) (prepareOutput_fresh ready).1
    (by rw [run]) earlier inside
  obtain ⟨_, file, there⟩ := files
  have same : target output earlier = target output record := by rw [target, names, target]
  rw [run, same] at there
  rw [names] at file
  exact ⟨front, record, made, reached,
    openTarget_again (clean record (by simp)) fileLike file there, earlier, inside, same⟩

theorem extractArchive_holds (plain : ¬ Aliased inflate archivePath source output force tree)
    (done : (extractArchive inflate archivePath source output force tree).2 = .ok ())
    {archive : ArchiveFile} {records : List ArchiveRecord}
    (accepted : Accepted archivePath source tree archive records) :
    ∀ record ∈ records, ∃ executable,
      (extractArchive inflate archivePath source output force tree).1.regular
          (target output record) =
        some (textOf (transferArchiveEntryData inflate archive record).1, executable) := by
  rcases extractArchive_cases inflate archivePath source output force tree with
    ⟨_, failed⟩ | ⟨archive', records', prepared, accepted', ready, run⟩
  · exact absurd done failed
  · obtain rfl : archive' = archive :=
      Option.some.inj (accepted'.opened.symm.trans accepted.opened)
    obtain rfl : records' = records :=
      Except.ok.inj (accepted'.parsed.symm.trans accepted.parsed)
    have clean := parsed_clean accepted.parsed
    have directory := (prepareOutput_fresh ready).1
    rw [run] at done ⊢
    cases records' with
    | nil => nofun
    | cons first rest =>
      have elsewhere := source_outside (clean first (by simp)) ready done
      have opened : openArchive archivePath source prepared = some archive' := by
        rw [openArchive_prepared ready elsewhere]
        exact accepted.opened
      apply extractEntries_holds clean directory elsewhere opened ?_ done
      intro front record behind shape earlier inside same
      -- the loop went through, so it came to the record and opened its target
      rw [shape, extractEntries_append] at done
      rw [shape] at accepted
      split at done
      · cases done
      · rename_i made extracted
        apply plain
        have reached : Reached inflate archivePath source output force tree front record made :=
          ⟨⟨archive', behind, accepted⟩, prepared, ready, extracted⟩
        refine reached.aliased ?_ inside same
        rw [extractEntries, extractArchiveEntry] at done
        split at done
        · cases done
        · rename_i result
          split at result
          · cases result
          · rename_i opens
            rw [opens]

end Extraction

/-! Two records whose paths differ behind a NUL -/

/-- The local header of a stored entry of one byte, and the byte. -/
def oneByteData (name : Bytes) (crc32 : UInt32) (content : UInt8) : Bytes :=
  writeU32 kLocalFileHeaderSignature ++ writeU16 20 ++ writeU16 0 ++
    writeU16 kStoredCompressionMethod ++ writeU32 0 ++ writeU32 crc32 ++ writeU32 1 ++
    writeU32 1 ++ writeU16 name.length.toUInt16 ++ writeU16 0 ++ name ++ [content]

def oneByteEntry (name : Bytes) (crc32 localHeaderOffset : UInt32) : Bytes :=
  writeU32 kCentralDirectorySignature ++ writeU16 20 ++ writeU16 20 ++ writeU16 0 ++
    writeU16 kStoredCompressionMethod ++ writeU32 0 ++ writeU32 crc32 ++ writeU32 1 ++
    writeU32 1 ++ writeU16 name.length.toUInt16 ++ writeU16 0 ++ writeU16 0 ++ writeU16 0 ++
    writeU16 0 ++ writeU32 0 ++ writeU32 localHeaderOffset ++ name

def directoryEnd (entries : UInt16) (size start : UInt32) : Bytes :=
  writeU32 kEndOfCentralDirectorySignature ++ writeU16 0 ++ writeU16 0 ++ writeU16 entries ++
    writeU16 entries ++ writeU32 size ++ writeU32 start ++ writeU16 0

def oneByteRecord (path : String) (crc32 : UInt32) (localHeaderOffset : Nat) : ArchiveRecord where
  path := path
  executable := false
  compressedSize := 1
  uncompressedSize := 1
  localHeaderOffset := localHeaderOffset
  crc32 := crc32
  compressionMethod := kStoredCompressionMethod
  generalPurposeBitFlag := 0
  versionMadeBy := 20

def twins : Bytes :=
  oneByteData [97, 0, 120] 0x8cdc1683 120 ++ oneByteData [97, 0, 121] 0xfbdb2615 121 ++
    oneByteEntry [97, 0, 120] 0x8cdc1683 0 ++ oneByteEntry [97, 0, 121] 0xfbdb2615 34 ++
    directoryEnd 2 98 68

def firstTwin : ArchiveRecord := oneByteRecord (String.ofList ['a', nul, 'x']) 0x8cdc1683 0

def secondTwin : ArchiveRecord := oneByteRecord (String.ofList ['a', nul, 'y']) 0xfbdb2615 34

def twinArchive : ArchiveFile := ⟨"p.zip", twins, by decide +kernel⟩

theorem twins_parsed : parseCentralDirectory twinArchive = .ok [firstTwin, secondTwin] := by
  decide +kernel

theorem twin_transfer (inflate : Bytes → Bytes × Except String Unit) :
    transferArchiveEntryData inflate twinArchive firstTwin = ([120], .ok ()) := by
  have found : readLocalFileInfo twinArchive firstTwin = .ok 33 := by decide +kernel
  rw [transfer_stored inflate found rfl (by decide +kernel)]
  decide +kernel

/-- The archive lies beside the output directory, which is not there yet. -/
def shelf : FileTrees.Tree :=
  match (FileTrees.Tree.empty fun _ => true).writeFile ["p.zip"] (textOf twins) with
  | .ok tree => tree
  | .error _ => .empty fun _ => true

theorem openArchive_text {archivePath : String} {source : Path} {tree : FileTrees.Tree}
    {bytes : Bytes} {executable : Bool}
    (there : tree.regular source = some (textOf bytes, executable))
    (sized : bytes.length < 2 ^ 64) :
    openArchive archivePath source tree = some ⟨archivePath, bytes, sized⟩ := by
  unfold openArchive
  rw [there]
  simp only [bytesOf_textOf, sized, dif_pos]

theorem twins_accepted :
    Accepted "p.zip" ["p.zip"] shelf twinArchive [firstTwin, secondTwin] := by
  refine ⟨by decide, ?_, twins_parsed⟩
  obtain ⟨tree, wrote⟩ : ∃ tree, (FileTrees.Tree.empty fun _ => true).writeFile ["p.zip"]
      (textOf twins) = .ok tree := FileTrees.Tree.put_writable (by decide) _
  have there := FileTrees.Tree.put_regular wrote ["p.zip"]
  rw [if_pos rfl] at there
  unfold shelf
  rw [wrote]
  exact openArchive_text there _

theorem shelf_prepared : ∃ prepared, prepareOutput ["out"] false shelf = (prepared, .ok ()) ∧
    (openTarget ["out"] firstTwin prepared).2 = .ok () :=
  ⟨(prepareOutput ["out"] false shelf).1, Prod.ext rfl (by decide), by decide⟩

theorem firstTwin_opened : ∃ prepared, prepareOutput ["out"] false shelf = (prepared, .ok ()) ∧
    (openTarget ["out"] firstTwin prepared).2 = .ok () ∧
    openArchive "p.zip" ["p.zip"] (openTarget ["out"] firstTwin prepared).1 =
      some twinArchive := by
  obtain ⟨prepared, ready, opens⟩ := shelf_prepared
  have clean := parsed_clean twins_parsed firstTwin (by simp)
  have elsewhere : ¬ ["out"] <+: ["p.zip"] := by decide
  have frame := @openTarget_frame ["out"] firstTwin prepared clean (prepareOutput_fresh ready).1
  refine ⟨prepared, ready, opens, ?_⟩
  rw [openArchive_same frame elsewhere, openArchive_prepared ready elsewhere]
  exact twins_accepted.opened

/-- The first record is extracted into its file. -/
theorem firstTwin_extracted (inflate : Bytes → Bytes × Except String Unit) :
    ∃ prepared made, prepareOutput ["out"] false shelf = (prepared, .ok ()) ∧
      extractEntries inflate "p.zip" ["p.zip"] ["out"] [firstTwin] prepared = (made, .ok ()) := by
  obtain ⟨prepared, ready, opens, found⟩ := firstTwin_opened
  have clean := parsed_clean twins_parsed firstTwin (by simp)
  obtain ⟨executable, file⟩ := (openTarget_opened clean opens).file
  obtain ⟨made, wrote⟩ : ∃ made, (openTarget ["out"] firstTwin prepared).1.writeFile
      (target ["out"] firstTwin) (textOf [120]) = .ok made :=
    FileTrees.Tree.put_writable (file_writable (by rw [file]; rfl)) _
  have opened : openTarget ["out"] firstTwin prepared =
      ((openTarget ["out"] firstTwin prepared).1, .ok ()) := Prod.ext rfl opens
  refine ⟨prepared, made, ready, ?_⟩
  rw [extractEntries, extractArchiveEntry, opened]
  simp only
  rw [found]
  simp only [deliver]
  rw [twin_transfer]
  simp only
  rw [wrote]
  rfl

theorem twins_aliased (inflate : Bytes → Bytes × Except String Unit) :
    Aliased inflate "p.zip" ["p.zip"] ["out"] false shelf := by
  obtain ⟨prepared, made, ready, extracted⟩ := firstTwin_extracted inflate
  have paths : firstTwin.path.toList = ['a', nul, 'x'] ∧ secondTwin.path.toList = ['a', nul, 'y'] :=
    ⟨String.toList_ofList, String.toList_ofList⟩
  have fileLike : FileLike secondTwin := by
    unfold FileLike
    rw [paths.2]
    decide
  have names : targetNames firstTwin = targetNames secondTwin := by
    unfold targetNames
    rw [paths.1, paths.2]
    decide
  exact ⟨[firstTwin], secondTwin, made, ⟨⟨twinArchive, [], twins_accepted⟩, prepared, ready,
    extracted⟩, fileLike, firstTwin, by simp, names⟩

end PackageArchive
