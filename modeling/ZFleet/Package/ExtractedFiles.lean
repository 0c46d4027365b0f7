import ZFleet.Package.ArchiveIntegrity

/-!
The two ways to the files of an archive. A file that is read from the archive is the file
that extraction leaves under its path, and extraction leaves no other files.
-/
namespace PackageArchive
open ByteReader Package
open FileTrees (Path)

section Entries

variable {inflate : Bytes → Bytes × Except String Unit} {archivePath : String}
  {source output : Path} {tree : FileTrees.Tree}

/-- A loop that went through has transferred every record to its end. -/
theorem extractEntries_ended {records : List ArchiveRecord} {archive : ArchiveFile}
    (clean : ∀ record ∈ records, CleanParts record.path.toList)
    (there : tree.node output = some .directory) (elsewhere : ¬ output <+: source)
    (opened : openArchive archivePath source tree = some archive)
    (done : (extractEntries inflate archivePath source output records tree).2 = .ok ()) :
    ∀ record ∈ records, (transferArchiveEntryData inflate archive record).2 = .ok () := by
  induction records generalizing tree with
  | nil =>
    intro record inside
    cases inside
  | cons first rest ih =>
    obtain ⟨frame, extracted⟩ := @extractArchiveEntry_frame inflate archivePath source output first
      tree (clean first (by simp)) there
    rw [extractEntries] at done
    split at done
    · cases done
    · rename_i made result
      rw [result] at frame extracted
      obtain ⟨archive', _, opened', ended, _⟩ := (extracted rfl).decoded
      have same : archive' = archive := Option.some.inj (opened'.symm.trans opened)
      have still : made.node output = some .directory := by
        rw [frame.outside output (fun inside => inside.2 rfl)]
        exact there
      have opened_still : openArchive archivePath source made = some archive :=
        (openArchive_same frame elsewhere).trans opened
      intro record inside
      rcases List.mem_cons.mp inside with rfl | later
      · rw [← same]
        exact ended
      · exact ih (fun other member => clean other (List.mem_cons_of_mem _ member)) still
          opened_still done record later

end Entries

theorem openArchive_path {archivePath : String} {source : Path} {tree : FileTrees.Tree}
    {archive : ArchiveFile} (opened : openArchive archivePath source tree = some archive) :
    archive.path = archivePath := by
  unfold openArchive at opened
  split at opened
  · cases opened
  · split at opened
    · cases opened
      rfl
    · cases opened

theorem findArchiveRecord_distinct {records : List ArchiveRecord} {record : ArchiveRecord}
    (distinct : (records.map ArchiveRecord.path).Nodup) (inside : record ∈ records) :
    findArchiveRecord records record.path = .ok record := by
  rcases findArchiveRecord_cases records record.path with
    ⟨message, failed⟩ | ⟨found, inside', named, answer⟩
  · unfold findArchiveRecord at failed
    split at failed
    · cases failed
    · rename_i absent
      have other := List.find?_eq_none.mp absent record inside
      simp at other
  · rw [answer, List.inj_on_of_nodup_map distinct inside' inside named]

section Extraction

variable {inflate : Bytes → Bytes × Except String Unit} {archivePath : String}
  {source output : Path} {force : Bool} {tree : FileTrees.Tree}
  {archive : ArchiveFile} {records : List ArchiveRecord}

/-- What is known of an extraction that went through. -/
structure Completed (inflate : Bytes → Bytes × Except String Unit) (archivePath : String)
    (source output : Path) (force : Bool) (tree : FileTrees.Tree) (archive : ArchiveFile)
    (records : List ArchiveRecord) : Prop where
  accepted : Accepted archivePath source tree archive records
  ended : ∀ record ∈ records, (transferArchiveEntryData inflate archive record).2 = .ok ()
  only : ∀ q, output <+: q →
    (extractArchive inflate archivePath source output force tree).1.regular q ≠ none →
    ∃ record ∈ records, q = target output record

theorem extractArchive_completed
    (done : (extractArchive inflate archivePath source output force tree).2 = .ok ())
    (opened : openArchive archivePath source tree = some archive) :
    ∃ records, Completed inflate archivePath source output force tree archive records := by
  rcases extractArchive_cases inflate archivePath source output force tree with
    ⟨_, failed⟩ | ⟨archive', records, prepared, accepted, ready, run⟩
  · exact absurd done failed
  · obtain rfl : archive' = archive := Option.some.inj (accepted.opened.symm.trans opened)
    have clean := parsed_clean accepted.parsed
    obtain ⟨directory, empty⟩ := prepareOutput_fresh ready
    have frame := @extractEntries_frame inflate archivePath source output prepared records clean
      directory
    rw [run] at done
    refine ⟨records, accepted, ?_, ?_⟩
    · cases records with
      | nil =>
        intro record inside
        cases inside
      | cons first rest =>
        have elsewhere := source_outside (clean first (by simp)) ready done
        have opened_prepared : openArchive archivePath source prepared = some archive' :=
          (openArchive_prepared ready elsewhere).trans opened
        exact extractEntries_ended clean directory elsewhere opened_prepared done
    · intro q within there
      by_contra other
      rw [run, frame.others q fun ⟨record, inside, same⟩ => other ⟨record, inside, same⟩] at there
      exact there (empty q within)

/-- A record that was transferred to its end is read as what was transferred. -/
theorem Completed.read (completed : Completed inflate archivePath source output force tree archive
    records) {record : ArchiveRecord} (inside : record ∈ records) :
    readArchiveFile inflate archive record.path =
      .ok (transferArchiveEntryData inflate archive record).1 := by
  have parsed := completed.accepted.parsed
  obtain ⟨header, same, sound⟩ := (parsed_wellFormed parsed).sound record inside
  obtain ⟨start, size⟩ := parsed_small parsed inside
  rw [readArchiveFile_recorded]
  refine ⟨?_, ?_, records, record, parsed,
    findArchiveRecord_distinct (parsed_wellFormed parsed).distinct inside,
    (transfer_recorded start size _).mp (Prod.ext rfl (completed.ended record inside))⟩
  · rw [openArchive_path completed.accepted.opened]
    exact completed.accepted.checked
  · rw [same]
    exact sound.safe

/-- What is read from the archive is what extraction has left under the path. -/
theorem Completed.extracted (completed : Completed inflate archivePath source output force tree
    archive records) (plain : ¬ Aliased inflate archivePath source output force tree)
    (done : (extractArchive inflate archivePath source output force tree).2 = .ok ())
    {path : String} {contents : Bytes} (read : readArchiveFile inflate archive path = .ok contents) :
    path ∈ records.map ArchiveRecord.path ∧ ∃ executable,
      (extractArchive inflate archivePath source output force tree).1.regular
        (place output (systemNames path.toList)) = some (textOf contents, executable) := by
  have parsed := completed.accepted.parsed
  obtain ⟨_, _, records', record, parsed', found, recorded⟩ :=
    (readArchiveFile_recorded inflate archive path contents).mp read
  rw [parsed] at parsed'
  cases parsed'
  rcases findArchiveRecord_cases records path with
    ⟨message, failed⟩ | ⟨record', inside, named, found'⟩
  · rw [failed] at found
    cases found
  · rw [found'] at found
    cases found
    obtain ⟨executable, there⟩ := extractArchive_holds plain done completed.accepted record inside
    obtain ⟨start, size⟩ := parsed_small parsed inside
    rw [(transfer_recorded start size contents).mpr recorded] at there
    rw [← named]
    exact ⟨List.mem_map_of_mem inside, executable, there⟩

/-- Every file below the output directory is one of the archive. -/
theorem Completed.from_archive (completed : Completed inflate archivePath source output force tree
    archive records) {q : Path} (within : output <+: q)
    (there : (extractArchive inflate archivePath source output force tree).1.regular q ≠ none) :
    ∃ path contents, readArchiveFile inflate archive path = .ok contents ∧
      q = place output (systemNames path.toList) := by
  obtain ⟨record, inside, same⟩ := completed.only q within there
  exact ⟨record.path, _, completed.read inside, same⟩

end Extraction

/-- The archive of one record lies beside the output directory. -/
def oneFileShelf : FileTrees.Tree :=
  match (FileTrees.Tree.empty fun _ => true).writeFile ["p.zip"]
    (textOf alteredArchive.contents.bytes) with
  | .ok tree => tree
  | .error _ => .empty fun _ => true

theorem oneFile_accepted :
    Accepted "p.zip" ["p.zip"] oneFileShelf alteredArchive [alteredRecord] := by
  refine ⟨by decide, ?_, altered_parsed⟩
  obtain ⟨tree, wrote⟩ : ∃ tree, (FileTrees.Tree.empty fun _ => true).writeFile ["p.zip"]
      (textOf alteredArchive.contents.bytes) = .ok tree :=
    FileTrees.Tree.put_writable (by decide) _
  have there := FileTrees.Tree.put_regular wrote ["p.zip"]
  rw [if_pos rfl] at there
  unfold oneFileShelf
  rw [wrote]
  exact openArchive_text there _

theorem altered_transfer : transferArchiveEntryData (fun bytes => (bytes, .ok ())) alteredArchive
    alteredRecord = ([121], .ok ()) := by
  have header : readLocalFileInfo alteredArchive alteredRecord = .ok 31 := by decide
  rw [transfer_stored _ header rfl (by decide)]
  decide

theorem oneFile_extracted :
    (extractArchive (fun bytes => (bytes, .ok ())) "p.zip" ["p.zip"] ["out"] false
      oneFileShelf).2 = .ok () := by
  obtain ⟨prepared, ready, opens⟩ : ∃ prepared,
      prepareOutput ["out"] false oneFileShelf = (prepared, .ok ()) ∧
        (openTarget ["out"] alteredRecord prepared).2 = .ok () :=
    ⟨(prepareOutput ["out"] false oneFileShelf).1, Prod.ext rfl (by decide),
      by decide⟩
  have clean := parsed_clean altered_parsed alteredRecord (by simp)
  have elsewhere : ¬ ["out"] <+: ["p.zip"] := by decide
  have frame := @openTarget_frame ["out"] alteredRecord prepared clean
    (prepareOutput_fresh ready).1
  have found : openArchive "p.zip" ["p.zip"] (openTarget ["out"] alteredRecord prepared).1 =
      some alteredArchive := by
    rw [openArchive_same frame elsewhere, openArchive_prepared ready elsewhere]
    exact oneFile_accepted.opened
  obtain ⟨start, size⟩ := parsed_small altered_parsed (List.mem_singleton.mpr rfl)
  have entry := ((@extractArchiveEntry_recorded (fun bytes => (bytes, .ok ())) "p.zip" ["p.zip"]
    ["out"] alteredRecord prepared alteredArchive clean start size opens found).1).mpr
      ⟨[121], (transfer_recorded start size _).mp altered_transfer⟩
  unfold extractArchive
  rw [oneFile_accepted.checked, oneFile_accepted.opened]
  simp only
  rw [oneFile_accepted.parsed, ready]
  simp only [extractEntries]
  split
  · rename_i failed
    rw [failed] at entry
    cases entry
  · rfl

end PackageArchive
