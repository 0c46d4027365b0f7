import Mathlib.Data.List.Basic
import Mathlib.Data.List.TakeWhile
import ZFleet.Package.ArchiveReader
import ZFleet.Package.ManifestFiles

/-!
The two checks of relative paths: the one of manifests, which rewrites a path, and the one
of archives, which takes a path or leaves it. Both have one canonical language: the archive
takes just the paths that the manifest's check leaves as they are.
-/
namespace Package
open PackageArchive

/-- A safe relative path and what it is after normalisation: the parts between slashes or
    backslashes, joined by single slashes. -/
structure SafeRelative (raw path : String) : Prop where
  relative : (normalizePathSeparators raw).head? ≠ some '/'
  no_drive : hasWindowsDrivePrefix (normalizePathSeparators raw) = false
  some_part : pieces (normalizePathSeparators raw) ≠ []
  no_dots : ∀ part ∈ pieces (normalizePathSeparators raw), part ≠ ['.'] ∧ part ≠ ['.', '.']
  joined : path.toList = joinPieces (pieces (normalizePathSeparators raw))

theorem SafeRelative.nonempty {raw path : String} (safe : SafeRelative raw path) :
    normalizePathSeparators raw ≠ [] := by
  intro empty
  exact safe.some_part (by rw [empty]; rfl)

theorem SafeRelative.validated {raw path : String} (safe : SafeRelative raw path) :
    validateRelativePath raw = .ok path := by
  have no_dots : (pieces (normalizePathSeparators raw)).any isDots = false := by
    rw [List.any_eq_false]
    intro part inside
    simpa [isDots] using safe.no_dots part inside
  have not_dots : isDots (normalizePathSeparators raw) = false := by
    by_contra dots
    simp only [isDots, Bool.or_eq_false_iff, decide_eq_false_iff_not, not_and_or, not_not] at dots
    rcases dots with one | two
    · rw [one] at no_dots
      exact absurd no_dots (by decide)
    · rw [two] at no_dots
      exact absurd no_dots (by decide)
  unfold validateRelativePath
  simp only [safe.nonempty, not_dots, safe.relative, safe.no_drive, no_dots, safe.some_part,
    if_false, Bool.false_eq_true]
  rw [← safe.joined, String.ofList_toList]

/-- Every part between slashes has a character in it. -/
def Tidy (path : List Char) : Prop := ∀ part ∈ path.splitOn '/', part ≠ []

theorem tidy_parts {before behind : List Char} (tidy : Tidy (before ++ '/' :: behind)) :
    Tidy before ∧ Tidy behind := by
  unfold Tidy at tidy
  rw [List.splitOn_append_cons_self] at tidy
  constructor
  · intro part inside
    exact tidy part (List.mem_append_left _ inside)
  · intro part inside
    exact tidy part (List.mem_append_right _ inside)

theorem not_tidy_nil : ¬ Tidy [] := by
  intro tidy
  exact tidy [] (by simp) rfl

theorem Tidy.pieces {path : List Char} (tidy : Tidy path) : pieces path = path.splitOn '/' := by
  unfold Package.pieces
  rw [List.filter_eq_self]
  intro part inside
  exact decide_eq_true (tidy part inside)

theorem Tidy.joined {path : List Char} (tidy : Tidy path) :
    joinPieces (Package.pieces path) = path := by
  rw [tidy.pieces, joinPieces, List.intercalate_splitOn]

/-- The language of canonical relative paths. -/
structure CanonicalPath (path : String) : Prop where
  nonempty : path ≠ ""
  no_backslash : '\\' ∉ path.toList
  no_leading : path.toList.head? ≠ some '/'
  no_trailing : path.toList.getLast? ≠ some '/'
  no_doubled : ¬ ['/', '/'] <:+: path.toList
  no_dots : ∀ part ∈ path.toList.splitOn '/', part ≠ ['.'] ∧ part ≠ ['.', '.']
  no_drive : ∀ letter rest, path.toList = letter :: ':' :: rest → letter.isAlpha = false

/-- The same, by parts. -/
structure CleanParts (path : List Char) : Prop where
  no_backslash : '\\' ∉ path
  tidy : Tidy path
  proper : ∀ part ∈ path.splitOn '/', isDots part = false
  no_drive : hasWindowsDrivePrefix path = false

theorem CleanParts.canonical {path : String} (clean : CleanParts path.toList) :
    CanonicalPath path := by
  constructor
  · rintro rfl
    exact not_tidy_nil clean.tidy
  · exact clean.no_backslash
  · intro leading
    obtain ⟨behind, shape⟩ := List.head?_eq_some_iff.mp leading
    have tidy := clean.tidy
    rw [shape] at tidy
    exact not_tidy_nil (@tidy_parts [] _ tidy).1
  · intro trailing
    obtain ⟨before, shape⟩ := List.getLast?_eq_some_iff.mp trailing
    have tidy := clean.tidy
    rw [shape] at tidy
    exact not_tidy_nil (tidy_parts tidy).2
  · rintro ⟨before, behind, shape⟩
    have tidy := clean.tidy
    rw [← shape, List.append_assoc] at tidy
    have rest : Tidy ('/' :: behind) := (tidy_parts tidy).2
    exact not_tidy_nil (@tidy_parts [] _ rest).1
  · intro part inside
    have proper := clean.proper part inside
    simpa [isDots] using proper
  · intro letter rest shape
    have drive := clean.no_drive
    rw [shape] at drive
    exact drive

theorem CleanParts.normalized {path : String} (clean : CleanParts path.toList) :
    normalizePathSeparators path = path.toList := by
  have kept : ∀ ch ∈ path.toList, (if ch = '\\' then '/' else ch) = id ch := by
    intro ch inside
    have other : ch ≠ '\\' := by
      rintro rfl
      exact clean.no_backslash inside
    exact if_neg other
  exact (List.map_congr_left kept).trans (List.map_id _)

theorem CleanParts.validated {path : String} (clean : CleanParts path.toList) :
    validateRelativePath path = .ok path := by
  have some_part : path.toList.splitOn '/' ≠ [] := List.splitOn_ne_nil '/' _
  apply SafeRelative.validated
  constructor
  · rw [clean.normalized]
    exact clean.canonical.no_leading
  · rw [clean.normalized]
    exact clean.no_drive
  · rw [clean.normalized, clean.tidy.pieces]
    exact some_part
  · rw [clean.normalized, clean.tidy.pieces]
    exact clean.canonical.no_dots
  · rw [clean.normalized, clean.tidy.joined]

theorem isSafeRelativeArchivePath_iff (path : String) :
    isSafeRelativeArchivePath path = true ↔ CleanParts path.toList := by
  unfold isSafeRelativeArchivePath
  constructor
  · intro safe
    simp only at safe
    split at safe
    · cases safe
    · split at safe
      · cases safe
      · rename_i ends
        split at safe
        · cases safe
        · rename_i drive
          simp only [not_or] at ends
          have parts : ∀ part ∈ path.toList.splitOn '/', part ≠ [] ∧ isDots part = false := by
            intro part inside
            have both := List.all_eq_true.mp safe part inside
            simpa using both
          exact ⟨ends.2.2.2.2, fun part inside => (parts part inside).1,
            fun part inside => (parts part inside).2, by simpa using drive⟩
  · intro clean
    have canonical := clean.canonical
    have nonempty : path.toList ≠ [] := by simpa using canonical.nonempty
    have no_head : path.toList.head? ≠ some '\\' := fun head =>
      clean.no_backslash (List.mem_of_head? head)
    have no_last : path.toList.getLast? ≠ some '\\' := fun last =>
      clean.no_backslash (List.mem_of_getLast? last)
    have all_clean : (path.toList.splitOn '/').all
        (fun part => part ≠ [] && !isDots part) = true := by
      rw [List.all_eq_true]
      intro part inside
      simp [clean.tidy part inside, clean.proper part inside]
    simp only [nonempty, canonical.no_leading, no_head, canonical.no_trailing, no_last,
      clean.no_backslash, or_self, if_false, clean.no_drive, Bool.false_eq_true]
    exact all_clean

/-- A path that starts with no slash starts with its first piece. -/
theorem first_piece {path : List Char} (nonempty : path ≠ []) (relative : path.head? ≠ some '/') :
    ∃ piece others behind, pieces path = piece :: others ∧ path = piece ++ behind ∧
      (behind = [] ∨ behind.head? = some '/') := by
  obtain ⟨first, rest, rfl⟩ := List.exists_cons_of_ne_nil nonempty
  have no_slash : first ≠ '/' := by simpa using relative
  have whole := List.takeWhile_append_dropWhile (p := (· ≠ '/')) (l := first :: rest)
  have plain : '/' ∉ (first :: rest).takeWhile (· ≠ '/') := by
    intro inside
    simpa using List.mem_takeWhile_imp inside
  have some_char : (first :: rest).takeWhile (· ≠ '/') ≠ [] := by simp [no_slash]
  cases behind : (first :: rest).dropWhile (· ≠ '/') with
  | nil =>
    rw [behind, List.append_nil] at whole
    refine ⟨first :: rest, [], [], ?_, by simp, Or.inl rfl⟩
    rw [whole] at plain
    simp [pieces, List.splitOn_eq_singleton plain]
  | cons slash behind' =>
    have stops := List.head_dropWhile_not (· ≠ '/') (by rw [behind]; simp)
    simp only [behind, List.head_cons] at stops
    have is_slash : slash = '/' := by simpa using stops
    rw [behind, is_slash] at whole
    refine ⟨_, pieces behind', '/' :: behind', ?_, whole.symm, Or.inr rfl⟩
    unfold pieces
    rw [← whole, List.splitOn_append_cons_self, List.splitOn_eq_singleton plain,
      List.filter_append, whole, List.filter_cons_of_pos (by simpa using some_char)]
    rfl

/-- Joined pieces start with the first of them. -/
theorem joinPieces_cons (piece : List Char) (others : List (List Char)) :
    ∃ behind, joinPieces (piece :: others) = piece ++ behind ∧
      (behind = [] ∨ behind.head? = some '/') := by
  cases others with
  | nil => exact ⟨[], by simp [joinPieces], Or.inl rfl⟩
  | cons other others =>
    refine ⟨'/' :: joinPieces (other :: others), ?_, Or.inr rfl⟩
    simp only [joinPieces, List.intercalate_cons_cons, List.append_assoc, List.singleton_append]

theorem mem_joinPieces {parts : List (List Char)} {ch : Char} (inside : ch ∈ joinPieces parts) :
    ch = '/' ∨ ∃ part ∈ parts, ch ∈ part := by
  induction parts with
  | nil => simp [joinPieces] at inside
  | cons part parts ih =>
    cases parts with
    | nil => exact Or.inr ⟨part, by simp, by simpa [joinPieces] using inside⟩
    | cons other others =>
      rw [joinPieces, List.intercalate_cons_cons] at inside
      simp only [List.append_assoc, List.singleton_append, List.mem_append, List.mem_cons] at inside
      rcases inside with first | slash | later
      · exact Or.inr ⟨part, by simp, first⟩
      · exact Or.inl slash
      · rcases ih later with slash | ⟨part', member, there⟩
        · exact Or.inl slash
        · exact Or.inr ⟨part', List.mem_cons_of_mem _ member, there⟩

/-- The first two characters decide on a drive prefix; what follows the first piece starts
    with a slash. -/
theorem drive_of_first {piece behind behind' : List Char} (nonempty : piece ≠ [])
    (slash : behind' = [] ∨ behind'.head? = some '/')
    (no_drive : hasWindowsDrivePrefix (piece ++ behind) = false) :
    hasWindowsDrivePrefix (piece ++ behind') = false := by
  match piece with
  | [letter] =>
    rcases slash with rfl | leading
    · rfl
    · obtain ⟨rest, rfl⟩ := List.head?_eq_some_iff.mp leading
      rfl
  | letter :: second :: rest =>
    by_cases colon : second = ':'
    · rw [colon] at no_drive ⊢
      exact no_drive
    · simp [hasWindowsDrivePrefix, colon]

/-- What an accepted path was checked for. -/
theorem validateRelativePath_ok {value path : String}
    (valid : validateRelativePath value = .ok path) : SafeRelative value path := by
  unfold validateRelativePath at valid
  simp only at valid
  split at valid
  · cases valid
  · split at valid
    · cases valid
    · split at valid
      · cases valid
      · rename_i relative
        split at valid
        · cases valid
        · rename_i no_drive
          split at valid
          · cases valid
          · rename_i no_dots
            split at valid
            · cases valid
            · rename_i some_part
              have same := Except.ok.inj valid
              refine ⟨relative, by simpa using no_drive, some_part, ?_,
                by rw [← same, String.toList_ofList]⟩
              intro part inside
              have proper : isDots part = false := by
                by_contra dots
                exact no_dots (List.any_eq_true.mpr ⟨part, inside, by simpa using dots⟩)
              simpa [isDots] using proper

theorem validateRelativePath_iff {raw path : String} :
    validateRelativePath raw = .ok path ↔ SafeRelative raw path :=
  ⟨validateRelativePath_ok, SafeRelative.validated⟩

theorem normalized_no_backslash (value : String) : '\\' ∉ normalizePathSeparators value := by
  intro inside
  obtain ⟨ch, _, same⟩ := List.mem_map.mp inside
  split at same
  · exact absurd same (by decide)
  · contradiction

theorem validateRelativePath_clean {value path : String}
    (valid : validateRelativePath value = .ok path) : CleanParts path.toList := by
  have normal := validateRelativePath_normal valid
  have safe := validateRelativePath_ok valid
  have proper : ∀ part ∈ pieces path.toList, part ≠ [] ∧ '/' ∉ part := fun part inside =>
    ⟨(of_mem_pieces inside).1, fun slash => ((of_mem_pieces inside).2 '/' slash).2 rfl⟩
  have split : path.toList.splitOn '/' = pieces path.toList := by
    have again := List.splitOn_intercalate '/' (fun part inside => (proper part inside).2)
      normal.nonempty
    rwa [show ['/'].intercalate (pieces path.toList) = path.toList from normal.joined] at again
  constructor
  · intro backslash
    rw [safe.joined] at backslash
    rcases mem_joinPieces backslash with slash | ⟨part, member, inside⟩
    · exact absurd slash (by decide)
    · exact normalized_no_backslash value ((of_mem_pieces member).2 _ inside).1
  · intro part inside
    rw [split] at inside
    exact (proper part inside).1
  · intro part inside
    rw [split] at inside
    exact normal.proper part inside
  · obtain ⟨piece, others, behind, parts, shape, _⟩ := first_piece safe.nonempty safe.relative
    obtain ⟨behind', joined, slash⟩ := joinPieces_cons piece others
    have no_drive := safe.no_drive
    have first : piece ∈ pieces (normalizePathSeparators value) := by rw [parts]; simp
    rw [safe.joined, parts, joined]
    rw [shape] at no_drive
    exact drive_of_first (of_mem_pieces first).1 slash no_drive

/-- A normalised path is its own normalisation. -/
theorem SafeRelative.again {raw path : String} (safe : SafeRelative raw path) :
    SafeRelative path path :=
  validateRelativePath_ok (validateRelativePath_clean safe.validated).validated

/-- Both checks accept the same canonical paths, and the manifest's check makes every path
    it accepts one of them. -/
theorem validators_agree (path : String) :
    (∀ value, validateRelativePath path = .ok value →
      CanonicalPath value ∧ validateRelativePath value = .ok value) ∧
      (isSafeRelativeArchivePath path = true ↔ validateRelativePath path = .ok path) := by
  constructor
  · intro value valid
    have clean := validateRelativePath_clean valid
    exact ⟨clean.canonical, clean.validated⟩
  · rw [isSafeRelativeArchivePath_iff]
    exact ⟨CleanParts.validated, validateRelativePath_clean⟩

example : validateRelativePath "META\\\\manifest.json" = .ok "META/manifest.json" := by decide

end Package
