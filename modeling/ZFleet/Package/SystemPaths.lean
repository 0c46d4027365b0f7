import ZFleet.Foundations.LinkedFiles
import ZFleet.Package.RelativePaths

/-!
Paths as the operating system reads them: up to the first NUL, name by name, a slash at the
end asking for a directory. A relative path that was found to be safe keeps its names in
front of a NUL, the last one of them shortened.
-/
namespace Package
open LinkedFiles

/-- A slash at the end asks for a directory. -/
def namesOf (path : List Char) : List Name :=
  pieces path ++ if path = [] ∨ path.getLast? = some '/' then [dot] else []

def systemNames (path : List Char) : List Name := namesOf (path.takeWhile (· ≠ nul))

/-- The same on the components of a path without empty ones. -/
def cutNames : List Name → List Name
  | [] => []
  | part :: rest =>
    if nul ∈ part then
      [if part.takeWhile (· ≠ nul) = [] then dot else part.takeWhile (· ≠ nul)]
    else part :: cutNames rest

theorem pieces_cons {part behind : List Char} (nonempty : part ≠ []) (plain : '/' ∉ part) :
    pieces (part ++ '/' :: behind) = part :: pieces behind := by
  unfold pieces
  rw [List.splitOn_append_cons_self, List.splitOn_eq_singleton plain, List.filter_append,
    List.filter_cons_of_pos (by simpa using nonempty)]
  rfl

theorem pieces_one {part : List Char} (nonempty : part ≠ []) (plain : '/' ∉ part) :
    pieces part = [part] := by
  unfold pieces
  rw [List.splitOn_eq_singleton plain, List.filter_cons_of_pos (by simpa using nonempty)]
  rfl

theorem free_takeWhile {part : List Char} (free : nul ∉ part) :
    part.takeWhile (· ≠ nul) = part := by
  rw [List.takeWhile_eq_self_iff]
  intro ch inside
  have other : ch ≠ nul := by
    rintro rfl
    exact free inside
  exact decide_eq_true other

theorem cut_takeWhile {part : List Char} (behind : List Char) (cut : nul ∈ part) :
    (part ++ behind).takeWhile (· ≠ nul) = part.takeWhile (· ≠ nul) := by
  rw [List.takeWhile_append, if_neg]
  intro whole
  have same := (List.takeWhile_prefix (l := part) (· ≠ nul)).eq_of_length whole
  have all_other := List.takeWhile_eq_self_iff.mp same nul cut
  simp at all_other

theorem namesOf_one {part : List Char} (nonempty : part ≠ []) (plain : '/' ∉ part) :
    namesOf part = [part] := by
  have no_end : part.getLast? ≠ some '/' := fun slash => plain (List.mem_of_getLast? slash)
  rw [namesOf, pieces_one nonempty plain, if_neg (not_or.mpr ⟨nonempty, no_end⟩), List.append_nil]

theorem namesOf_cons {part : List Char} (behind : List Char) (nonempty : part ≠ [])
    (plain : '/' ∉ part) : namesOf (part ++ '/' :: behind) = part :: namesOf behind := by
  have ends : (part ++ '/' :: behind = [] ∨ (part ++ '/' :: behind).getLast? = some '/') ↔
      (behind = [] ∨ behind.getLast? = some '/') := by
    cases behind with
    | nil => simp
    | cons first rest => simp [List.getLast?_append, List.getLast?_cons]
  rw [namesOf, namesOf, pieces_cons nonempty plain, List.cons_append]
  simp only [ends]

/-- A single component, whole or cut. -/
theorem systemNames_one {part : List Char} (nonempty : part ≠ []) (plain : '/' ∉ part) :
    systemNames part = cutNames [part] := by
  unfold systemNames
  by_cases cut : nul ∈ part
  · rw [cutNames, if_pos cut]
    by_cases empty : part.takeWhile (· ≠ nul) = []
    · rw [if_pos empty, empty]
      rfl
    · have no_slash : '/' ∉ part.takeWhile (· ≠ nul) := fun inside =>
        plain ((List.takeWhile_prefix _).subset inside)
      rw [if_neg empty, namesOf_one empty no_slash]
  · rw [cutNames, if_neg cut, free_takeWhile cut, namesOf_one nonempty plain, cutNames]

/-- The names of a joined path are its components up to the first NUL. -/
theorem systemNames_joined {parts : List Name} (nonempty : parts ≠ [])
    (proper : ∀ part ∈ parts, part ≠ [] ∧ '/' ∉ part) :
    systemNames (joinPieces parts) = cutNames parts := by
  induction parts with
  | nil => contradiction
  | cons part rest ih =>
    obtain ⟨filled, plain⟩ := proper part (by simp)
    cases rest with
    | nil =>
      rw [show joinPieces [part] = part from by simp [joinPieces]]
      exact systemNames_one filled plain
    | cons other others =>
      have joined : joinPieces (part :: other :: others) =
          part ++ '/' :: joinPieces (other :: others) := by
        simp [joinPieces]
      rw [joined]
      by_cases cut : nul ∈ part
      · have first := systemNames_one filled plain
        rw [systemNames] at first ⊢
        rw [cut_takeWhile _ cut, first, cutNames, if_pos cut, cutNames, if_pos cut]
      · have later := ih (by simp) (fun name inside => proper name (List.mem_cons_of_mem _ inside))
        have seen : (part ++ '/' :: joinPieces (other :: others)).takeWhile (· ≠ nul) =
            part ++ '/' :: (joinPieces (other :: others)).takeWhile (· ≠ nul) := by
          rw [List.takeWhile_append, if_pos (by rw [free_takeWhile cut]),
            List.takeWhile_cons_of_pos (by decide)]
        rw [systemNames] at later ⊢
        rw [seen, namesOf_cons _ filled plain, later, cutNames.eq_def (part :: _)]
        exact (if_neg cut).symm

theorem cutNames_take (parts : List Name) (count : Nat) :
    cutNames (parts.take count) = (cutNames parts).take count := by
  induction parts generalizing count with
  | nil => simp [cutNames]
  | cons part rest ih =>
    cases count with
    | zero => simp [cutNames]
    | succ count =>
      rw [List.take_succ_cons]
      by_cases cut : nul ∈ part
      · simp [cutNames, cut]
      · simp [cutNames, cut, ih]

theorem cutNames_nonempty {parts : List Name} (nonempty : parts ≠ []) : cutNames parts ≠ [] := by
  obtain ⟨part, rest, rfl⟩ := List.exists_cons_of_ne_nil nonempty
  rw [cutNames]
  split
  · simp
  · simp

/-- Only the last name of a cut path can be another one than before. -/
theorem cutNames_front {parts : List Name} {way : List Name} {last : Name}
    (cut : cutNames parts = way ++ [last]) : ∀ name ∈ way, name ∈ parts := by
  induction parts generalizing way with
  | nil => simp [cutNames] at cut
  | cons part rest ih =>
    cases way with
    | nil => simp
    | cons first way =>
      rw [cutNames] at cut
      split at cut
      · simp at cut
      · rw [List.cons_append, List.cons.injEq] at cut
        intro name inside
        rcases List.mem_cons.mp inside with rfl | later
        · rw [cut.1]
          simp
        · exact List.mem_cons_of_mem _ (ih cut.2 name later)

theorem proper_pieces (path : List Char) : ∀ part ∈ pieces path, part ≠ [] ∧ '/' ∉ part :=
  fun _ inside => ⟨(of_mem_pieces inside).1, fun slash => ((of_mem_pieces inside).2 '/' slash).2 rfl⟩

theorem cutNames_free {parts : List Name} (free : ∀ part ∈ parts, nul ∉ part) :
    cutNames parts = parts := by
  induction parts with
  | nil => rfl
  | cons part rest ih =>
    rw [cutNames, if_neg (free part (by simp)),
      ih fun other inside => free other (List.mem_cons_of_mem _ inside)]

/-! Safe paths -/

section Normal

variable {relative : String} (normal : NormalPath relative)
include normal

theorem normal_names : systemNames relative.toList = cutNames (pieces relative.toList) := by
  have joined := systemNames_joined normal.nonempty (proper_pieces _)
  rwa [normal.joined] at joined

theorem front_names {front : List Name} (short : front <+: pieces relative.toList)
    (nonempty : front ≠ []) : systemNames (joinPieces front) =
      (systemNames relative.toList).take front.length := by
  have joined := systemNames_joined nonempty
    (fun part inside => proper_pieces _ part (short.subset inside))
  rw [joined, normal_names normal, ← cutNames_take, ← List.prefix_iff_eq_take.mp short]

end Normal

end Package
