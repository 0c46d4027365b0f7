import Mathlib.Data.List.Induction
import Mathlib.Data.List.Perm.Basic
import Mathlib.Order.Lattice

/-!
Selections: the best of a list, found by keeping the best one seen so far. Among equals it
is the last one, so which one it is depends on the order of the list and its rank does not.
-/
namespace Selections
variable {α β : Type} [LinearOrder β] (rank : α → β)

def better (best : Option α) (candidate : α) : Option α :=
  match best with
  | none => some candidate
  | some chosen => if rank chosen ≤ rank candidate then some candidate else some chosen

def select (candidates : List α) : Option α := candidates.foldl (better rank) none

variable {rank}

theorem select_append (candidates : List α) (last : α) :
    select rank (candidates ++ [last]) = better rank (select rank candidates) last := by
  simp [select]

theorem better_isSome (best : Option α) (candidate : α) :
    (better rank best candidate).isSome = true := by
  unfold better
  split
  · rfl
  · split <;> rfl

theorem select_eq_none_iff {candidates : List α} :
    select rank candidates = none ↔ candidates = [] := by
  cases candidates using List.reverseRecOn with
  | nil => simp [select]
  | append_singleton candidates last =>
    rw [select_append]
    have found := @better_isSome _ _ _ rank (select rank candidates) last
    constructor
    · intro none_found
      rw [none_found] at found
      cases found
    · simp

/-- The selected one is in the list and no other ranks higher. -/
theorem select_spec {candidates : List α} {chosen : α}
    (found : select rank candidates = some chosen) :
    chosen ∈ candidates ∧ ∀ candidate ∈ candidates, rank candidate ≤ rank chosen := by
  induction candidates using List.reverseRecOn generalizing chosen with
  | nil => cases found
  | append_singleton candidates last ih =>
    rw [select_append] at found
    cases before : select rank candidates with
    | none =>
      have empty := select_eq_none_iff.mp before
      rw [before] at found
      cases found
      simp [empty]
    | some best =>
      obtain ⟨member, highest⟩ := ih before
      rw [before] at found
      simp only [better] at found
      split at found
      · rename_i higher
        cases found
        refine ⟨by simp, fun candidate inside => ?_⟩
        rcases List.mem_append.mp inside with earlier | now
        · exact le_trans (highest candidate earlier) higher
        · rw [List.mem_singleton.mp now]
      · rename_i lower
        cases found
        refine ⟨by simp [member], fun candidate inside => ?_⟩
        rcases List.mem_append.mp inside with earlier | now
        · exact highest candidate earlier
        · rw [List.mem_singleton.mp now]
          exact le_of_lt (not_le.mp lower)

theorem select_last {candidates : List α} {last : α}
    (highest : ∀ candidate ∈ candidates, rank candidate ≤ rank last) :
    select rank (candidates ++ [last]) = some last := by
  rw [select_append]
  cases before : select rank candidates with
  | none => rfl
  | some best =>
    have lower : rank best ≤ rank last := highest best (select_spec before).1
    simp [better, lower]

/-- The order of the list does not change the rank of the selected one. -/
theorem rank_select_perm {candidates candidates' : List α} (same : candidates.Perm candidates') :
    (select rank candidates).map rank = (select rank candidates').map rank := by
  cases found : select rank candidates with
  | none =>
    have empty := select_eq_none_iff.mp found
    rw [empty] at same
    rw [List.nil_perm.mp same]
    rfl
  | some chosen =>
    cases found' : select rank candidates' with
    | none =>
      have empty := select_eq_none_iff.mp found'
      rw [empty] at same
      rw [List.perm_nil.mp same] at found
      cases found
    | some chosen' =>
      obtain ⟨member, highest⟩ := select_spec found
      obtain ⟨member', highest'⟩ := select_spec found'
      have lower := highest chosen' (same.mem_iff.mpr member')
      have lower' := highest' chosen (same.mem_iff.mp member)
      exact congrArg some (le_antisymm lower' lower)

/-- One of the highest rank is selected in some order of the list. -/
theorem selected_in_some_order [DecidableEq α] {candidates : List α} {chosen : α}
    (member : chosen ∈ candidates)
    (highest : ∀ candidate ∈ candidates, rank candidate ≤ rank chosen) :
    ∃ candidates', candidates'.Perm candidates ∧ select rank candidates' = some chosen := by
  refine ⟨candidates.erase chosen ++ [chosen], ?_, ?_⟩
  · exact (List.perm_append_singleton _ _).trans (List.perm_cons_erase member).symm
  · exact select_last fun candidate inside => highest candidate (List.mem_of_mem_erase inside)

end Selections
