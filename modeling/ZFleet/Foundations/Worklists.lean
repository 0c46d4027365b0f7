import Mathlib.Data.List.Basic
import Mathlib.Data.List.Perm.Basic

/-!
Worklists: lists of things under way, of which any one may be finished next.
-/
namespace Worklists
variable {α : Type}

/-- Taking an item out leaves the others. -/
theorem taken_perm {l : List α} {i : Nat} {x : α} (found : l[i]? = some x) :
    (x :: l.eraseIdx i).Perm l := by
  obtain ⟨bound, rfl⟩ := List.getElem?_eq_some_iff.mp found
  exact List.getElem_cons_eraseIdx_perm bound

theorem mem_taken_iff {l : List α} {i : Nat} {x : α} (found : l[i]? = some x) (y : α) :
    y ∈ l ↔ y = x ∨ y ∈ l.eraseIdx i := by
  rw [← (taken_perm found).mem_iff, List.mem_cons]

/-- Replacing an item is taking it out and putting the other in. -/
theorem replaced_perm {l : List α} {i : Nat} {x : α} (found : l[i]? = some x) (y : α) :
    (y :: l.eraseIdx i).Perm (l.set i y) := by
  obtain ⟨bound, _⟩ := List.getElem?_eq_some_iff.mp found
  have placed : (l.set i y)[i]? = some y := List.getElem?_set_self bound
  have perm := taken_perm placed
  rw [List.eraseIdx_set_eq] at perm
  exact perm

theorem mem_replaced_iff {l : List α} {i : Nat} {x : α} (found : l[i]? = some x) (y z : α) :
    z ∈ l.set i y ↔ z = y ∨ z ∈ l.eraseIdx i := by
  rw [← (replaced_perm found y).mem_iff, List.mem_cons]

theorem countP_taken {l : List α} {i : Nat} {x : α} (found : l[i]? = some x) (p : α → Bool) :
    l.countP p = (l.eraseIdx i).countP p + if p x then 1 else 0 := by
  rw [← (taken_perm found).countP_eq, List.countP_cons]

theorem countP_replaced {l : List α} {i : Nat} {x y : α} (found : l[i]? = some x)
    {p : α → Bool} (same : p y = p x) : (l.set i y).countP p = l.countP p := by
  rw [countP_taken found, ← (replaced_perm found y).countP_eq, List.countP_cons, same]

theorem mem_of_found {l : List α} {i : Nat} {x : α} (found : l[i]? = some x) : x ∈ l :=
  List.mem_of_getElem? found

end Worklists
