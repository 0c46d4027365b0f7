import Mathlib.Data.String.Basic
import Mathlib.Data.List.Lex
import Mathlib.Tactic.IntervalCases

/-!
Decimal numerals of a fixed width and texts put together from them. Texts of one
layout are compared field by field, so the order of the texts is the order of the
numbers.
-/
namespace FixedWidth

/-- Texts with equally long first parts are ordered by these, then by the rest. -/
theorem append_lt_append_iff {α : Type} [LinearOrder α] {a b x y : List α}
    (same : a.length = b.length) : a ++ x < b ++ y ↔ a < b ∨ (a = b ∧ x < y) := by
  induction a generalizing b with
  | nil =>
    cases b with
    | nil => simp
    | cons d b => simp at same
  | cons c a ih =>
    cases b with
    | nil => simp at same
    | cons d b =>
      have shorter : a.length = b.length := by simpa using same
      simp only [List.cons_append, List.cons_lt_cons_iff, ih shorter, List.cons.injEq]
      tauto

def digitChar (d : Nat) : Char := Char.ofNat (48 + d)

theorem digitChar_lt_iff {d e : Nat} (hd : d < 10) (he : e < 10) :
    digitChar d < digitChar e ↔ d < e := by
  interval_cases d <;> interval_cases e <;> decide

theorem digitChar_inj {d e : Nat} (hd : d < 10) (he : e < 10) :
    digitChar d = digitChar e ↔ d = e := by
  interval_cases d <;> interval_cases e <;> decide

/-- The last `width` decimal digits of a number, the most significant first. -/
def numeral : Nat → Nat → List Char
  | 0, _ => []
  | width + 1, n => numeral width (n / 10) ++ [digitChar (n % 10)]

@[simp] theorem numeral_length (width n : Nat) : (numeral width n).length = width := by
  induction width generalizing n with
  | zero => rfl
  | succ width ih => simp [numeral, ih]

theorem numeral_inj {width n m : Nat} (hn : n < 10 ^ width) (hm : m < 10 ^ width) :
    numeral width n = numeral width m ↔ n = m := by
  induction width generalizing n m with
  | zero =>
    have zeros : n = m := by simp at hn hm; omega
    simp [numeral, zeros]
  | succ width ih =>
    have fits : n / 10 < 10 ^ width ∧ m / 10 < 10 ^ width := by
      rw [Nat.pow_succ] at hn hm
      omega
    have last := digitChar_inj (Nat.mod_lt n (by decide : 10 > 0))
      (Nat.mod_lt m (by decide : 10 > 0))
    simp only [numeral, List.append_singleton_inj, ih fits.1 fits.2, last]
    omega

theorem numeral_lt_iff {width n m : Nat} (hn : n < 10 ^ width) (hm : m < 10 ^ width) :
    numeral width n < numeral width m ↔ n < m := by
  induction width generalizing n m with
  | zero =>
    have zeros : n = m := by simp at hn hm; omega
    simp [numeral, zeros]
  | succ width ih =>
    have fits : n / 10 < 10 ^ width ∧ m / 10 < 10 ^ width := by
      rw [Nat.pow_succ] at hn hm
      omega
    have last := digitChar_lt_iff (Nat.mod_lt n (by decide : 10 > 0))
      (Nat.mod_lt m (by decide : 10 > 0))
    rw [numeral, numeral, append_lt_append_iff (by simp), ih fits.1 fits.2,
      numeral_inj fits.1 fits.2]
    simp only [List.cons_lt_cons_iff, last, List.not_lt_nil, and_false, or_false]
    omega

/-- The number that decimal digits denote. -/
def number (digits : List Char) : Nat := digits.foldl (fun n c => 10 * n + (c.toNat - 48)) 0

theorem digitChar_toNat {d : Nat} (hd : d < 10) : (digitChar d).toNat = 48 + d := by
  interval_cases d <;> decide

theorem number_numeral {width n : Nat} (hn : n < 10 ^ width) : number (numeral width n) = n := by
  induction width generalizing n with
  | zero =>
    have zero : n = 0 := by simp at hn; omega
    rw [zero]
    rfl
  | succ width ih =>
    have fits : n / 10 < 10 ^ width := by
      rw [Nat.pow_succ] at hn
      omega
    have last := digitChar_toNat (Nat.mod_lt n (by decide : 10 > 0))
    have leading := ih fits
    unfold number at leading ⊢
    rw [numeral, List.foldl_append, leading, List.foldl_cons, List.foldl_nil, last]
    omega

/-- A numeral field in front of a text: the field decides, then the rest does. -/
theorem field_lt_iff {width n m : Nat} {x y : List Char} (hn : n < 10 ^ width)
    (hm : m < 10 ^ width) :
    numeral width n ++ x < numeral width m ++ y ↔ n < m ∨ (n = m ∧ x < y) := by
  rw [append_lt_append_iff (by simp), numeral_lt_iff hn hm, numeral_inj hn hm]

theorem separator_lt_iff (c : Char) (x y : List Char) : c :: x < c :: y ↔ x < y := by
  simp

end FixedWidth
