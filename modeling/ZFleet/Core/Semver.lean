import Mathlib.Data.Prod.Lex
import Mathlib.Data.List.TakeWhile
import Mathlib.Data.Nat.Digits.Defs
import Mathlib.Tactic.Ring

/-!
Versions `major.minor.patch`, their text and their order. A part is read by
`std::from_chars` into an `int`, which takes a minus sign: `-0` is zero, and the check
against leading zeros does not see it. So different texts can be one version.
-/
namespace Semver

structure Semver3 where
  major : Nat
  minor : Nat
  patch : Nat
  deriving DecidableEq, Repr

/-- Parts are compared from the left. -/
def precedence (v : Semver3) : Nat ×ₗ Nat ×ₗ Nat := toLex (v.major, toLex (v.minor, v.patch))

theorem precedence_injective : Function.Injective precedence := by
  intro v w same
  cases v
  cases w
  simpa [precedence] using same

instance : LinearOrder Semver3 := LinearOrder.lift' precedence precedence_injective

def intMax : Nat := 2147483647

def digitsValue (digits : List Char) : Nat :=
  digits.foldl (fun value digit => 10 * value + (digit.toNat - 48)) 0

/-- The number at the front of the text and what follows it; `none` when there is no number
    or it is not an `int`. -/
def fromChars (text : List Char) : Option (Int × List Char) :=
  let negative := text.head? = some '-'
  let digits := if negative then text.tail else text
  let number := digits.takeWhile Char.isDigit
  let rest := digits.dropWhile Char.isDigit
  if number = [] then none
  else if negative then
    if digitsValue number ≤ intMax + 1 then some (-(digitsValue number : Int), rest) else none
  else if digitsValue number ≤ intMax then some (digitsValue number, rest)
  else none

def parseSemverPart (part : List Char) : Option Nat :=
  if part = [] then none
  else if 1 < part.length ∧ part.head? = some '0' then none
  else match fromChars part with
    | some (parsed, []) => if parsed < 0 then none else some parsed.toNat
    | _ => none

/-- The part before the next dot and the text behind that dot. -/
def partBeforeDot (text : List Char) : Option (Nat × List Char) :=
  match text.dropWhile (· ≠ '.') with
  | [] => none
  | _ :: rest => (parseSemverPart (text.takeWhile (· ≠ '.'))).map fun part => (part, rest)

def parseSemver3 (value : String) : Option Semver3 :=
  match partBeforeDot value.toList with
  | none => none
  | some (major, rest) =>
    match partBeforeDot rest with
    | none => none
    | some (minor, rest) =>
      if '.' ∈ rest then none
      else (parseSemverPart rest).map fun patch => ⟨major, minor, patch⟩

/-! Texts without a minus sign -/

def digitOf (digit : Char) : Nat := digit.toNat - 48

theorem digitsValue_eq (digits : List Char) :
    digitsValue digits = Nat.ofDigits 10 (digits.reverse.map digitOf) := by
  have general : ∀ value, digits.foldl (fun value digit => 10 * value + (digit.toNat - 48)) value =
      Nat.ofDigits 10 (digits.reverse.map digitOf) + 10 ^ digits.length * value := by
    induction digits with
    | nil => simp
    | cons digit digits ih =>
      intro value
      rw [List.foldl_cons, ih]
      simp only [List.reverse_cons, List.map_append, List.map_cons, List.map_nil,
        Nat.ofDigits_append, Nat.ofDigits_singleton, List.length_map, List.length_reverse,
        List.length_cons, digitOf, pow_succ]
      ring
  simpa [digitsValue] using general 0

theorem digitOf_lt {digit : Char} (isDigit : digit.isDigit = true) : digitOf digit < 10 := by
  simp only [Char.isDigit, Bool.and_eq_true, decide_eq_true_eq, UInt32.le_iff_toNat_le] at isDigit
  have upper : digit.toNat ≤ 57 := isDigit.2
  unfold digitOf
  omega

theorem digitOf_inj {digit digit' : Char} (isDigit : digit.isDigit = true)
    (isDigit' : digit'.isDigit = true) (same : digitOf digit = digitOf digit') :
    digit = digit' := by
  simp only [Char.isDigit, Bool.and_eq_true, decide_eq_true_eq, UInt32.le_iff_toNat_le]
    at isDigit isDigit'
  have lower : 48 ≤ digit.toNat := isDigit.1
  have lower' : 48 ≤ digit'.toNat := isDigit'.1
  unfold digitOf at same
  have values : digit.toNat = digit'.toNat := by omega
  exact Char.ext (UInt32.toNat_inj.mp values)

theorem map_digitOf_inj {digits digits' : List Char}
    (valid : ∀ digit ∈ digits, digit.isDigit = true)
    (valid' : ∀ digit ∈ digits', digit.isDigit = true)
    (same : digits.map digitOf = digits'.map digitOf) : digits = digits' := by
  induction digits generalizing digits' with
  | nil => simpa using same.symm
  | cons digit digits ih =>
    cases digits' with
    | nil => cases same
    | cons digit' digits' =>
      simp only [List.map_cons, List.cons.injEq] at same
      have head := digitOf_inj (valid digit (by simp)) (valid' digit' (by simp)) same.1
      have tail := ih (fun d inside => valid d (by simp [inside]))
        (fun d inside => valid' d (by simp [inside])) same.2
      rw [head, tail]

/-- An accepted part without a minus sign: digits, and no zero in front of others. -/
theorem parseSemverPart_unsigned {part : List Char} {n : Nat} (unsigned : '-' ∉ part)
    (parsed : parseSemverPart part = some n) :
    (∀ digit ∈ part, digit.isDigit = true) ∧ part ≠ [] ∧
      ¬ (1 < part.length ∧ part.head? = some '0') ∧ digitsValue part = n := by
  have plain : part.head? ≠ some '-' := by
    intro sign
    exact unsigned (List.mem_of_head? sign)
  unfold parseSemverPart at parsed
  split at parsed
  · cases parsed
  · rename_i nonempty
    split at parsed
    · cases parsed
    · rename_i canonical
      cases read : fromChars part with
      | none => rw [read] at parsed; cases parsed
      | some pair =>
        obtain ⟨value, rest⟩ := pair
        rw [read] at parsed
        simp only [fromChars, plain, if_false] at read
        split at read
        · cases read
        · split at read
          · cases read
            cases rest' : part.dropWhile Char.isDigit with
            | cons c cs => simp only [rest'] at parsed; cases parsed
            | nil =>
              have digits : ∀ digit ∈ part, digit.isDigit = true := by
                exact List.dropWhile_eq_nil_iff.mp rest'
              have whole : part.takeWhile Char.isDigit = part :=
                List.takeWhile_eq_self_iff.mpr digits
              simp only [rest', whole] at parsed
              refine ⟨digits, nonempty, canonical, ?_⟩
              simpa using parsed
          · cases read

theorem digits_canonical {part : List Char} (digits : ∀ digit ∈ part, digit.isDigit = true)
    (nonempty : part ≠ []) (canonical : ¬ (1 < part.length ∧ part.head? = some '0')) :
    part = ['0'] ∨ Nat.digits 10 (digitsValue part) = part.reverse.map digitOf := by
  by_cases zero : part = ['0']
  · exact Or.inl zero
  right
  rw [digitsValue_eq]
  apply Nat.digits_ofDigits 10 (by decide)
  · intro d member
    obtain ⟨digit, inside, rfl⟩ := List.mem_map.mp member
    exact digitOf_lt (digits digit (List.mem_reverse.mp inside))
  · intro _
    obtain ⟨first, rest, rfl⟩ := List.exists_cons_of_ne_nil nonempty
    simp only [List.reverse_cons, List.map_append, List.map_cons, List.map_nil,
      List.getLast_concat]
    intro leading
    have first_zero : first = '0' := digitOf_inj (digits first (by simp)) (by decide) leading
    subst first_zero
    cases rest with
    | nil => exact zero rfl
    | cons c cs => exact canonical ⟨by simp, rfl⟩

theorem parseSemverPart_inj {part part' : List Char} {n : Nat} (unsigned : '-' ∉ part)
    (unsigned' : '-' ∉ part') (parsed : parseSemverPart part = some n)
    (parsed' : parseSemverPart part' = some n) : part = part' := by
  obtain ⟨digits, nonempty, canonical, value⟩ := parseSemverPart_unsigned unsigned parsed
  obtain ⟨digits', nonempty', canonical', value'⟩ := parseSemverPart_unsigned unsigned' parsed'
  rcases digits_canonical digits nonempty canonical with rfl | same
  · rcases digits_canonical digits' nonempty' canonical' with rfl | same'
    · rfl
    · rw [value', ← value] at same'
      have empty : part' = [] := by simpa [digitsValue] using same'.symm
      exact absurd empty nonempty'
  · rcases digits_canonical digits' nonempty' canonical' with rfl | same'
    · rw [value, ← value'] at same
      have empty : part = [] := by simpa [digitsValue] using same.symm
      exact absurd empty nonempty
    · rw [value, ← value', same'] at same
      have reversed : part'.reverse = part.reverse :=
        map_digitOf_inj (fun d inside => digits' d (List.mem_reverse.mp inside))
          (fun d inside => digits d (List.mem_reverse.mp inside)) same
      exact (List.reverse_inj.mp reversed).symm

theorem partBeforeDot_some {text rest : List Char} {n : Nat}
    (read : partBeforeDot text = some (n, rest)) :
    ∃ part, text = part ++ '.' :: rest ∧ parseSemverPart part = some n := by
  unfold partBeforeDot at read
  cases behind : text.dropWhile (· ≠ '.') with
  | nil => rw [behind] at read; cases read
  | cons dot rest' =>
    rw [behind] at read
    obtain ⟨part, parsed, same⟩ := Option.map_eq_some_iff.mp read
    cases same
    have nonempty : text.dropWhile (· ≠ '.') ≠ [] := by rw [behind]; simp
    have stops := List.head_dropWhile_not _ nonempty
    simp only [behind, List.head_cons] at stops
    have isDot : dot = '.' := by simpa using stops
    rw [isDot] at behind
    refine ⟨text.takeWhile (· ≠ '.'), ?_, parsed⟩
    rw [← behind, List.takeWhile_append_dropWhile]

theorem parseSemver3_some {text : String} {v : Semver3} (parsed : parseSemver3 text = some v) :
    ∃ major minor patch, text.toList = major ++ '.' :: (minor ++ '.' :: patch) ∧
      parseSemverPart major = some v.major ∧ parseSemverPart minor = some v.minor ∧
      parseSemverPart patch = some v.patch := by
  unfold parseSemver3 at parsed
  cases first : partBeforeDot text.toList with
  | none => rw [first] at parsed; cases parsed
  | some pair =>
    obtain ⟨major, rest⟩ := pair
    simp only [first] at parsed
    cases second : partBeforeDot rest with
    | none => rw [second] at parsed; cases parsed
    | some pair' =>
      obtain ⟨minor, rest'⟩ := pair'
      simp only [second] at parsed
      split at parsed
      · cases parsed
      · obtain ⟨patch, third, rfl⟩ := Option.map_eq_some_iff.mp parsed
        obtain ⟨majorText, shape, read⟩ := partBeforeDot_some first
        obtain ⟨minorText, shape', read'⟩ := partBeforeDot_some second
        exact ⟨majorText, minorText, rest', by rw [shape, shape'], read, read', third⟩

/-- Without a minus sign a version has one text. -/
theorem parseSemver3_inj {text text' : String} {v : Semver3} (unsigned : '-' ∉ text.toList)
    (unsigned' : '-' ∉ text'.toList) (parsed : parseSemver3 text = some v)
    (parsed' : parseSemver3 text' = some v) : text = text' := by
  obtain ⟨major, minor, patch, shape, first, second, third⟩ := parseSemver3_some parsed
  obtain ⟨major', minor', patch', shape', first', second', third'⟩ := parseSemver3_some parsed'
  rw [shape] at unsigned
  rw [shape'] at unsigned'
  simp only [List.mem_append, List.mem_cons, not_or] at unsigned unsigned'
  have same := parseSemverPart_inj unsigned.1 unsigned'.1 first first'
  have same' := parseSemverPart_inj unsigned.2.2.1 unsigned'.2.2.1 second second'
  have same'' := parseSemverPart_inj unsigned.2.2.2.2 unsigned'.2.2.2.2 third third'
  apply String.toList_inj.mp
  rw [shape, shape', same, same', same'']

example : parseSemver3 "1.10.0" = some ⟨1, 10, 0⟩ := by decide

example : parseSemver3 "1.-0.0" = parseSemver3 "1.0.0" := by decide

example : (⟨1, 9, 9⟩ : Semver3) < ⟨1, 10, 0⟩ := by decide

end Semver
