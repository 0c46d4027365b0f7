import Mathlib.Data.List.TakeWhile
import Mathlib.Data.Nat.Digits.Defs

/-!
The number at the front of a text as `strtoul` reads it in base ten: blanks are skipped, a
sign is taken, and what follows the digits is left alone. A minus sign negates in the
arithmetic of the unsigned type, so that a negative number is a large one.
-/
namespace LeadingNumbers

def decimal (digits : List Char) : Nat :=
  Nat.ofDigits 10 (digits.reverse.map fun digit => digit.toNat - 48)

/-- `isspace` in the C locale. -/
def isSpace (c : Char) : Bool := c = ' ' || (9 ≤ c.toNat && c.toNat ≤ 13)

inductive ConversionError where
  | noConversion
  | outOfRange
  deriving DecidableEq, Repr

def splitSign : List Char → List Char × List Char
  | '+' :: behind => (['+'], behind)
  | '-' :: behind => (['-'], behind)
  | text => ([], text)

/-- The value in a type of so many bits. -/
def signed (bits : Nat) (sign : List Char) (value : Nat) : Nat :=
  if sign = ['-'] then (2 ^ bits - value) % 2 ^ bits else value

def stoul (bits : Nat) (text : List Char) : Except ConversionError Nat :=
  let (sign, behind) := splitSign (text.dropWhile isSpace)
  let digits := behind.takeWhile Char.isDigit
  if digits = [] then .error .noConversion
  else if 2 ^ bits ≤ decimal digits then .error .outOfRange
  else .ok (signed bits sign (decimal digits))

/-- The parts of a text with a number at its front. -/
structure Parts (text blanks sign digits rest : List Char) : Prop where
  shape : text = blanks ++ (sign ++ (digits ++ rest))
  blank : ∀ c ∈ blanks, isSpace c = true
  one_sign : sign = [] ∨ sign = ['+'] ∨ sign = ['-']
  some_digit : digits ≠ []
  digit : ∀ c ∈ digits, c.isDigit = true
  stops : ∀ c ∈ rest.head?, c.isDigit = false

theorem digit_bounds {c : Char} (digit : c.isDigit = true) : 48 ≤ c.toNat ∧ c.toNat ≤ 57 := by
  simp only [Char.isDigit, Bool.and_eq_true, decide_eq_true_eq, UInt32.le_iff_toNat_le] at digit
  exact digit

theorem digit_plain {c : Char} (digit : c.isDigit = true) :
    isSpace c = false ∧ c ≠ '+' ∧ c ≠ '-' ∧ c ≠ ':' := by
  have bounds := digit_bounds digit
  have not_blank : c ≠ ' ' := by
    rintro rfl
    exact absurd bounds.1 (by decide)
  refine ⟨?_, ?_, ?_, ?_⟩
  · simp only [isSpace, not_blank, decide_false, Bool.false_or, Bool.and_eq_false_iff,
      decide_eq_false_iff_not]
    omega
  · rintro rfl
    exact absurd bounds.1 (by decide)
  · rintro rfl
    exact absurd bounds.1 (by decide)
  · rintro rfl
    exact absurd bounds.2 (by decide)

/-- A run of one kind of characters ends where the next character is of another kind. -/
theorem run_span {kind : Char → Bool} {run behind : List Char} (all : ∀ c ∈ run, kind c = true)
    (stops : ∀ c ∈ behind.head?, kind c = false) :
    (run ++ behind).takeWhile kind = run ∧ (run ++ behind).dropWhile kind = behind := by
  induction run with
  | nil =>
    cases behind with
    | nil => exact ⟨rfl, rfl⟩
    | cons c behind =>
      have other := stops c (by simp)
      simp [other]
  | cons c run ih =>
    have first := all c (by simp)
    have rest := ih fun d inside => all d (by simp [inside])
    simp [first, rest]

namespace Parts

variable {text blanks sign digits rest : List Char} (parts : Parts text blanks sign digits rest)
include parts

theorem sign_behind : splitSign (sign ++ (digits ++ rest)) = (sign, digits ++ rest) := by
  obtain ⟨first, others, shape⟩ := List.exists_cons_of_ne_nil parts.some_digit
  rcases parts.one_sign with none | plus | minus
  · have plain := digit_plain (parts.digit first (by rw [shape]; simp))
    rw [none, shape, List.nil_append, List.cons_append, splitSign]
    · intro _ same
      exact plain.2.1 (List.cons.inj same).1
    · intro _ same
      exact plain.2.2.1 (List.cons.inj same).1
  · rw [plus]
    rfl
  · rw [minus]
    rfl

theorem blanks_end : ∀ c ∈ (sign ++ (digits ++ rest)).head?, isSpace c = false := by
  obtain ⟨first, others, shape⟩ := List.exists_cons_of_ne_nil parts.some_digit
  intro c here
  rcases parts.one_sign with none | plus | minus
  · rw [none, shape] at here
    have same : first = c := by simpa using here
    rw [← same]
    exact (digit_plain (parts.digit first (by rw [shape]; simp))).1
  · rw [plus] at here
    have same : '+' = c := by simpa using here
    rw [← same]
    decide
  · rw [minus] at here
    have same : '-' = c := by simpa using here
    rw [← same]
    decide

theorem read (bits : Nat) : stoul bits text =
    if 2 ^ bits ≤ decimal digits then .error .outOfRange
    else .ok (signed bits sign (decimal digits)) := by
  have behind := (run_span parts.blank parts.blanks_end).2
  have number := (run_span parts.digit parts.stops).1
  rw [stoul, parts.shape, behind, parts.sign_behind]
  simp only [number, parts.some_digit, if_false]

/-- A text has its parts in one way only. -/
theorem unique {blanks' sign' digits' rest' : List Char}
    (parts' : Parts text blanks' sign' digits' rest') :
    blanks = blanks' ∧ sign = sign' ∧ digits = digits' ∧ rest = rest' := by
  have front := run_span parts.blank parts.blanks_end
  have front' := run_span parts'.blank parts'.blanks_end
  rw [← parts.shape] at front
  rw [← parts'.shape] at front'
  have behind := parts.sign_behind
  rw [← front.2, front'.2, parts'.sign_behind, Prod.mk.injEq] at behind
  have number := run_span parts.digit parts.stops
  have number' := run_span parts'.digit parts'.stops
  rw [behind.2] at number'
  exact ⟨front.1.symm.trans front'.1, behind.1.symm, number.1.symm.trans number'.1,
    number.2.symm.trans number'.2⟩

end Parts

/-- Digits alone. -/
theorem Parts.plain {digits : List Char} (some_digit : digits ≠ [])
    (digit : ∀ c ∈ digits, c.isDigit = true) : Parts digits [] [] digits [] where
  shape := by simp
  blank := nofun
  one_sign := .inl rfl
  some_digit := some_digit
  digit := digit
  stops := nofun

theorem splitSign_parts (text : List Char) : text = (splitSign text).1 ++ (splitSign text).2 ∧
    ((splitSign text).1 = [] ∨ (splitSign text).1 = ['+'] ∨ (splitSign text).1 = ['-']) := by
  unfold splitSign
  split
  · simp
  · simp
  · simp

/-- What was read stands at the front of the text. -/
theorem stoul_ok {bits : Nat} {text : List Char} {value : Nat}
    (read : stoul bits text = .ok value) : ∃ blanks sign digits rest,
      Parts text blanks sign digits rest ∧ decimal digits < 2 ^ bits ∧
        value = signed bits sign (decimal digits) := by
  unfold stoul at read
  simp only at read
  split at read
  · cases read
  · rename_i some_digit
    split at read
    · cases read
    · rename_i fits
      obtain ⟨whole, one_sign⟩ := splitSign_parts (text.dropWhile isSpace)
      refine ⟨text.takeWhile isSpace, (splitSign (text.dropWhile isSpace)).1, _,
        (splitSign (text.dropWhile isSpace)).2.dropWhile Char.isDigit,
        ⟨?_, ?_, one_sign, some_digit, ?_, ?_⟩, Nat.lt_of_not_le fits, (Except.ok.inj read).symm⟩
      · rw [List.takeWhile_append_dropWhile, ← whole, List.takeWhile_append_dropWhile]
      · intro c inside
        exact List.mem_takeWhile_imp inside
      · intro c inside
        exact List.mem_takeWhile_imp inside
      · intro c here
        have stops := List.head?_dropWhile_not Char.isDigit (splitSign (text.dropWhile isSpace)).2
        rw [Option.mem_def.mp here] at stops
        simpa using stops

end LeadingNumbers
