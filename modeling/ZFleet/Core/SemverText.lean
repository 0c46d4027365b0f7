import Mathlib.Data.List.Basic
import Mathlib.Data.List.Induction
import ZFleet.Core.Semver

/-!
The texts of versions. A version is printed as three numbers joined by two dots. The parser
takes the printed texts and, with the minus sign of `std::from_chars`, others that have `-0`
for a zero; a text that has one is no printed text, and the parser is exact on all others.
-/
namespace Semver

/-- A number as it is printed: digits, no zero in front of others, an `int`. -/
structure CanonicalPart (part : List Char) : Prop where
  nonempty : part ≠ []
  digits : ∀ digit ∈ part, digit.isDigit = true
  leading : part = ['0'] ∨ part.head? ≠ some '0'
  fits : digitsValue part ≤ intMax

/-- A minus sign with nothing but zeros behind it. -/
def SignedZero (part : List Char) : Prop :=
  ∃ zeros, part = '-' :: List.replicate (zeros + 1) '0'

def Dotted (text : String) (major minor patch : List Char) : Prop :=
  text.toList = major ++ '.' :: (minor ++ '.' :: patch)

/-- Three decimal numbers joined by two dots. -/
def Canonical (text : String) : Prop :=
  ∃ major minor patch, Dotted text major minor patch ∧
    CanonicalPart major ∧ CanonicalPart minor ∧ CanonicalPart patch

/-- A version text but for the sign of one zero or more. -/
def WithSignedZero (text : String) : Prop :=
  ∃ major minor patch, Dotted text major minor patch ∧
    (∀ part ∈ [major, minor, patch], CanonicalPart part ∨ SignedZero part) ∧
    ∃ part ∈ [major, minor, patch], SignedZero part

def Semver3.print (v : Semver3) : String :=
  toString v.major ++ "." ++ toString v.minor ++ "." ++ toString v.patch

def LexicographicLt (v w : Semver3) : Prop :=
  v.major < w.major ∨ v.major = w.major ∧
    (v.minor < w.minor ∨ v.minor = w.minor ∧ v.patch < w.patch)

theorem lt_iff (v w : Semver3) : v < w ↔ LexicographicLt v w := by
  have compared : v < w ↔ precedence v < precedence w := Iff.rfl
  simp [compared, precedence, Prod.Lex.toLex_lt_toLex, LexicographicLt]

/-! One part -/

theorem digitsValue_cons_zero (digits : List Char) :
    digitsValue ('0' :: digits) = digitsValue digits := by
  simp [digitsValue]

theorem digitsValue_concat (digits : List Char) (digit : Char) :
    digitsValue (digits ++ [digit]) = 10 * digitsValue digits + digitOf digit := by
  simp [digitsValue, digitOf]

theorem zeros_of_value {digits : List Char} (valid : ∀ digit ∈ digits, digit.isDigit = true)
    (zero : digitsValue digits = 0) : digits = List.replicate digits.length '0' := by
  induction digits using List.reverseRecOn with
  | nil => rfl
  | append_singleton digits digit ih =>
    rw [digitsValue_concat] at zero
    have last : digit = '0' := by
      apply digitOf_inj (valid digit (by simp)) (by decide)
      have none_left : digitOf digit = 0 := by omega
      exact none_left
    have before := ih (fun d inside => valid d (by simp [inside])) (by omega)
    rw [last, List.length_append, List.length_singleton, List.replicate_succ', ← before]

theorem digitsValue_zeros (zeros : Nat) : digitsValue (List.replicate zeros '0') = 0 := by
  induction zeros with
  | zero => rfl
  | succ zeros ih => rw [List.replicate_succ, digitsValue_cons_zero, ih]

theorem fromChars_unsigned {part : List Char} {value : Int} (plain : part.head? ≠ some '-') :
    fromChars part = some (value, []) ↔
      part ≠ [] ∧ (∀ digit ∈ part, digit.isDigit = true) ∧ digitsValue part ≤ intMax ∧
        value = digitsValue part := by
  have unfolded : fromChars part =
      if part.takeWhile Char.isDigit = [] then none
      else if digitsValue (part.takeWhile Char.isDigit) ≤ intMax then
        some ((digitsValue (part.takeWhile Char.isDigit) : Int), part.dropWhile Char.isDigit)
      else none := by
    simp [fromChars, plain]
  rw [unfolded]
  constructor
  · intro read
    split at read
    · cases read
    · split at read
      · obtain ⟨number, behind⟩ := Prod.mk.inj (Option.some.inj read)
        have digits : ∀ digit ∈ part, digit.isDigit = true := List.dropWhile_eq_nil_iff.mp behind
        rw [List.takeWhile_eq_self_iff.mpr digits] at *
        exact ⟨‹_›, digits, ‹_›, number.symm⟩
      · cases read
  · intro whole
    obtain ⟨nonempty, digits, fits, rfl⟩ := whole
    rw [List.takeWhile_eq_self_iff.mpr digits, List.dropWhile_eq_nil_iff.mpr digits,
      if_neg nonempty, if_pos fits]

theorem fromChars_signed {digits : List Char} {value : Int} :
    fromChars ('-' :: digits) = some (value, []) ↔
      digits ≠ [] ∧ (∀ digit ∈ digits, digit.isDigit = true) ∧
        digitsValue digits ≤ intMax + 1 ∧ value = -(digitsValue digits : Int) := by
  have unfolded : fromChars ('-' :: digits) =
      if digits.takeWhile Char.isDigit = [] then none
      else if digitsValue (digits.takeWhile Char.isDigit) ≤ intMax + 1 then
        some (-(digitsValue (digits.takeWhile Char.isDigit) : Int), digits.dropWhile Char.isDigit)
      else none := by
    simp [fromChars]
  rw [unfolded]
  constructor
  · intro read
    split at read
    · cases read
    · split at read
      · obtain ⟨number, behind⟩ := Prod.mk.inj (Option.some.inj read)
        have valid : ∀ digit ∈ digits, digit.isDigit = true := List.dropWhile_eq_nil_iff.mp behind
        rw [List.takeWhile_eq_self_iff.mpr valid] at *
        exact ⟨‹_›, valid, ‹_›, number.symm⟩
      · cases read
  · intro whole
    obtain ⟨nonempty, valid, fits, rfl⟩ := whole
    rw [List.takeWhile_eq_self_iff.mpr valid, List.dropWhile_eq_nil_iff.mpr valid, if_neg nonempty,
      if_pos fits]

theorem parseSemverPart_of_read {part : List Char} {n : Nat} :
    parseSemverPart part = some n ↔
      part ≠ [] ∧ ¬ (1 < part.length ∧ part.head? = some '0') ∧
        fromChars part = some ((n : Int), []) := by
  unfold parseSemverPart
  split
  · simp [*]
  · split
    · simp [*]
    · split
      · split
        · rename_i parsed read negative
          simp only [read, Option.some.injEq, Prod.mk.injEq, and_true, reduceCtorEq, false_iff,
            not_and]
          intro _ _ same
          omega
        · rename_i parsed read negative
          simp only [read, Option.some.injEq, Prod.mk.injEq, and_true]
          constructor
          · intro value
            exact ⟨‹_›, ‹_›, by omega⟩
          · intro whole
            omega
      · rename_i no_number
        simp only [reduceCtorEq, false_iff, not_and]
        intro _ _ read
        exact no_number _ read

theorem parseSemverPart_iff {part : List Char} {n : Nat} :
    parseSemverPart part = some n ↔
      (CanonicalPart part ∧ digitsValue part = n) ∨ (SignedZero part ∧ n = 0) := by
  rw [parseSemverPart_of_read]
  constructor
  · rintro ⟨nonempty, canonical, read⟩
    by_cases sign : part.head? = some '-'
    · right
      obtain ⟨digits, rfl⟩ := List.head?_eq_some_iff.mp sign
      obtain ⟨some_digit, valid, _, value⟩ := fromChars_signed.mp read
      have zero : digitsValue digits = 0 := by omega
      obtain ⟨zeros, length⟩ := Nat.exists_eq_succ_of_ne_zero
        (fun none => some_digit (List.length_eq_zero_iff.mp none))
      refine ⟨⟨zeros, ?_⟩, by omega⟩
      rw [zeros_of_value valid zero, length]
    · left
      obtain ⟨_, digits, fits, value⟩ := (fromChars_unsigned sign).mp read
      have leading : part = ['0'] ∨ part.head? ≠ some '0' := by
        by_cases zero : part.head? = some '0'
        · obtain ⟨rest, rfl⟩ := List.head?_eq_some_iff.mp zero
          have short : rest = [] := by
            by_contra longer
            exact canonical ⟨by have := List.length_pos_iff.mpr longer; simp; omega, rfl⟩
          exact Or.inl (by rw [short])
        · exact Or.inr zero
      exact ⟨⟨nonempty, digits, leading, fits⟩, by omega⟩
  · rintro (⟨canonical, rfl⟩ | ⟨⟨zeros, rfl⟩, rfl⟩)
    · have plain : part.head? ≠ some '-' := by
        intro sign
        have impossible := canonical.digits '-' (List.mem_of_head? sign)
        exact absurd impossible (by decide)
      refine ⟨canonical.nonempty, ?_, (fromChars_unsigned plain).mpr
        ⟨canonical.nonempty, canonical.digits, canonical.fits, rfl⟩⟩
      rintro ⟨long, zero⟩
      rcases canonical.leading with rfl | other
      · simp at long
      · exact other zero
    · refine ⟨by simp, by simp, fromChars_signed.mpr ⟨by simp, ?_, ?_, ?_⟩⟩
      · intro digit member
        rw [List.eq_of_mem_replicate member]
        rfl
      · rw [digitsValue_zeros]
        exact Nat.zero_le _
      · rw [digitsValue_zeros]
        rfl

/-! The printed text -/

theorem toDigits_digitsValue {part : List Char} (nonempty : part ≠ [])
    (digits : ∀ digit ∈ part, digit.isDigit = true)
    (leading : part = ['0'] ∨ part.head? ≠ some '0') :
    Nat.toDigits 10 (digitsValue part) = part := by
  induction part using List.reverseRecOn with
  | nil => exact absurd rfl nonempty
  | append_singleton front digit ih =>
    have isDigit : digit.isDigit = true := digits digit (by simp)
    have last : Nat.toDigits 10 (digitOf digit) = [digit] := by
      rw [Nat.toDigits_of_lt_base (digitOf_lt isDigit)]
      have same : digitOf (digitOf digit).digitChar = digitOf digit :=
        Nat.toNat_digitChar_sub_48_of_lt_ten (digitOf_lt isDigit)
      have printed : (digitOf digit).digitChar.isDigit = true := by
        simp [Nat.isDigit_digitChar, digitOf_lt isDigit]
      rw [digitOf_inj printed isDigit same]
    rw [digitsValue_concat]
    by_cases alone : front = []
    · simp [alone, digitsValue, last]
    · have head : front.head? ≠ some '0' := by
        rcases leading with single | other
        · simp [List.append_eq_singleton_iff, alone] at single
        · rwa [List.head?_append_of_ne_nil _ alone] at other
      have before := ih alone (fun d inside => digits d (by simp [inside])) (Or.inr head)
      have positive : 0 < digitsValue front := by
        by_contra zero
        have none_left : digitsValue front = 0 := by omega
        rw [none_left] at before
        exact head (by rw [← before]; rfl)
      rw [← Nat.toDigits_append_toDigits (by decide) positive (digitOf_lt isDigit), before, last]

theorem CanonicalPart.printed {part : List Char} (canonical : CanonicalPart part) :
    (toString (digitsValue part)).toList = part := by
  rw [Nat.toString_eq_repr, Nat.toList_repr]
  exact toDigits_digitsValue canonical.nonempty canonical.digits canonical.leading

theorem SignedZero.not_canonical {part : List Char} (signed : SignedZero part) :
    ¬ CanonicalPart part := by
  intro canonical
  obtain ⟨zeros, rfl⟩ := signed
  have impossible := canonical.digits '-' (by simp)
  exact absurd impossible (by decide)

/-! The whole text -/

theorem no_dot {part : List Char} {n : Nat} (parsed : parseSemverPart part = some n) :
    '.' ∉ part := by
  intro dot
  rcases parseSemverPart_iff.mp parsed with ⟨canonical, _⟩ | ⟨⟨zeros, rfl⟩, _⟩
  · exact absurd (canonical.digits '.' dot) (by decide)
  · simp at dot

theorem partBeforeDot_append {part rest : List Char} (plain : '.' ∉ part) :
    partBeforeDot (part ++ '.' :: rest) = (parseSemverPart part).map fun n => (n, rest) := by
  have inside : ∀ c ∈ part, decide (c ≠ '.') = true := by
    intro c member
    exact decide_eq_true (fun dot => plain (dot ▸ member))
  have stop : decide (('.' : Char) ≠ '.') = false := rfl
  unfold partBeforeDot
  rw [List.dropWhile_append_of_pos inside, List.takeWhile_append_of_pos inside,
    List.dropWhile_cons_of_neg (by simp), List.takeWhile_cons_of_neg (by simp), List.append_nil]

theorem parseSemver3_iff {text : String} {v : Semver3} :
    parseSemver3 text = some v ↔
      ∃ major minor patch, Dotted text major minor patch ∧ parseSemverPart major = some v.major ∧
        parseSemverPart minor = some v.minor ∧ parseSemverPart patch = some v.patch := by
  constructor
  · exact parseSemver3_some
  · rintro ⟨major, minor, patch, dotted, first, second, third⟩
    unfold parseSemver3
    simp only [show text.toList = _ from dotted, partBeforeDot_append (no_dot first),
      partBeforeDot_append (no_dot second), first, second, third, no_dot third, Option.map_some,
      if_false]

theorem parts_unique {part part' rest rest' : List Char} (plain : '.' ∉ part)
    (plain' : '.' ∉ part') (same : part ++ '.' :: rest = part' ++ '.' :: rest') :
    part = part' ∧ rest = rest' := by
  induction part generalizing part' with
  | nil =>
    cases part' with
    | nil => simpa using same
    | cons c part' =>
      obtain ⟨dot, _⟩ := List.cons.inj same
      exact absurd (by simp [← dot]) plain'
  | cons c part ih =>
    cases part' with
    | nil =>
      obtain ⟨dot, _⟩ := List.cons.inj same
      exact absurd (by simp [dot]) plain
    | cons c' part' =>
      obtain ⟨head, tail⟩ := List.cons.inj same
      obtain ⟨parts, rests⟩ := ih (fun inside => plain (by simp [inside]))
        (fun inside => plain' (by simp [inside])) tail
      exact ⟨by rw [head, parts], rests⟩

/-- The parts of an accepted text are determined by it. -/
theorem Dotted.unique {text : String} {major minor patch major' minor' patch' : List Char}
    (dotted : Dotted text major minor patch) (dotted' : Dotted text major' minor' patch')
    (plain : '.' ∉ major ∧ '.' ∉ minor) (plain' : '.' ∉ major' ∧ '.' ∉ minor') :
    major = major' ∧ minor = minor' ∧ patch = patch' := by
  have same : major ++ '.' :: (minor ++ '.' :: patch) = major' ++ '.' :: (minor' ++ '.' :: patch') :=
    dotted.symm.trans dotted'
  obtain ⟨majors, rest⟩ := parts_unique plain.1 plain'.1 same
  obtain ⟨minors, patches⟩ := parts_unique plain.2 plain'.2 rest
  exact ⟨majors, minors, patches⟩

theorem CanonicalPart.parsed {part : List Char} (canonical : CanonicalPart part) :
    parseSemverPart part = some (digitsValue part) :=
  parseSemverPart_iff.mpr (Or.inl ⟨canonical, rfl⟩)

theorem Canonical.parsed {text : String} (canonical : Canonical text) :
    ∃ v, parseSemver3 text = some v ∧ v.print = text := by
  obtain ⟨major, minor, patch, dotted, first, second, third⟩ := canonical
  refine ⟨⟨digitsValue major, digitsValue minor, digitsValue patch⟩,
    parseSemver3_iff.mpr
      ⟨major, minor, patch, dotted, first.parsed, second.parsed, third.parsed⟩, ?_⟩
  apply String.toList_inj.mp
  rw [show text.toList = _ from dotted]
  simp only [Semver3.print, String.toList_append, first.printed, second.printed, third.printed]
  simp

theorem accepted_iff (text : String) :
    (parseSemver3 text).isSome = true ↔ Canonical text ∨ WithSignedZero text := by
  constructor
  · intro accepted
    obtain ⟨v, parsed⟩ := Option.isSome_iff_exists.mp accepted
    obtain ⟨major, minor, patch, dotted, first, second, third⟩ := parseSemver3_iff.mp parsed
    have either : ∀ part ∈ [major, minor, patch], CanonicalPart part ∨ SignedZero part := by
      intro part member
      have readable : ∃ n, parseSemverPart part = some n := by
        simp only [List.mem_cons, List.not_mem_nil, or_false] at member
        rcases member with rfl | rfl | rfl
        · exact ⟨_, first⟩
        · exact ⟨_, second⟩
        · exact ⟨_, third⟩
      obtain ⟨n, read⟩ := readable
      exact (parseSemverPart_iff.mp read).imp And.left And.left
    by_cases signed : ∃ part ∈ [major, minor, patch], SignedZero part
    · exact Or.inr ⟨major, minor, patch, dotted, either, signed⟩
    · have plain : ∀ part ∈ [major, minor, patch], CanonicalPart part := fun part member =>
        (either part member).resolve_right fun zero => signed ⟨part, member, zero⟩
      exact Or.inl ⟨major, minor, patch, dotted, plain major (by simp), plain minor (by simp),
        plain patch (by simp)⟩
  · rintro (canonical | ⟨major, minor, patch, dotted, either, _⟩)
    · obtain ⟨v, parsed, _⟩ := canonical.parsed
      rw [parsed]
      rfl
    · have readable : ∀ part ∈ [major, minor, patch], ∃ n, parseSemverPart part = some n := by
        intro part member
        rcases either part member with canonical | signed
        · exact ⟨_, canonical.parsed⟩
        · exact ⟨0, parseSemverPart_iff.mpr (Or.inr ⟨signed, rfl⟩)⟩
      obtain ⟨first, read⟩ := readable major (by simp)
      obtain ⟨second, read'⟩ := readable minor (by simp)
      obtain ⟨third, read''⟩ := readable patch (by simp)
      have parsed : parseSemver3 text = some ⟨first, second, third⟩ :=
        parseSemver3_iff.mpr ⟨major, minor, patch, dotted, read, read', read''⟩
      rw [parsed]
      rfl

theorem CanonicalPart.no_dot {part : List Char} (canonical : CanonicalPart part) : '.' ∉ part :=
  Semver.no_dot canonical.parsed

theorem WithSignedZero.not_canonical {text : String} (signed : WithSignedZero text) :
    ¬ Canonical text := by
  rintro ⟨major, minor, patch, dotted, first, second, third⟩
  obtain ⟨major', minor', patch', dotted', either, part, member, zero⟩ := signed
  have plain : ∀ part ∈ [major', minor', patch'], '.' ∉ part := by
    intro part member
    rcases either part member with canonical | ⟨zeros, rfl⟩
    · exact canonical.no_dot
    · simp
  obtain ⟨rfl, rfl, rfl⟩ := dotted.unique dotted' ⟨first.no_dot, second.no_dot⟩
    ⟨plain _ (by simp), plain _ (by simp)⟩
  simp only [List.mem_cons, List.not_mem_nil, or_false] at member
  rcases member with rfl | rfl | rfl
  · exact zero.not_canonical first
  · exact zero.not_canonical second
  · exact zero.not_canonical third

/-- What an exact parser does with a text. -/
structure Exact (text : String) : Prop where
  accepted : (parseSemver3 text).isSome = true ↔ Canonical text
  printed : ∀ v, parseSemver3 text = some v → v.print = text
  ordered : ∀ other v w, parseSemver3 text = some v → parseSemver3 other = some w →
    (v < w ↔ LexicographicLt v w) ∧ (w < v ↔ LexicographicLt w v)

/-- The parser is exact but for zeros with a minus sign; so different texts without one are
    different versions. -/
theorem exact_iff (text : String) :
    (Exact text ↔ ¬ WithSignedZero text) ∧
      ∀ other, ¬ WithSignedZero text → ¬ WithSignedZero other → ∀ v, parseSemver3 text = some v →
        parseSemver3 other = some v → text = other := by
  have printed : ∀ text, ¬ WithSignedZero text → ∀ v, parseSemver3 text = some v →
      v.print = text := by
    intro text unsigned v parsed
    have accepted : (parseSemver3 text).isSome = true := by rw [parsed]; rfl
    obtain ⟨w, parsed', prints⟩ := (((accepted_iff text).mp accepted).resolve_right unsigned).parsed
    rw [parsed] at parsed'
    rw [Option.some.inj parsed', prints]
  constructor
  · constructor
    · intro exact_here signed
      exact signed.not_canonical (exact_here.accepted.mp ((accepted_iff text).mpr (Or.inr signed)))
    · intro unsigned
      refine ⟨?_, printed text unsigned, fun _ v w _ _ => ⟨lt_iff v w, lt_iff w v⟩⟩
      rw [accepted_iff]
      exact or_iff_left unsigned
  · intro other unsigned unsigned' v parsed parsed'
    rw [← printed text unsigned v parsed, printed other unsigned' v parsed']

theorem minus_zero_accepted : ¬ Exact "1.-0.0" := by
  intro exact_here
  exact absurd (exact_here.printed ⟨1, 0, 0⟩ (by decide)) (by decide)

end Semver
