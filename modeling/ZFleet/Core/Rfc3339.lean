import ZFleet.Core.Time
import Mathlib.Data.Rat.Floor

/-!
Timestamps in every form RFC 3339 allows, beside the canonical one the clock helper
writes: a lower-case separator, a leap second, a fraction of a second, a lower-case z or an
offset. A comparison of texts reads such a timestamp at an instant of its own.
-/
namespace Rfc3339
open FixedWidth Time

inductive Zone where
  | zulu (lower : Bool)
  | offset (west : Bool) (hours : Fin 24) (minutes : Fin 60)
  deriving DecidableEq, Repr

/-- The date and the time as written; a leap second is the second after `clock`. -/
structure Timestamp where
  clock : UtcSecond
  leap : Bool
  lowerT : Bool
  fraction : List (Fin 10)
  zone : Zone
  leap_last : leap = true → clock.second = 59

def zoneText : Zone → List Char
  | .zulu lower => [if lower then 'z' else 'Z']
  | .offset west hours minutes =>
    (if west then '-' else '+') :: (numeral 2 hours ++ ':' :: numeral 2 minutes)

def fractionText (fraction : List (Fin 10)) : List Char :=
  if fraction = [] then [] else '.' :: fraction.map fun digit => digitChar digit

/-- The seconds the written time is ahead of UTC. -/
def Zone.ahead : Zone → Int
  | .zulu _ => 0
  | .offset west hours minutes =>
    let seconds : Int := hours.val * 3600 + minutes.val * 60
    if west then -seconds else seconds

def fractionValue : List (Fin 10) → ℚ
  | [] => 0
  | digit :: rest => (digit.val + fractionValue rest) / 10

theorem fractionValue_nonneg (fraction : List (Fin 10)) : 0 ≤ fractionValue fraction := by
  induction fraction with
  | nil => exact le_rfl
  | cons digit rest ih =>
    unfold fractionValue
    positivity

theorem fractionValue_lt_one (fraction : List (Fin 10)) : fractionValue fraction < 1 := by
  induction fraction with
  | nil => exact zero_lt_one
  | cons digit rest ih =>
    have le : (digit.val : ℚ) ≤ 9 := by exact_mod_cast Nat.le_of_lt_succ digit.isLt
    unfold fractionValue
    linarith

/-- Only zeros add nothing. -/
theorem fractionValue_eq_zero_iff (fraction : List (Fin 10)) :
    fractionValue fraction = 0 ↔ ∀ digit ∈ fraction, digit = 0 := by
  induction fraction with
  | nil => simp [fractionValue]
  | cons digit rest ih =>
    have nonneg := fractionValue_nonneg rest
    have digit_nonneg : (0 : ℚ) ≤ digit.val := by positivity
    rw [List.forall_mem_cons, ← ih, fractionValue]
    constructor
    · intro zero
      have both : (digit.val : ℚ) = 0 ∧ fractionValue rest = 0 := by
        constructor <;> linarith
      exact ⟨Fin.ext (Nat.cast_eq_zero.mp both.1), both.2⟩
    · rintro ⟨rfl, zero⟩
      simp [zero]

namespace Timestamp

def leapSecond (e : Timestamp) : Nat := if e.leap then 1 else 0

def suffix (e : Timestamp) : List Char := fractionText e.fraction ++ zoneText e.zone

def toText (e : Timestamp) : String :=
  String.ofList (e.clock.dateText ++ (if e.lowerT then 't' else 'T') ::
    (UtcSecond.timeText e.clock.hour e.clock.minute (e.clock.second + e.leapSecond) ++ e.suffix))

/-- The date and the time as written, taken for UTC. -/
def written (e : Timestamp) : Int := e.clock.epochSeconds + e.leapSecond

/-- The second of UTC in which the instant lies. -/
def utcSecond (e : Timestamp) : Int := e.written - e.zone.ahead

/-- The instant the timestamp denotes, in seconds since the first of January 1970. -/
def instant (e : Timestamp) : ℚ := e.utcSecond + fractionValue e.fraction

/-- The first second of the day after the written date. -/
def nextDay (e : Timestamp) : Int := ((e.clock.dayNumber : Int) + 1 - 719529) * 86400

/-- Neither a leap second nor a fraction nor an offset is written. -/
def plain (e : Timestamp) : Bool :=
  !e.leap && e.fraction.isEmpty && (e.zone = .zulu false || e.zone = .zulu true)

/-- The first second whose canonical text is not before this text. -/
def textReached (e : Timestamp) : Int :=
  if e.lowerT then e.nextDay
  else if e.plain && e.zone = .zulu true then e.written + 1
  else e.written

/-- The first second whose canonical text is behind this text. -/
def textPassed (e : Timestamp) : Int :=
  if e.lowerT then e.nextDay else if e.plain then e.written + 1 else e.written

/-- The first second that is not before the instant. -/
def reached (e : Timestamp) : Int :=
  if e.fraction.all (· = 0) then e.utcSecond else e.utcSecond + 1

/-- The first second behind the instant. -/
def passed (e : Timestamp) : Int := e.utcSecond + 1

theorem instant_le_iff (e : Timestamp) (second : Int) :
    e.instant ≤ second ↔ e.reached ≤ second := by
  have nonneg := fractionValue_nonneg e.fraction
  have lt_one := fractionValue_lt_one e.fraction
  unfold instant reached
  by_cases zero : fractionValue e.fraction = 0
  · have digits := (fractionValue_eq_zero_iff e.fraction).mp zero
    rw [if_pos (by simpa using digits), zero, add_zero]
    exact Int.cast_le
  · have digits : ¬ ∀ digit ∈ e.fraction, digit = 0 :=
      fun all => zero ((fractionValue_eq_zero_iff e.fraction).mpr all)
    have positive : 0 < fractionValue e.fraction := lt_of_le_of_ne nonneg (Ne.symm zero)
    rw [if_neg (by simpa using digits)]
    constructor
    · intro le
      have before : (e.utcSecond : ℚ) < second := by linarith
      exact Int.add_one_le_of_lt (Int.cast_lt.mp before)
    · intro le
      have le' : ((e.utcSecond + 1 : Int) : ℚ) ≤ second := Int.cast_le.mpr le
      push_cast at le'
      linarith

theorem instant_lt_iff (e : Timestamp) (second : Int) :
    e.instant < second ↔ e.passed ≤ second := by
  have nonneg := fractionValue_nonneg e.fraction
  have lt_one := fractionValue_lt_one e.fraction
  unfold instant passed
  constructor
  · intro lt
    have before : (e.utcSecond : ℚ) < second := by linarith
    exact Int.add_one_le_of_lt (Int.cast_lt.mp before)
  · intro le
    have le' : ((e.utcSecond + 1 : Int) : ℚ) ≤ second := Int.cast_le.mpr le
    push_cast at le'
    linarith

/-- The timestamp the clock helper writes for a second. -/
def ofUtc (t : UtcSecond) : Timestamp where
  clock := t
  leap := false
  lowerT := false
  fraction := []
  zone := .zulu false
  leap_last := by simp

theorem ofUtc_toText (t : UtcSecond) : (ofUtc t).toText = t.toRfc3339 := by
  rw [UtcSecond.toRfc3339_eq]
  rfl

/-! Texts -/

theorem plain_iff (e : Timestamp) :
    e.plain = true ↔ e.leap = false ∧ e.fraction = [] ∧ ∃ lower, e.zone = .zulu lower := by
  simp only [plain, Bool.and_eq_true, Bool.not_eq_true', List.isEmpty_iff, Bool.or_eq_true,
    decide_eq_true_eq, Bool.exists_bool, and_assoc]

/-- Behind the digits of the time only a lower-case z comes after an upper-case one. -/
theorem before_suffix_iff (e : Timestamp) :
    ['Z'] < e.suffix ↔ e.fraction = [] ∧ e.zone = .zulu true := by
  unfold suffix fractionText
  by_cases whole : e.fraction = []
  · cases e.zone with
    | zulu lower =>
      cases lower
      · simp [zoneText, whole]
      · simp only [zoneText, whole, if_true]
        decide
    | offset west hours minutes => cases west <;> simp [zoneText, whole, List.cons_lt_cons_iff]
  · simp [whole, List.cons_lt_cons_iff]

theorem suffix_before_iff (e : Timestamp) :
    e.suffix < ['Z'] ↔ ¬ (e.fraction = [] ∧ ∃ lower, e.zone = .zulu lower) := by
  unfold suffix fractionText
  by_cases whole : e.fraction = []
  · cases e.zone with
    | zulu lower =>
      cases lower
      · simp [zoneText, whole]
      · simp only [zoneText, whole, if_true]
        decide
    | offset west hours minutes => cases west <;> simp [zoneText, whole, List.cons_lt_cons_iff]
  · simp [whole, List.cons_lt_cons_iff]

theorem leapSecond_le (e : Timestamp) : e.clock.second + e.leapSecond ≤ 60 := by
  have bound := e.clock.second_lt
  unfold leapSecond
  split <;> omega

/-- The canonical text of `t` against this text, separator by separator. -/
theorem toRfc3339_lt_digits (t : UtcSecond) (e : Timestamp) :
    t.toRfc3339 < e.toText ↔ t.dayNumber < e.clock.dayNumber ∨
      (t.dayNumber = e.clock.dayNumber ∧ (e.lowerT = true ∨ (e.lowerT = false ∧
        (t.hour < e.clock.hour ∨ (t.hour = e.clock.hour ∧
          (t.minute < e.clock.minute ∨ (t.minute = e.clock.minute ∧
            (t.second < e.clock.second + e.leapSecond ∨
              (t.second = e.clock.second + e.leapSecond ∧ ['Z'] < e.suffix))))))))) := by
  have bounds := fun v : UtcSecond => And.intro v.hour_lt (And.intro v.minute_lt v.second_lt)
  obtain ⟨hour, minute, second⟩ := bounds t
  obtain ⟨hour', minute', second'⟩ := bounds e.clock
  have leap := leapSecond_le e
  rw [UtcSecond.toRfc3339_eq, toText, String.lt_iff_toList_lt, String.toList_ofList,
    String.toList_ofList, UtcSecond.dateText_lt_iff, List.cons_lt_cons_iff,
    UtcSecond.timeText_lt_iff _ _ (by omega) (by omega)]
  cases e.lowerT <;> simp

theorem digits_lt_toRfc3339 (t : UtcSecond) (e : Timestamp) :
    e.toText < t.toRfc3339 ↔ e.clock.dayNumber < t.dayNumber ∨
      (e.clock.dayNumber = t.dayNumber ∧ e.lowerT = false ∧
        (e.clock.hour < t.hour ∨ (e.clock.hour = t.hour ∧
          (e.clock.minute < t.minute ∨ (e.clock.minute = t.minute ∧
            (e.clock.second + e.leapSecond < t.second ∨
              (e.clock.second + e.leapSecond = t.second ∧ e.suffix < ['Z']))))))) := by
  have bounds := fun v : UtcSecond => And.intro v.hour_lt (And.intro v.minute_lt v.second_lt)
  obtain ⟨hour, minute, second⟩ := bounds t
  obtain ⟨hour', minute', second'⟩ := bounds e.clock
  have leap := leapSecond_le e
  rw [UtcSecond.toRfc3339_eq, toText, String.lt_iff_toList_lt, String.toList_ofList,
    String.toList_ofList, UtcSecond.dateText_lt_iff, List.cons_lt_cons_iff,
    UtcSecond.timeText_lt_iff _ _ (by omega) (by omega)]
  cases e.lowerT <;> simp

/-- The text of a second is before this text until the second it is read at. -/
theorem toRfc3339_lt_iff (t : UtcSecond) (e : Timestamp) :
    t.toRfc3339 < e.toText ↔ t.epochSeconds < e.textReached := by
  have bounds := fun v : UtcSecond => And.intro v.hour_lt (And.intro v.minute_lt v.second_lt)
  obtain ⟨hour, minute, second⟩ := bounds t
  obtain ⟨hour', minute', second'⟩ := bounds e.clock
  have last := e.leap_last
  have day := t.secondOfDay_lt
  rw [toRfc3339_lt_digits, before_suffix_iff]
  unfold textReached
  cases lower : e.lowerT with
  | true =>
    simp only [true_or, and_true, if_true]
    unfold nextDay UtcSecond.epochSeconds
    omega
  | false =>
    simp only [Bool.false_eq_true, false_or, true_and, if_false]
    unfold written leapSecond UtcSecond.epochSeconds UtcSecond.secondOfDay
    cases leap : e.leap with
    | true =>
      have unplain : e.plain = false := by simp [plain, leap]
      simp only [unplain, Bool.false_and, Bool.false_eq_true, if_false, if_true]
      have full := last leap
      omega
    | false =>
      by_cases late : e.fraction = [] ∧ e.zone = .zulu true
      · have plain : e.plain = true := (plain_iff e).mpr ⟨leap, late.1, true, late.2⟩
        have both : (e.plain && decide (e.zone = .zulu true)) = true := by simp [plain, late.2]
        rw [iff_true_intro late, both, and_true]
        simp only [Bool.false_eq_true, if_false, if_true]
        omega
      · have early : (e.plain && decide (e.zone = .zulu true)) = false := by
          rw [Bool.eq_false_iff]
          intro both
          simp only [plain, Bool.and_eq_true, List.isEmpty_iff, decide_eq_true_eq] at both
          exact late ⟨both.1.1.2, both.2⟩
        simp only [early, late, and_false, or_false, Bool.false_eq_true, if_false]
        omega

/-- It is behind this text from another second on. -/
theorem lt_toRfc3339_iff (t : UtcSecond) (e : Timestamp) :
    e.toText < t.toRfc3339 ↔ e.textPassed ≤ t.epochSeconds := by
  have bounds := fun v : UtcSecond => And.intro v.hour_lt (And.intro v.minute_lt v.second_lt)
  obtain ⟨hour, minute, second⟩ := bounds t
  obtain ⟨hour', minute', second'⟩ := bounds e.clock
  have last := e.leap_last
  have day := t.secondOfDay_lt
  rw [digits_lt_toRfc3339, suffix_before_iff]
  unfold textPassed
  cases lower : e.lowerT with
  | true =>
    simp only [Bool.true_eq_false, false_and, and_false, or_false, if_true]
    unfold nextDay UtcSecond.epochSeconds
    omega
  | false =>
    simp only [Bool.false_eq_true, true_and, if_false]
    unfold written leapSecond UtcSecond.epochSeconds UtcSecond.secondOfDay
    cases leap : e.leap with
    | true =>
      have unplain : e.plain = false := by simp [plain, leap]
      simp only [unplain, Bool.false_eq_true, if_false, if_true]
      have full := last leap
      omega
    | false =>
      have means : e.fraction = [] ∧ (∃ lower, e.zone = .zulu lower) ↔ e.plain = true := by
        rw [plain_iff, leap, and_iff_right rfl]
      rw [means]
      cases e.plain with
      | true =>
        simp only [not_true_eq_false, and_false, or_false, Bool.false_eq_true, if_false, if_true]
        omega
      | false =>
        simp only [Bool.false_eq_true, not_false_eq_true, and_true, if_false]
        omega

end Timestamp
end Rfc3339
