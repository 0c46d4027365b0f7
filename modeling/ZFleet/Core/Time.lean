import ZFleet.Foundations.FixedWidth

/-!
Canonical UTC timestamps with second resolution, as the clock helper writes them.
The texts are ordered like the instants they denote.
-/
namespace Time
open FixedWidth

def isLeapYear (year : Nat) : Bool :=
  year % 4 = 0 && (year % 100 ≠ 0 || year % 400 = 0)

def daysInMonth (leap : Bool) : Nat → Nat
  | 2 => if leap then 29 else 28
  | 4 | 6 | 9 | 11 => 30
  | _ => 31

def daysBeforeMonth (leap : Bool) (month : Nat) : Nat :=
  ((List.range month).drop 1).foldl (fun days m => days + daysInMonth leap m) 0

/-- The days of the years 0 up to this one in the proleptic Gregorian calendar. -/
def daysBeforeYear (year : Nat) : Nat :=
  365 * year + (year + 3) / 4 - (year + 99) / 100 + (year + 399) / 400

structure UtcSecond where
  year : Nat
  month : Nat
  day : Nat
  hour : Nat
  minute : Nat
  second : Nat
  year_lt : year < 10000
  month_pos : 0 < month
  month_le : month ≤ 12
  day_pos : 0 < day
  day_le : day ≤ daysInMonth (isLeapYear year) month
  hour_lt : hour < 24
  minute_lt : minute < 60
  second_lt : second < 60

namespace UtcSecond

/-- The text the clock helper prints: year-month-day, T, hour:minute:second, Z. -/
def toRfc3339 (t : UtcSecond) : String :=
  String.ofList (numeral 4 t.year ++ '-' :: (numeral 2 t.month ++ '-' :: (numeral 2 t.day ++
    'T' :: (numeral 2 t.hour ++ ':' :: (numeral 2 t.minute ++ ':' :: (numeral 2 t.second ++
      ['Z']))))))

def dayNumber (t : UtcSecond) : Nat :=
  daysBeforeYear t.year + daysBeforeMonth (isLeapYear t.year) t.month + t.day

def secondOfDay (t : UtcSecond) : Nat := t.hour * 3600 + t.minute * 60 + t.second

/-- Seconds since the first of January 1970. -/
def epochSeconds (t : UtcSecond) : Int :=
  ((t.dayNumber : Int) - 719529) * 86400 + t.secondOfDay

/-- The calendar order. -/
def Earlier (t u : UtcSecond) : Prop :=
  t.year < u.year ∨ (t.year = u.year ∧ (t.month < u.month ∨ (t.month = u.month ∧
    (t.day < u.day ∨ (t.day = u.day ∧ t.secondOfDay < u.secondOfDay)))))

end UtcSecond

/-- Multiples of four, a hundred and four hundred below a year and up to it. -/
theorem multiples_succ (year : Nat) :
    (year + 4) / 4 = (year + 3) / 4 + (if year % 4 = 0 then 1 else 0) ∧
      (year + 100) / 100 = (year + 99) / 100 + (if year % 100 = 0 then 1 else 0) ∧
      (year + 400) / 400 = (year + 399) / 400 + (if year % 400 = 0 then 1 else 0) := by
  refine ⟨?_, ?_, ?_⟩
  · split <;> omega
  · split <;> omega
  · split <;> omega

theorem isLeapYear_iff (year : Nat) :
    isLeapYear year = true ↔ year % 4 = 0 ∧ (year % 100 ≠ 0 ∨ year % 400 = 0) := by
  simp [isLeapYear]

theorem daysBeforeYear_succ (year : Nat) :
    daysBeforeYear (year + 1) = daysBeforeYear year + if isLeapYear year then 366 else 365 := by
  obtain ⟨four, hundred, fourHundred⟩ := multiples_succ year
  have fewer : (year + 99) / 100 ≤ (year + 3) / 4 := by omega
  have fewer' : (year + 100) / 100 ≤ (year + 4) / 4 := by omega
  have in_four : year % 100 = 0 → year % 4 = 0 := by omega
  have in_hundred : year % 400 = 0 → year % 100 = 0 := by omega
  simp only [daysBeforeYear, isLeapYear_iff, Nat.add_assoc, Nat.reduceAdd]
  generalize (year + 3) / 4 = a at *
  generalize (year + 99) / 100 = b at *
  generalize (year + 399) / 400 = c at *
  rw [four, hundred] at fewer'
  rw [four, hundred, fourHundred]
  by_cases h4 : year % 4 = 0
  · by_cases h100 : year % 100 = 0
    · by_cases h400 : year % 400 = 0
      · simp only [h4, h100, h400, if_true] at fewer' ⊢
        simp
        omega
      · simp [h4, h100, h400] at fewer' ⊢
        omega
    · have h400 : ¬ year % 400 = 0 := fun h => h100 (in_hundred h)
      simp [h4, h100, h400] at fewer' ⊢
      omega
  · have h100 : ¬ year % 100 = 0 := fun h => h4 (in_four h)
    have h400 : ¬ year % 400 = 0 := fun h => h100 (in_hundred h)
    simp [h4, h100, h400] at fewer' ⊢
    omega

theorem daysBeforeYear_mono {y z : Nat} (later : y ≤ z) :
    daysBeforeYear y ≤ daysBeforeYear z := by
  induction later with
  | refl => exact le_rfl
  | step _ ih =>
    rw [Nat.succ_eq_add_one, daysBeforeYear_succ]
    exact ih.trans (Nat.le_add_right _ _)

/-- A month ends before any later one of its year begins. -/
theorem month_ends_before (leap : Bool) :
    ∀ m < 13, ∀ n < 13, 0 < m → m < n →
      daysBeforeMonth leap m + daysInMonth leap m ≤ daysBeforeMonth leap n := by
  cases leap <;> decide

theorem month_ends_in_year (leap : Bool) :
    ∀ m < 13, 0 < m →
      daysBeforeMonth leap m + daysInMonth leap m ≤ if leap then 366 else 365 := by
  cases leap <;> decide

namespace UtcSecond

theorem secondOfDay_lt (t : UtcSecond) : t.secondOfDay < 86400 := by
  have hour := t.hour_lt
  have minute := t.minute_lt
  have second := t.second_lt
  unfold secondOfDay
  omega

theorem dayNumber_lt_of_year {t u : UtcSecond} (earlier : t.year < u.year) :
    t.dayNumber < u.dayNumber := by
  have inside := month_ends_in_year (isLeapYear t.year) t.month
    (Nat.lt_succ_of_le t.month_le) t.month_pos
  have next := daysBeforeYear_succ t.year
  have mono := daysBeforeYear_mono (Nat.succ_le_of_lt earlier)
  have day := t.day_le
  have pos := u.day_pos
  unfold dayNumber
  rw [Nat.succ_eq_add_one] at mono
  omega

theorem dayNumber_lt_of_month {t u : UtcSecond} (same : t.year = u.year)
    (earlier : t.month < u.month) : t.dayNumber < u.dayNumber := by
  have ends := month_ends_before (isLeapYear t.year) t.month (Nat.lt_succ_of_le t.month_le)
    u.month (Nat.lt_succ_of_le u.month_le) t.month_pos earlier
  have day := t.day_le
  have pos := u.day_pos
  unfold dayNumber
  rw [← same]
  omega

/-- Days are numbered in the order of their dates. -/
theorem dayNumber_lt_iff (t u : UtcSecond) :
    t.dayNumber < u.dayNumber ↔ t.year < u.year ∨ (t.year = u.year ∧
      (t.month < u.month ∨ (t.month = u.month ∧ t.day < u.day))) := by
  rcases Nat.lt_trichotomy t.year u.year with year | year | year
  · have before := dayNumber_lt_of_year year
    omega
  · rcases Nat.lt_trichotomy t.month u.month with month | month | month
    · have before := dayNumber_lt_of_month year month
      omega
    · unfold dayNumber
      rw [year, month]
      omega
    · have after := dayNumber_lt_of_month year.symm month
      omega
  · have after := dayNumber_lt_of_year year
    omega

theorem dayNumber_eq_iff (t u : UtcSecond) :
    t.dayNumber = u.dayNumber ↔ t.year = u.year ∧ t.month = u.month ∧ t.day = u.day := by
  have before := dayNumber_lt_iff t u
  have after := dayNumber_lt_iff u t
  omega

theorem epochSeconds_lt_of_earlier {t u : UtcSecond} (earlier : Earlier t u) :
    t.epochSeconds < u.epochSeconds := by
  have ht := t.secondOfDay_lt
  have hu := u.secondOfDay_lt
  have before := dayNumber_lt_iff t u
  have same := dayNumber_eq_iff t u
  unfold Earlier at earlier
  unfold epochSeconds
  omega

theorem earlier_trichotomy (t u : UtcSecond) :
    Earlier t u ∨ Earlier u t ∨ (t.year = u.year ∧ t.month = u.month ∧ t.day = u.day ∧
      t.secondOfDay = u.secondOfDay) := by
  unfold Earlier
  omega

theorem epochSeconds_lt_iff (t u : UtcSecond) :
    t.epochSeconds < u.epochSeconds ↔ Earlier t u := by
  constructor
  · intro before
    rcases earlier_trichotomy t u with earlier | later | ⟨year, month, day, seconds⟩
    · exact earlier
    · have after := epochSeconds_lt_of_earlier later
      omega
    · unfold epochSeconds dayNumber at before
      rw [year, month, day, seconds] at before
      omega
  · exact epochSeconds_lt_of_earlier

theorem day_lt (t : UtcSecond) : t.day < 10 ^ 2 := by
  have le := t.day_le
  have bound : daysInMonth (isLeapYear t.year) t.month ≤ 31 := by
    unfold daysInMonth
    split
    · split <;> omega
    all_goals omega
  omega

/-- The date in front of a text. -/
def dateText (t : UtcSecond) : List Char :=
  numeral 4 t.year ++ '-' :: (numeral 2 t.month ++ '-' :: numeral 2 t.day)

/-- The digits of a time, the second possibly a leap second. -/
def timeText (hour minute second : Nat) : List Char :=
  numeral 2 hour ++ ':' :: (numeral 2 minute ++ ':' :: numeral 2 second)

theorem toRfc3339_eq (t : UtcSecond) :
    t.toRfc3339 = String.ofList (dateText t ++ 'T' :: (timeText t.hour t.minute t.second ++
      ['Z'])) := by
  simp [toRfc3339, dateText, timeText]

/-- The date decides, then what follows it. -/
theorem dateText_lt_iff (t u : UtcSecond) (x y : List Char) :
    dateText t ++ x < dateText u ++ y ↔
      t.dayNumber < u.dayNumber ∨ (t.dayNumber = u.dayNumber ∧ x < y) := by
  have months : ∀ v : UtcSecond, v.month < 10 ^ 2 := by
    intro v
    have le := v.month_le
    omega
  simp only [dateText, List.append_assoc, List.cons_append]
  rw [field_lt_iff t.year_lt u.year_lt, separator_lt_iff, field_lt_iff (months t) (months u),
    separator_lt_iff, field_lt_iff (day_lt t) (day_lt u), dayNumber_lt_iff, dayNumber_eq_iff]
  tauto

/-- The digits of the time decide, then what follows them. -/
theorem timeText_lt_iff {h m s h' m' s' : Nat} (x y : List Char)
    (short : h < 100 ∧ m < 100 ∧ s < 100) (short' : h' < 100 ∧ m' < 100 ∧ s' < 100) :
    timeText h m s ++ x < timeText h' m' s' ++ y ↔ h < h' ∨ (h = h' ∧
      (m < m' ∨ (m = m' ∧ (s < s' ∨ (s = s' ∧ x < y))))) := by
  simp only [timeText, List.append_assoc, List.cons_append]
  rw [field_lt_iff short.1 short'.1, separator_lt_iff, field_lt_iff short.2.1 short'.2.1,
    separator_lt_iff, field_lt_iff short.2.2 short'.2.2]

/-- Later texts denote later instants. -/
theorem toRfc3339_lt_iff (t u : UtcSecond) :
    t.toRfc3339 < u.toRfc3339 ↔ t.epochSeconds < u.epochSeconds := by
  have bounds := fun v : UtcSecond => And.intro v.hour_lt (And.intro v.minute_lt v.second_lt)
  obtain ⟨hour, minute, second⟩ := bounds t
  obtain ⟨hour', minute', second'⟩ := bounds u
  rw [toRfc3339_eq, toRfc3339_eq, String.lt_iff_toList_lt, String.toList_ofList,
    String.toList_ofList, dateText_lt_iff, separator_lt_iff,
    timeText_lt_iff _ _ (by omega) (by omega)]
  simp only [lt_irrefl, and_false, or_false]
  unfold epochSeconds secondOfDay
  omega

theorem toRfc3339_le_iff (t u : UtcSecond) :
    t.toRfc3339 ≤ u.toRfc3339 ↔ t.epochSeconds ≤ u.epochSeconds := by
  rw [← not_lt, ← not_lt, toRfc3339_lt_iff]

end UtcSecond
end Time
