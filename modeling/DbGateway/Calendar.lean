import Mathlib.Data.Nat.Notation
import Mathlib.Tactic.IntervalCases

/-!
# DbGateway.Calendar

Python's `datetime` in UTC: the proleptic Gregorian calendar from year 1 to
year 9999.
-/

namespace DbGateway.Calendar

/-- `calendar.isleap` -/
def isLeap (year : Nat) : Bool := year % 4 = 0 && (year % 100 ≠ 0 || year % 400 = 0)

/-- `_days_before_year`: the days from 1 January of year 1 to that of `year`. -/
def daysBeforeYear (year : Nat) : Nat :=
  (year - 1) * 365 + (year - 1) / 4 - (year - 1) / 100 + (year - 1) / 400

/-- `_days_in_month` -/
def daysInMonth (year month : Nat) : Nat :=
  if month = 2 && isLeap year then 29
  else [31, 28, 31, 30, 31, 30, 31, 31, 30, 31, 30, 31].getD (month - 1) 0

/-- `_days_before_month` -/
def daysBeforeMonth (year month : Nat) : Nat :=
  [0, 31, 59, 90, 120, 151, 181, 212, 243, 273, 304, 334].getD (month - 1) 0 +
    (if 2 < month && isLeap year then 1 else 0)

/-- `datetime.date` -/
structure Date where
  year : Nat
  month : Nat
  day : Nat
  year_range : 1 ≤ year ∧ year ≤ 9999
  month_range : 1 ≤ month ∧ month ≤ 12
  day_range : 1 ≤ day ∧ day ≤ daysInMonth year month

/-- Decimal digits, filled up with zeros. -/
def padded : Nat → Nat → List Char
  | 0, _ => []
  | width + 1, n => padded width (n / 10) ++ [Nat.digitChar (n % 10)]

/-- `date.isoformat()` -/
def Date.isoformat (d : Date) : String :=
  String.ofList (padded 4 d.year ++ '-' :: padded 2 d.month ++ '-' :: padded 2 d.day)

/-- `date.toordinal()` -/
def Date.toordinal (d : Date) : Nat :=
  daysBeforeYear d.year + daysBeforeMonth d.year d.month + d.day

/-- The microseconds of a day. -/
abbrev dayLength : Nat := 86400000000

/-- `datetime.datetime`, with its time of day in microseconds. -/
structure DateTime where
  date : Date
  time : Fin dayLength

/-- Microseconds since the day before 1 January of year 1. -/
def DateTime.instant (t : DateTime) : Nat := t.date.toordinal * dayLength + t.time

/-- `t + timedelta(days=n)` is `t'`. -/
def DateTime.PlusDays (t : DateTime) (n : Int) (t' : DateTime) : Prop :=
  (t'.instant : Int) = t.instant + n * dayLength

/-- `t.replace(year=year)`; `none` is the `ValueError` of a date that does not
exist. -/
def DateTime.replaceYear (t : DateTime) (year : Int) : Option DateTime :=
  if h : (1 ≤ year.toNat ∧ year.toNat ≤ 9999) ∧ t.date.day ≤ daysInMonth year.toNat t.date.month then
    some ⟨⟨year.toNat, t.date.month, t.date.day, h.1, t.date.month_range,
      t.date.day_range.1, h.2⟩, t.time⟩
  else none

/-! ## Years -/

/-- A year has 365 days, or 366. -/
theorem daysBeforeYear_succ {year : Nat} (h : 1 ≤ year) :
    daysBeforeYear (year + 1) = daysBeforeYear year + 365 + (if isLeap year then 1 else 0) := by
  obtain ⟨y, rfl⟩ : ∃ y, year = y + 1 := ⟨year - 1, by omega⟩
  have h4 : (y + 1) / 4 = y / 4 + if (y + 1) % 4 = 0 then 1 else 0 := by
    split <;> omega
  have h100 : (y + 1) / 100 = y / 100 + if (y + 1) % 100 = 0 then 1 else 0 := by
    split <;> omega
  have h400 : (y + 1) / 400 = y / 400 + if (y + 1) % 400 = 0 then 1 else 0 := by
    split <;> omega
  have hle : y / 100 ≤ y / 4 := Nat.div_le_div_left (by decide) (by decide)
  have hcentury : (y + 1) % 100 = 0 → (y + 1) % 4 = 0 := by omega
  simp only [daysBeforeYear, isLeap, Nat.add_sub_cancel, h4, h100, h400, Bool.and_eq_true,
    Bool.or_eq_true, decide_eq_true_eq]
  generalize y / 4 = fours at *
  generalize y / 100 = centuries at *
  generalize y / 400 = cycles at *
  by_cases hfour : (y + 1) % 4 = 0
  · by_cases hhundred : (y + 1) % 100 = 0
    · by_cases hcycle : (y + 1) % 400 = 0 <;> simp [hfour, hhundred, hcycle] <;> omega
    · have hcycle : ¬ (y + 1) % 400 = 0 := by omega
      simp [hfour, hhundred, hcycle]
      omega
  · have hhundred : ¬ (y + 1) % 100 = 0 := fun h => hfour (hcentury h)
    have hcycle : ¬ (y + 1) % 400 = 0 := by omega
    simp [hfour, hhundred, hcycle]
    omega

theorem daysBeforeYear_add {year : Nat} (h : 1 ≤ year) (k : Nat) :
    daysBeforeYear year + 365 * k ≤ daysBeforeYear (year + k) := by
  induction k with
  | zero => exact Nat.le_refl _
  | succ k ih =>
      have hsucc := daysBeforeYear_succ (show 1 ≤ year + k by omega)
      rw [← Nat.add_assoc]
      omega

/-- The months before a date and its day fit into its year. -/
theorem Date.dayOfYear_le (d : Date) :
    daysBeforeMonth d.year d.month + d.day ≤ 365 + (if isLeap d.year then 1 else 0) := by
  obtain ⟨hlow, hhigh⟩ := d.month_range
  have hday := d.day_range.2
  generalize d.month = month at *
  cases hleap : isLeap d.year <;> interval_cases month <;>
    simp [daysBeforeMonth, daysInMonth, hleap] at hday ⊢ <;> omega

/-- A date of an earlier year is earlier. -/
theorem Date.toordinal_lt {d d' : Date} (h : d.year < d'.year) : d.toordinal < d'.toordinal := by
  have hyear := d.dayOfYear_le
  have hsucc := daysBeforeYear_succ d.year_range.1
  have hadd := daysBeforeYear_add (show 1 ≤ d.year + 1 by omega) (d'.year - (d.year + 1))
  rw [Nat.add_sub_cancel' h] at hadd
  have hday := d'.day_range.1
  unfold toordinal
  omega

/-- A month is over before a later one begins. -/
theorem daysBeforeMonth_add {year month month' : Nat} (h : 1 ≤ month) (hlt : month < month')
    (h' : month' ≤ 12) :
    daysBeforeMonth year month + daysInMonth year month ≤ daysBeforeMonth year month' := by
  cases hleap : isLeap year <;> interval_cases month' <;> interval_cases month <;>
    simp [daysBeforeMonth, daysInMonth, hleap]

/-- Dates are ordered by year, month and day. -/
theorem Date.toordinal_lt_iff {d d' : Date} :
    d.toordinal < d'.toordinal ↔
      d.year < d'.year ∨ d.year = d'.year ∧
        (d.month < d'.month ∨ d.month = d'.month ∧ d.day < d'.day) := by
  rcases lt_trichotomy d.year d'.year with hlt | heq | hgt
  · exact iff_of_true (toordinal_lt hlt) (.inl hlt)
  · have hday := d.day_range
    have hday' := d'.day_range
    rcases lt_trichotomy d.month d'.month with hlt | hmonth | hgt
    · have hadd := @daysBeforeMonth_add d.year _ _ d.month_range.1 hlt d'.month_range.2
      unfold toordinal
      rw [← heq]
      omega
    · unfold toordinal
      rw [← heq, ← hmonth]
      omega
    · have hadd := @daysBeforeMonth_add d'.year _ _ d'.month_range.1 hgt d.month_range.2
      unfold toordinal
      rw [heq]
      omega
  · have hlater := toordinal_lt hgt
    omega

/-- A later moment is not in an earlier year. -/
theorem DateTime.year_le {t t' : DateTime} (h : t.instant ≤ t'.instant) :
    t.date.year ≤ t'.date.year := by
  by_contra hlt
  have hordinal := Date.toordinal_lt (Nat.lt_of_not_le hlt)
  have htime := t'.time.isLt
  have hnext := Nat.mul_le_mul_right dayLength hordinal
  rw [Nat.succ_mul] at hnext
  unfold instant at h
  omega

/-! ## Replacing the year -/

theorem daysInMonth_february (year : Nat) :
    daysInMonth year 2 = if isLeap year then 29 else 28 := by
  cases h : isLeap year <;> simp [daysInMonth, h]

theorem DateTime.replaceYear_eq_some {t t' : DateTime} {year : Int}
    (h : t.replaceYear year = some t') :
    t'.date.year = year.toNat ∧ t'.date.month = t.date.month ∧ t'.date.day = t.date.day ∧
      t'.time = t.time := by
  unfold replaceYear at h
  split at h
  · rw [← Option.some.inj h]
    exact ⟨rfl, rfl, rfl, rfl⟩
  · contradiction

/-- Where the year cannot be replaced: it is out of range, or the date is 29
February and the year has none. -/
theorem DateTime.replaceYear_eq_none_iff (t : DateTime) (year : Int) :
    t.replaceYear year = none ↔ year < 1 ∨ 9999 < year ∨
      t.date.month = 2 ∧ t.date.day = 29 ∧ isLeap year.toNat = false := by
  have hlow := t.date.day_range.1
  have hday := t.date.day_range.2
  unfold replaceYear
  split
  · next h =>
    constructor
    · intro hnone
      contradiction
    rintro (hyear | hyear | ⟨hmonth, hday, hleap⟩)
    · omega
    · omega
    · have hmax := h.2
      rw [hmonth, hday, daysInMonth, hleap] at hmax
      simp at hmax
  · next h =>
    refine ⟨fun _ => ?_, fun _ => rfl⟩
    by_cases hyear : year < 1 ∨ 9999 < year
    · omega
    · have hrange : 1 ≤ year.toNat ∧ year.toNat ≤ 9999 := by omega
      have hlong : ¬ t.date.day ≤ daysInMonth year.toNat t.date.month := fun hle => h ⟨hrange, hle⟩
      refine .inr (.inr ?_)
      -- only February depends on the year
      by_cases hmonth : t.date.month = 2
      · rw [hmonth, daysInMonth_february] at hday hlong
        cases hleap : isLeap year.toNat
        · cases hleap' : isLeap t.date.year <;> simp [hleap, hleap'] at hday hlong <;>
            exact ⟨hmonth, by omega, rfl⟩
        · simp only [hleap, if_true] at hlong
          split at hday <;> omega
      · exact absurd (by simpa [daysInMonth, hmonth] using hday) hlong

/-- The same day of a year `k` years later is at least `365 * k - 1` days
later. -/
theorem Date.toordinal_add {d d' : Date} (k : Nat) (hyear : d'.year = d.year + k)
    (hmonth : d'.month = d.month) (hday : d'.day = d.day) :
    d.toordinal + 365 * k ≤ d'.toordinal + 1 := by
  have hadd := daysBeforeYear_add d.year_range.1 k
  have hmonths : daysBeforeMonth d.year d.month ≤ daysBeforeMonth d'.year d.month + 1 := by
    unfold daysBeforeMonth
    split <;> omega
  unfold toordinal
  rw [hyear, hmonth, hday]
  rw [hyear] at hmonths
  omega

end DbGateway.Calendar
