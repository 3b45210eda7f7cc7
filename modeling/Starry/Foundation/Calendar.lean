import Mathlib.Tactic

/-!
# Civil dates, times of day and fixed-width decimals

`Date.ofDays` is the Gregorian date of a day counted from 1 January 1970. Years are counted
from March here, so that the leap day is the last day of a year, and in eras of 400 years, which
all have 146097 days. `Date.toDays` counts back, so a date determines its day.
`DateTime.ofSeconds` adds the time of day.

`fixedDecimal width n` lists the `width` low decimal digits of `n`, most significant first.
-/
namespace Starry.Foundation

structure Date where
  year : Int
  month : Int
  day : Int
  deriving DecidableEq, Repr

namespace Date

/-- A day of an era: its century, the four years of the century, the year of these and the day
of that year. The last century and the last year of four have one day more. -/
structure EraDay where
  century : Int
  olympiad : Int
  year : Int
  day : Int

def EraDay.of (dayOfEra : Int) : EraDay :=
  let century := min (dayOfEra / 36524) 3
  let dayOfCentury := dayOfEra - 36524 * century
  let dayOfOlympiad := dayOfCentury % 1461
  let year := min (dayOfOlympiad / 365) 3
  ⟨century, dayOfCentury / 1461, year, dayOfOlympiad - 365 * year⟩

def EraDay.yearOfEra (e : EraDay) : Int := 100 * e.century + 4 * e.olympiad + e.year

/-- The days of an era before one of its years. -/
def daysBefore (yearOfEra : Int) : Int := 365 * yearOfEra + yearOfEra / 4 - yearOfEra / 100

/-- The date of a day of a month counted from March as 0. -/
def ofMarch (year month day : Int) : Date :=
  if month < 10 then ⟨year, month + 3, day⟩ else ⟨year + 1, month - 9, day⟩

def marchMonth (date : Date) : Int := if 2 < date.month then date.month - 3 else date.month + 9

def marchYear (date : Date) : Int := if 2 < date.month then date.year else date.year - 1

def ofDays (days : Int) : Date :=
  let e := EraDay.of ((days + 719468) % 146097)
  let month := (5 * e.day + 2) / 153
  ofMarch ((days + 719468) / 146097 * 400 + e.yearOfEra) month (e.day - (153 * month + 2) / 5 + 1)

def toDays (date : Date) : Int :=
  date.marchYear / 400 * 146097 + daysBefore (date.marchYear % 400) +
    (153 * date.marchMonth + 2) / 5 + date.day - 1 - 719468

theorem marchMonth_ofMarch {year month day : Int} (range : 0 ≤ month ∧ month ≤ 11) :
    (ofMarch year month day).marchMonth = month := by
  unfold marchMonth ofMarch
  split <;> dsimp only <;> split <;> omega

theorem marchYear_ofMarch {year month day : Int} (range : 0 ≤ month ∧ month ≤ 11) :
    (ofMarch year month day).marchYear = year := by
  unfold marchYear ofMarch
  split <;> dsimp only <;> split <;> omega

theorem day_ofMarch (year month day : Int) : (ofMarch year month day).day = day := by
  unfold ofMarch
  split <;> rfl

structure EraDay.InRange (e : EraDay) : Prop where
  century : 0 ≤ e.century ∧ e.century ≤ 3
  olympiad : 0 ≤ e.olympiad ∧ e.olympiad ≤ 24
  year : 0 ≤ e.year ∧ e.year ≤ 3
  day : 0 ≤ e.day ∧ e.day ≤ 365

/-- The parts of a day within its era are in their ranges. -/
theorem EraDay.of_inRange {dayOfEra : Int} (lower : 0 ≤ dayOfEra) (upper : dayOfEra < 146097) :
    (EraDay.of dayOfEra).InRange := by
  have century : 0 ≤ min (dayOfEra / 36524) 3 ∧ min (dayOfEra / 36524) 3 ≤ 3 := by omega
  have dayOfCentury : 0 ≤ dayOfEra - 36524 * min (dayOfEra / 36524) 3 ∧
      dayOfEra - 36524 * min (dayOfEra / 36524) 3 ≤ 36524 := by omega
  constructor <;> simp only [EraDay.of]
  · exact century
  · omega
  · omega
  · omega

/-- The days before the year of an era and the day of that year make up the day of the era. -/
theorem EraDay.daysBefore_add (dayOfEra : Int) (range : (EraDay.of dayOfEra).InRange) :
    daysBefore (EraDay.of dayOfEra).yearOfEra + (EraDay.of dayOfEra).day = dayOfEra := by
  obtain ⟨century, olympiad, year, day⟩ := range
  have quarters : (EraDay.of dayOfEra).yearOfEra / 4 =
      25 * (EraDay.of dayOfEra).century + (EraDay.of dayOfEra).olympiad := by
    unfold yearOfEra
    omega
  have centuries : (EraDay.of dayOfEra).yearOfEra / 100 = (EraDay.of dayOfEra).century := by
    unfold yearOfEra
    omega
  rw [daysBefore, quarters, centuries, yearOfEra]
  simp only [EraDay.of]
  omega

theorem EraDay.InRange.month {e : EraDay} (range : e.InRange) :
    0 ≤ (5 * e.day + 2) / 153 ∧ (5 * e.day + 2) / 153 ≤ 11 := by
  have day := range.day
  omega

theorem EraDay.InRange.yearOfEra {e : EraDay} (range : e.InRange) :
    0 ≤ e.yearOfEra ∧ e.yearOfEra < 400 := by
  obtain ⟨century, olympiad, year, _⟩ := range
  unfold EraDay.yearOfEra
  omega

/-- Month and day are those of a calendar, and the year is one of the era. -/
theorem ofDays_range (days : Int) :
    1 ≤ (ofDays days).month ∧ (ofDays days).month ≤ 12 ∧
    1 ≤ (ofDays days).day ∧ (ofDays days).day ≤ 31 ∧
    (days + 719468) / 146097 * 400 ≤ (ofDays days).year ∧
    (ofDays days).year ≤ (days + 719468) / 146097 * 400 + 400 := by
  have range := @EraDay.of_inRange ((days + 719468) % 146097) (by omega) (by omega)
  have day := range.day
  have year := range.yearOfEra
  have month := range.month
  simp only [ofDays, ofMarch]
  split
  · dsimp only
    omega
  · dsimp only
    omega

/-- The date of a day leads back to the day. -/
theorem toDays_ofDays (days : Int) : (ofDays days).toDays = days := by
  have range := @EraDay.of_inRange ((days + 719468) % 146097) (by omega) (by omega)
  have whole := EraDay.daysBefore_add _ range
  have year := range.yearOfEra
  have era : ((days + 719468) / 146097 * 400 + (EraDay.of ((days + 719468) % 146097)).yearOfEra) /
      400 = (days + 719468) / 146097 := by omega
  have rest : ((days + 719468) / 146097 * 400 + (EraDay.of ((days + 719468) % 146097)).yearOfEra) %
      400 = (EraDay.of ((days + 719468) % 146097)).yearOfEra := by omega
  simp only [ofDays, toDays]
  rw [marchYear_ofMarch range.month, marchMonth_ofMarch range.month, day_ofMarch, era, rest]
  omega

/-- Different days have different dates. -/
theorem ofDays_injective {first second : Int} (same : ofDays first = ofDays second) :
    first = second := by
  rw [← toDays_ofDays first, same, toDays_ofDays]

end Date

example : Date.ofDays 19782 = ⟨2024, 2, 29⟩ := by decide

/-! ## Times of day -/

structure DateTime where
  date : Date
  hour : Nat
  minute : Nat
  second : Nat
  deriving DecidableEq, Repr

namespace DateTime

/-- The date and time of a second counted from the beginning of 1970. -/
def ofSeconds (seconds : Int) : DateTime :=
  let time := (seconds % 86400).toNat
  ⟨Date.ofDays (seconds / 86400), time / 3600, time / 60 % 60, time % 60⟩

theorem ofSeconds_range (seconds : Int) :
    (ofSeconds seconds).hour < 24 ∧ (ofSeconds seconds).minute < 60 ∧
      (ofSeconds seconds).second < 60 := by
  simp only [ofSeconds]
  omega

/-- Different seconds have different times of day or dates. -/
theorem ofSeconds_injective {first second : Int} (same : ofSeconds first = ofSeconds second) :
    first = second := by
  simp only [ofSeconds, mk.injEq] at same
  obtain ⟨date, hour, minute, low⟩ := same
  have days := Date.ofDays_injective date
  omega

end DateTime

/-! ## Decimals -/

def fixedDecimal : Nat → Nat → List Char
  | 0, _ => []
  | width + 1, n => fixedDecimal width (n / 10) ++ [Nat.digitChar (n % 10)]

@[simp] theorem fixedDecimal_length (width n : Nat) : (fixedDecimal width n).length = width := by
  induction width generalizing n with
  | zero => rfl
  | succ width ih => simp [fixedDecimal, ih]

theorem digitChar_injective {a b : Nat} (first : a < 10) (second : b < 10)
    (same : Nat.digitChar a = Nat.digitChar b) : a = b := by
  interval_cases a <;> interval_cases b <;> first | rfl | (revert same; decide)

/-- Numbers that fit the width are printed differently. -/
theorem fixedDecimal_injective {width n m : Nat} (first : n < 10 ^ width) (second : m < 10 ^ width)
    (same : fixedDecimal width n = fixedDecimal width m) : n = m := by
  induction width generalizing n m with
  | zero =>
    rw [Nat.pow_zero, Nat.lt_one_iff] at first second
    rw [first, second]
  | succ width ih =>
    rw [Nat.pow_succ] at first second
    obtain ⟨high, low⟩ := List.append_inj' same rfl
    have tens : n / 10 = m / 10 := ih (by omega) (by omega) high
    have ones : n % 10 = m % 10 :=
      digitChar_injective (by omega) (by omega) (List.singleton_inj.mp low)
    omega

/-- A decimal of known width can be read off the front of a text. -/
theorem fixedDecimal_append_inj {width n m : Nat} {rest rest' : List Char} (first : n < 10 ^ width)
    (second : m < 10 ^ width)
    (same : fixedDecimal width n ++ rest = fixedDecimal width m ++ rest') :
    n = m ∧ rest = rest' := by
  obtain ⟨digits, rests⟩ := List.append_inj same (by simp)
  exact ⟨fixedDecimal_injective first second digits, rests⟩

end Starry.Foundation
