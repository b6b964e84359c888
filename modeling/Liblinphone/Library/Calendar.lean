import Mathlib.Algebra.BigOperators.Group.List.Basic
import Mathlib.Algebra.Order.Ring.Int

/-! The Gregorian calendar, carried back to every year. An instant is the number of
seconds since the start of 1970, and a broken-down time names its year, month, day
and time of day. -/

namespace Liblinphone.Library

/-- Months are counted from zero, and years from 1900. -/
structure Tm where
  sec : Int := 0
  min : Int := 0
  hour : Int := 0
  mday : Int := 0
  mon : Int := 0
  year : Int := 0
  yday : Int := 0
  gmtoff : Int := 0
  zone : Option String := none
deriving Repr, DecidableEq

def leapYear (year : Int) : Bool := (year % 4 == 0 && year % 100 != 0) || year % 400 == 0

def yearDays (year : Int) : Int := if leapYear year then 366 else 365

def monthDays (year : Int) : List Int := [31, if leapYear year then 29 else 28, 31, 30, 31, 30, 31, 31, 30, 31, 30, 31]

/-- The days from the start of year one to the start of a year. -/
def daysBeforeYear (year : Int) : Int := 365 * (year - 1) + (year - 1) / 4 - (year - 1) / 100 + (year - 1) / 400

def daysBeforeMonth (year : Int) (mon : Nat) : Int := ((monthDays year).take mon).sum

/-- The instant of a broken-down time, whose fields need not be in their ranges. -/
def timegm (tm : Tm) : Int :=
  let year := tm.year + 1900 + tm.mon / 12
  let days := daysBeforeYear year - daysBeforeYear 1970 + daysBeforeMonth year (tm.mon % 12).toNat + (tm.mday - 1)
  86400 * days + 3600 * tm.hour + 60 * tm.min + tm.sec

/-- The year of a day that is counted from the start of year one, and the number of the
day in that year. -/
def yearOfDay (day : Int) : Int × Int :=
  let inCycle := day % 146097
  let century := min (inCycle / 36524) 3
  let inCentury := inCycle - 36524 * century
  let inFour := inCentury % 1461
  let single := min (inFour / 365) 3
  (400 * (day / 146097) + 100 * century + 4 * (inCentury / 1461) + single + 1, inFour - 365 * single)

/-- Which of several consecutive spans a number falls in, and where in it. -/
def locate : List Int → Int → Nat × Int
  | [], number => (0, number)
  | span :: rest, number =>
    if number < span then (0, number) else ((locate rest (number - span)).1 + 1, (locate rest (number - span)).2)

/-- The broken-down time of an instant. -/
def gmtime (time : Int) : Tm :=
  let year := yearOfDay (time / 86400 + daysBeforeYear 1970)
  let month := locate (monthDays year.1) year.2
  { sec := time % 60
    min := time % 3600 / 60
    hour := time % 86400 / 3600
    mday := month.2 + 1
    mon := month.1
    year := year.1 - 1900
    yday := year.2
    zone := some "GMT" }

section Cycles

variable {cycle century four single : Int}

theorem daysBeforeYear_cycles (centuries : 0 ≤ century ∧ century ≤ 3) (fours : 0 ≤ four ∧ four ≤ 24)
    (singles : 0 ≤ single ∧ single ≤ 3) :
    daysBeforeYear (400 * cycle + 100 * century + 4 * four + single + 1) =
      146097 * cycle + 36524 * century + 1461 * four + 365 * single := by
  unfold daysBeforeYear
  omega

/-- The last year of each four is a leap year, but not at the end of a century that does
not end a cycle. -/
theorem leapYear_cycles (centuries : 0 ≤ century ∧ century ≤ 3) (fours : 0 ≤ four ∧ four ≤ 24)
    (singles : 0 ≤ single ∧ single ≤ 3) :
    leapYear (400 * cycle + 100 * century + 4 * four + single + 1) =
      decide (single = 3 ∧ (four ≠ 24 ∨ century = 3)) := by
  rw [Bool.eq_iff_iff]
  simp only [leapYear, Bool.or_eq_true, Bool.and_eq_true, beq_iff_eq, bne_iff_ne, decide_eq_true_eq]
  omega

end Cycles

theorem yearOfDay_spec (day : Int) :
    daysBeforeYear (yearOfDay day).1 + (yearOfDay day).2 = day ∧ 0 ≤ (yearOfDay day).2 ∧
      (yearOfDay day).2 < yearDays (yearOfDay day).1 := by
  obtain ⟨century, isCentury⟩ : ∃ century, century = min (day % 146097 / 36524) 3 := ⟨_, rfl⟩
  obtain ⟨inCentury, isRest⟩ : ∃ rest, rest = day % 146097 - 36524 * century := ⟨_, rfl⟩
  obtain ⟨single, isSingle⟩ : ∃ single, single = min (inCentury % 1461 / 365) 3 := ⟨_, rfl⟩
  have shape : yearOfDay day = (400 * (day / 146097) + 100 * century + 4 * (inCentury / 1461) + single + 1,
      inCentury % 1461 - 365 * single) := by
    rw [isSingle, isRest, isCentury]
    rfl
  have centuries : 0 ≤ century ∧ century ≤ 3 := by omega
  have fours : 0 ≤ inCentury / 1461 ∧ inCentury / 1461 ≤ 24 := by omega
  have singles : 0 ≤ single ∧ single ≤ 3 := by omega
  rw [shape]
  refine ⟨?_, by omega, ?_⟩
  · rw [daysBeforeYear_cycles centuries fours singles]
    omega
  · rw [yearDays, leapYear_cycles centuries fours singles]
    by_cases leap : single = 3 ∧ (inCentury / 1461 ≠ 24 ∨ century = 3)
    · rw [if_pos (decide_eq_true leap)]
      omega
    · rw [if_neg (by simpa using leap)]
      omega

/-- What is located is in its span. -/
theorem locate_spec {spans : List Int} {number : Int} (least : 0 ≤ number) (most : number < spans.sum) :
    (locate spans number).1 < spans.length ∧ 0 ≤ (locate spans number).2 ∧
      (locate spans number).2 < spans.getD (locate spans number).1 0 ∧
      (spans.take (locate spans number).1).sum + (locate spans number).2 = number := by
  induction spans generalizing number with
  | nil =>
    rw [List.sum_nil] at most
    omega
  | cons span rest following =>
    rw [List.sum_cons] at most
    rw [locate]
    split
    next inside => simpa using ⟨least, inside⟩
    next beyond =>
      obtain ⟨place, start, stop, total⟩ := @following (number - span) (by omega) (by omega)
      refine ⟨by simpa using place, start, by simpa using stop, ?_⟩
      rw [List.take_succ_cons, List.sum_cons]
      omega

theorem sum_monthDays (year : Int) : (monthDays year).sum = yearDays year := by
  unfold monthDays yearDays
  split <;> rfl

theorem monthDays_le (year : Int) (mon : Nat) : (monthDays year).getD mon 0 ≤ 31 := by
  have each : ∀ days ∈ monthDays year, days ≤ 31 := by
    unfold monthDays
    split <;> decide
  rw [List.getD_eq_getElem?_getD]
  cases found : (monthDays year)[mon]? with
  | none => exact Int.le_of_lt (by decide)
  | some days => exact each days (List.mem_of_getElem? found)

/-- Every field is in its range. -/
structure Tm.Normal (tm : Tm) : Prop where
  sec : 0 ≤ tm.sec ∧ tm.sec < 60
  min : 0 ≤ tm.min ∧ tm.min < 60
  hour : 0 ≤ tm.hour ∧ tm.hour < 24
  mon : 0 ≤ tm.mon ∧ tm.mon < 12
  mday : 1 ≤ tm.mday ∧ tm.mday ≤ (monthDays (tm.year + 1900)).getD tm.mon.toNat 0

theorem gmtime_normal (time : Int) : (gmtime time).Normal := by
  obtain ⟨-, start, stop⟩ := yearOfDay_spec (time / 86400 + daysBeforeYear 1970)
  rw [← sum_monthDays] at stop
  obtain ⟨place, first, last, -⟩ := locate_spec start stop
  refine ⟨?_, ?_, ?_, ?_, ?_⟩
  · simp only [gmtime]
    omega
  · simp only [gmtime]
    omega
  · simp only [gmtime]
    omega
  · have months : (monthDays (yearOfDay (time / 86400 + daysBeforeYear 1970)).1).length = 12 := rfl
    simp only [gmtime]
    omega
  · simp only [gmtime, Int.sub_add_cancel, Int.toNat_natCast]
    omega

/-- The instant of a broken-down time that was made of one is that one. -/
theorem timegm_gmtime (time : Int) : timegm (gmtime time) = time := by
  obtain ⟨total, start, stop⟩ := yearOfDay_spec (time / 86400 + daysBeforeYear 1970)
  rw [← sum_monthDays] at stop
  obtain ⟨-, -, -, within⟩ := locate_spec start stop
  obtain ⟨lower, upper⟩ := (gmtime_normal time).mon
  have month : ((gmtime time).mon % 12).toNat =
      (locate (monthDays (yearOfDay (time / 86400 + daysBeforeYear 1970)).1)
        (yearOfDay (time / 86400 + daysBeforeYear 1970)).2).1 := by
    rw [Int.emod_eq_of_lt lower upper]
    exact Int.toNat_natCast _
  have year : (gmtime time).year + 1900 + (gmtime time).mon / 12 =
      (yearOfDay (time / 86400 + daysBeforeYear 1970)).1 := by
    rw [Int.ediv_eq_zero_of_lt lower upper]
    simp [gmtime]
  simp only [timegm, month, year, daysBeforeMonth]
  simp only [gmtime]
  omega

end Liblinphone.Library
