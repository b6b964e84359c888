import Liblinphone.Cpim
import Liblinphone.ClientConferenceEventHandler
import Mathlib.Data.Rat.Floor
import Mathlib.Tactic.Linarith

/-! Local times with an offset. The date of a CPIM message and the times of a conference
document both add the offset, and only times without one are the instant that is meant. -/

namespace Liblinphone

open Library

/-- A local time, with the part of its last second that has passed. -/
structure LocalTime where
  year : Int
  month : Int
  day : Int
  hours : Int
  minutes : Int
  seconds : Nat
  fraction : Rat := 0
  proper : 0 ≤ fraction ∧ fraction < 1 := by decide

/-- An offset is ahead of UTC unless it is negative. -/
structure Offset where
  negative : Bool
  hours : Nat
  minutes : Nat
deriving Repr, DecidableEq

def Offset.seconds (offset : Offset) : Int :=
  if offset.negative then -(3600 * offset.hours + 60 * offset.minutes) else 3600 * offset.hours + 60 * offset.minutes

namespace LocalTime

def tm (time : LocalTime) : Tm where
  year := time.year - 1900
  mon := time.month - 1
  mday := time.day
  hour := time.hours
  min := time.minutes
  sec := time.seconds

/-- The instant that is meant. -/
def utcInstant (time : LocalTime) (offset : Offset) : Int := timegm time.tm - offset.seconds

/-- The header with the time, whose year is counted from zero. -/
def header (time : LocalTime) (offset : Offset) : Cpim.DateTimeHeader where
  dateTime := { time.tm with year := time.year }
  dateTimeOffset := { hour := offset.hours, min := offset.minutes }
  signOffset := if offset.negative then ['-'] else ['+']

/-- The time in a document. -/
def xsdTime (time : LocalTime) (offset : Offset) : DateTime where
  year := time.year
  month := time.month
  day := time.day
  hours := time.hours
  minutes := time.minutes
  seconds := time.seconds + time.fraction
  zone :=
    some (if offset.negative then (-(offset.hours : Int), -(offset.minutes : Int)) else (offset.hours, offset.minutes))

end LocalTime

theorem Offset.seconds_eq_zero_iff (offset : Offset) : offset.seconds = 0 ↔ offset.hours = 0 ∧ offset.minutes = 0 := by
  unfold Offset.seconds
  split <;> omega

/-- Minutes that are carried over to the hours are the same instant. -/
theorem timegm_raiseHour (tm : Tm) :
    timegm (Cpim.DateTimeHeader.raiseHour tm) = timegm tm ∧ (Cpim.DateTimeHeader.raiseHour tm).gmtoff = tm.gmtoff := by
  induction tm using Cpim.DateTimeHeader.raiseHour.induct with
  | case1 tm more carried =>
    rw [Cpim.DateTimeHeader.raiseHour, if_pos more]
    refine ⟨carried.1.trans ?_, carried.2⟩
    simp only [timegm]
    omega
  | case2 tm fits =>
    rw [Cpim.DateTimeHeader.raiseHour, if_neg fits]
    exact ⟨rfl, rfl⟩

theorem timegm_lowerHour (tm : Tm) :
    timegm (Cpim.DateTimeHeader.lowerHour tm) = timegm tm ∧ (Cpim.DateTimeHeader.lowerHour tm).gmtoff = tm.gmtoff := by
  induction tm using Cpim.DateTimeHeader.lowerHour.induct with
  | case1 tm less carried =>
    rw [Cpim.DateTimeHeader.lowerHour, if_pos less]
    refine ⟨carried.1.trans ?_, carried.2⟩
    simp only [timegm]
    omega
  | case2 tm fits =>
    rw [Cpim.DateTimeHeader.lowerHour, if_neg fits]
    exact ⟨rfl, rfl⟩

section Shift

variable (tm : Tm) (hours minutes : Int)

theorem timegm_shift :
    timegm { tm with hour := tm.hour + hours, min := tm.min + minutes } = timegm tm + 3600 * hours + 60 * minutes := by
  simp only [timegm]
  omega

end Shift

/-- The header adds an offset that is ahead. Behind UTC, it takes the minutes for hours. -/
theorem getTime_header (time : LocalTime) (offset : Offset) :
    (time.header offset).getTime =
      if offset.negative then timegm time.tm - 3600 * (offset.hours + offset.minutes)
      else timegm time.tm + 3600 * offset.hours + 60 * offset.minutes := by
  cases behind : offset.negative with
  | true =>
    obtain ⟨same, utc⟩ := timegm_lowerHour { time.tm with hour := time.hours - offset.hours - offset.minutes }
    simp only [LocalTime.header, Cpim.DateTimeHeader.getTime, behind, if_true]
    rw [if_neg (by decide)]
    refine (Utils.getTmAsTimeT_eq utc).trans (same.trans ?_)
    simp only [timegm, LocalTime.tm]
    omega
  | false =>
    obtain ⟨same, utc⟩ := timegm_raiseHour
      { time.tm with hour := time.hours + offset.hours, min := time.minutes + offset.minutes }
    simp only [LocalTime.header, Cpim.DateTimeHeader.getTime, behind, Bool.false_eq_true, if_false, if_true]
    exact (Utils.getTmAsTimeT_eq utc).trans (same.trans (timegm_shift time.tm offset.hours offset.minutes))

/-- The seconds of a document are cut to whole ones. -/
theorem whole_seconds (time : LocalTime) :
    ((time.seconds : Rat) + time.fraction).num.tdiv ((time.seconds : Rat) + time.fraction).den = time.seconds := by
  obtain ⟨least, most⟩ := time.proper
  have start : (0 : Rat) ≤ time.seconds := Nat.cast_nonneg time.seconds
  rw [Int.tdiv_eq_ediv_of_nonneg (Rat.num_nonneg.mpr (by linarith)), ← Rat.floor_def', Int.floor_eq_iff,
    Int.cast_natCast]
  exact ⟨by linarith, by linarith⟩

/-- The document's time has its signed offset added. -/
theorem dateTimeToTimeT_xsdTime (time : LocalTime) (offset : Offset) :
    ClientConferenceEventHandler.dateTimeToTimeT (time.xsdTime offset) = timegm time.tm + offset.seconds := by
  simp only [ClientConferenceEventHandler.dateTimeToTimeT, LocalTime.xsdTime, Option.getD_some, whole_seconds]
  rw [Utils.getTmAsTimeT_eq rfl]
  refine (timegm_shift time.tm _ _).trans ?_
  unfold Offset.seconds
  split <;> simp only <;> omega

/-- Both are the instant that is meant, and they agree. -/
theorem offset_removed_iff (time : LocalTime) (offset : Offset) :
    ((time.header offset).getTime = time.utcInstant offset ∧
      ClientConferenceEventHandler.dateTimeToTimeT (time.xsdTime offset) = time.utcInstant offset ∧
      (time.header offset).getTime = ClientConferenceEventHandler.dateTimeToTimeT (time.xsdTime offset)) ↔
        offset.hours = 0 ∧ offset.minutes = 0 := by
  rw [getTime_header, dateTimeToTimeT_xsdTime, ← Offset.seconds_eq_zero_iff]
  unfold LocalTime.utcInstant Offset.seconds
  split <;> omega

/-- Twenty to two in the afternoon, eight hours behind UTC, is taken for an earlier time. -/
theorem offset_added : ¬ ∀ (time : LocalTime) (offset : Offset),
    (time.header offset).getTime = time.utcInstant offset ∧
      ClientConferenceEventHandler.dateTimeToTimeT (time.xsdTime offset) = time.utcInstant offset ∧
      (time.header offset).getTime = ClientConferenceEventHandler.dateTimeToTimeT (time.xsdTime offset) := by
  intro removed
  have same := (removed { year := 2000, month := 12, day := 13, hours := 13, minutes := 40, seconds := 0 }
    ⟨true, 8, 0⟩).1
  rw [getTime_header] at same
  exact absurd same (by decide)

end Liblinphone
