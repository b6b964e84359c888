import Liblinphone.Ics
import Liblinphone.Library.Scan

/-! The unique identifiers that are made for events. The numbers of a date, and those of a
time, are written one after the other without being filled up, so that the digits of
different ones can be the same. -/

namespace Liblinphone.Ics

open Library

/-- The digits of a number with at most two of them. -/
def twoDigits (number : Int) : List Int := if number < 10 then [number] else [number / 10, number % 10]

/-- A digit went from the start of the second number to the end of the first. -/
def Moved (first second other next : Int) : Prop :=
  0 < first ∧ first < 10 ∧ 10 ≤ second ∧ other = 10 * first + second / 10 ∧ next = second % 10

theorem integerText_small {number : Int} (least : 0 ≤ number) (most : number < 100) :
    integerText number = (twoDigits number).map fun digit => Nat.digitChar digit.toNat := by
  obtain ⟨value, rfl⟩ := Int.eq_ofNat_of_zero_le least
  have written : integerText (value : Int) = Nat.toDigits 10 value := rfl
  rw [written, Nat.toDigits_eq_if (by omega), twoDigits]
  by_cases single : value < 10
  · rw [if_pos single, if_pos (by omega)]
    rfl
  · rw [if_neg single, if_neg (by omega), Nat.toDigits_of_lt_base (by omega)]
    rfl

/-- Small numbers are known by their digits. -/
theorem map_digitChar_inj {first second : List Int} (left : ∀ digit ∈ first, 0 ≤ digit ∧ digit < 10)
    (right : ∀ digit ∈ second, 0 ≤ digit ∧ digit < 10)
    (same : first.map (fun digit => Nat.digitChar digit.toNat) = second.map fun digit => Nat.digitChar digit.toNat) :
    first = second := by
  induction first generalizing second with
  | nil => exact (List.map_eq_nil_iff.mp same.symm).symm
  | cons digit rest following =>
    cases second with
    | nil => exact nomatch same
    | cons other more =>
      obtain ⟨chars, tails⟩ := List.cons.inj same
      have characters : digit.toNat.digitChar = other.toNat.digitChar := chars
      obtain ⟨here, later⟩ := List.forall_mem_cons.mp left
      obtain ⟨there, beyond⟩ := List.forall_mem_cons.mp right
      have value := Nat.toNat_digitChar_sub_48_of_lt_ten (show digit.toNat < 10 by omega)
      have again := Nat.toNat_digitChar_sub_48_of_lt_ten (show other.toNat < 10 by omega)
      rw [characters, again] at value
      rw [following later beyond tails]
      congr 1
      omega

/-- Two numbers are read as two others. -/
def SamePair (first second other next : Int) : Prop :=
  first = other ∧ second = next ∨ Moved first second other next ∨ Moved other next first second

theorem samePair_iff {first second other next : Int} (least : 0 ≤ first ∧ 0 ≤ second ∧ 0 ≤ other ∧ 0 ≤ next)
    (most : first < 100 ∧ second < 100 ∧ other < 100 ∧ next < 100) :
    twoDigits first ++ twoDigits second = twoDigits other ++ twoDigits next ↔ SamePair first second other next := by
  unfold twoDigits SamePair Moved
  split <;> split <;> split <;> split <;>
    simp only [List.cons_append, List.nil_append, List.cons.injEq, and_true, and_false, reduceCtorEq, false_iff] <;> omega

/-- Digits went from the second and the third number to the end of the one before each. -/
def MovedTwice (first second third other next last : Int) : Prop :=
  0 < first ∧ first < 10 ∧ 10 ≤ third ∧ last = third % 10 ∧
    (second < 10 ∧ other = 10 * first + second ∧ next = third / 10 ∨
      10 ≤ second ∧ 0 < second % 10 ∧ other = 10 * first + second / 10 ∧ next = 10 * (second % 10) + third / 10)

/-- Three numbers are read as three others. -/
def SameTriple (first second third other next last : Int) : Prop :=
  first = other ∧ SamePair second third next last ∨ third = last ∧ SamePair first second other next ∨
    MovedTwice first second third other next last ∨ MovedTwice other next last first second third

/-- The digit after a number is read with it. -/
theorem twoDigits_append_eq {first other : Int} {rest more : List Int} (short : 0 ≤ first ∧ first < 10)
    (long : 10 ≤ other ∧ other < 100) (digits : ∀ digit ∈ rest, 0 ≤ digit ∧ digit < 10) :
    twoDigits first ++ rest = twoDigits other ++ more ↔
      0 < first ∧ ∃ digit, rest = digit :: more ∧ other = 10 * first + digit := by
  rw [twoDigits, if_pos short.2, twoDigits, if_neg (by omega), List.cons_append, List.nil_append, List.cons_append,
    List.cons_append, List.nil_append, List.cons.injEq]
  constructor
  · rintro ⟨tens, same⟩
    exact ⟨by omega, other % 10, same, by omega⟩
  · rintro ⟨-, digit, rfl, same⟩
    obtain ⟨lower, upper⟩ := digits digit List.mem_cons_self
    have units : digit = other % 10 := by omega
    exact ⟨by omega, by rw [units]⟩

/-- A number is read alone, or with the digit after it. -/
theorem twoDigits_append_iff {first other : Int} {rest more : List Int} (least : 0 ≤ first ∧ 0 ≤ other)
    (most : first < 100 ∧ other < 100) (left : ∀ digit ∈ rest, 0 ≤ digit ∧ digit < 10)
    (right : ∀ digit ∈ more, 0 ≤ digit ∧ digit < 10) :
    twoDigits first ++ rest = twoDigits other ++ more ↔
      first = other ∧ rest = more ∨
      (first < 10 ∧ 10 ≤ other ∧ 0 < first ∧ ∃ digit, rest = digit :: more ∧ other = 10 * first + digit) ∨
      (other < 10 ∧ 10 ≤ first ∧ 0 < other ∧ ∃ digit, more = digit :: rest ∧ first = 10 * other + digit) := by
  by_cases short : first < 10
  · by_cases alike : other < 10
    · rw [twoDigits, if_pos short, twoDigits, if_pos alike, List.cons_append, List.cons_append, List.cons.injEq]
      simp [Int.not_le.mpr short, Int.not_le.mpr alike]
    · rw [twoDigits_append_eq ⟨least.1, short⟩ ⟨by omega, most.2⟩ left]
      have differ : first ≠ other := by omega
      simp [short, Int.not_lt.mp alike, alike, differ]
  · by_cases alike : other < 10
    · rw [eq_comm, twoDigits_append_eq ⟨least.2, alike⟩ ⟨by omega, most.1⟩ right]
      have differ : first ≠ other := by omega
      simp [short, Int.not_lt.mp short, alike, differ]
    · rw [twoDigits, if_neg short, twoDigits, if_neg alike]
      simp only [List.cons_append, List.nil_append, List.cons.injEq, short, alike, false_and, or_false]
      constructor
      · rintro ⟨tens, units, same⟩
        exact ⟨by omega, same⟩
      · rintro ⟨rfl, same⟩
        exact ⟨rfl, rfl, same⟩

theorem twoDigits_range {number : Int} (least : 0 ≤ number) (most : number < 100) :
    ∀ digit ∈ twoDigits number, 0 ≤ digit ∧ digit < 10 := by
  unfold twoDigits
  split <;> simp only [List.forall_mem_cons, List.not_mem_nil, false_imp_iff, implies_true, and_true] <;> omega

/-- Two numbers less their first digit are read as two others. -/
theorem cons_digit_iff {second third digit next last : Int} (least : 0 ≤ second ∧ 0 ≤ third ∧ 0 ≤ next ∧ 0 ≤ last)
    (most : second < 100 ∧ third < 100 ∧ next < 100 ∧ last < 100) :
    twoDigits second ++ twoDigits third = digit :: (twoDigits next ++ twoDigits last) ↔
      third = last ∧ 10 ≤ second ∧ digit = second / 10 ∧ next = second % 10 ∨
      10 ≤ third ∧ last = third % 10 ∧ (second < 10 ∧ digit = second ∧ next = third / 10 ∨
        10 ≤ second ∧ 0 < second % 10 ∧ digit = second / 10 ∧ next = 10 * (second % 10) + third / 10) := by
  unfold twoDigits
  split <;> split <;> split <;> split <;>
    simp only [List.cons_append, List.nil_append, List.cons.injEq, and_true, and_false, reduceCtorEq, false_iff] <;> omega

/-- The first of three numbers is read with the digit after it. -/
theorem joined_iff {first second third other next last : Int}
    (least : 0 ≤ second ∧ 0 ≤ third ∧ 0 ≤ next ∧ 0 ≤ last) (most : second < 100 ∧ third < 100 ∧ next < 100 ∧ last < 100) :
    (first < 10 ∧ 10 ≤ other ∧ 0 < first ∧ ∃ digit,
      twoDigits second ++ twoDigits third = digit :: (twoDigits next ++ twoDigits last) ∧ other = 10 * first + digit) ↔
      third = last ∧ Moved first second other next ∨ MovedTwice first second third other next last := by
  simp only [cons_digit_iff least most]
  constructor
  · rintro ⟨short, -, positive, digit, ⟨kept, two, tens, units⟩ | ⟨two, units, rest⟩, read⟩
    · exact .inl ⟨kept, positive, short, two, by omega, units⟩
    · refine .inr ⟨positive, short, two, units, ?_⟩
      rcases rest with ⟨single, same, tens⟩ | ⟨many, nonzero, same, tens⟩
      · exact .inl ⟨single, by omega, tens⟩
      · exact .inr ⟨many, nonzero, by omega, tens⟩
  · rintro (⟨kept, positive, short, two, read, units⟩ | ⟨positive, short, two, units, rest⟩)
    · exact ⟨short, by omega, positive, second / 10, .inl ⟨kept, two, rfl, units⟩, read⟩
    · rcases rest with ⟨single, read, tens⟩ | ⟨many, nonzero, read, tens⟩
      · exact ⟨short, by omega, positive, second, .inr ⟨two, units, .inl ⟨single, rfl, tens⟩⟩, read⟩
      · exact ⟨short, by omega, positive, second / 10, .inr ⟨two, units, .inr ⟨many, nonzero, rfl, tens⟩⟩, read⟩

theorem sameTriple_iff {first second third other next last : Int}
    (least : 0 ≤ first ∧ 0 ≤ second ∧ 0 ≤ third ∧ 0 ≤ other ∧ 0 ≤ next ∧ 0 ≤ last)
    (most : first < 100 ∧ second < 100 ∧ third < 100 ∧ other < 100 ∧ next < 100 ∧ last < 100) :
    twoDigits first ++ (twoDigits second ++ twoDigits third) = twoDigits other ++ (twoDigits next ++ twoDigits last) ↔
      SameTriple first second third other next last := by
  obtain ⟨leastFirst, leastSecond, leastThird, leastOther, leastNext, leastLast⟩ := least
  obtain ⟨mostFirst, mostSecond, mostThird, mostOther, mostNext, mostLast⟩ := most
  have left := List.forall_mem_append.mpr ⟨twoDigits_range leastSecond mostSecond, twoDigits_range leastThird mostThird⟩
  have right := List.forall_mem_append.mpr ⟨twoDigits_range leastNext mostNext, twoDigits_range leastLast mostLast⟩
  rw [twoDigits_append_iff ⟨leastFirst, leastOther⟩ ⟨mostFirst, mostOther⟩ left right,
    samePair_iff ⟨leastSecond, leastThird, leastNext, leastLast⟩ ⟨mostSecond, mostThird, mostNext, mostLast⟩,
    joined_iff ⟨leastSecond, leastThird, leastNext, leastLast⟩ ⟨mostSecond, mostThird, mostNext, mostLast⟩,
    joined_iff ⟨leastNext, leastLast, leastSecond, leastThird⟩ ⟨mostNext, mostLast, mostSecond, mostThird⟩]
  unfold SameTriple
  rw [eq_comm (a := last)]
  constructor
  · rintro (same | (⟨kept, moved⟩ | twice) | ⟨kept, moved⟩ | twice)
    · exact .inl same
    · exact .inr (.inl ⟨kept, .inr (.inl moved)⟩)
    · exact .inr (.inr (.inl twice))
    · exact .inr (.inl ⟨kept, .inr (.inr moved)⟩)
    · exact .inr (.inr (.inr twice))
  · rintro (same | ⟨kept, ⟨rfl, rfl⟩ | moved | moved⟩ | twice | twice)
    · exact .inl same
    · exact .inl ⟨rfl, .inl ⟨rfl, kept⟩⟩
    · exact .inr (.inl (.inl ⟨kept, moved⟩))
    · exact .inr (.inr (.inl ⟨kept, moved⟩))
    · exact .inr (.inl (.inr twice))
    · exact .inr (.inr (.inr twice))

/-- The first separator is found in both. -/
theorem append_separator_iff {first second rest more : Text} {separator : Char} (left : separator ∉ first)
    (right : separator ∉ second) :
    first ++ separator :: rest = second ++ separator :: more ↔ first = second ∧ rest = more := by
  constructor
  · intro same
    have start {text after : Text} (outside : separator ∉ text) :
        (text ++ separator :: after).takeWhile (· != separator) = text := by
      apply takeWhile_stop
      · intro char member
        simpa using fun equal : char = separator => outside (equal ▸ member)
      · simp
    have before := congrArg (List.takeWhile (· != separator)) same
    rw [start left, start right] at before
    rw [before] at same
    exact ⟨before, (List.cons.inj (List.append_cancel_left same)).2⟩
  · rintro ⟨rfl, rfl⟩
    rfl

theorem yearText {year : Int} (least : 1000 ≤ year) (most : year ≤ 9999) :
    padded ' ' 4 year = integerText year ∧ (integerText year).length = 4 := by
  obtain ⟨value, rfl⟩ := Int.eq_ofNat_of_zero_le (show 0 ≤ year by omega)
  have long : (numberText value).length = 4 := by
    rw [numberText, Nat.toDigits_eq_if (by omega), if_neg (by omega), Nat.toDigits_eq_if (by omega), if_neg (by omega),
      Nat.toDigits_eq_if (by omega), if_neg (by omega), Nat.toDigits_of_lt_base (by omega)]
    rfl
  refine ⟨?_, long⟩
  rw [padded_natCast, long]
  rfl

theorem integerText_inj {first second : Int} (left : 0 ≤ first) (right : 0 ≤ second)
    (same : integerText first = integerText second) : first = second := by
  obtain ⟨value, rfl⟩ := Int.eq_ofNat_of_zero_le left
  obtain ⟨other, rfl⟩ := Int.eq_ofNat_of_zero_le right
  have numbers := congrArg textNumber same
  have read : textNumber (numberText value) = textNumber (numberText other) := numbers
  rw [textNumber_numberText, textNumber_numberText] at read
  rw [read]

theorem mem_integerText {number : Int} (least : 0 ≤ number) {char : Char} (member : char ∈ integerText number) :
    char.isDigit = true := by
  obtain ⟨value, rfl⟩ := Int.eq_ofNat_of_zero_le least
  exact (numberText_digits value).2 char member

theorem pairText_iff {first second other next : Int} (least : 0 ≤ first ∧ 0 ≤ second ∧ 0 ≤ other ∧ 0 ≤ next)
    (most : first < 100 ∧ second < 100 ∧ other < 100 ∧ next < 100) :
    integerText first ++ integerText second = integerText other ++ integerText next ↔
      SamePair first second other next := by
  rw [← samePair_iff least most, integerText_small least.1 most.1, integerText_small least.2.1 most.2.1,
    integerText_small least.2.2.1 most.2.2.1, integerText_small least.2.2.2 most.2.2.2, ← List.map_append,
    ← List.map_append]
  constructor
  · apply map_digitChar_inj
    · exact List.forall_mem_append.mpr ⟨twoDigits_range least.1 most.1, twoDigits_range least.2.1 most.2.1⟩
    · exact List.forall_mem_append.mpr ⟨twoDigits_range least.2.2.1 most.2.2.1, twoDigits_range least.2.2.2 most.2.2.2⟩
  · exact congrArg _

theorem tripleText_iff {first second third other next last : Int}
    (least : 0 ≤ first ∧ 0 ≤ second ∧ 0 ≤ third ∧ 0 ≤ other ∧ 0 ≤ next ∧ 0 ≤ last)
    (most : first < 100 ∧ second < 100 ∧ third < 100 ∧ other < 100 ∧ next < 100 ∧ last < 100) :
    integerText first ++ (integerText second ++ integerText third) =
      integerText other ++ (integerText next ++ integerText last) ↔ SameTriple first second third other next last := by
  rw [← sameTriple_iff least most]
  obtain ⟨leastFirst, leastSecond, leastThird, leastOther, leastNext, leastLast⟩ := least
  obtain ⟨mostFirst, mostSecond, mostThird, mostOther, mostNext, mostLast⟩ := most
  rw [integerText_small leastFirst mostFirst, integerText_small leastSecond mostSecond,
    integerText_small leastThird mostThird, integerText_small leastOther mostOther,
    integerText_small leastNext mostNext, integerText_small leastLast mostLast]
  simp only [← List.map_append]
  constructor
  · apply map_digitChar_inj
    · refine List.forall_mem_append.mpr ⟨twoDigits_range leastFirst mostFirst, ?_⟩
      exact List.forall_mem_append.mpr ⟨twoDigits_range leastSecond mostSecond, twoDigits_range leastThird mostThird⟩
    · refine List.forall_mem_append.mpr ⟨twoDigits_range leastOther mostOther, ?_⟩
      exact List.forall_mem_append.mpr ⟨twoDigits_range leastNext mostNext, twoDigits_range leastLast mostLast⟩
  · exact congrArg _

/-- Two stamps are written alike. -/
def SameStamp (stamp other : Tm) : Prop :=
  stamp.year = other.year ∧ SamePair (stamp.mon + 1) stamp.mday (other.mon + 1) other.mday ∧
    SameTriple stamp.hour stamp.min stamp.sec other.hour other.min other.sec

theorem stampText_eq_iff {stamp other : Tm} (normal : stamp.Normal) (alike : other.Normal)
    (year : 1000 ≤ stamp.year + 1900 ∧ stamp.year + 1900 ≤ 9999)
    (otherYear : 1000 ≤ other.year + 1900 ∧ other.year + 1900 ≤ 9999) :
    Event.stampText stamp = Event.stampText other ↔ SameStamp stamp other := by
  obtain ⟨yearWritten, yearLong⟩ := yearText year.1 year.2
  obtain ⟨otherWritten, otherLong⟩ := yearText otherYear.1 otherYear.2
  have shape (tm : Tm) : Event.stampText tm = padded ' ' 4 (tm.year + 1900) ++
      ((integerText (tm.mon + 1) ++ integerText tm.mday) ++ 'T' ::
        ((integerText tm.hour ++ (integerText tm.min ++ integerText tm.sec)) ++ ['Z'])) := by
    simp [Event.stampText]
  have day := monthDays_le (stamp.year + 1900) stamp.mon.toNat
  have otherDay := monthDays_le (other.year + 1900) other.mon.toNat
  obtain ⟨sec, min, hour, mon, mday⟩ := normal
  obtain ⟨otherSec, otherMin, otherHour, otherMon, otherMday⟩ := alike
  have dates {month number : Int} (least : 0 ≤ month ∧ 0 ≤ number) :
      'T' ∉ integerText month ++ integerText number := by
    intro member
    rcases List.mem_append.mp member with inside | inside
    · exact absurd (mem_integerText least.1 inside) (by decide)
    · exact absurd (mem_integerText least.2 inside) (by decide)
  rw [shape, shape, yearWritten, otherWritten]
  have parted {first second : Text} : integerText (stamp.year + 1900) ++ first = integerText (other.year + 1900) ++ second ↔
      stamp.year = other.year ∧ first = second := by
    constructor
    · intro same
      obtain ⟨years, rest⟩ := List.append_inj same (yearLong.trans otherLong.symm)
      have read := integerText_inj (by omega) (by omega) years
      exact ⟨by omega, rest⟩
    · rintro ⟨years, rfl⟩
      rw [years]
  rw [parted, append_separator_iff (dates ⟨by omega, by omega⟩) (dates ⟨by omega, by omega⟩), List.append_cancel_right_eq,
    pairText_iff ⟨by omega, by omega, by omega, by omega⟩ ⟨by omega, by omega, by omega, by omega⟩,
    tripleText_iff ⟨hour.1, min.1, sec.1, otherHour.1, otherMin.1, otherSec.1⟩
      ⟨by omega, by omega, by omega, by omega, by omega, by omega⟩]
  rfl

/-- A stamp with a year of four digits. -/
def Stampable (time : Int) : Prop := 1000 ≤ (gmtime time).year + 1900 ∧ (gmtime time).year + 1900 ≤ 9999

/-- The identifiers that are made for two events of one organizer differ exactly when their
stamps are not written alike: the years differ, or the digits of the dates, or those of the times. -/
theorem uids_distinct_iff (environment : Environment) {first second : Event} {now later : Int}
    (unnamed : first.uid = [] ∧ second.uid = []) (organizer : first.organizer = second.organizer)
    (stampable : Stampable (first.usedTime now) ∧ Stampable (second.usedTime later)) :
    (first.asString environment now).2.uid ≠ (second.asString environment later).2.uid ↔
      ¬SameStamp (gmtime (first.usedTime now)) (gmtime (second.usedTime later)) := by
  have uid (event : Event) (time : Int) (empty : event.uid = []) : (event.asString environment time).2.uid =
      Event.stampText (gmtime (event.usedTime time)) ++ '@' :: Event.uidDomain event.organizer.1 := by
    have written : (event.asString environment time).2.uid = event.writtenUid time := rfl
    rw [written, Event.writtenUid, empty]
    rfl
  rw [uid first now unnamed.1, uid second later unnamed.2, organizer, ne_eq, List.append_cancel_right_eq,
    stampText_eq_iff (gmtime_normal _) (gmtime_normal _) stampable.1 stampable.2]

/-- An event that was created at a time. -/
def createdAt (time : Int) : Event := { organizer := ("sip:a@b.org".toList, []), creationTime := time }

def silentEnvironment : Environment where
  localeToUtf8 := id
  utf8ToLocale := id
  createAddress _ := none

/-- The eleventh of January 2024 and the first of November 2024, at midnight. -/
theorem january_november_alike :
    ((createdAt 1704931200).asString silentEnvironment 0).2.uid = "2024111T000Z@b.org".toList ∧
      ((createdAt 1730419200).asString silentEnvironment 0).2.uid = "2024111T000Z@b.org".toList :=
  ⟨rfl, rfl⟩

theorem uids_distinct_new_year :
    ((createdAt 1704067200).asString silentEnvironment 0).2.uid ≠
        ((createdAt 1704931200).asString silentEnvironment 0).2.uid ↔
      ¬SameStamp (gmtime ((createdAt 1704067200).usedTime 0)) (gmtime ((createdAt 1704931200).usedTime 0)) :=
  uids_distinct_iff silentEnvironment ⟨rfl, rfl⟩ rfl ⟨⟨by decide, by decide⟩, ⟨by decide, by decide⟩⟩

end Liblinphone.Ics
