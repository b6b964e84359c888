import Liblinphone.Proofs.CpimDates
import Liblinphone.Proofs.CpimRules

/-! The date of a CPIM message that is read again as it was written. -/

namespace Liblinphone.Cpim

open Library

section Numbers

theorem textNumber_lt {digits : Text} (each : ∀ digit ∈ digits, digit.isDigit = true) : textNumber digits < 10 ^ digits.length := by
  induction digits with
  | nil => exact Nat.one_pos
  | cons first rest following =>
    have digit := each first List.mem_cons_self
    have small : first.toNat - '0'.toNat ≤ 9 := by
      have most : first.toNat ≤ 57 := UInt32.le_iff_toNat_le.mp (of_decide_eq_true (Bool.and_eq_true_iff.mp digit).2)
      have zero : '0'.toNat = 48 := rfl
      omega
    have later := following fun other member => each other (List.mem_cons_of_mem _ member)
    have value : textNumber (first :: rest) = 10 ^ rest.length * (first.toNat - '0'.toNat) + textNumber rest := by
      rw [textNumber, Nat.ofDigitChars_cons, Nat.ofDigitChars_eq_ofDigitChars_zero, Nat.mul_zero, Nat.zero_add]
      rfl
    rw [value, List.length_cons, Nat.pow_succ]
    calc 10 ^ rest.length * (first.toNat - '0'.toNat) + textNumber rest
      _ < 10 ^ rest.length * (first.toNat - '0'.toNat) + 10 ^ rest.length := Nat.add_lt_add_left later _
      _ ≤ 10 ^ rest.length * 9 + 10 ^ rest.length := Nat.add_le_add_right (Nat.mul_le_mul_left _ small) _
      _ = 10 ^ rest.length * 10 := (Nat.mul_succ _ 9).symm

/-- Digits that are read are a number of their width. -/
theorem readDigits_number {width : Nat} {text digits rest : Text} (wide : 0 < width) (narrow : width ≤ 4)
    (read : readDigits width text = some (digits, rest)) : ∃ number : Nat, number < 10 ^ width ∧ Utils.stoi digits = number := by
  unfold readDigits at read
  split at read
  next found =>
    obtain ⟨rfl, rfl⟩ := Prod.mk.inj (Option.some.inj read)
    have each := List.all_eq_true.mp found.2
    have less := textNumber_lt each
    rw [found.1] at less
    have bound : 10 ^ width ≤ 10 ^ 4 := Nat.pow_le_pow_right (by omega) narrow
    have filled : text.take width ≠ [] := List.ne_nil_of_length_pos (found.1.symm ▸ wide)
    have value := @Utils.stoi_append (text.take width) [] ⟨filled, each⟩ (by simp) (by omega)
    rw [List.append_nil] at value
    exact ⟨_, less, value⟩
  next => cases read

end Numbers

section Sound

variable {node after : DateTimeHeaderNode} {offset : DateTimeOffsetNode} {text rest : Text}

theorem readFullDate_sound (read : readFullDate node text = some (after, rest)) :
    ∃ year mon mday : Nat, year < 10 ^ 4 ∧ mon < 10 ^ 2 ∧ mday < 10 ^ 2 ∧
      after = { node with time.year := year, time.mon := (mon : Int) - 1, time.mday := mday } := by
  simp only [readFullDate, Option.bind_eq_bind, Option.bind_eq_some_iff] at read
  obtain ⟨year, isYear, _, _, mon, isMon, _, _, mday, isMday, same⟩ := read
  obtain ⟨years, lessYear, readYear⟩ := readDigits_number (by omega) (by omega) isYear
  obtain ⟨months, lessMonth, readMonth⟩ := readDigits_number (by omega) (by omega) isMon
  obtain ⟨days, lessDay, readDay⟩ := readDigits_number (by omega) (by omega) isMday
  refine ⟨years, months, days, lessYear, lessMonth, lessDay, ?_⟩
  rw [← (Prod.mk.inj (Option.some.inj same)).1, DateTimeHeaderNode.setYear, DateTimeHeaderNode.setMonth,
    DateTimeHeaderNode.setMonthDay, readYear, readMonth, readDay]

theorem readPartialTime_sound (read : readPartialTime node text = some (after, rest)) :
    ∃ hour min sec : Nat, hour < 10 ^ 2 ∧ min < 10 ^ 2 ∧ sec < 10 ^ 2 ∧
      after = { node with time.hour := hour, time.min := min, time.sec := sec } := by
  simp only [readPartialTime, Option.bind_eq_bind, Option.bind_eq_some_iff] at read
  obtain ⟨hour, isHour, _, _, min, isMin, _, _, sec, isSec, _, _, same⟩ := read
  obtain ⟨hours, lessHour, readHour⟩ := readDigits_number (by omega) (by omega) isHour
  obtain ⟨minutes, lessMinute, readMinute⟩ := readDigits_number (by omega) (by omega) isMin
  obtain ⟨seconds, lessSecond, readSecond⟩ := readDigits_number (by omega) (by omega) isSec
  refine ⟨hours, minutes, seconds, lessHour, lessMinute, lessSecond, ?_⟩
  rw [← (Prod.mk.inj (Option.some.inj same)).1, DateTimeHeaderNode.setHour, DateTimeHeaderNode.setMinute,
    DateTimeHeaderNode.setSecond, readHour, readMinute, readSecond]

theorem readOffset_sound (read : readOffset text = some (offset, rest)) :
    offset = {} ∨ ∃ sign hour, ∃ min : Nat, (sign = '+' ∨ sign = '-') ∧ hour < 10 ^ 2 ∧ min < 10 ^ 2 ∧
      offset = ⟨[sign], (hour : Nat), min⟩ := by
  cases text with
  | nil => cases read
  | cons sign rest =>
    simp only [readOffset, Option.bind_eq_bind] at read
    split at read
    next signed =>
      simp only [Option.bind_eq_some_iff] at read
      obtain ⟨hour, isHour, _, _, min, isMin, same⟩ := read
      obtain ⟨hours, lessHour, readHour⟩ := readDigits_number (by omega) (by omega) isHour
      obtain ⟨minutes, lessMinute, readMinute⟩ := readDigits_number (by omega) (by omega) isMin
      refine .inr ⟨sign, hours, minutes, signed, lessHour, lessMinute, ?_⟩
      rw [← (Prod.mk.inj (Option.some.inj same)).1, DateTimeOffsetNode.setSign, DateTimeOffsetNode.setHour,
        DateTimeOffsetNode.setMinute, readHour, readMinute]
    next =>
      simp only [Option.bind_eq_some_iff] at read
      obtain ⟨_, _, same⟩ := read
      exact .inl (Prod.mk.inj (Option.some.inj same)).1.symm

end Sound

theorem printable_padded (width : Nat) (value : Int) : Printable (padded '0' width value) := by
  intro char member
  rcases List.mem_append.mp member with zero | written
  · rw [List.eq_of_mem_replicate zero]
    rfl
  · have digits : ∀ number : Nat, ∀ digit ∈ numberText number, isHeaderChar digit = true := by
      intro number digit inside
      have isDigit := (numberText_digits number).2 digit inside
      exact isHeaderChar_alphanum (by rw [Char.isAlphanum, isDigit, Bool.or_true])
    cases value with
    | ofNat number => exact digits number char written
    | negSucc number =>
      rcases List.mem_cons.mp written with rfl | later
      · rfl
      · exact digits _ char later

theorem isValid_bounds {node : DateTimeHeaderNode} (valid : node.isValid = true) :
    (1 ≤ node.time.mon ∧ node.time.mon ≤ 12) ∧ (1 ≤ node.time.mday ∧ node.time.mday ≤ 31) ∧
      node.time.hour ≤ 24 ∧ node.time.min ≤ 59 ∧ node.time.sec ≤ 60 ∧ (node.signOffset ≠ ['Z'] → node.timeOffset.hour ≤ 24) := by
  have passed : ∀ {check : Prop} [Decidable check] {others : Bool}, (if check then false else others) = true →
      ¬check ∧ others = true := by
    intro check _ others all
    by_cases fails : check
    · rw [if_pos fails] at all
      cases all
    · rw [if_neg fails] at all
      exact ⟨fails, all⟩
  obtain ⟨months, others⟩ := passed valid
  obtain ⟨days, others⟩ := passed others
  obtain ⟨times, others⟩ := passed others
  obtain ⟨offsets, -⟩ := passed others
  have all : ∀ mon < 13, DateTimeHeaderNode.daysInMonth.getD mon 0 ≤ 31 := by decide
  have long := all node.time.mon.toNat (by omega)
  rw [not_or] at days
  refine ⟨by omega, ⟨by omega, ?_⟩, by omega, by omega, by omega, fun signed => ?_⟩
  · have late := days.2
    split at late <;> omega
  · have both := not_and.mp offsets signed
    omega

theorem DateTimeHeaderNode.createHeader_eq_some {node : DateTimeHeaderNode} {header : DateTimeHeader} :
    node.createHeader = some header ↔ node.isValid = true ∧ ⟨node.time, node.timeOffset, node.signOffset⟩ = header := by
  rw [createHeader, Option.ite_none_right_eq_some, Option.some.injEq]

namespace DateTimeHeader

/-- What is added to a message for a value that is parsed. -/
def reread (value : Text) : Option DateTimeHeader :=
  ((readDateTimeValue value).bind DateTimeHeaderNode.createHeader).bind fun read =>
    (DateTimeHeaderNode.ofHeader read).createHeader

/-- What is written of a date. -/
def told (header : DateTimeHeader) : DateTimeHeader where
  dateTime :=
    { year := header.dateTime.year
      mon := header.dateTime.mon
      mday := header.dateTime.mday
      hour := header.dateTime.hour
      min := header.dateTime.min
      sec := header.dateTime.sec }
  dateTimeOffset :=
    if header.signOffset = ['Z'] then {} else { hour := header.dateTimeOffset.hour, min := header.dateTimeOffset.min }
  signOffset := header.signOffset

def Kept (header : DateTimeHeader) : Prop :=
  (0 ≤ header.dateTime.year ∧ header.dateTime.year ≤ 9999) ∧
    (0 ≤ header.dateTime.hour ∧ 0 ≤ header.dateTime.min ∧ 0 ≤ header.dateTime.sec) ∧
    (header.signOffset = ['Z'] ∨ (header.signOffset = ['+'] ∨ header.signOffset = ['-']) ∧
      0 ≤ header.dateTimeOffset.hour ∧ 0 ≤ header.dateTimeOffset.min ∧ header.dateTimeOffset.min ≤ 99)

instance (header : DateTimeHeader) : Decidable header.Kept := inferInstanceAs (Decidable (_ ∧ _ ∧ _))

variable {header : DateTimeHeader} {value : Text}

theorem reread_eq_some : reread value = some header ↔
    ∃ node, readDateTimeValue value = some node ∧ node.isValid = true ∧ ⟨node.time, node.timeOffset, node.signOffset⟩ = header := by
  constructor
  · intro read
    obtain ⟨made, isMade, again⟩ := Option.bind_eq_some_iff.mp read
    obtain ⟨node, isNode, created⟩ := Option.bind_eq_some_iff.mp isMade
    obtain ⟨valid, rfl⟩ := DateTimeHeaderNode.createHeader_eq_some.mp created
    exact ⟨node, isNode, valid, (DateTimeHeaderNode.createHeader_eq_some.mp again).2⟩
  · rintro ⟨node, isNode, valid, rfl⟩
    have created := DateTimeHeaderNode.createHeader_eq_some.mpr ⟨valid, rfl⟩
    rw [reread, isNode, Option.bind_some, created, Option.bind_some]
    exact created

theorem accepted {read : DateTimeHeader} (created : (readDateTimeValue value).bind DateTimeHeaderNode.createHeader = some read) :
    (DateTimeHeaderNode.ofHeader read).createHeader = some read := by
  obtain ⟨node, -, made⟩ := Option.bind_eq_some_iff.mp created
  obtain ⟨valid, rfl⟩ := DateTimeHeaderNode.createHeader_eq_some.mp made
  exact DateTimeHeaderNode.createHeader_eq_some.mpr ⟨valid, rfl⟩

theorem kept_told : header.told.Kept ↔ header.Kept := by
  unfold Kept told
  refine and_congr Iff.rfl (and_congr Iff.rfl ?_)
  dsimp only
  split
  next utc => exact iff_of_true (.inl utc) (.inl utc)
  next => exact Iff.rfl

theorem getValue_told (header : DateTimeHeader) : header.told.getValue = header.getValue := by
  unfold getValue told
  dsimp only
  split <;> rfl

/-- All that a node sets is written. -/
theorem told_setOffset (year mon mday hour min sec : Int) {offset : DateTimeOffsetNode}
    (unset : offset.sign = ['Z'] → offset.hour = 0 ∧ offset.minute = 0) :
    told ⟨{ year, mon, mday, hour, min, sec }, { hour := offset.hour, min := offset.minute }, offset.sign⟩ =
      ⟨{ year, mon, mday, hour, min, sec }, { hour := offset.hour, min := offset.minute }, offset.sign⟩ := by
  unfold told
  dsimp only
  split
  next utc =>
    obtain ⟨hours, minutes⟩ := unset utc
    rw [hours, minutes]
  next => rfl

/-- A date that is read has fields that can be written, and nothing else. -/
theorem kept_reread (read : reread value = some header) : header.Kept ∧ header.told = header := by
  obtain ⟨node, isNode, -, rfl⟩ := reread_eq_some.mp read
  simp only [readDateTimeValue, Option.bind_eq_bind, Option.bind_eq_some_iff] at isNode
  obtain ⟨⟨dated, _⟩, isDate, _, _, ⟨timed, _⟩, isTime, ⟨offset, _⟩, isOffset, ends⟩ := isNode
  dsimp only at isDate isTime isOffset ends
  split at ends
  next =>
    obtain rfl := Option.some.inj ends
    obtain ⟨year, mon, mday, lessYear, -, -, rfl⟩ := readFullDate_sound isDate
    obtain ⟨hour, min, sec, -, -, -, rfl⟩ := readPartialTime_sound isTime
    rcases readOffset_sound isOffset with rfl | ⟨sign, hours, minutes, signed, lessHour, lessMinute, rfl⟩
    · refine ⟨⟨?_, ?_, .inl rfl⟩, told_setOffset year _ mday hour min sec fun _ => ⟨rfl, rfl⟩⟩
      · dsimp only [DateTimeHeaderNode.setOffset]
        omega
      · dsimp only [DateTimeHeaderNode.setOffset]
        omega
    · refine ⟨⟨?_, ?_, .inr ⟨?_, ?_⟩⟩, told_setOffset year _ mday hour min sec fun utc => ?_⟩
      · dsimp only [DateTimeHeaderNode.setOffset]
        omega
      · dsimp only [DateTimeHeaderNode.setOffset]
        omega
      · exact signed.imp (congrArg (fun sign => [sign])) (congrArg fun sign => [sign])
      · dsimp only [DateTimeHeaderNode.setOffset]
        omega
      · obtain rfl := (List.cons.inj utc).1
        exact absurd signed (by decide)
  next => cases ends

theorem printable_getValue (signed : Printable header.signOffset) : Printable header.getValue := by
  have number := printable_padded
  have joined : ∀ {char first second}, Printable first → isHeaderChar char = true → Printable second →
      Printable (first ++ char :: second) := fun left middle right => left.append (.cons middle right)
  unfold getValue
  refine Printable.append (Printable.append ?_ signed) ?_
  · exact joined (joined (joined (joined (joined (number _ _) rfl (number _ _)) rfl (number _ _)) rfl (number _ _)) rfl (number _ _))
      rfl (number _ _)
  · split
    next => exact .nil
    next => exact joined (number _ _) rfl (number _ _)

theorem printable_reread (read : reread value = some header) : Printable header.getValue := by
  obtain ⟨-, -, signed⟩ := (kept_reread read).1
  refine printable_getValue ?_
  rcases signed with utc | ⟨plus | minus, -⟩
  · exact utc ▸ Printable.cons rfl .nil
  · exact plus ▸ Printable.cons rfl .nil
  · exact minus ▸ Printable.cons rfl .nil

/-- A time that is written is read back, with the offset that follows it. -/
theorem readDateTimeValue_append (fields : Fields) {zone : Text} {offset : DateTimeOffsetNode}
    (zoned : readOffset zone = some (offset, [])) (whole : zone.head? ≠ some '.') :
    readDateTimeValue (fields.fullDate ++ 'T' :: (fields.partialTime ++ zone)) =
      some (DateTimeHeaderNode.setOffset { time := fields.tm } offset) := by
  have time : skipLetter 'T' ('T' :: (fields.partialTime ++ zone)) = some (fields.partialTime ++ zone) := rfl
  simp only [readDateTimeValue, readFullDate_append, Option.bind_eq_bind, Option.bind_some, time,
    readPartialTime_append fields _ whole, zoned]
  rfl

/-- The fields of a date that can be written. -/
theorem exists_written (valid : (DateTimeHeaderNode.ofHeader header).isValid = true) (kept : header.Kept) :
    ∃ fields : Fields, header.told.dateTime = fields.tm := by
  obtain ⟨⟨leastMon, mostMon⟩, ⟨leastDay, mostDay⟩, hours, minutes, seconds, -⟩ := isValid_bounds valid
  obtain ⟨⟨leastYear, mostYear⟩, ⟨leastHour, leastMinute, leastSecond⟩, -⟩ := kept
  dsimp only [DateTimeHeaderNode.ofHeader] at leastMon mostMon leastDay mostDay hours minutes seconds
  refine ⟨⟨header.dateTime.year.toNat, header.dateTime.mon.toNat, header.dateTime.mday.toNat, header.dateTime.hour.toNat,
    header.dateTime.min.toNat, header.dateTime.sec.toNat, by omega⟩, ?_⟩
  have positiveMon : 0 ≤ header.dateTime.mon := by omega
  have positiveDay : 0 ≤ header.dateTime.mday := by omega
  simp only [told, Fields.tm]
  rw [Int.toNat_of_nonneg leastYear, Int.toNat_of_nonneg positiveMon, Int.toNat_of_nonneg positiveDay, Int.toNat_of_nonneg leastHour,
    Int.toNat_of_nonneg leastMinute, Int.toNat_of_nonneg leastSecond]

/-- A date as it is written. -/
theorem getValue_fields {fields : Fields} (same : header.told.dateTime = fields.tm) :
    header.getValue = fields.fullDate ++ 'T' :: (fields.partialTime ++ (header.signOffset ++
      if header.signOffset = ['Z'] then []
      else padded '0' 2 header.dateTimeOffset.hour ++ ':' :: padded '0' 2 header.dateTimeOffset.min)) := by
  have year : header.dateTime.year = fields.year := congrArg Tm.year same
  have mon : header.dateTime.mon + 1 = (fields.mon + 1 : Nat) := congrArg (Tm.mon · + 1) same
  have mday : header.dateTime.mday = fields.mday := congrArg Tm.mday same
  have hour : header.dateTime.hour = fields.hour := congrArg Tm.hour same
  have min : header.dateTime.min = fields.min := congrArg Tm.min same
  have sec : header.dateTime.sec = fields.sec := congrArg Tm.sec same
  unfold getValue
  dsimp only
  rw [year, mon, mday, hour, min, sec]
  simp only [Fields.fullDate, Fields.partialTime, List.append_assoc, List.cons_append]

theorem readOffset_written {sign : Char} (signed : sign = '+' ∨ sign = '-') {hour min : Nat} (hours : hour < 10 ^ 2)
    (minutes : min < 10 ^ 2) :
    readOffset (sign :: (padded '0' 2 hour ++ ':' :: padded '0' 2 min)) = some (⟨[sign], hour, min⟩, []) := by
  have last := readDigits_padded (by omega) minutes []
  rw [List.append_nil] at last
  unfold readOffset
  simp only [if_pos signed, Option.bind_eq_bind, readDigits_padded (by omega) hours, Option.bind_some, skip_char, last,
    DateTimeOffsetNode.setSign, DateTimeOffsetNode.setHour, DateTimeOffsetNode.setMinute,
    Utils.stoi_padded 2 (show hour < 2 ^ 31 by omega), Utils.stoi_padded 2 (show min < 2 ^ 31 by omega)]
  rfl

theorem isValid_told (header : DateTimeHeader) :
    (DateTimeHeaderNode.ofHeader header.told).isValid = (DateTimeHeaderNode.ofHeader header).isValid := by
  unfold DateTimeHeaderNode.isValid DateTimeHeaderNode.ofHeader told
  dsimp only
  by_cases utc : header.signOffset = ['Z']
  · simp only [utc, ne_eq, not_true_eq_false, false_and, if_false]
  · rw [if_neg utc]

theorem reread_getValue (valid : (DateTimeHeaderNode.ofHeader header).isValid = true) :
    reread header.getValue = some header.told ↔ header.Kept := by
  constructor
  · exact fun read => kept_told.mp (kept_reread read).1
  · intro kept
    obtain ⟨fields, same⟩ := exists_written valid kept
    obtain ⟨-, -, signed⟩ := kept
    have found : ∀ offset : DateTimeOffsetNode, header.told.dateTimeOffset = { hour := offset.hour, min := offset.minute } →
        header.signOffset = offset.sign →
        DateTimeHeaderNode.setOffset { time := fields.tm } offset = DateTimeHeaderNode.ofHeader header.told := by
      intro offset both sign
      rw [DateTimeHeaderNode.setOffset, DateTimeHeaderNode.ofHeader, same, both, ← sign]
      rfl
    refine reread_eq_some.mpr ⟨.ofHeader header.told, ?_, (isValid_told header).trans valid, rfl⟩
    rw [getValue_fields same]
    rcases signed with utc | ⟨sign, leastHour, leastMinute, mostMinute⟩
    · rw [utc, if_pos rfl, List.append_nil]
      have unset : header.told.dateTimeOffset = {} := if_pos utc
      rw [@readDateTimeValue_append fields ['Z'] {} rfl (by decide), found {} unset utc]
    · have other : header.signOffset ≠ ['Z'] := by
        rcases sign with plus | minus
        · rw [plus]
          decide
        · rw [minus]
          decide
      obtain ⟨-, -, -, -, -, most⟩ := isValid_bounds valid
      have mostHour := most other
      dsimp only [DateTimeHeaderNode.ofHeader] at mostHour
      obtain ⟨hour, isHour⟩ := Int.eq_ofNat_of_zero_le leastHour
      obtain ⟨min, isMin⟩ := Int.eq_ofNat_of_zero_le leastMinute
      have set : header.told.dateTimeOffset = { hour := hour, min := min } := by
        rw [told, if_neg other, isHour, isMin]
      obtain ⟨char, signed, isSign⟩ : ∃ char, (char = '+' ∨ char = '-') ∧ header.signOffset = [char] := by
        rcases sign with plus | minus
        · exact ⟨'+', .inl rfl, plus⟩
        · exact ⟨'-', .inr rfl, minus⟩
      rw [if_neg other, isHour, isMin, isSign, List.singleton_append,
        readDateTimeValue_append fields (readOffset_written signed (by omega) (by omega)), found _ set isSign]
      rcases signed with rfl | rfl <;> exact fun dot => absurd (Option.some.inj dot) (by decide)

end DateTimeHeader

end Liblinphone.Cpim
