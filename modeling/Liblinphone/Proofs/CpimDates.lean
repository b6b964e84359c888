import Liblinphone.Cpim

/-! The date of a CPIM message. It is written with months from one, and read back. On the
way it is checked as if its months from zero were counted from one, so that some dates are
not accepted. -/

namespace Liblinphone.Cpim

open Library

section Reading

theorem skip_append (wanted rest : Text) : skip wanted (wanted ++ rest) = some rest := by
  rw [skip, if_pos (List.isPrefixOf_iff_prefix.mpr (List.prefix_append wanted rest)), List.drop_left]

theorem skip_char (char : Char) (rest : Text) : skip [char] (char :: rest) = some rest := skip_append [char] rest

theorem readDigits_padded {value width : Nat} (wide : 0 < width) (fits : value < 10 ^ width) (rest : Text) :
    readDigits width (padded '0' width value ++ rest) = some (padded '0' width value, rest) := by
  have long := padded_length wide fits
  have start : (padded '0' width value ++ rest).take width = padded '0' width value := List.take_left' long
  have digits : (padded '0' width value).all Char.isDigit = true :=
    List.all_eq_true.mpr (padded_digits width value).2
  rw [readDigits, start, if_pos ⟨long, digits⟩, List.drop_left' long]

end Reading

/-- The fields of a time in UTC that can be written. -/
structure Fields where
  year : Nat
  mon : Nat
  mday : Nat
  hour : Nat
  min : Nat
  sec : Nat
  fits : year < 10 ^ 4 ∧ mon + 1 < 10 ^ 2 ∧ mday < 10 ^ 2 ∧ hour < 10 ^ 2 ∧ min < 10 ^ 2 ∧ sec < 10 ^ 2

namespace Fields

variable (fields : Fields)

def fullDate : Text :=
  padded '0' 4 fields.year ++ '-' :: (padded '0' 2 (fields.mon + 1 : Nat) ++ '-' :: padded '0' 2 fields.mday)

def partialTime : Text := padded '0' 2 fields.hour ++ ':' :: (padded '0' 2 fields.min ++ ':' :: padded '0' 2 fields.sec)

end Fields

theorem readFullDate_append (fields : Fields) (node : DateTimeHeaderNode) (rest : Text) :
    readFullDate node (fields.fullDate ++ rest) =
      some ({ node with
        time.year := fields.year
        time.mon := fields.mon
        time.mday := fields.mday }, rest) := by
  obtain ⟨years, months, days, -⟩ := fields.fits
  have month : Utils.stoi (padded '0' 2 (fields.mon + 1 : Nat)) - 1 = fields.mon := by
    rw [Utils.stoi_padded 2 (by omega)]
    omega
  simp only [readFullDate, Fields.fullDate, List.append_assoc, List.cons_append, Option.bind_eq_bind,
    readDigits_padded (by omega) years, readDigits_padded (by omega) months, readDigits_padded (by omega) days,
    Option.bind_some, skip_char, DateTimeHeaderNode.setYear, DateTimeHeaderNode.setMonth,
    DateTimeHeaderNode.setMonthDay, month, Utils.stoi_padded 4 (show fields.year < 2 ^ 31 by omega),
    Utils.stoi_padded 2 (show fields.mday < 2 ^ 31 by omega)]
  rfl

theorem readPartialTime_append (fields : Fields) (node : DateTimeHeaderNode) {rest : Text}
    (whole : rest.head? ≠ some '.') :
    readPartialTime node (fields.partialTime ++ rest) =
      some ({ node with
        time.hour := fields.hour
        time.min := fields.min
        time.sec := fields.sec }, rest) := by
  obtain ⟨-, -, -, hours, minutes, seconds⟩ := fields.fits
  have noFraction : skipFraction rest = some rest := by
    unfold skipFraction
    split
    next => exact absurd rfl whole
    next => rfl
  simp only [readPartialTime, Fields.partialTime, List.append_assoc, List.cons_append, Option.bind_eq_bind,
    readDigits_padded (by omega) hours, readDigits_padded (by omega) minutes, readDigits_padded (by omega) seconds,
    Option.bind_some, skip_char, noFraction, DateTimeHeaderNode.setHour, DateTimeHeaderNode.setMinute,
    DateTimeHeaderNode.setSecond, Utils.stoi_padded 2 (show fields.hour < 2 ^ 31 by omega),
    Utils.stoi_padded 2 (show fields.min < 2 ^ 31 by omega), Utils.stoi_padded 2 (show fields.sec < 2 ^ 31 by omega)]
  rfl

def Fields.tm (fields : Fields) : Tm where
  year := fields.year
  mon := fields.mon
  mday := fields.mday
  hour := fields.hour
  min := fields.min
  sec := fields.sec

/-- A time in UTC is read back as it was written. -/
theorem readDateTimeValue_fields (fields : Fields) :
    readDateTimeValue (fields.fullDate ++ 'T' :: (fields.partialTime ++ ['Z'])) = some ⟨fields.tm, {}, ['Z']⟩ := by
  have time : skipLetter 'T' ('T' :: (fields.partialTime ++ ['Z'])) = some (fields.partialTime ++ ['Z']) := rfl
  have utc : readOffset ['Z'] = some ({}, []) := rfl
  simp only [readDateTimeValue, readFullDate_append, Option.bind_eq_bind, Option.bind_some, time,
    @readPartialTime_append fields _ ['Z'] (by decide), utc]
  rfl

/-- The dates that pass the check. A month that is counted from zero is one less. -/
def AcceptedDate (tm : Tm) : Prop :=
  tm.mon ≠ 0 ∧ ¬(tm.mon = 1 ∧ tm.mday = 29) ∧ ¬(tm.mon = 2 ∧ leapYear (tm.year + 1900) = true ∧ 29 < tm.mday)

instance (tm : Tm) : Decidable (AcceptedDate tm) := by
  unfold AcceptedDate
  infer_instance

/-- The table has no leap day. -/
theorem getD_monthDays (year : Int) {mon : Nat} (small : mon < 12) :
    (monthDays year).getD mon 0 =
      DateTimeHeaderNode.daysInMonth.getD mon 0 + if mon = 1 ∧ leapYear year = true then 1 else 0 := by
  unfold monthDays
  generalize leapYear year = leap
  revert mon leap
  decide

theorem leapYear_tmod (year : Int) :
    (year.tmod 4 == 0 && year.tmod 100 != 0 || year.tmod 400 == 0) = leapYear year := by
  rw [leapYear, Bool.eq_iff_iff]
  simp only [Bool.or_eq_true, Bool.and_eq_true, beq_iff_eq, bne_iff_ne, ← Int.dvd_iff_tmod_eq_zero,
    ← Int.dvd_iff_emod_eq_zero, ne_eq]

/-- The days that the check refuses, with the month taken for the one before it. -/
theorem day_refused_iff {year mon mday : Int} (first : 1 ≤ mday) (month : 0 ≤ mon ∧ mon < 12)
    (last : mday ≤ (monthDays year).getD mon.toNat 0) :
    (mday < 1 ∨ if mon = 2 ∧ leapYear year = true then mday > 29
      else mday > DateTimeHeaderNode.daysInMonth.getD mon.toNat 0) ↔
        (mon = 1 ∧ mday = 29) ∨ (mon = 2 ∧ leapYear year = true ∧ 29 < mday) := by
  rw [getD_monthDays _ (by omega)] at last
  have february : mon ≠ 1 ∨ DateTimeHeaderNode.daysInMonth.getD mon.toNat 0 = 28 := by
    rw [or_iff_not_imp_left, not_not]
    intro same
    rw [same]
    rfl
  have march : mon ≠ 2 ∨ DateTimeHeaderNode.daysInMonth.getD mon.toNat 0 = 31 := by
    rw [or_iff_not_imp_left, not_not]
    intro same
    rw [same]
    rfl
  have index : mon.toNat = 1 ↔ mon = 1 := by omega
  cases long : leapYear year with
  | true =>
    simp only [index, long, and_true, true_and] at last ⊢
    split at last <;> split <;> omega
  | false =>
    simp only [index, long, Bool.false_eq_true, and_false, false_and, if_false, or_false] at last ⊢
    omega

/-- The header of an instant, with the year counted from zero. -/
theorem isValid_iff {tm : Tm} (normal : tm.Normal) (offset : Tm) :
    DateTimeHeaderNode.isValid ⟨{ tm with year := tm.year + 1900 }, offset, ['Z']⟩ = true ↔ AcceptedDate tm := by
  obtain ⟨⟨leastSec, sec⟩, ⟨leastMin, min⟩, ⟨leastHour, hour⟩, ⟨leastMon, mon⟩, first, last⟩ := normal
  have hours : ¬(tm.hour > 24 ∨ tm.min > 59 ∨ tm.sec > 60) := by omega
  have months : (tm.mon < 1 ∨ tm.mon > 12) ↔ tm.mon = 0 := by omega
  have days := day_refused_iff first ⟨leastMon, by omega⟩ last
  simp only [DateTimeHeaderNode.isValid, leapYear_tmod, AcceptedDate, months, days, hours]
  simp only [ne_eq, not_true_eq_false, false_and, if_false]
  split
  next january => simp [january]
  next =>
    split
    next refused =>
      refine iff_of_false Bool.false_ne_true fun accepted => ?_
      rcases refused with leapDay | late
      · exact accepted.2.1 leapDay
      · exact accepted.2.2 late
    next other accepted => exact iff_of_true rfl ⟨other, not_or.mp accepted⟩

/-- The fields of an instant. -/
def Fields.Of (fields : Fields) (time : Int) : Prop :=
  gmtime time =
    { fields.tm with
      year := fields.year - 1900
      yday := (gmtime time).yday
      zone := some "GMT" }

theorem exists_fields {time : Int} (least : 1970 ≤ (gmtime time).year + 1900) (most : (gmtime time).year + 1900 ≤ 9999) :
    ∃ fields : Fields, fields.Of time := by
  have normal := gmtime_normal time
  have long := monthDays_le ((gmtime time).year + 1900) (gmtime time).mon.toNat
  obtain ⟨sec, min, hour, mon, mday⟩ := normal
  refine ⟨⟨((gmtime time).year + 1900).toNat, (gmtime time).mon.toNat, (gmtime time).mday.toNat,
    (gmtime time).hour.toNat, (gmtime time).min.toNat, (gmtime time).sec.toNat, by omega⟩, ?_⟩
  simp only [Fields.Of, Fields.tm]
  rw [Int.toNat_of_nonneg sec.1, Int.toNat_of_nonneg min.1, Int.toNat_of_nonneg hour.1, Int.toNat_of_nonneg mon.1,
    Int.toNat_of_nonneg (by omega), Int.toNat_of_nonneg (by omega), Int.add_sub_cancel]
  rfl

section Instant

variable {fields : Fields} {time : Int} (same : fields.Of time)
include same

theorem getValue_ofTime :
    (DateTimeHeader.ofTime time).getValue = fields.fullDate ++ 'T' :: (fields.partialTime ++ ['Z']) := by
  have year : fields.year - 1900 + (1900 : Int) = fields.year := Int.sub_add_cancel _ _
  have month : (fields.mon : Int) + 1 = ((fields.mon + 1 : Nat) : Int) := rfl
  unfold Fields.Of at same
  simp only [DateTimeHeader.ofTime, Utils.getTimeTAsTm, DateTimeHeader.getValue]
  rw [same]
  simp only [Fields.tm, year, month, if_true, Fields.fullDate, Fields.partialTime, List.append_assoc, List.cons_append,
    List.append_nil]

theorem getTime_fields : DateTimeHeader.getTime ⟨fields.tm, {}, ['Z']⟩ = time := by
  have read : DateTimeHeader.getTime ⟨fields.tm, {}, ['Z']⟩ = timegm { fields.tm with year := fields.year - 1900 } :=
    Utils.getTmAsTimeT_eq rfl
  have instant : timegm { fields.tm with year := fields.year - 1900 } = timegm (gmtime time) := by
    rw [same]
    rfl
  rw [read, instant, timegm_gmtime]

end Instant

/-- Adding the header does not depend on the message. -/
theorem createHeader_ofTime (time : Int) :
    (DateTimeHeaderNode.ofHeader (.ofTime time)).createHeader =
      if AcceptedDate (gmtime time) then some (.ofTime time) else none := by
  have valid := isValid_iff (gmtime_normal time) {}
  by_cases accepted : AcceptedDate (gmtime time)
  · rw [if_pos accepted]
    exact if_pos (valid.mpr accepted)
  · rw [if_neg accepted]
    exact if_neg (mt valid.mp accepted)

theorem createHeader_fields {fields : Fields} {time : Int} (same : fields.Of time)
    (accepted : AcceptedDate (gmtime time)) :
    (DateTimeHeaderNode.mk fields.tm {} ['Z']).createHeader = some ⟨fields.tm, {}, ['Z']⟩ := by
  have valid := (isValid_iff (gmtime_normal time) {}).mpr accepted
  unfold Fields.Of at same
  rw [same] at valid
  have year : fields.year - 1900 + (1900 : Int) = fields.year := Int.sub_add_cancel _ _
  simp only [year] at valid
  exact if_pos valid

/-- A text that a section can have as a line. -/
def Line (line : Text) : Prop := line ≠ [] ∧ '\r' ∉ line

theorem readSection_line (start : Text) {line : Text} (whole : '\r' ∉ line) (rest : Text) :
    readSection start (line ++ crlf ++ rest) = readSection (start ++ line) (crlf ++ rest) := by
  induction line generalizing start with
  | nil => rw [List.nil_append, List.append_nil]
  | cons char more following =>
    have other : char ≠ '\r' := fun same => whole (same ▸ List.mem_cons_self)
    have step : readSection start (char :: (more ++ crlf ++ rest)) =
        readSection (start ++ [char]) (more ++ crlf ++ rest) := by
      rw [readSection]
      exact fun _ same => absurd same other
    rw [List.cons_append, List.cons_append, step, following _ fun inside => whole (List.mem_cons_of_mem _ inside),
      List.append_assoc, List.singleton_append]

/-- The lines of a section are found again. -/
theorem readSection_lines {lines : List Text} (each : ∀ line ∈ lines, Line line) (rest : Text) :
    readSection [] (lines.flatMap (· ++ crlf) ++ (crlf ++ rest)) = some (lines, rest) := by
  induction lines with
  | nil => rfl
  | cons line more following =>
    obtain ⟨visible, whole⟩ := each line List.mem_cons_self
    rw [List.flatMap_cons, List.append_assoc, readSection_line [] whole, List.nil_append]
    have next := following fun other member => each other (List.mem_cons_of_mem _ member)
    have ends : readSection line (crlf ++ (more.flatMap (· ++ crlf) ++ (crlf ++ rest))) =
        (readSection [] (more.flatMap (· ++ crlf) ++ (crlf ++ rest))).map (Prod.map (line :: ·) id) := by
      rw [crlf, List.cons_append, List.cons_append, List.nil_append, readSection]
      exact if_neg (by simpa using visible)
    rw [ends, next]
    rfl

variable {H : Type}

namespace Message

/-- The headers of a namespace, which need not be there. -/
def headersOf (message : Message H) (ns : Text) : List (Header H) := (message.getMessageHeaders ns).getD []

theorem findKey_pushHeader (ns other : Text) (header : Header H) (entries : List (Text × List (Header H))) :
    ((findKey Prod.fst other (pushHeader ns header entries)).map Prod.snd).getD [] =
      ((findKey Prod.fst other entries).map Prod.snd).getD [] ++ if ns = other then [header] else [] := by
  have kept : ∀ entry : Text × List (Header H), entry.1 = ns → (entry.1, entry.2 ++ [header]).1 = ns := fun _ same => same
  rw [pushHeader, findKey_updateFirst kept, findKey_insertKey]
  by_cases same : ns = other
  · rw [if_pos same, if_pos same, if_pos same]
    cases findKey Prod.fst other entries <;> rfl
  · rw [if_neg same, if_neg same, if_neg same, Option.or_none, List.append_nil]

/-- What is in the map after a header was pushed. -/
theorem mem_pushHeader {ns : Text} {header : Header H} {entries : List (Text × List (Header H))}
    {entry : Text × List (Header H)} (member : entry ∈ pushHeader ns header entries) {found : Header H}
    (inside : found ∈ entry.2) : (∃ old ∈ entries, old.1 = entry.1 ∧ found ∈ old.2) ∨ entry.1 = ns ∧ found = header := by
  have opened : ∀ old ∈ insertKey ns [] entries, found ∈ old.2 → ∃ other ∈ entries, other.1 = old.1 ∧ found ∈ other.2 := by
    intro old present within
    rcases mem_insertKey_iff.mp present with before | ⟨rfl, -⟩
    · exact ⟨old, before, rfl, within⟩
    · exact absurd within List.not_mem_nil
  have present : (insertKey ns [] entries).any (fun entry => entry.1 = ns) = true := by
    have somewhere : (findKey Prod.fst ns (insertKey ns [] entries)).isSome = true := by
      rw [findKey_insertKey, if_pos rfl]
      simp
    rwa [findKey, List.find?_isSome, ← List.any_eq_true] at somewhere
  obtain ⟨before, old, after, shape, hit, -, pushed⟩ := updateFirst_split present
  rw [pushHeader, pushed] at member
  rw [shape] at opened
  rcases List.mem_append.mp member with early | late
  · exact .inl (opened entry (List.mem_append_left _ early) inside)
  · rcases List.mem_cons.mp late with rfl | later
    · rcases List.mem_append.mp inside with kept | added
      · exact .inl (opened old (List.mem_append_right _ List.mem_cons_self) kept)
      · exact .inr ⟨of_decide_eq_true hit, List.mem_singleton.mp added⟩
    · exact .inl (opened entry (List.mem_append_right _ (List.mem_cons_of_mem _ later)) inside)

theorem mem_headersOf {message : Message H} {ns : Text} {header : Header H} (member : header ∈ message.headersOf ns) :
    ∃ headers, message.getMessageHeaders ns = some headers ∧ header ∈ headers ∧ (ns, headers) ∈ message.messageHeaders := by
  unfold headersOf at member
  cases found : message.getMessageHeaders ns with
  | none =>
    rw [found] at member
    exact absurd member List.not_mem_nil
  | some headers =>
    rw [found] at member
    obtain ⟨⟨name, inside⟩, isEntry, rfl⟩ := Option.map_eq_some_iff.mp found
    have key : name = ns := findKey_key isEntry
    exact ⟨inside, rfl, member, key ▸ findKey_mem isEntry⟩

variable {others : OtherHeaders H}

theorem headersOf_addMessageHeader (message : Message H) (header : Header H) (ns other : Text) :
    (message.addMessageHeader others header ns).1.headersOf other =
      message.headersOf other ++ if ns = other then (others.clone header).toList else [] := by
  unfold addMessageHeader
  split
  next refused => rw [refused, Option.toList_none, ite_self, List.append_nil]
  next kept accepted =>
    rw [accepted]
    exact findKey_pushHeader ns other kept message.messageHeaders

/-- Lines that can be read are all read, and a header in the first namespace that can be added is there. -/
theorem foldlM_addMessageLine {lines : List Text} (readable : ∀ line ∈ lines, (others.readMessageHeader line).isSome)
    (message : Message H) :
    ∃ final, lines.foldlM (addMessageLine others) message = some final ∧
      ∀ header, (header ∈ message.headersOf [] ∨ ∃ line ∈ lines, ∃ read, others.readMessageHeader line = some ([], read) ∧
        others.clone read = some header) → header ∈ final.headersOf [] := by
  induction lines generalizing message with
  | nil =>
    refine ⟨message, rfl, ?_⟩
    rintro header (there | ⟨line, member, -⟩)
    · exact there
    · exact absurd member List.not_mem_nil
  | cons line rest following =>
    obtain ⟨⟨ns, read⟩, isRead⟩ := Option.isSome_iff_exists.mp (readable line List.mem_cons_self)
    obtain ⟨final, reached, kept⟩ := following (fun other member => readable other (List.mem_cons_of_mem _ member))
      (message.addMessageHeader others read ns).1
    refine ⟨final, ?_, ?_⟩
    · rw [List.foldlM_cons, addMessageLine, isRead]
      exact reached
    · rintro header (there | ⟨other, member, found, isFound, cloned⟩)
      · apply kept header
        rw [headersOf_addMessageHeader]
        exact .inl (List.mem_append_left _ there)
      · rcases List.mem_cons.mp member with rfl | later
        · rw [isRead, Option.some.injEq, Prod.mk.injEq] at isFound
          obtain ⟨rfl, rfl⟩ := isFound
          apply kept header
          rw [headersOf_addMessageHeader, if_pos rfl, cloned]
          exact .inl (List.mem_append_right _ (List.mem_singleton.mpr rfl))
        · exact kept header (.inr ⟨other, later, found, isFound, cloned⟩)

theorem foldlM_addContentLine {lines : List Text} (readable : ∀ line ∈ lines, (others.readContentHeader line).isSome)
    (message : Message H) :
    ∃ final, lines.foldlM (addContentLine others) message = some final ∧ final.messageHeaders = message.messageHeaders := by
  induction lines generalizing message with
  | nil => exact ⟨message, rfl, rfl⟩
  | cons line rest following =>
    obtain ⟨read, isRead⟩ := Option.isSome_iff_exists.mp (readable line List.mem_cons_self)
    obtain ⟨final, reached, kept⟩ := following (fun other member => readable other (List.mem_cons_of_mem _ member))
      (message.addContentHeader others read).1
    refine ⟨final, ?_, kept.trans ?_⟩
    · rw [List.foldlM_cons, addContentLine, isRead]
      exact reached
    · unfold addContentHeader
      split <;> rfl

/-- What is written is a line that can be read. -/
def Written {α : Type} (read : Text → Option α) (text : Text) : Prop :=
  ∃ line, text = line ++ crlf ∧ Line line ∧ (read line).isSome

/-- A message whose headers can all be read, with some of them for its content. -/
structure Readable (others : OtherHeaders H) (message : Message H) : Prop where
  messageHeaders : ∀ entry ∈ message.messageHeaders, ∀ header ∈ entry.2,
    Written others.readMessageHeader (namedAsString others entry.1 header)
  contentHeaders : ∀ header ∈ message.contentHeaders, Written others.readContentHeader (others.headerAsString header)
  content : message.contentHeaders ≠ []

theorem written_lines {α : Type} {read : Text → Option α} {texts : List Text}
    (written : ∀ text ∈ texts, Written read text) :
    ∃ lines : List Text, texts.flatten = lines.flatMap (· ++ crlf) ∧ (∀ line ∈ lines, Line line ∧ (read line).isSome) ∧
      (∀ line, line ++ crlf ∈ texts → line ∈ lines) ∧ lines.length = texts.length := by
  induction texts with
  | nil => exact ⟨[], rfl, by simp, by simp, rfl⟩
  | cons text rest following =>
    obtain ⟨line, rfl, whole, isRead⟩ := written text List.mem_cons_self
    obtain ⟨lines, same, each, all, long⟩ := following fun other member => written other (List.mem_cons_of_mem _ member)
    refine ⟨line :: lines, ?_, ?_, ?_, congrArg (· + 1) long⟩
    · rw [List.flatten_cons, same, List.flatMap_cons]
    · exact List.forall_mem_cons.mpr ⟨⟨whole, isRead⟩, each⟩
    · intro other member
      rcases List.mem_cons.mp member with here | later
      · rw [List.append_cancel_right here]
        exact List.mem_cons_self
      · exact List.mem_cons_of_mem _ (all other later)

/-- The texts of the message headers, in their order. -/
def headerTexts (others : OtherHeaders H) (message : Message H) : List Text :=
  message.messageHeaders.flatMap fun (ns, headers) => headers.map (namedAsString others ns)

theorem mem_headerTexts {message : Message H} {text : Text} :
    text ∈ message.headerTexts others ↔
      ∃ entry ∈ message.messageHeaders, ∃ header ∈ entry.2, namedAsString others entry.1 header = text := by
  simp only [headerTexts, List.mem_flatMap, List.mem_map]

/-- A written message is its lines, in two sections, and its content. -/
theorem asString_sections {message : Message H} (named : message.messageHeaders ≠ []) :
    message.asString others =
      (message.headerTexts others).flatten ++ (crlf ++
        ((message.contentHeaders.map others.headerAsString).flatten ++ (crlf ++ message.content))) := by
  have flat : (message.headerTexts others).flatten =
      message.messageHeaders.flatMap fun (ns, headers) => headers.flatMap (namedAsString others ns) := by
    rw [headerTexts, List.flatten_eq_flatMap, List.flatMap_assoc]
    simp only [List.flatMap_map, id_eq]
  have filled : message.messageHeaders.isEmpty = false := by simpa using named
  rw [asString, filled, ← flat, List.flatMap_def]
  exact List.append_assoc _ _ _

/-- The message is given the date, and the date is found in what is parsed of it. -/
def DateSurvives (others : OtherHeaders H) (message : Message H) (time : Int) : Prop :=
  let added := message.addMessageHeader others (.dateTime (.ofTime time)) []
  added.2 = true ∧ ∃ parsed headers header, parseMessage others (added.1.asString others) = some parsed ∧
    parsed.getMessageHeaders [] = some headers ∧ .dateTime header ∈ headers ∧ header.getTime = time

/-- The line of a date that is accepted, and the header that is read of it. -/
theorem dateLine_read (others : OtherHeaders H) {fields : Fields} {time : Int} (same : fields.Of time)
    (accepted : AcceptedDate (gmtime time)) :
    ∃ line, (DateTimeHeader.ofTime time).asString = line ++ crlf ∧ Line line ∧ line.head? = some 'D' ∧
      others.readMessageHeader line = some ([], .dateTime ⟨fields.tm, {}, ['Z']⟩) := by
  have value := getValue_ofTime same
  refine ⟨DateTimeHeader.getName ++ [':', ' '] ++ (DateTimeHeader.ofTime time).getValue, rfl, ⟨?_, ?_⟩, rfl, ?_⟩
  · exact fun empty => absurd (congrArg List.head? empty) (Option.some_ne_none 'D')
  · have digits : ∀ width value : Nat, '\r' ∉ padded '0' width value :=
      fun width value => (padded_digits width value).not_mem rfl
    have name : '\r' ∉ DateTimeHeader.getName ++ [':', ' '] := by decide
    rw [List.mem_append, not_or]
    refine ⟨name, ?_⟩
    rw [value]
    simpa [Fields.fullDate, Fields.partialTime, digits] using digits 2 (fields.mon + 1)
  · have read : readDateTime (DateTimeHeader.getName ++ [':', ' '] ++ (DateTimeHeader.ofTime time).getValue) =
        some ⟨fields.tm, {}, ['Z']⟩ := by
      rw [readDateTime, skip_append, Option.bind_some, value]
      exact readDateTimeValue_fields fields
    rw [OtherHeaders.readMessageHeader, read]
    simp only [createHeader_fields same accepted]
    rfl

/-- A section with the line of a date is not the one that stands before a message. -/
theorem skipCrappyHeader_date {lines : List Text} {line rest : Text} (member : line ∈ lines)
    (first : line.head? = some 'D') : skipCrappyHeader (lines, rest) = some (lines, rest) := by
  unfold skipCrappyHeader
  split
  next only after same =>
    cases same
    rw [List.mem_singleton.mp member] at first
    refine if_neg fun crappy => ?_
    have head := congrArg List.head? crappy
    rw [List.head?_map, first] at head
    exact absurd head (by decide)
  next => rfl

theorem Readable.addMessageHeader {message : Message H} (readable : Readable others message) {header : Header H}
    (written : ∀ kept, others.clone header = some kept → Written others.readMessageHeader (others.headerAsString kept)) :
    Readable others (message.addMessageHeader others header []).1 := by
  unfold Message.addMessageHeader
  split
  next => exact readable
  next kept accepted =>
    refine ⟨?_, readable.contentHeaders, readable.content⟩
    intro entry present found inside
    rcases mem_pushHeader present inside with ⟨old, before, name, within⟩ | ⟨name, rfl⟩
    · rw [← name]
      exact readable.messageHeaders old before found within
    · rw [name]
      exact written found accepted

/-- A readable message is parsed, and a header that is a line for itself is found. -/
theorem Readable.parseMessage {message : Message H} (readable : Readable others message) {header read kept : Header H}
    {line : Text} (member : header ∈ message.headersOf []) (written : others.headerAsString header = line ++ crlf)
    (first : line.head? = some 'D') (isRead : others.readMessageHeader line = some ([], read))
    (cloned : others.clone read = some kept) :
    ∃ parsed, Message.parseMessage others (message.asString others) = some parsed ∧ kept ∈ parsed.headersOf [] := by
  obtain ⟨headers, -, inside, entry⟩ := mem_headersOf member
  have each : ∀ text ∈ message.headerTexts others, Written others.readMessageHeader text := by
    intro text present
    obtain ⟨entry, there, found, within, rfl⟩ := mem_headerTexts.mp present
    exact readable.messageHeaders entry there found within
  obtain ⟨lines, sameLines, eachLine, all, -⟩ := written_lines each
  obtain ⟨contents, sameContents, eachContent, -, long⟩ :=
    written_lines (List.forall_mem_map.mpr readable.contentHeaders)
  have lineMember : line ∈ lines := all line (mem_headerTexts.mpr ⟨_, entry, header, inside, written⟩)
  have some : lines.isEmpty = false := by simpa using List.ne_nil_of_mem lineMember
  have filled : contents.isEmpty = false := by
    have content := readable.content
    rw [List.isEmpty_eq_false_iff, ← List.length_pos_iff, long, List.length_map, List.length_pos_iff]
    exact content
  obtain ⟨headed, reached, found⟩ := foldlM_addMessageLine (fun line member => (eachLine line member).2) ({} : Message H)
  obtain ⟨final, finished, kept⟩ := foldlM_addContentLine (fun line member => (eachContent line member).2) headed
  refine ⟨final.setContent message.content, ?_, ?_⟩
  · rw [asString_sections (List.ne_nil_of_mem entry), sameLines, sameContents, Message.parseMessage,
      readSection_lines fun line member => (eachLine line member).1]
    simp only [Option.bind_eq_bind, Option.bind_some, skipCrappyHeader_date lineMember first,
      readSection_lines fun line member => (eachContent line member).1, some, filled, Bool.false_eq_true, or_self,
      if_false, reached, finished]
    rfl
  · have there := found _ (.inr ⟨line, lineMember, read, isRead, cloned⟩)
    unfold headersOf getMessageHeaders at there ⊢
    rwa [← kept] at there

theorem clone_ofTime (others : OtherHeaders H) (time : Int) :
    others.clone (.dateTime (.ofTime time)) =
      if AcceptedDate (gmtime time) then some (.dateTime (.ofTime time)) else none := by
  rw [OtherHeaders.clone, createHeader_ofTime]
  split <;> rfl

/-- The dates that survive are those that pass the check. -/
theorem date_survives_iff {message : Message H} (readable : Readable others message) {time : Int}
    (least : 1970 ≤ (gmtime time).year + 1900) (most : (gmtime time).year + 1900 ≤ 9999) :
    DateSurvives others message time ↔ AcceptedDate (gmtime time) := by
  have cloned := clone_ofTime others time
  by_cases accepted : AcceptedDate (gmtime time)
  · rw [if_pos accepted] at cloned
    obtain ⟨fields, same⟩ := exists_fields least most
    obtain ⟨line, written, whole, first, read⟩ := dateLine_read others same accepted
    have kept : others.clone (.dateTime ⟨fields.tm, {}, ['Z']⟩) = some (.dateTime ⟨fields.tm, {}, ['Z']⟩) :=
      congrArg (Option.map Header.dateTime) (createHeader_fields same accepted)
    have there : .dateTime (.ofTime time) ∈
        (message.addMessageHeader others (.dateTime (.ofTime time)) []).1.headersOf [] := by
      rw [headersOf_addMessageHeader, if_pos rfl, cloned]
      exact List.mem_append_right _ (List.mem_singleton.mpr rfl)
    have readableDate := @Readable.addMessageHeader H others message readable (.dateTime (.ofTime time)) fun header isKept => by
      rw [cloned, Option.some.injEq] at isKept
      exact ⟨line, isKept ▸ written, whole, read ▸ rfl⟩
    obtain ⟨parsed, isParsed, found⟩ := readableDate.parseMessage there written first read kept
    obtain ⟨headers, isHeaders, inside, -⟩ := mem_headersOf found
    refine iff_of_true ⟨?_, parsed, headers, _, isParsed, isHeaders, inside, getTime_fields same⟩ accepted
    rw [Message.addMessageHeader, cloned]
  · refine iff_of_false (fun survives => ?_) accepted
    rw [if_neg accepted] at cloned
    have added := survives.1
    rw [Message.addMessageHeader, cloned] at added
    exact Bool.noConfusion added

/-- The generic headers that have no parameters. -/
structure GenericHeader where
  name : Text
  value : Text
deriving Repr, DecidableEq

namespace GenericHeader

def read (line : Text) : Option GenericHeader :=
  match line.dropWhile (· != ':') with
  | ':' :: ' ' :: value =>
    let name := line.takeWhile (· != ':')
    if name.isEmpty ∨ value.isEmpty then none else some ⟨name, value⟩
  | _ => none

def headers : OtherHeaders GenericHeader where
  asString header := header.name ++ [':', ' '] ++ header.value ++ crlf
  cloneHeader header := if header.name.isEmpty ∨ header.value.isEmpty then none else some header
  messageHeader line := (read line).map fun header =>
    if '.' ∈ header.name then
      (header.name.takeWhile (· != '.'), { header with name := afterSeparator '.' header.name })
    else ([], header)
  contentHeader := read

def plainText : Message GenericHeader where
  contentHeaders := [.other ⟨"Content-Type".toList, "text/plain".toList⟩]
  content := "Hello".toList

theorem plainText_readable : Readable headers plainText where
  messageHeaders := by simp [plainText]
  contentHeaders := by
    intro header member
    rw [List.mem_singleton.mp member]
    exact ⟨"Content-Type: text/plain".toList, rfl, ⟨by decide, by decide⟩, rfl⟩
  content := by simp [plainText]

end GenericHeader

theorem date_survives_december : DateSurvives GenericHeader.headers GenericHeader.plainText 976686000 :=
  (date_survives_iff GenericHeader.plainText_readable (by decide) (by decide)).mpr (by decide)

/-- No date in January is accepted. -/
theorem january_refused : ¬ ∀ (time : Int), 1970 ≤ (gmtime time).year + 1900 → (gmtime time).year + 1900 ≤ 9999 →
    DateSurvives GenericHeader.headers GenericHeader.plainText time := by
  intro survives
  have added := (survives 1704110400 (by decide) (by decide)).1
  rw [Message.addMessageHeader, clone_ofTime, if_neg (by decide)] at added
  exact Bool.noConfusion added

end Message

end Liblinphone.Cpim
