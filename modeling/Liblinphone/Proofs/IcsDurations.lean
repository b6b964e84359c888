import Liblinphone.Proofs.IcsReception

/-! The duration of a received conference. One that is given in hours, minutes and seconds
is counted whole. One that follows from an end loses its days and years. -/

namespace Liblinphone.Ics

open Library

/-- The parts of the text that is written for an instant. -/
def instantParts (time : Int) : DateTimeParts :=
  let tm := Utils.getTimeTAsTm time
  { fullyear := padded '0' 4 (tm.year + 1900)
    month := padded '0' 2 (tm.mon + 1)
    mday := padded '0' 2 tm.mday
    time := some (padded '0' 2 tm.hour, padded '0' 2 tm.min, padded '0' 2 tm.sec)
    utc := some ['Z'] }

/-- The year has four digits. -/
def Writable (time : Int) : Prop := 0 ≤ (gmtime time).year + 1900 ∧ (gmtime time).year + 1900 ≤ 9999

/-- An instant is read back as it was written. -/
theorem getDate_instantParts {time : Int} (writable : Writable time) :
    Utils.getTmAsTimeT (instantParts time).node.getDate = time := by
  obtain ⟨least, most⟩ := writable
  have normal := gmtime_normal time
  have day := normal.mday
  have long := monthDays_le ((gmtime time).year + 1900) (gmtime time).mon.toNat
  obtain ⟨sec, min, hour, mon, -⟩ := normal
  rw [Utils.getTmAsTimeT_eq rfl]
  have read : timegm (instantParts time).node.getDate = timegm (gmtime time) := by
    simp only [instantParts, DateTimeParts.node, DateTimeNode.getDate, DateTimeNode.setYear, DateTimeNode.setMonth,
      DateTimeNode.setDay, DateTimeNode.setHour, DateTimeNode.setMinute, DateTimeNode.setSecond, DateTimeNode.setUtc,
      Option.elim_some, Utils.getTimeTAsTm]
    rw [Utils.stoi_padded_int 4 least (by omega), Utils.stoi_padded_int 2 (by omega) (by omega),
      Utils.stoi_padded_int 2 (by omega) (by omega), Utils.stoi_padded_int 2 (by omega) (by omega),
      Utils.stoi_padded_int 2 (by omega) (by omega), Utils.stoi_padded_int 2 (by omega) (by omega)]
    simp [timegm]
  rw [read, timegm_gmtime]

/-- Of a difference that is split, the days and years are not counted. -/
theorem durationMinutes_splitDuration {seconds : Int} (least : 0 ≤ seconds) :
    Icalendar.durationMinutes (EventNode.splitDuration seconds) = seconds % 86400 / 60 := by
  have inYear : seconds.tmod 31536000 = seconds % 31536000 := Int.tmod_eq_emod_of_nonneg least
  have inDay : (seconds % 31536000).tmod 86400 = seconds % 86400 := by
    rw [Int.tmod_eq_emod_of_nonneg (by omega)]
    omega
  have hours : (seconds % 86400).tdiv 3600 = seconds % 86400 / 3600 := Int.tdiv_eq_ediv_of_nonneg (by omega)
  have inHour : (seconds % 86400).tmod 3600 = seconds % 86400 % 3600 := Int.tmod_eq_emod_of_nonneg (by omega)
  have minutes : (seconds % 86400 % 3600).tdiv 60 = seconds % 86400 % 3600 / 60 :=
    Int.tdiv_eq_ediv_of_nonneg (by omega)
  have inMinute : (seconds % 86400 % 3600).tmod 60 = seconds % 86400 % 3600 % 60 :=
    Int.tmod_eq_emod_of_nonneg (by omega)
  simp only [Icalendar.durationMinutes, EventNode.splitDuration, inYear, inDay, hours, inHour, minutes, inMinute]
  rw [@Utils.toInt_of_small (seconds % 86400 / 3600) (by omega) (by omega),
    @Utils.toInt_of_small (seconds % 86400 % 3600 / 60) (by omega) (by omega),
    @Utils.toInt_of_small (seconds % 86400 % 3600 % 60) (by omega) (by omega),
    Int.tdiv_eq_ediv_of_nonneg (by omega), Utils.toInt_of_small (by omega) (by omega)]
  omega

/-- The number of seconds of a time that is given in its units. -/
def DurSecond.seconds (second : DurSecond) : Nat := textNumber second.digits

def DurMinute.seconds (minute : DurMinute) : Nat :=
  60 * textNumber minute.digits + minute.second.elim 0 DurSecond.seconds

def DurHour.seconds (hour : DurHour) : Nat := 3600 * textNumber hour.digits + hour.minute.elim 0 DurMinute.seconds

def DurTime.seconds : DurTime → Nat
  | .hour start => start.seconds
  | .minute start => start.seconds
  | .second start => start.seconds

/-- What is read at a letter is the number before it. -/
theorem read_unit {digits rest : Text} {letter : Char} (number : Digits digits) (other : letter.isDigit = false)
    (small : textNumber digits < 2 ^ 31) :
    (findText [letter] (digits ++ letter :: rest)).map (fun _ => Utils.stoi (digits ++ letter :: rest)) =
      some (textNumber digits : Int) := by
  cases found : findText [letter] (digits ++ letter :: rest) with
  | none => exact absurd (by simp) (findText_char_none found)
  | some position =>
    rw [Option.map_some, Utils.stoi_append number _ small]
    intro char same
    cases same
    exact other

theorem read_second {second : DurSecond} (small : textNumber second.digits < 2 ^ 31) :
    Utils.stoi second.text = textNumber second.digits :=
  Utils.stoi_append second.number (by simp) small

theorem DurMinute.read {minute : DurMinute} (small : minute.seconds < 86400) :
    (findText ['M'] minute.text).map (fun _ => Utils.stoi minute.text) = some (textNumber minute.digits : Int) := by
  rw [DurMinute.seconds] at small
  exact read_unit minute.number (by decide) (by omega)

theorem read_seconds {second : Option DurSecond} (small : second.elim 0 DurSecond.seconds < 86400) :
    ((second.map DurSecond.text).map Utils.stoi).getD 0 = (second.elim 0 DurSecond.seconds : Nat) := by
  cases second with
  | none => rfl
  | some second =>
    rw [Option.elim_some, DurSecond.seconds] at small
    exact read_second (by omega)

/-- Hours, minutes and seconds of less than a day are counted whole. -/
theorem durationMinutes_units {hours minutes seconds : Int} {length : Nat} (short : length < 86400)
    (least : 0 ≤ hours ∧ 0 ≤ minutes ∧ 0 ≤ seconds) (same : 3600 * hours + 60 * minutes + seconds = length) :
    Icalendar.durationMinutes { hour := hours, min := minutes, sec := seconds } = (length : Int) / 60 := by
  have read : Utils.toInt (hours * 60 + minutes + seconds.tdiv 60) = (length : Int) / 60 := by
    rw [Int.tdiv_eq_ediv_of_nonneg least.2.2, Utils.toInt_of_small (by omega) (by omega)]
    omega
  exact read

/-- The minutes of a time that is shorter than a day are counted whole, however it is written. -/
theorem durationMinutes_parts {time : DurTime} (short : time.seconds < 86400) :
    ∃ node, time.parts.node = .ok node ∧
      Icalendar.durationMinutes node.getDuration = (time.seconds : Int) / 60 := by
  refine ⟨_, durationNode_eq time.parts, ?_⟩
  cases time with
  | hour start =>
    have length := short
    rw [DurTime.seconds, DurHour.seconds] at length
    have hoursRead : (findText ['H'] start.text).map (fun _ => Utils.stoi start.text) =
        some (textNumber start.digits : Int) := read_unit start.number (by decide) (by omega)
    cases held : start.minute with
    | none =>
      simp only [DurTime.parts, held, Option.bind_some, hoursRead]
      refine durationMinutes_units short (by simp) ?_
      simp [DurTime.seconds, DurHour.seconds, held]
    | some minute =>
      rw [held, Option.elim_some] at length
      have minutesRead := @DurMinute.read minute (by omega)
      rw [DurMinute.seconds] at length
      simp only [DurTime.parts, held, Option.bind_some, Option.map_some, hoursRead, minutesRead,
        @read_seconds minute.second (by omega)]
      refine durationMinutes_units short (by simp) ?_
      simp [DurTime.seconds, DurHour.seconds, DurMinute.seconds, held]
      omega
  | minute start =>
    have minutesRead := start.read short
    have length := short
    rw [DurTime.seconds, DurMinute.seconds] at length
    simp only [DurTime.parts, Option.bind_some, Option.bind_none, minutesRead, @read_seconds start.second (by omega)]
    refine durationMinutes_units short (by simp) ?_
    simp [DurTime.seconds, DurMinute.seconds]
  | second start =>
    have secondsRead := @read_seconds (some start) short
    simp only [DurTime.parts, Option.bind_none, Option.map_some] at secondsRead ⊢
    rw [secondsRead]
    refine durationMinutes_units short (by simp) ?_
    simp [DurTime.seconds]

/-- The conference of an event has the minutes of the event. -/
theorem toConferenceInfo_duration {environment : Environment} {calendar : Icalendar} {event : Event} {rest : List Event}
    {result : Option EventConference} (held : calendar.events = event :: rest)
    (returned : calendar.toConferenceInfo environment = .ok result)
    (least : 0 ≤ Icalendar.durationMinutes event.duration) :
    ∃ conference, result = some conference ∧ (conference.duration : Int) = Icalendar.durationMinutes event.duration := by
  rw [Icalendar.toConferenceInfo, held] at returned
  cases organized : Icalendar.setOrganizer environment event {} with
  | error exception => simp [organized, bind, Except.bind] at returned
  | ok conference =>
    cases invited : event.attendees.foldlM (Icalendar.addAttendee environment) conference with
    | error exception => simp [organized, invited, bind, Except.bind] at returned
    | ok final =>
      simp only [organized, invited, bind, Except.bind, pure, Except.pure, Except.ok.injEq] at returned
      refine ⟨_, returned.symm, ?_⟩
      rw [if_pos least]
      exact Int.toNat_of_nonneg least

theorem duration_createEvent (node : EventNode) : node.createEvent.duration = node.eventDuration := by
  rw [EventNode.createEvent, foldl_addAttendee]
  rfl

section Agreement

variable (environment : Environment) (method : Method)

/-- The conference of a calendar with one event. -/
def eventConference (node : EventNode) : Except StdException (Option EventConference) :=
  ({ method := method, events := [node.createEvent] } : Icalendar).toConferenceInfo environment

/-- The sequence numbers of the members can be read. -/
def MembersReadable (node : EventNode) : Prop :=
  PairReadable environment node.createEvent.organizer ∧
    ∀ attendee ∈ node.createEvent.attendees, PairReadable environment attendee

variable {environment} {method}

theorem eventConference_duration {node : EventNode} (readable : MembersReadable environment node)
    (least : 0 ≤ Icalendar.durationMinutes node.eventDuration) :
    ∃ conference, eventConference environment method node = .ok (some conference) ∧
      (conference.duration : Int) = Icalendar.durationMinutes node.eventDuration := by
  have returns : ∃ result, eventConference environment method node = .ok result := by
    rw [eventConference, toConferenceInfo_returns_iff]
    intro event first
    cases first
    exact readable
  obtain ⟨result, returned⟩ := returns
  rw [← duration_createEvent] at least ⊢
  obtain ⟨conference, rfl, minutes⟩ := toConferenceInfo_duration rfl returned least
  exact ⟨conference, returned, minutes⟩

/-- The dates of an event have no part in it. -/
theorem MembersReadable.congr {node other : EventNode} (readable : MembersReadable environment node)
    (organizer : other.organizer = node.organizer) (attendees : other.attendees = node.attendees) :
    MembersReadable environment other := by
  rw [MembersReadable, organizer_createEvent, attendees_createEvent] at readable ⊢
  rw [organizer, attendees]
  exact readable

/-- The event with a start and an end. -/
def endedEvent (node : EventNode) (start stop : Int) : EventNode :=
  { node with
    dateStart := some (instantParts start).node
    dateEnd := some (instantParts stop).node
    duration := none }

/-- The event with a start and a duration. -/
def lastingEvent (node : EventNode) (start : Int) (duration : DurationNode) : EventNode :=
  { node with
    dateStart := some (instantParts start).node
    dateEnd := none
    duration := some duration }

/-- An end and a duration make conferences of the same length, which is that of the interval,
exactly when the interval is shorter than a day. -/
theorem durations_agree_iff {node : EventNode} (readable : MembersReadable environment node) {start stop : Int}
    (ordered : start ≤ stop) (startWritable : Writable start) (stopWritable : Writable stop) {time : DurTime}
    (length : (time.seconds : Int) = stop - start) :
    (∃ first second duration, time.parts.node = .ok duration ∧
      eventConference environment method (endedEvent node start stop) = .ok (some first) ∧
      eventConference environment method (lastingEvent node start duration) = .ok (some second) ∧
      (first.duration : Int) = (stop - start) / 60 ∧ (second.duration : Int) = (stop - start) / 60) ↔
      stop - start < 86400 := by
  have ended : Icalendar.durationMinutes (endedEvent node start stop).eventDuration = (stop - start) % 86400 / 60 := by
    have split : (endedEvent node start stop).eventDuration =
        EventNode.splitDuration (Utils.getTmAsTimeT (instantParts stop).node.getDate -
          Utils.getTmAsTimeT (instantParts start).node.getDate) := rfl
    rw [split, getDate_instantParts startWritable, getDate_instantParts stopWritable]
    exact durationMinutes_splitDuration (by omega)
  obtain ⟨first, firstMade, firstMinutes⟩ := @eventConference_duration environment method (endedEvent node start stop)
    (readable.congr rfl rfl) (by rw [ended]; omega)
  rw [ended] at firstMinutes
  constructor
  · rintro ⟨other, second, duration, -, otherMade, -, otherMinutes, -⟩
    rw [firstMade] at otherMade
    cases otherMade
    omega
  · intro short
    obtain ⟨duration, read, minutes⟩ := @durationMinutes_parts time (by omega)
    rw [length] at minutes
    have lasting : Icalendar.durationMinutes (lastingEvent node start duration).eventDuration = (stop - start) / 60 :=
      minutes
    obtain ⟨second, secondMade, secondMinutes⟩ :=
      @eventConference_duration environment method (lastingEvent node start duration) (readable.congr rfl rfl)
        (by rw [lasting]; omega)
    refine ⟨first, second, duration, read, firstMade, secondMade, ?_, ?_⟩
    · omega
    · rw [secondMinutes, lasting]

end Agreement

/-- Twenty-five hours, as the grammar has them. -/
def dayAndHour : DurTime := .hour { digits := ['2', '5'], number := ⟨by simp, by simp⟩ }

/-- A conference of a day and an hour is one of an hour when its end is given. -/
theorem day_dropped :
    (eventConference plainEnvironment .request (endedEvent {} 0 90000)).map (·.map EventConference.duration) =
        .ok (some 60) ∧
      dayAndHour.parts.node = .ok { hour := 25 } ∧
      (eventConference plainEnvironment .request (lastingEvent {} 0 { hour := 25 })).map
        (·.map EventConference.duration) = .ok (some 1500) :=
  ⟨rfl, rfl, rfl⟩

/-- An hour from the start of 1970. -/
def oneHour : DurTime := .hour { digits := ['1'], number := ⟨by simp, by simp⟩ }

theorem durations_agree_hour :
    (∃ first second duration, oneHour.parts.node = .ok duration ∧
      eventConference plainEnvironment .request (endedEvent {} 0 3600) = .ok (some first) ∧
      eventConference plainEnvironment .request (lastingEvent {} 0 duration) = .ok (some second) ∧
      (first.duration : Int) = (3600 - 0) / 60 ∧ (second.duration : Int) = (3600 - 0) / 60) ↔
      (3600 - 0 : Int) < 86400 := by
  refine durations_agree_iff ⟨?_, ?_⟩ (by decide) ⟨by decide, by decide⟩ ⟨by decide, by decide⟩ (by decide)
  · exact fun said => absurd rfl said
  · exact fun attendee member => absurd member List.not_mem_nil

end Liblinphone.Ics
