import Liblinphone.Ics

/-! The parser of ICS calendars. The grammar finds the parts of the text, and each part is
given to a node that reads it. -/

namespace Liblinphone.Ics

open Library

structure DateTimeNode where
  year : Int := 0
  month : Int := 0
  day : Int := 0
  hour : Int := 0
  minute : Int := 0
  second : Int := 0
  utc : Bool := false
deriving Repr, DecidableEq

namespace DateTimeNode

def getDate (node : DateTimeNode) : Tm where
  year := node.year - 1900
  mon := node.month - 1
  mday := node.day
  hour := node.hour
  min := node.minute
  sec := node.second

def setYear (node : DateTimeNode) (year : Text) : DateTimeNode := { node with year := Utils.stoi year }

def setMonth (node : DateTimeNode) (month : Text) : DateTimeNode := { node with month := Utils.stoi month }

def setDay (node : DateTimeNode) (day : Text) : DateTimeNode := { node with day := Utils.stoi day }

def setHour (node : DateTimeNode) (hour : Text) : DateTimeNode := { node with hour := Utils.stoi hour }

def setMinute (node : DateTimeNode) (minute : Text) : DateTimeNode := { node with minute := Utils.stoi minute }

def setSecond (node : DateTimeNode) (second : Text) : DateTimeNode := { node with second := Utils.stoi second }

def setUtc (node : DateTimeNode) (utc : Text) : DateTimeNode := { node with utc := utc == ['Z'] }

end DateTimeNode

/-- What the grammar finds in a date, or in a date with a time. -/
structure DateTimeParts where
  fullyear : Text
  month : Text
  mday : Text
  time : Option (Text × Text × Text) := none
  utc : Option Text := none
deriving Repr, DecidableEq

def DateTimeParts.node (parts : DateTimeParts) : DateTimeNode :=
  let dated := ((({} : DateTimeNode).setYear parts.fullyear).setMonth parts.month).setDay parts.mday
  let timed := parts.time.elim dated fun (hour, minute, second) =>
    ((dated.setHour hour).setMinute minute).setSecond second
  parts.utc.elim timed timed.setUtc

/-- The number before a letter. What is cut off at the letter is not what is read. -/
def cutNumber (letter : Char) (text : Text) : Except StdException (Option Int) :=
  match findText [letter] text with
  | none => .ok none
  | some position => do
    let _ ← substr text 0 (oneLess position)
    pure (some (Utils.stoi text))

structure DurationNode where
  hour : Int := 0
  minute : Int := 0
  second : Int := 0
deriving Repr, DecidableEq

namespace DurationNode

def getDuration (node : DurationNode) : Tm where
  hour := node.hour
  min := node.minute
  sec := node.second

def setHour (node : DurationNode) (hour : Text) : Except StdException DurationNode :=
  (cutNumber 'H' hour).map fun number => { node with hour := number.getD node.hour }

def setMinute (node : DurationNode) (minute : Text) : Except StdException DurationNode :=
  (cutNumber 'M' minute).map fun number => { node with minute := number.getD node.minute }

def setSecond (node : DurationNode) (second : Text) : Except StdException DurationNode := do
  let _ ← substr second 0 (oneLess second.length)
  pure { node with second := Utils.stoi second }

end DurationNode

/-- What the grammar finds in a duration. The text of the hours goes on with that of the
minutes, and this one with that of the seconds. -/
structure DurationParts where
  hour : Option Text := none
  minute : Option Text := none
  second : Option Text := none
deriving Repr, DecidableEq

def DurationParts.node (parts : DurationParts) : Except StdException DurationNode := do
  let hours ← parts.hour.elim (.ok {}) ({} : DurationNode).setHour
  let minutes ← parts.minute.elim (.ok hours) hours.setMinute
  parts.second.elim (.ok minutes) minutes.setSecond

structure DurSecond where
  digits : Text
  number : Digits digits

structure DurMinute where
  digits : Text
  number : Digits digits
  second : Option DurSecond := none

structure DurHour where
  digits : Text
  number : Digits digits
  minute : Option DurMinute := none

/-- The time of a duration, as the grammar has it. It may start with any of its units, but
does not leave out the minutes between hours and seconds. -/
inductive DurTime where
  | hour (hour : DurHour)
  | minute (minute : DurMinute)
  | second (second : DurSecond)

def DurSecond.text (second : DurSecond) : Text := second.digits ++ ['S']

def DurMinute.text (minute : DurMinute) : Text := minute.digits ++ 'M' :: minute.second.elim [] DurSecond.text

def DurHour.text (hour : DurHour) : Text := hour.digits ++ 'H' :: hour.minute.elim [] DurMinute.text

def DurTime.parts : DurTime → DurationParts
  | .hour start =>
    { hour := some start.text
      minute := start.minute.map DurMinute.text
      second := (start.minute.bind DurMinute.second).map DurSecond.text }
  | .minute start => { minute := some start.text, second := start.second.map DurSecond.text }
  | .second start => { second := some start.text }

/-- A line of a member begins with its keyword, in either case. -/
structure MemberLine (keyword : Text) where
  text : Text
  named : (text.take keyword.length).map Char.toUpper = keyword

/-- What the grammar finds in an event. -/
inductive EventCall where
  | summvalue (text : Text)
  | descvalue (text : Text)
  | dtstval (parts : DateTimeParts)
  | dtendval (parts : DateTimeParts)
  | durValue (parts : DurationParts)
  | organizer (line : MemberLine "ORGANIZER".toList)
  | attendee (line : MemberLine "ATTENDEE".toList)
  | uid (line : Text)
  | seq (line : Text)
  | xProp (line : Text)

/-- What the grammar finds in a calendar. -/
inductive CalendarCall where
  | eventc (calls : List EventCall)
  | method (line : Text)

structure EventNode where
  summary : Text := []
  description : Text := []
  xConfUri : Text := []
  organizer : Text × AttendeeParams := ([], [])
  uid : Text := []
  sequence : Nat := 0
  attendees : List (Text × AttendeeParams) := []
  dateStart : Option DateTimeNode := none
  dateEnd : Option DateTimeNode := none
  duration : Option DurationNode := none
deriving Repr, DecidableEq

/-- The value of a line, when it has the name. Of a name with parameters one character too
many is cut off. -/
def propertyValue (expected line : Text) : Except StdException (Option Text) :=
  let prop := trimText line
  match findText [':'] prop with
  | none => .ok none
  | some colon => do
    let whole ← substr prop 0 (some colon)
    let value ← substr prop (colon + 1) (some prop.length)
    let name ← (findText [';'] whole).elim (.ok whole) fun semicolon => substr whole 0 (oneLess semicolon)
    pure (if name = expected then some value else none)

/-- The size of a text less where the address starts and less three. The end of the line is
two characters. Below zero it wraps around, and counts everything. -/
def addressLength (size : Nat) : Option Nat → Option Nat
  | some start => if start + 3 ≤ size then some (size - start - 3) else none
  | none => if 2 ≤ size then some (size - 2) else none

def parseParam (params : AttendeeParams) (param : Text) : Except StdException AttendeeParams :=
  if param.isEmpty then .ok params
  else do
    let equal := findText ['='] param
    let name ← substr param 0 equal
    let value ← substr param (past equal 1) (some param.length)
    pure (insertKey (String.ofList name) (String.ofList value) params)

/-- The parameters end at the first colon. -/
def parseMemberLine (line keyword : Text) : Except StdException (Text × AttendeeParams) :=
  if line.isEmpty then .ok ([], [])
  else do
    let paramAddress ← substr line (past (findText keyword line) keyword.length) none
    let addressStart := findText [':'] paramAddress
    let paramsStr ← substr paramAddress 0 addressStart
    let address ← substr paramAddress (past addressStart 1) (addressLength paramAddress.length addressStart)
    let params ← if paramsStr.isEmpty then .ok [] else ((trimText paramsStr).splitOn ';').foldlM parseParam []
    pure (address, params)

namespace EventNode

def setSummary (node : EventNode) (summary : Text) : EventNode := { node with summary := unescape summary }

def setDescription (node : EventNode) (description : Text) : EventNode :=
  { node with description := unescape description }

def setXProp (node : EventNode) (xProp : Text) : Except StdException EventNode :=
  (propertyValue "X-CONFURI".toList xProp).map fun value => { node with xConfUri := value.getD node.xConfUri }

def setUid (node : EventNode) (xUid : Text) : Except StdException EventNode :=
  (propertyValue "UID".toList xUid).map fun value => { node with uid := value.getD node.uid }

def setSequence (node : EventNode) (xSequence : Text) : Except StdException EventNode :=
  (propertyValue "SEQUENCE".toList xSequence).map fun value =>
    { node with sequence := value.elim node.sequence fun number => (Utils.stoi number % 2 ^ 32).toNat }

def setOrganizer (node : EventNode) (organizer : Text) : Except StdException EventNode :=
  (parseMemberLine organizer "ORGANIZER".toList).map fun member => { node with organizer := member }

def addAttendee (node : EventNode) (attendee : Text) : Except StdException EventNode :=
  (parseMemberLine attendee "ATTENDEE".toList).map fun member =>
    if member ≠ ([], []) then { node with attendees := insertKey member.1 member.2 node.attendees } else node

def apply (environment : Environment) (node : EventNode) : EventCall → Except StdException EventNode
  | .summvalue text => .ok (node.setSummary (environment.utf8ToLocale text))
  | .descvalue text => .ok (node.setDescription (environment.utf8ToLocale text))
  | .dtstval parts => .ok { node with dateStart := some parts.node }
  | .dtendval parts => .ok { node with dateEnd := some parts.node }
  | .durValue parts => parts.node.map fun duration => { node with duration := some duration }
  | .organizer line => node.setOrganizer line.text
  | .attendee line => node.addAttendee line.text
  | .uid line => node.setUid line
  | .seq line => node.setSequence line
  | .xProp line => node.setXProp line

/-- A difference in seconds, split into the fields of a duration. -/
def splitDuration (seconds : Int) : Tm where
  year := Utils.toInt (seconds.tdiv 31536000)
  yday := Utils.toInt ((seconds.tmod 31536000).tdiv 86400)
  hour := Utils.toInt (((seconds.tmod 31536000).tmod 86400).tdiv 3600)
  min := Utils.toInt ((((seconds.tmod 31536000).tmod 86400).tmod 3600).tdiv 60)
  sec := Utils.toInt ((((seconds.tmod 31536000).tmod 86400).tmod 3600).tmod 60)

/-- The duration that is given goes before the one up to the end. -/
def eventDuration (node : EventNode) : Tm :=
  match node.duration with
  | some duration => duration.getDuration
  | none =>
    match node.dateStart, node.dateEnd with
    | some start, some stop => splitDuration (Utils.getTmAsTimeT stop.getDate - Utils.getTmAsTimeT start.getDate)
    | _, _ => {}

def createEvent (node : EventNode) : Event :=
  let described := (({} : Event).setSummary node.summary).setDescription node.description
  let dated := { described with
    dateTimeStart := node.dateStart.elim described.dateTimeStart DateTimeNode.getDate
    duration := node.eventDuration
    organizer := node.organizer
    xConfUri := node.xConfUri }
  let invited := node.attendees.foldl (fun event attendee => event.addAttendee attendee.1 attendee.2) dated
  { invited.setUid node.uid with sequence := node.sequence }

end EventNode

structure IcalendarNode where
  method : Text := []
  events : List EventNode := []
deriving Repr, DecidableEq

namespace IcalendarNode

def setMethod (node : IcalendarNode) (xMethod : Text) : Except StdException IcalendarNode :=
  (propertyValue "METHOD".toList xMethod).map fun value => { node with method := value.getD node.method }

def addEvent (node : IcalendarNode) (event : EventNode) : IcalendarNode := { node with events := node.events ++ [event] }

def apply (environment : Environment) (node : IcalendarNode) : CalendarCall → Except StdException IcalendarNode
  | .eventc calls => (calls.foldlM (EventNode.apply environment) {}).map node.addEvent
  | .method line => node.setMethod line

/-- Only the first event is used. -/
def createIcalendar (node : IcalendarNode) : Option Icalendar :=
  match node.events with
  | [] => none
  | event :: _ => some ((({} : Icalendar).setMethod node.method).addEvent event.createEvent)

end IcalendarNode

/-- The grammar, and how long lines are put together before it is used. -/
structure Grammar where
  unfold : Text → Text
  parseInput : Text → Option (List CalendarCall)

/-- `Icalendar::createFromString`. -/
def createFromString (environment : Environment) (grammar : Grammar) (text : Text) :
    Except StdException (Option Icalendar) :=
  match grammar.parseInput (grammar.unfold text) with
  | none => .ok none
  | some calls => (calls.foldlM (IcalendarNode.apply environment) {}).map IcalendarNode.createIcalendar

/-- A received calendar as a conference. -/
def receive (environment : Environment) (grammar : Grammar) (text : Text) :
    Except StdException (Option EventConference) := do
  match ← createFromString environment grammar text with
  | none => pure none
  | some calendar => calendar.toConferenceInfo environment

end Liblinphone.Ics
