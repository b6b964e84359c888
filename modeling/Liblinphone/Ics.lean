import Liblinphone.AccountParams
import Liblinphone.IcsText
import Liblinphone.ParticipantParameters

/-! An event of an ICS calendar. It is written as a text, and it is made into the
conference that it invites to. -/

namespace Liblinphone.Ics

open Library

/-- The texts of the application and those of the calendar, and what is made of a text that
should be an address: nothing when it is not a valid one. -/
structure Environment where
  localeToUtf8 : Text → Text
  utf8ToLocale : Text → Text
  createAddress : Text → Option Address

abbrev AttendeeParams := List (String × String)

structure Event where
  organizer : Text × AttendeeParams := ([], [])
  attendees : List (Text × AttendeeParams) := []
  dateTimeStart : Tm := {}
  duration : Tm := {}
  sequence : Nat := 0
  summary : Text := []
  description : Text := []
  xConfUri : Text := []
  uid : Text := []
  creationTime : Int := -1
deriving Repr, DecidableEq

namespace Event

def addAttendee (event : Event) (attendee : Text) (params : AttendeeParams) : Event :=
  { event with attendees := insertKey attendee params event.attendees }

def setSummary (event : Event) (summary : Text) : Event := { event with summary := trimText summary }

def setDescription (event : Event) (description : Text) : Event := { event with description := trimText description }

def setUid (event : Event) (uid : Text) : Event := { event with uid := trimText uid }

def lineEnd : Text := ['\r', '\n']

def dateTimeText (tm : Tm) : Text :=
  padded '0' 4 (tm.year + 1900) ++ padded '0' 2 (tm.mon + 1) ++ padded '0' 2 tm.mday ++ ['T'] ++
    padded '0' 2 tm.hour ++ padded '0' 2 tm.min ++ padded '0' 2 tm.sec ++ ['Z']

def durationText (tm : Tm) : Text :=
  if tm.hour > 0 ∨ tm.min > 0 ∨ tm.sec > 0 then
    "DURATION:PT".toList ++ (if tm.hour > 0 then integerText tm.hour ++ ['H'] else []) ++
      (if tm.min > 0 then integerText tm.min ++ ['M'] else []) ++
      (if tm.sec > 0 then integerText tm.sec ++ ['S'] else []) ++ lineEnd
  else []

def memberText (keyword : Text) (member : Text × AttendeeParams) : Text :=
  keyword ++ member.2.flatMap (fun param => ';' :: param.1.toList ++ '=' :: param.2.toList) ++ ':' :: member.1 ++ lineEnd

/-- A line that is only there when it says something. -/
def optionalLine (name value written : Text) : Text := if value.isEmpty then [] else name ++ written ++ lineEnd

/-- The time that stamps the event: now, when it has no time of its own. -/
def usedTime (event : Event) (now : Int) : Int := if event.creationTime ≠ -1 then event.creationTime else now

/-- The stamp in this text is not filled up, but for its year, with blanks. -/
def stampText (stamp : Tm) : Text :=
  padded ' ' 4 (stamp.year + 1900) ++ integerText (stamp.mon + 1) ++ integerText stamp.mday ++ ['T'] ++
    integerText stamp.hour ++ integerText stamp.min ++ integerText stamp.sec ++ ['Z']

/-- The domain of the organizer, as it follows the first at sign of its address. -/
def uidDomain (organizerAddress : Text) : Text :=
  ((afterFirst ['@'] organizerAddress).getD "domain.invalid".toList)

def generatedUid (event : Event) (now : Int) : Text :=
  stampText (Utils.getTimeTAsTm (event.usedTime now)) ++ '@' :: uidDomain event.organizer.1

/-- An event without a unique identifier is given one when it is written. -/
def writtenUid (event : Event) (now : Int) : Text := if event.uid.isEmpty then event.generatedUid now else event.uid

/-- The text of the event, and the event with its identifier. -/
def asString (environment : Environment) (event : Event) (now : Int) : Text × Event :=
  ("BEGIN:VEVENT\r\n".toList ++ "DTSTART:".toList ++ dateTimeText event.dateTimeStart ++ lineEnd ++
    durationText event.duration ++
    (if event.organizer.1.isEmpty then [] else memberText "ORGANIZER".toList event.organizer) ++
    event.attendees.flatMap (memberText "ATTENDEE".toList) ++
    optionalLine "X-CONFURI:".toList event.xConfUri event.xConfUri ++
    optionalLine "SUMMARY:".toList event.summary (environment.localeToUtf8 (escape event.summary)) ++
    optionalLine "DESCRIPTION:".toList event.description (environment.localeToUtf8 (escape event.description)) ++
    (if event.sequence ≠ 0 then "SEQUENCE:".toList ++ numberText event.sequence ++ lineEnd else []) ++
    "DTSTAMP:".toList ++ dateTimeText (Utils.getTimeTAsTm (event.usedTime now)) ++ lineEnd ++
    "UID:".toList ++ event.writtenUid now ++ lineEnd ++ "END:VEVENT\r\n".toList,
    { event with uid := event.writtenUid now })

end Event

inductive Method where
  | request | cancel | retrieve
deriving Repr, DecidableEq

/-- Only the first event of a calendar is used. -/
structure Icalendar where
  method : Method := .request
  events : List Event := []
deriving Repr, DecidableEq

/-- The conference of an event. It may have no organizer. -/
structure EventConference where
  organizer : Option ParticipantInfo := none
  participants : List ParticipantInfo := []
  subject : Text := []
  description : Text := []
  duration : Nat := 0
  uri : Option Address := none
  dateTime : Int := -1
  creationTime : Int := -1
  icsSequence : Nat := 0
  icsUid : Text := []
  state : ConferenceInfoState := .new
deriving Repr, DecidableEq

/-- A participant that matches the organizer becomes the organizer. -/
def EventConference.addParticipant (conference : EventConference) (participantInfo : ParticipantInfo) :
    EventConference :=
  match conference.organizer with
  | some organizer =>
    let info : ConferenceInfo := { organizer := organizer, participants := conference.participants }
    { conference with
      organizer := some (info.addParticipant participantInfo).organizer
      participants := (info.addParticipant participantInfo).participants }
  | none =>
    if conference.participants.any (participantInfo.isMatch ·) then conference
    else { conference with participants := conference.participants ++ [participantInfo] }

namespace Icalendar

def setMethod (calendar : Icalendar) (method : Text) : Icalendar :=
  if method = "REQUEST".toList then { calendar with method := .request }
  else if method = "CANCEL".toList then { calendar with method := .cancel }
  else if method = "RETRIEVE".toList then { calendar with method := .retrieve }
  else calendar

def addEvent (calendar : Icalendar) (event : Event) : Icalendar :=
  { calendar with events := calendar.events ++ [event] }

/-- Each participant has an address object of its own. -/
def fillParticipantInfo (pointer : Nat) (address : Address) (params : AttendeeParams) :
    Except StdException ParticipantInfo :=
  (ParticipantInfo.create ⟨(0, pointer), address⟩).setParameters? params

/-- What is not an address is left out. -/
def setOrganizer (environment : Environment) (event : Event) (conference : EventConference) :
    Except StdException EventConference :=
  if event.organizer.1.isEmpty then .ok conference
  else match environment.createAddress event.organizer.1 with
    | none => .ok conference
    | some address =>
      (fillParticipantInfo 0 address event.organizer.2).map fun info => { conference with organizer := some info }

def addAttendee (environment : Environment) (conference : EventConference) (attendee : Text × AttendeeParams) :
    Except StdException EventConference :=
  if attendee.1.isEmpty then .ok conference
  else match environment.createAddress attendee.1 with
    | none => .ok conference
    | some address =>
      (fillParticipantInfo (conference.participants.length + 1) address attendee.2).map conference.addParticipant

/-- The minutes of a duration. Its years and days are not looked at. -/
def durationMinutes (duration : Tm) : Int := Utils.toInt (duration.hour * 60 + duration.min + duration.sec.tdiv 60)

def conferenceState (method : Method) (sequence : Nat) : ConferenceInfoState :=
  match method with
  | .retrieve | .request => if sequence = 0 then .new else .updated
  | .cancel => .cancelled

def toConferenceInfo (environment : Environment) (calendar : Icalendar) :
    Except StdException (Option EventConference) :=
  match calendar.events with
  | [] => .ok none
  | event :: _ => do
    let organized ← setOrganizer environment event {}
    let invited ← event.attendees.foldlM (addAttendee environment) organized
    let minutes := durationMinutes event.duration
    let uri := if event.xConfUri.isEmpty then none else environment.createAddress event.xConfUri
    pure (some { invited with
      subject := environment.localeToUtf8 event.summary
      description := environment.localeToUtf8 event.description
      duration := if minutes ≥ 0 then minutes.toNat else invited.duration
      uri := uri.map Address.getUriWithoutGruu
      dateTime := Utils.getTmAsTimeT event.dateTimeStart
      creationTime := if event.creationTime ≠ -1 then event.creationTime else invited.creationTime
      icsSequence := event.sequence
      icsUid := event.uid
      state := conferenceState calendar.method event.sequence })

end Icalendar

end Liblinphone.Ics
