import Liblinphone.Participant

/-! What is known of a scheduled conference: its organizer, the participants that
are invited and the numbers that order the invitations. -/

namespace Liblinphone

/-- An address with the object that holds it. Copies of a participant share it. -/
structure SharedAddress where
  pointer : Nat × Nat
  address : Address
deriving Repr, DecidableEq

structure ParticipantInfo where
  address : SharedAddress
  ccmpUri : String := ""
  role : ParticipantRole := .unknown
  sequence : Int := -1
  parameters : List (String × String) := []
deriving Repr, DecidableEq

namespace ParticipantInfo

/-- A parameter that is there gets the value. -/
def addParameter (parameters : List (String × String)) (parameter : String × String) : List (String × String) :=
  if parameters.any (·.1 == parameter.1) then
    Library.updateFirst (·.1 == parameter.1) (fun _ => parameter) parameters
  else parameters ++ [parameter]

/-- The parameters of another participant, among them its sequence number and its
role when they are known. -/
def addParameters (participantInfo other : ParticipantInfo) : ParticipantInfo :=
  { participantInfo with
    sequence := if other.sequence ≥ 0 then other.sequence else participantInfo.sequence
    role := if other.role = .unknown then participantInfo.role else other.role
    parameters := other.parameters.foldl addParameter participantInfo.parameters }

def nextSequence (sequence : Int) : Int := if sequence < 0 then 0 else sequence + 1

/-- One of the two has the address or the CCMP URI of the other. -/
def isMatch (participantInfo other : ParticipantInfo) : Bool :=
  participantInfo.address.address.weakEqual other.address.address ||
    participantInfo.ccmpUri != "" && participantInfo.ccmpUri == other.ccmpUri

end ParticipantInfo

/-- The URI of a conference has no gruu. It may be missing, or an address that is
not one. -/
inductive ConferenceUri where
  | null
  | invalid
  | valid (uri : Address) (noGruu : uri.getUriWithoutGruu = uri)
deriving Repr, DecidableEq

namespace ConferenceUri

def valid? : ConferenceUri → Option Address
  | valid uri _ => some uri
  | _ => none

def ofAddress (address : Address) : ConferenceUri :=
  valid address.getUriWithoutGruu address.getUriWithoutGruu_again

end ConferenceUri

inductive ConferenceInfoState where
  | new | updated | cancelled
deriving Repr, DecidableEq

/-- A scheduled conference. A participant that matches the organizer is the same
object as the organizer. -/
structure ConferenceInfo where
  organizer : ParticipantInfo
  participants : List ParticipantInfo := []
  uri : ConferenceUri := .null
  state : ConferenceInfoState := .new
  icsUid : String := ""
  icsSequence : Nat := 0
  dateTime : Int := -1
  duration : Nat := 0
  earlierJoiningTime : Int := -1
  expiryTime : Int := -1
deriving Repr, DecidableEq

namespace ConferenceInfo

def findByAddress (info : ConferenceInfo) (address : Address) : Option ParticipantInfo :=
  info.participants.find? fun other => address.weakEqual other.address.address

def findByCcmpUri (info : ConferenceInfo) (ccmpUri : String) : Option ParticipantInfo :=
  if ccmpUri = "" then none
  else info.participants.find? fun other => other.ccmpUri != "" && ccmpUri == other.ccmpUri

/-- The address is looked for before the CCMP URI. -/
def findParticipant (info : ConferenceInfo) (participantInfo : ParticipantInfo) : Option ParticipantInfo :=
  (info.findByAddress participantInfo.address.address).or (info.findByCcmpUri participantInfo.ccmpUri)

def setUri (info : ConferenceInfo) (uri : ConferenceUri) : ConferenceInfo := { info with uri := uri }

/-- The organizer after the participants were written to: it is one of them when it
matches. -/
def shareOrganizer (info : ConferenceInfo) : ConferenceInfo :=
  { info with organizer := (info.participants.find? info.organizer.isMatch).getD info.organizer }

def setOrganizer (info : ConferenceInfo) (organizer : ParticipantInfo) : ConferenceInfo :=
  match info.findParticipant organizer with
  | some participant =>
    let merged := participant.addParameters organizer
    { info with
      organizer := merged
      participants := Library.updateFirst (· == participant) (fun _ => merged) info.participants }
  | none => { info with organizer := organizer }

/-- The organizer joins the participants as the object it is. -/
def addParticipant (info : ConferenceInfo) (participantInfo : ParticipantInfo) : ConferenceInfo :=
  match info.findParticipant participantInfo with
  | none =>
    if participantInfo.isMatch info.organizer then
      let merged := info.organizer.addParameters participantInfo
      { info with organizer := merged, participants := info.participants ++ [merged] }
    else { info with participants := info.participants ++ [participantInfo] }
  | some participant =>
    if participantInfo.isMatch info.organizer then
      { info with
        participants := Library.updateFirst (· == participant) (fun _ => participant.addParameters participantInfo)
          info.participants }.shareOrganizer
    else info

def removeParticipant (info : ConferenceInfo) (participantInfo : ParticipantInfo) : ConferenceInfo :=
  match info.findParticipant participantInfo with
  | some participant => { info with participants := info.participants.eraseP (· == participant) }
  | none => info

def updateParticipant (info : ConferenceInfo) (participantInfo : ParticipantInfo) : ConferenceInfo :=
  match info.findParticipant participantInfo with
  | some _ => (info.removeParticipant participantInfo).addParticipant participantInfo
  | none => info

/-- A participant keeps the sequence number that it had before. -/
def keepSequence (others : List ParticipantInfo) (participant : ParticipantInfo) : ParticipantInfo :=
  match others.find? fun other => participant.address.address.weakEqual other.address.address with
  | some other => { participant with sequence := other.sequence }
  | none => participant

def updateFrom (info other : ConferenceInfo) : ConferenceInfo :=
  let renamed := match other.uri with
    | .null => info
    | uri => info.setUri uri
  { renamed with
    icsUid := other.icsUid
    icsSequence := other.icsSequence + 1
    participants := info.participants.map (keepSequence other.participants) }.shareOrganizer

end ConferenceInfo

end Liblinphone
