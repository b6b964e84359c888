import Liblinphone.ConferenceDocument

/-! The server of a conference. Every change of the participants, their devices
and the subject bumps a version and is stored as an event. A client that missed
some of them is sent the stored events, written from what the server holds now. -/

namespace Liblinphone

inductive ConferenceEvent where
  | participantAdded (participant : Address)
  | participantRemoved (participant : Address)
  | participantSetAdmin (participant : Address)
  | participantUnsetAdmin (participant : Address)
  | participantDeviceAdded (participant device : Address)
  | participantDeviceRemoved (participant device : Address)
  | participantDeviceDataChanged (participant device : Address)
  | subjectChanged (subject : String)
  | availableMediaChanged (media : List (LinphoneStreamType × MediaDirection))
deriving Repr, DecidableEq

structure ConferenceNotifiedEvent where
  notifyId : Nat
  event : ConferenceEvent
deriving Repr, DecidableEq

/-- The conference on the server, with the events that its database holds. -/
structure ServerConference where
  conferenceAddress : Address
  me : Participant
  participants : List Participant := []
  subject : String := ""
  lastNotify : Nat := 0
  events : List ConferenceNotifiedEvent := []
deriving Repr, DecidableEq

namespace ServerConference

def isMe (sip : BelleSip) (conference : ServerConference) (address : Address) : Bool :=
  sip.addressEquals conference.me.address.getUriWithoutGruu address.getUriWithoutGruu

/-- A change is numbered before it is stored. -/
def notifyEvent (conference : ServerConference) (event : ConferenceEvent) : ServerConference :=
  { conference with
    lastNotify := conference.lastNotify + 1
    events := conference.events ++ [⟨conference.lastNotify + 1, event⟩] }

def updateParticipant (conference : ServerConference) (address : Address) (change : Participant → Participant) :
    ServerConference :=
  { conference with
    participants := Library.updateFirst (fun other => other.address.weakEqual address) change conference.participants }

/-- Devices are kept once each. -/
def keepDevice (sip : BelleSip) (devices : List ParticipantDevice) (device : ParticipantDevice) :
    List ParticipantDevice :=
  if devices.any fun other => sip.uriEquals other.address device.address then devices
  else devices ++ [{ device with address := device.address.getUri }]

/-- An invited participant joins with the devices it still has. The focus itself
is not a participant. -/
def addParticipantToList (sip : BelleSip) (conference : ServerConference) (invited : Participant) : ServerConference :=
  if conference.isMe sip invited.address || (findParticipant conference.participants invited.address).isSome then
    conference
  else
    { conference with
      participants := conference.participants ++
        [{ invited with
            address := invited.address.getUriWithoutGruu
            devices := invited.devices.foldl (keepDevice sip) [] }] }.notifyEvent
      (.participantAdded invited.address.getUriWithoutGruu)

def removeParticipant (conference : ServerConference) (address : Address) : ServerConference :=
  match findParticipant conference.participants address with
  | none => conference
  | some participant =>
    { conference with
      participants := conference.participants.eraseP fun other => other.address.weakEqual address }.notifyEvent
      (.participantRemoved participant.address)

def setParticipantAdminStatus (conference : ServerConference) (address : Address) (isAdmin : Bool) :
    ServerConference :=
  match findParticipant conference.participants address with
  | none => conference
  | some participant =>
    if isAdmin = participant.isAdmin then conference
    else
      (conference.updateParticipant address fun participant => { participant with isAdmin := isAdmin }).notifyEvent
        (if isAdmin then .participantSetAdmin participant.address else .participantUnsetAdmin participant.address)

def addParticipantDevice (sip : BelleSip) (conference : ServerConference) (address : Address)
    (device : ParticipantDevice) : ServerConference :=
  match findParticipant conference.participants address with
  | none => conference
  | some participant =>
    if (participant.findDevice sip device.address).isSome then conference
    else
      (conference.updateParticipant address fun participant =>
        { participant with devices := keepDevice sip participant.devices device }).notifyEvent
        (.participantDeviceAdded participant.address device.address.getUri)

/-- A device of the participant is removed when it is no longer registered. -/
def removeParticipantDevice (sip : BelleSip) (conference : ServerConference) (address device : Address) :
    ServerConference :=
  match findParticipant conference.participants address with
  | none => conference
  | some participant =>
    if participant.devices.any fun other => other.address == device then
      (conference.updateParticipant address fun participant => participant.removeDevice sip device).notifyEvent
        (.participantDeviceRemoved participant.address device)
    else conference

def setUtf8Subject (conference : ServerConference) (subject : String) : ServerConference :=
  if subject = conference.subject then conference
  else { conference with subject := subject }.notifyEvent (.subjectChanged subject)

end ServerConference

/-- What happens to a conference. -/
inductive ServerOperation where
  | addParticipant (invited : Participant)
  | removeParticipant (address : Address)
  | setParticipantAdminStatus (address : Address) (isAdmin : Bool)
  | addParticipantDevice (address : Address) (device : ParticipantDevice)
  | removeParticipantDevice (address device : Address)
  | setUtf8Subject (subject : String)
deriving Repr, DecidableEq

namespace ServerConference

def step (sip : BelleSip) (conference : ServerConference) : ServerOperation → ServerConference
  | .addParticipant invited => conference.addParticipantToList sip invited
  | .removeParticipant address => conference.removeParticipant address
  | .setParticipantAdminStatus address isAdmin => conference.setParticipantAdminStatus address isAdmin
  | .addParticipantDevice address device => conference.addParticipantDevice sip address device
  | .removeParticipantDevice address device => conference.removeParticipantDevice sip address device
  | .setUtf8Subject subject => conference.setUtf8Subject subject

def perform (sip : BelleSip) (conference : ServerConference) (operations : List ServerOperation) : ServerConference :=
  operations.foldl (step sip) conference

end ServerConference

def endpointStatusOf (device : ParticipantDevice) : EndpointStatusType :=
  match device.state with
  | .scheduledForJoining => .pending
  | .joining =>
    match device.joiningMethod with
    | .dialedIn => .dialingIn
    | .dialedOut => .dialingOut
    | .focusOwner => .pending
  | .alerting => .alerting
  | .present => .connected
  | .onHold | .requestingToJoin => .onHold
  | .scheduledForLeaving | .leaving => .disconnecting
  | .left => .disconnected
  | .mutedByFocus => .mutedViaFocus

def mediaCapabilitiesOf (streams : StreamCapabilities) : List MediaType :=
  [{ type := .audio, status := streams.audio }, { type := .video, status := streams.video },
    { type := .text, status := streams.text }, { type := .video, content := "thumbnail", status := streams.thumbnail }]

def callInfoOf (dialog : SipDialogId) : Option SipDialogId :=
  if dialog.callId != "" || dialog.fromTag != "" || dialog.toTag != "" then some dialog else none

/-- The endpoint of a device that the server holds. -/
def endpointOf (device : ParticipantDevice) (entity : Address) (state : StateType) : EndpointType where
  entity := some entity
  state := state
  media := mediaCapabilitiesOf device.streams
  joiningMethod := some device.joiningMethod
  joiningInfoWhen := if device.timeOfJoining ≥ 0 then some device.timeOfJoining else none
  status := some (endpointStatusOf device)
  callInfo := callInfoOf device.dialog
  displayText := if device.name != "" then some device.name else none

namespace ServerConference

def createNotify (conference : ServerConference) (description : ConferenceDescriptionType)
    (users : Option (List UserType)) : ConferenceType where
  entity := some conference.conferenceAddress
  state := .partialState
  version := some conference.lastNotify
  conferenceDescription := some description
  users := users

def participantOf (sip : BelleSip) (conference : ServerConference) (address : Address) : Option Participant :=
  if conference.isMe sip address then some conference.me else findParticipant conference.participants address

def createNotifyParticipantAdded (sip : BelleSip) (conference : ServerConference) (address : Address) :
    ConferenceType :=
  let participant := conference.participantOf sip address
  conference.createNotify {} (some
    [{ entity := address
       state := .full
       roles := some ((if participant.any (·.isAdmin) then "admin" else "participant") ::
         (participant.map (·.role.toText)).toList)
       endpoint := (participant.map (·.devices)).getD [] |>.map fun device =>
         endpointOf device device.address .full }])

def createNotifyParticipantAdminStatusChanged (conference : ServerConference) (address : Address) (isAdmin : Bool) :
    ConferenceType :=
  conference.createNotify {} (some
    [{ entity := address
       state := .partialState
       roles := some [if isAdmin then "admin" else "participant"] }])

def createNotifyParticipantRemoved (conference : ServerConference) (address : Address) : ConferenceType :=
  conference.createNotify {} (some [{ entity := address, state := .deleted }])

def createNotifyParticipantDeviceAdded (sip : BelleSip) (conference : ServerConference) (address device : Address) :
    ConferenceType :=
  conference.createNotify {} (some
    [{ entity := address
       state := .partialState
       endpoint := [match (conference.participantOf sip address).bind (·.findDevice sip device) with
         | some known => endpointOf known device .full
         | none => { entity := some device, state := .full }] }])

def createNotifyParticipantDeviceRemoved (sip : BelleSip) (conference : ServerConference) (address device : Address) :
    ConferenceType :=
  conference.createNotify {} (some
    [{ entity := address
       state := .partialState
       endpoint := [{ entity := some device
                      state := .deleted
                      callInfo := ((conference.participantOf sip address).bind (·.findDevice sip device)).bind
                        fun known => callInfoOf known.dialog }] }])

def createNotifyParticipantDeviceDataChanged (sip : BelleSip) (conference : ServerConference)
    (address device : Address) : ConferenceType :=
  conference.createNotify {} (some
    [{ entity := address
       state := .partialState
       endpoint := [match (conference.participantOf sip address).bind (·.findDevice sip device) with
         | some known => endpointOf known device (if known.state = .left then .deleted else .partialState)
         | none => { entity := some device, state := .partialState }] }])

def createNotifySubjectChanged (conference : ServerConference) (subject : String) : ConferenceType :=
  conference.createNotify { subject := some subject } none

def createNotifyAvailableMediaChanged (conference : ServerConference)
    (media : List (LinphoneStreamType × MediaDirection)) : ConferenceType :=
  conference.createNotify { availableMedia := some media } none

/-- The document of an event, in the version that the conference has. -/
def createNotifyOf (sip : BelleSip) (conference : ServerConference) : ConferenceEvent → ConferenceType
  | .participantAdded participant => conference.createNotifyParticipantAdded sip participant
  | .participantRemoved participant => conference.createNotifyParticipantRemoved participant
  | .participantSetAdmin participant => conference.createNotifyParticipantAdminStatusChanged participant true
  | .participantUnsetAdmin participant => conference.createNotifyParticipantAdminStatusChanged participant false
  | .participantDeviceAdded participant device => conference.createNotifyParticipantDeviceAdded sip participant device
  | .participantDeviceRemoved participant device =>
    conference.createNotifyParticipantDeviceRemoved sip participant device
  | .participantDeviceDataChanged participant device =>
    conference.createNotifyParticipantDeviceDataChanged sip participant device
  | .subjectChanged subject => conference.createNotifySubjectChanged subject
  | .availableMediaChanged media => conference.createNotifyAvailableMediaChanged media

def getConferenceNotifiedEvents (conference : ServerConference) (lastNotifyId : Nat) : List ConferenceNotifiedEvent :=
  conference.events.filter fun event => decide (lastNotifyId < event.notifyId)

/-- One stored event: the conference takes its version while the document is
written. -/
def appendNotify (sip : BelleSip) (state : List ConferenceType × ServerConference) (event : ConferenceNotifiedEvent) :
    List ConferenceType × ServerConference :=
  let conference := { state.2 with lastNotify := event.notifyId }
  (state.1 ++ [conference.createNotifyOf sip event.event], conference)

/-- The documents of the events after a version, and the conference afterwards. -/
def createNotifyMultipart (sip : BelleSip) (conference : ServerConference) (notifyId : Nat) :
    List ConferenceType × ServerConference :=
  (conference.getConferenceNotifiedEvents notifyId).foldl (appendNotify sip) ([], conference)

end ServerConference

end Liblinphone
