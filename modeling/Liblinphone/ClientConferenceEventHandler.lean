import Liblinphone.ConferenceDocument
import Liblinphone.Utils

/-! The client of a conference. It keeps a copy of the participants that the
server announces, applies the documents it receives to that copy, and asks for
the full state when a document does not fit the copy. -/

namespace Liblinphone

structure ConferenceParams where
  audioEnabled : Bool := false
  videoEnabled : Bool := false
  chatEnabled : Bool := true
deriving Repr, DecidableEq

/-- A local time of a document. The numbers of its zone both have the sign of the zone. -/
structure DateTime where
  year : Int
  month : Int
  day : Int
  hours : Int
  minutes : Int
  seconds : Rat
  zone : Option (Int × Int) := none
deriving DecidableEq

/-- The session with the focus. The camera is known when it is a media session. -/
structure MainSession where
  remoteAddress : Option Address := none
  cameraEnabled : Option Bool := none
deriving Repr, DecidableEq

structure ClientConference where
  conferenceAddress : Option Address
  me : Participant
  participants : List Participant := []
  subject : String := ""
  lastNotify : Nat := 0
  params : ConferenceParams := {}
  mainSession : Option MainSession := none
deriving Repr, DecidableEq

namespace ClientConference

def supportsMedia (conference : ClientConference) : Bool :=
  conference.params.audioEnabled || conference.params.videoEnabled

def isMe (sip : BelleSip) (conference : ClientConference) (address : Address) : Bool :=
  sip.addressEquals conference.me.address.getUriWithoutGruu address.getUriWithoutGruu

/-- The document is about this conference. -/
def isEntity (sip : BelleSip) (conference : ClientConference) (entity : Option Address) : Bool :=
  match entity, conference.conferenceAddress with
  | some entity, some address => sip.addressEquals entity.getUriWithoutGruu address.getUriWithoutGruu
  | _, _ => false

def clearParticipants (conference : ClientConference) : ClientConference :=
  { conference with me := { conference.me with devices := [] }, participants := [] }

/-- Write back the participant that was found for an address. -/
def storeParticipant (conference : ClientConference) (isMe : Bool) (address : Address) (participant : Participant) :
    ClientConference :=
  if isMe then { conference with me := participant }
  else
    { conference with
      participants := Library.updateFirst (fun other => other.address.weakEqual address) (fun _ => participant)
        conference.participants }

end ClientConference

def enableMedium (params : ConferenceParams) (medium : LinphoneStreamType × MediaDirection) : ConferenceParams :=
  match medium.1 with
  | .audio => { params with audioEnabled := medium.2 == .sendRecv }
  | .video => { params with videoEnabled := medium.2 == .sendRecv }
  | .text => { params with chatEnabled := medium.2 == .sendRecv || params.chatEnabled }
  | .unknown => params

/-- What the handler tells the listeners of the conference, and when it asks the
server for the full state. -/
inductive ConferenceNotification where
  | participantAdded (address : Address)
  | participantRemoved (address : Address)
  | participantSetAdmin (address : Address) (isAdmin : Bool)
  | participantSetRole (address : Address) (role : ParticipantRole)
  | participantDeviceAdded (address device : Address)
  | participantDeviceRemoved (address device : Address)
  | participantDeviceJoiningRequest (address device : Address)
  | subjectChanged (subject : String)
  | fullState
  | firstNotifyReceived
  | fullStateRequested
deriving Repr, DecidableEq

/-- The handler. A subscription can be sent when the state of the conference and
that of the account allow it. -/
structure ClientConferenceEventHandler where
  conference : ClientConference
  waitingFullState : Bool := false
  fullStateRequested : Bool := false
  initialSubscriptionUnderWay : Bool := false
  ev : Bool := true
  subscriptionWanted : Bool := true
  managedByListEventhandler : Bool := false
  canSubscribe : Bool := true
  sendSucceeds : Bool := true
  raised : List ConferenceNotification := []
deriving Repr, DecidableEq

namespace ClientConferenceEventHandler

def dateTimeToTimeT (xsdTime : DateTime) : Int :=
  let (zoneHours, zoneMinutes) := xsdTime.zone.getD (0, 0)
  Utils.getTmAsTimeT
    { year := xsdTime.year - 1900
      mon := xsdTime.month - 1
      mday := xsdTime.day
      hour := xsdTime.hours + zoneHours
      min := xsdTime.minutes + zoneMinutes
      sec := xsdTime.seconds.num.tdiv xsdTime.seconds.den }

def notify (handler : ClientConferenceEventHandler) (notifications : List ConferenceNotification) :
    ClientConferenceEventHandler :=
  { handler with raised := handler.raised ++ notifications }

def unsubscribe (handler : ClientConferenceEventHandler) : ClientConferenceEventHandler :=
  { handler with ev := false, subscriptionWanted := false, managedByListEventhandler := false }

def needToSubscribe (handler : ClientConferenceEventHandler) : Bool :=
  !handler.ev && handler.subscriptionWanted && !handler.managedByListEventhandler && handler.canSubscribe &&
    handler.conference.conferenceAddress.isSome

def subscribe (handler : ClientConferenceEventHandler) : ClientConferenceEventHandler :=
  if { handler with subscriptionWanted := true }.needToSubscribe then
    if handler.sendSucceeds then
      { handler with
        subscriptionWanted := true
        ev := true
        initialSubscriptionUnderWay := true
        waitingFullState := handler.conference.lastNotify == 0 }
    else { handler with subscriptionWanted := false, ev := true, initialSubscriptionUnderWay := true }
  else { handler with subscriptionWanted := false }

def resetLastNotify (handler : ClientConferenceEventHandler) : ClientConferenceEventHandler :=
  { handler with conference := { handler.conference with lastNotify := 0 } }

def requestFullState (handler : ClientConferenceEventHandler) : ClientConferenceEventHandler :=
  { handler.unsubscribe.resetLastNotify.subscribe.notify [.fullStateRequested] with fullStateRequested := true }

section Frame

variable (handler : ClientConferenceEventHandler)

@[simp] theorem notify_conference (notifications : List ConferenceNotification) :
    (handler.notify notifications).conference = handler.conference := rfl

@[simp] theorem notify_raised (notifications : List ConferenceNotification) :
    (handler.notify notifications).raised = handler.raised ++ notifications := rfl

theorem subscribe_conference : handler.subscribe.conference = handler.conference := by
  unfold subscribe
  split
  · split <;> rfl
  · rfl

theorem subscribe_raised : handler.subscribe.raised = handler.raised := by
  unfold subscribe
  split
  · split <;> rfl
  · rfl

@[simp] theorem requestFullState_conference :
    handler.requestFullState.conference = { handler.conference with lastNotify := 0 } := by
  simp [requestFullState, subscribe_conference, resetLastNotify, unsubscribe]

@[simp] theorem requestFullState_raised :
    handler.requestFullState.raised = handler.raised ++ [.fullStateRequested] := by
  simp [requestFullState, subscribe_raised, resetLastNotify, unsubscribe]

end Frame

end ClientConferenceEventHandler

/-- The role that the entries give. A user that is added is a speaker by default. -/
def roleOf (entry : List String) (state : StateType) : ParticipantRole :=
  if entry.contains "listener" then .listener
  else if entry.contains "speaker" || state == .full then .speaker
  else .unknown

/-- The participant with the attributes, and the notifications of the changes. -/
def fillParticipantAttributes (roles : Option (List String)) (state : StateType) (isFullState notify : Bool)
    (participant : Participant) : Participant × List ConferenceNotification :=
  match roles with
  | none => (participant, [])
  | some entry =>
    let isAdmin := entry.contains "admin"
    let role := roleOf entry state
    let changesAdmin := participant.isAdmin != isAdmin
    let changesRole := participant.role != role && (isFullState || role != .unknown)
    ({ participant with
        isAdmin := if changesAdmin then isAdmin else participant.isAdmin
        role := if changesRole then role else participant.role },
      (if changesAdmin && !isFullState && notify then
        [ConferenceNotification.participantSetAdmin participant.address isAdmin] else []) ++
      (if changesRole && !isFullState && notify then
        [ConferenceNotification.participantSetRole participant.address role] else []))

def setMediaCapability (streams : StreamCapabilities) (media : MediaType) : StreamCapabilities :=
  if media.isThumbnailStream then { streams with thumbnail := media.status }
  else streams.setStreamCapability media.status media.type

/-- A server that says nothing of thumbnails is a legacy one: the camera of the
main session decides for the own device, the video stream for any other. -/
def legacyThumbnailEnabled (sip : BelleSip) (conference : ClientConference) (isMe : Bool) (address : Address)
    (streams : StreamCapabilities) : Bool :=
  let remoteAddress := conference.mainSession.bind (·.remoteAddress)
  if isMe && remoteAddress.any (fun remote => sip.uriEquals remote address) then
    (conference.mainSession.bind (·.cameraEnabled)).getD false
  else streams.video == .sendOnly || streams.video == .sendRecv

def streamsNotified (sip : BelleSip) (conference : ClientConference) (isMe : Bool) (endpoint : EndpointType)
    (device : ParticipantDevice) : StreamCapabilities :=
  let streams := endpoint.media.foldl setMediaCapability device.streams
  if endpoint.media.any (·.isThumbnailStream) then streams
  else
    { streams with
      thumbnail := if legacyThumbnailEnabled sip conference isMe device.address streams then .sendOnly else .inactive }

/-- A device on hold that never joined is asking to join. -/
def deviceStateOf (timeOfJoining : Int) : EndpointStatusType → ParticipantDeviceState
  | .dialingIn | .dialingOut => .joining
  | .alerting => .alerting
  | .pending => .scheduledForJoining
  | .connected => .present
  | .onHold => if timeOfJoining = -1 then .requestingToJoin else .onHold
  | .disconnecting => .leaving
  | .disconnected => .left
  | .mutedViaFocus => .mutedByFocus

/-- The device with what the endpoint says of it. -/
def deviceNotified (sip : BelleSip) (now : Int) (conference : ClientConference) (isMe : Bool) (endpoint : EndpointType)
    (device : ParticipantDevice) : ParticipantDevice :=
  let timeOfJoining := endpoint.joiningInfoWhen.getD device.timeOfJoining
  let joined : ParticipantDevice :=
    { device with
      streams := streamsNotified sip conference isMe endpoint device
      joiningMethod := endpoint.joiningMethod.getD device.joiningMethod
      timeOfJoining := timeOfJoining }
  let moved := match endpoint.status with
    | none => joined
    | some status => joined.setState now (deviceStateOf timeOfJoining status)
  { moved with
    dialog := endpoint.callInfo.getD moved.dialog
    name := if endpoint.displayText.getD "" != "" then endpoint.displayText.getD "" else moved.name }

/-- Where the device of an endpoint is. One that is not added is first looked for
by the call id of its dialog, and then it takes the address of the endpoint. -/
def locateDevice (sip : BelleSip) (endpoint : EndpointType) (gruu : Address) (participant : Participant) :
    Participant × Option Nat :=
  if endpoint.state = .full then
    ((participant.addDevice sip gruu "").1, some (participant.addDevice sip gruu "").2)
  else
    match endpoint.callInfo.bind fun dialog => participant.findDeviceIndexByCallId dialog.callId with
    | some index => (participant.updateDevice index fun device => device.setAddress gruu, some index)
    | none => (participant, participant.findDeviceIndex sip gruu)

/-- The participant with the endpoint applied to it, and the device it is about.
There is no result when the device is not known. -/
def applyEndpoint (sip : BelleSip) (now : Int) (conference : ClientConference) (isMe : Bool) (endpoint : EndpointType)
    (gruu : Address) (participant : Participant) : Option (Participant × Option ParticipantDevice) :=
  let located := locateDevice sip endpoint gruu participant
  if endpoint.state = .deleted then
    match located.2 with
    | some index =>
      let moved := located.1.updateDevice index fun device => device.setState now .left
      some (moved.removeDevice sip gruu, moved.devices[index]?)
    | none => some (located.1.removeDevice sip gruu, none)
  else
    match located.2 with
    | some index =>
      let moved := located.1.updateDevice index (deviceNotified sip now conference isMe endpoint)
      some (moved, moved.devices[index]?)
    | none => none

/-- In a full state a device is announced when its participant, or the device
itself, was not known before. -/
def announcesDevice (sip : BelleSip) (old : List Participant) (isFullState isMe : Bool) (user gruu : Address) : Bool :=
  !isFullState ||
    match old.find? fun participant => sip.addressEquals user participant.address with
    | none => !old.isEmpty && !isMe
    | some participant => participant.devices.all (fun device => !sip.addressEquals gruu device.address) && !isMe

def endpointNotifications (sip : BelleSip) (old : List Participant) (isFullState isMe : Bool) (user : Address)
    (endpoint : EndpointType) (gruu : Address) (participant : Participant) (device : Option ParticipantDevice) :
    List ConferenceNotification :=
  match endpoint.state, device with
  | .deleted, some device =>
    if isFullState then [] else [.participantDeviceRemoved participant.address device.address]
  | .full, some device =>
    if announcesDevice sip old isFullState isMe user gruu then
      if device.state == .requestingToJoin then
        [.participantDeviceJoiningRequest participant.address device.address]
      else [.participantDeviceAdded participant.address device.address]
    else []
  | _, _ => []

namespace ClientConferenceEventHandler

/-- One endpoint of a user, applied to the participant while the handler follows. -/
def endpointNotified (sip : BelleSip) (now : Int) (old : List Participant) (isFullState isMe : Bool) (user : Address)
    (state : Participant × ClientConferenceEventHandler) (endpoint : EndpointType) :
    Participant × ClientConferenceEventHandler :=
  match endpoint.entity with
  | none => state
  | some gruu =>
    match applyEndpoint sip now state.2.conference isMe endpoint gruu state.1 with
    | some (participant, device) =>
      (participant, state.2.notify
        (endpointNotifications sip old isFullState isMe user endpoint gruu participant device))
    | none => (state.1, state.2.requestFullState)

/-- The attributes and the endpoints of a user whose participant is known. -/
def participantNotified (sip : BelleSip) (now : Int) (old : List Participant) (isFullState isMe : Bool) (user : UserType)
    (participant : Participant) (handler : ClientConferenceEventHandler) : ClientConferenceEventHandler :=
  let filled := fillParticipantAttributes user.roles user.state isFullState true participant
  let final := user.endpoint.foldl (endpointNotified sip now old isFullState isMe user.entity)
    (filled.1, handler.notify filled.2)
  { final.2 with conference := final.2.conference.storeParticipant isMe user.entity final.1 }

def addParticipant (handler : ClientConferenceEventHandler) (participant : Participant) :
    ClientConferenceEventHandler :=
  { handler with
    conference := { handler.conference with participants := handler.conference.participants ++ [participant] } }

def removeParticipant (handler : ClientConferenceEventHandler) (address : Address) : ClientConferenceEventHandler :=
  { handler with
    conference := { handler.conference with
      participants := handler.conference.participants.eraseP fun other => other.address.weakEqual address } }

/-- In a full state a participant is announced when others were known before, and
it was not among them. -/
def announcesParticipant (sip : BelleSip) (old : List Participant) (isFullState : Bool) (user : Address) : Bool :=
  !isFullState || !old.isEmpty && !old.any fun participant => sip.addressEquals user participant.address

def userNotified (sip : BelleSip) (now : Int) (old : List Participant) (isFullState : Bool)
    (handler : ClientConferenceEventHandler) (user : UserType) : ClientConferenceEventHandler :=
  if handler.conference.isMe sip user.entity then
    match user.state with
    | .deleted => handler
    | .full =>
      participantNotified sip now old isFullState true user
        (fillParticipantAttributes user.roles user.state isFullState false handler.conference.me).1 handler
    | .partialState => participantNotified sip now old isFullState true user handler.conference.me handler
  else
    match findParticipant handler.conference.participants user.entity with
    | some participant =>
      match user.state with
      | .deleted =>
        (handler.removeParticipant user.entity).notify
          (if isFullState then [] else [.participantRemoved participant.address])
      | _ => participantNotified sip now old isFullState false user participant handler
    | none =>
      match user.state with
      | .full =>
        let participant := (fillParticipantAttributes user.roles user.state isFullState false
          (.create handler.conference.supportsMedia user.entity)).1
        participantNotified sip now old isFullState false user participant
          ((handler.addParticipant participant).notify
            (if announcesParticipant sip old isFullState user.entity then [.participantAdded participant.address]
              else []))
      | _ => handler.requestFullState

/-- The document is older than what was already applied. -/
def isStale (handler : ClientConferenceEventHandler) (confInfo : ConferenceType) : Bool :=
  !confInfo.isFullState && confInfo.version.any fun version => decide (version ≤ handler.conference.lastNotify)

def setLastNotify (handler : ClientConferenceEventHandler) (version : Option Nat) : ClientConferenceEventHandler :=
  { handler with
    conference := { handler.conference with lastNotify := version.getD handler.conference.lastNotify } }

/-- An empty subject is not taken over. -/
def subjectNotified (isFullState : Bool) (handler : ClientConferenceEventHandler) (subject : Option String) :
    ClientConferenceEventHandler :=
  match subject with
  | none => handler
  | some subject =>
    if subject != "" && handler.conference.subject != subject then
      { handler with conference := { handler.conference with subject := subject } }.notify
        (if isFullState then [] else [.subjectChanged subject])
    else handler

def availableMediaNotified (handler : ClientConferenceEventHandler)
    (availableMedia : Option (List (LinphoneStreamType × MediaDirection))) : ClientConferenceEventHandler :=
  match availableMedia with
  | none => handler
  | some media =>
    if handler.conference.supportsMedia then
      { handler with
        conference := { handler.conference with params := media.foldl enableMedium handler.conference.params } }
    else handler

def descriptionNotified (isFullState : Bool) (handler : ClientConferenceEventHandler)
    (description : Option ConferenceDescriptionType) : ClientConferenceEventHandler :=
  match description with
  | none => handler
  | some description =>
    (handler.subjectNotified isFullState description.subject).availableMediaNotified description.availableMedia

/-- The devices and participants of before that the full state does not hold. -/
def removalNotifications (sip : BelleSip) (current : List Participant) (participant : Participant) :
    List ConferenceNotification :=
  match current.find? fun other => sip.addressEquals participant.address other.address with
  | some other =>
    (participant.devices.filter fun device =>
      !other.devices.any fun kept => sip.addressEquals device.address kept.address).map
        fun device => .participantDeviceRemoved participant.address device.address
  | none =>
    (participant.devices.map fun device => .participantDeviceRemoved participant.address device.address) ++
      [.participantRemoved participant.address]

def fullStateNotified (sip : BelleSip) (old : List Participant) (oldMeDevices : List ParticipantDevice)
    (synchronizing : Bool) (handler : ClientConferenceEventHandler) : ClientConferenceEventHandler :=
  handler.notify
    (old.flatMap (removalNotifications sip handler.conference.participants) ++
      ((oldMeDevices.filter fun device =>
        !handler.conference.me.devices.any fun kept => sip.addressEquals device.address kept.address).map
          fun device => .participantDeviceRemoved handler.conference.me.address device.address) ++
      .fullState :: if synchronizing then [] else [.firstNotifyReceived])

/-- The users of a document that was accepted. In a full state they replace the
participants. -/
def usersNotified (sip : BelleSip) (now : Int) (isFullState synchronizing : Bool)
    (handler : ClientConferenceEventHandler) (users : Option (List UserType)) : ClientConferenceEventHandler :=
  let old := handler.conference.participants
  let oldMeDevices := handler.conference.me.devices
  let start := if isFullState then { handler with conference := handler.conference.clearParticipants } else handler
  match users with
  | none => start
  | some users =>
    let final := users.foldl (userNotified sip now old isFullState) start
    if isFullState then fullStateNotified sip old oldMeDevices synchronizing final else final

/-- A document of this conference. -/
def documentAccepted (sip : BelleSip) (now : Int) (handler : ClientConferenceEventHandler) (confInfo : ConferenceType) :
    ClientConferenceEventHandler :=
  let synchronizing := handler.fullStateRequested || confInfo.isFullState && handler.conference.lastNotify != 0
  let started := if confInfo.isFullState then
      { handler with initialSubscriptionUnderWay := false, fullStateRequested := false } else handler
  if handler.isStale confInfo then started.requestFullState
  else
    ((started.setLastNotify confInfo.version).descriptionNotified confInfo.isFullState
      confInfo.conferenceDescription).usersNotified sip now confInfo.isFullState synchronizing confInfo.users

def conferenceInfoNotifyReceived (sip : BelleSip) (now : Int) (handler : ClientConferenceEventHandler)
    (confInfo : ConferenceType) : ClientConferenceEventHandler :=
  if handler.waitingFullState && !confInfo.isFullState then handler
  else if handler.conference.isEntity sip confInfo.entity then
    { handler with waitingFullState := false }.documentAccepted sip now confInfo
  else { handler with waitingFullState := false }

end ClientConferenceEventHandler

end Liblinphone
