import Liblinphone.Participant
import Liblinphone.Version

/-! A chat room on the server: its participants, the devices that it calls into the room or out of
it, and the messages that wait for each device. The room has been created and has no media. The
states of the SIP sessions of its devices are given. -/

namespace Liblinphone

inductive CallSessionState where
  | idle | incomingReceived | pushIncomingReceived | outgoingInit | outgoingProgress | outgoingRinging
  | outgoingEarlyMedia | connected | streamsRunning | pausing | paused | resuming | referred | error | ended
  | pausedByRemote | updatedByRemote | incomingEarlyMedia | updating | released | earlyUpdatedByRemote | earlyUpdating
deriving Repr, DecidableEq

def ParticipantDeviceState.isLeavingState : ParticipantDeviceState → Bool
  | .scheduledForJoining | .joining | .alerting | .present | .onHold | .requestingToJoin | .mutedByFocus => false
  | .scheduledForLeaving | .leaving | .left => true

/-- A device, with the version that its descriptor of capabilities has for group chats. -/
structure ChatDevice where
  address : Address
  state : ParticipantDeviceState := .joining
  groupchat : Option Utils.Version := none
deriving Repr, DecidableEq

structure ChatParticipant where
  address : Address
  isAdmin : Bool := false
  devices : List ChatDevice := []
deriving Repr, DecidableEq

/-- What the registrar knows of a device. -/
structure ParticipantDeviceIdentity where
  address : Address
  groupchat : Option Utils.Version := none
deriving Repr, DecidableEq

/-- A message of a device, with the time in nanoseconds at which it was made and queued. -/
structure ServerMessage where
  fromAddr : Address
  content : Text
  timestamp : Int
deriving Repr, DecidableEq

/-- A pointer to a device: its participant, and its address. -/
structure ChatDevicePointer where
  participant : Address
  device : Address
deriving Repr, DecidableEq

/-- What the room asks of the SIP stack and of the application. `nullDevice` is a call of a device that
the room does not have, which is a null pointer. -/
inductive ChatRoomOutput where
  | message (device : Address) (message : ServerMessage)
  | invite (device : Address)
  | terminate (device : Address)
  | accept (device : Address)
  | decline (device : Address)
  | subscribe (participant : Address)
  | unsubscribe (participant : Address)
  | nullDevice
deriving Repr, DecidableEq

inductive ServerRoomState where
  | created | terminationPending | terminated | deleted
deriving Repr, DecidableEq

/-- The strict comparisons and the texts of addresses, and whether rooms without devices are deleted. -/
structure ChatServer where
  sip : BelleSip
  toText : Address → Text
  emptyChatroomsDeletionEnabled : Bool := true

namespace ChatServer

def groupChatProtocolVersion : Utils.Version := { major := 1, minor := 2 }

end ChatServer

/-- The room. An address in `participants` stands for the invited participant that has it. -/
structure ServerChatRoom where
  isGroup : Bool
  protocolVersion : Utils.Version := ChatServer.groupChatProtocolVersion
  state : ServerRoomState := .created
  invitedParticipants : List ChatParticipant := []
  participants : List Address := []
  queuedMessages : Text → List ServerMessage := fun _ => []
  registrationSubscriptions : List Text := []
  registrationSubscriptionParticipants : List Address := []
  outputs : List ChatRoomOutput := []

namespace ServerChatRoom

variable (server : ChatServer) (sessions : Address → Option CallSessionState) (room : ServerChatRoom)

def output (event : ChatRoomOutput) : ServerChatRoom := { room with outputs := room.outputs ++ [event] }

def findInvitedParticipant (address : Address) : Option ChatParticipant :=
  room.invitedParticipants.find? fun invitee => address.weakEqual invitee.address

def getParticipants : List ChatParticipant := room.participants.filterMap room.findInvitedParticipant

def findParticipant (address : Address) : Option ChatParticipant :=
  room.getParticipants.find? fun participant => participant.address.weakEqual address

def updateParticipant (address : Address) (change : ChatParticipant → ChatParticipant) : ServerChatRoom :=
  { room with
    invitedParticipants := room.invitedParticipants.map fun invitee =>
      if address.weakEqual invitee.address then change invitee else invitee }

def pointers (participant : ChatParticipant) : List ChatDevicePointer :=
  participant.devices.map fun device => ⟨participant.address, device.address⟩

/-- The devices of the participants. -/
def devicePointers : List ChatDevicePointer := room.getParticipants.flatMap pointers

def getDevice (pointer : ChatDevicePointer) : Option ChatDevice :=
  (room.findInvitedParticipant pointer.participant).bind fun participant =>
    participant.devices.find? fun device => device.address = pointer.device

def updateDevice (pointer : ChatDevicePointer) (change : ChatDevice → ChatDevice) : ServerChatRoom :=
  room.updateParticipant pointer.participant fun participant =>
    { participant with
      devices := participant.devices.map fun device => if device.address = pointer.device then change device else device }

def findDevice (participant : ChatParticipant) (gruu : Address) : Option ChatDevice :=
  participant.devices.find? fun device => server.sip.uriEquals device.address gruu

/-- A device is only found at a participant whose address is weakly equal to its own. -/
def findParticipantDevice (address : Address) : Option ChatDevicePointer :=
  room.getParticipants.findSome? fun participant =>
    if address.weakEqual participant.address then
      (findDevice server participant address).map fun device => ⟨participant.address, device.address⟩
    else none

def setQueue (uri : Text) (queue : List ServerMessage) : ServerChatRoom :=
  { room with queuedMessages := fun other => if other = uri then queue else room.queuedMessages other }

def nanosecondsPerHour : Int := 3600 * 10 ^ 9

/-- Whether a message was made a week before. -/
def isOlderThanOneWeek (now : Int) (message : ServerMessage) : Bool :=
  decide (168 ≤ (now - message.timestamp).tdiv nanosecondsPerHour)

/-- The old messages in front are dropped first. -/
def queueMessageFor (message : ServerMessage) (deviceAddress : Address) : ServerChatRoom :=
  let uri := server.toText deviceAddress
  room.setQueue uri ((room.queuedMessages uri).dropWhile (isOlderThanOneWeek message.timestamp) ++ [message])

/-- A message is queued for all devices except the one that sent it. -/
def queueMessage (message : ServerMessage) : ServerChatRoom :=
  room.devicePointers.foldl (fun room pointer =>
    if server.sip.addressEquals message.fromAddr pointer.device then room
    else room.queueMessageFor server message pointer.device) room

def removeQueuedParticipantMessages (participant : Option ChatParticipant) : ServerChatRoom :=
  match participant with
  | none => room
  | some participant => room.setQueue (server.toText participant.address) []

def setState (pointer : ChatDevicePointer) (state : ParticipantDeviceState) : ServerChatRoom :=
  room.updateDevice pointer fun device => { device with state := state }

/-- A call that is not yet answered is not made again. The state Joining that the device gets has no
effect other than being set. -/
def inviteDevice (address : Address) : ServerChatRoom :=
  match room.findParticipantDevice server address with
  | none => room.output .nullDevice
  | some pointer =>
    let session := (sessions pointer.device).getD .idle
    let joining := (room.getDevice pointer).any fun device => device.state = .joining
    if joining && (session = .outgoingProgress || session = .connected) then room
    else if session = .incomingReceived then room
    else (room.setState pointer .joining).output (.invite pointer.device)

/-- A device that has left a room of two is called first. -/
def dispatchToDevice (pointer : ChatDevicePointer) : ServerChatRoom :=
  match room.getDevice pointer with
  | none => room
  | some device =>
    let uri := server.toText device.address
    if (room.queuedMessages uri).isEmpty then room
    else if !room.isGroup && device.state = .left then room.inviteDevice server sessions device.address
    else if device.state = .present then
      { room with outputs := room.outputs ++ (room.queuedMessages uri).map (ChatRoomOutput.message device.address) }.setQueue
        uri []
    else room

def dispatchQueuedMessages : ServerChatRoom :=
  room.devicePointers.foldl (fun room pointer => room.dispatchToDevice server sessions pointer) room

/-- Messages of devices that are not of a participant are refused. -/
def onSipMessageReceived (message : ServerMessage) : ServerChatRoom :=
  if (room.findParticipant message.fromAddr).isSome then (room.queueMessage server message).dispatchQueuedMessages server sessions
  else room

def allDevicesLeft (participant : ChatParticipant) : Bool := participant.devices.all fun device => device.state = .left

def removeInvitedParticipant (address : Address) : ServerChatRoom :=
  { room with invitedParticipants := room.invitedParticipants.eraseP fun invitee => address.weakEqual invitee.address }

def unSubscribeRegistrationForParticipant (identAddress : Address) : ServerChatRoom :=
  if room.registrationSubscriptions.contains (server.toText identAddress) then
    ({ room with
        registrationSubscriptions := room.registrationSubscriptions.erase (server.toText identAddress) }.removeInvitedParticipant
      identAddress).output (.unsubscribe identAddress)
  else room

def requestDeletion : ServerChatRoom :=
  { room.getParticipants.foldl (fun room participant => room.unSubscribeRegistrationForParticipant server participant.address) room with
    state := .deleted }

/-- The first versions of the protocol keep the participants of a room of two. -/
def keepsParticipants : Bool := !room.isGroup && decide (room.protocolVersion.compare { major := 1, minor := 1 } < 0)

/-- A participant that is no longer in the room is forgotten with its last device, and the room with
the last of all. -/
def onParticipantDeviceLeft (pointer : ChatDevicePointer) : ServerChatRoom :=
  let gone := !room.keepsParticipants && (room.findInvitedParticipant pointer.participant).any allDevicesLeft
    && (room.findParticipant pointer.participant).isNone
  let room := if gone then room.unSubscribeRegistrationForParticipant server pointer.participant else room
  if server.emptyChatroomsDeletionEnabled && room.invitedParticipants.all allDevicesLeft then room.requestDeletion server else room

def setParticipantDeviceState (pointer : ChatDevicePointer) (state : ParticipantDeviceState) : ServerChatRoom :=
  let room := room.setState pointer state
  match state with
  | .scheduledForLeaving | .leaving => room.removeQueuedParticipantMessages server (room.findParticipant pointer.device)
  | .left =>
    (room.removeQueuedParticipantMessages server (room.findParticipant pointer.device)).onParticipantDeviceLeft server pointer
  | .present => room.dispatchQueuedMessages server sessions
  | _ => room

/-- A device without a live session is called, to be told to leave when it answers. -/
def byeDevice (pointer : ChatDevicePointer) : ServerChatRoom :=
  let room := room.setParticipantDeviceState server sessions pointer .leaving
  match sessions pointer.device with
  | none | some .ended | some .error | some .released | some .outgoingInit => room.output (.invite pointer.device)
  | some .connected | some .streamsRunning => room.output (.terminate pointer.device)
  | some _ => room

def updateParticipantDeviceSession (pointer : ChatDevicePointer) (freshlyRegistered : Bool) : ServerChatRoom :=
  match (room.getDevice pointer).map ChatDevice.state with
  | some .scheduledForJoining => room.inviteDevice server sessions pointer.device
  | some .joining => if freshlyRegistered then room.inviteDevice server sessions pointer.device else room
  | some .scheduledForLeaving => room.byeDevice server sessions pointer
  | some .leaving => if freshlyRegistered then room.byeDevice server sessions pointer else room
  | _ => room

def updateParticipantsSessions : ServerChatRoom :=
  room.devicePointers.foldl (fun room pointer => room.updateParticipantDeviceSession server sessions pointer false) room

def addParticipantToList (addr : Address) : ServerChatRoom :=
  let room :=
    match room.findInvitedParticipant addr with
    | some _ => room
    | none => { room with invitedParticipants := room.invitedParticipants ++ [{ address := addr.getUriWithoutGruu }] }
  if (room.findParticipant addr).isSome then room
  else { room with participants := room.participants ++ ((room.findInvitedParticipant addr).map ChatParticipant.address).toList }

/-- A device that left, or that was leaving, is called back. -/
def callBack (pointer : ChatDevicePointer) : ServerChatRoom :=
  match (room.getDevice pointer).map ChatDevice.state with
  | some .leaving | some .left | some .scheduledForLeaving =>
    (room.setParticipantDeviceState server sessions pointer .scheduledForJoining).updateParticipantDeviceSession server sessions
      pointer false
  | _ => room

def resumeParticipant (participant : ChatParticipant) : ServerChatRoom :=
  (pointers participant).foldl (fun room pointer => room.callBack server sessions pointer)
    (room.addParticipantToList participant.address)

def subscribeRegistrationForParticipant (addr : Address) : ServerChatRoom :=
  if room.registrationSubscriptions.contains (server.toText addr.getUri) then room
  else
    { room with
      registrationSubscriptions := room.registrationSubscriptions ++ [server.toText addr.getUri]
      registrationSubscriptionParticipants := room.registrationSubscriptionParticipants ++ [addr.getUri] }.output
      (.subscribe addr.getUri)

def isGruu (address : Address) : Bool := address.uriParams.any fun param => param.1 == "gr"

def addParticipant (participantAddress : Address) : ServerChatRoom :=
  if isGruu participantAddress then room
  else if (room.findParticipant participantAddress).isSome then room
  else
    match room.findInvitedParticipant participantAddress with
    | some participant => room.resumeParticipant server sessions participant
    | none =>
      if !room.isGroup && room.invitedParticipants.length = 2 then room
      else room.subscribeRegistrationForParticipant server participantAddress

def setParticipantAdminStatus (participant : Address) (isAdmin : Bool) : ServerChatRoom :=
  room.updateParticipant participant fun participant => { participant with isAdmin := isAdmin }

def chooseAnotherAdminIfNoneInConference : ServerChatRoom :=
  if room.isGroup && !room.getParticipants.any ChatParticipant.isAdmin then
    match room.participants.head? with
    | none => room
    | some newAdmin => room.setParticipantAdminStatus newAdmin true
  else room

def callOut (pointer : ChatDevicePointer) : ServerChatRoom :=
  match (room.getDevice pointer).map ChatDevice.state with
  | some .leaving | some .left => room
  | _ =>
    (room.setParticipantDeviceState server sessions pointer .scheduledForLeaving).updateParticipantDeviceSession server sessions
      pointer false

def callOuts (participant : ChatParticipant) : ServerChatRoom :=
  (pointers participant).foldl (fun room pointer => room.callOut server sessions pointer) room

def takeOffList (address : Address) : ServerChatRoom :=
  { room with participants := room.participants.filter fun other => other ≠ address }

/-- The devices are called out of the room before the participant is taken off the list. -/
def takeOut (participant : ChatParticipant) : ServerChatRoom :=
  let room := if participant.isAdmin then room.setParticipantAdminStatus participant.address false else room
  let room := (room.callOuts server sessions participant).takeOffList participant.address
  let room := room.removeQueuedParticipantMessages server (some participant)
  if participant.devices.isEmpty then room.unSubscribeRegistrationForParticipant server participant.address else room

def removeParticipant (participant : ChatParticipant) : ServerChatRoom :=
  (room.takeOut server sessions participant).chooseAnotherAdminIfNoneInConference

def updateProtocolVersion (groupchat : Option Utils.Version) : ServerChatRoom :=
  match groupchat with
  | none => room
  | some version => if room.protocolVersion.compare version > 0 then { room with protocolVersion := version } else room

def determineProtocolVersion : ServerChatRoom :=
  (room.getParticipants.flatMap ChatParticipant.devices).foldl (fun room device => room.updateProtocolVersion device.groupchat)
    { room with protocolVersion := ChatServer.groupChatProtocolVersion }

/-- A device is added to a participant that is in the room. The first versions of the protocol leave
it out of a room of two that all others have left. -/
def addParticipantDevice (participantAddress : Address) (deviceInfo : ParticipantDeviceIdentity) : ServerChatRoom :=
  match room.findInvitedParticipant participantAddress with
  | none => room
  | some participant =>
    match findDevice server participant deviceInfo.address with
    | some device =>
      (room.updateDevice ⟨participant.address, device.address⟩ fun device =>
        { device with groupchat := deviceInfo.groupchat }).updateProtocolVersion deviceInfo.groupchat
    | none =>
      if (room.findParticipant participant.address).isSome then
        let allDevLeft := !participant.devices.isEmpty && allDevicesLeft participant
        let pointer : ChatDevicePointer := ⟨participant.address, deviceInfo.address.getUri⟩
        let room := (room.updateParticipant participant.address fun participant =>
          { participant with
            devices := participant.devices ++ [{ address := pointer.device, groupchat := deviceInfo.groupchat }] }).updateProtocolVersion
          deviceInfo.groupchat
        room.setParticipantDeviceState server sessions pointer
          (if room.keepsParticipants && allDevLeft then .left else .scheduledForJoining)
      else room

def removeParticipantDevice (pointer : ChatDevicePointer) : ServerChatRoom :=
  (room.setParticipantDeviceState server sessions pointer .left).updateParticipant pointer.participant fun participant =>
    { participant with
      devices := participant.devices.filter fun device => !server.sip.addressEquals device.address.getUri pointer.device.getUri }

/-- The devices of a participant that have to be removed, as they are no longer registered. -/
def unregistered (participant : ChatParticipant) (devices : List ParticipantDeviceIdentity) : List ChatDevicePointer :=
  (participant.devices.filter fun device =>
    !devices.any fun identity => server.sip.addressEquals device.address identity.address).map fun device =>
      ⟨participant.address, device.address⟩

def addParticipantDevices (participantAddress : Address) (devices : List ParticipantDeviceIdentity) : ServerChatRoom :=
  devices.foldl (fun room device => room.addParticipantDevice server sessions participantAddress device) room

def removeParticipantDevices (devices : List ChatDevicePointer) : ServerChatRoom :=
  devices.foldl (fun room pointer =>
    if (room.getDevice pointer).isSome then room.removeParticipantDevice server sessions pointer else room) room

def replaceParticipantDevices (participant : ChatParticipant) (devices : List ParticipantDeviceIdentity) : ServerChatRoom :=
  let room := (room.addParticipantDevices server sessions participant.address devices).removeParticipantDevices server sessions
    (unregistered server participant devices)
  if room.protocolVersion.compare ChatServer.groupChatProtocolVersion < 0 then room.determineProtocolVersion else room

def newParticipantReginfo (participantAddress : Address) : Bool :=
  room.registrationSubscriptionParticipants.any fun other => server.sip.addressEquals other participantAddress

def reginfoReceived (participantAddress : Address) : ServerChatRoom :=
  { room with
    registrationSubscriptionParticipants := room.registrationSubscriptionParticipants.eraseP fun other =>
      server.sip.addressEquals other participantAddress }

/-- A participant that was waited for is in the room from now on when it has a device. -/
def updateParticipantDevices (participantAddress : Address) (devices : List ParticipantDeviceIdentity) : ServerChatRoom :=
  if !room.registrationSubscriptions.contains (server.toText participantAddress.getUri) then room
  else
    let isNew := room.newParticipantReginfo server participantAddress
    let room := room.reginfoReceived server participantAddress
    if isNew && devices.isEmpty then
      (room.unSubscribeRegistrationForParticipant server participantAddress).removeInvitedParticipant participantAddress
    else
      let room := if isNew then room.addParticipantToList participantAddress else room
      match room.findInvitedParticipant participantAddress with
      | none => room
      | some participant => room.replaceParticipantDevices server sessions participant devices

def setParticipantDevices (participantAddress : Address) (devices : List ParticipantDeviceIdentity) : ServerChatRoom :=
  (room.updateParticipantDevices server sessions participantAddress devices).updateParticipantsSessions server sessions

def notifyParticipantDeviceRegistration (participantDevice : Address) : ServerChatRoom :=
  match room.findInvitedParticipant participantDevice with
  | none => room
  | some participant =>
    match findDevice server participant participantDevice with
    | none => room
    | some device => room.updateParticipantDeviceSession server sessions ⟨participant.address, device.address⟩ true

def moveDeviceToPresent (pointer : ChatDevicePointer) : ServerChatRoom :=
  match room.getDevice pointer with
  | none => room
  | some device => if device.state.isLeavingState then room else room.setParticipantDeviceState server sessions pointer .present

/-- The last of the other participants. -/
def getOtherParticipant (someParticipant : Address) : Option ChatParticipant :=
  (room.getParticipants.filter fun participant => participant.address ≠ someParticipant).getLast?

/-- The other one of a room of two is taken out of it for ever. -/
def removeOtherParticipant (participantLeaving : ChatDevicePointer) : ServerChatRoom :=
  if room.isGroup || room.keepsParticipants then room
  else
    { (room.getOtherParticipant participantLeaving.participant).elim room (room.removeParticipant server sessions) with
      state := .terminationPending }

def removeLeavingParticipant (participantLeaving : ChatDevicePointer) : ServerChatRoom :=
  if room.keepsParticipants then room
  else
    let room := room.setParticipantDeviceState server sessions participantLeaving .leaving
    (room.findInvitedParticipant participantLeaving.participant).elim room (room.removeParticipant server sessions)

/-- A participant that hangs up leaves the room. -/
def onBye (participantLeaving : ChatDevicePointer) : ServerChatRoom :=
  ((room.removeOtherParticipant server sessions participantLeaving).removeLeavingParticipant server sessions
    participantLeaving).setParticipantDeviceState server sessions participantLeaving .left

/-- Devices whose version is not known, or is an old one, get their messages after the full state. -/
def dispatchMessagesAfterFullState (device : ChatDevice) : Bool :=
  match device.groupchat with
  | none => true
  | some version => decide (version.compare { major := 1, minor := 2 } < 0)

/-- An answered call, or the acknowledgement of one, makes a device present when it is recent. -/
def moveRecentDeviceToPresent (pointer : ChatDevicePointer) : ServerChatRoom :=
  if (room.getDevice pointer).any fun device => !dispatchMessagesAfterFullState device then
    room.moveDeviceToPresent server sessions pointer
  else room

def sessionConnected (pointer : ChatDevicePointer) (isOutgoing : Bool) : ServerChatRoom :=
  match (room.getDevice pointer).map ChatDevice.state with
  | none => room
  | some .leaving => room.byeDevice server sessions pointer
  | some _ => if isOutgoing then room.moveRecentDeviceToPresent server sessions pointer else room

/-- The device that created the room is called again when it did not answer in time. -/
def sessionFailed (pointer : ChatDevicePointer) (protocolCode : Int) (isInitiator : Bool) : ServerChatRoom :=
  match (room.getDevice pointer).map ChatDevice.state with
  | some .joining | some .present =>
    let room := room.setParticipantDeviceState server sessions pointer .scheduledForJoining
    if protocolCode = 408 && isInitiator then room.inviteDevice server sessions pointer.device else room
  | _ => room

def sessionEnded (pointer : ChatDevicePointer) (protocolCode : Option Int) (isInitiator networkReachable : Bool) :
    ServerChatRoom :=
  if 299 < protocolCode.getD 0 then room.sessionFailed server sessions pointer (protocolCode.getD 0) isInitiator
  else if networkReachable && (room.getDevice pointer).any fun device => device.state = .present then
    room.onBye server sessions pointer
  else room

/-- How the session of a device that was told to leave is released. -/
inductive ByeReason where
  | none | noMatch | other
deriving Repr, DecidableEq

def sessionReleased (pointer : ChatDevicePointer) (afterEnd : Bool) (reason : ByeReason) : ServerChatRoom :=
  if afterEnd && (room.getDevice pointer).any fun device => device.state = .leaving then
    match reason with
    | .none => room.setParticipantDeviceState server sessions pointer .left
    | .noMatch => room.byeDevice server sessions pointer
    | .other => room
  else room

def onFirstNotifyReceived (addr : Address) : ServerChatRoom :=
  match room.devicePointers.find? fun pointer => server.sip.addressEquals pointer.device addr &&
      (room.getDevice pointer).any dispatchMessagesAfterFullState with
  | none => room
  | some pointer => room.moveDeviceToPresent server sessions pointer

/-- A subscription of a device that could not be called before. -/
def subscribeReceived (fromAddress contact : Address) : ServerChatRoom :=
  match room.findParticipant fromAddress with
  | none => room
  | some participant =>
    match findDevice server participant contact with
    | none => room
    | some device => if device.state = .scheduledForJoining then room.inviteDevice server sessions device.address else room

def hasGruu (address : Address) : Bool := address.uriParams.any fun param => param.1 == "gr" && !param.2.isEmpty

def joiningDevice (participant : ChatParticipant) (contact : Address) : ChatDevicePointer :=
  ⟨participant.address, ((findDevice server participant contact).map ChatDevice.address).getD contact.getUri⟩

def addJoiningDevice (participant : ChatParticipant) (contact : Address) : ServerChatRoom :=
  if (findDevice server participant contact).isSome then room
  else
    room.updateParticipant participant.address fun participant =>
      { participant with devices := participant.devices ++ [{ address := contact.getUri }] }

/-- Both participants of a room of two are admins, and a device of theirs may come back. -/
def resumeJoiningDevice (pointer : ChatDevicePointer) : ServerChatRoom :=
  if room.isGroup then room
  else
    (if (room.getDevice pointer).any fun device => device.state = .left then
      room.setParticipantDeviceState server sessions pointer .joining else room).setParticipantAdminStatus pointer.participant true

/-- An INVITE of a device. One that leaves, and that the room is calling, is not let in. -/
def confirmJoining (fromAddress contact : Address) (hasResourceLists isCalled : Bool) : ServerChatRoom :=
  match room.findInvitedParticipant fromAddress with
  | none => room.output (.decline contact)
  | some participant =>
    if !hasGruu contact || room.isGroup && hasResourceLists then room.output (.decline contact)
    else
      let pointer := joiningDevice server participant contact
      let room := (room.addJoiningDevice server participant contact).resumeJoiningDevice server sessions pointer
      if isCalled && (room.getDevice pointer).any fun device => device.state.isLeavingState then room.output (.decline pointer.device)
      else room.output (.accept pointer.device)

end ServerChatRoom

/-- What happens to a room. -/
inductive ChatRoomCall where
  | message (message : ServerMessage)
  | addParticipant (address : Address)
  | removeParticipant (address : Address)
  | setParticipantAdminStatus (address : Address) (isAdmin : Bool)
  | setParticipantDevices (address : Address) (devices : List ParticipantDeviceIdentity)
  | notifyParticipantDeviceRegistration (device : Address)
  | confirmJoining (fromAddress contact : Address) (hasResourceLists isCalled : Bool)
  | sessionConnected (pointer : ChatDevicePointer) (isOutgoing : Bool)
  | sessionEnded (pointer : ChatDevicePointer) (protocolCode : Option Int) (isInitiator networkReachable : Bool)
  | sessionReleased (pointer : ChatDevicePointer) (afterEnd : Bool) (reason : ServerChatRoom.ByeReason)
  | onAckReceived (pointer : ChatDevicePointer)
  | onFirstNotifyReceived (device : Address)
  | subscribeReceived (fromAddress contact : Address)
deriving Repr, DecidableEq

/-- A call, and the states in which the sessions of the devices are then. -/
structure ChatRoomInput where
  sessions : Address → Option CallSessionState := fun _ => none
  call : ChatRoomCall

namespace ServerChatRoom

variable (server : ChatServer) (sessions : Address → Option CallSessionState) (room : ServerChatRoom)

def perform : ChatRoomCall → ServerChatRoom
  | .message message => room.onSipMessageReceived server sessions message
  | .addParticipant address => room.addParticipant server sessions address
  | .removeParticipant address => (room.findParticipant address).elim room (room.removeParticipant server sessions)
  | .setParticipantAdminStatus address isAdmin =>
    (room.findParticipant address).elim room fun participant => room.setParticipantAdminStatus participant.address isAdmin
  | .setParticipantDevices address devices => room.setParticipantDevices server sessions address devices
  | .notifyParticipantDeviceRegistration device => room.notifyParticipantDeviceRegistration server sessions device
  | .confirmJoining fromAddress contact hasResourceLists isCalled =>
    room.confirmJoining server sessions fromAddress contact hasResourceLists isCalled
  | .sessionConnected pointer isOutgoing => room.sessionConnected server sessions pointer isOutgoing
  | .sessionEnded pointer protocolCode isInitiator networkReachable =>
    room.sessionEnded server sessions pointer protocolCode isInitiator networkReachable
  | .sessionReleased pointer afterEnd reason => room.sessionReleased server sessions pointer afterEnd reason
  | .onAckReceived pointer => room.moveRecentDeviceToPresent server sessions pointer
  | .onFirstNotifyReceived device => room.onFirstNotifyReceived server sessions device
  | .subscribeReceived fromAddress contact => room.subscribeReceived server sessions fromAddress contact

/-- Nothing reaches a room that is deleted. -/
def step (input : ChatRoomInput) : ServerChatRoom :=
  if room.state = .deleted then room else room.perform server input.sessions input.call

end ServerChatRoom

end Liblinphone
