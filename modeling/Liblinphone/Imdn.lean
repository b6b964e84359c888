import Mathlib.Data.String.Basic
import Liblinphone.ChatMessage
import Liblinphone.Library.Grouping
import Liblinphone.Library.Run

/-! Instant message disposition notifications. A chat room gathers what it has to
notify about the messages it received, and sends it in messages of its own, at
once or aggregated until a timer expires. -/

namespace Liblinphone

inductive LinphoneReason where
  | none | noResponse | forbidden | declined | notFound | notAnswered | busy | unsupportedContent | badEvent | ioError
  | doNotDisturb | unauthorized | notAcceptable | noMatch | movedPermanently | gone | temporarilyUnavailable
  | addressIncomplete | notImplemented | badGateway | sessionIntervalTooSmall | serverTimeout | unknown | transferred
  | conditionalRequestFailed | sasCheckRequired
deriving Repr, DecidableEq

/-- What a notification reads of the message that it is about. Messages are
compared by their identity. -/
structure NotifiedMessage where
  identity : Nat
  imdnMessageId : String
  time : Int := 0
  direction : ChatMessageDirection := .incoming
  fromAddress : Option String := none
  participantsState : Nat := 0
deriving Repr, DecidableEq

structure MessageReason where
  message : NotifiedMessage
  reason : LinphoneReason
deriving Repr, DecidableEq

inductive ImdnType where
  | delivery | display
deriving Repr, DecidableEq

/-- The data of one XML body. -/
structure ImdnContent where
  id : String
  time : Int
  imdnType : ImdnType
  reason : LinphoneReason
deriving Repr, DecidableEq

/-- A message that carries notifications, to the chat room with an address. -/
structure ImdnMessage where
  peerAddress : String
  deliveredMessages : List NotifiedMessage := []
  displayedMessages : List NotifiedMessage := []
  nonDeliveredMessages : List MessageReason := []
deriving Repr, DecidableEq

/-- There is no notification for a message without a Message-ID. -/
def imdnContent (message : NotifiedMessage) (imdnType : ImdnType) (reason : LinphoneReason) : List ImdnContent :=
  if message.imdnMessageId.isEmpty then []
  else [{ id := message.imdnMessageId, time := message.time, imdnType, reason }]

def ImdnMessage.contents (imdn : ImdnMessage) : List ImdnContent :=
  imdn.deliveredMessages.flatMap (imdnContent · .delivery .none) ++
    imdn.displayedMessages.flatMap (imdnContent · .display .none) ++
    imdn.nonDeliveredMessages.flatMap (fun messageReason => imdnContent messageReason.message .delivery messageReason.reason)

/-- The chat room of a handler, its account and its core. An address that is not
valid is no address. -/
structure ImdnChatRoom where
  peerAddress : Option String
  isGroup : Bool := false
  imdnToEverybodyThreshold : Nat := 0
  canHandleCpim : Bool := true
  canHandleMultipart : Bool := true
  aggregationAllowed : Bool := true
  sendImdnIfUnregistered : Bool := false
  proxyConfigRegistered : Option Bool := some true
  networkReachable : Bool := true
deriving Repr, DecidableEq

structure MessagePair where
  deliveredMessages : List NotifiedMessage := []
  displayedMessages : List NotifiedMessage := []
deriving Repr, DecidableEq

namespace ImdnChatRoom

variable (room : ImdnChatRoom)

/-- In a large group the notification goes to the sender alone. -/
def getImdnChatRoomPeerAddress (message : NotifiedMessage) : Option String :=
  if !room.isGroup || message.participantsState ≤ room.imdnToEverybodyThreshold then room.peerAddress
  else if message.direction == .incoming then message.fromAddress
  else none

def groupDelivered (groups : List (String × MessagePair)) (message : NotifiedMessage) : List (String × MessagePair) :=
  Library.groupAt (room.getImdnChatRoomPeerAddress message) {}
    (fun pair => { pair with deliveredMessages := pair.deliveredMessages ++ [message] }) groups

def groupDisplayed (groups : List (String × MessagePair)) (message : NotifiedMessage) : List (String × MessagePair) :=
  Library.groupAt (room.getImdnChatRoomPeerAddress message) {}
    (fun pair => { pair with displayedMessages := pair.displayedMessages ++ [message] }) groups

def groupNonDelivered (groups : List (String × List MessageReason)) (messageReason : MessageReason) :
    List (String × List MessageReason) :=
  Library.groupAt (room.getImdnChatRoomPeerAddress messageReason.message) [] (· ++ [messageReason]) groups

def createImdnMessages (deliveredMessages displayedMessages : List NotifiedMessage) (aggregate : Bool) :
    List ImdnMessage :=
  if aggregate then
    let messagesByImdnChatRoom := displayedMessages.foldl room.groupDisplayed (deliveredMessages.foldl room.groupDelivered [])
    messagesByImdnChatRoom.map fun (peerAddress, pair) =>
      { peerAddress, deliveredMessages := pair.deliveredMessages, displayedMessages := pair.displayedMessages }
  else
    (deliveredMessages.filterMap fun message => (room.getImdnChatRoomPeerAddress message).map fun peerAddress =>
      { peerAddress, deliveredMessages := [message] }) ++
    (displayedMessages.filterMap fun message => (room.getImdnChatRoomPeerAddress message).map fun peerAddress =>
      { peerAddress, displayedMessages := [message] })

def createNonDeliveredImdnMessages (nonDeliveredMessages : List MessageReason) (aggregate : Bool) : List ImdnMessage :=
  if aggregate then
    (nonDeliveredMessages.foldl room.groupNonDelivered []).map fun (peerAddress, messageReasons) =>
      { peerAddress, nonDeliveredMessages := messageReasons }
  else
    nonDeliveredMessages.filterMap fun messageReason =>
      (room.getImdnChatRoomPeerAddress messageReason.message).map fun peerAddress =>
        { peerAddress, nonDeliveredMessages := [messageReason] }

def aggregationEnabled : Bool := room.canHandleCpim && room.canHandleMultipart && room.aggregationAllowed

/-- The account is registered and the network is reachable, or the core does not
ask for it. -/
def readyToSend : Bool :=
  room.sendImdnIfUnregistered || (room.proxyConfigRegistered == some true && room.networkReachable)

end ImdnChatRoom

/-- One thing to notify. -/
inductive ImdnNotification where
  | delivered (message : NotifiedMessage)
  | displayed (message : NotifiedMessage)
  | nonDelivered (messageReason : MessageReason)
deriving Repr, DecidableEq

/-- What a handler does: it records a notification, drops a delivery that a
display supersedes, hands a message to be sent, or warns that it has no content. -/
inductive ImdnEvent where
  | recorded (notification : ImdnNotification)
  | superseded (message : NotifiedMessage)
  | sendChatMessage (imdn : ImdnMessage)
  | notSending (imdn : ImdnMessage)
deriving Repr, DecidableEq

structure Imdn where
  deliveredMessages : List NotifiedMessage := []
  displayedMessages : List NotifiedMessage := []
  nonDeliveredMessages : List MessageReason := []
  sentImdnMessages : List ImdnMessage := []
  timer : Bool := false
deriving Repr, DecidableEq

inductive ImdnInput where
  | notifyDelivery (message : NotifiedMessage)
  | notifyDeliveryError (message : NotifiedMessage) (reason : LinphoneReason)
  | notifyDisplay (message : NotifiedMessage)
  | timerExpired
  | send
deriving Repr, DecidableEq

namespace Imdn

variable (room : ImdnChatRoom) (imdn : Imdn)

/-- The messages to send. Those of the error notifications take the place of the
others. -/
def imdnMessages : List ImdnMessage :=
  let imdnMessages :=
    if !imdn.deliveredMessages.isEmpty || !imdn.displayedMessages.isEmpty then
      room.createImdnMessages imdn.deliveredMessages imdn.displayedMessages room.aggregationEnabled
    else []
  if !imdn.nonDeliveredMessages.isEmpty then
    room.createNonDeliveredImdnMessages imdn.nonDeliveredMessages room.aggregationEnabled
  else imdnMessages

def send : Imdn × List ImdnEvent :=
  if imdn.deliveredMessages.isEmpty && imdn.displayedMessages.isEmpty && imdn.nonDeliveredMessages.isEmpty then (imdn, [])
  else if !room.readyToSend then (imdn, [])
  else
    let imdnMessages := imdn.imdnMessages room
    ({ imdn with
        deliveredMessages := []
        displayedMessages := []
        nonDeliveredMessages := []
        sentImdnMessages := imdn.sentImdnMessages ++ imdnMessages.filter fun message => !message.contents.isEmpty },
      imdnMessages.map fun message =>
        if message.contents.isEmpty then .notSending message else .sendChatMessage message)

/-- Without aggregation there is no timer. -/
def startTimer : Imdn × List ImdnEvent :=
  if !room.aggregationEnabled then imdn.send room else ({ imdn with timer := true }, [])

def notifyDelivery (message : NotifiedMessage) : Imdn × List ImdnEvent :=
  if imdn.deliveredMessages.contains message then (imdn, [])
  else
    let started := startTimer room { imdn with deliveredMessages := imdn.deliveredMessages ++ [message] }
    (started.1, .recorded (.delivered message) :: started.2)

def notifyDeliveryError (message : NotifiedMessage) (reason : LinphoneReason) : Imdn × List ImdnEvent :=
  if imdn.nonDeliveredMessages.any (fun messageReason => message == messageReason.message) then (imdn, [])
  else
    let started := startTimer room
      { imdn with nonDeliveredMessages := imdn.nonDeliveredMessages ++ [⟨message, reason⟩] }
    (started.1, .recorded (.nonDelivered ⟨message, reason⟩) :: started.2)

def notifyDisplay (message : NotifiedMessage) : Imdn × List ImdnEvent :=
  let superseded := if imdn.deliveredMessages.contains message then [ImdnEvent.superseded message] else []
  let imdn := { imdn with deliveredMessages := imdn.deliveredMessages.erase message }
  if imdn.displayedMessages.contains message then (imdn, superseded)
  else
    let started := startTimer room { imdn with displayedMessages := imdn.displayedMessages ++ [message] }
    (started.1, superseded ++ .recorded (.displayed message) :: started.2)

def timerExpired : Imdn × List ImdnEvent :=
  if imdn.timer then send room { imdn with timer := false } else (imdn, [])

def step : ImdnInput → Imdn × List ImdnEvent
  | .notifyDelivery message => imdn.notifyDelivery room message
  | .notifyDeliveryError message reason => imdn.notifyDeliveryError room message reason
  | .notifyDisplay message => imdn.notifyDisplay room message
  | .timerExpired => imdn.timerExpired room
  | .send => imdn.send room

end Imdn
end Liblinphone
