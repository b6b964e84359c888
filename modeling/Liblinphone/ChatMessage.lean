import Mathlib.Data.List.Basic
import Mathlib.Data.String.Basic

/-! Chat messages and their states. A message of a group has one state of its own
and, in the database, one for each participant. Moving one of them moves others,
and every move obeys the same table of transitions. -/

namespace Liblinphone

/-- The transitions that are allowed. -/
structure FsmIntegrityChecker (σ : Type) where
  transitions : List (σ × List σ)

def FsmIntegrityChecker.isValid {σ : Type} [DecidableEq σ] (checker : FsmIntegrityChecker σ) (origin destination : σ) :
    Bool :=
  match checker.transitions.lookup origin with
  | none => false
  | some destinations => destinations.contains destination

inductive ChatMessageDirection where
  | incoming | outgoing
deriving Repr, DecidableEq

inductive ChatMessageState where
  | idle | inProgress | delivered | notDelivered | fileTransferError | fileTransferDone | deliveredToUser | displayed
  | fileTransferInProgress | pendingDelivery | fileTransferCancelling
deriving Repr, DecidableEq

namespace ChatMessageState

/-- The number that the database stores. -/
def toInt : ChatMessageState → Nat
  | idle => 0
  | inProgress => 1
  | delivered => 2
  | notDelivered => 3
  | fileTransferError => 4
  | fileTransferDone => 5
  | deliveredToUser => 6
  | displayed => 7
  | fileTransferInProgress => 8
  | pendingDelivery => 9
  | fileTransferCancelling => 10

def isImdnControlledState (state : ChatMessageState) : Bool :=
  state == displayed || state == deliveredToUser || state == notDelivered

end ChatMessageState

open ChatMessageState in
def chatMessageFsmChecker : FsmIntegrityChecker ChatMessageState where
  transitions :=
    [(idle, [pendingDelivery, inProgress, delivered, notDelivered, deliveredToUser, displayed, fileTransferInProgress,
        fileTransferError, fileTransferDone]),
      (inProgress, [delivered, notDelivered, deliveredToUser, displayed, fileTransferInProgress, fileTransferError,
        fileTransferDone]),
      (delivered, [inProgress, notDelivered, deliveredToUser, displayed, fileTransferInProgress, fileTransferError,
        fileTransferDone]),
      (pendingDelivery, [idle, inProgress, delivered, deliveredToUser, displayed, fileTransferInProgress,
        fileTransferError, fileTransferDone]),
      (notDelivered, [idle, inProgress, delivered, deliveredToUser, displayed, fileTransferInProgress,
        fileTransferError, fileTransferDone]),
      (deliveredToUser, [inProgress, displayed, fileTransferInProgress, fileTransferError, fileTransferDone]),
      (displayed, [inProgress, fileTransferInProgress, fileTransferError, fileTransferDone]),
      (fileTransferCancelling, [notDelivered, fileTransferError]),
      (fileTransferInProgress, [pendingDelivery, inProgress, notDelivered, delivered, deliveredToUser, displayed,
        fileTransferError, fileTransferCancelling, fileTransferDone]),
      (fileTransferError, [inProgress, notDelivered, delivered, deliveredToUser, displayed, fileTransferInProgress,
        fileTransferDone]),
      (fileTransferDone, [inProgress, notDelivered, delivered, pendingDelivery, deliveredToUser, displayed,
        fileTransferInProgress, fileTransferError])]

/-- What a message reads of its chat room. Addresses are taken without their gruu,
so that equal addresses are weakly equal. -/
structure ChatRoom where
  me : String
  participants : List String
  isBasicChatRoom : Bool := false
  hasConferenceCapability : Bool := true
  enableSimpleGroupChatMessageState : Bool := false
deriving Repr, DecidableEq

def ChatRoom.isMe (room : ChatRoom) (address : String) : Bool := address == room.me

/-- The states of the participants, as the rows of the database. -/
abbrev ParticipantStates := List (String × ChatMessageState)

/-- A participant that displayed the message, or to whom it was delivered, does
not go back. -/
def setChatMessageParticipantState (states : ParticipantStates) (participantAddress : String)
    (state : ChatMessageState) : ParticipantStates :=
  match states.lookup participantAddress with
  | none => states ++ [(participantAddress, state)]
  | some dbState =>
    if state.toInt < dbState.toInt && (dbState == .displayed || dbState == .deliveredToUser) then states
    else states.map fun entry => (entry.1, if entry.1 == participantAddress then state else entry.2)

/-- A message: it is valid when it has a storage id, and the event log is the
event that the database finds for that id. -/
structure ChatMessage where
  direction : ChatMessageDirection
  fromAddress : String
  state : ChatMessageState := .idle
  isValid : Bool := true
  eventLog : Bool := true
  dbState : ChatMessageState := .idle
  participantStates : ParticipantStates := []
  hasFileTransferContent : Bool := false
  isMarkedAsRead : Bool := false
deriving Repr, DecidableEq

/-- How many recipients there are, and how many participants in which state. -/
structure ImdnStateCounts where
  nbRecipients : Nat := 0
  nbDisplayedStates : Nat := 0
  nbDeliveredStates : Nat := 0
  nbDeliveredToUserStates : Nat := 0
  nbNotDeliveredStates : Nat := 0
deriving Repr, DecidableEq

/-- Of the sender only a failure counts. -/
def ImdnStateCounts.add (fromAddress : String) (counts : ImdnStateCounts) (imdnState : String × ChatMessageState) :
    ImdnStateCounts :=
  if fromAddress == imdnState.1 then
    if imdnState.2 == .notDelivered then { counts with nbNotDeliveredStates := counts.nbNotDeliveredStates + 1 } else counts
  else
    let counts := { counts with nbRecipients := counts.nbRecipients + 1 }
    match imdnState.2 with
    | .displayed => { counts with nbDisplayedStates := counts.nbDisplayedStates + 1 }
    | .deliveredToUser => { counts with nbDeliveredToUserStates := counts.nbDeliveredToUserStates + 1 }
    | .delivered => { counts with nbDeliveredStates := counts.nbDeliveredStates + 1 }
    | .notDelivered => { counts with nbNotDeliveredStates := counts.nbNotDeliveredStates + 1 }
    | _ => counts

/-- The state that the counts ask for. -/
def ImdnStateCounts.newState (counts : ImdnStateCounts) : Option ChatMessageState :=
  if counts.nbNotDeliveredStates > 0 then some .notDelivered
  else if counts.nbRecipients > 0 && counts.nbDisplayedStates == counts.nbRecipients then some .displayed
  else if counts.nbRecipients > 0 &&
      counts.nbDisplayedStates + counts.nbDeliveredToUserStates == counts.nbRecipients then some .deliveredToUser
  else if counts.nbRecipients > 0 &&
      counts.nbDeliveredStates + counts.nbDisplayedStates + counts.nbDeliveredToUserStates == counts.nbRecipients then
    some .delivered
  else none

namespace ChatMessage

variable (room : ChatRoom) (message : ChatMessage)

/-- Those who left the chat room are left out. -/
def getParticipantsState : ParticipantStates :=
  if room.isBasicChatRoom || !message.isValid then []
  else message.participantStates.filter fun entry => room.isMe entry.1 || room.participants.contains entry.1

def getParticipantState (address : String) : ChatMessageState :=
  if room.isBasicChatRoom then message.state
  else if message.eventLog then (message.participantStates.lookup address).getD .idle
  else .idle

/-- A failure is that of all participants only if the sender has it; a delivery is
not when the message leaves a state that notifications control. -/
def stateRequiresUpdatingParticipants : Bool :=
  if message.state == .notDelivered then
    (message.participantStates.lookup room.me).getD .idle == .notDelivered
  else !message.dbState.isImdnControlledState && message.state == .delivered

/-- Transfer states are not stored. -/
def updateConferenceChatMessageEvent : ChatMessage :=
  { message with
    dbState :=
      if message.state == .inProgress || message.state == .fileTransferDone || message.state == .fileTransferInProgress ||
          message.state == .fileTransferError then message.dbState
      else message.state
    participantStates :=
      if message.direction == .outgoing && message.stateRequiresUpdatingParticipants room &&
          room.hasConferenceCapability && message.isValid then
        message.participantStates.foldl
          (fun states entry => setChatMessageParticipantState states entry.1 message.state) message.participantStates
      else message.participantStates }

def updateInDb : ChatMessage :=
  if !message.isValid then message
  else if !message.eventLog then message
  else message.updateConferenceChatMessageEvent room

def writeParticipantState (participantAddress : String) (newState : ChatMessageState) : ChatMessage :=
  if message.eventLog then
    { message with
      participantStates := setChatMessageParticipantState message.participantStates participantAddress newState }
  else message

def imdnStateCounts : ImdnStateCounts :=
  (message.getParticipantsState room).foldl (ImdnStateCounts.add message.fromAddress) {}

section Calls

variable (setParticipantState : ChatMessage → String → ChatMessageState → ChatMessage)

/-- An outgoing message that is delivered is delivered to the participants. The state
of the message and that of a participant call each other: what they call for a
participant is an argument here. -/
def deliverToParticipants : ChatMessage :=
  if message.direction == .outgoing && message.state == .delivered then
    (message.getParticipantsState room).foldl
      (fun message imdnState =>
        if room.isMe imdnState.1 then message else setParticipantState message imdnState.1 message.state)
      message
  else message

def setState (newState : ChatMessageState) : ChatMessage :=
  if !chatMessageFsmChecker.isValid message.state newState then message
  else
    let oldState := message.state
    let message := deliverToParticipants room { message with state := newState } setParticipantState
    if message.state == .fileTransferDone && message.direction == .incoming && !message.hasFileTransferContent &&
        message.isMarkedAsRead then
      setParticipantState message room.me .displayed
    else if message.state == .delivered && oldState == .idle && message.direction == .incoming && !message.isValid then
      message
    else if message.state != .inProgress && message.state != .fileTransferError &&
        message.state != .fileTransferInProgress && message.state != .fileTransferCancelling then
      message.updateInDb room
    else message

/-- The message takes the state that the counts ask for. -/
def followImdnStates : ChatMessage :=
  match (message.imdnStateCounts room).newState with
  | some state => message.setState room setParticipantState state
  | none => message

def moveParticipant (participantAddress : String) (newState : ChatMessageState) : ChatMessage :=
  if !chatMessageFsmChecker.isValid (message.getParticipantState room participantAddress) newState then message
  else if !message.isValid && (message.eventLog || newState == .notDelivered) then
    if newState == .notDelivered then message.setState room setParticipantState newState else message
  else if room.isBasicChatRoom then message.setState room setParticipantState newState
  else if room.enableSimpleGroupChatMessageState then message.setState room setParticipantState newState
  else
    let isMe := room.isMe participantAddress
    let message := message.writeParticipantState participantAddress newState
    let message :=
      if isMe && !newState.isImdnControlledState then message.setState room setParticipantState newState else message
    let message :=
      if newState.isImdnControlledState then message.followImdnStates room setParticipantState else message
    if isMe && message.fromAddress == participantAddress && newState == .deliveredToUser then
      setParticipantState message participantAddress .displayed
    else message

end Calls

/-- At most `depth` calls inside one another. -/
def setParticipantStateAt : Nat → ChatMessage → String → ChatMessageState → ChatMessage
  | 0, message, _, _ => message
  | depth + 1, message, participantAddress, newState =>
    message.moveParticipant room (setParticipantStateAt depth) participantAddress newState

/-- Three calls inside one another are all that there can be. -/
def setParticipantState : String → ChatMessageState → ChatMessage := setParticipantStateAt room 3 message

end ChatMessage
end Liblinphone
