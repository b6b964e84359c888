import Liblinphone.Address
import Liblinphone.ChatMessage
import Liblinphone.Library.Keyed

/-! The invitations to a scheduled conference. Each is a chat message of its own,
and the scheduler listens to the state of the messages until all of them were
delivered or failed. -/

namespace Liblinphone

/-- A message with the states it went through, the last one first. -/
structure InvitationMessage where
  recipientAddress : Address
  isOneToOne : Bool := true
  history : List ChatMessageState := []
  listening : Bool := true
deriving Repr, DecidableEq

def InvitationMessage.state (message : InvitationMessage) : ChatMessageState := message.history.head?.getD .idle

inductive InvitationProgress where
  | waiting
  | unreachable
  | sent (message : InvitationMessage)
deriving Repr, DecidableEq

structure Invitation where
  participant : Address
  progress : InvitationProgress := .waiting
deriving Repr, DecidableEq

namespace Invitation

def isWaiting (invitation : Invitation) : Bool := invitation.progress == .waiting

def message? (invitation : Invitation) : Option InvitationMessage :=
  match invitation.progress with
  | .sent message => some message
  | _ => none

end Invitation

/-- What the chat room of a message knows when the message is not delivered. -/
structure RoomReport where
  created : Bool := true
  delivered : List Address := []
  notDelivered : List Address := []
deriving Repr, DecidableEq

/-- The invitations of the last call, the messages of earlier ones, and the error
lists that were raised since the last call. -/
structure InvitationSending where
  invitations : List Invitation := []
  earlier : List InvitationMessage := []
  invitationsSent : Nat := 0
  invitationsInError : List Address := []
  raised : List (List Address) := []
deriving Repr, DecidableEq

inductive InvitationEvent where
  | sendInvitations (invitationsToSend : List Address)
  | sendNext (hasChatRoom : Bool)
  | stateChanged (index : Nat) (state : ChatMessageState) (report : RoomReport)
  | earlierStateChanged (index : Nat) (state : ChatMessageState) (report : RoomReport)
deriving Repr, DecidableEq

namespace InvitationSending

/-- The invitations are complete when the counters say so. -/
def notifyInvitationsSent (sending : InvitationSending) : InvitationSending :=
  if sending.invitationsSent + sending.invitationsInError.length = sending.invitations.length then
    { sending with raised := sending.raised ++ [sending.invitationsInError] }
  else sending

/-- The participants that a message that was not delivered counts as failed. -/
def failedParticipants (sending : InvitationSending) (message : InvitationMessage) (report : RoomReport) :
    List Address :=
  if message.isOneToOne then [message.recipientAddress]
  else if report.created then report.notDelivered
  else sending.invitations.map (·.participant)

/-- The scheduler with the new state of a message, and the message without its
listener once it was delivered. -/
def onChatMessageStateChanged (sending : InvitationSending) (message : InvitationMessage) (report : RoomReport)
    (state : ChatMessageState) : InvitationSending × InvitationMessage :=
  match state with
  | .notDelivered =>
    let delivered := if !message.isOneToOne && report.created then report.delivered.length else 0
    ({ sending with
        invitationsSent := sending.invitationsSent + delivered
        invitationsInError :=
          sending.invitationsInError ++ sending.failedParticipants message report }.notifyInvitationsSent, message)
  | .delivered | .deliveredToUser | .displayed =>
    ({ sending with invitationsSent := sending.invitationsSent + 1 }.notifyInvitationsSent,
      { message with listening := false })
  | _ => (sending, message)

/-- A message moves to a state that its own allows, and its listener is told. -/
def setState (sending : InvitationSending) (message : InvitationMessage) (report : RoomReport)
    (state : ChatMessageState) : InvitationSending × InvitationMessage :=
  if chatMessageFsmChecker.isValid message.state state then
    let moved := { message with history := state :: message.history }
    if message.listening then sending.onChatMessageStateChanged moved report state else (sending, moved)
  else (sending, message)

/-- One round of the sending loop. A chat room that cannot be created is an error. -/
def sendNext (sending : InvitationSending) (hasChatRoom : Bool) : InvitationSending :=
  match sending.invitations.find? Invitation.isWaiting with
  | none => sending
  | some invitation =>
    if hasChatRoom then
      { sending with
        invitations := Library.updateFirst Invitation.isWaiting
          (fun next => { next with progress := .sent { recipientAddress := next.participant } }) sending.invitations }
    else
      { sending with
        invitations := Library.updateFirst Invitation.isWaiting
          (fun next => { next with progress := .unreachable }) sending.invitations
        invitationsInError := sending.invitationsInError ++ [invitation.participant] }

def step (sending : InvitationSending) : InvitationEvent → InvitationSending
  | .sendInvitations invitationsToSend =>
    if sending.invitations.any Invitation.isWaiting then sending
    else
      { invitations := invitationsToSend.map fun participant => { participant := participant }
        earlier := sending.earlier ++ sending.invitations.filterMap Invitation.message? }
  | .sendNext hasChatRoom => sending.sendNext hasChatRoom
  | .stateChanged index state report =>
    match (sending.invitations[index]?).bind Invitation.message? with
    | none => sending
    | some message =>
      let result := sending.setState message report state
      { result.1 with
        invitations := result.1.invitations.modify index fun invitation =>
          { invitation with progress := .sent result.2 } }
  | .earlierStateChanged index state report =>
    match sending.earlier[index]? with
    | none => sending
    | some message =>
      let result := sending.setState message report state
      { result.1 with earlier := result.1.earlier.set index result.2 }

end InvitationSending

end Liblinphone
