import Liblinphone.Participant

/-! The conference document that a server sends in a NOTIFY, with what the two
event handlers write into it and read from it. -/

namespace Liblinphone

/-- The state of a document, of a user or of an endpoint in it. -/
inductive StateType where
  | full | partialState | deleted
deriving Repr, DecidableEq

inductive EndpointStatusType where
  | dialingIn | dialingOut | alerting | pending | connected | onHold | disconnecting | disconnected | mutedViaFocus
deriving Repr, DecidableEq

/-- A medium of an endpoint, with the content of its stream data. -/
structure MediaType where
  type : LinphoneStreamType
  content : String := ""
  status : MediaDirection
deriving Repr, DecidableEq

def MediaType.isThumbnailStream (media : MediaType) : Bool := media.type == .video && media.content == "thumbnail"

structure EndpointType where
  entity : Option Address := none
  state : StateType := .full
  media : List MediaType := []
  joiningMethod : Option JoiningMethod := none
  joiningInfoWhen : Option Int := none
  status : Option EndpointStatusType := none
  callInfo : Option SipDialogId := none
  displayText : Option String := none
deriving Repr, DecidableEq

structure UserType where
  entity : Address
  state : StateType := .full
  roles : Option (List String) := none
  endpoint : List EndpointType := []
deriving Repr, DecidableEq

structure ConferenceDescriptionType where
  subject : Option String := none
  availableMedia : Option (List (LinphoneStreamType × MediaDirection)) := none
deriving Repr, DecidableEq

structure ConferenceType where
  entity : Option Address
  state : StateType := .full
  version : Option Nat := none
  conferenceDescription : Option ConferenceDescriptionType := none
  users : Option (List UserType) := none
deriving Repr, DecidableEq

def ConferenceType.isFullState (confInfo : ConferenceType) : Bool := confInfo.state == .full

end Liblinphone
