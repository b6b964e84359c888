import Liblinphone.FriendList
import Liblinphone.Utils

/-! The presence of the friends of a list. A server sends it for several resources at once:
a document names them, and the presence of each is in a part of its own. -/

namespace Liblinphone

/-- An address object. It is there even when the text cannot be read, and has no URI then. -/
abbrev AddressObject := Option Address

/-- What the core makes of a URI or a phone number, and what is read of a presence. The
presence model is that of the friends. -/
structure PresenceCore (M : Type) where
  interpretUrl : String → Option Address
  parsePresence : String → String → String → Option M
  getContact : M → String

structure RlmiInstance where
  state : String
  cid : String := ""
deriving Repr, DecidableEq

/-- A resource. What is not in the document is empty, but a name can be there and empty. -/
structure RlmiResource where
  uri : String := ""
  name : Option String := none
  instances : List RlmiInstance := []
deriving Repr, DecidableEq

structure RlmiList where
  version : Text := []
  fullState : String := ""
  resources : List RlmiResource := []
deriving Repr, DecidableEq

structure PresencePart where
  contentId : Option String := none
  type : String
  subtype : String
  body : String
deriving Repr, DecidableEq

/-- A friend object that is not there is used. -/
inductive NullFriend where
  | dereferenced
deriving Repr, DecidableEq

/-- How a notification ends: the friends that the listeners are told of, or the text of the
exception that is caught. -/
inductive NotificationEnd where
  | received (friends : List FriendId)
  | rejected (what : String)
deriving Repr, DecidableEq

variable {M : Type}

/-- A list of friends with what they know of presence. The friends from a number on do not
exist yet. -/
structure PresenceFriendList (M : Type) where
  list : FriendList
  created : FriendId
  presenceModels : FriendId → List (Address × M) := fun _ => []
  presenceReceived : FriendId → Bool := fun _ => false
  sipUriToPhoneNumber : FriendId → String → String := fun _ _ => ""
  bodylessSubscription : Bool := false
  expectedNotificationVersion : Int := 0

namespace PresenceFriendList

variable (book : AddressBook) (core : PresenceCore M)

/-- `FriendList::findFriendByAddress`. -/
def cleanUri (address : AddressObject) : String :=
  address.elim "" fun address => book.asStringUriOnly (address.removeUriParam "gr")

def findFriendByAddress (friends : PresenceFriendList M) (address : AddressObject) : Option FriendId :=
  friends.list.findFriendByUri (cleanUri book address)

/-- `Friend::create`, which gives the friend the address of a text that can be read. -/
def createFriend (friends : PresenceFriendList M) (uri : String) : PresenceFriendList M :=
  let list := friends.list.changeFriend friends.created fun _ => {}
  { friends with
    list := (book.create uri).elim list (list.setAddress book friends.created)
    created := friends.created + 1 }

/-- A new friend, that is added to the list. -/
def addNewFriend (friends : PresenceFriendList M) (uri : String) : PresenceFriendList M × FriendId :=
  let added := friends.createFriend book uri
  ({ added with list := added.list.addFriend book friends.created true }, friends.created)

/-- `Friend::setName`. -/
def setName (friends : PresenceFriendList M) (lf : FriendId) (name : String) : PresenceFriendList M :=
  { friends with
    list := friends.list.changeFriend lf fun friend =>
      if friend.vcard.isSome then friend.editVcard fun vcard => { vcard with fullName := name }
      else friend.createVcard name }

def clearPresenceModels (friends : PresenceFriendList M) : PresenceFriendList M :=
  { friends with
    presenceModels := fun lf => if friends.list.friends.contains lf then [] else friends.presenceModels lf }

def addPresenceModelForUriOrTel (friends : PresenceFriendList M) (lf : FriendId) (uriOrTel : String) (model : M) :
    PresenceFriendList M :=
  match core.interpretUrl uriOrTel with
  | none => friends
  | some uriOrTelAddr =>
    let models := friends.presenceModels lf
    let hits (entry : Address × M) := entry.1.weakEqual uriOrTelAddr
    { friends with
      presenceModels := Function.update friends.presenceModels lf
        (if models.any hits then Library.updateFirst hits (fun entry => (entry.1, model)) models
        else models ++ [(uriOrTelAddr, model)]) }

/-- `Friend::presenceReceived`. The presence of a phone number tells the SIP URI of the friend. -/
def receivePresence (friends : PresenceFriendList M) (lf : FriendId) (uri : String) (model : M) :
    PresenceFriendList M :=
  let received := { friends with presenceReceived := Function.update friends.presenceReceived lf true }
  let phoneNumber := friends.sipUriToPhoneNumber lf uri
  if phoneNumber.isEmpty then received.addPresenceModelForUriOrTel core lf uri model
  else
    match core.interpretUrl (core.getContact model) with
    | none => received
    | some sipAddress =>
      let sipUri := book.asStringUriOnly sipAddress.clean
      let indexed :=
        if (received.list.findFriendsByUri sipUri).contains lf then received
        else
          { received with
            list := { received.list with friendsMapByUri := received.list.friendsMapByUri ++ [(sipUri, lf)] } }
      indexed.addPresenceModelForUriOrTel core lf phoneNumber model

/-- The friend of a resource, which is made when the list subscribes without a body. -/
def friendOfResource (friends : PresenceFriendList M) (uri : String) : PresenceFriendList M × Option FriendId :=
  match friends.findFriendByAddress book (book.create uri) with
  | some lf => (friends, some lf)
  | none =>
    if friends.bodylessSubscription then
      let (added, lf) := friends.addNewFriend book uri
      (added, some lf)
    else (friends, none)

/-- A resource that has a name, in the first loop. -/
def nameResource (friends : PresenceFriendList M) (resource : RlmiResource) :
    Except NullFriend (PresenceFriendList M) :=
  match resource.name with
  | none => .ok friends
  | some name =>
    if resource.uri.isEmpty then .ok friends
    else
      let (friends, lf) := friends.friendOfResource book resource.uri
      if name.isEmpty then .ok friends
      else
        match lf with
        | none => .error .dereferenced
        | some lf => .ok (friends.setName lf name)

/-- The identifier of the part of a resource, and the presence that is read there. -/
def presenceOfResource (parts : List PresencePart) (resource : RlmiResource) : Option M :=
  let cid := ((resource.instances.map RlmiInstance.cid).find? fun cid => !cid.isEmpty).getD ""
  if cid.isEmpty then none
  else
    (parts.find? fun part => part.contentId == some cid).bind fun part =>
      core.parsePresence part.type part.subtype part.body

/-- The friends afterwards, and those of them that received presence. -/
def receiveResource (parts : List PresencePart) (soFar : PresenceFriendList M × List FriendId)
    (resource : RlmiResource) : PresenceFriendList M × List FriendId :=
  let (friends, received) := soFar
  if resource.instances.any fun entry => entry.state == "active" then
    match presenceOfResource core parts resource with
    | none => soFar
    | some model =>
      if resource.uri.isEmpty then soFar
      else
        let uri := cleanUri book (book.create resource.uri)
        match friends.list.findFriendsByUri uri with
        | [] =>
          if friends.bodylessSubscription then
            let (added, lf) := friends.addNewFriend book uri
            (added.receivePresence book core lf uri model, received.insert lf)
          else soFar
        | known =>
          (known.foldl (fun friends lf => friends.receivePresence book core lf uri model) friends,
            known.foldl (fun received lf => received.insert lf) received)
  else soFar

def isFullState (document : RlmiList) : Bool := document.fullState == "true" || document.fullState == "1"

/-- The two loops over the resources. -/
def processResources (friends : PresenceFriendList M) (document : RlmiList) (parts : List PresencePart) :
    Except NullFriend (PresenceFriendList M × NotificationEnd) := do
  let named ← document.resources.foldlM (nameResource book) friends
  let (final, received) := document.resources.foldl (receiveResource book core parts) (named, [])
  pure (final, .received received)

def parseMultipartRelatedBody (friends : PresenceFriendList M) (document : RlmiList) (parts : List PresencePart) :
    Except NullFriend (PresenceFriendList M × NotificationEnd) :=
  if document.version.isEmpty then .ok (friends, .rejected "rlmi+xml: No version attribute in list")
  else if document.fullState.isEmpty then .ok (friends, .rejected "rlmi+xml: No fullState attribute in list")
  else
    let version := Utils.stoi document.version
    let cleared := if isFullState document then friends.clearPresenceModels else friends
    if cleared.expectedNotificationVersion = 0 ∧ !isFullState document then
      .ok (cleared, .rejected "rlmi+xml: Notification with version 0 is not full state, this is not valid")
    else
      { cleared with expectedNotificationVersion := Utils.toInt (version + 1) }.processResources book core document parts

end PresenceFriendList

end Liblinphone
