import Mathlib.Logic.Function.Basic
import Liblinphone.Address
import Liblinphone.PayloadType
import Liblinphone.Text

/-! A list of friends with its two indexes: by the URIs of their addresses and phone
numbers, and by their reference keys. Friends are objects, so that a list and its
indexes hold their identities, and every operation returns the list with the objects
as it leaves them. -/

namespace Liblinphone

/-- How addresses are read and written, and what the default account makes of a
phone number: the empty text when there is no account. -/
structure AddressBook where
  create : String → Option Address
  asStringUriOnly : Address → String
  phoneNumberToSipUri : String → String
  flattenPhoneNumber : String → String

def Address.clean (address : Address) : Address := { address with uriParams := [], params := [] }

/-- The vCard of a friend. Its addresses are read once from its IMPP values, and kept. -/
structure Vcard where
  fullName : String := ""
  uid : String := ""
  url : Text := []
  etag : String := ""
  impp : List String := []
  phoneNumbers : List String := []
  sipAddresses : List Address := []
deriving Repr, DecidableEq

structure Friend where
  refKey : String := ""
  vcard : Option Vcard := none
  inList : Bool := false
deriving Repr, DecidableEq

namespace Vcard

variable (book : AddressBook)

/-- Only SIP URIs and URIs without a scheme are read. -/
def isSipValue (value : String) : Bool :=
  "sip:".toList.isPrefixOf value.toList || "sips:".toList.isPrefixOf value.toList || !value.toList.contains ':'

def readSipAddress (fullName value : String) : Option Address :=
  if isSipValue value then
    (book.create value).map fun address =>
      if address.displayName.isEmpty then { address with displayName := fullName } else address
  else none

def getSipAddresses (vcard : Vcard) : List Address :=
  if vcard.sipAddresses.isEmpty then vcard.impp.filterMap (readSipAddress book vcard.fullName) else vcard.sipAddresses

def cleanCache (vcard : Vcard) : Vcard := { vcard with sipAddresses := [] }

def addSipAddress (vcard : Vcard) (sipAddress : String) : Vcard :=
  { vcard with impp := vcard.impp ++ [sipAddress] }.cleanCache

/-- The cache is only cleaned when there was no value to edit. -/
def editMainSipAddress (vcard : Vcard) (sipAddress : String) : Vcard :=
  match vcard.impp with
  | _ :: rest => { vcard with impp := sipAddress :: rest }
  | [] => vcard.addSipAddress sipAddress

def removeSipAddress (vcard : Vcard) (sipAddress : String) : Vcard :=
  if vcard.impp.any (sameIgnoringCase · sipAddress) then
    { vcard with impp := vcard.impp.eraseP (sameIgnoringCase · sipAddress) }.cleanCache
  else vcard

def addPhoneNumber (vcard : Vcard) (phoneNumber : String) : Vcard :=
  { vcard with phoneNumbers := vcard.phoneNumbers ++ [phoneNumber] }

def removePhoneNumber (vcard : Vcard) (phoneNumber : String) : Vcard :=
  { vcard with phoneNumbers := vcard.phoneNumbers.erase phoneNumber }

end Vcard

namespace Friend

variable (book : AddressBook)

def getAddresses (lf : Friend) : List Address := lf.vcard.elim [] (Vcard.getSipAddresses book)

def getAddress (lf : Friend) : Option Address := (lf.getAddresses book).head?

def getPhoneNumbers (lf : Friend) : List String := lf.vcard.elim [] Vcard.phoneNumbers

/-- The reference key of a friend is the identifier of its vCard. -/
def setVcard (lf : Friend) (vcard : Vcard) : Friend :=
  if vcard.fullName.isEmpty then lf else { lf with vcard := some vcard, refKey := vcard.uid }

def createVcard (lf : Friend) (name : String) : Friend :=
  if name.isEmpty then lf
  else if lf.vcard.isSome then lf
  else lf.setVcard { fullName := name }

/-- A friend that has no vCard yet gets one with a name. -/
def withVcard (lf : Friend) (name : String) : Friend := if lf.vcard.isSome then lf else lf.createVcard name

def editVcard (lf : Friend) (change : Vcard → Vcard) : Friend := { lf with vcard := lf.vcard.map change }

end Friend

/-- Friends are known by a number. -/
abbrev FriendId := Nat

structure FriendList where
  friend : FriendId → Friend
  friends : List FriendId := []
  friendsMapByUri : List (String × FriendId) := []
  friendsMapByRefKey : List (String × FriendId) := []
  dirtyFriendsToUpdate : List FriendId := []
  displayName : String := ""
  uri : Text := []
  revision : String := ""

/-- The name that a vCard gets from the address of a friend. -/
def nameOf (address : Address) : String :=
  if address.displayName.isEmpty then address.username.getD "" else address.displayName

namespace FriendList

variable (book : AddressBook)

def changeFriend (list : FriendList) (id : FriendId) (change : Friend → Friend) : FriendList :=
  { list with friend := Function.update list.friend id (change (list.friend id)) }

def addFriendToListMapIfNotInItYet (id : FriendId) (list : FriendList) (uri : String) : FriendList :=
  if !(list.friend id).inList || uri.isEmpty then list
  else if list.friendsMapByUri.contains (uri, id) then list
  else { list with friendsMapByUri := list.friendsMapByUri ++ [(uri, id)] }

def removeFriendFromListMapIfAlreadyInIt (id : FriendId) (list : FriendList) (uri : String) : FriendList :=
  if !(list.friend id).inList || uri.isEmpty then list
  else { list with friendsMapByUri := list.friendsMapByUri.filter fun entry => entry != (uri, id) }

def findFriendByRefKey (list : FriendList) (refKey : String) : Option FriendId :=
  (list.friendsMapByRefKey.find? fun entry => entry.1 == refKey).map Prod.snd

def findFriendByUri (list : FriendList) (uri : String) : Option FriendId :=
  (list.friendsMapByUri.find? fun entry => entry.1 == uri).map Prod.snd

def findFriendsByUri (list : FriendList) (uri : String) : List FriendId :=
  (list.friendsMapByUri.filter fun entry => entry.1 == uri).map Prod.snd

/-- A key that is already in the map keeps its friend. -/
def insertRefKey (list : FriendList) (id : FriendId) : FriendList :=
  let refKey := (list.friend id).refKey
  if refKey.isEmpty || (list.findFriendByRefKey refKey).isSome then list
  else { list with friendsMapByRefKey := list.friendsMapByRefKey ++ [(refKey, id)] }

/-- The texts under which a friend is found: those of its phone numbers, then those
of its addresses. -/
def urisOf (lf : Friend) : List String :=
  lf.getPhoneNumbers.map book.phoneNumberToSipUri ++ (lf.getAddresses book).map book.asStringUriOnly

def addAddressesAndNumbersIntoMaps (list : FriendList) (id : FriendId) : FriendList :=
  (urisOf book (list.friend id)).foldl (addFriendToListMapIfNotInItYet id) (list.insertRefKey id)

def importFriend (list : FriendList) (id : FriendId) (synchronize : Bool) : FriendList :=
  if (list.friend id).inList then list
  else
    let list := list.changeFriend id fun lf => { lf with inList := true }
    let list := { list with friends := id :: list.friends }.addAddressesAndNumbersIntoMaps book id
    if synchronize then { list with dirtyFriendsToUpdate := id :: list.dirtyFriendsToUpdate } else list

/-- A friend without any vCard, address or phone number is invalid. -/
def isInvalid (lf : Friend) : Bool :=
  (lf.getAddress book).isNone && (lf.getAddresses book).isEmpty && lf.vcard.isNone && lf.getPhoneNumbers.isEmpty

def isPresent (list : FriendList) (id : FriendId) : Bool :=
  let refKey := (list.friend id).refKey
  if refKey.isEmpty then list.friends.contains id else (list.findFriendByRefKey refKey).isSome

/-- `addFriend`, and `addLocalFriend` when nothing has to be synchronized. -/
def addFriend (list : FriendList) (id : FriendId) (synchronize : Bool) : FriendList :=
  if (list.friend id).inList then list
  else if isInvalid book (list.friend id) then list
  else if list.isPresent id then list
  else list.importFriend book id synchronize

/-- `mFriendsMapByUri.erase(mFriendsMapByUri.find(uri))`: the first entry of the key. -/
def eraseUri (list : FriendList) (uri : String) : FriendList :=
  if uri.isEmpty then list
  else { list with friendsMapByUri := list.friendsMapByUri.eraseP fun entry => entry.1 == uri }

def eraseRefKey (list : FriendList) (refKey : String) : FriendList :=
  if refKey.isEmpty then list
  else { list with friendsMapByRefKey := list.friendsMapByRefKey.eraseP fun entry => entry.1 == refKey }

/-- The indexes and the friend are cleaned. The request to the server is the business
of the CardDAV context. -/
def deleteFriend (list : FriendList) (id : FriendId) : FriendList :=
  let lf := list.friend id
  ((urisOf book lf).foldl eraseUri (list.eraseRefKey lf.refKey)).changeFriend id fun lf => { lf with inList := false }

def removeFriend (list : FriendList) (id : FriendId) : FriendList :=
  if list.friends.contains id then
    let list := list.deleteFriend book id
    { list with friends := list.friends.erase id }
  else list

def removeFriends (list : FriendList) : FriendList :=
  { list.friends.foldl (deleteFriend book) list with friends := [] }

/-- The new friend takes the place of the old one, in the list alone. -/
def carddavUpdated (list : FriendList) (newFriend oldFriend : FriendId) : FriendList :=
  { list with friends := list.friends.replace oldFriend newFriend }

/-- The addresses of the friend are read, and so cached, before its vCard is edited. -/
def setAddress (list : FriendList) (id : FriendId) (address : Address) : FriendList :=
  let newAddress := address.clean
  let addresses := (list.friend id).getAddresses book
  let list := addresses.head?.elim list fun previousAddress =>
    list.removeFriendFromListMapIfAlreadyInIt id (book.asStringUriOnly previousAddress)
  let strAddress := book.asStringUriOnly newAddress
  (list.addFriendToListMapIfNotInItYet id strAddress).changeFriend id fun lf =>
    ((lf.editVcard fun vcard => { vcard with sipAddresses := addresses }).withVcard (nameOf newAddress)).editVcard
      (·.editMainSipAddress strAddress)

def addAddress (list : FriendList) (id : FriendId) (address : Address) : FriendList :=
  if ((list.friend id).getAddresses book).any (·.weakEqual address) then list
  else
    let newAddr := address.clean
    let uri := book.asStringUriOnly newAddr
    (list.addFriendToListMapIfNotInItYet id uri).changeFriend id fun lf =>
      (lf.withVcard (nameOf newAddr)).editVcard (·.addSipAddress uri)

def removeAddress (list : FriendList) (id : FriendId) (address : Address) : FriendList :=
  let uri := book.asStringUriOnly address
  (list.removeFriendFromListMapIfAlreadyInIt id uri).changeFriend id (·.editVcard (·.removeSipAddress uri))

def addPhoneNumber (list : FriendList) (id : FriendId) (phoneNumber : String) : FriendList :=
  if phoneNumber.isEmpty then list
  else if (list.friend id).getPhoneNumbers.any fun existing =>
      book.flattenPhoneNumber phoneNumber == book.flattenPhoneNumber existing then list
  else
    (list.addFriendToListMapIfNotInItYet id (book.phoneNumberToSipUri phoneNumber)).changeFriend id fun lf =>
      (lf.withVcard phoneNumber).editVcard (·.addPhoneNumber phoneNumber)

def removePhoneNumber (list : FriendList) (id : FriendId) (phoneNumber : String) : FriendList :=
  if phoneNumber.isEmpty then list
  else
    (list.removeFriendFromListMapIfAlreadyInIt id (book.phoneNumberToSipUri phoneNumber)).changeFriend id
      (·.editVcard (·.removePhoneNumber phoneNumber))

def setRefKey (list : FriendList) (id : FriendId) (key : String) : FriendList :=
  list.changeFriend id fun lf => { lf with refKey := key }

end FriendList

/-- What is done with a list and with its friends. -/
inductive FriendListOp where
  | addFriend (id : FriendId)
  | addLocalFriend (id : FriendId)
  | importFriend (id : FriendId) (synchronize : Bool)
  | removeFriend (id : FriendId)
  | removeFriends
  | carddavUpdated (newFriend oldFriend : FriendId)
  | setAddress (id : FriendId) (address : Address)
  | addAddress (id : FriendId) (address : Address)
  | removeAddress (id : FriendId) (address : Address)
  | addPhoneNumber (id : FriendId) (phoneNumber : String)
  | removePhoneNumber (id : FriendId) (phoneNumber : String)
  | setRefKey (id : FriendId) (key : String)

def FriendList.step (book : AddressBook) (list : FriendList) : FriendListOp → FriendList
  | .addFriend id => list.addFriend book id true
  | .addLocalFriend id => list.addFriend book id false
  | .importFriend id synchronize => list.importFriend book id synchronize
  | .removeFriend id => list.removeFriend book id
  | .removeFriends => list.removeFriends book
  | .carddavUpdated newFriend oldFriend => list.carddavUpdated newFriend oldFriend
  | .setAddress id address => list.setAddress book id address
  | .addAddress id address => list.addAddress book id address
  | .removeAddress id address => list.removeAddress book id address
  | .addPhoneNumber id phoneNumber => list.addPhoneNumber book id phoneNumber
  | .removePhoneNumber id phoneNumber => list.removePhoneNumber book id phoneNumber
  | .setRefKey id key => list.setRefKey id key

end Liblinphone
