import Liblinphone.AddressText

/-! The identifier of a conference: the addresses of its peer and of the local device, with
their hash, their weak hash and their text, which are computed when they are first asked for. -/

namespace Liblinphone

/-- The escape of user names of the SIP stack, and the hash of texts of the standard library. -/
structure UriHashing where
  escapedUsername : Text → Text := id
  hash : Text → BitVec 64

namespace Address

/-- `Address::create()`. An address that could not be parsed, or whose URI is not a SIP one, has
no host either. -/
def create : Address := { domain := "" }

def isValid (address : Address) : Bool := !address.domain.isEmpty

end Address

structure ConferenceIdParams where
  keepGruu : Bool := false
  extractUri : Bool := true
deriving Repr, DecidableEq

/-- A hash of zero and an empty text are yet to be computed. -/
structure ConferenceId where
  peerAddress : Option Address := none
  localAddress : Option Address := none
  hash : BitVec 64 := 0
  weakHash : BitVec 64 := 0
  params : ConferenceIdParams := {}
  identifier : Text := []
deriving Repr, DecidableEq

namespace ConferenceId

def identifierDelimiter : Text := "##".toList

def securityModeParameter : String := "conference-security-mode"

def processAddress (params : ConferenceIdParams) (addr : Address) : Address :=
  if addr.isValid then
    if params.extractUri then
      if params.keepGruu then addr.getUri else addr.getUriWithoutGruu
    else if params.keepGruu then addr
    else addr.removeUriParam "gr"
  else .create

def reducedAddress (addr : Address) : Address := addr.getUriWithoutGruu.removeUriParam securityModeParameter

section Texts

variable (hashing : UriHashing)

/-- The ordered text of an address, after a change, or the one of a missing address. -/
def addressText (change : Address → Address) (lowercaseParams : Bool) (addr : Option Address) : Text :=
  (addr.map fun addr => (change addr).toStringUriOnlyOrderedCase hashing.escapedUsername lowercaseParams).getD "sip:".toList

/-- A value is computed when it is asked for and is not there. -/
def cached {β : Type} [DecidableEq β] (unset fresh held : β) : β := if held = unset then fresh else held

/-- What `getHash` computes. -/
def freshHash (id : ConferenceId) : BitVec 64 :=
  hashing.hash (addressText hashing (fun addr => addr) true id.peerAddress) ^^^
    (hashing.hash (addressText hashing (fun addr => addr) true id.localAddress) <<< 1)

/-- What `getWeakHash` computes. -/
def freshWeakHash (id : ConferenceId) : BitVec 64 :=
  hashing.hash (addressText hashing reducedAddress true id.peerAddress) ^^^
    (hashing.hash (addressText hashing reducedAddress true id.localAddress) <<< 1)

/-- What `getIdentifier` computes. -/
def freshIdentifier (id : ConferenceId) : Text :=
  addressText hashing reducedAddress false id.peerAddress ++
    (identifierDelimiter ++ addressText hashing reducedAddress false id.localAddress)

/-- The value, and the identifier that keeps it. -/
def getHash (id : ConferenceId) : BitVec 64 × ConferenceId :=
  (cached 0 (id.freshHash hashing) id.hash, { id with hash := cached 0 (id.freshHash hashing) id.hash })

def getWeakHash (id : ConferenceId) : BitVec 64 × ConferenceId :=
  (cached 0 (id.freshWeakHash hashing) id.weakHash,
    { id with weakHash := cached 0 (id.freshWeakHash hashing) id.weakHash })

def getIdentifier (id : ConferenceId) : Text × ConferenceId :=
  (cached [] (id.freshIdentifier hashing) id.identifier,
    { id with identifier := cached [] (id.freshIdentifier hashing) id.identifier })

end Texts

def member (id : ConferenceId) (useLocal : Bool) : Option Address :=
  if useLocal then id.localAddress else id.peerAddress

/-- The new address of the peer, or of the local device, is processed. -/
def store (id : ConferenceId) (useLocal : Bool) (addr : Address) : ConferenceId :=
  if useLocal then { id with localAddress := some (processAddress id.params addr) }
  else { id with peerAddress := some (processAddress id.params addr) }

/-- The new URI is compared as it is given, the current one as it was processed. -/
def canUpdateAddress (hashing : UriHashing) (id : ConferenceId) (addr : Address) (useLocal : Bool) : Bool :=
  match id.member useLocal with
  | none => true
  | some current =>
    decide (current.toStringUriOnlyOrdered hashing.escapedUsername = addr.getUri.toStringUriOnlyOrdered hashing.escapedUsername) ||
      (decide (id.hash = 0) && decide (id.weakHash = 0))

/-- Both setters. Nothing is returned when the program aborts. -/
def setAddress (hashing : UriHashing) (id : ConferenceId) (useLocal : Bool) (addr : Option Address) (forceUpdate : Bool) :
    Option ConferenceId :=
  match addr with
  | none => some id
  | some addr => if forceUpdate || id.canUpdateAddress hashing addr useLocal then some (id.store useLocal addr) else none

def setPeerAddress (hashing : UriHashing) (id : ConferenceId) (addr : Option Address) (forceUpdate : Bool) :
    Option ConferenceId := id.setAddress hashing false addr forceUpdate

def setLocalAddress (hashing : UriHashing) (id : ConferenceId) (addr : Option Address) (forceUpdate : Bool) :
    Option ConferenceId := id.setAddress hashing true addr forceUpdate

/-- What a setter that is forced leaves. -/
def force (id : ConferenceId) (useLocal : Bool) (addr : Option Address) : ConferenceId :=
  match addr with
  | none => id
  | some addr => id.store useLocal addr

/-- The assignment operator. -/
def assign (id other : ConferenceId) : ConferenceId :=
  { (({ id with params := other.params }.force false other.peerAddress).force true other.localAddress) with
    hash := other.hash
    weakHash := other.weakHash }

/-- The copy constructor has the body of the assignment. -/
def copy (other : ConferenceId) : ConferenceId := ({} : ConferenceId).assign other

/-- The constructor from two URIs. -/
def ofUris (pAddress lAddress : Address) (params : ConferenceIdParams) : ConferenceId where
  peerAddress := some (processAddress params pAddress)
  localAddress := some (processAddress params lAddress)
  params := params

/-- The constructor from two shared addresses. -/
def ofAddresses (hashing : UriHashing) (pAddress lAddress : Option Address) (params : ConferenceIdParams) :
    Option ConferenceId :=
  (({ params := params } : ConferenceId).setPeerAddress hashing pAddress false).bind fun id =>
    id.setLocalAddress hashing lAddress false

def equals (sip : BelleSip) (id other : ConferenceId) : Bool :=
  match id.peerAddress, other.peerAddress, id.localAddress, other.localAddress with
  | some peer, some otherPeer, some device, some otherDevice =>
    sip.addressEquals peer otherPeer && sip.addressEquals device otherDevice
  | _, _, _, _ => false

def weakEqual (sip : BelleSip) (id other : ConferenceId) : Bool :=
  match id.peerAddress, other.peerAddress, id.localAddress, other.localAddress with
  | some peer, some otherPeer, some device, some otherDevice =>
    sip.addressEquals (reducedAddress peer) (reducedAddress otherPeer) &&
      sip.addressEquals (reducedAddress device) (reducedAddress otherDevice)
  | _, _, _, _ => false

/-- The less-than operator. Nothing is returned when it reads an address that is not there. -/
def lessThan (sip : BelleSip) (escapedUsername : Text → Text) (id other : ConferenceId) : Option Bool :=
  match id.peerAddress, other.peerAddress with
  | some peer, some otherPeer =>
    if peer.isLess escapedUsername otherPeer then some true
    else if sip.addressEquals peer otherPeer then
      match id.localAddress, other.localAddress with
      | some device, some otherDevice => some (device.isLess escapedUsername otherDevice)
      | _, _ => none
    else some false
  | _, _ => none

end ConferenceId

/-- A call on the identifiers of a program, which are known by their positions. -/
inductive ConferenceIdCall where
  | create
  | ofUris (pAddress lAddress : Address) (params : ConferenceIdParams)
  | ofAddresses (pAddress lAddress : Option Address) (params : ConferenceIdParams)
  | copy (source : Nat)
  | assign (target source : Nat)
  | setPeerAddress (index : Nat) (addr : Option Address) (forceUpdate : Bool)
  | setLocalAddress (index : Nat) (addr : Option Address) (forceUpdate : Bool)
  | getHash (index : Nat)
  | getWeakHash (index : Nat)
  | getIdentifier (index : Nat)
deriving Repr, DecidableEq

namespace ConferenceIds

/-- One identifier is changed. -/
def update (ids : List ConferenceId) (index : Nat) (change : ConferenceId → Option ConferenceId) :
    Option (List ConferenceId) :=
  (ids[index]?.bind change).map fun changed => ids.set index changed

/-- Nothing is returned when a setter aborts, or there is no such identifier. -/
def step (hashing : UriHashing) (ids : List ConferenceId) : ConferenceIdCall → Option (List ConferenceId)
  | .create => some (ids ++ [{}])
  | .ofUris pAddress lAddress params => some (ids ++ [.ofUris pAddress lAddress params])
  | .ofAddresses pAddress lAddress params =>
    (ConferenceId.ofAddresses hashing pAddress lAddress params).map fun id => ids ++ [id]
  | .copy source => ids[source]?.map fun other => ids ++ [other.copy]
  | .assign target source => ids[source]?.bind fun other => update ids target fun id => some (id.assign other)
  | .setPeerAddress index addr forceUpdate => update ids index fun id => id.setPeerAddress hashing addr forceUpdate
  | .setLocalAddress index addr forceUpdate => update ids index fun id => id.setLocalAddress hashing addr forceUpdate
  | .getHash index => update ids index fun id => some (id.getHash hashing).2
  | .getWeakHash index => update ids index fun id => some (id.getWeakHash hashing).2
  | .getIdentifier index => update ids index fun id => some (id.getIdentifier hashing).2

end ConferenceIds

end Liblinphone
