import Liblinphone.Presence
import Liblinphone.Utils

/-! Capabilities of a presence and their versions. A version is kept as a text, and it is read as a
number each time that one asks for it. -/

namespace Liblinphone

inductive LinphoneFriendCapability where
  | none
  | groupChat
  | limeX3dh
  | ephemeralMessages
deriving Repr, DecidableEq

namespace Friend

def friendCapabilityNameMap : List (String × LinphoneFriendCapability) :=
  [("groupchat", .groupChat), ("lime", .limeX3dh), ("ephemeral", .ephemeralMessages)]

def capabilityToName (capability : LinphoneFriendCapability) : String :=
  ((friendCapabilityNameMap.find? fun elem => elem.2 == capability).map Prod.fst).getD "none"

end Friend

/-- A number begins a text, after blanks and a sign. -/
def holdsNumber (text : Text) : Bool :=
  let text := text.dropWhile isSpace
  match if text.head? = some '-' ∨ text.head? = some '+' then text.tail else text with
  | '.' :: digit :: _ => digit.isDigit
  | char :: rest =>
    char.isDigit || "inf".toList.isPrefixOf ((char :: rest).map Char.toLower) || "nan".toList.isPrefixOf ((char :: rest).map Char.toLower)
  | [] => false

/-- Numbers as they are read and compared. A text without a number is not a valid argument. -/
structure FloatNumbers (F : Type) where
  stof : String → Except StdException F
  minusOne : F
  less : F → F → Bool
  lessOrEqual : F → F → Bool
  within : F → F → Bool
  invalid_iff : ∀ text, stof text = .error .invalidArgument ↔ holdsNumber text.toList = false

namespace PresenceService

variable {F : Type} (numbers : FloatNumbers F) (service : PresenceService) (capability : LinphoneFriendCapability)

/-- `std::map::at`. -/
def capabilityAt (name : String) : Except StdException String :=
  match service.capabilities.lookup name with
  | some version => .ok version
  | none => .error .outOfRange

def readCapability : Except StdException F := do numbers.stof (← service.capabilityAt (Friend.capabilityToName capability))

/-- Only an exception for what is out of range is caught. -/
def catchOutOfRange {α : Type} (otherwise : α) : Except StdException α → Except StdException α
  | .error .outOfRange => .ok otherwise
  | result => result

def getCapabilityVersion : Except StdException F := catchOutOfRange numbers.minusOne (service.readCapability numbers capability)

def hasCapabilityWithVersion (version : F) : Except StdException Bool :=
  catchOutOfRange false ((service.readCapability numbers capability).map fun held => numbers.within held version)

def hasCapabilityWithVersionOrMore (version : F) : Except StdException Bool :=
  catchOutOfRange false ((service.readCapability numbers capability).map fun held => numbers.lessOrEqual version held)

end PresenceService

/-- `std::max_element`, of a first element and those after it. -/
def maxElement {α ε : Type} (less : α → α → Except ε Bool) (largest : α) : List α → Except ε α
  | [] => .ok largest
  | next :: rest => do if ← less largest next then maxElement less next rest else maxElement less largest rest

/-- The services are asked until one of them answers yes. -/
def anyElement {α ε : Type} (query : α → Except ε Bool) : List α → Except ε Bool
  | [] => .ok false
  | next :: rest => do if ← query next then return true else anyElement query rest

namespace PresenceModel

variable {F : Type} (numbers : FloatNumbers F) (model : PresenceModel) (capability : LinphoneFriendCapability)

def lessCapable (first second : PresenceService) : Except StdException Bool := do
  let left ← first.getCapabilityVersion numbers capability
  let right ← second.getCapabilityVersion numbers capability
  return numbers.less left right

def getCapabilityVersion : Except StdException F :=
  match model.services with
  | [] => .ok numbers.minusOne
  | first :: rest => do
    let service ← maxElement (lessCapable numbers capability) first rest
    service.getCapabilityVersion numbers capability

def hasCapabilityWithVersion (version : F) : Except StdException Bool :=
  anyElement (fun service => service.hasCapabilityWithVersion numbers capability version) model.services

def hasCapabilityWithVersionOrMore (version : F) : Except StdException Bool :=
  anyElement (fun service => service.hasCapabilityWithVersionOrMore numbers capability version) model.services

end PresenceModel

end Liblinphone
