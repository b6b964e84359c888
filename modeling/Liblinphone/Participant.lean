import Liblinphone.Address
import Liblinphone.Library.Keyed

/-! Participants of a conference and their devices. A device is found by the URI
of its address, or by the call id of its dialog. -/

namespace Liblinphone

inductive MediaDirection where
  | inactive | sendOnly | recvOnly | sendRecv
deriving Repr, DecidableEq

inductive LinphoneStreamType where
  | audio | video | text | unknown
deriving Repr, DecidableEq

inductive ParticipantDeviceState where
  | joining | present | leaving | left | scheduledForJoining | scheduledForLeaving | onHold | requestingToJoin
  | alerting | mutedByFocus
deriving Repr, DecidableEq

inductive JoiningMethod where
  | dialedIn | dialedOut | focusOwner
deriving Repr, DecidableEq

inductive ParticipantRole where
  | speaker | listener | unknown
deriving Repr, DecidableEq

def ParticipantRole.toText : ParticipantRole → String
  | speaker => "speaker"
  | listener => "listener"
  | unknown => "unknown"

/-- The direction of each stream of a device. -/
structure StreamCapabilities where
  audio : MediaDirection := .inactive
  video : MediaDirection := .inactive
  text : MediaDirection := .inactive
  unknown : MediaDirection := .inactive
  thumbnail : MediaDirection := .inactive
deriving Repr, DecidableEq

def StreamCapabilities.setStreamCapability (streams : StreamCapabilities) (direction : MediaDirection) :
    LinphoneStreamType → StreamCapabilities
  | .audio => { streams with audio := direction }
  | .video => { streams with video := direction }
  | .text => { streams with text := direction }
  | .unknown => { streams with unknown := direction }

/-- What names the dialog of a device. -/
structure SipDialogId where
  callId : String := ""
  fromTag : String := ""
  toTag : String := ""
deriving Repr, DecidableEq

/-- A device. Labels, synchronization sources and availabilities of its streams
are left out, and so is what is only read after it left. -/
structure ParticipantDevice where
  address : Address
  state : ParticipantDeviceState := .joining
  joiningMethod : JoiningMethod := .dialedIn
  timeOfJoining : Int := -1
  streams : StreamCapabilities := {}
  dialog : SipDialogId := {}
  name : String := ""
deriving Repr, DecidableEq

namespace ParticipantDevice

def create (gruu : Address) (name : String) : ParticipantDevice where
  address := gruu.getUri
  name := name

def setAddress (device : ParticipantDevice) (gruu : Address) : ParticipantDevice :=
  { device with address := gruu.getUri }

/-- A device that becomes present has joined now, unless it was on hold. -/
def setState (now : Int) (device : ParticipantDevice) (newState : ParticipantDeviceState) : ParticipantDevice :=
  if device.state = newState then device
  else if newState = .present ∧ device.state ≠ .onHold then { device with state := newState, timeOfJoining := now }
  else { device with state := newState }

@[simp] theorem setState_address (now : Int) (device : ParticipantDevice) (newState : ParticipantDeviceState) :
    (device.setState now newState).address = device.address := by
  unfold setState
  split
  · rfl
  · split <;> rfl

@[simp] theorem setState_dialog (now : Int) (device : ParticipantDevice) (newState : ParticipantDeviceState) :
    (device.setState now newState).dialog = device.dialog := by
  unfold setState
  split
  · rfl
  · split <;> rfl

end ParticipantDevice

/-- A participant. The conference gives it its role when it has neither audio nor
video. -/
structure Participant where
  address : Address
  isAdmin : Bool := false
  role : ParticipantRole := .listener
  devices : List ParticipantDevice := []
deriving Repr, DecidableEq

namespace Participant

def create (supportsMedia : Bool) (address : Address) : Participant where
  address := address.getUriWithoutGruu
  role := if supportsMedia then .listener else .speaker

def findDeviceIndex (sip : BelleSip) (participant : Participant) (gruu : Address) : Option Nat :=
  participant.devices.findIdx? fun device => sip.uriEquals device.address gruu

def findDevice (sip : BelleSip) (participant : Participant) (gruu : Address) : Option ParticipantDevice :=
  participant.devices.find? fun device => sip.uriEquals device.address gruu

def findDeviceIndexByCallId (participant : Participant) (callId : String) : Option Nat :=
  participant.devices.findIdx? fun device => device.dialog.callId == callId

/-- The participant with the device, and where the device is in its list. -/
def addDevice (sip : BelleSip) (participant : Participant) (gruu : Address) (name : String) :
    Participant × Nat :=
  match participant.findDeviceIndex sip gruu with
  | some index => (participant, index)
  | none =>
    ({ participant with devices := participant.devices ++ [.create gruu name] }, participant.devices.length)

def removeDevice (sip : BelleSip) (participant : Participant) (gruu : Address) : Participant :=
  { participant with
    devices := participant.devices.filter fun device => !sip.addressEquals device.address.getUri gruu.getUri }

def updateDevice (participant : Participant) (index : Nat) (change : ParticipantDevice → ParticipantDevice) :
    Participant :=
  { participant with devices := participant.devices.modify index change }

end Participant

/-- The first participant whose address is weakly equal. -/
def findParticipant (participants : List Participant) (address : Address) : Option Participant :=
  participants.find? fun participant => participant.address.weakEqual address

section Lookup
open Library

/-- Participants are told apart by what weak equality compares. -/
def Participant.key (participant : Participant) : Option String × String × Nat := participant.address.weakKey

theorem weakEqual_key (address : Address) :
    (fun participant : Participant => participant.address.weakEqual address) =
      fun participant => decide (participant.key = address.weakKey) := by
  funext participant
  exact participant.address.weakEqual_eq_key address

theorem findParticipant_eq (participants : List Participant) (address : Address) :
    findParticipant participants address = findKey Participant.key address.weakKey participants := by
  rw [findParticipant, weakEqual_key]
  rfl

theorem findParticipant_named {participants : List Participant} {address : Address} {participant : Participant}
    (found : findParticipant participants address = some participant) :
    participant.address.weakEqual address = true := by
  simpa using List.find?_some found

theorem findParticipant_mem {participants : List Participant} {address : Address} {participant : Participant}
    (found : findParticipant participants address = some participant) : participant ∈ participants :=
  List.mem_of_find?_eq_some found

theorem findParticipant_congr {first second : Address} (same : first.weakEqual second = true)
    (participants : List Participant) : findParticipant participants first = findParticipant participants second := by
  rw [Address.weakEqual_eq_key, decide_eq_true_iff] at same
  rw [findParticipant_eq, findParticipant_eq, same]

theorem findParticipant_append (participants : List Participant) (added : Participant) (address : Address) :
    findParticipant (participants ++ [added]) address =
      (findParticipant participants address).or (if added.address.weakEqual address then some added else none) := by
  rw [findParticipant_eq, findParticipant_eq, findKey_append, Address.weakEqual_eq_key]
  simp only [decide_eq_true_eq]
  rfl

theorem findParticipant_updateFirst {wanted : Address} {change : Participant → Participant}
    (kept : ∀ participant, participant.address.weakEqual wanted = true →
      (change participant).address.weakEqual wanted = true) (participants : List Participant) (address : Address) :
    findParticipant (updateFirst (fun other => other.address.weakEqual wanted) change participants) address =
      if wanted.weakEqual address then (findParticipant participants address).map change
      else findParticipant participants address := by
  simp only [Address.weakEqual_eq_key, decide_eq_true_eq] at kept ⊢
  simp only [findParticipant_eq]
  exact findKey_updateFirst kept address.weakKey participants

theorem findParticipant_eraseP {participants : List Participant} (distinct : DistinctKeys Participant.key participants)
    (wanted address : Address) :
    findParticipant (participants.eraseP fun other => other.address.weakEqual wanted) address =
      if wanted.weakEqual address then none else findParticipant participants address := by
  rw [weakEqual_key, findParticipant_eq, findParticipant_eq, findKey_eraseP distinct, Address.weakEqual_eq_key]
  simp only [decide_eq_true_eq]

/-- A participant in the place of one that has its address. -/
theorem storeParticipant_distinct {participants : List Participant}
    (distinct : DistinctKeys Participant.key participants) {address : Address} {participant : Participant}
    (named : participant.address.weakEqual address = true) :
    DistinctKeys Participant.key
      (updateFirst (fun other => other.address.weakEqual address) (fun _ => participant) participants) := by
  rw [weakEqual_key]
  refine distinct.updateFirst fun _ _ => ?_
  simpa [Address.weakEqual_eq_key, Participant.key] using named

end Lookup

end Liblinphone
