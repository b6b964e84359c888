import Liblinphone.AddressText
import Liblinphone.Participant
import Mathlib.Data.List.Sort
import Mathlib.Data.List.Destutter

/-! The participants of a conference, as every kind of conference adds them. A list of
addresses is sorted, its equal neighbours are removed, and the others are added one by one. -/

namespace Liblinphone

open Library

structure Conference where
  supportsMedia : Bool := true
  participants : List Participant := []
  activeParticipant : Option Participant := none
deriving Repr, DecidableEq

namespace Conference

/-- The conference afterwards, and whether the address was added. -/
def addParticipant (conference : Conference) (participantAddress : Address) : Conference × Bool :=
  match findParticipant conference.participants participantAddress with
  | some _ => (conference, false)
  | none =>
    let participant := Participant.create conference.supportsMedia participantAddress
    ({ conference with
      participants := conference.participants ++ [participant]
      activeParticipant := conference.activeParticipant.or (some participant) }, true)

/-- The addresses in their order, of which equal neighbours are removed. -/
def sortedAddresses (escapedUsername : Text → Text) (addresses : List Address) : List Address :=
  addresses.insertionSort fun addr1 addr2 => addr2.isLess escapedUsername addr1 = false

def uniqueAddresses (escapedUsername : Text → Text) (addresses : List Address) : List Address :=
  (sortedAddresses escapedUsername addresses).destutter fun addr1 addr2 => addr1.weakEqual addr2 = false

/-- What was added so far, and whether all of it was. -/
def addNext (soFar : Conference × Bool) (address : Address) : Conference × Bool :=
  ((soFar.1.addParticipant address).1, soFar.2 && (soFar.1.addParticipant address).2)

def addParticipants (escapedUsername : Text → Text) (conference : Conference) (addresses : List Address) :
    Conference × Bool :=
  (uniqueAddresses escapedUsername addresses).foldl addNext (conference, true)

end Conference

end Liblinphone
