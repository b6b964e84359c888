import Mathlib.Logic.Function.Basic
import Liblinphone.Presence

/-! Notes and services that are shared. A note can stand in several places, and its content changes
in all of them. -/

namespace Liblinphone

/-- Notes and services that exist, and what a presence refers to. A person has the notes of its
activities, and its own. -/
structure SharedPresence where
  note : Nat → PresenceNote
  nextNote : Nat
  service : Nat → List Nat := fun _ => []
  nextService : Nat
  services : List Nat := []
  persons : List (List Nat × List Nat) := []
  notes : List Nat := []

namespace SharedPresence

variable (state : SharedPresence)

def createService : SharedPresence × Nat :=
  ({ state with service := Function.update state.service state.nextService [], nextService := state.nextService + 1 },
    state.nextService)

def createNote (content lang : String) : SharedPresence × Nat :=
  ({ state with note := Function.update state.note state.nextNote { content, lang }, nextNote := state.nextNote + 1 },
    state.nextNote)

def setContent (note : Nat) (content : String) : SharedPresence :=
  { state with note := Function.update state.note note { state.note note with content } }

/-- `PresenceService::addNote`. -/
def addServiceNote (service note : Nat) : SharedPresence :=
  { state with service := Function.update state.service service (note :: state.service service) }

/-- `PresenceModel::addNote`. A service that is created is not added to the presence. -/
def addNote (content lang : String) : SharedPresence × Int :=
  if content = "" then (state, -1)
  else
    let (state, service) :=
      match state.services[0]? with
      | some service => (state, service)
      | none => state.createService
    let (state, note) :=
      match (state.service service).find? fun note => (state.note note).lang = lang with
      | none => state.createNote content lang
      | some note => (state.setContent note content, note)
    (state.addServiceNote service note, 0)

/-- The notes of a list as they are now. -/
def shownNotes (notes : List Nat) : List PresenceNote := notes.map state.note

/-- The notes of the services of a presence, in their order. -/
def shownServices : List (List PresenceNote) := state.services.map fun service => state.shownNotes (state.service service)

def shownPersons : List (List PresenceNote × List PresenceNote) :=
  state.persons.map fun person => (state.shownNotes person.1, state.shownNotes person.2)

end SharedPresence

end Liblinphone
