import Mathlib.Logic.Function.Basic
import Liblinphone.Presence

/-! Persons that are shared with a presence. An activity that is added to a person is seen in the
presence too. -/

namespace Liblinphone

open Library

def PresencePerson.clearActivities (person : PresencePerson) : PresencePerson := { person with activities := [] }

def PresenceModel.getNthActivity (model : PresenceModel) (idx : Nat) : Option PresenceActivity :=
  PresenceModel.nthActivity model.persons idx

/-- The persons that exist, and those that a presence has, in their order. -/
structure PersonStore (ρ : Type u) where
  person : ρ → PresencePerson
  persons : List ρ := []
  ordered : persons.Pairwise fun first later => (person first).timestamp ≤ (person later).timestamp := by simp

inductive PersonOperation (ρ : Type u) where
  | addPerson (person : ρ)
  | addActivity (person : ρ) (activity : PresenceActivity)
  | clearActivities

namespace PersonStore

variable {ρ : Type u}

section Persons

variable (store : PersonStore ρ)

def addPerson (person : ρ) : PersonStore ρ where
  person := store.person
  persons := store.persons.orderedInsert (fun first later => (store.person first).timestamp ≤ (store.person later).timestamp) person
  ordered := orderedInsert_ordered person store.ordered

/-- The presence with its persons as they are now. -/
def model : PresenceModel where
  persons := store.persons.map store.person
  ordered := List.pairwise_map.mpr store.ordered

/-- A shared person is added as the person that it is now. -/
theorem persons_addPerson (person : ρ) :
    (store.addPerson person).model.persons = (store.model.addPerson (store.person person)).persons :=
  List.map_orderedInsert _ _ store.person store.persons person (fun _ _ => Iff.rfl) fun _ _ => Iff.rfl

/-- No change moves a person in time. -/
def change (changes : ρ → PresencePerson → PresencePerson)
    (kept : ∀ shared person, (changes shared person).timestamp = person.timestamp) : PersonStore ρ where
  person shared := changes shared (store.person shared)
  persons := store.persons
  ordered := by simpa only [kept] using store.ordered

end Persons

section Activities

variable [DecidableEq ρ] (store : PersonStore ρ)

def addActivity (person : ρ) (activity : PresenceActivity) : PersonStore ρ :=
  store.change (fun shared held => if shared = person then held.addActivity activity else held)
    (fun _ _ => by split <;> rfl)

def clearActivities : PersonStore ρ :=
  store.change (fun shared held => if shared ∈ store.persons then held.clearActivities else held)
    (fun _ _ => by split <;> rfl)

def step : PersonOperation ρ → PersonStore ρ
  | .addPerson person => store.addPerson person
  | .addActivity person activity => store.addActivity person activity
  | .clearActivities => store.clearActivities

end Activities

end PersonStore

end Liblinphone
