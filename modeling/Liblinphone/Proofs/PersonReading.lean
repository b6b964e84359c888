import Liblinphone.Library.Run
import Liblinphone.Presence

/-! How the persons of a document are read: each one from its element, and at the timestamp that
is held when its own is left out. -/

namespace Liblinphone

open Library PresenceXml

namespace PresencePerson

variable {environment : PresenceEnvironment} (element : List XmlNode) (person : PresencePerson)

/-- The activity of an element, if its name is one of an activity. -/
def activityOf (node : XmlNode) : Option PresenceActivity :=
  (PresenceActivity.activityNameToType node.name.name).map fun type => ⟨type, node.content⟩

theorem isValidActivityName_eq (name : String) :
    PresenceActivity.isValidActivityName name = (PresenceActivity.activityNameToType name).isSome := by
  unfold PresenceActivity.isValidActivityName PresenceActivity.activityNameToType
  rw [Option.isSome_map]
  exact List.isSome_find?.symm

/-- A valid name is the one of an activity, so that no person is refused. -/
theorem parseActivity_eq (node : XmlNode) :
    parseActivity person node = .ok { person with activities := (activityOf node).toList ++ person.activities } := by
  unfold parseActivity activityOf
  rw [isValidActivityName_eq]
  cases PresenceActivity.activityNameToType node.name.name with
  | none => rfl
  | some type => rfl

theorem foldlM_parseActivity_eq (nodes : List XmlNode) : ∀ person : PresencePerson, nodes.foldlM parseActivity person =
    .ok { person with activities := (nodes.filterMap activityOf).reverse ++ person.activities } := by
  induction nodes with
  | nil => exact fun person => rfl
  | cons node rest ih =>
    intro person
    rw [List.foldlM_cons, parseActivity_eq]
    refine (ih _).trans ?_
    rw [List.filterMap_cons]
    cases activityOf node with
    | none => rfl
    | some activity => simp

def readActivities : List PresenceActivity :=
  (((XmlNode.selectEach element ⟨rpid, "activities"⟩).flatMap (XmlNode.selectSpace · rpid)).filterMap activityOf).reverse

theorem parsePidfXmlPresenceActivities_eq : parsePidfXmlPresenceActivities element person =
    .ok { person with activities := readActivities element ++ person.activities } := by
  unfold parsePidfXmlPresenceActivities readActivities
  rw [← foldlM_parseActivity_eq]
  induction XmlNode.selectEach element ⟨rpid, "activities"⟩ generalizing person with
  | nil => rfl
  | cons activities rest ih =>
    rw [List.foldlM_cons, List.flatMap_cons, List.foldlM_append]
    exact bind_congr fun middle => ih middle

theorem foldl_addNote (notes : List PresenceNote) (person : PresencePerson) :
    notes.foldl addNote person = { person with notes := notes.reverse ++ person.notes } := by
  induction notes generalizing person with
  | nil => rfl
  | cons note rest ih => rw [List.foldl_cons, ih, addNote, List.reverse_cons, List.append_assoc, List.singleton_append]

/-- No note of the activities has a content. -/
def Noteless : Prop := PresenceNote.readAll (XmlNode.select element ⟨rpid, "activities"⟩) rpid = []

instance : Decidable (Noteless element) := inferInstanceAs (Decidable (_ = []))

theorem parsePidfXmlPresenceNotes_eq : parsePidfXmlPresenceNotes element person =
    if Noteless element then .ok { person with notes := (PresenceNote.readAll element dm).reverse ++ person.notes }
    else .error .undefinedBehaviour := by
  unfold parsePidfXmlPresenceNotes
  by_cases noteless : Noteless element
  · rw [if_pos noteless, ← foldl_addNote]
    unfold Noteless at noteless
    rw [noteless]
    rfl
  · rw [if_neg noteless]
    obtain ⟨note, rest, noted⟩ := List.exists_cons_of_ne_nil noteless
    rw [noted]
    rfl

/-- The person of an element, at a time. -/
def readAt (environment : PresenceEnvironment) (timestamp : Int) : PresencePerson :=
  { create environment (XmlNode.attributeContent element idAttribute) timestamp with
    activities := readActivities element
    notes := (PresenceNote.readAll element dm).reverse }

end PresencePerson

namespace PresenceModel

open PresencePerson

variable {environment : PresenceEnvironment}

def timestampText (element : List XmlNode) : String := XmlNode.textContent (XmlNode.select element ⟨dm, "timestamp"⟩)

/-- The timestamp that is held after a person is read. -/
def timestampAfter (environment : PresenceEnvironment) (held : Int) (element : List XmlNode) : Int :=
  if timestampText element = "" then held else environment.parseTimestamp (timestampText element)

theorem parsePerson_eq (state : PresenceModel × Int) (element : List XmlNode) :
    parsePerson environment state element =
      if Noteless element then
        .ok (state.1.addPerson (readAt element environment (timestampAfter environment state.2 element)),
          timestampAfter environment state.2 element)
      else .error .undefinedBehaviour := by
  unfold parsePerson
  dsimp only
  rw [parsePidfXmlPresenceActivities_eq]
  dsimp only [bind, Except.bind]
  rw [parsePidfXmlPresenceNotes_eq]
  by_cases noteless : Noteless element
  · rw [if_pos noteless, if_pos noteless]
    simp only [create, List.append_nil]
    rfl
  · rw [if_neg noteless, if_neg noteless]

/-- The persons of a document, each at the time that is held when it is read. -/
def readPersons (environment : PresenceEnvironment) : Int → List (List XmlNode) → List PresencePerson
  | _, [] => []
  | held, element :: rest =>
    readAt element environment (timestampAfter environment held element) ::
      readPersons environment (timestampAfter environment held element) rest

theorem foldlM_parsePerson_eq {elements : List (List XmlNode)} (noteless : ∀ element ∈ elements, Noteless element) :
    ∀ state : PresenceModel × Int, (elements.foldlM (parsePerson environment) state).map Prod.fst =
      .ok ((readPersons environment state.2 elements).foldl addPerson state.1) := by
  induction elements with
  | nil => exact fun state => rfl
  | cons element rest ih =>
    intro state
    rw [List.foldlM_cons, parsePerson_eq, if_pos (noteless element List.mem_cons_self)]
    exact ih (fun other member => noteless other (List.mem_cons_of_mem element member)) _

theorem foldlM_parsePerson_returns_iff (elements : List (List XmlNode)) (state : PresenceModel × Int) :
    (∃ final, elements.foldlM (parsePerson environment) state = .ok final) ↔ ∀ element ∈ elements, Noteless element := by
  apply foldlM_returns_iff
  intro state element
  rw [parsePerson_eq]
  split
  next noteless => exact iff_of_true ⟨_, rfl⟩ noteless
  next noted => exact iff_of_false (by simp) noted

end PresenceModel

end Liblinphone
