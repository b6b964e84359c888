import Liblinphone.Proofs.PresenceRoundTrip

/-! Persons of one document. A person without a timestamp takes the one that was read last, and a
note of the activities ends the reading, so that a person is not always read as it is alone. -/

namespace Liblinphone

open Library PresenceXml

namespace PresenceModel

open PresencePerson

variable {environment : PresenceEnvironment}

/-- A document without all children but one. -/
def alone (root element : XmlNode) : XmlNode := .element root.name root.attributes root.text [element]

def personName : XmlName := ⟨dm, "person"⟩

theorem persons_returns_iff (model : PresenceModel) (root : XmlNode) :
    (∃ final, model.parsePidfXmlPresencePersons environment [root] = .ok final) ↔
      ∀ element ∈ root.childrenNamed personName, Noteless [element] := by
  have single := @foldlM_parsePerson_returns_iff environment ((root.childrenNamed personName).map fun child => [child]) (model, -1)
  rw [List.forall_mem_map] at single
  rw [← single]
  unfold parsePidfXmlPresencePersons
  rw [XmlNode.selectEach_single]
  exact map_returns_iff

theorem persons_eq {root : XmlNode} (noteless : ∀ element ∈ root.childrenNamed personName, Noteless [element])
    (model : PresenceModel) : model.parsePidfXmlPresencePersons environment [root] =
      .ok ((readPersons environment (-1) ((root.childrenNamed personName).map fun child => [child])).foldl addPerson model) := by
  have single : ∀ element ∈ (root.childrenNamed personName).map fun child => [child], Noteless element :=
    List.forall_mem_map.mpr noteless
  have folded := @foldlM_parsePerson_eq environment _ single (model, -1)
  rw [← folded]
  unfold parsePidfXmlPresencePersons
  rw [XmlNode.selectEach_single]
  rfl

theorem persons_not_refused (model : PresenceModel) (root : XmlNode) :
    model.parsePidfXmlPresencePersons environment [root] ≠ .error .refused := by
  have each (elements : List (List XmlNode)) : ∀ state, elements.foldlM (parsePerson environment) state ≠ .error .refused := by
    induction elements with
    | nil => exact fun state => nofun
    | cons element rest ih =>
      intro state
      rw [List.foldlM_cons, parsePerson_eq]
      split
      · exact ih _
      · nofun
  have never := each (XmlNode.selectEach [root] personName) (model, -1)
  unfold parsePidfXmlPresencePersons
  change (XmlNode.selectEach [root] personName).foldlM (parsePerson environment) (model, -1) >>= _ ≠ _
  cases parsed : (XmlNode.selectEach [root] personName).foldlM (parsePerson environment) (model, -1) with
  | ok state => nofun
  | error failure =>
    intro refused
    rw [parsed] at never
    exact never (congrArg Except.error (Except.error.inj refused))

/-- Each person of a document is added as the one of the document in which it is alone. -/
def ReadAlone (environment : PresenceEnvironment) (model : PresenceModel) (root : XmlNode) : Prop :=
  ∃ persons : List PresencePerson,
    List.Forall₂ (fun element person => ∃ single : PresenceModel,
      ({} : PresenceModel).parsePidfXmlPresencePersons environment [alone root element] = .ok single ∧ single.persons = [person])
      (root.childrenNamed personName) persons ∧
    model.parsePidfXmlPresencePersons environment [root] = .ok (persons.foldl addPerson model)

/-- A person without a timestamp is only read when none is held. -/
def TimestampsOwn (environment : PresenceEnvironment) (elements : List (List XmlNode)) : Prop :=
  Guarded (timestampAfter environment) (fun held element => timestampText element = "" → held = -1) (-1) elements

/-- The person of an element that is alone. -/
def readOwn (environment : PresenceEnvironment) (element : List XmlNode) : PresencePerson :=
  readAt element environment (timestampAfter environment (-1) element)

theorem persons_alone {root element : XmlNode} (member : element ∈ root.childrenNamed personName) (noteless : Noteless [element]) :
    ({} : PresenceModel).parsePidfXmlPresencePersons environment [alone root element] =
      .ok (({} : PresenceModel).addPerson (readOwn environment [element])) := by
  have named := (List.mem_filter.mp member).2
  have single : (alone root element).childrenNamed personName = [element] := by
    simpa [alone, XmlNode.childrenNamed, XmlNode.children] using named
  rw [persons_eq (by simpa [single] using noteless), single]
  rfl

section Timestamps

variable {held : Int} {elements : List (List XmlNode)}

theorem readPersons_own (own : Guarded (timestampAfter environment) (fun held element => timestampText element = "" → held = -1)
    held elements) : readPersons environment held elements = elements.map (readOwn environment) := by
  induction elements generalizing held with
  | nil => rfl
  | cons element rest ih =>
    obtain ⟨first, later⟩ := own
    rw [readPersons, List.map_cons, ih later]
    refine congrArg (· :: _) (congrArg (readAt element environment) ?_)
    unfold timestampAfter
    split
    next none => exact first none
    next => rfl

def Untimed (person : PresencePerson) : Bool := person.timestamp = -1

theorem untimed_readAt (timestamp : Int) (element : List XmlNode) :
    Untimed (readAt element environment timestamp) = decide (timestamp = -1) := rfl

/-- An element that is read without a timestamp has none on its own. -/
theorem untimed_readOwn {element : List XmlNode} (untimed : timestampAfter environment held element = -1) :
    Untimed (readOwn environment element) = true := by
  unfold timestampAfter at untimed
  rw [readOwn, untimed_readAt, timestampAfter, decide_eq_true_iff]
  split
  next => rfl
  next some => rwa [if_neg some] at untimed

theorem countP_readPersons_le : ∀ held : Int,
    (readPersons environment held elements).countP Untimed ≤ (elements.map (readOwn environment)).countP Untimed := by
  induction elements with
  | nil => exact fun held => Nat.le_refl 0
  | cons element rest ih =>
    intro held
    have later := ih (timestampAfter environment held element)
    rw [readPersons, List.map_cons, List.countP_cons, List.countP_cons, untimed_readAt]
    by_cases untimed : timestampAfter environment held element = -1
    · rw [if_pos (decide_eq_true untimed), if_pos (untimed_readOwn untimed)]
      omega
    · rw [if_neg (by simpa using untimed)]
      omega

/-- A timestamp that is taken over is one that the element does not have on its own. -/
theorem countP_readPersons_lt : ∀ {held : Int},
    ¬Guarded (timestampAfter environment) (fun held element => timestampText element = "" → held = -1) held elements →
      (readPersons environment held elements).countP Untimed < (elements.map (readOwn environment)).countP Untimed := by
  induction elements with
  | nil => exact fun other => absurd trivial other
  | cons element rest ih =>
    intro held other
    rw [readPersons, List.map_cons, List.countP_cons, List.countP_cons, untimed_readAt]
    by_cases first : timestampText element = "" → held = -1
    · have later := ih fun guarded => other ⟨first, guarded⟩
      by_cases untimed : timestampAfter environment held element = -1
      · rw [if_pos (decide_eq_true untimed), if_pos (untimed_readOwn untimed)]
        omega
      · rw [if_neg (by simpa using untimed)]
        omega
    · obtain ⟨none, taken⟩ := Classical.not_imp.mp first
      have later := @countP_readPersons_le environment rest (timestampAfter environment held element)
      have after : timestampAfter environment held element = held := if_pos none
      have own : Untimed (readOwn environment element) = true := @untimed_readOwn environment (-1) element (if_pos none)
      rw [if_pos own, if_neg (by simpa [after] using taken)]
      omega

end Timestamps

theorem readAlone_iff (model : PresenceModel) (root : XmlNode) :
    ReadAlone environment model root ↔ (∀ element ∈ root.childrenNamed personName, Noteless [element]) ∧
      TimestampsOwn environment ((root.childrenNamed personName).map fun child => [child]) := by
  constructor
  · rintro ⟨persons, each, parsed⟩
    have noteless := (persons_returns_iff model root).mp ⟨_, parsed⟩
    have own : persons = (root.childrenNamed personName).map fun element => readOwn environment [element] := by
      have within := (List.forall₂_and_left (root.childrenNamed personName) persons).mpr ⟨fun _ member => member, each⟩
      have equal := within.imp fun element person found => by
        obtain ⟨member, single, alone, persons⟩ := found
        rw [persons_alone member (noteless element member)] at alone
        cases alone
        exact (List.singleton_inj.mp persons : readOwn environment [element] = person)
      rw [← List.forall₂_map_left_iff, List.forall₂_eq_eq_eq] at equal
      exact equal.symm
    refine ⟨noteless, ?_⟩
    by_contra other
    have fewer := countP_readPersons_lt other
    rw [persons_eq noteless] at parsed
    have same := congrArg (fun model : PresenceModel => (model.persons.filter fun person => person.timestamp = -1).length)
      (Except.ok.inj parsed)
    rw [filter_foldl_addPerson, filter_foldl_addPerson, List.length_append, List.length_append, List.length_reverse,
      List.length_reverse, own] at same
    rw [List.map_map, List.countP_eq_length_filter, List.countP_eq_length_filter] at fewer
    exact absurd (Nat.add_right_cancel same) (Nat.ne_of_lt fewer)
  · rintro ⟨noteless, own⟩
    refine ⟨(root.childrenNamed personName).map fun element => readOwn environment [element], ?_, ?_⟩
    · rw [List.forall₂_map_right_iff, List.forall₂_same]
      exact fun element member => ⟨_, persons_alone member (noteless element member), rfl⟩
    · rw [persons_eq noteless, readPersons_own own, List.map_map]
      rfl

section Untimed

def timedElement : XmlNode := .element personName [(idAttribute, "p1")] "" [.element ⟨dm, "timestamp"⟩ [] nextSecond []]

def untimedElement : XmlNode := .element personName [(idAttribute, "p2")] "" [.element ⟨rpid, "activities"⟩ [] "" []]

end Untimed

end PresenceModel

end Liblinphone
