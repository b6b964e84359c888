import Liblinphone.Proofs.PersonReading

/-! What a watcher reads from the document of a presence. Each list of notes and of
activities is read backwards, and so are persons with the same timestamp. -/

namespace Liblinphone

open Library PresenceXml

theorem PresenceNote.read_written {note : PresenceNote} (filled : note.content ≠ "") (space : String) :
    PresenceNote.read [note.toXml space] = some note := by
  have language : XmlNode.attributeContent [note.toXml space] PresenceXml.lang = note.lang := by
    by_cases plain : note.lang = ""
    · rw [plain]
      apply XmlNode.attributeContent_absent
      simp [PresenceNote.toXml, XmlNode.attributes, plain]
    · apply XmlNode.attributeContent_single
      simp [PresenceNote.toXml, XmlNode.attributes, plain]
  unfold PresenceNote.read
  rw [language]
  unfold PresenceNote.toXml
  rw [XmlNode.textContent_leaf]
  simp [filled]

/-- The notes below one element are read as they were written. -/
theorem PresenceNote.readAll_written {parent : XmlNode} {space : String} {notes : List PresenceNote}
    (below : parent.childrenNamed ⟨space, "note"⟩ = notes.map fun note => note.toXml space)
    (filled : ∀ note ∈ notes, note.content ≠ "") : PresenceNote.readAll [parent] space = notes := by
  unfold PresenceNote.readAll
  rw [XmlNode.selectEach_single, below, List.map_map, List.filterMap_map]
  calc notes.filterMap (PresenceNote.read ∘ (fun child => [child]) ∘ fun note => note.toXml space)
    _ = notes.filterMap some := List.filterMap_congr fun note member => read_written (filled note member) space
    _ = notes := List.filterMap_some

namespace PresenceService

variable {environment : PresenceEnvironment} {service : PresenceService}

theorem foldl_addNote (notes : List PresenceNote) (service : PresenceService) :
    notes.foldl addNote service = { service with notes := notes.reverse ++ service.notes } := by
  induction notes generalizing service with
  | nil => rfl
  | cons note rest ih => rw [List.foldl_cons, ih, addNote, List.reverse_cons, List.append_assoc, List.singleton_append]

/-- A service as it is read. -/
def received (defaultContact : String) (service : PresenceService) : PresenceService :=
  { id := service.id, status := service.status
    contact := if service.contact = "" then defaultContact else service.contact
    timestamp := service.timestamp
    notes := service.notes.reverse }

section Tuple

variable (environment) (service : PresenceService) (contact : String) (isOnline : Bool)

def tuple : XmlNode := toXml environment (some service) contact isOnline

/-- The children of a tuple, by their name. -/
theorem childrenNamed_tuple (wanted : XmlName) :
    (tuple environment service contact isOnline).childrenNamed wanted =
      [XmlNode.element ⟨pidf, "status"⟩ [] "" (.element ⟨pidf, "basic"⟩ [] (basicStatusToString service.status) [] ::
          if isOnline then [.element ⟨pidfonline, "online"⟩ [] "" []] else []),
        .element ⟨pidf, "contact"⟩ [(⟨"", "priority"⟩, "0.8")]
          (if service.contact = "" then contact else service.contact) []].filter (fun child => child.name = wanted) ++
        (if ⟨pidf, "note"⟩ = wanted then service.notes.map fun note => note.toXml pidf else []) ++
        [timestampToXml environment service.timestamp pidf].filter fun child => child.name = wanted := by
  unfold tuple toXml XmlNode.childrenNamed XmlNode.children
  dsimp only [Option.map_some, Option.getD_some]
  rw [List.filter_append, List.filter_append, XmlNode.filter_named ⟨pidf, "note"⟩ fun _ => rfl]

theorem tuple_basicStatus :
    XmlNode.textContent (XmlNode.select (XmlNode.select [tuple environment service contact isOnline] ⟨pidf, "status"⟩)
      ⟨pidf, "basic"⟩) = basicStatusToString service.status := by
  rw [XmlNode.select_single, childrenNamed_tuple]
  cases isOnline with
  | true => simp [timestampToXml, XmlNode.childrenNamed, XmlNode.children]
  | false => simp [timestampToXml, XmlNode.childrenNamed, XmlNode.children]

theorem tuple_online :
    (XmlNode.select (XmlNode.select [tuple environment service contact isOnline] ⟨pidf, "status"⟩)
      ⟨pidfonline, "online"⟩).isEmpty = !isOnline := by
  rw [XmlNode.select_single, childrenNamed_tuple]
  cases isOnline with
  | true => simp [timestampToXml, XmlNode.childrenNamed, XmlNode.children]
  | false => simp [timestampToXml, XmlNode.childrenNamed, XmlNode.children]

theorem tuple_timestamp :
    XmlNode.textContent (XmlNode.select [tuple environment service contact isOnline] ⟨pidf, "timestamp"⟩) =
      environment.timestampToString service.timestamp := by
  rw [XmlNode.select_single, childrenNamed_tuple]
  simp [timestampToXml]

theorem tuple_contact :
    XmlNode.textContent (XmlNode.select [tuple environment service contact isOnline] ⟨pidf, "contact"⟩) =
      if service.contact = "" then contact else service.contact := by
  rw [XmlNode.select_single, childrenNamed_tuple]
  simp [timestampToXml]

theorem tuple_id (named : service.id ≠ "") :
    XmlNode.attributeContent [tuple environment service contact isOnline] idAttribute = service.id := by
  apply XmlNode.attributeContent_single
  simp [tuple, toXml, XmlNode.attributes, named]

theorem tuple_descriptions : readDescriptions [tuple environment service contact isOnline] = [] := by
  unfold readDescriptions
  rw [XmlNode.select_single, childrenNamed_tuple]
  simp [timestampToXml]

theorem tuple_notes (filled : ∀ note ∈ service.notes, note.content ≠ "") :
    PresenceNote.readAll [tuple environment service contact isOnline] pidf = service.notes := by
  apply PresenceNote.readAll_written _ filled
  rw [childrenNamed_tuple]
  simp [timestampToXml]

end Tuple

end PresenceService

namespace PresenceActivity

theorem activityNameToType_name (type : PresenceActivityType) :
    activityNameToType (activityTypeToName type) = some type := by
  cases type <;> rfl

theorem activityTypeToName_ne_note (type : PresenceActivityType) : activityTypeToName type ≠ "note" := by
  cases type <;> decide

end PresenceActivity

namespace PresencePerson

variable {environment : PresenceEnvironment} {person : PresencePerson}

/-- A person as it is read, if its activities have no notes. -/
def received (person : PresencePerson) : PresencePerson :=
  { person with activities := person.activities.reverse, notes := person.notes.reverse }

/-- Notes are not taken for activities. -/
theorem activityOf_note (note : PresenceNote) : activityOf (note.toXml rpid) = none := rfl

theorem activityOf_toXml (activity : PresenceActivity) : activityOf activity.toXml = some activity := by
  unfold activityOf PresenceActivity.toXml
  rw [XmlNode.name_element, PresenceActivity.activityNameToType_name, XmlNode.content_leaf]
  rfl

section Written

variable (environment) (person : PresencePerson)

def activitiesElement : XmlNode :=
  .element ⟨rpid, "activities"⟩ [] ""
    (person.activitiesNotes.map (fun note => note.toXml rpid) ++ person.activities.map PresenceActivity.toXml)

/-- The children of a person, by their name. -/
theorem childrenNamed_person (wanted : XmlName) :
    (person.toXml environment).childrenNamed wanted =
      (if person.activitiesNotes.isEmpty && person.activities.isEmpty then []
        else [person.activitiesElement]).filter (fun child => child.name = wanted) ++
        (if ⟨dm, "note"⟩ = wanted then person.notes.map fun note => note.toXml dm else []) ++
        [timestampToXml environment person.timestamp dm].filter fun child => child.name = wanted := by
  unfold toXml XmlNode.childrenNamed XmlNode.children
  dsimp only
  rw [List.filter_append, List.filter_append, XmlNode.filter_named ⟨dm, "note"⟩ fun _ => rfl]
  rfl

theorem person_timestamp :
    XmlNode.textContent (XmlNode.select [person.toXml environment] ⟨dm, "timestamp"⟩) =
      environment.timestampToString person.timestamp := by
  rw [XmlNode.select_single, childrenNamed_person]
  split
  next => simp [timestampToXml]
  next => simp [timestampToXml, activitiesElement]

theorem person_id (named : person.id ≠ "") :
    XmlNode.attributeContent [person.toXml environment] idAttribute = person.id := by
  apply XmlNode.attributeContent_single
  simp [toXml, XmlNode.attributes, named]

theorem person_notes (filled : ∀ note ∈ person.notes, note.content ≠ "") :
    PresenceNote.readAll [person.toXml environment] dm = person.notes := by
  apply PresenceNote.readAll_written _ filled
  rw [childrenNamed_person]
  split
  next => simp [timestampToXml]
  next => simp [timestampToXml, activitiesElement]

theorem person_activities :
    (person.toXml environment).childrenNamed ⟨rpid, "activities"⟩ =
      if person.activitiesNotes.isEmpty && person.activities.isEmpty then [] else [person.activitiesElement] := by
  rw [childrenNamed_person]
  split
  next => simp [timestampToXml]
  next => simp [timestampToXml, activitiesElement]

theorem readActivities_written : readActivities [person.toXml environment] = person.activities.reverse := by
  unfold readActivities
  rw [XmlNode.selectEach_single, person_activities]
  split
  next none =>
    obtain ⟨-, empty⟩ := Bool.and_eq_true_iff.mp none
    rw [List.isEmpty_iff.mp empty]
    rfl
  next =>
    have inside : XmlNode.selectSpace [person.activitiesElement] rpid =
        person.activitiesNotes.map (fun note => note.toXml rpid) ++ person.activities.map PresenceActivity.toXml := by
      rw [XmlNode.selectSpace_single]
      apply List.filter_eq_self.mpr
      intro child member
      rcases List.mem_append.mp member with note | activity
      · obtain ⟨written, -, rfl⟩ := List.mem_map.mp note
        simp [PresenceNote.toXml]
      · obtain ⟨written, -, rfl⟩ := List.mem_map.mp activity
        simp [PresenceActivity.toXml]
    have notes : (person.activitiesNotes.map fun note => note.toXml rpid).filterMap activityOf = [] := by
      rw [List.filterMap_map]
      exact List.filterMap_eq_nil_iff.mpr fun note _ => activityOf_note note
    have activities : (person.activities.map PresenceActivity.toXml).filterMap activityOf = person.activities := by
      rw [List.filterMap_map]
      exact (List.filterMap_congr fun activity _ => activityOf_toXml activity).trans List.filterMap_some
    rw [List.map_singleton, List.flatMap_singleton, inside, List.filterMap_append, notes, activities, List.nil_append]

theorem readAll_activities (filled : ∀ note ∈ person.activitiesNotes, note.content ≠ "") :
    PresenceNote.readAll (XmlNode.select [person.toXml environment] ⟨rpid, "activities"⟩) rpid =
      person.activitiesNotes := by
  rw [XmlNode.select_single, person_activities]
  split
  next none =>
    obtain ⟨empty, -⟩ := Bool.and_eq_true_iff.mp none
    rw [List.isEmpty_iff.mp empty]
    rfl
  next =>
    apply PresenceNote.readAll_written _ filled
    have others : (person.activities.map PresenceActivity.toXml).filter (fun child => child.name = ⟨rpid, "note"⟩) = [] := by
      apply List.filter_eq_nil_iff.mpr
      intro child member
      obtain ⟨activity, -, rfl⟩ := List.mem_map.mp member
      have apart := PresenceActivity.activityTypeToName_ne_note activity.type
      simp [PresenceActivity.toXml, apart]
    unfold XmlNode.childrenNamed activitiesElement XmlNode.children
    dsimp only
    rw [List.filter_append, others, List.append_nil, XmlNode.filter_named ⟨rpid, "note"⟩ fun _ => rfl, if_pos rfl]

end Written

end PresencePerson

namespace PresenceModel

variable {environment : PresenceEnvironment} {model : PresenceModel} {service : PresenceService}

theorem parseService_written (named : service.id ≠ "") (filled : ∀ note ∈ service.notes, note.content ≠ "")
    (inverts : environment.parseTimestamp (environment.timestampToString service.timestamp) = service.timestamp)
    (printed : environment.timestampToString service.timestamp ≠ "") (contact : String) (isOnline : Bool) :
    parseService environment model [service.tuple environment contact isOnline] =
      .ok { model with
        online := model.online || isOnline
        services := model.services ++ [service.received contact] } := by
  have known : PresenceModel.basicStatusOfString (PresenceService.basicStatusToString service.status) =
      some service.status := by
    cases service.status with
    | opened => rfl
    | closed => rfl
  have written : PresenceService.basicStatusToString service.status ≠ "" := by
    cases service.status with
    | opened => decide
    | closed => decide
  unfold parseService
  dsimp only
  rw [PresenceService.tuple_basicStatus, if_neg written, known]
  dsimp only
  rw [PresenceService.tuple_online, PresenceService.tuple_timestamp, PresenceService.tuple_contact,
    PresenceService.tuple_id _ _ _ _ named, PresenceService.tuple_descriptions, if_neg printed, inverts]
  unfold PresenceService.parsePidfXmlPresenceNotes
  rw [PresenceService.tuple_notes _ _ _ _ filled, PresenceService.foldl_addNote]
  by_cases empty : (if service.contact = "" then contact else service.contact) = ""
  · simp [empty, addService, PresenceService.create, PresenceService.received, named]
  · simp [empty, addService, PresenceService.create, PresenceService.received, named]

/-- A service as it is written, and as it is read. -/
theorem foldlM_parseService {services : List PresenceService} (named : ∀ service ∈ services, service.id ≠ "")
    (filled : ∀ service ∈ services, ∀ note ∈ service.notes, note.content ≠ "")
    (inverts : ∀ service ∈ services, environment.parseTimestamp (environment.timestampToString service.timestamp) =
      service.timestamp)
    (printed : ∀ service ∈ services, environment.timestampToString service.timestamp ≠ "") (contact : String)
    (isOnline : Bool) (model : PresenceModel) :
    (services.map fun service => [service.tuple environment contact isOnline]).foldlM (parseService environment) model =
      .ok { model with
        online := model.online || (isOnline && !services.isEmpty)
        services := model.services ++ services.map (PresenceService.received contact) } := by
  induction services generalizing model with
  | nil => simp [pure, Except.pure]
  | cons service rest ih =>
    rw [List.map_cons, List.foldlM_cons, parseService_written (named service List.mem_cons_self)
      (filled service List.mem_cons_self) (inverts service List.mem_cons_self) (printed service List.mem_cons_self)]
    refine (ih (fun other member => named other (List.mem_cons_of_mem _ member))
      (fun other member => filled other (List.mem_cons_of_mem _ member))
      (fun other member => inverts other (List.mem_cons_of_mem _ member))
      (fun other member => printed other (List.mem_cons_of_mem _ member)) _).trans ?_
    congr 2
    · cases isOnline <;> cases model.online <;> rfl
    · simp

section Persons

variable {person : PresencePerson} {persons : List PresencePerson}

theorem noteless_written (filled : ∀ note ∈ person.activitiesNotes, note.content ≠ "") :
    PresencePerson.Noteless [person.toXml environment] ↔ person.activitiesNotes = [] := by
  rw [PresencePerson.Noteless, PresencePerson.readAll_activities _ _ filled]

theorem readAt_written (named : person.id ≠ "") (filled : ∀ note ∈ person.notes, note.content ≠ "")
    (none : person.activitiesNotes = []) :
    PresencePerson.readAt [person.toXml environment] environment person.timestamp = person.received := by
  unfold PresencePerson.readAt
  rw [PresencePerson.person_id _ _ named, PresencePerson.readActivities_written, PresencePerson.person_notes _ _ filled]
  simp [PresencePerson.create, PresencePerson.received, named, none]

/-- Whether a person is read does not depend on what was read before. -/
theorem parsePerson_written (named : person.id ≠ "")
    (filled : ∀ note ∈ person.activitiesNotes ++ person.notes, note.content ≠ "")
    (inverts : environment.parseTimestamp (environment.timestampToString person.timestamp) = person.timestamp)
    (printed : environment.timestampToString person.timestamp ≠ "") (state : PresenceModel × Int) :
    parsePerson environment state [person.toXml environment] =
      if person.activitiesNotes = [] then .ok (state.1.addPerson person.received, person.timestamp)
      else .error .undefinedBehaviour := by
  have time : timestampAfter environment state.2 [person.toXml environment] = person.timestamp := by
    unfold timestampAfter timestampText
    rw [PresencePerson.person_timestamp, if_neg printed, inverts]
  rw [parsePerson_eq, time]
  by_cases none : person.activitiesNotes = []
  · rw [if_pos none, if_pos ((noteless_written (by simp [none])).mpr none),
      readAt_written named (fun note member => filled note (List.mem_append_right _ member)) none]
  · have noted : ¬PresencePerson.Noteless [person.toXml environment] :=
      mt (noteless_written fun note member => filled note (List.mem_append_left _ member)).mp none
    rw [if_neg none, if_neg noted]

theorem foldlM_parsePerson (named : ∀ person ∈ persons, person.id ≠ "")
    (filled : ∀ person ∈ persons, ∀ note ∈ person.activitiesNotes ++ person.notes, note.content ≠ "")
    (inverts : ∀ person ∈ persons, environment.parseTimestamp (environment.timestampToString person.timestamp) =
      person.timestamp)
    (printed : ∀ person ∈ persons, environment.timestampToString person.timestamp ≠ "") (state : PresenceModel × Int) :
    (((persons.map fun person => [person.toXml environment]).foldlM (parsePerson environment) state).map Prod.fst) =
      if ∀ person ∈ persons, person.activitiesNotes = [] then
        .ok ((persons.map PresencePerson.received).foldl addPerson state.1)
      else .error .undefinedBehaviour := by
  induction persons generalizing state with
  | nil => simp [pure, Except.pure, Except.map]
  | cons person rest ih =>
    have later := ih (fun other member => named other (List.mem_cons_of_mem _ member))
      (fun other member => filled other (List.mem_cons_of_mem _ member))
      (fun other member => inverts other (List.mem_cons_of_mem _ member))
      (fun other member => printed other (List.mem_cons_of_mem _ member))
    rw [List.map_cons, List.foldlM_cons, parsePerson_written (named person List.mem_cons_self)
      (filled person List.mem_cons_self) (inverts person List.mem_cons_self) (printed person List.mem_cons_self)]
    by_cases plain : person.activitiesNotes = []
    · rw [if_pos plain]
      refine (later _).trans ?_
      simp [plain]
    · rw [if_neg plain, if_neg (fun all => plain (all person List.mem_cons_self))]
      rfl

/-- Adding persons changes the persons only. -/
theorem foldl_addPerson (people : List PresencePerson) (model : PresenceModel) :
    ∃ ordered, people.foldl addPerson model =
      { model with
        persons := people.foldl (fun list person =>
          list.orderedInsert (fun first later => first.timestamp ≤ later.timestamp) person) model.persons
        ordered } := by
  induction people generalizing model with
  | nil => exact ⟨model.ordered, rfl⟩
  | cons person rest ih => exact ih (model.addPerson person)

/-- Persons of one timestamp stand in the opposite order. -/
theorem filter_foldl_addPerson (people : List PresencePerson) (time : Int) :
    (people.foldl addPerson model).persons.filter (fun person => person.timestamp = time) =
      (people.filter fun person => person.timestamp = time).reverse ++
        model.persons.filter fun person => person.timestamp = time := by
  obtain ⟨ordered, same⟩ := foldl_addPerson people model
  have alike : ∀ left right : PresencePerson, decide (left.timestamp = time) = true →
      decide (right.timestamp = time) = true → left.timestamp ≤ right.timestamp := by
    intro left right one two
    rw [of_decide_eq_true one, of_decide_eq_true two]
  rw [same]
  exact filter_foldl_orderedInsert alike people model.persons

/-- Persons of one timestamp are read backwards. -/
theorem filter_addPerson (people : List PresencePerson) (time : Int) :
    ((people.map PresencePerson.received).foldl addPerson model).persons.filter (fun person => person.timestamp = time) =
      ((people.filter fun person => person.timestamp = time).map PresencePerson.received).reverse ++
        model.persons.filter fun person => person.timestamp = time := by
  rw [filter_foldl_addPerson, List.filter_map]
  rfl

end Persons

/-- A presence that can be published: it has services, and no identifier and no note is empty. -/
structure Publishable (model : PresenceModel) : Prop where
  served : model.services ≠ []
  services : ∀ service ∈ model.services, service.id ≠ "" ∧ ∀ note ∈ service.notes, note.content ≠ ""
  persons : ∀ person ∈ model.persons, person.id ≠ "" ∧
    ∀ note ∈ person.activitiesNotes ++ person.notes, note.content ≠ ""
  notes : ∀ note ∈ model.notes, note.content ≠ ""

/-- The timestamps of a model are read as they were written. -/
def TimestampsInvert (environment : PresenceEnvironment) (model : PresenceModel) : Prop :=
  ∀ time ∈ model.services.map PresenceService.timestamp ++ model.persons.map PresencePerson.timestamp,
    environment.timestampToString time ≠ "" ∧ environment.parseTimestamp (environment.timestampToString time) = time

/-- A presence as it is read, if no activities have notes. -/
def received (contact : String) (model : PresenceModel) : PresenceModel :=
  { (model.persons.map PresencePerson.received).foldl addPerson
      { online := model.isOnline, services := model.services.map (PresenceService.received contact) } with
    notes := model.notes }

section Document

variable {presentity : Address}

def document (environment : PresenceEnvironment) (contact : String) (model : PresenceModel) : XmlNode :=
  .element ⟨pidf, "presence"⟩ [(⟨"", "entity"⟩, contact)] ""
    (model.services.map (fun service => service.tuple environment contact model.isOnline) ++
      model.persons.map (PresencePerson.toXml environment) ++ model.notes.map (fun note => note.toXml pidf))

theorem toXml_document (named : model.presentity = some presentity) (served : model.services ≠ []) :
    model.toXml environment = some (model.document environment (environment.asStringUriOnly presentity)) := by
  unfold toXml
  rw [named, Option.map_some, List.isEmpty_eq_false_iff.mpr served]
  rfl

theorem childrenNamed_document (contact : String) (wanted : XmlName) :
    (model.document environment contact).childrenNamed wanted =
      (if ⟨pidf, "tuple"⟩ = wanted then model.services.map fun service => service.tuple environment contact model.isOnline
        else []) ++
        (if ⟨dm, "person"⟩ = wanted then model.persons.map (PresencePerson.toXml environment) else []) ++
        if ⟨pidf, "note"⟩ = wanted then model.notes.map fun note => note.toXml pidf else [] := by
  unfold document XmlNode.childrenNamed XmlNode.children
  dsimp only
  rw [List.filter_append, List.filter_append, XmlNode.filter_named ⟨pidf, "tuple"⟩ fun _ => rfl,
    XmlNode.filter_named ⟨dm, "person"⟩ fun _ => rfl, XmlNode.filter_named ⟨pidf, "note"⟩ fun _ => rfl]

theorem services_document (publishable : Publishable model) (inverts : TimestampsInvert environment model)
    (contact : String) :
    parsePidfXmlPresenceServices environment {} [model.document environment contact] =
      .ok { online := model.isOnline, services := model.services.map (PresenceService.received contact) } := by
  have tuples : (model.document environment contact).childrenNamed ⟨pidf, "tuple"⟩ =
      model.services.map fun service => service.tuple environment contact model.isOnline := by
    simp [childrenNamed_document]
  have times : ∀ service ∈ model.services, environment.timestampToString service.timestamp ≠ "" ∧
      environment.parseTimestamp (environment.timestampToString service.timestamp) = service.timestamp :=
    fun service member => inverts _ (List.mem_append_left _ (List.mem_map_of_mem member))
  unfold parsePidfXmlPresenceServices
  rw [XmlNode.selectEach_single, tuples, List.map_map]
  refine (foldlM_parseService (fun service member => (publishable.services service member).1)
    (fun service member => (publishable.services service member).2) (fun service member => (times service member).2)
    (fun service member => (times service member).1) contact model.isOnline {}).trans ?_
  simp [List.isEmpty_eq_false_iff.mpr publishable.served]

theorem persons_document (publishable : Publishable model) (inverts : TimestampsInvert environment model)
    (contact : String) (start : PresenceModel) :
    start.parsePidfXmlPresencePersons environment [model.document environment contact] =
      if ∀ person ∈ model.persons, person.activitiesNotes = [] then
        .ok ((model.persons.map PresencePerson.received).foldl addPerson start)
      else .error .undefinedBehaviour := by
  have people : (model.document environment contact).childrenNamed ⟨dm, "person"⟩ =
      model.persons.map (PresencePerson.toXml environment) := by
    simp [childrenNamed_document]
  have times : ∀ person ∈ model.persons, environment.timestampToString person.timestamp ≠ "" ∧
      environment.parseTimestamp (environment.timestampToString person.timestamp) = person.timestamp :=
    fun person member => inverts _ (List.mem_append_right _ (List.mem_map_of_mem member))
  unfold parsePidfXmlPresencePersons
  rw [XmlNode.selectEach_single, people, List.map_map]
  exact foldlM_parsePerson (fun person member => (publishable.persons person member).1)
    (fun person member => (publishable.persons person member).2) (fun person member => (times person member).2)
    (fun person member => (times person member).1) (start, -1)

theorem parse_document (publishable : Publishable model) (inverts : TimestampsInvert environment model) (contact : String) :
    parsePidfXmlPresence environment (model.document environment contact) =
      if ∀ person ∈ model.persons, person.activitiesNotes = [] then .ok (model.received contact)
      else .error .undefinedBehaviour := by
  have root : [model.document environment contact].filter (fun root => root.name = ⟨pidf, "presence"⟩) =
      [model.document environment contact] := rfl
  have notes : PresenceNote.readAll [model.document environment contact] pidf = model.notes := by
    apply PresenceNote.readAll_written _ publishable.notes
    simp [childrenNamed_document]
  unfold parsePidfXmlPresence
  dsimp only
  rw [root, services_document publishable inverts]
  dsimp only [bind, Except.bind]
  rw [persons_document publishable inverts]
  by_cases plain : ∀ person ∈ model.persons, person.activitiesNotes = []
  · rw [if_pos plain, if_pos plain]
    obtain ⟨ordered, same⟩ := foldl_addPerson (model.persons.map PresencePerson.received)
      { online := model.isOnline, services := model.services.map (PresenceService.received contact) }
    unfold parsePidfXmlPresenceNotes received
    rw [notes, same]
    rfl
  · rw [if_neg plain, if_neg plain]

variable {contact : String}

theorem received_services : (model.received contact).services = model.services.map (PresenceService.received contact) := by
  obtain ⟨ordered, same⟩ := foldl_addPerson (model.persons.map PresencePerson.received)
    { online := model.isOnline, services := model.services.map (PresenceService.received contact) }
  unfold received
  rw [same]

theorem received_online : (model.received contact).online = model.isOnline := by
  obtain ⟨ordered, same⟩ := foldl_addPerson (model.persons.map PresencePerson.received)
    { online := model.isOnline, services := model.services.map (PresenceService.received contact) }
  unfold received
  rw [same]

theorem received_persons (time : Int) :
    (model.received contact).persons.filter (fun person => person.timestamp = time) =
      ((model.persons.filter fun person => person.timestamp = time).map PresencePerson.received).reverse :=
  (filter_addPerson model.persons time).trans (List.append_nil _)

theorem received_basicStatus : (model.received contact).getBasicStatus = model.getBasicStatus := by
  unfold getBasicStatus
  rw [received_services, List.any_map]
  rfl

end Document

/-- What a watcher is shown of a service. -/
def shownService (service : PresenceService) : String × PresenceBasicStatus × Int × String × List PresenceNote :=
  (service.id, service.status, service.timestamp, service.contact, service.notes)

/-- The contact of a service is the presentity where it has none. -/
def withContact (contact : String) (service : PresenceService) : PresenceService :=
  { service with contact := if service.contact = "" then contact else service.contact }

/-- A watcher is shown what was published. -/
structure Shows (contact : String) (published shown : PresenceModel) : Prop where
  basicStatus : shown.getBasicStatus = published.getBasicStatus
  isOnline : shown.isOnline = published.isOnline
  consolidatedPresence : shown.getConsolidatedPresence = published.getConsolidatedPresence
  services : shown.services.map shownService = published.services.map fun service => shownService (withContact contact service)
  persons : shown.persons = published.persons
  notes : shown.notes = published.notes
  activity : shown.getActivity = published.getActivity
  note : ∀ lang, shown.getNote lang = published.getNote lang

/-- Nothing changes when lists are read backwards: the notes of each service, and the
persons of each timestamp with their activities and notes. No activities have notes. -/
structure SameBackwards (model : PresenceModel) : Prop where
  activitiesNotes : ∀ person ∈ model.persons, person.activitiesNotes = []
  services : ∀ service ∈ model.services, service.notes.reverse = service.notes
  persons : ∀ time, ((model.persons.filter fun person => person.timestamp = time).map PresencePerson.received).reverse =
    model.persons.filter fun person => person.timestamp = time

theorem shows_of_sameBackwards {contact : String} (backwards : SameBackwards model) :
    Shows contact model (model.received contact) := by
  have persons : (model.received contact).persons = model.persons :=
    eq_of_filter_eq (model.received contact).ordered model.ordered fun time =>
      (received_persons time).trans (backwards.persons time)
  have notes : (model.received contact).services.map PresenceService.notes = model.services.map PresenceService.notes := by
    rw [received_services, List.map_map]
    exact List.map_congr_left fun service member => backwards.services service member
  have activities : (model.received contact).getNbActivities = model.getNbActivities := by
    unfold getNbActivities
    rw [persons]
  have online : (model.received contact).isOnline = model.isOnline := by
    rw [isOnline, received_online, received_basicStatus, activities]
    unfold isOnline
    rw [Bool.or_assoc, Bool.or_self]
  refine ⟨received_basicStatus, online, ?_, ?_, persons, rfl, ?_, ?_⟩
  · unfold getConsolidatedPresence
    rw [online, received_basicStatus, activities]
  · rw [received_services, List.map_map]
    apply List.map_congr_left
    intro service member
    simp [shownService, withContact, PresenceService.received, backwards.services service member]
  · unfold getActivity
    rw [persons]
  · intro lang
    have found : ∀ (read : List PresenceNote → Option PresenceNote) (services : List PresenceService),
        services.findSome? (fun service => read service.notes) = (services.map PresenceService.notes).findSome? read := by
      intro read services
      rw [List.findSome?_map]
      rfl
    unfold getNote findNoteWithLang
    rw [persons, found (fun notes => noteWithLang notes lang), found (fun notes => noteWithLang notes ""),
      found List.head?, notes]
    rw [← found (fun notes => noteWithLang notes lang), ← found (fun notes => noteWithLang notes ""), ← found List.head?]
    rfl

theorem presence_round_trips_iff {environment : PresenceEnvironment} {model : PresenceModel} {presentity : Address}
    (named : model.presentity = some presentity) (publishable : Publishable model)
    (inverts : TimestampsInvert environment model) :
    (∃ document shown, model.toXml environment = some document ∧ parsePidfXmlPresence environment document = .ok shown ∧
      Shows (environment.asStringUriOnly presentity) model shown) ↔ SameBackwards model := by
  rw [toXml_document named publishable.served]
  have read := parse_document publishable inverts (environment.asStringUriOnly presentity)
  constructor
  · rintro ⟨document, shown, same, parsed, shows⟩
    obtain rfl := Option.some.inj same
    rw [read] at parsed
    split at parsed
    next plain =>
      obtain rfl := Except.ok.inj parsed
      refine ⟨plain, ?_, ?_⟩
      · have services := shows.services
        rw [received_services, List.map_map, List.map_inj_left] at services
        intro service member
        have equal := services service member
        simp only [Function.comp_apply, shownService, withContact, PresenceService.received, Prod.mk.injEq] at equal
        exact equal.2.2.2.2
      · intro time
        rw [← received_persons, shows.persons]
    next => cases parsed
  · intro backwards
    rw [if_pos backwards.activitiesNotes] at read
    exact ⟨_, _, rfl, read, shows_of_sameBackwards backwards⟩

def firstSecond : String := "1970-01-01T00:00:00Z"

def nextSecond : String := "1970-01-01T00:00:01Z"

/-- An environment for the first two seconds. -/
def twoSeconds : PresenceEnvironment where
  now := 0
  generatePresenceId := "_abcde"
  timestampToString time := if time = 0 then firstSecond else nextSecond
  parseTimestamp text := if text = firstSecond then 0 else 1
  asStringUriOnly _ := "sip:alice@sip.example.org"

def aliceAddress : Address := { username := some "alice", domain := "sip.example.org" }

def atLunch : PresencePerson :=
  { id := "p1", timestamp := 0, activities := [{ type := .lunch }], notes := [{ content := "Bon appétit", lang := "fr" }] }

def onThePhone : PresencePerson := { id := "p2", timestamp := 1, activities := [{ type := .onThePhone }] }

def openService : PresenceService := { id := "s1", status := .opened, timestamp := 1, notes := [{ content := "Back soon" }] }

def alicePresence : PresenceModel :=
  { presentity := some aliceAddress
    services := [openService]
    persons := [atLunch, onThePhone]
    ordered := by decide }

/-- Persons of different times with one activity each are shown as they are. -/
theorem alice_is_shown :
    ∃ document shown, alicePresence.toXml twoSeconds = some document ∧
      parsePidfXmlPresence twoSeconds document = .ok shown ∧ Shows "sip:alice@sip.example.org" alicePresence shown := by
  have publishable : Publishable alicePresence := ⟨by decide, by decide, by decide, by decide⟩
  have inverts : TimestampsInvert twoSeconds alicePresence := by
    unfold TimestampsInvert
    decide
  apply (@presence_round_trips_iff twoSeconds alicePresence aliceAddress rfl publishable inverts).mpr
  refine ⟨by decide, by decide, ?_⟩
  intro time
  have persons : alicePresence.persons = [atLunch, onThePhone] := rfl
  rw [persons]
  by_cases early : time = 0
  · subst early
    rfl
  · by_cases late : time = 1
    · subst late
      rfl
    · have apart : [atLunch, onThePhone].filter (fun person => person.timestamp = time) = [] := by
        simp [atLunch, onThePhone, Ne.symm early, Ne.symm late]
      rw [apart]
      rfl

def busyPerson : PresencePerson :=
  { id := "p1", timestamp := 0, activities := [{ type := .onThePhone }, { type := .lunch }] }

def busyPresence : PresenceModel :=
  { presentity := some aliceAddress, services := [openService], persons := [busyPerson], ordered := by decide }

/-- A person with two activities is shown with the older one first. -/
theorem older_activity_is_shown :
    ¬∃ document shown, busyPresence.toXml twoSeconds = some document ∧
      parsePidfXmlPresence twoSeconds document = .ok shown ∧ Shows "sip:alice@sip.example.org" busyPresence shown := by
  rintro ⟨document, shown, written, parsed, shows⟩
  have publishable : Publishable busyPresence := ⟨by decide, by decide, by decide, by decide⟩
  have inverts : TimestampsInvert twoSeconds busyPresence := by
    unfold TimestampsInvert
    decide
  rw [@toXml_document twoSeconds busyPresence aliceAddress rfl publishable.served] at written
  obtain rfl := Option.some.inj written
  rw [parse_document publishable inverts, if_pos (by decide)] at parsed
  obtain rfl := Except.ok.inj parsed
  have first := shows.activity
  revert first
  decide

end PresenceModel

end Liblinphone
