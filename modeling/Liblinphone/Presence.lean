import Liblinphone.Address
import Liblinphone.Library.Ordered
import Liblinphone.Library.Xml
import Mathlib.Algebra.Order.Ring.Int

/-! The presence of a user: its services, its persons with their activities, and notes
of all of them. A presence is published as a document, which a watcher reads. Documents
are trees here, since reading and writing their text is left to another library. -/

namespace Liblinphone

open Library

inductive PresenceBasicStatus where
  | opened
  | closed
deriving Repr, DecidableEq

inductive ConsolidatedPresence where
  | online
  | busy
  | doNotDisturb
  | offline
deriving Repr, DecidableEq

inductive PresenceActivityType where
  | appointment | away | breakfast | busy | dinner | holiday | inTransit | lookingForWork | lunch | meal | meeting
  | onThePhone | other | performance | permanentAbsence | playing | presentation | shopping | sleeping | spectator
  | steering | travel | tv | unknown | vacation | working | worship
deriving Repr, DecidableEq

structure PresenceNote where
  content : String
  lang : String := ""
deriving Repr, DecidableEq

structure PresenceActivity where
  type : PresenceActivityType
  description : String := ""
deriving Repr, DecidableEq

structure PresencePerson where
  id : String
  timestamp : Int
  activities : List PresenceActivity := []
  activitiesNotes : List PresenceNote := []
  notes : List PresenceNote := []
deriving Repr, DecidableEq

structure PresenceService where
  id : String
  status : PresenceBasicStatus
  contact : String := ""
  timestamp : Int
  descriptions : List String := []
  capabilities : List (String × String) := []
  notes : List PresenceNote := []
deriving Repr, DecidableEq

theorem PresencePerson.ordered_nil :
    ([] : List PresencePerson).Pairwise fun first later => first.timestamp ≤ later.timestamp := .nil

/-- Persons are kept in the order of their timestamps, which never change. -/
structure PresenceModel where
  presentity : Option Address := none
  online : Bool := false
  services : List PresenceService := []
  persons : List PresencePerson := []
  notes : List PresenceNote := []
  ordered : persons.Pairwise fun first later => first.timestamp ≤ later.timestamp := by first | exact PresencePerson.ordered_nil | simp

/-- What a presence asks of others: the time, fresh identifiers, and the texts of
timestamps and addresses. -/
structure PresenceEnvironment where
  now : Int
  generatePresenceId : String
  timestampToString : Int → String
  parseTimestamp : String → Int
  asStringUriOnly : Address → String

/-- Why no presence is read: the document is refused, or what happens is not defined. -/
inductive PresenceFailure where
  | refused
  | undefinedBehaviour
deriving Repr, DecidableEq

namespace PresenceXml

def pidf : String := "urn:ietf:params:xml:ns:pidf"
def dm : String := "urn:ietf:params:xml:ns:pidf:data-model"
def rpid : String := "urn:ietf:params:xml:ns:pidf:rpid"
def pidfonline : String := "http://www.linphone.org/xsds/pidfonline.xsd"
def omaPres : String := "urn:oma:xml:prs:pidf:oma-pres"

def lang : XmlName := ⟨"http://www.w3.org/XML/1998/namespace", "lang"⟩
def idAttribute : XmlName := ⟨"", "id"⟩

end PresenceXml

open PresenceXml

namespace PresenceNote

def toXml (note : PresenceNote) (space : String) : XmlNode :=
  .element ⟨space, "note"⟩ (if note.lang = "" then [] else [(PresenceXml.lang, note.lang)]) note.content []

/-- A note is read from what a path with a place selects. Notes without content are skipped. -/
def read (selected : List XmlNode) : Option PresenceNote :=
  let noteStr := XmlNode.textContent selected
  if noteStr = "" then none else some ⟨noteStr, XmlNode.attributeContent selected PresenceXml.lang⟩

def readAll (parents : List XmlNode) (space : String) : List PresenceNote :=
  (XmlNode.selectEach parents ⟨space, "note"⟩).filterMap read

end PresenceNote

namespace PresenceActivity

def presenceActivityNameMap : List (String × PresenceActivityType) :=
  [("appointment", .appointment), ("away", .away), ("breakfast", .breakfast), ("busy", .busy), ("dinner", .dinner),
    ("holiday", .holiday), ("in-transit", .inTransit), ("looking-for-work", .lookingForWork), ("lunch", .lunch),
    ("meal", .meal), ("meeting", .meeting), ("on-the-phone", .onThePhone), ("other", .other),
    ("performance", .performance), ("permanent-absence", .permanentAbsence), ("playing", .playing),
    ("presentation", .presentation), ("shopping", .shopping), ("sleeping", .sleeping), ("spectator", .spectator),
    ("steering", .steering), ("travel", .travel), ("tv", .tv), ("unknown", .unknown), ("vacation", .vacation),
    ("working", .working), ("worship", .worship)]

def activityNameToType (name : String) : Option PresenceActivityType :=
  (presenceActivityNameMap.find? fun entry => entry.1 == name).map Prod.snd

def activityTypeToName (type : PresenceActivityType) : String :=
  ((presenceActivityNameMap.find? fun entry => entry.2 == type).map Prod.fst).getD ""

def isValidActivityName (name : String) : Bool := presenceActivityNameMap.any fun entry => entry.1 == name

def toXml (activity : PresenceActivity) : XmlNode :=
  .element ⟨rpid, activityTypeToName activity.type⟩ [] activity.description []

end PresenceActivity

def timestampToXml (environment : PresenceEnvironment) (timestamp : Int) (space : String) : XmlNode :=
  .element ⟨space, "timestamp"⟩ [] (environment.timestampToString timestamp) []

namespace PresencePerson

variable (environment : PresenceEnvironment)

def create (id : String) (timestamp : Int) : PresencePerson :=
  { id := if id = "" then environment.generatePresenceId else id, timestamp }

/-- The most recent activity comes first. -/
def addActivity (person : PresencePerson) (activity : PresenceActivity) : PresencePerson :=
  { person with activities := activity :: person.activities }

/-- The note is inserted into the notes at a place of the activities' notes, and a place
of another vector is not one to insert at. -/
def addActivitiesNote (_ : PresencePerson) (_ : PresenceNote) : Except PresenceFailure PresencePerson :=
  .error .undefinedBehaviour

def addNote (person : PresencePerson) (note : PresenceNote) : PresencePerson := { person with notes := note :: person.notes }

def parseActivity (person : PresencePerson) (node : XmlNode) : Except PresenceFailure PresencePerson :=
  if PresenceActivity.isValidActivityName node.name.name then
    match PresenceActivity.activityNameToType node.name.name with
    | some type => .ok (person.addActivity ⟨type, node.content⟩)
    | none => .error .refused
  else .ok person

def parsePidfXmlPresenceActivities (element : List XmlNode) (person : PresencePerson) :
    Except PresenceFailure PresencePerson :=
  (XmlNode.selectEach element ⟨rpid, "activities"⟩).foldlM
    (fun person activities => (XmlNode.selectSpace activities rpid).foldlM parseActivity person) person

def parsePidfXmlPresenceNotes (element : List XmlNode) (person : PresencePerson) : Except PresenceFailure PresencePerson := do
  let person ← (PresenceNote.readAll (XmlNode.select element ⟨rpid, "activities"⟩) rpid).foldlM addActivitiesNote person
  return (PresenceNote.readAll element dm).foldl addNote person

def toXml (person : PresencePerson) : XmlNode :=
  let activities :=
    if person.activitiesNotes.isEmpty && person.activities.isEmpty then []
    else
      [.element ⟨rpid, "activities"⟩ [] ""
        (person.activitiesNotes.map (fun note => note.toXml rpid) ++ person.activities.map PresenceActivity.toXml)]
  .element ⟨dm, "person"⟩ [(idAttribute, if person.id = "" then environment.generatePresenceId else person.id)] ""
    (activities ++ person.notes.map (fun note => note.toXml dm) ++ [timestampToXml environment person.timestamp dm])

end PresencePerson

namespace PresenceService

variable (environment : PresenceEnvironment)

def create (id : String) (status : PresenceBasicStatus) : PresenceService :=
  { id := if id = "" then environment.generatePresenceId else id, status, timestamp := environment.now }

def addNote (service : PresenceService) (note : PresenceNote) : PresenceService :=
  { service with notes := note :: service.notes }

def addCapability (service : PresenceService) (name version : String) : PresenceService :=
  { service with capabilities := (name, version) :: service.capabilities.filter fun entry => entry.1 != name }

def setDescriptions (service : PresenceService) (descriptions : List String) : PresenceService :=
  descriptions.foldl (fun service description =>
    if service.capabilities.any fun entry => entry.1 == description then service else service.addCapability description "")
    { service with descriptions }

def parsePidfXmlPresenceNotes (element : List XmlNode) (service : PresenceService) : PresenceService :=
  (PresenceNote.readAll element pidf).foldl addNote service

/-- The descriptions of a service, with the version of each. -/
def readDescriptions (element : List XmlNode) : List (String × String) :=
  (XmlNode.select element ⟨omaPres, "service-description"⟩).filterMap fun node =>
    let serviceId := XmlNode.textContent (XmlNode.select [node] ⟨omaPres, "service-id"⟩)
    if serviceId = "" then none else some (serviceId, XmlNode.textContent (XmlNode.select [node] ⟨omaPres, "version"⟩))

def basicStatusToString : PresenceBasicStatus → String
  | .opened => "open"
  | .closed => "closed"

/-- Without a service, one that is closed is written. -/
def toXml (service : Option PresenceService) (defaultContact : String) (isOnline : Bool) : XmlNode :=
  let id := (service.map PresenceService.id).getD ""
  let contact := (service.map PresenceService.contact).getD ""
  .element ⟨pidf, "tuple"⟩ [(idAttribute, if id = "" then environment.generatePresenceId else id)] ""
    ([.element ⟨pidf, "status"⟩ [] ""
        (.element ⟨pidf, "basic"⟩ [] (basicStatusToString ((service.map PresenceService.status).getD .closed)) [] ::
          if isOnline then [.element ⟨pidfonline, "online"⟩ [] "" []] else []),
      .element ⟨pidf, "contact"⟩ [(⟨"", "priority"⟩, "0.8")] (if contact = "" then defaultContact else contact) []] ++
      ((service.map PresenceService.notes).getD []).map (fun note => note.toXml pidf) ++
      [timestampToXml environment ((service.map PresenceService.timestamp).getD environment.now) pidf])

end PresenceService

namespace PresenceModel

variable (environment : PresenceEnvironment) (model : PresenceModel)

/-- A person goes before those with its timestamp. -/
def addPerson (person : PresencePerson) : PresenceModel :=
  { model with
    persons := model.persons.orderedInsert (fun first later => first.timestamp ≤ later.timestamp) person
    ordered := orderedInsert_ordered person model.ordered }

def addService (service : PresenceService) : PresenceModel := { model with services := model.services ++ [service] }

/-- A model is open when one of its services is. -/
def getBasicStatus : PresenceBasicStatus :=
  if model.services.any fun service => service.status == .opened then .opened else .closed

def getNbActivities : Nat := (model.persons.map fun person => person.activities.length).sum

def isOnline : Bool := model.online || (model.getBasicStatus == .opened && model.getNbActivities == 0)

def getConsolidatedPresence : ConsolidatedPresence :=
  if model.isOnline then .online
  else if model.getBasicStatus == .closed then if model.getNbActivities == 0 then .offline else .doNotDisturb
  else .busy

def nthActivity : List PresencePerson → Nat → Option PresenceActivity
  | [], _ => none
  | person :: rest, index =>
    if person.activities.length > index then person.activities[index]?
    else nthActivity rest (index - person.activities.length)

def getActivity : Option PresenceActivity := nthActivity model.persons 0

def noteWithLang (notes : List PresenceNote) (lang : String) : Option PresenceNote :=
  notes.find? fun note => note.lang == lang

def findNoteWithLang (lang : String) : Option PresenceNote :=
  (model.persons.findSome? fun person =>
    (noteWithLang person.activitiesNotes lang).or (noteWithLang person.notes lang)).or
    ((model.services.findSome? fun service => noteWithLang service.notes lang).or (noteWithLang model.notes lang))

/-- A note of the language, else one without a language, else any note. -/
def getNote (lang : String) : Option PresenceNote :=
  (model.findNoteWithLang lang).or ((model.findNoteWithLang "").or
    ((model.persons.findSome? fun person => person.activitiesNotes.head?.or person.notes.head?).or
      ((model.services.findSome? fun service => service.notes.head?).or model.notes.head?)))

def parsePidfXmlPresenceNotes (presence : List XmlNode) : PresenceModel :=
  { model with notes := model.notes ++ PresenceNote.readAll presence pidf }

/-- A person without a timestamp has that of the person before it. -/
def parsePerson (state : PresenceModel × Int) (element : List XmlNode) : Except PresenceFailure (PresenceModel × Int) := do
  let personTimestampStr := XmlNode.textContent (XmlNode.select element ⟨dm, "timestamp"⟩)
  let timestamp := if personTimestampStr = "" then state.2 else environment.parseTimestamp personTimestampStr
  let person := PresencePerson.create environment (XmlNode.attributeContent element idAttribute) timestamp
  let person ← person.parsePidfXmlPresenceActivities element
  let person ← person.parsePidfXmlPresenceNotes element
  return (state.1.addPerson person, timestamp)

def parsePidfXmlPresencePersons (presence : List XmlNode) : Except PresenceFailure PresenceModel := do
  let state ← (XmlNode.selectEach presence ⟨dm, "person"⟩).foldlM (parsePerson environment) (model, -1)
  return state.1

def basicStatusOfString (text : String) : Option PresenceBasicStatus :=
  if text = "open" then some .opened else if text = "closed" then some .closed else none

def parseService (model : PresenceModel) (element : List XmlNode) : Except PresenceFailure PresenceModel :=
  let status := XmlNode.select element ⟨pidf, "status"⟩
  let basicStatusStr := XmlNode.textContent (XmlNode.select status ⟨pidf, "basic"⟩)
  if basicStatusStr = "" then .ok model
  else
    match basicStatusOfString basicStatusStr with
    | none => .error .refused
    | some basicStatus =>
      let model := { model with online := model.online || !(XmlNode.select status ⟨pidfonline, "online"⟩).isEmpty }
      let timestampStr := XmlNode.textContent (XmlNode.select element ⟨pidf, "timestamp"⟩)
      let contactStr := XmlNode.textContent (XmlNode.select element ⟨pidf, "contact"⟩)
      let service := PresenceService.create environment (XmlNode.attributeContent element idAttribute) basicStatus
      let descriptions := PresenceService.readDescriptions element
      let service := descriptions.foldl (fun service entry => service.addCapability entry.1 entry.2) service
      let service :=
        if timestampStr = "" then service else { service with timestamp := environment.parseTimestamp timestampStr }
      let service := if contactStr = "" then service else { service with contact := contactStr }
      let service := if descriptions.isEmpty then service else service.setDescriptions (descriptions.map Prod.fst)
      .ok (model.addService (service.parsePidfXmlPresenceNotes element))

def parsePidfXmlPresenceServices (presence : List XmlNode) : Except PresenceFailure PresenceModel :=
  (XmlNode.selectEach presence ⟨pidf, "tuple"⟩).foldlM (parseService environment) model

def parsePidfXmlPresence (document : XmlNode) : Except PresenceFailure PresenceModel := do
  let presence := [document].filter fun root => root.name = ⟨pidf, "presence"⟩
  let model ← parsePidfXmlPresenceServices environment {} presence
  let model ← model.parsePidfXmlPresencePersons environment presence
  return model.parsePidfXmlPresenceNotes presence

/-- A model without a presentity is not written. -/
def toXml : Option XmlNode :=
  model.presentity.map fun presentity =>
    let contact := environment.asStringUriOnly presentity
    let services :=
      if model.services.isEmpty then [PresenceService.toXml environment none contact false]
      else model.services.map fun service => PresenceService.toXml environment (some service) contact model.isOnline
    .element ⟨pidf, "presence"⟩ [(⟨"", "entity"⟩, contact)] ""
      (services ++ model.persons.map (PresencePerson.toXml environment) ++ model.notes.map (fun note => note.toXml pidf))

end PresenceModel

end Liblinphone
