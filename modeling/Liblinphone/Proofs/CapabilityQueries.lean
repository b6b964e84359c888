import Liblinphone.Library.Run
import Liblinphone.PresenceCapabilities
import Liblinphone.Proofs.PresenceRoundTrip

/-! Queries for capabilities. They return when each version of a capability holds a number, and a
description without a version has none. -/

namespace Liblinphone

open Library PresenceXml

/-- A query that returns. -/
def Returns {α ε : Type} (result : Except ε α) : Prop := ∃ value, result = .ok value

section Results

variable {α β ε : Type}

theorem bind_eq_ok_iff {first : Except ε α} {next : α → Except ε β} {result : β} :
    first >>= next = .ok result ↔ ∃ value, first = .ok value ∧ next value = .ok result := by
  cases first with
  | error failure => exact iff_of_false nofun fun ⟨_, returned, _⟩ => nomatch returned
  | ok value => exact ⟨fun returned => ⟨value, rfl, returned⟩, fun ⟨_, same, returned⟩ => Except.ok.inj same ▸ returned⟩

theorem returns_bind_iff {first : Except ε α} {next : α → Except ε β} :
    Returns (first >>= next) ↔ ∃ value, first = .ok value ∧ Returns (next value) := by
  unfold Returns
  simp only [bind_eq_ok_iff]
  exact ⟨fun ⟨result, value, found, returned⟩ => ⟨value, found, result, returned⟩,
    fun ⟨value, found, result, returned⟩ => ⟨result, value, found, returned⟩⟩

theorem returns_catch_iff {otherwise : α} {result : Except StdException α} :
    Returns (PresenceService.catchOutOfRange otherwise result) ↔ result ≠ .error .invalidArgument := by
  cases result with
  | ok value => exact iff_of_true ⟨value, rfl⟩ nofun
  | error failure =>
    cases failure with
    | invalidArgument => exact iff_of_false (fun ⟨_, returned⟩ => nomatch returned) fun other => other rfl
    | outOfRange => exact iff_of_true ⟨otherwise, rfl⟩ nofun

theorem returns_maxElement {less : α → α → Except ε Bool} {elements : List α} : ∀ {largest : α},
    (∀ first ∈ largest :: elements, ∀ second ∈ largest :: elements, Returns (less first second)) →
      ∃ found ∈ largest :: elements, maxElement less largest elements = .ok found := by
  induction elements with
  | nil => exact fun _ => ⟨_, List.mem_cons_self, rfl⟩
  | cons next rest ih =>
    intro largest each
    obtain ⟨lesser, compared⟩ := each largest (by simp) next (by simp)
    rw [maxElement, compared]
    cases lesser with
    | true =>
      obtain ⟨found, member, result⟩ := @ih next fun first left second right =>
        each first (List.mem_cons_of_mem _ left) second (List.mem_cons_of_mem _ right)
      exact ⟨found, List.mem_cons_of_mem _ member, result⟩
    | false =>
      have within : ∀ other ∈ largest :: rest, other ∈ largest :: next :: rest := by simp; tauto
      obtain ⟨found, member, result⟩ := @ih largest fun first left second right =>
        each first (within first left) second (within second right)
      exact ⟨found, within found member, result⟩

/-- A largest element is only found when each element was compared. -/
theorem maxElement_compared {less : α → α → Except ε Bool} {sound : α → Prop} {elements : List α}
    (compared : ∀ first second answer, less first second = .ok answer → sound first ∧ sound second) : ∀ {largest found : α},
    maxElement less largest elements = .ok found → sound found → ∀ element ∈ largest :: elements, sound element := by
  induction elements with
  | nil =>
    intro largest found result last element member
    cases result
    rwa [List.mem_singleton.mp member]
  | cons next rest ih =>
    intro largest found result last
    obtain ⟨answer, asked, later⟩ := returns_bind_iff.mp ⟨found, result⟩
    obtain ⟨first, second⟩ := compared largest next answer asked
    rw [maxElement, asked] at result
    rw [List.forall_mem_cons, List.forall_mem_cons]
    refine ⟨first, second, fun element member => ?_⟩
    cases answer with
    | true => exact @ih next found result last element (List.mem_cons_of_mem next member)
    | false => exact @ih largest found result last element (List.mem_cons_of_mem largest member)

theorem returns_anyElement {query : α → Except ε Bool} {elements : List α} (each : ∀ element ∈ elements, Returns (query element)) :
    Returns (anyElement query elements) := by
  induction elements with
  | nil => exact ⟨false, rfl⟩
  | cons next rest ih =>
    obtain ⟨answer, asked⟩ := each next List.mem_cons_self
    rw [anyElement, asked]
    cases answer with
    | true => exact ⟨true, rfl⟩
    | false => exact ih fun element member => each element (List.mem_cons_of_mem _ member)

end Results

namespace PresenceService

variable {F : Type} {numbers : FloatNumbers F} {service : PresenceService} {capability : LinphoneFriendCapability}

/-- Each version that is kept of a capability holds a number. -/
def Numeric (service : PresenceService) : Prop :=
  ∀ capability, ∀ version ∈ service.capabilities.lookup (Friend.capabilityToName capability), holdsNumber version.toList = true

theorem readCapability_valid_iff : service.readCapability numbers capability ≠ .error .invalidArgument ↔
    ∀ version ∈ service.capabilities.lookup (Friend.capabilityToName capability), holdsNumber version.toList = true := by
  unfold readCapability capabilityAt
  cases service.capabilities.lookup (Friend.capabilityToName capability) with
  | none => exact iff_of_true nofun nofun
  | some version =>
    change numbers.stof version ≠ _ ↔ _
    rw [Ne, numbers.invalid_iff, Bool.not_eq_false]
    simp

theorem map_valid_iff {α β : Type} {change : α → β} {result : Except StdException α} :
    result.map change ≠ .error .invalidArgument ↔ result ≠ .error .invalidArgument := by
  cases result with
  | ok value => exact iff_of_true nofun nofun
  | error failure => exact not_congr ⟨fun same => congrArg Except.error (Except.error.inj same), fun same => congrArg Except.error (Except.error.inj same)⟩

theorem returns_getCapabilityVersion_iff : Returns (service.getCapabilityVersion numbers capability) ↔
    ∀ version ∈ service.capabilities.lookup (Friend.capabilityToName capability), holdsNumber version.toList = true :=
  returns_catch_iff.trans readCapability_valid_iff

theorem returns_hasCapabilityWithVersion (numeric : Numeric service) (capability : LinphoneFriendCapability) (version : F) :
    Returns (service.hasCapabilityWithVersion numbers capability version) :=
  returns_catch_iff.mpr (map_valid_iff.mpr (readCapability_valid_iff.mpr (numeric capability)))

theorem returns_hasCapabilityWithVersionOrMore (numeric : Numeric service) (capability : LinphoneFriendCapability) (version : F) :
    Returns (service.hasCapabilityWithVersionOrMore numbers capability version) :=
  returns_catch_iff.mpr (map_valid_iff.mpr (readCapability_valid_iff.mpr (numeric capability)))

end PresenceService

namespace PresenceModel

open PresenceService

variable {F : Type} {numbers : FloatNumbers F} {model : PresenceModel}

/-- Every query for a capability returns. -/
structure Answers (numbers : FloatNumbers F) (model : PresenceModel) (capability : LinphoneFriendCapability) : Prop where
  version : Returns (model.getCapabilityVersion numbers capability)
  withVersion : ∀ version, Returns (model.hasCapabilityWithVersion numbers capability version)
  withVersionOrMore : ∀ version, Returns (model.hasCapabilityWithVersionOrMore numbers capability version)

theorem lessCapable_compared {capability : LinphoneFriendCapability} {first second : PresenceService} {answer : Bool}
    (compared : lessCapable numbers capability first second = .ok answer) :
    Returns (first.getCapabilityVersion numbers capability) ∧ Returns (second.getCapabilityVersion numbers capability) := by
  obtain ⟨left, one, later⟩ := returns_bind_iff.mp ⟨answer, compared⟩
  obtain ⟨right, two, -⟩ := returns_bind_iff.mp later
  exact ⟨⟨left, one⟩, ⟨right, two⟩⟩

theorem returns_getCapabilityVersion_iff (capability : LinphoneFriendCapability) :
    Returns (model.getCapabilityVersion numbers capability) ↔
      ∀ service ∈ model.services, Returns (service.getCapabilityVersion numbers capability) := by
  unfold getCapabilityVersion
  cases model.services with
  | nil => exact iff_of_true ⟨numbers.minusOne, rfl⟩ nofun
  | cons first rest =>
    dsimp only
    rw [returns_bind_iff]
    constructor
    · rintro ⟨largest, found, last⟩
      exact maxElement_compared (fun _ _ _ compared => lessCapable_compared compared) found last
    · intro each
      obtain ⟨largest, member, found⟩ := @returns_maxElement _ _ (lessCapable numbers capability) rest first
        fun one left other right => by
          obtain ⟨low, read⟩ := each one left
          obtain ⟨high, again⟩ := each other right
          exact ⟨numbers.less low high, by rw [lessCapable, read, again]; rfl⟩
      exact ⟨largest, found, each largest member⟩

/-- Queries return in every model whose versions hold numbers, and in no other. -/
theorem answers_iff : (∀ capability, Answers numbers model capability) ↔ ∀ service ∈ model.services, Numeric service := by
  constructor
  · intro answers service member capability
    have returned := (returns_getCapabilityVersion_iff capability).mp (answers capability).version service member
    exact PresenceService.returns_getCapabilityVersion_iff.mp returned
  · intro numeric capability
    refine ⟨?_, fun version => ?_, fun version => ?_⟩
    · refine (returns_getCapabilityVersion_iff capability).mpr fun service member => ?_
      exact PresenceService.returns_getCapabilityVersion_iff.mpr (numeric service member capability)
    · exact returns_anyElement fun service member => returns_hasCapabilityWithVersion (numeric service member) capability version
    · exact returns_anyElement fun service member => returns_hasCapabilityWithVersionOrMore (numeric service member) capability version

end PresenceModel

namespace PresenceService

section Versions

variable (service : PresenceService) (wanted : String)

theorem lookup_addCapability (name version : String) : (service.addCapability name version).capabilities.lookup wanted =
    if wanted = name then some version else service.capabilities.lookup wanted := by
  have kept (entries : List (String × String)) (other : wanted ≠ name) :
      (entries.filter fun entry => entry.1 != name).lookup wanted = entries.lookup wanted := by
    induction entries with
    | nil => rfl
    | cons entry rest ih =>
      by_cases same : entry.1 = name
      · rw [List.filter_cons_of_neg (by simp [same]), ih, List.lookup_cons, beq_eq_false_iff_ne.mpr fun equal => other (equal.trans same)]
      · rw [List.filter_cons_of_pos (by simp [same]), List.lookup_cons, List.lookup_cons, ih]
  unfold addCapability
  dsimp only
  rw [List.lookup_cons]
  by_cases same : wanted = name
  · rw [if_pos same, same, beq_self_eq_true]
  · rw [if_neg same, beq_eq_false_iff_ne.mpr same]
    exact kept service.capabilities same

/-- The last version of a name is kept. -/
theorem lookup_addCapabilities (entries : List (String × String)) : ∀ service : PresenceService,
    (entries.foldl (fun service entry => service.addCapability entry.1 entry.2) service).capabilities.lookup wanted =
      (entries.reverse.lookup wanted).or (service.capabilities.lookup wanted) := by
  induction entries with
  | nil => exact fun service => rfl
  | cons entry rest ih =>
    intro service
    rw [List.foldl_cons, ih, lookup_addCapability, List.reverse_cons, List.lookup_append, Option.or_assoc]
    refine congrArg (Option.or _) ?_
    obtain ⟨name, version⟩ := entry
    by_cases same : wanted = name
    · simp [same]
    · simp [same]

theorem described_iff (description : String) : (service.capabilities.any fun entry => entry.1 == description) = true ↔
    (service.capabilities.lookup description).isSome = true := by
  rw [List.lookup_isSome_iff, List.any_eq_true]
  exact exists_congr fun entry => and_congr_right fun _ => by rw [beq_iff_eq, beq_iff_eq, eq_comm]

/-- A description without a version gets an empty one. -/
theorem lookup_setDescriptions (descriptions : List String) :
    (service.setDescriptions descriptions).capabilities.lookup wanted =
      (service.capabilities.lookup wanted).or (if wanted ∈ descriptions then some "" else none) := by
  have fold (descriptions : List String) : ∀ service : PresenceService,
      (descriptions.foldl (fun service description =>
        if service.capabilities.any fun entry => entry.1 == description then service else service.addCapability description "")
        service).capabilities.lookup wanted =
        (service.capabilities.lookup wanted).or (if wanted ∈ descriptions then some "" else none) := by
    induction descriptions with
    | nil => intro service; simp
    | cons description rest ih =>
      intro service
      rw [List.foldl_cons, ih]
      by_cases present : (service.capabilities.any fun entry => entry.1 == description) = true
      · rw [if_pos present]
        by_cases same : wanted = description
        · obtain ⟨version, held⟩ := Option.isSome_iff_exists.mp ((described_iff service description).mp present)
          rw [same, held]
          rfl
        · simp [same]
      · rw [if_neg present, lookup_addCapability]
        by_cases same : wanted = description
        · have missing : service.capabilities.lookup description = none := by
            rwa [← Option.not_isSome_iff_eq_none, ← described_iff]
          simp [same, missing]
        · simp [same]
  exact fold descriptions { service with descriptions }

theorem numeric_setDescriptions_iff (descriptions : List String) : Numeric (service.setDescriptions descriptions) ↔
    Numeric service ∧ ∀ capability, Friend.capabilityToName capability ∈ descriptions →
      (service.capabilities.lookup (Friend.capabilityToName capability)).isSome = true := by
  unfold Numeric
  rw [← forall_and]
  refine forall_congr' fun capability => ?_
  rw [lookup_setDescriptions]
  cases service.capabilities.lookup (Friend.capabilityToName capability) with
  | some version => simp
  | none =>
    have empty : holdsNumber [] = false := rfl
    by_cases described : Friend.capabilityToName capability ∈ descriptions
    · simp [described, empty]
    · simp [described]

end Versions

end PresenceService

namespace PresenceModel

open PresenceService

section Documents

variable {environment : PresenceEnvironment} {model next : PresenceModel}

def basicStatusText (element : List XmlNode) : String :=
  XmlNode.textContent (XmlNode.select (XmlNode.select element ⟨pidf, "status"⟩) ⟨pidf, "basic"⟩)

/-- The last version of each capability that a service is described with holds a number. A service
without a status is not read. -/
def NumericElement (element : List XmlNode) : Prop :=
  basicStatusText element ≠ "" → ∀ capability, ∀ version ∈ (readDescriptions element).reverse.lookup (Friend.capabilityToName capability),
    holdsNumber version.toList = true

/-- Each description has a version before it is set. -/
theorem lookup_described {entries : List (String × String)} {service : PresenceService} {wanted : String}
    (held : service.capabilities.lookup wanted = entries.reverse.lookup wanted) :
    (service.setDescriptions (entries.map Prod.fst)).capabilities.lookup wanted = entries.reverse.lookup wanted := by
  rw [lookup_setDescriptions, held]
  cases found : entries.reverse.lookup wanted with
  | some version => rfl
  | none =>
    have missing : wanted ∉ entries.map Prod.fst := by
      intro member
      obtain ⟨entry, listed, rfl⟩ := List.mem_map.mp member
      have apart := List.lookup_eq_none_iff.mp found entry (List.mem_reverse.mpr listed)
      simp at apart
    rw [if_neg missing]
    rfl

theorem parseService_services {element : List XmlNode} (parsed : parseService environment model element = .ok next) :
    (basicStatusText element = "" ∧ next.services = model.services) ∨
      basicStatusText element ≠ "" ∧ ∃ service : PresenceService, next.services = model.services ++ [service] ∧
        ∀ wanted, service.capabilities.lookup wanted = (readDescriptions element).reverse.lookup wanted := by
  unfold parseService at parsed
  dsimp only at parsed
  split at parsed
  next empty =>
    cases parsed
    exact .inl ⟨empty, rfl⟩
  next filled =>
    split at parsed
    next => cases parsed
    next status _ =>
      cases parsed
      refine .inr ⟨filled, _, rfl, fun wanted => ?_⟩
      have notes (service : PresenceService) : (service.parsePidfXmlPresenceNotes element).capabilities = service.capabilities := by
        rw [PresenceService.parsePidfXmlPresenceNotes, foldl_addNote]
      have contact (service : PresenceService) (text : String) :
          (if text = "" then service else { service with contact := text }).capabilities = service.capabilities := by
        split <;> rfl
      have timed (service : PresenceService) (text : String) :
          (if text = "" then service else { service with timestamp := environment.parseTimestamp text }).capabilities =
            service.capabilities := by
        split <;> rfl
      have added := lookup_addCapabilities wanted (readDescriptions element)
        (create environment (XmlNode.attributeContent element idAttribute) status)
      rw [show (create environment (XmlNode.attributeContent element idAttribute) status).capabilities.lookup wanted = none from rfl,
        Option.or_none] at added
      rw [notes]
      split
      next => rw [contact, timed, added]
      next => exact lookup_described (by rw [contact, timed, added])

theorem parsePersons_services {presence : List XmlNode} (parsed : model.parsePidfXmlPresencePersons environment presence = .ok next) :
    next.services = model.services := by
  obtain ⟨state, folded, last⟩ := bind_eq_ok_iff.mp parsed
  cases last
  refine @foldlM_keeps _ _ _ _ (fun state => state.1.services = model.services) ?_ _ _ _ rfl folded
  intro state element after kept stepped
  obtain ⟨active, -, later⟩ := bind_eq_ok_iff.mp stepped
  obtain ⟨noted, -, last⟩ := bind_eq_ok_iff.mp later
  cases last
  exact kept

theorem parseServices_numeric {elements : List (List XmlNode)} : ∀ {model next : PresenceModel},
    elements.foldlM (parseService environment) model = .ok next →
      ((∀ service ∈ next.services, Numeric service) ↔
        (∀ service ∈ model.services, Numeric service) ∧ ∀ element ∈ elements, NumericElement element) := by
  induction elements with
  | nil =>
    intro model next parsed
    cases parsed
    simp
  | cons element rest ih =>
    intro model next parsed
    rw [List.foldlM_cons] at parsed
    obtain ⟨middle, first, later⟩ := bind_eq_ok_iff.mp parsed
    rw [ih later, List.forall_mem_cons, ← and_assoc]
    refine and_congr_left' ?_
    rcases parseService_services first with ⟨empty, same⟩ | ⟨filled, service, added, versions⟩
    · have skipped : NumericElement element := fun filled => absurd empty filled
      rw [same, and_iff_left skipped]
    · rw [added]
      simp only [List.forall_mem_append, List.forall_mem_singleton]
      refine and_congr_right' ?_
      unfold Numeric NumericElement
      simp only [versions]
      exact ⟨fun numeric _ => numeric, fun numeric => numeric filled⟩

/-- The services of a document. -/
def tuples (document : XmlNode) : List (List XmlNode) :=
  XmlNode.selectEach ([document].filter fun root => root.name = ⟨pidf, "presence"⟩) ⟨pidf, "tuple"⟩

theorem parsePresence_numeric {document : XmlNode} (parsed : parsePidfXmlPresence environment document = .ok model) :
    (∀ service ∈ model.services, Numeric service) ↔ ∀ element ∈ tuples document, NumericElement element := by
  obtain ⟨served, services, later⟩ := bind_eq_ok_iff.mp parsed
  obtain ⟨peopled, persons, last⟩ := bind_eq_ok_iff.mp later
  cases last
  change (∀ service ∈ peopled.services, Numeric service) ↔ _
  rw [parsePersons_services persons, parseServices_numeric services]
  exact and_iff_right nofun

end Documents

/-- Queries return when each version of a capability, as it is received or set, holds a number, and
when no capability is described that has no version yet. -/
theorem capability_queries_return_iff {F : Type} (numbers : FloatNumbers F) (environment : PresenceEnvironment) :
    (∀ document model, parsePidfXmlPresence environment document = .ok model →
      ((∀ capability, Answers numbers model capability) ↔ ∀ element ∈ tuples document, NumericElement element)) ∧
    ∀ (model : PresenceModel) (described : List (PresenceService × List String)),
      model.services = described.map (fun entry => entry.1.setDescriptions entry.2) →
      ((∀ capability, Answers numbers model capability) ↔ ∀ entry ∈ described, Numeric entry.1 ∧
        ∀ capability, Friend.capabilityToName capability ∈ entry.2 →
          (entry.1.capabilities.lookup (Friend.capabilityToName capability)).isSome = true) := by
  refine ⟨fun document model parsed => answers_iff.trans (parsePresence_numeric parsed), fun model described services => ?_⟩
  rw [answers_iff, services, List.forall_mem_map]
  exact forall₂_congr fun entry _ => numeric_setDescriptions_iff entry.1 entry.2

section Groupchat

/-- Numbers without a fraction. -/
def wholeNumbers : FloatNumbers Int where
  stof text := if holdsNumber text.toList then .ok ((Utils.strtol text.toList).getD 0) else .error .invalidArgument
  minusOne := -1
  less first second := first < second
  lessOrEqual first second := first ≤ second
  within first second := first = second
  invalid_iff text := by
    split
    next number => exact iff_of_false nofun (by simp [number])
    next none => exact iff_of_true rfl (by simpa using none)

def groupchatElement (versions : List XmlNode) : XmlNode :=
  .element ⟨pidf, "presence"⟩ [] ""
    [.element ⟨pidf, "tuple"⟩ [] ""
      [.element ⟨pidf, "status"⟩ [] "" [.element ⟨pidf, "basic"⟩ [] "open" []],
        .element ⟨omaPres, "service-description"⟩ [] "" (.element ⟨omaPres, "service-id"⟩ [] "groupchat" [] :: versions)]]

theorem version_one_answers : ∃ model,
    parsePidfXmlPresence twoSeconds (groupchatElement [.element ⟨omaPres, "version"⟩ [] "1" []]) = .ok model ∧
      ∀ capability, Answers wholeNumbers model capability := by
  refine ⟨_, rfl, ?_⟩
  refine ((capability_queries_return_iff wholeNumbers twoSeconds).1
    (groupchatElement [.element ⟨omaPres, "version"⟩ [] "1" []]) _ rfl).mpr ?_
  intro element member _ capability version found
  cases List.mem_singleton.mp member
  cases capability with
  | groupChat =>
    cases found
    rfl
  | none => cases found
  | limeX3dh => cases found
  | ephemeralMessages => cases found

theorem version_missing_throws : ∃ model, parsePidfXmlPresence twoSeconds (groupchatElement []) = .ok model ∧
    model.getCapabilityVersion wholeNumbers .groupChat = .error .invalidArgument :=
  ⟨_, rfl, rfl⟩

end Groupchat

end PresenceModel

end Liblinphone
