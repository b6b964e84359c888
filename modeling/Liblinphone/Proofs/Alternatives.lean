import Liblinphone.CapabilityNegotiation

/-! Whether the alternatives of a potential configuration are read one by one. The flag
for mandatory capabilities lives across all of them, and an alternative that is left at
an index that is not available can leave it behind as optional. -/

namespace Liblinphone

namespace PotentialCfgGraph

section Definitions

variable (availableCaps : List SdpCapability)

/-- The capability that an element names. -/
def elementCap (element : Text) : Option SdpCapability :=
  match getElementIdx element with
  | .ok idx => availableCaps.find? fun cap => cap.index == idx
  | .error _ => none

/-- Of an alternative the elements are read up to the first one that is not available. -/
def readElements : List Text → List Text
  | [] => []
  | element :: rest => if (elementCap availableCaps element).isSome then element :: readElements rest else [element]

/-- All the indexes that are read are numbers that fit. -/
def Readable (config : Text) : Prop :=
  ∀ element ∈ readElements availableCaps (config.splitOn ','), ∃ idx, getElementIdx element = .ok idx

/-- What the brackets of an element leave behind: mandatory after a closing one, if the
element is available, and otherwise optional after an opening one. -/
def bracket (element : Text) : Option Bool :=
  if element.contains ']' && (elementCap availableCaps element).isSome then some true
  else if element.contains '[' then some false
  else none

/-- The brackets that are read in an alternative. -/
def brackets (config : Text) : List Bool :=
  (readElements availableCaps (config.splitOn ',')).filterMap (bracket availableCaps)

/-- All the capabilities of an alternative are available. -/
def survives (config : Text) : Bool := (config.splitOn ',').all fun element => (elementCap availableCaps element).isSome

/-- After the alternative the flag before it does not matter, or it is needed for it. -/
def decides (config : Text) : Bool := survives availableCaps config || !(brackets availableCaps config).isEmpty

/-- The last bracket that is read opens an optional part. -/
def LeavesOpen (idxList : Text) : Prop :=
  ((idxList.splitOn '|').flatMap (brackets availableCaps)).getLast? = some false

/-- The first alternative that is kept or that has brackets is kept, and does not begin with an opening one. -/
def Sensitive (idxList : Text) : Prop :=
  ∃ config, (idxList.splitOn '|').find? (decides availableCaps) = some config ∧ survives availableCaps config = true ∧
    ((config.splitOn ',').headD []).contains '[' = false

/-- The capabilities of an alternative, each with its flag. -/
def markedCaps (mandatory : Bool) : List Text → List ConfigCapability
  | [] => []
  | element :: rest =>
    match elementCap availableCaps element with
    | none => []
    | some cap =>
      ⟨mandatory && !element.contains '[', cap⟩ :: markedCaps ((bracket availableCaps element).getD mandatory) rest

/-- The alternatives that are kept. -/
def keptSets (mandatory : Bool) : List Text → List (List ConfigCapability)
  | [] => []
  | config :: rest =>
    (if survives availableCaps config then [markedCaps availableCaps mandatory (config.splitOn ',')] else []) ++
      keptSets ((brackets availableCaps config).getLast?.getD mandatory) rest

end Definitions

variable {availableCaps : List SdpCapability}

theorem getLast?_append_flags (first second : List Bool) (mandatory : Bool) :
    ((first ++ second).getLast?).getD mandatory = second.getLast?.getD (first.getLast?.getD mandatory) := by
  rw [List.getLast?_append, Option.getD_or]

theorem getLast?_flags (flag : Option Bool) (flags : List Bool) (mandatory : Bool) :
    ((flag.toList ++ flags).getLast?).getD mandatory = flags.getLast?.getD (flag.getD mandatory) := by
  rw [getLast?_append_flags]
  cases flag with
  | none => rfl
  | some flag => rfl

theorem filterMap_cons_toList {Element Value : Type} (read : Element → Option Value) (first : Element) (rest : List Element) :
    (first :: rest).filterMap read = (read first).toList ++ rest.filterMap read := by
  rw [List.filterMap_cons]
  cases read first with
  | none => rfl
  | some value => rfl

section Elements

variable {element : Text} {idx : UInt32} (number : getElementIdx element = .ok idx)
include number

theorem elementCap_eq : elementCap availableCaps element = availableCaps.find? fun cap => cap.index == idx := by
  rw [elementCap, number]

/-- What an element that is available leaves behind. -/
theorem bracket_available {cap : SdpCapability} (found : availableCaps.find? (fun cap => cap.index == idx) = some cap)
    (mandatory : Bool) :
    (bracket availableCaps element).getD mandatory = (mandatory && !element.contains '[' || element.contains ']') := by
  rw [bracket, elementCap_eq number, found]
  cases element.contains ']' with
  | true => simp
  | false =>
    cases element.contains '[' with
    | true => simp
    | false => simp

/-- What an element that is not available leaves behind. -/
theorem bracket_unavailable (missing : availableCaps.find? (fun cap => cap.index == idx) = none) (mandatory : Bool) :
    (bracket availableCaps element).getD mandatory = (mandatory && !element.contains '[') := by
  rw [bracket, elementCap_eq number, missing]
  cases element.contains '[' with
  | true => simp
  | false => simp

end Elements

/-- An alternative whose indexes can be read. -/
theorem parseCaps_eq (mandatory : Bool) (caps : List ConfigCapability) (elements : List Text)
    (readable : ∀ element ∈ readElements availableCaps elements, ∃ idx, getElementIdx element = .ok idx) :
    parseCaps availableCaps { caps, mandatory } elements = .ok {
      caps := if elements.all fun element => (elementCap availableCaps element).isSome then
        caps ++ markedCaps availableCaps mandatory elements else []
      mandatory := ((readElements availableCaps elements).filterMap (bracket availableCaps)).getLast?.getD mandatory
      success := elements.all fun element => (elementCap availableCaps element).isSome } := by
  induction elements generalizing mandatory caps with
  | nil => simp [parseCaps, markedCaps, readElements]
  | cons element rest following =>
    have first : element ∈ readElements availableCaps (element :: rest) := by
      rw [readElements]
      split
      · exact List.mem_cons_self
      · exact List.mem_singleton_self element
    obtain ⟨idx, number⟩ := readable element first
    have named := @elementCap_eq availableCaps element idx number
    cases found : availableCaps.find? fun cap => cap.index == idx with
    | none =>
      rw [found] at named
      have left := @bracket_unavailable availableCaps element idx number found mandatory
      have read : readElements availableCaps (element :: rest) = [element] := by rw [readElements, named]; rfl
      have gone : ((element :: rest).all fun element => (elementCap availableCaps element).isSome) = false := by
        rw [List.all_cons, named]
        rfl
      have last := getLast?_flags (bracket availableCaps element) [] mandatory
      rw [List.append_nil] at last
      rw [gone, read, filterMap_cons_toList, List.filterMap_nil, List.append_nil, last, List.getLast?_nil, Option.getD_none, left,
        parseCaps, number]
      simp only [bind, Except.bind, found]
      rfl
    | some cap =>
      rw [found] at named
      have left := @bracket_available availableCaps element idx number cap found mandatory
      have later : ∀ other ∈ readElements availableCaps rest, ∃ idx, getElementIdx other = .ok idx := by
        intro other member
        apply readable other
        rw [readElements, named, Option.isSome_some, if_pos rfl]
        exact List.mem_cons_of_mem _ member
      have read : readElements availableCaps (element :: rest) = element :: readElements availableCaps rest := by
        rw [readElements, named]
        rfl
      have others : ((element :: rest).all fun element => (elementCap availableCaps element).isSome) =
          rest.all fun element => (elementCap availableCaps element).isSome := by
        rw [List.all_cons, named]
        rfl
      have marked : markedCaps availableCaps mandatory (element :: rest) =
          ⟨mandatory && !element.contains '[', cap⟩ ::
            markedCaps availableCaps ((bracket availableCaps element).getD mandatory) rest := by
        rw [markedCaps, named]
      rw [others, read, filterMap_cons_toList, getLast?_flags, marked, parseCaps, number]
      simp only [bind, Except.bind, found]
      rw [following _ _ later, left, List.append_assoc, List.singleton_append]

/-- An alternative that cannot be read fails whatever was read before it. -/
theorem parseCaps_error (elements : List Text)
    (unreadable : ¬∀ element ∈ readElements availableCaps elements, ∃ idx, getElementIdx element = .ok idx) :
    ∃ failure, ∀ state, parseCaps availableCaps state elements = .error failure := by
  induction elements with
  | nil => exact absurd (fun _ member => by cases member) unreadable
  | cons element rest following =>
    cases number : getElementIdx element with
    | error failure =>
      refine ⟨failure, ?_⟩
      intro state
      rw [parseCaps, number]
      rfl
    | ok idx =>
      have named := @elementCap_eq availableCaps element idx number
      cases found : availableCaps.find? fun cap => cap.index == idx with
      | none =>
        rw [found] at named
        refine absurd ?_ unreadable
        intro other member
        rw [readElements, named, Option.isSome_none, if_neg Bool.false_ne_true, List.mem_singleton] at member
        exact ⟨idx, by rw [member, number]⟩
      | some cap =>
        rw [found] at named
        have later : ¬∀ other ∈ readElements availableCaps rest, ∃ idx, getElementIdx other = .ok idx := by
          intro readable
          apply unreadable
          intro other member
          rw [readElements, named, Option.isSome_some, if_pos rfl] at member
          rcases List.mem_cons.mp member with rfl | after
          · exact ⟨idx, number⟩
          · exact readable other after
        obtain ⟨failure, fails⟩ := following later
        refine ⟨failure, ?_⟩
        intro state
        rw [parseCaps, number]
        simp only [bind, Except.bind, found]
        exact fails _

theorem markedCaps_ne_nil {elements : List Text} (filled : elements ≠ [])
    (available : (elements.all fun element => (elementCap availableCaps element).isSome) = true) (mandatory : Bool) :
    markedCaps availableCaps mandatory elements ≠ [] := by
  obtain ⟨element, rest, rfl⟩ := List.exists_cons_of_ne_nil filled
  rw [List.all_cons, Bool.and_eq_true, Option.isSome_iff_exists] at available
  obtain ⟨⟨cap, named⟩, -⟩ := available
  rw [markedCaps, named]
  exact List.cons_ne_nil _ _

theorem parseConfig_eq (mandatory : Bool) {config : Text} (readable : Readable availableCaps config) :
    parseCaps availableCaps { mandatory } (config.splitOn ',') = .ok {
      caps := if survives availableCaps config then markedCaps availableCaps mandatory (config.splitOn ',') else []
      mandatory := (brackets availableCaps config).getLast?.getD mandatory
      success := survives availableCaps config } :=
  parseCaps_eq mandatory [] (config.splitOn ',') readable

/-- Alternatives whose indexes can be read. -/
theorem parseSets_eq (state : CapState (List ConfigCapability)) (configs : List Text)
    (readable : ∀ config ∈ configs, Readable availableCaps config) :
    parseSets availableCaps state configs = .ok {
      caps := state.caps ++ keptSets availableCaps state.mandatory configs
      mandatory := (configs.flatMap (brackets availableCaps)).getLast?.getD state.mandatory
      success := state.success && configs.all (survives availableCaps) } := by
  induction configs generalizing state with
  | nil => simp [parseSets, keptSets]
  | cons config rest following =>
    have later := fun state => following state fun other member => readable other (List.mem_cons_of_mem _ member)
    rw [parseSets, parseConfig_eq state.mandatory (readable config List.mem_cons_self)]
    simp only [bind, Except.bind]
    rw [later, List.flatMap_cons, getLast?_append_flags, List.all_cons, Bool.and_assoc, keptSets]
    cases available : survives availableCaps config with
    | false => simp
    | true =>
      have some := markedCaps_ne_nil (List.splitOn_ne_nil ',' config) available state.mandatory
      simp [some]

/-- Alternatives of which one cannot be read fail whatever was read before them. -/
theorem parseSets_error (configs : List Text) (unreadable : ¬∀ config ∈ configs, Readable availableCaps config) :
    ∃ failure, ∀ state, parseSets availableCaps state configs = .error failure := by
  induction configs with
  | nil => exact absurd (fun _ member => by cases member) unreadable
  | cons config rest following =>
    by_cases readable : Readable availableCaps config
    · have later : ¬∀ other ∈ rest, Readable availableCaps other := by
        intro all
        apply unreadable
        intro other member
        rcases List.mem_cons.mp member with rfl | after
        · exact readable
        · exact all other after
      obtain ⟨failure, fails⟩ := following later
      refine ⟨failure, ?_⟩
      intro state
      rw [parseSets, parseConfig_eq state.mandatory readable]
      simp only [bind, Except.bind]
      exact fails _
    · obtain ⟨failure, fails⟩ := parseCaps_error (config.splitOn ',') readable
      refine ⟨failure, ?_⟩
      intro state
      rw [parseSets, fails]
      rfl

theorem parseSets_append (state : CapState (List ConfigCapability)) (first second : List Text) :
    parseSets availableCaps state (first ++ second) =
      (parseSets availableCaps state first >>= fun middle => parseSets availableCaps middle second) := by
  induction first generalizing state with
  | nil => rfl
  | cons config rest following =>
    rw [List.cons_append, parseSets, parseSets]
    cases parseCaps availableCaps { mandatory := state.mandatory } (config.splitOn ',') with
    | error failure => rfl
    | ok parsed => exact following _

/-- All the alternatives of a list can be read. -/
def ReadableList (availableCaps : List SdpCapability) (idxList : Text) : Prop :=
  ∀ config ∈ idxList.splitOn '|', Readable availableCaps config

/-- What the alternatives of two lists would be, each of them read by itself. -/
def parseSeparately (availableCaps : List SdpCapability) (first second : Text) :
    Except IndexError (List (List ConfigCapability) × Bool) := do
  let left ← parseIdxList availableCaps first
  let right ← parseIdxList availableCaps second
  return (left.1 ++ right.1, left.2 && right.2)

theorem parseIdxList_eq {idxList : Text} (readable : ReadableList availableCaps idxList) :
    parseIdxList availableCaps idxList =
      .ok (keptSets availableCaps true (idxList.splitOn '|'), (idxList.splitOn '|').all (survives availableCaps)) := by
  rw [parseIdxList, parseSets_eq _ _ readable]
  rfl

/-- The flag of the first list goes on into the second one. -/
theorem keptSets_append (mandatory : Bool) (first second : List Text) :
    keptSets availableCaps mandatory (first ++ second) = keptSets availableCaps mandatory first ++
      keptSets availableCaps ((first.flatMap (brackets availableCaps)).getLast?.getD mandatory) second := by
  induction first generalizing mandatory with
  | nil => rfl
  | cons config rest following =>
    rw [List.cons_append, keptSets, following, keptSets, List.flatMap_cons, getLast?_append_flags, List.append_assoc]

section Flags

variable {config : Text} (available : survives availableCaps config = true)
include available

/-- The first element of an alternative that is kept. -/
theorem survives_first : ∃ element rest cap, config.splitOn ',' = element :: rest ∧
    elementCap availableCaps element = some cap := by
  obtain ⟨element, rest, parts⟩ := List.exists_cons_of_ne_nil (List.splitOn_ne_nil ',' config)
  rw [survives, parts, List.all_cons, Bool.and_eq_true, Option.isSome_iff_exists] at available
  obtain ⟨⟨cap, named⟩, -⟩ := available
  exact ⟨element, rest, cap, parts, named⟩

/-- Its capabilities do not depend on what was before exactly when it begins with an opening bracket. -/
theorem markedCaps_eq_iff :
    markedCaps availableCaps false (config.splitOn ',') = markedCaps availableCaps true (config.splitOn ',') ↔
      ((config.splitOn ',').headD []).contains '[' = true := by
  obtain ⟨element, rest, cap, parts, named⟩ := survives_first available
  rw [parts, List.headD_cons, markedCaps, markedCaps, named]
  cases opened : element.contains '[' with
  | false => simp
  | true =>
    have fixed : ∃ flag, bracket availableCaps element = some flag := by
      rw [bracket, opened]
      split
      · exact ⟨true, rfl⟩
      · exact ⟨false, rfl⟩
    obtain ⟨flag, set⟩ := fixed
    simp [set]

theorem brackets_ne_nil_of_opened (opened : ((config.splitOn ',').headD []).contains '[' = true) :
    brackets availableCaps config ≠ [] := by
  obtain ⟨element, rest, cap, parts, named⟩ := survives_first available
  rw [parts, List.headD_cons] at opened
  rw [brackets, parts, readElements, named, Option.isSome_some, if_pos rfl, filterMap_cons_toList, bracket, opened]
  split
  · simp
  · simp

end Flags

theorem getLast?_getD_of_ne_nil {flags : List Bool} (filled : flags ≠ []) (left right : Bool) :
    flags.getLast?.getD left = flags.getLast?.getD right := by
  rw [List.getLast?_eq_some_getLast filled]
  rfl

/-- Whether the flag before them matters for the alternatives that are kept. -/
theorem keptSets_eq_iff (configs : List Text) :
    keptSets availableCaps false configs = keptSets availableCaps true configs ↔
      ¬∃ config, configs.find? (decides availableCaps) = some config ∧ survives availableCaps config = true ∧
        ((config.splitOn ',').headD []).contains '[' = false := by
  induction configs with
  | nil => simp [keptSets]
  | cons config rest following =>
    by_cases available : survives availableCaps config = true
    · have found : (config :: rest).find? (decides availableCaps) = some config :=
        List.find?_cons_of_pos (by rw [decides, available, Bool.true_or])
      rw [keptSets, keptSets, if_pos available, if_pos available, List.singleton_append, List.singleton_append,
        List.cons.injEq, markedCaps_eq_iff available, found]
      constructor
      · rintro ⟨opened, -⟩ ⟨first, same, -, closed⟩
        rw [← Option.some.inj same, opened] at closed
        exact Bool.noConfusion closed
      · intro insensitive
        have opened : ((config.splitOn ',').headD []).contains '[' = true := by
          cases closed : ((config.splitOn ',').headD []).contains '[' with
          | true => rfl
          | false => exact absurd ⟨config, rfl, available, closed⟩ insensitive
        exact ⟨opened, by rw [getLast?_getD_of_ne_nil (brackets_ne_nil_of_opened available opened) false true]⟩
    · rw [keptSets, keptSets, if_neg available, if_neg available, List.nil_append, List.nil_append]
      by_cases silent : brackets availableCaps config = []
      · have skipped : decides availableCaps config = false := by
          rw [decides, silent, Bool.eq_false_iff.mpr available]
          rfl
        rw [silent, List.find?_cons_of_neg (by simp [skipped])]
        exact following
      · have found : (config :: rest).find? (decides availableCaps) = some config :=
          List.find?_cons_of_pos (by simp [decides, silent])
        rw [getLast?_getD_of_ne_nil silent false true, found]
        refine iff_of_true rfl ?_
        rintro ⟨first, same, kept, -⟩
        rw [← Option.some.inj same] at kept
        exact available kept

/-- The alternatives of two lists are read one by one exactly when the first list does not
leave an optional part open, or the second one does not depend on it. -/
theorem alternatives_separate_iff (availableCaps : List SdpCapability) (first second : Text) :
    parseIdxList availableCaps (first ++ '|' :: second) = parseSeparately availableCaps first second ↔
      (ReadableList availableCaps first → ReadableList availableCaps second → LeavesOpen availableCaps first →
        ¬Sensitive availableCaps second) := by
  have parts : (first ++ '|' :: second).splitOn '|' = first.splitOn '|' ++ second.splitOn '|' :=
    List.splitOn_append_cons_self first second
  by_cases left : ReadableList availableCaps first
  · by_cases right : ReadableList availableCaps second
    · have both : ReadableList availableCaps (first ++ '|' :: second) := by
        intro config member
        rw [parts] at member
        rcases List.mem_append.mp member with before | after
        · exact left config before
        · exact right config after
      rw [parseIdxList_eq both, parseSeparately, parseIdxList_eq left, parseIdxList_eq right, parts, keptSets_append,
        List.all_append]
      simp only [bind, Except.bind, pure, Except.pure, Except.ok.injEq, Prod.mk.injEq, and_true, List.append_cancel_left_eq]
      cases opened : ((first.splitOn '|').flatMap (brackets availableCaps)).getLast? with
      | none =>
        refine iff_of_true rfl ?_
        intro _ _ leaves
        rw [LeavesOpen, opened] at leaves
        cases leaves
      | some flag =>
        cases flag with
        | true =>
          refine iff_of_true rfl ?_
          intro _ _ leaves
          rw [LeavesOpen, opened] at leaves
          cases leaves
        | false =>
          rw [Option.getD_some, keptSets_eq_iff]
          constructor
          · intro insensitive _ _ _
            exact insensitive
          · intro independent
            exact independent left right opened
    · obtain ⟨failure, fails⟩ := parseSets_error (second.splitOn '|') right
      refine iff_of_true ?_ fun _ readable => absurd readable right
      rw [parseSeparately, parseIdxList_eq left, parseIdxList, parts, parseSets_append, parseSets_eq _ _ left, parseIdxList]
      simp only [bind, Except.bind, fails]
  · obtain ⟨failure, fails⟩ := parseSets_error (first.splitOn '|') left
    refine iff_of_true ?_ fun readable => absurd readable left
    rw [parseSeparately, parseIdxList, parts, parseSets_append, parseIdxList]
    simp only [bind, Except.bind, fails]

/-- The optional part of an alternative that is dropped goes on into the next alternative. -/
theorem optional_flag_carried_over :
    parseIdxList [⟨1, "", "RTP/SAVP"⟩] "[99]|1".toList = .ok ([[⟨false, 1, "", "RTP/SAVP"⟩]], false) ∧
      parseSeparately [⟨1, "", "RTP/SAVP"⟩] "[99]".toList "1".toList = .ok ([[⟨true, 1, "", "RTP/SAVP"⟩]], false) := by
  decide

end PotentialCfgGraph

end Liblinphone
