import Liblinphone.Library.Run
import Liblinphone.Proofs.ConfigValues

/-! The store as a map from sections and keys to values. A line that is read and an
operation that is done each write to the map in one place at most, or take a whole
section away. What a pair has is what was written to it last. -/

namespace Liblinphone

open Library

/-- What a line says: that a section begins, or that a key has a value. -/
inductive LineMeaning where
  | header (name : Text)
  | entry (key value : Text)
  | nothing
deriving Repr, DecidableEq

/-- What a line says whose bracket is followed by a text. -/
def headerMeaning (text : Text) : LineMeaning :=
  if text.contains ']' then
    match scanWord (text.takeWhile (· != ']')) with
    | none => .nothing
    | some (name, _) => .header name
  else .nothing

def entryMeaning (line : Text) : LineMeaning :=
  if line.contains '=' then
    match scanWord (line.takeWhile (· != '=')) with
    | none => .nothing
    | some (key, _) =>
      let value := (cutLine ((line.dropWhile (· != '=')).drop 1)).rdropWhile (· == ' ')
      if value.isEmpty then .nothing else .entry key value
  else .nothing

def lineMeaning (line : Text) : LineMeaning :=
  match line.dropWhile (· == ' ') with
  | '[' :: text => headerMeaning text
  | '#' :: _ => .nothing
  | _ => entryMeaning line

namespace LineMeaning

/-- The section that the lines after a line are in. -/
def enters (current : Option Text) : LineMeaning → Option Text
  | header name => some name
  | entry _ _ => current
  | nothing => current

/-- What a line of a section writes. A value that comes before all sections is lost. -/
def operations (current : Option Text) : LineMeaning → List ConfigOperation
  | header _ => []
  | entry key value => (current.map fun name => .setString name key value).toList
  | nothing => []

end LineMeaning

/-- What lines write, when the first of them are in a section or in none. -/
def linesOperations : Option Text → List Text → List ConfigOperation
  | _, [] => []
  | current, line :: rest =>
    (lineMeaning line).operations current ++ linesOperations ((lineMeaning line).enters current) rest

/-- What an operation writes to a pair, if anything. Without a value the pair has none. -/
def ConfigOperation.writes (sec key : Text) : ConfigOperation → Option (Option Text)
  | .setString name other value =>
    if sec = name ∧ key = other then some (if value = [] then none else some value) else none
  | .cleanSection name => if sec = name then some none else none
  | .cleanEntry name other => if sec = name ∧ key = other then some none else none

/-- The value that a pair was given last, unless it was removed afterwards. -/
def lastGiven (sec key : Text) (operations : List ConfigOperation) : Option Text :=
  lastWrite (ConfigOperation.writes sec key) none operations

namespace LpSection

/-- A change that leaves the entries of a section alone. -/
structure Quiet (change : LpSection → LpSection) : Prop where
  name : ∀ sec, (change sec).name = sec.name
  keys : ∀ sec, (change sec).items.filterMap LpItem.key = sec.items.filterMap LpItem.key
  found : ∀ sec key, (change sec).findItem key = sec.findItem key

theorem quiet_params (params : List (Text × Text)) : Quiet fun sec => { sec with params := sec.params ++ params } :=
  ⟨fun _ => rfl, fun _ => rfl, fun _ _ => rfl⟩

theorem isEntry_comment {key value : Text} {item : LpItem} (comment : LpItem.isComment value item = true) :
    item.key = none ∧ LpItem.isEntry key item = false := by
  cases item with
  | comment text => exact ⟨rfl, by simp [LpItem.isEntry, LpItem.key]⟩
  | entry name text => exact Bool.noConfusion comment

/-- A comment that is read leaves the entries alone. -/
theorem quiet_readComment (value : Text) : Quiet fun sec => sec.readComment value := by
  refine ⟨fun _ => rfl, ?_, ?_⟩
  · intro sec
    simp only [readComment, List.filterMap_append, List.filterMap_cons, LpItem.key, List.filterMap_nil, List.append_nil]
    induction sec.items with
    | nil => rfl
    | cons item rest ih =>
      cases hit : LpItem.isComment value item with
      | true => rw [List.eraseP_cons_of_pos hit, List.filterMap_cons_none (@isEntry_comment [] value item hit).1]
      | false => rw [List.eraseP_cons_of_neg (by simp [hit]), List.filterMap_cons, List.filterMap_cons, ih]
  · intro sec key
    have last : LpItem.isEntry key (.comment value) = false := by simp [LpItem.isEntry, LpItem.key]
    simp only [readComment, findItem, List.find?_append, List.find?_cons, last, List.find?_nil, Option.or_none]
    induction sec.items with
    | nil => rfl
    | cons item rest ih =>
      cases hit : LpItem.isComment value item with
      | true => rw [List.eraseP_cons_of_pos hit, List.find?_cons, (isEntry_comment hit).2]
      | false => rw [List.eraseP_cons_of_neg (by simp [hit]), List.find?_cons, List.find?_cons, ih]

theorem readItem_eq {key value : Text} (filled : value ≠ []) (sec : LpSection) :
    sec.readItem key value = sec.setString key value := by
  have present : value.isEmpty = false := by simpa using filled
  unfold readItem LpSection.setString
  cases sec.findItem key with
  | none => simp [present]
  | some item => simp [present]

/-- To remove an item is to set it to nothing. -/
theorem removeItem_eq (sec : LpSection) (key : Text) : sec.removeItem key = sec.setString key [] := by
  unfold LpSection.setString
  cases found : sec.findItem key with
  | some item => rfl
  | none =>
    have missed : ∀ item ∈ sec.items, ¬LpItem.isEntry key item = true := List.find?_eq_none.mp found
    simp only [List.isEmpty_nil, if_true, removeItem]
    rw [List.eraseP_of_forall_not missed]

end LpSection

namespace LpConfig

variable {config : LpConfig} {name key value : Text}

theorem updateSection_absent (absent : config.findSection name = none) (change : LpSection → LpSection) :
    config.updateSection name change = config := by
  apply congrArg LpConfig.mk
  exact updateFirst_absent (List.find?_eq_none.mp absent) change

theorem setString_present {sec : LpSection} (found : config.findSection name = some sec) :
    config.setString name key value = config.updateSection name fun sec => sec.setString key value := by
  rw [LpConfig.setString, found]

theorem cleanEntry_eq (config : LpConfig) (name key : Text) : config.cleanEntry name key = config.setString name key [] := by
  have removed : (fun sec : LpSection => sec.removeItem key) = fun sec => sec.setString key [] :=
    funext fun sec => sec.removeItem_eq key
  rw [cleanEntry, removed]
  cases found : config.findSection name with
  | some sec => rw [setString_present found]
  | none =>
    rw [updateSection_absent found, LpConfig.setString, found]
    rfl

section Quiet

variable {change : LpSection → LpSection} (quiet : LpSection.Quiet change)

include quiet

theorem findSection_quiet (other : Text) :
    (config.updateSection name change).findSection other =
      if name = other then (config.findSection other).map change else config.findSection other :=
  findKey_updateFirst (fun sec (named : LpSection.name sec = name) => (quiet.name sec).trans named) other config.sections

theorem Distinct.updateQuiet (distinct : config.Distinct) : (config.updateSection name change).Distinct := by
  refine ⟨distinct.sections.updateFirst fun sec named => (quiet.name sec).trans named, ?_⟩
  intro sec member
  rcases mem_updateFirst member with before | ⟨old, before, rfl⟩
  · exact distinct.entries sec before
  · unfold DistinctEntries
    rw [quiet.keys]
    exact distinct.entries old before

theorem value?_quiet (sec wanted : Text) : (config.updateSection name change).value? sec wanted = config.value? sec wanted := by
  unfold value?
  rw [findSection_quiet quiet]
  split
  next =>
    cases config.findSection sec with
    | none => rfl
    | some found => rw [Option.map_some, Option.bind_some, quiet.found, Option.bind_some]
  next => rfl

end Quiet

/-- An operation writes to the map. -/
theorem value?_step (distinct : config.Distinct) (operation : ConfigOperation) (sec wanted : Text) :
    (config.step operation).value? sec wanted = (operation.writes sec wanted).getD (config.value? sec wanted) := by
  cases operation with
  | setString name key value =>
    rw [step, value?_setString (fun _ => distinct), ConfigOperation.writes]
    by_cases hit : sec = name ∧ wanted = key
    · rw [if_pos hit, if_pos hit, Option.getD_some]
    · rw [if_neg hit, if_neg hit, Option.getD_none]
  | cleanSection name =>
    rw [step, ConfigOperation.writes, value?, findSection_cleanSection distinct]
    by_cases hit : sec = name
    · rw [if_pos hit, if_pos hit]
      rfl
    · rw [if_neg hit, if_neg hit]
      rfl
  | cleanEntry name key =>
    rw [step, cleanEntry_eq, value?_setString (fun _ => distinct), ConfigOperation.writes]
    by_cases hit : sec = name ∧ wanted = key
    · rw [if_pos hit, if_pos hit, if_pos rfl, Option.getD_some]
    · rw [if_neg hit, if_neg hit, Option.getD_none]

theorem Distinct.step (distinct : config.Distinct) (operation : ConfigOperation) : (config.step operation).Distinct := by
  cases operation with
  | setString name key value => exact distinct.setString name key value
  | cleanSection name => exact distinct.cleanSection name
  | cleanEntry name key =>
    rw [LpConfig.step, cleanEntry_eq]
    exact distinct.setString name key []

/-- What operations leave in the map. -/
theorem perform_map (distinct : config.Distinct) (operations : List ConfigOperation) :
    (config.perform operations).Distinct ∧ ∀ sec wanted, (config.perform operations).value? sec wanted =
      lastWrite (ConfigOperation.writes sec wanted) (config.value? sec wanted) operations := by
  induction operations generalizing config with
  | nil => exact ⟨distinct, fun _ _ => rfl⟩
  | cons operation rest ih =>
    obtain ⟨kept, read⟩ := ih (distinct.step operation)
    refine ⟨kept, fun sec wanted => ?_⟩
    rw [perform, List.foldl_cons, ← perform, read, value?_step distinct]
    rfl

theorem findSectionIndex_eq (config : LpConfig) (name : Text) :
    config.findSectionIndex name = (config.sections.map LpSection.name).findIdx? fun other => decide (other = name) := by
  rw [List.findIdx?_map]
  rfl

theorem findSectionIndex_updateSection {change : LpSection → LpSection} (kept : ∀ sec, (change sec).name = sec.name)
    (config : LpConfig) (name other : Text) :
    (config.updateSection name change).findSectionIndex other = config.findSectionIndex other := by
  rw [findSectionIndex_eq, findSectionIndex_eq]
  congr 1
  exact updateFirst_keys (fun sec named => (kept sec).trans named) config.sections

theorem findSectionIndex_none : config.findSectionIndex name = none ↔ config.findSection name = none := by
  rw [findSectionIndex, List.findIdx?_eq_none_iff, findSection, List.find?_eq_none]
  simp

end LpConfig

namespace ParseState

variable {state : ParseState} {current : Option Text}

/-- A store that is read, and the name of its current section. -/
structure Tracks (state : ParseState) (current : Option Text) : Prop where
  distinct : state.config.Distinct
  index : state.current = current.bind state.config.findSectionIndex
  known : ∀ name ∈ current, state.config.findSectionIndex name ≠ none

theorem Tracks.updateCurrent (tracks : state.Tracks current) (change : LpSection → LpSection) :
    state.updateCurrent change =
      current.elim state fun name => { state with config := state.config.updateSection name change } := by
  unfold ParseState.updateCurrent
  cases current with
  | none =>
    have held : state.current = none := tracks.index
    split
    next => rfl
    next index placed =>
      rw [held] at placed
      cases placed
  | some name =>
    obtain ⟨index, found⟩ := Option.ne_none_iff_exists'.mp (tracks.known name rfl)
    have held : state.current = some index := tracks.index.trans found
    split
    next missing =>
      rw [held] at missing
      cases missing
    next other placed =>
      obtain rfl := Option.some.inj (held.symm.trans placed)
      exact congrArg (fun sections => ({ state with config := ⟨sections⟩ } : ParseState)) (modify_findIdx? found change)

/-- The current section stays where it is when a section is changed. -/
theorem Tracks.changed (tracks : state.Tracks current) {name : Text} {change : LpSection → LpSection}
    (kept : ∀ sec, (change sec).name = sec.name) (distinct : (state.config.updateSection name change).Distinct) :
    Tracks { state with config := state.config.updateSection name change } current := by
  refine ⟨distinct, ?_, ?_⟩
  · rw [tracks.index]
    cases current with
    | none => rfl
    | some other => exact (LpConfig.findSectionIndex_updateSection kept _ name other).symm
  · intro other member
    rw [LpConfig.findSectionIndex_updateSection kept]
    exact tracks.known other member

theorem Tracks.quiet (tracks : state.Tracks current) {change : LpSection → LpSection} (quiet : LpSection.Quiet change) :
    (state.updateCurrent change).Tracks current ∧
      ∀ sec key, (state.updateCurrent change).config.value? sec key = state.config.value? sec key := by
  rw [tracks.updateCurrent]
  cases current with
  | none => exact ⟨tracks, fun _ _ => rfl⟩
  | some name =>
    exact ⟨tracks.changed quiet.name (tracks.distinct.updateQuiet quiet), fun sec key => LpConfig.value?_quiet quiet sec key⟩

/-- A section that is entered is the one of its name, which has its values already, or a new one
without values. -/
theorem Tracks.enterSection (tracks : state.Tracks current) (name : Text) :
    (state.enterSection name).Tracks (some name) ∧
      ∀ sec key, (state.enterSection name).config.value? sec key = state.config.value? sec key := by
  unfold ParseState.enterSection
  cases found : state.config.findSectionIndex name with
  | some index =>
    refine ⟨⟨tracks.distinct, by simp [found], ?_⟩, fun _ _ => rfl⟩
    intro other same
    obtain rfl := Option.mem_some.mp same
    simp [found]
  | none =>
    have absent := LpConfig.findSectionIndex_none.mp found
    have last : LpConfig.findSectionIndex { sections := state.config.sections ++ [{ name := name }] } name =
        some state.config.sections.length := by
      rw [LpConfig.findSectionIndex] at found ⊢
      rw [List.findIdx?_append, found]
      simp
    refine ⟨⟨⟨tracks.distinct.sections.append absent, ?_⟩, by simp [last], ?_⟩, ?_⟩
    · intro sec member
      rcases List.mem_append.mp member with before | single
      · exact tracks.distinct.entries sec before
      · rw [List.mem_singleton.mp single]
        exact List.nodup_nil
    · intro other same
      obtain rfl := Option.mem_some.mp same
      simp [last]
    · intro sec key
      unfold LpConfig.value?
      rw [LpConfig.findSection_eq, LpConfig.findSection_eq, findKey_append]
      by_cases same : name = sec
      · subst same
        rw [← LpConfig.findSection_eq, absent, if_pos rfl]
        rfl
      · rw [if_neg same, Option.or_none]

/-- What a state that was reached wrote. -/
structure Wrote (state next : ParseState) (current : Option Text) (operations : List ConfigOperation) : Prop where
  tracks : next.Tracks current
  values : ∀ sec key, next.config.value? sec key =
    lastWrite (ConfigOperation.writes sec key) (state.config.value? sec key) operations

theorem Tracks.same (tracks : state.Tracks current) : Wrote state state current [] := ⟨tracks, fun _ _ => rfl⟩

theorem Tracks.parseSection (tracks : state.Tracks current) (text : Text) :
    Wrote state (state.parseSection text) ((headerMeaning text).enters current)
      ((headerMeaning text).operations current) := by
  unfold ParseState.parseSection headerMeaning
  split
  next closed =>
    dsimp only
    cases scanWord (text.takeWhile (· != ']')) with
    | none => exact tracks.same
    | some scanned =>
      obtain ⟨entered, kept⟩ := tracks.enterSection scanned.1
      obtain ⟨changed, same⟩ := entered.quiet (LpSection.quiet_params _)
      exact ⟨changed, fun sec key => (same sec key).trans (kept sec key)⟩
  next => exact tracks.same

/-- A value that is read is one that is set. -/
theorem Tracks.readItem (tracks : state.Tracks current) {key value : Text} (filled : value ≠ []) :
    Wrote state (state.updateCurrent fun sec => sec.readItem key value) current
      ((LineMeaning.entry key value).operations current) := by
  have read : (fun sec : LpSection => sec.readItem key value) = fun sec => sec.setString key value :=
    funext fun sec => sec.readItem_eq filled
  rw [tracks.updateCurrent, read]
  cases current with
  | none => exact tracks.same
  | some name =>
    have present : state.config.findSection name ≠ none := fun absent =>
      tracks.known name rfl (LpConfig.findSectionIndex_none.mpr absent)
    obtain ⟨sec, found⟩ := Option.ne_none_iff_exists'.mp present
    have written := @LpConfig.setString_present state.config name key value sec found
    have distinct := tracks.distinct.setString name key value
    rw [written] at distinct
    refine ⟨tracks.changed (fun sec => sec.name_setString key value) distinct, fun sec wanted => ?_⟩
    have wrote := LpConfig.value?_step tracks.distinct (.setString name key value) sec wanted
    rw [LpConfig.step, written] at wrote
    exact wrote

theorem Tracks.parseEntry (tracks : state.Tracks current) (line : Text) :
    Wrote state (state.parseEntry line) ((entryMeaning line).enters current) ((entryMeaning line).operations current) := by
  unfold ParseState.parseEntry entryMeaning
  split
  next =>
    cases scanWord (line.takeWhile (· != '=')) with
    | none => exact tracks.same
    | some scanned =>
      dsimp only
      split
      next => exact tracks.same
      next filled => exact tracks.readItem fun empty => filled (List.isEmpty_iff.mpr empty)
  next => exact tracks.same

/-- A line writes what it says. -/
theorem Tracks.parseLine (tracks : state.Tracks current) (line : Text) :
    Wrote state (state.parseLine line) ((lineMeaning line).enters current) ((lineMeaning line).operations current) := by
  unfold ParseState.parseLine
  split
  next text starts =>
    unfold lineMeaning
    rw [starts]
    exact tracks.parseSection text
  next text starts =>
    unfold lineMeaning
    rw [starts]
    obtain ⟨kept, same⟩ := tracks.quiet (LpSection.quiet_readComment (cutLine line))
    exact ⟨kept, same⟩
  next bracket hash =>
    unfold lineMeaning
    split
    next text starts => exact absurd starts (bracket text)
    next text starts => exact absurd starts (hash text)
    next => exact tracks.parseEntry line

/-- What lines leave in the map. -/
theorem Tracks.parseLines (tracks : state.Tracks current) (lines : List Text) :
    (lines.foldl ParseState.parseLine state).config.Distinct ∧
      ∀ sec key, (lines.foldl ParseState.parseLine state).config.value? sec key =
        lastWrite (ConfigOperation.writes sec key) (state.config.value? sec key) (linesOperations current lines) := by
  induction lines generalizing state current with
  | nil => exact ⟨tracks.distinct, fun _ _ => rfl⟩
  | cons line rest ih =>
    obtain ⟨next, written⟩ := tracks.parseLine line
    obtain ⟨distinct, values⟩ := ih next
    refine ⟨distinct, fun sec key => ?_⟩
    rw [List.foldl_cons, values, written, linesOperations, lastWrite, lastWrite, lastWrite, List.foldl_append]

theorem tracks_empty : Tracks {} none := ⟨LpConfig.Distinct.empty, rfl, by simp⟩

end ParseState

/-- The lines of a file are such lines. -/
theorem ParseState.parseLines_eq (reader : LineReader) (fuel : Nat) (text : Text) (state : ParseState) :
    ∃ lines : List Text, ParseState.parseLines reader fuel text state = lines.foldl ParseState.parseLine state := by
  induction fuel generalizing text state with
  | zero => exact ⟨[], rfl⟩
  | succ fuel ih =>
    unfold ParseState.parseLines
    cases reader.getNxtline maxLen text with
    | none => exact ⟨[], rfl⟩
    | some taken =>
      obtain ⟨lines, rest⟩ := ih taken.2 (state.parseLine taken.1)
      exact ⟨taken.1 :: lines, rest⟩

theorem LpConfig.distinct_parse (reader : LineReader) (text : Text) : (LpConfig.parse reader text).Distinct := by
  obtain ⟨lines, read⟩ := ParseState.parseLines_eq reader text.length text {}
  rw [LpConfig.parse, read]
  exact (ParseState.tracks_empty.parseLines lines).1

end Liblinphone
