import Liblinphone.Library.Scan
import Liblinphone.LpConfig

/-! A store that was written is read back as it was, when its values fit into
lines. -/

namespace Liblinphone
open Library

/-- A name that a header can carry. -/
structure PlainSection (name : Text) : Prop where
  present : name ≠ []
  plain : ∀ char ∈ name, isSpace char = false ∧ char ≠ ']'

/-- A key that starts neither a header nor a comment. -/
structure PlainKey (key : Text) : Prop where
  present : key ≠ []
  plain : ∀ char ∈ key, isSpace char = false ∧ char ≠ '='
  starts : key.head? ≠ some '[' ∧ key.head? ≠ some '#'

/-- A value that a line can carry. -/
structure FitsLine (key value : Text) : Prop where
  unbroken : '\n' ∉ value ∧ '\r' ∉ value
  stripped : value.getLast? ≠ some ' '
  short : key.length + value.length + 2 < maxLen

theorem isSpace_false {char : Char} (plain : isSpace char = false) : char ≠ ' ' ∧ char ≠ '\n' ∧ char ≠ '\r' := by
  simp only [isSpace, List.contains_eq_mem, decide_eq_false_iff_not, List.mem_cons, not_or] at plain
  exact ⟨plain.1, plain.2.2.1, plain.2.2.2.2.2.1⟩

theorem scanWord_token {token : Text} (present : token ≠ []) (plain : ∀ char ∈ token, isSpace char = false) :
    scanWord token = some (token, []) := by
  obtain ⟨first, rest, rfl⟩ := List.exists_cons_of_ne_nil present
  have start : (first :: rest).dropWhile isSpace = first :: rest := by
    rw [List.dropWhile_cons_of_neg]
    simp [plain first (by simp)]
  have word : (first :: rest).takeWhile (fun char => !isSpace char) = first :: rest := by
    apply takeWhile_whole
    intro char member
    simp [plain char member]
  simp [scanWord, start, word]

namespace ParseState

variable {state : ParseState} {ending : Text}

theorem updateCurrent_same {change : LpSection → LpSection} (same : ∀ sec, change sec = sec) :
    state.updateCurrent change = state := by
  obtain rfl : change = id := funext same
  unfold updateCurrent
  cases current : state.current with
  | none => rfl
  | some index => simp [List.modify_id, ← current]

theorem parseLine_header {name : Text} (plain : PlainSection name) :
    state.parseLine ('[' :: (name ++ [']']) ++ ending) = state.enterSection name := by
  have inner : (name ++ ']' :: ending).takeWhile (· != ']') = name := by
    apply takeWhile_stop
    · intro char member
      simpa using (plain.plain char member).2
    · simp
  have read : state.parseLine ('[' :: (name ++ [']']) ++ ending) = state.parseSection (name ++ ']' :: ending) := by
    simp [parseLine]
  rw [read]
  simp only [parseSection, inner, scanWord_token plain.present fun char member => (plain.plain char member).1]
  simp [updateCurrent_same]

theorem parseLine_blank (blank : ending = [] ∨ ending = ['\n']) : state.parseLine ending = state := by
  rcases blank with rfl | rfl
  · rfl
  · simp [parseLine, parseEntry]

theorem cutLine_value {value : Text} (unbroken : '\n' ∉ value ∧ '\r' ∉ value) (blank : ending = [] ∨ ending = ['\n']) :
    cutLine (value ++ ending) = value := by
  have within : ∀ char ∈ value, (char != '\n') = true := by
    intro char member
    simpa using fun same : char = '\n' => unbroken.1 (same ▸ member)
  rcases blank with rfl | rfl
  · simp [cutLine, unbroken.2, takeWhile_whole within]
  · simp [cutLine, unbroken.2, takeWhile_stop within]

theorem parseLine_entry {key value : Text} (plain : PlainKey key) (fits : FitsLine key value) (present : value ≠ [])
    (blank : ending = [] ∨ ending = ['\n']) :
    state.parseLine (key ++ '=' :: (value ++ ending)) = state.updateCurrent fun sec => sec.readItem key value := by
  have within : ∀ char ∈ key, (char != '=') = true := by
    intro char member
    simpa using (plain.plain char member).2
  have before : (key ++ '=' :: (value ++ ending)).takeWhile (· != '=') = key := takeWhile_stop within (by simp)
  have after : (key ++ '=' :: (value ++ ending)).dropWhile (· != '=') = '=' :: (value ++ ending) :=
    dropWhile_stop within (by simp)
  have kept : value.rdropWhile (· == ' ') = value := by
    apply rdropWhile_kept
    intro last ends
    simpa using fun same : last = ' ' => fits.stripped (same ▸ ends)
  have entry : state.parseLine (key ++ '=' :: (value ++ ending)) =
      state.parseEntry (key ++ '=' :: (value ++ ending)) := by
    obtain ⟨first, rest, rfl⟩ := List.exists_cons_of_ne_nil plain.present
    have start := isSpace_false (plain.plain first (by simp)).1
    have starts := plain.starts
    simp only [List.head?_cons, ne_eq, Option.some.injEq] at starts
    unfold parseLine
    rw [List.cons_append, List.dropWhile_cons_of_neg (by simp [start.1])]
    split
    next text same => exact absurd (List.cons.inj same).1 starts.1
    next text same => exact absurd (List.cons.inj same).1 starts.2
    next => rfl
  rw [entry]
  simp only [parseEntry, before, after, scanWord_token plain.present fun char member => (plain.plain char member).1,
    List.drop_succ_cons, List.drop_zero, cutLine_value fits.unbroken blank, kept]
  simp [present]

/-- The lines that lead from one state to another, however their ends are read. -/
inductive Reads : ParseState → List Text → ParseState → Prop where
  | done (state : ParseState) : Reads state [] state
  | line {state next final : ParseState} {line : Text} {rest : List Text} (unbroken : '\n' ∉ line ∧ '\r' ∉ line)
      (short : line.length + 1 < maxLen)
      (parsed : ∀ ending, ending = [] ∨ ending = ['\n'] → state.parseLine (line ++ ending) = next)
      (later : Reads next rest final) : Reads state (line :: rest) final

theorem Reads.append {first second final : ParseState} {lines rest : List Text} (before : Reads first lines second)
    (after : Reads second rest final) : Reads first (lines ++ rest) final := by
  induction before with
  | done => exact after
  | line unbroken short parsed later ih => exact .line unbroken short parsed (ih after)

theorem parseLines_reads {reader : LineReader} (lawful : reader.Lawful) {state final : ParseState} {lines : List Text}
    (reads : Reads state lines final) (fuel : Nat) (enough : lines.length ≤ fuel) :
    parseLines reader fuel (lines.flatMap (· ++ ['\n'])) state = final := by
  induction reads generalizing fuel with
  | done =>
    cases fuel with
    | zero => rfl
    | succ fuel => simp [parseLines, lawful.finished]
  | @line state next final line rest unbroken short parsed later ih =>
    cases fuel with
    | zero => simp at enough
    | succ fuel =>
      obtain ⟨ending, blank, taken⟩ := lawful.fits maxLen line (rest.flatMap (· ++ ['\n'])) unbroken.1 unbroken.2 short
      rw [List.flatMap_cons, List.append_assoc, List.singleton_append]
      simp only [parseLines, taken, parsed ending blank]
      apply ih
      simpa using enough

end ParseState

/-- A section that operations made. -/
structure LpSection.Regular (sec : LpSection) : Prop where
  plain : PlainSection sec.name
  params : sec.params = []
  entries : ∀ item ∈ sec.items, ∃ key value, item = .entry key value ∧ PlainKey key ∧ value ≠ []
  distinct : DistinctKeys LpItem.key sec.items

structure LpConfig.Regular (config : LpConfig) : Prop where
  sections : ∀ sec ∈ config.sections, sec.Regular
  distinct : DistinctKeys LpSection.name config.sections

/-- An operation on plain tokens. -/
def ConfigOperation.Plain : ConfigOperation → Prop
  | .setString sec key _ => PlainSection sec ∧ PlainKey key
  | .cleanSection sec => PlainSection sec
  | .cleanEntry sec key => PlainSection sec ∧ PlainKey key

namespace LpSection

variable {sec : LpSection} {key value : Text}

theorem findItem_eq : sec.findItem key = findKey LpItem.key (some key) sec.items := rfl

theorem Regular.removeItem (regular : sec.Regular) (key : Text) : (sec.removeItem key).Regular where
  plain := regular.plain
  params := regular.params
  entries := fun item member => regular.entries item (List.mem_of_mem_eraseP member)
  distinct := regular.distinct.eraseP _

theorem Regular.setItem (regular : sec.Regular) (present : value ≠ []) :
    (sec.setItem key value).Regular where
  plain := regular.plain
  params := regular.params
  entries := by
    intro item member
    rcases mem_updateFirst member with before | ⟨other, before, rfl⟩
    · exact regular.entries item before
    · obtain ⟨name, old, rfl, known, -⟩ := regular.entries other before
      exact ⟨name, value, rfl, known, present⟩
  distinct := by
    apply regular.distinct.updateFirst
    intro item named
    cases item with
    | comment text => simp [LpItem.key] at named
    | entry name old => exact named

theorem Regular.addItem (regular : sec.Regular) (plain : PlainKey key) (present : value ≠ [])
    (unknown : sec.findItem key = none) : (sec.addItem (.entry key value)).Regular where
  plain := regular.plain
  params := regular.params
  entries := by
    intro item member
    rcases List.mem_append.mp member with before | single
    · exact regular.entries item before
    · exact ⟨key, value, List.mem_singleton.mp single, plain, present⟩
  distinct := regular.distinct.append unknown

theorem Regular.setString (regular : sec.Regular) (plain : PlainKey key) (value : Text) :
    (sec.setString key value).Regular := by
  unfold LpSection.setString
  cases found : sec.findItem key with
  | some item =>
    simp only
    split
    · exact regular.removeItem key
    next present => exact regular.setItem (by simpa using present)
  | none =>
    simp only
    split
    · exact regular
    next present => exact regular.addItem plain (by simpa using present) found

end LpSection

namespace LpConfig

variable {config : LpConfig}

theorem Regular.updateSection (regular : config.Regular) (name : Text) {change : LpSection → LpSection}
    (kept : ∀ sec, (change sec).name = sec.name) (keeps : ∀ sec, sec.Regular → (change sec).Regular) :
    (config.updateSection name change).Regular where
  sections := by
    intro sec member
    rcases mem_updateFirst member with before | ⟨other, before, rfl⟩
    · exact regular.sections sec before
    · exact keeps other (regular.sections other before)
  distinct := regular.distinct.updateFirst fun sec named => (kept sec).trans named

theorem setString_name (sec : LpSection) (key value : Text) : (sec.setString key value).name = sec.name := by
  unfold LpSection.setString
  cases sec.findItem key with
  | some item =>
    simp only
    split <;> rfl
  | none =>
    simp only
    split <;> rfl

theorem Regular.step (regular : config.Regular) {operation : ConfigOperation} (plain : operation.Plain) :
    (config.step operation).Regular := by
  cases operation with
  | setString name key value =>
    simp only [LpConfig.step, LpConfig.setString]
    cases found : config.findSection name with
    | some sec =>
      exact regular.updateSection name (fun sec => setString_name sec key value) fun sec known =>
        known.setString plain.2 value
    | none =>
      simp only
      split
      · exact regular
      next present =>
        refine ⟨?_, regular.distinct.append found⟩
        intro sec member
        rcases List.mem_append.mp member with before | single
        · exact regular.sections sec before
        · obtain rfl := List.mem_singleton.mp single
          refine ⟨plain.1, rfl, ?_, List.nodup_singleton _⟩
          intro item member
          exact ⟨key, value, List.mem_singleton.mp member, plain.2, by simpa using present⟩
  | cleanSection name =>
    exact ⟨fun sec member => regular.sections sec (List.mem_of_mem_eraseP member), regular.distinct.eraseP _⟩
  | cleanEntry name key =>
    exact regular.updateSection name (fun _ => rfl) fun sec known => known.removeItem key

theorem Regular.perform (regular : config.Regular) {operations : List ConfigOperation}
    (plain : ∀ operation ∈ operations, operation.Plain) : (config.perform operations).Regular := by
  induction operations generalizing config with
  | nil => exact regular
  | cons operation rest ih =>
    apply ih (regular.step (plain operation (by simp)))
    intro later member
    exact plain later (List.mem_cons_of_mem _ member)

end LpConfig

/-- Every value of a section fits into the line that is written for it. -/
structure LpSection.Fits (sec : LpSection) : Prop where
  header : sec.name.length + 3 < maxLen
  values : ∀ key value, .entry key value ∈ sec.items → FitsLine key value

def LpConfig.Fits (config : LpConfig) : Prop := ∀ sec ∈ config.sections, sec.Fits

def LpItem.line : LpItem → Text
  | .comment value => value
  | .entry key value => key ++ '=' :: value

def LpSection.lines (sec : LpSection) : List Text :=
  ('[' :: (sec.name ++ [']'])) :: (sec.items.map LpItem.line ++ [[]])

section Lines

variable {sec : LpSection}

theorem items_write {items : List LpItem}
    (entries : ∀ item ∈ items, ∃ key value, item = .entry key value ∧ PlainKey key ∧ value ≠ []) :
    items.flatMap LpItem.write = (items.map LpItem.line).flatMap (· ++ ['\n']) := by
  rw [List.flatMap_map]
  apply List.flatMap_congr
  intro item member
  obtain ⟨key, value, rfl, -, present⟩ := entries item member
  simp [LpItem.write, LpItem.line, present]

theorem LpSection.Regular.write (regular : sec.Regular) : sec.write = sec.lines.flatMap (· ++ ['\n']) := by
  simp only [LpSection.write, LpSection.lines, regular.params, items_write regular.entries, List.flatMap_cons,
    List.flatMap_append]
  simp

theorem LpConfig.Regular.sync {config : LpConfig} (regular : config.Regular) :
    config.sync = (config.sections.flatMap LpSection.lines).flatMap (· ++ ['\n']) := by
  rw [LpConfig.sync, List.flatMap_assoc]
  apply List.flatMap_congr
  intro sec member
  exact (regular.sections sec member).write

end Lines

namespace ParseState

/-- The state between two entries of the last section. -/
def within (done : List LpSection) (sec : LpSection) : ParseState where
  config := { sections := done ++ [sec] }
  current := some done.length

theorem enterSection_new {state : ParseState} {name : Text}
    (unknown : findKey LpSection.name name state.config.sections = none) :
    state.enterSection name = within state.config.sections { name := name } := by
  have absent : state.config.findSectionIndex name = none := by
    rw [LpConfig.findSectionIndex, List.findIdx?_eq_none_iff]
    intro sec member
    simpa using findKey_none.mp unknown sec member
  simp only [enterSection, absent]
  rfl

theorem updateCurrent_within (done : List LpSection) (sec : LpSection) (change : LpSection → LpSection) :
    (within done sec).updateCurrent change = within done (change sec) := by
  simp only [updateCurrent, within, modify_append_length]

theorem isSpace_unbroken {token : Text} (plain : ∀ char ∈ token, isSpace char = false) :
    '\n' ∉ token ∧ '\r' ∉ token :=
  ⟨fun member => (isSpace_false (plain _ member)).2.1 rfl, fun member => (isSpace_false (plain _ member)).2.2 rfl⟩

/-- The entries of a section are read one after the other. -/
theorem reads_items (done : List LpSection) {items : List LpItem} {sec : LpSection}
    (entries : ∀ item ∈ items, ∃ key value, item = .entry key value ∧ PlainKey key ∧ value ≠ [])
    (fits : ∀ key value, .entry key value ∈ items → FitsLine key value)
    (distinct : DistinctKeys LpItem.key (sec.items ++ items)) :
    Reads (within done sec) (items.map LpItem.line) (within done { sec with items := sec.items ++ items }) := by
  induction items generalizing sec with
  | nil =>
    rw [List.append_nil]
    exact .done _
  | cons item rest ih =>
    obtain ⟨key, value, rfl, plain, present⟩ := entries item (by simp)
    have fit := fits key value (by simp)
    have unknown : sec.findItem key = none := by
      rw [LpSection.findItem_eq, findKey_none]
      intro other member same
      simp only [DistinctKeys, List.map_append, List.map_cons] at distinct
      have apart := (List.nodup_append.mp distinct).2.2 other.key (List.mem_map.mpr ⟨other, member, rfl⟩)
        (LpItem.key (.entry key value)) (by simp)
      exact apart same
    have key_unbroken := isSpace_unbroken fun char member => (plain.plain char member).1
    have later : Reads (within done (sec.addItem (.entry key value))) (rest.map LpItem.line)
        (within done { sec with items := sec.items ++ .entry key value :: rest }) := by
      have read := @ih (sec.addItem (.entry key value)) (fun item member => entries item (by simp [member]))
        (fun key value member => fits key value (by simp [member])) (by simpa [LpSection.addItem] using distinct)
      simpa [LpSection.addItem] using read
    refine .line ?_ ?_ ?_ later
    · simp [LpItem.line, key_unbroken, fit.unbroken]
    · have short := fit.short
      simp only [LpItem.line, List.length_append, List.length_cons]
      omega
    · intro ending blank
      simp only [LpItem.line, List.append_assoc, List.cons_append]
      rw [parseLine_entry plain fit present blank, updateCurrent_within]
      simp only [LpSection.readItem, unknown]

theorem reads_section {state : ParseState} {sec : LpSection} (regular : sec.Regular) (fits : sec.Fits)
    (unknown : findKey LpSection.name sec.name state.config.sections = none) :
    Reads state sec.lines (within state.config.sections sec) := by
  have unbroken := isSpace_unbroken fun char member => (regular.plain.plain char member).1
  have entries : Reads (within state.config.sections { name := sec.name }) (sec.items.map LpItem.line)
      (within state.config.sections sec) := by
    have read := @reads_items state.config.sections sec.items { name := sec.name } regular.entries fits.values
      (by simpa using regular.distinct)
    have whole : { name := sec.name, items := [] ++ sec.items : LpSection } = sec := by
      obtain ⟨name, params, items⟩ := sec
      obtain rfl : params = [] := regular.params
      rfl
    simpa only [whole] using read
  have blank : Reads (within state.config.sections sec) [[]] (within state.config.sections sec) :=
    .line (by simp) (by simp [maxLen]) (fun _ blank => parseLine_blank blank) (.done _)
  refine .line ?_ ?_ ?_ (entries.append blank)
  · simp [unbroken]
  · have short := fits.header
    simp only [List.length_cons, List.length_append, List.length_nil]
    omega
  · intro ending _
    rw [parseLine_header regular.plain, enterSection_new unknown]

theorem reads_sections {sections : List LpSection} {state : ParseState}
    (regular : ∀ sec ∈ sections, sec.Regular) (fits : ∀ sec ∈ sections, sec.Fits)
    (distinct : DistinctKeys LpSection.name (state.config.sections ++ sections)) :
    ∃ current, Reads state (sections.flatMap LpSection.lines)
      { config := { sections := state.config.sections ++ sections }, current := current } := by
  induction sections generalizing state with
  | nil =>
    refine ⟨state.current, ?_⟩
    rw [List.append_nil]
    exact .done state
  | cons sec rest ih =>
    have unknown : findKey LpSection.name sec.name state.config.sections = none := by
      rw [findKey_none]
      intro other member same
      simp only [DistinctKeys, List.map_append, List.map_cons] at distinct
      exact (List.nodup_append.mp distinct).2.2 other.name (List.mem_map.mpr ⟨other, member, rfl⟩) sec.name (by simp) same
    have head := reads_section (regular sec (by simp)) (fits sec (by simp)) unknown
    obtain ⟨current, tail⟩ := @ih (within state.config.sections sec) (fun other member => regular other (by simp [member]))
      (fun other member => fits other (by simp [member])) (by simpa [within] using distinct)
    refine ⟨current, ?_⟩
    rw [List.flatMap_cons]
    apply head.append
    simpa [within] using tail

end ParseState

/-- A regular store whose values fit is read back as it was written. -/
theorem LpConfig.Regular.parse {reader : LineReader} (lawful : reader.Lawful) {config : LpConfig}
    (regular : config.Regular) (fits : config.Fits) : LpConfig.parse reader config.sync = config := by
  obtain ⟨current, reads⟩ := @ParseState.reads_sections config.sections {} regular.sections fits (by simpa using regular.distinct)
  have enough : (config.sections.flatMap LpSection.lines).length ≤ config.sync.length := by
    rw [regular.sync]
    generalize config.sections.flatMap LpSection.lines = lines
    induction lines with
    | nil => simp
    | cons line rest ih =>
      simp only [List.flatMap_cons, List.length_cons, List.length_append, List.length_nil]
      omega
  have read := ParseState.parseLines_reads lawful reads config.sync.length enough
  rw [← regular.sync] at read
  simp only [LpConfig.parse, read, List.nil_append]

/-- What was set is read back, and nothing else. -/
theorem sync_persists {reader : LineReader} (lawful : reader.Lawful) {operations : List ConfigOperation}
    (plain : ∀ operation ∈ operations, operation.Plain) (fits : (LpConfig.perform {} operations).Fits) :
    let stored := LpConfig.perform {} operations
    let reloaded := LpConfig.parse reader stored.sync
    (∀ sec key defaultString, reloaded.getString sec key defaultString = stored.getString sec key defaultString) ∧
      (∀ sec, reloaded.hasSection sec = true → stored.hasSection sec = true) ∧
      ∀ sec key, reloaded.hasEntry sec key = true → stored.hasEntry sec key = true := by
  intro stored reloaded
  have empty : LpConfig.Regular {} := ⟨by simp, List.nodup_nil⟩
  have same : reloaded = stored := (empty.perform plain).parse lawful fits
  rw [same]
  exact ⟨fun _ _ _ => rfl, fun _ => id, fun _ _ => id⟩

/-- A reader that takes what fits into the buffer, up to the first end of a line. -/
def LineReader.buffered : LineReader where
  getNxtline size text :=
    let chunk := text.take (size - 1)
    if text.isEmpty then none
    else if chunk.contains '\n' then
      some (chunk.takeWhile (· != '\n'), text.drop ((chunk.takeWhile (· != '\n')).length + 1))
    else some (chunk, text.drop (size - 1))

theorem LineReader.buffered_lawful : LineReader.buffered.Lawful where
  finished := by simp [buffered]
  fits := by
    intro size line rest unbroken _ short
    refine ⟨[], .inl rfl, ?_⟩
    obtain ⟨room, rfl⟩ : ∃ room, size = line.length + (room + 1) + 1 := ⟨size - line.length - 2, by omega⟩
    have within : ∀ char ∈ line, (char != '\n') = true := by
      intro char member
      simpa using fun same : char = '\n' => unbroken (same ▸ member)
    have chunk : (line ++ '\n' :: rest).take (line.length + (room + 1)) = line ++ '\n' :: rest.take room := by
      rw [List.take_length_add_append, List.take_succ_cons]
    have line_read : (line ++ '\n' :: rest.take room).takeWhile (· != '\n') = line := takeWhile_stop within (by simp)
    simp only [buffered, Nat.add_sub_cancel, chunk, line_read]
    simp

section Runs

def setName (value : String) : List ConfigOperation := [.setString "sip".toList "name".toList value.toList]

theorem setName_plain (value : String) : ∀ operation ∈ setName value, operation.Plain := by
  intro operation member
  obtain rfl := List.mem_singleton.mp member
  exact ⟨⟨by simp, by simp [isSpace]⟩, ⟨by simp, by simp [isSpace], by simp⟩⟩

theorem sync_persists_name :
    let stored := LpConfig.perform {} (setName "[a] = b # c")
    let reloaded := LpConfig.parse .buffered stored.sync
    reloaded.getString "sip".toList "name".toList [] = "[a] = b # c".toList := by
  intro stored reloaded
  have persists := sync_persists LineReader.buffered_lawful (setName_plain "[a] = b # c") (by
    intro sec member
    obtain rfl : sec = { name := "sip".toList, items := [.entry "name".toList "[a] = b # c".toList] } := by
      simpa [setName, LpConfig.perform, LpConfig.step, LpConfig.setString, LpConfig.findSection] using member
    refine ⟨by decide, fun key value inside => ?_⟩
    obtain ⟨rfl, rfl⟩ : key = "name".toList ∧ value = "[a] = b # c".toList := by simpa using inside
    exact ⟨by decide, by decide, by decide⟩)
  rw [persists.1]
  decide

/-- A value that ends in a blank loses it, and one with an end of line makes another
entry. -/
theorem sync_changes_value :
    let blank := LpConfig.perform {} (setName "a ")
    let broken := LpConfig.perform {} (setName "a\nkey=b")
    (LpConfig.parse .buffered blank.sync).getString "sip".toList "name".toList [] ≠
        blank.getString "sip".toList "name".toList [] ∧
      (LpConfig.parse .buffered broken.sync).hasEntry "sip".toList "key".toList = true ∧
      broken.hasEntry "sip".toList "key".toList = false := by
  refine ⟨by decide, by decide, by decide⟩

end Runs

end Liblinphone
