import Liblinphone.ConfigValues
import Liblinphone.Library.Scan

/-! The store seen as a table from sections and keys to values. A store has one section
of each name, and a section one entry of each key, so that a value that is set is the
one that is read, and an empty one leaves nothing behind. -/

namespace Liblinphone

open Library

section Numbers

theorem numberText_injective : Function.Injective numberText := by
  intro first second same
  rw [← textNumber_numberText first, same, textNumber_numberText]

theorem head?_numberText {value : Nat} (positive : 0 < value) : (numberText value).head? ≠ some '0' := by
  induction value using Nat.strongRecOn with
  | _ value ih =>
    unfold numberText
    rw [Nat.toDigits_eq_if (by omega)]
    split
    next small =>
      have leading : ∀ digit < 10, 0 < digit → Nat.digitChar digit ≠ '0' := by decide
      simpa using leading value small positive
    next large =>
      have shorter := ih (value / 10) (by omega) (by omega)
      rw [List.head?_append_of_ne_nil _ Nat.toDigits_ne_nil]
      exact shorter

theorem baseNumber_digits {text : Text} (digits : ∀ digit ∈ text, digit.isDigit = true) :
    baseNumber 10 text = textNumber text := by
  unfold baseNumber textNumber Nat.ofDigitChars
  apply List.foldl_ext
  intro value digit member
  rw [digitValue, if_pos (digits digit member)]

/-- A number is read in decimal, as no other one than zero begins with a zero. -/
theorem scanMagnitude_numberText (value : Nat) : scanMagnitude (numberText value) = value := by
  rcases Nat.eq_zero_or_pos value with rfl | positive
  · decide
  · obtain ⟨nonempty, digits⟩ := numberText_digits value
    have leading := head?_numberText positive
    have whole : baseNumber 10 ((numberText value).takeWhile Char.isDigit) = value := by
      rw [takeWhile_whole digits, baseNumber_digits digits, textNumber_numberText]
    cases written : numberText value with
    | nil => exact absurd written nonempty
    | cons first rest =>
      rw [written] at leading whole
      have other : ¬ '0' = first := fun same => leading (by rw [List.head?_cons, same])
      have decimal : scanMagnitude (first :: rest) = baseNumber 10 ((first :: rest).takeWhile Char.isDigit) := by
        simp [scanMagnitude, other]
      rw [decimal, whole]

theorem dropWhile_numberText (value : Nat) : (numberText value).dropWhile isSpace = numberText value := by
  obtain ⟨nonempty, digits⟩ := numberText_digits value
  cases written : numberText value with
  | nil => exact absurd written nonempty
  | cons first rest =>
    have digit := digits first (by simp [written])
    rw [List.dropWhile_cons_of_neg (by simp [isSpace_digit digit])]

theorem head?_numberText_sign (value : Nat) {sign : Char} (other : sign.isDigit = false) :
    (numberText value).head? ≠ some sign := by
  intro leading
  have digit := (numberText_digits value).2 sign (List.mem_of_mem_head? leading)
  rw [other] at digit
  exact Bool.noConfusion digit

/-- An integer is read as it was written. -/
@[simp] theorem scanInteger_integerText (value : Int) : scanInteger (integerText value) = value := by
  unfold scanInteger
  cases value with
  | ofNat value =>
    have minus := @head?_numberText_sign value '-' (by decide)
    have plus := @head?_numberText_sign value '+' (by decide)
    simp only [integerText, dropWhile_numberText, if_neg minus, if_neg plus, scanMagnitude_numberText]
    rfl
  | negSucc value =>
    have signed : ('-' :: numberText (value + 1)).dropWhile isSpace = '-' :: numberText (value + 1) :=
      List.dropWhile_cons_of_neg (by decide)
    simp only [integerText, signed, List.head?_cons, if_true, List.tail_cons, scanMagnitude_numberText]
    rfl

theorem scanInt_integerText {value : Int} (least : -2 ^ 31 ≤ value) (most : value < 2 ^ 31) :
    scanInt (integerText value) = value := by
  rw [scanInt, scanInteger_integerText, Utils.saturate_of_small (by omega) (by omega), Utils.toInt_of_small least most]

/-- A number that was written in decimal is not taken for a hexadecimal one. -/
theorem integerText_decimal (value : Int) : "0x".toList.isPrefixOf (integerText value) = false := by
  by_contra hexadecimal
  rw [Bool.not_eq_false, List.isPrefixOf_iff_prefix] at hexadecimal
  have letter : 'x' ∈ integerText value := hexadecimal.subset (by decide)
  cases value with
  | ofNat value => exact absurd letter ((numberText_digits value).not_mem (by decide))
  | negSucc value =>
    rcases List.mem_cons.mp letter with same | inside
    · exact absurd same (by decide)
    · exact absurd inside ((numberText_digits (value + 1)).not_mem (by decide))

theorem integerText_plain (value : Int) : ∀ char ∈ integerText value, isSpace char = false := by
  cases value with
  | ofNat value => exact fun char member => isSpace_digit ((numberText_digits value).2 char member)
  | negSucc value =>
    intro char member
    rcases List.mem_cons.mp member with rfl | digit
    · rfl
    · exact isSpace_digit ((numberText_digits (value + 1)).2 char digit)

theorem integerText_ne_nil (value : Int) : integerText value ≠ [] := by
  cases value with
  | ofNat value => exact (numberText_digits value).1
  | negSucc value => exact List.cons_ne_nil _ _

end Numbers

section Items

variable {items : List LpItem} {key other value : Text}

/-- Each key has one entry. Comments have no key. -/
def DistinctEntries (items : List LpItem) : Prop := (items.filterMap LpItem.key).Nodup

theorem isEntry_iff {item : LpItem} : LpItem.isEntry key item = true ↔ item.key = some key := by
  simp [LpItem.isEntry]

theorem find?_eraseP_same (distinct : DistinctEntries items) :
    (items.eraseP (LpItem.isEntry key)).find? (LpItem.isEntry key) = none := by
  induction items with
  | nil => rfl
  | cons item rest ih =>
    cases hit : LpItem.isEntry key item with
    | true =>
      rw [List.eraseP_cons_of_pos hit, List.find?_eq_none]
      intro later member found
      have named := isEntry_iff.mp hit
      rw [DistinctEntries, List.filterMap_cons_some named, List.nodup_cons] at distinct
      exact distinct.1 (List.mem_filterMap.mpr ⟨later, member, isEntry_iff.mp found⟩)
    | false =>
      have others : DistinctEntries rest := by
        apply List.Sublist.nodup _ distinct
        exact (List.sublist_cons_self item rest).filterMap _
      rw [List.eraseP_cons_of_neg (by simp [hit]), List.find?_cons_of_neg (by simp [hit])]
      exact ih others

theorem find?_eraseP_other (different : other ≠ key) :
    (items.eraseP (LpItem.isEntry key)).find? (LpItem.isEntry other) = items.find? (LpItem.isEntry other) := by
  induction items with
  | nil => rfl
  | cons item rest ih =>
    cases hit : LpItem.isEntry key item with
    | true =>
      have missed : ¬ LpItem.isEntry other item = true := by
        intro found
        exact different (Option.some.inj ((isEntry_iff.mp found).symm.trans (isEntry_iff.mp hit)))
      rw [List.eraseP_cons_of_pos hit, List.find?_cons_of_neg missed]
    | false =>
      rw [List.eraseP_cons_of_neg (by simp [hit]), List.find?_cons, List.find?_cons, ih]

theorem setValue_key (item : LpItem) : (item.setValue value).key = item.key := by
  cases item with
  | comment text => rfl
  | entry name text => rfl

theorem find?_setItem :
    (updateFirst (LpItem.isEntry key) (LpItem.setValue value) items).find? (LpItem.isEntry other) =
      if other = key then (items.find? (LpItem.isEntry key)).map (LpItem.setValue value)
      else items.find? (LpItem.isEntry other) := by
  have read := findKey_updateFirst (fun item (named : LpItem.key item = some key) => (@setValue_key value item).trans named)
    (some other) items
  simp only [Option.some.injEq, @eq_comm _ key other] at read
  by_cases equal : other = key
  · subst equal
    exact read
  · rw [if_neg equal] at read ⊢
    exact read

end Items

namespace LpSection

variable {sec : LpSection} {key other value : Text}

/-- What is read after a value was set. Only an item that is removed may have left another
one of its key behind. -/
theorem findItem_setString (distinct : value = [] → DistinctEntries sec.items) :
    ((sec.setString key value).findItem other).map LpItem.value =
      if other = key then (if value = [] then none else some value) else (sec.findItem other).map LpItem.value := by
  unfold LpSection.setString findItem
  cases found : sec.items.find? (LpItem.isEntry key) with
  | some item =>
    have named : ∃ old, item = .entry key old := by
      have hit := isEntry_iff.mp (List.find?_some found)
      cases item with
      | comment text => simp [LpItem.key] at hit
      | entry name old => exact ⟨old, by rw [Option.some.inj hit]⟩
    obtain ⟨old, rfl⟩ := named
    by_cases empty : value = []
    · simp only [empty, List.isEmpty_nil, if_true, removeItem]
      by_cases same : other = key
      · subst same
        rw [find?_eraseP_same (distinct empty), if_pos rfl, Option.map_none]
      · rw [find?_eraseP_other same, if_neg same]
    · have filled : value.isEmpty = false := by simpa using empty
      simp only [filled, Bool.false_eq_true, if_false, setItem, find?_setItem, found, if_neg empty]
      by_cases same : other = key
      · rw [if_pos same, if_pos same]
        rfl
      · rw [if_neg same, if_neg same]
  | none =>
    by_cases empty : value = []
    · simp only [empty, List.isEmpty_nil, if_true]
      by_cases same : other = key
      · subst same
        rw [found, if_pos rfl, Option.map_none]
      · rw [if_neg same]
    · have filled : value.isEmpty = false := by simpa using empty
      simp only [filled, Bool.false_eq_true, if_false, addItem, List.find?_append, if_neg empty]
      by_cases same : other = key
      · subst same
        simp [found, LpItem.isEntry, LpItem.key, LpItem.value]
      · have missed : LpItem.isEntry other (.entry key value) = false := by
          simp [LpItem.isEntry, LpItem.key, Ne.symm same]
        simp [missed, same]

theorem distinct_setString (distinct : DistinctEntries sec.items) : DistinctEntries (sec.setString key value).items := by
  unfold LpSection.setString
  cases found : sec.findItem key with
  | some item =>
    dsimp only
    split
    next => exact (List.eraseP_sublist.filterMap _).nodup distinct
    next =>
      have keys : (updateFirst (LpItem.isEntry key) (LpItem.setValue value) sec.items).map LpItem.key =
          sec.items.map LpItem.key := updateFirst_keys (fun item named => (setValue_key item).trans named) sec.items
      unfold DistinctEntries setItem
      have through : ∀ items : List LpItem, items.filterMap LpItem.key = (items.map LpItem.key).filterMap id := by
        intro items
        rw [List.filterMap_map]
        rfl
      dsimp only
      rw [through, keys, ← through]
      exact distinct
  | none =>
    dsimp only
    split
    next => exact distinct
    next =>
      unfold DistinctEntries addItem
      dsimp only
      rw [List.filterMap_append, List.nodup_append]
      refine ⟨distinct, by simp [LpItem.key], ?_⟩
      intro first member second single same
      obtain rfl : second = key := by simpa [LpItem.key] using single
      obtain ⟨item, inside, named⟩ := List.mem_filterMap.mp member
      exact List.find?_eq_none.mp found item inside (isEntry_iff.mpr (named.trans (congrArg some same)))

theorem name_setString (sec : LpSection) (key value : Text) : (sec.setString key value).name = sec.name := by
  unfold LpSection.setString
  cases sec.findItem key with
  | some item =>
    dsimp only
    split
    next => rfl
    next => rfl
  | none =>
    dsimp only
    split
    next => rfl
    next => rfl

end LpSection

namespace LpConfig

variable {config : LpConfig} {name other key wanted value : Text}

structure Distinct (config : LpConfig) : Prop where
  sections : DistinctKeys LpSection.name config.sections
  entries : ∀ sec ∈ config.sections, DistinctEntries sec.items

theorem Distinct.empty : Distinct {} := ⟨List.nodup_nil, by simp⟩

theorem findSection_eq (config : LpConfig) (name : Text) :
    config.findSection name = findKey LpSection.name name config.sections := rfl

theorem findSection_setString (config : LpConfig) (name key value other : Text) :
    (config.setString name key value).findSection other =
      if other = name then
        match config.findSection name with
        | some sec => some (sec.setString key value)
        | none => if value = [] then none else some { name := name, items := [.entry key value] }
      else config.findSection other := by
  unfold LpConfig.setString
  cases found : config.findSection name with
  | some sec =>
    have read := findKey_updateFirst (fun sec (named : LpSection.name sec = name) =>
      (LpSection.name_setString sec key value).trans named) other config.sections
    dsimp only
    rw [findSection_eq, updateSection, read]
    by_cases same : other = name
    · subst same
      rw [if_pos rfl, if_pos rfl, ← findSection_eq, found, Option.map_some]
    · rw [if_neg (Ne.symm same), if_neg same, findSection_eq]
  | none =>
    dsimp only
    by_cases empty : value = []
    · subst empty
      rw [if_pos (by simp), if_pos rfl]
      by_cases same : other = name
      · rw [if_pos same, same, found]
      · rw [if_neg same]
    · rw [if_neg (by simpa using empty), if_neg empty, findSection_eq, findKey_append, ← findSection_eq]
      by_cases same : other = name
      · subst same
        rw [found, if_pos rfl, Option.none_or]
      · rw [if_neg (Ne.symm same), if_neg same, Option.or_none]

theorem value?_setString (distinct : value = [] → config.Distinct) (name key other wanted : Text) :
    (config.setString name key value).value? other wanted =
      if other = name ∧ wanted = key then (if value = [] then none else some value)
      else config.value? other wanted := by
  unfold value?
  rw [findSection_setString]
  by_cases same : other = name
  · subst same
    rw [if_pos rfl]
    cases found : config.findSection other with
    | some sec =>
      have member : sec ∈ config.sections := findKey_mem found
      have read := @LpSection.findItem_setString sec key wanted value fun empty =>
        (distinct empty).entries sec member
      simp only [Option.bind_some, true_and]
      exact read
    | none =>
      by_cases empty : value = []
      · simp [empty]
      · by_cases again : wanted = key
        · subst again
          simp [empty, LpSection.findItem, LpItem.isEntry, LpItem.key, LpItem.value]
        · simp [empty, again, LpSection.findItem, LpItem.isEntry, LpItem.key, Ne.symm again]
  · simp [same]

theorem hasSection_setString (config : LpConfig) (name key value other : Text) :
    (config.setString name key value).hasSection other = (config.hasSection other || (other = name && value ≠ [])) := by
  unfold hasSection
  rw [findSection_setString]
  by_cases same : other = name
  · subst same
    rw [if_pos rfl]
    cases config.findSection other with
    | some sec => simp
    | none =>
      by_cases empty : value = []
      · simp [empty]
      · simp [empty]
  · simp [same]

theorem Distinct.setString (distinct : config.Distinct) (name key value : Text) :
    (config.setString name key value).Distinct := by
  unfold LpConfig.setString
  cases found : config.findSection name with
  | some sec =>
    refine ⟨distinct.sections.updateFirst fun sec named => (LpSection.name_setString sec key value).trans named, ?_⟩
    intro sec member
    rcases mem_updateFirst member with before | ⟨old, before, rfl⟩
    · exact distinct.entries sec before
    · exact LpSection.distinct_setString (distinct.entries old before)
  | none =>
    dsimp only
    split
    next => exact distinct
    next =>
      refine ⟨distinct.sections.append found, ?_⟩
      intro sec member
      rcases List.mem_append.mp member with before | single
      · exact distinct.entries sec before
      · obtain rfl := List.mem_singleton.mp single
        exact List.nodup_singleton key

theorem findSection_cleanSection (distinct : config.Distinct) (name other : Text) :
    (config.cleanSection name).findSection other = if other = name then none else config.findSection other := by
  have read := findKey_eraseP distinct.sections name other
  rw [findSection_eq, findSection_eq]
  by_cases same : other = name
  · rw [if_pos same.symm] at read
    rw [if_pos same]
    exact read
  · rw [if_neg (Ne.symm same)] at read
    rw [if_neg same]
    exact read

theorem Distinct.cleanSection (distinct : config.Distinct) (name : Text) : (config.cleanSection name).Distinct :=
  ⟨distinct.sections.eraseP _, fun sec member => distinct.entries sec (List.mem_of_mem_eraseP member)⟩

section Entries

/-- The section that has some rows, and nothing else. There is none without rows. -/
def rowsSection (name : Text) (rows : List (Text × Text)) : Option LpSection :=
  if rows.isEmpty then none else some { name := name, items := rows.map fun row => .entry row.1 row.2 }

/-- What entries leave in a section that was empty. -/
def writtenRows (entries : List ConfigEntry) : List (Text × Text) :=
  entries.filterMap fun entry => (entry.2.filter fun value => !value.isEmpty).map fun value => (entry.1, value)

theorem mem_writtenRows {entries : List ConfigEntry} {row : Text × Text} :
    row ∈ writtenRows entries ↔ (row.1, some row.2) ∈ entries ∧ row.2 ≠ [] := by
  unfold writtenRows
  simp only [List.mem_filterMap, Option.map_eq_some_iff, Option.filter_eq_some_iff]
  constructor
  · rintro ⟨⟨key, stored⟩, member, value, ⟨rfl, filled⟩, rfl⟩
    exact ⟨member, by simpa using filled⟩
  · rintro ⟨member, filled⟩
    exact ⟨_, member, row.2, ⟨rfl, by simpa using filled⟩, rfl⟩

theorem findItem_rows {name : Text} {rows : List (Text × Text)} (key : Text) :
    ({ name := name, items := rows.map fun row => .entry row.1 row.2 } : LpSection).findItem key =
      (findKey Prod.fst key rows).map fun row => .entry row.1 row.2 := by
  unfold LpSection.findItem findKey
  rw [List.find?_map]
  congr 2
  funext row
  simp [LpItem.isEntry, LpItem.key]

theorem rowsSection_setString {rows : List (Text × Text)} (named : config.findSection name = rowsSection name rows)
    (fresh : ∀ row ∈ rows, row.1 ≠ key) (value : Text) :
    (config.setString name key value).findSection name =
      rowsSection name (rows ++ if value.isEmpty then [] else [(key, value)]) := by
  rw [findSection_setString, if_pos rfl, named]
  unfold rowsSection
  cases rows with
  | nil =>
    by_cases empty : value = []
    · simp [empty]
    · simp [empty]
  | cons first rest =>
    have absent : findKey Prod.fst key (first :: rest) = none := findKey_none.mpr fresh
    simp only [List.isEmpty_cons, Bool.false_eq_true, if_false, LpSection.setString, findItem_rows, absent,
      Option.map_none, List.cons_append]
    by_cases empty : value = []
    · simp [empty]
    · simp [empty, LpSection.addItem]

/-- Entries of distinct keys become the rows of their section. -/
theorem findSection_writeEntries {entries : List ConfigEntry} {rows : List (Text × Text)}
    (named : config.findSection name = rowsSection name rows) (distinct : DistinctKeys Prod.fst entries)
    (fresh : ∀ row ∈ rows, ∀ entry ∈ entries, row.1 ≠ entry.1) :
    (entries.foldl (writeEntry name) config).findSection name = rowsSection name (rows ++ writtenRows entries) := by
  induction entries generalizing config rows with
  | nil => simpa [writtenRows] using named
  | cons entry rest ih =>
    obtain ⟨key, stored⟩ := entry
    obtain ⟨apart, others⟩ := List.nodup_cons.mp distinct
    rw [List.foldl_cons]
    cases stored with
    | none =>
      have skipped : writtenRows ((key, none) :: rest) = writtenRows rest := rfl
      rw [skipped]
      exact ih named others fun row member entry inside => fresh row member entry (List.mem_cons_of_mem _ inside)
    | some value =>
      have written := rowsSection_setString named (fun row member => fresh row member _ List.mem_cons_self) value
      have split : rows ++ writtenRows ((key, some value) :: rest) =
          (rows ++ if value.isEmpty then [] else [(key, value)]) ++ writtenRows rest := by
        by_cases empty : value = []
        · simp [writtenRows, empty]
        · simp [writtenRows, empty, Option.filter]
      rw [split]
      apply ih written others
      intro row member entry inside
      rcases List.mem_append.mp member with before | added
      · exact fresh row before entry (List.mem_cons_of_mem _ inside)
      · have here : row.1 = key := by
          by_cases empty : value = []
          · simp [empty] at added
          · simp only [List.isEmpty_iff, empty, if_false, List.mem_singleton] at added
            rw [added]
        rw [here]
        intro same
        exact apart (List.mem_map.mpr ⟨entry, inside, same.symm⟩)

theorem distinct_writtenRows {entries : List ConfigEntry} (distinct : DistinctKeys Prod.fst entries) :
    DistinctKeys Prod.fst (writtenRows entries) := by
  induction entries with
  | nil => exact List.nodup_nil
  | cons entry rest ih =>
    obtain ⟨apart, others⟩ := List.nodup_cons.mp distinct
    unfold writtenRows
    rw [List.filterMap_cons]
    split
    next => exact ih others
    next row kept =>
      have here : row.1 = entry.1 := by
        obtain ⟨value, -, rfl⟩ := Option.map_eq_some_iff.mp kept
        rfl
      refine List.nodup_cons.mpr ⟨?_, ih others⟩
      intro again
      obtain ⟨later, member, same⟩ := List.mem_map.mp again
      exact apart (List.mem_map.mpr ⟨_, (mem_writtenRows.mp member).1, same.trans here⟩)

/-- What is read from a section of rows. -/
theorem value?_rows {rows : List (Text × Text)} (named : config.findSection name = rowsSection name rows) (key : Text) :
    config.value? name key = (findKey Prod.fst key rows).map Prod.snd := by
  unfold value?
  rw [named]
  unfold rowsSection
  cases rows with
  | nil => rfl
  | cons first rest =>
    simp only [List.isEmpty_cons, Bool.false_eq_true, if_false, Option.bind_some, findItem_rows, Option.map_map]
    rfl

theorem getKeysNamesList_rows {rows : List (Text × Text)} (named : config.findSection name = rowsSection name rows) :
    config.getKeysNamesList name = rows.map Prod.fst := by
  unfold getKeysNamesList
  rw [named]
  unfold rowsSection
  cases rows with
  | nil => rfl
  | cons first rest =>
    simp only [List.isEmpty_cons, Bool.false_eq_true, if_false, Option.elim_some, List.filterMap_map]
    exact congrFun List.filterMap_eq_map (first :: rest)

end Entries

end LpConfig

end Liblinphone
