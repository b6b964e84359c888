import Liblinphone.CapabilityNegotiation
import Liblinphone.Library.Scan

/-! The reader of a configuration line gives back what was written. A set that
repeats its first index loses a separator, a line that only deletes attributes has
no index to convert, and an index above the range of a signed number is refused. -/

namespace Liblinphone
open PotentialCfgGraph

theorem indexText_digits (idx : UInt32) : Digits (indexText idx) := numberText_digits _

theorem getElementIdx_digits {text : Text} (digits : Digits text) :
    getElementIdx text =
      if textNumber text < 2 ^ 31 then .ok (UInt32.ofNat (textNumber text)) else .error .outOfRange := by
  have whole : text.takeWhile Char.isDigit = text := Library.takeWhile_whole digits.2
  have start : text.dropWhile (fun char => !char.isDigit) = text := by
    cases text with
    | nil => rfl
    | cons first rest =>
      rw [List.dropWhile_cons_of_neg]
      simp [digits.2 first (by simp)]
  have nonempty : text.isEmpty = false := by simp [digits.1]
  simp only [getElementIdx, start, whole, nonempty, Bool.false_eq_true, if_false]

theorem getElementIdx_index (idx : UInt32) :
    getElementIdx (indexText idx) = if idx.toNat < 2 ^ 31 then .ok idx else .error .outOfRange := by
  rw [getElementIdx_digits (indexText_digits idx), indexText, textNumber_numberText, UInt32.ofNat_toNat]

section Sets

/-- The parts of a set between its separators: an index that is the first one again
is not separated from the one before it. -/
def acapParts (first : UInt32) (last : Text) : List UInt32 → List Text
  | [] => [last]
  | idx :: rest =>
    if idx = first then acapParts first (last ++ indexText idx) rest else last :: acapParts first (indexText idx) rest

variable {first : UInt32}

theorem acapParts_digits {rest : List UInt32} {last : Text} (digits : Digits last) :
    ∀ part ∈ acapParts first last rest, Digits part := by
  induction rest generalizing last with
  | nil => simpa [acapParts] using digits
  | cons idx rest ih =>
    simp only [acapParts]
    split
    next => exact ih (digits.append (indexText_digits idx))
    next =>
      intro part member
      rcases List.mem_cons.mp member with rfl | later
      · exact digits
      · exact ih (indexText_digits idx) part later

theorem acapParts_ne_nil (last : Text) (rest : List UInt32) : acapParts first last rest ≠ [] := by
  induction rest generalizing last with
  | nil => simp [acapParts]
  | cons idx rest ih =>
    simp only [acapParts]
    split
    next => exact ih _
    next => simp

theorem acapParts_length (last : Text) (rest : List UInt32) :
    (acapParts first last rest).length + rest.count first = rest.length + 1 := by
  induction rest generalizing last with
  | nil => simp [acapParts]
  | cons idx rest ih =>
    simp only [acapParts, List.count_cons, List.length_cons]
    split
    next same =>
      have := ih (last ++ indexText idx)
      simp only [same, beq_self_eq_true, if_true]
      rw [same] at this
      omega
    next other =>
      have := ih (indexText idx)
      simp only [beq_iff_eq, other, if_false, List.length_cons]
      omega

theorem acapParts_distinct {rest : List UInt32} (last : Text) (distinct : first ∉ rest) :
    acapParts first last rest = last :: rest.map indexText := by
  induction rest generalizing last with
  | nil => rfl
  | cons idx rest ih =>
    rw [List.mem_cons, not_or] at distinct
    rw [acapParts, if_neg (Ne.symm distinct.1), ih (indexText idx) distinct.2, List.map_cons]

theorem acapSetString_parts {rest : List UInt32} (nonzero : ∀ idx ∈ first :: rest, idx ≠ 0) :
    acapSetString (first :: rest) = [','].intercalate (acapParts first (indexText first) rest) := by
  have general : ∀ (others : List UInt32) (before last : Text), (∀ idx ∈ others, idx ≠ 0) →
      others.foldl (fun text acapIdx =>
        let separated := if some acapIdx != (first :: rest).head? then text ++ [','] else text
        if acapIdx != 0 then separated ++ indexText acapIdx else separated) (before ++ last) =
        before ++ [','].intercalate (acapParts first last others) := by
    intro others
    induction others with
    | nil =>
      intro before last _
      simp [acapParts, List.intercalate]
    | cons idx others ih =>
      intro before last positive
      have here := positive idx (by simp)
      have later := fun other member => positive other (List.mem_cons_of_mem _ member)
      rw [List.foldl_cons, acapParts]
      by_cases same : idx = first
      · have written := ih before (last ++ indexText idx) later
        rw [if_pos same]
        subst same
        simpa [here] using written
      · have written := ih (before ++ last ++ [',']) (indexText idx) later
        rw [if_neg same, List.intercalate_cons_of_ne_nil (acapParts_ne_nil _ _)]
        simpa [same, here] using written
  have here := nonzero first (by simp)
  have written := general rest [] (indexText first) fun idx member => nonzero idx (List.mem_cons_of_mem _ member)
  simpa [acapSetString, here] using written

/-- The separators of a set split it into its parts. -/
theorem acapSetString_split {rest : List UInt32} (nonzero : ∀ idx ∈ first :: rest, idx ≠ 0) :
    (acapSetString (first :: rest)).splitOn ',' = acapParts first (indexText first) rest := by
  rw [acapSetString_parts nonzero, List.splitOn_intercalate]
  · intro part member
    exact (acapParts_digits (indexText_digits first) part member).not_mem (by decide)
  · exact acapParts_ne_nil _ _

/-- A set whose first index is not repeated has as many parts as indexes. -/
theorem acapSetString_count {rest : List UInt32} (nonzero : ∀ idx ∈ first :: rest, idx ≠ 0) :
    ((acapSetString (first :: rest)).splitOn ',').length = rest.length + 1 ↔ first ∉ rest := by
  have count := @acapParts_length first (indexText first) rest
  rw [acapSetString_split nonzero, ← List.count_eq_zero]
  omega

end Sets

section Reading

variable {availableCaps : List SdpCapability}

def SmallIndex (idx : UInt32) : Prop := idx.toNat < 2 ^ 31

def Offered (availableCaps : List SdpCapability) (idx : UInt32) : Prop := ∃ cap ∈ availableCaps, cap.index = idx

theorem Offered.found {idx : UInt32} (offered : Offered availableCaps idx) :
    ∃ cap, (availableCaps.find? fun cap => cap.index == idx) = some cap ∧ cap.index = idx := by
  obtain ⟨cap, member, same⟩ := offered
  cases found : availableCaps.find? fun cap => cap.index == idx with
  | none => exact absurd (List.find?_eq_none.mp found cap member) (by simp [same])
  | some hit => exact ⟨hit, rfl, by simpa using List.find?_some found⟩

/-- A set is read with all its parts, or dropped. -/
theorem parseCaps_length {parts : List Text} {state parsed : CapState ConfigCapability}
    (read : parseCaps availableCaps state parts = .ok parsed) :
    parsed.caps = [] ∨ parsed.caps.length = state.caps.length + parts.length := by
  induction parts generalizing state with
  | nil =>
    simp only [parseCaps, Except.ok.injEq] at read
    simp [← read]
  | cons index rest ih =>
    rw [parseCaps] at read
    cases converted : getElementIdx index with
    | error reason => simp [converted, bind, Except.bind] at read
    | ok idx =>
      simp only [converted, bind, Except.bind, pure, Except.pure] at read
      split at read
      next =>
        simp only [Except.ok.injEq] at read
        simp [← read]
      next cap _ =>
        rcases ih read with dropped | counted
        · exact .inl dropped
        · right
          simp only [List.length_append, List.length_cons, List.length_nil] at counted ⊢
          omega

/-- Available indexes are read back, unless one of them is out of range. -/
theorem parseCaps_indexes {idxs : List UInt32} {state : CapState ConfigCapability} (required : state.mandatory = true)
    (offered : ∀ idx ∈ idxs, Offered availableCaps idx) :
    (∃ caps, caps.map (·.cap.index) = idxs ∧ (∀ idx ∈ idxs, SmallIndex idx) ∧
      parseCaps availableCaps state (idxs.map indexText) = .ok { state with caps := state.caps ++ caps }) ∨
    (¬ ∀ idx ∈ idxs, SmallIndex idx) ∧
      parseCaps availableCaps state (idxs.map indexText) = .error .outOfRange := by
  induction idxs generalizing state with
  | nil => exact .inl ⟨[], rfl, by simp, by simp [parseCaps]⟩
  | cons idx idxs ih =>
    have noOpening : (indexText idx).contains '[' = false := by
      simpa using (indexText_digits idx).not_mem (by decide)
    have noClosing : (indexText idx).contains ']' = false := by
      simpa using (indexText_digits idx).not_mem (by decide)
    obtain ⟨cap, found, same⟩ := (offered idx (by simp)).found
    rw [List.map_cons, parseCaps, getElementIdx_index]
    by_cases small : idx.toNat < 2 ^ 31
    · simp only [if_pos small, bind, Except.bind, required, noOpening, noClosing, Bool.not_false, Bool.and_self, found,
        Bool.or_false]
      rcases @ih { state with caps := state.caps ++ [⟨true, cap⟩], mandatory := true } rfl
        (fun other member => offered other (List.mem_cons_of_mem _ member)) with
        ⟨caps, indexes, smaller, read⟩ | ⟨big, failed⟩
      · refine .inl ⟨⟨true, cap⟩ :: caps, by simp [indexes, same], ?_, ?_⟩
        · intro other member
          rcases List.mem_cons.mp member with rfl | later
          · exact small
          · exact smaller other later
        · rw [read]
          simp
      · refine .inr ⟨?_, failed⟩
        intro all
        exact big fun other member => all other (List.mem_cons_of_mem _ member)
    · refine .inr ⟨fun all => small (all idx (by simp)), ?_⟩
      simp only [if_neg small, bind, Except.bind]

/-- The sets that are kept have been read with all their parts. -/
theorem parseSets_lengths {sets : List (List UInt32)} {state parsed : CapState (List ConfigCapability)}
    (read : parseSets availableCaps state (sets.map acapSetString) = .ok parsed) :
    ∃ kept : List (List UInt32), kept.Sublist sets ∧ parsed.caps.map List.length =
      state.caps.map List.length ++ kept.map fun acapSet => ((acapSetString acapSet).splitOn ',').length := by
  induction sets generalizing state with
  | nil =>
    simp only [List.map_nil, parseSets, Except.ok.injEq] at read
    exact ⟨[], .refl [], by simp [← read]⟩
  | cons acapSet sets ih =>
    rw [List.map_cons, parseSets] at read
    cases converted : parseCaps availableCaps { mandatory := state.mandatory } ((acapSetString acapSet).splitOn ',') with
    | error reason => simp [converted, bind, Except.bind] at read
    | ok caps =>
      simp only [converted, bind, Except.bind] at read
      obtain ⟨kept, inside, lengths⟩ := ih read
      by_cases dropped : caps.caps = []
      · exact ⟨kept, inside.cons _, by simpa [dropped] using lengths⟩
      · have counted := (parseCaps_length converted).resolve_left dropped
        refine ⟨acapSet :: kept, inside.cons_cons _, ?_⟩
        simpa [dropped, counted] using lengths

/-- The index sets of a configuration: none is empty, and each index is available. -/
structure FormedSets (availableCaps : List SdpCapability) (sets : List (List UInt32)) : Prop where
  nonempty : ∀ acapSet ∈ sets, acapSet ≠ []
  nonzero : ∀ acapSet ∈ sets, ∀ idx ∈ acapSet, idx ≠ 0
  offered : ∀ acapSet ∈ sets, ∀ idx ∈ acapSet, Offered availableCaps idx

def FirstOnce (sets : List (List UInt32)) : Prop := ∀ first rest, first :: rest ∈ sets → first ∉ rest

def SmallIndexes (sets : List (List UInt32)) : Prop := ∀ acapSet ∈ sets, ∀ idx ∈ acapSet, SmallIndex idx

theorem FormedSets.tail {acapSet : List UInt32} {sets : List (List UInt32)}
    (formed : FormedSets availableCaps (acapSet :: sets)) : FormedSets availableCaps sets :=
  ⟨fun other member => formed.nonempty other (List.mem_cons_of_mem _ member),
    fun other member => formed.nonzero other (List.mem_cons_of_mem _ member),
    fun other member => formed.offered other (List.mem_cons_of_mem _ member)⟩

/-- Sets whose first index is not repeated are read back, unless an index is out of
range. -/
theorem parseSets_indexes {sets : List (List UInt32)} {state : CapState (List ConfigCapability)}
    (formed : FormedSets availableCaps sets) (once : FirstOnce sets) (required : state.mandatory = true) :
    (∃ caps, caps.map (List.map (·.cap.index)) = sets ∧ SmallIndexes sets ∧
      parseSets availableCaps state (sets.map acapSetString) = .ok { state with caps := state.caps ++ caps }) ∨
    ¬ SmallIndexes sets ∧ parseSets availableCaps state (sets.map acapSetString) = .error .outOfRange := by
  induction sets generalizing state with
  | nil => exact .inl ⟨[], rfl, by simp [SmallIndexes], by simp [parseSets]⟩
  | cons acapSet sets ih =>
    cases acapSet with
    | nil => exact absurd rfl (formed.nonempty [] (by simp))
    | cons first rest =>
      have parts : (acapSetString (first :: rest)).splitOn ',' = (first :: rest).map indexText := by
        rw [acapSetString_split (formed.nonzero _ (by simp)), acapParts_distinct _ (once first rest (by simp)),
          List.map_cons]
      rw [List.map_cons, parseSets, parts]
      rcases @parseCaps_indexes availableCaps (first :: rest) { mandatory := state.mandatory } required
        (formed.offered _ (by simp)) with ⟨caps, indexes, small, read⟩ | ⟨big, failed⟩
      · have present : caps ≠ [] := by
          rintro rfl
          simp at indexes
        simp only [read, bind, Except.bind, List.nil_append, List.isEmpty_eq_false_iff.mpr present,
          Bool.false_eq_true, if_false, Bool.and_true]
        rcases @ih { state with caps := state.caps ++ [caps] } formed.tail
          (fun other others member => once other others (List.mem_cons_of_mem _ member)) required with
          ⟨others, same, smaller, readOthers⟩ | ⟨bigger, failedOthers⟩
        · refine .inl ⟨caps :: others, by simp [indexes, same], ?_, ?_⟩
          · intro other member
            rcases List.mem_cons.mp member with rfl | later
            · exact small
            · exact smaller other later
          · rw [readOthers]
            simp
        · refine .inr ⟨?_, failedOthers⟩
          intro all
          exact bigger fun other member => all other (List.mem_cons_of_mem _ member)
      · refine .inr ⟨fun all => big (all _ (by simp)), ?_⟩
        simp only [failed, bind, Except.bind]

theorem acapSetString_chars {acapSet : List UInt32} (nonempty : acapSet ≠ []) (nonzero : ∀ idx ∈ acapSet, idx ≠ 0) :
    acapSetString acapSet ≠ [] ∧ ∀ char ∈ acapSetString acapSet, char.isDigit = true ∨ char = ',' := by
  cases acapSet with
  | nil => exact absurd rfl nonempty
  | cons first rest =>
    have digits := @acapParts_digits first rest _ (indexText_digits first)
    refine ⟨?_, ?_⟩
    · intro empty
      have parts := acapSetString_split nonzero
      rw [empty, List.splitOn_nil] at parts
      exact (digits [] (by simp [← parts])).1 rfl
    · intro char member
      rw [acapSetString_parts nonzero] at member
      rcases mem_intercalate member with separating | ⟨part, inside, found⟩
      · exact .inr separating
      · exact .inl ((digits part inside).2 char found)

variable {cfg : SalStreamConfiguration}

theorem acapString_joined (formed : FormedSets availableCaps cfg.acapIndexes) :
    cfg.acapString = ['|'].intercalate (cfg.acapIndexes.map acapSetString) := by
  have general : ∀ (sets : List (List UInt32)) (before : Text), before ≠ [] → FormedSets availableCaps sets →
      sets.foldl (fun text acapSet => (if text.isEmpty then text else text ++ ['|']) ++ acapSetString acapSet) before =
        ['|'].intercalate (before :: sets.map acapSetString) := by
    intro sets
    induction sets with
    | nil =>
      intro before _ _
      simp
    | cons acapSet sets ih =>
      intro before present sound
      rw [List.foldl_cons, if_neg (by simpa using present), ih _ (by simp) sound.tail, List.map_cons,
        List.intercalate_cons_cons]
      cases sets with
      | nil => simp
      | cons next others => simp [List.intercalate_cons_cons]
  rw [SalStreamConfiguration.acapString]
  cases listed : cfg.acapIndexes with
  | nil => rfl
  | cons acapSet sets =>
    rw [listed] at formed
    have written := acapSetString_chars (formed.nonempty acapSet (by simp)) (formed.nonzero acapSet (by simp))
    rw [List.foldl_cons, List.map_cons]
    simpa using general sets (acapSetString acapSet) written.1 formed.tail

theorem acapString_chars (formed : FormedSets availableCaps cfg.acapIndexes) :
    ∀ char ∈ cfg.acapString, char.isDigit = true ∨ char = ',' ∨ char = '|' := by
  intro char member
  rw [acapString_joined formed] at member
  rcases mem_intercalate member with separating | ⟨part, inside, found⟩
  · exact .inr (.inr separating)
  · obtain ⟨acapSet, listed, rfl⟩ := List.mem_map.mp inside
    have written := acapSetString_chars (formed.nonempty _ listed) (formed.nonzero _ listed)
    rcases written.2 char found with digit | comma
    · exact .inl digit
    · exact .inr (.inl comma)

theorem acapString_not_mem (formed : FormedSets availableCaps cfg.acapIndexes) {char : Char}
    (other : char.isDigit = false) (noComma : char ≠ ',') (noBar : char ≠ '|') : char ∉ cfg.acapString := by
  intro member
  rcases acapString_chars formed char member with digit | comma | bar
  · rw [digit] at other
    exact Bool.noConfusion other
  · exact noComma comma
  · exact noBar bar

theorem acapString_split (formed : FormedSets availableCaps cfg.acapIndexes) (listed : cfg.acapIndexes ≠ []) :
    cfg.acapString.splitOn '|' = cfg.acapIndexes.map acapSetString := by
  rw [acapString_joined formed, List.splitOn_intercalate]
  · intro part member
    obtain ⟨acapSet, inside, rfl⟩ := List.mem_map.mp member
    intro bar
    have written := acapSetString_chars (formed.nonempty _ inside) (formed.nonzero _ inside)
    rcases written.2 '|' bar with digit | comma
    · exact absurd digit (by decide)
    · exact absurd comma (by decide)
  · simpa using listed

theorem acapString_isEmpty (formed : FormedSets availableCaps cfg.acapIndexes) :
    cfg.acapString.isEmpty = cfg.acapIndexes.isEmpty := by
  cases listed : cfg.acapIndexes with
  | nil => simp [SalStreamConfiguration.acapString, listed]
  | cons acapSet sets =>
    have parts := acapString_split formed (by simp [listed])
    have written := acapSetString_chars (formed.nonempty acapSet (by simp [listed])) (formed.nonzero acapSet (by simp [listed]))
    cases text : cfg.acapString with
    | cons char rest => rfl
    | nil =>
      rw [text, listed, List.splitOn_nil, List.map_cons] at parts
      exact absurd (List.cons.inj parts).1.symm written.1

/-- The sets of a configuration are read back when no first index is repeated and no
index is out of range. -/
theorem parseIdxList_sets (formed : FormedSets availableCaps cfg.acapIndexes) (listed : cfg.acapIndexes ≠ [])
    (once : FirstOnce cfg.acapIndexes) (small : SmallIndexes cfg.acapIndexes) :
    ∃ caps, caps.map (List.map (·.cap.index)) = cfg.acapIndexes ∧
      parseIdxList availableCaps cfg.acapString = .ok (caps, true) := by
  rcases @parseSets_indexes availableCaps cfg.acapIndexes {} formed once rfl with ⟨caps, same, -, read⟩ | ⟨big, -⟩
  · refine ⟨caps, same, ?_⟩
    simp only [parseIdxList, acapString_split formed listed, read, bind, Except.bind, pure, Except.pure, List.nil_append]
  · exact absurd small big

theorem parseIdxList_sets_only (formed : FormedSets availableCaps cfg.acapIndexes) (listed : cfg.acapIndexes ≠ [])
    {parsed : List (List ConfigCapability) × Bool} (read : parseIdxList availableCaps cfg.acapString = .ok parsed)
    (same : parsed.1.map (List.map (·.cap.index)) = cfg.acapIndexes) :
    FirstOnce cfg.acapIndexes ∧ SmallIndexes cfg.acapIndexes := by
  simp only [parseIdxList, acapString_split formed listed] at read
  cases converted : parseSets availableCaps {} (cfg.acapIndexes.map acapSetString) with
  | error reason => simp [converted, bind, Except.bind] at read
  | ok final =>
    simp only [converted, bind, Except.bind, pure, Except.pure, Except.ok.injEq] at read
    obtain ⟨kept, inside, lengths⟩ := parseSets_lengths converted
    have counts : final.caps.map List.length = cfg.acapIndexes.map List.length := by
      rw [← same, ← read, List.map_map]
      simp [Function.comp_def]
    have every : kept = cfg.acapIndexes := by
      apply inside.eq_of_length
      have sizes := congrArg List.length lengths
      have others := congrArg List.length counts
      simp only [List.length_map, List.map_nil, List.nil_append] at sizes others
      omega
    have parts : ∀ acapSet ∈ cfg.acapIndexes, ((acapSetString acapSet).splitOn ',').length = acapSet.length := by
      rw [every, counts, List.map_nil, List.nil_append] at lengths
      exact fun acapSet member => (List.map_inj_left.mp lengths acapSet member).symm
    have once : FirstOnce cfg.acapIndexes := by
      intro first rest member
      exact (acapSetString_count (formed.nonzero _ member)).mp (parts _ member)
    refine ⟨once, ?_⟩
    rcases @parseSets_indexes availableCaps cfg.acapIndexes {} formed once rfl with ⟨_, _, small, _⟩ | ⟨_, failed⟩
    · exact small
    · rw [failed] at converted
      exact absurd converted (by simp)

end Reading

namespace SalStreamConfiguration

variable {cfg : SalStreamConfiguration} {mediaAcap mediaTcap : List SdpCapability}

/-- A configuration that refers to available capabilities, as it is written in a line. -/
structure Described (cfg : SalStreamConfiguration) (mediaAcap mediaTcap : List SdpCapability) : Prop where
  acaps : FormedSets mediaAcap cfg.acapIndexes
  tcap : cfg.tcapIndex = 0 ∨ Offered mediaTcap cfg.tcapIndex
  something : cfg.acapIndexes ≠ [] ∨ cfg.tcapIndex ≠ 0 ∨ cfg.deleteMediaAttributes = true ∨
    cfg.deleteSessionAttributes = true

/-- The reader gives back what the line was written from. -/
def Decodes (cfg : SalStreamConfiguration) (mediaAcap mediaTcap : List SdpCapability) : Prop :=
  ∃ decoded, processConfig mediaAcap mediaTcap (cfg.getSdpString.splitOn ' ') = .ok decoded ∧
    decoded.acap.map (List.map (·.cap.index)) = cfg.acapIndexes ∧
    decoded.tcap.map (·.cap.index) = (if cfg.tcapIndex = 0 then [] else [cfg.tcapIndex]) ∧
    decoded.deleteMediaAttributes = cfg.deleteMediaAttributes ∧
    decoded.deleteSessionAttributes = cfg.deleteSessionAttributes

/-- What is said about attributes: which ones are deleted, and which ones are added. -/
def attributeBody (cfg : SalStreamConfiguration) : Text :=
  if !cfg.deleteAttrs.isEmpty && !cfg.acapString.isEmpty then cfg.deleteAttrs ++ [':'] ++ cfg.acapString
  else if !cfg.deleteAttrs.isEmpty then cfg.deleteAttrs
  else cfg.acapString

def attributePart (cfg : SalStreamConfiguration) : List Text :=
  if cfg.attributeBody.isEmpty then [] else [['a', '='] ++ cfg.attributeBody]

def transportPart (cfg : SalStreamConfiguration) : List Text :=
  if cfg.tcapIndex = 0 then [] else [['t', '='] ++ indexText cfg.tcapIndex]

theorem getSdpString_parts (cfg : SalStreamConfiguration) :
    cfg.getSdpString = [' '].intercalate (cfg.attributePart ++ cfg.transportPart) := by
  have number := indexText_digits cfg.tcapIndex
  unfold getSdpString attributePart transportPart attributeBody tcapString
  cases deleted : cfg.deleteAttrs with
  | nil =>
    cases added : cfg.acapString with
    | nil => by_cases actual : cfg.tcapIndex = 0 <;> simp [actual, number.1]
    | cons char rest => by_cases actual : cfg.tcapIndex = 0 <;> simp [actual, number.1]
  | cons first others =>
    cases added : cfg.acapString with
    | nil => by_cases actual : cfg.tcapIndex = 0 <;> simp [actual, number.1]
    | cons char rest => by_cases actual : cfg.tcapIndex = 0 <;> simp [actual, number.1]

theorem deleteAttrs_chars (cfg : SalStreamConfiguration) :
    ∀ char ∈ cfg.deleteAttrs, char = '-' ∨ char = 'm' ∨ char = 's' := by
  unfold deleteAttrs
  intro char member
  split at member
  next => simpa using member
  next =>
    split at member
    next =>
      rcases List.mem_cons.mp member with dash | rest
      · exact .inl dash
      · exact .inr (.inr (List.mem_singleton.mp rest))
    next =>
      split at member
      next =>
        rcases List.mem_cons.mp member with dash | rest
        · exact .inl dash
        · exact .inr (.inl (List.mem_singleton.mp rest))
      next => cases member

theorem deleteAttrs_not_mem (cfg : SalStreamConfiguration) {char : Char} (noDash : char ≠ '-') (noMedia : char ≠ 'm')
    (noSession : char ≠ 's') : char ∉ cfg.deleteAttrs := by
  intro member
  rcases cfg.deleteAttrs_chars char member with dash | media | session
  · exact noDash dash
  · exact noMedia media
  · exact noSession session

theorem deleteAttrs_flags (cfg : SalStreamConfiguration) :
    cfg.deleteAttrs.contains 'm' = cfg.deleteMediaAttributes ∧
      cfg.deleteAttrs.contains 's' = cfg.deleteSessionAttributes := by
  unfold deleteAttrs
  cases cfg.deleteMediaAttributes <;> cases cfg.deleteSessionAttributes <;> decide

theorem attributeBody_not_mem (formed : FormedSets mediaAcap cfg.acapIndexes) {char : Char}
    (other : char.isDigit = false) (known : char ∉ [',', '|', '-', 'm', 's', ':']) : char ∉ cfg.attributeBody := by
  simp only [List.mem_cons, List.not_mem_nil, or_false, not_or] at known
  obtain ⟨noComma, noBar, noDash, noMedia, noSession, noColon⟩ := known
  have added := acapString_not_mem formed other noComma noBar
  have deleted := cfg.deleteAttrs_not_mem noDash noMedia noSession
  unfold attributeBody
  split
  next => simp [added, deleted, noColon]
  next =>
    split
    next => exact deleted
    next => exact added

theorem getSdpString_split (described : cfg.Described mediaAcap mediaTcap)
    (written : cfg.attributePart ++ cfg.transportPart ≠ []) :
    cfg.getSdpString.splitOn ' ' = cfg.attributePart ++ cfg.transportPart := by
  rw [getSdpString_parts, List.splitOn_intercalate _ _ written]
  intro part member
  rcases List.mem_append.mp member with changes | transport
  · unfold attributePart at changes
    split at changes
    next => cases changes
    next =>
      rw [List.mem_singleton] at changes
      have body : ' ' ∉ cfg.attributeBody := attributeBody_not_mem described.acaps (by decide) (by decide)
      simp [changes, body]
  · unfold transportPart at transport
    split at transport
    next => cases transport
    next =>
      rw [List.mem_singleton] at transport
      have number : ' ' ∉ indexText cfg.tcapIndex := (indexText_digits cfg.tcapIndex).not_mem (by decide)
      simp [transport, number]

theorem parseIdxList_single {idx : UInt32} (offered : Offered mediaTcap idx) :
    (SmallIndex idx ∧ ∃ cap : ConfigCapability, cap.cap.index = idx ∧
      parseIdxList mediaTcap (indexText idx) = .ok ([[cap]], true)) ∨
    ¬ SmallIndex idx ∧ parseIdxList mediaTcap (indexText idx) = .error .outOfRange := by
  have noBar : '|' ∉ indexText idx := (indexText_digits idx).not_mem (by decide)
  have noComma : ',' ∉ indexText idx := (indexText_digits idx).not_mem (by decide)
  simp only [parseIdxList, List.splitOn_eq_singleton noBar, parseSets, List.splitOn_eq_singleton noComma]
  rcases @parseCaps_indexes mediaTcap [idx] {} rfl (by simpa using offered) with
    ⟨caps, indexes, small, read⟩ | ⟨big, failed⟩
  · obtain ⟨cap, rfl, same⟩ := List.map_eq_singleton_iff.mp indexes
    refine .inl ⟨small idx (by simp), cap, same, ?_⟩
    rw [List.map_singleton] at read
    simp [read, bind, Except.bind, pure, Except.pure]
  · refine .inr ⟨by simpa using big, ?_⟩
    rw [List.map_singleton] at failed
    simp only [failed, bind, Except.bind]

theorem transportPart_split {idx : UInt32} :
    (['t', '='] ++ indexText idx).splitOn '=' = [['t'], indexText idx] := by
  have noEqual : '=' ∉ indexText idx := (indexText_digits idx).not_mem (by decide)
  have alone : '=' ∉ ['t'] := by decide
  rw [List.cons_append, List.singleton_append, ← List.singleton_append,
    List.splitOn_append_cons_self_of_not_mem alone, List.splitOn_eq_singleton noEqual]

/-- The transport of a line is read last, into whatever was read before it. -/
theorem processCfgs_transport (described : cfg.Described mediaAcap mediaTcap) {state : ConfigState}
    (fresh : state.tcapCfgList = []) :
    (SmallIndex cfg.tcapIndex ∧ ∃ tcap : List ConfigCapability,
      tcap.map (·.cap.index) = (if cfg.tcapIndex = 0 then [] else [cfg.tcapIndex]) ∧
      processCfgs mediaAcap mediaTcap state cfg.transportPart = .ok (some { state with tcapCfgList := tcap })) ∨
    ¬ SmallIndex cfg.tcapIndex ∧
      processCfgs mediaAcap mediaTcap state cfg.transportPart = .error .outOfRange := by
  unfold transportPart
  by_cases actual : cfg.tcapIndex = 0
  · refine .inl ⟨by simp [SmallIndex, actual], [], by simp [actual], ?_⟩
    simp [actual, processCfgs, ← fresh]
  · have noColon : ':' ∉ indexText cfg.tcapIndex := (indexText_digits _).not_mem (by decide)
    rw [if_neg actual, if_neg actual]
    simp only [processCfgs, transportPart_split, processCfg, List.getLastD_cons, List.getLastD_nil, List.splitOn_eq_singleton noColon]
    rcases parseIdxList_single (described.tcap.resolve_left actual) with ⟨small, cap, same, read⟩ | ⟨big, failed⟩
    · refine .inl ⟨small, [cap], by simp [same], ?_⟩
      simp [fresh, read, bind, Except.bind, pure, Except.pure]
    · refine .inr ⟨big, ?_⟩
      simp [fresh, failed, bind, Except.bind]

theorem attributePart_split (formed : FormedSets mediaAcap cfg.acapIndexes) :
    (['a', '='] ++ cfg.attributeBody).splitOn '=' = [['a'], cfg.attributeBody] := by
  have noEqual : '=' ∉ cfg.attributeBody := attributeBody_not_mem formed (by decide) (by decide)
  have alone : '=' ∉ ['a'] := by decide
  rw [List.cons_append, List.singleton_append, ← List.singleton_append,
    List.splitOn_append_cons_self_of_not_mem alone, List.splitOn_eq_singleton noEqual]

/-- The list of indexes comes last, after what is deleted. -/
theorem attributeBody_split (formed : FormedSets mediaAcap cfg.acapIndexes) (listed : cfg.acapIndexes ≠ []) :
    (cfg.attributeBody.splitOn ':').getLastD [] = cfg.acapString ∧
      ((cfg.attributeBody.splitOn ':').headD []).contains 'm' = cfg.deleteMediaAttributes ∧
      ((cfg.attributeBody.splitOn ':').headD []).contains 's' = cfg.deleteSessionAttributes := by
  have noColon : ':' ∉ cfg.acapString := acapString_not_mem formed (by decide) (by decide) (by decide)
  have present : cfg.acapString.isEmpty = false := by simpa [acapString_isEmpty formed] using listed
  have flags := cfg.deleteAttrs_flags
  cases deleted : cfg.deleteAttrs with
  | nil =>
    have noMedia : 'm' ∉ cfg.acapString := acapString_not_mem formed (by decide) (by decide) (by decide)
    have noSession : 's' ∉ cfg.acapString := acapString_not_mem formed (by decide) (by decide) (by decide)
    rw [deleted] at flags
    simp only [attributeBody, deleted, List.isEmpty_nil, Bool.not_true, Bool.false_and, Bool.false_eq_true, if_false,
      List.splitOn_eq_singleton noColon]
    exact ⟨rfl, by simpa [noMedia] using flags.1, by simpa [noSession] using flags.2⟩
  | cons first others =>
    have noDelete : ':' ∉ cfg.deleteAttrs := cfg.deleteAttrs_not_mem (by decide) (by decide) (by decide)
    have body : cfg.attributeBody.splitOn ':' = [cfg.deleteAttrs, cfg.acapString] := by
      simp only [attributeBody, present, deleted, List.isEmpty_cons, Bool.not_false, Bool.and_self, if_true]
      rw [← deleted, List.append_assoc, List.singleton_append, List.splitOn_append_cons_self_of_not_mem noDelete,
        List.splitOn_eq_singleton noColon]
    rw [body]
    exact ⟨rfl, flags⟩

theorem attributeBody_isEmpty (formed : FormedSets mediaAcap cfg.acapIndexes) :
    cfg.attributeBody.isEmpty = (cfg.acapIndexes.isEmpty && cfg.deleteAttrs.isEmpty) := by
  unfold attributeBody
  rw [← acapString_isEmpty formed]
  cases cfg.acapString <;> cases cfg.deleteAttrs <;> rfl

theorem processCfgs_attributes {availableAcap : List SdpCapability} (formed : FormedSets mediaAcap cfg.acapIndexes)
    (listed : cfg.acapIndexes ≠ []) (rest : List Text) :
    processCfgs availableAcap mediaTcap {} (cfg.attributePart ++ rest) = (do
      let parsed ← parseIdxList availableAcap cfg.acapString
      processCfgs availableAcap mediaTcap
        { acapCfgList := parsed.1
          processingError := !parsed.2 && parsed.1.isEmpty
          deleteMediaAttributes := cfg.deleteMediaAttributes
          deleteSessionAttributes := cfg.deleteSessionAttributes } rest) := by
  obtain ⟨indexes, media, session⟩ := attributeBody_split formed listed
  have present : cfg.attributeBody.isEmpty = false := by simp [attributeBody_isEmpty formed, listed]
  simp only [attributePart, present, Bool.false_eq_true, if_false, List.singleton_append, processCfgs,
    attributePart_split formed, processCfg, List.getLastD_cons, List.getLastD_nil, indexes, List.headD_cons, media, session]
  cases parseIdxList availableAcap cfg.acapString with
  | error reason => simp [bind, Except.bind]
  | ok parsed => simp [bind, Except.bind, pure, Except.pure]

/-- A line that only deletes attributes has no index to convert. -/
theorem processCfgs_deleting (formed : FormedSets mediaAcap cfg.acapIndexes) (unlisted : cfg.acapIndexes = [])
    (deleting : cfg.deleteAttrs ≠ []) (rest : List Text) :
    processCfgs mediaAcap mediaTcap {} (cfg.attributePart ++ rest) = .error .noDigits := by
  have present : cfg.deleteAttrs.isEmpty = false := by simpa using deleting
  have body : cfg.attributeBody = cfg.deleteAttrs := by
    have absent : cfg.acapString.isEmpty = true := by simp [acapString_isEmpty formed, unlisted]
    simp [attributeBody, absent, deleting]
  have assigned := attributePart_split formed
  rw [body] at assigned
  have noColon : ':' ∉ cfg.deleteAttrs := cfg.deleteAttrs_not_mem (by decide) (by decide) (by decide)
  have noBar : '|' ∉ cfg.deleteAttrs := cfg.deleteAttrs_not_mem (by decide) (by decide) (by decide)
  have noComma : ',' ∉ cfg.deleteAttrs := cfg.deleteAttrs_not_mem (by decide) (by decide) (by decide)
  have noDigits : getElementIdx cfg.deleteAttrs = .error .noDigits := by
    have skipped : cfg.deleteAttrs.dropWhile (fun char => !char.isDigit) = [] := by
      rw [List.dropWhile_eq_nil_iff]
      intro char member
      rcases cfg.deleteAttrs_chars char member with rfl | rfl | rfl <;> decide
    simp [getElementIdx, skipped]
  simp only [attributePart, body, present, Bool.false_eq_true, if_false, List.singleton_append, processCfgs,
    assigned, processCfg, List.getLastD_cons, List.getLastD_nil, List.headD_cons,
    List.splitOn_eq_singleton noColon, parseIdxList, List.splitOn_eq_singleton noBar, parseSets,
    List.splitOn_eq_singleton noComma, parseCaps, noDigits]
  rfl

/-- When a line is read back: some set of attributes is listed if attributes are
deleted, no set repeats its first index, and no index is out of range. -/
structure ReadBack (cfg : SalStreamConfiguration) : Prop where
  listed : cfg.acapIndexes = [] → cfg.deleteMediaAttributes = false ∧ cfg.deleteSessionAttributes = false
  once : FirstOnce cfg.acapIndexes
  smallAcaps : SmallIndexes cfg.acapIndexes
  smallTcap : SmallIndex cfg.tcapIndex

theorem deleteAttrs_eq_nil (cfg : SalStreamConfiguration) :
    cfg.deleteAttrs = [] ↔ cfg.deleteMediaAttributes = false ∧ cfg.deleteSessionAttributes = false := by
  unfold deleteAttrs
  cases cfg.deleteMediaAttributes <;> cases cfg.deleteSessionAttributes <;> decide

theorem attributePart_listed (formed : FormedSets mediaAcap cfg.acapIndexes) (listed : cfg.acapIndexes ≠ []) :
    cfg.attributePart ≠ [] := by
  have present : cfg.attributeBody.isEmpty = false := by simp [attributeBody_isEmpty formed, listed]
  simp [attributePart, present]

/-- A line without attributes: only its transport is read. -/
theorem decodes_transport (described : cfg.Described mediaAcap mediaTcap) (unlisted : cfg.acapIndexes = [])
    (kept : cfg.deleteAttrs = []) : cfg.Decodes mediaAcap mediaTcap ↔ SmallIndex cfg.tcapIndex := by
  have flags := cfg.deleteAttrs_eq_nil.mp kept
  have potential : cfg.tcapIndex ≠ 0 := by
    rcases described.something with listed | potential | media | session
    · exact absurd unlisted listed
    · exact potential
    · rw [flags.1] at media
      exact absurd media (by decide)
    · rw [flags.2] at session
      exact absurd session (by decide)
  have noAttributes : cfg.attributePart = [] := by
    simp [attributePart, attributeBody_isEmpty described.acaps, unlisted, kept]
  have written : cfg.attributePart ++ cfg.transportPart ≠ [] := by simp [noAttributes, transportPart, potential]
  rw [Decodes, getSdpString_split described written, noAttributes, List.nil_append, processConfig]
  rcases @processCfgs_transport cfg mediaAcap mediaTcap described {} rfl with ⟨small, tcap, same, read⟩ | ⟨big, failed⟩
  · refine ⟨fun _ => small, fun _ => ?_⟩
    have present : tcap ≠ [] := by
      rintro rfl
      simp [potential] at same
    simp only [read, bind, Except.bind, pure, Except.pure, Option.elim_some, ConfigState.attribute]
    refine ⟨{ tcap }, by simp [present], by simp [unlisted], same, flags.1.symm, flags.2.symm⟩
  · refine ⟨?_, fun small => absurd small big⟩
    rintro ⟨decoded, read, -⟩
    simp [failed, bind, Except.bind] at read

/-- A line with sets of attributes. -/
theorem decodes_listed (described : cfg.Described mediaAcap mediaTcap) (listed : cfg.acapIndexes ≠ []) :
    cfg.Decodes mediaAcap mediaTcap ↔
      FirstOnce cfg.acapIndexes ∧ SmallIndexes cfg.acapIndexes ∧ SmallIndex cfg.tcapIndex := by
  have written : cfg.attributePart ++ cfg.transportPart ≠ [] := by simp [attributePart_listed described.acaps listed]
  rw [Decodes, getSdpString_split described written, processConfig, processCfgs_attributes described.acaps listed]
  constructor
  · rintro ⟨decoded, read, acaps, -⟩
    cases parsed : parseIdxList mediaAcap cfg.acapString with
    | error reason => simp [parsed, bind, Except.bind] at read
    | ok found =>
      simp only [parsed, bind, Except.bind, pure, Except.pure] at read
      rcases @processCfgs_transport cfg mediaAcap mediaTcap described
        { acapCfgList := found.1
          processingError := !found.2 && found.1.isEmpty
          deleteMediaAttributes := cfg.deleteMediaAttributes
          deleteSessionAttributes := cfg.deleteSessionAttributes } rfl with ⟨small, tcap, same, last⟩ | ⟨big, failed⟩
      · simp only [last, Except.ok.injEq, Option.elim_some, ConfigState.attribute] at read
        split at read
        next =>
          rw [← read] at acaps
          exact absurd acaps.symm listed
        next =>
          rw [← read] at acaps
          obtain ⟨once, smallAcaps⟩ := parseIdxList_sets_only described.acaps listed parsed acaps
          exact ⟨once, smallAcaps, small⟩
      · simp [failed] at read
  · rintro ⟨once, smallAcaps, small⟩
    obtain ⟨caps, same, parsed⟩ := parseIdxList_sets described.acaps listed once smallAcaps
    have present : caps ≠ [] := by
      rintro rfl
      exact listed same.symm
    rcases @processCfgs_transport cfg mediaAcap mediaTcap described
      { acapCfgList := caps
        deleteMediaAttributes := cfg.deleteMediaAttributes
        deleteSessionAttributes := cfg.deleteSessionAttributes } rfl with ⟨_, tcap, sameTcap, last⟩ | ⟨big, _⟩
    · simp only [parsed, bind, Except.bind, pure, Except.pure, Bool.not_true, Bool.false_and, last, Option.elim_some,
        ConfigState.attribute]
      refine ⟨⟨caps, tcap, cfg.deleteMediaAttributes, cfg.deleteSessionAttributes⟩, by simp [present], same, sameTcap,
        rfl, rfl⟩
    · exact absurd small big

/-- The reader gives back what a configuration line was written from exactly when
attributes are deleted together with some that are added, no set repeats its first
index, and every index is in the range of a signed number. -/
theorem configuration_line_decodes_iff (described : cfg.Described mediaAcap mediaTcap) :
    cfg.Decodes mediaAcap mediaTcap ↔ cfg.ReadBack := by
  by_cases listed : cfg.acapIndexes = []
  · by_cases kept : cfg.deleteAttrs = []
    · rw [decodes_transport described listed kept]
      refine ⟨fun small => ⟨fun _ => cfg.deleteAttrs_eq_nil.mp kept, ?_, ?_, small⟩, fun back => back.smallTcap⟩
      · simp [FirstOnce, listed]
      · simp [SmallIndexes, listed]
    · refine ⟨?_, fun back => absurd (cfg.deleteAttrs_eq_nil.mpr (back.listed listed)) kept⟩
      rintro ⟨decoded, read, -⟩
      have written : cfg.attributePart ++ cfg.transportPart ≠ [] := by
        simp [attributePart, attributeBody_isEmpty described.acaps, kept]
      rw [getSdpString_split described written, processConfig,
        processCfgs_deleting described.acaps listed kept] at read
      simp [bind, Except.bind] at read
  · rw [decodes_listed described listed]
    exact ⟨fun ⟨once, smallAcaps, small⟩ => ⟨fun empty => absurd empty listed, once, smallAcaps, small⟩,
      fun back => ⟨back.once, back.smallAcaps, back.smallTcap⟩⟩

theorem configuration_line_decodes_two_sets :
    let cfg : SalStreamConfiguration := { acapIndexes := [[1, 2], [3]], tcapIndex := 1, deleteMediaAttributes := true }
    cfg.Decodes [⟨1, "key-mgmt", ""⟩, ⟨2, "crypto", ""⟩, ⟨3, "fingerprint", ""⟩] [⟨1, "", "RTP/SAVP"⟩] := by
  intro cfg
  have formed : FormedSets [⟨1, "key-mgmt", ""⟩, ⟨2, "crypto", ""⟩, ⟨3, "fingerprint", ""⟩] cfg.acapIndexes :=
    ⟨by simp [cfg], by simp [cfg], by simp [cfg, Offered]⟩
  refine (configuration_line_decodes_iff ⟨formed, .inr ?_, by simp [cfg]⟩).mpr ⟨by simp [cfg], ?_, ?_, ?_⟩
  · simp [cfg, Offered]
  · intro first rest member
    simp only [cfg, List.mem_cons, List.cons.injEq, List.not_mem_nil, or_false] at member
    rcases member with ⟨rfl, rfl⟩ | ⟨rfl, rfl⟩ <;> decide
  · simp [cfg, SmallIndexes, SmallIndex]
  · simp [cfg, SmallIndex]

/-- A line that deletes the attributes of the media and only offers a transport. -/
theorem configuration_line_only_deletes :
    let cfg : SalStreamConfiguration := { tcapIndex := 1, deleteMediaAttributes := true }
    cfg.Described [] [⟨1, "", "RTP/SAVP"⟩] ∧
      processConfig [] [⟨1, "", "RTP/SAVP"⟩] (cfg.getSdpString.splitOn ' ') = .error .noDigits ∧
      ¬ cfg.Decodes [] [⟨1, "", "RTP/SAVP"⟩] := by
  intro cfg
  have raised : processConfig [] [⟨1, "", "RTP/SAVP"⟩] (cfg.getSdpString.splitOn ' ') = .error .noDigits := by decide
  refine ⟨⟨⟨by simp [cfg], by simp [cfg], by simp [cfg]⟩, .inr (by simp [cfg, Offered]), by simp [cfg]⟩, raised, ?_⟩
  rintro ⟨decoded, read, -⟩
  rw [raised] at read
  cases read

end SalStreamConfiguration

end Liblinphone
