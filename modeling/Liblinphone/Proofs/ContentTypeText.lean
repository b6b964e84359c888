import Liblinphone.ContentType
import Liblinphone.Library.Scan

/-! Content types that are printed and parsed again. A semicolon that comes before the slash
makes the subtype longer with each parsing. -/

namespace Liblinphone

open Library

section Texts

variable (text : Text)

theorem isSpace_toLower (char : Char) : isSpace char.toLower = isSpace char := by
  have small : ∀ blank ∈ [' ', '\t', '\n', '\x0b', '\x0c', '\r'], blank.val.toNat < 97 ∧ blank.toLower = blank := by
    simp only [List.forall_mem_cons]
    refine ⟨?_, ?_, ?_, ?_, ?_, ?_, List.forall_mem_nil _⟩ <;> exact ⟨by decide, rfl⟩
  rw [Bool.eq_iff_iff, isSpace, isSpace, List.contains_iff_mem, List.contains_iff_mem]
  constructor
  · intro blank
    rwa [← eq_of_toLower_eq rfl (.inl (small _ blank).1)] at blank
  · intro blank
    rwa [(small char blank).2]

theorem trimText_lowercase : trimText (lowercase text) = lowercase (trimText text) := by
  have same : isSpace ∘ Char.toLower = isSpace := funext isSpace_toLower
  unfold trimText lowercase List.rdropWhile
  rw [List.dropWhile_map, same, ← List.map_reverse, List.dropWhile_map, same, List.map_reverse]

theorem trimText_trimText : trimText (trimText text) = trimText text := by
  have start : (trimText text).dropWhile isSpace = trimText text := by
    unfold trimText
    cases kept : (text.dropWhile isSpace).rdropWhile isSpace with
    | nil => rfl
    | cons first rest =>
      obtain ⟨last, whole⟩ := kept ▸ List.rdropWhile_prefix isSpace (text.dropWhile isSpace)
      have blank := List.head?_dropWhile_not isSpace text
      rw [← whole] at blank
      exact List.dropWhile_cons_of_neg (by simpa using blank)
  rw [trimText, start]
  exact List.rdropWhile_idempotent isSpace (text.dropWhile isSpace)

/-- Blanks alone are cut off. -/
theorem trimText_split : ∃ lead last : Text, (∀ char ∈ lead ++ last, isSpace char = true) ∧ text = lead ++ trimText text ++ last := by
  refine ⟨text.takeWhile isSpace, ((text.dropWhile isSpace).reverse.takeWhile isSpace).reverse, ?_, ?_⟩
  · intro char member
    rcases List.mem_append.mp member with front | back
    · exact List.mem_takeWhile_imp front
    · exact List.mem_takeWhile_imp (List.mem_reverse.mp back)
  · rw [trimText, List.rdropWhile, List.append_assoc, ← List.reverse_append, List.takeWhile_append_dropWhile, List.reverse_reverse,
      List.takeWhile_append_dropWhile]

end Texts

namespace HeaderParam

/-- The name and the value of a parameter do not hold what separates them. -/
structure Plain (param : HeaderParam) : Prop where
  equals : '=' ∉ param.name
  name : ';' ∉ param.name
  value : ';' ∉ param.value

/-- The text of a parameter without the separator in front of it. -/
def body (param : HeaderParam) : Text := param.name ++ if param.value.isEmpty then [] else '=' :: param.value

theorem asString_eq (param : HeaderParam) : param.asString = ';' :: param.body := rfl

theorem plain_ofText {param : Text} (single : ';' ∉ param) : (ofText param).Plain where
  equals := by
    intro member
    have other : ('=' != '=') = true := @List.mem_takeWhile_imp _ (· != '=') param '=' member
    exact absurd other (by decide)
  name := fun member => single (List.takeWhile_sublist _ |>.subset member)
  value := fun member => single ((List.dropWhile_sublist _).subset ((List.drop_sublist _ _).subset member))

theorem body_single {param : HeaderParam} (plain : param.Plain) : ';' ∉ param.body := by
  unfold body
  split <;> simp [plain.name, plain.value]

theorem ofText_body {param : HeaderParam} (plain : param.Plain) : ofText param.body = param := by
  have within : ∀ char ∈ param.name, (char != '=') = true := by
    intro char member
    exact bne_iff_ne.mpr fun same => plain.equals (same ▸ member)
  obtain ⟨name, value⟩ := param
  unfold ofText body
  cases value with
  | nil => simp [takeWhile_whole within, List.dropWhile_eq_nil_iff.mpr within]
  | cons first rest =>
    dsimp only [List.isEmpty_cons, Bool.false_eq_true, if_false]
    rw [if_neg Bool.false_ne_true, takeWhile_stop within (by decide), dropWhile_stop within (by decide)]
    rfl

end HeaderParam

namespace Header

variable {parameters params : List HeaderParam} {param : HeaderParam}

/-- Each name has one parameter. -/
def Distinct (parameters : List HeaderParam) : Prop := (parameters.map HeaderParam.name).Nodup

theorem distinct_first (distinct : Distinct (parameters ++ param :: params)) : Distinct (parameters ++ [param]) :=
  distinct.sublist (((List.Sublist.refl parameters).append ((List.nil_sublist params).cons_cons param)).map _)

theorem removeParameter_absent {name : Text} (absent : name ∉ parameters.map HeaderParam.name) :
    removeParameter parameters name = parameters := by
  have missing : findParameter parameters name = none := by
    refine List.find?_eq_none.mpr fun other member same => absent ?_
    exact of_decide_eq_true same ▸ List.mem_map_of_mem member
  rw [removeParameter, missing]

theorem not_mem_removeParameter (distinct : Distinct parameters) (name : Text) :
    name ∉ (removeParameter parameters name).map HeaderParam.name := by
  intro member
  obtain ⟨param, inside, named⟩ := List.mem_map.mp member
  unfold removeParameter at inside
  split at inside
  next found first =>
    obtain ⟨kept, other⟩ := List.mem_filter.mp inside
    have same : found.name = name := by simpa using List.find?_some first
    have equal : param = found := List.inj_on_of_nodup_map distinct kept (List.mem_of_find?_eq_some first) (named.trans same.symm)
    exact of_decide_eq_true other equal
  next none =>
    exact List.find?_eq_none.mp none param inside (decide_eq_true named)

theorem removeParameter_sublist (parameters : List HeaderParam) (name : Text) :
    (removeParameter parameters name).Sublist parameters := by
  unfold removeParameter
  split
  · exact List.filter_sublist
  · exact List.Sublist.refl _

theorem distinct_addParameter (distinct : Distinct parameters) (param : HeaderParam) : Distinct (addParameter parameters param) := by
  unfold Distinct addParameter
  rw [List.map_append, List.map_singleton, List.nodup_append_comm, List.singleton_append, List.nodup_cons]
  exact ⟨not_mem_removeParameter distinct param.name, distinct.sublist ((removeParameter_sublist parameters param.name).map _)⟩

theorem addParameter_new (new : Distinct (parameters ++ [param])) : addParameter parameters param = parameters ++ [param] := by
  unfold Distinct at new
  rw [List.map_append, List.nodup_append_comm, List.map_singleton, List.singleton_append, List.nodup_cons] at new
  rw [addParameter, removeParameter_absent new.1]

theorem mem_addParameter {other : HeaderParam} (member : other ∈ addParameter parameters param) :
    other ∈ parameters ∨ other = param := by
  rcases List.mem_append.mp member with kept | added
  · exact .inl ((removeParameter_sublist parameters param.name).subset kept)
  · exact .inr (List.mem_singleton.mp added)

/-- The parameters of a content type that is parsed. -/
structure Read (parameters : List HeaderParam) : Prop where
  distinct : Distinct parameters
  plain : ∀ param ∈ parameters, param.Plain

theorem read_addParameter (read : Read parameters) (plain : param.Plain) : Read (addParameter parameters param) where
  distinct := distinct_addParameter read.distinct param
  plain := by
    intro other member
    rcases mem_addParameter member with kept | rfl
    · exact read.plain other kept
    · exact plain

theorem readParameters_last {text : Text} (single : ';' ∉ text) :
    readParameters parameters text = addParameter parameters (HeaderParam.ofText text) := by
  have missing := findIdx?_missing single
  rw [readParameters]
  split
  next => rfl
  next found => rw [missing] at found; cases found

theorem readParameters_next {first rest : Text} (single : ';' ∉ first) :
    readParameters parameters (first ++ ';' :: rest) =
      readParameters (addParameter parameters (HeaderParam.ofText first)) rest := by
  have place := @findIdx?_first _ first rest ';' _ _ single
  rw [readParameters]
  split
  next found => rw [place] at found; cases found
  next posParam found =>
    cases Option.some.inj (place.symm.trans found)
    rw [List.take_left, drop_stop]

theorem read_readParameters (text : Text) : ∀ {parameters}, Read parameters →
    Read (readParameters parameters text) ∧ readParameters parameters text ≠ [] := by
  induction text using (measure List.length).wf.induction with
  | _ text ih =>
    intro parameters read
    by_cases more : ';' ∈ text
    · obtain ⟨first, rest, rfl, single⟩ := List.eq_append_cons_of_mem more
      rw [readParameters_next single]
      refine ih rest ?_ (read_addParameter read (HeaderParam.plain_ofText single))
      change rest.length < (first ++ ';' :: rest).length
      rw [List.length_append, List.length_cons]
      omega
    · rw [readParameters_last more]
      exact ⟨read_addParameter read (HeaderParam.plain_ofText more), by simp [addParameter]⟩

/-- Parameters that are printed are read in their order. -/
theorem readParameters_printed (rest : List HeaderParam) : ∀ {parameters first}, Read (parameters ++ first :: rest) →
    readParameters parameters (first.body ++ rest.flatMap HeaderParam.asString) = parameters ++ first :: rest := by
  induction rest with
  | nil =>
    intro parameters first read
    have plain := read.plain first (by simp)
    rw [List.flatMap_nil, List.append_nil, readParameters_last (HeaderParam.body_single plain), HeaderParam.ofText_body plain,
      addParameter_new read.distinct]
  | cons next rest ih =>
    intro parameters first read
    have plain := read.plain first (by simp)
    rw [List.flatMap_cons, HeaderParam.asString_eq, List.cons_append, readParameters_next (HeaderParam.body_single plain),
      HeaderParam.ofText_body plain, addParameter_new (distinct_first read.distinct)]
    rw [List.append_cons parameters first (next :: rest)] at read ⊢
    exact ih read

theorem addParameters_distinct (params : List HeaderParam) : ∀ {parameters}, Distinct (parameters ++ params) →
    addParameters parameters params = parameters ++ params := by
  induction params with
  | nil => intro parameters _; exact (List.append_nil parameters).symm
  | cons first rest ih =>
    intro parameters distinct
    have added := addParameter_new (distinct_first distinct)
    rw [List.append_cons] at distinct ⊢
    exact (congrArg (addParameters · rest) added).trans (ih distinct)

end Header

namespace ContentType

open Header

theorem ofTypes_eq {type subType : Text} (typed : '/' ∉ type) (subTyped : '/' ∉ subType) :
    ofTypes type subType =
      { type := lowercase type, subType := lowercase subType, value := lowercase type ++ '/' :: lowercase subType } := by
  simp [ofTypes, setType, setSubType, typed, subTyped]

theorem ofTypes_parameters (type subType : Text) : (ofTypes type subType).parameters = [] := by
  unfold ofTypes setType setSubType
  split_ifs <;> rfl

/-- A slash in one of the two leaves no valid type. -/
theorem ofTypes_valid {type subType : Text} (valid : (ofTypes type subType).isValid = true) : '/' ∉ type ∧ '/' ∉ subType := by
  by_cases typed : '/' ∉ type
  · by_cases subTyped : '/' ∉ subType
    · exact ⟨typed, subTyped⟩
    · simp [ofTypes, setType, setSubType, typed, subTyped, isValid] at valid
  · simp [ofTypes, setType, typed, isValid] at valid

section Parsing

variable {lead sub rest : Text}

theorem ofText_types (slash : '/' ∉ lead) (first : ';' ∉ lead) (single : ';' ∉ sub) :
    ofText (lead ++ '/' :: sub) = ofTypes (trimText lead) (trimText sub) := by
  have missing : (lead ++ '/' :: sub).findIdx? (· == ';') = none := findIdx?_missing (by simp [first, single])
  have cut : between (lead ++ '/' :: sub) lead.length (lead ++ '/' :: sub).length = sub := by
    unfold between
    rw [drop_stop, if_pos (by simp)]
    refine List.take_of_length_le ?_
    rw [List.length_append, List.length_cons]
    omega
  simp only [ofText, findIdx?_first slash, missing, Option.getD_none, List.take_left, cut]

theorem ofText_params (slash : '/' ∉ lead) (first : ';' ∉ lead) (single : ';' ∉ sub) :
    ofText (lead ++ '/' :: (sub ++ ';' :: rest)) =
      { ofTypes (trimText lead) (trimText sub) with parameters := readParameters [] rest } := by
  have place : (lead ++ '/' :: (sub ++ ';' :: rest)).findIdx? (· == ';') = some (lead.length + 1 + sub.length) := by
    have whole : lead ++ '/' :: (sub ++ ';' :: rest) = (lead ++ '/' :: sub) ++ ';' :: rest := by simp
    have before : ';' ∉ lead ++ '/' :: sub := by simp [first, single]
    rw [whole, findIdx?_first before, List.length_append, List.length_cons]
    exact congrArg some (by omega)
  have cut : between (lead ++ '/' :: (sub ++ ';' :: rest)) lead.length (lead.length + 1 + sub.length) = sub := by
    unfold between
    rw [drop_stop, if_pos (by omega), Nat.add_sub_cancel_left, List.take_left]
  have left : (lead ++ '/' :: (sub ++ ';' :: rest)).drop (lead.length + 1 + sub.length + 1) = rest := by
    rw [Nat.add_assoc, ← List.drop_drop, drop_stop, drop_stop]
  simp only [ofText, findIdx?_first slash, place, Option.getD_some, List.take_left, cut, left, ofTypes_parameters]

/-- A semicolon in front of the slash starts the parameters, and the subtype goes to the end. -/
theorem ofText_late (slash : '/' ∉ lead) (early : ';' ∈ lead) :
    ∃ params, params ≠ [] ∧ Header.Read params ∧
      ofText (lead ++ '/' :: rest) = { ofTypes (trimText lead) (trimText rest) with parameters := params } := by
  obtain ⟨start, others, rfl, single⟩ := List.eq_append_cons_of_mem early
  have place : (start ++ ';' :: others ++ '/' :: rest).findIdx? (· == ';') = some start.length := by
    rw [List.append_assoc, List.cons_append, findIdx?_first single]
  have cut : between (start ++ ';' :: others ++ '/' :: rest) (start ++ ';' :: others).length start.length = rest := by
    unfold between
    rw [if_neg (by rw [List.length_append, List.length_cons]; omega), drop_stop]
  have none : Header.Read [] := ⟨List.nodup_nil, by simp⟩
  refine ⟨readParameters [] ((start ++ ';' :: others ++ '/' :: rest).drop (start.length + 1)), ?_, ?_, ?_⟩
  · exact (read_readParameters _ none).2
  · exact (read_readParameters _ none).1
  · simp only [ofText, findIdx?_first slash, place, Option.getD_some, List.take_left, cut, ofTypes_parameters]

end Parsing

/-- A word of a type that was parsed. -/
structure Word (text : Text) : Prop where
  slashless : '/' ∉ text
  small : lowercase text = text
  trimmed : trimText text = text

theorem word_trimText {text : Text} (slashless : '/' ∉ trimText text) : Word (lowercase (trimText text)) where
  slashless := fun member => slashless ((mem_lowercase_iff (by decide) (by decide) _).mp member)
  small := lowercase_lowercase (trimText text)
  trimmed := by rw [trimText_lowercase, trimText_trimText]

/-- What holds of each valid content type that is parsed. -/
structure Parsed (contentType : ContentType) : Prop where
  type : Word contentType.type
  subType : Word contentType.subType
  value : contentType.value = contentType.type ++ '/' :: contentType.subType
  read : Header.Read contentType.parameters

theorem ofTypes_word {type subType : Text} (typed : Word type) (subTyped : Word subType) :
    ofTypes type subType = { type, subType, value := type ++ '/' :: subType } := by
  rw [ofTypes_eq typed.slashless subTyped.slashless, typed.small, subTyped.small]

theorem parsed_params {lead sub : Text} {params : List HeaderParam} (read : Header.Read params)
    (valid : (ofTypes (trimText lead) (trimText sub)).isValid = true) :
    Parsed { ofTypes (trimText lead) (trimText sub) with parameters := params } := by
  obtain ⟨typed, subTyped⟩ := ofTypes_valid valid
  rw [ofTypes_eq typed subTyped]
  exact ⟨word_trimText typed, word_trimText subTyped, rfl, read⟩

section Copies

variable {contentType : ContentType}

theorem copy_eq (parsed : Parsed contentType) : contentType.copy = contentType := by
  have added := @addParameters_distinct contentType.parameters [] parsed.read.distinct
  unfold copy
  rw [ofTypes_word parsed.type parsed.subType]
  dsimp only
  rw [added, List.nil_append, ← parsed.value]

theorem assign_eq (parsed : Parsed contentType) (target : ContentType) : target.assign contentType = contentType := by
  have added := @addParameters_distinct contentType.parameters [] parsed.read.distinct
  unfold assign setType setSubType
  rw [if_pos parsed.type.slashless, if_pos parsed.subType.slashless, parsed.type.small, parsed.subType.small, added,
    List.nil_append, ← parsed.value]

theorem strongEqual_self (distinct : Distinct contentType.parameters) : contentType.strongEqual contentType = true := by
  have found : ∀ param ∈ contentType.parameters, findParameter contentType.parameters param.name = some param := by
    intro param member
    cases first : findParameter contentType.parameters param.name with
    | none => exact absurd (decide_eq_true rfl) (List.find?_eq_none.mp first param member)
    | some other =>
      have named : other.name = param.name := by simpa using List.find?_some first
      rw [List.inj_on_of_nodup_map distinct (List.mem_of_find?_eq_some first) member named]
  unfold strongEqual
  simp only [beq_self_eq_true, Bool.true_and, List.all_eq_true]
  intro param member
  rw [found param member]
  exact beq_self_eq_true param.value

theorem reparse_eq (parsed : Parsed contentType) (first : ';' ∉ contentType.type) (single : ';' ∉ contentType.subType) :
    ofText contentType.getMediaType = contentType := by
  obtain ⟨type, subType, value, parameters⟩ := contentType
  obtain ⟨typed, subTyped, printed, read⟩ := parsed
  change value = type ++ '/' :: subType at printed
  subst printed
  unfold getMediaType
  cases parameters with
  | nil =>
    rw [List.flatMap_nil, List.append_nil, ofText_types typed.slashless first single, typed.trimmed, subTyped.trimmed,
      ofTypes_word typed subTyped]
  | cons param rest =>
    rw [List.flatMap_cons, HeaderParam.asString_eq, List.cons_append, List.append_assoc, List.cons_append,
      ofText_params typed.slashless first single, typed.trimmed, subTyped.trimmed, ofTypes_word typed subTyped,
      @readParameters_printed rest [] param read, List.nil_append]

/-- Trimming and small letters keep every semicolon. -/
theorem count_word (text : Text) : (lowercase (trimText text)).count ';' = text.count ';' := by
  have small (text : Text) : (lowercase text).count ';' = text.count ';' := by
    unfold lowercase List.count
    rw [List.countP_map]
    refine List.countP_congr fun char _ => ?_
    simp only [Function.comp_apply, beq_iff_eq]
    constructor
    · exact fun same => eq_of_toLower_eq same (.inl (by decide))
    · rintro rfl
      rfl
  obtain ⟨lead, last, blank, whole⟩ := trimText_split text
  have missing : ';' ∉ lead ++ last := fun member => absurd (blank ';' member) (by decide)
  have counted := congrArg (List.count ';') whole
  have none := List.count_eq_zero.mpr missing
  rw [List.count_append] at none
  rw [List.count_append, List.count_append] at counted
  rw [small, counted]
  omega

theorem mem_word_iff (text : Text) : ';' ∈ lowercase (trimText text) ↔ ';' ∈ text := by
  rw [← List.count_pos_iff, count_word, List.count_pos_iff]

/-- The parameters are read as a part of the subtype. -/
theorem reparse_late (parsed : Parsed contentType) (valid : contentType.isValid = true) (early : ';' ∈ contentType.type)
    (some : contentType.parameters ≠ []) : (ofText contentType.getMediaType).strongEqual contentType = false := by
  have longer : contentType.subType.count ';' <
      (contentType.subType ++ contentType.parameters.flatMap HeaderParam.asString).count ';' := by
    obtain ⟨param, rest, params⟩ := List.exists_cons_of_ne_nil some
    rw [List.count_append, params, List.flatMap_cons, HeaderParam.asString_eq, List.cons_append, List.count_cons_self]
    omega
  obtain ⟨params, -, -, again⟩ := @ofText_late contentType.type
    (contentType.subType ++ contentType.parameters.flatMap HeaderParam.asString) parsed.type.slashless early
  rw [getMediaType, parsed.value, List.append_assoc, List.cons_append, again, parsed.type.trimmed]
  rw [isValid, Bool.and_eq_true] at valid
  unfold strongEqual
  by_cases slashless : '/' ∉ trimText (contentType.subType ++ contentType.parameters.flatMap HeaderParam.asString)
  · rw [ofTypes_eq parsed.type.slashless slashless]
    have other : (lowercase (trimText (contentType.subType ++ contentType.parameters.flatMap HeaderParam.asString)) ==
        contentType.subType) = false := by
      refine beq_eq_false_iff_ne.mpr fun same => ?_
      have equal := count_word (contentType.subType ++ contentType.parameters.flatMap HeaderParam.asString)
      rw [same] at equal
      omega
    simp only [other, Bool.and_false, Bool.false_and]
  · have untyped : ([] == contentType.type) = false := by
      refine beq_eq_false_iff_ne.mpr fun same => ?_
      simp [← same] at valid
    simp [ofTypes, setType, setSubType, parsed.type.slashless, slashless, untyped]

end Copies

/-- A content type is the same after it is printed and parsed, copied or assigned. -/
structure Stable (contentType : ContentType) : Prop where
  reparsed : (ofText contentType.getMediaType).strongEqual contentType = true
  order : (ofText contentType.getMediaType).parameters = contentType.parameters
  copied : contentType.copy.strongEqual contentType = true
  assigned : ∀ target : ContentType, (target.assign contentType).strongEqual contentType = true

theorem stable_plain {contentType : ContentType} (parsed : Parsed contentType) (first : ';' ∉ contentType.type)
    (single : ';' ∉ contentType.subType) : contentType.Stable where
  reparsed := by
    rw [reparse_eq parsed first single]
    exact strongEqual_self parsed.read.distinct
  order := by rw [reparse_eq parsed first single]
  copied := by
    rw [copy_eq parsed]
    exact strongEqual_self parsed.read.distinct
  assigned := by
    intro target
    rw [assign_eq parsed target]
    exact strongEqual_self parsed.read.distinct

/-- The content type of a lead, a subtype and parameters that were separated. -/
theorem stable_params {lead sub : Text} {params : List HeaderParam} (read : Header.Read params)
    (valid : (ofTypes (trimText lead) (trimText sub)).isValid = true) (first : ';' ∉ lead) (single : ';' ∉ sub) :
    Stable { ofTypes (trimText lead) (trimText sub) with parameters := params } := by
  obtain ⟨typed, subTyped⟩ := ofTypes_valid valid
  refine stable_plain (parsed_params read valid) ?_ ?_
  · rw [ofTypes_eq typed subTyped]
    exact mt (mem_word_iff lead).mp first
  · rw [ofTypes_eq typed subTyped]
    exact mt (mem_word_iff sub).mp single

/-- A valid content type that is parsed is stable when no semicolon comes before the slash of its
text. -/
theorem text_form_stable_iff (text : Text) (valid : (ofText text).isValid = true) :
    (ofText text).Stable ↔ ';' ∉ text.takeWhile (· != '/') := by
  have slashed : '/' ∈ text := by
    by_contra missing
    rw [ofText, findIdx?_missing missing] at valid
    cases valid
  obtain ⟨lead, rest, rfl, slash⟩ := List.eq_append_cons_of_mem slashed
  have within : ∀ char ∈ lead, (char != '/') = true := by
    intro char member
    exact bne_iff_ne.mpr fun same => slash (same ▸ member)
  rw [takeWhile_stop within (by decide)]
  by_cases early : ';' ∈ lead
  · obtain ⟨params, some, read, parsed⟩ := @ofText_late lead rest slash early
    rw [parsed] at valid ⊢
    have typed := (ofTypes_valid valid).1
    have subTyped := (ofTypes_valid valid).2
    have kept : ';' ∈ (ofTypes (trimText lead) (trimText rest)).type := by
      rw [ofTypes_eq typed subTyped]
      exact (mem_word_iff lead).mpr early
    have changed := reparse_late (parsed_params read valid) valid kept some
    refine iff_of_false (fun stable => ?_) (not_not_intro early)
    exact Bool.false_ne_true (changed.symm.trans stable.reparsed)
  · have empty : Header.Read [] := ⟨List.nodup_nil, by simp⟩
    refine iff_of_true ?_ early
    by_cases more : ';' ∈ rest
    · obtain ⟨sub, others, rfl, single⟩ := List.eq_append_cons_of_mem more
      rw [ofText_params slash early single] at valid ⊢
      exact stable_params (read_readParameters others empty).1 valid early single
    · have parsed : ofText (lead ++ '/' :: rest) = { ofTypes (trimText lead) (trimText rest) with parameters := [] } := by
        rw [ofText_types slash early more, ← ofTypes_parameters (trimText lead) (trimText rest)]
      rw [parsed] at valid ⊢
      exact stable_params empty valid early more

theorem text_form_stable_plain : (ofText "text/plain;charset=utf-8;x".toList).Stable ↔
    ';' ∉ "text/plain;charset=utf-8;x".toList.takeWhile (· != '/') := by
  have parsed := @ofText_params "text".toList "plain".toList "charset=utf-8;x".toList (by decide) (by decide) (by decide)
  have valid : (ofTypes (trimText "text".toList) (trimText "plain".toList)).isValid = true := by decide
  exact text_form_stable_iff "text/plain;charset=utf-8;x".toList ((congrArg isValid parsed).trans valid)

theorem early_semicolon_grows : (ofText "x;n=a/b".toList).isValid = true ∧ ¬(ofText "x;n=a/b".toList).Stable := by
  obtain ⟨params, some, read, parsed⟩ := @ofText_late "x;n=a".toList "b".toList (by decide) (by decide)
  have valid : (ofTypes (trimText "x;n=a".toList) (trimText "b".toList)).isValid = true := by decide
  have early : ';' ∈ (ofTypes (trimText "x;n=a".toList) (trimText "b".toList)).type := by decide
  have changed := reparse_late (parsed_params read valid) valid early some
  rw [← parsed] at changed
  exact ⟨(congrArg isValid parsed).trans valid, fun stable => Bool.false_ne_true (changed.symm.trans stable.reparsed)⟩

end ContentType

end Liblinphone
