import Liblinphone.AccountParams
import Liblinphone.Proofs.ConfigValues

/-! What the parameters of an account keep when they are written to their section and
read again. The entries have distinct keys, so that each is read as it was written. The
custom contact has no entry, some addresses are written as URIs, and the identifier and
the tags have values that are read as another one, or as none. -/

namespace Liblinphone

open Library

section Texts

theorem afterFirst_append (wanted rest : Text) : afterFirst wanted (wanted ++ rest) = some rest := by
  cases whole : wanted ++ rest with
  | nil =>
    obtain ⟨rfl, rfl⟩ := List.append_eq_nil_iff.mp whole
    rfl
  | cons char others =>
    have begins : wanted.isPrefixOf (char :: others) = true := by
      rw [List.isPrefixOf_iff_prefix, ← whole]
      exact List.prefix_append _ _
    rw [afterFirst, if_pos begins, ← whole, List.drop_left]

theorem filter_filled {value : Text} (filled : value ≠ []) :
    (some value).filter (fun value => !value.isEmpty) = some value := by
  simp [Option.filter, filled]

theorem trimText_blank (text : Text) : trimText (' ' :: text) = trimText text := rfl

/-- Tags are separated as a list is, when there is no tag twice. -/
theorem tagsText_eq {first : Text} {rest : List Text} (distinct : (first :: rest).Nodup) :
    AccountParams.tagsText (first :: rest) = [','].intercalate (first :: rest.map (' ' :: ·)) := by
  have others : ∀ tag ∈ rest, some tag ≠ some first := by
    intro tag member same
    rw [Option.some.injEq] at same
    exact (List.nodup_cons.mp distinct).1 (same ▸ member)
  have separated : ∀ (tags : List Text) (start : Text), [','].intercalate (start :: tags.map (' ' :: ·)) =
      start ++ tags.flatMap (", ".toList ++ ·) := by
    intro tags
    induction tags with
    | nil =>
      intro start
      simp
    | cons tag later ih =>
      intro start
      rw [List.map_cons, List.intercalate_cons_cons, ih]
      simp
  unfold AccountParams.tagsText
  rw [separated, List.flatMap_cons, List.head?_cons, if_neg (by simp)]
  congr 1
  apply List.flatMap_congr
  intro tag member
  rw [if_pos (others tag member)]

/-- A tag that is read as it is written. -/
def PlainTag (tag : Text) : Prop := tag ≠ [] ∧ ',' ∉ tag ∧ trimText tag = tag

theorem splitTags_tagsText {first : Text} {rest : List Text} (distinct : (first :: rest).Nodup)
    (plain : ∀ tag ∈ first :: rest, PlainTag tag) :
    AccountParams.splitTags (AccountParams.tagsText (first :: rest)) = first :: rest := by
  have separate : ∀ part ∈ first :: rest.map (' ' :: ·), ',' ∉ part := by
    intro part member
    rcases List.mem_cons.mp member with rfl | later
    · exact (plain part List.mem_cons_self).2.1
    · obtain ⟨tag, inside, rfl⟩ := List.mem_map.mp later
      simpa using (plain tag (List.mem_cons_of_mem _ inside)).2.1
  have trimmed : (rest.map (' ' :: ·)).map trimText = rest := by
    rw [List.map_map]
    conv_rhs => rw [← List.map_id rest]
    apply List.map_congr_left
    intro tag member
    exact (trimText_blank tag).trans (plain tag (List.mem_cons_of_mem _ member)).2.2
  unfold AccountParams.splitTags
  rw [tagsText_eq distinct, List.splitOn_intercalate _ separate (List.cons_ne_nil _ _), List.map_cons,
    (plain first List.mem_cons_self).2.2, trimmed]

/-- The word that stands for no tags is also the text of one list of tags. -/
theorem tagsText_eq_empty {first : Text} {rest : List Text} (distinct : (first :: rest).Nodup) :
    AccountParams.tagsText (first :: rest) = "empty".toList ↔ first :: rest = ["empty".toList] := by
  rw [tagsText_eq distinct]
  cases rest with
  | nil => simp
  | cons next others =>
    rw [List.map_cons, List.intercalate_cons_cons]
    constructor
    · intro same
      have comma : ',' ∈ "empty".toList := by
        rw [← same]
        simp
      exact absurd comma (by decide)
    · intro same
      simp at same

theorem tagsText_ne_nil {first : Text} {rest : List Text} (distinct : (first :: rest).Nodup) (filled : first ≠ []) :
    AccountParams.tagsText (first :: rest) ≠ [] := by
  rw [tagsText_eq distinct]
  cases rest with
  | nil => simpa using filled
  | cons next others => simp [List.intercalate_cons_cons, filled]

end Texts

namespace CustomParams

variable {custom : CustomParams} {config : LpConfig} {sec key value other : Text}

theorem getCustomParam_addCustomParam (custom : CustomParams) (key value other : Text) :
    (custom.addCustomParam key value).getCustomParam other = if other = key then value else custom.getCustomParam other := by
  unfold addCustomParam
  split
  next entry found =>
    have read := findKey_updateFirst (fun entry (named : Prod.fst entry = key) =>
      (show Prod.fst (entry.1, value) = key from named)) other custom.params
    unfold getCustomParam
    dsimp only
    rw [read]
    by_cases same : other = key
    · subst same
      rw [if_pos rfl, if_pos rfl, found]
      rfl
    · rw [if_neg (Ne.symm same), if_neg same]
  next absent =>
    unfold getCustomParam
    dsimp only
    rw [findKey_append]
    by_cases same : other = key
    · subst same
      rw [absent, if_pos rfl, if_pos rfl]
      rfl
    · rw [if_neg (Ne.symm same), if_neg same, Option.or_none]

/-- After the names of a section were gone through, each parameter that has a name
there has the value of the section. -/
theorem getCustomParam_readNames {names : List Text}
    (prefixed : ∀ name ∈ names, ∀ pruned, afterFirst paramPrefix name = some pruned → name = paramPrefix ++ pruned)
    (custom : CustomParams) (other : Text) :
    (names.foldl (readCustomParam config sec) custom).getCustomParam other =
      if paramPrefix ++ other ∈ names then config.getString sec (paramPrefix ++ other) []
      else custom.getCustomParam other := by
  induction names generalizing custom with
  | nil => rfl
  | cons name rest ih =>
    rw [List.foldl_cons, ih fun later member => prefixed later (List.mem_cons_of_mem _ member)]
    by_cases later : paramPrefix ++ other ∈ rest
    · rw [if_pos later, if_pos (List.mem_cons_of_mem _ later)]
    · rw [if_neg later]
      unfold readCustomParam
      split
      next pruned cut =>
        obtain rfl := prefixed name List.mem_cons_self pruned cut
        rw [getCustomParam_addCustomParam]
        by_cases same : other = pruned
        · subst same
          rw [if_pos rfl, if_pos List.mem_cons_self]
        · rw [if_neg same, if_neg]
          intro member
          rcases List.mem_cons.mp member with here | inside
          · exact same (List.append_cancel_left here)
          · exact later inside
      next absent =>
        rw [if_neg]
        intro member
        rcases List.mem_cons.mp member with here | inside
        · rw [← here, afterFirst_append] at absent
          cases absent
        · exact later inside

end CustomParams

theorem AvpfMode.toInt_range (mode : AvpfMode) : -2 ^ 31 ≤ mode.toInt ∧ mode.toInt < 2 ^ 31 := by
  cases mode with
  | default => decide
  | disabled => decide
  | enabled => decide

theorem AvpfMode.ofInt_toInt (mode : AvpfMode) : AvpfMode.ofInt mode.toInt = mode := by
  cases mode with
  | default => rfl
  | disabled => rfl
  | enabled => rfl

namespace AccountParams

section Keys

variable (format : AddressFormat) (params : AccountParams) (pushAsString : Bool → Text)

def blankFormat : AddressFormat := ⟨fun _ => none, fun _ => [], fun _ => []⟩

def firstKeys : List Text := (({} : AccountParams).firstEntries blankFormat fun _ => []).map Prod.fst

def lastKeys : List Text := (({} : AccountParams).lastEntries blankFormat).map Prod.fst

/-- The fixed keys are distinct, and that of the custom contact is not among them. -/
theorem fixedKeys_distinct : ("custom_contact".toList :: (firstKeys ++ lastKeys)).Nodup := by decide +kernel

theorem fixedKeys_plain : ∀ key ∈ firstKeys ++ lastKeys, afterFirst CustomParams.paramPrefix key = none := by
  decide +kernel

theorem keys_eq : (params.entries format pushAsString).map Prod.fst =
    firstKeys ++ params.customParams.params.map (fun entry => CustomParams.paramPrefix ++ entry.1) ++ lastKeys := by
  unfold entries CustomParams.customEntries
  rw [List.map_append, List.map_append, List.map_map]
  rfl

/-- No two entries have the same key. -/
theorem entries_distinct : DistinctKeys Prod.fst (params.entries format pushAsString) := by
  unfold DistinctKeys
  rw [keys_eq]
  have fixed := List.nodup_append.mp (List.nodup_cons.mp fixedKeys_distinct).2
  have custom : (params.customParams.params.map fun entry => CustomParams.paramPrefix ++ entry.1).Nodup := by
    have mapped : params.customParams.params.map (fun entry => CustomParams.paramPrefix ++ entry.1) =
        (params.customParams.params.map Prod.fst).map (CustomParams.paramPrefix ++ ·) := by
      rw [List.map_map]
      rfl
    rw [mapped]
    exact List.Nodup.map (fun first second same => List.append_cancel_left same) params.customParams.distinct
  have apart : ∀ key ∈ firstKeys ++ lastKeys,
      key ∉ params.customParams.params.map fun entry => CustomParams.paramPrefix ++ entry.1 := by
    intro key member inside
    obtain ⟨entry, -, rfl⟩ := List.mem_map.mp inside
    have none := fixedKeys_plain _ member
    rw [afterFirst_append] at none
    cases none
  refine List.nodup_append.mpr ⟨List.nodup_append.mpr ⟨fixed.1, custom, ?_⟩, fixed.2.1, ?_⟩
  · intro first member second inside same
    exact apart first (List.mem_append_left _ member) (same ▸ inside)
  · intro first member second inside same
    rcases List.mem_append.mp member with early | middle
    · exact fixed.2.2 first early second inside same
    · exact apart second (List.mem_append_right _ inside) (same ▸ middle)

end Keys

section Values

variable {format : AddressFormat} {params : AccountParams} {pushAsString : Bool → Text} {config : LpConfig}
  {index : Int} {key : Text}

theorem findSection_written (distinct : config.Distinct) :
    (params.writeToConfigFile format pushAsString config index).findSection (accountSection index) =
      LpConfig.rowsSection (accountSection index) (LpConfig.writtenRows (params.entries format pushAsString)) := by
  have cleaned : (config.cleanSection (accountSection index)).findSection (accountSection index) =
      LpConfig.rowsSection (accountSection index) [] := by
    rw [LpConfig.findSection_cleanSection distinct, if_pos rfl]
    rfl
  have written := LpConfig.findSection_writeEntries cleaned (entries_distinct format params pushAsString) (by simp)
  rw [List.nil_append] at written
  exact written

/-- The value of a key is the one of its entry, unless it is empty. -/
theorem value?_entry (distinct : config.Distinct) {stored : Option Text}
    (member : (key, stored) ∈ params.entries format pushAsString) :
    (params.writeToConfigFile format pushAsString config index).value? (accountSection index) key =
      stored.filter fun value => !value.isEmpty := by
  have keys := entries_distinct format params pushAsString
  rw [LpConfig.value?_rows (findSection_written distinct)]
  cases kept : stored.filter fun value => !value.isEmpty with
  | some value =>
    obtain ⟨rfl, filled⟩ := Option.filter_eq_some_iff.mp kept
    have row : (key, value) ∈ LpConfig.writtenRows (params.entries format pushAsString) :=
      LpConfig.mem_writtenRows.mpr ⟨member, by simpa using filled⟩
    rw [findKey_of_mem (LpConfig.distinct_writtenRows keys) row]
    rfl
  | none =>
    rw [findKey_none.mpr, Option.map_none]
    intro row inside same
    obtain ⟨other, filled⟩ := LpConfig.mem_writtenRows.mp inside
    have first := findKey_of_mem keys other
    have second := findKey_of_mem keys member
    dsimp only at first second
    rw [same, second, Option.some.injEq, Prod.mk.injEq] at first
    rw [first.2] at kept
    simp [filled] at kept

theorem value?_absent (distinct : config.Distinct)
    (absent : key ∉ (params.entries format pushAsString).map Prod.fst) :
    (params.writeToConfigFile format pushAsString config index).value? (accountSection index) key = none := by
  rw [LpConfig.value?_rows (findSection_written distinct), findKey_none.mpr, Option.map_none]
  intro row inside same
  exact absent (List.mem_map.mpr ⟨_, (LpConfig.mem_writtenRows.mp inside).1, same⟩)

theorem entry_first {entry : ConfigEntry} (i : Nat) (placed : (params.firstEntries format pushAsString)[i]? = some entry) :
    entry ∈ params.entries format pushAsString :=
  List.mem_append_left _ (List.mem_append_left _ (List.mem_of_getElem? placed))

theorem entry_last {entry : ConfigEntry} (i : Nat) (placed : (params.lastEntries format)[i]? = some entry) :
    entry ∈ params.entries format pushAsString :=
  List.mem_append_right _ (List.mem_of_getElem? placed)

theorem getString_some (distinct : config.Distinct) {value : Text}
    (member : (key, some value) ∈ params.entries format pushAsString) :
    (params.writeToConfigFile format pushAsString config index).getString (accountSection index) key [] = value := by
  rw [LpConfig.getString_eq, value?_entry distinct member]
  by_cases empty : value = []
  · simp [empty, Option.filter]
  · simp [empty, Option.filter]

theorem value?_unlessEmpty (distinct : config.Distinct) {value : Text}
    (member : (key, unlessEmpty value) ∈ params.entries format pushAsString) :
    (params.writeToConfigFile format pushAsString config index).value? (accountSection index) key = unlessEmpty value := by
  rw [value?_entry distinct member]
  unfold unlessEmpty
  by_cases empty : value = []
  · simp [empty]
  · simp [empty, Option.filter]

theorem getString_unlessEmpty (distinct : config.Distinct) {value : Text}
    (member : (key, unlessEmpty value) ∈ params.entries format pushAsString) :
    (params.writeToConfigFile format pushAsString config index).getString (accountSection index) key [] = value := by
  rw [LpConfig.getString_eq, value?_unlessEmpty distinct member]
  unfold unlessEmpty
  by_cases empty : value = []
  · simp [empty]
  · simp [empty]

theorem value?_intValue (distinct : config.Distinct) {value : Int}
    (member : (key, intValue value) ∈ params.entries format pushAsString) :
    (params.writeToConfigFile format pushAsString config index).value? (accountSection index) key =
      some (integerText value) := by
  rw [value?_entry distinct member]
  simp [intValue, Option.filter, integerText_ne_nil]

theorem getInt_intValue (distinct : config.Distinct) {value : Int} (defaultValue : Int) (least : -2 ^ 31 ≤ value)
    (most : value < 2 ^ 31) (member : (key, intValue value) ∈ params.entries format pushAsString) :
    (params.writeToConfigFile format pushAsString config index).getInt (accountSection index) key defaultValue = value := by
  unfold LpConfig.getInt
  rw [value?_intValue distinct member, Option.elim_some, integerText_decimal]
  exact scanInt_integerText least most

theorem getInt_word (distinct : config.Distinct) {value : BitVec 32} (defaultValue : Int)
    (member : (key, intValue value.toInt) ∈ params.entries format pushAsString) :
    BitVec.ofInt 32 ((params.writeToConfigFile format pushAsString config index).getInt (accountSection index) key
      defaultValue) = value := by
  rw [getInt_intValue distinct defaultValue value.le_toInt value.toInt_lt member]
  exact BitVec.ofInt_toInt

theorem flag_boolValue (distinct : config.Distinct) {value : Bool} (defaultValue : Int)
    (member : (key, boolValue value) ∈ params.entries format pushAsString) :
    decide ((params.writeToConfigFile format pushAsString config index).getInt (accountSection index) key defaultValue ≠ 0) =
      value := by
  rw [getInt_intValue distinct defaultValue (by split <;> omega) (by split <;> omega) member]
  cases value with
  | true => rfl
  | false => rfl

theorem getBool_boolValue (distinct : config.Distinct) {value : Bool} (defaultValue : Bool)
    (member : (key, boolValue value) ∈ params.entries format pushAsString) :
    (params.writeToConfigFile format pushAsString config index).getBool (accountSection index) key defaultValue =
      value := by
  unfold LpConfig.getBool
  rw [value?_intValue distinct member, Option.elim_some, scanInt_integerText (by split <;> omega) (by split <;> omega)]
  cases value with
  | true => rfl
  | false => rfl

/-- All custom parameters are read from the section. -/
theorem customParams_read (distinct : config.Distinct) (other : Text) :
    (({} : CustomParams).readCustomParamsFromConfigFile (params.writeToConfigFile format pushAsString config index)
      (accountSection index)).getCustomParam other = params.customParams.getCustomParam other := by
  have named := @findSection_written format params pushAsString config index distinct
  have prefixed : ∀ name ∈ (LpConfig.writtenRows (params.entries format pushAsString)).map Prod.fst, ∀ pruned,
      afterFirst CustomParams.paramPrefix name = some pruned → name = CustomParams.paramPrefix ++ pruned := by
    intro name member pruned cut
    obtain ⟨row, inside, rfl⟩ := List.mem_map.mp member
    have key : row.1 ∈ (params.entries format pushAsString).map Prod.fst :=
      List.mem_map.mpr ⟨_, (LpConfig.mem_writtenRows.mp inside).1, rfl⟩
    rw [keys_eq, List.append_assoc, List.mem_append, List.mem_append] at key
    rcases key with first | custom | last
    · rw [fixedKeys_plain _ (List.mem_append_left _ first)] at cut
      cases cut
    · obtain ⟨entry, -, same⟩ := List.mem_map.mp custom
      rw [← same, afterFirst_append, Option.some.injEq] at cut
      rw [← same, cut]
    · rw [fixedKeys_plain _ (List.mem_append_right _ last)] at cut
      cases cut
  unfold CustomParams.readCustomParamsFromConfigFile
  rw [LpConfig.getKeysNamesList_rows named, CustomParams.getCustomParam_readNames prefixed]
  have read : (params.writeToConfigFile format pushAsString config index).getString (accountSection index)
      (CustomParams.paramPrefix ++ other) [] = params.customParams.getCustomParam other := by
    unfold CustomParams.getCustomParam
    cases found : findKey Prod.fst other params.customParams.params with
    | some entry =>
      obtain rfl := findKey_key found
      have member : (CustomParams.paramPrefix ++ entry.1, some entry.2) ∈ params.entries format pushAsString :=
        List.mem_append_left _ (List.mem_append_right _ (List.mem_map.mpr ⟨entry, findKey_mem found, rfl⟩))
      exact getString_some distinct member
    | none =>
      rw [LpConfig.getString_eq, value?_absent distinct]
      · rfl
      · rw [keys_eq, List.append_assoc, List.mem_append, List.mem_append]
        rintro (first | custom | last)
        · have none := fixedKeys_plain _ (List.mem_append_left _ first)
          rw [afterFirst_append] at none
          cases none
        · obtain ⟨entry, inside, same⟩ := List.mem_map.mp custom
          exact findKey_none.mp found entry inside (List.append_cancel_left same)
        · have none := fixedKeys_plain _ (List.mem_append_right _ last)
          rw [afterFirst_append] at none
          cases none
  by_cases present : CustomParams.paramPrefix ++ other ∈
      (LpConfig.writtenRows (params.entries format pushAsString)).map Prod.fst
  · rw [if_pos present, read]
  · rw [if_neg present, ← read, LpConfig.getString_eq, LpConfig.value?_rows named, findKey_none.mpr]
    · rfl
    · intro row inside same
      exact present (List.mem_map.mpr ⟨row, inside, same⟩)

end Values

section Addresses

variable {format : AddressFormat} {params : AccountParams} {pushAsString : Bool → Text} {config : LpConfig} {index : Int}

/-- What the SIP stack promises for an address: it is read as it was written, without
its name and parameters when it was written as a URI. -/
structure Inverts (format : AddressFormat) (address : Address) : Prop where
  whole : format.create (format.toString address) = some address
  bare : format.create (format.asStringUriOnly address) = some address.getUri
  scheme : hasScheme (format.toString address) = true
  filled : format.asStringUriOnly address ≠ []

/-- The addresses that are written as URIs. -/
def uris (params : AccountParams) : List Address :=
  params.conferenceFactoryAddress.toList ++ params.audioVideoConferenceFactoryAddress.toList ++
    params.mwiServerAddress.toList ++ params.voicemailAddress.toList

/-- The addresses of the parameters that are written. -/
def addresses (params : AccountParams) : List Address :=
  params.identityAddress.toList ++ params.proxyAddress.toList ++ params.routes ++ params.uris

/-- Parameters that an account can have: it has an identity and a server, and the parts
of its lists can be told apart. -/
structure Valid (format : AddressFormat) (params : AccountParams) : Prop where
  identity : ∃ address, params.identityAddress = some address ∧ params.identity = format.toString address ∧
    (address.username.getD "").isEmpty = false
  server : ∃ address, params.proxyAddress = some address ∧ params.proxy = format.toString address
  routes : ∀ route ∈ params.routes, ',' ∉ format.toString route
  distinctTags : params.supportedTagsList.Nodup
  plainTags : ∀ tag ∈ params.supportedTagsList, PlainTag tag
  inverts : ∀ address ∈ params.addresses, Inverts format address

theorem hasScheme_ne_nil {text : Text} (scheme : hasScheme text = true) : text ≠ [] := by
  rintro rfl
  exact absurd scheme (by decide)

theorem setRoutes_written (base : AccountParams) {routes : List Address}
    (inverts : ∀ route ∈ routes, Inverts format route) :
    base.setRoutesFromStringList format (routes.map format.toString) = { base with routes := routes } := by
  unfold setRoutesFromStringList
  congr 1
  rw [List.filterMap_map]
  conv_rhs => rw [← List.filterMap_some (l := routes)]
  apply List.filterMap_congr
  intro route member
  obtain ⟨whole, -, scheme, -⟩ := inverts route member
  have filled : (format.toString route).isEmpty = false := by simpa using hasScheme_ne_nil scheme
  simp only [Function.comp_apply, filled, Bool.false_eq_true, if_false, scheme, if_true, whole]

/-- The routes are read from their joined texts. -/
theorem routes_read (distinct : config.Distinct) (valid : Valid format params) {base : AccountParams}
    (none : base.routes = []) :
    ((params.writeToConfigFile format pushAsString config index).getStringList (accountSection index)
      "reg_route".toList).elim base (base.setRoutesFromStringList format) = { base with routes := params.routes } := by
  have inverts : ∀ route ∈ params.routes, Inverts format route := by
    intro route member
    exact valid.inverts route (by simp [addresses, member])
  unfold LpConfig.getStringList
  rw [value?_entry distinct (entry_first 1 rfl)]
  cases written : params.routes with
  | nil =>
    have unchanged : base = { base with routes := [] } := by rw [← none]
    exact unchanged
  | cons first rest =>
    have separate : ∀ text ∈ (first :: rest).map format.toString, ',' ∉ text := by
      intro text member
      obtain ⟨route, inside, rfl⟩ := List.mem_map.mp member
      exact valid.routes route (written ▸ inside)
    have split := List.splitOn_intercalate ',' separate (by simp)
    have filled : [','].intercalate ((first :: rest).map format.toString) ≠ [] := by
      intro empty
      have member : first ∈ params.routes := by simp [written]
      have start := hasScheme_ne_nil (inverts first member).scheme
      rw [empty] at split
      have single : format.toString first = [] := by simpa using (List.cons.inj split).1.symm
      exact start single
    rw [filter_filled filled, Option.map_some, Option.elim_some, split]
    exact setRoutes_written base fun route member => inverts route (written ▸ member)

theorem readAddresses_written (distinct : config.Distinct) (valid : Valid format params) {base : AccountParams}
    (noRoutes : base.routes = []) (noIdentity : base.identity = []) (noProxy : base.proxy = []) :
    readAddresses format base (params.writeToConfigFile format pushAsString config index) (accountSection index) =
      { base with
        identity := params.identity
        identityAddress := params.identityAddress
        proxy := params.proxy
        proxyAddress := params.proxyAddress
        routes := params.routes } := by
  obtain ⟨address, identified, identity, username⟩ := valid.identity
  obtain ⟨server, served, proxy⟩ := valid.server
  have known := valid.inverts address (by simp [addresses, identified])
  have reached := valid.inverts server (by simp [addresses, served])
  have named : setIdentityAddress format { base with identity := params.identity } (format.create params.identity) =
      { base with identity := params.identity, identityAddress := params.identityAddress } := by
    rw [identity, known.whole, identified]
    simp [setIdentityAddress, username]
  have contacted : setServerAddressAsString format
      { base with identity := params.identity, identityAddress := params.identityAddress } params.proxy =
      { base with
        identity := params.identity
        identityAddress := params.identityAddress
        proxy := params.proxy
        proxyAddress := params.proxyAddress } := by
    have filled : (format.toString server).isEmpty = false := by simpa using hasScheme_ne_nil reached.scheme
    unfold setServerAddressAsString
    simp only [proxy, filled, Bool.false_eq_true, if_false, reached.scheme, if_true, Option.none_or, reached.whole]
    simp [setServer, getOutboundProxyEnabled, noRoutes, served]
  have identityText : (params.writeToConfigFile format pushAsString config index).getString (accountSection index)
      "reg_identity".toList base.identity = params.identity := by
    rw [noIdentity]
    exact getString_unlessEmpty distinct (entry_first 2 rfl)
  have proxyText : (params.writeToConfigFile format pushAsString config index).getString (accountSection index)
      "reg_proxy".toList base.proxy = params.proxy := by
    rw [noProxy]
    exact getString_unlessEmpty distinct (entry_first 0 rfl)
  unfold readAddresses
  dsimp only
  rw [identityText, named]
  dsimp only
  rw [proxyText, contacted]
  exact routes_read distinct valid noRoutes

theorem readUri_uriValue (distinct : config.Distinct) {key : Text} {address : Option Address}
    (member : (key, uriValue format address) ∈ params.entries format pushAsString)
    (inverts : ∀ uri ∈ address.toList, Inverts format uri) :
    readUri format (params.writeToConfigFile format pushAsString config index) (accountSection index) key =
      address.map Address.getUri := by
  unfold readUri
  rw [LpConfig.getString_eq, value?_entry distinct member]
  cases address with
  | none => rfl
  | some uri =>
    obtain ⟨-, bare, -, filled⟩ := inverts uri (by simp)
    simp [uriValue, Option.filter, filled, bare]

end Addresses

section Loading

variable {format : AddressFormat} {params : AccountParams} {pushAsString : Bool → Text} {config : LpConfig}
  {index : Int} {core : AccountCore} {token : Nat → Text}

/-- The tags are read as the own ones of the account. -/
def OwnTags (params : AccountParams) : Prop :=
  params.useSupportedTags = true ∧ params.supportedTagsList ≠ [] ∧ params.supportedTagsList ≠ ["empty".toList]

instance (params : AccountParams) : Decidable params.OwnTags := inferInstanceAs (Decidable (_ ∧ _ ∧ _))

theorem supported_read (distinct : config.Distinct) (valid : Valid format params) :
    (params.writeToConfigFile format pushAsString config index).getString (accountSection index) "supported".toList
        "empty".toList =
      if params.OwnTags then tagsText params.supportedTagsList else "empty".toList := by
  rw [LpConfig.getString_eq, value?_entry distinct (entry_last 6 rfl)]
  cases used : params.useSupportedTags with
  | false => simp [OwnTags, used]
  | true =>
    cases tags : params.supportedTagsList with
    | nil => simp [OwnTags, tags, tagsText, Option.filter]
    | cons first rest =>
      have different := valid.distinctTags
      rw [tags] at different
      have filled := tagsText_ne_nil different (valid.plainTags first (by simp [tags])).1
      rw [if_pos rfl, filter_filled filled, Option.getD_some]
      by_cases word : first :: rest = ["empty".toList]
      · have other : ¬ params.OwnTags := fun own => own.2.2 (tags.trans word)
        rw [if_neg other]
        exact (tagsText_eq_empty different).mpr word
      · have own : params.OwnTags := ⟨used, by simp [tags], by rw [tags]; exact word⟩
        rw [if_pos own]

/-- An account without identifier gets its reference, or a new one. -/
theorem idKey_read (distinct : config.Distinct) (generated : Text) :
    (if ((params.writeToConfigFile format pushAsString config index).getString (accountSection index) "idkey".toList
        ((params.writeToConfigFile format pushAsString config index).getString (accountSection index)
          "refkey".toList [])).isEmpty then generated
      else (params.writeToConfigFile format pushAsString config index).getString (accountSection index) "idkey".toList
        ((params.writeToConfigFile format pushAsString config index).getString (accountSection index)
          "refkey".toList [])) =
      if params.idKey.isEmpty then (if params.refKey.isEmpty then generated else params.refKey)
      else params.idKey := by
  have refKey : (params.writeToConfigFile format pushAsString config index).getString (accountSection index)
      "refkey".toList [] = params.refKey := getString_unlessEmpty distinct (entry_first 25 rfl)
  have idKey := @value?_unlessEmpty format params pushAsString config index "idkey".toList distinct params.idKey
    (entry_first 27 rfl)
  have chosen : (params.writeToConfigFile format pushAsString config index).getString (accountSection index)
      "idkey".toList ((params.writeToConfigFile format pushAsString config index).getString (accountSection index)
        "refkey".toList []) = (unlessEmpty params.idKey).getD params.refKey := by
    rw [refKey, LpConfig.getString_eq, idKey]
  rw [chosen]
  unfold unlessEmpty
  by_cases empty : params.idKey = []
  · simp [empty]
  · simp [empty]

/-- There is no entry for the custom contact. -/
theorem customContact_read (distinct : config.Distinct) :
    readUri format (params.writeToConfigFile format pushAsString config index) (accountSection index)
      "custom_contact".toList = none := by
  have absent : "custom_contact".toList ∉ (params.entries format pushAsString).map Prod.fst := by
    have fixed := (List.nodup_cons.mp fixedKeys_distinct).1
    rw [keys_eq, List.append_assoc, List.mem_append, List.mem_append]
    rintro (first | custom | last)
    · exact fixed (List.mem_append_left _ first)
    · obtain ⟨entry, -, same⟩ := List.mem_map.mp custom
      have cut := congrArg (afterFirst CustomParams.paramPrefix) same
      rw [afterFirst_append] at cut
      have absent : afterFirst CustomParams.paramPrefix "custom_contact".toList = none := by decide
      rw [absent] at cut
      cases cut
    · exact fixed (List.mem_append_right _ last)
  unfold readUri
  rw [LpConfig.getString_eq, value?_absent distinct absent]
  rfl

theorem tags_read (distinct : config.Distinct) (valid : Valid format params) (others : List Text) :
    (if (params.writeToConfigFile format pushAsString config index).getString (accountSection index) "supported".toList
        "empty".toList = "empty".toList then others
      else splitTags ((params.writeToConfigFile format pushAsString config index).getString (accountSection index)
        "supported".toList "empty".toList)) =
      if params.OwnTags then params.supportedTagsList else others := by
  rw [supported_read distinct valid]
  by_cases own : params.OwnTags
  · rw [if_pos own, if_pos own]
    obtain ⟨used, nonempty, word⟩ := own
    obtain ⟨first, rest, tags⟩ := List.exists_cons_of_ne_nil nonempty
    have different := valid.distinctTags
    have plain := valid.plainTags
    rw [tags] at different plain word ⊢
    rw [if_neg fun same => word ((tagsText_eq_empty different).mp same), splitTags_tagsText different plain]
  · rw [if_neg own, if_neg own, if_pos rfl]

theorem useTags_read (distinct : config.Distinct) (valid : Valid format params) :
    (if (params.writeToConfigFile format pushAsString config index).getString (accountSection index) "supported".toList
        "empty".toList = "empty".toList then false else true) = decide params.OwnTags := by
  rw [supported_read distinct valid]
  by_cases own : params.OwnTags
  · rw [if_pos own, decide_eq_true own]
    obtain ⟨used, nonempty, word⟩ := own
    obtain ⟨first, rest, tags⟩ := List.exists_cons_of_ne_nil nonempty
    have different := valid.distinctTags
    rw [tags] at different word ⊢
    rw [if_neg fun same => word ((tagsText_eq_empty different).mp same)]
  · rw [if_neg own, if_pos rfl, decide_eq_false own]

/-- What is read of written parameters. -/
theorem fromConfig_written (distinct : config.Distinct) (valid : Valid format params) :
    fromConfig format core token (params.writeToConfigFile format pushAsString config index) index =
      { params with
        idKey := if params.idKey.isEmpty then (if params.refKey.isEmpty then generateAccountId (token 1) else params.refKey)
          else params.idKey
        conferenceFactoryAddress := params.conferenceFactoryAddress.map Address.getUri
        audioVideoConferenceFactoryAddress := params.audioVideoConferenceFactoryAddress.map Address.getUri
        customContact := none
        mwiServerAddress := params.mwiServerAddress.map Address.getUri
        voicemailAddress := params.voicemailAddress.map Address.getUri
        supportedTagsList := if params.OwnTags then params.supportedTagsList else splitTags core.supportedTags
        useSupportedTags := decide params.OwnTags
        natPolicy := readNatPolicy (params.writeToConfigFile format pushAsString config index) (accountSection index)
          (token 2)
        customParams := ({} : CustomParams).readCustomParamsFromConfigFile
          (params.writeToConfigFile format pushAsString config index) (accountSection index) } := by
  have addressed := @readAddresses_written format params pushAsString config index distinct valid
    (ofCore format core (token 0)) rfl rfl rfl
  have uri {key : Text} {address : Option Address}
      (member : (key, uriValue format address) ∈ params.entries format pushAsString)
      (among : ∀ uri ∈ address.toList, uri ∈ params.uris) :
      readUri format (params.writeToConfigFile format pushAsString config index) (accountSection index) key =
        address.map Address.getUri :=
    readUri_uriValue distinct member fun uri inside => valid.inverts uri (List.mem_append_right _ (among uri inside))
  unfold fromConfig
  dsimp only
  rw [addressed, AccountParams.mk.injEq]
  and_intros
  · exact getInt_word distinct _ (entry_first 10 rfl)
  · exact getInt_word distinct _ (entry_first 9 rfl)
  · exact getInt_word distinct _ (entry_first 28 rfl)
  · exact (congrArg (BitVec.ofInt 8) (getInt_intValue distinct _ (by omega) (by omega) (entry_first 14 rfl))).trans (by simp)
  · exact flag_boolValue distinct _ (entry_first 11 rfl)
  · exact flag_boolValue distinct _ (entry_first 15 rfl)
  · exact flag_boolValue distinct _ (entry_first 8 rfl)
  · exact flag_boolValue distinct _ (entry_first 12 rfl)
  · exact flag_boolValue distinct _ (entry_first 20 rfl)
  · exact flag_boolValue distinct _ (entry_first 21 rfl)
  · exact flag_boolValue distinct _ (entry_first 22 rfl)
  · exact flag_boolValue distinct _ (entry_first 23 rfl)
  · exact flag_boolValue distinct _ (entry_first 18 rfl)
  · exact getBool_boolValue distinct _ (entry_first 33 rfl)
  · exact getBool_boolValue distinct _ (entry_first 34 rfl)
  · exact flag_boolValue distinct _ (entry_first 24 rfl)
  · exact getBool_boolValue distinct _ (entry_last 5 rfl)
  · exact getString_some distinct (entry_first 16 rfl)
  · exact getString_some distinct (entry_first 17 rfl)
  · rfl
  · exact getString_unlessEmpty distinct (entry_first 3 rfl)
  · exact getString_unlessEmpty distinct (entry_first 6 rfl)
  · exact getString_unlessEmpty distinct (entry_first 4 rfl)
  · exact getString_unlessEmpty distinct (entry_first 5 rfl)
  · exact getString_unlessEmpty distinct (entry_first 25 rfl)
  · exact getString_unlessEmpty distinct (entry_first 26 rfl)
  · exact idKey_read distinct _
  · exact getString_some distinct (entry_last 0 rfl)
  · exact getString_some distinct (entry_last 1 rfl)
  · rfl
  · exact getString_some distinct (entry_last 2 rfl)
  · exact getString_unlessEmpty distinct (entry_first 32 rfl)
  · rfl
  · exact getInt_word distinct _ (entry_first 19 rfl)
  · rfl
  · rfl
  · exact (congrArg AvpfMode.ofInt (getInt_intValue distinct _ (AvpfMode.toInt_range _).1 (AvpfMode.toInt_range _).2
      (entry_first 13 rfl))).trans (AvpfMode.ofInt_toInt _)
  · rfl
  · exact uri (entry_first 30 rfl) fun uri inside => by simp [uris, Option.mem_toList.mp inside]
  · exact uri (entry_first 31 rfl) fun uri inside => by simp [uris, Option.mem_toList.mp inside]
  · exact customContact_read distinct
  · exact uri (entry_last 3 rfl) fun uri inside => by simp [uris, Option.mem_toList.mp inside]
  · exact uri (entry_last 4 rfl) fun uri inside => by simp [uris, Option.mem_toList.mp inside]
  · exact tags_read distinct valid _
  · exact useTags_read distinct valid
  · rfl

end Loading

/-- The settings of a section are the same, apart from the policy. Custom parameters
are compared by what is got of them. -/
structure SameSettings (params loaded : AccountParams) : Prop where
  settings : loaded = { params with natPolicy := loaded.natPolicy, customParams := loaded.customParams }
  custom : ∀ key, loaded.customParams.getCustomParam key = params.customParams.getCustomParam key

/-- The parameters that a section can hold. The addresses that are written as URIs have
no name and no parameters, and the tags are not one of the two lists that are read as
none. -/
structure Storable (core : AccountCore) (params : AccountParams) : Prop where
  customContact : params.customContact = none
  idKey : params.idKey ≠ []
  ownTags : params.useSupportedTags = true → params.OwnTags
  coreTags : params.useSupportedTags = false → params.supportedTagsList = splitTags core.supportedTags
  uris : ∀ address ∈ params.uris, address.getUri = address

section Conditions

variable {core : AccountCore} {params : AccountParams}

theorem idKey_kept_iff (token : Text) :
    (if params.idKey.isEmpty then (if params.refKey.isEmpty then generateAccountId token else params.refKey)
      else params.idKey) = params.idKey ↔ params.idKey ≠ [] := by
  have generated : generateAccountId token ≠ [] := List.append_ne_nil_of_left_ne_nil (by decide) token
  by_cases empty : params.idKey = []
  · by_cases blank : params.refKey = []
    · simp [empty, blank, generated]
    · simp [empty, blank]
  · simp [empty]

theorem uri_kept_iff (address : Option Address) :
    address.map Address.getUri = address ↔ ∀ uri ∈ address.toList, uri.getUri = uri := by
  cases address with
  | none => simp
  | some uri => simp

theorem tags_kept_iff :
    ((if params.OwnTags then params.supportedTagsList else splitTags core.supportedTags) = params.supportedTagsList ∧
        decide params.OwnTags = params.useSupportedTags) ↔
      (params.useSupportedTags = true → params.OwnTags) ∧
        (params.useSupportedTags = false → params.supportedTagsList = splitTags core.supportedTags) := by
  by_cases own : params.OwnTags
  · simp [own, own.1]
  · cases used : params.useSupportedTags with
    | true => simp [own]
    | false => simp [own, eq_comm]

end Conditions

theorem account_settings_persist_iff {format : AddressFormat} {params : AccountParams} {config : LpConfig}
    (distinct : config.Distinct) (valid : Valid format params) (core : AccountCore) (pushAsString : Bool → Text)
    (token : Nat → Text) (index : Int) :
    SameSettings params
        (fromConfig format core token (params.writeToConfigFile format pushAsString config index) index) ↔
      Storable core params := by
  rw [fromConfig_written distinct valid]
  constructor
  · rintro ⟨settings, -⟩
    simp only [AccountParams.mk.injEq, true_and, and_true] at settings
    obtain ⟨idKey, conference, audioVideo, contact, mwi, voicemail, tags, used⟩ := settings
    obtain ⟨own, others⟩ := tags_kept_iff.mp ⟨tags, used⟩
    refine ⟨contact.symm, (idKey_kept_iff (token 1)).mp idKey, own, others, ?_⟩
    intro address member
    simp only [AccountParams.uris, List.mem_append] at member
    rcases member with ((first | second) | third) | fourth
    · exact (uri_kept_iff _).mp conference address first
    · exact (uri_kept_iff _).mp audioVideo address second
    · exact (uri_kept_iff _).mp mwi address third
    · exact (uri_kept_iff _).mp voicemail address fourth
  · intro storable
    obtain ⟨tags, used⟩ := tags_kept_iff.mpr ⟨storable.ownTags, storable.coreTags⟩
    have bare : ∀ address : Option Address, (∀ uri ∈ address.toList, uri ∈ params.uris) →
        address.map Address.getUri = address := by
      intro address among
      exact (uri_kept_iff address).mpr fun uri inside => storable.uris uri (among uri inside)
    refine ⟨?_, customParams_read distinct⟩
    simp only [AccountParams.mk.injEq, true_and, and_true]
    refine ⟨(idKey_kept_iff (token 1)).mpr storable.idKey, bare _ ?_, bare _ ?_, storable.customContact.symm, bare _ ?_,
      bare _ ?_, tags, used⟩
    · intro uri inside
      simp [AccountParams.uris, Option.mem_toList.mp inside]
    · intro uri inside
      simp [AccountParams.uris, Option.mem_toList.mp inside]
    · intro uri inside
      simp [AccountParams.uris, Option.mem_toList.mp inside]
    · intro uri inside
      simp [AccountParams.uris, Option.mem_toList.mp inside]

/-- Addresses of a user and a domain, as they are written. -/
def uriText (address : Address) : Text :=
  "sip:".toList ++ address.username.elim [] (fun username => username.toList ++ ['@']) ++ address.domain.toList

def plainFormat : AddressFormat where
  create text := (afterFirst "sip:".toList text).bind fun rest =>
    match rest.splitOn '@' with
    | [domain] => some { domain := String.ofList domain }
    | [username, domain] => some { username := some (String.ofList username), domain := String.ofList domain }
    | _ => none
  toString := uriText
  asStringUriOnly := uriText

def alice : Address := { username := some "alice", domain := "example.org" }

def registrar : Address := { domain := "example.org" }

def aliceParams : AccountParams where
  identity := uriText alice
  identityAddress := some alice
  proxy := uriText registrar
  proxyAddress := some registrar
  routes := [registrar]
  idKey := "main".toList
  supportedTagsList := ["outbound".toList, "path".toList]
  useSupportedTags := true
  customParams := { params := [("colour".toList, "blue".toList)] }

def sampleCore : AccountCore where
  supportedTags := "replaces, outbound, gruu".toList
  rtpBundleEnabled := true

theorem alice_valid (contact : Option Address) : Valid plainFormat { aliceParams with customContact := contact } where
  identity := ⟨alice, rfl, rfl, by decide +kernel⟩
  server := ⟨registrar, rfl, rfl⟩
  routes := (by decide +kernel : ∀ route ∈ aliceParams.routes, ',' ∉ plainFormat.toString route)
  distinctTags := (by decide +kernel : aliceParams.supportedTagsList.Nodup)
  plainTags := by
    intro tag member
    have plain : ∀ tag ∈ aliceParams.supportedTagsList, tag ≠ [] ∧ ',' ∉ tag ∧ trimText tag = tag := by decide +kernel
    exact plain tag member
  inverts := by
    intro address member
    have listed : address = alice ∨ address = registrar := by
      simpa [addresses, uris, aliceParams] using member
    rcases listed with rfl | rfl
    · exact ⟨by decide +kernel, by decide +kernel, by decide +kernel, by decide +kernel⟩
    · exact ⟨by decide +kernel, by decide +kernel, by decide +kernel, by decide +kernel⟩

theorem alice_settings_persist : SameSettings aliceParams (fromConfig plainFormat sampleCore (fun _ => "token".toList)
    (aliceParams.writeToConfigFile plainFormat (fun _ => []) {} 0) 0) := by
  refine (account_settings_persist_iff LpConfig.Distinct.empty (alice_valid none) sampleCore _ _ 0).mpr ⟨rfl, ?_, ?_, ?_, ?_⟩
  · decide
  · intro
    exact ⟨rfl, by decide, by decide⟩
  · intro unused
    cases unused
  · intro address member
    cases member

/-- A custom contact is gone after it was written and read. -/
theorem custom_contact_lost :
    ¬ SameSettings { aliceParams with customContact := some alice }
      (fromConfig plainFormat sampleCore (fun _ => "token".toList)
        (({ aliceParams with customContact := some alice } : AccountParams).writeToConfigFile plainFormat (fun _ => []) {} 0)
        0) := by
  rintro ⟨settings, -⟩
  have contact := congrArg AccountParams.customContact settings
  rw [fromConfig_written LpConfig.Distinct.empty (alice_valid (some alice))] at contact
  cases contact

end AccountParams

end Liblinphone
