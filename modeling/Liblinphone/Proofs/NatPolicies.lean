import Liblinphone.NatPolicy
import Liblinphone.Proofs.ConfigValues

/-! What a save of all NAT policies keeps. Each policy is found again under its
reference, and the sections behind the last one are gone. The transports of TURN are
not written, and a copy has only one of them, so that they survive in the cases that
the condition names. -/

namespace Liblinphone

theorem natPolicySection_inj {first second : Nat} : natPolicySection first = natPolicySection second ↔ first = second := by
  constructor
  · intro same
    exact numberText_injective (List.append_cancel_left same)
  · exact congrArg natPolicySection

namespace NatPolicy

variable {config : LpConfig} {policy : NatPolicy}

/-- The fields that a policy should keep. -/
structure Agrees (policy other : NatPolicy) : Prop where
  stunServer : other.stunServer = policy.stunServer
  stunServerUsername : other.stunServerUsername = policy.stunServerUsername
  stunEnabled : other.stunEnabled = policy.stunEnabled
  turnEnabled : other.turnEnabled = policy.turnEnabled
  iceEnabled : other.iceEnabled = policy.iceEnabled
  turnUdpEnabled : other.turnUdpEnabled = policy.turnUdpEnabled
  turnTcpEnabled : other.turnTcpEnabled = policy.turnTcpEnabled
  turnTlsEnabled : other.turnTlsEnabled = policy.turnTlsEnabled

theorem clone_agrees_iff (policy : NatPolicy) (token : Text) :
    Agrees policy (policy.clone token) ↔ policy.turnTcpEnabled = false ∧ policy.turnTlsEnabled = false := by
  constructor
  · intro agrees
    exact ⟨agrees.turnTcpEnabled.symm, agrees.turnTlsEnabled.symm⟩
  · rintro ⟨tcp, tls⟩
    exact ⟨rfl, rfl, rfl, rfl, rfl, rfl, tcp.symm, tls.symm⟩

section Saving

/-- What one save writes under a key of its section. The other keys keep their values. -/
def savedValue (policy : NatPolicy) (key : Text) (before : Option Text) : Option Text :=
  let filled (value : Text) := if value = [] then none else some value
  if key = "protocols".toList then filled ([','].intercalate policy.protocols)
  else if key = "stun_server_username".toList then filled policy.stunServerUsername
  else if key = "stun_server".toList then filled policy.stunServer
  else if key = "ref".toList then filled policy.ref
  else before

theorem Distinct.save (distinct : config.Distinct) (policy : NatPolicy) (index : Nat) :
    (policy.saveToConfig config index).Distinct :=
  (((distinct.setString _ _ _).setString _ _ _).setString _ _ _).setString _ _ _

theorem value?_save (distinct : config.Distinct) (policy : NatPolicy) (index other : Nat) (key : Text) :
    (policy.saveToConfig config index).value? (natPolicySection other) key =
      if other = index then policy.savedValue key (config.value? (natPolicySection other) key)
      else config.value? (natPolicySection other) key := by
  have first := distinct.setString (natPolicySection index) "ref".toList policy.ref
  have second := first.setString (natPolicySection index) "stun_server".toList policy.stunServer
  have third := second.setString (natPolicySection index) "stun_server_username".toList policy.stunServerUsername
  unfold saveToConfig LpConfig.setStringList savedValue
  dsimp only
  rw [LpConfig.value?_setString fun _ => third, LpConfig.value?_setString fun _ => second,
    LpConfig.value?_setString fun _ => first, LpConfig.value?_setString fun _ => distinct]
  simp only [natPolicySection_inj]
  by_cases same : other = index
  · simp only [same, true_and, if_true]
  · simp only [same, false_and, if_false]

theorem hasSection_save (config : LpConfig) (policy : NatPolicy) (identified : policy.ref ≠ []) (index : Nat) (name : Text) :
    (policy.saveToConfig config index).hasSection name = true ↔
      config.hasSection name = true ∨ name = natPolicySection index := by
  unfold saveToConfig LpConfig.setStringList
  dsimp only
  simp only [LpConfig.hasSection_setString, Bool.or_eq_true, Bool.and_eq_true, decide_eq_true_eq]
  constructor
  · rintro ((((before | ⟨same, -⟩) | ⟨same, -⟩) | ⟨same, -⟩) | ⟨same, -⟩)
    · exact .inl before
    · exact .inr same
    · exact .inr same
    · exact .inr same
    · exact .inr same
  · rintro (before | same)
    · exact .inl (.inl (.inl (.inl before)))
    · exact .inl (.inl (.inl (.inr ⟨same, identified⟩)))

theorem saveAll_distinct {policies : List NatPolicy} (distinct : config.Distinct) (start : Nat) :
    (saveAll config start policies).Distinct := by
  induction policies generalizing config start with
  | nil => exact distinct
  | cons policy rest ih => exact ih (Distinct.save distinct policy start) (start + 1)

/-- Saving leaves the sections before the first index alone. -/
theorem value?_saveAll_before {policies : List NatPolicy} (distinct : config.Distinct) {start index : Nat}
    (before : index < start) (key : Text) :
    (saveAll config start policies).value? (natPolicySection index) key = config.value? (natPolicySection index) key := by
  induction policies generalizing config start with
  | nil => rfl
  | cons policy rest ih =>
    rw [saveAll, ih (Distinct.save distinct policy start) (by omega), value?_save distinct, if_neg (by omega)]

theorem value?_saveAll {policies : List NatPolicy} (distinct : config.Distinct) {start index : Nat}
    (saved : policies[index]? = some policy) (key : Text) :
    (saveAll config start policies).value? (natPolicySection (start + index)) key =
      policy.savedValue key (config.value? (natPolicySection (start + index)) key) := by
  induction policies generalizing config start index with
  | nil => simp at saved
  | cons first rest ih =>
    rw [saveAll]
    cases index with
    | zero =>
      obtain rfl : first = policy := by simpa using saved
      rw [value?_saveAll_before (Distinct.save distinct first start) (by omega), value?_save distinct,
        if_pos (Nat.add_zero start)]
    | succ index =>
      have later := @ih (first.saveToConfig config start) (Distinct.save distinct first start) (start + 1) index
        (by simpa using saved)
      have shifted : start + (index + 1) = start + 1 + index := by omega
      rw [shifted, later, value?_save distinct, if_neg (by omega)]

theorem hasSection_saveAll {policies : List NatPolicy} (identified : ∀ policy ∈ policies, policy.ref ≠ [])
    (start : Nat) (name : Text) :
    (saveAll config start policies).hasSection name = true ↔
      config.hasSection name = true ∨ ∃ index < policies.length, name = natPolicySection (start + index) := by
  induction policies generalizing config start with
  | nil => simp [saveAll]
  | cons policy rest ih =>
    rw [saveAll, ih (fun other member => identified other (List.mem_cons_of_mem _ member)),
      hasSection_save config policy (identified policy List.mem_cons_self), or_assoc]
    apply or_congr_right
    constructor
    · rintro (same | ⟨index, inside, same⟩)
      · exact ⟨0, by simp, by rw [same, Nat.add_zero]⟩
      · exact ⟨index + 1, by simpa using inside, by rw [same, Nat.add_right_comm, Nat.add_assoc]⟩
    · rintro ⟨index, inside, same⟩
      cases index with
      | zero => exact .inl same
      | succ index => exact .inr ⟨index, by simpa using inside, by rw [same, Nat.add_right_comm, Nat.add_assoc]⟩

end Saving

section Clearing

theorem hasSection_clean (distinct : config.Distinct) (name other : Text) :
    (config.cleanSection name).hasSection other = true ↔ config.hasSection other = true ∧ other ≠ name := by
  unfold LpConfig.hasSection
  rw [LpConfig.findSection_cleanSection distinct]
  by_cases same : other = name
  · simp [same]
  · simp [same]

/-- A section that was found is no longer counted once it is cleaned. -/
theorem length_clean {name : Text} (found : config.hasSection name = true) :
    (config.cleanSection name).sections.length + 1 = config.sections.length := by
  unfold LpConfig.hasSection LpConfig.findSection at found
  obtain ⟨sec, hit⟩ := Option.isSome_iff_exists.mp found
  have member := List.mem_of_find?_eq_some hit
  have named := List.find?_some hit
  unfold LpConfig.cleanSection
  dsimp only
  rw [List.length_eraseP_of_mem member named]
  have positive := List.length_pos_of_mem member
  omega

/-- The sections from an index on are cleaned, and no others. -/
theorem clearSections_spec {fuel count index : Nat} (distinct : config.Distinct) (enough : config.sections.length < fuel)
    (contiguous : ∀ other, index ≤ other → (config.hasSection (natPolicySection other) = true ↔ other < count)) :
    (∀ other, index ≤ other → (clearSections fuel config index).hasSection (natPolicySection other) = false) ∧
      ∀ name, (∀ other, index ≤ other → name ≠ natPolicySection other) →
        (clearSections fuel config index).findSection name = config.findSection name := by
  induction fuel generalizing config index with
  | zero => omega
  | succ fuel ih =>
    unfold clearSections
    by_cases more : index < count
    · have found := (contiguous index (Nat.le_refl index)).mpr more
      have shorter := length_clean found
      rw [if_pos found]
      have after : ∀ other, index + 1 ≤ other →
          ((config.cleanSection (natPolicySection index)).hasSection (natPolicySection other) = true ↔ other < count) := by
        intro other later
        rw [hasSection_clean distinct, contiguous other (by omega), ne_eq, natPolicySection_inj]
        omega
      obtain ⟨cleaned, kept⟩ := ih (distinct.cleanSection _) (by omega) after
      refine ⟨?_, ?_⟩
      · intro other later
        rcases Nat.eq_or_lt_of_le later with rfl | beyond
        · unfold LpConfig.hasSection
          rw [kept _ fun next ahead same => by rw [natPolicySection_inj] at same; omega,
            LpConfig.findSection_cleanSection distinct, if_pos rfl]
          rfl
        · exact cleaned other beyond
      · intro name apart
        rw [kept name fun other ahead => apart other (by omega), LpConfig.findSection_cleanSection distinct,
          if_neg (apart index (Nat.le_refl index))]
    · have ended : ¬ config.hasSection (natPolicySection index) = true := by
        rw [contiguous index (Nat.le_refl index)]
        exact more
      rw [if_neg ended]
      refine ⟨?_, fun _ _ => rfl⟩
      intro other later
      rw [Bool.eq_false_iff, ne_eq, contiguous other later]
      omega

end Clearing

section Loading

/-- The search stops at the policy whose reference is wanted. -/
theorem searchRef_found {base : NatPolicy} {ref : Text} {fuel start index : Nat} (enough : index < start + fuel)
    (before : start ≤ index) (present : ∀ other ≤ index, config.hasSection (natPolicySection other) = true)
    (others : ∀ other < index, config.value? (natPolicySection other) "ref".toList ≠ some ref)
    (found : config.value? (natPolicySection index) "ref".toList = some ref) :
    searchRef base config ref fuel start = base.initFromSection config (natPolicySection index) := by
  induction fuel generalizing start with
  | zero => omega
  | succ fuel ih =>
    unfold searchRef
    rw [if_pos (present start before)]
    rcases Nat.eq_or_lt_of_le before with rfl | earlier
    · rw [if_pos found]
    · rw [if_neg (others start earlier)]
      exact ih (by omega) (by omega)

/-- A store with sections of several indexes has at least as many sections. -/
theorem count_le_sections {count : Nat} (present : ∀ index < count, config.hasSection (natPolicySection index) = true) :
    count ≤ config.sections.length := by
  have distinct : ((List.range count).map natPolicySection).Nodup :=
    List.Nodup.map (fun first second same => natPolicySection_inj.mp same) List.nodup_range
  have among : (List.range count).map natPolicySection ⊆ config.sections.map LpSection.name := by
    intro name member
    obtain ⟨index, inside, rfl⟩ := List.mem_map.mp member
    obtain ⟨sec, found⟩ := Option.isSome_iff_exists.mp (present index (List.mem_range.mp inside))
    exact List.mem_map.mpr ⟨sec, List.mem_of_find?_eq_some found, by simpa using List.find?_some found⟩
  have bound := (List.subperm_of_subset distinct among).length_le
  simpa using bound

/-- The list of protocols is read as it was written. -/
theorem protocols_read (policy : NatPolicy) (off : policy.upnpEnabled = false) :
    (((if [','].intercalate policy.protocols = [] then none else some ([','].intercalate policy.protocols)) :
      Option Text).map (·.splitOn ',')).getD [] = policy.protocols := by
  unfold protocols
  rw [off]
  cases policy.stunEnabled with
  | false =>
    cases policy.turnEnabled with
    | false => cases policy.iceEnabled <;> decide
    | true => cases policy.iceEnabled <;> decide
  | true =>
    cases policy.turnEnabled with
    | false => cases policy.iceEnabled <;> decide
    | true => cases policy.iceEnabled <;> decide

theorem foldl_enableProtocol (policy base : NatPolicy) (off : policy.upnpEnabled = false)
    (plain : base.stunEnabled = false ∧ base.turnEnabled = false ∧ base.iceEnabled = false) :
    policy.protocols.foldl enableProtocol base = { base with
      stunEnabled := policy.stunEnabled, turnEnabled := policy.turnEnabled, iceEnabled := policy.iceEnabled } := by
  obtain ⟨ref, server, username, endpoint, stun, turn, ice, upnp, udp, tcp, tls⟩ := base
  obtain ⟨rfl, rfl, rfl⟩ := plain
  unfold protocols
  rw [off]
  cases policy.stunEnabled with
  | false =>
    cases policy.turnEnabled with
    | false => cases policy.iceEnabled <;> rfl
    | true => cases policy.iceEnabled <;> rfl
  | true =>
    cases policy.turnEnabled with
    | false => cases policy.iceEnabled <;> rfl
    | true => cases policy.iceEnabled <;> rfl

/-- What is read from a section that a policy was saved to. -/
theorem initFromSection_saved {saved base : NatPolicy} {final : LpConfig} {index : Nat}
    (off : saved.upnpEnabled = false) (identified : saved.ref ≠ [])
    (plain : base.stunEnabled = false ∧ base.turnEnabled = false ∧ base.iceEnabled = false)
    (values : ∀ key, final.value? (natPolicySection index) key =
      saved.savedValue key (config.value? (natPolicySection index) key)) :
    base.initFromSection final (natPolicySection index) = { base with
      ref := saved.ref
      stunServer := saved.stunServer
      stunServerUsername := saved.stunServerUsername
      stunEnabled := saved.stunEnabled
      turnEnabled := saved.turnEnabled
      iceEnabled := saved.iceEnabled
      turnUdpEnabled := config.getBool (natPolicySection index) "turn_enable_udp".toList true
      turnTcpEnabled := config.getBool (natPolicySection index) "turn_enable_tcp".toList false
      turnTlsEnabled := config.getBool (natPolicySection index) "turn_enable_tls".toList false } := by
  have filled : ∀ value : Text, (if value = [] then none else some value).getD [] = value := by
    intro value
    split
    next empty => rw [empty, Option.getD_none]
    next => rfl
  have ref : final.getString (natPolicySection index) "ref".toList base.ref = saved.ref := by
    rw [LpConfig.getString_eq, values]
    simp [savedValue, identified]
  have server : final.getString (natPolicySection index) "stun_server".toList [] = saved.stunServer := by
    rw [LpConfig.getString_eq, values]
    simp [savedValue, filled]
  have username : final.getString (natPolicySection index) "stun_server_username".toList [] = saved.stunServerUsername := by
    rw [LpConfig.getString_eq, values]
    simp [savedValue, filled]
  have flags : ∀ key defaultValue, key ∈ ["turn_enable_udp".toList, "turn_enable_tcp".toList, "turn_enable_tls".toList] →
      final.getBool (natPolicySection index) key defaultValue =
        config.getBool (natPolicySection index) key defaultValue := by
    intro key defaultValue member
    unfold LpConfig.getBool
    rw [values]
    simp only [List.mem_cons, List.not_mem_nil, or_false] at member
    rcases member with rfl | rfl | rfl
    · simp [savedValue]
    · simp [savedValue]
    · simp [savedValue]
  have listed : (final.getStringList (natPolicySection index) "protocols".toList).getD [] = saved.protocols := by
    rw [← protocols_read saved off]
    unfold LpConfig.getStringList
    rw [values]
    simp [savedValue]
  unfold initFromSection
  rw [ref, server, username, flags _ true (by simp), flags _ false (by simp), flags _ false (by simp), listed]
  exact foldl_enableProtocol saved _ off plain

end Loading

section Writing

variable {policies : List NatPolicy} {count : Nat}

/-- The sections of policies are those of the first indexes. -/
def Contiguous (config : LpConfig) (count : Nat) : Prop :=
  ∀ name, natPolicyPrefix <+: name → (config.hasSection name = true ↔ ∃ index < count, name = natPolicySection index)

theorem natPolicyPrefix_section (index : Nat) : natPolicyPrefix <+: natPolicySection index := List.prefix_append _ _

theorem Contiguous.hasSection (contiguous : Contiguous config count) (index : Nat) :
    config.hasSection (natPolicySection index) = true ↔ index < count := by
  rw [contiguous _ (natPolicyPrefix_section index)]
  constructor
  · rintro ⟨other, inside, same⟩
    rw [natPolicySection_inj.mp same]
    exact inside
  · intro inside
    exact ⟨index, inside, rfl⟩

theorem Contiguous.saveAll (contiguous : Contiguous config count) (identified : ∀ policy ∈ policies, policy.ref ≠ []) :
    Contiguous (saveAll config 0 policies) (max count policies.length) := by
  intro name begins
  rw [hasSection_saveAll identified, contiguous name begins]
  constructor
  · rintro (⟨index, inside, same⟩ | ⟨index, inside, same⟩)
    · exact ⟨index, by omega, same⟩
    · exact ⟨index, by omega, by rw [same, Nat.zero_add]⟩
  · rintro ⟨index, inside, same⟩
    by_cases early : index < count
    · exact .inl ⟨index, early, same⟩
    · exact .inr ⟨index, by omega, by rw [same, Nat.zero_add]⟩

/-- Writing cleans the sections behind the last policy, and no others. -/
theorem written_spec (distinct : config.Distinct) (contiguous : Contiguous config count)
    (identified : ∀ policy ∈ policies, policy.ref ≠ []) :
    (∀ index, policies.length ≤ index →
        (writeNatPolicyConfigurations config policies).hasSection (natPolicySection index) = false) ∧
      ∀ name, (∀ index, policies.length ≤ index → name ≠ natPolicySection index) →
        (writeNatPolicyConfigurations config policies).findSection name =
          (NatPolicy.saveAll config 0 policies).findSection name :=
  clearSections_spec (saveAll_distinct distinct 0) (Nat.lt_succ_self _)
    fun index _ => (contiguous.saveAll identified).hasSection index

theorem findSection_written (distinct : config.Distinct) (contiguous : Contiguous config count)
    (identified : ∀ policy ∈ policies, policy.ref ≠ []) {index : Nat} (inside : index < policies.length) :
    (writeNatPolicyConfigurations config policies).findSection (natPolicySection index) =
      (saveAll config 0 policies).findSection (natPolicySection index) := by
  apply (written_spec distinct contiguous identified).2
  intro other beyond same
  rw [natPolicySection_inj] at same
  omega

/-- The sections that are left are those of the policies. -/
theorem Contiguous.written (distinct : config.Distinct) (contiguous : Contiguous config count)
    (identified : ∀ policy ∈ policies, policy.ref ≠ []) :
    Contiguous (writeNatPolicyConfigurations config policies) policies.length := by
  obtain ⟨cleaned, kept⟩ := written_spec distinct contiguous identified
  intro name begins
  by_cases later : ∃ index, policies.length ≤ index ∧ name = natPolicySection index
  · obtain ⟨index, beyond, rfl⟩ := later
    rw [cleaned index beyond]
    constructor
    · intro impossible
      exact absurd impossible Bool.false_ne_true
    · rintro ⟨other, inside, same⟩
      rw [natPolicySection_inj] at same
      omega
  · have apart : ∀ index, policies.length ≤ index → name ≠ natPolicySection index :=
      fun index beyond same => later ⟨index, beyond, same⟩
    unfold LpConfig.hasSection
    rw [kept name apart, ← LpConfig.hasSection, contiguous.saveAll identified name begins]
    constructor
    · rintro ⟨index, -, rfl⟩
      refine ⟨index, ?_, rfl⟩
      by_contra beyond
      exact apart index (by omega) rfl
    · rintro ⟨index, inside, rfl⟩
      exact ⟨index, by omega, rfl⟩

theorem value?_written (distinct : config.Distinct) (contiguous : Contiguous config count)
    (identified : ∀ policy ∈ policies, policy.ref ≠ []) {index : Nat} (placed : policies[index]? = some policy)
    (key : Text) :
    (writeNatPolicyConfigurations config policies).value? (natPolicySection index) key =
      policy.savedValue key (config.value? (natPolicySection index) key) := by
  have inside := (List.getElem?_eq_some_iff.mp placed).1
  have read := @value?_saveAll config policy policies distinct 0 index placed key
  rw [Nat.zero_add] at read
  rw [← read]
  unfold LpConfig.value?
  rw [findSection_written distinct contiguous identified inside]

theorem ref_written (distinct : config.Distinct) (contiguous : Contiguous config count)
    (identified : ∀ policy ∈ policies, policy.ref ≠ []) {index : Nat} (placed : policies[index]? = some policy) :
    (writeNatPolicyConfigurations config policies).value? (natPolicySection index) "ref".toList = some policy.ref := by
  rw [value?_written distinct contiguous identified placed]
  simp [savedValue, identified policy (List.mem_of_getElem? placed)]

/-- The section that a reference leads to is the one its policy was saved in. -/
theorem fromRefName_written (distinct : config.Distinct) (contiguous : Contiguous config count)
    (identified : ∀ policy ∈ policies, policy.ref ≠ []) (refs : (policies.map NatPolicy.ref).Nodup) {index : Nat}
    (placed : policies[index]? = some policy) (token : Text) :
    fromRefName (writeNatPolicyConfigurations config policies) policy.ref token =
      NatPolicy.initFromSection { ref := token } (writeNatPolicyConfigurations config policies)
        (natPolicySection index) := by
  have inside := (List.getElem?_eq_some_iff.mp placed).1
  have present := (contiguous.written distinct identified).hasSection
  have enough := count_le_sections fun other early => (present other).mpr early
  apply searchRef_found (by omega) (Nat.zero_le index)
  · intro other early
    exact (present other).mpr (by omega)
  · intro other early same
    obtain ⟨first, placedFirst⟩ : ∃ first, policies[other]? = some first :=
      ⟨policies[other], List.getElem?_eq_getElem (by omega)⟩
    rw [ref_written distinct contiguous identified placedFirst, Option.some.injEq] at same
    have equal : (policies.map NatPolicy.ref)[other]? = (policies.map NatPolicy.ref)[index]? := by
      rw [List.getElem?_map, List.getElem?_map, placedFirst, placed, Option.map_some, Option.map_some, same]
    have unique := (List.getElem?_inj (by simpa using Nat.lt_trans early inside) refs).mp equal
    omega
  · exact ref_written distinct contiguous identified placed

/-- Of the fields that a policy should keep, only the transports depend on what the
section held before. -/
theorem loaded_agrees_iff (distinct : config.Distinct) (contiguous : Contiguous config count)
    (identified : ∀ policy ∈ policies, policy.ref ≠ []) (refs : (policies.map NatPolicy.ref).Nodup)
    (off : ∀ policy ∈ policies, policy.upnpEnabled = false) {index : Nat} (placed : policies[index]? = some policy)
    (token : Text) :
    Agrees policy (fromRefName (writeNatPolicyConfigurations config policies) policy.ref token) ↔
      policy.turnUdpEnabled = config.getBool (natPolicySection index) "turn_enable_udp".toList true ∧
        policy.turnTcpEnabled = config.getBool (natPolicySection index) "turn_enable_tcp".toList false ∧
        policy.turnTlsEnabled = config.getBool (natPolicySection index) "turn_enable_tls".toList false := by
  have member := List.mem_of_getElem? placed
  rw [fromRefName_written distinct contiguous identified refs placed, initFromSection_saved (off policy member)
    (identified policy member) ⟨rfl, rfl, rfl⟩ (value?_written distinct contiguous identified placed)]
  constructor
  · intro agrees
    exact ⟨agrees.turnUdpEnabled.symm, agrees.turnTcpEnabled.symm, agrees.turnTlsEnabled.symm⟩
  · rintro ⟨udp, tcp, tls⟩
    exact ⟨rfl, rfl, rfl, rfl, rfl, udp.symm, tcp.symm, tls.symm⟩

end Writing

/-- The policies survive: each is found again by its reference, there is no other
section, and a copy is like its original. -/
structure Survive (policies : List NatPolicy) (final : LpConfig) : Prop where
  loaded : ∀ policy ∈ policies, ∀ token, Agrees policy (fromRefName final policy.ref token)
  sections : ∀ name, natPolicyPrefix <+: name → (final.hasSection name = true ↔
    ∃ index < policies.length, name = natPolicySection index)
  cloned : ∀ policy ∈ policies, ∀ token, Agrees policy (policy.clone token)

/-- TURN goes over UDP unless the section already said otherwise, and over nothing
else. -/
def UdpOnly (policies : List NatPolicy) (config : LpConfig) : Prop :=
  ∀ index policy, policies[index]? = some policy →
    policy.turnUdpEnabled = config.getBool (natPolicySection index) "turn_enable_udp".toList true ∧
      policy.turnTcpEnabled = false ∧ policy.turnTlsEnabled = false ∧
      config.getBool (natPolicySection index) "turn_enable_tcp".toList false = false ∧
      config.getBool (natPolicySection index) "turn_enable_tls".toList false = false

theorem saved_policies_survive_iff {policies : List NatPolicy} {config : LpConfig} (distinct : config.Distinct)
    {count : Nat} (contiguous : Contiguous config count)
    (identified : ∀ policy ∈ policies, policy.ref ≠ []) (refs : (policies.map NatPolicy.ref).Nodup)
    (off : ∀ policy ∈ policies, policy.upnpEnabled = false) :
    Survive policies (writeNatPolicyConfigurations config policies) ↔ UdpOnly policies config := by
  constructor
  · intro survive index policy placed
    have member := List.mem_of_getElem? placed
    have loaded := survive.loaded policy member []
    rw [loaded_agrees_iff distinct contiguous identified refs off placed] at loaded
    obtain ⟨udp, tcp, tls⟩ := loaded
    obtain ⟨noTcp, noTls⟩ := (clone_agrees_iff policy []).mp (survive.cloned policy member [])
    exact ⟨udp, noTcp, noTls, tcp.symm.trans noTcp, tls.symm.trans noTls⟩
  · intro only
    refine ⟨?_, contiguous.written distinct identified, ?_⟩
    · intro policy member token
      obtain ⟨index, placed⟩ := List.getElem?_of_mem member
      obtain ⟨udp, noTcp, noTls, tcp, tls⟩ := only index policy placed
      rw [loaded_agrees_iff distinct contiguous identified refs off placed]
      exact ⟨udp, noTcp.trans tcp.symm, noTls.trans tls.symm⟩
    · intro policy member token
      obtain ⟨index, placed⟩ := List.getElem?_of_mem member
      obtain ⟨-, noTcp, noTls, -, -⟩ := only index policy placed
      exact (clone_agrees_iff policy token).mpr ⟨noTcp, noTls⟩

def udpPolicy : NatPolicy :=
  { ref := "main".toList, stunServer := "stun.example.org".toList, stunEnabled := true, iceEnabled := true,
    turnUdpEnabled := true }

def tcpPolicy : NatPolicy := { udpPolicy with turnEnabled := true, turnTcpEnabled := true }

theorem contiguous_empty : Contiguous {} 0 := by
  intro name begins
  constructor
  · intro found
    exact absurd found Bool.false_ne_true
  · rintro ⟨index, inside, -⟩
    omega

theorem udp_policy_survives : Survive [udpPolicy] (writeNatPolicyConfigurations {} [udpPolicy]) := by
  have only : UdpOnly [udpPolicy] {} := by
    intro index policy placed
    cases index with
    | zero =>
      obtain rfl : udpPolicy = policy := by simpa using placed
      exact ⟨rfl, rfl, rfl, rfl, rfl⟩
    | succ index => simp at placed
  refine (@saved_policies_survive_iff [udpPolicy] {} LpConfig.Distinct.empty 0 contiguous_empty ?_
    (List.nodup_singleton _) ?_).mpr only
  · simp [udpPolicy]
  · simp [udpPolicy]

/-- A policy with TURN over TCP comes back without it. -/
theorem tcp_policy_lost : ¬ Survive [tcpPolicy] (writeNatPolicyConfigurations {} [tcpPolicy]) := by
  intro survive
  have kept := (survive.loaded tcpPolicy (List.mem_singleton_self _) []).turnTcpEnabled
  exact absurd kept (by decide +kernel)

end NatPolicy
end Liblinphone
