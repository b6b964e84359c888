import Liblinphone.ParticipantParameters
import Liblinphone.Library.Run

/-! The parameters of a participant over runs of calls. A parameter has the value that was
added last, unless it was removed since. The test of presence says the opposite of what
it is asked for. All the parameters, put into a new participant, make it alike. -/

namespace Liblinphone

open Library

namespace ParticipantInfo

/-- Neither of the names that are kept apart. -/
def PlainName (name : String) : Prop := name ≠ sequenceParameter ∧ name ≠ roleParameter

theorem beq_name (name : String) :
    (fun param : String × String => param.1 == name) = fun param => decide (param.1 = name) := by
  funext param
  exact beq_eq_decide _ _

theorem findParameter_addParameter (name other value : String) (params : List (String × String)) :
    findParameter other (addParameter params (name, value)) =
      if name = other then some value else findParameter other params := by
  unfold addParameter findParameter
  rw [beq_name]
  split
  next present =>
    rw [findKey_updateFirst (fun _ _ => rfl)]
    split
    next same =>
      obtain ⟨param, member, found⟩ := List.any_eq_true.mp present
      cases held : findKey Prod.fst other params with
      | none =>
        have named : param.1 = other := by simpa [← same] using found
        exact absurd named (findKey_none.mp held param member)
      | some kept => rfl
    next => rfl
  next absent =>
    rw [findKey_append]
    split
    next same =>
      have missing : findKey Prod.fst other params = none := by
        rw [findKey_none]
        intro param member equal
        have named : param.1 = name := equal.trans same.symm
        exact absent (List.any_eq_true.mpr ⟨param, member, decide_eq_true named⟩)
      simp [missing]
    next => simp

theorem findParameter_removeParameter {info : ParticipantInfo} (distinct : DistinctKeys Prod.fst info.parameters)
    (name other : String) : findParameter other (info.removeParameter name).parameters =
      if name = other then none else findParameter other info.parameters := by
  unfold removeParameter findParameter
  rw [findKey_eraseP distinct]
  split <;> rfl

theorem addParameter_distinct {params : List (String × String)} (distinct : DistinctKeys Prod.fst params)
    (param : String × String) : DistinctKeys Prod.fst (addParameter params param) := by
  unfold addParameter
  rw [beq_name]
  split
  next => exact distinct.updateFirst fun _ _ => rfl
  next absent =>
    apply distinct.append
    rw [findKey_none]
    intro other member same
    exact absent (List.any_eq_true.mpr ⟨other, member, decide_eq_true same⟩)

theorem mem_addParameter {params : List (String × String)} {param other : String × String}
    (member : other ∈ addParameter params param) : other ∈ params ∨ other = param := by
  unfold addParameter at member
  split at member
  next =>
    rcases mem_updateFirst member with kept | ⟨replaced, -, same⟩
    · exact .inl kept
    · exact .inr same
  next =>
    rcases List.mem_append.mp member with kept | added
    · exact .inl kept
    · exact .inr (List.mem_singleton.mp added)

/-- What every participant keeps to: the parameters are a map without the names that are
kept apart, and the sequence number is an `int`. -/
structure WellFormed (info : ParticipantInfo) : Prop where
  distinct : DistinctKeys Prod.fst info.parameters
  plain : ∀ param ∈ info.parameters, PlainName param.1
  sequence : -2 ^ 31 ≤ info.sequence ∧ info.sequence < 2 ^ 31

theorem create_wellFormed (address : SharedAddress) : (create address).WellFormed :=
  ⟨List.nodup_nil, by simp [create], by simp [create]⟩

theorem addParameter?_wellFormed {info next : ParticipantInfo} {name value : String} (formed : info.WellFormed)
    (added : info.addParameter? name value = .ok next) : next.WellFormed := by
  unfold addParameter? at added
  split at added
  next =>
    cases read : stdStoi value.toList with
    | error exception => simp [read, Except.map] at added
    | ok number =>
      rw [read] at added
      cases added
      exact ⟨formed.distinct, formed.plain, stdStoi_range read⟩
  next sequenced =>
    split at added
    next =>
      cases added
      exact ⟨formed.distinct, formed.plain, formed.sequence⟩
    next named =>
      cases added
      refine ⟨addParameter_distinct formed.distinct _, ?_, formed.sequence⟩
      intro param member
      rcases mem_addParameter member with kept | rfl
      · exact formed.plain param kept
      · exact ⟨sequenced, named⟩

theorem addParameters?_wellFormed {info next : ParticipantInfo} {params : List (String × String)}
    (formed : info.WellFormed) (added : info.addParameters? params = .ok next) : next.WellFormed :=
  foldlM_keeps (fun _ _ _ => addParameter?_wellFormed) formed added

theorem addParameters?_plain {info : ParticipantInfo} {params : List (String × String)}
    (plain : ∀ param ∈ params, PlainName param.1) :
    info.addParameters? params = .ok { info with parameters := params.foldl addParameter info.parameters } := by
  induction params generalizing info with
  | nil => rfl
  | cons param rest following =>
    obtain ⟨⟨sequenced, named⟩, others⟩ := List.forall_mem_cons.mp plain
    have first : info.addParameter? param.1 param.2 =
        .ok { info with parameters := addParameter info.parameters param } := by
      rw [addParameter?, if_neg sequenced, if_neg named]
    rw [addParameters?, List.foldlM_cons, first]
    exact following others

theorem findParameter_cons (name : String) (param : String × String) (rest : List (String × String)) :
    findParameter name (param :: rest) = if param.1 = name then some param.2 else findParameter name rest := by
  unfold findParameter findKey
  by_cases same : param.1 = name <;> simp [same]

/-- What a map gives goes over what was there. -/
theorem findParameter_fold {params : List (String × String)} (distinct : DistinctKeys Prod.fst params) (name : String)
    (held : List (String × String)) : findParameter name (params.foldl addParameter held) =
      (findParameter name params).or (findParameter name held) := by
  induction params generalizing held with
  | nil => rfl
  | cons param rest following =>
    obtain ⟨absent, others⟩ := List.nodup_cons.mp distinct
    rw [List.foldl_cons, following others, findParameter_addParameter, findParameter_cons]
    by_cases same : param.1 = name
    · have missing : findParameter name rest = none := by
        rw [findParameter, Option.map_eq_none_iff, findKey_none]
        intro other member equal
        exact absent (List.mem_map.mpr ⟨other, member, equal.trans same.symm⟩)
      simp [same, missing]
    · simp [same]

theorem addParameter_absent {params : List (String × String)} {param : String × String}
    (absent : ∀ other ∈ params, other.1 ≠ param.1) : addParameter params param = params ++ [param] := by
  have missing : ¬params.any (fun other => other.1 == param.1) = true := by
    rw [List.any_eq_true]
    rintro ⟨other, member, same⟩
    exact absent other member (by simpa using same)
  rw [addParameter, if_neg missing]

theorem foldl_addParameter {held params : List (String × String)} (distinct : DistinctKeys Prod.fst (held ++ params)) :
    params.foldl addParameter held = held ++ params := by
  induction params generalizing held with
  | nil => rw [List.foldl_nil, List.append_nil]
  | cons param rest following =>
    have absent : ∀ other ∈ held, other.1 ≠ param.1 := by
      intro other member
      rw [DistinctKeys, List.map_append, List.nodup_append] at distinct
      exact distinct.2.2 other.1 (List.mem_map_of_mem member) param.1 (by simp)
    rw [List.foldl_cons, addParameter_absent absent, following (by simpa using distinct), List.append_assoc]
    rfl

theorem textToRole_toText (role : ParticipantRole) : textToRole role.toText = role := by
  cases role <;> rfl

/-- The sequence number and the role follow the other parameters. -/
theorem getAllParameters_eq {info : ParticipantInfo} (plain : ∀ param ∈ info.parameters, PlainName param.1) :
    info.getAllParameters = info.parameters ++
      (if info.sequence ≥ 0 then [(sequenceParameter, String.ofList (numberText info.sequence.toNat))] else []) ++
      (if info.role ≠ .unknown then [(roleParameter, info.role.toText)] else []) := by
  have sequenced : (if info.sequence ≥ 0 then
      addParameter info.parameters (sequenceParameter, String.ofList (numberText info.sequence.toNat))
      else info.parameters) = info.parameters ++
        (if info.sequence ≥ 0 then [(sequenceParameter, String.ofList (numberText info.sequence.toNat))] else []) := by
    split
    next => exact addParameter_absent fun other member => (plain other member).1
    next => rw [List.append_nil]
  rw [getAllParameters, sequenced]
  split
  next =>
    apply addParameter_absent
    intro other member
    rcases List.mem_append.mp member with kept | number
    · exact (plain other kept).2
    · split at number
      next =>
        rw [List.mem_singleton.mp number]
        exact (by decide : sequenceParameter ≠ roleParameter)
      next => exact absurd number List.not_mem_nil
  next => rw [List.append_nil]

theorem addParameters?_append (info : ParticipantInfo) (first second : List (String × String)) :
    info.addParameters? (first ++ second) = (info.addParameters? first).bind (·.addParameters? second) := by
  unfold addParameters?
  rw [List.foldlM_append]
  rfl

/-- All the parameters of a participant are read back: this is what merging participants does. -/
theorem addParameters?_getAllParameters {other : ParticipantInfo} (formed : other.WellFormed) (info : ParticipantInfo) :
    info.addParameters? other.getAllParameters = .ok (info.addParameters other) := by
  have number (target : ParticipantInfo) : target.addParameters?
      (if other.sequence ≥ 0 then [(sequenceParameter, String.ofList (numberText other.sequence.toNat))] else []) =
        .ok { target with sequence := if other.sequence ≥ 0 then other.sequence else target.sequence } := by
    split
    next known =>
      have small := formed.sequence.2
      have read : stdStoi (numberText other.sequence.toNat) = .ok other.sequence := by
        rw [stdStoi_numberText (by omega), Int.toNat_of_nonneg known]
      simp only [addParameters?, List.foldlM_cons, List.foldlM_nil, addParameter?, if_true, String.toList_ofList, read]
      rfl
    next => rfl
  have role (target : ParticipantInfo) : target.addParameters?
      (if other.role ≠ .unknown then [(roleParameter, other.role.toText)] else []) =
        .ok { target with role := if other.role = .unknown then target.role else other.role } := by
    by_cases unknown : other.role = .unknown
    · simp [unknown, addParameters?, pure, Except.pure]
    · have apart : roleParameter ≠ sequenceParameter := by decide
      simp only [ne_eq, unknown, not_false_eq_true, if_true, if_false, addParameters?, List.foldlM_cons, List.foldlM_nil,
        addParameter?, apart, textToRole_toText]
      rfl
  rw [getAllParameters_eq formed.plain, addParameters?_append, addParameters?_append, addParameters?_plain formed.plain]
  simp only [Except.bind, number, role]
  rfl

end ParticipantInfo

namespace ParameterCall

open ParticipantInfo

theorem apply_wellFormed {info next : ParticipantInfo} {call : ParameterCall} (formed : info.WellFormed)
    (applied : apply info call = .ok next) : next.WellFormed := by
  cases call with
  | addParameter name value => exact addParameter?_wellFormed formed applied
  | addParameters params distinct => exact addParameters?_wellFormed formed applied
  | removeParameter name =>
    cases applied
    refine ⟨formed.distinct.eraseP _, ?_, formed.sequence⟩
    exact fun param member => formed.plain param (List.mem_of_mem_eraseP member)
  | setParameters params distinct =>
    have emptied : { info with parameters := [] }.WellFormed :=
      ⟨List.nodup_nil, fun _ member => absurd member List.not_mem_nil, formed.sequence⟩
    exact addParameters?_wellFormed emptied applied

theorem run_wellFormed {info next : ParticipantInfo} {calls : List ParameterCall} (formed : info.WellFormed)
    (ran : run info calls = .ok next) : next.WellFormed :=
  foldlM_keeps (fun _ _ _ => apply_wellFormed) formed ran

/-- What a call writes to the parameter of a name, if it does: a value, or that there is none. -/
def writes (name : String) : ParameterCall → Option (Option String)
  | addParameter given value => if given = name then some (some value) else none
  | addParameters params _ => (findParameter name params).map some
  | removeParameter given => if given = name then some none else none
  | setParameters params _ => some (findParameter name params)

/-- No name that is kept apart is given. -/
def Plain (call : ParameterCall) : Prop := ∀ name ∈ call.names, PlainName name

/-- A call with plain names does not throw, and writes what it says. -/
theorem apply_plain {info : ParticipantInfo} {call : ParameterCall} (formed : info.WellFormed) (plain : call.Plain) :
    ∃ next, apply info call = .ok next ∧
      ∀ name, findParameter name next.parameters = (call.writes name).getD (findParameter name info.parameters) := by
  cases call with
  | addParameter given value =>
    obtain ⟨sequenced, named⟩ := plain given List.mem_cons_self
    refine ⟨{ info with parameters := ParticipantInfo.addParameter info.parameters (given, value) }, ?_, ?_⟩
    · rw [apply, addParameter?, if_neg sequenced, if_neg named]
    · intro name
      rw [findParameter_addParameter, writes]
      split <;> rfl
  | addParameters params distinct =>
    refine ⟨_, addParameters?_plain fun param member => plain param.1 (List.mem_map_of_mem member), ?_⟩
    intro name
    rw [findParameter_fold distinct, writes]
    cases findParameter name params <;> rfl
  | removeParameter given =>
    refine ⟨_, rfl, ?_⟩
    intro name
    rw [findParameter_removeParameter formed.distinct, writes]
    split <;> rfl
  | setParameters params distinct =>
    refine ⟨_, addParameters?_plain fun param member => plain param.1 (List.mem_map_of_mem member), ?_⟩
    intro name
    rw [findParameter_fold distinct]
    exact Option.or_none

/-- In a run with plain names a parameter has what was written to it last. -/
theorem run_plain {info : ParticipantInfo} {calls : List ParameterCall} (formed : info.WellFormed)
    (plain : ∀ call ∈ calls, call.Plain) :
    ∃ final, run info calls = .ok final ∧ ∀ name, findParameter name final.parameters =
      lastWrite (writes name) (findParameter name info.parameters) calls := by
  induction calls generalizing info with
  | nil => exact ⟨info, rfl, fun _ => rfl⟩
  | cons call rest following =>
    obtain ⟨first, others⟩ := List.forall_mem_cons.mp plain
    obtain ⟨middle, applied, written⟩ := apply_plain formed first
    obtain ⟨final, ran, last⟩ := following (apply_wellFormed formed applied) others
    refine ⟨final, ?_, ?_⟩
    · rw [run, List.foldlM_cons, applied]
      exact ran
    · intro name
      rw [last, written]
      rfl

/-- In every run the test of presence says the opposite of what it is asked, for every
name. The values are right, and so is what a new participant is given. -/
theorem presence_inverted (address : SharedAddress) {calls : List ParameterCall}
    (plain : ∀ call ∈ calls, call.Plain) :
    (∃ info, run (create address) calls = .ok info ∧ ∀ name,
      ¬(info.hasParameter name = true ↔ ∃ value, WrittenLast (writes name) (some value) calls) ∧
      ∀ value, WrittenLast (writes name) (some value) calls → info.getParameterValue name = value) ∧
    ∀ origin history info, run (create origin) history = .ok info →
      ∃ copy, (create address).addParameters? info.getAllParameters = .ok copy ∧ copy.parameters = info.parameters ∧
        (info.role ≠ .unknown → copy.role = info.role) ∧ (0 ≤ info.sequence → copy.sequence = info.sequence) := by
  refine ⟨?_, ?_⟩
  · obtain ⟨info, ran, last⟩ := run_plain (create_wellFormed address) plain
    refine ⟨info, ran, fun name => ?_⟩
    have written (value : String) (final : WrittenLast (writes name) (some value) calls) :
        findParameter name info.parameters = some value := by
      rw [last]
      exact lastWrite_eq_iff.mpr (.inl final)
    refine ⟨?_, ?_⟩
    · cases found : findParameter name info.parameters with
      | none =>
        rintro ⟨present, -⟩
        obtain ⟨value, final⟩ := present (by rw [hasParameter, found]; rfl)
        rw [written value final] at found
        exact nomatch found
      | some value =>
        rintro ⟨-, absent⟩
        rw [last] at found
        rcases lastWrite_eq_iff.mp found with final | ⟨start, -⟩
        · have present := absent ⟨value, final⟩
          rw [hasParameter, written value final] at present
          exact Bool.noConfusion present
        · exact nomatch start
    · intro value final
      rw [getParameterValue, written value final]
      rfl
  · intro origin history info ran
    have formed := run_wellFormed (create_wellFormed origin) ran
    refine ⟨_, addParameters?_getAllParameters formed _, foldl_addParameter formed.distinct, ?_, ?_⟩
    · exact fun known => if_neg known
    · exact fun known => if_pos known

/-- A parameter that was just added is said to be missing. -/
theorem added_parameter_missing :
    ∃ info, run (create ⟨(0, 0), { domain := "example.org" }⟩) [.addParameter "CN" "Bob"] = .ok info ∧
      info.hasParameter "CN" = false ∧ WrittenLast (writes "CN") (some "Bob") [.addParameter "CN" "Bob"] :=
  ⟨_, rfl, rfl, [], _, [], rfl, rfl, fun _ member => absurd member List.not_mem_nil⟩

theorem presence_inverted_once :
    (∃ info, run (create ⟨(0, 0), { domain := "example.org" }⟩) [.addParameter "CN" "Bob"] = .ok info ∧ ∀ name,
      ¬(info.hasParameter name = true ↔
        ∃ value, WrittenLast (writes name) (some value) [.addParameter "CN" "Bob"]) ∧
      ∀ value, WrittenLast (writes name) (some value) [.addParameter "CN" "Bob"] →
        info.getParameterValue name = value) ∧
    ∀ origin history info, run (create origin) history = .ok info →
      ∃ copy, (create ⟨(0, 0), { domain := "example.org" }⟩).addParameters? info.getAllParameters = .ok copy ∧
        copy.parameters = info.parameters ∧ (info.role ≠ .unknown → copy.role = info.role) ∧
        (0 ≤ info.sequence → copy.sequence = info.sequence) := by
  apply presence_inverted
  intro call member name given
  rw [List.mem_singleton.mp member] at given
  rw [List.mem_singleton.mp given]
  exact ⟨by decide, by decide⟩

end ParameterCall

end Liblinphone
