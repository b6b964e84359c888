import Liblinphone.Proofs.PayloadNumbers

/-! The end of the dynamic numbers. A codec that needs a number is disabled when there
is none left, and also when it takes the last one. -/

namespace Liblinphone.PayloadTypeHandler

variable {previousList : List PayloadType} {dynPt : Int}

/-- A moment of the loop: the codecs that have been handled, the one that is processed
with the number it had before, and the others. -/
structure Turn where
  handled : List OrtpPayloadType
  pt : OrtpPayloadType
  others : List OrtpPayloadType

namespace Turn

def codecs (previousList : List PayloadType) (turn : Turn) : List OrtpPayloadType :=
  turn.handled ++ takePreviousNumber previousList turn.pt :: turn.others

def result (previousList : List PayloadType) (dynPt : Int) (turn : Turn) : OrtpPayloadType :=
  assignNumber previousList turn.handled turn.pt turn.others dynPt

/-- The codec has no number, or one that another codec has. -/
def NeedsNumber (previousList : List PayloadType) (turn : Turn) : Prop :=
  let pt := takePreviousNumber previousList turn.pt
  pt.number = -1 ∨
    (pt.flags.frozenNumber = false ∧ ∃ other ∈ turn.handled ++ turn.others, other.number = pt.number)

end Turn

def turns (previousList : List PayloadType) (dynPt : Int) (handled : List OrtpPayloadType) : List OrtpPayloadType → List Turn
  | [] => []
  | pt :: others =>
    ⟨handled, pt, others⟩ ::
      turns previousList dynPt (handled ++ [assignNumber previousList handled pt others dynPt]) others

theorem assignNumbers_turns (handled codecs : List OrtpPayloadType) :
    assignNumbers previousList handled codecs dynPt =
      handled ++ (turns previousList dynPt handled codecs).map (Turn.result previousList dynPt) := by
  induction codecs generalizing handled with
  | nil => simp [assignNumbers, turns]
  | cons pt others ih =>
    rw [assignNumbers, ih, turns, List.map_cons, List.append_assoc, List.singleton_append]
    rfl

/-- No number from the first dynamic one on is free but the last. -/
def OnlyLastFree (dynPt : Int) (codecs : List OrtpPayloadType) : Prop :=
  dynPt ≤ 126 ∧ (∀ pt ∈ codecs, pt.number ≠ 126) ∧
    ∀ number, dynPt ≤ number → number < 126 → ∃ pt ∈ codecs, pt.number = number

theorem isPayloadTypeNumberAvailable_false {codecs : List OrtpPayloadType} {number : Int} :
    isPayloadTypeNumberAvailable codecs number = false ↔ ∃ pt ∈ codecs, pt.number = number := by
  rw [← Bool.not_eq_true, isPayloadTypeNumberAvailable_iff]
  push Not
  rfl

theorem mem_dynamic {number : Int} :
    number ∈ ((List.range (127 - dynPt).toNat).map fun step : Nat => dynPt + step) ↔ dynPt ≤ number ∧ number ≤ 126 := by
  rw [List.mem_map]
  constructor
  · rintro ⟨step, inside, rfl⟩
    rw [List.mem_range] at inside
    omega
  · rintro ⟨low, high⟩
    refine ⟨(number - dynPt).toNat, List.mem_range.mpr ?_, ?_⟩
    · omega
    · omega

theorem dynamicNumber_none {codecs : List OrtpPayloadType} (none : dynamicNumber codecs dynPt = none) (number : Int)
    (low : dynPt ≤ number) (high : number ≤ 126) : ∃ pt ∈ codecs, pt.number = number := by
  have taken := List.find?_eq_none.mp none number (mem_dynamic.mpr ⟨low, high⟩)
  exact isPayloadTypeNumberAvailable_false.mp (Bool.not_eq_true _ ▸ taken)

/-- The number that is found is the first free one. -/
theorem dynamicNumber_some {codecs : List OrtpPayloadType} {number : Int} :
    dynamicNumber codecs dynPt = some number ↔
      (dynPt ≤ number ∧ number ≤ 126) ∧ (∀ pt ∈ codecs, pt.number ≠ number) ∧
        ∀ lower, dynPt ≤ lower → lower < number → ∃ pt ∈ codecs, pt.number = lower := by
  unfold dynamicNumber
  rw [List.find?_map, Option.map_eq_some_iff]
  constructor
  · rintro ⟨step, found, rfl⟩
    obtain ⟨free, inside, earlier⟩ := List.find?_range_eq_some.mp found
    rw [List.mem_range] at inside
    refine ⟨by omega, isPayloadTypeNumberAvailable_iff.mp free, ?_⟩
    intro lower low below
    have taken := earlier (lower - dynPt).toNat (by omega)
    rw [Function.comp_apply, Bool.not_eq_true', show dynPt + ((lower - dynPt).toNat : Int) = lower by omega] at taken
    exact isPayloadTypeNumberAvailable_false.mp taken
  · rintro ⟨⟨low, high⟩, free, taken⟩
    refine ⟨(number - dynPt).toNat, List.find?_range_eq_some.mpr ⟨?_, List.mem_range.mpr (by omega), ?_⟩, by omega⟩
    · rw [Function.comp_apply, show dynPt + ((number - dynPt).toNat : Int) = number by omega]
      exact isPayloadTypeNumberAvailable_iff.mpr free
    · intro step below
      rw [Function.comp_apply, Bool.not_eq_true']
      exact isPayloadTypeNumberAvailable_false.mpr (taken _ (by omega) (by omega))

theorem dynamicNumber_last {codecs : List OrtpPayloadType} :
    dynamicNumber codecs dynPt = some 126 ↔ OnlyLastFree dynPt codecs := by
  rw [dynamicNumber_some]
  constructor
  · rintro ⟨⟨low, -⟩, free, taken⟩
    exact ⟨low, free, taken⟩
  · rintro ⟨low, free, taken⟩
    exact ⟨⟨low, le_refl _⟩, free, taken⟩

section Turns

variable {turn : Turn}

theorem needsNumber_iff :
    ((takePreviousNumber previousList turn.pt).number != -1 && !(takePreviousNumber previousList turn.pt).flags.frozenNumber &&
        !isPayloadTypeNumberAvailable (turn.handled ++ turn.others) (takePreviousNumber previousList turn.pt).number ||
      (takePreviousNumber previousList turn.pt).number == -1) = true ↔ turn.NeedsNumber previousList := by
  unfold Turn.NeedsNumber
  rw [Bool.or_eq_true, Bool.and_eq_true, Bool.and_eq_true, bne_iff_ne, beq_iff_eq, Bool.not_eq_true', Bool.not_eq_true',
    isPayloadTypeNumberAvailable_false]
  constructor
  · rintro (⟨⟨-, free⟩, used⟩ | unset)
    · exact .inr ⟨free, used⟩
    · exact .inl unset
  · rintro (unset | ⟨free, used⟩)
    · exact .inr unset
    · by_cases unset : (takePreviousNumber previousList turn.pt).number = -1
      · exact .inr unset
      · exact .inl ⟨⟨unset, free⟩, used⟩

/-- A codec that needs a number gets a dynamic one, and another one keeps what it has. -/
theorem result_cases (turn : Turn) :
    turn.NeedsNumber previousList ∧ turn.result previousList dynPt =
        assignDynamicNumber (turn.codecs previousList) (takePreviousNumber previousList turn.pt) dynPt ∨
      ¬turn.NeedsNumber previousList ∧ turn.result previousList dynPt = takePreviousNumber previousList turn.pt := by
  unfold Turn.result assignNumber
  dsimp only
  split
  next needs => exact .inl ⟨needsNumber_iff.mp needs, rfl⟩
  next kept => exact .inr ⟨fun needs => kept (needsNumber_iff.mpr needs), rfl⟩

theorem takePreviousNumber_enabled (pt : OrtpPayloadType) : (takePreviousNumber previousList pt).enabled = pt.enabled := by
  unfold takePreviousNumber
  dsimp only
  split
  next => rfl
  next => rfl

/-- A codec is disabled only when all dynamic numbers are in use, and one that finds a
free number stays enabled and carries it. -/
structure Numbered (previousList : List PayloadType) (dynPt : Int) (turn : Turn) (final : OrtpPayloadType) : Prop where
  disabled : turn.pt.enabled = true → final.enabled = false →
    ∀ number, dynPt ≤ number → number ≤ 126 → ∃ pt ∈ turn.codecs previousList, pt.number = number
  found : turn.NeedsNumber previousList → ∀ number, dynamicNumber (turn.codecs previousList) dynPt = some number →
    (turn.pt.enabled = true → final.enabled = true) ∧ final.number = number

theorem numbered_iff {final : OrtpPayloadType} (number : final.number = (turn.result previousList dynPt).number)
    (enabled : final.enabled = (turn.result previousList dynPt).enabled) :
    Numbered previousList dynPt turn final ↔
      (turn.NeedsNumber previousList → turn.pt.enabled = true → ¬OnlyLastFree dynPt (turn.codecs previousList)) := by
  rw [← dynamicNumber_last]
  rcases @result_cases previousList dynPt turn with ⟨needs, assigned⟩ | ⟨kept, same⟩
  · rw [assigned, assignDynamicNumber] at number enabled
    cases searched : dynamicNumber (turn.codecs previousList) dynPt with
    | none =>
      constructor
      · intro _ _ _ last
        cases last
      · intro _
        refine ⟨fun _ _ wanted low high => dynamicNumber_none searched wanted low high, ?_⟩
        intro _ other found
        rw [searched] at found
        cases found
    | some taken =>
      simp only [searched, takePreviousNumber_enabled] at number enabled
      constructor
      · intro numbered _ on last
        obtain rfl := Option.some.inj last
        rw [on] at enabled
        have stays := (numbered.found needs 126 searched).1 on
        rw [stays] at enabled
        exact absurd enabled (by decide)
      · intro free
        have stays : turn.pt.enabled = true → final.enabled = true := by
          intro on
          have other : taken ≠ 126 := fun same => free needs on (congrArg some same)
          rw [enabled, if_neg (by simp only [beq_iff_eq]; omega)]
          exact on
        refine ⟨fun on off => ?_, ?_⟩
        · rw [stays on] at off
          cases off
        · intro _ other found
          rw [searched] at found
          exact ⟨stays, number.trans (Option.some.inj found)⟩
  · rw [same, takePreviousNumber_enabled] at enabled
    constructor
    · intro _ needs
      exact absurd needs kept
    · intro _
      refine ⟨fun on off => ?_, fun needs => absurd needs kept⟩
      rw [on, off] at enabled
      cases enabled

end Turns

/-- The codecs of the result, with the moments at which they were processed. -/
theorem assigned_turns (codecs : List OrtpPayloadType) (index : Nat) (turn : Turn) (final : OrtpPayloadType)
    (moment : (turns previousList dynPt [] codecs)[index]? = some turn)
    (result : (assignPayloadTypeNumbers codecs previousList dynPt)[index]? = some final) :
    final.number = (turn.result previousList dynPt).number ∧
      final.enabled = (turn.result previousList dynPt).enabled := by
  have numbers := setRedFmtp_numbers (assignNumbers previousList [] codecs dynPt)
  rw [assignNumbers_turns, List.nil_append, List.map_map] at numbers
  have entries := congrArg (fun list : List (Int × Bool) => list[index]?) numbers
  unfold assignPayloadTypeNumbers at result
  rw [assignNumbers_turns, List.nil_append] at result
  simp only [List.getElem?_map, result, moment, Option.map_some, Function.comp_apply, Option.some.injEq,
    Prod.mk.injEq] at entries
  exact entries

theorem exhausted_numbers_iff (codecs : List OrtpPayloadType) (previousList : List PayloadType) (dynPt : Int) :
    (∀ (index : Nat) (turn : Turn) (final : OrtpPayloadType), (turns previousList dynPt [] codecs)[index]? = some turn →
      (assignPayloadTypeNumbers codecs previousList dynPt)[index]? = some final →
      Numbered previousList dynPt turn final) ↔
    ∀ turn ∈ turns previousList dynPt [] codecs, turn.NeedsNumber previousList → turn.pt.enabled = true →
      ¬OnlyLastFree dynPt (turn.codecs previousList) := by
  constructor
  · intro all turn member
    obtain ⟨index, moment⟩ := List.getElem?_of_mem member
    have inside : index < (assignPayloadTypeNumbers codecs previousList dynPt).length := by
      have numbers := congrArg List.length (setRedFmtp_numbers (assignNumbers previousList [] codecs dynPt))
      rw [List.length_map, List.length_map] at numbers
      rw [assignPayloadTypeNumbers, numbers, assignNumbers_turns, List.nil_append, List.length_map]
      exact (List.getElem?_eq_some_iff.mp moment).1
    have result := List.getElem?_eq_getElem inside
    obtain ⟨number, enabled⟩ := assigned_turns codecs index turn _ moment result
    exact (numbered_iff number enabled).mp (all index turn _ moment result)
  · intro free index turn final moment result
    obtain ⟨number, enabled⟩ := assigned_turns codecs index turn final moment result
    exact (numbered_iff number enabled).mpr (free turn (List.mem_of_getElem? moment))

/-- All dynamic numbers but the last are those of other codecs. -/
def almostFull : List OrtpPayloadType :=
  ((List.range 30).map fun step : Nat =>
    { mimeType := some "other", clockRate := 8000, channels := 1, number := 96 + step }) ++
    [{ mimeType := some "opus", clockRate := 48000, channels := 2, number := -1 }]

/-- Opus takes the last free number, and is disabled. -/
theorem last_number_disabled :
    ¬∀ (index : Nat) (turn : Turn) (final : OrtpPayloadType), (turns [] 96 [] almostFull)[index]? = some turn →
      (assignPayloadTypeNumbers almostFull [] 96)[index]? = some final → Numbered [] 96 turn final := by
  intro all
  have moment : ((turns [] 96 [] almostFull)[30]?).map (fun turn => (turn.pt, dynamicNumber (turn.codecs []) 96)) =
      some ({ mimeType := some "opus", clockRate := 48000, channels := 2, number := -1 }, some 126) := by
    decide +kernel
  have result : ((assignPayloadTypeNumbers almostFull [] 96)[30]?).map (fun final => (final.number, final.enabled)) =
      some (126, false) := by
    decide +kernel
  obtain ⟨turn, at30, seen⟩ := Option.map_eq_some_iff.mp moment
  obtain ⟨final, left, shown⟩ := Option.map_eq_some_iff.mp result
  have needs : turn.NeedsNumber [] := by
    unfold Turn.NeedsNumber
    rw [(Prod.mk.inj seen).1]
    exact .inl rfl
  have stays := ((all 30 turn final at30 left).found needs 126 (Prod.mk.inj seen).2).1 (by rw [(Prod.mk.inj seen).1])
  rw [(Prod.mk.inj shown).2] at stays
  cases stays

end Liblinphone.PayloadTypeHandler
