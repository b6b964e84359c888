import Liblinphone.PayloadTypeHandler

/-! The numbers of an offer are unique as long as no number that is taken over, from
the previous negotiation or from a frozen codec, is already carried by a codec that
has been handled: this is the one case in which no availability is checked. -/

namespace Liblinphone.PayloadTypeHandler

variable {previousList : List PayloadType}

/-- Two codecs that are both offered have different numbers. -/
def Apart (first second : OrtpPayloadType) : Prop :=
  first.enabled = true → second.enabled = true → first.number ≠ second.number

theorem isPayloadTypeNumberAvailable_iff {codecs : List OrtpPayloadType} {number : Int} :
    isPayloadTypeNumberAvailable codecs number = true ↔ ∀ pt ∈ codecs, pt.number ≠ number := by
  simp [isPayloadTypeNumberAvailable]

/-- The number that a codec carries whatever the other codecs have: the one that it
had, or its own when it is frozen. -/
def fixedNumber (previousList : List PayloadType) (pt : OrtpPayloadType) : Option Int :=
  let number := findPayloadTypeNumber previousList pt.toPayloadType
  if number != -1 then some number
  else if pt.flags.frozenNumber && pt.number != -1 then some pt.number
  else none

theorem assignNumber_fixed {pt : OrtpPayloadType} {number : Int} (fixed : fixedNumber previousList pt = some number)
    (handled others : List OrtpPayloadType) :
    (assignNumber previousList handled pt others).number = number ∧
      (assignNumber previousList handled pt others).enabled = pt.enabled := by
  simp only [fixedNumber] at fixed
  split at fixed
  next found =>
    simp only [Option.some.injEq] at fixed
    have assigned : number ≠ -1 := by simpa [← fixed] using found
    simp [assignNumber, takePreviousNumber, fixed, assigned]
  next unmatched =>
    split at fixed
    next frozen =>
      rw [Bool.and_eq_true, bne_iff_ne] at frozen
      simp only [Option.some.injEq] at fixed
      subst fixed
      simp [assignNumber, takePreviousNumber, unmatched, frozen.1, frozen.2]
    next => cases fixed

theorem assignDynamicNumber_apart (handled others : List OrtpPayloadType) (pt : OrtpPayloadType) :
    ∀ other ∈ handled, Apart other (assignDynamicNumber (handled ++ pt :: others) pt) := by
  intro other member
  unfold assignDynamicNumber
  split
  next dynNumber found =>
    intro _ _
    unfold dynamicNumber at found
    have available := List.find?_some found
    exact isPayloadTypeNumberAvailable_iff.mp available other (by simp [member])
  next =>
    intro _ disabled
    exact absurd disabled (by simp)

/-- A codec that is free to change its number never takes one that is in use. -/
theorem assignNumber_apart {pt : OrtpPayloadType} (unfixed : fixedNumber previousList pt = none)
    (handled others : List OrtpPayloadType) :
    ∀ other ∈ handled, Apart other (assignNumber previousList handled pt others) := by
  have same : takePreviousNumber previousList pt = pt := by
    simp only [fixedNumber] at unfixed
    split at unfixed
    next => cases unfixed
    next unmatched => simp only [takePreviousNumber, unmatched, Bool.false_eq_true, if_false]
  intro other member
  simp only [assignNumber, same]
  split
  next => exact assignDynamicNumber_apart handled others pt other member
  next kept =>
    intro _ _
    rw [Bool.or_eq_true, not_or, Bool.not_eq_true, beq_iff_eq] at kept
    have free : isPayloadTypeNumberAvailable (handled ++ others) pt.number = true := by
      simp only [fixedNumber] at unfixed
      split at unfixed
      next => cases unfixed
      next =>
        split at unfixed
        next => cases unfixed
        next loose => grind
    exact isPayloadTypeNumberAvailable_iff.mp free other (by simp [member])

/-- At every turn, a number that is taken over is not carried by a codec that has
been handled. -/
def TakesFreeNumbers (previousList : List PayloadType) (handled : List OrtpPayloadType) : List OrtpPayloadType → Prop
  | [] => True
  | pt :: others =>
    (∀ number, fixedNumber previousList pt = some number → pt.enabled = true →
      ∀ other ∈ handled, other.enabled = true → other.number ≠ number) ∧
    TakesFreeNumbers previousList (handled ++ [assignNumber previousList handled pt others]) others

theorem assignNumber_apart_iff (handled others : List OrtpPayloadType) (pt : OrtpPayloadType) :
    (∀ other ∈ handled, Apart other (assignNumber previousList handled pt others)) ↔
      ∀ number, fixedNumber previousList pt = some number → pt.enabled = true →
        ∀ other ∈ handled, other.enabled = true → other.number ≠ number := by
  cases fixed : fixedNumber previousList pt with
  | none => simpa using assignNumber_apart fixed handled others
  | some number =>
    obtain ⟨assigned, enabled⟩ := assignNumber_fixed fixed handled others
    constructor
    · rintro apart _ ⟨⟩ on other member otherOn
      rw [← assigned]
      exact apart other member otherOn (enabled.trans on)
    · intro free other member otherOn on
      rw [assigned]
      exact free number rfl (enabled.symm.trans on) other member otherOn

theorem assignNumbers_unique_iff (handled codecs : List OrtpPayloadType) :
    (assignNumbers previousList handled codecs).Pairwise Apart ↔
      handled.Pairwise Apart ∧ TakesFreeNumbers previousList handled codecs := by
  induction codecs generalizing handled with
  | nil => simp [assignNumbers, TakesFreeNumbers]
  | cons pt others ih =>
    rw [assignNumbers, ih, TakesFreeNumbers, ← assignNumber_apart_iff handled others, List.pairwise_append]
    simp [and_assoc]

/-- A codec that has a match with a number keeps this number. -/
def KeepsNumber (previousList : List PayloadType) (pt final : OrtpPayloadType) : Prop :=
  ∀ entry, findCandidate pt.toPayloadType none previousList = some entry → entry.number ≠ -1 → final.number = entry.number

theorem assignNumber_keeps (handled others : List OrtpPayloadType) (pt : OrtpPayloadType) :
    KeepsNumber previousList pt (assignNumber previousList handled pt others) := by
  intro entry found numbered
  have number : findPayloadTypeNumber previousList pt.toPayloadType = entry.number := by
    simp [findPayloadTypeNumber, found]
  exact (assignNumber_fixed (by simp [fixedNumber, number, numbered]) handled others).1

theorem assignNumbers_keeps (handled codecs : List OrtpPayloadType) :
    ∃ finals, assignNumbers previousList handled codecs = handled ++ finals ∧
      List.Forall₂ (KeepsNumber previousList) codecs finals := by
  induction codecs generalizing handled with
  | nil => exact ⟨[], by simp [assignNumbers], .nil⟩
  | cons pt others ih =>
    obtain ⟨finals, assigned, keeps⟩ := ih (handled ++ [assignNumber previousList handled pt others])
    refine ⟨assignNumber previousList handled pt others :: finals, ?_, .cons (assignNumber_keeps handled others pt) keeps⟩
    rw [assignNumbers, assigned]
    simp

/-- Redundant text changes no number. -/
theorem setRedFmtp_numbers (codecs : List OrtpPayloadType) :
    (setRedFmtp codecs).map (fun pt => (pt.number, pt.enabled)) = codecs.map fun pt => (pt.number, pt.enabled) := by
  unfold setRedFmtp
  split
  next t140 red _ _ =>
    have indexed : codecs.map (fun pt => (pt.number, pt.enabled)) =
        codecs.zipIdx.map ((fun pt => (pt.number, pt.enabled)) ∘ Prod.fst) := by
      rw [← List.map_map, List.zipIdx_map_fst]
    rw [indexed, List.map_map]
    apply List.map_congr_left
    intro entry _
    simp only [Function.comp_apply]
    split
    next => rfl
    next => rfl
  next => rfl

theorem setRedFmtp_unique (codecs : List OrtpPayloadType) :
    (setRedFmtp codecs).Pairwise Apart ↔ codecs.Pairwise Apart := by
  have projected : ∀ payloads : List OrtpPayloadType, payloads.Pairwise Apart ↔
      (payloads.map fun pt => (pt.number, pt.enabled)).Pairwise fun (first second : Int × Bool) =>
        first.2 = true → second.2 = true → first.1 ≠ second.1 := by
    intro payloads
    rw [List.pairwise_map]
    rfl
  rw [projected, setRedFmtp_numbers, ← projected]

theorem setRedFmtp_keeps {codecs finals : List OrtpPayloadType}
    (keeps : List.Forall₂ (KeepsNumber previousList) codecs finals) :
    List.Forall₂ (KeepsNumber previousList) codecs (setRedFmtp finals) := by
  have projected : ∀ payloads : List OrtpPayloadType, List.Forall₂ (KeepsNumber previousList) codecs payloads ↔
      List.Forall₂ (fun (pt : OrtpPayloadType) (numbered : Int × Bool) =>
        ∀ entry, findCandidate pt.toPayloadType none previousList = some entry → entry.number ≠ -1 →
          numbered.1 = entry.number) codecs (payloads.map fun pt => (pt.number, pt.enabled)) := by
    intro payloads
    rw [List.forall₂_map_right_iff]
    rfl
  rw [projected, setRedFmtp_numbers, ← projected]
  exact keeps

/-- The codecs that are offered have different numbers, and a codec keeps the number
of its match in the previous list, exactly when at every turn a number that is taken
over is not carried by an enabled codec that has been handled. -/
theorem payload_numbers_unique_iff (codecs : List OrtpPayloadType) (previousList : List PayloadType) :
    ((assignPayloadTypeNumbers codecs previousList).Pairwise Apart ∧
      List.Forall₂ (KeepsNumber previousList) codecs (assignPayloadTypeNumbers codecs previousList)) ↔
    TakesFreeNumbers previousList [] codecs := by
  have keeps : List.Forall₂ (KeepsNumber previousList) codecs (assignPayloadTypeNumbers codecs previousList) := by
    obtain ⟨finals, assigned, keeps⟩ := @assignNumbers_keeps previousList [] codecs
    rw [assignPayloadTypeNumbers, assigned, List.nil_append]
    exact setRedFmtp_keeps keeps
  rw [assignPayloadTypeNumbers, setRedFmtp_unique, assignNumbers_unique_iff]
  constructor
  · rintro ⟨⟨_, free⟩, _⟩
    exact free
  · intro free
    exact ⟨⟨.nil, free⟩, keeps⟩

/-- A codec that was enabled since the last negotiation is offered before opus, and
takes the number that opus had. -/
theorem payload_numbers_collide :
    let speex : OrtpPayloadType := { mimeType := some "speex", clockRate := 16000, channels := 1, number := -1 }
    let opus : OrtpPayloadType := { mimeType := some "opus", clockRate := 48000, channels := 2, number := -1 }
    let previousList : List PayloadType := [{ opus.toPayloadType with number := 96 }]
    (previousList.map PayloadType.number).Nodup ∧
      (assignPayloadTypeNumbers [speex, opus] previousList).map (fun pt => (pt.number, pt.enabled)) =
        [(96, true), (96, true)] ∧
      ¬ (assignPayloadTypeNumbers [speex, opus] previousList).Pairwise Apart := by
  intro speex opus previousList
  have numbers : (assignPayloadTypeNumbers [speex, opus] previousList).map (fun pt => (pt.number, pt.enabled)) =
      [(96, true), (96, true)] := by decide
  refine ⟨by decide, numbers, ?_⟩
  intro unique
  have apart : ((assignPayloadTypeNumbers [speex, opus] previousList).map fun pt => (pt.number, pt.enabled)).Pairwise
      fun (first second : Int × Bool) => first.2 = true → second.2 = true → first.1 ≠ second.1 := by
    rw [List.pairwise_map]
    exact unique
  rw [numbers] at apart
  simp at apart

end Liblinphone.PayloadTypeHandler
