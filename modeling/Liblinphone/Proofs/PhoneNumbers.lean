import Liblinphone.Proofs.CallingCodes

/-! A number that was brought to the form of a plan is not changed when it is brought to it
again. The plan of Belgium counts the digits of a number by its first one, which may be another
one after the number was shortened. -/

namespace Liblinphone

namespace DialPlan

variable {unescape : Text → Text} {dp : DialPlan} {number phoneNumber : Text}

/-- The texts that are left of a number. -/
def Flat (text : Text) : Prop := ∀ char ∈ text, char = '+' ∨ char.isDigit = true

/-- Nothing is unescaped in a text of digits. -/
def KeepsFlat (unescape : Text → Text) : Prop := ∀ text, Flat text → unescape text = text

theorem flat_flatten (unescape : Text → Text) (number : Text) : Flat (flattenPhoneNumber unescape number) := by
  intro char member
  have kept := (List.mem_filter.mp member).2
  rw [Bool.or_eq_true, beq_iff_eq] at kept
  exact kept

theorem Flat.drop {text : Text} (flat : Flat text) (count : Nat) : Flat (text.drop count) :=
  fun char member => flat char (List.mem_of_mem_drop member)

theorem flat_code (member : dp ∈ sDialPlans) : Flat dp.countryCallingCode := by
  obtain ⟨code, -, written⟩ := code_of_plan member
  rw [written]
  exact fun char inside => .inr ((numberText_digits code).2 char inside)

theorem flatten_flat (keeps : KeepsFlat unescape) (flat : Flat number) : flattenPhoneNumber unescape number = number := by
  have whole : cString number = number := by
    apply Library.takeWhile_whole
    intro char member
    rcases flat char member with rfl | digit
    · rfl
    · have other : char ≠ '\x00' := by
        rintro rfl
        exact absurd digit (by decide)
      simpa using other
  rw [flattenPhoneNumber, whole, keeps number flat]
  apply List.filter_eq_self.mpr
  intro char member
  rw [Bool.or_eq_true, beq_iff_eq]
  exact flat char member

theorem flat_significant (unescape : Text → Text) (dp : DialPlan) (number : Text) :
    Flat (dp.getSignificantDigits unescape number) := by
  have flat := flat_flatten unescape number
  unfold getSignificantDigits
  dsimp only
  split
  next =>
    split
    next => exact (flat.drop 1).drop _
    next => exact flat.drop 1
  next =>
    split
    next => exact flat.drop _
    next => exact flat

/-- The digits that matter in a number that was formatted are those that were put behind the code. -/
theorem significant_formatted (keeps : KeepsFlat unescape) (member : dp ∈ sDialPlans) {digits : Text} (flat : Flat digits)
    (present : digits ≠ []) :
    dp.getSignificantDigits unescape ('+' :: (dp.countryCallingCode ++ digits)) = digits := by
  have whole : Flat ('+' :: (dp.countryCallingCode ++ digits)) := by
    intro char inside
    rcases List.mem_cons.mp inside with rfl | later
    · exact .inl rfl
    · rcases List.mem_append.mp later with coded | national
      · exact flat_code member char coded
      · exact flat char national
  have longer : (dp.countryCallingCode ++ digits).length ≠ dp.countryCallingCode.length := by
    have positive := List.length_pos_iff.mpr present
    rw [List.length_append]
    omega
  unfold getSignificantDigits
  simp only [flatten_flat keeps whole, List.head?_cons, if_true, List.drop_succ_cons, List.drop_zero]
  rw [if_pos ⟨List.isPrefixOf_iff_prefix.mpr (List.prefix_append _ _), longer⟩, List.drop_left]

section Lengths

theorem plan_lengths (member : dp ∈ sDialPlans) : 0 < dp.minNationalNumberLength ∧
    dp.minNationalNumberLength ≤ dp.maxNationalNumberLength := by
  have checked : sDialPlans.all (fun dp => Nat.blt 0 dp.minNationalNumberLength &&
      Nat.ble dp.minNationalNumberLength dp.maxNationalNumberLength) = true := by decide +kernel
  have bounds := List.all_eq_true.mp checked dp member
  rw [Bool.and_eq_true] at bounds
  exact ⟨Nat.blt_eq.mp bounds.1, Nat.le_of_ble_eq_true bounds.2⟩

def belgium : DialPlan := .create "Belgium" "BE" "32" 8 9 "00" (some belgianLength)

theorem belgium_member : belgium ∈ sDialPlans := @List.mem_of_getElem? _ sDialPlans 19 belgium rfl

/-- Only the plan of Belgium counts the digits by a function. -/
theorem counts_cases (member : dp ∈ sDialPlans) : dp.nationalNumberLengthFunction = none ∨ dp = belgium := by
  have single : (sDialPlans.filter fun dp => dp.nationalNumberLengthFunction.isSome).length = 1 := by decide +kernel
  cases counts : dp.nationalNumberLengthFunction with
  | none => exact .inl rfl
  | some length =>
    have counting : dp ∈ sDialPlans.filter fun dp => dp.nationalNumberLengthFunction.isSome :=
      List.mem_filter.mpr ⟨member, by rw [counts]; rfl⟩
    have belgian : belgium ∈ sDialPlans.filter fun dp => dp.nationalNumberLengthFunction.isSome :=
      List.mem_filter.mpr ⟨belgium_member, rfl⟩
    by_contra other
    rw [not_or] at other
    have several := one_lt_length counting belgian other.2
    omega

end Lengths

section Formatting

/-- The digits that are put behind the code. -/
def keptDigits (dp : DialPlan) (digits : Text) : Text :=
  if dp.nationalNumberLength digits < digits.length then digits.drop (digits.length - dp.nationalNumberLength digits)
  else digits

/-- The digits are too few for the plan. -/
def TooShort (dp : DialPlan) (digits : Text) : Prop :=
  digits.length ≤ dp.nationalNumberLength digits ∧ digits.length < dp.minNationalNumberLength

instance (dp : DialPlan) (digits : Text) : Decidable (dp.TooShort digits) := inferInstanceAs (Decidable (_ ∧ _))

theorem format_eq (unescape : Text → Text) (member : dp ∈ sDialPlans) (number : Text) :
    dp.formatPhoneNumber unescape number false =
      if dp.TooShort (dp.getSignificantDigits unescape number) then number
      else '+' :: (dp.countryCallingCode ++ dp.keptDigits (dp.getSignificantDigits unescape number)) := by
  have coded : dp.countryCallingCode.isEmpty = false := by
    have positive := (code_length member).1
    simpa using List.length_pos_iff.mp positive
  unfold formatPhoneNumber keptDigits
  rw [coded]
  dsimp only
  by_cases long : dp.nationalNumberLength (dp.getSignificantDigits unescape number) <
      (dp.getSignificantDigits unescape number).length
  · rw [if_neg fun short : dp.TooShort _ => Nat.not_le_of_lt long short.1, if_pos long]
    simp [long]
  · have fits := Nat.le_of_not_lt long
    by_cases few : (dp.getSignificantDigits unescape number).length < dp.minNationalNumberLength
    · have short : dp.TooShort (dp.getSignificantDigits unescape number) := ⟨fits, few⟩
      simp [long, few, short]
    · have enough : ¬dp.TooShort (dp.getSignificantDigits unescape number) := fun short => few short.2
      simp [long, few, enough]

theorem keptDigits_length (dp : DialPlan) (digits : Text) :
    (dp.keptDigits digits).length = min (dp.nationalNumberLength digits) digits.length := by
  unfold keptDigits
  split
  next long =>
    rw [List.length_drop]
    omega
  next short => omega

/-- A number in the form of the plan is not changed exactly if its digits are not more than the
plan counts in them. -/
theorem format_formatted_iff (keeps : KeepsFlat unescape) (member : dp ∈ sDialPlans) {digits : Text} (flat : Flat digits)
    (present : digits ≠ []) :
    dp.formatPhoneNumber unescape ('+' :: (dp.countryCallingCode ++ digits)) false =
        '+' :: (dp.countryCallingCode ++ digits) ↔ digits.length ≤ dp.nationalNumberLength digits := by
  rw [format_eq unescape member, significant_formatted keeps member flat present]
  by_cases short : dp.TooShort digits
  · rw [if_pos short]
    exact iff_of_true rfl short.1
  · rw [if_neg short, List.cons_inj_right, List.append_cancel_left_eq]
    constructor
    · intro same
      have length := keptDigits_length dp digits
      rw [same] at length
      omega
    · intro fits
      rw [keptDigits, if_neg (by omega)]

/-- More than nine digits count, and the last nine of them begin with a zero that is counted away. -/
def LosesZero (unescape : Text → Text) (dp : DialPlan) (number : Text) : Prop :=
  let digits := dp.getSignificantDigits unescape number
  dp.nationalNumberLengthFunction.isSome = true ∧ 9 < digits.length ∧ (digits.drop (digits.length - 9)).head? = some '0'

theorem belgian_length (digits : Text) : belgium.nationalNumberLength digits =
    if 9 < digits.length then 9 else if digits.length = 9 ∧ digits.head? = some '0' then 8 else digits.length := by
  have counted : belgium.nationalNumberLength digits = min 9 (belgianLength digits) := rfl
  rw [counted, belgianLength]
  split
  next zero => rw [if_neg (by omega)]; rfl
  next => split <;> omega

/-- What is kept of a Belgian number is counted again in full unless it lost its place. -/
theorem belgian_kept_iff (digits : Text) :
    (belgium.keptDigits digits).length ≤ belgium.nationalNumberLength (belgium.keptDigits digits) ↔
      ¬(9 < digits.length ∧ (digits.drop (digits.length - 9)).head? = some '0') := by
  have length := keptDigits_length belgium digits
  have counted := belgian_length digits
  have again := belgian_length (belgium.keptDigits digits)
  by_cases long : 9 < digits.length
  · rw [if_pos long] at counted
    have kept : belgium.keptDigits digits = digits.drop (digits.length - 9) := by
      rw [keptDigits, counted, if_pos long]
    have nine : (belgium.keptDigits digits).length = 9 := by omega
    rw [nine, if_neg (by omega), kept] at again
    rw [nine, kept, again]
    by_cases zero : (digits.drop (digits.length - 9)).head? = some '0'
    · rw [if_pos ⟨rfl, zero⟩]
      exact iff_of_false (by omega) fun fits => fits ⟨long, zero⟩
    · rw [if_neg fun both => zero both.2]
      exact iff_of_true (Nat.le_refl 9) fun both => zero both.2
  · rw [if_neg long] at counted
    refine iff_of_true ?_ fun both => long both.1
    by_cases zero : digits.length = 9 ∧ digits.head? = some '0'
    · rw [if_pos zero] at counted
      have eight : (belgium.keptDigits digits).length = 8 := by omega
      rw [eight, if_neg (by omega), if_neg (by omega)] at again
      omega
    · rw [if_neg zero] at counted
      have kept : belgium.keptDigits digits = digits := by rw [keptDigits, counted, if_neg (by omega)]
      rw [kept, counted]

/-- To format a number again changes it exactly if a Belgian number loses a zero. -/
theorem formatPhoneNumber_idempotent_iff (keeps : KeepsFlat unescape) (member : dp ∈ sDialPlans) (number : Text) :
    dp.formatPhoneNumber unescape (dp.formatPhoneNumber unescape number false) false =
        dp.formatPhoneNumber unescape number false ↔ ¬LosesZero unescape dp number := by
  have flat := flat_significant unescape dp number
  have formatted := format_eq unescape member number
  obtain ⟨positive, ordered⟩ := plan_lengths member
  by_cases short : dp.TooShort (dp.getSignificantDigits unescape number)
  · rw [if_pos short] at formatted
    rw [formatted, formatted]
    refine iff_of_true rfl ?_
    rintro ⟨counts, long, -⟩
    rcases counts_cases member with none | rfl
    · rw [none] at counts
      cases counts
    · have eight : belgium.minNationalNumberLength = 8 := rfl
      have few := short.2
      omega
  · rw [if_neg short] at formatted
    have kept := keptDigits_length dp (dp.getSignificantDigits unescape number)
    have national : Flat (dp.keptDigits (dp.getSignificantDigits unescape number)) := by
      unfold keptDigits
      split
      next => exact flat.drop _
      next => exact flat
    rw [TooShort, not_and_or] at short
    rcases counts_cases member with none | rfl
    · have most (digits : Text) : dp.nationalNumberLength digits = dp.maxNationalNumberLength := by
        rw [nationalNumberLength, none]
      rw [most] at kept short
      have present : dp.keptDigits (dp.getSignificantDigits unescape number) ≠ [] := by
        apply List.length_pos_iff.mp
        omega
      rw [formatted, format_formatted_iff keeps member national present, most]
      refine iff_of_true (by omega) ?_
      rintro ⟨counts, -⟩
      rw [none] at counts
      cases counts
    · have eight : belgium.minNationalNumberLength = 8 := rfl
      have counted := belgian_length (belgium.getSignificantDigits unescape number)
      have enough : 8 ≤ (belgium.getSignificantDigits unescape number).length := by
        by_contra few
        rw [if_neg (by omega), if_neg (by omega)] at counted
        omega
      have atLeast : 8 ≤ belgium.nationalNumberLength (belgium.getSignificantDigits unescape number) := by
        rw [counted]
        split
        next => omega
        next => split <;> omega
      have present : belgium.keptDigits (belgium.getSignificantDigits unescape number) ≠ [] := by
        apply List.length_pos_iff.mp
        omega
      rw [formatted, format_formatted_iff keeps member national present, belgian_kept_iff]
      exact not_congr ⟨fun both => ⟨rfl, both⟩, fun loses => loses.2⟩

theorem belgian_number_formatted_again :
    belgium.formatPhoneNumber id (belgium.formatPhoneNumber id "0123 456789".toList false) false =
      belgium.formatPhoneNumber id "0123 456789".toList false :=
  (formatPhoneNumber_idempotent_iff (fun _ _ => rfl) belgium_member "0123 456789".toList).mpr fun loses =>
    absurd loses.2.2 (by decide +kernel)

/-- The zero that begins the last nine of more digits is kept at first, and taken away then. -/
theorem belgian_number_loses_zero : belgium ∈ sDialPlans ∧ KeepsFlat id ∧
    belgium.formatPhoneNumber id (belgium.formatPhoneNumber id "0032012345678".toList false) false ≠
      belgium.formatPhoneNumber id "0032012345678".toList false :=
  ⟨belgium_member, fun _ _ => rfl, by decide +kernel⟩

end Formatting

end DialPlan

end Liblinphone
