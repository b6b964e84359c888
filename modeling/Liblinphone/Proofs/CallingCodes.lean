import Mathlib.Data.List.Count
import Liblinphone.DialPlan
import Liblinphone.Library.NumberSets
import Liblinphone.Library.Scan
import Liblinphone.Proofs.ConfigValues

/-! The code of a number is found. No code of the table begins another one, and what begins a
code without being one begins at least two of them, so that the search stops at a code. It
does not stop when there is none and the number is longer than its counter can count. -/

namespace Liblinphone

open Library

section Prefixes

theorem numberText_split {value : Nat} (large : 10 ≤ value) :
    numberText value = numberText (value / 10) ++ [Nat.digitChar (value % 10)] := by
  rw [numberText, Nat.toDigits_eq_if (by omega), if_neg (by omega)]
  rfl

/-- What begins a number is the number, or begins the one without the last digit. -/
theorem prefix_numberText {start value : Nat} (begins : numberText start <+: numberText value) :
    start = value ∨ 10 ≤ value ∧ numberText start <+: numberText (value / 10) := by
  by_cases large : 10 ≤ value
  · rw [numberText_split large, List.prefix_concat_iff, ← numberText_split large] at begins
    rcases begins with same | shorter
    · exact .inl (numberText_injective same)
    · exact .inr ⟨large, shorter⟩
  · have single : numberText value = [Nat.digitChar value] := by
      rw [numberText, Nat.toDigits_eq_if (by omega), if_pos (by omega)]
    obtain ⟨digit, rest, written⟩ := List.exists_cons_of_ne_nil (numberText_digits start).1
    rw [written, single, List.cons_prefix_cons, List.prefix_nil] at begins
    apply Or.inl
    apply numberText_injective
    rw [written, single, begins.1, begins.2]

/-- What differs in the last digit only begins in the same way. -/
theorem take_numberText {first second : Nat} (large : 10 ≤ first) (same : second / 10 = first / 10) {count : Nat}
    (short : count < (numberText first).length) : (numberText first).take count <+: numberText second := by
  rw [numberText_split large, List.length_append, List.length_singleton] at short
  have other := @numberText_split second (by omega)
  rw [numberText_split large, List.take_append_of_le_length (by omega), other, same]
  exact (List.take_prefix _ _).trans (List.prefix_append _ _)

theorem one_lt_length {α : Type u} {entries : List α} {first second : α} (left : first ∈ entries) (right : second ∈ entries)
    (different : first ≠ second) : 1 < entries.length := by
  cases entries with
  | nil => exact absurd left List.not_mem_nil
  | cons entry rest =>
    cases rest with
    | nil => exact absurd ((List.mem_singleton.mp left).trans (List.mem_singleton.mp right).symm) different
    | cons next more => simp

end Prefixes

namespace DialPlan

section Table

/-- The codes of the table. -/
def callingCodes : List Nat := [
  93, 355, 213, 1, 376, 244, 1, 1, 54, 374, 297, 61, 43, 994, 1, 973, 880, 1, 375, 32, 501, 229, 1, 975, 591, 387,
  267, 55, 673, 359, 226, 257, 855, 237, 1, 238, 1, 236, 235, 56, 86, 57, 269, 682, 506, 225, 385, 53, 599, 357,
  420, 243, 45, 253, 1, 1, 670, 593, 20, 503, 240, 291, 372, 268, 251, 500, 298, 679, 358, 33, 594, 689, 241, 220,
  995, 49, 233, 350, 30, 299, 1, 590, 1, 502, 224, 245, 592, 509, 504, 852, 36, 354, 91, 62, 98, 964, 353, 972, 39,
  1, 81, 962, 254, 686, 850, 82, 383, 965, 996, 856, 371, 961, 266, 231, 218, 423, 370, 352, 853, 261, 265, 60,
  960, 223, 356, 692, 596, 222, 230, 52, 691, 373, 377, 976, 382, 1, 212, 258, 95, 264, 674, 977, 31, 687, 64, 505,
  227, 234, 683, 672, 389, 1, 47, 968, 92, 680, 970, 507, 675, 595, 51, 63, 48, 351, 1, 974, 242, 262, 40, 7, 250,
  290, 1, 1, 508, 1, 685, 378, 239, 966, 221, 381, 248, 232, 65, 421, 386, 677, 252, 27, 211, 34, 94, 249, 597, 46,
  41, 963, 886, 992, 255, 66, 228, 690, 676, 1, 216, 90, 993, 1, 688, 256, 380, 971, 44, 1, 598, 998, 678, 58, 84,
  681, 967, 260, 263]

theorem callingCodes_eq : sDialPlans.map countryCallingCode = callingCodes.map numberText := by decide +kernel

/-- Only the code of North America is shared. -/
theorem callingCodes_distinct : distinctFrom (2 ^ 1) (callingCodes.filter (· != 1)) = true := by decide +kernel

theorem callingCodes_apart : callingCodes.all (fun code => Nat.blt 0 code && Nat.blt code 1000 &&
    !(bitSet callingCodes).testBit (code / 10) && !(bitSet callingCodes).testBit (code / 100)) = true := by decide +kernel

/-- A code of several digits has another one that differs in the last digit. -/
theorem callingCodes_siblings : callingCodes.all (fun code => Nat.blt code 10 || (List.range 10).any fun digit =>
    !Nat.beq (code / 10 * 10 + digit) code && (bitSet callingCodes).testBit (code / 10 * 10 + digit)) = true := by
  decide +kernel

theorem code_of_plan {dp : DialPlan} (member : dp ∈ sDialPlans) :
    ∃ code ∈ callingCodes, dp.countryCallingCode = numberText code := by
  have listed : dp.countryCallingCode ∈ callingCodes.map numberText := by
    rw [← callingCodes_eq]
    exact List.mem_map_of_mem member
  obtain ⟨code, inside, same⟩ := List.mem_map.mp listed
  exact ⟨code, inside, same.symm⟩

theorem plan_of_code {code : Nat} (member : code ∈ callingCodes) :
    ∃ dp ∈ sDialPlans, dp.countryCallingCode = numberText code := by
  have listed : numberText code ∈ sDialPlans.map countryCallingCode := by
    rw [callingCodes_eq]
    exact List.mem_map_of_mem member
  exact List.mem_map.mp listed

theorem code_small {code : Nat} (member : code ∈ callingCodes) : 0 < code ∧ code < 1000 := by
  have small := List.all_eq_true.mp callingCodes_apart code member
  simp only [Bool.and_eq_true] at small
  exact ⟨Nat.blt_eq.mp small.1.1.1, Nat.blt_eq.mp small.1.1.2⟩

/-- No code begins another one. -/
theorem code_begins {first second : Nat} (left : first ∈ callingCodes) (right : second ∈ callingCodes)
    (begins : numberText first <+: numberText second) : first = second := by
  have apart := List.all_eq_true.mp callingCodes_apart second right
  have small := code_small right
  simp only [Bool.and_eq_true, Bool.not_eq_true', ← Bool.not_eq_true, testBit_bitSet] at apart
  rcases prefix_numberText begins with same | ⟨-, shorter⟩
  · exact same
  · rcases prefix_numberText shorter with rfl | ⟨-, shortest⟩
    · exact absurd left apart.1.2
    · rw [Nat.div_div_eq_div_mul] at shortest
      rcases prefix_numberText shortest with rfl | ⟨large, -⟩
      · exact absurd left apart.2
      · omega

/-- What begins a code begins another one as well. -/
theorem code_shared {dp : DialPlan} (member : dp ∈ sDialPlans) {i : Nat} (short : i < dp.countryCallingCode.length) :
    ∃ other ∈ sDialPlans, other.countryCallingCode ≠ dp.countryCallingCode ∧
      i ≤ other.countryCallingCode.length ∧ dp.countryCallingCode.take i <+: other.countryCallingCode := by
  obtain ⟨code, listed, written⟩ := code_of_plan member
  rw [written] at short ⊢
  have another : ∃ other ∈ callingCodes, other ≠ code ∧ (numberText code).take i <+: numberText other := by
    by_cases large : 10 ≤ code
    · have siblings := List.all_eq_true.mp callingCodes_siblings code listed
      simp only [Bool.or_eq_true, Nat.blt_eq, List.any_eq_true, Bool.and_eq_true, Bool.not_eq_true',
        testBit_bitSet, List.mem_range] at siblings
      rcases siblings with small | ⟨digit, bound, different, inside⟩
      · omega
      · exact ⟨_, inside, Nat.ne_of_beq_eq_false different, take_numberText large (by omega) short⟩
    · have single : numberText code = [Nat.digitChar code] := by
        rw [numberText, Nat.toDigits_eq_if (by omega), if_pos (by omega)]
      rw [single, List.length_singleton, Nat.lt_one_iff] at short
      subst short
      by_cases same : code = 7
      · exact ⟨1, by decide, by omega, List.nil_prefix⟩
      · exact ⟨7, by decide, by omega, List.nil_prefix⟩
  obtain ⟨other, inside, different, begins⟩ := another
  obtain ⟨plan, present, named⟩ := plan_of_code inside
  refine ⟨plan, present, ?_, ?_, ?_⟩
  · rw [named]
    exact fun same => different (numberText_injective same)
  · have length := begins.length_le
    rw [List.length_take_of_le short.le] at length
    rw [named]
    exact length
  · rw [named]
    exact begins

/-- A code that is not shared is the one of a single plan. -/
theorem code_single {code : Nat} (member : code ∈ callingCodes) (other : code ≠ 1) :
    (sDialPlans.filter fun dp => dp.countryCallingCode == numberText code).length = 1 := by
  have unique := (distinctFrom_nodup callingCodes_distinct).1
  have kept : code ∈ callingCodes.filter (· != 1) := List.mem_filter.mpr ⟨member, by simpa using other⟩
  have counted : (sDialPlans.map countryCallingCode).count (numberText code) = 1 := by
    rw [callingCodes_eq, List.count_map_of_injective _ _ numberText_injective,
      ← @List.count_filter _ _ _ (· != 1) code callingCodes (by simpa using other)]
    exact List.count_eq_one_of_mem unique kept
  rw [← List.countP_eq_length_filter]
  rwa [List.count, List.countP_map] at counted

end Table

section Comparison

variable {code number : Text} {i : Nat}

/-- What agrees as far as it was read begins the number. -/
theorem strncmpEqual_prefix (plain : '\x00' ∉ code) (equal : strncmpEqual code number i = true) :
    code.take i <+: number := by
  have whole : cString code = code :=
    takeWhile_whole fun char member => by simpa using fun same : char = '\x00' => plain (same ▸ member)
  rw [strncmpEqual, whole, beq_iff_eq] at equal
  have begins : code.take i <+: cString number ++ ['\x00'] := by
    have start : code.take i <+: (code ++ ['\x00']).take i := by
      rw [List.take_append]
      exact List.prefix_append _ _
    rw [equal] at start
    exact start.trans (List.take_prefix _ _)
  rw [List.prefix_concat_iff] at begins
  rcases begins with ended | begins
  · have last : '\x00' ∈ code.take i := by simp [ended]
    exact absurd (List.mem_of_mem_take last) plain
  · exact begins.trans (List.takeWhile_prefix _)

theorem strncmpEqual_of_prefix (plain : '\x00' ∉ code) (short : i ≤ code.length) (begins : code.take i <+: number) :
    strncmpEqual code number i = true := by
  have whole : cString code = code :=
    takeWhile_whole fun char member => by simpa using fun same : char = '\x00' => plain (same ▸ member)
  obtain ⟨rest, rfl⟩ := begins
  have read : cString (code.take i ++ rest) = code.take i ++ cString rest := by
    rw [cString, List.takeWhile_append_of_pos]
    · rfl
    · intro char member
      simpa using fun same : char = '\x00' => plain (same ▸ List.mem_of_mem_take member)
  have length : (code.take i).length = i := List.length_take_of_le short
  have taken : (code.take i ++ cString rest ++ ['\x00']).take i = code.take i := by
    rw [List.append_assoc, List.take_append_of_le_length (by omega), List.take_of_length_le (by omega)]
  rw [strncmpEqual, whole, read, taken, List.take_append_of_le_length short]
  exact beq_self_eq_true _

end Comparison

section Rounds

variable {dp : DialPlan} {number e164 : Text} {i last : BitVec 32} {elected : Option DialPlan}

theorem plain_code (member : dp ∈ sDialPlans) : '\x00' ∉ dp.countryCallingCode := by
  obtain ⟨code, -, written⟩ := code_of_plan member
  rw [written]
  exact (numberText_digits code).not_mem (by decide)

theorem code_length (member : dp ∈ sDialPlans) : 0 < dp.countryCallingCode.length ∧ dp.countryCallingCode.length ≤ 3 := by
  obtain ⟨code, listed, written⟩ := code_of_plan member
  rw [written]
  refine ⟨List.length_pos_iff.mpr (numberText_digits code).1, ?_⟩
  exact (Nat.length_toDigits_le_iff (by omega) (by omega)).mpr (code_small listed).2

/-- While a code is not read to its end, several plans agree. -/
theorem several_agree (member : dp ∈ sDialPlans) (short : i.toNat < dp.countryCallingCode.length)
    (begins : dp.countryCallingCode.take i.toNat <+: number) : 1 < (agreeing number i).length := by
  obtain ⟨other, present, different, long, shared⟩ := code_shared member short
  have same : other.countryCallingCode.take i.toNat = dp.countryCallingCode.take i.toNat := by
    have length := List.length_take_of_le short.le
    have taken := List.prefix_iff_eq_take.mp shared
    rw [length] at taken
    exact taken.symm
  have left : dp ∈ agreeing number i :=
    List.mem_filter.mpr ⟨member, strncmpEqual_of_prefix (plain_code member) short.le begins⟩
  have right : other ∈ agreeing number i :=
    List.mem_filter.mpr ⟨present, strncmpEqual_of_prefix (plain_code present) long (same ▸ begins)⟩
  exact one_lt_length left right fun equal => different (congrArg countryCallingCode equal).symm

/-- Once a code that is not shared is read, its plan is the only one that agrees. -/
theorem one_agrees (member : dp ∈ sDialPlans) (other : dp.countryCallingCode ≠ ['1'])
    (read : i.toNat = dp.countryCallingCode.length) (begins : dp.countryCallingCode <+: number) :
    agreeing number i = sDialPlans.filter (fun plan => plan.countryCallingCode == dp.countryCallingCode) ∧
      (agreeing number i).length = 1 := by
  obtain ⟨code, listed, written⟩ := code_of_plan member
  have same : agreeing number i = sDialPlans.filter fun plan => plan.countryCallingCode == dp.countryCallingCode := by
    apply List.filter_congr
    intro plan present
    obtain ⟨found, inside, named⟩ := code_of_plan present
    rw [Bool.eq_iff_iff, beq_iff_eq, read]
    constructor
    · intro equal
      have starts := strncmpEqual_prefix (plain_code present) equal
      by_cases short : plan.countryCallingCode.length ≤ dp.countryCallingCode.length
      · rw [List.take_of_length_le short] at starts
        have start := List.prefix_of_prefix_length_le starts begins short
        rw [written, named] at start
        rw [written, named, code_begins inside listed start]
      · have length : (plan.countryCallingCode.take dp.countryCallingCode.length).length = dp.countryCallingCode.length :=
          List.length_take_of_le (by omega)
        have start := (List.prefix_of_prefix_length_le begins starts length.ge).trans (List.take_prefix _ _)
        rw [written, named] at start
        rw [written, named, code_begins listed inside start]
    · intro equal
      apply strncmpEqual_of_prefix (plain_code present) (by rw [equal])
      rw [equal, List.take_length]
      exact begins
  refine ⟨same, ?_⟩
  rw [same, written]
  apply code_single listed
  rintro rfl
  exact other (written.trans (by decide))

/-- Without a code that begins the number, there is never one plan only that agrees. -/
theorem never_one_agrees (missing : ∀ dp ∈ sDialPlans, ¬dp.countryCallingCode <+: number) :
    (agreeing number i).length ≠ 1 := by
  intro single
  obtain ⟨dp, only⟩ := List.length_eq_one_iff.mp single
  have found : dp ∈ agreeing number i := by simp [only]
  obtain ⟨member, equal⟩ := List.mem_filter.mp found
  have begins := strncmpEqual_prefix (plain_code member) equal
  by_cases short : i.toNat < dp.countryCallingCode.length
  · have several := several_agree member short begins
    omega
  · rw [List.take_of_length_le (by omega)] at begins
    exact missing dp member begins

/-- A round that is not the last one. -/
theorem lookupLoop_next {fuel : Nat} (several : (agreeing e164.tail (last + 1)).length ≠ 1)
    (longer : (last + 1).toNat < e164.length - 1) :
    ∃ elected', lookupLoop e164 (fuel + 1) last elected = lookupLoop e164 fuel (last + 1) elected' := by
  refine ⟨(agreeing e164.tail (last + 1)).getLast?.or elected, ?_⟩
  rw [lookupLoop]
  exact if_pos ⟨by omega, longer⟩

theorem lookupLoop_found {fuel : Nat} {result : Int} (single : (agreeing e164.tail (last + 1)).length = 1)
    (same : ∀ dp ∈ agreeing e164.tail (last + 1), Utils.stoi dp.countryCallingCode = result) :
    lookupLoop e164 (fuel + 1) last elected = some result := by
  obtain ⟨dp, only⟩ := List.length_eq_one_iff.mp single
  rw [lookupLoop, if_neg (by omega), if_pos single, only]
  exact congrArg some (same dp (only ▸ List.mem_singleton_self dp))

theorem lookupLoop_ended {fuel : Nat} (several : (agreeing e164.tail (last + 1)).length ≠ 1)
    (ended : e164.length - 1 ≤ (last + 1).toNat) : lookupLoop e164 (fuel + 1) last elected = some (-1) := by
  rw [lookupLoop, if_neg (by omega), if_neg several]

theorem start_toNat : (0 : BitVec 32).toNat = 0 := rfl

theorem next_toNat (small : last.toNat + 1 < 2 ^ 32) : (last + 1).toNat = last.toNat + 1 := by
  rw [BitVec.toNat_add]
  exact Nat.mod_eq_of_lt small

/-- The search reads the code to its end. -/
theorem lookupLoop_code (member : dp ∈ sDialPlans) (other : dp.countryCallingCode ≠ ['1'])
    (begins : dp.countryCallingCode <+: e164.tail) {result : Int} (value : Utils.stoi dp.countryCallingCode = result)
    {left : Nat} (position : last.toNat + left + 1 = dp.countryCallingCode.length) :
    lookupLoop e164 (left + 1) last elected = some result := by
  have short := (code_length member).2
  have length := begins.length_le
  rw [List.length_tail] at length
  have next := @next_toNat last (by omega)
  induction left generalizing last elected with
  | zero =>
    obtain ⟨same, single⟩ := one_agrees member other (by omega : (last + 1).toNat = _) begins
    apply lookupLoop_found single
    intro plan inside
    rw [same] at inside
    rw [beq_iff_eq.mp (List.mem_filter.mp inside).2, value]
  | succ left ih =>
    have several := @several_agree dp e164.tail (last + 1) member (by omega) ((List.take_prefix _ _).trans begins)
    obtain ⟨elected', continued⟩ := @lookupLoop_next e164 last elected (left + 1) (by omega) (by omega)
    rw [continued]
    exact ih (by omega) (next_toNat (by omega))

/-- Without a code the search goes to the end of the number. -/
theorem lookupLoop_missing (missing : ∀ dp ∈ sDialPlans, ¬dp.countryCallingCode <+: e164.tail) {left : Nat}
    (bound : last.toNat + left + 1 < 2 ^ 32) (enough : e164.length - 1 ≤ last.toNat + left + 1) :
    lookupLoop e164 (left + 1) last elected = some (-1) := by
  have next := @next_toNat last (by omega)
  have several := @never_one_agrees e164.tail (last + 1) missing
  by_cases ended : e164.length - 1 ≤ (last + 1).toNat
  · exact lookupLoop_ended several ended
  · induction left generalizing last elected with
    | zero => omega
    | succ left ih =>
      obtain ⟨elected', continued⟩ := @lookupLoop_next e164 last elected (left + 1) several (by omega)
      have after := @next_toNat (last + 1) (by omega)
      rw [continued]
      by_cases last' : e164.length - 1 ≤ (last + 1 + 1).toNat
      · exact lookupLoop_ended (never_one_agrees missing) last'
      · exact ih (by omega) (by omega) after (never_one_agrees missing) last'

/-- The counter never reaches the end of a number that is too long. -/
theorem lookupLoop_endless (missing : ∀ dp ∈ sDialPlans, ¬dp.countryCallingCode <+: e164.tail)
    (long : 2 ^ 32 ≤ e164.length - 1) (fuel : Nat) : lookupLoop e164 fuel last elected = none := by
  induction fuel generalizing last elected with
  | zero => rfl
  | succ fuel ih =>
    have bound := (last + 1).isLt
    obtain ⟨elected', continued⟩ := @lookupLoop_next e164 last elected fuel (never_one_agrees missing) (by omega)
    rw [continued]
    exact ih

end Rounds

section Lookup

/-- The result that a number is to have. -/
structure LooksUp (e164 : Text) (result : Int) : Prop where
  northAmerica : "+1".toList <+: e164 → result = 1
  code : ¬"+1".toList <+: e164 → ∀ dp ∈ sDialPlans, '+' :: dp.countryCallingCode <+: e164 →
    result = textNumber dp.countryCallingCode
  missing : (∀ dp ∈ sDialPlans, ¬ '+' :: dp.countryCallingCode <+: e164) → result = -1

/-- A number has a code when the code of a plan follows its plus. -/
def HasCode (e164 : Text) : Prop := ∃ dp ∈ sDialPlans, '+' :: dp.countryCallingCode <+: e164

theorem stoi_code {dp : DialPlan} (member : dp ∈ sDialPlans) :
    Utils.stoi dp.countryCallingCode = textNumber dp.countryCallingCode := by
  obtain ⟨code, listed, written⟩ := code_of_plan member
  have small := (code_small listed).2
  have read := @Utils.stoi_append (numberText code) [] (numberText_digits code) (by simp)
    (by rw [textNumber_numberText]; omega)
  rw [List.append_nil] at read
  rw [written, read]

/-- Two codes that begin a number are the same. -/
theorem code_unique {first second : DialPlan} {number : Text} (left : first ∈ sDialPlans) (right : second ∈ sDialPlans)
    (begins : first.countryCallingCode <+: number) (starts : second.countryCallingCode <+: number) :
    first.countryCallingCode = second.countryCallingCode := by
  obtain ⟨code, listed, written⟩ := code_of_plan left
  obtain ⟨other, inside, named⟩ := code_of_plan right
  rw [written] at begins ⊢
  rw [named] at starts ⊢
  rcases List.prefix_or_prefix_of_prefix begins starts with shorter | longer
  · rw [code_begins listed inside shorter]
  · rw [code_begins inside listed longer]

theorem lookup_missing {e164 : Text} (coded : ¬HasCode e164) (number : e164.head? = some '+') (fuel : Nat) :
    lookupCccFromE164 fuel e164 = lookupLoop e164 fuel 0 none ∧
      ∀ dp ∈ sDialPlans, ¬dp.countryCallingCode <+: e164.tail := by
  obtain ⟨rest, rfl⟩ := List.head?_eq_some_iff.mp number
  have missing : ∀ dp ∈ sDialPlans, ¬dp.countryCallingCode <+: rest := fun dp member begins =>
    coded ⟨dp, member, List.cons_prefix_cons.mpr ⟨rfl, begins⟩⟩
  obtain ⟨plan, member, written⟩ := @plan_of_code 1 (by decide)
  refine ⟨?_, missing⟩
  rw [lookupCccFromE164, if_neg (by simp), if_neg]
  intro one
  obtain ⟨more, same⟩ := List.head?_eq_some_iff.mp one
  rw [List.tail_cons] at same
  apply missing plan member
  rw [written, same]
  exact ⟨more, rfl⟩

theorem lookup_code {e164 : Text} (coded : HasCode e164) :
    ∃ fuel result, lookupCccFromE164 fuel e164 = some result ∧ LooksUp e164 result := by
  obtain ⟨dp, member, begins⟩ := coded
  obtain ⟨rest, rfl⟩ : ∃ rest, e164 = '+' :: rest := by
    obtain ⟨more, rfl⟩ := begins
    exact ⟨_, rfl⟩
  have inside := (List.cons_prefix_cons.mp begins).2
  by_cases one : rest.head? = some '1'
  · obtain ⟨more, rfl⟩ := List.head?_eq_some_iff.mp one
    have america : "+1".toList <+: '+' :: '1' :: more := ⟨more, rfl⟩
    refine ⟨0, 1, rfl, fun _ => rfl, fun elsewhere => absurd america elsewhere, ?_⟩
    exact fun missing => absurd begins (missing dp member)
  · have other : dp.countryCallingCode ≠ ['1'] := by
      intro same
      rw [same] at inside
      obtain ⟨more, rfl⟩ := inside
      exact one rfl
    have bounds := code_length member
    have found := @lookupLoop_code dp ('+' :: rest) 0 none member other inside _ rfl
      (dp.countryCallingCode.length - 1) (by rw [start_toNat]; omega)
    refine ⟨dp.countryCallingCode.length - 1 + 1, Utils.stoi dp.countryCallingCode, ?_, ?_, ?_, ?_⟩
    · rw [lookupCccFromE164, if_neg (by simp), List.tail_cons, if_neg one]
      exact found
    · rintro ⟨more, same⟩
      have start : '+' :: '1' :: more = '+' :: rest := same
      obtain rfl := (List.cons.inj start).2
      exact absurd rfl one
    · intro _ plan present starts
      rw [code_unique member present inside (List.cons_prefix_cons.mp starts).2]
      exact stoi_code present
    · exact fun missing => absurd begins (missing dp member)

theorem looksUp_missing {e164 : Text} (coded : ¬HasCode e164) : LooksUp e164 (-1) := by
  obtain ⟨plan, member, written⟩ := @plan_of_code 1 (by decide)
  refine ⟨fun america => ?_, fun _ dp present begins => ?_, fun _ => rfl⟩
  · refine absurd ⟨plan, member, ?_⟩ coded
    rw [written]
    exact america
  · exact absurd ⟨dp, present, begins⟩ coded

/-- The search ends, with the right result, unless it goes through a number that has no code and
more digits than the counter can count. -/
theorem lookupCcc_exact_iff (e164 : Text) :
    (∃ fuel result, lookupCccFromE164 fuel e164 = some result ∧ LooksUp e164 result) ↔
      e164.head? ≠ some '+' ∨ HasCode e164 ∨ e164.length ≤ 2 ^ 32 := by
  by_cases coded : HasCode e164
  · exact iff_of_true (lookup_code coded) (.inr (.inl coded))
  · by_cases number : e164.head? = some '+'
    · have filled : e164 ≠ [] := by
        rintro rfl
        cases number
      constructor
      · rintro ⟨fuel, result, returned, -⟩
        obtain ⟨looped, missing⟩ := lookup_missing coded number fuel
        refine .inr (.inr ?_)
        by_contra long
        rw [looped, lookupLoop_endless missing (by omega)] at returned
        cases returned
      · rintro (other | found | short)
        · exact absurd number other
        · exact absurd found coded
        · obtain ⟨looped, missing⟩ := lookup_missing coded number (e164.length - 1 - 1 + 1)
          refine ⟨_, -1, looped.trans ?_, looksUp_missing coded⟩
          apply lookupLoop_missing missing
          · rw [start_toNat]
            have positive := List.length_pos_iff.mpr filled
            omega
          · rw [start_toNat]
            omega
    · refine iff_of_true ⟨0, -1, ?_, looksUp_missing coded⟩ (.inl number)
      rw [lookupCccFromE164, if_pos number]

theorem zeros_endless {count : Nat} (long : 2 ^ 32 ≤ count) (fuel : Nat) :
    lookupCccFromE164 fuel ('+' :: List.replicate count '0') = none := by
  have coded : ¬HasCode ('+' :: List.replicate count '0') := by
    rintro ⟨dp, member, begins⟩
    obtain ⟨code, listed, written⟩ := code_of_plan member
    have inside := (List.cons_prefix_cons.mp begins).2
    rw [written] at inside
    obtain ⟨first, rest, same⟩ := List.exists_cons_of_ne_nil (numberText_digits code).1
    have zero : first = '0' := List.eq_of_mem_replicate (inside.subset (by simp [same]))
    exact head?_numberText (code_small listed).1 (by rw [same, zero]; rfl)
  obtain ⟨looped, missing⟩ := lookup_missing coded rfl fuel
  have length : ('+' :: List.replicate count '0').length - 1 = count := by simp
  rw [looped, lookupLoop_endless missing (by rwa [length])]

/-- A plus before as many zeros as the counter has values is searched for ever. -/
theorem zeros_never_found :
    ¬∃ fuel result, lookupCccFromE164 fuel ('+' :: List.replicate (2 ^ 32) '0') = some result ∧
      LooksUp ('+' :: List.replicate (2 ^ 32) '0') result := by
  rintro ⟨fuel, result, returned, -⟩
  rw [zeros_endless (Nat.le_refl (2 ^ 32)) fuel] at returned
  cases returned

end Lookup

end DialPlan

end Liblinphone
