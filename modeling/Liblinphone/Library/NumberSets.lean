import Mathlib.Data.Nat.Bitwise
import Mathlib.Data.List.Basic

/-! A list of numbers as the bits of one number. What a long list is asked about its members
is then computed in one pass. -/

namespace Liblinphone.Library

def bitSet (numbers : List Nat) : Nat := numbers.foldr (fun number bits => bits ||| 2 ^ number) 0

theorem testBit_add_number {bits number wanted : Nat} :
    (bits ||| 2 ^ number).testBit wanted = true ↔ bits.testBit wanted = true ∨ wanted = number := by
  rw [Nat.testBit_or, Bool.or_eq_true, Nat.testBit_two_pow, decide_eq_true_eq, @eq_comm _ number]

theorem testBit_bitSet {numbers : List Nat} {wanted : Nat} : (bitSet numbers).testBit wanted = true ↔ wanted ∈ numbers := by
  induction numbers with
  | nil => simp [bitSet]
  | cons number rest ih =>
    rw [bitSet, List.foldr_cons, testBit_add_number, ← bitSet, ih, List.mem_cons, or_comm]

/-- No number is among the bits or comes twice. -/
def distinctFrom (bits : Nat) : List Nat → Bool
  | [] => true
  | number :: rest => !bits.testBit number && distinctFrom (bits ||| 2 ^ number) rest

theorem distinctFrom_nodup {bits : Nat} {numbers : List Nat} (distinct : distinctFrom bits numbers = true) :
    numbers.Nodup ∧ ∀ number ∈ numbers, ¬bits.testBit number = true := by
  induction numbers generalizing bits with
  | nil => exact ⟨List.nodup_nil, by simp⟩
  | cons number rest ih =>
    rw [distinctFrom, Bool.and_eq_true, Bool.not_eq_true'] at distinct
    obtain ⟨nodup, absent⟩ := ih distinct.2
    refine ⟨List.nodup_cons.mpr ⟨?_, nodup⟩, ?_⟩
    · intro member
      exact absent number member (testBit_add_number.mpr (.inr rfl))
    · intro other member
      rcases List.mem_cons.mp member with rfl | later
      · rw [distinct.1]
        exact Bool.noConfusion
      · intro held
        exact absent other later (testBit_add_number.mpr (.inl held))

end Liblinphone.Library
