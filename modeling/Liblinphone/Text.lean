import Mathlib.Data.List.Basic

/-! Texts are lists of characters. Numbers are written in decimal, and read back
as far as their digits go. -/

namespace Liblinphone

abbrev Text := List Char

/-- `std::to_string` of a number that is not negative. -/
def numberText (value : Nat) : Text := Nat.toDigits 10 value

/-- The value of a text of digits. -/
def textNumber (digits : Text) : Nat := Nat.ofDigitChars 10 digits 0

def Digits (text : Text) : Prop := text ≠ [] ∧ ∀ digit ∈ text, digit.isDigit = true

theorem numberText_digits (value : Nat) : Digits (numberText value) :=
  ⟨Nat.toDigits_ne_nil, fun _ member => Nat.isDigit_of_mem_toDigits (by omega) (by omega) member⟩

@[simp] theorem textNumber_numberText (value : Nat) : textNumber (numberText value) = value :=
  Nat.ofDigitChars_toDigits (by omega) (by omega)

theorem Digits.append {first second : Text} (left : Digits first) (right : Digits second) : Digits (first ++ second) := by
  refine ⟨by simp [left.1], ?_⟩
  intro digit member
  rcases List.mem_append.mp member with early | late
  · exact left.2 digit early
  · exact right.2 digit late

/-- A character that is not a digit is not in a text of digits. -/
theorem Digits.not_mem {text : Text} (digits : Digits text) {separator : Char} (other : separator.isDigit = false) :
    separator ∉ text := by
  intro member
  rw [digits.2 separator member] at other
  exact Bool.noConfusion other

theorem mem_intercalate {separator char : Char} {parts : List Text} (member : char ∈ [separator].intercalate parts) :
    char = separator ∨ ∃ part ∈ parts, char ∈ part := by
  induction parts with
  | nil => simp at member
  | cons part rest ih =>
    by_cases last : rest = []
    · rw [last, List.intercalate_singleton] at member
      exact .inr ⟨part, by simp, member⟩
    · rw [List.intercalate_cons_of_ne_nil last, List.append_assoc] at member
      rcases List.mem_append.mp member with here | after
      · exact .inr ⟨part, by simp, here⟩
      · rcases List.mem_append.mp after with separating | later
        · exact .inl (List.mem_singleton.mp separating)
        · rcases ih later with separating | ⟨other, inside, found⟩
          · exact .inl separating
          · exact .inr ⟨other, List.mem_cons_of_mem _ inside, found⟩

/-- A character that is no small letter comes from itself. -/
theorem eq_of_toLower_eq {char lower : Char} (same : char.toLower = lower)
    (other : lower.val.toNat < 97 ∨ 122 < lower.val.toNat) : char = lower := by
  by_cases upper : char.val ≥ 'A'.val ∧ char.val ≤ 'Z'.val
  · have small : char.toLower.val = char.val + 32 := congrArg Char.val (dif_pos upper)
    have value : (char.val + 32).toNat = lower.val.toNat := by rw [← small, same]
    have low : 65 ≤ char.val.toNat := UInt32.le_iff_toNat_le.mp upper.1
    have high : char.val.toNat ≤ 90 := UInt32.le_iff_toNat_le.mp upper.2
    have shift : (32 : UInt32).toNat = 32 := rfl
    rw [UInt32.toNat_add, shift] at value
    omega
  · exact (dif_neg upper).symm.trans same

theorem toLower_toLower (char : Char) : char.toLower.toLower = char.toLower := by
  by_cases other : char.toLower.val.toNat < 97 ∨ 122 < char.toLower.val.toNat
  · exact congrArg Char.toLower (eq_of_toLower_eq rfl other).symm
  · have large : ¬(char.toLower.val ≥ 'A'.val ∧ char.toLower.val ≤ 'Z'.val) := by
      rintro ⟨-, high⟩
      have bound : char.toLower.val.toNat ≤ 90 := UInt32.le_iff_toNat_le.mp high
      omega
    exact dif_neg large

/-- What follows the first place where a text has another one in it. -/
def afterFirst (wanted : Text) : Text → Option Text
  | [] => if wanted.isEmpty then some [] else none
  | char :: rest =>
    if wanted.isPrefixOf (char :: rest) then some ((char :: rest).drop wanted.length) else afterFirst wanted rest

/-- A SIP scheme is somewhere in a text. -/
def hasScheme (text : Text) : Bool := (afterFirst "sip:".toList text).isSome || (afterFirst "sips:".toList text).isSome

end Liblinphone
