import Liblinphone.Library.Calendar
import Liblinphone.ConfigValues

/-! The helpers for times and texts. Some of them are those of the standard library,
which throw where the others give a default. -/

namespace Liblinphone

open Library

inductive StdException where
  | invalidArgument | outOfRange
deriving Repr, DecidableEq

namespace Utils

def getTimeTAsTm (time : Int) : Tm := gmtime time

/-- The zone, when it is known, is one that `timegm` takes into account. What is read after
`timegm` has brought the fields into their ranges. -/
def getTmAsTimeT (tm : Tm) : Int :=
  let offset := if tm.zone.isNone then tm.gmtoff else 0
  let result := timegm tm
  if result = -1 then
    let copy := gmtime result
    if copy.hour = 0 ∧ copy.min = 0 ∧ copy.sec = 0 ∧ copy.year = 70 ∧ copy.mon = 0 ∧ copy.mday = 1 then 0 else -1
  else result - offset

/-- Without an offset the time is the instant, also when that is the one that stands for an error. -/
theorem getTmAsTimeT_eq {tm : Tm} (utc : tm.gmtoff = 0) : getTmAsTimeT tm = timegm tm := by
  rw [getTmAsTimeT, utc, ite_self, Int.sub_zero]
  split
  next error =>
    rw [error]
    rfl
  next => rfl

/-- The number at the start of a text, when there is one. -/
def strtol (text : Text) : Option Int :=
  let text := text.dropWhile isSpace
  let negative := text.head? = some '-'
  let digits := (if negative ∨ text.head? = some '+' then text.tail else text).takeWhile Char.isDigit
  if digits.isEmpty then none else some (if negative then -(textNumber digits : Int) else textNumber digits)

/-- The digits at the start of a text are read up to what follows them. -/
theorem strtol_append {digits rest : Text} (number : Digits digits) (ends : ∀ char ∈ rest.head?, char.isDigit = false) :
    strtol (digits ++ rest) = some (textNumber digits : Int) := by
  obtain ⟨first, more, rfl⟩ := List.exists_cons_of_ne_nil number.1
  have digit := number.2 first List.mem_cons_self
  have minus : first ≠ '-' := fun same => absurd (same ▸ digit) (by decide)
  have plus : first ≠ '+' := fun same => absurd (same ▸ digit) (by decide)
  have stop : rest.takeWhile Char.isDigit = [] := by
    cases rest with
    | nil => rfl
    | cons char after => simpa using ends char rfl
  have taken : (first :: more ++ rest).takeWhile Char.isDigit = first :: more := by
    rw [List.takeWhile_append_of_pos number.2, stop, List.append_nil]
  have kept : (first :: more ++ rest).dropWhile isSpace = first :: more ++ rest := by
    rw [List.cons_append, List.dropWhile_cons, isSpace_digit digit]
    rfl
  have head : (first :: more ++ rest).head? = some first := rfl
  simp only [strtol, kept, head, Option.some.injEq, minus, plus, or_self, if_false, taken]
  rfl

/-- `Utils::stoi` never throws. A number is cut to 64 bits before it is cut to 32. -/
def stoi (text : Text) : Int := toInt (max (-2 ^ 63) (min (2 ^ 63 - 1) ((strtol text).getD 0)))

theorem stoi_append {digits rest : Text} (number : Digits digits) (ends : ∀ char ∈ rest.head?, char.isDigit = false)
    (small : textNumber digits < 2 ^ 31) : stoi (digits ++ rest) = textNumber digits := by
  rw [stoi, strtol_append number ends, Option.getD_some, min_eq_right (by omega), max_eq_right (by omega)]
  exact toInt_of_small (by omega) (by omega)

end Utils

/-- `std::stoi`. -/
def stdStoi (text : Text) : Except StdException Int :=
  match Utils.strtol text with
  | none => .error .invalidArgument
  | some value => if -2 ^ 31 ≤ value ∧ value < 2 ^ 31 then .ok value else .error .outOfRange

/-- A number that was written is read. -/
theorem stdStoi_numberText {value : Nat} (small : value < 2 ^ 31) :
    stdStoi (numberText value) = .ok (value : Int) := by
  have read := @Utils.strtol_append (numberText value) [] (numberText_digits value) (by simp)
  rw [List.append_nil, textNumber_numberText] at read
  rw [stdStoi, read]
  exact if_pos (by omega)

theorem stdStoi_range {text : Text} {value : Int} (read : stdStoi text = .ok value) :
    -2 ^ 31 ≤ value ∧ value < 2 ^ 31 := by
  unfold stdStoi at read
  split at read
  next => exact nomatch read
  next number found =>
    split at read
    next inside =>
      cases read
      exact inside
    next => exact nomatch read

/-- A number with a width, that is filled up on its left. -/
def padded (fill : Char) (width : Nat) (value : Int) : Text :=
  List.replicate (width - (integerText value).length) fill ++ integerText value

theorem padded_natCast (fill : Char) (width value : Nat) :
    padded fill width value = List.replicate (width - (numberText value).length) fill ++ numberText value := rfl

theorem padded_digits (width value : Nat) : Digits (padded '0' width value) := by
  rw [padded_natCast]
  refine ⟨by simp [(numberText_digits value).1], ?_⟩
  intro digit member
  rcases List.mem_append.mp member with zero | written
  · rw [List.eq_of_mem_replicate zero]
    rfl
  · exact (numberText_digits value).2 digit written

/-- The zeros that fill a number up are not counted. -/
theorem textNumber_padded (width value : Nat) : textNumber (padded '0' width value) = value := by
  rw [padded_natCast, textNumber, Nat.ofDigitChars_append, Nat.ofDigitChars_replicate_zero, Nat.mul_zero]
  exact textNumber_numberText value

theorem Utils.stoi_padded {value : Nat} (width : Nat) (small : value < 2 ^ 31) :
    Utils.stoi (padded '0' width value) = value := by
  have read := @Utils.stoi_append (padded '0' width value) [] (padded_digits width value) (by simp)
    (by rwa [textNumber_padded])
  rwa [List.append_nil, textNumber_padded] at read

theorem Utils.stoi_padded_int {value : Int} (width : Nat) (least : 0 ≤ value) (most : value < 2 ^ 31) :
    Utils.stoi (padded '0' width value) = value := by
  obtain ⟨number, rfl⟩ := Int.eq_ofNat_of_zero_le least
  exact Utils.stoi_padded width (by omega)

/-- A number that fits its width fills it. -/
theorem padded_length {value width : Nat} (wide : 0 < width) (fits : value < 10 ^ width) :
    (padded '0' width value).length = width := by
  have short : (numberText value).length ≤ width := (Nat.length_toDigits_le_iff (by omega) wide).mpr fits
  rw [padded_natCast, List.length_append, List.length_replicate]
  omega

/-- `std::string::find`. -/
def findText (wanted : Text) : Text → Option Nat
  | [] => if wanted.isEmpty then some 0 else none
  | char :: rest => if wanted.isPrefixOf (char :: rest) then some 0 else (findText wanted rest).map (· + 1)

/-- `std::string::substr`, up to the end when there is no count. -/
def substr (text : Text) (pos : Nat) (count : Option Nat) : Except StdException Text :=
  if pos ≤ text.length then .ok ((text.drop pos).take (count.getD text.length)) else .error .outOfRange

/-- A position and some more characters. Past no position it is one less, since `npos` wraps around. -/
def past (found : Option Nat) (step : Nat) : Nat := found.elim (step - 1) (· + step)

/-- One character less than a size. Below zero it wraps around, and counts everything. -/
def oneLess (size : Nat) : Option Nat := if size = 0 then none else some (size - 1)

theorem findText_bound {wanted text : Text} {position : Nat} (found : findText wanted text = some position) :
    position + wanted.length ≤ text.length := by
  induction text generalizing position with
  | nil =>
    rw [findText] at found
    split at found
    next empty =>
      cases found
      rw [List.isEmpty_iff.mp empty]
      exact Nat.le_refl 0
    next => exact nomatch found
  | cons char rest following =>
    rw [findText] at found
    split at found
    next here =>
      cases found
      rw [Nat.zero_add]
      exact (List.isPrefixOf_iff_prefix.mp here).length_le
    next =>
      obtain ⟨later, inside, rfl⟩ := Option.map_eq_some_iff.mp found
      have bound := following inside
      rw [List.length_cons]
      omega

/-- A character is found at the end of what does not have it. -/
theorem findText_char {char : Char} {text : Text} {position : Nat} (found : findText [char] text = some position) :
    char ∈ text ∧ text.take position = text.takeWhile (· != char) ∧
      text.drop (position + 1) = (text.dropWhile (· != char)).tail := by
  induction text generalizing position with
  | nil => exact nomatch found
  | cons first rest following =>
    rw [findText] at found
    by_cases same : char = first
    · rw [if_pos (by simp [List.isPrefixOf, same])] at found
      cases found
      simp [same]
    · rw [if_neg (by simp [List.isPrefixOf, same])] at found
      obtain ⟨later, inside, rfl⟩ := Option.map_eq_some_iff.mp found
      obtain ⟨member, before, after⟩ := following inside
      have differ : first ≠ char := Ne.symm same
      refine ⟨List.mem_cons_of_mem first member, ?_, ?_⟩
      · rw [List.take_succ_cons, before, List.takeWhile_cons_of_pos (by simpa using differ)]
      · rw [List.drop_succ_cons, after, List.dropWhile_cons_of_pos (by simpa using differ)]

theorem findText_char_none {char : Char} {text : Text} (missing : findText [char] text = none) : char ∉ text := by
  induction text with
  | nil => exact List.not_mem_nil
  | cons first rest following =>
    rw [findText] at missing
    split at missing
    next => exact nomatch missing
    next other =>
      rw [List.mem_cons, not_or]
      exact ⟨fun same => other (by simp [List.isPrefixOf, same]), following (Option.map_eq_none_iff.mp missing)⟩

theorem substr_ok {text : Text} {position : Nat} (inside : position ≤ text.length) (count : Option Nat) :
    substr text position count = .ok ((text.drop position).take (count.getD text.length)) := if_pos inside

/-- What follows the first separator, or the whole text when there is none. -/
def afterSeparator (separator : Char) (text : Text) : Text :=
  if separator ∈ text then (text.dropWhile (· != separator)).tail else text

/-- From past the separator to the end. -/
theorem drop_past (separator : Char) (text : Text) :
    past (findText [separator] text) 1 ≤ text.length ∧
      text.drop (past (findText [separator] text) 1) = afterSeparator separator text := by
  cases found : findText [separator] text with
  | none => exact ⟨Nat.zero_le _, (if_neg (findText_char_none found)).symm⟩
  | some position =>
    obtain ⟨member, -, after⟩ := findText_char found
    exact ⟨findText_bound found, after.trans (if_pos member).symm⟩

/-- Up to the separator, or to the end. -/
theorem take_before (separator : Char) (text : Text) :
    text.take ((findText [separator] text).getD text.length) = text.takeWhile (· != separator) := by
  cases found : findText [separator] text with
  | none =>
    rw [Option.getD_none, List.take_length, eq_comm, List.takeWhile_eq_self_iff]
    intro char member
    simpa using fun same : char = separator => findText_char_none found (same ▸ member)
  | some position => exact (findText_char found).2.1

end Liblinphone
