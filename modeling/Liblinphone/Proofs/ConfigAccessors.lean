import Liblinphone.ConfigNumbers
import Liblinphone.Proofs.ConfigValues

/-! What the setters of numbers, flags, ranges and lists write is what the getters of
their kind read, from any store. -/

namespace Liblinphone

open Library

section Numbers

theorem isHexDigit_digitChar : ∀ digit < 16, isHexDigit (Nat.digitChar digit) = true ∧
    digitValue (Nat.digitChar digit) = digit := by decide

/-- The digits of a number in base sixteen are read as the number. -/
theorem toDigits_hex (value : Nat) : (∀ digit ∈ Nat.toDigits 16 value, isHexDigit digit = true) ∧
    baseNumber 16 (Nat.toDigits 16 value) = value := by
  induction value using Nat.strongRecOn with
  | _ value ih =>
    rw [Nat.toDigits_eq_if (by omega)]
    split
    next small =>
      obtain ⟨digit, number⟩ := isHexDigit_digitChar value small
      exact ⟨by simpa using digit, by simpa [baseNumber] using number⟩
    next large =>
      obtain ⟨digits, number⟩ := ih (value / 16) (by omega)
      obtain ⟨digit, last⟩ := isHexDigit_digitChar (value % 16) (Nat.mod_lt _ (by omega))
      constructor
      · intro char member
        rcases List.mem_append.mp member with before | single
        · exact digits char before
        · rw [List.mem_singleton.mp single]
          exact digit
      · unfold baseNumber at number ⊢
        rw [List.foldl_append, number, List.foldl_cons, List.foldl_nil, last]
        omega

/-- The unsigned number is read into a signed variable. -/
theorem scanHex_toDigits (value : BitVec 32) : scanHex ("0x".toList ++ Nat.toDigits 16 value.toNat) = value.toInt := by
  obtain ⟨digits, number⟩ := toDigits_hex value.toNat
  have small := value.isLt
  have cut : ("0x".toList ++ Nat.toDigits 16 value.toNat).drop 2 = Nat.toDigits 16 value.toNat := rfl
  rw [scanHex, cut, takeWhile_whole digits, number, Utils.toInt, BitVec.toInt_eq_toNat_bmod]
  congr 1
  omega

theorem strtol_integerText (value : Int) : Utils.strtol (integerText value) = some value := by
  cases value with
  | ofNat value =>
    have read := @Utils.strtol_append (numberText value) [] (numberText_digits value) (by simp)
    rw [List.append_nil, textNumber_numberText] at read
    exact read
  | negSucc value =>
    obtain ⟨filled, digits⟩ := numberText_digits (value + 1)
    have signed : ('-' :: numberText (value + 1)).dropWhile isSpace = '-' :: numberText (value + 1) :=
      List.dropWhile_cons_of_neg (by decide)
    simp only [integerText, Utils.strtol, signed, List.head?_cons, true_or, if_true, List.tail_cons,
      takeWhile_whole digits, List.isEmpty_iff, filled, if_false, textNumber_numberText]
    rfl

theorem atoll_integerText (value : BitVec 64) : atoll (integerText value.toInt) = value.toInt := by
  rw [atoll, strtol_integerText, Option.getD_some]
  exact Utils.saturate_of_small value.le_toInt value.toInt_lt

/-- A number ends where its digits do. -/
theorem atoi_append {value : Nat} {rest : Text} (ends : ∀ char ∈ rest.head?, char.isDigit = false) (small : value < 2 ^ 31) :
    atoi (numberText value ++ rest) = value := by
  rw [atoi, atoll, Utils.strtol_append (numberText_digits value) ends, Option.getD_some, textNumber_numberText,
    Utils.saturate_of_small (by omega) (by omega), Utils.toInt_of_small (by omega) (by omega)]

end Numbers

namespace LpConfig

variable {config : LpConfig} {sec key value : Text}

theorem value?_set (config : LpConfig) (sec key : Text) (filled : value ≠ []) :
    (config.setString sec key value).value? sec key = some value := by
  rw [value?_setString fun empty => absurd empty filled, if_pos ⟨rfl, rfl⟩, if_neg filled]

theorem getInt_setInt (config : LpConfig) (sec key : Text) (value defaultValue : BitVec 32) :
    (config.setInt sec key value.toInt).getInt sec key defaultValue.toInt = value.toInt := by
  rw [setInt, getInt, value?_set config sec key (integerText_ne_nil _), Option.elim_some, integerText_decimal]
  exact scanInt_integerText value.le_toInt value.toInt_lt

theorem getInt_setIntHex (config : LpConfig) (sec key : Text) (value defaultValue : BitVec 32) :
    (config.setIntHex sec key value).getInt sec key defaultValue.toInt = value.toInt := by
  have marked : "0x".toList.isPrefixOf ("0x".toList ++ Nat.toDigits 16 value.toNat) = true :=
    List.isPrefixOf_iff_prefix.mpr (List.prefix_append _ _)
  rw [setIntHex, getInt, value?_set config sec key (by simp), Option.elim_some, marked]
  exact scanHex_toDigits value

theorem getInt64_setInt64 (config : LpConfig) (sec key : Text) (value defaultValue : BitVec 64) :
    (config.setInt64 sec key value.toInt).getInt64 sec key defaultValue.toInt = value.toInt := by
  rw [setInt64, getInt64, value?_set config sec key (integerText_ne_nil _), Option.elim_some, atoll_integerText]

theorem getBool_setBool (config : LpConfig) (sec key : Text) (value defaultValue : Bool) :
    (config.setBool sec key value).getBool sec key defaultValue = value := by
  rw [setBool, setInt, getBool, value?_set config sec key (integerText_ne_nil _), Option.elim_some,
    scanInt_integerText (by split <;> omega) (by split <;> omega)]
  cases value with
  | true => rfl
  | false => rfl

theorem getRange_setRange (config : LpConfig) (sec key : Text) {minValue maxValue : Int} (least : 0 ≤ minValue)
    (ordered : minValue ≤ maxValue) (most : maxValue < 2 ^ 31) (defaultMin defaultMax : Int) :
    (config.setRange sec key minValue maxValue).getRange sec key defaultMin defaultMax = (true, minValue, maxValue) := by
  obtain ⟨low, rfl⟩ := Int.eq_ofNat_of_zero_le least
  obtain ⟨high, rfl⟩ := Int.eq_ofNat_of_zero_le (least.trans ordered)
  obtain ⟨filled, digits⟩ := numberText_digits low
  have written : integerText low ++ '-' :: integerText high = numberText low ++ '-' :: numberText high := rfl
  have first : (numberText low ++ '-' :: numberText high).head? ≠ some '-' := by
    rw [List.head?_append_of_ne_nil _ filled]
    exact head?_numberText_sign low (by decide)
  have after : ((numberText low ++ '-' :: numberText high).dropWhile (· != '-')).drop 1 = numberText high := by
    rw [dropWhile_stop _ (by simp)]
    · rfl
    · intro digit member
      have other : digit ≠ '-' := by
        rintro rfl
        exact (numberText_digits low).not_mem (by decide) member
      simpa using other
  have lower : atoi (numberText low ++ '-' :: numberText high) = low := atoi_append (by simp) (by omega)
  have upper : atoi (numberText high) = high := by
    have read := @atoi_append high [] (by simp) (by omega)
    rwa [List.append_nil] at read
  rw [setRange, getRange, value?_set config sec key (by simp), written]
  dsimp only
  rw [if_neg, lower, after, upper]
  rw [not_or]
  exact ⟨by simp, first⟩

theorem intercalate_filled {values : List Text} (present : values ≠ [])
    (parts : ∀ value ∈ values, value ≠ [] ∧ ',' ∉ value) : [','].intercalate values ≠ [] := by
  intro empty
  have split := List.splitOn_intercalate ',' (fun value member => (parts value member).2) present
  obtain ⟨first, rest, rfl⟩ := List.exists_cons_of_ne_nil present
  rw [empty] at split
  exact (parts first List.mem_cons_self).1 (List.cons.inj split).1.symm

theorem getStringList_setStringList (config : LpConfig) (sec key : Text) {values : List Text} (present : values ≠ [])
    (parts : ∀ value ∈ values, value ≠ [] ∧ ',' ∉ value) :
    (config.setStringList sec key values).getStringList sec key = some values := by
  have split := List.splitOn_intercalate ',' (fun value member => (parts value member).2) present
  rw [setStringList, getStringList, value?_set config sec key (intercalate_filled present parts), Option.map_some,
    split]

end LpConfig

namespace TypedValue

variable {config : LpConfig} {sec key : Text} {value : TypedValue}

/-- The text that is written for a value. -/
theorem set_eq (config : LpConfig) (sec key : Text) (valid : value.Valid) :
    ∃ text, text ≠ [] ∧ value.set config sec key = config.setString sec key text := by
  cases value with
  | int number => exact ⟨_, integerText_ne_nil _, rfl⟩
  | intHex number => exact ⟨_, by simp, rfl⟩
  | int64 number => exact ⟨_, integerText_ne_nil _, rfl⟩
  | bool flag => exact ⟨_, integerText_ne_nil _, rfl⟩
  | range low high => exact ⟨_, by simp, rfl⟩
  | stringList values => exact ⟨_, LpConfig.intercalate_filled valid.1 valid.2, rfl⟩

theorem readFrom_set (config : LpConfig) (sec key : Text) (valid : value.Valid) :
    value.ReadFrom (value.set config sec key) sec key := by
  cases value with
  | int number => exact LpConfig.getInt_setInt config sec key number
  | intHex number => exact LpConfig.getInt_setIntHex config sec key number
  | int64 number => exact LpConfig.getInt64_setInt64 config sec key number
  | bool flag => exact LpConfig.getBool_setBool config sec key flag
  | range low high =>
    intro defaultMin defaultMax
    exact LpConfig.getRange_setRange config sec key valid.1 valid.2 high.toInt_lt _ _
  | stringList values =>
    intro defaultList
    rw [set, LpConfig.getStringList_setStringList config sec key valid.1 valid.2, Option.getD_some]

/-- A value is read as it was set, and all others as they were. -/
theorem accessors_round_trip (config : LpConfig) (sec key : Text) (valid : value.Valid) :
    value.ReadFrom (value.set config sec key) sec key ∧
      ∀ other wanted, ¬(other = sec ∧ wanted = key) →
        (value.set config sec key).value? other wanted = config.value? other wanted := by
  refine ⟨readFrom_set config sec key valid, ?_⟩
  intro other wanted different
  obtain ⟨text, filled, written⟩ := set_eq config sec key valid
  rw [written, LpConfig.value?_setString fun empty => absurd empty filled, if_neg different]

theorem ports_round_trip :
    (range 7078 9078).ReadFrom ((range 7078 9078).set {} "sip".toList "port".toList) "sip".toList "port".toList :=
  (@accessors_round_trip (range 7078 9078) {} "sip".toList "port".toList ⟨by decide, by decide⟩).1

end TypedValue

end Liblinphone
