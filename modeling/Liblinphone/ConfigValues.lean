import Liblinphone.LpConfig
import Mathlib.Algebra.Order.Ring.Int

/-! Numbers, flags and lists in the configuration store. They are texts there. A key
that has no value is read as the default of the reader. -/

namespace Liblinphone

def digitValue (digit : Char) : Nat :=
  if digit.isDigit then digit.toNat - '0'.toNat
  else if 'a' ≤ digit ∧ digit ≤ 'f' then digit.toNat - 'a'.toNat + 10
  else digit.toNat - 'A'.toNat + 10

def isHexDigit (digit : Char) : Bool := digit.isDigit || ('a' ≤ digit && digit ≤ 'f') || ('A' ≤ digit && digit ≤ 'F')

def isOctalDigit (digit : Char) : Bool := '0' ≤ digit && digit ≤ '7'

def baseNumber (base : Nat) (digits : Text) : Nat := digits.foldl (fun value digit => base * value + digitValue digit) 0

/-- The number that `%i` reads, whose base depends on how it begins. -/
def scanMagnitude (text : Text) : Nat :=
  if "0x".toList.isPrefixOf text || "0X".toList.isPrefixOf text then baseNumber 16 ((text.drop 2).takeWhile isHexDigit)
  else if "0".toList.isPrefixOf text then baseNumber 8 (text.takeWhile isOctalDigit)
  else baseNumber 10 (text.takeWhile Char.isDigit)

/-- `sscanf` with `%i`. What is not a number leaves the zero that was there. -/
def scanInteger (text : Text) : Int :=
  let text := text.dropWhile isSpace
  if text.head? = some '-' then -(scanMagnitude text.tail : Int)
  else if text.head? = some '+' then scanMagnitude text.tail
  else scanMagnitude text

namespace Utils

/-- A value that is kept in 32 bits. -/
def toInt (value : Int) : Int := value.bmod (2 ^ 32)

theorem toInt_of_small {value : Int} (least : -2 ^ 31 ≤ value) (most : value < 2 ^ 31) : toInt value = value := by
  unfold toInt
  apply Int.bmod_eq_of_le <;> omega

/-- A number that 64 bits cannot hold is read as the nearest one that they can. -/
def saturate (value : Int) : Int := max (-2 ^ 63) (min (2 ^ 63 - 1) value)

theorem saturate_of_small {value : Int} (least : -2 ^ 63 ≤ value) (most : value < 2 ^ 63) : saturate value = value := by
  unfold saturate
  omega

end Utils

/-- `sscanf` with `%i`, into a variable of 32 bits. -/
def scanInt (text : Text) : Int := Utils.toInt (Utils.saturate (scanInteger text))

/-- `sscanf` with `%x`, of a text that begins with `0x`. -/
def scanHex (text : Text) : Int :=
  Utils.toInt (min (2 ^ 64 - 1) (baseNumber 16 ((text.drop 2).takeWhile isHexDigit)))

/-- `snprintf` with `%i`. -/
def integerText : Int → Text
  | .ofNat value => numberText value
  | .negSucc value => '-' :: numberText (value + 1)

/-- What is written under a key, if anything is. -/
abbrev ConfigEntry := Text × Option Text

namespace LpConfig

def writeEntry (sec : Text) (config : LpConfig) (entry : ConfigEntry) : LpConfig :=
  entry.2.elim config (config.setString sec entry.1)

/-- The value of a key, when it has one. -/
def value? (config : LpConfig) (sec key : Text) : Option Text :=
  ((config.findSection sec).bind (·.findItem key)).map LpItem.value

def getInt (config : LpConfig) (sec key : Text) (defaultValue : Int) : Int :=
  (config.value? sec key).elim defaultValue fun text =>
    if "0x".toList.isPrefixOf text then scanHex text else scanInt text

def getBool (config : LpConfig) (sec key : Text) (defaultValue : Bool) : Bool :=
  (config.value? sec key).elim defaultValue fun text => decide (scanInt text ≠ 0)

def getStringList (config : LpConfig) (sec key : Text) : Option (List Text) :=
  (config.value? sec key).map (·.splitOn ',')

def setInt (config : LpConfig) (sec key : Text) (value : Int) : LpConfig := config.setString sec key (integerText value)

def setBool (config : LpConfig) (sec key : Text) (value : Bool) : LpConfig :=
  config.setInt sec key (if value then 1 else 0)

/-- An empty list removes the entry. -/
def setStringList (config : LpConfig) (sec key : Text) (value : List Text) : LpConfig :=
  config.setString sec key ([','].intercalate value)

def getKeysNamesList (config : LpConfig) (sec : Text) : List Text :=
  (config.findSection sec).elim [] fun found => found.items.filterMap LpItem.key

theorem getString_eq (config : LpConfig) (sec key defaultString : Text) :
    config.getString sec key defaultString = (config.value? sec key).getD defaultString := by
  unfold getString value?
  cases (config.findSection sec).bind (·.findItem key) with
  | none => rfl
  | some item => rfl

end LpConfig

end Liblinphone
