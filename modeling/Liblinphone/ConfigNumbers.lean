import Liblinphone.Utils

/-! Hexadecimal numbers, long numbers and ranges in the configuration store, and the
kinds of values that have a setter and a getter of their own. -/

namespace Liblinphone

/-- `atoll`. -/
def atoll (text : Text) : Int := Utils.saturate ((Utils.strtol text).getD 0)

/-- `atoi`. -/
def atoi (text : Text) : Int := Utils.toInt (atoll text)

namespace LpConfig

def getInt64 (config : LpConfig) (sec key : Text) (defaultValue : Int) : Int :=
  (config.value? sec key).elim defaultValue atoll

/-- Whether the range was read, with its ends. -/
def getRange (config : LpConfig) (sec key : Text) (defaultMin defaultMax : Int) : Bool × Int × Int :=
  match config.value? sec key with
  | none => (true, defaultMin, defaultMax)
  | some text =>
    if text.contains '-' = false ∨ text.head? = some '-' then (false, defaultMin, defaultMax)
    else (true, atoi text, atoi ((text.dropWhile (· != '-')).drop 1))

def setRange (config : LpConfig) (sec key : Text) (minValue maxValue : Int) : LpConfig :=
  config.setString sec key (integerText minValue ++ '-' :: integerText maxValue)

/-- A negative number is written as the unsigned one that has its bits. -/
def setIntHex (config : LpConfig) (sec key : Text) (value : BitVec 32) : LpConfig :=
  config.setString sec key ("0x".toList ++ Nat.toDigits 16 value.toNat)

def setInt64 (config : LpConfig) (sec key : Text) (value : Int) : LpConfig :=
  config.setString sec key (integerText value)

end LpConfig

/-- A value, with the setter that writes it. -/
inductive TypedValue where
  | int (value : BitVec 32)
  | intHex (value : BitVec 32)
  | int64 (value : BitVec 64)
  | bool (value : Bool)
  | range (minValue maxValue : BitVec 32)
  | stringList (values : List Text)
deriving Repr, DecidableEq

namespace TypedValue

def set (config : LpConfig) (sec key : Text) : TypedValue → LpConfig
  | int value => config.setInt sec key value.toInt
  | intHex value => config.setIntHex sec key value
  | int64 value => config.setInt64 sec key value.toInt
  | bool value => config.setBool sec key value
  | range minValue maxValue => config.setRange sec key minValue.toInt maxValue.toInt
  | stringList values => config.setStringList sec key values

/-- The getter of its kind gives the value, whatever the default is. -/
def ReadFrom (config : LpConfig) (sec key : Text) : TypedValue → Prop
  | int value => ∀ defaultValue : BitVec 32, config.getInt sec key defaultValue.toInt = value.toInt
  | intHex value => ∀ defaultValue : BitVec 32, config.getInt sec key defaultValue.toInt = value.toInt
  | int64 value => ∀ defaultValue : BitVec 64, config.getInt64 sec key defaultValue.toInt = value.toInt
  | bool value => ∀ defaultValue, config.getBool sec key defaultValue = value
  | range minValue maxValue => ∀ defaultMin defaultMax : BitVec 32,
    config.getRange sec key defaultMin.toInt defaultMax.toInt = (true, minValue.toInt, maxValue.toInt)
  | stringList values => ∀ defaultList, (config.getStringList sec key).getD defaultList = values

/-- A range does not begin below zero, and the parts of a list can be told apart. -/
def Valid : TypedValue → Prop
  | range minValue maxValue => 0 ≤ minValue.toInt ∧ minValue.toInt ≤ maxValue.toInt
  | stringList values => values ≠ [] ∧ ∀ value ∈ values, value ≠ [] ∧ ',' ∉ value
  | _ => True

end TypedValue

end Liblinphone
