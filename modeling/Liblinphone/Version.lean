import Std.Data.ExtTreeMap.Basic
import Liblinphone.ConfigNumbers
import Liblinphone.Library.Expression

/-! Versions: their text, which is read with the expression of semantic versions or number by
number, their order, and the versions in a descriptor of capabilities. -/

namespace Liblinphone.Utils

open Library

namespace Semver

open Expression

def digits : Text := "0123456789".toList

def letters : Text := "abcdefghijklmnopqrstuvwxyzABCDEFGHIJKLMNOPQRSTUVWXYZ-".toList

/-- `0|[1-9]\d*` -/
def number : RegularExpression Char := .char '0' + oneOf "123456789".toList * (oneOf digits).star

/-- `\d*[a-zA-Z-][0-9a-zA-Z-]*` -/
def word : RegularExpression Char := (oneOf digits).star * (oneOf letters * (oneOf (digits ++ letters)).star)

def preRelease : RegularExpression Char := separated '.' (number + word)

/-- `[0-9a-zA-Z-]+`, more than once. -/
def buildMetaData : RegularExpression Char :=
  separated '.' (oneOf (digits ++ letters) * (oneOf (digits ++ letters)).star)

/-- `SEMVER`. -/
def expression : RegularExpression Char :=
  number * (.char '.' * (number * (.char '.' * (number * (optional '-' preRelease * optional '+' buildMetaData)))))

structure Groups where
  major : Text
  minor : Text
  patch : Text
  preRelease : Text := []
  buildMetaData : Text := []
deriving Repr, DecidableEq

/-- Where the groups of a text are that is matched. A group ends at a character that is in none. -/
def groups (text : Text) : Groups :=
  let front := text.takeWhile (· != '+')
  let core := front.takeWhile (· != '-')
  let others := (core.dropWhile (· != '.')).drop 1
  { major := core.takeWhile (· != '.')
    minor := others.takeWhile (· != '.')
    patch := (others.dropWhile (· != '.')).drop 1
    preRelease := (front.dropWhile (· != '-')).drop 1
    buildMetaData := (text.dropWhile (· != '+')).drop 1 }

/-- `std::regex_search`. -/
def search (text : Text) : Option Groups := if expression.rmatch text then some (groups text) else none

end Semver

structure Version where
  major : Int := 0
  minor : Int := 0
  patch : Int := 0
  preRelease : Text := []
  buildMetaData : Text := []
deriving Repr, DecidableEq

/-- `std::string::compare`. -/
def compareText (first second : Text) : Int :=
  match Ord.compare first second with
  | .lt => -1
  | .eq => 0
  | .gt => 1

namespace Version

/-- A text that is not matched is read up to its end as a C string. When it has no dot, the pointer
that is read next is past a null pointer, and there is no version. -/
def ofText (version : Text) : Option Version :=
  match Semver.search version with
  | some found =>
    some { major := atoi found.major, minor := atoi found.minor, patch := atoi found.patch,
           preRelease := found.preRelease, buildMetaData := found.buildMetaData }
  | none =>
    let ptr := version.takeWhile (· != '\x00')
    if '.' ∈ ptr then
      let next := (ptr.dropWhile (· != '.')).drop 1
      some { major := atoi ptr, minor := atoi next, patch := if '.' ∈ next then atoi ((next.dropWhile (· != '.')).drop 1) else 0 }
    else none

variable (version : Version)

/-- Differences are kept in 32 bits. -/
def compare (other : Version) : Int :=
  let tmp := toInt (version.major - other.major)
  let tmp := if tmp = 0 then toInt (version.minor - other.minor) else tmp
  let tmp := if tmp = 0 then toInt (version.patch - other.patch) else tmp
  let tmp := if tmp = 0 ∧ version.preRelease.isEmpty ∧ ¬other.preRelease.isEmpty then 1 else tmp
  let tmp := if tmp = 0 ∧ ¬version.preRelease.isEmpty ∧ other.preRelease.isEmpty then -1 else tmp
  let tmp := if tmp = 0 then compareText version.preRelease other.preRelease else tmp
  if tmp = 0 then compareText version.buildMetaData other.buildMetaData else tmp

def suffix (mark : Char) (text : Text) : Text := if text.isEmpty then [] else mark :: text

def toString : Text :=
  integerText version.major ++ '.' :: (integerText version.minor ++ ((if version.patch ≠ 0 then '.' :: integerText version.patch else []) ++
    (suffix '-' version.preRelease ++ suffix '+' version.buildMetaData)))

end Version

/-- The parts that `std::getline` reads one after another. No part follows a delimiter at the end. -/
def getlines (delim : Char) (text : Text) : List Text :=
  let parts := text.splitOn delim
  if parts.getLast? = some [] then parts.dropLast else parts

def readCapability (cap : Text) : Option (Text × Version) :=
  match getlines '/' cap with
  | cap :: version :: _ => (Version.ofText version).map fun version => (cap, version)
  | [cap] => some (cap, { major := 1 })
  | [] => some ([], { major := 1 })

def parseCapabilityDescriptor (descriptor : Text) : Option (Std.ExtTreeMap Text Version) :=
  (getlines ',' descriptor).foldlM (fun result cap => (readCapability cap).map fun entry => result.insert entry.1 entry.2) ∅

end Liblinphone.Utils
