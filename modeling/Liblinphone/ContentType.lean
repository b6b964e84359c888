import Liblinphone.AddressText
import Liblinphone.LpConfig

/-! The type of a content, as it stands in a header: a type and a subtype with parameters. -/

namespace Liblinphone

structure HeaderParam where
  name : Text := []
  value : Text := []
deriving Repr, DecidableEq

namespace HeaderParam

/-- The name ends at the first `=`. -/
def ofText (param : Text) : HeaderParam where
  name := param.takeWhile (· != '=')
  value := (param.dropWhile (· != '=')).drop 1

def asString (param : HeaderParam) : Text := ';' :: (param.name ++ if param.value.isEmpty then [] else '=' :: param.value)

end HeaderParam

namespace Header

def findParameter (parameters : List HeaderParam) (name : Text) : Option HeaderParam :=
  parameters.find? fun param => param.name = name

/-- All that are equal to the first one of the name are removed. -/
def removeParameter (parameters : List HeaderParam) (name : Text) : List HeaderParam :=
  match findParameter parameters name with
  | some found => parameters.filter fun param => param ≠ found
  | none => parameters

def addParameter (parameters : List HeaderParam) (param : HeaderParam) : List HeaderParam :=
  removeParameter parameters param.name ++ [param]

/-- Each parameter is added as a new one with its name and its value. -/
def addParameters (parameters params : List HeaderParam) : List HeaderParam :=
  params.foldl (fun parameters param => addParameter parameters { name := param.name, value := param.value }) parameters

/-- The loop over the parameters of a text. Each turn but the last takes a separator off. -/
def readParameters (parameters : List HeaderParam) (params : Text) : List HeaderParam :=
  match found : params.findIdx? (· == ';') with
  | none => addParameter parameters (HeaderParam.ofText params)
  | some posParam => readParameters (addParameter parameters (HeaderParam.ofText (params.take posParam))) (params.drop (posParam + 1))
termination_by params.length
decreasing_by
  obtain ⟨inside, -⟩ := List.findIdx?_eq_some_iff_getElem.mp found
  rw [List.length_drop]
  omega

end Header

structure ContentType where
  type : Text := []
  subType : Text := []
  value : Text := []
  parameters : List HeaderParam := []
deriving Repr, DecidableEq

namespace ContentType

open Header

variable (contentType : ContentType)

/-- A type with a slash is refused. -/
def setType (type : Text) : ContentType × Bool :=
  if '/' ∉ type then
    ({ contentType with type := lowercase type, value := lowercase type ++ '/' :: contentType.subType }, true)
  else (contentType, false)

def setSubType (subType : Text) : ContentType × Bool :=
  if '/' ∉ subType then
    ({ contentType with subType := lowercase subType, value := contentType.type ++ '/' :: lowercase subType }, true)
  else (contentType, false)

/-- A type without its subtype is cleared. -/
def ofTypes (type subType : Text) : ContentType :=
  let typed := ({ } : ContentType).setType type
  if typed.2 then
    let subTyped := typed.1.setSubType subType
    if subTyped.2 then subTyped.1 else { subTyped.1 with type := [] }
  else typed.1

/-- What stands after a slash and before a place. When the place comes first, the length is below
zero and wraps around, so that nothing is cut off. -/
def between (contentType : Text) (pos last : Nat) : Text :=
  if pos + 1 ≤ last then (contentType.drop (pos + 1)).take (last - (pos + 1)) else contentType.drop (pos + 1)

/-- The slash and the first parameter are looked for independently. -/
def ofText (contentType : Text) : ContentType :=
  match contentType.findIdx? (· == '/') with
  | none => { }
  | some pos =>
    let posParam := contentType.findIdx? (· == ';')
    let typed := ofTypes (trimText (contentType.take pos)) (trimText (between contentType pos (posParam.getD contentType.length)))
    match posParam with
    | none => typed
    | some posParam => { typed with parameters := readParameters typed.parameters (contentType.drop (posParam + 1)) }

def copy (other : ContentType) : ContentType :=
  let typed := ofTypes other.type other.subType
  { typed with parameters := addParameters typed.parameters other.parameters }

def assign (contentType other : ContentType) : ContentType :=
  let typed := ((contentType.setType other.type).1.setSubType other.subType).1
  { typed with parameters := addParameters [] other.parameters }

def isValid : Bool := !contentType.type.isEmpty && !contentType.subType.isEmpty

def getMediaType : Text := contentType.value ++ contentType.parameters.flatMap HeaderParam.asString

/-- The types and the parameters are the same, in any order. -/
def strongEqual (other : ContentType) : Bool :=
  contentType.type == other.type && contentType.subType == other.subType &&
    contentType.parameters.length == other.parameters.length &&
    contentType.parameters.all fun param =>
      (findParameter other.parameters param.name).any fun found => found.value == param.value

end ContentType

end Liblinphone
