import Liblinphone.Address
import Liblinphone.Library.Keyed
import Liblinphone.Text

/-! Addresses as texts. The parameters of the URI are written in the order of their names, and
the port is left out. -/

namespace Liblinphone

open Library

/-- `std::transform` with `tolower`. -/
def lowercase (text : Text) : Text := text.map Char.toLower

theorem lowercase_lowercase (text : Text) : lowercase (lowercase text) = lowercase text := by
  rw [lowercase, lowercase, List.map_map]
  exact List.map_congr_left fun char _ => toLower_toLower char

/-- No other character becomes one that is not a small letter. -/
theorem mem_lowercase_iff {char : Char} (other : char.val.toNat < 97 ∨ 122 < char.val.toNat) (same : char.toLower = char)
    (text : Text) : char ∈ lowercase text ↔ char ∈ text := by
  unfold lowercase
  rw [List.mem_map]
  constructor
  · rintro ⟨before, member, lower⟩
    exact eq_of_toLower_eq lower other ▸ member
  · exact fun member => ⟨char, member, same⟩

namespace Address

/-- The parameters in the order of their names. The last of a name is the one that is kept. -/
def getUriParams (address : Address) : List (Text × Text) :=
  address.uriParams.foldl
    (fun params (name, value) =>
      updateFirst (fun entry => entry.1 = name.toList) (fun _ => (name.toList, value.toList))
        (insertKey name.toList value.toList params)) []

/-- The escape of a username is that of the SIP stack. -/
def toStringUriOnlyOrdered (escapedUsername : Text → Text) (address : Address) : Text :=
  let username := (address.username.getD "").toList
  let domain := address.domain.toList
  address.scheme.toList ++ [':'] ++ (if username.isEmpty then [] else escapedUsername username ++ ['@']) ++
    (if ':' ∈ domain then '[' :: domain ++ [']'] else domain) ++
    address.getUriParams.flatMap fun (name, value) => ';' :: name ++ if value.isEmpty then [] else '=' :: value

/-- `operator<`. -/
def isLess (escapedUsername : Text → Text) (address other : Address) : Bool :=
  address.toStringUriOnlyOrdered escapedUsername < other.toStringUriOnlyOrdered escapedUsername

/-- What the username contributes. -/
def userText (escapedUsername : Text → Text) (address : Address) : Text :=
  if (address.username.getD "").toList.isEmpty then [] else escapedUsername (address.username.getD "").toList ++ ['@']

def hostText (address : Address) : Text :=
  if ':' ∈ address.domain.toList then '[' :: address.domain.toList ++ [']'] else address.domain.toList

def paramText (lowercaseParams : Bool) (param : Text × Text) : Text :=
  ';' :: (if lowercaseParams then lowercase param.1 else param.1) ++
    if param.2.isEmpty then [] else '=' :: if lowercaseParams then lowercase param.2 else param.2

/-- The parameters are put in order before they are changed to lower case. -/
def orderedParams (lowercaseParams : Bool) (address : Address) : Text :=
  address.getUriParams.flatMap (paramText lowercaseParams)

/-- The same text, with the parameters in lower case or as they are. -/
def toStringUriOnlyOrderedCase (escapedUsername : Text → Text) (lowercaseParams : Bool) (address : Address) : Text :=
  address.scheme.toList ++ ':' :: (address.userText escapedUsername ++
    (address.hostText ++ address.orderedParams lowercaseParams))

theorem toStringUriOnlyOrderedCase_false (escapedUsername : Text → Text) (address : Address) :
    address.toStringUriOnlyOrderedCase escapedUsername false = address.toStringUriOnlyOrdered escapedUsername := by
  have plain : paramText false = fun param => ';' :: param.1 ++ if param.2.isEmpty then [] else '=' :: param.2 := rfl
  simp [toStringUriOnlyOrderedCase, toStringUriOnlyOrdered, userText, hostText, orderedParams, plain]

end Address

end Liblinphone
