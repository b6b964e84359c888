import Liblinphone.ConfigValues
import Liblinphone.Library.Expression

/-! The rules of the grammar of CPIM messages that its headers are made of. A character that
is not an ASCII one stands for the bytes of its encoding. -/

namespace Liblinphone.Cpim

open Library

namespace Rule

open Expression

def alpha : RegularExpression Char := oneOf "abcdefghijklmnopqrstuvwxyzABCDEFGHIJKLMNOPQRSTUVWXYZ".toList

def digit : RegularExpression Char := oneOf "0123456789".toList

def hexdig : RegularExpression Char := oneOf "0123456789ABCDEFabcdef".toList

def alphanum : RegularExpression Char := alpha + digit

def unreserved : RegularExpression Char := alphanum + oneOf "-_.!~*'()".toList

def escaped : RegularExpression Char := .char '%' * (hexdig * hexdig)

def uric : RegularExpression Char := oneOf ";/?:@&=+$,[]".toList + unreserved + escaped

def pchar : RegularExpression Char := unreserved + escaped + oneOf ":@&=+$,".toList

def segment : RegularExpression Char := pchar.star * (.char ';' * pchar.star).star

def absPath : RegularExpression Char := .char '/' * separated '/' segment

def uricNoSlash : RegularExpression Char := unreserved + escaped + oneOf ";?:@&=+$,".toList

def opaquePart : RegularExpression Char := uricNoSlash * uric.star

def regNameChar : RegularExpression Char := unreserved + escaped + oneOf "$,;:@&=+".toList

def regName : RegularExpression Char := regNameChar * regNameChar.star

def userinfo : RegularExpression Char := (unreserved + escaped + oneOf ";:&=+$,".toList).star

def hex4 : RegularExpression Char := hexdig * atMost 3 hexdig

def hexseq : RegularExpression Char := separated ':' hex4

def hexpart : RegularExpression Char :=
  hexseq + hexseq * (.char ':' * (.char ':' * (1 + hexseq))) + .char ':' * (.char ':' * (1 + hexseq))

def decimals : RegularExpression Char := digit * atMost 2 digit

def ipv4address : RegularExpression Char :=
  decimals * (.char '.' * (decimals * (.char '.' * (decimals * (.char '.' * decimals)))))

def ipv6address : RegularExpression Char := hexpart * optional ':' ipv4address

def labelRest : RegularExpression Char := (alphanum + .char '-').star * alphanum

def hostname : RegularExpression Char :=
  ((alphanum + alphanum * labelRest) * .char '.').star * ((alpha + alpha * labelRest) * (1 + .char '.'))

def hostport : RegularExpression Char := (hostname + ipv4address + ipv6address) * optional ':' digit.star

def server : RegularExpression Char := 1 + (1 + userinfo * .char '@') * hostport

def netPath : RegularExpression Char := .char '/' * (.char '/' * ((server + regName) * (1 + absPath)))

def hierPart : RegularExpression Char := (netPath + absPath) * optional '?' uric.star

def scheme : RegularExpression Char := alpha * (alpha + digit + oneOf "+-.".toList).star

def uri : RegularExpression Char := scheme * (.char ':' * (hierPart + opaquePart))

end Rule

/-- `UCS-high`. -/
def isUcsHigh (char : Char) : Bool := decide (0x80 ≤ char.val)

/-- `HEADERCHAR`. An escape is made of such characters. -/
def isHeaderChar (char : Char) : Bool := decide (0x20 ≤ char.val ∧ char.val ≤ 0x7e) || isUcsHigh char

def isNameChar (char : Char) : Bool := char.isAlphanum || "!#$%&'*+-^_`|~".toList.contains char

def isTokenChar (char : Char) : Bool := isNameChar char || char == '.' || isUcsHigh char

def isStrChar (char : Char) : Bool := isHeaderChar char && char != '"' && char != '\\'

def isHeaderValue (text : Text) : Bool := text.all isHeaderChar

def isName (text : Text) : Bool := !text.isEmpty && text.all isNameChar

def isToken (text : Text) : Bool := !text.isEmpty && text.all isTokenChar

def isHeaderName (text : Text) : Bool :=
  match text.splitOn '.' with
  | [name] => isName name
  | [namePrefix, name] => isName namePrefix && isName name
  | _ => false

/-- Where a string is read: before a character, after a backslash, or before some digits of it. -/
inductive StringState where
  | plain
  | escape
  | digits (missing : Nat)
deriving Repr, DecidableEq

def StringState.next : StringState → Char → Option StringState
  | plain, char => if char = '\\' then some escape else if isStrChar char then some plain else none
  | escape, char =>
    if char.toLower = 'u' then some (digits 3)
    else if "btnr\"'\\".toList.contains char.toLower then some plain else none
  | digits missing, char =>
    if isHexDigit char then some (if missing = 0 then plain else digits (missing - 1)) else none

/-- What a string has between its quotes. -/
def isStringBody (text : Text) : Bool := text.foldlM StringState.next .plain = some .plain

def isString (text : Text) : Bool :=
  text.head? = some '"' && text.tail.getLast? = some '"' && isStringBody text.tail.dropLast

/-- Tokens, each with a space after it. -/
def isTokens (text : Text) : Bool :=
  text.getLast? = some ' ' && (text.dropLast.splitOn ' ').all isToken

def isFormalName (text : Text) : Bool := isTokens text || isString text

def isSubtag (allowed : Char → Bool) (text : Text) : Bool := !text.isEmpty && text.length ≤ 8 && text.all allowed

def isLanguageTag (text : Text) : Bool :=
  match text.splitOn '-' with
  | primary :: subtags => isSubtag Char.isAlpha primary && subtags.all (isSubtag Char.isAlphanum)
  | [] => false

/-- A number is a token too. -/
def isParameter (text : Text) : Bool :=
  let name := text.takeWhile (· != '=')
  let value := (text.dropWhile (· != '=')).tail
  decide ('=' ∈ text) &&
    ((decide (name.map Char.toLower = "lang".toList) && isLanguageTag value) || (isName name && (isToken value || isString value)))

/-- Whether a character of the parameters is in a string of them. -/
inductive Quoting where
  | outside
  | inside
  | escaped
deriving Repr, DecidableEq

def Quoting.next : Quoting → Char → Quoting
  | outside, char => if char = '"' then inside else outside
  | inside, char => if char = '"' then outside else if char = '\\' then escaped else inside
  | escaped, _ => inside

/-- A text up to where the mark first is outside of strings, and the rest from there. -/
def cutOutside (mark : Char) : Quoting → Text → Text × Text
  | _, [] => ([], [])
  | quoting, char :: rest =>
    if quoting = .outside ∧ char = mark then ([], char :: rest)
    else ((cutOutside mark (quoting.next char) rest).map (char :: ·) id)

/-- The parts of a text between the marks outside of strings. -/
def splitOutside (mark : Char) : Quoting → Text → List Text
  | _, [] => [[]]
  | quoting, char :: rest =>
    if quoting = .outside ∧ char = mark then [] :: splitOutside mark .outside rest
    else (splitOutside mark (quoting.next char) rest).modifyHead (char :: ·)

/-- `Header-parameters`. -/
def isParameters (text : Text) : Bool :=
  match splitOutside ';' .outside text with
  | [] :: parameters => parameters.all isParameter
  | _ => false

end Liblinphone.Cpim
