import Liblinphone.PayloadMatching

/-! The payload numbers of an offer. A codec keeps the number that it had in the
previous negotiation; the others keep their own number, or take a dynamic one that
no codec of the list has at that moment. -/

namespace Liblinphone

structure OrtpPayloadType extends PayloadType where
  enabled : Bool := true
deriving Repr, DecidableEq

namespace PayloadTypeHandler

/-- A codec without channels is found with any number of them. -/
def isMatch (pt it : PayloadType) : Bool :=
  match pt.mimeType, it.mimeType with
  | some mime, some other =>
    sameIgnoringCase mime other && it.clockRate == pt.clockRate && (it.channels == pt.channels || decide (pt.channels ≤ 0))
  | _, _ => false

def isExactMatch (pt it : PayloadType) : Bool :=
  match it.recvFmtp, pt.recvFmtp with
  | some fmtp, some other => sameIgnoringCase fmtp other
  | none, none => true
  | _, _ => false

/-- The last match, unless an earlier one also has the format. -/
def findCandidate (pt : PayloadType) (candidate : Option PayloadType) : List PayloadType → Option PayloadType
  | [] => candidate
  | it :: rest =>
    if isMatch pt it then
      if isExactMatch pt it then some it else findCandidate pt (some it) rest
    else findCandidate pt candidate rest

def findPayloadTypeNumber (assigned : List PayloadType) (pt : PayloadType) : Int :=
  (findCandidate pt none assigned).elim (-1) PayloadType.number

def isPayloadTypeNumberAvailable (codecs : List OrtpPayloadType) (number : Int) : Bool :=
  codecs.all fun pt => pt.number != number

/-- The dynamic numbers start with `codecs_conf.dyn_pt` and end before 127. -/
def dynamicNumber (codecs : List OrtpPayloadType) (dynPt : Int := 96) : Option Int :=
  ((List.range (127 - dynPt).toNat).map fun step : Nat => dynPt + step).find? (isPayloadTypeNumberAvailable codecs)

/-- The number after the one that was taken tells that there are too many codecs. -/
def assignDynamicNumber (codecs : List OrtpPayloadType) (pt : OrtpPayloadType) (dynPt : Int := 96) : OrtpPayloadType :=
  match dynamicNumber codecs dynPt with
  | some dynNumber =>
    { pt with number := dynNumber, enabled := if dynNumber + 1 == 127 then false else pt.enabled }
  | none => { pt with enabled := if dynPt ≤ 127 then false else pt.enabled }

/-- The number of the previous negotiation is taken over as it is. -/
def takePreviousNumber (previousList : List PayloadType) (pt : OrtpPayloadType) : OrtpPayloadType :=
  let number := findPayloadTypeNumber previousList pt.toPayloadType
  if number != -1 then { pt with number := number, flags := { pt.flags with frozenNumber := true } } else pt

/-- One turn of the loop, between the codecs that have been handled and the others. -/
def assignNumber (previousList : List PayloadType) (handled : List OrtpPayloadType) (pt : OrtpPayloadType)
    (others : List OrtpPayloadType) (dynPt : Int := 96) : OrtpPayloadType :=
  let pt := takePreviousNumber previousList pt
  let duplicated := pt.number != -1 && !pt.flags.frozenNumber && !isPayloadTypeNumberAvailable (handled ++ others) pt.number
  if duplicated || pt.number == -1 then assignDynamicNumber (handled ++ pt :: others) pt dynPt else pt

def assignNumbers (previousList : List PayloadType) (handled codecs : List OrtpPayloadType) (dynPt : Int := 96) :
    List OrtpPayloadType :=
  match codecs with
  | [] => handled
  | pt :: others =>
    assignNumbers previousList (handled ++ [assignNumber previousList handled pt others dynPt]) others dynPt

/-- The last codec with a name. -/
def lastNamed (name : String) (codecs : List OrtpPayloadType) : Option (OrtpPayloadType × Nat) :=
  codecs.zipIdx.reverse.find? fun entry => entry.1.mimeType == some name

/-- Redundant text refers to the number of the text that it carries. -/
def setRedFmtp (codecs : List OrtpPayloadType) : List OrtpPayloadType :=
  match lastNamed "t140" codecs, lastNamed "red" codecs with
  | some t140, some red =>
    codecs.zipIdx.map fun entry =>
      if entry.2 == red.2 then { entry.1 with recvFmtp := some (redFmtp t140.1.toPayloadType) } else entry.1
  | _, _ => codecs

def assignPayloadTypeNumbers (codecs : List OrtpPayloadType) (previousList : List PayloadType) (dynPt : Int := 96) :
    List OrtpPayloadType :=
  setRedFmtp (assignNumbers previousList [] codecs dynPt)

end PayloadTypeHandler
end Liblinphone
