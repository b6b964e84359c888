import Mathlib.Init

/-! The oRTP payload type, with the fields that negotiation reads or writes.
Cloning a payload type is copying a value here; only the matcher of redundant
text ever writes through a pointer it was given, and it returns the new list. -/

namespace Liblinphone

/-- `strcasecmp(first, second) == 0`. Only ASCII letters are folded. -/
def sameIgnoringCase (first second : String) : Bool :=
  first.toList.map Char.toLower == second.toList.map Char.toLower

structure PayloadTypeAvpfParams where
  features : UInt8 := 0
  rpsiCompatibility : Bool := false
  trrInterval : UInt16 := 0
deriving Repr, DecidableEq

/-- The bits of `PayloadType::flags` that negotiation tests or sets. -/
structure PayloadTypeFlags where
  canRecv : Bool := false
  canSend : Bool := false
  rtcpFeedbackEnabled : Bool := false
  frozenNumber : Bool := false
  priorityBonus : Bool := false
deriving Repr, DecidableEq

structure PayloadType where
  type : Nat := 0
  mimeType : Option String
  clockRate : Int
  channels : Int
  number : Int
  sendFmtp : Option String := none
  recvFmtp : Option String := none
  flags : PayloadTypeFlags := {}
  avpf : PayloadTypeAvpfParams := {}
deriving Repr, DecidableEq

namespace PayloadType

/-- `strcasecmp(pt->mime_type, name) == 0`. A null mime type, which the source
never passes to `strcasecmp`, is equal to no name. -/
def isMime (pt : PayloadType) (name : String) : Bool :=
  pt.mimeType.any (sameIgnoringCase · name)

def appendSendFmtp (pt : PayloadType) (fmtp : String) : PayloadType :=
  { pt with sendFmtp := some (pt.sendFmtp.elim fmtp (· ++ ";" ++ fmtp)) }

/-- Two payload types name the same codec: same mime type up to case, same
clock rate and same number of channels. -/
def sameCodec (first second : PayloadType) : Bool :=
  match first.mimeType, second.mimeType with
  | some mime, some other =>
    sameIgnoringCase mime other && first.clockRate == second.clockRate && first.channels == second.channels
  | _, _ => false

/-- The rewriting of flags that makes an entry of the answer receivable only. -/
def recvOnly (pt : PayloadType) : PayloadType :=
  { pt with flags := { pt.flags with canRecv := true, canSend := false, frozenNumber := true } }

end PayloadType
end Liblinphone
