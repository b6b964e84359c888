import Liblinphone.ConfigValues
import Liblinphone.StreamDescription

/-! The ICE candidates of a stream as attributes of its media line. They are printed part by
part and read with `sscanf`, into buffers of a fixed size. -/

namespace Liblinphone

/-- Why `sscanf` stops: the text does not match, or a word does not fit its buffer, after which
nothing is defined. -/
inductive ScanStop where
  | mismatch
  | overrun
deriving Repr, DecidableEq

/-- A reader takes something off the front of a text. -/
abbrev Scan := StateT Text (Except ScanStop)

namespace Scan

def byteSize (text : Text) : Nat := (text.map Char.utf8Size).sum

/-- `%s`, into a buffer of this size, which also holds the end of the string. -/
def token (size : Nat) : Scan Text := fun text =>
  match scanWord text with
  | none => .error .mismatch
  | some (word, rest) => if byteSize word < size then .ok (word, rest) else .error .overrun

/-- `%s` with the number of characters that it may take. -/
def upTo (width : Nat) : Scan Text := fun text =>
  match scanWord text with
  | none => .error .mismatch
  | some (word, rest) => .ok (word.take width, word.drop width ++ rest)

/-- The number that `%d` and `%u` find, before it is stored. -/
def number : Scan Int := fun text =>
  let text := text.dropWhile isSpace
  let unsigned := if text.head? = some '-' ∨ text.head? = some '+' then text.tail else text
  let digits := unsigned.takeWhile Char.isDigit
  if digits.isEmpty then .error .mismatch
  else .ok (if text.head? = some '-' then -(textNumber digits : Int) else textNumber digits, unsigned.drop digits.length)

/-- `%d`, into 32 bits. -/
def signed : Scan Int := (fun value => Utils.toInt (Utils.saturate value)) <$> number

/-- What 32 bits without a sign keep of a number, of which 64 bits hold the greatest one they can. -/
def toUnsigned (value : Int) : Nat := (min value (2 ^ 64 - 1) % 2 ^ 32).toNat

/-- `%u`, which allows a sign. -/
def unsigned : Scan Nat := toUnsigned <$> number

/-- A word of the format, with the blanks in front of it. -/
def literal (word : Text) : Scan Unit := fun text =>
  if word.isPrefixOf (text.dropWhile isSpace) then .ok ((), (text.dropWhile isSpace).drop word.length)
  else .error .mismatch

/-- A mismatch ends the reading, with what was read before it. -/
def attempt {α : Type} (scan : Scan α) : Scan (Option α) := fun text =>
  match scan.run text with
  | .ok (value, rest) => .ok (some value, rest)
  | .error .mismatch => .ok (none, text)
  | .error .overrun => .error .overrun

end Scan

structure BelleSdpAttribute where
  name : String
  value : Option Text := none
deriving Repr, DecidableEq

def maxIceAddrLen : Nat := 64

/-- The longest value that is added. -/
def maxIceValueLen : Nat := 1024

namespace SalIceCandidate

/-- The value without a related address. -/
def baseValue (candidate : SalIceCandidate) : Text :=
  candidate.foundation.toList ++ ' ' :: (numberText candidate.componentID ++ " UDP ".toList ++
    (numberText candidate.priority ++ ' ' :: (candidate.addr.toList ++ ' ' :: (integerText candidate.port ++
      " typ ".toList ++ candidate.type.toList))))

def value (candidate : SalIceCandidate) : Text :=
  if candidate.raddr.isEmpty then candidate.baseValue
  else candidate.baseValue ++ (" raddr ".toList ++ (candidate.raddr.toList ++ " rport ".toList ++ integerText candidate.rport))

/-- The seven conversions that every value has, and the protocol among them. -/
def scanBase : Scan (SalIceCandidate × Text) := do
  let foundation ← Scan.token maxIceAddrLen
  let componentID ← Scan.unsigned
  let proto ← Scan.upTo 3
  let priority ← Scan.unsigned
  let addr ← Scan.token maxIceAddrLen
  let port ← Scan.signed
  Scan.literal "typ".toList
  let type ← Scan.token maxIceAddrLen
  return ({ addr := .ofList addr, foundation := .ofList foundation, type := .ofList type, componentID, priority, port }, proto)

/-- A related address. -/
def scanRaddr : Scan Text := do
  Scan.literal "raddr".toList
  Scan.token maxIceAddrLen

def scanRport : Scan Int := do
  Scan.literal "rport".toList
  Scan.signed

/-- Seven or nine conversions make a candidate, when the protocol is UDP. -/
def scan : Scan (Option SalIceCandidate) := do
  let some (candidate, proto) ← Scan.attempt scanBase | return none
  let udp := proto.map Char.toLower == "udp".toList
  let some raddr ← Scan.attempt scanRaddr | return if udp then some candidate else none
  let some rport ← Scan.attempt scanRport | return none
  return if udp then some { candidate with raddr := .ofList raddr, rport } else none

end SalIceCandidate

namespace SalStreamDescription

/-- The values of the candidates, up to one without an address or a port, or one that is too long. -/
def iceCandidateValues : List SalIceCandidate → List Text
  | [] => []
  | candidate :: rest =>
    if candidate.addr.isEmpty || candidate.port == 0 then []
    else if Scan.byteSize candidate.baseValue > maxIceValueLen then []
    else if Scan.byteSize candidate.value > maxIceValueLen then []
    else candidate.value :: iceCandidateValues rest

def addIceCandidatesToSdp (stream : SalStreamDescription) : List BelleSdpAttribute :=
  (iceCandidateValues stream.iceCandidates).map fun value => { name := "candidate", value := some value }

/-- A slot is written with its component. -/
def remoteCandidateText (slot : Nat) (candidate : SalIceRemoteCandidate) : Text :=
  (if slot > 0 then " ".toList else []) ++ (numberText ((slot + 1) % 2 ^ 32) ++ ' ' :: (candidate.addr.toList ++
    ' ' :: integerText candidate.port))

/-- The value after the slots from this one on. Nothing is returned when it is too long. -/
def remoteCandidatesValue (slot : Nat) (value : Text) : List SalIceRemoteCandidate → Option Text
  | [] => some value
  | candidate :: rest =>
    if !candidate.addr.isEmpty && candidate.port != 0 then
      let value := value ++ remoteCandidateText slot candidate
      if Scan.byteSize value > maxIceValueLen then none else remoteCandidatesValue (slot + 1) value rest
    else remoteCandidatesValue (slot + 1) value rest

def addIceRemoteCandidatesToSdp (stream : SalStreamDescription) : List BelleSdpAttribute :=
  match remoteCandidatesValue 0 [] stream.iceRemoteCandidates with
  | none => []
  | some value => if value.isEmpty then [] else [{ name := "remote-candidates", value := some value }]

/-- The component, the address and the port of a remote candidate. -/
def scanRemoteCandidate : Scan (Nat × SalIceRemoteCandidate) := do
  let componentID ← Scan.unsigned
  let addr ← Scan.token maxIceAddrLen
  let port ← Scan.unsigned
  return (componentID, { addr := .ofList addr, port := Utils.toInt port })

/-- The slot of a component. The slots before it are made when they are missing. -/
def setRemoteCandidate (slots : List SalIceRemoteCandidate) (componentID : Nat) (candidate : SalIceRemoteCandidate) :
    List SalIceRemoteCandidate :=
  if componentID = 0 then slots
  else (slots ++ List.replicate (componentID - slots.length) ({ } : SalIceRemoteCandidate)).set (componentID - 1) candidate

/-- The loop over the remote candidates. Each turn takes characters, so that as many turns as
there are characters are enough. -/
def readRemoteCandidates (slots : List SalIceRemoteCandidate) : Nat → Text → Except ScanStop (List SalIceRemoteCandidate)
  | 0, _ => .ok slots
  | turns + 1, text =>
    match scanRemoteCandidate.run text with
    | .error .mismatch => .ok slots
    | .error .overrun => .error .overrun
    | .ok ((componentID, candidate), rest) =>
      let slots := setRemoteCandidate slots componentID candidate
      if rest.isEmpty then .ok slots
      else readRemoteCandidates slots turns (if rest.head? = some ' ' then rest.tail else rest)

def readCandidate (stream : SalStreamDescription) (value : Text) : Except ScanStop SalStreamDescription :=
  (SalIceCandidate.scan.run value).map fun read =>
    read.1.elim stream fun candidate => { stream with iceCandidates := stream.iceCandidates ++ [candidate] }

def readRemoteCandidatesValue (stream : SalStreamDescription) (value : Text) : Except ScanStop SalStreamDescription :=
  (readRemoteCandidates stream.iceRemoteCandidates (value.length + 1) value).map fun slots =>
    { stream with iceRemoteCandidates := slots }

def readIceAttribute (stream : SalStreamDescription) (line : BelleSdpAttribute) : Except ScanStop SalStreamDescription :=
  match line.value with
  | some value =>
    if line.name = "candidate" then stream.readCandidate value
    else if line.name = "remote-candidates" then stream.readRemoteCandidatesValue value
    else if line.name = "ice-ufrag" then .ok { stream with iceUfrag := .ofList value }
    else if line.name = "ice-pwd" then .ok { stream with icePwd := .ofList value }
    else if line.name = "ice-mismatch" then .ok { stream with iceMismatch := true }
    else .ok stream
  | none => if line.name = "ice-mismatch" then .ok { stream with iceMismatch := true } else .ok stream

def sdpParseMediaIceParameters (stream : SalStreamDescription) (attributes : List BelleSdpAttribute) :
    Except ScanStop SalStreamDescription :=
  attributes.foldlM readIceAttribute stream

end SalStreamDescription

end Liblinphone
