import Liblinphone.ConferenceInfo
import Liblinphone.Utils

/-! The parameters of a participant, by name. The sequence number and the role are kept
apart from the others, and are texts again where all the parameters are asked for. -/

namespace Liblinphone

open Library

def textToRole (text : String) : ParticipantRole :=
  if text = "speaker" then .speaker
  else if text = "listener" then .listener
  else if text = "unknown" then .unknown
  else .speaker

namespace ParticipantInfo

def sequenceParameter : String := "X-SEQ"

def roleParameter : String := "X-ROLE"

def create (address : SharedAddress) : ParticipantInfo where
  address := { address with address := address.address.getUri }

def findParameter (name : String) (parameters : List (String × String)) : Option String :=
  (findKey Prod.fst name parameters).map Prod.snd

/-- A sequence number that cannot be read throws. -/
def addParameter? (info : ParticipantInfo) (name value : String) : Except StdException ParticipantInfo :=
  if name = sequenceParameter then (stdStoi value.toList).map fun number => { info with sequence := number }
  else if name = roleParameter then .ok { info with role := textToRole value }
  else .ok { info with parameters := addParameter info.parameters (name, value) }

def addParameters? (info : ParticipantInfo) (params : List (String × String)) : Except StdException ParticipantInfo :=
  params.foldlM (fun info param => info.addParameter? param.1 param.2) info

def setParameters? (info : ParticipantInfo) (params : List (String × String)) : Except StdException ParticipantInfo :=
  { info with parameters := [] }.addParameters? params

def hasParameter (info : ParticipantInfo) (name : String) : Bool := (findParameter name info.parameters).isNone

/-- A parameter that is not there has the empty value. -/
def getParameterValue (info : ParticipantInfo) (name : String) : String :=
  (findParameter name info.parameters).getD ""

def removeParameter (info : ParticipantInfo) (name : String) : ParticipantInfo :=
  { info with parameters := info.parameters.eraseP fun param => decide (param.1 = name) }

def getAllParameters (info : ParticipantInfo) : List (String × String) :=
  let params := info.parameters
  let params :=
    if info.sequence ≥ 0 then addParameter params (sequenceParameter, String.ofList (numberText info.sequence.toNat))
    else params
  if info.role ≠ .unknown then addParameter params (roleParameter, info.role.toText) else params

end ParticipantInfo

/-- A call that writes to the parameters. What is given is a map. -/
inductive ParameterCall where
  | addParameter (name value : String)
  | addParameters (params : List (String × String)) (distinct : DistinctKeys Prod.fst params)
  | removeParameter (name : String)
  | setParameters (params : List (String × String)) (distinct : DistinctKeys Prod.fst params)

namespace ParameterCall

def apply (info : ParticipantInfo) : ParameterCall → Except StdException ParticipantInfo
  | addParameter name value => info.addParameter? name value
  | addParameters params _ => info.addParameters? params
  | removeParameter name => .ok (info.removeParameter name)
  | setParameters params _ => info.setParameters? params

/-- The calls one after the other, up to the first that throws. -/
def run (info : ParticipantInfo) (calls : List ParameterCall) : Except StdException ParticipantInfo :=
  calls.foldlM apply info

/-- The names that a call gives. -/
def names : ParameterCall → List String
  | addParameter name _ => [name]
  | removeParameter name => [name]
  | addParameters params _ => params.map Prod.fst
  | setParameters params _ => params.map Prod.fst

end ParameterCall

end Liblinphone
