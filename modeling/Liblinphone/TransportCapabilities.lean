import Liblinphone.CapabilityNegotiation

/-! The tcap lines of a session and of its streams. With merged lines the protocols of
consecutive indexes share one line, which names the first of the indexes. -/

namespace Liblinphone

/-- The line in progress, the index it has reached, and the lines added so far. -/
structure TcapLines where
  attributes : List Text := []
  tcapValue : Text := []
  prevIdx : UInt32 := 0
deriving Repr, DecidableEq

namespace TcapLines

def addTcap (tcapLinesMerged : Bool) (lines : TcapLines) (tcap : UInt32 × String) : TcapLines :=
  let idx := tcap.1
  let value := tcap.2.toList
  let line := indexText idx ++ [' '] ++ value
  if tcapLinesMerged then
    if lines.tcapValue.isEmpty then { lines with tcapValue := line, prevIdx := idx }
    else if idx == lines.prevIdx + 1 then { lines with tcapValue := lines.tcapValue ++ [' '] ++ value, prevIdx := idx }
    else { attributes := lines.attributes ++ [lines.tcapValue], tcapValue := line, prevIdx := idx }
  else { lines with attributes := lines.attributes ++ [line], tcapValue := line }

/-- A merged line that is left is added at the end. -/
def finish (tcapLinesMerged : Bool) (lines : TcapLines) : List Text :=
  if tcapLinesMerged && !lines.tcapValue.isEmpty then lines.attributes ++ [lines.tcapValue] else lines.attributes

end TcapLines

/-- The values of the tcap attributes for these capabilities. -/
def tcapAttributes (params : SalMediaDescriptionParams) (tcaps : TcapMap) : List Text :=
  if params.capabilityNegotiation then
    (tcaps.toList.foldl (TcapLines.addTcap params.mergeTcapLines) {}).finish params.mergeTcapLines
  else []

/-- The tcap attributes that `toSdp` adds to the session. -/
def SalMediaDescription.toSdpTcaps (desc : SalMediaDescription) : List Text := tcapAttributes desc.params desc.tcaps

/-- The tcap attributes that `toSdpMediaDescription` adds to the stream. -/
def SalStreamDescription.toSdpTcaps (stream : SalStreamDescription) (salMediaDesc : SalMediaDescription) : List Text :=
  tcapAttributes salMediaDesc.params stream.tcaps

/-- What belle-sip gives of a tcap attribute. -/
structure TcapAttributeReader where
  getId : Text → Int32
  getProtos : Text → List Text

namespace PotentialCfgGraph

/-- The protocols of one line, numbered from its id on. -/
def numberProtos (id : UInt32) : List Text → List SdpCapability
  | [] => []
  | proto :: rest => { index := id, value := String.ofList proto } :: numberProtos (id + 1) rest

def createTCapabilitiesList (reader : TcapAttributeReader) (capsAttr : List Text) : List SdpCapability :=
  capsAttr.flatMap fun lAttribute => numberProtos (reader.getId lAttribute).toUInt32 (reader.getProtos lAttribute)

end PotentialCfgGraph

end Liblinphone
