import Liblinphone.CapabilityNegotiation
import Mathlib.Data.List.Destutter

/-! Indexes that are not in use. Capabilities are numbered over the session and all its
streams, and configurations over one stream. -/

namespace Liblinphone

/-- The capabilities and configurations that a session description names. -/
structure PotentialCfgGraph where
  globalAcap : List SdpCapability := []
  globalTcap : List SdpCapability := []
  cfgs : Std.ExtTreeMap UInt32 (Std.ExtTreeMap UInt32 ConfigAttribute compare) compare := ∅
  acap : Std.ExtTreeMap UInt32 (List SdpCapability) compare := ∅
  tcap : Std.ExtTreeMap UInt32 (List SdpCapability) compare := ∅

namespace PotentialCfgGraph

/-- The first of the ordered and distinct indexes whose successor is not the next one. -/
def gapPlace (l : List UInt32) : Option Nat :=
  let lCopy := (l.insertionSort fun left right => left ≤ right).destutter fun left right => left ≠ right
  (List.zipWith (fun next el => next - el) lCopy.tail lCopy).findIdx? fun el => el != 1

/-- A gap is located in the ordered indexes, and the index before it is read from the
list as it came. -/
def getFreeIdx (l : List UInt32) : UInt32 :=
  if l.isEmpty then 1
  else
    match gapPlace l with
    | none =>
      let listMinEl := l.min?.getD 0
      if listMinEl > 1 then listMinEl - 1 else l.max?.getD 0 + 1
    | some elIdx => l[elIdx]?.getD 0 + 1

variable (graph : PotentialCfgGraph)

def tcapIndexes : List UInt32 :=
  graph.globalTcap.map SdpCapability.index ++ graph.tcap.toList.flatMap fun entry => entry.2.map SdpCapability.index

def acapIndexes : List UInt32 :=
  graph.globalAcap.map SdpCapability.index ++ graph.acap.toList.flatMap fun entry => entry.2.map SdpCapability.index

def getCfgForStream (idx : UInt32) : Std.ExtTreeMap UInt32 ConfigAttribute compare := graph.cfgs[idx]?.getD ∅

def getFreeTcapIdx : UInt32 := getFreeIdx graph.tcapIndexes

def getFreeAcapIdx : UInt32 := getFreeIdx graph.acapIndexes

def getFreeCfgIdx (idx : UInt32) : UInt32 := getFreeIdx (graph.getCfgForStream idx).keys

end PotentialCfgGraph

namespace SalMediaDescription

variable (desc : SalMediaDescription)

def tcapIndexes : List UInt32 := desc.tcaps.keys ++ desc.streams.flatMap fun stream => stream.tcaps.keys

def acapIndexes : List UInt32 := desc.acaps.keys ++ desc.streams.flatMap fun stream => stream.acaps.keys

def getFreeTcapIdx : UInt32 := PotentialCfgGraph.getFreeIdx desc.tcapIndexes

def getFreeAcapIdx : UInt32 := PotentialCfgGraph.getFreeIdx desc.acapIndexes

end SalMediaDescription

/-- The actual configuration comes last in the map. -/
def SalStreamDescription.getFreeCfgIdx (stream : SalStreamDescription) : UInt32 :=
  PotentialCfgGraph.getFreeIdx stream.cfgs.keys

end Liblinphone
