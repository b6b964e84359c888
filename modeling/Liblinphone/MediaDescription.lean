import Liblinphone.StreamDescription

/-! A session description: its media lines and the BUNDLE groups they form. -/

namespace Liblinphone

inductive SalMediaRecord where
  | none | off | on | paused
deriving Repr, DecidableEq

/-- The first mid is the tagged one, that of the transport owner. -/
structure SalStreamBundle where
  mids : List String := []
deriving Repr, DecidableEq

namespace SalStreamBundle

/-- An empty element reserves the slot of the transport owner as long as only
bundle-only streams have been added. -/
def addStream (bundle : SalStreamBundle) (cfg : SalStreamConfiguration) (mid : String) : SalStreamBundle :=
  if cfg.bundleOnly && bundle.mids.isEmpty then ⟨bundle.mids ++ ["", mid]⟩
  else if !cfg.bundleOnly && bundle.mids.head? == some "" then ⟨mid :: bundle.mids.tail⟩
  else ⟨bundle.mids ++ [mid]⟩

def getMidOfTransportOwner (bundle : SalStreamBundle) : String := bundle.mids.headD ""

def hasMid (bundle : SalStreamBundle) (mid : String) : Bool := bundle.mids.contains mid

end SalStreamBundle

structure SalMediaDescriptionParams where
  capabilityNegotiation : Bool := false
  mergeCfgLines : Bool := false
  mergeTcapLines : Bool := false
deriving Repr, DecidableEq

structure SalMediaDescription where
  name : String := ""
  addr : String := ""
  username : String := ""
  bandwidth : Int := 0
  originAddr : String := ""
  sessionVer : Nat := 0
  sessionId : Nat := 0
  dir : SalStreamDir := .sendRecv
  streams : List SalStreamDescription := []
  customSdpAttributes : List (String × String) := []
  rtcpXr : OrtpRtcpXrConfiguration := {}
  iceUfrag : String := ""
  icePwd : String := ""
  bundles : List SalStreamBundle := []
  iceLite : Bool := false
  setNortpproxy : Bool := false
  acceptBundles : Bool := false
  record : SalMediaRecord := .none
  times : List (Int × Int) := []
  params : SalMediaDescriptionParams := {}
  acaps : AcapMap := ∅
  tcaps : TcapMap := ∅
deriving DecidableEq

namespace SalMediaDescription

/-- The index of the first stream with this mid, and -1 when there is none. -/
def lookupMid (desc : SalMediaDescription) (mid : String) : Int :=
  match desc.streams.findIdx? (fun stream => stream.getMid == mid) with
  | some index => index
  | none => -1

def getBundleFromMid (desc : SalMediaDescription) (mid : String) : SalStreamBundle :=
  (desc.bundles.find? (·.hasMid mid)).getD {}

/-- A negative index says that the stream is in no bundle (-1), that the owner
of its bundle is unknown (-2), or that no stream has the owner's mid (-1). -/
def getIndexOfTransportOwner (desc : SalMediaDescription) (stream : SalStreamDescription) : Int :=
  if stream.getMid.isEmpty then -1
  else
    let bundle := desc.getBundleFromMid stream.getMid
    if bundle == {} then -2
    else if bundle.getMidOfTransportOwner.isEmpty then -2
    else desc.lookupMid bundle.getMidOfTransportOwner

def nbActiveStreamsOfType (desc : SalMediaDescription) (type : SalStreamType) : UInt32 :=
  desc.streams.foldl (fun nb stream => if stream.enabled && stream.type == type then nb + 1 else nb) 0

/-- The counter goes down at every enabled stream, and wraps around below zero. -/
def findActiveStream (type : SalStreamType) (idx : UInt32) : List SalStreamDescription → Option Nat
  | [] => none
  | stream :: rest =>
    if stream.enabled then
      if idx == 0 && stream.type == type then some 0 else (findActiveStream type (idx - 1) rest).map (· + 1)
    else (findActiveStream type idx rest).map (· + 1)

def getActiveStreamOfType (desc : SalMediaDescription) (type : SalStreamType) (idx : UInt32) : SalStreamDescription :=
  ((findActiveStream type idx desc.streams).bind fun place => desc.streams[place]?).getD {}

end SalMediaDescription
end Liblinphone
