import Liblinphone.CapabilityIndexes
import Liblinphone.Library.Overlay
import Liblinphone.SessionSdp

/-! Copies of media descriptions. Each class lists the members that its copies take, once for the
construction and once for the assignment. A member that is not listed has its default value
after a construction, and stays after an assignment. -/

namespace Liblinphone

namespace SalStreamConfiguration

/-- The members that the construction and the assignment both list. -/
def copyMembers (cfg other : SalStreamConfiguration) : SalStreamConfiguration :=
  { cfg with
    proto := other.proto
    protoOther := other.protoOther
    rtpSsrc := other.rtpSsrc
    rtcpCname := other.rtcpCname
    payloads := other.payloads
    ptime := other.ptime
    maxptime := other.maxptime
    dir := other.dir
    crypto := other.crypto
    maxRate := other.maxRate
    bundleOnly := other.bundleOnly
    implicitRtcpFb := other.implicitRtcpFb
    rtcpFb := other.rtcpFb
    rtcpXr := other.rtcpXr
    mid := other.mid
    midRtpExtHeaderId := other.midRtpExtHeaderId
    mixerToClientExtensionId := other.mixerToClientExtensionId
    clientToMixerExtensionId := other.clientToMixerExtensionId
    frameMarkingExtensionId := other.frameMarkingExtensionId
    conferenceSsrc := other.conferenceSsrc
    setNortpproxy := other.setNortpproxy
    rtcpMux := other.rtcpMux
    haveZrtpHash := other.haveZrtpHash
    haveLimeIk := other.haveLimeIk
    zrtphash := other.zrtphash
    dtlsFingerprint := other.dtlsFingerprint
    dtlsRole := other.dtlsRole
    ttl := other.ttl
    index := other.index
    tcapIndex := other.tcapIndex
    acapIndexes := other.acapIndexes
    deleteMediaAttributes := other.deleteMediaAttributes
    deleteSessionAttributes := other.deleteSessionAttributes }

def copy (other : SalStreamConfiguration) : SalStreamConfiguration := copyMembers {} other

def assign (cfg other : SalStreamConfiguration) : SalStreamConfiguration := copyMembers cfg other

end SalStreamConfiguration

namespace SalStreamDescription

/-- Configurations are inserted, or assigned to those that have their indexes. -/
def insertCfgs (cfgs other : CfgMap) : CfgMap :=
  other.foldl (fun cfgs index cfg =>
    match cfgs[index]? with
    | none => cfgs.insert index cfg.copy
    | some held => cfgs.insert index (held.assign cfg)) cfgs

/-- The members that the construction and the assignment both list. -/
def copyMembers (stream other : SalStreamDescription) : SalStreamDescription :=
  { stream with
    name := other.name
    type := other.type
    typeother := other.typeother
    rtpAddr := other.rtpAddr
    rtcpAddr := other.rtcpAddr
    rtpPort := other.rtpPort
    rtcpPort := other.rtcpPort
    acaps := other.acaps
    tcaps := other.tcaps
    cfgs := insertCfgs stream.cfgs other.cfgs
    unparsedCfgs := Library.overlay stream.unparsedCfgs other.unparsedCfgs
    bandwidth := other.bandwidth
    multicastRole := other.multicastRole
    iceCandidates := other.iceCandidates
    iceRemoteCandidates := other.iceRemoteCandidates
    iceUfrag := other.iceUfrag
    icePwd := other.icePwd
    iceMismatch := other.iceMismatch
    supportedEncryption := other.supportedEncryption
    customSdpAttributes := other.customSdpAttributes
    cfgIndex := other.cfgIndex
    label := other.label
    content := other.content }

def copy (other : SalStreamDescription) : SalStreamDescription := copyMembers {} other

def assign (stream other : SalStreamDescription) : SalStreamDescription := copyMembers stream other

end SalStreamDescription

namespace SalMediaDescription

/-- The streams that are there are assigned to, and those after them are constructed. -/
def assignEach : List SalStreamDescription → List SalStreamDescription → List SalStreamDescription
  | _, [] => []
  | [], others => others.map SalStreamDescription.copy
  | stream :: streams, other :: others => stream.assign other :: assignEach streams others

/-- A vector without room for the others makes a new store, where all of them are constructed. -/
def assignStreams (capacity : Nat) (streams others : List SalStreamDescription) : List SalStreamDescription :=
  if others.length > capacity then others.map SalStreamDescription.copy else assignEach streams others

def copy (other : SalMediaDescription) : SalMediaDescription where
  name := other.name
  username := other.username
  addr := other.addr
  bandwidth := other.bandwidth
  sessionVer := other.sessionVer
  sessionId := other.sessionId
  dir := other.dir
  streams := assignStreams 0 [] other.streams
  customSdpAttributes := other.customSdpAttributes
  rtcpXr := other.rtcpXr
  iceUfrag := other.iceUfrag
  icePwd := other.icePwd
  iceLite := other.iceLite
  acceptBundles := other.acceptBundles
  bundles := other.bundles
  setNortpproxy := other.setNortpproxy

/-- The capacity is that of the vector of streams which is assigned to. -/
def assign (capacity : Nat) (desc other : SalMediaDescription) : SalMediaDescription :=
  { desc with
    name := other.name
    username := other.username
    addr := other.addr
    bandwidth := other.bandwidth
    sessionVer := other.sessionVer
    sessionId := other.sessionId
    originAddr := other.originAddr
    dir := other.dir
    streams := assignStreams capacity desc.streams other.streams
    customSdpAttributes := other.customSdpAttributes
    rtcpXr := other.rtcpXr
    iceUfrag := other.iceUfrag
    icePwd := other.icePwd
    iceLite := other.iceLite
    acceptBundles := other.acceptBundles
    bundles := other.bundles
    record := other.record
    setNortpproxy := other.setNortpproxy
    params := other.params
    times := other.times }

end SalMediaDescription

/-- The graph with the configurations that it could not resolve. -/
structure WholeCfgGraph extends PotentialCfgGraph where
  unparsedCfgs : Std.ExtTreeMap UInt32 UnparsedCfgMap compare := ∅

namespace WholeCfgGraph

def assign (graph other : WholeCfgGraph) : WholeCfgGraph :=
  { graph with
    globalAcap := other.globalAcap
    globalTcap := other.globalTcap
    cfgs := other.cfgs
    acap := other.acap
    tcap := other.tcap }

end WholeCfgGraph

end Liblinphone
