import Liblinphone.IceAttributes
import Liblinphone.RtcpFeedback
import Liblinphone.TransportCapabilities

/-! A media description written as SDP: the session first, then a media line for each stream.
What is written is handed to the SIP library, which keeps attributes in the order of their
adding. -/

namespace Liblinphone

structure RtcpXrAttribute where
  rcvrRttMode : Option String := none
  rcvrRttMaxSize : Int := 0
  statSummary : Bool := false
  statSummaryFlags : List String := []
  voipMetrics : Bool := false
deriving Repr, DecidableEq

inductive SdpLine where
  | attribute (line : BelleSdpAttribute)
  | rtcpFb (line : RtcpFbAttribute)
  | rtcpXr (line : RtcpXrAttribute)
deriving Repr, DecidableEq

namespace SdpLine

def valued (name : String) (value : Text) : SdpLine := .attribute { name, value := some value }

def flag (name : String) : SdpLine := .attribute { name }

/-- The name by which an attribute is found. -/
def name : SdpLine → String
  | .attribute line => line.name
  | .rtcpFb _ => "rtcp-fb"
  | .rtcpXr _ => "rtcp-xr"

end SdpLine

structure SdpConnection where
  addrType : String
  address : String
  ttl : Int := 0
deriving Repr, DecidableEq

structure SdpOrigin where
  username : Option String
  sessionId : Nat
  sessionVersion : Nat
  addrType : String
  address : String
deriving Repr, DecidableEq

structure SdpMimeParameter where
  type : Option String
  format : Int
  rate : Int
  channels : Int
  parameters : Option String
  ptime : Option Int
deriving Repr, DecidableEq

structure SdpMedia where
  type : String
  port : Int
  proto : String
  formats : List Int := []
  connection : Option SdpConnection := none
  bandwidth : Option (String × Int) := none
  attributes : List SdpLine := []
deriving Repr, DecidableEq

structure SdpSession where
  origin : SdpOrigin
  sessionName : String
  connection : Option SdpConnection
  timeDescriptions : List (Int × Int)
  bandwidth : Option (String × Int)
  attributes : List SdpLine
  mediaDescriptions : List SdpMedia := []
deriving Repr, DecidableEq

/-- What the libraries below do for the writing. -/
structure SdpLibrary where
  escapedUsername : String → String
  isMulticast : String → Bool
  cryptoSuiteNameParams : MSCryptoSuite → Option (String × Option String)
  appendMimeParameter : SdpMedia → SdpMimeParameter → SdpMedia
  marshal : SdpLine → Text
  setTimeDescription : List (Int × Int) → Int × Int → List (Int × Int)

/-- A time description that is set takes the place of those that were there. -/
def SdpLibrary.SetsTime (library : SdpLibrary) : Prop := ∀ times time, library.setTimeDescription times time = [time]

namespace OrtpRtcpXrConfiguration

def statSummaryNames : List (Nat × String) := [(1, "loss"), (2, "dup"), (4, "jitt"), (8, "TTL"), (16, "HL")]

/-- The modes are none, all and sender. -/
def createRtcpXrAttribute (config : OrtpRtcpXrConfiguration) : RtcpXrAttribute where
  rcvrRttMode := if config.rcvrRttMode = 1 then some "all" else if config.rcvrRttMode = 2 then some "sender" else none
  rcvrRttMaxSize := if config.rcvrRttMode ≠ 0 then config.rcvrRttMaxSize else 0
  statSummary := config.statSummaryEnabled
  statSummaryFlags :=
    if config.statSummaryEnabled then
      (statSummaryNames.filter fun flag => config.statSummaryFlags &&& flag.1 != 0).map Prod.snd
    else []
  voipMetrics := config.voipMetricsEnabled

end OrtpRtcpXrConfiguration

def addrType (addr : String) : String := if addr.toList.contains ':' then "IP6" else "IP4"

namespace SalStreamConfiguration

def getProtoAsString (cfg : SalStreamConfiguration) : String :=
  match cfg.proto with
  | .rtpAvp => "RTP/AVP"
  | .rtpSavp => "RTP/SAVP"
  | .udpTlsRtpSavp => "UDP/TLS/RTP/SAVP"
  | .rtpAvpf => "RTP/AVPF"
  | .rtpSavpf => "RTP/SAVPF"
  | .udpTlsRtpSavpf => "UDP/TLS/RTP/SAVPF"
  | .other => cfg.protoOther

def mimeParameter (cfg : SalStreamConfiguration) (pt : PayloadType) : SdpMimeParameter where
  type := pt.mimeType
  format := pt.number
  rate := pt.clockRate
  channels := if pt.channels > 0 then pt.channels else -1
  parameters := pt.recvFmtp
  ptime := if cfg.ptime > 0 then some cfg.ptime else none

/-- The value is empty for a suite without a name. -/
def cryptoToSdpValue (library : SdpLibrary) (crypto : SalSrtpCryptoAlgo) : Text :=
  match library.cryptoSuiteNameParams crypto.algo with
  | none => []
  | some (name, params) =>
    numberText crypto.tag ++ ' ' :: (name.toList ++ " inline:".toList ++ crypto.masterKey.toList ++
      params.elim [] fun params => ' ' :: params.toList)

variable (cfg : SalStreamConfiguration)

def cryptoLines (library : SdpLibrary) : List SdpLine :=
  if cfg.hasSrtp then
    ((cfg.crypto.map (cryptoToSdpValue library)).filter fun value => !value.isEmpty).map (SdpLine.valued "crypto")
  else []

def addDtlsAttributesToMediaDesc : List SdpLine :=
  if (cfg.proto = .udpTlsRtpSavpf ∨ cfg.proto = .udpTlsRtpSavp) ∧ cfg.dtlsRole ≠ .invalid ∧ cfg.dtlsFingerprint ≠ "" then
    let setupAttrValue := getSetupAttributeForDtlsRole cfg.dtlsRole
    (if setupAttrValue ≠ "" then [.valued "setup" setupAttrValue.toList] else []) ++
      [.valued "fingerprint" cfg.dtlsFingerprint.toList]
  else []

def dirLines : List SdpLine :=
  match cfg.dir with
  | .sendRecv => []
  | .recvOnly => [.flag "recvonly"]
  | .sendOnly => [.flag "sendonly"]
  | .inactive => [.flag "inactive"]

def addMidAttributesToSdp : List SdpLine :=
  (if cfg.mid ≠ "" then [.valued "mid" cfg.mid.toList] else []) ++
    (if cfg.midRtpExtHeaderId ≠ 0 then
      [.valued "extmap" (integerText cfg.midRtpExtHeaderId ++ " urn:ietf:params:rtp-hdrext:sdes:mid".toList)] else []) ++
    (if cfg.bundleOnly then [.flag "bundle-only"] else [])

/-- An extension with an identifier. -/
def extmapLine (id : Int) (extension : String) : List SdpLine :=
  if id ≠ 0 then [.valued "extmap" (integerText id ++ extension.toList)] else []

def ssrcLine : List SdpLine :=
  if cfg.conferenceSsrc ≠ 0 ∧ cfg.rtcpCname ≠ "" then
    [.valued "ssrc" (indexText cfg.conferenceSsrc ++ " cname:".toList ++ cfg.rtcpCname.toList)]
  else []

end SalStreamConfiguration

def acapLine (entry : UInt32 × (String × String)) : SdpLine :=
  let (idx, name, value) := entry
  .valued "acap" (indexText idx ++ ' ' :: (name.toList ++ if value.isEmpty then [] else ':' :: value.toList))

/-- The capabilities are written when they are supported. -/
def capabilityLines (params : SalMediaDescriptionParams) (acaps : AcapMap) (tcaps : TcapMap) : List SdpLine :=
  if params.capabilityNegotiation then acaps.toList.map acapLine ++ (tcapAttributes params tcaps).map (SdpLine.valued "tcap")
  else []

def customLines (customSdpAttributes : List (String × String)) : List SdpLine :=
  customSdpAttributes.map fun attr => .valued attr.1 attr.2.toList

namespace SalStreamDescription

variable (library : SdpLibrary) (stream : SalStreamDescription)

def getTypeAsString : String :=
  match stream.type with
  | .audio => "audio"
  | .video => "video"
  | .text => "text"
  | .other => stream.typeother

/-- The RTCP port is written when it does not follow from the RTP one. -/
def rtcpLine : List SdpLine :=
  let differentRtpAndRtcpAddr := stream.rtcpAddr ≠ "" ∧ stream.rtpAddr ≠ stream.rtcpAddr
  if stream.rtpPort ≠ 0 ∧ stream.rtcpPort ≠ 0 ∧ (stream.rtcpPort ≠ stream.rtpPort + 1 ∨ differentRtpAndRtcpAddr) then
    [.valued "rtcp" (integerText stream.rtcpPort ++
      if differentRtpAndRtcpAddr then " IN IP4 ".toList ++ stream.rtcpAddr.toList else [])]
  else []

def iceLines : List SdpLine :=
  if stream.iceMismatch then [.flag "ice-mismatch"]
  else if stream.rtpPort ≠ 0 then
    (if stream.icePwd ≠ "" then [.valued "ice-pwd" stream.icePwd.toList] else []) ++
      (if stream.iceUfrag ≠ "" then [.valued "ice-ufrag" stream.iceUfrag.toList] else []) ++
      stream.addIceCandidatesToSdp.map .attribute ++ stream.addIceRemoteCandidatesToSdp.map .attribute
  else []

/-- Feedback is enabled for the payloads on the way, which nothing that is written later reads. -/
def rtcpFbLines : List SdpLine :=
  let actualCfg := stream.getActualConfiguration
  if stream.enabled && (actualCfg.hasAvpf || actualCfg.implicitRtcpFb) then actualCfg.addRtcpFbAttributesToSdp.2.map .rtcpFb
  else []

/-- The reports of the stream are written unless the session has the same line. -/
def rtcpXrLines (sessionAttributes : List SdpLine) : List SdpLine :=
  let rtcpXr := stream.getActualConfiguration.rtcpXr
  if stream.enabled && rtcpXr.enabled then
    let sessionText := ((sessionAttributes.find? fun line => line.name == "rtcp-xr").map library.marshal).getD []
    let mediaAttribute := SdpLine.rtcpXr rtcpXr.createRtcpXrAttribute
    if sessionText ≠ library.marshal mediaAttribute then [mediaAttribute] else []
  else []

/-- The line of a configuration that is not the actual one, or that answers a potential one. -/
def cfgLine (line : SdpAttribute) : SdpLine :=
  match line.name with
  | .pcfg => .valued "pcfg" line.value
  | .acfg => .valued "acfg" line.value
  | .other => .valued "" line.value

def negotiationLines (params : SalMediaDescriptionParams) : List SdpLine :=
  capabilityLines params stream.acaps stream.tcaps ++
    if params.capabilityNegotiation then stream.cfgAttributes.map cfgLine else []

/-- The attributes without those of the negotiation of capabilities. -/
def attributeLines (sessionAttributes : List SdpLine) : List SdpLine :=
  let actualCfg := stream.getActualConfiguration
  actualCfg.cryptoLines library ++ actualCfg.addDtlsAttributesToMediaDesc ++
    (if actualCfg.haveZrtpHash = 1 ∧ actualCfg.zrtphash ≠ "" then [.valued "zrtp-hash" actualCfg.zrtphash.toList] else []) ++
    actualCfg.dirLines ++
    (if actualCfg.rtcpMux then [.flag "rtcp-mux"] else []) ++
    actualCfg.addMidAttributesToSdp ++
    SalStreamConfiguration.extmapLine actualCfg.mixerToClientExtensionId " urn:ietf:params:rtp-hdrext:csrc-audio-level" ++
    SalStreamConfiguration.extmapLine actualCfg.clientToMixerExtensionId " urn:ietf:params:rtp-hdrext:ssrc-audio-level vad=on" ++
    SalStreamConfiguration.extmapLine actualCfg.frameMarkingExtensionId " urn:ietf:params:rtp-hdrext:framemarking" ++
    actualCfg.ssrcLine ++ stream.rtcpLine ++
    (if actualCfg.setNortpproxy then [.valued "nortpproxy" "yes".toList] else []) ++
    stream.iceLines ++ stream.rtcpFbLines ++ stream.rtcpXrLines library sessionAttributes ++
    (if stream.label ≠ "" then [.valued "label" stream.label.toList] else []) ++
    (if stream.content ≠ "" then [.valued "content" stream.content.toList] else []) ++
    customLines stream.customSdpAttributes

/-- The media line with its formats. There has to be one, which is zero without payloads. -/
def mediaLine : SdpMedia :=
  let actualCfg := stream.getActualConfiguration
  let media : SdpMedia :=
    { type := stream.getTypeAsString, port := stream.rtpPort, proto := stream.getChosenConfiguration.getProtoAsString }
  if actualCfg.payloads.isEmpty then { media with formats := [0] }
  else actualCfg.payloads.foldl (fun media pt => library.appendMimeParameter media (actualCfg.mimeParameter pt)) media

/-- The address is written when it is not that of the session, which has none left when the
stream is sent to a group. -/
def toSdpMediaDescription (salMediaDesc : SalMediaDescription) (sessionDesc : SdpSession) : SdpMedia × SdpSession :=
  let media := stream.mediaLine library
  let ownAddress := stream.rtpAddr ≠ "" ∧ stream.rtpAddr ≠ salMediaDesc.addr
  let inet6 := stream.rtpAddr.toList.contains ':'
  let multicast := library.isMulticast stream.rtpAddr
  ({ media with
      connection :=
        if ownAddress then
          some { addrType := addrType stream.rtpAddr, address := stream.rtpAddr
                 ttl := if multicast && !inet6 then stream.getActualConfiguration.ttl else 0 }
        else media.connection
      bandwidth := if stream.bandwidth > 0 then some ("AS", stream.bandwidth) else media.bandwidth
      attributes := media.attributes ++ stream.attributeLines library sessionDesc.attributes ++
        stream.negotiationLines salMediaDesc.params },
    if ownAddress ∧ multicast then { sessionDesc with connection := none } else sessionDesc)

end SalStreamDescription

def SalMediaRecord.toText : SalMediaRecord → Text
  | .off => "off".toList
  | .on => "on".toList
  | .paused => "paused".toList
  | .none => "none".toList

def SalStreamBundle.addToSdp (bundle : SalStreamBundle) : SdpLine :=
  .valued "group" (bundle.mids.foldl (fun value mid => value ++ ' ' :: mid.toList) "BUNDLE".toList)

namespace SalMediaDescription

def ntpToUnix : Int := 2208988800

def isNullAddress (addr : String) : Bool := addr == "0.0.0.0" || addr == "::0"

variable (desc : SalMediaDescription)

def containsStreamWithDir (streamDir : SalStreamDir) : Bool :=
  desc.streams.any fun stream =>
    stream.enabled && (stream.getDirection == streamDir ||
      (stream.getDirection == .sendRecv && streamDir == .sendOnly && (isNullAddress desc.addr || isNullAddress stream.rtpAddr)))

def hasDir : SalStreamDir → Bool
  | .recvOnly => desc.containsStreamWithDir .recvOnly &&
      !(desc.containsStreamWithDir .sendOnly || desc.containsStreamWithDir .sendRecv)
  | .sendOnly => desc.containsStreamWithDir .sendOnly &&
      !(desc.containsStreamWithDir .recvOnly || desc.containsStreamWithDir .sendRecv)
  | .sendRecv => desc.containsStreamWithDir .sendRecv
  | .inactive => !(desc.containsStreamWithDir .sendOnly || desc.containsStreamWithDir .sendRecv ||
      desc.containsStreamWithDir .recvOnly)

/-- A time before the epoch is no limit. -/
def ntpTime (time : Int) : Int := if time < 0 then 0 else time + ntpToUnix

def timeDescriptions (library : SdpLibrary) : List (Int × Int) :=
  if desc.times.isEmpty then library.setTimeDescription [] (0, 0)
  else desc.times.foldl (fun written time => library.setTimeDescription written (ntpTime time.1, ntpTime time.2)) []

def recordLines : List SdpLine := if desc.record ≠ .none then [.valued "record" desc.record.toText] else []

/-- The attributes before the one for the recording. -/
def leadingLines : List SdpLine :=
  (if desc.setNortpproxy then [.valued "nortpproxy" "yes".toList] else []) ++
    (if desc.icePwd ≠ "" then [.valued "ice-pwd" desc.icePwd.toList] else []) ++
    (if desc.iceUfrag ≠ "" then [.valued "ice-ufrag" desc.iceUfrag.toList] else []) ++
    (if desc.rtcpXr.enabled then [.rtcpXr desc.rtcpXr.createRtcpXrAttribute] else []) ++
    desc.bundles.map SalStreamBundle.addToSdp

/-- The session before its streams are added. -/
def sessionSdp (library : SdpLibrary) : SdpSession where
  origin :=
    { username := if desc.username ≠ "" then some (library.escapedUsername desc.username) else none
      sessionId := desc.sessionId
      sessionVersion := desc.sessionVer
      addrType := addrType desc.addr
      address := desc.originAddr }
  sessionName := if desc.name ≠ "" then desc.name else "Talk"
  connection :=
    if !desc.hasDir .inactive || desc.iceUfrag ≠ "" then some { addrType := addrType desc.addr, address := desc.addr }
    else some { addrType := addrType desc.addr, address := if desc.addr.toList.contains ':' then "::0" else "0.0.0.0" }
  timeDescriptions := desc.timeDescriptions library
  bandwidth := if desc.bandwidth > 0 then some ("AS", desc.bandwidth) else none
  attributes := desc.leadingLines ++ desc.recordLines ++ customLines desc.customSdpAttributes ++
    capabilityLines desc.params desc.acaps desc.tcaps

/-- The media line of a stream is added to the session that its writing leaves. -/
def addStreamToSdp (library : SdpLibrary) (sessionDesc : SdpSession) (stream : SalStreamDescription) : SdpSession :=
  let written := stream.toSdpMediaDescription library desc sessionDesc
  { written.2 with mediaDescriptions := written.2.mediaDescriptions ++ [written.1] }

def toSdp (library : SdpLibrary) : SdpSession := desc.streams.foldl (desc.addStreamToSdp library) (desc.sessionSdp library)

end SalMediaDescription

end Liblinphone
