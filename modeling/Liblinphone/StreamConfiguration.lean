import Liblinphone.PayloadType

/-! One configuration of a media line: what an SDP `m=` section says about
codecs, transport, encryption and bundling. -/

namespace Liblinphone

inductive SalStreamType where
  | audio | video | text | other
deriving Repr, DecidableEq

inductive SalStreamDir where
  | sendRecv | sendOnly | recvOnly | inactive
deriving Repr, DecidableEq

inductive SalMediaProto where
  | rtpAvp | rtpSavp | rtpAvpf | rtpSavpf | udpTlsRtpSavp | udpTlsRtpSavpf | other
deriving Repr, DecidableEq

inductive SalDtlsRole where
  | invalid | isServer | isClient | unset
deriving Repr, DecidableEq

inductive LinphoneMediaEncryption where
  | none | srtp | zrtp | dtls
deriving Repr, DecidableEq

/-- Suites are numbered by the media library. Zero is `MS_CRYPTO_SUITE_INVALID`,
which also terminates a list of suites. -/
abbrev MSCryptoSuite := Nat

structure SalSrtpCryptoAlgo where
  tag : Nat := 0
  algo : MSCryptoSuite := 0
  masterKey : String := ""
deriving Repr, DecidableEq

structure OrtpRtcpFbConfiguration where
  genericNackEnabled : Bool := false
  tmmbrEnabled : Bool := false
  googRembEnabled : Bool := false
deriving Repr, DecidableEq

structure OrtpRtcpXrConfiguration where
  enabled : Bool := false
  statSummaryEnabled : Bool := false
  voipMetricsEnabled : Bool := false
  rcvrRttMode : Nat := 0
  rcvrRttMaxSize : Int := 0
  statSummaryFlags : Nat := 0
deriving Repr, DecidableEq

/-- The zrtp hash is a nul-terminated buffer, hence the string before its first
nul. The default value is `Utils::getEmptyConstRefObject<SalStreamConfiguration>()`. -/
structure SalStreamConfiguration where
  index : UInt32 := 0
  proto : SalMediaProto := .rtpAvp
  protoOther : String := ""
  rtpSsrc : UInt32 := 0
  rtcpCname : String := ""
  payloads : List PayloadType := []
  ptime : Int := 0
  maxptime : Int := 0
  dir : SalStreamDir := .inactive
  crypto : List SalSrtpCryptoAlgo := []
  maxRate : Int := 0
  bundleOnly : Bool := false
  implicitRtcpFb : Bool := false
  rtcpFb : OrtpRtcpFbConfiguration := {}
  rtcpXr : OrtpRtcpXrConfiguration := {}
  mid : String := ""
  midRtpExtHeaderId : Int := 0
  mixerToClientExtensionId : Int := 0
  clientToMixerExtensionId : Int := 0
  frameMarkingExtensionId : Int := 0
  conferenceSsrc : UInt32 := 0
  setNortpproxy : Bool := false
  rtcpMux : Bool := false
  haveZrtpHash : UInt8 := 0
  haveLimeIk : UInt8 := 0
  zrtphash : String := ""
  dtlsFingerprint : String := ""
  dtlsRole : SalDtlsRole := .invalid
  ttl : Int := 0
  deleteMediaAttributes : Bool := false
  deleteSessionAttributes : Bool := false
  tcapIndex : UInt32 := 0
  acapIndexes : List (List UInt32) := []
deriving Repr, DecidableEq

namespace SalMediaProto

def hasAvpf : SalMediaProto → Bool
  | .rtpAvpf | .rtpSavpf | .udpTlsRtpSavpf => true
  | .rtpAvp | .rtpSavp | .udpTlsRtpSavp | .other => false

def hasSrtp : SalMediaProto → Bool
  | .rtpSavp | .rtpSavpf => true
  | .rtpAvp | .rtpAvpf | .udpTlsRtpSavpf | .udpTlsRtpSavp | .other => false

def hasDtls : SalMediaProto → Bool
  | .udpTlsRtpSavpf | .udpTlsRtpSavp => true
  | .rtpSavp | .rtpSavpf | .rtpAvp | .rtpAvpf | .other => false

end SalMediaProto

namespace SalStreamConfiguration

def hasAvpf (cfg : SalStreamConfiguration) : Bool := cfg.proto.hasAvpf

def hasSrtp (cfg : SalStreamConfiguration) : Bool := cfg.proto.hasSrtp

def isRecvOnly (pt : PayloadType) : Bool := pt.flags.canRecv && !pt.flags.canSend

def isSamePayloadType (p1 p2 : PayloadType) : Bool :=
  p1.type == p2.type && p1.mimeType == p2.mimeType && p1.clockRate == p2.clockRate &&
    p1.channels == p2.channels && p1.number == p2.number

/-- Extra payloads of the first list are ignored as long as they are receive-only. -/
def isSamePayloadList : List PayloadType → List PayloadType → Bool
  | p1 :: l1, p2 :: l2 => isSamePayloadType p1 p2 && isSamePayloadList l1 l2
  | [], _ :: _ => false
  | l1, [] => l1.all isRecvOnly

/-- `operator==`, that is `equal(other) == SAL_MEDIA_DESCRIPTION_UNCHANGED`. -/
def unchanged (cfg other : SalStreamConfiguration) : Bool :=
  cfg.proto == other.proto && cfg.crypto == other.crypto && isSamePayloadList cfg.payloads other.payloads &&
    (decide (cfg.ptime > 0) == decide (other.ptime > 0)) &&
    !(decide (cfg.ptime > 0) && decide (other.ptime > 0) && cfg.ptime != other.ptime) &&
    cfg.dir == other.dir && cfg.dtlsRole == other.dtlsRole && cfg.dtlsFingerprint == other.dtlsFingerprint &&
    cfg.haveZrtpHash == other.haveZrtpHash &&
    !(cfg.haveZrtpHash != 0 && other.haveZrtpHash != 0 && cfg.zrtphash != other.zrtphash) &&
    cfg.mixerToClientExtensionId == other.mixerToClientExtensionId &&
    cfg.clientToMixerExtensionId == other.clientToMixerExtensionId &&
    cfg.frameMarkingExtensionId == other.frameMarkingExtensionId

/-- `cfg == Utils::getEmptyConstRefObject<SalStreamConfiguration>()`, the test
for an index that no configuration is stored at. -/
def isEmptyObject (cfg : SalStreamConfiguration) : Bool := cfg.unchanged {}

theorem isEmptyObject_proto {cfg : SalStreamConfiguration} (empty : cfg.isEmptyObject = true) : cfg.proto = .rtpAvp := by
  simp only [isEmptyObject, unchanged, Bool.and_eq_true, beq_iff_eq, and_assoc] at empty
  exact empty.1

theorem isEmptyObject_payloads {cfg : SalStreamConfiguration} (empty : cfg.isEmptyObject = true) :
    cfg.payloads.all isRecvOnly = true := by
  simp only [isEmptyObject, unchanged, Bool.and_eq_true, beq_iff_eq, and_assoc] at empty
  have listed := empty.2.2.1
  cases payloads : cfg.payloads with
  | nil => rfl
  | cons first rest =>
    rw [payloads] at listed
    exact listed

/-- A disabled stream is moved out of the bundle. -/
def disable (cfg : SalStreamConfiguration) : SalStreamConfiguration :=
  { cfg with mid := "", bundleOnly := false, dir := .inactive }

def getSetupAttributeForDtlsRole : SalDtlsRole → String
  | .isClient => "active"
  | .isServer => "passive"
  | .invalid => ""
  | .unset => "actpass"

def getDtlsRoleFromSetupAttribute (setupAttr : String) : SalDtlsRole :=
  if setupAttr == "actpass" then .unset
  else if setupAttr == "active" then .isClient
  else if setupAttr == "passive" then .isServer
  else .invalid

/-- The setup attribute carries every role, an absent one being read as invalid. -/
theorem dtlsRole_carried (role : SalDtlsRole) :
    getDtlsRoleFromSetupAttribute (getSetupAttributeForDtlsRole role) = role := by
  cases role <;> decide

end SalStreamConfiguration
end Liblinphone
