import Liblinphone.Library.Search
import Liblinphone.MediaDescription
import Liblinphone.PayloadMatching

/-! The offer/answer engine. Negotiating a pair of configurations reads both
streams and may write to them, so each function returns the streams as it
leaves them beside its result. -/

namespace Liblinphone

def matchCryptoAlgo (localCrypto remoteCrypto : List SalSrtpCryptoAlgo) (result : SalSrtpCryptoAlgo)
    (useLocalKey : Bool) : Bool × SalSrtpCryptoAlgo :=
  match remoteCrypto with
  | [] => (false, result)
  | rc :: rest =>
    if rc.algo == 0 then (false, result)
    else
      match localCrypto.find? (fun lc => rc.algo == lc.algo) with
      | some lc =>
        if useLocalKey then (true, { algo := rc.algo, masterKey := lc.masterKey, tag := rc.tag })
        else (true, { algo := rc.algo, masterKey := rc.masterKey, tag := lc.tag })
      | none => matchCryptoAlgo localCrypto rest result useLocalKey

def computeDirOutgoing (offered answered : SalStreamDir) : SalStreamDir :=
  match answered, offered with
  | .inactive, _ => .inactive
  | .recvOnly, .sendRecv => .sendOnly
  | .sendOnly, .sendRecv => .recvOnly
  | _, _ => offered

def computeDirIncoming (capable offered : SalStreamDir) : SalStreamDir :=
  match capable, offered with
  | .sendRecv, .sendOnly => .recvOnly
  | .sendRecv, .recvOnly => .sendOnly
  | .sendRecv, .inactive => .inactive
  | .sendRecv, .sendRecv => .sendRecv
  | .sendOnly, .recvOnly | .sendOnly, .sendRecv => .sendOnly
  | .sendOnly, _ => .inactive
  | .recvOnly, .sendOnly | .recvOnly, .sendRecv => .recvOnly
  | .recvOnly, _ => .inactive
  | .inactive, _ => .inactive

def areProtoCompatibles (localProto otherProto : SalMediaProto) : Bool :=
  match localProto with
  | .rtpAvp | .rtpAvpf => otherProto == .rtpAvp || otherProto == .rtpAvpf
  | .rtpSavp | .rtpSavpf => otherProto == .rtpSavp || otherProto == .rtpSavpf
  | .udpTlsRtpSavp | .udpTlsRtpSavpf => otherProto == .udpTlsRtpSavp || otherProto == .udpTlsRtpSavpf
  | .other => otherProto == .other

def areProtoInStreamCompatibles (localStream otherStream : SalStreamDescription) : Bool :=
  otherStream.cfgs.toList.any fun otherCfg =>
    localStream.cfgs.toList.any fun localCfg => areProtoCompatibles localCfg.2.proto otherCfg.2.proto

/-- An extension is used when both parties support it, with the remote id. -/
def getExtensionId (localExtensionId remoteExtensionId : Int) : Int :=
  if localExtensionId == 0 || remoteExtensionId == 0 then 0
  else if localExtensionId != remoteExtensionId then remoteExtensionId
  else localExtensionId

/-- SRTP must be supported, and the two lists of crypto lines must share a suite. -/
def negotiateCrypto (availableEncs : List LinphoneMediaEncryption) (localCfg remoteCfg : SalStreamConfiguration)
    (useLocalKey : Bool) (resultCfg : SalStreamConfiguration) : Option SalStreamConfiguration :=
  if !resultCfg.hasSrtp then some resultCfg
  else if !availableEncs.contains .srtp then none
  else
    match matchCryptoAlgo localCfg.crypto remoteCfg.crypto {} useLocalKey with
    | (true, crypto) => some { resultCfg with crypto := [crypto] }
    | (false, _) => none

/-- Outside of the two actual configurations both sides must agree on the
presence of a zrtp hash, and ZRTP must be supported when there is one. -/
def fillZrtpAttributes (localStream : SalStreamDescription) (localCfgIdx : UInt32)
    (remoteStream : SalStreamDescription) (remoteCfgIdx : UInt32) (resultCfg : SalStreamConfiguration) :
    Option SalStreamConfiguration :=
  let localCfg := localStream.getConfigurationAtIndex localCfgIdx
  let remoteCfg := remoteStream.getConfigurationAtIndex remoteCfgIdx
  let potential := !(localCfgIdx == SalStreamDescription.actualConfigurationIndex) ||
    !(remoteCfgIdx == SalStreamDescription.actualConfigurationIndex)
  if potential && localCfg.haveZrtpHash != remoteCfg.haveZrtpHash then none
  else if remoteCfg.haveZrtpHash == 1 || localCfg.haveZrtpHash == 1 then
    if potential && !localStream.supportedEncryption.contains .zrtp then none
    else
      some { resultCfg with
        zrtphash := if localCfg.zrtphash != "" then localCfg.zrtphash else resultCfg.zrtphash
        haveZrtpHash := if localCfg.zrtphash != "" || remoteCfg.zrtphash != "" then 1 else 0 }
  else some resultCfg

/-- Both sides gave a DTLS fingerprint and a setup attribute. -/
def bothHaveDtls (localCfg remoteCfg : SalStreamConfiguration) : Bool :=
  localCfg.dtlsRole != .invalid && remoteCfg.dtlsRole != .invalid &&
    localCfg.dtlsFingerprint != "" && remoteCfg.dtlsFingerprint != ""

def incomingDtls (availableEncs : List LinphoneMediaEncryption) (localCfg remoteCfg resultCfg : SalStreamConfiguration) :
    Option SalStreamConfiguration :=
  if bothHaveDtls localCfg remoteCfg then
    if !availableEncs.contains .dtls then none
    else if remoteCfg.dtlsRole == .unset then
      some { resultCfg with dtlsFingerprint := localCfg.dtlsFingerprint, dtlsRole := .isClient }
    else some { resultCfg with dtlsFingerprint := localCfg.dtlsFingerprint }
  else some { resultCfg with dtlsFingerprint := "", dtlsRole := .invalid }

def outgoingDtls (availableEncs : List LinphoneMediaEncryption) (localCfg remoteCfg resultCfg : SalStreamConfiguration) :
    Option SalStreamConfiguration :=
  if bothHaveDtls localCfg remoteCfg then
    if !availableEncs.contains .dtls then none
    else if remoteCfg.dtlsRole == .isClient then
      some { resultCfg with dtlsFingerprint := remoteCfg.dtlsFingerprint, dtlsRole := .isServer }
    else some { resultCfg with dtlsFingerprint := remoteCfg.dtlsFingerprint, dtlsRole := .isClient }
  else some { resultCfg with dtlsFingerprint := "", dtlsRole := .invalid }

/-- What negotiating one pair of configurations gives: the resulting
configuration, if any, and both streams as they are left. -/
structure Attempt where
  outcome : Option SalStreamConfiguration
  localStream : SalStreamDescription
  remoteStream : SalStreamDescription

namespace SalStreamDescription

/-- Writing the payloads of a stored configuration in place. -/
def setPayloadsAt (stream : SalStreamDescription) (index : UInt32) (payloads : List PayloadType) :
    SalStreamDescription :=
  stream.addConfigurationAtIndex index { stream.getConfigurationAtIndex index with payloads }

/-- The `const_cast` by which negotiation rewrites a transport protocol. -/
def setProtoAt (stream : SalStreamDescription) (index : UInt32) (proto : SalMediaProto) : SalStreamDescription :=
  stream.addConfigurationAtIndex index { stream.getConfigurationAtIndex index with proto }

end SalStreamDescription

namespace OfferAnswerEngine

variable (engine : OfferAnswerEngine)

def isMulticast (addr : String) : Bool := !addr.isEmpty && engine.msFactory.isMulticast addr

/-- The condition under which an answer joins the bundle of the offer. -/
def joinsBundle (localCfg remoteCfg : SalStreamConfiguration) (bundleOwnerMid : String) : Bool :=
  localCfg.mid != "" && remoteCfg.mid != "" && bundleOwnerMid != "" &&
    localCfg.midRtpExtHeaderId != 0 && remoteCfg.midRtpExtHeaderId != 0

def incomingBundle (localCfg remoteCfg : SalStreamConfiguration) (bundleOwnerMid : String)
    (resultCfg : SalStreamConfiguration) : SalStreamConfiguration :=
  if joinsBundle localCfg remoteCfg bundleOwnerMid then
    { resultCfg with
      mid := remoteCfg.mid
      midRtpExtHeaderId := remoteCfg.midRtpExtHeaderId
      bundleOnly := if remoteCfg.mid != bundleOwnerMid then true else resultCfg.bundleOnly
      rtcpMux := true }
  else resultCfg

/-- An AVPF offer is downgraded to the local protocol. -/
def downgradesOffer (localCfg remoteCfg : SalStreamConfiguration) : Bool :=
  localCfg.proto != remoteCfg.proto && remoteCfg.hasAvpf

/-- A multicast stream keeps the direction and the packetization of the offer,
and cannot be encrypted by SAVP. -/
def incomingPacketization (multicast : Bool) (localCfg remoteCfg resultCfg : SalStreamConfiguration) :
    Option SalStreamConfiguration :=
  let resultCfg := { resultCfg with
    dir := computeDirIncoming localCfg.dir remoteCfg.dir
    deleteMediaAttributes := localCfg.deleteMediaAttributes
    deleteSessionAttributes := localCfg.deleteSessionAttributes }
  if multicast then
    if resultCfg.hasSrtp then none
    else some { resultCfg with
      dir := remoteCfg.dir, ptime := remoteCfg.ptime, maxptime := remoteCfg.maxptime, ttl := remoteCfg.ttl }
  else some { resultCfg with ptime := localCfg.ptime, maxptime := localCfg.maxptime }

/-- A stream without a codec other than telephone events is not negotiated. -/
def requirePayloads (resultCfg : SalStreamConfiguration) : Option SalStreamConfiguration :=
  if resultCfg.payloads.isEmpty || onlyTelephoneEvent resultCfg.payloads then none else some resultCfg

def requireEnabled (stream : SalStreamDescription) (resultCfg : SalStreamConfiguration) :
    Option SalStreamConfiguration :=
  if stream.enabled then some resultCfg else none

def negotiateExtensions (localCfg remoteCfg resultCfg : SalStreamConfiguration) : SalStreamConfiguration :=
  { resultCfg with
    mixerToClientExtensionId := getExtensionId localCfg.mixerToClientExtensionId remoteCfg.mixerToClientExtensionId
    clientToMixerExtensionId := getExtensionId localCfg.clientToMixerExtensionId remoteCfg.clientToMixerExtensionId
    frameMarkingExtensionId := getExtensionId localCfg.frameMarkingExtensionId remoteCfg.frameMarkingExtensionId }

/-- Implicit feedback needs both sides; the capabilities are those of the remote
configuration. -/
def negotiateCapabilities (localCfg remoteCfg resultCfg : SalStreamConfiguration) : SalStreamConfiguration :=
  { resultCfg with
    implicitRtcpFb := localCfg.implicitRtcpFb && remoteCfg.implicitRtcpFb
    tcapIndex := remoteCfg.tcapIndex
    acapIndexes := remoteCfg.acapIndexes
    index := remoteCfg.index }

/-- The part of `initiateIncomingConfiguration` that follows the choice of the
transport protocol and writes to neither stream. -/
def acceptIncoming (localCap remoteOffer : SalStreamDescription) (localCfgIdx remoteCfgIdx : UInt32)
    (resultCfg : SalStreamConfiguration) : Option SalStreamConfiguration := do
  let localCfg := localCap.getConfigurationAtIndex localCfgIdx
  let remoteCfg := remoteOffer.getConfigurationAtIndex remoteCfgIdx
  let availableEncs := localCap.supportedEncryption
  let resultCfg ← incomingPacketization (engine.isMulticast remoteOffer.rtpAddr) localCfg remoteCfg resultCfg
  let resultCfg ← requirePayloads resultCfg
  let resultCfg ← requireEnabled remoteOffer resultCfg
  let resultCfg ← negotiateCrypto availableEncs localCfg remoteCfg true
    { negotiateExtensions localCfg remoteCfg { resultCfg with rtcpMux := remoteCfg.rtcpMux && localCfg.rtcpMux } with
      conferenceSsrc := localCfg.conferenceSsrc }
  let resultCfg ← fillZrtpAttributes localCap localCfgIdx remoteOffer remoteCfgIdx resultCfg
  let resultCfg ← incomingDtls availableEncs localCfg remoteCfg { resultCfg with
    setNortpproxy := localCfg.setNortpproxy
    rtpSsrc := localCfg.rtpSsrc
    rtcpCname := localCfg.rtcpCname }
  return negotiateCapabilities localCfg remoteCfg resultCfg

def initiateIncomingConfiguration (localCap remoteOffer result : SalStreamDescription) (bundleOwnerMid : String)
    (localCfgIdx remoteCfgIdx : UInt32) : Attempt :=
  let localCfg := localCap.getConfigurationAtIndex localCfgIdx
  let remoteCfg := remoteOffer.getConfigurationAtIndex remoteCfgIdx
  if localCfg.isEmptyObject || remoteCfg.isEmptyObject then ⟨none, localCap, remoteOffer⟩
  else
    let resultCfg := incomingBundle localCfg remoteCfg bundleOwnerMid result.getActualConfiguration
    let matched := engine.matchPayloads localCfg.payloads remoteCfg.payloads false
      (joinsBundle localCfg remoteCfg bundleOwnerMid)
    let localCap := localCap.setPayloadsAt localCfgIdx matched.2
    if !areProtoCompatibles localCfg.proto remoteCfg.proto then ⟨none, localCap, remoteOffer⟩
    else
      let remoteOffer :=
        if downgradesOffer localCfg remoteCfg then remoteOffer.setProtoAt remoteCfgIdx localCfg.proto else remoteOffer
      let resultCfg := { resultCfg with
        payloads := matched.1
        proto := (remoteOffer.getConfigurationAtIndex remoteCfgIdx).proto }
      ⟨engine.acceptIncoming localCap remoteOffer localCfgIdx remoteCfgIdx resultCfg, localCap, remoteOffer⟩

/-- The answer keeps the bundle only when we offered a mid. -/
def staysInBundle (localCfg remoteCfg : SalStreamConfiguration) : Bool :=
  remoteCfg.mid != "" && localCfg.mid != ""

/-- The multiplexing and bundle parameters, which `initiateOutgoingConfiguration`
writes twice with the same values. -/
def outgoingBundle (localCfg remoteCfg resultCfg : SalStreamConfiguration) : SalStreamConfiguration :=
  let resultCfg := { resultCfg with rtcpMux := remoteCfg.rtcpMux && localCfg.rtcpMux }
  if staysInBundle localCfg remoteCfg then
    { resultCfg with
      mid := remoteCfg.mid
      midRtpExtHeaderId := remoteCfg.midRtpExtHeaderId
      bundleOnly := remoteCfg.bundleOnly
      rtcpMux := true }
  else resultCfg

/-- A downgraded answer to our AVPF offer. -/
def downgradesAnswer (localCfg remoteCfg : SalStreamConfiguration) : Bool :=
  localCfg.proto != remoteCfg.proto && localCfg.hasAvpf

/-- The answer to a multicast offer must not change its packetization time nor
its time to live. -/
def outgoingPacketization (multicast : Bool) (localCfg remoteCfg resultCfg : SalStreamConfiguration) :
    Option SalStreamConfiguration :=
  if multicast then
    if localCfg.ptime > 0 && localCfg.ptime != remoteCfg.ptime then none
    else if localCfg.ttl > 0 && localCfg.ttl != remoteCfg.ttl then none
    else some { resultCfg with ttl := localCfg.ttl, dir := localCfg.dir }
  else some { resultCfg with dir := computeDirOutgoing localCfg.dir remoteCfg.dir }

/-- The part of `initiateOutgoingConfiguration` that follows the choice of the
transport protocol and writes to neither stream. -/
def acceptOutgoing (localOffer remoteAnswer : SalStreamDescription) (localCfgIdx remoteCfgIdx : UInt32)
    (resultCfg : SalStreamConfiguration) : Option SalStreamConfiguration := do
  let localCfg := localOffer.getConfigurationAtIndex localCfgIdx
  let remoteCfg := remoteAnswer.getConfigurationAtIndex remoteCfgIdx
  let availableEncs := localOffer.supportedEncryption
  let resultCfg ← outgoingPacketization (engine.isMulticast localOffer.rtpAddr) localCfg remoteCfg resultCfg
  let resultCfg ← requirePayloads
    { negotiateExtensions localCfg remoteCfg (outgoingBundle localCfg remoteCfg resultCfg) with
      conferenceSsrc := remoteCfg.conferenceSsrc }
  let resultCfg ← negotiateCrypto availableEncs localCfg remoteCfg false
    { resultCfg with ptime := remoteCfg.ptime, maxptime := remoteCfg.maxptime }
  let resultCfg ← fillZrtpAttributes localOffer localCfgIdx remoteAnswer remoteCfgIdx
    { resultCfg with rtpSsrc := localCfg.rtpSsrc, rtcpCname := localCfg.rtcpCname }
  let resultCfg ← outgoingDtls availableEncs localCfg remoteCfg resultCfg
  return negotiateCapabilities localCfg remoteCfg resultCfg

def initiateOutgoingConfiguration (localOffer remoteAnswer result : SalStreamDescription)
    (localCfgIdx remoteCfgIdx : UInt32) : Attempt :=
  let localCfg := localOffer.getConfigurationAtIndex localCfgIdx
  let remoteCfg := remoteAnswer.getConfigurationAtIndex remoteCfgIdx
  if localCfg.isEmptyObject || remoteCfg.isEmptyObject then ⟨none, localOffer, remoteAnswer⟩
  else
    let resultCfg := outgoingBundle localCfg remoteCfg { result.getActualConfiguration with
      deleteMediaAttributes := localCfg.deleteMediaAttributes
      deleteSessionAttributes := localCfg.deleteSessionAttributes }
    let matched := engine.matchPayloads localCfg.payloads remoteCfg.payloads true (staysInBundle localCfg remoteCfg)
    let localOffer := localOffer.setPayloadsAt localCfgIdx matched.2
    if !areProtoCompatibles localCfg.proto remoteCfg.proto then ⟨none, localOffer, remoteAnswer⟩
    else
      let localOffer :=
        if downgradesAnswer localCfg remoteCfg then localOffer.setProtoAt localCfgIdx remoteCfg.proto else localOffer
      let resultCfg := { resultCfg with payloads := matched.1, proto := remoteCfg.proto }
      ⟨engine.acceptOutgoing localOffer remoteAnswer localCfgIdx remoteCfgIdx resultCfg, localOffer, remoteAnswer⟩

end OfferAnswerEngine
end Liblinphone
