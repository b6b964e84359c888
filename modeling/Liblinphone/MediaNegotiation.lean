import Liblinphone.OfferAnswer
import Mathlib.Data.List.Infix

/-! Negotiation of whole streams and whole descriptions. Streams are handled in
the order of the media lines, and the chosen configuration of an earlier stream
is already in place when the bundle of a later one is looked up. -/

namespace Liblinphone

/-- A negotiated stream, with the two streams it comes from as they are left. -/
structure StreamNegotiation where
  result : SalStreamDescription
  localStream : SalStreamDescription
  remoteStream : SalStreamDescription

/-- A description in the making, with the two descriptions it comes from. -/
structure MediaNegotiation where
  result : SalMediaDescription
  localDesc : SalMediaDescription
  remoteDesc : SalMediaDescription

/-- `line.find(word) != std::string::npos`. -/
def containsText (word line : String) : Bool := decide (word.toList <:+: line.toList)

namespace OfferAnswerEngine

variable (engine : OfferAnswerEngine)

abbrev StreamPair := SalStreamDescription × SalStreamDescription

def attemptIncoming (result : SalStreamDescription) (bundleOwnerMid : String) (streams : StreamPair)
    (indexes : UInt32 × UInt32) : Option SalStreamConfiguration × StreamPair :=
  let attempt :=
    engine.initiateIncomingConfiguration streams.1 streams.2 result bundleOwnerMid indexes.1 indexes.2
  (attempt.outcome, attempt.localStream, attempt.remoteStream)

def attemptOutgoing (result : SalStreamDescription) (streams : StreamPair) (localCfgIdx : UInt32) :
    Option SalStreamConfiguration × StreamPair :=
  let attempt := engine.initiateOutgoingConfiguration streams.1 streams.2 result localCfgIdx
    SalStreamDescription.actualConfigurationIndex
  (attempt.outcome, attempt.localStream, attempt.remoteStream)

/-- The pairs of local and remote indexes in the order they are tried: every
local configuration against the first remote one, and so on. -/
def incomingCandidates (localCap remoteOffer : SalStreamDescription) (allowCapabilityNegotiation : Bool) :
    List (UInt32 × UInt32) :=
  if allowCapabilityNegotiation then
    remoteOffer.cfgs.keys.flatMap fun remoteCfgIdx => localCap.cfgs.keys.map fun localCfgIdx => (localCfgIdx, remoteCfgIdx)
  else [(SalStreamDescription.actualConfigurationIndex, SalStreamDescription.actualConfigurationIndex)]

/-- The stream an answer starts from, before any configuration is negotiated. -/
def incomingSkeleton (localCap remoteOffer : SalStreamDescription) : SalStreamDescription :=
  { name := localCap.name
    type := localCap.type
    typeother := if localCap.type == .other then remoteOffer.typeother else ""
    icePwd := localCap.icePwd
    iceUfrag := localCap.iceUfrag
    iceMismatch := localCap.iceMismatch
    iceCandidates := localCap.iceCandidates
    iceRemoteCandidates := localCap.iceRemoteCandidates }

/-- Transport addresses and ports of an accepted stream. A secondary stream of a
bundle has port zero, and multiplexed RTCP has no port of its own. -/
def acceptIncomingStream (localCap remoteOffer result : SalStreamDescription) (resultCfg : SalStreamConfiguration) :
    SalStreamDescription :=
  let result := result.addActualConfiguration resultCfg
  let result :=
    if engine.isMulticast remoteOffer.rtpAddr then
      { result with
        rtpAddr := remoteOffer.rtpAddr
        rtcpAddr := remoteOffer.rtcpAddr
        rtpPort := remoteOffer.rtpPort
        rtcpPort := 0
        bandwidth := remoteOffer.bandwidth
        multicastRole := .receiver }
    else
      { result with
        rtpAddr := localCap.rtpAddr
        rtcpAddr := localCap.rtcpAddr
        rtpPort := localCap.rtpPort
        rtcpPort := localCap.rtcpPort
        bandwidth := localCap.bandwidth }
  { result with
    rtpPort := if resultCfg.bundleOnly then 0 else result.rtpPort
    rtcpPort := if resultCfg.rtcpMux then 0 else result.rtcpPort }

/-- The protocol must not change even when a stream is rejected. -/
def rejectIncomingStream (remoteOffer result : SalStreamDescription) : SalStreamDescription :=
  (result.addActualConfiguration
    { result.getActualConfiguration with proto := remoteOffer.getActualConfiguration.proto }).disable

def initiateIncomingStream (localCap remoteOffer : SalStreamDescription) (bundleOwnerMid : String)
    (allowCapabilityNegotiation : Bool) : StreamNegotiation :=
  let result := incomingSkeleton localCap remoteOffer
  let negotiated := Library.search (engine.attemptIncoming result bundleOwnerMid) (localCap, remoteOffer)
    (incomingCandidates localCap remoteOffer allowCapabilityNegotiation)
  let result := { result with
    label := if remoteOffer.label.isEmpty then localCap.label else remoteOffer.label
    content := localCap.content }
  match negotiated with
  | (some ((localCfgIdx, remoteCfgIdx), resultCfg), localCap, remoteOffer) =>
    ⟨engine.acceptIncomingStream localCap remoteOffer result resultCfg,
      { localCap with cfgIndex := localCfgIdx }, { remoteOffer with cfgIndex := remoteCfgIdx }⟩
  | (none, localCap, remoteOffer) => ⟨rejectIncomingStream remoteOffer result, localCap, remoteOffer⟩

/-- A multicast answer must keep the address, port, direction and bandwidth. -/
def multicastMismatch (localOffer remoteAnswer : SalStreamDescription) : Bool :=
  localOffer.rtpAddr != remoteAnswer.rtpAddr || localOffer.rtpPort != remoteAnswer.rtpPort ||
    localOffer.getDirection != remoteAnswer.getDirection || localOffer.bandwidth != remoteAnswer.bandwidth

/-- The local configurations an answer is read against. An acfg line names the
potential configuration that the answerer has selected. -/
def outgoingCandidates (remoteAnswer : SalStreamDescription) (allowCapabilityNegotiation : Bool) : List UInt32 :=
  let selected := (remoteAnswer.unparsedCfgs.toList.filter (fun cfg => containsText "acfg" cfg.2)).map (·.1)
  if allowCapabilityNegotiation && !selected.isEmpty then selected
  else [SalStreamDescription.actualConfigurationIndex]

def outgoingSkeleton (localOffer : SalStreamDescription) : SalStreamDescription :=
  { label := localOffer.label
    content := localOffer.content
    type := localOffer.type
    multicastRole := if engine.isMulticast localOffer.rtpAddr then .sender else .inactive }

def acceptOutgoingStream (remoteAnswer result : SalStreamDescription) (resultCfg : SalStreamConfiguration) :
    SalStreamDescription :=
  let result := result.addActualConfiguration resultCfg
  if !resultCfg.payloads.isEmpty && !onlyTelephoneEvent resultCfg.payloads then
    { result with
      rtpAddr := remoteAnswer.rtpAddr
      rtpPort := remoteAnswer.rtpPort
      rtcpAddr := remoteAnswer.rtcpAddr
      rtcpPort := remoteAnswer.rtcpPort
      bandwidth := remoteAnswer.bandwidth }
  else result.disable

def initiateOutgoingStream (localOffer remoteAnswer : SalStreamDescription) (allowCapabilityNegotiation : Bool) :
    StreamNegotiation :=
  let result := engine.outgoingSkeleton localOffer
  if engine.isMulticast localOffer.rtpAddr && multicastMismatch localOffer remoteAnswer then
    ⟨{ result with multicastRole := .inactive }, localOffer, remoteAnswer⟩
  else if !remoteAnswer.enabled then ⟨result.disable, localOffer, remoteAnswer⟩
  else
    match Library.search (engine.attemptOutgoing result) (localOffer, remoteAnswer)
      (outgoingCandidates remoteAnswer allowCapabilityNegotiation) with
    | (some (localCfgIdx, resultCfg), localOffer, remoteAnswer) =>
      ⟨acceptOutgoingStream remoteAnswer result resultCfg, { localOffer with cfgIndex := localCfgIdx },
        { remoteAnswer with cfgIndex := SalStreamDescription.actualConfigurationIndex }⟩
    | (none, localOffer, remoteAnswer) => ⟨result.disable, localOffer, remoteAnswer⟩

/-- Reject the streams whose transport owner is not the one that both the local
and the remote description give, looking each owner up in the description as it
stands after the earlier streams have been handled. -/
def verifyBundle (localDesc remoteDesc result : SalMediaDescription) (index : Nat) : SalMediaDescription :=
  match result.streams[index]?, localDesc.streams[index]?, remoteDesc.streams[index]? with
  | some stream, some localStream, some remoteStream =>
    let resultOwner := result.getIndexOfTransportOwner stream
    let localOwner := localDesc.getIndexOfTransportOwner localStream
    let remoteOwner := remoteDesc.getIndexOfTransportOwner remoteStream
    if (resultOwner ≥ 0 && (localOwner != resultOwner || remoteOwner != resultOwner)) ||
        (resultOwner < 0 && localOwner ≥ 0 && remoteOwner ≥ 0) then
      { result with streams := result.streams.set index stream.disable }
    else result
  | _, _, _ => result

def verifyBundles (localDesc remoteDesc result : SalMediaDescription) : SalMediaDescription :=
  (List.range result.streams.length).foldl (verifyBundle localDesc remoteDesc) result

/-- Every stream with a mid joins the single bundle of the result. -/
def gatherBundle (bundles : List SalStreamBundle) (stream : SalStreamDescription) : List SalStreamBundle :=
  let cfg := stream.getChosenConfiguration
  if cfg.mid.isEmpty then bundles
  else
    match bundles with
    | [] => [SalStreamBundle.addStream {} cfg cfg.mid]
    | bundle :: rest => bundle.addStream cfg cfg.mid :: rest

/-- `cfgs[getChosenConfigurationIndex()]` stores an empty configuration when
there is none. -/
def touchChosen (stream : SalStreamDescription) : SalStreamDescription :=
  stream.addConfigurationAtIndex stream.cfgIndex stream.getChosenConfiguration

def gatherBundles (result : SalMediaDescription) : SalMediaDescription :=
  { result with
    bundles := result.streams.foldl gatherBundle result.bundles
    streams := result.streams.map touchChosen }

/-- The mid of the transport owner of an offered stream, when bundles are
accepted and the owner is known. -/
def bundleOwnerMidOf (localDesc remoteDesc : SalMediaDescription) (remoteStream : SalStreamDescription) : String :=
  let ownerIndex := remoteDesc.getIndexOfTransportOwner remoteStream
  if localDesc.acceptBundles && ownerIndex ≥ 0 then
    (remoteDesc.streams[ownerIndex.toNat]?.getD {}).getMid
  else ""

/-- RTCP XR is enabled in an answer when the offer enables it and either the
stream or the session enables it locally. -/
def incomingRtcpXr (localDesc : SalMediaDescription) (localStream remoteStream : SalStreamDescription) :
    OrtpRtcpXrConfiguration :=
  if remoteStream.getChosenConfiguration.rtcpXr.enabled then
    if localStream.getChosenConfiguration.rtcpXr.enabled then localStream.getChosenConfiguration.rtcpXr
    else if localDesc.rtcpXr.enabled then localDesc.rtcpXr
    else {}
  else {}

/-- The answer to a media line that has no counterpart among the capabilities. -/
def declineStream (remoteStream : SalStreamDescription) : SalStreamDescription :=
  ({ type := remoteStream.type
     typeother := if remoteStream.type == .other then remoteStream.typeother else "" } :
    SalStreamDescription).addActualConfiguration
    { dir := .inactive
      proto := remoteStream.getProto
      protoOther := if remoteStream.getProto == .other then remoteStream.getChosenConfiguration.protoOther else "" }

/-- The final touch on an answered stream: feedback and extended reports. -/
def finishIncomingStream (localDesc : SalMediaDescription) (negotiated : StreamNegotiation) : SalStreamDescription :=
  negotiated.result.addActualConfiguration { negotiated.result.getActualConfiguration with
    rtcpFb :=
      { genericNackEnabled := negotiated.remoteStream.getChosenConfiguration.rtcpFb.genericNackEnabled
        tmmbrEnabled := negotiated.remoteStream.getChosenConfiguration.rtcpFb.tmmbrEnabled
        googRembEnabled := negotiated.remoteStream.getChosenConfiguration.rtcpFb.googRembEnabled }
    rtcpXr := incomingRtcpXr localDesc negotiated.localStream negotiated.remoteStream }

def corresponds (localStream remoteStream : SalStreamDescription) : Bool :=
  remoteStream.type == localStream.type && areProtoInStreamCompatibles localStream remoteStream

/-- One turn of the loop over the offered media lines. -/
def incomingTurn (state : MediaNegotiation) (index : Nat) : MediaNegotiation :=
  match state.remoteDesc.streams[index]? with
  | none => state
  | some remoteStream =>
    match state.localDesc.streams[index]? with
    | none => { state with result.streams := state.result.streams ++ [declineStream remoteStream] }
    | some localStream =>
      if corresponds localStream remoteStream then
        let negotiated := engine.initiateIncomingStream localStream remoteStream
          (bundleOwnerMidOf state.localDesc state.remoteDesc remoteStream)
          state.localDesc.params.capabilityNegotiation
        let answered := { finishIncomingStream state.localDesc negotiated with
          customSdpAttributes := localStream.customSdpAttributes }
        { result := { state.result with streams := state.result.streams ++ [answered] }
          localDesc := { state.localDesc with streams := state.localDesc.streams.set index negotiated.localStream }
          remoteDesc := { state.remoteDesc with streams := state.remoteDesc.streams.set index negotiated.remoteStream } }
      else
        { state with result.streams := state.result.streams ++
          [{ declineStream remoteStream with customSdpAttributes := localStream.customSdpAttributes }] }

/-- What the answer says at the level of the session. -/
def incomingSession (localCapabilities remoteOffer : SalMediaDescription) : SalMediaDescription :=
  { params := localCapabilities.params
    record :=
      if remoteOffer.record != .none && localCapabilities.record != .none then localCapabilities.record else .none
    username := localCapabilities.username
    addr := localCapabilities.addr
    times := remoteOffer.times
    bandwidth := localCapabilities.bandwidth
    originAddr := localCapabilities.originAddr
    sessionVer := localCapabilities.sessionVer
    sessionId := localCapabilities.sessionId
    icePwd := localCapabilities.icePwd
    iceUfrag := localCapabilities.iceUfrag
    iceLite := localCapabilities.iceLite
    setNortpproxy := localCapabilities.setNortpproxy
    customSdpAttributes := localCapabilities.customSdpAttributes
    name := localCapabilities.name
    rtcpXr :=
      if remoteOffer.rtcpXr.enabled && localCapabilities.rtcpXr.enabled && localCapabilities.dir == .sendRecv then
        localCapabilities.rtcpXr
      else {} }

/-- The loop of `initiateIncoming` over the offered media lines. -/
def negotiateIncoming (localCapabilities remoteOffer : SalMediaDescription) : MediaNegotiation :=
  (List.range remoteOffer.streams.length).foldl engine.incomingTurn
    ⟨incomingSession localCapabilities remoteOffer, localCapabilities, remoteOffer⟩

/-- An answer to be sent to the offerer, based on the local capabilities. -/
def initiateIncoming (localCapabilities remoteOffer : SalMediaDescription) : MediaNegotiation :=
  let negotiated := engine.negotiateIncoming localCapabilities remoteOffer
  { negotiated with
    result := verifyBundles negotiated.localDesc negotiated.remoteDesc (gatherBundles negotiated.result) }

/-- The final touch on a stream read from an answer. -/
def finishOutgoingStream (negotiated : StreamNegotiation) : SalStreamDescription :=
  let localCfg := negotiated.localStream.getChosenConfiguration
  let remoteCfg := negotiated.remoteStream.getChosenConfiguration
  negotiated.result.addActualConfiguration { negotiated.result.getActualConfiguration with
    rtcpXr :=
      if localCfg.rtcpXr.enabled && !remoteCfg.rtcpXr.enabled then { localCfg.rtcpXr with enabled := false }
      else localCfg.rtcpXr
    rtcpFb :=
      { genericNackEnabled := localCfg.rtcpFb.genericNackEnabled && remoteCfg.rtcpFb.genericNackEnabled
        tmmbrEnabled := localCfg.rtcpFb.tmmbrEnabled && remoteCfg.rtcpFb.tmmbrEnabled
        googRembEnabled := localCfg.rtcpFb.googRembEnabled && remoteCfg.rtcpFb.googRembEnabled } }

/-- One turn of the loop over our offered media lines. A line that the answer
does not have is left out of the result. -/
def outgoingTurn (state : MediaNegotiation) (index : Nat) : MediaNegotiation :=
  match state.localDesc.streams[index]?, state.remoteDesc.streams[index]? with
  | some localStream, some remoteStream =>
    if corresponds localStream remoteStream then
      let negotiated := engine.initiateOutgoingStream localStream remoteStream
        state.localDesc.params.capabilityNegotiation
      { result := { state.result with streams := state.result.streams ++ [finishOutgoingStream negotiated] }
        localDesc := { state.localDesc with streams := state.localDesc.streams.set index negotiated.localStream }
        remoteDesc := { state.remoteDesc with streams := state.remoteDesc.streams.set index negotiated.remoteStream } }
    else { state with result.streams := state.result.streams ++ [{}] }
  | _, _ => state

def outgoingSession (localOffer remoteAnswer : SalMediaDescription) : SalMediaDescription :=
  { params := localOffer.params
    times := localOffer.times
    bandwidth := remoteAnswer.bandwidth
    originAddr := remoteAnswer.originAddr
    addr := remoteAnswer.addr
    icePwd := localOffer.icePwd
    iceUfrag := localOffer.iceUfrag
    rtcpXr :=
      if localOffer.rtcpXr.enabled && !remoteAnswer.rtcpXr.enabled then { localOffer.rtcpXr with enabled := false }
      else localOffer.rtcpXr
    record :=
      if localOffer.record != .none && remoteAnswer.record != .none then remoteAnswer.record else .none }

/-- The loop of `initiateOutgoing` over our offered media lines. -/
def negotiateOutgoing (localOffer remoteAnswer : SalMediaDescription) : MediaNegotiation :=
  (List.range localOffer.streams.length).foldl engine.outgoingTurn
    ⟨outgoingSession localOffer remoteAnswer, localOffer, remoteAnswer⟩

/-- Only the presence of a bundle in the answer is checked. -/
def outgoingBundles (negotiated : MediaNegotiation) : SalMediaDescription :=
  if negotiated.localDesc.bundles.isEmpty || negotiated.remoteDesc.bundles.isEmpty then negotiated.result
  else gatherBundles negotiated.result

/-- The description to run the streams with, based on our offer and its answer. -/
def initiateOutgoing (localOffer remoteAnswer : SalMediaDescription) : MediaNegotiation :=
  let negotiated := engine.negotiateOutgoing localOffer remoteAnswer
  { negotiated with
    result := verifyBundles negotiated.localDesc negotiated.remoteDesc (outgoingBundles negotiated) }

end OfferAnswerEngine
end Liblinphone
