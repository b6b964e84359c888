import Liblinphone.MediaNegotiation
import Liblinphone.Proofs.ConfigurationNegotiation

/-! A stream is negotiated by trying pairs of configurations until one of them
is accepted. Failed tries only rewrite codecs and transport protocols, so the
accepted pair is negotiated on the streams it was read from, up to those. -/

namespace Liblinphone.OfferAnswerEngine
open SalStreamDescription

variable (engine : OfferAnswerEngine)

/-- The skeleton of an answer once its label and content are known. -/
def labelledSkeleton (localCap remoteOffer : SalStreamDescription) : SalStreamDescription :=
  { incomingSkeleton localCap remoteOffer with
    label := if remoteOffer.label.isEmpty then localCap.label else remoteOffer.label
    content := localCap.content }

@[simp] theorem incomingSkeleton_actual (localCap remoteOffer : SalStreamDescription) :
    (incomingSkeleton localCap remoteOffer).getActualConfiguration = {} := by
  simp [incomingSkeleton, getActualConfiguration, getConfigurationAtIndex]

@[simp] theorem labelledSkeleton_actual (localCap remoteOffer : SalStreamDescription) :
    (labelledSkeleton localCap remoteOffer).getActualConfiguration = {} :=
  incomingSkeleton_actual localCap remoteOffer

@[simp] theorem outgoingSkeleton_actual (localOffer : SalStreamDescription) :
    (engine.outgoingSkeleton localOffer).getActualConfiguration = {} := by
  simp [outgoingSkeleton, getActualConfiguration, getConfigurationAtIndex]

/-- Negotiating for an answer never touches the codecs of the offer. -/
structure IncomingKept (localCap remoteOffer : SalStreamDescription) (streams : StreamPair) : Prop where
  localRewritten : Rewritten localCap streams.1
  remoteRewritten : Rewritten remoteOffer streams.2
  offered : ∀ index,
    (streams.2.getConfigurationAtIndex index).payloads = (remoteOffer.getConfigurationAtIndex index).payloads

/-- A pair of configurations that a stream negotiation settled on, together with
the streams as the failed tries before it left them. -/
structure IncomingSettled (localCap remoteOffer : SalStreamDescription) (bundleOwnerMid : String)
    (cfg : SalStreamConfiguration) where
  localIdx : UInt32
  remoteIdx : UInt32
  localBefore : SalStreamDescription
  remoteBefore : SalStreamDescription
  kept : IncomingKept localCap remoteOffer (localBefore, remoteBefore)
  outcome : (engine.initiateIncomingConfiguration localBefore remoteBefore (incomingSkeleton localCap remoteOffer)
    bundleOwnerMid localIdx remoteIdx).outcome = some cfg

namespace IncomingSettled

variable {engine} {localCap remoteOffer : SalStreamDescription} {bundleOwnerMid : String} {cfg : SalStreamConfiguration}

/-- The local stream after the successful try. -/
def localAfter (settled : engine.IncomingSettled localCap remoteOffer bundleOwnerMid cfg) : SalStreamDescription :=
  (engine.initiateIncomingConfiguration settled.localBefore settled.remoteBefore
    (incomingSkeleton localCap remoteOffer) bundleOwnerMid settled.localIdx settled.remoteIdx).localStream

def remoteAfter (settled : engine.IncomingSettled localCap remoteOffer bundleOwnerMid cfg) : SalStreamDescription :=
  (engine.initiateIncomingConfiguration settled.localBefore settled.remoteBefore
    (incomingSkeleton localCap remoteOffer) bundleOwnerMid settled.localIdx settled.remoteIdx).remoteStream

/-- What the settled negotiation of a stream returns. -/
def negotiation (settled : engine.IncomingSettled localCap remoteOffer bundleOwnerMid cfg) : StreamNegotiation :=
  ⟨engine.acceptIncomingStream settled.localAfter settled.remoteAfter (labelledSkeleton localCap remoteOffer) cfg,
    { settled.localAfter with cfgIndex := settled.localIdx }, { settled.remoteAfter with cfgIndex := settled.remoteIdx }⟩

variable (settled : engine.IncomingSettled localCap remoteOffer bundleOwnerMid cfg)

theorem localAfter_rewritten : Rewritten localCap settled.localAfter :=
  settled.kept.localRewritten.trans (initiateIncomingConfiguration_rewrites ..).1

theorem remoteAfter_rewritten : Rewritten remoteOffer settled.remoteAfter :=
  settled.kept.remoteRewritten.trans (initiateIncomingConfiguration_rewrites ..).2

end IncomingSettled

theorem attemptIncoming_kept (localCap remoteOffer result : SalStreamDescription) (bundleOwnerMid : String)
    (current : StreamPair) (candidate : UInt32 × UInt32) (kept : IncomingKept localCap remoteOffer current) :
    IncomingKept localCap remoteOffer (engine.attemptIncoming result bundleOwnerMid current candidate).2 := by
  have rewrites := engine.initiateIncomingConfiguration_rewrites candidate.1 candidate.2 current.1 current.2 result
    bundleOwnerMid
  refine ⟨kept.localRewritten.trans rewrites.1, kept.remoteRewritten.trans rewrites.2, ?_⟩
  intro index
  simp only [attemptIncoming]
  rw [(initiateIncomingConfiguration_streams ..).2, ← kept.offered index]
  split
  · exact setProtoAt_payloads ..
  · rfl

/-- The rule for negotiating a stream: what every try preserves holds of the
streams that the settled try starts from, or of those left by a rejection. -/
theorem initiateIncomingStream_rule (localCap remoteOffer : SalStreamDescription) (bundleOwnerMid : String)
    (allowCapabilityNegotiation : Bool) (invariant : StreamPair → Prop) (start : invariant (localCap, remoteOffer))
    (preserved : ∀ current candidate, invariant current →
      invariant (engine.attemptIncoming (incomingSkeleton localCap remoteOffer) bundleOwnerMid current candidate).2) :
    (∃ cfg, ∃ settled : engine.IncomingSettled localCap remoteOffer bundleOwnerMid cfg,
      invariant (settled.localBefore, settled.remoteBefore) ∧
      (settled.localIdx, settled.remoteIdx) ∈ incomingCandidates localCap remoteOffer allowCapabilityNegotiation ∧
      engine.initiateIncomingStream localCap remoteOffer bundleOwnerMid allowCapabilityNegotiation =
        settled.negotiation) ∨
    ∃ localStream remoteStream, invariant (localStream, remoteStream) ∧
      IncomingKept localCap remoteOffer (localStream, remoteStream) ∧
      engine.initiateIncomingStream localCap remoteOffer bundleOwnerMid allowCapabilityNegotiation =
        ⟨rejectIncomingStream remoteStream (labelledSkeleton localCap remoteOffer), localStream, remoteStream⟩ := by
  have kept := attemptIncoming_kept engine localCap remoteOffer (incomingSkeleton localCap remoteOffer) bundleOwnerMid
  have both : invariant (localCap, remoteOffer) ∧ IncomingKept localCap remoteOffer (localCap, remoteOffer) :=
    ⟨start, .refl _, .refl _, fun _ => rfl⟩
  simp only [initiateIncomingStream]
  split
  next localIdx remoteIdx cfg localStream remoteStream searched =>
    left
    obtain ⟨before, ⟨holds, rewritten⟩, candidate, success⟩ := Library.search_some
      (fun streams => invariant streams ∧ IncomingKept localCap remoteOffer streams)
      (fun current candidate _ holds _ => ⟨preserved current candidate holds.1, kept current candidate holds.2⟩)
      both searched
    simp only [attemptIncoming, Prod.mk.injEq] at success
    obtain ⟨outcome, rfl, rfl⟩ := success
    exact ⟨cfg, ⟨localIdx, remoteIdx, before.1, before.2, rewritten, outcome⟩, holds, candidate, rfl⟩
  next localStream remoteStream searched =>
    right
    obtain ⟨⟨holds, rewritten⟩, _⟩ := Library.search_none
      (fun streams => invariant streams ∧ IncomingKept localCap remoteOffer streams)
      (fun current candidate _ holds _ => ⟨preserved current candidate holds.1, kept current candidate holds.2⟩)
      both searched
    exact ⟨localStream, remoteStream, holds, rewritten, rfl⟩

namespace IncomingSettled

variable {engine} {localCap remoteOffer : SalStreamDescription} {bundleOwnerMid : String} {cfg : SalStreamConfiguration}
variable (settled : engine.IncomingSettled localCap remoteOffer bundleOwnerMid cfg)

/-- The local configuration that was negotiated, as earlier tries left it. -/
def localCfg : SalStreamConfiguration := settled.localBefore.getConfigurationAtIndex settled.localIdx

def remoteCfg : SalStreamConfiguration := settled.remoteBefore.getConfigurationAtIndex settled.remoteIdx

theorem localCfg_eq : ∃ payloads proto,
    settled.localCfg = { localCap.getConfigurationAtIndex settled.localIdx with payloads, proto } := by
  obtain ⟨payloads, proto, same, _⟩ := settled.kept.localRewritten.stored settled.localIdx
  exact ⟨payloads, proto, same⟩

theorem remoteCfg_eq : ∃ proto,
    settled.remoteCfg = { remoteOffer.getConfigurationAtIndex settled.remoteIdx with proto } ∧
      Downgrade (remoteOffer.getConfigurationAtIndex settled.remoteIdx).proto proto := by
  obtain ⟨payloads, proto, same, downgrade⟩ := settled.kept.remoteRewritten.stored settled.remoteIdx
  have offered := settled.kept.offered settled.remoteIdx
  rw [same] at offered
  subst offered
  exact ⟨proto, same, downgrade⟩

theorem offered_payloads :
    settled.remoteCfg.payloads = (remoteOffer.getConfigurationAtIndex settled.remoteIdx).payloads :=
  settled.kept.offered settled.remoteIdx

/-- The answer before the transport protocol was chosen. -/
def start : SalStreamConfiguration :=
  { incomingBundle settled.localCfg settled.remoteCfg bundleOwnerMid {} with
    payloads := (engine.incomingMatch settled.localCfg settled.remoteCfg bundleOwnerMid).1
    proto := incomingProto settled.localCfg settled.remoteCfg }

theorem present : settled.localCfg.isEmptyObject = false ∧ settled.remoteCfg.isEmptyObject = false :=
  ⟨(initiateIncomingConfiguration_some settled.outcome).1, (initiateIncomingConfiguration_some settled.outcome).2.1⟩

theorem compatible : areProtoCompatibles settled.localCfg.proto settled.remoteCfg.proto = true :=
  (initiateIncomingConfiguration_some settled.outcome).2.2.1

theorem accepted : IncomingAccepted settled.localCfg settled.remoteCfg settled.start cfg
    (engine.isMulticast remoteOffer.rtpAddr) localCap.supportedEncryption := by
  have accepted := (initiateIncomingConfiguration_some settled.outcome).2.2.2.2.1
  rw [settled.kept.remoteRewritten.rtpAddr, settled.kept.localRewritten.supportedEncryption,
    incomingSkeleton_actual] at accepted
  exact accepted

theorem zrtp_agreed (potential : settled.remoteIdx ≠ actualConfigurationIndex) :
    settled.localCfg.haveZrtpHash = settled.remoteCfg.haveZrtpHash :=
  (initiateIncomingConfiguration_some settled.outcome).2.2.2.2.2 (.inr potential)

/-- The answer carries a mid only when it joins the bundle, and then that of the offer. -/
theorem mid : cfg.mid = if joinsBundle settled.localCfg settled.remoteCfg bundleOwnerMid then
    (remoteOffer.getConfigurationAtIndex settled.remoteIdx).mid else "" := by
  obtain ⟨_, same, _⟩ := settled.remoteCfg_eq
  rw [settled.accepted.mid]
  simp only [start, incomingBundle]
  split
  · rw [same]
  · rfl

end IncomingSettled

section Answered

variable (localCap remoteOffer result : SalStreamDescription) (cfg : SalStreamConfiguration)

@[simp] theorem acceptIncomingStream_actual :
    (engine.acceptIncomingStream localCap remoteOffer result cfg).getActualConfiguration = cfg := by
  simp only [acceptIncomingStream]
  split <;> exact addActualConfiguration_actual ..

@[simp] theorem acceptIncomingStream_cfgIndex :
    (engine.acceptIncomingStream localCap remoteOffer result cfg).cfgIndex = result.cfgIndex := by
  simp only [acceptIncomingStream]
  split <;> rfl

@[simp] theorem acceptIncomingStream_type :
    (engine.acceptIncomingStream localCap remoteOffer result cfg).type = result.type := by
  simp only [acceptIncomingStream]
  split <;> rfl

@[simp] theorem acceptIncomingStream_typeother :
    (engine.acceptIncomingStream localCap remoteOffer result cfg).typeother = result.typeother := by
  simp only [acceptIncomingStream]
  split <;> rfl

theorem acceptIncomingStream_rtpPort :
    (engine.acceptIncomingStream localCap remoteOffer result cfg).rtpPort =
      if cfg.bundleOnly then 0
      else if engine.isMulticast remoteOffer.rtpAddr then remoteOffer.rtpPort else localCap.rtpPort := by
  simp only [acceptIncomingStream]
  congr 1
  split <;> rfl

/-- A rejected stream keeps nothing but the protocol of the offer. -/
theorem rejectIncomingStream_actual (fresh : result.cfgIndex = actualConfigurationIndex)
    (empty : result.getActualConfiguration = {}) :
    (rejectIncomingStream remoteOffer result).getActualConfiguration =
      { proto := remoteOffer.getActualConfiguration.proto } := by
  rw [rejectIncomingStream, disable_actual _ (by simpa using fresh), addActualConfiguration_actual, empty]
  rfl

end Answered

/-- One of our configurations that an answer was read against, together with
our offer as the failed tries before it left it. -/
structure OutgoingSettled (localOffer remoteAnswer : SalStreamDescription) (cfg : SalStreamConfiguration) where
  localIdx : UInt32
  localBefore : SalStreamDescription
  rewritten : Rewritten localOffer localBefore
  outcome : (engine.initiateOutgoingConfiguration localBefore remoteAnswer (engine.outgoingSkeleton localOffer) localIdx
    actualConfigurationIndex).outcome = some cfg

namespace OutgoingSettled

variable {engine} {localOffer remoteAnswer : SalStreamDescription} {cfg : SalStreamConfiguration}

def localAfter (settled : engine.OutgoingSettled localOffer remoteAnswer cfg) : SalStreamDescription :=
  (engine.initiateOutgoingConfiguration settled.localBefore remoteAnswer (engine.outgoingSkeleton localOffer)
    settled.localIdx actualConfigurationIndex).localStream

/-- What the settled reading of an answer returns. -/
def negotiation (settled : engine.OutgoingSettled localOffer remoteAnswer cfg) : StreamNegotiation :=
  ⟨acceptOutgoingStream remoteAnswer (engine.outgoingSkeleton localOffer) cfg,
    { settled.localAfter with cfgIndex := settled.localIdx },
    { remoteAnswer with cfgIndex := actualConfigurationIndex }⟩

end OutgoingSettled

private theorem attemptOutgoing_kept (localOffer remoteAnswer result : SalStreamDescription) (current : StreamPair)
    (candidate : UInt32) (kept : Rewritten localOffer current.1 ∧ current.2 = remoteAnswer) :
    Rewritten localOffer (engine.attemptOutgoing result current candidate).2.1 ∧
      (engine.attemptOutgoing result current candidate).2.2 = remoteAnswer := by
  have rewrites :=
    engine.initiateOutgoingConfiguration_rewrites candidate actualConfigurationIndex current.1 current.2 result
  exact ⟨kept.1.trans rewrites.1, rewrites.2.trans kept.2⟩

/-- A stream of an answer is either read against a settled configuration of our
offer, or left without a configuration and disabled. -/
theorem initiateOutgoingStream_cases (localOffer remoteAnswer : SalStreamDescription)
    (allowCapabilityNegotiation : Bool) :
    (∃ cfg, ∃ settled : engine.OutgoingSettled localOffer remoteAnswer cfg,
      settled.localIdx ∈ outgoingCandidates remoteAnswer allowCapabilityNegotiation ∧
      engine.initiateOutgoingStream localOffer remoteAnswer allowCapabilityNegotiation = settled.negotiation) ∨
    ∃ localStream result, Rewritten localOffer localStream ∧
      engine.initiateOutgoingStream localOffer remoteAnswer allowCapabilityNegotiation =
        ⟨result, localStream, remoteAnswer⟩ ∧
      (result = { engine.outgoingSkeleton localOffer with multicastRole := .inactive } ∨
        result = (engine.outgoingSkeleton localOffer).disable) := by
  have kept := attemptOutgoing_kept engine localOffer remoteAnswer (engine.outgoingSkeleton localOffer)
  have start : Rewritten localOffer localOffer ∧ remoteAnswer = remoteAnswer := ⟨.refl _, rfl⟩
  simp only [initiateOutgoingStream]
  split
  next => exact .inr ⟨localOffer, _, .refl _, rfl, .inl rfl⟩
  next =>
    split
    next => exact .inr ⟨localOffer, _, .refl _, rfl, .inr rfl⟩
    next =>
      split
      next localIdx cfg localStream answer searched =>
        left
        obtain ⟨before, ⟨rewritten, same⟩, candidate, success⟩ := Library.search_some
          (fun streams : StreamPair => Rewritten localOffer streams.1 ∧ streams.2 = remoteAnswer)
          (fun current candidate _ holds _ => kept current candidate holds) start searched
        simp only [attemptOutgoing, Prod.mk.injEq, same] at success
        obtain ⟨outcome, rfl, rfl⟩ := success
        refine ⟨cfg, ⟨localIdx, before.1, rewritten, outcome⟩, candidate, ?_⟩
        rw [(initiateOutgoingConfiguration_streams ..).2]
        rfl
      next localStream answer searched =>
        obtain ⟨⟨rewritten, rfl⟩, _⟩ := Library.search_none
          (fun streams : StreamPair => Rewritten localOffer streams.1 ∧ streams.2 = remoteAnswer)
          (fun current candidate _ holds _ => kept current candidate holds) start searched
        exact .inr ⟨localStream, _, rewritten, rfl, .inr rfl⟩

namespace IncomingSettled

variable {engine} {localCap remoteOffer : SalStreamDescription} {bundleOwnerMid : String} {cfg : SalStreamConfiguration}
variable (settled : engine.IncomingSettled localCap remoteOffer bundleOwnerMid cfg)

theorem result_actual : settled.negotiation.result.getActualConfiguration = cfg := acceptIncomingStream_actual ..

theorem result_cfgIndex : settled.negotiation.result.cfgIndex = actualConfigurationIndex :=
  acceptIncomingStream_cfgIndex ..

theorem result_type : settled.negotiation.result.type = localCap.type := acceptIncomingStream_type ..

theorem result_typeother :
    settled.negotiation.result.typeother = if localCap.type == .other then remoteOffer.typeother else "" :=
  acceptIncomingStream_typeother ..

theorem result_rtpPort : settled.negotiation.result.rtpPort =
    if cfg.bundleOnly then 0
    else if engine.isMulticast remoteOffer.rtpAddr then remoteOffer.rtpPort else localCap.rtpPort := by
  have localPort : settled.localAfter.rtpPort = localCap.rtpPort := by rw [settled.localAfter_rewritten.rest]
  have remotePort : settled.remoteAfter.rtpPort = remoteOffer.rtpPort := by rw [settled.remoteAfter_rewritten.rest]
  rw [negotiation, acceptIncomingStream_rtpPort, settled.remoteAfter_rewritten.rtpAddr, localPort, remotePort]

end IncomingSettled

namespace OutgoingSettled

variable {engine} {localOffer remoteAnswer : SalStreamDescription} {cfg : SalStreamConfiguration}
variable (settled : engine.OutgoingSettled localOffer remoteAnswer cfg)

def localCfg : SalStreamConfiguration := settled.localBefore.getConfigurationAtIndex settled.localIdx

theorem localCfg_eq : ∃ payloads proto,
    settled.localCfg = { localOffer.getConfigurationAtIndex settled.localIdx with payloads, proto } := by
  obtain ⟨payloads, proto, same, _⟩ := settled.rewritten.stored settled.localIdx
  exact ⟨payloads, proto, same⟩

theorem accepted : OutgoingAccepted settled.localCfg remoteAnswer.getActualConfiguration
    { payloads := (engine.outgoingMatch settled.localCfg remoteAnswer.getActualConfiguration).1
      proto := remoteAnswer.getActualConfiguration.proto }
    cfg localOffer.supportedEncryption := by
  have accepted := (initiateOutgoingConfiguration_some settled.outcome).2.2.2
  rw [settled.rewritten.supportedEncryption, outgoingSkeleton_actual] at accepted
  exact accepted

theorem result_eq : settled.negotiation.result =
    { (engine.outgoingSkeleton localOffer).addActualConfiguration cfg with
      rtpAddr := remoteAnswer.rtpAddr
      rtpPort := remoteAnswer.rtpPort
      rtcpAddr := remoteAnswer.rtcpAddr
      rtcpPort := remoteAnswer.rtcpPort
      bandwidth := remoteAnswer.bandwidth } := by
  have nonempty := settled.accepted.nonempty
  have codec := settled.accepted.codec
  rw [← settled.accepted.payloads] at nonempty codec
  simp only [negotiation, acceptOutgoingStream, codec]
  exact if_pos (by simpa using nonempty)

theorem result_actual : settled.negotiation.result.getActualConfiguration = cfg := by
  rw [settled.result_eq]
  exact addActualConfiguration_actual ..

end OutgoingSettled

end Liblinphone.OfferAnswerEngine
