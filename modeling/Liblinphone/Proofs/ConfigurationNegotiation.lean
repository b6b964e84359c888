import Liblinphone.OfferAnswer

/-! What an accepted pair of configurations looks like. Each stage of the
negotiation writes a few fields of the result; the rest is carried along. -/

namespace Liblinphone
open SalStreamConfiguration

theorem negotiateCrypto_some {availableEncs localCfg remoteCfg useLocalKey before after}
    (succeeded : negotiateCrypto availableEncs localCfg remoteCfg useLocalKey before = some after) :
    ∃ crypto, after = { before with crypto } ∧
      (before.hasSrtp → .srtp ∈ availableEncs ∧
        ∃ line, matchCryptoAlgo localCfg.crypto remoteCfg.crypto {} useLocalKey = (true, line) ∧ crypto = [line]) := by
  simp only [negotiateCrypto, Bool.not_eq_true'] at succeeded
  split at succeeded
  next plain =>
    obtain rfl := Option.some.inj succeeded
    exact ⟨before.crypto, rfl, by simp [plain]⟩
  next =>
    split at succeeded
    next => simp at succeeded
    next supported =>
      split at succeeded
      next line found =>
        obtain rfl := Option.some.inj succeeded
        exact ⟨[line], rfl, fun _ => ⟨by simpa using supported, line, found, rfl⟩⟩
      next => simp at succeeded

theorem negotiateCrypto_succeeds {availableEncs localCfg remoteCfg useLocalKey} (before : SalStreamConfiguration)
    (crypto : before.hasSrtp → .srtp ∈ availableEncs ∧
      ∃ line, matchCryptoAlgo localCfg.crypto remoteCfg.crypto {} useLocalKey = (true, line)) :
    ∃ after, negotiateCrypto availableEncs localCfg remoteCfg useLocalKey before = some after := by
  simp only [negotiateCrypto]
  cases encrypted : before.hasSrtp with
  | false => exact ⟨before, rfl⟩
  | true =>
    obtain ⟨supported, line, found⟩ := crypto encrypted
    simp [supported, found]

/-- Whether the negotiated configuration has a zrtp hash. -/
def negotiatedZrtp (localCfg remoteCfg resultCfg : SalStreamConfiguration) : UInt8 :=
  if remoteCfg.haveZrtpHash == 1 || localCfg.haveZrtpHash == 1 then
    if localCfg.zrtphash != "" || remoteCfg.zrtphash != "" then 1 else 0
  else resultCfg.haveZrtpHash

theorem fillZrtpAttributes_some {localStream localCfgIdx remoteStream remoteCfgIdx before after}
    (succeeded : fillZrtpAttributes localStream localCfgIdx remoteStream remoteCfgIdx before = some after) :
    (∃ zrtphash, after = { before with
      zrtphash
      haveZrtpHash := negotiatedZrtp (localStream.getConfigurationAtIndex localCfgIdx)
        (remoteStream.getConfigurationAtIndex remoteCfgIdx) before }) ∧
    (localCfgIdx ≠ SalStreamDescription.actualConfigurationIndex ∨
        remoteCfgIdx ≠ SalStreamDescription.actualConfigurationIndex →
      (localStream.getConfigurationAtIndex localCfgIdx).haveZrtpHash =
        (remoteStream.getConfigurationAtIndex remoteCfgIdx).haveZrtpHash) := by
  simp only [fillZrtpAttributes] at succeeded
  simp only [negotiatedZrtp]
  split at succeeded
  next => simp at succeeded
  next agreed =>
    refine ⟨?_, ?_⟩
    · split at succeeded
      next hashed =>
        split at succeeded
        next => simp at succeeded
        next =>
          simp only [hashed, if_true]
          exact ⟨_, (Option.some.inj succeeded).symm⟩
      next plain =>
        simp only [plain]
        exact ⟨before.zrtphash, (Option.some.inj succeeded).symm⟩
    · intro potential
      by_contra different
      apply agreed
      simp only [Bool.and_eq_true, Bool.or_eq_true, Bool.not_eq_true', beq_eq_false_iff_ne, bne_iff_ne]
      exact ⟨potential, different⟩

theorem fillZrtpAttributes_succeeds {localStream localCfgIdx remoteStream remoteCfgIdx} (before : SalStreamConfiguration)
    (zrtp : localCfgIdx ≠ SalStreamDescription.actualConfigurationIndex ∨
        remoteCfgIdx ≠ SalStreamDescription.actualConfigurationIndex →
      (localStream.getConfigurationAtIndex localCfgIdx).haveZrtpHash =
          (remoteStream.getConfigurationAtIndex remoteCfgIdx).haveZrtpHash ∧
        ((localStream.getConfigurationAtIndex localCfgIdx).haveZrtpHash = 1 →
          .zrtp ∈ localStream.supportedEncryption)) :
    ∃ after, fillZrtpAttributes localStream localCfgIdx remoteStream remoteCfgIdx before = some after := by
  simp only [fillZrtpAttributes]
  by_cases potential : localCfgIdx ≠ SalStreamDescription.actualConfigurationIndex ∨
      remoteCfgIdx ≠ SalStreamDescription.actualConfigurationIndex
  · obtain ⟨same, supported⟩ := zrtp potential
    rw [← same]
    by_cases hashed : (localStream.getConfigurationAtIndex localCfgIdx).haveZrtpHash = 1
    · simp [hashed, supported hashed]
    · simp [hashed]
  · simp only [not_or, not_not] at potential
    simp only [potential.1, potential.2]
    split
    next mismatch => simp at mismatch
    next =>
      split
      next =>
        split
        next unsupported => simp at unsupported
        next => exact ⟨_, rfl⟩
      next => exact ⟨before, rfl⟩

theorem outgoingDtls_succeeds {availableEncs localCfg remoteCfg} (before : SalStreamConfiguration)
    (dtls : bothHaveDtls localCfg remoteCfg → .dtls ∈ availableEncs) :
    ∃ after, outgoingDtls availableEncs localCfg remoteCfg before = some after := by
  simp only [outgoingDtls]
  split
  next both =>
    have supported : availableEncs.contains .dtls = true := by simpa using dtls both
    simp only [supported, Bool.not_true, Bool.false_eq_true, if_false]
    split <;> exact ⟨_, rfl⟩
  next => exact ⟨_, rfl⟩

/-- The role that an answer takes: only an offer that leaves the choice open
makes the answerer choose. -/
def incomingRole (localCfg remoteCfg resultCfg : SalStreamConfiguration) : SalDtlsRole :=
  if bothHaveDtls localCfg remoteCfg then
    if remoteCfg.dtlsRole == .unset then .isClient else resultCfg.dtlsRole
  else .invalid

theorem incomingDtls_some {availableEncs localCfg remoteCfg before after}
    (succeeded : incomingDtls availableEncs localCfg remoteCfg before = some after) :
    after = { before with
      dtlsFingerprint := if bothHaveDtls localCfg remoteCfg then localCfg.dtlsFingerprint else ""
      dtlsRole := incomingRole localCfg remoteCfg before } := by
  simp only [incomingDtls] at succeeded
  simp only [incomingRole]
  split at succeeded
  next both =>
    simp only [both, if_true]
    split at succeeded
    next => simp at succeeded
    next =>
      split at succeeded
      next unset => simpa [unset] using succeeded.symm
      next chosen => simpa [chosen] using succeeded.symm
  next absent => simpa [absent] using succeeded.symm

/-- The role that the offerer takes from an answer. -/
def outgoingRole (localCfg remoteCfg : SalStreamConfiguration) : SalDtlsRole :=
  if bothHaveDtls localCfg remoteCfg then
    if remoteCfg.dtlsRole == .isClient then .isServer else .isClient
  else .invalid

theorem outgoingDtls_some {availableEncs localCfg remoteCfg before after}
    (succeeded : outgoingDtls availableEncs localCfg remoteCfg before = some after) :
    after = { before with
      dtlsFingerprint := if bothHaveDtls localCfg remoteCfg then remoteCfg.dtlsFingerprint else ""
      dtlsRole := outgoingRole localCfg remoteCfg } := by
  simp only [outgoingDtls] at succeeded
  simp only [outgoingRole]
  split at succeeded
  next both =>
    simp only [both, if_true]
    split at succeeded
    next => simp at succeeded
    next =>
      split at succeeded
      next client => simpa [client] using succeeded.symm
      next other => simpa [other] using succeeded.symm
  next absent => simpa [absent] using succeeded.symm

theorem requirePayloads_some {before after : SalStreamConfiguration}
    (succeeded : OfferAnswerEngine.requirePayloads before = some after) :
    after = before ∧ before.payloads ≠ [] ∧ onlyTelephoneEvent before.payloads = false := by
  simp only [OfferAnswerEngine.requirePayloads] at succeeded
  split at succeeded
  next => simp at succeeded
  next usable =>
    simp only [Bool.or_eq_true, not_or, List.isEmpty_iff, Bool.not_eq_true] at usable
    exact ⟨(Option.some.inj succeeded).symm, usable⟩

theorem requirePayloads_succeeds {before : SalStreamConfiguration} (nonempty : before.payloads ≠ [])
    (codec : onlyTelephoneEvent before.payloads = false) : OfferAnswerEngine.requirePayloads before = some before := by
  simp [OfferAnswerEngine.requirePayloads, nonempty, codec]

theorem incomingPacketization_some {multicast localCfg remoteCfg before after}
    (succeeded : OfferAnswerEngine.incomingPacketization multicast localCfg remoteCfg before = some after) :
    ∃ ptime maxptime ttl, after = { before with
      dir := if multicast then remoteCfg.dir else computeDirIncoming localCfg.dir remoteCfg.dir
      deleteMediaAttributes := localCfg.deleteMediaAttributes
      deleteSessionAttributes := localCfg.deleteSessionAttributes
      ptime, maxptime, ttl } := by
  simp only [OfferAnswerEngine.incomingPacketization] at succeeded
  split at succeeded
  next cast =>
    split at succeeded
    next => simp at succeeded
    next =>
      subst cast
      exact ⟨_, _, _, (Option.some.inj succeeded).symm⟩
  next cast =>
    rw [Bool.not_eq_true] at cast
    subst cast
    exact ⟨_, _, before.ttl, (Option.some.inj succeeded).symm⟩

theorem outgoingPacketization_some {multicast localCfg remoteCfg before after}
    (succeeded : OfferAnswerEngine.outgoingPacketization multicast localCfg remoteCfg before = some after) :
    ∃ dir ttl, after = { before with dir, ttl } := by
  simp only [OfferAnswerEngine.outgoingPacketization] at succeeded
  split at succeeded
  next =>
    split at succeeded
    next => simp at succeeded
    next =>
      split at succeeded
      next => simp at succeeded
      next => exact ⟨_, _, (Option.some.inj succeeded).symm⟩
  next => exact ⟨_, before.ttl, (Option.some.inj succeeded).symm⟩

theorem areProtoCompatibles_refl (proto : SalMediaProto) : areProtoCompatibles proto proto = true := by
  cases proto <;> rfl

theorem areProtoCompatibles_symm {first second : SalMediaProto} (compatible : areProtoCompatibles first second = true) :
    areProtoCompatibles second first = true := by
  revert compatible
  cases first <;> cases second <;> decide

theorem areProtoCompatibles_trans {first second third : SalMediaProto}
    (early : areProtoCompatibles first second = true) (late : areProtoCompatibles second third = true) :
    areProtoCompatibles first third = true := by
  revert early late
  cases first <;> cases second <;> cases third <;> decide

theorem hasSrtp_of_compatible {first second : SalMediaProto} (compatible : areProtoCompatibles first second = true) :
    first.hasSrtp = second.hasSrtp := by
  revert compatible
  cases first <;> cases second <;> decide

/-- The protocol is kept, or an AVPF one is replaced by a compatible one. -/
def Downgrade (before after : SalMediaProto) : Prop :=
  after = before ∨ (before.hasAvpf = true ∧ areProtoCompatibles after before = true)

theorem Downgrade.compatible {before after : SalMediaProto} (downgrade : Downgrade before after) :
    areProtoCompatibles after before = true := by
  rcases downgrade with rfl | ⟨_, compatible⟩
  · exact areProtoCompatibles_refl after
  · exact compatible

theorem Downgrade.trans {first second third : SalMediaProto} (early : Downgrade first second)
    (late : Downgrade second third) : Downgrade first third := by
  rcases early with rfl | ⟨avpf, compatible⟩
  · exact late
  · exact .inr ⟨avpf, areProtoCompatibles_trans late.compatible compatible⟩

namespace SalStreamDescription

/-- The stream is as it was, apart from the codecs of its configurations and
from downgraded transport protocols. Nothing else is ever written by
negotiation. -/
structure Rewritten (before after : SalStreamDescription) : Prop where
  rest : after = { before with cfgs := after.cfgs }
  stored : ∀ index, ∃ payloads proto,
    after.getConfigurationAtIndex index = { before.getConfigurationAtIndex index with payloads, proto } ∧
      Downgrade (before.getConfigurationAtIndex index).proto proto

namespace Rewritten

theorem refl (stream : SalStreamDescription) : Rewritten stream stream :=
  ⟨rfl, fun index => ⟨(stream.getConfigurationAtIndex index).payloads, (stream.getConfigurationAtIndex index).proto, rfl,
    .inl rfl⟩⟩

theorem trans {first second third : SalStreamDescription} (early : Rewritten first second)
    (late : Rewritten second third) : Rewritten first third := by
  refine ⟨?_, ?_⟩
  · rw [late.rest, early.rest]
  · intro index
    obtain ⟨_, _, same, before⟩ := early.stored index
    obtain ⟨payloads, proto, next, after⟩ := late.stored index
    rw [same] at after
    exact ⟨payloads, proto, by rw [next, same], before.trans after⟩

variable {before after : SalStreamDescription} (rewritten : Rewritten before after)
include rewritten

theorem supportedEncryption : after.supportedEncryption = before.supportedEncryption := by rw [rewritten.rest]

theorem rtpAddr : after.rtpAddr = before.rtpAddr := by rw [rewritten.rest]

theorem chosen :
    ∃ payloads proto, after.getChosenConfiguration = { before.getChosenConfiguration with payloads, proto } := by
  have index : after.cfgIndex = before.cfgIndex := by rw [rewritten.rest]
  obtain ⟨payloads, proto, same, _⟩ := rewritten.stored before.cfgIndex
  exact ⟨payloads, proto, by simp only [getChosenConfiguration, index, same]⟩

theorem enabled : after.enabled = before.enabled := by
  obtain ⟨_, _, same⟩ := rewritten.chosen
  have port : after.rtpPort = before.rtpPort := by rw [rewritten.rest]
  simp only [SalStreamDescription.enabled, isBundleOnly, getDirection, same, port]

end Rewritten

/-- A configuration that is not the empty one is stored in the map. -/
theorem stored_of_present {stream : SalStreamDescription} {index : UInt32}
    (present : (stream.getConfigurationAtIndex index).isEmptyObject = false) :
    stream.cfgs[index]? = some (stream.getConfigurationAtIndex index) := by
  rw [getConfigurationAtIndex] at present ⊢
  cases found : stream.cfgs[index]? with
  | some cfg => rfl
  | none =>
    rw [found] at present
    exact absurd present (by decide)

variable (stream : SalStreamDescription) (index : UInt32)

theorem setPayloadsAt_self (payloads : List PayloadType) :
    (stream.setPayloadsAt index payloads).getConfigurationAtIndex index =
      { stream.getConfigurationAtIndex index with payloads } := by
  simp [setPayloadsAt]

theorem setProtoAt_self (proto : SalMediaProto) :
    (stream.setProtoAt index proto).getConfigurationAtIndex index =
      { stream.getConfigurationAtIndex index with proto } := by
  simp [setProtoAt]

theorem setProtoAt_payloads (proto : SalMediaProto) (other : UInt32) :
    ((stream.setProtoAt index proto).getConfigurationAtIndex other).payloads =
      (stream.getConfigurationAtIndex other).payloads := by
  rw [setProtoAt, getConfigurationAtIndex_add]
  split
  next same => rw [same]
  next => rfl

private theorem rewritten_add (payloads : List PayloadType) (proto : SalMediaProto)
    (downgrade : Downgrade (stream.getConfigurationAtIndex index).proto proto) :
    Rewritten stream (stream.addConfigurationAtIndex index
      { stream.getConfigurationAtIndex index with payloads, proto }) := by
  refine ⟨rfl, ?_⟩
  intro other
  rw [getConfigurationAtIndex_add]
  split
  next same =>
    subst same
    exact ⟨payloads, proto, rfl, downgrade⟩
  next => exact (Rewritten.refl stream).stored other

theorem rewritten_setPayloadsAt (payloads : List PayloadType) :
    Rewritten stream (stream.setPayloadsAt index payloads) :=
  rewritten_add stream index payloads (stream.getConfigurationAtIndex index).proto (.inl rfl)

theorem rewritten_setProtoAt (proto : SalMediaProto)
    (downgrade : Downgrade (stream.getConfigurationAtIndex index).proto proto) :
    Rewritten stream (stream.setProtoAt index proto) :=
  rewritten_add stream index (stream.getConfigurationAtIndex index).payloads proto downgrade

end SalStreamDescription

namespace OfferAnswerEngine
open SalStreamDescription

variable {engine : OfferAnswerEngine} {localIdx remoteIdx : UInt32}

/-- The fields that an accepted answer takes from the configuration `start`
built before the transport protocol was chosen, from the two negotiated
configurations, and from the offered stream. -/
structure IncomingAccepted (localCfg remoteCfg start cfg : SalStreamConfiguration) (multicast : Bool)
    (availableEncs : List LinphoneMediaEncryption) : Prop where
  payloads : cfg.payloads = start.payloads
  nonempty : start.payloads ≠ []
  codec : onlyTelephoneEvent start.payloads = false
  proto : cfg.proto = start.proto
  mid : cfg.mid = start.mid
  bundleOnly : cfg.bundleOnly = start.bundleOnly
  midRtpExtHeaderId : cfg.midRtpExtHeaderId = start.midRtpExtHeaderId
  dir : cfg.dir = if multicast then remoteCfg.dir else computeDirIncoming localCfg.dir remoteCfg.dir
  rtcpMux : cfg.rtcpMux = (remoteCfg.rtcpMux && localCfg.rtcpMux)
  crypto : start.hasSrtp → .srtp ∈ availableEncs ∧
    ∃ line, matchCryptoAlgo localCfg.crypto remoteCfg.crypto {} true = (true, line) ∧ cfg.crypto = [line]
  dtlsFingerprint : cfg.dtlsFingerprint = if bothHaveDtls localCfg remoteCfg then localCfg.dtlsFingerprint else ""
  dtlsRole : cfg.dtlsRole = incomingRole localCfg remoteCfg start
  haveZrtpHash : cfg.haveZrtpHash = negotiatedZrtp localCfg remoteCfg start
  index : cfg.index = remoteCfg.index

theorem acceptIncoming_some {localCap remoteOffer : SalStreamDescription} {start cfg : SalStreamConfiguration}
    (succeeded : engine.acceptIncoming localCap remoteOffer localIdx remoteIdx start = some cfg) :
    remoteOffer.enabled = true ∧
      IncomingAccepted (localCap.getConfigurationAtIndex localIdx) (remoteOffer.getConfigurationAtIndex remoteIdx)
        start cfg (engine.isMulticast remoteOffer.rtpAddr) localCap.supportedEncryption ∧
      (localIdx ≠ actualConfigurationIndex ∨ remoteIdx ≠ actualConfigurationIndex →
        (localCap.getConfigurationAtIndex localIdx).haveZrtpHash =
          (remoteOffer.getConfigurationAtIndex remoteIdx).haveZrtpHash) := by
  simp only [acceptIncoming, bind, pure, Option.bind_eq_some_iff, Option.some.injEq] at succeeded
  obtain ⟨packetized, packetization, usable, payloads, offered, enabled, ciphered, crypto, hashed, zrtp, keyed, dtls,
    rfl⟩ := succeeded
  obtain ⟨ptime, maxptime, ttl, rfl⟩ := incomingPacketization_some packetization
  obtain ⟨rfl, nonempty, codec⟩ := requirePayloads_some payloads
  simp only [requireEnabled, Option.ite_none_right_eq_some, Option.some.injEq] at enabled
  obtain ⟨enabled, rfl⟩ := enabled
  obtain ⟨lines, rfl, suites⟩ := negotiateCrypto_some crypto
  obtain ⟨⟨zrtphash, rfl⟩, agreed⟩ := fillZrtpAttributes_some zrtp
  obtain rfl := incomingDtls_some dtls
  exact ⟨enabled, ⟨rfl, nonempty, codec, rfl, rfl, rfl, rfl, rfl, rfl, suites, rfl, rfl, rfl, rfl⟩, agreed⟩

/-- The same for the configuration that the offerer reads from an answer. -/
structure OutgoingAccepted (localCfg remoteCfg start cfg : SalStreamConfiguration)
    (availableEncs : List LinphoneMediaEncryption) : Prop where
  payloads : cfg.payloads = start.payloads
  nonempty : start.payloads ≠ []
  codec : onlyTelephoneEvent start.payloads = false
  proto : cfg.proto = start.proto
  mid : cfg.mid = if staysInBundle localCfg remoteCfg then remoteCfg.mid else start.mid
  bundleOnly : cfg.bundleOnly = if staysInBundle localCfg remoteCfg then remoteCfg.bundleOnly else start.bundleOnly
  rtcpMux : cfg.rtcpMux = (staysInBundle localCfg remoteCfg || (remoteCfg.rtcpMux && localCfg.rtcpMux))
  crypto : start.hasSrtp → .srtp ∈ availableEncs ∧
    ∃ line, matchCryptoAlgo localCfg.crypto remoteCfg.crypto {} false = (true, line) ∧ cfg.crypto = [line]
  dtlsFingerprint : cfg.dtlsFingerprint = if bothHaveDtls localCfg remoteCfg then remoteCfg.dtlsFingerprint else ""
  dtlsRole : cfg.dtlsRole = outgoingRole localCfg remoteCfg
  index : cfg.index = remoteCfg.index

/-- The fields that bundling writes, as values. -/
theorem outgoingBundle_eq (localCfg remoteCfg before : SalStreamConfiguration) :
    outgoingBundle localCfg remoteCfg before = { before with
      mid := if staysInBundle localCfg remoteCfg then remoteCfg.mid else before.mid
      midRtpExtHeaderId :=
        if staysInBundle localCfg remoteCfg then remoteCfg.midRtpExtHeaderId else before.midRtpExtHeaderId
      bundleOnly := if staysInBundle localCfg remoteCfg then remoteCfg.bundleOnly else before.bundleOnly
      rtcpMux := staysInBundle localCfg remoteCfg || (remoteCfg.rtcpMux && localCfg.rtcpMux) } := by
  simp only [outgoingBundle]
  split
  next stays => simp [stays]
  next leaves => simp [leaves]

theorem acceptOutgoing_some {localOffer remoteAnswer : SalStreamDescription} {start cfg : SalStreamConfiguration}
    (succeeded : engine.acceptOutgoing localOffer remoteAnswer localIdx remoteIdx start = some cfg) :
    OutgoingAccepted (localOffer.getConfigurationAtIndex localIdx) (remoteAnswer.getConfigurationAtIndex remoteIdx)
      start cfg localOffer.supportedEncryption := by
  simp only [acceptOutgoing, bind, pure, Option.bind_eq_some_iff, Option.some.injEq, outgoingBundle_eq] at succeeded
  obtain ⟨packetized, packetization, usable, payloads, ciphered, crypto, hashed, zrtp, keyed, dtls, rfl⟩ := succeeded
  obtain ⟨dir, ttl, rfl⟩ := outgoingPacketization_some packetization
  obtain ⟨rfl, nonempty, codec⟩ := requirePayloads_some payloads
  obtain ⟨lines, rfl, suites⟩ := negotiateCrypto_some crypto
  obtain ⟨⟨zrtphash, rfl⟩, _⟩ := fillZrtpAttributes_some zrtp
  obtain rfl := outgoingDtls_some dtls
  exact ⟨rfl, nonempty, codec, rfl, rfl, rfl, rfl, suites, rfl, rfl, rfl⟩

variable (engine) (localIdx remoteIdx)

/-- The codecs that negotiation finds for an answer. -/
def incomingMatch (localCfg remoteCfg : SalStreamConfiguration) (bundleOwnerMid : String) :
    List PayloadType × List PayloadType :=
  engine.matchPayloads localCfg.payloads remoteCfg.payloads false (joinsBundle localCfg remoteCfg bundleOwnerMid)

/-- The transport protocol of an answer. -/
def incomingProto (localCfg remoteCfg : SalStreamConfiguration) : SalMediaProto :=
  if downgradesOffer localCfg remoteCfg then localCfg.proto else remoteCfg.proto

/-- The codecs that negotiation finds in an answer. -/
def outgoingMatch (localCfg remoteCfg : SalStreamConfiguration) : List PayloadType × List PayloadType :=
  engine.matchPayloads localCfg.payloads remoteCfg.payloads true (staysInBundle localCfg remoteCfg)

variable {engine} {localIdx remoteIdx}

theorem offer_downgraded (localCfg : SalStreamConfiguration) (remoteOffer : SalStreamDescription) :
    (if downgradesOffer localCfg (remoteOffer.getConfigurationAtIndex remoteIdx) then
        remoteOffer.setProtoAt remoteIdx localCfg.proto
      else remoteOffer).getConfigurationAtIndex remoteIdx =
      { remoteOffer.getConfigurationAtIndex remoteIdx with
        proto := incomingProto localCfg (remoteOffer.getConfigurationAtIndex remoteIdx) } := by
  simp only [incomingProto]
  split
  · exact setProtoAt_self ..
  · rfl

private theorem downgradesOffer_avpf {localCfg remoteCfg : SalStreamConfiguration}
    (downgraded : downgradesOffer localCfg remoteCfg = true) : remoteCfg.proto.hasAvpf = true := by
  simp only [downgradesOffer, Bool.and_eq_true] at downgraded
  exact downgraded.2

private theorem downgradesAnswer_avpf {localCfg remoteCfg : SalStreamConfiguration}
    (downgraded : downgradesAnswer localCfg remoteCfg = true) : localCfg.proto.hasAvpf = true := by
  simp only [downgradesAnswer, Bool.and_eq_true] at downgraded
  exact downgraded.2

theorem rewritten_downgraded (localCfg : SalStreamConfiguration) (remoteOffer : SalStreamDescription)
    (compatible : areProtoCompatibles localCfg.proto (remoteOffer.getConfigurationAtIndex remoteIdx).proto = true) :
    Rewritten remoteOffer
      (if downgradesOffer localCfg (remoteOffer.getConfigurationAtIndex remoteIdx) then
        remoteOffer.setProtoAt remoteIdx localCfg.proto
      else remoteOffer) := by
  split
  next downgraded => exact rewritten_setProtoAt _ _ _ (.inr ⟨downgradesOffer_avpf downgraded, compatible⟩)
  next => exact .refl remoteOffer

variable (engine localIdx remoteIdx) in
/-- The streams as negotiating a pair of configurations for an answer leaves them. -/
theorem initiateIncomingConfiguration_streams (localCap remoteOffer result : SalStreamDescription)
    (bundleOwnerMid : String) :
    let localCfg := localCap.getConfigurationAtIndex localIdx
    let remoteCfg := remoteOffer.getConfigurationAtIndex remoteIdx
    let present := !(localCfg.isEmptyObject || remoteCfg.isEmptyObject)
    let attempt :=
      engine.initiateIncomingConfiguration localCap remoteOffer result bundleOwnerMid localIdx remoteIdx
    attempt.localStream =
        (if present then
          localCap.setPayloadsAt localIdx (engine.incomingMatch localCfg remoteCfg bundleOwnerMid).2
        else localCap) ∧
      attempt.remoteStream =
        (if present && areProtoCompatibles localCfg.proto remoteCfg.proto && downgradesOffer localCfg remoteCfg then
          remoteOffer.setProtoAt remoteIdx localCfg.proto
        else remoteOffer) := by
  simp only [initiateIncomingConfiguration, incomingMatch]
  split
  next absent => simp [absent]
  next present =>
    rw [Bool.not_eq_true] at present
    simp only [present, Bool.not_false, Bool.true_and, if_true]
    split
    next incompatible =>
      rw [Bool.not_eq_true'] at incompatible
      simp [incompatible]
    next compatible =>
      rw [Bool.not_eq_true', Bool.not_eq_false] at compatible
      simp [compatible]

theorem initiateIncomingConfiguration_some {localCap remoteOffer result : SalStreamDescription}
    {bundleOwnerMid : String} {cfg : SalStreamConfiguration}
    (succeeded : (engine.initiateIncomingConfiguration localCap remoteOffer result bundleOwnerMid localIdx
      remoteIdx).outcome = some cfg) :
    let localCfg := localCap.getConfigurationAtIndex localIdx
    let remoteCfg := remoteOffer.getConfigurationAtIndex remoteIdx
    localCfg.isEmptyObject = false ∧ remoteCfg.isEmptyObject = false ∧
      areProtoCompatibles localCfg.proto remoteCfg.proto = true ∧ remoteOffer.enabled = true ∧
      IncomingAccepted localCfg remoteCfg
        { incomingBundle localCfg remoteCfg bundleOwnerMid result.getActualConfiguration with
          payloads := (engine.incomingMatch localCfg remoteCfg bundleOwnerMid).1
          proto := incomingProto localCfg remoteCfg }
        cfg (engine.isMulticast remoteOffer.rtpAddr) localCap.supportedEncryption ∧
      (localIdx ≠ actualConfigurationIndex ∨ remoteIdx ≠ actualConfigurationIndex →
        localCfg.haveZrtpHash = remoteCfg.haveZrtpHash) := by
  intro localCfg remoteCfg
  simp only [initiateIncomingConfiguration] at succeeded
  split at succeeded
  next => simp at succeeded
  next present =>
    rw [Bool.not_eq_true, Bool.or_eq_false_iff] at present
    split at succeeded
    next => simp at succeeded
    next compatible =>
      rw [Bool.not_eq_true', Bool.not_eq_false] at compatible
      obtain ⟨enabled, accepted, agreed⟩ := acceptIncoming_some succeeded
      have rewritten := rewritten_downgraded localCfg remoteOffer compatible
      rw [rewritten.enabled] at enabled
      rw [offer_downgraded, setPayloadsAt_self] at accepted agreed
      rw [rewritten.rtpAddr] at accepted
      exact ⟨present.1, present.2, compatible, enabled, ⟨accepted.payloads, accepted.nonempty, accepted.codec,
        accepted.proto, accepted.mid, accepted.bundleOnly, accepted.midRtpExtHeaderId, accepted.dir, accepted.rtcpMux,
        accepted.crypto, accepted.dtlsFingerprint, accepted.dtlsRole, accepted.haveZrtpHash, accepted.index⟩, agreed⟩

variable (engine localIdx remoteIdx) in
theorem initiateIncomingConfiguration_rewrites (localCap remoteOffer result : SalStreamDescription)
    (bundleOwnerMid : String) :
    let attempt :=
      engine.initiateIncomingConfiguration localCap remoteOffer result bundleOwnerMid localIdx remoteIdx
    Rewritten localCap attempt.localStream ∧ Rewritten remoteOffer attempt.remoteStream := by
  obtain ⟨localStream, remoteStream⟩ :=
    engine.initiateIncomingConfiguration_streams localIdx remoteIdx localCap remoteOffer result bundleOwnerMid
  simp only
  refine ⟨?_, ?_⟩
  · rw [localStream]
    split
    · exact rewritten_setPayloadsAt ..
    · exact .refl localCap
  · rw [remoteStream]
    split
    next downgraded =>
      simp only [Bool.and_eq_true] at downgraded
      exact rewritten_setProtoAt _ _ _ (.inr ⟨downgradesOffer_avpf downgraded.2, downgraded.1.2⟩)
    next => exact .refl remoteOffer

/-- Our offer as reading an answer leaves it, when the protocols are compatible. -/
private def offerRead (engine : OfferAnswerEngine) (localOffer : SalStreamDescription)
    (remoteCfg : SalStreamConfiguration) (localIdx : UInt32) : SalStreamDescription :=
  let localCfg := localOffer.getConfigurationAtIndex localIdx
  let matched := localOffer.setPayloadsAt localIdx (engine.outgoingMatch localCfg remoteCfg).2
  if downgradesAnswer localCfg remoteCfg then matched.setProtoAt localIdx remoteCfg.proto else matched

private theorem offerRead_self (engine : OfferAnswerEngine) (localIdx : UInt32) (localOffer : SalStreamDescription) (remoteCfg : SalStreamConfiguration) :
    ∃ payloads proto, (offerRead engine localOffer remoteCfg localIdx).getConfigurationAtIndex localIdx =
      { localOffer.getConfigurationAtIndex localIdx with payloads, proto } := by
  simp only [offerRead]
  split
  · exact ⟨_, _, by rw [setProtoAt_self, setPayloadsAt_self]⟩
  · exact ⟨_, (localOffer.getConfigurationAtIndex localIdx).proto, by rw [setPayloadsAt_self]⟩

private theorem rewritten_matched (stream : SalStreamDescription) (payloads : List PayloadType)
    {remoteCfg : SalStreamConfiguration}
    (downgraded : downgradesAnswer (stream.getConfigurationAtIndex localIdx) remoteCfg = true)
    (compatible : areProtoCompatibles (stream.getConfigurationAtIndex localIdx).proto remoteCfg.proto = true) :
    Rewritten stream ((stream.setPayloadsAt localIdx payloads).setProtoAt localIdx remoteCfg.proto) := by
  refine (rewritten_setPayloadsAt ..).trans (rewritten_setProtoAt _ _ _ ?_)
  rw [setPayloadsAt_self]
  exact .inr ⟨downgradesAnswer_avpf downgraded, areProtoCompatibles_symm compatible⟩

private theorem rewritten_offerRead (engine : OfferAnswerEngine) (localOffer : SalStreamDescription) (remoteCfg : SalStreamConfiguration)
    (compatible : areProtoCompatibles (localOffer.getConfigurationAtIndex localIdx).proto remoteCfg.proto = true) :
    Rewritten localOffer (offerRead engine localOffer remoteCfg localIdx) := by
  simp only [offerRead]
  split
  next downgraded => exact rewritten_matched _ _ downgraded compatible
  next => exact rewritten_setPayloadsAt ..

variable (engine localIdx remoteIdx) in
/-- The streams as reading an answer against one of our configurations leaves them. -/
theorem initiateOutgoingConfiguration_streams (localOffer remoteAnswer result : SalStreamDescription) :
    let localCfg := localOffer.getConfigurationAtIndex localIdx
    let remoteCfg := remoteAnswer.getConfigurationAtIndex remoteIdx
    let present := !(localCfg.isEmptyObject || remoteCfg.isEmptyObject)
    let matched := localOffer.setPayloadsAt localIdx (engine.outgoingMatch localCfg remoteCfg).2
    let attempt := engine.initiateOutgoingConfiguration localOffer remoteAnswer result localIdx remoteIdx
    attempt.localStream =
        (if present then
          if areProtoCompatibles localCfg.proto remoteCfg.proto && downgradesAnswer localCfg remoteCfg then
            matched.setProtoAt localIdx remoteCfg.proto
          else matched
        else localOffer) ∧
      attempt.remoteStream = remoteAnswer := by
  simp only [initiateOutgoingConfiguration, outgoingMatch]
  split
  next absent => simp [absent]
  next present =>
    rw [Bool.not_eq_true] at present
    simp only [present, Bool.not_false, if_true]
    split
    next incompatible =>
      rw [Bool.not_eq_true'] at incompatible
      simp [incompatible]
    next compatible =>
      rw [Bool.not_eq_true', Bool.not_eq_false] at compatible
      simp [compatible]

variable (engine localIdx remoteIdx) in
theorem initiateOutgoingConfiguration_rewrites (localOffer remoteAnswer result : SalStreamDescription) :
    let attempt := engine.initiateOutgoingConfiguration localOffer remoteAnswer result localIdx remoteIdx
    Rewritten localOffer attempt.localStream ∧ attempt.remoteStream = remoteAnswer := by
  obtain ⟨localStream, remoteStream⟩ :=
    engine.initiateOutgoingConfiguration_streams localIdx remoteIdx localOffer remoteAnswer result
  refine ⟨?_, remoteStream⟩
  rw [localStream]
  split
  · split
    next downgraded =>
      rw [Bool.and_eq_true] at downgraded
      exact rewritten_matched _ _ downgraded.2 downgraded.1
    next => exact rewritten_setPayloadsAt ..
  · exact .refl localOffer

private theorem nested_ite (condition : Bool) (first second : α) :
    (if condition then first else if condition then first else second) = if condition then first else second := by
  cases condition <;> rfl

theorem initiateOutgoingConfiguration_some {localOffer remoteAnswer result : SalStreamDescription}
    {cfg : SalStreamConfiguration}
    (succeeded :
      (engine.initiateOutgoingConfiguration localOffer remoteAnswer result localIdx remoteIdx).outcome = some cfg) :
    let localCfg := localOffer.getConfigurationAtIndex localIdx
    let remoteCfg := remoteAnswer.getConfigurationAtIndex remoteIdx
    localCfg.isEmptyObject = false ∧ remoteCfg.isEmptyObject = false ∧
      areProtoCompatibles localCfg.proto remoteCfg.proto = true ∧
      OutgoingAccepted localCfg remoteCfg
        { result.getActualConfiguration with
          payloads := (engine.outgoingMatch localCfg remoteCfg).1
          proto := remoteCfg.proto }
        cfg localOffer.supportedEncryption := by
  intro localCfg remoteCfg
  simp only [initiateOutgoingConfiguration] at succeeded
  split at succeeded
  next => simp at succeeded
  next present =>
    rw [Bool.not_eq_true, Bool.or_eq_false_iff] at present
    split at succeeded
    next => simp at succeeded
    next compatible =>
      rw [Bool.not_eq_true', Bool.not_eq_false] at compatible
      change engine.acceptOutgoing (offerRead engine localOffer remoteCfg localIdx) _ _ _ _ = _ at succeeded
      have accepted := acceptOutgoing_some succeeded
      obtain ⟨_, _, same⟩ := offerRead_self engine localIdx localOffer remoteCfg
      rw [same, (rewritten_offerRead _ _ _ compatible).supportedEncryption, outgoingBundle_eq] at accepted
      refine ⟨present.1, present.2, compatible, accepted.payloads, accepted.nonempty, accepted.codec, accepted.proto,
        ?_, ?_, accepted.rtcpMux, accepted.crypto, accepted.dtlsFingerprint, accepted.dtlsRole, accepted.index⟩
      · exact accepted.mid.trans (nested_ite ..)
      · exact accepted.bundleOnly.trans (nested_ite ..)

/-- What makes reading an answer against one of our configurations succeed. -/
structure Readable (engine : OfferAnswerEngine) (localOffer remoteAnswer : SalStreamDescription)
    (localIdx remoteIdx : UInt32) : Prop where
  localPresent : (localOffer.getConfigurationAtIndex localIdx).isEmptyObject = false
  remotePresent : (remoteAnswer.getConfigurationAtIndex remoteIdx).isEmptyObject = false
  compatible : areProtoCompatibles (localOffer.getConfigurationAtIndex localIdx).proto
    (remoteAnswer.getConfigurationAtIndex remoteIdx).proto = true
  unicast : engine.isMulticast localOffer.rtpAddr = false
  nonempty : (engine.outgoingMatch (localOffer.getConfigurationAtIndex localIdx)
    (remoteAnswer.getConfigurationAtIndex remoteIdx)).1 ≠ []
  codec : onlyTelephoneEvent (engine.outgoingMatch (localOffer.getConfigurationAtIndex localIdx)
    (remoteAnswer.getConfigurationAtIndex remoteIdx)).1 = false
  crypto : (remoteAnswer.getConfigurationAtIndex remoteIdx).hasSrtp → .srtp ∈ localOffer.supportedEncryption ∧
    ∃ line, matchCryptoAlgo (localOffer.getConfigurationAtIndex localIdx).crypto
      (remoteAnswer.getConfigurationAtIndex remoteIdx).crypto {} false = (true, line)
  zrtp : localIdx ≠ actualConfigurationIndex ∨ remoteIdx ≠ actualConfigurationIndex →
    (localOffer.getConfigurationAtIndex localIdx).haveZrtpHash =
        (remoteAnswer.getConfigurationAtIndex remoteIdx).haveZrtpHash ∧
      ((localOffer.getConfigurationAtIndex localIdx).haveZrtpHash = 1 → .zrtp ∈ localOffer.supportedEncryption)
  dtls : bothHaveDtls (localOffer.getConfigurationAtIndex localIdx) (remoteAnswer.getConfigurationAtIndex remoteIdx) →
    .dtls ∈ localOffer.supportedEncryption

theorem bind_succeeds {first : Option α} {next : α → Option β} (succeeds : ∃ value, first = some value)
    (rest : ∀ value, first = some value → ∃ result, next value = some result) :
    ∃ result, first.bind next = some result := by
  obtain ⟨value, rfl⟩ := succeeds
  exact rest value rfl

theorem acceptOutgoing_succeeds {localOffer remoteAnswer : SalStreamDescription} {start : SalStreamConfiguration}
    (unicast : engine.isMulticast localOffer.rtpAddr = false) (nonempty : start.payloads ≠ [])
    (codec : onlyTelephoneEvent start.payloads = false)
    (crypto : start.hasSrtp → .srtp ∈ localOffer.supportedEncryption ∧
      ∃ line, matchCryptoAlgo (localOffer.getConfigurationAtIndex localIdx).crypto
        (remoteAnswer.getConfigurationAtIndex remoteIdx).crypto {} false = (true, line))
    (zrtp : localIdx ≠ actualConfigurationIndex ∨ remoteIdx ≠ actualConfigurationIndex →
      (localOffer.getConfigurationAtIndex localIdx).haveZrtpHash =
          (remoteAnswer.getConfigurationAtIndex remoteIdx).haveZrtpHash ∧
        ((localOffer.getConfigurationAtIndex localIdx).haveZrtpHash = 1 → .zrtp ∈ localOffer.supportedEncryption))
    (dtls : bothHaveDtls (localOffer.getConfigurationAtIndex localIdx) (remoteAnswer.getConfigurationAtIndex remoteIdx) →
      .dtls ∈ localOffer.supportedEncryption) :
    ∃ cfg, engine.acceptOutgoing localOffer remoteAnswer localIdx remoteIdx start = some cfg := by
  simp only [acceptOutgoing, bind, pure, outgoingBundle_eq]
  refine bind_succeeds ⟨_, by simp only [unicast]; rfl⟩ ?_
  intro packetized packetization
  obtain ⟨dir, ttl, rfl⟩ := outgoingPacketization_some packetization
  refine bind_succeeds ⟨_, requirePayloads_succeeds nonempty codec⟩ ?_
  intro usable payloads
  obtain ⟨rfl, _, _⟩ := requirePayloads_some payloads
  refine bind_succeeds (negotiateCrypto_succeeds _ crypto) ?_
  intro ciphered _
  refine bind_succeeds (fillZrtpAttributes_succeeds _ zrtp) ?_
  intro hashed _
  refine bind_succeeds (outgoingDtls_succeeds _ dtls) ?_
  intro keyed _
  exact ⟨_, rfl⟩

theorem Readable.succeeds {localOffer remoteAnswer : SalStreamDescription}
    (readable : Readable engine localOffer remoteAnswer localIdx remoteIdx) (result : SalStreamDescription) :
    ∃ cfg, (engine.initiateOutgoingConfiguration localOffer remoteAnswer result localIdx remoteIdx).outcome = some cfg := by
  simp only [initiateOutgoingConfiguration, readable.localPresent, readable.remotePresent, readable.compatible,
    Bool.or_self, Bool.not_true, Bool.false_eq_true, if_false]
  obtain ⟨_, _, same⟩ := offerRead_self engine localIdx localOffer (remoteAnswer.getConfigurationAtIndex remoteIdx)
  have rewritten := rewritten_offerRead engine localOffer _ readable.compatible
  change ∃ cfg, engine.acceptOutgoing (offerRead engine localOffer (remoteAnswer.getConfigurationAtIndex remoteIdx)
    localIdx) _ _ _ _ = some cfg
  apply acceptOutgoing_succeeds
  · rw [rewritten.rtpAddr]
    exact readable.unicast
  · exact readable.nonempty
  · exact readable.codec
  · rw [rewritten.supportedEncryption, same]
    exact readable.crypto
  · rw [rewritten.supportedEncryption, same]
    exact readable.zrtp
  · rw [rewritten.supportedEncryption, same]
    exact readable.dtls

end OfferAnswerEngine
end Liblinphone
