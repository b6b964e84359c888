import Liblinphone.Proofs.NegotiationFrame
import Liblinphone.Proofs.PayloadMatching
import Liblinphone.Proofs.StreamNegotiation

/-! What a failed try leaves behind. It may rewrite the format of redundant text and
downgrade an offered protocol, but it does not change which pairs of configurations
are accepted later. -/

namespace Liblinphone

open SalStreamDescription

section Payloads

/-- What the matcher of redundant text leaves alone. -/
def eraseRed (pt : PayloadType) : PayloadType := if pt.isMime "red" then { pt with recvFmtp := none } else pt

theorem eraseRed_eq (pt : PayloadType) : ∃ recvFmtp, eraseRed pt = { pt with recvFmtp := recvFmtp } := by
  unfold eraseRed
  split
  next => exact ⟨none, rfl⟩
  next => exact ⟨pt.recvFmtp, rfl⟩

theorem eraseRed_mimeType (pt : PayloadType) : (eraseRed pt).mimeType = pt.mimeType := by
  obtain ⟨recvFmtp, same⟩ := eraseRed_eq pt
  rw [same]

variable {first second : List PayloadType}

/-- A search that does not read the format finds a payload of the same name. -/
theorem find?_mimeType {found : PayloadType → Bool} (blind : ∀ pt, found (eraseRed pt) = found pt)
    (same : first.map eraseRed = second.map eraseRed) :
    (first.find? found).map PayloadType.mimeType = (second.find? found).map PayloadType.mimeType := by
  have through : ∀ payloads : List PayloadType, (payloads.find? found).map PayloadType.mimeType =
      ((payloads.map eraseRed).find? found).map PayloadType.mimeType := by
    intro payloads
    rw [List.find?_map, Option.map_map]
    simp only [Function.comp_def, blind, eraseRed_mimeType]
  rw [through first, through second, same]

theorem isMime_eraseRed (name : String) (pt : PayloadType) : (eraseRed pt).isMime name = pt.isMime name := by
  rw [PayloadType.isMime, PayloadType.isMime, eraseRed_mimeType]

theorem redResult_eq (pt : PayloadType) (remotePayloads : List PayloadType) :
    ∃ recvFmtp, redResult pt remotePayloads = { pt with recvFmtp := recvFmtp } := by
  unfold redResult
  split
  next t140 => exact ⟨_, rfl⟩
  next => exact ⟨pt.recvFmtp, rfl⟩

/-- The matcher of redundant text only writes the format of what it finds. -/
theorem redMatch_kept (remotePayloads payloads : List PayloadType) :
    (redMatch remotePayloads payloads).2.map eraseRed = payloads.map eraseRed := by
  induction payloads with
  | nil => rfl
  | cons pt rest following =>
    unfold redMatch
    split
    next red =>
      obtain ⟨recvFmtp, same⟩ := redResult_eq pt remotePayloads
      have renamed : ({ pt with recvFmtp := recvFmtp } : PayloadType).isMime "red" = true := red
      simp only [same, List.map_cons, eraseRed, red, renamed, if_true]
    next => rw [List.map_cons, following, List.map_cons]

theorem redMatch_mimeType (remotePayloads payloads : List PayloadType) :
    (redMatch remotePayloads payloads).1.map PayloadType.mimeType =
      (payloads.find? (·.isMime "red")).map PayloadType.mimeType := by
  induction payloads with
  | nil => rfl
  | cons pt rest following =>
    unfold redMatch
    split
    next red =>
      obtain ⟨recvFmtp, same⟩ := redResult_eq pt remotePayloads
      rw [List.find?_cons, red, same]
      rfl
    next other => rw [List.find?_cons, Bool.eq_false_of_not_eq_true other, following]

end Payloads

namespace OfferAnswerEngine

variable {engine : OfferAnswerEngine} {first second : List PayloadType}

/-- The matchers of the media library do not read the format of local redundant text. -/
def IgnoresRed (engine : OfferAnswerEngine) : Prop :=
  ∀ mime matcher, engine.msFactory.createOfferAnswerContext mime = some (.external matcher) →
    ∀ first second refpt remotePayloads readingResponse, first.map eraseRed = second.map eraseRed →
      (matcher first refpt remotePayloads readingResponse).map PayloadType.mimeType =
        (matcher second refpt remotePayloads readingResponse).map PayloadType.mimeType

section BestMatch

variable (refpt : PayloadType) (remotePayloads : List PayloadType) (readingResponse : Bool)

theorem findPayloadTypeBestMatch_kept (localPayloads : List PayloadType) :
    (engine.findPayloadTypeBestMatch localPayloads refpt remotePayloads readingResponse).2.map eraseRed =
      localPayloads.map eraseRed := by
  rw [findPayloadTypeBestMatch_local]
  split
  next => exact redMatch_kept remotePayloads localPayloads
  next => rfl

theorem findPayloadTypeBestMatch_mimeType (ignores : engine.IgnoresRed) (same : first.map eraseRed = second.map eraseRed) :
    (engine.findPayloadTypeBestMatch first refpt remotePayloads readingResponse).1.map PayloadType.mimeType =
      (engine.findPayloadTypeBestMatch second refpt remotePayloads readingResponse).1.map PayloadType.mimeType := by
  have reversed : first.reverse.map eraseRed = second.reverse.map eraseRed := by
    rw [List.map_reverse, List.map_reverse, same]
  unfold findPayloadTypeBestMatch
  split
  next provider found =>
    obtain ⟨mime, -, registered⟩ := Option.bind_eq_some_iff.mp found
    cases provider with
    | opus =>
      simp only [MSOfferAnswerProvider.matchPayload, opusMatch]
      split
      next => exact find?_mimeType (isMime_eraseRed "opus") same
      next =>
        split
        next =>
          rw [Option.map_map, Option.map_map]
          exact find?_mimeType (isMime_eraseRed "opus") reversed
        next => rfl
    | g729A =>
      apply find?_mimeType _ reversed
      intro pt
      obtain ⟨recvFmtp, erased⟩ := eraseRed_eq pt
      rw [erased]
      rfl
    | red =>
      simp only [MSOfferAnswerProvider.matchPayload, redMatch_mimeType]
      exact find?_mimeType (isMime_eraseRed "red") same
    | external matcher => exact ignores mime matcher registered first second refpt remotePayloads readingResponse same
  next =>
    apply find?_mimeType _ same
    intro pt
    obtain ⟨recvFmtp, erased⟩ := eraseRed_eq pt
    rw [erased]
    rfl

end BestMatch

section Matching

variable (remotePayloads : List PayloadType) (bundleEnabled : Bool)

/-- Two states of the loop over the offered payloads that differ in formats only. -/
structure SameNames (first second : MatchState) : Prop where
  res : first.res.map PayloadType.mimeType = second.res.map PayloadType.mimeType
  foundCodec : first.foundCodec = second.foundCodec
  localPayloads : first.localPayloads.map eraseRed = second.localPayloads.map eraseRed

theorem acceptedEntries_mimeType (matched p2 : PayloadType) :
    (engine.acceptedEntries matched p2 false).map PayloadType.mimeType = [matched.mimeType] := by
  have kept := (engine.acceptPayload_kept matched p2 false).1
  simp only [acceptedEntries, Bool.false_and, Bool.false_eq_true, if_false, List.map_cons, List.map_nil, kept]

theorem matchPayload_alike (ignores : engine.IgnoresRed) {left right : MatchState} (alike : SameNames left right)
    (p2 : PayloadType) : SameNames (engine.matchPayload remotePayloads false bundleEnabled left p2)
      (engine.matchPayload remotePayloads false bundleEnabled right p2) := by
  have names := findPayloadTypeBestMatch_mimeType p2 remotePayloads false ignores alike.localPayloads
  have kept : (engine.findPayloadTypeBestMatch left.localPayloads p2 remotePayloads false).2.map eraseRed =
      (engine.findPayloadTypeBestMatch right.localPayloads p2 remotePayloads false).2.map eraseRed := by
    rw [findPayloadTypeBestMatch_kept, findPayloadTypeBestMatch_kept, alike.localPayloads]
  simp only [matchPayload]
  cases one : (engine.findPayloadTypeBestMatch left.localPayloads p2 remotePayloads false).1 with
  | none =>
    cases two : (engine.findPayloadTypeBestMatch right.localPayloads p2 remotePayloads false).1 with
    | none => exact ⟨alike.res, alike.foundCodec, kept⟩
    | some matched => simp [one, two] at names
  | some matched =>
    cases two : (engine.findPayloadTypeBestMatch right.localPayloads p2 remotePayloads false).1 with
    | none => simp [one, two] at names
    | some other =>
      have name : matched.mimeType = other.mimeType := by simpa [one, two] using names
      have mime : ∀ text, matched.isMime text = other.isMime text := by
        intro text
        rw [PayloadType.isMime, PayloadType.isMime, name]
      simp only [mime, alike.foundCodec]
      split
      next => exact ⟨alike.res, rfl, kept⟩
      next =>
        split
        next => exact ⟨alike.res, rfl, kept⟩
        next =>
          refine ⟨?_, rfl, kept⟩
          rw [List.map_append, List.map_append, acceptedEntries_mimeType, acceptedEntries_mimeType, alike.res, name]

/-- Whether a codec is found does not depend on the format of redundant text, which is
all that the matchers write. -/
theorem matchPayloads_alike (ignores : engine.IgnoresRed) (same : first.map eraseRed = second.map eraseRed) :
    onlyTelephoneEvent (engine.matchPayloads first remotePayloads false bundleEnabled).1 =
      onlyTelephoneEvent (engine.matchPayloads second remotePayloads false bundleEnabled).1 := by
  have folded : ∀ (rest : List PayloadType) (left right : MatchState), SameNames left right →
      SameNames (rest.foldl (engine.matchPayload remotePayloads false bundleEnabled) left)
        (rest.foldl (engine.matchPayload remotePayloads false bundleEnabled) right) := by
    intro rest
    induction rest with
    | nil => exact fun _ _ alike => alike
    | cons p2 others following =>
      exact fun left right alike => following _ _ (matchPayload_alike remotePayloads bundleEnabled ignores alike p2)
  have alike := folded remotePayloads { localPayloads := first } { localPayloads := second } ⟨rfl, rfl, same⟩
  have named : ∀ payloads : List PayloadType,
      onlyTelephoneEvent (payloads.insertionSort fun p1 p2 => priorityLe p1 p2) =
        (payloads.map PayloadType.mimeType).all fun mime => mime.any (sameIgnoringCase · "telephone-event") := by
    intro payloads
    rw [onlyTelephoneEvent, (List.perm_insertionSort _ payloads).all_eq, List.all_map]
    rfl
  simp only [matchPayloads, Bool.false_eq_true, if_false, named, alike.res]

theorem matchPayloads_kept (localPayloads : List PayloadType) :
    (engine.matchPayloads localPayloads remotePayloads false bundleEnabled).2.map eraseRed =
      localPayloads.map eraseRed := by
  rw [matchPayloads_local]
  split
  next => exact redMatch_kept remotePayloads localPayloads
  next => rfl

end Matching

section Acceptance

variable (engine) (bundleOwnerMid : String) (localIdx remoteIdx : UInt32)

/-- What is asked of a pair of configurations beside compatible protocols. -/
@[mk_iff] structure Acceptable (localCap remoteOffer : SalStreamDescription) (proto : SalMediaProto) (payloads : List PayloadType) :
    Prop where
  unicast : engine.isMulticast remoteOffer.rtpAddr = true → proto.hasSrtp = false
  codec : onlyTelephoneEvent payloads = false
  enabled : remoteOffer.enabled = true
  crypto : proto.hasSrtp = true → .srtp ∈ localCap.supportedEncryption ∧
    ∃ line, matchCryptoAlgo (localCap.getConfigurationAtIndex localIdx).crypto
      (remoteOffer.getConfigurationAtIndex remoteIdx).crypto {} true = (true, line)
  zrtp : localIdx ≠ actualConfigurationIndex ∨ remoteIdx ≠ actualConfigurationIndex →
    (localCap.getConfigurationAtIndex localIdx).haveZrtpHash =
        (remoteOffer.getConfigurationAtIndex remoteIdx).haveZrtpHash ∧
      ((localCap.getConfigurationAtIndex localIdx).haveZrtpHash = 1 → .zrtp ∈ localCap.supportedEncryption)
  dtls : bothHaveDtls (localCap.getConfigurationAtIndex localIdx) (remoteOffer.getConfigurationAtIndex remoteIdx) = true →
    .dtls ∈ localCap.supportedEncryption

variable {engine} {localIdx remoteIdx} {localCap remoteOffer : SalStreamDescription}

theorem incomingPacketization_isSome_iff {multicast : Bool} {localCfg remoteCfg start : SalStreamConfiguration} :
    (incomingPacketization multicast localCfg remoteCfg start).isSome = true ↔
      (multicast = true → start.proto.hasSrtp = false) := by
  cases multicast with
  | false => simp [incomingPacketization]
  | true =>
    by_cases encrypted : start.proto.hasSrtp = true
    · simp [incomingPacketization, SalStreamConfiguration.hasSrtp, encrypted]
    · simp [incomingPacketization, SalStreamConfiguration.hasSrtp, encrypted]

theorem fillZrtpAttributes_supported {before after : SalStreamConfiguration}
    (succeeded : fillZrtpAttributes localCap localIdx remoteOffer remoteIdx before = some after)
    (potential : localIdx ≠ actualConfigurationIndex ∨ remoteIdx ≠ actualConfigurationIndex)
    (hashed : (localCap.getConfigurationAtIndex localIdx).haveZrtpHash = 1) : .zrtp ∈ localCap.supportedEncryption := by
  have other : (!(localIdx == actualConfigurationIndex) || !(remoteIdx == actualConfigurationIndex)) = true := by
    simpa using potential
  by_contra missing
  simp [fillZrtpAttributes, other, hashed, missing] at succeeded

theorem incomingDtls_isSome_iff {availableEncs : List LinphoneMediaEncryption}
    {localCfg remoteCfg before : SalStreamConfiguration} :
    (incomingDtls availableEncs localCfg remoteCfg before).isSome = true ↔
      (bothHaveDtls localCfg remoteCfg = true → .dtls ∈ availableEncs) := by
  simp only [incomingDtls]
  split
  next both =>
    by_cases supported : .dtls ∈ availableEncs
    · simp only [List.contains_eq_mem, supported, decide_true, Bool.not_true, Bool.false_eq_true, if_false, implies_true,
        iff_true]
      split <;> rfl
    · simp [supported, both]
  next single => simp [single]

theorem acceptIncoming_isSome_iff {start : SalStreamConfiguration} :
    (engine.acceptIncoming localCap remoteOffer localIdx remoteIdx start).isSome = true ↔
      engine.Acceptable localIdx remoteIdx localCap remoteOffer start.proto start.payloads := by
  constructor
  · intro accepted
    obtain ⟨cfg, accepted⟩ := Option.isSome_iff_exists.mp accepted
    simp only [acceptIncoming, bind, pure, Option.bind_eq_some_iff, Option.some.injEq] at accepted
    obtain ⟨packetized, packetization, usable, payloads, offered, enabled, ciphered, crypto, hashed, zrtp, keyed, dtls,
      rfl⟩ := accepted
    have unicast := incomingPacketization_isSome_iff.mp (Option.isSome_of_eq_some packetization)
    obtain ⟨ptime, maxptime, ttl, rfl⟩ := incomingPacketization_some packetization
    obtain ⟨rfl, -, codec⟩ := requirePayloads_some payloads
    simp only [requireEnabled, Option.ite_none_right_eq_some, Option.some.injEq] at enabled
    obtain ⟨enabled, rfl⟩ := enabled
    obtain ⟨lines, rfl, suites⟩ := negotiateCrypto_some crypto
    refine ⟨unicast, codec, enabled, ?_, ?_, incomingDtls_isSome_iff.mp (Option.isSome_of_eq_some dtls)⟩
    · intro encrypted
      obtain ⟨supported, line, found, -⟩ := suites encrypted
      exact ⟨supported, line, found⟩
    · intro potential
      exact ⟨(fillZrtpAttributes_some zrtp).2 potential, fillZrtpAttributes_supported zrtp potential⟩
  · intro acceptable
    have nonempty : start.payloads ≠ [] := by
      intro none
      have codec := acceptable.codec
      rw [none] at codec
      exact Bool.noConfusion codec
    apply Option.isSome_iff_exists.mpr
    simp only [acceptIncoming, bind, pure]
    refine bind_succeeds (Option.isSome_iff_exists.mp (incomingPacketization_isSome_iff.mpr acceptable.unicast)) ?_
    intro packetized packetization
    obtain ⟨ptime, maxptime, ttl, rfl⟩ := incomingPacketization_some packetization
    refine bind_succeeds ⟨_, requirePayloads_succeeds nonempty acceptable.codec⟩ ?_
    intro usable payloads
    obtain ⟨rfl, _, _⟩ := requirePayloads_some payloads
    refine bind_succeeds ⟨_, if_pos acceptable.enabled⟩ ?_
    intro offered enabled
    obtain rfl := Option.some.inj ((if_pos acceptable.enabled).symm.trans enabled)
    refine bind_succeeds (negotiateCrypto_succeeds _ acceptable.crypto) ?_
    intro ciphered _
    refine bind_succeeds (fillZrtpAttributes_succeeds _ acceptable.zrtp) ?_
    intro hashed _
    refine bind_succeeds (Option.isSome_iff_exists.mp (incomingDtls_isSome_iff.mpr acceptable.dtls)) ?_
    intro keyed _
    exact ⟨_, rfl⟩

/-- Rewriting codecs and protocols matters only to what is asked of them. -/
theorem acceptable_congr {localAfter remoteAfter : SalStreamDescription} (left : Rewritten localCap localAfter)
    (right : Rewritten remoteOffer remoteAfter) {first second : SalMediaProto} (protos : first.hasSrtp = second.hasSrtp)
    {payloads others : List PayloadType} (codecs : onlyTelephoneEvent payloads = onlyTelephoneEvent others) :
    engine.Acceptable localIdx remoteIdx localAfter remoteAfter first payloads ↔
      engine.Acceptable localIdx remoteIdx localCap remoteOffer second others := by
  obtain ⟨_, _, mine, -⟩ := left.stored localIdx
  obtain ⟨_, _, theirs, -⟩ := right.stored remoteIdx
  rw [acceptable_iff, acceptable_iff, right.rtpAddr, right.enabled, left.supportedEncryption, mine, theirs, protos, codecs]
  exact Iff.rfl

/-- A configuration for which a codec is found is there. -/
theorem present_of_codec {localCfg remoteCfg : SalStreamConfiguration}
    (sendable : ∀ pt ∈ remoteCfg.payloads, SalStreamConfiguration.isRecvOnly pt = false)
    (codec : onlyTelephoneEvent (engine.incomingMatch localCfg remoteCfg bundleOwnerMid).1 = false) :
    remoteCfg.isEmptyObject = false := by
  by_contra empty
  have received := SalStreamConfiguration.isEmptyObject_payloads (Bool.eq_true_of_not_eq_false empty)
  cases listed : remoteCfg.payloads with
  | nil =>
    rw [incomingMatch, listed] at codec
    exact Bool.noConfusion codec
  | cons pt rest =>
    rw [listed] at received sendable
    rw [List.all_cons, sendable pt List.mem_cons_self] at received
    exact Bool.noConfusion received

/-- When a pair of configurations is accepted. -/
theorem initiateIncomingConfiguration_isSome_iff (result : SalStreamDescription)
    (sendable : ∀ pt ∈ (remoteOffer.getConfigurationAtIndex remoteIdx).payloads,
      SalStreamConfiguration.isRecvOnly pt = false) :
    let localCfg := localCap.getConfigurationAtIndex localIdx
    let remoteCfg := remoteOffer.getConfigurationAtIndex remoteIdx
    (engine.initiateIncomingConfiguration localCap remoteOffer result bundleOwnerMid localIdx remoteIdx).outcome.isSome =
        true ↔
      localCfg.isEmptyObject = false ∧ areProtoCompatibles localCfg.proto remoteCfg.proto = true ∧
        engine.Acceptable localIdx remoteIdx localCap remoteOffer remoteCfg.proto
          (engine.incomingMatch localCfg remoteCfg bundleOwnerMid).1 := by
  intro localCfg remoteCfg
  simp only [initiateIncomingConfiguration]
  split
  next absent =>
    simp only [Option.isSome_none, Bool.false_eq_true, false_iff]
    rintro ⟨present, -, acceptable⟩
    have offered := present_of_codec bundleOwnerMid sendable acceptable.codec
    have both : (localCfg.isEmptyObject || remoteCfg.isEmptyObject) = false := by rw [present, offered, Bool.or_false]
    exact Bool.false_ne_true (both.symm.trans absent)
  next present =>
    rw [Bool.not_eq_true, Bool.or_eq_false_iff] at present
    split
    next incompatible =>
      rw [Bool.not_eq_true'] at incompatible
      simp [localCfg, remoteCfg, incompatible]
    next compatible =>
      rw [Bool.not_eq_true', Bool.not_eq_false] at compatible
      have protos : (incomingProto localCfg remoteCfg).hasSrtp = remoteCfg.proto.hasSrtp := by
        unfold incomingProto
        split
        next => exact hasSrtp_of_compatible compatible
        next => rfl
      rw [acceptIncoming_isSome_iff, offer_downgraded]
      have same := @acceptable_congr engine localIdx remoteIdx localCap remoteOffer _ _
        (rewritten_setPayloadsAt localCap localIdx (engine.incomingMatch localCfg remoteCfg bundleOwnerMid).2)
        (rewritten_downgraded localCfg remoteOffer compatible) _ _ protos
        (engine.incomingMatch localCfg remoteCfg bundleOwnerMid).1 _ rfl
      exact same.trans ⟨fun acceptable => ⟨present.1, compatible, acceptable⟩, fun accepted => accepted.2.2⟩

end Acceptance

section Tries

variable {localCap remoteOffer : SalStreamDescription}

/-- What failed tries leave as it was: the offer up to compatible protocols, and the local
configurations up to the format of redundant text. -/
structure Unharmed (localCap remoteOffer : SalStreamDescription) (streams : StreamPair) : Prop
    extends IncomingKept localCap remoteOffer streams where
  names : ∀ index, (streams.1.getConfigurationAtIndex index).payloads.map eraseRed =
    (localCap.getConfigurationAtIndex index).payloads.map eraseRed
  protos : ∀ index, (streams.1.getConfigurationAtIndex index).proto = (localCap.getConfigurationAtIndex index).proto

theorem Unharmed.refl : Unharmed localCap remoteOffer (localCap, remoteOffer) :=
  ⟨⟨.refl _, .refl _, fun _ => rfl⟩, fun _ => rfl, fun _ => rfl⟩

theorem attemptIncoming_unharmed (result : SalStreamDescription) (bundleOwnerMid : String) {current : StreamPair}
    (candidate : UInt32 × UInt32) (unharmed : Unharmed localCap remoteOffer current) :
    Unharmed localCap remoteOffer (engine.attemptIncoming result bundleOwnerMid current candidate).2 := by
  obtain ⟨kept, names, protos⟩ := unharmed
  refine ⟨attemptIncoming_kept engine localCap remoteOffer result bundleOwnerMid current candidate kept, ?_, ?_⟩
  · intro index
    rw [← names index]
    simp only [attemptIncoming]
    rw [(initiateIncomingConfiguration_streams ..).1]
    split
    next =>
      rw [setPayloadsAt, getConfigurationAtIndex_add]
      split
      next same =>
        subst same
        exact matchPayloads_kept ..
      next => rfl
    next => rfl
  · intro index
    rw [← protos index]
    simp only [attemptIncoming]
    rw [(initiateIncomingConfiguration_streams ..).1]
    split
    next =>
      rw [setPayloadsAt, getConfigurationAtIndex_add]
      split
      next same => rw [same]
      next => rfl
    next => rfl

/-- What is sent in an offer can be received by the one who reads it. -/
def Sendable (remoteOffer : SalStreamDescription) : Prop :=
  ∀ index, ∀ pt ∈ (remoteOffer.getConfigurationAtIndex index).payloads, SalStreamConfiguration.isRecvOnly pt = false

theorem isEmptyObject_erased {cfg : SalStreamConfiguration} {payloads : List PayloadType}
    (same : payloads.map eraseRed = cfg.payloads.map eraseRed) :
    ({ cfg with payloads } : SalStreamConfiguration).isEmptyObject = cfg.isEmptyObject := by
  have blind : ∀ pt, SalStreamConfiguration.isRecvOnly (eraseRed pt) = SalStreamConfiguration.isRecvOnly pt := by
    intro pt
    obtain ⟨recvFmtp, erased⟩ := eraseRed_eq pt
    rw [erased]
    rfl
  have listed : ∀ payloads : List PayloadType, SalStreamConfiguration.isSamePayloadList payloads [] =
      (payloads.map eraseRed).all SalStreamConfiguration.isRecvOnly := by
    intro payloads
    rw [List.all_map]
    cases payloads with
    | nil => rfl
    | cons pt rest =>
      simp only [Function.comp_def, blind]
      rfl
  simp only [SalStreamConfiguration.isEmptyObject, SalStreamConfiguration.unchanged, listed, same]

theorem areProtoCompatibles_congr (proto : SalMediaProto) {before after : SalMediaProto}
    (compatible : areProtoCompatibles after before = true) :
    areProtoCompatibles proto after = areProtoCompatibles proto before := by
  rw [Bool.eq_iff_iff]
  exact ⟨fun first => areProtoCompatibles_trans first compatible,
    fun first => areProtoCompatibles_trans first (areProtoCompatibles_symm compatible)⟩

/-- Failed tries do not change which pairs are accepted. -/
theorem attemptIncoming_isSome (ignores : engine.IgnoresRed) (sendable : Sendable remoteOffer)
    (result : SalStreamDescription) (bundleOwnerMid : String) {current : StreamPair} (candidate : UInt32 × UInt32)
    (unharmed : Unharmed localCap remoteOffer current) :
    (engine.attemptIncoming result bundleOwnerMid current candidate).1.isSome =
      (engine.attemptIncoming result bundleOwnerMid (localCap, remoteOffer) candidate).1.isSome := by
  obtain ⟨⟨left, right, offered⟩, names, protos⟩ := unharmed
  obtain ⟨localIdx, remoteIdx⟩ := candidate
  obtain ⟨_, _, mine, -⟩ := left.stored localIdx
  obtain ⟨_, _, theirs, downgrade⟩ := right.stored remoteIdx
  have received := offered remoteIdx
  have erased := names localIdx
  have proto := protos localIdx
  have empty : (current.1.getConfigurationAtIndex localIdx).isEmptyObject =
      (localCap.getConfigurationAtIndex localIdx).isEmptyObject := by
    rw [mine] at erased proto ⊢
    simp only at erased proto
    rw [proto]
    exact isEmptyObject_erased erased
  have downgraded : areProtoCompatibles (current.2.getConfigurationAtIndex remoteIdx).proto
      (remoteOffer.getConfigurationAtIndex remoteIdx).proto = true := by
    rw [theirs]
    exact downgrade.compatible
  have joined : joinsBundle (current.1.getConfigurationAtIndex localIdx) (current.2.getConfigurationAtIndex remoteIdx)
      bundleOwnerMid = joinsBundle (localCap.getConfigurationAtIndex localIdx)
        (remoteOffer.getConfigurationAtIndex remoteIdx) bundleOwnerMid := by
    rw [mine, theirs]
    rfl
  have codecs : onlyTelephoneEvent (engine.incomingMatch (current.1.getConfigurationAtIndex localIdx)
      (current.2.getConfigurationAtIndex remoteIdx) bundleOwnerMid).1 =
        onlyTelephoneEvent (engine.incomingMatch (localCap.getConfigurationAtIndex localIdx)
          (remoteOffer.getConfigurationAtIndex remoteIdx) bundleOwnerMid).1 := by
    rw [incomingMatch, incomingMatch, joined, received]
    exact matchPayloads_alike _ _ ignores erased
  have stillSendable : ∀ pt ∈ (current.2.getConfigurationAtIndex remoteIdx).payloads,
      SalStreamConfiguration.isRecvOnly pt = false := by
    rw [received]
    exact sendable remoteIdx
  rw [Bool.eq_iff_iff]
  refine (initiateIncomingConfiguration_isSome_iff bundleOwnerMid result stillSendable).trans
    (Iff.trans ?_ (initiateIncomingConfiguration_isSome_iff bundleOwnerMid result (sendable remoteIdx)).symm)
  rw [acceptable_congr left right (hasSrtp_of_compatible downgraded) codecs, empty, proto,
    areProtoCompatibles_congr _ downgraded]

/-- The first pair that is accepted on the streams as they are given is the one that is found. -/
theorem search_accepted (ignores : engine.IgnoresRed) (sendable : Sendable remoteOffer)
    (result : SalStreamDescription) (bundleOwnerMid : String) (candidates : List (UInt32 × UInt32)) :
    (Library.search (engine.attemptIncoming result bundleOwnerMid) (localCap, remoteOffer) candidates).1.map Prod.fst =
      candidates.find? fun candidate =>
        (engine.attemptIncoming result bundleOwnerMid (localCap, remoteOffer) candidate).1.isSome :=
  Library.search_find (Unharmed localCap remoteOffer) _
    (fun _ candidate _ unharmed _ => attemptIncoming_unharmed result bundleOwnerMid candidate unharmed)
    (fun _ candidate _ unharmed => attemptIncoming_isSome ignores sendable result bundleOwnerMid candidate unharmed)
    .refl

end Tries

end OfferAnswerEngine

end Liblinphone
