import Liblinphone.Exchange
import Liblinphone.Proofs.PayloadMatching
import Liblinphone.Proofs.StreamNegotiation

/-! What a failed negotiation leaves behind. Negotiating a pair of configurations
writes in two places: the matcher of redundant text changes a local payload, and
an AVPF protocol is downgraded before the later checks are made. -/

namespace Liblinphone

section Red

variable (remotePayloads : List PayloadType)

private theorem redResult_isMime (pt : PayloadType) (name : String) :
    (redResult pt remotePayloads).isMime name = pt.isMime name := by
  simp only [redResult]
  split <;> rfl

private theorem redResult_again (pt : PayloadType) :
    redResult (redResult pt remotePayloads) remotePayloads = redResult pt remotePayloads := by
  simp only [redResult]
  split <;> simp_all

theorem redMatch_again (payloads : List PayloadType) :
    (redMatch remotePayloads (redMatch remotePayloads payloads).2).2 = (redMatch remotePayloads payloads).2 := by
  induction payloads with
  | nil => rfl
  | cons pt rest ih =>
    simp only [redMatch]
    split
    next red => simp [redMatch, redResult_isMime, red, redResult_again]
    next other => simp [redMatch, other, ih]

/-- The matcher of redundant text would change the local list: its payload for
redundant text does not yet name the t140 payload of the other party. -/
def redRewrites (localPayloads : List PayloadType) : Bool :=
  (localPayloads.find? (·.isMime "red")).any fun pt => redResult pt remotePayloads != pt

theorem redMatch_unchanged (payloads : List PayloadType) :
    (redMatch remotePayloads payloads).2 = payloads ↔ redRewrites remotePayloads payloads = false := by
  induction payloads with
  | nil => simp [redMatch, redRewrites]
  | cons pt rest ih =>
    simp only [redMatch, redRewrites, List.find?_cons] at ih ⊢
    split
    next red => simp [red]
    next other => simpa [other] using ih

end Red

namespace OfferAnswerEngine
open SalStreamDescription

variable (engine : OfferAnswerEngine)

/-- A payload that the engine hands to the matcher of redundant text. -/
def matchedAsRed (p2 : PayloadType) : Bool :=
  match p2.mimeType.bind engine.msFactory.createOfferAnswerContext with
  | some .red => true
  | _ => false

theorem findPayloadTypeBestMatch_local (localPayloads remotePayloads : List PayloadType) (p2 : PayloadType)
    (readingResponse : Bool) :
    (engine.findPayloadTypeBestMatch localPayloads p2 remotePayloads readingResponse).2 =
      if engine.matchedAsRed p2 then (redMatch remotePayloads localPayloads).2 else localPayloads := by
  simp only [findPayloadTypeBestMatch, matchedAsRed]
  split
  next provider found =>
    simp only [found]
    cases provider <;> simp [MSOfferAnswerProvider.matchPayload]
  next found => simp [found]

theorem matchPayload_local (remotePayloads : List PayloadType) (readingResponse bundleEnabled : Bool)
    (state : MatchState) (p2 : PayloadType) :
    (engine.matchPayload remotePayloads readingResponse bundleEnabled state p2).localPayloads =
      if engine.matchedAsRed p2 then (redMatch remotePayloads state.localPayloads).2 else state.localPayloads := by
  rw [← engine.findPayloadTypeBestMatch_local state.localPayloads remotePayloads p2 readingResponse]
  simp only [matchPayload]
  split
  next => rfl
  next =>
    split
    next => rfl
    next => split <;> rfl

/-- The local list after the loop. The matcher of redundant text gives the same
list however often it is called. -/
theorem matchPayloads_local (localPayloads remotePayloads : List PayloadType) (readingResponse bundleEnabled : Bool) :
    (engine.matchPayloads localPayloads remotePayloads readingResponse bundleEnabled).2 =
      if remotePayloads.any engine.matchedAsRed then (redMatch remotePayloads localPayloads).2 else localPayloads := by
  have loop := Library.foldl_prefix_induction (engine.matchPayload remotePayloads readingResponse bundleEnabled)
    { localPayloads } remotePayloads
    (fun done state => state.localPayloads =
      if done.any engine.matchedAsRed then (redMatch remotePayloads localPayloads).2 else localPayloads) rfl ?_
  · simp only [matchPayloads]
    split <;> exact loop
  · intro done p2 current _ before
    rw [matchPayload_local, before]
    cases red : engine.matchedAsRed p2 with
    | false => simp only [List.any_append, List.any_cons, List.any_nil, red, Bool.or_false, Bool.false_eq_true, if_false]
    | true =>
      simp only [List.any_append, List.any_cons, List.any_nil, red, Bool.or_false, Bool.or_true, if_true]
      split
      · exact redMatch_again remotePayloads localPayloads
      · rfl

/-- Matching codecs would change the local list. -/
def matchRewrites (localCfg remoteCfg : SalStreamConfiguration) : Bool :=
  remoteCfg.payloads.any engine.matchedAsRed && redRewrites remoteCfg.payloads localCfg.payloads

theorem matchPayloads_unchanged (localCfg remoteCfg : SalStreamConfiguration) (readingResponse bundleEnabled : Bool) :
    (engine.matchPayloads localCfg.payloads remoteCfg.payloads readingResponse bundleEnabled).2 = localCfg.payloads ↔
      engine.matchRewrites localCfg remoteCfg = false := by
  rw [matchPayloads_local, matchRewrites]
  cases remoteCfg.payloads.any engine.matchedAsRed with
  | false => simp
  | true => simpa using redMatch_unchanged remoteCfg.payloads localCfg.payloads

variable (localCfg remoteCfg : SalStreamConfiguration)

/-- Negotiating this pair for an answer writes to one of the two streams. -/
def writesBackIncoming : Bool :=
  !(localCfg.isEmptyObject || remoteCfg.isEmptyObject) && (engine.matchRewrites localCfg remoteCfg ||
    (areProtoCompatibles localCfg.proto remoteCfg.proto && downgradesOffer localCfg remoteCfg))

/-- Reading an answer against this pair writes to our offer. -/
def writesBackOutgoing : Bool :=
  !(localCfg.isEmptyObject || remoteCfg.isEmptyObject) && (engine.matchRewrites localCfg remoteCfg ||
    (areProtoCompatibles localCfg.proto remoteCfg.proto && downgradesAnswer localCfg remoteCfg))

end OfferAnswerEngine

namespace SalStreamDescription

variable {stream : SalStreamDescription} {index : UInt32}

/-- Writing over a stored configuration changes nothing exactly when it writes
what was there. -/
theorem addConfigurationAtIndex_unchanged {cfg : SalStreamConfiguration}
    (present : (stream.getConfigurationAtIndex index).isEmptyObject = false) :
    (stream.addConfigurationAtIndex index cfg).cfgs = stream.cfgs ↔ cfg = stream.getConfigurationAtIndex index := by
  refine ⟨?_, ?_⟩
  · intro same
    have kept := congrArg (fun cfgs : CfgMap => cfgs[index]?.getD {}) same
    simpa [addConfigurationAtIndex, getConfigurationAtIndex] using kept
  · rintro rfl
    apply Std.ExtTreeMap.ext_getElem?
    intro other
    simp only [addConfigurationAtIndex, Std.ExtTreeMap.getElem?_insert, Std.LawfulEqCmp.compare_eq_iff_eq]
    split
    next same => rw [← same, stored_of_present present]
    next => rfl

theorem setPayloadsAt_unchanged {payloads : List PayloadType}
    (present : (stream.getConfigurationAtIndex index).isEmptyObject = false) :
    (stream.setPayloadsAt index payloads).cfgs = stream.cfgs ↔
      payloads = (stream.getConfigurationAtIndex index).payloads := by
  rw [setPayloadsAt, addConfigurationAtIndex_unchanged present]
  refine ⟨fun same => by rw [← same], ?_⟩
  rintro rfl
  rfl

theorem setProtoAt_unchanged {proto : SalMediaProto}
    (present : (stream.getConfigurationAtIndex index).isEmptyObject = false) :
    (stream.setProtoAt index proto).cfgs = stream.cfgs ↔ proto = (stream.getConfigurationAtIndex index).proto := by
  rw [setProtoAt, addConfigurationAtIndex_unchanged present]
  refine ⟨fun same => by rw [← same], ?_⟩
  rintro rfl
  rfl

theorem Rewritten.eq_of_cfgs {before after : SalStreamDescription} (rewritten : Rewritten before after)
    (same : after.cfgs = before.cfgs) : after = before := by
  rw [rewritten.rest, same]

end SalStreamDescription

namespace OfferAnswerEngine
open SalStreamDescription

variable (engine : OfferAnswerEngine) (localIdx remoteIdx : UInt32)

private theorem absent_of_not_present {localCfg remoteCfg : SalStreamConfiguration}
    (absent : ¬(localCfg.isEmptyObject = false ∧ remoteCfg.isEmptyObject = false)) :
    (localCfg.isEmptyObject || remoteCfg.isEmptyObject) = true := by
  simpa [imp_iff_or_not, or_comm] using absent

/-- Negotiating a pair for an answer leaves both streams alone exactly when it
writes nothing back. -/
theorem initiateIncomingConfiguration_unchanged (localCap remoteOffer result : SalStreamDescription)
    (bundleOwnerMid : String) :
    let attempt := engine.initiateIncomingConfiguration localCap remoteOffer result bundleOwnerMid localIdx remoteIdx
    attempt.localStream.cfgs = localCap.cfgs ∧ attempt.remoteStream.cfgs = remoteOffer.cfgs ↔
      engine.writesBackIncoming (localCap.getConfigurationAtIndex localIdx)
        (remoteOffer.getConfigurationAtIndex remoteIdx) = false := by
  intro attempt
  obtain ⟨localStream, remoteStream⟩ :=
    engine.initiateIncomingConfiguration_streams localIdx remoteIdx localCap remoteOffer result bundleOwnerMid
  rw [localStream, remoteStream, writesBackIncoming]
  by_cases present : (localCap.getConfigurationAtIndex localIdx).isEmptyObject = false ∧
      (remoteOffer.getConfigurationAtIndex remoteIdx).isEmptyObject = false
  · simp only [present.1, present.2, Bool.or_self, Bool.not_false, Bool.true_and, if_true, Bool.or_eq_false_iff]
    rw [setPayloadsAt_unchanged present.1, incomingMatch, matchPayloads_unchanged]
    refine and_congr_right fun _ => ?_
    split
    next downgraded =>
      rw [setProtoAt_unchanged present.2, downgraded]
      simp only [Bool.and_eq_true, downgradesOffer, bne_iff_ne] at downgraded
      simp [downgraded.2.1]
    next kept => simpa using kept
  · simp [absent_of_not_present present]

theorem initiateOutgoingConfiguration_unchanged (localOffer remoteAnswer result : SalStreamDescription) :
    let attempt := engine.initiateOutgoingConfiguration localOffer remoteAnswer result localIdx remoteIdx
    attempt.localStream.cfgs = localOffer.cfgs ∧ attempt.remoteStream.cfgs = remoteAnswer.cfgs ↔
      engine.writesBackOutgoing (localOffer.getConfigurationAtIndex localIdx)
        (remoteAnswer.getConfigurationAtIndex remoteIdx) = false := by
  intro attempt
  obtain ⟨localStream, remoteStream⟩ :=
    engine.initiateOutgoingConfiguration_streams localIdx remoteIdx localOffer remoteAnswer result
  rw [localStream, remoteStream, writesBackOutgoing]
  by_cases present : (localOffer.getConfigurationAtIndex localIdx).isEmptyObject = false ∧
      (remoteAnswer.getConfigurationAtIndex remoteIdx).isEmptyObject = false
  · simp only [present.1, present.2, Bool.or_self, Bool.not_false, Bool.true_and, if_true, Bool.or_eq_false_iff,
      and_true]
    split
    next downgraded =>
      rw [downgraded]
      simp only [Bool.and_eq_true, downgradesAnswer, bne_iff_ne] at downgraded
      simp only [Bool.true_eq_false, and_false, iff_false]
      intro same
      have proto := congrArg (fun cfgs : CfgMap => (cfgs[localIdx]?.getD {}).proto) same
      change (getConfigurationAtIndex _ localIdx).proto = (localOffer.getConfigurationAtIndex localIdx).proto at proto
      rw [setProtoAt_self] at proto
      exact downgraded.2.1 proto.symm
    next kept =>
      rw [setPayloadsAt_unchanged present.1, outgoingMatch, matchPayloads_unchanged]
      simpa using fun _ => kept
  · simp [absent_of_not_present present]

/-- None of the pairs that fail on the streams as they are given writes back. -/
def FailuresWriteNothing (localCap remoteOffer : SalStreamDescription) (bundleOwnerMid : String)
    (allowCapabilityNegotiation : Bool) : Prop :=
  ∀ pair ∈ incomingCandidates localCap remoteOffer allowCapabilityNegotiation,
    (engine.initiateIncomingConfiguration localCap remoteOffer (incomingSkeleton localCap remoteOffer) bundleOwnerMid
      pair.1 pair.2).outcome = none →
    engine.writesBackIncoming (localCap.getConfigurationAtIndex pair.1) (remoteOffer.getConfigurationAtIndex pair.2) = false

/-- When failures write nothing, the search settles on the first pair that
succeeds on the streams as they are given. -/
private theorem search_incoming {localCap remoteOffer : SalStreamDescription} {bundleOwnerMid : String}
    {allowCapabilityNegotiation : Bool}
    (silent : engine.FailuresWriteNothing localCap remoteOffer bundleOwnerMid allowCapabilityNegotiation) :
    let attempt := engine.attemptIncoming (incomingSkeleton localCap remoteOffer) bundleOwnerMid
    let candidates := incomingCandidates localCap remoteOffer allowCapabilityNegotiation
    Library.search attempt (localCap, remoteOffer) candidates =
      (candidates.find? (fun pair => (attempt (localCap, remoteOffer) pair).1.isSome)).elim (none, localCap, remoteOffer)
        fun pair =>
          ((attempt (localCap, remoteOffer) pair).1.map (pair, ·), (attempt (localCap, remoteOffer) pair).2) := by
  intro attempt candidates
  refine Library.search_unchanged ?_
  intro pair member failed
  obtain ⟨localSame, remoteSame⟩ := (engine.initiateIncomingConfiguration_unchanged pair.1 pair.2 localCap remoteOffer
    (incomingSkeleton localCap remoteOffer) bundleOwnerMid).mpr (silent pair member failed)
  obtain ⟨localRewritten, remoteRewritten⟩ := engine.initiateIncomingConfiguration_rewrites pair.1 pair.2 localCap
    remoteOffer (incomingSkeleton localCap remoteOffer) bundleOwnerMid
  exact Prod.ext (localRewritten.eq_of_cfgs localSame) (remoteRewritten.eq_of_cfgs remoteSame)

/-- A stream negotiation that depends on nothing but the streams as they are
given: it settles on the first pair that is accepted on them, and when there is
none it leaves them alone and answers with the protocol of the offer. -/
def NegotiatedOnInputs (localCap remoteOffer : SalStreamDescription) (bundleOwnerMid : String)
    (allowCapabilityNegotiation : Bool) : Prop :=
  let outcome := fun pair : UInt32 × UInt32 => (engine.initiateIncomingConfiguration localCap remoteOffer
    (incomingSkeleton localCap remoteOffer) bundleOwnerMid pair.1 pair.2).outcome
  let negotiated := engine.initiateIncomingStream localCap remoteOffer bundleOwnerMid allowCapabilityNegotiation
  match (incomingCandidates localCap remoteOffer allowCapabilityNegotiation).find? (fun pair => (outcome pair).isSome) with
  | some pair => outcome pair = some negotiated.result.getActualConfiguration ∧
      negotiated.localStream.cfgIndex = pair.1 ∧ negotiated.remoteStream.cfgIndex = pair.2
  | none => negotiated.result.getActualConfiguration.proto = remoteOffer.getActualConfiguration.proto ∧
      negotiated.localStream = localCap ∧ negotiated.remoteStream = remoteOffer

private theorem negotiatedOnInputs {localCap remoteOffer : SalStreamDescription} {bundleOwnerMid : String}
    {allowCapabilityNegotiation : Bool}
    (silent : engine.FailuresWriteNothing localCap remoteOffer bundleOwnerMid allowCapabilityNegotiation) :
    engine.NegotiatedOnInputs localCap remoteOffer bundleOwnerMid allowCapabilityNegotiation := by
  simp only [NegotiatedOnInputs, initiateIncomingStream, engine.search_incoming silent]
  split
  next pair found =>
    have succeeded := List.find?_some found
    obtain ⟨cfg, outcome⟩ := Option.isSome_iff_exists.mp succeeded
    simp only [attemptIncoming] at found ⊢
    simp [found, outcome]
  next missing =>
    simp only [attemptIncoming] at missing ⊢
    simp only [missing]
    refine ⟨?_, rfl, rfl⟩
    change (rejectIncomingStream remoteOffer (labelledSkeleton localCap remoteOffer)).getActualConfiguration.proto = _
    rw [rejectIncomingStream_actual _ _ rfl (labelledSkeleton_actual ..)]

/-- A failed pair of configurations leaves both streams alone exactly when the
redundant text of the other party is already known and no AVPF protocol is
downgraded. When that is so of all failing pairs, the negotiation of a stream
does not depend on them, and a rejected line keeps the protocol of the offer. -/
theorem failedNegotiation_unchanged_iff (localStream remoteStream result : SalStreamDescription)
    (bundleOwnerMid : String) :
    let localCfg := localStream.getConfigurationAtIndex localIdx
    let remoteCfg := remoteStream.getConfigurationAtIndex remoteIdx
    let incoming := engine.initiateIncomingConfiguration localStream remoteStream result bundleOwnerMid localIdx remoteIdx
    let outgoing := engine.initiateOutgoingConfiguration localStream remoteStream result localIdx remoteIdx
    (incoming.outcome = none →
      (incoming.localStream.cfgs = localStream.cfgs ∧ incoming.remoteStream.cfgs = remoteStream.cfgs ↔
        engine.writesBackIncoming localCfg remoteCfg = false)) ∧
    (outgoing.outcome = none →
      (outgoing.localStream.cfgs = localStream.cfgs ∧ outgoing.remoteStream.cfgs = remoteStream.cfgs ↔
        engine.writesBackOutgoing localCfg remoteCfg = false)) ∧
    ∀ allowCapabilityNegotiation,
      engine.FailuresWriteNothing localStream remoteStream bundleOwnerMid allowCapabilityNegotiation →
      engine.NegotiatedOnInputs localStream remoteStream bundleOwnerMid allowCapabilityNegotiation := by
  intro localCfg remoteCfg incoming outgoing
  refine ⟨fun _ => ?_, fun _ => ?_, fun _ silent => ?_⟩
  · exact engine.initiateIncomingConfiguration_unchanged localIdx remoteIdx localStream remoteStream result bundleOwnerMid
  · exact engine.initiateOutgoingConfiguration_unchanged localIdx remoteIdx localStream remoteStream result
  · exact engine.negotiatedOnInputs silent

/-- An AVPF offer without a common codec, received by a party that uses AVP: the
protocol of the offer is rewritten, and the rejected line is answered with AVP. -/
theorem failedNegotiation_rewrites_offer :
    let capability : SalStreamDescription := .ofConfiguration 7078
      { payloads := [{ mimeType := some "PCMU", clockRate := 8000, channels := 1, number := 0 }] }
    let offer : SalStreamDescription := .ofConfiguration 9078
      { proto := .rtpAvpf
        payloads := [{ mimeType := some "PCMA", clockRate := 8000, channels := 1, number := 8 }] }
    let attempt := OfferAnswerEngine.plain.initiateIncomingConfiguration capability offer
      (incomingSkeleton capability offer) "" actualConfigurationIndex actualConfigurationIndex
    attempt.outcome = none ∧ attempt.remoteStream.cfgs ≠ offer.cfgs ∧
      offer.getActualConfiguration.proto = .rtpAvpf ∧
      (OfferAnswerEngine.plain.initiateIncomingStream capability offer "" false).result.enabled = false ∧
      (OfferAnswerEngine.plain.initiateIncomingStream capability offer "" false).result.getActualConfiguration.proto =
        .rtpAvp := by
  decide

end OfferAnswerEngine
end Liblinphone
