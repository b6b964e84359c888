import Liblinphone.Exchange
import Liblinphone.Proofs.StreamNegotiation

/-! Both parties of an exchange settle on the same pair of configurations: the
answer names the offered configuration that it was negotiated with, and is read
against that one. -/

namespace Liblinphone.OfferAnswerEngine
open SalStreamDescription

variable {engine answerer offerer : OfferAnswerEngine} {localCap offer : SalStreamDescription}
  {bundleOwnerMid : String} {answererNegotiates offererNegotiates : Bool} {answer : SalStreamConfiguration}

/-- An answer names the offered configuration that it was negotiated with. -/
theorem IncomingSettled.index (settled : engine.IncomingSettled localCap offer bundleOwnerMid answer)
    (offered : OfferedStream offer offererNegotiates)
    (candidate : (settled.localIdx, settled.remoteIdx) ∈ incomingCandidates localCap offer answererNegotiates) :
    answer.index = settled.remoteIdx ∧
      (offererNegotiates = false → settled.remoteIdx = actualConfigurationIndex) := by
  have stored : settled.remoteIdx = actualConfigurationIndex ∨ settled.remoteIdx ∈ offer.cfgs := by
    simp only [incomingCandidates] at candidate
    split at candidate
    next =>
      simp only [List.mem_flatMap, List.mem_map, Prod.mk.injEq] at candidate
      obtain ⟨remoteIdx, member, _, _, _, rfl⟩ := candidate
      exact .inr (Std.ExtTreeMap.mem_keys.mp member)
    next =>
      simp only [List.mem_singleton, Prod.mk.injEq] at candidate
      exact .inl candidate.2
  have same : answer.index = (offer.getConfigurationAtIndex settled.remoteIdx).index := by
    obtain ⟨_, same, _⟩ := settled.remoteCfg_eq
    rw [settled.accepted.index, same]
  refine ⟨?_, ?_⟩
  · rw [same, getConfigurationAtIndex]
    cases found : offer.cfgs[settled.remoteIdx]? with
    | some cfg => exact offered.indexed _ _ found
    | none =>
      rcases stored with actual | member
      · rw [actual]
        rfl
      · simp [Std.ExtTreeMap.mem_iff_isSome_getElem?, found] at member
  · intro plain
    rcases stored with actual | member
    · exact actual
    · exact offered.plain plain _ member

theorem incoming_accepted
    (accepted : (engine.initiateIncomingStream localCap offer bundleOwnerMid answererNegotiates).result.accepted = true) :
    ∃ cfg, ∃ settled : engine.IncomingSettled localCap offer bundleOwnerMid cfg,
      (settled.localIdx, settled.remoteIdx) ∈ incomingCandidates localCap offer answererNegotiates ∧
      engine.initiateIncomingStream localCap offer bundleOwnerMid answererNegotiates = settled.negotiation := by
  rcases engine.initiateIncomingStream_rule localCap offer bundleOwnerMid answererNegotiates (fun _ => True) trivial
    (fun _ _ _ => trivial) with ⟨cfg, settled, _, candidate, same⟩ | ⟨_, _, _, _, rejected⟩
  · exact ⟨cfg, settled, candidate, same⟩
  · simp [rejected, SalStreamDescription.accepted,
      rejectIncomingStream_actual _ (labelledSkeleton localCap offer) rfl (labelledSkeleton_actual ..)] at accepted

private theorem skeleton_not_accepted (offer : SalStreamDescription) :
    ({ engine.outgoingSkeleton offer with multicastRole := .inactive } : SalStreamDescription).accepted = false := by
  have empty : ({ engine.outgoingSkeleton offer with multicastRole := .inactive } :
      SalStreamDescription).getActualConfiguration = {} := engine.outgoingSkeleton_actual offer
  rw [SalStreamDescription.accepted, empty]
  rfl

private theorem disabled_not_accepted (offer : SalStreamDescription) :
    (engine.outgoingSkeleton offer).disable.accepted = false := by
  rw [SalStreamDescription.accepted, disable_actual _ rfl, outgoingSkeleton_actual]
  rfl

theorem outgoing_accepted {received : SalStreamDescription}
    (accepted : (engine.initiateOutgoingStream offer received offererNegotiates).result.accepted = true) :
    ∃ cfg, ∃ settled : engine.OutgoingSettled offer received cfg,
      settled.localIdx ∈ outgoingCandidates received offererNegotiates ∧
      engine.initiateOutgoingStream offer received offererNegotiates = settled.negotiation := by
  rcases engine.initiateOutgoingStream_cases offer received offererNegotiates with
    ⟨cfg, settled, candidate, same⟩ | ⟨_, _, _, same, rfl | rfl⟩
  · exact ⟨cfg, settled, candidate, same⟩
  · simp [same, skeleton_not_accepted] at accepted
  · simp [same, disabled_not_accepted] at accepted

/-- An exchange settles on one pair of configurations when both sides accept the
stream: the one that the answerer negotiated is the one that the offerer reads
the answer against. -/
theorem exchange_settled (offered : OfferedStream offer offererNegotiates)
    (accepted : (answerer.initiateIncomingStream localCap offer bundleOwnerMid answererNegotiates).result.accepted = true)
    (readBack : (offerer.initiateOutgoingStream offer
      (carryAnswer (answerer.initiateIncomingStream localCap offer bundleOwnerMid answererNegotiates).result)
      offererNegotiates).result.accepted = true) :
    let answered := answerer.initiateIncomingStream localCap offer bundleOwnerMid answererNegotiates
    let readStream := offerer.initiateOutgoingStream offer (carryAnswer answered.result) offererNegotiates
    ∃ answer read, ∃ settled : answerer.IncomingSettled localCap offer bundleOwnerMid answer,
      ∃ back : offerer.OutgoingSettled offer (carryAnswer answered.result) read,
        answered.localStream.cfgIndex = settled.localIdx ∧ answered.remoteStream.cfgIndex = settled.remoteIdx ∧
        back.localIdx = settled.remoteIdx ∧ answered.result.getActualConfiguration = answer ∧
        readStream.result.getActualConfiguration = read := by
  intro answered readStream
  obtain ⟨answer, settled, candidate, same⟩ := incoming_accepted accepted
  obtain ⟨read, back, against, readSame⟩ := outgoing_accepted readBack
  obtain ⟨index, actual⟩ := settled.index offered candidate
  have answerCfg : answered.result.getActualConfiguration = answer := by
    simp only [answered, same]
    exact settled.result_actual
  refine ⟨answer, read, settled, back, by simp only [answered, same]; rfl, by simp only [answered, same]; rfl, ?_,
    answerCfg, ?_⟩
  · rw [outgoingCandidates_carryAnswer _ _ fun plain => by rw [answerCfg, index, actual plain], answerCfg, index] at against
    exact List.mem_singleton.mp against
  · simp only [readStream, answered, readSame]
    exact back.result_actual

section Single

variable {received : SalStreamDescription} {index : UInt32}
  (single : outgoingCandidates received offererNegotiates = [index])
include single

/-- With a single candidate, an answer is read against our offer as it was. -/
theorem initiateOutgoingStream_single :
    (offerer.initiateOutgoingStream offer received offererNegotiates).result =
      if offerer.isMulticast offer.rtpAddr && multicastMismatch offer received then
        { offerer.outgoingSkeleton offer with multicastRole := .inactive }
      else if !received.enabled then (offerer.outgoingSkeleton offer).disable
      else
        match (offerer.initiateOutgoingConfiguration offer received (offerer.outgoingSkeleton offer) index
          actualConfigurationIndex).outcome with
        | some cfg => acceptOutgoingStream received (offerer.outgoingSkeleton offer) cfg
        | none => (offerer.outgoingSkeleton offer).disable := by
  simp only [initiateOutgoingStream, single, Library.search, attemptOutgoing]
  split
  next => rfl
  next =>
    split
    next => rfl
    next =>
      cases outcome : (offerer.initiateOutgoingConfiguration offer received (offerer.outgoingSkeleton offer) index
          actualConfigurationIndex).outcome with
      | none => rfl
      | some cfg =>
        simp only
        rw [(offerer.initiateOutgoingConfiguration_streams ..).2]

omit single in
private theorem acceptOutgoingStream_settled {cfg : SalStreamConfiguration}
    (outcome : (offerer.initiateOutgoingConfiguration offer received (offerer.outgoingSkeleton offer) index
      actualConfigurationIndex).outcome = some cfg) :
    (acceptOutgoingStream received (offerer.outgoingSkeleton offer) cfg).getActualConfiguration = cfg ∧
      cfg.payloads ≠ [] := by
  let settled : offerer.OutgoingSettled offer received cfg := ⟨index, offer, .refl offer, outcome⟩
  refine ⟨settled.result_actual, ?_⟩
  rw [settled.accepted.payloads]
  exact settled.accepted.nonempty

theorem outgoing_accepted_single
    (accepted : (offerer.initiateOutgoingStream offer received offererNegotiates).result.accepted = true) :
    ∃ cfg, (offerer.initiateOutgoingConfiguration offer received (offerer.outgoingSkeleton offer) index
        actualConfigurationIndex).outcome = some cfg ∧
      (offerer.initiateOutgoingStream offer received offererNegotiates).result.getActualConfiguration = cfg := by
  rw [initiateOutgoingStream_single single] at accepted ⊢
  split at accepted
  next => simp [skeleton_not_accepted] at accepted
  next unicast =>
    split at accepted
    next => simp [disabled_not_accepted] at accepted
    next enabled =>
      split at accepted
      next cfg outcome =>
        refine ⟨cfg, outcome, ?_⟩
        rw [if_neg unicast, if_neg enabled]
        exact (acceptOutgoingStream_settled outcome).1
      next => simp [disabled_not_accepted] at accepted

theorem outgoing_succeeds_single {cfg : SalStreamConfiguration} (unicast : offerer.isMulticast offer.rtpAddr = false)
    (enabled : received.enabled = true)
    (outcome : (offerer.initiateOutgoingConfiguration offer received (offerer.outgoingSkeleton offer) index
      actualConfigurationIndex).outcome = some cfg) :
    (offerer.initiateOutgoingStream offer received offererNegotiates).result.accepted = true := by
  obtain ⟨actual, nonempty⟩ := acceptOutgoingStream_settled outcome
  rw [initiateOutgoingStream_single single]
  simp [unicast, enabled, outcome, SalStreamDescription.accepted, actual, nonempty]

end Single

end Liblinphone.OfferAnswerEngine
