import Liblinphone.Proofs.StreamNegotiation

/-! The loops over the media lines. Each line of the result comes from the two
lines at its index, as they were before the loop reached them. -/

namespace Liblinphone.OfferAnswerEngine
open SalStreamDescription

variable (engine : OfferAnswerEngine)

/-- How an offered line is answered: the answer, and the local and the remote
line as they are left. -/
inductive AnsweredLine (capabilities : SalMediaDescription) (localStream : Option SalStreamDescription)
    (offered : SalStreamDescription) : SalStreamDescription → Option SalStreamDescription → SalStreamDescription → Prop
  | declined (attributes : List (String × String)) :
    AnsweredLine capabilities localStream offered { declineStream offered with customSdpAttributes := attributes }
      localStream offered
  | negotiated (mine : SalStreamDescription) (bundleOwnerMid : String) (present : localStream = some mine)
      (correspond : corresponds mine offered = true) (negotiation : StreamNegotiation)
      (same : negotiation = engine.initiateIncomingStream mine offered bundleOwnerMid
        capabilities.params.capabilityNegotiation) :
    AnsweredLine capabilities localStream offered
      { finishIncomingStream capabilities negotiation with customSdpAttributes := mine.customSdpAttributes }
      (some negotiation.localStream) negotiation.remoteStream

theorem finishIncomingStream_cfgIndex (capabilities : SalMediaDescription) (attributes : List (String × String))
    (negotiation : StreamNegotiation) :
    ({ finishIncomingStream capabilities negotiation with customSdpAttributes := attributes } :
      SalStreamDescription).cfgIndex = negotiation.result.cfgIndex := rfl

theorem finishIncomingStream_type (capabilities : SalMediaDescription) (attributes : List (String × String))
    (negotiation : StreamNegotiation) :
    ({ finishIncomingStream capabilities negotiation with customSdpAttributes := attributes } :
      SalStreamDescription).type = negotiation.result.type := rfl

/-- Finishing an answered stream touches nothing but its feedback and reports. -/
theorem finishIncomingStream_chosen (capabilities : SalMediaDescription) (attributes : List (String × String))
    (negotiation : StreamNegotiation) (fresh : negotiation.result.cfgIndex = actualConfigurationIndex) :
    ∃ rtcpFb rtcpXr, ({ finishIncomingStream capabilities negotiation with customSdpAttributes := attributes } :
      SalStreamDescription).getChosenConfiguration =
        { negotiation.result.getActualConfiguration with rtcpFb, rtcpXr } := by
  change ∃ rtcpFb rtcpXr, (finishIncomingStream capabilities negotiation).getConfigurationAtIndex
    negotiation.result.cfgIndex = { negotiation.result.getActualConfiguration with rtcpFb, rtcpXr }
  rw [fresh]
  exact ⟨negotiation.remoteStream.getChosenConfiguration.rtcpFb,
    incomingRtcpXr capabilities negotiation.localStream negotiation.remoteStream, addActualConfiguration_actual _ _⟩

/-- The state of the loop over the offered lines once `count` of them are answered. -/
structure IncomingProgress (capabilities offer : SalMediaDescription) (count : Nat) (state : MediaNegotiation) : Prop where
  session : state.result = { incomingSession capabilities offer with streams := state.result.streams }
  localDesc : state.localDesc = { capabilities with streams := state.localDesc.streams }
  remoteDesc : state.remoteDesc = { offer with streams := state.remoteDesc.streams }
  answered : state.result.streams.length = count
  localLength : state.localDesc.streams.length = capabilities.streams.length
  remoteLength : state.remoteDesc.streams.length = offer.streams.length
  lines : ∀ index < count, ∀ offered, offer.streams[index]? = some offered →
    ∃ answer remote, state.result.streams[index]? = some answer ∧ state.remoteDesc.streams[index]? = some remote ∧
      AnsweredLine engine capabilities capabilities.streams[index]? offered answer state.localDesc.streams[index]? remote
  localRest : ∀ index ≥ count, state.localDesc.streams[index]? = capabilities.streams[index]?
  remoteRest : ∀ index ≥ count, state.remoteDesc.streams[index]? = offer.streams[index]?

/-- Answering one more line, which writes to the two lines at its index only. -/
private theorem IncomingProgress.advance {engine} {capabilities offer : SalMediaDescription} {count : Nat}
    {state : MediaNegotiation} (progress : IncomingProgress engine capabilities offer count state)
    {offered answer remote : SalStreamDescription} {localStreams remoteStreams : List SalStreamDescription}
    (atLine : offer.streams[count]? = some offered)
    (localLength : localStreams.length = state.localDesc.streams.length)
    (remoteLength : remoteStreams.length = state.remoteDesc.streams.length)
    (localElse : ∀ index ≠ count, localStreams[index]? = state.localDesc.streams[index]?)
    (remoteElse : ∀ index ≠ count, remoteStreams[index]? = state.remoteDesc.streams[index]?)
    (remoteAt : remoteStreams[count]? = some remote)
    (how : AnsweredLine engine capabilities capabilities.streams[count]? offered answer localStreams[count]? remote) :
    IncomingProgress engine capabilities offer (count + 1)
      ⟨{ state.result with streams := state.result.streams ++ [answer] },
        { state.localDesc with streams := localStreams }, { state.remoteDesc with streams := remoteStreams }⟩ := by
  refine ⟨?_, ?_, ?_, by simp [progress.answered], localLength.trans progress.localLength,
    remoteLength.trans progress.remoteLength, ?_, ?_, ?_⟩
  · rw [progress.session]
  · rw [progress.localDesc]
  · rw [progress.remoteDesc]
  · intro index before line found
    by_cases earlier : index < count
    · obtain ⟨answered, left, isAnswer, isRemote, past⟩ := progress.lines index earlier line found
      refine ⟨answered, left, ?_, (remoteElse index (by omega)).trans isRemote, ?_⟩
      · simp only [List.getElem?_append_left (progress.answered ▸ earlier), isAnswer]
      · simpa only [localElse index (by omega)] using past
    · obtain rfl : index = count := by omega
      obtain rfl : offered = line := Option.some.inj (atLine.symm.trans found)
      exact ⟨answer, remote, by simp [progress.answered], remoteAt, how⟩
  · intro index later
    exact (localElse index (by omega)).trans (progress.localRest index (by omega))
  · intro index later
    exact (remoteElse index (by omega)).trans (progress.remoteRest index (by omega))

private theorem IncomingProgress.decline {engine} {capabilities offer : SalMediaDescription} {count : Nat}
    {state : MediaNegotiation} (progress : IncomingProgress engine capabilities offer count state)
    {offered : SalStreamDescription} (atLine : offer.streams[count]? = some offered) (attributes : List (String × String)) :
    IncomingProgress engine capabilities offer (count + 1)
      { state with result.streams :=
          state.result.streams ++ [{ declineStream offered with customSdpAttributes := attributes }] } := by
  refine progress.advance atLine rfl rfl (fun _ _ => rfl) (fun _ _ => rfl)
    ((progress.remoteRest count (Nat.le_refl _)).trans atLine) ?_
  rw [progress.localRest count (Nat.le_refl _)]
  exact .declined attributes

private theorem incomingTurn_progress (capabilities offer : SalMediaDescription) (count : Nat) (state : MediaNegotiation)
    (inside : count < offer.streams.length) (progress : IncomingProgress engine capabilities offer count state) :
    IncomingProgress engine capabilities offer (count + 1) (engine.incomingTurn state count) := by
  have atLine : offer.streams[count]? = some offer.streams[count] := List.getElem?_eq_getElem inside
  have remote := progress.remoteRest count (Nat.le_refl _)
  have mine := progress.localRest count (Nat.le_refl _)
  simp only [incomingTurn, remote, atLine, mine]
  split
  next => exact progress.decline atLine []
  next localStream found =>
    split
    next correspond =>
      have stored : count < state.localDesc.streams.length := by
        rw [progress.localLength]
        exact (List.getElem?_eq_some_iff.mp found).1
      have remoteStored : count < state.remoteDesc.streams.length := by
        rw [progress.remoteLength]
        exact inside
      refine progress.advance atLine (by simp) (by simp) ?_ ?_ (List.getElem?_set_self remoteStored) ?_
      · intro index other
        exact List.getElem?_set_ne (Ne.symm other)
      · intro index other
        exact List.getElem?_set_ne (Ne.symm other)
      · rw [List.getElem?_set_self stored, progress.localDesc]
        exact .negotiated localStream _ found correspond _ rfl
    next => exact progress.decline atLine _

/-- Every offered line is answered, in order. -/
theorem negotiateIncoming_progress (capabilities offer : SalMediaDescription) :
    IncomingProgress engine capabilities offer offer.streams.length (engine.negotiateIncoming capabilities offer) := by
  apply Library.range_foldl_induction _ _ _ (IncomingProgress engine capabilities offer)
  · exact ⟨rfl, rfl, rfl, rfl, rfl, rfl, by simp, fun _ _ => rfl, fun _ _ => rfl⟩
  · intro count state inside
    exact incomingTurn_progress engine capabilities offer count state inside

/-- How a line of an answer is read: the result, and our line and theirs as they
are left. -/
inductive ReadLine (offer : SalMediaDescription) (mine theirs : SalStreamDescription) :
    SalStreamDescription → SalStreamDescription → SalStreamDescription → Prop
  | mismatched (differ : corresponds mine theirs = false) : ReadLine offer mine theirs {} mine theirs
  | negotiated (correspond : corresponds mine theirs = true) (negotiation : StreamNegotiation)
      (same : negotiation = engine.initiateOutgoingStream mine theirs offer.params.capabilityNegotiation) :
    ReadLine offer mine theirs (finishOutgoingStream negotiation) negotiation.localStream negotiation.remoteStream

theorem finishOutgoingStream_payloads (negotiation : StreamNegotiation) :
    (finishOutgoingStream negotiation).getActualConfiguration.payloads =
      negotiation.result.getActualConfiguration.payloads := by
  simp only [finishOutgoingStream, addActualConfiguration_actual]

/-- The state of the loop over our lines once `count` of them have been read. -/
structure OutgoingProgress (offer answer : SalMediaDescription) (count : Nat) (state : MediaNegotiation) : Prop where
  session : state.result = { outgoingSession offer answer with streams := state.result.streams }
  localDesc : state.localDesc = { offer with streams := state.localDesc.streams }
  remoteDesc : state.remoteDesc = { answer with streams := state.remoteDesc.streams }
  read : state.result.streams.length = min count answer.streams.length
  localLength : state.localDesc.streams.length = offer.streams.length
  remoteLength : state.remoteDesc.streams.length = answer.streams.length
  lines : ∀ index < count, ∀ mine theirs, offer.streams[index]? = some mine → answer.streams[index]? = some theirs →
    ∃ result left right, state.result.streams[index]? = some result ∧ state.localDesc.streams[index]? = some left ∧
      state.remoteDesc.streams[index]? = some right ∧ ReadLine engine offer mine theirs result left right
  localRest : ∀ index ≥ count, state.localDesc.streams[index]? = offer.streams[index]?
  remoteRest : ∀ index ≥ count, state.remoteDesc.streams[index]? = answer.streams[index]?

private theorem OutgoingProgress.advance {engine} {offer answer : SalMediaDescription} {count : Nat}
    {state : MediaNegotiation} (progress : OutgoingProgress engine offer answer count state)
    {mine theirs result left right : SalStreamDescription} {localStreams remoteStreams : List SalStreamDescription}
    (atLine : offer.streams[count]? = some mine) (atAnswer : answer.streams[count]? = some theirs)
    (localLength : localStreams.length = state.localDesc.streams.length)
    (remoteLength : remoteStreams.length = state.remoteDesc.streams.length)
    (localElse : ∀ index ≠ count, localStreams[index]? = state.localDesc.streams[index]?)
    (remoteElse : ∀ index ≠ count, remoteStreams[index]? = state.remoteDesc.streams[index]?)
    (localAt : localStreams[count]? = some left) (remoteAt : remoteStreams[count]? = some right)
    (how : ReadLine engine offer mine theirs result left right) :
    OutgoingProgress engine offer answer (count + 1)
      ⟨{ state.result with streams := state.result.streams ++ [result] },
        { state.localDesc with streams := localStreams }, { state.remoteDesc with streams := remoteStreams }⟩ := by
  have inside : count < answer.streams.length := (List.getElem?_eq_some_iff.mp atAnswer).1
  have length : state.result.streams.length = count := by
    rw [progress.read]
    omega
  refine ⟨?_, ?_, ?_, ?_, localLength.trans progress.localLength, remoteLength.trans progress.remoteLength, ?_, ?_, ?_⟩
  · rw [progress.session]
  · rw [progress.localDesc]
  · rw [progress.remoteDesc]
  · simp only [List.length_append, List.length_singleton]
    omega
  · intro index before line other isLine isOther
    by_cases earlier : index < count
    · obtain ⟨read, first, second, isRead, isFirst, isSecond, past⟩ :=
        progress.lines index earlier line other isLine isOther
      refine ⟨read, first, second, ?_, (localElse index (by omega)).trans isFirst,
        (remoteElse index (by omega)).trans isSecond, past⟩
      simp only [List.getElem?_append_left (length ▸ earlier), isRead]
    · obtain rfl : index = count := by omega
      obtain rfl : mine = line := Option.some.inj (atLine.symm.trans isLine)
      obtain rfl : theirs = other := Option.some.inj (atAnswer.symm.trans isOther)
      exact ⟨result, left, right, by simp [length], localAt, remoteAt, how⟩
  · intro index later
    exact (localElse index (by omega)).trans (progress.localRest index (by omega))
  · intro index later
    exact (remoteElse index (by omega)).trans (progress.remoteRest index (by omega))

private theorem outgoingTurn_progress (offer answer : SalMediaDescription) (count : Nat) (state : MediaNegotiation)
    (inside : count < offer.streams.length) (progress : OutgoingProgress engine offer answer count state) :
    OutgoingProgress engine offer answer (count + 1) (engine.outgoingTurn state count) := by
  have atLine : offer.streams[count]? = some offer.streams[count] := List.getElem?_eq_getElem inside
  have remote := progress.remoteRest count (Nat.le_refl _)
  have mine := progress.localRest count (Nat.le_refl _)
  simp only [outgoingTurn, remote, atLine, mine]
  cases atAnswer : answer.streams[count]? with
  | none =>
    have short := List.getElem?_eq_none_iff.mp atAnswer
    refine ⟨progress.session, progress.localDesc, progress.remoteDesc, ?_, progress.localLength, progress.remoteLength,
      ?_, fun index later => progress.localRest index (by omega), fun index later => progress.remoteRest index (by omega)⟩
    · rw [progress.read]
      omega
    · intro index before line other isLine isOther
      have present := (List.getElem?_eq_some_iff.mp isOther).1
      exact progress.lines index (by omega) line other isLine isOther
  | some theirs =>
    simp only
    split
    next correspond =>
      have stored : count < state.localDesc.streams.length := by
        rw [progress.localLength]
        exact inside
      have remoteStored : count < state.remoteDesc.streams.length := by
        rw [progress.remoteLength]
        exact (List.getElem?_eq_some_iff.mp atAnswer).1
      refine progress.advance atLine atAnswer (by simp) (by simp) ?_ ?_ (List.getElem?_set_self stored)
        (List.getElem?_set_self remoteStored) ?_
      · intro index other
        exact List.getElem?_set_ne (Ne.symm other)
      · intro index other
        exact List.getElem?_set_ne (Ne.symm other)
      · rw [progress.localDesc]
        exact .negotiated correspond _ rfl
    next differ =>
      exact progress.advance atLine atAnswer rfl rfl (fun _ _ => rfl) (fun _ _ => rfl) (mine.trans atLine)
        (remote.trans atAnswer) (.mismatched (by simpa using differ))

/-- Every line that both descriptions have is read, in order. -/
theorem negotiateOutgoing_progress (offer answer : SalMediaDescription) :
    OutgoingProgress engine offer answer offer.streams.length (engine.negotiateOutgoing offer answer) := by
  apply Library.range_foldl_induction _ _ _ (OutgoingProgress engine offer answer)
  · exact ⟨rfl, rfl, rfl, by simp [outgoingSession], rfl, rfl, by simp, fun _ _ => rfl, fun _ _ => rfl⟩
  · intro count state inside
    exact outgoingTurn_progress engine offer answer count state inside

section Verification

/-- Checking the bundles disables some streams and writes nothing else. -/
structure Verified (before after : SalMediaDescription) (count : Nat) : Prop where
  rest : after = { before with streams := after.streams }
  length : after.streams.length = before.streams.length
  handled : ∀ index < count, after.streams[index]? = before.streams[index]? ∨
    after.streams[index]? = before.streams[index]?.map disable
  later : ∀ index ≥ count, after.streams[index]? = before.streams[index]?

theorem verifyBundle_verified {localDesc remoteDesc before after : SalMediaDescription} {count : Nat}
    (verified : Verified before after count) :
    Verified before (verifyBundle localDesc remoteDesc after count) (count + 1) := by
  have kept : Verified before after (count + 1) := by
    refine ⟨verified.rest, verified.length, ?_, fun index later => verified.later index (by omega)⟩
    intro index inside
    by_cases earlier : index < count
    · exact verified.handled index earlier
    · exact .inl (verified.later index (by omega))
  simp only [verifyBundle]
  split
  next stream _ _ found _ _ =>
    split
    next =>
      refine ⟨?_, by simp [verified.length], ?_, ?_⟩
      · rw [verified.rest]
      · intro index inside
        by_cases earlier : index < count
        · simpa only [List.getElem?_set_ne (by omega : count ≠ index)] using verified.handled index earlier
        · obtain rfl : index = count := by omega
          right
          rw [List.getElem?_set_self (List.getElem?_eq_some_iff.mp found).1, ← verified.later index (Nat.le_refl _), found]
          rfl
      · intro index later
        simp only
        rw [List.getElem?_set_ne (by omega)]
        exact verified.later index (by omega)
    next => exact kept
  next => exact kept

theorem verifyBundles_verified (localDesc remoteDesc result : SalMediaDescription) :
    Verified result (verifyBundles localDesc remoteDesc result) result.streams.length :=
  Library.range_foldl_induction _ _ _ (fun count state => Verified result state count)
    ⟨rfl, rfl, by simp, fun _ _ => rfl⟩ (fun _ _ _ verified => verifyBundle_verified verified)

@[simp] theorem touchChosen_stored (stream : SalStreamDescription) (index : UInt32) :
    (touchChosen stream).getConfigurationAtIndex index = stream.getConfigurationAtIndex index := by
  rw [touchChosen, getConfigurationAtIndex_add]
  split
  next same => rw [← same]; rfl
  next => rfl

@[simp] theorem touchChosen_chosen (stream : SalStreamDescription) :
    (touchChosen stream).getChosenConfiguration = stream.getChosenConfiguration :=
  touchChosen_stored stream stream.cfgIndex

/-- A line of the description returned for an offer. -/
theorem initiateIncoming_line {capabilities offer : SalMediaDescription} {index : Nat}
    {answered offered : SalStreamDescription}
    (isAnswered : (engine.initiateIncoming capabilities offer).result.streams[index]? = some answered)
    (isOffered : offer.streams[index]? = some offered) :
    ∃ answer mine remote, (answered = touchChosen answer ∨ answered = (touchChosen answer).disable) ∧
      AnsweredLine engine capabilities capabilities.streams[index]? offered answer mine remote := by
  have progress := engine.negotiateIncoming_progress capabilities offer
  have inside : index < offer.streams.length := (List.getElem?_eq_some_iff.mp isOffered).1
  obtain ⟨answer, remote, isAnswer, _, how⟩ := progress.lines index inside offered isOffered
  have verified := verifyBundles_verified (engine.negotiateIncoming capabilities offer).localDesc
    (engine.negotiateIncoming capabilities offer).remoteDesc
    (gatherBundles (engine.negotiateIncoming capabilities offer).result)
  have gathered : (gatherBundles (engine.negotiateIncoming capabilities offer).result).streams[index]? =
      some (touchChosen answer) := by simp [gatherBundles, isAnswer]
  have before : index < (gatherBundles (engine.negotiateIncoming capabilities offer).result).streams.length :=
    (List.getElem?_eq_some_iff.mp gathered).1
  refine ⟨answer, _, remote, ?_, how⟩
  rcases verified.handled index before with same | disabled
  · exact .inl (Option.some.inj (isAnswered.symm.trans (same.trans gathered)))
  · right
    rw [gathered] at disabled
    exact Option.some.inj (isAnswered.symm.trans disabled)

theorem declineStream_not_enabled (offered : SalStreamDescription) (attributes : List (String × String)) :
    ({ declineStream offered with customSdpAttributes := attributes } : SalStreamDescription).enabled = false := by
  have chosen : ({ declineStream offered with customSdpAttributes := attributes } :
      SalStreamDescription).getChosenConfiguration = _ := addActualConfiguration_actual _ _
  exact not_enabled rfl (by rw [chosen])

theorem touchChosen_cfgIndex (stream : SalStreamDescription) : (touchChosen stream).cfgIndex = stream.cfgIndex := rfl

theorem touchChosen_type (stream : SalStreamDescription) : (touchChosen stream).type = stream.type := rfl

theorem touchChosen_enabled (stream : SalStreamDescription) : (touchChosen stream).enabled = stream.enabled := by
  simp only [SalStreamDescription.enabled, isBundleOnly, getDirection, touchChosen_chosen]
  rfl

/-- An enabled line of an answer was settled, and carries the settled configuration. -/
theorem initiateIncoming_enabled {capabilities offer : SalMediaDescription} {index : Nat}
    {answered offered mine : SalStreamDescription} (isMine : capabilities.streams[index]? = some mine)
    (isOffered : offer.streams[index]? = some offered)
    (isAnswered : (engine.initiateIncoming capabilities offer).result.streams[index]? = some answered)
    (enabled : answered.enabled = true) (invariant : StreamPair → Prop) (start : invariant (mine, offered))
    (preserved : ∀ bundleOwnerMid current candidate, invariant current →
      invariant (engine.attemptIncoming (incomingSkeleton mine offered) bundleOwnerMid current candidate).2) :
    ∃ bundleOwnerMid cfg, ∃ settled : engine.IncomingSettled mine offered bundleOwnerMid cfg,
      invariant (settled.localBefore, settled.remoteBefore) ∧
      (settled.localIdx, settled.remoteIdx) ∈
        incomingCandidates mine offered capabilities.params.capabilityNegotiation ∧
      corresponds mine offered = true ∧ answered.cfgIndex = actualConfigurationIndex ∧ answered.type = mine.type ∧
      ∃ rtcpFb rtcpXr, answered.getActualConfiguration = { cfg with rtcpFb, rtcpXr } := by
  obtain ⟨line, left, remote, final, how⟩ := engine.initiateIncoming_line isAnswered isOffered
  rcases final with rfl | rfl
  · rw [touchChosen_enabled] at enabled
    cases how with
    | declined attributes => simp [declineStream_not_enabled] at enabled
    | negotiated stream bundleOwnerMid present correspond negotiation same =>
      obtain rfl : mine = stream := Option.some.inj (isMine.symm.trans present)
      rcases engine.initiateIncomingStream_rule mine offered bundleOwnerMid
        capabilities.params.capabilityNegotiation invariant start (preserved bundleOwnerMid) with
        ⟨cfg, settled, holds, candidate, settling⟩ | ⟨localStream, remoteStream, _, _, rejected⟩
      · rw [settling] at same
        subst same
        have fresh := settled.result_cfgIndex
        obtain ⟨rtcpFb, rtcpXr, chosen⟩ := finishIncomingStream_chosen capabilities mine.customSdpAttributes
          settled.negotiation fresh
        rw [settled.result_actual] at chosen
        have index := (finishIncomingStream_cfgIndex capabilities mine.customSdpAttributes settled.negotiation).trans fresh
        have type := finishIncomingStream_type capabilities mine.customSdpAttributes settled.negotiation
        rw [← touchChosen_cfgIndex] at index
        refine ⟨bundleOwnerMid, cfg, settled, holds, candidate, correspond, index, ?_, rtcpFb, rtcpXr, ?_⟩
        · rw [touchChosen_type, type, settled.result_type]
        · rw [actual_of_fresh index, touchChosen_chosen, chosen]
      · rw [rejected] at same
        subst same
        obtain ⟨rtcpFb, rtcpXr, chosen⟩ := finishIncomingStream_chosen capabilities mine.customSdpAttributes
          ⟨rejectIncomingStream remoteStream (labelledSkeleton mine offered), localStream, remoteStream⟩ rfl
        rw [rejectIncomingStream_actual _ _ rfl (labelledSkeleton_actual ..)] at chosen
        rw [not_enabled rfl (by rw [chosen])] at enabled
        exact Bool.noConfusion enabled
  · simp at enabled

theorem initiateIncoming_length (capabilities offer : SalMediaDescription) :
    (engine.initiateIncoming capabilities offer).result.streams.length = offer.streams.length := by
  have verified := verifyBundles_verified (engine.negotiateIncoming capabilities offer).localDesc
    (engine.negotiateIncoming capabilities offer).remoteDesc
    (gatherBundles (engine.negotiateIncoming capabilities offer).result)
  have progress := engine.negotiateIncoming_progress capabilities offer
  simp only [initiateIncoming, verified.length]
  simp [gatherBundles, progress.answered]

/-- A line of the description read from an answer. -/
theorem initiateOutgoing_line {offer answer : SalMediaDescription} {index : Nat} {mine theirs : SalStreamDescription}
    (isMine : offer.streams[index]? = some mine) (isTheirs : answer.streams[index]? = some theirs) :
    ∃ stream result left right, (engine.initiateOutgoing offer answer).result.streams[index]? = some stream ∧
      (∀ position, (stream.getConfigurationAtIndex position).payloads = (result.getConfigurationAtIndex position).payloads) ∧
      ReadLine engine offer mine theirs result left right := by
  have progress := engine.negotiateOutgoing_progress offer answer
  have inside : index < offer.streams.length := (List.getElem?_eq_some_iff.mp isMine).1
  obtain ⟨result, left, right, isResult, _, _, how⟩ := progress.lines index inside mine theirs isMine isTheirs
  have gathered : ∃ stream, (outgoingBundles (engine.negotiateOutgoing offer answer)).streams[index]? = some stream ∧
      ∀ position, stream.getConfigurationAtIndex position = result.getConfigurationAtIndex position := by
    simp only [outgoingBundles]
    split
    · exact ⟨result, isResult, fun _ => rfl⟩
    · exact ⟨touchChosen result, by simp [gatherBundles, isResult], touchChosen_stored result⟩
  obtain ⟨stream, isStream, stored⟩ := gathered
  have verified := verifyBundles_verified (engine.negotiateOutgoing offer answer).localDesc
    (engine.negotiateOutgoing offer answer).remoteDesc (outgoingBundles (engine.negotiateOutgoing offer answer))
  rcases verified.handled index (List.getElem?_eq_some_iff.mp isStream).1 with same | disabled
  · exact ⟨stream, result, left, right, same.trans isStream, fun position => by rw [stored], how⟩
  · rw [isStream] at disabled
    exact ⟨stream.disable, result, left, right, disabled, fun position => by rw [disable_payloads, stored], how⟩

end Verification

end Liblinphone.OfferAnswerEngine
