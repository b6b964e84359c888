import Liblinphone.Exchange
import Liblinphone.Proofs.MediaNegotiation
import Liblinphone.Proofs.PayloadMatching

/-! The shape of an answer: one line for each offered line, of the same type and
with codecs taken from it. A line that is not enabled is a rejected one, or an
accepted one that has no port of its own to use. -/

namespace Liblinphone.OfferAnswerEngine
open SalStreamDescription

variable (engine : OfferAnswerEngine)

/-- The answered payload type is one that the matcher in charge of the offered
mime type can give for the offered payload type. -/
def MatchingCodec (offered answered : PayloadType) : Prop :=
  match offered.mimeType.bind engine.msFactory.createOfferAnswerContext with
  | none => answered.sameCodec offered = true
  | some .opus => answered.isMime "opus" = true
  | some .g729A => answered.isMime "G729" = true ∧ answered.channels = offered.channels
  | some .red => answered.isMime "red" = true
  | some (.external matcher) => ∃ localPayloads remotePayloads matched,
      matcher localPayloads offered remotePayloads false = some matched ∧ answered.mimeType = matched.mimeType ∧
        answered.clockRate = matched.clockRate ∧ answered.channels = matched.channels

theorem opusMatch_isMime {payloads : List PayloadType} {refpt matched : PayloadType}
    (found : opusMatch payloads refpt = some matched) : matched.isMime "opus" = true := by
  simp only [opusMatch] at found
  split at found
  next =>
    have named := List.find?_some found
    exact named
  next =>
    split at found
    next =>
      simp only [Option.map_eq_some_iff] at found
      obtain ⟨legacyOpus, found, rfl⟩ := found
      have named := List.find?_some found
      exact named
    next => simp at found

theorem redMatch_isMime {remotePayloads payloads : List PayloadType} {matched : PayloadType}
    (found : (redMatch remotePayloads payloads).1 = some matched) : matched.isMime "red" = true := by
  induction payloads with
  | nil => simp [redMatch] at found
  | cons pt rest ih =>
    simp only [redMatch] at found
    split at found
    next named =>
      obtain rfl := Option.some.inj found
      simp only [redResult]
      split <;> exact named
    next => exact ih found

/-- What a matcher takes for an offered payload is a matching codec. -/
theorem answersTo_matching {offeredList : List PayloadType} {offered answered : PayloadType}
    (answers : engine.AnswersTo offeredList offered answered) : engine.MatchingCodec offered answered := by
  obtain ⟨localPayloads, matched, found, rfl⟩ := answers
  obtain ⟨mime, clock, channels, _⟩ := engine.acceptPayload_kept matched offered false
  simp only [findPayloadTypeBestMatch] at found
  simp only [MatchingCodec]
  split at found
  next provider registered =>
    rw [registered]
    cases provider with
    | opus =>
      simp only [acceptPayload_isMime]
      exact opusMatch_isMime found
    | g729A =>
      have passes := List.find?_some (by simpa [MSOfferAnswerProvider.matchPayload, g729AMatch] using found)
      simp only [Bool.and_eq_true, beq_iff_eq] at passes
      simp only [acceptPayload_isMime, channels]
      exact ⟨passes.1, passes.2.symm⟩
    | red =>
      simp only [acceptPayload_isMime]
      exact redMatch_isMime found
    | external matcher => exact ⟨localPayloads, offeredList, matched, found, mime, clock, channels⟩
  next registered =>
    rw [registered]
    exact engine.acceptPayload_sameCodec matched offered false (genericMatch_some found).2

/-- The codecs of an answered line come from those of an offered configuration. -/
structure PayloadsFrom (offered answered : List PayloadType) : Prop where
  entries : ∀ payload ∈ answered, ∃ source ∈ offered, engine.MatchingCodec source payload ∧
    (engine.answerWithOwnNumbering = false → payload.number = source.number)
  distinct : engine.answerWithOwnNumbering = false → (offered.map (·.number)).Nodup → (answered.map (·.number)).Nodup

theorem PayloadsFrom.empty {engine : OfferAnswerEngine} (offered : List PayloadType) : PayloadsFrom engine offered [] :=
  ⟨by simp, by simp⟩

theorem matchPayloads_from (capabilities offered : List PayloadType) (bundleEnabled : Bool) :
    PayloadsFrom engine offered (engine.matchPayloads capabilities offered false bundleEnabled).1 := by
  obtain ⟨entries, distinct⟩ := engine.matchPayloads_answer capabilities offered bundleEnabled
  refine ⟨?_, distinct⟩
  intro payload member
  obtain ⟨source, inOffer, answers⟩ := entries payload member
  refine ⟨source, inOffer, engine.answersTo_matching answers, ?_⟩
  intro standard
  obtain ⟨_, matched, _, rfl⟩ := answers
  exact engine.acceptPayload_number matched source false (.inr standard)

/-- A line that takes part in no media: port zero, inactive, and either out of
the bundle or a secondary stream of it. -/
def Silent (stream : SalStreamDescription) : Prop :=
  stream.rtpPort = 0 ∧ stream.getDirection = .inactive ∧ (stream.getMid = "" ∨ stream.isBundleOnly = true)

/-- The line has the port that it would have if it were used, and that port is
not a positive one. -/
def Portless (mine : Option SalStreamDescription) (offered answered : SalStreamDescription) : Prop :=
  answered.rtpPort ≤ 0 ∧ ∃ stream, mine = some stream ∧
    answered.rtpPort = if engine.isMulticast offered.rtpAddr then offered.rtpPort else stream.rtpPort

structure WellFormedLine (mine : Option SalStreamDescription) (offered answered : SalStreamDescription) : Prop where
  type : answered.type = offered.type
  typeother : offered.type = .other → answered.typeother = offered.typeother
  payloads : ∃ index, PayloadsFrom engine (offered.getConfigurationAtIndex index).payloads
    answered.getChosenConfiguration.payloads
  codec : answered.enabled = true →
    ∃ payload ∈ answered.getChosenConfiguration.payloads, payload.isMime "telephone-event" = false
  unused : answered.enabled = false → Silent answered ∨ Portless engine mine offered answered

namespace WellFormedLine

variable {engine} {mine : Option SalStreamDescription} {offered answered : SalStreamDescription}

/-- Only the type, the port and the chosen configuration of a line matter. -/
theorem congr {other : SalStreamDescription} (line : WellFormedLine engine mine offered answered)
    (type : other.type = answered.type) (typeother : other.typeother = answered.typeother)
    (port : other.rtpPort = answered.rtpPort) (chosen : other.getChosenConfiguration = answered.getChosenConfiguration) :
    WellFormedLine engine mine offered other := by
  have enabled : other.enabled = answered.enabled := by
    simp only [SalStreamDescription.enabled, isBundleOnly, getDirection, chosen, port]
  refine ⟨type.trans line.type, fun isOther => typeother.trans (line.typeother isOther), ?_, ?_, ?_⟩
  · rw [chosen]
    exact line.payloads
  · rw [chosen, enabled]
    exact line.codec
  · intro idle
    rw [enabled] at idle
    simpa only [Silent, Portless, getDirection, getMid, isBundleOnly, chosen, port] using line.unused idle

/-- A line without codecs, without port and out of the bundle. -/
theorem of_empty {cfg : SalStreamConfiguration} (chosen : answered.getChosenConfiguration = cfg)
    (type : answered.type = offered.type) (typeother : offered.type = .other → answered.typeother = offered.typeother)
    (port : answered.rtpPort = 0) (payloads : cfg.payloads = []) (dir : cfg.dir = .inactive) (mid : cfg.mid = "")
    (bundleOnly : cfg.bundleOnly = false) : WellFormedLine engine mine offered answered := by
  refine ⟨type, typeother, ⟨0, ?_⟩, ?_, fun _ => .inl ⟨port, ?_, .inl ?_⟩⟩
  · rw [chosen, payloads]
    exact .empty _
  · simp [SalStreamDescription.enabled, isBundleOnly, chosen, port, bundleOnly]
  · rw [getDirection, chosen, dir]
  · rw [getMid, chosen, mid]

/-- A line disabled by the bundle checks is a silent one. -/
theorem disabled (line : WellFormedLine engine mine offered answered) :
    WellFormedLine engine mine offered answered.disable := by
  refine ⟨line.type, line.typeother, ?_, by simp, fun _ => .inl ⟨rfl, ?_, .inl ?_⟩⟩
  · rw [disable_chosen]
    exact line.payloads
  · rw [getDirection, disable_chosen]
    rfl
  · rw [getMid, disable_chosen]
    rfl

theorem declined (attributes : List (String × String)) :
    WellFormedLine engine mine offered { declineStream offered with customSdpAttributes := attributes } := by
  have chosen : ({ declineStream offered with customSdpAttributes := attributes } :
      SalStreamDescription).getChosenConfiguration = _ := addActualConfiguration_actual _ _
  refine of_empty chosen rfl ?_ rfl rfl rfl rfl rfl
  intro isOther
  simp [declineStream, isOther, addActualConfiguration, addConfigurationAtIndex]

variable {stream : SalStreamDescription} {capabilities : SalMediaDescription}

private theorem finished_type (capabilities : SalMediaDescription) (negotiation : StreamNegotiation) :
    (finishIncomingStream capabilities negotiation).type = negotiation.result.type := rfl

private theorem finished_typeother (capabilities : SalMediaDescription) (negotiation : StreamNegotiation) :
    (finishIncomingStream capabilities negotiation).typeother = negotiation.result.typeother := rfl

private theorem finished_rtpPort (capabilities : SalMediaDescription) (negotiation : StreamNegotiation) :
    (finishIncomingStream capabilities negotiation).rtpPort = negotiation.result.rtpPort := rfl

private theorem skeleton_typeother (isStream : stream.type = offered.type) (isOther : offered.type = .other) :
    (labelledSkeleton stream offered).typeother = offered.typeother := by
  simp [labelledSkeleton, incomingSkeleton, isStream, isOther]

/-- A line that was accepted. When it is not enabled it has no positive port, and
either it is secondary in its bundle and inactive, or that port is the one it
was given. -/
theorem of_settled {bundleOwnerMid : String} {cfg : SalStreamConfiguration} {rtcpFb : OrtpRtcpFbConfiguration}
    {rtcpXr : OrtpRtcpXrConfiguration} (settled : engine.IncomingSettled stream offered bundleOwnerMid cfg)
    (isMine : mine = some stream) (isStream : stream.type = offered.type)
    (type : answered.type = settled.negotiation.result.type)
    (typeother : answered.typeother = settled.negotiation.result.typeother)
    (port : answered.rtpPort = settled.negotiation.result.rtpPort)
    (chosen : answered.getChosenConfiguration = { cfg with rtcpFb, rtcpXr }) :
    WellFormedLine engine mine offered answered := by
  refine ⟨?_, ?_, ⟨settled.remoteIdx, ?_⟩, ?_, ?_⟩
  · rw [type, settled.result_type, isStream]
  · intro isOther
    simp [typeother, settled.result_typeother, isStream, isOther]
  · rw [chosen]
    have payloads := engine.matchPayloads_from settled.localCfg.payloads settled.remoteCfg.payloads
      (joinsBundle settled.localCfg settled.remoteCfg bundleOwnerMid)
    rw [← settled.offered_payloads]
    exact settled.accepted.payloads ▸ payloads
  · intro _
    rw [chosen]
    have codec := settled.accepted.codec
    rw [← settled.accepted.payloads] at codec
    simpa [onlyTelephoneEvent] using codec
  · intro idle
    rw [settled.result_rtpPort] at port
    simp only [SalStreamDescription.enabled, isBundleOnly, getDirection, chosen, Bool.or_eq_false_iff,
      decide_eq_false_iff_not, Int.not_lt] at idle
    cases secondary : cfg.bundleOnly with
    | true =>
      left
      simp only [secondary, if_true] at port
      have inactive : cfg.dir = .inactive := by simpa [secondary] using idle.2
      exact ⟨port, by rw [getDirection, chosen]; exact inactive, .inr (by rw [isBundleOnly, chosen]; exact secondary)⟩
    | false =>
      right
      simp only [secondary, Bool.false_eq_true, if_false] at port
      exact ⟨idle.1, stream, isMine, port⟩

/-- A line that was negotiated, whether it was accepted or rejected. -/
theorem negotiated {bundleOwnerMid : String} {allowCapabilityNegotiation : Bool} {attributes : List (String × String)}
    (isMine : mine = some stream) (correspond : corresponds stream offered = true) :
    WellFormedLine engine mine offered
      { finishIncomingStream capabilities
          (engine.initiateIncomingStream stream offered bundleOwnerMid allowCapabilityNegotiation) with
        customSdpAttributes := attributes } := by
  have isStream : stream.type = offered.type := by
    simp only [corresponds, Bool.and_eq_true, beq_iff_eq] at correspond
    exact correspond.1.symm
  rcases engine.initiateIncomingStream_rule stream offered bundleOwnerMid allowCapabilityNegotiation (fun _ => True)
    trivial (fun _ _ _ => trivial) with ⟨cfg, settled, _, _, same⟩ | ⟨localStream, remoteStream, _, _, rejected⟩
  · rw [same]
    obtain ⟨_, _, chosen⟩ := finishIncomingStream_chosen capabilities attributes settled.negotiation settled.result_cfgIndex
    rw [settled.result_actual] at chosen
    exact of_settled settled isMine isStream (finished_type capabilities _) (finished_typeother capabilities _)
      (finished_rtpPort capabilities _) chosen
  · rw [rejected]
    obtain ⟨_, _, chosen⟩ := finishIncomingStream_chosen capabilities attributes
      ⟨rejectIncomingStream remoteStream (labelledSkeleton stream offered), localStream, remoteStream⟩ rfl
    rw [rejectIncomingStream_actual _ _ rfl (labelledSkeleton_actual ..)] at chosen
    exact of_empty chosen isStream (skeleton_typeother isStream) rfl rfl rfl rfl rfl

end WellFormedLine

theorem answeredLine_wellFormed {engine} {capabilities : SalMediaDescription} {mine left : Option SalStreamDescription}
    {offered answer remote : SalStreamDescription}
    (how : AnsweredLine engine capabilities mine offered answer left remote) :
    WellFormedLine engine mine offered answer := by
  cases how with
  | declined attributes => exact .declined attributes
  | negotiated stream bundleOwnerMid present correspond negotiation same =>
    rw [same]
    exact .negotiated present correspond

/-- An answer has one line for each offered line, of its type. The codecs of a
line come from one configuration of the offered line, under its numbers with the
default policy; an enabled line has a codec other than telephone events. A line
that is not enabled is silent, or was accepted with a port that is not positive. -/
theorem answer_wellFormed (capabilities offer : SalMediaDescription) :
    let answer := (engine.initiateIncoming capabilities offer).result
    answer.streams.length = offer.streams.length ∧
      ∀ (index : Nat) (answered offered : SalStreamDescription), answer.streams[index]? = some answered →
        offer.streams[index]? = some offered →
        WellFormedLine engine capabilities.streams[index]? offered answered := by
  intro answer
  refine ⟨engine.initiateIncoming_length capabilities offer, ?_⟩
  intro index answered offered isAnswered isOffered
  obtain ⟨line, mine, remote, final, how⟩ := engine.initiateIncoming_line isAnswered isOffered
  have touched : WellFormedLine engine capabilities.streams[index]? offered (touchChosen line) :=
    (answeredLine_wellFormed how).congr rfl rfl rfl (touchChosen_chosen line)
  rcases final with rfl | rfl
  · exact touched
  · exact touched.disabled

/-- Two bundled streams of one codec, the second one with the given direction. -/
def bundledPair (dir : SalStreamDir) : SalMediaDescription :=
  let stream (mid : String) (number : Int) (dir : SalStreamDir) : SalStreamDescription :=
    .ofConfiguration 7078
      { payloads := [{ mimeType := some "PCMU", clockRate := 8000, channels := 1, number }]
        dir, mid, midRtpExtHeaderId := 1, rtcpMux := true }
  { streams := [stream "as" 0 .sendRecv, stream "vs" 8 dir]
    bundles := [⟨["as", "vs"]⟩]
    acceptBundles := true }

/-- One stream of one codec, outside of any bundle. -/
def singleStream (rtpPort number : Int) : SalMediaDescription :=
  { streams := [.ofConfiguration rtpPort
      { payloads := [{ mimeType := some "PCMU", clockRate := 8000, channels := 1, number }], dir := .sendRecv }] }

/-- A held secondary stream stays in its bundle, a capability without a port is
accepted in both directions, and the other numbering policy uses numbers that
were not offered. -/
theorem answer_lines_unlike_rejection :
    (plain.initiateIncoming (bundledPair .sendRecv) (bundledPair .inactive)).result.streams[1]?.map
        (fun answered => (answered.enabled, answered.getMid)) = some (false, "vs") ∧
      (plain.initiateIncoming (singleStream 0 0) (singleStream 7078 0)).result.streams[0]?.map
        (fun answered => (answered.enabled, answered.getDirection)) = some (false, .sendRecv) ∧
      ({ plain with answerWithOwnNumbering := true }.initiateIncoming (singleStream 7078 97)
        (singleStream 7078 96)).result.streams[0]?.map
        (fun answered => answered.getChosenConfiguration.payloads.map (·.number)) = some [97] := by
  decide

end Liblinphone.OfferAnswerEngine
