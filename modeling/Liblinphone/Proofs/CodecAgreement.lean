import Mathlib.Data.List.Pairwise
import Liblinphone.Proofs.CryptoAgreement
import Liblinphone.Proofs.Exchange
import Liblinphone.Proofs.MediaNegotiation
import Liblinphone.Proofs.PayloadMatching

/-! Agreement on codecs across an offer/answer exchange: what the offerer reads
from the answer is, number by number, the codecs that it offered. -/

namespace Liblinphone.OfferAnswerEngine

/-- The payload that `genericMatch` or `opusMatch` takes from a list. -/
def codecMatch (payloads : List PayloadType) (refpt : PayloadType) : Option PayloadType :=
  if refpt.isMime "opus" then opusMatch payloads refpt else genericMatch payloads refpt

/-- What an offer and the capabilities it meets must be like for the codecs of
both sides to agree. Opus is matched by name, so it can be offered once only,
and in stereo only to a party whose first opus is a stereo one. -/
structure AgreeableCodecs (answerer offerer : OfferAnswerEngine) (capabilities offered : List PayloadType) : Prop where
  distinctCodecs : offered.Pairwise (fun first second => first.sameCodec second = false)
  distinctNumbers : (offered.map (·.number)).Nodup
  handledOffer : ∀ payload ∈ offered, answerer.Handled payload
  handledCapabilities : ∀ payload ∈ capabilities, offerer.Handled payload
  oneOpus : ∀ first ∈ offered, ∀ second ∈ offered, first.isMime "opus" → second.isMime "opus" → first = second
  stereoOpus : ∀ payload ∈ offered, payload.isMime "opus" → payload.channels = 2 →
    ∀ mine, capabilities.find? (·.isMime "opus") = some mine → mine.channels = 2

variable {answerer offerer : OfferAnswerEngine} {capabilities offered : List PayloadType}

theorem isMime_congr {first second : PayloadType} (same : first.mimeType = second.mimeType) (name : String) :
    first.isMime name = second.isMime name := by
  simp only [PayloadType.isMime, same]

theorem isMime_common {first second : PayloadType} {common name : String} (firstCommon : first.isMime common = true)
    (secondCommon : second.isMime common = true) : first.isMime name = second.isMime name := by
  simp only [PayloadType.isMime, Option.any_eq_true] at firstCommon secondCommon
  obtain ⟨mime, isMime, equal⟩ := firstCommon
  obtain ⟨other, isOther, otherEqual⟩ := secondCommon
  simp only [PayloadType.isMime, isMime, isOther, Option.any_some]
  rw [Bool.eq_iff_iff]
  exact ⟨fun named => sameIgnoringCase_trans (sameIgnoringCase_trans otherEqual (sameIgnoringCase_symm equal)) named,
    fun named => sameIgnoringCase_trans (sameIgnoringCase_trans equal (sameIgnoringCase_symm otherEqual)) named⟩

/-- The matched payload is a capability up to its number of channels, and has
the name of the offered one. -/
theorem codecMatch_some {payload matched : PayloadType} (found : codecMatch capabilities payload = some matched) :
    (∃ mine ∈ capabilities, matched.mimeType = mine.mimeType) ∧ ∀ name, matched.isMime name = payload.isMime name := by
  simp only [codecMatch] at found
  split at found
  next opus =>
    simp only [opusMatch] at found
    split at found
    next =>
      have named := List.find?_some found
      exact ⟨⟨matched, List.mem_of_find?_eq_some found, rfl⟩, fun _ => isMime_common named opus⟩
    next =>
      split at found
      next =>
        simp only [Option.map_eq_some_iff] at found
        obtain ⟨mine, found, rfl⟩ := found
        have named := List.find?_some found
        have member : mine ∈ capabilities := List.mem_reverse.mp (List.mem_of_find?_eq_some found)
        exact ⟨⟨mine, member, rfl⟩, fun _ => isMime_common named opus⟩
      next => simp at found
  next =>
    obtain ⟨member, same⟩ := genericMatch_some found
    refine ⟨⟨matched, member, rfl⟩, ?_⟩
    intro name
    rw [Bool.eq_iff_iff]
    exact ⟨PayloadType.isMime_of_sameCodec same, PayloadType.isMime_of_sameCodec (PayloadType.sameCodec_symm same)⟩

instance : Std.Symm (fun first second : PayloadType => first.sameCodec second = false) where
  symm := by
    intro first second unlike
    rw [Bool.eq_false_iff] at unlike ⊢
    exact fun alike => unlike (PayloadType.sameCodec_symm alike)

private theorem find?_unique {payloads : List PayloadType} {test : PayloadType → Bool} {payload : PayloadType}
    (member : payload ∈ payloads) (passes : test payload = true)
    (only : ∀ other ∈ payloads, test other = true → other = payload) : payloads.find? test = some payload := by
  cases found : payloads.find? test with
  | none => exact absurd passes (List.find?_eq_none.mp found payload member)
  | some other => rw [only other (List.mem_of_find?_eq_some found) (List.find?_some found)]

/-- Looking an answered payload up in the offer gives back the payload that it answers. -/
theorem codecMatch_back (agreeable : AgreeableCodecs answerer offerer capabilities offered)
    {payload matched answered : PayloadType} (member : payload ∈ offered)
    (found : codecMatch capabilities payload = some matched) (mime : answered.mimeType = matched.mimeType)
    (clock : answered.clockRate = matched.clockRate) (channels : answered.channels = matched.channels) :
    codecMatch offered answered = some payload := by
  have named := (codecMatch_some found).2
  have answeredNamed : ∀ name, answered.isMime name = payload.isMime name :=
    fun name => (isMime_congr mime name).trans (named name)
  simp only [codecMatch, answeredNamed] at found ⊢
  split at found
  next opus =>
    rw [if_pos opus]
    have first : offered.find? (·.isMime "opus") = some payload :=
      find?_unique member opus (fun other otherMember otherOpus =>
        agreeable.oneOpus other otherMember payload member otherOpus opus)
    have last : offered.reverse.find? (·.isMime "opus") = some payload :=
      find?_unique (List.mem_reverse.mpr member) opus (fun other otherMember otherOpus =>
        agreeable.oneOpus other (List.mem_reverse.mp otherMember) payload member otherOpus opus)
    simp only [opusMatch, beq_iff_eq] at found ⊢
    split at found
    next stereo =>
      rw [channels, agreeable.stereoOpus payload member opus stereo matched found]
      exact first
    next =>
      split at found
      next mono =>
        simp only [Option.map_eq_some_iff] at found
        obtain ⟨mine, _, rfl⟩ := found
        simp only at channels
        rw [channels, last]
        obtain ⟨⟩ := payload
        simp_all
      next => simp at found
  next other =>
    rw [if_neg other]
    obtain ⟨_, same⟩ := genericMatch_some found
    have back : payload.sameCodec answered = true := by
      apply PayloadType.sameCodec_symm
      simpa only [PayloadType.sameCodec, mime, clock, channels] using same
    refine find?_unique member back ?_
    intro rival rivalMember rivalSame
    by_contra different
    have distinct := agreeable.distinctCodecs.forall rivalMember member different
    rw [PayloadType.sameCodec_trans rivalSame (PayloadType.sameCodec_symm back)] at distinct
    exact Bool.noConfusion distinct

/-- Each entry of an answer answers one offered payload. -/
theorem answered_entry (agreeable : AgreeableCodecs answerer offerer capabilities offered)
    (everyCodec : answerer.useOneMatchingCodec = false) {bundleEnabled : Bool} {answered : PayloadType}
    (member : answered ∈ (answerer.matchPayloads capabilities offered false bundleEnabled).1) :
    ∃ payload ∈ offered, ∃ matched, codecMatch capabilities payload = some matched ∧
      (matched.isMime "flexfec" → bundleEnabled) ∧ answered = answerer.acceptPayload matched payload false := by
  simp only [matchPayloads, answerer.matchPayload_foldl _ _ false bundleEnabled everyCodec agreeable.handledOffer,
    Bool.false_eq_true, if_false, List.mem_insertionSort, List.mem_flatMap] at member
  obtain ⟨payload, inOffer, entry⟩ := member
  refine ⟨payload, inOffer, ?_⟩
  simp only [entriesFor, answerer.findPayloadTypeBestMatch_handled (agreeable.handledOffer payload inOffer)] at entry
  split at entry
  next => simp at entry
  next matched found =>
    split at entry
    next => simp at entry
    next kept =>
      simp only [acceptedEntries, Bool.false_and, Bool.false_eq_true, if_false, List.mem_singleton] at entry
      refine ⟨matched, found, ?_, entry⟩
      intro flexfec
      simpa [flexfec] using kept

/-- What the offerer makes of one entry of the answer. -/
structure ReadBack (offered : List PayloadType) (answered read : PayloadType) : Prop where
  number : read.number = answered.number
  canSend : read.flags.canSend = true
  canRecv : read.flags.canRecv = true
  name : ∀ name, read.isMime name = answered.isMime name
  codec : ∃ payload ∈ offered, payload.number = read.number ∧ read.sameCodec payload = true

private theorem forall₂_flatMap {entries : α → List β} {related : α → β → Prop} (items : List α)
    (single : ∀ item ∈ items, ∃ entry, entries item = [entry] ∧ related item entry) :
    List.Forall₂ related items (items.flatMap entries) := by
  induction items with
  | nil => exact .nil
  | cons item rest ih =>
    obtain ⟨entry, only, holds⟩ := single item (by simp)
    rw [List.flatMap_cons, only]
    exact .cons holds (ih fun other member => single other (by simp [member]))

private theorem handled_answer (agreeable : AgreeableCodecs answerer offerer capabilities offered)
    (everyCodec : answerer.useOneMatchingCodec = false) {bundleEnabled : Bool} {answered : PayloadType}
    (member : answered ∈ (answerer.matchPayloads capabilities offered false bundleEnabled).1) :
    offerer.Handled answered := by
  obtain ⟨payload, inOffer, matched, found, _, rfl⟩ := answered_entry agreeable everyCodec member
  obtain ⟨⟨mine, capable, mime⟩, _⟩ := codecMatch_some found
  have same : (answerer.acceptPayload matched payload false).mimeType = mine.mimeType :=
    (answerer.acceptPayload_kept matched payload false).1.trans mime
  have mineHandled := agreeable.handledCapabilities mine capable
  simpa only [Handled, same, isMime_congr same] using mineHandled

private theorem codecMatch_self {payload matched : PayloadType} (found : codecMatch capabilities payload = some matched) :
    payload.sameCodec payload = true := by
  rw [codecMatch] at found
  split at found
  next opus =>
    simp only [PayloadType.isMime, Option.any_eq_true] at opus
    obtain ⟨mime, isMime, _⟩ := opus
    exact PayloadType.sameCodec_iff.mpr ⟨mime, mime, isMime, isMime, by simp [sameIgnoringCase], rfl, rfl⟩
  next =>
    have same := (genericMatch_some found).2
    exact PayloadType.sameCodec_trans (PayloadType.sameCodec_symm same) same

/-- The single entry that the offerer reads from an entry of the answer. -/
theorem entry_readBack (agreeable : AgreeableCodecs answerer offerer capabilities offered)
    (everyCodec : answerer.useOneMatchingCodec = false) (numbering : answerer.answerWithOwnNumbering = false)
    {answerBundle readBundle : Bool} (bundles : answerBundle = true → readBundle = true) (remotePayloads : List PayloadType)
    {answered : PayloadType} (member : answered ∈ (answerer.matchPayloads capabilities offered false answerBundle).1) :
    ∃ read, offerer.entriesFor offered remotePayloads true readBundle answered = [read] ∧
      ReadBack offered answered read := by
  obtain ⟨payload, inOffer, matched, found, flexfec, same⟩ := answered_entry agreeable everyCodec member
  obtain ⟨mime, clock, channels, _⟩ := answerer.acceptPayload_kept matched payload false
  rw [← same] at mime clock channels
  have back := codecMatch_back agreeable inOffer found mime clock channels
  have number : answered.number = payload.number := by
    rw [same]
    exact answerer.acceptPayload_number matched payload false (.inr numbering)
  have named : ∀ name, payload.isMime name = answered.isMime name :=
    fun name => ((isMime_congr mime name).trans ((codecMatch_some found).2 name)).symm
  have kept : (payload.isMime "flexfec" && !readBundle) = false := by
    rw [← (codecMatch_some found).2 "flexfec"]
    cases fec : matched.isMime "flexfec" with
    | false => rfl
    | true => simp [bundles (flexfec fec)]
  refine ⟨offerer.acceptPayload payload answered true, ?_, ?_⟩
  · have looked := offerer.findPayloadTypeBestMatch_handled (handled_answer agreeable everyCodec member) offered
      remotePayloads true
    rw [← codecMatch, back] at looked
    simp [entriesFor, looked, kept, acceptedEntries, number]
  · obtain ⟨_, _, _, canRecv, canSend⟩ := offerer.acceptPayload_kept payload answered true
    have readNumber := offerer.acceptPayload_number payload answered true (.inl rfl)
    refine ⟨readNumber, canSend, canRecv, ?_, payload, inOffer, ?_, ?_⟩
    · intro name
      rw [acceptPayload_isMime, named]
    · rw [readNumber, number]
    · exact offerer.acceptPayload_sameCodec payload answered true (codecMatch_self found)

theorem onlyTelephoneEvent_readBack {answer read : List PayloadType}
    (readBack : List.Forall₂ (ReadBack offered) answer read) : onlyTelephoneEvent answer = onlyTelephoneEvent read := by
  induction readBack with
  | nil => rfl
  | cons entry _ ih =>
    simp only [onlyTelephoneEvent, List.all_cons] at ih ⊢
    rw [entry.name, ih]

/-- The offerer reads one entry from each entry of the answer, and nothing else. -/
theorem matchPayloads_readBack (agreeable : AgreeableCodecs answerer offerer capabilities offered)
    (answererPolicy : answerer.useOneMatchingCodec = false) (offererPolicy : offerer.useOneMatchingCodec = false)
    (numbering : answerer.answerWithOwnNumbering = false) {answerBundle readBundle : Bool}
    (bundles : answerBundle = true → readBundle = true)
    {answer : List PayloadType} (answered : answer = (answerer.matchPayloads capabilities offered false answerBundle).1)
    (nonempty : answer ≠ []) :
    List.Forall₂ (ReadBack offered) answer (offerer.matchPayloads offered answer true readBundle).1 := by
  have entries : ∀ payload ∈ answer, payload ∈ (answerer.matchPayloads capabilities offered false answerBundle).1 :=
    fun payload member => answered ▸ member
  have read := forall₂_flatMap answer
    (fun payload member => entry_readBack agreeable answererPolicy numbering bundles answer (entries payload member))
  have common : (offered.any fun p1 => answer.any fun p2 => p2.number == p1.number) = true := by
    obtain ⟨entry, member⟩ := List.exists_mem_of_ne_nil _ nonempty
    obtain ⟨payload, inOffer, matched, _, _, rfl⟩ := answered_entry agreeable answererPolicy (entries entry member)
    simp only [List.any_eq_true, beq_iff_eq]
    exact ⟨payload, inOffer, _, member, answerer.acceptPayload_number matched payload false (.inr numbering)⟩
  simp only [matchPayloads, if_true, addForCompatibility, common, offerer.matchPayload_foldl offered answer true readBundle
    offererPolicy (fun payload member => handled_answer agreeable answererPolicy (entries payload member))]
  exact read

section Exchange
open SalStreamDescription

/-- The offerer supports the encryptions that its configurations ask for, and
announces a zrtp hash only together with the hash. -/
structure SupportsOffer (offer : SalStreamDescription) : Prop where
  srtp : ∀ index, (offer.getConfigurationAtIndex index).hasSrtp → .srtp ∈ offer.supportedEncryption
  dtls : ∀ index, (offer.getConfigurationAtIndex index).dtlsRole ≠ .invalid → .dtls ∈ offer.supportedEncryption
  zrtp : ∀ index, (offer.getConfigurationAtIndex index).haveZrtpHash ≠ 0 →
    (offer.getConfigurationAtIndex index).haveZrtpHash = 1 ∧ (offer.getConfigurationAtIndex index).zrtphash ≠ "" ∧
      .zrtp ∈ offer.supportedEncryption

variable {localCap offer : SalStreamDescription} {bundleOwnerMid : String} {answer : SalStreamConfiguration}
variable (settled : answerer.IncomingSettled localCap offer bundleOwnerMid answer)

namespace IncomingSettled

theorem proto_compatible :
    areProtoCompatibles (offer.getConfigurationAtIndex settled.remoteIdx).proto answer.proto = true := by
  obtain ⟨proto, same, downgrade⟩ := settled.remoteCfg_eq
  have offered : areProtoCompatibles settled.remoteCfg.proto (offer.getConfigurationAtIndex settled.remoteIdx).proto := by
    rw [same]
    exact downgrade.compatible
  apply areProtoCompatibles_symm
  rw [settled.accepted.proto, start]
  simp only [incomingProto]
  split
  · exact areProtoCompatibles_trans settled.compatible offered
  · exact offered

/-- The offered configuration is there: only an AVPF one can have been
rewritten, and no configuration with an AVPF protocol is the empty one. -/
theorem offer_present : (offer.getConfigurationAtIndex settled.remoteIdx).isEmptyObject = false := by
  obtain ⟨proto, same, kept | ⟨avpf, _⟩⟩ := settled.remoteCfg_eq
  · rw [← settled.present.2, same, kept]
  · cases empty : (offer.getConfigurationAtIndex settled.remoteIdx).isEmptyObject with
    | false => rfl
    | true => simp [SalStreamConfiguration.isEmptyObject_proto empty, SalMediaProto.hasAvpf] at avpf

theorem joins_stays (joins : joinsBundle settled.localCfg settled.remoteCfg bundleOwnerMid = true) :
    staysInBundle (offer.getConfigurationAtIndex settled.remoteIdx) answer = true := by
  obtain ⟨_, same, _⟩ := settled.remoteCfg_eq
  have mid := settled.mid
  rw [joins] at mid
  simp only [joinsBundle, same, Bool.and_eq_true, bne_iff_ne] at joins
  simp [staysInBundle, mid, joins.1.1.1.2]

/-- The suite of the answer is one that the offerer finds in its offer. -/
theorem crypto_readable (supports : SupportsOffer offer) (encrypted : answer.hasSrtp = true) :
    .srtp ∈ offer.supportedEncryption ∧
      ∃ line, matchCryptoAlgo (offer.getConfigurationAtIndex settled.remoteIdx).crypto answer.crypto {} false =
        (true, line) := by
  obtain ⟨_, same, _⟩ := settled.remoteCfg_eq
  have proto : settled.start.hasSrtp = true := by
    rwa [SalStreamConfiguration.hasSrtp, ← settled.accepted.proto]
  obtain ⟨_, line, matched, only⟩ := settled.accepted.crypto proto
  rw [same] at matched
  obtain ⟨first, mine, shared, found, rfl⟩ := matchCryptoAlgo_true matched
  obtain ⟨valid, looked⟩ := lineFor_firstShared shared
  refine ⟨supports.srtp settled.remoteIdx ?_, ?_⟩
  · rwa [SalStreamConfiguration.hasSrtp, hasSrtp_of_compatible settled.proto_compatible]
  · rw [only]
    exact ⟨_, matchCryptoAlgo_answer {} false valid looked⟩

/-- The answer to a potential configuration has a zrtp hash when the offer has one. -/
theorem zrtp_readable (supports : SupportsOffer offer) (potential : settled.remoteIdx ≠ actualConfigurationIndex) :
    (offer.getConfigurationAtIndex settled.remoteIdx).haveZrtpHash = answer.haveZrtpHash ∧
      ((offer.getConfigurationAtIndex settled.remoteIdx).haveZrtpHash = 1 → .zrtp ∈ offer.supportedEncryption) := by
  obtain ⟨_, same, _⟩ := settled.remoteCfg_eq
  have agreed := settled.zrtp_agreed potential
  have fresh : settled.start.haveZrtpHash = 0 := by
    simp only [start, incomingBundle]
    split <;> rfl
  rw [settled.accepted.haveZrtpHash, negotiatedZrtp, agreed, fresh, same]
  by_cases plain : (offer.getConfigurationAtIndex settled.remoteIdx).haveZrtpHash = 0
  · simp [plain]
  · obtain ⟨hashed, hash, supported⟩ := supports.zrtp settled.remoteIdx plain
    simp [hashed, hash, supported]

include settled in
/-- An answer is not the empty configuration, since its codecs can be sent. -/
theorem answer_present {rtcpFb : OrtpRtcpFbConfiguration} {rtcpXr : OrtpRtcpXrConfiguration} :
    SalStreamConfiguration.isEmptyObject { answer with rtcpFb, rtcpXr } = false := by
  rw [Bool.eq_false_iff]
  intro empty
  have received := SalStreamConfiguration.isEmptyObject_payloads empty
  obtain ⟨payload, member⟩ := List.exists_mem_of_ne_nil _ settled.accepted.nonempty
  have isRecvOnly := List.all_eq_true.mp received payload (settled.accepted.payloads ▸ member)
  obtain ⟨p2, _, _, matched, _, same⟩ := (answerer.matchPayloads_answer _ _ _).1 payload member
  have canSend := (answerer.acceptPayload_kept matched p2 false).2.2.2.2
  rw [← same] at canSend
  simp [SalStreamConfiguration.isRecvOnly, canSend] at isRecvOnly

section Agreement

variable (answererPolicy : answerer.useOneMatchingCodec = false) (offererPolicy : offerer.useOneMatchingCodec = false)
  (numbering : answerer.answerWithOwnNumbering = false)
  (kept : settled.localCfg.payloads = (localCap.getConfigurationAtIndex settled.localIdx).payloads)
  (agreeable : AgreeableCodecs answerer offerer (localCap.getConfigurationAtIndex settled.localIdx).payloads
    (offer.getConfigurationAtIndex settled.remoteIdx).payloads)
include answererPolicy offererPolicy numbering kept agreeable

/-- The codecs that the offerer reads from a settled answer. -/
theorem payloads_readBack :
    List.Forall₂ (ReadBack (offer.getConfigurationAtIndex settled.remoteIdx).payloads) answer.payloads
      (offerer.outgoingMatch (offer.getConfigurationAtIndex settled.remoteIdx) answer).1 := by
  obtain ⟨_, same, _⟩ := settled.remoteCfg_eq
  have payloads : answer.payloads =
      (answerer.incomingMatch settled.localCfg settled.remoteCfg bundleOwnerMid).1 := settled.accepted.payloads
  have nonempty := settled.accepted.nonempty
  rw [← settled.accepted.payloads] at nonempty
  rw [incomingMatch, kept] at payloads
  simp only [same] at payloads
  refine matchPayloads_readBack agreeable answererPolicy offererPolicy numbering ?_ payloads nonempty
  intro joins
  apply settled.joins_stays
  rw [same]
  exact joins

variable {received : SalStreamDescription} {rtcpFb : OrtpRtcpFbConfiguration} {rtcpXr : OrtpRtcpXrConfiguration}
  (carried : received.getActualConfiguration = { answer with rtcpFb, rtcpXr })
include carried

/-- The offerer can read a settled answer, when it supports what it offered. -/
theorem readable (supports : SupportsOffer offer) (unicast : offerer.isMulticast offer.rtpAddr = false) :
    Readable offerer offer received settled.remoteIdx actualConfigurationIndex := by
  have read := settled.payloads_readBack answererPolicy offererPolicy numbering kept agreeable
  have nonempty := settled.accepted.nonempty
  have codec := settled.accepted.codec
  rw [← settled.accepted.payloads] at nonempty codec
  rw [getActualConfiguration] at carried
  refine ⟨settled.offer_present, ?_, ?_, unicast, ?_, ?_, ?_, ?_, ?_⟩ <;> rw [carried]
  · exact settled.answer_present
  · exact settled.proto_compatible
  · intro none
    have length := read.length_eq
    change (offerer.outgoingMatch (offer.getConfigurationAtIndex settled.remoteIdx) answer).1 = [] at none
    rw [none, List.length_nil, List.length_eq_zero_iff] at length
    exact nonempty length
  · rw [← codec]
    exact (onlyTelephoneEvent_readBack read).symm
  · exact settled.crypto_readable supports
  · intro potential
    exact settled.zrtp_readable supports (potential.resolve_right (fun other => other rfl))
  · intro both
    simp only [bothHaveDtls, Bool.and_eq_true, bne_iff_ne] at both
    exact supports.dtls settled.remoteIdx both.1.1.1

end Agreement

end IncomingSettled

/-- Matching the codecs of an offer leaves the capabilities as they are. -/
theorem attemptIncoming_payloads {mine offered : SalStreamDescription}
    (everyCodec : answerer.useOneMatchingCodec = false)
    (handled : ∀ index, ∀ payload ∈ (offered.getConfigurationAtIndex index).payloads, answerer.Handled payload)
    (result : SalStreamDescription) (bundleOwnerMid : String) (current : StreamPair) (candidate : UInt32 × UInt32)
    (kept : IncomingKept mine offered current ∧
      ∀ index, (current.1.getConfigurationAtIndex index).payloads = (mine.getConfigurationAtIndex index).payloads) :
    IncomingKept mine offered (answerer.attemptIncoming result bundleOwnerMid current candidate).2 ∧
      ∀ index, ((answerer.attemptIncoming result bundleOwnerMid current candidate).2.1.getConfigurationAtIndex
        index).payloads = (mine.getConfigurationAtIndex index).payloads := by
  refine ⟨answerer.attemptIncoming_kept mine offered result bundleOwnerMid current candidate kept.1, ?_⟩
  intro index
  have matched : (answerer.incomingMatch (current.1.getConfigurationAtIndex candidate.1)
      (current.2.getConfigurationAtIndex candidate.2) bundleOwnerMid).2 =
      (current.1.getConfigurationAtIndex candidate.1).payloads := by
    rw [incomingMatch, matchPayloads, answerer.matchPayload_foldl _ _ _ _ everyCodec]
    · rfl
    · rw [kept.1.offered]
      exact handled candidate.2
  simp only [attemptIncoming]
  rw [(answerer.initiateIncomingConfiguration_streams ..).1, ← kept.2 index]
  split
  · rw [matched, setPayloadsAt, getConfigurationAtIndex_add]
    split
    next same => rw [same]
    next => rfl
  · rfl

/-- The offerer reads the numbers of the answer, in its order, and under each
number the codec that it offered, usable in both directions. -/
structure CodecsAgree (offered answered read : List PayloadType) : Prop where
  numbers : read.map (·.number) = answered.map (·.number)
  entries : ∀ payload ∈ read, payload.flags.canSend = true ∧ payload.flags.canRecv = true ∧
    ∃ source ∈ offered, source.number = payload.number ∧ payload.sameCodec source = true

theorem CodecsAgree.of_readBack {offered answered read : List PayloadType}
    (readBack : List.Forall₂ (ReadBack offered) answered read) : CodecsAgree offered answered read := by
  induction readBack with
  | nil => exact ⟨rfl, by simp⟩
  | cons entry _ ih =>
    refine ⟨?_, ?_⟩
    · rw [List.map_cons, List.map_cons, entry.number, ih.numbers]
    · intro payload member
      rcases List.mem_cons.mp member with rfl | later
      · exact ⟨entry.canSend, entry.canRecv, entry.codec⟩
      · exact ih.entries payload later

/-- The answered line still corresponds to the offered one. -/
theorem carried_corresponds {offered mine answered : SalStreamDescription} {bundleOwnerMid : String}
    {cfg : SalStreamConfiguration} (settled : answerer.IncomingSettled mine offered bundleOwnerMid cfg)
    (type : answered.type = offered.type) (proto : answered.getActualConfiguration.proto = cfg.proto) :
    corresponds offered (carryAnswer answered) = true := by
  have offerStored := stored_of_present settled.offer_present
  have compatible := settled.proto_compatible
  simp only [corresponds, Bool.and_eq_true, beq_iff_eq, areProtoInStreamCompatibles, List.any_eq_true, Prod.exists,
    Std.ExtTreeMap.mem_toList_iff_getElem?_eq_some]
  refine ⟨type, actualConfigurationIndex, carryConfiguration answered.getActualConfiguration, ?_, settled.remoteIdx, _,
    offerStored, ?_⟩
  · exact Std.ExtTreeMap.getElem?_insert_self
  · rw [carryConfiguration_eq, proto]
    exact compatible

theorem carryAnswer_enabled {answered : SalStreamDescription} (fresh : answered.cfgIndex = actualConfigurationIndex) :
    (carryAnswer answered).enabled = answered.enabled := by
  have chosen : (carryAnswer answered).getChosenConfiguration = answered.getChosenConfiguration := by
    rw [← actual_of_fresh fresh, ← carryAnswer_actual answered]
    rfl
  simp only [SalStreamDescription.enabled, isBundleOnly, getDirection, chosen]
  rfl

/-- One line of an exchange: the codecs that the offerer reads from the carried
line agree with it, and the line is accepted by an offerer that supports what it
offered. -/
theorem line_agreement {mine offered answered : SalStreamDescription} {bundleOwnerMid : String}
    {cfg : SalStreamConfiguration} {rtcpFb : OrtpRtcpFbConfiguration} {rtcpXr : OrtpRtcpXrConfiguration}
    {answererNegotiates offererNegotiates : Bool}
    (answererPolicy : answerer.useOneMatchingCodec = false) (offererPolicy : offerer.useOneMatchingCodec = false)
    (numbering : answerer.answerWithOwnNumbering = false) (wellOffered : OfferedStream offered offererNegotiates)
    (settled : answerer.IncomingSettled mine offered bundleOwnerMid cfg)
    (candidate : (settled.localIdx, settled.remoteIdx) ∈ incomingCandidates mine offered answererNegotiates)
    (kept : settled.localCfg.payloads = (mine.getConfigurationAtIndex settled.localIdx).payloads)
    (agreeable : AgreeableCodecs answerer offerer (mine.getConfigurationAtIndex settled.localIdx).payloads
      (offered.getConfigurationAtIndex settled.remoteIdx).payloads)
    (actual : answered.getActualConfiguration = { cfg with rtcpFb, rtcpXr })
    (enabled : (carryAnswer answered).enabled = true) :
    let read := (offerer.initiateOutgoingStream offered (carryAnswer answered) offererNegotiates).result
    (read.accepted = true → CodecsAgree (offered.getConfigurationAtIndex settled.remoteIdx).payloads
      answered.getActualConfiguration.payloads read.getActualConfiguration.payloads) ∧
    (SupportsOffer offered → offerer.isMulticast offered.rtpAddr = false → read.accepted = true) := by
  intro read
  obtain ⟨index, plain⟩ := settled.index wellOffered candidate
  have named : answered.getActualConfiguration.index = settled.remoteIdx := by rw [actual, ← index]
  have single := outgoingCandidates_carryAnswer answered offererNegotiates (fun standard => named.trans (plain standard))
  rw [named] at single
  have carried := (carryAnswer_actual answered).trans actual
  refine ⟨?_, ?_⟩
  · intro accepted
    obtain ⟨readCfg, outcome, readActual⟩ := outgoing_accepted_single single accepted
    have payloads := (initiateOutgoingConfiguration_some outcome).2.2.2.payloads
    rw [readActual, payloads, actual]
    rw [getActualConfiguration] at carried
    simp only [carried]
    exact .of_readBack (settled.payloads_readBack answererPolicy offererPolicy numbering kept agreeable)
  · intro supports unicast
    obtain ⟨readCfg, outcome⟩ := (settled.readable answererPolicy offererPolicy numbering kept agreeable carried supports
      unicast).succeeds (offerer.outgoingSkeleton offered)
    exact outgoing_succeeds_single single unicast enabled outcome

/-- Codec agreement across an exchange of two whole descriptions. For each
enabled line of the answer, the offerer that accepts it reads the numbers of the
answer and the codecs of its own offer, and it does accept it when it supports
the encryptions that it offered and the line is a unicast one. -/
theorem codec_agreement {capabilities offer : SalMediaDescription} {index : Nat}
    {mine offered answered : SalStreamDescription}
    (answererPolicy : answerer.useOneMatchingCodec = false) (offererPolicy : offerer.useOneMatchingCodec = false)
    (numbering : answerer.answerWithOwnNumbering = false) (isMine : capabilities.streams[index]? = some mine)
    (isOffered : offer.streams[index]? = some offered)
    (wellOffered : OfferedStream offered offer.params.capabilityNegotiation)
    (agreeable : ∀ localIdx offerIdx, AgreeableCodecs answerer offerer (mine.getConfigurationAtIndex localIdx).payloads
      (offered.getConfigurationAtIndex offerIdx).payloads)
    (isAnswered : (answerer.initiateIncoming capabilities offer).result.streams[index]? = some answered)
    (enabled : answered.enabled = true) :
    let received := carryDescription (answerer.initiateIncoming capabilities offer).result
    ∃ stream, (offerer.initiateOutgoing offer received).result.streams[index]? = some stream ∧
      (stream.accepted = true → ∃ offerIdx, CodecsAgree (offered.getConfigurationAtIndex offerIdx).payloads
        answered.getActualConfiguration.payloads stream.getActualConfiguration.payloads) ∧
      (SupportsOffer offered → offerer.isMulticast offered.rtpAddr = false → stream.accepted = true) := by
  intro received
  obtain ⟨bundleOwnerMid, cfg, settled, ⟨_, kept⟩, candidate, correspond, fresh, type, rtcpFb, rtcpXr, actual⟩ :=
    answerer.initiateIncoming_enabled isMine isOffered isAnswered enabled
      (fun streams => IncomingKept mine offered streams ∧ ∀ index,
        (streams.1.getConfigurationAtIndex index).payloads = (mine.getConfigurationAtIndex index).payloads)
      ⟨⟨.refl _, .refl _, fun _ => rfl⟩, fun _ => rfl⟩
      (attemptIncoming_payloads answererPolicy (fun offerIdx => (agreeable 0 offerIdx).handledOffer) _)
  have isReceived : received.streams[index]? = some (carryAnswer answered) := by
    simp [received, carryDescription, isAnswered]
  have sameType : answered.type = offered.type := by
    simp only [corresponds, Bool.and_eq_true, beq_iff_eq] at correspond
    rw [type, correspond.1]
  obtain ⟨stream, result, left, right, isStream, payloads, how⟩ := offerer.initiateOutgoing_line isOffered isReceived
  refine ⟨stream, isStream, ?_⟩
  cases how with
  | mismatched differ =>
    rw [carried_corresponds settled sameType (by rw [actual])] at differ
    exact Bool.noConfusion differ
  | negotiated _ negotiation same =>
    have streamPayloads : stream.getActualConfiguration.payloads =
        negotiation.result.getActualConfiguration.payloads := by
      rw [getActualConfiguration, payloads]
      exact finishOutgoingStream_payloads negotiation
    obtain ⟨agree, accept⟩ := line_agreement answererPolicy offererPolicy numbering wellOffered settled candidate
      (kept settled.localIdx) (agreeable _ _) actual ((carryAnswer_enabled fresh).trans enabled)
    rw [same] at streamPayloads
    have accepted : stream.accepted = (offerer.initiateOutgoingStream offered (carryAnswer answered)
        offer.params.capabilityNegotiation).result.accepted := by
      simp only [SalStreamDescription.accepted, streamPayloads]
    rw [accepted, streamPayloads]
    exact ⟨fun isAccepted => ⟨settled.remoteIdx, agree isAccepted⟩, accept⟩

/-- One stream with the given codecs and transport protocol. -/
def codecStream (payloads : List PayloadType) (proto : SalMediaProto) : SalStreamDescription :=
  .ofConfiguration 7078 { payloads, proto, dir := .sendRecv, crypto := [⟨1, 2, "key"⟩] }

def codecDescription (payloads : List PayloadType) (proto : SalMediaProto)
    (supportedEncryption : List LinphoneMediaEncryption) : SalMediaDescription :=
  { streams := [{ codecStream payloads proto with supportedEncryption }] }

def pcmu : PayloadType := { mimeType := some "PCMU", clockRate := 8000, channels := 1, number := 0 }

def opus (channels number : Int) : PayloadType := { mimeType := some "opus", clockRate := 48000, channels, number }

private theorem codecStream_stored (payloads : List PayloadType) (proto : SalMediaProto) (index : UInt32) :
    (codecStream payloads proto).getConfigurationAtIndex index =
        { payloads, proto, dir := .sendRecv, crypto := [⟨1, 2, "key"⟩] } ∨
      (codecStream payloads proto).getConfigurationAtIndex index = {} := by
  simp only [codecStream, ofConfiguration, getConfigurationAtIndex, Std.ExtTreeMap.getElem?_insert]
  split
  · exact .inl rfl
  · exact .inr rfl

private theorem agreeable_pcmu (localIdx offerIdx : UInt32) :
    AgreeableCodecs plain plain ((codecStream [pcmu] .rtpAvp).getConfigurationAtIndex localIdx).payloads
      ((codecStream [pcmu] .rtpAvp).getConfigurationAtIndex offerIdx).payloads := by
  have handled : plain.Handled pcmu := rfl
  have notOpus : pcmu.isMime "opus" = false := by decide
  rcases codecStream_stored [pcmu] .rtpAvp localIdx with capable | capable <;>
    rcases codecStream_stored [pcmu] .rtpAvp offerIdx with offering | offering <;>
    simp only [capable, offering] <;>
    exact ⟨by decide, by decide, by simp [handled], by simp [handled], by simp [notOpus], by simp [notOpus]⟩

private theorem supports_plain : SupportsOffer (codecStream [pcmu] .rtpAvp) := by
  refine ⟨?_, ?_, ?_⟩ <;> intro index <;>
    rcases codecStream_stored [pcmu] .rtpAvp index with stored | stored <;> rw [stored] <;> decide

theorem codec_agreement_pcmu :
    let description := codecDescription [pcmu] .rtpAvp []
    let answer := (plain.initiateIncoming description description).result
    ∃ stream, (plain.initiateOutgoing description (carryDescription answer)).result.streams[0]? = some stream ∧
      stream.accepted = true := by
  intro description answer
  have isAnswered : answer.streams[0]? = some answer.streams[0] := List.getElem?_eq_getElem (by decide)
  obtain ⟨stream, isStream, _, accept⟩ := @codec_agreement plain plain description description 0 _ _ _ rfl rfl rfl rfl rfl
    (OfferedStream.ofConfiguration 7078 _ false rfl) agreeable_pcmu isAnswered (by decide)
  exact ⟨stream, isStream, accept supports_plain rfl⟩

/-- The answerer and the offerer, both with the plain engine: the numbers and the
channels that the offerer reads. -/
def readCodecs (capabilities offer : SalMediaDescription) : List (Int × Int) :=
  let answer := (plain.initiateIncoming capabilities offer).result
  ((plain.initiateOutgoing offer (carryDescription answer)).result.streams.flatMap
    (·.getActualConfiguration.payloads)).map fun payload => (payload.number, payload.channels)

/-- Opus offered twice adds entries for receiving only; a stereo offer to a party
whose first opus is a mono one is read as a mono codec; and an offerer that does
not support the encryption it offered reads nothing. -/
theorem codec_disagreement :
    readCodecs (codecDescription [opus 2 98] .rtpAvp []) (codecDescription [opus 1 97, opus 2 96] .rtpAvp []) =
        [(97, 1), (96, 1), (96, 1), (97, 1)] ∧
      readCodecs (codecDescription [opus 1 98] .rtpAvp []) (codecDescription [opus 2 96] .rtpAvp []) = [(96, 1)] ∧
      readCodecs (codecDescription [pcmu] .rtpSavp [.srtp]) (codecDescription [pcmu] .rtpSavp []) = [] := by
  decide

end Exchange

end Liblinphone.OfferAnswerEngine
