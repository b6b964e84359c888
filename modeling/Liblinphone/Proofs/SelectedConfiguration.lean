import Liblinphone.Proofs.ConfigurationLines
import Liblinphone.Proofs.Exchange
import Liblinphone.Proofs.FailedTries

/-! The configuration that both parties select. The answerer takes the first one of the
offer that some of its own accepts. Its answer names that one in an acfg line, which the
offerer cannot resolve, as the answer has no capabilities, and therefore keeps. -/

namespace Liblinphone

open PotentialCfgGraph SalStreamDescription

/-- What is relied on of the SIP library when it reads a line that was written. -/
structure CfgAttributeParser.ReadsLines (parser : CfgAttributeParser) : Prop where
  id : ∀ (idx : UInt32) (configs : Text), parser.getId (indexText idx ++ [' '] ++ configs) = idx
  configs : ∀ (idx : UInt32) (configs : Text),
    parser.getConfigs (indexText idx ++ [' '] ++ configs) = configs.splitOn ' '
  text : ∀ value, containsText "acfg" (parser.toText value) = true

namespace SalStreamDescription

/-- The lines of a stream that cannot be resolved with its own capabilities. -/
def readLines (acfgParser pcfgParser : CfgAttributeParser) (stream : SalStreamDescription) :
    Except IndexError UnparsedCfgMap :=
  processMediaDescription acfgParser pcfgParser
    (stream.acaps.toList.map fun acap => { index := acap.1, name := acap.2.1, value := acap.2.2 })
    (stream.tcaps.toList.map fun tcap => { index := tcap.1, value := tcap.2 }) stream.cfgAttributes

end SalStreamDescription

section Unavailable

variable {cfg : SalStreamConfiguration} {mediaAcap mediaTcap : List SdpCapability}

theorem parseCaps_unavailable {idx : UInt32} (small : SmallIndex idx) (rest : List Text)
    (state : CapState ConfigCapability) :
    ∃ mandatory, parseCaps [] state (indexText idx :: rest) = .ok { caps := [], mandatory, success := false } := by
  rw [parseCaps, getElementIdx_index, if_pos (show idx.toNat < 2 ^ 31 from small)]
  exact ⟨_, rfl⟩

/-- Sets that begin with an index in range are all dropped. -/
theorem parseSets_unavailable {sets : List (List UInt32)} {state : CapState (List ConfigCapability)}
    (formed : FormedSets mediaAcap sets) (once : FirstOnce sets) (small : SmallIndexes sets) :
    ∃ mandatory, parseSets [] state (sets.map acapSetString) =
      .ok { caps := state.caps, mandatory, success := state.success && sets.isEmpty } := by
  induction sets generalizing state with
  | nil => exact ⟨state.mandatory, by simp [parseSets]⟩
  | cons acapSet sets following =>
    cases acapSet with
    | nil => exact absurd rfl (formed.nonempty [] List.mem_cons_self)
    | cons first rest =>
      have parts : (acapSetString (first :: rest)).splitOn ',' = indexText first :: rest.map indexText := by
        rw [acapSetString_split (formed.nonzero _ List.mem_cons_self),
          acapParts_distinct _ (once first rest List.mem_cons_self)]
      obtain ⟨mandatory, dropped⟩ := parseCaps_unavailable (small _ List.mem_cons_self first List.mem_cons_self)
        (rest.map indexText) { mandatory := state.mandatory }
      obtain ⟨last, others⟩ := @following { caps := state.caps, mandatory, success := false } formed.tail
        (fun other more member => once other more (List.mem_cons_of_mem _ member))
        (fun other member => small other (List.mem_cons_of_mem _ member))
      refine ⟨last, ?_⟩
      rw [List.map_cons, parseSets, parts, dropped]
      simpa [bind, Except.bind] using others

theorem parseIdxList_unavailable (formed : FormedSets mediaAcap cfg.acapIndexes) (listed : cfg.acapIndexes ≠ [])
    (once : FirstOnce cfg.acapIndexes) (small : SmallIndexes cfg.acapIndexes) :
    parseIdxList [] cfg.acapString = .ok ([], false) := by
  obtain ⟨mandatory, dropped⟩ := @parseSets_unavailable mediaAcap cfg.acapIndexes {} formed once small
  rw [parseIdxList, acapString_split formed listed, dropped]
  simp [bind, Except.bind, pure, Except.pure, listed]

theorem parseIdxList_single_unavailable {idx : UInt32} (small : SmallIndex idx) :
    parseIdxList [] (indexText idx) = .ok ([], false) := by
  have noBar : '|' ∉ indexText idx := (indexText_digits idx).not_mem (by decide)
  have noComma : ',' ∉ indexText idx := (indexText_digits idx).not_mem (by decide)
  obtain ⟨mandatory, dropped⟩ := parseCaps_unavailable small [] {}
  simp only [parseIdxList, List.splitOn_eq_singleton noBar, parseSets, List.splitOn_eq_singleton noComma, dropped, bind,
    Except.bind, pure, Except.pure]
  rfl

/-- A transport that is not available is an error, which is what is left of the line. -/
theorem processCfgs_unavailable (small : SmallIndex cfg.tcapIndex) {state : ConfigState}
    (fresh : state.acapCfgList = [] ∧ state.tcapCfgList = [])
    (wrong : state.processingError = true ∨ cfg.tcapIndex ≠ 0) :
    ∃ final, processCfgs [] [] state cfg.transportPart = .ok (some final) ∧ final.attribute = {} := by
  unfold SalStreamConfiguration.transportPart
  by_cases actual : cfg.tcapIndex = 0
  · have wrong := wrong.resolve_right (not_not.mpr actual)
    refine ⟨state, by simp [actual, processCfgs], ?_⟩
    simp [ConfigState.attribute, wrong]
  · have noColon : ':' ∉ indexText cfg.tcapIndex := (indexText_digits _).not_mem (by decide)
    rw [if_neg actual]
    simp only [processCfgs, SalStreamConfiguration.transportPart_split, processCfg, List.getLastD_cons, List.getLastD_nil,
      List.splitOn_eq_singleton noColon, parseIdxList_single_unavailable small, fresh.2]
    exact ⟨{ state with tcapCfgList := [], processingError := state.processingError || true }, rfl,
      by simp [ConfigState.attribute]⟩

/-- A line that can be read names nothing to a reader without capabilities. -/
theorem processConfig_unavailable (described : cfg.Described mediaAcap mediaTcap) (back : cfg.ReadBack)
    (named : cfg.acapIndexes ≠ [] ∨ cfg.tcapIndex ≠ 0) :
    processConfig [] [] (cfg.getSdpString.splitOn ' ') = .ok {} := by
  by_cases listed : cfg.acapIndexes = []
  · have potential := named.resolve_left (not_not.mpr listed)
    have kept := cfg.deleteAttrs_eq_nil.mpr (back.listed listed)
    have noAttributes : cfg.attributePart = [] := by
      simp [SalStreamConfiguration.attributePart, SalStreamConfiguration.attributeBody_isEmpty described.acaps, listed, kept]
    have written : cfg.attributePart ++ cfg.transportPart ≠ [] := by
      simp [noAttributes, SalStreamConfiguration.transportPart, potential]
    obtain ⟨final, read, nothing⟩ := @processCfgs_unavailable cfg back.smallTcap {} ⟨rfl, rfl⟩ (.inr potential)
    rw [SalStreamConfiguration.getSdpString_split described written, noAttributes, List.nil_append, processConfig, read]
    exact congrArg Except.ok nothing
  · have written : cfg.attributePart ++ cfg.transportPart ≠ [] := by
      simp [SalStreamConfiguration.attributePart_listed described.acaps listed]
    rw [SalStreamConfiguration.getSdpString_split described written, processConfig,
      SalStreamConfiguration.processCfgs_attributes described.acaps listed,
      parseIdxList_unavailable described.acaps listed back.once back.smallAcaps]
    obtain ⟨final, read, nothing⟩ := @processCfgs_unavailable cfg back.smallTcap
      { processingError := true
        deleteMediaAttributes := cfg.deleteMediaAttributes
        deleteSessionAttributes := cfg.deleteSessionAttributes } ⟨rfl, rfl⟩ (.inl rfl)
    simp only [bind, Except.bind, pure, Except.pure, List.isEmpty_nil, Bool.not_false, Bool.and_self]
    rw [read]
    exact congrArg Except.ok nothing

end Unavailable

section Lines

variable {acfgParser pcfgParser : CfgAttributeParser} {answer : SalStreamConfiguration}
  {mediaAcap mediaTcap : List SdpCapability}

theorem getSdpString_written (described : answer.Described mediaAcap mediaTcap)
    (named : answer.acapIndexes ≠ [] ∨ answer.tcapIndex ≠ 0) : answer.getSdpString.isEmpty = false := by
  rw [List.isEmpty_eq_false_iff, SalStreamConfiguration.getSdpString]
  by_cases transport : answer.tcapIndex = 0
  · have listed : answer.acapString ≠ [] := by
      have present := acapString_isEmpty described.acaps
      rw [List.isEmpty_eq_false_iff.mpr (named.resolve_right (not_not.mpr transport))] at present
      exact List.isEmpty_eq_false_iff.mp present
    have noTransport : answer.tcapString = [] := by simp [SalStreamConfiguration.tcapString, transport]
    cases answer.deleteAttrs with
    | nil => simp [listed, noTransport]
    | cons first rest => simp [listed, noTransport]
  · have number := (indexText_digits answer.tcapIndex).1
    simp [SalStreamConfiguration.tcapString, transport, number]

/-- A stream with an actual configuration only writes one line, when that one refers to another. -/
theorem cfgAttributes_single {stream : SalStreamDescription}
    (single : stream.cfgs = (∅ : CfgMap).insert actualConfigurationIndex answer) :
    stream.cfgAttributes =
      if answer.getSdpString.isEmpty = false ∧ answer.index ≠ actualConfigurationIndex then
        [{ name := .acfg, value := indexText answer.index ++ [' '] ++ answer.getSdpString }]
      else [] := by
  have listed : stream.cfgs.toList = [(actualConfigurationIndex, answer)] := by
    rw [single]
    rfl
  rw [cfgAttributes, listed]
  by_cases written : answer.getSdpString = []
  · simp [written]
  · by_cases actual : answer.index = actualConfigurationIndex
    · simp [actual]
    · simp [actual, written]

/-- The line that names a configuration is kept by a reader that cannot resolve it. -/
theorem readLines_named {stream : SalStreamDescription} (reads : acfgParser.ReadsLines)
    (plain : stream.acaps = ∅ ∧ stream.tcaps = ∅)
    (single : stream.cfgs = (∅ : CfgMap).insert actualConfigurationIndex answer)
    (described : answer.Described mediaAcap mediaTcap) (back : answer.ReadBack)
    (named : answer.acapIndexes ≠ [] ∨ answer.tcapIndex ≠ 0) (potential : answer.index ≠ actualConfigurationIndex) :
    ∃ line, containsText "acfg" line = true ∧
      stream.readLines acfgParser pcfgParser = .ok ((∅ : UnparsedCfgMap).insert answer.index line) := by
  have written := getSdpString_written described named
  let value := indexText answer.index ++ [' '] ++ answer.getSdpString
  have line : stream.cfgAttributes = [{ name := .acfg, value }] := by
    rw [cfgAttributes_single single, if_pos ⟨written, potential⟩]
  have noAcaps : (stream.acaps.toList.map fun acap : UInt32 × String × String =>
      ({ index := acap.1, name := acap.2.1, value := acap.2.2 } : SdpCapability)) = [] := by
    rw [plain.1]
    rfl
  have noTcaps : (stream.tcaps.toList.map fun tcap : UInt32 × String =>
      ({ index := tcap.1, value := tcap.2 } : SdpCapability)) = [] := by
    rw [plain.2]
    rfl
  have acfg : processMediaCfg acfgParser .acfg [] [] [{ name := .acfg, value }] ∅ =
      .ok ((∅ : UnparsedCfgMap).insert answer.index (acfgParser.toText value)) := by
    have kept : ([{ name := .acfg, value }] : List SdpAttribute).filter (fun line => line.name == .acfg) =
        [{ name := .acfg, value }] := rfl
    rw [processMediaCfg, kept, unparsedLines, reads.configs, processConfig_unavailable described back named, reads.id]
    rfl
  have pcfg : processMediaCfg pcfgParser .pcfg [] [] [{ name := .acfg, value }]
      ((∅ : UnparsedCfgMap).insert answer.index (acfgParser.toText value)) =
      .ok ((∅ : UnparsedCfgMap).insert answer.index (acfgParser.toText value)) := rfl
  refine ⟨acfgParser.toText value, reads.text value, ?_⟩
  rw [readLines, noAcaps, noTcaps, line, processMediaDescription, acfg]
  exact pcfg

/-- An answer to the actual configuration writes no line. -/
theorem readLines_actual {stream : SalStreamDescription}
    (single : stream.cfgs = (∅ : CfgMap).insert actualConfigurationIndex answer)
    (actual : answer.index = actualConfigurationIndex) : stream.readLines acfgParser pcfgParser = .ok ∅ := by
  have none : stream.cfgAttributes = [] := by
    rw [cfgAttributes_single single, if_neg fun potential => potential.2 actual]
  rw [readLines, none]
  rfl

end Lines

namespace OfferAnswerEngine

variable {engine : OfferAnswerEngine} {localCap remoteOffer : SalStreamDescription} {bundleOwnerMid : String}

theorem outgoingCandidates_none {received : SalStreamDescription} (unparsed : received.unparsedCfgs = ∅) :
    outgoingCandidates received true = [actualConfigurationIndex] := by
  have none : received.unparsedCfgs.toList = [] := by
    rw [unparsed]
    rfl
  simp [outgoingCandidates, none]

theorem outgoingCandidates_named {received : SalStreamDescription} {index : UInt32} {line : String}
    (acfg : containsText "acfg" line = true) (unparsed : received.unparsedCfgs = (∅ : UnparsedCfgMap).insert index line) :
    outgoingCandidates received true = [index] := by
  have single : received.unparsedCfgs.toList = [(index, line)] := by
    rw [unparsed]
    rfl
  simp [outgoingCandidates, single, acfg]

/-- What an answer takes over from the two configurations for its line. -/
theorem acceptIncoming_line {localIdx remoteIdx : UInt32} {start cfg : SalStreamConfiguration}
    (succeeded : engine.acceptIncoming localCap remoteOffer localIdx remoteIdx start = some cfg) :
    cfg.index = (remoteOffer.getConfigurationAtIndex remoteIdx).index ∧
      cfg.acapIndexes = (remoteOffer.getConfigurationAtIndex remoteIdx).acapIndexes ∧
      cfg.tcapIndex = (remoteOffer.getConfigurationAtIndex remoteIdx).tcapIndex ∧
      cfg.deleteMediaAttributes = (localCap.getConfigurationAtIndex localIdx).deleteMediaAttributes ∧
      cfg.deleteSessionAttributes = (localCap.getConfigurationAtIndex localIdx).deleteSessionAttributes := by
  simp only [acceptIncoming, bind, pure, Option.bind_eq_some_iff, Option.some.injEq] at succeeded
  obtain ⟨packetized, packetization, usable, payloads, offered, enabled, ciphered, crypto, hashed, zrtp, keyed, dtls,
    rfl⟩ := succeeded
  obtain ⟨ptime, maxptime, ttl, rfl⟩ := incomingPacketization_some packetization
  obtain ⟨rfl, -⟩ := requirePayloads_some payloads
  simp only [requireEnabled, Option.ite_none_right_eq_some, Option.some.injEq] at enabled
  obtain ⟨-, rfl⟩ := enabled
  obtain ⟨lines, rfl, -⟩ := negotiateCrypto_some crypto
  obtain ⟨⟨zrtphash, rfl⟩, -⟩ := fillZrtpAttributes_some zrtp
  obtain rfl := incomingDtls_some dtls
  exact ⟨rfl, rfl, rfl, rfl, rfl⟩

/-- An accepted pair was accepted on the streams that the try leaves. -/
theorem initiateIncomingConfiguration_accepts {localIdx remoteIdx : UInt32} {result : SalStreamDescription}
    {cfg : SalStreamConfiguration}
    (succeeded : (engine.initiateIncomingConfiguration localCap remoteOffer result bundleOwnerMid localIdx
      remoteIdx).outcome = some cfg) :
    let attempt :=
      engine.initiateIncomingConfiguration localCap remoteOffer result bundleOwnerMid localIdx remoteIdx
    ∃ start, engine.acceptIncoming attempt.localStream attempt.remoteStream localIdx remoteIdx start = some cfg := by
  simp only [initiateIncomingConfiguration] at succeeded ⊢
  split at succeeded
  next => simp at succeeded
  next present =>
    rw [if_neg present]
    split at succeeded
    next => simp at succeeded
    next compatible =>
      rw [if_neg compatible]
      exact ⟨_, succeeded⟩

/-- An answer refers to the capabilities of the offered configuration, and deletes what the local one does. -/
theorem IncomingSettled.line {cfg : SalStreamConfiguration}
    (settled : engine.IncomingSettled localCap remoteOffer bundleOwnerMid cfg) :
    cfg.index = (remoteOffer.getConfigurationAtIndex settled.remoteIdx).index ∧
      cfg.acapIndexes = (remoteOffer.getConfigurationAtIndex settled.remoteIdx).acapIndexes ∧
      cfg.tcapIndex = (remoteOffer.getConfigurationAtIndex settled.remoteIdx).tcapIndex ∧
      cfg.deleteMediaAttributes = (localCap.getConfigurationAtIndex settled.localIdx).deleteMediaAttributes ∧
      cfg.deleteSessionAttributes = (localCap.getConfigurationAtIndex settled.localIdx).deleteSessionAttributes := by
  obtain ⟨start, accepted⟩ := initiateIncomingConfiguration_accepts settled.outcome
  obtain ⟨_, _, mine, -⟩ := settled.localAfter_rewritten.stored settled.localIdx
  obtain ⟨_, _, theirs, -⟩ := settled.remoteAfter_rewritten.stored settled.remoteIdx
  have line := acceptIncoming_line accepted
  rw [IncomingSettled.localAfter] at mine
  rw [IncomingSettled.remoteAfter] at theirs
  rw [mine, theirs] at line
  exact line

/-- An answer has an actual configuration and no capabilities. -/
theorem IncomingSettled.single {cfg : SalStreamConfiguration}
    (settled : engine.IncomingSettled localCap remoteOffer bundleOwnerMid cfg) :
    settled.negotiation.result.cfgs = (∅ : CfgMap).insert actualConfigurationIndex cfg ∧
      settled.negotiation.result.acaps = ∅ ∧ settled.negotiation.result.tcaps = ∅ := by
  simp only [IncomingSettled.negotiation, acceptIncomingStream]
  split
  next => exact ⟨rfl, rfl, rfl⟩
  next => exact ⟨rfl, rfl, rfl⟩

variable (engine localCap remoteOffer bundleOwnerMid) in
/-- Some local configuration is accepted against the offered one, on the streams as they are given. -/
def answerable (remoteCfgIdx : UInt32) : Bool :=
  localCap.cfgs.keys.any fun localCfgIdx =>
    (engine.initiateIncomingConfiguration localCap remoteOffer (incomingSkeleton localCap remoteOffer) bundleOwnerMid
      localCfgIdx remoteCfgIdx).outcome.isSome

/-- The index that is recorded is that of the first offered configuration that can be answered. -/
theorem initiateIncomingStream_first (ignores : engine.IgnoresRed) (sendable : Sendable remoteOffer)
    (accepted : (engine.initiateIncomingStream localCap remoteOffer bundleOwnerMid true).result.accepted = true) :
    remoteOffer.cfgs.keys.find? (engine.answerable localCap remoteOffer bundleOwnerMid) =
      some (engine.initiateIncomingStream localCap remoteOffer bundleOwnerMid true).remoteStream.cfgIndex := by
  have found := @search_accepted engine localCap remoteOffer ignores sendable (incomingSkeleton localCap remoteOffer)
    bundleOwnerMid (incomingCandidates localCap remoteOffer true)
  simp only [initiateIncomingStream] at accepted ⊢
  split at accepted
  next localIdx remoteIdx cfg localStream remoteStream searched =>
    rw [searched] at found
    exact Library.find?_pairs found.symm
  next localStream remoteStream searched =>
    have rejected : (rejectIncomingStream remoteStream (labelledSkeleton localCap remoteOffer)).accepted = false := by
      rw [SalStreamDescription.accepted, rejectIncomingStream_actual remoteStream _ rfl (labelledSkeleton_actual ..)]
      rfl
    exact absurd (rejected.symm.trans accepted) Bool.false_ne_true

/-- A potential configuration that an answer can name: it refers to a capability, each set of
attributes begins with an index that is not in it again, and no index is out of range. -/
structure Nameable (cfg : SalStreamConfiguration) (mediaAcap mediaTcap : List SdpCapability) : Prop where
  acaps : FormedSets mediaAcap cfg.acapIndexes
  tcap : cfg.tcapIndex = 0 ∨ Offered mediaTcap cfg.tcapIndex
  named : cfg.acapIndexes ≠ [] ∨ cfg.tcapIndex ≠ 0
  once : FirstOnce cfg.acapIndexes
  smallAcaps : SmallIndexes cfg.acapIndexes
  smallTcap : SmallIndex cfg.tcapIndex

/-- An answer is read against one configuration of any offerer, who records it when it is accepted. -/
structure ReadsAgainst (received : SalStreamDescription) (index : UInt32) : Prop where
  single : outgoingCandidates received true = [index]
  recorded : ∀ (offerer : OfferAnswerEngine) (localOffer : SalStreamDescription),
    (offerer.initiateOutgoingStream localOffer received true).result.accepted = true →
      (offerer.initiateOutgoingStream localOffer received true).localStream.cfgIndex = index

theorem ReadsAgainst.ofSingle {received : SalStreamDescription} {index : UInt32}
    (single : outgoingCandidates received true = [index]) : ReadsAgainst received index := by
  refine ⟨single, ?_⟩
  intro offerer localOffer accepted
  obtain ⟨_, settled, candidate, same⟩ := outgoing_accepted accepted
  rw [single] at candidate
  rw [same]
  exact List.mem_singleton.mp candidate

/-- Both parties select the same configuration. The answerer records the first one of the offer
that can be answered, and its answer, as the offerer has it, is read against that one. -/
structure SameSelection (engine : OfferAnswerEngine) (acfgParser pcfgParser : CfgAttributeParser)
    (localCap remoteOffer : SalStreamDescription) (bundleOwnerMid : String) : Prop where
  first : remoteOffer.cfgs.keys.find? (engine.answerable localCap remoteOffer bundleOwnerMid) =
    some (engine.initiateIncomingStream localCap remoteOffer bundleOwnerMid true).remoteStream.cfgIndex
  readBack : ∃ unparsed,
    (engine.initiateIncomingStream localCap remoteOffer bundleOwnerMid true).result.readLines acfgParser pcfgParser =
        .ok unparsed ∧
      ∀ received : SalStreamDescription, received.unparsedCfgs = unparsed →
        ReadsAgainst received (engine.initiateIncomingStream localCap remoteOffer bundleOwnerMid true).remoteStream.cfgIndex

/-- The offerer reads the answer against the configuration that the answerer has recorded, if
that is the actual one or one that can be named, and the answerer deletes no attributes. -/
theorem same_selection {acfgParser pcfgParser : CfgAttributeParser} {mediaAcap mediaTcap : List SdpCapability}
    (ignores : engine.IgnoresRed) (reads : acfgParser.ReadsLines) (offered : OfferedStream remoteOffer true)
    (sendable : Sendable remoteOffer)
    (nameable : ∀ (index : UInt32) (cfg : SalStreamConfiguration), remoteOffer.cfgs[index]? = some cfg →
      index ≠ actualConfigurationIndex → Nameable cfg mediaAcap mediaTcap)
    (keeps : ∀ (localIdx remoteIdx : UInt32) (localCfg remoteCfg : SalStreamConfiguration),
      localCap.cfgs[localIdx]? = some localCfg → remoteOffer.cfgs[remoteIdx]? = some remoteCfg →
      remoteIdx ≠ actualConfigurationIndex → remoteCfg.acapIndexes = [] →
      localCfg.deleteMediaAttributes = false ∧ localCfg.deleteSessionAttributes = false)
    (accepted : (engine.initiateIncomingStream localCap remoteOffer bundleOwnerMid true).result.accepted = true) :
    engine.SameSelection acfgParser pcfgParser localCap remoteOffer bundleOwnerMid := by
  refine ⟨initiateIncomingStream_first ignores sendable accepted, ?_⟩
  obtain ⟨cfg, settled, candidate, same⟩ := incoming_accepted accepted
  obtain ⟨single, noAcaps, noTcaps⟩ := settled.single
  obtain ⟨index, acaps, tcap, media, session⟩ := settled.line
  have recorded : cfg.index = settled.remoteIdx := (settled.index offered candidate).1
  have number : settled.negotiation.remoteStream.cfgIndex = settled.remoteIdx := rfl
  rw [same, number, ← recorded]
  by_cases actual : cfg.index = actualConfigurationIndex
  · refine ⟨∅, readLines_actual single actual, ?_⟩
    intro received unparsed
    rw [actual]
    exact .ofSingle (outgoingCandidates_none unparsed)
  · cases found : remoteOffer.cfgs[settled.remoteIdx]? with
    | none =>
      rw [getConfigurationAtIndex, found] at index
      exact absurd index actual
    | some remoteCfg =>
      have potential : settled.remoteIdx ≠ actualConfigurationIndex := recorded ▸ actual
      rw [getConfigurationAtIndex, found, Option.getD_some] at acaps tcap
      obtain ⟨formed, transport, named, once, smallAcaps, smallTcap⟩ := nameable _ remoteCfg found potential
      have kept : remoteCfg.acapIndexes = [] → cfg.deleteMediaAttributes = false ∧ cfg.deleteSessionAttributes = false := by
        intro unlisted
        rw [media, session, getConfigurationAtIndex]
        cases present : localCap.cfgs[settled.localIdx]? with
        | none => exact ⟨rfl, rfl⟩
        | some localCfg => exact keeps _ _ localCfg remoteCfg present found potential unlisted
      rw [← acaps] at formed named once smallAcaps kept
      rw [← tcap] at transport named smallTcap
      obtain ⟨line, acfg, read⟩ := @readLines_named acfgParser pcfgParser cfg mediaAcap mediaTcap
        settled.negotiation.result reads ⟨noAcaps, noTcaps⟩ single ⟨formed, transport, named.imp_right .inl⟩
        ⟨kept, once, smallAcaps, smallTcap⟩ named actual
      refine ⟨_, read, ?_⟩
      intro received unparsed
      exact .ofSingle (outgoingCandidates_named acfg unparsed)

/-- Lines that are read at their spaces. -/
def spacedParser : CfgAttributeParser where
  getId value := UInt32.ofNat (textNumber ((value.splitOn ' ').headD []))
  getConfigs value := (value.splitOn ' ').tail
  toText value := "acfg:" ++ String.ofList value

theorem splitOn_line (idx : UInt32) (configs : Text) :
    (indexText idx ++ [' '] ++ configs).splitOn ' ' = indexText idx :: configs.splitOn ' ' := by
  have noSpace : ' ' ∉ indexText idx := (indexText_digits idx).not_mem (by decide)
  rw [List.append_assoc, List.singleton_append, List.splitOn_append_cons_self_of_not_mem noSpace]

theorem spacedParser_reads : spacedParser.ReadsLines where
  id := by
    intro idx configs
    simp only [spacedParser]
    rw [splitOn_line, List.headD_cons, indexText, textNumber_numberText, UInt32.ofNat_toNat]
  configs := by
    intro idx configs
    simp only [spacedParser]
    rw [splitOn_line, List.tail_cons]
  text := by
    intro value
    simp only [containsText, decide_eq_true_eq, spacedParser, String.toList_append]
    exact ⟨[], ':' :: (String.ofList value).toList, rfl⟩

theorem plain_ignoresRed : plain.IgnoresRed := by
  intro mime matcher registered
  simp only [plain, registerOfferAnswerProviders] at registered
  split at registered
  next => cases registered
  next =>
    split at registered
    next => cases registered
    next =>
      split at registered
      next => cases registered
      next => cases registered

/-- A stream of one codec. -/
def pcmuStream : SalStreamDescription :=
  .ofConfiguration 7078 { payloads := [{ mimeType := some "PCMU", clockRate := 8000, channels := 1, number := 0 }] }

/-- An offer of the same codec again in a potential configuration. -/
def pcmuOffer (tcapIndex : UInt32) : SalStreamDescription :=
  pcmuStream.addConfigurationAtIndex 1 { pcmuStream.getActualConfiguration with index := 1, tcapIndex }

theorem pcmuOffer_stored {tcapIndex index : UInt32} {cfg : SalStreamConfiguration}
    (stored : (pcmuOffer tcapIndex).cfgs[index]? = some cfg) :
    index = 1 ∧ cfg = { pcmuStream.getActualConfiguration with index := 1, tcapIndex } ∨
      index = actualConfigurationIndex ∧ cfg = pcmuStream.getActualConfiguration := by
  simp only [pcmuOffer, addConfigurationAtIndex, Std.ExtTreeMap.getElem?_insert, Std.LawfulEqCmp.compare_eq_iff_eq] at stored
  split at stored
  next same => exact .inl ⟨same.symm, (Option.some.inj stored).symm⟩
  next =>
    simp only [pcmuStream, SalStreamDescription.ofConfiguration, Std.ExtTreeMap.getElem?_insert,
      Std.LawfulEqCmp.compare_eq_iff_eq, Std.ExtTreeMap.getElem?_empty, Option.ite_none_right_eq_some,
      Option.some.injEq] at stored
    obtain ⟨rfl, rfl⟩ := stored
    exact .inr ⟨rfl, rfl⟩

theorem pcmuOffer_offered (tcapIndex : UInt32) : OfferedStream (pcmuOffer tcapIndex) true := by
  refine ⟨?_, nofun⟩
  intro index cfg stored
  rcases pcmuOffer_stored stored with ⟨rfl, rfl⟩ | ⟨rfl, rfl⟩
  · rfl
  · rfl

theorem pcmuOffer_sendable (tcapIndex : UInt32) : Sendable (pcmuOffer tcapIndex) := by
  intro index pt member
  rw [getConfigurationAtIndex] at member
  cases stored : (pcmuOffer tcapIndex).cfgs[index]? with
  | none =>
    rw [stored] at member
    exact absurd member List.not_mem_nil
  | some cfg =>
    rw [stored] at member
    rcases pcmuOffer_stored stored with ⟨rfl, rfl⟩ | ⟨rfl, rfl⟩
    · rw [List.mem_singleton.mp member]
      rfl
    · rw [List.mem_singleton.mp member]
      rfl

theorem same_selection_transport :
    plain.SameSelection spacedParser spacedParser pcmuStream (pcmuOffer 1) "" := by
  apply @same_selection plain pcmuStream (pcmuOffer 1) "" spacedParser spacedParser [] [⟨1, "", "RTP/AVP"⟩]
    plain_ignoresRed spacedParser_reads (pcmuOffer_offered 1) (pcmuOffer_sendable 1)
  · intro index cfg stored potential
    rcases pcmuOffer_stored stored with ⟨rfl, rfl⟩ | ⟨rfl, -⟩
    · refine ⟨⟨nofun, nofun, nofun⟩, .inr ⟨_, List.mem_singleton.mpr rfl, rfl⟩, .inr (by decide), nofun, nofun, ?_⟩
      exact (by decide : (1 : UInt32).toNat < 2 ^ 31)
    · exact absurd rfl potential
  · intro localIdx remoteIdx localCfg remoteCfg stored _ _ _
    simp only [pcmuStream, SalStreamDescription.ofConfiguration, Std.ExtTreeMap.getElem?_insert,
      Std.LawfulEqCmp.compare_eq_iff_eq, Std.ExtTreeMap.getElem?_empty, Option.ite_none_right_eq_some,
      Option.some.injEq] at stored
    obtain ⟨-, rfl⟩ := stored
    exact ⟨rfl, rfl⟩
  · rfl

/-- A potential configuration without capabilities is selected, and the answer is read against
the actual one. -/
theorem selection_not_named : ¬ ∀ (engine : OfferAnswerEngine) (acfgParser pcfgParser : CfgAttributeParser)
    (localCap remoteOffer : SalStreamDescription) (bundleOwnerMid : String), engine.IgnoresRed →
    acfgParser.ReadsLines → OfferedStream remoteOffer true → Sendable remoteOffer →
    (engine.initiateIncomingStream localCap remoteOffer bundleOwnerMid true).result.accepted = true →
    engine.SameSelection acfgParser pcfgParser localCap remoteOffer bundleOwnerMid := by
  intro selected
  obtain ⟨-, unparsed, read, against⟩ := selected plain spacedParser spacedParser pcmuStream (pcmuOffer 0) ""
    plain_ignoresRed spacedParser_reads (pcmuOffer_offered 0) (pcmuOffer_sendable 0) rfl
  have nothing : (plain.initiateIncomingStream pcmuStream (pcmuOffer 0) "" true).result.readLines spacedParser
      spacedParser = .ok ∅ := rfl
  rw [nothing, Except.ok.injEq] at read
  have actual := (against { unparsedCfgs := ∅ } read).single
  rw [outgoingCandidates_none rfl] at actual
  exact absurd (List.cons.inj actual).1 (by decide)

end OfferAnswerEngine

end Liblinphone
