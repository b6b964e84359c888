import Liblinphone.Proofs.Exchange

/-! Agreement of the two parties on RTCP multiplexing and on the DTLS roles. -/

namespace Liblinphone.OfferAnswerEngine
open SalStreamDescription

variable {engine answerer offerer : OfferAnswerEngine} {localCap offer : SalStreamDescription}
  {bundleOwnerMid : String} {answererNegotiates offererNegotiates : Bool} {answer read : SalStreamConfiguration}

/-- The flags and mids of the two sides, as functions of the negotiated pair. -/
private theorem exchange_mux {localIdx offerIdx : UInt32} (offered : OfferedStream offer offererNegotiates)
    (accepted : (answerer.initiateIncomingStream localCap offer bundleOwnerMid answererNegotiates).result.accepted = true)
    (readBack : (offerer.initiateOutgoingStream offer
      (carryAnswer (answerer.initiateIncomingStream localCap offer bundleOwnerMid answererNegotiates).result)
      offererNegotiates).result.accepted = true)
    (chosenLocal : (answerer.initiateIncomingStream localCap offer bundleOwnerMid
      answererNegotiates).localStream.cfgIndex = localIdx)
    (chosenOffer : (answerer.initiateIncomingStream localCap offer bundleOwnerMid
      answererNegotiates).remoteStream.cfgIndex = offerIdx) :
    let answered := answerer.initiateIncomingStream localCap offer bundleOwnerMid answererNegotiates
    let readStream := offerer.initiateOutgoingStream offer (carryAnswer answered.result) offererNegotiates
    let localCfg := localCap.getConfigurationAtIndex localIdx
    let offerCfg := offer.getConfigurationAtIndex offerIdx
    let answer := answered.result.getActualConfiguration
    let read := readStream.result.getActualConfiguration
    answer.mid = (if joinsBundle localCfg offerCfg bundleOwnerMid then offerCfg.mid else "") ∧
      answer.rtcpMux = (offerCfg.rtcpMux && localCfg.rtcpMux) ∧
      read.mid = (if staysInBundle offerCfg answer then answer.mid else "") ∧
      read.rtcpMux = (staysInBundle offerCfg answer || (answer.rtcpMux && offerCfg.rtcpMux)) := by
  intro answered readStream localCfg offerCfg answer read
  obtain ⟨_, _, settled, back, atLocal, atOffer, against, answerCfg, readCfg⟩ :=
    exchange_settled offered accepted readBack
  obtain rfl : settled.localIdx = localIdx := atLocal.symm.trans chosenLocal
  obtain rfl : settled.remoteIdx = offerIdx := atOffer.symm.trans chosenOffer
  obtain ⟨_, _, localSame⟩ := settled.localCfg_eq
  obtain ⟨_, offerSame, _⟩ := settled.remoteCfg_eq
  obtain ⟨_, _, backSame⟩ := back.localCfg_eq
  have incoming := settled.accepted
  have outgoing := back.accepted
  have mid := settled.mid
  rw [against] at backSame
  rw [localSame, offerSame] at incoming mid
  rw [carryAnswer_actual, backSame] at outgoing
  simp only [answer, read, answered, readStream, answerCfg, readCfg] at outgoing ⊢
  exact ⟨mid, incoming.rtcpMux, outgoing.mid, outgoing.rtcpMux⟩

/-- Both parties agree on multiplexing, and multiplex whenever they are in
bundle mode, exactly when the stream does not join the bundle or both sides ask
for multiplexing on their own. -/
theorem rtcpMux_agreement_iff {localIdx offerIdx : UInt32} (offered : OfferedStream offer offererNegotiates)
    (accepted : (answerer.initiateIncomingStream localCap offer bundleOwnerMid answererNegotiates).result.accepted = true)
    (readBack : (offerer.initiateOutgoingStream offer
      (carryAnswer (answerer.initiateIncomingStream localCap offer bundleOwnerMid answererNegotiates).result)
      offererNegotiates).result.accepted = true)
    (chosenLocal : (answerer.initiateIncomingStream localCap offer bundleOwnerMid
      answererNegotiates).localStream.cfgIndex = localIdx)
    (chosenOffer : (answerer.initiateIncomingStream localCap offer bundleOwnerMid
      answererNegotiates).remoteStream.cfgIndex = offerIdx) :
    let answered := answerer.initiateIncomingStream localCap offer bundleOwnerMid answererNegotiates
    let readStream := offerer.initiateOutgoingStream offer (carryAnswer answered.result) offererNegotiates
    let answer := answered.result.getActualConfiguration
    let read := readStream.result.getActualConfiguration
    (answer.rtcpMux = read.rtcpMux ∧
        (answer.mid ≠ "" ∨ read.mid ≠ "" → answer.rtcpMux = true ∧ read.rtcpMux = true)) ↔
      (joinsBundle (localCap.getConfigurationAtIndex localIdx) (offer.getConfigurationAtIndex offerIdx) bundleOwnerMid →
        (localCap.getConfigurationAtIndex localIdx).rtcpMux ∧ (offer.getConfigurationAtIndex offerIdx).rtcpMux) := by
  intro answered readStream answer read
  obtain ⟨answerMid, answerMux, readMid, readMux⟩ :=
    exchange_mux offered accepted readBack chosenLocal chosenOffer
  simp only [answer, read, answered, readStream]
  cases joins : joinsBundle (localCap.getConfigurationAtIndex localIdx) (offer.getConfigurationAtIndex offerIdx)
    bundleOwnerMid with
  | false =>
    rw [joins] at answerMid
    have leaves : staysInBundle (offer.getConfigurationAtIndex offerIdx)
        (answerer.initiateIncomingStream localCap offer bundleOwnerMid
          answererNegotiates).result.getActualConfiguration = false := by
      simp [staysInBundle, answerMid]
    rw [leaves] at readMid readMux
    rw [readMux, answerMid, readMid, answerMux]
    cases (offer.getConfigurationAtIndex offerIdx).rtcpMux <;> simp
  | true =>
    have named : (offer.getConfigurationAtIndex offerIdx).mid ≠ "" := by
      simp only [joinsBundle, Bool.and_eq_true, bne_iff_ne] at joins
      exact joins.1.1.1.2
    rw [joins] at answerMid
    have stays : staysInBundle (offer.getConfigurationAtIndex offerIdx)
        (answerer.initiateIncomingStream localCap offer bundleOwnerMid
          answererNegotiates).result.getActualConfiguration = true := by
      simp [staysInBundle, answerMid, named]
    rw [stays] at readMid readMux
    rw [readMux, answerMid, answerMux]
    simp [named, and_comm]

/-- A capability or an offer of one codec, in a bundle whose owner is this stream. -/
def bundledStream (rtcpMux : Bool) : SalStreamDescription :=
  .ofConfiguration 7078
    { payloads := [{ mimeType := some "PCMU", clockRate := 8000, channels := 1, number := 0 }]
      dir := .sendRecv, mid := "as", midRtpExtHeaderId := 1, rtcpMux }

theorem rtcpMux_agreement_multiplexed :
    let answered := plain.initiateIncomingStream (bundledStream true) (bundledStream true) "as" false
    let readStream := plain.initiateOutgoingStream (bundledStream true) (carryAnswer answered.result) false
    answered.result.getActualConfiguration.rtcpMux = readStream.result.getActualConfiguration.rtcpMux :=
  ((rtcpMux_agreement_iff (OfferedStream.ofConfiguration 7078 _ false rfl) (by decide) (by decide) rfl rfl).mpr
    (by decide)).1

/-- Neither side asks for multiplexing, and they are in bundle mode: the answer
does not have it but the offerer turns it on. -/
theorem rtcpMux_disagreement :
    let answered := plain.initiateIncomingStream (bundledStream false) (bundledStream false) "as" false
    let readStream := plain.initiateOutgoingStream (bundledStream false) (carryAnswer answered.result) false
    answered.result.enabled = true ∧ readStream.result.enabled = true ∧
      answered.result.getActualConfiguration.mid = "as" ∧ readStream.result.getActualConfiguration.mid = "as" ∧
      answered.result.getActualConfiguration.rtcpMux = false ∧
      readStream.result.getActualConfiguration.rtcpMux = true := by
  decide

/-- One side is the DTLS client and the other one the server. -/
def Complementary (first second : SalDtlsRole) : Prop :=
  (first = .isClient ∧ second = .isServer) ∨ (first = .isServer ∧ second = .isClient)

instance (first second : SalDtlsRole) : Decidable (Complementary first second) :=
  inferInstanceAs (Decidable (_ ∨ _))

/-- A configuration with a fingerprint and a role. -/
def HasDtls (cfg : SalStreamConfiguration) : Prop := cfg.dtlsFingerprint ≠ "" ∧ cfg.dtlsRole ≠ .invalid

theorem bothHaveDtls_iff (localCfg remoteCfg : SalStreamConfiguration) :
    bothHaveDtls localCfg remoteCfg = true ↔ HasDtls localCfg ∧ HasDtls remoteCfg := by
  simp only [bothHaveDtls, HasDtls, Bool.and_eq_true, bne_iff_ne]
  tauto

/-- The roles of two successful negotiations are complementary exactly when the
offer left the choice of the roles to the answerer. -/
theorem dtlsRoles_complementary_iff {localIdx offerIdx answerIdx : UInt32} {received : SalStreamDescription}
    (answered : (answerer.initiateIncomingConfiguration localCap offer (incomingSkeleton localCap offer) bundleOwnerMid
      localIdx offerIdx).outcome = some answer)
    (carried : received.getConfigurationAtIndex answerIdx = carryConfiguration answer)
    (readBack : (offerer.initiateOutgoingConfiguration offer received (offerer.outgoingSkeleton offer) offerIdx
      answerIdx).outcome = some read)
    (localDtls : HasDtls (localCap.getConfigurationAtIndex localIdx))
    (offerDtls : HasDtls (offer.getConfigurationAtIndex offerIdx)) :
    Complementary answer.dtlsRole read.dtlsRole ↔ (offer.getConfigurationAtIndex offerIdx).dtlsRole = .unset := by
  have incoming := (initiateIncomingConfiguration_some answered).2.2.2.2.1
  have outgoing := (initiateOutgoingConfiguration_some readBack).2.2.2
  have both := (bothHaveDtls_iff _ _).mpr ⟨localDtls, offerDtls⟩
  rw [carried, carryConfiguration_eq] at outgoing
  have role : answer.dtlsRole =
      if (offer.getConfigurationAtIndex offerIdx).dtlsRole == .unset then .isClient else .invalid := by
    have role := incoming.dtlsRole
    simp only [incomingRole, both, if_true, incomingSkeleton_actual] at role
    rw [role]
    simp only [incomingBundle]
    congr 1
    split <;> rfl
  have fingerprint : answer.dtlsFingerprint ≠ "" := by
    rw [incoming.dtlsFingerprint, both]
    exact localDtls.1
  by_cases unset : (offer.getConfigurationAtIndex offerIdx).dtlsRole = .unset
  · have client : answer.dtlsRole = .isClient := by simpa [unset] using role
    have back := (bothHaveDtls_iff _ _).mpr ⟨offerDtls, fingerprint, by simp [client]⟩
    have server : read.dtlsRole = .isServer := by
      rw [outgoing.dtlsRole, outgoingRole, back, client]
      rfl
    simp [Complementary, client, server, unset]
  · have invalid : answer.dtlsRole = .invalid := by simpa [unset] using role
    simp [Complementary, invalid, unset]

/-- A capability or an offer of one codec over DTLS. -/
def dtlsStream (dtlsRole : SalDtlsRole) : SalStreamDescription :=
  { SalStreamDescription.ofConfiguration 7078
      { proto := .udpTlsRtpSavp, dtlsFingerprint := "SHA-256 AB:CD", dtlsRole, dir := .sendRecv
        payloads := [{ mimeType := some "PCMU", clockRate := 8000, channels := 1, number := 0 }] } with
    supportedEncryption := [.dtls] }

/-- The configuration that answers an offer with the given role, once received. -/
def dtlsAnswer (offered : SalDtlsRole) : Option SalStreamConfiguration :=
  (plain.initiateIncomingConfiguration (dtlsStream .unset) (dtlsStream offered)
    (incomingSkeleton (dtlsStream .unset) (dtlsStream offered)) "" 0 0).outcome

def dtlsRead (offered : SalDtlsRole) : Option SalStreamConfiguration :=
  (dtlsAnswer offered).bind fun answer =>
    (plain.initiateOutgoingConfiguration (dtlsStream offered) (.ofConfiguration 7078 (carryConfiguration answer))
      (plain.outgoingSkeleton (dtlsStream offered)) 0 0).outcome

theorem dtlsRoles_complementary_actpass :
    ∃ answer read, dtlsAnswer .unset = some answer ∧ dtlsRead .unset = some read ∧
      Complementary answer.dtlsRole read.dtlsRole := by
  obtain ⟨answer, answered⟩ := Option.isSome_iff_exists.mp (by decide : (dtlsAnswer .unset).isSome)
  obtain ⟨read, readBack⟩ := Option.isSome_iff_exists.mp (by decide : (dtlsRead .unset).isSome)
  refine ⟨answer, read, answered, readBack, ?_⟩
  rw [dtlsRead, answered] at readBack
  exact (dtlsRoles_complementary_iff answered rfl readBack
    ⟨by decide, by decide⟩ ⟨by decide, by decide⟩).mpr rfl

/-- An offer with `setup:active` is answered without any role, on both sides. -/
theorem dtlsRoles_active_offer :
    ∃ answer read, dtlsAnswer .isClient = some answer ∧ dtlsRead .isClient = some read ∧
      HasDtls ((dtlsStream .unset).getConfigurationAtIndex 0) ∧
      HasDtls ((dtlsStream .isClient).getConfigurationAtIndex 0) ∧
      answer.dtlsRole = .invalid ∧ read.dtlsRole = .invalid := by
  exact ⟨_, _, rfl, rfl, ⟨by decide, by decide⟩, ⟨by decide, by decide⟩, rfl, rfl⟩

end Liblinphone.OfferAnswerEngine
