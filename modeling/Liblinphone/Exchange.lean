import Liblinphone.MediaNegotiation

/-! An exchange between two engines. The offer reaches the answerer unchanged,
and SDP carries the answer back. -/

namespace Liblinphone

/-- The actual configuration of an answer as the offerer reads it: the DTLS role
travels in the setup attribute, everything else that negotiation reads as it is. -/
def carryConfiguration (cfg : SalStreamConfiguration) : SalStreamConfiguration :=
  { cfg with
    dtlsRole := SalStreamConfiguration.getDtlsRoleFromSetupAttribute
      (SalStreamConfiguration.getSetupAttributeForDtlsRole cfg.dtlsRole) }

theorem carryConfiguration_eq (cfg : SalStreamConfiguration) : carryConfiguration cfg = cfg := by
  simp only [carryConfiguration, SalStreamConfiguration.dtlsRole_carried]

/-- An answer has one configuration. When it answers a potential configuration
of the offer, an acfg line gives the index of that one. -/
def carryAnswer (answer : SalStreamDescription) : SalStreamDescription :=
  let cfg := answer.getActualConfiguration
  { answer with
    cfgIndex := SalStreamDescription.actualConfigurationIndex
    cfgs := (∅ : CfgMap).insert SalStreamDescription.actualConfigurationIndex (carryConfiguration cfg)
    unparsedCfgs :=
      if cfg.index == SalStreamDescription.actualConfigurationIndex then ∅
      else (∅ : UnparsedCfgMap).insert cfg.index ("acfg:" ++ toString cfg.index) }

/-- The lines of an answer as they reach the offerer. -/
def carryDescription (answer : SalMediaDescription) : SalMediaDescription :=
  { answer with streams := answer.streams.map carryAnswer }

/-- An offer stores each configuration under its own index, and has potential
configurations only when its capabilities are negotiated. -/
structure OfferedStream (offer : SalStreamDescription) (capabilityNegotiation : Bool) : Prop where
  indexed : ∀ index (cfg : SalStreamConfiguration), offer.cfgs[index]? = some cfg → cfg.index = index
  plain : capabilityNegotiation = false → ∀ index ∈ offer.cfgs, index = SalStreamDescription.actualConfigurationIndex

/-- A stream with an actual configuration only. -/
def SalStreamDescription.ofConfiguration (rtpPort : Int) (cfg : SalStreamConfiguration) : SalStreamDescription :=
  { rtpPort, cfgs := (∅ : CfgMap).insert SalStreamDescription.actualConfigurationIndex cfg }

theorem OfferedStream.ofConfiguration (rtpPort : Int) (cfg : SalStreamConfiguration) (capabilityNegotiation : Bool)
    (actual : cfg.index = SalStreamDescription.actualConfigurationIndex) :
    OfferedStream (.ofConfiguration rtpPort cfg) capabilityNegotiation := by
  refine ⟨?_, ?_⟩
  · intro index other found
    simp only [SalStreamDescription.ofConfiguration, Std.ExtTreeMap.getElem?_insert, Std.LawfulEqCmp.compare_eq_iff_eq,
      Std.ExtTreeMap.getElem?_empty, Option.ite_none_right_eq_some, Option.some.injEq] at found
    obtain ⟨rfl, rfl⟩ := found
    exact actual
  · intro _ index member
    simp only [SalStreamDescription.ofConfiguration, Std.ExtTreeMap.mem_insert, Std.LawfulEqCmp.compare_eq_iff_eq,
      Std.ExtTreeMap.not_mem_empty, or_false] at member
    exact member.symm

/-- An engine whose media library registers no matcher of its own. -/
def OfferAnswerEngine.plain : OfferAnswerEngine :=
  { msFactory := registerOfferAnswerProviders
      { createOfferAnswerContext := fun _ => none, isMulticast := fun _ => false } }

/-- A line without any codec is a rejected one. -/
def SalStreamDescription.accepted (stream : SalStreamDescription) : Bool :=
  !stream.getActualConfiguration.payloads.isEmpty

@[simp] theorem carryAnswer_actual (answer : SalStreamDescription) :
    (carryAnswer answer).getActualConfiguration = answer.getActualConfiguration := by
  simp [carryAnswer, SalStreamDescription.getActualConfiguration, SalStreamDescription.getConfigurationAtIndex,
    carryConfiguration_eq]

private theorem containsText_append (word suffix : String) : containsText word (word ++ suffix) = true := by
  simp only [containsText, decide_eq_true_eq, String.toList_append]
  exact ⟨[], suffix.toList, by simp⟩

namespace OfferAnswerEngine

/-- The answer is read against the configuration that it names. -/
theorem outgoingCandidates_carryAnswer (answer : SalStreamDescription) (capabilityNegotiation : Bool)
    (negotiable : capabilityNegotiation = false →
      answer.getActualConfiguration.index = SalStreamDescription.actualConfigurationIndex) :
    outgoingCandidates (carryAnswer answer) capabilityNegotiation = [answer.getActualConfiguration.index] := by
  simp only [outgoingCandidates, carryAnswer, beq_iff_eq]
  split
  next actual => simp [actual]
  next potential =>
    cases capabilityNegotiation with
    | false => exact absurd (negotiable rfl) potential
    | true =>
      have listed : ((∅ : UnparsedCfgMap).insert answer.getActualConfiguration.index
          ("acfg:" ++ toString answer.getActualConfiguration.index)).toList =
          [(answer.getActualConfiguration.index, "acfg:" ++ toString answer.getActualConfiguration.index)] := by
        rfl
      have named : containsText "acfg" ("acfg:" ++ toString answer.getActualConfiguration.index) = true := by
        have := containsText_append "acfg" (":" ++ toString answer.getActualConfiguration.index)
        rwa [← String.append_assoc] at this
      simp [listed, named]

end OfferAnswerEngine
end Liblinphone
