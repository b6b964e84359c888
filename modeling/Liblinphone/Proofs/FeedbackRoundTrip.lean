import Liblinphone.RtcpFeedback

/-! What of RTCP feedback is read back from the attributes that were written. Each
payload is reached by the attributes about all payloads and then by its own ones. -/

namespace Liblinphone

namespace SalStreamConfiguration

/-- Whom an attribute is about does not depend on the feedback that a payload has. -/
def Steady (about : RtcpFbAttribute → PayloadType → Bool) : Prop :=
  ∀ fbAttribute pt avpf, about fbAttribute { pt with avpf } = about fbAttribute pt

theorem applyToPayloads_payloads (about : PayloadType → Bool) (fbAttribute : RtcpFbAttribute)
    (rtcpFb : OrtpRtcpFbConfiguration) (payloads : List PayloadType) :
    (applyToPayloads about fbAttribute rtcpFb payloads).2 =
      payloads.map fun pt => if about pt then { pt with avpf := pt.avpf.applyRtcpFb fbAttribute } else pt := by
  induction payloads generalizing rtcpFb with
  | nil => rfl
  | cons pt rest following =>
    by_cases reached : about pt = true
    · simp [applyToPayloads, reached, following, applyRtcpFbAttributeToPayload]
    · simp [applyToPayloads, reached, following]

theorem applyRtcpFb_twice (rtcpFb : OrtpRtcpFbConfiguration) (fbAttribute : RtcpFbAttribute) :
    (rtcpFb.applyRtcpFb fbAttribute).applyRtcpFb fbAttribute = rtcpFb.applyRtcpFb fbAttribute := by
  cases kind : fbAttribute.type <;> cases param : fbAttribute.param <;>
    simp [OrtpRtcpFbConfiguration.applyRtcpFb, kind, param]

theorem applyToPayloads_rtcpFb (about : PayloadType → Bool) (fbAttribute : RtcpFbAttribute)
    (rtcpFb : OrtpRtcpFbConfiguration) (payloads : List PayloadType) :
    (applyToPayloads about fbAttribute rtcpFb payloads).1 =
      if payloads.any about then rtcpFb.applyRtcpFb fbAttribute else rtcpFb := by
  induction payloads generalizing rtcpFb with
  | nil => rfl
  | cons pt rest following =>
    by_cases reached : about pt = true
    · simp only [applyToPayloads, reached, following, applyRtcpFbAttributeToPayload, if_true, List.any_cons, Bool.true_or,
        applyRtcpFb_twice, ite_self]
    · simp [applyToPayloads, reached, following]

section Pass

variable {about : RtcpFbAttribute → PayloadType → Bool} (steady : Steady about)
include steady

/-- A pass over the attributes gives each payload those that are about it. -/
theorem pass_payloads (attributes : List RtcpFbAttribute) (cfg : SalStreamConfiguration) :
    (attributes.foldl (applyRtcpFb · about) cfg).payloads = cfg.payloads.map fun pt =>
      { pt with avpf := (attributes.filter (about · pt)).foldl PayloadTypeAvpfParams.applyRtcpFb pt.avpf } := by
  induction attributes generalizing cfg with
  | nil => simp
  | cons fbAttribute rest following =>
    rw [List.foldl_cons, following, applyRtcpFb, applyToPayloads_payloads, List.map_map]
    apply List.map_congr_left
    intro pt member
    by_cases reached : about fbAttribute pt = true
    · have others : rest.filter (about · { pt with avpf := pt.avpf.applyRtcpFb fbAttribute }) = rest.filter (about · pt) :=
        List.filter_congr fun other _ => steady other pt _
      simp only [Function.comp_apply, reached, if_true, List.filter_cons_of_pos, List.foldl_cons, others]
    · simp [reached]

/-- Nothing of the stream is set by attributes that are about no payload, or not about the stream. -/
theorem pass_rtcpFb_unchanged {attributes : List RtcpFbAttribute} {cfg : SalStreamConfiguration}
    (silent : ∀ fbAttribute ∈ attributes, (∀ pt ∈ cfg.payloads, about fbAttribute pt = false) ∨
      ∀ rtcpFb : OrtpRtcpFbConfiguration, rtcpFb.applyRtcpFb fbAttribute = rtcpFb) :
    (attributes.foldl (applyRtcpFb · about) cfg).rtcpFb = cfg.rtcpFb := by
  induction attributes generalizing cfg with
  | nil => rfl
  | cons fbAttribute rest following =>
    have payloads : (cfg.applyRtcpFb about fbAttribute).payloads =
        cfg.payloads.map fun pt => if about fbAttribute pt then { pt with avpf := pt.avpf.applyRtcpFb fbAttribute } else pt :=
      applyToPayloads_payloads _ _ _ _
    have unchanged : (cfg.applyRtcpFb about fbAttribute).rtcpFb = cfg.rtcpFb := by
      rw [applyRtcpFb, applyToPayloads_rtcpFb]
      rcases silent fbAttribute List.mem_cons_self with unreached | other
      · rw [if_neg]
        simpa using unreached
      · rw [other, ite_self]
    rw [List.foldl_cons, following, unchanged]
    intro later member
    rcases silent later (List.mem_cons_of_mem _ member) with unreached | other
    · refine .inl ?_
      intro pt held
      rw [payloads] at held
      obtain ⟨before, listed, rfl⟩ := List.mem_map.mp held
      split
      · rw [steady]
        exact unreached before listed
      · exact unreached before listed
    · exact .inr other

end Pass

/-- The attribute is about all payloads. -/
def general (fbAttribute : RtcpFbAttribute) (_ : PayloadType) : Bool := fbAttribute.id == -1

/-- The attribute is about the number of the payload. -/
def specific (fbAttribute : RtcpFbAttribute) (pt : PayloadType) : Bool := pt.number == fbAttribute.id.toInt

theorem general_steady : Steady general := fun _ _ _ => rfl

theorem specific_steady : Steady specific := fun _ _ _ => rfl

theorem sdpParseRtcpFbParameters_eq (cfg : SalStreamConfiguration) (attributes : List RtcpFbAttribute) :
    (cfg.sdpParseRtcpFbParameters attributes).1 =
      attributes.foldl (applyRtcpFb · specific) (attributes.foldl (applyRtcpFb · general) cfg) := rfl

/-- A stream with payloads takes the attributes about all of them. -/
theorem general_rtcpFb {cfg : SalStreamConfiguration} (filled : cfg.payloads ≠ []) (attributes : List RtcpFbAttribute) :
    (attributes.foldl (applyRtcpFb · general) cfg).rtcpFb =
      (attributes.filter fun fbAttribute => fbAttribute.id == -1).foldl OrtpRtcpFbConfiguration.applyRtcpFb cfg.rtcpFb := by
  induction attributes generalizing cfg with
  | nil => rfl
  | cons fbAttribute rest following =>
    have kept : (cfg.applyRtcpFb general fbAttribute).payloads ≠ [] := by
      rw [applyRtcpFb, applyToPayloads_payloads]
      simpa using filled
    rw [List.foldl_cons, following kept, applyRtcpFb, applyToPayloads_rtcpFb]
    by_cases reached : fbAttribute.id = -1
    · have found : cfg.payloads.any (general fbAttribute) = true := by
        obtain ⟨pt, others, held⟩ := List.exists_cons_of_ne_nil filled
        rw [held, List.any_cons, general, reached]
        rfl
      simp [found, reached]
    · have missed : cfg.payloads.any (general fbAttribute) = false := by simp [general, reached]
      simp [missed, reached]

section Written

variable (cfg : SalStreamConfiguration)

/-- The interval is written for each payload. -/
def trrIntPerPayload : Bool :=
  !cfg.isRtcpFbTrrIntTheSameForAllPayloads.1 && cfg.isRtcpFbTrrIntTheSameForAllPayloads.2 != 0

theorem addRtcpFbAttributesToSdp_attributes : cfg.addRtcpFbAttributesToSdp.2 =
    cfg.generalRtcpFbAttributes ++ cfg.payloads.flatMap (payloadRtcpFbAttributes cfg.trrIntPerPayload) := rfl

/-- Of what is written under a condition nothing else is a member. -/
theorem eq_of_mem_written {condition : Prop} [Decidable condition] {written fbAttribute : RtcpFbAttribute}
    (member : fbAttribute ∈ if condition then [written] else []) : fbAttribute = written := by
  split at member
  · exact List.mem_singleton.mp member
  · cases member

theorem generalRtcpFbAttributes_id : ∀ fbAttribute ∈ cfg.generalRtcpFbAttributes, fbAttribute.id = -1 := by
  intro fbAttribute member
  simp only [generalRtcpFbAttributes, List.mem_append] at member
  rcases member with ((interval | nack) | tmmbr) | remb
  · rw [eq_of_mem_written interval]
  · rw [eq_of_mem_written nack]
  · rw [eq_of_mem_written tmmbr]
  · rw [eq_of_mem_written remb]

/-- An attribute of a payload has its number, and sets nothing of the stream. -/
theorem payloadRtcpFbAttributes_about (perPayload : Bool) (pt : PayloadType) :
    ∀ fbAttribute ∈ payloadRtcpFbAttributes perPayload pt, fbAttribute.id = Int8.ofInt pt.number ∧
      ∀ rtcpFb : OrtpRtcpFbConfiguration, rtcpFb.applyRtcpFb fbAttribute = rtcpFb := by
  intro fbAttribute member
  simp only [payloadRtcpFbAttributes, List.mem_append] at member
  rcases member with (((interval | pli) | sli) | rpsi) | fir
  · rw [eq_of_mem_written interval]
    exact ⟨rfl, fun _ => rfl⟩
  · rw [eq_of_mem_written pli]
    exact ⟨rfl, fun _ => rfl⟩
  · rw [eq_of_mem_written sli]
    exact ⟨rfl, fun _ => rfl⟩
  · split at rpsi
    next =>
      split at rpsi
      next =>
        rw [List.mem_singleton.mp rpsi]
        exact ⟨rfl, fun _ => rfl⟩
      next =>
        rw [List.mem_singleton.mp rpsi]
        exact ⟨rfl, fun _ => rfl⟩
    next => cases rpsi
  · rw [eq_of_mem_written fir]
    exact ⟨rfl, fun _ => rfl⟩

/-- The numbers are those of RTP, each of them once, and every payload has feedback enabled and known features. -/
structure Negotiable : Prop where
  filled : cfg.payloads ≠ []
  distinct : (cfg.payloads.map PayloadType.number).Nodup
  numbers : ∀ pt ∈ cfg.payloads, 0 ≤ pt.number ∧ pt.number ≤ 127
  enabled : ∀ pt ∈ cfg.payloads, pt.flags.rtcpFeedbackEnabled = true
  known : ∀ pt ∈ cfg.payloads, pt.avpf.features < 16

theorem toInt_ofInt_number {number : Int} (low : 0 ≤ number) (high : number ≤ 127) : (Int8.ofInt number).toInt = number := by
  apply Int8.toInt_ofInt_of_le
  · omega
  · omega

theorem ofInt_number_ne {number : Int} (low : 0 ≤ number) (high : number ≤ 127) : Int8.ofInt number ≠ -1 := by
  intro same
  have value := toInt_ofInt_number low high
  rw [same] at value
  have negative : (-1 : Int8).toInt = -1 := rfl
  omega

variable {cfg}

theorem Negotiable.general_attributes (negotiable : cfg.Negotiable) :
    (cfg.addRtcpFbAttributesToSdp.2.filter fun fbAttribute => fbAttribute.id == -1) = cfg.generalRtcpFbAttributes := by
  have all : (cfg.generalRtcpFbAttributes.filter fun fbAttribute => fbAttribute.id == -1) = cfg.generalRtcpFbAttributes := by
    apply List.filter_eq_self.mpr
    intro fbAttribute member
    exact beq_iff_eq.mpr (cfg.generalRtcpFbAttributes_id fbAttribute member)
  have none : ((cfg.payloads.flatMap (payloadRtcpFbAttributes cfg.trrIntPerPayload)).filter
      fun fbAttribute => fbAttribute.id == -1) = [] := by
    apply List.filter_eq_nil_iff.mpr
    intro fbAttribute member
    obtain ⟨pt, listed, held⟩ := List.mem_flatMap.mp member
    rw [(payloadRtcpFbAttributes_about _ pt fbAttribute held).1, beq_iff_eq]
    exact ofInt_number_ne (negotiable.numbers pt listed).1 (negotiable.numbers pt listed).2
  rw [addRtcpFbAttributesToSdp_attributes, List.filter_append, all, none, List.append_nil]

/-- In the attributes of all payloads those about one number are the attributes of its payload. -/
theorem filter_own (perPayload : Bool) {payloads : List PayloadType} (distinct : (payloads.map PayloadType.number).Nodup)
    (numbers : ∀ pt ∈ payloads, 0 ≤ pt.number ∧ pt.number ≤ 127) {pt : PayloadType} (member : pt ∈ payloads) :
    ((payloads.flatMap (payloadRtcpFbAttributes perPayload)).filter fun fbAttribute => pt.number == fbAttribute.id.toInt) =
      payloadRtcpFbAttributes perPayload pt := by
  have own : ∀ other ∈ payloads, ((payloadRtcpFbAttributes perPayload other).filter
      fun fbAttribute => pt.number == fbAttribute.id.toInt) =
        if other.number = pt.number then payloadRtcpFbAttributes perPayload other else [] := by
    intro other listed
    have number := toInt_ofInt_number (numbers other listed).1 (numbers other listed).2
    split
    next same =>
      apply List.filter_eq_self.mpr
      intro fbAttribute held
      rw [(payloadRtcpFbAttributes_about _ other fbAttribute held).1, number, beq_iff_eq, same]
    next different =>
      apply List.filter_eq_nil_iff.mpr
      intro fbAttribute held
      rw [(payloadRtcpFbAttributes_about _ other fbAttribute held).1, number, beq_iff_eq]
      exact fun same => different same.symm
  clear numbers
  induction payloads with
  | nil => cases member
  | cons first rest following =>
    rw [List.map_cons, List.nodup_cons] at distinct
    have later := fun other listed => own other (List.mem_cons_of_mem first listed)
    rw [List.flatMap_cons, List.filter_append, own first List.mem_cons_self]
    rcases List.mem_cons.mp member with rfl | listed
    · have nothing : ((rest.flatMap (payloadRtcpFbAttributes perPayload)).filter
          fun fbAttribute => pt.number == fbAttribute.id.toInt) = [] := by
        rw [List.filter_flatMap, List.flatMap_eq_nil_iff]
        intro other listed
        rw [later other listed, if_neg]
        intro same
        exact distinct.1 (List.mem_map.mpr ⟨other, listed, same⟩)
      rw [if_pos rfl, nothing, List.append_nil]
    · have different : first.number ≠ pt.number := fun same =>
        distinct.1 (List.mem_map.mpr ⟨pt, listed, same.symm⟩)
      rw [if_neg different, List.nil_append, following distinct.2 listed later]

theorem Negotiable.own_attributes (negotiable : cfg.Negotiable) {pt : PayloadType} (member : pt ∈ cfg.payloads) :
    (cfg.addRtcpFbAttributesToSdp.2.filter fun fbAttribute => pt.number == fbAttribute.id.toInt) =
      payloadRtcpFbAttributes cfg.trrIntPerPayload pt := by
  have none : (cfg.generalRtcpFbAttributes.filter fun fbAttribute => pt.number == fbAttribute.id.toInt) = [] := by
    apply List.filter_eq_nil_iff.mpr
    intro fbAttribute held
    have negative : (-1 : Int8).toInt = -1 := rfl
    have low := (negotiable.numbers pt member).1
    rw [cfg.generalRtcpFbAttributes_id fbAttribute held, negative, beq_iff_eq]
    omega
  rw [addRtcpFbAttributesToSdp_attributes, List.filter_append, none, List.nil_append,
    filter_own _ negotiable.distinct negotiable.numbers member]

end Written

theorem foldl_written {State : Type} (apply : State → RtcpFbAttribute → State) (condition : Bool)
    (written : RtcpFbAttribute) (state : State) :
    (if condition then [written] else []).foldl apply state = if condition then apply state written else state := by
  cases condition
  · rfl
  · rfl

/-- The attributes about all payloads set the flags of the stream. -/
theorem generalRtcpFbAttributes_rtcpFb (cfg : SalStreamConfiguration) :
    cfg.generalRtcpFbAttributes.foldl OrtpRtcpFbConfiguration.applyRtcpFb {} = cfg.rtcpFb := by
  obtain ⟨nack, tmmbr, remb, flags⟩ : ∃ nack tmmbr remb, cfg.rtcpFb = ⟨nack, tmmbr, remb⟩ := ⟨_, _, _, rfl⟩
  simp only [generalRtcpFbAttributes, List.foldl_append, foldl_written, OrtpRtcpFbConfiguration.applyRtcpFb, ite_self, flags]
  cases nack <;> cases tmmbr <;> cases remb <;> rfl

/-- A configuration with the same payload numbers that has no feedback yet. -/
structure Unread (cfg target : SalStreamConfiguration) : Prop where
  numbers : target.payloads.map PayloadType.number = cfg.payloads.map PayloadType.number
  zeroed : ∀ pt ∈ target.payloads, pt.avpf = {}
  flags : target.rtcpFb = {}

section Parsed

variable {cfg target : SalStreamConfiguration} (negotiable : cfg.Negotiable) (unread : Unread cfg target)
include negotiable unread

theorem number_of_unread {pt : PayloadType} (member : pt ∈ target.payloads) : 0 ≤ pt.number ∧ pt.number ≤ 127 := by
  have number : pt.number ∈ cfg.payloads.map PayloadType.number := by
    rw [← unread.numbers]
    exact List.mem_map_of_mem member
  obtain ⟨written, listed, same⟩ := List.mem_map.mp number
  rw [← same]
  exact negotiable.numbers written listed

/-- What a payload reads back. -/
def parsedAvpf (cfg : SalStreamConfiguration) (pt : PayloadType) : PayloadTypeAvpfParams :=
  (payloadRtcpFbAttributes cfg.trrIntPerPayload pt).foldl PayloadTypeAvpfParams.applyRtcpFb
    (cfg.generalRtcpFbAttributes.foldl PayloadTypeAvpfParams.applyRtcpFb {})

/-- The payloads are read back as they were exactly when each of them is. -/
theorem parsed_payloads_iff :
    (target.sdpParseRtcpFbParameters cfg.addRtcpFbAttributesToSdp.2).1.payloads.map (fun pt => (pt.number, pt.avpf)) =
      cfg.payloads.map (fun pt => (pt.number, pt.avpf)) ↔ ∀ pt ∈ cfg.payloads, parsedAvpf cfg pt = pt.avpf := by
  let read (number : Int) : PayloadTypeAvpfParams :=
    (cfg.addRtcpFbAttributesToSdp.2.filter fun fbAttribute => number == fbAttribute.id.toInt).foldl
      PayloadTypeAvpfParams.applyRtcpFb (cfg.generalRtcpFbAttributes.foldl PayloadTypeAvpfParams.applyRtcpFb {})
  have parsed : (target.sdpParseRtcpFbParameters cfg.addRtcpFbAttributesToSdp.2).1.payloads.map
      (fun pt => (pt.number, pt.avpf)) = target.payloads.map fun pt => (pt.number, read pt.number) := by
    rw [sdpParseRtcpFbParameters_eq, pass_payloads specific_steady, pass_payloads general_steady, List.map_map, List.map_map]
    apply List.map_congr_left
    intro pt member
    simp only [Function.comp_apply, general, specific, negotiable.general_attributes, unread.zeroed pt member, read]
  have numbered : (target.payloads.map fun pt => (pt.number, read pt.number)) =
      cfg.payloads.map fun pt => (pt.number, read pt.number) := by
    have same := congrArg (List.map fun number => (number, read number)) unread.numbers
    rwa [List.map_map, List.map_map] at same
  rw [parsed, numbered, List.map_inj_left]
  apply forall₂_congr
  intro pt member
  have own : read pt.number = parsedAvpf cfg pt := by
    simp only [read, negotiable.own_attributes member, parsedAvpf]
  rw [Prod.mk.injEq, own]
  exact and_iff_right rfl

/-- The flags of the stream are read back as they were. -/
theorem parsed_rtcpFb : (target.sdpParseRtcpFbParameters cfg.addRtcpFbAttributesToSdp.2).1.rtcpFb = cfg.rtcpFb := by
  have filled : target.payloads ≠ [] := by
    intro empty
    have none := unread.numbers
    rw [empty, List.map_nil] at none
    exact negotiable.filled (List.map_eq_nil_iff.mp none.symm)
  rw [sdpParseRtcpFbParameters_eq, pass_rtcpFb_unchanged specific_steady, general_rtcpFb filled,
    negotiable.general_attributes, unread.flags, generalRtcpFbAttributes_rtcpFb]
  intro fbAttribute member
  rw [addRtcpFbAttributesToSdp_attributes] at member
  rcases List.mem_append.mp member with all | own
  · refine .inl ?_
    intro pt held
    rw [pass_payloads general_steady] at held
    obtain ⟨before, listed, rfl⟩ := List.mem_map.mp held
    have low := (number_of_unread negotiable unread listed).1
    have negative : (-1 : Int8).toInt = -1 := rfl
    rw [specific, cfg.generalRtcpFbAttributes_id fbAttribute all, negative, beq_eq_false_iff_ne]
    change before.number ≠ -1
    omega
  · obtain ⟨pt, -, held⟩ := List.mem_flatMap.mp own
    exact .inr (payloadRtcpFbAttributes_about _ pt fbAttribute held).2

end Parsed

/-- The attributes about all payloads set the interval at most. -/
theorem generalRtcpFbAttributes_avpf (cfg : SalStreamConfiguration) (params : PayloadTypeAvpfParams) :
    cfg.generalRtcpFbAttributes.foldl PayloadTypeAvpfParams.applyRtcpFb params =
      if cfg.isRtcpFbTrrIntTheSameForAllPayloads.1 && cfg.isRtcpFbTrrIntTheSameForAllPayloads.2 != 0 then
        { params with trrInterval := cfg.isRtcpFbTrrIntTheSameForAllPayloads.2 } else params := by
  simp only [generalRtcpFbAttributes, List.foldl_append, foldl_written, PayloadTypeAvpfParams.applyRtcpFb, ite_self]

/-- The features that are written, put together. -/
def writtenFeatures (params : PayloadTypeAvpfParams) : UInt8 :=
  let pli := if params.has PayloadTypeAvpfParams.pli then PayloadTypeAvpfParams.pli else 0
  let sli := if params.has PayloadTypeAvpfParams.sli then PayloadTypeAvpfParams.sli else 0
  let rpsi := if params.has PayloadTypeAvpfParams.rpsi then PayloadTypeAvpfParams.rpsi else 0
  let fir := if params.has PayloadTypeAvpfParams.fir then PayloadTypeAvpfParams.fir else 0
  pli ||| sli ||| rpsi ||| fir

theorem writtenFeatures_known {params : PayloadTypeAvpfParams} (known : params.features < 16) :
    writtenFeatures params = params.features := by
  have all : ∀ number < 16, writtenFeatures { features := UInt8.ofNat number } = UInt8.ofNat number := by decide
  have bound : params.features.toNat < 16 := UInt8.lt_iff_toNat_lt.mp known
  have same := all params.features.toNat bound
  rw [UInt8.ofNat_toNat] at same
  exact same

/-- An attribute that adds a feature adds it when it is written. -/
theorem foldl_feature (params : PayloadTypeAvpfParams) {written : RtcpFbAttribute} {feature : UInt8}
    (effect : ∀ params : PayloadTypeAvpfParams, params.applyRtcpFb written = params.add feature) (condition : Bool) :
    (if condition then [written] else []).foldl PayloadTypeAvpfParams.applyRtcpFb params =
      params.add (if condition then feature else 0) := by
  cases condition with
  | false => simp [PayloadTypeAvpfParams.add]
  | true => exact effect params

/-- Positive feedback adds the feature, and negative feedback the compatibility with it. -/
theorem foldl_rpsi (params : PayloadTypeAvpfParams) (id : Int8) (condition compatible : Bool) :
    (if condition then
      if compatible then [({ id, type := .nack, param := .rpsi } : RtcpFbAttribute)] else [{ id, type := .ack, param := .rpsi }]
    else []).foldl PayloadTypeAvpfParams.applyRtcpFb params =
      { params.add (if condition then PayloadTypeAvpfParams.rpsi else 0) with
        rpsiCompatibility := params.rpsiCompatibility || condition && compatible } := by
  cases condition with
  | false => simp [PayloadTypeAvpfParams.add]
  | true =>
    cases compatible with
    | false => simp [PayloadTypeAvpfParams.applyRtcpFb, PayloadTypeAvpfParams.add]
    | true => simp [PayloadTypeAvpfParams.applyRtcpFb]

/-- The attributes of a payload set its features, and its interval when that is written. -/
theorem payloadRtcpFbAttributes_avpf (perPayload : Bool) (pt : PayloadType) (trrInterval : UInt16) :
    (payloadRtcpFbAttributes perPayload pt).foldl PayloadTypeAvpfParams.applyRtcpFb { trrInterval } =
      { features := writtenFeatures pt.avpf
        rpsiCompatibility := pt.avpf.has PayloadTypeAvpfParams.rpsi && pt.avpf.rpsiCompatibility
        trrInterval := if perPayload then pt.avpf.trrInterval else trrInterval } := by
  have interval : (if perPayload then
      [({ id := Int8.ofInt pt.number, type := .trrInt, trrInt := pt.avpf.trrInterval } : RtcpFbAttribute)] else []).foldl
        PayloadTypeAvpfParams.applyRtcpFb { trrInterval } =
          { trrInterval := if perPayload then pt.avpf.trrInterval else trrInterval } := by
    cases perPayload <;> rfl
  simp only [payloadRtcpFbAttributes, List.foldl_append]
  rw [interval, foldl_feature _ fun _ => rfl, foldl_feature _ fun _ => rfl, foldl_rpsi, foldl_feature _ fun _ => rfl]
  simp [PayloadTypeAvpfParams.add, writtenFeatures]

/-- With feedback enabled for all payloads the first interval is compared with the others. -/
theorem sameTrrInt_eq {payloads : List PayloadType} (enabled : ∀ pt ∈ payloads, pt.flags.rtcpFeedbackEnabled = true)
    (trrInt : UInt16) :
    sameTrrInt false trrInt payloads = (payloads.all fun pt => pt.avpf.trrInterval == trrInt, trrInt) := by
  induction payloads with
  | nil => rfl
  | cons pt rest following =>
    have others := following fun other member => enabled other (List.mem_cons_of_mem _ member)
    by_cases same : pt.avpf.trrInterval = trrInt
    · simp [sameTrrInt, enabled pt, same, others]
    · simp [sameTrrInt, enabled pt, same]

/-- The interval of the first payload. -/
def firstInterval (cfg : SalStreamConfiguration) : UInt16 := (cfg.payloads.head?.map (·.avpf.trrInterval)).getD 0

theorem isRtcpFbTrrInt_eq {cfg : SalStreamConfiguration} (negotiable : cfg.Negotiable) :
    cfg.isRtcpFbTrrIntTheSameForAllPayloads =
      (cfg.payloads.all fun pt => pt.avpf.trrInterval == cfg.firstInterval, cfg.firstInterval) := by
  obtain ⟨first, rest, held⟩ := List.exists_cons_of_ne_nil negotiable.filled
  have enabled := negotiable.enabled
  rw [isRtcpFbTrrIntTheSameForAllPayloads, firstInterval, held]
  rw [held] at enabled
  rw [sameTrrInt, if_pos (enabled first List.mem_cons_self), if_pos rfl,
    sameTrrInt_eq fun other member => enabled other (List.mem_cons_of_mem _ member)]
  simp

/-- What a payload reads back: its features, the compatibility if it has the feature, and
an interval if the first one is not zero. -/
theorem parsedAvpf_eq {cfg : SalStreamConfiguration} (negotiable : cfg.Negotiable) {pt : PayloadType}
    (member : pt ∈ cfg.payloads) : parsedAvpf cfg pt =
      { features := pt.avpf.features
        rpsiCompatibility := pt.avpf.has PayloadTypeAvpfParams.rpsi && pt.avpf.rpsiCompatibility
        trrInterval := if cfg.firstInterval = 0 then 0 else pt.avpf.trrInterval } := by
  have compared := isRtcpFbTrrInt_eq negotiable
  have started : cfg.generalRtcpFbAttributes.foldl PayloadTypeAvpfParams.applyRtcpFb {} =
      { trrInterval := if (cfg.payloads.all fun pt => pt.avpf.trrInterval == cfg.firstInterval) && cfg.firstInterval != 0
          then cfg.firstInterval else 0 } := by
    rw [generalRtcpFbAttributes_avpf, compared]
    split
    · rfl
    · rfl
  rw [parsedAvpf, started, payloadRtcpFbAttributes_avpf, writtenFeatures_known (negotiable.known pt member),
    trrIntPerPayload, compared]
  by_cases zero : cfg.firstInterval = 0
  · simp [zero]
  · cases same : cfg.payloads.all fun pt => pt.avpf.trrInterval == cfg.firstInterval with
    | false => simp [zero]
    | true =>
      have own := List.all_eq_true.mp same pt member
      simp [zero, beq_iff_eq.mp own]

/-- All feedback is read back. -/
def RestoresFeedback (cfg target : SalStreamConfiguration) : Prop :=
  let parsed := (target.sdpParseRtcpFbParameters cfg.addRtcpFbAttributesToSdp.2).1
  parsed.payloads.map (fun pt => (pt.number, pt.avpf)) = cfg.payloads.map (fun pt => (pt.number, pt.avpf)) ∧
    parsed.rtcpFb = cfg.rtcpFb

/-- Feedback is read back exactly when the first interval is not zero or all of them are,
and the compatibility of a feature comes with the feature. -/
theorem feedback_restored_iff {cfg target : SalStreamConfiguration} (negotiable : cfg.Negotiable)
    (unread : Unread cfg target) : RestoresFeedback cfg target ↔
      (cfg.firstInterval = 0 → ∀ pt ∈ cfg.payloads, pt.avpf.trrInterval = 0) ∧
        ∀ pt ∈ cfg.payloads, pt.avpf.rpsiCompatibility = true → pt.avpf.has PayloadTypeAvpfParams.rpsi = true := by
  unfold RestoresFeedback
  rw [and_iff_left (parsed_rtcpFb negotiable unread), parsed_payloads_iff negotiable unread]
  constructor
  · intro restored
    refine ⟨?_, ?_⟩
    · intro zero pt member
      have same := restored pt member
      rw [parsedAvpf_eq negotiable member, if_pos zero] at same
      exact (congrArg PayloadTypeAvpfParams.trrInterval same).symm
    · intro pt member compatible
      have same := restored pt member
      rw [parsedAvpf_eq negotiable member] at same
      have flag : (pt.avpf.has PayloadTypeAvpfParams.rpsi && pt.avpf.rpsiCompatibility) = pt.avpf.rpsiCompatibility :=
        congrArg PayloadTypeAvpfParams.rpsiCompatibility same
      rwa [compatible, Bool.and_true] at flag
  · rintro ⟨intervals, compatible⟩ pt member
    have interval : (if cfg.firstInterval = 0 then 0 else pt.avpf.trrInterval) = pt.avpf.trrInterval := by
      split
      next zero => exact (intervals zero pt member).symm
      next => rfl
    have flag : (pt.avpf.has PayloadTypeAvpfParams.rpsi && pt.avpf.rpsiCompatibility) = pt.avpf.rpsiCompatibility := by
      cases held : pt.avpf.rpsiCompatibility with
      | false => exact Bool.and_false _
      | true => rw [compatible pt member held, Bool.and_true]
    rw [parsedAvpf_eq negotiable member, interval, flag]

/-- Two payloads with the given intervals, the first of them with picture loss indication. -/
def twoIntervals (first second : UInt16) : SalStreamConfiguration :=
  { proto := .rtpAvpf
    rtcpFb := { genericNackEnabled := true }
    payloads := [
      { mimeType := some "VP8", clockRate := 90000, channels := 0, number := 96, flags := { rtcpFeedbackEnabled := true }
        avpf := { features := 2, trrInterval := first } },
      { mimeType := some "H264", clockRate := 90000, channels := 0, number := 97, flags := { rtcpFeedbackEnabled := true }
        avpf := { features := 5, rpsiCompatibility := true, trrInterval := second } }] }

/-- The same payloads before anything is read. -/
def noFeedback : SalStreamConfiguration :=
  { proto := .rtpAvpf
    payloads := [
      { mimeType := some "VP8", clockRate := 90000, channels := 0, number := 96 },
      { mimeType := some "H264", clockRate := 90000, channels := 0, number := 97 }] }

theorem twoIntervals_negotiable (first second : UInt16) : (twoIntervals first second).Negotiable where
  filled := List.cons_ne_nil _ _
  distinct := by simp [twoIntervals]
  numbers := by simp [twoIntervals]
  enabled := by simp [twoIntervals]
  known := by simp [twoIntervals]

theorem twoIntervals_unread (first second : UInt16) : Unread (twoIntervals first second) noFeedback where
  numbers := rfl
  zeroed := by simp [noFeedback]
  flags := rfl

/-- Different intervals are read back when the first one is not zero. -/
theorem different_intervals_restored : RestoresFeedback (twoIntervals 5000 0) noFeedback := by
  apply (feedback_restored_iff (twoIntervals_negotiable 5000 0) (twoIntervals_unread 5000 0)).mpr
  refine ⟨?_, ?_⟩
  · intro zero
    exact absurd zero (by decide)
  · decide

/-- After a first interval of zero the other one is written nowhere. -/
theorem interval_after_zero_lost :
    (twoIntervals 0 5000).Negotiable ∧ Unread (twoIntervals 0 5000) noFeedback ∧
      ¬RestoresFeedback (twoIntervals 0 5000) noFeedback ∧
      (noFeedback.sdpParseRtcpFbParameters (twoIntervals 0 5000).addRtcpFbAttributesToSdp.2).1.payloads.map
        (fun pt => pt.avpf.trrInterval) = [0, 0] := by
  have lost : (noFeedback.sdpParseRtcpFbParameters (twoIntervals 0 5000).addRtcpFbAttributesToSdp.2).1.payloads.map
      (fun pt => pt.avpf.trrInterval) = [0, 0] := by decide
  refine ⟨twoIntervals_negotiable 0 5000, twoIntervals_unread 0 5000, ?_, lost⟩
  rintro ⟨restored, -⟩
  have intervals := congrArg (List.map fun entry : Int × PayloadTypeAvpfParams => entry.2.trrInterval) restored
  rw [List.map_map, List.map_map] at intervals
  exact absurd (lost.symm.trans intervals) (by decide)

end SalStreamConfiguration

end Liblinphone
