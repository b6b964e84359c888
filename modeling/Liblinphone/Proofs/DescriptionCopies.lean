import Liblinphone.DescriptionCopies

/-! When a copy says the same as what it was copied from: the same SDP, and the same
configurations and capabilities. -/

namespace Liblinphone

open Library

namespace SalStreamConfiguration

theorem copy_eq (other : SalStreamConfiguration) : other.copy = other := rfl

theorem assign_eq (cfg other : SalStreamConfiguration) : cfg.assign other = other := rfl

/-- No capability is named in these sets. -/
def Unnamed (acapSets : List (List UInt32)) : Prop := ∀ acapSet ∈ acapSets, ∀ acapIdx ∈ acapSet, acapIdx = 0

/-- A configuration without a text of its own. -/
structure Silent (cfg : SalStreamConfiguration) : Prop where
  media : cfg.deleteMediaAttributes = false
  session : cfg.deleteSessionAttributes = false
  tcap : cfg.tcapIndex = 0
  acaps : Unnamed cfg.acapIndexes

theorem acapSetString_foldl (head : Option UInt32) (acapSet : List UInt32) (text : Text) :
    acapSet.foldl (fun text acapIdx =>
      let separated := if some acapIdx != head then text ++ [','] else text
      if acapIdx != 0 then separated ++ indexText acapIdx else separated) text = [] ↔
      text = [] ∧ ∀ acapIdx ∈ acapSet, some acapIdx = head ∧ acapIdx = 0 := by
  induction acapSet generalizing text with
  | nil => simp
  | cons acapIdx rest ih =>
    have digits := (numberText_digits acapIdx.toNat).1
    rw [List.foldl_cons, ih, List.forall_mem_cons, ← and_assoc]
    refine and_congr_left fun _ => ?_
    by_cases zero : acapIdx = 0
    · subst zero
      by_cases first : some 0 = head <;> simp [first]
    · simp [zero, indexText, digits]

theorem acapSetString_eq_nil_iff (acapSet : List UInt32) :
    acapSetString acapSet = [] ↔ ∀ acapIdx ∈ acapSet, acapIdx = 0 := by
  unfold acapSetString
  rw [acapSetString_foldl]
  cases acapSet with
  | nil => simp
  | cons first rest =>
    constructor
    · rintro ⟨-, zero⟩ acapIdx member
      exact (zero acapIdx member).2
    · intro zero
      refine ⟨rfl, fun acapIdx member => ⟨?_, zero acapIdx member⟩⟩
      rw [zero acapIdx member, List.head?_cons, zero first List.mem_cons_self]

theorem acapString_foldl (acapSets : List (List UInt32)) (text : Text) :
    acapSets.foldl (fun text acapSet => (if text.isEmpty then text else text ++ ['|']) ++ acapSetString acapSet) text = [] ↔
      text = [] ∧ Unnamed acapSets := by
  induction acapSets generalizing text with
  | nil => simp [Unnamed]
  | cons acapSet rest ih =>
    simp only [Unnamed, List.foldl_cons, List.forall_mem_cons] at ih ⊢
    rw [ih, ← and_assoc, ← acapSetString_eq_nil_iff]
    refine and_congr_left fun _ => ?_
    cases text <;> simp

theorem getSdpString_eq_nil_iff (cfg : SalStreamConfiguration) : cfg.getSdpString = [] ↔ cfg.Silent := by
  have acaps : cfg.acapString = [] ↔ Unnamed cfg.acapIndexes := (acapString_foldl cfg.acapIndexes []).trans (by simp)
  have tcap : cfg.tcapString = [] ↔ cfg.tcapIndex = 0 := by
    have digits := (numberText_digits cfg.tcapIndex.toNat).1
    unfold tcapString
    by_cases zero : cfg.tcapIndex = 0 <;> simp [zero, indexText, digits]
  have deleted : cfg.deleteAttrs = [] ↔ cfg.deleteMediaAttributes = false ∧ cfg.deleteSessionAttributes = false := by
    unfold deleteAttrs
    cases cfg.deleteMediaAttributes <;> cases cfg.deleteSessionAttributes <;> simp
  have parts : cfg.getSdpString = [] ↔ cfg.deleteAttrs = [] ∧ cfg.acapString = [] ∧ cfg.tcapString = [] := by
    unfold getSdpString
    cases cfg.deleteAttrs <;> cases cfg.acapString <;> cases cfg.tcapString <;> simp
  rw [parts, deleted, acaps, tcap]
  constructor
  · rintro ⟨⟨media, session⟩, unnamed, zero⟩
    exact { media, session, tcap := zero, acaps := unnamed }
  · intro silent
    exact ⟨⟨silent.media, silent.session⟩, silent.acaps, silent.tcap⟩

end SalStreamConfiguration

theorem TcapLines.finish_addTcap_ne_nil (merged : Bool) (lines : TcapLines) (tcap : UInt32 × String) :
    (lines.addTcap merged tcap).finish merged ≠ [] := by
  cases merged with
  | false => simp [TcapLines.addTcap, TcapLines.finish]
  | true =>
    unfold TcapLines.addTcap TcapLines.finish
    by_cases started : lines.tcapValue = [] <;> by_cases next : tcap.1 = lines.prevIdx + 1 <;> simp [started, next]

theorem capabilityLines_eq_nil_iff (params : SalMediaDescriptionParams) (acaps : AcapMap) (tcaps : TcapMap) :
    capabilityLines params acaps tcaps = [] ↔ (params.capabilityNegotiation = true → acaps = ∅ ∧ tcaps = ∅) := by
  unfold capabilityLines tcapAttributes
  cases params.capabilityNegotiation with
  | false => simp
  | true =>
    rw [if_pos rfl, if_pos rfl, List.append_eq_nil_iff, List.map_eq_nil_iff, List.map_eq_nil_iff]
    have written : (tcaps.toList.foldl (TcapLines.addTcap params.mergeTcapLines) {}).finish params.mergeTcapLines = [] ↔
        tcaps.toList = [] := by
      rcases List.eq_nil_or_concat tcaps.toList with none | ⟨before, last, some⟩
      · rw [none]
        cases params.mergeTcapLines <;> simp [TcapLines.finish]
      · rw [some, List.concat_eq_append, List.foldl_append]
        simp [TcapLines.finish_addTcap_ne_nil]
    rw [written, Std.ExtTreeMap.toList_eq_nil_iff, Std.ExtTreeMap.toList_eq_nil_iff]
    simp

namespace SalStreamDescription

variable {library : SdpLibrary} {stream other : SalStreamDescription}

theorem insertCfgs_eq (cfgs other : CfgMap) : insertCfgs cfgs other = overlay cfgs other := by
  unfold insertCfgs overlay
  congr
  funext cfgs index cfg
  cases cfgs[index]? <;> rfl

theorem copy_eq (other : SalStreamDescription) : other.copy = other := by
  unfold copy copyMembers
  rw [insertCfgs_eq]
  change { other with cfgs := overlay ∅ other.cfgs, unparsedCfgs := overlay ∅ other.unparsedCfgs } = other
  rw [overlay_empty, overlay_empty]

theorem assign_merges (stream other : SalStreamDescription) : stream.assign other =
    { other with cfgs := overlay stream.cfgs other.cfgs, unparsedCfgs := overlay stream.unparsedCfgs other.unparsedCfgs } := by
  unfold assign copyMembers
  rw [insertCfgs_eq]

/-- The configurations of a stream have indexes that the other one has too. -/
structure Within (stream other : SalStreamDescription) : Prop where
  cfgs : ∀ index ∈ stream.cfgs, index ∈ other.cfgs
  unparsedCfgs : ∀ index ∈ stream.unparsedCfgs, index ∈ other.unparsedCfgs

theorem assign_eq (within : stream.Within other) : stream.assign other = other := by
  rw [assign_merges, (overlay_eq_iff _ _).mpr within.cfgs, (overlay_eq_iff _ _).mpr within.unparsedCfgs]

theorem within_of_assign (cfgs : (stream.assign other).cfgs = other.cfgs)
    (unparsedCfgs : (stream.assign other).unparsedCfgs = other.unparsedCfgs) : stream.Within other := by
  rw [assign_merges] at cfgs unparsedCfgs
  exact { cfgs := (overlay_eq_iff _ _).mp cfgs, unparsedCfgs := (overlay_eq_iff _ _).mp unparsedCfgs }

structure SaysSame (library : SdpLibrary) (copied stream : SalStreamDescription) : Prop where
  sdp : ∀ salMediaDesc sessionDesc,
    copied.toSdpMediaDescription library salMediaDesc sessionDesc = stream.toSdpMediaDescription library salMediaDesc sessionDesc
  cfgs : copied.cfgs = stream.cfgs
  unparsedCfgs : copied.unparsedCfgs = stream.unparsedCfgs
  acaps : copied.acaps = stream.acaps
  tcaps : copied.tcaps = stream.tcaps

theorem saysSame_of_eq {copied : SalStreamDescription} (same : copied = stream) : SaysSame library copied stream := by
  subst same
  exact { sdp := fun _ _ => rfl, cfgs := rfl, unparsedCfgs := rfl, acaps := rfl, tcaps := rfl }

theorem assign_saysSame_iff : SaysSame library (stream.assign other) other ↔ stream.Within other :=
  ⟨fun same => within_of_assign same.cfgs same.unparsedCfgs, fun within => saysSame_of_eq (assign_eq within)⟩

/-- A stream without anything to write for the negotiation of capabilities. -/
structure Quiet (stream : SalStreamDescription) : Prop where
  acaps : stream.acaps = ∅
  tcaps : stream.tcaps = ∅
  cfgs : ∀ index cfg, stream.cfgs[index]? = some cfg →
    cfg.Silent ∨ index = actualConfigurationIndex ∧ cfg.index = actualConfigurationIndex

theorem cfgAttributes_eq_nil_iff (stream : SalStreamDescription) :
    stream.cfgAttributes = [] ↔ ∀ index cfg, stream.cfgs[index]? = some cfg →
      cfg.Silent ∨ index = actualConfigurationIndex ∧ cfg.index = actualConfigurationIndex := by
  unfold cfgAttributes
  rw [List.flatMap_eq_nil_iff, Prod.forall]
  refine forall_congr' fun index => forall_congr' fun cfg => ?_
  rw [Std.ExtTreeMap.mem_toList_iff_getElem?_eq_some, ← SalStreamConfiguration.getSdpString_eq_nil_iff]
  refine imp_congr_right fun _ => ?_
  by_cases silent : cfg.getSdpString = [] <;> by_cases actual : index = actualConfigurationIndex <;> simp [silent, actual]

theorem negotiationLines_eq_nil_iff (params : SalMediaDescriptionParams) :
    stream.negotiationLines params = [] ↔ (params.capabilityNegotiation = true → stream.Quiet) := by
  unfold negotiationLines
  rw [List.append_eq_nil_iff, capabilityLines_eq_nil_iff]
  cases params.capabilityNegotiation with
  | false => simp
  | true =>
    rw [if_pos rfl, List.map_eq_nil_iff, cfgAttributes_eq_nil_iff]
    constructor
    · rintro ⟨none, cfgs⟩ -
      exact { acaps := (none rfl).1, tcaps := (none rfl).2, cfgs }
    · intro quiet
      exact ⟨fun _ => ⟨(quiet rfl).acaps, (quiet rfl).tcaps⟩, (quiet rfl).cfgs⟩

theorem toSdpMediaDescription_congr {salMediaDesc : SalMediaDescription} {first second : SdpSession}
    (same : first.attributes = second.attributes) :
    (stream.toSdpMediaDescription library salMediaDesc first).1 = (stream.toSdpMediaDescription library salMediaDesc second).1 := by
  unfold toSdpMediaDescription
  rw [same]

end SalStreamDescription

namespace SalMediaDescription

variable {library : SdpLibrary} {desc other : SalMediaDescription}

section Writing

variable (desc) (session : SdpSession) (stream : SalStreamDescription)

/-- The session has its connection taken away at most, and gets a media line. -/
theorem addStreamToSdp_eq : ∃ connection, desc.addStreamToSdp library session stream =
    { session with
      connection
      mediaDescriptions := session.mediaDescriptions ++ [(stream.toSdpMediaDescription library desc session).1] } := by
  obtain ⟨connection, left⟩ : ∃ connection, (stream.toSdpMediaDescription library desc session).2 = { session with connection } := by
    unfold SalStreamDescription.toSdpMediaDescription
    dsimp only
    split
    · exact ⟨none, rfl⟩
    · exact ⟨session.connection, rfl⟩
  refine ⟨connection, ?_⟩
  unfold addStreamToSdp
  dsimp only
  rw [left]

theorem foldl_addStreamToSdp (streams : List SalStreamDescription) :
    ∃ connection, streams.foldl (desc.addStreamToSdp library) session =
      { session with
        connection
        mediaDescriptions := session.mediaDescriptions ++
          streams.map fun stream => (stream.toSdpMediaDescription library desc session).1 } := by
  induction streams generalizing session with
  | nil => exact ⟨session.connection, by simp⟩
  | cons stream rest ih =>
    obtain ⟨between, added⟩ := @addStreamToSdp_eq library desc session stream
    obtain ⟨connection, more⟩ := ih (desc.addStreamToSdp library session stream)
    refine ⟨connection, ?_⟩
    rw [List.foldl_cons, more, added]
    have same (other : SalStreamDescription) := @SalStreamDescription.toSdpMediaDescription_congr library other desc
      (desc.addStreamToSdp library session stream) session (by rw [added])
    rw [added] at same
    simp only [same, List.map_cons, List.append_assoc, List.singleton_append]

theorem toSdp_eq : ∃ connection, desc.toSdp library =
    { desc.sessionSdp library with
      connection
      mediaDescriptions :=
        desc.streams.map fun stream => (stream.toSdpMediaDescription library desc (desc.sessionSdp library)).1 } :=
  foldl_addStreamToSdp desc (desc.sessionSdp library) desc.streams

@[simp] theorem toSdp_origin : (desc.toSdp library).origin = (desc.sessionSdp library).origin := by
  obtain ⟨connection, written⟩ := @toSdp_eq library desc
  rw [written]

@[simp] theorem toSdp_timeDescriptions : (desc.toSdp library).timeDescriptions = desc.timeDescriptions library := by
  obtain ⟨connection, written⟩ := @toSdp_eq library desc
  rw [written]
  rfl

@[simp] theorem toSdp_attributes : (desc.toSdp library).attributes = (desc.sessionSdp library).attributes := by
  obtain ⟨connection, written⟩ := @toSdp_eq library desc
  rw [written]

@[simp] theorem toSdp_mediaDescriptions : (desc.toSdp library).mediaDescriptions =
    desc.streams.map fun stream => (stream.toSdpMediaDescription library desc (desc.sessionSdp library)).1 := by
  obtain ⟨connection, written⟩ := @toSdp_eq library desc
  rw [written]

end Writing

theorem copy_streams (desc : SalMediaDescription) : desc.copy.streams = desc.streams := by
  change assignStreams 0 [] desc.streams = desc.streams
  have copied : desc.streams.map SalStreamDescription.copy = desc.streams := List.map_id'' SalStreamDescription.copy_eq _
  unfold assignStreams
  split
  · exact copied
  · cases streams : desc.streams with
    | nil => rfl
    | cons stream rest => rw [← streams]; rw [streams] at copied ⊢; exact copied

/-- What a copy is without: an address of origin, a recording, times and the negotiation of
capabilities. -/
theorem copy_eq (desc : SalMediaDescription) :
    desc.copy = { desc with originAddr := "", record := .none, times := [], params := {}, acaps := ∅, tcaps := ∅ } := by
  have streams := copy_streams desc
  unfold copy at streams ⊢
  dsimp only at streams
  rw [streams]

/-- What a construction leaves out is not there, or is not written. -/
structure Copyable (desc : SalMediaDescription) : Prop where
  originAddr : desc.originAddr = ""
  record : desc.record = .none
  times : ∀ last, desc.times.getLast? = some last → last.1 < 0 ∧ last.2 < 0
  acaps : desc.acaps = ∅
  tcaps : desc.tcaps = ∅
  quiet : desc.params.capabilityNegotiation = true → ∀ stream ∈ desc.streams, stream.Quiet

theorem timeDescriptions_eq (setsTime : library.SetsTime) (desc : SalMediaDescription) :
    desc.timeDescriptions library = [(desc.times.getLast?.map fun time => (ntpTime time.1, ntpTime time.2)).getD (0, 0)] := by
  unfold timeDescriptions
  rcases List.eq_nil_or_concat desc.times with none | ⟨before, last, some⟩
  · rw [none]
    exact setsTime _ _
  · rw [some, List.concat_eq_append, if_neg (by simp), List.foldl_append, List.getLast?_concat]
    exact setsTime _ _

theorem ntpTime_eq_zero_iff (time : Int) : ntpTime time = 0 ↔ time < 0 := by
  unfold ntpTime ntpToUnix
  split <;> omega

/-- The only time that is written like none is one without limits. -/
theorem timeDescriptions_none_iff (setsTime : library.SetsTime) (desc : SalMediaDescription) :
    [((0 : Int), (0 : Int))] = desc.timeDescriptions library ↔
      ∀ last, desc.times.getLast? = some last → last.1 < 0 ∧ last.2 < 0 := by
  rw [timeDescriptions_eq setsTime]
  cases desc.times.getLast? with
  | none => simp
  | some last =>
    simp only [Option.map_some, Option.getD_some, List.cons.injEq, and_true, Prod.mk.injEq, Option.some.injEq, forall_eq']
    rw [@eq_comm _ 0, @eq_comm _ 0, ntpTime_eq_zero_iff, ntpTime_eq_zero_iff]

theorem recordLines_eq_nil_iff (desc : SalMediaDescription) : desc.recordLines = [] ↔ desc.record = .none := by
  unfold recordLines
  by_cases none : desc.record = .none <;> simp [none]

structure SaysSame (library : SdpLibrary) (copied desc : SalMediaDescription) : Prop where
  sdp : copied.toSdp library = desc.toSdp library
  acaps : copied.acaps = desc.acaps
  tcaps : copied.tcaps = desc.tcaps
  cfgs : copied.streams.map SalStreamDescription.cfgs = desc.streams.map SalStreamDescription.cfgs
  unparsedCfgs : copied.streams.map SalStreamDescription.unparsedCfgs = desc.streams.map SalStreamDescription.unparsedCfgs
  streamAcaps : copied.streams.map SalStreamDescription.acaps = desc.streams.map SalStreamDescription.acaps
  streamTcaps : copied.streams.map SalStreamDescription.tcaps = desc.streams.map SalStreamDescription.tcaps

theorem saysSame_of_eq {copied : SalMediaDescription} (same : copied = desc) : SaysSame library copied desc := by
  subst same
  exact { sdp := rfl, acaps := rfl, tcaps := rfl, cfgs := rfl, unparsedCfgs := rfl, streamAcaps := rfl, streamTcaps := rfl }

/-- The session of a copy, before its streams are added. -/
theorem sessionSdp_copy (desc : SalMediaDescription) : desc.copy.sessionSdp library =
    { desc.sessionSdp library with
      origin := { (desc.sessionSdp library).origin with address := "" }
      timeDescriptions := library.setTimeDescription [] (0, 0)
      attributes := desc.leadingLines ++ customLines desc.customSdpAttributes } := by
  rw [copy_eq]
  have attributes : desc.leadingLines ++ [] ++ customLines desc.customSdpAttributes ++ [] =
      desc.leadingLines ++ customLines desc.customSdpAttributes := by rw [List.append_nil, List.append_nil]
  rw [← attributes]
  rfl

/-- A media line that is written for the copy is one without the negotiation of capabilities. -/
theorem toSdpMediaDescription_copy (desc : SalMediaDescription) (stream : SalStreamDescription) (session : SdpSession) :
    (stream.toSdpMediaDescription library desc.copy session).1 = (stream.toSdpMediaDescription library desc session).1 ↔
      stream.negotiationLines desc.params = [] := by
  rw [copy_eq]
  unfold SalStreamDescription.toSdpMediaDescription
  have plain : stream.negotiationLines {} = [] := rfl
  dsimp only
  rw [plain]
  simp

theorem copyable_of_toSdp (setsTime : library.SetsTime) (sdp : desc.copy.toSdp library = desc.toSdp library)
    (acaps : desc.acaps = ∅) (tcaps : desc.tcaps = ∅) : desc.Copyable := by
  have origin := congrArg SdpSession.origin sdp
  have times := congrArg SdpSession.timeDescriptions sdp
  have attributes := congrArg SdpSession.attributes sdp
  have media := congrArg SdpSession.mediaDescriptions sdp
  rw [toSdp_origin, toSdp_origin, sessionSdp_copy] at origin
  rw [toSdp_timeDescriptions, toSdp_timeDescriptions, timeDescriptions_eq setsTime desc.copy] at times
  rw [toSdp_attributes, toSdp_attributes] at attributes
  rw [toSdp_mediaDescriptions, toSdp_mediaDescriptions, copy_streams] at media
  have added : desc.leadingLines ++ customLines desc.customSdpAttributes = desc.leadingLines ++ desc.recordLines ++
      customLines desc.customSdpAttributes ++ capabilityLines desc.params desc.acaps desc.tcaps := by
    rw [sessionSdp_copy] at attributes
    exact attributes
  have lengths := congrArg List.length added
  simp only [List.length_append] at lengths
  have quiet (supported : desc.params.capabilityNegotiation = true) (stream : SalStreamDescription)
      (member : stream ∈ desc.streams) : stream.Quiet := by
    have same := List.map_inj_left.mp media stream member
    rw [SalStreamDescription.toSdpMediaDescription_congr attributes, toSdpMediaDescription_copy,
      SalStreamDescription.negotiationLines_eq_nil_iff] at same
    exact same supported
  exact {
    originAddr := (congrArg SdpOrigin.address origin).symm
    record := (recordLines_eq_nil_iff desc).mp (List.eq_nil_of_length_eq_zero (by omega))
    times := (timeDescriptions_none_iff setsTime desc).mp times
    acaps, tcaps, quiet }

theorem toSdp_copy (setsTime : library.SetsTime) (copyable : desc.Copyable) : desc.copy.toSdp library = desc.toSdp library := by
  have times := (timeDescriptions_none_iff setsTime desc).mpr copyable.times
  have record := (recordLines_eq_nil_iff desc).mpr copyable.record
  have capabilities := (capabilityLines_eq_nil_iff desc.params desc.acaps desc.tcaps).mpr fun _ => ⟨copyable.acaps, copyable.tcaps⟩
  have session : desc.copy.sessionSdp library = desc.sessionSdp library := by
    rw [sessionSdp_copy, setsTime, times, ← copyable.originAddr]
    unfold sessionSdp
    rw [record, capabilities, List.append_nil, List.append_nil]
  unfold toSdp
  rw [copy_streams, session]
  refine List.foldl_ext _ _ _ fun session stream member => ?_
  have media := (@toSdpMediaDescription_copy library desc stream session).mpr
    ((SalStreamDescription.negotiationLines_eq_nil_iff _).mpr fun supported => copyable.quiet supported stream member)
  have left : (stream.toSdpMediaDescription library desc.copy session).2 = (stream.toSdpMediaDescription library desc session).2 := by
    rw [copy_eq]
    rfl
  unfold addStreamToSdp
  rw [Prod.ext media left]

theorem copy_saysSame_iff (setsTime : library.SetsTime) (desc : SalMediaDescription) :
    SaysSame library desc.copy desc ↔ desc.Copyable := by
  constructor
  · intro same
    exact copyable_of_toSdp setsTime same.sdp same.acaps.symm same.tcaps.symm
  · intro copyable
    have streams := copy_streams desc
    exact {
      sdp := toSdp_copy setsTime copyable
      acaps := copyable.acaps.symm
      tcaps := copyable.tcaps.symm
      cfgs := by rw [streams]
      unparsedCfgs := by rw [streams]
      streamAcaps := by rw [streams]
      streamTcaps := by rw [streams] }

/-- What an assignment leaves is that of the other one, and so is what it merges. -/
structure Receives (capacity : Nat) (desc other : SalMediaDescription) : Prop where
  acaps : desc.acaps = other.acaps
  tcaps : desc.tcaps = other.tcaps
  streams : other.streams.length ≤ capacity → ∀ pair ∈ desc.streams.zip other.streams, pair.1.Within pair.2

theorem assignEach_eq {streams others : List SalStreamDescription} (within : ∀ pair ∈ streams.zip others, pair.1.Within pair.2) :
    assignEach streams others = others := by
  induction others generalizing streams with
  | nil => cases streams <;> rfl
  | cons other others ih =>
    cases streams with
    | nil => exact List.map_id'' SalStreamDescription.copy_eq _
    | cons stream streams =>
      obtain ⟨first, rest⟩ := List.forall_mem_cons.mp within
      rw [assignEach, SalStreamDescription.assign_eq first, ih rest]

theorem within_of_assignEach {streams others : List SalStreamDescription}
    (cfgs : (assignEach streams others).map SalStreamDescription.cfgs = others.map SalStreamDescription.cfgs)
    (unparsedCfgs : (assignEach streams others).map SalStreamDescription.unparsedCfgs =
      others.map SalStreamDescription.unparsedCfgs) : ∀ pair ∈ streams.zip others, pair.1.Within pair.2 := by
  induction others generalizing streams with
  | nil => simp
  | cons other others ih =>
    cases streams with
    | nil => simp
    | cons stream streams =>
      rw [assignEach, List.map_cons, List.map_cons] at cfgs unparsedCfgs
      obtain ⟨cfgs, moreCfgs⟩ := List.cons.inj cfgs
      obtain ⟨unparsedCfgs, moreUnparsedCfgs⟩ := List.cons.inj unparsedCfgs
      exact List.forall_mem_cons.mpr
        ⟨SalStreamDescription.within_of_assign cfgs unparsedCfgs, ih moreCfgs moreUnparsedCfgs⟩

theorem assignStreams_eq {capacity : Nat} {streams others : List SalStreamDescription}
    (within : others.length ≤ capacity → ∀ pair ∈ streams.zip others, pair.1.Within pair.2) :
    assignStreams capacity streams others = others := by
  unfold assignStreams
  split
  · exact List.map_id'' SalStreamDescription.copy_eq _
  next fits => exact assignEach_eq (within (Nat.not_lt.mp fits))

theorem assign_saysSame_iff {capacity : Nat} :
    SaysSame library (desc.assign capacity other) other ↔ desc.Receives capacity other := by
  constructor
  · intro same
    have streams (fits : other.streams.length ≤ capacity) :
        (desc.assign capacity other).streams = assignEach desc.streams other.streams := if_neg (Nat.not_lt.mpr fits)
    exact {
      acaps := same.acaps
      tcaps := same.tcaps
      streams := fun fits => within_of_assignEach (streams fits ▸ same.cfgs) (streams fits ▸ same.unparsedCfgs) }
  · intro receives
    refine saysSame_of_eq ?_
    unfold assign
    rw [assignStreams_eq receives.streams, receives.acaps, receives.tcaps]

end SalMediaDescription

/-- What the graph leaves out are the configurations that it could not resolve. -/
theorem WholeCfgGraph.assign_eq_iff (graph other : WholeCfgGraph) :
    graph.assign other = other ↔ graph.unparsedCfgs = other.unparsedCfgs := by
  constructor
  · intro same
    rw [← same]
    rfl
  · intro unparsedCfgs
    unfold assign
    rw [unparsedCfgs]

/-- When the copies of each class say the same as what they are copied from. -/
theorem copies_say_same_iff {library : SdpLibrary} (setsTime : library.SetsTime) :
    (∀ stream : SalStreamDescription, stream.copy.SaysSame library stream) ∧
      (∀ held stream : SalStreamDescription, (held.assign stream).SaysSame library stream ↔ held.Within stream) ∧
      (∀ desc : SalMediaDescription, desc.copy.SaysSame library desc ↔ desc.Copyable) ∧
      (∀ (capacity : Nat) (held desc : SalMediaDescription),
        (held.assign capacity desc).SaysSame library desc ↔ held.Receives capacity desc) ∧
      ∀ graph other : WholeCfgGraph, graph.assign other = other ↔ graph.unparsedCfgs = other.unparsedCfgs :=
  ⟨fun stream => SalStreamDescription.saysSame_of_eq stream.copy_eq,
    fun _ _ => SalStreamDescription.assign_saysSame_iff,
    SalMediaDescription.copy_saysSame_iff setsTime,
    fun _ _ _ => SalMediaDescription.assign_saysSame_iff,
    WholeCfgGraph.assign_eq_iff⟩

/-- The libraries, for descriptions without a group or a suite. -/
def plainLibrary : SdpLibrary where
  escapedUsername := id
  isMulticast := fun _ => false
  cryptoSuiteNameParams := fun _ => none
  appendMimeParameter := fun media mime => { media with formats := media.formats ++ [mime.format] }
  marshal := fun line => line.name.toList
  setTimeDescription := fun _ time => [time]

def talkDescription : SalMediaDescription :=
  { name := "Talk", addr := "192.168.1.2", streams := [{ rtpPort := 7078, rtpAddr := "192.168.1.2" }] }

theorem talkDescription_copied : talkDescription.copy.SaysSame plainLibrary talkDescription :=
  ((@copies_say_same_iff plainLibrary fun _ _ => rfl).2.2.1 talkDescription).mpr
    { originAddr := rfl, record := rfl, times := nofun, acaps := rfl, tcaps := rfl, quiet := nofun }

def originDescription : SalMediaDescription := { originAddr := "192.168.1.2" }

def secureStream : SalStreamDescription := { cfgs := (∅ : CfgMap).insert 1 { index := 1, tcapIndex := 1 } }

/-- A constructed copy loses the address of origin, and a stream keeps a configuration that the one
assigned to it has not. -/
theorem copies_say_other_sdp : ¬originDescription.copy.SaysSame plainLibrary originDescription ∧
    ¬(secureStream.assign {}).SaysSame plainLibrary {} := by
  constructor
  · intro same
    exact absurd (congrArg (fun session => session.origin.address) same.sdp) (by decide)
  · intro same
    have kept : (secureStream.assign {}).cfgs[(1 : UInt32)]? = none := by
      rw [same.cfgs]
      rfl
    exact absurd kept (by decide)

end Liblinphone
