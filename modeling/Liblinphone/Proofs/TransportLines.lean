import Liblinphone.TransportCapabilities

/-! Transport capabilities are read back from their lines, whether the lines are merged
or not. What the lines and the line in progress say grows by one capability a step. -/

namespace Liblinphone

/-- An index, and after it the protocols. -/
def tcapLine (idx : UInt32) (protos : List Text) : Text := [' '].intercalate (indexText idx :: protos)

/-- Something is named, and no space is in it. -/
def IsProto (proto : Text) : Prop := proto ≠ [] ∧ ' ' ∉ proto

/-- The id and the protocols of a line are those that the line was written with. -/
structure TcapAttributeReader.ReadsLines (reader : TcapAttributeReader) : Prop where
  id : ∀ idx protos, protos ≠ [] → (∀ proto ∈ protos, IsProto proto) → reader.getId (tcapLine idx protos) = idx.toInt32
  protos : ∀ idx protos, protos ≠ [] → (∀ proto ∈ protos, IsProto proto) → reader.getProtos (tcapLine idx protos) = protos

namespace PotentialCfgGraph

theorem numberProtos_concat (id : UInt32) (protos : List Text) (proto : Text) :
    numberProtos id (protos ++ [proto]) =
      numberProtos id protos ++ [{ index := id + UInt32.ofNat protos.length, value := String.ofList proto }] := by
  induction protos generalizing id with
  | nil =>
    simp [numberProtos]
  | cons first rest following =>
    have place : id + 1 + UInt32.ofNat rest.length = id + UInt32.ofNat (first :: rest).length := by
      rw [List.length_cons, UInt32.ofNat_add, UInt32.add_assoc, UInt32.add_comm 1]
      rfl
    rw [List.cons_append, numberProtos, following, place]
    rfl

theorem createTCapabilitiesList_append (reader : TcapAttributeReader) (first second : List Text) :
    createTCapabilitiesList reader (first ++ second) =
      createTCapabilitiesList reader first ++ createTCapabilitiesList reader second :=
  List.flatMap_append

theorem createTCapabilitiesList_line {reader : TcapAttributeReader} (reads : reader.ReadsLines) {idx : UInt32}
    {protos : List Text} (filled : protos ≠ []) (named : ∀ proto ∈ protos, IsProto proto) :
    createTCapabilitiesList reader [tcapLine idx protos] = numberProtos idx protos := by
  rw [createTCapabilitiesList, List.flatMap_singleton, reads.id idx protos filled named,
    reads.protos idx protos filled named, UInt32.toUInt32_toInt32]

end PotentialCfgGraph

open PotentialCfgGraph

/-- The capability that an entry of the map stands for. -/
def tcapability (tcap : UInt32 × String) : SdpCapability := { index := tcap.1, value := tcap.2 }

theorem tcapLine_single (idx : UInt32) (value : Text) : indexText idx ++ [' '] ++ value = tcapLine idx [value] := by
  rw [tcapLine, List.intercalate_cons_of_ne_nil (by simp), List.intercalate_singleton]

theorem tcapLine_concat (idx : UInt32) (protos : List Text) (value : Text) :
    tcapLine idx protos ++ [' '] ++ value = tcapLine idx (protos ++ [value]) := by
  unfold tcapLine
  generalize indexText idx = start
  induction protos generalizing start with
  | nil => rw [List.nil_append, List.intercalate_cons_cons, List.intercalate_singleton, List.intercalate_singleton]
  | cons proto rest joined =>
    rw [List.cons_append, List.intercalate_cons_cons, List.intercalate_cons_cons, ← joined]
    simp only [List.append_assoc]

theorem tcapLine_ne_nil (idx : UInt32) (protos : List Text) : tcapLine idx protos ≠ [] := by
  intro empty
  have digits := (numberText_digits idx.toNat).1
  cases protos with
  | nil => exact digits (by rwa [tcapLine, List.intercalate_singleton] at empty)
  | cons proto rest =>
    rw [tcapLine, List.intercalate_cons_cons] at empty
    simp at empty

namespace TcapLines

/-- The line in progress starts at an index, and is at the index of its last protocol. -/
structure Pending (lines : TcapLines) (first : UInt32) (protos : List Text) : Prop where
  text : lines.tcapValue = tcapLine first protos
  reached : lines.prevIdx + 1 = first + UInt32.ofNat protos.length
  filled : protos ≠ []
  named : ∀ proto ∈ protos, IsProto proto

/-- No line is in progress, or one that can be read. -/
def Readable (lines : TcapLines) : Prop := lines.tcapValue = [] ∨ ∃ first protos, Pending lines first protos

/-- What is read from the lines once the one in progress is added to them. -/
def said (reader : TcapAttributeReader) (lines : TcapLines) : List SdpCapability :=
  createTCapabilitiesList reader (lines.finish true)

theorem Pending.tcapValue_ne_nil {lines : TcapLines} {first : UInt32} {protos : List Text}
    (pending : Pending lines first protos) : lines.tcapValue ≠ [] := by
  rw [pending.text]
  exact tcapLine_ne_nil first protos

theorem Pending.finish_eq {lines : TcapLines} {first : UInt32} {protos : List Text}
    (pending : Pending lines first protos) : lines.finish true = lines.attributes ++ [tcapLine first protos] := by
  have filled : lines.tcapValue.isEmpty = false := List.isEmpty_eq_false_iff.mpr pending.tcapValue_ne_nil
  rw [finish, filled, pending.text]
  rfl

/-- A line that starts with a capability is at its index. -/
theorem pending_single (attributes : List Text) {idx : UInt32} {value : Text} (named : IsProto value) :
    Pending { attributes, tcapValue := indexText idx ++ [' '] ++ value, prevIdx := idx } idx [value] where
  text := tcapLine_single idx value
  reached := rfl
  filled := List.cons_ne_nil value []
  named := by
    intro proto member
    rwa [List.mem_singleton.mp member]

section Reading

variable {reader : TcapAttributeReader} (reads : reader.ReadsLines) {lines : TcapLines} {tcap : UInt32 × String}
  (named : IsProto tcap.2.toList)
include reads

theorem Pending.said_eq {first : UInt32} {protos : List Text} (pending : Pending lines first protos) :
    said reader lines = createTCapabilitiesList reader lines.attributes ++ numberProtos first protos := by
  rw [said, pending.finish_eq, createTCapabilitiesList_append, createTCapabilitiesList_line reads pending.filled pending.named]

include named

/-- A line of its own says its capability. -/
theorem said_single : createTCapabilitiesList reader [indexText tcap.1 ++ [' '] ++ tcap.2.toList] = [tcapability tcap] := by
  rw [tcapLine_single, createTCapabilitiesList_line reads (List.cons_ne_nil _ _) (by simpa using named)]
  simp [numberProtos, tcapability]

/-- With merged lines a step says one more capability. -/
theorem addTcap_merged (readable : lines.Readable) :
    (lines.addTcap true tcap).Readable ∧ said reader (lines.addTcap true tcap) = said reader lines ++ [tcapability tcap] := by
  have single := fun attributes => @pending_single attributes tcap.1 tcap.2.toList named
  rcases readable with empty | ⟨first, protos, pending⟩
  · have added : lines.addTcap true tcap =
        { lines with tcapValue := indexText tcap.1 ++ [' '] ++ tcap.2.toList, prevIdx := tcap.1 } := by
      simp [addTcap, empty]
    rw [added]
    refine ⟨.inr ⟨_, _, single _⟩, ?_⟩
    rw [(single lines.attributes).said_eq reads, said, finish, empty]
    simp [numberProtos, tcapability]
  · have filled : lines.tcapValue.isEmpty = false := List.isEmpty_eq_false_iff.mpr pending.tcapValue_ne_nil
    by_cases next : tcap.1 = lines.prevIdx + 1
    · have added : lines.addTcap true tcap =
          { lines with tcapValue := lines.tcapValue ++ [' '] ++ tcap.2.toList, prevIdx := tcap.1 } := by
        simp [addTcap, filled, next]
      have longer : Pending (lines.addTcap true tcap) first (protos ++ [tcap.2.toList]) := by
        rw [added]
        refine ⟨?_, ?_, by simp, ?_⟩
        · rw [pending.text, tcapLine_concat]
        · rw [next, pending.reached, List.length_append, UInt32.ofNat_add, UInt32.add_assoc]
          rfl
        · intro proto member
          rcases List.mem_append.mp member with before | last
          · exact pending.named proto before
          · rwa [List.mem_singleton.mp last]
      refine ⟨.inr ⟨_, _, longer⟩, ?_⟩
      rw [longer.said_eq reads, pending.said_eq reads, numberProtos_concat, ← pending.reached, ← next, added]
      simp [tcapability]
    · have added : lines.addTcap true tcap =
          { attributes := lines.attributes ++ [lines.tcapValue],
            tcapValue := indexText tcap.1 ++ [' '] ++ tcap.2.toList, prevIdx := tcap.1 } := by
        simp [addTcap, filled, next]
      rw [added]
      refine ⟨.inr ⟨_, _, single _⟩, ?_⟩
      rw [(single _).said_eq reads, said, finish, filled, createTCapabilitiesList_append]
      simp [numberProtos, tcapability, createTCapabilitiesList_append]

/-- Without merging a step adds the line of its capability. -/
theorem addTcap_unmerged : createTCapabilitiesList reader (lines.addTcap false tcap).attributes =
    createTCapabilitiesList reader lines.attributes ++ [tcapability tcap] := by
  rw [← said_single reads named, ← createTCapabilitiesList_append]
  rfl

end Reading

variable {reader : TcapAttributeReader} (reads : reader.ReadsLines) {tcaps : List (UInt32 × String)}
  (named : ∀ tcap ∈ tcaps, IsProto tcap.2.toList)
include reads named

/-- With merged lines a whole run says the capabilities it was given. -/
theorem foldl_addTcap_merged (lines : TcapLines) (readable : lines.Readable) :
    said reader (tcaps.foldl (addTcap true) lines) = said reader lines ++ tcaps.map tcapability := by
  induction tcaps generalizing lines with
  | nil => simp
  | cons tcap rest following =>
    obtain ⟨after, grown⟩ := addTcap_merged reads (named tcap (List.mem_cons_self)) readable
    rw [List.foldl_cons, following (fun other member => named other (List.mem_cons_of_mem _ member)) _ after, grown,
      List.map_cons, List.append_assoc, List.singleton_append]

theorem foldl_addTcap_unmerged (lines : TcapLines) :
    createTCapabilitiesList reader (tcaps.foldl (addTcap false) lines).attributes =
      createTCapabilitiesList reader lines.attributes ++ tcaps.map tcapability := by
  induction tcaps generalizing lines with
  | nil => simp
  | cons tcap rest following =>
    rw [List.foldl_cons, following (fun other member => named other (List.mem_cons_of_mem _ member)),
      addTcap_unmerged reads (named tcap (List.mem_cons_self)), List.map_cons, List.append_assoc, List.singleton_append]

end TcapLines

/-- The indexes count from one, and every protocol is one word. -/
def TcapMap.WellFormed (tcaps : TcapMap) : Prop :=
  ∀ (idx : UInt32) (value : String), tcaps[idx]? = some value → 1 ≤ idx ∧ IsProto value.toList

/-- The lines give the map back: in its order, and no other pairs. -/
def Restores (reader : TcapAttributeReader) (attributes : List Text) (tcaps : TcapMap) : Prop :=
  createTCapabilitiesList reader attributes = tcaps.toList.map tcapability ∧
    ∀ (idx : UInt32) (value : String), (∃ cap ∈ createTCapabilitiesList reader attributes, cap.index = idx ∧ cap.value = value) ↔
      tcaps[idx]? = some value

theorem restores_of_eq {reader : TcapAttributeReader} {attributes : List Text} {tcaps : TcapMap}
    (same : createTCapabilitiesList reader attributes = tcaps.toList.map tcapability) :
    Restores reader attributes tcaps := by
  refine ⟨same, ?_⟩
  intro idx value
  rw [same, ← Std.ExtTreeMap.mem_toList_iff_getElem?_eq_some]
  constructor
  · rintro ⟨cap, member, rfl, rfl⟩
    obtain ⟨tcap, listed, rfl⟩ := List.mem_map.mp member
    exact listed
  · intro listed
    exact ⟨tcapability (idx, value), List.mem_map.mpr ⟨_, listed, rfl⟩, rfl, rfl⟩

/-- The lines of a map give it back, merged or not. -/
theorem tcapAttributes_restore {reader : TcapAttributeReader} (reads : reader.ReadsLines)
    {params : SalMediaDescriptionParams} (supported : params.capabilityNegotiation = true) {tcaps : TcapMap}
    (formed : TcapMap.WellFormed tcaps) : Restores reader (tcapAttributes params tcaps) tcaps := by
  apply restores_of_eq
  have named : ∀ tcap ∈ tcaps.toList, IsProto tcap.2.toList := by
    intro tcap member
    exact (formed tcap.1 tcap.2 (Std.ExtTreeMap.mem_toList_iff_getElem?_eq_some.mp member)).2
  rw [tcapAttributes, if_pos supported]
  cases params.mergeTcapLines with
  | true => exact TcapLines.foldl_addTcap_merged reads named {} (.inl rfl)
  | false => exact TcapLines.foldl_addTcap_unmerged reads named {}

/-- The same description with merged or with unmerged lines. -/
def SalMediaDescription.withTcapLines (desc : SalMediaDescription) (merged : Bool) : SalMediaDescription :=
  { desc with params := { desc.params with mergeTcapLines := merged } }

theorem SalMediaDescription.withTcapLines_supported (desc : SalMediaDescription)
    (supported : desc.params.capabilityNegotiation = true) (merged : Bool) :
    (desc.withTcapLines merged).params.capabilityNegotiation = true := supported

/-- Merged and unmerged lines both give the transport capabilities back, for the session
and for a stream. -/
theorem tcap_lines_restore_map {reader : TcapAttributeReader} (reads : reader.ReadsLines) (desc : SalMediaDescription)
    (supported : desc.params.capabilityNegotiation = true) :
    (TcapMap.WellFormed desc.tcaps → ∀ merged, Restores reader (desc.withTcapLines merged).toSdpTcaps desc.tcaps) ∧
      ∀ stream : SalStreamDescription, TcapMap.WellFormed stream.tcaps →
        ∀ merged, Restores reader (stream.toSdpTcaps (desc.withTcapLines merged)) stream.tcaps := by
  constructor
  · intro formed merged
    exact tcapAttributes_restore reads (desc.withTcapLines_supported supported merged) formed
  · intro stream formed merged
    exact tcapAttributes_restore reads (desc.withTcapLines_supported supported merged) formed

/-- Reading a line at its spaces. -/
def spacedReader : TcapAttributeReader where
  getId line := (UInt32.ofNat (textNumber ((line.splitOn ' ').headD []))).toInt32
  getProtos line := (line.splitOn ' ').tail

theorem splitOn_tcapLine {idx : UInt32} {protos : List Text} (named : ∀ proto ∈ protos, IsProto proto) :
    (tcapLine idx protos).splitOn ' ' = indexText idx :: protos := by
  apply List.splitOn_intercalate
  · intro part member
    rcases List.mem_cons.mp member with rfl | later
    · exact (numberText_digits idx.toNat).not_mem (by decide)
    · exact (named part later).2
  · exact List.cons_ne_nil _ _

theorem spacedReader_reads : spacedReader.ReadsLines where
  id := by
    intro idx protos filled named
    simp only [spacedReader]
    rw [splitOn_tcapLine named, List.headD_cons, indexText, textNumber_numberText, UInt32.ofNat_toNat]
  protos := by
    intro idx protos filled named
    simp only [spacedReader]
    rw [splitOn_tcapLine named, List.tail_cons]

/-- Three protocols, of which two have consecutive indexes. -/
def negotiatingDescription : SalMediaDescription :=
  { params := { capabilityNegotiation := true }
    tcaps := (((∅ : TcapMap).insert 1 "RTP/SAVP").insert 2 "RTP/SAVPF").insert 5 "UDP/TLS/RTP/SAVP" }

theorem negotiatingDescription_tcaps :
    negotiatingDescription.tcaps.toList = [(1, "RTP/SAVP"), (2, "RTP/SAVPF"), (5, "UDP/TLS/RTP/SAVP")] := by
  decide

theorem negotiatingDescription_formed : TcapMap.WellFormed negotiatingDescription.tcaps := by
  intro idx value held
  have listed := Std.ExtTreeMap.mem_toList_iff_getElem?_eq_some.mpr held
  rw [negotiatingDescription_tcaps] at listed
  have words : ∀ tcap ∈ [((1 : UInt32), "RTP/SAVP"), (2, "RTP/SAVPF"), (5, "UDP/TLS/RTP/SAVP")],
      1 ≤ tcap.1 ∧ tcap.2.toList ≠ [] ∧ ' ' ∉ tcap.2.toList := by decide
  exact words (idx, value) listed

/-- The first two protocols share a line. -/
theorem consecutive_tcaps_share_line :
    (negotiatingDescription.withTcapLines true).toSdpTcaps =
      ["1 RTP/SAVP RTP/SAVPF".toList, "5 UDP/TLS/RTP/SAVP".toList] ∧
    Restores spacedReader (negotiatingDescription.withTcapLines true).toSdpTcaps negotiatingDescription.tcaps := by
  constructor
  · decide
  · exact (tcap_lines_restore_map spacedReader_reads negotiatingDescription rfl).1 negotiatingDescription_formed true

end Liblinphone
