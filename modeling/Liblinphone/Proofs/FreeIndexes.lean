import Liblinphone.CapabilityIndexes

/-! Whether an index that is found free is free. The index before a gap is read at the
place that the gap has in the ordered list, from the list as it came. -/

namespace Liblinphone

instance lawfulOrderMax_uint32 : Std.LawfulOrderMax UInt32 where
  max_eq_or left right := by
    rcases UInt32.le_total left right with below | above
    · exact .inr (if_pos below)
    · by_cases below : left ≤ right
      · exact .inr (if_pos below)
      · exact .inl (if_neg below)
  max_le_iff left right bound := by
    change (if left ≤ right then right else left) ≤ bound ↔ _
    split
    next below => exact ⟨fun high => ⟨UInt32.le_trans below high, high⟩, fun both => both.2⟩
    next above =>
      have reverse : right ≤ left := (UInt32.le_total left right).resolve_left above
      exact ⟨fun high => ⟨high, UInt32.le_trans reverse high⟩, fun both => both.1⟩

namespace PotentialCfgGraph

/-- The index is at least one, and nothing uses it. -/
def Fresh (uses : UInt32 → Prop) (idx : UInt32) : Prop := 1 ≤ idx ∧ ¬uses idx

/-- The lowest indexes follow one another up to the one at this place, and after it some are left out. -/
def FirstGap (l : List UInt32) (elIdx : Nat) : Prop :=
  ∃ least ∈ l, (∀ idx ∈ l, least ≤ idx) ∧ (∀ place ≤ elIdx, ∃ idx ∈ l, idx.toNat = least.toNat + place) ∧
    (∀ idx ∈ l, idx.toNat ≠ least.toNat + elIdx + 1) ∧ ∃ idx ∈ l, least.toNat + elIdx + 1 < idx.toNat

/-- The index that the list holds at the place of the first gap has no successor in it. -/
def ReadsGap (l : List UInt32) : Prop :=
  ∀ elIdx startGap, FirstGap l elIdx → l[elIdx]? = some startGap → startGap + 1 ∉ l

variable {l : List UInt32}

theorem toNat_succ {idx : UInt32} (below : idx < 4294967295) : (idx + 1).toNat = idx.toNat + 1 := by
  have small : idx.toNat < 4294967295 := UInt32.lt_iff_toNat_lt.mp below
  have one : (1 : UInt32).toNat = 1 := rfl
  rw [UInt32.toNat_add, one]
  exact Nat.mod_eq_of_lt (by omega)

theorem one_le_succ {idx : UInt32} (below : idx < 4294967295) : 1 ≤ idx + 1 := by
  rw [UInt32.le_iff_toNat_le, toNat_succ below]
  exact Nat.le_add_left 1 idx.toNat

theorem FirstGap.unique {elIdx other : Nat} (gap : FirstGap l elIdx) (gap' : FirstGap l other) : elIdx = other := by
  obtain ⟨least, member, low, filled, hole, -⟩ := gap
  obtain ⟨least', member', low', filled', hole', -⟩ := gap'
  obtain rfl := UInt32.le_antisymm (low least' member') (low' least member)
  rcases Nat.lt_trichotomy elIdx other with before | same | after
  · obtain ⟨idx, inside, value⟩ := filled' (elIdx + 1) before
    exact absurd value (hole idx inside)
  · exact same
  · obtain ⟨idx, inside, value⟩ := filled (other + 1) after
    exact absurd value (hole' idx inside)

/-- The differences of consecutive indexes. -/
def differences (l : List UInt32) : List UInt32 := List.zipWith (fun next el => next - el) l.tail l

theorem differences_eq_one_iff {left right : UInt32} (less : left < right) :
    right - left = 1 ↔ right.toNat = left.toNat + 1 := by
  have bound := UInt32.lt_iff_toNat_lt.mp less
  have one : (1 : UInt32).toNat = 1 := rfl
  rw [← UInt32.toNat_inj, UInt32.toNat_sub_of_le _ _ (UInt32.le_of_lt less), one]
  omega

section Ordered

variable (ordered : l.Pairwise fun left right => left < right)
include ordered

/-- As long as the differences are one, the indexes follow the lowest one. -/
theorem consecutive {elIdx : Nat} (near : ∀ place, ∀ inside : place + 1 < l.length, place < elIdx →
    l[place + 1] - l[place] = 1) (inside : elIdx < l.length) : l[elIdx].toNat = l[0].toNat + elIdx := by
  induction elIdx with
  | zero => rfl
  | succ place follows =>
    have before := follows (fun other within less => near other within (Nat.lt_succ_of_lt less)) (Nat.lt_of_succ_lt inside)
    have less := List.pairwise_iff_getElem.mp ordered place (place + 1) (Nat.lt_of_succ_lt inside) inside (Nat.lt_succ_self place)
    have step := (differences_eq_one_iff less).mp (near place inside (Nat.lt_succ_self place))
    omega

theorem least_first (inside : 0 < l.length) : ∀ idx ∈ l, l[0] ≤ idx := by
  intro idx member
  obtain ⟨place, within, rfl⟩ := List.getElem_of_mem member
  rcases Nat.eq_zero_or_pos place with rfl | after
  · exact UInt32.le_refl _
  · exact UInt32.le_of_lt (List.pairwise_iff_getElem.mp ordered 0 place inside within after)

/-- Up to the difference that is found the indexes follow the lowest one. -/
theorem value_of_difference {elIdx place : Nat} (found : (differences l).findIdx? (fun el => el != 1) = some elIdx)
    (less : place ≤ elIdx) (inside : place < l.length) : l[place].toNat = l[0].toNat + place := by
  obtain ⟨_, -, near⟩ := List.findIdx?_eq_some_iff_getElem.mp found
  apply consecutive ordered
  intro other within before
  have same := near other (Nat.lt_of_lt_of_le before less)
  simpa [differences] using same

/-- What the search for a difference finds is the first gap. -/
theorem firstGap_of_difference {elIdx : Nat} (found : (differences l).findIdx? (fun el => el != 1) = some elIdx) :
    FirstGap l elIdx := by
  obtain ⟨inside, apart, -⟩ := List.findIdx?_eq_some_iff_getElem.mp found
  have within : elIdx + 1 < l.length := by
    rw [differences, List.length_zipWith, List.length_tail] at inside
    omega
  have places := List.pairwise_iff_getElem.mp ordered
  have values : ∀ place, ∀ less : place ≤ elIdx, l[place].toNat = l[0].toNat + place := by
    intro place less
    exact value_of_difference ordered found less _
  have less := places elIdx (elIdx + 1) (Nat.lt_of_succ_lt within) within (Nat.lt_succ_self elIdx)
  have far : l[elIdx + 1].toNat ≠ l[elIdx].toNat + 1 := by
    intro same
    have one := (differences_eq_one_iff less).mpr same
    simp [differences, one] at apart
  have above := UInt32.lt_iff_toNat_lt.mp less
  have here := values elIdx (Nat.le_refl elIdx)
  refine ⟨l[0], List.getElem_mem _, least_first ordered _, ?_, ?_, l[elIdx + 1], List.getElem_mem _, by omega⟩
  · intro place less
    exact ⟨l[place], List.getElem_mem _, values place less⟩
  · intro idx member value
    obtain ⟨place, held, rfl⟩ := List.getElem_of_mem member
    rcases Nat.lt_trichotomy place (elIdx + 1) with before | rfl | after
    · have earlier := values place (Nat.le_of_lt_succ before)
      omega
    · omega
    · have high := UInt32.lt_iff_toNat_lt.mp (places (elIdx + 1) place within held after)
      omega

/-- Without such a difference the indexes leave none out. -/
theorem no_firstGap_of_no_difference (none : (differences l).findIdx? (fun el => el != 1) = none) (elIdx : Nat) :
    ¬FirstGap l elIdx := by
  rintro ⟨least, member, low, filled, hole, most, above, high⟩
  have steps : ∀ place, ∀ inside : place + 1 < l.length, l[place + 1] - l[place] = 1 := by
    intro place inside
    have within : place < (differences l).length := by
      rw [differences, List.length_zipWith, List.length_tail]
      omega
    have same := List.findIdx?_eq_none_iff.mp none _ (List.getElem_mem within)
    simpa [differences] using same
  have values : ∀ place, ∀ inside : place < l.length, l[place].toNat = l[0].toNat + place := by
    intro place inside
    exact consecutive ordered (fun other inside _ => steps other inside) inside
  have filledList : 0 < l.length := List.length_pos_of_mem member
  obtain rfl := UInt32.le_antisymm (low _ (List.getElem_mem filledList)) (least_first ordered filledList least member)
  obtain ⟨place, held, rfl⟩ := List.getElem_of_mem above
  have value := values place held
  have within : elIdx + 1 < l.length := by omega
  exact hole _ (List.getElem_mem within) (values (elIdx + 1) within)

end Ordered

/-- The indexes in order, each of them once. -/
def orderedIndexes (l : List UInt32) : List UInt32 :=
  (l.insertionSort fun left right => left ≤ right).destutter fun left right => left ≠ right

theorem pairwise_le_insertionSort : (l.insertionSort fun left right => left ≤ right).Pairwise fun left right => left ≤ right :=
  List.pairwise_insertionSort _ l

theorem orderedIndexes_eq : orderedIndexes l = (l.insertionSort fun left right => left ≤ right).dedup :=
  pairwise_le_insertionSort.destutter_eq_dedup

theorem mem_orderedIndexes {idx : UInt32} : idx ∈ orderedIndexes l ↔ idx ∈ l := by
  rw [orderedIndexes_eq, List.mem_dedup, List.mem_insertionSort]

theorem orderedIndexes_ordered : (orderedIndexes l).Pairwise fun left right => left < right := by
  rw [orderedIndexes_eq]
  have weak := pairwise_le_insertionSort.sublist (List.dedup_sublist (l.insertionSort fun left right => left ≤ right))
  have distinct := List.nodup_dedup (l.insertionSort fun left right => left ≤ right)
  exact (weak.and distinct).imp fun both => UInt32.lt_of_le_of_ne both.1 both.2

theorem orderedIndexes_of_ordered (ordered : l.Pairwise fun left right => left < right) : orderedIndexes l = l := by
  have sorted := (ordered.imp fun less => UInt32.le_of_lt less).insertionSort_eq
  have distinct : l.Nodup := ordered.imp fun less => UInt32.ne_of_lt less
  rw [orderedIndexes_eq, sorted, List.dedup_eq_self.mpr distinct]

theorem firstGap_orderedIndexes {elIdx : Nat} : FirstGap (orderedIndexes l) elIdx ↔ FirstGap l elIdx := by
  simp only [FirstGap, mem_orderedIndexes]

theorem gapPlace_eq : gapPlace l = (differences (orderedIndexes l)).findIdx? fun el => el != 1 := rfl

theorem gapPlace_iff {elIdx : Nat} : gapPlace l = some elIdx ↔ FirstGap l elIdx := by
  rw [← firstGap_orderedIndexes, gapPlace_eq]
  constructor
  · exact firstGap_of_difference orderedIndexes_ordered
  · intro gap
    cases found : (differences (orderedIndexes l)).findIdx? fun el => el != 1 with
    | none => exact absurd gap (no_firstGap_of_no_difference orderedIndexes_ordered found elIdx)
    | some place => rw [gap.unique (firstGap_of_difference orderedIndexes_ordered found)]

theorem gapPlace_lt {elIdx : Nat} (found : gapPlace l = some elIdx) : elIdx < l.length := by
  obtain ⟨inside, -⟩ := List.findIdx?_eq_some_iff_getElem.mp found
  have distinct := (List.destutter_sublist (fun left right => left ≠ right)
    (l.insertionSort fun left right => left ≤ right)).length_le
  rw [List.length_zipWith, List.length_tail] at inside
  rw [List.length_insertionSort] at distinct
  omega

/-- Below the smallest index and above the greatest one nothing is in use. -/
theorem fresh_outside (filled : l ≠ []) (below : ∀ idx ∈ l, idx < 4294967295) :
    Fresh (· ∈ l) (if l.min?.getD 0 > 1 then l.min?.getD 0 - 1 else l.max?.getD 0 + 1) := by
  obtain ⟨least, smallest⟩ : ∃ least, l.min? = some least := Option.isSome_iff_exists.mp (List.isSome_min?_iff.mpr filled)
  obtain ⟨most, greatest⟩ : ∃ most, l.max? = some most := Option.isSome_iff_exists.mp (List.isSome_max?_iff.mpr filled)
  obtain ⟨leastIn, under⟩ := List.min?_eq_some_iff.mp smallest
  obtain ⟨mostIn, highest⟩ := List.max?_eq_some_iff.mp greatest
  rw [smallest, greatest, Option.getD_some, Option.getD_some]
  split
  next large =>
    have bound := UInt32.lt_iff_toNat_lt.mp large
    have one : (1 : UInt32).toNat = 1 := rfl
    have less : (least - 1).toNat = least.toNat - 1 := UInt32.toNat_sub_of_le least 1 (UInt32.le_of_lt large)
    refine ⟨?_, ?_⟩
    · rw [UInt32.le_iff_toNat_le]
      omega
    · intro member
      have high := UInt32.le_iff_toNat_le.mp (under _ member)
      omega
  next =>
    refine ⟨one_le_succ (below most mostIn), ?_⟩
    intro member
    have high := UInt32.le_iff_toNat_le.mp (highest _ member)
    have bound := UInt32.lt_iff_toNat_lt.mp (below most mostIn)
    have limit : (4294967295 : UInt32).toNat = 4294967295 := rfl
    have one : (1 : UInt32).toNat = 1 := rfl
    rw [UInt32.toNat_add, one, Nat.mod_eq_of_lt (by omega)] at high
    omega

theorem getFreeIdx_iff (below : ∀ idx ∈ l, idx < 4294967295) : Fresh (· ∈ l) (getFreeIdx l) ↔ ReadsGap l := by
  unfold getFreeIdx
  by_cases empty : l = []
  · subst empty
    exact iff_of_true ⟨UInt32.le_refl 1, by simp⟩ fun _ _ _ held => by simp at held
  · rw [if_neg (by simpa using empty)]
    cases gap : gapPlace l with
    | none =>
      refine iff_of_true (fresh_outside empty below) ?_
      intro elIdx startGap first
      rw [gapPlace_iff.mpr first] at gap
      cases gap
    | some elIdx =>
      have inside := gapPlace_lt gap
      have held : l[elIdx]? = some l[elIdx] := List.getElem?_eq_getElem inside
      dsimp only
      rw [held, Option.getD_some]
      constructor
      · rintro ⟨-, unused⟩ place startGap first read
        obtain rfl := first.unique (gapPlace_iff.mp gap)
        obtain rfl := Option.some.inj (held.symm.trans read)
        exact unused
      · intro reads
        exact ⟨one_le_succ (below _ (List.getElem_mem inside)), reads elIdx _ (gapPlace_iff.mp gap) held⟩

/-- In a list that is ordered the gap is read where it is. -/
theorem readsGap_of_ordered (ordered : l.Pairwise fun left right => left < right)
    (below : ∀ idx ∈ l, idx < 4294967295) : ReadsGap l := by
  intro elIdx startGap first held member
  obtain ⟨inside, rfl⟩ := List.getElem?_eq_some_iff.mp held
  have found : (differences l).findIdx? (fun el => el != 1) = some elIdx := by
    rw [← orderedIndexes_of_ordered ordered, ← gapPlace_eq]
    exact gapPlace_iff.mpr first
  have value := value_of_difference ordered found (Nat.le_refl elIdx) inside
  obtain ⟨least, leastIn, low, -, hole, -⟩ := first
  have filled : 0 < l.length := List.length_pos_of_mem leastIn
  obtain rfl := UInt32.le_antisymm (low _ (List.getElem_mem filled)) (least_first ordered filled least leastIn)
  apply hole _ member
  rw [toNat_succ (below _ (List.getElem_mem inside)), value]

section Uses

variable (graph : PotentialCfgGraph)

/-- A capability of the session or of one of its streams has the index. -/
def UsesTcap (idx : UInt32) : Prop :=
  (∃ cap ∈ graph.globalTcap, cap.index = idx) ∨
    ∃ (streamIdx : UInt32) (caps : List SdpCapability), graph.tcap[streamIdx]? = some caps ∧ ∃ cap ∈ caps, cap.index = idx

/-- An attribute capability of the session or of one of its streams has the index. -/
def UsesAcap (idx : UInt32) : Prop :=
  (∃ cap ∈ graph.globalAcap, cap.index = idx) ∨
    ∃ (streamIdx : UInt32) (caps : List SdpCapability), graph.acap[streamIdx]? = some caps ∧ ∃ cap ∈ caps, cap.index = idx

theorem mem_capabilityIndexes (caps : List SdpCapability) (streams : Std.ExtTreeMap UInt32 (List SdpCapability) compare)
    (idx : UInt32) :
    idx ∈ caps.map SdpCapability.index ++ streams.toList.flatMap (fun entry => entry.2.map SdpCapability.index) ↔
      (∃ cap ∈ caps, cap.index = idx) ∨
        ∃ (streamIdx : UInt32) (caps : List SdpCapability), streams[streamIdx]? = some caps ∧ ∃ cap ∈ caps, cap.index = idx := by
  rw [List.mem_append, List.mem_map, List.mem_flatMap]
  refine or_congr Iff.rfl ?_
  constructor
  · rintro ⟨⟨streamIdx, held⟩, listed, member⟩
    exact ⟨streamIdx, held, Std.ExtTreeMap.mem_toList_iff_getElem?_eq_some.mp listed, List.mem_map.mp member⟩
  · rintro ⟨streamIdx, held, listed, member⟩
    exact ⟨(streamIdx, held), Std.ExtTreeMap.mem_toList_iff_getElem?_eq_some.mpr listed, List.mem_map.mpr member⟩

theorem mem_tcapIndexes (idx : UInt32) : idx ∈ graph.tcapIndexes ↔ graph.UsesTcap idx :=
  mem_capabilityIndexes graph.globalTcap graph.tcap idx

theorem mem_acapIndexes (idx : UInt32) : idx ∈ graph.acapIndexes ↔ graph.UsesAcap idx :=
  mem_capabilityIndexes graph.globalAcap graph.acap idx

end Uses

/-- The configurations of a stream are kept in the order of their indexes. -/
theorem cfgKeys_ordered {Value : Type} (cfgs : Std.ExtTreeMap UInt32 Value compare) :
    cfgs.keys.Pairwise fun left right => left < right := by
  have ordered : cfgs.keys.Pairwise fun left right => compare left right = .lt := Std.ExtTreeMap.ordered_keys
  exact ordered.imp fun less => Std.compare_eq_lt.mp less

/-- Reading the free index of a list of what is in use. -/
theorem fresh_iff_of_mem {uses : UInt32 → Prop} (listed : ∀ idx, idx ∈ l ↔ uses idx)
    (below : ∀ idx, uses idx → idx < 4294967295) : Fresh uses (getFreeIdx l) ↔ ReadsGap l := by
  have same : (fun idx => idx ∈ l) = uses := funext fun idx => propext (listed idx)
  rw [← same]
  exact getFreeIdx_iff fun idx member => below idx ((listed idx).mp member)

end PotentialCfgGraph

namespace SalMediaDescription

variable (desc : SalMediaDescription)

/-- A transport capability of the session or of one of its streams has the index. -/
def UsesTcap (idx : UInt32) : Prop := idx ∈ desc.tcaps ∨ ∃ stream ∈ desc.streams, idx ∈ stream.tcaps

/-- An attribute capability of the session or of one of its streams has the index. -/
def UsesAcap (idx : UInt32) : Prop := idx ∈ desc.acaps ∨ ∃ stream ∈ desc.streams, idx ∈ stream.acaps

theorem mem_tcapIndexes (idx : UInt32) : idx ∈ desc.tcapIndexes ↔ desc.UsesTcap idx := by
  rw [tcapIndexes, List.mem_append, List.mem_flatMap, Std.ExtTreeMap.mem_keys]
  simp only [Std.ExtTreeMap.mem_keys]
  rfl

theorem mem_acapIndexes (idx : UInt32) : idx ∈ desc.acapIndexes ↔ desc.UsesAcap idx := by
  rw [acapIndexes, List.mem_append, List.mem_flatMap, Std.ExtTreeMap.mem_keys]
  simp only [Std.ExtTreeMap.mem_keys]
  rfl

end SalMediaDescription

namespace PotentialCfgGraph

/-- When an index that is found free is free. It is so exactly when the list that the
indexes are gathered in has, at the place of the first gap, an index without successor;
the configurations of a graph are gathered in order. -/
theorem free_index_fresh_iff (l : List UInt32) (graph : PotentialCfgGraph) (desc : SalMediaDescription)
    (stream : SalStreamDescription) :
    ((∀ idx ∈ l, idx < 4294967295) → (Fresh (· ∈ l) (getFreeIdx l) ↔ ReadsGap l)) ∧
      (((∀ idx, graph.UsesTcap idx → idx < 4294967295) →
          (Fresh graph.UsesTcap graph.getFreeTcapIdx ↔ ReadsGap graph.tcapIndexes)) ∧
        ((∀ idx, graph.UsesAcap idx → idx < 4294967295) →
          (Fresh graph.UsesAcap graph.getFreeAcapIdx ↔ ReadsGap graph.acapIndexes)) ∧
        ∀ streamIdx, (∀ idx ∈ graph.getCfgForStream streamIdx, idx < 4294967295) →
          Fresh (· ∈ graph.getCfgForStream streamIdx) (graph.getFreeCfgIdx streamIdx)) ∧
      (((∀ idx, desc.UsesTcap idx → idx < 4294967295) →
          (Fresh desc.UsesTcap desc.getFreeTcapIdx ↔ ReadsGap desc.tcapIndexes)) ∧
        ((∀ idx, desc.UsesAcap idx → idx < 4294967295) →
          (Fresh desc.UsesAcap desc.getFreeAcapIdx ↔ ReadsGap desc.acapIndexes))) ∧
      ((∀ idx ∈ stream.cfgs, idx < 4294967295) →
        (Fresh (· ∈ stream.cfgs) stream.getFreeCfgIdx ↔ ReadsGap stream.cfgs.keys)) := by
  refine ⟨fun below => getFreeIdx_iff below, ?_, ?_, ?_⟩
  · refine ⟨fresh_iff_of_mem graph.mem_tcapIndexes, fresh_iff_of_mem graph.mem_acapIndexes, ?_⟩
    intro streamIdx below
    apply (fresh_iff_of_mem (fun idx => Std.ExtTreeMap.mem_keys) below).mpr
    apply readsGap_of_ordered (cfgKeys_ordered _)
    intro idx member
    exact below idx (Std.ExtTreeMap.mem_keys.mp member)
  · exact ⟨fresh_iff_of_mem desc.mem_tcapIndexes, fresh_iff_of_mem desc.mem_acapIndexes⟩
  · intro below
    exact fresh_iff_of_mem (fun idx => Std.ExtTreeMap.mem_keys) below

/-- With the indexes in order the gap is filled. -/
theorem gap_filled_in_order : Fresh (· ∈ [1, 2, 4]) (getFreeIdx [1, 2, 4]) := by
  have small : ([1, 2, 4] : List UInt32).all (fun idx => decide (idx < 4294967295)) = true := by decide
  have below : ∀ idx ∈ ([1, 2, 4] : List UInt32), idx < 4294967295 :=
    fun idx member => of_decide_eq_true (List.all_eq_true.mp small idx member)
  apply ((free_index_fresh_iff [1, 2, 4] {} {} {}).1 below).mpr
  apply readsGap_of_ordered _ below
  decide

/-- A session with the capabilities 3 and 4, and a stream with the capability 1. -/
def capabilitiesOutOfOrder : SalMediaDescription :=
  { tcaps := ((∅ : TcapMap).insert 3 "RTP/SAVP").insert 4 "RTP/SAVPF"
    streams := [{ tcaps := (∅ : TcapMap).insert 1 "UDP/TLS/RTP/SAVP" }] }

/-- The gap follows the first of the ordered indexes, and the first one of the list is 3. -/
theorem index_in_use_returned :
    getFreeIdx [3, 4, 1] = 4 ∧ capabilitiesOutOfOrder.UsesTcap capabilitiesOutOfOrder.getFreeTcapIdx := by
  have gathered : capabilitiesOutOfOrder.tcapIndexes = [3, 4, 1] := by decide
  have taken : getFreeIdx [3, 4, 1] = 4 := by decide
  refine ⟨taken, ?_⟩
  rw [SalMediaDescription.getFreeTcapIdx, gathered, taken, ← SalMediaDescription.mem_tcapIndexes, gathered]
  decide

end PotentialCfgGraph

end Liblinphone
