import Std.Data.ExtTreeMap.Lemmas

/-! A map laid over another one. At its own keys it gives the values, and at the other keys
what was held stays. -/

namespace Liblinphone.Library

open Std

variable {α : Type u} {β : Type v} {cmp : α → α → Ordering} [TransCmp cmp]

def overlay (held added : ExtTreeMap α β cmp) : ExtTreeMap α β cmp :=
  added.foldl (fun merged key value => merged.insert key value) held

theorem overlay_eq_insertMany (held added : ExtTreeMap α β cmp) : overlay held added = held.insertMany added.toList := by
  unfold overlay
  rw [ExtTreeMap.foldl_eq_foldl_toList, ExtTreeMap.insertMany_list_eq_foldl]

variable [DecidableEq α] [LawfulEqCmp cmp]

theorem getElem?_overlay (held added : ExtTreeMap α β cmp) (key : α) :
    (overlay held added)[key]? = added[key]?.or held[key]? := by
  rw [overlay_eq_insertMany]
  cases found : added[key]? with
  | some value =>
    exact ExtTreeMap.getElem?_insertMany_list_of_mem ReflCmp.compare_self ExtTreeMap.distinct_keys_toList
      (ExtTreeMap.mem_toList_iff_getElem?_eq_some.mpr found)
  | none =>
    refine ExtTreeMap.getElem?_insertMany_list_of_contains_eq_false ?_
    rw [ExtTreeMap.map_fst_toList_eq_keys, List.contains_eq_mem, decide_eq_false_iff_not, ExtTreeMap.mem_keys]
    exact (getElem?_eq_none_iff added key).mp found

theorem overlay_empty (added : ExtTreeMap α β cmp) : overlay ∅ added = added := by
  ext key
  rw [getElem?_overlay, ExtTreeMap.getElem?_empty, Option.or_none]

theorem overlay_nothing (held : ExtTreeMap α β cmp) : overlay held ∅ = held := by
  ext key
  rw [getElem?_overlay, ExtTreeMap.getElem?_empty, Option.none_or]

/-- Nothing of what was held stays exactly when its keys are all among the new ones. -/
theorem overlay_eq_iff (held added : ExtTreeMap α β cmp) : overlay held added = added ↔ ∀ key ∈ held, key ∈ added := by
  constructor
  · intro same key member
    obtain ⟨value, kept⟩ := Option.isSome_iff_exists.mp (ExtTreeMap.mem_iff_isSome_getElem?.mp member)
    rw [ExtTreeMap.mem_iff_isSome_getElem?, ← same, getElem?_overlay, kept]
    cases added[key]? <;> rfl
  · intro within
    ext key
    rw [getElem?_overlay]
    cases found : added[key]? with
    | some value => rfl
    | none =>
      have absent : key ∉ held := fun member => (getElem?_eq_none_iff added key).mp found (within key member)
      rw [Option.none_or, ExtTreeMap.getElem?_eq_none absent]

end Liblinphone.Library
