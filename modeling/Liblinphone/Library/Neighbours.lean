import Mathlib.Data.List.Destutter

/-! Removing neighbours that are alike. This leaves an entry twice exactly when another
one stands between two of it. -/

namespace Liblinphone.Library

variable {β : Type v} [DecidableEq β]

/-- A list without equal neighbours is still there once the equal neighbours are removed. -/
theorem sublist_destutter' {chain entries : List β} {kept : β} (apart : chain.IsChain (· ≠ ·))
    (within : chain.Sublist (kept :: entries)) : chain.Sublist (entries.destutter' (· ≠ ·) kept) := by
  induction entries generalizing chain kept with
  | nil => exact within
  | cons entry rest following =>
    by_cases other : kept ≠ entry
    · rw [List.destutter'_cons_pos _ other]
      rcases List.sublist_cons_iff.mp within with later | ⟨inner, rfl, later⟩
      · exact (following apart later).cons kept
      · exact (following apart.tail later).cons_cons kept
    · rw [List.destutter'_cons_neg _ other]
      obtain rfl := not_not.mp other
      apply following apart
      rcases List.sublist_cons_iff.mp within with later | ⟨inner, rfl, later⟩
      · exact later
      · rcases List.sublist_cons_iff.mp later with beyond | ⟨more, rfl, beyond⟩
        · exact beyond.cons_cons kept
        · exact absurd rfl (List.isChain_cons_cons.mp apart).1

theorem sublist_destutter {chain entries : List β} (apart : chain.IsChain (· ≠ ·)) (within : chain.Sublist entries) :
    chain.Sublist (entries.destutter (· ≠ ·)) := by
  cases entries with
  | nil => exact within
  | cons kept rest =>
    rw [List.destutter_cons']
    exact sublist_destutter' apart within

omit [DecidableEq β] in
/-- Between two equal entries of a list without equal neighbours there is another one. -/
theorem between_of_chain {entries : List β} {value : β} (apart : entries.IsChain (· ≠ ·))
    (twice : [value, value].Sublist entries) : ∃ other, other ≠ value ∧ [value, other, value].Sublist entries := by
  induction entries with
  | nil => cases twice
  | cons first rest following =>
    rcases List.sublist_cons_iff.mp twice with later | ⟨inner, same, later⟩
    · obtain ⟨other, different, found⟩ := following apart.tail later
      exact ⟨other, different, found.cons first⟩
    · obtain ⟨rfl, rfl⟩ := List.cons.inj same
      cases rest with
      | nil => cases later
      | cons next others =>
        have different := (List.isChain_cons_cons.mp apart).1
        refine ⟨next, different.symm, ?_⟩
        rcases List.sublist_cons_iff.mp later with beyond | ⟨more, equal, -⟩
        · exact (beyond.cons_cons next).cons_cons value
        · exact absurd (List.cons.inj equal).1 different

/-- An entry is left twice exactly when another one stands between two of it. -/
theorem twice_destutter_iff {entries : List β} {value : β} :
    [value, value].Sublist (entries.destutter (· ≠ ·)) ↔
      ∃ other, other ≠ value ∧ [value, other, value].Sublist entries := by
  constructor
  · intro twice
    obtain ⟨other, different, found⟩ := between_of_chain (List.isChain_destutter _ entries) twice
    exact ⟨other, different, found.trans (List.destutter_sublist _ entries)⟩
  · rintro ⟨other, different, found⟩
    have apart : [value, other, value].IsChain (· ≠ ·) := by simp [different, different.symm]
    have kept := sublist_destutter apart found
    exact (((List.Sublist.refl [value]).cons other).cons_cons value).trans kept

/-- With keys, three entries of the list show it. -/
theorem twice_destutter_map_iff {α : Type u} {key : α → β} {entries : List α} {value : β} :
    [value, value].Sublist ((entries.map key).destutter (· ≠ ·)) ↔
      ∃ first other second, [first, other, second].Sublist entries ∧
        key first = value ∧ key other ≠ value ∧ key second = value := by
  rw [twice_destutter_iff]
  constructor
  · rintro ⟨between, different, found⟩
    obtain ⟨triple, within, keys⟩ := List.sublist_map_iff.mp found
    obtain ⟨first, other, second, rfl⟩ : ∃ first other second, triple = [first, other, second] := by
      apply List.length_eq_three.mp
      rw [← @List.length_map _ _ triple key, ← keys]
      rfl
    simp only [List.map_cons, List.map_nil, List.cons.injEq, and_true] at keys
    exact ⟨first, other, second, within, keys.1.symm, keys.2.1 ▸ different, keys.2.2.symm⟩
  · rintro ⟨first, other, second, within, one, different, two⟩
    refine ⟨key other, different, ?_⟩
    have mapped := within.map key
    rwa [List.map_cons, List.map_cons, List.map_cons, List.map_nil, one, two] at mapped

theorem mem_destutter {entries : List β} {value : β} : value ∈ entries.destutter (· ≠ ·) ↔ value ∈ entries := by
  constructor
  · exact fun member => (List.destutter_sublist _ entries).mem member
  · intro member
    have kept := sublist_destutter (List.isChain_singleton value) (List.singleton_sublist.mpr member)
    exact List.singleton_sublist.mp kept

end Liblinphone.Library
