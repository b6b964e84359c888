import Mathlib.Data.List.Nodup
import Mathlib.Data.Finset.Insert

/-! Entries in the order of their last write, the last written first, with one entry for
each key. A table with room for so many entries that drops the last one holds the
first ones of them. -/

namespace Liblinphone.Library

variable {κ : Type u} {ν : Type v} [DecidableEq κ]

/-- The key is written: its entry comes first, and it has no other one. -/
def touch (key : κ) (value : ν) (entries : List (κ × ν)) : List (κ × ν) :=
  (key, value) :: entries.filter fun entry => decide (entry.1 ≠ key)

/-- The key is written into a table with room for so many entries. -/
def touchWithin (room : Nat) (key : κ) (value : ν) (entries : List (κ × ν)) : List (κ × ν) :=
  (key, value) ::
    if key ∈ entries.map Prod.fst then entries.filter fun entry => decide (entry.1 ≠ key)
    else if entries.length = room then entries.dropLast
    else entries

variable {key : κ} {value : ν} {entries : List (κ × ν)}

theorem filter_absent (absent : key ∉ entries.map Prod.fst) :
    (entries.filter fun entry => decide (entry.1 ≠ key)) = entries := by
  apply List.filter_eq_self.mpr
  intro entry member
  apply decide_eq_true
  exact fun same => absent (same ▸ List.mem_map_of_mem member)

theorem touch_nodup (distinct : (entries.map Prod.fst).Nodup) : ((touch key value entries).map Prod.fst).Nodup := by
  unfold touch
  rw [List.map_cons, List.nodup_cons]
  refine ⟨?_, distinct.sublist (List.filter_sublist.map Prod.fst)⟩
  intro held
  obtain ⟨entry, kept, same⟩ := List.mem_map.mp held
  exact of_decide_eq_true (List.mem_filter.mp kept).2 same

theorem touchWithin_nodup {room : Nat} (distinct : (entries.map Prod.fst).Nodup) :
    ((touchWithin room key value entries).map Prod.fst).Nodup := by
  unfold touchWithin
  split
  next => exact touch_nodup distinct
  next absent =>
    rw [List.map_cons, List.nodup_cons]
    split
    next =>
      have fewer := (List.dropLast_sublist entries).map Prod.fst
      exact ⟨fun held => absent (fewer.subset held), distinct.sublist fewer⟩
    next => exact ⟨absent, distinct⟩

theorem touch_keys (key : κ) (value : ν) (entries : List (κ × ν)) :
    ((touch key value entries).map Prod.fst).toFinset = insert key (entries.map Prod.fst).toFinset := by
  ext other
  simp only [touch, List.map_cons, List.toFinset_cons, Finset.mem_insert, List.mem_toFinset, List.mem_map, List.mem_filter,
    decide_eq_true_eq]
  by_cases same : other = key
  · exact iff_of_true (.inl same) (.inl same)
  · constructor
    · rintro (written | ⟨entry, ⟨member, -⟩, rfl⟩)
      · exact absurd written same
      · exact .inr ⟨entry, member, rfl⟩
    · rintro (written | ⟨entry, member, rfl⟩)
      · exact absurd written same
      · exact .inr ⟨entry, ⟨member, same⟩, rfl⟩

/-- The entry of a key that is there once is the one that the filter takes out. -/
theorem filter_split {before after : List (κ × ν)} (distinct : ((before ++ (key, value) :: after).map Prod.fst).Nodup) :
    ((before ++ (key, value) :: after).filter fun entry => decide (entry.1 ≠ key)) = before ++ after := by
  rw [List.map_append, List.map_cons, List.nodup_middle, List.nodup_cons] at distinct
  have apart : key ∉ before.map Prod.fst ∧ key ∉ after.map Prod.fst := by simpa using distinct.1
  rw [List.filter_append, List.filter_cons_of_neg (by simp), filter_absent apart.1, filter_absent apart.2]

/-- What the filter leaves of the first entries is the beginning of what it leaves of all. -/
theorem filter_take_begins (key : κ) (entries : List (κ × ν)) (count : Nat) :
    ((entries.take count).filter fun entry => decide (entry.1 ≠ key)) <+: entries.filter fun entry => decide (entry.1 ≠ key) :=
  (List.take_prefix count entries).filter _

theorem length_filter_held (distinct : (entries.map Prod.fst).Nodup) (held : key ∈ entries.map Prod.fst) :
    (entries.filter fun entry => decide (entry.1 ≠ key)).length + 1 = entries.length := by
  obtain ⟨⟨written, old⟩, member, rfl⟩ := List.mem_map.mp held
  obtain ⟨before, after, rfl⟩ := List.append_of_mem member
  rw [filter_split distinct]
  simp only [List.length_append, List.length_cons]
  omega

/-- A table that drops its last entry for a new key holds the entries written last. -/
theorem touchWithin_take {room : Nat} (positive : 0 < room) (distinct : (entries.map Prod.fst).Nodup) (key : κ) (value : ν) :
    touchWithin room key value (entries.take room) = (touch key value entries).take room := by
  obtain ⟨less, rfl⟩ : ∃ less, room = less + 1 := ⟨room - 1, by omega⟩
  have begins := List.prefix_iff_eq_take.mp (filter_take_begins key entries (less + 1))
  unfold touchWithin touch
  rw [List.take_succ_cons]
  congr 1
  by_cases full : less + 1 ≤ entries.length
  · have length : (entries.take (less + 1)).length = less + 1 := List.length_take_of_le full
    split
    next held =>
      have left := length_filter_held (distinct.sublist ((List.take_sublist (less + 1) entries).map Prod.fst)) held
      rwa [show ((entries.take (less + 1)).filter fun entry => decide (entry.1 ≠ key)).length = less by omega] at begins
    next absent =>
      rw [filter_absent absent, length] at begins
      rw [List.dropLast_eq_take, length, begins, List.take_take]
      congr 1
      omega
  · have short : entries.length ≤ less := by omega
    have fits := (List.length_filter_le (fun entry => decide (entry.1 ≠ key)) entries).trans short
    rw [List.take_of_length_le (by omega), List.take_of_length_le fits]
    split
    next held => rfl
    next absent => rw [if_neg (by omega), filter_absent absent]

end Liblinphone.Library
