import Mathlib.Data.List.Basic
import Mathlib.Data.List.Nodup
import Mathlib.Data.List.Perm.Basic

/-! Lists whose entries are found by a key. When the keys are distinct such a
list is a map, and each operation on it is an operation on the map. -/

namespace Liblinphone.Library

variable {α : Type u} {κ : Type v}

/-- Change the first entry that matches. -/
def updateFirst (hits : α → Bool) (change : α → α) : List α → List α
  | [] => []
  | entry :: rest => if hits entry then change entry :: rest else entry :: updateFirst hits change rest

/-- No two entries have the same key. -/
def DistinctKeys (key : α → κ) (entries : List α) : Prop := (entries.map key).Nodup

instance [DecidableEq κ] (key : α → κ) (entries : List α) : Decidable (DistinctKeys key entries) :=
  inferInstanceAs (Decidable (entries.map key).Nodup)

theorem DistinctKeys.eraseP {key : α → κ} {entries : List α} (distinct : DistinctKeys key entries) (wanted : α → Bool) :
    DistinctKeys key (entries.eraseP wanted) :=
  distinct.sublist (List.eraseP_sublist.map key)

/-- Where an entry is changed: it is the first one that matches. -/
theorem updateFirst_split {hits : α → Bool} {entries : List α} (present : entries.any hits = true) :
    ∃ before entry after, entries = before ++ entry :: after ∧ hits entry = true ∧
      (∀ other ∈ before, hits other = false) ∧
      ∀ change, updateFirst hits change entries = before ++ change entry :: after := by
  induction entries with
  | nil => simp at present
  | cons first rest ih =>
    cases hit : hits first with
    | true => exact ⟨[], first, rest, rfl, hit, by simp, fun change => by simp [updateFirst, hit]⟩
    | false =>
      obtain ⟨before, entry, after, rfl, found, missed, changed⟩ := ih (by simpa [hit] using present)
      refine ⟨first :: before, entry, after, rfl, found, ?_, fun change => ?_⟩
      · simpa [hit] using missed
      · simp [updateFirst, hit, changed change]

theorem mem_updateFirst {hits : α → Bool} {change : α → α} {entries : List α} {entry : α}
    (member : entry ∈ updateFirst hits change entries) : entry ∈ entries ∨ ∃ other ∈ entries, entry = change other := by
  cases present : entries.any hits with
  | true =>
    obtain ⟨before, found, after, rfl, -, -, updated⟩ := updateFirst_split present
    rw [updated] at member
    rcases List.mem_append.mp member with early | late
    · exact .inl (List.mem_append_left _ early)
    · rcases List.mem_cons.mp late with rfl | later
      · exact .inr ⟨found, by simp, rfl⟩
      · exact .inl (List.mem_append_right _ (List.mem_cons_of_mem _ later))
  | false =>
    have unchanged : updateFirst hits change entries = entries := by
      clear member
      induction entries with
      | nil => rfl
      | cons first rest ih =>
        simp only [List.any_cons, Bool.or_eq_false_iff] at present
        simp [updateFirst, present.1, ih present.2]
    exact .inl (unchanged ▸ member)

/-- Without a hit there is nothing to change. -/
theorem updateFirst_absent {hits : α → Bool} {entries : List α} (absent : ∀ entry ∈ entries, ¬hits entry = true)
    (change : α → α) : updateFirst hits change entries = entries := by
  induction entries with
  | nil => rfl
  | cons first rest ih =>
    rw [updateFirst, if_neg (absent first List.mem_cons_self)]
    rw [ih fun entry member => absent entry (List.mem_cons_of_mem _ member)]

/-- Only the entry that is found is changed. -/
theorem updateFirst_found {hits : α → Bool} {entries : List α} {entry : α} (found : entries.find? hits = some entry)
    (change : α → α) : updateFirst hits change entries = updateFirst hits (fun _ => change entry) entries := by
  induction entries with
  | nil => rfl
  | cons first rest ih =>
    rw [List.find?_cons] at found
    cases hit : hits first with
    | true =>
      obtain rfl : first = entry := by simpa [hit] using found
      simp [updateFirst, hit]
    | false => simp [updateFirst, hit, ih (by simpa [hit] using found)]

theorem updateFirst_same {hits : α → Bool} {change : α → α} {entries : List α} {entry : α}
    (found : entries.find? hits = some entry) (same : change entry = entry) : updateFirst hits change entries = entries := by
  induction entries with
  | nil => rfl
  | cons first rest ih =>
    rw [List.find?_cons] at found
    cases hit : hits first with
    | true =>
      obtain rfl : first = entry := by simpa [hit] using found
      simp [updateFirst, hit, same]
    | false => simp [updateFirst, hit, ih (by simpa [hit] using found)]

theorem modify_findIdx? {hits : α → Bool} {entries : List α} {index : Nat} (found : entries.findIdx? hits = some index)
    (change : α → α) : entries.modify index change = updateFirst hits change entries := by
  induction entries generalizing index with
  | nil => simp at found
  | cons first rest ih =>
    rw [List.findIdx?_cons] at found
    cases hit : hits first with
    | true =>
      obtain rfl : 0 = index := by simpa [hit] using found
      simp [updateFirst, hit]
    | false =>
      simp only [hit, Bool.false_eq_true, ↓reduceIte, Option.map_eq_some_iff] at found
      obtain ⟨later, inside, rfl⟩ := found
      simp [updateFirst, hit, ih inside]

theorem modify_append_length (entries : List α) (added : α) (change : α → α) :
    (entries ++ [added]).modify entries.length change = entries ++ [change added] := by
  induction entries with
  | nil => rfl
  | cons entry rest ih => simpa using ih

/-- Where an index is in a list. -/
theorem getElem?_split {entries : List α} {index : Nat} {entry : α} (found : entries[index]? = some entry) :
    ∃ before after, entries = before ++ entry :: after ∧
      ∀ change, entries.modify index change = before ++ change entry :: after := by
  induction entries generalizing index with
  | nil => simp at found
  | cons first rest ih =>
    cases index with
    | zero =>
      obtain rfl : first = entry := by simpa using found
      exact ⟨[], rest, rfl, fun change => by simp⟩
    | succ index =>
      obtain ⟨before, after, rfl, changed⟩ := ih (by simpa using found)
      exact ⟨first :: before, after, rfl, fun change => by simp [changed]⟩

/-- Related options, when the relation of what they hold gives another one. -/
theorem optionRel_imp {β : Type v} {before after : α → β → Prop} {left : Option α} {right : Option β}
    (related : Option.Rel before left right)
    (implies : ∀ first second, right = some second → before first second → after first second) :
    Option.Rel after left right := by
  cases related with
  | none => exact .none
  | some holds => exact .some (implies _ _ rfl holds)

/-- Without duplicates, erasing the first hit takes exactly that entry away. -/
theorem mem_eraseP_iff {hits : α → Bool} {entries : List α} (nodup : entries.Nodup) {entry : α} :
    entry ∈ entries.eraseP hits ↔ entry ∈ entries ∧ entries.find? hits ≠ some entry := by
  induction entries with
  | nil => simp
  | cons first rest ih =>
    rw [List.nodup_cons] at nodup
    cases hit : hits first with
    | true =>
      simp only [List.eraseP_cons, hit, cond_true, List.find?_cons, ne_eq, Option.some.injEq, List.mem_cons]
      constructor
      · intro member
        exact ⟨.inr member, fun same => nodup.1 (same ▸ member)⟩
      · rintro ⟨rfl | member, different⟩
        · exact absurd rfl different
        · exact member
    | false =>
      simp only [List.eraseP_cons, hit, cond_false, List.find?_cons, List.mem_cons, ih nodup.2]
      constructor
      · rintro (rfl | ⟨member, missed⟩)
        · refine ⟨.inl rfl, ?_⟩
          intro found
          exact nodup.1 (List.mem_of_find?_eq_some found)
        · exact ⟨.inr member, missed⟩
      · rintro ⟨rfl | member, missed⟩
        · exact .inl rfl
        · exact .inr ⟨member, missed⟩

/-- Erasing a hit takes the first of the hits away. -/
theorem filter_eraseP_same (hits : α → Bool) (entries : List α) :
    (entries.eraseP hits).filter hits = (entries.filter hits).tail := by
  induction entries with
  | nil => rfl
  | cons first rest ih =>
    cases hit : hits first with
    | true => simp [hit]
    | false => simp [hit, ih]

theorem filter_eraseP_of_disjoint {hits wanted : α → Bool} (apart : ∀ entry, wanted entry = true → hits entry = false)
    (entries : List α) : (entries.eraseP hits).filter wanted = entries.filter wanted := by
  induction entries with
  | nil => rfl
  | cons first rest ih =>
    cases hit : hits first with
    | true =>
      have missed : wanted first ≠ true := by
        intro found
        rw [apart first found] at hit
        exact Bool.noConfusion hit
      simp [hit, missed]
    | false => simp [hit, List.filter_cons, ih]

section Keyed

variable [DecidableEq κ] (key : α → κ)

def findKey (wanted : κ) (entries : List α) : Option α := entries.find? fun entry => decide (key entry = wanted)

variable {key}

theorem findKey_key {wanted : κ} {entries : List α} {entry : α} (found : findKey key wanted entries = some entry) :
    key entry = wanted := by
  simpa using List.find?_some found

theorem findKey_mem {wanted : κ} {entries : List α} {entry : α} (found : findKey key wanted entries = some entry) :
    entry ∈ entries := List.mem_of_find?_eq_some found

theorem findKey_none {wanted : κ} {entries : List α} :
    findKey key wanted entries = none ↔ ∀ entry ∈ entries, key entry ≠ wanted := by
  simp [findKey]

theorem findKey_of_mem {entries : List α} {entry : α} (distinct : DistinctKeys key entries)
    (member : entry ∈ entries) : findKey key (key entry) entries = some entry := by
  induction entries with
  | nil => simp at member
  | cons first rest ih =>
    simp only [DistinctKeys, List.map_cons, List.nodup_cons, List.mem_map, not_exists, not_and] at distinct
    rcases List.mem_cons.mp member with rfl | later
    · simp [findKey]
    · have different : key first ≠ key entry := fun same => distinct.1 entry later same.symm
      simpa [findKey, different] using ih distinct.2 later

theorem findKey_append (wanted : κ) (entries : List α) (added : α) :
    findKey key wanted (entries ++ [added]) =
      (findKey key wanted entries).or (if key added = wanted then some added else none) := by
  by_cases same : key added = wanted
  · simp [findKey, List.find?_append, same]
  · simp [findKey, List.find?_append, same]

theorem DistinctKeys.append {entries : List α} {added : α} (distinct : DistinctKeys key entries)
    (absent : findKey key (key added) entries = none) : DistinctKeys key (entries ++ [added]) := by
  simp only [DistinctKeys, List.map_append, List.map_cons, List.map_nil]
  refine List.nodup_append.mpr ⟨distinct, by simp, ?_⟩
  intro value member other single
  obtain ⟨entry, inside, rfl⟩ := List.mem_map.mp member
  obtain rfl : other = key added := by simpa using single
  exact findKey_none.mp absent entry inside

theorem updateFirst_keys {change : α → α} {wanted : κ}
    (kept : ∀ entry, key entry = wanted → key (change entry) = wanted) (entries : List α) :
    (updateFirst (fun entry => decide (key entry = wanted)) change entries).map key = entries.map key := by
  induction entries with
  | nil => rfl
  | cons entry rest ih =>
    by_cases hit : key entry = wanted
    · simp [updateFirst, hit, kept entry hit]
    · simp [updateFirst, hit, ih]

theorem DistinctKeys.updateFirst {change : α → α} {entries : List α} {wanted : κ} (distinct : DistinctKeys key entries)
    (kept : ∀ entry, key entry = wanted → key (change entry) = wanted) :
    DistinctKeys key (Library.updateFirst (fun entry => decide (key entry = wanted)) change entries) := by
  unfold DistinctKeys
  rw [updateFirst_keys kept]
  exact distinct

theorem findKey_updateFirst {change : α → α} {wanted : κ}
    (kept : ∀ entry, key entry = wanted → key (change entry) = wanted) (other : κ) (entries : List α) :
    findKey key other (updateFirst (fun entry => decide (key entry = wanted)) change entries) =
      if wanted = other then (findKey key other entries).map change else findKey key other entries := by
  induction entries with
  | nil => simp [updateFirst, findKey]
  | cons entry rest ih =>
    by_cases hit : key entry = wanted
    · have renamed := kept entry hit
      by_cases same : wanted = other
      · simp [updateFirst, findKey, hit, renamed, same]
      · simp [updateFirst, findKey, hit, renamed, same]
    · by_cases same : key entry = other
      · subst same
        simp [updateFirst, findKey, hit, Ne.symm hit]
      · simpa [updateFirst, findKey, hit, same] using ih

theorem findKey_eraseP {entries : List α} (distinct : DistinctKeys key entries) (wanted other : κ) :
    findKey key other (entries.eraseP fun entry => decide (key entry = wanted)) =
      if wanted = other then none else findKey key other entries := by
  induction entries with
  | nil => simp [findKey]
  | cons entry rest ih =>
    simp only [DistinctKeys, List.map_cons, List.nodup_cons, List.mem_map, not_exists, not_and] at distinct
    by_cases hit : key entry = wanted
    · subst hit
      by_cases same : key entry = other
      · have gone : findKey key other rest = none :=
          findKey_none.mpr fun later inside equal => distinct.1 later inside (equal.trans same.symm)
        simp [same, gone]
      · simp [findKey, same]
    · by_cases same : key entry = other
      · subst same
        simp [findKey, hit, Ne.symm hit]
      · simpa [List.eraseP_cons, findKey, hit, same] using ih distinct.2

/-- With distinct keys, to erase the entry of a key leaves the entries around it. -/
theorem eraseP_middle {before after : List α} {entry : α} (distinct : DistinctKeys key (before ++ entry :: after)) :
    ((before ++ entry :: after).eraseP fun other => decide (key other = key entry)) = before ++ after := by
  unfold DistinctKeys at distinct
  rw [List.map_append, List.map_cons, List.nodup_middle, List.nodup_cons] at distinct
  have missed : ∀ other ∈ before, ¬decide (key other = key entry) = true := by
    intro other member hit
    exact distinct.1 (List.mem_append_left _ (List.mem_map.mpr ⟨other, member, of_decide_eq_true hit⟩))
  rw [List.eraseP_append_right _ missed, List.eraseP_cons_of_pos]
  exact decide_eq_true rfl

/-- Two lists with the same keys are equal once they are for each key. -/
theorem eq_of_filter_keys {β : Type w} {first second : List (κ × β)} (keys : first.map Prod.fst = second.map Prod.fst)
    (same : ∀ key, (first.filter (·.1 = key)).map Prod.snd = (second.filter (·.1 = key)).map Prod.snd) : first = second := by
  induction first generalizing second with
  | nil => exact (List.map_eq_nil_iff.mp keys.symm).symm
  | cons entry rest following =>
    cases second with
    | nil => cases keys
    | cons other more =>
      obtain ⟨head, tail⟩ := List.cons.inj keys
      have heads := same entry.1
      rw [List.filter_cons, List.filter_cons, if_pos (decide_eq_true rfl), if_pos (decide_eq_true head.symm), List.map_cons,
        List.map_cons] at heads
      obtain ⟨value, -⟩ := List.cons.inj heads
      obtain rfl : entry = other := Prod.ext head value
      refine congrArg (entry :: ·) (following tail fun key => ?_)
      have each := same key
      rw [List.filter_cons, List.filter_cons] at each
      split at each
      next => exact (List.cons.inj each).2
      next => exact each

end Keyed

section Inserted

variable {β : Type w} [DecidableEq κ] [LT κ] [DecidableLT κ]

/-- A map keeps its keys in order. What is inserted does not replace what is there. -/
def insertKey (key : κ) (value : β) (entries : List (κ × β)) : List (κ × β) :=
  if entries.any (fun entry => decide (entry.1 = key)) then entries
  else entries.takeWhile (fun entry => decide (entry.1 < key)) ++
    (key, value) :: entries.dropWhile fun entry => decide (entry.1 < key)

theorem insertKey_present {key : κ} {value other : β} {entries : List (κ × β)} (present : (key, other) ∈ entries) :
    insertKey key value entries = entries := by
  rw [insertKey, if_pos]
  exact List.any_eq_true.mpr ⟨(key, other), present, decide_eq_true rfl⟩

theorem insertKey_absent {key : κ} {value : β} {entries : List (κ × β)} (absent : ∀ entry ∈ entries, entry.1 ≠ key) :
    (insertKey key value entries).Perm ((key, value) :: entries) := by
  have missing : ¬entries.any (fun entry => decide (entry.1 = key)) = true := by
    rw [List.any_eq_true]
    rintro ⟨entry, member, same⟩
    exact absent entry member (of_decide_eq_true same)
  rw [insertKey, if_neg missing]
  refine List.perm_middle.trans ?_
  rw [List.takeWhile_append_dropWhile]

theorem mem_insertKey_iff {key : κ} {value : β} {entries : List (κ × β)} {entry : κ × β} :
    entry ∈ insertKey key value entries ↔
      entry ∈ entries ∨ entry = (key, value) ∧ ∀ other ∈ entries, other.1 ≠ key := by
  by_cases present : ∃ other ∈ entries, other.1 = key
  · obtain ⟨⟨name, held⟩, member, rfl⟩ := present
    rw [insertKey_present member]
    constructor
    · exact .inl
    · rintro (kept | ⟨-, absent⟩)
      · exact kept
      · exact absurd rfl (absent _ member)
  · push Not at present
    rw [(insertKey_absent present).mem_iff, List.mem_cons]
    constructor
    · rintro (added | kept)
      · exact .inr ⟨added, present⟩
      · exact .inl kept
    · rintro (kept | ⟨added, -⟩)
      · exact .inr kept
      · exact .inl added

theorem findKey_insertKey (key other : κ) (value : β) (entries : List (κ × β)) :
    findKey Prod.fst other (insertKey key value entries) =
      (findKey Prod.fst other entries).or (if key = other then some (key, value) else none) := by
  have parts : entries.takeWhile (fun entry => decide (entry.1 < key)) ++
      entries.dropWhile (fun entry => decide (entry.1 < key)) = entries := List.takeWhile_append_dropWhile
  unfold insertKey
  split
  next present =>
    by_cases same : key = other
    · obtain ⟨entry, found⟩ := Option.isSome_iff_exists.mp (List.find?_isSome.mpr (List.any_eq_true.mp present))
      rw [← same, findKey, found]
      rfl
    · rw [if_neg same, Option.or_none]
  next absent =>
    by_cases same : key = other
    · subst same
      have missing : findKey Prod.fst key entries = none :=
        findKey_none.mpr fun entry member equal => absent (List.any_eq_true.mpr ⟨entry, member, decide_eq_true equal⟩)
      have before : findKey Prod.fst key (entries.takeWhile fun entry => decide (entry.1 < key)) = none :=
        findKey_none.mpr fun entry member => findKey_none.mp missing entry (List.takeWhile_subset _ member)
      rw [missing, if_pos rfl, Option.none_or, findKey, List.find?_append]
      rw [findKey] at before
      rw [before, Option.none_or]
      exact List.find?_cons_of_pos (decide_eq_true rfl)
    · rw [if_neg same, Option.or_none, findKey, List.find?_append, List.find?_cons_of_neg (by simpa using same),
        ← List.find?_append, parts]
      rfl

/-- Of the pairs that are inserted, those are there that are the first with their key. -/
theorem mem_foldl_insertKey_iff {pairs entries : List (κ × β)} {entry : κ × β} :
    entry ∈ pairs.foldl (fun held pair => insertKey pair.1 pair.2 held) entries ↔
      entry ∈ entries ∨ (∀ other ∈ entries, other.1 ≠ entry.1) ∧
        pairs.find? (fun pair => decide (pair.1 = entry.1)) = some entry := by
  induction pairs generalizing entries with
  | nil => simp
  | cons pair rest following =>
    rw [List.foldl_cons, following, mem_insertKey_iff, List.find?_cons]
    by_cases same : pair.1 = entry.1
    · simp only [same, decide_true, Option.some.injEq]
      constructor
      · rintro ((kept | ⟨added, absent⟩) | ⟨absent, -⟩)
        · exact .inl kept
        · exact .inr ⟨absent, Prod.ext same (congrArg Prod.snd added).symm⟩
        · by_cases held : ∃ other ∈ entries, other.1 = entry.1
          · obtain ⟨other, member, named⟩ := held
            exact absurd named (absent other (mem_insertKey_iff.mpr (.inl member)))
          · push Not at held
            exact absurd rfl (absent (entry.1, pair.2) (mem_insertKey_iff.mpr (.inr ⟨rfl, held⟩)))
      · rintro (kept | ⟨absent, rfl⟩)
        · exact .inl (.inl kept)
        · exact .inl (.inr ⟨rfl, absent⟩)
    · have other : entry ≠ (pair.1, pair.2) := fun equal => same (congrArg Prod.fst equal).symm
      simp only [other, false_and, or_false, same, decide_false]
      constructor
      · rintro (kept | ⟨absent, found⟩)
        · exact .inl kept
        · exact .inr ⟨fun other member => absent other (mem_insertKey_iff.mpr (.inl member)), found⟩
      · rintro (kept | ⟨absent, found⟩)
        · exact .inl kept
        · refine .inr ⟨?_, found⟩
          intro other member
          rcases mem_insertKey_iff.mp member with kept | ⟨rfl, -⟩
          · exact absent other kept
          · exact same

end Inserted

end Liblinphone.Library
