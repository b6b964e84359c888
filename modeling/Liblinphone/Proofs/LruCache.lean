import Mathlib.Data.Finset.Card
import Liblinphone.Library.Keyed
import Liblinphone.Library.Recency
import Liblinphone.Library.Run
import Liblinphone.LruCache

/-! What the cache holds after a run: the entries inserted last, as many as its capacity. The
capacity is the one of the constructor, taken without a sign, so that the minimum does not
apply to it. -/

namespace Liblinphone

open Library

variable {κ : Type u} {ν : Type v} [DecidableEq κ]

/-- The entries inserted since the last clear, the last inserted first, each key once. -/
def recent (calls : List (LruCall κ ν)) : List (κ × ν) :=
  calls.foldl (fun entries call =>
    match call with
    | .insert key value => touch key value entries
    | .clear => []) []

/-- The keys inserted since the last clear. -/
def insertedKeys (calls : List (LruCall κ ν)) : Finset κ :=
  calls.foldl (fun keys call =>
    match call with
    | .insert key _ => insert key keys
    | .clear => ∅) ∅

theorem recent_insert (calls : List (LruCall κ ν)) (key : κ) (value : ν) :
    recent (calls ++ [.insert key value]) = touch key value (recent calls) := by
  unfold recent
  rw [List.foldl_append]
  rfl

theorem recent_clear (calls : List (LruCall κ ν)) : recent (calls ++ [.clear]) = [] := by
  unfold recent
  rw [List.foldl_append]
  rfl

theorem recent_keys (calls : List (LruCall κ ν)) :
    ((recent calls).map Prod.fst).Nodup ∧ ((recent calls).map Prod.fst).toFinset = insertedKeys calls := by
  induction calls using List.reverseRecOn with
  | nil => exact ⟨List.nodup_nil, rfl⟩
  | append_singleton calls call ih =>
    unfold insertedKeys
    rw [List.foldl_append, ← insertedKeys]
    cases call with
    | insert key value =>
      rw [recent_insert]
      refine ⟨touch_nodup ih.1, ?_⟩
      rw [touch_keys, ih.2]
      rfl
    | clear =>
      rw [recent_clear]
      exact ⟨List.nodup_nil, rfl⟩

theorem recent_length (calls : List (LruCall κ ν)) : (recent calls).length = (insertedKeys calls).card := by
  rw [← (recent_keys calls).2, List.toFinset_card_of_nodup (recent_keys calls).1, List.length_map]

namespace LruCache

variable {cache : LruCache κ ν}

/-- The cache holds these entries, in this order. Its list and its map have the same keys,
each once. -/
structure Holds (cache : LruCache κ ν) (entries : List (κ × ν)) : Prop where
  ordered : cache.keys.map Prod.snd = entries.map Prod.fst
  held : (cache.keyToPair.map fun pair => (pair.1, pair.2.2)).Perm entries
  found : ∀ key, cache.get key = (findKey Prod.fst key entries).map Prod.snd
  distinct : (entries.map Prod.fst).Nodup

/-- The list and the map are made of the same rows, and each row has a node of its own. -/
structure Linked (cache : LruCache κ ν) (rows : List (Nat × κ × ν)) : Prop where
  keys : cache.keys = rows.map fun row => (row.1, row.2.1)
  pairs : cache.keyToPair = rows.map fun row => (row.2.1, row.1, row.2.2)
  nodes : DistinctKeys Prod.fst rows
  distinct : DistinctKeys (fun row => row.2.1) rows
  fresh : ∀ row ∈ rows, row.1 < cache.nextNode

variable {rows : List (Nat × κ × ν)}

theorem Linked.find (linked : cache.Linked rows) (key : κ) :
    cache.find key = (findKey (fun row => row.2.1) key rows).map fun row => (row.1, row.2.2) := by
  unfold LruCache.find findKey
  rw [linked.pairs, List.find?_map, Option.map_map]
  rfl

theorem Linked.find_none (linked : cache.Linked rows) {key : κ} :
    cache.find key = none ↔ key ∉ (rows.map Prod.snd).map Prod.fst := by
  rw [linked.find, Option.map_eq_none_iff, findKey_none, List.map_map, List.mem_map]
  constructor
  · rintro absent ⟨row, member, same⟩
    exact absent row member same
  · exact fun absent row member same => absent ⟨row, member, same⟩

theorem Linked.holds (linked : cache.Linked rows) : cache.Holds (rows.map Prod.snd) where
  ordered := by
    rw [linked.keys, List.map_map, List.map_map]
    rfl
  held := by
    rw [linked.pairs, List.map_map]
    exact .refl _
  found key := by
    unfold get findKey
    rw [linked.find, List.find?_map, Option.map_map, Option.map_map]
    rfl
  distinct := by
    rw [List.map_map]
    exact linked.distinct

omit [DecidableEq κ] in
theorem linked_nil (keys : cache.keys = []) (pairs : cache.keyToPair = []) : cache.Linked [] :=
  ⟨keys, pairs, List.nodup_nil, List.nodup_nil, by simp⟩

/-- A row is taken out of the list by its node and out of the map by its key. -/
theorem Linked.erase {before after : List (Nat × κ × ν)} {row : Nat × κ × ν} (linked : cache.Linked (before ++ row :: after)) :
    ({ cache with
        keys := cache.keys.eraseP fun place => decide (place.1 = row.1)
        keyToPair := erasePair row.2.1 cache.keyToPair } : LruCache κ ν).Linked (before ++ after) where
  keys := by
    dsimp only
    rw [linked.keys, List.eraseP_map, ← eraseP_middle linked.nodes]
    rfl
  pairs := by
    dsimp only
    unfold erasePair
    rw [linked.pairs, List.eraseP_map, ← eraseP_middle linked.distinct]
    rfl
  nodes := linked.nodes.sublist (((List.sublist_cons_self row after).append_left before).map _)
  distinct := linked.distinct.sublist (((List.sublist_cons_self row after).append_left before).map _)
  fresh other member := by
    apply linked.fresh
    rcases List.mem_append.mp member with first | last
    · exact List.mem_append_left _ first
    · exact List.mem_append_right _ (List.mem_cons_of_mem _ last)

/-- The rows that are left when there is room for the key. -/
theorem Linked.makeRoom (linked : cache.Linked rows) (key : κ) (fits : rows.length ≤ cache.capacity.toNat)
    (positive : 0 < cache.capacity.toNat) :
    ∃ next left, cache.makeRoom key = .ok next ∧ next.Linked left ∧ next.capacity = cache.capacity ∧
      ∀ value, (key, value) :: left.map Prod.snd = touchWithin cache.capacity.toNat key value (rows.map Prod.snd) := by
  unfold LruCache.makeRoom touchWithin
  cases found : cache.find key with
  | some place =>
    obtain ⟨⟨node, name, old⟩, hit, rfl⟩ := Option.map_eq_some_iff.mp (linked.find key ▸ found)
    obtain rfl : name = key := findKey_key hit
    obtain ⟨before, after, rfl⟩ := List.append_of_mem (findKey_mem hit)
    have present : cache.keys.any (fun place => decide (place.1 = node)) = true := by
      rw [linked.keys]
      simp
    refine ⟨_, before ++ after, by simp only [eraseNode, if_pos present]; rfl, linked.erase, rfl, fun value => ?_⟩
    rw [if_pos (by simp)]
    have distinct := linked.holds.distinct
    rw [List.map_append, List.map_cons] at distinct
    rw [List.map_append, List.map_append, List.map_cons, filter_split distinct]
  | none =>
    have size : cache.getSize = cache.capacity ↔ rows.length = cache.capacity.toNat := by
      have bound := cache.capacity.isLt
      rw [getSize, BitVec.toNat_eq, BitVec.toNat_ofNat, linked.pairs, List.length_map, Nat.mod_eq_of_lt (by omega)]
    simp only [if_neg (linked.find_none.mp found), List.length_map]
    by_cases full : cache.getSize = cache.capacity
    · have filled : rows ≠ [] := List.ne_nil_of_length_pos (size.mp full ▸ positive)
      obtain ⟨front, last, rfl⟩ := (List.eq_nil_or_concat' rows).resolve_left filled
      have back : cache.keys.getLast? = some (last.1, last.2.1) := by
        rw [linked.keys, List.map_append]
        exact List.getLast?_concat
      have dropped : cache.keys.dropLast = cache.keys.eraseP fun place => decide (place.1 = last.1) := by
        refine Eq.trans ?_ linked.erase.keys.symm
        rw [linked.keys, List.map_append, List.map_singleton, List.dropLast_concat, List.append_nil]
      rw [if_pos full, back, dropped]
      refine ⟨_, front ++ [], rfl, linked.erase, rfl, fun value => ?_⟩
      rw [if_pos (size.mp full), List.append_nil, List.map_append, List.map_singleton, List.dropLast_concat]
    · rw [if_neg full]
      refine ⟨cache, rows, rfl, linked, rfl, fun value => ?_⟩
      rw [if_neg (size.not.mp full)]

theorem Linked.pushFront (linked : cache.Linked rows) {key : κ} (absent : cache.find key = none) (value : ν) :
    (cache.pushFront key value).Linked ((cache.nextNode, key, value) :: rows) where
  keys := congrArg ((cache.nextNode, key) :: ·) linked.keys
  pairs := by
    unfold LruCache.pushFront
    dsimp only
    rw [absent, Option.isSome_none, if_neg Bool.false_ne_true, linked.pairs]
    rfl
  nodes := by
    refine List.nodup_cons.mpr ⟨?_, linked.nodes⟩
    intro held
    obtain ⟨row, member, same⟩ := List.mem_map.mp held
    have older := linked.fresh row member
    exact absurd same (Nat.ne_of_lt older)
  distinct := by
    refine List.nodup_cons.mpr ⟨?_, linked.distinct⟩
    have missing := linked.find_none.mp absent
    rwa [List.map_map] at missing
  fresh row member := by
    rcases List.mem_cons.mp member with rfl | older
    · exact Nat.lt_succ_self _
    · exact Nat.lt_succ_of_lt (linked.fresh row older)

/-- An insertion writes the key into the entries, when there is room for one at all. -/
theorem Linked.insert (linked : cache.Linked rows) (key : κ) (value : ν) (fits : rows.length ≤ cache.capacity.toNat)
    (positive : 0 < cache.capacity.toNat) :
    ∃ next left, cache.insert key value = .ok next ∧ next.Linked left ∧ next.capacity = cache.capacity ∧
      left.map Prod.snd = touchWithin cache.capacity.toNat key value (rows.map Prod.snd) := by
  obtain ⟨room, left, made, next, capacity, entries⟩ := linked.makeRoom key fits positive
  have absent : room.find key = none := by
    have distinct : (((key, value) :: left.map Prod.snd).map Prod.fst).Nodup := by
      rw [entries value]
      exact touchWithin_nodup linked.holds.distinct
    exact next.find_none.mpr (List.nodup_cons.mp distinct).1
  refine ⟨room.pushFront key value, (room.nextNode, key, value) :: left, ?_, next.pushFront absent value, capacity, entries value⟩
  unfold LruCache.insert
  rw [made]
  rfl

/-- The cache was made with the capacity, and its rows are the entries inserted last. -/
def Recent (capacity : BitVec 32) (calls : List (LruCall κ ν)) (cache : LruCache κ ν) : Prop :=
  cache.capacity = capacity ∧ ∃ rows, cache.Linked rows ∧ rows.map Prod.snd = (recent calls).take capacity.toNat

theorem recent_step {capacity : BitVec 32} {calls : List (LruCall κ ν)} (positive : 0 < capacity.toNat)
    (holds : Recent capacity calls cache) (call : LruCall κ ν) :
    ∃ next, cache.step call = .ok next ∧ Recent capacity (calls ++ [call]) next := by
  obtain ⟨rfl, rows, linked, entries⟩ := holds
  cases call with
  | insert key value =>
    have fits : rows.length ≤ cache.capacity.toNat := by
      have taken := congrArg List.length entries
      rw [List.length_map, List.length_take] at taken
      omega
    obtain ⟨next, left, inserted, after, kept, written⟩ := linked.insert key value fits positive
    refine ⟨next, inserted, kept, left, after, ?_⟩
    rw [written, entries, touchWithin_take positive (recent_keys calls).1, recent_insert]
  | clear =>
    refine ⟨cache.clear, rfl, rfl, [], linked_nil rfl rfl, ?_⟩
    rw [recent_clear, List.take_nil]
    rfl

/-- The entries inserted last, as many as there is room for. -/
theorem run_recent {capacity : BitVec 32} (positive : 0 < capacity.toNat) (calls : List (LruCall κ ν)) :
    ∃ cache, (LruCache.new capacity).run calls = .ok cache ∧ cache.Holds ((recent calls).take capacity.toNat) := by
  have start : Recent capacity [] (LruCache.new capacity : LruCache κ ν) :=
    ⟨rfl, [], linked_nil rfl rfl, List.take_nil.symm⟩
  obtain ⟨cache, finished, -, rows, linked, entries⟩ :=
    foldlM_returns start fun before cache call _ holds => recent_step positive holds call
  refine ⟨cache, finished, ?_⟩
  rw [← List.nil_append calls, ← entries]
  exact linked.holds

theorem step_zero {call : LruCall κ ν} {next : LruCache κ ν} (stepped : (LruCache.new 0).step call = .ok next) :
    call = .clear ∧ next = LruCache.new 0 := by
  cases call with
  | insert key value => cases stepped
  | clear =>
    cases stepped
    exact ⟨rfl, rfl⟩

/-- Without room only a clear is defined, and it changes nothing. -/
theorem run_zero_iff {calls : List (LruCall κ ν)} {cache : LruCache κ ν} :
    (LruCache.new 0).run calls = .ok cache ↔ cache = LruCache.new 0 ∧ ∀ call ∈ calls, call = .clear := by
  induction calls with
  | nil =>
    constructor
    · intro ran
      cases ran
      exact ⟨rfl, by simp⟩
    · rintro ⟨rfl, -⟩
      rfl
  | cons call rest ih =>
    unfold run
    rw [List.foldlM_cons, List.forall_mem_cons]
    constructor
    · intro ran
      cases stepped : (LruCache.new 0 : LruCache κ ν).step call with
      | error undefined =>
        rw [stepped] at ran
        cases ran
      | ok next =>
        rw [stepped] at ran
        obtain ⟨rfl, rfl⟩ := step_zero stepped
        obtain ⟨same, clears⟩ := ih.mp ran
        exact ⟨same, rfl, clears⟩
    · rintro ⟨same, rfl, clears⟩
      exact ih.mpr ⟨same, clears⟩

theorem Holds.length_eq {first second : List (κ × ν)} (holds : cache.Holds first) (other : cache.Holds second) :
    first.length = second.length := by
  rw [← holds.held.length_eq, other.held.length_eq]

/-- The number of keys up to which the capacity that is kept and the one that is meant agree. -/
def agreesUpTo (capacity : BitVec 32) : Nat :=
  if capacity.toInt < 0 then minCapacity.toNat else capacity.toNat

/-- The two capacities take the same of so many entries. -/
theorem min_capacity_iff (capacity : BitVec 32) (count : Nat) :
    min (max capacity.toInt minCapacity).toNat count = min capacity.toNat count ↔
      minCapacity ≤ capacity.toInt ∨ count ≤ agreesUpTo capacity := by
  have bound := capacity.isLt
  unfold agreesUpTo minCapacity
  rw [BitVec.toInt_eq_toNat_cond]
  split
  next => split <;> omega
  next => split <;> omega

theorem run_holds_iff {capacity : BitVec 32} (positive : 0 < capacity.toNat) (calls : List (LruCall κ ν)) :
    (∃ cache, (LruCache.new capacity).run calls = .ok cache ∧
      cache.Holds ((recent calls).take (max capacity.toInt minCapacity).toNat)) ↔
    minCapacity ≤ capacity.toInt ∨ (insertedKeys calls).card ≤ agreesUpTo capacity := by
  obtain ⟨cache, ran, holds⟩ := run_recent positive calls
  rw [← min_capacity_iff, ← recent_length, ← List.length_take, ← List.length_take]
  constructor
  · rintro ⟨other, again, meant⟩
    cases ran.symm.trans again
    exact meant.length_eq holds
  · intro same
    rw [List.length_take, List.length_take, ← List.take_eq_take_iff] at same
    exact ⟨cache, ran, same ▸ holds⟩

theorem recent_of_clears {calls : List (LruCall κ ν)} (clears : ∀ call ∈ calls, call = .clear) : recent calls = [] := by
  rcases List.eq_nil_or_concat' calls with rfl | ⟨front, last, rfl⟩
  · rfl
  · rw [clears last (by simp), recent_clear]

theorem all_clear_iff {calls : List (LruCall κ ν)} :
    (∀ call ∈ calls, call = .clear) ↔ ∀ before after, calls = before ++ after → (insertedKeys before).card ≤ 0 := by
  constructor
  · rintro clears before after rfl
    rw [← recent_length, recent_of_clears fun call member => clears call (List.mem_append_left _ member)]
    exact Nat.le_refl 0
  · intro none call member
    obtain ⟨before, after, rfl⟩ := List.append_of_mem member
    cases call with
    | insert key value =>
      have some := none (before ++ [.insert key value]) after (List.append_cons _ _ _)
      rw [← recent_length, recent_insert] at some
      exact absurd some (Nat.not_succ_le_zero _)
    | clear => rfl

/-- After every call the cache holds the entries inserted last, as many as the capacity, or
the minimum of it, says. It does so when the capacity is at least the minimum, or so few
keys are inserted between two clears that the wrong capacity makes no difference. -/
theorem run_holds_recent_iff (capacity : BitVec 32) (calls : List (LruCall κ ν)) :
    (∀ before after, calls = before ++ after → ∃ cache, (LruCache.new capacity).run before = .ok cache ∧
      cache.Holds ((recent before).take (max capacity.toInt minCapacity).toNat)) ↔
    minCapacity ≤ capacity.toInt ∨
      ∀ before after, calls = before ++ after → (insertedKeys before).card ≤ agreesUpTo capacity := by
  by_cases zero : capacity = 0
  · subst zero
    refine Iff.trans ?_ (or_iff_right (by decide)).symm
    rw [show agreesUpTo 0 = 0 from rfl, ← all_clear_iff]
    constructor
    · intro always
      obtain ⟨cache, ran, -⟩ := always calls [] (List.append_nil calls).symm
      exact (run_zero_iff.mp ran).2
    · rintro clears before after rfl
      have early : ∀ call ∈ before, call = .clear := fun call member => clears call (List.mem_append_left _ member)
      refine ⟨LruCache.new 0, run_zero_iff.mpr ⟨rfl, early⟩, ?_⟩
      rw [recent_of_clears early, List.take_nil]
      exact (linked_nil rfl rfl).holds
  · have positive : 0 < capacity.toNat := Nat.pos_of_ne_zero fun none => zero (BitVec.eq_of_toNat_eq none)
    by_cases enough : minCapacity ≤ capacity.toInt
    · refine iff_of_true (fun before _ _ => ?_) (.inl enough)
      exact (run_holds_iff positive before).mpr (.inl enough)
    · rw [or_iff_right enough]
      refine forall_congr' fun before => forall_congr' fun after => imp_congr_right fun _ => ?_
      rw [run_holds_iff positive before, or_iff_right enough]

/-- A cache for no entry reads the back of an empty list, and one for a single entry has no
other one. -/
theorem minimum_not_applied :
    (LruCache.new 0).run [.insert 7 7] = .error LruUndefined.backOfEmptyList ∧
      ¬∃ cache, (LruCache.new 1).run [.insert 7 7, .insert 8 8] = .ok cache ∧
        cache.Holds ((recent [LruCall.insert 7 7, .insert 8 8]).take (max (1 : BitVec 32).toInt minCapacity).toNat) := by
  refine ⟨rfl, ?_⟩
  rintro ⟨cache, ran, holds⟩
  cases ran
  exact absurd holds.ordered (by decide)

end LruCache

end Liblinphone
