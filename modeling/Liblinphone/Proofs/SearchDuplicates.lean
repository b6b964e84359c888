import Liblinphone.Proofs.ResultOrder
import Liblinphone.Library.Neighbours
import Liblinphone.Library.Ordered

/-! Duplicates in the results of a search. Only neighbours are compared after the sort,
and the sort goes by the display name first, which duplicates need not share. -/

namespace Liblinphone

open Library

/-- What two results are compared by. -/
structure ResultKey where
  address : Option (Option String × String × Nat)
  phoneNumber : Text
  capabilities : Nat
deriving Repr, DecidableEq

/-- What two results are compared by when they are put together by friend. -/
inductive FriendKey where
  | friend (friend : SearchFriend)
  | other (key : ResultKey)
deriving Repr, DecidableEq

namespace SearchResult

def resultKey (result : SearchResult) : ResultKey :=
  ⟨result.address.map Address.weakKey, result.phoneNumber, result.capabilities⟩

def friendKey (result : SearchResult) : FriendKey :=
  match result.friend with
  | some friend => .friend friend
  | none => .other result.resultKey

theorem friendKey_eq_friend_iff (result : SearchResult) (friend : SearchFriend) :
    result.friendKey = .friend friend ↔ result.friend = some friend := by
  unfold friendKey
  cases result.friend with
  | none => simp
  | some other => simp

theorem compareResults_iff (left right : SearchResult) :
    left.compareResults right = true ↔ left.resultKey = right.resultKey := by
  rw [compareResults, resultKey, resultKey, ResultKey.mk.injEq, Bool.and_eq_true, Bool.and_eq_true, beq_iff_eq, beq_iff_eq,
    and_assoc, @and_comm (left.capabilities = _), sameAddress]
  refine and_congr_left fun _ => ?_
  cases left.address with
  | none =>
    cases right.address with
    | none => simp
    | some other => simp
  | some address =>
    cases right.address with
    | none => simp
    | some other => simp [Address.weakEqual_eq_key]

theorem compareResults_comm {left right : SearchResult} :
    left.compareResults right = true ↔ right.compareResults left = true := by
  rw [compareResults_iff, compareResults_iff, eq_comm]

/-- Results that compare equal have the same place and number in the order. -/
theorem sorted_of_resultKey {left right : SearchResult} (same : left.resultKey = right.resultKey) :
    left.sortPlace = right.sortPlace ∧ left.sortNumber = right.sortNumber := by
  obtain ⟨addresses, numbers, -⟩ := ResultKey.mk.inj same
  refine ⟨?_, congrArg lowerText numbers⟩
  have placed : ∀ result : SearchResult, result.sortPlace = (result.address.map Address.weakKey).map fun key =>
      toLex (lowerText (key.1.getD "").toList, lowerText key.2.1.toList) := by
    intro result
    rw [Option.map_map]
    rfl
  rw [placed, placed, addresses]

/-- Results of one friend are alike, and results without friend when they compare equal. -/
theorem friendAlike_iff (left right : SearchResult) :
    (if left.friend.isNone && right.friend.isNone then left.compareResults right
      else left.friend == right.friend) = true ↔ left.friendKey = right.friendKey := by
  unfold friendKey
  cases left.friend with
  | none =>
    cases right.friend with
    | none => simp [compareResults_iff]
    | some friend => simp
  | some friend =>
    cases right.friend with
    | none => simp
    | some other => simp

end SearchResult

open SearchResult

/-- The keys of what is kept are the keys without equal neighbours. -/
theorem unique_map {Key : Type} [DecidableEq Key] {key : SearchResult → Key}
    {alike : SearchResult → SearchResult → Bool} (same : ∀ left right, alike left right = true ↔ key left = key right)
    (results : List SearchResult) :
    (unique alike results).map key = (results.map key).destutter (· ≠ ·) := by
  have kept : ∀ (rest : List SearchResult) (first : SearchResult),
      (uniqueAfter alike first rest).map key = (rest.map key).destutter' (· ≠ ·) (key first) := by
    intro rest
    induction rest with
    | nil => exact fun _ => rfl
    | cons next others following =>
      intro first
      rw [uniqueAfter, List.map_cons, List.destutter'_cons]
      by_cases equal : key first = key next
      · rw [if_pos ((same first next).mpr equal), if_neg (not_not.mpr equal), following]
      · rw [if_neg (fun alike => equal ((same first next).mp alike)), if_pos equal, List.map_cons, following]
  cases results with
  | nil => rfl
  | cons first rest => exact kept rest first

/-- No other result can stand between two that compare equal. -/
def DuplicatesTogether (results : List SearchResult) : Prop :=
  ∀ first other second, [first, other, second].Subperm results → first.compareResults second = true →
    notAfter first other → notAfter other second → first.compareResults other = true

/-- No two results compare equal. -/
def NoDuplicates (results : List SearchResult) : Prop :=
  results.Pairwise fun left right => left.compareResults right = false

theorem noDuplicates_iff {results : List SearchResult} : NoDuplicates results ↔ (results.map resultKey).Nodup := by
  rw [List.Nodup, List.pairwise_map, NoDuplicates]
  simp only [← Bool.not_eq_true, compareResults_iff, ne_eq]

/-- The same three results, in another order of the list. -/
theorem DuplicatesTogether.perm {results others : List SearchResult} (together : DuplicatesTogether results)
    (same : others.Perm results) : DuplicatesTogether others :=
  fun first other second within => together first other second (within.trans same.subperm)

section Together

variable {results : List SearchResult} {first other second : SearchResult}

/-- Nothing that lacks an address or a number has the name of one of two duplicates. -/
theorem DuplicatesTogether.not_missing (together : DuplicatesTogether results) (both : [first, second].Subperm results)
    (equal : first.compareResults second = true) (member : other ∈ results) : ¬Missing other first := by
  intro missing
  have different : first.resultKey ≠ other.resultKey := by
    intro same
    obtain ⟨places, numbers⟩ := sorted_of_resultKey same
    rcases missing.2 with ⟨absent, present⟩ | ⟨-, absent, present⟩
    · exact present (places.trans absent)
    · exact present (numbers.trans absent)
  rw [compareResults_iff] at equal
  have apart : other ∉ [first, second] := by
    simp only [List.mem_cons, List.not_mem_nil, or_false, not_or]
    exact ⟨fun same => different (same ▸ rfl), fun same => different (same ▸ equal)⟩
  have three := List.cons_subperm_of_not_mem_of_mem apart member both
  obtain ⟨left, right⟩ := missing.unordered
  rcases notAfter_total other second with least | least
  · have same := together first other second ((List.Perm.swap other first [second]).subperm.trans three)
      ((compareResults_iff _ _).mpr equal) right least
    exact different ((compareResults_iff _ _).mp same)
  · have order : [second, other, first].Perm [other, first, second] :=
      (List.reverse_perm [first, other, second]).trans (List.Perm.swap other first [second])
    have same := together second other first (order.subperm.trans three)
      ((compareResults_iff _ _).mpr equal.symm) least left
    exact different (equal.trans ((compareResults_iff _ _).mp same))

/-- The sort keeps two sides apart when all of one come before all of the other. -/
theorem sort_sides {low : SearchResult → Prop}
    (apart : ∀ left ∈ results, ∀ right ∈ results, low left → ¬low right → comesFirst left right) :
    (sortResultsList results).Pairwise fun left right => low right → low left := by
  apply insertionSort_pairwise
  · exact fun first second third one two below => one (two below)
  · intro left inLeft right inRight before below
    by_contra above
    exact Bool.false_ne_true (before.symm.trans (apart right inRight left inLeft below above).1)
  · intro left inLeft right inRight after below
    by_contra above
    exact after (apart left inLeft right inRight below above).2

/-- No other result stands between two that compare equal after the sort. -/
theorem DuplicatesTogether.sorted (together : DuplicatesTogether results)
    (within : [first, other, second].Sublist (sortResultsList results)) (equal : first.compareResults second = true) :
    first.compareResults other = true := by
  have members : ∀ {result : SearchResult}, result ∈ [first, other, second] → result ∈ results :=
    fun member => (List.mem_insertionSort _).mp (within.subset member)
  have three : [first, other, second].Subperm results := within.subperm.trans (List.perm_insertionSort _ results).subperm
  have both : [first, second].Subperm results :=
    (((List.Sublist.refl [second]).cons other).cons_cons first).subperm.trans three
  by_contra different
  have outside : comesFirst other first ∨ comesFirst second other := by
    by_contra inside
    obtain ⟨left, right⟩ := not_or.mp inside
    exact different (together first other second three equal left right)
  rcases outside with early | late
  · have sides : (sortResultsList results).Pairwise fun left right =>
        comesFirst right first → comesFirst left first := by
      apply sort_sides
      intro left _ right member low high
      rcases comesFirst_cases low right with found | found | missing
      · exact found
      · exact absurd found high
      · exact absurd missing.2 (together.not_missing both equal member)
    have ordered := List.pairwise_cons.mp (sides.sublist within)
    exact not_comesFirst_self first (ordered.1 other List.mem_cons_self early)
  · have swapped : [second, first].Subperm results := (List.Perm.swap first second []).subperm.trans both
    have sides : (sortResultsList results).Pairwise fun left right =>
        ¬comesFirst second right → ¬comesFirst second left := by
      apply sort_sides
      intro left member right _ low high
      rcases comesFirst_cases (not_not.mp high) left with found | found | missing
      · exact absurd found low
      · exact found
      · exact absurd missing.1 (together.not_missing swapped (compareResults_comm.mp equal) member)
    have ordered := List.pairwise_cons.mp (List.pairwise_cons.mp (sides.sublist within)).2
    exact ordered.1 second List.mem_cons_self (not_comesFirst_self second) late

end Together

/-- In order of the display names, and for one name in the order of the list, no other
result stands between two of one friend. -/
def FriendsTogether (results : List SearchResult) : Prop :=
  ∀ first other second friend, first.friend = some friend → second.friend = some friend →
    first.sortName ≤ other.sortName → other.sortName ≤ second.sortName →
    (∀ name, ([first, other, second].filter fun result => result.sortName = name).Sublist results) →
    other.friend = some friend

/-- No friend has two results. -/
def OnePerFriend (results : List SearchResult) : Prop :=
  results.Pairwise fun left right => ∀ friend, left.friend = some friend → right.friend ≠ some friend

theorem onePerFriend_iff {results : List SearchResult} :
    OnePerFriend results ↔ ∀ friend, ¬[FriendKey.friend friend, .friend friend].Sublist (results.map friendKey) := by
  rw [OnePerFriend, List.pairwise_iff_forall_sublist]
  constructor
  · intro apart friend twice
    obtain ⟨pair, within, keys⟩ := List.sublist_map_iff.mp twice
    obtain ⟨left, right, rfl⟩ : ∃ left right, pair = [left, right] := by
      apply List.length_eq_two.mp
      rw [← @List.length_map _ _ pair friendKey, ← keys]
      rfl
    simp only [List.map_cons, List.map_nil, List.cons.injEq, and_true] at keys
    exact apart within friend ((friendKey_eq_friend_iff left friend).mp keys.1.symm)
      ((friendKey_eq_friend_iff right friend).mp keys.2.symm)
  · intro single left right within friend one two
    apply single friend
    have mapped := within.map friendKey
    rwa [List.map_cons, List.map_cons, List.map_nil, (friendKey_eq_friend_iff left friend).mpr one,
      (friendKey_eq_friend_iff right friend).mpr two] at mapped

theorem friendBefore_iff (left right : SearchResult) :
    compareStringItems right.getDisplayName left.getDisplayName ≠ .lt ↔ left.sortName ≤ right.sortName :=
  (not_congr (compareStringItems_lt_iff _ _)).trans not_lt

theorem sortByFriend_pairwise (results : List SearchResult) :
    (sortResultsByFriendInList results).Pairwise fun left right => left.sortName ≤ right.sortName := by
  apply insertionSort_pairwise
  · exact fun _ _ _ => le_trans
  · exact fun left _ right _ => (friendBefore_iff left right).mp
  · exact fun left _ right _ after => le_of_not_ge fun above => after ((friendBefore_iff left right).mpr above)

/-- Results of one display name keep the order of the list. -/
theorem filter_sortByFriend (results : List SearchResult) (name : Text) :
    (sortResultsByFriendInList results).filter (fun result => result.sortName = name) =
      results.filter fun result => result.sortName = name := by
  apply filter_insertionSort
  intro left right one two
  rw [friendBefore_iff, of_decide_eq_true one, of_decide_eq_true two]

/-- Three results stand in a row exactly when their names do, those of one name in the
order of the list. -/
theorem sublist_sortByFriend_iff {results : List SearchResult} {first other second : SearchResult} :
    [first, other, second].Sublist (sortResultsByFriendInList results) ↔
      first.sortName ≤ other.sortName ∧ other.sortName ≤ second.sortName ∧
        ∀ name, ([first, other, second].filter fun result => result.sortName = name).Sublist results := by
  constructor
  · intro within
    have rising := (sortByFriend_pairwise results).sublist within
    obtain ⟨one, later⟩ := List.pairwise_cons.mp rising
    refine ⟨one other List.mem_cons_self, (List.pairwise_cons.mp later).1 second List.mem_cons_self, ?_⟩
    intro name
    have selected := within.filter fun result => result.sortName = name
    rw [filter_sortByFriend] at selected
    exact selected.trans List.filter_sublist
  · rintro ⟨one, two, names⟩
    apply sublist_of_keys (sortByFriend_pairwise results)
    · simp [one, two, one.trans two]
    · intro name
      have selected := (names name).filter fun result => result.sortName = name
      rw [List.filter_filter, ← filter_sortByFriend] at selected
      simp only [Bool.and_self] at selected
      exact selected.trans List.filter_sublist

namespace MagicSearch

variable (engine : SearchEngine) (search : MagicSearch) (sourceFlags : Nat)

/-- The results that are left after processing. -/
def keptResults (aggregation : MagicSearchAggregation) (results : List SearchResult) : List SearchResult :=
  (search.processResults engine results sourceFlags aggregation).1.cacheResult

theorem keptResults_keys (results : List SearchResult) :
    (search.keptResults engine sourceFlags .none results).map resultKey =
      ((sortResultsList results).map resultKey).destutter (· ≠ ·) :=
  unique_map compareResults_iff _

theorem keptResults_friendKeys (results : List SearchResult) :
    (search.keptResults engine sourceFlags .friend results).map friendKey =
      ((sortResultsByFriendInList results).map friendKey).destutter (· ≠ ·) :=
  unique_map friendAlike_iff _

variable {results : List SearchResult}

theorem noDuplicates_keptResults_iff : NoDuplicates (search.keptResults engine sourceFlags .none results) ↔
    ∀ first other second, [first, other, second].Sublist (sortResultsList results) →
      first.compareResults second = true → first.compareResults other = true := by
  rw [noDuplicates_iff, List.nodup_iff_sublist, keptResults_keys]
  simp only [twice_destutter_map_iff, compareResults_iff]
  constructor
  · intro single first other second within equal
    by_contra different
    exact single first.resultKey ⟨first, other, second, within, rfl, Ne.symm different, equal.symm⟩
  · rintro together key ⟨first, other, second, within, rfl, different, equal⟩
    exact different (together first other second within equal.symm).symm

theorem onePerFriend_keptResults_iff : OnePerFriend (search.keptResults engine sourceFlags .friend results) ↔
    FriendsTogether results := by
  rw [onePerFriend_iff, keptResults_friendKeys]
  simp only [twice_destutter_map_iff, ne_eq, friendKey_eq_friend_iff, sublist_sortByFriend_iff]
  constructor
  · intro single first other second friend one two above below ranks
    by_contra different
    exact single friend ⟨first, other, second, ⟨above, below, ranks⟩, one, different, two⟩
  · rintro together friend ⟨first, other, second, ⟨above, below, ranks⟩, one, different, two⟩
    exact different (together first other second friend one two above below ranks)

/-- Every key is still there. -/
theorem mem_keptResults_keys (key : ResultKey) :
    key ∈ (search.keptResults engine sourceFlags .none results).map resultKey ↔ key ∈ results.map resultKey := by
  rw [keptResults_keys, mem_destutter]
  exact ((List.perm_insertionSort _ results).map resultKey).mem_iff

theorem noDuplicates_keptResults (together : DuplicatesTogether results) :
    NoDuplicates (search.keptResults engine sourceFlags .none results) :=
  (noDuplicates_keptResults_iff engine search sourceFlags).mpr fun _ _ _ within => together.sorted within

/-- Without aggregation no two of the results that are left compare equal, and they are the
same in whatever order the results came, exactly when no other result can stand between
two that compare equal. With aggregation no friend is left twice, exactly when no other
result stands between two of one friend. -/
theorem search_results_distinct_iff (results : List SearchResult) :
    ((NoDuplicates (search.keptResults engine sourceFlags .none results) ∧
      ∀ other : List SearchResult, other.Perm results →
        ((search.keptResults engine sourceFlags .none other).map resultKey).Perm
          ((search.keptResults engine sourceFlags .none results).map resultKey)) ↔ DuplicatesTogether results) ∧
    (OnePerFriend (search.keptResults engine sourceFlags .friend results) ↔ FriendsTogether results) := by
  refine ⟨?_, onePerFriend_keptResults_iff engine search sourceFlags⟩
  constructor
  · rintro ⟨single, rearranged⟩ first other second within equal one two
    obtain ⟨order, three, sorted⟩ := sort_triple one two
    obtain ⟨front, same, found⟩ := within
    obtain ⟨rest, whole⟩ := found.exists_perm_append
    have given : (rest ++ order).Perm results :=
      (List.perm_append_comm.trans ((three.trans same.symm).append_right rest)).trans whole.symm
    have kept : NoDuplicates (search.keptResults engine sourceFlags .none (rest ++ order)) := by
      rw [noDuplicates_iff] at single ⊢
      exact (rearranged (rest ++ order) given).nodup_iff.mpr single
    apply (noDuplicates_keptResults_iff engine search sourceFlags).mp kept first other second _ equal
    rw [← sorted]
    exact insertionSort_sublist_append rest order
  · intro together
    have single := noDuplicates_keptResults engine search sourceFlags together
    refine ⟨single, ?_⟩
    intro other same
    have others := noDuplicates_keptResults engine search sourceFlags (together.perm same)
    rw [noDuplicates_iff] at single others
    apply (List.perm_ext_iff_of_nodup others single).mpr
    intro key
    rw [mem_keptResults_keys, mem_keptResults_keys]
    exact (same.map resultKey).mem_iff

/-- The friends Alice and Carl have the same address, and Bob stands between them. The
results of two friends of one name stay as they were found. -/
theorem shared_address_left_twice :
    let engine : SearchEngine := { isMatchingRegex := fun _ _ => true }
    let result (id : Nat) (name : Text) (user : String) : SearchResult :=
      ⟨1000, some { username := some user, domain := "example.org" }, [], some { id, name }, 1, 0⟩
    let john : Text := ['J', 'o', 'h', 'n']
    let shared := [result 1 ['A', 'l', 'i', 'c', 'e'] "home", result 2 ['B', 'o', 'b'] "bob",
      result 3 ['C', 'a', 'r', 'l'] "home"]
    let turns := [result 1 john "one", result 2 john "two", result 1 john "three"]
    ¬NoDuplicates (keptResults engine {} 1 .none shared) ∧ ¬OnePerFriend (keptResults engine {} 1 .friend turns) := by
  constructor
  · rw [noDuplicates_iff, keptResults_keys]
    decide
  · rw [onePerFriend_iff, keptResults_friendKeys]
    intro single
    refine single { id := 1, name := ['J', 'o', 'h', 'n'] } ?_
    decide

end MagicSearch

end Liblinphone
