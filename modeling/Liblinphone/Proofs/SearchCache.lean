import Liblinphone.MagicSearch
import Liblinphone.Library.Search
import Mathlib.Data.List.Chain

/-! When a search that filters the results of the last one finds what a new search
finds. What is compared are the address, the phone number and the friend of the
results. A new search lists what the friends give, and then the first of the other
addresses of each kind that no friend has. -/

namespace Liblinphone

open Library

namespace SearchResult

variable {engine : SearchEngine} {result other : SearchResult}

/-- What tells results apart. -/
def triple (result : SearchResult) : Option Address × Text × Option SearchFriend :=
  (result.address, result.phoneNumber, result.friend)

@[simp] theorem triple_create (weight : UInt32) (address : Option Address) (phoneNumber : Text)
    (friend : Option SearchFriend) (flags : Nat) :
    (SearchResult.create engine weight address phoneNumber friend flags).triple = (address, phoneNumber, friend) := by
  unfold SearchResult.create updateCapabilities
  split
  next known same =>
    obtain rfl : friend = some known := same
    rfl
  next => rfl

theorem triple_updateCapabilities (result : SearchResult) : (result.updateCapabilities engine).triple = result.triple := by
  unfold updateCapabilities
  split
  next => rfl
  next => rfl

/-- A result stays what it is when one like it is merged into it. -/
theorem triple_merge (same : result.triple = other.triple) : (result.merge engine other).triple = result.triple := by
  simp only [triple, Prod.mk.injEq] at same
  obtain ⟨-, phone, friend⟩ := same
  unfold merge
  rw [triple_updateCapabilities]
  simp only [triple, Prod.mk.injEq, true_and, ← phone, ← friend]
  exact ⟨ite_self _, ite_self _⟩

end SearchResult

/-- Results that are not told apart where the list is cleaned of doubles. -/
def alikeTriples (left right : Option Address × Text × Option SearchFriend) : Bool :=
  match left.1, right.1 with
  | some address, some other => address.weakEqual other
  | none, none => left.2.1 == right.2.1
  | _, _ => false

theorem compareResults_alike {left right : SearchResult} (same : left.compareResults right = true) :
    alikeTriples left.triple right.triple = true := by
  unfold SearchResult.compareResults SearchResult.sameAddress at same
  simp only [Bool.and_eq_true] at same
  obtain ⟨⟨addresses, -⟩, phones⟩ := same
  unfold alikeTriples SearchResult.triple
  cases first : left.address with
  | none =>
    cases second : right.address with
    | none => simpa using phones
    | some other => simp [first, second] at addresses
  | some address =>
    cases second : right.address with
    | none => simp [first, second] at addresses
    | some other => simpa [first, second] using addresses

section Cleaning

variable {results : List SearchResult} {alike : SearchResult → SearchResult → Bool}

theorem mem_uniqueAfter {kept : SearchResult}
    (equal : ∀ left ∈ kept :: results, ∀ right ∈ kept :: results, alike left right = true → left.triple = right.triple)
    (wanted : Option Address × Text × Option SearchFriend) :
    wanted ∈ (uniqueAfter alike kept results).map SearchResult.triple ↔
      wanted ∈ (kept :: results).map SearchResult.triple := by
  induction results generalizing kept with
  | nil => rfl
  | cons next rest ih =>
    unfold uniqueAfter
    split
    next same =>
      have double := equal kept (by simp) next (by simp) same
      rw [ih fun left first right second => equal left (by simp at first ⊢; tauto) right (by simp at second ⊢; tauto)]
      simp [double]
    next =>
      rw [List.map_cons, List.mem_cons, ih fun left first right second =>
        equal left (List.mem_cons_of_mem _ first) right (List.mem_cons_of_mem _ second)]
      simp

theorem mem_unique
    (equal : ∀ left ∈ results, ∀ right ∈ results, alike left right = true → left.triple = right.triple)
    (wanted : Option Address × Text × Option SearchFriend) :
    wanted ∈ (unique alike results).map SearchResult.triple ↔ wanted ∈ results.map SearchResult.triple := by
  cases results with
  | nil => rfl
  | cons first rest => exact mem_uniqueAfter equal wanted

/-- Sorting and cleaning lose nothing when results that are alike are the same. -/
theorem mem_sorted (equal : ∀ left ∈ results.map SearchResult.triple, ∀ right ∈ results.map SearchResult.triple,
    alikeTriples left right = true → left = right) (wanted : Option Address × Text × Option SearchFriend) :
    wanted ∈ (uniqueItemsList (sortResultsList results)).map SearchResult.triple ↔
      wanted ∈ results.map SearchResult.triple := by
  have sorted : (sortResultsList results).Perm results := List.perm_insertionSort _ results
  unfold uniqueItemsList
  rw [mem_unique, (sorted.map SearchResult.triple).mem_iff]
  intro left first right second same
  exact equal _ (List.mem_map_of_mem (sorted.mem_iff.mp first)) _ (List.mem_map_of_mem (sorted.mem_iff.mp second))
    (compareResults_alike same)

theorem length_uniqueAfter (kept : SearchResult) : (uniqueAfter alike kept results).length ≤ results.length + 1 := by
  induction results generalizing kept with
  | nil => exact le_refl _
  | cons next rest ih =>
    unfold uniqueAfter
    split
    next =>
      have shorter := ih kept
      rw [List.length_cons]
      omega
    next => exact Nat.succ_le_succ (ih next)

theorem length_sorted (results : List SearchResult) :
    (uniqueItemsList (sortResultsList results)).length ≤ results.length := by
  rw [← (show (sortResultsList results).length = results.length from List.length_insertionSort _ results)]
  unfold uniqueItemsList
  cases sortResultsList results with
  | nil => exact Nat.le_refl _
  | cons first rest => exact length_uniqueAfter first

end Cleaning

section Adding

variable {engine : SearchEngine} {results resultsList : List SearchResult}

theorem map_updateFirst_kept {hits : SearchResult → Bool} {change : SearchResult → SearchResult}
    (kept : ∀ result ∈ resultsList, hits result = true → (change result).triple = result.triple) :
    (updateFirst hits change resultsList).map SearchResult.triple = resultsList.map SearchResult.triple := by
  induction resultsList with
  | nil => rfl
  | cons first rest ih =>
    unfold updateFirst
    split
    next hit => rw [List.map_cons, List.map_cons, kept first List.mem_cons_self hit]
    next =>
      rw [List.map_cons, List.map_cons, ih fun result member => kept result (List.mem_cons_of_mem _ member)]

/-- Two results whose addresses are weakly equal are the same. -/
def SameWhereWeak (first second : List (Option Address × Text × Option SearchFriend)) : Prop :=
  ∀ left ∈ first, ∀ right ∈ second, ∀ address other, left.1 = some address → right.1 = some other →
    address.weakEqual other = true → left = right

theorem any_weakEqual {list : List SearchResult} {address : Address} :
    (list.any fun other => other.address.any fun old => address.weakEqual old) = true ↔
      ∃ result ∈ list, ∃ old, result.address = some old ∧ address.weakEqual old = true := by
  rw [List.any_eq_true]
  constructor
  · rintro ⟨result, member, hit⟩
    cases reached : result.address with
    | none => simp [reached] at hit
    | some old => exact ⟨result, member, old, reached, by simpa [reached] using hit⟩
  · rintro ⟨result, member, old, held, equal⟩
    exact ⟨result, member, by simp [held, equal]⟩

/-- A result is appended, or merged into the first one with its address. -/
theorem addResult_cases (existing kept : List SearchResult) (result : SearchResult) :
    addResult engine (existing, kept) result = (existing, kept ++ [result]) ∨
      ∃ address, result.address = some address ∧
        (existing.any fun other => other.address.any fun old => address.weakEqual old) = true ∧
        addResult engine (existing, kept) result =
          (updateFirst (fun other => other.address.any fun old => address.weakEqual old)
            (fun other => other.merge engine result) existing, kept) := by
  unfold addResult
  cases held : result.address with
  | none => exact .inl rfl
  | some address =>
    cases present : existing.any fun other => other.address.any fun old => address.weakEqual old with
    | false => exact .inl (by simp only [present, Bool.false_eq_true, if_false])
    | true => exact .inr ⟨address, rfl, present, by simp only [present, if_true]⟩

theorem foldl_addResult {existing kept : List SearchResult}
    (equal : SameWhereWeak (existing.map SearchResult.triple) (results.map SearchResult.triple)) :
    (results.foldl (addResult engine) (existing, kept)).1.map SearchResult.triple = existing.map SearchResult.triple ∧
      ∀ wanted, (wanted ∈ existing.map SearchResult.triple ∨
          wanted ∈ (results.foldl (addResult engine) (existing, kept)).2.map SearchResult.triple) ↔
        wanted ∈ existing.map SearchResult.triple ∨ wanted ∈ kept.map SearchResult.triple ∨
          wanted ∈ results.map SearchResult.triple := by
  induction results generalizing existing kept with
  | nil => simp
  | cons result rest ih =>
    rw [List.foldl_cons]
    have later : SameWhereWeak (existing.map SearchResult.triple) (rest.map SearchResult.triple) :=
      fun left first right second => equal left first right (List.mem_cons_of_mem _ second)
    rcases addResult_cases existing kept result with appended | ⟨address, held, present, merging⟩
    · obtain ⟨first, second⟩ := @ih existing (kept ++ [result]) later
      rw [appended]
      refine ⟨first, ?_⟩
      intro wanted
      rw [second wanted]
      simp [or_assoc, eq_comm]
    · have same : ∀ other ∈ existing, (other.address.any fun old => address.weakEqual old) = true →
          other.triple = result.triple := by
        intro other member hit
        cases reached : other.address with
        | none => simp [reached] at hit
        | some old =>
          exact equal _ (List.mem_map_of_mem member) _ List.mem_cons_self old address reached held
            (Address.weakEqual_symm (by simpa [reached] using hit))
      have merged : (updateFirst (fun other => other.address.any fun old => address.weakEqual old)
          (fun other => other.merge engine result) existing).map SearchResult.triple =
          existing.map SearchResult.triple :=
        map_updateFirst_kept fun other member hit => SearchResult.triple_merge (same other member hit)
      have found : result.triple ∈ existing.map SearchResult.triple := by
        obtain ⟨other, member, hit⟩ := List.any_eq_true.mp present
        rw [← same other member hit]
        exact List.mem_map_of_mem member
      obtain ⟨first, second⟩ := @ih _ kept (by rw [merged]; exact later)
      rw [merged] at first second
      rw [merging]
      refine ⟨first, ?_⟩
      intro wanted
      rw [second wanted, List.map_cons, List.mem_cons]
      constructor
      · rintro (before | before | after)
        · exact .inl before
        · exact .inr (.inl before)
        · exact .inr (.inr (.inr after))
      · rintro (before | before | rfl | after)
        · exact .inl before
        · exact .inr (.inl before)
        · exact .inl found
        · exact .inr (.inr after)

/-- Results that are merged into others are the same as these, so that all are found in
the list. -/
theorem mem_addResults (equal : SameWhereWeak (resultsList.map SearchResult.triple) (results.map SearchResult.triple))
    (wanted : Option Address × Text × Option SearchFriend) :
    wanted ∈ (addResultsToResultsList engine results resultsList).map SearchResult.triple ↔
      wanted ∈ resultsList.map SearchResult.triple ∨ wanted ∈ results.map SearchResult.triple := by
  obtain ⟨first, second⟩ := @foldl_addResult engine results resultsList [] equal
  unfold addResultsToResultsList
  dsimp only
  rw [List.map_append, List.mem_append, first, second wanted]
  simp

/-- New results are appended when there is none with their addresses. -/
theorem addResults_apart (apart : ∀ result ∈ results, ∀ address, result.address = some address →
    findAddress resultsList address = false) :
    addResultsToResultsList engine results resultsList = resultsList ++ results := by
  have general : ∀ kept, results.foldl (addResult engine) (resultsList, kept) = (resultsList, kept ++ results) := by
    induction results with
    | nil => simp
    | cons result rest ih =>
      intro kept
      have once : addResult engine (resultsList, kept) result = (resultsList, kept ++ [result]) := by
        rcases addResult_cases resultsList kept result with appended | ⟨address, held, present, -⟩
        · exact appended
        · obtain ⟨other, member, old, oldHeld, weak⟩ := any_weakEqual.mp present
          have absent := apart result List.mem_cons_self address held
          rw [findAddress, List.any_eq_false] at absent
          exact absurd (by simp [oldHeld, Address.weakEqual_symm weak]) (absent other member)
      rw [List.foldl_cons, once, ih (fun other member => apart other (List.mem_cons_of_mem _ member)), List.append_assoc,
        List.singleton_append]
  unfold addResultsToResultsList
  rw [general []]
  rfl

theorem length_updateFirst (hits : SearchResult → Bool) (change : SearchResult → SearchResult) :
    (updateFirst hits change results).length = results.length := by
  induction results with
  | nil => rfl
  | cons first rest ih =>
    unfold updateFirst
    split
    next => rfl
    next => rw [List.length_cons, List.length_cons, ih]

theorem length_addResults :
    (addResultsToResultsList engine results resultsList).length ≤ resultsList.length + results.length := by
  have general : ∀ existing kept, (results.foldl (addResult engine) (existing, kept)).1.length +
      (results.foldl (addResult engine) (existing, kept)).2.length ≤ existing.length + kept.length + results.length := by
    induction results with
    | nil => simp
    | cons result rest ih =>
      intro existing kept
      rw [List.foldl_cons, List.length_cons]
      rcases addResult_cases existing kept result with appended | ⟨address, -, -, merging⟩
      · rw [appended]
        have later := ih existing (kept ++ [result])
        rw [List.length_append, List.length_singleton] at later
        omega
      · rw [merging]
        have later := ih (updateFirst (fun other => other.address.any fun old => address.weakEqual old)
          (fun other => other.merge engine result) existing) kept
        rw [length_updateFirst] at later
        omega
  have whole := general resultsList []
  unfold addResultsToResultsList
  dsimp only
  rw [List.length_append]
  simpa using whole

end Adding

namespace MagicSearch

variable {engine : SearchEngine} {search : MagicSearch} {withDomain : Text}

section Friends

variable {friend : SearchFriend}

/-- What a friend gives does not depend on the source that is noted for it. -/
theorem searchInFriend_flags (flags others : Nat) :
    (search.searchInFriend engine friend withDomain flags).map SearchResult.triple =
      (search.searchInFriend engine friend withDomain others).map SearchResult.triple := by
  have addresses : ∀ weight address,
      (search.searchFriendAddress engine friend withDomain flags weight address).map SearchResult.triple =
        (search.searchFriendAddress engine friend withDomain others weight address).map SearchResult.triple := by
    intro weight address
    simp only [searchFriendAddress, apply_ite (Option.map SearchResult.triple), Option.map_some, Option.map_none,
      SearchResult.triple_create]
  have numbers : ∀ weight number,
      (search.searchFriendNumber engine friend withDomain flags weight number).map SearchResult.triple =
        (search.searchFriendNumber engine friend withDomain others weight number).map SearchResult.triple := by
    intro weight number
    unfold searchFriendNumber
    dsimp only
    cases engine.presenceContact friend ((engine.normalizePhoneNumber number).getD number) with
    | none =>
      simp only [apply_ite (Option.map SearchResult.triple), Option.map_some, Option.map_none, SearchResult.triple_create]
    | some contact =>
      dsimp only
      cases engine.create contact with
      | none => simp only [ite_self]
      | some address =>
        simp only [apply_ite (Option.map SearchResult.triple), Option.map_some, Option.map_none,
          SearchResult.triple_create]
  have folded : ∀ weight (list : List Text) (left right : List SearchResult),
      left.map SearchResult.triple = right.map SearchResult.triple →
      (list.foldl (search.addFriendNumber engine friend withDomain flags weight) left).map SearchResult.triple =
        (list.foldl (search.addFriendNumber engine friend withDomain others weight) right).map SearchResult.triple := by
    intro weight list
    induction list with
    | nil => exact fun left right same => same
    | cons number rest ih =>
      intro left right same
      rw [List.foldl_cons, List.foldl_cons]
      apply ih
      have phones : ∀ results : List SearchResult, (results.any fun result => result.phoneNumber == number) =
          (results.map SearchResult.triple).any fun triple => triple.2.1 == number := by
        intro results
        rw [List.any_map]
        rfl
      unfold addFriendNumber
      rw [phones, phones, same]
      split
      next => exact same
      next =>
        have added := numbers weight number
        rw [List.map_append, List.map_append, same, ← Option.toList_map, ← Option.toList_map, added]
  have addressed : ∀ weight,
      (friend.addresses.filterMap (search.searchFriendAddress engine friend withDomain flags weight)).map
          SearchResult.triple =
        (friend.addresses.filterMap (search.searchFriendAddress engine friend withDomain others weight)).map
          SearchResult.triple := by
    intro weight
    rw [List.map_filterMap, List.map_filterMap]
    exact congrFun (congrArg List.filterMap (funext (addresses weight))) friend.addresses
  have found := folded (search.friendWeight engine friend) friend.phoneNumbers _ _
    (addressed (search.friendWeight engine friend))
  unfold searchInFriend
  dsimp only
  rw [← List.isEmpty_map (f := SearchResult.triple), found, List.isEmpty_map]
  split
  next => simp
  next => exact found

/-- The results of a friend name it. -/
theorem friend_of_mem {flags : Nat} {result : SearchResult}
    (member : result ∈ search.searchInFriend engine friend withDomain flags) : result.friend = some friend := by
  have created : ∀ weight address phoneNumber,
      (SearchResult.create engine weight address phoneNumber (some friend) flags).friend = some friend := fun _ _ _ => rfl
  have addresses : ∀ weight address found,
      search.searchFriendAddress engine friend withDomain flags weight address = some found →
      found.friend = some friend := by
    intro weight address found reached
    simp only [searchFriendAddress, Option.ite_none_right_eq_some, Option.some.injEq] at reached
    obtain ⟨-, rfl⟩ := reached
    exact created _ _ _
  have numbers : ∀ weight number found,
      search.searchFriendNumber engine friend withDomain flags weight number = some found →
      found.friend = some friend := by
    intro weight number found reached
    unfold searchFriendNumber at reached
    cases presence : engine.presenceContact friend ((engine.normalizePhoneNumber number).getD number) with
    | none =>
      simp only [presence, Option.ite_none_right_eq_some, Option.some.injEq] at reached
      obtain ⟨-, rfl⟩ := reached
      exact created _ _ _
    | some contact =>
      simp only [presence, Option.ite_none_left_eq_some] at reached
      obtain ⟨-, reached⟩ := reached
      cases reading : engine.create contact with
      | none => simp [reading] at reached
      | some address =>
        simp only [reading, Option.ite_none_right_eq_some, Option.some.injEq] at reached
        obtain ⟨-, -, rfl⟩ := reached
        exact created _ _ _
  have folded : ∀ weight (list : List Text) (results : List SearchResult),
      (∀ found ∈ results, found.friend = some friend) →
      ∀ found ∈ list.foldl (search.addFriendNumber engine friend withDomain flags weight) results,
        found.friend = some friend := by
    intro weight list
    induction list with
    | nil => exact fun results all => all
    | cons number rest ih =>
      intro results all
      rw [List.foldl_cons]
      apply ih
      unfold addFriendNumber
      split
      next => exact all
      next =>
        intro found inside
        rcases List.mem_append.mp inside with before | added
        · exact all found before
        · exact numbers weight number found (Option.mem_toList.mp added)
  unfold searchInFriend at member
  dsimp only at member
  split at member
  next =>
    obtain rfl := List.mem_singleton.mp member
    exact created _ _ _
  next =>
    apply folded _ _ _ _ result member
    intro found inside
    obtain ⟨address, -, reached⟩ := List.mem_filterMap.mp inside
    exact addresses _ address found reached

end Friends

section Others

variable {results current base : List SearchResult} {candidates : List (Bool × Address)} {source : Nat}

def addressesOf (triples : List (Option Address × Text × Option SearchFriend)) : List Address := triples.filterMap Prod.fst

/-- What an address without a friend gives. -/
def bare (address : Address) : Option Address × Text × Option SearchFriend := (some address, [], none)

theorem addressesOf_bare (addresses : List Address) : addressesOf (addresses.map bare) = addresses := by
  unfold addressesOf
  rw [List.filterMap_map]
  exact List.filterMap_some

theorem findAddress_eq (results : List SearchResult) (address : Address) :
    findAddress results address = (addressesOf (results.map SearchResult.triple)).any address.weakEqual := by
  induction results with
  | nil => rfl
  | cons result rest ih =>
    have split : findAddress (result :: rest) address =
        ((result.address.any fun other => other.weakEqual address) || findAddress rest address) := rfl
    rw [split, ih]
    cases held : result.address with
    | none => simp [addressesOf, SearchResult.triple, held]
    | some other => simp [addressesOf, SearchResult.triple, held, Address.weakEqual_comm other]

/-- The filter finds an address that has no friend. -/
def hits (engine : SearchEngine) (search : MagicSearch) (withDomain : Text) (address : Address) : Bool :=
  search.searchInAddress engine (some address) withDomain > search.minWeight

/-- The addresses that are collected are the first hits that are not in the results. -/
theorem foldl_collectAddress (plain : ∀ candidate ∈ candidates, candidate.1 = false) :
    (candidates.foldl (search.collectAddress engine withDomain source current) results).map SearchResult.triple =
      results.map SearchResult.triple ++
        (pickFirst (hits engine search withDomain) Address.weakEqual
          (addressesOf (current.map SearchResult.triple) ++ addressesOf (results.map SearchResult.triple))
          (candidates.map Prod.snd)).map bare := by
  induction candidates generalizing results with
  | nil => simp [pickFirst]
  | cons candidate rest ih =>
    obtain ⟨keep, address⟩ := candidate
    obtain rfl : keep = false := plain (keep, address) List.mem_cons_self
    have later : ∀ candidate ∈ rest, candidate.1 = false := fun other member => plain other (List.mem_cons_of_mem _ member)
    have condition : (hits engine search withDomain address &&
        !(addressesOf (current.map SearchResult.triple) ++ addressesOf (results.map SearchResult.triple)).any
          address.weakEqual) =
        ((false || decide (search.searchInAddress engine (some address) withDomain > search.minWeight)) &&
          !findAddress current address && !findAddress results address) := by
      rw [List.any_append, ← findAddress_eq, ← findAddress_eq, hits, Bool.false_or, Bool.not_or, Bool.and_assoc]
    rw [List.foldl_cons, List.map_cons, pickFirst, condition]
    unfold collectAddress
    dsimp only
    simp only [Bool.false_eq_true, if_false]
    split
    next =>
      have collected : addressesOf ((results ++ [SearchResult.create engine
          (search.searchInAddress engine (some address) withDomain) (some address) [] none source]).map
            SearchResult.triple) = addressesOf (results.map SearchResult.triple) ++ [address] := by
        simp [addressesOf]
      have onward := @ih (results ++ [SearchResult.create engine
        (search.searchInAddress engine (some address) withDomain) (some address) [] none source]) later
      rw [collected] at onward
      refine onward.trans ?_
      simp [bare]
    next => exact ih later

/-- The results are those of a base, followed by the first hits of some addresses. -/
def Lists (engine : SearchEngine) (search : MagicSearch) (withDomain : Text)
    (base : List (Option Address × Text × Option SearchFriend)) (addresses : List Address) (results : List SearchResult) :
    Prop :=
  results.map SearchResult.triple =
    base ++ (pickFirst (hits engine search withDomain) Address.weakEqual (addressesOf base) addresses).map bare

theorem Lists.collect {base : List (Option Address × Text × Option SearchFriend)} {addresses : List Address}
    (lists : Lists engine search withDomain base addresses current) (flag : Bool) (source : Nat)
    (plain : ∀ candidate ∈ candidates, candidate.1 = false) :
    Lists engine search withDomain base (addresses ++ if flag then candidates.map Prod.snd else [])
      (if flag then addResultsToResultsList engine
        (search.collectAddresses engine withDomain source candidates current) current else current) := by
  cases flag with
  | false => simpa using lists
  | true =>
    simp only [if_true]
    have known : addressesOf (current.map SearchResult.triple) = addressesOf base ++
        pickFirst (hits engine search withDomain) Address.weakEqual (addressesOf base) addresses := by
      rw [lists, addressesOf, List.filterMap_append]
      exact congrArg (addressesOf base ++ ·) (addressesOf_bare _)
    have collected := @foldl_collectAddress engine search withDomain [] current candidates source plain
    have nothing : addressesOf (([] : List SearchResult).map SearchResult.triple) = [] := rfl
    rw [nothing, List.append_nil, List.map_nil, List.nil_append] at collected
    have apart : ∀ result ∈ search.collectAddresses engine withDomain source candidates current, ∀ address,
        result.address = some address → findAddress current address = false := by
      intro result member address held
      have inside : result.triple ∈ (search.collectAddresses engine withDomain source candidates current).map
        SearchResult.triple := List.mem_map_of_mem member
      rw [collectAddresses, collected] at inside
      obtain ⟨picked, among, same⟩ := List.mem_map.mp inside
      obtain rfl : picked = address := by
        have equal := congrArg Prod.fst same
        exact Option.some.inj (equal.trans held)
      rw [findAddress_eq]
      exact pickFirst_unseen among
    unfold Lists
    rw [addResults_apart apart, List.map_append, collectAddresses, collected, known, lists, pickFirst_append,
      List.map_append, List.append_assoc]

end Others

section Fresh

variable (engine : SearchEngine) (sources : SearchSources) (withDomain : Text) (sourceFlags : Nat) (search : MagicSearch)

/-- The friends that the sources of a search name. -/
def friendsSearched : List SearchFriend :=
  if hasSource sourceFlags MagicSearchSource.friends || hasSource sourceFlags MagicSearchSource.favoriteFriends then
    searchedFriends sources !hasSource sourceFlags MagicSearchSource.friends
  else []

/-- The other addresses that the sources of a search name, in their order. -/
def otherAddresses : List Address :=
  (if hasSource sourceFlags MagicSearchSource.callLogs then sources.callLogs.filterMap callLogAddress else []) ++
    (if hasSource sourceFlags MagicSearchSource.chatRooms then
      sources.chatRooms.flatMap fun
        | .flexisipChat participants => participants
        | .basic peerAddress => peerAddress.toList
    else []) ++
    (if hasSource sourceFlags MagicSearchSource.conferencesInfo then
      sources.conferencesInfo.flatMap fun info => info.organizer.toList ++ info.participants
    else [])

/-- What a friend gives. -/
def friendTriples (friend : SearchFriend) : List (Option Address × Text × Option SearchFriend) :=
  (search.searchInFriend engine friend withDomain (friendFlags friend)).map SearchResult.triple

def foundByFriends : List (Option Address × Text × Option SearchFriend) :=
  (friendsSearched sources sourceFlags).flatMap (friendTriples engine withDomain search)

/-- What a new search finds. -/
def newTriples : List (Option Address × Text × Option SearchFriend) :=
  foundByFriends engine sources withDomain sourceFlags search ++
    (pickFirst (hits engine search withDomain) Address.weakEqual
      (addressesOf (foundByFriends engine sources withDomain sourceFlags search))
      (otherAddresses sources sourceFlags)).map bare

theorem beginNewSearch_triples {filter : Text} (filled : filter ≠ []) :
    (search.beginNewSearch engine sources filter withDomain sourceFlags).map SearchResult.triple =
      newTriples engine sources withDomain sourceFlags search := by
  have plain : filter.isEmpty = false := by simpa using filled
  have logs : ∀ candidate ∈ callLogCandidates sources filter withDomain, candidate.1 = false := by
    simp [callLogCandidates, plain]
  have rooms : ∀ candidate ∈ chatRoomCandidates sources filter withDomain, candidate.1 = false := by
    intro candidate member
    obtain ⟨room, -, inside⟩ := List.mem_flatMap.mp member
    cases room with
    | flexisipChat participants =>
      obtain ⟨address, -, rfl⟩ := List.mem_map.mp inside
      simp [plain]
    | basic peerAddress =>
      obtain ⟨address, -, rfl⟩ := List.mem_map.mp inside
      exact plain
  have conferences : ∀ candidate ∈ conferenceCandidates sources filter withDomain, candidate.1 = false := by
    intro candidate member
    obtain ⟨address, -, rfl⟩ := List.mem_map.mp member
    simp [plain]
  have roomAddresses : (chatRoomCandidates sources filter withDomain).map Prod.snd = sources.chatRooms.flatMap fun
      | .flexisipChat participants => participants
      | .basic peerAddress => peerAddress.toList := by
    unfold chatRoomCandidates
    rw [List.map_flatMap]
    congr 1
    funext room
    cases room with
    | flexisipChat participants => simp
    | basic peerAddress => simp
  have logAddresses : (callLogCandidates sources filter withDomain).map Prod.snd =
      sources.callLogs.filterMap callLogAddress := by
    simp [callLogCandidates]
  have conferenceAddresses : (conferenceCandidates sources filter withDomain).map Prod.snd =
      sources.conferencesInfo.flatMap fun info => info.organizer.toList ++ info.participants := by
    simp [conferenceCandidates]
  have start : Lists engine search withDomain (foundByFriends engine sources withDomain sourceFlags search) []
      (if hasSource sourceFlags MagicSearchSource.friends || hasSource sourceFlags MagicSearchSource.favoriteFriends then
        addResultsToResultsList engine (search.getResultsFromFriends engine sources withDomain
          !hasSource sourceFlags MagicSearchSource.friends) [] else []) := by
    unfold Lists foundByFriends friendsSearched
    split
    next =>
      rw [addResults_apart (by simp [findAddress])]
      rw [pickFirst, List.map_nil, List.append_nil, List.nil_append, getResultsFromFriends, List.map_flatMap]
      rfl
    next => simp [pickFirst]
  have finished := ((start.collect (hasSource sourceFlags MagicSearchSource.callLogs) MagicSearchSource.callLogs
    logs).collect (hasSource sourceFlags MagicSearchSource.chatRooms) MagicSearchSource.chatRooms rooms).collect
    (hasSource sourceFlags MagicSearchSource.conferencesInfo) MagicSearchSource.conferencesInfo conferences
  rw [roomAddresses, logAddresses, conferenceAddresses, List.nil_append] at finished
  exact finished

end Fresh

section Conditions

variable (engine : SearchEngine) (sources : SearchSources) (withDomain : Text) (sourceFlags : Nat)

/-- No two friends give the same address, or the same phone number without an address. -/
def Unambiguous (search : MagicSearch) : Prop :=
  ∀ left ∈ foundByFriends engine sources withDomain sourceFlags search,
    ∀ right ∈ foundByFriends engine sources withDomain sourceFlags search, alikeTriples left right = true → left = right

/-- A friend has the address. -/
def known (search : MagicSearch) (address : Address) : Bool :=
  (addressesOf (foundByFriends engine sources withDomain sourceFlags search)).any address.weakEqual

/-- What the second search finds, the first one finds in the same way: the friends with
an address or a phone number, the other addresses where no friend has them, and among
weakly equal addresses the same first one. -/
structure Narrows (first second : MagicSearch) : Prop where
  friends : ∀ friend ∈ friendsSearched sources sourceFlags, friendTriples engine withDomain second friend ≠ [] →
    ∃ triple ∈ friendTriples engine withDomain first friend, triple.1.isSome = true ∨ triple.2.1 ≠ []
  covered : ∀ address ∈ otherAddresses sources sourceFlags, hits engine second withDomain address = true →
    known engine sources withDomain sourceFlags second address = false →
    hits engine first withDomain address = true ∧ known engine sources withDomain sourceFlags first address = false
  unknown : ∀ address ∈ otherAddresses sources sourceFlags, hits engine first withDomain address = true →
    hits engine second withDomain address = true → known engine sources withDomain sourceFlags first address = false →
    known engine sources withDomain sourceFlags second address = false
  alike : ∀ address ∈ otherAddresses sources sourceFlags, ∀ other ∈ otherAddresses sources sourceFlags,
    address.weakEqual other = true → hits engine first withDomain other = true →
    hits engine second withDomain address = true → hits engine second withDomain other = true

/-- What is searched again for a result of the cache. -/
def again (search : MagicSearch) (cached : SearchResult) : List (Option Address × Text × Option SearchFriend) :=
  match cached.friend with
  | some friend => friendTriples engine withDomain search friend
  | none => [cached.triple]

/-- The limit cuts nothing off, neither of a new search nor of what the cache gives again. -/
def AllShown (search : MagicSearch) (filter : Text) : Prop :=
  search.limitedSearch = true →
    (newTriples engine sources withDomain sourceFlags (search.setupRegex filter)).length ≤ search.searchLimit ∧
      (search.filter.length ≤ filter.length →
        (search.cacheResult.flatMap (again engine withDomain (search.setupRegex filter))).length ≤ search.searchLimit)

end Conditions

section Continuing

variable {sources : SearchSources} {sourceFlags : Nat} {first second : MagicSearch} {cache : List SearchResult}

theorem friend_of_triple {friend : SearchFriend} {triple : Option Address × Text × Option SearchFriend}
    (member : triple ∈ friendTriples engine withDomain search friend) : triple.2.2 = some friend := by
  obtain ⟨result, inside, rfl⟩ := List.mem_map.mp member
  exact friend_of_mem inside

/-- Results with a friend come from that friend. -/
theorem mem_newTriples_friend {triple : Option Address × Text × Option SearchFriend} {friend : SearchFriend}
    (named : triple.2.2 = some friend) : triple ∈ newTriples engine sources withDomain sourceFlags search ↔
      friend ∈ friendsSearched sources sourceFlags ∧ triple ∈ friendTriples engine withDomain search friend := by
  unfold newTriples foundByFriends
  rw [List.mem_append, List.mem_flatMap]
  constructor
  · rintro (⟨other, searched, member⟩ | others)
    · obtain rfl : other = friend := Option.some.inj ((friend_of_triple member).symm.trans named)
      exact ⟨searched, member⟩
    · obtain ⟨address, -, rfl⟩ := List.mem_map.mp others
      cases named
  · rintro ⟨searched, member⟩
    exact .inl ⟨friend, searched, member⟩

/-- Results without a friend are other addresses. -/
theorem mem_newTriples_other {triple : Option Address × Text × Option SearchFriend} (named : triple.2.2 = none) :
    triple ∈ newTriples engine sources withDomain sourceFlags search ↔
      ∃ address ∈ pickFirst (hits engine search withDomain) Address.weakEqual
        (addressesOf (foundByFriends engine sources withDomain sourceFlags search)) (otherAddresses sources sourceFlags),
        triple = bare address := by
  unfold newTriples
  rw [List.mem_append]
  constructor
  · rintro (friends | others)
    · obtain ⟨friend, -, member⟩ := List.mem_flatMap.mp friends
      rw [friend_of_triple member] at named
      cases named
    · obtain ⟨address, member, rfl⟩ := List.mem_map.mp others
      exact ⟨address, member, rfl⟩
  · rintro ⟨address, member, rfl⟩
    exact .inr (List.mem_map_of_mem member)

/-- Of the other addresses, the second search finds what it finds in the first. -/
theorem Narrows.others (narrows : Narrows engine sources withDomain sourceFlags first second) {address : Address} :
    address ∈ pickFirst (hits engine second withDomain) Address.weakEqual
        (addressesOf (foundByFriends engine sources withDomain sourceFlags second)) (otherAddresses sources sourceFlags) ↔
      address ∈ pickFirst (hits engine first withDomain) Address.weakEqual
        (addressesOf (foundByFriends engine sources withDomain sourceFlags first)) (otherAddresses sources sourceFlags) ∧
        hits engine second withDomain address = true :=
  mem_pickFirst_again (fun _ _ _ => Address.weakEqual_trans) narrows.covered narrows.unknown narrows.alike

/-- A friend of the results that were gone through. -/
def Visited (done : List SearchResult) (friend : SearchFriend) : Prop :=
  ∃ result ∈ done, (result.address.isSome || !result.phoneNumber.isEmpty) = true ∧ result.friend = some friend

/-- A result without a friend that was gone through and kept. -/
def Kept (engine : SearchEngine) (withDomain : Text) (second : MagicSearch) (done : List SearchResult)
    (triple : Option Address × Text × Option SearchFriend) : Prop :=
  ∃ result ∈ done, result.friend = none ∧ triple = result.triple ∧
    ∃ address, result.address = some address ∧ hits engine second withDomain address = true

/-- Where the loop over the cache is. -/
structure Continued (engine : SearchEngine) (withDomain : Text) (second : MagicSearch) (done : List SearchResult)
    (state : List SearchResult × Option SearchFriend) : Prop where
  found : ∀ triple, triple ∈ state.1.map SearchResult.triple ↔
    (∃ friend, Visited done friend ∧ triple ∈ friendTriples engine withDomain second friend) ∨
      Kept engine withDomain second done triple
  previous : ∀ friend, state.2 = some friend → Visited done friend

theorem Visited.append {done : List SearchResult} {result : SearchResult} {friend : SearchFriend} :
    Visited (done ++ [result]) friend ↔ Visited done friend ∨
      ((result.address.isSome || !result.phoneNumber.isEmpty) = true ∧ result.friend = some friend) := by
  unfold Visited
  simp [or_and_right, exists_or]

theorem Kept.append {done : List SearchResult} {result : SearchResult}
    {triple : Option Address × Text × Option SearchFriend} :
    Kept engine withDomain second (done ++ [result]) triple ↔ Kept engine withDomain second done triple ∨
      (result.friend = none ∧ triple = result.triple ∧
        ∃ address, result.address = some address ∧ hits engine second withDomain address = true) := by
  unfold Kept
  simp [or_and_right, exists_or]

/-- A result that adds nothing to what was gone through. -/
theorem Continued.skip {done : List SearchResult} {state : List SearchResult × Option SearchFriend} {result : SearchResult}
    (continued : Continued engine withDomain second done state)
    (seen : ∀ friend, (result.address.isSome || !result.phoneNumber.isEmpty) = true → result.friend = some friend →
      Visited done friend)
    (missed : result.friend = none → ∀ address, result.address = some address →
      hits engine second withDomain address = false) :
    Continued engine withDomain second (done ++ [result]) state := by
  refine ⟨?_, fun friend last => Visited.append.mpr (.inl (continued.previous friend last))⟩
  intro triple
  rw [continued.found, Kept.append]
  constructor
  · rintro (⟨friend, visited, member⟩ | kept)
    · exact .inl ⟨friend, Visited.append.mpr (.inl visited), member⟩
    · exact .inr (.inl kept)
  · rintro (⟨friend, visited, member⟩ | kept | ⟨alone, -, address, held, hit⟩)
    · rcases Visited.append.mp visited with before | ⟨usable, named⟩
      · exact .inl ⟨friend, before, member⟩
      · exact .inl ⟨friend, seen friend usable named, member⟩
    · exact .inr kept
    · rw [missed alone address held] at hit
      cases hit

/-- The results of a friend that are found again are the same. -/
theorem Continued.sameWhereWeak {done : List SearchResult} {state : List SearchResult × Option SearchFriend}
    (held : ∀ triple, triple ∈ cache.map SearchResult.triple ↔
      triple ∈ newTriples engine sources withDomain sourceFlags first)
    (narrows : Narrows engine sources withDomain sourceFlags first second)
    (clear : Unambiguous engine sources withDomain sourceFlags second) (among : ∀ result ∈ done, result ∈ cache)
    (continued : Continued engine withDomain second done state) {friend : SearchFriend}
    (searched : friend ∈ friendsSearched sources sourceFlags) :
    SameWhereWeak (state.1.map SearchResult.triple) (friendTriples engine withDomain second friend) := by
  intro left before right after address other leftHeld rightHeld weak
  have rightFound : right ∈ foundByFriends engine sources withDomain sourceFlags second :=
    List.mem_flatMap.mpr ⟨friend, searched, after⟩
  rcases (continued.found left).mp before with ⟨earlier, ⟨result, inside, -, named⟩, member⟩ | ⟨result, inside, alone, rfl,
    address', held', hit⟩
  · have cached := (held result.triple).mp (List.mem_map_of_mem (among result inside))
    have known := ((mem_newTriples_friend named).mp cached).1
    apply clear left (List.mem_flatMap.mpr ⟨earlier, known, member⟩) right rightFound
    simp [alikeTriples, leftHeld, rightHeld, weak]
  · have cached := (held result.triple).mp (List.mem_map_of_mem (among result inside))
    obtain ⟨picked, chosen, same⟩ := (mem_newTriples_other alone).mp cached
    have equal : result.address = some picked := congrArg Prod.fst same
    obtain rfl : picked = address := Option.some.inj (equal.symm.trans leftHeld)
    obtain rfl : address' = picked := Option.some.inj (held'.symm.trans leftHeld)
    have again := narrows.others.mpr ⟨chosen, hit⟩
    have unseen := pickFirst_unseen again
    rw [List.any_eq_false] at unseen
    exact absurd weak (unseen other (List.mem_filterMap.mpr ⟨right, rightFound, rightHeld⟩))

theorem Continued.step {done : List SearchResult} {state : List SearchResult × Option SearchFriend} {result : SearchResult}
    (held : ∀ triple, triple ∈ cache.map SearchResult.triple ↔
      triple ∈ newTriples engine sources withDomain sourceFlags first)
    (narrows : Narrows engine sources withDomain sourceFlags first second)
    (clear : Unambiguous engine sources withDomain sourceFlags second) (among : ∀ result ∈ done, result ∈ cache)
    (continued : Continued engine withDomain second done state) (inside : result ∈ cache) :
    Continued engine withDomain second (done ++ [result]) (second.continueWith engine withDomain .none state result) := by
  unfold continueWith
  split
  next usable =>
    cases named : result.friend with
    | some friend =>
      dsimp only
      split
      next last =>
        apply continued.skip
        · intro other _ same
          obtain rfl : friend = other := Option.some.inj (named.symm.trans same)
          exact continued.previous friend last
        · intro alone
          rw [named] at alone
          cases alone
      next =>
        have cached := (held result.triple).mp (List.mem_map_of_mem inside)
        have searched := ((mem_newTriples_friend named).mp cached).1
        have flags : (second.searchInFriend engine friend withDomain result.sourceFlags).map SearchResult.triple =
          friendTriples engine withDomain second friend := searchInFriend_flags _ _
        have added : ∀ triple, triple ∈ (if (second.searchInFriend engine friend withDomain result.sourceFlags).isEmpty
            then state.1 else addResultsToResultsList engine
              (second.searchInFriend engine friend withDomain result.sourceFlags) state.1).map SearchResult.triple ↔
            triple ∈ state.1.map SearchResult.triple ∨ triple ∈ friendTriples engine withDomain second friend := by
          intro triple
          rw [← flags]
          split
          next none =>
            rw [List.isEmpty_iff.mp none]
            simp
          next =>
            apply mem_addResults
            rw [flags]
            exact continued.sameWhereWeak held narrows clear among searched
        refine ⟨?_, ?_⟩
        · intro triple
          refine (added triple).trans ?_
          rw [continued.found, Kept.append]
          constructor
          · rintro ((⟨other, visited, member⟩ | kept) | here)
            · exact .inl ⟨other, Visited.append.mpr (.inl visited), member⟩
            · exact .inr (.inl kept)
            · exact .inl ⟨friend, Visited.append.mpr (.inr ⟨usable, named⟩), here⟩
          · rintro (⟨other, visited, member⟩ | kept | ⟨alone, -⟩)
            · rcases Visited.append.mp visited with before | ⟨-, same⟩
              · exact .inl (.inl ⟨other, before, member⟩)
              · obtain rfl : friend = other := Option.some.inj (named.symm.trans same)
                exact .inr member
            · exact .inl (.inr kept)
            · rw [named] at alone
              cases alone
        · intro other same
          obtain rfl : friend = other := Option.some.inj same
          exact Visited.append.mpr (.inr ⟨usable, named⟩)
    | none =>
      dsimp only
      split
      next hit =>
        refine ⟨?_, fun friend last => Visited.append.mpr (.inl (continued.previous friend last))⟩
        intro triple
        have reached : ∃ address, result.address = some address ∧ hits engine second withDomain address = true := by
          cases address : result.address with
          | none =>
            rw [address] at hit
            exact absurd hit (UInt32.lt_irrefl second.minWeight)
          | some found =>
            rw [address] at hit
            exact ⟨found, rfl, by simpa [hits] using hit⟩
        rw [List.map_append, List.mem_append, continued.found, Kept.append]
        constructor
        · rintro ((⟨friend, visited, member⟩ | kept) | single)
          · exact .inl ⟨friend, Visited.append.mpr (.inl visited), member⟩
          · exact .inr (.inl kept)
          · exact .inr (.inr ⟨named, by simpa using single, reached⟩)
        · rintro (⟨friend, visited, member⟩ | kept | ⟨-, same, -⟩)
          · rcases Visited.append.mp visited with before | ⟨-, other⟩
            · exact .inl (.inl ⟨friend, before, member⟩)
            · rw [named] at other
              cases other
          · exact .inl (.inr kept)
          · exact .inr (by simp [same])
      next missed =>
        apply continued.skip
        · intro friend _ same
          rw [named] at same
          cases same
        · intro _ address same
          rw [same] at missed
          simpa [hits] using missed
  next unusable =>
    apply continued.skip
    · intro friend usable
      exact absurd usable unusable
    · intro _ address same
      simp [same] at unusable

theorem length_continueWith (state : List SearchResult × Option SearchFriend) (result : SearchResult) :
    (second.continueWith engine withDomain .none state result).1.length ≤
      state.1.length + (again engine withDomain second result).length := by
  unfold continueWith again
  split
  next =>
    cases named : result.friend with
    | none =>
      dsimp only
      split
      next => simp
      next => simp
    | some friend =>
      dsimp only
      split
      next => exact Nat.le_add_right _ _
      next =>
        split
        next => exact Nat.le_add_right _ _
        next =>
          have sizes := congrArg List.length
            (@searchInFriend_flags engine second withDomain friend result.sourceFlags (friendFlags friend))
          rw [List.length_map, List.length_map] at sizes
          have added := @length_addResults engine
            (second.searchInFriend engine friend withDomain result.sourceFlags) state.1
          rw [friendTriples, List.length_map, ← sizes]
          exact added
  next => exact Nat.le_add_right _ _

/-- What is left of the cache is what a new search finds. -/
theorem continueSearch_triples
    (held : ∀ triple, triple ∈ cache.map SearchResult.triple ↔
      triple ∈ newTriples engine sources withDomain sourceFlags first)
    (narrows : Narrows engine sources withDomain sourceFlags first second)
    (clear : Unambiguous engine sources withDomain sourceFlags second) (cached : second.cacheResult = cache)
    (triple : Option Address × Text × Option SearchFriend) :
    triple ∈ (second.continueSearch engine withDomain .none).map SearchResult.triple ↔
      triple ∈ newTriples engine sources withDomain sourceFlags second := by
  have finished := foldl_prefix_induction (second.continueWith engine withDomain .none) ([], none) cache
    (fun done state => (∀ result ∈ done, result ∈ cache) ∧ Continued engine withDomain second done state)
    ⟨by simp, ⟨by simp [Visited, Kept], by simp⟩⟩
    (fun done result state inside both => by
      refine ⟨?_, both.2.step held narrows clear both.1 inside⟩
      intro other member
      rcases List.mem_append.mp member with before | single
      · exact both.1 other before
      · rw [List.mem_singleton.mp single]
        exact inside)
  unfold continueSearch
  rw [cached, finished.2.found]
  cases named : triple.2.2 with
  | some friend =>
    rw [mem_newTriples_friend named]
    constructor
    · rintro (⟨other, ⟨result, inside, -, same⟩, member⟩ | ⟨result, -, alone, rfl, -⟩)
      · obtain rfl : other = friend := Option.some.inj ((friend_of_triple member).symm.trans named)
        have known := (held result.triple).mp (List.mem_map_of_mem inside)
        exact ⟨((mem_newTriples_friend same).mp known).1, member⟩
      · exact absurd (alone.symm.trans named) (by simp)
    · rintro ⟨searched, member⟩
      obtain ⟨earlier, found, usable⟩ := narrows.friends friend searched (List.ne_nil_of_mem member)
      have known := (mem_newTriples_friend (friend_of_triple found)).mpr ⟨searched, found⟩
      obtain ⟨result, inside, rfl⟩ := List.mem_map.mp ((held earlier).mpr known)
      refine .inl ⟨friend, ⟨result, inside, ?_, friend_of_triple found⟩, member⟩
      rcases usable with addressed | numbered
      · simp [show result.address.isSome = true from addressed]
      · simp [show result.phoneNumber ≠ [] from numbered]
  | none =>
    rw [mem_newTriples_other named]
    constructor
    · rintro (⟨friend, -, member⟩ | ⟨result, inside, alone, rfl, address, reached, hit⟩)
      · rw [friend_of_triple member] at named
        cases named
      · have known := (held result.triple).mp (List.mem_map_of_mem inside)
        obtain ⟨picked, chosen, same⟩ := (mem_newTriples_other alone).mp known
        have equal : result.address = some picked := congrArg Prod.fst same
        obtain rfl : picked = address := Option.some.inj (equal.symm.trans reached)
        exact ⟨picked, narrows.others.mpr ⟨chosen, hit⟩, same⟩
    · rintro ⟨address, chosen, rfl⟩
      obtain ⟨before, hit⟩ := narrows.others.mp chosen
      have known := (mem_newTriples_other (show (bare address).2.2 = none from rfl)).mpr ⟨address, before, rfl⟩
      obtain ⟨result, inside, same⟩ := List.mem_map.mp ((held (bare address)).mpr known)
      exact .inr ⟨result, inside, congrArg (fun triple => triple.2.2) same, same.symm, address,
        congrArg Prod.fst same, hit⟩

theorem length_continueSearch : (second.continueSearch engine withDomain .none).length ≤
    (second.cacheResult.flatMap (again engine withDomain second)).length := by
  have general : ∀ (cache : List SearchResult) (state : List SearchResult × Option SearchFriend),
      (cache.foldl (second.continueWith engine withDomain .none) state).1.length ≤
        state.1.length + (cache.flatMap (again engine withDomain second)).length := by
    intro cache
    induction cache with
    | nil => simp
    | cons result rest ih =>
      intro state
      have once : (second.continueWith engine withDomain .none state result).1.length ≤
          state.1.length + (again engine withDomain second result).length := length_continueWith state result
      have later := ih (second.continueWith engine withDomain .none state result)
      rw [List.foldl_cons, List.flatMap_cons, List.length_append]
      omega
  have whole := general second.cacheResult ([], none)
  rw [List.length_nil, Nat.zero_add] at whole
  exact whole

/-- Nothing that a new search finds is told apart only by its order. -/
theorem newTriples_distinct (clear : Unambiguous engine sources withDomain sourceFlags search) :
    ∀ left ∈ newTriples engine sources withDomain sourceFlags search,
      ∀ right ∈ newTriples engine sources withDomain sourceFlags search, alikeTriples left right = true → left = right := by
  have crossed : ∀ left ∈ foundByFriends engine sources withDomain sourceFlags search, ∀ address ∈
      pickFirst (hits engine search withDomain) Address.weakEqual
        (addressesOf (foundByFriends engine sources withDomain sourceFlags search)) (otherAddresses sources sourceFlags),
      ∀ other, left.1 = some other → other.weakEqual address = false := by
    intro left member address chosen other reached
    have unseen := pickFirst_unseen chosen
    rw [List.any_eq_false] at unseen
    rw [Address.weakEqual_comm]
    simpa using unseen other (List.mem_filterMap.mpr ⟨left, member, reached⟩)
  intro left first right second alike
  rcases List.mem_append.mp first with leftFriend | leftOther
  · rcases List.mem_append.mp second with rightFriend | rightOther
    · exact clear left leftFriend right rightFriend alike
    · obtain ⟨address, chosen, rfl⟩ := List.mem_map.mp rightOther
      cases reached : left.1 with
      | none => simp [alikeTriples, bare, reached] at alike
      | some other => simp [alikeTriples, bare, reached, crossed left leftFriend address chosen other reached] at alike
  · obtain ⟨address, chosen, rfl⟩ := List.mem_map.mp leftOther
    rcases List.mem_append.mp second with rightFriend | rightOther
    · cases reached : right.1 with
      | none => simp [alikeTriples, bare, reached] at alike
      | some other =>
        have apart := crossed right rightFriend address chosen other reached
        rw [Address.weakEqual_comm] at apart
        simp [alikeTriples, bare, reached, apart] at alike
    · obtain ⟨other, picked, rfl⟩ := List.mem_map.mp rightOther
      rw [pickFirst_unique Address.weakEqual_comm chosen picked alike]

end Continuing

section Calls

variable (engine : SearchEngine) (sources : SearchSources) (withDomain : Text) (sourceFlags : Nat)

/-- Two lists of results have the same addresses, phone numbers and friends. -/
def SameResults (left right : List SearchResult) : Prop :=
  ∀ triple, triple ∈ left.map SearchResult.triple ↔ triple ∈ right.map SearchResult.triple

/-- One search after the other, for the same domain and sources. -/
def searches (search : MagicSearch) (filters : List Text) : MagicSearch :=
  filters.foldl (fun search filter =>
    (search.getContactListFromFilter engine sources filter withDomain sourceFlags .none).1) search

/-- The cache can be used for the next filter, or it is not. -/
def Keeps (search : MagicSearch) (filter next : Text) : Prop :=
  filter.length > next.length ∨
    newTriples engine sources withDomain sourceFlags (search.setupRegex filter) = [] ∨
    Narrows engine sources withDomain sourceFlags (search.setupRegex filter) (search.setupRegex next)

variable {engine sources withDomain sourceFlags} {search : MagicSearch} {filter : Text}

/-- The results of the last search depend on what is in the cache only. -/
theorem getLastSearch_same {left right : MagicSearch}
    (uncut : left.limitedSearch = true → left.cacheResult.length ≤ left.searchLimit)
    (alsoUncut : right.limitedSearch = true → right.cacheResult.length ≤ right.searchLimit)
    (filters : left.filter = right.filter) (same : SameResults left.cacheResult right.cacheResult) :
    SameResults (left.getLastSearch engine sourceFlags) (right.getLastSearch engine sourceFlags) := by
  have whole : ∀ search : MagicSearch, (search.limitedSearch = true → search.cacheResult.length ≤ search.searchLimit) →
      (if search.limitedSearch = true then search.cacheResult.take search.searchLimit else search.cacheResult) =
        search.cacheResult := by
    intro search fits
    split
    next limited => exact List.take_of_length_le (fits limited)
    next => rfl
  have found : ∀ address, findAddress left.cacheResult address = findAddress right.cacheResult address := by
    intro address
    rw [findAddress_eq, findAddress_eq, Bool.eq_iff_iff, List.any_eq_true, List.any_eq_true]
    unfold addressesOf
    simp only [List.mem_filterMap, same _]
  unfold getLastSearch
  simp only [whole left uncut, whole right alsoUncut, filters, found]
  split
  next =>
    split
    next =>
      split
      next => exact same
      next =>
        intro triple
        rw [List.map_append, List.map_append, List.mem_append, List.mem_append, same triple]
    next => exact same
  next => exact same

/-- How a call for a filter finds its results: from the sources, or from a cache that
holds what another search found. -/
def Served (engine : SearchEngine) (sources : SearchSources) (withDomain : Text) (sourceFlags : Nat) (search : MagicSearch)
    (filter : Text) : Prop :=
  search.filter.length > filter.length ∨ search.cacheResult = [] ∨
    ∃ first, (∀ triple, triple ∈ search.cacheResult.map SearchResult.triple ↔
        triple ∈ newTriples engine sources withDomain sourceFlags first) ∧
      Narrows engine sources withDomain sourceFlags first (search.setupRegex filter)

/-- A call takes its results from the sources, or from the cache. -/
theorem call_cases (manual : search.autoResetCache = false) (filled : filter ≠ []) :
    ∃ results, (search.getContactListFromFilter engine sources filter withDomain sourceFlags .none).1.cacheResult =
        uniqueItemsList (sortResultsList results) ∧
      (results.map SearchResult.triple = newTriples engine sources withDomain sourceFlags (search.setupRegex filter) ∨
        search.filter.length ≤ filter.length ∧ search.cacheResult ≠ [] ∧
          results = (search.setupRegex filter).continueSearch engine withDomain .none) := by
  have plain : filter.isEmpty = false := by simpa using filled
  refine ⟨_, rfl, ?_⟩
  rw [manual, Bool.false_or]
  by_cases shorter : search.filter.length > filter.length
  · simp only [shorter, decide_true, if_true]
    exact .inl (beginNewSearch_triples engine sources withDomain sourceFlags
      (search.resetSearchCache.setupRegex filter) filled)
  · simp only [shorter, decide_false, Bool.false_eq_true, if_false]
    by_cases empty : search.cacheResult = []
    · have cleared : (search.setupRegex filter).cacheResult = [] := empty
      simp only [cleared, List.isEmpty_nil, Bool.not_true, Bool.false_and, Bool.false_eq_true, if_false]
      exact .inl (beginNewSearch_triples engine sources withDomain sourceFlags (search.setupRegex filter) filled)
    · have present : (search.setupRegex filter).cacheResult.isEmpty = false := List.isEmpty_eq_false_iff.mpr empty
      simp only [present, plain, Bool.not_false, Bool.and_true, if_true]
      exact .inr ⟨Nat.le_of_not_lt shorter, empty, trivial⟩

/-- After a call the cache holds what a new search finds. -/
theorem call_cache (manual : search.autoResetCache = false) (filled : filter ≠ [])
    (clear : Unambiguous engine sources withDomain sourceFlags (search.setupRegex filter))
    (served : Served engine sources withDomain sourceFlags search filter)
    (triple : Option Address × Text × Option SearchFriend) :
    triple ∈ (search.getContactListFromFilter engine sources filter withDomain sourceFlags .none).1.cacheResult.map
        SearchResult.triple ↔
      triple ∈ newTriples engine sources withDomain sourceFlags (search.setupRegex filter) := by
  obtain ⟨results, cache, origin⟩ := @call_cases engine sources withDomain sourceFlags search filter manual filled
  have same : ∀ triple, triple ∈ results.map SearchResult.triple ↔
      triple ∈ newTriples engine sources withDomain sourceFlags (search.setupRegex filter) := by
    intro triple
    rcases origin with fresh | ⟨length, present, rfl⟩
    · rw [fresh]
    · rcases served with longer | none | ⟨first, held, narrows⟩
      · omega
      · exact absurd none present
      · exact continueSearch_triples held narrows clear rfl triple
  rw [cache, mem_sorted, same]
  intro left first right second
  exact newTriples_distinct clear left ((same left).mp first) right ((same right).mp second)

theorem call_length (manual : search.autoResetCache = false) (filled : filter ≠ [])
    (shown : AllShown engine sources withDomain sourceFlags search filter) (limited : search.limitedSearch = true) :
    (search.getContactListFromFilter engine sources filter withDomain sourceFlags .none).1.cacheResult.length ≤
      search.searchLimit := by
  obtain ⟨results, cache, origin⟩ := @call_cases engine sources withDomain sourceFlags search filter manual filled
  obtain ⟨fewNew, fewAgain⟩ := shown limited
  rw [cache]
  apply le_trans (length_sorted results)
  rcases origin with fresh | ⟨length, -, rfl⟩
  · rw [← fresh, List.length_map] at fewNew
    exact fewNew
  · exact le_trans length_continueSearch (fewAgain length)

/-- The cache of a search holds what a new search for its last filter finds. -/
def Remembers (engine : SearchEngine) (sources : SearchSources) (withDomain : Text) (sourceFlags : Nat)
    (base search : MagicSearch) (filter : Text) : Prop :=
  ∃ cache, search = { base.setupRegex filter with filter, cacheResult := cache } ∧
    ∀ triple, triple ∈ cache.map SearchResult.triple ↔
      triple ∈ newTriples engine sources withDomain sourceFlags (base.setupRegex filter)

variable {base : MagicSearch} {before : List Text} {next : Text}

section Queries

variable (regex : Text) (full : Bool) (last : Text) (cache : List SearchResult)

/-- What is found depends on the filter and not on the cache. -/
theorem foundByFriends_follows : foundByFriends engine sources withDomain sourceFlags (({ base with
      filterRegex := regex, filterApplyFullSipUri := full, filter := last, cacheResult := cache } : MagicSearch).setupRegex
        filter) = foundByFriends engine sources withDomain sourceFlags (base.setupRegex filter) := by
  have friends : ∀ friend, friendTriples engine withDomain (({ base with
      filterRegex := regex, filterApplyFullSipUri := full, filter := last, cacheResult := cache } : MagicSearch).setupRegex
        filter) friend = friendTriples engine withDomain (base.setupRegex filter) friend := fun _ => rfl
  unfold foundByFriends
  rw [funext friends]

theorem newTriples_follows : newTriples engine sources withDomain sourceFlags (({ base with
      filterRegex := regex, filterApplyFullSipUri := full, filter := last, cacheResult := cache } : MagicSearch).setupRegex
        filter) = newTriples engine sources withDomain sourceFlags (base.setupRegex filter) := by
  have others : ∀ address, hits engine (({ base with
      filterRegex := regex, filterApplyFullSipUri := full, filter := last, cacheResult := cache } : MagicSearch).setupRegex
        filter) withDomain address = hits engine (base.setupRegex filter) withDomain address := fun _ => rfl
  unfold newTriples
  rw [foundByFriends_follows, funext others]

theorem Narrows.follows {first : MagicSearch}
    (narrows : Narrows engine sources withDomain sourceFlags first (base.setupRegex filter)) :
    Narrows engine sources withDomain sourceFlags first (({ base with
      filterRegex := regex, filterApplyFullSipUri := full, filter := last, cacheResult := cache } : MagicSearch).setupRegex
        filter) := by
  have friends : friendTriples engine withDomain (({ base with
      filterRegex := regex, filterApplyFullSipUri := full, filter := last, cacheResult := cache } : MagicSearch).setupRegex
        filter) = friendTriples engine withDomain (base.setupRegex filter) := funext fun _ => rfl
  have others : hits engine (({ base with
      filterRegex := regex, filterApplyFullSipUri := full, filter := last, cacheResult := cache } : MagicSearch).setupRegex
        filter) withDomain = hits engine (base.setupRegex filter) withDomain := funext fun _ => rfl
  have addresses := @foundByFriends_follows engine sources withDomain sourceFlags filter base regex full last cache
  refine ⟨?_, ?_, ?_, ?_⟩
  · rw [friends]
    exact narrows.friends
  · unfold known
    rw [others, addresses]
    exact narrows.covered
  · unfold known
    rw [others, addresses]
    exact narrows.unknown
  · rw [others]
    exact narrows.alike

end Queries

theorem Remembers.served (remembers : Remembers engine sources withDomain sourceFlags base search filter)
    (keeps : Keeps engine sources withDomain sourceFlags base filter next) :
    Served engine sources withDomain sourceFlags search next := by
  obtain ⟨cache, rfl, held⟩ := remembers
  rcases keeps with longer | nothing | narrows
  · exact .inl longer
  · refine .inr (.inl ?_)
    cases cache with
    | nil => rfl
    | cons result rest =>
      have found := (held result.triple).mp (by simp)
      rw [nothing] at found
      cases found
  · exact .inr (.inr ⟨base.setupRegex filter, held, narrows.follows _ _ filter cache⟩)

/-- A search that differs from another one by its last filter and its cache only. -/
def Follows (base search : MagicSearch) : Prop :=
  ∃ filterRegex filterApplyFullSipUri filter cacheResult,
    search = { base with filterRegex, filterApplyFullSipUri, filter, cacheResult }

theorem Remembers.follows (remembers : Remembers engine sources withDomain sourceFlags base search filter) :
    Follows base search := by
  obtain ⟨cache, rfl, -⟩ := remembers
  exact ⟨_, _, _, _, rfl⟩

theorem call_state (search : MagicSearch) (filter : Text) :
    (search.getContactListFromFilter engine sources filter withDomain sourceFlags .none).1 =
      { search.setupRegex filter with
        filter
        cacheResult :=
          (search.getContactListFromFilter engine sources filter withDomain sourceFlags .none).1.cacheResult } := by
  unfold getContactListFromFilter processResults
  dsimp only
  by_cases reset : (search.autoResetCache || decide (search.filter.length > filter.length)) = true
  · rw [if_pos reset]
    rfl
  · rw [if_neg reset]

theorem Follows.call (follows : Follows base search) (manual : base.autoResetCache = false) (filled : filter ≠ [])
    (clear : Unambiguous engine sources withDomain sourceFlags (base.setupRegex filter))
    (served : Served engine sources withDomain sourceFlags search filter) :
    Remembers engine sources withDomain sourceFlags base
      (search.getContactListFromFilter engine sources filter withDomain sourceFlags .none).1 filter := by
  obtain ⟨regex, full, last, cache, rfl⟩ := follows
  have state := @call_state engine sources withDomain sourceFlags
    { base with filterRegex := regex, filterApplyFullSipUri := full, filter := last, cacheResult := cache } filter
  unfold Unambiguous at clear
  rw [← foundByFriends_follows regex full last cache] at clear
  have held := @call_cache engine sources withDomain sourceFlags
    { base with filterRegex := regex, filterApplyFullSipUri := full, filter := last, cacheResult := cache } filter manual
    filled clear served
  simp only [newTriples_follows] at held
  exact ⟨_, state, held⟩

/-- Each search of a run is served, and leaves a cache that its filter accounts for. -/
theorem searches_remember (manual : base.autoResetCache = false)
    (start : ∀ text ∈ (before ++ [filter]).head?, Served engine sources withDomain sourceFlags base text)
    (chain : (before ++ [filter]).IsChain (Keeps engine sources withDomain sourceFlags base))
    (each : ∀ text ∈ before ++ [filter], text ≠ [] ∧
      Unambiguous engine sources withDomain sourceFlags (base.setupRegex text)) :
    Follows base (searches engine sources withDomain sourceFlags base before) ∧
      Served engine sources withDomain sourceFlags (searches engine sources withDomain sourceFlags base before) filter := by
  induction before using List.reverseRecOn generalizing filter with
  | nil => exact ⟨⟨_, _, _, _, rfl⟩, start filter rfl⟩
  | append_singleton before last ih =>
    obtain ⟨filled, clear⟩ := each last (by simp)
    have earlier : (before ++ [last]).IsChain (Keeps engine sources withDomain sourceFlags base) := chain.left_of_append
    have keeps : Keeps engine sources withDomain sourceFlags base last filter := by
      rw [List.append_assoc, List.singleton_append] at chain
      exact (List.isChain_append_cons_cons.mp chain).2.1
    have begins : ∀ text ∈ (before ++ [last]).head?, Served engine sources withDomain sourceFlags base text := by
      intro text first
      apply start
      rw [List.head?_append, first]
      rfl
    obtain ⟨follows, served⟩ := ih begins earlier fun text member => each text (List.mem_append_left _ member)
    have remembers := follows.call manual filled clear served
    have unfolded : searches engine sources withDomain sourceFlags base (before ++ [last]) =
        ((searches engine sources withDomain sourceFlags base before).getContactListFromFilter engine sources last
          withDomain sourceFlags .none).1 := by
      unfold searches
      rw [List.foldl_append]
      rfl
    rw [unfolded]
    exact ⟨remembers.follows, remembers.served keeps⟩

end Calls

/-- Its regular expressions look for a text anywhere. -/
def plainEngine : SearchEngine where
  isMatchingRegex haystack pattern := (afterFirst ((pattern.drop 2).take (pattern.length - 4)) haystack).isSome

def alice : SearchFriend :=
  { id := 1, name := "Alice".toList, addresses := [{ username := some "alice", domain := "sip.example.org" }] }

def bob : SearchFriend :=
  { id := 2, name := "Bob".toList, addresses := [{ username := some "bob", domain := "sip.example.org" }] }

def friendsAliceAndBob : SearchSources :=
  { friendLists := [{ friends := [alice, bob] }]
    callLogs := [{ toAddress := some { username := some "alicia", domain := "sip.example.org" } }] }

end MagicSearch

end Liblinphone
