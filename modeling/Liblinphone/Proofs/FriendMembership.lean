import Liblinphone.Proofs.FriendIndexes

/-! Friends enter and leave a list. What enters is indexed as a whole. What leaves
erases the first entry of each of its URIs, so that the entries of the other friends
stay as long as those URIs are not shared. -/

namespace Liblinphone
namespace FriendList

variable {book : AddressBook}

section Importing

variable {list : FriendList} {id : FriendId}

theorem foldl_addToMap_frame (uris : List String) (list : FriendList) :
    (uris.foldl (addFriendToListMapIfNotInItYet id) list).friend = list.friend ∧
      (uris.foldl (addFriendToListMapIfNotInItYet id) list).friends = list.friends ∧
      (uris.foldl (addFriendToListMapIfNotInItYet id) list).friendsMapByRefKey = list.friendsMapByRefKey := by
  induction uris generalizing list with
  | nil => exact ⟨rfl, rfl, rfl⟩
  | cons uri rest ih =>
    obtain ⟨friend, friends, keys⟩ := ih (list.addFriendToListMapIfNotInItYet id uri)
    simp only [List.foldl_cons, friend, friends, keys, addToMap_friend, addToMap_friends, addToMap_refKeys, and_self]

theorem foldl_addToMap_entries (uris : List String) (listed : (list.friend id).inList = true)
    (nodup : list.friendsMapByUri.Nodup) :
    (uris.foldl (addFriendToListMapIfNotInItYet id) list).friendsMapByUri.Nodup ∧
      ∀ entry, entry ∈ (uris.foldl (addFriendToListMapIfNotInItYet id) list).friendsMapByUri ↔
        entry ∈ list.friendsMapByUri ∨ (entry.1 ≠ "" ∧ entry.1 ∈ uris ∧ entry.2 = id) := by
  induction uris generalizing list with
  | nil => simp [nodup]
  | cons uri rest ih =>
    obtain ⟨kept, entries⟩ := @ih (list.addFriendToListMapIfNotInItYet id uri) (by simpa using listed)
      (nodup_addToMap nodup)
    refine ⟨kept, ?_⟩
    intro entry
    rw [List.foldl_cons, entries, mem_addToMap listed, or_assoc, List.mem_cons, Prod.ext_iff]
    apply or_congr_right
    constructor
    · rintro (⟨named, same, owner⟩ | ⟨named, later, owner⟩)
      · exact ⟨same ▸ named, .inl same, owner⟩
      · exact ⟨named, .inr later, owner⟩
    · rintro ⟨named, same | later, owner⟩
      · exact .inl ⟨same ▸ named, same, owner⟩
      · exact .inr ⟨named, later, owner⟩

theorem insertRefKey_frame (list : FriendList) (id : FriendId) :
    (list.insertRefKey id).friend = list.friend ∧ (list.insertRefKey id).friends = list.friends ∧
      (list.insertRefKey id).friendsMapByUri = list.friendsMapByUri := by
  unfold insertRefKey
  dsimp only
  split
  next => exact ⟨rfl, rfl, rfl⟩
  next => exact ⟨rfl, rfl, rfl⟩

theorem findFriendByRefKey_none {key : String} :
    list.findFriendByRefKey key = none ↔ ∀ id, (key, id) ∉ list.friendsMapByRefKey := by
  simp only [findFriendByRefKey, Option.map_eq_none_iff, List.find?_eq_none, beq_iff_eq]
  constructor
  · intro missing id member
    exact missing (key, id) member rfl
  · rintro missing ⟨other, id⟩ member rfl
    exact missing id member

/-- A key that no entry has yet is added with its friend. -/
theorem insertRefKey_keys (absent : (list.friend id).refKey ≠ "" → ∀ other, ((list.friend id).refKey, other) ∉
      list.friendsMapByRefKey) :
    (list.insertRefKey id).friendsMapByRefKey = list.friendsMapByRefKey ++
      if (list.friend id).refKey = "" then [] else [((list.friend id).refKey, id)] := by
  unfold insertRefKey
  dsimp only
  by_cases keyless : (list.friend id).refKey = ""
  · simp [keyless]
  · have missing := findFriendByRefKey_none.mpr (absent keyless)
    simp [keyless, missing]

/-- The list once a friend was put at its front, before the indexes know it. -/
def entered (list : FriendList) (id : FriendId) : FriendList :=
  { list.changeFriend id fun lf => { lf with inList := true } with friends := id :: list.friends }

theorem urisOf_inList (lf : Friend) (listed : Bool) : urisOf book { lf with inList := listed } = urisOf book lf := rfl

theorem entered_friend (other : FriendId) : (entered list id).friend other =
    if other = id then { list.friend id with inList := true } else list.friend other :=
  @changeFriend_friend list id (fun lf => { lf with inList := true }) other

theorem entered_uris (other : FriendId) :
    urisOf book ((entered list id).friend other) = urisOf book (list.friend other) := by
  rw [entered_friend]
  split
  next same => rw [urisOf_inList, same]
  next => rfl

theorem entered_refKey (other : FriendId) : ((entered list id).friend other).refKey = (list.friend other).refKey := by
  rw [entered_friend]
  split
  next same => rw [same]
  next => rfl

/-- A friend that enters the list brings its URIs and its key into the indexes. -/
theorem entered_agree (agree : Agree book list) (outside : (list.friend id).inList = false)
    (settled : Settled book (list.friend id))
    (distinct : (list.friend id).refKey ≠ "" → ∀ other ∈ list.friends, (list.friend other).refKey ≠ (list.friend id).refKey) :
    Agree book ((entered list id).addAddressesAndNumbersIntoMaps book id) := by
  have absent : id ∉ list.friends := by
    intro member
    rw [agree.inList id member] at outside
    exact Bool.noConfusion outside
  have unknown : ((entered list id).friend id).refKey ≠ "" → ∀ other,
      (((entered list id).friend id).refKey, other) ∉ (entered list id).friendsMapByRefKey := by
    intro named other member
    rw [entered_refKey] at named member
    obtain ⟨inside, -, same⟩ := (agree.byRefKey _ _).mp member
    exact distinct named other inside same
  obtain ⟨friend, friends, byUri⟩ := insertRefKey_frame (entered list id) id
  have listed : (((entered list id).insertRefKey id).friend id).inList = true := by
    rw [friend, entered_friend, if_pos rfl]
  have before : ((entered list id).insertRefKey id).friendsMapByUri.Nodup := by
    rw [byUri]
    exact agree.uriNodup
  obtain ⟨keptFriend, keptFriends, keptKeys⟩ :=
    @foldl_addToMap_frame id (urisOf book ((entered list id).friend id)) ((entered list id).insertRefKey id)
  obtain ⟨nodup, entries⟩ := foldl_addToMap_entries (urisOf book ((entered list id).friend id)) listed before
  have keys := insertRefKey_keys unknown
  unfold addAddressesAndNumbersIntoMaps
  refine ⟨?_, ?_, ?_, nodup, ?_, ?_, ?_⟩
  · intro other member
    rw [keptFriends, friends] at member
    rw [keptFriend, friend, entered_friend]
    split
    next => rfl
    next different => exact agree.inList other ((List.mem_cons.mp member).resolve_left different)
  · rw [keptFriends, friends]
    exact List.nodup_cons.mpr ⟨absent, agree.nodup⟩
  · intro uri other
    rw [entries, byUri, keptFriends, friends, keptFriend, friend, entered_uris, entered_uris]
    simp only [entered, changeFriend_byUri, List.mem_cons]
    rw [agree.byUri]
    constructor
    · rintro (⟨inside, named, known⟩ | ⟨named, known, rfl⟩)
      · exact ⟨.inr inside, named, known⟩
      · exact ⟨.inl rfl, named, known⟩
    · rintro ⟨rfl | inside, named, known⟩
      · exact .inr ⟨named, known, rfl⟩
      · exact .inl ⟨inside, named, known⟩
  · intro key other
    rw [keptKeys, keys, keptFriends, friends, keptFriend, friend, entered_refKey, entered_refKey, List.mem_append]
    simp only [entered, changeFriend_byRefKey, List.mem_cons]
    rw [agree.byRefKey]
    constructor
    · rintro (⟨inside, named, same⟩ | new)
      · exact ⟨.inr inside, named, same⟩
      · split at new
        next => simp at new
        next named =>
          obtain ⟨rfl, rfl⟩ : key = (list.friend id).refKey ∧ other = id := by simpa using new
          exact ⟨.inl rfl, named, rfl⟩
    · rintro ⟨rfl | inside, named, same⟩
      · rw [same, if_neg named]
        exact .inr (by simp)
      · exact .inl ⟨inside, named, same⟩
  · rw [keptKeys, keys, entered_refKey]
    split
    next =>
      rw [List.append_nil]
      exact agree.keyDistinct
    next named =>
      apply agree.keyDistinct.append
      apply Library.findKey_none.mpr
      rintro ⟨key, other⟩ member rfl
      exact distinct named other ((agree.byRefKey _ _).mp member).1 ((agree.byRefKey _ _).mp member).2.2
  · intro other member
    rw [keptFriends, friends] at member
    rw [keptFriend, friend, entered_friend]
    split
    next => exact settled
    next different => exact agree.settled other ((List.mem_cons.mp member).resolve_left different)

theorem Agree.dirtied (agree : Agree book list) (dirty : List FriendId) :
    Agree book { list with dirtyFriendsToUpdate := dirty } := by
  obtain ⟨inList, nodup, byUri, uriNodup, byRefKey, keyDistinct, settled⟩ := agree
  exact ⟨inList, nodup, byUri, uriNodup, byRefKey, keyDistinct, settled⟩

theorem importFriend_agree (agree : Agree book list) (synchronize : Bool)
    (ready : (list.friend id).inList = false → Settled book (list.friend id) ∧
      ((list.friend id).refKey ≠ "" → ∀ other ∈ list.friends, (list.friend other).refKey ≠ (list.friend id).refKey)) :
    Agree book (list.importFriend book id synchronize) := by
  unfold importFriend
  cases outside : (list.friend id).inList with
  | true => exact agree
  | false =>
    obtain ⟨settled, distinct⟩ := ready outside
    have entering := entered_agree agree outside settled distinct
    cases synchronize with
    | true => exact entering.dirtied _
    | false => exact entering

theorem addFriend_agree (agree : Agree book list) (synchronize : Bool)
    (settled : (list.friend id).inList = false → Settled book (list.friend id)) :
    Agree book (list.addFriend book id synchronize) := by
  unfold addFriend
  split
  next => exact agree
  next =>
    split
    next => exact agree
    next =>
      split
      next => exact agree
      next missing =>
        apply importFriend_agree agree
        intro outside
        refine ⟨settled outside, ?_⟩
        intro named other inside same
        apply missing
        unfold isPresent
        dsimp only
        rw [if_neg (by simpa using named), Option.isSome_iff_ne_none]
        intro unknown
        exact findFriendByRefKey_none.mp unknown other ((agree.byRefKey _ _).mpr ⟨inside, named, same⟩)

end Importing

section Removing

variable {list : FriendList} {id : FriendId} {uri : String}

/-- The entries of one URI, in their order. -/
def entriesOf (uri : String) (list : FriendList) : List (String × FriendId) :=
  list.friendsMapByUri.filter fun entry => entry.1 == uri

theorem mem_entriesOf {entry : String × FriendId} :
    entry ∈ entriesOf uri list ↔ entry ∈ list.friendsMapByUri ∧ entry.1 = uri := by
  simp [entriesOf]

theorem eraseUri_frame (list : FriendList) (uri : String) :
    (list.eraseUri uri).friend = list.friend ∧ (list.eraseUri uri).friends = list.friends ∧
      (list.eraseUri uri).friendsMapByRefKey = list.friendsMapByRefKey := by
  unfold eraseUri
  split
  next => exact ⟨rfl, rfl, rfl⟩
  next => exact ⟨rfl, rfl, rfl⟩

/-- Erasing a URI drops the first of its entries, and none of another one. -/
theorem entriesOf_eraseUri (named : uri ≠ "") (erased : String) (list : FriendList) :
    entriesOf uri (list.eraseUri erased) = (entriesOf uri list).drop (if erased = uri then 1 else 0) := by
  unfold eraseUri entriesOf
  split
  next empty =>
    obtain rfl : erased = "" := by simpa using empty
    rw [if_neg (Ne.symm named), List.drop_zero]
  next =>
    dsimp only
    split
    next same =>
      subst same
      rw [List.drop_one, Library.filter_eraseP_same]
    next different =>
      rw [List.drop_zero]
      apply Library.filter_eraseP_of_disjoint
      intro entry hit
      rw [beq_iff_eq] at hit
      rw [hit]
      exact beq_false_of_ne (Ne.symm different)

theorem foldl_eraseUri_frame (uris : List String) (list : FriendList) :
    (uris.foldl eraseUri list).friend = list.friend ∧ (uris.foldl eraseUri list).friends = list.friends ∧
      (uris.foldl eraseUri list).friendsMapByRefKey = list.friendsMapByRefKey := by
  induction uris generalizing list with
  | nil => exact ⟨rfl, rfl, rfl⟩
  | cons first rest ih =>
    obtain ⟨friend, friends, keys⟩ := ih (list.eraseUri first)
    obtain ⟨sameFriend, sameFriends, sameKeys⟩ := eraseUri_frame list first
    exact ⟨friend.trans sameFriend, friends.trans sameFriends, keys.trans sameKeys⟩

theorem foldl_eraseUri_sublist (uris : List String) (list : FriendList) :
    (uris.foldl eraseUri list).friendsMapByUri.Sublist list.friendsMapByUri := by
  induction uris generalizing list with
  | nil => exact .refl _
  | cons first rest ih =>
    apply (ih (list.eraseUri first)).trans
    unfold eraseUri
    split
    next => exact .refl _
    next => exact List.eraseP_sublist

theorem entriesOf_foldl_eraseUri (named : uri ≠ "") (uris : List String) (list : FriendList) :
    entriesOf uri (uris.foldl eraseUri list) = (entriesOf uri list).drop (uris.count uri) := by
  induction uris generalizing list with
  | nil => simp
  | cons first rest ih =>
    rw [List.foldl_cons, ih, entriesOf_eraseUri named, List.drop_drop, List.count_cons]
    by_cases same : first = uri
    · simp [same, Nat.add_comm]
    · simp [same]

theorem eraseRefKey_frame (list : FriendList) (key : String) :
    (list.eraseRefKey key).friend = list.friend ∧ (list.eraseRefKey key).friends = list.friends ∧
      (list.eraseRefKey key).friendsMapByUri = list.friendsMapByUri := by
  unfold eraseRefKey
  split
  next => exact ⟨rfl, rfl, rfl⟩
  next => exact ⟨rfl, rfl, rfl⟩

theorem eraseRefKey_distinct (distinct : Library.DistinctKeys Prod.fst list.friendsMapByRefKey) (key : String) :
    Library.DistinctKeys Prod.fst (list.eraseRefKey key).friendsMapByRefKey := by
  unfold eraseRefKey
  split
  next => exact distinct
  next => exact distinct.eraseP _

/-- Keys are distinct, so that the entry of the erased key is the only one that goes. -/
theorem mem_eraseRefKey (distinct : Library.DistinctKeys Prod.fst list.friendsMapByRefKey) {key : String}
    {entry : String × FriendId} (named : entry.1 ≠ "") :
    entry ∈ (list.eraseRefKey key).friendsMapByRefKey ↔ entry ∈ list.friendsMapByRefKey ∧ entry.1 ≠ key := by
  unfold eraseRefKey
  split
  next empty =>
    obtain rfl : key = "" := by simpa using empty
    simp [named]
  next =>
    have nodup : list.friendsMapByRefKey.Nodup := List.Nodup.of_map _ distinct
    rw [Library.mem_eraseP_iff nodup]
    apply and_congr_right
    intro member
    apply not_congr
    constructor
    · intro found
      simpa using List.find?_some found
    · rintro rfl
      have found := Library.findKey_of_mem distinct member
      simpa only [Library.findKey, beq_eq_decide] using found

section Deleting

/-- What deleting a friend does to the objects: the friend is in no list any more. -/
theorem deleteFriend_friend (list : FriendList) (id other : FriendId) : (list.deleteFriend book id).friend other =
    if other = id then { list.friend id with inList := false } else list.friend other := by
  unfold deleteFriend
  dsimp only
  rw [changeFriend_friend, (foldl_eraseUri_frame _ _).1, (eraseRefKey_frame _ _).1]

theorem deleteFriend_friends (list : FriendList) (id : FriendId) : (list.deleteFriend book id).friends = list.friends := by
  unfold deleteFriend
  dsimp only
  rw [changeFriend_friends, (foldl_eraseUri_frame _ _).2.1, (eraseRefKey_frame _ _).2.1]

theorem deleteFriend_entries (named : uri ≠ "") (list : FriendList) (id : FriendId) :
    entriesOf uri (list.deleteFriend book id) =
      (entriesOf uri list).drop ((urisOf book (list.friend id)).count uri) := by
  unfold deleteFriend
  dsimp only
  have kept : entriesOf uri (list.eraseRefKey (list.friend id).refKey) = entriesOf uri list := by
    unfold entriesOf
    rw [(eraseRefKey_frame _ _).2.2]
  rw [← kept, ← entriesOf_foldl_eraseUri named]
  rfl

theorem deleteFriend_sublist (list : FriendList) (id : FriendId) :
    (list.deleteFriend book id).friendsMapByUri.Sublist list.friendsMapByUri := by
  have erased := foldl_eraseUri_sublist (urisOf book (list.friend id)) (list.eraseRefKey (list.friend id).refKey)
  rw [(eraseRefKey_frame _ _).2.2] at erased
  exact erased

theorem deleteFriend_refKeys (list : FriendList) (id : FriendId) : (list.deleteFriend book id).friendsMapByRefKey =
    (list.eraseRefKey (list.friend id).refKey).friendsMapByRefKey := by
  unfold deleteFriend
  dsimp only
  rw [changeFriend_byRefKey, (foldl_eraseUri_frame _ _).2.2]

theorem deleteFriend_uris (list : FriendList) (id other : FriendId) :
    urisOf book ((list.deleteFriend book id).friend other) = urisOf book (list.friend other) := by
  rw [deleteFriend_friend]
  split
  next same => rw [urisOf_inList, same]
  next => rfl

theorem deleteFriend_refKey (list : FriendList) (id other : FriendId) :
    ((list.deleteFriend book id).friend other).refKey = (list.friend other).refKey := by
  rw [deleteFriend_friend]
  split
  next same => rw [same]
  next => rfl

end Deleting

/-- Each URI of a friend is its own alone, or it has the URI once and its entry comes
first. -/
def Removable (book : AddressBook) (list : FriendList) (id : FriendId) : Prop :=
  ∀ uri ∈ urisOf book (list.friend id), uri ≠ "" →
    (∀ other ∈ list.friends, uri ∈ urisOf book (list.friend other) → other = id) ∨
      ((urisOf book (list.friend id)).count uri = 1 ∧ list.findFriendByUri uri = some id)

/-- Deleting a removable friend takes exactly its entries away. -/
theorem mem_deleteFriend (agree : Agree book list) (member : id ∈ list.friends) (removable : Removable book list id)
    (uri : String) (other : FriendId) :
    (uri, other) ∈ (list.deleteFriend book id).friendsMapByUri ↔ (uri, other) ∈ list.friendsMapByUri ∧ other ≠ id := by
  by_cases named : uri = ""
  · have missing : ∀ owner, (uri, owner) ∉ list.friendsMapByUri := fun owner inside =>
      ((agree.byUri uri owner).mp inside).2.1 named
    exact iff_of_false (fun inside => missing other ((deleteFriend_sublist list id).subset inside))
      fun inside => missing other inside.1
  have here : ∀ lists : FriendList, (uri, other) ∈ lists.friendsMapByUri ↔ (uri, other) ∈ entriesOf uri lists := by
    intro lists
    simp [mem_entriesOf]
  rw [here, here, deleteFriend_entries named]
  have nodup : (entriesOf uri list).Nodup := agree.uriNodup.filter _
  by_cases has : uri ∈ urisOf book (list.friend id)
  · have entry : (uri, id) ∈ entriesOf uri list := mem_entriesOf.mpr ⟨(agree.byUri uri id).mpr ⟨member, named, has⟩, rfl⟩
    have positive : 0 < (urisOf book (list.friend id)).count uri := List.count_pos_iff.mpr has
    cases entries : entriesOf uri list with
    | nil => simp [entries] at entry
    | cons first rest =>
      rcases removable uri has named with alone | ⟨once, found⟩
      · have owners : ∀ hit ∈ first :: rest, hit = (uri, id) := by
          rintro ⟨key, owner⟩ inside
          rw [← entries, mem_entriesOf] at inside
          obtain ⟨inMap, rfl⟩ := inside
          obtain ⟨inside, -, known⟩ := (agree.byUri _ owner).mp inMap
          rw [alone owner inside known]
        have single : rest = [] := by
          rw [List.eq_nil_iff_forall_not_mem]
          intro hit inside
          rw [entries, List.nodup_cons] at nodup
          apply nodup.1
          rw [owners first List.mem_cons_self, ← owners hit (List.mem_cons_of_mem _ inside)]
          exact inside
        subst single
        rw [List.drop_eq_nil_of_le (by simpa using positive), owners first List.mem_cons_self]
        simp
      · have head : first = (uri, id) := by
          have kept : list.friendsMapByUri.find? (fun entry => entry.1 == uri) = some first := by
            rw [← List.head?_filter]
            exact congrArg List.head? entries
          rw [findFriendByUri, kept, Option.map_some, Option.some.injEq] at found
          have inside : first ∈ entriesOf uri list := by simp [entries]
          exact Prod.ext (mem_entriesOf.mp inside).2 found
        subst head
        rw [entries, List.nodup_cons] at nodup
        rw [once, List.drop_one, List.tail_cons, List.mem_cons]
        constructor
        · intro later
          refine ⟨.inr later, ?_⟩
          rintro rfl
          exact nodup.1 later
        · rintro ⟨same | later, different⟩
          · exact absurd (Prod.mk.inj same).2 different
          · exact later
  · rw [List.count_eq_zero.mpr has, List.drop_zero]
    constructor
    · intro inside
      refine ⟨inside, ?_⟩
      rintro rfl
      exact has ((agree.byUri uri other).mp (mem_entriesOf.mp inside).1).2.2
    · exact And.left

theorem removeFriend_agree (agree : Agree book list) (removable : id ∈ list.friends → Removable book list id) :
    Agree book (list.removeFriend book id) := by
  unfold removeFriend
  split
  next found =>
    have member : id ∈ list.friends := by simpa using found
    have kept : ∀ other, other ∈ list.friends.erase id ↔ other ∈ list.friends ∧ other ≠ id := by
      intro other
      rw [agree.nodup.mem_erase_iff, and_comm]
    have same : ∀ other, other ≠ id → (list.deleteFriend book id).friend other = list.friend other := by
      intro other different
      rw [deleteFriend_friend, if_neg different]
    dsimp only
    refine ⟨?_, ?_, ?_, ?_, ?_, ?_, ?_⟩
    · intro other inside
      rw [deleteFriend_friends, kept] at inside
      exact same other inside.2 ▸ agree.inList other inside.1
    · rw [deleteFriend_friends]
      exact agree.nodup.erase id
    · intro uri other
      dsimp only
      rw [mem_deleteFriend agree member (removable member), agree.byUri, deleteFriend_friends, kept, deleteFriend_uris]
      exact and_right_comm
    · exact (deleteFriend_sublist list id).nodup agree.uriNodup
    · intro key other
      dsimp only
      rw [deleteFriend_refKeys, deleteFriend_friends, kept, deleteFriend_refKey]
      by_cases named : key = ""
      · refine iff_of_false ?_ fun inside => inside.2.1 named
        intro inside
        have before : (key, other) ∈ list.friendsMapByRefKey := by
          unfold eraseRefKey at inside
          split at inside
          next => exact inside
          next => exact List.mem_of_mem_eraseP inside
        exact ((agree.byRefKey key other).mp before).2.1 named
      · rw [mem_eraseRefKey agree.keyDistinct named, agree.byRefKey]
        constructor
        · rintro ⟨⟨inside, -, holds⟩, different⟩
          refine ⟨⟨inside, ?_⟩, named, holds⟩
          rintro rfl
          exact different holds.symm
        · rintro ⟨⟨inside, different⟩, -, holds⟩
          refine ⟨⟨inside, named, holds⟩, ?_⟩
          intro again
          have mine := (agree.byRefKey key id).mpr ⟨member, named, again.symm⟩
          have others := (agree.byRefKey key other).mpr ⟨inside, named, holds⟩
          have one := Library.findKey_of_mem agree.keyDistinct mine
          rw [Library.findKey_of_mem agree.keyDistinct others, Option.some.injEq] at one
          exact different (Prod.mk.inj one).2
    · dsimp only
      rw [deleteFriend_refKeys]
      exact eraseRefKey_distinct agree.keyDistinct _
    · intro other inside
      rw [deleteFriend_friends, kept] at inside
      exact same other inside.2 ▸ agree.settled other inside.1
  next => exact agree

theorem deleteFriends_entries (named : uri ≠ "") (ids : List FriendId) (list : FriendList) :
    entriesOf uri (ids.foldl (deleteFriend book) list) =
      (entriesOf uri list).drop ((ids.flatMap fun id => urisOf book (list.friend id)).count uri) := by
  induction ids generalizing list with
  | nil => simp
  | cons id rest ih =>
    have same : (rest.flatMap fun other => urisOf book ((list.deleteFriend book id).friend other)) =
        rest.flatMap fun other => urisOf book (list.friend other) :=
      List.flatMap_congr fun other _ => deleteFriend_uris list id other
    rw [List.foldl_cons, ih, same, deleteFriend_entries named, List.drop_drop, List.flatMap_cons, List.count_append]

/-- Keys of deleted friends are no longer in the index. -/
theorem deleteFriends_keys (ids : List FriendId) (list : FriendList)
    (distinct : Library.DistinctKeys Prod.fst list.friendsMapByRefKey)
    (named : ∀ entry ∈ list.friendsMapByRefKey, entry.1 ≠ "") :
    ∀ entry ∈ (ids.foldl (deleteFriend book) list).friendsMapByRefKey,
      entry ∈ list.friendsMapByRefKey ∧ ∀ id ∈ ids, (list.friend id).refKey ≠ entry.1 := by
  induction ids generalizing list with
  | nil => exact fun entry inside => ⟨inside, by simp⟩
  | cons id rest ih =>
    have erased : ∀ entry ∈ (list.deleteFriend book id).friendsMapByRefKey,
        entry ∈ list.friendsMapByRefKey ∧ entry.1 ≠ (list.friend id).refKey := by
      intro entry inside
      rw [deleteFriend_refKeys] at inside
      have before : entry ∈ list.friendsMapByRefKey := by
        unfold eraseRefKey at inside
        split at inside
        next => exact inside
        next => exact List.mem_of_mem_eraseP inside
      exact (mem_eraseRefKey distinct (named entry before)).mp inside
    have fewer : Library.DistinctKeys Prod.fst (list.deleteFriend book id).friendsMapByRefKey := by
      rw [deleteFriend_refKeys]
      exact eraseRefKey_distinct distinct _
    intro entry inside
    obtain ⟨between, others⟩ := ih _ fewer (fun entry inside => named entry (erased entry inside).1) entry inside
    obtain ⟨before, different⟩ := erased entry between
    refine ⟨before, ?_⟩
    intro other among
    rcases List.mem_cons.mp among with rfl | later
    · exact different.symm
    · exact deleteFriend_refKey list id other ▸ others other later

/-- There are as many entries of a URI as friends that have it, and each of them erases
at least one. -/
theorem entriesOf_length_le (agree : Agree book list) (named : uri ≠ "") :
    (entriesOf uri list).length ≤ (list.friends.flatMap fun id => urisOf book (list.friend id)).count uri := by
  have counted : ∀ ids : List FriendId, (ids.filter fun id => (urisOf book (list.friend id)).contains uri).length ≤
      (ids.flatMap fun id => urisOf book (list.friend id)).count uri := by
    intro ids
    induction ids with
    | nil => simp
    | cons id rest ih =>
      rw [List.filter_cons, List.flatMap_cons, List.count_append]
      split
      next has =>
        have positive : 0 < (urisOf book (list.friend id)).count uri := List.count_pos_iff.mpr (by simpa using has)
        rw [List.length_cons]
        omega
      next => omega
  have owners : ((entriesOf uri list).map Prod.snd).Nodup := by
    refine (List.nodup_map_iff_inj_on (agree.uriNodup.filter _)).mpr ?_
    intro first inside second also same
    exact Prod.ext ((mem_entriesOf.mp inside).2.trans (mem_entriesOf.mp also).2.symm) same
  have among : (entriesOf uri list).map Prod.snd ⊆
      list.friends.filter fun id => (urisOf book (list.friend id)).contains uri := by
    intro owner inside
    obtain ⟨⟨key, id⟩, inEntries, rfl⟩ := List.mem_map.mp inside
    obtain ⟨inMap, rfl⟩ := mem_entriesOf.mp inEntries
    obtain ⟨inside, -, known⟩ := (agree.byUri _ id).mp inMap
    exact List.mem_filter.mpr ⟨inside, by simpa using known⟩
  calc (entriesOf uri list).length = ((entriesOf uri list).map Prod.snd).length := (List.length_map _).symm
    _ ≤ (list.friends.filter fun id => (urisOf book (list.friend id)).contains uri).length :=
      (List.subperm_of_subset owners among).length_le
    _ ≤ _ := counted list.friends

theorem deleteFriends_sublist (ids : List FriendId) (list : FriendList) :
    (ids.foldl (deleteFriend book) list).friendsMapByUri.Sublist list.friendsMapByUri := by
  induction ids generalizing list with
  | nil => exact .refl _
  | cons id rest ih => exact (ih _).trans (deleteFriend_sublist list id)

theorem removeFriends_agree (agree : Agree book list) : Agree book (list.removeFriends book) := by
  have uris : (list.removeFriends book).friendsMapByUri = [] := by
    rw [List.eq_nil_iff_forall_not_mem]
    rintro ⟨uri, other⟩ inside
    have before := (deleteFriends_sublist list.friends list).subset inside
    have named := ((agree.byUri uri other).mp before).2.1
    have entry : (uri, other) ∈ entriesOf uri (list.friends.foldl (deleteFriend book) list) :=
      mem_entriesOf.mpr ⟨inside, rfl⟩
    rw [deleteFriends_entries named, List.drop_eq_nil_of_le (entriesOf_length_le agree named)] at entry
    simp at entry
  have keys : (list.removeFriends book).friendsMapByRefKey = [] := by
    rw [List.eq_nil_iff_forall_not_mem]
    rintro ⟨key, other⟩ inside
    obtain ⟨before, others⟩ := deleteFriends_keys list.friends list agree.keyDistinct
      (fun entry inside => ((agree.byRefKey entry.1 entry.2).mp inside).2.1) _ inside
    obtain ⟨member, -, holds⟩ := (agree.byRefKey key other).mp before
    exact others other member holds
  have friends : (list.removeFriends book).friends = [] := rfl
  refine ⟨?_, ?_, ?_, ?_, ?_, ?_, ?_⟩
  · simp [friends]
  · simp [friends]
  · simp [friends, uris]
  · simp [uris]
  · simp [friends, keys]
  · simp [keys, Library.DistinctKeys]
  · simp [friends]

end Removing

section Replacing

variable {list : FriendList} {newFriend oldFriend : FriendId}

/-- A friend that no index knows. -/
def Unindexed (book : AddressBook) (lf : Friend) : Prop := (∀ uri ∈ urisOf book lf, uri = "") ∧ lf.refKey = ""

/-- Neither the friend that leaves nor the one that takes its place is indexed. -/
def Replaceable (book : AddressBook) (list : FriendList) (newFriend oldFriend : FriendId) : Prop :=
  newFriend ∉ list.friends ∧ (list.friend newFriend).inList = true ∧ Settled book (list.friend newFriend) ∧
    Unindexed book (list.friend newFriend) ∧ Unindexed book (list.friend oldFriend)

theorem replace_split {friends : List FriendId} (member : oldFriend ∈ friends) : ∃ before after,
    friends = before ++ oldFriend :: after ∧ friends.replace oldFriend newFriend = before ++ newFriend :: after := by
  induction friends with
  | nil => simp at member
  | cons first rest ih =>
    by_cases same : first = oldFriend
    · subst same
      exact ⟨[], rest, rfl, by simp⟩
    · obtain ⟨before, after, whole, replaced⟩ := ih ((List.mem_cons.mp member).resolve_left (Ne.symm same))
      refine ⟨first :: before, after, by rw [whole, List.cons_append], ?_⟩
      rw [List.replace_cons, beq_false_of_ne (Ne.symm same), replaced]
      rfl

theorem carddavUpdated_agree (agree : Agree book list)
    (fits : oldFriend ∈ list.friends → newFriend = oldFriend ∨ Replaceable book list newFriend oldFriend) :
    Agree book (list.carddavUpdated newFriend oldFriend) := by
  by_cases member : oldFriend ∈ list.friends
  · obtain ⟨before, after, whole, replaced⟩ := @replace_split newFriend _ _ member
    rcases fits member with rfl | ⟨absent, listed, settled, fresh, old⟩
    · have unchanged : list.carddavUpdated newFriend newFriend = list := by
        simp only [carddavUpdated, replaced, ← whole]
      rw [unchanged]
      exact agree
    · have nodup := agree.nodup
      rw [whole] at absent nodup
      simp only [List.mem_append, List.mem_cons, not_or] at absent
      have members : ∀ id, id ∈ (list.carddavUpdated newFriend oldFriend).friends ↔
          id = newFriend ∨ (id ∈ list.friends ∧ id ≠ oldFriend) := by
        intro id
        simp only [carddavUpdated, replaced]
        simp only [whole, List.mem_append, List.mem_cons]
        rw [List.nodup_append, List.nodup_cons] at nodup
        constructor
        · rintro (early | same | late)
          · exact .inr ⟨.inl early, nodup.2.2 id early oldFriend List.mem_cons_self⟩
          · exact .inl same
          · exact .inr ⟨.inr (.inr late), fun same => nodup.2.1.1 (same ▸ late)⟩
        · rintro (same | ⟨early | same | late, different⟩)
          · exact .inr (.inl same)
          · exact .inl early
          · exact absurd same different
          · exact .inr (.inr late)
      refine ⟨?_, ?_, ?_, agree.uriNodup, ?_, agree.keyDistinct, ?_⟩
      · intro id inside
        rcases (members id).mp inside with rfl | ⟨known, -⟩
        · exact listed
        · exact agree.inList id known
      · simp only [carddavUpdated, replaced]
        rw [List.nodup_append, List.nodup_cons] at nodup ⊢
        refine ⟨nodup.1, ⟨absent.2.2, nodup.2.1.2⟩, ?_⟩
        intro id early other late same
        rcases List.mem_cons.mp late with rfl | later
        · exact absent.1 (same ▸ early)
        · exact nodup.2.2 id early other (List.mem_cons_of_mem _ later) same
      · intro uri id
        rw [members]
        refine (agree.byUri uri id).trans ?_
        constructor
        · rintro ⟨inside, named, known⟩
          refine ⟨.inr ⟨inside, ?_⟩, named, known⟩
          rintro rfl
          exact named (old.1 uri known)
        · rintro ⟨rfl | ⟨inside, -⟩, named, known⟩
          · exact absurd (fresh.1 uri known) named
          · exact ⟨inside, named, known⟩
      · intro key id
        rw [members]
        refine (agree.byRefKey key id).trans ?_
        constructor
        · rintro ⟨inside, named, holds⟩
          refine ⟨.inr ⟨inside, ?_⟩, named, holds⟩
          rintro rfl
          exact named (holds ▸ old.2)
        · rintro ⟨rfl | ⟨inside, -⟩, named, holds⟩
          · exact absurd (holds ▸ fresh.2) named
          · exact ⟨inside, named, holds⟩
      · intro id inside
        rcases (members id).mp inside with rfl | ⟨known, -⟩
        · exact settled
        · exact agree.settled id known
  · have unchanged : list.carddavUpdated newFriend oldFriend = list := by
      simp only [carddavUpdated, List.replace_of_not_mem member]
    rw [unchanged]
    exact agree

end Replacing

/-- The operations that keep the indexes with the list. -/
def Tracked (book : AddressBook) (list : FriendList) : FriendListOp → Prop
  | .addFriend id => (list.friend id).inList = false → Settled book (list.friend id)
  | .addLocalFriend id => (list.friend id).inList = false → Settled book (list.friend id)
  | .importFriend id _ => (list.friend id).inList = false → Settled book (list.friend id) ∧
      ((list.friend id).refKey ≠ "" → ∀ other ∈ list.friends, (list.friend other).refKey ≠ (list.friend id).refKey)
  | .removeFriend id => id ∈ list.friends → Removable book list id
  | .removeFriends => True
  | .carddavUpdated newFriend oldFriend =>
      oldFriend ∈ list.friends → newFriend = oldFriend ∨ Replaceable book list newFriend oldFriend
  | .setAddress id address => id ∈ list.friends ∧ Ready (list.friend id) (nameOf address.clean) ∧
      KeepsMain book (list.friend id) address
  | .addAddress id address => id ∈ list.friends ∧ Ready (list.friend id) (nameOf address.clean)
  | .removeAddress id address => id ∈ list.friends ∧
      Loses book (list.friend id) (withoutAddress (list.friend id) (book.asStringUriOnly address))
        (book.asStringUriOnly address)
  | .addPhoneNumber id phoneNumber => id ∈ list.friends ∧ Ready (list.friend id) phoneNumber
  | .removePhoneNumber id phoneNumber => id ∈ list.friends ∧ (phoneNumber ≠ "" →
      book.phoneNumberToSipUri phoneNumber ≠ "" →
      book.phoneNumberToSipUri phoneNumber ∉ urisOf book (withoutPhoneNumber (list.friend id) phoneNumber))
  | .setRefKey id key => id ∈ list.friends ∧ key = (list.friend id).refKey

theorem step_agree (lawful : book.Lawful) (list : FriendList) (op : FriendListOp) (tracked : Tracked book list op)
    (agree : Agree book list) : Agree book (list.step book op) := by
  cases op with
  | addFriend id => exact addFriend_agree agree true tracked
  | addLocalFriend id => exact addFriend_agree agree false tracked
  | importFriend id synchronize => exact importFriend_agree agree synchronize tracked
  | removeFriend id => exact removeFriend_agree agree tracked
  | removeFriends => exact removeFriends_agree agree
  | carddavUpdated newFriend oldFriend => exact carddavUpdated_agree agree tracked
  | setAddress id address => exact setAddress_agree lawful agree tracked.1 tracked.2.1 tracked.2.2
  | addAddress id address => exact addAddress_agree lawful agree tracked.1 tracked.2
  | removeAddress id address => exact removeAddress_agree agree tracked.1 tracked.2
  | addPhoneNumber id phoneNumber => exact addPhoneNumber_agree agree tracked.1 tracked.2
  | removePhoneNumber id phoneNumber => exact removePhoneNumber_agree agree tracked.1 tracked.2
  | setRefKey id key => exact setRefKey_agree agree tracked.2

/-- A list without friends, before any friend was put in it. -/
def Empty (list : FriendList) : Prop :=
  list.friends = [] ∧ list.friendsMapByUri = [] ∧ list.friendsMapByRefKey = []

theorem Empty.agree {list : FriendList} (empty : Empty list) : Agree book list := by
  obtain ⟨friends, uris, keys⟩ := empty
  refine ⟨?_, ?_, ?_, ?_, ?_, ?_, ?_⟩
  · simp [friends]
  · simp [friends]
  · simp [friends, uris]
  · simp [uris]
  · simp [friends, keys]
  · simp [keys, Library.DistinctKeys]
  · simp [friends]

/-- The indexes hold the pairs of the friends of the list and no others, and a search
gives the friends of the list. -/
structure IndexesFollow (book : AddressBook) (list : FriendList) : Prop where
  byUri : ∀ uri id, (uri, id) ∈ list.friendsMapByUri ↔
    id ∈ list.friends ∧ uri ≠ "" ∧ uri ∈ urisOf book (list.friend id)
  byUriOnce : list.friendsMapByUri.Nodup
  byRefKey : ∀ key id, (key, id) ∈ list.friendsMapByRefKey ↔
    id ∈ list.friends ∧ key ≠ "" ∧ (list.friend id).refKey = key
  findFriendsByUri : ∀ uri id, id ∈ list.findFriendsByUri uri ↔
    id ∈ list.friends ∧ uri ≠ "" ∧ uri ∈ urisOf book (list.friend id)
  findFriendByUri : ∀ uri, (∀ id, list.findFriendByUri uri = some id →
      id ∈ list.friends ∧ uri ∈ urisOf book (list.friend id)) ∧
    (list.findFriendByUri uri = none → uri ≠ "" → ∀ id ∈ list.friends, uri ∉ urisOf book (list.friend id))
  findFriendByRefKey : ∀ key id, list.findFriendByRefKey key = some id ↔
    id ∈ list.friends ∧ key ≠ "" ∧ (list.friend id).refKey = key

theorem Agree.follow {list : FriendList} (agree : Agree book list) : IndexesFollow book list where
  byUri := agree.byUri
  byUriOnce := agree.uriNodup
  byRefKey := agree.byRefKey
  findFriendsByUri := by
    intro uri id
    rw [← agree.byUri]
    simp [FriendList.findFriendsByUri]
  findFriendByUri := by
    intro uri
    unfold FriendList.findFriendByUri
    constructor
    · intro id found
      obtain ⟨⟨key, owner⟩, hit, rfl⟩ := Option.map_eq_some_iff.mp found
      obtain rfl : key = uri := by simpa using List.find?_some hit
      obtain ⟨inside, -, known⟩ := (agree.byUri _ owner).mp (List.mem_of_find?_eq_some hit)
      exact ⟨inside, known⟩
    · intro missing named id inside known
      rw [Option.map_eq_none_iff, List.find?_eq_none] at missing
      exact missing (uri, id) ((agree.byUri uri id).mpr ⟨inside, named, known⟩) (by simp)
  findFriendByRefKey := by
    intro key id
    rw [← agree.byRefKey]
    constructor
    · intro found
      obtain ⟨⟨other, owner⟩, hit, rfl⟩ := Option.map_eq_some_iff.mp found
      obtain rfl : other = key := by simpa using List.find?_some hit
      exact List.mem_of_find?_eq_some hit
    · intro inside
      have found := Library.findKey_of_mem agree.keyDistinct inside
      simp only [Library.findKey, ← beq_eq_decide] at found
      rw [FriendList.findFriendByRefKey, found, Option.map_some]

theorem indexes_follow_list (lawful : book.Lawful) {list : FriendList} (empty : Empty list) {ops : List FriendListOp}
    (tracked : Library.Guarded (FriendList.step book) (Tracked book) list ops) :
    IndexesFollow book (ops.foldl (FriendList.step book) list) :=
  (Library.foldl_guarded (step_agree lawful) empty.agree tracked).follow

/-- Addresses that have a domain only. -/
def domainBook : AddressBook where
  create value := if "sip:".toList.isPrefixOf value.toList then some { domain := String.ofList (value.toList.drop 4) } else none
  asStringUriOnly address := "sip:" ++ address.domain
  phoneNumberToSipUri _ := ""
  flattenPhoneNumber phoneNumber := phoneNumber

theorem domainBook_lawful : domainBook.Lawful where
  scheme := by
    intro address
    simp [Vcard.isSipValue, domainBook]
  inverts := by
    intro address
    refine ⟨{ domain := address.domain }, ?_, rfl⟩
    simp [domainBook]
  uriOnly := by
    intro address name
    rfl

/-- Two friends with one address, each under its own key. -/
def sharedAddress : FriendList where
  friend id := { refKey := if id = 0 then "a" else "b", vcard := some { fullName := "A", impp := ["sip:example.org"] } }

theorem indexes_follow_two_friends : IndexesFollow domainBook
    ([.addFriend 0, .addFriend 1, .removeFriends].foldl (FriendList.step domainBook) sharedAddress) := by
  apply indexes_follow_list domainBook_lawful ⟨rfl, rfl, rfl⟩
  refine ⟨?_, ?_, trivial, trivial⟩
  · intro _ vcard has
    obtain rfl : _ = vcard := Option.some.inj has
    rfl
  · intro _ vcard has
    obtain rfl : _ = vcard := Option.some.inj has
    rfl

/-- Removing the second friend erases the entry of the first. -/
theorem indexes_lose_shared_address : ¬ IndexesFollow domainBook
    ([.addFriend 0, .addFriend 1, .removeFriend 1].foldl (FriendList.step domainBook) sharedAddress) := by
  intro follow
  have entry := (follow.byUri "sip:example.org" 0).mpr ⟨by decide, by decide, by decide⟩
  revert entry
  decide

end FriendList
end Liblinphone
