import Liblinphone.Proofs.CardDavRevision

/-! The friends of a list are distinct objects that know the list. This is kept by all
that the CardDAV context does: a friend that was pulled is a new object, that takes the
place of an old one or enters the list. -/

namespace Liblinphone

namespace FriendList

variable {book : AddressBook} {list : FriendList} {id : FriendId}

structure Members (list : FriendList) : Prop where
  nodup : list.friends.Nodup
  inList : ∀ id ∈ list.friends, (list.friend id).inList = true

/-- A list that has the same friends, which still know it. -/
theorem Members.congr {other : FriendList} (members : Members list) (friends : other.friends = list.friends)
    (inList : ∀ id ∈ list.friends, (other.friend id).inList = (list.friend id).inList) : Members other := by
  refine ⟨friends ▸ members.nodup, ?_⟩
  intro id member
  rw [friends] at member
  rw [inList id member]
  exact members.inList id member

/-- Editing the vCard of a friend changes no list. -/
theorem Members.edit (members : Members list) (id : FriendId) (change : Vcard → Vcard) :
    Members (list.changeFriend id (·.editVcard change)) := by
  refine @Members.congr list _ members rfl ?_
  intro other _
  rw [changeFriend_friend]
  split
  next same =>
    rw [same]
    rfl
  next => rfl

theorem removeFriend_friends (list : FriendList) (id : FriendId) :
    (list.removeFriend book id).friends = list.friends.erase id := by
  unfold removeFriend
  split
  next =>
    dsimp only
    rw [deleteFriend_friends]
  next absent =>
    rw [List.erase_of_not_mem]
    simpa using absent

theorem removeFriend_friend (list : FriendList) {id other : FriendId} (different : other ≠ id) :
    (list.removeFriend book id).friend other = list.friend other := by
  unfold removeFriend
  split
  next =>
    dsimp only
    rw [deleteFriend_friend, if_neg different]
  next => rfl

theorem removeFriend_members (members : Members list) : Members (list.removeFriend book id) := by
  refine ⟨?_, ?_⟩
  · rw [removeFriend_friends]
    exact members.nodup.erase id
  · intro other member
    rw [removeFriend_friends, members.nodup.mem_erase_iff] at member
    rw [removeFriend_friend list member.1]
    exact members.inList other member.2

/-- What several removals leave. -/
theorem removeFriends_spec (members : Members list) (ids : List FriendId) :
    Members (ids.foldl (removeFriend book) list) ∧
      (∀ other, other ∈ (ids.foldl (removeFriend book) list).friends ↔ other ∈ list.friends ∧ other ∉ ids) ∧
      ∀ other ∉ ids, (ids.foldl (removeFriend book) list).friend other = list.friend other := by
  induction ids generalizing list with
  | nil => exact ⟨members, by simp, fun _ _ => rfl⟩
  | cons id rest ih =>
    obtain ⟨kept, friends, friend⟩ := ih (@removeFriend_members book list id members)
    refine ⟨kept, ?_, ?_⟩
    · intro other
      rw [List.foldl_cons, friends, removeFriend_friends, members.nodup.mem_erase_iff, List.mem_cons, not_or, and_assoc,
        and_left_comm]
    · intro other outside
      rw [List.mem_cons, not_or] at outside
      rw [List.foldl_cons, friend other outside.2, removeFriend_friend list outside.1]

/-- A friend that may enter the list is its first friend afterwards, known by its key. -/
theorem addLocalFriend_enters (outside : (list.friend id).inList = false) (valid : isInvalid book (list.friend id) = false)
    (absent : list.isPresent id = false) :
    (∀ other, (list.addFriend book id false).friend other =
        if other = id then { list.friend id with inList := true } else list.friend other) ∧
      (list.addFriend book id false).friends = id :: list.friends ∧
      (list.addFriend book id false).friendsMapByRefKey = ((entered list id).insertRefKey id).friendsMapByRefKey := by
  obtain ⟨friend, friends, -⟩ := insertRefKey_frame (entered list id) id
  obtain ⟨keptFriend, keptFriends, keptKeys⟩ :=
    @foldl_addToMap_frame id (urisOf book ((entered list id).friend id)) ((entered list id).insertRefKey id)
  unfold addFriend importFriend
  simp only [outside, valid, absent, Bool.false_eq_true, if_false]
  refine ⟨?_, keptFriends.trans friends, keptKeys⟩
  intro other
  exact (congrFun (keptFriend.trans friend) other).trans (entered_friend other)

theorem addFriend_outside (outside : (list.friend id).inList = false) (synchronize : Bool) :
    list.addFriend book id synchronize = list ∨
      ((∀ other, (list.addFriend book id synchronize).friend other =
          if other = id then { list.friend id with inList := true } else list.friend other) ∧
        (list.addFriend book id synchronize).friends = id :: list.friends) := by
  obtain ⟨friend, friends, -⟩ := insertRefKey_frame (entered list id) id
  obtain ⟨keptFriend, keptFriends, -⟩ :=
    @foldl_addToMap_frame id (urisOf book ((entered list id).friend id)) ((entered list id).insertRefKey id)
  unfold addFriend
  split
  next => exact .inl rfl
  next =>
    split
    next => exact .inl rfl
    next =>
      split
      next => exact .inl rfl
      next =>
        right
        unfold importFriend
        rw [if_neg (by simp [outside])]
        have looked : ∀ other, ((entered list id).addAddressesAndNumbersIntoMaps book id).friend other =
            if other = id then { list.friend id with inList := true } else list.friend other := fun other =>
          (congrFun (keptFriend.trans friend) other).trans (entered_friend other)
        cases synchronize with
        | true => exact ⟨looked, keptFriends.trans friends⟩
        | false => exact ⟨looked, keptFriends.trans friends⟩

theorem addFriend_members (members : Members list) (synchronize : Bool) :
    Members (list.addFriend book id synchronize) := by
  cases outside : (list.friend id).inList with
  | true =>
    have unchanged : list.addFriend book id synchronize = list := by
      unfold addFriend
      rw [if_pos outside]
    rw [unchanged]
    exact members
  | false =>
    rcases @addFriend_outside book list id outside synchronize with unchanged | ⟨friend, friends⟩
    · rw [unchanged]
      exact members
    · have absent : id ∉ list.friends := by
        intro member
        rw [members.inList id member] at outside
        exact Bool.noConfusion outside
      refine ⟨friends ▸ List.nodup_cons.mpr ⟨absent, members.nodup⟩, ?_⟩
      intro other member
      rw [friends, List.mem_cons] at member
      rw [friend]
      split
      next => rfl
      next different => exact members.inList other (member.resolve_left different)

theorem freshFriend_gt {ids : List FriendId} (member : id ∈ ids) :
    id < ids.foldr (fun id highest => max (id + 1) highest) 0 := by
  induction ids with
  | nil => simp at member
  | cons first rest ih =>
    rw [List.foldr_cons]
    rcases List.mem_cons.mp member with rfl | later
    · exact lt_max_of_lt_left (Nat.lt_succ_self id)
    · exact lt_max_of_lt_right (ih later)

theorem fresh_not_friend (list : FriendList) : list.freshFriend ∉ list.friends := by
  intro member
  have bound := freshFriend_gt (List.mem_append_left list.dirtyFriendsToUpdate (List.mem_append_left
    (list.friendsMapByRefKey.map Prod.snd) (List.mem_append_left (list.friendsMapByUri.map Prod.snd) member)))
  exact absurd bound (lt_irrefl _)

theorem fresh_not_dirty (list : FriendList) : list.freshFriend ∉ list.dirtyFriendsToUpdate := by
  intro member
  have bound := freshFriend_gt (List.mem_append_right (list.friends ++ list.friendsMapByUri.map Prod.snd ++
    list.friendsMapByRefKey.map Prod.snd) member)
  exact absurd bound (lt_irrefl _)

end FriendList

namespace CardDavContext

open FriendList

variable {platform : CardDavPlatform} {list : FriendList} {vcard : Vcard}

/-- The end of a synchronisation changes no friend. -/
theorem friendList_done (context : CardDavContext) (success : Bool) :
    (context.serverToClientSyncDone success).friendList.friends = context.friendList.friends ∧
      (context.serverToClientSyncDone success).friendList.friend = context.friendList.friend ∧
      (context.serverToClientSyncDone success).friendList.dirtyFriendsToUpdate =
        context.friendList.dirtyFriendsToUpdate := by
  unfold serverToClientSyncDone
  split
  next => exact ⟨rfl, rfl, rfl⟩
  next => exact ⟨rfl, rfl, rfl⟩

/-- The friend of a vCard that was pulled, once it is in the list. -/
def pulledFriend (vcard : Vcard) (refKey : String) (inList : Bool) : Friend :=
  { refKey := refKey, vcard := some vcard, inList := inList }

/-- The friend with the identifier of the vCard is replaced by a new one. -/
theorem mergeFriend_replaces (named : vcard.fullName ≠ "") {oldFriend : FriendId}
    (found : list.friends.find? (list.sameUid vcard.uid) = some oldFriend) :
    (mergeFriend platform list vcard).2 = [.removed oldFriend] ∧
      (mergeFriend platform list vcard).1.friends = list.friends.replace oldFriend list.freshFriend ∧
      (mergeFriend platform list vcard).1.friendsMapByRefKey = list.friendsMapByRefKey ∧
      ∀ other, (mergeFriend platform list vcard).1.friend other = if other = list.freshFriend
        then pulledFriend vcard (list.friend oldFriend).refKey (list.friend oldFriend).inList else list.friend other := by
  have created : ({} : Friend).setVcard vcard = { refKey := vcard.uid, vcard := some vcard } := by
    simp [Friend.setVcard, named]
  unfold mergeFriend
  dsimp only
  rw [changeFriend_friend, if_pos rfl, created, found]
  simp only [Option.isSome_some, if_true]
  refine ⟨trivial, rfl, rfl, ?_⟩
  intro other
  simp only [carddavUpdated, changeFriend, Function.update_apply]
  split
  next => rfl
  next => rfl

/-- A vCard without a friend makes a new one, under its identifier. -/
theorem mergeFriend_creates (named : vcard.fullName ≠ "") (identified : vcard.uid ≠ "")
    (missing : list.friends.find? (list.sameUid vcard.uid) = none)
    (unknown : ∀ id, (vcard.uid, id) ∉ list.friendsMapByRefKey) :
    (mergeFriend platform list vcard).2 = [] ∧
      (mergeFriend platform list vcard).1.friends = list.freshFriend :: list.friends ∧
      (mergeFriend platform list vcard).1.friendsMapByRefKey =
        list.friendsMapByRefKey ++ [(vcard.uid, list.freshFriend)] ∧
      ∀ other, (mergeFriend platform list vcard).1.friend other = if other = list.freshFriend
        then pulledFriend vcard vcard.uid true else list.friend other := by
  have made : ({} : Friend).setVcard vcard = { refKey := vcard.uid, vcard := some vcard } := by
    simp [Friend.setVcard, named]
  let created := list.changeFriend list.freshFriend fun _ => ({} : Friend).setVcard vcard
  have own : created.friend list.freshFriend = { refKey := vcard.uid, vcard := some vcard } := by
    rw [changeFriend_friend, if_pos rfl, made]
  have absent : created.isPresent list.freshFriend = false := by
    unfold isPresent
    dsimp only
    rw [own, if_neg (by simp [identified]), Option.isSome_eq_false_iff, Option.isNone_iff_eq_none]
    exact findFriendByRefKey_none.mpr unknown
  have merged : mergeFriend platform list vcard =
      (created.addFriend platform.book list.freshFriend false, []) := by
    unfold mergeFriend
    dsimp only
    rw [missing, ite_self]
  obtain ⟨friend, friends, keys⟩ := @addLocalFriend_enters platform.book created list.freshFriend (by rw [own])
    (by simp [isInvalid, own]) absent
  have enteredKey : ((entered created list.freshFriend).friend list.freshFriend).refKey = vcard.uid := by
    rw [entered_refKey, own]
  rw [merged]
  refine ⟨rfl, friends, ?_, ?_⟩
  · rw [keys, insertRefKey_keys]
    · rw [enteredKey, if_neg identified]
      rfl
    · rw [enteredKey]
      exact fun _ => unknown
  · intro other
    rw [friend, own, changeFriend_friend]
    split
    next => rfl
    next => rfl

theorem mergeFriend_members (members : Members list) : Members (mergeFriend platform list vcard).1 := by
  have fresh := fresh_not_friend list
  have created : Members (list.changeFriend list.freshFriend fun _ => ({} : Friend).setVcard vcard) := by
    refine @Members.congr list _ members rfl ?_
    intro other member
    rw [changeFriend_friend, if_neg]
    rintro rfl
    exact fresh member
  unfold mergeFriend
  dsimp only
  split
  next oldFriend found =>
    have member : oldFriend ∈ list.friends := by
      split at found
      next => exact List.mem_of_find?_eq_some found
      next => simp at found
    obtain ⟨before, after, whole, replaced⟩ := @replace_split list.freshFriend oldFriend _ member
    have nodup := members.nodup
    have absent := fresh
    rw [whole] at nodup absent
    simp only [List.mem_append, List.mem_cons, not_or] at absent
    rw [List.nodup_append, List.nodup_cons] at nodup
    refine ⟨?_, ?_⟩
    · simp only [carddavUpdated, changeFriend_friends, replaced]
      rw [List.nodup_append, List.nodup_cons]
      refine ⟨nodup.1, ⟨absent.2.2, nodup.2.1.2⟩, ?_⟩
      intro id early other late same
      rcases List.mem_cons.mp late with rfl | later
      · exact absent.1 (same ▸ early)
      · exact nodup.2.2 id early other (List.mem_cons_of_mem _ later) same
    · intro other inside
      simp only [carddavUpdated, changeFriend_friends, replaced, List.mem_append, List.mem_cons] at inside
      simp only [carddavUpdated, changeFriend, Function.update_apply]
      split
      next => exact members.inList oldFriend member
      next different =>
        apply members.inList
        rw [whole]
        simp only [List.mem_append, List.mem_cons]
        rcases inside with early | same | late
        · exact .inl early
        · exact absurd same different
        · exact .inr (.inr late)
  next => exact addFriend_members created false

end CardDavContext
end Liblinphone
