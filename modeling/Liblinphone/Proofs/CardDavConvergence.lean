import Liblinphone.Library.Scan
import Liblinphone.Proofs.CardDavMembers

/-! A download makes the friends those of the listing. Where the URLs leave no doubt
which friend a listed vCard is, the comparison keeps the listed friends and asks for
what changed. What is pulled replaces the friend with the same identifier, or enters
the list under a key that is free. -/

namespace Liblinphone

theorem vcardName_slash {name : Text} (within : ∀ char ∈ name, (char != '/') = true) (start : Text) :
    vcardName (start ++ '/' :: name) = name := by
  unfold vcardName List.rtakeWhile
  rw [List.reverse_append, List.reverse_cons, List.append_assoc, List.singleton_append,
    Library.takeWhile_stop (by simpa using within) rfl, List.reverse_reverse]

/-- The URL of a vCard that was pulled keeps its last segment. -/
theorem vcardName_vcardUrl (syncUri url : Text) : vcardName (vcardUrl syncUri url) = vcardName url := by
  have within : ∀ char ∈ vcardName url, (char != '/') = true := by
    intro char member
    exact @List.mem_rtakeWhile_imp Char (· != '/') url char member
  unfold vcardUrl
  split
  next ends =>
    obtain ⟨start, whole⟩ : ∃ start, syncUri = start ++ ['/'] := by
      rcases List.eq_nil_or_concat syncUri with rfl | ⟨start, last, rfl⟩
      · simp at ends
      · rw [List.concat_eq_append, List.getLast?_append, List.getLast?_singleton, Option.some_or,
          Option.some.injEq] at ends
        exact ⟨start, by rw [List.concat_eq_append, ends]⟩
    rw [whole, List.append_assoc, List.singleton_append]
    exact vcardName_slash within start
  next => exact vcardName_slash within syncUri

namespace FriendList

variable {list : FriendList} {vCards : List CardDavResponse}

/-- The URL of the friend ends with that of the response. -/
def Listed (list : FriendList) (id : FriendId) (response : CardDavResponse) : Prop :=
  ∃ vcard, (list.friend id).vcard = some vcard ∧ isListedAs vcard response = true

/-- The listing has the friend as it is. -/
def Current (list : FriendList) (id : FriendId) (response : CardDavResponse) : Prop :=
  ∃ vcard, (list.friend id).vcard = some vcard ∧ isListedAs vcard response = true ∧ vcard.etag = response.etag

def Unlisted (list : FriendList) (vCards : List CardDavResponse) (id : FriendId) : Prop :=
  ∀ response ∈ vCards, ¬ Listed list id response

/-- Every friend has a vCard with its URL, identifier and eTag. -/
def Complete (list : FriendList) : Prop :=
  ∀ id ∈ list.friends, ∃ vcard, (list.friend id).vcard = some vcard ∧ vcard.url ≠ [] ∧ vcard.uid ≠ "" ∧ vcard.etag ≠ ""

/-- The URLs leave no doubt which friend a listed vCard is. -/
structure Unambiguous (list : FriendList) (vCards : List CardDavResponse) : Prop where
  sameName : ∀ id ∈ list.friends, ∀ vcard, (list.friend id).vcard = some vcard → ∀ response ∈ vCards,
    isListedAs vcard response = true → vcardName vcard.url = vcardName response.url
  distinctNames : (vCards.map fun response => vcardName response.url).Nodup
  oneFriend : ∀ first ∈ list.friends, ∀ second ∈ list.friends, ∀ response ∈ vCards, Listed list first response →
    Listed list second response → first = second

theorem Current.listed {id : FriendId} {response : CardDavResponse} (current : Current list id response) :
    Listed list id response := by
  obtain ⟨vcard, has, matched, -⟩ := current
  exact ⟨vcard, has, matched⟩

theorem Unambiguous.response_eq (clear : Unambiguous list vCards) {first second : CardDavResponse}
    (inside : first ∈ vCards) (also : second ∈ vCards) (name : vcardName first.url = vcardName second.url) :
    first = second := List.inj_on_of_nodup_map clear.distinctNames inside also name

theorem Unambiguous.oneResponse (clear : Unambiguous list vCards) {id : FriendId} (member : id ∈ list.friends)
    {first second : CardDavResponse} (inside : first ∈ vCards) (also : second ∈ vCards)
    (left : Listed list id first) (right : Listed list id second) : first = second := by
  obtain ⟨vcard, has, matched⟩ := left
  obtain ⟨other, same, again⟩ := right
  obtain rfl : vcard = other := Option.some.inj (has.symm.trans same)
  apply clear.response_eq inside also
  rw [← clear.sameName id member vcard has first inside matched, clear.sameName id member vcard has second also again]

section Comparing

/-- How far the comparison is, once some friends were looked at. -/
structure Compared (list : FriendList) (vCards : List CardDavResponse) (done : List FriendId) (comparison : Comparison) :
    Prop where
  removes : ∀ id, id ∈ comparison.friendsToRemove ↔ id ∈ done ∧ Unlisted list vCards id
  removesOnce : comparison.friendsToRemove.Nodup
  pulls : ∀ response, response ∈ comparison.vCardsToPull ↔
    response ∈ vCards ∧ ∀ id ∈ done, ¬ Current list id response
  pullsOnce : comparison.vCardsToPull.Sublist vCards

theorem Compared.next (complete : Complete list) (clear : Unambiguous list vCards) {done : List FriendId}
    {comparison : Comparison} (compared : Compared list vCards done comparison) {id : FriendId}
    (member : id ∈ list.friends) (others : ∀ other ∈ done, other ∈ list.friends) (new : id ∉ done) :
    Compared list vCards (done ++ [id]) (list.compareFriend comparison id) := by
  obtain ⟨vcard, has, -, -, tagged⟩ := complete id member
  have unique : comparison.vCardsToPull.Nodup := compared.pullsOnce.nodup (List.Nodup.of_map _ clear.distinctNames)
  have waits : ∀ response ∈ vCards, Listed list id response → response ∈ comparison.vCardsToPull := by
    intro response inside listed
    refine (compared.pulls response).mpr ⟨inside, ?_⟩
    intro other among current
    exact new (clear.oneFriend id member other (others other among) response inside listed current.listed ▸ among)
  unfold compareFriend
  rw [has]
  dsimp only
  cases found : comparison.vCardsToPull.find? (isListedAs vcard) with
  | none =>
    have unlisted : Unlisted list vCards id := by
      rintro response inside listed
      have pending := waits response inside listed
      obtain ⟨again, same, matched⟩ := listed
      obtain rfl : vcard = again := Option.some.inj (has.symm.trans same)
      exact List.find?_eq_none.mp found response pending matched
    refine ⟨?_, ?_, ?_, compared.pullsOnce⟩
    · intro other
      simp only [List.mem_append, List.mem_singleton]
      rw [compared.removes]
      constructor
      · rintro (⟨before, gone⟩ | rfl)
        · exact ⟨.inl before, gone⟩
        · exact ⟨.inr rfl, unlisted⟩
      · rintro ⟨before | rfl, gone⟩
        · exact .inl ⟨before, gone⟩
        · exact .inr rfl
    · rw [List.nodup_append]
      refine ⟨compared.removesOnce, List.nodup_singleton id, ?_⟩
      rintro other early last only rfl
      rw [List.mem_singleton] at only
      exact new (only ▸ ((compared.removes other).mp early).1)
    · intro response
      rw [compared.pulls]
      apply and_congr_right
      intro inside
      constructor
      · intro free other among current
        rcases List.mem_append.mp among with before | last
        · exact free other before current
        · exact unlisted response inside (List.mem_singleton.mp last ▸ current.listed)
      · intro free other before
        exact free other (List.mem_append_left _ before)
  | some response =>
    have pending := List.mem_of_find?_eq_some found
    have matched : isListedAs vcard response = true := List.find?_some found
    have inside := ((compared.pulls response).mp pending).1
    have listed : Listed list id response := ⟨vcard, has, matched⟩
    have removes : ∀ other, other ∈ comparison.friendsToRemove ↔ other ∈ done ++ [id] ∧ Unlisted list vCards other := by
      intro other
      rw [compared.removes, List.mem_append, List.mem_singleton]
      constructor
      · rintro ⟨before, gone⟩
        exact ⟨.inl before, gone⟩
      · rintro ⟨before | rfl, gone⟩
        · exact ⟨before, gone⟩
        · exact absurd listed (gone response inside)
    dsimp only
    split
    next current =>
      refine ⟨removes, compared.removesOnce, ?_, List.eraseP_sublist.trans compared.pullsOnce⟩
      intro other
      dsimp only
      rw [Library.mem_eraseP_iff unique, compared.pulls, found]
      constructor
      · rintro ⟨⟨known, free⟩, different⟩
        refine ⟨known, ?_⟩
        intro owner among upToDate
        rcases List.mem_append.mp among with before | last
        · exact free owner before upToDate
        · rw [List.mem_singleton.mp last] at upToDate
          exact different (congrArg some (clear.oneResponse member inside known listed upToDate.listed))
      · rintro ⟨known, free⟩
        refine ⟨⟨known, fun owner before => free owner (List.mem_append_left _ before)⟩, ?_⟩
        intro same
        obtain rfl : response = other := Option.some.inj same
        exact free id (List.mem_append_right _ (List.mem_singleton_self id)) ⟨vcard, has, matched, current.2⟩
    next stale =>
      refine ⟨removes, compared.removesOnce, ?_, compared.pullsOnce⟩
      intro other
      rw [compared.pulls]
      apply and_congr_right
      intro known
      constructor
      · intro free owner among upToDate
        rcases List.mem_append.mp among with before | last
        · exact free owner before upToDate
        · rw [List.mem_singleton.mp last] at upToDate
          obtain rfl := clear.oneResponse member inside known listed upToDate.listed
          obtain ⟨again, same, -, etag⟩ := upToDate
          obtain rfl : vcard = again := Option.some.inj (has.symm.trans same)
          exact stale ⟨tagged, etag⟩
      · intro free owner before
        exact free owner (List.mem_append_left _ before)

theorem compare_spec (members : Members list) (complete : Complete list) (clear : Unambiguous list vCards) :
    Compared list vCards list.friends (list.compare vCards) := by
  have general : ∀ todo done comparison, done ++ todo = list.friends → Compared list vCards done comparison →
      Compared list vCards list.friends (todo.foldl list.compareFriend comparison) := by
    intro todo
    induction todo with
    | nil =>
      intro done comparison whole compared
      rw [List.append_nil] at whole
      exact whole ▸ compared
    | cons id rest ih =>
      intro done comparison whole compared
      have nodup := members.nodup
      rw [← whole, List.nodup_append] at nodup
      apply ih (done ++ [id]) _ (by rw [← whole, List.append_assoc, List.singleton_append])
      apply compared.next complete clear
      · rw [← whole]
        exact List.mem_append_right _ List.mem_cons_self
      · intro other among
        rw [← whole]
        exact List.mem_append_left _ among
      · intro among
        exact nodup.2.2 id among id List.mem_cons_self rfl
  apply general list.friends [] _ rfl
  exact ⟨by simp, List.nodup_nil, by simp, List.Sublist.refl _⟩

end Comparing

section Keys

variable {book : AddressBook}

theorem removeFriend_refKeys {id : FriendId} (member : id ∈ list.friends) :
    (list.removeFriend book id).friendsMapByRefKey =
      (list.eraseRefKey (list.friend id).refKey).friendsMapByRefKey := by
  unfold removeFriend
  rw [if_pos (by simpa using member)]
  exact deleteFriend_refKeys list id

/-- The keys that are left once several friends were removed. -/
theorem removeFriends_refKeys (members : Members list) {ids : List FriendId} (nodup : ids.Nodup)
    (inside : ∀ id ∈ ids, id ∈ list.friends) (distinct : Library.DistinctKeys Prod.fst list.friendsMapByRefKey)
    {key : String} (named : key ≠ "") (owner : FriendId) :
    (key, owner) ∈ (ids.foldl (removeFriend book) list).friendsMapByRefKey ↔
      (key, owner) ∈ list.friendsMapByRefKey ∧ ∀ id ∈ ids, (list.friend id).refKey ≠ key := by
  induction ids generalizing list with
  | nil => simp
  | cons id rest ih =>
    rw [List.nodup_cons] at nodup
    have member := inside id List.mem_cons_self
    have keys := @removeFriend_refKeys list book id member
    have others : ∀ other ∈ rest, other ≠ id := by
      rintro other later rfl
      exact nodup.1 later
    have first : (key, owner) ∈ (list.removeFriend book id).friendsMapByRefKey ↔
        (key, owner) ∈ list.friendsMapByRefKey ∧ (list.friend id).refKey ≠ key := by
      rw [keys, mem_eraseRefKey distinct named]
      exact and_congr_right fun _ => ne_comm
    rw [List.foldl_cons, ih (removeFriend_members members) nodup.2, first, List.forall_mem_cons, and_assoc]
    · apply and_congr_right
      intro _
      apply and_congr_right
      intro _
      constructor
      · intro different other later
        exact removeFriend_friend list (others other later) ▸ different other later
      · intro different other later
        rw [removeFriend_friend list (others other later)]
        exact different other later
    · intro other later
      rw [removeFriend_friends, members.nodup.mem_erase_iff]
      exact ⟨others other later, inside other (List.mem_cons_of_mem _ later)⟩
    · rw [keys]
      exact eraseRefKey_distinct distinct _

end Keys

end FriendList

namespace CardDavContext

open FriendList

variable {platform : CardDavPlatform} {list base : FriendList}

def uidOf (lf : Friend) : String := lf.vcard.elim "" Vcard.uid

theorem sameUid_iff {uid : String} (identified : uid ≠ "") (id : FriendId) :
    list.sameUid uid id = true ↔ uidOf (list.friend id) = uid := by
  unfold sameUid uidOf
  cases (list.friend id).vcard with
  | none => simp [Ne.symm identified]
  | some vcard =>
    simp only [Option.elim_some, Bool.and_eq_true, Bool.not_eq_true', beq_iff_eq]
    constructor
    · exact fun same => same.2
    · rintro rfl
      exact ⟨⟨by simpa using identified, by simpa using identified⟩, rfl⟩

/-- A vCard whose key is taken is ignored. -/
theorem mergeFriend_ignores {vcard : Vcard} (named : vcard.fullName ≠ "") (identified : vcard.uid ≠ "")
    (missing : list.friends.find? (list.sameUid vcard.uid) = none) {owner : FriendId}
    (taken : (vcard.uid, owner) ∈ list.friendsMapByRefKey) :
    (mergeFriend platform list vcard).1.friends = list.friends ∧
      (mergeFriend platform list vcard).1.friendsMapByRefKey = list.friendsMapByRefKey ∧
      ∀ other, other ≠ list.freshFriend → (mergeFriend platform list vcard).1.friend other = list.friend other := by
  have made : ({} : Friend).setVcard vcard = { refKey := vcard.uid, vcard := some vcard } := by
    simp [Friend.setVcard, named]
  have own : (list.changeFriend list.freshFriend fun _ => ({} : Friend).setVcard vcard).friend list.freshFriend =
      { refKey := vcard.uid, vcard := some vcard } := by
    rw [changeFriend_friend, if_pos rfl, made]
  have present : (list.changeFriend list.freshFriend fun _ => ({} : Friend).setVcard vcard).isPresent
      list.freshFriend = true := by
    unfold isPresent
    dsimp only
    rw [own, if_neg (by simp [identified]), Option.isSome_iff_ne_none]
    intro unknown
    exact findFriendByRefKey_none.mp unknown owner taken
  have merged : (mergeFriend platform list vcard).1 =
      list.changeFriend list.freshFriend fun _ => ({} : Friend).setVcard vcard := by
    unfold mergeFriend
    dsimp only
    rw [missing, ite_self]
    dsimp only
    unfold FriendList.addFriend
    simp [own, isInvalid, present]
  rw [merged]
  refine ⟨rfl, rfl, ?_⟩
  intro other different
  rw [changeFriend_friend, if_neg different]

/-- The vCard of a response, as it is kept. -/
def keptVcard (syncUri : Text) (card : Text → Vcard) (response : CardDavResponse) : Vcard :=
  { card response.url with url := vcardUrl syncUri response.url, etag := response.etag }

/-- No friend has the identifier of the response, and its key is taken. -/
def Blocked (base : FriendList) (card : Text → Vcard) (response : CardDavResponse) : Prop :=
  (∀ id ∈ base.friends, uidOf (base.friend id) ≠ (card response.url).uid) ∧
    ∃ owner, ((card response.url).uid, owner) ∈ base.friendsMapByRefKey

/-- How far the merge is, once some of the responses were merged. -/
structure Merged (base : FriendList) (syncUri : Text) (card : Text → Vcard) (done : List CardDavResponse)
    (list : FriendList) : Prop where
  members : Members list
  stays : ∀ id ∈ base.friends, (∀ response ∈ done, uidOf (base.friend id) ≠ (card response.url).uid) →
    id ∈ list.friends ∧ list.friend id = base.friend id
  friends : ∀ id ∈ list.friends, (id ∈ base.friends ∧ list.friend id = base.friend id ∧
      ∀ response ∈ done, uidOf (base.friend id) ≠ (card response.url).uid) ∨
    ∃ response ∈ done, ¬ Blocked base card response ∧ (list.friend id).vcard = some (keptVcard syncUri card response)
  arrives : ∀ response ∈ done, ¬ Blocked base card response →
    ∃ id ∈ list.friends, (list.friend id).vcard = some (keptVcard syncUri card response)
  once : ∀ first ∈ list.friends, ∀ second ∈ list.friends, uidOf (list.friend first) = uidOf (list.friend second) →
    first = second
  keys : ∀ uid, (∀ response ∈ done, (card response.url).uid ≠ uid) →
    ((∃ owner, (uid, owner) ∈ list.friendsMapByRefKey) ↔ ∃ owner, (uid, owner) ∈ base.friendsMapByRefKey)

section Merge

variable {syncUri : Text} {card : Text → Vcard} {done : List CardDavResponse} {response : CardDavResponse}

theorem uidOf_kept {lf : Friend} (kept : lf.vcard = some (keptVcard syncUri card response)) :
    uidOf lf = (card response.url).uid := by
  simp [uidOf, kept, keptVcard]

/-- What a merge says of identifiers that were not merged stays true. -/
theorem keys_next {after : FriendList} (merged : Merged base syncUri card done list)
    (same : ∀ uid owner, uid ≠ (card response.url).uid →
      ((uid, owner) ∈ after.friendsMapByRefKey ↔ (uid, owner) ∈ list.friendsMapByRefKey)) :
    ∀ uid, (∀ other ∈ done ++ [response], (card other.url).uid ≠ uid) →
      ((∃ owner, (uid, owner) ∈ after.friendsMapByRefKey) ↔ ∃ owner, (uid, owner) ∈ base.friendsMapByRefKey) := by
  intro uid different
  have last := different response (List.mem_append_right _ (List.mem_singleton_self response))
  rw [← merged.keys uid fun other before => different other (List.mem_append_left _ before)]
  constructor
  · rintro ⟨owner, member⟩
    exact ⟨owner, (same uid owner (Ne.symm last)).mp member⟩
  · rintro ⟨owner, member⟩
    exact ⟨owner, (same uid owner (Ne.symm last)).mpr member⟩

/-- A response takes the place of the friends that have its identifier, unless it is
blocked. -/
theorem Merged.extend (merged : Merged base syncUri card done list)
    (new : ∀ other ∈ done, (card other.url).uid ≠ (card response.url).uid) {after : FriendList} (members : Members after)
    (inside : ∀ id, id ∈ after.friends ↔ (id = list.freshFriend ∧ ¬ Blocked base card response) ∨
      (id ∈ list.friends ∧ uidOf (list.friend id) ≠ (card response.url).uid))
    (own : ¬ Blocked base card response → (after.friend list.freshFriend).vcard = some (keptVcard syncUri card response))
    (looked : ∀ other, other ≠ list.freshFriend → after.friend other = list.friend other)
    (keys : ∀ uid owner, uid ≠ (card response.url).uid →
      ((uid, owner) ∈ after.friendsMapByRefKey ↔ (uid, owner) ∈ list.friendsMapByRefKey)) :
    Merged base syncUri card (done ++ [response]) after := by
  have fresh := fresh_not_friend list
  have unaffected : ∀ id ∈ list.friends, after.friend id = list.friend id := by
    intro id known
    apply looked
    rintro rfl
    exact fresh known
  refine ⟨members, ?_, ?_, ?_, ?_, keys_next merged keys⟩
  · intro id known different
    obtain ⟨here, kept⟩ := merged.stays id known fun other before => different other (List.mem_append_left _ before)
    have last := different response (List.mem_append_right _ (List.mem_singleton_self response))
    exact ⟨(inside id).mpr (.inr ⟨here, kept ▸ last⟩), (unaffected id here).trans kept⟩
  · intro id known
    rcases (inside id).mp known with ⟨rfl, free⟩ | ⟨here, different⟩
    · exact .inr ⟨response, by simp, free, own free⟩
    · rw [unaffected id here]
      rcases merged.friends id here with ⟨original, kept, apart⟩ | ⟨other, before, free, pulled⟩
      · refine .inl ⟨original, kept, ?_⟩
        intro other among
        rcases List.mem_append.mp among with before | last
        · exact apart other before
        · rw [List.mem_singleton.mp last, ← kept]
          exact different
      · exact .inr ⟨other, List.mem_append_left _ before, free, pulled⟩
  · intro other among free
    rcases List.mem_append.mp among with before | last
    · obtain ⟨id, here, pulled⟩ := merged.arrives other before free
      have different : uidOf (list.friend id) ≠ (card response.url).uid :=
        fun same => new other before ((uidOf_kept pulled).symm.trans same)
      exact ⟨id, (inside id).mpr (.inr ⟨here, different⟩), (unaffected id here).symm ▸ pulled⟩
    · obtain rfl := List.mem_singleton.mp last
      exact ⟨list.freshFriend, (inside _).mpr (.inl ⟨rfl, free⟩), own free⟩
  · intro first known second also equal
    rcases (inside first).mp known with ⟨rfl, free⟩ | ⟨here, different⟩
    · rcases (inside second).mp also with ⟨rfl, -⟩ | ⟨there, distinct⟩
      · rfl
      · rw [uidOf_kept (own free), unaffected second there] at equal
        exact absurd equal.symm distinct
    · rcases (inside second).mp also with ⟨rfl, free⟩ | ⟨there, distinct⟩
      · rw [uidOf_kept (own free), unaffected first here] at equal
        exact absurd equal different
      · rw [unaffected first here, unaffected second there] at equal
        exact merged.once first here second there equal

theorem Merged.replace (merged : Merged base syncUri card done list)
    (new : ∀ other ∈ done, (card other.url).uid ≠ (card response.url).uid) {oldFriend : FriendId}
    (member : oldFriend ∈ list.friends) (same : uidOf (list.friend oldFriend) = (card response.url).uid)
    {after : FriendList} (members : Members after) (replaced : after.friends = list.friends.replace oldFriend list.freshFriend)
    (keys : after.friendsMapByRefKey = list.friendsMapByRefKey)
    (own : (after.friend list.freshFriend).vcard = some (keptVcard syncUri card response))
    (looked : ∀ other, other ≠ list.freshFriend → after.friend other = list.friend other) :
    Merged base syncUri card (done ++ [response]) after := by
  obtain ⟨inBase, unchanged, -⟩ : oldFriend ∈ base.friends ∧ list.friend oldFriend = base.friend oldFriend ∧
      ∀ other ∈ done, uidOf (base.friend oldFriend) ≠ (card other.url).uid := by
    rcases merged.friends oldFriend member with kept | ⟨other, before, -, pulled⟩
    · exact kept
    · exact absurd ((uidOf_kept pulled).symm.trans same) (new other before)
  have unblocked : ¬ Blocked base card response := fun blocked => blocked.1 oldFriend inBase (unchanged ▸ same)
  have others : ∀ id ∈ list.friends, uidOf (list.friend id) ≠ (card response.url).uid ↔ id ≠ oldFriend := by
    intro id known
    refine not_congr ⟨fun equal => merged.once id known oldFriend member (equal.trans same.symm), ?_⟩
    rintro rfl
    exact same
  refine merged.extend new members ?_ (fun _ => own) looked fun uid owner _ => by rw [keys]
  intro id
  obtain ⟨before, later, whole, result⟩ := @replace_split list.freshFriend oldFriend _ member
  have nodup := merged.members.nodup
  rw [whole, List.nodup_append, List.nodup_cons] at nodup
  rw [and_iff_left unblocked, and_congr_right (others id), replaced, result, whole]
  simp only [List.mem_append, List.mem_cons]
  constructor
  · rintro (early | same | late)
    · exact .inr ⟨.inl early, nodup.2.2 id early oldFriend List.mem_cons_self⟩
    · exact .inl same
    · exact .inr ⟨.inr (.inr late), fun same => nodup.2.1.1 (same ▸ late)⟩
  · rintro (same | ⟨early | same | late, different⟩)
    · exact .inr (.inl same)
    · exact .inl early
    · exact absurd same different
    · exact .inr (.inr late)

/-- No friend has the identifier of the response, now or before the merge. -/
theorem Merged.absent (merged : Merged base syncUri card done list)
    (new : ∀ other ∈ done, (card other.url).uid ≠ (card response.url).uid)
    (missing : ∀ id ∈ list.friends, uidOf (list.friend id) ≠ (card response.url).uid) :
    ∀ id ∈ base.friends, uidOf (base.friend id) ≠ (card response.url).uid := by
  intro id known same
  obtain ⟨here, kept⟩ := merged.stays id known fun other before equal => new other before (equal.symm.trans same)
  exact missing id here (kept ▸ same)

theorem Merged.create (merged : Merged base syncUri card done list)
    (new : ∀ other ∈ done, (card other.url).uid ≠ (card response.url).uid)
    (missing : ∀ id ∈ list.friends, uidOf (list.friend id) ≠ (card response.url).uid)
    (unknown : ∀ owner, ((card response.url).uid, owner) ∉ list.friendsMapByRefKey)
    {after : FriendList} (members : Members after) (entered : after.friends = list.freshFriend :: list.friends)
    (keys : after.friendsMapByRefKey = list.friendsMapByRefKey ++ [((card response.url).uid, list.freshFriend)])
    (own : (after.friend list.freshFriend).vcard = some (keptVcard syncUri card response))
    (looked : ∀ other, other ≠ list.freshFriend → after.friend other = list.friend other) :
    Merged base syncUri card (done ++ [response]) after := by
  have unblocked : ¬ Blocked base card response := by
    rintro ⟨-, taken⟩
    obtain ⟨owner, member⟩ := (merged.keys _ new).mpr taken
    exact unknown owner member
  refine merged.extend new members ?_ (fun _ => own) looked ?_
  · intro id
    rw [entered, List.mem_cons, and_iff_left unblocked]
    exact or_congr_right ⟨fun known => ⟨known, missing id known⟩, And.left⟩
  · intro uid owner different
    rw [keys, List.mem_append, List.mem_singleton, Prod.mk.injEq]
    exact or_iff_left fun same => different same.1

theorem Merged.ignore (merged : Merged base syncUri card done list)
    (new : ∀ other ∈ done, (card other.url).uid ≠ (card response.url).uid)
    (missing : ∀ id ∈ list.friends, uidOf (list.friend id) ≠ (card response.url).uid) {owner : FriendId}
    (taken : ((card response.url).uid, owner) ∈ list.friendsMapByRefKey)
    {after : FriendList} (members : Members after) (same : after.friends = list.friends)
    (keys : after.friendsMapByRefKey = list.friendsMapByRefKey)
    (looked : ∀ other, other ≠ list.freshFriend → after.friend other = list.friend other) :
    Merged base syncUri card (done ++ [response]) after := by
  have blocked : Blocked base card response := ⟨merged.absent new missing, (merged.keys _ new).mp ⟨owner, taken⟩⟩
  refine merged.extend new members ?_ (absurd blocked) looked fun uid owner _ => by rw [keys]
  intro id
  rw [same]
  constructor
  · exact fun known => .inr ⟨known, missing id known⟩
  · rintro (⟨-, free⟩ | ⟨known, -⟩)
    · exact absurd blocked free
    · exact known

/-- One more vCard that was pulled. -/
theorem Merged.next (merged : Merged base syncUri card done list)
    (new : ∀ other ∈ done, (card other.url).uid ≠ (card response.url).uid)
    (named : (card response.url).fullName ≠ "") (identified : (card response.url).uid ≠ "") :
    Merged base syncUri card (done ++ [response]) (mergeFriend platform list (keptVcard syncUri card response)).1 := by
  have members := @mergeFriend_members platform list (keptVcard syncUri card response) merged.members
  cases found : list.friends.find? (list.sameUid (keptVcard syncUri card response).uid) with
  | some oldFriend =>
    obtain ⟨-, replaced, keys, friend⟩ := @mergeFriend_replaces platform _ (keptVcard syncUri card response) named _ found
    apply merged.replace new (List.mem_of_find?_eq_some found) _ members replaced keys
    · rw [friend, if_pos rfl]
      rfl
    · intro other different
      rw [friend, if_neg different]
    · exact (sameUid_iff identified oldFriend).mp (List.find?_some found)
  | none =>
    have missing : ∀ id ∈ list.friends, uidOf (list.friend id) ≠ (card response.url).uid := by
      intro id member same
      exact List.find?_eq_none.mp found id member ((sameUid_iff identified id).mpr same)
    by_cases taken : ∃ owner, ((card response.url).uid, owner) ∈ list.friendsMapByRefKey
    · obtain ⟨owner, member⟩ := taken
      obtain ⟨same, keys, friend⟩ :=
        @mergeFriend_ignores platform _ (keptVcard syncUri card response) named identified found _ member
      exact merged.ignore new missing member members same keys friend
    · have unknown : ∀ owner, ((card response.url).uid, owner) ∉ list.friendsMapByRefKey := fun owner member =>
        taken ⟨owner, member⟩
      obtain ⟨-, entered, keys, friend⟩ :=
        @mergeFriend_creates platform _ (keptVcard syncUri card response) named identified found unknown
      apply merged.create new missing unknown members entered keys
      · rw [friend, if_pos rfl]
        rfl
      · intro other different
        rw [friend, if_neg different]

theorem pulledVcard_kept (context : CardDavContext) (response : CardDavResponse)
    (identified : (card response.url).uid ≠ "") :
    context.pulledVcard platform response (card response.url) = keptVcard context.syncUri card response := by
  simp [pulledVcard, keptVcard, identified]

theorem mergeVcards_merged {answers : List CardDavResponse} {context : CardDavContext}
    (merged : Merged base context.syncUri card done context.friendList)
    (parsed : ∀ response ∈ answers, platform.vcardFromBuffer response.vCard = some (card response.url))
    (named : ∀ response ∈ answers, (card response.url).fullName ≠ "" ∧ (card response.url).uid ≠ "")
    (distinct : ((done ++ answers).map fun response => (card response.url).uid).Nodup) :
    Merged base context.syncUri card (done ++ answers) (context.mergeVcards platform answers).1.friendList := by
  induction answers generalizing done context with
  | nil =>
    rw [List.append_nil]
    exact merged
  | cons response rest ih =>
    obtain ⟨fullName, identified⟩ := named response List.mem_cons_self
    have new : ∀ other ∈ done, (card other.url).uid ≠ (card response.url).uid := by
      rw [List.map_append, List.nodup_append] at distinct
      intro other before
      exact distinct.2.2 _ (List.mem_map_of_mem before) _ (List.mem_map_of_mem List.mem_cons_self)
    have step : (context.mergeVcard platform response).1 = { context with
        friendList := (mergeFriend platform context.friendList (keptVcard context.syncUri card response)).1
        generated := context.generated + 1 } := by
      simp only [mergeVcard, parsed response List.mem_cons_self]
      rw [pulledVcard_kept context response identified]
    have next := @ih (done ++ [response]) (context.mergeVcard platform response).1
      (by
        rw [step]
        exact merged.next new fullName identified)
      (fun other member => parsed other (List.mem_cons_of_mem _ member))
      (fun other member => named other (List.mem_cons_of_mem _ member))
      (by rwa [List.append_assoc, List.singleton_append])
    rw [List.append_assoc, List.singleton_append] at next
    rw [step] at next
    rw [mergeVcards, step]
    exact next

end Merge

/-- The list once a listing was fetched, and what was asked for was pulled. -/
def download (platform : CardDavPlatform) (context : CardDavContext) (announced : String)
    (vCards answers : List CardDavResponse) : FriendList :=
  let fetched := (context.vcardsFetched platform announced vCards).1
  if vCards.isEmpty then fetched.friendList
  else (fetched.vcardsPulled platform (some announced) answers).1.friendList

/-- Every vCard that was asked for is returned, is read, and has a name and an
identifier. -/
structure Served (platform : CardDavPlatform) (vCards requested answers : List CardDavResponse) (card : Text → Vcard) :
    Prop where
  returned : (answers.map fun answer => (answer.url, answer.etag)).Perm
    (requested.map fun response => (response.url, response.etag))
  parsed : ∀ answer ∈ answers, platform.vcardFromBuffer answer.vCard = some (card answer.url)
  named : ∀ response ∈ vCards, (card response.url).fullName ≠ "" ∧ (card response.url).uid ≠ ""

/-- An identifier belongs to one URL, on the server and in the list. -/
structure UniqueUids (list : FriendList) (vCards : List CardDavResponse) (card : Text → Vcard) : Prop where
  remote : ∀ first ∈ vCards, ∀ second ∈ vCards, (card first.url).uid = (card second.url).uid → first.url = second.url
  other : ∀ id ∈ list.friends, ∀ listed ∈ vCards, ∀ response ∈ vCards, Listed list id listed →
    uidOf (list.friend id) = (card response.url).uid → listed.url = response.url
  own : ∀ first ∈ list.friends, ∀ second ∈ list.friends, ∀ left ∈ vCards, ∀ right ∈ vCards, Listed list first left →
    Listed list second right → uidOf (list.friend first) = uidOf (list.friend second) → first = second

/-- The friends are those of the listing, each once, and what had the eTag of the
listing is the same object as before and was not asked for. -/
structure Converged (before after : FriendList) (vCards requested : List CardDavResponse) : Prop where
  pairs : ∀ name etag, (∃ id ∈ after.friends, ∃ vcard, (after.friend id).vcard = some vcard ∧
      vcardName vcard.url = name ∧ vcard.etag = etag) ↔
    ∃ response ∈ vCards, vcardName response.url = name ∧ response.etag = etag
  nodup : after.friends.Nodup
  once : ∀ first ∈ after.friends, ∀ second ∈ after.friends, uidOf (after.friend first) = uidOf (after.friend second) →
    first = second
  kept : ∀ id ∈ before.friends, ∀ response ∈ vCards, Current before id response →
    id ∈ after.friends ∧ after.friend id = before.friend id ∧ response ∉ requested

/-- An empty listing finds no friends, a contact that changed has kept its identifier,
and the key of a new one is free or that of a friend that is removed. -/
structure Mergeable (list : FriendList) (vCards : List CardDavResponse) (card : Text → Vcard) : Prop where
  emptied : vCards = [] → list.friends = []
  identified : ∀ id ∈ list.friends, ∀ response ∈ vCards, Listed list id response → ¬ Current list id response →
    uidOf (list.friend id) = (card response.url).uid
  free : ∀ response ∈ vCards, (∀ id ∈ list.friends, ¬ Listed list id response) → ∀ owner,
    ((card response.url).uid, owner) ∈ list.friendsMapByRefKey →
      ∃ id ∈ list.friends, Unlisted list vCards id ∧ (list.friend id).refKey = (card response.url).uid

theorem Converged.congr {before after other : FriendList} {vCards requested : List CardDavResponse}
    (converged : Converged before after vCards requested) (friends : other.friends = after.friends)
    (friend : other.friend = after.friend) : Converged before other vCards requested := by
  obtain ⟨pairs, nodup, once, kept⟩ := converged
  rw [← friends, ← friend] at pairs once kept
  exact ⟨pairs, friends ▸ nodup, once, kept⟩

section Download

variable {context : CardDavContext} {announced : String} {vCards answers : List CardDavResponse} {card : Text → Vcard}

theorem download_empty (complete : Complete list) {after : FriendList} (friends : after.friends = list.friends)
    (friend : after.friend = list.friend) (requested : List CardDavResponse) :
    Converged list after [] requested ↔ Mergeable list [] card := by
  constructor
  · intro converged
    refine ⟨?_, by simp, by simp⟩
    intro _
    rw [List.eq_nil_iff_forall_not_mem]
    intro id member
    obtain ⟨vcard, has, -⟩ := complete id member
    obtain ⟨response, inside, -⟩ := (converged.pairs (vcardName vcard.url) vcard.etag).mp
      ⟨id, friends ▸ member, vcard, friend ▸ has, rfl, rfl⟩
    exact List.not_mem_nil inside
  · intro mergeable
    have none := friends.trans (mergeable.emptied rfl)
    exact ⟨by simp [none], by simp [none], by simp [none], by simp⟩

/-- The state that the merge starts from: the friends that the listing has. -/
structure Pruned (list : FriendList) (vCards : List CardDavResponse) (base : FriendList) : Prop where
  members : Members base
  friends : ∀ id, id ∈ base.friends ↔ id ∈ list.friends ∧ ∃ response ∈ vCards, Listed list id response
  friend : ∀ id ∈ base.friends, base.friend id = list.friend id
  keys : ∀ key owner, key ≠ "" → ((key, owner) ∈ base.friendsMapByRefKey ↔ (key, owner) ∈ list.friendsMapByRefKey ∧
    ∀ id ∈ list.friends, Unlisted list vCards id → (list.friend id).refKey ≠ key)

theorem pruned (members : Members list) (complete : Complete list) (clear : Unambiguous list vCards)
    (distinct : Library.DistinctKeys Prod.fst list.friendsMapByRefKey) (book : AddressBook) :
    Pruned list vCards ((list.compare vCards).friendsToRemove.foldl (FriendList.removeFriend book) list) := by
  have compared := compare_spec members complete clear
  obtain ⟨kept, friends, friend⟩ := @removeFriends_spec book list members (list.compare vCards).friendsToRemove
  refine ⟨kept, ?_, ?_, ?_⟩
  · intro id
    rw [friends, compared.removes]
    apply and_congr_right
    intro member
    simp only [member, true_and, Unlisted, not_forall, not_not, exists_prop]
  · intro id inside
    exact friend id ((friends id).mp inside).2
  · intro key owner named
    rw [removeFriends_refKeys members compared.removesOnce (fun id gone => ((compared.removes id).mp gone).1) distinct
      named]
    apply and_congr_right
    intro _
    constructor
    · intro different id member unlisted
      exact different id ((compared.removes id).mpr ⟨member, unlisted⟩)
    · intro different id gone
      exact different id ((compared.removes id).mp gone).1 ((compared.removes id).mp gone).2

/-- What is known of the list once everything was merged. -/
theorem Pruned.merged (pruned : Pruned list vCards base) (unique : UniqueUids list vCards card)
    (clear : Unambiguous list vCards) {requested : List CardDavResponse} (asked : requested.Sublist vCards)
    (served : Served platform vCards requested answers card) (start : context.friendList = base) :
    Merged base context.syncUri card answers (context.mergeVcards platform answers).1.friendList := by
  have initial : Merged base context.syncUri card [] context.friendList := by
    rw [start]
    refine ⟨pruned.members, fun id member _ => ⟨member, rfl⟩, ?_, by simp, ?_, by simp⟩
    · intro id member
      exact .inl ⟨member, rfl, by simp⟩
    · intro first member second also same
      obtain ⟨inside, left, leftIn, leftListed⟩ := (pruned.friends first).mp member
      obtain ⟨there, right, rightIn, rightListed⟩ := (pruned.friends second).mp also
      rw [pruned.friend first member, pruned.friend second also] at same
      exact unique.own first inside second there left leftIn right rightIn leftListed rightListed same
  have source : ∀ answer ∈ answers, ∃ response ∈ vCards, response.url = answer.url := by
    intro answer member
    have key := served.returned.subset (List.mem_map_of_mem member)
    obtain ⟨response, inside, same⟩ := List.mem_map.mp key
    exact ⟨response, asked.subset inside, (Prod.mk.inj same).1⟩
  have distinct : (answers.map fun response => (card response.url).uid).Nodup := by
    have perm := served.returned.map fun key => (card key.1).uid
    simp only [List.map_map, Function.comp_def] at perm
    rw [perm.nodup_iff]
    apply List.Nodup.map_on
    · intro first member second also same
      have url := unique.remote first (asked.subset member) second (asked.subset also) same
      exact clear.response_eq (asked.subset member) (asked.subset also) (congrArg vcardName url)
    · exact asked.nodup (List.Nodup.of_map _ clear.distinctNames)
  have final := @mergeVcards_merged platform base card [] answers context initial served.parsed
    (by
      intro answer member
      obtain ⟨response, inside, url⟩ := source answer member
      exact url ▸ served.named response inside)
    distinct
  exact final

section Result

variable {requested : List CardDavResponse} {syncUri : Text} {after : FriendList}

theorem Served.source (served : Served platform vCards requested answers card) {answer : CardDavResponse}
    (member : answer ∈ answers) : ∃ response ∈ requested, response.url = answer.url ∧ response.etag = answer.etag := by
  obtain ⟨response, inside, same⟩ := List.mem_map.mp (served.returned.subset (List.mem_map_of_mem member))
  exact ⟨response, inside, (Prod.mk.inj same).1, (Prod.mk.inj same).2⟩

theorem Served.answer (served : Served platform vCards requested answers card) {response : CardDavResponse}
    (member : response ∈ requested) : ∃ answer ∈ answers, answer.url = response.url ∧ answer.etag = response.etag := by
  obtain ⟨answer, inside, same⟩ := List.mem_map.mp (served.returned.symm.subset (List.mem_map_of_mem member))
  exact ⟨answer, inside, (Prod.mk.inj same).1, (Prod.mk.inj same).2⟩

/-- A listed friend that has the identifier of no answer stays: its vCard was not asked
for, or has another identifier now. -/
theorem Merged.listed_stays (merged : Merged base syncUri card answers after) (pruned : Pruned list vCards base)
    (clear : Unambiguous list vCards) (unique : UniqueUids list vCards card) (asked : ∀ response ∈ requested,
      response ∈ vCards) (served : Served platform vCards requested answers card) {id : FriendId}
    (member : id ∈ list.friends) {response : CardDavResponse} (inside : response ∈ vCards)
    (listed : Listed list id response)
    (other : response ∉ requested ∨ uidOf (list.friend id) ≠ (card response.url).uid) :
    id ∈ after.friends ∧ after.friend id = list.friend id := by
  have here : id ∈ base.friends := (pruned.friends id).mpr ⟨member, response, inside, listed⟩
  have same := pruned.friend id here
  rw [← same]
  apply merged.stays id here
  intro answer among equal
  obtain ⟨source, wanted, url, -⟩ := served.source among
  rw [same, ← url] at equal
  have found := clear.response_eq inside (asked source wanted)
    (congrArg vcardName (unique.other id member response inside source (asked source wanted) listed equal))
  rcases other with free | different
  · exact free (found ▸ wanted)
  · exact different (found ▸ equal)

theorem Merged.converged (merged : Merged base syncUri card answers after) (pruned : Pruned list vCards base)
    (clear : Unambiguous list vCards) (unique : UniqueUids list vCards card)
    (asks : ∀ response, response ∈ requested ↔ response ∈ vCards ∧ ∀ id ∈ list.friends, ¬ Current list id response)
    (served : Served platform vCards requested answers card) (mergeable : Mergeable list vCards card) :
    Converged list after vCards requested := by
  have asked : ∀ response ∈ requested, response ∈ vCards := fun response wanted => ((asks response).mp wanted).1
  have unblocked : ∀ answer ∈ answers, ¬ Blocked base card answer := by
    rintro answer among ⟨missing, owner, taken⟩
    obtain ⟨response, wanted, url, -⟩ := served.source among
    rw [← url] at missing taken
    have inside := asked response wanted
    have unmatched : ∀ id ∈ list.friends, ¬ Listed list id response := by
      intro id member listed
      have here : id ∈ base.friends := (pruned.friends id).mpr ⟨member, response, inside, listed⟩
      apply missing id here
      rw [pruned.friend id here]
      exact mergeable.identified id member response inside listed (((asks response).mp wanted).2 id member)
    obtain ⟨before, others⟩ := (pruned.keys _ owner (served.named response inside).2).mp taken
    obtain ⟨id, member, unlisted, same⟩ := mergeable.free response inside unmatched owner before
    exact others id member unlisted same
  refine ⟨?_, merged.members.nodup, merged.once, ?_⟩
  · intro name etag
    constructor
    · rintro ⟨id, member, vcard, has, rfl, rfl⟩
      rcases merged.friends id member with ⟨here, unchanged, apart⟩ | ⟨answer, among, -, pulled⟩
      · obtain ⟨inList, response, inside, listed⟩ := (pruned.friends id).mp here
        rw [unchanged, pruned.friend id here] at has
        have current : Current list id response := by
          by_contra stale
          have wanted : response ∈ requested := by
            refine (asks response).mpr ⟨inside, ?_⟩
            intro other among upToDate
            exact stale (clear.oneFriend id inList other among response inside listed upToDate.listed ▸ upToDate)
          obtain ⟨answer, among, url, -⟩ := served.answer wanted
          apply apart answer among
          rw [pruned.friend id here, url]
          exact mergeable.identified id inList response inside listed stale
        obtain ⟨again, same, matched, etag⟩ := current
        obtain rfl : vcard = again := Option.some.inj (has.symm.trans same)
        exact ⟨response, inside, (clear.sameName id inList vcard has response inside matched).symm, etag.symm⟩
      · obtain rfl : vcard = keptVcard syncUri card answer := Option.some.inj (has.symm.trans pulled)
        obtain ⟨response, wanted, url, etag⟩ := served.source among
        refine ⟨response, asked response wanted, ?_, etag⟩
        simp only [keptVcard, vcardName_vcardUrl, url]
    · rintro ⟨response, inside, rfl, rfl⟩
      by_cases wanted : response ∈ requested
      · obtain ⟨answer, among, url, etag⟩ := served.answer wanted
        obtain ⟨id, member, pulled⟩ := merged.arrives answer among (unblocked answer among)
        refine ⟨id, member, keptVcard syncUri card answer, pulled, ?_, etag⟩
        simp only [keptVcard, vcardName_vcardUrl, url]
      · have known : ∃ id ∈ list.friends, Current list id response := by
          by_contra none
          push Not at none
          exact wanted ((asks response).mpr ⟨inside, none⟩)
        obtain ⟨id, member, current⟩ := known
        obtain ⟨stays, same⟩ := merged.listed_stays pruned clear unique asked served member inside current.listed
          (.inl wanted)
        obtain ⟨vcard, has, matched, etag⟩ := current
        exact ⟨id, stays, vcard, same ▸ has, clear.sameName id member vcard has response inside matched, etag⟩
  · intro id member response inside current
    have free : response ∉ requested := fun wanted => ((asks response).mp wanted).2 id member current
    obtain ⟨stays, same⟩ := merged.listed_stays pruned clear unique asked served member inside current.listed (.inl free)
    exact ⟨stays, same, free⟩

theorem Merged.mergeable (merged : Merged base syncUri card answers after) (pruned : Pruned list vCards base)
    (clear : Unambiguous list vCards) (unique : UniqueUids list vCards card) (asked : ∀ response ∈ requested,
      response ∈ vCards) (served : Served platform vCards requested answers card) (filled : vCards ≠ [])
    (converged : Converged list after vCards requested) : Mergeable list vCards card := by
  refine ⟨fun empty => absurd empty filled, ?_, ?_⟩
  · intro id member response inside listed stale
    by_contra different
    obtain ⟨stays, same⟩ := merged.listed_stays pruned clear unique asked served member inside listed (.inr different)
    obtain ⟨vcard, has, matched⟩ := listed
    obtain ⟨other, among, name, etag⟩ := (converged.pairs _ _).mp ⟨id, stays, vcard, same.symm ▸ has, rfl, rfl⟩
    rw [clear.sameName id member vcard has response inside matched] at name
    obtain rfl := clear.response_eq among inside name
    exact stale ⟨vcard, has, matched, etag.symm⟩
  · intro response inside unmatched owner known
    by_contra none
    push Not at none
    have blocked : Blocked base card response := by
      refine ⟨?_, owner, (pruned.keys _ owner (served.named response inside).2).mpr ⟨known, none⟩⟩
      intro id here same
      obtain ⟨member, other, among, listed⟩ := (pruned.friends id).mp here
      rw [pruned.friend id here] at same
      have url := unique.other id member other among response inside listed same
      exact unmatched id member (clear.response_eq among inside (congrArg vcardName url) ▸ listed)
    obtain ⟨id, member, vcard, has, name, -⟩ := (converged.pairs _ _).mpr ⟨response, inside, rfl, rfl⟩
    rcases merged.friends id member with ⟨here, unchanged, -⟩ | ⟨answer, among, free, pulled⟩
    · obtain ⟨inList, other, otherInside, listed⟩ := (pruned.friends id).mp here
      rw [unchanged, pruned.friend id here] at has
      obtain ⟨again, same, matched⟩ := listed
      obtain rfl : vcard = again := Option.some.inj (has.symm.trans same)
      rw [clear.sameName id inList vcard has other otherInside matched] at name
      obtain rfl := clear.response_eq otherInside inside name
      exact unmatched id inList ⟨vcard, has, matched⟩
    · obtain rfl : vcard = keptVcard syncUri card answer := Option.some.inj (has.symm.trans pulled)
      obtain ⟨source, wanted, url, -⟩ := served.source among
      simp only [keptVcard, vcardName_vcardUrl, ← url] at name
      obtain rfl := clear.response_eq (asked source wanted) inside name
      apply free
      unfold Blocked
      rw [← url]
      exact blocked

end Result

end Download

/-- A friend that was downloaded before. -/
def knownVcard : Vcard :=
  { fullName := "A", uid := "a", url := "https://example.org/home/book/a.vcf".toList, etag := "d" }

def knownFriend : FriendList where
  friend _ := { refKey := "a", vcard := some knownVcard, inList := true }
  friends := [0]

/-- The contact changed on the server. -/
def changedListing : List CardDavResponse := [{ url := "/home/book/a.vcf".toList, etag := "e" }]

end CardDavContext
end Liblinphone
