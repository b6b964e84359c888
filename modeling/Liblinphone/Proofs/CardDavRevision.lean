import Liblinphone.CardDavContext
import Liblinphone.Proofs.FriendMembership

/-! The revision that a friend list keeps is the cTag of a download that ended. While
a synchronisation is under way it has one query in flight, and the cTag of the context
is the one that this query will save. -/

namespace Liblinphone

namespace FriendList

variable {book : AddressBook}

/-- Neither the revision of the list nor the friends that wait are changed. -/
def Untouched (before after : FriendList) : Prop :=
  after.revision = before.revision ∧ after.dirtyFriendsToUpdate = before.dirtyFriendsToUpdate

theorem Untouched.refl (list : FriendList) : Untouched list list := ⟨rfl, rfl⟩

theorem Untouched.trans {first second third : FriendList} (left : Untouched first second)
    (right : Untouched second third) : Untouched first third :=
  ⟨right.1.trans left.1, right.2.trans left.2⟩

theorem Untouched.foldl {step : FriendList → α → FriendList} (each : ∀ list item, Untouched list (step list item))
    (items : List α) (list : FriendList) : Untouched list (items.foldl step list) := by
  induction items generalizing list with
  | nil => exact .refl list
  | cons item rest ih => exact (each list item).trans (ih _)

theorem addToMap_untouched (id : FriendId) (list : FriendList) (uri : String) :
    Untouched list (list.addFriendToListMapIfNotInItYet id uri) := by
  unfold addFriendToListMapIfNotInItYet
  split
  next => exact .refl list
  next =>
    split
    next => exact .refl list
    next => exact ⟨rfl, rfl⟩

theorem insertRefKey_untouched (list : FriendList) (id : FriendId) : Untouched list (list.insertRefKey id) := by
  unfold insertRefKey
  dsimp only
  split
  next => exact .refl list
  next => exact ⟨rfl, rfl⟩

theorem addIntoMaps_untouched (list : FriendList) (id : FriendId) :
    Untouched list (list.addAddressesAndNumbersIntoMaps book id) :=
  (insertRefKey_untouched list id).trans (Untouched.foldl (addToMap_untouched id) _ _)

/-- A friend that is added is the first that waits, when it has to be synchronized. -/
theorem addFriend_keeps (list : FriendList) (id : FriendId) (synchronize : Bool) :
    (list.addFriend book id synchronize).revision = list.revision ∧
      ((list.addFriend book id synchronize).dirtyFriendsToUpdate = list.dirtyFriendsToUpdate ∨
        synchronize = true ∧
          (list.addFriend book id synchronize).dirtyFriendsToUpdate = id :: list.dirtyFriendsToUpdate) := by
  unfold addFriend
  split
  next => exact ⟨rfl, .inl rfl⟩
  next outside =>
    split
    next => exact ⟨rfl, .inl rfl⟩
    next =>
      split
      next => exact ⟨rfl, .inl rfl⟩
      next =>
        have indexed := @addIntoMaps_untouched book
          { list.changeFriend id (fun lf => { lf with inList := true }) with friends := id :: list.friends } id
        unfold importFriend
        rw [if_neg outside]
        cases synchronize with
        | true => exact ⟨indexed.1, .inr ⟨rfl, congrArg (id :: ·) indexed.2⟩⟩
        | false => exact ⟨indexed.1, .inl indexed.2⟩

theorem addLocalFriend_untouched (list : FriendList) (id : FriendId) :
    Untouched list (list.addFriend book id false) := by
  obtain ⟨revision, dirty⟩ := @addFriend_keeps book list id false
  refine ⟨revision, dirty.resolve_right ?_⟩
  rintro ⟨synchronized, -⟩
  exact Bool.noConfusion synchronized

theorem eraseUri_untouched (list : FriendList) (uri : String) : Untouched list (list.eraseUri uri) := by
  unfold eraseUri
  split
  next => exact .refl list
  next => exact ⟨rfl, rfl⟩

theorem eraseRefKey_untouched (list : FriendList) (key : String) : Untouched list (list.eraseRefKey key) := by
  unfold eraseRefKey
  split
  next => exact .refl list
  next => exact ⟨rfl, rfl⟩

theorem removeFriend_untouched (list : FriendList) (id : FriendId) : Untouched list (list.removeFriend book id) := by
  unfold removeFriend
  split
  next =>
    exact (eraseRefKey_untouched list _).trans (Untouched.foldl eraseUri_untouched _ _)
  next => exact .refl list

end FriendList

namespace CardDavContext

open FriendList Library

variable {platform : CardDavPlatform} {context : CardDavContext}

theorem mergeFriend_untouched (list : FriendList) (vcard : Vcard) :
    Untouched list (mergeFriend platform list vcard).1 := by
  unfold mergeFriend
  dsimp only
  split
  next => exact ⟨rfl, rfl⟩
  next => exact addLocalFriend_untouched _ _

/-- Merging vCards changes the friends, and nothing of the synchronisation. -/
theorem mergeVcards_frame (context : CardDavContext) (vCards : List CardDavResponse) :
    (context.mergeVcards platform vCards).1.ctag = context.ctag ∧
      (context.mergeVcards platform vCards).1.inFlight = context.inFlight ∧
      Untouched context.friendList (context.mergeVcards platform vCards).1.friendList := by
  induction vCards generalizing context with
  | nil => exact ⟨rfl, rfl, .refl _⟩
  | cons response rest ih =>
    obtain ⟨ctag, inFlight, untouched⟩ := ih (context.mergeVcard platform response).1
    have first : (context.mergeVcard platform response).1.ctag = context.ctag ∧
        (context.mergeVcard platform response).1.inFlight = context.inFlight ∧
        Untouched context.friendList (context.mergeVcard platform response).1.friendList := by
      unfold mergeVcard
      split
      next => exact ⟨rfl, rfl, .refl _⟩
      next => exact ⟨rfl, rfl, mergeFriend_untouched _ _⟩
    exact ⟨ctag.trans first.1, inFlight.trans first.2.1, first.2.2.trans untouched⟩

theorem mergeVcards_events (context : CardDavContext) (vCards : List CardDavResponse) :
    ∀ event ∈ (context.mergeVcards platform vCards).2, ∃ id, event = .removed id := by
  induction vCards generalizing context with
  | nil => simp [mergeVcards]
  | cons response rest ih =>
    intro event member
    rcases List.mem_append.mp member with first | later
    · unfold mergeVcard at first
      split at first
      next => simp at first
      next =>
        simp only [mergeFriend] at first
        split at first
        next oldFriend _ => exact ⟨oldFriend, by simpa using first⟩
        next => simp at first
    · exact ih _ event later

end CardDavContext

/-- The queries of a synchronisation, unlike a PUT and the pull after it. -/
def CardDavQuery.isSync : CardDavQuery → Bool
  | .put _ => false
  | .addressbookMultiget none _ => false
  | _ => true

namespace CardDavContext

open FriendList Library

variable {platform : CardDavPlatform} {context : CardDavContext} {start : String} {past : List CardDavEvent}

/-- The vCards of a cTag are in the list: they were at the start, or a download ended. -/
def Downloaded (start : String) (past : List CardDavEvent) (ctag : String) : Prop :=
  ctag = "" ∨ ctag = start ∨ .applied ctag ∈ past

theorem Downloaded.mono {ctag : String} (downloaded : Downloaded start past ctag) (events : List CardDavEvent) :
    Downloaded start (past ++ events) ctag := by
  rcases downloaded with empty | initial | applied
  · exact .inl empty
  · exact .inr (.inl initial)
  · exact .inr (.inr (List.mem_append_left _ applied))

/-- No download is skipped that has not been made. -/
def SkipsDownloaded (start : String) (past : List CardDavEvent) : Prop :=
  EachAfter (fun before event => ∀ ctag, event = .skipped ctag → Downloaded start before ctag) past

theorem SkipsDownloaded.append (skips : SkipsDownloaded start past) {events : List CardDavEvent}
    (none : ∀ event ∈ events, ∀ ctag, event ≠ .skipped ctag) : SkipsDownloaded start (past ++ events) :=
  EachAfter.append_always skips fun event member _ ctag same => absurd same (none event member ctag)

/-- The cTag of the context is the one that the query stands for. -/
def Belongs (context : CardDavContext) : CardDavQuery → Prop
  | .put _ => True
  | .addressbookMultiget none _ => True
  | .addressbookMultiget (some announced) _ => context.ctag = announced
  | .addressbookQuery announced => context.ctag = announced
  | _ => context.ctag = context.friendList.revision

theorem belongs_of_not_sync {query : CardDavQuery} (other : query.isSync = false) : Belongs context query := by
  cases query with
  | put id => trivial
  | addressbookMultiget announced vCards =>
    cases announced with
    | none => trivial
    | some => simp [CardDavQuery.isSync] at other
  | _ => simp [CardDavQuery.isSync] at other

theorem Belongs.congr {other : CardDavContext} {query : CardDavQuery} (belongs : Belongs context query)
    (ctag : other.ctag = context.ctag) (revision : other.friendList.revision = context.friendList.revision) :
    Belongs other query := by
  cases query with
  | put id => trivial
  | addressbookMultiget announced vCards =>
    cases announced with
    | none => trivial
    | some announced => exact ctag.trans belongs
  | addressbookQuery announced => exact ctag.trans belongs
  | _ => exact (ctag.trans belongs).trans revision.symm

structure Orderly (start : String) (past : List CardDavEvent) (context : CardDavContext) : Prop where
  saved : Downloaded start past context.friendList.revision
  skips : SkipsDownloaded start past
  one : (context.inFlight.filter CardDavQuery.isSync).length ≤ 1
  belongs : ∀ query ∈ context.inFlight, Belongs context query

/-- No synchronisation is under way. -/
def Calm (context : CardDavContext) : Prop := ∀ query ∈ context.inFlight, query.isSync = false

theorem Calm.orderly (calm : Calm context) (saved : Downloaded start past context.friendList.revision)
    (skips : SkipsDownloaded start past) : Orderly start past context := by
  refine ⟨saved, skips, ?_, fun query member => belongs_of_not_sync (calm query member)⟩
  rw [List.filter_eq_nil_iff.mpr fun query member => by simp [calm query member]]
  simp

/-- A synchronisation goes on with its next query. -/
theorem Calm.send (calm : Calm context) (saved : Downloaded start past context.friendList.revision)
    (skips : SkipsDownloaded start past) {query : CardDavQuery} (belongs : Belongs context query) :
    Orderly start (past ++ (context.sendQuery query).2) (context.sendQuery query).1 := by
  refine ⟨saved.mono _, skips.append (by simp [sendQuery]), ?_, ?_⟩
  · have quiet : context.inFlight.filter CardDavQuery.isSync = [] :=
      List.filter_eq_nil_iff.mpr fun query member => by simp [calm query member]
    simp only [sendQuery, List.filter_append, quiet, List.nil_append]
    exact (List.length_filter_le _ _).trans (by simp)
  · intro other member
    simp only [sendQuery, List.mem_append, List.mem_singleton] at member
    rcases member with known | rfl
    · exact belongs_of_not_sync (calm other known)
    · exact belongs

theorem Orderly.congr {other : CardDavContext} (orderly : Orderly start past context) (ctag : other.ctag = context.ctag)
    (revision : other.friendList.revision = context.friendList.revision) (inFlight : other.inFlight = context.inFlight) :
    Orderly start past other := by
  refine ⟨revision ▸ orderly.saved, orderly.skips, inFlight ▸ orderly.one, ?_⟩
  intro query member
  exact (orderly.belongs query (inFlight ▸ member)).congr ctag revision

theorem Orderly.append (orderly : Orderly start past context) {events : List CardDavEvent}
    (none : ∀ event ∈ events, ∀ ctag, event ≠ .skipped ctag) : Orderly start (past ++ events) context :=
  ⟨orderly.saved.mono _, orderly.skips.append none, orderly.one, orderly.belongs⟩

theorem Orderly.sendOther (orderly : Orderly start past context) {query : CardDavQuery} (other : query.isSync = false) :
    Orderly start (past ++ (context.sendQuery query).2) (context.sendQuery query).1 := by
  refine ⟨orderly.saved.mono _, orderly.skips.append (by simp [sendQuery]), ?_, ?_⟩
  · simpa [sendQuery, List.filter_append, other] using orderly.one
  · intro sent member
    simp only [sendQuery, List.mem_append, List.mem_singleton] at member
    rcases member with known | rfl
    · exact (orderly.belongs sent known).congr rfl rfl
    · exact belongs_of_not_sync other

section Answers

variable {query : CardDavQuery}

/-- The context once the query that is answered has left. -/
def without (context : CardDavContext) (query : CardDavQuery) : CardDavContext :=
  { context with inFlight := context.inFlight.erase query }

theorem Orderly.without (orderly : Orderly start past context) (query : CardDavQuery) :
    Orderly start past (context.without query) := by
  refine ⟨orderly.saved, orderly.skips, ?_, ?_⟩
  · exact (List.erase_sublist.filter _).length_le.trans orderly.one
  · intro other member
    exact (orderly.belongs other (List.mem_of_mem_erase member)).congr rfl rfl

theorem Orderly.calm (orderly : Orderly start past context) (member : query ∈ context.inFlight)
    (sync : query.isSync = true) : Calm (context.without query) := by
  have count := ((List.perm_cons_erase member).filter CardDavQuery.isSync).length_eq
  rw [List.filter_cons_of_pos sync, List.length_cons] at count
  have none : (context.inFlight.erase query).filter CardDavQuery.isSync = [] := by
    apply List.eq_nil_of_length_eq_zero
    have one := orderly.one
    omega
  intro other inside
  exact Bool.eq_false_iff.mpr (List.filter_eq_nil_iff.mp none other inside)

/-- A query that is sent again, to another place. -/
theorem Orderly.resend (orderly : Orderly start past context) (member : query ∈ context.inFlight) :
    Orderly start (past ++ ((context.without query).sendQuery query).2) ((context.without query).sendQuery query).1 := by
  cases sync : query.isSync with
  | true => exact (orderly.calm member sync).send orderly.saved orderly.skips ((orderly.belongs query member).congr rfl rfl)
  | false => exact (orderly.without query).sendOther sync

theorem Orderly.unchanged (orderly : Orderly start past context) : Orderly start (past ++ []) context := by
  simpa using orderly

/-- The end of a synchronisation saves the cTag of the context. -/
theorem revision_done (context : CardDavContext) :
    (context.serverToClientSyncDone true).friendList.revision =
      if context.ctag = "" then context.friendList.revision else context.ctag := by
  unfold serverToClientSyncDone
  by_cases empty : context.ctag = ""
  · simp [empty]
  · simp [empty, updateRevision]

theorem inFlight_done (context : CardDavContext) (success : Bool) :
    (context.serverToClientSyncDone success).inFlight = context.inFlight := by
  unfold serverToClientSyncDone
  split
  next => rfl
  next => rfl

theorem ctag_done (context : CardDavContext) (success : Bool) :
    (context.serverToClientSyncDone success).ctag = context.ctag := by
  unfold serverToClientSyncDone
  split
  next => rfl
  next => rfl

theorem Calm.done (calm : Calm context) (success : Bool) : Calm (context.serverToClientSyncDone success) := by
  intro query member
  rw [inFlight_done] at member
  exact calm query member

/-- A download is skipped at the cTag that is saved already. -/
theorem Calm.skip (calm : Calm context) (saved : Downloaded start past context.friendList.revision)
    (skips : SkipsDownloaded start past) (same : context.ctag = context.friendList.revision) :
    Orderly start (past ++ (context.skipSync context.ctag).2) (context.skipSync context.ctag).1 := by
  have kept : (context.serverToClientSyncDone true).friendList.revision = context.friendList.revision := by
    rw [revision_done, same, ite_self]
  apply (calm.done true).orderly
  · rw [kept]
    exact saved.mono _
  · apply EachAfter.concat skips
    intro ctag skipped
    obtain rfl : context.ctag = ctag := by simpa using skipped
    exact same ▸ saved

/-- A download has ended at the cTag of the context. -/
theorem Calm.applied (calm : Calm context) (saved : Downloaded start past context.friendList.revision)
    (skips : SkipsDownloaded start past) {events : List CardDavEvent} (ends : .applied context.ctag ∈ events)
    (none : ∀ event ∈ events, ∀ ctag, event ≠ .skipped ctag) :
    Orderly start (past ++ events) (context.serverToClientSyncDone true) := by
  apply (calm.done true).orderly
  · rw [revision_done]
    split
    next => exact saved.mono _
    next => exact .inr (.inr (List.mem_append_right _ ends))
  · exact skips.append none

end Answers

/-- Queries are sent by one synchronisation at a time, the discovery of the address book
tells no cTag, and what is pulled after a PUT finds the cTag that is saved. -/
def Awaited (platform : CardDavPlatform) (context : CardDavContext) : CardDavInput → Prop
  | .synchronize => ∀ query ∈ context.inFlight, query.isSync = false
  | .answered .addressBookUrlAndCtag response => isSuccess response.code = true →
      ∀ addressbook, (platform.addressBookUrlAndCtag response.body).head? = some addressbook →
        addressbook.ctag = "" ∨ addressbook.ctag = context.ctag
  | .answered (.addressbookMultiget none _) response => isSuccess response.code = true →
      context.ctag = "" ∨ context.ctag = context.friendList.revision
  | _ => True

theorem ctag_answered (calm : Calm context) (saved : Downloaded start past context.friendList.revision)
    (skips : SkipsDownloaded start past) (same : context.ctag = context.friendList.revision) (ctag : String) :
    Orderly start (past ++ (context.addressBookCtagRetrieved ctag).2) (context.addressBookCtagRetrieved ctag).1 := by
  unfold addressBookCtagRetrieved
  split
  next =>
    have calm : Calm { context with ctag := ctag } := calm
    exact calm.send saved skips rfl
  next known =>
    obtain ⟨-, rfl⟩ : ¬ ctag = "" ∧ ctag = context.ctag := by simpa using known
    exact calm.skip saved skips same

theorem addressBook_answered (calm : Calm context) (saved : Downloaded start past context.friendList.revision)
    (skips : SkipsDownloaded start past) (same : context.ctag = context.friendList.revision)
    {books : List CardDavResponse}
    (untold : ∀ addressbook, books.head? = some addressbook → addressbook.ctag = "" ∨ addressbook.ctag = context.ctag) :
    Orderly start (past ++ (context.addressBookUrlAndCtagRetrieved platform books).2)
      (context.addressBookUrlAndCtagRetrieved platform books).1 := by
  cases books with
  | nil => exact (calm.orderly saved skips).unchanged
  | cons addressbook rest =>
    unfold addressBookUrlAndCtagRetrieved
    dsimp only
    split
    next changed =>
      have empty : addressbook.ctag = "" := by
        rcases untold addressbook rfl with empty | equal
        · exact empty
        · simpa [equal] using changed
      rw [if_neg (by simp [empty])]
      apply Calm.send
      · exact calm
      · exact saved
      · exact skips
      · rfl
    next known =>
      obtain ⟨-, told⟩ : ¬ addressbook.ctag = "" ∧ addressbook.ctag = context.ctag := by simpa using known
      rw [told]
      exact calm.skip saved skips same

theorem listing_answered (calm : Calm context) (saved : Downloaded start past context.friendList.revision)
    (skips : SkipsDownloaded start past) (vCards : List CardDavResponse) :
    Orderly start (past ++ (context.vcardsFetched platform context.ctag vCards).2)
      (context.vcardsFetched platform context.ctag vCards).1 := by
  unfold vcardsFetched
  split
  next => exact calm.applied saved skips (by simp) (by simp)
  next =>
    dsimp only
    have untouched := Untouched.foldl (@removeFriend_untouched platform.book)
      (context.friendList.compare vCards).friendsToRemove context.friendList
    have removed : ∀ event ∈ (context.friendList.compare vCards).friendsToRemove.map CardDavEvent.removed, ∀ ctag,
        event ≠ .skipped ctag := by
      intro event member ctag same
      obtain ⟨id, -, rfl⟩ := List.mem_map.mp member
      exact CardDavEvent.noConfusion same
    rw [← List.append_assoc]
    apply @Calm.send { context with friendList := _ }
    · exact calm
    · rw [untouched.1]
      exact saved.mono _
    · exact skips.append removed
    · rfl

theorem pull_answered (calm : Calm context) (saved : Downloaded start past context.friendList.revision)
    (skips : SkipsDownloaded start past) (vCards : List CardDavResponse) :
    Orderly start (past ++ (context.vcardsPulled platform (some context.ctag) vCards).2)
      (context.vcardsPulled platform (some context.ctag) vCards).1 := by
  obtain ⟨ctag, inFlight, untouched⟩ := @mergeVcards_frame platform context vCards
  unfold vcardsPulled
  apply Calm.applied
  · intro query member
    exact calm query (inFlight ▸ member)
  · rw [untouched.1]
    exact saved
  · exact skips
  · simp [ctag]
  · intro event member other same
    rcases List.mem_append.mp member with removed | applied
    · obtain ⟨id, rfl⟩ := mergeVcards_events context vCards event removed
      exact CardDavEvent.noConfusion same
    · simp [same] at applied

/-- What was pulled after a PUT leaves the revision as it is. -/
theorem put_pull_answered (orderly : Orderly start past context)
    (same : context.ctag = "" ∨ context.ctag = context.friendList.revision) (vCards : List CardDavResponse) :
    Orderly start (past ++ (context.vcardsPulled platform none vCards).2)
      (context.vcardsPulled platform none vCards).1 := by
  obtain ⟨ctag, inFlight, untouched⟩ := @mergeVcards_frame platform context vCards
  unfold vcardsPulled
  apply Orderly.append
  · apply orderly.congr
    · rw [ctag_done, ctag]
    · rw [revision_done, ctag, untouched.1]
      split
      next => rfl
      next filled => exact same.resolve_left filled
    · rw [inFlight_done, inFlight]
  · intro event member other same
    dsimp only at member
    rw [Option.map_none, Option.toList_none, List.append_nil] at member
    obtain ⟨id, rfl⟩ := mergeVcards_events context vCards event member
    exact CardDavEvent.noConfusion same

theorem put_answered (orderly : Orderly start past context) (id : FriendId) (etag : String) :
    Orderly start (past ++ (context.putAnswered id etag).2) (context.putAnswered id etag).1 := by
  unfold putAnswered
  split
  next => exact orderly.unchanged
  next =>
    split
    next => exact orderly.sendOther rfl
    next => exact orderly.unchanged.congr rfl rfl rfl

theorem success_answered (orderly : Orderly start past context) {query : CardDavQuery} (member : query ∈ context.inFlight)
    {response : HttpResponse} (awaited : Awaited platform context (.answered query response))
    (success : isSuccess response.code = true) :
    Orderly start (past ++ ((context.without query).processQueryResponse platform query response).2)
      ((context.without query).processQueryResponse platform query response).1 := by
  have belongs := orderly.belongs query member
  unfold processQueryResponse
  rw [if_pos success]
  cases query with
  | userPrincipal =>
    have calm := orderly.calm member rfl
    dsimp only [userPrincipalUrlRetrieved]
    split
    next =>
      apply Calm.send
      · exact calm
      · exact orderly.saved
      · exact orderly.skips
      · exact belongs
    next =>
      split
      next => exact (calm.orderly orderly.saved orderly.skips).unchanged
      next =>
        apply Calm.send
        · exact calm
        · exact orderly.saved
        · exact orderly.skips
        · exact belongs
  | userAddressBooksHome =>
    have calm := orderly.calm member rfl
    dsimp only [userAddressBookHomeUrlRetrieved]
    split
    next =>
      apply Calm.send
      · exact calm
      · exact orderly.saved
      · exact orderly.skips
      · exact belongs
    next => exact (calm.orderly orderly.saved orderly.skips).unchanged
  | addressBookUrlAndCtag =>
    exact addressBook_answered (orderly.calm member rfl) orderly.saved orderly.skips belongs (awaited success)
  | addressBookCtag => exact ctag_answered (orderly.calm member rfl) orderly.saved orderly.skips belongs _
  | addressbookQuery announced =>
    obtain rfl : context.ctag = announced := belongs
    exact listing_answered (orderly.calm member rfl) orderly.saved orderly.skips _
  | addressbookMultiget announced vCards =>
    cases announced with
    | none => exact put_pull_answered (orderly.without _) (awaited success) _
    | some announced =>
      obtain rfl : context.ctag = announced := belongs
      exact pull_answered (orderly.calm member rfl) orderly.saved orderly.skips _
  | put id => exact put_answered (orderly.without _) id response.etag

theorem answer_orderly (orderly : Orderly start past context) {query : CardDavQuery} (member : query ∈ context.inFlight)
    {response : HttpResponse} (awaited : Awaited platform context (.answered query response)) :
    Orderly start (past ++ (context.answer platform query response).2) (context.answer platform query response).1 := by
  unfold answer
  dsimp only
  split
  next =>
    split
    next => exact (orderly.without query).unchanged
    next => exact orderly.resend member
  next =>
    split
    next => exact (orderly.without query).unchanged
    next =>
      by_cases success : isSuccess response.code = true
      · exact success_answered orderly member awaited success
      · unfold processQueryResponse
        rw [if_neg success]
        split
        next => exact (orderly.without query).unchanged
        next =>
          have orderly : Orderly start past { context with wellKnownQueried := true } := orderly.congr rfl rfl rfl
          exact orderly.resend member

theorem put_orderly (orderly : Orderly start past context) (id : FriendId) :
    Orderly start (past ++ (context.putVcard platform id).2) (context.putVcard platform id).1 := by
  unfold putVcard
  split
  next => exact orderly.unchanged
  next =>
    split
    next => exact orderly.unchanged
    next =>
      split
      next => exact orderly.unchanged
      next =>
        apply Orderly.sendOther
        · exact orderly.congr rfl rfl rfl
        · rfl

theorem puts_orderly (orderly : Orderly start past context) (ids : List FriendId) :
    Orderly start (past ++ (context.putVcards platform ids).2) (context.putVcards platform ids).1 := by
  induction ids generalizing past context with
  | nil => exact orderly.unchanged
  | cons id rest ih =>
    have others := ih (@put_orderly platform _ _ _ orderly id)
    rw [List.append_assoc] at others
    exact others

theorem step_orderly (past : List CardDavEvent) (context : CardDavContext) (input : CardDavInput)
    (awaited : Awaited platform context input) (orderly : Orderly start past context) :
    Orderly start (past ++ (context.step platform input).2) (context.step platform input).1 := by
  cases input with
  | synchronize =>
    dsimp only [step, synchronize]
    split
    next =>
      apply Calm.send
      · exact awaited
      · exact orderly.saved
      · exact orderly.skips
      · rfl
    next =>
      apply Calm.send
      · exact awaited
      · exact orderly.saved
      · exact orderly.skips
      · rfl
  | answered query response =>
    dsimp only [step]
    split
    next member => exact answer_orderly orderly member awaited
    next => exact orderly.unchanged
  | interrupted query => exact (orderly.without query).unchanged
  | addFriend id =>
    have marked : ∀ event ∈ (context.addFriend platform id).2, ∀ ctag, event ≠ .skipped ctag := by
      intro event member ctag same
      obtain ⟨other, -, rfl⟩ := List.mem_map.mp member
      exact CardDavEvent.noConfusion same
    exact (orderly.append marked).congr rfl (addFriend_keeps context.friendList id true).1 rfl
  | edit id vcard => exact orderly.unchanged.congr rfl rfl rfl
  | done id changed =>
    dsimp only [step, done]
    split
    next =>
      split
      next => exact (orderly.append (by simp)).congr rfl rfl rfl
      next => exact orderly.unchanged.congr rfl rfl rfl
    next => exact orderly.unchanged
  | updateDirtyFriends => exact (puts_orderly orderly _).congr rfl rfl rfl

/-- The saved revision, and each cTag at which a download was skipped, is the first one
or that of a download that had ended. -/
theorem saved_revision_was_downloaded (quiet : context.inFlight = []) {inputs : List CardDavInput}
    (awaited : Meets (CardDavContext.step platform) (Awaited platform) context inputs) :
    Downloaded context.friendList.revision (run (CardDavContext.step platform) context inputs).2
        (run (CardDavContext.step platform) context inputs).1.friendList.revision ∧
      SkipsDownloaded context.friendList.revision (run (CardDavContext.step platform) context inputs).2 := by
  have initial : Orderly context.friendList.revision [] context := by
    refine ⟨.inr (.inl rfl), EachAfter.nil _, ?_, ?_⟩
    · simp [quiet]
    · simp [quiet]
  have final := run_invariant (Orderly context.friendList.revision) step_orderly initial awaited
  rw [List.nil_append] at final
  exact ⟨final.saved, final.skips⟩

/-- A server with one contact. A body is named by what it holds. -/
def oneContact : CardDavPlatform where
  book := FriendList.domainBook
  userPrincipalUrl body := if body = "principal" then "/principal/".toList else []
  userAddressBookUrl body := if body = "home" then "/home/".toList else []
  addressBookUrlAndCtag body := if body = "book" then [{ url := "/home/book/".toList, ctag := "1" }] else []
  addressBookCtag body := if body = "ctag" then "1" else ""
  vcardsEtags body := if body = "listing" then [{ url := "/home/book/a.vcf".toList, etag := "e" }] else []
  vcards body := if body = "vcards" then [{ url := "/home/book/a.vcf".toList, etag := "e", vCard := "a" }] else []
  vcardFromBuffer buffer := if buffer = "a" then some { fullName := "A", uid := "a" } else none
  uuid generated := String.ofList (numberText generated)
  urlSchemeHostAndPort := "https://example.org".toList

def noFriends : FriendList := { friend := fun _ => {} }

/-- The cTag changed, and the download of the contact ends. -/
theorem changed_ctag_downloaded :
    let context : CardDavContext := { friendList := { noFriends with revision := "0" } }
    let inputs : List CardDavInput := [.synchronize, .answered .addressBookCtag { body := "ctag" },
      .answered (.addressbookQuery "1") { body := "listing" },
      .answered (.addressbookMultiget (some "1") [{ url := "/home/book/a.vcf".toList, etag := "e" }]) { body := "vcards" }]
    (run (CardDavContext.step oneContact) context inputs).1.friendList.revision = "1" ∧
      Downloaded "0" (run (CardDavContext.step oneContact) context inputs).2 "1" := by
  intro context inputs
  have downloaded := @saved_revision_was_downloaded oneContact context rfl inputs
    ⟨fun _ member => absurd member List.not_mem_nil, trivial, trivial, trivial, trivial⟩
  exact ⟨by decide +kernel, downloaded.1⟩

/-- The address book is discovered, its listing fails, and the next synchronisation is
skipped. -/
theorem failed_discovery_skipped :
    let context : CardDavContext := { friendList := noFriends }
    let inputs : List CardDavInput := [.synchronize, .answered .userPrincipal { body := "principal" },
      .answered .userAddressBooksHome { body := "home" }, .answered .addressBookUrlAndCtag { body := "book" },
      .answered (.addressbookQuery "1") { code := 500 }, .synchronize, .answered .addressBookCtag { body := "ctag" }]
    (run (CardDavContext.step oneContact) context inputs).1.friendList.revision = "1" ∧
      ¬ Downloaded "" (run (CardDavContext.step oneContact) context inputs).2 "1" ∧
      ¬ SkipsDownloaded "" (run (CardDavContext.step oneContact) context inputs).2 := by
  intro context inputs
  have events : (run (CardDavContext.step oneContact) context inputs).2 = [.sent .userPrincipal,
      .sent .userAddressBooksHome, .sent .addressBookUrlAndCtag, .sent (.addressbookQuery "1"), .sent .addressBookCtag,
      .skipped "1"] := by decide +kernel
  refine ⟨by decide +kernel, ?_, ?_⟩
  · simp [events, Downloaded]
  · rw [events]
    intro skips
    have missing := skips [.sent .userPrincipal, .sent .userAddressBooksHome, .sent .addressBookUrlAndCtag,
      .sent (.addressbookQuery "1"), .sent .addressBookCtag] (.skipped "1") [] rfl "1" rfl
    simp [Downloaded] at missing

end CardDavContext
end Liblinphone
