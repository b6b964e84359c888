import Liblinphone.Proofs.CardDavMembers

/-! A local edit waits in the list until it is put on the server. It is lost when the
context puts nothing and the list forgets it, or when a download takes its friend out
of the list first. The guard of a run names the steps where neither happens. -/

namespace Liblinphone

namespace CardDavContext

open FriendList Library

variable {platform : CardDavPlatform} {context after : CardDavContext} {past events : List CardDavEvent}

/-- Whether a friend waits once an event has happened. -/
def wait (id : FriendId) (waits : Bool) : CardDavEvent → Bool
  | .dirtied other => waits || other == id
  | .sent (.put other) => waits && other != id
  | _ => waits

/-- A friend waits since it was marked, until it is put on the server. -/
def waiting (past : List CardDavEvent) (id : FriendId) : Bool := past.foldl (wait id) false

/-- Nobody forgets a friend that waits, and nobody takes a friend out of the list that
waits and has never been put on the server. -/
structure EditsKept (past : List CardDavEvent) (context : CardDavContext) : Prop where
  waits : ∀ id, waiting past id = true → id ∈ context.friendList.dirtyFriendsToUpdate
  removes : EachAfter (fun before event => ∀ id, event = .removed id → .dirtied id ∈ before →
    .sent (.put id) ∈ before) past

section Waiting

variable {id : FriendId}

theorem wait_idle {waits : Bool} {event : CardDavEvent} (clean : event ≠ .dirtied id) (idle : waits = false) :
    wait id waits event = false := by
  cases event with
  | dirtied other =>
    have different : other ≠ id := by
      rintro rfl
      exact clean rfl
    simp [wait, idle, different]
  | sent query =>
    cases query with
    | put other => simp [wait, idle]
    | _ => exact idle
  | _ => exact idle

theorem foldl_wait_idle {events : List CardDavEvent} (clean : ∀ event ∈ events, event ≠ .dirtied id) :
    events.foldl (wait id) false = false := by
  induction events with
  | nil => rfl
  | cons event rest ih =>
    rw [List.foldl_cons, wait_idle (clean event List.mem_cons_self) rfl]
    exact ih fun other member => clean other (List.mem_cons_of_mem _ member)

/-- Without a mark, nobody begins to wait. -/
theorem waiting_append (clean : ∀ event ∈ events, event ≠ .dirtied id) (waits : waiting (past ++ events) id = true) :
    waiting past id = true := by
  cases before : waiting past id with
  | true => rfl
  | false =>
    rw [waiting, List.foldl_append, ← waiting, before, foldl_wait_idle clean] at waits
    exact waits

/-- A friend that was put, and not marked again, does not wait. -/
theorem not_waiting_put (clean : ∀ event ∈ events, event ≠ .dirtied id) (put : .sent (.put id) ∈ events) :
    waiting (past ++ events) id = false := by
  obtain ⟨before, later, rfl⟩ := List.append_of_mem put
  have ends : waiting ((past ++ before) ++ .sent (.put id) :: later) id = false := by
    rw [waiting, List.foldl_append, List.foldl_cons]
    have rests : wait id ((past ++ before).foldl (wait id) false) (.sent (.put id)) = false := by simp [wait]
    rw [rests]
    apply foldl_wait_idle
    intro event member
    exact clean event (List.mem_append_right _ (List.mem_cons_of_mem _ member))
  rwa [List.append_assoc] at ends

/-- A friend that was marked and never put is waiting. -/
theorem waiting_of_never_put (marked : .dirtied id ∈ past) (never : .sent (.put id) ∉ past) :
    waiting past id = true := by
  have kept : ∀ events : List CardDavEvent, .sent (.put id) ∉ events → events.foldl (wait id) true = true := by
    intro events never
    induction events with
    | nil => rfl
    | cons event rest ih =>
      rw [List.mem_cons, not_or] at never
      have still : wait id true event = true := by
        cases event with
        | dirtied other => rfl
        | sent query =>
          cases query with
          | put other =>
            have different : other ≠ id := by
              rintro rfl
              exact never.1 rfl
            simp [wait, different]
          | _ => rfl
        | _ => rfl
      rw [List.foldl_cons, still]
      exact ih never.2
  obtain ⟨before, later, rfl⟩ := List.append_of_mem marked
  rw [waiting, List.foldl_append, List.foldl_cons]
  have begins : wait id (before.foldl (wait id) false) (.dirtied id) = true := by simp [wait]
  rw [begins]
  apply kept
  intro put
  exact never (List.mem_append_right _ (List.mem_cons_of_mem _ put))

theorem waiting_dirtied {ids : List FriendId} (waits : waiting (past ++ ids.map .dirtied) id = true) :
    waiting past id = true ∨ id ∈ ids := by
  by_cases member : id ∈ ids
  · exact .inr member
  · left
    apply waiting_append _ waits
    intro event inside same
    obtain ⟨other, known, rfl⟩ := List.mem_map.mp inside
    obtain rfl : other = id := by simpa using same
    exact member known

end Waiting

/-- What the steps keep, together with the friends being distinct objects of the list. -/
structure Tended (past : List CardDavEvent) (context : CardDavContext) : Prop extends EditsKept past context where
  members : Members context.friendList

/-- Events that take no waiting friend out of the list. -/
theorem removes_append (kept : EditsKept past context) (clean : ∀ event ∈ events, ∀ id, event ≠ .dirtied id)
    (removed : ∀ id, .removed id ∈ events → id ∉ context.friendList.dirtyFriendsToUpdate) :
    EachAfter (fun before event => ∀ id, event = .removed id → .dirtied id ∈ before → .sent (.put id) ∈ before)
      (past ++ events) := by
  have each : ∀ done todo, events = done ++ todo → EachAfter (fun before event => ∀ id, event = .removed id →
      .dirtied id ∈ before → .sent (.put id) ∈ before) (past ++ done) := by
    intro done
    induction done using List.reverseRecOn with
    | nil =>
      intro _ _
      simpa using kept.removes
    | append_singleton front last ih =>
      intro todo whole
      rw [List.append_assoc] at whole
      rw [← List.append_assoc]
      apply (ih _ whole).concat
      rintro id rfl marked
      by_contra never
      rw [List.mem_append, not_or] at never
      have inPast : .dirtied id ∈ past := by
        rcases List.mem_append.mp marked with early | late
        · exact early
        · exact absurd rfl (clean _ (whole ▸ List.mem_append_left _ late) id)
      have gone : .removed id ∈ events := by
        rw [whole]
        simp
      exact removed id gone (kept.waits id (waiting_of_never_put inPast never.1))
  exact each events [] (by simp)

/-- A step that marks nobody, forgets nobody and removes nobody who waits. -/
theorem Tended.step (tended : Tended past context) (members : Members after.friendList)
    (dirty : after.friendList.dirtyFriendsToUpdate = context.friendList.dirtyFriendsToUpdate)
    (clean : ∀ event ∈ events, ∀ id, event ≠ .dirtied id)
    (removed : ∀ id, .removed id ∈ events → id ∉ context.friendList.dirtyFriendsToUpdate) :
    Tended (past ++ events) after := by
  refine ⟨⟨?_, removes_append tended.toEditsKept clean removed⟩, members⟩
  intro id waits
  rw [dirty]
  exact tended.waits id (waiting_append (fun event member => clean event member id) waits)

theorem Tended.send (tended : Tended past context) {query : CardDavQuery} (members : Members after.friendList)
    (dirty : after.friendList.dirtyFriendsToUpdate = context.friendList.dirtyFriendsToUpdate) :
    Tended (past ++ (after.sendQuery query).2) (after.sendQuery query).1 :=
  tended.step members dirty (by simp [sendQuery]) (by simp [sendQuery])

theorem Tended.rest (tended : Tended past context) (members : Members after.friendList)
    (dirty : after.friendList.dirtyFriendsToUpdate = context.friendList.dirtyFriendsToUpdate) :
    Tended (past ++ []) after :=
  tended.step members dirty (by simp) (by simp)

section Listing

variable {list : FriendList} {id : FriendId} {vCards : List CardDavResponse}

/-- The listing has the friend under a URL that no other friend has. -/
def ListedAlone (list : FriendList) (vCards : List CardDavResponse) (id : FriendId) : Prop :=
  ∃ vcard response, (list.friend id).vcard = some vcard ∧ response ∈ vCards ∧ isListedAs vcard response = true ∧
    ∀ other ∈ list.friends, other ≠ id → ∀ otherVcard, (list.friend other).vcard = some otherVcard →
      isListedAs otherVcard response = false

theorem compare_keeps {vcard : Vcard} {response : CardDavResponse} (has : (list.friend id).vcard = some vcard)
    (listed : isListedAs vcard response = true) {ids : List FriendId} (nodup : ids.Nodup)
    (alone : ∀ other ∈ ids, other ≠ id → ∀ otherVcard, (list.friend other).vcard = some otherVcard →
      isListedAs otherVcard response = false)
    {comparison : Comparison} (free : id ∉ comparison.friendsToRemove)
    (pending : id ∈ ids → response ∈ comparison.vCardsToPull) :
    id ∉ (ids.foldl list.compareFriend comparison).friendsToRemove := by
  induction ids generalizing comparison with
  | nil => exact free
  | cons first rest ih =>
    rw [List.nodup_cons] at nodup
    have later : ∀ other ∈ rest, other ≠ id → ∀ otherVcard, (list.friend other).vcard = some otherVcard →
        isListedAs otherVcard response = false := fun other member => alone other (List.mem_cons_of_mem _ member)
    rw [List.foldl_cons]
    by_cases same : first = id
    · subst same
      apply ih nodup.2 later
      · cases found : comparison.vCardsToPull.find? (isListedAs vcard) with
        | none => exact absurd listed (List.find?_eq_none.mp found response (pending List.mem_cons_self))
        | some other =>
          simp only [compareFriend, has, found]
          split
          next => exact free
          next => exact free
      · intro again
        exact absurd again nodup.1
    · have distinct : id ∉ comparison.friendsToRemove ++ [first] := by
        rw [List.mem_append, List.mem_singleton, not_or]
        exact ⟨free, Ne.symm same⟩
      have waits : id ∈ rest → response ∈ comparison.vCardsToPull := fun member =>
        pending (List.mem_cons_of_mem _ member)
      apply ih nodup.2 later
      · unfold compareFriend
        split
        next => exact distinct
        next =>
          split
          next => exact distinct
          next =>
            split
            next => exact free
            next => exact free
      · intro member
        unfold compareFriend
        split
        next => exact waits member
        next otherVcard other =>
          split
          next => exact waits member
          next =>
            split
            next =>
              have missed := alone first List.mem_cons_self same otherVcard other
              exact (List.mem_eraseP_of_neg (by simp [missed])).mpr (waits member)
            next => exact waits member

theorem ListedAlone.kept (members : Members list) (listed : ListedAlone list vCards id) :
    id ∉ (list.compare vCards).friendsToRemove := by
  obtain ⟨vcard, response, has, member, matched, alone⟩ := listed
  exact compare_keeps has matched members.nodup alone List.not_mem_nil fun _ => member

theorem compare_removes (ids : List FriendId) (comparison : Comparison) :
    ∀ id ∈ (ids.foldl list.compareFriend comparison).friendsToRemove, id ∈ comparison.friendsToRemove ∨ id ∈ ids := by
  induction ids generalizing comparison with
  | nil => exact fun id member => .inl member
  | cons first rest ih =>
    intro id member
    rcases ih _ id member with early | late
    · have one : id ∈ comparison.friendsToRemove ++ [first] := by
        unfold compareFriend at early
        split at early
        next => exact early
        next =>
          split at early
          next => exact early
          next =>
            split at early
            next => exact List.mem_append_left _ early
            next => exact List.mem_append_left _ early
      rcases List.mem_append.mp one with before | now
      · exact .inl before
      · exact .inr (List.mem_singleton.mp now ▸ List.mem_cons_self)
    · exact .inr (List.mem_cons_of_mem _ late)

end Listing

section Merging

/-- The identifiers that a vCard may have once it was pulled. -/
def MayHaveUid (platform : CardDavPlatform) (vcard : Vcard) (uid : String) : Prop :=
  uid = vcard.uid ∨ (vcard.uid = "" ∧ ∃ generated, uid = "urn:" ++ platform.uuid generated)

theorem pulledVcard_uid (context : CardDavContext) (response : CardDavResponse) (vcard : Vcard) :
    MayHaveUid platform vcard (context.pulledVcard platform response vcard).uid := by
  unfold pulledVcard
  dsimp only
  split
  next empty => exact .inr ⟨by simpa using empty, context.generated, rfl⟩
  next => exact .inl rfl

/-- None of the vCards that were pulled is that of a friend of the list that waits. -/
def PullsOthers (platform : CardDavPlatform) (list : FriendList) (vCards : List CardDavResponse) : Prop :=
  ∀ response ∈ vCards, ∀ vcard, platform.vcardFromBuffer response.vCard = some vcard →
    ∀ uid, MayHaveUid platform vcard uid → ∀ id ∈ list.friends, id ∈ list.dirtyFriendsToUpdate →
      list.sameUid uid id = false

/-- Merging a vCard changes no friend but the new one, and adds no other. -/
theorem mergeFriend_frame (list : FriendList) (vcard : Vcard) :
    (∀ id, id ≠ list.freshFriend → (mergeFriend platform list vcard).1.friend id = list.friend id) ∧
      (∀ id ∈ (mergeFriend platform list vcard).1.friends, id = list.freshFriend ∨ id ∈ list.friends) ∧
      ∀ id, .removed id ∈ (mergeFriend platform list vcard).2 → id ∈ list.friends ∧ list.sameUid vcard.uid id = true := by
  unfold mergeFriend
  dsimp only
  split
  next oldFriend found =>
    have searched : list.friends.find? (list.sameUid vcard.uid) = some oldFriend := by
      split at found
      next => exact found
      next => simp at found
    refine ⟨?_, ?_, ?_⟩
    · intro id different
      simp [carddavUpdated, changeFriend, different]
    · intro id member
      obtain ⟨before, later, whole, replaced⟩ :=
        @replace_split list.freshFriend oldFriend _ (List.mem_of_find?_eq_some searched)
      simp only [carddavUpdated, changeFriend_friends, replaced, List.mem_append, List.mem_cons] at member
      rw [whole]
      simp only [List.mem_append, List.mem_cons]
      rcases member with early | same | late
      · exact .inr (.inl early)
      · exact .inl same
      · exact .inr (.inr (.inr late))
    · intro id removed
      obtain rfl : id = oldFriend := by simpa using removed
      exact ⟨List.mem_of_find?_eq_some searched, List.find?_some searched⟩
  next =>
    have outside : ((list.changeFriend list.freshFriend fun _ => ({} : Friend).setVcard vcard).friend
        list.freshFriend).inList = false := by
      rw [changeFriend_friend, if_pos rfl]
      unfold Friend.setVcard
      split
      next => rfl
      next => rfl
    rcases @addFriend_outside platform.book _ _ outside false with unchanged | ⟨friend, friends⟩
    · rw [unchanged]
      refine ⟨?_, fun id member => .inr member, by simp⟩
      intro id different
      rw [changeFriend_friend, if_neg different]
    · refine ⟨?_, ?_, by simp⟩
      · intro id different
        rw [friend, if_neg different, changeFriend_friend, if_neg different]
      · intro id member
        rw [friends] at member
        exact List.mem_cons.mp member

theorem merges_tended (tended : Tended past context) {vCards : List CardDavResponse}
    (others : PullsOthers platform context.friendList vCards) :
    Tended (past ++ (context.mergeVcards platform vCards).2) (context.mergeVcards platform vCards).1 := by
  induction vCards generalizing past context with
  | nil => exact tended.rest tended.members rfl
  | cons response rest ih =>
    have first : Tended (past ++ (context.mergeVcard platform response).2) (context.mergeVcard platform response).1 ∧
        PullsOthers platform (context.mergeVcard platform response).1.friendList rest := by
      unfold mergeVcard
      split
      next =>
        exact ⟨tended.rest tended.members rfl,
          fun other member => others other (List.mem_cons_of_mem _ member)⟩
      next vcard read =>
        obtain ⟨friend, friends, removed⟩ := @mergeFriend_frame platform context.friendList
          (context.pulledVcard platform response vcard)
        have untouched := @mergeFriend_untouched platform context.friendList (context.pulledVcard platform response vcard)
        have fresh := fresh_not_dirty context.friendList
        refine ⟨?_, ?_⟩
        · apply tended.step (mergeFriend_members tended.members) untouched.2
          · intro event member id same
            have gone : ∃ old, event = .removed old := by
              simp only [mergeFriend] at member
              split at member
              next oldFriend _ => exact ⟨oldFriend, by simpa using member⟩
              next => simp at member
            obtain ⟨old, rfl⟩ := gone
            exact CardDavEvent.noConfusion same
          · intro id gone dirty
            obtain ⟨inside, same⟩ := removed id gone
            rw [others response List.mem_cons_self vcard read _ (pulledVcard_uid context response vcard) id inside
              dirty] at same
            exact Bool.noConfusion same
        · intro other member otherVcard otherRead uid may id inside dirty
          rw [untouched.2] at dirty
          have old : id ≠ context.friendList.freshFriend := by
            rintro rfl
            exact fresh dirty
          have known := others other (List.mem_cons_of_mem _ member) otherVcard otherRead uid may id
            ((friends id inside).resolve_left old) dirty
          unfold sameUid at known ⊢
          rw [friend id old]
          exact known
    have final := ih first.1 first.2
    rw [List.append_assoc] at final
    exact final

end Merging

section Uploading

/-- A friend that can be put on the server: the address book was synchronized, and the
vCard has a URL or gets one. -/
def Uploadable (context : CardDavContext) (id : FriendId) : Prop :=
  context.ctag ≠ "" ∧ ∃ vcard, (context.friendList.friend id).vcard = some vcard ∧
    (vcard.url ≠ [] ∨ context.syncUri ≠ [])

theorem vcardToPut_some {vcard : Vcard} (placed : vcard.url ≠ [] ∨ context.syncUri ≠ []) :
    ∃ ready, context.vcardToPut platform vcard = some ready ∧ ready.url ≠ [] := by
  have url : (if vcard.uid.isEmpty then { vcard with uid := "urn:" ++ platform.uuid context.generated } else vcard).url =
      vcard.url := by
    split
    next => rfl
    next => rfl
  unfold vcardToPut
  dsimp only
  rw [url]
  by_cases has : vcard.url = []
  · have known : context.syncUri ≠ [] := placed.resolve_left (not_not_intro has)
    rw [if_neg (by simp [has]), if_neg (by simpa using known)]
    refine ⟨_, rfl, ?_⟩
    dsimp only
    simp [known]
  · rw [if_pos (by simpa using has)]
    refine ⟨_, rfl, ?_⟩
    rw [url]
    exact has

theorem putVcard_sends {id : FriendId} (uploadable : Uploadable context id) :
    (context.putVcard platform id).2 = [.sent (.put id)] ∧
      (context.putVcard platform id).1.friendList.dirtyFriendsToUpdate = context.friendList.dirtyFriendsToUpdate ∧
      (Members context.friendList → Members (context.putVcard platform id).1.friendList) ∧
      ∀ other, Uploadable context other → Uploadable (context.putVcard platform id).1 other := by
  obtain ⟨synchronized, vcard, has, placed⟩ := uploadable
  obtain ⟨ready, put, url⟩ := @vcardToPut_some platform _ _ placed
  unfold putVcard
  rw [if_neg (by simpa using synchronized), has]
  dsimp only
  rw [put]
  refine ⟨rfl, rfl, ?_, ?_⟩
  · intro members
    exact members.edit id _
  · rintro other ⟨-, otherVcard, otherHas, otherPlaced⟩
    refine ⟨synchronized, ?_⟩
    simp only [sendQuery, changeFriend_friend]
    split
    next same => exact ⟨ready, by simp [Friend.editVcard, has], .inl url⟩
    next => exact ⟨otherVcard, otherHas, otherPlaced⟩

theorem putVcards_sends {ids : List FriendId} (uploadable : ∀ id ∈ ids, Uploadable context id) :
    (context.putVcards platform ids).2 = ids.map (fun id => .sent (.put id)) ∧
      (Members context.friendList → Members (context.putVcards platform ids).1.friendList) := by
  induction ids generalizing context with
  | nil => exact ⟨rfl, fun members => members⟩
  | cons id rest ih =>
    obtain ⟨events, -, members, others⟩ := @putVcard_sends platform _ _ (uploadable id List.mem_cons_self)
    obtain ⟨later, kept⟩ := @ih (context.putVcard platform id).1 fun other member =>
      others other (uploadable other (List.mem_cons_of_mem _ member))
    refine ⟨?_, fun start => kept (members start)⟩
    simp only [putVcards, events, later, List.map_cons, List.singleton_append]

/-- When all that wait can be put, all of them are, and nobody waits any more. -/
theorem upload_tended (tended : Tended past context)
    (uploadable : ∀ id ∈ context.friendList.dirtyFriendsToUpdate, Uploadable context id) :
    Tended (past ++ (context.updateDirtyFriends platform).2) (context.updateDirtyFriends platform).1 := by
  obtain ⟨events, members⟩ := @putVcards_sends platform _ _ uploadable
  have clean : ∀ event ∈ (context.updateDirtyFriends platform).2, ∀ id, event ≠ .dirtied id := by
    intro event member id same
    simp only [updateDirtyFriends, events, List.mem_map] at member
    obtain ⟨other, -, rfl⟩ := member
    exact CardDavEvent.noConfusion same
  refine ⟨⟨?_, ?_⟩, ?_⟩
  · intro id waits
    have before := tended.waits id (waiting_append (fun event member => clean event member id) waits)
    have put : CardDavEvent.sent (.put id) ∈ (context.updateDirtyFriends platform).2 := by
      simp only [updateDirtyFriends, events, List.mem_map]
      exact ⟨id, before, rfl⟩
    rw [not_waiting_put (fun event member => clean event member id) put] at waits
    exact Bool.noConfusion waits
  · apply removes_append tended.toEditsKept clean
    intro id removed
    simp [updateDirtyFriends, events] at removed
  · exact (members tended.members).congr rfl fun _ _ => rfl

end Uploading

/-- The steps that lose no edit: what waits can be put, is in the listing that is
fetched, and is not among what is pulled. -/
def KeepsEdits (platform : CardDavPlatform) (context : CardDavContext) : CardDavInput → Prop
  | .updateDirtyFriends => ∀ id ∈ context.friendList.dirtyFriendsToUpdate, Uploadable context id
  | .answered (.addressbookQuery _) response => isSuccess response.code = true →
      platform.vcardsEtags response.body ≠ [] → ∀ id ∈ context.friendList.friends,
        id ∈ context.friendList.dirtyFriendsToUpdate →
          ListedAlone context.friendList (platform.vcardsEtags response.body) id
  | .answered (.addressbookMultiget _ _) response => isSuccess response.code = true →
      PullsOthers platform context.friendList (platform.vcards response.body)
  | _ => True

theorem Tended.done (tended : Tended past context) (success : Bool) :
    Tended past (context.serverToClientSyncDone success) := by
  obtain ⟨friends, friend, dirty⟩ := friendList_done context success
  refine ⟨⟨fun id waits => dirty ▸ tended.waits id waits, tended.removes⟩, ?_⟩
  exact tended.members.congr friends fun id _ => by rw [friend]

theorem listing_tended (tended : Tended past context) (announced : String) {vCards : List CardDavResponse}
    (listed : vCards ≠ [] → ∀ id ∈ context.friendList.friends, id ∈ context.friendList.dirtyFriendsToUpdate →
      ListedAlone context.friendList vCards id) :
    Tended (past ++ (context.vcardsFetched platform announced vCards).2)
      (context.vcardsFetched platform announced vCards).1 := by
  unfold vcardsFetched
  split
  next => exact (tended.step tended.members rfl (by simp) (by simp)).done true
  next filled =>
    have untouched := Untouched.foldl (@removeFriend_untouched platform.book)
      (context.friendList.compare vCards).friendsToRemove context.friendList
    dsimp only
    apply tended.step
    · exact (removeFriends_spec tended.members _).1
    · exact untouched.2
    · intro event member id same
      rcases List.mem_append.mp member with removed | sent
      · obtain ⟨other, -, rfl⟩ := List.mem_map.mp removed
        exact CardDavEvent.noConfusion same
      · rw [List.mem_singleton.mp sent] at same
        exact CardDavEvent.noConfusion same
    · intro id removed dirty
      have gone : id ∈ (context.friendList.compare vCards).friendsToRemove := by simpa using removed
      have inside : id ∈ context.friendList.friends :=
        (compare_removes _ _ id gone).resolve_left List.not_mem_nil
      exact (listed (by simpa using filled) id inside dirty).kept tended.members gone

theorem success_tended (tended : Tended past context) {query : CardDavQuery} {response : HttpResponse}
    (keeps : KeepsEdits platform context (.answered query response)) (success : isSuccess response.code = true) :
    Tended (past ++ ((context.without query).processQueryResponse platform query response).2)
      ((context.without query).processQueryResponse platform query response).1 := by
  have tended : Tended past (context.without query) := ⟨⟨tended.waits, tended.removes⟩, tended.members⟩
  unfold processQueryResponse
  rw [if_pos success]
  cases query with
  | userPrincipal =>
    dsimp only [userPrincipalUrlRetrieved]
    split
    next => exact tended.send tended.members rfl
    next =>
      split
      next => exact tended.rest tended.members rfl
      next => exact tended.send tended.members rfl
  | userAddressBooksHome =>
    dsimp only [userAddressBookHomeUrlRetrieved]
    split
    next => exact tended.send tended.members rfl
    next => exact tended.rest tended.members rfl
  | addressBookUrlAndCtag =>
    dsimp only
    cases platform.addressBookUrlAndCtag response.body with
    | nil => exact tended.rest tended.members rfl
    | cons addressbook rest =>
      dsimp only [addressBookUrlAndCtagRetrieved]
      split
      next =>
        split
        next => exact tended.send (tended.members.congr rfl fun _ _ => rfl) rfl
        next => exact tended.send (tended.members.congr rfl fun _ _ => rfl) rfl
      next => exact (tended.step tended.members rfl (by simp [skipSync]) (by simp [skipSync])).done true
  | addressBookCtag =>
    dsimp only [addressBookCtagRetrieved]
    split
    next => exact tended.send tended.members rfl
    next => exact (tended.step tended.members rfl (by simp [skipSync]) (by simp [skipSync])).done true
  | addressbookQuery announced => exact listing_tended tended announced (keeps success)
  | addressbookMultiget announced vCards =>
    have merged := merges_tended tended (keeps success)
    dsimp only [vcardsPulled]
    rw [← List.append_assoc]
    apply Tended.done
    apply merged.step merged.members rfl
    · intro event member id same
      simp [same] at member
    · simp
  | put id =>
    dsimp only [putAnswered]
    split
    next => exact tended.rest tended.members rfl
    next =>
      split
      next => exact tended.send tended.members rfl
      next => exact tended.rest (tended.members.edit id _) rfl

theorem answer_tended (tended : Tended past context) {query : CardDavQuery} {response : HttpResponse}
    (keeps : KeepsEdits platform context (.answered query response)) :
    Tended (past ++ (context.answer platform query response).2) (context.answer platform query response).1 := by
  unfold answer
  dsimp only
  split
  next =>
    split
    next => exact tended.rest tended.members rfl
    next => exact tended.send tended.members rfl
  next =>
    split
    next => exact tended.rest tended.members rfl
    next =>
      by_cases success : isSuccess response.code = true
      · exact success_tended tended keeps success
      · unfold processQueryResponse
        rw [if_neg success]
        split
        next => exact tended.rest tended.members rfl
        next => exact tended.send tended.members rfl

theorem addFriend_tended (tended : Tended past context) (id : FriendId) :
    Tended (past ++ (context.addFriend platform id).2) (context.addFriend platform id).1 := by
  have grows : ∀ other ∈ context.friendList.dirtyFriendsToUpdate,
      other ∈ (context.addFriend platform id).1.friendList.dirtyFriendsToUpdate := by
    intro other member
    rcases (@addFriend_keeps platform.book context.friendList id true).2 with same | ⟨-, added⟩
    · exact (congrArg (other ∈ ·) same).mpr member
    · exact (congrArg (other ∈ ·) added).mpr (List.mem_cons_of_mem _ member)
  refine ⟨⟨?_, ?_⟩, addFriend_members tended.members true⟩
  · intro other waits
    rcases waiting_dirtied waits with before | marked
    · exact grows other (tended.waits other before)
    · exact (List.mem_filter.mp marked).1
  · apply tended.removes.append_always
    intro event member before id removed
    obtain ⟨other, -, rfl⟩ := List.mem_map.mp member
    exact CardDavEvent.noConfusion removed

theorem done_tended (tended : Tended past context) (id : FriendId) (changed : Bool) :
    Tended (past ++ (context.done id changed).2) (context.done id changed).1 := by
  have cleaned : Members (context.friendList.changeFriend id (·.editVcard (·.cleanCache))) :=
    tended.members.edit id _
  unfold done
  dsimp only
  split
  next =>
    split
    next =>
      refine ⟨⟨?_, ?_⟩, cleaned.congr rfl fun _ _ => rfl⟩
      · intro other waits
        rcases @waiting_dirtied past other [id] waits with before | marked
        · exact List.mem_append_left _ (tended.waits other before)
        · exact List.mem_append_right _ marked
      · apply tended.removes.concat
        intro other removed
        exact CardDavEvent.noConfusion removed
    next => exact tended.rest cleaned rfl
  next => exact tended.rest tended.members rfl

theorem step_tended (past : List CardDavEvent) (context : CardDavContext) (input : CardDavInput)
    (keeps : KeepsEdits platform context input) (tended : Tended past context) :
    Tended (past ++ (context.step platform input).2) (context.step platform input).1 := by
  cases input with
  | synchronize =>
    dsimp only [step, synchronize]
    split
    next => exact tended.send tended.members rfl
    next => exact tended.send tended.members rfl
  | answered query response =>
    dsimp only [step]
    split
    next => exact answer_tended tended keeps
    next => exact tended.rest tended.members rfl
  | interrupted query => exact tended.rest tended.members rfl
  | addFriend id => exact addFriend_tended tended id
  | edit id vcard => exact tended.rest (tended.members.edit id _) rfl
  | done id changed => exact done_tended tended id changed
  | updateDirtyFriends => exact upload_tended tended keeps

theorem edits_reach_server (members : Members context.friendList) {inputs : List CardDavInput}
    (keeps : Meets (CardDavContext.step platform) (KeepsEdits platform) context inputs) :
    EditsKept (run (CardDavContext.step platform) context inputs).2
      (run (CardDavContext.step platform) context inputs).1 := by
  have initial : Tended [] context := by
    refine ⟨⟨?_, EachAfter.nil _⟩, members⟩
    intro id waits
    simp [waiting] at waits
  exact (run_invariant Tended step_tended initial keeps).toEditsKept

/-- Friends that are not on the server yet. -/
def newFriends : FriendList := { friend := fun _ => { refKey := "b", vcard := some { fullName := "B", uid := "b" } } }

/-- A friend that is added to a synchronized list is put on the server. -/
theorem added_friend_put :
    let context : CardDavContext :=
      { friendList := newFriends, ctag := "1", syncUri := "https://example.org/home/book".toList }
    let inputs : List CardDavInput := [.addFriend 0, .updateDirtyFriends]
    CardDavEvent.sent (.put 0) ∈ (run (CardDavContext.step oneContact) context inputs).2 ∧
      EditsKept (run (CardDavContext.step oneContact) context inputs).2
        (run (CardDavContext.step oneContact) context inputs).1 := by
  intro context inputs
  refine ⟨by decide +kernel, @edits_reach_server oneContact context ⟨List.nodup_nil, ?_⟩ inputs ⟨trivial, ?_, trivial⟩⟩
  · intro id member
    exact absurd member List.not_mem_nil
  · intro id dirty
    have waits : (CardDavContext.step oneContact context (.addFriend 0)).1.friendList.dirtyFriendsToUpdate = [0] := by
      decide +kernel
    rw [waits, List.mem_singleton] at dirty
    subst dirty
    exact ⟨by decide, _, rfl, .inr (by decide)⟩

/-- A friend is added before the first synchronisation. It is never put on the server,
and the first download removes it. -/
theorem early_edit_lost :
    let context : CardDavContext := { friendList := newFriends }
    let inputs : List CardDavInput := [.addFriend 0, .updateDirtyFriends, .synchronize,
      .answered .userPrincipal { body := "principal" }, .answered .userAddressBooksHome { body := "home" },
      .answered .addressBookUrlAndCtag { body := "book" }, .answered (.addressbookQuery "1") { body := "listing" }]
    CardDavEvent.removed 0 ∈ (run (CardDavContext.step oneContact) context inputs).2 ∧
      CardDavEvent.sent (.put 0) ∉ (run (CardDavContext.step oneContact) context inputs).2 ∧
      ¬ EditsKept (run (CardDavContext.step oneContact) context inputs).2
        (run (CardDavContext.step oneContact) context inputs).1 := by
  intro context inputs
  refine ⟨by decide +kernel, by decide +kernel, ?_⟩
  intro kept
  have waits : waiting (run (CardDavContext.step oneContact) context inputs).2 0 = true := by decide +kernel
  have forgotten : (run (CardDavContext.step oneContact) context inputs).1.friendList.dirtyFriendsToUpdate = [] := by
    decide +kernel
  have member := kept.waits 0 waits
  rw [forgotten] at member
  exact List.not_mem_nil member

end CardDavContext
end Liblinphone
