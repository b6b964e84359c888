import Liblinphone.FriendListPresence
import Liblinphone.Library.Run

/-! The notification of presence for a list. A resource with a name is taken for a friend
that is there, also when there is none. -/

namespace Liblinphone.PresenceFriendList

open Library

variable {M : Type} {book : AddressBook} {core : PresenceCore M} {friends : PresenceFriendList M}

/-- The notification completes, and when it is rejected no presence is lost. -/
def Completes (book : AddressBook) (core : PresenceCore M) (friends : PresenceFriendList M) (document : RlmiList)
    (parts : List PresencePart) : Prop :=
  (∃ ending, friends.parseMultipartRelatedBody book core document parts = .ok ending) ∧
    ∀ after what, friends.parseMultipartRelatedBody book core document parts = .ok (after, .rejected what) →
      after.presenceModels = friends.presenceModels

/-- One of the checks fails. -/
def Rejected (friends : PresenceFriendList M) (document : RlmiList) : Prop :=
  document.version.isEmpty = true ∨ document.fullState.isEmpty = true ∨
    friends.expectedNotificationVersion = 0 ∧ isFullState document = false

/-- The resource has no name to be given to a friend, or there is a friend with its URI. -/
def Nameable (book : AddressBook) (friends : PresenceFriendList M) (resource : RlmiResource) : Prop :=
  ∀ name, resource.name = some name → name.isEmpty = false → resource.uri.isEmpty = false →
    (friends.findFriendByAddress book (book.create resource.uri)).isSome = true

/-- What a resource does in the first loop: it is passed over, or its friend is named, or the
friend is missing. -/
theorem nameResource_cases (book : AddressBook) (friends : PresenceFriendList M) (resource : RlmiResource) :
    (¬Nameable book friends resource ∧ friends.bodylessSubscription = false ∧
      friends.nameResource book resource = .error .dereferenced) ∨
    ((friends.bodylessSubscription = true ∨ Nameable book friends resource) ∧
      ∃ after, friends.nameResource book resource = .ok after ∧
        after.bodylessSubscription = friends.bodylessSubscription ∧
        (friends.bodylessSubscription = false → after.list.friendsMapByUri = friends.list.friendsMapByUri)) := by
  unfold nameResource
  cases isName : resource.name with
  | none => exact .inr ⟨.inr (by simp [Nameable, isName]), friends, rfl, rfl, fun _ => rfl⟩
  | some name =>
    cases noUri : resource.uri.isEmpty with
    | true => exact .inr ⟨.inr (by simp [Nameable, noUri]), friends, rfl, rfl, fun _ => rfl⟩
    | false =>
      simp only [Bool.false_eq_true, if_false, friendOfResource]
      cases found : friends.findFriendByAddress book (book.create resource.uri) with
      | some lf =>
        refine .inr ⟨.inr (by simp [Nameable, found]), ?_⟩
        simp only
        split
        next => exact ⟨friends, rfl, rfl, fun _ => rfl⟩
        next => exact ⟨_, rfl, rfl, fun _ => rfl⟩
      | none =>
        cases bodyless : friends.bodylessSubscription with
        | true =>
          refine .inr ⟨.inl rfl, ?_⟩
          simp only [if_true]
          split
          next => exact ⟨_, rfl, bodyless, nofun⟩
          next => exact ⟨_, rfl, bodyless, nofun⟩
        | false =>
          simp only [Bool.false_eq_true, if_false]
          cases unnamed : name.isEmpty with
          | true =>
            refine .inr ⟨.inr ?_, friends, rfl, bodyless, fun _ => rfl⟩
            intro other same filled
            rw [isName, Option.some.injEq] at same
            rw [← same, unnamed] at filled
            exact Bool.noConfusion filled
          | false =>
            refine .inl ⟨fun nameable => ?_, trivial, rfl⟩
            have known := nameable name isName unnamed noUri
            rw [found] at known
            exact Bool.noConfusion known

/-- The first loop completes when new friends are made, or each resource that needs one has one. -/
theorem foldlM_nameResource_iff (book : AddressBook) (friends : PresenceFriendList M) (resources : List RlmiResource) :
    (∃ after, resources.foldlM (nameResource book) friends = .ok after) ↔
      friends.bodylessSubscription = true ∨ ∀ resource ∈ resources, Nameable book friends resource := by
  have same : ∀ current : PresenceFriendList M, friends.bodylessSubscription = false →
      current.list.friendsMapByUri = friends.list.friendsMapByUri → ∀ resource,
      (Nameable book current resource ↔ Nameable book friends resource) := by
    intro current _ index resource
    simp only [Nameable, findFriendByAddress, FriendList.findFriendByUri, index]
  have loop := @foldlM_returns_iff_invariant _ _ _ (nameResource book)
    (fun current : PresenceFriendList M => current.bodylessSubscription = friends.bodylessSubscription ∧
      (friends.bodylessSubscription = false → current.list.friendsMapByUri = friends.list.friendsMapByUri))
    (fun resource => friends.bodylessSubscription = true ∨ Nameable book friends resource) ?_ ?_ friends resources
    ⟨rfl, fun _ => rfl⟩
  · rw [loop]
    cases friends.bodylessSubscription with
    | true => simp
    | false => simp
  · rintro current resource next ⟨subscribes, index⟩ named
    rcases nameResource_cases book current resource with ⟨-, -, failed⟩ | ⟨-, after, returned, kept, still⟩
    · rw [failed] at named
      exact nomatch named
    · rw [returned, Except.ok.injEq] at named
      subst named
      refine ⟨kept.trans subscribes, fun body => ?_⟩
      exact (still (subscribes.trans body)).trans (index body)
  · rintro current resource ⟨subscribes, index⟩
    rcases nameResource_cases book current resource with ⟨missing, body, failed⟩ | ⟨fine, after, returned, -⟩
    · rw [failed, ← subscribes, body, ← same current (subscribes ▸ body) (index (subscribes ▸ body)) resource]
      exact iff_of_false nofun (by simpa using missing)
    · refine iff_of_true ⟨after, returned⟩ ?_
      cases body : friends.bodylessSubscription with
      | true => exact .inl rfl
      | false =>
        rw [subscribes, body, same current body (index body) resource] at fine
        exact fine

/-- A notification is rejected before any presence is cleared, or its resources are processed. -/
theorem parse_cases (book : AddressBook) (core : PresenceCore M) (friends : PresenceFriendList M) (document : RlmiList)
    (parts : List PresencePart) :
    (Rejected friends document ∧
      ∃ what, friends.parseMultipartRelatedBody book core document parts = .ok (friends, .rejected what)) ∨
    (¬Rejected friends document ∧
      ∃ start : PresenceFriendList M, start.bodylessSubscription = friends.bodylessSubscription ∧
        start.list = friends.list ∧ friends.parseMultipartRelatedBody book core document parts =
          start.processResources book core document parts) := by
  let next := Utils.toInt (Utils.stoi document.version + 1)
  unfold Rejected parseMultipartRelatedBody
  cases document.version.isEmpty with
  | true => exact .inl ⟨.inl rfl, _, rfl⟩
  | false =>
    cases document.fullState.isEmpty with
    | true => exact .inl ⟨.inr (.inl rfl), _, rfl⟩
    | false =>
      cases isFullState document with
      | true =>
        refine .inr ⟨by simp, { friends.clearPresenceModels with expectedNotificationVersion := next }, rfl, rfl, ?_⟩
        simp only [Bool.false_eq_true, if_false, if_true, Bool.not_true, and_false]
        rfl
      | false =>
        by_cases first : friends.expectedNotificationVersion = 0
        · refine .inl ⟨.inr (.inr ⟨first, rfl⟩),
            "rlmi+xml: Notification with version 0 is not full state, this is not valid", ?_⟩
          simp only [Bool.false_eq_true, if_false, first, Bool.not_false, and_self, if_true]
        · refine .inr ⟨by simp [first], { friends with expectedNotificationVersion := next }, rfl, rfl, ?_⟩
          simp only [Bool.false_eq_true, if_false, first, false_and]
          rfl

theorem processResources_iff (book : AddressBook) (core : PresenceCore M) (friends : PresenceFriendList M)
    (document : RlmiList) (parts : List PresencePart) :
    ((∃ ending, friends.processResources book core document parts = .ok ending) ↔
      friends.bodylessSubscription = true ∨ ∀ resource ∈ document.resources, Nameable book friends resource) ∧
      ∀ after what, friends.processResources book core document parts ≠ .ok (after, .rejected what) := by
  rw [← foldlM_nameResource_iff, processResources]
  cases document.resources.foldlM (nameResource book) friends with
  | error failure => exact ⟨iff_of_false nofun nofun, nofun⟩
  | ok named =>
    refine ⟨iff_of_true ⟨_, rfl⟩ ⟨_, rfl⟩, fun after what same => ?_⟩
    exact nomatch (Prod.mk.inj (Except.ok.inj same)).2

/-- A notification completes when it is rejected, or when the list makes the friends that are
missing, or when no resource with a name is without a friend. -/
theorem notification_completes_iff (book : AddressBook) (core : PresenceCore M) (friends : PresenceFriendList M)
    (document : RlmiList) (parts : List PresencePart) :
    Completes book core friends document parts ↔
      Rejected friends document ∨ friends.bodylessSubscription = true ∨
        ∀ resource ∈ document.resources, Nameable book friends resource := by
  unfold Completes
  rcases parse_cases book core friends document parts with ⟨rejected, what, ends⟩ | ⟨accepted, start, body, same, ends⟩
  · rw [ends]
    refine iff_of_true ⟨⟨_, rfl⟩, ?_⟩ (.inl rejected)
    intro after other isEnd
    cases isEnd
    rfl
  · obtain ⟨returns, never⟩ := processResources_iff book core start document parts
    have nameable : ∀ resource, Nameable book start resource ↔ Nameable book friends resource := by
      intro resource
      simp only [Nameable, findFriendByAddress, same]
    rw [ends, returns, or_iff_right accepted, body]
    simp only [nameable]
    exact and_iff_left fun after what isEnd => absurd isEnd (never after what)

/-- The address of bob, and nothing else, can be read. -/
def bobBook : AddressBook where
  create uri :=
    if uri = "sip:bob@sip.example.org" then some { username := some "bob", domain := "sip.example.org" } else none
  asStringUriOnly address := "sip:" ++ address.username.getD "" ++ "@" ++ address.domain
  phoneNumberToSipUri phoneNumber := phoneNumber
  flattenPhoneNumber phoneNumber := phoneNumber

def bobCore : PresenceCore Unit where
  interpretUrl := bobBook.create
  parsePresence _ _ _ := some ()
  getContact _ := ""

/-- The server names a resource that is not a friend. -/
theorem unknown_resource_named : ¬ ∀ (book : AddressBook) (core : PresenceCore Unit) (friends : PresenceFriendList Unit)
    (document : RlmiList) (parts : List PresencePart), Completes book core friends document parts := by
  intro completes
  obtain ⟨⟨ending, returned⟩, -⟩ := completes bobBook bobCore { list := { friend := fun _ => {} }, created := 0 }
    { version := ['0'], fullState := "true", resources := [{ uri := "sip:bob@sip.example.org", name := some "Bob" }] } []
  exact nomatch returned

end Liblinphone.PresenceFriendList
