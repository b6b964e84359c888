import Liblinphone.FriendList
import Liblinphone.Library.Keyed
import Liblinphone.Library.Run

/-! The indexes of a friend list agree with the list. Each operation changes the
entries of one friend, so that it is enough to say which URIs that friend has before
and after. The operations that leave an index alone, or erase the first entry of a
key, only keep the agreement in the cases that their guard names. -/

namespace Liblinphone

/-- Printing an address and reading it again gives the same URI, and the display name
is not part of it. -/
structure AddressBook.Lawful (book : AddressBook) : Prop where
  scheme : ∀ address, Vcard.isSipValue (book.asStringUriOnly address) = true
  inverts : ∀ address, ∃ read, book.create (book.asStringUriOnly address) = some read ∧
    book.asStringUriOnly read = book.asStringUriOnly address
  uriOnly : ∀ (address : Address) name, book.asStringUriOnly { address with displayName := name } =
    book.asStringUriOnly address

namespace FriendList

variable {book : AddressBook}

/-- The URIs that the IMPP values of a vCard give. -/
def imppUris (book : AddressBook) (vcard : Vcard) : List String :=
  (vcard.impp.filterMap (Vcard.readSipAddress book vcard.fullName)).map book.asStringUriOnly

/-- The addresses that a friend keeps are those of its vCard. -/
def Settled (book : AddressBook) (lf : Friend) : Prop :=
  ∀ vcard, lf.vcard = some vcard → (vcard.getSipAddresses book).map book.asStringUriOnly = imppUris book vcard

structure Agree (book : AddressBook) (list : FriendList) : Prop where
  inList : ∀ id ∈ list.friends, (list.friend id).inList = true
  nodup : list.friends.Nodup
  byUri : ∀ uri id, (uri, id) ∈ list.friendsMapByUri ↔
    id ∈ list.friends ∧ uri ≠ "" ∧ uri ∈ urisOf book (list.friend id)
  uriNodup : list.friendsMapByUri.Nodup
  byRefKey : ∀ key id, (key, id) ∈ list.friendsMapByRefKey ↔
    id ∈ list.friends ∧ key ≠ "" ∧ (list.friend id).refKey = key
  keyDistinct : Library.DistinctKeys Prod.fst list.friendsMapByRefKey
  settled : ∀ id ∈ list.friends, Settled book (list.friend id)

section Maps

variable (id : FriendId) (list : FriendList) (uri : String)

@[simp] theorem addToMap_friend : (list.addFriendToListMapIfNotInItYet id uri).friend = list.friend := by
  unfold addFriendToListMapIfNotInItYet
  split
  next => rfl
  next => split <;> rfl

@[simp] theorem addToMap_friends : (list.addFriendToListMapIfNotInItYet id uri).friends = list.friends := by
  unfold addFriendToListMapIfNotInItYet
  split
  next => rfl
  next => split <;> rfl

@[simp] theorem addToMap_refKeys :
    (list.addFriendToListMapIfNotInItYet id uri).friendsMapByRefKey = list.friendsMapByRefKey := by
  unfold addFriendToListMapIfNotInItYet
  split
  next => rfl
  next => split <;> rfl

@[simp] theorem removeFromMap_friend : (list.removeFriendFromListMapIfAlreadyInIt id uri).friend = list.friend := by
  unfold removeFriendFromListMapIfAlreadyInIt
  split <;> rfl

@[simp] theorem removeFromMap_friends : (list.removeFriendFromListMapIfAlreadyInIt id uri).friends = list.friends := by
  unfold removeFriendFromListMapIfAlreadyInIt
  split <;> rfl

@[simp] theorem removeFromMap_refKeys :
    (list.removeFriendFromListMapIfAlreadyInIt id uri).friendsMapByRefKey = list.friendsMapByRefKey := by
  unfold removeFriendFromListMapIfAlreadyInIt
  split <;> rfl

variable {id} {list} {uri}

theorem mem_addToMap (listed : (list.friend id).inList = true) (entry : String × FriendId) :
    entry ∈ (list.addFriendToListMapIfNotInItYet id uri).friendsMapByUri ↔
      entry ∈ list.friendsMapByUri ∨ (uri ≠ "" ∧ entry = (uri, id)) := by
  unfold addFriendToListMapIfNotInItYet
  split
  next absent =>
    have empty : uri = "" := by simpa [listed] using absent
    simp [empty]
  next present =>
    have named : uri ≠ "" := by simpa [listed] using present
    split
    next found =>
      have member : (uri, id) ∈ list.friendsMapByUri := by simpa using found
      constructor
      · exact .inl
      · rintro (known | ⟨-, rfl⟩)
        · exact known
        · exact member
    next => simp [named]

theorem nodup_addToMap (nodup : list.friendsMapByUri.Nodup) :
    (list.addFriendToListMapIfNotInItYet id uri).friendsMapByUri.Nodup := by
  unfold addFriendToListMapIfNotInItYet
  split
  next => exact nodup
  next =>
    split
    next => exact nodup
    next missing =>
      have absent : (uri, id) ∉ list.friendsMapByUri := by simpa using missing
      rw [List.nodup_append]
      refine ⟨nodup, by simp, ?_⟩
      intro entry member other single same
      rw [List.mem_singleton] at single
      exact absent (single ▸ same ▸ member)

theorem mem_removeFromMap (listed : (list.friend id).inList = true) (entry : String × FriendId) :
    entry ∈ (list.removeFriendFromListMapIfAlreadyInIt id uri).friendsMapByUri ↔
      entry ∈ list.friendsMapByUri ∧ (uri ≠ "" → entry ≠ (uri, id)) := by
  unfold removeFriendFromListMapIfAlreadyInIt
  split
  next absent =>
    have empty : uri = "" := by simpa [listed] using absent
    simp [empty]
  next present =>
    have named : uri ≠ "" := by simpa [listed] using present
    simp [named]

theorem nodup_removeFromMap (nodup : list.friendsMapByUri.Nodup) :
    (list.removeFriendFromListMapIfAlreadyInIt id uri).friendsMapByUri.Nodup := by
  unfold removeFriendFromListMapIfAlreadyInIt
  split
  next => exact nodup
  next => exact nodup.filter _

end Maps

section Change

variable {list mapped : FriendList} {id : FriendId} {change : Friend → Friend}

@[simp] theorem changeFriend_friends : (list.changeFriend id change).friends = list.friends := rfl

@[simp] theorem changeFriend_byUri : (list.changeFriend id change).friendsMapByUri = list.friendsMapByUri := rfl

@[simp] theorem changeFriend_byRefKey :
    (list.changeFriend id change).friendsMapByRefKey = list.friendsMapByRefKey := rfl

theorem changeFriend_friend (other : FriendId) :
    (list.changeFriend id change).friend other = if other = id then change (list.friend id) else list.friend other := by
  simp only [changeFriend, Function.update_apply]

/-- An operation on one friend keeps the agreement when the entries of that friend
become those of its new URIs, and its key stays. -/
theorem Agree.changed (agree : Agree book list) (sameFriend : mapped.friend = list.friend)
    (sameFriends : mapped.friends = list.friends) (sameKeys : mapped.friendsMapByRefKey = list.friendsMapByRefKey)
    (nodup : mapped.friendsMapByUri.Nodup) (key : (change (list.friend id)).refKey = (list.friend id).refKey)
    (listed : (change (list.friend id)).inList = (list.friend id).inList)
    (settled : Settled book (list.friend id) → Settled book (change (list.friend id)))
    (entries : ∀ uri other, (uri, other) ∈ mapped.friendsMapByUri ↔
      if other = id then id ∈ list.friends ∧ uri ≠ "" ∧ uri ∈ urisOf book (change (list.friend id))
      else (uri, other) ∈ list.friendsMapByUri) :
    Agree book (mapped.changeFriend id change) := by
  have looked : ∀ other, (mapped.changeFriend id change).friend other =
      if other = id then change (list.friend id) else list.friend other := by
    intro other
    rw [changeFriend_friend, sameFriend]
  refine ⟨?_, ?_, ?_, nodup, ?_, ?_, ?_⟩
  · intro other member
    rw [changeFriend_friends, sameFriends] at member
    rw [looked]
    split
    next same => rw [listed, ← same, agree.inList other member]
    next => exact agree.inList other member
  · rw [changeFriend_friends, sameFriends]
    exact agree.nodup
  · intro uri other
    rw [changeFriend_byUri, changeFriend_friends, sameFriends, entries, looked]
    split
    next same => rw [same]
    next => exact agree.byUri uri other
  · intro key other
    rw [changeFriend_byRefKey, changeFriend_friends, sameFriends, sameKeys, looked, agree.byRefKey]
    split
    next same => rw [‹(change (list.friend id)).refKey = (list.friend id).refKey›, same]
    next => rfl
  · rw [changeFriend_byRefKey, sameKeys]
    exact agree.keyDistinct
  · intro other member
    rw [changeFriend_friends, sameFriends] at member
    rw [looked]
    split
    next same => exact settled (same ▸ agree.settled other member)
    next => exact agree.settled other member

/-- A friend that gets one more URI. -/
theorem Agree.indexed (agree : Agree book list) (member : id ∈ list.friends) {uri : String}
    (key : (change (list.friend id)).refKey = (list.friend id).refKey)
    (listed : (change (list.friend id)).inList = (list.friend id).inList)
    (settled : Settled book (list.friend id) → Settled book (change (list.friend id)))
    (uris : ∀ other, other ≠ "" →
      (other ∈ urisOf book (change (list.friend id)) ↔ other ∈ urisOf book (list.friend id) ∨ other = uri)) :
    Agree book ((list.addFriendToListMapIfNotInItYet id uri).changeFriend id change) := by
  refine agree.changed (by simp) (by simp) (by simp) (nodup_addToMap agree.uriNodup) key listed settled ?_
  intro other owner
  rw [mem_addToMap (agree.inList id member)]
  by_cases same : owner = id
  · subst same
    rw [if_pos rfl, agree.byUri, Prod.mk.injEq]
    by_cases named : other = ""
    · simp only [named, ne_eq, not_true_eq_false, false_and, and_false, false_or, iff_false, not_and]
      intro nonempty empty
      exact absurd empty.symm nonempty
    · rw [uris other named]
      constructor
      · rintro (⟨inside, -, known⟩ | ⟨-, rfl, -⟩)
        · exact ⟨inside, named, .inl known⟩
        · exact ⟨member, named, .inr rfl⟩
      · rintro ⟨inside, -, known | rfl⟩
        · exact .inl ⟨inside, named, known⟩
        · exact .inr ⟨named, rfl, rfl⟩
  · rw [if_neg same]
    simp [same]

/-- A friend that loses a URI. -/
theorem Agree.unindexed (agree : Agree book list) (member : id ∈ list.friends) {uri : String}
    (key : (change (list.friend id)).refKey = (list.friend id).refKey)
    (listed : (change (list.friend id)).inList = (list.friend id).inList)
    (settled : Settled book (list.friend id) → Settled book (change (list.friend id)))
    (uris : ∀ other, other ≠ "" →
      (other ∈ urisOf book (change (list.friend id)) ↔ other ∈ urisOf book (list.friend id) ∧ other ≠ uri)) :
    Agree book ((list.removeFriendFromListMapIfAlreadyInIt id uri).changeFriend id change) := by
  refine agree.changed (by simp) (by simp) (by simp) (nodup_removeFromMap agree.uriNodup) key listed settled ?_
  intro other owner
  rw [mem_removeFromMap (agree.inList id member)]
  by_cases same : owner = id
  · subst same
    rw [if_pos rfl, agree.byUri]
    constructor
    · rintro ⟨⟨inside, named, known⟩, different⟩
      refine ⟨inside, named, (uris other named).mpr ⟨known, ?_⟩⟩
      rintro rfl
      exact different named rfl
    · rintro ⟨inside, named, kept⟩
      obtain ⟨known, different⟩ := (uris other named).mp kept
      exact ⟨⟨inside, named, known⟩, fun _ same => different (Prod.mk.inj same).1⟩
  · rw [if_neg same]
    simp [same]

end Change

section Vcards

variable {lf : Friend} {vcard : Vcard}

theorem urisOf_vcard (has : lf.vcard = some vcard) :
    urisOf book lf = vcard.phoneNumbers.map book.phoneNumberToSipUri ++
      (vcard.getSipAddresses book).map book.asStringUriOnly := by
  simp [urisOf, Friend.getPhoneNumbers, Friend.getAddresses, has]

theorem urisOf_settled (settled : Settled book lf) (has : lf.vcard = some vcard) :
    urisOf book lf = vcard.phoneNumbers.map book.phoneNumberToSipUri ++ imppUris book vcard := by
  rw [urisOf_vcard has, settled vcard has]

theorem getSipAddresses_clean (clean : vcard.sipAddresses = []) :
    (vcard.getSipAddresses book).map book.asStringUriOnly = imppUris book vcard := by
  simp [Vcard.getSipAddresses, clean, imppUris]

/-- A friend with a vCard, or one that a name gives a vCard without changing its key. -/
def Ready (lf : Friend) (name : String) : Prop := lf.vcard.isSome = true ∨ (name ≠ "" ∧ lf.refKey = "")

theorem Ready.withVcard {name : String} (ready : Ready lf name) :
    ∃ vcard, lf.withVcard name = { lf with vcard := some vcard } ∧
      vcard.phoneNumbers = lf.getPhoneNumbers ∧ vcard.getSipAddresses book = lf.getAddresses book ∧
      (Settled book lf → (vcard.getSipAddresses book).map book.asStringUriOnly = imppUris book vcard) := by
  cases has : lf.vcard with
  | some vcard =>
    have same : { lf with vcard := some vcard } = lf := by rw [← has]
    refine ⟨vcard, by simp [Friend.withVcard, has, same], ?_, ?_, fun settled => settled vcard has⟩
    · simp [Friend.getPhoneNumbers, has]
    · simp [Friend.getAddresses, has]
  | none =>
    obtain ⟨named, keyless⟩ : name ≠ "" ∧ lf.refKey = "" := by simpa [Ready, has] using ready
    refine ⟨{ fullName := name }, ?_, ?_, ?_, fun _ => getSipAddresses_clean rfl⟩
    · simp [Friend.withVcard, Friend.createVcard, Friend.setVcard, has, named, keyless]
    · simp [Friend.getPhoneNumbers, has]
    · simp [Friend.getAddresses, has, Vcard.getSipAddresses]

/-- An address that is printed into a vCard is read with the same URI. -/
theorem read_printed (lawful : book.Lawful) (fullName : String) (address : Address) :
    ∃ read, Vcard.readSipAddress book fullName (book.asStringUriOnly address) = some read ∧
      book.asStringUriOnly read = book.asStringUriOnly address := by
  obtain ⟨read, created, same⟩ := lawful.inverts address
  simp only [Vcard.readSipAddress, lawful.scheme address, if_true, created, Option.map_some]
  split
  next => exact ⟨_, rfl, by rw [lawful.uriOnly, same]⟩
  next => exact ⟨_, rfl, same⟩

theorem imppUris_append (lawful : book.Lawful) (vcard : Vcard) (address : Address) :
    imppUris book (vcard.addSipAddress (book.asStringUriOnly address)) =
      imppUris book vcard ++ [book.asStringUriOnly address] := by
  obtain ⟨read, found, same⟩ := read_printed lawful vcard.fullName address
  simp [imppUris, Vcard.addSipAddress, Vcard.cleanCache, List.filterMap_append, found, same]

end Vcards

section Friends

variable {list : FriendList} {id : FriendId} {address : Address}

theorem addAddress_agree (lawful : book.Lawful) (agree : Agree book list) (member : id ∈ list.friends)
    (ready : Ready (list.friend id) (nameOf address.clean)) : Agree book (list.addAddress book id address) := by
  unfold addAddress
  split
  next => exact agree
  next =>
    obtain ⟨vcard, given, phones, addresses, kept⟩ := @Ready.withVcard book _ _ ready
    have settled := kept (agree.settled id member)
    apply agree.indexed member
    · simp [given, Friend.editVcard]
    · simp [given, Friend.editVcard]
    · intro _ other some
      obtain rfl : vcard.addSipAddress _ = other := by simpa [given, Friend.editVcard] using some
      exact getSipAddresses_clean rfl
    · intro other _
      rw [@urisOf_vcard book _ (vcard.addSipAddress (book.asStringUriOnly address.clean))
        (by simp [given, Friend.editVcard]), getSipAddresses_clean rfl, imppUris_append lawful, ← settled, urisOf, ← phones,
        ← addresses, ← List.append_assoc, List.mem_append, List.mem_singleton]
      rfl

theorem addPhoneNumber_agree (agree : Agree book list) (member : id ∈ list.friends) {phoneNumber : String}
    (ready : Ready (list.friend id) phoneNumber) : Agree book (list.addPhoneNumber book id phoneNumber) := by
  unfold addPhoneNumber
  split
  next => exact agree
  next =>
    split
    next => exact agree
    next =>
      obtain ⟨vcard, given, phones, addresses, kept⟩ := @Ready.withVcard book _ _ ready
      apply agree.indexed member
      · simp [given, Friend.editVcard]
      · simp [given, Friend.editVcard]
      · intro settled other some
        obtain rfl : vcard.addPhoneNumber _ = other := by simpa [given, Friend.editVcard] using some
        exact kept settled
      · intro other _
        have same : (vcard.addPhoneNumber phoneNumber).getSipAddresses book = vcard.getSipAddresses book := rfl
        rw [@urisOf_vcard book _ (vcard.addPhoneNumber phoneNumber) (by simp [given, Friend.editVcard]), same, urisOf,
          ← phones, ← addresses, Vcard.addPhoneNumber, List.map_append, List.map_singleton, List.append_assoc,
          List.mem_append, List.mem_append, List.mem_append, List.mem_singleton, or_assoc]
        exact or_congr_right or_comm

/-- The friend loses a URI, and no other one. -/
def Loses (book : AddressBook) (before after : Friend) (uri : String) : Prop :=
  uri ∉ urisOf book after ∧ ∀ other ∈ urisOf book before, other ≠ uri → other ∈ urisOf book after

/-- What a friend has once an address was removed from its vCard. -/
def withoutAddress (lf : Friend) (uri : String) : Friend := lf.editVcard (·.removeSipAddress uri)

theorem withoutAddress_settled {lf : Friend} {uri : String} (settled : Settled book lf) :
    Settled book (withoutAddress lf uri) := by
  intro vcard has
  simp only [withoutAddress, Friend.editVcard, Option.map_eq_some_iff] at has
  obtain ⟨before, had, rfl⟩ := has
  unfold Vcard.removeSipAddress
  split
  next => exact getSipAddresses_clean rfl
  next => exact settled before had

theorem withoutAddress_uris {lf : Friend} {uri : String} (settled : Settled book lf) :
    ∀ other ∈ urisOf book (withoutAddress lf uri), other ∈ urisOf book lf := by
  intro other member
  cases has : lf.vcard with
  | none => simp [withoutAddress, Friend.editVcard, has, urisOf, Friend.getPhoneNumbers, Friend.getAddresses] at member
  | some vcard =>
    have after : (withoutAddress lf uri).vcard = some (vcard.removeSipAddress uri) := by
      simp [withoutAddress, Friend.editVcard, has]
    rw [urisOf_settled (withoutAddress_settled settled) after] at member
    rw [urisOf_settled settled has]
    unfold Vcard.removeSipAddress at member
    split at member
    next =>
      rcases List.mem_append.mp member with phone | address
      · exact List.mem_append_left _ phone
      · apply List.mem_append_right
        exact ((List.eraseP_sublist.filterMap _).map _).subset address
    next => exact member

theorem removeAddress_agree (agree : Agree book list) (member : id ∈ list.friends)
    (loses : Loses book (list.friend id) (withoutAddress (list.friend id) (book.asStringUriOnly address))
      (book.asStringUriOnly address)) : Agree book (list.removeAddress book id address) := by
  unfold removeAddress
  apply agree.unindexed member
  · rfl
  · rfl
  · exact withoutAddress_settled
  · intro other _
    constructor
    · intro kept
      refine ⟨withoutAddress_uris (agree.settled id member) other kept, ?_⟩
      rintro rfl
      exact loses.1 kept
    · rintro ⟨known, different⟩
      exact loses.2 other known different

def withoutPhoneNumber (lf : Friend) (phoneNumber : String) : Friend := lf.editVcard (·.removePhoneNumber phoneNumber)

theorem withoutPhoneNumber_uris {lf : Friend} {phoneNumber other : String}
    (different : other ≠ book.phoneNumberToSipUri phoneNumber) :
    other ∈ urisOf book (withoutPhoneNumber lf phoneNumber) ↔ other ∈ urisOf book lf := by
  cases has : lf.vcard with
  | none => simp [withoutPhoneNumber, Friend.editVcard, has, urisOf, Friend.getPhoneNumbers, Friend.getAddresses]
  | some vcard =>
    have after : (withoutPhoneNumber lf phoneNumber).vcard = some (vcard.removePhoneNumber phoneNumber) := by
      simp [withoutPhoneNumber, Friend.editVcard, has]
    have phones : other ∈ (vcard.phoneNumbers.erase phoneNumber).map book.phoneNumberToSipUri ↔
        other ∈ vcard.phoneNumbers.map book.phoneNumberToSipUri := by
      simp only [List.mem_map]
      constructor
      · rintro ⟨number, inside, rfl⟩
        exact ⟨number, List.mem_of_mem_erase inside, rfl⟩
      · rintro ⟨number, inside, rfl⟩
        refine ⟨number, (List.mem_erase_of_ne ?_).mpr inside, rfl⟩
        rintro rfl
        exact different rfl
    rw [urisOf_vcard after, urisOf_vcard has, List.mem_append, List.mem_append]
    exact or_congr phones Iff.rfl

theorem removePhoneNumber_agree (agree : Agree book list) (member : id ∈ list.friends) {phoneNumber : String}
    (loses : phoneNumber ≠ "" → book.phoneNumberToSipUri phoneNumber ≠ "" →
      book.phoneNumberToSipUri phoneNumber ∉ urisOf book (withoutPhoneNumber (list.friend id) phoneNumber)) :
    Agree book (list.removePhoneNumber book id phoneNumber) := by
  unfold removePhoneNumber
  split
  next => exact agree
  next named =>
    apply agree.unindexed member
    · rfl
    · rfl
    · intro settled vcard has
      simp only [Friend.editVcard, Option.map_eq_some_iff] at has
      obtain ⟨before, had, rfl⟩ := has
      exact settled before had
    · intro other nonempty
      by_cases same : other = book.phoneNumberToSipUri phoneNumber
      · subst same
        have gone := loses (by simpa using named) nonempty
        exact iff_of_false gone fun known => known.2 rfl
      · simp only [ne_eq, same, not_false_eq_true, and_true]
        exact withoutPhoneNumber_uris same

theorem setRefKey_agree (agree : Agree book list) {key : String} (same : key = (list.friend id).refKey) :
    Agree book (list.setRefKey id key) := by
  have unchanged : list.setRefKey id key = list := by
    simp [setRefKey, changeFriend, same]
  rw [unchanged]
  exact agree

/-- The main address of a friend is changed where it has none, or into itself. -/
def KeepsMain (book : AddressBook) (lf : Friend) (address : Address) : Prop :=
  lf.getAddresses book = [] ∨ ∃ vcard value rest read, lf.vcard = some vcard ∧ vcard.impp = value :: rest ∧
    Vcard.readSipAddress book vcard.fullName value = some read ∧
    book.asStringUriOnly read = book.asStringUriOnly address.clean

theorem editMainSipAddress_fresh (lawful : book.Lawful) {vcard : Vcard} (none : vcard.getSipAddresses book = [])
    (address : Address) :
    (vcard.editMainSipAddress (book.asStringUriOnly address)).sipAddresses = [] ∧
      imppUris book (vcard.editMainSipAddress (book.asStringUriOnly address)) = [book.asStringUriOnly address] := by
  obtain ⟨read, found, same⟩ := read_printed lawful vcard.fullName address
  have clean : vcard.sipAddresses = [] := by
    by_contra filled
    simp [Vcard.getSipAddresses, filled] at none
  have unread : vcard.impp.filterMap (Vcard.readSipAddress book vcard.fullName) = [] := by
    simpa [Vcard.getSipAddresses, clean] using none
  unfold Vcard.editMainSipAddress
  split
  next value rest values =>
    refine ⟨clean, ?_⟩
    have others : rest.filterMap (Vcard.readSipAddress book vcard.fullName) = [] := by
      rw [values] at unread
      rw [List.filterMap_eq_nil_iff] at unread ⊢
      exact fun other member => unread other (List.mem_cons_of_mem _ member)
    simp [imppUris, found, others, same]
  next values => exact ⟨rfl, by simp [imppUris, Vcard.addSipAddress, Vcard.cleanCache, values, found, same]⟩

theorem setAddress_fresh (lawful : book.Lawful) (agree : Agree book list) (member : id ∈ list.friends)
    (ready : Ready (list.friend id) (nameOf address.clean)) (unset : (list.friend id).getAddresses book = []) :
    Agree book (list.setAddress book id address) := by
  have uncached : (list.friend id).editVcard (fun vcard => { vcard with sipAddresses := [] }) = list.friend id := by
    cases has : (list.friend id).vcard with
    | none =>
      unfold Friend.editVcard
      rw [has, Option.map_none, ← has]
    | some vcard =>
      have clean : vcard.sipAddresses = [] := by
        by_contra filled
        simp [Friend.getAddresses, has, Vcard.getSipAddresses, filled] at unset
      unfold Friend.editVcard
      rw [has, Option.map_some, ← clean, ← has]
  obtain ⟨vcard, given, phones, addresses, -⟩ := @Ready.withVcard book _ _ ready
  obtain ⟨clean, uris⟩ := editMainSipAddress_fresh lawful (addresses.trans unset) address.clean
  have numbers : (vcard.editMainSipAddress (book.asStringUriOnly address.clean)).phoneNumbers = vcard.phoneNumbers := by
    unfold Vcard.editMainSipAddress
    split <;> rfl
  have edited : (((list.friend id).editVcard fun vcard => { vcard with sipAddresses := [] }).withVcard
      (nameOf address.clean)).editVcard (·.editMainSipAddress (book.asStringUriOnly address.clean)) =
      { list.friend id with vcard := some (vcard.editMainSipAddress (book.asStringUriOnly address.clean)) } := by
    rw [uncached, given]
    rfl
  unfold setAddress
  simp only [unset, List.head?_nil, Option.elim_none]
  apply agree.indexed member
  · rw [edited]
  · rw [edited]
  · intro _ other some
    rw [edited, Option.some.injEq] at some
    rw [← some]
    exact getSipAddresses_clean clean
  · intro other _
    rw [edited, @urisOf_vcard book _ (vcard.editMainSipAddress (book.asStringUriOnly address.clean)) rfl,
      getSipAddresses_clean clean, uris, numbers, phones, urisOf, unset, List.map_nil, List.append_nil, List.mem_append,
      List.mem_singleton]

/-- Setting the main address that a friend already has. -/
theorem setAddress_same (lawful : book.Lawful) (agree : Agree book list) (member : id ∈ list.friends)
    {vcard : Vcard} {value : String} {rest : List String} {read : Address} (has : (list.friend id).vcard = some vcard)
    (values : vcard.impp = value :: rest) (reads : Vcard.readSipAddress book vcard.fullName value = some read)
    (main : book.asStringUriOnly read = book.asStringUriOnly address.clean) :
    Agree book (list.setAddress book id address) := by
  have settled := agree.settled id member vcard has
  have uris : (vcard.getSipAddresses book).map book.asStringUriOnly = book.asStringUriOnly address.clean ::
      (rest.filterMap (Vcard.readSipAddress book vcard.fullName)).map book.asStringUriOnly := by
    rw [settled, imppUris, values, List.filterMap_cons_some reads, List.map_cons, main]
  obtain ⟨previous, others, addresses, head⟩ : ∃ previous others,
      vcard.getSipAddresses book = previous :: others ∧
        book.asStringUriOnly previous = book.asStringUriOnly address.clean := by
    cases found : vcard.getSipAddresses book with
    | nil => simp [found] at uris
    | cons previous others =>
      rw [found, List.map_cons, List.cons.injEq] at uris
      exact ⟨previous, others, rfl, uris.1⟩
  have read : (list.friend id).getAddresses book = previous :: others := by
    simp [Friend.getAddresses, has, addresses]
  let changed : Vcard := { vcard with
    sipAddresses := previous :: others, impp := book.asStringUriOnly address.clean :: rest }
  have edited : (((list.friend id).editVcard fun vcard => { vcard with sipAddresses := previous :: others }).withVcard
      (nameOf address.clean)).editVcard (·.editMainSipAddress (book.asStringUriOnly address.clean)) =
      { list.friend id with vcard := some changed } := by
    simp [Friend.editVcard, has, Friend.withVcard, Vcard.editMainSipAddress, values, changed]
  have listed := agree.inList id member
  unfold setAddress
  simp only [read, List.head?_cons, Option.elim_some]
  apply agree.changed
  · simp
  · simp
  · simp
  · exact nodup_addToMap (nodup_removeFromMap agree.uriNodup)
  · rw [edited]
  · rw [edited]
  · intro _ other some
    rw [edited, Option.some.injEq] at some
    rw [← some]
    obtain ⟨again, found, same⟩ := read_printed lawful vcard.fullName address.clean
    have kept : changed.getSipAddresses book = previous :: others := by simp [Vcard.getSipAddresses, changed]
    rw [kept, ← addresses, uris, imppUris]
    simp [changed, found, same]
  · intro uri owner
    rw [mem_addToMap (by simpa using listed), mem_removeFromMap listed, edited,
      @urisOf_vcard book { list.friend id with vcard := some changed } changed rfl]
    have cached : changed.getSipAddresses book = previous :: others := by simp [Vcard.getSipAddresses, changed]
    have kept : changed.getSipAddresses book = vcard.getSipAddresses book := by rw [cached, addresses]
    have numbers : changed.phoneNumbers = vcard.phoneNumbers := rfl
    have known : book.asStringUriOnly address.clean ∈ urisOf book (list.friend id) := by
      rw [urisOf_vcard has, uris]
      exact List.mem_append_right _ List.mem_cons_self
    rw [kept, numbers, ← urisOf_vcard has]
    by_cases same : owner = id
    · subst same
      rw [if_pos rfl, agree.byUri, head, Prod.mk.injEq]
      constructor
      · rintro (⟨inside, -⟩ | ⟨named, rfl, -⟩)
        · exact inside
        · exact ⟨member, named, known⟩
      · intro inside
        by_cases again : uri = book.asStringUriOnly address.clean
        · exact .inr ⟨again ▸ inside.2.1, again, rfl⟩
        · exact .inl ⟨inside, fun _ equal => again (Prod.mk.inj equal).1⟩
    · rw [if_neg same]
      simp [same]

theorem setAddress_agree (lawful : book.Lawful) (agree : Agree book list) (member : id ∈ list.friends)
    (ready : Ready (list.friend id) (nameOf address.clean)) (main : KeepsMain book (list.friend id) address) :
    Agree book (list.setAddress book id address) := by
  rcases main with unset | ⟨vcard, value, rest, read, has, values, reads, same⟩
  · exact setAddress_fresh lawful agree member ready unset
  · exact setAddress_same lawful agree member has values reads same

end Friends

end FriendList
end Liblinphone
