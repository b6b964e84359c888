import Liblinphone.Proofs.ConferenceRoster
import Liblinphone.Proofs.NotifyRefusal
import Mathlib.Data.List.Pairwise
import Mathlib.Tactic.ByContra

/-! A full state replaces the participants of the client. What it announces is
found by comparing strictly, while the participants themselves are found by
comparing weakly, so the two have to agree for the announcements to be right. -/

namespace Liblinphone

/-- Every user of the full state is added with its roles. -/
structure ListsUsers (confInfo : ConferenceType) : Prop where
  full : confInfo.isFullState = true
  added : ∀ user ∈ confInfo.users.getD [], user.state = .full
  roles : ∀ user ∈ confInfo.users.getD [], user.roles.isSome = true

section SameRoster

variable {sip : BelleSip} {now : Int}

/-- The devices of another participant do not depend on who is looking at them. -/
theorem applyEndpoint_other (first second : ClientConference) (endpoint : EndpointType) (gruu : Address)
    (participant : Participant) :
    applyEndpoint sip now first false endpoint gruu participant =
      applyEndpoint sip now second false endpoint gruu participant := by
  have streams : streamsNotified sip first false = streamsNotified sip second false := by
    funext endpoint device
    simp [streamsNotified, legacyThumbnailEnabled]
  have devices : deviceNotified sip now first false = deviceNotified sip now second false := by
    funext endpoint device
    simp only [deviceNotified, streams]
  simp only [applyEndpoint, devices]

theorem userDescribed_other (first second : ClientConference) (isFullState : Bool) (user : UserType)
    (participant : Participant) :
    userDescribed sip now isFullState false first user participant =
      userDescribed sip now isFullState false second user participant := by
  have applied : endpointApplied sip now false first = endpointApplied sip now false second := by
    funext participant endpoint
    simp only [endpointApplied, applyEndpoint_other first second]
  simp only [userDescribed, applied]

/-- The roles of a user decide what it starts as. -/
theorem userAdded_eq {user : UserType} {entry : List String} (roles : user.roles = some entry)
    (conference : ClientConference) :
    userAdded true conference user =
      { address := user.entity.getUriWithoutGruu, isAdmin := entry.contains "admin", role := roleOf entry user.state } := by
  simp only [userAdded, fillParticipantAttributes, roles, Participant.create]
  cases entry.contains "admin" with
  | false => simp
  | true => simp

/-- The same other participants, and the same participant that is me. -/
def SameRoster (first second : ClientConference) : Prop :=
  first.participants = second.participants ∧ first.me.address = second.me.address

theorem isMe_congr {first second : ClientConference} (same : first.me.address = second.me.address) (address : Address) :
    first.isMe sip address = second.isMe sip address := by
  simp only [ClientConference.isMe, same]

theorem SameRoster.userApplied {first second : ClientConference} (same : SameRoster first second) {user : UserType}
    (added : user.state = .full) (roles : user.roles.isSome = true) :
    SameRoster (userApplied sip now true first user) (userApplied sip now true second user) := by
  obtain ⟨entry, given⟩ := Option.isSome_iff_exists.mp roles
  unfold Liblinphone.userApplied
  rw [isMe_congr same.2, same.1, userAdded_eq given, userAdded_eq given]
  split
  · simp only [added, ClientConference.storeParticipant, ↓reduceIte]
    refine ⟨same.1, ?_⟩
    rw [userDescribed_address, userDescribed_address, fillParticipantAttributes_address,
      fillParticipantAttributes_address]
    exact same.2
  · cases findParticipant second.participants user.entity with
    | some participant =>
      simp only [added, ClientConference.storeParticipant, Bool.false_eq_true, ↓reduceIte,
        userDescribed_other first second, same.1]
      exact ⟨rfl, same.2⟩
    | none =>
      simp only [added, userDescribed_other first second]
      exact ⟨rfl, same.2⟩

theorem users_same (old otherOld : List Participant) {users : List UserType}
    (added : ∀ user ∈ users, user.state = .full) (roles : ∀ user ∈ users, user.roles.isSome = true)
    {first second : ClientConferenceEventHandler} (same : SameRoster first.conference second.conference) :
    SameRoster (users.foldl (ClientConferenceEventHandler.userNotified sip now old true) first).conference
      (users.foldl (ClientConferenceEventHandler.userNotified sip now otherOld true) second).conference := by
  induction users generalizing first second with
  | nil => exact same
  | cons user rest ih =>
    refine ih (fun other member => added other (by simp [member])) (fun other member => roles other (by simp [member])) ?_
    obtain ⟨lastNotify, kept⟩ := @ClientConferenceEventHandler.userNotified_spec sip now old true first user
    obtain ⟨otherNotify, otherKept⟩ := @ClientConferenceEventHandler.userNotified_spec sip now otherOld true second user
    have applied := @SameRoster.userApplied sip now _ _ same user (added user (by simp)) (roles user (by simp))
    rw [kept, otherKept]
    exact ⟨applied.1, applied.2⟩

end SameRoster

/-- The addresses of the participants that were announced as added. -/
def addedIn (notifications : List ConferenceNotification) : List Address :=
  notifications.filterMap fun
    | .participantAdded address => some address
    | _ => none

def removedIn (notifications : List ConferenceNotification) : List Address :=
  notifications.filterMap fun
    | .participantRemoved address => some address
    | _ => none

@[simp] theorem addedIn_append (first second : List ConferenceNotification) :
    addedIn (first ++ second) = addedIn first ++ addedIn second := List.filterMap_append

@[simp] theorem removedIn_append (first second : List ConferenceNotification) :
    removedIn (first ++ second) = removedIn first ++ removedIn second := List.filterMap_append

/-- No participant is announced, neither as added nor as removed. -/
def Silent (notifications : List ConferenceNotification) : Prop :=
  addedIn notifications = [] ∧ removedIn notifications = []

/-- The announcements of participants between two handlers. -/
structure Announces (start final : ClientConferenceEventHandler) (added removed : List Address) : Prop where
  added : addedIn final.raised = addedIn start.raised ++ added
  removed : removedIn final.raised = removedIn start.raised ++ removed

theorem Announces.trans {start middle final : ClientConferenceEventHandler} {added more removed gone : List Address}
    (left : Announces start middle added removed) (right : Announces middle final more gone) :
    Announces start final (added ++ more) (removed ++ gone) where
  added := by rw [right.added, left.added, List.append_assoc]
  removed := by rw [right.removed, left.removed, List.append_assoc]

theorem Announces.after_silence {start middle final : ClientConferenceEventHandler} {added removed : List Address}
    (left : Announces start middle [] []) (right : Announces middle final added removed) :
    Announces start final added removed := by
  simpa using left.trans right

theorem Announces.notify (handler : ClientConferenceEventHandler) (notifications : List ConferenceNotification) :
    Announces handler (handler.notify notifications) (addedIn notifications) (removedIn notifications) where
  added := by simp
  removed := by simp

theorem Announces.silent {handler final : ClientConferenceEventHandler} {notifications : List ConferenceNotification}
    (raised : final.raised = handler.raised ++ notifications) (silent : Silent notifications) :
    Announces handler final [] [] where
  added := by rw [raised, addedIn_append, silent.1]
  removed := by rw [raised, removedIn_append, silent.2]

namespace ClientConferenceEventHandler

variable {sip : BelleSip} {now : Int} {old : List Participant} {isFullState isMe : Bool}

theorem fillParticipantAttributes_silent (roles : Option (List String)) (state : StateType) (notify : Bool)
    (participant : Participant) :
    Silent (fillParticipantAttributes roles state isFullState notify participant).2 := by
  cases roles with
  | none => exact ⟨rfl, rfl⟩
  | some entry =>
    simp only [fillParticipantAttributes, Silent, addedIn, removedIn, List.filterMap_append]
    split <;> split <;> simp

theorem endpointNotifications_silent (user : Address) (endpoint : EndpointType) (gruu : Address)
    (participant : Participant) (device : Option ParticipantDevice) :
    Silent (endpointNotifications sip old isFullState isMe user endpoint gruu participant device) := by
  unfold endpointNotifications
  split
  · split <;> exact ⟨rfl, rfl⟩
  · split
    · split <;> exact ⟨rfl, rfl⟩
    · exact ⟨rfl, rfl⟩
  · exact ⟨rfl, rfl⟩

theorem endpoints_announce (user : Address) (endpoints : List EndpointType)
    (state : Participant × ClientConferenceEventHandler) :
    Announces state.2 (endpoints.foldl (endpointNotified sip now old isFullState isMe user) state).2 [] [] := by
  induction endpoints generalizing state with
  | nil => exact .silent (List.append_nil _).symm ⟨rfl, rfl⟩
  | cons endpoint rest ih =>
    refine .after_silence ?_ (ih (endpointNotified sip now old isFullState isMe user state endpoint))
    unfold endpointNotified
    cases endpoint.entity with
    | none => exact .silent (List.append_nil _).symm ⟨rfl, rfl⟩
    | some gruu =>
      cases applied : applyEndpoint sip now state.2.conference isMe endpoint gruu state.1 with
      | none =>
        simp only [applied]
        exact .silent (requestFullState_raised state.2) ⟨rfl, rfl⟩
      | some result =>
        simp only [applied]
        exact .silent rfl (endpointNotifications_silent user endpoint gruu result.1 result.2)

theorem participantNotified_announces (user : UserType) (participant : Participant)
    (handler : ClientConferenceEventHandler) :
    Announces handler (participantNotified sip now old isFullState isMe user participant handler) [] [] := by
  let filled := fillParticipantAttributes user.roles user.state isFullState true participant
  have attributes : Announces handler (handler.notify filled.2) [] [] :=
    .silent rfl (fillParticipantAttributes_silent user.roles user.state true participant)
  have endpoints := @endpoints_announce sip now old isFullState isMe user.entity user.endpoint
    (filled.1, handler.notify filled.2)
  exact ⟨(attributes.trans endpoints).added, (attributes.trans endpoints).removed⟩

end ClientConferenceEventHandler

/-- The users other than me, each weak address once: where it is listed first. -/
def listUser (isMe : Address → Bool) (seen : List Address) (user : UserType) : List Address :=
  if isMe user.entity || seen.any (fun other => other.weakEqual user.entity) then seen else seen ++ [user.entity]

def firstListed (isMe : Address → Bool) (users : List UserType) : List Address := users.foldl (listUser isMe) []

section Listing

variable {sip : BelleSip} {now : Int} {old : List Participant} {start : ClientConferenceEventHandler}

/-- The users seen so far are the participants, and those that strict comparison
does not find among the old ones were announced. -/
structure Listing (sip : BelleSip) (old : List Participant) (start : ClientConferenceEventHandler)
    (seen : List Address) (handler : ClientConferenceEventHandler) : Prop where
  addresses : handler.conference.participants.map (·.address) = seen.map (·.getUriWithoutGruu)
  me : handler.conference.me.address = start.conference.me.address
  announced : Announces start handler
    ((seen.filter fun user => ClientConferenceEventHandler.announcesParticipant sip old true user).map
      (·.getUriWithoutGruu)) []

theorem findParticipant_seen {participants : List Participant} {seen : List Address}
    (addresses : participants.map (·.address) = seen.map (·.getUriWithoutGruu)) (address : Address) :
    (findParticipant participants address).isSome = seen.any fun other => other.weakEqual address := by
  have mapped : (participants.map (·.address)).any (fun other => other.weakEqual address) =
      seen.any fun other => other.weakEqual address := by
    rw [addresses, List.any_map]
    rfl
  rw [← mapped, List.any_map, findParticipant, List.isSome_find?]
  rfl

/-- A participant that is described anew keeps its address. -/
theorem updateFirst_address {participants : List Participant} {address : Address} {participant described : Participant}
    (found : findParticipant participants address = some participant)
    (kept : described.address = participant.address) :
    (Library.updateFirst (fun other => other.address.weakEqual address) (fun _ => described) participants).map
      (·.address) = participants.map (·.address) := by
  induction participants with
  | nil => rfl
  | cons first rest ih =>
    simp only [findParticipant, List.find?_cons] at found
    cases hit : first.address.weakEqual address with
    | true =>
      simp only [hit, Option.some.injEq] at found
      subst found
      simp [Library.updateFirst, hit, kept]
    | false =>
      simp only [hit] at found
      simpa [Library.updateFirst, hit] using ih found

/-- A user that is added is me, or a participant already, or a new participant. -/
theorem userApplied_listed {conference : ClientConference} {user : UserType} (added : user.state = .full)
    (listed : (conference.isMe sip user.entity || (findParticipant conference.participants user.entity).isSome) = true) :
    (userApplied sip now true conference user).participants.map (·.address) =
        conference.participants.map (·.address) ∧
      (userApplied sip now true conference user).me.address = conference.me.address := by
  cases itsMe : conference.isMe sip user.entity with
  | true =>
    simp only [userApplied, itsMe, added, ClientConference.storeParticipant, ↓reduceIte, userDescribed_address,
      fillParticipantAttributes_address, and_self]
  | false =>
    simp only [itsMe, Bool.false_or] at listed
    obtain ⟨participant, found⟩ := Option.isSome_iff_exists.mp listed
    simp only [userApplied, itsMe, found, added, ClientConference.storeParticipant, Bool.false_eq_true, ↓reduceIte,
      and_true]
    exact updateFirst_address found (userDescribed_address true false conference user participant)

theorem userApplied_new {conference : ClientConference} {user : UserType} (added : user.state = .full)
    (unlisted : (conference.isMe sip user.entity || (findParticipant conference.participants user.entity).isSome) =
      false) :
    (userApplied sip now true conference user).participants.map (·.address) =
        conference.participants.map (·.address) ++ [user.entity.getUriWithoutGruu] ∧
      (userApplied sip now true conference user).me.address = conference.me.address := by
  simp only [Bool.or_eq_false_iff, Option.isSome_eq_false_iff, Option.isNone_iff_eq_none] at unlisted
  simp [userApplied, unlisted.1, unlisted.2, added, userDescribed_address, userAdded_address]

theorem userNotified_listed {handler : ClientConferenceEventHandler} {user : UserType} (added : user.state = .full)
    (listed : (handler.conference.isMe sip user.entity ||
      (findParticipant handler.conference.participants user.entity).isSome) = true) :
    Announces handler (handler.userNotified sip now old true user) [] [] := by
  cases itsMe : handler.conference.isMe sip user.entity with
  | true =>
    simp only [ClientConferenceEventHandler.userNotified, itsMe, added, ↓reduceIte]
    exact ClientConferenceEventHandler.participantNotified_announces user _ handler
  | false =>
    simp only [itsMe, Bool.false_or] at listed
    obtain ⟨participant, found⟩ := Option.isSome_iff_exists.mp listed
    simp only [ClientConferenceEventHandler.userNotified, itsMe, found, added, Bool.false_eq_true, ↓reduceIte]
    exact ClientConferenceEventHandler.participantNotified_announces user participant handler

theorem userNotified_new {handler : ClientConferenceEventHandler} {user : UserType} (added : user.state = .full)
    (unlisted : (handler.conference.isMe sip user.entity ||
      (findParticipant handler.conference.participants user.entity).isSome) = false) :
    Announces handler (handler.userNotified sip now old true user)
      (if ClientConferenceEventHandler.announcesParticipant sip old true user.entity then
        [user.entity.getUriWithoutGruu] else []) [] := by
  simp only [Bool.or_eq_false_iff, Option.isSome_eq_false_iff, Option.isNone_iff_eq_none] at unlisted
  have address := @userAdded_address true handler.conference user
  simp only [userAdded, added] at address
  simp only [ClientConferenceEventHandler.userNotified, unlisted.1, unlisted.2, added, Bool.false_eq_true, ↓reduceIte,
    address]
  let participant := (fillParticipantAttributes user.roles .full true false
    (.create handler.conference.supportsMedia user.entity)).1
  have described := @ClientConferenceEventHandler.participantNotified_announces sip now old true false user participant
  have stored : Announces handler (handler.addParticipant participant) [] [] :=
    .silent (List.append_nil _).symm ⟨rfl, rfl⟩
  split
  next announced =>
    have raised := stored.after_silence (.notify _ [.participantAdded user.entity.getUriWithoutGruu])
    simpa [addedIn, removedIn] using raised.trans (described _)
  next => exact (stored.after_silence (.notify _ [])).after_silence (described _)

/-- One user of a full state: it is listed already, or it is added. -/
theorem Listing.userNotified {seen : List Address} {handler : ClientConferenceEventHandler}
    (listing : Listing sip old start seen handler) {user : UserType} (added : user.state = .full) :
    Listing sip old start (listUser (start.conference.isMe sip) seen user)
      (handler.userNotified sip now old true user) := by
  obtain ⟨lastNotify, kept⟩ := @ClientConferenceEventHandler.userNotified_spec sip now old true handler user
  have condition : (start.conference.isMe sip user.entity || seen.any fun other => other.weakEqual user.entity) =
      (handler.conference.isMe sip user.entity ||
        (findParticipant handler.conference.participants user.entity).isSome) := by
    rw [isMe_congr listing.me, findParticipant_seen listing.addresses]
  simp only [listUser, condition]
  split
  next listed =>
    obtain ⟨addresses, me⟩ := @userApplied_listed sip now handler.conference user added listed
    refine ⟨?_, ?_, ?_⟩
    · rw [kept]
      exact addresses.trans listing.addresses
    · rw [kept]
      exact me.trans listing.me
    · simpa using listing.announced.trans (userNotified_listed added listed)
  next unlisted =>
    have fresh := Bool.eq_false_iff.mpr unlisted
    obtain ⟨addresses, me⟩ := @userApplied_new sip now handler.conference user added fresh
    refine ⟨?_, ?_, ?_⟩
    · rw [kept]
      simpa [listing.addresses] using addresses
    · rw [kept]
      exact me.trans listing.me
    · have announced := listing.announced.trans (@userNotified_new sip now old handler user added fresh)
      rw [List.append_nil] at announced
      cases announces : ClientConferenceEventHandler.announcesParticipant sip old true user.entity with
      | true => simpa [announces] using announced
      | false => simpa [announces] using announced

theorem users_listing {users : List UserType} (added : ∀ user ∈ users, user.state = .full) {seen : List Address}
    {handler : ClientConferenceEventHandler} (listing : Listing sip old start seen handler) :
    Listing sip old start (users.foldl (listUser (start.conference.isMe sip)) seen)
      (users.foldl (ClientConferenceEventHandler.userNotified sip now old true) handler) := by
  induction users generalizing seen handler with
  | nil => exact listing
  | cons user rest ih =>
    exact ih (fun other member => added other (by simp [member])) (listing.userNotified (added user (by simp)))

end Listing

/-- A user other than me is listed under a weakly equal address. -/
def listsOther (isMe : Address → Bool) (users : List UserType) (address : Address) : Bool :=
  users.any fun user => !isMe user.entity && user.entity.weakEqual address

section FirstListed

variable {isMe : Address → Bool}

theorem listUser_any (seen : List Address) (user : UserType) (address : Address) :
    (listUser isMe seen user).any (fun other => other.weakEqual address) =
      (seen.any (fun other => other.weakEqual address) || !isMe user.entity && user.entity.weakEqual address) := by
  unfold listUser
  cases itsMe : isMe user.entity with
  | true => simp
  | false =>
    cases before : seen.any fun other => other.weakEqual user.entity with
    | false => simp
    | true =>
      obtain ⟨other, member, same⟩ := List.any_eq_true.mp before
      cases hit : user.entity.weakEqual address with
      | false => simp
      | true =>
        have found : seen.any (fun other => other.weakEqual address) = true :=
          List.any_eq_true.mpr ⟨other, member, Address.weakEqual_trans same hit⟩
        simp [found]

theorem firstListed_any (users : List UserType) (address : Address) :
    (firstListed isMe users).any (fun other => other.weakEqual address) = listsOther isMe users address := by
  have gathered (seen : List Address) :
      (users.foldl (listUser isMe) seen).any (fun other => other.weakEqual address) =
        (seen.any (fun other => other.weakEqual address) || listsOther isMe users address) := by
    induction users generalizing seen with
    | nil => simp [listsOther]
    | cons user rest ih =>
      rw [List.foldl_cons, ih, listUser_any, Bool.or_assoc]
      simp [listsOther]
  simpa [firstListed] using gathered []

theorem firstListed_distinct (users : List UserType) :
    (firstListed isMe users).Pairwise fun first second => first.weakEqual second = false := by
  have gathered (seen : List Address) (distinct : seen.Pairwise fun first second => first.weakEqual second = false) :
      (users.foldl (listUser isMe) seen).Pairwise fun first second => first.weakEqual second = false := by
    induction users generalizing seen with
    | nil => exact distinct
    | cons user rest ih =>
      refine ih _ ?_
      unfold listUser
      split
      · exact distinct
      next fresh =>
        simp only [Bool.or_eq_true, List.any_eq_true, not_or, not_exists, not_and, Bool.not_eq_true] at fresh
        refine List.pairwise_append.mpr ⟨distinct, by simp, ?_⟩
        intro first member second single
        obtain rfl : second = user.entity := by simpa using single
        exact fresh.2 first member
  exact gathered [] .nil

end FirstListed

section Announcements

variable {sip : BelleSip} {now : Int} {handler : ClientConferenceEventHandler} {confInfo : ConferenceType}

/-- What the previous participants and the listed users give as announcements. -/
def announcedUsers (sip : BelleSip) (conference : ClientConference) (users : List UserType) : List Address :=
  ((firstListed (conference.isMe sip) users).filter fun user =>
    ClientConferenceEventHandler.announcesParticipant sip conference.participants true user).map (·.getUriWithoutGruu)

def strictlyListed (sip : BelleSip) (conference : ClientConference) (users : List UserType) (address : Address) : Bool :=
  (firstListed (conference.isMe sip) users).any fun user => sip.addressEquals address user.getUriWithoutGruu

theorem silent_devices (participant : Address) (devices : List ParticipantDevice) :
    Silent (devices.map fun device => .participantDeviceRemoved participant device.address) := by
  induction devices with
  | nil => exact ⟨rfl, rfl⟩
  | cons device rest ih => exact ih

theorem removal_announced (current : List Participant) (participant : Participant) :
    addedIn (ClientConferenceEventHandler.removalNotifications sip current participant) = [] ∧
      removedIn (ClientConferenceEventHandler.removalNotifications sip current participant) =
        if current.any fun other => sip.addressEquals participant.address other.address then []
        else [participant.address] := by
  rw [← List.isSome_find?]
  unfold ClientConferenceEventHandler.removalNotifications
  cases current.find? fun other => sip.addressEquals participant.address other.address with
  | some other => exact silent_devices participant.address _
  | none =>
    obtain ⟨added, removed⟩ := silent_devices participant.address participant.devices
    simp only [addedIn_append, removedIn_append, added, removed]
    exact ⟨rfl, rfl⟩

theorem removals_announced (current old : List Participant) :
    addedIn (old.flatMap (ClientConferenceEventHandler.removalNotifications sip current)) = [] ∧
      removedIn (old.flatMap (ClientConferenceEventHandler.removalNotifications sip current)) =
        (old.filter fun participant =>
          !current.any fun other => sip.addressEquals participant.address other.address).map (·.address) := by
  induction old with
  | nil => exact ⟨rfl, rfl⟩
  | cons participant rest ih =>
    obtain ⟨added, removed⟩ := @removal_announced sip current participant
    simp only [List.flatMap_cons, addedIn_append, removedIn_append, ih, added, removed, List.filter_cons]
    cases current.any fun other => sip.addressEquals participant.address other.address with
    | true => exact ⟨rfl, rfl⟩
    | false => exact ⟨rfl, rfl⟩

/-- The announcements at the end of a full state are about who is gone. -/
theorem fullStateNotified_announces (old : List Participant) (oldMeDevices : List ParticipantDevice)
    (synchronizing : Bool) (handler : ClientConferenceEventHandler) :
    Announces handler (handler.fullStateNotified sip old oldMeDevices synchronizing) []
      ((old.filter fun participant => !handler.conference.participants.any fun other =>
        sip.addressEquals participant.address other.address).map (·.address)) := by
  obtain ⟨added, removed⟩ := @removals_announced sip handler.conference.participants old
  obtain ⟨addedDevices, removedDevices⟩ := silent_devices handler.conference.me.address
    (oldMeDevices.filter fun device =>
      !handler.conference.me.devices.any fun kept => sip.addressEquals device.address kept.address)
  have raised := Announces.notify handler (old.flatMap
    (ClientConferenceEventHandler.removalNotifications sip handler.conference.participants) ++
      ((oldMeDevices.filter fun device =>
        !handler.conference.me.devices.any fun kept => sip.addressEquals device.address kept.address).map
          fun device => .participantDeviceRemoved handler.conference.me.address device.address) ++
      .fullState :: if synchronizing then [] else [.firstNotifyReceived])
  have closing : Silent (.fullState :: if synchronizing then [] else [.firstNotifyReceived]) := by
    cases synchronizing <;> exact ⟨rfl, rfl⟩
  rw [addedIn_append, addedIn_append, removedIn_append, removedIn_append, added, removed, addedDevices, removedDevices,
    closing.1, closing.2] at raised
  simpa [ClientConferenceEventHandler.fullStateNotified] using raised

/-- The description of a full state is taken over without an announcement. -/
theorem descriptionNotified_kept (description : Option ConferenceDescriptionType)
    (handler : ClientConferenceEventHandler) :
    (handler.descriptionNotified true description).raised = handler.raised ∧
      (handler.descriptionNotified true description).conference.participants = handler.conference.participants ∧
      (handler.descriptionNotified true description).conference.me = handler.conference.me := by
  have media (handler : ClientConferenceEventHandler)
      (availableMedia : Option (List (LinphoneStreamType × MediaDirection))) :
      (handler.availableMediaNotified availableMedia).raised = handler.raised ∧
        (handler.availableMediaNotified availableMedia).conference.participants = handler.conference.participants ∧
        (handler.availableMediaNotified availableMedia).conference.me = handler.conference.me := by
    unfold ClientConferenceEventHandler.availableMediaNotified
    cases availableMedia with
    | none => exact ⟨rfl, rfl, rfl⟩
    | some media =>
      simp only
      split <;> exact ⟨rfl, rfl, rfl⟩
  cases description with
  | none => exact ⟨rfl, rfl, rfl⟩
  | some description =>
    obtain ⟨raised, participants, me⟩ := media (handler.subjectNotified true description.subject)
      description.availableMedia
    simp only [ClientConferenceEventHandler.descriptionNotified, raised, participants, me]
    unfold ClientConferenceEventHandler.subjectNotified
    cases description.subject with
    | none => exact ⟨rfl, rfl, rfl⟩
    | some subject =>
      simp only
      split
      · exact ⟨List.append_nil _, rfl, rfl⟩
      · exact ⟨rfl, rfl, rfl⟩

/-- A full state is applied from a handler with the same participants, in which
nothing was announced. -/
theorem fullState_applied (now : Int) (lists : ListsUsers confInfo)
    (entity : handler.conference.isEntity sip confInfo.entity = true) :
    ∃ started : ClientConferenceEventHandler, ∃ synchronizing,
      started.raised = handler.raised ∧ started.conference.participants = handler.conference.participants ∧
      started.conference.me = handler.conference.me ∧
      handler.conferenceInfoNotifyReceived sip now confInfo =
        started.usersNotified sip now true synchronizing confInfo.users := by
  have current : { handler with waitingFullState := false }.isStale confInfo = false := by
    simp [ClientConferenceEventHandler.isStale, lists.full]
  simp only [ClientConferenceEventHandler.conferenceInfoNotifyReceived, lists.full, Bool.not_true, Bool.and_false,
    Bool.false_eq_true, ↓reduceIte, entity, ClientConferenceEventHandler.documentAccepted, current]
  refine ⟨_, _, ?_, ?_, ?_, rfl⟩
  · exact (descriptionNotified_kept _ _).1
  · exact (descriptionNotified_kept _ _).2.1
  · exact (descriptionNotified_kept _ _).2.2

/-- What a full state with users announces. -/
theorem fullState_announces (now : Int) (lists : ListsUsers confInfo) {users : List UserType}
    (present : confInfo.users = some users)
    (entity : handler.conference.isEntity sip confInfo.entity = true) :
    Announces handler (handler.conferenceInfoNotifyReceived sip now confInfo)
      (announcedUsers sip handler.conference users)
      ((handler.conference.participants.filter fun participant =>
        !strictlyListed sip handler.conference users participant.address).map (·.address)) := by
  obtain ⟨started, synchronizing, raised, participants, me, applied⟩ := fullState_applied now lists entity
  let cleared := { started with conference := started.conference.clearParticipants }
  have listing : Listing sip handler.conference.participants cleared [] cleared :=
    ⟨rfl, rfl, .silent (List.append_nil _).symm ⟨rfl, rfl⟩⟩
  have added : ∀ user ∈ users, user.state = .full := by
    intro user member
    exact lists.added user (by simpa [present] using member)
  have isMe : cleared.conference.isMe sip = handler.conference.isMe sip := by
    funext address
    refine isMe_congr ?_ address
    simp only [cleared, ClientConference.clearParticipants, me]
  have final := @users_listing sip now _ _ users added _ _ listing
  have gone := @fullStateNotified_announces sip handler.conference.participants started.conference.me.devices
    synchronizing (users.foldl (ClientConferenceEventHandler.userNotified sip now handler.conference.participants true)
      cleared)
  have strict (address : Address) :
      ((users.foldl (ClientConferenceEventHandler.userNotified sip now handler.conference.participants true)
        cleared).conference.participants.any fun other => sip.addressEquals address other.address) =
        strictlyListed sip handler.conference users address := by
    have mapped := congrArg (fun addresses => addresses.any fun other => sip.addressEquals address other) final.addresses
    simp only [List.any_map] at mapped
    rw [isMe] at mapped
    exact mapped
  have all := final.announced.trans gone
  simp only [strict, List.append_nil, List.nil_append, isMe] at all
  rw [applied, present]
  simp only [ClientConferenceEventHandler.usersNotified, ↓reduceIte, participants]
  refine ⟨?_, ?_⟩
  · rw [← raised]
    exact all.added
  · rw [← raised]
    exact all.removed

/-- The participants after a full state do not depend on those of before. -/
theorem fullState_participants (now : Int) {first second : ClientConferenceEventHandler} (lists : ListsUsers confInfo)
    (me : first.conference.me.address = second.conference.me.address)
    (entity : first.conference.isEntity sip confInfo.entity = true)
    (otherEntity : second.conference.isEntity sip confInfo.entity = true) :
    (first.conferenceInfoNotifyReceived sip now confInfo).conference.participants =
      (second.conferenceInfoNotifyReceived sip now confInfo).conference.participants := by
  obtain ⟨started, synchronizing, -, -, startedMe, applied⟩ := fullState_applied now lists entity
  obtain ⟨other, otherSynchronizing, -, -, otherMe, otherApplied⟩ := fullState_applied now lists otherEntity
  have cleared : SameRoster { started with conference := started.conference.clearParticipants }.conference
      { other with conference := other.conference.clearParticipants }.conference :=
    ⟨rfl, by simp only [ClientConference.clearParticipants, startedMe, otherMe, me]⟩
  rw [applied, otherApplied]
  have added := lists.added
  have roles := lists.roles
  cases present : confInfo.users with
  | none => rfl
  | some users =>
    rw [present, Option.getD_some] at added roles
    exact (@users_same sip now started.conference.participants other.conference.participants users added roles _ _
      cleared).1

end Announcements

/-- The announcements are the differences between the previous participants and
the users listed, under weak equality. -/
structure NotifiesDifferences (sip : BelleSip) (now : Int) (handler : ClientConferenceEventHandler)
    (confInfo : ConferenceType) : Prop where
  removed : removedIn (handler.conferenceInfoNotifyReceived sip now confInfo).raised = removedIn handler.raised ++
    (handler.conference.participants.filter fun participant =>
      !listsOther (handler.conference.isMe sip) (confInfo.users.getD []) participant.address).map (·.address)
  added : handler.conference.participants ≠ [] → ∃ added,
    addedIn (handler.conferenceInfoNotifyReceived sip now confInfo).raised = addedIn handler.raised ++ added ∧
      added.Pairwise (fun first second => first.weakEqual second = false) ∧
      ∀ address, (∃ other ∈ added, other.weakEqual address = true) ↔
        listsOther (handler.conference.isMe sip) (confInfo.users.getD []) address = true ∧
          findParticipant handler.conference.participants address = none

/-- Strict comparison finds the previous participants among the listed users, and
the listed users among the previous participants, where weak comparison does. -/
structure RecognizesStrictly (sip : BelleSip) (handler : ClientConferenceEventHandler) (confInfo : ConferenceType) :
    Prop where
  users : confInfo.users.isSome = true ∨ handler.conference.participants = []
  previous : ∀ participant ∈ handler.conference.participants,
    strictlyListed sip handler.conference (confInfo.users.getD []) participant.address =
      listsOther (handler.conference.isMe sip) (confInfo.users.getD []) participant.address
  listed : ∀ user ∈ firstListed (handler.conference.isMe sip) (confInfo.users.getD []),
    (handler.conference.participants.any fun participant => sip.addressEquals user participant.address) =
      (findParticipant handler.conference.participants user).isSome

section Differences

variable {sip : BelleSip} {now : Int} {handler : ClientConferenceEventHandler} {confInfo : ConferenceType}

/-- Two conditions on addresses that leave out the same addresses agree on them. -/
theorem filter_addresses_iff (participants : List Participant) (first second : Address → Bool) :
    (participants.filter fun participant => !first participant.address).map (·.address) =
        (participants.filter fun participant => !second participant.address).map (·.address) ↔
      ∀ participant ∈ participants, first participant.address = second participant.address := by
  have left (condition : Address → Bool) :
      (participants.filter fun participant => !condition participant.address).map (·.address) =
        (participants.map (·.address)).filter fun address => !condition address := by
    rw [List.filter_map]
    rfl
  rw [left, left]
  constructor
  · intro same participant member
    have inside : participant.address ∈ participants.map (·.address) := List.mem_map.mpr ⟨participant, member, rfl⟩
    have both : participant.address ∈ ((participants.map (·.address)).filter fun address => !first address) ↔
        participant.address ∈ ((participants.map (·.address)).filter fun address => !second address) := by rw [same]
    simp only [List.mem_filter, inside, true_and, Bool.not_eq_true'] at both
    exact Bool.eq_iff_iff.mpr (by simpa using not_congr both)
  · intro same
    refine List.filter_congr fun address member => ?_
    obtain ⟨participant, inside, rfl⟩ := List.mem_map.mp member
    rw [same participant inside]

theorem announced_distinct (conference : ClientConference) (users : List UserType) :
    (announcedUsers sip conference users).Pairwise fun first second => first.weakEqual second = false := by
  refine List.Pairwise.map _ (fun first second different => ?_) ((firstListed_distinct users).filter _)
  rw [Address.weakEqual_getUriWithoutGruu, Address.weakEqual_comm, Address.weakEqual_getUriWithoutGruu,
    Address.weakEqual_comm]
  exact different

/-- The users announced are those that strict comparison does not find. -/
theorem announced_iff {conference : ClientConference} (previous : conference.participants ≠ []) (users : List UserType)
    (address : Address) :
    (∃ other ∈ announcedUsers sip conference users, other.weakEqual address = true) ↔
      ∃ user ∈ firstListed (conference.isMe sip) users, user.weakEqual address = true ∧
        (conference.participants.any fun participant => sip.addressEquals user participant.address) = false := by
  simp only [announcedUsers, List.mem_map, List.mem_filter, ClientConferenceEventHandler.announcesParticipant,
    Bool.not_true, Bool.false_or, Bool.and_eq_true, Bool.not_eq_true', List.isEmpty_eq_false_iff]
  constructor
  · rintro ⟨other, ⟨user, ⟨member, -, unknown⟩, rfl⟩, same⟩
    exact ⟨user, member, same, unknown⟩
  · rintro ⟨user, member, same, unknown⟩
    exact ⟨_, ⟨user, ⟨member, previous, unknown⟩, rfl⟩, same⟩

/-- Two users listed first under weakly equal addresses are the same. -/
theorem firstListed_unique {isMe : Address → Bool} {users : List UserType} {first second : Address}
    (left : first ∈ firstListed isMe users) (right : second ∈ firstListed isMe users)
    (same : first.weakEqual second = true) : first = second := by
  by_contra different
  have symmetric : Std.Symm fun first second : Address => first.weakEqual second = false :=
    ⟨fun first second apart => Address.weakEqual_comm first second ▸ apart⟩
  have apart := (firstListed_distinct users).forall left right different
  simp [same] at apart

/-- The added users are the unknown ones when strict comparison finds the users
that weak comparison finds. -/
theorem announced_unknown_iff {conference : ClientConference} (previous : conference.participants ≠ [])
    (users : List UserType) :
    (∀ address, (∃ other ∈ announcedUsers sip conference users, other.weakEqual address = true) ↔
      listsOther (conference.isMe sip) users address = true ∧
        findParticipant conference.participants address = none) ↔
      ∀ user ∈ firstListed (conference.isMe sip) users,
        (conference.participants.any fun participant => sip.addressEquals user participant.address) =
          (findParticipant conference.participants user).isSome := by
  simp only [announced_iff previous]
  constructor
  · intro exactly user member
    have listed : listsOther (conference.isMe sip) users user = true := by
      rw [← firstListed_any]
      exact List.any_eq_true.mpr ⟨user, member, Address.weakEqual_refl user⟩
    have itself : (∃ other ∈ firstListed (conference.isMe sip) users, other.weakEqual user = true ∧
        (conference.participants.any fun participant => sip.addressEquals other participant.address) = false) ↔
        (conference.participants.any fun participant => sip.addressEquals user participant.address) = false := by
      constructor
      · rintro ⟨other, inside, same, unknown⟩
        exact firstListed_unique inside member same ▸ unknown
      · intro unknown
        exact ⟨user, member, Address.weakEqual_refl user, unknown⟩
    have known := itself.symm.trans (exactly user)
    rw [listed] at known
    cases found : findParticipant conference.participants user with
    | none => simpa [found] using known
    | some participant => simpa [found] using known
  · intro agree address
    rw [← firstListed_any, List.any_eq_true]
    constructor
    · rintro ⟨user, member, same, unknown⟩
      have absent : findParticipant conference.participants user = none := by
        simpa [agree user member] using unknown
      exact ⟨⟨user, member, same⟩, findParticipant_congr same _ ▸ absent⟩
    · rintro ⟨⟨user, member, same⟩, absent⟩
      refine ⟨user, member, same, ?_⟩
      rw [agree user member, findParticipant_congr same, absent]
      rfl

/-- The announcements of one client are right exactly when its two ways of
comparing agree. -/
theorem differences_iff (now : Int) (lists : ListsUsers confInfo)
    (entity : handler.conference.isEntity sip confInfo.entity = true) :
    NotifiesDifferences sip now handler confInfo ↔ RecognizesStrictly sip handler confInfo := by
  cases present : confInfo.users with
  | none =>
    obtain ⟨started, synchronizing, raised, participants, -, applied⟩ := fullState_applied now lists entity
    have final : (handler.conferenceInfoNotifyReceived sip now confInfo).raised = handler.raised := by
      rw [applied, present]
      exact raised
    constructor
    · rintro ⟨removed, -⟩
      have empty : handler.conference.participants = [] := by
        simpa [final, present, listsOther] using removed
      exact ⟨.inr empty, by simp [empty], by simp [present, firstListed]⟩
    · rintro ⟨users, -, -⟩
      have empty : handler.conference.participants = [] := by simpa [present] using users
      exact ⟨by simp [final, empty], fun previous => absurd empty previous⟩
  | some users =>
    have announces := fullState_announces now lists present entity
    have removal := filter_addresses_iff handler.conference.participants
      (strictlyListed sip handler.conference users) (listsOther (handler.conference.isMe sip) users)
    constructor
    · rintro ⟨removed, added⟩
      rw [announces.removed, List.append_cancel_left_eq, present, Option.getD_some] at removed
      refine ⟨.inl (by simp [present]), by simpa [present] using removal.mp removed, ?_⟩
      rw [present, Option.getD_some]
      by_cases previous : handler.conference.participants = []
      · simp [previous, findParticipant]
      · obtain ⟨news, raised, -, exactly⟩ := added previous
        rw [announces.added, List.append_cancel_left_eq] at raised
        rw [← raised, present, Option.getD_some] at exactly
        exact (announced_unknown_iff previous users).mp exactly
    · rintro ⟨-, previously, listed⟩
      rw [present, Option.getD_some] at previously listed
      refine ⟨?_, fun previous => ⟨_, announces.added, announced_distinct _ _, ?_⟩⟩
      · rw [announces.removed, present, Option.getD_some, removal.mpr previously]
      · rw [present, Option.getD_some]
        exact (announced_unknown_iff previous users).mpr listed

end Differences

/-- After a full state the participants of two clients of a conference are the
same, whatever they were. The announcements of both are the differences exactly
when strict and weak comparison agree. -/
theorem fullState_replaces_iff {sip : BelleSip} (now : Int) {first second : ClientConferenceEventHandler}
    {confInfo : ConferenceType} (lists : ListsUsers confInfo)
    (me : first.conference.me.address = second.conference.me.address)
    (entity : first.conference.isEntity sip confInfo.entity = true)
    (otherEntity : second.conference.isEntity sip confInfo.entity = true) :
    (first.conferenceInfoNotifyReceived sip now confInfo).conference.participants =
          (second.conferenceInfoNotifyReceived sip now confInfo).conference.participants ∧
        NotifiesDifferences sip now first confInfo ∧ NotifiesDifferences sip now second confInfo ↔
      RecognizesStrictly sip first confInfo ∧ RecognizesStrictly sip second confInfo := by
  rw [differences_iff now lists entity, differences_iff now lists otherEntity]
  exact and_iff_right (fullState_participants now lists me entity otherEntity)

def fullStateOf (users : List Address) : ConferenceType where
  entity := some { domain := "conference" }
  version := some 9
  users := some (users.map fun user =>
    { entity := user
      roles := some ["participant", "speaker"]
      endpoint := [{ entity := some user, status := some .connected }] })

theorem fullState_replaces_iff_joined :
    let confInfo := fullStateOf [{ username := some "bob", domain := "sip" }, { username := some "carol", domain := "sip" }]
    let alone := { ClientConferenceEventHandler.joined with
      conference := { ClientConferenceEventHandler.joined.conference with participants := [] } }
    NotifiesDifferences .fieldwise 0 .joined confInfo ∧ NotifiesDifferences .fieldwise 0 alone confInfo := by
  intro confInfo alone
  have lists : ListsUsers confInfo := ⟨by decide, by decide, by decide⟩
  have replaced := @fullState_replaces_iff .fieldwise 0 .joined alone confInfo lists (by decide) (by decide) (by decide)
  exact (replaced.mpr ⟨⟨by decide, by decide, by decide⟩, ⟨by decide, by decide, by decide⟩⟩).2

/-- A participant that is listed under another scheme is announced as removed. -/
theorem fullState_announces_listed :
    ¬ NotifiesDifferences .fieldwise 0 .joined
      (fullStateOf [{ scheme := "sips", username := some "bob", domain := "sip" }]) := by
  intro notifies
  have removed := notifies.removed
  revert removed
  decide

end Liblinphone
