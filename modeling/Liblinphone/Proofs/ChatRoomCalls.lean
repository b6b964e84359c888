import Liblinphone.Proofs.ChatRoomSteps

/-! The calls of a room: registrations of devices, their sessions, and messages. -/

namespace Liblinphone.ServerChatRoom

open Library

section Registrations

variable {server : ChatServer} {sessions : Address → Option CallSessionState} {guarded steady : Prop}
  {allowed : ParticipantDeviceState → Prop} {room : ServerChatRoom}

theorem updateProtocolVersion_evolves (groupchat : Option Utils.Version) :
    Evolves server guarded allowed steady room (room.updateProtocolVersion groupchat) := by
  unfold updateProtocolVersion
  split
  · exact .refl
  · split
    · exact .single (.others rfl rfl rfl rfl rfl id)
    · exact .refl

theorem updateProtocolVersion_outline {groupchat : Option Utils.Version} :
    (room.updateProtocolVersion groupchat).outline = room.outline := by
  unfold updateProtocolVersion
  split
  · rfl
  · split <;> rfl

theorem determineProtocolVersion_evolves (sound : Sound guarded room) :
    Evolves server guarded allowed steady room room.determineProtocolVersion := by
  have reset : Evolves server guarded allowed steady room
      { room with protocolVersion := ChatServer.groupChatProtocolVersion } := .single (.others rfl rfl rfl rfl rfl id)
  unfold determineProtocolVersion
  refine reset.trans (Evolves.foldl (fun _ => True) ?_ (reset.sound sound) trivial).1
  exact fun device _ after _ _ => ⟨updateProtocolVersion_evolves _, trivial⟩

theorem Lists.updateParticipant {address other : Address} {change : ChatParticipant → ChatParticipant} (lists : room.Lists address)
    (kept : ∀ participant, (change participant).address = participant.address) :
    (room.updateParticipant other change).Lists address := by
  intro participant member equal
  obtain ⟨invitee, there, changed⟩ := mem_updateParticipant.mp member
  have same : participant.address = invitee.address := by
    rw [changed]
    split
    · exact kept invitee
    · rfl
  rw [same] at equal ⊢
  exact lists invitee there equal

/-- A device that the participant does not have yet is not one of its addresses. -/
theorem findDevice_new {participant : ChatParticipant} {address : Address} (lawful : server.sip.Lawful)
    (missing : findDevice server participant address = none) : ∀ other ∈ participant.devices, other.address ≠ address.getUri := by
  intro other inside same
  refine List.find?_eq_none.mp missing other inside ?_
  rw [same, lawful.symm, lawful.uriEquals_getUri]
  exact lawful.refl address

theorem addDevice_evolves {participant : ChatParticipant} {device : ChatDevice} {address : Address}
    (lawful : guarded → server.sip.Lawful) (joins : allowed .joining) (sound : Sound guarded room)
    (member : participant ∈ room.invitedParticipants) (missing : findDevice server participant address = none)
    (joining : device.state = .joining) (uri : device.address = address.getUri)
    (there : Live guarded room → room.Lists participant.address ∧ address.weakEqual participant.address = true) :
    Evolves server guarded allowed steady room
      (room.updateParticipant participant.address fun participant => { participant with devices := participant.devices ++ [device] }) := by
  refine .single (.addDevice joining joins (fun live => ⟨(there live).1, ?_⟩) fun live invitee other equal => ?_)
  · rw [uri]
    exact (there live).2
  · rw [← sound.formed.same member other equal, uri]
    exact findDevice_new (lawful live.1) missing

theorem addParticipantDevice_evolves {address : Address} {deviceInfo : ParticipantDeviceIdentity}
    (lawful : guarded → server.sip.Lawful) (joins : allowed .joining) (scheduled : allowed .scheduledForJoining)
    (leaves : allowed .left) (sound : Sound guarded room)
    (owned : Live guarded room → deviceInfo.address.weakEqual address = true) :
    Evolves server guarded allowed steady room (room.addParticipantDevice server sessions address deviceInfo) := by
  unfold addParticipantDevice
  split
  · exact .refl
  next participant invited =>
    obtain ⟨member, equal⟩ := findInvitedParticipant_mem invited
    split
    next => exact (Relation.ReflTransGen.single .groupchat).trans (updateProtocolVersion_evolves _)
    next missing =>
      split
      next found =>
        have lists := fun live : Live guarded room => findParticipant_lists sound.formed (sound.placed live) found
        have added : Evolves server guarded allowed steady room
            (room.updateParticipant participant.address fun participant =>
              { participant with
                devices := participant.devices ++
                  [{ address := deviceInfo.address.getUri, groupchat := deviceInfo.groupchat }] }) :=
          addDevice_evolves lawful joins sound member missing rfl rfl fun live =>
            ⟨lists live, Address.weakEqual_trans (owned live) equal⟩
        have updated := added.trans (updateProtocolVersion_evolves deviceInfo.groupchat)
        simp only []
        refine updated.trans (setParticipantDeviceState_evolves lawful (Evolves.sound updated sound) (fun live => .inr ?_) ?_ ?_)
        · refine Lists.outlined ?_ updateProtocolVersion_outline
          exact (lists (Evolves.live updated live)).updateParticipant fun _ => rfl
        · split
          · exact leaves
          · exact scheduled
        · intro same
          split at same <;> cases same
      next => exact .refl

theorem removeParticipantDevice_evolves {pointer : ChatDevicePointer} (lawful : guarded → server.sip.Lawful)
    (leaves : allowed .left) (sound : Sound guarded room) :
    Evolves server guarded allowed steady room (room.removeParticipantDevice server sessions pointer) := by
  have left : Evolves server guarded allowed steady room (room.setParticipantDeviceState server sessions pointer .left) :=
    setParticipantDeviceState_evolves lawful sound (fun _ => .inl rfl) leaves fun same => by cases same
  exact left.tail .removeDevices

theorem addParticipantDevices_evolves {address : Address} {devices : List ParticipantDeviceIdentity}
    (lawful : guarded → server.sip.Lawful) (joins : allowed .joining) (scheduled : allowed .scheduledForJoining)
    (leaves : allowed .left) (sound : Sound guarded room)
    (owned : Live guarded room → ∀ device ∈ devices, device.address.weakEqual address = true) :
    Evolves server guarded allowed steady room (room.addParticipantDevices server sessions address devices) := by
  refine (Evolves.foldl (fun after => Live guarded after → Live guarded room) ?_ sound id).1
  intro device inside after valid live
  have evolves : Evolves server guarded allowed steady after (after.addParticipantDevice server sessions address device) :=
    addParticipantDevice_evolves lawful joins scheduled leaves valid fun still => owned (live still) device inside
  exact ⟨evolves, fun still => live (evolves.live still)⟩

theorem removeParticipantDevices_evolves {devices : List ChatDevicePointer} (lawful : guarded → server.sip.Lawful)
    (leaves : allowed .left) (sound : Sound guarded room) :
    Evolves server guarded allowed steady room (room.removeParticipantDevices server sessions devices) := by
  refine (Evolves.foldl (fun _ => True) ?_ sound trivial).1
  intro pointer _ after valid _
  refine ⟨?_, trivial⟩
  split
  · exact removeParticipantDevice_evolves lawful leaves valid
  · exact .refl

theorem replaceParticipantDevices_evolves {participant : ChatParticipant} {devices : List ParticipantDeviceIdentity}
    (lawful : guarded → server.sip.Lawful) (joins : allowed .joining) (scheduled : allowed .scheduledForJoining)
    (leaves : allowed .left) (sound : Sound guarded room)
    (owned : Live guarded room → ∀ device ∈ devices, device.address.weakEqual participant.address = true) :
    Evolves server guarded allowed steady room (room.replaceParticipantDevices server sessions participant devices) := by
  have added : Evolves server guarded allowed steady room (room.addParticipantDevices server sessions participant.address devices) :=
    addParticipantDevices_evolves lawful joins scheduled leaves sound owned
  have removed : Evolves server guarded allowed steady room
      ((room.addParticipantDevices server sessions participant.address devices).removeParticipantDevices server sessions
        (unregistered server participant devices)) :=
    added.trans (removeParticipantDevices_evolves lawful leaves (added.sound sound))
  unfold replaceParticipantDevices
  simp only []
  split
  · exact removed.trans (determineProtocolVersion_evolves (removed.sound sound))
  · exact removed

/-- The devices of a registration are those of its participant. One without devices is of a participant
that is not in the room. -/
structure OwnDevices (server : ChatServer) (room : ServerChatRoom) (address : Address) (devices : List ParticipantDeviceIdentity) :
    Prop where
  owned : ∀ device ∈ devices, device.address.weakEqual address = true
  absent : devices = [] → room.newParticipantReginfo server address = true → room.findParticipant address = none

theorem unSubscribe_gone {address : Address}
    (gone : ∀ invitee ∈ room.invitedParticipants, address.weakEqual invitee.address = true → invitee.address ∉ room.participants) :
    ∀ invitee ∈ (room.unSubscribeRegistrationForParticipant server address).invitedParticipants,
      address.weakEqual invitee.address = true →
        invitee.address ∉ (room.unSubscribeRegistrationForParticipant server address).participants := by
  unfold unSubscribeRegistrationForParticipant
  split
  · exact fun invitee member => gone invitee (List.mem_of_mem_eraseP member)
  · exact gone

theorem updateParticipantDevices_evolves {address : Address} {devices : List ParticipantDeviceIdentity}
    (lawful : guarded → server.sip.Lawful) (joins : allowed .joining) (scheduled : allowed .scheduledForJoining)
    (leaves : allowed .left) (sound : Sound guarded room) (own : Live guarded room → OwnDevices server room address devices) :
    Evolves server guarded allowed steady room (room.updateParticipantDevices server sessions address devices) := by
  unfold updateParticipantDevices
  split
  · exact .refl
  · simp only []
    have known : Evolves server guarded allowed steady room (room.reginfoReceived server address) :=
      .single (.others rfl rfl rfl rfl rfl id)
    split
    next alone =>
      rw [Bool.and_eq_true, List.isEmpty_iff] at alone
      have gone := fun live : Live guarded room =>
        findParticipant_none sound.formed (sound.placed live) ((own live).absent alone.2 alone.1)
      have left := known.trans (unSubscribeRegistrationForParticipant_evolves gone)
      exact left.tail (.forget fun live => unSubscribe_gone (gone (Evolves.live left live)))
    next =>
      have listed : Evolves server guarded allowed steady room
          (if room.newParticipantReginfo server address = true then
            (room.reginfoReceived server address).addParticipantToList address
          else room.reginfoReceived server address) := by
        split
        · exact known.trans addParticipantToList_evolves
        · exact known
      generalize (if room.newParticipantReginfo server address = true then
          (room.reginfoReceived server address).addParticipantToList address
        else room.reginfoReceived server address) = after at listed ⊢
      split
      next => exact listed
      next participant found =>
        refine listed.trans (replaceParticipantDevices_evolves lawful joins scheduled leaves (listed.sound sound) ?_)
        intro live device inside
        exact Address.weakEqual_trans ((own (listed.live live)).owned device inside) (findInvitedParticipant_mem found).2

theorem setParticipantDevices_evolves {address : Address} {devices : List ParticipantDeviceIdentity}
    (lawful : guarded → server.sip.Lawful) (joins : allowed .joining) (scheduled : allowed .scheduledForJoining)
    (leaving : allowed .leaving) (leaves : allowed .left) (sound : Sound guarded room)
    (own : Live guarded room → OwnDevices server room address devices) :
    Evolves server guarded allowed steady room (room.setParticipantDevices server sessions address devices) := by
  have updated : Evolves server guarded allowed steady room (room.updateParticipantDevices server sessions address devices) :=
    updateParticipantDevices_evolves lawful joins scheduled leaves sound own
  exact updated.trans (updateParticipantsSessions_evolves lawful joins leaving (updated.sound sound))

theorem notifyParticipantDeviceRegistration_evolves {address : Address} (lawful : guarded → server.sip.Lawful)
    (joins : allowed .joining) (leaving : allowed .leaving) (sound : Sound guarded room) :
    Evolves server guarded allowed steady room (room.notifyParticipantDeviceRegistration server sessions address) := by
  unfold notifyParticipantDeviceRegistration
  split
  · exact .refl
  · split
    · exact .refl
    · exact updateParticipantDeviceSession_evolves lawful joins leaving sound

end Registrations

section Sessions

variable {server : ChatServer} {sessions : Address → Option CallSessionState} {guarded steady : Prop}
  {allowed : ParticipantDeviceState → Prop} {room : ServerChatRoom}

theorem outline_state {after : ServerChatRoom} (same : after.outline = room.outline) : after.state = room.state :=
  congrArg (fun outline => outline.2.2) same

@[simp] theorem chooseAnotherAdmin_state : room.chooseAnotherAdminIfNoneInConference.state = room.state := by
  unfold chooseAnotherAdminIfNoneInConference
  split
  · split <;> rfl
  · rfl

@[simp] theorem unSubscribeRegistrationForParticipant_state {address : Address} :
    (room.unSubscribeRegistrationForParticipant server address).state = room.state := by
  unfold unSubscribeRegistrationForParticipant
  split <;> rfl

@[simp] theorem removeParticipant_state {participant : ChatParticipant} :
    (room.removeParticipant server sessions participant).state = room.state := by
  have demoted : (if participant.isAdmin then room.setParticipantAdminStatus participant.address false else room).state =
      room.state := by
    split <;> rfl
  have called : ((if participant.isAdmin then room.setParticipantAdminStatus participant.address false else room).callOuts server
      sessions participant).state = room.state := (outline_state callOuts_outline).trans demoted
  unfold removeParticipant takeOut
  simp only []
  rw [chooseAnotherAdmin_state]
  split
  · rw [unSubscribeRegistrationForParticipant_state]
    exact called
  · exact called

theorem moveDeviceToPresent_evolves {pointer : ChatDevicePointer} (lawful : guarded → server.sip.Lawful)
    (joins : allowed .joining) (present : allowed .present) (sound : Sound guarded room) :
    Evolves server guarded allowed steady room (room.moveDeviceToPresent server sessions pointer) := by
  unfold moveDeviceToPresent
  split
  · exact .refl
  next device found =>
    split
    · exact .refl
    next stays =>
      exact setParticipantDeviceState_evolves lawful sound
        (fun live => .inr ((sound.placed live).pointed sound.formed found (Bool.eq_false_iff.mpr stays))) present fun _ => joins

theorem moveRecentDeviceToPresent_evolves {pointer : ChatDevicePointer} (lawful : guarded → server.sip.Lawful)
    (joins : allowed .joining) (present : allowed .present) (sound : Sound guarded room) :
    Evolves server guarded allowed steady room (room.moveRecentDeviceToPresent server sessions pointer) := by
  unfold moveRecentDeviceToPresent
  split
  · exact moveDeviceToPresent_evolves lawful joins present sound
  · exact .refl

theorem getOtherParticipant_mem {address : Address} {other : ChatParticipant}
    (found : room.getOtherParticipant address = some other) : other ∈ room.invitedParticipants :=
  getParticipants_invited (List.mem_filter.mp (List.mem_of_getLast? found)).1

theorem removeOtherParticipant_evolves {pointer : ChatDevicePointer} (lawful : guarded → server.sip.Lawful)
    (leaves : allowed .leaving) (scheduled : allowed .scheduledForLeaving) (sound : Sound guarded room)
    (open' : room.state ≠ .deleted) :
    Evolves server guarded allowed False room (room.removeOtherParticipant server sessions pointer) := by
  unfold removeOtherParticipant
  split
  · exact .refl
  · cases found : room.getOtherParticipant pointer.participant with
    | none => exact .single (.others rfl rfl rfl rfl rfl fun ended => absurd ended open')
    | some other =>
      have removed : Evolves server guarded allowed False room (room.removeParticipant server sessions other) :=
        removeParticipant_evolves lawful leaves scheduled sound (getOtherParticipant_mem found)
      refine removed.tail (.others rfl rfl rfl rfl rfl fun ended => ?_)
      rw [removeParticipant_state] at ended
      exact absurd ended open'

theorem removeLeavingParticipant_evolves {pointer : ChatDevicePointer} (lawful : guarded → server.sip.Lawful)
    (leaves : allowed .leaving) (scheduled : allowed .scheduledForLeaving) (sound : Sound guarded room) :
    Evolves server guarded allowed False room (room.removeLeavingParticipant server sessions pointer) := by
  have left : Evolves server guarded allowed False room (room.setParticipantDeviceState server sessions pointer .leaving) :=
    setParticipantDeviceState_evolves lawful sound (fun _ => .inl rfl) leaves fun same => by cases same
  unfold removeLeavingParticipant
  split
  · exact .refl
  · simp only []
    cases found : (room.setParticipantDeviceState server sessions pointer .leaving).findInvitedParticipant pointer.participant with
    | none => exact left
    | some participant =>
      exact left.trans (removeParticipant_evolves lawful leaves scheduled (left.sound sound) (findInvitedParticipant_mem found).1)

theorem onBye_evolves {pointer : ChatDevicePointer} (lawful : guarded → server.sip.Lawful) (leaves : allowed .leaving)
    (scheduled : allowed .scheduledForLeaving) (left : allowed .left) (sound : Sound guarded room)
    (open' : room.state ≠ .deleted) :
    Evolves server guarded allowed False room (room.onBye server sessions pointer) := by
  have first : Evolves server guarded allowed False room (room.removeOtherParticipant server sessions pointer) :=
    removeOtherParticipant_evolves lawful leaves scheduled sound open'
  have second : Evolves server guarded allowed False room
      ((room.removeOtherParticipant server sessions pointer).removeLeavingParticipant server sessions pointer) :=
    first.trans (removeLeavingParticipant_evolves lawful leaves scheduled (first.sound sound))
  exact second.trans (setParticipantDeviceState_evolves lawful (second.sound sound) (fun _ => .inl rfl) left fun same => by cases same)

theorem sessionConnected_evolves {pointer : ChatDevicePointer} {isOutgoing : Bool} (lawful : guarded → server.sip.Lawful)
    (joins : allowed .joining) (leaves : allowed .leaving) (present : allowed .present) (sound : Sound guarded room) :
    Evolves server guarded allowed steady room (room.sessionConnected server sessions pointer isOutgoing) := by
  unfold sessionConnected
  split
  · exact .refl
  · exact byeDevice_evolves lawful leaves sound
  · split
    · exact moveRecentDeviceToPresent_evolves lawful joins present sound
    · exact .refl

theorem sessionFailed_evolves {pointer : ChatDevicePointer} {protocolCode : Int} {isInitiator : Bool}
    (lawful : guarded → server.sip.Lawful) (joins : allowed .joining) (scheduled : allowed .scheduledForJoining)
    (sound : Sound guarded room) :
    Evolves server guarded allowed steady room (room.sessionFailed server sessions pointer protocolCode isInitiator) := by
  have called : ∀ state, state.isLeavingState = false → (room.getDevice pointer).map ChatDevice.state = some state →
      Evolves server guarded allowed steady room
        (if (protocolCode = 408 && isInitiator) = true then
          (room.setParticipantDeviceState server sessions pointer .scheduledForJoining).inviteDevice server sessions pointer.device
        else room.setParticipantDeviceState server sessions pointer .scheduledForJoining) := by
    intro state stays known
    obtain ⟨device, found, rfl⟩ := Option.map_eq_some_iff.mp known
    have set : Evolves server guarded allowed steady room
        (room.setParticipantDeviceState server sessions pointer .scheduledForJoining) :=
      setParticipantDeviceState_evolves lawful sound
        (fun live => .inr ((sound.placed live).pointed sound.formed found stays)) scheduled fun same => by cases same
    split
    · refine set.trans (inviteDevice_evolves lawful joins (set.sound sound) fun live => ?_)
      exact ((sound.placed (set.live live)).calls found stays).outlined (setParticipantDeviceState_outline (by decide))
    · exact set
  unfold sessionFailed
  split
  next known => exact called _ rfl known
  next known => exact called _ rfl known
  next => exact .refl

theorem sessionReleased_evolves {pointer : ChatDevicePointer} {afterEnd : Bool} {reason : ByeReason}
    (lawful : guarded → server.sip.Lawful) (leaves : allowed .leaving) (left : allowed .left) (sound : Sound guarded room) :
    Evolves server guarded allowed steady room (room.sessionReleased server sessions pointer afterEnd reason) := by
  unfold sessionReleased
  split
  · split
    · exact setParticipantDeviceState_evolves lawful sound (fun _ => .inl rfl) left fun same => by cases same
    · exact byeDevice_evolves lawful leaves sound
    · exact .refl
  · exact .refl

theorem onFirstNotifyReceived_evolves {address : Address} (lawful : guarded → server.sip.Lawful)
    (joins : allowed .joining) (present : allowed .present) (sound : Sound guarded room) :
    Evolves server guarded allowed steady room (room.onFirstNotifyReceived server sessions address) := by
  unfold onFirstNotifyReceived
  split
  · exact .refl
  · exact moveDeviceToPresent_evolves lawful joins present sound

theorem sessionEnded_evolves {pointer : ChatDevicePointer} {protocolCode : Option Int} {isInitiator networkReachable : Bool}
    (lawful : guarded → server.sip.Lawful) (calm : ∀ state, state ≠ .present → allowed state) (sound : Sound guarded room)
    (open' : room.state ≠ .deleted) :
    Evolves server guarded allowed False room
      (room.sessionEnded server sessions pointer protocolCode isInitiator networkReachable) := by
  unfold sessionEnded
  split
  · exact sessionFailed_evolves lawful (calm _ (by decide)) (calm _ (by decide)) sound
  · split
    · exact onBye_evolves lawful (calm _ (by decide)) (calm _ (by decide)) (calm _ (by decide)) sound open'
    · exact .refl

theorem subscribeReceived_evolves {fromAddress contact : Address} (lawful : guarded → server.sip.Lawful)
    (joins : allowed .joining) (sound : Sound guarded room) :
    Evolves server guarded allowed steady room (room.subscribeReceived server sessions fromAddress contact) := by
  unfold subscribeReceived
  split
  · exact .refl
  next participant found =>
    split
    · exact .refl
    next device known =>
      split
      · refine inviteDevice_evolves lawful joins sound fun live => ?_
        obtain ⟨listed, -⟩ := findParticipant_mem found
        obtain ⟨invited, on⟩ := (sound.formed.mem_getParticipants (sound.placed live).listed).mp listed
        exact calls_iff.mpr ⟨participant, invited, on, device, List.mem_of_find?_eq_some known, rfl⟩
      · exact .refl

/-- An INVITE is of a device of a participant, or of a known device of a group. -/
structure OwnContact (server : ChatServer) (room : ServerChatRoom) (fromAddress contact : Address) : Prop where
  owned : contact.weakEqual fromAddress = true
  admitted : (room.findParticipant fromAddress).isSome = true ∨ room.isGroup = true ∧
    ∀ participant, room.findInvitedParticipant fromAddress = some participant → findDevice server participant contact ≠ none

theorem addJoiningDevice_evolves {participant : ChatParticipant} {fromAddress contact : Address}
    (lawful : guarded → server.sip.Lawful) (joins : allowed .joining) (sound : Sound guarded room)
    (invited : room.findInvitedParticipant fromAddress = some participant)
    (own : Live guarded room → OwnContact server room fromAddress contact) :
    Evolves server guarded allowed steady room (room.addJoiningDevice server participant contact) := by
  obtain ⟨member, equal⟩ := findInvitedParticipant_mem invited
  unfold addJoiningDevice
  split
  · exact .refl
  next missing =>
    rw [Bool.not_eq_true, Option.isSome_eq_false_iff, Option.isNone_iff_eq_none] at missing
    refine addDevice_evolves lawful joins sound member missing rfl rfl fun live => ?_
    refine ⟨?_, Address.weakEqual_trans (own live).owned equal⟩
    rcases (own live).admitted with listed | ⟨-, known⟩
    · intro invitee there alike
      exact findParticipant_lists sound.formed (sound.placed live) listed invitee there (Address.weakEqual_trans equal alike)
    · exact absurd missing (known participant invited)

theorem addJoiningDevice_lists {participant : ChatParticipant} {fromAddress contact : Address} (sound : Sound guarded room)
    (live : Live guarded room) (invited : room.findInvitedParticipant fromAddress = some participant)
    (own : OwnContact server room fromAddress contact) (pair : (room.addJoiningDevice server participant contact).isGroup = false) :
    (room.addJoiningDevice server participant contact).Lists participant.address := by
  obtain ⟨-, equal⟩ := findInvitedParticipant_mem invited
  have lists : room.isGroup = false → room.Lists participant.address := by
    intro pair invitee there alike
    rcases own.admitted with listed | ⟨group, -⟩
    · exact findParticipant_lists sound.formed (sound.placed live) listed invitee there (Address.weakEqual_trans equal alike)
    · rw [group] at pair
      cases pair
  have kind : (room.addJoiningDevice server participant contact).isGroup = room.isGroup := by
    unfold addJoiningDevice
    split <;> rfl
  rw [kind] at pair
  unfold addJoiningDevice
  split
  · exact lists pair
  · exact (lists pair).updateParticipant fun _ => rfl

theorem resumeJoiningDevice_evolves {pointer : ChatDevicePointer} (lawful : guarded → server.sip.Lawful)
    (joins : allowed .joining) (sound : Sound guarded room)
    (lists : Live guarded room → room.isGroup = false → room.Lists pointer.participant) :
    Evolves server guarded allowed steady room (room.resumeJoiningDevice server sessions pointer) := by
  unfold resumeJoiningDevice
  split
  · exact .refl
  next pair =>
    refine Relation.ReflTransGen.tail ?_ (.admin fun _ => rfl)
    split
    · exact setParticipantDeviceState_evolves lawful sound (fun live => .inr (lists live (Bool.eq_false_iff.mpr pair))) joins
        fun same => by cases same
    · exact .refl

theorem confirmJoining_evolves {fromAddress contact : Address} {hasResourceLists isCalled : Bool}
    (lawful : guarded → server.sip.Lawful) (joins : allowed .joining) (sound : Sound guarded room)
    (own : Live guarded room → OwnContact server room fromAddress contact) :
    Evolves server guarded allowed steady room
      (room.confirmJoining server sessions fromAddress contact hasResourceLists isCalled) := by
  have declined : ∀ (after : ServerChatRoom) (address : Address),
      Evolves server guarded allowed steady after (after.output (.decline address)) :=
    fun after address => output_evolves (fun _ _ same => by cases same) fun _ same => by cases same
  unfold confirmJoining
  split
  · exact declined _ _
  next participant invited =>
    split
    · exact declined _ _
    · simp only []
      have added : Evolves server guarded allowed steady room (room.addJoiningDevice server participant contact) :=
        addJoiningDevice_evolves lawful joins sound invited own
      have resumed : Evolves server guarded allowed steady room
          ((room.addJoiningDevice server participant contact).resumeJoiningDevice server sessions
            (joiningDevice server participant contact)) := by
        exact added.trans (resumeJoiningDevice_evolves lawful joins (added.sound sound) fun live pair =>
          addJoiningDevice_lists sound (added.live live) invited (own (added.live live)) pair)
      split
      · exact resumed.trans (declined _ _)
      · exact resumed.trans (output_evolves (fun _ _ same => by cases same) fun _ same => by cases same)

end Sessions

section Calls

variable {server : ChatServer} {sessions : Address → Option CallSessionState} {guarded steady : Prop}
  {allowed : ParticipantDeviceState → Prop} {room : ServerChatRoom}

/-- The calls that may make a device present. -/
def Reaches : ChatRoomCall → Prop
  | .sessionConnected _ _ | .onAckReceived _ | .onFirstNotifyReceived _ => True
  | _ => False

/-- The calls that may take a participant off the list, or its status from it. -/
def Demotes : ChatRoomCall → Prop
  | .removeParticipant _ | .sessionEnded _ _ _ _ => True
  | .setParticipantAdminStatus _ isAdmin => isAdmin = false
  | _ => False

/-- What a call of others has to respect. -/
def Regular (server : ChatServer) (room : ServerChatRoom) : ChatRoomCall → Prop
  | .setParticipantDevices address devices => OwnDevices server room address devices
  | .confirmJoining fromAddress contact _ _ => OwnContact server room fromAddress contact
  | _ => True

/-- Every call but a message is a chain of changes. -/
theorem perform_evolves {call : ChatRoomCall} (lawful : guarded → server.sip.Lawful)
    (calm : ∀ state, state ≠ .present → allowed state) (present : Reaches call → allowed .present)
    (firm : steady → ¬Demotes call) (other : ∀ message, call ≠ .message message) (sound : Sound guarded room)
    (open' : room.state ≠ .deleted) (regular : guarded → Regular server room call) :
    Evolves server guarded allowed steady room (room.perform server sessions call) := by
  have joins : allowed .joining := calm _ (by decide)
  have leaves : allowed .leaving := calm _ (by decide)
  have scheduled : allowed .scheduledForJoining := calm _ (by decide)
  cases call with
  | message message => exact absurd rfl (other message)
  | addParticipant address => exact addParticipant_evolves lawful joins leaves scheduled sound
  | removeParticipant address =>
    obtain rfl : steady = False := eq_false fun yes => firm yes trivial
    change Evolves _ _ _ _ room ((room.findParticipant address).elim room (room.removeParticipant server sessions))
    cases found : room.findParticipant address with
    | none => exact .refl
    | some participant =>
      exact removeParticipant_evolves lawful leaves (calm _ (by decide)) sound
        (getParticipants_invited (findParticipant_mem found).1)
  | setParticipantAdminStatus address isAdmin =>
    change Evolves _ _ _ _ room ((room.findParticipant address).elim room fun participant =>
      room.setParticipantAdminStatus participant.address isAdmin)
    cases room.findParticipant address with
    | none => exact .refl
    | some participant => exact .single (.admin fun yes => Bool.of_not_eq_false (firm yes))
  | setParticipantDevices address devices =>
    exact setParticipantDevices_evolves lawful joins scheduled leaves (calm _ (by decide)) sound fun live => regular live.1
  | notifyParticipantDeviceRegistration device => exact notifyParticipantDeviceRegistration_evolves lawful joins leaves sound
  | confirmJoining fromAddress contact hasResourceLists isCalled =>
    exact confirmJoining_evolves lawful joins sound fun live => regular live.1
  | sessionConnected pointer isOutgoing => exact sessionConnected_evolves lawful joins leaves (present trivial) sound
  | sessionEnded pointer protocolCode isInitiator networkReachable =>
    obtain rfl : steady = False := eq_false fun yes => firm yes trivial
    exact sessionEnded_evolves lawful calm sound open'
  | sessionReleased pointer afterEnd reason => exact sessionReleased_evolves lawful leaves (calm _ (by decide)) sound
  | onAckReceived pointer => exact moveRecentDeviceToPresent_evolves lawful joins (present trivial) sound
  | onFirstNotifyReceived device => exact onFirstNotifyReceived_evolves lawful joins (present trivial) sound
  | subscribeReceived fromAddress contact => exact subscribeReceived_evolves lawful joins sound

theorem queueMessage_frame {message : ServerMessage} :
    room.queueMessage server message = { room with queuedMessages := (room.queueMessage server message).queuedMessages } := by
  unfold queueMessage
  refine List.foldlRecOn
    (motive := fun after : ServerChatRoom => after = { room with queuedMessages := after.queuedMessages }) _ _ rfl ?_
  intro after same pointer _
  split
  · exact same
  · rw [same]
    rfl

end Calls

end Liblinphone.ServerChatRoom
