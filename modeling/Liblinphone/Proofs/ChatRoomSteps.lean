import Liblinphone.Proofs.ChatRoomChanges

/-! Every call of a room is a chain of changes. A call of a device finds it when it is one of a
participant, which a device that stays in the room always is. -/

namespace Liblinphone.ServerChatRoom

open Library

section Outline

variable (server : ChatServer) (sessions : Address → Option CallSessionState) (room : ServerChatRoom)

/-- Who is invited and with which devices, who is listed, and how far the room has come. -/
def outline : List (Address × List Address) × List Address × ServerRoomState :=
  (room.invitedParticipants.map fun participant => (participant.address, participant.devices.map ChatDevice.address),
    room.participants, room.state)

@[simp] theorem output_outline (event : ChatRoomOutput) : (room.output event).outline = room.outline := rfl

@[simp] theorem setQueue_outline (uri : Text) (queue : List ServerMessage) : (room.setQueue uri queue).outline = room.outline := rfl

@[simp] theorem removeQueuedParticipantMessages_outline (participant : Option ChatParticipant) :
    (room.removeQueuedParticipantMessages server participant).outline = room.outline := by
  cases participant <;> rfl

theorem updateParticipant_outline {change : ChatParticipant → ChatParticipant} (address : Address)
    (kept : ∀ participant, (change participant).address = participant.address ∧
      (change participant).devices.map ChatDevice.address = participant.devices.map ChatDevice.address) :
    (room.updateParticipant address change).outline = room.outline := by
  unfold outline updateParticipant
  rw [List.map_map]
  congr 1
  apply List.map_congr_left
  intro participant _
  simp only [Function.comp_apply]
  split
  · rw [(kept participant).1, (kept participant).2]
  · rfl

@[simp] theorem setState_outline (pointer : ChatDevicePointer) (state : ParticipantDeviceState) :
    (room.setState pointer state).outline = room.outline := by
  apply updateParticipant_outline
  intro participant
  refine ⟨rfl, ?_⟩
  rw [List.map_map]
  apply List.map_congr_left
  intro device _
  simp only [Function.comp_apply]
  split <;> rfl

@[simp] theorem setParticipantAdminStatus_outline (address : Address) (isAdmin : Bool) :
    (room.setParticipantAdminStatus address isAdmin).outline = room.outline :=
  room.updateParticipant_outline address fun _ => ⟨rfl, rfl⟩

theorem lists_iff {address : Address} :
    room.Lists address ↔ ∀ entry ∈ room.outline.1, address.weakEqual entry.1 = true → entry.1 ∈ room.outline.2.1 := by
  simp only [Lists, outline, List.forall_mem_map]

/-- An address of a device of a participant. -/
def Calls (address : Address) : Prop := ∃ entry ∈ room.outline.1, entry.1 ∈ room.outline.2.1 ∧ address ∈ entry.2

variable {room}

theorem Lists.outlined {after : ServerChatRoom} {address : Address} (lists : room.Lists address)
    (same : after.outline = room.outline) : after.Lists address := by
  rw [lists_iff, same, ← lists_iff]
  exact lists

theorem Calls.outlined {after : ServerChatRoom} {address : Address} (calls : room.Calls address)
    (same : after.outline = room.outline) : after.Calls address := by
  unfold Calls
  rw [same]
  exact calls

theorem calls_iff {address : Address} : room.Calls address ↔
    ∃ invitee ∈ room.invitedParticipants, invitee.address ∈ room.participants ∧ ∃ device ∈ invitee.devices, device.address = address := by
  constructor
  · rintro ⟨entry, member, on, inside⟩
    obtain ⟨invitee, there, rfl⟩ := List.mem_map.mp member
    exact ⟨invitee, there, on, List.mem_map.mp inside⟩
  · rintro ⟨invitee, there, on, inside⟩
    exact ⟨_, List.mem_map_of_mem there, on, List.mem_map.mpr inside⟩

theorem getDevice_mem {pointer : ChatDevicePointer} {device : ChatDevice} (found : room.getDevice pointer = some device) :
    ∃ invitee ∈ room.invitedParticipants, pointer.participant.weakEqual invitee.address = true ∧ device ∈ invitee.devices ∧
      device.address = pointer.device := by
  obtain ⟨invitee, invited, there⟩ := Option.bind_eq_some_iff.mp found
  obtain ⟨member, equal⟩ := findInvitedParticipant_mem invited
  exact ⟨invitee, member, equal, List.mem_of_find?_eq_some there,
    of_decide_eq_true (List.find?_some (p := fun device : ChatDevice => decide (device.address = pointer.device)) there)⟩

/-- A device that stays is one of a participant. -/
theorem Placed.staying {invitee : ChatParticipant} {device : ChatDevice} (placed : Placed room)
    (member : invitee ∈ room.invitedParticipants) (inside : device ∈ invitee.devices)
    (stays : device.state.isLeavingState = false) : invitee.address ∈ room.participants := by
  by_contra missing
  rw [placed.away invitee member missing device inside] at stays
  cases stays

theorem Placed.calls {pointer : ChatDevicePointer} {device : ChatDevice} (placed : Placed room)
    (found : room.getDevice pointer = some device) (stays : device.state.isLeavingState = false) : room.Calls pointer.device := by
  obtain ⟨invitee, member, -, inside, same⟩ := getDevice_mem found
  exact calls_iff.mpr ⟨invitee, member, placed.staying member inside stays, device, inside, same⟩

theorem Placed.pointed {pointer : ChatDevicePointer} {device : ChatDevice} (formed : Formed room) (placed : Placed room)
    (found : room.getDevice pointer = some device) (stays : device.state.isLeavingState = false) :
    room.Lists pointer.participant := by
  obtain ⟨invitee, member, equal, inside, -⟩ := getDevice_mem found
  intro other there alike
  rw [← formed.same member there (Address.weakEqual_trans (Address.weakEqual_symm equal) alike)]
  exact placed.staying member inside stays

theorem devicePointers_calls {pointer : ChatDevicePointer} (member : pointer ∈ room.devicePointers) (formed : Formed room)
    (placed : Placed room) : room.Calls pointer.device := by
  obtain ⟨participant, listed, inside⟩ := List.mem_flatMap.mp member
  obtain ⟨device, there, rfl⟩ := List.mem_map.mp inside
  obtain ⟨invited, on⟩ := (formed.mem_getParticipants placed.listed).mp listed
  exact calls_iff.mpr ⟨participant, invited, on, device, there, rfl⟩

/-- The participant of a device has its address, and so the room finds it there. -/
theorem Placed.callable {server : ChatServer} {address : Address} (lawful : server.sip.Lawful) (formed : Formed room)
    (placed : Placed room) (calls : room.Calls address) : room.findParticipantDevice server address ≠ none := by
  obtain ⟨invitee, member, on, device, inside, rfl⟩ := calls_iff.mp calls
  intro missing
  have skipped := List.findSome?_eq_none_iff.mp missing invitee ((formed.mem_getParticipants placed.listed).mpr ⟨member, on⟩)
  rw [if_pos (placed.owned invitee member device inside), Option.map_eq_none_iff] at skipped
  exact List.find?_eq_none.mp skipped device inside (lawful.refl device.address)

theorem findParticipantDevice_lists {server : ChatServer} {address : Address} {pointer : ChatDevicePointer}
    (formed : Formed room) (placed : Placed room) (found : room.findParticipantDevice server address = some pointer) :
    room.Lists pointer.participant := by
  obtain ⟨participant, listed, there⟩ := List.exists_of_findSome?_eq_some found
  split at there
  next =>
    obtain ⟨device, -, rfl⟩ := Option.map_eq_some_iff.mp there
    exact placed.lists formed ((formed.mem_getParticipants placed.listed).mp listed).2
  next => cases there

end Outline

section Devices

variable {server : ChatServer} {sessions : Address → Option CallSessionState} {guarded steady : Prop}
  {allowed : ParticipantDeviceState → Prop} {room : ServerChatRoom}

theorem output_evolves {event : ChatRoomOutput} (other : ∀ device message, event ≠ .message device message)
    (called : Live guarded room → event ≠ .nullDevice) : Evolves server guarded allowed steady room (room.output event) :=
  .single (.output other called)

theorem inviteDevice_outline (address : Address) : (room.inviteDevice server sessions address).outline = room.outline := by
  unfold inviteDevice
  split
  · rfl
  · simp only []
    split
    · rfl
    · split
      · rfl
      · rw [output_outline, setState_outline]

/-- A call of a device of a participant. -/
theorem inviteDevice_evolves {address : Address} (lawful : guarded → server.sip.Lawful) (joins : allowed .joining)
    (sound : Sound guarded room) (calls : Live guarded room → room.Calls address) :
    Evolves server guarded allowed steady room (room.inviteDevice server sessions address) := by
  unfold inviteDevice
  split
  next missing =>
    refine output_evolves (fun _ _ same => by cases same) fun live => ?_
    exact absurd missing ((sound.placed live).callable (lawful live.1) sound.formed (calls live))
  next pointer found =>
    simp only []
    split
    · exact .refl
    · split
      · exact .refl
      · have joined : Evolves server guarded allowed steady room (room.setState pointer .joining) :=
          .single (.state (fun live => .inr (findParticipantDevice_lists sound.formed (sound.placed live) found)) joins)
        exact joined.trans (output_evolves (fun _ _ same => by cases same) fun _ same => by cases same)

theorem dispatchToDevice_outline (pointer : ChatDevicePointer) :
    (room.dispatchToDevice server sessions pointer).outline = room.outline := by
  unfold dispatchToDevice
  split
  · rfl
  · simp only []
    split
    · rfl
    · split
      · exact inviteDevice_outline _
      · split <;> rfl

theorem dispatchToDevice_evolves {pointer : ChatDevicePointer} (lawful : guarded → server.sip.Lawful) (joins : allowed .joining)
    (sound : Sound guarded room) (calls : Live guarded room → room.Calls pointer.device) :
    Evolves server guarded allowed steady room (room.dispatchToDevice server sessions pointer) := by
  unfold dispatchToDevice
  split
  · exact .refl
  next device found =>
    obtain ⟨-, -, -, -, same⟩ := getDevice_mem found
    simp only []
    split
    · exact .refl
    · split
      · exact inviteDevice_evolves lawful joins sound fun live => same ▸ calls live
      · split
        · exact .single .send
        · exact .refl

theorem dispatchQueuedMessages_outline : (room.dispatchQueuedMessages server sessions).outline = room.outline :=
  List.foldlRecOn (motive := fun after : ServerChatRoom => after.outline = room.outline) _ _ rfl fun _ same pointer _ =>
    (dispatchToDevice_outline pointer).trans same

theorem dispatchQueuedMessages_evolves (lawful : guarded → server.sip.Lawful) (joins : allowed .joining)
    (sound : Sound guarded room) :
    Evolves server guarded allowed steady room (room.dispatchQueuedMessages server sessions) := by
  refine (Evolves.foldl (fun after => after.outline = room.outline ∧ (Live guarded after → Live guarded room)) ?_ sound
    ⟨rfl, id⟩).1
  intro pointer member after valid kept
  have evolves : Evolves server guarded allowed steady after (after.dispatchToDevice server sessions pointer) :=
    dispatchToDevice_evolves lawful joins valid fun live =>
      (devicePointers_calls member sound.formed (sound.placed (kept.2 live))).outlined kept.1
  exact ⟨evolves, (dispatchToDevice_outline pointer).trans kept.1, fun live => kept.2 (evolves.live live)⟩

theorem removeQueuedParticipantMessages_evolves {participant : Option ChatParticipant}
    (bare : ∀ participant' ∈ participant, participant'.address.getUriWithoutGruu = participant'.address) :
    Evolves server guarded allowed steady room (room.removeQueuedParticipantMessages server participant) := by
  cases participant with
  | none => exact .refl
  | some participant => exact .single (.erase (bare participant rfl))

theorem unSubscribeRegistrationForParticipant_evolves {address : Address}
    (gone : Live guarded room → ∀ invitee ∈ room.invitedParticipants, address.weakEqual invitee.address = true →
      invitee.address ∉ room.participants) :
    Evolves server guarded allowed steady room (room.unSubscribeRegistrationForParticipant server address) := by
  unfold unSubscribeRegistrationForParticipant
  split
  next =>
    have dropped : Evolves server guarded allowed steady room
        { room with registrationSubscriptions := room.registrationSubscriptions.erase (server.toText address) } :=
      .single (.others rfl rfl rfl rfl rfl id)
    have forgot := dropped.trans (.single (.forget gone))
    exact forgot.trans (output_evolves (fun _ _ same => by cases same) fun _ same => by cases same)
  next => exact .refl

theorem unSubscribe_state (room : ServerChatRoom) (address : Address) (state : ServerRoomState) :
    { room with state := state }.unSubscribeRegistrationForParticipant server address =
      { room.unSubscribeRegistrationForParticipant server address with state := state } := by
  unfold unSubscribeRegistrationForParticipant
  split <;> rfl

/-- A room may as well be deleted before its participants are forgotten. -/
theorem requestDeletion_eq : room.requestDeletion server = room.getParticipants.foldl
    (fun room participant => room.unSubscribeRegistrationForParticipant server participant.address)
    { room with state := .deleted } := by
  unfold requestDeletion
  generalize room.getParticipants = participants
  induction participants generalizing room with
  | nil => rfl
  | cons participant rest following =>
    rw [List.foldl_cons, List.foldl_cons, unSubscribe_state room participant.address .deleted]
    exact following

theorem requestDeletion_evolves (sound : Sound guarded room) :
    Evolves server guarded allowed steady room (room.requestDeletion server) := by
  rw [requestDeletion_eq]
  have deleted : Evolves server guarded allowed steady room { room with state := .deleted } :=
    .single (.others rfl rfl rfl rfl rfl fun _ => rfl)
  refine deleted.trans (Evolves.foldl (fun after => after.state = .deleted) ?_ (deleted.sound sound) rfl).1
  intro participant _ after valid ended
  have evolves : Evolves server guarded allowed steady after
      (after.unSubscribeRegistrationForParticipant server participant.address) :=
    unSubscribeRegistrationForParticipant_evolves fun live => absurd ended live.2
  exact ⟨evolves, evolves.deleted ended⟩

theorem findParticipant_none {address : Address} (formed : Formed room) (placed : Placed room)
    (missing : room.findParticipant address = none) :
    ∀ invitee ∈ room.invitedParticipants, address.weakEqual invitee.address = true → invitee.address ∉ room.participants := by
  intro invitee member equal on
  exact List.find?_eq_none.mp missing invitee ((formed.mem_getParticipants placed.listed).mpr ⟨member, on⟩)
    (Address.weakEqual_symm equal)

theorem findParticipant_lists {address : Address} (formed : Formed room) (placed : Placed room)
    (found : (room.findParticipant address).isSome = true) : room.Lists address := by
  obtain ⟨participant, same⟩ := Option.isSome_iff_exists.mp found
  obtain ⟨listed, equal⟩ := findParticipant_mem same
  obtain ⟨invited, on⟩ := (formed.mem_getParticipants placed.listed).mp listed
  intro invitee member alike
  rw [← formed.same invited member (Address.weakEqual_trans equal alike)]
  exact on

theorem findParticipant_bare {address : Address} (formed : Formed room) :
    ∀ participant ∈ room.findParticipant address, participant.address.getUriWithoutGruu = participant.address :=
  fun participant found => formed.bare participant (getParticipants_invited (findParticipant_mem found).1)

theorem onParticipantDeviceLeft_evolves {pointer : ChatDevicePointer} (sound : Sound guarded room) :
    Evolves server guarded allowed steady room (room.onParticipantDeviceLeft server pointer) := by
  unfold onParticipantDeviceLeft
  simp only []
  have forgot : Evolves server guarded allowed steady room
      (if (!room.keepsParticipants && (room.findInvitedParticipant pointer.participant).any allDevicesLeft
          && (room.findParticipant pointer.participant).isNone) = true then
        room.unSubscribeRegistrationForParticipant server pointer.participant else room) := by
    split
    next gone =>
      rw [Bool.and_eq_true, Option.isNone_iff_eq_none] at gone
      exact unSubscribeRegistrationForParticipant_evolves fun live =>
        findParticipant_none sound.formed (sound.placed live) gone.2
    next => exact .refl
  have deleted : ∀ after, Sound guarded after → Evolves server guarded allowed steady after
      (if (server.emptyChatroomsDeletionEnabled && after.invitedParticipants.all allDevicesLeft) = true then
        after.requestDeletion server else after) := by
    intro after valid
    split
    · exact requestDeletion_evolves valid
    · exact .refl
  exact forgot.trans (deleted _ (forgot.sound sound))

/-- A device that becomes present gets the messages that wait, and one that leaves may be the last. -/
theorem setParticipantDeviceState_evolves {pointer : ChatDevicePointer} {state : ParticipantDeviceState}
    (lawful : guarded → server.sip.Lawful) (sound : Sound guarded room)
    (there : Live guarded room → state.isLeavingState = true ∨ room.Lists pointer.participant) (calm : allowed state)
    (joins : state = .present → allowed .joining) :
    Evolves server guarded allowed steady room (room.setParticipantDeviceState server sessions pointer state) := by
  have set : Evolves server guarded allowed steady room (room.setState pointer state) := .single (.state there calm)
  have valid := set.sound sound
  have erased : Evolves server guarded allowed steady room ((room.setState pointer state).removeQueuedParticipantMessages server
      ((room.setState pointer state).findParticipant pointer.device)) :=
    set.trans (removeQueuedParticipantMessages_evolves (findParticipant_bare valid.formed))
  unfold setParticipantDeviceState
  cases state with
  | scheduledForLeaving => exact erased
  | leaving => exact erased
  | left => exact erased.trans (onParticipantDeviceLeft_evolves (erased.sound sound))
  | present => exact set.trans (dispatchQueuedMessages_evolves lawful (joins rfl) valid)
  | _ => exact set

theorem setParticipantDeviceState_outline {pointer : ChatDevicePointer} {state : ParticipantDeviceState} (stays : state ≠ .left) :
    (room.setParticipantDeviceState server sessions pointer state).outline = room.outline := by
  unfold setParticipantDeviceState
  cases state with
  | left => exact absurd rfl stays
  | present => exact dispatchQueuedMessages_outline.trans (setState_outline _ _ _)
  | scheduledForLeaving => exact (removeQueuedParticipantMessages_outline _ _ _).trans (setState_outline _ _ _)
  | leaving => exact (removeQueuedParticipantMessages_outline _ _ _).trans (setState_outline _ _ _)
  | _ => exact setState_outline _ _ _

theorem byeDevice_outline {pointer : ChatDevicePointer} : (room.byeDevice server sessions pointer).outline = room.outline := by
  have left : (room.setParticipantDeviceState server sessions pointer .leaving).outline = room.outline :=
    setParticipantDeviceState_outline (by decide)
  unfold byeDevice
  simp only []
  split <;> exact left

theorem byeDevice_evolves {pointer : ChatDevicePointer} (lawful : guarded → server.sip.Lawful) (leaves : allowed .leaving)
    (sound : Sound guarded room) :
    Evolves server guarded allowed steady room (room.byeDevice server sessions pointer) := by
  have left : Evolves server guarded allowed steady room (room.setParticipantDeviceState server sessions pointer .leaving) :=
    setParticipantDeviceState_evolves lawful sound (fun _ => .inl rfl) leaves fun same => by cases same
  unfold byeDevice
  simp only []
  split <;> first
    | exact left
    | exact left.trans (output_evolves (fun _ _ same => by cases same) fun _ same => by cases same)

theorem updateParticipantDeviceSession_outline {pointer : ChatDevicePointer} {freshlyRegistered : Bool} :
    (room.updateParticipantDeviceSession server sessions pointer freshlyRegistered).outline = room.outline := by
  unfold updateParticipantDeviceSession
  split
  · exact inviteDevice_outline _
  · split
    · exact inviteDevice_outline _
    · rfl
  · exact byeDevice_outline
  · split
    · exact byeDevice_outline
    · rfl
  · rfl

theorem updateParticipantDeviceSession_evolves {pointer : ChatDevicePointer} {freshlyRegistered : Bool}
    (lawful : guarded → server.sip.Lawful) (joins : allowed .joining) (leaves : allowed .leaving) (sound : Sound guarded room) :
    Evolves server guarded allowed steady room
      (room.updateParticipantDeviceSession server sessions pointer freshlyRegistered) := by
  have calls : ∀ state, state.isLeavingState = false → (room.getDevice pointer).map ChatDevice.state = some state →
      Live guarded room → room.Calls pointer.device := by
    intro state stays known live
    obtain ⟨device, found, same⟩ := Option.map_eq_some_iff.mp known
    exact (sound.placed live).calls found (same ▸ stays)
  unfold updateParticipantDeviceSession
  split
  next known => exact inviteDevice_evolves lawful joins sound (calls _ rfl known)
  next known =>
    split
    · exact inviteDevice_evolves lawful joins sound (calls _ rfl known)
    · exact .refl
  · exact byeDevice_evolves lawful leaves sound
  · split
    · exact byeDevice_evolves lawful leaves sound
    · exact .refl
  · exact .refl

theorem updateParticipantsSessions_evolves (lawful : guarded → server.sip.Lawful) (joins : allowed .joining)
    (leaves : allowed .leaving) (sound : Sound guarded room) :
    Evolves server guarded allowed steady room (room.updateParticipantsSessions server sessions) := by
  unfold updateParticipantsSessions
  refine (Evolves.foldl (fun _ => True) ?_ sound trivial).1
  intro pointer _ after valid _
  exact ⟨updateParticipantDeviceSession_evolves lawful joins leaves valid, trivial⟩

end Devices

section Participants

variable {server : ChatServer} {sessions : Address → Option CallSessionState} {guarded steady : Prop}
  {allowed : ParticipantDeviceState → Prop} {room : ServerChatRoom}

theorem addParticipantToList_evolves {address : Address} :
    Evolves server guarded allowed steady room (room.addParticipantToList address) := by
  unfold addParticipantToList
  simp only []
  have listed : ∀ after : ServerChatRoom, Evolves server guarded allowed steady after
      (if (after.findParticipant address).isSome = true then after
        else { after with
          participants := after.participants ++ ((after.findInvitedParticipant address).map ChatParticipant.address).toList }) := by
    intro after
    split
    · exact .refl
    · cases found : after.findInvitedParticipant address with
      | none =>
        refine .single (.others rfl rfl ?_ rfl rfl id)
        simp only [Option.map_none, Option.toList_none, List.append_nil]
      | some participant => exact .single (.list (findInvitedParticipant_mem found).1)
  refine Relation.ReflTransGen.trans ?_ (listed _)
  split
  · exact .refl
  next new => exact .single (.invite new)

theorem addParticipantToList_lists {participant : ChatParticipant} (sound : Sound guarded room)
    (member : participant ∈ room.invitedParticipants) (live : Live guarded room) :
    (room.addParticipantToList participant.address).Lists participant.address := by
  unfold addParticipantToList
  rw [sound.formed.find member (Address.weakEqual_refl _)]
  simp only []
  split
  next found => exact findParticipant_lists sound.formed (sound.placed live) found
  next =>
    intro invitee there equal
    refine List.mem_append_right _ ?_
    rw [sound.formed.same member there equal, sound.formed.find there (Address.weakEqual_refl _)]
    exact List.mem_singleton.mpr rfl

theorem callBack_evolves {pointer : ChatDevicePointer} (lawful : guarded → server.sip.Lawful) (joins : allowed .joining)
    (leaves : allowed .leaving) (scheduled : allowed .scheduledForJoining) (sound : Sound guarded room)
    (lists : Live guarded room → room.Lists pointer.participant) :
    Evolves server guarded allowed steady room (room.callBack server sessions pointer) := by
  have set : Evolves server guarded allowed steady room
      (room.setParticipantDeviceState server sessions pointer .scheduledForJoining) :=
    setParticipantDeviceState_evolves lawful sound (fun live => .inr (lists live)) scheduled fun same => by cases same
  unfold callBack
  split
  case h_4 => exact .refl
  all_goals exact set.trans (updateParticipantDeviceSession_evolves lawful joins leaves (set.sound sound))

theorem callBack_outline {pointer : ChatDevicePointer} : (room.callBack server sessions pointer).outline = room.outline := by
  unfold callBack
  split
  case h_4 => rfl
  all_goals exact updateParticipantDeviceSession_outline.trans (setParticipantDeviceState_outline (by decide))

theorem resumeParticipant_evolves {participant : ChatParticipant} (lawful : guarded → server.sip.Lawful) (joins : allowed .joining)
    (leaves : allowed .leaving) (scheduled : allowed .scheduledForJoining) (sound : Sound guarded room)
    (member : participant ∈ room.invitedParticipants) :
    Evolves server guarded allowed steady room (room.resumeParticipant server sessions participant) := by
  have added : Evolves server guarded allowed steady room (room.addParticipantToList participant.address) :=
    addParticipantToList_evolves
  unfold resumeParticipant
  refine added.trans (Evolves.foldl (fun after => Live guarded after → after.Lists participant.address) ?_ (added.sound sound)
    fun live => addParticipantToList_lists sound member (added.live live)).1
  intro pointer inside after valid lists
  obtain ⟨device, -, rfl⟩ := List.mem_map.mp inside
  have called : Evolves server guarded allowed steady after (after.callBack server sessions ⟨participant.address, device.address⟩) :=
    callBack_evolves lawful joins leaves scheduled valid lists
  exact ⟨called, fun live => (lists (called.live live)).outlined callBack_outline⟩

theorem subscribeRegistrationForParticipant_evolves {address : Address} :
    Evolves server guarded allowed steady room (room.subscribeRegistrationForParticipant server address) := by
  unfold subscribeRegistrationForParticipant
  split
  · exact .refl
  · have added : Evolves server guarded allowed steady room
        { room with
          registrationSubscriptions := room.registrationSubscriptions ++ [server.toText address.getUri]
          registrationSubscriptionParticipants := room.registrationSubscriptionParticipants ++ [address.getUri] } :=
      .single (.others rfl rfl rfl rfl rfl id)
    exact added.trans (output_evolves (fun _ _ same => by cases same) fun _ same => by cases same)

theorem addParticipant_evolves {address : Address} (lawful : guarded → server.sip.Lawful) (joins : allowed .joining)
    (leaves : allowed .leaving) (scheduled : allowed .scheduledForJoining) (sound : Sound guarded room) :
    Evolves server guarded allowed steady room (room.addParticipant server sessions address) := by
  unfold addParticipant
  split
  · exact .refl
  · split
    · exact .refl
    · split
      next participant found =>
        exact resumeParticipant_evolves lawful joins leaves scheduled sound (findInvitedParticipant_mem found).1
      next =>
        split
        · exact .refl
        · exact subscribeRegistrationForParticipant_evolves

theorem chooseAnotherAdmin_evolves : Evolves server guarded allowed steady room room.chooseAnotherAdminIfNoneInConference := by
  unfold chooseAnotherAdminIfNoneInConference
  split
  · split
    · exact .refl
    · exact .single (.admin fun _ => rfl)
  · exact .refl

/-- The devices of the pointer are leaving. -/
abbrev Gone : ServerChatRoom → ChatDevicePointer → Prop := Every fun _ state => state.isLeavingState = true

theorem leaving_stable : Stable Leaving fun _ state => state.isLeavingState = true :=
  ⟨fun _ _ leaving => leaving, fun _ _ _ leaving => leaving⟩

theorem setState_gone {pointer : ChatDevicePointer} {state : ParticipantDeviceState} (leaving : state.isLeavingState = true) :
    Gone (room.setState pointer state) pointer := by
  intro participant member equal device inside same
  obtain ⟨invitee, there, changed⟩ := mem_updateParticipant.mp member
  split at changed
  next =>
    subst changed
    obtain ⟨old, held, rfl⟩ := List.mem_map.mp inside
    by_cases here : old.address = pointer.device
    · rw [if_pos here]
      exact leaving
    · rw [if_neg here] at same
      exact absurd same here
  next apart =>
    subst changed
    exact absurd equal apart

theorem findInvitedParticipant_updateParticipant {change : ChatParticipant → ChatParticipant} (address other : Address)
    (kept : ∀ participant, (change participant).address = participant.address) :
    (room.updateParticipant address change).findInvitedParticipant other = (room.findInvitedParticipant other).map
      fun invitee => if address.weakEqual invitee.address then change invitee else invitee := by
  unfold findInvitedParticipant updateParticipant
  rw [List.find?_map]
  congr 2
  funext invitee
  simp only [Function.comp_apply]
  split
  · rw [kept]
  · rfl

theorem getDevice_updateDevice {change : ChatDevice → ChatDevice} (pointer : ChatDevicePointer)
    (kept : ∀ device, (change device).address = device.address) :
    (room.updateDevice pointer change).getDevice pointer = (room.getDevice pointer).map change := by
  unfold getDevice updateDevice
  rw [findInvitedParticipant_updateParticipant pointer.participant pointer.participant (by exact fun _ => rfl)]
  cases invited : room.findInvitedParticipant pointer.participant with
  | none => rfl
  | some participant =>
    rw [Option.map_some, if_pos (findInvitedParticipant_mem invited).2, Option.bind_some, Option.bind_some, List.find?_map]
    have same : ((fun device : ChatDevice => decide (device.address = pointer.device)) ∘
        fun device => if device.address = pointer.device then change device else device) =
        fun device => decide (device.address = pointer.device) := by
      funext device
      simp only [Function.comp_apply]
      split
      · rw [kept]
      · rfl
    rw [same]
    apply Option.map_congr
    intro device found
    exact if_pos (of_decide_eq_true (List.find?_some (p := fun device : ChatDevice => decide (device.address = pointer.device)) found))

theorem getDevice_setState (pointer : ChatDevicePointer) (state : ParticipantDeviceState) :
    (room.setState pointer state).getDevice pointer = (room.getDevice pointer).map fun device => { device with state := state } :=
  getDevice_updateDevice pointer fun _ => rfl

@[simp] theorem removeQueuedParticipantMessages_getDevice (participant : Option ChatParticipant) (pointer : ChatDevicePointer) :
    (room.removeQueuedParticipantMessages server participant).getDevice pointer = room.getDevice pointer := by
  cases participant <;> rfl

theorem scheduledForLeaving_evolves {pointer : ChatDevicePointer} (scheduled : allowed .scheduledForLeaving) :
    Evolves server guarded allowed steady room (room.setState pointer .scheduledForLeaving) :=
  .single (.state (fun _ => .inl rfl) scheduled)

/-- A device that is to leave is told so at once. -/
theorem leaving_evolves {pointer : ChatDevicePointer} (lawful : guarded → server.sip.Lawful) (leaves : allowed .leaving)
    (scheduled : allowed .scheduledForLeaving) (sound : Sound guarded room) :
    Evolves server guarded allowed steady (room.setState pointer .scheduledForLeaving)
      ((room.setParticipantDeviceState server sessions pointer .scheduledForLeaving).updateParticipantDeviceSession server sessions
        pointer false) := by
  have set : Evolves server guarded allowed steady room (room.setState pointer .scheduledForLeaving) :=
    scheduledForLeaving_evolves scheduled
  have valid := set.sound sound
  have erased : Evolves server guarded allowed steady (room.setState pointer .scheduledForLeaving)
      (room.setParticipantDeviceState server sessions pointer .scheduledForLeaving) :=
    removeQueuedParticipantMessages_evolves (findParticipant_bare valid.formed)
  have known : ((room.setParticipantDeviceState server sessions pointer .scheduledForLeaving).getDevice pointer).map
      ChatDevice.state = (room.getDevice pointer).map fun _ => .scheduledForLeaving := by
    unfold setParticipantDeviceState
    simp only [removeQueuedParticipantMessages_getDevice]
    rw [getDevice_setState, Option.map_map]
    rfl
  refine erased.trans ?_
  unfold updateParticipantDeviceSession
  rw [known]
  cases room.getDevice pointer with
  | none => exact .refl
  | some device => exact byeDevice_evolves lawful leaves (erased.sound valid)

/-- The room finds the one device of a pointer. -/
theorem Placed.getDevice {pointer : ChatDevicePointer} {invitee : ChatParticipant} {device : ChatDevice} (formed : Formed room)
    (placed : Placed room) (member : invitee ∈ room.invitedParticipants)
    (equal : pointer.participant.weakEqual invitee.address = true) (inside : device ∈ invitee.devices)
    (same : device.address = pointer.device) : room.getDevice pointer = some device := by
  unfold ServerChatRoom.getDevice
  rw [formed.find member equal, Option.bind_some]
  cases found : invitee.devices.find? fun other => other.address = pointer.device with
  | none => exact absurd (decide_eq_true same) (List.find?_eq_none.mp found device inside)
  | some other =>
    have also := of_decide_eq_true (List.find?_some (p := fun other : ChatDevice => decide (other.address = pointer.device)) found)
    rw [List.inj_on_of_nodup_map (placed.single invitee member) (List.mem_of_find?_eq_some found) inside (also.trans same.symm)]

theorem Placed.every {pointer : ChatDevicePointer} {holds : (Text → List ServerMessage) → ParticipantDeviceState → Prop}
    (formed : Formed room) (placed : Placed room)
    (known : ∀ device, room.getDevice pointer = some device → holds room.queuedMessages device.state) : Every holds room pointer :=
  fun _ member equal device inside same => known device (placed.getDevice formed member equal inside same)

theorem outline_invited {before after : ServerChatRoom} {invitee : ChatParticipant} (same : after.outline = before.outline)
    (member : invitee ∈ after.invitedParticipants) :
    ∃ old ∈ before.invitedParticipants, old.address = invitee.address ∧
      old.devices.map ChatDevice.address = invitee.devices.map ChatDevice.address := by
  have entry : (invitee.address, invitee.devices.map ChatDevice.address) ∈ before.outline.1 :=
    same ▸ List.mem_map_of_mem (f := fun participant : ChatParticipant =>
      (participant.address, participant.devices.map ChatDevice.address)) member
  obtain ⟨old, there, equal⟩ := List.mem_map.mp entry
  exact ⟨old, there, congrArg Prod.fst equal, congrArg Prod.snd equal⟩

theorem callOut_evolves {pointer : ChatDevicePointer} (lawful : guarded → server.sip.Lawful) (leaves : allowed .leaving)
    (scheduled : allowed .scheduledForLeaving) (sound : Sound guarded room) :
    Evolves server guarded allowed steady room (room.callOut server sessions pointer) := by
  unfold callOut
  split
  case h_3 => exact (scheduledForLeaving_evolves scheduled).trans (leaving_evolves lawful leaves scheduled sound)
  all_goals exact .refl

theorem callOut_outline {pointer : ChatDevicePointer} : (room.callOut server sessions pointer).outline = room.outline := by
  unfold callOut
  split
  case h_3 => exact updateParticipantDeviceSession_outline.trans (setParticipantDeviceState_outline (by decide))
  all_goals rfl

theorem callOut_gone {pointer : ChatDevicePointer} (lawful : guarded → server.sip.Lawful) (sound : Sound guarded room)
    (live : Live guarded room) : Gone (room.callOut server sessions pointer) pointer := by
  have told : Evolves server guarded Leaving True (room.setState pointer .scheduledForLeaving)
      ((room.setParticipantDeviceState server sessions pointer .scheduledForLeaving).updateParticipantDeviceSession server sessions
        pointer false) := leaving_evolves lawful rfl rfl sound
  have found : ∀ state, state.isLeavingState = true → (room.getDevice pointer).map ChatDevice.state = some state →
      Gone room pointer := by
    intro state leaving known
    refine (sound.placed live).every sound.formed fun device there => ?_
    rw [there] at known
    rw [Option.some.inj known]
    exact leaving
  unfold callOut
  split
  next known => exact found _ rfl known
  next known => exact found _ rfl known
  next => exact told.every leaving_stable (setState_gone rfl)

theorem callOuts_evolves {participant : ChatParticipant} (lawful : guarded → server.sip.Lawful) (leaves : allowed .leaving)
    (scheduled : allowed .scheduledForLeaving) (sound : Sound guarded room) :
    Evolves server guarded allowed steady room (room.callOuts server sessions participant) := by
  refine (Evolves.foldl (fun _ => True) ?_ sound trivial).1
  intro pointer _ after valid _
  exact ⟨callOut_evolves lawful leaves scheduled valid, trivial⟩

theorem callOuts_outline {participant : ChatParticipant} :
    (room.callOuts server sessions participant).outline = room.outline :=
  List.foldlRecOn (motive := fun after : ServerChatRoom => after.outline = room.outline) _ _ rfl fun _ same _ _ =>
    callOut_outline.trans same

theorem callOuts_gone {participant : ChatParticipant} (lawful : guarded → server.sip.Lawful) (sound : Sound guarded room)
    (live : Live guarded (room.callOuts server sessions participant)) :
    ∀ pointer ∈ pointers participant, Gone (room.callOuts server sessions participant) pointer := by
  have stable : ∀ (pointer : ChatDevicePointer) (before after : ServerChatRoom), Evolves server guarded Leaving True before after →
      (Live guarded before → Gone before pointer) → Live guarded after → Gone after pointer :=
    fun pointer before after evolves gone live => evolves.every leaving_stable (gone (evolves.live live))
  intro pointer inside
  refine Evolves.foldl_done (fun _ => True) (fun pointer after => Live guarded after → Gone after pointer) stable ?_ sound trivial
    pointer inside live
  intro entry _ before valid _
  have called : Evolves server guarded Leaving True before (before.callOut server sessions entry) :=
    callOut_evolves lawful rfl rfl valid
  exact ⟨⟨called, trivial⟩, fun live => callOut_gone lawful valid (called.live live)⟩

/-- A participant of the same outline as one that was removed is that one. -/
theorem outline_removed {after : ServerChatRoom} {participant invitee : ChatParticipant} (formed : Formed room)
    (member : participant ∈ room.invitedParticipants) (same : after.outline = room.outline)
    (there : invitee ∈ after.invitedParticipants) (equal : participant.address.weakEqual invitee.address = true) :
    invitee.address = participant.address ∧ ∀ device ∈ invitee.devices, ⟨participant.address, device.address⟩ ∈ pointers participant := by
  obtain ⟨old, before, address, devices⟩ := outline_invited same there
  rw [← address] at equal
  obtain rfl := formed.same member before equal
  refine ⟨address.symm, fun device inside => ?_⟩
  have held : device.address ∈ participant.devices.map ChatDevice.address := devices ▸ List.mem_map_of_mem inside
  obtain ⟨other, known, equal⟩ := List.mem_map.mp held
  exact List.mem_map.mpr ⟨other, known, congrArg (ChatDevicePointer.mk participant.address) equal⟩

/-- All devices of the participant are called out before it is taken off the list. -/
theorem takeOut_evolves {participant : ChatParticipant} (lawful : guarded → server.sip.Lawful)
    (leaves : allowed .leaving) (scheduled : allowed .scheduledForLeaving) (sound : Sound guarded room)
    (member : participant ∈ room.invitedParticipants) :
    Evolves server guarded allowed False room (room.takeOut server sessions participant) := by
  obtain ⟨first, demoted, outlined, same⟩ : ∃ first, Evolves server guarded allowed False room first ∧
      first.outline = room.outline ∧
      first = if participant.isAdmin then room.setParticipantAdminStatus participant.address false else room := by
    refine ⟨_, ?_, ?_, rfl⟩
    · split
      · exact .single (.admin fun steady => steady.elim)
      · exact .refl
    · split
      · exact setParticipantAdminStatus_outline _ _ _
      · rfl
  have valid := demoted.sound sound
  have called : Evolves server guarded allowed False room (first.callOuts server sessions participant) :=
    demoted.trans (callOuts_evolves lawful leaves scheduled valid)
  have kept : (first.callOuts server sessions participant).outline = room.outline := callOuts_outline.trans outlined
  have unlisted : Evolves server guarded allowed False room
      ((first.callOuts server sessions participant).takeOffList participant.address) := by
    refine called.tail (.unlist id fun live invitee there equal device inside => ?_)
    obtain ⟨-, pointed⟩ := outline_removed sound.formed member kept there (equal ▸ Address.weakEqual_refl _)
    exact callOuts_gone lawful valid live _ (pointed device inside) invitee there (equal ▸ Address.weakEqual_refl _) device inside rfl
  have erased : Evolves server guarded allowed False room
      (((first.callOuts server sessions participant).takeOffList participant.address).removeQueuedParticipantMessages server
        (some participant)) :=
    unlisted.tail (.erase (sound.formed.bare participant member))
  unfold takeOut
  simp only []
  rw [← same]
  split
  · refine erased.trans (unSubscribeRegistrationForParticipant_evolves fun _ invitee there equal on => ?_)
    obtain ⟨address, -⟩ := outline_removed sound.formed member kept there equal
    exact of_decide_eq_true (List.mem_filter.mp on).2 address
  · exact erased

theorem removeParticipant_evolves {participant : ChatParticipant} (lawful : guarded → server.sip.Lawful)
    (leaves : allowed .leaving) (scheduled : allowed .scheduledForLeaving) (sound : Sound guarded room)
    (member : participant ∈ room.invitedParticipants) :
    Evolves server guarded allowed False room (room.removeParticipant server sessions participant) :=
  (takeOut_evolves lawful leaves scheduled sound member).trans chooseAnotherAdmin_evolves

end Participants

end Liblinphone.ServerChatRoom
