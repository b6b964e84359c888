import Liblinphone.Proofs.ChatRoomPresence

/-! A group does not lose its last admin: only an explicit call takes the status from a participant that
stays, and a participant that goes hands it on. -/

namespace Liblinphone.ServerChatRoom

open Library

section Admins

variable {server : ChatServer} {sessions : Address → Option CallSessionState} {guarded steady : Prop}
  {allowed : ParticipantDeviceState → Prop} {room before after : ServerChatRoom}

def HasAdmin (room : ServerChatRoom) : Prop :=
  ∃ invitee ∈ room.invitedParticipants, invitee.address ∈ room.participants ∧ invitee.isAdmin = true

theorem HasAdmin.updateParticipant {address : Address} {change : ChatParticipant → ChatParticipant} (admin : HasAdmin room)
    (kept : ∀ participant, (change participant).address = participant.address)
    (status : ∀ participant, participant.isAdmin = true → (change participant).isAdmin = true) :
    HasAdmin (room.updateParticipant address change) := by
  obtain ⟨invitee, member, on, held⟩ := admin
  refine ⟨_, mem_updateParticipant.mpr ⟨invitee, member, rfl⟩, ?_, ?_⟩
  · split
    · rw [kept]
      exact on
    · exact on
  · split
    · exact status invitee held
    · exact held

theorem Change.hasAdmin (change : Change server guarded allowed True before after) (live : Live guarded before)
    (admin : HasAdmin before) : HasAdmin after := by
  cases change with
  | output => exact admin
  | state =>
    apply admin.updateParticipant
    · exact fun _ => rfl
    · exact fun _ held => held
  | send => exact admin
  | erase => exact admin
  | groupchat =>
    apply admin.updateParticipant
    · exact fun _ => rfl
    · exact fun _ held => held
  | admin promoted =>
    apply admin.updateParticipant
    · exact fun _ => rfl
    · exact fun _ _ => promoted trivial
  | others isGroup invited participants =>
    unfold HasAdmin
    rw [invited, participants]
    exact admin
  | invite =>
    obtain ⟨invitee, member, rest⟩ := admin
    exact ⟨invitee, List.mem_append_left _ member, rest⟩
  | list =>
    obtain ⟨invitee, member, on, held⟩ := admin
    exact ⟨invitee, member, List.mem_append_left _ on, held⟩
  | unlist unsteady => exact absurd trivial unsteady
  | addDevice =>
    apply admin.updateParticipant
    · exact fun _ => rfl
    · exact fun _ held => held
  | removeDevices =>
    apply admin.updateParticipant
    · exact fun _ => rfl
    · exact fun _ held => held
  | forget gone =>
    obtain ⟨invitee, member, on, held⟩ := admin
    refine ⟨invitee, ?_, on, held⟩
    unfold removeInvitedParticipant
    refine (List.mem_eraseP_of_neg ?_).mpr member
    exact fun equal => gone live invitee member equal on

theorem Evolves.hasAdmin (evolves : Evolves server guarded allowed True before after) (live : Live guarded after)
    (admin : HasAdmin before) : HasAdmin after := by
  induction evolves with
  | refl => exact admin
  | tail _ change earlier => exact change.hasAdmin (change.live live) (earlier (change.live live))

theorem Change.isGroup (change : Change server guarded allowed steady before after) : after.isGroup = before.isGroup := by
  cases change with
  | others isGroup => exact isGroup
  | _ => rfl

theorem Evolves.isGroup (evolves : Evolves server guarded allowed steady before after) : after.isGroup = before.isGroup := by
  induction evolves with
  | refl => rfl
  | tail _ change earlier => exact change.isGroup.trans earlier

theorem chooseAnotherAdmin_hasAdmin (sound : Sound guarded room) (live : Live guarded room) (group : room.isGroup = true)
    (occupied : room.participants ≠ []) : HasAdmin room.chooseAnotherAdminIfNoneInConference := by
  have placed := sound.placed live
  unfold chooseAnotherAdminIfNoneInConference
  rw [group, Bool.true_and]
  split
  · cases head : room.participants.head? with
    | none => exact absurd (List.head?_eq_none_iff.mp head) occupied
    | some newAdmin =>
      have on := List.mem_of_mem_head? head
      obtain ⟨invitee, member, rfl⟩ := placed.listed newAdmin on
      refine ⟨_, mem_updateParticipant.mpr ⟨invitee, member, rfl⟩, ?_⟩
      rw [if_pos (Address.weakEqual_refl _)]
      exact ⟨on, rfl⟩
  next found =>
    rw [Bool.not_eq_true', Bool.not_eq_false] at found
    obtain ⟨participant, listed, held⟩ := List.any_eq_true.mp found
    obtain ⟨invited, on⟩ := (sound.formed.mem_getParticipants placed.listed).mp listed
    exact ⟨participant, invited, on, held⟩

theorem unSubscribeRegistrationForParticipant_participants {address : Address} :
    (room.unSubscribeRegistrationForParticipant server address).participants = room.participants := by
  unfold unSubscribeRegistrationForParticipant
  split <;> rfl

theorem requestDeletion_participants : (room.requestDeletion server).participants = room.participants := by
  unfold requestDeletion
  refine List.foldlRecOn (motive := fun after : ServerChatRoom => after.participants = room.participants) _ _ rfl ?_
  exact fun after same participant _ => unSubscribeRegistrationForParticipant_participants.trans same

theorem onParticipantDeviceLeft_participants {pointer : ChatDevicePointer} :
    (room.onParticipantDeviceLeft server pointer).participants = room.participants := by
  have deleted : ∀ after : ServerChatRoom, after.participants = room.participants →
      (if (server.emptyChatroomsDeletionEnabled && after.invitedParticipants.all allDevicesLeft) = true then
        after.requestDeletion server else after).participants = room.participants := by
    intro after same
    split
    · exact requestDeletion_participants.trans same
    · exact same
  unfold onParticipantDeviceLeft
  simp only []
  apply deleted
  split
  · exact unSubscribeRegistrationForParticipant_participants
  · rfl

theorem left_participants {pointer : ChatDevicePointer} :
    (room.setParticipantDeviceState server sessions pointer .left).participants = room.participants := by
  have erased : ((room.setState pointer .left).removeQueuedParticipantMessages server
      ((room.setState pointer .left).findParticipant pointer.device)).participants = room.participants :=
    congrArg (fun outline => outline.2.1) ((removeQueuedParticipantMessages_outline server _ _).trans (setState_outline room pointer .left))
  exact onParticipantDeviceLeft_participants.trans erased

/-- What keeps an admin in a group that is not empty, until it is deleted. -/
def KeepsAdmin (guarded : Prop) (before after : ServerChatRoom) : Prop :=
  Live guarded after → after.participants ≠ [] → HasAdmin before → HasAdmin after

theorem Evolves.keepsAdmin (evolves : Evolves server guarded allowed True before after) : KeepsAdmin guarded before after :=
  fun live _ admin => evolves.hasAdmin live admin

theorem removeParticipant_keepsAdmin {participant : ChatParticipant} (lawful : guarded → server.sip.Lawful)
    (sound : Sound guarded room) (group : room.isGroup = true) (member : participant ∈ room.invitedParticipants) :
    KeepsAdmin guarded room (room.removeParticipant server sessions participant) := by
  have out : Evolves server guarded (fun _ => True) False room (room.takeOut server sessions participant) :=
    takeOut_evolves lawful trivial trivial sound member
  have chosen : Evolves server guarded (fun _ => True) False (room.takeOut server sessions participant)
      (room.removeParticipant server sessions participant) := chooseAnotherAdmin_evolves
  intro live occupied _
  refine chooseAnotherAdmin_hasAdmin (out.sound sound) (chosen.live live) (out.isGroup.trans group) fun empty => occupied ?_
  unfold removeParticipant chooseAnotherAdminIfNoneInConference
  split
  · split <;> exact empty
  · exact empty

theorem keepsParticipants_group (group : room.isGroup = true) : room.keepsParticipants = false := by
  unfold keepsParticipants
  rw [group]
  rfl

theorem removeLeavingParticipant_keepsAdmin {pointer : ChatDevicePointer} (lawful : guarded → server.sip.Lawful)
    (sound : Sound guarded room) (group : room.isGroup = true) :
    KeepsAdmin guarded room (room.removeLeavingParticipant server sessions pointer) := by
  have left : Evolves server guarded (fun _ => True) True room (room.setParticipantDeviceState server sessions pointer .leaving) :=
    setParticipantDeviceState_evolves lawful sound (fun _ => .inl rfl) trivial fun _ => trivial
  unfold removeLeavingParticipant
  rw [keepsParticipants_group group]
  simp only [Bool.false_eq_true, if_false]
  cases found : (room.setParticipantDeviceState server sessions pointer .leaving).findInvitedParticipant pointer.participant with
  | none => exact left.keepsAdmin
  | some participant =>
    intro live occupied admin
    have removed : Evolves server guarded (fun _ => True) False (room.setParticipantDeviceState server sessions pointer .leaving)
        ((room.setParticipantDeviceState server sessions pointer .leaving).removeParticipant server sessions participant) :=
      removeParticipant_evolves lawful trivial trivial (left.sound sound) (findInvitedParticipant_mem found).1
    exact removeParticipant_keepsAdmin lawful (left.sound sound) (left.isGroup.trans group) (findInvitedParticipant_mem found).1 live
      occupied (left.hasAdmin (removed.live live) admin)

theorem onBye_keepsAdmin {pointer : ChatDevicePointer} (lawful : guarded → server.sip.Lawful) (sound : Sound guarded room)
    (group : room.isGroup = true) : KeepsAdmin guarded room (room.onBye server sessions pointer) := by
  have alone : room.removeOtherParticipant server sessions pointer = room := by
    unfold removeOtherParticipant
    rw [group]
    rfl
  have removed : Evolves server guarded (fun _ => True) False room (room.removeLeavingParticipant server sessions pointer) :=
    removeLeavingParticipant_evolves lawful trivial trivial sound
  have left : Evolves server guarded (fun _ => True) True (room.removeLeavingParticipant server sessions pointer)
      ((room.removeLeavingParticipant server sessions pointer).setParticipantDeviceState server sessions pointer .left) :=
    setParticipantDeviceState_evolves lawful (removed.sound sound) (fun _ => .inl rfl) trivial fun _ => trivial
  unfold onBye
  rw [alone]
  intro live occupied admin
  rw [left_participants] at occupied
  exact left.hasAdmin live (removeLeavingParticipant_keepsAdmin lawful sound group (left.live live) occupied admin)

theorem onSipMessageReceived_keepsAdmin (lawful : guarded → server.sip.Lawful) (sound : Sound guarded room)
    (message : ServerMessage) : KeepsAdmin guarded room (room.onSipMessageReceived server sessions message) := by
  unfold onSipMessageReceived
  split
  · have evolves : Evolves server guarded (fun _ => True) True (room.queueMessage server message)
        ((room.queueMessage server message).dispatchQueuedMessages server sessions) :=
      dispatchQueuedMessages_evolves lawful trivial (queueMessage_sound sound)
    intro live _ admin
    refine evolves.hasAdmin live ?_
    rw [queueMessage_frame]
    exact admin
  · exact fun _ _ admin => admin

theorem onSipMessageReceived_isGroup (message : ServerMessage) (formed : Formed room) :
    (room.onSipMessageReceived server sessions message).isGroup = room.isGroup := by
  unfold onSipMessageReceived
  split
  · have evolves : Evolves server False (fun _ => True) True (room.queueMessage server message)
        ((room.queueMessage server message).dispatchQueuedMessages server sessions) :=
      dispatchQueuedMessages_evolves False.elim trivial (queueMessage_formed formed).sound
    rw [evolves.isGroup, queueMessage_frame]
  · rfl

theorem perform_isGroup {call : ChatRoomCall} (formed : Formed room) (open' : room.state ≠ .deleted) :
    (room.perform server sessions call).isGroup = room.isGroup := by
  by_cases message : ∃ message, call = .message message
  · obtain ⟨message, rfl⟩ := message
    exact onSipMessageReceived_isGroup message formed
  · have evolves : Evolves server False (fun _ => True) False room (room.perform server sessions call) :=
      perform_evolves False.elim (fun _ _ => trivial) (fun _ => trivial) False.elim
        (fun other same => message ⟨other, same⟩) formed.sound open' False.elim
    exact evolves.isGroup

theorem perform_keepsAdmin {call : ChatRoomCall} (lawful : guarded → server.sip.Lawful) (sound : Sound guarded room)
    (group : room.isGroup = true) (open' : room.state ≠ .deleted) (regular : guarded → Regular server room call)
    (status : ∀ address, call ≠ .setParticipantAdminStatus address false) :
    KeepsAdmin guarded room (room.perform server sessions call) := by
  by_cases demotes : Demotes call
  · cases call with
    | removeParticipant address =>
      change KeepsAdmin guarded room ((room.findParticipant address).elim room (room.removeParticipant server sessions))
      cases found : room.findParticipant address with
      | none => exact fun _ _ admin => admin
      | some participant =>
        exact removeParticipant_keepsAdmin lawful sound group (getParticipants_invited (findParticipant_mem found).1)
    | sessionEnded pointer protocolCode isInitiator networkReachable =>
      change KeepsAdmin guarded room (room.sessionEnded server sessions pointer protocolCode isInitiator networkReachable)
      have failed : Evolves server guarded (fun _ => True) True room
          (room.sessionFailed server sessions pointer (protocolCode.getD 0) isInitiator) :=
        sessionFailed_evolves lawful trivial trivial sound
      unfold sessionEnded
      split
      · exact failed.keepsAdmin
      · split
        · exact onBye_keepsAdmin lawful sound group
        · exact fun _ _ admin => admin
    | setParticipantAdminStatus address isAdmin => exact absurd (demotes ▸ rfl) (status address)
    | _ => cases demotes
  · by_cases message : ∃ message, call = .message message
    · obtain ⟨message, rfl⟩ := message
      exact onSipMessageReceived_keepsAdmin lawful sound message
    · have evolves : Evolves server guarded (fun _ => True) True room (room.perform server sessions call) :=
        perform_evolves lawful (fun _ _ => trivial) (fun _ => trivial) (fun _ => demotes)
          (fun other same => message ⟨other, same⟩) sound open' regular
      exact evolves.keepsAdmin

/-- Someone is in the room after every step. -/
def StaysOccupied (server : ChatServer) : ServerChatRoom → List ChatRoomInput → Prop
  | _, [] => True
  | room, input :: rest => (room.step server input).participants ≠ [] ∧ StaysOccupied server (room.step server input) rest

theorem step_keepsAdmin {input : ChatRoomInput} (lawful : server.sip.Lawful) (tended : Tended server room)
    (regular : room.state ≠ .deleted → Regular server room input.call) (group : room.isGroup = true)
    (status : ∀ address, input.call ≠ .setParticipantAdminStatus address false)
    (occupied : (room.step server input).participants ≠ []) (admin : room.state ≠ .deleted → HasAdmin room) :
    (room.step server input).isGroup = true ∧ ((room.step server input).state ≠ .deleted → HasAdmin (room.step server input)) := by
  unfold step at occupied ⊢
  by_cases deleted : room.state = .deleted
  · rw [if_pos deleted]
    exact ⟨group, admin⟩
  · rw [if_neg deleted] at occupied ⊢
    have sound : Sound True room := ⟨tended.formed, fun _ => (tended.open' deleted).1⟩
    refine ⟨(perform_isGroup tended.formed deleted).trans group, fun still => ?_⟩
    exact perform_keepsAdmin (fun _ => lawful) sound group deleted (fun _ => regular deleted) status ⟨trivial, still⟩ occupied
      (admin deleted)

end Admins

/-- Alice goes, and so Bob is the admin. -/
def removedCalls : List ChatRoomInput := [{ call := .removeParticipant { domain := "sip.org", username := some "alice" } }]

end Liblinphone.ServerChatRoom
