import Liblinphone.Proofs.ChatRoomDelivery

/-! What holds of the devices of a room after every run: nothing waits for one that is present, and one
whose participant is not in the room is leaving it. -/

namespace Liblinphone.ServerChatRoom

open Library

section Delivered

variable {server : ChatServer} {sessions : Address → Option CallSessionState} {guarded steady : Prop}
  {room before after : ServerChatRoom} {pointer : ChatDevicePointer}

abbrev Calm (state : ParticipantDeviceState) : Prop := state ≠ .present

/-- Nothing waits for a device that is present. -/
abbrev Served (server : ChatServer) (pointer : ChatDevicePointer) (room : ServerChatRoom) : Prop :=
  Every (fun queues state => state = .present → queues (server.toText pointer.device) = []) room pointer

theorem served_stable (pointer : ChatDevicePointer) :
    Stable Calm fun queues state => state = .present → queues (server.toText pointer.device) = [] := by
  refine ⟨fun queues state calm present => absurd present calm, fun queues uri state served present => ?_⟩
  simp only []
  split
  · rfl
  · exact served present

def Delivered (server : ChatServer) (room : ServerChatRoom) : Prop :=
  ∀ invitee ∈ room.invitedParticipants, ∀ device ∈ invitee.devices, device.state = .present →
    room.queuedMessages (server.toText device.address) = []

theorem delivered_iff : Delivered server room ↔ ∀ pointer, Served server pointer room := by
  constructor
  · intro delivered pointer invitee member _ device inside same present
    exact same ▸ delivered invitee member device inside present
  · intro served invitee member device inside present
    exact served ⟨invitee.address, device.address⟩ invitee member (Address.weakEqual_refl _) device inside rfl present

theorem Evolves.delivered (evolves : Evolves server guarded Calm steady before after) (delivered : Delivered server before) :
    Delivered server after :=
  delivered_iff.mpr fun pointer => evolves.every (served_stable pointer) (delivered_iff.mp delivered pointer)

theorem dispatchToDevice_served (lawful : guarded → server.sip.Lawful) (sound : Sound guarded room)
    (calls : Live guarded room → room.Calls pointer.device) (live : Live guarded room) :
    Served server pointer (room.dispatchToDevice server sessions pointer) := by
  have apart : ∀ device, room.getDevice pointer = some device → device.state ≠ .present → Served server pointer room := by
    intro device found absent
    refine (sound.placed live).every sound.formed fun other known present => ?_
    rw [found] at known
    exact absurd (Option.some.inj known ▸ present) absent
  unfold dispatchToDevice
  split
  next missing =>
    refine (sound.placed live).every sound.formed fun other known => ?_
    rw [missing] at known
    cases known
  next device found =>
    obtain ⟨-, -, -, -, same⟩ := getDevice_mem found
    simp only []
    split
    next empty =>
      refine (sound.placed live).every sound.formed fun _ _ _ => ?_
      rw [← same]
      exact List.isEmpty_iff.mp empty
    next =>
      split
      next gone =>
        rw [Bool.and_eq_true, decide_eq_true_iff] at gone
        have invited : Evolves server guarded Calm True room (room.inviteDevice server sessions device.address) :=
          inviteDevice_evolves lawful (by decide) sound fun live => same ▸ calls live
        refine invited.every (served_stable pointer) (apart device found ?_)
        rw [gone.2]
        decide
      next =>
        split
        next =>
          intro invitee member equal other inside also present
          exact if_pos (by rw [same])
        next absent => exact apart device found absent

/-- A device of a participant is among those that messages are dispatched to. -/
theorem Calls.pointed {invitee : ChatParticipant} {device : ChatDevice} (formed : Formed room) (placed : Placed room)
    (same : after.outline = room.outline) (member : invitee ∈ after.invitedParticipants) (inside : device ∈ invitee.devices)
    (on : invitee.address ∈ after.participants) : ⟨invitee.address, device.address⟩ ∈ room.devicePointers := by
  obtain ⟨old, there, address, devices⟩ := outline_invited same member
  have held : device.address ∈ old.devices.map ChatDevice.address := devices ▸ List.mem_map_of_mem inside
  obtain ⟨other, known, equal⟩ := List.mem_map.mp held
  have listed : invitee.address ∈ room.participants := by
    rw [← show after.participants = room.participants from congrArg (fun outline => outline.2.1) same]
    exact on
  refine List.mem_flatMap.mpr ⟨old, (formed.mem_getParticipants placed.listed).mpr ⟨there, address ▸ listed⟩, ?_⟩
  exact List.mem_map.mpr ⟨other, known, by rw [address, equal]⟩

theorem dispatchQueuedMessages_delivered (lawful : guarded → server.sip.Lawful) (sound : Sound guarded room)
    (live : Live guarded (room.dispatchQueuedMessages server sessions)) :
    Delivered server (room.dispatchQueuedMessages server sessions) := by
  have evolves : Evolves server guarded Calm True room (room.dispatchQueuedMessages server sessions) :=
    dispatchQueuedMessages_evolves lawful (by decide) sound
  have before := evolves.live live
  have stable : ∀ (pointer : ChatDevicePointer) (before after : ServerChatRoom), Evolves server guarded Calm True before after →
      (Live guarded before → Served server pointer before) → Live guarded after → Served server pointer after :=
    fun pointer before after evolves served live => evolves.every (served_stable pointer) (served (evolves.live live))
  have served : ∀ pointer ∈ room.devicePointers, Live guarded (room.dispatchQueuedMessages server sessions) →
      Served server pointer (room.dispatchQueuedMessages server sessions) := by
    refine Evolves.foldl_done (fun after => after.outline = room.outline)
      (fun pointer after => Live guarded after → Served server pointer after) stable ?_ sound rfl
    intro pointer member after valid same
    have calls := (devicePointers_calls member sound.formed (sound.placed before)).outlined same
    have evolves : Evolves server guarded Calm True after (after.dispatchToDevice server sessions pointer) :=
      dispatchToDevice_evolves lawful (by decide) valid fun _ => calls
    exact ⟨⟨evolves, (dispatchToDevice_outline pointer).trans same⟩, fun live =>
      dispatchToDevice_served lawful valid (fun _ => calls) (evolves.live live)⟩
  intro invitee member device inside present
  have on := ((evolves.sound sound).placed live).staying member inside (by rw [present]; rfl)
  have pointed := Calls.pointed sound.formed (sound.placed before) dispatchQueuedMessages_outline member inside on
  exact served _ pointed live invitee member (Address.weakEqual_refl _) device inside rfl present

/-- What reaches the devices that are present still does, until the room is deleted. -/
def Serves (server : ChatServer) (guarded : Prop) (before after : ServerChatRoom) : Prop :=
  Live guarded after → Delivered server before → Delivered server after

theorem Evolves.serves (evolves : Evolves server guarded Calm steady before after) : Serves server guarded before after :=
  fun _ delivered => evolves.delivered delivered

/-- A device that stays becomes present, and gets its messages. -/
theorem moveDeviceToPresent_serves (lawful : guarded → server.sip.Lawful) (sound : Sound guarded room)
    (pointer : ChatDevicePointer) : Serves server guarded room (room.moveDeviceToPresent server sessions pointer) := by
  unfold moveDeviceToPresent
  split
  · exact fun _ delivered => delivered
  next device found =>
    split
    · exact fun _ delivered => delivered
    next stays =>
      have set : Evolves server guarded (fun _ => True) True room (room.setState pointer .present) :=
        .single (.state (fun live => .inr ((sound.placed live).pointed sound.formed found (Bool.eq_false_iff.mpr stays))) trivial)
      exact fun live _ => dispatchQueuedMessages_delivered lawful (set.sound sound) live

theorem moveRecentDeviceToPresent_serves (lawful : guarded → server.sip.Lawful) (sound : Sound guarded room)
    (pointer : ChatDevicePointer) : Serves server guarded room (room.moveRecentDeviceToPresent server sessions pointer) := by
  unfold moveRecentDeviceToPresent
  split
  · exact moveDeviceToPresent_serves lawful sound pointer
  · exact fun _ delivered => delivered

theorem sessionConnected_serves {isOutgoing : Bool} (lawful : guarded → server.sip.Lawful) (sound : Sound guarded room)
    (pointer : ChatDevicePointer) : Serves server guarded room (room.sessionConnected server sessions pointer isOutgoing) := by
  unfold sessionConnected
  split
  · exact fun _ delivered => delivered
  · have told : Evolves server guarded Calm True room (room.byeDevice server sessions pointer) :=
      byeDevice_evolves lawful (by decide) sound
    exact told.serves
  · split
    · exact moveRecentDeviceToPresent_serves lawful sound pointer
    · exact fun _ delivered => delivered

theorem onFirstNotifyReceived_serves (lawful : guarded → server.sip.Lawful) (sound : Sound guarded room) (address : Address) :
    Serves server guarded room (room.onFirstNotifyReceived server sessions address) := by
  unfold onFirstNotifyReceived
  split
  · exact fun _ delivered => delivered
  · exact moveDeviceToPresent_serves lawful sound _

theorem queueMessage_sound {message : ServerMessage} (sound : Sound guarded room) :
    Sound guarded (room.queueMessage server message) := by
  rw [queueMessage_frame]
  refine ⟨⟨sound.formed.distinct, sound.formed.bare⟩, fun live => ?_⟩
  have placed := sound.placed live
  exact ⟨placed.listed, placed.away, placed.owned, placed.single⟩

theorem onSipMessageReceived_serves (lawful : guarded → server.sip.Lawful) (sound : Sound guarded room) (message : ServerMessage) :
    Serves server guarded room (room.onSipMessageReceived server sessions message) := by
  unfold onSipMessageReceived
  split
  · exact fun live _ => dispatchQueuedMessages_delivered lawful (queueMessage_sound sound) live
  · exact fun _ delivered => delivered

theorem perform_serves {call : ChatRoomCall} (lawful : guarded → server.sip.Lawful) (sound : Sound guarded room)
    (open' : room.state ≠ .deleted) (regular : guarded → Regular server room call) :
    Serves server guarded room (room.perform server sessions call) := by
  by_cases reaches : Reaches call
  · cases call with
    | sessionConnected pointer isOutgoing => exact sessionConnected_serves lawful sound pointer
    | onAckReceived pointer => exact moveRecentDeviceToPresent_serves lawful sound pointer
    | onFirstNotifyReceived device => exact onFirstNotifyReceived_serves lawful sound device
    | _ => cases reaches
  · by_cases message : ∃ message, call = .message message
    · obtain ⟨message, rfl⟩ := message
      exact onSipMessageReceived_serves lawful sound message
    · have evolves : Evolves server guarded Calm False room (room.perform server sessions call) :=
        perform_evolves lawful (fun _ calm => calm) (fun yes => absurd yes reaches) False.elim
          (fun other same => message ⟨other, same⟩) sound open' regular
      exact evolves.serves

end Delivered

section Runs

variable {server : ChatServer} {sessions : Address → Option CallSessionState} {guarded steady : Prop}
  {allowed : ParticipantDeviceState → Prop} {room before after : ServerChatRoom}

/-- No device was called that the room does not have. -/
abbrev Answered (room : ServerChatRoom) : Prop := .nullDevice ∉ room.outputs

theorem Change.answered (change : Change server guarded allowed steady before after) (live : Live guarded before)
    (answered : Answered before) : Answered after := by
  cases change with
  | output other called =>
    intro member
    rcases List.mem_append.mp member with early | new
    · exact answered early
    · exact called live (List.mem_singleton.mp new).symm
  | send =>
    intro member
    rcases List.mem_append.mp member with early | new
    · exact answered early
    · obtain ⟨message, -, same⟩ := List.mem_map.mp new
      cases same
  | others isGroup invited participants queued outputs =>
    unfold Answered
    rw [outputs]
    exact answered
  | _ => exact answered

theorem Evolves.answered (evolves : Evolves server guarded allowed steady before after) (live : Live guarded after)
    (answered : Answered before) : Answered after := by
  induction evolves with
  | refl => exact answered
  | tail _ change earlier => exact change.answered (change.live live) (earlier (change.live live))

/-- What a regular run keeps of a room until it is deleted. -/
structure Tended (server : ChatServer) (room : ServerChatRoom) : Prop where
  formed : Formed room
  open' : room.state ≠ .deleted → Placed room ∧ Delivered server room ∧ Answered room

/-- Every call respects what it has to, at the room that it finds. -/
def RegularRun (server : ChatServer) : ServerChatRoom → List ChatRoomInput → Prop
  | _, [] => True
  | room, input :: rest => (room.state ≠ .deleted → Regular server room input.call) ∧ RegularRun server (room.step server input) rest

theorem onSipMessageReceived_sound {message : ServerMessage} (lawful : guarded → server.sip.Lawful) (sound : Sound guarded room) :
    Sound guarded (room.onSipMessageReceived server sessions message) ∧
      (Live guarded (room.onSipMessageReceived server sessions message) → Answered room →
        Answered (room.onSipMessageReceived server sessions message)) := by
  unfold onSipMessageReceived
  split
  · have evolves : Evolves server guarded (fun _ => True) True (room.queueMessage server message)
        ((room.queueMessage server message).dispatchQueuedMessages server sessions) :=
      dispatchQueuedMessages_evolves lawful trivial (queueMessage_sound sound)
    refine ⟨evolves.sound (queueMessage_sound sound), fun live answered => evolves.answered live ?_⟩
    rw [queueMessage_frame]
    exact answered
  · exact ⟨sound, fun _ answered => answered⟩

theorem perform_sound {call : ChatRoomCall} (lawful : guarded → server.sip.Lawful) (sound : Sound guarded room)
    (open' : room.state ≠ .deleted) (regular : guarded → Regular server room call) :
    Sound guarded (room.perform server sessions call) ∧
      (Live guarded (room.perform server sessions call) → Answered room → Answered (room.perform server sessions call)) := by
  by_cases message : ∃ message, call = .message message
  · obtain ⟨message, rfl⟩ := message
    exact onSipMessageReceived_sound lawful sound
  · have evolves : Evolves server guarded (fun _ => True) False room (room.perform server sessions call) :=
      perform_evolves lawful (fun _ _ => trivial) (fun _ => trivial) False.elim
        (fun other same => message ⟨other, same⟩) sound open' regular
    exact ⟨evolves.sound sound, evolves.answered⟩

theorem step_tended {input : ChatRoomInput} (lawful : server.sip.Lawful) (tended : Tended server room)
    (regular : room.state ≠ .deleted → Regular server room input.call) : Tended server (room.step server input) := by
  unfold step
  split
  · exact tended
  next open' =>
    obtain ⟨placed, delivered, answered⟩ := tended.open' open'
    have sound : Sound True room := ⟨tended.formed, fun _ => placed⟩
    obtain ⟨valid, answers⟩ := perform_sound (fun _ => lawful) sound open' fun _ => regular open'
    have serves : Serves server True room (room.perform server input.sessions input.call) :=
      perform_serves (fun _ => lawful) sound open' fun _ => regular open'
    exact ⟨valid.formed, fun still =>
      ⟨valid.placed ⟨trivial, still⟩, serves ⟨trivial, still⟩ delivered, answers ⟨trivial, still⟩ answered⟩⟩

theorem run_tended {inputs : List ChatRoomInput} (lawful : server.sip.Lawful) (tended : Tended server room)
    (regular : RegularRun server room inputs) : Tended server (room.run server inputs) := by
  induction inputs generalizing room with
  | nil => exact tended
  | cons input rest following => exact following (step_tended lawful tended regular.1) regular.2

end Runs

/-- Bob answers after the message. -/
def answeredCalls : List ChatRoomInput := [
  { call := .message firstMessage },
  { call := .sessionConnected ⟨{ domain := "sip.org", username := some "bob" }, (calledDevice "bob" .joining).address⟩ true }]

theorem calledRoom_tended : Tended calledServer calledRoom :=
  ⟨⟨by decide, by decide⟩, fun _ => ⟨⟨by decide, by decide, by decide, by decide⟩, fun _ _ _ _ _ => rfl, by decide⟩⟩

theorem answeredCalls_regular : RegularRun calledServer calledRoom answeredCalls :=
  ⟨fun _ => trivial, fun _ => trivial, trivial⟩

end Liblinphone.ServerChatRoom
