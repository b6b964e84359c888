import Liblinphone.ServerChatRoom
import Mathlib.Logic.Relation

/-! What a call does to a room, as a chain of small changes. What each change keeps is
kept by every call, and so over every run. -/

namespace Liblinphone.ServerChatRoom

open Library

section Lookup

variable {room : ServerChatRoom} {address : Address} {participant : ChatParticipant}

/-- Participants have pairwise different addresses, and no address of a device. -/
structure Formed (room : ServerChatRoom) : Prop where
  distinct : DistinctKeys (fun participant : ChatParticipant => participant.address.weakKey) room.invitedParticipants
  bare : ∀ participant ∈ room.invitedParticipants, participant.address.getUriWithoutGruu = participant.address

theorem Formed.same {other : ChatParticipant} (formed : Formed room) (first : participant ∈ room.invitedParticipants)
    (second : other ∈ room.invitedParticipants) (equal : participant.address.weakEqual other.address = true) :
    participant = other := by
  rw [Address.weakEqual_eq_key, decide_eq_true_iff] at equal
  exact List.inj_on_of_nodup_map formed.distinct first second equal

theorem findInvitedParticipant_mem (found : room.findInvitedParticipant address = some participant) :
    participant ∈ room.invitedParticipants ∧ address.weakEqual participant.address = true :=
  ⟨List.mem_of_find?_eq_some found,
    List.find?_some (p := fun invitee : ChatParticipant => address.weakEqual invitee.address) found⟩

theorem Formed.find (formed : Formed room) (member : participant ∈ room.invitedParticipants)
    (equal : address.weakEqual participant.address = true) : room.findInvitedParticipant address = some participant := by
  cases found : room.findInvitedParticipant address with
  | none => exact absurd equal (List.find?_eq_none.mp found participant member)
  | some other =>
    obtain ⟨member', equal'⟩ := findInvitedParticipant_mem found
    rw [formed.same member' member (Address.weakEqual_trans (Address.weakEqual_symm equal') equal)]

theorem mem_getParticipants_listed (member : participant ∈ room.getParticipants) :
    ∃ address ∈ room.participants, room.findInvitedParticipant address = some participant :=
  List.mem_filterMap.mp member

/-- The invited participants whose addresses are on the list. -/
theorem Formed.mem_getParticipants (formed : Formed room)
    (listed : ∀ address ∈ room.participants, ∃ invitee ∈ room.invitedParticipants, invitee.address = address) :
    participant ∈ room.getParticipants ↔ participant ∈ room.invitedParticipants ∧ participant.address ∈ room.participants := by
  constructor
  · intro member
    obtain ⟨address, on, found⟩ := mem_getParticipants_listed member
    obtain ⟨invited, equal⟩ := findInvitedParticipant_mem found
    obtain ⟨invitee, there, same⟩ := listed address on
    rw [← same] at equal
    rw [← formed.same there invited equal]
    exact ⟨there, same ▸ on⟩
  · rintro ⟨invited, on⟩
    exact List.mem_filterMap.mpr ⟨_, on, formed.find invited (Address.weakEqual_refl _)⟩

theorem findParticipant_mem (found : room.findParticipant address = some participant) :
    participant ∈ room.getParticipants ∧ participant.address.weakEqual address = true :=
  ⟨List.mem_of_find?_eq_some found,
    List.find?_some (p := fun participant : ChatParticipant => participant.address.weakEqual address) found⟩

theorem getParticipants_invited (member : participant ∈ room.getParticipants) : participant ∈ room.invitedParticipants := by
  obtain ⟨address, -, found⟩ := mem_getParticipants_listed member
  exact (findInvitedParticipant_mem found).1

theorem mem_updateParticipant {change : ChatParticipant → ChatParticipant} :
    participant ∈ (room.updateParticipant address change).invitedParticipants ↔
      ∃ invitee ∈ room.invitedParticipants,
        participant = if address.weakEqual invitee.address then change invitee else invitee := by
  unfold updateParticipant
  rw [List.mem_map]
  exact exists_congr fun invitee => and_congr_right fun _ => eq_comm

theorem Formed.updateParticipant {change : ChatParticipant → ChatParticipant} (formed : Formed room)
    (kept : ∀ participant, (change participant).address = participant.address) (address : Address) :
    Formed (room.updateParticipant address change) := by
  have addresses : ∀ invitee : ChatParticipant,
      (if address.weakEqual invitee.address then change invitee else invitee).address = invitee.address := by
    intro invitee
    split
    · exact kept invitee
    · rfl
  constructor
  · have same : (room.updateParticipant address change).invitedParticipants.map (fun participant => participant.address.weakKey) =
        room.invitedParticipants.map fun participant => participant.address.weakKey := by
      unfold ServerChatRoom.updateParticipant
      rw [List.map_map]
      exact List.map_congr_left fun invitee _ => congrArg Address.weakKey (addresses invitee)
    unfold DistinctKeys
    rw [same]
    exact formed.distinct
  · intro participant member
    obtain ⟨invitee, there, same⟩ := mem_updateParticipant.mp member
    have address := addresses invitee
    rw [← same] at address
    rw [address]
    exact formed.bare invitee there

end Lookup

/-- In a room that is not deleted the participants are invited ones. The devices of the others are
leaving. Each device is one of its participant, which has no other of its address. -/
structure Placed (room : ServerChatRoom) : Prop where
  listed : ∀ address ∈ room.participants, ∃ invitee ∈ room.invitedParticipants, invitee.address = address
  away : ∀ invitee ∈ room.invitedParticipants, invitee.address ∉ room.participants →
    ∀ device ∈ invitee.devices, device.state.isLeavingState = true
  owned : ∀ invitee ∈ room.invitedParticipants, ∀ device ∈ invitee.devices, device.address.weakEqual invitee.address = true
  single : ∀ invitee ∈ room.invitedParticipants, DistinctKeys ChatDevice.address invitee.devices

/-- Whoever the address may stand for is a participant. -/
def Lists (room : ServerChatRoom) (address : Address) : Prop :=
  ∀ invitee ∈ room.invitedParticipants, address.weakEqual invitee.address = true → invitee.address ∈ room.participants

/-- What is claimed of guarded runs alone is only claimed until the room is deleted. -/
def Live (guarded : Prop) (room : ServerChatRoom) : Prop := guarded ∧ room.state ≠ .deleted

structure Sound (guarded : Prop) (room : ServerChatRoom) : Prop where
  formed : Formed room
  placed : Live guarded room → Placed room

/-- One change of a room, in which devices only get the states that are allowed. In a steady one no
participant is demoted or taken off the list. -/
inductive Change (server : ChatServer) (guarded : Prop) (allowed : ParticipantDeviceState → Prop) (steady : Prop) :
    ServerChatRoom → ServerChatRoom → Prop where
  | output {room : ServerChatRoom} {event : ChatRoomOutput} (other : ∀ device message, event ≠ .message device message)
      (called : Live guarded room → event ≠ .nullDevice) : Change server guarded allowed steady room (room.output event)
  | state {room : ServerChatRoom} {pointer : ChatDevicePointer} {state : ParticipantDeviceState}
      (there : Live guarded room → state.isLeavingState = true ∨ room.Lists pointer.participant)
      (calm : allowed state) : Change server guarded allowed steady room (room.setState pointer state)
  | send {room : ServerChatRoom} {address : Address} :
      Change server guarded allowed steady room
        ({ room with
          outputs := room.outputs ++
            (room.queuedMessages (server.toText address)).map (ChatRoomOutput.message address) }.setQueue (server.toText address) [])
  | erase {room : ServerChatRoom} {address : Address} (bare : address.getUriWithoutGruu = address) :
      Change server guarded allowed steady room (room.setQueue (server.toText address) [])
  | groupchat {room : ServerChatRoom} {pointer : ChatDevicePointer} {version : Option Utils.Version} :
      Change server guarded allowed steady room (room.updateDevice pointer fun device => { device with groupchat := version })
  | admin {room : ServerChatRoom} {address : Address} {isAdmin : Bool} (promoted : steady → isAdmin = true) :
      Change server guarded allowed steady room (room.setParticipantAdminStatus address isAdmin)
  | others {room after : ServerChatRoom} (isGroup : after.isGroup = room.isGroup)
      (invited : after.invitedParticipants = room.invitedParticipants) (participants : after.participants = room.participants)
      (queued : after.queuedMessages = room.queuedMessages) (outputs : after.outputs = room.outputs)
      (ended : room.state = .deleted → after.state = .deleted) : Change server guarded allowed steady room after
  | invite {room : ServerChatRoom} {address : Address} (new : room.findInvitedParticipant address = none) :
      Change server guarded allowed steady room
        { room with invitedParticipants := room.invitedParticipants ++ [{ address := address.getUriWithoutGruu }] }
  | list {room : ServerChatRoom} {participant : ChatParticipant} (member : participant ∈ room.invitedParticipants) :
      Change server guarded allowed steady room { room with participants := room.participants ++ [participant.address] }
  | unlist {room : ServerChatRoom} {address : Address} (unsteady : ¬steady)
      (gone : Live guarded room → ∀ invitee ∈ room.invitedParticipants, invitee.address = address →
        ∀ device ∈ invitee.devices, device.state.isLeavingState = true) :
      Change server guarded allowed steady room (room.takeOffList address)
  | addDevice {room : ServerChatRoom} {address : Address} {device : ChatDevice} (joining : device.state = .joining) (calm : allowed .joining)
      (there : Live guarded room → room.Lists address ∧ device.address.weakEqual address = true)
      (new : Live guarded room → ∀ invitee ∈ room.invitedParticipants, address.weakEqual invitee.address = true →
        ∀ other ∈ invitee.devices, other.address ≠ device.address) :
      Change server guarded allowed steady room
        (room.updateParticipant address fun participant => { participant with devices := participant.devices ++ [device] })
  | removeDevices {room : ServerChatRoom} {address : Address} {keeps : ChatDevice → Bool} :
      Change server guarded allowed steady room
        (room.updateParticipant address fun participant => { participant with devices := participant.devices.filter keeps })
  | forget {room : ServerChatRoom} {address : Address}
      (gone : Live guarded room → ∀ invitee ∈ room.invitedParticipants, address.weakEqual invitee.address = true →
        invitee.address ∉ room.participants) :
      Change server guarded allowed steady room (room.removeInvitedParticipant address)

abbrev Evolves (server : ChatServer) (guarded : Prop) (allowed : ParticipantDeviceState → Prop) (steady : Prop) :
    ServerChatRoom → ServerChatRoom → Prop :=
  Relation.ReflTransGen (Change server guarded allowed steady)

section Kept

variable {server : ChatServer} {guarded steady : Prop} {allowed : ParticipantDeviceState → Prop}
  {before after : ServerChatRoom}

theorem Change.deleted (change : Change server guarded allowed steady before after) (ended : before.state = .deleted) :
    after.state = .deleted := by
  cases change with
  | others isGroup invited participants queued outputs kept => exact kept ended
  | _ => exact ended

theorem Change.live (change : Change server guarded allowed steady before after) (live : Live guarded after) :
    Live guarded before :=
  ⟨live.1, fun ended => live.2 (change.deleted ended)⟩

/-- An address on the list stands for one participant. -/
theorem Placed.lists {room : ServerChatRoom} {address : Address} (formed : Formed room) (placed : Placed room)
    (on : address ∈ room.participants) : room.Lists address := by
  intro invitee member equal
  obtain ⟨other, there, same⟩ := placed.listed address on
  rw [← same] at equal
  rw [← formed.same there member equal, same]
  exact on

/-- A change of the participants of one address keeps the places of all. -/
theorem Placed.updateParticipant {room : ServerChatRoom} {address : Address} {change : ChatParticipant → ChatParticipant}
    (placed : Placed room) (kept : ∀ participant, (change participant).address = participant.address)
    (away : ∀ invitee ∈ room.invitedParticipants, address.weakEqual invitee.address = true →
      invitee.address ∉ room.participants → ∀ device ∈ (change invitee).devices, device.state.isLeavingState = true)
    (owned : ∀ invitee ∈ room.invitedParticipants, address.weakEqual invitee.address = true →
      ∀ device ∈ (change invitee).devices, device.address.weakEqual invitee.address = true)
    (single : ∀ invitee ∈ room.invitedParticipants, address.weakEqual invitee.address = true →
      DistinctKeys ChatDevice.address (change invitee).devices) : Placed (room.updateParticipant address change) := by
  constructor
  · intro other on
    obtain ⟨invitee, there, same⟩ := placed.listed other on
    refine ⟨_, mem_updateParticipant.mpr ⟨invitee, there, rfl⟩, ?_⟩
    split
    · rw [kept, same]
    · exact same
  · intro participant member missing device inside
    obtain ⟨invitee, there, same⟩ := mem_updateParticipant.mp member
    split at same
    next equal =>
      subst same
      rw [kept] at missing
      exact away invitee there equal missing device inside
    next =>
      subst same
      exact placed.away _ there missing device inside
  · intro participant member device inside
    obtain ⟨invitee, there, same⟩ := mem_updateParticipant.mp member
    split at same
    next equal =>
      subst same
      rw [kept]
      exact owned invitee there equal device inside
    next =>
      subst same
      exact placed.owned _ there device inside
  · intro participant member
    obtain ⟨invitee, there, same⟩ := mem_updateParticipant.mp member
    split at same
    next equal => exact same ▸ single invitee there equal
    next => exact same ▸ placed.single invitee there

/-- A change of the devices of one address that keeps their addresses keeps the places of all. -/
theorem Placed.updateDevice {room : ServerChatRoom} {pointer : ChatDevicePointer} {change : ChatDevice → ChatDevice}
    (placed : Placed room) (kept : ∀ device, (change device).address = device.address)
    (away : ∀ invitee ∈ room.invitedParticipants, pointer.participant.weakEqual invitee.address = true →
      invitee.address ∉ room.participants → ∀ device ∈ invitee.devices, (change device).state.isLeavingState = true) :
    Placed (room.updateDevice pointer change) := by
  have addresses : ∀ device : ChatDevice,
      (if device.address = pointer.device then change device else device).address = device.address := by
    intro device
    split
    · exact kept device
    · rfl
  refine placed.updateParticipant (fun _ => rfl) ?_ ?_ ?_
  · intro invitee member equal missing device inside
    obtain ⟨old, there, rfl⟩ := List.mem_map.mp inside
    split
    next => exact away invitee member equal missing old there
    next => exact placed.away invitee member missing old there
  · intro invitee member equal device inside
    obtain ⟨old, there, rfl⟩ := List.mem_map.mp inside
    rw [addresses]
    exact placed.owned invitee member old there
  · intro invitee member equal
    unfold DistinctKeys
    rw [List.map_map]
    have same := List.map_congr_left (l := invitee.devices) fun device _ => addresses device
    exact (congrArg List.Nodup same).mpr (placed.single invitee member)

theorem Change.formed (change : Change server guarded allowed steady before after) (formed : Formed before) : Formed after := by
  cases change with
  | output => exact ⟨formed.distinct, formed.bare⟩
  | state =>
    apply formed.updateParticipant
    exact fun _ => rfl
  | send => exact ⟨formed.distinct, formed.bare⟩
  | erase => exact ⟨formed.distinct, formed.bare⟩
  | groupchat =>
    apply formed.updateParticipant
    exact fun _ => rfl
  | admin =>
    apply formed.updateParticipant
    exact fun _ => rfl
  | others isGroup invited =>
    exact ⟨invited ▸ formed.distinct, invited ▸ formed.bare⟩
  | @invite address new =>
    have missing := List.find?_eq_none.mp new
    constructor
    · unfold DistinctKeys
      rw [List.map_append, List.nodup_append]
      refine ⟨formed.distinct, List.nodup_singleton _, ?_⟩
      intro first member second single same
      obtain ⟨participant, there, rfl⟩ := List.mem_map.mp member
      obtain rfl := List.mem_singleton.mp single
      refine missing participant there ?_
      rw [Address.weakEqual_eq_key, decide_eq_true_iff]
      exact same.symm
    · intro participant member
      rcases List.mem_append.mp member with early | new
      · exact formed.bare participant early
      · obtain rfl := List.mem_singleton.mp new
        exact Address.getUriWithoutGruu_again address
  | list => exact ⟨formed.distinct, formed.bare⟩
  | unlist => exact ⟨formed.distinct, formed.bare⟩
  | addDevice =>
    apply formed.updateParticipant
    exact fun _ => rfl
  | removeDevices =>
    apply formed.updateParticipant
    exact fun _ => rfl
  | forget => exact ⟨formed.distinct.eraseP _, fun participant member => formed.bare participant (List.mem_of_mem_eraseP member)⟩

theorem Change.placed (change : Change server guarded allowed steady before after) (live : Live guarded before)
    (placed : Placed before) : Placed after := by
  cases change with
  | output => exact ⟨placed.listed, placed.away, placed.owned, placed.single⟩
  | @state pointer state there calm =>
    refine placed.updateDevice (fun _ => rfl) fun invitee member equal missing device inside => ?_
    exact (there live).resolve_right fun lists => missing (lists invitee member equal)
  | send => exact ⟨placed.listed, placed.away, placed.owned, placed.single⟩
  | erase => exact ⟨placed.listed, placed.away, placed.owned, placed.single⟩
  | groupchat =>
    exact placed.updateDevice (fun _ => rfl) fun invitee member _ missing device inside =>
      placed.away invitee member missing device inside
  | admin =>
    exact placed.updateParticipant (fun _ => rfl) (fun invitee member _ missing => placed.away invitee member missing)
      (fun invitee member _ => placed.owned invitee member) fun invitee member _ => placed.single invitee member
  | others isGroup invited participants =>
    constructor
    · rw [invited, participants]
      exact placed.listed
    · rw [invited, participants]
      exact placed.away
    · rw [invited]
      exact placed.owned
    · rw [invited]
      exact placed.single
  | invite new =>
    constructor
    · intro address on
      obtain ⟨invitee, member, same⟩ := placed.listed address on
      exact ⟨invitee, List.mem_append_left _ member, same⟩
    · intro invitee member missing device inside
      rcases List.mem_append.mp member with early | new
      · exact placed.away invitee early missing device inside
      · obtain rfl := List.mem_singleton.mp new
        exact absurd inside List.not_mem_nil
    · intro invitee member device inside
      rcases List.mem_append.mp member with early | new
      · exact placed.owned invitee early device inside
      · obtain rfl := List.mem_singleton.mp new
        exact absurd inside List.not_mem_nil
    · intro invitee member
      rcases List.mem_append.mp member with early | new
      · exact placed.single invitee early
      · obtain rfl := List.mem_singleton.mp new
        exact List.nodup_nil
  | @list participant member =>
    constructor
    · intro address on
      rcases List.mem_append.mp on with early | new
      · exact placed.listed address early
      · obtain rfl := List.mem_singleton.mp new
        exact ⟨participant, member, rfl⟩
    · exact fun invitee member missing => placed.away invitee member fun on => missing (List.mem_append_left _ on)
    · exact placed.owned
    · exact placed.single
  | @unlist address unsteady gone =>
    constructor
    · exact fun other on => placed.listed other (List.mem_filter.mp on).1
    · intro invitee member missing
      by_cases same : invitee.address = address
      · exact gone live invitee member same
      · exact placed.away invitee member fun on => missing (List.mem_filter.mpr ⟨on, decide_eq_true same⟩)
    · exact placed.owned
    · exact placed.single
  | @addDevice address device joining calm there new =>
    obtain ⟨on, equal⟩ := there live
    refine placed.updateParticipant (fun _ => rfl) ?_ ?_ ?_
    · intro invitee member same missing
      exact absurd (on invitee member same) missing
    · intro invitee member same other inside
      rcases List.mem_append.mp inside with early | new
      · exact placed.owned invitee member other early
      · obtain rfl := List.mem_singleton.mp new
        exact Address.weakEqual_trans equal same
    · intro invitee member same
      unfold DistinctKeys
      rw [List.map_append, List.nodup_append]
      refine ⟨placed.single invitee member, List.nodup_singleton _, ?_⟩
      intro first inside second last
      obtain ⟨other, there, rfl⟩ := List.mem_map.mp inside
      obtain rfl := List.mem_singleton.mp last
      exact new live invitee member same other there
  | removeDevices =>
    exact placed.updateParticipant (fun _ => rfl)
      (fun invitee member _ missing device inside => placed.away invitee member missing device (List.mem_filter.mp inside).1)
      (fun invitee member _ device inside => placed.owned invitee member device (List.mem_filter.mp inside).1)
      fun invitee member _ => (placed.single invitee member).sublist (List.filter_sublist.map _)
  | @forget address gone =>
    constructor
    · intro other on
      obtain ⟨invitee, member, same⟩ := placed.listed other on
      refine ⟨invitee, ?_, same⟩
      unfold removeInvitedParticipant
      refine (List.mem_eraseP_of_neg ?_).mpr member
      intro equal
      exact gone live invitee member equal (same ▸ on)
    · exact fun invitee member => placed.away invitee (List.mem_of_mem_eraseP member)
    · exact fun invitee member => placed.owned invitee (List.mem_of_mem_eraseP member)
    · exact fun invitee member => placed.single invitee (List.mem_of_mem_eraseP member)

theorem Change.sound (change : Change server guarded allowed steady before after) (sound : Sound guarded before) :
    Sound guarded after :=
  ⟨change.formed sound.formed, fun live => change.placed (change.live live) (sound.placed (change.live live))⟩

theorem Evolves.sound (evolves : Evolves server guarded allowed steady before after) (sound : Sound guarded before) :
    Sound guarded after := by
  induction evolves with
  | refl => exact sound
  | tail _ change kept => exact change.sound kept

theorem Evolves.deleted (evolves : Evolves server guarded allowed steady before after) (ended : before.state = .deleted) :
    after.state = .deleted := by
  induction evolves with
  | refl => exact ended
  | tail _ change earlier => exact change.deleted earlier

theorem Evolves.live (evolves : Evolves server guarded allowed steady before after) (live : Live guarded after) :
    Live guarded before := by
  induction evolves with
  | refl => exact live
  | tail _ change earlier => exact earlier (change.live live)

theorem Change.mono {other : ParticipantDeviceState → Prop} (wider : ∀ state, allowed state → other state)
    (change : Change server guarded allowed steady before after) : Change server guarded other steady before after := by
  cases change with
  | output other called => exact .output other called
  | state there calm => exact .state there (wider _ calm)
  | send => exact .send
  | erase bare => exact .erase bare
  | groupchat => exact .groupchat
  | admin promoted => exact .admin promoted
  | others isGroup invited participants queued outputs ended => exact .others isGroup invited participants queued outputs ended
  | invite new => exact .invite new
  | list member => exact .list member
  | unlist unsteady gone => exact .unlist unsteady gone
  | addDevice joining calm there new => exact .addDevice joining (wider _ calm) there new
  | removeDevices => exact .removeDevices
  | forget gone => exact .forget gone

theorem Evolves.mono {other : ParticipantDeviceState → Prop} (wider : ∀ state, allowed state → other state)
    (evolves : Evolves server guarded allowed steady before after) : Evolves server guarded other steady before after := by
  induction evolves with
  | refl => exact .refl
  | tail _ change earlier => exact earlier.tail (change.mono wider)

/-- Steps that are each a chain of changes are one together. -/
theorem Evolves.foldl {β : Type} {step : ServerChatRoom → β → ServerChatRoom} {entries : List β} {room : ServerChatRoom}
    (kept : ServerChatRoom → Prop)
    (each : ∀ entry ∈ entries, ∀ room, Sound guarded room → kept room →
      Evolves server guarded allowed steady room (step room entry) ∧ kept (step room entry))
    (sound : Sound guarded room) (start : kept room) :
    Evolves server guarded allowed steady room (entries.foldl step room) ∧ kept (entries.foldl step room) := by
  induction entries generalizing room with
  | nil => exact ⟨.refl, start⟩
  | cons entry rest following =>
    obtain ⟨first, next⟩ := each entry List.mem_cons_self room sound start
    obtain ⟨later, final⟩ := following (fun other member => each other (List.mem_cons_of_mem _ member)) (Evolves.sound first sound) next
    exact ⟨first.trans later, final⟩

/-- What each step establishes for its entry, and all others keep, holds of all entries in the end. -/
theorem Evolves.foldl_done {β : Type} {step : ServerChatRoom → β → ServerChatRoom} {entries : List β} {room : ServerChatRoom}
    (kept : ServerChatRoom → Prop) (done : β → ServerChatRoom → Prop)
    (stable : ∀ entry before after, Evolves server guarded allowed steady before after → done entry before → done entry after)
    (each : ∀ entry ∈ entries, ∀ room, Sound guarded room → kept room →
      (Evolves server guarded allowed steady room (step room entry) ∧ kept (step room entry)) ∧ done entry (step room entry))
    (sound : Sound guarded room) (start : kept room) : ∀ entry ∈ entries, done entry (entries.foldl step room) := by
  induction entries generalizing room with
  | nil => exact fun entry member => absurd member List.not_mem_nil
  | cons entry rest following =>
    obtain ⟨⟨first, next⟩, finished⟩ := each entry List.mem_cons_self room sound start
    have later := fun other member => each other (List.mem_cons_of_mem entry member)
    intro other member
    rcases List.mem_cons.mp member with rfl | inside
    · have evolves : Evolves server guarded allowed steady (step room other) (rest.foldl step (step room other)) :=
        (Evolves.foldl kept (fun entry member room valid held => (later entry member room valid held).1) (Evolves.sound first sound)
          next).1
      exact stable other _ _ evolves finished
    · exact following later (Evolves.sound first sound) next other inside

end Kept

section Pointed

variable {server : ChatServer} {guarded steady : Prop} {allowed : ParticipantDeviceState → Prop} {room : ServerChatRoom}
  {holds : (Text → List ServerMessage) → ParticipantDeviceState → Prop} {pointer : ChatDevicePointer}

/-- What holds of the queues and of the state of every device of a pointer. -/
def Every (holds : (Text → List ServerMessage) → ParticipantDeviceState → Prop) (room : ServerChatRoom)
    (pointer : ChatDevicePointer) : Prop :=
  ∀ invitee ∈ room.invitedParticipants, pointer.participant.weakEqual invitee.address = true →
    ∀ device ∈ invitee.devices, device.address = pointer.device → holds room.queuedMessages device.state

/-- It holds of all states that are given, and of emptied queues. -/
structure Stable (allowed : ParticipantDeviceState → Prop)
    (holds : (Text → List ServerMessage) → ParticipantDeviceState → Prop) : Prop where
  given : ∀ queues state, allowed state → holds queues state
  emptied : ∀ queues uri state, holds queues state → holds (fun other => if other = uri then [] else queues other) state

theorem Every.updateParticipant {address : Address} {change : ChatParticipant → ChatParticipant}
    (every : Every holds room pointer) (kept : ∀ participant, (change participant).address = participant.address)
    (each : ∀ invitee ∈ room.invitedParticipants, ∀ device ∈ (change invitee).devices, device.address = pointer.device →
      holds room.queuedMessages device.state ∨
        ∃ old ∈ invitee.devices, old.address = pointer.device ∧ old.state = device.state) :
    Every holds (room.updateParticipant address change) pointer := by
  intro participant member equal device inside same
  obtain ⟨invitee, there, changed⟩ := mem_updateParticipant.mp member
  split at changed
  next =>
    subst changed
    rw [kept] at equal
    rcases each invitee there device inside same with fresh | ⟨old, held, before, state⟩
    · exact fresh
    · rw [← state]
      exact every invitee there equal old held before
  next =>
    subst changed
    exact every _ there equal device inside same

theorem Every.emptied (stable : Stable allowed holds) (every : Every holds room pointer) (uri : Text) :
    Every holds (room.setQueue uri []) pointer :=
  fun invitee member equal device inside same => stable.emptied _ uri _ (every invitee member equal device inside same)

theorem Change.every {before after : ServerChatRoom} (stable : Stable allowed holds)
    (change : Change server guarded allowed steady before after) (every : Every holds before pointer) : Every holds after pointer := by
  cases change with
  | output => exact every
  | @state other state there calm =>
    refine Every.updateParticipant every (fun _ => rfl) fun invitee _ device inside same => ?_
    obtain ⟨old, held, rfl⟩ := List.mem_map.mp inside
    by_cases here : old.address = other.device
    · rw [if_pos here]
      exact .inl (stable.given _ state calm)
    · rw [if_neg here] at same ⊢
      exact .inr ⟨old, held, same, rfl⟩
  | send => exact Every.emptied stable every _
  | erase => exact Every.emptied stable every _
  | @groupchat other version =>
    refine Every.updateParticipant every (fun _ => rfl) fun invitee _ device inside same => ?_
    obtain ⟨old, held, rfl⟩ := List.mem_map.mp inside
    refine .inr ⟨old, held, ?_⟩
    by_cases here : old.address = other.device
    · rw [if_pos here] at same ⊢
      exact ⟨same, rfl⟩
    · rw [if_neg here] at same ⊢
      exact ⟨same, rfl⟩
  | admin =>
    exact Every.updateParticipant every (fun _ => rfl) fun invitee _ device inside same => .inr ⟨device, inside, same, rfl⟩
  | others isGroup invited participants queued =>
    intro participant member
    rw [invited] at member
    rw [queued]
    exact every participant member
  | invite =>
    intro participant member equal device inside same
    rcases List.mem_append.mp member with early | new
    · exact every participant early equal device inside same
    · obtain rfl := List.mem_singleton.mp new
      exact absurd inside List.not_mem_nil
  | list => exact every
  | unlist => exact every
  | @addDevice address added joining calm =>
    refine Every.updateParticipant every (fun _ => rfl) fun invitee _ device inside same => ?_
    rcases List.mem_append.mp inside with early | new
    · exact .inr ⟨device, early, same, rfl⟩
    · obtain rfl := List.mem_singleton.mp new
      exact .inl (joining ▸ stable.given _ _ calm)
  | removeDevices =>
    exact Every.updateParticipant every (fun _ => rfl) fun invitee _ device inside same =>
      .inr ⟨device, (List.mem_filter.mp inside).1, same, rfl⟩
  | forget => exact fun participant member => every participant (List.mem_of_mem_eraseP member)

theorem Evolves.every {before after : ServerChatRoom} (stable : Stable allowed holds)
    (evolves : Evolves server guarded allowed steady before after) (every : Every holds before pointer) :
    Every holds after pointer := by
  induction evolves with
  | refl => exact every
  | tail _ change earlier => exact change.every stable earlier

/-- Only leaving states are given to the devices of a participant that is removed. -/
def Leaving (state : ParticipantDeviceState) : Prop := state.isLeavingState = true

end Pointed

end Liblinphone.ServerChatRoom
