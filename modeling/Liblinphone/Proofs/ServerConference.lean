import Liblinphone.Proofs.DeviceEndpoints
import Liblinphone.ServerConferenceEventHandler

/-! What an operation does to the conference on the server. Either it does nothing
or it makes one change, stores the event of the change and bumps the version.
Participants stay apart, and so do the devices of each. -/

namespace Liblinphone
open Library

/-- A participant as the server holds it. -/
structure Participant.Sound (sip : BelleSip) (participant : Participant) : Prop where
  pruned : participant.address.getUriWithoutGruu = participant.address
  bare : ∀ device ∈ participant.deviceAddresses, device.getUri = device
  apart : DevicesApart sip participant.deviceAddresses

theorem Participant.Sound.removeDevice {sip : BelleSip} {participant : Participant} (sound : participant.Sound sip) (gruu : Address) :
    (participant.removeDevice sip gruu).Sound sip := by
  have fewer : (participant.removeDevice sip gruu).deviceAddresses.Sublist participant.deviceAddresses :=
    List.filter_sublist.map _
  exact ⟨sound.pruned, fun device member => sound.bare device (fewer.subset member), sound.apart.sublist fewer⟩

namespace ServerConference

variable {sip : BelleSip}

structure Valid (sip : BelleSip) (server : ServerConference) : Prop where
  distinct : DistinctKeys Participant.key server.participants
  sound : ∀ participant ∈ server.participants, participant.Sound sip
  focus : ∀ participant ∈ server.participants, server.isMe sip participant.address = false
  numbered : ∀ event ∈ server.events, event.notifyId ≤ server.lastNotify

/-- Put a participant in the place of the one that has its address. -/
def storeParticipant (server : ServerConference) (participant : Participant) : ServerConference :=
  server.updateParticipant participant.address fun _ => participant

/-- A change and its event. -/
inductive Change (sip : BelleSip) (server : ServerConference) : ConferenceEvent → ServerConference → Prop where
  | added {participant : Participant} (sound : participant.Sound sip)
      (unknown : findParticipant server.participants participant.address = none)
      (focus : server.isMe sip participant.address = false) :
      Change sip server (.participantAdded participant.address)
        { server with participants := server.participants ++ [participant] }
  | removed {participant : Participant}
      (found : findParticipant server.participants participant.address = some participant) :
      Change sip server (.participantRemoved participant.address)
        { server with
          participants := server.participants.eraseP fun other => other.address.weakEqual participant.address }
  | admin {participant : Participant} (isAdmin : Bool)
      (found : findParticipant server.participants participant.address = some participant) :
      Change sip server
        (if isAdmin then .participantSetAdmin participant.address else .participantUnsetAdmin participant.address)
        (server.storeParticipant { participant with isAdmin := isAdmin })
  | deviceAdded {participant : Participant} {device : ParticipantDevice}
      (found : findParticipant server.participants participant.address = some participant)
      (bare : device.address.getUri = device.address)
      (fresh : ∀ other ∈ participant.deviceAddresses, sip.uriEquals other device.address = false) :
      Change sip server (.participantDeviceAdded participant.address device.address)
        (server.storeParticipant { participant with devices := participant.devices ++ [device] })
  | deviceRemoved {participant : Participant} {gruu : Address}
      (found : findParticipant server.participants participant.address = some participant)
      (present : gruu ∈ participant.deviceAddresses) :
      Change sip server (.participantDeviceRemoved participant.address gruu)
        (server.storeParticipant (participant.removeDevice sip gruu))
  | subject (subject : String) :
      Change sip server (.subjectChanged subject) { server with subject := subject }

theorem weakEqual_iff_found {participants : List Participant} {address : Address} {participant : Participant}
    (found : findParticipant participants address = some participant) :
    (fun other : Participant => other.address.weakEqual address) =
      fun other => other.address.weakEqual participant.address := by
  funext other
  rw [Address.weakEqual_comm other.address, Address.weakEqual_comm other.address,
    Address.weakEqual_congr (findParticipant_named found)]

/-- The participant found for an address is found for its own, and it is the one
that an update changes. -/
theorem updateParticipant_found {server : ServerConference} {address : Address} {participant : Participant}
    (found : findParticipant server.participants address = some participant) (change : Participant → Participant)
    (kept : (change participant).address = participant.address) :
    findParticipant server.participants participant.address = some participant ∧
      server.updateParticipant address change = server.storeParticipant (change participant) := by
  have named := findParticipant_named found
  refine ⟨(findParticipant_congr named _).trans found, ?_⟩
  simp only [storeParticipant, updateParticipant, kept]
  rw [updateFirst_found found change, weakEqual_iff_found found]

theorem keepDevice_fresh {devices : List ParticipantDevice} {device : ParticipantDevice}
    (fresh : (devices.any fun other => sip.uriEquals other.address device.address) = false) :
    keepDevice sip devices device = devices ++ [{ device with address := device.address.getUri }] := by
  simp [keepDevice, fresh]

theorem keepDevice_sound (lawful : sip.Lawful) {devices : List ParticipantDevice}
    (bare : ∀ device ∈ devices.map (·.address), device.getUri = device)
    (apart : DevicesApart sip (devices.map (·.address))) (device : ParticipantDevice) :
    (∀ kept ∈ (keepDevice sip devices device).map (·.address), kept.getUri = kept) ∧
      DevicesApart sip ((keepDevice sip devices device).map (·.address)) := by
  cases fresh : devices.any fun other => sip.uriEquals other.address device.address with
  | true =>
    simp only [keepDevice, fresh, ↓reduceIte]
    exact ⟨bare, apart⟩
  | false =>
    rw [keepDevice_fresh fresh, List.map_append]
    refine ⟨fun kept member => ?_, List.pairwise_append.mpr ⟨apart, by simp, ?_⟩⟩
    · rcases List.mem_append.mp member with before | single
      · exact bare kept before
      · obtain rfl : kept = device.address.getUri := by simpa using single
        rfl
    · intro other member added single
      obtain rfl : added = device.address.getUri := by simpa using single
      obtain ⟨held, inside, rfl⟩ := List.mem_map.mp member
      rw [lawful.uriEquals_getUri]
      simpa using List.any_eq_false.mp fresh held inside

theorem keepDevices_sound (lawful : sip.Lawful) (devices : List ParticipantDevice) :
    (∀ kept ∈ (devices.foldl (keepDevice sip) []).map (·.address), kept.getUri = kept) ∧
      DevicesApart sip ((devices.foldl (keepDevice sip) []).map (·.address)) := by
  have gathered (kept : List ParticipantDevice) (bare : ∀ device ∈ kept.map (·.address), device.getUri = device)
      (apart : DevicesApart sip (kept.map (·.address))) :
      (∀ device ∈ (devices.foldl (keepDevice sip) kept).map (·.address), device.getUri = device) ∧
        DevicesApart sip ((devices.foldl (keepDevice sip) kept).map (·.address)) := by
    induction devices generalizing kept with
    | nil => exact ⟨bare, apart⟩
    | cons device rest ih =>
      obtain ⟨nextBare, nextApart⟩ := keepDevice_sound lawful bare apart device
      exact ih _ nextBare nextApart
  exact gathered [] (by simp) .nil

/-- An operation does nothing, or it makes a change and stores the event. -/
theorem step_cases (lawful : sip.Lawful) (server : ServerConference) (operation : ServerOperation) :
    server.step sip operation = server ∨
      ∃ event changed, Change sip server event changed ∧ server.step sip operation = changed.notifyEvent event := by
  cases operation with
  | addParticipant invited =>
    simp only [step, addParticipantToList]
    split
    · exact .inl rfl
    next unknown =>
      simp only [Bool.or_eq_true, not_or, Bool.not_eq_true, Option.isSome_eq_false_iff,
        Option.isNone_iff_eq_none] at unknown
      obtain ⟨bare, apart⟩ := keepDevices_sound lawful invited.devices
      have sound : Participant.Sound sip { invited with
          address := invited.address.getUriWithoutGruu
          devices := invited.devices.foldl (keepDevice sip) [] } :=
        ⟨Address.getUriWithoutGruu_again _, bare, apart⟩
      refine .inr ⟨_, _, .added sound ?_ ?_, rfl⟩
      · exact (findParticipant_congr (by simp) _).trans unknown.2
      · simpa only [isMe, Address.getUriWithoutGruu_again] using unknown.1
  | removeParticipant address =>
    simp only [step, removeParticipant]
    cases found : findParticipant server.participants address with
    | none => exact .inl rfl
    | some participant =>
      have named := findParticipant_named found
      rw [weakEqual_iff_found found]
      exact .inr ⟨_, _, .removed ((findParticipant_congr named _).trans found), rfl⟩
  | setParticipantAdminStatus address isAdmin =>
    simp only [step, setParticipantAdminStatus]
    cases found : findParticipant server.participants address with
    | none => exact .inl rfl
    | some participant =>
      obtain ⟨itself, stored⟩ := updateParticipant_found found
        (fun participant => { participant with isAdmin := isAdmin }) rfl
      simp only
      split
      · exact .inl rfl
      · rw [stored]
        exact .inr ⟨_, _, .admin isAdmin itself, rfl⟩
  | addParticipantDevice address device =>
    simp only [step, addParticipantDevice]
    cases found : findParticipant server.participants address with
    | none => exact .inl rfl
    | some participant =>
      simp only
      split
      · exact .inl rfl
      next unknown =>
        rw [Participant.findDevice, List.isSome_find?, Bool.not_eq_true] at unknown
        obtain ⟨itself, stored⟩ := updateParticipant_found found
          (fun participant => { participant with devices := keepDevice sip participant.devices device }) rfl
        rw [stored]
        simp only [keepDevice_fresh unknown]
        refine .inr ⟨_, _, .deviceAdded itself rfl ?_, rfl⟩
        intro other member
        obtain ⟨held, inside, rfl⟩ := List.mem_map.mp member
        rw [lawful.uriEquals_getUri]
        simpa using List.any_eq_false.mp unknown held inside
  | removeParticipantDevice address device =>
    simp only [step, removeParticipantDevice]
    cases found : findParticipant server.participants address with
    | none => exact .inl rfl
    | some participant =>
      simp only
      split
      next present =>
        obtain ⟨itself, stored⟩ := updateParticipant_found found
          (fun participant => participant.removeDevice sip device) rfl
        rw [stored]
        obtain ⟨held, inside, same⟩ := List.any_eq_true.mp present
        refine .inr ⟨_, _, .deviceRemoved itself (List.mem_map.mpr ⟨held, inside, by simpa using same⟩), rfl⟩
      · exact .inl rfl
  | setUtf8Subject subject =>
    simp only [step, setUtf8Subject]
    split
    · exact .inl rfl
    · exact .inr ⟨_, _, .subject subject, rfl⟩

section Valid

variable {server changed : ServerConference} {event : ConferenceEvent}

theorem Valid.notifyEvent (valid : changed.Valid sip) (event : ConferenceEvent) :
    (changed.notifyEvent event).Valid sip where
  distinct := valid.distinct
  sound := valid.sound
  focus := valid.focus
  numbered := by
    intro stored member
    rcases List.mem_append.mp member with before | single
    · exact (valid.numbered stored before).trans (Nat.le_succ _)
    · obtain rfl : stored = ⟨changed.lastNotify + 1, event⟩ := by simpa using single
      exact le_refl _

theorem Valid.storeParticipant (valid : server.Valid sip) {participant : Participant} (sound : participant.Sound sip)
    (focus : server.isMe sip participant.address = false) : (server.storeParticipant participant).Valid sip where
  distinct := storeParticipant_distinct valid.distinct (by simp)
  sound := by
    intro other member
    rcases mem_updateFirst member with before | ⟨-, -, rfl⟩
    · exact valid.sound other before
    · exact sound
  focus := by
    intro other member
    rcases mem_updateFirst member with before | ⟨-, -, rfl⟩
    · exact valid.focus other before
    · exact focus
  numbered := valid.numbered

theorem Change.valid (valid : server.Valid sip) (change : Change sip server event changed) : changed.Valid sip := by
  cases change with
  | added sound unknown focus =>
    refine ⟨valid.distinct.append ((findParticipant_eq _ _).symm.trans unknown), ?_, ?_, valid.numbered⟩
    · intro other member
      rcases List.mem_append.mp member with before | single
      · exact valid.sound other before
      · exact (List.mem_singleton.mp single) ▸ sound
    · intro other member
      rcases List.mem_append.mp member with before | single
      · exact valid.focus other before
      · exact (List.mem_singleton.mp single) ▸ focus
  | removed found =>
    exact ⟨valid.distinct.eraseP _, fun other member => valid.sound other (List.mem_of_mem_eraseP member),
      fun other member => valid.focus other (List.mem_of_mem_eraseP member), valid.numbered⟩
  | admin isAdmin found =>
    have member := findParticipant_mem found
    have sound := valid.sound _ member
    have focus := valid.focus _ member
    exact valid.storeParticipant ⟨sound.pruned, sound.bare, sound.apart⟩ focus
  | @deviceAdded participant device found bare fresh =>
    have member := findParticipant_mem found
    have sound := valid.sound _ member
    have focus := valid.focus _ member
    refine valid.storeParticipant ⟨sound.pruned, ?_, ?_⟩ focus
    · intro other inside
      simp only [Participant.deviceAddresses, List.map_append, List.mem_append] at inside
      rcases inside with before | single
      · exact sound.bare other before
      · obtain rfl : other = device.address := by simpa using single
        exact bare
    · simp only [Participant.deviceAddresses, List.map_append]
      refine List.pairwise_append.mpr ⟨sound.apart, by simp, ?_⟩
      intro other inside added single
      obtain rfl : added = device.address := by simpa using single
      exact fresh other inside
  | deviceRemoved found present =>
    have member := findParticipant_mem found
    have focus := valid.focus _ member
    exact valid.storeParticipant ((valid.sound _ member).removeDevice _) focus
  | subject subject => exact ⟨valid.distinct, valid.sound, valid.focus, valid.numbered⟩

/-- A run of the server as the changes it made, with the events it stored. -/
inductive Stores (sip : BelleSip) : ServerConference → List ConferenceNotifiedEvent → ServerConference → Prop where
  | nothing (server : ServerConference) : Stores sip server [] server
  | next {server changed final : ServerConference} {event : ConferenceEvent} {later : List ConferenceNotifiedEvent}
      (change : Change sip server event changed) (rest : Stores sip (changed.notifyEvent event) later final) :
      Stores sip server (⟨server.lastNotify + 1, event⟩ :: later) final

theorem perform_stores (lawful : sip.Lawful) (operations : List ServerOperation) (server : ServerConference) :
    ∃ stored, Stores sip server stored (server.perform sip operations) := by
  induction operations generalizing server with
  | nil => exact ⟨[], .nothing server⟩
  | cons operation rest ih =>
    obtain ⟨stored, run⟩ := ih (server.step sip operation)
    rcases step_cases lawful server operation with idle | ⟨event, changed, change, result⟩
    · rw [idle] at run
      refine ⟨stored, ?_⟩
      simpa only [perform, List.foldl_cons, idle] using run
    · rw [result] at run
      refine ⟨⟨server.lastNotify + 1, event⟩ :: stored, .next change ?_⟩
      simpa only [perform, List.foldl_cons, result] using run

/-- A change leaves the version, the events and the addresses of the conference
alone. -/
theorem Change.frame (change : Change sip server event changed) :
    changed.lastNotify = server.lastNotify ∧ changed.events = server.events ∧ changed.me = server.me ∧
      changed.conferenceAddress = server.conferenceAddress := by
  cases change <;> exact ⟨rfl, rfl, rfl, rfl⟩

theorem Stores.frame {final : ServerConference} {stored : List ConferenceNotifiedEvent}
    (run : Stores sip server stored final) :
    final.me = server.me ∧ final.conferenceAddress = server.conferenceAddress := by
  induction run with
  | nothing => exact ⟨rfl, rfl⟩
  | next change rest ih =>
    obtain ⟨-, -, me, address⟩ := change.frame
    exact ⟨ih.1.trans me, ih.2.trans address⟩

/-- The events are stored in order, and the last one has the version of the
conference. -/
theorem Stores.events {final : ServerConference} {stored : List ConferenceNotifiedEvent}
    (run : Stores sip server stored final) :
    final.events = server.events ++ stored ∧ (∀ event ∈ stored, server.lastNotify < event.notifyId) ∧
      final.lastNotify = stored.foldl (fun _ event => event.notifyId) server.lastNotify := by
  induction run with
  | nothing => simp
  | next change rest ih =>
    obtain ⟨version, events, -, -⟩ := change.frame
    obtain ⟨grown, newer, last⟩ := ih
    simp only [notifyEvent, version, events] at grown newer last
    refine ⟨by rw [grown, List.append_assoc]; rfl, ?_, last⟩
    intro event member
    rcases List.mem_cons.mp member with rfl | inside
    · exact Nat.lt_succ_self _
    · exact (Nat.lt_succ_self _).trans (newer event inside)

theorem Stores.lastNotify {final : ServerConference} {stored : List ConferenceNotifiedEvent}
    (run : Stores sip server stored final) :
    stored.foldl (fun _ event => event.notifyId) final.lastNotify = final.lastNotify := by
  obtain ⟨-, -, last⟩ := run.events
  cases stored with
  | nil => rfl
  | cons event later => exact last.symm

theorem Stores.valid {final : ServerConference} {stored : List ConferenceNotifiedEvent}
    (run : Stores sip server stored final) (valid : server.Valid sip) : final.Valid sip := by
  induction run with
  | nothing => exact valid
  | next change rest ih => exact ih ((change.valid valid).notifyEvent _)

/-- A client that knows a version is sent the events stored since. -/
theorem Stores.getConferenceNotifiedEvents {final : ServerConference} {stored : List ConferenceNotifiedEvent}
    (run : Stores sip server stored final) (valid : server.Valid sip) :
    final.getConferenceNotifiedEvents server.lastNotify = stored := by
  obtain ⟨grown, newer, -⟩ := run.events
  rw [ServerConference.getConferenceNotifiedEvents, grown, List.filter_append,
    List.filter_eq_nil_iff.mpr fun event member => by simpa using valid.numbered event member,
    List.filter_eq_self.mpr fun event member => by simpa using newer event member, List.nil_append]

end Valid

/-- The documents are written from what the conference holds, each in the version
of its event. -/
theorem appendNotify_fold (sip : BelleSip) (stored : List ConferenceNotifiedEvent) (documents : List ConferenceType)
    (server : ServerConference) :
    stored.foldl (appendNotify sip) (documents, server) =
      (documents ++ stored.map fun event =>
          { server with lastNotify := event.notifyId }.createNotifyOf sip event.event,
        { server with lastNotify := stored.foldl (fun _ event => event.notifyId) server.lastNotify }) := by
  induction stored generalizing documents server with
  | nil => simp
  | cons event rest ih => simp [appendNotify, ih]

end ServerConference

end Liblinphone
