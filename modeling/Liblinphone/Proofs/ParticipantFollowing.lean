import Liblinphone.Proofs.DeviceEndpoints
import Liblinphone.ServerConferenceEventHandler

/-! A participant of a client that catches up. The documents are written from what
the server holds in the end, so between two of them the participant is partly the
one of that moment and partly the one of the end. -/

namespace Liblinphone
open Library

/-- The devices that the server holds in the end. -/
def endDevices (ending : Option Participant) : List ParticipantDevice := (ending.map (·.devices)).getD []

def endAddresses (ending : Option Participant) : List Address := (endDevices ending).map (·.address)

/-- A participant of the client while it catches up with one of the server. What
it holds of a device is what the server holds then or in the end, unless the
server then has another device in its place. -/
structure Following (sip : BelleSip) (ending : Option Participant) (client server : Participant) : Prop where
  address : client.address = server.address
  admin : client.isAdmin = server.isAdmin ∨ client.isAdmin = ending.any (·.isAdmin)
  apart : DevicesApart sip client.deviceAddresses
  within : ∀ device ∈ client.deviceAddresses, device ∈ server.deviceAddresses ∨ device ∈ endAddresses ending
  covered : ∀ device ∈ server.devices, ∀ known ∈ endDevices ending, known.address = device.address →
    known.dialog = device.dialog → device.address ∈ client.deviceAddresses
  dialogs : ∀ device ∈ client.devices,
    (∀ held ∈ server.devices, sip.uriEquals device.address held.address = true → held.address = device.address) →
    ∀ known ∈ endDevices ending, known.address = device.address →
      device.dialog = known.dialog ∨ ∃ held ∈ server.devices, held.address = device.address ∧ held.dialog = device.dialog

/-- No two devices have the call id of one that is called. -/
def CallsApart (devices : List ParticipantDevice) : Prop :=
  ∀ known ∈ devices, callInfoOf known.dialog ≠ none →
    ∀ other ∈ devices, other.dialog.callId = known.dialog.callId → other.address = known.address

/-- What holds of the devices in the end. -/
structure EndingDevices (sip : BelleSip) (ending : Option Participant) : Prop where
  apart : DevicesApart sip (endAddresses ending)
  bare : ∀ device ∈ endAddresses ending, device.getUri = device
  calls : CallsApart (endDevices ending)

theorem callInfoOf_eq {dialog given : SipDialogId} (called : callInfoOf dialog = some given) : given = dialog := by
  unfold callInfoOf at called
  split at called
  · exact (Option.some.inj called).symm
  · simp at called

/-- A dialog that is not sent has nothing in it. -/
theorem callInfoOf_getD (dialog : SipDialogId) : (callInfoOf dialog).getD {} = dialog := by
  obtain ⟨callId, fromTag, toTag⟩ := dialog
  unfold callInfoOf
  split
  · rfl
  next empty =>
    simp only [bne_iff_ne, ne_eq, Bool.or_eq_true, not_or, not_not] at empty
    simp [empty]

/-- The device of the end that is looked for is the one that has the address. -/
theorem EndingDevices.found {sip : BelleSip} {ending : Option Participant} {known : ParticipantDevice}
    (ends : EndingDevices sip ending) (lawful : sip.Lawful) (inside : known ∈ endDevices ending) :
    ((endDevices ending).find? fun device => sip.uriEquals device.address known.address) = some known := by
  have hit : ((endDevices ending).find? fun device => sip.uriEquals device.address known.address).isSome = true := by
    rw [List.isSome_find?]
    exact List.any_eq_true.mpr ⟨known, inside, lawful.refl _⟩
  obtain ⟨found, finds⟩ := Option.isSome_iff_exists.mp hit
  have similar : sip.uriEquals found.address known.address = true := by simpa using List.find?_some finds
  rw [finds, ends.apart.same lawful (List.mem_of_find?_eq_some finds) inside similar]

namespace Following

variable {sip : BelleSip} {now : Int} {conference : ClientConference} {isMe : Bool} {ending : Option Participant}
  {client server : Participant} {endpoint : EndpointType} {gruu : Address}

/-- A device that stays to the end as it is has the dialog of the end. -/
theorem dialog_known (follows : Following sip ending client server) (lawful : sip.Lawful)
    (apart : DevicesApart sip server.deviceAddresses) {device known : ParticipantDevice} (there : device ∈ server.devices)
    (inside : known ∈ endDevices ending) (same : known.address = device.address) (kept : known.dialog = device.dialog) :
    ∃ held ∈ client.devices, held.address = device.address ∧ held.dialog = known.dialog := by
  obtain ⟨held, member, named⟩ := List.mem_map.mp (follows.covered device there known inside same kept)
  refine ⟨held, member, named, ?_⟩
  have alone : ∀ other ∈ server.devices, sip.uriEquals held.address other.address = true →
      other.address = held.address := by
    intro other present similar
    rw [named] at similar ⊢
    rw [apart.same lawful there present similar]
  rcases follows.dialogs held member alone known inside (same.trans named.symm) with equal | ⟨other, present, address, dialog⟩
  · exact equal
  · have single : other = device := apart.same lawful present there (by rw [address, named]; exact lawful.refl _)
    rw [← dialog, single, kept]

/-- What the two copies of a participant agree on. -/
def deviceDialogs (participant : Participant) : List (Address × SipDialogId) :=
  participant.devices.map fun device => (device.address, device.dialog)

theorem removeDevice (follows : Following sip ending client server) (lawful : sip.Lawful)
    (ends : EndingDevices sip ending) (apart : DevicesApart sip server.deviceAddresses)
    (present : gruu ∈ server.deviceAddresses) (entity : endpoint.entity = some gruu)
    (deleted : endpoint.state = .deleted)
    (callInfo : endpoint.callInfo =
      ((endDevices ending).find? fun device => sip.uriEquals device.address gruu).bind fun known =>
        callInfoOf known.dialog) :
    Following sip ending (endpointApplied sip now isMe conference client endpoint) (server.removeDevice sip gruu) := by
  obtain ⟨kept, applied, without⟩ := @endpointApplied_deleted sip now conference isMe endpoint gruu client lawful entity
    deleted
  have remaining (device : ParticipantDevice) : device ∈ (server.removeDevice sip gruu).devices ↔
      device ∈ server.devices ∧ sip.uriEquals device.address gruu = false := by
    simp [Participant.removeDevice, lawful.bare]
  rw [applied]
  refine ⟨follows.address, follows.admin, ?_, ?_, ?_, ?_⟩
  · exact List.Pairwise.sublist (without.sublist.map _) follows.apart
  · intro device member
    obtain ⟨held, inside, rfl⟩ := List.mem_map.mp member
    refine (follows.within held.address (List.mem_map.mpr ⟨held, without.sublist.subset inside, rfl⟩)).imp ?_ id
    intro there
    obtain ⟨other, before, same⟩ := List.mem_map.mp there
    refine List.mem_map.mpr ⟨other, (remaining other).mpr ⟨before, ?_⟩, same⟩
    rw [same]
    exact without.dissimilar held inside
  · intro device there known inside same equal
    obtain ⟨before, dissimilar⟩ := (remaining device).mp there
    obtain ⟨held, member, named, dialog⟩ := follows.dialog_known lawful apart before inside same equal
    rw [← named] at dissimilar
    refine List.mem_map.mpr ⟨held, without.stays held member dissimilar fun given called identical => ?_, named⟩
    rw [callInfo] at called
    obtain ⟨ended, found, sent⟩ := Option.bind_eq_some_iff.mp called
    have similar : sip.uriEquals ended.address gruu = true := by simpa using List.find?_some found
    have alike := ends.calls ended (List.mem_of_find?_eq_some found) (by simp [sent]) known inside
      (by rw [← dialog, identical, callInfoOf_eq sent])
    rw [named, ← same, alike, similar] at dissimilar
    simp at dissimilar
  · intro device member alone known inside same
    have separate := without.dissimilar device member
    have before : ∀ held ∈ server.devices, sip.uriEquals device.address held.address = true →
        held.address = device.address := by
      intro held there similar
      cases near : sip.uriEquals held.address gruu with
      | false => exact alone held ((remaining held).mpr ⟨there, near⟩) similar
      | true =>
        obtain rfl := apart.unique lawful (List.mem_map.mpr ⟨held, there, rfl⟩) present near
        simp [separate] at similar
    refine (follows.dialogs device (without.sublist.subset member) before known inside same).imp id ?_
    rintro ⟨held, there, address, dialog⟩
    exact ⟨held, (remaining held).mpr ⟨there, address ▸ separate⟩, address, dialog⟩

theorem addDevice (follows : Following sip ending client server) (lawful : sip.Lawful)
    (ends : EndingDevices sip ending) (fresh : ∀ device ∈ server.deviceAddresses, sip.uriEquals device gruu = false)
    (bare : gruu.getUri = gruu) {added : ParticipantDevice} (named : added.address = gruu)
    (entity : endpoint.entity = some gruu) (full : endpoint.state = .full)
    (callInfo : endpoint.callInfo =
      ((endDevices ending).find? fun device => sip.uriEquals device.address gruu).bind fun known =>
        callInfoOf known.dialog) :
    Following sip ending (endpointApplied sip now isMe conference client endpoint)
      { server with devices := server.devices ++ [added] } := by
  have addresses := @devicesWith_addresses sip gruu (deviceNotified sip now conference isMe endpoint)
    (fun device => deviceNotified_address device) bare client.devices
  have stays (device : Address) (member : device ∈ client.deviceAddresses) :
      device ∈ (devicesWith sip gruu (deviceNotified sip now conference isMe endpoint) client.devices).map (·.address) := by
    rw [addresses]
    split
    · exact member
    · exact List.mem_append_left _ member
  rw [endpointApplied_full entity full]
  refine ⟨follows.address, follows.admin, ?_, ?_, ?_, ?_⟩
  · simp only [Participant.deviceAddresses, addresses]
    split
    · exact follows.apart
    next absent =>
      refine List.pairwise_append.mpr ⟨follows.apart, by simp, ?_⟩
      intro device member other single
      obtain rfl : other = gruu := by simpa using single
      obtain ⟨held, inside, rfl⟩ := List.mem_map.mp member
      simp only [List.any_eq_true, not_exists, not_and, Bool.not_eq_true] at absent
      exact absent held inside
  · intro device member
    have grown : device ∈ server.deviceAddresses ∨ device = gruu →
        device ∈ { server with devices := server.devices ++ [added] : Participant }.deviceAddresses := by
      simp [Participant.deviceAddresses, named, or_comm]
    simp only [Participant.deviceAddresses, addresses] at member
    split at member
    · exact (follows.within device member).imp (fun there => grown (.inl there)) id
    · rcases List.mem_append.mp member with before | single
      · exact (follows.within device before).imp (fun there => grown (.inl there)) id
      · exact .inl (grown (.inr (by simpa using single)))
  · intro device there known inside same equal
    rcases List.mem_append.mp there with before | single
    · exact stays _ (follows.covered device before known inside same equal)
    · obtain rfl : device = added := by simpa using single
      simp only [Participant.deviceAddresses, addresses, named]
      split
      next present =>
        obtain ⟨held, member, similar⟩ := List.any_eq_true.mp present
        have listed : held.address ∈ client.deviceAddresses := List.mem_map.mpr ⟨held, member, rfl⟩
        rcases follows.within held.address listed with before | ends'
        · simp [fresh held.address before] at similar
        · have target : gruu ∈ endAddresses ending := List.mem_map.mpr ⟨known, inside, same.trans named⟩
          exact ends.apart.unique lawful ends' target similar ▸ listed
      next absent => exact List.mem_append_right _ (by simp)
  · intro device member alone known inside same
    have earlier : ∀ held ∈ server.devices, sip.uriEquals device.address held.address = true →
        held.address = device.address := fun held there => alone held (List.mem_append_left _ there)
    rcases mem_devicesWith lawful follows.apart bare member with ⟨before, -⟩ | ⟨located, rfl, similar, source⟩
    · refine (follows.dialogs device before earlier known inside same).imp id ?_
      rintro ⟨held, there, address, dialog⟩
      exact ⟨held, List.mem_append_left _ there, address, dialog⟩
    · rw [deviceNotified_address] at alone earlier same
      have itself : gruu = located.address := named ▸ alone added (by simp) (by rw [named]; exact similar)
      have started : located.dialog = known.dialog ∨ located.dialog = {} := by
        rcases source with before | rfl
        · refine .inl ((follows.dialogs located before earlier known inside same).resolve_right ?_)
          rintro ⟨held, there, address, -⟩
          have dissimilar := fresh held.address (List.mem_map.mpr ⟨held, there, rfl⟩)
          simp [address, similar] at dissimilar
        · exact .inr rfl
      left
      rw [deviceNotified_dialog, callInfo, itself, ← same, ends.found lawful inside, Option.bind_some]
      rcases started with equal | empty
      · rw [equal]
        cases sent : callInfoOf known.dialog with
        | none => rfl
        | some given => exact callInfoOf_eq sent
      · rw [empty, callInfoOf_getD]

/-- In the end both have the same devices and the same admin flag. -/
theorem finished (follows : Following sip (some server) client server) (lawful : sip.Lawful)
    (apart : DevicesApart sip server.deviceAddresses) :
    client.address = server.address ∧ client.isAdmin = server.isAdmin ∧
      (deviceDialogs client).Perm (deviceDialogs server) := by
  have nodup {participant : Participant} (apart : DevicesApart sip participant.deviceAddresses) :
      (deviceDialogs participant).Nodup := by
    refine List.Nodup.of_map Prod.fst ?_
    rw [deviceDialogs, List.map_map]
    exact apart.nodup lawful
  refine ⟨follows.address, ?_, ?_⟩
  · rcases follows.admin with same | same
    · exact same
    · simpa using same
  · refine (List.perm_ext_iff_of_nodup (nodup follows.apart) (nodup apart)).mpr fun entry => ⟨fun member => ?_, ?_⟩
    · obtain ⟨held, inside, rfl⟩ := List.mem_map.mp member
      obtain ⟨device, there, same⟩ := List.mem_map.mp
        ((follows.within held.address (List.mem_map.mpr ⟨held, inside, rfl⟩)).elim id id)
      obtain ⟨other, listed, named, dialog⟩ := follows.dialog_known lawful apart there there rfl rfl
      obtain rfl : other = held := follows.apart.same lawful listed inside
        (by rw [named, ← same]; exact lawful.refl _)
      exact List.mem_map.mpr ⟨device, there, by rw [same, dialog]⟩
    · intro member
      obtain ⟨device, there, rfl⟩ := List.mem_map.mp member
      obtain ⟨held, inside, named, dialog⟩ := follows.dialog_known lawful apart there there rfl rfl
      exact List.mem_map.mpr ⟨held, inside, by rw [named, dialog]⟩

/-- The device that the client makes of one that the server holds. -/
def deviceMade (sip : BelleSip) (now : Int) (conference : ClientConference) (isMe : Bool) (device : ParticipantDevice) :
    ParticipantDevice :=
  deviceNotified sip now conference isMe (endpointOf device device.address .full) (.create device.address "")

theorem devices_made (devices : List ParticipantDevice) (participant : Participant)
    (apart : DevicesApart sip (participant.deviceAddresses ++ devices.map (·.address)))
    (bare : ∀ device ∈ devices, device.address.getUri = device.address) :
    (devices.map fun device => endpointOf device device.address .full).foldl
        (endpointApplied sip now isMe conference) participant =
      { participant with devices := participant.devices ++ devices.map (deviceMade sip now conference isMe) } := by
  induction devices generalizing participant with
  | nil => simp
  | cons device rest ih =>
    have absent : (participant.devices.any fun other => sip.uriEquals other.address device.address) = false := by
      refine List.any_eq_false.mpr fun other inside => ?_
      have cross := (List.pairwise_append.mp apart).2.2 other.address (List.mem_map.mpr ⟨other, inside, rfl⟩)
        device.address (by simp)
      simp [cross]
    have step : endpointApplied sip now isMe conference participant (endpointOf device device.address .full) =
        { participant with devices := participant.devices ++ [deviceMade sip now conference isMe device] } := by
      rw [endpointApplied_full rfl rfl]
      simp only [devicesWith, absent, Bool.false_eq_true, ↓reduceIte, deviceMade]
    have address : (deviceMade sip now conference isMe device).address = device.address := by
      simp [deviceMade, ParticipantDevice.create, bare device]
    rw [List.map_cons, List.foldl_cons, step, ih]
    · simp
    · simpa [Participant.deviceAddresses, address] using apart
    · exact fun other inside => bare other (by simp [inside])

theorem added (lawful : sip.Lawful) (ends : EndingDevices sip ending) (empty : client.devices = [])
    (admin : client.isAdmin = ending.any (·.isAdmin)) (address : client.address = server.address) :
    Following sip ending (((endDevices ending).map fun device => endpointOf device device.address .full).foldl
      (endpointApplied sip now isMe conference) client) server := by
  have bare : ∀ device ∈ endDevices ending, device.address.getUri = device.address :=
    fun device inside => ends.bare device.address (List.mem_map.mpr ⟨device, inside, rfl⟩)
  have made := @devices_made sip now conference isMe (endDevices ending) client
    (by rw [Participant.deviceAddresses, empty]; exact ends.apart) bare
  have same (device : ParticipantDevice) (inside : device ∈ endDevices ending) :
      (deviceMade sip now conference isMe device).address = device.address := by
    simp [deviceMade, ParticipantDevice.create, bare device inside]
  have addresses : ((endDevices ending).map (deviceMade sip now conference isMe)).map (·.address) =
      endAddresses ending := by
    rw [List.map_map]
    exact List.map_congr_left same
  rw [made, empty, List.nil_append]
  refine ⟨address, .inr admin, ?_, ?_, ?_, ?_⟩
  · simpa only [Participant.deviceAddresses, addresses] using ends.apart
  · intro device member
    rw [Participant.deviceAddresses, addresses] at member
    exact .inr member
  · intro device _ known inside same _
    rw [Participant.deviceAddresses, addresses]
    exact List.mem_map.mpr ⟨known, inside, same⟩
  · intro device member _ known inside named
    obtain ⟨held, source, rfl⟩ := List.mem_map.mp member
    rw [same held source] at named
    obtain rfl : known = held := ends.apart.same lawful inside source (by rw [named]; exact lawful.refl _)
    left
    simp only [deviceMade, deviceNotified_dialog, endpointOf, ParticipantDevice.create, callInfoOf_getD]

end Following

end Liblinphone
