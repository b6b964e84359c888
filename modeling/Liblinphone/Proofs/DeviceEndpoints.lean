import Liblinphone.Proofs.ConferenceRoster
import Mathlib.Data.List.Pairwise
import Mathlib.Tactic.ByContra

/-! What the endpoints of a document do to the devices of a participant. An added
endpoint keeps every device and its address. A deleted one only takes devices
away: those of its address, and the one that has the call id it names. -/

namespace Liblinphone
open Library

variable {sip : BelleSip} {now : Int} {conference : ClientConference} {isMe : Bool} {endpoint : EndpointType}
  {gruu : Address} {participant : Participant}

/-- The addresses of the devices of a participant. -/
def Participant.deviceAddresses (participant : Participant) : List Address := participant.devices.map (·.address)

/-- No two devices have similar addresses. -/
def DevicesApart (sip : BelleSip) (addresses : List Address) : Prop :=
  addresses.Pairwise fun first second => sip.uriEquals first second = false

theorem DevicesApart.unique (lawful : sip.Lawful) {addresses : List Address} (apart : DevicesApart sip addresses)
    {first second : Address} (left : first ∈ addresses) (right : second ∈ addresses)
    (similar : sip.uriEquals first second = true) : first = second := by
  by_contra different
  have symmetric : Std.Symm fun first second : Address => sip.uriEquals first second = false :=
    ⟨fun first second different => lawful.symm first second ▸ different⟩
  have dissimilar := apart.forall left right different
  simp [similar] at dissimilar

theorem DevicesApart.nodup (lawful : sip.Lawful) {addresses : List Address} (apart : DevicesApart sip addresses) :
    addresses.Nodup :=
  List.Pairwise.imp (fun dissimilar same => by simp [same, lawful.refl] at dissimilar) apart

/-- Devices whose addresses are apart are told apart by them. -/
theorem DevicesApart.same (lawful : sip.Lawful) {devices : List ParticipantDevice}
    (apart : DevicesApart sip (devices.map (·.address))) {first second : ParticipantDevice} (left : first ∈ devices)
    (right : second ∈ devices) (similar : sip.uriEquals first.address second.address = true) : first = second :=
  List.inj_on_of_nodup_map (apart.nodup lawful) left right
    (apart.unique lawful (List.mem_map.mpr ⟨first, left, rfl⟩) (List.mem_map.mpr ⟨second, right, rfl⟩) similar)

@[simp] theorem deviceNotified_address (device : ParticipantDevice) :
    (deviceNotified sip now conference isMe endpoint device).address = device.address := by
  simp only [deviceNotified]
  cases endpoint.status with
  | none => rfl
  | some status => simp

@[simp] theorem deviceNotified_dialog (device : ParticipantDevice) :
    (deviceNotified sip now conference isMe endpoint device).dialog = endpoint.callInfo.getD device.dialog := by
  simp only [deviceNotified]
  cases endpoint.status with
  | none => rfl
  | some status => simp

/-- An endpoint that is added or deleted always applies. -/
theorem applyEndpoint_isSome (settled : endpoint.state ≠ .partialState) :
    (applyEndpoint sip now conference isMe endpoint gruu participant).isSome = true := by
  unfold applyEndpoint
  cases state : endpoint.state with
  | full => simp [locateDevice, state]
  | deleted =>
    simp only [↓reduceIte]
    split <;> rfl
  | partialState => exact absurd state settled

/-- The devices with an added endpoint: the first similar one is described, or a
new one. -/
def devicesWith (sip : BelleSip) (gruu : Address) (describe : ParticipantDevice → ParticipantDevice)
    (devices : List ParticipantDevice) : List ParticipantDevice :=
  if devices.any fun device => sip.uriEquals device.address gruu then
    updateFirst (fun device => sip.uriEquals device.address gruu) describe devices
  else devices ++ [describe (.create gruu "")]

/-- A device after an added endpoint is an old one of another address, or it is
the one that was described. -/
theorem mem_devicesWith (lawful : sip.Lawful) {describe : ParticipantDevice → ParticipantDevice}
    {devices : List ParticipantDevice} (apart : DevicesApart sip (devices.map (·.address)))
    (bare : gruu.getUri = gruu) {device : ParticipantDevice} (member : device ∈ devicesWith sip gruu describe devices) :
    (device ∈ devices ∧ device.address ≠ gruu) ∨
      ∃ located, device = describe located ∧ sip.uriEquals located.address gruu = true ∧
        (located ∈ devices ∨ located = .create gruu "") := by
  unfold devicesWith at member
  split at member
  next present =>
    obtain ⟨before, located, after, rfl, similar, dissimilar, updated⟩ := updateFirst_split present
    rw [updated] at member
    rcases List.mem_append.mp member with early | late
    · refine .inl ⟨List.mem_append_left _ early, fun same => ?_⟩
      have other := dissimilar device early
      simp [same, lawful.refl] at other
    · rcases List.mem_cons.mp late with rfl | later
      · exact .inr ⟨located, rfl, similar, .inl (by simp)⟩
      · refine .inl ⟨List.mem_append_right _ (List.mem_cons_of_mem _ later), fun same => ?_⟩
        rw [List.map_append, List.map_cons] at apart
        have tail := (List.pairwise_append.mp apart).2.1
        have other := (List.pairwise_cons.mp tail).1 device.address (List.mem_map.mpr ⟨device, later, rfl⟩)
        rw [same, similar] at other
        simp at other
  next absent =>
    rcases List.mem_append.mp member with early | late
    · refine .inl ⟨early, fun same => absent ?_⟩
      exact List.any_eq_true.mpr ⟨device, early, by rw [same, lawful.refl]⟩
    · obtain rfl : device = describe (.create gruu "") := by simpa using late
      refine .inr ⟨_, rfl, ?_, .inr rfl⟩
      simp only [ParticipantDevice.create, bare, lawful.refl]

/-- The addresses after an added endpoint. -/
theorem devicesWith_addresses {describe : ParticipantDevice → ParticipantDevice}
    (kept : ∀ device, (describe device).address = device.address) (bare : gruu.getUri = gruu)
    (devices : List ParticipantDevice) :
    (devicesWith sip gruu describe devices).map (·.address) =
      if devices.any fun device => sip.uriEquals device.address gruu then devices.map (·.address)
      else devices.map (·.address) ++ [gruu] := by
  unfold devicesWith
  split
  next present =>
    obtain ⟨before, located, after, rfl, -, -, updated⟩ := updateFirst_split present
    simp [updated, kept]
  next absent => simp [kept, ParticipantDevice.create, bare]

theorem endpointApplied_full (entity : endpoint.entity = some gruu) (full : endpoint.state = .full) :
    endpointApplied sip now isMe conference participant endpoint =
      { participant with
        devices := devicesWith sip gruu (deviceNotified sip now conference isMe endpoint) participant.devices } := by
  simp only [endpointApplied, entity, applyEndpoint, locateDevice, full, ↓reduceIte, reduceCtorEq,
    Participant.addDevice, Participant.updateDevice]
  cases found : participant.findDeviceIndex sip gruu with
  | some index =>
    have present : (participant.devices.any fun device => sip.uriEquals device.address gruu) = true := by
      rw [← List.findIdx?_isSome]
      exact Option.isSome_iff_exists.mpr ⟨index, found⟩
    simp only [devicesWith, present, ↓reduceIte, modify_findIdx? found]
  | none =>
    have absent : (participant.devices.any fun device => sip.uriEquals device.address gruu) = false := by
      rw [← List.findIdx?_isSome]
      exact congrArg Option.isSome found
    simp only [devicesWith, absent, Bool.false_eq_true, ↓reduceIte]
    rw [modify_append_length]

/-- The devices after a deletion: each was there, none is similar to the address,
and those that are neither similar nor named by the call id stay. -/
structure DevicesWithout (sip : BelleSip) (gruu : Address) (callInfo : Option SipDialogId)
    (devices kept : List ParticipantDevice) : Prop where
  sublist : kept.Sublist devices
  dissimilar : ∀ device ∈ kept, sip.uriEquals device.address gruu = false
  stays : ∀ device ∈ devices, sip.uriEquals device.address gruu = false →
    (∀ dialog, callInfo = some dialog → device.dialog.callId ≠ dialog.callId) → device ∈ kept

/-- A device that was found and then falls out with the others. -/
theorem DevicesWithout.found (lawful : sip.Lawful) {callInfo : Option SipDialogId} {hits : ParticipantDevice → Bool}
    {devices : List ParticipantDevice} (present : devices.any hits = true)
    {change : ParticipantDevice → ParticipantDevice}
    (changed : ∀ device, hits device = true → sip.addressEquals (change device).address.getUri gruu.getUri = true)
    (named : ∀ device, hits device = true → sip.uriEquals device.address gruu = true ∨
      ∃ dialog, callInfo = some dialog ∧ device.dialog.callId = dialog.callId) :
    DevicesWithout sip gruu callInfo devices ((updateFirst hits change devices).filter fun device =>
      !sip.addressEquals device.address.getUri gruu.getUri) := by
  obtain ⟨before, found, after, rfl, hit, -, updated⟩ := updateFirst_split present
  rw [updated, List.filter_append, List.filter_cons_of_neg (by simp [changed found hit]), ← List.filter_append]
  refine ⟨?_, ?_, ?_⟩
  · exact List.filter_sublist.trans (List.Sublist.append_left (List.sublist_cons_self found after) before)
  · intro device member
    simpa [lawful.bare] using (List.mem_filter.mp member).2
  · intro device member dissimilar unnamed
    refine List.mem_filter.mpr ⟨?_, by simp [lawful.bare, dissimilar]⟩
    rcases List.mem_append.mp member with early | late
    · exact List.mem_append_left _ early
    · rcases List.mem_cons.mp late with rfl | later
      · rcases named device hit with similar | ⟨dialog, given, same⟩
        · simp [dissimilar] at similar
        · exact absurd same (unnamed dialog given)
      · exact List.mem_append_right _ later

theorem DevicesWithout.filter (lawful : sip.Lawful) (callInfo : Option SipDialogId)
    (devices : List ParticipantDevice) :
    DevicesWithout sip gruu callInfo devices (devices.filter fun device =>
      !sip.addressEquals device.address.getUri gruu.getUri) where
  sublist := List.filter_sublist
  dissimilar := by
    intro device member
    simpa [lawful.bare] using (List.mem_filter.mp member).2
  stays := by
    intro device member dissimilar unnamed
    exact List.mem_filter.mpr ⟨member, by simp [lawful.bare, dissimilar]⟩

theorem endpointApplied_deleted (lawful : sip.Lawful) (entity : endpoint.entity = some gruu)
    (deleted : endpoint.state = .deleted) :
    ∃ kept, endpointApplied sip now isMe conference participant endpoint = { participant with devices := kept } ∧
      DevicesWithout sip gruu endpoint.callInfo participant.devices kept := by
  simp only [endpointApplied, entity, applyEndpoint, locateDevice, deleted, ↓reduceIte, reduceCtorEq]
  cases called : endpoint.callInfo.bind fun dialog => participant.findDeviceIndexByCallId dialog.callId with
  | some index =>
    obtain ⟨dialog, given, found⟩ := Option.bind_eq_some_iff.mp called
    refine ⟨_, rfl, ?_⟩
    simp only [Participant.updateDevice, List.modify_modify_eq]
    rw [modify_findIdx? found]
    refine .found lawful ?_ ?_ ?_
    · rw [← List.findIdx?_isSome]
      exact Option.isSome_iff_exists.mpr ⟨index, found⟩
    · intro device hit
      simp only [Function.comp_apply, ParticipantDevice.setState_address, ParticipantDevice.setAddress,
        Address.getUri_getUri, lawful.bare, lawful.refl]
    · intro device hit
      exact .inr ⟨dialog, given, by simpa using hit⟩
  | none =>
    simp only
    cases found : participant.findDeviceIndex sip gruu with
    | none => exact ⟨_, rfl, .filter lawful _ _⟩
    | some index =>
      refine ⟨_, rfl, ?_⟩
      simp only [Participant.updateDevice]
      rw [modify_findIdx? found]
      refine .found lawful ?_ ?_ ?_
      · rw [← List.findIdx?_isSome]
        exact Option.isSome_iff_exists.mpr ⟨index, found⟩
      · intro device hit
        rw [ParticipantDevice.setState_address, lawful.bare]
        exact hit
      · intro device hit
        exact .inl hit

end Liblinphone
