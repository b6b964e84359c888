import Liblinphone.ClientConferenceEventHandler

/-! What a user of a document does to the participants of the client. Requests and
notifications set aside, it is a function of the participants and of the user. -/

namespace Liblinphone

variable (sip : BelleSip) (now : Int) (old : List Participant) (isFullState isMe : Bool)

/-- One endpoint, when only the participant is looked at. -/
def endpointApplied (conference : ClientConference) (participant : Participant) (endpoint : EndpointType) :
    Participant :=
  match endpoint.entity with
  | none => participant
  | some gruu =>
    match applyEndpoint sip now conference isMe endpoint gruu participant with
    | some (result, _) => result
    | none => participant

/-- The attributes and the endpoints of a user. -/
def userDescribed (conference : ClientConference) (user : UserType) (participant : Participant) : Participant :=
  user.endpoint.foldl (endpointApplied sip now isMe conference)
    (fillParticipantAttributes user.roles user.state isFullState true participant).1

/-- The participant that a user starts as. -/
def userAdded (conference : ClientConference) (user : UserType) : Participant :=
  (fillParticipantAttributes user.roles user.state isFullState false
    (.create conference.supportsMedia user.entity)).1

/-- One user, when only the conference is looked at. -/
def userApplied (conference : ClientConference) (user : UserType) : ClientConference :=
  if conference.isMe sip user.entity then
    match user.state with
    | .deleted => conference
    | .full =>
      conference.storeParticipant true user.entity (userDescribed sip now isFullState true conference user
        (fillParticipantAttributes user.roles user.state isFullState false conference.me).1)
    | .partialState =>
      conference.storeParticipant true user.entity
        (userDescribed sip now isFullState true conference user conference.me)
  else
    match findParticipant conference.participants user.entity with
    | some participant =>
      match user.state with
      | .deleted =>
        { conference with
          participants := conference.participants.eraseP fun other => other.address.weakEqual user.entity }
      | _ =>
        conference.storeParticipant false user.entity
          (userDescribed sip now isFullState false conference user participant)
    | none =>
      match user.state with
      | .full =>
        { conference with
          participants := conference.participants ++
            [userDescribed sip now isFullState false conference user (userAdded isFullState conference user)] }
      | _ => conference

section Address

variable {sip now}

theorem fillParticipantAttributes_address (roles : Option (List String)) (state : StateType) (notify : Bool)
    (participant : Participant) :
    (fillParticipantAttributes roles state isFullState notify participant).1.address = participant.address := by
  cases roles with
  | none => rfl
  | some entry => rfl

theorem locateDevice_address (endpoint : EndpointType) (gruu : Address) (participant : Participant) :
    (locateDevice sip endpoint gruu participant).1.address = participant.address := by
  unfold locateDevice
  split
  · simp only [Participant.addDevice]
    cases participant.findDeviceIndex sip gruu <;> rfl
  · split <;> rfl

theorem applyEndpoint_address {conference : ClientConference} {endpoint : EndpointType} {gruu : Address}
    {participant result : Participant} {device : Option ParticipantDevice}
    (applied : applyEndpoint sip now conference isMe endpoint gruu participant = some (result, device)) :
    result.address = participant.address := by
  have located := @locateDevice_address sip endpoint gruu participant
  unfold applyEndpoint at applied
  simp only at applied
  split at applied
  · split at applied
    · simp only [Option.some.injEq, Prod.mk.injEq] at applied
      exact applied.1 ▸ located
    · simp only [Option.some.injEq, Prod.mk.injEq] at applied
      exact applied.1 ▸ located
  · split at applied
    · simp only [Option.some.injEq, Prod.mk.injEq] at applied
      exact applied.1 ▸ located
    · simp at applied

theorem endpointApplied_address (conference : ClientConference) (participant : Participant)
    (endpoint : EndpointType) :
    (endpointApplied sip now isMe conference participant endpoint).address = participant.address := by
  unfold endpointApplied
  cases endpoint.entity with
  | none => rfl
  | some gruu =>
    cases applied : applyEndpoint sip now conference isMe endpoint gruu participant with
    | none => simp only [applied]
    | some result =>
      simp only [applied]
      exact applyEndpoint_address isMe applied

theorem userDescribed_address (conference : ClientConference) (user : UserType) (participant : Participant) :
    (userDescribed sip now isFullState isMe conference user participant).address = participant.address := by
  rw [← fillParticipantAttributes_address isFullState user.roles user.state true participant]
  unfold userDescribed
  generalize (fillParticipantAttributes user.roles user.state isFullState true participant).1 = start
  induction user.endpoint generalizing start with
  | nil => rfl
  | cons endpoint rest ih =>
    rw [List.foldl_cons, ih, endpointApplied_address]

theorem userAdded_address (conference : ClientConference) (user : UserType) :
    (userAdded isFullState conference user).address = user.entity.getUriWithoutGruu :=
  fillParticipantAttributes_address isFullState user.roles user.state false _

/-- A user changes participants only. -/
theorem userApplied_frame (conference : ClientConference) (user : UserType) :
    (userApplied sip now isFullState conference user).me.address = conference.me.address ∧
      (userApplied sip now isFullState conference user).subject = conference.subject ∧
      (userApplied sip now isFullState conference user).conferenceAddress = conference.conferenceAddress := by
  unfold userApplied
  split
  · cases user.state with
    | deleted => exact ⟨rfl, rfl, rfl⟩
    | full =>
      refine ⟨?_, rfl, rfl⟩
      simp only [ClientConference.storeParticipant, ↓reduceIte]
      rw [userDescribed_address, fillParticipantAttributes_address]
    | partialState =>
      refine ⟨?_, rfl, rfl⟩
      simp only [ClientConference.storeParticipant, ↓reduceIte]
      rw [userDescribed_address]
  · cases findParticipant conference.participants user.entity <;> cases user.state <;> exact ⟨rfl, rfl, rfl⟩

end Address

namespace ClientConferenceEventHandler

variable {sip now old isFullState isMe}

/-- Requests apart, the handler keeps the conference while it applies endpoints. -/
theorem endpoints_spec (user : Address) (endpoints : List EndpointType) (participant : Participant)
    (handler : ClientConferenceEventHandler) :
    (endpoints.foldl (endpointNotified sip now old isFullState isMe user) (participant, handler)).1 =
        endpoints.foldl (endpointApplied sip now isMe handler.conference) participant ∧
      ∃ lastNotify,
        (endpoints.foldl (endpointNotified sip now old isFullState isMe user) (participant, handler)).2.conference =
          { handler.conference with lastNotify := lastNotify } := by
  induction endpoints generalizing participant handler with
  | nil => exact ⟨rfl, handler.conference.lastNotify, rfl⟩
  | cons endpoint rest ih =>
    simp only [List.foldl_cons, endpointNotified, endpointApplied]
    cases endpoint.entity with
    | none => exact ih participant handler
    | some gruu =>
      cases applied : applyEndpoint sip now handler.conference isMe endpoint gruu participant with
      | none =>
        obtain ⟨result, lastNotify, kept⟩ := ih participant handler.requestFullState
        simp only [applied]
        rw [requestFullState_conference] at result kept
        exact ⟨result, lastNotify, kept⟩
      | some result =>
        simp only [applied]
        exact ih result.1 _

theorem participantNotified_spec (user : UserType) (participant : Participant)
    (handler : ClientConferenceEventHandler) :
    ∃ lastNotify, (participantNotified sip now old isFullState isMe user participant handler).conference =
      { handler.conference.storeParticipant isMe user.entity
          (userDescribed sip now isFullState isMe handler.conference user participant) with
        lastNotify := lastNotify } := by
  let filled := fillParticipantAttributes user.roles user.state isFullState true participant
  obtain ⟨result, lastNotify, kept⟩ := @endpoints_spec sip now old isFullState isMe user.entity user.endpoint
    filled.1 (handler.notify filled.2)
  refine ⟨lastNotify, ?_⟩
  simp only [participantNotified, userDescribed]
  rw [result, kept]
  simp only [notify_conference, ClientConference.storeParticipant]
  split <;> rfl

/-- A participant that was just added is the one that is stored. -/
theorem storeParticipant_added {conference : ClientConference} {address : Address} {added : Participant}
    (unknown : findParticipant conference.participants address = none)
    (named : added.address.weakEqual address = true) (participant : Participant) :
    ({ conference with participants := conference.participants ++ [added] }.storeParticipant false address
      participant) = { conference with participants := conference.participants ++ [participant] } := by
  have appended (participants : List Participant) (absent : findParticipant participants address = none) :
      Library.updateFirst (fun other => other.address.weakEqual address) (fun _ => participant)
        (participants ++ [added]) = participants ++ [participant] := by
    induction participants with
    | nil => simp [Library.updateFirst, named]
    | cons first rest ih =>
      simp only [findParticipant, List.find?_eq_none, List.mem_cons, forall_eq_or_imp] at absent
      simp only [List.cons_append, Library.updateFirst, absent.1]
      rw [ih (by simpa [findParticipant] using absent.2)]
      simp
  simp only [ClientConference.storeParticipant, Bool.false_eq_true, ↓reduceIte, appended _ unknown]

/-- Requests apart, a user does to the conference what `userApplied` says. -/
theorem userNotified_spec (handler : ClientConferenceEventHandler) (user : UserType) :
    ∃ lastNotify, (userNotified sip now old isFullState handler user).conference =
      { userApplied sip now isFullState handler.conference user with lastNotify := lastNotify } := by
  unfold userNotified userApplied
  split
  · cases user.state with
    | deleted => exact ⟨_, rfl⟩
    | full => exact participantNotified_spec user _ handler
    | partialState => exact participantNotified_spec user _ handler
  · cases found : findParticipant handler.conference.participants user.entity with
    | some participant =>
      cases user.state with
      | deleted => exact ⟨_, rfl⟩
      | full => exact participantNotified_spec user participant handler
      | partialState => exact participantNotified_spec user participant handler
    | none =>
      cases state : user.state with
      | full =>
        obtain ⟨lastNotify, kept⟩ := @participantNotified_spec sip now old isFullState false user
          (userAdded isFullState handler.conference user)
          ((handler.addParticipant (userAdded isFullState handler.conference user)).notify
            (if announcesParticipant sip old isFullState user.entity then
              [.participantAdded (userAdded isFullState handler.conference user).address] else []))
        have named : (userAdded isFullState handler.conference user).address.weakEqual user.entity = true := by
          simp [userAdded_address]
        refine ⟨lastNotify, ?_⟩
        simp only [userAdded, state] at kept named ⊢
        rw [kept, notify_conference, addParticipant, storeParticipant_added found named]
        rfl
      | deleted => exact ⟨0, requestFullState_conference handler⟩
      | partialState => exact ⟨0, requestFullState_conference handler⟩

end ClientConferenceEventHandler

end Liblinphone
