import Liblinphone.Proofs.NotifyRefusal
import Liblinphone.Proofs.ParticipantFollowing
import Liblinphone.Proofs.ServerConference

/-! A client that missed events catches up with the documents written from them. -/

namespace Liblinphone
open Library

namespace ClientConferenceEventHandler

variable {sip : BelleSip} {now : Int} {old : List Participant} {isFullState isMe : Bool}

/-- Nothing is requested between two handlers. -/
def Quiet (start final : ClientConferenceEventHandler) : Prop :=
  final.requests = start.requests ∧ final.waitingFullState = start.waitingFullState

theorem endpoints_quiet (user : Address) (endpoints : List EndpointType)
    (settled : ∀ endpoint ∈ endpoints, endpoint.state ≠ .partialState)
    (state : Participant × ClientConferenceEventHandler) :
    Quiet state.2 (endpoints.foldl (endpointNotified sip now old isFullState isMe user) state).2 := by
  induction endpoints generalizing state with
  | nil => exact ⟨rfl, rfl⟩
  | cons endpoint rest ih =>
    have step : Quiet state.2 (endpointNotified sip now old isFullState isMe user state endpoint).2 := by
      unfold endpointNotified
      cases endpoint.entity with
      | none => exact ⟨rfl, rfl⟩
      | some gruu =>
        obtain ⟨result, applied⟩ := Option.isSome_iff_exists.mp
          (@applyEndpoint_isSome sip now state.2.conference isMe endpoint gruu state.1 (settled endpoint (by simp)))
        simp only [applied]
        exact ⟨by simp [endpointNotifications_requests], rfl⟩
    have later := ih (fun other member => settled other (by simp [member]))
      (endpointNotified sip now old isFullState isMe user state endpoint)
    exact ⟨later.1.trans step.1, later.2.trans step.2⟩

theorem participantNotified_quiet (user : UserType) (settled : ∀ endpoint ∈ user.endpoint, endpoint.state ≠ .partialState)
    (participant : Participant) (handler : ClientConferenceEventHandler) :
    Quiet handler (participantNotified sip now old isFullState isMe user participant handler) := by
  let filled := fillParticipantAttributes user.roles user.state isFullState true participant
  have silent := fillParticipantAttributes_requests isFullState user.roles user.state true participant
  have endpoints := @endpoints_quiet sip now old isFullState isMe user.entity user.endpoint settled
    (filled.1, handler.notify filled.2)
  refine ⟨endpoints.1.trans ?_, endpoints.2⟩
  simp [filled, silent]

/-- A user whose participant is known, or who is added, is applied without a
request. -/
theorem userNotified_quiet {handler : ClientConferenceEventHandler} {user : UserType}
    (settled : ∀ endpoint ∈ user.endpoint, endpoint.state ≠ .partialState)
    (known : handler.conference.isMe sip user.entity = true ∨
      (findParticipant handler.conference.participants user.entity).isSome = true ∨ user.state = .full) :
    Quiet handler (handler.userNotified sip now old isFullState user) := by
  unfold userNotified
  cases itsMe : handler.conference.isMe sip user.entity with
  | true =>
    simp only [↓reduceIte]
    cases user.state with
    | deleted => exact ⟨rfl, rfl⟩
    | full => exact participantNotified_quiet user settled _ handler
    | partialState => exact participantNotified_quiet user settled _ handler
  | false =>
    simp only [Bool.false_eq_true, ↓reduceIte]
    cases found : findParticipant handler.conference.participants user.entity with
    | some participant =>
      cases user.state with
      | deleted =>
        refine ⟨?_, rfl⟩
        simp only [notify_requests]
        split <;> simp [removeParticipant, requests]
      | full => exact participantNotified_quiet user settled participant handler
      | partialState => exact participantNotified_quiet user settled participant handler
    | none =>
      have full : user.state = .full := by simpa [itsMe, found] using known
      simp only [full]
      have described := @participantNotified_quiet sip now old isFullState false user settled
        (fillParticipantAttributes user.roles .full isFullState false
          (.create handler.conference.supportsMedia user.entity)).1
      refine ⟨(described _).1.trans ?_, (described _).2⟩
      simp only [notify_requests]
      split <;> simp [addParticipant, requests]

/-- The parts of a multipart body are received one after the other. -/
def multipartNotifyReceived (sip : BelleSip) (clock : ConferenceType → Int) (handler : ClientConferenceEventHandler)
    (documents : List ConferenceType) : ClientConferenceEventHandler :=
  documents.foldl (fun handler document => handler.conferenceInfoNotifyReceived sip (clock document) document) handler

theorem multipartNotifyReceived_cons (clock : ConferenceType → Int) (handler : ClientConferenceEventHandler)
    (document : ConferenceType) (documents : List ConferenceType) :
    handler.multipartNotifyReceived sip clock (document :: documents) =
      (handler.conferenceInfoNotifyReceived sip (clock document) document).multipartNotifyReceived sip clock documents :=
  rfl

/-- A newer document about one user is applied to the conference. -/
theorem received_user (now : Int) {handler : ClientConferenceEventHandler} {server : ServerConference} {user : UserType}
    (entity : handler.conference.isEntity sip (some server.conferenceAddress) = true)
    (waiting : handler.waitingFullState = false) (newer : handler.conference.lastNotify < server.lastNotify)
    (settled : ∀ endpoint ∈ user.endpoint, endpoint.state ≠ .partialState)
    (known : handler.conference.isMe sip user.entity = true ∨
      (findParticipant handler.conference.participants user.entity).isSome = true ∨ user.state = .full) :
    let final := handler.conferenceInfoNotifyReceived sip now (server.createNotify {} (some [user]))
    Quiet handler final ∧ final.conference =
      { userApplied sip now false { handler.conference with lastNotify := server.lastNotify } user with
        lastNotify := server.lastNotify } := by
  intro final
  let started : ClientConferenceEventHandler :=
    { handler with
      waitingFullState := false
      conference := { handler.conference with lastNotify := server.lastNotify } }
  have fresh : { handler with waitingFullState := false }.isStale (server.createNotify {} (some [user])) = false := by
    simp [isStale, ServerConference.createNotify, newer]
  have whole : final = started.userNotified sip now handler.conference.participants false user := by
    simp only [final, conferenceInfoNotifyReceived, waiting, Bool.false_and, Bool.false_eq_true, ↓reduceIte,
      documentAccepted, fresh]
    simp only [ServerConference.createNotify, entity, ↓reduceIte]
    rfl
  have quiet := @userNotified_quiet sip now handler.conference.participants false started user settled known
  have follows := userNotified_follows sip now handler.conference.participants false started user
  obtain ⟨lastNotify, applied⟩ := @userNotified_spec sip now handler.conference.participants false started user
  rw [whole]
  refine ⟨⟨quiet.1, quiet.2.trans waiting.symm⟩, ?_⟩
  have version := follows.kept quiet.1
  rw [applied] at version ⊢
  simp only at version
  rw [version]

theorem received_subject (now : Int) {handler : ClientConferenceEventHandler} {server : ServerConference}
    (entity : handler.conference.isEntity sip (some server.conferenceAddress) = true)
    (waiting : handler.waitingFullState = false) (newer : handler.conference.lastNotify < server.lastNotify)
    (subject : String) :
    let final := handler.conferenceInfoNotifyReceived sip now (server.createNotifySubjectChanged subject)
    Quiet handler final ∧ final.conference =
      { handler.conference with
        lastNotify := server.lastNotify
        subject := if subject = "" then handler.conference.subject else subject } := by
  intro final
  have fresh : { handler with waitingFullState := false }.isStale (server.createNotifySubjectChanged subject) = false := by
    simp [isStale, ServerConference.createNotifySubjectChanged, ServerConference.createNotify, newer]
  let started : ClientConferenceEventHandler :=
    { handler with
      waitingFullState := false
      conference := { handler.conference with lastNotify := server.lastNotify } }
  have whole : final = started.subjectNotified false (some subject) := by
    simp only [final, conferenceInfoNotifyReceived, waiting, Bool.false_and, Bool.false_eq_true, ↓reduceIte,
      documentAccepted, fresh]
    simp only [ServerConference.createNotifySubjectChanged, ServerConference.createNotify, entity, ↓reduceIte]
    rfl
  rw [whole]
  by_cases empty : subject = ""
  · simp [started, subjectNotified, empty, Quiet, requests, waiting]
  · by_cases same : handler.conference.subject = subject
    · simp [started, subjectNotified, empty, same, Quiet, requests, waiting]
    · simp [started, subjectNotified, empty, same, Quiet, requests, waiting, notify]

end ClientConferenceEventHandler

theorem fillParticipantAttributes_admin (entry : List String) (state : StateType) (isFullState notify : Bool)
    (participant : Participant) :
    (fillParticipantAttributes (some entry) state isFullState notify participant).1.isAdmin = entry.contains "admin" := by
  simp only [fillParticipantAttributes]
  cases participant.isAdmin <;> cases entry.contains "admin" <;> rfl

theorem fillParticipantAttributes_devices (roles : Option (List String)) (state : StateType) (isFullState notify : Bool)
    (participant : Participant) :
    (fillParticipantAttributes roles state isFullState notify participant).1.devices = participant.devices := by
  cases roles with
  | none => rfl
  | some entry => rfl

/-- No role reads as the one of an admin. -/
theorem rolesAdded_admin (ending : Option Participant) :
    ((if ending.any (·.isAdmin) then "admin" else "participant") ::
      (ending.map (·.role.toText)).toList).contains "admin" = ending.any (·.isAdmin) := by
  cases ending with
  | none => decide
  | some participant =>
    obtain ⟨address, isAdmin, role, devices⟩ := participant
    cases isAdmin <;> cases role <;> simp [ParticipantRole.toText]

/-- The client between two documents, and the server at the version that the last
one brought. -/
structure CatchingUp (sip : BelleSip) (ending : ServerConference) (emptied : Prop)
    (start client : ClientConferenceEventHandler) (server : ServerConference) : Prop where
  entity : client.conference.isEntity sip (some ending.conferenceAddress) = true
  waiting : client.waitingFullState = false
  requests : client.requests = start.requests
  lastNotify : client.conference.lastNotify = server.lastNotify
  subject : client.conference.subject = server.subject ∨ server.subject = "" ∧ emptied
  me : client.conference.me.address = start.conference.me.address
  distinct : DistinctKeys Participant.key client.conference.participants
  found : ∀ address, Option.Rel (Following sip (findParticipant ending.participants address))
    (findParticipant client.conference.participants address)
    ((findParticipant server.participants address).filter fun participant =>
      !start.conference.isMe sip participant.address)

namespace CatchingUp

variable {sip : BelleSip} {now : Int} {ending server changed : ServerConference} {emptied : Prop}
  {start client : ClientConferenceEventHandler} {user : UserType}

theorem isMe (up : CatchingUp sip ending emptied start client server) (address : Address) :
    client.conference.isMe sip address = start.conference.isMe sip address := by
  simp only [ClientConference.isMe, up.me]

/-- A document about one user, when what it does to the participants is known. -/
theorem document (up : CatchingUp sip ending emptied start client server) {event : ConferenceEvent}
    (subject : changed.subject = server.subject) (version : changed.lastNotify = server.lastNotify)
    (settled : ∀ endpoint ∈ user.endpoint, endpoint.state ≠ .partialState)
    (known : client.conference.isMe sip user.entity = true ∨
      (findParticipant client.conference.participants user.entity).isSome = true ∨ user.state = .full)
    (participants : ∀ conference : ClientConference, conference.participants = client.conference.participants →
      (∀ address, conference.isMe sip address = start.conference.isMe sip address) →
      let final := (userApplied sip now false conference user).participants
      DistinctKeys Participant.key final ∧
        ∀ address, Option.Rel (Following sip (findParticipant ending.participants address))
          (findParticipant final address)
          ((findParticipant changed.participants address).filter fun participant =>
            !start.conference.isMe sip participant.address)) :
    CatchingUp sip ending emptied start
      (client.conferenceInfoNotifyReceived sip now
        ({ ending with lastNotify := server.lastNotify + 1 }.createNotify {} (some [user])))
      (changed.notifyEvent event) := by
  obtain ⟨quiet, applied⟩ := @ClientConferenceEventHandler.received_user sip now client
    { ending with lastNotify := server.lastNotify + 1 } user up.entity up.waiting
    (by rw [up.lastNotify]; exact Nat.lt_succ_self _) settled known
  have frame := @userApplied_frame sip now false
    { client.conference with lastNotify := server.lastNotify + 1 } user
  obtain ⟨distinct, found⟩ := participants { client.conference with lastNotify := server.lastNotify + 1 } rfl
    (fun address => up.isMe address)
  constructor
  · rw [applied]
    simpa only [ClientConference.isEntity, frame.2.2] using up.entity
  · exact quiet.2.trans up.waiting
  · exact quiet.1.trans up.requests
  · rw [applied]
    simp only [ServerConference.notifyEvent, version]
  · rw [applied]
    simpa only [ServerConference.notifyEvent, frame.2.1, subject] using up.subject
  · rw [applied]
    exact frame.1.trans up.me
  · rw [applied]
    exact distinct
  · rw [applied]
    exact found

/-- A participant of the server changes, and the document about it changes the one
of the client. -/
theorem stored (up : CatchingUp sip ending emptied start client server) {event : ConferenceEvent}
    {participant updated : Participant}
    (found : findParticipant server.participants participant.address = some participant)
    (named : updated.address = participant.address) (entity : user.entity = participant.address)
    (state : user.state = .partialState) (settled : ∀ endpoint ∈ user.endpoint, endpoint.state ≠ .partialState)
    (described : ∀ conference held,
      Following sip (findParticipant ending.participants participant.address) held participant →
        Following sip (findParticipant ending.participants participant.address)
          (userDescribed sip now false false conference user held) updated) :
    CatchingUp sip ending emptied start
      (client.conferenceInfoNotifyReceived sip now
        ({ ending with lastNotify := server.lastNotify + 1 }.createNotify {} (some [user])))
      ((server.storeParticipant updated).notifyEvent event) := by
  have lookup (address : Address) : findParticipant (server.storeParticipant updated).participants address =
      if participant.address.weakEqual address then some updated else findParticipant server.participants address := by
    simp only [ServerConference.storeParticipant, ServerConference.updateParticipant, named]
    rw [findParticipant_updateFirst fun other _ => by simp [named]]
    cases same : participant.address.weakEqual address with
    | false => rfl
    | true => simp [← findParticipant_congr same, found]
  have own := up.found participant.address
  rw [found] at own
  cases itsMe : start.conference.isMe sip participant.address with
  | true =>
    refine up.document rfl rfl settled (.inl (by rw [up.isMe, entity, itsMe])) fun conference same me => ?_
    simp only [userApplied, me, entity, itsMe, ↓reduceIte, state, ClientConference.storeParticipant, same]
    refine ⟨up.distinct, fun address => ?_⟩
    have before := up.found address
    rw [lookup]
    cases near : participant.address.weakEqual address with
    | false => exact before
    | true =>
      rw [← findParticipant_congr near server.participants, found] at before
      simpa [named, itsMe, Option.filter_some] using before
  | false =>
    simp only [Option.filter_some, itsMe, Bool.not_false, ↓reduceIte] at own
    cases holds : findParticipant client.conference.participants participant.address with
    | none =>
      rw [holds] at own
      cases own
    | some held =>
      rw [holds] at own
      have follows : Following sip (findParticipant ending.participants participant.address) held participant := by
        cases own with
        | some follows => exact follows
      refine up.document rfl rfl settled (.inr (.inl (by rw [entity, holds]; rfl))) fun conference same me => ?_
      simp only [userApplied, me, entity, itsMe, Bool.false_eq_true, ↓reduceIte, state,
        ClientConference.storeParticipant, same, holds]
      have named' : (userDescribed sip now false false conference user held).address.weakEqual participant.address := by
        rw [userDescribed_address, follows.address, Address.weakEqual_refl]
      refine ⟨storeParticipant_distinct up.distinct named', fun address => ?_⟩
      rw [findParticipant_updateFirst fun _ _ => named', lookup]
      have before := up.found address
      cases near : participant.address.weakEqual address with
      | false => exact before
      | true =>
        rw [← findParticipant_congr near, ← findParticipant_congr near, holds]
        simp only [↓reduceIte, Option.map_some, Option.filter_some, named, itsMe, Bool.not_false]
        exact .some (described conference held follows)

theorem participantOf_ending (focus : ending.me = server.me) {address : Address}
    (other : server.isMe sip address = false) (version : Nat) :
    { ending with lastNotify := version }.participantOf sip address = findParticipant ending.participants address := by
  simp only [ServerConference.isMe] at other
  simp [ServerConference.participantOf, ServerConference.isMe, focus, other]

theorem added (up : CatchingUp sip ending emptied start client server) (lawful : sip.Lawful)
    (ends : ∀ address, EndingDevices sip (findParticipant ending.participants address))
    (focus : ending.me = server.me) {participant : Participant} (pruned : participant.address.getUriWithoutGruu = participant.address)
    (unknown : findParticipant server.participants participant.address = none)
    (other : server.isMe sip participant.address = false) :
    CatchingUp sip ending emptied start
      (client.conferenceInfoNotifyReceived sip now
        ({ ending with lastNotify := server.lastNotify + 1 }.createNotifyParticipantAdded sip participant.address))
      ({ server with participants := server.participants ++ [participant] }.notifyEvent
        (.participantAdded participant.address)) := by
  have known := participantOf_ending focus other (server.lastNotify + 1)
  have lookup (address : Address) : findParticipant (server.participants ++ [participant]) address =
      if participant.address.weakEqual address then some participant
      else findParticipant server.participants address := by
    rw [findParticipant_append]
    cases near : participant.address.weakEqual address with
    | false => simp
    | true => simp [← findParticipant_congr near, unknown]
  have absent : findParticipant client.conference.participants participant.address = none := by
    have own := up.found participant.address
    rw [unknown] at own
    generalize findParticipant client.conference.participants participant.address = held at own
    cases own
    rfl
  simp only [ServerConference.createNotifyParticipantAdded, known]
  refine up.document rfl rfl ?_ (.inr (.inr rfl)) fun conference same me => ?_
  · intro endpoint member
    obtain ⟨device, -, rfl⟩ := List.mem_map.mp member
    simp [endpointOf]
  cases itsMe : start.conference.isMe sip participant.address with
  | true =>
    simp only [userApplied, me, itsMe, ↓reduceIte, ClientConference.storeParticipant, same]
    refine ⟨up.distinct, fun address => ?_⟩
    have before := up.found address
    rw [lookup]
    cases near : participant.address.weakEqual address with
    | false => exact before
    | true =>
      rw [← findParticipant_congr near server.participants, unknown] at before
      simpa [itsMe, Option.filter_some] using before
  | false =>
    simp only [userApplied, me, itsMe, Bool.false_eq_true, ↓reduceIte, same, absent]
    generalize described : userDescribed sip now false false conference _ _ = made
    have follows : Following sip (findParticipant ending.participants participant.address) made participant := by
      rw [← described]
      refine Following.added lawful (ends participant.address) ?_ ?_ ?_
      · simp [userAdded, fillParticipantAttributes_devices, Participant.create]
      · exact (fillParticipantAttributes_admin _ _ _ _ _).trans (rolesAdded_admin _)
      · simp [userAdded, fillParticipantAttributes_address, Participant.create, pruned]
    have named : made.key = participant.key := congrArg Address.weakKey follows.address
    refine ⟨up.distinct.append ?_, fun address => ?_⟩
    · rw [named]
      exact (findParticipant_eq _ participant.address).symm.trans absent
    · rw [lookup, findParticipant_append, follows.address]
      have before := up.found address
      cases near : participant.address.weakEqual address with
      | false => simpa using before
      | true =>
        rw [← findParticipant_congr near client.conference.participants, absent,
          ← findParticipant_congr near ending.participants]
        simpa [Option.filter_some, itsMe] using Option.Rel.some follows

/-- A participant leaves. -/
theorem removed (up : CatchingUp sip ending emptied start client server) (valid : server.Valid sip)
    {participant : Participant}
    (found : findParticipant server.participants participant.address = some participant) :
    CatchingUp sip ending emptied start
      (client.conferenceInfoNotifyReceived sip now
        ({ ending with lastNotify := server.lastNotify + 1 }.createNotifyParticipantRemoved participant.address))
      ({ server with
          participants := server.participants.eraseP fun other =>
            other.address.weakEqual participant.address }.notifyEvent (.participantRemoved participant.address)) := by
  have own := up.found participant.address
  rw [found] at own
  cases itsMe : start.conference.isMe sip participant.address with
  | true =>
    refine up.document rfl rfl (by simp) (.inl (by rw [up.isMe, itsMe])) fun conference same me => ?_
    simp only [userApplied, me, itsMe, ↓reduceIte, same]
    refine ⟨up.distinct, fun address => ?_⟩
    have before := up.found address
    rw [findParticipant_eraseP valid.distinct]
    cases near : participant.address.weakEqual address with
    | false => exact before
    | true =>
      rw [← findParticipant_congr near server.participants, found] at before
      simpa [itsMe, Option.filter_some] using before
  | false =>
    simp only [Option.filter_some, itsMe, Bool.not_false, ↓reduceIte] at own
    cases holds : findParticipant client.conference.participants participant.address with
    | none =>
      rw [holds] at own
      cases own
    | some held =>
      refine up.document rfl rfl (by simp) (.inr (.inl (by rw [holds]; rfl))) fun conference same me => ?_
      simp only [userApplied, me, itsMe, Bool.false_eq_true, ↓reduceIte, same, holds]
      refine ⟨up.distinct.eraseP _, fun address => ?_⟩
      have before := up.found address
      rw [findParticipant_eraseP valid.distinct, findParticipant_eraseP up.distinct]
      cases near : participant.address.weakEqual address with
      | false => exact before
      | true => exact .none

theorem subjectChanged (up : CatchingUp sip ending emptied start client server) (subject : String)
    (empty : subject = "" → emptied) :
    CatchingUp sip ending emptied start
      (client.conferenceInfoNotifyReceived sip now
        ({ ending with lastNotify := server.lastNotify + 1 }.createNotifySubjectChanged subject))
      ({ server with subject := subject }.notifyEvent (.subjectChanged subject)) := by
  obtain ⟨quiet, applied⟩ := @ClientConferenceEventHandler.received_subject sip now client
    { ending with lastNotify := server.lastNotify + 1 } up.entity up.waiting
    (by rw [up.lastNotify]; exact Nat.lt_succ_self _) subject
  constructor
  · rw [applied]
    exact up.entity
  · exact quiet.2.trans up.waiting
  · exact quiet.1.trans up.requests
  · rw [applied]
    rfl
  · rw [applied]
    by_cases blank : subject = ""
    · exact .inr ⟨blank, empty blank⟩
    · exact .inl (by simp [ServerConference.notifyEvent, blank])
  · rw [applied]
    exact up.me
  · rw [applied]
    exact up.distinct
  · rw [applied]
    exact up.found

theorem findDevice_ending (ending : Option Participant) (gruu : Address) :
    ending.bind (·.findDevice sip gruu) = (endDevices ending).find? fun device => sip.uriEquals device.address gruu := by
  cases ending with
  | none => rfl
  | some participant => rfl

theorem userDescribed_endpoint (conference : ClientConference) (entity : Address) (state : StateType)
    (endpoint : EndpointType) (participant : Participant) :
    userDescribed sip now false false conference { entity := entity, state := state, endpoint := [endpoint] }
      participant = endpointApplied sip now false conference participant endpoint := rfl

/-- One change of the server, and its document at the client. -/
theorem changes (up : CatchingUp sip ending emptied start client server) (lawful : sip.Lawful)
    (valid : server.Valid sip) (ends : ∀ address, EndingDevices sip (findParticipant ending.participants address))
    (focus : ending.me = server.me) {event : ConferenceEvent} (change : server.Change sip event changed)
    (empty : event = .subjectChanged "" → emptied) :
    CatchingUp sip ending emptied start
      (client.conferenceInfoNotifyReceived sip now
        ({ ending with lastNotify := server.lastNotify + 1 }.createNotifyOf sip event))
      (changed.notifyEvent event) := by
  cases change with
  | added sound unknown other => exact up.added lawful ends focus sound.pruned unknown other
  | removed found => exact up.removed valid found
  | @admin participant isAdmin found =>
    have document : { ending with lastNotify := server.lastNotify + 1 }.createNotifyOf sip
        (if isAdmin then .participantSetAdmin participant.address else .participantUnsetAdmin participant.address) =
        { ending with lastNotify := server.lastNotify + 1 }.createNotifyParticipantAdminStatusChanged
          participant.address isAdmin := by
      cases isAdmin <;> rfl
    rw [document]
    refine up.stored found rfl rfl rfl (by simp) fun conference held follows => ?_
    have admin : (userDescribed sip now false false conference
        { entity := participant.address
          state := .partialState
          roles := some [if isAdmin then "admin" else "participant"] } held).isAdmin = isAdmin := by
      refine (fillParticipantAttributes_admin _ _ _ _ _).trans ?_
      cases isAdmin <;> decide
    exact { follows with admin := .inl admin }
  | @deviceAdded participant device found bare fresh =>
    have other := valid.focus _ (findParticipant_mem found)
    refine up.stored found rfl rfl rfl ?_ fun conference held follows => ?_
    · intro endpoint single
      rw [List.mem_singleton.mp single]
      split <;> simp [endpointOf]
    · rw [participantOf_ending focus other, findDevice_ending, userDescribed_endpoint]
      refine follows.addDevice lawful (ends _) fresh bare rfl ?_ ?_ ?_
      · split <;> rfl
      · split <;> rfl
      · split
        next known found => rw [found]; rfl
        next unknown => rw [unknown]; rfl
  | @deviceRemoved participant gruu found present =>
    have other := valid.focus _ (findParticipant_mem found)
    refine up.stored found rfl rfl rfl (by simp) fun conference held follows => ?_
    rw [participantOf_ending focus other, findDevice_ending]
    rw [userDescribed_endpoint]
    exact follows.removeDevice lawful (ends _) (valid.sound _ (findParticipant_mem found)).apart present rfl rfl rfl
  | subject subject => exact up.subjectChanged subject fun blank => empty (by rw [blank])

theorem follow (up : CatchingUp sip ending emptied start client server) (lawful : sip.Lawful)
    (valid : server.Valid sip) (ends : ∀ address, EndingDevices sip (findParticipant ending.participants address))
    {stored : List ConferenceNotifiedEvent} {final : ServerConference} (run : server.Stores sip stored final)
    (focus : ending.me = server.me) (empty : ∀ event ∈ stored, event.event = .subjectChanged "" → emptied)
    (clock : ConferenceType → Int) :
    CatchingUp sip ending emptied start
      (client.multipartNotifyReceived sip clock (stored.map fun event =>
        { ending with lastNotify := event.notifyId }.createNotifyOf sip event.event)) final := by
  induction run generalizing client with
  | nothing => exact up
  | next change rest ih =>
    rw [List.map_cons, ClientConferenceEventHandler.multipartNotifyReceived_cons]
    refine ih (up.changes lawful valid ends focus change ?_) ((change.valid valid).notifyEvent _)
      (focus.trans change.frame.2.2.1.symm) fun event member => empty event (List.mem_cons_of_mem _ member)
    exact empty ⟨_, _⟩ List.mem_cons_self

end CatchingUp

/-- Two copies of a participant, devices in any order. -/
structure SameParticipant (client server : Participant) : Prop where
  address : client.address = server.address
  admin : client.isAdmin = server.isAdmin
  devices : (Following.deviceDialogs client).Perm (Following.deviceDialogs server)

/-- The client has what the server has, its own participant apart. -/
structure UpToDate (sip : BelleSip) (client : ClientConferenceEventHandler) (server : ServerConference) : Prop where
  entity : client.conference.isEntity sip (some server.conferenceAddress) = true
  waiting : client.waitingFullState = false
  lastNotify : client.conference.lastNotify = server.lastNotify
  subject : client.conference.subject = server.subject
  distinct : DistinctKeys Participant.key client.conference.participants
  participants : ∀ address, Option.Rel SameParticipant (findParticipant client.conference.participants address)
    ((findParticipant server.participants address).filter fun participant =>
      !client.conference.isMe sip participant.address)

/-- Nothing is missed of two copies that are the same, whatever comes in the end. -/
theorem SameParticipant.following {sip : BelleSip} {client server : Participant} (same : SameParticipant client server)
    (lawful : sip.Lawful) (apart : DevicesApart sip server.deviceAddresses) (ending : Option Participant) :
    Following sip ending client server := by
  have addresses : client.deviceAddresses.Perm server.deviceAddresses := by
    have mapped := same.devices.map Prod.fst
    rw [Following.deviceDialogs, Following.deviceDialogs, List.map_map, List.map_map] at mapped
    exact mapped
  refine ⟨same.address, .inl same.admin, ?_, ?_, ?_, ?_⟩
  · exact (addresses.pairwise_iff fun {first second} different => lawful.symm first second ▸ different).mpr apart
  · exact fun device member => .inl (addresses.mem_iff.mp member)
  · exact fun device there known inside equal kept =>
      addresses.mem_iff.mpr (List.mem_map.mpr ⟨device, there, rfl⟩)
  · intro device member alone known inside equal
    have entry : (device.address, device.dialog) ∈ Following.deviceDialogs server :=
      same.devices.mem_iff.mp (List.mem_map.mpr ⟨device, member, rfl⟩)
    obtain ⟨held, there, copied⟩ := List.mem_map.mp entry
    exact .inr ⟨held, there, congrArg Prod.fst copied, congrArg Prod.snd copied⟩

theorem UpToDate.catchingUp {sip : BelleSip} {client : ClientConferenceEventHandler} {server ending : ServerConference}
    (upToDate : UpToDate sip client server) (lawful : sip.Lawful) (valid : server.Valid sip)
    (address : ending.conferenceAddress = server.conferenceAddress) (emptied : Prop) :
    CatchingUp sip ending emptied client client server := by
  refine ⟨address ▸ upToDate.entity, upToDate.waiting, rfl, upToDate.lastNotify, .inl upToDate.subject, rfl,
    upToDate.distinct, fun address => ?_⟩
  refine optionRel_imp (upToDate.participants address) fun held participant found same => ?_
  have member := findParticipant_mem (Option.filter_eq_some_iff.mp found).1
  exact same.following lawful (valid.sound participant member).apart _

/-- A client that missed events and received their documents has what the server
has. -/
theorem CatchingUp.upToDate {sip : BelleSip} {start client : ClientConferenceEventHandler} {server : ServerConference}
    {emptied : Prop} (up : CatchingUp sip server emptied start client server) (lawful : sip.Lawful)
    (valid : server.Valid sip) (titled : server.subject = "" → ¬ emptied) : UpToDate sip client server := by
  refine ⟨up.entity, up.waiting, up.lastNotify, ?_, up.distinct, fun address => ?_⟩
  · rcases up.subject with same | ⟨blank, emptied⟩
    · exact same
    · exact absurd emptied (titled blank)
  · simp only [up.isMe]
    refine optionRel_imp (up.found address) fun held participant found follows => ?_
    have there := (Option.filter_eq_some_iff.mp found).1
    rw [there] at follows
    obtain ⟨named, admin, devices⟩ := follows.finished lawful (valid.sound participant (findParticipant_mem there)).apart
    exact ⟨named, admin, devices⟩

namespace ServerConference

/-- A conference that was just created. -/
theorem Valid.created {sip : BelleSip} {server : ServerConference} (alone : server.participants = [])
    (unwritten : server.events = []) : server.Valid sip where
  distinct := by simp [alone, DistinctKeys]
  sound := by simp [alone]
  focus := by simp [alone]
  numbered := by simp [unwritten]

end ServerConference

/-- A client that had what the server had at some version is sent the events since,
and then it has what the server has. -/
theorem createNotifyMultipart_catches_up {sip : BelleSip} (lawful : sip.Lawful) {created : ServerConference}
    (alone : created.participants = []) (unwritten : created.events = []) (before after : List ServerOperation)
    {client : ClientConferenceEventHandler} (clock : ConferenceType → Int)
    (synchronized : UpToDate sip client (created.perform sip before))
    (calls : ∀ participant ∈ (created.perform sip (before ++ after)).participants, CallsApart participant.devices)
    (titled : (created.perform sip (before ++ after)).subject = "" →
      ∀ event ∈ (created.perform sip (before ++ after)).getConferenceNotifiedEvents client.conference.lastNotify,
        event.event ≠ .subjectChanged "") :
    let server := created.perform sip (before ++ after)
    let multipart := server.createNotifyMultipart sip client.conference.lastNotify
    let final := client.multipartNotifyReceived sip clock multipart.1
    UpToDate sip final server ∧ final.requests = client.requests ∧ multipart.2 = server := by
  intro server multipart final
  obtain ⟨early, past⟩ := ServerConference.perform_stores lawful before created
  obtain ⟨stored, run⟩ := ServerConference.perform_stores lawful after (created.perform sip before)
  have appended : (created.perform sip before).perform sip after = server := by
    simp only [server, ServerConference.perform, List.foldl_append]
  rw [appended] at run
  have valid := past.valid (.created alone unwritten)
  have validEnd := run.valid valid
  have missed : server.getConferenceNotifiedEvents client.conference.lastNotify = stored := by
    rw [synchronized.lastNotify]
    exact run.getConferenceNotifiedEvents valid
  have ends (address : Address) : EndingDevices sip (findParticipant server.participants address) := by
    cases found : findParticipant server.participants address with
    | none => exact ⟨.nil, by simp [endAddresses, endDevices], by simp [CallsApart, endDevices]⟩
    | some participant =>
      have member := findParticipant_mem found
      exact ⟨(validEnd.sound participant member).apart, (validEnd.sound participant member).bare,
        calls participant member⟩
  have up := (synchronized.catchingUp lawful valid run.frame.2
    (∃ event ∈ stored, event.event = .subjectChanged "")).follow lawful valid ends run run.frame.1
    (fun event member blank => ⟨event, member, blank⟩) clock
  have written : multipart = (stored.map fun event =>
      { server with lastNotify := event.notifyId }.createNotifyOf sip event.event, server) := by
    simp only [multipart, ServerConference.createNotifyMultipart, missed, ServerConference.appendNotify_fold,
      List.nil_append, run.lastNotify]
  simp only [final, written]
  refine ⟨up.upToDate lawful validEnd ?_, up.requests, trivial⟩
  rintro blank ⟨event, member, change⟩
  exact titled blank event (missed ▸ member) change

theorem SameParticipant.refl (participant : Participant) : SameParticipant participant participant :=
  ⟨rfl, rfl, .refl _⟩

/-- A client that holds a copy of the participants, none of them its own. -/
theorem UpToDate.copied {sip : BelleSip} {client : ClientConferenceEventHandler} {server : ServerConference}
    (distinct : DistinctKeys Participant.key server.participants)
    (entity : client.conference.isEntity sip (some server.conferenceAddress) = true)
    (waiting : client.waitingFullState = false) (version : client.conference.lastNotify = server.lastNotify)
    (subject : client.conference.subject = server.subject)
    (same : client.conference.participants = server.participants)
    (others : ∀ participant ∈ server.participants, client.conference.isMe sip participant.address = false) :
    UpToDate sip client server := by
  refine ⟨entity, waiting, version, subject, same ▸ distinct, fun address => ?_⟩
  rw [same]
  cases found : findParticipant server.participants address with
  | none => exact .none
  | some participant =>
    rw [Option.filter_some_pos (by simp [others participant (findParticipant_mem found)])]
    exact .some (.refl participant)

section Runs

def bob : Address := { username := some "bob", domain := "sip" }

def phone (number callId : String) : ParticipantDevice where
  address := { bob with uriParams := [("gr", number)] }
  dialog := { callId := callId }

def created : ServerConference where
  conferenceAddress := { domain := "conference" }
  me := { address := { username := some "focus", domain := "sip" } }

/-- A client that holds what a server holds. -/
def copyOf (server : ServerConference) : ClientConferenceEventHandler where
  conference :=
    { conferenceAddress := some server.conferenceAddress
      me := { address := { username := some "alice", domain := "sip" } }
      participants := server.participants
      subject := server.subject
      lastNotify := server.lastNotify }

theorem createNotifyMultipart_catches_up_joined :
    let before := [.addParticipant { address := bob, devices := [phone "1" "first"] }, .setUtf8Subject "weekly"]
    let after := [.setParticipantAdminStatus bob true, .removeParticipantDevice bob (phone "1" "").address,
      .addParticipantDevice bob (phone "2" "second"), .removeParticipant bob,
      .addParticipant { address := bob, devices := [phone "1" "third"] }, .setUtf8Subject "daily"]
    let server := created.perform .fieldwise (before ++ after)
    let client := copyOf (created.perform .fieldwise before)
    server.lastNotify = 8 ∧ client.conference.lastNotify = 2 ∧
      UpToDate .fieldwise (client.multipartNotifyReceived .fieldwise (fun _ => 0)
        (server.createNotifyMultipart .fieldwise 2).1) server := by
  intro before after server client
  refine ⟨by decide, by decide, ?_⟩
  refine (createNotifyMultipart_catches_up BelleSip.fieldwise_lawful rfl rfl before after (fun _ => 0) ?_ ?_ ?_).1
  · exact .copied (by decide) (by decide) rfl rfl rfl rfl (by decide)
  · simp only [CallsApart]
    decide
  · decide

/-- An empty subject is not taken over. Of two devices in one call the wrong one is
removed. -/
theorem createNotifyMultipart_loses_device :
    (let server := created.perform .fieldwise [.setUtf8Subject "weekly", .setUtf8Subject ""]
      let client := copyOf (created.perform .fieldwise [.setUtf8Subject "weekly"])
      UpToDate .fieldwise client (created.perform .fieldwise [.setUtf8Subject "weekly"]) ∧
        (client.multipartNotifyReceived .fieldwise (fun _ => 0)
          (server.createNotifyMultipart .fieldwise client.conference.lastNotify).1).conference.subject ≠
          server.subject) ∧
      (let before := [.addParticipant { address := bob, devices := [phone "1" "call", phone "2" "call"] }]
        let after := [.removeParticipantDevice bob (phone "2" "").address, .addParticipantDevice bob (phone "2" "call")]
        let server := created.perform .fieldwise (before ++ after)
        let client := copyOf (created.perform .fieldwise before)
        let final := client.multipartNotifyReceived .fieldwise (fun _ => 0)
          (server.createNotifyMultipart .fieldwise client.conference.lastNotify).1
        UpToDate .fieldwise client (created.perform .fieldwise before) ∧
          (server.participants.map (·.deviceAddresses) =
            [[(phone "1" "").address, (phone "2" "").address]]) ∧
          final.conference.participants.map (·.deviceAddresses) = [[(phone "2" "").address]]) := by
  refine ⟨⟨?_, by decide⟩, ?_, by decide, by decide⟩
  · exact .copied (by decide) (by decide) rfl rfl rfl rfl (by decide)
  · exact .copied (by decide) (by decide) rfl rfl rfl rfl (by decide)

end Runs

end Liblinphone
