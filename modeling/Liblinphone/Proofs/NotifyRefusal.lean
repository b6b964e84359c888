import Liblinphone.ClientConferenceEventHandler
import Liblinphone.Library.Run
import Mathlib.Tactic.ByContra

/-! A document that the client refuses leaves its copy of the conference alone.
One that it applies moves its version forward, unless the document does not fit
the copy: then the version is dropped and the full state is requested. -/

namespace Liblinphone.ClientConferenceEventHandler
open Library

/-- How often the handler asked for the full state. -/
def requests (handler : ClientConferenceEventHandler) : Nat := handler.raised.count .fullStateRequested

/-- The document is not even looked at, or it is older than what was applied. -/
def Refuses (sip : BelleSip) (handler : ClientConferenceEventHandler) (confInfo : ConferenceType) : Prop :=
  handler.conference.isEntity sip confInfo.entity = false ∨
    confInfo.isFullState = false ∧ (handler.waitingFullState = true ∨ handler.isStale confInfo = true)

/-- The document brings changes, and it is applied. -/
def AppliesChange (sip : BelleSip) (handler : ClientConferenceEventHandler) (confInfo : ConferenceType) : Prop :=
  confInfo.isFullState = false ∧ ¬ Refuses sip handler confInfo

/-- A document is received, and a version that it brings is the last one then. -/
def receive (sip : BelleSip) (now : Int) (handler : ClientConferenceEventHandler) (confInfo : ConferenceType) :
    ClientConferenceEventHandler × List Nat :=
  let final := handler.conferenceInfoNotifyReceived sip now confInfo
  (final, if confInfo.version.isSome then [final.conference.lastNotify] else [])

@[simp] theorem notify_requests (handler : ClientConferenceEventHandler)
    (notifications : List ConferenceNotification) :
    (handler.notify notifications).requests = handler.requests + notifications.count .fullStateRequested := by
  simp [requests, notify]

@[simp] theorem requestFullState_requests (handler : ClientConferenceEventHandler) :
    handler.requestFullState.requests = handler.requests + 1 := by
  simp [requests, requestFullState_raised]

/-- From one handler to a later one: without a request the version stays, with
one it is dropped. -/
structure Follows (start final : ClientConferenceEventHandler) : Prop where
  more : start.requests ≤ final.requests
  kept : final.requests = start.requests → final.conference.lastNotify = start.conference.lastNotify
  dropped : final.requests ≠ start.requests → final.conference.lastNotify = 0

namespace Follows

variable {start middle final : ClientConferenceEventHandler}

theorem of_unchanged (requests : final.requests = start.requests)
    (lastNotify : final.conference.lastNotify = start.conference.lastNotify) : Follows start final where
  more := requests.ge
  kept := fun _ => lastNotify
  dropped := fun different => absurd requests different

theorem requested (handler : ClientConferenceEventHandler) : Follows handler handler.requestFullState where
  more := by simp
  kept := by simp
  dropped := by simp

theorem trans (left : Follows start middle) (right : Follows middle final) : Follows start final where
  more := left.more.trans right.more
  kept := by
    intro same
    have before := left.more
    have after := right.more
    rw [right.kept (by omega), left.kept (by omega)]
  dropped := by
    intro different
    by_cases late : final.requests = middle.requests
    · rw [right.kept late]
      exact left.dropped (by omega)
    · exact right.dropped late

end Follows

section Users

variable (sip : BelleSip) (now : Int) (old : List Participant) (isFullState isMe : Bool)

theorem fillParticipantAttributes_requests (roles : Option (List String)) (state : StateType) (notify : Bool)
    (participant : Participant) :
    (fillParticipantAttributes roles state isFullState notify participant).2.count .fullStateRequested = 0 := by
  cases roles with
  | none => rfl
  | some entry =>
    simp only [fillParticipantAttributes, List.count_append]
    split <;> split <;> simp

theorem endpointNotifications_requests (user : Address) (endpoint : EndpointType) (gruu : Address)
    (participant : Participant) (device : Option ParticipantDevice) :
    (endpointNotifications sip old isFullState isMe user endpoint gruu participant device).count
      .fullStateRequested = 0 := by
  unfold endpointNotifications
  split
  · split <;> simp
  · split
    · split <;> simp
    · simp
  · simp

theorem endpointNotified_follows (user : Address) (state : Participant × ClientConferenceEventHandler)
    (endpoint : EndpointType) :
    Follows state.2 (endpointNotified sip now old isFullState isMe user state endpoint).2 := by
  unfold endpointNotified
  cases endpoint.entity with
  | none => exact .of_unchanged rfl rfl
  | some gruu =>
    cases applied : applyEndpoint sip now state.2.conference isMe endpoint gruu state.1 with
    | none =>
      simp only [applied]
      exact .requested state.2
    | some result =>
      simp only [applied]
      exact .of_unchanged (by simp [endpointNotifications_requests]) rfl

theorem endpoints_follow (user : Address) (endpoints : List EndpointType)
    (state : Participant × ClientConferenceEventHandler) :
    Follows state.2 (endpoints.foldl (endpointNotified sip now old isFullState isMe user) state).2 := by
  induction endpoints generalizing state with
  | nil => exact .of_unchanged rfl rfl
  | cons endpoint rest ih =>
    exact (endpointNotified_follows sip now old isFullState isMe user state endpoint).trans (ih _)

theorem storeParticipant_lastNotify (conference : ClientConference) (address : Address) (participant : Participant) :
    (conference.storeParticipant isMe address participant).lastNotify = conference.lastNotify := by
  unfold ClientConference.storeParticipant
  split <;> rfl

theorem participantNotified_follows (user : UserType) (participant : Participant)
    (handler : ClientConferenceEventHandler) :
    Follows handler (participantNotified sip now old isFullState isMe user participant handler) := by
  have filled := fillParticipantAttributes_requests isFullState user.roles user.state true participant
  have announced : Follows handler (handler.notify
      (fillParticipantAttributes user.roles user.state isFullState true participant).2) :=
    .of_unchanged (by simp [filled]) rfl
  refine (announced.trans (endpoints_follow sip now old isFullState isMe user.entity user.endpoint
    ((fillParticipantAttributes user.roles user.state isFullState true participant).1, _))).trans ?_
  exact .of_unchanged rfl (storeParticipant_lastNotify isMe _ _ _)

theorem userNotified_follows (handler : ClientConferenceEventHandler) (user : UserType) :
    Follows handler (userNotified sip now old isFullState handler user) := by
  unfold userNotified
  split
  · cases user.state with
    | deleted => exact .of_unchanged rfl rfl
    | full => exact participantNotified_follows sip now old isFullState true user _ handler
    | partialState => exact participantNotified_follows sip now old isFullState true user _ handler
  · cases findParticipant handler.conference.participants user.entity with
    | none =>
      cases user.state with
      | full =>
        refine .trans ?_ (participantNotified_follows sip now old isFullState false user _ _)
        refine .of_unchanged ?_ rfl
        simp only [notify_requests]
        split <;> simp [addParticipant, requests]
      | deleted => exact .requested handler
      | partialState => exact .requested handler
    | some participant =>
      cases user.state with
      | deleted =>
        refine .of_unchanged ?_ rfl
        simp only [notify_requests]
        split <;> simp [removeParticipant, requests]
      | full => exact participantNotified_follows sip now old isFullState false user _ handler
      | partialState => exact participantNotified_follows sip now old isFullState false user _ handler

theorem users_follow (users : List UserType) (handler : ClientConferenceEventHandler) :
    Follows handler (users.foldl (userNotified sip now old isFullState) handler) := by
  induction users generalizing handler with
  | nil => exact .of_unchanged rfl rfl
  | cons user rest ih => exact (userNotified_follows sip now old isFullState handler user).trans (ih _)

end Users

section Document

variable {sip : BelleSip} {now : Int} {handler : ClientConferenceEventHandler} {confInfo : ConferenceType}

theorem subjectNotified_follows (isFullState : Bool) (handler : ClientConferenceEventHandler)
    (subject : Option String) : Follows handler (handler.subjectNotified isFullState subject) := by
  unfold subjectNotified
  cases subject with
  | none => exact .of_unchanged rfl rfl
  | some subject =>
    simp only
    split
    · refine .of_unchanged ?_ rfl
      simp only [notify_requests]
      split <;> simp [requests]
    · exact .of_unchanged rfl rfl

theorem availableMediaNotified_follows (handler : ClientConferenceEventHandler)
    (availableMedia : Option (List (LinphoneStreamType × MediaDirection))) :
    Follows handler (handler.availableMediaNotified availableMedia) := by
  unfold availableMediaNotified
  cases availableMedia with
  | none => exact .of_unchanged rfl rfl
  | some media =>
    simp only
    split <;> exact .of_unchanged rfl rfl

theorem descriptionNotified_follows (isFullState : Bool) (handler : ClientConferenceEventHandler)
    (description : Option ConferenceDescriptionType) :
    Follows handler (handler.descriptionNotified isFullState description) := by
  cases description with
  | none => exact .of_unchanged rfl rfl
  | some description =>
    refine (subjectNotified_follows isFullState handler description.subject).trans ?_
    exact availableMediaNotified_follows _ description.availableMedia

theorem refused_unchanged (now : Int) (refuses : Refuses sip handler confInfo) :
    (handler.conferenceInfoNotifyReceived sip now confInfo).conference.participants = handler.conference.participants ∧
      (handler.conferenceInfoNotifyReceived sip now confInfo).conference.me = handler.conference.me ∧
      (handler.conferenceInfoNotifyReceived sip now confInfo).conference.subject = handler.conference.subject := by
  unfold conferenceInfoNotifyReceived
  split
  · exact ⟨rfl, rfl, rfl⟩
  next looked =>
    split
    next entity =>
      rcases refuses with foreign | ⟨change, waiting | stale⟩
      · simp [entity] at foreign
      · simp [change, waiting] at looked
      · have older : { handler with waitingFullState := false }.isStale confInfo = true := stale
        simp [documentAccepted, older, change]
    · exact ⟨rfl, rfl, rfl⟩

theorem refused_waiting (now : Int) (foreign : handler.conference.isEntity sip confInfo.entity = false)
    (change : confInfo.isFullState = false) :
    (handler.conferenceInfoNotifyReceived sip now confInfo).waitingFullState = handler.waitingFullState := by
  cases waiting : handler.waitingFullState with
  | true => simp [conferenceInfoNotifyReceived, waiting, change]
  | false => simp [conferenceInfoNotifyReceived, waiting, foreign]

theorem applied_newer (applies : AppliesChange sip handler confInfo) {version : Nat}
    (versioned : confInfo.version = some version) : handler.conference.lastNotify < version := by
  obtain ⟨change, accepted⟩ := applies
  by_contra older
  refine accepted (.inr ⟨change, .inr ?_⟩)
  simp only [isStale, change, versioned, Option.any_some]
  simpa using older

theorem applied_follows (now : Int) (applies : AppliesChange sip handler confInfo) :
    Follows (handler.setLastNotify confInfo.version) (handler.conferenceInfoNotifyReceived sip now confInfo) := by
  obtain ⟨change, accepted⟩ := applies
  simp only [Refuses, not_or, not_and, change, true_implies, Bool.not_eq_false, Bool.not_eq_true] at accepted
  obtain ⟨entity, waiting, fresh⟩ := accepted
  have newer : { handler with waitingFullState := false }.isStale confInfo = false := fresh
  have entitled : { handler with waitingFullState := false }.conference.isEntity sip confInfo.entity = true := entity
  simp only [conferenceInfoNotifyReceived, waiting, Bool.false_and, Bool.false_eq_true, ↓reduceIte, entity,
    documentAccepted, newer, change, usersNotified]
  have described := descriptionNotified_follows false
    ({ handler with waitingFullState := false }.setLastNotify confInfo.version) confInfo.conferenceDescription
  have started : Follows (handler.setLastNotify confInfo.version)
      ({ handler with waitingFullState := false }.setLastNotify confInfo.version) := .of_unchanged rfl rfl
  cases confInfo.users with
  | none => exact started.trans described
  | some users => exact (started.trans described).trans (users_follow sip now _ false users _)

/-- Without a request the version that the document brings is the last one. -/
theorem applied_kept (now : Int) (applies : AppliesChange sip handler confInfo)
    (quiet : (handler.conferenceInfoNotifyReceived sip now confInfo).requests = handler.requests) :
    (handler.conferenceInfoNotifyReceived sip now confInfo).conference.lastNotify =
      confInfo.version.getD handler.conference.lastNotify :=
  (applied_follows now applies).kept quiet

theorem applied_version (now : Int) (applies : AppliesChange sip handler confInfo)
    (versioned : confInfo.version.isSome = true) :
    let final := handler.conferenceInfoNotifyReceived sip now confInfo
    handler.requests = final.requests ∧ handler.conference.lastNotify < final.conference.lastNotify ∨
      handler.requests < final.requests ∧ final.conference.lastNotify = 0 := by
  intro final
  obtain ⟨version, brought⟩ := Option.isSome_iff_exists.mp versioned
  have newer := applied_newer applies brought
  have follows := applied_follows now applies
  by_cases quiet : final.requests = handler.requests
  · refine .inl ⟨quiet.symm, ?_⟩
    rw [applied_kept now applies quiet, brought]
    exact newer
  · have more : handler.requests ≤ final.requests := follows.more
    exact .inr ⟨by omega, follows.dropped quiet⟩

/-- The versions seen so far grow, and the last one bounds them. -/
def Ordered (past : List Nat) (handler : ClientConferenceEventHandler) : Prop :=
  past.Pairwise (· < ·) ∧ ∀ version ∈ past, version ≤ handler.conference.lastNotify

theorem Ordered.receive {past : List Nat} (ordered : Ordered past handler)
    (applies : AppliesChange sip handler confInfo)
    (quiet : (handler.conferenceInfoNotifyReceived sip now confInfo).requests = handler.requests) :
    Ordered (past ++ (handler.receive sip now confInfo).2) (handler.receive sip now confInfo).1 := by
  have last := applied_kept now applies quiet
  cases brought : confInfo.version with
  | none =>
    rw [brought, Option.getD_none] at last
    simpa [ClientConferenceEventHandler.receive, brought, Ordered, last] using ordered
  | some version =>
    have newer := applied_newer applies brought
    rw [brought, Option.getD_some] at last
    simp only [ClientConferenceEventHandler.receive, brought, Option.isSome_some, ↓reduceIte, last]
    refine ⟨List.pairwise_append.mpr ⟨ordered.1, by simp, ?_⟩, ?_⟩
    · intro earlier member later single
      obtain rfl : later = version := by simpa using single
      exact (ordered.2 earlier member).trans_lt newer
    · intro other member
      rcases List.mem_append.mp member with before | single
      · exact last ▸ (ordered.2 other before).trans newer.le
      · obtain rfl : other = version := by simpa using single
        exact last.ge

end Document

/-- A refused document changes neither the participants, nor their devices, nor
the subject, and one that brings changes of another conference leaves a handler
waiting. An applied one with a version moves the version forward or, when it does
not fit, asks for the full state; without such requests the versions of a run
only grow. -/
theorem refusal_and_version_order (sip : BelleSip) (now : Int) (handler : ClientConferenceEventHandler) :
    (∀ confInfo, Refuses sip handler confInfo →
      let final := handler.conferenceInfoNotifyReceived sip now confInfo
      final.conference.participants = handler.conference.participants ∧
        final.conference.me.devices = handler.conference.me.devices ∧
        final.conference.subject = handler.conference.subject) ∧
      (∀ confInfo, handler.conference.isEntity sip confInfo.entity = false → confInfo.isFullState = false →
        (handler.conferenceInfoNotifyReceived sip now confInfo).waitingFullState = handler.waitingFullState) ∧
      (∀ confInfo, AppliesChange sip handler confInfo → confInfo.version.isSome = true →
        let final := handler.conferenceInfoNotifyReceived sip now confInfo
        handler.requests = final.requests ∧ handler.conference.lastNotify < final.conference.lastNotify ∨
          handler.requests < final.requests ∧ final.conference.lastNotify = 0) ∧
      ∀ documents,
        Meets (receive sip now) (fun handler confInfo => AppliesChange sip handler confInfo ∧
          (handler.conferenceInfoNotifyReceived sip now confInfo).requests = handler.requests) handler documents →
        (handler.conference.lastNotify :: (run (receive sip now) handler documents).2).Pairwise (· < ·) := by
  refine ⟨fun confInfo refuses => ?_, fun confInfo => refused_waiting now, fun confInfo => applied_version now, ?_⟩
  · obtain ⟨participants, me, subject⟩ := refused_unchanged now refuses
    exact ⟨participants, by rw [me], subject⟩
  · intro documents meets
    have start : Ordered ([handler.conference.lastNotify] ++ []) handler := ⟨by simp, by simp⟩
    have bounded := run_invariant (fun past current => Ordered ([handler.conference.lastNotify] ++ past) current)
      (fun past current confInfo guard ordered => by
        rw [← List.append_assoc]
        exact ordered.receive guard.1 guard.2) start meets
    simpa using bounded.1

/-- A client that follows a conference with one other participant. -/
def joined : ClientConferenceEventHandler where
  conference :=
    { conferenceAddress := some { domain := "conference" }
      me := { address := { username := some "alice", domain := "sip" } }
      participants := [{ address := { username := some "bob", domain := "sip" } }]
      subject := "weekly"
      lastNotify := 4 }

def adminGiven (user : String) (version : Nat) : ConferenceType where
  entity := some { domain := "conference" }
  state := .partialState
  version := some version
  users := some [{ entity := { username := some user, domain := "sip" }, state := .partialState, roles := some ["admin"] }]

theorem refusal_and_version_order_joined :
    (joined.conferenceInfoNotifyReceived .fieldwise 0 (adminGiven "bob" 3)).conference.subject = "weekly" ∧
      (joined.conferenceInfoNotifyReceived .fieldwise 0
        { adminGiven "bob" 5 with entity := some { domain := "other" } }).waitingFullState = false ∧
      ([4] ++ (run (receive .fieldwise 0) joined [adminGiven "bob" 5, adminGiven "bob" 7]).2).Pairwise (· < ·) := by
  obtain ⟨refused, waiting, -, ordered⟩ := refusal_and_version_order .fieldwise 0 joined
  refine ⟨(refused (adminGiven "bob" 3) ?_).2.2, waiting _ ?_ ?_, ordered [adminGiven "bob" 5, adminGiven "bob" 7] ?_⟩
  · exact .inr ⟨by decide, .inr (by decide)⟩
  · decide
  · decide
  · refine ⟨⟨⟨by decide, ?_⟩, by decide⟩, ⟨⟨by decide, ?_⟩, by decide⟩, trivial⟩
    · simp only [Refuses]
      decide
    · simp only [Refuses]
      decide

/-- A change for a participant that the client does not know drops the version. A
full state of another conference ends the wait, and one without users empties
the participants. -/
theorem version_dropped_unknown_participant :
    (AppliesChange .fieldwise joined (adminGiven "carol" 5) ∧
      ¬ joined.conference.lastNotify <
        (joined.conferenceInfoNotifyReceived .fieldwise 0 (adminGiven "carol" 5)).conference.lastNotify) ∧
      ({ joined with waitingFullState := true }.conferenceInfoNotifyReceived .fieldwise 0
        { entity := some { domain := "other" } }).waitingFullState = false ∧
      (joined.conferenceInfoNotifyReceived .fieldwise 0
        { entity := some { domain := "conference" } }).conference.participants = [] := by
  refine ⟨⟨⟨by decide, ?_⟩, by decide⟩, by decide, by decide⟩
  simp only [Refuses]
  decide

end Liblinphone.ClientConferenceEventHandler
