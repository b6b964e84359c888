import Liblinphone.ConferenceInvitations
import Liblinphone.Library.Run

/-! When the scheduler reports that the invitations were sent. The counters agree
with what became of each invitation as long as no failed invitation is sent again
and the last one to be settled is a message. -/

namespace Liblinphone
open Library

def ChatMessageState.isDelivered (state : ChatMessageState) : Bool :=
  state == .delivered || state == .deliveredToUser || state == .displayed

/-- The message reached its recipient at some time. -/
def InvitationMessage.delivered (message : InvitationMessage) : Bool := message.history.any (·.isDelivered)

namespace Invitation

def succeeded (invitation : Invitation) : Bool :=
  match invitation.progress with
  | .sent message => message.delivered
  | _ => false

/-- There was no chat room, or the message failed and was never delivered. -/
def failed (invitation : Invitation) : Bool :=
  match invitation.progress with
  | .waiting => false
  | .unreachable => true
  | .sent message => !message.delivered && message.history.contains .notDelivered

def settled (invitation : Invitation) : Bool := invitation.succeeded || invitation.failed

theorem not_both (invitation : Invitation) : (invitation.succeeded && invitation.failed) = false := by
  obtain ⟨participant, progress⟩ := invitation
  cases progress with
  | waiting => rfl
  | unreachable => rfl
  | sent message =>
    cases delivered : message.delivered with
    | true => simp [failed, delivered]
    | false => simp [succeeded, delivered]

end Invitation

namespace InvitationSending

/-- The invitations that failed, as the scheduler should report them. -/
def failures (sending : InvitationSending) : List Address :=
  (sending.invitations.filter Invitation.failed).map (·.participant)

/-- Completion is reported exactly once, when each invitation is settled, and with
those that failed. -/
structure Reported (sending : InvitationSending) : Prop where
  once : sending.raised.length ≤ 1
  complete : sending.raised ≠ [] ↔ ∀ invitation ∈ sending.invitations, invitation.settled = true
  errors : ∀ errors ∈ sending.raised, errors.Perm sending.failures
  apart : (sending.invitations.map (·.participant)).Nodup → ∀ errors ∈ sending.raised,
    errors.Nodup ∧ ∀ invitation ∈ sending.invitations, invitation.succeeded = true → invitation.participant ∉ errors

/-- No invitation that failed is sent again, the last one to be settled is a message,
and messages of earlier calls are no longer listened to. -/
def KeepsCount (sending : InvitationSending) : InvitationEvent → Prop
  | .sendInvitations invitationsToSend => invitationsToSend ≠ []
  | .sendNext hasChatRoom => hasChatRoom = true ∨
      sending.invitationsSent + sending.invitationsInError.length + 1 < sending.invitations.length
  | .stateChanged index _ _ =>
    ∀ message, (sending.invitations[index]?).bind Invitation.message? = some message → message.state ≠ .notDelivered
  | .earlierStateChanged index state _ =>
    ∀ message, sending.earlier[index]? = some message →
      message.listening = false ∨ state ≠ .notDelivered ∧ state.isDelivered = false

/-- A message that the scheduler still counts on. -/
structure Tracked (participant : Address) (message : InvitationMessage) : Prop where
  oneToOne : message.isOneToOne = true
  recipient : message.recipientAddress = participant
  listening : message.listening = !message.delivered
  last : message.delivered = false → .notDelivered ∈ message.history → message.state = .notDelivered

/-- The counters are those of the invitations. -/
structure Accounted (sending : InvitationSending) : Prop where
  sent : sending.invitationsSent = sending.invitations.countP Invitation.succeeded
  errors : sending.invitationsInError.Perm sending.failures
  tracked : ∀ invitation ∈ sending.invitations, ∀ message, invitation.message? = some message →
    Tracked invitation.participant message
  raised : sending.raised =
    if sending.invitations ≠ [] ∧ sending.invitations.all Invitation.settled then [sending.invitationsInError] else []

variable {sending : InvitationSending}

theorem countP_settled (invitations : List Invitation) :
    invitations.countP Invitation.succeeded + invitations.countP Invitation.failed =
      invitations.countP Invitation.settled := by
  induction invitations with
  | nil => rfl
  | cons invitation rest ih =>
    have exclusive := invitation.not_both
    cases succeeded : invitation.succeeded with
    | true =>
      have failed : invitation.failed = false := by simpa [succeeded] using exclusive
      simp only [List.countP_cons, Invitation.settled, succeeded, failed]
      simp
      omega
    | false =>
      cases failed : invitation.failed with
      | true =>
        simp only [List.countP_cons, Invitation.settled, succeeded, failed]
        simp
        omega
      | false =>
        simp only [List.countP_cons, Invitation.settled, succeeded, failed]
        simpa using ih

/-- The counters add up to the invitations when all of them are settled. -/
theorem Accounted.complete_iff (sent : sending.invitationsSent = sending.invitations.countP Invitation.succeeded)
    (errors : sending.invitationsInError.Perm sending.failures) :
    sending.invitationsSent + sending.invitationsInError.length = sending.invitations.length ↔
      sending.invitations.all Invitation.settled = true := by
  have failures : sending.invitationsInError.length = sending.invitations.countP Invitation.failed := by
    rw [errors.length_eq, failures, List.length_map, List.countP_eq_length_filter]
  rw [sent, failures, countP_settled, List.countP_eq_length, List.all_eq_true]

/-- When each participant is invited once, each failure is one address. -/
theorem failures_apart (distinct : (sending.invitations.map (·.participant)).Nodup) :
    sending.failures.Nodup ∧
      ∀ invitation ∈ sending.invitations, invitation.succeeded = true → invitation.participant ∉ sending.failures := by
  refine ⟨distinct.sublist (List.filter_sublist.map _), ?_⟩
  intro invitation member succeeded listed
  obtain ⟨other, inside, same⟩ := List.mem_map.mp listed
  obtain ⟨present, failed⟩ := List.mem_filter.mp inside
  obtain rfl : other = invitation := List.inj_on_of_nodup_map distinct present member same
  have exclusive := other.not_both
  simp [succeeded, failed] at exclusive

theorem Accounted.reported (accounted : sending.Accounted) (started : sending.invitations ≠ []) : sending.Reported := by
  have raised := accounted.raised
  have errors : ∀ errors ∈ sending.raised, errors.Perm sending.failures := by
    intro errors member
    rw [raised] at member
    split at member
    · obtain rfl := List.mem_singleton.mp member
      exact accounted.errors
    · simp at member
  refine ⟨?_, ?_, errors, ?_⟩
  · rw [raised]
    split <;> simp
  · rw [raised, ← List.all_eq_true]
    cases sending.invitations.all Invitation.settled <;> simp [started]
  · intro distinct reported member
    obtain ⟨nodup, separate⟩ := failures_apart distinct
    have same := errors reported member
    refine ⟨same.nodup_iff.mpr nodup, fun invitation inside succeeded listed => ?_⟩
    exact separate invitation inside succeeded (same.mem_iff.mp listed)

/-- One invitation, and the same one later. -/
structure Replaced (before after : List Invitation) (invitation next : Invitation) (sending final : InvitationSending) :
    Prop where
  whole : sending.invitations = before ++ invitation :: after
  final : final.invitations = before ++ next :: after
  participant : next.participant = invitation.participant
  tracked : ∀ message, next.message? = some message → Tracked next.participant message

section Replaced

variable {final : InvitationSending} {before after : List Invitation} {invitation next : Invitation}

theorem Replaced.tracks (replaced : Replaced before after invitation next sending final) (accounted : sending.Accounted) :
    ∀ invitation ∈ final.invitations, ∀ message, invitation.message? = some message →
      Tracked invitation.participant message := by
  intro other member message holds
  rw [replaced.final] at member
  rcases List.mem_append.mp member with early | late
  · exact accounted.tracked other (by simp [replaced.whole, early]) message holds
  · rcases List.mem_cons.mp late with rfl | later
    · exact replaced.tracked message holds
    · exact accounted.tracked other (by simp [replaced.whole, later]) message holds

/-- An invitation that keeps its outcome, or has none yet. -/
theorem Replaced.same (replaced : Replaced before after invitation next sending final) (accounted : sending.Accounted)
    (succeeded : next.succeeded = invitation.succeeded) (failed : next.failed = invitation.failed)
    (sent : final.invitationsSent = sending.invitationsSent)
    (errors : final.invitationsInError = sending.invitationsInError) (raised : final.raised = sending.raised) :
    final.Accounted where
  sent := by
    rw [sent, accounted.sent, replaced.whole, replaced.final]
    simp [List.countP_cons, succeeded]
  errors := by
    rw [errors]
    refine accounted.errors.trans (.of_eq ?_)
    rw [failures, failures, replaced.whole, replaced.final]
    simp only [List.filter_append, List.filter_cons, failed, List.map_append]
    split
    · simp [replaced.participant]
    · rfl
  tracked := replaced.tracks accounted
  raised := by
    rw [raised, accounted.raised, errors, replaced.whole, replaced.final]
    simp [Invitation.settled, succeeded, failed]

/-- The counters after an invitation was settled, before completion is checked. -/
theorem Replaced.settles (replaced : Replaced before after invitation next sending final) (accounted : sending.Accounted)
    (unsettled : invitation.settled = false)
    (sent : final.invitationsSent = sending.invitationsSent + if next.succeeded then 1 else 0)
    (errors : final.invitationsInError =
      sending.invitationsInError ++ if next.failed then [invitation.participant] else []) :
    final.invitationsSent = final.invitations.countP Invitation.succeeded ∧
      final.invitationsInError.Perm final.failures ∧ sending.raised = [] := by
  simp only [Invitation.settled, Bool.or_eq_false_iff] at unsettled
  refine ⟨?_, ?_, ?_⟩
  · rw [sent, accounted.sent, replaced.whole, replaced.final]
    simp only [List.countP_append, List.countP_cons, unsettled.1, Bool.false_eq_true, ↓reduceIte]
    omega
  · rw [errors, failures, replaced.final]
    have counted := accounted.errors
    rw [failures, replaced.whole] at counted
    simp only [List.filter_append, List.filter_cons, unsettled.2, Bool.false_eq_true, ↓reduceIte, List.map_append] at counted ⊢
    cases next.failed with
    | false => simpa using counted
    | true =>
      simp only [↓reduceIte, List.map_cons, replaced.participant]
      refine (counted.append_right _).trans ?_
      rw [List.append_assoc]
      exact (List.perm_append_singleton _ _).append_left _
  · rw [accounted.raised, replaced.whole]
    simp [Invitation.settled, unsettled]

/-- An invitation is settled and completion is checked. -/
theorem Replaced.settled (replaced : Replaced before after invitation next sending final) (accounted : sending.Accounted)
    (unsettled : invitation.settled = false)
    (sent : final.invitationsSent = sending.invitationsSent + if next.succeeded then 1 else 0)
    (errors : final.invitationsInError =
      sending.invitationsInError ++ if next.failed then [invitation.participant] else [])
    (raised : final.raised = sending.raised) : final.notifyInvitationsSent.Accounted := by
  obtain ⟨counted, failures, quiet⟩ := replaced.settles accounted unsettled sent errors
  have started : final.invitations ≠ [] := by simp [replaced.final]
  have complete := Accounted.complete_iff counted failures
  unfold notifyInvitationsSent
  split
  next full =>
    refine ⟨counted, failures, replaced.tracks accounted, ?_⟩
    simp [raised, quiet, started, complete.mp full]
  next short =>
    refine ⟨counted, failures, replaced.tracks accounted, ?_⟩
    rw [raised, quiet, if_neg]
    exact fun whole => short (complete.mpr whole.2)

end Replaced

/-- Completion may be checked before the list of invitations is written back. -/
theorem Accounted.written (sending : InvitationSending) {invitations : List Invitation}
    (same : invitations.length = sending.invitations.length)
    (accounted : { sending with invitations := invitations }.notifyInvitationsSent.Accounted) :
    { sending.notifyInvitationsSent with invitations := invitations }.Accounted := by
  have commutes : { sending.notifyInvitationsSent with invitations := invitations } =
      { sending with invitations := invitations }.notifyInvitationsSent := by
    simp only [notifyInvitationsSent, same]
    split <;> rfl
  rw [commutes]
  exact accounted

/-- What a state change does to a message that is tracked. -/
theorem Tracked.moved {participant : Address} {message : InvitationMessage} (tracked : Tracked participant message)
    (kept : message.state ≠ .notDelivered) {state : ChatMessageState} {listening : Bool}
    (listens : listening = (message.listening && !state.isDelivered)) :
    Tracked participant { message with history := state :: message.history, listening := listening } := by
  refine ⟨tracked.oneToOne, tracked.recipient, ?_, ?_⟩
  · simp [listens, tracked.listening, InvitationMessage.delivered, Bool.and_comm]
  · intro undelivered failed
    simp only [InvitationMessage.delivered, List.any_cons, Bool.or_eq_false_iff] at undelivered
    rcases List.mem_cons.mp failed with rfl | earlier
    · rfl
    · exact absurd (tracked.last undelivered.2 earlier) kept

section StateChange

variable {invitation : Invitation} {message : InvitationMessage} {state : ChatMessageState}

/-- An invitation whose message was neither delivered nor failed. -/
theorem Tracked.unsettled (tracked : Tracked invitation.participant message) (holds : invitation.progress = .sent message)
    (kept : message.state ≠ .notDelivered) (listening : message.listening = true) : invitation.settled = false := by
  have undelivered : message.delivered = false := by simpa [listening] using tracked.listening
  have unfailed : .notDelivered ∉ message.history := fun failed => kept (tracked.last undelivered failed)
  simp [Invitation.settled, Invitation.succeeded, Invitation.failed, holds, undelivered, unfailed]

/-- A state that settles nothing leaves the outcome of the invitation. -/
theorem outcome_kept (holds : invitation.progress = .sent message) (other : message.listening = false ∨
      state ≠ .notDelivered ∧ state.isDelivered = false) (tracked : Tracked invitation.participant message) :
    let next := { invitation with progress := .sent { message with history := state :: message.history } }
    next.succeeded = invitation.succeeded ∧ next.failed = invitation.failed := by
  rcases other with silent | ⟨unfailed, undelivered⟩
  · have delivered : message.delivered = true := by simpa [silent] using tracked.listening
    have again : { message with history := state :: message.history }.delivered = true := by
      simp only [InvitationMessage.delivered, List.any_cons, Bool.or_eq_true]
      exact .inr delivered
    simp [Invitation.succeeded, Invitation.failed, holds, delivered, again]
  · have same : { message with history := state :: message.history }.delivered = message.delivered := by
      simp [InvitationMessage.delivered, undelivered]
    simp [Invitation.succeeded, Invitation.failed, holds, same, Ne.symm unfailed]

end StateChange

theorem onChatMessageStateChanged_delivered (message : InvitationMessage) (report : RoomReport)
    {state : ChatMessageState} (delivered : state.isDelivered = true) :
    sending.onChatMessageStateChanged message report state =
      ({ sending with invitationsSent := sending.invitationsSent + 1 }.notifyInvitationsSent,
        { message with listening := false }) := by
  cases state <;> first | rfl | simp [ChatMessageState.isDelivered] at delivered

theorem onChatMessageStateChanged_notDelivered {message : InvitationMessage} (oneToOne : message.isOneToOne = true)
    (report : RoomReport) :
    sending.onChatMessageStateChanged message report .notDelivered =
      ({ sending with
          invitationsInError :=
            sending.invitationsInError ++ [message.recipientAddress] }.notifyInvitationsSent, message) := by
  simp [onChatMessageStateChanged, failedParticipants, oneToOne]

theorem onChatMessageStateChanged_other (message : InvitationMessage) (report : RoomReport) {state : ChatMessageState}
    (unfailed : state ≠ .notDelivered) (undelivered : state.isDelivered = false) :
    sending.onChatMessageStateChanged message report state = (sending, message) := by
  cases state <;> first | rfl | exact absurd rfl unfailed | simp [ChatMessageState.isDelivered] at undelivered

theorem notifyInvitationsSent_kept : sending.notifyInvitationsSent.invitations = sending.invitations := by
  unfold notifyInvitationsSent
  split <;> rfl

theorem Accounted.stateChanged (accounted : sending.Accounted) (index : Nat) (state : ChatMessageState)
    (report : RoomReport) (keeps : KeepsCount sending (.stateChanged index state report)) :
    (sending.step (.stateChanged index state report)).Accounted := by
  simp only [step]
  cases found : (sending.invitations[index]?).bind Invitation.message? with
  | none => exact accounted
  | some message =>
    have kept := keeps message found
    obtain ⟨invitation, there, holds⟩ := Option.bind_eq_some_iff.mp found
    obtain ⟨before, after, whole, modified⟩ := getElem?_split there
    have tracked := accounted.tracked invitation (by simp [whole]) message holds
    have progress : invitation.progress = .sent message := by
      unfold Invitation.message? at holds
      split at holds
      next other same => rw [same, Option.some.inj holds]
      next => simp at holds
    have replaced (final : InvitationSending) (moved : InvitationMessage)
        (result : final.invitations = before ++ { invitation with progress := .sent moved } :: after)
        (tracks : Tracked invitation.participant moved) :
        Replaced before after invitation { invitation with progress := .sent moved } sending final :=
      ⟨whole, result, rfl, fun other named => (Option.some.inj named) ▸ tracks⟩
    have sized (moved : InvitationMessage) :
        (before ++ { invitation with progress := .sent moved } :: after).length = sending.invitations.length := by
      simp [whole]
    simp only [setState]
    split
    next valid =>
      split
      next listening =>
        have unsettled := tracked.unsettled progress kept listening
        have undelivered : message.delivered = false := by simpa [listening] using tracked.listening
        cases delivered : state.isDelivered with
        | true =>
          have moved := @Tracked.moved _ message tracked kept state false (by simp [delivered])
          simp only [onChatMessageStateChanged_delivered _ report delivered, notifyInvitationsSent_kept, modified]
          apply Accounted.written { sending with invitationsSent := sending.invitationsSent + 1 } (sized _)
          refine (replaced _ _ rfl moved).settled accounted unsettled ?_ ?_ rfl
          · simp [Invitation.succeeded, InvitationMessage.delivered, delivered]
          · simp [Invitation.failed, InvitationMessage.delivered, delivered]
        | false =>
          have moved := @Tracked.moved _ message tracked kept state message.listening (by simp [delivered])
          by_cases fails : state = .notDelivered
          · subst fails
            have told := @onChatMessageStateChanged_notDelivered sending
              { message with history := .notDelivered :: message.history } tracked.oneToOne report
            simp only [told, notifyInvitationsSent_kept, modified]
            apply Accounted.written
              { sending with invitationsInError := sending.invitationsInError ++ [message.recipientAddress] } (sized _)
            refine (replaced _ _ rfl moved).settled accounted unsettled ?_ ?_ rfl
            · simpa [Invitation.succeeded, InvitationMessage.delivered, delivered] using undelivered
            · have still : { message with history := .notDelivered :: message.history }.delivered = false := by
                simpa [InvitationMessage.delivered, delivered] using undelivered
              simp only [Invitation.failed, still]
              simp [tracked.recipient]
          · simp only [onChatMessageStateChanged_other _ report fails delivered]
            obtain ⟨succeeded, failed⟩ := @outcome_kept invitation message state progress (.inr ⟨fails, delivered⟩) tracked
            exact (replaced _ _ (modified _) moved).same accounted succeeded failed rfl rfl rfl
      next silent =>
        have quiet : message.listening = false := by simpa using silent
        obtain ⟨succeeded, failed⟩ := @outcome_kept invitation message state progress (.inl quiet) tracked
        refine (replaced _ _ (modified _) ?_).same accounted succeeded failed rfl rfl rfl
        exact tracked.moved kept (by simp [quiet])
    next refused =>
      have same : { invitation with progress := .sent message } = invitation := by rw [← progress]
      refine (replaced _ message (modified _) tracked).same accounted ?_ ?_ rfl rfl rfl
      · rw [same]
      · rw [same]

theorem Accounted.sendNext (accounted : sending.Accounted) (hasChatRoom : Bool)
    (keeps : KeepsCount sending (.sendNext hasChatRoom)) : (sending.step (.sendNext hasChatRoom)).Accounted := by
  simp only [step, InvitationSending.sendNext]
  cases found : sending.invitations.find? Invitation.isWaiting with
  | none => exact accounted
  | some waiting =>
    have present : sending.invitations.any Invitation.isWaiting = true := by
      rw [← List.isSome_find?, found]
      rfl
    obtain ⟨before, invitation, after, whole, hit, missed, updated⟩ := updateFirst_split present
    obtain rfl : invitation = waiting := by
      have first : (before ++ invitation :: after).find? Invitation.isWaiting = some invitation := by
        rw [List.find?_append, List.find?_eq_none.mpr fun other member => by simp [missed other member]]
        simp [hit]
      rw [whole, first] at found
      exact Option.some.inj found
    have progress : invitation.progress = .waiting := by simpa [Invitation.isWaiting] using hit
    have unsettled : invitation.settled = false := by
      simp [Invitation.settled, Invitation.succeeded, Invitation.failed, progress]
    cases hasChatRoom with
    | true =>
      simp only [↓reduceIte, updated]
      have tracks : Tracked invitation.participant { recipientAddress := invitation.participant } :=
        ⟨rfl, rfl, rfl, by simp⟩
      have replaced : Replaced before after invitation
          { invitation with progress := .sent { recipientAddress := invitation.participant } } sending
          { sending with
            invitations := before ++
              { invitation with progress := .sent { recipientAddress := invitation.participant } } :: after } :=
        ⟨whole, rfl, rfl, fun message named => Option.some.inj named ▸ tracks⟩
      refine replaced.same accounted ?_ ?_ rfl rfl rfl
      · simp [Invitation.succeeded, progress, InvitationMessage.delivered]
      · simp [Invitation.failed, progress]
    | false =>
      simp only [Bool.false_eq_true, ↓reduceIte, updated]
      have replaced : Replaced before after invitation { invitation with progress := .unreachable } sending
          { sending with
            invitations := before ++ { invitation with progress := .unreachable } :: after
            invitationsInError := sending.invitationsInError ++ [invitation.participant] } :=
        ⟨whole, rfl, rfl, fun message named => by simp [Invitation.message?] at named⟩
      have settled := replaced.settled accounted unsettled rfl rfl rfl
      have short : sending.invitationsSent + (sending.invitationsInError ++ [invitation.participant]).length ≠
          (before ++ { invitation with progress := .unreachable } :: after).length := by
        have last := keeps.resolve_left (by simp)
        simp only [whole, List.length_append, List.length_cons, List.length_nil] at last ⊢
        omega
      simpa only [notifyInvitationsSent, if_neg short] using settled

/-- A message of an earlier call that settles nothing. -/
theorem setState_earlier {message : InvitationMessage} {state : ChatMessageState} (report : RoomReport)
    (other : message.listening = false ∨ state ≠ .notDelivered ∧ state.isDelivered = false) :
    (sending.setState message report state).1 = sending := by
  unfold setState
  split
  · split
    next listening =>
      obtain ⟨unfailed, undelivered⟩ := other.resolve_left (by simp [listening])
      rw [onChatMessageStateChanged_other _ report unfailed undelivered]
    next => rfl
  · rfl

theorem Accounted.step (accounted : sending.Accounted) (event : InvitationEvent) (keeps : KeepsCount sending event) :
    (sending.step event).Accounted := by
  cases event with
  | sendInvitations invitationsToSend =>
    simp only [InvitationSending.step]
    split
    · exact accounted
    · refine ⟨?_, ?_, ?_, ?_⟩
      · simp [List.countP_map, Invitation.succeeded, Function.comp_def]
      · simp [failures, List.filter_map, Invitation.failed, Function.comp_def]
      · intro invitation member message named
        obtain ⟨participant, -, rfl⟩ := List.mem_map.mp member
        simp [Invitation.message?] at named
      · obtain ⟨first, rest, rfl⟩ := List.exists_cons_of_ne_nil keeps
        simp [Invitation.settled, Invitation.succeeded, Invitation.failed]
  | sendNext hasChatRoom => exact accounted.sendNext hasChatRoom keeps
  | stateChanged index state report => exact accounted.stateChanged index state report keeps
  | earlierStateChanged index state report =>
    simp only [InvitationSending.step]
    cases found : sending.earlier[index]? with
    | none => exact accounted
    | some message =>
      simp only [setState_earlier report (keeps message found)]
      exact ⟨accounted.sent, accounted.errors, accounted.tracked, accounted.raised⟩

/-- In every run that keeps count, completion is reported once, in time, and with
the invitations that failed. -/
theorem invitations_reported {events : List InvitationEvent} (keeps : Guarded step KeepsCount {} events)
    (started : (events.foldl step {}).invitations ≠ []) : (events.foldl step {}).Reported := by
  have initial : Accounted {} := ⟨rfl, .nil, by simp, rfl⟩
  have accounted := @foldl_guarded _ _ step KeepsCount Accounted
    (fun _ event keeps accounted => accounted.step event keeps) {} events initial keeps
  exact accounted.reported started

section Runs

def guest (username : String) : Address := { username := some username, domain := "sip" }

theorem invitations_reported_displayed :
    let events := [.sendInvitations [guest "bob", guest "carol", guest "dave"], .sendNext true, .sendNext false,
      .stateChanged 0 .inProgress {}, .stateChanged 0 .notDelivered {}, .sendNext true, .stateChanged 2 .delivered {},
      .stateChanged 2 .displayed {}]
    (events.foldl step {}).raised = [[guest "carol", guest "bob"]] ∧ (events.foldl step {}).Reported := by
  intro events
  refine ⟨by decide, invitations_reported ?_ (by decide)⟩
  refine ⟨by simp [KeepsCount], by simp [KeepsCount], ?_, ?_, ?_, by simp [KeepsCount], ?_, ?_, trivial⟩
  · exact .inr (by decide)
  · simp only [KeepsCount]
    decide
  · simp only [KeepsCount]
    decide
  · simp only [KeepsCount]
    decide
  · simp only [KeepsCount]
    decide

/-- A failed invitation that is delivered after all is counted twice, so completion
is reported too early and the delivered one is among the errors. When no chat room
can be created, nothing is reported. -/
theorem invitations_reported_early :
    let resent := [.sendInvitations [guest "bob", guest "carol"], .sendNext true, .sendNext true,
      .stateChanged 0 .notDelivered {}, .stateChanged 0 .inProgress {}, .stateChanged 0 .delivered {}]
    let unreachable := [.sendInvitations [guest "bob"], .sendNext false]
    ¬ (resent.foldl step {}).Reported ∧ ¬ (unreachable.foldl step {}).Reported := by
  intro resent unreachable
  constructor
  · intro reported
    have complete := reported.complete.mp (by decide)
    revert complete
    decide
  · intro reported
    have raised := reported.complete.mpr (by decide)
    exact raised (by decide)

end Runs

end InvitationSending

end Liblinphone
