import Liblinphone.Imdn

/-! Where recorded notifications go. Each one stays pending until it is handed to
be sent in one message, or a display takes its place. The exception is a sending
that finds errors beside other notifications: the others are lost. -/

namespace Liblinphone

def ImdnNotification.message : ImdnNotification → NotifiedMessage
  | .delivered message | .displayed message => message
  | .nonDelivered messageReason => messageReason.message

def ImdnMessage.notifications (imdn : ImdnMessage) : List ImdnNotification :=
  imdn.deliveredMessages.map .delivered ++ imdn.displayedMessages.map .displayed ++
    imdn.nonDeliveredMessages.map .nonDelivered

def Imdn.pending (imdn : Imdn) : List ImdnNotification :=
  imdn.deliveredMessages.map .delivered ++ imdn.displayedMessages.map .displayed ++
    imdn.nonDeliveredMessages.map .nonDelivered

namespace ImdnEvent

def recordedIn (trace : List ImdnEvent) : List ImdnNotification :=
  trace.filterMap fun
    | .recorded notification => some notification
    | _ => none

def supersededIn (trace : List ImdnEvent) : List ImdnNotification :=
  trace.filterMap fun
    | .superseded message => some (.delivered message)
    | _ => none

/-- The notifications in the messages that were handed to be sent. -/
def handedIn (trace : List ImdnEvent) : List ImdnNotification :=
  trace.flatMap fun
    | .sendChatMessage imdn => imdn.notifications
    | _ => []

/-- The notifications in the messages that had no content. -/
def notSentIn (trace : List ImdnEvent) : List ImdnNotification :=
  trace.flatMap fun
    | .notSending imdn => imdn.notifications
    | _ => []

end ImdnEvent

/-- A message without content is about messages without a Message-ID. -/
theorem ImdnMessage.contents_empty {imdn : ImdnMessage} (empty : imdn.contents.isEmpty = true)
    {notification : ImdnNotification} (member : notification ∈ imdn.notifications) :
    notification.message.imdnMessageId = "" := by
  have unwritten : ∀ {imdnType reason}, imdnContent notification.message imdnType reason = [] →
      notification.message.imdnMessageId = "" := by
    intro imdnType reason none
    simpa [imdnContent] using none
  simp only [contents, List.isEmpty_iff, List.append_eq_nil_iff, List.flatMap_eq_nil_iff] at empty
  simp only [notifications, List.mem_append, List.mem_map] at member
  rcases member with (⟨message, listed, rfl⟩ | ⟨message, listed, rfl⟩) | ⟨messageReason, listed, rfl⟩
  · exact unwritten (empty.1.1 message listed)
  · exact unwritten (empty.1.2 message listed)
  · exact unwritten (empty.2 messageReason listed)

namespace ImdnChatRoom

variable {room : ImdnChatRoom}

section Single

variable {α : Type} (address : α → Option String) (make : α → String → ImdnMessage) (single : α → ImdnNotification)

/-- Messages of one notification each. -/
private theorem flatMap_single {items : List α} (made : ∀ item peer, (make item peer).notifications = [single item])
    (valid : ∀ item ∈ items, (address item).isSome) :
    (items.filterMap fun item => (address item).map (make item)).flatMap ImdnMessage.notifications =
      items.map single := by
  induction items with
  | nil => rfl
  | cons item rest ih =>
    obtain ⟨peer, isPeer⟩ := Option.isSome_iff_exists.mp (valid item (by simp))
    have later := ih (fun other member => valid other (by simp [member]))
    rw [List.filterMap_cons_some (by rw [isPeer]; rfl), List.flatMap_cons, later, made]
    rfl

end Single

private def pairNotifications (pair : MessagePair) : List ImdnNotification :=
  pair.deliveredMessages.map .delivered ++ pair.displayedMessages.map .displayed

private theorem groupDelivered_perm {messages : List NotifiedMessage}
    (valid : ∀ message ∈ messages, (room.getImdnChatRoomPeerAddress message).isSome)
    (groups : List (String × MessagePair)) :
    ((messages.foldl room.groupDelivered groups).flatMap fun entry => pairNotifications entry.2).Perm
      ((groups.flatMap fun entry => pairNotifications entry.2) ++ messages.map .delivered) := by
  rw [List.map_eq_flatMap]
  refine Library.foldl_groupAt_perm pairNotifications room.getImdnChatRoomPeerAddress {}
    (fun message pair => { pair with deliveredMessages := pair.deliveredMessages ++ [message] })
    (fun message => [ImdnNotification.delivered message]) rfl ?_ valid groups
  intro message pair
  simp only [pairNotifications, List.map_append, List.append_assoc]
  exact List.perm_append_comm.append_left _

private theorem groupDisplayed_perm {messages : List NotifiedMessage}
    (valid : ∀ message ∈ messages, (room.getImdnChatRoomPeerAddress message).isSome)
    (groups : List (String × MessagePair)) :
    ((messages.foldl room.groupDisplayed groups).flatMap fun entry => pairNotifications entry.2).Perm
      ((groups.flatMap fun entry => pairNotifications entry.2) ++ messages.map .displayed) := by
  rw [List.map_eq_flatMap]
  refine Library.foldl_groupAt_perm pairNotifications room.getImdnChatRoomPeerAddress {}
    (fun message pair => { pair with displayedMessages := pair.displayedMessages ++ [message] })
    (fun message => [ImdnNotification.displayed message]) rfl ?_ valid groups
  intro message pair
  simp only [pairNotifications, List.map_append, List.append_assoc]
  exact .refl _

theorem createImdnMessages_perm {deliveredMessages displayedMessages : List NotifiedMessage} (aggregate : Bool)
    (delivered : ∀ message ∈ deliveredMessages, (room.getImdnChatRoomPeerAddress message).isSome)
    (displayed : ∀ message ∈ displayedMessages, (room.getImdnChatRoomPeerAddress message).isSome) :
    ((room.createImdnMessages deliveredMessages displayedMessages aggregate).flatMap ImdnMessage.notifications).Perm
      (deliveredMessages.map .delivered ++ displayedMessages.map .displayed) := by
  cases aggregate with
  | false =>
    simp only [createImdnMessages, Bool.false_eq_true, if_false, List.flatMap_append]
    rw [flatMap_single _ _ ImdnNotification.delivered (fun _ _ => rfl) delivered,
      flatMap_single _ _ ImdnNotification.displayed (fun _ _ => rfl) displayed]
  | true =>
    simp only [createImdnMessages, if_true, List.flatMap_map]
    have grouped : (fun entry : String × MessagePair => ImdnMessage.notifications
        { peerAddress := entry.1, deliveredMessages := entry.2.deliveredMessages
          displayedMessages := entry.2.displayedMessages }) = fun entry => pairNotifications entry.2 := by
      funext entry
      simp [ImdnMessage.notifications, pairNotifications]
    rw [grouped]
    exact (groupDisplayed_perm displayed _).trans ((groupDelivered_perm delivered []).append_right _)

theorem createNonDeliveredImdnMessages_perm {nonDeliveredMessages : List MessageReason} (aggregate : Bool)
    (valid : ∀ messageReason ∈ nonDeliveredMessages, (room.getImdnChatRoomPeerAddress messageReason.message).isSome) :
    ((room.createNonDeliveredImdnMessages nonDeliveredMessages aggregate).flatMap ImdnMessage.notifications).Perm
      (nonDeliveredMessages.map .nonDelivered) := by
  cases aggregate with
  | false =>
    simp only [createNonDeliveredImdnMessages, Bool.false_eq_true, if_false]
    rw [flatMap_single _ _ ImdnNotification.nonDelivered (fun _ _ => rfl) valid]
  | true =>
    simp only [createNonDeliveredImdnMessages, if_true, List.flatMap_map]
    rw [List.map_eq_flatMap]
    refine Library.foldl_groupAt_perm (fun messageReasons => messageReasons.map ImdnNotification.nonDelivered)
      (fun messageReason : MessageReason => room.getImdnChatRoomPeerAddress messageReason.message) []
      (fun messageReason messageReasons => messageReasons ++ [messageReason])
      (fun messageReason => [ImdnNotification.nonDelivered messageReason]) rfl ?_ valid []
    intro messageReason messageReasons
    simp

end ImdnChatRoom

namespace Imdn
open ImdnEvent

variable {room : ImdnChatRoom} {imdn : Imdn}

/-- There is an address to notify. -/
def Addressed (room : ImdnChatRoom) (notification : ImdnNotification) : Prop :=
  (room.getImdnChatRoomPeerAddress notification.message).isSome

/-- Errors are not pending beside other notifications. -/
def OneGroup (imdn : Imdn) : Prop :=
  (imdn.deliveredMessages = [] ∧ imdn.displayedMessages = []) ∨ imdn.nonDeliveredMessages = []

theorem imdnMessages_perm (addressed : ∀ notification ∈ imdn.pending, Addressed room notification)
    (one : imdn.OneGroup) : ((imdn.imdnMessages room).flatMap ImdnMessage.notifications).Perm imdn.pending := by
  have delivered : ∀ message ∈ imdn.deliveredMessages, Addressed room (.delivered message) :=
    fun message member => addressed _ (by simp [pending, member])
  have displayed : ∀ message ∈ imdn.displayedMessages, Addressed room (.displayed message) :=
    fun message member => addressed _ (by simp [pending, member])
  have nonDelivered : ∀ messageReason ∈ imdn.nonDeliveredMessages, Addressed room (.nonDelivered messageReason) :=
    fun messageReason member => addressed _ (by simp [pending, member])
  simp only [imdnMessages, pending]
  rcases one with ⟨noDelivered, noDisplayed⟩ | noErrors
  · rw [noDelivered, noDisplayed]
    split
    next => exact ImdnChatRoom.createNonDeliveredImdnMessages_perm _ nonDelivered
    next none =>
      have none : imdn.nonDeliveredMessages = [] := by simpa using none
      simp [none]
  · rw [noErrors]
    simp only [List.isEmpty_nil, Bool.not_true, Bool.false_eq_true, if_false, List.map_nil, List.append_nil]
    split
    next => exact ImdnChatRoom.createImdnMessages_perm _ delivered displayed
    next none =>
      have none : imdn.deliveredMessages = [] ∧ imdn.displayedMessages = [] := by simpa using none
      simp [none.1, none.2]

/-- What a step does with the notifications: those recorded and those pending
before are superseded, handed to be sent, without content, or pending afterwards. -/
def Balanced (before : Imdn) (after : Imdn × List ImdnEvent) : Prop :=
  (recordedIn after.2 ++ before.pending).Perm
    (supersededIn after.2 ++ handedIn after.2 ++ notSentIn after.2 ++ after.1.pending)

private def sending (message : ImdnMessage) : ImdnEvent :=
  if message.contents.isEmpty then .notSending message else .sendChatMessage message

private theorem sending_account (messages : List ImdnMessage) :
    recordedIn (messages.map sending) = [] ∧ supersededIn (messages.map sending) = [] ∧
      (messages.flatMap ImdnMessage.notifications).Perm
        (handedIn (messages.map sending) ++ notSentIn (messages.map sending)) ∧
      ∀ notification ∈ notSentIn (messages.map sending), notification.message.imdnMessageId = "" := by
  induction messages with
  | nil => exact ⟨rfl, rfl, .refl _, by simp [notSentIn]⟩
  | cons message rest ih =>
    obtain ⟨recorded, superseded, handed, unnamed⟩ := ih
    simp only [recordedIn, supersededIn, handedIn, notSentIn, List.map_cons, List.filterMap_cons, List.flatMap_cons]
      at recorded superseded handed unnamed ⊢
    by_cases empty : message.contents.isEmpty = true
    · have event : sending message = .notSending message := if_pos empty
      simp only [event, recorded, superseded, List.nil_append, List.forall_mem_append, true_and]
      refine ⟨?_, fun notification member => message.contents_empty empty member, unnamed⟩
      exact (handed.append_left _).trans (List.perm_append_comm_assoc _ _ _)
    · have event : sending message = .sendChatMessage message := if_neg empty
      simp only [event, recorded, superseded, List.nil_append, List.append_assoc, true_and]
      exact ⟨handed.append_left _, unnamed⟩

/-- Sending leaves nothing pending. -/
theorem send_balanced (ready : room.readyToSend = true)
    (addressed : ∀ notification ∈ imdn.pending, Addressed room notification) (one : imdn.OneGroup) :
    Balanced imdn (imdn.send room) ∧ (imdn.send room).1.pending = [] ∧ recordedIn (imdn.send room).2 = [] ∧
      supersededIn (imdn.send room).2 = [] ∧
      ∀ notification ∈ notSentIn (imdn.send room).2, notification.message.imdnMessageId = "" := by
  simp only [Balanced, send, ready]
  split
  next none =>
    simp only [Bool.and_eq_true, List.isEmpty_iff] at none
    simp [pending, none.1.1, none.1.2, none.2, recordedIn, supersededIn, handedIn, notSentIn]
  next =>
    obtain ⟨recorded, superseded, handed, unnamed⟩ := sending_account (imdn.imdnMessages room)
    simp only [Bool.not_true, Bool.false_eq_true, if_false]
    refine ⟨?_, rfl, recorded, superseded, unnamed⟩
    change (recordedIn ((imdn.imdnMessages room).map sending) ++ imdn.pending).Perm
      (supersededIn ((imdn.imdnMessages room).map sending) ++ _ ++ _ ++ [])
    simp only [recorded, superseded, List.nil_append, List.append_nil]
    exact (imdnMessages_perm addressed one).symm.trans handed

/-- What holds after a step: notifications are accounted for, those that are
pending can be sent, without aggregation nothing stays pending, a delivery is
superseded only by a display that is pending or recorded, and what has no content
is about a message without a Message-ID. -/
structure StepAccount (room : ImdnChatRoom) (before : Imdn) (after : Imdn × List ImdnEvent) : Prop where
  balanced : Balanced before after
  addressed : ∀ notification ∈ after.1.pending, Addressed room notification
  immediate : room.aggregationEnabled = false → after.1.pending = []
  displays : ∀ message, .delivered message ∈ supersededIn after.2 →
    .displayed message ∈ recordedIn after.2 ∨ .displayed message ∈ before.pending
  unnamed : ∀ notification ∈ notSentIn after.2, notification.message.imdnMessageId = ""

theorem send_account (ready : room.readyToSend = true)
    (addressed : ∀ notification ∈ imdn.pending, Addressed room notification) (one : imdn.OneGroup) :
    StepAccount room imdn (imdn.send room) := by
  obtain ⟨balanced, empty, _, superseded, unnamed⟩ := send_balanced ready addressed one
  exact ⟨balanced, by simp [empty], fun _ => empty, by simp [superseded], unnamed⟩

/-- Starting the timer accounts for what is pending, and records nothing. -/
theorem startTimer_balanced (ready : room.readyToSend = true)
    (addressed : ∀ notification ∈ imdn.pending, Addressed room notification)
    (alone : room.aggregationEnabled = false → imdn.OneGroup) :
    StepAccount room imdn (startTimer room imdn) ∧ recordedIn (startTimer room imdn).2 = [] ∧
      supersededIn (startTimer room imdn).2 = [] := by
  simp only [startTimer]
  split
  next plain =>
    have one := alone (by simpa using plain)
    obtain ⟨_, _, recorded, superseded, _⟩ := send_balanced ready addressed one
    exact ⟨send_account ready addressed one, recorded, superseded⟩
  next aggregated =>
    refine ⟨⟨?_, addressed, fun plain => absurd plain (by simpa using aggregated), ?_, ?_⟩, rfl, rfl⟩
    · simp [Balanced, recordedIn, supersededIn, handedIn, notSentIn, pending]
    · simp [supersededIn]
    · simp [notSentIn]

/-- What holds of a handler and of its past. -/
structure Conserved (room : ImdnChatRoom) (past : List ImdnEvent) (imdn : Imdn) : Prop where
  balance : (recordedIn past).Perm (supersededIn past ++ handedIn past ++ notSentIn past ++ imdn.pending)
  addressed : ∀ notification ∈ imdn.pending, Addressed room notification
  immediate : room.aggregationEnabled = false → imdn.pending = []
  displays : ∀ message, .delivered message ∈ supersededIn past → .displayed message ∈ recordedIn past
  unnamed : ∀ notification ∈ notSentIn past, notification.message.imdnMessageId = ""

/-- One notification is recorded, after earlier events that at most superseded
others, and the timer is started. -/
private theorem record_account {past : List ImdnEvent} (conserved : Conserved room past imdn)
    (ready : room.readyToSend = true) (earlier : List ImdnEvent) {added : ImdnNotification} {next : Imdn}
    (addressed : Addressed room added) (account : (added :: imdn.pending).Perm (supersededIn earlier ++ next.pending))
    (alone : room.aggregationEnabled = false → next.OneGroup)
    (silent : recordedIn earlier = [] ∧ handedIn earlier = [] ∧ notSentIn earlier = [])
    (displays : ∀ message, .delivered message ∈ supersededIn earlier → added = .displayed message) :
    StepAccount room imdn
      ((startTimer room next).1, earlier ++ .recorded added :: (startTimer room next).2) := by
  have nextAddressed : ∀ notification ∈ next.pending, Addressed room notification := by
    intro notification member
    rcases List.mem_cons.mp (account.mem_iff.mpr (List.mem_append.mpr (.inr member))) with rfl | before
    · exact addressed
    · exact conserved.addressed notification before
  obtain ⟨started, recorded, superseded⟩ := startTimer_balanced ready nextAddressed alone
  have recordedAll : recordedIn (earlier ++ .recorded added :: (startTimer room next).2) = [added] := by
    simp only [recordedIn, List.filterMap_append, List.filterMap_cons] at silent recorded ⊢
    simp [silent.1, recorded]
  have supersededAll : supersededIn (earlier ++ .recorded added :: (startTimer room next).2) = supersededIn earlier := by
    simp only [supersededIn, List.filterMap_append, List.filterMap_cons] at superseded ⊢
    simp [superseded]
  have handedAll : handedIn (earlier ++ .recorded added :: (startTimer room next).2) =
      handedIn (startTimer room next).2 := by
    simp only [handedIn, List.flatMap_append, List.flatMap_cons] at silent ⊢
    simp [silent.2.1]
  have notSentAll : notSentIn (earlier ++ .recorded added :: (startTimer room next).2) =
      notSentIn (startTimer room next).2 := by
    simp only [notSentIn, List.flatMap_append, List.flatMap_cons] at silent ⊢
    simp [silent.2.2]
  have balanced := started.balanced
  refine ⟨?_, started.addressed, started.immediate, ?_, notSentAll ▸ started.unnamed⟩
  · simp only [Balanced, recorded, superseded, List.nil_append, List.append_assoc] at balanced
    simp only [Balanced, recordedAll, supersededAll, handedAll, notSentAll, List.append_assoc]
    exact account.trans (balanced.append_left _)
  · intro message member
    rw [supersededAll] at member
    rw [recordedAll, displays message member]
    exact .inl (by simp)

private theorem pending_nil (empty : imdn.pending = []) :
    imdn.deliveredMessages = [] ∧ imdn.displayedMessages = [] ∧ imdn.nonDeliveredMessages = [] := by
  simpa [pending, and_assoc] using empty

/-- Nothing happens to a notification that is pending already. -/
private theorem StepAccount.unchanged {past : List ImdnEvent} (conserved : Conserved room past imdn) :
    StepAccount room imdn (imdn, []) :=
  ⟨by simp [Balanced, recordedIn, supersededIn, handedIn, notSentIn], conserved.addressed, conserved.immediate,
    by simp [supersededIn], by simp [notSentIn]⟩

private theorem notifyDelivery_account {past : List ImdnEvent} {message : NotifiedMessage}
    (conserved : Conserved room past imdn) (ready : room.readyToSend = true)
    (addressed : Addressed room (.delivered message)) :
    StepAccount room imdn (imdn.notifyDelivery room message) := by
  simp only [notifyDelivery]
  split
  next => exact .unchanged conserved
  next =>
    refine record_account conserved ready [] addressed ?_ ?_ ⟨rfl, rfl, rfl⟩ (by simp [supersededIn])
    · rw [List.perm_iff_count]
      intro notification
      simp only [supersededIn, pending, List.filterMap_nil, List.map_append, List.count_append, List.count_cons,
        List.map_cons, List.map_nil, List.count_nil]
      omega
    · intro plain
      exact .inr (pending_nil (conserved.immediate plain)).2.2

private theorem notifyDeliveryError_account {past : List ImdnEvent} {message : NotifiedMessage} {reason : LinphoneReason}
    (conserved : Conserved room past imdn) (ready : room.readyToSend = true)
    (addressed : Addressed room (.nonDelivered ⟨message, reason⟩)) :
    StepAccount room imdn (imdn.notifyDeliveryError room message reason) := by
  simp only [notifyDeliveryError]
  split
  next => exact .unchanged conserved
  next =>
    refine record_account conserved ready [] addressed ?_ ?_ ⟨rfl, rfl, rfl⟩ (by simp [supersededIn])
    · rw [List.perm_iff_count]
      intro notification
      simp only [supersededIn, pending, List.filterMap_nil, List.map_append, List.count_append, List.count_cons,
        List.map_cons, List.map_nil, List.count_nil]
      omega
    · intro plain
      have empty := pending_nil (conserved.immediate plain)
      exact .inl ⟨empty.1, empty.2.1⟩

/-- The events of dropping the pending delivery of a message that is displayed. -/
private def dropped (imdn : Imdn) (message : NotifiedMessage) : List ImdnEvent :=
  if imdn.deliveredMessages.contains message then [.superseded message] else []

private theorem dropped_account (message : NotifiedMessage) :
    imdn.pending.Perm (supersededIn (dropped imdn message) ++
      pending { imdn with deliveredMessages := imdn.deliveredMessages.erase message }) ∧
    (recordedIn (dropped imdn message) = [] ∧ handedIn (dropped imdn message) = [] ∧
      notSentIn (dropped imdn message) = []) ∧
    ∀ other, .delivered other ∈ supersededIn (dropped imdn message) → other = message := by
  simp only [dropped]
  split
  next listed =>
    have erased := List.perm_cons_erase (List.contains_iff_mem.mp listed)
    refine ⟨?_, ⟨rfl, rfl, rfl⟩, by simp [supersededIn]⟩
    simp only [pending, List.append_assoc]
    exact (erased.map ImdnNotification.delivered).append_right _
  next absent =>
    have same := List.erase_of_not_mem (fun member => absent (List.contains_iff_mem.mpr member))
    exact ⟨by simp [supersededIn, same], ⟨rfl, rfl, rfl⟩, by simp [supersededIn]⟩

private theorem notifyDisplay_account {past : List ImdnEvent} {message : NotifiedMessage}
    (conserved : Conserved room past imdn) (ready : room.readyToSend = true)
    (addressed : Addressed room (.displayed message)) :
    StepAccount room imdn (imdn.notifyDisplay room message) := by
  obtain ⟨account, silent, only⟩ := @dropped_account imdn message
  simp only [notifyDisplay]
  change StepAccount room imdn (if _ then (_, dropped imdn message) else (_, dropped imdn message ++ _))
  split
  next shown =>
    refine ⟨?_, ?_, ?_, ?_, by simp [silent.2.2]⟩
    · simpa [Balanced, silent.1, silent.2.1, silent.2.2] using account
    · intro notification member
      exact conserved.addressed notification (account.mem_iff.mpr (List.mem_append.mpr (.inr member)))
    · intro plain
      rw [conserved.immediate plain] at account
      exact (List.append_eq_nil_iff.mp account.symm.eq_nil).2
    · intro other superseded
      rw [only other superseded]
      exact .inr (by simpa [pending] using shown)
  next =>
    refine record_account conserved ready _ addressed ?_ ?_ silent ?_
    · rw [List.perm_iff_count] at account ⊢
      intro notification
      have before := account notification
      simp only [pending, List.map_append, List.count_append, List.count_cons, List.map_cons, List.map_nil,
        List.count_nil] at before ⊢
      omega
    · intro plain
      exact .inr (pending_nil (conserved.immediate plain)).2.2
    · intro other superseded
      rw [only other superseded]

/-- Nothing is sent while errors are pending beside other notifications. -/
def SendsOneGroup (imdn : Imdn) : ImdnInput → Prop
  | .timerExpired | .send => imdn.OneGroup
  | _ => True

/-- A notified message has an address to notify. -/
def ValidPeerAddress (room : ImdnChatRoom) : ImdnInput → Prop
  | .notifyDelivery message | .notifyDisplay message | .notifyDeliveryError message _ =>
    (room.getImdnChatRoomPeerAddress message).isSome
  | .timerExpired | .send => True

theorem step_account {past : List ImdnEvent} {input : ImdnInput} (conserved : Conserved room past imdn)
    (ready : room.readyToSend = true) (one : SendsOneGroup imdn input) (valid : ValidPeerAddress room input) :
    StepAccount room imdn (imdn.step room input) := by
  cases input with
  | notifyDelivery message => exact notifyDelivery_account conserved ready valid
  | notifyDeliveryError message reason => exact notifyDeliveryError_account conserved ready valid
  | notifyDisplay message => exact notifyDisplay_account conserved ready valid
  | timerExpired =>
    simp only [step, timerExpired]
    split
    · have account : StepAccount room { imdn with timer := false } (send room { imdn with timer := false }) :=
        send_account ready conserved.addressed one
      exact ⟨account.balanced, account.addressed, account.immediate, account.displays, account.unnamed⟩
    · exact .unchanged conserved
  | send => exact send_account ready conserved.addressed one

theorem step_conserved {past : List ImdnEvent} {input : ImdnInput} (ready : room.readyToSend = true)
    (guard : SendsOneGroup imdn input ∧ ValidPeerAddress room input) (conserved : Conserved room past imdn) :
    Conserved room (past ++ (imdn.step room input).2) (imdn.step room input).1 := by
  have account := step_account conserved ready guard.1 guard.2
  refine ⟨?_, account.addressed, account.immediate, ?_, ?_⟩
  · have before := conserved.balance
    have balanced := account.balanced
    simp only [Balanced, recordedIn, supersededIn, handedIn, notSentIn] at before balanced ⊢
    rw [List.perm_iff_count] at before balanced ⊢
    intro notification
    have past := before notification
    have turn := balanced notification
    simp only [List.filterMap_append, List.flatMap_append, List.count_append] at past turn ⊢
    omega
  · intro message superseded
    simp only [supersededIn, recordedIn, List.filterMap_append, List.mem_append] at superseded ⊢
    rcases superseded with earlier | now
    · exact .inl (conserved.displays message earlier)
    · rcases account.displays message now with recorded | pending
      · exact .inr recorded
      · exact .inl (conserved.balance.mem_iff.mpr (by simp [pending]))
  · simp only [notSentIn, List.flatMap_append, List.forall_mem_append]
    exact ⟨conserved.unnamed, account.unnamed⟩

/-- In every run whose sendings find one group of notifications, each recorded
notification is pending, in one message handed to be sent, or a delivery whose
display was recorded too. The messages that are not handed over for want of
content are about messages without a Message-ID only. -/
theorem imdn_conservation (ready : room.readyToSend = true) {inputs : List ImdnInput}
    (valid : ∀ input ∈ inputs, ValidPeerAddress room input)
    (one : Library.Meets (step room) SendsOneGroup {} inputs) :
    let final := Library.run (step room) {} inputs
    (recordedIn final.2).Perm
        (supersededIn final.2 ++ handedIn final.2 ++ notSentIn final.2 ++ final.1.pending) ∧
      (∀ notification ∈ notSentIn final.2, notification.message.imdnMessageId = "") ∧
      ∀ message, .delivered message ∈ supersededIn final.2 → .displayed message ∈ recordedIn final.2 := by
  have start : Conserved room [] {} :=
    ⟨.refl [], by simp [pending], fun _ => rfl, by simp [supersededIn], by simp [notSentIn]⟩
  have conserved := Library.run_invariant (Conserved room)
    (fun past imdn input guard conserved => step_conserved ready guard conserved) start (one.and_all valid)
  exact ⟨conserved.balance, conserved.unnamed, conserved.displays⟩

/-- A chat room that aggregates its notifications. -/
def aggregatingRoom : ImdnChatRoom := { peerAddress := some "sip:bob" }

def firstMessage : NotifiedMessage := { identity := 1, imdnMessageId := "first" }

def secondMessage : NotifiedMessage := { identity := 2, imdnMessageId := "second" }

/-- A message is delivered and displayed, another one delivered; then the timer
expires. -/
theorem imdn_conservation_displayed :
    let final := Library.run (step aggregatingRoom) {}
      [.notifyDelivery firstMessage, .notifyDisplay firstMessage, .notifyDelivery secondMessage, .timerExpired]
    (supersededIn final.2 = [.delivered firstMessage] ∧
      handedIn final.2 = [.delivered secondMessage, .displayed firstMessage] ∧
      notSentIn final.2 = [] ∧ final.1.pending = []) ∧
      (recordedIn final.2).Perm
        (supersededIn final.2 ++ handedIn final.2 ++ notSentIn final.2 ++ final.1.pending) := by
  refine ⟨by decide, (@imdn_conservation aggregatingRoom (by decide) _ ?_ ?_).1⟩
  · simp only [List.forall_mem_cons]
    exact ⟨rfl, rfl, rfl, trivial, by simp⟩
  · exact ⟨trivial, trivial, trivial, .inr rfl, trivial⟩

/-- Errors take the place of the delivery that is pending beside them. -/
theorem imdn_lost :
    let final := Library.run (step aggregatingRoom) {}
      [.notifyDelivery firstMessage, .notifyDeliveryError secondMessage .notAcceptable, .timerExpired]
    (aggregatingRoom.readyToSend = true ∧ final.1.pending = [] ∧ supersededIn final.2 = [] ∧
      notSentIn final.2 = [] ∧ handedIn final.2 = [.nonDelivered ⟨secondMessage, .notAcceptable⟩] ∧
      .delivered firstMessage ∈ recordedIn final.2) ∧
    ¬ (recordedIn final.2).Perm
        (supersededIn final.2 ++ handedIn final.2 ++ notSentIn final.2 ++ final.1.pending) := by
  decide

end Imdn
end Liblinphone
