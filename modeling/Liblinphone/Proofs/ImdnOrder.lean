import Mathlib.Tactic.ByContra
import Liblinphone.Proofs.GroupMessage

/-! Notifications in any order. A recipient ends in the furthest state that was
notified, whatever came first, and the message ends in the state that its
recipients have together. -/

namespace Liblinphone

open ChatMessageState (isImdnControlledState)

/-- The furthest state that was notified of a participant: a failure is overcome by
a later delivery, and what was delivered or displayed stays so. -/
def acceptedState (updates : List (String × ChatMessageState)) (entry : String × ChatMessageState) : ChatMessageState :=
  if (entry.1, .displayed) ∈ updates then .displayed
  else if (entry.1, .deliveredToUser) ∈ updates then .deliveredToUser
  else if (entry.1, .notDelivered) ∈ updates then .notDelivered
  else entry.2

/-- The state that recipients have together. -/
def groupState (recipients : ParticipantStates) : ChatMessageState :=
  if ∃ recipient ∈ recipients, recipient.2 = .notDelivered then .notDelivered
  else if ∀ recipient ∈ recipients, recipient.2 = .displayed then .displayed
  else if ∀ recipient ∈ recipients, recipient.2 = .displayed ∨ recipient.2 = .deliveredToUser then .deliveredToUser
  else .delivered

theorem acceptedState_concat_other {updates : List (String × ChatMessageState)} {update entry : String × ChatMessageState}
    (other : entry.1 ≠ update.1) : acceptedState (updates ++ [update]) entry = acceptedState updates entry := by
  have same : ∀ state, (entry.1, state) ∈ updates ++ [update] ↔ (entry.1, state) ∈ updates := by
    intro state
    have different : (entry.1, state) ≠ update := by
      rintro rfl
      exact other rfl
    simp [different]
  simp only [acceptedState, same]

/-- One more notification is accepted when the table allows it. -/
theorem acceptedState_concat (updates : List (String × ChatMessageState)) (address : String) {newState : ChatMessageState}
    (controlled : newState.isImdnControlledState = true) :
    acceptedState (updates ++ [(address, newState)]) (address, .delivered) =
      if chatMessageFsmChecker.isValid (acceptedState updates (address, .delivered)) newState then newState
      else acceptedState updates (address, .delivered) := by
  simp only [acceptedState, List.mem_append, List.mem_singleton, Prod.mk.injEq, true_and]
  have imdn : newState = .displayed ∨ newState = .deliveredToUser ∨ newState = .notDelivered := by
    simpa [isImdnControlledState, or_assoc] using controlled
  by_cases displayed : (address, .displayed) ∈ updates <;> by_cases user : (address, .deliveredToUser) ∈ updates <;>
    by_cases failed : (address, .notDelivered) ∈ updates <;> rcases imdn with rfl | rfl | rfl <;>
    simp only [displayed, user, failed, reduceCtorEq, or_true, or_false, if_true, if_false] <;> rfl

/-- The states of a recipient from its delivery on. -/
def Notified (state : ChatMessageState) : Prop :=
  state = .delivered ∨ state = .notDelivered ∨ state = .deliveredToUser ∨ state = .displayed

theorem acceptedState_notified (updates : List (String × ChatMessageState)) (address : String) :
    Notified (acceptedState updates (address, .delivered)) := by
  simp only [acceptedState, Notified]
  repeat' split
  all_goals simp

section Together

variable {recipients : ParticipantStates}

private theorem countP_add_countP {α : Type} {first second : α → Bool}
    (apart : ∀ item, first item = true → second item = false) (items : List α) :
    items.countP first + items.countP second = items.countP (fun item => first item || second item) := by
  induction items with
  | nil => rfl
  | cons item rest ih =>
    simp only [List.countP_cons, ← ih]
    cases held : first item with
    | true => simp [apart item held]; omega
    | false => simp; omega

/-- The counts ask for the state that the recipients have together. -/
theorem newState_eq_groupState {room : ChatRoom} {message : ChatMessage}
    (listed : recipientsOf message.fromAddress (message.getParticipantsState room) = recipients)
    (present : recipients ≠ []) (notified : ∀ recipient ∈ recipients, Notified recipient.2)
    (sender : (message.fromAddress, .notDelivered) ∉ message.getParticipantsState room) :
    (message.imdnStateCounts room).newState = some (groupState recipients) := by
  have failures : 0 < (message.getParticipantsState room).countP (·.2 == .notDelivered) ↔
      ∃ recipient ∈ recipients, recipient.2 = .notDelivered := by
    rw [List.countP_pos_iff, ← listed]
    simp only [recipientsOf, List.mem_filter, beq_iff_eq, Bool.not_eq_true', beq_eq_false_iff_ne]
    constructor
    · rintro ⟨⟨address, state⟩, member, rfl⟩
      refine ⟨_, ⟨member, ?_⟩, rfl⟩
      rintro rfl
      exact sender member
    · rintro ⟨recipient, ⟨member, _⟩, failed⟩
      exact ⟨recipient, member, failed⟩
  have users : recipients.countP (·.2 == .displayed) + recipients.countP (·.2 == .deliveredToUser) =
      recipients.countP (fun recipient => recipient.2 == .displayed || recipient.2 == .deliveredToUser) :=
    countP_add_countP (fun _ shown => by simp_all) recipients
  have successes : recipients.countP (·.2 == .delivered) +
      recipients.countP (fun recipient => recipient.2 == .displayed || recipient.2 == .deliveredToUser) =
      recipients.countP (fun recipient =>
        recipient.2 == .delivered || (recipient.2 == .displayed || recipient.2 == .deliveredToUser)) :=
    countP_add_countP (fun _ shown => by simp_all) recipients
  have many : 0 < recipients.length := List.length_pos_iff.mpr present
  simp only [ChatMessage.imdnStateCounts, ImdnStateCounts.foldl_add, ImdnStateCounts.newState, groupState, Nat.zero_add,
    listed, gt_iff_lt, failures, many, decide_true, Bool.true_and, beq_iff_eq, Nat.add_assoc, users, successes,
    List.countP_eq_length, Bool.or_eq_true]
  split
  next => rfl
  next success =>
    have all : ∀ recipient ∈ recipients,
        recipient.2 = .delivered ∨ recipient.2 = .displayed ∨ recipient.2 = .deliveredToUser := by
      intro recipient member
      rcases notified recipient member with delivered | failed | user | shown
      · exact .inl delivered
      · exact absurd ⟨recipient, member, failed⟩ success
      · exact .inr (.inr user)
      · exact .inr (.inl shown)
    split
    next => rfl
    next =>
      split <;> rfl

theorem groupState_notified (recipients : ParticipantStates) : Notified (groupState recipients) := by
  simp only [groupState, Notified]
  repeat' split
  all_goals simp

private theorem groupState_displayed (together : groupState recipients = .displayed) :
    ∀ recipient ∈ recipients, recipient.2 = .displayed := by
  by_contra other
  simp only [groupState, if_neg other] at together
  repeat' split at together
  all_goals cases together

private theorem groupState_success (success : groupState recipients ≠ .notDelivered) :
    ∀ recipient ∈ recipients, recipient.2 ≠ .notDelivered := by
  intro recipient member failed
  exact success (if_pos ⟨recipient, member, failed⟩)

/-- Everybody received the message as soon as the group did. -/
private theorem groupState_received : groupState recipients = .displayed ∨ groupState recipients = .deliveredToUser ↔
    ∀ recipient ∈ recipients, recipient.2 = .displayed ∨ recipient.2 = .deliveredToUser := by
  constructor
  · intro together
    by_contra other
    have shown : ¬ ∀ recipient ∈ recipients, recipient.2 = .displayed :=
      fun all => other fun recipient member => .inl (all recipient member)
    simp only [groupState, if_neg other, if_neg shown] at together
    split at together
    · simp at together
    · simp at together
  · intro all
    have success : ¬ ∃ recipient ∈ recipients, recipient.2 = .notDelivered := by
      rintro ⟨recipient, member, failed⟩
      rcases all recipient member with shown | user
      · simp [failed] at shown
      · simp [failed] at user
    simp only [groupState, if_neg success, if_pos all]
    split
    · exact .inl rfl
    · exact .inr rfl

private theorem groupState_delivered (present : recipients ≠ [])
    (delivered : ∀ recipient ∈ recipients, recipient.2 = .delivered) : groupState recipients = .delivered := by
  obtain ⟨recipient, member⟩ := List.exists_mem_of_ne_nil recipients present
  have first := delivered recipient member
  rcases groupState_notified recipients with state | failed | user | shown
  · exact state
  · have success : ¬ ∃ recipient ∈ recipients, recipient.2 = .notDelivered := by
      rintro ⟨recipient, member, failed⟩
      simp [delivered recipient member] at failed
    simp only [groupState, if_neg success] at failed
    repeat' split at failed
    all_goals cases failed
  · rcases groupState_received.mp (.inr user) recipient member with shown | user
    · simp [first] at shown
    · simp [first] at user
  · have shown := groupState_displayed shown recipient member
    simp [first] at shown

/-- The table allows the message to follow a recipient that moved. -/
theorem groupState_follows {address : String} {current newState : ChatMessageState}
    (member : (address, current) ∈ recipients) (controlled : newState.isImdnControlledState = true)
    (allowed : chatMessageFsmChecker.isValid current newState = true)
    (moves : groupState (recipients.map fun entry => (entry.1, if entry.1 == address then newState else entry.2)) ≠
      groupState recipients) :
    chatMessageFsmChecker.isValid (groupState recipients)
      (groupState (recipients.map fun entry => (entry.1, if entry.1 == address then newState else entry.2))) = true := by
  have imdn : newState = .displayed ∨ newState = .deliveredToUser ∨ newState = .notDelivered := by
    simpa [isImdnControlledState, or_assoc] using controlled
  generalize target : groupState (recipients.map _) = next at moves ⊢
  have reached : Notified next := target ▸ groupState_notified _
  rcases groupState_notified recipients with delivered | failed | user | shown
  · rw [delivered] at moves ⊢
    rcases reached with rfl | rfl | rfl | rfl <;> first | rfl | exact absurd rfl moves
  · rw [failed] at moves ⊢
    rcases reached with rfl | rfl | rfl | rfl <;> first | rfl | exact absurd rfl moves
  · have all := groupState_received.mp (.inr user)
    have display : newState = .displayed := by
      rcases all _ member with rfl | rfl <;> rcases imdn with rfl | rfl | rfl <;>
        first | rfl | exact absurd allowed (by decide)
    have received : next = .displayed ∨ next = .deliveredToUser := by
      rw [← target]
      refine groupState_received.mpr ?_
      intro recipient moved
      obtain ⟨entry, before, rfl⟩ := List.mem_map.mp moved
      dsimp only
      split
      · exact .inl display
      · exact all entry before
    rw [user] at moves ⊢
    rcases received with rfl | rfl
    · rfl
    · exact absurd rfl moves
  · obtain rfl : current = .displayed := groupState_displayed shown _ member
    rcases imdn with rfl | rfl | rfl <;> exact absurd allowed (by decide)

end Together

namespace ChatMessage

variable {room : ChatRoom} {message : ChatMessage}

/-- No row of the database moves when a message follows its recipients. -/
theorem updateInDb_imdn (valid : message.isValid = true) (eventLog : message.eventLog = true)
    (sender : message.participantStates.lookup room.me ≠ some .notDelivered) (notified : Notified message.state)
    (leaves : message.state = .delivered → message.dbState = .notDelivered) :
    message.updateInDb room = { message with dbState := message.state } := by
  have still : message.stateRequiresUpdatingParticipants room = false := by
    simp only [stateRequiresUpdatingParticipants]
    rcases notified with delivered | failed | user | shown
    · simp [delivered, leaves delivered, ChatMessageState.isImdnControlledState]
    · cases row : message.participantStates.lookup room.me with
      | none => simp [failed]
      | some state => simpa [failed, row] using sender
    · simp [user]
    · simp [shown]
  simp only [updateInDb, valid, eventLog, updateConferenceChatMessageEvent, still, Bool.not_true, Bool.and_false,
    Bool.false_and, Bool.false_eq_true, if_false]
  rcases notified with state | state | state | state <;> simp [state]

/-- A message that follows its recipients stores its new state, and moves nobody:
delivered again, it finds no failure to take back. -/
theorem setState_imdn {calls : ChatMessage → String → ChatMessageState → ChatMessage} {newState : ChatMessageState}
    (outgoing : message.direction = .outgoing) (valid : message.isValid = true) (eventLog : message.eventLog = true)
    (sender : message.participantStates.lookup room.me ≠ some .notDelivered) (notified : Notified newState)
    (allowed : chatMessageFsmChecker.isValid message.state newState = true)
    (leaves : newState = .delivered → message.dbState = .notDelivered)
    (still : newState = .delivered → ∀ imdnState ∈ message.getParticipantsState room, room.isMe imdnState.1 = false →
      calls { message with state := newState } imdnState.1 newState = { message with state := newState }) :
    message.setState room calls newState = { message with state := newState, dbState := newState } := by
  have delivered : deliverToParticipants room { message with state := newState } calls =
      { message with state := newState } := by
    simp only [deliverToParticipants]
    split
    next reached =>
      have reached : newState = .delivered := by simpa using (Bool.and_eq_true_iff.mp reached).2
      refine Library.foldl_prefix_induction _ _ _ (fun _ current => current = { message with state := newState }) rfl ?_
      rintro _ imdnState current listed rfl
      split
      next => rfl
      next other => exact still reached imdnState listed (by simpa using other)
    next => rfl
  have moved := @updateInDb_imdn room { message with state := newState } valid eventLog sender notified leaves
  have incoming : message.direction ≠ .incoming := by simp [outgoing]
  rcases notified with rfl | rfl | rfl | rfl <;> simp [setState, allowed, delivered, incoming, moved]

end ChatMessage

namespace GroupMessage

variable {room : ChatRoom}

/-- The states of the participants after updates, seen from the start. -/
def acceptedStates (start : GroupMessage room) (updates : List (String × ChatMessageState)) : ParticipantStates :=
  start.message.participantStates.map fun entry => (entry.1, acceptedState updates entry)

/-- What holds after some updates: each participant is where its updates lead, and the
message where the recipients are together. -/
structure Settled (start : GroupMessage room) (updates : List (String × ChatMessageState))
    (current : GroupMessage room) : Prop where
  states : current.message.participantStates = start.acceptedStates updates
  sender : current.message.participantStates.lookup room.me ≠ some .notDelivered
  state : current.message.state = groupState current.recipients
  stored : current.message.state = .notDelivered → current.message.dbState = .notDelivered

theorem recipients_eq (group : GroupMessage room) :
    group.recipients = group.message.participantStates.filter fun entry =>
      (room.isMe entry.1 || room.participants.contains entry.1) && !(room.me == entry.1) := by
  simp only [recipients, recipientsOf, ChatMessage.getParticipantsState, group.group, group.sound.valid,
    group.sound.sentByMe, Bool.not_true, Bool.or_false, Bool.false_eq_true, if_false, List.filter_filter, Bool.and_comm]

private theorem filter_map_keys (keep : String → Bool) (change : String × ChatMessageState → ChatMessageState)
    (entries : ParticipantStates) :
    (entries.map fun entry => (entry.1, change entry)).filter (fun entry => keep entry.1) =
      (entries.filter fun entry => keep entry.1).map fun entry => (entry.1, change entry) := by
  rw [List.filter_map]
  rfl

theorem recipients_accepted {start current : GroupMessage room} {updates : List (String × ChatMessageState)}
    (states : current.message.participantStates = start.acceptedStates updates) :
    current.recipients = start.recipients.map fun entry => (entry.1, acceptedState updates entry) := by
  rw [recipients_eq, recipients_eq, states, acceptedStates]
  exact filter_map_keys (fun address => (room.isMe address || room.participants.contains address) && !(room.me == address))
    (acceptedState updates) _

/-- A participant that received the message does not move when it is delivered again. -/
private theorem setParticipantStateAt_received {message : ChatMessage} {depth : Nat} {address : String}
    {state : ChatMessageState} (group : room.isBasicChatRoom = false) (eventLog : message.eventLog = true)
    (row : message.participantStates.lookup address = some state) (notified : Notified state)
    (success : state ≠ .notDelivered) :
    ChatMessage.setParticipantStateAt room (depth + 1) message address .delivered = message := by
  have current : message.getParticipantState room address = state := by
    simp [ChatMessage.getParticipantState, group, eventLog, row]
  have refused : chatMessageFsmChecker.isValid state .delivered = false := by
    rcases notified with rfl | rfl | rfl | rfl <;> first | rfl | exact absurd rfl success
  simp [ChatMessage.setParticipantStateAt, ChatMessage.moveParticipant, current, refused]

theorem followImdnStates_settles (group : GroupMessage room) (present : group.recipients ≠ [])
    (notified : ∀ recipient ∈ group.recipients, Notified recipient.2)
    (sender : group.message.participantStates.lookup room.me ≠ some .notDelivered)
    (stored : group.message.state = .notDelivered → group.message.dbState = .notDelivered)
    (before : Notified group.message.state)
    (follows : groupState group.recipients ≠ group.message.state →
      chatMessageFsmChecker.isValid group.message.state (groupState group.recipients) = true) :
    let followed := group.message.followImdnStates room (ChatMessage.setParticipantStateAt room 2)
    followed.participantStates = group.message.participantStates ∧ followed.state = groupState group.recipients ∧
      (followed.state = .notDelivered → followed.dbState = .notDelivered) := by
  have sound := group.sound
  have listed : ∀ imdnState ∈ group.message.getParticipantsState room,
      group.message.participantStates.lookup imdnState.1 = some imdnState.2 := by
    intro imdnState member
    simp only [ChatMessage.getParticipantsState, group.group, sound.valid, Bool.not_true, Bool.or_false,
      Bool.false_eq_true, if_false] at member
    exact Library.lookup_of_mem sound.keyed (List.mem_of_mem_filter member)
  have asked : (group.message.imdnStateCounts room).newState = some (groupState group.recipients) := by
    refine newState_eq_groupState rfl present notified ?_
    intro failed
    rw [sound.sentByMe] at failed
    exact sender (listed _ failed)
  simp only [ChatMessage.followImdnStates, asked]
  by_cases same : groupState group.recipients = group.message.state
  · have refused : chatMessageFsmChecker.isValid group.message.state group.message.state = false := by
      rcases before with state | state | state | state <;> rw [state] <;> rfl
    have unchanged : group.message.setState room (ChatMessage.setParticipantStateAt room 2)
        (groupState group.recipients) = group.message := by
      rw [same]
      simp [ChatMessage.setState, refused]
    rw [unchanged]
    exact ⟨rfl, same.symm, stored⟩
  · have moved := @ChatMessage.setState_imdn room group.message (ChatMessage.setParticipantStateAt room 2)
      (groupState group.recipients) sound.outgoing sound.valid sound.eventLog sender (groupState_notified _)
      (follows same) ?_ ?_
    · rw [moved]
      exact ⟨rfl, rfl, id⟩
    · intro delivered
      refine stored ?_
      have allowed := follows same
      rw [delivered] at allowed
      rcases before with state | state | state | state
      · rw [state] at allowed
        exact absurd allowed (by decide)
      · exact state
      · rw [state] at allowed
        exact absurd allowed (by decide)
      · rw [state] at allowed
        exact absurd allowed (by decide)
    · intro delivered imdnState member other
      have recipient : imdnState ∈ group.recipients := by
        refine List.mem_filter.mpr ⟨member, ?_⟩
        rw [sound.sentByMe, Bool.not_eq_true', Bool.beq_comm]
        exact other
      rw [delivered]
      exact setParticipantStateAt_received group.group sound.eventLog (listed _ member) (notified _ recipient)
        (groupState_success (by simp [delivered]) _ recipient)

section Step

variable {start current : GroupMessage room} {updates : List (String × ChatMessageState)}

/-- A recipient has its row, and a delivered one a delivered row. -/
private theorem recipient_row (delivered : ∀ recipient ∈ start.recipients, recipient.2 = .delivered) {address : String}
    (recipient : address ∈ start.recipients.map Prod.fst) :
    address ≠ room.me ∧ (address, .delivered) ∈ start.recipients ∧
      ∀ entry ∈ start.message.participantStates, entry.1 = address → entry.2 = .delivered := by
  obtain ⟨⟨_, state⟩, member, rfl⟩ := List.mem_map.mp recipient
  obtain rfl : state = .delivered := delivered _ member
  have filtered := member
  rw [recipients_eq] at filtered
  have row := Library.lookup_of_mem start.sound.keyed (List.mem_of_mem_filter filtered)
  refine ⟨?_, member, ?_⟩
  · have other := (Bool.and_eq_true_iff.mp (List.mem_filter.mp filtered).2).2
    rintro rfl
    simp at other
  · rintro ⟨_, state⟩ listed rfl
    have same := Library.lookup_of_mem start.sound.keyed listed
    exact Option.some.inj (same.symm.trans row)

/-- One more update changes the row of its participant alone, and only if the table
allows it. -/
private theorem acceptedState_row {address : String} {newState : ChatMessageState}
    (controlled : newState.isImdnControlledState = true)
    (rows : ∀ entry ∈ start.message.participantStates, entry.1 = address → entry.2 = .delivered)
    {entry : String × ChatMessageState} (member : entry ∈ start.message.participantStates) :
    acceptedState (updates ++ [(address, newState)]) entry =
      if entry.1 == address && chatMessageFsmChecker.isValid (acceptedState updates (address, .delivered)) newState then
        newState
      else acceptedState updates entry := by
  by_cases same : entry.1 = address
  · obtain ⟨_, state⟩ := entry
    obtain rfl : state = .delivered := rows _ member same
    subst same
    rw [acceptedState_concat updates _ controlled]
    simp
  · rw [@acceptedState_concat_other updates (address, newState) entry same]
    simp [same]

/-- The database takes what the table allows. -/
private theorem setChatMessageParticipantState_allowed {states : ParticipantStates} {address : String}
    {current newState : ChatMessageState} (row : states.lookup address = some current) (notified : Notified current)
    (controlled : newState.isImdnControlledState = true)
    (allowed : chatMessageFsmChecker.isValid current newState = true) :
    setChatMessageParticipantState states address newState =
      states.map fun entry => (entry.1, if entry.1 == address then newState else entry.2) := by
  have imdn : newState = .displayed ∨ newState = .deliveredToUser ∨ newState = .notDelivered := by
    simpa [isImdnControlledState, or_assoc] using controlled
  simp only [setChatMessageParticipantState, row]
  refine if_neg ?_
  rcases notified with rfl | rfl | rfl | rfl <;> rcases imdn with rfl | rfl | rfl <;>
    first | decide | exact absurd allowed (by decide)

theorem Settled.step (delivered : ∀ recipient ∈ start.recipients, recipient.2 = .delivered)
    (settled : Settled start updates current) {address : String} {newState : ChatMessageState}
    (recipient : address ∈ start.recipients.map Prod.fst) (controlled : newState.isImdnControlledState = true) :
    Settled start (updates ++ [(address, newState)]) (current.setParticipantState (address, newState)) := by
  obtain ⟨other, member, rows⟩ := recipient_row delivered recipient
  have row : current.message.participantStates.lookup address = some (acceptedState updates (address, .delivered)) := by
    have first := member
    rw [recipients_eq] at first
    rw [settled.states, acceptedStates, Library.lookup_map_values (fun key value => acceptedState updates (key, value)),
      Library.lookup_of_mem start.sound.keyed (List.mem_of_mem_filter first)]
    rfl
  have participant : current.message.getParticipantState room address = acceptedState updates (address, .delivered) := by
    simp [ChatMessage.getParticipantState, current.group, current.sound.eventLog, row]
  have me : room.isMe address = false := by simpa [ChatRoom.isMe] using other
  have moved : (current.setParticipantState (address, newState)).message =
      if chatMessageFsmChecker.isValid (acceptedState updates (address, .delivered)) newState then
        (current.message.writeParticipantState address newState).followImdnStates room
          (ChatMessage.setParticipantStateAt room 2)
      else current.message := by
    change current.message.moveParticipant room (ChatMessage.setParticipantStateAt room 2) address newState = _
    rw [ChatMessage.moveParticipant_group current.group current.detailed current.sound.valid, participant]
    simp [me, ChatMessage.followParticipant, controlled]
  cases allowed : chatMessageFsmChecker.isValid (acceptedState updates (address, .delivered)) newState with
  | false =>
    have same : current.setParticipantState (address, newState) = current := by
      refine GroupMessage.ext ?_
      rw [moved, allowed]
      rfl
    rw [same]
    refine ⟨settled.states.trans (List.map_congr_left fun entry listed => ?_), settled.sender, settled.state, settled.stored⟩
    rw [acceptedState_row controlled rows listed, allowed, Bool.and_false]
    rfl
  | true =>
    rw [allowed, if_pos rfl] at moved
    have notified := acceptedState_notified updates address
    have written : (current.writeParticipantState other newState).message.participantStates =
        current.message.participantStates.map fun entry =>
          (entry.1, if entry.1 == address then newState else entry.2) := by
      change (current.message.writeParticipantState address newState).participantStates = _
      rw [ChatMessage.writeParticipantState, if_pos current.sound.eventLog]
      exact setChatMessageParticipantState_allowed row notified controlled allowed
    have states : (current.writeParticipantState other newState).message.participantStates =
        start.acceptedStates (updates ++ [(address, newState)]) := by
      rw [written, settled.states, acceptedStates, acceptedStates, List.map_map]
      refine List.map_congr_left fun entry listed => ?_
      rw [acceptedState_row controlled rows listed, allowed, Bool.and_true]
      rfl
    have recipients : (current.writeParticipantState other newState).recipients =
        current.recipients.map fun entry => (entry.1, if entry.1 == address then newState else entry.2) := by
      rw [recipients_eq, recipients_eq, written]
      exact filter_map_keys
        (fun address => (room.isMe address || room.participants.contains address) && !(room.me == address))
        (fun entry => if entry.1 == address then newState else entry.2) _
    have holder : (address, acceptedState updates (address, .delivered)) ∈ current.recipients := by
      rw [recipients_accepted settled.states]
      exact List.mem_map.mpr ⟨_, member, rfl⟩
    have sender : (current.writeParticipantState other newState).message.participantStates.lookup room.me ≠
        some .notDelivered := by
      rw [written, Library.lookup_map_values (fun key value => if key == address then newState else value)]
      simpa [Ne.symm other] using settled.sender
    have present : (current.writeParticipantState other newState).recipients ≠ [] := by
      rw [recipients, ne_eq, List.map_eq_nil_iff]
      exact List.ne_nil_of_mem holder
    have everyone : ∀ recipient ∈ (current.writeParticipantState other newState).recipients, Notified recipient.2 := by
      rw [recipients_accepted states]
      intro recipient listed
      obtain ⟨⟨owner, first⟩, before, rfl⟩ := List.mem_map.mp listed
      obtain rfl : first = .delivered := delivered _ before
      exact acceptedState_notified _ owner
    have before : (current.writeParticipantState other newState).message.state = groupState current.recipients := by
      simpa [writeParticipantState] using settled.state
    have follows := groupState_follows holder controlled allowed
    rw [← recipients, ← before] at follows
    obtain ⟨kept, state, stored⟩ := followImdnStates_settles (current.writeParticipantState other newState) present
      everyone sender (by simpa [writeParticipantState] using settled.stored)
      (before ▸ groupState_notified current.recipients) follows
    have same : (current.setParticipantState (address, newState)).recipients =
        (current.writeParticipantState other newState).recipients := by
      rw [recipients_eq, recipients_eq, moved]
      exact congrArg _ kept
    refine ⟨?_, ?_, ?_, ?_⟩
    · rw [moved]
      exact kept.trans states
    · rw [moved]
      exact kept ▸ sender
    · rw [moved, same]
      exact state
    · rw [moved]
      exact stored

end Step

/-- A run of notifications. -/
def notify (message : GroupMessage room) (updates : List (String × ChatMessageState)) : GroupMessage room :=
  updates.foldl setParticipantState message

theorem notify_settled {message : GroupMessage room} {updates : List (String × ChatMessageState)}
    (state : message.message.state = .delivered) (present : message.recipients ≠ [])
    (delivered : ∀ recipient ∈ message.recipients, recipient.2 = .delivered)
    (imdn : ∀ update ∈ updates, update.1 ∈ message.recipients.map Prod.fst ∧ update.2.isImdnControlledState = true) :
    Settled message updates (message.notify updates) := by
  refine Library.foldl_prefix_induction _ _ _ (Settled message) ?_ ?_
  · refine ⟨?_, message.sound.senderDelivered state, state.trans (groupState_delivered present delivered).symm,
      by simp [state]⟩
    simp [acceptedStates, acceptedState]
  · intro done update current member settled
    obtain ⟨recipient, controlled⟩ := imdn update member
    exact settled.step delivered recipient controlled

/-- Whatever the order of the notifications that its recipients send, a delivered
message ends in the same states: each participant in its furthest one, and the
message in the one that its recipients have together. -/
theorem notify_order {message : GroupMessage room} {updates others : List (String × ChatMessageState)}
    (state : message.message.state = .delivered) (present : message.recipients ≠ [])
    (delivered : ∀ recipient ∈ message.recipients, recipient.2 = .delivered)
    (imdn : ∀ update ∈ updates, update.1 ∈ message.recipients.map Prod.fst ∧ update.2.isImdnControlledState = true)
    (reordered : updates.Perm others) :
    (message.notify updates).message.participantStates = (message.notify others).message.participantStates ∧
      (message.notify updates).message.state = (message.notify others).message.state ∧
      (message.notify updates).message.state = groupState (message.notify updates).recipients := by
  have first := notify_settled state present delivered imdn
  have second := notify_settled state present delivered
    (fun update member => imdn update (reordered.mem_iff.mpr member))
  have same : acceptedState updates = acceptedState others := by
    funext entry
    simp only [acceptedState, reordered.mem_iff]
  refine ⟨?_, ?_, first.state⟩
  · rw [first.states, second.states, acceptedStates, acceptedStates, same]
  · rw [first.state, second.state, recipients_accepted first.states, recipients_accepted second.states, same]

def exampleRoom : ChatRoom := { me := "sip:me", participants := ["sip:a", "sip:b"] }

def deliveredMessage : GroupMessage exampleRoom where
  message :=
    { direction := .outgoing, fromAddress := "sip:me", state := .delivered, dbState := .delivered
      participantStates := [("sip:me", .delivered), ("sip:a", .delivered), ("sip:b", .delivered)] }
  group := rfl
  detailed := rfl
  sound := ⟨rfl, rfl, rfl, rfl, by decide, by decide⟩

/-- A failure is overcome by a display, before or after it. -/
theorem notify_order_displayed :
    let updates := [("sip:a", .notDelivered), ("sip:b", .deliveredToUser), ("sip:a", .displayed)]
    ((deliveredMessage.notify updates).message.state = .deliveredToUser ∧ updates.reverse ≠ updates) ∧
      (deliveredMessage.notify updates).message.state = (deliveredMessage.notify updates.reverse).message.state := by
  refine ⟨by decide, (notify_order (by decide) (by decide) (by decide) ?_ (List.reverse_perm _).symm).2.1⟩
  decide

/-- Everybody else left the chat room. -/
def abandonedMessage : GroupMessage { me := "sip:me", participants := [] } where
  message :=
    { direction := .outgoing, fromAddress := "sip:me", state := .delivered, dbState := .delivered
      participantStates := [("sip:me", .delivered), ("sip:a", .delivered)] }
  group := rfl
  detailed := rfl
  sound := ⟨rfl, rfl, rfl, rfl, by decide, by decide⟩

/-- Without recipients, a delivered message stays so, although every recipient
displayed it. -/
theorem notify_abandoned :
    (abandonedMessage.message.state = .delivered ∧
      ∀ recipient ∈ abandonedMessage.recipients, recipient.2 = .delivered) ∧
    (∀ recipient ∈ (abandonedMessage.notify []).recipients, recipient.2 ≠ .notDelivered) ∧
    ¬ ((abandonedMessage.notify []).message.state = .displayed ↔
      ∀ recipient ∈ (abandonedMessage.notify []).recipients, recipient.2 = .displayed) := by
  decide

end GroupMessage

end Liblinphone
