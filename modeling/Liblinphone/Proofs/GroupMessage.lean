import Liblinphone.ChatMessage
import Liblinphone.Library.Search

/-! Group messages keep their shape. The calls of a message and of its participants
end within three levels, and whatever moves, a message that is delivered is never
one that its sender failed to deliver. -/

namespace Liblinphone

theorem lookup_setChatMessageParticipantState (states : ParticipantStates) (address other : String)
    (state : ChatMessageState) :
    (setChatMessageParticipantState states address state).lookup other =
      if other = address then
        match states.lookup address with
        | none => some state
        | some dbState =>
          if state.toInt < dbState.toInt && (dbState == .displayed || dbState == .deliveredToUser) then some dbState
          else some state
      else states.lookup other := by
  simp only [setChatMessageParticipantState]
  split
  next unknown =>
    rw [List.lookup_append, List.lookup_cons, List.lookup_nil]
    by_cases same : other = address
    · simp [same, unknown]
    · simp [same, beq_false_of_ne same]
  next dbState found =>
    by_cases same : other = address
    · subst same
      rw [if_pos rfl]
      split
      next kept => simp only [found, if_pos kept]
      next moved =>
        rw [Library.lookup_map_values (fun key value => if key == other then state else value)]
        simp only [found, if_neg moved]
        simp
    · rw [if_neg same]
      split
      · rfl
      · rw [Library.lookup_map_values (fun key value => if key == address then state else value)]
        simp [same]

/-- A participant has one row. -/
theorem setChatMessageParticipantState_keyed {states : ParticipantStates} (keyed : (states.map Prod.fst).Nodup)
    (address : String) (state : ChatMessageState) :
    ((setChatMessageParticipantState states address state).map Prod.fst).Nodup := by
  simp only [setChatMessageParticipantState]
  split
  next unknown =>
    rw [List.map_append, List.nodup_append]
    refine ⟨keyed, by simp, ?_⟩
    intro key listed other added same
    obtain ⟨entry, member, rfl⟩ := List.mem_map.mp listed
    obtain rfl : other = address := by simpa using added
    simpa [same] using List.lookup_eq_none_iff.mp unknown entry member
  next =>
    split
    · exact keyed
    · rw [List.map_map]
      exact keyed

/-- A participant has no failure after a write of another state. -/
theorem setChatMessageParticipantState_not_failed {states : ParticipantStates} {address other : String}
    {state : ChatMessageState} (success : state ≠ .notDelivered)
    (before : states.lookup other ≠ some .notDelivered ∨ other = address) :
    (setChatMessageParticipantState states address state).lookup other ≠ some .notDelivered := by
  rw [lookup_setChatMessageParticipantState]
  by_cases same : other = address
  · rw [if_pos same]
    split
    · simpa using success
    · split
      next kept =>
        intro failed
        obtain rfl := Option.some.inj failed
        simp at kept
      next => simpa using success
  · rw [if_neg same]
    exact before.resolve_right same

/-- The participants other than the sender. -/
def recipientsOf (fromAddress : String) (imdnStates : ParticipantStates) : ParticipantStates :=
  imdnStates.filter fun imdnState => !(fromAddress == imdnState.1)

theorem ImdnStateCounts.foldl_add (fromAddress : String) (imdnStates : ParticipantStates) (counts : ImdnStateCounts) :
    imdnStates.foldl (ImdnStateCounts.add fromAddress) counts =
      { nbRecipients := counts.nbRecipients + (recipientsOf fromAddress imdnStates).length
        nbDisplayedStates := counts.nbDisplayedStates + (recipientsOf fromAddress imdnStates).countP (·.2 == .displayed)
        nbDeliveredStates := counts.nbDeliveredStates + (recipientsOf fromAddress imdnStates).countP (·.2 == .delivered)
        nbDeliveredToUserStates :=
          counts.nbDeliveredToUserStates + (recipientsOf fromAddress imdnStates).countP (·.2 == .deliveredToUser)
        nbNotDeliveredStates := counts.nbNotDeliveredStates + imdnStates.countP (·.2 == .notDelivered) } := by
  induction imdnStates generalizing counts with
  | nil => rfl
  | cons imdnState rest ih =>
    obtain ⟨address, state⟩ := imdnState
    rw [List.foldl_cons, ih]
    by_cases sender : fromAddress = address
    · cases state <;> (simp [ImdnStateCounts.add, recipientsOf, sender]; try omega)
    · cases state <;> simp [ImdnStateCounts.add, recipientsOf, sender] <;> omega

namespace ChatMessage

variable {room : ChatRoom} {message : ChatMessage}

section Write

variable (message) (address : String) (newState : ChatMessageState)

@[simp] theorem writeParticipantState_direction :
    (message.writeParticipantState address newState).direction = message.direction := by
  simp only [writeParticipantState]; split <;> rfl

@[simp] theorem writeParticipantState_state :
    (message.writeParticipantState address newState).state = message.state := by
  simp only [writeParticipantState]; split <;> rfl

@[simp] theorem writeParticipantState_dbState :
    (message.writeParticipantState address newState).dbState = message.dbState := by
  simp only [writeParticipantState]; split <;> rfl

end Write

section Depth

/-- While the message is delivered, the delivery of another participant moves that
participant alone. -/
private theorem setParticipantStateAt_delivered (depth : Nat) {address : String} (delivered : message.state = .delivered)
    (other : room.isMe address = false) :
    setParticipantStateAt room (depth + 1) message address .delivered =
        setParticipantStateAt room 1 message address .delivered ∧
      (setParticipantStateAt room 1 message address .delivered).state = .delivered ∧
      (setParticipantStateAt room 1 message address .delivered).direction = message.direction := by
  have still : ∀ calls, message.setState room calls .delivered = message := by
    intro calls
    simp [setState, delivered, (by decide : chatMessageFsmChecker.isValid .delivered .delivered = false)]
  simp only [setParticipantStateAt, moveParticipant, still, other, Bool.false_and, Bool.false_eq_true, if_false,
    (by decide : ChatMessageState.delivered.isImdnControlledState = false)]
  refine ⟨trivial, ?_, ?_⟩
  · repeat' split
    all_goals simp [delivered]
  · repeat' split
    all_goals simp

/-- The participants that a delivery moves, one after the other. -/
private theorem deliverToParticipants_depth (depth : Nat) (message : ChatMessage) :
    message.deliverToParticipants room (setParticipantStateAt room (depth + 1)) =
        message.deliverToParticipants room (setParticipantStateAt room 1) ∧
      (message.deliverToParticipants room (setParticipantStateAt room 1)).direction = message.direction := by
  have loop : ∀ (imdnStates : ParticipantStates) (current : ChatMessage), current.state = .delivered →
      (imdnStates.foldl (fun message imdnState => if room.isMe imdnState.1 then message
          else setParticipantStateAt room (depth + 1) message imdnState.1 message.state) current =
        imdnStates.foldl (fun message imdnState => if room.isMe imdnState.1 then message
          else setParticipantStateAt room 1 message imdnState.1 message.state) current) ∧
      (imdnStates.foldl (fun message imdnState => if room.isMe imdnState.1 then message
          else setParticipantStateAt room 1 message imdnState.1 message.state) current).direction = current.direction := by
    intro imdnStates
    induction imdnStates with
    | nil => exact fun current _ => ⟨rfl, rfl⟩
    | cons imdnState rest ih =>
      intro current delivered
      simp only [List.foldl_cons]
      cases me : room.isMe imdnState.1 with
      | true => exact ih current delivered
      | false =>
        obtain ⟨same, state, kept⟩ := setParticipantStateAt_delivered depth delivered me
        simp only [Bool.false_eq_true, if_false, delivered, same]
        exact ⟨(ih _ state).1, (ih _ state).2.trans kept⟩
  simp only [deliverToParticipants]
  split
  next reached => exact loop _ _ (by simpa using (Bool.and_eq_true_iff.mp reached).2)
  next => exact ⟨rfl, rfl⟩

private theorem setState_outgoing_depth (depth : Nat) (outgoing : message.direction = .outgoing)
    (newState : ChatMessageState) :
    message.setState room (setParticipantStateAt room (depth + 1)) newState =
      message.setState room (setParticipantStateAt room 1) newState := by
  obtain ⟨same, direction⟩ := @deliverToParticipants_depth room depth { message with state := newState }
  simp only [setState, same, direction.trans outgoing, (by decide : (ChatMessageDirection.outgoing == .incoming) = false),
    Bool.and_false, Bool.false_and, Bool.false_eq_true, if_false]

/-- Only the end of a file transfer makes an incoming message call again. -/
private theorem setState_incoming_calls {newState : ChatMessageState} (incoming : message.direction = .incoming)
    (other : newState ≠ .fileTransferDone)
    (calls calls' : ChatMessage → String → ChatMessageState → ChatMessage) :
    message.setState room calls newState = message.setState room calls' newState := by
  simp [setState, deliverToParticipants, incoming, other]

private theorem newState_ne_fileTransferDone {counts : ImdnStateCounts} {state : ChatMessageState}
    (asked : counts.newState = some state) : state ≠ .fileTransferDone := by
  rintro rfl
  simp only [ImdnStateCounts.newState] at asked
  repeat' split at asked
  all_goals cases asked

/-- Moving a participant calls again through the state of the message, or to display
what was delivered to the sender. -/
private theorem moveParticipant_calls {calls calls' : ChatMessage → String → ChatMessageState → ChatMessage}
    {address : String} {newState : ChatMessageState}
    (moves : ∀ (current : ChatMessage) (state : ChatMessageState), current.direction = message.direction →
      state = newState ∨ state ≠ .fileTransferDone → current.setState room calls state = current.setState room calls' state)
    (again : newState = .deliveredToUser → ∀ current, calls current address .displayed = calls' current address .displayed) :
    message.moveParticipant room calls address newState = message.moveParticipant room calls' address newState := by
  have written := message.writeParticipantState_direction address newState
  have shown : ∀ current : ChatMessage,
      (if room.isMe address && current.fromAddress == address && newState == .deliveredToUser then
        calls current address .displayed else current) =
      (if room.isMe address && current.fromAddress == address && newState == .deliveredToUser then
        calls' current address .displayed else current) := by
    intro current
    by_cases same : newState = .deliveredToUser
    · rw [again same]
    · simp only [beq_false_of_ne same, Bool.and_false, Bool.false_eq_true, if_false]
  have followed : (message.writeParticipantState address newState).followImdnStates room calls =
      (message.writeParticipantState address newState).followImdnStates room calls' := by
    simp only [followImdnStates]
    split
    next state asked => exact moves _ state written (.inr (newState_ne_fileTransferDone asked))
    next => rfl
  simp only [moveParticipant, shown]
  rw [moves message newState rfl (.inl rfl), moves _ newState written (.inl rfl)]
  rcases Bool.eq_false_or_eq_true newState.isImdnControlledState with controlled | plain
  · simp only [controlled, Bool.not_true, Bool.and_false, Bool.false_eq_true, if_false, if_true, followed]
  · simp only [plain, Bool.false_eq_true, if_false]

/-- A move to the display needs two levels. -/
private theorem setParticipantStateAt_displayed (depth : Nat) (message : ChatMessage) (address : String) :
    setParticipantStateAt room (depth + 2) message address .displayed =
      setParticipantStateAt room 2 message address .displayed := by
  refine moveParticipant_calls ?_ (by simp)
  intro current state direction origin
  cases way : message.direction with
  | outgoing => exact setState_outgoing_depth depth (direction.trans way) state
  | incoming =>
    refine setState_incoming_calls (direction.trans way) ?_ _ _
    rcases origin with rfl | other
    · simp
    · exact other

private theorem setState_depth (depth : Nat) (message : ChatMessage) (newState : ChatMessageState) :
    message.setState room (setParticipantStateAt room (depth + 2)) newState =
      message.setState room (setParticipantStateAt room 2) newState := by
  cases way : message.direction with
  | outgoing => exact (setState_outgoing_depth (depth + 1) way newState).trans (setState_outgoing_depth 1 way newState).symm
  | incoming =>
    by_cases done : newState = .fileTransferDone
    · subst done
      simp [setState, deliverToParticipants, way, setParticipantStateAt_displayed depth]
    · exact setState_incoming_calls way done _ _

/-- Three levels are enough: with more of them, every call does the same. -/
theorem setParticipantState_enough (depth : Nat) (message : ChatMessage) (address : String) (newState : ChatMessageState) :
    setParticipantStateAt room (depth + 3) message address newState =
      message.setParticipantState room address newState :=
  moveParticipant_calls (fun current state _ _ => setState_depth depth current state)
    (fun _ current => setParticipantStateAt_displayed depth current address)

end Depth

/-- An outgoing message in the database, sent by me. As long as it is delivered, the
sender has not failed. -/
structure Sound (room : ChatRoom) (message : ChatMessage) : Prop where
  outgoing : message.direction = .outgoing
  valid : message.isValid = true
  eventLog : message.eventLog = true
  sentByMe : message.fromAddress = room.me
  keyed : (message.participantStates.map Prod.fst).Nodup
  senderDelivered : message.state = .delivered → message.participantStates.lookup room.me ≠ some .notDelivered

section Preservation

private theorem foldl_not_failed {state : ChatMessageState} (success : state ≠ .notDelivered) (address : String)
    (entries states : ParticipantStates) (before : states.lookup address ≠ some .notDelivered) :
    (entries.foldl (fun states entry => setChatMessageParticipantState states entry.1 state) states).lookup address ≠
      some .notDelivered := by
  induction entries generalizing states with
  | nil => exact before
  | cons entry rest ih => exact ih _ (setChatMessageParticipantState_not_failed success (.inl before))

private theorem foldl_keyed (state : ChatMessageState) (entries states : ParticipantStates)
    (keyed : (states.map Prod.fst).Nodup) :
    ((entries.foldl (fun states entry => setChatMessageParticipantState states entry.1 state) states).map
      Prod.fst).Nodup := by
  induction entries generalizing states with
  | nil => exact keyed
  | cons entry rest ih => exact ih _ (setChatMessageParticipantState_keyed keyed entry.1 state)

theorem Sound.updateInDb (sound : Sound room message) : Sound room (message.updateInDb room) := by
  simp only [ChatMessage.updateInDb, sound.valid, sound.eventLog, Bool.not_true, Bool.false_eq_true, if_false]
  refine ⟨sound.outgoing, sound.valid, sound.eventLog, sound.sentByMe, ?_, ?_⟩
  · simp only [updateConferenceChatMessageEvent]
    split
    · exact foldl_keyed _ _ _ sound.keyed
    · exact sound.keyed
  · intro delivered
    simp only [updateConferenceChatMessageEvent] at delivered ⊢
    split
    · exact foldl_not_failed (by simp [delivered]) _ _ _ (sound.senderDelivered delivered)
    · exact sound.senderDelivered delivered

theorem Sound.deliverToParticipants {calls : ChatMessage → String → ChatMessageState → ChatMessage}
    (kept : ∀ current address state, Sound room current → Sound room (calls current address state))
    (sound : Sound room message) : Sound room (message.deliverToParticipants room calls) := by
  simp only [ChatMessage.deliverToParticipants]
  split
  · refine Library.foldl_prefix_induction _ _ _ (fun _ current => Sound room current) sound ?_
    intro _ imdnState current _ sound
    split
    · exact sound
    · exact kept _ _ _ sound
  · exact sound

/-- A sender that has failed calls for the failure of the message. -/
theorem Sound.setState {calls : ChatMessage → String → ChatMessageState → ChatMessage} {newState : ChatMessageState}
    (kept : ∀ current address state, Sound room current → Sound room (calls current address state))
    (outgoing : message.direction = .outgoing) (valid : message.isValid = true) (eventLog : message.eventLog = true)
    (sentByMe : message.fromAddress = room.me) (keyed : (message.participantStates.map Prod.fst).Nodup)
    (failed : message.participantStates.lookup room.me = some .notDelivered → newState = .notDelivered) :
    Sound room (message.setState room calls newState) := by
  simp only [ChatMessage.setState]
  split
  next refused =>
    refine ⟨outgoing, valid, eventLog, sentByMe, keyed, ?_⟩
    intro delivered sender
    rw [delivered, failed sender] at refused
    exact absurd refused (by decide)
  next =>
    have moved : Sound room { message with state := newState } := by
      refine ⟨outgoing, valid, eventLog, sentByMe, keyed, ?_⟩
      intro delivered sender
      rw [failed sender] at delivered
      cases delivered
    have sound := moved.deliverToParticipants kept
    simp only [sound.outgoing, (by decide : (ChatMessageDirection.outgoing == .incoming) = false), Bool.and_false,
      Bool.false_and, Bool.false_eq_true, if_false]
    split
    · exact sound.updateInDb
    · exact sound

/-- A failure of a participant that is listed is a failure of the message. -/
theorem newState_of_failed {address : String} (listed : (address, .notDelivered) ∈ message.getParticipantsState room) :
    (message.imdnStateCounts room).newState = some .notDelivered := by
  have counted : 0 < (message.getParticipantsState room).countP (·.2 == .notDelivered) :=
    List.countP_pos_iff.mpr ⟨_, listed, by simp⟩
  rw [imdnStateCounts, ImdnStateCounts.foldl_add, ImdnStateCounts.newState, if_pos]
  simpa using counted

private theorem Sound.sender_listed (group : room.isBasicChatRoom = false) (valid : message.isValid = true)
    {state : ChatMessageState} (found : message.participantStates.lookup room.me = some state) :
    (room.me, state) ∈ message.getParticipantsState room := by
  obtain ⟨before, after, split, _⟩ := List.lookup_eq_some_iff.mp found
  simp [getParticipantsState, group, valid, split, ChatRoom.isMe]

/-- What a written participant state does to the message. -/
def followParticipant (room : ChatRoom) (calls : ChatMessage → String → ChatMessageState → ChatMessage)
    (message : ChatMessage) (address : String) (newState : ChatMessageState) : ChatMessage :=
  if newState.isImdnControlledState then message.followImdnStates room calls
  else if room.isMe address then message.setState room calls newState
  else message

/-- In a group, a valid message writes the state of the participant and follows it. -/
theorem moveParticipant_group {calls : ChatMessage → String → ChatMessageState → ChatMessage}
    (group : room.isBasicChatRoom = false) (detailed : room.enableSimpleGroupChatMessageState = false)
    (valid : message.isValid = true) (address : String) (newState : ChatMessageState) :
    message.moveParticipant room calls address newState =
      if chatMessageFsmChecker.isValid (message.getParticipantState room address) newState then
        let followed := followParticipant room calls (message.writeParticipantState address newState) address newState
        if room.isMe address && followed.fromAddress == address && newState == .deliveredToUser then
          calls followed address .displayed
        else followed
      else message := by
  simp only [moveParticipant, followParticipant, valid, group, detailed, Bool.not_true, Bool.false_and,
    Bool.false_eq_true, if_false, Bool.not_eq_true_eq_eq_false]
  cases chatMessageFsmChecker.isValid (message.getParticipantState room address) newState with
  | false => rfl
  | true =>
    rcases Bool.eq_false_or_eq_true newState.isImdnControlledState with controlled | plain
    · simp [controlled]
    · simp [plain]

/-- Writing the state of another participant. -/
theorem Sound.writeParticipantState (sound : Sound room message) {address : String} (other : address ≠ room.me)
    (newState : ChatMessageState) : Sound room (message.writeParticipantState address newState) := by
  rw [ChatMessage.writeParticipantState, if_pos sound.eventLog]
  refine ⟨sound.outgoing, sound.valid, sound.eventLog, sound.sentByMe,
    setChatMessageParticipantState_keyed sound.keyed address newState, ?_⟩
  intro delivered
  dsimp only
  rw [lookup_setChatMessageParticipantState, if_neg (Ne.symm other)]
  exact sound.senderDelivered delivered

theorem Sound.followParticipant {calls : ChatMessage → String → ChatMessageState → ChatMessage}
    (group : room.isBasicChatRoom = false)
    (kept : ∀ current address state, Sound room current → Sound room (calls current address state))
    (sound : Sound room message) (address : String) (newState : ChatMessageState) :
    Sound room (followParticipant room calls (message.writeParticipantState address newState) address newState) := by
  generalize written : message.writeParticipantState address newState = current
  have states : current.participantStates = setChatMessageParticipantState message.participantStates address newState := by
    rw [← written, ChatMessage.writeParticipantState, if_pos sound.eventLog]
  have frame : current.direction = .outgoing ∧ current.isValid = true ∧ current.eventLog = true ∧
      current.fromAddress = room.me ∧ current.state = message.state := by
    rw [← written, ChatMessage.writeParticipantState, if_pos sound.eventLog]
    exact ⟨sound.outgoing, sound.valid, sound.eventLog, sound.sentByMe, rfl⟩
  obtain ⟨outgoing, valid, eventLog, sentByMe, state⟩ := frame
  have keyed : (current.participantStates.map Prod.fst).Nodup :=
    states ▸ setChatMessageParticipantState_keyed sound.keyed address newState
  simp only [ChatMessage.followParticipant]
  split
  next controlled =>
    have failed : current.participantStates.lookup room.me = some .notDelivered →
        (current.imdnStateCounts room).newState = some .notDelivered :=
      fun sender => newState_of_failed (Sound.sender_listed group valid sender)
    simp only [followImdnStates]
    split
    next asked =>
      refine Sound.setState kept outgoing valid eventLog sentByMe keyed ?_
      intro sender
      exact Option.some.inj (asked.symm.trans (failed sender))
    next asked =>
      refine ⟨outgoing, valid, eventLog, sentByMe, keyed, ?_⟩
      intro _ sender
      rw [failed sender] at asked
      cases asked
  next plain =>
    have success : newState ≠ .notDelivered := by
      rintro rfl
      exact plain rfl
    split
    next me =>
      refine Sound.setState kept outgoing valid eventLog sentByMe keyed ?_
      intro sender
      rw [states] at sender
      exact absurd sender (setChatMessageParticipantState_not_failed success (.inr (eq_of_beq me).symm))
    next other =>
      refine ⟨outgoing, valid, eventLog, sentByMe, keyed, ?_⟩
      rw [state, states]
      intro delivered
      exact setChatMessageParticipantState_not_failed success (.inl (sound.senderDelivered delivered))

theorem Sound.setParticipantStateAt (group : room.isBasicChatRoom = false)
    (detailed : room.enableSimpleGroupChatMessageState = false) (depth : Nat) (sound : Sound room message)
    (address : String) (newState : ChatMessageState) :
    Sound room (setParticipantStateAt room depth message address newState) := by
  induction depth generalizing message address newState with
  | zero => exact sound
  | succ depth ih =>
    have followed := sound.followParticipant group (fun _ other state current => ih current other state) address newState
    simp only [ChatMessage.setParticipantStateAt, moveParticipant_group group detailed sound.valid]
    split
    · split
      · exact ih followed address .displayed
      · exact followed
    · exact sound

end Preservation

end ChatMessage

/-- An outgoing message of a group whose states are kept for each participant. -/
@[ext]
structure GroupMessage (room : ChatRoom) where
  message : ChatMessage
  group : room.isBasicChatRoom = false
  detailed : room.enableSimpleGroupChatMessageState = false
  sound : message.Sound room

namespace GroupMessage

variable {room : ChatRoom}

/-- Every move of a participant gives such a message again. -/
def setParticipantState (group : GroupMessage room) (update : String × ChatMessageState) : GroupMessage room where
  message := group.message.setParticipantState room update.1 update.2
  group := group.group
  detailed := group.detailed
  sound := group.sound.setParticipantStateAt group.group group.detailed 3 update.1 update.2

/-- The row of another participant can be written alone. -/
def writeParticipantState (group : GroupMessage room) {address : String} (other : address ≠ room.me)
    (newState : ChatMessageState) : GroupMessage room where
  message := group.message.writeParticipantState address newState
  group := group.group
  detailed := group.detailed
  sound := group.sound.writeParticipantState other newState

def recipients (group : GroupMessage room) : ParticipantStates :=
  recipientsOf group.message.fromAddress (group.message.getParticipantsState room)

end GroupMessage
end Liblinphone
