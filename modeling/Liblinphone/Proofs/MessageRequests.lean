import Liblinphone.Proofs.MessageAttempts

/-! A message is handed to SIP at most once for each request to send it. Whatever a message waits for
holds a token, which a request creates and which at most one text spends. -/

namespace Liblinphone

/-- What a message waits for outside of the room. -/
def OutgoingMessage.inFlight (message : OutgoingMessage) : Nat :=
  message.encryptions.length + message.upload.httpRequest.toNat

theorem OutgoingMessage.Kept.inFlight {before after : OutgoingMessage} (kept : Kept before after) :
    after.inFlight = before.inFlight := by
  rw [OutgoingMessage.inFlight, kept.upload, kept.encryptions, OutgoingMessage.inFlight]

theorem OutgoingMessage.undoUpload_inFlight (message : OutgoingMessage) : message.undoUpload.inFlight = message.inFlight := by
  unfold undoUpload
  split
  · split <;> rfl
  · rfl

theorem OutgoingMessage.releaseHttpRequest_inFlight {message : OutgoingMessage} (uploads : message.upload.httpRequest = true) :
    message.releaseHttpRequest.inFlight + 1 = message.inFlight := by
  rw [inFlight, inFlight, uploads]
  rfl

theorem OutgoingMessage.beginUpload_inFlight {message : OutgoingMessage} (context : SendingContext)
    (uploads : message.upload.httpRequest = true) : (message.beginUpload context).inFlight ≤ message.inFlight := by
  have released := releaseHttpRequest_inFlight uploads
  unfold beginUpload uploadFile
  split
  · exact le_rfl
  · simp only []
    split
    · exact released.le
    · exact Nat.le_of_succ_le released.le

theorem OutgoingMessage.finishUpload_inFlight (message : OutgoingMessage) (xmlBody : String) :
    (message.finishUpload xmlBody).inFlight = message.inFlight ∧
      (message.finishUpload xmlBody).upload.httpRequest = message.upload.httpRequest := by
  unfold finishUpload
  split <;> exact ⟨rfl, rfl⟩

namespace ClientChatRoom

variable {room : ClientChatRoom} {message : OutgoingMessage} {id : Nat} {answer : LimeAnswer}

/-- The texts of a message that were handed to SIP. -/
def sentCount (room : ClientChatRoom) (id : Nat) : Nat := room.sent.countP fun entry => entry.1 == id

def waiting (room : ClientChatRoom) (id : Nat) : Nat :=
  room.mPendingCreationMessages.count id + room.mPendingExhumeMessages.count id

/-- The texts of a message that were sent, and those that may still be. -/
def tokens (room : ClientChatRoom) (id : Nat) : Nat := room.sentCount id + (room.messages id).inFlight + room.waiting id

theorem tokens_setMessage_self (room : ClientChatRoom) (id : Nat) (message : OutgoingMessage) : (room.setMessage id message).tokens id + (room.messages id).inFlight =
    room.tokens id + message.inFlight := by
  rw [tokens, setMessage_self, tokens]
  change room.sentCount id + message.inFlight + room.waiting id + _ = _
  omega

theorem tokens_setMessage_same (room : ClientChatRoom) {id : Nat} {message : OutgoingMessage}
    (same : message.inFlight = (room.messages id).inFlight) : (room.setMessage id message).tokens id = room.tokens id := by
  have balance := room.tokens_setMessage_self id message
  omega

theorem tokens_setMessage_of_ne {other : Nat} (different : other ≠ id) :
    (room.setMessage id message).tokens other = room.tokens other := by
  rw [tokens, setMessage_of_ne different]
  rfl

/-- A step of one message leaves the others alone, and no list of the room loses the message. -/
structure Moves (before after : ClientChatRoom) (id : Nat) : Prop where
  others : ∀ other, other ≠ id → after.tokens other = before.tokens other
  pending : ∀ other, other ≠ id → after.mPendingCreationMessages.count other = before.mPendingCreationMessages.count other
  exhume : ∀ other, other ≠ id → after.mPendingExhumeMessages.count other = before.mPendingExhumeMessages.count other
  stays : before.mPendingCreationMessages.count id ≤ after.mPendingCreationMessages.count id ∧
    before.mPendingExhumeMessages.count id ≤ after.mPendingExhumeMessages.count id

theorem Moves.refl (room : ClientChatRoom) (id : Nat) : Moves room room id :=
  ⟨fun _ _ => rfl, fun _ _ => rfl, fun _ _ => rfl, le_rfl, le_rfl⟩

theorem Moves.trans {before middle after : ClientChatRoom} (first : Moves before middle id) (second : Moves middle after id) :
    Moves before after id :=
  ⟨fun other different => (second.others other different).trans (first.others other different),
    fun other different => (second.pending other different).trans (first.pending other different),
    fun other different => (second.exhume other different).trans (first.exhume other different),
    first.stays.1.trans second.stays.1, first.stays.2.trans second.stays.2⟩

theorem Moves.kept {before after : ClientChatRoom} (moves : Moves before after id) (other : Nat) :
    before.mPendingCreationMessages.count other ≤ after.mPendingCreationMessages.count other ∧
      before.mPendingExhumeMessages.count other ≤ after.mPendingExhumeMessages.count other := by
  by_cases same : other = id
  · exact same ▸ moves.stays
  · exact ⟨(moves.pending other same).ge, (moves.exhume other same).ge⟩

theorem setMessage_moves (room : ClientChatRoom) (id : Nat) (message : OutgoingMessage) : Moves room (room.setMessage id message) id :=
  ⟨fun _ different => tokens_setMessage_of_ne different, fun _ _ => rfl, fun _ _ => rfl, le_rfl, le_rfl⟩

theorem output_moves (room : ClientChatRoom) (id : Nat) (message : OutgoingMessage) (bodies : List MessageBody) :
    Moves room (room.output id message bodies) id := by
  refine ⟨fun other different => ?_, fun _ _ => rfl, fun _ _ => rfl, le_rfl, le_rfl⟩
  have none : (bodies.map fun body => (id, body)).countP (fun entry => entry.1 == other) = 0 := by
    rw [List.countP_eq_zero]
    intro entry member
    obtain ⟨body, -, rfl⟩ := List.mem_map.mp member
    simpa using different.symm
  rw [tokens, output_of_ne different, tokens]
  simp only [sentCount, output, List.countP_append, none]
  rfl

theorem tokens_output (room : ClientChatRoom) (id : Nat) (message : OutgoingMessage) (bodies : List MessageBody) :
    (room.output id message bodies).tokens id + (room.messages id).inFlight =
      room.tokens id + message.inFlight + bodies.length := by
  have all : (bodies.map fun body => (id, body)).countP (fun entry => entry.1 == id) = bodies.length := by
    rw [List.countP_eq_length.mpr, List.length_map]
    intro entry member
    obtain ⟨body, -, rfl⟩ := List.mem_map.mp member
    simp
  rw [tokens, output_self, tokens]
  simp only [sentCount, output, List.countP_append, all, setMessage]
  change _ + _ + _ + room.waiting id + _ = _
  omega

/-- An attempt spends one token more than it finds, at most. -/
theorem Attempt.inFlight {before after : OutgoingMessage} {bodies : List MessageBody} (attempt : Attempt room before after bodies) :
    after.inFlight + bodies.length ≤ before.inFlight + 1 := by
  cases attempt with
  | failed upload encryptions =>
    rw [OutgoingMessage.inFlight, upload, encryptions, OutgoingMessage.inFlight]
    exact Nat.le_succ _
  | uploading idle _ encryptions =>
    have bound := after.upload.httpRequest.toNat_le
    rw [OutgoingMessage.inFlight, encryptions, OutgoingMessage.inFlight, idle]
    simp only [List.length_nil, Bool.toNat_false]
    omega
  | finished jobs upload encryptions _ _ _ _ once =>
    rw [OutgoingMessage.inFlight, upload, encryptions, List.length_append, OutgoingMessage.inFlight]
    omega

theorem addPendingMessage_tokens (room : ClientChatRoom) (id : Nat) :
    Moves room (room.addPendingMessage id) id ∧ (room.addPendingMessage id).tokens id ≤ room.tokens id + 1 := by
  unfold addPendingMessage
  split
  · exact ⟨.refl _ _, Nat.le_succ _⟩
  · refine ⟨⟨fun other different => ?_, fun other different => ?_, fun _ _ => rfl, ?_, le_rfl⟩, ?_⟩
    · simp only [tokens, waiting, sentCount, List.count_append, List.count_singleton]
      simp [different.symm]
    · rw [List.count_append, List.count_singleton, if_neg (by simpa using different.symm), Nat.add_zero]
    · rw [List.count_append]
      exact Nat.le_add_right ..
    · simp only [tokens, waiting, sentCount, List.count_append, List.count_singleton_self]
      omega

theorem addExhumeMessage_tokens (room : ClientChatRoom) (id : Nat) :
    Moves room (room.addExhumeMessage id) id ∧ (room.addExhumeMessage id).tokens id ≤ room.tokens id + 1 := by
  unfold addExhumeMessage
  split
  · exact ⟨.refl _ _, Nat.le_succ _⟩
  · refine ⟨⟨fun other different => ?_, fun _ _ => rfl, fun other different => ?_, le_rfl, ?_⟩, ?_⟩
    · simp only [tokens, waiting, sentCount, List.count_append, List.count_singleton]
      simp [different.symm]
    · rw [List.count_append, List.count_singleton, if_neg (by simpa using different.symm), Nat.add_zero]
    · rw [List.count_append]
      exact Nat.le_add_right ..
    · simp only [tokens, waiting, sentCount, List.count_append, List.count_singleton_self]
      omega

theorem send_tokens (room : ClientChatRoom) (id : Nat) (answer : LimeAnswer) :
    Moves room (room.send id answer) id ∧ (room.send id answer).tokens id ≤ room.tokens id + 1 := by
  by_cases there : room.postponesSending = false
  · obtain ⟨after, bodies, sends, attempt⟩ := room.send_attempt id answer there
    have spent := tokens_output room id after bodies
    have few := attempt.inFlight
    rw [sends]
    exact ⟨output_moves room id after bodies, by omega⟩
  · have waits : room.send id answer = room.addPendingMessage id := by
      rw [send, sendAt, if_pos (Bool.not_eq_false _ ▸ there)]
    rw [waits]
    exact addPendingMessage_tokens room id

theorem setParticipantState_tokens (room : ClientChatRoom) (id : Nat) (newState : ChatMessageState) (reason : DeliveryReason)
    (accepted : reason ≠ .forbidden) :
    Moves room (room.setParticipantState id newState reason) id ∧
      (room.setParticipantState id newState reason).tokens id = room.tokens id := by
  rw [setParticipantState_eq accepted]
  have kept := (OutgoingMessage.setParticipantState_kept (room.messages id) room.states room.states.me newState reason).1
  refine ⟨setMessage_moves .., ?_⟩
  have same := room.tokens_setMessage_self id ((room.messages id).setParticipantState room.states room.states.me newState reason)
  rw [kept.inFlight] at same
  omega

theorem exhume_tokens (room : ClientChatRoom) (id : Nat) : Moves room room.exhume id ∧ room.exhume.tokens id = room.tokens id := by
  unfold exhume
  split <;> exact ⟨⟨fun _ _ => rfl, fun _ _ => rfl, fun _ _ => rfl, le_rfl, le_rfl⟩, rfl⟩

/-- What the room does with a message costs one token at most. -/
theorem sendChatMessage_tokens (room : ClientChatRoom) (id : Nat) (answer : LimeAnswer) :
    Moves room (room.sendChatMessage id answer) id ∧ (room.sendChatMessage id answer).tokens id ≤ room.tokens id + 1 := by
  rcases room.sendChatMessage_cases id answer with result | result | result | result <;> rw [result]
  · obtain ⟨moves, same⟩ := room.setParticipantState_tokens id .notDelivered .none (by decide)
    exact ⟨moves, same.trans_le (Nat.le_succ _)⟩
  · obtain ⟨first, same⟩ := room.exhume_tokens id
    obtain ⟨second, more⟩ := room.exhume.addExhumeMessage_tokens id
    exact ⟨first.trans second, more.trans_eq (congrArg (· + 1) same)⟩
  · exact addPendingMessage_tokens room id
  · exact send_tokens room id answer

/-- Messages that are sent one after the other cost a token each. -/
theorem foldl_tokens {send : ClientChatRoom → Nat → ClientChatRoom}
    (each : ∀ room id, Moves room (send room id) id ∧ (send room id).tokens id ≤ room.tokens id + 1) (ids : List Nat)
    (room : ClientChatRoom) (id : Nat) :
    (ids.foldl send room).tokens id ≤ room.tokens id + ids.count id ∧
      room.mPendingCreationMessages.count id ≤ (ids.foldl send room).mPendingCreationMessages.count id ∧
      room.mPendingExhumeMessages.count id ≤ (ids.foldl send room).mPendingExhumeMessages.count id := by
  induction ids generalizing room with
  | nil => exact ⟨le_rfl, le_rfl, le_rfl⟩
  | cons first rest ih =>
    obtain ⟨moves, more⟩ := each room first
    obtain ⟨spent, pending, exhume⟩ := ih (send room first)
    refine ⟨?_, (moves.kept id).1.trans pending, (moves.kept id).2.trans exhume⟩
    rw [List.foldl_cons]
    by_cases same : first = id
    · subst same
      rw [List.count_cons_self]
      omega
    · rw [List.count_cons_of_ne same]
      have kept := moves.others id (Ne.symm same)
      omega

theorem sendPendingMessages_tokens (room : ClientChatRoom) (answers : Nat → LimeAnswer) (id : Nat) :
    (room.sendPendingMessages answers).tokens id ≤ room.tokens id := by
  obtain ⟨spent, pending, -⟩ := foldl_tokens (fun room id => room.sendChatMessage_tokens id (answers id))
    room.mPendingCreationMessages room id
  simp only [sendPendingMessages, tokens, waiting, sentCount, List.count_nil] at spent ⊢
  omega

theorem onLocallyExhumedConference_tokens (room : ClientChatRoom) (underWay : Bool) (answers : Nat → LimeAnswer) (id : Nat) :
    (room.onLocallyExhumedConference underWay answers).tokens id ≤ room.tokens id := by
  obtain ⟨spent, -, exhume⟩ := foldl_tokens (fun room id => room.send_tokens id (answers id)) room.mPendingExhumeMessages
    { room with state := .created, isSubscriptionUnderWay := underWay } id
  simp only [onLocallyExhumedConference, tokens, waiting, sentCount, List.count_nil] at spent exhume ⊢
  omega

theorem sendMessage_tokens (room : ClientChatRoom) (id : Nat) (answer : LimeAnswer) :
    Moves room (room.sendMessage id answer) id ∧
      (room.sendMessage id answer).tokens id ≤ room.tokens id + (room.canSend id).toNat := by
  unfold sendMessage
  cases room.canSend id with
  | false => exact ⟨.refl _ _, le_rfl⟩
  | true =>
    simp only [Bool.not_true, Bool.false_eq_true, if_false]
    have same := room.tokens_setMessage_same (show (room.messages id).forgetModifiers.inFlight = (room.messages id).inFlight from rfl)
    obtain ⟨moves, more⟩ := (room.setMessage id (room.messages id).forgetModifiers).sendChatMessage_tokens id answer
    exact ⟨(setMessage_moves ..).trans moves, more.trans_eq (congrArg (· + 1) same)⟩

theorem handleAutomaticResend_tokens (room : ClientChatRoom) (id : Nat) (answer : LimeAnswer) :
    Moves room (room.handleAutomaticResend id answer) id ∧
      (room.handleAutomaticResend id answer).tokens id ≤ room.tokens id + (room.canSend id).toNat := by
  unfold handleAutomaticResend
  simp only []
  have marked := room.tokens_setMessage_same
    (show { room.messages id with mAutomaticallyResent := true }.inFlight = (room.messages id).inFlight from rfl)
  obtain ⟨moves, more⟩ := (room.setMessage id { room.messages id with mAutomaticallyResent := true }).sendMessage_tokens id answer
  have can : (room.setMessage id { room.messages id with mAutomaticallyResent := true }).canSend id = room.canSend id := by
    simp only [canSend, setMessage_self]
  rw [marked, can] at more
  refine ⟨((setMessage_moves ..).trans moves).trans (setMessage_moves ..), le_of_eq_of_le (tokens_setMessage_same _ ?_) more⟩
  rfl

theorem handleMessageRejected_tokens (room : ClientChatRoom) (id : Nat) :
    Moves room (room.handleMessageRejected id) id ∧
      (room.handleMessageRejected id).tokens id ≤ room.tokens id + (!room.isGroup).toNat := by
  unfold handleMessageRejected
  split
  · exact ⟨.refl _ _, Nat.le_add_right ..⟩
  next pair =>
    have terminated : Moves room { room with state := .terminated } id :=
      ⟨fun _ _ => rfl, fun _ _ => rfl, fun _ _ => rfl, le_rfl, le_rfl⟩
    obtain ⟨first, same⟩ := { room with state := .terminated }.exhume_tokens id
    obtain ⟨second, more⟩ := { room with state := .terminated }.exhume.addExhumeMessage_tokens id
    have two : (!room.isGroup).toNat = 1 := by
      rw [Bool.not_eq_true] at pair
      rw [pair]
      rfl
    refine ⟨(terminated.trans first).trans second, more.trans_eq ?_⟩
    rw [same, two]
    rfl

/-- Whether a refusal by the server makes the room send a message again. -/
def recovers (room : ClientChatRoom) (id : Nat) (status : SalMessageDeliveryStatus) (reason : DeliveryReason) : Bool :=
  (room.messages id).salOp && !room.isGroup &&
    (room.messages id).isRejected room.states (room.chatStatusSal2Linphone status reason) reason

theorem messageDeliveryUpdate_tokens (room : ClientChatRoom) (id : Nat) (status : SalMessageDeliveryStatus)
    (reason : DeliveryReason) :
    Moves room (room.messageDeliveryUpdate id status reason) id ∧
      (room.messageDeliveryUpdate id status reason).tokens id ≤ room.tokens id + (room.recovers id status reason).toNat := by
  have kept := (OutgoingMessage.setParticipantState_kept (room.messages id) room.states room.states.me
    (room.chatStatusSal2Linphone status reason) reason).1
  have same := room.tokens_setMessage_same kept.inFlight
  unfold messageDeliveryUpdate
  split
  next operating =>
    unfold setParticipantState
    simp only []
    split
    next rejected =>
      obtain ⟨moves, more⟩ := (room.setMessage id ((room.messages id).setParticipantState room.states room.states.me
        (room.chatStatusSal2Linphone status reason) reason)).handleMessageRejected_tokens id
      rw [same, setMessage_isGroup] at more
      rw [recovers, operating, rejected, Bool.true_and, Bool.and_true]
      exact ⟨(setMessage_moves ..).trans moves, more⟩
    · exact ⟨setMessage_moves .., same.le.trans (Nat.le_add_right ..)⟩
  · exact ⟨.refl _ _, Nat.le_add_right ..⟩

/-- The requests to send a message that an event makes: those of the application, those after a time or a
change of the network, and those of the room after a refusal. -/
def requests (room : ClientChatRoom) (id : Nat) : SendingEvent → Nat
  | .send other _ => if other = id then (room.canSend other).toNat else 0
  | .resendTimerExpired other _ => if other = id then ((room.messages other).mResendTimer && room.canSend other).toNat else 0
  | .networkReachable other _ =>
    if other = id then ((room.messages other).states.state == .pendingDelivery && room.canSend other).toNat else 0
  | .deliveryUpdate other status reason => if other = id then (room.recovers other status reason).toNat else 0
  | _ => 0

theorem releaseHttpRequest_tokens (room : ClientChatRoom) (id : Nat) :
    Moves room (room.setMessage id (room.messages id).releaseHttpRequest) id ∧
      (room.setMessage id (room.messages id).releaseHttpRequest).tokens id + (room.messages id).upload.httpRequest.toNat =
        room.tokens id := by
  have balance := room.tokens_setMessage_self id (room.messages id).releaseHttpRequest
  refine ⟨setMessage_moves .., ?_⟩
  simp only [OutgoingMessage.inFlight, OutgoingMessage.releaseHttpRequest, Bool.toNat_false] at balance ⊢
  omega

theorem uploadFailed_tokens (room : ClientChatRoom) (id : Nat) (newState : ChatMessageState) :
    Moves room (room.uploadFailed id newState) id ∧ (room.uploadFailed id newState).tokens id ≤ room.tokens id := by
  have start := room.tokens_setMessage_same (room.messages id).undoUpload_inFlight
  obtain ⟨moves, same⟩ := (room.setMessage id (room.messages id).undoUpload).setParticipantState_tokens id newState .none (by decide)
  obtain ⟨last, released⟩ :=
    ((room.setMessage id (room.messages id).undoUpload).setParticipantState id newState .none).releaseHttpRequest_tokens id
  unfold uploadFailed
  simp only []
  exact ⟨((setMessage_moves ..).trans moves).trans last, by omega⟩

/-- What a message stops waiting for pays for what it sends. -/
theorem setMessage_send_tokens (room : ClientChatRoom) (id : Nat) (message : OutgoingMessage) (answer : LimeAnswer)
    (fewer : message.inFlight + 1 ≤ (room.messages id).inFlight) :
    Moves room ((room.setMessage id message).send id answer) id ∧
      ((room.setMessage id message).send id answer).tokens id ≤ room.tokens id := by
  have balance := room.tokens_setMessage_self id message
  obtain ⟨moves, more⟩ := (room.setMessage id message).send_tokens id answer
  exact ⟨(setMessage_moves ..).trans moves, by omega⟩

theorem setMessage_setParticipantState_tokens (room : ClientChatRoom) (id : Nat) (message : OutgoingMessage)
    (newState : ChatMessageState) (fewer : message.inFlight ≤ (room.messages id).inFlight) :
    Moves room ((room.setMessage id message).setParticipantState id newState .none) id ∧
      ((room.setMessage id message).setParticipantState id newState .none).tokens id ≤ room.tokens id := by
  have balance := room.tokens_setMessage_self id message
  obtain ⟨moves, same⟩ := (room.setMessage id message).setParticipantState_tokens id newState .none (by decide)
  exact ⟨(setMessage_moves ..).trans moves, by omega⟩

theorem processResponseFromPostFile_tokens (room : ClientChatRoom) (id : Nat) (response : UploadResponse) (answer : LimeAnswer) :
    Moves room (room.processResponseFromPostFile id response answer) id ∧
      (room.processResponseFromPostFile id response answer).tokens id ≤ room.tokens id := by
  unfold processResponseFromPostFile
  simp only []
  split
  · exact ⟨.refl _ _, le_rfl⟩
  next uploads =>
    have request : (room.messages id).upload.httpRequest = true := by simpa using uploads
    split
    · have balance := room.tokens_setMessage_self id ((room.messages id).beginUpload room.context)
      have fewer := OutgoingMessage.beginUpload_inFlight room.context request
      exact ⟨setMessage_moves .., by omega⟩
    · split
      · exact ⟨.refl _ _, le_rfl⟩
      next xmlBody _ =>
        -- the request that ends pays for the text that is sent
        obtain ⟨finished, same⟩ := (room.messages id).finishUpload_inFlight xmlBody
        have moved := (OutgoingMessage.setParticipantState_kept ((room.messages id).finishUpload xmlBody) room.states
          room.states.me .fileTransferDone .none).1
        rw [setParticipantState_eq (by decide), setMessage_self, setMessage_setMessage, setMessage_self, setMessage_setMessage]
        refine setMessage_send_tokens room id _ answer ?_
        rw [← finished, ← moved.inFlight]
        refine (OutgoingMessage.releaseHttpRequest_inFlight ?_).le
        exact ((congrArg FileUpload.httpRequest moved.upload).trans same).trans request
    · exact uploadFailed_tokens room id .notDelivered
    · exact uploadFailed_tokens room id .notDelivered
    · exact uploadFailed_tokens room id .fileTransferError

theorem processIoErrorUpload_tokens (room : ClientChatRoom) (id : Nat) :
    Moves room (room.processIoErrorUpload id) id ∧ (room.processIoErrorUpload id).tokens id ≤ room.tokens id := by
  unfold processIoErrorUpload
  simp only []
  split
  · exact ⟨.refl _ _, le_rfl⟩
  · obtain ⟨moves, same⟩ := room.setParticipantState_tokens id _ .none (by decide)
    obtain ⟨last, released⟩ := (room.setParticipantState id _ .none).releaseHttpRequest_tokens id
    exact ⟨moves.trans last, by omega⟩

theorem cancelFileTransfer_tokens (room : ClientChatRoom) (id : Nat) :
    Moves room (room.cancelFileTransfer id) id ∧ (room.cancelFileTransfer id).tokens id ≤ room.tokens id := by
  have cancelled : ∃ stopped, (if (room.messages id).upload.currentFileContentToTransfer.isSome then
      (room.setParticipantState id .fileTransferCancelling .none).setParticipantState id .notDelivered .none else room) = stopped ∧
      Moves room stopped id ∧ stopped.tokens id = room.tokens id := by
    obtain ⟨first, same⟩ := room.setParticipantState_tokens id .fileTransferCancelling .none (by decide)
    obtain ⟨second, again⟩ :=
      (room.setParticipantState id .fileTransferCancelling .none).setParticipantState_tokens id .notDelivered .none (by decide)
    refine ⟨_, rfl, ?_⟩
    split
    · exact ⟨first.trans second, again.trans same⟩
    · exact ⟨.refl _ _, rfl⟩
  obtain ⟨stopped, result, moves, same⟩ := cancelled
  obtain ⟨last, released⟩ := stopped.releaseHttpRequest_tokens id
  unfold cancelFileTransfer
  simp only [result]
  split
  · exact ⟨.refl _ _, le_rfl⟩
  · split
    · obtain ⟨moved, kept⟩ :=
        (stopped.setMessage id (stopped.messages id).releaseHttpRequest).setParticipantState_tokens id .notDelivered .none (by decide)
      exact ⟨(moves.trans last).trans moved, by omega⟩
    · exact ⟨moves.trans last, by omega⟩

theorem encryptionAnswered_tokens (room : ClientChatRoom) (id index : Nat) (failed : Option (List String)) (answer : LimeAnswer) :
    Moves room (room.encryptionAnswered id index failed answer) id ∧
      (room.encryptionAnswered id index failed answer).tokens id ≤ room.tokens id := by
  unfold encryptionAnswered
  simp only []
  split
  · exact ⟨.refl _ _, le_rfl⟩
  next context found =>
    have inside : index < (room.messages id).encryptions.length := (List.getElem?_eq_some_iff.mp found).1
    have fewer := List.length_eraseIdx_of_lt inside
    split
    · refine setMessage_setParticipantState_tokens room id _ .notDelivered ?_
      simp only [OutgoingMessage.inFlight]
      omega
    next lost =>
      refine setMessage_send_tokens room id _ answer ?_
      simp only [OutgoingMessage.inFlight]
      omega

/-- An event costs as many tokens as it makes requests. -/
theorem step_tokens (room : ClientChatRoom) (event : SendingEvent) (id : Nat) :
    (room.step event).tokens id ≤ room.tokens id + room.requests id event := by
  -- an event of one message leaves the tokens of the others as they are
  have moved {after : ClientChatRoom} {other cost : Nat} (moves : Moves room after other)
      (more : after.tokens other ≤ room.tokens other + cost) : after.tokens id ≤ room.tokens id + if other = id then cost else 0 := by
    split
    next same => exact same ▸ more
    next different => exact (moves.others id (Ne.symm different)).le
  have freely {after : ClientChatRoom} {other : Nat} (moves : Moves room after other)
      (more : after.tokens other ≤ room.tokens other) : after.tokens id ≤ room.tokens id + 0 := by
    have kept := moved moves (more.trans (Nat.le_add_right _ 0))
    rwa [ite_self] at kept
  have resent (other : Nat) (answer : LimeAnswer) (due : Bool) :
      (if due then room.handleAutomaticResend other answer else room).tokens id ≤
        room.tokens id + if other = id then (due && room.canSend other).toNat else 0 := by
    cases due with
    | true =>
      exact moved (room.handleAutomaticResend_tokens other answer).1 (room.handleAutomaticResend_tokens other answer).2
    | false => exact Nat.le_add_right ..
  cases event with
  | send other answer => exact moved (room.sendMessage_tokens other answer).1 (room.sendMessage_tokens other answer).2
  | resendTimerExpired other answer =>
    exact resent other answer _
  | networkReachable other answer => exact resent other answer _
  | uploadResponse other response answer =>
    exact freely (room.processResponseFromPostFile_tokens other response answer).1
      (room.processResponseFromPostFile_tokens other response answer).2
  | uploadIoError other => exact freely (room.processIoErrorUpload_tokens other).1 (room.processIoErrorUpload_tokens other).2
  | cancelFileTransfer other => exact freely (room.cancelFileTransfer_tokens other).1 (room.cancelFileTransfer_tokens other).2
  | encryptionAnswer other index failed answer =>
    exact freely (room.encryptionAnswered_tokens other index failed answer).1
      (room.encryptionAnswered_tokens other index failed answer).2
  | deliveryUpdate other status reason =>
    exact moved (room.messageDeliveryUpdate_tokens other status reason).1 (room.messageDeliveryUpdate_tokens other status reason).2
  | participantState other address state =>
    have kept := (OutgoingMessage.setParticipantState_kept (room.messages other) room.states address state .none).1
    exact freely (setMessage_moves ..) (room.tokens_setMessage_same kept.inFlight).le
  | stateChanged state => exact le_rfl
  | contextChanged context => exact le_rfl
  | subscriptionChanged underWay => exact le_rfl
  | notifyReceived context finished answers =>
    unfold step notifyReceived
    simp only []
    split
    · exact { room with
        context := context
        isSubscriptionUnderWay := room.isSubscriptionUnderWay && !finished }.sendPendingMessages_tokens answers id
    · exact le_rfl
  | locallyExhumed underWay answers => exact room.onLocallyExhumedConference_tokens underWay answers id
  | shutdown => exact le_rfl
  | uninit answers =>
    exact { room with isShuttingDown := true, encryptionEngine := false }.sendPendingMessages_tokens answers id

/-- The requests of a run. -/
def requestsDuring (room : ClientChatRoom) (id : Nat) : List SendingEvent → Nat
  | [] => 0
  | event :: rest => room.requests id event + (room.step event).requestsDuring id rest

theorem run_tokens (room : ClientChatRoom) (id : Nat) (events : List SendingEvent) :
    (events.foldl step room).tokens id ≤ room.tokens id + room.requestsDuring id events := by
  induction events generalizing room with
  | nil => exact le_rfl
  | cons event rest ih =>
    have first := room.step_tokens event id
    have others := ih (room.step event)
    rw [List.foldl_cons, requestsDuring]
    omega

/-- Whatever happens in whatever order, a message is handed to SIP at most once for each request, and the
requests that are left over pay for what may still be sent. -/
theorem sent_once_per_request (room : ClientChatRoom) (id : Nat) (events : List SendingEvent) :
    (events.foldl step room).sentCount id + (events.foldl step room).waiting id +
        ((events.foldl step room).messages id).inFlight ≤
      room.sentCount id + room.waiting id + (room.messages id).inFlight + room.requestsDuring id events := by
  have spent := room.run_tokens id events
  rw [tokens, tokens] at spent
  omega

end ClientChatRoom
end Liblinphone
