import Liblinphone.Proofs.MessageRequests

/-! What a chat room that is encrypted hands to SIP. A message that waits for something has not been
encrypted, or what it keeps is encrypted, so that whatever sends it again sends nothing in clear. -/

namespace Liblinphone

variable {ready : OutgoingMessage → Prop} {good : List MessageContent → MessageBody → Prop}

/-- A message that is ready is packed into a text that is good for its contents, and only the application
and the modifiers make it less ready. -/
structure Packing (ready : OutgoingMessage → Prop) (good : List MessageContent → MessageBody → Prop) : Prop where
  stays : ∀ before after : OutgoingMessage, after.original = before.original → after.internalContent = before.internalContent →
    after.currentSendStep.modifiers = before.currentSendStep.modifiers → ready before → ready after
  packs : ∀ (message : OutgoingMessage) (context : SendingContext), ready message → context.hasAccount = true →
    message.currentSendStep.fileUpload = true ∨ message.fileToUpload = none → good message.original (message.packed context)

/-- A text that is encrypted, and that is good for the contents. -/
def Secret (good : List MessageContent → MessageBody → Prop) (original : List MessageContent) (body : MessageBody) : Prop :=
  ∃ plain recipients, body = .encrypted plain recipients ∧ good original plain

namespace OutgoingMessage

variable {original : List MessageContent} {before after message : OutgoingMessage}

/-- What holds of every message of the room. -/
structure Sealed (good : List MessageContent → MessageBody → Prop) (original : List MessageContent) (message : OutgoingMessage) :
    Prop where
  prevented : message.encryptionPrevented = false
  contents : message.original = original
  marks : message.currentSendStep.encryption = true → message.currentSendStep.modifiers = SendSteps.finished
  asked : message.encryptions ≠ [] → message.currentSendStep.encryption = true
  jobs : ∀ job ∈ message.encryptions, good original job.plain

/-- What holds of a message that may be sent again without being asked for. -/
def Fit (ready : OutgoingMessage → Prop) (good : List MessageContent → MessageBody → Prop) (message : OutgoingMessage) : Prop :=
  message.currentSendStep.encryption = false ∧ ready message ∨
    message.currentSendStep.modifiers = SendSteps.finished ∧ Secret good message.original message.internalContent

/-- What a message has when only its state changes. -/
structure Alike (before after : OutgoingMessage) : Prop where
  prevented : after.encryptionPrevented = before.encryptionPrevented
  encryptions : after.encryptions = before.encryptions
  original : after.original = before.original
  internal : after.internalContent = before.internalContent
  modifiers : after.currentSendStep.modifiers = before.currentSendStep.modifiers

theorem Alike.sealed (alike : Alike before after) (kept : before.Sealed good original) : after.Sealed good original := by
  have same := (SendSteps.modifiers_eq_iff.mp alike.modifiers).2.2.2
  refine ⟨alike.prevented.trans kept.prevented, alike.original.trans kept.contents, fun marked => ?_, fun waits => ?_, ?_⟩
  · rw [alike.modifiers]
    exact kept.marks (same ▸ marked)
  · rw [alike.encryptions] at waits
    rw [same]
    exact kept.asked waits
  · rw [alike.encryptions]
    exact kept.jobs

theorem Alike.fit (packing : Packing ready good) (alike : Alike before after) (fit : before.Fit ready good) :
    after.Fit ready good := by
  have same := (SendSteps.modifiers_eq_iff.mp alike.modifiers).2.2.2
  cases fit with
  | inl clear =>
    exact .inl ⟨same.trans clear.1, packing.stays before after alike.original alike.internal alike.modifiers clear.2⟩
  | inr secret =>
    refine .inr ⟨alike.modifiers.trans secret.1, ?_⟩
    rw [alike.original, alike.internal]
    exact secret.2

theorem Alike.trans {middle : OutgoingMessage} (first : Alike before middle) (second : Alike middle after) : Alike before after :=
  ⟨second.prevented.trans first.prevented, second.encryptions.trans first.encryptions, second.original.trans first.original,
    second.internal.trans first.internal, second.modifiers.trans first.modifiers⟩

theorem replaced_original {contentToRemove contentToAdd : MessageContent} (same : contentToAdd.restore = contentToRemove.restore)
    (contents : List MessageContent) :
    (contents.replace contentToRemove contentToAdd).map MessageContent.restore = contents.map MessageContent.restore := by
  induction contents with
  | nil => rfl
  | cons content rest ih =>
    rw [List.replace_cons]
    split
    next found =>
      rw [List.map_cons, List.map_cons, same, ← beq_iff_eq.mp found]
    · rw [List.map_cons, List.map_cons, ih]

theorem replaceContent_alike (message : OutgoingMessage) (contentToRemove contentToAdd : MessageContent)
    (same : contentToAdd.restore = contentToRemove.restore) :
    Alike message (message.replaceContent contentToRemove contentToAdd) :=
  ⟨rfl, rfl, replaced_original same message.contents, rfl, rfl⟩

theorem beginUpload_alike (message : OutgoingMessage) (context : SendingContext) : Alike message (message.beginUpload context) := by
  unfold beginUpload uploadFile
  split
  · exact ⟨rfl, rfl, rfl, rfl, rfl⟩
  next file _ =>
    have replaced := message.replaceContent_alike (.file file) (.fileTransfer file none) rfl
    simp only []
    split <;> exact replaced.trans ⟨rfl, rfl, rfl, rfl, rfl⟩

theorem undoUpload_alike (message : OutgoingMessage) : Alike message message.undoUpload := by
  unfold undoUpload
  split
  next file _ =>
    split
    · exact (message.replaceContent_alike (.fileTransfer file none) (.file file) rfl).trans ⟨rfl, rfl, rfl, rfl, rfl⟩
    · exact ⟨rfl, rfl, rfl, rfl, rfl⟩
  · exact ⟨rfl, rfl, rfl, rfl, rfl⟩

theorem finishUpload_alike (message : OutgoingMessage) (xmlBody : String) : Alike message (message.finishUpload xmlBody) := by
  unfold finishUpload
  split
  next file _ =>
    exact (message.replaceContent_alike (.fileTransfer file none) (.fileTransfer file (some xmlBody)) rfl).trans
      ⟨rfl, rfl, rfl, rfl, rfl⟩
  · exact ⟨rfl, rfl, rfl, rfl, rfl⟩

theorem releaseHttpRequest_alike (message : OutgoingMessage) : Alike message message.releaseHttpRequest := ⟨rfl, rfl, rfl, rfl, rfl⟩

theorem setParticipantState_alike (message : OutgoingMessage) (room : ChatRoom) (address : String) (newState : ChatMessageState)
    (reason : DeliveryReason) : Alike message (message.setParticipantState room address newState reason) := by
  obtain ⟨kept, internal, -⟩ := setParticipantState_kept message room address newState reason
  exact ⟨kept.prevented, kept.encryptions, kept.original, internal, kept.modifiers⟩

end OutgoingMessage

namespace ClientChatRoom

variable {room : ClientChatRoom} {before after : OutgoingMessage} {bodies : List MessageBody} {original : List MessageContent}

/-- An attempt hands nothing to SIP that is not secret. -/
theorem Attempt.secret (packing : Packing ready good) (attempt : Attempt room before after bodies)
    (engine : room.encryptionEngine = true) (encrypted : room.isEncrypted = true) (kept : before.Sealed good original)
    (idle : before.encryptions = []) (fit : before.Fit ready good) :
    after.Sealed good original ∧ (∀ body ∈ bodies, Secret good original body) ∧
      (after.upload.httpRequest = true → before.upload.httpRequest = true ∨ after.Fit ready good) := by
  cases attempt with
  | failed upload encryptions prevented contents steps =>
    have unmarked : after.currentSendStep.encryption = false := congrArg SendSteps.encryption steps
    rw [idle] at encryptions
    refine ⟨⟨prevented.trans kept.prevented, contents.trans kept.contents, ?_, ?_, ?_⟩, by simp, ?_⟩
    · rw [unmarked]
      exact fun marked => absurd marked (by decide)
    · exact fun waits => absurd encryptions waits
    · rw [encryptions]
      simp
    · exact fun busy => .inl (upload ▸ busy)
  | uploading _ unfinished encryptions prevented contents modifiers internal =>
    have alike : OutgoingMessage.Alike before after := ⟨prevented, encryptions, contents, internal, modifiers⟩
    exact ⟨alike.sealed kept, by simp, fun _ => .inr (alike.fit packing fit)⟩
  | finished jobs upload encryptions prevented contents modifiers uploaded once asked text =>
    have packs (unmarked : before.currentSendStep.encryption = false) (account : room.context.hasAccount = true) :
        good original (before.packed room.context) := by
      rw [← kept.contents]
      cases fit with
      | inl clear => exact packing.packs before room.context clear.2 account uploaded
      | inr secret => exact absurd (congrArg SendSteps.encryption secret.1) (by simp [SendSteps.modifiers, SendSteps.finished, unmarked])
    rw [kept.prevented, Bool.not_false, Bool.or_true] at modifiers
    have marked : after.currentSendStep.encryption = true := congrArg SendSteps.encryption modifiers
    rw [idle, List.nil_append] at encryptions
    refine ⟨⟨prevented.trans kept.prevented, contents.trans kept.contents, fun _ => modifiers, fun _ => marked, ?_⟩, ?_, ?_⟩
    · rw [encryptions]
      intro job member
      obtain ⟨unmarked, account, plain⟩ := asked job member
      exact plain ▸ packs unmarked account
    · intro body member
      cases text body member with
      | inl sealed =>
        obtain ⟨unmarked, account, recipients, rfl⟩ := sealed
        exact ⟨_, recipients, rfl, packs unmarked account⟩
      | inr forwarded =>
        obtain ⟨reason, rfl⟩ := forwarded
        have encrypts : room.encrypts before = true := by rw [encrypts, engine, encrypted, kept.prevented]; rfl
        have done : before.currentSendStep.encryption = true := reason.resolve_right (by rw [encrypts]; decide)
        cases fit with
        | inl clear => exact absurd (done.symm.trans clear.1) (by decide)
        | inr secret =>
          obtain ⟨finished, plain, recipients, internal, fine⟩ := secret
          obtain ⟨-, multipart, cpim, -⟩ := SendSteps.modifiers_eq_finished_iff.mp finished
          have full : before.internalContent.isEmpty = false := by rw [internal]; rfl
          rw [OutgoingMessage.modified_again multipart cpim, OutgoingMessage.fillContent_of_full full, ← kept.contents]
          exact ⟨plain, recipients, internal, fine⟩
    · exact fun busy => .inl (upload ▸ busy)

/-- The room as long as it encrypts what it sends. How many places a message waits in is given, since a
list that is gone through is emptied in the end. -/
structure Sealed (ready : OutgoingMessage → Prop) (good : List MessageContent → MessageBody → Prop)
    (originals : Nat → List MessageContent) (places : Nat → Nat) (room : ClientChatRoom) : Prop where
  engine : room.encryptionEngine = true
  encrypted : room.isEncrypted = true
  messages : ∀ id, (room.messages id).Sealed good (originals id)
  single : ∀ id, places id + (room.messages id).inFlight ≤ 1
  fit : ∀ id, 0 < places id ∨ (room.messages id).upload.httpRequest = true → (room.messages id).Fit ready good
  sent : ∀ entry ∈ room.sent, Secret good (originals entry.1) entry.2

variable {originals : Nat → List MessageContent} {places fewer : Nat → Nat} {id : Nat}

theorem Sealed.mono (sealed : Sealed ready good originals places room) (less : ∀ id, fewer id ≤ places id) :
    Sealed ready good originals fewer room :=
  ⟨sealed.engine, sealed.encrypted, sealed.messages, fun id => (Nat.add_le_add_right (less id) _).trans (sealed.single id),
    fun id busy => sealed.fit id (busy.imp_left fun waits => waits.trans_le (less id)), sealed.sent⟩

/-- One message is changed, and texts of it are handed to SIP. -/
theorem Sealed.output (sealed : Sealed ready good originals places room) {message : OutgoingMessage} {bodies : List MessageBody}
    (others : ∀ other, other ≠ id → fewer other ≤ places other) (kept : message.Sealed good (originals id))
    (single : fewer id + message.inFlight ≤ 1)
    (fit : 0 < fewer id ∨ message.upload.httpRequest = true → message.Fit ready good)
    (secret : ∀ body ∈ bodies, Secret good (originals id) body) :
    Sealed ready good originals fewer (room.output id message bodies) := by
  refine ⟨sealed.engine, sealed.encrypted, fun other => ?_, fun other => ?_, fun other => ?_, fun entry member => ?_⟩
  · by_cases same : other = id
    · subst same
      rwa [output_self]
    · rw [output_of_ne same]
      exact sealed.messages other
  · by_cases same : other = id
    · subst same
      rwa [output_self]
    · rw [output_of_ne same]
      exact (Nat.add_le_add_right (others other same) _).trans (sealed.single other)
  · by_cases same : other = id
    · subst same
      rwa [output_self]
    · rw [output_of_ne same]
      exact fun busy => sealed.fit other (busy.imp_left fun waits => waits.trans_le (others other same))
  · cases List.mem_append.mp member with
    | inl earlier => exact sealed.sent entry earlier
    | inr now =>
      obtain ⟨body, inside, rfl⟩ := List.mem_map.mp now
      exact secret body inside

/-- The state of a message changes, and its places do not. -/
theorem Sealed.alike (packing : Packing ready good) (sealed : Sealed ready good originals places room) {message : OutgoingMessage}
    (alike : OutgoingMessage.Alike (room.messages id) message)
    (request : message.upload.httpRequest = true → (room.messages id).upload.httpRequest = true) :
    Sealed ready good originals places (room.setMessage id message) := by
  rw [setMessage_eq_output]
  refine sealed.output (fun _ _ => le_rfl) (alike.sealed (sealed.messages id)) ?_ ?_ (by simp)
  · refine le_trans ?_ (sealed.single id)
    rw [OutgoingMessage.inFlight, OutgoingMessage.inFlight, alike.encryptions]
    have bound := Bool.toNat_le message.upload.httpRequest
    cases found : message.upload.httpRequest with
    | false => simp only [Bool.toNat_false]; omega
    | true => rw [request found]
  · exact fun busy => alike.fit packing (sealed.fit id (busy.imp_right request))

theorem Sealed.setParticipantState (packing : Packing ready good) (sealed : Sealed ready good originals places room) (id : Nat)
    (newState : ChatMessageState) {reason : DeliveryReason} (accepted : reason ≠ .forbidden) :
    Sealed ready good originals places (room.setParticipantState id newState reason) := by
  rw [setParticipantState_eq accepted]
  have kept := (OutgoingMessage.setParticipantState_kept (room.messages id) room.states room.states.me newState reason).1
  refine sealed.alike packing (OutgoingMessage.setParticipantState_alike ..) fun busy => ?_
  rwa [kept.upload] at busy

/-- A message that is nowhere is put somewhere. -/
theorem Sealed.places_of_fit (sealed : Sealed ready good originals places room)
    (others : ∀ other, other ≠ id → fewer other ≤ places other) (once : fewer id ≤ 1)
    (idle : (room.messages id).inFlight = 0) (fit : (room.messages id).Fit ready good) :
    Sealed ready good originals fewer room := by
  have same : Sealed ready good originals fewer (room.output id (room.messages id) []) :=
    sealed.output others (sealed.messages id) (by omega) (fun _ => fit) (by simp)
  rwa [← setMessage_eq_output, setMessage_eq_self] at same

theorem addPendingMessage_waiting (room : ClientChatRoom) (id : Nat) :
    (room.addPendingMessage id).waiting id ≤ room.waiting id + 1 := by
  unfold addPendingMessage
  split
  · exact Nat.le_succ _
  · simp only [waiting, List.count_append, List.count_singleton_self]
    omega

theorem addExhumeMessage_waiting (room : ClientChatRoom) (id : Nat) :
    (room.addExhumeMessage id).waiting id ≤ room.waiting id + 1 := by
  unfold addExhumeMessage
  split
  · exact Nat.le_succ _
  · simp only [waiting, List.count_append, List.count_singleton_self]
    omega

theorem addPendingMessage_sealed (sealed : Sealed ready good originals places room) :
    Sealed ready good originals places (room.addPendingMessage id) := by
  unfold addPendingMessage
  split <;> exact ⟨sealed.engine, sealed.encrypted, sealed.messages, sealed.single, sealed.fit, sealed.sent⟩

theorem addExhumeMessage_sealed (sealed : Sealed ready good originals places room) :
    Sealed ready good originals places (room.addExhumeMessage id) := by
  unfold addExhumeMessage
  split <;> exact ⟨sealed.engine, sealed.encrypted, sealed.messages, sealed.single, sealed.fit, sealed.sent⟩

theorem exhume_sealed (sealed : Sealed ready good originals places room) : Sealed ready good originals places room.exhume := by
  unfold exhume
  split <;> exact ⟨sealed.engine, sealed.encrypted, sealed.messages, sealed.single, sealed.fit, sealed.sent⟩

/-- A message that waits for nothing is sent, and where it is put then is one place. -/
theorem Sealed.send (packing : Packing ready good) (sealed : Sealed ready good originals places room) (answer : LimeAnswer)
    (idle : (room.messages id).inFlight = 0) (fit : (room.messages id).Fit ready good)
    (others : ∀ other, other ≠ id → fewer other ≤ places other)
    (once : fewer id ≤ (room.send id answer).waiting id - room.waiting id) :
    Sealed ready good originals fewer (room.send id answer) := by
  have none : (room.messages id).encryptions = [] ∧ (room.messages id).upload.httpRequest = false := by
    simpa [OutgoingMessage.inFlight] using idle
  by_cases there : room.postponesSending = false
  · obtain ⟨after, bodies, sends, attempt⟩ := room.send_attempt id answer there
    obtain ⟨kept, secret, uploads⟩ := attempt.secret packing sealed.engine sealed.encrypted (sealed.messages id) none.1 fit
    have few := attempt.inFlight
    have nowhere : (room.output id after bodies).waiting id - room.waiting id = 0 := Nat.sub_self _
    rw [sends, nowhere] at once
    rw [sends]
    refine sealed.output others kept (by omega) ?_ secret
    rintro (waits | busy)
    · omega
    · exact (uploads busy).resolve_left (by rw [none.2]; decide)
  · have waits : room.send id answer = room.addPendingMessage id := by
      rw [ClientChatRoom.send, sendAt, if_pos (Bool.not_eq_false _ ▸ there)]
    have gained := room.addPendingMessage_waiting id
    rw [waits] at once ⊢
    exact addPendingMessage_sealed (sealed.places_of_fit others (by omega) idle fit)

theorem Sealed.sendChatMessage (packing : Packing ready good) (sealed : Sealed ready good originals places room)
    (answer : LimeAnswer) (idle : (room.messages id).inFlight = 0) (fit : (room.messages id).Fit ready good)
    (others : ∀ other, other ≠ id → fewer other ≤ places other)
    (once : fewer id ≤ (room.sendChatMessage id answer).waiting id - room.waiting id) :
    Sealed ready good originals fewer (room.sendChatMessage id answer) := by
  rcases room.sendChatMessage_cases id answer with result | result | result | result <;> rw [result] at once ⊢
  · have nowhere : (room.setParticipantState id .notDelivered .none).waiting id = room.waiting id := by
      rw [setParticipantState_eq (by decide)]
      rfl
    exact (sealed.places_of_fit others (by omega) idle fit).setParticipantState packing id .notDelivered (by decide)
  · have same : room.exhume.waiting id = room.waiting id := by
      unfold ClientChatRoom.exhume
      split <;> rfl
    have gained := room.exhume.addExhumeMessage_waiting id
    exact addExhumeMessage_sealed (exhume_sealed (sealed.places_of_fit others (by omega) idle fit))
  · have gained := room.addPendingMessage_waiting id
    exact addPendingMessage_sealed (sealed.places_of_fit others (by omega) idle fit)
  · exact sealed.send packing answer idle fit others once

/-- A message that waits for nothing else waits in one list. -/
theorem Sealed.idle (sealed : Sealed ready good originals places room) (id : Nat) (waits : 0 < places id) :
    places id = 1 ∧ (room.messages id).inFlight = 0 := by
  have single := sealed.single id
  omega

/-- The messages of a list are sent, and those that wait again wait in the other list. -/
theorem Sealed.sendList (packing : Packing ready good) (answers : Nat → LimeAnswer) (ids : List Nat) :
    ∀ room : ClientChatRoom, Sealed ready good originals (fun id => ids.count id + room.mPendingExhumeMessages.count id) room →
      Sealed ready good originals
        (ids.foldl (fun room id => room.sendChatMessage id (answers id)) room).mPendingExhumeMessages.count
        (ids.foldl (fun room id => room.sendChatMessage id (answers id)) room) := by
  induction ids with
  | nil =>
    intro room start
    simpa using start
  | cons id rest ih =>
    intro room start
    obtain ⟨once, idle⟩ := start.idle id (by simp)
    rw [List.count_cons_self] at once
    have moves := (room.sendChatMessage_tokens id (answers id)).1
    refine ih _ (start.sendChatMessage packing (answers id) idle (start.fit id (.inl (by simp))) ?_ ?_)
    · intro other different
      rw [moves.exhume other different, List.count_cons_of_ne different.symm]
    · have stays := moves.stays.1
      simp only [waiting]
      omega

theorem Sealed.sendPendingMessages (packing : Packing ready good) (sealed : Sealed ready good originals room.waiting room)
    (answers : Nat → LimeAnswer) :
    Sealed ready good originals (room.sendPendingMessages answers).waiting (room.sendPendingMessages answers) := by
  have sent := Sealed.sendList packing answers room.mPendingCreationMessages room sealed
  refine ⟨sent.engine, sent.encrypted, sent.messages, fun id => ?_, fun id busy => ?_, sent.sent⟩
  · exact le_of_eq_of_le (by simp [ClientChatRoom.sendPendingMessages, waiting]) (sent.single id)
  · exact sent.fit id (busy.imp_left fun waits => by simpa [ClientChatRoom.sendPendingMessages, waiting] using waits)

/-- The messages that wait for an exhumed room are sent, and wait again for its devices. -/
theorem Sealed.sendExhumed (packing : Packing ready good) (answers : Nat → LimeAnswer) (ids : List Nat) :
    ∀ room : ClientChatRoom, Sealed ready good originals (fun id => room.mPendingCreationMessages.count id + ids.count id) room →
      Sealed ready good originals
        (ids.foldl (fun room id => room.send id (answers id)) room).mPendingCreationMessages.count
        (ids.foldl (fun room id => room.send id (answers id)) room) := by
  induction ids with
  | nil =>
    intro room start
    simpa using start
  | cons id rest ih =>
    intro room start
    obtain ⟨once, idle⟩ := start.idle id (by simp)
    rw [List.count_cons_self] at once
    have moves := (room.send_tokens id (answers id)).1
    refine ih _ (start.send packing (answers id) idle (start.fit id (.inl (by simp))) ?_ ?_)
    · intro other different
      rw [moves.pending other different, List.count_cons_of_ne different.symm]
    · have stays := moves.stays.2
      simp only [waiting]
      omega

theorem Sealed.onLocallyExhumedConference (packing : Packing ready good)
    (sealed : Sealed ready good originals room.waiting room) (underWay : Bool) (answers : Nat → LimeAnswer) :
    Sealed ready good originals (room.onLocallyExhumedConference underWay answers).waiting
      (room.onLocallyExhumedConference underWay answers) := by
  have sent := Sealed.sendExhumed packing answers room.mPendingExhumeMessages
    { room with state := .created, isSubscriptionUnderWay := underWay }
    ⟨sealed.engine, sealed.encrypted, sealed.messages, sealed.single, sealed.fit, sealed.sent⟩
  refine ⟨sent.engine, sent.encrypted, sent.messages, fun id => ?_, fun id busy => ?_, sent.sent⟩
  · exact le_of_eq_of_le (by simp [ClientChatRoom.onLocallyExhumedConference, waiting]) (sent.single id)
  · exact sent.fit id (busy.imp_left fun waits => by simpa [ClientChatRoom.onLocallyExhumedConference, waiting] using waits)

/-- What a run keeps to. A message is sent again when nothing of it is under way, a refusal does not exhume
the room, and the engine is not destroyed. -/
def Regular (ready : OutgoingMessage → Prop) (room : ClientChatRoom) : SendingEvent → Prop
  | .send id _ | .resendTimerExpired id _ | .networkReachable id _ =>
    room.canSend id = true → room.waiting id + (room.messages id).inFlight = 0 ∧ ready (room.messages id).forgetModifiers
  | .deliveryUpdate id status reason => room.recovers id status reason = false
  | .uninit _ => False
  | _ => True

theorem Sealed.sendMessage (packing : Packing ready good) (sealed : Sealed ready good originals room.waiting room) (id : Nat)
    (answer : LimeAnswer)
    (regular : room.canSend id = true →
      room.waiting id + (room.messages id).inFlight = 0 ∧ ready (room.messages id).forgetModifiers) :
    Sealed ready good originals (room.sendMessage id answer).waiting (room.sendMessage id answer) := by
  unfold ClientChatRoom.sendMessage
  split
  · exact sealed
  next can =>
    obtain ⟨nowhere, prepared⟩ := regular (by simpa using can)
    have kept := sealed.messages id
    have none : (room.messages id).encryptions = [] := by
      have empty : (room.messages id).inFlight = 0 := by omega
      simp only [OutgoingMessage.inFlight, Nat.add_eq_zero_iff, List.length_eq_zero_iff] at empty
      exact empty.1
    have forgotten : (room.messages id).forgetModifiers.Sealed good (originals id) :=
      ⟨kept.prevented, kept.contents, fun marked => absurd marked (by simp [OutgoingMessage.forgetModifiers]),
        fun waits => absurd none waits, kept.jobs⟩
    have fit : (room.messages id).forgetModifiers.Fit ready good := .inl ⟨rfl, prepared⟩
    have opened : Sealed ready good originals room.waiting (room.setMessage id (room.messages id).forgetModifiers) := by
      rw [setMessage_eq_output]
      exact sealed.output (fun _ _ => le_rfl) forgotten (sealed.single id) (fun _ => fit) (by simp)
    have moves := ((room.setMessage id (room.messages id).forgetModifiers).sendChatMessage_tokens id answer).1
    refine opened.sendChatMessage packing answer ?_ ?_ ?_ ?_
    · rw [setMessage_self]
      exact (Nat.add_eq_zero_iff.mp nowhere).2
    · rwa [setMessage_self]
    · intro other different
      rw [waiting, moves.pending other different, moves.exhume other different]
      rfl
    · have none : (room.setMessage id (room.messages id).forgetModifiers).waiting id = 0 := (Nat.add_eq_zero_iff.mp nowhere).1
      omega

theorem Sealed.handleAutomaticResend (packing : Packing ready good) (sealed : Sealed ready good originals room.waiting room)
    (id : Nat) (answer : LimeAnswer)
    (regular : room.canSend id = true →
      room.waiting id + (room.messages id).inFlight = 0 ∧ ready (room.messages id).forgetModifiers) :
    Sealed ready good originals (room.handleAutomaticResend id answer).waiting (room.handleAutomaticResend id answer) := by
  have marked : Sealed ready good originals (room.setMessage id { room.messages id with mAutomaticallyResent := true }).waiting
      (room.setMessage id { room.messages id with mAutomaticallyResent := true }) :=
    sealed.alike packing ⟨rfl, rfl, rfl, rfl, rfl⟩ fun busy => busy
  have sent := marked.sendMessage packing id answer (by
    rw [setMessage_self]
    intro can
    have same : (room.setMessage id { room.messages id with mAutomaticallyResent := true }).canSend id = room.canSend id := by
      simp only [canSend, setMessage_self]
    obtain ⟨nowhere, prepared⟩ := regular (same ▸ can)
    exact ⟨nowhere, packing.stays (room.messages id).forgetModifiers _ rfl rfl rfl prepared⟩)
  exact sent.alike packing ⟨rfl, rfl, rfl, rfl, rfl⟩ fun busy => busy

theorem Sealed.releaseHttpRequest (packing : Packing ready good) (sealed : Sealed ready good originals places room) (id : Nat) :
    Sealed ready good originals places (room.setMessage id (room.messages id).releaseHttpRequest) :=
  sealed.alike packing (room.messages id).releaseHttpRequest_alike fun busy => absurd busy (by simp [OutgoingMessage.releaseHttpRequest])

theorem setParticipantState_waiting (room : ClientChatRoom) (id : Nat) (newState : ChatMessageState) {reason : DeliveryReason}
    (accepted : reason ≠ .forbidden) : (room.setParticipantState id newState reason).waiting = room.waiting := by
  rw [setParticipantState_eq accepted]
  rfl

theorem Sealed.uploadFailed (packing : Packing ready good) (sealed : Sealed ready good originals places room) (id : Nat)
    (newState : ChatMessageState) : Sealed ready good originals places (room.uploadFailed id newState) := by
  have undone : Sealed ready good originals places (room.setMessage id (room.messages id).undoUpload) := by
    refine sealed.alike packing (room.messages id).undoUpload_alike ?_
    unfold OutgoingMessage.undoUpload
    split
    · split <;> exact fun busy => busy
    · exact fun busy => busy
  exact (undone.setParticipantState packing id newState (by decide)).releaseHttpRequest packing id

theorem Sealed.cancelFileTransfer (packing : Packing ready good) (sealed : Sealed ready good originals places room) (id : Nat) :
    Sealed ready good originals places (room.cancelFileTransfer id) := by
  have cancelled : ∃ stopped, (if (room.messages id).upload.currentFileContentToTransfer.isSome then
      (room.setParticipantState id .fileTransferCancelling .none).setParticipantState id .notDelivered .none else room) = stopped ∧
      Sealed ready good originals places stopped := by
    refine ⟨_, rfl, ?_⟩
    split
    · exact (sealed.setParticipantState packing id .fileTransferCancelling (by decide)).setParticipantState packing id
        .notDelivered (by decide)
    · exact sealed
  obtain ⟨stopped, result, kept⟩ := cancelled
  have released := kept.releaseHttpRequest packing id
  unfold ClientChatRoom.cancelFileTransfer
  simp only [result]
  split
  · exact sealed
  · split
    · exact released.setParticipantState packing id .notDelivered (by decide)
    · exact released

theorem cancelFileTransfer_waiting (room : ClientChatRoom) (id : Nat) : (room.cancelFileTransfer id).waiting = room.waiting := by
  have stopped : ∃ stopped, (if (room.messages id).upload.currentFileContentToTransfer.isSome then
      (room.setParticipantState id .fileTransferCancelling .none).setParticipantState id .notDelivered .none else room) = stopped ∧
      stopped.waiting = room.waiting := by
    refine ⟨_, rfl, ?_⟩
    split
    · rw [setParticipantState_waiting _ _ _ (by decide), setParticipantState_waiting _ _ _ (by decide)]
    · rfl
  obtain ⟨stopped, result, same⟩ := stopped
  unfold ClientChatRoom.cancelFileTransfer
  simp only [result]
  split
  · rfl
  · split
    · rw [setParticipantState_waiting _ _ _ (by decide)]
      exact same
    · exact same

/-- What a message stops waiting for sends it. -/
theorem Sealed.setMessage_send (packing : Packing ready good) (sealed : Sealed ready good originals room.waiting room) (id : Nat)
    (message : OutgoingMessage) (answer : LimeAnswer) (kept : message.Sealed good (originals id)) (fit : message.Fit ready good)
    (idle : message.inFlight = 0) (nowhere : room.waiting id = 0) :
    Sealed ready good originals ((room.setMessage id message).send id answer).waiting ((room.setMessage id message).send id answer) := by
  have changed : Sealed ready good originals room.waiting (room.setMessage id message) := by
    rw [setMessage_eq_output]
    exact sealed.output (fun _ _ => le_rfl) kept (by omega) (fun _ => fit) (by simp)
  have moves := ((room.setMessage id message).send_tokens id answer).1
  refine changed.send packing answer ?_ ?_ ?_ ?_
  · rwa [setMessage_self]
  · rwa [setMessage_self]
  · intro other different
    rw [waiting, moves.pending other different, moves.exhume other different]
    rfl
  · have none : (room.setMessage id message).waiting id = 0 := nowhere
    omega

theorem Sealed.encryptionAnswered (packing : Packing ready good) (sealed : Sealed ready good originals room.waiting room)
    (id index : Nat) (failed : Option (List String)) (answer : LimeAnswer) :
    Sealed ready good originals (room.encryptionAnswered id index failed answer).waiting
      (room.encryptionAnswered id index failed answer) := by
  unfold ClientChatRoom.encryptionAnswered
  simp only []
  split
  · exact sealed
  next context found =>
    obtain ⟨inside, same⟩ := List.getElem?_eq_some_iff.mp found
    have kept := sealed.messages id
    have single := sealed.single id
    have marked := kept.asked (List.ne_nil_of_length_pos (Nat.zero_lt_of_lt inside))
    have fewer := List.length_eraseIdx_of_lt inside
    have secret : good (originals id) context.plain := kept.jobs context (same ▸ List.getElem_mem inside)
    have rest (job : EncryptionContext) (member : job ∈ (room.messages id).encryptions.eraseIdx index) : good (originals id) job.plain :=
      kept.jobs job (List.mem_of_mem_eraseIdx member)
    simp only [OutgoingMessage.inFlight] at single
    split
    · have forgotten : Sealed ready good originals room.waiting
          (room.setMessage id { room.messages id with encryptions := (room.messages id).encryptions.eraseIdx index }) := by
        rw [setMessage_eq_output]
        refine sealed.output (fun _ _ => le_rfl) ⟨kept.prevented, kept.contents, kept.marks, fun _ => marked, rest⟩ ?_ ?_ (by simp)
        · simp only [OutgoingMessage.inFlight]
          omega
        · rintro (waits | uploads)
          · omega
          · have request : (room.messages id).upload.httpRequest = true := uploads
            rw [request, Bool.toNat_true] at single
            omega
      exact forgotten.setParticipantState packing id .notDelivered (by decide)
    next lost =>
      refine sealed.setMessage_send packing id _ answer ⟨kept.prevented, kept.contents, kept.marks, fun _ => marked, rest⟩
        (.inr ⟨kept.marks marked, context.plain, _, rfl, ?_⟩) ?_ (by omega)
      · exact kept.contents ▸ secret
      · simp only [OutgoingMessage.inFlight]
        omega

theorem Sealed.processResponseFromPostFile (packing : Packing ready good)
    (sealed : Sealed ready good originals room.waiting room) (id : Nat) (response : UploadResponse) (answer : LimeAnswer) :
    Sealed ready good originals (room.processResponseFromPostFile id response answer).waiting
      (room.processResponseFromPostFile id response answer) := by
  have failed (newState : ChatMessageState) :
      Sealed ready good originals (room.uploadFailed id newState).waiting (room.uploadFailed id newState) := by
    have same : (room.uploadFailed id newState).waiting = room.waiting :=
      (room.setMessage id (room.messages id).undoUpload).setParticipantState_waiting id newState (by decide)
    rw [same]
    exact sealed.uploadFailed packing id newState
  unfold ClientChatRoom.processResponseFromPostFile
  simp only []
  split
  · exact sealed
  next uploads =>
    have request : (room.messages id).upload.httpRequest = true := by simpa using uploads
    split
    · exact sealed.alike packing ((room.messages id).beginUpload_alike room.context) fun _ => request
    · split
      · exact sealed
      next xmlBody _ =>
        -- the upload was all that the message waited for
        obtain ⟨finished, same⟩ := (room.messages id).finishUpload_inFlight xmlBody
        have moved := (OutgoingMessage.setParticipantState_kept ((room.messages id).finishUpload xmlBody) room.states
          room.states.me .fileTransferDone .none).1
        have alike := (((room.messages id).finishUpload_alike xmlBody).trans (OutgoingMessage.setParticipantState_alike
          ((room.messages id).finishUpload xmlBody) room.states room.states.me .fileTransferDone .none)).trans
          (OutgoingMessage.releaseHttpRequest_alike _)
        have busy := ((congrArg FileUpload.httpRequest moved.upload).trans same).trans request
        have fewer := (OutgoingMessage.releaseHttpRequest_inFlight busy).trans (moved.inFlight.trans finished)
        have single := sealed.single id
        rw [setParticipantState_eq (by decide), setMessage_self, setMessage_setMessage, setMessage_self, setMessage_setMessage,
          setMessage_states]
        exact sealed.setMessage_send packing id _ answer (alike.sealed (sealed.messages id))
          (alike.fit packing (sealed.fit id (.inr request))) (by omega) (by omega)
    · exact failed .notDelivered
    · exact failed .notDelivered
    · exact failed .fileTransferError

theorem Sealed.processIoErrorUpload (packing : Packing ready good) (sealed : Sealed ready good originals room.waiting room)
    (id : Nat) : Sealed ready good originals (room.processIoErrorUpload id).waiting (room.processIoErrorUpload id) := by
  have stopped (newState : ChatMessageState) :
      Sealed ready good originals (room.setParticipantState id newState .none).waiting (room.setParticipantState id newState .none) := by
    rw [setParticipantState_waiting _ _ _ (by decide)]
    exact sealed.setParticipantState packing id newState (by decide)
  unfold ClientChatRoom.processIoErrorUpload
  simp only []
  split
  · exact sealed
  · exact (stopped _).releaseHttpRequest packing id

theorem Sealed.messageDeliveryUpdate (packing : Packing ready good) (sealed : Sealed ready good originals room.waiting room)
    (id : Nat) (status : SalMessageDeliveryStatus) (reason : DeliveryReason) (kept : room.recovers id status reason = false) :
    Sealed ready good originals (room.messageDeliveryUpdate id status reason).waiting
      (room.messageDeliveryUpdate id status reason) := by
  have moved : Sealed ready good originals room.waiting (room.setMessage id ((room.messages id).setParticipantState room.states
      room.states.me (room.chatStatusSal2Linphone status reason) reason)) := by
    refine sealed.alike packing (OutgoingMessage.setParticipantState_alike ..) fun busy => ?_
    rwa [(OutgoingMessage.setParticipantState_kept ..).1.upload] at busy
  unfold ClientChatRoom.messageDeliveryUpdate
  split
  next operating =>
    unfold ClientChatRoom.setParticipantState
    simp only []
    split
    next rejected =>
      have group : room.isGroup = true := by simpa [recovers, operating, rejected] using kept
      rw [handleMessageRejected, setMessage_isGroup, if_pos group]
      exact moved
    · exact moved
  · exact sealed

/-- A step of a regular run sends nothing in clear. -/
theorem Sealed.step (packing : Packing ready good) (sealed : Sealed ready good originals room.waiting room) (event : SendingEvent)
    (regular : room.Regular ready event) : Sealed ready good originals (room.step event).waiting (room.step event) := by
  have resent (id : Nat) (answer : LimeAnswer) (due : Bool)
      (regular : room.canSend id = true →
        room.waiting id + (room.messages id).inFlight = 0 ∧ ready (room.messages id).forgetModifiers) :
      Sealed ready good originals (if due then room.handleAutomaticResend id answer else room).waiting
        (if due then room.handleAutomaticResend id answer else room) := by
    cases due with
    | true => exact sealed.handleAutomaticResend packing id answer regular
    | false => exact sealed
  cases event with
  | send id answer => exact sealed.sendMessage packing id answer regular
  | resendTimerExpired id answer => exact resent id answer _ regular
  | networkReachable id answer => exact resent id answer _ regular
  | uploadResponse id response answer => exact sealed.processResponseFromPostFile packing id response answer
  | uploadIoError id => exact sealed.processIoErrorUpload packing id
  | cancelFileTransfer id =>
    have cancelled := sealed.cancelFileTransfer packing id
    rwa [← room.cancelFileTransfer_waiting id] at cancelled
  | encryptionAnswer id index failed answer => exact sealed.encryptionAnswered packing id index failed answer
  | deliveryUpdate id status reason => exact sealed.messageDeliveryUpdate packing id status reason regular
  | participantState id address state =>
    refine sealed.alike packing (OutgoingMessage.setParticipantState_alike ..) fun busy => ?_
    rwa [(OutgoingMessage.setParticipantState_kept ..).1.upload] at busy
  | stateChanged state => exact ⟨sealed.engine, sealed.encrypted, sealed.messages, sealed.single, sealed.fit, sealed.sent⟩
  | contextChanged context => exact ⟨sealed.engine, sealed.encrypted, sealed.messages, sealed.single, sealed.fit, sealed.sent⟩
  | subscriptionChanged underWay =>
    exact ⟨sealed.engine, sealed.encrypted, sealed.messages, sealed.single, sealed.fit, sealed.sent⟩
  | notifyReceived context finished answers =>
    have notified : Sealed ready good originals room.waiting
        { room with
          context := context
          isSubscriptionUnderWay := room.isSubscriptionUnderWay && !finished } :=
      ⟨sealed.engine, sealed.encrypted, sealed.messages, sealed.single, sealed.fit, sealed.sent⟩
    change Sealed ready good originals (room.notifyReceived context finished answers).waiting
      (room.notifyReceived context finished answers)
    unfold ClientChatRoom.notifyReceived
    simp only []
    split
    · exact notified.sendPendingMessages packing answers
    · exact notified
  | locallyExhumed underWay answers => exact sealed.onLocallyExhumedConference packing underWay answers
  | shutdown => exact ⟨sealed.engine, sealed.encrypted, sealed.messages, sealed.single, sealed.fit, sealed.sent⟩
  | uninit answers => exact regular.elim

end ClientChatRoom
end Liblinphone
