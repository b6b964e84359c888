import Liblinphone.MessageSending

/-! What one attempt to send a message can do to the message and to the room. Whatever the answer of
the engine, an attempt waits for the room, fails, waits for the file server or for the engine, or
hands one text to SIP. -/

namespace Liblinphone

theorem MessageContent.restore_restore (content : MessageContent) : content.restore.restore = content.restore := by
  cases content <;> rfl

/-- The steps that decide which modifiers are applied. -/
def SendSteps.modifiers (steps : SendSteps) : SendSteps := { steps with started := false, sending := false, sent := false }

namespace SendSteps

/-- All steps before the last one. -/
def finished : SendSteps := { fileUpload := true, multipart := true, cpim := true, encryption := true }

theorem modifiers_eq_iff {steps other : SendSteps} :
    steps.modifiers = other.modifiers ↔ steps.fileUpload = other.fileUpload ∧ steps.multipart = other.multipart ∧
      steps.cpim = other.cpim ∧ steps.encryption = other.encryption := by
  simp [modifiers]

theorem modifiers_eq_finished_iff {steps : SendSteps} :
    steps.modifiers = finished ↔ steps.fileUpload = true ∧ steps.multipart = true ∧ steps.cpim = true ∧ steps.encryption = true := by
  simp [modifiers, finished]

theorem modified_again {steps : SendSteps} (multipart : steps.multipart = true) (cpim : steps.cpim = true) :
    { steps with multipart := true, cpim := true } = steps := by
  cases steps
  simp_all only

end SendSteps

namespace OutgoingMessage

variable {message before middle after : OutgoingMessage} {room : ChatRoom} {context : SendingContext}

/-- The message as the application wrote it. -/
def original (message : OutgoingMessage) : List MessageContent := message.contents.map MessageContent.restore

/-- What a change of the state leaves as it was. -/
structure Kept (before after : OutgoingMessage) : Prop where
  upload : after.upload = before.upload
  encryptions : after.encryptions = before.encryptions
  prevented : after.encryptionPrevented = before.encryptionPrevented
  modifiers : after.currentSendStep.modifiers = before.currentSendStep.modifiers
  original : after.original = before.original

theorem Kept.refl (message : OutgoingMessage) : Kept message message := ⟨rfl, rfl, rfl, rfl, rfl⟩

theorem Kept.trans (first : Kept before middle) (second : Kept middle after) : Kept before after :=
  ⟨second.upload.trans first.upload, second.encryptions.trans first.encryptions, second.prevented.trans first.prevented,
    second.modifiers.trans first.modifiers, second.original.trans first.original⟩

theorem restored_kept (message : OutgoingMessage) : Kept message message.restoreFileTransferContentAsFileContent := by
  refine ⟨rfl, rfl, rfl, rfl, ?_⟩
  simp only [original, restoreFileTransferContentAsFileContent, List.map_map]
  exact List.map_congr_left fun content _ => content.restore_restore

theorem stateChanged_kept (message : OutgoingMessage) (oldState : ChatMessageState) (reason : DeliveryReason) :
    Kept message (message.stateChanged oldState reason) ∧
      (message.stateChanged oldState reason).internalContent = message.internalContent ∧
      (message.stateChanged oldState reason).currentSendStep = message.currentSendStep := by
  have restored := (restored_kept message).original
  simp only [original, restoreFileTransferContentAsFileContent] at restored
  simp only [stateChanged, restoreFileTransferContentAsFileContent]
  split_ifs <;> exact ⟨⟨rfl, rfl, rfl, rfl, by first | rfl | exact restored⟩, rfl, rfl⟩

theorem setParticipantState_kept (message : OutgoingMessage) (room : ChatRoom) (address : String) (newState : ChatMessageState)
    (reason : DeliveryReason) :
    Kept message (message.setParticipantState room address newState reason) ∧
      (message.setParticipantState room address newState reason).internalContent = message.internalContent ∧
      (message.setParticipantState room address newState reason).currentSendStep = message.currentSendStep := by
  obtain ⟨kept, same⟩ :=
    stateChanged_kept { message with states := message.states.setParticipantState room address newState } message.states.state reason
  have moved : Kept message { message with states := message.states.setParticipantState room address newState } :=
    ⟨rfl, rfl, rfl, rfl, rfl⟩
  exact ⟨moved.trans kept, same⟩

theorem resetParticipants_kept (message : OutgoingMessage) (room : ChatRoom) :
    Kept message (message.resetParticipants room) ∧
      (message.resetParticipants room).internalContent = message.internalContent ∧
      (message.resetParticipants room).currentSendStep = message.currentSendStep := by
  unfold resetParticipants
  refine List.foldlRecOn _ _ (motive := fun after => Kept message after ∧ after.internalContent = message.internalContent ∧
    after.currentSendStep = message.currentSendStep) ⟨.refl _, rfl, rfl⟩ fun after kept imdnState _ => ?_
  obtain ⟨next, internal, steps⟩ := setParticipantState_kept after room imdnState.1 .idle .none
  exact ⟨kept.1.trans next, internal.trans kept.2.1, steps.trans kept.2.2⟩

theorem handed_kept (message : OutgoingMessage) (room : ChatRoom) :
    Kept message (message.handed room) ∧ (message.handed room).internalContent = .empty ∧
      (message.handed room).currentSendStep = message.currentSendStep := by
  have cleared : Kept message { message.restoreFileTransferContentAsFileContent with internalContent := .empty } :=
    (restored_kept message).trans ⟨rfl, rfl, rfl, rfl, rfl⟩
  have reset := resetParticipants_kept { message.restoreFileTransferContentAsFileContent with internalContent := .empty } room
  unfold handed
  simp only []
  split
  · exact ⟨(cleared.trans reset.1).trans ⟨rfl, rfl, rfl, rfl, rfl⟩, reset.2⟩
  · split
    · exact ⟨cleared.trans ⟨rfl, rfl, rfl, rfl, rfl⟩, rfl, rfl⟩
    · exact ⟨cleared, rfl, rfl⟩

/-- Starting leaves the contents alone. -/
theorem start_kept (message : OutgoingMessage) (room : ChatRoom) :
    Kept message (message.start room) ∧ (message.start room).internalContent = message.internalContent ∧
      (message.start room).contents = message.contents := by
  unfold start storeInDb
  simp only []
  split_ifs <;> exact ⟨⟨rfl, rfl, rfl, rfl, rfl⟩, rfl, rfl⟩

theorem fillContent_kept (message : OutgoingMessage) : Kept message message.fillContent := by
  unfold fillContent
  split
  · exact .refl _
  · split
    · exact .refl _
    · exact ⟨rfl, rfl, rfl, rfl, rfl⟩

theorem encodeMultipart_kept (message : OutgoingMessage) : Kept message message.encodeMultipart := by
  unfold encodeMultipart
  split <;> exact ⟨rfl, rfl, rfl, rfl, rfl⟩

theorem encodeCpim_kept (message : OutgoingMessage) (context : SendingContext) : Kept message (message.encodeCpim context) := by
  unfold encodeCpim
  split
  · exact .refl _
  · split
    · exact ⟨rfl, rfl, rfl, rfl, rfl⟩
    · split <;> exact ⟨rfl, rfl, rfl, rfl, rfl⟩

/-- What the modifiers make of the message. -/
def packed (message : OutgoingMessage) (context : SendingContext) : MessageBody := (message.modified context).internalContent

theorem modified_kept (message : OutgoingMessage) (context : SendingContext) :
    (message.modified context).upload = message.upload ∧ (message.modified context).encryptions = message.encryptions ∧
      (message.modified context).encryptionPrevented = message.encryptionPrevented ∧
      (message.modified context).contents = message.contents ∧
      (message.modified context).currentSendStep = { message.currentSendStep with multipart := true, cpim := true } := by
  unfold modified encodeMultipart encodeCpim
  simp only []
  split_ifs <;> first | exact ⟨rfl, rfl, rfl, rfl, rfl⟩ | (split <;> exact ⟨rfl, rfl, rfl, rfl, rfl⟩)

theorem encodeMultipart_frame (message : OutgoingMessage) :
    message.encodeMultipart.contents = message.contents ∧ message.encodeMultipart.currentSendStep = message.currentSendStep := by
  unfold encodeMultipart
  split <;> exact ⟨rfl, rfl⟩

theorem encodeMultipart_internalContent (message : OutgoingMessage) :
    message.encodeMultipart.internalContent =
      if message.contents.length ≤ 1 then message.internalContent else .multipart message.contents := by
  unfold encodeMultipart
  split <;> rfl

theorem encodeCpim_internalContent (message : OutgoingMessage) (context : SendingContext) :
    (message.encodeCpim context).internalContent =
      if !context.hasAccount then message.internalContent
      else if !message.internalContent.isEmpty then .cpim message.internalContent
      else message.contents.head?.elim message.internalContent fun content => .cpim (.content content) := by
  unfold encodeCpim
  split
  · rfl
  · split
    · rfl
    · cases message.contents <;> rfl

/-- What is packed depends on the contents and on the modifiers applied before. -/
theorem packed_congr {other : OutgoingMessage} (contents : other.contents = message.contents)
    (internal : other.internalContent = message.internalContent)
    (modifiers : other.currentSendStep.multipart = message.currentSendStep.multipart ∧
      other.currentSendStep.cpim = message.currentSendStep.cpim) : other.packed context = message.packed context := by
  have multipart : other.encodeMultipart.internalContent = message.encodeMultipart.internalContent := by
    rw [encodeMultipart_internalContent, encodeMultipart_internalContent, contents, internal]
  have same (inner : OutgoingMessage) (outer : OutgoingMessage) (equal : outer.internalContent = inner.internalContent)
      (parts : outer.contents = inner.contents) :
      (outer.encodeCpim context).internalContent = (inner.encodeCpim context).internalContent := by
    rw [encodeCpim_internalContent, encodeCpim_internalContent, equal, parts]
  unfold packed modified
  simp only [modifiers.1]
  cases message.currentSendStep.multipart with
  | true =>
    simp only [if_true, modifiers.2]
    split
    · exact internal
    · exact same _ _ internal contents
  | false =>
    simp only [Bool.false_eq_true, if_false, (encodeMultipart_frame _).2, modifiers.2]
    split
    · exact multipart
    · exact same _ _ multipart (by rw [(encodeMultipart_frame _).1, (encodeMultipart_frame _).1, contents])

theorem modified_again (multipart : message.currentSendStep.multipart = true) (cpim : message.currentSendStep.cpim = true) :
    message.modified context = message := by
  unfold modified
  simp only [multipart, cpim, if_true, SendSteps.modified_again multipart cpim]

theorem fillContent_of_full (full : message.internalContent.isEmpty = false) : message.fillContent = message := by
  unfold fillContent
  rw [full]
  rfl

theorem fillContent_congr {other : OutgoingMessage} (internal : other.internalContent = message.internalContent)
    (contents : other.contents = message.contents) :
    other.fillContent.internalContent = message.fillContent.internalContent := by
  have filled (message : OutgoingMessage) : message.fillContent.internalContent =
      if !message.internalContent.isEmpty then message.internalContent
      else message.contents.head?.elim message.internalContent .content := by
    unfold fillContent
    split
    · rfl
    · cases message.contents <;> rfl
  rw [filled, filled, internal, contents]

theorem uploadFile_frame (message : OutgoingMessage) (file : FileContent) (context : SendingContext) :
    ((message.chooseFile file).uploadFile context).encryptions = message.encryptions ∧
      ((message.chooseFile file).uploadFile context).encryptionPrevented = message.encryptionPrevented ∧
      ((message.chooseFile file).uploadFile context).currentSendStep = message.currentSendStep ∧
      ((message.chooseFile file).uploadFile context).internalContent = message.internalContent ∧
      ((message.chooseFile file).uploadFile context).original = message.original := by
  unfold uploadFile
  split <;> exact ⟨rfl, rfl, rfl, rfl, rfl⟩

/-- What a message was before its sending, and what it is when its files are uploaded. -/
structure Prepared (before message : OutgoingMessage) : Prop where
  upload : message.upload.httpRequest = before.upload.httpRequest
  encryptions : message.encryptions = before.encryptions
  prevented : message.encryptionPrevented = before.encryptionPrevented
  contents : message.contents = before.contents
  internal : message.internalContent = before.internalContent
  modifiers : message.currentSendStep.modifiers = { before.currentSendStep with fileUpload := true }.modifiers

end OutgoingMessage

namespace ClientChatRoom

variable {room : ClientChatRoom} {message other : OutgoingMessage} {id : Nat}

@[simp] theorem setMessage_self : (room.setMessage id message).messages id = message := Function.update_self ..

theorem setMessage_of_ne {another : Nat} (different : another ≠ id) :
    (room.setMessage id message).messages another = room.messages another := Function.update_of_ne different ..

@[simp] theorem setMessage_setMessage : (room.setMessage id message).setMessage id other = room.setMessage id other := by
  simp only [setMessage, Function.update_idem]

@[simp] theorem setMessage_eq_self : room.setMessage id (room.messages id) = room := by
  simp only [setMessage, Function.update_eq_self]

@[simp] theorem setMessage_context : (room.setMessage id message).context = room.context := rfl

@[simp] theorem setMessage_states : (room.setMessage id message).states = room.states := rfl

@[simp] theorem setMessage_isGroup : (room.setMessage id message).isGroup = room.isGroup := rfl

@[simp] theorem setMessage_processOutgoingMessage :
    (room.setMessage id message).processOutgoingMessage other = room.processOutgoingMessage other := rfl

/-- The message is changed, and texts are handed to SIP. -/
def output (room : ClientChatRoom) (id : Nat) (message : OutgoingMessage) (bodies : List MessageBody) : ClientChatRoom :=
  { room.setMessage id message with sent := room.sent ++ bodies.map fun body => (id, body) }

@[simp] theorem output_self {bodies : List MessageBody} : (room.output id message bodies).messages id = message :=
  setMessage_self

theorem output_of_ne {bodies : List MessageBody} {another : Nat} (different : another ≠ id) :
    (room.output id message bodies).messages another = room.messages another := setMessage_of_ne different

theorem setMessage_eq_output : room.setMessage id message = room.output id message [] := by
  simp [output, setMessage]

theorem output_setMessage {bodies : List MessageBody} :
    (room.output id message bodies).setMessage id other = room.output id other bodies := by
  simp [output, setMessage]

theorem setMessage_output {bodies : List MessageBody} :
    (room.setMessage id message).output id other bodies = room.output id other bodies := by
  simp [output, setMessage]

theorem output_output {bodies others : List MessageBody} :
    (room.output id message bodies).output id other others = room.output id other (bodies ++ others) := by
  simp [output, setMessage]

/-- Only a refusal by the server reaches the room. -/
theorem setParticipantState_eq {newState : ChatMessageState} {reason : DeliveryReason} (accepted : reason ≠ .forbidden) :
    room.setParticipantState id newState reason =
      room.setMessage id ((room.messages id).setParticipantState room.states room.states.me newState reason) := by
  have kept : (room.messages id).isRejected room.states newState reason = false := by
    simp [OutgoingMessage.isRejected, accepted]
  simp [setParticipantState, kept]

/-- Whether the engine encrypts what a message sends. -/
def encrypts (room : ClientChatRoom) (message : OutgoingMessage) : Bool :=
  room.encryptionEngine && room.isEncrypted && !message.encryptionPrevented

/-- An attempt to send a message that does not wait for the room: it fails, it begins an upload, or it
goes through the modifiers, and then the engine has something to encrypt or SIP something to send. -/
inductive Attempt (room : ClientChatRoom) (before : OutgoingMessage) : OutgoingMessage → List MessageBody → Prop
  | failed {after} (upload : after.upload.httpRequest = before.upload.httpRequest)
      (encryptions : after.encryptions = before.encryptions) (prevented : after.encryptionPrevented = before.encryptionPrevented)
      (original : after.original = before.original) (steps : after.currentSendStep.modifiers = {}) : Attempt room before after []
  | uploading {after} (idle : before.upload.httpRequest = false) (unfinished : before.currentSendStep.fileUpload = false)
      (encryptions : after.encryptions = before.encryptions) (prevented : after.encryptionPrevented = before.encryptionPrevented)
      (original : after.original = before.original)
      (modifiers : after.currentSendStep.modifiers = before.currentSendStep.modifiers)
      (internal : after.internalContent = before.internalContent) : Attempt room before after []
  | finished {after bodies} (jobs : List EncryptionContext) (upload : after.upload.httpRequest = before.upload.httpRequest)
      (encryptions : after.encryptions = before.encryptions ++ jobs)
      (prevented : after.encryptionPrevented = before.encryptionPrevented) (original : after.original = before.original)
      (modifiers : after.currentSendStep.modifiers =
        { SendSteps.finished with encryption := before.currentSendStep.encryption || !before.encryptionPrevented })
      (uploaded : before.currentSendStep.fileUpload = true ∨ before.fileToUpload = none)
      (once : jobs.length + bodies.length ≤ 1)
      (asked : ∀ job ∈ jobs, before.currentSendStep.encryption = false ∧ room.context.hasAccount = true ∧
        job.plain = before.packed room.context)
      (text : ∀ body ∈ bodies,
        (before.currentSendStep.encryption = false ∧ room.context.hasAccount = true ∧
          ∃ recipients, body = .encrypted (before.packed room.context) recipients) ∨
          (before.currentSendStep.encryption = true ∨ room.encrypts before = false) ∧
            body = (before.modified room.context).fillContent.internalContent) : Attempt room before after bodies

/-- A message is handed to SIP when it has something to send and was not handed before. -/
theorem deliver_output (room : ClientChatRoom) (id : Nat) :
    ∃ after bodies, room.deliver id = room.output id after bodies ∧ OutgoingMessage.Kept (room.messages id) after ∧
      bodies.length ≤ 1 ∧ (∀ body ∈ bodies, body = (room.messages id).fillContent.internalContent) ∧
      ((room.messages id).currentSendStep.sent = true → bodies = []) ∧
      ((room.messages id).internalContent.isEmpty = false → after.currentSendStep.sent = true) := by
  have filled := OutgoingMessage.fillContent_kept (room.messages id)
  unfold deliver
  simp only []
  split
  next nothing =>
    refine ⟨room.messages id, [], ?_, .refl _, by simp, by simp, fun _ => rfl, ?_⟩
    · rw [← setMessage_eq_output, setMessage_eq_self]
    · intro full
      simp only [OutgoingMessage.fillContent, full, Bool.not_false, if_true, Bool.false_and] at nothing
      cases nothing
  next =>
    have steps : (room.messages id).fillContent.currentSendStep = (room.messages id).currentSendStep := by
      unfold OutgoingMessage.fillContent
      split
      · rfl
      · split <;> rfl
    split
    next again => exact ⟨_, [], setMessage_eq_output, filled, by simp, by simp, fun _ => rfl, fun _ => again⟩
    next first =>
      have handed := OutgoingMessage.handed_kept
        { (room.messages id).fillContent with
          currentSendStep := { (room.messages id).fillContent.currentSendStep with sent := true } } room.states
      have marked : OutgoingMessage.Kept (room.messages id).fillContent
          { (room.messages id).fillContent with
            currentSendStep := { (room.messages id).fillContent.currentSendStep with sent := true } } := ⟨rfl, rfl, rfl, rfl, rfl⟩
      refine ⟨_, [(room.messages id).fillContent.internalContent], rfl, (filled.trans marked).trans handed.1, by simp, by simp, ?_, ?_⟩
      · intro sent
        rw [steps] at first
        exact absurd sent first
      · intro _
        rw [handed.2.2]

theorem encryptionFailed_output (room : ClientChatRoom) (id : Nat) :
    ∃ after, room.encryptionFailed id = room.output id after [] ∧ after.upload = (room.messages id).upload ∧
      after.encryptions = (room.messages id).encryptions ∧ after.encryptionPrevented = (room.messages id).encryptionPrevented ∧
      after.original = (room.messages id).original ∧ after.currentSendStep.modifiers = {} := by
  have restored := OutgoingMessage.restored_kept (room.messages id).forgetSteps
  unfold encryptionFailed
  rw [setParticipantState_eq (by decide), setMessage_self, setMessage_setMessage]
  have moved := (OutgoingMessage.setParticipantState_kept
    (room.messages id).forgetSteps.restoreFileTransferContentAsFileContent room.states room.states.me .notDelivered .other).1
  have kept := restored.trans moved
  exact ⟨_, setMessage_eq_output, kept.upload, kept.encryptions, kept.prevented, kept.original, kept.modifiers⟩

/-- The sending of a message that has been through all modifiers goes on at its end. -/
theorem sendAt_modified (room : ClientChatRoom) (id depth : Nat) (answer : LimeAnswer) (there : room.postponesSending = false)
    (finished : (room.messages id).currentSendStep.modifiers = SendSteps.finished) :
    room.sendAt (depth + 1) id answer =
      (room.setMessage id { (room.messages id).start room.states with salOp := true }).deliver id := by
  obtain ⟨kept, -, -⟩ := OutgoingMessage.start_kept (room.messages id) room.states
  obtain ⟨uploaded, multipart, cpim, encryption⟩ := SendSteps.modifiers_eq_finished_iff.mp (kept.modifiers.trans finished)
  simp only [sendAt, there, uploaded, sendUploaded, setMessage_self, setMessage_setMessage, Bool.false_eq_true, if_false,
    if_true]
  rw [OutgoingMessage.modified_again multipart cpim, if_pos encryption]

/-- A message that has been through all modifiers is handed to SIP as it is. -/
theorem sendAt_finished (room : ClientChatRoom) (id depth : Nat) (answer : LimeAnswer) (there : room.postponesSending = false)
    (finished : (room.messages id).currentSendStep.modifiers = SendSteps.finished)
    (full : (room.messages id).internalContent.isEmpty = false) :
    ∃ after bodies, room.sendAt (depth + 1) id answer = room.output id after bodies ∧
      OutgoingMessage.Kept (room.messages id) after ∧ bodies.length ≤ 1 ∧
      (∀ body ∈ bodies, body = (room.messages id).internalContent) ∧ after.currentSendStep.sent = true := by
  obtain ⟨kept, internal, contents⟩ := OutgoingMessage.start_kept (room.messages id) room.states
  have sends := room.sendAt_modified id depth answer there finished
  obtain ⟨after, bodies, delivered, later, few, text, -, sent⟩ :=
    (room.setMessage id { (room.messages id).start room.states with salOp := true }).deliver_output id
  rw [setMessage_self] at later text sent
  have prepared : OutgoingMessage.Kept (room.messages id) { (room.messages id).start room.states with salOp := true } :=
    kept.trans ⟨rfl, rfl, rfl, rfl, rfl⟩
  have remains : ({ (room.messages id).start room.states with salOp := true } : OutgoingMessage).internalContent.isEmpty = false := by
    rw [← full, ← internal]
  refine ⟨after, bodies, ?_, prepared.trans later, few, ?_, sent remains⟩
  · rw [sends, delivered, setMessage_output]
  · intro body member
    rw [text body member, OutgoingMessage.fillContent_of_full remains]
    exact internal

/-- The engine skips the messages that it does not encrypt. -/
theorem skipped_encrypts {before : OutgoingMessage} (prevented : message.encryptionPrevented = before.encryptionPrevented)
    (skipped : room.processOutgoingMessage message = .skipped) : room.encrypts before = false := by
  unfold processOutgoingMessage at skipped
  rw [prevented] at skipped
  unfold encrypts
  by_contra secured
  simp only [Bool.not_eq_false, Bool.and_eq_true, Bool.not_eq_eq_eq_not, Bool.not_true] at secured
  simp only [secured.1.1, secured.1.2, secured.2, Bool.not_true, Bool.or_false, Bool.false_eq_true, if_false] at skipped
  split_ifs at skipped

theorem asked_allowed {addresses : List String} (asked : room.processOutgoingMessage message = .recipients addresses) :
    message.encryptionPrevented = false ∧ room.context.hasAccount = true := by
  unfold processOutgoingMessage at asked
  split_ifs at asked with skipped refused unknown
  simp only [Bool.or_eq_true, not_or, Bool.not_eq_true, Bool.not_eq_false'] at skipped unknown
  exact ⟨skipped.1.1, unknown.1⟩

/-- What the engine makes of a message that has been through the other modifiers. -/
theorem encrypt_attempt {depth : Nat} {answer : LimeAnswer} {recipients : List String} {before : OutgoingMessage}
    (there : room.postponesSending = false) (upload : message.upload.httpRequest = before.upload.httpRequest)
    (encryptions : message.encryptions = before.encryptions) (prevented : message.encryptionPrevented = before.encryptionPrevented)
    (original : message.original = before.original) (packed : message.internalContent = before.packed room.context)
    (unmarked : before.currentSendStep.encryption = false) (account : room.context.hasAccount = true)
    (modifiers : message.currentSendStep.modifiers = SendSteps.finished) (allowed : before.encryptionPrevented = false)
    (uploaded : before.currentSendStep.fileUpload = true ∨ before.fileToUpload = none) :
    ∃ after bodies, (room.setMessage id message).encrypt (fun room id => room.sendAt (depth + 1) id answer) id recipients answer =
      room.output id after bodies ∧ Attempt room before after bodies := by
  have failed (start : OutgoingMessage) (same : OutgoingMessage.Kept message start) :
      ∃ after bodies, (room.setMessage id start).encryptionFailed id = room.output id after bodies ∧
        Attempt room before after bodies := by
    obtain ⟨after, result, kept⟩ := (room.setMessage id start).encryptionFailed_output id
    rw [setMessage_self] at kept
    obtain ⟨keptUpload, keptEncryptions, keptPrevented, keptOriginal, steps⟩ := kept
    refine ⟨after, [], by rw [result, setMessage_output], .failed ?_ ?_ ?_ ?_ steps⟩
    · rw [keptUpload, same.upload, upload]
    · rw [keptEncryptions, same.encryptions, encryptions]
    · rw [keptPrevented, same.prevented, prevented]
    · rw [keptOriginal, same.original, original]
  have marked : { SendSteps.finished with encryption := before.currentSendStep.encryption || !before.encryptionPrevented } =
      SendSteps.finished := by
    rw [allowed, unmarked]
    rfl
  cases answer with
  | later =>
    simp only [encrypt, setMessage_self, setMessage_setMessage]
    refine ⟨_, [], setMessage_eq_output, .finished [⟨message.internalContent, recipients⟩] upload ?_ prevented original ?_ uploaded
      (by simp) ?_ (by simp)⟩
    · rw [← encryptions]
    · rw [marked]
      exact modifiers
    · intro job member
      cases List.mem_singleton.mp member
      exact ⟨unmarked, account, packed⟩
  | success lost =>
    let encrypted : OutgoingMessage :=
      { message with
        internalContent := .encrypted message.internalContent (recipients.filter fun device => !lost.contains device) }
    obtain ⟨sent, bodies, sends, kept, few, text, mark⟩ :=
      (room.setMessage id encrypted).sendAt_finished id depth (.success lost) there (by rw [setMessage_self]; exact modifiers)
        (by rw [setMessage_self]; rfl)
    obtain ⟨after, others, delivered, later, -, -, none, -⟩ := ((room.setMessage id encrypted).output id sent bodies).deliver_output id
    rw [output_self] at later none
    rw [setMessage_self] at kept text
    simp only [encrypt, setMessage_self, setMessage_setMessage]
    have both := kept.trans later
    refine ⟨after, bodies, ?_, .finished [] ((congrArg FileUpload.httpRequest both.upload).trans upload) ?_ (both.prevented.trans prevented)
      (both.original.trans original) ?_ uploaded (by simpa using few) (by simp) ?_⟩
    · rw [sends, delivered, none mark, output_output, List.append_nil, setMessage_output]
    · rw [both.encryptions, List.append_nil]
      exact encryptions
    · rw [both.modifiers, marked]
      exact modifiers
    · intro body member
      exact .inl ⟨unmarked, account, _, by rw [text body member, ← packed]⟩
  | failure =>
    simp only [encrypt]
    rw [setParticipantState_eq (by decide), setMessage_self, setMessage_setMessage]
    exact failed _ (OutgoingMessage.setParticipantState_kept message room.states room.states.me .notDelivered .none).1
  | exception =>
    simp only [encrypt]
    exact failed message (.refl _)

/-- A message that is not encrypted now is handed to SIP as the modifiers have left it. -/
theorem deliver_attempt {before : OutgoingMessage} (upload : message.upload.httpRequest = before.upload.httpRequest)
    (encryptions : message.encryptions = before.encryptions) (prevented : message.encryptionPrevented = before.encryptionPrevented)
    (original : message.original = before.original)
    (modifiers : message.currentSendStep.modifiers =
      { SendSteps.finished with encryption := before.currentSendStep.encryption || !before.encryptionPrevented })
    (uploaded : before.currentSendStep.fileUpload = true ∨ before.fileToUpload = none)
    (text : message.fillContent.internalContent = (before.modified room.context).fillContent.internalContent)
    (clear : before.currentSendStep.encryption = true ∨ room.encrypts before = false) :
    ∃ after bodies, (room.setMessage id message).deliver id = room.output id after bodies ∧ Attempt room before after bodies := by
  obtain ⟨after, bodies, delivered, kept, few, sent, -⟩ := (room.setMessage id message).deliver_output id
  rw [setMessage_self] at kept sent
  refine ⟨after, bodies, by rw [delivered, setMessage_output], .finished [] ((congrArg FileUpload.httpRequest kept.upload).trans upload) ?_
    (kept.prevented.trans prevented) (kept.original.trans original) (kept.modifiers.trans modifiers) uploaded (by simpa using few)
    (by simp) ?_⟩
  · rw [kept.encryptions, encryptions, List.append_nil]
  · intro body member
    exact .inr ⟨clear, (sent body member).trans text⟩

/-- A message whose files are uploaded. -/
theorem sendUploaded_attempt {depth : Nat} {answer : LimeAnswer} {before : OutgoingMessage}
    (there : room.postponesSending = false) (prepared : OutgoingMessage.Prepared before message)
    (uploaded : before.currentSendStep.fileUpload = true ∨ before.fileToUpload = none) :
    ∃ after bodies, (room.setMessage id message).sendUploaded (fun room id => room.sendAt (depth + 1) id answer) id answer =
      room.output id after bodies ∧ Attempt room before after bodies := by
  obtain ⟨upload, encryptions, prevented, contents, steps⟩ := message.modified_kept room.context
  obtain ⟨finished, multipart, cpim, encryption⟩ := SendSteps.modifiers_eq_iff.mp prepared.modifiers
  have packed : message.packed room.context = before.packed room.context :=
    OutgoingMessage.packed_congr prepared.contents prepared.internal ⟨multipart, cpim⟩
  have original : (message.modified room.context).original = before.original := by
    rw [OutgoingMessage.original, contents, prepared.contents, OutgoingMessage.original]
  have modifiers (mark : Bool) : { (message.modified room.context).currentSendStep with encryption := mark }.modifiers =
      { SendSteps.finished with encryption := mark } := by
    rw [steps, SendSteps.modifiers, SendSteps.finished]
    simp only [finished]
  have filled : (message.modified room.context).fillContent.internalContent =
      (before.modified room.context).fillContent.internalContent :=
    OutgoingMessage.fillContent_congr packed (by rw [contents, prepared.contents, (before.modified_kept room.context).2.2.2.1])
  unfold sendUploaded
  simp only [setMessage_self, setMessage_setMessage, setMessage_context, setMessage_processOutgoingMessage]
  split
  next marked =>
    have already : before.currentSendStep.encryption = true := by
      rw [← encryption, ← marked, steps]
    refine deliver_attempt ((congrArg FileUpload.httpRequest upload).trans prepared.upload) (encryptions.trans prepared.encryptions)
      (prevented.trans prepared.prevented) original ?_ uploaded ?_ (.inl already)
    · rw [already, Bool.true_or, ← modifiers true, ← marked]
    · rw [← filled]
      exact OutgoingMessage.fillContent_congr rfl rfl
  next unmarked =>
    have first : before.currentSendStep.encryption = false := by
      rw [← encryption, ← Bool.not_eq_true]
      rwa [steps] at unmarked
    have allowed : (!(message.modified room.context).encryptionPrevented) =
        (before.currentSendStep.encryption || !before.encryptionPrevented) := by
      rw [prevented, prepared.prevented, first, Bool.false_or]
    split
    next skipped =>
      refine deliver_attempt ((congrArg FileUpload.httpRequest upload).trans prepared.upload) (encryptions.trans prepared.encryptions)
        (prevented.trans prepared.prevented) original ?_ uploaded ?_
        (.inr (skipped_encrypts (prevented.trans prepared.prevented) skipped))
      · rw [← allowed]
        exact modifiers _
      · rw [← filled]
        exact OutgoingMessage.fillContent_congr rfl rfl
    next =>
      obtain ⟨after, result, keptUpload, keptEncryptions, keptPrevented, keptOriginal, forgotten⟩ :=
        encryptionFailed_output (room.setMessage id _) id
      rw [setMessage_self] at keptUpload keptEncryptions keptPrevented keptOriginal
      refine ⟨after, [], by rw [result, setMessage_output], .failed ?_ ?_ ?_ ?_ forgotten⟩
      · rw [keptUpload, ← prepared.upload, ← upload]
      · rw [keptEncryptions, ← prepared.encryptions, ← encryptions]
      · rw [keptPrevented, ← prepared.prevented, ← prevented]
      · rw [keptOriginal, ← original]
        rfl
    next addresses asked =>
      have secured : before.encryptionPrevented = false := by
        rw [← prepared.prevented, ← prevented]
        exact (asked_allowed asked).1
      refine encrypt_attempt there ((congrArg FileUpload.httpRequest upload).trans prepared.upload) (encryptions.trans prepared.encryptions)
        (prevented.trans prepared.prevented) original packed first (asked_allowed asked).2 ?_ secured uploaded
      rw [prevented, prepared.prevented, secured]
      exact modifiers true

/-- A message that does not wait for the room makes an attempt. -/
theorem send_attempt (room : ClientChatRoom) (id : Nat) (answer : LimeAnswer) (there : room.postponesSending = false) :
    ∃ after bodies, room.send id answer = room.output id after bodies ∧ Attempt room (room.messages id) after bodies := by
  obtain ⟨kept, internal, contents⟩ := OutgoingMessage.start_kept (room.messages id) room.states
  obtain ⟨fileUpload, multipart, cpim, encryption⟩ := SendSteps.modifiers_eq_iff.mp kept.modifiers
  have choice : ((room.messages id).start room.states).fileToUpload = (room.messages id).fileToUpload := by
    rw [OutgoingMessage.fileToUpload, contents, OutgoingMessage.fileToUpload]
  unfold send sendAt
  simp only [there, Bool.false_eq_true, if_false]
  split
  next done =>
    refine sendUploaded_attempt there ⟨congrArg FileUpload.httpRequest kept.upload, kept.encryptions, kept.prevented, contents, internal, ?_⟩
      (.inl (fileUpload.symm.trans done))
    rw [SendSteps.modifiers_eq_iff]
    exact ⟨done, multipart, cpim, encryption⟩
  next unfinished =>
    have fresh : (room.messages id).currentSendStep.fileUpload = false := by
      rw [← fileUpload, ← Bool.not_eq_true]
      exact unfinished
    split
    next none =>
      have request : ((room.messages id).start room.states).upload.httpRequest = (room.messages id).upload.httpRequest := by
        rw [kept.upload]
      refine sendUploaded_attempt there ⟨request, kept.encryptions, kept.prevented, contents, internal, ?_⟩
        (.inr (choice.symm.trans none))
      rw [SendSteps.modifiers_eq_iff]
      exact ⟨rfl, multipart, cpim, encryption⟩
    next file _ =>
      rw [setParticipantState_eq (by decide), setParticipantState_eq (by decide)]
      simp only [setMessage_self, setMessage_setMessage, setMessage_states]
      split
      next uploads =>
        have idle : (room.messages id).upload.httpRequest = false := by
          rw [← kept.upload]
          simp only [OutgoingMessage.canUpload, OutgoingMessage.chooseFile, Bool.and_eq_true, Bool.not_eq_eq_eq_not,
            Bool.not_true] at uploads
          exact uploads.1.1
        obtain ⟨moved, same, -⟩ := OutgoingMessage.setParticipantState_kept
          ((((room.messages id).start room.states).chooseFile file).uploadFile room.context) room.states room.states.me
          .fileTransferInProgress .none
        obtain ⟨encryptions, prevented, steps, text, original⟩ :=
          ((room.messages id).start room.states).uploadFile_frame file room.context
        exact ⟨_, [], setMessage_eq_output, .uploading idle fresh
          ((moved.encryptions.trans encryptions).trans kept.encryptions) ((moved.prevented.trans prevented).trans kept.prevented)
          ((moved.original.trans original).trans kept.original)
          ((moved.modifiers.trans (congrArg SendSteps.modifiers steps)).trans kept.modifiers)
          ((same.trans text).trans internal)⟩
      next busy =>
        rw [setMessage_context] at busy
        obtain ⟨moved, -, -⟩ := OutgoingMessage.setParticipantState_kept
          ((((room.messages id).start room.states).chooseFile file).uploadFile room.context) room.states room.states.me
          .notDelivered .none
        obtain ⟨encryptions, prevented, -, -, original⟩ :=
          ((room.messages id).start room.states).uploadFile_frame file room.context
        refine ⟨_, [], setMessage_eq_output, .failed ?_ ((moved.encryptions.trans encryptions).trans kept.encryptions)
          ((moved.prevented.trans prevented).trans kept.prevented) ((moved.original.trans original).trans kept.original) rfl⟩
        have stays : ((((room.messages id).start room.states).chooseFile file).uploadFile room.context).upload.httpRequest =
            ((room.messages id).start room.states).upload.httpRequest := by
          rw [OutgoingMessage.uploadFile, if_neg busy]
          rfl
        exact (congrArg FileUpload.httpRequest moved.upload).trans (stays.trans (congrArg FileUpload.httpRequest kept.upload))

/-- What the room does with a message. -/
theorem sendChatMessage_cases (room : ClientChatRoom) (id : Nat) (answer : LimeAnswer) :
    room.sendChatMessage id answer = room.setParticipantState id .notDelivered .none ∨
      room.sendChatMessage id answer = room.exhume.addExhumeMessage id ∨
      room.sendChatMessage id answer = room.addPendingMessage id ∨ room.sendChatMessage id answer = room.send id answer := by
  unfold sendChatMessage
  split
  · split
    · exact .inl rfl
    · exact .inr (.inl rfl)
  · exact .inr (.inr (.inl rfl))
  · exact .inr (.inr (.inl rfl))
  · split
    · exact .inr (.inr (.inl rfl))
    · exact .inr (.inr (.inr rfl))
  · exact .inl rfl

end ClientChatRoom
end Liblinphone
