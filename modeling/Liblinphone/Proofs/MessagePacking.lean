import Liblinphone.Proofs.MessageSecrecy
import Liblinphone.Library.Run

/-! What an encrypted chat room hands to SIP over a run: only texts that are encrypted, each of which packs
the contents of its message once. A refusal by the server undoes both. -/

namespace Liblinphone

/-- The text of these contents. -/
def MessageBody.ofContents (contents : List MessageContent) : MessageBody :=
  if contents.length ≤ 1 then contents.head?.elim .empty .content else .multipart contents

/-- Each content of the message is packed once, and each file was replaced by what describes it. -/
def PackedOnce (original : List MessageContent) (plain : MessageBody) : Prop :=
  ∃ contents : List MessageContent, contents.map MessageContent.restore = original ∧
    (∀ content ∈ contents, content.fileToUpload = none) ∧ plain = .cpim (.ofContents contents)

namespace OutgoingMessage

/-- A message of which the modifiers find nothing of an earlier attempt. A file that was uploaded for an
earlier attempt is a file again. -/
structure Unpacked (message : OutgoingMessage) : Prop where
  contents : message.original ≠ []
  multipart : message.currentSendStep.multipart = false
  cpim : message.currentSendStep.cpim = false
  files : message.currentSendStep.fileUpload = true → ∀ content ∈ message.original, content.fileToUpload = none
  internal : message.internalContent.isEmpty = true ∨ 1 < message.original.length

theorem Unpacked.stays {before after : OutgoingMessage} (original : after.original = before.original)
    (internal : after.internalContent = before.internalContent)
    (modifiers : after.currentSendStep.modifiers = before.currentSendStep.modifiers) (unpacked : before.Unpacked) :
    after.Unpacked := by
  obtain ⟨fileUpload, multipart, cpim, -⟩ := SendSteps.modifiers_eq_iff.mp modifiers
  refine ⟨?_, multipart.trans unpacked.multipart, cpim.trans unpacked.cpim, ?_, ?_⟩
  · rw [original]
    exact unpacked.contents
  · rw [original, fileUpload]
    exact unpacked.files
  · rw [original, internal]
    exact unpacked.internal

theorem fileToUpload_restore (content : MessageContent) (text : content.restore.fileToUpload = none) :
    content.fileToUpload = none := by
  cases content with
  | text contentType body => rfl
  | file fileContent => exact text
  | fileTransfer fileContent xmlBody => rfl

/-- A message whose files are uploaded has no file left. -/
theorem Unpacked.uploaded {message : OutgoingMessage} (unpacked : message.Unpacked)
    (uploaded : message.currentSendStep.fileUpload = true ∨ message.fileToUpload = none) :
    ∀ content ∈ message.contents, content.fileToUpload = none := by
  cases uploaded with
  | inl done =>
    intro content member
    exact fileToUpload_restore content (unpacked.files done _ (List.mem_map_of_mem member))
  | inr none => exact List.findSome?_eq_none_iff.mp none

theorem Unpacked.packed {message : OutgoingMessage} (unpacked : message.Unpacked) {context : SendingContext}
    (account : context.hasAccount = true) : message.packed context = .cpim (.ofContents message.contents) := by
  have lengths : message.original.length = message.contents.length := List.length_map ..
  have some : message.contents ≠ [] := fun none => unpacked.contents (by rw [original, none]; rfl)
  have internal := message.encodeMultipart_internalContent
  unfold OutgoingMessage.packed modified
  simp only [unpacked.multipart, (encodeMultipart_frame message).2, unpacked.cpim, Bool.false_eq_true, if_false]
  rw [encodeCpim_internalContent, (encodeMultipart_frame message).1, internal, account]
  by_cases single : message.contents.length ≤ 1
  · have empty : message.internalContent.isEmpty = true := unpacked.internal.resolve_right (by omega)
    rw [if_pos single, MessageBody.ofContents, if_pos single, empty]
    cases found : message.contents with
    | nil => exact absurd found some
    | cons content rest => rfl
  · rw [if_neg single, MessageBody.ofContents, if_neg single]
    rfl

theorem fillContent_of_empty {message : OutgoingMessage} {content : MessageContent} {rest : List MessageContent}
    (empty : message.internalContent.isEmpty = true) (contents : message.contents = content :: rest) :
    message.fillContent = { message with internalContent := .content content } := by
  cases message
  simp only [fillContent] at empty contents ⊢
  rw [empty, contents]
  rfl

theorem unpacked_packing : Packing Unpacked PackedOnce := by
  refine ⟨fun before after original internal modifiers => Unpacked.stays original internal modifiers, ?_⟩
  intro message context unpacked account uploaded
  exact ⟨message.contents, rfl, unpacked.uploaded uploaded, unpacked.packed account⟩

end OutgoingMessage

namespace ClientChatRoom

/-- An encrypted room in which nothing was sent yet. -/
structure Fresh (room : ClientChatRoom) : Prop where
  engine : room.encryptionEngine = true
  encrypted : room.isEncrypted = true
  sent : room.sent = []
  pending : room.mPendingCreationMessages = []
  exhume : room.mPendingExhumeMessages = []
  messages : ∀ id, (room.messages id).encryptionPrevented = false ∧ (room.messages id).encryptions = [] ∧
    (room.messages id).upload.httpRequest = false ∧ (room.messages id).currentSendStep = {}

variable {ready : OutgoingMessage → Prop} {good : List MessageContent → MessageBody → Prop} {room : ClientChatRoom}

theorem Fresh.sealed (fresh : room.Fresh) : Sealed ready good (fun id => (room.messages id).original) room.waiting room := by
  have nowhere (id : Nat) : room.waiting id = 0 := by rw [waiting, fresh.pending, fresh.exhume]; rfl
  refine ⟨fresh.engine, fresh.encrypted, fun id => ?_, fun id => ?_, fun id => ?_, ?_⟩
  · obtain ⟨allowed, none, -, steps⟩ := fresh.messages id
    refine ⟨allowed, rfl, ?_, fun waits => absurd none waits, ?_⟩
    · rw [steps]
      exact fun marked => absurd marked (by decide)
    · rw [none]
      simp
  · obtain ⟨-, none, idle, -⟩ := fresh.messages id
    rw [nowhere, OutgoingMessage.inFlight, none, idle]
    decide
  · obtain ⟨-, -, idle, -⟩ := fresh.messages id
    rw [nowhere, idle]
    rintro (waits | busy)
    · exact absurd waits (by decide)
    · exact absurd busy (by decide)
  · rw [fresh.sent]
    simp

theorem Fresh.run (packing : Packing ready good) (fresh : room.Fresh) {events : List SendingEvent}
    (regular : Library.Guarded step (Regular ready) room events) :
    ∀ entry ∈ (events.foldl step room).sent, Secret good (room.messages entry.1).original entry.2 := by
  let invariant (after : ClientChatRoom) : Prop := Sealed ready good (fun id => (room.messages id).original) after.waiting after
  have kept (state : ClientChatRoom) (event : SendingEvent) (regular : state.Regular ready event) (sealed : invariant state) :
      invariant (state.step event) := sealed.step packing event regular
  have sealed : invariant (events.foldl step room) := Library.foldl_guarded kept fresh.sealed regular
  exact sealed.sent

/-- A room of two whose messages all have the same contents. -/
def conversation (contents : List MessageContent) : ClientChatRoom where
  states := { me := "sip:alice@example.org", participants := ["sip:bob@example.org"] }
  isGroup := false
  isEncrypted := true
  context :=
    { localDevice := some "sip:alice@example.org;gr=1"
      participantDevices := [["sip:bob@example.org;gr=1"]]
      meDevices := ["sip:alice@example.org;gr=1", "sip:alice@example.org;gr=2"] }
  messages := fun _ => { states := { direction := .outgoing, fromAddress := "sip:alice@example.org" }, contents := contents }

theorem conversation_fresh (contents : List MessageContent) : (conversation contents).Fresh :=
  ⟨rfl, rfl, rfl, rfl, rfl, fun _ => ⟨rfl, rfl, rfl, rfl⟩⟩

theorem send_sent (room : ClientChatRoom) (id : Nat) (answer : LimeAnswer) : room.sent ⊆ (room.send id answer).sent := by
  by_cases there : room.postponesSending = false
  · obtain ⟨after, bodies, sends, -⟩ := room.send_attempt id answer there
    rw [sends]
    exact List.subset_append_left ..
  · rw [send, sendAt, if_pos (Bool.not_eq_false _ ▸ there), addPendingMessage]
    split <;> exact List.Subset.refl _

/-- What was handed to SIP stays so. -/
theorem sendChatMessage_sent (room : ClientChatRoom) (id : Nat) (answer : LimeAnswer) :
    room.sent ⊆ (room.sendChatMessage id answer).sent := by
  rcases room.sendChatMessage_cases id answer with result | result | result | result <;> rw [result]
  · rw [setParticipantState_eq (by decide)]
    exact List.Subset.refl _
  · unfold addExhumeMessage exhume
    split_ifs <;> exact List.Subset.refl _
  · unfold addPendingMessage
    split <;> exact List.Subset.refl _
  · exact room.send_sent id answer

theorem notifyReceived_sent (room : ClientChatRoom) (context : SendingContext) (finished : Bool) (answers : Nat → LimeAnswer) :
    room.sent ⊆ (room.step (.notifyReceived context finished answers)).sent := by
  have every (ids : List Nat) : ∀ room : ClientChatRoom,
      room.sent ⊆ (ids.foldl (fun room id => room.sendChatMessage id (answers id)) room).sent := by
    induction ids with
    | nil => exact fun room => List.Subset.refl _
    | cons id rest ih => exact fun room => List.Subset.trans (room.sendChatMessage_sent id (answers id)) (ih _)
  change room.sent ⊆ (room.notifyReceived context finished answers).sent
  unfold notifyReceived
  simp only []
  split
  · exact every room.mPendingCreationMessages
      { room with
        context := context
        isSubscriptionUnderWay := room.isSubscriptionUnderWay && !finished }
  · exact List.Subset.refl _

theorem start_sent (message : OutgoingMessage) (states : ChatRoom) : (message.start states).currentSendStep.sent = false := by
  unfold OutgoingMessage.start OutgoingMessage.storeInDb
  simp only []
  split_ifs <;> rfl

theorem deliver_bare (room : ClientChatRoom) (id : Nat) {content : MessageContent} {rest : List MessageContent}
    (empty : (room.messages id).internalContent.isEmpty = true) (first : (room.messages id).currentSendStep.sent = false)
    (contents : (room.messages id).contents = content :: rest) : (id, .content content) ∈ (room.deliver id).sent := by
  have filled := OutgoingMessage.fillContent_of_empty empty contents
  unfold deliver
  simp only [filled, first, contents, List.isEmpty_cons, Bool.and_false, Bool.false_eq_true, if_false]
  exact List.mem_append_right _ (List.mem_singleton_self _)

/-- A message that has been through the modifiers, and of which they have left nothing, is sent as it is. -/
theorem send_bare (room : ClientChatRoom) (id : Nat) (answer : LimeAnswer) (there : room.postponesSending = false)
    (finished : (room.messages id).currentSendStep.modifiers = SendSteps.finished)
    (empty : (room.messages id).internalContent.isEmpty = true) {content : MessageContent} {rest : List MessageContent}
    (contents : (room.messages id).contents = content :: rest) : (id, .content content) ∈ (room.send id answer).sent := by
  obtain ⟨-, internal, same⟩ := OutgoingMessage.start_kept (room.messages id) room.states
  rw [send, sendAt_modified room id 1 answer there finished]
  apply deliver_bare
  · rw [setMessage_self, ← empty, ← internal]
  · rw [setMessage_self]
    exact start_sent ..
  · rw [setMessage_self, ← contents, ← same]

/-- The room of two that waits to be exhumed, with the message that was refused. -/
theorem step_rejected (room : ClientChatRoom) (id : Nat) (pair : room.isGroup = false)
    (pending : room.mPendingCreationMessages = []) (exhume : room.mPendingExhumeMessages = [])
    (rejected : room.recovers id .failed .forbidden = true) :
    (room.step (.deliveryUpdate id .failed .forbidden)).messages id =
        (room.messages id).setParticipantState room.states room.states.me .notDelivered .forbidden ∧
      (room.step (.deliveryUpdate id .failed .forbidden)).mPendingExhumeMessages = [id] ∧
      (room.step (.deliveryUpdate id .failed .forbidden)).mPendingCreationMessages = [] := by
  simp only [recovers, Bool.and_eq_true] at rejected
  obtain ⟨⟨operating, -⟩, refused⟩ := rejected
  have state : room.chatStatusSal2Linphone .failed .forbidden = .notDelivered := rfl
  rw [state] at refused
  simp only [step, messageDeliveryUpdate, operating, if_true, state, setParticipantState, refused, handleMessageRejected,
    setMessage_isGroup, pair, Bool.false_eq_true, if_false]
  unfold ClientChatRoom.exhume
  split <;> simp [addExhumeMessage, setMessage, exhume, pending]

end ClientChatRoom
end Liblinphone
