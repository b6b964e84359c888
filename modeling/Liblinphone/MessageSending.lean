import Liblinphone.ChatMessage
import Mathlib.Logic.Function.Basic

/-! How a client sends the messages of a chat room that a server hosts. A message is uploaded,
packed, encrypted and handed to SIP. It may have to wait for a file server, for the encryption
engine or for the chat room, and what it waited for sends it again. -/

namespace Liblinphone

structure FileContent where
  name : String
  contentType : String
  body : String := ""
deriving Repr, DecidableEq

/-- A content of a message. A file that is being uploaded is a transfer, which describes the file once
the server has it. -/
inductive MessageContent where
  | text (contentType body : String)
  | file (file : FileContent)
  | fileTransfer (file : FileContent) (xmlBody : Option String)
deriving Repr, DecidableEq

namespace MessageContent

def fileToUpload : MessageContent → Option FileContent
  | .file fileContent => some fileContent
  | _ => none

def body : MessageContent → String
  | .text _ body => body
  | .file fileContent => fileContent.body
  | .fileTransfer _ xmlBody => xmlBody.getD ""

def restore : MessageContent → MessageContent
  | .fileTransfer fileContent _ => .file fileContent
  | content => content

end MessageContent

/-- What a message sends. The last one is what the engine makes of a text, for the devices that it has
keys of. -/
inductive MessageBody where
  | empty
  | content (content : MessageContent)
  | multipart (contents : List MessageContent)
  | cpim (body : MessageBody)
  | encrypted (plain : MessageBody) (recipients : List String)
deriving Repr, DecidableEq

def MessageBody.isEmpty : MessageBody → Bool
  | .empty => true
  | .content part => part.body == ""
  | _ => false

/-- The steps that are done. -/
structure SendSteps where
  started : Bool := false
  sending : Bool := false
  fileUpload : Bool := false
  multipart : Bool := false
  cpim : Bool := false
  encryption : Bool := false
  sent : Bool := false
deriving Repr, DecidableEq

/-- The request to the file server: the file, and whether it has replaced the file in the message. -/
structure FileUpload where
  httpRequest : Bool := false
  currentFileContentToTransfer : Option FileContent := none
  currentFileTransferContent : Bool := false
deriving Repr, DecidableEq

/-- What the encryption engine was asked to encrypt, and for whom. -/
structure EncryptionContext where
  plain : MessageBody
  recipients : List String
deriving Repr, DecidableEq

structure OutgoingMessage where
  states : ChatMessage
  contents : List MessageContent
  toBeStored : Bool := true
  encryptionPrevented : Bool := false
  internalContent : MessageBody := .empty
  currentSendStep : SendSteps := {}
  upload : FileUpload := {}
  encryptions : List EncryptionContext := []
  salOp : Bool := false
  mAutomaticallyResent : Bool := false
  mResendTimer : Bool := false
deriving Repr, DecidableEq

inductive ConferenceState where
  | none | instantiated | creationPending | created | creationFailed | terminationPending | terminated
  | terminationFailed | deleted
deriving Repr, DecidableEq

/-- What the sending of a message reads of the account, the devices and the configuration. -/
structure SendingContext where
  hasAccount : Bool := true
  localDevice : Option String
  participantDevices : List (List String)
  meDevices : List String
  isIn : Bool := true
  isUnsafe : Bool := false
  allowMessageInUnsafeChatroom : Bool := false
  maxNbDevicePerParticipant : Nat := 2147483647
  participantListRequired : Bool := true
  fileTransferServer : Bool := true
deriving Repr, DecidableEq

/-- What the engine does with what it is asked to encrypt. It answers now or later, and has no keys of
some of the devices. -/
inductive LimeAnswer where
  | later
  | success (failed : List String)
  | failure
  | exception
deriving Repr, DecidableEq

inductive DeliveryReason where
  | none | ioError | noResponse | forbidden | other
deriving Repr, DecidableEq

structure ClientChatRoom where
  states : ChatRoom
  state : ConferenceState := .created
  isGroup : Bool
  isEncrypted : Bool
  isSubscriptionUnderWay : Bool := false
  encryptionEngine : Bool := true
  isShuttingDown : Bool := false
  context : SendingContext
  messages : Nat → OutgoingMessage
  mPendingCreationMessages : List Nat := []
  mPendingExhumeMessages : List Nat := []
  sent : List (Nat × MessageBody) := []

namespace OutgoingMessage

variable (message : OutgoingMessage)

def restoreFileTransferContentAsFileContent : OutgoingMessage :=
  { message with contents := message.contents.map MessageContent.restore }

/-- What follows a change of the state. -/
def stateChanged (oldState : ChatMessageState) (reason : DeliveryReason) : OutgoingMessage :=
  let state := message.states.state
  if state == oldState then message
  else
    let stopped := state == .pendingDelivery || state == .notDelivered
    let needResend := stopped && message.salOp && (reason == .ioError || reason == .noResponse)
    let resent :=
      if state == .pendingDelivery || state == .delivered || state == .deliveredToUser || state == .displayed then
        { message with mAutomaticallyResent := false }
      else message
    let released := if stopped then { resent.restoreFileTransferContentAsFileContent with salOp := false } else resent
    if state == .pendingDelivery && !message.mAutomaticallyResent && needResend then
      { released with mResendTimer := true }
    else released

def setParticipantState (room : ChatRoom) (address : String) (newState : ChatMessageState) (reason : DeliveryReason) :
    OutgoingMessage :=
  { message with states := message.states.setParticipantState room address newState }.stateChanged message.states.state reason

/-- A message that a server refused and that is stored. -/
def isRejected (room : ChatRoom) (newState : ChatMessageState) (reason : DeliveryReason) : Bool :=
  newState == .notDelivered && reason == .forbidden && message.states.isValid && !room.isBasicChatRoom &&
    !room.enableSimpleGroupChatMessageState &&
    chatMessageFsmChecker.isValid (message.states.getParticipantState room room.me) newState

def isResend : Bool := message.states.state == .pendingDelivery || message.states.state == .notDelivered

def storeInDb (room : ChatRoom) : OutgoingMessage :=
  if message.states.isValid then { message with states := message.states.updateInDb room }
  else
    { message with
      states :=
        { message.states with
          isValid := true
          eventLog := true
          dbState := message.states.state
          participantStates := room.participants.map fun address => (address, message.states.state) }.setParticipantState
        room room.me message.states.state }

/-- A message is stored when it is sent for the first time. -/
def start (room : ChatRoom) : OutgoingMessage :=
  let started := { message with currentSendStep := { message.currentSendStep with started := true, sent := false } }
  if message.toBeStored && started.currentSendStep = { started := true } then
    let stored := started.storeInDb room
    if message.isResend then stored
    else { stored with currentSendStep := { stored.currentSendStep with sending := true } }
  else started

def fileToUpload : Option FileContent := message.contents.findSome? MessageContent.fileToUpload

/-- An upload that is under way goes on, and no other one begins. -/
def canUpload (context : SendingContext) : Bool :=
  !message.upload.httpRequest && message.upload.currentFileContentToTransfer.isSome && context.fileTransferServer

def uploadFile (context : SendingContext) : OutgoingMessage :=
  if message.canUpload context then { message with upload := { message.upload with httpRequest := true } } else message

def forgetFile : OutgoingMessage :=
  { message with
    upload := { message.upload with currentFileContentToTransfer := none, currentFileTransferContent := false } }

/-- The file that is uploaded next. -/
def chooseFile (file : FileContent) : OutgoingMessage :=
  { message with
    upload :=
      { message.upload with currentFileContentToTransfer := some file, currentFileTransferContent := false } }

def replaceContent (contentToRemove contentToAdd : MessageContent) : OutgoingMessage :=
  { message with contents := message.contents.replace contentToRemove contentToAdd }

def releaseHttpRequest : OutgoingMessage :=
  { message with upload := { message.upload with httpRequest := false, currentFileContentToTransfer := none } }

/-- The server is ready for the file, which a transfer replaces in the message. -/
def beginUpload (context : SendingContext) : OutgoingMessage :=
  match message.upload.currentFileContentToTransfer with
  | none => message
  | some file =>
    let prepared := (message.replaceContent (.file file) (.fileTransfer file none)).releaseHttpRequest
    { prepared with
      upload :=
        { prepared.upload with
          currentFileContentToTransfer := some file, currentFileTransferContent := true } }.uploadFile context

/-- The file takes the place of its transfer again. -/
def undoUpload : OutgoingMessage :=
  match message.upload.currentFileContentToTransfer with
  | some file =>
    if message.upload.currentFileTransferContent then
      { message.replaceContent (.fileTransfer file none) (.file file) with
        upload := { message.upload with currentFileTransferContent := false } }
    else message
  | none => message

def finishUpload (xmlBody : String) : OutgoingMessage :=
  match message.upload.currentFileContentToTransfer with
  | some file =>
    { message.replaceContent (.fileTransfer file none) (.fileTransfer file (some xmlBody)) with
      upload := { message.upload with currentFileTransferContent := false } }
  | none => message

def encodeMultipart : OutgoingMessage :=
  if message.contents.length ≤ 1 then message else { message with internalContent := .multipart message.contents }

/-- The text is what an earlier modifier made, or else the first content. -/
def encodeCpim (context : SendingContext) : OutgoingMessage :=
  if !context.hasAccount then message
  else if !message.internalContent.isEmpty then { message with internalContent := .cpim message.internalContent }
  else
    match message.contents with
    | [] => message
    | content :: _ => { message with internalContent := .cpim (.content content) }

/-- Each modifier is applied once. -/
def modified (context : SendingContext) : OutgoingMessage :=
  let message := if message.currentSendStep.multipart then message else message.encodeMultipart
  let message := if message.currentSendStep.cpim then message else message.encodeCpim context
  { message with currentSendStep := { message.currentSendStep with multipart := true, cpim := true } }

/-- Nothing to send is left without a content. -/
def fillContent : OutgoingMessage :=
  if !message.internalContent.isEmpty then message
  else
    match message.contents with
    | [] => message
    | content :: _ => { message with internalContent := .content content }

/-- The participants of a message that is sent again begin anew. -/
def resetParticipants (room : ChatRoom) : OutgoingMessage :=
  (message.states.getParticipantsState room).foldl
    (fun message imdnState => message.setParticipantState room imdnState.1 .idle .none) message

/-- What follows when a message has been handed to SIP. -/
def handed (room : ChatRoom) : OutgoingMessage :=
  let cleared := { message.restoreFileTransferContentAsFileContent with internalContent := .empty }
  if message.isResend then
    let reset := cleared.resetParticipants room
    { reset with states := reset.states.updateInDb room }
  else if message.toBeStored then { cleared with states := cleared.states.updateInDb room }
  else cleared

/-- A message that failed goes through every step when it is sent again. -/
def forgetSteps : OutgoingMessage := { message with currentSendStep := {} }

/-- A message that the application sends goes through the modifiers again, and is not uploaded again. -/
def forgetModifiers : OutgoingMessage :=
  { message with
    currentSendStep := { message.currentSendStep with multipart := false, cpim := false, encryption := false } }

end OutgoingMessage

namespace SendingContext

variable (context : SendingContext)

def getParticipantDevices : List String :=
  (if context.isIn then context.meDevices else []) ++ context.participantDevices.flatten

def otherDevices : List String := context.meDevices.filter fun device => some device != context.localDevice

/-- The devices of each participant that no earlier participant has. -/
def newDevices : List (List String) → List String → List (List String)
  | [], _ => []
  | devices :: rest, known =>
    let added := devices.dedup.filter fun device => !known.contains device
    added :: newDevices rest (known ++ added)

def recipientsByParticipant : List (List String) := newDevices (context.participantDevices ++ [context.otherDevices]) []

def recipientAddresses : List String := context.recipientsByParticipant.flatten

def tooManyDevices : Bool :=
  context.recipientsByParticipant.any fun devices => decide (context.maxNbDevicePerParticipant < devices.length)

end SendingContext

/-- Whether a message is encrypted, and for whom. -/
inductive EncryptionRequest where
  | skipped
  | error
  | recipients (addresses : List String)
deriving Repr, DecidableEq

namespace ClientChatRoom

variable (room : ClientChatRoom)

def setMessage (id : Nat) (message : OutgoingMessage) : ClientChatRoom :=
  { room with messages := Function.update room.messages id message }

def addPendingMessage (id : Nat) : ClientChatRoom :=
  if room.mPendingCreationMessages.contains id then room
  else { room with mPendingCreationMessages := room.mPendingCreationMessages ++ [id] }

def addExhumeMessage (id : Nat) : ClientChatRoom :=
  if room.mPendingExhumeMessages.contains id then room
  else { room with mPendingExhumeMessages := room.mPendingExhumeMessages ++ [id] }

/-- A room without participants stays terminated. -/
def exhume : ClientChatRoom :=
  if room.state != .terminated || room.isGroup || room.context.participantDevices.isEmpty then room
  else { room with state := .creationPending }

/-- The server has deleted a room of two, which is terminated, exhumed, and then sends the message. -/
def handleMessageRejected (id : Nat) : ClientChatRoom :=
  if room.isGroup then room else ({ room with state := .terminated }.exhume).addExhumeMessage id

def setParticipantState (id : Nat) (newState : ChatMessageState) (reason : DeliveryReason) : ClientChatRoom :=
  let message := room.messages id
  let moved := room.setMessage id (message.setParticipantState room.states room.states.me newState reason)
  if message.isRejected room.states newState reason then moved.handleMessageRejected id else moved

/-- The devices of the room are not known, or it is not there. -/
def postponesSending : Bool := !room.isShuttingDown && (room.isSubscriptionUnderWay || room.state != .created)

def processOutgoingMessage (message : OutgoingMessage) : EncryptionRequest :=
  if message.encryptionPrevented || !room.encryptionEngine || !room.isEncrypted then .skipped
  else if !room.context.allowMessageInUnsafeChatroom && room.context.isUnsafe then .error
  else if !room.context.hasAccount || room.context.localDevice.isNone then .error
  else if room.context.recipientAddresses.isEmpty || room.context.tooManyDevices then .error
  else .recipients room.context.recipientAddresses

/-- The end of the sending of a message that has been through the modifiers. -/
def deliver (id : Nat) : ClientChatRoom :=
  let message := (room.messages id).fillContent
  if message.internalContent.isEmpty && message.contents.isEmpty then room
  else if message.currentSendStep.sent then room.setMessage id message
  else
    { room.setMessage id
        ({ message with currentSendStep := { message.currentSendStep with sent := true } }.handed room.states) with
      sent := room.sent ++ [(id, message.internalContent)] }

/-- The message is not delivered when it could not be encrypted. -/
def encryptionFailed (id : Nat) : ClientChatRoom :=
  (room.setMessage id (room.messages id).forgetSteps.restoreFileTransferContentAsFileContent).setParticipantState id
    .notDelivered .other

/-- The engine answers at once, and sends the message itself, or later. -/
def encrypt (sendAgain : ClientChatRoom → Nat → ClientChatRoom) (id : Nat) (recipients : List String) (answer : LimeAnswer) :
    ClientChatRoom :=
  let message := room.messages id
  match answer with
  | .later =>
    room.setMessage id { message with encryptions := message.encryptions ++ [⟨message.internalContent, recipients⟩] }
  | .success failed =>
    let encrypted :=
      { message with
        internalContent := .encrypted message.internalContent (recipients.filter fun device => !failed.contains device) }
    (sendAgain (room.setMessage id encrypted) id).deliver id
  | .failure => (room.setParticipantState id .notDelivered .none).encryptionFailed id
  | .exception => room.encryptionFailed id

/-- A message whose files are uploaded is packed, encrypted and handed to SIP. -/
def sendUploaded (sendAgain : ClientChatRoom → Nat → ClientChatRoom) (id : Nat) (answer : LimeAnswer) : ClientChatRoom :=
  let message := { (room.messages id).modified room.context with salOp := true }
  if message.currentSendStep.encryption then (room.setMessage id message).deliver id
  else
    let marked := { message with currentSendStep := { message.currentSendStep with encryption := !message.encryptionPrevented } }
    let room := room.setMessage id marked
    match room.processOutgoingMessage marked with
    | .skipped => room.deliver id
    | .error => room.encryptionFailed id
    | .recipients addresses => room.encrypt sendAgain id addresses answer

/-- At most `depth` calls inside one another. -/
def sendAt : Nat → ClientChatRoom → Nat → LimeAnswer → ClientChatRoom
  | 0, room, _, _ => room
  | depth + 1, room, id, answer =>
    if room.postponesSending then room.addPendingMessage id
    else
      let message := (room.messages id).start room.states
      let sendAgain := fun room id => sendAt depth room id answer
      if message.currentSendStep.fileUpload then (room.setMessage id message).sendUploaded sendAgain id answer
      else
        match message.fileToUpload with
        | none =>
          let uploaded := { message.forgetFile with currentSendStep := { message.currentSendStep with fileUpload := true } }
          (room.setMessage id uploaded).sendUploaded sendAgain id answer
        | some file =>
          let chosen := message.chooseFile file
          let room := room.setMessage id (chosen.uploadFile room.context)
          if chosen.canUpload room.context then room.setParticipantState id .fileTransferInProgress .none
          else
            let room := room.setParticipantState id .notDelivered .none
            room.setMessage id (room.messages id).forgetSteps

/-- The engine sends a message inside of its sending, and the message is encrypted by then. -/
def send (id : Nat) (answer : LimeAnswer) : ClientChatRoom := room.sendAt 2 id answer

/-- The room sends a message, or keeps it until the room is there. -/
def sendChatMessage (id : Nat) (answer : LimeAnswer) : ClientChatRoom :=
  match room.state with
  | .terminated =>
    if room.isGroup then room.setParticipantState id .notDelivered .none else room.exhume.addExhumeMessage id
  | .instantiated | .creationPending => room.addPendingMessage id
  | .created =>
    if room.isEncrypted && room.encryptionEngine && room.context.participantListRequired &&
        room.context.getParticipantDevices.isEmpty then
      room.addPendingMessage id
    else room.send id answer
  | _ => room.setParticipantState id .notDelivered .none

def sendPendingMessages (answers : Nat → LimeAnswer) : ClientChatRoom :=
  { room.mPendingCreationMessages.foldl (fun room id => room.sendChatMessage id (answers id)) room with
    mPendingCreationMessages := [] }

end ClientChatRoom

/-- What the file server answers. -/
inductive UploadResponse where
  | noContent
  | uploaded (xmlBody : String)
  | unusable
  | refused
  | otherCode
deriving Repr, DecidableEq

inductive SalMessageDeliveryStatus where
  | inProgress | done | failed
deriving Repr, DecidableEq

/-- What happens to the messages of a room. -/
inductive SendingEvent where
  | send (id : Nat) (answer : LimeAnswer)
  | resendTimerExpired (id : Nat) (answer : LimeAnswer)
  | networkReachable (id : Nat) (answer : LimeAnswer)
  | uploadResponse (id : Nat) (response : UploadResponse) (answer : LimeAnswer)
  | uploadIoError (id : Nat)
  | cancelFileTransfer (id : Nat)
  | encryptionAnswer (id index : Nat) (failed : Option (List String)) (answer : LimeAnswer)
  | deliveryUpdate (id : Nat) (status : SalMessageDeliveryStatus) (reason : DeliveryReason)
  | participantState (id : Nat) (address : String) (state : ChatMessageState)
  | stateChanged (state : ConferenceState)
  | contextChanged (context : SendingContext)
  | subscriptionChanged (underWay : Bool)
  | notifyReceived (context : SendingContext) (finished : Bool) (answers : Nat → LimeAnswer)
  | locallyExhumed (underWay : Bool) (answers : Nat → LimeAnswer)
  | shutdown
  | uninit (answers : Nat → LimeAnswer)

namespace ClientChatRoom

variable (room : ClientChatRoom)

/-- A message that is being sent, or that was sent, is not sent. -/
def canSend (id : Nat) : Bool :=
  match (room.messages id).states.state with
  | .inProgress | .delivered | .fileTransferDone | .deliveredToUser | .displayed | .fileTransferInProgress => false
  | _ => true

def sendMessage (id : Nat) (answer : LimeAnswer) : ClientChatRoom :=
  if !room.canSend id then room
  else (room.setMessage id (room.messages id).forgetModifiers).sendChatMessage id answer

def handleAutomaticResend (id : Nat) (answer : LimeAnswer) : ClientChatRoom :=
  let room := (room.setMessage id { room.messages id with mAutomaticallyResent := true }).sendMessage id answer
  room.setMessage id { room.messages id with mResendTimer := false }

/-- An upload that failed. -/
def uploadFailed (id : Nat) (newState : ChatMessageState) : ClientChatRoom :=
  let room := (room.setMessage id (room.messages id).undoUpload).setParticipantState id newState .none
  room.setMessage id (room.messages id).releaseHttpRequest

def processResponseFromPostFile (id : Nat) (response : UploadResponse) (answer : LimeAnswer) : ClientChatRoom :=
  let message := room.messages id
  if !message.upload.httpRequest then room
  else
    match response with
    | .noContent => room.setMessage id (message.beginUpload room.context)
    | .uploaded xmlBody =>
      if !message.upload.currentFileTransferContent then room
      else
        let room := (room.setMessage id (message.finishUpload xmlBody)).setParticipantState id .fileTransferDone .none
        (room.setMessage id (room.messages id).releaseHttpRequest).send id answer
    | .unusable | .otherCode => room.uploadFailed id .notDelivered
    | .refused => room.uploadFailed id .fileTransferError

def processIoErrorUpload (id : Nat) : ClientChatRoom :=
  let message := room.messages id
  if !message.upload.httpRequest then room
  else
    let cancelling := message.states.getParticipantState room.states room.states.me == .fileTransferCancelling
    let room := room.setParticipantState id (if cancelling then .notDelivered else .pendingDelivery) .none
    room.setMessage id (room.messages id).releaseHttpRequest

def cancelFileTransfer (id : Nat) : ClientChatRoom :=
  let message := room.messages id
  if !message.upload.httpRequest then room
  else
    let cancelled :=
      if message.upload.currentFileContentToTransfer.isSome then
        (room.setParticipantState id .fileTransferCancelling .none).setParticipantState id .notDelivered .none
      else room
    let released := cancelled.setMessage id (cancelled.messages id).releaseHttpRequest
    if (released.messages id).states.state == .fileTransferInProgress then released.setParticipantState id .notDelivered .none
    else released

/-- The engine answers later: it has encrypted what it was given then. -/
def encryptionAnswered (id index : Nat) (failed : Option (List String)) (answer : LimeAnswer) : ClientChatRoom :=
  let message := room.messages id
  match message.encryptions[index]? with
  | none => room
  | some context =>
    let message := { message with encryptions := message.encryptions.eraseIdx index }
    match failed with
    | none => (room.setMessage id message).setParticipantState id .notDelivered .none
    | some failed =>
      let recipients := context.recipients.filter fun device => !failed.contains device
      (room.setMessage id { message with internalContent := .encrypted context.plain recipients }).send id answer

def chatStatusSal2Linphone (status : SalMessageDeliveryStatus) (reason : DeliveryReason) : ChatMessageState :=
  match status with
  | .inProgress => .inProgress
  | .done => .delivered
  | .failed => if reason == .ioError && !room.isShuttingDown then .pendingDelivery else .notDelivered

def messageDeliveryUpdate (id : Nat) (status : SalMessageDeliveryStatus) (reason : DeliveryReason) : ClientChatRoom :=
  if (room.messages id).salOp then room.setParticipantState id (room.chatStatusSal2Linphone status reason) reason else room

/-- A notification that ends the subscription being under way. -/
def notifyReceived (context : SendingContext) (finished : Bool) (answers : Nat → LimeAnswer) : ClientChatRoom :=
  let notified :=
    { room with
      context := context
      isSubscriptionUnderWay := room.isSubscriptionUnderWay && !finished }
  if room.isSubscriptionUnderWay && finished then notified.sendPendingMessages answers else notified

def onLocallyExhumedConference (underWay : Bool) (answers : Nat → LimeAnswer) : ClientChatRoom :=
  { room.mPendingExhumeMessages.foldl (fun room id => room.send id (answers id))
      { room with state := .created, isSubscriptionUnderWay := underWay } with
    mPendingExhumeMessages := [] }

/-- The engine is gone when the messages that wait are sent. -/
def uninit (answers : Nat → LimeAnswer) : ClientChatRoom :=
  { room with isShuttingDown := true, encryptionEngine := false }.sendPendingMessages answers

def step : SendingEvent → ClientChatRoom
  | .send id answer => room.sendMessage id answer
  | .resendTimerExpired id answer => if (room.messages id).mResendTimer then room.handleAutomaticResend id answer else room
  | .networkReachable id answer =>
    if (room.messages id).states.state == .pendingDelivery then room.handleAutomaticResend id answer else room
  | .uploadResponse id response answer => room.processResponseFromPostFile id response answer
  | .uploadIoError id => room.processIoErrorUpload id
  | .cancelFileTransfer id => room.cancelFileTransfer id
  | .encryptionAnswer id index failed answer => room.encryptionAnswered id index failed answer
  | .deliveryUpdate id status reason => room.messageDeliveryUpdate id status reason
  | .participantState id address state =>
    room.setMessage id ((room.messages id).setParticipantState room.states address state .none)
  | .stateChanged state => { room with state := state }
  | .contextChanged context => { room with context := context }
  | .subscriptionChanged underWay => { room with isSubscriptionUnderWay := underWay }
  | .notifyReceived context finished answers => room.notifyReceived context finished answers
  | .locallyExhumed underWay answers => room.onLocallyExhumedConference underWay answers
  | .shutdown => { room with isShuttingDown := true }
  | .uninit answers => room.uninit answers

end ClientChatRoom
end Liblinphone
