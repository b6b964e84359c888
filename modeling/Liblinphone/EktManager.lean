import Liblinphone.Library.Run

/-! The client side of the exchange of an EKT, the key that encrypts the media
keys of a conference. The conference server notifies the SSPI of the conference
and the CSPI of the selected key; clients generate a key, or recover the one that
another client has encrypted for them. -/

namespace Liblinphone

abbrev Bytes := List UInt8

inductive MSEKTCipherType where
  | aeskw128 | aeskw256
deriving Repr, DecidableEq

inductive LinphonePublishState where
  | none | incomingReceived | ok | error | expiring | cleared | terminating | outgoingProgress | refreshing
deriving Repr, DecidableEq

/-- What a call needs to know of a key. -/
structure MSEKTParametersSet where
  ektCipherType : MSEKTCipherType
  ektSrtpCryptoSuite : Nat
  ektKeyValue : Bytes
  ektMasterSalt : Bytes
  ektSpi : UInt16
  ektTtl : Nat
deriving Repr, DecidableEq

/-- The suite is the number of a suite of the media library. -/
structure EktContext where
  cipherType : MSEKTCipherType := .aeskw256
  cryptoSuite : Nat := 0
  sSpi : UInt16 := 0
  cSpi : Bytes := []
  ekt : Bytes := []
deriving Repr, DecidableEq

/-- Consecutive bytes of a random source. -/
def randomize (random : Nat → UInt8) (start size : Nat) : Bytes := (List.range size).map fun index => random (start + index)

namespace EktContext

def keySize (ctx : EktContext) : Nat :=
  match ctx.cipherType with
  | .aeskw128 => 16
  | .aeskw256 => 32

def setCSpi (ctx : EktContext) (cSpi : Bytes) : EktContext := { ctx with cSpi }

/-- A new key comes with a new CSPI. -/
def generateEkt (ctx : EktContext) (random : Nat → UInt8) : EktContext :=
  { ctx with cSpi := randomize random 0 16, ekt := randomize random 16 ctx.keySize }

def fillMSParametersSet (ctx : EktContext) : MSEKTParametersSet :=
  { ektCipherType := ctx.cipherType
    ektSrtpCryptoSuite := ctx.cryptoSuite
    ektKeyValue := ctx.ekt.take ctx.keySize
    ektMasterSalt := ctx.cSpi.take 14
    ektSpi := ctx.sSpi
    ektTtl := 0 }

def clearData (ctx : EktContext) : EktContext := { ctx with sSpi := 0, cSpi := [], ekt := [] }

/-- The data that a ciphered key is bound to. -/
def associatedData (ctx : EktContext) : Bytes :=
  [(ctx.sSpi >>> 8).toUInt8, ctx.sSpi.toUInt8] ++ ctx.cSpi

end EktContext

/-- The body of a NOTIFY. The ciphers are keyed by the device they are made for. -/
structure EktInfo where
  sender : Option String := none
  sSpi : UInt16 := 0
  cSpi : Bytes := []
  ciphers : Option (List (String × Bytes)) := none
deriving Repr, DecidableEq

/-- The conference as the manager sees it: the local device, the devices of the
local participant, and the decryption of the encryption engine. -/
structure EktConference where
  myAddr : String
  isMyDevice : String → Bool
  rawDecrypt : (localDeviceId senderDeviceId : String) → (associatedData cipherText : Bytes) → Option Bytes

/-- What the manager does with keys: it generates one, recovers one from a
cipher, hands one to the call, or encrypts one for other devices. -/
inductive EktEvent where
  | generated (ctx : EktContext)
  | recovered (ctx : EktContext) (sender : String) (cipher : Bytes)
  | setEkt (ctx : EktContext) (params : MSEKTParametersSet)
  | createPublish (ctx : EktContext) (recipients : List String)
deriving Repr, DecidableEq

structure ClientEktManager where
  ektCtx : EktContext := {}
  eventPublish : Option LinphonePublishState := none
  waitingParticipants : List String := []
  selectedEkt : Bool := false
deriving Repr, DecidableEq

/-- What happens to a manager: a NOTIFY, the end of an encryption, a change of
the state of its PUBLISH, or the loss of the network. The outcomes of the random
generator and of sending a PUBLISH are inputs. -/
inductive EktInput where
  | notifyReceived (ei : EktInfo) (random : Nat → UInt8) (sent : Bool)
  | publishCipheredEkt (status sent : Bool)
  | publishStateChanged (state : LinphonePublishState) (sent : Bool)
  | networkUnreachable

namespace ClientEktManager

def clearData (manager : ClientEktManager) : ClientEktManager :=
  { manager with ektCtx := manager.ektCtx.clearData, selectedEkt := false, waitingParticipants := [] }

/-- The code is not zero when the NOTIFY has no SSPI. A change of SSPI drops the
key and everything that goes with it. -/
def checkSSpi (manager : ClientEktManager) (eiSSpi : UInt16) : Nat × ClientEktManager :=
  if eiSSpi == 0 then (1, manager)
  else if manager.ektCtx.sSpi == 0 then (0, { manager with ektCtx.sSpi := eiSSpi })
  else if eiSSpi != manager.ektCtx.sSpi then (0, { manager.clearData with ektCtx.sSpi := eiSSpi })
  else (0, manager)

def sendPublish (manager : ClientEktManager) (sent : Bool) : ClientEktManager :=
  { manager with eventPublish := some <|
      if sent then if manager.eventPublish == some .ok then .refreshing else .outgoingProgress else .error }

/-- The key is encrypted for its recipients and published when the encryption
ends. Without recipients there is nothing to encrypt. -/
def createPublish (manager : ClientEktManager) (recipients : List String) (sent : Bool) :
    ClientEktManager × List EktEvent :=
  (if recipients.isEmpty then manager.sendPublish sent else manager, [.createPublish manager.ektCtx recipients])

def getParticipantsRequiringKey (conference : EktConference) (ei : EktInfo) : List String :=
  ((ei.ciphers.getD []).map (·.1)).filter (fun device => !conference.isMyDevice device)

/-- Participants wait while a PUBLISH is in progress. -/
def manageParticipantsRequiringKeyAndPublish (manager : ClientEktManager) (recipients : List String) (sent : Bool) :
    ClientEktManager × List EktEvent :=
  if manager.eventPublish.any (fun state => state != .ok && state != .none) then
    ({ manager with waitingParticipants := manager.waitingParticipants ++ recipients }, [])
  else createPublish { manager with waitingParticipants := [] } (manager.waitingParticipants ++ recipients) sent

/-- The code is zero as soon as there is a cipher for the local device, whether
or not it can be decrypted. -/
def recoverEkt (conference : EktConference) (manager : ClientEktManager) (ei : EktInfo) :
    Nat × ClientEktManager × List EktEvent :=
  match ei.ciphers with
  | none => (1, manager, [])
  | some [] => (2, manager, [])
  | some ciphers =>
    match ei.sender with
    | none => (3, manager, [])
    | some sender =>
      match ciphers.lookup conference.myAddr with
      | none => (5, manager, [])
      | some cipher =>
        match conference.rawDecrypt conference.myAddr sender manager.ektCtx.associatedData cipher with
        | none => (0, manager, [])
        | some ekt =>
          let manager := { manager with ektCtx.ekt := ekt, selectedEkt := true }
          (0, manager,
            [.recovered manager.ektCtx sender cipher, .setEkt manager.ektCtx manager.ektCtx.fillMSParametersSet])

def notifyReceived (conference : EktConference) (manager : ClientEktManager) (ei : EktInfo) (random : Nat → UInt8)
    (sent : Bool) : ClientEktManager × List EktEvent :=
  match manager.checkSSpi ei.sSpi with
  | (0, manager) =>
    let ektCtxCSpi := manager.ektCtx.cSpi
    if ei.cSpi.isEmpty && ektCtxCSpi.isEmpty then
      let manager := { manager with ektCtx := manager.ektCtx.generateEkt random }
      let published :=
        manager.manageParticipantsRequiringKeyAndPublish (getParticipantsRequiringKey conference ei) sent
      (published.1, .generated manager.ektCtx :: published.2)
    else if !ei.cSpi.isEmpty then
      if ektCtxCSpi.isEmpty || (ektCtxCSpi != ei.cSpi && !manager.selectedEkt) then
        (recoverEkt conference { manager with ektCtx := manager.ektCtx.setCSpi ei.cSpi } ei).2
      else if ektCtxCSpi != ei.cSpi && manager.selectedEkt then (manager, [])
      else if ektCtxCSpi == ei.cSpi && manager.selectedEkt then
        let recipients := getParticipantsRequiringKey conference ei
        if recipients.isEmpty then (manager, [])
        else manager.manageParticipantsRequiringKeyAndPublish recipients sent
      else if ektCtxCSpi == ei.cSpi then
        if manager.ektCtx.ekt.isEmpty then (recoverEkt conference manager ei).2
        else ({ manager with selectedEkt := true }, [.setEkt manager.ektCtx manager.ektCtx.fillMSParametersSet])
      else (manager, [])
    else (manager, [])
  | (_, manager) => (manager, [])

/-- The callback runs only when the state is a new one. It also runs for an event
that has been dropped meanwhile. -/
def publishStateChanged (manager : ClientEktManager) (state : LinphonePublishState) (sent : Bool) :
    ClientEktManager × List EktEvent :=
  if manager.eventPublish == some state then (manager, [])
  else
    let manager := { manager with eventPublish := manager.eventPublish.map fun _ => state }
    if state == .ok && !manager.waitingParticipants.isEmpty then
      let published := manager.createPublish manager.waitingParticipants sent
      ({ published.1 with waitingParticipants := [] }, published.2)
    else (manager, [])

def step (conference : EktConference) (manager : ClientEktManager) : EktInput → ClientEktManager × List EktEvent
  | .notifyReceived ei random sent => notifyReceived conference manager ei random sent
  | .publishCipheredEkt status sent => (if status then manager.sendPublish sent else manager, [])
  | .publishStateChanged state sent => manager.publishStateChanged state sent
  | .networkUnreachable => ({ manager with eventPublish := none }, [])

end ClientEktManager
end Liblinphone
