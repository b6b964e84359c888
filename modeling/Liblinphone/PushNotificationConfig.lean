import Liblinphone.Text

/-! The settings of push notifications: the tokens that the system gives, and the parameters
of a contact that are generated from them. -/

namespace Liblinphone

inductive PushPlatform where
  | android | iphone | other
deriving Repr, DecidableEq

structure PushNotificationConfig where
  provider : Text := []
  param : Text := []
  prid : Text := []
  teamId : Text := "ABCD1234".toList
  bundleIdentifer : Text := []
  voipToken : Text := []
  remoteToken : Text := []
  tokensHaveChanged : Bool := false
deriving Repr, DecidableEq

inductive PushCall where
  | setVoipToken (voipToken : Text)
  | setRemoteToken (remoteToken : Text)
  | setTeamId (teamId : Text)
  | setBundleIdentifer (bundleIdentifer : Text)
  | generatePushParams (voipPushAllowed remotePushAllowed : Bool)
deriving Repr, DecidableEq

namespace PushNotificationConfig

variable (config : PushNotificationConfig)

def setVoipToken (voipToken : Text) : PushNotificationConfig :=
  if config.voipToken ≠ voipToken then { config with tokensHaveChanged := true, voipToken } else config

/-- The token is compared with the other one. -/
def setRemoteToken (remoteToken : Text) : PushNotificationConfig :=
  if config.voipToken ≠ remoteToken then { config with tokensHaveChanged := true, remoteToken } else config

def setTeamId (teamId : Text) : PushNotificationConfig := { config with teamId }

def setBundleIdentifer (bundleIdentifer : Text) : PushNotificationConfig := { config with bundleIdentifer }

def platformProvider : PushPlatform → Text
  | .android => "fcm".toList
  | .iphone => "apns".toList
  | .other => []

/-- The parts of the services that are allowed, the first one before the other. -/
def joinAllowed (voipPushAllowed remotePushAllowed : Bool) (voip remote : Text) : Text :=
  (if voipPushAllowed then voip ++ (if remotePushAllowed then ['&'] else []) else []) ++
    if remotePushAllowed then remote else []

/-- A service without a token is not allowed. -/
def generatePushParams (platform : PushPlatform) (voipPushAllowed remotePushAllowed : Bool) : PushNotificationConfig :=
  let provider := if config.provider.isEmpty then platformProvider platform else config.provider
  let remotePushAllowed := remotePushAllowed && !config.remoteToken.isEmpty
  let voipPushAllowed := voipPushAllowed && !config.voipToken.isEmpty
  let renewed := config.tokensHaveChanged && (!config.voipToken.isEmpty || !config.remoteToken.isEmpty)
  let param :=
    if config.param.isEmpty || renewed then
      config.teamId ++ '.' :: (config.bundleIdentifer ++ '.' ::
        joinAllowed voipPushAllowed remotePushAllowed "voip".toList "remote".toList)
    else config.param
  let prid :=
    if config.prid.isEmpty || renewed then joinAllowed voipPushAllowed remotePushAllowed config.voipToken config.remoteToken
    else config.prid
  { config with provider, param, prid, tokensHaveChanged := false }

def call (platform : PushPlatform) : PushCall → PushNotificationConfig
  | .setVoipToken voipToken => config.setVoipToken voipToken
  | .setRemoteToken remoteToken => config.setRemoteToken remoteToken
  | .setTeamId teamId => config.setTeamId teamId
  | .setBundleIdentifer bundleIdentifer => config.setBundleIdentifer bundleIdentifer
  | .generatePushParams voipPushAllowed remotePushAllowed =>
    config.generatePushParams platform voipPushAllowed remotePushAllowed

variable (voipToken remoteToken : Text)

@[simp] theorem setVoipToken_voipToken : (config.setVoipToken voipToken).voipToken = voipToken := by
  unfold setVoipToken
  split
  · rfl
  next same => exact not_not.mp same

@[simp] theorem setVoipToken_remoteToken : (config.setVoipToken voipToken).remoteToken = config.remoteToken := by
  unfold setVoipToken
  split <;> rfl

@[simp] theorem setRemoteToken_voipToken : (config.setRemoteToken remoteToken).voipToken = config.voipToken := by
  unfold setRemoteToken
  split <;> rfl

theorem setRemoteToken_remoteToken_iff : (config.setRemoteToken remoteToken).remoteToken = remoteToken ↔
    remoteToken ≠ config.voipToken ∨ remoteToken = config.remoteToken := by
  unfold setRemoteToken
  split
  next other => exact iff_of_true rfl (.inl (Ne.symm other))
  next same =>
    rw [← not_not.mp same]
    simp [eq_comm]

/-- Another token than the voip one raises the flag. -/
theorem setVoipToken_changed (other : voipToken ≠ config.voipToken) :
    (config.setVoipToken voipToken).tokensHaveChanged = true := by
  rw [setVoipToken, if_pos (Ne.symm other)]

theorem setRemoteToken_changed (other : remoteToken ≠ config.voipToken) :
    (config.setRemoteToken remoteToken).tokensHaveChanged = true := by
  rw [setRemoteToken, if_pos (Ne.symm other)]

/-- The flag stays up when a token is set. -/
theorem setVoipToken_keeps (changed : config.tokensHaveChanged = true) :
    (config.setVoipToken voipToken).tokensHaveChanged = true := by
  unfold setVoipToken
  split
  · rfl
  · exact changed

theorem setRemoteToken_keeps (changed : config.tokensHaveChanged = true) :
    (config.setRemoteToken remoteToken).tokensHaveChanged = true := by
  unfold setRemoteToken
  split
  · rfl
  · exact changed

end PushNotificationConfig

end Liblinphone
