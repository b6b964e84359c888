import Liblinphone.Library.Run
import Liblinphone.PushNotificationConfig

/-! Whether the parameters of push notifications follow the tokens. The tokens that were last
set are kept beside the settings, and compared with what the settings return. -/

namespace Liblinphone

open Library

/-- The settings with the tokens that were last set. The flag tells that one of them got another
value since the parameters were generated. -/
structure AuditedPushConfig where
  config : PushNotificationConfig
  voip : Text
  remote : Text
  changed : Bool := false

namespace AuditedPushConfig

variable {platform : PushPlatform} {state : AuditedPushConfig} {command : PushCall}

def ofConfig (config : PushNotificationConfig) : AuditedPushConfig :=
  { config, voip := config.voipToken, remote := config.remoteToken }

def call (platform : PushPlatform) (state : AuditedPushConfig) (command : PushCall) : AuditedPushConfig :=
  let called := { state with config := state.config.call platform command }
  match command with
  | .setVoipToken voipToken => { called with voip := voipToken, changed := state.changed || voipToken != state.voip }
  | .setRemoteToken remoteToken => { called with remote := remoteToken, changed := state.changed || remoteToken != state.remote }
  | .setTeamId _ => called
  | .setBundleIdentifer _ => called
  | .generatePushParams _ _ => { called with changed := false }

/-- The getters return the tokens that were last set. -/
structure ReturnsLast (state : AuditedPushConfig) : Prop where
  voip : state.config.voipToken = state.voip
  remote : state.config.remoteToken = state.remote

/-- The services that are allowed and have a token, with their tokens. -/
def services (state : AuditedPushConfig) (voipPushAllowed remotePushAllowed : Bool) : List (Text × Text) :=
  (if voipPushAllowed && !state.voip.isEmpty then [("voip".toList, state.voip)] else []) ++
    if remotePushAllowed && !state.remote.isEmpty then [("remote".toList, state.remote)] else []

/-- The parameters of settings name these services and their tokens. -/
structure Names (config : PushNotificationConfig) (services : List (Text × Text)) : Prop where
  prid : config.prid = ['&'].intercalate (services.map Prod.snd)
  param : config.param = config.teamId ++ '.' :: (config.bundleIdentifer ++ '.' :: ['&'].intercalate (services.map Prod.fst))

/-- A remote token is not the voip token, unless it is the remote token already. -/
def Accepted (state : AuditedPushConfig) : PushCall → Prop
  | .setRemoteToken remoteToken => remoteToken ≠ state.config.voipToken ∨ remoteToken = state.config.remoteToken
  | _ => True

theorem returnsLast_call_iff (last : state.ReturnsLast) :
    (state.call platform command).ReturnsLast ↔ state.Accepted command := by
  cases command with
  | setVoipToken voipToken =>
    exact iff_of_true
      { voip := state.config.setVoipToken_voipToken voipToken
        remote := (state.config.setVoipToken_remoteToken voipToken).trans last.remote } trivial
  | setRemoteToken remoteToken =>
    have voip := (state.config.setRemoteToken_voipToken remoteToken).trans last.voip
    constructor
    · intro returned
      exact (state.config.setRemoteToken_remoteToken_iff remoteToken).mp returned.remote
    · intro accepted
      exact { voip, remote := (state.config.setRemoteToken_remoteToken_iff remoteToken).mpr accepted }
  | setTeamId teamId => exact iff_of_true ⟨last.voip, last.remote⟩ trivial
  | setBundleIdentifer bundleIdentifer => exact iff_of_true ⟨last.voip, last.remote⟩ trivial
  | generatePushParams voipPushAllowed remotePushAllowed => exact iff_of_true ⟨last.voip, last.remote⟩ trivial

/-- The settings know of each change. -/
structure Heard (state : AuditedPushConfig) : Prop where
  last : state.ReturnsLast
  flag : state.changed = true → state.config.tokensHaveChanged = true

theorem heard_call (heard : state.Heard) (accepted : state.Accepted command) : (state.call platform command).Heard where
  last := (returnsLast_call_iff heard.last).mpr accepted
  flag := by
    intro changed
    cases command with
    | setVoipToken voipToken =>
      rcases Bool.or_eq_true_iff.mp changed with before | other
      · exact state.config.setVoipToken_keeps voipToken (heard.flag before)
      · rw [← heard.last.voip] at other
        exact state.config.setVoipToken_changed voipToken (bne_iff_ne.mp other)
    | setRemoteToken remoteToken =>
      rcases Bool.or_eq_true_iff.mp changed with before | other
      · exact state.config.setRemoteToken_keeps remoteToken (heard.flag before)
      · rw [← heard.last.remote] at other
        exact state.config.setRemoteToken_changed remoteToken (accepted.resolve_right (bne_iff_ne.mp other))
    | setTeamId teamId => exact heard.flag changed
    | setBundleIdentifer bundleIdentifer => exact heard.flag changed
    | generatePushParams voipPushAllowed remotePushAllowed => cases changed

/-- Parameters that are generated after a change name the services that have a token. -/
theorem names_generatePushParams (heard : state.Heard) (changed : state.changed = true)
    (token : state.voip ≠ [] ∨ state.remote ≠ []) (voipPushAllowed remotePushAllowed : Bool) :
    Names (state.config.generatePushParams platform voipPushAllowed remotePushAllowed)
      (state.services voipPushAllowed remotePushAllowed) := by
  have renewed : (state.config.tokensHaveChanged && (!state.config.voipToken.isEmpty || !state.config.remoteToken.isEmpty)) = true := by
    rw [heard.flag changed, heard.last.voip, heard.last.remote]
    simpa [List.isEmpty_iff] using token
  unfold PushNotificationConfig.generatePushParams services
  dsimp only
  rw [renewed, Bool.or_true, Bool.or_true, if_pos rfl, if_pos rfl, heard.last.voip, heard.last.remote]
  constructor
  · cases voipPushAllowed && !state.voip.isEmpty <;> cases remotePushAllowed && !state.remote.isEmpty <;>
      simp [PushNotificationConfig.joinAllowed, List.intercalate]
  · cases voipPushAllowed && !state.voip.isEmpty <;> cases remotePushAllowed && !state.remote.isEmpty <;>
      simp [PushNotificationConfig.joinAllowed, List.intercalate]

/-- The getters always return the tokens that were last set, and generated parameters follow a
change, exactly when each remote token that is set is accepted. -/
theorem push_params_follow_tokens_iff (platform : PushPlatform) (start : PushNotificationConfig) (calls : List PushCall) :
    ((∀ before after, calls = before ++ after → (before.foldl (call platform) (ofConfig start)).ReturnsLast) ∧
      ∀ before voipPushAllowed remotePushAllowed after,
        calls = before ++ .generatePushParams voipPushAllowed remotePushAllowed :: after →
        let state := before.foldl (call platform) (ofConfig start)
        state.changed = true → state.voip ≠ [] ∨ state.remote ≠ [] →
        Names (state.call platform (.generatePushParams voipPushAllowed remotePushAllowed)).config
          (state.services voipPushAllowed remotePushAllowed)) ↔
      Guarded (call platform) Accepted (ofConfig start) calls := by
  have lastSet := @foldl_guarded_iff AuditedPushConfig PushCall (call platform) Accepted ReturnsLast
    (fun _ _ last => returnsLast_call_iff last) (ofConfig start) calls ⟨rfl, rfl⟩
  constructor
  · intro follows
    exact lastSet.mp follows.1
  · intro accepted
    have heard := (@foldl_guarded_iff AuditedPushConfig PushCall (call platform) Accepted Heard
      (fun _ _ heard => ⟨fun next => (returnsLast_call_iff heard.last).mp next.last, heard_call heard⟩) (ofConfig start) calls
      { last := ⟨rfl, rfl⟩, flag := nofun }).mpr accepted
    refine ⟨lastSet.mpr accepted, ?_⟩
    intro before voipPushAllowed remotePushAllowed after split state changed token
    exact names_generatePushParams (heard before _ split) changed token voipPushAllowed remotePushAllowed

/-- A remote token that is also the voip token is not kept. -/
theorem equal_tokens_lost : ¬([PushCall.setVoipToken "token".toList, .setRemoteToken "token".toList].foldl (call .other)
    (ofConfig {})).ReturnsLast := by
  intro last
  exact absurd last.remote (by decide)

end AuditedPushConfig

end Liblinphone
