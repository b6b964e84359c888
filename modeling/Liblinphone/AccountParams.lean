import Liblinphone.Address
import Liblinphone.NatPolicy

/-! The parameters of an account and their section of the configuration. They are
written as a list of keys with their values, into a section that was cleaned. They are
read key by key, over the parameters that a new account has. -/

namespace Liblinphone

open Library

/-- How the SIP stack reads and writes addresses. -/
structure AddressFormat where
  create : Text → Option Address
  toString : Address → Text
  asStringUriOnly : Address → Text

theorem CustomParams.distinct_nil : DistinctKeys Prod.fst ([] : List (Text × Text)) := List.nodup_nil

/-- The parameters that the library only stores. Each key has one value. -/
structure CustomParams where
  params : List (Text × Text) := []
  distinct : DistinctKeys Prod.fst params := by first | exact CustomParams.distinct_nil | decide
deriving Repr, DecidableEq

namespace CustomParams

def paramPrefix : Text := "x-custom-property:".toList

def addCustomParam (custom : CustomParams) (key value : Text) : CustomParams :=
  match found : findKey Prod.fst key custom.params with
  | some _ =>
    ⟨updateFirst (fun entry => decide (entry.1 = key)) (fun entry => (entry.1, value)) custom.params,
      custom.distinct.updateFirst fun _ named => named⟩
  | none => ⟨custom.params ++ [(key, value)], custom.distinct.append found⟩

def getCustomParam (custom : CustomParams) (key : Text) : Text := ((findKey Prod.fst key custom.params).map Prod.snd).getD []

def customEntries (custom : CustomParams) : List ConfigEntry :=
  custom.params.map fun entry => (paramPrefix ++ entry.1, some entry.2)

def readCustomParam (config : LpConfig) (sec : Text) (custom : CustomParams) (name : Text) : CustomParams :=
  match afterFirst paramPrefix name with
  | some prunedKey => custom.addCustomParam prunedKey (config.getString sec name [])
  | none => custom

def readCustomParamsFromConfigFile (custom : CustomParams) (config : LpConfig) (sec : Text) : CustomParams :=
  (config.getKeysNamesList sec).foldl (readCustomParam config sec) custom

end CustomParams

inductive AvpfMode where
  | default
  | disabled
  | enabled
deriving Repr, DecidableEq

namespace AvpfMode

def toInt : AvpfMode → Int
  | default => -1
  | disabled => 0
  | enabled => 1

/-- The modes are the only numbers that are cast to a mode. -/
def ofInt (value : Int) : AvpfMode :=
  if value = 0 then disabled else if value = 1 then enabled else default

end AvpfMode

/-- The parameters, with the values that a new account has without the default ones of
the configuration. -/
@[ext] structure AccountParams where
  expires : BitVec 32 := 3600
  qualityReportingInterval : BitVec 32 := 0
  publishExpires : BitVec 32 := 600
  avpfRrInterval : BitVec 8 := 5
  registerEnabled : Bool := true
  dialEscapePlusEnabled : Bool := false
  qualityReportingEnabled : Bool := false
  publishEnabled : Bool := false
  pushNotificationAllowed : Bool := false
  remotePushNotificationAllowed : Bool := false
  forceRegisterOnPush : Bool := false
  unregisterAtStop : Bool := true
  useInternationalPrefixForCallsAndChats : Bool := true
  rtpBundleEnabled : Bool := false
  rtpBundleAssumption : Bool := false
  allowCpimMessagesInBasicChatRooms : Bool := false
  instantMessagingEncryptionMandatory : Bool := false
  internationalPrefix : Text := []
  internationalPrefixIsoCountryCode : Text := []
  proxy : Text := []
  realm : Text := []
  qualityReportingCollector : Text := []
  contactParameters : Text := []
  contactUriParameters : Text := []
  refKey : Text := []
  dependsOn : Text := []
  idKey : Text := []
  limeServerUrl : Text := []
  limeAlgo : Text := []
  identity : Text := []
  pictureUri : Text := []
  ccmpServerUrl : Text := []
  routes : List Address := []
  privacy : BitVec 32 := 0x8000
  identityAddress : Option Address := none
  proxyAddress : Option Address := none
  avpfMode : AvpfMode := .default
  natPolicy : Option NatPolicy := none
  conferenceFactoryAddress : Option Address := none
  audioVideoConferenceFactoryAddress : Option Address := none
  customContact : Option Address := none
  mwiServerAddress : Option Address := none
  voicemailAddress : Option Address := none
  supportedTagsList : List Text := []
  useSupportedTags : Bool := false
  customParams : CustomParams := {}
deriving Repr, DecidableEq

/-- What an account takes from its core. -/
structure AccountCore where
  supportedTags : Text
  rtpBundleEnabled : Bool
  pushAllowedDefault : Bool := false

def accountSection (index : Int) : Text := "proxy_".toList ++ integerText index

def generateAccountId (token : Text) : Text := "proxy_config_".toList ++ token

namespace AccountParams

section Writing

variable (format : AddressFormat)

/-- A value that is only written when there is one. -/
def unlessEmpty (value : Text) : Option Text := if value.isEmpty then none else some value

def uriValue (address : Option Address) : Option Text := address.map format.asStringUriOnly

def intValue (value : Int) : Option Text := some (integerText value)

def boolValue (value : Bool) : Option Text := intValue (if value then 1 else 0)

/-- The tags are separated where a tag is not the first one. -/
def tagsText (tags : List Text) : Text :=
  tags.flatMap fun tag => if some tag ≠ tags.head? then ", ".toList ++ tag else tag

/-- The entries before the custom parameters. A list without routes removes its entry,
as an empty value does. -/
def firstEntries (params : AccountParams) (pushAsString : Bool → Text) : List ConfigEntry := [
  ("reg_proxy".toList, unlessEmpty params.proxy),
  ("reg_route".toList, some ([','].intercalate (params.routes.map format.toString))),
  ("reg_identity".toList, unlessEmpty params.identity),
  ("realm".toList, unlessEmpty params.realm),
  ("contact_parameters".toList, unlessEmpty params.contactParameters),
  ("contact_uri_parameters".toList, unlessEmpty params.contactUriParameters),
  ("quality_reporting_collector".toList, unlessEmpty params.qualityReportingCollector),
  ("push_parameters".toList, some (if params.pushNotificationAllowed || params.remotePushNotificationAllowed then
    pushAsString params.remotePushNotificationAllowed else [])),
  ("quality_reporting_enabled".toList, boolValue params.qualityReportingEnabled),
  ("quality_reporting_interval".toList, intValue params.qualityReportingInterval.toInt),
  ("reg_expires".toList, intValue params.expires.toInt),
  ("reg_sendregister".toList, boolValue params.registerEnabled),
  ("publish".toList, boolValue params.publishEnabled),
  ("avpf".toList, intValue params.avpfMode.toInt),
  ("avpf_rr_interval".toList, intValue params.avpfRrInterval.toNat),
  ("dial_escape_plus".toList, boolValue params.dialEscapePlusEnabled),
  ("dial_prefix".toList, some params.internationalPrefix),
  ("dial_prefix_iso_country_code".toList, some params.internationalPrefixIsoCountryCode),
  ("use_dial_prefix_for_calls_and_chats".toList, boolValue params.useInternationalPrefixForCallsAndChats),
  ("privacy".toList, intValue params.privacy.toInt),
  ("push_notification_allowed".toList, boolValue params.pushNotificationAllowed),
  ("remote_push_notification_allowed".toList, boolValue params.remotePushNotificationAllowed),
  ("force_register_on_push".toList, boolValue params.forceRegisterOnPush),
  ("unregister_at_stop".toList, boolValue params.unregisterAtStop),
  ("cpim_in_basic_chat_rooms_enabled".toList, boolValue params.allowCpimMessagesInBasicChatRooms),
  ("refkey".toList, unlessEmpty params.refKey),
  ("depends_on".toList, unlessEmpty params.dependsOn),
  ("idkey".toList, unlessEmpty params.idKey),
  ("publish_expires".toList, intValue params.publishExpires.toInt),
  ("nat_policy_ref".toList, params.natPolicy.map NatPolicy.ref),
  ("conference_factory_uri".toList, uriValue format params.conferenceFactoryAddress),
  ("audio_video_conference_factory_uri".toList, uriValue format params.audioVideoConferenceFactoryAddress),
  ("ccmp_server_url".toList, unlessEmpty params.ccmpServerUrl),
  ("rtp_bundle".toList, boolValue params.rtpBundleEnabled),
  ("rtp_bundle_assumption".toList, boolValue params.rtpBundleAssumption)]

def lastEntries (params : AccountParams) : List ConfigEntry := [
  ("lime_server_url".toList, some params.limeServerUrl),
  ("lime_algo".toList, some params.limeAlgo),
  ("picture_uri".toList, some params.pictureUri),
  ("mwi_server_uri".toList, uriValue format params.mwiServerAddress),
  ("voicemail_uri".toList, uriValue format params.voicemailAddress),
  ("im_encryption_mandatory".toList, boolValue params.instantMessagingEncryptionMandatory),
  ("supported".toList, if params.useSupportedTags then some (tagsText params.supportedTagsList) else none)]

def entries (params : AccountParams) (pushAsString : Bool → Text) : List ConfigEntry :=
  params.firstEntries format pushAsString ++ params.customParams.customEntries ++ params.lastEntries format

def writeToConfigFile (params : AccountParams) (pushAsString : Bool → Text) (config : LpConfig) (index : Int) : LpConfig :=
  (params.entries format pushAsString).foldl (LpConfig.writeEntry (accountSection index))
    (config.cleanSection (accountSection index))

end Writing

section Reading

variable (format : AddressFormat)

def setIdentityAddress (params : AccountParams) (address : Option Address) : AccountParams :=
  match address with
  | some address =>
    if (address.username.getD "").isEmpty then params
    else { params with identityAddress := some address, identity := format.toString address }
  | none => params

def getOutboundProxyEnabled (params : AccountParams) : Bool :=
  match params.routes.head?, params.proxyAddress with
  | some route, some proxy => proxy.weakEqual route
  | _, _ => false

/-- The server is the only route once it is the first one. -/
def setServer (params : AccountParams) (server : Address) : AccountParams :=
  { params with
    proxyAddress := some server
    proxy := format.toString server
    routes := if params.getOutboundProxyEnabled then [server] else params.routes }

def setServerAddressAsString (params : AccountParams) (serverAddr : Text) : AccountParams :=
  if serverAddr.isEmpty then params
  else
    let prefixed := if hasScheme serverAddr then none else format.create ("sip:".toList ++ serverAddr)
    match prefixed.or (format.create serverAddr) with
    | some server => params.setServer format server
    | none => params

def setRoutesFromStringList (params : AccountParams) (routes : List Text) : AccountParams :=
  { params with routes := routes.filterMap fun route =>
      if route.isEmpty then none
      else format.create (if hasScheme route then route else "sip:".toList ++ route) }

def splitTags (text : Text) : List Text := (text.splitOn ',').map trimText

/-- A new account of a core. The default values of the configuration are not used. -/
def ofCore (core : AccountCore) (token : Text) : AccountParams where
  identityAddress := format.create []
  proxyAddress := format.create []
  pushNotificationAllowed := core.pushAllowedDefault
  idKey := generateAccountId token
  supportedTagsList := splitTags core.supportedTags

def readUri (config : LpConfig) (sec key : Text) : Option Address :=
  let text := config.getString sec key []
  if text.isEmpty then none else format.create text

/-- The policy is read from the section of its name, if there is one, and else from the
section that has its reference. -/
def readNatPolicy (config : LpConfig) (sec token : Text) : Option NatPolicy :=
  (config.value? sec "nat_policy_ref".toList).map fun ref =>
    if config.hasSection ref then NatPolicy.initFromSection { ref := token } config ref
    else NatPolicy.fromRefName config ref token

def readAddresses (base : AccountParams) (config : LpConfig) (sec : Text) : AccountParams :=
  let identity := config.getString sec "reg_identity".toList base.identity
  let params := setIdentityAddress format { base with identity } (format.create identity)
  let params := params.setServerAddressAsString format (config.getString sec "reg_proxy".toList params.proxy)
  (config.getStringList sec "reg_route".toList).elim params (params.setRoutesFromStringList format)

/-- The constructor that reads a section. The tokens are drawn for the identifier of a
new account, for the one of an account without identifier, and for the policy. The
push parameters are left out. -/
def fromConfig (core : AccountCore) (token : Nat → Text) (config : LpConfig) (index : Int) : AccountParams :=
  let sec := accountSection index
  let base := ofCore format core (token 0)
  let readFlag (key : Text) (value : Bool) : Bool := decide (config.getInt sec key (if value then 1 else 0) ≠ 0)
  let refKey := config.getString sec "refkey".toList base.refKey
  let idKey := config.getString sec "idkey".toList refKey
  let supported := config.getString sec "supported".toList "empty".toList
  { readAddresses format base config sec with
    realm := config.getString sec "realm".toList base.realm
    qualityReportingEnabled := readFlag "quality_reporting_enabled".toList base.qualityReportingEnabled
    qualityReportingCollector := config.getString sec "quality_reporting_collector".toList base.qualityReportingCollector
    qualityReportingInterval :=
      .ofInt 32 (config.getInt sec "quality_reporting_interval".toList base.qualityReportingInterval.toInt)
    contactParameters := config.getString sec "contact_parameters".toList base.contactParameters
    contactUriParameters := config.getString sec "contact_uri_parameters".toList base.contactUriParameters
    expires := .ofInt 32 (config.getInt sec "reg_expires".toList base.expires.toInt)
    registerEnabled := readFlag "reg_sendregister".toList base.registerEnabled
    publishEnabled := readFlag "publish".toList base.publishEnabled
    pushNotificationAllowed := readFlag "push_notification_allowed".toList base.pushNotificationAllowed
    remotePushNotificationAllowed :=
      readFlag "remote_push_notification_allowed".toList base.remotePushNotificationAllowed
    forceRegisterOnPush := readFlag "force_register_on_push".toList base.forceRegisterOnPush
    unregisterAtStop := readFlag "unregister_at_stop".toList base.unregisterAtStop
    avpfMode := .ofInt (config.getInt sec "avpf".toList base.avpfMode.toInt)
    avpfRrInterval := .ofInt 8 (config.getInt sec "avpf_rr_interval".toList base.avpfRrInterval.toNat)
    dialEscapePlusEnabled := readFlag "dial_escape_plus".toList base.dialEscapePlusEnabled
    internationalPrefix := config.getString sec "dial_prefix".toList base.internationalPrefix
    internationalPrefixIsoCountryCode :=
      config.getString sec "dial_prefix_iso_country_code".toList base.internationalPrefixIsoCountryCode
    useInternationalPrefixForCallsAndChats :=
      readFlag "use_dial_prefix_for_calls_and_chats".toList base.useInternationalPrefixForCallsAndChats
    allowCpimMessagesInBasicChatRooms :=
      readFlag "cpim_in_basic_chat_rooms_enabled".toList base.allowCpimMessagesInBasicChatRooms
    privacy := .ofInt 32 (config.getInt sec "privacy".toList base.privacy.toInt)
    refKey
    idKey := if idKey.isEmpty then generateAccountId (token 1) else idKey
    dependsOn := config.getString sec "depends_on".toList base.dependsOn
    publishExpires := .ofInt 32 (config.getInt sec "publish_expires".toList base.publishExpires.toInt)
    natPolicy := readNatPolicy config sec (token 2)
    conferenceFactoryAddress := readUri format config sec "conference_factory_uri".toList
    audioVideoConferenceFactoryAddress := readUri format config sec "audio_video_conference_factory_uri".toList
    ccmpServerUrl := config.getString sec "ccmp_server_url".toList []
    rtpBundleEnabled := config.getBool sec "rtp_bundle".toList core.rtpBundleEnabled
    rtpBundleAssumption := config.getBool sec "rtp_bundle_assumption".toList false
    customContact := readUri format config sec "custom_contact".toList
    limeServerUrl := config.getString sec "lime_server_url".toList base.limeServerUrl
    limeAlgo := config.getString sec "lime_algo".toList base.limeAlgo
    pictureUri := config.getString sec "picture_uri".toList base.pictureUri
    mwiServerAddress := readUri format config sec "mwi_server_uri".toList
    voicemailAddress := readUri format config sec "voicemail_uri".toList
    instantMessagingEncryptionMandatory := config.getBool sec "im_encryption_mandatory".toList false
    supportedTagsList := if supported = "empty".toList then base.supportedTagsList else splitTags supported
    useSupportedTags := if supported = "empty".toList then base.useSupportedTags else true
    customParams := base.customParams.readCustomParamsFromConfigFile config sec }

end Reading

end AccountParams

end Liblinphone
