import Std.Data.ExtTreeMap.Lemmas
import Liblinphone.StreamConfiguration

/-! A media line with all its configurations. Index 0 is the actual
configuration; potential configurations have the other indexes. The chosen
index moves when an offer/answer exchange settles on a configuration. -/

namespace Liblinphone

/-- The actual configuration has the lowest priority: subtracting one from its
index wraps around, so it comes last in the order of the map. -/
def salConfigurationCmp (lhs rhs : UInt32) : Ordering := compare (lhs - 1) (rhs - 1)

instance : Std.TransCmp salConfigurationCmp :=
  inferInstanceAs (Std.TransCmp (compareOn (fun index : UInt32 => index - 1)))

instance : Std.LawfulEqCmp salConfigurationCmp where
  compare_self := by
    intro index
    change compare (index - 1) (index - 1) = .eq
    exact Std.ReflCmp.compare_self
  eq_of_compare := by
    intro first second same
    have shifted : first - 1 = second - 1 := Std.LawfulEqCmp.eq_of_compare same
    exact (UInt32.sub_left_inj 1).mp shifted

abbrev CfgMap := Std.ExtTreeMap UInt32 SalStreamConfiguration salConfigurationCmp

abbrev UnparsedCfgMap := Std.ExtTreeMap UInt32 String compare

/-- Attribute capabilities, a name and a value each. -/
abbrev AcapMap := Std.ExtTreeMap UInt32 (String × String) compare

instance acapMapDecidableEq : DecidableEq AcapMap := inferInstance

abbrev TcapMap := Std.ExtTreeMap UInt32 String compare

structure SalIceCandidate where
  addr : String := ""
  raddr : String := ""
  foundation : String := ""
  type : String := ""
  componentID : Nat := 0
  priority : Nat := 0
  port : Int := 0
  rport : Int := 0
deriving Repr, DecidableEq

structure SalIceRemoteCandidate where
  addr : String := ""
  port : Int := 0
deriving Repr, DecidableEq

inductive SalMulticastRole where
  | inactive | sender | receiver | senderReceiver
deriving Repr, DecidableEq

structure SalStreamDescription where
  name : String := ""
  type : SalStreamType := .audio
  typeother : String := ""
  rtpAddr : String := ""
  rtcpAddr : String := ""
  rtpPort : Int := 0
  rtcpPort : Int := 0
  bandwidth : Int := 0
  multicastRole : SalMulticastRole := .inactive
  customSdpAttributes : List (String × String) := []
  cfgIndex : UInt32 := 0
  iceCandidates : List SalIceCandidate := []
  iceRemoteCandidates : List SalIceRemoteCandidate := []
  iceUfrag : String := ""
  icePwd : String := ""
  iceMismatch : Bool := false
  label : String := ""
  content : String := ""
  cfgs : CfgMap := ∅
  unparsedCfgs : UnparsedCfgMap := ∅
  supportedEncryption : List LinphoneMediaEncryption := []
  acaps : AcapMap := ∅
  tcaps : TcapMap := ∅
deriving DecidableEq

namespace SalStreamDescription

def actualConfigurationIndex : UInt32 := 0

/-- Reading an index that is not in the map gives the empty configuration. -/
def getConfigurationAtIndex (stream : SalStreamDescription) (index : UInt32) : SalStreamConfiguration :=
  stream.cfgs[index]?.getD {}

def getActualConfiguration (stream : SalStreamDescription) : SalStreamConfiguration :=
  stream.getConfigurationAtIndex actualConfigurationIndex

def getChosenConfiguration (stream : SalStreamDescription) : SalStreamConfiguration :=
  stream.getConfigurationAtIndex stream.cfgIndex

def addConfigurationAtIndex (stream : SalStreamDescription) (index : UInt32) (cfg : SalStreamConfiguration) :
    SalStreamDescription :=
  { stream with cfgs := stream.cfgs.insert index cfg }

def addActualConfiguration (stream : SalStreamDescription) (cfg : SalStreamConfiguration) : SalStreamDescription :=
  stream.addConfigurationAtIndex actualConfigurationIndex cfg

def getProto (stream : SalStreamDescription) : SalMediaProto := stream.getChosenConfiguration.proto

def getDirection (stream : SalStreamDescription) : SalStreamDir := stream.getChosenConfiguration.dir

def getMid (stream : SalStreamDescription) : String := stream.getChosenConfiguration.mid

def isBundleOnly (stream : SalStreamDescription) : Bool := stream.getChosenConfiguration.bundleOnly

/-- When the bundle-only attribute is present, a zero RTP port does not mean
that the stream is disabled. -/
def enabled (stream : SalStreamDescription) : Bool :=
  decide (stream.rtpPort > 0) || (stream.isBundleOnly && stream.getDirection != .inactive)

def disable (stream : SalStreamDescription) : SalStreamDescription :=
  { stream.addConfigurationAtIndex stream.cfgIndex stream.getChosenConfiguration.disable with rtpPort := 0 }

variable (stream : SalStreamDescription) (cfg : SalStreamConfiguration) (index other : UInt32)

theorem getConfigurationAtIndex_add :
    (stream.addConfigurationAtIndex index cfg).getConfigurationAtIndex other =
      if index = other then cfg else stream.getConfigurationAtIndex other := by
  simp only [getConfigurationAtIndex, addConfigurationAtIndex, Std.ExtTreeMap.getElem?_insert,
    Std.LawfulEqCmp.compare_eq_iff_eq]
  split <;> rfl

@[simp] theorem addConfigurationAtIndex_self :
    (stream.addConfigurationAtIndex index cfg).getConfigurationAtIndex index = cfg := by
  simp [getConfigurationAtIndex_add]

@[simp] theorem addActualConfiguration_actual :
    (stream.addActualConfiguration cfg).getActualConfiguration = cfg := by
  simp [addActualConfiguration, getActualConfiguration]

@[simp] theorem addConfigurationAtIndex_cfgIndex :
    (stream.addConfigurationAtIndex index cfg).cfgIndex = stream.cfgIndex := rfl

@[simp] theorem addConfigurationAtIndex_rtpPort :
    (stream.addConfigurationAtIndex index cfg).rtpPort = stream.rtpPort := rfl

@[simp] theorem addActualConfiguration_cfgIndex :
    (stream.addActualConfiguration cfg).cfgIndex = stream.cfgIndex := rfl

@[simp] theorem addActualConfiguration_rtpPort :
    (stream.addActualConfiguration cfg).rtpPort = stream.rtpPort := rfl

@[simp] theorem disable_cfgIndex : stream.disable.cfgIndex = stream.cfgIndex := rfl

@[simp] theorem disable_rtpPort : stream.disable.rtpPort = 0 := rfl

@[simp] theorem disable_chosen :
    stream.disable.getChosenConfiguration = stream.getChosenConfiguration.disable := by
  simp only [getChosenConfiguration, disable]
  exact addConfigurationAtIndex_self ..

@[simp] theorem disable_payloads :
    (stream.disable.getConfigurationAtIndex index).payloads = (stream.getConfigurationAtIndex index).payloads := by
  change ((stream.addConfigurationAtIndex _ _).getConfigurationAtIndex index).payloads = _
  rw [getConfigurationAtIndex_add]
  split
  next same => rw [← same]; rfl
  next => rfl

theorem disable_actual (fresh : stream.cfgIndex = actualConfigurationIndex) :
    stream.disable.getActualConfiguration = stream.getActualConfiguration.disable := by
  have chosen := stream.disable_chosen
  simpa only [getActualConfiguration, getChosenConfiguration, disable_cfgIndex, fresh] using chosen

theorem actual_of_fresh {stream : SalStreamDescription} (fresh : stream.cfgIndex = actualConfigurationIndex) :
    stream.getActualConfiguration = stream.getChosenConfiguration := by
  rw [getChosenConfiguration, fresh, getActualConfiguration]

theorem not_enabled {stream : SalStreamDescription} (port : stream.rtpPort = 0)
    (primary : stream.getChosenConfiguration.bundleOnly = false) : stream.enabled = false := by
  simp [enabled, isBundleOnly, port, primary]

@[simp] theorem disable_not_enabled : stream.disable.enabled = false := by
  simp [enabled, isBundleOnly, getDirection, SalStreamConfiguration.disable]

end SalStreamDescription
end Liblinphone
