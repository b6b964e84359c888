import Liblinphone.ConfigValues

/-! NAT policies and their sections of the configuration. The policies of a core are
saved one after the other, each in the section of its index, and found again by their
reference. -/

namespace Liblinphone

structure NatPolicy where
  ref : Text := []
  stunServer : Text := []
  stunServerUsername : Text := []
  turnConfigurationEndpoint : Text := []
  stunEnabled : Bool := false
  turnEnabled : Bool := false
  iceEnabled : Bool := false
  upnpEnabled : Bool := false
  turnUdpEnabled : Bool := false
  turnTcpEnabled : Bool := false
  turnTlsEnabled : Bool := false
deriving Repr, DecidableEq

def natPolicyPrefix : Text := "nat_policy_".toList

def natPolicySection (index : Nat) : Text := natPolicyPrefix ++ numberText index

namespace NatPolicy

/-- The copy constructor. A copy without a reference gets the given one. -/
def clone (policy : NatPolicy) (token : Text) : NatPolicy where
  stunServer := policy.stunServer
  stunServerUsername := policy.stunServerUsername
  ref := if policy.ref.isEmpty then token else policy.ref
  stunEnabled := policy.stunEnabled
  turnEnabled := policy.turnEnabled
  iceEnabled := policy.iceEnabled
  upnpEnabled := policy.upnpEnabled
  turnConfigurationEndpoint := policy.turnConfigurationEndpoint
  turnUdpEnabled := policy.turnUdpEnabled
  turnTcpEnabled := false
  turnTlsEnabled := false

def protocols (policy : NatPolicy) : List Text :=
  if policy.upnpEnabled then ["upnp".toList]
  else
    (if policy.stunEnabled then ["stun".toList] else []) ++ (if policy.turnEnabled then ["turn".toList] else []) ++
      (if policy.iceEnabled then ["ice".toList] else [])

def saveToConfig (policy : NatPolicy) (config : LpConfig) (index : Nat) : LpConfig :=
  let sec := natPolicySection index
  let config := config.setString sec "ref".toList policy.ref
  let config := config.setString sec "stun_server".toList policy.stunServer
  let config := config.setString sec "stun_server_username".toList policy.stunServerUsername
  config.setStringList sec "protocols".toList policy.protocols

/-- What a value of the list of protocols enables. -/
def enableProtocol (policy : NatPolicy) (value : Text) : NatPolicy :=
  if value = "stun".toList then { policy with stunEnabled := true }
  else if value = "turn".toList then { policy with turnEnabled := true }
  else if value = "ice".toList then { policy with iceEnabled := true }
  else if value = "upnp".toList then { policy with upnpEnabled := true }
  else policy

def initFromSection (policy : NatPolicy) (config : LpConfig) (sec : Text) : NatPolicy :=
  let policy := { policy with
    ref := config.getString sec "ref".toList policy.ref
    stunServer := config.getString sec "stun_server".toList []
    stunServerUsername := config.getString sec "stun_server_username".toList []
    turnUdpEnabled := config.getBool sec "turn_enable_udp".toList true
    turnTcpEnabled := config.getBool sec "turn_enable_tcp".toList false
    turnTlsEnabled := config.getBool sec "turn_enable_tls".toList false }
  ((config.getStringList sec "protocols".toList).getD []).foldl enableProtocol policy

/-- The search for a reference, section after section. It ends at the first index that
has no section. -/
def searchRef (policy : NatPolicy) (config : LpConfig) (ref : Text) : Nat → Nat → NatPolicy
  | 0, _ => policy
  | fuel + 1, index =>
    if config.hasSection (natPolicySection index) then
      if config.value? (natPolicySection index) "ref".toList = some ref then
        policy.initFromSection config (natPolicySection index)
      else searchRef policy config ref fuel (index + 1)
    else policy

/-- A policy made from a reference. The token is the reference it has when there is no
such section. -/
def fromRefName (config : LpConfig) (ref token : Text) : NatPolicy :=
  searchRef { ref := token } config ref (config.sections.length + 1) 0

/-- Sections are cleaned up to the first index that has none. -/
def clearSections : Nat → LpConfig → Nat → LpConfig
  | 0, config, _ => config
  | fuel + 1, config, index =>
    if config.hasSection (natPolicySection index) then
      clearSections fuel (config.cleanSection (natPolicySection index)) (index + 1)
    else config

def clearConfigFromIndex (config : LpConfig) (index : Nat) : LpConfig :=
  clearSections (config.sections.length + 1) config index

/-- The policies are saved at consecutive indexes. -/
def saveAll (config : LpConfig) : Nat → List NatPolicy → LpConfig
  | _, [] => config
  | index, policy :: rest => saveAll (policy.saveToConfig config index) (index + 1) rest

/-- The policies of the core and of its accounts are saved, and the sections of earlier
ones behind them are cleaned. -/
def writeNatPolicyConfigurations (config : LpConfig) (policies : List NatPolicy) : LpConfig :=
  clearConfigFromIndex (saveAll config 0 policies) policies.length

end NatPolicy

end Liblinphone
