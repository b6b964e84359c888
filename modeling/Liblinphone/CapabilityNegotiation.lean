import Liblinphone.MediaNegotiation
import Liblinphone.Text
import Mathlib.Algebra.Order.Ring.Int

/-! Capability negotiation in SDP. A stream writes each of its potential
configurations as a pcfg line, and names the one that it answers in an acfg line.
The lines that a reader cannot resolve are kept as they are. -/

namespace Liblinphone

def indexText (idx : UInt32) : Text := numberText idx.toNat

/-- The indexes of one set of attribute capabilities. Zero is no index. -/
def acapSetString (acapSet : List UInt32) : Text :=
  acapSet.foldl (fun text acapIdx =>
    let separated := if some acapIdx != acapSet.head? then text ++ [','] else text
    if acapIdx != 0 then separated ++ indexText acapIdx else separated) []

namespace SalStreamConfiguration

def acapString (cfg : SalStreamConfiguration) : Text :=
  cfg.acapIndexes.foldl (fun text acapSet =>
    (if text.isEmpty then text else text ++ ['|']) ++ acapSetString acapSet) []

def tcapString (cfg : SalStreamConfiguration) : Text :=
  if cfg.tcapIndex != 0 then indexText cfg.tcapIndex else []

def deleteAttrs (cfg : SalStreamConfiguration) : Text :=
  if cfg.deleteMediaAttributes && cfg.deleteSessionAttributes then ['-', 'm', 's']
  else if cfg.deleteSessionAttributes then ['-', 's']
  else if cfg.deleteMediaAttributes then ['-', 'm']
  else []

def getSdpString (cfg : SalStreamConfiguration) : Text :=
  let sdpString :=
    if !cfg.deleteAttrs.isEmpty && !cfg.acapString.isEmpty then
      ['a', '='] ++ cfg.deleteAttrs ++ [':'] ++ cfg.acapString
    else if !cfg.deleteAttrs.isEmpty then ['a', '='] ++ cfg.deleteAttrs
    else if !cfg.acapString.isEmpty then ['a', '='] ++ cfg.acapString
    else []
  if cfg.tcapString.isEmpty then sdpString
  else (if sdpString.isEmpty then sdpString else sdpString ++ [' ']) ++ ['t', '='] ++ cfg.tcapString

/-- Sets of capabilities that are not there yet are added. -/
def mergeAcaps (cfg : SalStreamConfiguration) (acaps : List (List UInt32)) : SalStreamConfiguration :=
  { cfg with
    acapIndexes := acaps.foldl (fun merged newIdxs =>
      if merged.contains newIdxs then merged else merged ++ [newIdxs]) cfg.acapIndexes }

end SalStreamConfiguration

inductive SdpAttributeName where
  | acfg | pcfg | other
deriving Repr, DecidableEq

structure SdpAttribute where
  name : SdpAttributeName
  value : Text
deriving Repr, DecidableEq

namespace SalStreamDescription

/-- The lines that `toSdpMediaDescription` writes for the configurations. The actual
configuration is written when it refers to a potential one. -/
def cfgAttributes (stream : SalStreamDescription) : List SdpAttribute :=
  stream.cfgs.toList.flatMap fun entry =>
    let cfgKey := entry.1
    let cfg := entry.2
    if cfg.getSdpString.isEmpty then []
    else if cfgKey != actualConfigurationIndex then
      [{ name := .pcfg, value := indexText cfg.index ++ [' '] ++ cfg.getSdpString }]
    else if cfg.index != actualConfigurationIndex then
      [{ name := .acfg, value := indexText cfg.index ++ [' '] ++ cfg.getSdpString }]
    else []

/-- A configuration is inserted unless a potential one is the same. One that has its
index takes its capabilities when it has its transport protocol. -/
def insertOrMergeConfiguration (stream : SalStreamDescription) (idx : UInt32) (cfg : SalStreamConfiguration) :
    SalStreamDescription :=
  if stream.cfgs.toList.any fun current => current.1 != actualConfigurationIndex && current.2.unchanged cfg then stream
  else
    match stream.cfgs[idx]? with
    | none => stream.addConfigurationAtIndex idx cfg
    | some existing =>
      if existing.tcapIndex == cfg.tcapIndex then
        stream.addConfigurationAtIndex idx (existing.mergeAcaps cfg.acapIndexes)
      else stream

end SalStreamDescription

structure SdpCapability where
  index : UInt32
  name : String := ""
  value : String
deriving Repr, DecidableEq

/-- A capability that a configuration refers to. -/
structure ConfigCapability where
  mandatory : Bool
  cap : SdpCapability
deriving Repr, DecidableEq

structure ConfigAttribute where
  acap : List (List ConfigCapability) := []
  tcap : List ConfigCapability := []
  deleteMediaAttributes : Bool := false
  deleteSessionAttributes : Bool := false
deriving Repr, DecidableEq

/-- What the SIP library makes of the value of an acfg or a pcfg attribute. -/
structure CfgAttributeParser where
  getId : Text → UInt32
  getConfigs : Text → List Text
  toText : Text → String

/-- How the conversion of an index fails. A text without digits makes the source read
a match that is not there. -/
inductive IndexError where
  | noDigits | outOfRange
deriving Repr, DecidableEq

namespace PotentialCfgGraph

/-- The first number of a text, by `std::stoi`. -/
def getElementIdx (index : Text) : Except IndexError UInt32 :=
  let digits := (index.dropWhile fun char => !char.isDigit).takeWhile Char.isDigit
  if digits.isEmpty then .error .noDigits
  else if textNumber digits < 2 ^ 31 then .ok (UInt32.ofNat (textNumber digits))
  else .error .outOfRange

/-- What the sets of a list have given so far: the capabilities, whether the next one
is mandatory, and whether all of them were available. -/
structure CapState (β : Type) where
  caps : List β := []
  mandatory : Bool := true
  success : Bool := true

/-- The capabilities of one set. A set of which one is not available is dropped. -/
def parseCaps (availableCaps : List SdpCapability) (state : CapState ConfigCapability) :
    List Text → Except IndexError (CapState ConfigCapability)
  | [] => .ok state
  | index :: rest => do
    let mandatory := state.mandatory && !index.contains '['
    let idx ← getElementIdx index
    match availableCaps.find? fun cap => cap.index == idx with
    | none => return { caps := [], mandatory, success := false }
    | some cap =>
      parseCaps availableCaps
        { state with caps := state.caps ++ [⟨mandatory, cap⟩], mandatory := mandatory || index.contains ']' } rest

def parseSets (availableCaps : List SdpCapability) (state : CapState (List ConfigCapability)) :
    List Text → Except IndexError (CapState (List ConfigCapability))
  | [] => .ok state
  | config :: rest => do
    let parsed ← parseCaps availableCaps { mandatory := state.mandatory } (config.splitOn ',')
    parseSets availableCaps
      { caps := if parsed.caps.isEmpty then state.caps else state.caps ++ [parsed.caps]
        mandatory := parsed.mandatory
        success := state.success && parsed.success } rest

/-- The sets of capabilities that a list of alternatives names, and whether all of
them are available. -/
def parseIdxList (availableCaps : List SdpCapability) (idxList : Text) :
    Except IndexError (List (List ConfigCapability) × Bool) := do
  let parsed ← parseSets availableCaps {} (idxList.splitOn '|')
  return (parsed.caps, parsed.success)

/-- What the lists of one line have given so far. -/
structure ConfigState where
  acapCfgList : List (List ConfigCapability) := []
  tcapCfgList : List ConfigCapability := []
  processingError : Bool := false
  deleteMediaAttributes : Bool := false
  deleteSessionAttributes : Bool := false

/-- One list of a line. The first one of each kind counts. -/
def processCfg (mediaAcap mediaTcap : List SdpCapability) (state : ConfigState) (bodySplit : List Text) :
    Except IndexError ConfigState := do
  let deleteAttrSplit := (bodySplit.getLastD []).splitOn ':'
  let idxList := deleteAttrSplit.getLastD []
  if bodySplit.headD [] == ['a'] then
    if state.acapCfgList.isEmpty then
      let parsed ← parseIdxList mediaAcap idxList
      return { state with
        acapCfgList := parsed.1
        processingError := state.processingError || (!parsed.2 && parsed.1.isEmpty)
        deleteMediaAttributes := (deleteAttrSplit.headD []).contains 'm'
        deleteSessionAttributes := (deleteAttrSplit.headD []).contains 's' }
    else return state
  else if bodySplit.headD [] == ['t'] then
    if state.tcapCfgList.isEmpty then
      let parsed ← parseIdxList mediaTcap idxList
      return { state with
        tcapCfgList := parsed.1.flatMap fun caps => if caps.length > 1 then [] else caps.take 1
        processingError := state.processingError || (!parsed.2 && parsed.1.isEmpty) }
    else return state
  else return state

/-- A list that is not an assignment ends the reading of the line, with nothing. -/
def processCfgs (mediaAcap mediaTcap : List SdpCapability) (state : ConfigState) :
    List Text → Except IndexError (Option ConfigState)
  | [] => .ok (some state)
  | cfg :: rest => do
    let bodySplit := cfg.splitOn '='
    if bodySplit.length < 2 then return none
    else processCfgs mediaAcap mediaTcap (← processCfg mediaAcap mediaTcap state bodySplit) rest

def ConfigState.attribute (state : ConfigState) : ConfigAttribute :=
  if state.processingError || (state.tcapCfgList.isEmpty && state.acapCfgList.isEmpty) then {}
  else
    { acap := state.acapCfgList
      tcap := state.tcapCfgList
      deleteMediaAttributes := state.deleteMediaAttributes
      deleteSessionAttributes := state.deleteSessionAttributes }

def processConfig (mediaAcap mediaTcap : List SdpCapability) (configList : List Text) :
    Except IndexError ConfigAttribute := do
  let processed ← processCfgs mediaAcap mediaTcap {} configList
  return processed.elim {} ConfigState.attribute

/-- The lines of one kind that no configuration can be built from. -/
def unparsedLines (parser : CfgAttributeParser) (mediaAcap mediaTcap : List SdpCapability) (unparsed : UnparsedCfgMap) :
    List SdpAttribute → Except IndexError UnparsedCfgMap
  | [] => .ok unparsed
  | line :: rest => do
    let cfg ← processConfig mediaAcap mediaTcap (parser.getConfigs line.value)
    unparsedLines parser mediaAcap mediaTcap
      (if cfg.acap.isEmpty && cfg.tcap.isEmpty then unparsed.insert (parser.getId line.value) (parser.toText line.value)
      else unparsed) rest

/-- The unparsed lines that were kept before stay. -/
def processMediaCfg (parser : CfgAttributeParser) (attrName : SdpAttributeName) (mediaAcap mediaTcap : List SdpCapability)
    (attributes : List SdpAttribute) (unparsedCfgs : UnparsedCfgMap) : Except IndexError UnparsedCfgMap := do
  let unparsed ← unparsedLines parser mediaAcap mediaTcap ∅ (attributes.filter fun line => line.name == attrName)
  return unparsedCfgs.toList.foldl (fun (kept : UnparsedCfgMap) entry => kept.insert entry.1 entry.2) unparsed

/-- The acfg lines of a media description are read before its pcfg lines. -/
def processMediaDescription (acfgParser pcfgParser : CfgAttributeParser) (mediaAcap mediaTcap : List SdpCapability)
    (attributes : List SdpAttribute) : Except IndexError UnparsedCfgMap := do
  let unparsedCfgs ← processMediaCfg acfgParser .acfg mediaAcap mediaTcap attributes ∅
  processMediaCfg pcfgParser .pcfg mediaAcap mediaTcap attributes unparsedCfgs

end PotentialCfgGraph

end Liblinphone
