import Liblinphone.StreamConfiguration

/-! RTCP feedback in SDP. An attribute is about one payload number, or about all
payloads with the number -1. It sets features of a payload or flags of the stream. -/

namespace Liblinphone

/-- The types of rtcp-fb attributes that are written and read. -/
inductive RtcpFbType where
  | ack | nack | trrInt | ccm | googRemb | other
deriving Repr, DecidableEq

inductive RtcpFbParam where
  | none | pli | sli | rpsi | app | fir | tmmbr
deriving Repr, DecidableEq

structure RtcpFbAttribute where
  id : Int8
  type : RtcpFbType
  param : RtcpFbParam := .none
  trrInt : UInt16 := 0
deriving Repr, DecidableEq

namespace PayloadTypeAvpfParams

def fir : UInt8 := 1
def pli : UInt8 := 2
def rpsi : UInt8 := 4
def sli : UInt8 := 8

def has (params : PayloadTypeAvpfParams) (feature : UInt8) : Bool := params.features &&& feature != 0

def add (params : PayloadTypeAvpfParams) (feature : UInt8) : PayloadTypeAvpfParams :=
  { params with features := params.features ||| feature }

/-- The part of `applyRtcpFbAttributeToPayload` that is about the payload. -/
def applyRtcpFb (params : PayloadTypeAvpfParams) (fbAttribute : RtcpFbAttribute) : PayloadTypeAvpfParams :=
  match fbAttribute.type, fbAttribute.param with
  | .ack, .rpsi => params.add rpsi
  | .nack, .pli => params.add pli
  | .nack, .sli => params.add sli
  | .nack, .rpsi => { params.add rpsi with rpsiCompatibility := true }
  | .trrInt, _ => { params with trrInterval := fbAttribute.trrInt }
  | .ccm, .fir => params.add fir
  | _, _ => params

end PayloadTypeAvpfParams

/-- The part of `applyRtcpFbAttributeToPayload` that is about the stream. -/
def OrtpRtcpFbConfiguration.applyRtcpFb (rtcpFb : OrtpRtcpFbConfiguration) (fbAttribute : RtcpFbAttribute) :
    OrtpRtcpFbConfiguration :=
  match fbAttribute.type, fbAttribute.param with
  | .nack, .none => { rtcpFb with genericNackEnabled := true }
  | .ccm, .tmmbr => { rtcpFb with tmmbrEnabled := true }
  | .googRemb, _ => { rtcpFb with googRembEnabled := true }
  | _, _ => rtcpFb

namespace SalStreamConfiguration

def applyRtcpFbAttributeToPayload (rtcpFb : OrtpRtcpFbConfiguration) (fbAttribute : RtcpFbAttribute) (pt : PayloadType) :
    OrtpRtcpFbConfiguration × PayloadType :=
  (rtcpFb.applyRtcpFb fbAttribute, { pt with avpf := pt.avpf.applyRtcpFb fbAttribute })

/-- One attribute, for those of the payloads that it is about. -/
def applyToPayloads (about : PayloadType → Bool) (fbAttribute : RtcpFbAttribute) (rtcpFb : OrtpRtcpFbConfiguration) :
    List PayloadType → OrtpRtcpFbConfiguration × List PayloadType
  | [] => (rtcpFb, [])
  | pt :: rest =>
    if about pt then
      let applied := applyRtcpFbAttributeToPayload rtcpFb fbAttribute pt
      let others := applyToPayloads about fbAttribute applied.1 rest
      (others.1, applied.2 :: others.2)
    else
      let others := applyToPayloads about fbAttribute rtcpFb rest
      (others.1, pt :: others.2)

variable (cfg : SalStreamConfiguration)

def applyRtcpFb (about : RtcpFbAttribute → PayloadType → Bool) (fbAttribute : RtcpFbAttribute) : SalStreamConfiguration :=
  let applied := applyToPayloads (about fbAttribute) fbAttribute cfg.rtcpFb cfg.payloads
  { cfg with rtcpFb := applied.1, payloads := applied.2 }

/-- The attributes about all payloads come first, then those about one of them. The
attributes given are the rtcp-fb ones of the media description. -/
def sdpParseRtcpFbParameters (attributes : List RtcpFbAttribute) : SalStreamConfiguration × Bool :=
  let general := attributes.foldl (applyRtcpFb · (fun fbAttribute _ => fbAttribute.id == -1)) cfg
  let parsed := attributes.foldl (applyRtcpFb · (fun fbAttribute pt => pt.number == fbAttribute.id.toInt)) general
  (parsed, !attributes.isEmpty && !cfg.payloads.isEmpty)

/-- Whether the intervals are the same, with the first one. -/
def sameTrrInt (first : Bool) (trrInt : UInt16) : List PayloadType → Bool × UInt16
  | [] => (true, trrInt)
  | pt :: rest =>
    if pt.flags.rtcpFeedbackEnabled then
      if first then sameTrrInt false pt.avpf.trrInterval rest
      else if pt.avpf.trrInterval != trrInt then (false, trrInt)
      else sameTrrInt first trrInt rest
    else sameTrrInt first trrInt rest

def isRtcpFbTrrIntTheSameForAllPayloads : Bool × UInt16 := sameTrrInt true 0 cfg.payloads

/-- The attributes of one payload. -/
def payloadRtcpFbAttributes (trrIntPerPayload : Bool) (pt : PayloadType) : List RtcpFbAttribute :=
  let id := Int8.ofInt pt.number
  (if trrIntPerPayload then [{ id, type := .trrInt, trrInt := pt.avpf.trrInterval }] else []) ++
    (if pt.avpf.has PayloadTypeAvpfParams.pli then [{ id, type := .nack, param := .pli }] else []) ++
    (if pt.avpf.has PayloadTypeAvpfParams.sli then [{ id, type := .nack, param := .sli }] else []) ++
    (if pt.avpf.has PayloadTypeAvpfParams.rpsi then
      if pt.avpf.rpsiCompatibility then [{ id, type := .nack, param := .rpsi }] else [{ id, type := .ack, param := .rpsi }]
    else []) ++
    (if pt.avpf.has PayloadTypeAvpfParams.fir then [{ id, type := .ccm, param := .fir }] else [])

/-- The attributes about all payloads. -/
def generalRtcpFbAttributes : List RtcpFbAttribute :=
  let (generalTrrInt, trrInt) := cfg.isRtcpFbTrrIntTheSameForAllPayloads
  (if generalTrrInt && trrInt != 0 then [{ id := -1, type := .trrInt, trrInt }] else []) ++
    (if cfg.rtcpFb.genericNackEnabled then [{ id := -1, type := .nack, param := .none }] else []) ++
    (if cfg.rtcpFb.tmmbrEnabled then [{ id := -1, type := .ccm, param := .tmmbr }] else []) ++
    (if cfg.rtcpFb.googRembEnabled then [{ id := -1, type := .googRemb }] else [])

/-- The attributes that are written. Feedback is enabled for all payloads on the way. -/
def addRtcpFbAttributesToSdp : SalStreamConfiguration × List RtcpFbAttribute :=
  let (generalTrrInt, trrInt) := cfg.isRtcpFbTrrIntTheSameForAllPayloads
  ({ cfg with payloads := cfg.payloads.map fun pt => { pt with flags := { pt.flags with rtcpFeedbackEnabled := true } } },
    cfg.generalRtcpFbAttributes ++ cfg.payloads.flatMap (payloadRtcpFbAttributes (!generalTrrInt && trrInt != 0)))

end SalStreamConfiguration

end Liblinphone
