import Mathlib.Data.List.Sort
import Liblinphone.PayloadType

/-! Codec matching in the offer/answer engine. The matchers registered by the
media library are parameters of the factory; the three that linphone registers
itself are the ones below. -/

namespace Liblinphone

/-- Opus is matched by name alone. An offer of opus/48000/1, which earlier
versions sent, is answered with one channel. -/
def opusMatch (localPayloads : List PayloadType) (refpt : PayloadType) : Option PayloadType :=
  if refpt.channels == 2 then localPayloads.find? (·.isMime "opus")
  else if refpt.channels == 1 then
    (localPayloads.reverse.find? (·.isMime "opus")).map fun legacyOpus => { legacyOpus with channels := 1 }
  else none

/-- Some phones offer a `G729A` mime type. -/
def g729AMatch (localPayloads : List PayloadType) (refpt : PayloadType) : Option PayloadType :=
  localPayloads.reverse.find? (fun pt => pt.isMime "G729" && refpt.channels == pt.channels)

def redFmtp (t140 : PayloadType) : String :=
  toString t140.number ++ "/" ++ toString t140.number ++ "/" ++ toString t140.number

/-- What the matcher of redundant text makes of the local payload it found. -/
def redResult (pt : PayloadType) (remotePayloads : List PayloadType) : PayloadType :=
  match remotePayloads.find? (·.isMime "t140") with
  | some t140 => { pt with recvFmtp := some (redFmtp t140) }
  | none => pt

/-- The local payload is modified together with the returned clone: the second
component is the local list as the matcher leaves it. -/
def redMatch (remotePayloads : List PayloadType) : List PayloadType → Option PayloadType × List PayloadType
  | [] => (none, [])
  | pt :: rest =>
    if pt.isMime "red" then (some (redResult pt remotePayloads), redResult pt remotePayloads :: rest)
    else ((redMatch remotePayloads rest).1, pt :: (redMatch remotePayloads rest).2)

/-- A matcher of the media library or of a plugin reads the lists it is given
and returns a payload type of its own. -/
inductive MSOfferAnswerProvider where
  | opus | g729A | red
  | external (matchPayload : List PayloadType → PayloadType → List PayloadType → Bool → Option PayloadType)

def MSOfferAnswerProvider.matchPayload (provider : MSOfferAnswerProvider) (localPayloads : List PayloadType)
    (refpt : PayloadType) (remotePayloads : List PayloadType) (readingResponse : Bool) :
    Option PayloadType × List PayloadType :=
  match provider with
  | .opus => (opusMatch localPayloads refpt, localPayloads)
  | .g729A => (g729AMatch localPayloads refpt, localPayloads)
  | .red => redMatch remotePayloads localPayloads
  | .external matcher => (matcher localPayloads refpt remotePayloads readingResponse, localPayloads)

/-- The parts of the media library that negotiation calls:
`ms_factory_create_offer_answer_context` and `ms_is_multicast`. -/
structure MSFactory where
  createOfferAnswerContext : String → Option MSOfferAnswerProvider
  isMulticast : String → Bool

def registerOfferAnswerProviders (factory : MSFactory) : MSFactory :=
  { factory with
    createOfferAnswerContext := fun mime =>
      if sameIgnoringCase mime "red" then some .red
      else if sameIgnoringCase mime "G729A" then some .g729A
      else if sameIgnoringCase mime "opus" then some .opus
      else factory.createOfferAnswerContext mime }

structure OfferAnswerEngine where
  msFactory : MSFactory
  useOneMatchingCodec : Bool := false
  answerWithOwnNumbering : Bool := false

def onlyTelephoneEvent (payloads : List PayloadType) : Bool :=
  payloads.all (·.isMime "telephone-event")

def genericMatch (localPayloads : List PayloadType) (refpt : PayloadType) : Option PayloadType :=
  localPayloads.find? (·.sameCodec refpt)

namespace OfferAnswerEngine

variable (engine : OfferAnswerEngine)

/-- A payload from the local list that matches one offered or answered in the
remote list, with the local list as the matcher leaves it. -/
def findPayloadTypeBestMatch (localPayloads : List PayloadType) (refpt : PayloadType)
    (remotePayloads : List PayloadType) (readingResponse : Bool) : Option PayloadType × List PayloadType :=
  match refpt.mimeType.bind engine.msFactory.createOfferAnswerContext with
  | some provider => provider.matchPayload localPayloads refpt remotePayloads readingResponse
  | none => (genericMatch localPayloads refpt, localPayloads)

/-- Common AVPF features are kept, with the bigger regular interval. -/
def negotiateAvpf (matched p2 : PayloadType) : PayloadType :=
  if matched.flags.rtcpFeedbackEnabled && p2.flags.rtcpFeedbackEnabled then
    { matched with avpf :=
      { features := matched.avpf.features &&& p2.avpf.features
        rpsiCompatibility := p2.avpf.rpsiCompatibility
        trrInterval := max p2.avpf.trrInterval matched.avpf.trrInterval } }
  else { matched with flags := { matched.flags with rtcpFeedbackEnabled := false } }

/-- A matched payload type as it enters the result, under the number that the
numbering policy gives it. -/
def acceptPayload (matched p2 : PayloadType) (readingResponse : Bool) : PayloadType :=
  let appended := p2.sendFmtp.elim matched matched.appendSendFmtp
  let usable := { appended with flags := { appended.flags with canRecv := true, canSend := true } }
  let feedback := negotiateAvpf usable p2
  { feedback with
    number := if !readingResponse && engine.answerWithOwnNumbering then matched.number else p2.number
    flags := { feedback.flags with frozenNumber := true } }

/-- The entries that one matched payload adds to the result. When the answer
changed our number, we must also be able to receive with our own. -/
def acceptedEntries (matched p2 : PayloadType) (readingResponse : Bool) : List PayloadType :=
  let accepted := engine.acceptPayload matched p2 readingResponse
  if readingResponse && p2.number != matched.number then
    [accepted, { accepted.recvOnly with number := matched.number }]
  else [accepted]

structure MatchState where
  res : List PayloadType := []
  foundCodec : Bool := false
  localPayloads : List PayloadType

/-- One turn of the loop over the remote payloads. -/
def matchPayload (remotePayloads : List PayloadType) (readingResponse bundleEnabled : Bool)
    (state : MatchState) (p2 : PayloadType) : MatchState :=
  let found := engine.findPayloadTypeBestMatch state.localPayloads p2 remotePayloads readingResponse
  let state := { state with localPayloads := found.2 }
  match found.1 with
  | none => state
  | some matched =>
    let realCodec := engine.useOneMatchingCodec && !matched.isMime "telephone-event"
    if realCodec && state.foundCodec then state
    else
      let state := { state with foundCodec := state.foundCodec || realCodec }
      if matched.isMime "flexfec" && !bundleEnabled then state
      else { state with res := state.res ++ engine.acceptedEntries matched p2 readingResponse }

/-- A local payload is added for receiving only when no number is common to
both lists. The source reads the front of the local list even when it is empty;
nothing is added then. -/
def addForCompatibility (localPayloads remotePayloads res : List PayloadType) : List PayloadType :=
  if localPayloads.any (fun p1 => remotePayloads.any (fun p2 => p2.number == p1.number)) then res
  else
    match localPayloads with
    | [] => res
    | p1 :: _ => res ++ [{ p1 with flags := { p1.flags with canRecv := true, frozenNumber := true } }]

/-- The order in which an answer lists its codecs: those with the priority bonus
come first. -/
def priorityLe (p1 p2 : PayloadType) : Bool := !(p2.flags.priorityBonus && !p1.flags.priorityBonus)

/-- The negotiated payloads, and the local list as the matchers leave it. -/
def matchPayloads (localPayloads remotePayloads : List PayloadType) (readingResponse bundleEnabled : Bool) :
    List PayloadType × List PayloadType :=
  let final := remotePayloads.foldl (engine.matchPayload remotePayloads readingResponse bundleEnabled)
    { localPayloads }
  if readingResponse then (addForCompatibility final.localPayloads remotePayloads final.res, final.localPayloads)
  else (final.res.insertionSort (fun p1 p2 => priorityLe p1 p2), final.localPayloads)

end OfferAnswerEngine
end Liblinphone
