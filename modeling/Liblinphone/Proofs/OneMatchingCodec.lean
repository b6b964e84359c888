import Liblinphone.Proofs.PayloadMatching

/-! The policy that an answer has one codec. A codec counts as found when it is matched,
also when it is dropped right after for want of a bundle. -/

namespace Liblinphone.OfferAnswerEngine

variable (engine : OfferAnswerEngine) (remotePayloads : List PayloadType) (bundleEnabled : Bool)

/-- The offered payloads that are matched, each with its match. The policy plays no role here. -/
def matchedPayloads (localPayloads : List PayloadType) : List PayloadType → List (PayloadType × PayloadType)
  | [] => []
  | p2 :: rest =>
    let found := engine.findPayloadTypeBestMatch localPayloads p2 remotePayloads false
    (found.1.map fun matched => (p2, matched)).toList ++ matchedPayloads found.2 rest

def isEvent (entry : PayloadType × PayloadType) : Bool := entry.2.isMime "telephone-event"

/-- A match that is not answered without a bundle. -/
def isDropped (entry : PayloadType × PayloadType) : Bool := entry.2.isMime "flexfec" && !bundleEnabled

/-- What is answered of the matched payloads. -/
def answered (oneCodec foundCodec : Bool) : List (PayloadType × PayloadType) → List (PayloadType × PayloadType)
  | [] => []
  | entry :: rest =>
    if oneCodec && !isEvent entry && foundCodec then answered oneCodec foundCodec rest
    else
      (if isDropped bundleEnabled entry then [] else [entry]) ++
        answered oneCodec (foundCodec || (oneCodec && !isEvent entry)) rest

variable {remotePayloads bundleEnabled}

theorem foldl_matchPayload (remaining : List PayloadType) (state : MatchState) :
    (remaining.foldl (engine.matchPayload remotePayloads false bundleEnabled) state).res =
      state.res ++ (answered bundleEnabled engine.useOneMatchingCodec state.foundCodec
        (engine.matchedPayloads remotePayloads state.localPayloads remaining)).map
          fun entry => engine.acceptPayload entry.2 entry.1 false := by
  induction remaining generalizing state with
  | nil => simp [matchedPayloads, answered]
  | cons p2 rest ih =>
    rw [List.foldl_cons, ih, matchedPayloads]
    unfold matchPayload
    dsimp only
    cases found : (engine.findPayloadTypeBestMatch state.localPayloads p2 remotePayloads false).1 with
    | none => simp
    | some matched =>
      dsimp only [Option.map_some, Option.toList_some, List.singleton_append]
      have event : isEvent (p2, matched) = matched.isMime "telephone-event" := rfl
      have dropping : isDropped bundleEnabled (p2, matched) = (matched.isMime "flexfec" && !bundleEnabled) := rfl
      rw [answered, event, dropping]
      split
      next => rfl
      next =>
        split
        next => rfl
        next => simp [acceptedEntries]

/-- The same engine, with or without the policy. -/
def withPolicy (oneCodec : Bool) : OfferAnswerEngine := { engine with useOneMatchingCodec := oneCodec }

theorem matchPayloads_answered (localPayloads : List PayloadType) (oneCodec : Bool) :
    ((engine.withPolicy oneCodec).matchPayloads localPayloads remotePayloads false bundleEnabled).1.Perm
      ((answered bundleEnabled oneCodec false (engine.matchedPayloads remotePayloads localPayloads remotePayloads)).map
        fun entry => engine.acceptPayload entry.2 entry.1 false) := by
  have same : ∀ (capabilities remaining : List PayloadType),
      (engine.withPolicy oneCodec).matchedPayloads remotePayloads capabilities remaining =
        engine.matchedPayloads remotePayloads capabilities remaining := by
    intro capabilities remaining
    induction remaining generalizing capabilities with
    | nil => rfl
    | cons p2 rest ih =>
      rw [matchedPayloads, matchedPayloads, ih]
      rfl
  have looped := @foldl_matchPayload (engine.withPolicy oneCodec) remotePayloads bundleEnabled remotePayloads
    { localPayloads }
  rw [same] at looped
  unfold matchPayloads
  dsimp only
  rw [if_neg Bool.false_ne_true, looped]
  exact List.perm_insertionSort _ _

section Answered

variable {entries : List (PayloadType × PayloadType)} {foundCodec : Bool}

theorem not_dropped_of_event {entry : PayloadType × PayloadType} (event : isEvent entry = true) :
    isDropped bundleEnabled entry = false := by
  unfold isEvent PayloadType.isMime at event
  unfold isDropped PayloadType.isMime
  cases mime : entry.2.mimeType with
  | none => rfl
  | some name =>
    rw [mime, Option.any_some] at event
    rw [Option.any_some]
    cases other : sameIgnoringCase name "flexfec" with
    | false => rfl
    | true =>
      have clash := sameIgnoringCase_trans (sameIgnoringCase_symm event) other
      exact absurd clash (by decide)

/-- Telephone events are answered whatever the policy. -/
theorem answered_events (oneCodec : Bool) : (answered bundleEnabled oneCodec foundCodec entries).filter isEvent =
    entries.filter isEvent := by
  induction entries generalizing foundCodec with
  | nil => rfl
  | cons entry rest ih =>
    rw [answered]
    cases event : isEvent entry with
    | true => simp [not_dropped_of_event event, event, ih]
    | false =>
      rw [List.filter_cons_of_neg (by simp [event])]
      split
      next => exact ih
      next =>
        rw [List.filter_append, ih]
        split
        next => rfl
        next => simp [event]

theorem answered_codecs : (answered bundleEnabled false foundCodec entries).filter (fun entry => !isEvent entry) =
    (entries.filter fun entry => !isEvent entry).filter fun entry => !isDropped bundleEnabled entry := by
  induction entries generalizing foundCodec with
  | nil => rfl
  | cons entry rest ih =>
    rw [answered, Bool.false_and, Bool.false_and, if_neg Bool.false_ne_true, List.filter_append, ih]
    cases event : isEvent entry with
    | true =>
      rw [not_dropped_of_event event, if_neg Bool.false_ne_true, List.filter_cons_of_neg (by simp [event]),
        List.filter_cons_of_neg (by simp [event])]
      rfl
    | false =>
      rw [List.filter_cons_of_pos (by simp [event])]
      cases dropped : isDropped bundleEnabled entry with
      | true =>
        rw [if_pos rfl, List.filter_cons_of_neg (by simp [dropped])]
        rfl
      | false =>
        rw [if_neg Bool.false_ne_true, List.filter_cons_of_pos (by simp [event]),
          List.filter_cons_of_pos (by simp [dropped])]
        rfl

/-- With the policy only the first codec can be answered. -/
theorem answered_oneCodec : (answered bundleEnabled true foundCodec entries).filter (fun entry => !isEvent entry) =
    if foundCodec then []
    else ((entries.filter fun entry => !isEvent entry).head?.toList).filter fun entry => !isDropped bundleEnabled entry := by
  induction entries generalizing foundCodec with
  | nil => cases foundCodec with
    | true => rfl
    | false => rfl
  | cons entry rest ih =>
    rw [answered, Bool.true_and]
    cases event : isEvent entry with
    | true =>
      rw [Bool.not_true, Bool.false_and, if_neg Bool.false_ne_true, Bool.or_false, List.filter_append, ih,
        not_dropped_of_event event, if_neg Bool.false_ne_true, List.filter_cons_of_neg (by simp [event]),
        List.filter_cons_of_neg (by simp [event])]
      rfl
    | false =>
      rw [Bool.not_false, Bool.true_and, Bool.or_true, List.filter_cons_of_pos (by simp [event])]
      cases foundCodec with
      | true =>
        rw [if_pos rfl, ih]
        rfl
      | false =>
        rw [if_neg Bool.false_ne_true, List.filter_append, ih, if_pos rfl, if_neg Bool.false_ne_true, List.append_nil,
          List.head?_cons, Option.toList_some]
        cases dropped : isDropped bundleEnabled entry with
        | true => simp [dropped]
        | false => simp [dropped, event]

end Answered

/-- The answer with the policy has at most one codec, one if there is one without the
policy, and all telephone events. -/
structure OneCodec (free one : List PayloadType) : Prop where
  atMostOne : (one.filter fun payload => !payload.isMime "telephone-event").length ≤ 1
  exactlyOne : (∃ payload ∈ free, payload.isMime "telephone-event" = false) →
    (one.filter fun payload => !payload.isMime "telephone-event").length = 1
  allEvents : (free.filter fun payload => payload.isMime "telephone-event").Perm
    (one.filter fun payload => payload.isMime "telephone-event")

section Policy

variable (remotePayloads bundleEnabled) (localPayloads : List PayloadType)

def codecMatches : List (PayloadType × PayloadType) :=
  (engine.matchedPayloads remotePayloads localPayloads remotePayloads).filter fun entry => !isEvent entry

/-- The first codec that is matched is answered, unless none is. -/
def FirstCodecUsable : Prop :=
  ∀ first, (engine.codecMatches remotePayloads localPayloads).head? = some first → isDropped bundleEnabled first = true →
    ∀ entry ∈ engine.codecMatches remotePayloads localPayloads, isDropped bundleEnabled entry = true

variable {remotePayloads bundleEnabled localPayloads}

theorem filter_events (oneCodec : Bool) :
    (((engine.withPolicy oneCodec).matchPayloads localPayloads remotePayloads false bundleEnabled).1.filter
      fun payload => payload.isMime "telephone-event").Perm
      (((engine.matchedPayloads remotePayloads localPayloads remotePayloads).filter isEvent).map
        fun entry => engine.acceptPayload entry.2 entry.1 false) := by
  refine ((engine.matchPayloads_answered localPayloads oneCodec).filter _).trans ?_
  have events : (fun payload : PayloadType => payload.isMime "telephone-event") ∘
      (fun entry : PayloadType × PayloadType => engine.acceptPayload entry.2 entry.1 false) = isEvent :=
    funext fun entry => engine.acceptPayload_isMime entry.2 entry.1 false "telephone-event"
  rw [List.filter_map, events, answered_events]

theorem filter_codecs (oneCodec : Bool) :
    (((engine.withPolicy oneCodec).matchPayloads localPayloads remotePayloads false bundleEnabled).1.filter
      fun payload => !payload.isMime "telephone-event").Perm
      (((answered bundleEnabled oneCodec false (engine.matchedPayloads remotePayloads localPayloads remotePayloads)).filter
        fun entry => !isEvent entry).map fun entry => engine.acceptPayload entry.2 entry.1 false) := by
  refine ((engine.matchPayloads_answered localPayloads oneCodec).filter _).trans ?_
  have codecs : (fun payload : PayloadType => !payload.isMime "telephone-event") ∘
      (fun entry : PayloadType × PayloadType => engine.acceptPayload entry.2 entry.1 false) = fun entry => !isEvent entry :=
    funext fun entry => congrArg not (engine.acceptPayload_isMime entry.2 entry.1 false "telephone-event")
  rw [List.filter_map, codecs]

theorem length_codecs_free :
    (∃ payload ∈ ((engine.withPolicy false).matchPayloads localPayloads remotePayloads false bundleEnabled).1,
      payload.isMime "telephone-event" = false) ↔
      ∃ entry ∈ engine.codecMatches remotePayloads localPayloads, isDropped bundleEnabled entry = false := by
  have free := @filter_codecs engine remotePayloads bundleEnabled localPayloads false
  rw [answered_codecs] at free
  constructor
  · rintro ⟨payload, member, codec⟩
    have kept := free.mem_iff.mp (List.mem_filter.mpr ⟨member, by simp [codec]⟩)
    obtain ⟨entry, inside, -⟩ := List.mem_map.mp kept
    obtain ⟨matched, used⟩ := List.mem_filter.mp inside
    exact ⟨entry, matched, by simpa using used⟩
  · rintro ⟨entry, matched, used⟩
    have kept := free.mem_iff.mpr (List.mem_map_of_mem (List.mem_filter.mpr ⟨matched, by simp [used]⟩))
    obtain ⟨member, codec⟩ := List.mem_filter.mp kept
    exact ⟨_, member, by simpa using codec⟩

theorem length_codecs_one :
    (((engine.withPolicy true).matchPayloads localPayloads remotePayloads false bundleEnabled).1.filter
      fun payload => !payload.isMime "telephone-event").length =
      ((engine.codecMatches remotePayloads localPayloads).head?.toList.filter
        fun entry => !isDropped bundleEnabled entry).length := by
  have one := (@filter_codecs engine remotePayloads bundleEnabled localPayloads true).length_eq
  rw [answered_oneCodec, if_neg Bool.false_ne_true, List.length_map] at one
  exact one

end Policy

theorem one_codec_answered_iff (engine : OfferAnswerEngine) (localPayloads remotePayloads : List PayloadType)
    (bundleEnabled : Bool) :
    OneCodec ((engine.withPolicy false).matchPayloads localPayloads remotePayloads false bundleEnabled).1
      ((engine.withPolicy true).matchPayloads localPayloads remotePayloads false bundleEnabled).1 ↔
    engine.FirstCodecUsable remotePayloads bundleEnabled localPayloads := by
  have one := @length_codecs_one engine remotePayloads bundleEnabled localPayloads
  constructor
  · intro policy first head dropped entry member
    by_contra used
    have exactly := policy.exactlyOne (engine.length_codecs_free.mpr ⟨entry, member, by simpa using used⟩)
    rw [one, head, Option.toList_some, List.filter_cons_of_neg (by simp [dropped])] at exactly
    cases exactly
  · intro usable
    refine ⟨?_, ?_, ?_⟩
    · rw [one]
      refine (List.length_filter_le _ _).trans ?_
      cases (engine.codecMatches remotePayloads localPayloads).head? with
      | none => exact Nat.zero_le _
      | some first => exact Nat.le_refl _
    · intro some
      obtain ⟨entry, member, used⟩ := engine.length_codecs_free.mp some
      rw [one]
      cases head : (engine.codecMatches remotePayloads localPayloads).head? with
      | none =>
        rw [List.head?_eq_none_iff] at head
        rw [head] at member
        cases member
      | some first =>
        have kept : isDropped bundleEnabled first = false := by
          by_contra dropped
          rw [usable first head (by simpa using dropped) entry member] at used
          cases used
        rw [Option.toList_some, List.filter_cons_of_pos (by simp [kept])]
        rfl
    · exact (engine.filter_events false).trans (engine.filter_events true).symm

/-- Without a bundle, error correction in front of VP8 leaves no codec. -/
theorem flexfec_before_vp8 :
    let engine : OfferAnswerEngine := { msFactory := { createOfferAnswerContext := fun _ => none, isMulticast := fun _ => false } }
    let flexfec : PayloadType := { mimeType := some "flexfec", clockRate := 90000, channels := 0, number := 97 }
    let vp8 : PayloadType := { mimeType := some "VP8", clockRate := 90000, channels := 0, number := 96 }
    ((engine.withPolicy false).matchPayloads [vp8, flexfec] [flexfec, vp8] false false).1.map PayloadType.mimeType =
        [some "VP8"] ∧
      ((engine.withPolicy true).matchPayloads [vp8, flexfec] [flexfec, vp8] false false).1 = [] ∧
      ¬OneCodec ((engine.withPolicy false).matchPayloads [vp8, flexfec] [flexfec, vp8] false false).1
        ((engine.withPolicy true).matchPayloads [vp8, flexfec] [flexfec, vp8] false false).1 := by
  intro engine flexfec vp8
  have free : ((engine.withPolicy false).matchPayloads [vp8, flexfec] [flexfec, vp8] false false).1.map
      PayloadType.mimeType = [some "VP8"] := by decide
  have one : ((engine.withPolicy true).matchPayloads [vp8, flexfec] [flexfec, vp8] false false).1 = [] := by decide
  refine ⟨free, one, ?_⟩
  intro policy
  rw [one] at policy
  have codec : ∃ payload ∈ ((engine.withPolicy false).matchPayloads [vp8, flexfec] [flexfec, vp8] false false).1,
      payload.isMime "telephone-event" = false := by
    decide
  exact absurd (policy.exactlyOne codec) (by decide)

end Liblinphone.OfferAnswerEngine
