import Liblinphone.Library.Search
import Liblinphone.PayloadMatching

/-! What the codec matching loop puts into its result. Each entry comes from one
remote payload, in the order of the remote list, and carries its number. -/

namespace Liblinphone

theorem sameIgnoringCase_symm {first second : String} (same : sameIgnoringCase first second = true) :
    sameIgnoringCase second first = true := by
  simp only [sameIgnoringCase, beq_iff_eq] at same ⊢
  exact same.symm

theorem sameIgnoringCase_trans {first second third : String} (early : sameIgnoringCase first second = true)
    (late : sameIgnoringCase second third = true) : sameIgnoringCase first third = true := by
  simp only [sameIgnoringCase, beq_iff_eq] at early late ⊢
  exact early.trans late

namespace PayloadType

theorem sameCodec_iff {first second : PayloadType} : first.sameCodec second = true ↔
    ∃ mime other, first.mimeType = some mime ∧ second.mimeType = some other ∧ sameIgnoringCase mime other = true ∧
      first.clockRate = second.clockRate ∧ first.channels = second.channels := by
  simp only [sameCodec]
  split
  next mime other isMime isOther => simp [isMime, isOther, and_assoc]
  next absent =>
    simp only [Bool.false_eq_true, false_iff]
    rintro ⟨mime, other, isMime, isOther, _⟩
    exact absent mime other isMime isOther

theorem sameCodec_symm {first second : PayloadType} (same : first.sameCodec second = true) :
    second.sameCodec first = true := by
  obtain ⟨mime, other, isMime, isOther, name, clock, channels⟩ := sameCodec_iff.mp same
  exact sameCodec_iff.mpr ⟨other, mime, isOther, isMime, sameIgnoringCase_symm name, clock.symm, channels.symm⟩

theorem sameCodec_trans {first second third : PayloadType} (early : first.sameCodec second = true)
    (late : second.sameCodec third = true) : first.sameCodec third = true := by
  obtain ⟨mime, other, isMime, isOther, name, clock, channels⟩ := sameCodec_iff.mp early
  obtain ⟨middle, last, isMiddle, isLast, nextName, nextClock, nextChannels⟩ := sameCodec_iff.mp late
  obtain rfl : other = middle := Option.some.inj (isOther.symm.trans isMiddle)
  exact sameCodec_iff.mpr ⟨mime, last, isMime, isLast, sameIgnoringCase_trans name nextName, clock.trans nextClock,
    channels.trans nextChannels⟩

/-- Two payload types of one codec answer to the same names. -/
theorem isMime_of_sameCodec {first second : PayloadType} {name : String} (same : first.sameCodec second = true)
    (named : first.isMime name = true) : second.isMime name = true := by
  obtain ⟨mime, other, isMime, isOther, equal, _⟩ := sameCodec_iff.mp same
  simp only [PayloadType.isMime, isMime, isOther, Option.any_some] at named ⊢
  exact sameIgnoringCase_trans (sameIgnoringCase_symm equal) named

end PayloadType

theorem genericMatch_some {payloads : List PayloadType} {refpt matched : PayloadType}
    (found : genericMatch payloads refpt = some matched) : matched ∈ payloads ∧ matched.sameCodec refpt = true := by
  rw [genericMatch] at found
  have same := List.find?_some found
  exact ⟨List.mem_of_find?_eq_some found, same⟩

namespace OfferAnswerEngine

variable (engine : OfferAnswerEngine)

section Accepted

variable (matched p2 : PayloadType) (readingResponse : Bool)

private theorem negotiateAvpf_kept :
    (negotiateAvpf matched p2).mimeType = matched.mimeType ∧ (negotiateAvpf matched p2).clockRate = matched.clockRate ∧
      (negotiateAvpf matched p2).channels = matched.channels ∧
      (negotiateAvpf matched p2).flags.canRecv = matched.flags.canRecv ∧
      (negotiateAvpf matched p2).flags.canSend = matched.flags.canSend := by
  simp only [negotiateAvpf]
  split <;> simp

/-- An accepted payload is the matched codec, usable in both directions. -/
theorem acceptPayload_kept :
    (engine.acceptPayload matched p2 readingResponse).mimeType = matched.mimeType ∧
      (engine.acceptPayload matched p2 readingResponse).clockRate = matched.clockRate ∧
      (engine.acceptPayload matched p2 readingResponse).channels = matched.channels ∧
      (engine.acceptPayload matched p2 readingResponse).flags.canRecv = true ∧
      (engine.acceptPayload matched p2 readingResponse).flags.canSend = true := by
  have appended : (p2.sendFmtp.elim matched matched.appendSendFmtp).mimeType = matched.mimeType ∧
      (p2.sendFmtp.elim matched matched.appendSendFmtp).clockRate = matched.clockRate ∧
      (p2.sendFmtp.elim matched matched.appendSendFmtp).channels = matched.channels := by
    cases p2.sendFmtp <;> simp [PayloadType.appendSendFmtp]
  obtain ⟨mime, clock, channels, recv, send⟩ := negotiateAvpf_kept
    { p2.sendFmtp.elim matched matched.appendSendFmtp with
      flags := { (p2.sendFmtp.elim matched matched.appendSendFmtp).flags with canRecv := true, canSend := true } } p2
  exact ⟨mime.trans appended.1, clock.trans appended.2.1, channels.trans appended.2.2, recv, send⟩

theorem acceptPayload_sameCodec {other : PayloadType} (same : matched.sameCodec other = true) :
    (engine.acceptPayload matched p2 readingResponse).sameCodec other = true := by
  obtain ⟨mime, clock, channels, _⟩ := engine.acceptPayload_kept matched p2 readingResponse
  simpa only [PayloadType.sameCodec, mime, clock, channels] using same

@[simp] theorem acceptPayload_isMime (name : String) :
    (engine.acceptPayload matched p2 readingResponse).isMime name = matched.isMime name := by
  simp only [PayloadType.isMime, (engine.acceptPayload_kept matched p2 readingResponse).1]

/-- With the default policy, or when reading an answer, numbers are those of the
remote list. -/
theorem acceptPayload_number (policy : readingResponse = true ∨ engine.answerWithOwnNumbering = false) :
    (engine.acceptPayload matched p2 readingResponse).number = p2.number := by
  simp only [acceptPayload]
  rcases policy with reading | standard
  · simp [reading]
  · simp [standard]

end Accepted

/-- An entry of an answer comes from what a matcher made of an offered payload. -/
def AnswersTo (offered : List PayloadType) (p2 answered : PayloadType) : Prop :=
  ∃ localPayloads matched, (engine.findPayloadTypeBestMatch localPayloads p2 offered false).1 = some matched ∧
    answered = engine.acceptPayload matched p2 false

/-- The loop of an answer, turn by turn. -/
structure AnswerLoop (offered done : List PayloadType) (state : MatchState) : Prop where
  numbers : engine.answerWithOwnNumbering = false → (state.res.map (·.number)).Sublist (done.map (·.number))
  entries : ∀ answered ∈ state.res, ∃ p2 ∈ done, engine.AnswersTo offered p2 answered

private theorem AnswerLoop.skip {engine} {offered done : List PayloadType} {state next : MatchState}
    (loop : AnswerLoop engine offered done state) (p2 : PayloadType) (same : next.res = state.res) :
    AnswerLoop engine offered (done ++ [p2]) next := by
  refine ⟨?_, ?_⟩
  · intro standard
    rw [same, List.map_append]
    exact (loop.numbers standard).trans (List.sublist_append_left _ _)
  · intro answered member
    rw [same] at member
    obtain ⟨source, before, answers⟩ := loop.entries answered member
    exact ⟨source, by simp [before], answers⟩

private theorem AnswerLoop.add {engine} {offered done : List PayloadType} {state next : MatchState}
    (loop : AnswerLoop engine offered done state) {p2 answered : PayloadType}
    (answers : engine.AnswersTo offered p2 answered)
    (number : engine.answerWithOwnNumbering = false → answered.number = p2.number)
    (added : next.res = state.res ++ [answered]) : AnswerLoop engine offered (done ++ [p2]) next := by
  refine ⟨?_, ?_⟩
  · intro standard
    simp only [added, List.map_append, List.map_cons, List.map_nil, number standard]
    exact (loop.numbers standard).append_right _
  · intro entry member
    rw [added, List.mem_append, List.mem_singleton] at member
    rcases member with earlier | rfl
    · obtain ⟨source, before, fromSource⟩ := loop.entries entry earlier
      exact ⟨source, by simp [before], fromSource⟩
    · exact ⟨p2, by simp, answers⟩

private theorem answerLoop_step (offered done : List PayloadType) (bundleEnabled : Bool) (state : MatchState)
    (p2 : PayloadType) (loop : AnswerLoop engine offered done state) :
    AnswerLoop engine offered (done ++ [p2]) (engine.matchPayload offered false bundleEnabled state p2) := by
  simp only [matchPayload]
  split
  next => exact loop.skip p2 rfl
  next matched found =>
    split
    next => exact loop.skip p2 rfl
    next =>
      split
      next => exact loop.skip p2 rfl
      next =>
        refine loop.add ⟨state.localPayloads, matched, found, rfl⟩ ?_ rfl
        exact fun standard => engine.acceptPayload_number matched p2 false (.inr standard)

/-- Every entry of an answer comes from an offered payload, and with the default
policy the numbers of an answer are among those of the offer, without repeating
any of them. -/
theorem matchPayloads_answer (capabilities offered : List PayloadType) (bundleEnabled : Bool) :
    (∀ answered ∈ (engine.matchPayloads capabilities offered false bundleEnabled).1,
      ∃ p2 ∈ offered, engine.AnswersTo offered p2 answered) ∧
    (engine.answerWithOwnNumbering = false → (offered.map (·.number)).Nodup →
      ((engine.matchPayloads capabilities offered false bundleEnabled).1.map (·.number)).Nodup) := by
  have loop := Library.foldl_prefix_induction (engine.matchPayload offered false bundleEnabled)
    { localPayloads := capabilities } offered (AnswerLoop engine offered)
    ⟨fun _ => List.Sublist.refl _, by simp⟩ (fun done p2 state _ => answerLoop_step engine offered done bundleEnabled state p2)
  simp only [matchPayloads, Bool.false_eq_true, if_false, List.mem_insertionSort]
  refine ⟨loop.entries, ?_⟩
  intro standard distinct
  have sorted := List.perm_insertionSort (fun p1 p2 => priorityLe p1 p2 = true)
    (offered.foldl (engine.matchPayload offered false bundleEnabled) { localPayloads := capabilities }).res
  exact (sorted.map (·.number)).nodup_iff.mpr (distinct.sublist (loop.numbers standard))

/-- The entries that the loop adds for one remote payload, when no codec is ever
left out for being a second one. -/
def entriesFor (localPayloads remotePayloads : List PayloadType) (readingResponse bundleEnabled : Bool)
    (p2 : PayloadType) : List PayloadType :=
  match (engine.findPayloadTypeBestMatch localPayloads p2 remotePayloads readingResponse).1 with
  | none => []
  | some matched =>
    if matched.isMime "flexfec" && !bundleEnabled then []
    else engine.acceptedEntries matched p2 readingResponse

/-- A codec that the engine matches with `genericMatch`, or with `opusMatch` if it is opus. -/
def Handled (payload : PayloadType) : Prop :=
  payload.mimeType.bind engine.msFactory.createOfferAnswerContext =
    if payload.isMime "opus" then some .opus else none

theorem findPayloadTypeBestMatch_handled {p2 : PayloadType} (handled : engine.Handled p2)
    (localPayloads remotePayloads : List PayloadType) (readingResponse : Bool) :
    engine.findPayloadTypeBestMatch localPayloads p2 remotePayloads readingResponse =
      (if p2.isMime "opus" then opusMatch localPayloads p2 else genericMatch localPayloads p2, localPayloads) := by
  simp only [findPayloadTypeBestMatch, Handled] at handled ⊢
  rw [handled]
  split
  next provider found =>
    split at found
    next opus =>
      obtain rfl := Option.some.inj found
      simp [opus, MSOfferAnswerProvider.matchPayload]
    next => simp at found
  next found =>
    split at found
    next => simp at found
    next other => simp [other]

/-- The loop as a whole, over codecs that are matched without touching the list
they are looked up in. -/
theorem matchPayload_foldl (localPayloads remotePayloads : List PayloadType) (readingResponse bundleEnabled : Bool)
    (everyCodec : engine.useOneMatchingCodec = false) (handled : ∀ p2 ∈ remotePayloads, engine.Handled p2) :
    remotePayloads.foldl (engine.matchPayload remotePayloads readingResponse bundleEnabled) { localPayloads } =
      { localPayloads
        res := remotePayloads.flatMap
          (engine.entriesFor localPayloads remotePayloads readingResponse bundleEnabled) } := by
  refine Library.foldl_prefix_induction _ _ remotePayloads
    (fun done (state : MatchState) => state = ⟨done.flatMap
      (engine.entriesFor localPayloads remotePayloads readingResponse bundleEnabled), false, localPayloads⟩) rfl ?_
  rintro done p2 current member rfl
  simp only [matchPayload, entriesFor, List.flatMap_append, List.flatMap_singleton,
    engine.findPayloadTypeBestMatch_handled (handled p2 member), everyCodec, Bool.false_and, Bool.false_eq_true, if_false]
  cases (if p2.isMime "opus" then opusMatch localPayloads p2 else genericMatch localPayloads p2) with
  | none => simp
  | some matched =>
    dsimp only
    split
    · simp
    · simp

end OfferAnswerEngine
end Liblinphone
