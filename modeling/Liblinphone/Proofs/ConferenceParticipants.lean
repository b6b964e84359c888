import Mathlib.Data.List.Pairwise
import Mathlib.Logic.Function.Iterate
import Liblinphone.ConferenceScheduler

/-! The participants of a conference. The functions that add one keep them apart,
so that an address finds the one it is about, and a renewed participant is found
where the old one was. -/

namespace Liblinphone

section Participants

variable {old participants others : List ParticipantInfo}

@[simp] theorem keepSequence_address (others : List ParticipantInfo) (participant : ParticipantInfo) :
    (ConferenceInfo.keepSequence others participant).address = participant.address := by
  unfold ConferenceInfo.keepSequence
  split
  next => rfl
  next => rfl

/-- Who is not there keeps the number it has. -/
theorem keepSequence_absent {participant : ParticipantInfo}
    (absent : hasParticipant others participant.address.address = false) :
    ConferenceInfo.keepSequence others participant = participant := by
  have missed : (others.find? fun other => participant.address.address.weakEqual other.address.address) = none := by
    simpa [hasParticipant] using absent
  simp only [ConferenceInfo.keepSequence, missed]

@[simp] theorem hasParticipant_keepSequence (others participants : List ParticipantInfo) (address : Address) :
    hasParticipant (participants.map (ConferenceInfo.keepSequence others)) address =
      hasParticipant participants address := by
  simp [hasParticipant, List.any_map, Function.comp_def]

theorem hasParticipant_congr {first second : Address} (same : first.weakEqual second = true)
    (participants : List ParticipantInfo) : hasParticipant participants first = hasParticipant participants second := by
  simp only [hasParticipant, Address.weakEqual_congr same]

theorem cancelList_congr (old : List ParticipantInfo)
    (same : ∀ address, hasParticipant participants address = hasParticipant others address) :
    cancelList old participants = cancelList old others := by
  simp only [cancelList, same]

/-- Those that are cancelled are not written to. -/
theorem cancelList_map {change : ParticipantInfo → ParticipantInfo}
    (address : ∀ participant, (change participant).address = participant.address)
    (unchanged : ∀ participant, hasParticipant participants participant.address.address = false →
      change participant = participant) (old : List ParticipantInfo) :
    cancelList (old.map change) participants = cancelList old participants := by
  induction old with
  | nil => rfl
  | cons first rest ih =>
    unfold cancelList at ih ⊢
    cases present : hasParticipant participants first.address.address with
    | true => simpa [address, present] using ih
    | false => simpa [address, present, unchanged first present] using ih

theorem mem_cancelList {entry : SharedAddress × Int} : entry ∈ cancelList old participants ↔
    ∃ participant ∈ old, hasParticipant participants participant.address.address = false ∧
      entry = (participant.address, cancelSequence participant.sequence) := by
  simp only [cancelList, List.mem_map, List.mem_filter, Bool.not_eq_true', and_assoc]
  constructor
  · rintro ⟨participant, member, absent, rfl⟩
    exact ⟨participant, member, absent, rfl⟩
  · rintro ⟨participant, member, absent, rfl⟩
    exact ⟨participant, member, absent, rfl⟩

end Participants

namespace ConferenceInfo

@[simp] theorem shareOrganizer_participants (info : ConferenceInfo) :
    info.shareOrganizer.participants = info.participants := rfl

@[simp] theorem updateFrom_participants (info other : ConferenceInfo) :
    (info.updateFrom other).participants = info.participants.map (keepSequence other.participants) := rfl

theorem updateFrom_uri {info other : ConferenceInfo} (named : other.uri ≠ .null) :
    (info.updateFrom other).uri = other.uri := by
  unfold updateFrom
  cases uri : other.uri with
  | null => exact absurd uri named
  | invalid => rfl
  | valid uri noGruu => rfl

end ConferenceInfo

namespace ParticipantInfo

variable {first second third : ParticipantInfo}

theorem isMatch_iff : first.isMatch second = true ↔ first.address.address.weakEqual second.address.address = true ∨
    first.ccmpUri ≠ "" ∧ first.ccmpUri = second.ccmpUri := by
  simp [isMatch]

@[simp] theorem isMatch_refl (participant : ParticipantInfo) : participant.isMatch participant = true := by
  simp [isMatch]

theorem isMatch_comm (first second : ParticipantInfo) : first.isMatch second = second.isMatch first := by
  rw [Bool.eq_iff_iff, isMatch_iff, isMatch_iff, Address.weakEqual_comm]
  constructor
  · rintro (address | ⟨named, same⟩)
    · exact .inl address
    · exact .inr ⟨same ▸ named, same.symm⟩
  · rintro (address | ⟨named, same⟩)
    · exact .inl address
    · exact .inr ⟨same ▸ named, same.symm⟩

instance : Std.Symm fun first second : ParticipantInfo => first.isMatch second = false where
  symm first second missed := (isMatch_comm second first).trans missed

/-- Only the address and the CCMP URI are compared. -/
theorem isMatch_congr (address : first.address = second.address) (ccmpUri : first.ccmpUri = second.ccmpUri)
    (other : ParticipantInfo) : first.isMatch other = second.isMatch other := by
  simp only [isMatch, address, ccmpUri]

@[simp] theorem addParameters_address (participant other : ParticipantInfo) :
    (participant.addParameters other).address = participant.address := rfl

@[simp] theorem addParameters_ccmpUri (participant other : ParticipantInfo) :
    (participant.addParameters other).ccmpUri = participant.ccmpUri := rfl

theorem nextSequence_lt (sequence : Int) : sequence < nextSequence sequence ∧ 0 ≤ nextSequence sequence := by
  unfold nextSequence
  split
  next => omega
  next => omega

theorem iterate_nextSequence_lt (sequence : Int) (times : Nat) :
    sequence < nextSequence^[times + 1] sequence ∧ 0 ≤ nextSequence^[times + 1] sequence := by
  induction times with
  | zero => exact nextSequence_lt sequence
  | succ times ih =>
    rw [Function.iterate_succ_apply']
    have next := nextSequence_lt (nextSequence^[times + 1] sequence)
    omega

end ParticipantInfo

namespace ConferenceInfo

open ParticipantInfo

/-- No two match. -/
def Apart (participants : List ParticipantInfo) : Prop :=
  participants.Pairwise fun first second => first.isMatch second = false

/-- What the functions that add to an info keep: its participants are apart, and one
that matches the organizer is the organizer. -/
structure Consistent (info : ConferenceInfo) : Prop where
  apart : Apart info.participants
  organizer : ∀ participant ∈ info.participants, info.organizer.isMatch participant = true →
    participant = info.organizer

def sequenceOf (info : ConferenceInfo) (address : Address) : Option Int :=
  (info.findByAddress address).map (·.sequence)

variable {info : ConferenceInfo} {participants : List ParticipantInfo} {participant other : ParticipantInfo}

theorem Apart.eq_of_isMatch (apart : Apart participants) (member : participant ∈ participants)
    (inside : other ∈ participants) (same : participant.isMatch other = true) : participant = other := by
  by_contra different
  have missed := List.Pairwise.forall apart member inside different
  simp [same] at missed

/-- Where a participant is among others that are apart from it. -/
theorem Apart.split (apart : Apart participants) (member : participant ∈ participants) :
    ∃ before after, participants = before ++ participant :: after ∧
      (∀ other ∈ before ++ after, participant.isMatch other = false) ∧
      participants.eraseP (· == participant) = before ++ after := by
  obtain ⟨before, after, rfl⟩ := List.append_of_mem member
  obtain ⟨early, late, across⟩ := List.pairwise_append.mp apart
  have missed : ∀ other ∈ before ++ after, participant.isMatch other = false := by
    intro other inside
    rcases List.mem_append.mp inside with front | back
    · rw [isMatch_comm]
      exact across other front participant (by simp)
    · exact (List.pairwise_cons.mp late).1 other back
  refine ⟨before, after, rfl, missed, ?_⟩
  rw [List.eraseP_append_right _ (fun other front => ?_), List.eraseP_cons_of_pos (by simp)]
  have different := missed other (by simp [front])
  intro same
  rw [beq_iff_eq.mp same] at different
  simp at different

theorem Apart.sublist {fewer : List ParticipantInfo} (apart : Apart participants) (sublist : fewer.Sublist participants) :
    Apart fewer := List.Pairwise.sublist sublist apart

theorem Apart.concat (apart : Apart participants) (missed : ∀ other ∈ participants, participant.isMatch other = false) :
    Apart (participants ++ [participant]) := by
  refine List.pairwise_append.mpr ⟨apart, List.pairwise_singleton _ _, ?_⟩
  intro other inside added single
  obtain rfl := List.mem_singleton.mp single
  rw [isMatch_comm]
  exact missed other inside

theorem findByAddress_of_mem (apart : Apart info.participants) (member : participant ∈ info.participants)
    {address : Address} (same : address.weakEqual participant.address.address = true) :
    info.findByAddress address = some participant := by
  cases found : info.findByAddress address with
  | none => simpa [same] using List.find?_eq_none.mp found participant member
  | some other =>
    have hit : address.weakEqual other.address.address = true := by simpa using List.find?_some found
    have both := Address.weakEqual_trans (Address.weakEqual_symm hit) same
    rw [apart.eq_of_isMatch (List.mem_of_find?_eq_some found) member (isMatch_iff.mpr (.inl both))]

theorem findParticipant_none (missed : info.findParticipant participant = none) :
    ∀ other ∈ info.participants, participant.isMatch other = false := by
  intro other inside
  obtain ⟨byAddress, byUri⟩ := Option.or_eq_none_iff.mp missed
  have address := List.find?_eq_none.mp byAddress other inside
  rw [Bool.eq_false_iff, Ne, isMatch_iff]
  rintro (same | ⟨named, same⟩)
  · exact address same
  · rw [findByCcmpUri, if_neg named] at byUri
    have uri := List.find?_eq_none.mp byUri other inside
    simp [← same, named] at uri

theorem findParticipant_of_mem (apart : Apart info.participants) (member : participant ∈ info.participants)
    (address : other.address = participant.address) : info.findParticipant other = some participant := by
  have found := findByAddress_of_mem apart member (Address.weakEqual_refl participant.address.address)
  simp [findParticipant, address, found]

theorem findParticipant_missed (missed : ∀ other ∈ info.participants, participant.isMatch other = false) :
    info.findParticipant participant = none := by
  refine Option.or_eq_none_iff.mpr ⟨List.find?_eq_none.mpr fun other inside same => ?_, ?_⟩
  · simpa [isMatch_iff.mpr (.inl same)] using missed other inside
  · unfold findByCcmpUri
    split
    next => rfl
    next named =>
      refine List.find?_eq_none.mpr fun other inside same => ?_
      have equal : participant.ccmpUri = other.ccmpUri := by simpa using (Bool.and_eq_true_iff.mp same).2
      simpa [isMatch_iff.mpr (.inr ⟨named, equal⟩)] using missed other inside

/-- An organizer that is one of the participants is the one that it matches. -/
theorem shareOrganizer_consistent (apart : Apart info.participants) : info.shareOrganizer.Consistent where
  apart := apart
  organizer := by
    intro participant member same
    cases found : info.participants.find? info.organizer.isMatch with
    | none =>
      have missed := List.find?_eq_none.mp found participant member
      simp only [shareOrganizer, found, Option.getD_none] at same
      exact absurd same missed
    | some organizer =>
      simp only [shareOrganizer, found, Option.getD_some] at same ⊢
      exact (apart.eq_of_isMatch (List.mem_of_find?_eq_some found) member same).symm

theorem findParticipant_mem (found : info.findParticipant participant = some other) :
    other ∈ info.participants ∧ participant.isMatch other = true := by
  rcases Option.or_eq_some_iff.mp found with byAddress | ⟨-, byUri⟩
  · exact ⟨List.mem_of_find?_eq_some byAddress, isMatch_iff.mpr (.inl (by simpa using List.find?_some byAddress))⟩
  · unfold findByCcmpUri at byUri
    split at byUri
    next => simp at byUri
    next named =>
      have hit := List.find?_some byUri
      have same : participant.ccmpUri = other.ccmpUri := by simpa using (Bool.and_eq_true_iff.mp hit).2
      exact ⟨List.mem_of_find?_eq_some byUri, isMatch_iff.mpr (.inr ⟨named, same⟩)⟩

/-- One participant is changed, but neither its address nor its CCMP URI. -/
theorem Apart.updateFirst {changed : ParticipantInfo} (apart : Apart participants) (member : participant ∈ participants)
    (address : changed.address = participant.address) (ccmpUri : changed.ccmpUri = participant.ccmpUri) :
    Apart (Library.updateFirst (· == participant) (fun _ => changed) participants) ∧
      ∀ other ∈ Library.updateFirst (· == participant) (fun _ => changed) participants,
        changed.isMatch other = true → other = changed := by
  have present : participants.any (· == participant) = true := List.any_eq_true.mpr ⟨participant, member, by simp⟩
  obtain ⟨before, entry, after, rfl, hit, -, updated⟩ := Library.updateFirst_split present
  obtain rfl : entry = participant := beq_iff_eq.mp hit
  obtain ⟨early, late, across⟩ := List.pairwise_append.mp apart
  obtain ⟨next, later⟩ := List.pairwise_cons.mp late
  have missedBefore : ∀ other ∈ before, other.isMatch changed = false := by
    intro other front
    rw [isMatch_comm, isMatch_congr address ccmpUri, isMatch_comm]
    exact across other front entry (by simp)
  have missedAfter : ∀ other ∈ after, changed.isMatch other = false := by
    intro other back
    rw [isMatch_congr address ccmpUri]
    exact next other back
  rw [updated]
  constructor
  · refine List.pairwise_append.mpr ⟨early, List.pairwise_cons.mpr ⟨missedAfter, later⟩, ?_⟩
    intro other front last inside
    rcases List.mem_cons.mp inside with rfl | back
    · exact missedBefore other front
    · exact across other front last (by simp [back])
  · intro other inside same
    rcases List.mem_append.mp inside with front | back
    · have missed := missedBefore other front
      rw [isMatch_comm, same] at missed
      simp at missed
    · rcases List.mem_cons.mp back with rfl | after
      · rfl
      · simp [missedAfter other after] at same

theorem Consistent.addParticipant (consistent : info.Consistent) (participant : ParticipantInfo) :
    (info.addParticipant participant).Consistent := by
  unfold ConferenceInfo.addParticipant
  split
  next missing =>
    have missed := findParticipant_none missing
    split
    next same =>
      have apart : ∀ other ∈ info.participants, info.organizer.isMatch other = false := by
        intro other inside
        by_contra hit
        rw [Bool.not_eq_false] at hit
        rw [← consistent.organizer other inside hit, missed other inside] at same
        simp at same
      refine ⟨consistent.apart.concat apart, ?_⟩
      intro other inside hit
      rcases List.mem_append.mp inside with early | last
      · have kept := isMatch_congr (addParameters_address info.organizer participant)
          (addParameters_ccmpUri info.organizer participant) other
        rw [apart other early] at kept
        exact absurd hit (by simp [kept])
      · exact List.mem_singleton.mp last
    next other =>
      refine ⟨consistent.apart.concat missed, ?_⟩
      intro added inside hit
      rcases List.mem_append.mp inside with early | last
      · exact consistent.organizer added early hit
      · rw [List.mem_singleton.mp last, isMatch_comm] at hit
        exact absurd hit other
  next found existing =>
    split
    next same =>
      apply shareOrganizer_consistent
      exact (consistent.apart.updateFirst (findParticipant_mem existing).1 (addParameters_address found participant)
        (addParameters_ccmpUri found participant)).1
    next => exact consistent

theorem Consistent.removeParticipant (consistent : info.Consistent) (participant : ParticipantInfo) :
    (info.removeParticipant participant).Consistent := by
  unfold ConferenceInfo.removeParticipant
  split
  next found existing =>
    exact ⟨consistent.apart.sublist List.eraseP_sublist,
      fun other inside => consistent.organizer other (List.mem_of_mem_eraseP inside)⟩
  next => exact consistent

theorem Consistent.setOrganizer (consistent : info.Consistent) (organizer : ParticipantInfo) :
    (info.setOrganizer organizer).Consistent := by
  unfold ConferenceInfo.setOrganizer
  split
  next found existing =>
    obtain ⟨apart, only⟩ := consistent.apart.updateFirst (findParticipant_mem existing).1
      (addParameters_address found organizer) (addParameters_ccmpUri found organizer)
    exact ⟨apart, only⟩
  next missing =>
    refine ⟨consistent.apart, fun other inside hit => ?_⟩
    simp [findParticipant_none missing other inside] at hit

theorem Apart.map {change : ParticipantInfo → ParticipantInfo}
    (address : ∀ participant, (change participant).address = participant.address)
    (ccmpUri : ∀ participant, (change participant).ccmpUri = participant.ccmpUri) (apart : Apart participants) :
    Apart (participants.map change) := by
  refine List.pairwise_map.mpr (List.Pairwise.imp ?_ apart)
  intro first second missed
  rw [isMatch_congr (address first) (ccmpUri first), isMatch_comm, isMatch_congr (address second) (ccmpUri second),
    isMatch_comm, missed]

@[simp] theorem keepSequence_ccmpUri (others : List ParticipantInfo) (participant : ParticipantInfo) :
    (keepSequence others participant).ccmpUri = participant.ccmpUri := by
  unfold keepSequence
  split
  next => rfl
  next => rfl

theorem updateFrom_consistent {given : ConferenceInfo} (apart : Apart info.participants) :
    (info.updateFrom given).Consistent :=
  shareOrganizer_consistent (apart.map (keepSequence_address _) (keepSequence_ccmpUri _))

section Sequences

theorem sequenceOf_congr {first second : Address} (same : first.weakEqual second = true) (info : ConferenceInfo) :
    info.sequenceOf first = info.sequenceOf second := by
  simp only [sequenceOf, findByAddress, Address.weakEqual_congr same]

theorem sequenceOf_same {first second : ConferenceInfo} (same : first.participants = second.participants)
    (address : Address) : first.sequenceOf address = second.sequenceOf address := by
  simp only [sequenceOf, findByAddress, same]

theorem sequenceOf_none {address : Address} :
    info.sequenceOf address = none ↔ hasParticipant info.participants address = false := by
  simp [sequenceOf, findByAddress, hasParticipant]

theorem sequenceOf_some {address : Address} (present : hasParticipant info.participants address = true) :
    ∃ sequence, info.sequenceOf address = some sequence := by
  apply Option.ne_none_iff_exists'.mp
  intro missing
  simp [sequenceOf_none.mp missing] at present

theorem sequenceOf_of_mem (apart : Apart info.participants) (member : participant ∈ info.participants)
    {address : Address} (same : address.weakEqual participant.address.address = true) :
    info.sequenceOf address = some participant.sequence := by
  rw [sequenceOf, findByAddress_of_mem apart member same, Option.map_some]

/-- Lookups in a list some of whose entries were renumbered. -/
theorem find?_renumbered {change : ParticipantInfo → ParticipantInfo}
    (kept : ∀ participant, (change participant).address = participant.address) (address : Address)
    (participants : List ParticipantInfo) :
    (participants.map change).find? (fun other => address.weakEqual other.address.address) =
      (participants.find? fun other => address.weakEqual other.address.address).map change := by
  rw [List.find?_map]
  simp only [Function.comp_def, kept]

theorem keepSequence_sequence (given : ConferenceInfo) {address : Address}
    (same : address.weakEqual participant.address.address = true) :
    (keepSequence given.participants participant).sequence = (given.sequenceOf address).getD participant.sequence := by
  simp only [keepSequence, sequenceOf, findByAddress, Address.weakEqual_congr same]
  split
  next other found => simp [found]
  next missing => simp [missing]

/-- A participant has the number that the other info has for it, if it has one. -/
theorem sequenceOf_updateFrom (info given : ConferenceInfo) (address : Address) :
    (info.updateFrom given).sequenceOf address =
      (info.sequenceOf address).map fun sequence => (given.sequenceOf address).getD sequence := by
  simp only [sequenceOf, findByAddress, updateFrom_participants, find?_renumbered (keepSequence_address _)]
  cases found : info.participants.find? fun other => address.weakEqual other.address.address with
  | none => rfl
  | some participant =>
    have same : address.weakEqual participant.address.address = true := by simpa using List.find?_some found
    simpa [sequenceOf, findByAddress] using keepSequence_sequence given same

/-- What the scheduler wrote to through the info it was given keeps its numbers, when
the given info took them from it. -/
theorem sequenceOf_writtenThrough (held : Address → Bool) (given own : ConferenceInfo) (address : Address)
    (taken : ∀ sequence, own.sequenceOf address = some sequence → given.sequenceOf address = none ∨
      given.sequenceOf address = some sequence) :
    (writtenThrough held given own).sequenceOf address = own.sequenceOf address := by
  have kept : ∀ participant : ParticipantInfo,
      (if held participant.address.address then keepSequence given.participants participant else participant).address =
        participant.address := by
    intro participant
    split
    next => exact keepSequence_address _ _
    next => rfl
  simp only [sequenceOf, findByAddress, writtenThrough, shareOrganizer_participants, find?_renumbered kept]
  cases found : own.participants.find? fun other => address.weakEqual other.address.address with
  | none => rfl
  | some participant =>
    have same : address.weakEqual participant.address.address = true := by simpa using List.find?_some found
    have own : own.sequenceOf address = some participant.sequence := by simp [sequenceOf, findByAddress, found]
    simp only [Option.map_some, Option.some.injEq]
    split
    next =>
      rw [keepSequence_sequence given same]
      rcases taken _ own with missing | equal
      · simp [missing]
      · simp [equal]
    next => rfl

end Sequences

theorem Consistent.congr {same : ConferenceInfo} (consistent : info.Consistent)
    (participants : same.participants = info.participants) (organizer : same.organizer = info.organizer) :
    same.Consistent := by
  constructor
  · exact participants ▸ consistent.apart
  · rw [participants, organizer]
    exact consistent.organizer

/-- Some participants were renewed a number of times, and nothing else that an
invitation reads was changed. -/
structure Renewed (times : Address → Nat) (before after : ConferenceInfo) : Prop where
  consistent : after.Consistent
  uri : after.uri = before.uri
  icsSequence : after.icsSequence = before.icsSequence
  state : after.state = before.state
  organizer : after.organizer.address = before.organizer.address
  sequence : ∀ address, after.sequenceOf address = (before.sequenceOf address).map nextSequence^[times address]

theorem Renewed.unchanged (consistent : info.Consistent) : Renewed (fun _ => 0) info info where
  consistent := consistent
  uri := rfl
  icsSequence := rfl
  state := rfl
  organizer := rfl
  sequence := by simp

theorem Renewed.trans {times again : Address → Nat} {before middle after : ConferenceInfo}
    (first : Renewed times before middle) (second : Renewed again middle after) :
    Renewed (fun address => times address + again address) before after where
  consistent := second.consistent
  uri := second.uri.trans first.uri
  icsSequence := second.icsSequence.trans first.icsSequence
  state := second.state.trans first.state
  organizer := second.organizer.trans first.organizer
  sequence := by
    intro address
    rw [second.sequence, first.sequence, Option.map_map, Nat.add_comm, Function.iterate_add]

/-- A participant that is updated is the last one afterwards. -/
theorem updateParticipant_moves (consistent : info.Consistent) (member : participant ∈ info.participants)
    {renewed : ParticipantInfo} (address : renewed.address = participant.address)
    (ccmpUri : renewed.ccmpUri = participant.ccmpUri) (counted : 0 ≤ renewed.sequence) :
    ∃ before after last, info.participants = before ++ participant :: after ∧
      (∀ other ∈ before ++ after, participant.isMatch other = false) ∧
      (info.updateParticipant renewed).participants = before ++ after ++ [last] ∧
      last.address = participant.address ∧ last.sequence = renewed.sequence ∧
      (info.updateParticipant renewed).organizer.address = info.organizer.address ∧
      (info.updateParticipant renewed).uri = info.uri ∧ (info.updateParticipant renewed).state = info.state ∧
      (info.updateParticipant renewed).icsSequence = info.icsSequence := by
  obtain ⟨before, after, whole, missed, erased⟩ := consistent.apart.split member
  have found := findParticipant_of_mem consistent.apart member address
  have removed : info.removeParticipant renewed = { info with participants := before ++ after } := by
    simp only [removeParticipant, found, erased]
  have absent : (info.removeParticipant renewed).findParticipant renewed = none := by
    apply findParticipant_missed
    intro other inside
    rw [isMatch_congr address ccmpUri]
    exact missed other (by simpa [removed] using inside)
  by_cases same : renewed.isMatch info.organizer = true
  · have organizer : participant = info.organizer := by
      apply consistent.organizer participant member
      rw [isMatch_comm, ← isMatch_congr address ccmpUri]
      exact same
    have result : info.updateParticipant renewed =
        { info with
          organizer := info.organizer.addParameters renewed
          participants := before ++ after ++ [info.organizer.addParameters renewed] } := by
      simp only [updateParticipant, found, addParticipant, absent]
      simp only [removed, same, ↓reduceIte]
    rw [result]
    refine ⟨before, after, _, whole, missed, rfl, ?_, ?_, rfl, rfl, rfl, rfl⟩
    · rw [addParameters_address, organizer]
    · simp [addParameters, counted]
  · have result : info.updateParticipant renewed = { info with participants := before ++ after ++ [renewed] } := by
      simp only [updateParticipant, found, addParticipant, absent]
      simp only [removed, same, Bool.false_eq_true, ↓reduceIte]
    rw [result]
    exact ⟨before, after, renewed, whole, missed, rfl, address, rfl, rfl, rfl, rfl, rfl⟩

theorem Consistent.updateParticipant (consistent : info.Consistent) (participant : ParticipantInfo) :
    (info.updateParticipant participant).Consistent := by
  unfold ConferenceInfo.updateParticipant
  split
  next => exact (consistent.removeParticipant participant).addParticipant participant
  next => exact consistent

/-- The number of an address when the participant it finds was moved to the end. -/
theorem sequenceOf_moved {before after : List ParticipantInfo} {last : ParticipantInfo} {moved : ConferenceInfo}
    (whole : info.participants = before ++ participant :: after)
    (missed : ∀ other ∈ before ++ after, participant.isMatch other = false)
    (result : moved.participants = before ++ after ++ [last]) (kept : last.address = participant.address)
    (address : Address) :
    moved.sequenceOf address =
      if address.weakEqual participant.address.address then some last.sequence else info.sequenceOf address := by
  simp only [sequenceOf, findByAddress, whole, result]
  by_cases same : address.weakEqual participant.address.address = true
  · have others : (before ++ after).find? (fun other => address.weakEqual other.address.address) = none := by
      refine List.find?_eq_none.mpr fun other inside hit => ?_
      have both := Address.weakEqual_trans (Address.weakEqual_symm same) hit
      have different := missed other inside
      rw [isMatch_iff.mpr (.inl both)] at different
      simp at different
    rw [List.find?_append, others]
    simp [kept, same]
  · rw [List.find?_append, List.find?_append, List.find?_append]
    simp [kept, same]

theorem updateParticipant_renewed (consistent : info.Consistent) (member : participant ∈ info.participants)
    {renewed : ParticipantInfo} (address : renewed.address = participant.address)
    (ccmpUri : renewed.ccmpUri = participant.ccmpUri) (sequence : renewed.sequence = nextSequence participant.sequence)
    {invitee : Address} (hit : invitee.weakEqual participant.address.address = true) :
    Renewed (fun address => if address.weakEqual invitee then 1 else 0) info (info.updateParticipant renewed) := by
  have counted : 0 ≤ renewed.sequence := sequence ▸ (nextSequence_lt participant.sequence).2
  obtain ⟨before, after, last, whole, missed, result, kept, renumbered, organizer, uri, state, icsSequence⟩ :=
    updateParticipant_moves consistent member address ccmpUri counted
  refine ⟨consistent.updateParticipant _, uri, icsSequence, state, organizer, fun address => ?_⟩
  rw [sequenceOf_moved whole missed result kept, Address.weakEqual_congr_right hit, renumbered, sequence]
  split
  next same => simp [sequenceOf_of_mem consistent.apart member same]
  next => simp

end ConferenceInfo

open ConferenceInfo ParticipantInfo

variable {info : ConferenceInfo}

theorem renewInvitee_renewed (consistent : info.Consistent) (dbInfo : Option ConferenceInfo) (invitee : SharedAddress) :
    Renewed (fun address => if address.weakEqual invitee.address then 1 else 0) info (renewInvitee dbInfo info invitee) := by
  unfold renewInvitee
  split
  next missing =>
    refine { Renewed.unchanged consistent with sequence := fun address => ?_ }
    split
    next same =>
      have absent : info.sequenceOf address = none := by
        rw [sequenceOf_congr same, sequenceOf, missing, Option.map_none]
      simp [absent]
    next => simp
  next participant found =>
    have hit : invitee.address.weakEqual participant.address.address = true := by simpa using List.find?_some found
    refine updateParticipant_renewed consistent (List.mem_of_find?_eq_some found) ?_ ?_ ?_ hit
    · rfl
    · rfl
    · rfl

/-- Each of the invitees is renewed as often as it is listed. -/
theorem renewInvitees_renewed (dbInfo : Option ConferenceInfo) (invitees : List SharedAddress) {info : ConferenceInfo}
    (consistent : info.Consistent) :
    Renewed (fun address => invitees.countP fun invitee => address.weakEqual invitee.address) info
      (invitees.foldl (renewInvitee dbInfo) info) := by
  induction invitees generalizing info with
  | nil => exact Renewed.unchanged consistent
  | cons invitee rest ih =>
    have first := renewInvitee_renewed consistent dbInfo invitee
    have whole := first.trans (ih first.consistent)
    simpa only [List.foldl_cons, List.countP_cons, Nat.add_comm] using whole

theorem renewOrganizer_renewed (consistent : info.Consistent) : Renewed (fun _ => 0) info (renewOrganizer info) := by
  unfold renewOrganizer
  split
  next => exact Renewed.unchanged consistent
  next missing =>
    have absent : info.findParticipant { info.organizer with sequence := nextSequence info.organizer.sequence } = none := by
      apply findParticipant_missed
      intro other inside
      by_contra hit
      rw [Bool.not_eq_false] at hit
      obtain rfl := consistent.organizer other inside hit
      simpa using List.find?_eq_none.mp missing info.organizer inside
    have result : info.setOrganizer { info.organizer with sequence := nextSequence info.organizer.sequence } =
        { info with organizer := { info.organizer with sequence := nextSequence info.organizer.sequence } } := by
      simp only [setOrganizer, absent]
    have kept := consistent.setOrganizer { info.organizer with sequence := nextSequence info.organizer.sequence }
    rw [result] at kept ⊢
    exact ⟨kept, rfl, rfl, rfl, rfl, by simp [sequenceOf, findByAddress]⟩

end Liblinphone
