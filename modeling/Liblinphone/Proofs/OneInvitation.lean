import Liblinphone.Proofs.SchedulerConference

/-! One invitation for each invitee. The list of those who are invited is made of
objects, so that an address that two objects hold is invited twice, and the numbers
of the invitations grow from one round to the next. -/

namespace Liblinphone

open ConferenceInfo ParticipantInfo

/-- The number that an address is sent when the participants were renewed. It is
negative when there is none. -/
def requestedSequence (cancelToSend : List (SharedAddress × Int)) (info : ConferenceInfo) (address : Address) : Int :=
  match cancelToSend.find? fun entry => address.weakEqual entry.1.address with
  | some entry => entry.2
  | none => (info.sequenceOf address).getD (-1)

/-- A message, when the calendar events of its round have numbers between two
bounds. -/
structure Numbered (cancelToSend : List (SharedAddress × Int)) (info : ConferenceInfo) (upper : Nat)
    (message : SentInvitation) : Prop where
  cancel : message.cancel = (cancelToSend.any (fun entry => entry.1.pointer == message.recipient.pointer) ||
    info.state == .cancelled)
  requested : 0 ≤ requestedSequence cancelToSend info message.recipient.address →
    message.sequence = requestedSequence cancelToSend info message.recipient.address
  unnumbered : requestedSequence cancelToSend info message.recipient.address < 0 →
    info.icsSequence ≤ message.sequence ∧ message.sequence ≤ upper

/-- The state while the invitations are sent, seen from the state before. -/
structure Sending (start : ConferenceScheduler) (renewed : ConferenceInfo)
    (state : ConferenceScheduler × ConferenceInfo × List SentInvitation) : Prop where
  cancelToSend : state.1.cancelToSend = start.cancelToSend
  invitationsToSend : state.1.invitationsToSend = start.invitationsToSend
  info : state.2.1 = { renewed with icsUid := state.2.1.icsUid, icsSequence := state.2.1.icsSequence }
  later : renewed.icsSequence ≤ state.2.1.icsSequence
  stored : state.2.2 ≠ [] → ∀ uri, renewed.uri.valid? = some uri →
    ∃ loads, state.1.db.getConferenceInfoFromURI uri = some (ConferenceInfoDb.load loads state.2.1)
  messages : ∀ message ∈ state.2.2, Numbered start.cancelToSend renewed state.2.1.icsSequence message

variable {scheduler start : ConferenceScheduler} {info renewed : ConferenceInfo}
  {state : ConferenceScheduler × ConferenceInfo × List SentInvitation}

/-- Neither the UID nor the number of the calendar event matters to a participant. -/
theorem requestedSequence_named {cancelToSend : List (SharedAddress × Int)} {named : ConferenceInfo}
    (same : named.participants = info.participants) (address : Address) :
    requestedSequence cancelToSend named address = requestedSequence cancelToSend info address := by
  simp only [requestedSequence, sequenceOf_same same]

theorem Numbered.mono {cancelToSend : List (SharedAddress × Int)} {upper bound : Nat} {message : SentInvitation}
    (numbered : Numbered cancelToSend info upper message) (le : upper ≤ bound) :
    Numbered cancelToSend info bound message where
  cancel := numbered.cancel
  requested := numbered.requested
  unnumbered := by
    intro missing
    have bounds := numbered.unnumbered missing
    omega

theorem Sending.same (sending : Sending start renewed state) : state.2.1.participants = renewed.participants ∧
    state.2.1.organizer = renewed.organizer ∧ state.2.1.uri = renewed.uri ∧ state.2.1.state = renewed.state := by
  rw [sending.info]
  exact ⟨rfl, rfl, rfl, rfl⟩

namespace ConferenceScheduler

theorem sequenceFor_eq (scheduler : ConferenceScheduler) (info : ConferenceInfo) (address : Address) :
    scheduler.sequenceFor info address =
      if 0 ≤ requestedSequence scheduler.cancelToSend info address then
        requestedSequence scheduler.cancelToSend info address
      else info.icsSequence := rfl

theorem createInvitationChatMessage_sending (uid : String) (participant : SharedAddress)
    (sending : Sending start renewed state) :
    Sending start renewed (createInvitationChatMessage uid state participant) := by
  obtain ⟨participants, -, -, stage⟩ := sending.same
  have sequence := sequenceFor_eq state.1 state.2.1 participant.address
  rw [sending.cancelToSend, requestedSequence_named participants] at sequence
  have grows : state.2.1.icsSequence ≤ (createInvitationChatMessage uid state participant).2.1.icsSequence := by
    simp only [createInvitationChatMessage]
    split
    next => omega
    next => exact le_refl _
  refine ⟨sending.cancelToSend, sending.invitationsToSend, ?_, sending.later.trans grows, ?_, ?_⟩
  · simp only [createInvitationChatMessage]
    rw [sending.info]
  · intro _ uri valid
    have named : (createInvitationChatMessage uid state participant).2.1.uri.valid? = some uri := by
      simp only [createInvitationChatMessage]
      rw [sending.info]
      exact valid
    have inserted := ConferenceInfoDb.insertConferenceInfo_valid named state.1.db
    refine ⟨_, ConferenceInfoDb.getConferenceInfoFromURI_inserted named (?_ : state.1.db.insertConferenceInfo _ = _)⟩
    exact inserted.trans (congrArg some (by simp only [createInvitationChatMessage] at inserted ⊢; rw [inserted]; rfl))
  · intro message member
    rcases List.mem_append.mp member with early | last
    · exact Numbered.mono (sending.messages message early) grows
    · rw [List.mem_singleton.mp last]
      refine ⟨?_, ?_, ?_⟩
      · simp only [sending.cancelToSend, stage]
      · intro counted
        exact sequence.trans (if_pos counted)
      · intro missing
        have unnumbered := sequence.trans (if_neg (not_le.mpr missing))
        have lower := sending.later
        refine ⟨?_, ?_⟩
        · simp only [unnumbered]
          omega
        · simp only [unnumbered]
          omega

theorem foldl_sending (uid : String) (targets : List SharedAddress) (sending : Sending start renewed state) :
    Sending start renewed (targets.foldl (createInvitationChatMessage uid) state) := by
  induction targets generalizing state with
  | nil => exact sending
  | cons participant rest ih => exact ih (createInvitationChatMessage_sending uid participant sending)

theorem foldl_recipients (uid : String) (targets : List SharedAddress)
    (state : ConferenceScheduler × ConferenceInfo × List SentInvitation) :
    (targets.foldl (createInvitationChatMessage uid) state).2.2.map (·.recipient) =
      state.2.2.map (·.recipient) ++ targets := by
  induction targets generalizing state with
  | nil => simp
  | cons participant rest ih => simp [ih, createInvitationChatMessage]

def invitees (scheduler : ConferenceScheduler) (info : ConferenceInfo) : List SharedAddress :=
  info.participants.map (·.address) ++ scheduler.cancelToSend.map (·.1)

variable {core : SchedulerCore} {params : InvitationParams} {sender : Address}

theorem sendInvitations_eq (can : scheduler.canInvite core params = some (info, sender))
    (hasChatRoom : SharedAddress → Bool) (uid : String) :
    scheduler.sendInvitations core params hasChatRoom uid =
      let result := ((invitationList sender info.organizer.address (scheduler.invitees info)).filter hasChatRoom).foldl
        (createInvitationChatMessage uid)
        ({ scheduler with
            invitationsToSend := invitationList sender info.organizer.address (scheduler.invitees info)
            db.loads := scheduler.db.loads + 1 },
          renewOrganizer ((scheduler.invitees info).foldl
            (renewInvitee (info.uri.valid?.bind scheduler.db.getConferenceInfoFromURI)) info), [])
      ({ result.1 with conferenceInfo := some result.2.1 }, result.2.2) := by
  simp only [sendInvitations, can]
  rfl

/-- What sending the invitations does: the participants are renewed, and each
invitee with whom there is a chat room is sent a message. -/
theorem sendInvitations_spec (can : scheduler.canInvite core params = some (info, sender)) (consistent : info.Consistent)
    (hasChatRoom : SharedAddress → Bool) (uid : String) :
    ∃ renewed own, Renewed (fun address => (scheduler.invitees info).countP fun invitee =>
        address.weakEqual invitee.address) info renewed ∧
      (scheduler.sendInvitations core params hasChatRoom uid).1.conferenceInfo = some own ∧
      (scheduler.sendInvitations core params hasChatRoom uid).1.invitationsToSend =
        invitationList sender info.organizer.address (scheduler.invitees info) ∧
      (scheduler.sendInvitations core params hasChatRoom uid).2.map (·.recipient) =
        (invitationList sender info.organizer.address (scheduler.invitees info)).filter hasChatRoom ∧
      Sending { scheduler with
          invitationsToSend := invitationList sender info.organizer.address (scheduler.invitees info) } renewed
        ((scheduler.sendInvitations core params hasChatRoom uid).1, own,
          (scheduler.sendInvitations core params hasChatRoom uid).2) := by
  have renewal := renewInvitees_renewed (info.uri.valid?.bind scheduler.db.getConferenceInfoFromURI)
    (scheduler.invitees info) consistent
  have whole := renewal.trans (renewOrganizer_renewed renewal.consistent)
  have sending : Sending
      { scheduler with
        invitationsToSend := invitationList sender info.organizer.address (scheduler.invitees info)
        db.loads := scheduler.db.loads + 1 }
      (renewOrganizer ((scheduler.invitees info).foldl
        (renewInvitee (info.uri.valid?.bind scheduler.db.getConferenceInfoFromURI)) info))
      (_, _, []) := ⟨rfl, rfl, rfl, le_refl _, by simp, by simp⟩
  have final := foldl_sending uid
    ((invitationList sender info.organizer.address (scheduler.invitees info)).filter hasChatRoom) sending
  have recipients := foldl_recipients uid
    ((invitationList sender info.organizer.address (scheduler.invitees info)).filter hasChatRoom)
    ({ scheduler with
        invitationsToSend := invitationList sender info.organizer.address (scheduler.invitees info)
        db.loads := scheduler.db.loads + 1 },
      renewOrganizer ((scheduler.invitees info).foldl
        (renewInvitee (info.uri.valid?.bind scheduler.db.getConferenceInfoFromURI)) info), [])
  have result := sendInvitations_eq can hasChatRoom uid
  rw [result]
  exact ⟨_, _, whole, rfl, final.invitationsToSend, recipients,
    ⟨final.cancelToSend, final.invitationsToSend, final.info, final.later, final.stored, final.messages⟩⟩

end ConferenceScheduler

/-- Two addresses of different people. -/
def SharedAddress.Differs (first second : SharedAddress) : Prop := first.address.weakEqual second.address = false

instance : Std.Symm SharedAddress.Differs where
  symm _ _ differ := (Address.weakEqual_comm _ _).trans differ

/-- Every invitee but the sender is invited once, and is told that the conference is
cancelled when it is so for that invitee. -/
structure OneEach (sender : Address) (info : ConferenceInfo) (cancelToSend : List (SharedAddress × Int))
    (invitationsToSend : List SharedAddress) (sent : List SentInvitation) : Prop where
  distinct : invitationsToSend.Pairwise SharedAddress.Differs
  notSender : ∀ invitee ∈ invitationsToSend, sender.weakEqual invitee.address = false
  participants : ∀ participant ∈ info.participants, sender.weakEqual participant.address.address = false →
    participant.address ∈ invitationsToSend
  cancelled : ∀ entry ∈ cancelToSend, sender.weakEqual entry.1.address = false → entry.1 ∈ invitationsToSend
  organizer : sender.weakEqual info.organizer.address.address = false → info.organizer.address ∈ invitationsToSend
  cancel : ∀ message ∈ sent, message.cancel = true ↔
    (∃ entry ∈ cancelToSend, message.recipient.address.weakEqual entry.1.address = true) ∨ info.state = .cancelled

/-- Nobody but the sender whose invitation is cancelled is a participant, or is the
organizer through another object. -/
structure CancelledApart (sender : Address) (info : ConferenceInfo) (cancelToSend : List (SharedAddress × Int)) :
    Prop where
  participants : ∀ entry ∈ cancelToSend, sender.weakEqual entry.1.address = false →
    hasParticipant info.participants entry.1.address = false
  organizer : ∀ entry ∈ cancelToSend, sender.weakEqual entry.1.address = false →
    entry.1.address.weakEqual info.organizer.address.address = true → entry.1.pointer = info.organizer.address.pointer

/-- An object has one address. -/
def SameObjects (addresses : List SharedAddress) : Prop :=
  ∀ first ∈ addresses, ∀ second ∈ addresses, first.pointer = second.pointer → first = second

section InvitationList

variable {sender : Address} {organizer : SharedAddress} {invitees : List SharedAddress}

/-- The invitees but the sender. -/
def others (sender : Address) (invitees : List SharedAddress) : List SharedAddress :=
  invitees.filter fun invitee => !sender.weakEqual invitee.address

@[simp] theorem mem_others {invitee : SharedAddress} :
    invitee ∈ others sender invitees ↔ invitee ∈ invitees ∧ sender.weakEqual invitee.address = false := by
  simp [others]

/-- The organizer is the sender or one of the invitees, or it is added to them. -/
theorem invitationList_cases (sender : Address) (organizer : SharedAddress) (invitees : List SharedAddress) :
    ((sender.weakEqual organizer.address = true ∨ ∃ other ∈ others sender invitees, other.pointer = organizer.pointer) ∧
      invitationList sender organizer invitees = others sender invitees) ∨
    (sender.weakEqual organizer.address = false ∧ (∀ other ∈ others sender invitees, other.pointer ≠ organizer.pointer) ∧
      invitationList sender organizer invitees = others sender invitees ++ [organizer]) := by
  by_cases found : (sender.weakEqual organizer.address ||
      (others sender invitees).any fun other => other.pointer == organizer.pointer) = true
  · exact .inl ⟨by simpa using found, if_pos found⟩
  · refine .inr ⟨?_, ?_, if_neg found⟩
    · by_contra sends
      exact found (by simp [sends])
    · intro other inside same
      apply found
      simp only [Bool.or_eq_true, List.any_eq_true, beq_iff_eq]
      exact .inr ⟨other, inside, same⟩

theorem mem_invitationList {invitee : SharedAddress} (member : invitee ∈ invitationList sender organizer invitees) :
    sender.weakEqual invitee.address = false ∧ (invitee ∈ invitees ∨ invitee = organizer) := by
  rcases invitationList_cases sender organizer invitees with ⟨-, result⟩ | ⟨sends, -, result⟩
  · rw [result, mem_others] at member
    exact ⟨member.2, .inl member.1⟩
  · rw [result] at member
    rcases List.mem_append.mp member with early | last
    · obtain ⟨inside, other⟩ := mem_others.mp early
      exact ⟨other, .inl inside⟩
    · obtain rfl := List.mem_singleton.mp last
      exact ⟨sends, .inr rfl⟩

theorem invitee_mem_invitationList {invitee : SharedAddress} (member : invitee ∈ invitees)
    (other : sender.weakEqual invitee.address = false) : invitee ∈ invitationList sender organizer invitees := by
  have kept : invitee ∈ others sender invitees := mem_others.mpr ⟨member, other⟩
  rcases invitationList_cases sender organizer invitees with ⟨-, result⟩ | ⟨-, -, result⟩
  · rwa [result]
  · rw [result]
    exact List.mem_append_left _ kept

theorem organizer_mem_invitationList (objects : SameObjects (invitees ++ [organizer]))
    (other : sender.weakEqual organizer.address = false) : organizer ∈ invitationList sender organizer invitees := by
  rcases invitationList_cases sender organizer invitees with ⟨found, result⟩ | ⟨-, -, result⟩
  · obtain ⟨invitee, inside, same⟩ := found.resolve_left (by simp [other])
    have member : invitee ∈ invitees := (mem_others.mp inside).1
    rw [result, ← objects invitee (by simp [member]) organizer (by simp) same]
    exact inside
  · simp [result]

theorem eq_of_distinct {invited : List SharedAddress} (distinct : invited.Pairwise SharedAddress.Differs)
    {first second : SharedAddress} (member : first ∈ invited) (inside : second ∈ invited)
    (same : first.address.weakEqual second.address = true) : first = second := by
  by_contra different
  have differ : first.address.weakEqual second.address = false := distinct.forall member inside different
  simp [same] at differ

end InvitationList

section OneEach

variable {sender : Address} {info : ConferenceInfo} {cancelToSend : List (SharedAddress × Int)}
  (objects : SameObjects (info.participants.map (·.address) ++ cancelToSend.map (·.1) ++ [info.organizer.address]))

include objects in
theorem cancelledApart_of_distinct
    (distinct : (invitationList sender info.organizer.address
      (info.participants.map (·.address) ++ cancelToSend.map (·.1))).Pairwise SharedAddress.Differs) :
    CancelledApart sender info cancelToSend where
  participants := by
    intro entry member other
    by_contra present
    simp only [hasParticipant, Bool.not_eq_false, List.any_eq_true] at present
    obtain ⟨participant, inside, same⟩ := present
    have apart : (others sender (info.participants.map (·.address) ++ cancelToSend.map (·.1))).Pairwise
        SharedAddress.Differs := by
      rcases invitationList_cases sender info.organizer.address
        (info.participants.map (·.address) ++ cancelToSend.map (·.1)) with ⟨-, result⟩ | ⟨-, -, result⟩
      · exact result ▸ distinct
      · rw [result] at distinct
        exact (List.pairwise_append.mp distinct).1
    rw [others, List.filter_append, List.pairwise_append] at apart
    have differ : participant.address.address.weakEqual entry.1.address = false := by
      apply apart.2.2
      · exact mem_others.mpr ⟨List.mem_map_of_mem inside, by rw [← Address.weakEqual_congr_right same, other]⟩
      · exact mem_others.mpr ⟨List.mem_map_of_mem member, other⟩
    rw [Address.weakEqual_comm, same] at differ
    simp at differ
  organizer := by
    intro entry member other same
    have told : entry.1 ∈ info.participants.map (·.address) ++ cancelToSend.map (·.1) :=
      List.mem_append_right _ (List.mem_map_of_mem member)
    have invited := organizer_mem_invitationList objects (by rw [← Address.weakEqual_congr_right same, other])
    rw [eq_of_distinct distinct (invitee_mem_invitationList told other) invited same]

theorem distinct_of_cancelledApart (consistent : info.Consistent)
    (once : (cancelToSend.map (·.1)).Pairwise SharedAddress.Differs) (apart : CancelledApart sender info cancelToSend) :
    (invitationList sender info.organizer.address
      (info.participants.map (·.address) ++ cancelToSend.map (·.1))).Pairwise SharedAddress.Differs := by
  have participants : (info.participants.map (·.address)).Pairwise SharedAddress.Differs := by
    refine List.pairwise_map.mpr (List.Pairwise.imp ?_ consistent.apart)
    intro first second missed
    unfold SharedAddress.Differs
    by_contra same
    rw [isMatch_iff.mpr (.inl (by simpa using same))] at missed
    simp at missed
  have all : (others sender (info.participants.map (·.address) ++ cancelToSend.map (·.1))).Pairwise
      SharedAddress.Differs := by
    rw [others, List.filter_append]
    refine List.pairwise_append.mpr ⟨participants.filter _, once.filter _, ?_⟩
    intro first member second inside
    obtain ⟨participant, joined, rfl⟩ := List.mem_map.mp (List.mem_filter.mp member).1
    obtain ⟨entry, told, rfl⟩ := List.mem_map.mp (List.mem_filter.mp inside).1
    have absent := apart.participants entry told (by simpa using (List.mem_filter.mp inside).2)
    unfold SharedAddress.Differs
    by_contra same
    have hit : hasParticipant info.participants entry.1.address = true :=
      List.any_eq_true.mpr ⟨participant, joined, Address.weakEqual_symm (by simpa using same)⟩
    simp [absent] at hit
  rcases invitationList_cases sender info.organizer.address
    (info.participants.map (·.address) ++ cancelToSend.map (·.1)) with ⟨-, result⟩ | ⟨sends, missed, result⟩
  · rw [result]
    exact all
  · rw [result]
    refine List.pairwise_append.mpr ⟨all, List.pairwise_singleton _ _, ?_⟩
    intro invitee member organizer single
    obtain rfl := List.mem_singleton.mp single
    obtain ⟨inside, other⟩ := mem_others.mp member
    unfold SharedAddress.Differs
    by_contra same
    rw [Bool.not_eq_false] at same
    apply missed invitee member
    rcases List.mem_append.mp inside with joined | told
    · obtain ⟨participant, invited, rfl⟩ := List.mem_map.mp joined
      rw [consistent.organizer participant invited (isMatch_iff.mpr (.inl (Address.weakEqual_symm same)))]
    · obtain ⟨entry, listed, rfl⟩ := List.mem_map.mp told
      exact apart.organizer entry listed other same

end OneEach

namespace ConferenceScheduler

variable {scheduler : ConferenceScheduler} {info : ConferenceInfo} {core : SchedulerCore} {params : InvitationParams}
  {sender : Address}

/-- A round invites each invitee once exactly when the cancelled are apart. -/
theorem oneEach_iff (can : scheduler.canInvite core params = some (info, sender)) (consistent : info.Consistent)
    (once : (scheduler.cancelToSend.map (·.1)).Pairwise SharedAddress.Differs)
    (objects : SameObjects (scheduler.invitees info ++ [info.organizer.address]))
    (hasChatRoom : SharedAddress → Bool) (uid : String) :
    OneEach sender info scheduler.cancelToSend (scheduler.sendInvitations core params hasChatRoom uid).1.invitationsToSend
      (scheduler.sendInvitations core params hasChatRoom uid).2 ↔
    CancelledApart sender info scheduler.cancelToSend := by
  obtain ⟨renewed, own, renewal, -, list, recipients, sending⟩ := sendInvitations_spec can consistent hasChatRoom uid
  rw [list]
  constructor
  · intro each
    exact cancelledApart_of_distinct objects each.distinct
  · intro apart
    have distinct := distinct_of_cancelledApart consistent once apart
    have told : ∀ entry ∈ scheduler.cancelToSend, entry.1 ∈ scheduler.invitees info :=
      fun entry member => List.mem_append_right _ (List.mem_map_of_mem member)
    refine ⟨distinct, fun invitee member => (mem_invitationList member).1, ?_, ?_,
      organizer_mem_invitationList objects, ?_⟩
    · intro participant member other
      exact invitee_mem_invitationList (List.mem_append_left _ (List.mem_map_of_mem member)) other
    · intro entry member other
      exact invitee_mem_invitationList (told entry member) other
    · intro message member
      have invited : message.recipient ∈ invitationList sender info.organizer.address (scheduler.invitees info) := by
        have inside := List.mem_map_of_mem (f := fun message : SentInvitation => message.recipient) member
        rw [recipients] at inside
        exact (List.mem_filter.mp inside).1
      obtain ⟨other, listed⟩ := mem_invitationList invited
      rw [(sending.messages message member).cancel, renewal.state, Bool.or_eq_true, List.any_eq_true, beq_iff_eq]
      refine or_congr ⟨?_, ?_⟩ Iff.rfl
      · rintro ⟨entry, inside, pointer⟩
        have object : entry.1 = message.recipient := by
          apply objects entry.1 (List.mem_append_left _ (told entry inside)) message.recipient _ (beq_iff_eq.mp pointer)
          rcases listed with invitee | organizer
          · exact List.mem_append_left _ invitee
          · simp [organizer]
        exact ⟨entry, inside, by simp [object]⟩
      · rintro ⟨entry, inside, same⟩
        have otherToo : sender.weakEqual entry.1.address = false := by rw [← Address.weakEqual_congr_right same, other]
        have object := eq_of_distinct distinct invited (invitee_mem_invitationList (told entry inside) otherToo) same
        exact ⟨entry, inside, by simp [object]⟩

section Rounds

variable {scheduler : ConferenceScheduler} {info own next : ConferenceInfo} {core : SchedulerCore}
  {params : InvitationParams} {sender : Address} {hasChatRoom : SharedAddress → Bool} {uid : String}

theorem sequenceOf_people (info : ConferenceInfo) (address : Address) :
    info.sequenceOf address = ((people info.participants).find? fun entry => address.weakEqual entry.1).map (·.2) := by
  simp only [sequenceOf, findByAddress, people, List.find?_map, Option.map_map]
  rfl

theorem sequenceOf_load (loads : Nat) (info : ConferenceInfo) (address : Address) :
    (ConferenceInfoDb.load loads info).sequenceOf address = info.sequenceOf address := by
  rw [sequenceOf_people, sequenceOf_people, ConferenceInfoDb.people_load]

theorem requestedSequence_kept {cancelToSend : List (SharedAddress × Int)} {address : Address}
    (kept : ∀ entry ∈ cancelToSend, address.weakEqual entry.1.address = false) :
    requestedSequence cancelToSend info address = (info.sequenceOf address).getD (-1) := by
  have missing : (cancelToSend.find? fun entry => address.weakEqual entry.1.address) = none := by
    simpa using kept
  simp only [requestedSequence, missing]

/-- A participant is an invitee. -/
theorem countP_pos {address : Address} (present : hasParticipant info.participants address = true) :
    ∃ times, ((scheduler.invitees info).countP fun invitee => address.weakEqual invitee.address) = times + 1 := by
  apply Nat.exists_eq_add_one.mpr
  apply List.countP_pos_iff.mpr
  obtain ⟨participant, member, same⟩ := List.any_eq_true.mp present
  exact ⟨participant.address, List.mem_append_left _ (List.mem_map_of_mem member), same⟩

/-- What a round leaves for the next one: the numbers that were sent. -/
structure Invited (info own : ConferenceInfo) (message : SentInvitation) : Prop where
  participant : hasParticipant info.participants message.recipient.address = true →
    own.sequenceOf message.recipient.address = some message.sequence
  other : hasParticipant info.participants message.recipient.address = false →
    own.sequenceOf message.recipient.address = none ∧ message.sequence ≤ own.icsSequence
  counted : 0 ≤ message.sequence

theorem sendInvitations_invited (can : scheduler.canInvite core params = some (info, sender))
    (consistent : info.Consistent) {uri : Address} (valid : info.uri.valid? = some uri) {message : SentInvitation}
    (sent : message ∈ (scheduler.sendInvitations core params hasChatRoom uid).2)
    (kept : ∀ entry ∈ scheduler.cancelToSend, message.recipient.address.weakEqual entry.1.address = false) :
    ∃ own loads, (scheduler.sendInvitations core params hasChatRoom uid).1.conferenceInfo = some own ∧
      own.uri = info.uri ∧ own.Consistent ∧ Invited info own message ∧
      (scheduler.sendInvitations core params hasChatRoom uid).1.db.getConferenceInfoFromURI uri =
        some (ConferenceInfoDb.load loads own) := by
  obtain ⟨renewed, own, renewal, holds, -, -, sending⟩ := sendInvitations_spec can consistent hasChatRoom uid
  obtain ⟨loads, stored⟩ := sending.stored (List.ne_nil_of_mem sent) uri (by rw [renewal.uri, valid])
  obtain ⟨participants, organizer, named, -⟩ := sending.same
  have sequences : ∀ address, own.sequenceOf address = renewed.sequenceOf address := sequenceOf_same participants
  have numbered : Numbered scheduler.cancelToSend renewed own.icsSequence message := sending.messages message sent
  have requested : requestedSequence scheduler.cancelToSend renewed message.recipient.address =
      (renewed.sequenceOf message.recipient.address).getD (-1) := requestedSequence_kept kept
  refine ⟨own, loads, holds, named.trans renewal.uri, renewal.consistent.congr participants organizer, ?_, stored⟩
  cases present : hasParticipant info.participants message.recipient.address with
  | true =>
    obtain ⟨sequence, old⟩ := sequenceOf_some present
    obtain ⟨times, count⟩ := @countP_pos scheduler info _ present
    have positive := iterate_nextSequence_lt sequence times
    have new : renewed.sequenceOf message.recipient.address = some (nextSequence^[times + 1] sequence) := by
      rw [renewal.sequence, old, Option.map_some, count]
    rw [new, Option.getD_some] at requested
    have number := (numbered.requested (requested ▸ positive.2)).trans requested
    refine ⟨fun _ => ?_, fun absent => by simp [present] at absent, number ▸ positive.2⟩
    rw [sequences, new, number]
  | false =>
    have old : info.sequenceOf message.recipient.address = none := sequenceOf_none.mpr present
    have new : renewed.sequenceOf message.recipient.address = none := by
      rw [renewal.sequence, old, Option.map_none]
    rw [new, Option.getD_none] at requested
    have bounds := numbered.unnumbered (by omega)
    refine ⟨fun joined => by simp [present] at joined, fun _ => ⟨(sequences _).trans new, bounds.2⟩, by omega⟩

/-- The scheduler's own info after an update of what it holds and the database has. -/
theorem updateConference_renumbers {loads : Nat} (holds : scheduler.conferenceInfo = some own) (apart : next.Consistent)
    (held : Address → Bool) :
    ∃ again, (scheduler.updateConference core next (ConferenceInfoDb.load loads own) held).conferenceInfo = some again ∧
      again.Consistent ∧ again.icsSequence = own.icsSequence + 1 ∧
      (∀ address, again.sequenceOf address =
        (next.sequenceOf address).map fun sequence => (own.sequenceOf address).getD sequence) ∧
      (scheduler.updateConference core next (ConferenceInfoDb.load loads own) held).state = .updating := by
  simp only [updateConference, holds]
  obtain ⟨again, scheduled, -, participants, organizer, icsSequence⟩ := schedule_holds
    (((scheduler.setState .updating).fillCancelList (ConferenceInfoDb.load loads own).participants
      (next.updateFrom (ConferenceInfoDb.load loads own)).participants).fillCancelList
      (writtenThrough held (next.updateFrom (ConferenceInfoDb.load loads own)) own).participants
      ((next.updateFrom (ConferenceInfoDb.load loads own)).updateFrom
        (writtenThrough held (next.updateFrom (ConferenceInfoDb.load loads own)) own)).participants) core
    ((next.updateFrom (ConferenceInfoDb.load loads own)).updateFrom
      (writtenThrough held (next.updateFrom (ConferenceInfoDb.load loads own)) own))
  refine ⟨again, scheduled, ?_, icsSequence, ?_, rfl⟩
  · exact (updateFrom_consistent (updateFrom_consistent apart.apart).apart).congr participants organizer
  · intro address
    have merged := sequenceOf_updateFrom next (ConferenceInfoDb.load loads own) address
    rw [sequenceOf_load] at merged
    have current := sequenceOf_writtenThrough held (next.updateFrom (ConferenceInfoDb.load loads own)) own address (by
      intro sequence known
      rw [merged, known]
      cases given : next.sequenceOf address with
      | none => exact .inl rfl
      | some old => exact .inr rfl)
    have same : again.sequenceOf address = ((next.updateFrom (ConferenceInfoDb.load loads own)).updateFrom
        (writtenThrough held (next.updateFrom (ConferenceInfoDb.load loads own)) own)).sequenceOf address :=
      sequenceOf_same participants address
    rw [same, sequenceOf_updateFrom, current, merged, Option.map_map]
    cases known : own.sequenceOf address with
    | none => rfl
    | some sequence => rfl

/-- Who stays is not told. -/
theorem cancelList_kept {address : Address} (present : hasParticipant next.participants address = true) :
    ∀ entry ∈ cancelList own.participants next.participants, address.weakEqual entry.1.address = false := by
  intro entry member
  obtain ⟨participant, -, absent, rfl⟩ := mem_cancelList.mp member
  by_contra same
  rw [← hasParticipant_congr (by simpa using same), present] at absent
  simp at absent

/-- Who was not there is not told. -/
theorem cancelList_unknown {address : Address} (unknown : hasParticipant own.participants address = false) :
    ∀ entry ∈ cancelList own.participants next.participants, address.weakEqual entry.1.address = false := by
  intro entry member
  obtain ⟨participant, inside, -, rfl⟩ := mem_cancelList.mp member
  by_contra same
  have present : hasParticipant own.participants address = true :=
    List.any_eq_true.mpr ⟨participant, inside, by simpa using same⟩
  simp [unknown] at present

theorem requestedSequence_cancelled (apart : own.Consistent) {address : Address} {sequence : Int}
    (known : own.sequenceOf address = some sequence) (absent : next.sequenceOf address = none) :
    requestedSequence (cancelList own.participants next.participants) info address = cancelSequence sequence := by
  have missing := sequenceOf_none.mp absent
  have told : ∀ entry ∈ cancelList own.participants next.participants, address.weakEqual entry.1.address = true →
      entry.2 = cancelSequence sequence := by
    intro entry member same
    obtain ⟨participant, inside, -, rfl⟩ := mem_cancelList.mp member
    rw [sequenceOf_of_mem apart.apart inside same, Option.some.injEq] at known
    rw [known]
  obtain ⟨participant, found, rfl⟩ := Option.map_eq_some_iff.mp known
  have hit : address.weakEqual participant.address.address = true := by simpa using List.find?_some found
  have listed : (participant.address, cancelSequence participant.sequence) ∈
      cancelList own.participants next.participants :=
    mem_cancelList.mpr ⟨participant, List.mem_of_find?_eq_some found, by rw [← hasParticipant_congr hit, missing], rfl⟩
  unfold requestedSequence
  split
  next entry first => exact told entry (List.mem_of_find?_eq_some first) (by simpa using List.find?_some first)
  next none => exact absurd hit (by simpa using List.find?_eq_none.mp none _ listed)

/-- A participant whom nobody cancels is listed once. -/
theorem countP_once (consistent : info.Consistent) {address : Address}
    (present : hasParticipant info.participants address = true)
    (kept : ∀ entry ∈ scheduler.cancelToSend, address.weakEqual entry.1.address = false) :
    ((scheduler.invitees info).countP fun invitee => address.weakEqual invitee.address) = 1 := by
  have nobody : ((scheduler.cancelToSend.map (·.1)).countP fun invitee => address.weakEqual invitee.address) = 0 := by
    simpa [List.countP_eq_zero] using kept
  obtain ⟨participant, member, same⟩ := List.any_eq_true.mp present
  obtain ⟨before, after, whole, missed, -⟩ := consistent.apart.split member
  have others : ∀ other ∈ before ++ after, address.weakEqual other.address.address = false := by
    intro other inside
    have different := missed other inside
    by_contra hit
    have both := Address.weakEqual_trans (Address.weakEqual_symm same) (by simpa using hit)
    rw [isMatch_iff.mpr (.inl both)] at different
    simp at different
  have early : ((before.map (·.address)).countP fun invitee => address.weakEqual invitee.address) = 0 := by
    simp only [List.countP_eq_zero, List.mem_map, forall_exists_index, and_imp, forall_apply_eq_imp_iff₂]
    intro other inside
    simp [others other (List.mem_append_left _ inside)]
  have late : ((after.map (·.address)).countP fun invitee => address.weakEqual invitee.address) = 0 := by
    simp only [List.countP_eq_zero, List.mem_map, forall_exists_index, and_imp, forall_apply_eq_imp_iff₂]
    intro other inside
    simp [others other (List.mem_append_right _ inside)]
  rw [invitees, List.countP_append, nobody, whole, List.map_append, List.countP_append, early, List.map_cons,
    List.countP_cons, late, if_pos same]

/-- The number of an invitation in the round after an update, in terms of the
numbers that the round before left. -/
theorem sequence_after_update {again : ConferenceInfo} (can : scheduler.canInvite core params = some (again, sender))
    (consistent : again.Consistent) (apart : own.Consistent)
    (icsSequence : again.icsSequence = own.icsSequence + 1)
    (renumbered : ∀ address, again.sequenceOf address =
      (next.sequenceOf address).map fun sequence => (own.sequenceOf address).getD sequence)
    (told : scheduler.cancelToSend = cancelList own.participants next.participants) {message : SentInvitation}
    (sent : message ∈ (scheduler.sendInvitations core params hasChatRoom uid).2) :
    (∀ sequence, own.sequenceOf message.recipient.address = some sequence → 0 ≤ sequence →
      sequence < message.sequence) ∧
    (own.sequenceOf message.recipient.address = none → next.sequenceOf message.recipient.address = none →
      own.icsSequence < message.sequence) ∧
    ∀ sequence, own.sequenceOf message.recipient.address = none →
      next.sequenceOf message.recipient.address = some sequence → sequence < 0 → message.sequence = 0 := by
  obtain ⟨renewed, final, renewal, -, -, -, sending⟩ := sendInvitations_spec can consistent hasChatRoom uid
  have numbered : Numbered scheduler.cancelToSend renewed final.icsSequence message := sending.messages message sent
  have stays : ∀ old, next.sequenceOf message.recipient.address = some old →
      message.sequence = nextSequence ((own.sequenceOf message.recipient.address).getD old) := by
    intro old given
    have present : hasParticipant next.participants message.recipient.address = true := by
      by_contra missing
      rw [sequenceOf_none.mpr (by simpa using missing)] at given
      simp at given
    have kept := @cancelList_kept own next _ present
    rw [← told] at kept
    have now : again.sequenceOf message.recipient.address =
        some ((own.sequenceOf message.recipient.address).getD old) := by rw [renumbered, given, Option.map_some]
    have listed : hasParticipant again.participants message.recipient.address = true := by
      by_contra missing
      rw [sequenceOf_none.mpr (by simpa using missing)] at now
      simp at now
    have requested : requestedSequence scheduler.cancelToSend renewed message.recipient.address =
        nextSequence ((own.sequenceOf message.recipient.address).getD old) := by
      rw [requestedSequence_kept kept, renewal.sequence, now, countP_once consistent listed kept]
      rfl
    have positive := (nextSequence_lt ((own.sequenceOf message.recipient.address).getD old)).2
    rw [numbered.requested (requested ▸ positive), requested]
  refine ⟨?_, ?_, ?_⟩
  · intro sequence known counted
    cases given : next.sequenceOf message.recipient.address with
    | some old =>
      rw [stays old given, known, Option.getD_some]
      exact (nextSequence_lt sequence).1
    | none =>
      have requested := @requestedSequence_cancelled renewed own next apart _ sequence known given
      rw [← told, cancelSequence, if_pos counted] at requested
      rw [numbered.requested (by omega), requested]
      omega
  · intro unknown given
    have kept := @cancelList_unknown own next _ (sequenceOf_none.mp unknown)
    rw [← told] at kept
    have missing : requestedSequence scheduler.cancelToSend renewed message.recipient.address = -1 := by
      rw [requestedSequence_kept kept, renewal.sequence, renumbered, given]
      rfl
    have bounds := numbered.unnumbered (by omega)
    rw [renewal.icsSequence, icsSequence] at bounds
    omega
  · intro sequence unknown given unset
    rw [stays sequence given, unknown, Option.getD_none, nextSequence, if_pos unset]

/-- A conference is given to the scheduler again, its server accepts it, and the
invitations are sent. -/
structure InvitationRound where
  core : SchedulerCore
  info : ConferenceInfo
  held : Address → Bool
  conferenceAddress : Option Address
  params : InvitationParams
  hasChatRoom : SharedAddress → Bool
  uid : String

def invite (scheduler : ConferenceScheduler) (round : InvitationRound) : ConferenceScheduler × List SentInvitation :=
  ((scheduler.setInfo round.core round.info round.held).1.setConferenceAddress round.conferenceAddress).sendInvitations
    round.core round.params round.hasChatRoom round.uid

theorem canInvite_of_sent {message : SentInvitation}
    (sent : message ∈ (scheduler.sendInvitations core params hasChatRoom uid).2) :
    ∃ own sender, scheduler.canInvite core params = some (own, sender) ∧ scheduler.conferenceInfo = some own ∧
      scheduler.state = .ready := by
  cases can : scheduler.canInvite core params with
  | none => simp [sendInvitations, can] at sent
  | some found =>
    refine ⟨found.1, found.2, rfl, ?_⟩
    unfold canInvite at can
    split at can
    next own sender holds identity =>
      split at can
      next allowed => exact ⟨by rw [holds, ← Option.some.inj can], allowed.1⟩
      next => simp at can
    next => simp at can

/-- What the scheduler holds when it invites after an update. -/
theorem updated_holds {loads : Nat} {uri : Address} (holds : scheduler.conferenceInfo = some own)
    (valid : next.uri.valid? = some uri)
    (stored : scheduler.db.getConferenceInfoFromURI uri = some (ConferenceInfoDb.load loads own))
    (apart : next.Consistent) {held : Address → Bool} (reached : (scheduler.setInfo core next held).2 = true)
    {conferenceAddress : Option Address}
    (ready : ((scheduler.setInfo core next held).1.setConferenceAddress conferenceAddress).state = .ready) :
    ∃ again, ((scheduler.setInfo core next held).1.setConferenceAddress conferenceAddress).conferenceInfo = some again ∧
      again.Consistent ∧ again.icsSequence = own.icsSequence + 1 ∧
      (∀ address, again.sequenceOf address =
        (next.sequenceOf address).map fun sequence => (own.sequenceOf address).getD sequence) ∧
      ((scheduler.setInfo core next held).1.setConferenceAddress conferenceAddress).cancelToSend =
        cancelList own.participants next.participants := by
  rcases setInfo_cases scheduler core next held with ⟨state, result⟩ | ⟨-, result⟩ | ⟨unnamed, -⟩ |
    ⟨address, found, named, known, result⟩
  · simp [result] at reached
  · simp [result] at reached
  · simp [valid] at unnamed
  · obtain rfl : uri = address := Option.some.inj (valid.symm.trans named)
    obtain rfl : ConferenceInfoDb.load loads own = found := Option.some.inj (stored.symm.trans known)
    rw [result] at ready ⊢
    have told := @updateConference_cancelToSend { scheduler with db.loads := scheduler.db.loads + 1 } core next
      (ConferenceInfoDb.load loads own) held
    obtain ⟨again, updated, consistent, icsSequence, renumbered, updating⟩ :=
      @updateConference_renumbers { scheduler with db.loads := scheduler.db.loads + 1 } own next core loads holds apart held
    rcases setConferenceAddress_cases ({ scheduler with db.loads := scheduler.db.loads + 1 }.updateConference core next
      (ConferenceInfoDb.load loads own) held) conferenceAddress with
      refused | ⟨before, inserted, db, address, earlier, kept, -, -, accepted⟩
    · simp [refused, setState] at ready
    · rw [accepted]
      obtain rfl : again = before := Option.some.inj (updated.symm.trans earlier)
      have settled := kept (by simp [updating])
      refine ⟨inserted, rfl, settled ▸ consistent, settled ▸ icsSequence, settled ▸ renumbered, ?_⟩
      rw [told]
      simp [holds]

/-- The numbers of two rounds. They grow for who was a participant or is not one now,
and start again for a new participant that comes without a number. -/
theorem invite_sequences (can : scheduler.canInvite core params = some (info, sender)) (consistent : info.Consistent)
    (round : InvitationRound) (apart : round.info.Consistent) {uri : Address} (valid : info.uri.valid? = some uri)
    (same : round.info.uri = info.uri)
    (reached : ((scheduler.sendInvitations core params hasChatRoom uid).1.setInfo round.core round.info round.held).2 = true)
    {first second : SentInvitation} (early : first ∈ (scheduler.sendInvitations core params hasChatRoom uid).2)
    (late : second ∈ ((scheduler.sendInvitations core params hasChatRoom uid).1.invite round).2)
    (again : first.recipient.address.weakEqual second.recipient.address = true)
    (kept : ∀ entry ∈ scheduler.cancelToSend, first.recipient.address.weakEqual entry.1.address = false) :
    (hasParticipant info.participants first.recipient.address = true ∨
      hasParticipant round.info.participants first.recipient.address = false → first.sequence < second.sequence) ∧
    (hasParticipant info.participants first.recipient.address = false →
      ∀ sequence, round.info.sequenceOf first.recipient.address = some sequence → sequence < 0 →
        ¬ first.sequence < second.sequence) := by
  obtain ⟨own, loads, holds, named, ownApart, invited, stored⟩ :=
    sendInvitations_invited can consistent valid early kept
  obtain ⟨found, sender, canAgain, held, ready⟩ := canInvite_of_sent late
  obtain ⟨final, holdsFinal, finalApart, icsSequence, renumbered, told⟩ :=
    updated_holds holds (same ▸ valid) stored apart reached ready
  obtain rfl : final = found := Option.some.inj (holdsFinal.symm.trans held)
  obtain ⟨grows, organizes, restarts⟩ :=
    sequence_after_update canAgain finalApart ownApart icsSequence renumbered told late
  simp only [← sequenceOf_congr again] at grows organizes restarts
  refine ⟨?_, ?_⟩
  · intro stays
    cases present : hasParticipant info.participants first.recipient.address with
    | true => exact grows first.sequence (invited.participant present) invited.counted
    | false =>
      obtain ⟨unknown, bound⟩ := invited.other present
      have absent := stays.resolve_left (by simp [present])
      have more := organizes unknown (sequenceOf_none.mpr absent)
      omega
  · intro absent sequence given unset
    obtain ⟨unknown, -⟩ := invited.other absent
    have zero := restarts sequence unknown given unset
    have counted := invited.counted
    omega

end Rounds

/-- The scheduler can send the invitations of an info whose participants are apart,
and whoever it cancels is cancelled once. -/
structure Inviting (scheduler : ConferenceScheduler) (core : SchedulerCore) (params : InvitationParams)
    (info : ConferenceInfo) (sender : Address) : Prop where
  can : scheduler.canInvite core params = some (info, sender)
  consistent : info.Consistent
  once : (scheduler.cancelToSend.map (·.1)).Pairwise SharedAddress.Differs
  objects : SameObjects (scheduler.invitees info ++ [info.organizer.address])

section Meeting

/-- A conference with a URI, of which alice is the organizer. -/
def namedMeeting : ConferenceInfo := { meeting (-1) with uri := .ofAddress meetingUri }

def invitingScheduler : ConferenceScheduler := { state := .ready, conferenceInfo := some namedMeeting }

def meetingRound : InvitationRound where
  core := { identity := some alice }
  info := withoutCarol (-1)
  held := fun _ => false
  conferenceAddress := some meetingUri
  params := {}
  hasChatRoom := fun _ => true
  uid := "uid"

theorem invitingScheduler_inviting :
    Inviting invitingScheduler { identity := some alice } {} namedMeeting alice where
  can := rfl
  consistent := ⟨by unfold Apart; decide, by decide⟩
  once := List.Pairwise.nil
  objects := by unfold SameObjects; decide

/-- The database knows alice, who is the organizer, as a participant. -/
def organizerInvited : ConferenceScheduler :=
  { db := { infos := [{ withoutCarol 0 with
      organizer := invitee "alice" 0 0, participants := [invitee "alice" 0 0, invitee "bob" 1 0] }] } }

/-- Bob does without alice. -/
def organizerLeaves : InvitationRound :=
  { meetingRound with
    core := { identity := some (invitee "bob" 1 0).address.address }
    info := { withoutCarol 0 with organizer := invitee "alice" 0 0 } }

end Meeting

end ConferenceScheduler

end Liblinphone
