import Liblinphone.Proofs.ConferenceParticipants
import Liblinphone.Library.Run

/-! The scheduler works on the conference it was asked about. A run stays on one
conference when what is given to the scheduler has the URI of what it holds. -/

namespace Liblinphone

inductive SchedulerOperation where
  | setInfo (core : SchedulerCore) (info : ConferenceInfo) (held : Address → Bool)
  | cancelConference (core : SchedulerCore) (info : ConferenceInfo) (held : Address → Bool)
  | updateInfo (info : ConferenceInfo)
  | setConferenceAddress (conferenceAddress : Option Address)

/-- Addresses with their sequence numbers. -/
def people (participants : List ParticipantInfo) : List (Address × Int) :=
  participants.map fun participant => (participant.address.address, participant.sequence)

namespace ConferenceUri

theorem eq_of_valid {first second : ConferenceUri} {uri : Address} (left : first.valid? = some uri)
    (right : second.valid? = some uri) : first = second := by
  cases first with
  | null => simp [valid?] at left
  | invalid => simp [valid?] at left
  | valid address noGruu =>
    cases second with
    | null => simp [valid?] at right
    | invalid => simp [valid?] at right
    | valid other noGruu =>
      simp only [valid?, Option.some.injEq] at left right
      subst left right
      rfl

theorem ne_null {conference : ConferenceUri} {uri : Address} (valid : conference.valid? = some uri) :
    conference ≠ .null := by
  rintro rfl
  simp [valid?] at valid

theorem noGruu_of_valid {conference : ConferenceUri} {uri : Address} (valid : conference.valid? = some uri) :
    uri.getUriWithoutGruu = uri := by
  cases conference with
  | null => simp [valid?] at valid
  | invalid => simp [valid?] at valid
  | valid address noGruu =>
    obtain rfl : address = uri := by simpa [valid?] using valid
    exact noGruu

end ConferenceUri

namespace ConferenceInfoDb

theorem load_uri (loads : Nat) (info : ConferenceInfo) : (load loads info).uri = info.uri := rfl

theorem people_load (loads : Nat) (info : ConferenceInfo) :
    people (load loads info).participants = people info.participants := by
  have same : (load loads info).participants.map (fun participant => (participant.address.address, participant.sequence)) =
      (info.participants.zipIdx.map Prod.fst).map
        fun participant => (participant.address.address, participant.sequence) := by
    simp only [load, ConferenceInfo.shareOrganizer_participants, List.map_map]
    rfl
  rw [people, same, List.zipIdx_map_fst, people]

theorem getConferenceInfoFromURI_uri {db : ConferenceInfoDb} {uri : Address} {stored : ConferenceInfo}
    (found : db.getConferenceInfoFromURI uri = some stored) : stored.uri.valid? = some uri.getUriWithoutGruu := by
  simp only [getConferenceInfoFromURI, Option.map_eq_some_iff] at found
  obtain ⟨kept, member, rfl⟩ := found
  simpa [load_uri] using List.find?_some member

theorem insertConferenceInfo_valid {info : ConferenceInfo} {uri : Address} (valid : info.uri.valid? = some uri)
    (db : ConferenceInfoDb) : db.insertConferenceInfo info = some { db with infos := info :: db.infos } := by
  cases named : info.uri with
  | null => simp [named, ConferenceUri.valid?] at valid
  | invalid => simp [named, ConferenceUri.valid?] at valid
  | valid uri noGruu => simp [insertConferenceInfo, named]

/-- What was inserted last is what is found. -/
theorem getConferenceInfoFromURI_inserted {db after : ConferenceInfoDb} {info : ConferenceInfo} {uri : Address}
    (valid : info.uri.valid? = some uri) (inserted : db.insertConferenceInfo info = some after) :
    after.getConferenceInfoFromURI uri = some (load after.loads info) := by
  have first : after.infos = info :: db.infos := by
    rw [insertConferenceInfo_valid valid] at inserted
    rw [← Option.some.inj inserted]
  simp [getConferenceInfoFromURI, first, valid, ConferenceUri.noGruu_of_valid valid]

end ConferenceInfoDb

namespace ConferenceScheduler

def operate (scheduler : ConferenceScheduler) : SchedulerOperation → ConferenceScheduler
  | .setInfo core info held => (scheduler.setInfo core info held).1
  | .cancelConference core info held => (scheduler.cancelConference core info held).1
  | .updateInfo info => scheduler.updateInfo info
  | .setConferenceAddress conferenceAddress => scheduler.setConferenceAddress conferenceAddress

/-- What is given has the URI of what the scheduler holds. An info without a URI may
be replaced. -/
def OneConference (scheduler : ConferenceScheduler) : SchedulerOperation → Prop
  | .setInfo _ info _ | .cancelConference _ info _ =>
    ∀ own, scheduler.conferenceInfo = some own → own.uri.valid? = info.uri.valid?
  | .updateInfo info =>
    ∀ own, scheduler.conferenceInfo = some own → own.uri.valid? = none ∨ own.uri.valid? = info.uri.valid?
  | .setConferenceAddress _ => True

/-- The people that were invited before: those the scheduler holds for the URI, or
else those of the database. -/
def previousPeople (scheduler : ConferenceScheduler) (info : ConferenceInfo) : List (Address × Int) :=
  match info.uri.valid?, scheduler.conferenceInfo with
  | none, _ => []
  | some _, some own => people own.participants
  | some uri, none => ((scheduler.db.getConferenceInfoFromURI uri).map fun stored => people stored.participants).getD []

def cancelled (scheduler : ConferenceScheduler) : List (Address × Int) :=
  scheduler.cancelToSend.map fun entry => (entry.1.address, entry.2)

/-- The conference has the URI that was given, and exactly those who were invited
and no longer are will be told, with a number greater than the one they had. -/
structure WorksOn (info : ConferenceInfo) (previous : List (Address × Int)) (after : ConferenceScheduler) : Prop where
  uri : info.uri.valid? ≠ none → after.conferenceInfo.map (·.uri) = some info.uri
  told : ∀ address sequence, (address, sequence) ∈ after.cancelled →
    hasParticipant info.participants address = false ∧
      ∃ old, (address, old) ∈ previous ∧ (0 ≤ old → old < sequence) ∧ (old < 0 → sequence = old)
  complete : ∀ address old, (address, old) ∈ previous → hasParticipant info.participants address = false →
    ∃ sequence, (address, sequence) ∈ after.cancelled

variable {scheduler : ConferenceScheduler} {core : SchedulerCore} {info stored : ConferenceInfo} {held : Address → Bool}

/-- What `setInfo` can do: give up, take the info as it is, create or update. -/
theorem setInfo_cases (scheduler : ConferenceScheduler) (core : SchedulerCore) (info : ConferenceInfo)
    (held : Address → Bool) :
    (∃ state, scheduler.setInfo core info held = (scheduler.setState state, false)) ∨
    ((∃ uri, info.uri.valid? = some uri) ∧
      scheduler.setInfo core info held = ({ scheduler with conferenceInfo := some info, state := .ready }, false)) ∨
    (info.uri.valid? = none ∧
      scheduler.setInfo core info held = ((scheduler.setState .allocationPending).schedule core info, true)) ∨
    ∃ uri stored, info.uri.valid? = some uri ∧ scheduler.db.getConferenceInfoFromURI uri = some stored ∧
      scheduler.setInfo core info held =
        ({ scheduler with db.loads := scheduler.db.loads + 1 }.updateConference core info stored held, true) := by
  unfold setInfo
  split
  next => exact .inl ⟨scheduler.state, rfl⟩
  next creator identity =>
    split
    next =>
      split
      next uri noGruu named =>
        split
        next stored found => exact .inr (.inr (.inr ⟨uri, stored, by simp [named, ConferenceUri.valid?], found, rfl⟩))
        next missing =>
          split
          next => exact .inl ⟨_, rfl⟩
          next => exact .inr (.inl ⟨⟨uri, by simp [named, ConferenceUri.valid?]⟩, rfl⟩)
      next unnamed =>
        split
        next => exact .inl ⟨_, rfl⟩
        next =>
          refine .inr (.inr (.inl ⟨?_, rfl⟩))
          cases uri : info.uri with
          | null => rfl
          | invalid => rfl
          | valid address noGruu => exact absurd uri (unnamed address noGruu)
    next => exact .inl ⟨_, rfl⟩

theorem schedule_holds (scheduler : ConferenceScheduler) (core : SchedulerCore) (info : ConferenceInfo) :
    ∃ own, (scheduler.schedule core info).conferenceInfo = some own ∧ own.uri = info.uri ∧
      own.participants = info.participants ∧ own.organizer = info.organizer ∧ own.icsSequence = info.icsSequence := by
  refine ⟨_, rfl, ?_⟩
  unfold serverTimes
  by_cases enabled : core.conferenceServerEnabled = true
  · simp [enabled]
  · simp [enabled]

theorem schedule_uri : (scheduler.schedule core info).conferenceInfo.map (·.uri) = some info.uri := by
  obtain ⟨own, holds, uri, -⟩ := schedule_holds scheduler core info
  rw [holds, Option.map_some, uri]

/-- The people of an update are cancelled as if nothing had been written to them. -/
theorem updateConference_cancelToSend :
    (scheduler.updateConference core info stored held).cancelToSend =
      cancelList ((scheduler.conferenceInfo.map (·.participants)).getD stored.participants) info.participants := by
  unfold updateConference
  split
  next empty =>
    simp only [schedule, fillCancelList, empty, Option.map_none, Option.getD_none]
    exact cancelList_congr _ (by simp)
  next own holds =>
    have same : ∀ address, hasParticipant
        ((info.updateFrom stored).updateFrom (writtenThrough held (info.updateFrom stored) own)).participants address =
        hasParticipant info.participants address := by
      simp only [ConferenceInfo.updateFrom_participants, hasParticipant_keepSequence, implies_true]
    simp only [schedule, fillCancelList, holds, Option.map_some, Option.getD_some]
    rw [cancelList_congr _ same]
    apply cancelList_map
    · intro participant
      split
      next => exact keepSequence_address _ _
      next => rfl
    · intro participant absent
      split
      next => exact keepSequence_absent (by simpa using absent)
      next => rfl

/-- The scheduler's own info has the last word on the URI. -/
theorem updateConference_uri {uri : Address} (valid : info.uri.valid? = some uri)
    (found : stored.uri.valid? = some uri)
    (same : ∀ own, scheduler.conferenceInfo = some own → own.uri.valid? = some uri) :
    (scheduler.updateConference core info stored held).conferenceInfo.map (·.uri) = some info.uri := by
  unfold updateConference
  split
  next =>
    rw [schedule_uri, ConferenceInfo.updateFrom_uri (ConferenceUri.ne_null found), ConferenceUri.eq_of_valid found valid]
  next own holds =>
    have named := same own holds
    rw [schedule_uri, ConferenceInfo.updateFrom_uri]
    · exact congrArg some (ConferenceUri.eq_of_valid named valid)
    · exact ConferenceUri.ne_null named

theorem mem_cancelled {previous : List ParticipantInfo} {after : ConferenceScheduler}
    (told : after.cancelToSend = cancelList previous info.participants) {address : Address} {sequence : Int} :
    (address, sequence) ∈ after.cancelled ↔ hasParticipant info.participants address = false ∧
      ∃ old, (address, old) ∈ people previous ∧ sequence = cancelSequence old := by
  simp only [cancelled, told, List.mem_map, people]
  constructor
  · rintro ⟨entry, member, same⟩
    obtain ⟨participant, inside, absent, rfl⟩ := mem_cancelList.mp member
    obtain ⟨rfl, rfl⟩ := Prod.mk.inj same
    exact ⟨absent, participant.sequence, ⟨participant, inside, rfl⟩, rfl⟩
  · rintro ⟨absent, old, ⟨participant, inside, same⟩, rfl⟩
    obtain ⟨rfl, rfl⟩ := Prod.mk.inj same
    exact ⟨_, mem_cancelList.mpr ⟨participant, inside, absent, rfl⟩, rfl⟩

theorem worksOn_of_cancelList {previous : List ParticipantInfo} {after : ConferenceScheduler}
    (uri : info.uri.valid? ≠ none → after.conferenceInfo.map (·.uri) = some info.uri)
    (told : after.cancelToSend = cancelList previous info.participants) :
    WorksOn info (people previous) after where
  uri := uri
  told := by
    intro address sequence member
    obtain ⟨absent, old, inside, rfl⟩ := (mem_cancelled told).mp member
    refine ⟨absent, old, inside, fun counted => ?_, fun unset => ?_⟩
    · rw [cancelSequence, if_pos counted]
      omega
    · rw [cancelSequence, if_neg (by omega)]
  complete := by
    intro address old member absent
    exact ⟨cancelSequence old, (mem_cancelled told).mpr ⟨absent, old, member, rfl⟩⟩

/-- Nobody is told anything before a conference with a URI is held. -/
def NothingToCancel (scheduler : ConferenceScheduler) : Prop :=
  (∀ own, scheduler.conferenceInfo = some own → own.uri.valid? = none) → scheduler.cancelToSend = []

theorem nothingToCancel_of_uri {uri : Address} (named : (scheduler.conferenceInfo.bind (·.uri.valid?)) = some uri) :
    scheduler.NothingToCancel := by
  intro unnamed
  obtain ⟨own, holds, valid⟩ := Option.bind_eq_some_iff.mp named
  rw [unnamed own holds] at valid
  simp at valid

section OneConference

variable (same : ∀ own, scheduler.conferenceInfo = some own → own.uri.valid? = info.uri.valid?)
include same

theorem setInfo_uri {uri : Address} (valid : info.uri.valid? = some uri)
    (reached : (scheduler.setInfo core info held).2 = true) :
    (scheduler.setInfo core info held).1.conferenceInfo.map (·.uri) = some info.uri := by
  rcases setInfo_cases scheduler core info held with ⟨state, result⟩ | ⟨-, result⟩ | ⟨unnamed, -⟩ |
    ⟨uri, stored, valid, found, result⟩
  · simp [result] at reached
  · simp [result] at reached
  · simp [unnamed] at valid
  · have known : stored.uri.valid? = some uri := by
      rw [ConferenceInfoDb.getConferenceInfoFromURI_uri found, ConferenceUri.noGruu_of_valid valid]
    rw [result]
    exact updateConference_uri valid known fun own holds => (same own holds).trans valid

theorem setInfo_nothingToCancel (before : scheduler.NothingToCancel) :
    (scheduler.setInfo core info held).1.NothingToCancel := by
  rcases setInfo_cases scheduler core info held with ⟨state, result⟩ | ⟨⟨uri, valid⟩, result⟩ | ⟨unnamed, result⟩ |
    ⟨uri, stored, valid, found, result⟩
  · rw [result]
    exact before
  · rw [result]
    exact nothingToCancel_of_uri valid
  · rw [result]
    exact fun _ => before fun own holds => (same own holds).trans unnamed
  · have named := @setInfo_uri scheduler core info held same uri valid (by rw [result])
    obtain ⟨own, holds, renamed⟩ := Option.map_eq_some_iff.mp named
    refine nothingToCancel_of_uri (?_ : _ = some uri)
    simp [holds, renamed, valid]

/-- What `setInfo` did to those who were invited before. -/
theorem setInfo_worksOn (before : scheduler.NothingToCancel) (reached : (scheduler.setInfo core info held).2 = true) :
    WorksOn info (scheduler.previousPeople info) (scheduler.setInfo core info held).1 := by
  have uri : info.uri.valid? ≠ none → (scheduler.setInfo core info held).1.conferenceInfo.map (·.uri) = some info.uri := by
    intro named
    obtain ⟨uri, valid⟩ := Option.ne_none_iff_exists'.mp named
    exact setInfo_uri same valid reached
  rcases setInfo_cases scheduler core info held with ⟨state, result⟩ | ⟨-, result⟩ | ⟨unnamed, result⟩ |
    ⟨address, stored, valid, found, result⟩
  · simp [result] at reached
  · simp [result] at reached
  · have previous : scheduler.previousPeople info = people [] := by simp [previousPeople, unnamed, people]
    rw [previous]
    apply worksOn_of_cancelList uri
    rw [result]
    exact before fun own holds => (same own holds).trans unnamed
  · have previous : scheduler.previousPeople info =
        people ((scheduler.conferenceInfo.map (·.participants)).getD stored.participants) := by
      cases holds : scheduler.conferenceInfo with
      | none => simp [previousPeople, valid, holds, found]
      | some own => simp [previousPeople, valid, holds]
    rw [previous]
    apply worksOn_of_cancelList uri
    rw [result]
    exact updateConference_cancelToSend

end OneConference

/-- An address is refused, or what the scheduler holds is inserted. -/
theorem setConferenceAddress_cases (scheduler : ConferenceScheduler) (conferenceAddress : Option Address) :
    scheduler.setConferenceAddress conferenceAddress = scheduler.setState .error ∨
    ∃ own named db uri, scheduler.conferenceInfo = some own ∧ (scheduler.state ≠ .allocationPending → named = own) ∧
      named.uri.valid? = some uri ∧ scheduler.db.insertConferenceInfo named = some db ∧
      scheduler.setConferenceAddress conferenceAddress =
        { scheduler with conferenceInfo := some named, db := db, state := .ready } := by
  cases conferenceAddress with
  | none => exact .inl rfl
  | some address =>
    cases holds : scheduler.conferenceInfo with
    | none => exact .inl (by simp [setConferenceAddress, holds, setState])
    | some own =>
      by_cases pending : scheduler.state = .allocationPending
      · exact .inr ⟨own, own.setUri (.ofAddress address), _, address.getUriWithoutGruu, rfl,
          fun settled => absurd pending settled, rfl, rfl, by simp only [setConferenceAddress, holds, if_pos pending]; rfl⟩
      · cases named : own.uri with
        | valid uri noGruu =>
          have valid : own.uri.valid? = some uri := by simp [named, ConferenceUri.valid?]
          have inserted := ConferenceInfoDb.insertConferenceInfo_valid valid scheduler.db
          exact .inr ⟨own, own, _, uri, rfl, fun _ => rfl, valid, inserted,
            by simp only [setConferenceAddress, holds, if_neg pending, inserted]⟩
        | null =>
          exact .inl (by simp [setConferenceAddress, holds, pending, ConferenceInfoDb.insertConferenceInfo, named, setState])
        | invalid =>
          exact .inl (by simp [setConferenceAddress, holds, pending, ConferenceInfoDb.insertConferenceInfo, named, setState])

theorem setConferenceAddress_nothingToCancel (conferenceAddress : Option Address) (before : scheduler.NothingToCancel) :
    (scheduler.setConferenceAddress conferenceAddress).NothingToCancel := by
  rcases setConferenceAddress_cases scheduler conferenceAddress with
    refused | ⟨own, named, db, uri, holds, -, valid, -, accepted⟩
  · rw [refused]
    exact before
  · rw [accepted]
    exact nothingToCancel_of_uri valid

theorem operate_nothingToCancel (scheduler : ConferenceScheduler) (operation : SchedulerOperation)
    (allowed : scheduler.OneConference operation) (before : scheduler.NothingToCancel) :
    (scheduler.operate operation).NothingToCancel := by
  cases operation with
  | setInfo core info held => exact setInfo_nothingToCancel allowed before
  | cancelConference core info held => exact setInfo_nothingToCancel allowed before
  | updateInfo info =>
    intro unnamed
    apply before
    intro own holds
    rcases allowed own holds with missing | same
    · exact missing
    · rw [same]
      exact unnamed info rfl
  | setConferenceAddress conferenceAddress => exact setConferenceAddress_nothingToCancel conferenceAddress before

/-- An address that was accepted leaves in the database what the scheduler holds. -/
theorem setConferenceAddress_stored {conferenceAddress : Option Address}
    (accepted : (scheduler.setConferenceAddress conferenceAddress).state = .ready) :
    ∃ own uri stored, (scheduler.setConferenceAddress conferenceAddress).conferenceInfo = some own ∧
      own.uri.valid? = some uri ∧
      (scheduler.setConferenceAddress conferenceAddress).db.getConferenceInfoFromURI uri = some stored ∧
      people stored.participants = people own.participants := by
  rcases setConferenceAddress_cases scheduler conferenceAddress with
    refused | ⟨own, named, db, uri, -, -, valid, inserted, result⟩
  · simp [refused, setState] at accepted
  · rw [result]
    exact ⟨named, uri, _, rfl, valid, ConferenceInfoDb.getConferenceInfoFromURI_inserted valid inserted,
      ConferenceInfoDb.people_load _ _⟩

section Meeting

def alice : Address := { username := some "alice", domain := "sip" }

def invitee (name : String) (index : Nat) (sequence : Int) : ParticipantInfo :=
  { address := { pointer := (0, index), address := { username := some name, domain := "sip" } }, sequence := sequence }

/-- A conference of alice with bob and carol. -/
def meeting (sequence : Int) : ConferenceInfo :=
  { organizer := { address := { pointer := (0, 0), address := alice } }
    participants := [invitee "bob" 1 sequence, invitee "carol" 2 sequence] }

def meetingUri : Address := { username := some "conference", domain := "sip" }

/-- The conference is created, and the server gives it an address. -/
def creation (sequence : Int) : List SchedulerOperation :=
  [.setInfo { identity := some alice } (meeting sequence) (fun _ => false), .setConferenceAddress (some meetingUri)]

/-- Carol is no longer invited. -/
def withoutCarol (sequence : Int) : ConferenceInfo :=
  { meeting sequence with participants := [invitee "bob" 1 sequence], uri := .ofAddress meetingUri }

/-- The scheduler that is asked to create the conference, and then to do without
carol. -/
def shrunk (sequence : Int) : ConferenceScheduler × Bool :=
  ((creation sequence).foldl operate {}).setInfo { identity := some alice } (withoutCarol sequence) (fun _ => false)

theorem creation_guarded (sequence : Int) :
    Library.Guarded operate OneConference ({} : ConferenceScheduler) (creation sequence) := by
  refine ⟨?_, trivial, trivial⟩
  intro own holds
  simp at holds

theorem creation_holds (sequence : Int) (own : ConferenceInfo)
    (holds : ((creation sequence).foldl operate {}).conferenceInfo = some own) :
    own.uri.valid? = (withoutCarol sequence).uri.valid? := by
  obtain rfl : { meeting sequence with uri := .ofAddress meetingUri } = own := by
    have created : ((creation sequence).foldl operate {}).conferenceInfo =
      some { meeting sequence with uri := .ofAddress meetingUri } := rfl
    exact Option.some.inj (created.symm.trans holds)
  rfl

end Meeting

end ConferenceScheduler

end Liblinphone
