import Liblinphone.ConferenceInfo

/-! The scheduler of conferences. It merges what it is given with what the database
and the scheduler itself know of the conference, remembers whom to tell that they
are no longer invited, and sends an invitation to each of the others. -/

namespace Liblinphone

inductive SchedulerState where
  | idle | error | allocationPending | ready | updating
deriving Repr, DecidableEq

/-- What the scheduler reads of the core when it is called. -/
structure SchedulerCore where
  identity : Option Address
  conferenceServerEnabled : Bool := false
  availabilityBeforeStart : Int := -1
  expirePeriod : Int := -1
  now : Int := 0
deriving Repr, DecidableEq

/-- The database, last insertion first. -/
structure ConferenceInfoDb where
  infos : List ConferenceInfo := []
  loads : Nat := 0
deriving Repr, DecidableEq

namespace ConferenceInfoDb

/-- What is loaded has address objects of its own. -/
def load (loads : Nat) (info : ConferenceInfo) : ConferenceInfo :=
  { info with
    participants := info.participants.zipIdx.map fun (entry : ParticipantInfo × Nat) =>
      { entry.1 with address := { entry.1.address with pointer := (loads + 1, entry.2) } } }.shareOrganizer

def getConferenceInfoFromURI (db : ConferenceInfoDb) (uri : Address) : Option ConferenceInfo :=
  (db.infos.find? fun info => info.uri.valid? == some uri.getUriWithoutGruu).map (load db.loads)

/-- Only a conference with a URI can be inserted. -/
def insertConferenceInfo (db : ConferenceInfoDb) (info : ConferenceInfo) : Option ConferenceInfoDb :=
  match info.uri with
  | .valid _ _ => some { db with infos := info :: db.infos }
  | _ => none

end ConferenceInfoDb

structure ConferenceScheduler where
  state : SchedulerState := .idle
  conferenceInfo : Option ConferenceInfo := none
  cancelToSend : List (SharedAddress × Int) := []
  invitationsToSend : List SharedAddress := []
  db : ConferenceInfoDb := {}
deriving Repr, DecidableEq

def hasParticipant (participants : List ParticipantInfo) (address : Address) : Bool :=
  participants.any fun participant => address.weakEqual participant.address.address

/-- The number that cancels an invitation. One that was never sent has none. -/
def cancelSequence (sequence : Int) : Int := if sequence ≥ 0 then sequence + 1 else sequence

def cancelList (oldList newList : List ParticipantInfo) : List (SharedAddress × Int) :=
  (oldList.filter fun old => !hasParticipant newList old.address.address).map fun old =>
    (old.address, cancelSequence old.sequence)

/-- When the participants of a conference may join, and until when it is kept. The seconds
of the duration are counted in 32 bits. -/
def serverTimes (core : SchedulerCore) (info : ConferenceInfo) : ConferenceInfo :=
  if core.conferenceServerEnabled then
    let seconds : Nat := info.duration * 60 % 2 ^ 32
    let endTime := if info.dateTime ≥ 0 ∧ info.duration > 0 then info.dateTime + seconds else -1
    let expiryTime := if endTime ≥ 0 then endTime else if info.dateTime ≥ 0 then -1 else core.now
    { info with
      earlierJoiningTime :=
        if info.dateTime ≥ 0 then
          if core.availabilityBeforeStart ≥ 0 then info.dateTime + core.availabilityBeforeStart else info.dateTime
        else core.now
      expiryTime := if core.expirePeriod > 0 then expiryTime + core.expirePeriod else expiryTime }
  else info

/-- The info of the scheduler when some of its participants are the objects that the
given info holds: they were written to. -/
def writtenThrough (held : Address → Bool) (given own : ConferenceInfo) : ConferenceInfo :=
  { own with
    participants := own.participants.map fun (participant : ParticipantInfo) =>
      if held participant.address.address then ConferenceInfo.keepSequence given.participants participant
      else participant }.shareOrganizer

namespace ConferenceScheduler

def setState (scheduler : ConferenceScheduler) (state : SchedulerState) : ConferenceScheduler :=
  { scheduler with state := state }

def fillCancelList (scheduler : ConferenceScheduler) (oldList newList : List ParticipantInfo) : ConferenceScheduler :=
  { scheduler with cancelToSend := cancelList oldList newList }

/-- The creator is the organizer, or a participant, or a server. -/
def mayModify (core : SchedulerCore) (info : ConferenceInfo) (creator : Address) : Bool :=
  creator.weakEqual info.organizer.address.address || hasParticipant info.participants creator ||
    core.conferenceServerEnabled

/-- The conference is given to `createOrUpdateConference`. -/
def schedule (scheduler : ConferenceScheduler) (core : SchedulerCore) (info : ConferenceInfo) : ConferenceScheduler :=
  let infoState :=
    if scheduler.state = .updating then
      if info.participants.isEmpty then ConferenceInfoState.cancelled else .updated
    else .new
  { scheduler with conferenceInfo := some { serverTimes core info with state := infoState } }

/-- An update merges what the database knows of the conference, and then what the
scheduler itself holds. -/
def updateConference (scheduler : ConferenceScheduler) (core : SchedulerCore) (info stored : ConferenceInfo)
    (held : Address → Bool) : ConferenceScheduler :=
  let merged := info.updateFrom stored
  let updating := (scheduler.setState .updating).fillCancelList stored.participants merged.participants
  match scheduler.conferenceInfo with
  | none => updating.schedule core merged
  | some own =>
    let current := writtenThrough held merged own
    let again := merged.updateFrom current
    (updating.fillCancelList current.participants again.participants).schedule core again

/-- The scheduler afterwards, and whether the conference was given to
`createOrUpdateConference`. -/
def setInfo (scheduler : ConferenceScheduler) (core : SchedulerCore) (info : ConferenceInfo) (held : Address → Bool) :
    ConferenceScheduler × Bool :=
  match core.identity with
  | none => (scheduler, false)
  | some creator =>
    if mayModify core info creator then
      match info.uri with
      | .valid uri _ =>
        match scheduler.db.getConferenceInfoFromURI uri with
        | some stored =>
          ({ scheduler with db.loads := scheduler.db.loads + 1 }.updateConference core info stored held, true)
        | none =>
          if info.participants.isEmpty then (scheduler.setState .error, false)
          else ({ scheduler with conferenceInfo := some info, state := .ready }, false)
      | _ =>
        if info.participants.isEmpty then (scheduler.setState .error, false)
        else ((scheduler.setState .allocationPending).schedule core info, true)
    else (scheduler.setState .error, false)

def cancelConference (scheduler : ConferenceScheduler) (core : SchedulerCore) (info : ConferenceInfo)
    (held : Address → Bool) : ConferenceScheduler × Bool :=
  scheduler.setInfo core { info with participants := [] } held

def updateInfo (scheduler : ConferenceScheduler) (info : ConferenceInfo) : ConferenceScheduler :=
  { scheduler with conferenceInfo := some info }

/-- An address that is not one is an error. -/
def setConferenceAddress (scheduler : ConferenceScheduler) (conferenceAddress : Option Address) :
    ConferenceScheduler :=
  match conferenceAddress, scheduler.conferenceInfo with
  | some address, some info =>
    let named := if scheduler.state = .allocationPending then info.setUri (.ofAddress address) else info
    let renamed := { scheduler with conferenceInfo := some named }
    match scheduler.db.insertConferenceInfo named with
    | some db => { renamed with db := db, state := .ready }
    | none => { renamed with state := .error }
  | _, _ => scheduler.setState .error

end ConferenceScheduler

/-- The parameters of the chat rooms that invitations are sent in. -/
structure InvitationParams where
  isGroup : Bool := false
  isValid : Bool := true
deriving Repr, DecidableEq

/-- A message that was sent, with the sequence number of its calendar event. -/
structure SentInvitation where
  recipient : SharedAddress
  cancel : Bool
  sequence : Int
deriving Repr, DecidableEq

/-- The next invitation of a participant has the next number. A role that is not
known is taken from the database. -/
def renewInvitee (dbInfo : Option ConferenceInfo) (info : ConferenceInfo) (invitee : SharedAddress) : ConferenceInfo :=
  match info.findByAddress invitee.address with
  | none => info
  | some participant =>
    let role := if participant.role = .unknown then
        (((dbInfo.bind (·.findByAddress participant.address.address)).map (·.role)).getD participant.role)
      else participant.role
    info.updateParticipant
      { participant with role := role, sequence := ParticipantInfo.nextSequence participant.sequence }

def renewOrganizer (info : ConferenceInfo) : ConferenceInfo :=
  match info.findByAddress info.organizer.address.address with
  | some _ => info
  | none =>
    info.setOrganizer { info.organizer with sequence := ParticipantInfo.nextSequence info.organizer.sequence }

/-- Those whose invitation is sent. The organizer is looked for as an object. -/
def invitationList (sender : Address) (organizer : SharedAddress) (invitees : List SharedAddress) :
    List SharedAddress :=
  let others := invitees.filter fun invitee => !sender.weakEqual invitee.address
  if sender.weakEqual organizer.address || others.any fun other => other.pointer == organizer.pointer then others
  else others ++ [organizer]

namespace ConferenceScheduler

/-- The info and the sender of invitations that can be sent. -/
def canInvite (scheduler : ConferenceScheduler) (core : SchedulerCore) (params : InvitationParams) :
    Option (ConferenceInfo × Address) :=
  match scheduler.conferenceInfo, core.identity with
  | some info, some sender =>
    if scheduler.state = .ready ∧
        (sender.weakEqual info.organizer.address.address || hasParticipant info.participants sender) = true ∧
        params.isGroup = false ∧ params.isValid = true then some (info, sender)
    else none
  | _, _ => none

/-- The number that an invitation carries. -/
def sequenceFor (scheduler : ConferenceScheduler) (info : ConferenceInfo) (participant : Address) : Int :=
  let sequence := match scheduler.cancelToSend.find? fun entry => participant.weakEqual entry.1.address with
    | some entry => entry.2
    | none => ((info.findByAddress participant).map (·.sequence)).getD (-1)
  if sequence ≥ 0 then sequence else info.icsSequence

/-- One invitation. Its calendar event names the conference from then on, and the
database is told. -/
def createInvitationChatMessage (uid : String) (state : ConferenceScheduler × ConferenceInfo × List SentInvitation)
    (participant : SharedAddress) : ConferenceScheduler × ConferenceInfo × List SentInvitation :=
  let scheduler := state.1
  let info := state.2.1
  let sequence := scheduler.sequenceFor info participant.address
  let cancel := scheduler.cancelToSend.any (fun entry => entry.1.pointer == participant.pointer) ||
    info.state == .cancelled
  let named := { info with
    icsUid := if info.icsUid = "" then uid else info.icsUid
    icsSequence := if info.icsSequence = 0 then sequence.toNat else info.icsSequence }
  ({ scheduler with db := (scheduler.db.insertConferenceInfo named).getD scheduler.db }, named,
    state.2.2 ++ [{ recipient := participant, cancel := cancel, sequence := sequence }])

/-- The scheduler afterwards, and the messages. No message is sent to a participant
with whom there is no chat room. -/
def sendInvitations (scheduler : ConferenceScheduler) (core : SchedulerCore) (params : InvitationParams)
    (hasChatRoom : SharedAddress → Bool) (uid : String) : ConferenceScheduler × List SentInvitation :=
  match scheduler.canInvite core params with
  | none => (scheduler, [])
  | some (info, sender) =>
    let dbInfo := info.uri.valid?.bind scheduler.db.getConferenceInfoFromURI
    let invitees := info.participants.map (·.address) ++ scheduler.cancelToSend.map (·.1)
    let invitationsToSend := invitationList sender info.organizer.address invitees
    let renewed := renewOrganizer (invitees.foldl (renewInvitee dbInfo) info)
    let result := (invitationsToSend.filter hasChatRoom).foldl (createInvitationChatMessage uid)
      ({ scheduler with invitationsToSend := invitationsToSend, db.loads := scheduler.db.loads + 1 }, renewed, [])
    ({ result.1 with conferenceInfo := some result.2.1 }, result.2.2)

end ConferenceScheduler

end Liblinphone
