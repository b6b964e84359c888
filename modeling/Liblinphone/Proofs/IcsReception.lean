import Liblinphone.IcsParser
import Liblinphone.Library.Run

/-! A received calendar. Cutting its lines never leaves their bounds, so that only the
sequence number of a member can make the reception throw. -/

namespace Liblinphone.Ics

open Library

/-- What follows the keyword of a line. -/
def afterKeyword (keyword line : Text) : Text := line.drop (past (findText keyword line) keyword.length)

/-- The parameters of a member, before the first colon. -/
def paramParts (member : Text) : List Text :=
  ((trimText (member.takeWhile (· != ':'))).splitOn ';').filter fun part => !part.isEmpty

def paramName (part : Text) : Text := part.takeWhile (· != '=')

def paramValue (part : Text) : Text := afterSeparator '=' part

/-- The address of a member, less the two characters that end its line. -/
def memberAddress (member : Text) : Text :=
  let address := afterSeparator ':' member
  if 2 ≤ address.length then address.take (address.length - 2) else address

/-- The parameters in the order of their names, the first one of each. -/
def memberParams (member : Text) : AttendeeParams :=
  ((paramParts member).map fun part => (String.ofList (paramName part), String.ofList (paramValue part))).foldl
    (fun params param => insertKey param.1 param.2 params) []

theorem parseParam_eq {part : Text} (named : part.isEmpty = false) (params : AttendeeParams) :
    parseParam params part =
      .ok (insertKey (String.ofList (paramName part)) (String.ofList (paramValue part)) params) := by
  obtain ⟨inside, after⟩ := drop_past '=' part
  have name : substr part 0 (findText ['='] part) = .ok (paramName part) := by
    rw [substr_ok (Nat.zero_le _), List.drop_zero, take_before]
    rfl
  have value : substr part (past (findText ['='] part) 1) (some part.length) = .ok (paramValue part) := by
    rw [substr_ok inside, after, Option.getD_some, List.take_of_length_le]
    · rfl
    · rw [← after, List.length_drop]
      omega
  rw [parseParam, named]
  simp only [name, value]
  rfl

theorem parseParams_eq (parts : List Text) (params : AttendeeParams) :
    parts.foldlM parseParam params =
      .ok (((parts.filter fun part => !part.isEmpty).map fun part =>
        (String.ofList (paramName part), String.ofList (paramValue part))).foldl
          (fun params param => insertKey param.1 param.2 params) params) := by
  induction parts generalizing params with
  | nil => rfl
  | cons part rest following =>
    rw [List.foldlM_cons]
    cases empty : part.isEmpty with
    | true =>
      have skipped : parseParam params part = .ok params := by rw [parseParam, if_pos empty]
      rw [skipped, List.filter_cons_of_neg (by simp [empty])]
      exact following params
    | false =>
      rw [parseParam_eq empty, List.filter_cons_of_pos (by simp [empty]), List.map_cons, List.foldl_cons]
      exact following _

theorem addressLength_eq (member : Text) :
    (afterSeparator ':' member).take ((addressLength member.length (findText [':'] member)).getD member.length) =
      memberAddress member := by
  obtain ⟨inside, after⟩ := drop_past ':' member
  have size : (afterSeparator ':' member).length = member.length - past (findText [':'] member) 1 := by
    rw [← after, List.length_drop]
  rw [memberAddress]
  cases found : findText [':'] member with
  | none =>
    rw [found] at size
    simp only [past, Option.elim_none, Nat.sub_self, Nat.sub_zero] at size
    simp only [addressLength, size]
    split
    next => rfl
    next => exact List.take_of_length_le (Nat.le_of_eq size)
  | some start =>
    rw [found] at size inside
    simp only [past, Option.elim_some] at size inside
    simp only [addressLength, size]
    by_cases long : start + 3 ≤ member.length
    · rw [if_pos long, if_pos (by omega), Option.getD_some]
      congr 1
    · rw [if_neg long, if_neg (by omega), Option.getD_none]
      apply List.take_of_length_le
      omega

/-- A line that is not shorter than its keyword is cut within its bounds. -/
theorem parseMemberLine_eq {line keyword : Text} (long : keyword.length ≤ line.length) (spelled : keyword ≠ []) :
    parseMemberLine line keyword =
      .ok (memberAddress (afterKeyword keyword line), memberParams (afterKeyword keyword line)) := by
  have filled : line.isEmpty = false := by
    cases line with
    | nil => exact absurd (List.length_eq_zero_iff.mp (Nat.le_zero.mp long)) spelled
    | cons => rfl
  have within : past (findText keyword line) keyword.length ≤ line.length := by
    cases found : findText keyword line with
    | none => exact Nat.le_trans (Nat.sub_le _ _) long
    | some position => exact findText_bound found
  have following : substr line (past (findText keyword line) keyword.length) none = .ok (afterKeyword keyword line) := by
    rw [substr_ok within, Option.getD_none, List.take_of_length_le]
    · rfl
    · rw [List.length_drop]
      omega
  obtain ⟨inside, after⟩ := drop_past ':' (afterKeyword keyword line)
  have params : substr (afterKeyword keyword line) 0 (findText [':'] (afterKeyword keyword line)) =
      .ok ((afterKeyword keyword line).takeWhile (· != ':')) := by
    rw [substr_ok (Nat.zero_le _), List.drop_zero, take_before]
  have address : substr (afterKeyword keyword line) (past (findText [':'] (afterKeyword keyword line)) 1)
      (addressLength (afterKeyword keyword line).length (findText [':'] (afterKeyword keyword line))) =
        .ok (memberAddress (afterKeyword keyword line)) := by
    rw [substr_ok inside, after, addressLength_eq]
  rw [parseMemberLine, filled]
  simp only [following, params, address, parseParams_eq, bind, Except.bind, Bool.false_eq_true, if_false]
  split
  next empty =>
    have nothing : memberParams (afterKeyword keyword line) = [] := by
      rw [memberParams, paramParts, List.isEmpty_iff.mp empty]
      rfl
    rw [nothing]
    rfl
  next => rfl

theorem propertyValue_returns (expected line : Text) : ∃ value, propertyValue expected line = .ok value := by
  rw [propertyValue]
  split
  next => exact ⟨none, rfl⟩
  next colon found =>
    have bound := findText_bound found
    rw [substr_ok (Nat.zero_le _), @substr_ok _ (colon + 1) bound]
    simp only [bind, Except.bind]
    cases findText [';'] (((trimText line).drop 0).take ((some colon).getD (trimText line).length)) with
    | none => exact ⟨_, rfl⟩
    | some semicolon =>
      rw [Option.elim_some, substr_ok (Nat.zero_le _)]
      exact ⟨_, rfl⟩

theorem cutNumber_eq (letter : Char) (text : Text) :
    cutNumber letter text = .ok ((findText [letter] text).map fun _ => Utils.stoi text) := by
  rw [cutNumber]
  split
  next missing => rw [missing, Option.map_none]
  next position found =>
    rw [found, substr_ok (Nat.zero_le _)]
    rfl

/-- What is read of a duration. -/
theorem durationNode_eq (parts : DurationParts) :
    parts.node = .ok {
      hour := (parts.hour.bind fun text => (findText ['H'] text).map fun _ => Utils.stoi text).getD 0
      minute := (parts.minute.bind fun text => (findText ['M'] text).map fun _ => Utils.stoi text).getD 0
      second := (parts.second.map Utils.stoi).getD 0 } := by
  have hours : parts.hour.elim (.ok {}) ({} : DurationNode).setHour = .ok {
      hour := (parts.hour.bind fun text => (findText ['H'] text).map fun _ => Utils.stoi text).getD 0 } := by
    cases parts.hour with
    | none => rfl
    | some text =>
      rw [Option.elim_some, DurationNode.setHour, cutNumber_eq]
      rfl
  have minutes (node : DurationNode) : parts.minute.elim (.ok node) node.setMinute = .ok { node with
      minute := (parts.minute.bind fun text => (findText ['M'] text).map fun _ => Utils.stoi text).getD node.minute } := by
    cases parts.minute with
    | none => rfl
    | some text =>
      rw [Option.elim_some, DurationNode.setMinute, cutNumber_eq]
      rfl
  have seconds (node : DurationNode) : parts.second.elim (.ok node) node.setSecond = .ok { node with
      second := (parts.second.map Utils.stoi).getD node.second } := by
    cases parts.second with
    | none => rfl
    | some text =>
      rw [Option.elim_some, DurationNode.setSecond, substr_ok (Nat.zero_le _)]
      rfl
  rw [DurationParts.node, hours]
  simp only [bind, Except.bind]
  rw [minutes]
  exact seconds _

theorem MemberLine.long {keyword : Text} (line : MemberLine keyword) : keyword.length ≤ line.text.length := by
  have size := congrArg List.length line.named
  rw [List.length_map, List.length_take] at size
  omega

/-- What follows the keyword of the line. -/
def MemberLine.member {keyword : Text} (line : MemberLine keyword) : Text := afterKeyword keyword line.text

/-- The address of a member with its parameters. -/
def parsed (member : Text) : Text × AttendeeParams := (memberAddress member, memberParams member)

theorem parseMemberLine_parsed {keyword : Text} (line : MemberLine keyword) (spelled : keyword ≠ []) :
    parseMemberLine line.text keyword = .ok (parsed line.member) := parseMemberLine_eq line.long spelled

def EventCall.organizer? : EventCall → Option Text
  | .organizer line => some line.member
  | _ => none

def EventCall.attendee? : EventCall → Option Text
  | .attendee line => some line.member
  | _ => none

/-- A pair, when it says something. -/
def filled (pair : Text × AttendeeParams) : Option (Text × AttendeeParams) := if pair ≠ ([], []) then some pair else none

def EventCall.attendeePair? (call : EventCall) : Option (Text × AttendeeParams) :=
  (call.attendee?.map parsed).bind filled

/-- No part of an event makes its node throw. -/
theorem apply_returns (environment : Environment) (node : EventNode) (call : EventCall) :
    ∃ next, node.apply environment call = .ok next ∧
      next.organizer = (call.organizer?.map parsed).getD node.organizer ∧
      next.attendees = call.attendeePair?.elim node.attendees fun pair => insertKey pair.1 pair.2 node.attendees := by
  cases call with
  | summvalue text => exact ⟨_, rfl, rfl, rfl⟩
  | descvalue text => exact ⟨_, rfl, rfl, rfl⟩
  | dtstval parts => exact ⟨_, rfl, rfl, rfl⟩
  | dtendval parts => exact ⟨_, rfl, rfl, rfl⟩
  | durValue parts =>
    rw [EventNode.apply, durationNode_eq]
    exact ⟨_, rfl, rfl, rfl⟩
  | organizer line =>
    rw [EventNode.apply, EventNode.setOrganizer, parseMemberLine_parsed line (by decide)]
    exact ⟨_, rfl, rfl, rfl⟩
  | attendee line =>
    rw [EventNode.apply, EventNode.addAttendee, parseMemberLine_parsed line (by decide), EventCall.attendeePair?,
      EventCall.attendee?, Option.map_some, Option.bind_some]
    generalize parsed line.member = pair
    by_cases said : pair = ([], [])
    · exact ⟨node, by simp [Except.map, said], rfl, by simp [filled, said]⟩
    · exact ⟨{ node with attendees := insertKey pair.1 pair.2 node.attendees }, by simp [Except.map, said], rfl,
        by simp [filled, said]⟩
  | uid line =>
    obtain ⟨value, found⟩ := propertyValue_returns "UID".toList line
    rw [EventNode.apply, EventNode.setUid, found]
    exact ⟨_, rfl, rfl, rfl⟩
  | seq line =>
    obtain ⟨value, found⟩ := propertyValue_returns "SEQUENCE".toList line
    rw [EventNode.apply, EventNode.setSequence, found]
    exact ⟨_, rfl, rfl, rfl⟩
  | xProp line =>
    obtain ⟨value, found⟩ := propertyValue_returns "X-CONFURI".toList line
    rw [EventNode.apply, EventNode.setXProp, found]
    exact ⟨_, rfl, rfl, rfl⟩

def organizerPair (calls : List EventCall) : Text × AttendeeParams :=
  ((calls.filterMap EventCall.organizer?).getLast?.map parsed).getD ([], [])

def attendeePairs (calls : List EventCall) : List (Text × AttendeeParams) := calls.filterMap EventCall.attendeePair?

/-- The node of an event has the last organizer, and every attendee that is the first with its address. -/
theorem eventNode_returns (environment : Environment) (calls : List EventCall) :
    ∃ node, calls.foldlM (EventNode.apply environment) {} = .ok node ∧ node.organizer = organizerPair calls ∧
      node.attendees = (attendeePairs calls).foldl (fun held pair => insertKey pair.1 pair.2 held) [] := by
  refine @foldlM_returns _ _ _ (EventNode.apply environment) (fun past node => node.organizer = organizerPair past ∧
      node.attendees = (attendeePairs past).foldl (fun held pair => insertKey pair.1 pair.2 held) [])
    {} [] calls ⟨rfl, rfl⟩ ?_
  rintro before node call - ⟨organizer, attendees⟩
  obtain ⟨next, applied, organized, attended⟩ := apply_returns environment node call
  refine ⟨next, applied, ?_, ?_⟩
  · rw [organized, organizer, organizerPair, organizerPair, List.filterMap_append]
    cases told : call.organizer? with
    | none => simp [told]
    | some member => simp [told]
  · rw [attended, attendees, attendeePairs, attendeePairs, List.filterMap_append, List.foldl_append]
    cases told : call.attendeePair? with
    | none => simp [told]
    | some pair => simp [told]

/-- Inviting the attendees changes nothing else. -/
theorem foldl_addAttendee (attendees : List (Text × AttendeeParams)) (event : Event) :
    attendees.foldl (fun event attendee => event.addAttendee attendee.1 attendee.2) event =
      { event with
        attendees := attendees.foldl (fun held pair => insertKey pair.1 pair.2 held) event.attendees } := by
  induction attendees generalizing event with
  | nil => rfl
  | cons attendee rest following =>
    rw [List.foldl_cons, following]
    rfl

theorem organizer_createEvent (node : EventNode) : node.createEvent.organizer = node.organizer := by
  rw [EventNode.createEvent, foldl_addAttendee]
  rfl

theorem attendees_createEvent (node : EventNode) : node.createEvent.attendees =
    node.attendees.foldl (fun held pair => insertKey pair.1 pair.2 held) [] := by
  rw [EventNode.createEvent, foldl_addAttendee]
  rfl

section Fine

variable (environment : Environment)

/-- The sequence number among the parameters, if there is one, can be read. -/
def ParamsReadable (params : AttendeeParams) : Prop :=
  ∀ param ∈ params, param.1 = ParticipantInfo.sequenceParameter → ∃ number, stdStoi param.2.toList = .ok number

/-- A member without an address is left out. -/
def PairReadable (pair : Text × AttendeeParams) : Prop :=
  pair.1 ≠ [] → (environment.createAddress pair.1).isSome → ParamsReadable pair.2

theorem addParameters?_returns_iff (info : ParticipantInfo) (params : AttendeeParams) :
    (∃ next, info.addParameters? params = .ok next) ↔ ParamsReadable params := by
  apply foldlM_returns_iff
  intro info param
  rw [ParticipantInfo.addParameter?]
  split
  next same =>
    cases stdStoi param.2.toList with
    | error exception => simp [same, Except.map]
    | ok number => simp [Except.map]
  next other =>
    split <;> simp [other]

theorem fillParticipantInfo_returns_iff (pointer : Nat) (address : Address) (params : AttendeeParams) :
    (∃ info, Icalendar.fillParticipantInfo pointer address params = .ok info) ↔ ParamsReadable params :=
  addParameters?_returns_iff _ params

variable {environment}

theorem setOrganizer_returns_iff (event : Event) (conference : EventConference) :
    (∃ next, Icalendar.setOrganizer environment event conference = .ok next) ↔
      PairReadable environment event.organizer := by
  rw [Icalendar.setOrganizer, PairReadable]
  split
  next empty => simp [List.isEmpty_iff.mp empty]
  next named =>
    have filled : event.organizer.1 ≠ [] := by simpa using named
    cases created : environment.createAddress event.organizer.1 with
    | none => simp
    | some address =>
      simp only [map_returns_iff, fillParticipantInfo_returns_iff]
      simp [filled]

theorem addAttendee_returns_iff (conference : EventConference) (attendee : Text × AttendeeParams) :
    (∃ next, Icalendar.addAttendee environment conference attendee = .ok next) ↔ PairReadable environment attendee := by
  rw [Icalendar.addAttendee, PairReadable]
  split
  next empty => simp [List.isEmpty_iff.mp empty]
  next named =>
    have filled : attendee.1 ≠ [] := by simpa using named
    cases created : environment.createAddress attendee.1 with
    | none => simp
    | some address =>
      simp only [map_returns_iff, fillParticipantInfo_returns_iff]
      simp [filled]

theorem toConferenceInfo_returns_iff (calendar : Icalendar) :
    (∃ conference, calendar.toConferenceInfo environment = .ok conference) ↔
      ∀ event, calendar.events.head? = some event →
        PairReadable environment event.organizer ∧ ∀ attendee ∈ event.attendees, PairReadable environment attendee := by
  rw [Icalendar.toConferenceInfo]
  split
  next none => simp [none]
  next event rest some =>
    rw [some]
    simp only [List.head?_cons, Option.some.injEq, forall_eq']
    rw [← setOrganizer_returns_iff event {}]
    cases organized : Icalendar.setOrganizer environment event {} with
    | error exception => simp [bind, Except.bind]
    | ok conference =>
      rw [← @foldlM_returns_iff _ _ _ _ _ addAttendee_returns_iff conference]
      rw [and_iff_right ⟨conference, rfl⟩]
      exact map_returns_iff

end Fine

/-- Of the attendees of an event, those are invited that are the first with their address. -/
theorem mem_attendees_iff {node : EventNode} {calls : List EventCall} {attendee : Text × AttendeeParams}
    (kept : node.attendees = (attendeePairs calls).foldl (fun held pair => insertKey pair.1 pair.2 held) []) :
    attendee ∈ node.createEvent.attendees ↔
      (attendeePairs calls).find? (fun pair => decide (pair.1 = attendee.1)) = some attendee := by
  have once (other : Text × AttendeeParams) : other ∈ node.attendees ↔
      (attendeePairs calls).find? (fun pair => decide (pair.1 = other.1)) = some other := by
    rw [kept, mem_foldl_insertKey_iff]
    simp
  rw [attendees_createEvent, mem_foldl_insertKey_iff]
  simp only [List.not_mem_nil, false_imp_iff, implies_true, true_and, false_or]
  constructor
  · intro found
    exact (once attendee).mp (List.mem_of_find?_eq_some found)
  · intro found
    cases again : node.attendees.find? fun pair => decide (pair.1 = attendee.1) with
    | none =>
      have present := (once attendee).mpr found
      exact absurd (decide_eq_true rfl) (List.find?_eq_none.mp again attendee present)
    | some other =>
      have named : other.1 = attendee.1 := by simpa using List.find?_some again
      have first := (once other).mp (List.mem_of_find?_eq_some again)
      rw [named, found] at first
      exact first.symm

section Readable

variable (environment : Environment)

/-- The first sequence number that a member gives can be read, unless it has no valid address. -/
def MemberReadable (member : Text) : Prop :=
  memberAddress member ≠ [] → (environment.createAddress (memberAddress member)).isSome →
    ∀ part, (paramParts member).find? (fun part => decide (paramName part = "X-SEQ".toList)) = some part →
      ∃ number, stdStoi (paramValue part) = .ok number

/-- So it is for the last organizer, and for the first attendee with each address. -/
def EventReadable (calls : List EventCall) : Prop :=
  (∀ member, (calls.filterMap EventCall.organizer?).getLast? = some member → MemberReadable environment member) ∧
    ∀ member, (calls.filterMap EventCall.attendee?).find? (fun other =>
      decide (memberAddress other = memberAddress member)) = some member → MemberReadable environment member

variable {environment}

theorem mem_memberParams_iff {member : Text} {param : String × String} :
    param ∈ memberParams member ↔ ∃ part,
      (paramParts member).find? (fun part => decide (String.ofList (paramName part) = param.1)) = some part ∧
        (String.ofList (paramName part), String.ofList (paramValue part)) = param := by
  rw [memberParams, mem_foldl_insertKey_iff, List.find?_map, Option.map_eq_some_iff]
  simp only [List.not_mem_nil, false_imp_iff, implies_true, true_and, false_or]
  rfl

theorem paramsReadable_iff {member : Text} : ParamsReadable (memberParams member) ↔
    ∀ part, (paramParts member).find? (fun part => decide (paramName part = "X-SEQ".toList)) = some part →
      ∃ number, stdStoi (paramValue part) = .ok number := by
  have named : (fun part => decide (String.ofList (paramName part) = ParticipantInfo.sequenceParameter)) =
      fun part => decide (paramName part = "X-SEQ".toList) := by
    funext part
    rw [decide_eq_decide, ← String.toList_inj, String.toList_ofList]
    rfl
  rw [← named]
  constructor
  · intro readable part found
    have name : String.ofList (paramName part) = ParticipantInfo.sequenceParameter := by
      simpa using List.find?_some found
    have given := mem_memberParams_iff.mpr ⟨part, name ▸ found, rfl⟩
    simpa using readable _ given name
  · intro readable param member name
    obtain ⟨part, found, rfl⟩ := mem_memberParams_iff.mp member
    simpa using readable part (name ▸ found)

theorem pairReadable_parsed {member : Text} :
    PairReadable environment (parsed member) ↔ MemberReadable environment member := by
  rw [PairReadable, MemberReadable, ← paramsReadable_iff]
  rfl

/-- An address that says something is first in the attendees where it is first among the pairs. -/
theorem find?_attendeePairs {calls : List EventCall} {address : Text} (said : address ≠ []) :
    (attendeePairs calls).find? (fun pair => decide (pair.1 = address)) =
      ((calls.filterMap EventCall.attendee?).find? fun member => decide (memberAddress member = address)).map parsed := by
  induction calls with
  | nil => rfl
  | cons call rest following =>
    rw [attendeePairs, List.filterMap_cons, List.filterMap_cons, EventCall.attendeePair?]
    rw [attendeePairs] at following
    cases call.attendee? with
    | none => exact following
    | some member =>
      rw [Option.map_some, Option.bind_some, filled]
      by_cases same : memberAddress member = address
      · have spoken : parsed member ≠ ([], []) := fun empty => said (same ▸ congrArg Prod.fst empty)
        rw [if_pos spoken]
        have first : (parsed member).1 = address := same
        simp [first, same]
      · have other : (parsed member).1 ≠ address := same
        split
        next missing =>
          simp [same, following]
        next pair spoken =>
          have kept : pair = parsed member := by
            split at spoken <;> simp_all
          rw [kept]
          simp [other, same, following]

theorem eventReadable_iff {node : EventNode} {calls : List EventCall} (organizer : node.organizer = organizerPair calls)
    (attendees : node.attendees = (attendeePairs calls).foldl (fun held pair => insertKey pair.1 pair.2 held) []) :
    (PairReadable environment node.createEvent.organizer ∧
      ∀ attendee ∈ node.createEvent.attendees, PairReadable environment attendee) ↔ EventReadable environment calls := by
  rw [EventReadable, organizer_createEvent, organizer, organizerPair]
  refine and_congr ?_ ?_
  · cases (calls.filterMap EventCall.organizer?).getLast? with
    | none => simp [PairReadable]
    | some member => simpa using pairReadable_parsed
  · constructor
    · intro readable member found said valid
      refine pairReadable_parsed.mp (readable (parsed member) ?_) said valid
      rw [mem_attendees_iff attendees, @find?_attendeePairs calls (parsed member).1 said]
      exact Option.map_eq_some_iff.mpr ⟨member, found, rfl⟩
    · intro readable attendee present said
      rw [mem_attendees_iff attendees, find?_attendeePairs said] at present
      obtain ⟨member, found, rfl⟩ := Option.map_eq_some_iff.mp present
      exact pairReadable_parsed.mpr (readable member found) said

end Readable

def CalendarCall.event? : CalendarCall → Option (List EventCall)
  | .eventc calls => some calls
  | .method _ => none

/-- The nodes of a calendar are those of its events. -/
theorem icalendarNode_returns (environment : Environment) (calls : List CalendarCall) :
    ∃ node, calls.foldlM (IcalendarNode.apply environment) {} = .ok node ∧
      List.Forall₂ (fun parts event => parts.foldlM (EventNode.apply environment) {} = .ok event)
        (calls.filterMap CalendarCall.event?) node.events := by
  refine @foldlM_returns _ _ _ (IcalendarNode.apply environment) (fun past node =>
      List.Forall₂ (fun parts event => parts.foldlM (EventNode.apply environment) {} = .ok event)
        (past.filterMap CalendarCall.event?) node.events) {} [] calls List.Forall₂.nil ?_
  rintro before node call - held
  cases call with
  | eventc parts =>
    obtain ⟨event, read, -, -⟩ := eventNode_returns environment parts
    refine ⟨node.addEvent event, ?_, ?_⟩
    · rw [IcalendarNode.apply, read]
      rfl
    · rw [List.filterMap_append]
      exact List.rel_append held (List.Forall₂.cons read List.Forall₂.nil)
  | method line =>
    obtain ⟨value, found⟩ := propertyValue_returns "METHOD".toList line
    refine ⟨{ node with method := value.getD node.method }, ?_, ?_⟩
    · rw [IcalendarNode.apply, IcalendarNode.setMethod, found]
      rfl
    · have nothing : [CalendarCall.method line].filterMap CalendarCall.event? = [] := rfl
      rw [List.filterMap_append, nothing, List.append_nil]
      exact held

/-- A received text makes nothing throw exactly when the sequence numbers of the first event
that it holds can be read. -/
theorem receive_returns_iff (environment : Environment) (grammar : Grammar) (text : Text) :
    (∃ conference, receive environment grammar text = .ok conference) ↔
      ∀ calls, grammar.parseInput (grammar.unfold text) = some calls →
        ∀ parts, (calls.filterMap CalendarCall.event?).head? = some parts → EventReadable environment parts := by
  rw [receive, createFromString]
  cases accepted : grammar.parseInput (grammar.unfold text) with
  | none => simp [bind, Except.bind, pure, Except.pure]
  | some calls =>
    obtain ⟨node, read, events⟩ := icalendarNode_returns environment calls
    simp only [read, Except.map, bind, Except.bind, Option.some.injEq, forall_eq', IcalendarNode.createIcalendar]
    generalize calls.filterMap CalendarCall.event? = listed at events
    generalize node.events = nodes at events
    cases events with
    | nil => simp [pure, Except.pure]
    | @cons parts event others rest made more =>
      obtain ⟨same, again, organizer, attendees⟩ := eventNode_returns environment parts
      rw [made] at again
      cases again
      simp only [List.head?_cons, Option.some.injEq, forall_eq']
      rw [← eventReadable_iff organizer attendees, toConferenceInfo_returns_iff]
      have alone : (({} : Icalendar).setMethod node.method).events = [] := by
        unfold Icalendar.setMethod
        split
        next => rfl
        next =>
          split
          next => rfl
          next => split <;> rfl
      simp [Icalendar.addEvent, alone]

/-- A calendar with one event of one organizer, whose sequence number is not a number. -/
def unreadableCalendar : Text :=
  "BEGIN:VCALENDAR\r\nBEGIN:VEVENT\r\nORGANIZER;X-SEQ=abc:sip:a@b.org\r\nEND:VEVENT\r\nEND:VCALENDAR\r\n".toList

def unreadableGrammar : Grammar where
  unfold := id
  parseInput text :=
    if text = unreadableCalendar then
      some [.eventc [.organizer ⟨"ORGANIZER;X-SEQ=abc:sip:a@b.org\r\n".toList, by decide⟩]]
    else none

def plainEnvironment : Environment where
  localeToUtf8 := id
  utf8ToLocale := id
  createAddress text :=
    if text = "sip:a@b.org".toList then some { username := some "a", domain := "b.org" } else none

/-- Its reception throws. -/
theorem unreadable_sequence_throws :
    receive plainEnvironment unreadableGrammar unreadableCalendar = .error .invalidArgument := by
  decide

end Liblinphone.Ics
