import Liblinphone.Proofs.CpimKeptHeaders

/-! CPIM messages that are parsed as they were built. -/

namespace Liblinphone.Cpim

open Library

namespace Message

variable {H : Type}

/-- A map of headers: each namespace is there once, with some of them. -/
structure Grouped (entries : List (Text × List (Header H))) : Prop where
  distinct : DistinctKeys Prod.fst entries
  filled : ∀ entry ∈ entries, entry.2 ≠ []

/-- The headers of a map with their namespaces, in the order in which they are written. -/
def pairs (entries : List (Text × List (Header H))) : List (Text × Header H) :=
  entries.flatMap fun entry => entry.2.map (Prod.mk entry.1)

theorem mem_pairs {entries : List (Text × List (Header H))} {pair : Text × Header H} :
    pair ∈ pairs entries ↔ ∃ entry ∈ entries, entry.1 = pair.1 ∧ pair.2 ∈ entry.2 := by
  rw [pairs, List.mem_flatMap]
  refine exists_congr fun entry => and_congr Iff.rfl ?_
  rw [List.mem_map]
  constructor
  · rintro ⟨header, inside, rfl⟩
    exact ⟨rfl, inside⟩
  · rintro ⟨same, inside⟩
    exact ⟨pair.2, inside, Prod.ext same rfl⟩

theorem Grouped.nil : Grouped ([] : List (Text × List (Header H))) := ⟨List.nodup_nil, fun _ member => absurd member List.not_mem_nil⟩

theorem findKey_pushed (ns other : Text) (header : Header H) (entries : List (Text × List (Header H))) :
    findKey Prod.fst other (pushHeader ns header entries) =
      if ns = other then some (ns, ((findKey Prod.fst ns entries).map Prod.snd).getD [] ++ [header])
      else findKey Prod.fst other entries := by
  have kept : ∀ entry : Text × List (Header H), entry.1 = ns → (entry.1, entry.2 ++ [header]).1 = ns := fun _ same => same
  rw [pushHeader, findKey_updateFirst kept, findKey_insertKey]
  by_cases same : ns = other
  · rw [if_pos same, if_pos same, if_pos same, ← same]
    cases found : findKey Prod.fst ns entries with
    | none => rfl
    | some entry =>
      obtain rfl : entry.1 = ns := findKey_key found
      rfl
  · rw [if_neg same, if_neg same, if_neg same, Option.or_none]

theorem Grouped.pushHeader {entries : List (Text × List (Header H))} (grouped : Grouped entries) (ns : Text) (header : Header H) :
    Grouped (pushHeader ns header entries) := by
  have inserted : DistinctKeys Prod.fst (insertKey ns ([] : List (Header H)) entries) := by
    by_cases present : ∃ held, (ns, held) ∈ entries
    · obtain ⟨held, member⟩ := present
      rw [insertKey_present member]
      exact grouped.distinct
    · have absent : ∀ entry ∈ entries, entry.1 ≠ ns := fun entry member same => present ⟨entry.2, same ▸ member⟩
      refine ((insertKey_absent absent).map Prod.fst).nodup_iff.mpr (List.nodup_cons.mpr ⟨fun listed => ?_, grouped.distinct⟩)
      obtain ⟨entry, member, same⟩ := List.mem_map.mp listed
      exact absent entry member same
  have distinct : DistinctKeys Prod.fst (Message.pushHeader ns header entries) := inserted.updateFirst fun _ same => same
  refine ⟨distinct, fun entry member => ?_⟩
  have found := findKey_of_mem distinct member
  rw [findKey_pushed] at found
  split at found
  next =>
    rw [← Option.some.inj found]
    exact List.append_ne_nil_of_right_ne_nil _ (List.cons_ne_nil _ _)
  next => exact grouped.filled entry (findKey_mem found)

theorem findKey_pairs {entries : List (Text × List (Header H))} (distinct : DistinctKeys Prod.fst entries) (ns : Text) :
    ((findKey Prod.fst ns entries).map Prod.snd).getD [] = ((pairs entries).filter (·.1 = ns)).map Prod.snd := by
  induction entries with
  | nil => rfl
  | cons entry rest following =>
    obtain ⟨missing, others⟩ := List.nodup_cons.mp distinct
    rw [pairs, List.flatMap_cons, List.filter_append, List.map_append]
    change _ = _ ++ ((pairs rest).filter (·.1 = ns)).map Prod.snd
    rw [← following others, List.filter_map]
    by_cases same : entry.1 = ns
    · have absent : findKey Prod.fst ns rest = none :=
        findKey_none.mpr fun other member equal => missing (List.mem_map.mpr ⟨other, member, equal.trans same.symm⟩)
      have all : entry.2.filter ((fun pair : Text × Header H => decide (pair.1 = ns)) ∘ Prod.mk entry.1) = entry.2 :=
        List.filter_eq_self.mpr fun _ _ => decide_eq_true same
      have first : findKey Prod.fst ns (entry :: rest) = some entry := List.find?_cons_of_pos (by simpa using same)
      have values : (entry.2.map (Prod.mk entry.1)).map Prod.snd = entry.2 := by simp
      rw [absent, all, first, values]
      exact (List.append_nil _).symm
    · have none : entry.2.filter ((fun pair : Text × Header H => decide (pair.1 = ns)) ∘ Prod.mk entry.1) = [] :=
        List.filter_eq_nil_iff.mpr fun _ _ => by simpa using same
      have later : findKey Prod.fst ns (entry :: rest) = findKey Prod.fst ns rest := List.find?_cons_of_neg (by simpa using same)
      rw [none, later]
      rfl

/-- In a map the headers of a namespace are those of its pairs. -/
theorem headersOf_pairs {message : Message H} (grouped : Grouped message.messageHeaders) (ns : Text) :
    message.headersOf ns = ((pairs message.messageHeaders).filter (·.1 = ns)).map Prod.snd :=
  findKey_pairs grouped.distinct ns

theorem getMessageHeaders_eq {message : Message H} (grouped : Grouped message.messageHeaders) (ns : Text) :
    message.getMessageHeaders ns = if (message.headersOf ns).isEmpty then none else some (message.headersOf ns) := by
  unfold headersOf getMessageHeaders
  cases found : findKey Prod.fst ns message.messageHeaders with
  | none => rfl
  | some entry =>
    have filled := grouped.filled entry (findKey_mem found)
    rw [Option.map_some, Option.getD_some, if_neg (by simpa using filled)]

/-- Headers that are pushed one after the other. -/
def pushHeaders (added : List (Text × Header H)) (entries : List (Text × List (Header H))) : List (Text × List (Header H)) :=
  added.foldl (fun held pair => pushHeader pair.1 pair.2 held) entries

theorem findKey_pushHeaders (ns : Text) (added : List (Text × Header H)) (entries : List (Text × List (Header H))) :
    ((findKey Prod.fst ns (pushHeaders added entries)).map Prod.snd).getD [] =
      ((findKey Prod.fst ns entries).map Prod.snd).getD [] ++ (added.filter (·.1 = ns)).map Prod.snd := by
  induction added generalizing entries with
  | nil => exact (List.append_nil _).symm
  | cons pair rest following =>
    rw [pushHeaders, List.foldl_cons]
    change ((findKey Prod.fst ns (pushHeaders rest _)).map Prod.snd).getD [] = _
    rw [following, findKey_pushHeader, List.filter_cons, List.append_assoc]
    by_cases same : pair.1 = ns
    · rw [if_pos same, if_pos (decide_eq_true same)]
      rfl
    · rw [if_neg same, if_neg (by simpa using same)]
      rfl

theorem Grouped.pushHeaders {entries : List (Text × List (Header H))} (grouped : Grouped entries) (added : List (Text × Header H)) :
    Grouped (pushHeaders added entries) := by
  induction added generalizing entries with
  | nil => exact grouped
  | cons pair rest following => exact following (grouped.pushHeader pair.1 pair.2)

/-- A message that headers were added to, whatever they are. -/
inductive Built : Message PlainHeader → Prop
  | empty : Built {}
  | addMessageHeader {message} (built : Built message) (header : Header PlainHeader) (ns : Text) :
      Built (message.addMessageHeader plainHeaders header ns).1
  | addContentHeader {message} (built : Built message) (header : Header PlainHeader) :
      Built (message.addContentHeader plainHeaders header).1
  | setContent {message} (built : Built message) (content : Text) : Built (message.setContent content)

/-- What the additions keep of a message. -/
structure Formed (message : Message PlainHeader) : Prop where
  grouped : Grouped message.messageHeaders
  valid : ∀ pair ∈ pairs message.messageHeaders, pair.2.Valid
  contents : ∀ header ∈ message.contentHeaders, header.Valid

variable {message : Message PlainHeader}

theorem Built.formed (built : Built message) : Formed message := by
  induction built with
  | empty => exact ⟨.nil, fun _ member => absurd member List.not_mem_nil, fun _ member => absurd member List.not_mem_nil⟩
  | addMessageHeader built header ns formed =>
    unfold Message.addMessageHeader
    split
    next => exact formed
    next kept cloned =>
      refine ⟨formed.grouped.pushHeader ns kept, fun pair member => ?_, formed.contents⟩
      obtain ⟨entry, listed, same, inside⟩ := mem_pairs.mp member
      rcases mem_pushHeader listed inside with ⟨old, before, name, within⟩ | ⟨-, added⟩
      · exact formed.valid pair (mem_pairs.mpr ⟨old, before, name.trans same, within⟩)
      · rw [added]
        exact Header.valid_of_clone cloned
  | addContentHeader built header formed =>
    unfold Message.addContentHeader
    split
    next => exact formed
    next kept cloned =>
      refine ⟨formed.grouped, formed.valid, List.forall_mem_append.mpr ⟨formed.contents, fun other member => ?_⟩⟩
      rw [List.mem_singleton.mp member]
      exact Header.valid_of_clone cloned
  | setContent built content formed => exact ⟨formed.grouped, formed.valid, formed.contents⟩

section Parsing

variable {line : Text} {lines : List Text} {after : Message PlainHeader}

theorem addMessageLine_eq_some : addMessageLine plainHeaders message line = some after ↔
    ∃ ns kept, Rereads line ns kept ∧ after = { message with messageHeaders := pushHeader ns kept message.messageHeaders } := by
  constructor
  · intro added
    obtain ⟨⟨ns, made⟩, isMade, rfl⟩ := Option.map_eq_some_iff.mp added
    obtain ⟨kept, cloned, reading⟩ := readMessageHeader_sound isMade
    refine ⟨ns, kept, reading, ?_⟩
    unfold Message.addMessageHeader
    dsimp only
    rw [cloned]
  · rintro ⟨ns, kept, reading, rfl⟩
    obtain ⟨⟨place, made⟩, isMade, again⟩ := Option.bind_eq_some_iff.mp (reread_complete reading)
    obtain ⟨header, cloned, same⟩ := Option.map_eq_some_iff.mp again
    obtain ⟨rfl, rfl⟩ := Prod.mk.inj same
    dsimp only at cloned
    refine Option.map_eq_some_iff.mpr ⟨_, isMade, ?_⟩
    unfold Message.addMessageHeader
    dsimp only
    rw [cloned]

theorem addContentLine_eq_some : addContentLine plainHeaders message line = some after ↔
    ∃ kept, RereadsContent line kept ∧ after = { message with contentHeaders := message.contentHeaders ++ [kept] } := by
  constructor
  · intro added
    obtain ⟨made, isMade, rfl⟩ := Option.map_eq_some_iff.mp added
    obtain ⟨kept, cloned, reading⟩ := readContentHeader_sound isMade
    refine ⟨kept, reading, ?_⟩
    unfold Message.addContentHeader
    rw [cloned]
  · rintro ⟨kept, reading, rfl⟩
    obtain ⟨made, isMade, cloned⟩ := readContentHeader_complete reading
    refine Option.map_eq_some_iff.mpr ⟨made, isMade, ?_⟩
    unfold Message.addContentHeader
    rw [cloned]

theorem foldlM_message_iff : lines.foldlM (addMessageLine plainHeaders) message = some after ↔
    ∃ added : List (Text × Header PlainHeader), List.Forall₂ (fun line pair => Rereads line pair.1 pair.2) lines added ∧
      after = { message with messageHeaders := pushHeaders added message.messageHeaders } := by
  induction lines generalizing message with
  | nil =>
    constructor
    · intro same
      exact ⟨[], .nil, (Option.some.inj same).symm⟩
    · rintro ⟨added, reading, rfl⟩
      cases reading
      rfl
  | cons line rest following =>
    rw [List.foldlM_cons, Option.bind_eq_bind, Option.bind_eq_some_iff]
    constructor
    · rintro ⟨next, first, later⟩
      obtain ⟨ns, kept, reading, rfl⟩ := addMessageLine_eq_some.mp first
      obtain ⟨added, others, same⟩ := following.mp later
      exact ⟨(ns, kept) :: added, .cons reading others, same⟩
    · rintro ⟨added, reading, same⟩
      cases reading with
      | cons first others => exact ⟨_, addMessageLine_eq_some.mpr ⟨_, _, first, rfl⟩, following.mpr ⟨_, others, same⟩⟩

theorem foldlM_content_iff : lines.foldlM (addContentLine plainHeaders) message = some after ↔
    ∃ added, List.Forall₂ RereadsContent lines added ∧
      after = { message with contentHeaders := message.contentHeaders ++ added } := by
  induction lines generalizing message with
  | nil =>
    constructor
    · intro same
      exact ⟨[], .nil, by rw [List.append_nil]; exact (Option.some.inj same).symm⟩
    · rintro ⟨added, reading, rfl⟩
      cases reading
      rw [List.append_nil]
      rfl
  | cons line rest following =>
    rw [List.foldlM_cons, Option.bind_eq_bind, Option.bind_eq_some_iff]
    constructor
    · rintro ⟨next, first, later⟩
      obtain ⟨kept, reading, rfl⟩ := addContentLine_eq_some.mp first
      obtain ⟨added, others, same⟩ := following.mp later
      refine ⟨kept :: added, .cons reading others, ?_⟩
      rw [same, List.append_assoc, List.singleton_append]
    · rintro ⟨added, reading, same⟩
      cases reading with
      | cons first others =>
        refine ⟨_, addContentLine_eq_some.mpr ⟨_, first, rfl⟩, following.mpr ⟨_, others, ?_⟩⟩
        rw [same, List.append_assoc, List.singleton_append]

/-- The messages that are parsed of a text. -/
theorem parseMessage_eq_some {input : Text} {parsed : Message PlainHeader} : parseMessage plainHeaders input = some parsed ↔
    ∃ messageLines rest contentLines content, (readSection [] input).bind skipCrappyHeader = some (messageLines, rest) ∧
      readSection [] rest = some (contentLines, content) ∧ (messageLines ≠ [] ∧ contentLines ≠ []) ∧
      ∃ added : List (Text × Header PlainHeader), List.Forall₂ (fun line pair => Rereads line pair.1 pair.2) messageLines added ∧
        ∃ contents, List.Forall₂ RereadsContent contentLines contents ∧ parsed = ⟨pushHeaders added [], contents, content⟩ := by
  unfold parseMessage
  rw [Option.bind_eq_bind, Option.bind_eq_some_iff]
  constructor
  · rintro ⟨⟨messageLines, rest⟩, isSection, others⟩
    obtain ⟨⟨contentLines, content⟩, isContent, others⟩ := Option.bind_eq_some_iff.mp others
    dsimp only at isContent others
    split at others
    next => cases others
    next filled =>
      obtain ⟨headed, isHeaded, others⟩ := Option.bind_eq_some_iff.mp others
      obtain ⟨last, isLast, same⟩ := Option.bind_eq_some_iff.mp others
      obtain ⟨added, reading, rfl⟩ := foldlM_message_iff.mp isHeaded
      obtain ⟨contents, readingContents, rfl⟩ := foldlM_content_iff.mp isLast
      refine ⟨messageLines, rest, contentLines, content, isSection, isContent, ?_, added, reading, contents, readingContents,
        (Option.some.inj same).symm⟩
      simpa [not_or] using filled
  · rintro ⟨messageLines, rest, contentLines, content, isSection, isContent, filled, added, reading, contents, readingContents, rfl⟩
    refine ⟨(messageLines, rest), isSection, Option.bind_eq_some_iff.mpr ⟨(contentLines, content), isContent, ?_⟩⟩
    dsimp only
    rw [if_neg (by simpa [not_or] using filled)]
    refine Option.bind_eq_some_iff.mpr ⟨_, foldlM_message_iff.mpr ⟨added, reading, rfl⟩, ?_⟩
    exact Option.bind_eq_some_iff.mpr ⟨_, foldlM_content_iff.mpr ⟨contents, readingContents, rfl⟩, rfl⟩

end Parsing

def messageLines (message : Message PlainHeader) : List Text :=
  (pairs message.messageHeaders).map fun pair => namedLine pair.1 pair.2

def contentLines (message : Message PlainHeader) : List Text := message.contentHeaders.map Header.line

theorem asString_lines (headed : message.messageHeaders ≠ []) :
    message.asString plainHeaders = message.messageLines.flatMap (· ++ crlf) ++
      (crlf ++ (message.contentLines.flatMap (· ++ crlf) ++ (crlf ++ message.content))) := by
  have texts : message.headerTexts plainHeaders = message.messageLines.map (· ++ crlf) := by
    rw [headerTexts, messageLines, pairs, List.map_map, List.map_flatMap]
    refine List.flatMap_congr fun entry _ => ?_
    rw [List.map_map]
    exact List.map_congr_left fun header _ => namedAsString_line entry.1 header
  have contents : message.contentHeaders.map plainHeaders.headerAsString = message.contentLines.map (· ++ crlf) := by
    rw [contentLines, List.map_map]
    exact List.map_congr_left fun header _ => Header.asString_line header
  rw [asString_sections headed, texts, contents, List.flatMap_def, List.flatMap_def]

theorem readSection_shorter {line text : Text} {lines : List Text} {rest : Text}
    (read : readSection line text = some (lines, rest)) : rest.length < text.length := by
  induction line, text using readSection.induct generalizing lines rest with
  | case1 line =>
    rw [readSection] at read
    cases read
  | case2 line after blank =>
    rw [readSection, if_pos blank] at read
    obtain ⟨-, rfl⟩ := Prod.mk.inj (Option.some.inj read)
    rw [List.length_cons, List.length_cons]
    omega
  | case3 line after begun following =>
    rw [readSection, if_neg begun] at read
    obtain ⟨⟨more, later⟩, isRead, same⟩ := Option.map_eq_some_iff.mp read
    obtain ⟨-, rfl⟩ := Prod.mk.inj same
    have less := following isRead
    rw [List.length_cons, List.length_cons]
    omega
  | case4 line char after other following =>
    rw [readSection] at read
    · have less := following read
      rw [List.length_cons]
      omega
    · exact other

/-- The text of a message is parsed, into the same headers and the same content. -/
def RoundTrips (message : Message PlainHeader) : Prop :=
  ∃ parsed, parseMessage plainHeaders (message.asString plainHeaders) = some parsed ∧
    (∀ ns, (parsed.getMessageHeaders ns).map (List.map Header.told) = (message.getMessageHeaders ns).map (List.map Header.told)) ∧
    parsed.contentHeaders.map Header.told = message.contentHeaders.map Header.told ∧ parsed.content = message.content

/-- The only header is written as the line that may stand in front of a message. -/
def Crappy (message : Message PlainHeader) : Prop :=
  ∃ line, message.messageLines = [line] ∧ line.map Char.toLower = "content-type: message/cpim".toList

structure Conforming (message : Message PlainHeader) : Prop where
  messageHeaders : ∀ pair ∈ pairs message.messageHeaders, pair.2.Kept pair.1
  contentHeaders : ∀ header ∈ message.contentHeaders, header.ContentKept
  plain : ¬message.Crappy

section RoundTrip

theorem skipCrappyHeader_lines (plain : ¬message.Crappy) (rest : Text) :
    skipCrappyHeader (message.messageLines, rest) = some (message.messageLines, rest) := by
  unfold skipCrappyHeader
  split
  next line only same =>
    obtain ⟨single, rfl⟩ := Prod.mk.inj same
    rw [single]
    exact if_neg fun crappy => plain ⟨line, single, crappy⟩
  next => rfl

theorem Conforming.roundTrips (formed : Formed message) (headed : message.messageHeaders ≠ []) (filled : message.contentHeaders ≠ [])
    (conforming : Conforming message) : RoundTrips message := by
  have reading : ∀ pair ∈ pairs message.messageHeaders, Rereads (namedLine pair.1 pair.2) pair.1 pair.2.told :=
    fun pair member => (rereads_iff (formed.valid pair member)).mpr (conforming.messageHeaders pair member)
  have readingContents : ∀ header ∈ message.contentHeaders, RereadsContent header.line header.told :=
    fun header member => (rereadsContent_iff (formed.contents header member)).mpr (conforming.contentHeaders header member)
  have lines : ∀ line ∈ message.messageLines, Line line := List.forall_mem_map.mpr fun pair member => by
    obtain ⟨printable, front, after, shape, -⟩ := (reading pair member).written
    rw [namedLine_told] at printable shape
    exact line_of_printable printable shape
  have contents : ∀ line ∈ message.contentLines, Line line := List.forall_mem_map.mpr fun header member => by
    obtain ⟨printable, nonempty⟩ := (readingContents header member).written
    rw [Header.line_told] at printable nonempty
    exact ⟨nonempty, printable.unbroken⟩
  let added := (pairs message.messageHeaders).map fun pair => (pair.1, pair.2.told)
  let parsed : Message PlainHeader := ⟨pushHeaders added [], message.contentHeaders.map Header.told, message.content⟩
  have found : ∀ ns, parsed.headersOf ns = (message.headersOf ns).map Header.told := by
    intro ns
    have pushed : parsed.headersOf ns = (added.filter (·.1 = ns)).map Prod.snd := findKey_pushHeaders ns added []
    rw [pushed, headersOf_pairs formed.grouped, List.filter_map, List.map_map, List.map_map]
    rfl
  refine ⟨parsed, ?_, fun ns => ?_, ?_, rfl⟩
  · rw [asString_lines headed]
    refine parseMessage_eq_some.mpr ⟨message.messageLines, _, message.contentLines, message.content, ?_,
      readSection_lines contents message.content, ⟨?_, ?_⟩, added, ?_, _, ?_, rfl⟩
    · rw [readSection_lines lines, Option.bind_some, skipCrappyHeader_lines conforming.plain]
    · obtain ⟨entry, rest, shape⟩ := List.exists_cons_of_ne_nil headed
      have some := formed.grouped.filled entry (shape ▸ List.mem_cons_self)
      obtain ⟨header, more, inside⟩ := List.exists_cons_of_ne_nil some
      have member : (entry.1, header) ∈ pairs message.messageHeaders :=
        mem_pairs.mpr ⟨entry, shape ▸ List.mem_cons_self, rfl, inside ▸ List.mem_cons_self⟩
      exact List.ne_nil_of_mem (List.mem_map_of_mem member)
    · exact fun none => filled (List.map_eq_nil_iff.mp none)
    · rw [messageLines, List.forall₂_map_left_iff, List.forall₂_map_right_iff, List.forall₂_same]
      exact reading
    · rw [contentLines, List.forall₂_map_left_iff, List.forall₂_map_right_iff, List.forall₂_same]
      exact readingContents
  · have grouped : Grouped parsed.messageHeaders := Grouped.nil.pushHeaders added
    rw [getMessageHeaders_eq grouped, getMessageHeaders_eq formed.grouped, found, List.isEmpty_map]
    split
    next => rfl
    next =>
      rw [Option.map_some, Option.map_some, List.map_map]
      exact congrArg some (List.map_congr_left fun header _ => Header.told_told header)
  · rw [List.map_map]
    exact List.map_congr_left fun header _ => Header.told_told header

/-- What the texts of a message say when it is found again: each is one line, and starts with the name of its namespace. -/
theorem RoundTrips.lines {added : List (Text × Header PlainHeader)} (formed : Formed message)
    (reading : ∀ pair ∈ added, ∃ line, Rereads line pair.1 pair.2)
    (same : ∀ ns, (message.headersOf ns).map Header.told = ((added.filter (·.1 = ns)).map Prod.snd).map Header.told) :
    ∀ pair ∈ pairs message.messageHeaders, Line (namedLine pair.1 pair.2) ∧
      ∃ front after, namedLine pair.1 pair.2 = front ++ ':' :: after ∧ ':' ∉ front ∧ (placed front).1 = pair.1 := by
  intro pair member
  have listed : pair.2.told ∈ (message.headersOf pair.1).map Header.told := by
    rw [headersOf_pairs formed.grouped]
    refine List.mem_map_of_mem (List.mem_map_of_mem (List.mem_filter.mpr ⟨member, decide_eq_true rfl⟩))
  rw [same] at listed
  obtain ⟨header, inside, equal⟩ := List.mem_map.mp listed
  obtain ⟨other, found, rfl⟩ := List.mem_map.mp inside
  obtain ⟨present, named⟩ := List.mem_filter.mp found
  obtain ⟨line, isRead⟩ := reading other present
  obtain ⟨printable, front, after, shape, missing, place⟩ := isRead.written
  rw [of_decide_eq_true named, ← namedLine_told, equal, namedLine_told] at printable shape
  exact ⟨line_of_printable printable shape, front, after, shape, missing, place.trans (of_decide_eq_true named)⟩

theorem exists_of_forall₂ {α β : Type} {related : α → β → Prop} {first : List α} {second : List β}
    (each : List.Forall₂ related first second) : ∀ other ∈ second, ∃ entry, related entry other :=
  ((List.forall₂_and_left _ _).mp (each.flip.imp fun _ entry found => ⟨⟨entry, found⟩, found⟩)).1

theorem RoundTrips.conforming (formed : Formed message) (headed : message.messageHeaders ≠ []) (trips : RoundTrips message) :
    Conforming message := by
  obtain ⟨parsed, isParsed, named, sameContents, sameContent⟩ := trips
  rw [asString_lines headed, parseMessage_eq_some] at isParsed
  obtain ⟨found, rest, contentsFound, content, isSection, isContent, -, added, reading, contents, readingContents, rfl⟩ := isParsed
  have same : ∀ ns, (message.headersOf ns).map Header.told = ((added.filter (·.1 = ns)).map Prod.snd).map Header.told := by
    intro ns
    have pushed : ((added.filter (·.1 = ns)).map Prod.snd).map Header.told =
        (headersOf ⟨pushHeaders added [], contents, content⟩ ns).map Header.told :=
      congrArg (List.map Header.told) (findKey_pushHeaders ns added []).symm
    rw [pushed]
    have both := congrArg (Option.getD · []) (named ns)
    rw [← List.map_nil (f := Header.told), Option.getD_map, Option.getD_map] at both
    exact both.symm
  have lined := RoundTrips.lines formed (exists_of_forall₂ reading) same
  have lines : ∀ line ∈ message.messageLines, Line line := List.forall_mem_map.mpr fun pair member => (lined pair member).1
  have contentLined : ∀ line ∈ message.contentLines, Line line := List.forall_mem_map.mpr fun header member => by
    have listed := List.mem_map_of_mem (f := Header.told) member
    rw [← sameContents] at listed
    obtain ⟨other, inside, equal⟩ := List.mem_map.mp listed
    obtain ⟨line, isRead⟩ := exists_of_forall₂ readingContents other inside
    obtain ⟨printable, nonempty⟩ := isRead.written
    rw [← Header.line_told, equal, Header.line_told] at printable nonempty
    exact ⟨nonempty, printable.unbroken⟩
  rw [readSection_lines lines, Option.bind_some] at isSection
  have plain : ¬message.Crappy := by
    rintro ⟨line, single, crappy⟩
    rw [single] at isSection
    have skipped := (if_pos crappy).symm.trans isSection
    rw [readSection_lines contentLined] at skipped
    obtain ⟨-, rfl⟩ := Prod.mk.inj (Option.some.inj skipped)
    have shorter := readSection_shorter isContent
    rw [show content = message.content from sameContent] at shorter
    exact Nat.lt_irrefl _ shorter
  rw [skipCrappyHeader_lines plain] at isSection
  obtain ⟨rfl, rfl⟩ := Prod.mk.inj (Option.some.inj isSection)
  rw [readSection_lines contentLined] at isContent
  obtain ⟨rfl, -⟩ := Prod.mk.inj (Option.some.inj isContent)
  refine ⟨?_, ?_, plain⟩
  · rw [messageLines, List.forall₂_map_left_iff] at reading
    have placed : List.Forall₂ (fun pair other => other.1 = pair.1 ∧ Rereads (namedLine pair.1 pair.2) pair.1 other.2)
        (pairs message.messageHeaders) added := by
      refine ((List.forall₂_and_left _ _).mpr ⟨lined, reading⟩).imp fun pair other both => ?_
      obtain ⟨⟨-, front, after, shape, missing, place⟩, isRead⟩ := both
      have equal : other.1 = pair.1 := (isRead.place shape missing).symm.trans place
      exact ⟨equal, equal ▸ isRead⟩
    have keys : (pairs message.messageHeaders).map Prod.fst = added.map Prod.fst := by
      rw [← List.forall₂_eq_eq_eq, List.forall₂_map_left_iff, List.forall₂_map_right_iff]
      exact placed.imp fun _ _ both => both.1.symm
    have values : (pairs message.messageHeaders).map (fun pair => (pair.1, pair.2.told)) =
        added.map fun pair => (pair.1, pair.2.told) := by
      refine eq_of_filter_keys ?_ fun ns => ?_
      · rw [List.map_map, List.map_map]
        exact keys
      · have each := same ns
        rw [headersOf_pairs formed.grouped, List.map_map, List.map_map] at each
        rw [List.filter_map, List.filter_map, List.map_map, List.map_map]
        exact each
    rw [← List.forall₂_eq_eq_eq, List.forall₂_map_left_iff, List.forall₂_map_right_iff] at values
    have kept : List.Forall₂ (fun pair (_ : Text × Header PlainHeader) => pair.2.Kept pair.1 ∧ True)
        (pairs message.messageHeaders) added := by
      refine List.Forall₂.mp (fun pair other both equal => ?_) ((List.forall₂_and_left _ _).mpr ⟨formed.valid, placed⟩) values
      obtain ⟨valid, -, isRead⟩ := both
      have told : other.2 = pair.2.told := isRead.told.symm.trans (Prod.mk.inj equal).2.symm
      exact ⟨(rereads_iff valid).mp (told ▸ isRead), trivial⟩
    exact ((List.forall₂_and_left _ _).mp kept).1
  · rw [contentLines, List.forall₂_map_left_iff] at readingContents
    rw [← List.forall₂_eq_eq_eq, List.forall₂_map_left_iff, List.forall₂_map_right_iff] at sameContents
    have kept : List.Forall₂ (fun header (_ : Header PlainHeader) => header.ContentKept ∧ True) message.contentHeaders contents := by
      refine List.Forall₂.mp (fun header other both equal => ?_)
        ((List.forall₂_and_left _ _).mpr ⟨formed.contents, readingContents⟩) sameContents.flip
      obtain ⟨valid, isRead⟩ := both
      obtain ⟨found, shape⟩ := isRead.isGeneric
      have told : other = header.told := by
        rw [← equal, shape]
        rfl
      exact ⟨(rereadsContent_iff valid).mp (told ▸ isRead), trivial⟩
    exact ((List.forall₂_and_left _ _).mp kept).1

/-- The messages that are parsed as they were built. -/
theorem parsed_as_built_iff (built : Built message) (headed : message.messageHeaders ≠ []) (filled : message.contentHeaders ≠ []) :
    RoundTrips message ↔ Conforming message :=
  ⟨RoundTrips.conforming built.formed headed, Conforming.roundTrips built.formed headed filled⟩

end RoundTrip

/-- A message from someone with a header of a namespace. -/
def greeting (formalName : Text) : Message PlainHeader :=
  let message : Message PlainHeader := {}
  let message := (message.addMessageHeader plainHeaders (.other (.contact .fromHeader ⟨"im:a@b".toList, formalName⟩)) []).1
  let message := (message.addMessageHeader plainHeaders (.other (.generic (.create "Mood".toList "good".toList ";a=b".toList)))
    "My".toList).1
  let message := (message.addContentHeader plainHeaders (.other (.generic (.create "Content-Type".toList "text/plain".toList [])))).1
  message.setContent "Hello".toList

theorem greeting_built (formalName : Text) : Built (greeting formalName) :=
  .setContent (.addContentHeader (.addMessageHeader (.addMessageHeader .empty _ _) _ _) _) _

theorem greeting_parsed : RoundTrips (greeting "MR SANDERS".toList) := by
  have pairsOf : pairs (greeting "MR SANDERS".toList).messageHeaders =
    [([], .other (.contact .fromHeader ⟨"im:a@b".toList, "MR SANDERS".toList⟩)),
     ("My".toList, .other (.generic ⟨"Mood".toList, "good".toList, [("a".toList, "b".toList)], by decide⟩))] := by decide +kernel
  have contentsOf : (greeting "MR SANDERS".toList).contentHeaders =
    [.other (.generic ⟨"Content-Type".toList, "text/plain".toList, [], by decide⟩)] := by decide +kernel
  refine (parsed_as_built_iff (greeting_built _) (by decide +kernel) (by decide +kernel)).mpr ⟨?_, ?_, ?_⟩
  · rw [pairsOf]
    refine List.forall_mem_cons.mpr ⟨?_, List.forall_mem_cons.mpr ⟨?_, fun _ member => absurd member List.not_mem_nil⟩⟩
    · exact ⟨rfl, by decide +kernel, by decide +kernel, by decide⟩
    · exact ⟨.inr (by decide), by decide, by decide, by decide⟩
  · rw [contentsOf]
    refine List.forall_mem_cons.mpr ⟨?_, fun _ member => absurd member List.not_mem_nil⟩
    exact ⟨by decide, by decide, by decide⟩
  · rintro ⟨line, single, -⟩
    rw [messageLines, pairsOf] at single
    cases single

theorem quoted_name_lost : ¬ ∀ message, Built message → message.messageHeaders ≠ [] → message.contentHeaders ≠ [] → RoundTrips message := by
  intro trips
  have kept := RoundTrips.conforming (greeting_built "a\"b".toList).formed (by decide +kernel)
    (trips _ (greeting_built "a\"b".toList) (by decide +kernel) (by decide +kernel))
  have member : ([], .other (.contact .fromHeader ⟨"im:a@b".toList, "a\"b".toList⟩)) ∈
    pairs (greeting "a\"b".toList).messageHeaders := by decide +kernel
  obtain ⟨-, -, string, -⟩ := kept.messageHeaders _ member
  exact absurd string (by decide)

end Message

end Liblinphone.Cpim
