import Liblinphone.Proofs.CpimRules

/-! What is read again of a header that was written. Each class of headers has a condition
under which this is the header. -/

namespace Liblinphone.Cpim

open Library

theorem ContactHeaderNode.createHeader_eq_some {node : ContactHeaderNode} {header : ContactHeader} :
    node.createHeader = some header ↔ node.uri ≠ [] ∧ ContactHeader.create node.uri node.formalName = header := by
  rw [createHeader, Option.ite_none_right_eq_some, Option.some.injEq, isValid]
  simp

namespace ContactHeader

/-- What is added to a message for a value that is parsed. -/
def reread (value : Text) : Option ContactHeader :=
  ((ContactHeaderNode.read value).bind ContactHeaderNode.createHeader).bind fun read =>
    (ContactHeaderNode.ofHeader read).createHeader

def Kept (header : ContactHeader) : Prop :=
  Rule.uri.rmatch header.uri = true ∧ isStringBody header.formalName = true ∧ header.formalName.getLast? ≠ some ' '

instance (header : ContactHeader) : Decidable header.Kept := inferInstanceAs (Decidable (_ ∧ _ ∧ _))

/-- A formal name as it is written. -/
def quoted (formalName : Text) : Text := if formalName.isEmpty then [] else '"' :: formalName ++ ['"']

variable {header : ContactHeader} {uri formalName value : Text}

theorem getValue_quoted (header : ContactHeader) : header.getValue = quoted header.formalName ++ '<' :: header.uri ++ ['>'] := rfl

theorem quoted_nil : quoted [] = [] := rfl

theorem quoted_filled (filled : formalName ≠ []) : quoted formalName = '"' :: formalName ++ ['"'] :=
  if_neg (by simpa using filled)

theorem create_string (uri body : Text) : create uri ('"' :: body ++ ['"']) = ⟨uri, body⟩ := by
  have ends : ('"' :: body ++ ['"']).getLast? = some '"' := List.getLast?_concat
  rw [create, setFormalName, if_pos ⟨rfl, ends⟩, List.cons_append, List.tail_cons, List.dropLast_concat]

theorem create_plain (uri : Text) (opened : formalName.head? ≠ some '"') (ends : formalName.getLast? ≠ some ' ') :
    create uri formalName = ⟨uri, formalName⟩ := by
  rw [create, setFormalName, if_neg fun both => opened both.1, if_neg ends]

theorem create_quoted (uri formalName : Text) : create uri (quoted formalName) = ⟨uri, formalName⟩ := by
  by_cases empty : formalName = []
  · rw [empty]
    rfl
  · rw [quoted_filled empty, create_string]

/-- Of a formal name only what stands around it is taken away. -/
theorem create_subset (uri formalName : Text) : ∀ char ∈ (create uri formalName).formalName, char ∈ formalName := by
  intro char member
  unfold create setFormalName at member
  split at member
  next => exact List.mem_of_mem_tail (List.mem_of_mem_dropLast member)
  next =>
    split at member
    next => exact List.mem_of_mem_dropLast member
    next => exact member

theorem create_uri (uri formalName : Text) : (create uri formalName).uri = uri := by
  unfold create setFormalName
  split
  next => rfl
  next => split <;> rfl

/-- What a value is that is read. -/
theorem reread_eq_some : reread value = some header ↔
    ∃ start uri, readBracketed value = some (start, uri) ∧ (start = [] ∨ isFormalName start = true) ∧ uri ≠ [] ∧
      create uri (create uri start).formalName = header := by
  constructor
  · intro read
    obtain ⟨made, isMade, again⟩ := Option.bind_eq_some_iff.mp read
    obtain ⟨node, isNode, created⟩ := Option.bind_eq_some_iff.mp isMade
    obtain ⟨⟨start, uri⟩, bracketed, named⟩ := Option.bind_eq_some_iff.mp isNode
    split at named
    next formal =>
      obtain rfl := Option.some.inj named
      obtain ⟨valid, rfl⟩ := ContactHeaderNode.createHeader_eq_some.mp created
      obtain ⟨-, rfl⟩ := ContactHeaderNode.createHeader_eq_some.mp again
      refine ⟨start, uri, bracketed, ?_, valid, ?_⟩
      · simpa using formal
      · rw [ContactHeaderNode.ofHeader, create_uri]
    next => cases named
  · rintro ⟨start, uri, bracketed, formal, filled, rfl⟩
    have isRead : ContactHeaderNode.read value = some ⟨start, uri⟩ := by
      rw [ContactHeaderNode.read, bracketed, Option.bind_some]
      exact if_pos (by simpa using formal)
    have created : ∀ name, ContactHeaderNode.createHeader ⟨name, uri⟩ = some (create uri name) :=
      fun name => ContactHeaderNode.createHeader_eq_some.mpr ⟨filled, rfl⟩
    rw [reread, isRead, Option.bind_some, created, Option.bind_some, ContactHeaderNode.ofHeader, create_uri, created]

/-- What is created is accepted when it is added. -/
theorem accepted {read : ContactHeader} (created : (ContactHeaderNode.read value).bind ContactHeaderNode.createHeader = some read) :
    ∃ kept, (ContactHeaderNode.ofHeader read).createHeader = some kept := by
  obtain ⟨node, -, made⟩ := Option.bind_eq_some_iff.mp created
  obtain ⟨valid, rfl⟩ := ContactHeaderNode.createHeader_eq_some.mp made
  refine ⟨_, ContactHeaderNode.createHeader_eq_some.mpr ⟨?_, rfl⟩⟩
  rwa [ContactHeaderNode.ofHeader, create_uri]

theorem isFormalName_quoted (filled : formalName ≠ []) : isFormalName (quoted formalName) = isStringBody formalName := by
  have ends : (quoted formalName).getLast? = some '"' := by
    rw [quoted_filled filled]
    exact List.getLast?_concat
  have other : isTokens (quoted formalName) = false := by
    rw [isTokens, ends]
    rfl
  rw [isFormalName, other, Bool.false_or, Bool.eq_iff_iff, isString_iff, quoted_filled filled]
  constructor
  · rintro ⟨body, string, same⟩
    rw [List.cons_append, List.cons_append, List.cons.injEq] at same
    rwa [List.append_cancel_right same.2]
  · exact fun string => ⟨formalName, string, rfl⟩

theorem reread_getValue (valid : header.uri ≠ []) : reread header.getValue = some header ↔ header.Kept := by
  rw [reread_eq_some, getValue_quoted]
  constructor
  · rintro ⟨start, uri, bracketed, formal, -, created⟩
    obtain ⟨written, matching⟩ := readBracketed_sound bracketed
    obtain rfl : uri = header.uri := by rw [← created, create_uri]
    have same : quoted header.formalName = start := by
      simpa using written
    rw [← same, create_quoted] at created
    rw [← same] at formal
    by_cases empty : header.formalName = []
    · exact ⟨matching, by rw [empty]; rfl, by rw [empty]; decide⟩
    · have string : isStringBody header.formalName = true := by
        rw [← isFormalName_quoted empty]
        refine formal.resolve_left ?_
        rw [quoted_filled empty]
        exact List.cons_ne_nil _ _
      refine ⟨matching, string, fun ends => empty ?_⟩
      have shorter : (create header.uri header.formalName).formalName = header.formalName.dropLast := by
        rw [create, setFormalName, if_neg fun both => head?_stringBody string both.1, if_pos ends]
      rw [created] at shorter
      have length := congrArg List.length shorter
      rw [List.length_dropLast] at length
      exact List.length_eq_zero_iff.mp (by omega)
  · rintro ⟨matching, string, ends⟩
    refine ⟨quoted header.formalName, header.uri, readBracketed_append _ matching, ?_, valid, ?_⟩
    · by_cases empty : header.formalName = []
      · exact .inl (by rw [empty]; rfl)
      · exact .inr ((isFormalName_quoted empty).trans string)
    · rw [create_quoted, create_plain _ (head?_stringBody string) ends]

theorem printable_reread (read : reread value = some header) : Printable header.getValue := by
  obtain ⟨start, uri, bracketed, formal, -, rfl⟩ := reread_eq_some.mp read
  obtain ⟨-, matching⟩ := readBracketed_sound bracketed
  have printable : Printable start := by
    rcases formal with rfl | formal
    · exact .nil
    · exact printable_of_formalName formal
  have named := (printable.subset (create_subset uri start)).subset (create_subset uri _)
  have quotes : ∀ {text : Text}, Printable text → Printable (quoted text) := by
    intro text inside
    unfold quoted
    split
    next => exact .nil
    next => exact (Printable.cons rfl inside).concat rfl
  rw [getValue_quoted, create_uri]
  exact ((quotes named).append (.cons rfl (printable_of_uri matching))).concat rfl

end ContactHeader

theorem SubjectHeaderNode.createHeader_eq_some {node : SubjectHeaderNode} {header : SubjectHeader} :
    node.createHeader = some header ↔ node.subject ≠ [] ∧ ⟨node.subject, node.language⟩ = header := by
  rw [createHeader, Option.ite_none_right_eq_some, Option.some.injEq, isValid]
  simp

namespace SubjectHeader

/-- What is added to a message for a value that is parsed. -/
def reread (value : Text) : Option SubjectHeader :=
  ((SubjectHeaderNode.read value).bind SubjectHeaderNode.createHeader).bind fun read =>
    (SubjectHeaderNode.ofHeader read).createHeader

def Kept (header : SubjectHeader) : Prop :=
  isHeaderValue header.subject = true ∧ (header.language = [] ∨ isLanguageTag header.language = true)

instance (header : SubjectHeader) : Decidable header.Kept := inferInstanceAs (Decidable (_ ∧ (_ ∨ _)))

variable {header : SubjectHeader} {language subject value : Text}

/-- A language as it is written. -/
def tagged (language : Text) : Text := if language.isEmpty then [] else ";lang=".toList ++ language

theorem getValue_tagged (header : SubjectHeader) : header.getValue = tagged header.language ++ ' ' :: header.subject := rfl

theorem tagged_filled (filled : language ≠ []) : tagged language = ";lang=".toList ++ language := if_neg (by simpa using filled)

/-- The texts that the grammar takes for a language. -/
def Tags (start language : Text) : Prop :=
  start = [] ∧ language = [] ∨
    start ≠ [] ∧ (start.take 6).map Char.toLower = ";lang=".toList ∧ isLanguageTag (start.drop 6) = true ∧ start.drop 6 = language

theorem reread_eq_some : reread value = some header ↔
    ∃ start, ' ' ∉ start ∧ value = start ++ ' ' :: header.subject ∧ isHeaderValue header.subject = true ∧ header.subject ≠ [] ∧
      Tags start header.language := by
  constructor
  · intro read
    obtain ⟨made, isMade, again⟩ := Option.bind_eq_some_iff.mp read
    obtain ⟨node, isNode, created⟩ := Option.bind_eq_some_iff.mp isMade
    obtain ⟨valid, rfl⟩ := SubjectHeaderNode.createHeader_eq_some.mp created
    obtain ⟨-, rfl⟩ := SubjectHeaderNode.createHeader_eq_some.mp again
    unfold SubjectHeaderNode.read at isNode
    dsimp only at isNode
    split at isNode
    next spaced =>
      refine ⟨value.takeWhile (· != ' '), not_mem_takeWhile_ne value, ?_⟩
      have whole := takeWhile_append_stop spaced.1
      split at isNode
      next empty =>
        obtain rfl := Option.some.inj isNode
        exact ⟨whole.symm, spaced.2, valid, .inl ⟨by simpa using empty, rfl⟩⟩
      next filled =>
        split at isNode
        next tag =>
          obtain rfl := Option.some.inj isNode
          exact ⟨whole.symm, spaced.2, valid, .inr ⟨by simpa using filled, tag.1, tag.2, rfl⟩⟩
        next => cases isNode
    next => cases isNode
  · rintro ⟨start, missing, written, printable, valid, tags⟩
    have isRead : SubjectHeaderNode.read value = some ⟨header.language, header.subject⟩ := by
      have spaced : ' ' ∈ value := by
        rw [written]
        exact List.mem_append_right _ List.mem_cons_self
      have first : value.takeWhile (· != ' ') = start := written ▸ takeWhile_ne missing
      have second : (value.dropWhile (· != ' ')).tail = header.subject := by rw [written, dropWhile_ne missing, List.tail_cons]
      unfold SubjectHeaderNode.read
      dsimp only
      rw [first, second, if_pos ⟨spaced, printable⟩]
      rcases tags with ⟨rfl, language⟩ | ⟨filled, lang, tag, language⟩
      · rw [language]
        rfl
      · rw [if_neg (by simpa using filled), if_pos ⟨lang, tag⟩, language]
    have created : SubjectHeaderNode.createHeader ⟨header.language, header.subject⟩ = some header :=
      SubjectHeaderNode.createHeader_eq_some.mpr ⟨valid, rfl⟩
    rw [reread, isRead, Option.bind_some, created, Option.bind_some]
    exact created

theorem accepted {read : SubjectHeader} (created : (SubjectHeaderNode.read value).bind SubjectHeaderNode.createHeader = some read) :
    ∃ kept, (SubjectHeaderNode.ofHeader read).createHeader = some kept := by
  obtain ⟨node, -, made⟩ := Option.bind_eq_some_iff.mp created
  obtain ⟨valid, rfl⟩ := SubjectHeaderNode.createHeader_eq_some.mp made
  exact ⟨_, SubjectHeaderNode.createHeader_eq_some.mpr ⟨valid, rfl⟩⟩

theorem tags_tagged (tag : language = [] ∨ isLanguageTag language = true) : Tags (tagged language) language := by
  by_cases empty : language = []
  · rw [empty]
    exact .inl ⟨rfl, rfl⟩
  · rw [tagged_filled empty]
    exact .inr ⟨List.cons_ne_nil _ _, rfl, tag.resolve_left empty, rfl⟩

theorem reread_getValue (valid : header.subject ≠ []) : reread header.getValue = some header ↔ header.Kept := by
  rw [reread_eq_some, getValue_tagged]
  constructor
  · rintro ⟨start, -, -, printable, -, tags⟩
    refine ⟨printable, ?_⟩
    rcases tags with ⟨-, empty⟩ | ⟨-, -, tag, same⟩
    · exact .inl empty
    · exact .inr (same ▸ tag)
  · rintro ⟨printable, tag⟩
    refine ⟨tagged header.language, ?_, rfl, printable, valid, tags_tagged tag⟩
    unfold tagged
    split
    next => exact List.not_mem_nil
    next filled =>
      have isTag := tag.resolve_left fun empty => filled (by rw [empty]; rfl)
      rw [List.mem_append, not_or]
      exact ⟨by decide, isLanguageTag_not_mem isTag (by decide)⟩

theorem printable_reread (read : reread value = some header) : Printable header.getValue := by
  obtain ⟨start, -, -, printable, -, tags⟩ := reread_eq_some.mp read
  have language : Printable (tagged header.language) := by
    unfold tagged
    split
    next => exact .nil
    next filled =>
      rcases tags with ⟨-, empty⟩ | ⟨-, -, tag, same⟩
      · exact absurd (by rw [empty]; rfl) filled
      · exact Printable.append (isHeaderValue_iff.mp rfl) (same ▸ printable_of_languageTag tag)
  exact language.append (.cons rfl (isHeaderValue_iff.mp printable))

end SubjectHeader

theorem NsHeaderNode.createHeader_eq_some {node : NsHeaderNode} {header : NsHeader} :
    node.createHeader = some header ↔ node.uri ≠ [] ∧ ⟨node.uri, node.prefixName⟩ = header := by
  rw [createHeader, Option.ite_none_right_eq_some, Option.some.injEq, isValid]
  simp

namespace NsHeader

/-- What is added to a message for a value that is parsed. -/
def reread (value : Text) : Option NsHeader :=
  ((NsHeaderNode.read value).bind NsHeaderNode.createHeader).bind fun read => (NsHeaderNode.ofHeader read).createHeader

def Kept (header : NsHeader) : Prop :=
  Rule.uri.rmatch header.uri = true ∧ (header.prefixName = [] ∨ isName header.prefixName = true)

instance (header : NsHeader) : Decidable header.Kept := inferInstanceAs (Decidable (_ ∧ (_ ∨ _)))

variable {header : NsHeader} {value : Text}

/-- A name as it is written in front of a URI. -/
def spaced (prefixName : Text) : Text := if prefixName.isEmpty then [] else prefixName ++ [' ']

theorem getValue_spaced (header : NsHeader) : header.getValue = spaced header.prefixName ++ '<' :: header.uri ++ ['>'] := rfl

theorem reread_eq_some : reread value = some header ↔
    readBracketed value = some (spaced header.prefixName, header.uri) ∧ header.uri ≠ [] ∧
      (header.prefixName = [] ∨ isName header.prefixName = true) := by
  constructor
  · intro read
    obtain ⟨made, isMade, again⟩ := Option.bind_eq_some_iff.mp read
    obtain ⟨node, isNode, created⟩ := Option.bind_eq_some_iff.mp isMade
    obtain ⟨valid, rfl⟩ := NsHeaderNode.createHeader_eq_some.mp created
    obtain ⟨-, rfl⟩ := NsHeaderNode.createHeader_eq_some.mp again
    obtain ⟨⟨start, uri⟩, bracketed, named⟩ := Option.bind_eq_some_iff.mp isNode
    split at named
    next empty =>
      obtain rfl := Option.some.inj named
      obtain rfl : start = [] := List.isEmpty_iff.mp empty
      exact ⟨bracketed, valid, .inl rfl⟩
    next =>
      split at named
      next name =>
        obtain rfl := Option.some.inj named
        have whole : spaced start.dropLast = start := by
          rw [spaced, if_neg (by simpa using isName_ne_nil name.2), List.dropLast_append_getLast? ' ' name.1]
        exact ⟨bracketed.trans (congrArg (fun start => some (start, uri)) whole.symm), valid, .inr name.2⟩
      next => cases named
  · rintro ⟨bracketed, valid, named⟩
    have isRead : NsHeaderNode.read value = some ⟨header.prefixName, header.uri⟩ := by
      rw [NsHeaderNode.read, bracketed, Option.bind_some]
      by_cases empty : header.prefixName = []
      · rw [empty]
        rfl
      · have written : spaced header.prefixName = header.prefixName ++ [' '] := if_neg (by simpa using empty)
        rw [written, if_neg (by simp), List.getLast?_concat, List.dropLast_concat, if_pos ⟨rfl, named.resolve_left empty⟩]
    have created : NsHeaderNode.createHeader ⟨header.prefixName, header.uri⟩ = some header :=
      NsHeaderNode.createHeader_eq_some.mpr ⟨valid, rfl⟩
    rw [reread, isRead, Option.bind_some, created, Option.bind_some]
    exact created

theorem accepted {read : NsHeader} (created : (NsHeaderNode.read value).bind NsHeaderNode.createHeader = some read) :
    ∃ kept, (NsHeaderNode.ofHeader read).createHeader = some kept := by
  obtain ⟨node, -, made⟩ := Option.bind_eq_some_iff.mp created
  obtain ⟨valid, rfl⟩ := NsHeaderNode.createHeader_eq_some.mp made
  exact ⟨_, NsHeaderNode.createHeader_eq_some.mpr ⟨valid, rfl⟩⟩

theorem reread_getValue (valid : header.uri ≠ []) : reread header.getValue = some header ↔ header.Kept := by
  rw [reread_eq_some, getValue_spaced]
  constructor
  · rintro ⟨bracketed, -, named⟩
    exact ⟨(readBracketed_sound bracketed).2, named⟩
  · rintro ⟨matching, named⟩
    exact ⟨readBracketed_append _ matching, valid, named⟩

theorem printable_reread (read : reread value = some header) : Printable header.getValue := by
  obtain ⟨bracketed, -, named⟩ := reread_eq_some.mp read
  have matching := (readBracketed_sound bracketed).2
  have name : Printable (spaced header.prefixName) := by
    unfold spaced
    split
    next => exact .nil
    next filled => exact (printable_of_name (named.resolve_left fun empty => filled (by rw [empty]; rfl))).concat rfl
  rw [getValue_spaced]
  exact (name.append (.cons rfl (printable_of_uri matching))).concat rfl

end NsHeader

section Names

variable {first : Text} {names rest : List Text}

theorem joinNames_cons (first : Text) (rest : List Text) :
    joinNames (first :: rest) = first ++ rest.flatMap fun name => if name = first then name else ',' :: name := by
  rw [joinNames, List.flatMap_cons, if_neg (by simp)]
  refine congrArg (first ++ ·) (congrArg rest.flatMap (funext fun name => ?_))
  simp [ite_not]

theorem mem_joinNames {char : Char} (member : char ∈ joinNames names) : char = ',' ∨ ∃ name ∈ names, char ∈ name := by
  obtain ⟨name, listed, inside⟩ := List.mem_flatMap.mp member
  split at inside
  next =>
    rcases List.mem_cons.mp inside with comma | found
    · exact .inl comma
    · exact .inr ⟨name, listed, found⟩
  next => exact .inr ⟨name, listed, inside⟩

/-- Names that are not the first one are set apart by commas. -/
theorem joinNames_apart (other : first ∉ rest) : joinNames (first :: rest) = [','].intercalate (first :: rest) := by
  rw [joinNames_cons, intercalate_cons]
  exact congrArg (first ++ ·) (List.flatMap_congr fun name member => if_neg fun (same : name = first) => other (same ▸ member))

theorem count_joinNames (plain : ∀ name ∈ first :: rest, ',' ∉ name) :
    (joinNames (first :: rest)).count ',' = (rest.filter (· ≠ first)).length := by
  rw [joinNames_cons, List.count_append, List.count_eq_zero_of_not_mem (plain first List.mem_cons_self), Nat.zero_add]
  induction rest with
  | nil => rfl
  | cons name more following =>
    have later := following fun other member => plain other (by
      rcases List.mem_cons.mp member with rfl | inside
      · exact List.mem_cons_self
      · exact List.mem_cons_of_mem _ (List.mem_cons_of_mem _ inside))
    rw [List.flatMap_cons, List.count_append, later, List.filter_cons]
    have missing := List.count_eq_zero_of_not_mem (plain name (List.mem_cons_of_mem _ List.mem_cons_self))
    by_cases same : name = first
    · rw [if_pos same, missing, if_neg (by simpa using same), Nat.zero_add]
    · rw [if_neg same, List.count_cons_self, missing, if_pos (by simpa using same), List.length_cons, Nat.zero_add, Nat.add_comm]

end Names

theorem RequireHeaderNode.createHeader_eq_some {node : RequireHeaderNode} {header : RequireHeader} :
    node.createHeader = some header ↔ node.headerNames ≠ [] ∧ RequireHeader.ofText node.headerNames = header := by
  rw [createHeader, Option.ite_none_right_eq_some, Option.some.injEq, isValid]
  simp

namespace RequireHeader

/-- What is added to a message for a value that is parsed. -/
def reread (value : Text) : Option RequireHeader :=
  ((RequireHeaderNode.read value).bind RequireHeaderNode.createHeader).bind fun read =>
    (RequireHeaderNode.ofHeader read).createHeader

def Kept (header : RequireHeader) : Prop :=
  (∀ name ∈ header.headerNames, isHeaderName name = true) ∧ ∀ first ∈ header.headerNames.head?, first ∉ header.headerNames.tail

instance (header : RequireHeader) : Decidable header.Kept :=
  inferInstanceAs (Decidable ((∀ _ ∈ header.headerNames, _) ∧ ∀ _ ∈ header.headerNames.head?, _))

variable {header : RequireHeader} {value : Text}

/-- What is created of names is accepted when it is added. -/
theorem accepted {read : RequireHeader} (created : (RequireHeaderNode.read value).bind RequireHeaderNode.createHeader = some read) :
    (∀ name ∈ value.splitOn ',', isHeaderName name = true) ∧
      (RequireHeaderNode.ofHeader read).createHeader = some (.ofText (joinNames (value.splitOn ','))) := by
  obtain ⟨node, isNode, made⟩ := Option.bind_eq_some_iff.mp created
  obtain ⟨-, rfl⟩ := RequireHeaderNode.createHeader_eq_some.mp made
  unfold RequireHeaderNode.read at isNode
  split at isNode
  next named =>
    obtain rfl := Option.some.inj isNode
    refine ⟨List.all_eq_true.mp named, RequireHeaderNode.createHeader_eq_some.mpr ⟨?_, rfl⟩⟩
    obtain ⟨first, rest, shape⟩ := List.exists_cons_of_ne_nil (List.splitOn_ne_nil ',' value)
    have filled : first ≠ [] := isHeaderName_ne_nil (List.all_eq_true.mp named first (shape ▸ List.mem_cons_self))
    rw [RequireHeaderNode.ofHeader, ofText, shape, joinNames_cons]
    exact List.append_ne_nil_of_left_ne_nil filled _
  next => cases isNode

theorem reread_eq_some : reread value = some header ↔
    (∀ name ∈ value.splitOn ',', isHeaderName name = true) ∧
      (joinNames (value.splitOn ',')).splitOn ',' = header.headerNames := by
  constructor
  · intro read
    obtain ⟨made, isMade, again⟩ := Option.bind_eq_some_iff.mp read
    obtain ⟨named, kept⟩ := accepted isMade
    exact ⟨named, congrArg headerNames (Option.some.inj (kept.symm.trans again))⟩
  · rintro ⟨named, same⟩
    have isRead : RequireHeaderNode.read value = some ⟨value⟩ := if_pos (List.all_eq_true.mpr named)
    have valid : value ≠ [] := by
      rintro rfl
      exact isHeaderName_ne_nil (named [] List.mem_cons_self) rfl
    have created : (RequireHeaderNode.read value).bind RequireHeaderNode.createHeader = some (.ofText value) := by
      rw [isRead, Option.bind_some]
      exact RequireHeaderNode.createHeader_eq_some.mpr ⟨valid, rfl⟩
    rw [reread, created, Option.bind_some, (accepted created).2]
    cases header
    exact congrArg (fun names => some (RequireHeader.mk names)) same

/-- To join names that have no comma makes no more of them. -/
theorem length_splitOn_joinNames {names : List Text} (filled : names ≠ []) (plain : ∀ name ∈ names, ',' ∉ name) :
    ((joinNames names).splitOn ',').length ≤ names.length ∧
      (((joinNames names).splitOn ',').length = names.length → ∀ first ∈ names.head?, first ∉ names.tail) := by
  obtain ⟨first, rest, rfl⟩ := List.exists_cons_of_ne_nil filled
  rw [length_splitOn, count_joinNames plain, List.length_cons]
  refine ⟨Nat.succ_le_succ (List.length_filter_le _ _), ?_⟩
  intro long front isFront member
  rw [List.head?_cons, Option.mem_some_iff] at isFront
  have each := List.length_filter_eq_length_iff.mp (Nat.succ.inj long) front member
  exact of_decide_eq_true each isFront.symm

theorem splitOn_joinNames {names : List Text} (filled : names ≠ []) (plain : ∀ name ∈ names, ',' ∉ name)
    (apart : ∀ first ∈ names.head?, first ∉ names.tail) : (joinNames names).splitOn ',' = names := by
  obtain ⟨first, rest, rfl⟩ := List.exists_cons_of_ne_nil filled
  have other : first ∉ rest := apart first rfl
  rw [joinNames_apart other, List.splitOn_intercalate _ plain (List.cons_ne_nil _ _)]

theorem reread_getValue (filled : header.headerNames ≠ []) : reread header.getValue = some header ↔ header.Kept := by
  rw [reread_eq_some, getValue]
  constructor
  · rintro ⟨named, same⟩
    have plain : ∀ name ∈ header.headerNames, ',' ∉ name := fun name member => not_mem_of_mem_splitOn (same ▸ member)
    obtain ⟨less, apart⟩ := length_splitOn_joinNames filled plain
    obtain ⟨fewer, -⟩ := length_splitOn_joinNames (List.splitOn_ne_nil ',' (joinNames header.headerNames)) fun name member =>
      not_mem_of_mem_splitOn member
    rw [same] at fewer
    have distinct := apart (by omega)
    rw [splitOn_joinNames filled plain distinct] at named
    exact ⟨named, distinct⟩
  · rintro ⟨named, distinct⟩
    have plain : ∀ name ∈ header.headerNames, ',' ∉ name := fun name member => isHeaderName_not_mem (named name member) (by decide)
    have again := splitOn_joinNames filled plain distinct
    rw [again, again]
    exact ⟨named, rfl⟩

theorem printable_reread (read : reread value = some header) : Printable header.getValue := by
  obtain ⟨named, same⟩ := reread_eq_some.mp read
  have joined : Printable (joinNames (value.splitOn ',')) := by
    intro char member
    rcases mem_joinNames member with rfl | ⟨name, listed, inside⟩
    · rfl
    · exact printable_of_headerName (named name listed) char inside
  intro char member
  rcases mem_joinNames member with rfl | ⟨name, listed, inside⟩
  · rfl
  · rw [← same] at listed
    exact joined char (mem_of_mem_splitOn listed inside)

end RequireHeader

end Liblinphone.Cpim
