import Liblinphone.Proofs.CpimHeaderLines

/-! The headers that are read again from their lines. -/

namespace Liblinphone.Cpim

open Library

namespace Header

/-- What is written of a header. -/
def told : Header PlainHeader → Header PlainHeader
  | .dateTime header => .dateTime header.told
  | .other header => .other header

/-- A header as a line. -/
def line : Header PlainHeader → Text
  | .dateTime header => DateTimeHeader.getName ++ [':', ' '] ++ header.getValue
  | .other (.contact name header) => name.getName ++ [':', ' '] ++ header.getValue
  | .other (.subject header) => "Subject:".toList ++ header.getValue
  | .other (.ns header) => "NS: ".toList ++ header.getValue
  | .other (.require header) => "Require: ".toList ++ header.getValue
  | .other (.generic header) => header.name ++ ':' :: (header.parametersText ++ ' ' :: header.value)

/-- The check that a header has passed once it is in a message. -/
def Valid : Header PlainHeader → Prop
  | .dateTime header => (DateTimeHeaderNode.ofHeader header).isValid = true
  | .other (.contact _ header) => header.uri ≠ []
  | .other (.subject header) => header.subject ≠ []
  | .other (.ns header) => header.uri ≠ []
  | .other (.require header) => header.headerNames ≠ []
  | .other (.generic header) => header.value ≠ [] ∧ GenericHeader.Apart header.parameters

end Header

def GenericHeader.Kept (header : GenericHeader) : Prop :=
  isParameters header.parametersText = true ∧ isHeaderValue header.value = true

instance (header : GenericHeader) : Decidable header.Kept := inferInstanceAs (Decidable (_ ∧ _))

namespace Header

/-- The headers of a namespace that are read again as they were. -/
def Kept (ns : Text) : Header PlainHeader → Prop
  | .dateTime header => ns = [] ∧ header.Kept
  | .other (.contact _ header) => ns = [] ∧ header.Kept
  | .other (.subject header) => ns = [] ∧ header.Kept
  | .other (.ns header) => ns = [] ∧ header.Kept
  | .other (.require header) => ns = [] ∧ header.Kept
  | .other (.generic header) => (ns = [] ∨ isName ns = true) ∧ isName header.name = true ∧ header.Kept

/-- The headers of the content that are read again as they were. -/
def ContentKept : Header PlainHeader → Prop
  | .other (.generic header) => isHeaderName header.name = true ∧ header.Kept
  | _ => False

variable {given header : Header PlainHeader}

theorem line_told (header : Header PlainHeader) : header.told.line = header.line := by
  cases header with
  | dateTime header => exact congrArg (DateTimeHeader.getName ++ [':', ' '] ++ ·) (DateTimeHeader.getValue_told header)
  | other => rfl

theorem line_generic (header : GenericHeader) :
    (Header.other (.generic header)).line = header.name ++ ':' :: (header.parametersText ++ ' ' :: header.value) := rfl

theorem told_told (header : Header PlainHeader) : header.told.told = header.told := by
  cases header with
  | dateTime header =>
    refine congrArg Header.dateTime ?_
    unfold DateTimeHeader.told
    dsimp only
    split <;> rfl
  | other => rfl

theorem asString_line (header : Header PlainHeader) : plainHeaders.headerAsString header = header.line ++ crlf := by
  cases header with
  | dateTime => rfl
  | other header =>
    cases header with
    | generic header =>
      have written : header.asString = header.name ++ ':' :: (header.parametersText ++ ' ' :: header.value) ++ crlf := by
        simp [GenericHeader.asString]
      exact written
    | _ => rfl

theorem valid_of_clone (cloned : plainHeaders.clone given = some header) : header.Valid := by
  cases given with
  | dateTime given =>
    obtain ⟨kept, isKept, rfl⟩ := Option.map_eq_some_iff.mp cloned
    obtain ⟨valid, rfl⟩ := DateTimeHeaderNode.createHeader_eq_some.mp isKept
    exact valid
  | other given =>
    obtain ⟨kept, isKept, rfl⟩ := Option.map_eq_some_iff.mp cloned
    cases given with
    | contact name given =>
      obtain ⟨header, isHeader, rfl⟩ := Option.map_eq_some_iff.mp isKept
      obtain ⟨valid, rfl⟩ := ContactHeaderNode.createHeader_eq_some.mp isHeader
      rw [Valid, ContactHeader.create_uri]
      exact valid
    | subject given =>
      obtain ⟨header, isHeader, rfl⟩ := Option.map_eq_some_iff.mp isKept
      obtain ⟨valid, rfl⟩ := SubjectHeaderNode.createHeader_eq_some.mp isHeader
      exact valid
    | ns given =>
      obtain ⟨header, isHeader, rfl⟩ := Option.map_eq_some_iff.mp isKept
      obtain ⟨valid, rfl⟩ := NsHeaderNode.createHeader_eq_some.mp isHeader
      exact valid
    | require given =>
      obtain ⟨header, isHeader, rfl⟩ := Option.map_eq_some_iff.mp isKept
      obtain ⟨-, rfl⟩ := RequireHeaderNode.createHeader_eq_some.mp isHeader
      exact List.splitOn_ne_nil _ _
    | generic given =>
      obtain ⟨header, isHeader, rfl⟩ := Option.map_eq_some_iff.mp isKept
      obtain ⟨⟨-, filled⟩, rfl⟩ := HeaderNode.createHeader_eq_some.mp isHeader
      exact ⟨filled, GenericHeader.readParameters_apart _⟩

end Header

/-- A line of a namespace. -/
def namedLine (ns : Text) (header : Header PlainHeader) : Text := (if ns = [] then [] else ns ++ ['.']) ++ header.line

theorem namedAsString_line (ns : Text) (header : Header PlainHeader) :
    Message.namedAsString plainHeaders ns header = namedLine ns header ++ crlf := by
  rw [Message.namedAsString, Header.asString_line, namedLine, List.append_assoc]

theorem namedLine_told (ns : Text) (header : Header PlainHeader) : namedLine ns header.told = namedLine ns header := by
  rw [namedLine, namedLine, Header.line_told]

theorem namedLine_filled {ns : Text} (filled : ns ≠ []) (header : Header PlainHeader) :
    namedLine ns header = ns ++ '.' :: header.line := by
  rw [namedLine, if_neg filled, List.append_assoc, List.singleton_append]

theorem namedLine_nil (header : Header PlainHeader) : namedLine [] header = header.line := rfl

/-- A written line is a line of a section. -/
theorem line_of_printable {line front after : Text} (printable : Printable line) (shape : line = front ++ ':' :: after) : Line line :=
  ⟨by rw [shape]; exact List.append_ne_nil_of_right_ne_nil _ (List.cons_ne_nil _ _), printable.unbroken⟩

section Reads

variable {line ns front after : Text} {header : Header PlainHeader}

/-- A line is read into the namespace that its name says. -/
theorem Rereads.place (reading : Rereads line ns header) (written : line = front ++ ':' :: after) (missing : ':' ∉ front) :
    (placed front).1 = ns := by
  have keyword : ∀ {name more : Text}, name ∈ reserved → name ++ ':' :: more = front ++ ':' :: after → (placed front).1 = [] := by
    intro name more listed same
    have start := congrArg (List.takeWhile (· != ':')) same
    obtain ⟨undotted, plain⟩ := reserved_plain name listed
    rw [takeWhile_ne plain, takeWhile_ne missing] at start
    rw [← start, placed_name undotted]
  cases reading with
  | dateTime => exact keyword (by decide : DateTimeHeader.getName ∈ reserved) (by simpa using written)
  | contact name => exact keyword (by cases name <;> decide : name.getName ∈ reserved) (by simpa using written)
  | subject => exact keyword (by decide : "Subject".toList ∈ reserved) written
  | ns => exact keyword (by decide : "NS".toList ∈ reserved) written
  | require => exact keyword (by decide : "Require".toList ∈ reserved) written
  | generic named =>
    have start := congrArg (List.takeWhile (· != ':')) written
    rw [takeWhile_ne (isHeaderName_not_mem named (by decide)), takeWhile_ne missing] at start
    rw [start]

theorem Rereads.told (reading : Rereads line ns header) : header.told = header := by
  cases reading with
  | dateTime read => exact congrArg Header.dateTime (DateTimeHeader.kept_reread read).2
  | _ => rfl

theorem placed_ns {name : Text} (missing : '.' ∉ ns) : (placed (ns ++ '.' :: name)).1 = ns := by
  rw [placed, if_pos (List.mem_append_right _ List.mem_cons_self), takeWhile_ne missing]

/-- A name is one, or it is of one in front of a dot. -/
theorem placed_cases (named : isHeaderName front = true) (free : front ∉ reserved) :
    (placed front = ([], front) ∧ isName front = true) ∨
      ∃ first second, isName first = true ∧ isName second = true ∧ front = first ++ '.' :: second ∧
        (placed front = (first, second) ∨ placed front = (first, front)) := by
  rcases isHeaderName_iff.mp named with name | ⟨first, second, left, right, rfl⟩
  · exact .inl ⟨placed_name (isName_not_mem name (by decide)), name⟩
  · refine .inr ⟨first, second, left, right, rfl, ?_⟩
    have missing : '.' ∉ first := isName_not_mem left (by decide)
    by_cases other : second ∈ reserved
    · refine .inr ?_
      rw [placed, if_pos (List.mem_append_right _ List.mem_cons_self), takeWhile_ne missing, dropWhile_ne missing, List.tail_cons,
        if_pos other]
    · exact .inl (placed_prefixed missing other)

/-- A header that is read is written as a line of its namespace. -/
theorem Rereads.written (reading : Rereads line ns header) : Printable (namedLine ns header) ∧
    ∃ front after, namedLine ns header = front ++ ':' :: after ∧ ':' ∉ front ∧ (placed front).1 = ns := by
  have keyword : ∀ {name more : Text}, name ∈ reserved → Printable more → namedLine [] header = name ++ ':' :: more →
      Printable (namedLine [] header) ∧
        ∃ front after, namedLine [] header = front ++ ':' :: after ∧ ':' ∉ front ∧ (placed front).1 = [] := by
    intro name more listed printable same
    obtain ⟨undotted, plain⟩ := reserved_plain name listed
    have all : reserved.all isHeaderValue = true := rfl
    rw [same]
    have named := isHeaderValue_iff.mp (List.all_eq_true.mp all name listed)
    exact ⟨named.append (.cons rfl printable), name, more, rfl, plain, by rw [placed_name undotted]⟩
  cases reading with
  | dateTime read =>
    exact keyword (by decide : DateTimeHeader.getName ∈ reserved) (.cons rfl (DateTimeHeader.printable_reread read))
      (List.append_assoc _ _ _)
  | contact name read =>
    exact keyword (by cases name <;> decide : name.getName ∈ reserved) (.cons rfl (ContactHeader.printable_reread read))
      (List.append_assoc _ _ _)
  | subject read => exact keyword (by decide : "Subject".toList ∈ reserved) (SubjectHeader.printable_reread read) rfl
  | ns read => exact keyword (by decide : "NS".toList ∈ reserved) (.cons rfl (NsHeader.printable_reread read)) rfl
  | require read => exact keyword (by decide : "Require".toList ∈ reserved) (.cons rfl (RequireHeader.printable_reread read)) rfl
  | @generic front parameters value named free listed isValue filled =>
    have body : Printable (GenericHeader.create (placed front).2 value parameters).parametersText := by
      rw [GenericHeader.create_of_free (placed_free free)]
      exact GenericHeader.printable_parametersText (isParameters_passed listed).2 rfl
    have shape : (Header.other (.generic (.create (placed front).2 value parameters))).line =
        (placed front).2 ++ ':' :: ((GenericHeader.create (placed front).2 value parameters).parametersText ++ ' ' :: value) := by
      rw [GenericHeader.create_of_free (placed_free free)]
      rfl
    generalize (GenericHeader.create (placed front).2 value parameters).parametersText = text at body shape
    have after : Printable (':' :: (text ++ ' ' :: value)) := .cons rfl (body.append (.cons rfl (isHeaderValue_iff.mp isValue)))
    have whole : Printable front ∧ ':' ∉ front := ⟨printable_of_headerName named, isHeaderName_not_mem named (by decide)⟩
    rcases placed_cases named free with ⟨same, name⟩ | ⟨first, second, left, right, split, same⟩
    · rw [same] at shape ⊢
      dsimp only at shape ⊢
      rw [namedLine_nil, shape]
      exact ⟨whole.1.append after, front, _, rfl, whole.2, by rw [same]⟩
    · obtain ⟨name, same, printable, missing⟩ : ∃ name, placed front = (first, name) ∧ Printable name ∧ ':' ∉ name := by
        rcases same with same | same
        · exact ⟨second, same, printable_of_name right, isName_not_mem right (by decide)⟩
        · exact ⟨front, same, whole⟩
      rw [same] at shape ⊢
      dsimp only at shape ⊢
      have plain : '.' ∉ first ∧ ':' ∉ first := ⟨isName_not_mem left (by decide), isName_not_mem left (by decide)⟩
      have joined : namedLine first (.other (.generic (.create name value parameters))) =
          (first ++ '.' :: name) ++ ':' :: (text ++ ' ' :: value) := by
        rw [namedLine_filled (isName_ne_nil left), shape, List.append_assoc, List.cons_append]
      rw [joined]
      refine ⟨((printable_of_name left).append (.cons rfl printable)).append after, _, _, rfl, ?_, placed_ns plain.1⟩
      rw [List.mem_append, not_or]
      exact ⟨plain.2, List.not_mem_cons_of_ne_of_not_mem (by decide) missing⟩

theorem GenericHeader.create_self {header : GenericHeader} (apart : GenericHeader.Apart header.parameters) :
    GenericHeader.create header.name header.value header.parametersText = header := by
  rw [GenericHeader.create_of_free header.free]
  exact GenericHeader.ext rfl rfl (GenericHeader.readParameters_parametersText apart)

/-- A generic header that is read from its own line. -/
theorem generic_kept {header : GenericHeader} {parameters : Text} (named : isHeaderName front = true) (free : front ∉ reserved)
    (listed : isParameters parameters = true) (isValue : isHeaderValue header.value = true) (name : header.name = (placed front).2)
    (same : namedLine (placed front).1 (.other (.generic header)) = front ++ ':' :: (parameters ++ ' ' :: header.value)) :
    Header.Kept (placed front).1 (.other (.generic header)) := by
  have missing : ':' ∉ front := isHeaderName_not_mem named (by decide)
  have cancelled : ∀ {text : Text}, front ++ ':' :: (text ++ ' ' :: header.value) = front ++ ':' :: (parameters ++ ' ' :: header.value) →
      text = parameters := fun equal => List.append_cancel_right (List.cons.inj (List.append_cancel_left equal)).2
  rcases placed_cases named free with ⟨place, isNamed⟩ | ⟨first, second, left, right, split, place | place⟩
  · rw [place] at same name ⊢
    dsimp only at same name ⊢
    rw [namedLine_nil, Header.line_generic, name] at same
    exact ⟨.inl rfl, name ▸ isNamed, cancelled same ▸ listed, isValue⟩
  · rw [place] at same name ⊢
    dsimp only at same name ⊢
    rw [namedLine_filled (isName_ne_nil left), Header.line_generic, name, ← List.cons_append, ← List.append_assoc, ← split] at same
    exact ⟨.inr left, name ▸ right, cancelled same ▸ listed, isValue⟩
  · rw [place] at same name
    dsimp only at same name
    rw [namedLine_filled (isName_ne_nil left), Header.line_generic, name, ← List.cons_append, ← List.append_assoc] at same
    have start := congrArg (List.takeWhile (· != ':')) same
    have plain : ':' ∉ first ++ '.' :: front := by
      have other : ':' ∉ first := isName_not_mem left (by decide)
      simp [other, missing]
    rw [takeWhile_ne plain, takeWhile_ne missing] at start
    have long := congrArg List.length start
    rw [List.length_append, List.length_cons] at long
    omega

theorem generic_rereads {header : GenericHeader} (valid : (Header.other (.generic header)).Valid)
    (kept : Header.Kept ns (.other (.generic header))) :
    Rereads (namedLine ns (.other (.generic header))) ns (.other (.generic header)) := by
  obtain ⟨placing, name, listed, isValue⟩ := kept
  obtain ⟨filled, apart⟩ := valid
  obtain ⟨front, named, free, placed, written⟩ : ∃ front, isHeaderName front = true ∧ front ∉ reserved ∧
      placed front = (ns, header.name) ∧
      namedLine ns (.other (.generic header)) = front ++ ':' :: (header.parametersText ++ ' ' :: header.value) := by
    rcases placing with rfl | isNs
    · exact ⟨header.name, isHeaderName_iff.mpr (.inl name), header.free, placed_name (isName_not_mem name (by decide)), rfl⟩
    · refine ⟨ns ++ '.' :: header.name, isHeaderName_iff.mpr (.inr ⟨ns, header.name, isNs, name, rfl⟩), ?_,
        placed_prefixed (isName_not_mem isNs (by decide)) header.free, ?_⟩
      · exact fun listed => (reserved_plain _ listed).1 (List.mem_append_right _ List.mem_cons_self)
      · rw [namedLine_filled (isName_ne_nil isNs), Header.line_generic, List.append_assoc, List.cons_append]
  have reading := Rereads.generic named free listed isValue filled
  rw [placed, GenericHeader.create_self apart] at reading
  rw [written]
  exact reading

/-- The headers that are read again as they were written. -/
theorem rereads_iff (valid : header.Valid) : Rereads (namedLine ns header) ns header.told ↔ header.Kept ns := by
  constructor
  · intro reading
    generalize same : namedLine ns header = line at reading
    cases header with
    | dateTime header =>
      dsimp only [Header.told] at reading
      generalize told : header.told = final at reading
      cases reading with
      | @dateTime value _ read =>
        have isValue : header.getValue = value := List.append_cancel_left same
        rw [← told, ← isValue] at read
        exact ⟨rfl, (DateTimeHeader.reread_getValue valid).mp read⟩
    | other header =>
      dsimp only [Header.told] at reading
      cases header with
      | contact name header =>
        cases reading with
        | @contact value _ _ read =>
          have isValue : header.getValue = value := List.append_cancel_left same
          exact ⟨rfl, (ContactHeader.reread_getValue valid).mp (isValue ▸ read)⟩
      | subject header =>
        cases reading with
        | @subject value _ read =>
          have isValue : header.getValue = value := List.append_cancel_left same
          exact ⟨rfl, (SubjectHeader.reread_getValue valid).mp (isValue ▸ read)⟩
      | ns header =>
        cases reading with
        | @ns value _ read =>
          have isValue : header.getValue = value := List.append_cancel_left same
          exact ⟨rfl, (NsHeader.reread_getValue valid).mp (isValue ▸ read)⟩
      | require header =>
        cases reading with
        | @require value _ read =>
          have isValue : header.getValue = value := List.append_cancel_left same
          exact ⟨rfl, (RequireHeader.reread_getValue valid).mp (isValue ▸ read)⟩
      | generic header =>
        cases reading with
        | @generic front parameters value named free listed isValue filled =>
          have shape := @GenericHeader.create_of_free _ value parameters (placed_free free)
          rw [shape] at same ⊢
          exact generic_kept named free listed isValue rfl same
  · intro kept
    cases header with
    | dateTime header =>
      obtain ⟨rfl, kept⟩ := kept
      exact .dateTime ((DateTimeHeader.reread_getValue valid).mpr kept)
    | other header =>
      cases header with
      | contact name header =>
        obtain ⟨rfl, kept⟩ := kept
        exact .contact name ((ContactHeader.reread_getValue valid).mpr kept)
      | subject header =>
        obtain ⟨rfl, kept⟩ := kept
        exact .subject ((SubjectHeader.reread_getValue valid).mpr kept)
      | ns header =>
        obtain ⟨rfl, kept⟩ := kept
        exact .ns ((NsHeader.reread_getValue valid).mpr kept)
      | require header =>
        obtain ⟨rfl, kept⟩ := kept
        exact .require ((RequireHeader.reread_getValue valid).mpr kept)
      | generic header => exact generic_rereads valid kept

end Reads

/-- The lines of the content that are read, with the header that is added for them. -/
inductive RereadsContent : Text → Header PlainHeader → Prop
  | generic {front parameters value} (named : isHeaderName front = true) (free : front ∉ reserved)
      (listed : isParameters parameters = true) (written : isHeaderValue value = true) (filled : value ≠ []) :
      RereadsContent (front ++ ':' :: (parameters ++ ' ' :: value)) (.other (.generic (.create front value parameters)))

section Contents

variable {line : Text} {header : Header PlainHeader}

theorem readContentHeader_sound {made : Header PlainHeader} (read : plainHeaders.readContentHeader line = some made) :
    ∃ kept, plainHeaders.clone made = some kept ∧ RereadsContent line kept := by
  obtain ⟨other, isOther, rfl⟩ := Option.map_eq_some_iff.mp read
  obtain ⟨node, isNode, created⟩ := Option.bind_eq_some_iff.mp isOther
  obtain ⟨header, isHeader, rfl⟩ := Option.map_eq_some_iff.mp created
  obtain ⟨front, parameters, value, rfl, named, listed, written, rfl⟩ := HeaderNode.read_eq_some.mp isNode
  obtain ⟨⟨nonempty, filled⟩, rfl⟩ := HeaderNode.createHeader_eq_some.mp isHeader
  dsimp only [HeaderNode.setName] at nonempty filled ⊢
  by_cases free : front ∈ reserved
  · rw [if_pos free] at nonempty
    exact absurd rfl nonempty
  · rw [if_neg free] at nonempty ⊢
    refine ⟨_, ?_, .generic named free listed written filled⟩
    refine Option.map_eq_some_iff.mpr ⟨_, ?_, rfl⟩
    exact Option.map_eq_some_iff.mpr ⟨_, clone_create free nonempty filled, rfl⟩

theorem readContentHeader_complete (reading : RereadsContent line header) :
    ∃ made, plainHeaders.readContentHeader line = some made ∧ plainHeaders.clone made = some header := by
  cases reading with
  | @generic front parameters value named free listed written filled =>
    have nonempty := isHeaderName_ne_nil named
    refine ⟨.other (.generic (.create front value parameters)), ?_, ?_⟩
    · have isNode : HeaderNode.read (front ++ ':' :: (parameters ++ ' ' :: value)) = some ⟨front, value, parameters⟩ := by
        refine HeaderNode.read_eq_some.mpr ⟨front, parameters, value, rfl, named, listed, written, ?_⟩
        rw [HeaderNode.setName, if_neg free]
      refine Option.map_eq_some_iff.mpr ⟨_, Option.bind_eq_some_iff.mpr ⟨_, isNode, ?_⟩, rfl⟩
      exact Option.map_eq_some_iff.mpr ⟨_, HeaderNode.createHeader_eq_some.mpr ⟨⟨nonempty, filled⟩, rfl⟩, rfl⟩
    · refine Option.map_eq_some_iff.mpr ⟨_, ?_, rfl⟩
      exact Option.map_eq_some_iff.mpr ⟨_, clone_create free nonempty filled, rfl⟩

theorem RereadsContent.written (reading : RereadsContent line header) : Printable header.line ∧ header.line ≠ [] := by
  cases reading with
  | @generic front parameters value named free listed isValue filled =>
    have body : Printable (GenericHeader.create front value parameters).parametersText := by
      rw [GenericHeader.create_of_free free]
      exact GenericHeader.printable_parametersText (isParameters_passed listed).2 rfl
    rw [GenericHeader.create_of_free free] at body ⊢
    rw [Header.line_generic]
    refine ⟨(printable_of_headerName named).append (.cons rfl (body.append (.cons rfl (isHeaderValue_iff.mp isValue)))), ?_⟩
    exact List.append_ne_nil_of_left_ne_nil (isHeaderName_ne_nil named) _

theorem RereadsContent.isGeneric (reading : RereadsContent line header) : ∃ found, header = .other (.generic found) := by
  cases reading
  exact ⟨_, rfl⟩

theorem rereadsContent_iff (valid : header.Valid) : RereadsContent header.line header.told ↔ header.ContentKept := by
  cases header with
  | dateTime header => exact iff_of_false (fun reading => absurd reading.isGeneric (by simp [Header.told])) id
  | other header =>
    cases header with
    | generic header =>
      constructor
      · intro reading
        generalize same : (Header.other (.generic header)).line = line at reading
        dsimp only [Header.told] at reading
        cases reading with
        | @generic front parameters value named free listed isValue filled =>
          have shape := @GenericHeader.create_of_free _ value parameters free
          rw [shape] at same ⊢
          rw [Header.line_generic] at same
          have parts := List.append_cancel_right (List.cons.inj (List.append_cancel_left same)).2
          exact ⟨named, (congrArg isParameters parts).trans listed, isValue⟩
      · rintro ⟨named, listed, isValue⟩
        have reading := RereadsContent.generic named header.free listed isValue valid.1
        rw [GenericHeader.create_self valid.2] at reading
        exact reading
    | _ => exact iff_of_false (fun reading => absurd reading.isGeneric (by simp [Header.told])) id

end Contents

end Liblinphone.Cpim
