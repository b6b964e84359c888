import Liblinphone.Proofs.CpimDateValues
import Liblinphone.Proofs.CpimHeaderValues

/-! The lines of message headers. A line is read by the rule of its keyword, and by the one of
generic headers when it has none. -/

namespace Liblinphone.Cpim

open Library

namespace GenericHeader

variable {header : GenericHeader} {name value parameters : Text}

/-- Parameters that come apart where they were put together. -/
def Apart (parameters : List (Text × Text)) : Prop :=
  ∀ parameter ∈ parameters, ('=' ∉ parameter.1 ∧ ';' ∉ parameter.1) ∧ ';' ∉ parameter.2

theorem mem_readParameters {text : Text} {parameter : Text × Text} (member : parameter ∈ readParameters text) :
    ∃ part ∈ text.splitOn ';', '=' ∈ part ∧ parameter = (part.takeWhile (· != '='), (part.dropWhile (· != '=')).tail) := by
  obtain ⟨part, listed, found⟩ := List.mem_filterMap.mp member
  rw [readParameter, Option.ite_none_right_eq_some, Option.some.injEq] at found
  exact ⟨part, listed, found.1, found.2.symm⟩

theorem readParameters_apart (text : Text) : Apart (readParameters text) := by
  intro parameter member
  obtain ⟨part, listed, -, rfl⟩ := mem_readParameters member
  have missing := not_mem_of_mem_splitOn listed
  refine ⟨⟨not_mem_takeWhile_ne part, fun inside => missing (List.takeWhile_subset _ inside)⟩, fun inside => missing ?_⟩
  exact List.dropWhile_subset _ (List.mem_of_mem_tail inside)

theorem readParameters_parametersText (apart : Apart header.parameters) :
    readParameters header.parametersText = header.parameters := by
  have written : header.parametersText =
      [';'].intercalate ([] :: header.parameters.map fun parameter => parameter.1 ++ '=' :: parameter.2) := by
    rw [intercalate_cons, List.nil_append, List.flatMap_map]
    rfl
  have plain : ∀ part ∈ [] :: header.parameters.map (fun parameter => parameter.1 ++ '=' :: parameter.2), ';' ∉ part := by
    refine List.forall_mem_cons.mpr ⟨List.not_mem_nil, List.forall_mem_map.mpr fun parameter member => ?_⟩
    obtain ⟨⟨-, key⟩, text⟩ := apart parameter member
    rw [List.mem_append, not_or]
    exact ⟨key, List.not_mem_cons_of_ne_of_not_mem (by decide) text⟩
  rw [readParameters, written, List.splitOn_intercalate _ plain (List.cons_ne_nil _ _)]
  have unnamed : readParameter [] = none := rfl
  rw [List.filterMap_cons_none unnamed, List.filterMap_map]
  refine (List.filterMap_congr fun parameter member => ?_).trans (List.filterMap_some (l := header.parameters))
  obtain ⟨⟨missing, -⟩, -⟩ := apart parameter member
  rw [Function.comp_apply, readParameter, if_pos (List.mem_append_right _ List.mem_cons_self), takeWhile_ne missing, dropWhile_ne missing, List.tail_cons]

theorem printable_parametersText {text : Text} (printable : Printable text) (same : header.parameters = readParameters text) :
    Printable header.parametersText := by
  intro char member
  obtain ⟨parameter, listed, inside⟩ := List.mem_flatMap.mp member
  rw [same] at listed
  obtain ⟨part, whole, -, rfl⟩ := mem_readParameters listed
  have within : Printable part := printable.subset fun char member => mem_of_mem_splitOn whole member
  have left : Printable (part.takeWhile (· != '=')) := within.subset fun _ member => List.takeWhile_subset _ member
  have right : Printable (part.dropWhile (· != '=')).tail := within.subset fun _ member =>
    List.dropWhile_subset _ (List.mem_of_mem_tail member)
  exact ((Printable.cons rfl left).append (.cons rfl right)) char inside

theorem create_of_free (free : name ∉ reserved) : create name value parameters = ⟨name, value, readParameters parameters, free⟩ := by
  unfold create setName
  rw [dif_neg free]

end GenericHeader

namespace HeaderNode

variable {line : Text} {node : HeaderNode}

theorem read_eq_some : read line = some node ↔
    ∃ front parameters value, line = front ++ ':' :: (parameters ++ ' ' :: value) ∧ isHeaderName front = true ∧
      isParameters parameters = true ∧ isHeaderValue value = true ∧
      node = { (({} : HeaderNode).setName front) with parameters := parameters, value := value } := by
  constructor
  · intro isRead
    unfold read at isRead
    dsimp only at isRead
    split at isRead
    next found =>
      obtain ⟨colon, filled, named, parameters, value⟩ := found
      refine ⟨_, _, _, ?_, named, parameters, value, (Option.some.inj isRead).symm⟩
      have cut := cutOutside_join ' ' .outside (line.dropWhile (· != ':')).tail
      obtain ⟨space, rest, shape⟩ := List.exists_cons_of_ne_nil filled
      rw [shape, cutOutside_head shape] at cut
      rw [shape, List.tail_cons, cut]
      exact (takeWhile_append_stop colon).symm
    next => cases isRead
  · rintro ⟨front, parameters, value, rfl, named, isParameters, isValue, rfl⟩
    have missing : ':' ∉ front := isHeaderName_not_mem named (by decide)
    unfold read
    dsimp only
    rw [takeWhile_ne missing, dropWhile_ne missing, List.tail_cons, cutOutside_parameters isParameters, List.tail_cons]
    exact if_pos ⟨List.mem_append_right _ List.mem_cons_self, List.cons_ne_nil _ _, named, isParameters, isValue⟩

theorem createHeader_eq_some {header : GenericHeader} : node.createHeader = some header ↔
    (node.name ≠ [] ∧ node.value ≠ []) ∧ GenericHeader.create node.name node.value node.parameters = header := by
  rw [createHeader, Option.ite_none_right_eq_some, Option.some.injEq, isValid]
  simp

end HeaderNode

section Names

variable {front name : Text}

theorem placed_name (missing : '.' ∉ front) : placed front = ([], front) := if_neg missing

theorem placed_prefixed {ns : Text} (missing : '.' ∉ ns) (free : name ∉ reserved) : placed (ns ++ '.' :: name) = (ns, name) := by
  rw [placed, if_pos (List.mem_append_right _ List.mem_cons_self), takeWhile_ne missing, dropWhile_ne missing, List.tail_cons,
    if_neg free]

theorem reserved_plain : ∀ name ∈ reserved, '.' ∉ name ∧ ':' ∉ name := by decide

theorem placed_free (free : front ∉ reserved) : (placed front).2 ∉ reserved := by
  unfold placed
  split
  next =>
    dsimp only
    split
    next => exact free
    next other => exact other
  next => exact free

theorem placed_ne_nil (named : isHeaderName front = true) : (placed front).2 ≠ [] := by
  rcases isHeaderName_iff.mp named with name | ⟨first, second, left, right, rfl⟩
  · rw [placed_name (isName_not_mem name (by decide))]
    exact isName_ne_nil name
  · rw [placed, if_pos (List.mem_append_right _ List.mem_cons_self)]
    have missing : '.' ∉ first := isName_not_mem left (by decide)
    rw [dropWhile_ne missing, List.tail_cons]
    split
    next => exact isHeaderName_ne_nil named
    next => exact isName_ne_nil right

theorem createMessageHeader_generic (node : HeaderNode) :
    PlainNode.createMessageHeader (.generic node) =
      (HeaderNode.createHeader { node with name := (placed node.name).2 }).map fun header =>
        ((placed node.name).1, .generic header) := by
  unfold PlainNode.createMessageHeader placed PlainNode.getName
  dsimp only
  split
  next =>
    unfold PlainNode.setName PlainNode.createHeader HeaderNode.setName
    dsimp only
    rw [Option.map_map]
    split <;> rfl
  next =>
    unfold PlainNode.createHeader
    dsimp only
    rw [Option.map_map]
    rfl

end Names

/-- What is added to a message for a line that is parsed. -/
def reread (line : Text) : Option (Text × Header PlainHeader) :=
  (plainHeaders.readMessageHeader line).bind fun read => (plainHeaders.clone read.2).map fun kept => (read.1, kept)

/-- The lines that are read, with the namespace and the header that are added for them. -/
inductive Rereads : Text → Text → Header PlainHeader → Prop
  | dateTime {value header} (read : DateTimeHeader.reread value = some header) :
      Rereads (DateTimeHeader.getName ++ [':', ' '] ++ value) [] (.dateTime header)
  | contact {value header} (name : ContactName) (read : ContactHeader.reread value = some header) :
      Rereads (name.getName ++ [':', ' '] ++ value) [] (.other (.contact name header))
  | subject {value header} (read : SubjectHeader.reread value = some header) :
      Rereads ("Subject:".toList ++ value) [] (.other (.subject header))
  | ns {value header} (read : NsHeader.reread value = some header) :
      Rereads ("NS: ".toList ++ value) [] (.other (.ns header))
  | require {value header} (read : RequireHeader.reread value = some header) :
      Rereads ("Require: ".toList ++ value) [] (.other (.require header))
  | generic {front parameters value} (named : isHeaderName front = true) (free : front ∉ reserved)
      (listed : isParameters parameters = true) (written : isHeaderValue value = true) (filled : value ≠ []) :
      Rereads (front ++ ':' :: (parameters ++ ' ' :: value)) (placed front).1
        (.other (.generic (.create (placed front).2 value parameters)))

section Lines

variable {line ns : Text} {header : Header PlainHeader}

theorem skip_eq_some {wanted text rest : Text} : skip wanted text = some rest ↔ text = wanted ++ rest := by
  rw [skip, Option.ite_none_right_eq_some, Option.some.injEq, List.isPrefixOf_iff_prefix]
  constructor
  · rintro ⟨⟨more, rfl⟩, rest⟩
    rw [← rest, List.drop_left]
  · rintro rfl
    exact ⟨List.prefix_append _ _, List.drop_left⟩

/-- A header that was created is not changed when it is added. -/
theorem clone_create {name value parameters : Text} (free : name ∉ reserved) (named : name ≠ []) (filled : value ≠ []) :
    (HeaderNode.ofHeader (.create name value parameters)).createHeader = some (.create name value parameters) := by
  refine HeaderNode.createHeader_eq_some.mpr ⟨?_, ?_⟩
  · rw [GenericHeader.create_of_free free]
    exact ⟨named, filled⟩
  · rw [GenericHeader.create_of_free free]
    unfold HeaderNode.ofHeader
    dsimp only
    rw [GenericHeader.create_of_free free]
    exact GenericHeader.ext rfl rfl (GenericHeader.readParameters_parametersText (GenericHeader.readParameters_apart parameters))

theorem rereads_generic {node : HeaderNode} (isRead : HeaderNode.read line = some node) {made : PlainHeader}
    (created : PlainNode.createMessageHeader (.generic node) = some (ns, made)) :
    ∃ kept, made.cloneHeader = some kept ∧ Rereads line ns (.other kept) := by
  obtain ⟨front, parameters, value, rfl, named, listed, written, rfl⟩ := HeaderNode.read_eq_some.mp isRead
  rw [createMessageHeader_generic] at created
  obtain ⟨header, isHeader, same⟩ := Option.map_eq_some_iff.mp created
  obtain ⟨rfl, rfl⟩ := Prod.mk.inj same
  obtain ⟨⟨nonempty, filled⟩, rfl⟩ := HeaderNode.createHeader_eq_some.mp isHeader
  dsimp only [HeaderNode.setName] at nonempty filled ⊢
  by_cases free : front ∈ reserved
  · rw [if_pos free] at nonempty
    exact absurd rfl nonempty
  · rw [if_neg free] at nonempty ⊢
    refine ⟨_, ?_, .generic named free listed written filled⟩
    rw [PlainHeader.cloneHeader, clone_create (placed_free free) nonempty filled]
    rfl

/-- A line that the rule of a keyword reads. -/
theorem keyword_sound {α β : Type} {wanted : Text} {readNode : Text → Option α} {create : α → Option β} {ofHeader : β → α}
    {node : PlainNode} {made : PlainHeader} (toNode : α → PlainNode) (toHeader : β → PlainHeader)
    (here : some node = ((skip wanted line).bind readNode).map toNode)
    (creates : ∀ inside, (toNode inside).createMessageHeader = (create inside).map fun header => ([], toHeader header))
    (clones : ∀ header, (toHeader header).cloneHeader = (create (ofHeader header)).map toHeader)
    (accepted : ∀ value read, (readNode value).bind create = some read → ∃ kept, create (ofHeader read) = some kept)
    (created : node.createMessageHeader = some (ns, made)) :
    ∃ value kept, line = wanted ++ value ∧ ns = [] ∧ made.cloneHeader = some (toHeader kept) ∧
      ((readNode value).bind create).bind (fun read => create (ofHeader read)) = some kept := by
  obtain ⟨inside, isInside, rfl⟩ := Option.map_eq_some_iff.mp here.symm
  obtain ⟨value, skipped, isValue⟩ := Option.bind_eq_some_iff.mp isInside
  rw [creates] at created
  obtain ⟨header, isHeader, same⟩ := Option.map_eq_some_iff.mp created
  obtain ⟨rfl, rfl⟩ := Prod.mk.inj same
  have isMade : (readNode value).bind create = some header := Option.bind_eq_some_iff.mpr ⟨inside, isValue, isHeader⟩
  obtain ⟨kept, isKept⟩ := accepted value header isMade
  refine ⟨value, kept, skip_eq_some.mp skipped, rfl, ?_, Option.bind_eq_some_iff.mpr ⟨header, isMade, isKept⟩⟩
  rw [clones, isKept, Option.map_some]

/-- A header that is read is added to the message. -/
theorem readMessageHeader_sound {made : Header PlainHeader} (read : plainHeaders.readMessageHeader line = some (ns, made)) :
    ∃ kept, plainHeaders.clone made = some kept ∧ Rereads line ns kept := by
  unfold OtherHeaders.readMessageHeader at read
  split at read
  next node isNode =>
    obtain ⟨value, skipped, isValue⟩ := Option.bind_eq_some_iff.mp isNode
    obtain rfl := skip_eq_some.mp skipped
    obtain ⟨made, created, same⟩ := Option.map_eq_some_iff.mp read
    obtain ⟨rfl, rfl⟩ := Prod.mk.inj same
    have isMade := Option.bind_eq_some_iff.mpr ⟨node, isValue, created⟩
    have cloned := DateTimeHeader.accepted isMade
    refine ⟨.dateTime made, ?_, .dateTime (Option.bind_eq_some_iff.mpr ⟨made, isMade, cloned⟩)⟩
    rw [OtherHeaders.clone, cloned, Option.map_some]
  next =>
    obtain ⟨⟨place, made⟩, isRead, same⟩ := Option.map_eq_some_iff.mp read
    obtain ⟨rfl, rfl⟩ := Prod.mk.inj same
    obtain ⟨node, isNode, created⟩ := Option.bind_eq_some_iff.mp isRead
    obtain ⟨option, member, found⟩ := List.exists_of_findSome?_eq_some isNode
    obtain rfl : option = some node := found
    suffices ∃ kept, made.cloneHeader = some kept ∧ Rereads line place (.other kept) by
      obtain ⟨kept, cloned, reading⟩ := this
      exact ⟨.other kept, congrArg (Option.map Header.other) cloned, reading⟩
    have contact : ∀ name, some node = PlainNode.readContact name line →
        ∃ kept, made.cloneHeader = some kept ∧ Rereads line place (.other kept) := by
      intro name here
      obtain ⟨value, kept, rfl, rfl, cloned, reading⟩ := keyword_sound (.contact name) (.contact name) here
        (fun _ => Option.map_map _ _ _) (fun _ => rfl) (fun _ _ => ContactHeader.accepted) created
      exact ⟨_, cloned, .contact name reading⟩
    simp only [List.mem_cons, List.not_mem_nil, or_false] at member
    rcases member with here | here | here | here | here | here | here
    · exact contact _ here
    · exact contact _ here
    · exact contact _ here
    · obtain ⟨value, kept, rfl, rfl, cloned, reading⟩ := keyword_sound .subject .subject here
        (fun _ => Option.map_map _ _ _) (fun _ => rfl) (fun _ _ => SubjectHeader.accepted) created
      exact ⟨_, cloned, .subject reading⟩
    · obtain ⟨value, kept, rfl, rfl, cloned, reading⟩ := keyword_sound .ns .ns here
        (fun _ => Option.map_map _ _ _) (fun _ => rfl) (fun _ _ => NsHeader.accepted) created
      exact ⟨_, cloned, .ns reading⟩
    · obtain ⟨value, kept, rfl, rfl, cloned, reading⟩ := keyword_sound .require .require here
        (fun _ => Option.map_map _ _ _) (fun _ => rfl) (fun _ _ made => ⟨_, (RequireHeader.accepted made).2⟩) created
      exact ⟨_, cloned, .require reading⟩
    · obtain ⟨inside, isInside, rfl⟩ := Option.map_eq_some_iff.mp here.symm
      exact rereads_generic isInside created

theorem reread_sound (read : reread line = some (ns, header)) : Rereads line ns header := by
  obtain ⟨⟨place, made⟩, isMade, again⟩ := Option.bind_eq_some_iff.mp read
  obtain ⟨other, cloned, same⟩ := Option.map_eq_some_iff.mp again
  obtain ⟨rfl, rfl⟩ := Prod.mk.inj same
  obtain ⟨kept, isKept, reading⟩ := readMessageHeader_sound isMade
  rwa [Option.some.inj (cloned.symm.trans isKept)]

/-- No rule of a keyword reads a line with another name. -/
theorem skip_free {name front more after : Text} (listed : name ∈ reserved) (free : front ∉ reserved) (missing : ':' ∉ front) :
    skip (name ++ ':' :: more) (front ++ ':' :: after) = none := by
  refine Option.eq_none_iff_forall_ne_some.mpr fun rest skipped => ?_
  have same := skip_eq_some.mp skipped
  have start := congrArg (List.takeWhile (· != ':')) same
  rw [List.append_assoc, List.cons_append, takeWhile_ne missing, takeWhile_ne (reserved_plain name listed).2] at start
  exact free (start ▸ listed)

theorem keyword_complete {α β : Type} {value : Text} {readNode : Text → Option α} {create : α → Option β} {ofHeader : β → α}
    {kept : β} (toNode : α → PlainNode) (toHeader : β → PlainHeader) (undated : readDateTime line = none)
    (isRead : ∀ node, readNode value = some node → PlainNode.read line = some (toNode node))
    (creates : ∀ inside, (toNode inside).createMessageHeader = (create inside).map fun header => ([], toHeader header))
    (clones : ∀ header, (toHeader header).cloneHeader = (create (ofHeader header)).map toHeader)
    (reading : ((readNode value).bind create).bind (fun read => create (ofHeader read)) = some kept) :
    reread line = some ([], .other (toHeader kept)) := by
  obtain ⟨made, isMade, again⟩ := Option.bind_eq_some_iff.mp reading
  obtain ⟨node, isNode, created⟩ := Option.bind_eq_some_iff.mp isMade
  have other : plainHeaders.messageHeader line = some ([], toHeader made) := by
    refine Option.bind_eq_some_iff.mpr ⟨toNode node, isRead node isNode, ?_⟩
    rw [creates, created, Option.map_some]
  have cloned : plainHeaders.clone (.other (toHeader made)) = some (.other (toHeader kept)) := by
    refine Option.map_eq_some_iff.mpr ⟨toHeader kept, ?_, rfl⟩
    exact (clones made).trans (by rw [again, Option.map_some])
  unfold reread OtherHeaders.readMessageHeader
  rw [undated]
  dsimp only
  rw [other, Option.map_some, Option.bind_some, cloned, Option.map_some]

/-- The rules of a line, in the order in which they are tried. -/
theorem read_eq_or (line : Text) : PlainNode.read line =
    (PlainNode.readContact .fromHeader line).or ((PlainNode.readContact .toHeader line).or ((PlainNode.readContact .ccHeader line).or
      ((((skip "Subject:".toList line).bind SubjectHeaderNode.read).map .subject).or
        ((((skip "NS: ".toList line).bind NsHeaderNode.read).map .ns).or
          ((((skip "Require: ".toList line).bind RequireHeaderNode.read).map .require).or
            ((HeaderNode.read line).map .generic)))))) := by
  have first : ∀ (found : Option PlainNode) others, (found :: others).findSome? id = found.or (others.findSome? id) := by
    intro found others
    cases found <;> rfl
  simp only [PlainNode.read, first, List.findSome?_nil, Option.or_none]

theorem read_contact (name : ContactName) {value : Text} {node : ContactHeaderNode} (isNode : ContactHeaderNode.read value = some node) :
    PlainNode.read (name.getName ++ [':', ' '] ++ value) = some (.contact name node) := by
  have here : PlainNode.readContact name (name.getName ++ [':', ' '] ++ value) = some (.contact name node) := by
    rw [PlainNode.readContact, skip_append, Option.bind_some, isNode, Option.map_some]
  have other : ∀ another, another ≠ name → PlainNode.readContact another (name.getName ++ [':', ' '] ++ value) = none := by
    intro another differs
    cases name <;> cases another <;> first | rfl | exact absurd rfl differs
  rw [read_eq_or]
  cases name with
  | fromHeader => rw [here, Option.some_or]
  | toHeader => rw [other .fromHeader (by decide), here, Option.none_or, Option.some_or]
  | ccHeader => rw [other .fromHeader (by decide), other .toHeader (by decide), here, Option.none_or, Option.none_or, Option.some_or]

/-- A line that is none of a contact's. -/
theorem read_uncontacted (other : ∀ name, PlainNode.readContact name line = none) : PlainNode.read line =
    (((skip "Subject:".toList line).bind SubjectHeaderNode.read).map .subject).or
      ((((skip "NS: ".toList line).bind NsHeaderNode.read).map .ns).or
        ((((skip "Require: ".toList line).bind RequireHeaderNode.read).map .require).or
          ((HeaderNode.read line).map .generic))) := by
  rw [read_eq_or, other, other, other, Option.none_or, Option.none_or, Option.none_or]

theorem reread_complete (reading : Rereads line ns header) : reread line = some (ns, header) := by
  cases reading with
  | @dateTime value header read =>
    obtain ⟨made, isMade, again⟩ := Option.bind_eq_some_iff.mp read
    obtain ⟨node, isNode, created⟩ := Option.bind_eq_some_iff.mp isMade
    have isRead : readDateTime (DateTimeHeader.getName ++ [':', ' '] ++ value) = some node := by
      rw [readDateTime, skip_append, Option.bind_some, isNode]
    unfold reread OtherHeaders.readMessageHeader
    rw [isRead]
    dsimp only
    rw [created, Option.map_some, Option.bind_some, OtherHeaders.clone, again]
    rfl
  | contact name read =>
    refine keyword_complete (.contact name) (.contact name) ?_ (fun _ => read_contact name) (fun _ => Option.map_map _ _ _)
      (fun _ => rfl) read
    cases name <;> rfl
  | @subject value header read =>
    refine keyword_complete .subject .subject rfl (fun node isNode => ?_) (fun _ => Option.map_map _ _ _) (fun _ => rfl) read
    have other : ∀ name, PlainNode.readContact name ("Subject:".toList ++ value) = none := fun name => by cases name <;> rfl
    rw [read_uncontacted other, skip_append, Option.bind_some, isNode, Option.map_some, Option.some_or]
  | @ns value header read =>
    refine keyword_complete .ns .ns rfl (fun node isNode => ?_) (fun _ => Option.map_map _ _ _) (fun _ => rfl) read
    have other : ∀ name, PlainNode.readContact name ("NS: ".toList ++ value) = none := fun name => by cases name <;> rfl
    have subject : skip "Subject:".toList ("NS: ".toList ++ value) = none := rfl
    rw [read_uncontacted other, subject, Option.bind_none, Option.map_none, Option.none_or, skip_append, Option.bind_some, isNode,
      Option.map_some, Option.some_or]
  | @require value header read =>
    refine keyword_complete .require .require rfl (fun node isNode => ?_) (fun _ => Option.map_map _ _ _) (fun _ => rfl) read
    have other : ∀ name, PlainNode.readContact name ("Require: ".toList ++ value) = none := fun name => by cases name <;> rfl
    have subject : skip "Subject:".toList ("Require: ".toList ++ value) = none := rfl
    have ns : skip "NS: ".toList ("Require: ".toList ++ value) = none := rfl
    rw [read_uncontacted other, subject, ns, Option.bind_none, Option.bind_none, Option.map_none, Option.map_none, Option.none_or,
      Option.none_or, skip_append, Option.bind_some, isNode, Option.map_some, Option.some_or]
  | @generic front parameters value named free listed written filled =>
    have missing : ':' ∉ front := isHeaderName_not_mem named (by decide)
    have skipped : ∀ name ∈ reserved, ∀ more, skip (name ++ ':' :: more) (front ++ ':' :: (parameters ++ ' ' :: value)) = none :=
      fun name listed more => skip_free listed free missing
    have undated : readDateTime (front ++ ':' :: (parameters ++ ' ' :: value)) = none := by
      have none := skipped DateTimeHeader.getName (by decide) [' ']
      rw [readDateTime, none, Option.bind_none]
    have other : ∀ name, PlainNode.readContact name (front ++ ':' :: (parameters ++ ' ' :: value)) = none := by
      intro name
      have none := skipped name.getName (by cases name <;> decide) [' ']
      rw [PlainNode.readContact, none, Option.bind_none, Option.map_none]
    have isNode : HeaderNode.read (front ++ ':' :: (parameters ++ ' ' :: value)) = some ⟨front, value, parameters⟩ := by
      refine HeaderNode.read_eq_some.mpr ⟨front, parameters, value, rfl, named, listed, written, ?_⟩
      rw [HeaderNode.setName, if_neg free]
    have nonempty := placed_ne_nil named
    have made : plainHeaders.messageHeader (front ++ ':' :: (parameters ++ ' ' :: value)) =
        some ((placed front).1, .generic (.create (placed front).2 value parameters)) := by
      refine Option.bind_eq_some_iff.mpr ⟨.generic ⟨front, value, parameters⟩, ?_, ?_⟩
      · have noSubject : skip "Subject:".toList (front ++ ':' :: (parameters ++ ' ' :: value)) = none :=
          skipped "Subject".toList (by decide) []
        have noNs : skip "NS: ".toList (front ++ ':' :: (parameters ++ ' ' :: value)) = none :=
          skipped "NS".toList (by decide) [' ']
        have noRequire : skip "Require: ".toList (front ++ ':' :: (parameters ++ ' ' :: value)) = none :=
          skipped "Require".toList (by decide) [' ']
        rw [read_uncontacted other, noSubject, noNs, noRequire, isNode]
        rfl
      · rw [createMessageHeader_generic, HeaderNode.createHeader_eq_some.mpr ⟨⟨nonempty, filled⟩, rfl⟩]
        rfl
    have cloned : plainHeaders.clone (.other (.generic (.create (placed front).2 value parameters))) =
        some (.other (.generic (.create (placed front).2 value parameters))) := by
      refine Option.map_eq_some_iff.mpr ⟨_, ?_, rfl⟩
      exact Option.map_eq_some_iff.mpr ⟨_, clone_create (placed_free free) nonempty filled, rfl⟩
    unfold reread OtherHeaders.readMessageHeader
    rw [undated]
    dsimp only
    rw [made, Option.map_some, Option.bind_some, cloned, Option.map_some]

theorem reread_iff : reread line = some (ns, header) ↔ Rereads line ns header := ⟨reread_sound, reread_complete⟩

end Lines

end Liblinphone.Cpim
