import Liblinphone.CpimHeaders
import Liblinphone.Library.Scan

/-! What the rules of the grammar say about the characters of a text, and where a text that
is put together by them comes apart again. -/

namespace Liblinphone.Cpim

open Library

section Characters

variable {char : Char} {text : Text}

/-- The grammar lets each character of the text into a line. -/
def Printable (text : Text) : Prop := ∀ char ∈ text, isHeaderChar char = true

theorem isHeaderValue_iff : isHeaderValue text = true ↔ Printable text := List.all_eq_true

theorem Printable.append {first second : Text} (left : Printable first) (right : Printable second) :
    Printable (first ++ second) := List.forall_mem_append.mpr ⟨left, right⟩

theorem Printable.cons {rest : Text} (first : isHeaderChar char = true) (later : Printable rest) : Printable (char :: rest) :=
  List.forall_mem_cons.mpr ⟨first, later⟩

theorem Printable.nil : Printable [] := fun _ member => absurd member List.not_mem_nil

theorem Printable.concat {last : Char} (printable : Printable text) (final : isHeaderChar last = true) :
    Printable (text ++ [last]) := printable.append (.cons final .nil)

theorem Printable.subset {part : Text} (printable : Printable text) (within : ∀ char ∈ part, char ∈ text) : Printable part :=
  fun char member => printable char (within char member)

theorem Printable.unbroken (printable : Printable text) : '\r' ∉ text :=
  fun member => absurd (printable '\r' member) (by decide)

/-- A character that a class leaves out is not in a text of the class. -/
theorem not_mem_of_all {allowed : Char → Bool} (all : text.all allowed = true) (other : allowed char = false) : char ∉ text := by
  intro member
  rw [List.all_eq_true.mp all char member] at other
  exact Bool.noConfusion other

theorem isHeaderChar_iff : isHeaderChar char = true ↔ (0x20 ≤ char.val.toNat ∧ char.val.toNat ≤ 0x7e) ∨ 0x80 ≤ char.val.toNat := by
  unfold isHeaderChar isUcsHigh
  rw [Bool.or_eq_true, decide_eq_true_iff, decide_eq_true_iff, UInt32.le_iff_toNat_le, UInt32.le_iff_toNat_le, UInt32.le_iff_toNat_le]
  exact Iff.rfl

theorem isHeaderChar_alphanum (alphanum : char.isAlphanum = true) : isHeaderChar char = true := by
  rw [isHeaderChar_iff]
  have bounds : ('A'.val.toNat = 65 ∧ 'Z'.val.toNat = 90) ∧ ('a'.val.toNat = 97 ∧ 'z'.val.toNat = 122) ∧
    ('0'.val.toNat = 48 ∧ '9'.val.toNat = 57) := by decide
  have within {first last : Char} (least : decide (first.val ≤ char.val) = true) (most : decide (char.val ≤ last.val) = true) :
      first.val.toNat ≤ char.val.toNat ∧ char.val.toNat ≤ last.val.toNat :=
    ⟨UInt32.le_iff_toNat_le.mp (of_decide_eq_true least), UInt32.le_iff_toNat_le.mp (of_decide_eq_true most)⟩
  rcases Bool.or_eq_true_iff.mp alphanum with letter | digit
  · rcases Bool.or_eq_true_iff.mp letter with upper | lower
    · have both := of_decide_eq_true upper
      have between := @within 'A' 'Z' (decide_eq_true both.1) (decide_eq_true both.2)
      omega
    · have both := Bool.and_eq_true_iff.mp lower
      have between := @within 'a' 'z' both.1 both.2
      omega
  · have both := Bool.and_eq_true_iff.mp digit
    have between := @within '0' '9' both.1 both.2
    omega

theorem isHeaderChar_name (name : isNameChar char = true) : isHeaderChar char = true := by
  rcases Bool.or_eq_true_iff.mp name with alphanum | special
  · exact isHeaderChar_alphanum alphanum
  · have all : "!#$%&'*+-^_`|~".toList.all isHeaderChar = true := by decide
    exact List.all_eq_true.mp all char (List.contains_iff_mem.mp special)

theorem isHeaderChar_token (token : isTokenChar char = true) : isHeaderChar char = true := by
  rcases Bool.or_eq_true_iff.mp token with low | high
  · rcases Bool.or_eq_true_iff.mp low with name | dot
    · exact isHeaderChar_name name
    · rw [eq_of_beq dot]
      rfl
  · exact Bool.or_eq_true_iff.mpr (.inr high)

theorem isHeaderChar_toLower (printable : isHeaderChar char.toLower = true) : isHeaderChar char = true := by
  by_cases upper : char.val ≥ 'A'.val ∧ char.val ≤ 'Z'.val
  · have low : 65 ≤ char.val.toNat := UInt32.le_iff_toNat_le.mp upper.1
    have high : char.val.toNat ≤ 90 := UInt32.le_iff_toNat_le.mp upper.2
    exact isHeaderChar_iff.mpr (by omega)
  · rwa [show char.toLower = char from dif_neg upper] at printable

theorem printable_of_name (name : isName text = true) : Printable text :=
  fun char member => isHeaderChar_name (List.all_eq_true.mp (Bool.and_eq_true_iff.mp name).2 char member)

theorem printable_of_token (token : isToken text = true) : Printable text :=
  fun char member => isHeaderChar_token (List.all_eq_true.mp (Bool.and_eq_true_iff.mp token).2 char member)

theorem isName_not_mem (name : isName text = true) (other : isNameChar char = false) : char ∉ text :=
  not_mem_of_all (Bool.and_eq_true_iff.mp name).2 other

theorem isName_ne_nil (name : isName text = true) : text ≠ [] := by
  intro empty
  rw [empty] at name
  cases name

/-- The characters that no URI has. -/
theorem uri_letters : (Expression.letters Rule.uri).all
    (fun char => isHeaderChar char && char != '<' && char != '>') = true := by decide +kernel

theorem uri_char (uri : Rule.uri.rmatch text = true) (member : char ∈ text) :
    isHeaderChar char = true ∧ char ≠ '<' ∧ char ≠ '>' := by
  have letter := Expression.mem_letters ((RegularExpression.rmatch_iff_matches' _ _).mp uri) char member
  have allowed := List.all_eq_true.mp uri_letters char letter
  simpa [and_assoc] using allowed

theorem printable_of_uri (uri : Rule.uri.rmatch text = true) : Printable text := fun _ member => (uri_char uri member).1

theorem uri_ne_nil (uri : Rule.uri.rmatch text = true) : text ≠ [] := by
  intro empty
  rw [empty] at uri
  exact absurd uri (by decide +kernel)

end Characters

section Brackets

variable {start uri value : Text}

theorem readBracketed_append (start : Text) (matching : Rule.uri.rmatch uri = true) :
    readBracketed (start ++ '<' :: uri ++ ['>']) = some (start, uri) := by
  have inside : (start ++ '<' :: uri ++ ['>']).dropLast = start ++ '<' :: uri := List.dropLast_concat
  have other : ∀ char ∈ uri.reverse, (char != '<') = true :=
    fun char member => bne_iff_ne.mpr (uri_char matching (List.mem_reverse.mp member)).2.1
  have backwards : (start ++ '<' :: uri).reverse = uri.reverse ++ '<' :: start.reverse := by simp
  have front : (start ++ '<' :: uri).rdropWhile (· != '<') = start ++ ['<'] := by
    rw [List.rdropWhile, backwards, dropWhile_stop other (by decide)]
    simp
  have back : (start ++ '<' :: uri).rtakeWhile (· != '<') = uri := by
    rw [List.rtakeWhile, backwards, takeWhile_stop other (by decide), List.reverse_reverse]
  unfold readBracketed
  dsimp only
  rw [inside, front, back, List.getLast?_concat, List.getLast?_concat, if_pos ⟨rfl, rfl, matching⟩, List.dropLast_concat]

theorem readBracketed_sound (read : readBracketed value = some (start, uri)) :
    value = start ++ '<' :: uri ++ ['>'] ∧ Rule.uri.rmatch uri = true := by
  unfold readBracketed at read
  dsimp only at read
  split at read
  next found =>
    obtain ⟨ends, opened, matching⟩ := found
    obtain ⟨rfl, rfl⟩ := Prod.mk.inj (Option.some.inj read)
    refine ⟨?_, matching⟩
    have whole := List.dropLast_append_getLast? '>' ends
    have inside := List.dropLast_append_getLast? '<' opened
    have joined : value.dropLast.rdropWhile (· != '<') ++ value.dropLast.rtakeWhile (· != '<') = value.dropLast := by
      rw [List.rdropWhile, List.rtakeWhile, ← List.reverse_append, List.takeWhile_append_dropWhile, List.reverse_reverse]
    calc value
      _ = value.dropLast.rdropWhile (· != '<') ++ value.dropLast.rtakeWhile (· != '<') ++ ['>'] := by rw [joined, whole]
      _ = _ := by
        rw [← inside]
        simp
  next => cases read

end Brackets

variable {char mark : Char} {text rest : Text}

section Names

theorem isHeaderName_iff : isHeaderName text = true ↔
    isName text = true ∨ ∃ first second, isName first = true ∧ isName second = true ∧ text = first ++ '.' :: second := by
  have whole : ['.'].intercalate (text.splitOn '.') = text := List.intercalate_splitOn '.'
  constructor
  · intro named
    unfold isHeaderName at named
    split at named
    next name parts =>
      rw [parts] at whole
      exact .inl ((List.intercalate_singleton.symm.trans whole) ▸ named)
    next first second parts =>
      rw [parts] at whole
      obtain ⟨left, right⟩ := Bool.and_eq_true_iff.mp named
      exact .inr ⟨first, second, left, right, by rw [← whole]; simp [List.intercalate]⟩
    next => cases named
  · rintro (name | ⟨first, second, left, right, rfl⟩)
    · unfold isHeaderName
      rw [List.splitOn_eq_singleton (isName_not_mem name (by decide))]
      exact name
    · unfold isHeaderName
      rw [List.splitOn_append_cons_self_of_not_mem (isName_not_mem left (by decide)),
        List.splitOn_eq_singleton (isName_not_mem right (by decide))]
      exact Bool.and_eq_true_iff.mpr ⟨left, right⟩

theorem isHeaderName_char (named : isHeaderName text = true) (member : char ∈ text) : isNameChar char = true ∨ char = '.' := by
  rcases isHeaderName_iff.mp named with name | ⟨first, second, left, right, rfl⟩
  · exact .inl (List.all_eq_true.mp (Bool.and_eq_true_iff.mp name).2 char member)
  · rcases List.mem_append.mp member with early | late
    · exact .inl (List.all_eq_true.mp (Bool.and_eq_true_iff.mp left).2 char early)
    · rcases List.mem_cons.mp late with rfl | later
      · exact .inr rfl
      · exact .inl (List.all_eq_true.mp (Bool.and_eq_true_iff.mp right).2 char later)

theorem printable_of_headerName (named : isHeaderName text = true) : Printable text := by
  intro char member
  rcases isHeaderName_char named member with name | rfl
  · exact isHeaderChar_name name
  · rfl

theorem isHeaderName_not_mem (named : isHeaderName text = true) (other : (isNameChar char || char == '.') = false) :
    char ∉ text := by
  intro member
  rcases isHeaderName_char named member with name | rfl
  · rw [name] at other
    exact Bool.noConfusion other
  · exact absurd other (by decide)

theorem isHeaderName_ne_nil (named : isHeaderName text = true) : text ≠ [] := by
  rintro rfl
  exact absurd named (by decide)

end Names

section Strings

theorem isHeaderChar_hexDigit (digit : isHexDigit char = true) : isHeaderChar char = true := by
  rw [isHeaderChar_iff]
  simp only [isHexDigit, Char.isDigit, Bool.or_eq_true, decide_eq_true_iff, Bool.and_eq_true, Char.le_def, UInt32.le_iff_toNat_le,
    ge_iff_le] at digit
  have bounds : ('A'.val.toNat = 65 ∧ 'F'.val.toNat = 70) ∧ ('a'.val.toNat = 97 ∧ 'f'.val.toNat = 102) ∧
    ('0'.val.toNat = 48 ∧ '9'.val.toNat = 57) := by decide
  omega

theorem StringState.next_printable {state after : StringState} (step : state.next char = some after) :
    isHeaderChar char = true := by
  cases state with
  | plain =>
    simp only [StringState.next] at step
    split at step
    next same =>
      rw [same]
      rfl
    next =>
      split at step
      next plain => exact (Bool.and_eq_true_iff.mp (Bool.and_eq_true_iff.mp plain).1).1
      next => cases step
  | escape =>
    simp only [StringState.next] at step
    refine isHeaderChar_toLower ?_
    split at step
    next same =>
      rw [same]
      rfl
    next =>
      split at step
      next known =>
        have all : "btnr\"'\\".toList.all isHeaderChar = true := by decide
        exact List.all_eq_true.mp all _ (List.contains_iff_mem.mp known)
      next => cases step
  | digits missing =>
    simp only [StringState.next] at step
    split at step
    next digit =>
      exact isHeaderChar_hexDigit digit
    next => cases step

theorem foldlM_next_printable {state last : StringState} (body : text.foldlM StringState.next state = some last) :
    Printable text := by
  induction text generalizing state with
  | nil => exact fun _ member => absurd member List.not_mem_nil
  | cons first rest following =>
    obtain ⟨after, step, later⟩ := Option.bind_eq_some_iff.mp body
    exact .cons (StringState.next_printable step) (following later)

theorem printable_of_stringBody (body : isStringBody text = true) : Printable text :=
  foldlM_next_printable (of_decide_eq_true body)

/-- A string has no quote in front of its first character but the one that opens it. -/
theorem head?_stringBody (body : isStringBody text = true) : text.head? ≠ some '"' := by
  cases text with
  | nil => exact fun found => absurd found (by decide)
  | cons first rest =>
    intro found
    have read : (first :: rest).foldlM StringState.next .plain = some .plain := of_decide_eq_true body
    obtain ⟨after, step, -⟩ := Option.bind_eq_some_iff.mp read
    rw [Option.some.inj found] at step
    cases step

theorem isString_iff : isString text = true ↔ ∃ body, isStringBody body = true ∧ text = '"' :: body ++ ['"'] := by
  constructor
  · intro string
    unfold isString at string
    simp only [Bool.and_eq_true, decide_eq_true_eq] at string
    obtain ⟨⟨opened, closed⟩, body⟩ := string
    refine ⟨_, body, ?_⟩
    rw [List.cons_append, List.dropLast_append_getLast? '"' closed]
    cases text with
    | nil => cases opened
    | cons first rest => rw [Option.some.inj opened, List.tail_cons]
  · rintro ⟨body, string, rfl⟩
    unfold isString
    rw [List.cons_append, List.tail_cons, List.dropLast_concat, List.getLast?_concat, string]
    rfl

theorem printable_of_string (string : isString text = true) : Printable text := by
  obtain ⟨body, isBody, rfl⟩ := isString_iff.mp string
  exact ((Printable.cons rfl (printable_of_stringBody isBody)).append (.cons rfl fun _ member => absurd member List.not_mem_nil))

theorem printable_of_formalName (formal : isFormalName text = true) : Printable text := by
  rcases Bool.or_eq_true_iff.mp formal with tokens | string
  · unfold isTokens at tokens
    obtain ⟨ends, each⟩ := Bool.and_eq_true_iff.mp tokens
    have whole := List.dropLast_append_getLast? ' ' (of_decide_eq_true ends)
    have parts : [' '].intercalate (text.dropLast.splitOn ' ') = text.dropLast := List.intercalate_splitOn ' '
    intro char member
    rw [← whole, ← parts] at member
    rcases List.mem_append.mp member with inside | last
    · rcases mem_intercalate inside with rfl | ⟨part, listed, found⟩
      · rfl
      · exact printable_of_token (List.all_eq_true.mp each part listed) char found
    · rw [List.mem_singleton.mp last]
      rfl
  · exact printable_of_string string

end Strings

section Quoting

/-- The mark is not outside of the strings of a text, and all of them are closed. -/
def Passed (mark : Char) (text : Text) : Prop :=
  ∀ rest, cutOutside mark .outside (text ++ rest) = (cutOutside mark .outside rest).map (text ++ ·) id

theorem cutOutside_cons {quoting : Quoting} (other : ¬(quoting = .outside ∧ char = mark)) :
    cutOutside mark quoting (char :: rest) = (cutOutside mark (quoting.next char) rest).map (char :: ·) id := if_neg other

theorem cutOutside_mark : cutOutside mark .outside (mark :: rest) = ([], mark :: rest) := if_pos ⟨rfl, rfl⟩

theorem Passed.nil : Passed mark [] := fun _ => rfl

theorem Passed.append {first second : Text} (left : Passed mark first) (right : Passed mark second) :
    Passed mark (first ++ second) := by
  intro rest
  rw [List.append_assoc, left, right, Prod.map_map]
  exact congrArg (fun change => Prod.map change id _) (funext fun later => (List.append_assoc first second later).symm)

theorem Passed.one (unmarked : char ≠ mark) (unquoted : char ≠ '"') : Passed mark [char] := by
  intro rest
  rw [List.singleton_append, cutOutside_cons fun same => unmarked same.2, Quoting.next, if_neg unquoted]
  rfl

theorem Passed.ofChars (unmarked : mark ∉ text) (unquoted : '"' ∉ text) : Passed mark text := by
  induction text with
  | nil => exact .nil
  | cons first rest following =>
    obtain ⟨here, later⟩ := List.ne_and_not_mem_of_not_mem_cons unmarked
    obtain ⟨plain, others⟩ := List.ne_and_not_mem_of_not_mem_cons unquoted
    exact (Passed.one here.symm plain.symm).append (following later others)

/-- What stands in a string is read as the string is. -/
def StringState.quoting : StringState → Quoting
  | escape => .escaped
  | _ => .inside

theorem StringState.quoting_next {state after : StringState} (step : state.next char = some after) :
    state.quoting.next char = after.quoting := by
  cases state with
  | plain =>
    simp only [StringState.next] at step
    split at step
    next same =>
      rw [same, ← Option.some.inj step]
      rfl
    next other =>
      split at step
      next plain =>
        have unquoted : char ≠ '"' := bne_iff_ne.mp (Bool.and_eq_true_iff.mp (Bool.and_eq_true_iff.mp plain).1).2
        rw [← Option.some.inj step]
        exact (if_neg unquoted).trans (if_neg other)
      next => cases step
  | escape =>
    simp only [StringState.next] at step
    split at step
    next => rw [← Option.some.inj step]; rfl
    next =>
      split at step
      next => rw [← Option.some.inj step]; rfl
      next => cases step
  | digits missing =>
    simp only [StringState.next] at step
    split at step
    next digit =>
      have unquoted : char ≠ '"' := fun same => absurd (same ▸ digit : isHexDigit '"' = true) (by decide)
      have other : char ≠ '\\' := fun same => absurd (same ▸ digit : isHexDigit '\\' = true) (by decide)
      have after : after.quoting = .inside := by
        rw [← Option.some.inj step]
        split <;> rfl
      rw [after]
      exact (if_neg unquoted).trans (if_neg other)
    next => cases step

theorem StringState.quoting_ne (state : StringState) : state.quoting ≠ .outside := by cases state <;> exact Quoting.noConfusion

theorem cutOutside_body {state last : StringState} (body : text.foldlM StringState.next state = some last) (rest : Text) :
    cutOutside mark state.quoting (text ++ rest) = (cutOutside mark last.quoting rest).map (text ++ ·) id := by
  induction text generalizing state with
  | nil =>
    rw [← Option.some.inj body]
    rfl
  | cons first more following =>
    obtain ⟨after, step, later⟩ := Option.bind_eq_some_iff.mp body
    rw [List.cons_append, cutOutside_cons fun same => state.quoting_ne same.1, StringState.quoting_next step, following later,
      Prod.map_map]
    rfl

theorem Passed.string (spaced : mark ≠ '"') (string : isString text = true) : Passed mark text := by
  obtain ⟨body, isBody, rfl⟩ := isString_iff.mp string
  intro rest
  have opened : Quoting.outside.next '"' = StringState.plain.quoting := rfl
  have closed : StringState.plain.quoting.next '"' = .outside := rfl
  rw [List.cons_append, List.cons_append, List.append_assoc, List.singleton_append, cutOutside_cons fun same => spaced same.2.symm,
    opened, cutOutside_body (of_decide_eq_true isBody), cutOutside_cons fun same => StringState.quoting_ne _ same.1, closed,
    Prod.map_map, Prod.map_map]
  exact congrArg (fun change => Prod.map change id _) (funext fun later => by simp)

theorem cutOutside_passed (passed : Passed mark text) : cutOutside mark .outside (text ++ mark :: rest) = (text, mark :: rest) := by
  rw [passed, cutOutside_mark, Prod.map_apply, List.append_nil, id_eq]

/-- The parts of a cut text make the text. -/
theorem cutOutside_join (mark : Char) (quoting : Quoting) (text : Text) :
    (cutOutside mark quoting text).1 ++ (cutOutside mark quoting text).2 = text := by
  induction text generalizing quoting with
  | nil => rfl
  | cons first rest following =>
    unfold cutOutside
    split
    next => rfl
    next => exact congrArg (first :: ·) (following _)

theorem cutOutside_head {quoting : Quoting} (cut : (cutOutside mark quoting text).2 = char :: rest) : char = mark := by
  induction text generalizing quoting with
  | nil => cases cut
  | cons first more following =>
    unfold cutOutside at cut
    split at cut
    next same => exact (List.cons.inj cut).1.symm.trans same.2
    next => exact following cut

theorem splitOutside_join (mark : Char) (quoting : Quoting) (text : Text) :
    [mark].intercalate (splitOutside mark quoting text) = text := by
  have filled : ∀ quoting text, splitOutside mark quoting text ≠ [] := by
    intro quoting text
    induction text generalizing quoting with
    | nil => exact List.cons_ne_nil _ _
    | cons first rest following =>
      unfold splitOutside
      split
      next => exact List.cons_ne_nil _ _
      next => simpa using following _
  induction text generalizing quoting with
  | nil => rfl
  | cons first rest following =>
    unfold splitOutside
    split
    next same =>
      rw [List.intercalate_cons_of_ne_nil (filled _ _), following, same.2]
      rfl
    next =>
      obtain ⟨head, parts, shape⟩ := List.exists_cons_of_ne_nil (filled (quoting.next first) rest)
      have later := following (quoting.next first)
      rw [shape] at later
      rw [shape, List.modifyHead_cons]
      cases parts with
      | nil => simpa [List.intercalate] using later
      | cons next others =>
        rw [List.intercalate_cons_cons] at later ⊢
        rw [← later]
        rfl

end Quoting

section Parameters

theorem isLanguageTag_char (tag : isLanguageTag text = true) (member : char ∈ text) : char.isAlphanum = true ∨ char = '-' := by
  have whole : ['-'].intercalate (text.splitOn '-') = text := List.intercalate_splitOn '-'
  unfold isLanguageTag at tag
  split at tag
  next primary subtags parts =>
    rw [parts] at whole
    rw [← whole] at member
    obtain ⟨first, others⟩ := Bool.and_eq_true_iff.mp tag
    rcases mem_intercalate member with dash | ⟨part, inside, found⟩
    · exact .inr dash
    · rcases List.mem_cons.mp inside with rfl | later
      · have alpha := List.all_eq_true.mp (Bool.and_eq_true_iff.mp first).2 char found
        exact .inl (Bool.or_eq_true_iff.mpr (.inl alpha))
      · have subtag := List.all_eq_true.mp others part later
        exact .inl (List.all_eq_true.mp (Bool.and_eq_true_iff.mp subtag).2 char found)
  next => cases tag

theorem printable_of_languageTag (tag : isLanguageTag text = true) : Printable text := by
  intro char member
  rcases isLanguageTag_char tag member with alphanum | rfl
  · exact isHeaderChar_alphanum alphanum
  · rfl

theorem isLanguageTag_not_mem (tag : isLanguageTag text = true) (other : (char.isAlphanum || char == '-') = false) : char ∉ text := by
  intro member
  rcases isLanguageTag_char tag member with alphanum | rfl
  · rw [alphanum] at other
    exact Bool.noConfusion other
  · exact absurd other (by decide)

theorem isToken_not_mem (token : isToken text = true) (other : isTokenChar char = false) : char ∉ text :=
  not_mem_of_all (Bool.and_eq_true_iff.mp token).2 other

/-- A parameter is a name and a value, neither of which a space or an open string can hide in. -/
theorem isParameter_passed (parameter : isParameter text = true) : Passed ' ' text ∧ Printable text := by
  unfold isParameter at parameter
  simp only [Bool.and_eq_true, Bool.or_eq_true, decide_eq_true_eq] at parameter
  obtain ⟨valued, named⟩ := parameter
  have whole := takeWhile_append_stop valued
  generalize text.takeWhile (· != '=') = name at named whole
  generalize (text.dropWhile (· != '=')).tail = value at named whole
  rw [← whole]
  have equals : Passed ' ' ['='] ∧ Printable ['='] := ⟨.one (by decide) (by decide), isHeaderValue_iff.mp rfl⟩
  have joined : (Passed ' ' name ∧ Printable name) → (Passed ' ' value ∧ Printable value) →
      Passed ' ' (name ++ '=' :: value) ∧ Printable (name ++ '=' :: value) :=
    fun left right => ⟨left.1.append (equals.1.append right.1), left.2.append (equals.2.append right.2)⟩
  rcases named with ⟨lang, tag⟩ | ⟨isNamed, token | string⟩
  · have letters : ∀ char ∈ name, char.toLower ∈ "lang".toList := fun char member => lang ▸ List.mem_map_of_mem member
    refine joined ⟨.ofChars (fun member => absurd (letters _ member) (by decide)) fun member => absurd (letters _ member) (by decide),
      fun char member => isHeaderChar_toLower ?_⟩ ⟨.ofChars (isLanguageTag_not_mem tag (by decide))
        (isLanguageTag_not_mem tag (by decide)), printable_of_languageTag tag⟩
    have all : "lang".toList.all isHeaderChar = true := by decide
    exact List.all_eq_true.mp all _ (letters char member)
  · exact joined ⟨.ofChars (isName_not_mem isNamed (by decide)) (isName_not_mem isNamed (by decide)), printable_of_name isNamed⟩
      ⟨.ofChars (isToken_not_mem token (by decide)) (isToken_not_mem token (by decide)), printable_of_token token⟩
  · exact joined ⟨.ofChars (isName_not_mem isNamed (by decide)) (isName_not_mem isNamed (by decide)), printable_of_name isNamed⟩
      ⟨.string (by decide) string, printable_of_string string⟩

theorem isParameters_passed (parameters : isParameters text = true) : Passed ' ' text ∧ Printable text := by
  have whole := splitOutside_join ';' .outside text
  unfold isParameters at parameters
  split at parameters
  next each parts =>
    rw [parts] at whole
    rw [← whole]
    have marked : ∀ part ∈ each, Passed ' ' (';' :: part) ∧ Printable (';' :: part) := by
      intro part member
      obtain ⟨passed, printable⟩ := isParameter_passed (List.all_eq_true.mp parameters part member)
      exact ⟨(Passed.one (by decide) (by decide)).append passed, .cons rfl printable⟩
    clear whole parts parameters
    induction each with
    | nil => exact ⟨.nil, fun _ member => absurd member List.not_mem_nil⟩
    | cons part more following =>
      have here := marked part List.mem_cons_self
      have later := following fun other member => marked other (List.mem_cons_of_mem _ member)
      rw [intercalate_cons, List.nil_append] at later ⊢
      exact ⟨here.1.append later.1, here.2.append later.2⟩
  next => cases parameters

theorem cutOutside_parameters (parameters : isParameters text = true) :
    cutOutside ' ' .outside (text ++ ' ' :: rest) = (text, ' ' :: rest) := cutOutside_passed (isParameters_passed parameters).1

end Parameters

end Liblinphone.Cpim
