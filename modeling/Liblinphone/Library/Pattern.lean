import Mathlib.Data.List.Basic

/-! ECMAScript patterns without groups, classes and assertions: characters, any character,
and repetition of one of them. A pattern outside of this form is not parsed. -/

namespace Liblinphone.Library.Pattern

inductive Token where
  | char (char : Char)
  | any
  | star
deriving Repr, DecidableEq

/-- One character or any character, once or repeated. -/
structure Term where
  char : Option Char
  repeated : Bool := false
deriving Repr, DecidableEq

/-- The characters that have a meaning of their own. -/
def syntaxCharacters : List Char := ['^', '$', '\\', '.', '*', '+', '?', '(', ')', '[', ']', '{', '}', '|']

def lineTerminators : List Char := ['\n', '\r', '\u2028', '\u2029']

/-- A backslash takes its meaning from the character that follows. -/
def tokens : List Char → Option (List Token)
  | [] => some []
  | '\\' :: char :: rest => if syntaxCharacters.contains char then (tokens rest).map (.char char :: ·) else none
  | '.' :: rest => (tokens rest).map (.any :: ·)
  | '*' :: rest => (tokens rest).map (.star :: ·)
  | char :: rest => if syntaxCharacters.contains char then none else (tokens rest).map (.char char :: ·)

def terms : List Token → Option (List Term)
  | [] => some []
  | .star :: _ => none
  | .char char :: .star :: rest => (terms rest).map ({ char := some char, repeated := true } :: ·)
  | .any :: .star :: rest => (terms rest).map ({ char := none, repeated := true } :: ·)
  | .char char :: rest => (terms rest).map ({ char := some char } :: ·)
  | .any :: rest => (terms rest).map ({ char := none } :: ·)

def parse (pattern : List Char) : Option (List Term) := (tokens pattern).bind terms

/-- Any character is any one that does not end a line. -/
def Term.accepts (term : Term) (char : Char) : Bool :=
  match term.char with
  | some wanted => wanted == char
  | none => !lineTerminators.contains char

/-- What follows matches here, or after one more character. -/
def matchRepeated (term : Term) (next : List Char → Bool) : List Char → Bool
  | [] => next []
  | char :: rest => next (char :: rest) || (term.accepts char && matchRepeated term next rest)

def matchOnce (term : Term) (next : List Char → Bool) : List Char → Bool
  | [] => false
  | char :: rest => term.accepts char && next rest

/-- The whole text is matched. -/
def matchTerms : List Term → List Char → Bool
  | [] => List.isEmpty
  | term :: rest => if term.repeated then matchRepeated term (matchTerms rest) else matchOnce term (matchTerms rest)

/-- The text has no end of a line in it. -/
def OneLine (text : List Char) : Prop := ∀ char ∈ text, char ∉ lineTerminators

/-- The parts stand in the text in this order, and do not overlap. -/
def InOrder : List (List Char) → List Char → Prop
  | [], _ => True
  | part :: rest, text => ∃ before after, text = before ++ part ++ after ∧ InOrder rest after

/-- Any text. -/
def anything : Term := { char := none, repeated := true }

/-- The characters of a text, one by one. -/
def literal (text : List Char) : List Term := text.map fun char => { char := some char }

theorem OneLine.append {first second : List Char} (line : OneLine (first ++ second)) : OneLine second :=
  fun char member => line char (List.mem_append_right first member)

theorem matchTerms_anything {rest : List Term} {text : List Char} (line : OneLine text) :
    matchTerms (anything :: rest) text = true ↔ ∃ before after, text = before ++ after ∧ matchTerms rest after = true := by
  have repeats : anything.repeated = true := rfl
  rw [matchTerms, if_pos repeats]
  induction text with
  | nil =>
    rw [matchRepeated]
    constructor
    · intro matched
      exact ⟨[], [], rfl, matched⟩
    · rintro ⟨before, after, parts, matched⟩
      rw [(List.append_eq_nil_iff.mp parts.symm).2] at matched
      exact matched
  | cons char others following =>
    have accepted : anything.accepts char = true := by
      simpa [Term.accepts, anything] using line char List.mem_cons_self
    have later := following fun other member => line other (List.mem_cons_of_mem char member)
    rw [matchRepeated, accepted, Bool.true_and, Bool.or_eq_true]
    constructor
    · rintro (here | there)
      · exact ⟨[], char :: others, rfl, here⟩
      · obtain ⟨before, after, parts, matched⟩ := later.mp there
        exact ⟨char :: before, after, by rw [parts, List.cons_append], matched⟩
    · rintro ⟨before, after, parts, matched⟩
      cases before with
      | nil =>
        rw [List.nil_append] at parts
        rw [parts]
        exact .inl matched
      | cons first more =>
        rw [List.cons_append, List.cons.injEq] at parts
        exact .inr (later.mpr ⟨more, after, parts.2, matched⟩)

theorem matchTerms_literal (part : List Char) (rest : List Term) (text : List Char) :
    matchTerms (literal part ++ rest) text = true ↔ ∃ after, text = part ++ after ∧ matchTerms rest after = true := by
  induction part generalizing text with
  | nil =>
    constructor
    · intro matched
      exact ⟨text, rfl, matched⟩
    · rintro ⟨after, rfl, matched⟩
      exact matched
  | cons char others following =>
    have shape : literal (char :: others) ++ rest = { char := some char } :: (literal others ++ rest) := rfl
    rw [shape, matchTerms, if_neg Bool.false_ne_true]
    cases text with
    | nil => simp [matchOnce]
    | cons first remaining =>
      rw [matchOnce, Bool.and_eq_true, following, Term.accepts, beq_iff_eq]
      constructor
      · rintro ⟨rfl, after, rfl, matched⟩
        exact ⟨after, rfl, matched⟩
      · rintro ⟨after, parts, matched⟩
        rw [List.cons_append, List.cons.injEq] at parts
        exact ⟨parts.1.symm, after, parts.2, matched⟩

theorem tokens_char {char : Char} (plain : char ∉ syntaxCharacters) (rest : List Char) :
    tokens (char :: rest) = (tokens rest).map (.char char :: ·) := by
  have other : syntaxCharacters.contains char = false := by simpa using plain
  have apart : ∀ special ∈ syntaxCharacters, char ≠ special := fun special member same => plain (same ▸ member)
  rw [tokens.eq_5]
  · rw [other]
    rfl
  · intro _ _ same
    exact absurd same (apart _ (by decide))
  · exact fun same => absurd same (apart _ (by decide))
  · exact fun same => absurd same (apart _ (by decide))

theorem terms_char (char : Char) {rest : List Token} (once : rest.head? ≠ some .star) :
    terms (.char char :: rest) = (terms rest).map ({ char := some char } :: ·) := by
  cases rest with
  | nil => rfl
  | cons token others =>
    rw [terms]
    intro rest same
    rw [same] at once
    exact once rfl

/-- Parts with anything between them. -/
def separated : List (List Char) → List Term
  | [] => [anything]
  | part :: rest => anything :: (literal part ++ separated rest)

/-- Such a pattern matches the texts that have the parts in this order. -/
theorem matchTerms_separated (parts : List (List Char)) {text : List Char} (line : OneLine text) :
    matchTerms (separated parts) text = true ↔ InOrder parts text := by
  induction parts generalizing text with
  | nil =>
    rw [separated, matchTerms_anything line, InOrder, iff_true]
    exact ⟨text, [], (List.append_nil text).symm, rfl⟩
  | cons part rest following =>
    rw [separated, matchTerms_anything line, InOrder]
    constructor
    · rintro ⟨before, others, rfl, matched⟩
      obtain ⟨after, rfl, remaining⟩ := (matchTerms_literal part _ others).mp matched
      exact ⟨before, after, (List.append_assoc _ _ _).symm, (following line.append.append).mp remaining⟩
    · rintro ⟨before, after, rfl, ordered⟩
      rw [List.append_assoc] at line ⊢
      refine ⟨before, part ++ after, rfl, ?_⟩
      exact (matchTerms_literal part _ _).mpr ⟨after, rfl, (following line.append.append).mpr ordered⟩

end Liblinphone.Library.Pattern
