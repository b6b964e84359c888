import Mathlib.Computability.RegularExpressions

/-! Classes, options and repeated items in regular expressions, and the characters of what an
expression matches. -/

namespace Liblinphone.Library.Expression

variable {α : Type u}

/-- A class of characters. -/
def oneOf (chars : List α) : RegularExpression α := chars.foldr (fun char others => .char char + others) 0

/-- An item, and more of it with a separator in front of each. -/
def separated (separator : α) (item : RegularExpression α) : RegularExpression α := item * (.char separator * item).star

/-- Nothing, or a mark with an item. -/
def optional (mark : α) (item : RegularExpression α) : RegularExpression α := 1 + .char mark * item

/-- An item so many times or fewer. -/
def atMost : Nat → RegularExpression α → RegularExpression α
  | 0, _ => 1
  | count + 1, item => 1 + item * atMost count item

/-- The characters that an expression names. -/
def letters : RegularExpression α → List α
  | .zero => []
  | .epsilon => []
  | .char char => [char]
  | .plus first second => letters first ++ letters second
  | .comp first second => letters first ++ letters second
  | .star item => letters item

theorem mem_letters {expression : RegularExpression α} : ∀ {text : List α}, text ∈ expression.matches' →
    ∀ char ∈ text, char ∈ letters expression := by
  induction expression with
  | zero => exact fun matching => absurd matching (Language.notMem_zero _)
  | epsilon =>
    intro text matching char member
    rw [show text = [] from matching] at member
    cases member
  | char letter =>
    intro text matching char member
    rw [show text = [letter] from matching] at member
    exact member
  | plus first second left right =>
    intro text matching char member
    rcases matching with matching | matching
    · exact List.mem_append_left _ (left matching char member)
    · exact List.mem_append_right _ (right matching char member)
  | comp first second left right =>
    intro text matching char member
    obtain ⟨start, before, rest, after, rfl⟩ := Language.mem_mul.mp matching
    rcases List.mem_append.mp member with here | later
    · exact List.mem_append_left _ (left before char here)
    · exact List.mem_append_right _ (right after char later)
  | star item ih =>
    intro text matching char member
    obtain ⟨parts, rfl, each⟩ := Language.mem_kstar.mp matching
    obtain ⟨part, listed, inside⟩ := List.mem_flatten.mp member
    exact ih (each part listed) char inside

theorem not_mem_of_letters {expression : RegularExpression α} {text : List α} (matching : text ∈ expression.matches') {char : α}
    (other : char ∉ letters expression) : char ∉ text :=
  fun member => other (mem_letters matching char member)

theorem not_mem_of_option {expression : RegularExpression α} {text : List α} (matching : text = [] ∨ text ∈ expression.matches')
    {char : α} (other : char ∉ letters expression) : char ∉ text := by
  rcases matching with rfl | matching
  · exact List.not_mem_nil
  · exact not_mem_of_letters matching other

theorem mem_oneOf {chars : List α} {text : List α} : text ∈ (oneOf chars).matches' ↔ ∃ char ∈ chars, text = [char] := by
  induction chars with
  | nil => exact iff_of_false (Language.notMem_zero _) (by simp)
  | cons first rest ih =>
    change text ∈ ({[first]} : Language α) + (oneOf rest).matches' ↔ _
    rw [Language.mem_add, ih, List.exists_mem_cons_iff]
    exact Iff.rfl

theorem mem_star_oneOf {chars : List α} {text : List α} (within : ∀ char ∈ text, char ∈ chars) :
    text ∈ (oneOf chars).star.matches' := by
  refine Language.mem_kstar.mpr ⟨text.map fun char => [char], (List.flatMap_singleton' text).symm, ?_⟩
  intro part member
  obtain ⟨char, inside, rfl⟩ := List.mem_map.mp member
  exact mem_oneOf.mpr ⟨char, within char inside, rfl⟩

theorem mem_optional {mark : α} {item : RegularExpression α} {text : List α} :
    text ∈ (optional mark item).matches' ↔ text = [] ∨ ∃ rest ∈ item.matches', text = mark :: rest := by
  change text ∈ (1 : Language α) + ({[mark]} : Language α) * item.matches' ↔ _
  rw [Language.mem_add, Language.mem_one, Language.mem_mul]
  refine or_congr Iff.rfl ⟨?_, ?_⟩
  · rintro ⟨start, marked, rest, matching, rfl⟩
    rw [show start = [mark] from marked]
    exact ⟨rest, matching, rfl⟩
  · rintro ⟨rest, matching, rfl⟩
    exact ⟨[mark], rfl, rest, matching, rfl⟩

/-- An expression, a separator and what follows. -/
theorem mem_followed {first second : RegularExpression α} {separator : α} {text : List α} :
    text ∈ (first * (.char separator * second)).matches' ↔
      ∃ start ∈ first.matches', ∃ rest ∈ second.matches', text = start ++ separator :: rest := by
  change text ∈ first.matches' * (({[separator]} : Language α) * second.matches') ↔ _
  rw [Language.mem_mul]
  constructor
  · rintro ⟨start, before, later, matching, rfl⟩
    obtain ⟨mark, marked, rest, after, rfl⟩ := Language.mem_mul.mp matching
    rw [show mark = [separator] from marked]
    exact ⟨start, before, rest, after, rfl⟩
  · rintro ⟨start, before, rest, after, rfl⟩
    exact ⟨start, before, separator :: rest, Language.mem_mul.mpr ⟨[separator], rfl, rest, after, rfl⟩, rfl⟩

end Liblinphone.Library.Expression
