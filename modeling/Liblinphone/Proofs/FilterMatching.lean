import Liblinphone.MagicSearch
import Liblinphone.Library.Pattern

/-! What the filter of a search matches. Every special character of the filter is escaped
except the backslash, and a blank stands for anything. -/

namespace Liblinphone

open Library Pattern

/-- Patterns are matched as ECMAScript says, for the patterns that need no more than
characters, any character and repetition. -/
def SearchEngine.MatchesPatterns (engine : SearchEngine) : Prop :=
  ∀ pattern terms, parse pattern = some terms → ∀ text, engine.isMatchingRegex text pattern = matchTerms terms text

namespace MagicSearch

/-- What a character of the filter stands for. -/
def filterTerm (char : Char) : Term := if char = ' ' then anything else { char := some char }

/-- The tokens of a character of the filter. -/
def filterTokens (char : Char) : List Token := if char = ' ' then [.any, .star] else [.char char]

theorem escaped_special {char : Char} (escaped : charactersToEscape.contains char = true) :
    syntaxCharacters.contains char = true := by
  have all : (charactersToEscape.all fun char => syntaxCharacters.contains char) = true := by decide
  exact List.all_eq_true.mp all char (List.contains_iff_mem.mp escaped)

theorem special_escaped {char : Char} (special : char ∈ syntaxCharacters) (other : char ≠ '\\') :
    charactersToEscape.contains char = true := by
  have all : (syntaxCharacters.all fun char => char == '\\' || charactersToEscape.contains char) = true := by decide
  have one := List.all_eq_true.mp all char special
  rw [Bool.or_eq_true, beq_iff_eq] at one
  exact one.resolve_left other

/-- A character other than the backslash becomes what it stands for. -/
theorem tokens_filterPattern {char : Char} (other : char ≠ '\\') (rest : Text) :
    tokens (filterPattern char ++ rest) = (tokens rest).map (filterTokens char ++ ·) := by
  unfold filterPattern
  split
  next escaped =>
    have blank : char ≠ ' ' := by
      rintro rfl
      exact absurd escaped (by decide)
    rw [filterTokens, if_neg blank]
    change tokens ('\\' :: char :: rest) = _
    rw [tokens, if_pos (escaped_special escaped)]
    rfl
  next plain =>
    split
    next blank =>
      rw [filterTokens, if_pos blank]
      change tokens ('.' :: '*' :: rest) = _
      rw [tokens, tokens, Option.map_map]
      rfl
    next blank =>
      rw [filterTokens, if_neg blank]
      exact tokens_char (fun special => plain (special_escaped special other)) rest

theorem tokens_filter {filter : Text} (plain : '\\' ∉ filter) (rest : Text) :
    tokens (filter.flatMap filterPattern ++ rest) = (tokens rest).map (filter.flatMap filterTokens ++ ·) := by
  induction filter with
  | nil => simp
  | cons char others following =>
    rw [List.mem_cons, not_or] at plain
    rw [List.flatMap_cons, List.append_assoc, tokens_filterPattern (fun same => plain.1 same.symm), following plain.2,
      Option.map_map, List.flatMap_cons]
    congr 1
    funext more
    simp

theorem head_filterTokens (filter : Text) (rest : List Token) :
    (filter.flatMap filterTokens ++ .any :: rest).head? ≠ some .star := by
  cases filter with
  | nil => simp
  | cons char others =>
    rw [List.flatMap_cons, filterTokens]
    split
    · simp
    · simp

theorem terms_filter (filter : Text) :
    terms (filter.flatMap filterTokens ++ [.any, .star]) = some (filter.map filterTerm ++ [anything]) := by
  induction filter with
  | nil => rfl
  | cons char more following =>
    rw [List.flatMap_cons, List.append_assoc, List.map_cons, List.cons_append]
    by_cases blank : char = ' '
    · rw [filterTokens, if_pos blank, filterTerm, if_pos blank, List.cons_append, List.cons_append, List.nil_append, terms,
        following]
      rfl
    · rw [filterTokens, if_neg blank, filterTerm, if_neg blank, List.cons_append, List.nil_append,
        terms_char char (head_filterTokens more [.star]), following]
      rfl

/-- Anything stands at both ends and between the fragments of the filter. -/
theorem filterTerms_separated (filter : Text) :
    anything :: (filter.map filterTerm ++ [anything]) = separated (filter.splitOn ' ') := by
  induction filter with
  | nil => rfl
  | cons char rest following =>
    rw [List.splitOn_cons_eq_if_modifyHead, List.map_cons, List.cons_append, filterTerm]
    by_cases blank : char = ' '
    · rw [if_pos blank, if_pos (beq_iff_eq.mpr blank), separated, ← following]
      rfl
    · obtain ⟨fragment, fragments, parts⟩ := List.exists_cons_of_ne_nil (List.splitOn_ne_nil ' ' rest)
      rw [parts, separated, List.cons.injEq] at following
      rw [if_neg blank, if_neg (by simpa using blank), parts, List.modifyHead_cons, separated, following.2]
      rfl

/-- Only the blank is a wildcard of its own. -/
theorem eq_blank_of_wildcard {filter : Text} (plain : '\\' ∉ filter)
    (wildcard : filter.flatMap filterPattern = ".*".toList) : filter = [' '] := by
  have read := tokens_filter plain []
  rw [List.append_nil, wildcard] at read
  have listed : filter.flatMap filterTokens = [.any, .star] := by
    have wild : tokens ".*".toList = some [.any, .star] := by decide
    rw [wild] at read
    have same : [.any, .star] = filter.flatMap filterTokens ++ [] := Option.some.inj read
    rw [same, List.append_nil]
  cases filter with
  | nil => cases listed
  | cons char rest =>
    rw [List.flatMap_cons, filterTokens] at listed
    split at listed
    next blank =>
      cases rest with
      | nil => rw [blank]
      | cons next others =>
        rw [List.flatMap_cons, filterTokens] at listed
        split at listed
        next => simp at listed
        next => simp at listed
    next => simp at listed

/-- The expression of a filter without backslash can be parsed, and matches the texts that
have the fragments of the filter in their order. -/
theorem parse_setupRegex (search : MagicSearch) {filter : Text} (plain : '\\' ∉ filter) :
    ∃ terms, parse (search.setupRegex filter).filterRegex = some terms ∧
      ∀ text, OneLine text → (matchTerms terms text = true ↔ InOrder ((lowerText filter).splitOn ' ') text) := by
  have lowered : '\\' ∉ lowerText filter := by
    intro member
    obtain ⟨char, listed, same⟩ := List.mem_map.mp member
    exact plain (eq_of_toLower_eq same (.inl (by decide)) ▸ listed)
  by_cases whole : (filter.isEmpty || decide ((lowerText filter).flatMap filterPattern = ".*".toList)) = true
  · have regex : (search.setupRegex filter).filterRegex = ".*".toList := if_pos whole
    refine ⟨[anything], by rw [regex]; decide, ?_⟩
    intro text line
    have matched : matchTerms [anything] text = true :=
      (matchTerms_anything line).mpr ⟨text, [], (List.append_nil text).symm, rfl⟩
    refine iff_of_true matched ?_
    rw [Bool.or_eq_true, decide_eq_true_iff, List.isEmpty_iff] at whole
    rcases whole with rfl | wildcard
    · exact ⟨[], text, rfl, trivial⟩
    · rw [eq_blank_of_wildcard lowered wildcard]
      exact ⟨[], text, rfl, [], text, rfl, trivial⟩
  · refine ⟨separated ((lowerText filter).splitOn ' '), ?_, fun text line => matchTerms_separated _ line⟩
    have regex : (search.setupRegex filter).filterRegex =
        '.' :: '*' :: ((lowerText filter).flatMap filterPattern ++ ['.', '*']) := by
      exact if_neg whole
    have ending : tokens ['.', '*'] = some [.any, .star] := by decide
    rw [regex, parse, tokens, tokens, tokens_filter lowered, ending]
    change terms (.any :: .star :: ((lowerText filter).flatMap filterTokens ++ [.any, .star])) = _
    rw [terms, terms_filter, Option.map_some]
    exact congrArg some (filterTerms_separated (lowerText filter))

theorem oneLine_lowerText {haystack : Text} (line : OneLine haystack) : OneLine (lowerText haystack) := by
  intro lower member ending
  obtain ⟨char, listed, same⟩ := List.mem_map.mp member
  have others : (lineTerminators.all fun char => char.val.toNat < 97 || 122 < char.val.toNat) = true := by decide
  have other := List.all_eq_true.mp others lower ending
  rw [Bool.or_eq_true, decide_eq_true_iff, decide_eq_true_iff] at other
  exact line char listed (eq_of_toLower_eq same other ▸ ending)

/-- For a filter without backslash the expression is valid, and it accepts a text exactly
when the fragments of the filter are in it in their order. -/
theorem filter_matched_literally {engine : SearchEngine} (patterns : engine.MatchesPatterns) (search : MagicSearch)
    {filter haystack : Text} (plain : '\\' ∉ filter) (line : OneLine haystack) :
    (parse (search.setupRegex filter).filterRegex).isSome = true ∧
      (engine.isMatchingRegex (lowerText haystack) (search.setupRegex filter).filterRegex = true ↔
        InOrder ((lowerText filter).splitOn ' ') (lowerText haystack)) := by
  obtain ⟨terms, parsed, accepts⟩ := parse_setupRegex search plain
  refine ⟨by rw [parsed, Option.isSome_some], ?_⟩
  rw [patterns _ terms parsed]
  exact accepts _ (oneLine_lowerText line)

/-- An engine for the patterns that can be parsed. -/
def patternEngine : SearchEngine where
  isMatchingRegex text pattern := (parse pattern).any fun terms => matchTerms terms text

theorem patternEngine_matches : patternEngine.MatchesPatterns := by
  intro pattern terms parsed text
  simp only [patternEngine, parsed, Option.any_some]

/-- The special characters of a filter stand for themselves. -/
theorem plus_matched_literally :
    (parse (({} : MagicSearch).setupRegex "+33 a.b".toList).filterRegex).isSome = true ∧
      (patternEngine.isMatchingRegex (lowerText "sip:+331@A.Bc".toList) (({} : MagicSearch).setupRegex "+33 a.b".toList).filterRegex =
        true ↔ InOrder ((lowerText "+33 a.b".toList).splitOn ' ') (lowerText "sip:+331@A.Bc".toList)) := by
  apply filter_matched_literally patternEngine_matches
  · decide
  · have all : ("sip:+331@A.Bc".toList.all fun char => !lineTerminators.contains char) = true := by decide
    intro char member
    simpa using List.all_eq_true.mp all char member

/-- After a backslash the wildcard at the end is a repeated dot, and the backslash is not looked for. -/
theorem backslash_not_matched :
    (∀ engine : SearchEngine, engine.MatchesPatterns →
      engine.isMatchingRegex (lowerText "a".toList) (({} : MagicSearch).setupRegex "a\\".toList).filterRegex = true) ∧
    ¬InOrder ((lowerText "a\\".toList).splitOn ' ') (lowerText "a".toList) := by
  constructor
  · intro engine patterns
    have parsed : parse (({} : MagicSearch).setupRegex "a\\".toList).filterRegex =
        some [anything, { char := some 'a' }, { char := some '.', repeated := true }] := by decide
    rw [patterns _ _ parsed]
    decide
  · have fragments : (lowerText "a\\".toList).splitOn ' ' = ["a\\".toList] := by decide
    rw [fragments]
    rintro ⟨before, after, parts, -⟩
    have size := congrArg List.length parts
    have two : "a\\".toList.length = 2 := by decide
    have one : (lowerText "a".toList).length = 1 := by decide
    rw [List.length_append, List.length_append, two, one] at size
    omega

end MagicSearch

end Liblinphone
