import Liblinphone.Text

/-! How texts are written into an ICS event and read back. Writing looks at one character
at a time. Reading replaces one kind of escape after another in the whole text. -/

namespace Liblinphone.Ics

def escapeChar : Char → Text
  | '\\' => ['\\', '\\']
  | '\n' => ['\\', 'n']
  | ';' => ['\\', ';']
  | ',' => ['\\', ',']
  | char => [char]

/-- `escape` of the event. -/
def escape (text : Text) : Text := text.flatMap escapeChar

/-- The first characters that are left to skip were replaced already. -/
def replaceFrom (what replacement : Text) : Nat → Text → Text
  | _, [] => []
  | skipped + 1, _ :: rest => replaceFrom what replacement skipped rest
  | 0, char :: rest =>
    if what.isPrefixOf (char :: rest) then replacement ++ replaceFrom what replacement (what.length - 1) rest
    else char :: replaceFrom what replacement 0 rest

/-- `replace_all`. The search goes on after what was put there. -/
def replaceAll (what replacement text : Text) : Text := replaceFrom what replacement 0 text

/-- What `setSummary` and `setDescription` make of their text. -/
def unescape (text : Text) : Text :=
  replaceAll ['\\', '\\'] ['\\']
    (replaceAll ['\\', ','] [','] (replaceAll ['\\', ';'] [';'] (replaceAll ['\\', 'n'] ['\n'] text)))

section Pairs

variable {first second : Char} {replacement : Text}

theorem replaceAll_hit (rest : Text) :
    replaceAll [first, second] replacement (first :: second :: rest) =
      replacement ++ replaceAll [first, second] replacement rest := by
  simp [replaceAll, replaceFrom, List.isPrefixOf]

theorem replaceAll_skip {char : Char} (other : char ≠ first) (rest : Text) :
    replaceAll [first, second] replacement (char :: rest) = char :: replaceAll [first, second] replacement rest := by
  simp [replaceAll, replaceFrom, List.isPrefixOf, other.symm]

theorem replaceAll_miss {rest : Text} (other : rest.head? ≠ some second) :
    replaceAll [first, second] replacement (first :: rest) = first :: replaceAll [first, second] replacement rest := by
  cases rest with
  | nil => simp [replaceAll, replaceFrom, List.isPrefixOf]
  | cons next more =>
    have differ : second ≠ next := fun same => other (congrArg some same.symm)
    simp [replaceAll, replaceFrom, List.isPrefixOf, differ]

end Pairs

end Liblinphone.Ics
