import Liblinphone.IcsParser

/-! Texts that are written into an event and read back. A letter n that follows a
backslash comes back as a new line, and nothing else changes. -/

namespace Liblinphone.Ics

/-- A letter n directly after a backslash is taken for a new line. -/
def misread : Text → Text
  | '\\' :: 'n' :: rest => '\\' :: '\n' :: misread rest
  | char :: rest => char :: misread rest
  | [] => []

/-- A text that was written, when new lines have been read and only some of the other
characters are still escaped. -/
def halfRead (escaped : List Char) : Text → Text
  | '\\' :: 'n' :: rest => '\\' :: '\n' :: halfRead escaped rest
  | '\\' :: rest => '\\' :: '\\' :: halfRead escaped rest
  | char :: rest => if char ∈ escaped then '\\' :: char :: halfRead escaped rest else char :: halfRead escaped rest
  | [] => []

theorem escape_cons (char : Char) (rest : Text) : escape (char :: rest) = escapeChar char ++ escape rest := rfl

/-- What is not special is written as it is. -/
theorem escapeChar_plain {char : Char} (special : ∀ other ∈ ['\\', '\n', ';', ','], char ≠ other) :
    escapeChar char = [char] := by
  unfold escapeChar
  split <;> simp_all

theorem escapeChar_shape (char : Char) : escapeChar char = [char] ∨ ∃ code, escapeChar char = ['\\', code] := by
  by_cases special : ∀ other ∈ ['\\', '\n', ';', ','], char ≠ other
  · exact .inl (escapeChar_plain special)
  · push Not at special
    obtain ⟨found, member, rfl⟩ := special
    simp only [List.mem_cons, List.not_mem_nil, or_false] at member
    rcases member with rfl | rfl | rfl | rfl <;> exact .inr ⟨_, rfl⟩

theorem head_escape {text : Text} (other : text.head? ≠ some 'n') : (escape text).head? ≠ some 'n' := by
  cases text with
  | nil => exact other
  | cons char rest =>
    rw [escape_cons]
    rcases escapeChar_shape char with plain | ⟨code, escaped⟩
    · rw [plain]
      exact other
    · rw [escaped]
      simp

/-- An escaped character is not the first one. -/
theorem head_halfRead {escaped : List Char} {wanted : Char} (inside : wanted ∈ escaped) (special : wanted ≠ '\\')
    (text : Text) : (halfRead escaped text).head? ≠ some wanted := by
  fun_cases halfRead escaped text with
  | case1 rest => simpa using special.symm
  | case2 rest => simpa using special.symm
  | case3 char rest => simpa using special.symm
  | case4 char rest first second outside =>
    intro same
    rw [List.head?_cons, Option.some.injEq] at same
    exact outside (same ▸ inside)
  | case5 => simp

theorem read_newlines (text : Text) : replaceAll ['\\', 'n'] ['\n'] (escape text) = halfRead [';', ','] text := by
  fun_induction halfRead [';', ','] text with
  | case1 rest following =>
    have written : escape ('\\' :: 'n' :: rest) = '\\' :: '\\' :: 'n' :: escape rest := rfl
    rw [written, replaceAll_miss (by simp), replaceAll_hit, following]
    rfl
  | case2 rest other following =>
    have written : escape ('\\' :: rest) = '\\' :: '\\' :: escape rest := rfl
    have next : rest.head? ≠ some 'n' := by
      intro same
      obtain ⟨more, rfl⟩ := List.head?_eq_some_iff.mp same
      exact other more rfl
    rw [written, replaceAll_miss (by simp), replaceAll_miss (head_escape next), following]
  | case3 char rest first second inside following =>
    simp only [List.mem_cons, List.not_mem_nil, or_false] at inside
    have written : escape (char :: rest) = '\\' :: char :: escape rest := by
      rcases inside with rfl | rfl <;> rfl
    have other : char ≠ 'n' := by
      rcases inside with rfl | rfl <;> decide
    rw [written, replaceAll_miss (by simpa using other), replaceAll_skip second, following]
  | case4 char rest first second outside following =>
    by_cases line : char = '\n'
    · rw [line, escape_cons]
      have written : escapeChar '\n' ++ escape rest = '\\' :: 'n' :: escape rest := rfl
      rw [written, replaceAll_hit, following]
      rfl
    · rw [escape_cons, escapeChar_plain (by simp_all), List.singleton_append, replaceAll_skip second, following]
  | case5 => rfl

/-- One more kind of escape is read. -/
theorem read_escaped {escaped : List Char} {wanted : Char} (special : wanted ≠ '\\') (visible : wanted ≠ '\n')
    (fresh : wanted ∉ escaped) (text : Text) :
    replaceAll ['\\', wanted] [wanted] (halfRead (wanted :: escaped) text) = halfRead escaped text := by
  fun_induction halfRead (wanted :: escaped) text with
  | case1 rest following =>
    rw [replaceAll_miss (by simpa using visible.symm), replaceAll_skip (by decide), following]
    rfl
  | case2 rest other following =>
    have next := head_halfRead (@List.mem_cons_self _ wanted escaped) special rest
    rw [replaceAll_miss (by simpa using special.symm), replaceAll_miss next, following, halfRead.eq_2 _ _ other]
  | case3 char rest first second inside following =>
    rw [halfRead.eq_3 _ _ _ first second]
    rcases List.mem_cons.mp inside with rfl | later
    · rw [replaceAll_hit, following, if_neg fresh]
      rfl
    · have differ : char ≠ wanted := fun same => fresh (same ▸ later)
      rw [replaceAll_miss (by simpa using differ), replaceAll_skip second, following, if_pos later]
  | case4 char rest first second outside following =>
    have unescaped : char ∉ escaped := fun later => outside (List.mem_cons_of_mem wanted later)
    rw [replaceAll_skip second, following, halfRead.eq_3 _ _ _ first second, if_neg unescaped]
  | case5 => rfl

theorem read_backslashes (text : Text) : replaceAll ['\\', '\\'] ['\\'] (halfRead [] text) = misread text := by
  fun_induction halfRead [] text with
  | case1 rest following =>
    rw [replaceAll_miss (by simp), replaceAll_skip (by decide), following]
    rfl
  | case2 rest other following =>
    rw [replaceAll_hit, following, misread.eq_2 _ _ fun more _ same => other more same]
    rfl
  | case3 char rest first second inside following => cases inside
  | case4 char rest first second outside following =>
    rw [replaceAll_skip second, following, misread.eq_2 _ _ first]
  | case5 => rfl

/-- What is read is the text that was written, with its misread letters. -/
theorem unescape_escape (text : Text) : unescape (escape text) = misread text := by
  rw [unescape, read_newlines, read_escaped (by decide) (by decide) (by decide),
    read_escaped (by decide) (by decide) (by decide), read_backslashes]

theorem misread_eq_iff (text : Text) : misread text = text ↔ ¬['\\', 'n'] <:+: text := by
  fun_induction misread text with
  | case1 rest following =>
    have found : ['\\', 'n'] <:+: '\\' :: 'n' :: rest := ⟨[], rest, rfl⟩
    simp [found]
  | case2 char rest other following =>
    rw [List.infix_cons_iff, List.cons.injEq, following]
    have start : ¬['\\', 'n'] <+: char :: rest := by
      rintro ⟨more, same⟩
      simp only [List.cons_append, List.nil_append, List.cons.injEq] at same
      exact other more same.1.symm same.2.symm
    simp [start]
  | case3 => simp

/-- A summary and a description are read back as they were written exactly when no backslash
in them is directly followed by a letter n. -/
theorem text_survives_iff (node : EventNode) (text : Text) :
    ((node.setSummary (escape text)).summary = text ∧ (node.setDescription (escape text)).description = text) ↔
      ¬['\\', 'n'] <:+: text := by
  rw [EventNode.setSummary, EventNode.setDescription, and_self, unescape_escape]
  exact misread_eq_iff text

/-- A path whose name starts with that letter is trimmed and printable, and comes back as two lines. -/
theorem path_misread :
    trimText "C:\\new".toList = "C:\\new".toList ∧
      "C:\\new".toList.all (fun char => 0x20 ≤ char.toNat && char.toNat < 0x7f) = true ∧
      (({} : EventNode).setSummary (escape "C:\\new".toList)).summary = "C:\\\new".toList ∧
      (({} : EventNode).setSummary (escape "C:\\new".toList)).summary ≠ "C:\\new".toList := by
  decide

end Liblinphone.Ics
