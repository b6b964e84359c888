import Liblinphone.Library.Overlay
import Liblinphone.Proofs.Versions

/-! Descriptors of capabilities. They are read entry by entry, and later entries override the
earlier ones. A version without a dot is read outside of its text. -/

namespace Liblinphone.Utils

open Library

theorem Semver.dotted_text {found : Semver.Groups} (conforms : found.Conforms) : '.' ∈ found.text.takeWhile (· != '\x00') := by
  have release : '\x00' ∉ found.preRelease := Expression.not_mem_of_option conforms.preRelease (by decide)
  have build : '\x00' ∉ found.buildMetaData := Expression.not_mem_of_option conforms.buildMetaData (by decide)
  have ended : '\x00' ∉ found.text := by
    rw [Semver.Groups.text, List.mem_append, List.mem_append, not_or, not_or]
    exact ⟨⟨Semver.not_mem_core conforms (by decide) (by decide), not_mem_suffix (by decide) release⟩, not_mem_suffix (by decide) build⟩
  rw [takeWhile_whole (within_of_not_mem ended)]
  simp [Semver.Groups.text, Semver.Groups.core]

/-- A version is read inside of its text when there is a dot before its end. -/
theorem Version.ofText_isSome_iff (version : Text) :
    (Version.ofText version).isSome = true ↔ '.' ∈ version.takeWhile (· != '\x00') := by
  unfold Version.ofText
  split
  next found searched =>
    obtain ⟨conforms, rfl⟩ := Semver.search_eq_some_iff.mp searched
    exact iff_of_true rfl (Semver.dotted_text conforms)
  next =>
    dsimp only
    split
    next dotted => exact iff_of_true rfl dotted
    next dotless => exact iff_of_false Bool.false_ne_true dotless

/-- Each version in a descriptor has a dot. -/
def Dotted (descriptor : Text) : Prop :=
  ∀ cap ∈ getlines ',' descriptor, ∀ version ∈ (getlines '/' cap)[1]?, '.' ∈ version.takeWhile (· != '\x00')

theorem readCapability_isSome_iff (cap : Text) :
    (readCapability cap).isSome = true ↔ ∀ version ∈ (getlines '/' cap)[1]?, '.' ∈ version.takeWhile (· != '\x00') := by
  unfold readCapability
  split
  next name version rest parts =>
    rw [parts, Option.isSome_map, Version.ofText_isSome_iff]
    simp
  next parts => simp [parts]
  next parts => simp [parts]

section Reading

variable {delim : Char} {first second : Text}

theorem getLast?_splitOn (filled : first ≠ []) (ends : first.getLast? ≠ some delim) : (first.splitOn delim).getLast? ≠ some [] := by
  induction first using (measure List.length).wf.induction with
  | _ first ih =>
    by_cases more : delim ∈ first
    · obtain ⟨start, rest, rfl, -⟩ := List.eq_append_cons_of_mem more
      rw [List.splitOn_append_cons_self, List.getLast?_append_of_ne_nil _ (List.splitOn_ne_nil delim rest)]
      have some : rest ≠ [] := by
        rintro rfl
        exact ends List.getLast?_concat
      refine ih rest ?_ some ?_
      · change rest.length < (start ++ delim :: rest).length
        rw [List.length_append, List.length_cons]
        omega
      · rwa [List.getLast?_append_of_ne_nil _ (List.cons_ne_nil delim rest), List.getLast?_cons_of_ne_nil some] at ends
    · rw [List.splitOn_eq_singleton more]
      simpa using filled

theorem getlines_append (filled : first ≠ []) (ends : first.getLast? ≠ some delim) (second : Text) :
    getlines delim (first ++ delim :: second) = getlines delim first ++ getlines delim second := by
  have last := getLast?_splitOn filled ends
  dsimp only [getlines]
  rw [List.splitOn_append_cons_self, if_neg last, List.getLast?_append_of_ne_nil _ (List.splitOn_ne_nil delim second)]
  split
  · rw [List.dropLast_append_of_ne_nil (List.splitOn_ne_nil delim second)]
  · rfl

/-- An entry of a descriptor put into a map. -/
def insertCapability (result : Std.ExtTreeMap Text Version) (cap : Text) : Option (Std.ExtTreeMap Text Version) :=
  (readCapability cap).map fun entry => result.insert entry.1 entry.2

theorem insertCapability_overlay (held base : Std.ExtTreeMap Text Version) (cap : Text) :
    insertCapability (overlay held base) cap = (insertCapability base cap).map (overlay held) := by
  unfold insertCapability
  rw [Option.map_map]
  refine congrArg (fun change => (readCapability cap).map change) (funext fun entry => ?_)
  ext key
  simp only [Function.comp_apply, getElem?_overlay, Std.ExtTreeMap.getElem?_insert]
  split <;> rfl

theorem reading_overlay (held : Std.ExtTreeMap Text Version) (caps : List Text) : ∀ base,
    caps.foldlM insertCapability (overlay held base) = (caps.foldlM insertCapability base).map (overlay held) := by
  induction caps with
  | nil => exact fun base => rfl
  | cons cap rest ih =>
    intro base
    rw [List.foldlM_cons, List.foldlM_cons, insertCapability_overlay]
    cases insertCapability base cap with
    | none => rfl
    | some next => exact ih next

theorem reading_isSome_iff (caps : List Text) : ∀ base,
    (caps.foldlM insertCapability base).isSome = true ↔ ∀ cap ∈ caps, (readCapability cap).isSome = true := by
  induction caps with
  | nil => exact fun base => iff_of_true rfl fun cap member => absurd member List.not_mem_nil
  | cons cap rest ih =>
    intro base
    rw [List.forall_mem_cons, List.foldlM_cons]
    cases entry : readCapability cap with
    | none => simp [insertCapability, entry]
    | some read => simp [insertCapability, entry, ih]

end Reading

theorem parseCapabilityDescriptor_isSome_iff (descriptor : Text) :
    (parseCapabilityDescriptor descriptor).isSome = true ↔ Dotted descriptor :=
  (reading_isSome_iff _ ∅).trans (forall₂_congr fun cap _ => readCapability_isSome_iff cap)

theorem parseCapabilityDescriptor_append {first : Text} (filled : first ≠ []) (ends : first.getLast? ≠ some ',') (second : Text) :
    parseCapabilityDescriptor (first ++ ',' :: second) =
      (parseCapabilityDescriptor first).bind fun held => (parseCapabilityDescriptor second).map (overlay held) := by
  change List.foldlM insertCapability ∅ _ = (List.foldlM insertCapability ∅ _).bind fun held => (List.foldlM insertCapability ∅ _).map _
  rw [getlines_append filled ends, List.foldlM_append]
  refine congrArg (Option.bind _) (funext fun held => ?_)
  rw [← reading_overlay, overlay_nothing]

/-- A descriptor that is received is read inside of its versions, and entry by entry, when each of
its versions has a dot. -/
theorem capability_descriptors_iff (descriptor : Text) {first : Text} (filled : first ≠ []) (ends : first.getLast? ≠ some ',')
    (second : Text) :
    ((parseCapabilityDescriptor descriptor).isSome = true ↔ Dotted descriptor) ∧
      ((∃ held added, parseCapabilityDescriptor first = some held ∧ parseCapabilityDescriptor second = some added ∧
        parseCapabilityDescriptor (first ++ ',' :: second) = some (overlay held added)) ↔ Dotted first ∧ Dotted second) := by
  refine ⟨parseCapabilityDescriptor_isSome_iff descriptor, ?_⟩
  rw [← parseCapabilityDescriptor_isSome_iff, ← parseCapabilityDescriptor_isSome_iff, parseCapabilityDescriptor_append filled ends]
  constructor
  · rintro ⟨held, added, left, right, -⟩
    exact ⟨left ▸ rfl, right ▸ rfl⟩
  · rintro ⟨left, right⟩
    obtain ⟨held, left⟩ := Option.isSome_iff_exists.mp left
    obtain ⟨added, right⟩ := Option.isSome_iff_exists.mp right
    exact ⟨held, added, left, right, by rw [left, right]; rfl⟩

theorem lime_and_groupchat_read : ((parseCapabilityDescriptor "lime".toList).isSome = true ↔ Dotted "lime".toList) ∧
    ((∃ held added, parseCapabilityDescriptor "groupchat/1.1,lime".toList = some held ∧
        parseCapabilityDescriptor "ephemeral,lime/1.2".toList = some added ∧
        parseCapabilityDescriptor ("groupchat/1.1,lime".toList ++ ',' :: "ephemeral,lime/1.2".toList) = some (overlay held added)) ↔
      Dotted "groupchat/1.1,lime".toList ∧ Dotted "ephemeral,lime/1.2".toList) :=
  capability_descriptors_iff "lime".toList (by decide) (by decide) "ephemeral,lime/1.2".toList

theorem dotless_version_read_outside : parseCapabilityDescriptor "lime/1".toList = none := by
  rw [← Option.not_isSome_iff_eq_none, parseCapabilityDescriptor_isSome_iff]
  intro dotted
  exact absurd (dotted "lime/1".toList (by decide) "1".toList (by decide)) (by decide)

end Liblinphone.Utils
