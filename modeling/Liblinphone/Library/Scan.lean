import Mathlib.Data.List.DropRight
import Mathlib.Data.List.TakeWhile

/-! Reading a text up to a character that ends a part of it. -/

namespace Liblinphone.Library

variable {α : Type u} {inside : α → Bool} {part rest : List α} {stop : α}

theorem takeWhile_stop (within : ∀ entry ∈ part, inside entry = true) (ends : inside stop = false) :
    (part ++ stop :: rest).takeWhile inside = part := by
  rw [List.takeWhile_append_of_pos within, List.takeWhile_cons_of_neg (by simp [ends]), List.append_nil]

theorem dropWhile_stop (within : ∀ entry ∈ part, inside entry = true) (ends : inside stop = false) :
    (part ++ stop :: rest).dropWhile inside = stop :: rest := by
  rw [List.dropWhile_append_of_pos within, List.dropWhile_cons_of_neg (by simp [ends])]

theorem takeWhile_whole (within : ∀ entry ∈ part, inside entry = true) : part.takeWhile inside = part :=
  List.takeWhile_eq_self_iff.mpr within

/-- The place of the first stop. -/
theorem findIdx?_stop {stops : α → Bool} (within : ∀ entry ∈ part, stops entry = false) (ends : stops stop = true) :
    (part ++ stop :: rest).findIdx? stops = some part.length := by
  rw [List.findIdx?_append, List.findIdx?_eq_none_iff.mpr within]
  simp [List.findIdx?_cons, ends]

section Separators

variable [BEq α] [LawfulBEq α]

theorem findIdx?_missing (missing : stop ∉ part) : part.findIdx? (· == stop) = none :=
  List.findIdx?_eq_none_iff.mpr fun _ member => beq_eq_false_iff_ne.mpr fun same => missing (same ▸ member)

theorem findIdx?_first (missing : stop ∉ part) : (part ++ stop :: rest).findIdx? (· == stop) = some part.length :=
  findIdx?_stop (fun _ member => beq_eq_false_iff_ne.mpr fun same => missing (same ▸ member)) (beq_self_eq_true stop)

variable {separator : α}

theorem not_mem_of_mem_splitOn {text : List α} (member : part ∈ text.splitOn separator) : separator ∉ part := by
  induction text generalizing part with
  | nil =>
    rw [List.splitOn_nil, List.mem_singleton] at member
    exact member ▸ List.not_mem_nil
  | cons first rest following =>
    rw [List.splitOn_cons_eq_if_modifyHead] at member
    split at member
    next => exact (List.mem_cons.mp member).elim (fun empty => empty ▸ List.not_mem_nil) following
    next other =>
      obtain ⟨head, parts, shape⟩ := List.exists_cons_of_ne_nil (List.splitOn_ne_nil separator rest)
      rw [shape, List.modifyHead_cons] at member
      rcases List.mem_cons.mp member with rfl | later
      · have within : separator ∉ head := following (shape ▸ List.mem_cons_self)
        have differs : separator ≠ first := fun same => other (beq_iff_eq.mpr same.symm)
        exact List.not_mem_cons_of_ne_of_not_mem differs within
      · exact following (shape ▸ List.mem_cons_of_mem _ later)

theorem takeWhile_ne {rest : List α} (missing : separator ∉ part) :
    (part ++ separator :: rest).takeWhile (· != separator) = part :=
  takeWhile_stop (fun _ inside => bne_iff_ne.mpr fun same => missing (same ▸ inside)) (by simp)

theorem dropWhile_ne {rest : List α} (missing : separator ∉ part) :
    (part ++ separator :: rest).dropWhile (· != separator) = separator :: rest :=
  dropWhile_stop (fun _ inside => bne_iff_ne.mpr fun same => missing (same ▸ inside)) (by simp)

theorem not_mem_takeWhile_ne (text : List α) : separator ∉ text.takeWhile (· != separator) := by
  intro member
  have differs := List.mem_takeWhile_imp member
  simp at differs

theorem takeWhile_append_stop {text : List α} (member : separator ∈ text) :
    text.takeWhile (· != separator) ++ separator :: (text.dropWhile (· != separator)).tail = text := by
  obtain ⟨start, rest, rfl, missing⟩ := List.eq_append_cons_of_mem member
  rw [takeWhile_ne missing, dropWhile_ne missing, List.tail_cons]

theorem mem_of_mem_splitOn {text : List α} (member : part ∈ text.splitOn separator) {entry : α} (inside : entry ∈ part) :
    entry ∈ text := by
  have whole : [separator].intercalate (text.splitOn separator) = text := List.intercalate_splitOn separator
  obtain ⟨before, after, shape⟩ := List.append_of_mem member
  rw [← whole, shape]
  clear whole shape member
  induction before with
  | nil => cases after <;> simp [List.intercalate, inside]
  | cons first rest following =>
    rw [List.cons_append, List.intercalate_cons_of_ne_nil (by simp)]
    exact List.mem_append_right _ following

theorem length_splitOn (text : List α) : (text.splitOn separator).length = text.count separator + 1 := by
  induction text with
  | nil => rfl
  | cons first rest following =>
    rw [List.splitOn_cons_eq_if_modifyHead]
    split
    next same => rw [List.length_cons, following, beq_iff_eq.mp same, List.count_cons_self]
    next other => rw [List.length_modifyHead, following, List.count_cons_of_ne fun same => other (beq_iff_eq.mpr same)]

end Separators

theorem intercalate_cons {α : Type u} (separator : α) (first : List α) (rest : List (List α)) :
    [separator].intercalate (first :: rest) = first ++ rest.flatMap (separator :: ·) := by
  induction rest generalizing first with
  | nil => simp
  | cons next more following =>
    rw [List.intercalate_cons_cons, following, List.flatMap_cons, List.append_assoc]
    rfl

/-- What follows the stop after a part. -/
theorem drop_stop (part : List α) (stop : α) (rest : List α) : (part ++ stop :: rest).drop (part.length + 1) = rest := by
  rw [List.drop_append, List.drop_eq_nil_of_le (Nat.le_succ _)]
  simp

/-- What is kept when an ending is stripped that is not there. -/
theorem rdropWhile_kept (ends : ∀ last, part.getLast? = some last → inside last = false) :
    part.rdropWhile inside = part := by
  induction part using List.reverseRecOn with
  | nil => rfl
  | append_singleton start last =>
    have kept := ends last (by simp)
    rw [List.rdropWhile_concat_neg _ _ _ (by simp [kept])]

end Liblinphone.Library
