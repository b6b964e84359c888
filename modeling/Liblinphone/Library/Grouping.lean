import Mathlib.Data.List.Basic

/-! An ordered map as a list of its entries, written through the reference that
indexing gives: a missing key is first bound to an initial value. -/

namespace Liblinphone.Library

variable {κ : Type u} {β : Type v} {γ : Type w} {α : Type x} [DecidableEq κ] [LT κ] [DecidableLT κ]

def updateAt (key : κ) (initial : β) (change : β → β) : List (κ × β) → List (κ × β)
  | [] => [(key, change initial)]
  | (other, value) :: rest =>
    if key = other then (other, change value) :: rest
    else if key < other then (key, change initial) :: (other, value) :: rest
    else (other, value) :: updateAt key initial change rest

/-- An item that has no key is left out. -/
def groupAt (key : Option κ) (initial : β) (change : β → β) (entries : List (κ × β)) : List (κ × β) :=
  match key with
  | some key => updateAt key initial change entries
  | none => entries

/-- What a change adds to the contents of a value, an update adds to those of all
values. -/
theorem flatMap_updateAt_perm (contents : β → List γ) {key : κ} {initial : β} {change : β → β} {added : List γ}
    (empty : contents initial = []) (adds : ∀ value, (contents (change value)).Perm (contents value ++ added))
    (entries : List (κ × β)) :
    ((updateAt key initial change entries).flatMap fun entry => contents entry.2).Perm
      ((entries.flatMap fun entry => contents entry.2) ++ added) := by
  have fresh : (contents (change initial)).Perm added := by simpa [empty] using adds initial
  induction entries with
  | nil => simpa [updateAt] using fresh
  | cons entry rest ih =>
    simp only [updateAt]
    split
    next =>
      simp only [List.flatMap_cons]
      refine ((adds entry.2).append_right _).trans ?_
      simp only [List.append_assoc]
      exact List.perm_append_comm.append_left _
    next =>
      split
      next =>
        rw [List.flatMap_cons]
        exact (fresh.append_right _).trans List.perm_append_comm
      next =>
        simp only [List.flatMap_cons, List.append_assoc]
        exact ih.append_left _

/-- Grouping items by their keys keeps what they add. -/
theorem foldl_groupAt_perm (contents : β → List γ) (key : α → Option κ) (initial : β) (push : α → β → β)
    (added : α → List γ) (empty : contents initial = [])
    (adds : ∀ item value, (contents (push item value)).Perm (contents value ++ added item)) {items : List α}
    (keyed : ∀ item ∈ items, (key item).isSome) (entries : List (κ × β)) :
    ((items.foldl (fun entries item => groupAt (key item) initial (push item) entries) entries).flatMap
        fun entry => contents entry.2).Perm
      ((entries.flatMap fun entry => contents entry.2) ++ items.flatMap added) := by
  induction items generalizing entries with
  | nil => simp
  | cons item rest ih =>
    obtain ⟨address, isKey⟩ := Option.isSome_iff_exists.mp (keyed item (by simp))
    rw [List.foldl_cons, List.flatMap_cons, ← List.append_assoc]
    refine (ih (fun other member => keyed other (by simp [member])) _).trans (List.Perm.append_right _ ?_)
    simp only [groupAt, isKey]
    exact flatMap_updateAt_perm contents empty (adds item) entries

end Liblinphone.Library
