import Mathlib.Data.Prod.Lex
import Mathlib.Order.RelClasses
import Mathlib.Tactic.ByContra
import Mathlib.Tactic.Push
import Mathlib.Tactic.WLOG

/-! Pairs that are ordered by the keys of their first parts, and, where another relation calls
these the same, by the keys of their second parts. -/

namespace Liblinphone.Library

variable {α : Type u} {β : Type v} [LinearOrder β] (key : α → β) (same : α → α → Prop)

def PairBefore (first second : α × α) : Prop :=
  key first.1 < key second.1 ∨ same first.1 second.1 ∧ key first.2 < key second.2

/-- Parts that are the same have one key, and parts with one key are the same, unless all
parts have it. -/
structure KeyDecides : Prop where
  key_eq : ∀ first second, same first second → key first = key second
  same_of_key : (∀ first second, key first = key second → same first second) ∨ ∀ first second, key first = key second

/-- The order is strict and weak, and pairs whose parts are the same are not ordered. -/
structure PairOrdered : Prop where
  order : IsStrictWeakOrder (α × α) (PairBefore key same)
  unordered : ∀ first second : α × α, same first.1 second.1 → same first.2 second.2 →
    ¬PairBefore key same first second ∧ ¬PairBefore key same second first

variable {key same}

theorem pairBefore_iff_lex (exact : ∀ first second, same first second ↔ key first = key second) (first second : α × α) :
    PairBefore key same first second ↔ toLex (key first.1, key first.2) < toLex (key second.1, key second.2) := by
  rw [Prod.Lex.toLex_lt_toLex, ← exact]
  exact Iff.rfl

theorem pairBefore_lt_or_lt {first second : α × α} (before : PairBefore key same first second) :
    key first.1 < key second.1 ∨ key first.2 < key second.2 :=
  before.imp (fun less => less) And.right

theorem KeyDecides.pairOrdered (decides : KeyDecides key same) : PairOrdered key same := by
  have unordered : ∀ first second : α × α, same first.1 second.1 → same first.2 second.2 →
      ¬PairBefore key same first second ∧ ¬PairBefore key same second first := by
    intro first second left right
    have left := decides.key_eq _ _ left
    have right := decides.key_eq _ _ right
    refine ⟨fun before => ?_, fun before => ?_⟩
    · rcases pairBefore_lt_or_lt before with less | less
      · exact less.ne left
      · exact less.ne right
    · rcases pairBefore_lt_or_lt before with less | less
      · exact less.ne' left
      · exact less.ne' right
  rcases decides.same_of_key with injective | constant
  · have exact : ∀ first second, same first second ↔ key first = key second := fun first second =>
      ⟨decides.key_eq first second, injective first second⟩
    have relation : PairBefore key same = Function.onFun (· < ·) fun pair : α × α => toLex (key pair.1, key pair.2) := by
      funext first second
      exact propext (pairBefore_iff_lex exact first second)
    have linear : IsStrictWeakOrder (β ×ₗ β) (· < ·) := isStrictWeakOrder_of_isOrderConnected
    exact ⟨relation ▸ inferInstance, unordered⟩
  · have never : ∀ first second, ¬PairBefore key same first second := by
      intro first second before
      rcases pairBefore_lt_or_lt before with less | less
      · exact less.ne (constant _ _)
      · exact less.ne (constant _ _)
    refine ⟨?_, unordered⟩
    exact
      { irrefl := fun pair => never pair pair
        trans := fun first second _ less => absurd less (never first second)
        incomp_trans := fun first _ third _ _ => ⟨never first third, never third first⟩ }

theorem PairOrdered.key_eq (refl : ∀ part, same part part) (ordered : PairOrdered key same) {first second : α}
    (alike : same first second) : key first = key second := by
  obtain ⟨before, after⟩ := ordered.unordered (first, first) (second, first) alike (refl first)
  rcases lt_trichotomy (key first) (key second) with less | equal | more
  · exact absurd (.inl less) before
  · exact equal
  · exact absurd (.inl more) after

theorem PairOrdered.keyDecides (refl : ∀ part, same part part) (ordered : PairOrdered key same) : KeyDecides key same := by
  refine ⟨fun _ _ => ordered.key_eq refl, ?_⟩
  by_contra neither
  push Not at neither
  obtain ⟨⟨left, right, equal, apart⟩, low, high, different⟩ := neither
  wlog less : key low < key high generalizing low high
  · exact this high low different.symm ((lt_or_gt_of_ne different).resolve_left less)
  -- The pair in the middle is ordered with neither of two pairs that are ordered.
  have first : ¬PairBefore key same (left, low) (right, high) ∧ ¬PairBefore key same (right, high) (left, low) := by
    refine ⟨?_, ?_⟩
    · rintro (smaller | ⟨alike, -⟩)
      · exact smaller.ne equal
      · exact apart alike
    · rintro (smaller | ⟨-, smaller⟩)
      · exact smaller.ne' equal
      · exact less.asymm smaller
  have second : ¬PairBefore key same (right, high) (left, high) ∧ ¬PairBefore key same (left, high) (right, high) := by
    refine ⟨?_, ?_⟩
    · rintro (smaller | ⟨-, smaller⟩)
      · exact smaller.ne' equal
      · exact smaller.ne rfl
    · rintro (smaller | ⟨alike, -⟩)
      · exact smaller.ne equal
      · exact apart alike
  have order := ordered.order
  exact (order.incomp_trans _ _ _ first second).1 (.inr ⟨refl left, less⟩)

theorem pairOrdered_iff (refl : ∀ part, same part part) : PairOrdered key same ↔ KeyDecides key same :=
  ⟨PairOrdered.keyDecides refl, KeyDecides.pairOrdered⟩

end Liblinphone.Library
