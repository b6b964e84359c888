import Liblinphone.MagicSearch
import Mathlib.Data.Prod.Lex

/-! The order of search results. It is no strict weak order: a result without address or
phone number has no place among those of its name, and equal numbers come before each
other. What still holds of it is enough to tell what the sort does. -/

namespace Liblinphone

theorem compareStringItems_lt_iff (left right : Text) :
    compareStringItems left right = .lt ↔ lowerText left < lowerText right :=
  compareOfLessAndEq_eq_lt

theorem compareStringItems_eq_iff (left right : Text) :
    compareStringItems left right = .eq ↔ lowerText left = lowerText right :=
  compareOfLessAndEq_eq_eq le_refl not_le

theorem compareStringItems_gt_iff (left right : Text) :
    compareStringItems left right = .gt ↔ lowerText right < lowerText left :=
  compareOfLessAndEq_eq_gt le_antisymm le_total not_le _ _

namespace SearchResult

def sortName (result : SearchResult) : Text := lowerText result.getDisplayName

/-- User name and domain. -/
def sortPlace (result : SearchResult) : Option (Text ×ₗ Text) :=
  result.address.map fun address => toLex (lowerText address.usernameText, lowerText address.domain.toList)

def sortNumber (result : SearchResult) : Text := lowerText result.phoneNumber

/-- Both have a number, and the right one is not the smaller. -/
def NumberBefore (left right : SearchResult) : Prop :=
  left.sortNumber ≠ [] ∧ right.sortNumber ≠ [] ∧ left.sortNumber ≤ right.sortNumber

theorem isEmpty_phoneNumber (result : SearchResult) :
    (!result.phoneNumber.isEmpty) = true ↔ result.sortNumber ≠ [] := by
  rw [sortNumber, lowerText, ne_eq, List.map_eq_nil_iff, Bool.not_eq_true', ← Bool.not_eq_true, List.isEmpty_iff]

end SearchResult

open SearchResult

theorem numberBefore_iff (left right : SearchResult) :
    (!left.phoneNumber.isEmpty && !right.phoneNumber.isEmpty &&
      compareStringItems left.phoneNumber right.phoneNumber != .gt) = true ↔ left.NumberBefore right := by
  rw [Bool.and_eq_true, Bool.and_eq_true, isEmpty_phoneNumber, isEmpty_phoneNumber, bne_iff_ne, and_assoc]
  refine and_congr_right fun _ => and_congr_right fun _ => ?_
  exact (not_congr (compareStringItems_gt_iff _ _)).trans not_lt

/-- Results are compared by name, then by place, then by number. -/
theorem resultBefore_iff (left right : SearchResult) :
    resultBefore left right = true ↔ left.sortName < right.sortName ∨ (left.sortName = right.sortName ∧
      ∃ place ∈ left.sortPlace, ∃ other ∈ right.sortPlace,
        place < other ∨ (place = other ∧ left.NumberBefore right)) := by
  unfold resultBefore
  rcases lt_trichotomy left.sortName right.sortName with less | equal | more
  · rw [(compareStringItems_lt_iff _ _).mpr less]
    simp [less]
  · rw [(compareStringItems_eq_iff _ _).mpr equal]
    simp only [equal, lt_irrefl, false_or, true_and, sortPlace]
    cases left.address with
    | none => simp
    | some address =>
      cases right.address with
      | none => simp
      | some other =>
        simp only [Option.map_some, Option.mem_some_iff, exists_eq_left', Prod.Lex.toLex_lt_toLex,
          EmbeddingLike.apply_eq_iff_eq, Prod.mk.injEq]
        rcases lt_trichotomy (lowerText address.usernameText) (lowerText other.usernameText) with less | same | more
        · rw [(compareStringItems_lt_iff _ _).mpr less]
          simp [less]
        · rw [(compareStringItems_eq_iff _ _).mpr same]
          rcases lt_trichotomy (lowerText address.domain.toList) (lowerText other.domain.toList) with less | both | more
          · rw [(compareStringItems_lt_iff _ _).mpr less]
            simp [same, less]
          · rw [(compareStringItems_eq_iff _ _).mpr both]
            simp only [same, both, lt_irrefl, and_false, or_false, and_self, true_and, false_or]
            exact numberBefore_iff left right
          · rw [(compareStringItems_gt_iff _ _).mpr more]
            simp [same, more.not_gt, more.ne']
        · rw [(compareStringItems_gt_iff _ _).mpr more]
          simp [more.not_gt, more.ne']
  · rw [(compareStringItems_gt_iff _ _).mpr more]
    simp [more.not_gt, more.ne']

/-- The left one comes first, and not the other way round as well. -/
def comesFirst (left right : SearchResult) : Prop := resultBefore left right = true ∧ resultBefore right left = false

def notAfter (left right : SearchResult) : Prop := ¬comesFirst right left

theorem not_comesFirst_self (result : SearchResult) : ¬comesFirst result result :=
  fun first => Bool.false_ne_true (first.2.symm.trans first.1)

theorem notAfter_total (left right : SearchResult) : notAfter left right ∨ notAfter right left := by
  by_cases first : comesFirst left right
  · exact .inl fun back => Bool.false_ne_true (back.2.symm.trans first.1)
  · exact .inr first

theorem comesFirst_iff (left right : SearchResult) :
    comesFirst left right ↔ left.sortName < right.sortName ∨ (left.sortName = right.sortName ∧
      ∃ place ∈ left.sortPlace, ∃ other ∈ right.sortPlace, place < other ∨ (place = other ∧
        left.sortNumber ≠ [] ∧ right.sortNumber ≠ [] ∧ left.sortNumber < right.sortNumber)) := by
  rw [comesFirst, ← Bool.not_eq_true, resultBefore_iff, resultBefore_iff]
  constructor
  · rintro ⟨less | ⟨equal, place, inLeft, other, inRight, order⟩, last⟩
    · exact .inl less
    · refine .inr ⟨equal, place, inLeft, other, inRight, ?_⟩
      rcases order with less | ⟨same, one, two, -⟩
      · exact .inl less
      · refine .inr ⟨same, one, two, lt_of_not_ge ?_⟩
        intro back
        exact last (.inr ⟨equal.symm, other, inRight, place, inLeft, .inr ⟨same.symm, two, one, back⟩⟩)
  · rintro (less | ⟨equal, place, inLeft, other, inRight, order⟩)
    · refine ⟨.inl less, ?_⟩
      rintro (more | ⟨equal, -⟩)
      · exact less.asymm more
      · exact less.ne' equal
    · constructor
      · refine .inr ⟨equal, place, inLeft, other, inRight, ?_⟩
        exact order.imp_right fun ⟨same, one, two, less⟩ => ⟨same, one, two, less.le⟩
      · rintro (more | ⟨-, back, inBack, forth, inForth, reversed⟩)
        · exact more.ne' equal
        · obtain rfl := Option.mem_unique inBack inRight
          obtain rfl := Option.mem_unique inForth inLeft
          rcases order with less | ⟨same, -, -, less⟩
          · rcases reversed with more | ⟨again, -⟩
            · exact less.asymm more
            · exact less.ne' again
          · rcases reversed with more | ⟨-, -, -, more⟩
            · exact more.ne' same
            · exact less.not_ge more

/-- Results that come before each other have the same name, place and number. -/
theorem sorted_alike {left right : SearchResult} (one : resultBefore left right = true)
    (two : resultBefore right left = true) :
    left.sortName = right.sortName ∧ left.sortPlace = right.sortPlace ∧ left.sortNumber = right.sortNumber := by
  have later : ¬comesFirst left right := fun first => Bool.false_ne_true (first.2.symm.trans two)
  rw [comesFirst_iff] at later
  rcases (resultBefore_iff left right).mp one with less | ⟨equal, place, inLeft, other, inRight, order⟩
  · exact absurd (.inl less) later
  · have remaining := fun order => later (.inr ⟨equal, place, inLeft, other, inRight, order⟩)
    rcases order with less | ⟨same, left, right, least⟩
    · exact absurd (.inl less) remaining
    · refine ⟨equal, (Option.mem_def.mp inLeft).trans (same ▸ (Option.mem_def.mp inRight).symm), ?_⟩
      apply least.antisymm
      apply le_of_not_gt
      exact fun less => remaining (.inr ⟨same, left, right, less⟩)

/-- Results that come before each other are compared alike with every other one. -/
theorem resultBefore_congr {left right : SearchResult} (one : resultBefore left right = true)
    (two : resultBefore right left = true) (other : SearchResult) :
    resultBefore other left = resultBefore other right ∧ resultBefore left other = resultBefore right other := by
  obtain ⟨names, places, numbers⟩ := sorted_alike one two
  constructor
  · rw [Bool.eq_iff_iff, resultBefore_iff, resultBefore_iff, NumberBefore, NumberBefore, names, places, numbers]
  · rw [Bool.eq_iff_iff, resultBefore_iff, resultBefore_iff, NumberBefore, NumberBefore, names, places, numbers]

/-- The result has the name of the other one, but lacks an address or a number to be
compared by. -/
def Missing (result other : SearchResult) : Prop :=
  result.sortName = other.sortName ∧ ((result.sortPlace = none ∧ other.sortPlace ≠ none) ∨
    (result.sortPlace = other.sortPlace ∧ result.sortNumber = [] ∧ other.sortNumber ≠ []))

/-- What is missing something stands on neither side. -/
theorem Missing.unordered {result other : SearchResult} (missing : Missing result other) :
    notAfter result other ∧ notAfter other result := by
  obtain ⟨names, unplaced | ⟨places, unnumbered, -⟩⟩ := missing
  · simp [notAfter, comesFirst_iff, names, unplaced.1]
  · have still : ∀ place ∈ other.sortPlace, ∀ last ∈ other.sortPlace, ¬place < last :=
      fun place one last two => Option.mem_unique one two ▸ lt_irrefl place
    rw [notAfter, notAfter, comesFirst_iff, comesFirst_iff, names, places, unnumbered]
    constructor
    · rintro (less | ⟨-, place, one, last, two, less | ⟨-, -, numbered, -⟩⟩)
      · exact lt_irrefl _ less
      · exact still place one last two less
      · exact numbered rfl
    · rintro (less | ⟨-, place, one, last, two, less | ⟨-, numbered, -⟩⟩)
      · exact lt_irrefl _ less
      · exact still place one last two less
      · exact numbered rfl

/-- Any other result is on one side of two results in order, or is missing something. -/
theorem comesFirst_cases {left right : SearchResult} (first : comesFirst left right) (other : SearchResult) :
    comesFirst left other ∨ comesFirst other right ∨ (Missing other left ∧ Missing other right) := by
  simp only [comesFirst_iff] at first ⊢
  rcases first with less | ⟨names, place, inLeft, last, inRight, order⟩
  · rcases lt_or_ge left.sortName other.sortName with above | below
    · exact .inl (.inl above)
    · exact .inr (.inl (.inl (below.trans_lt less)))
  · rcases lt_trichotomy left.sortName other.sortName with above | same | below
    · exact .inl (.inl above)
    · cases found : other.sortPlace with
      | none =>
        refine .inr (.inr ⟨⟨same.symm, .inl ⟨found, ?_⟩⟩, same.symm.trans names, .inl ⟨found, ?_⟩⟩)
        · exact fun absent => Option.not_mem_none place (absent ▸ inLeft)
        · exact fun absent => Option.not_mem_none last (absent ▸ inRight)
      | some middle =>
        rcases lt_trichotomy place middle with above | equal | below
        · exact .inl (.inr ⟨same, place, inLeft, middle, rfl, .inl above⟩)
        · subst equal
          rcases order with less | ⟨rfl, one, two, less⟩
          · exact .inr (.inl (.inr ⟨same.symm.trans names, place, rfl, last, inRight, .inl less⟩))
          · by_cases unnumbered : other.sortNumber = []
            · refine .inr (.inr ⟨⟨same.symm, .inr ⟨?_, unnumbered, one⟩⟩, same.symm.trans names,
                .inr ⟨?_, unnumbered, two⟩⟩)
              · exact found.trans (Option.mem_def.mp inLeft).symm
              · exact found.trans (Option.mem_def.mp inRight).symm
            · rcases lt_or_ge left.sortNumber other.sortNumber with above | below
              · exact .inl (.inr ⟨same, place, inLeft, place, rfl, .inr ⟨rfl, one, unnumbered, above⟩⟩)
              · exact .inr (.inl (.inr ⟨same.symm.trans names, place, rfl, place, inRight,
                  .inr ⟨rfl, unnumbered, two, below.trans_lt less⟩⟩))
        · refine .inr (.inl (.inr ⟨same.symm.trans names, middle, rfl, last, inRight, .inl ?_⟩))
          rcases order with less | ⟨rfl, -⟩
          · exact below.trans less
          · exact below
    · exact .inr (.inl (.inl (below.trans_eq names)))

variable {first other second : SearchResult}

/-- Three results can be given such that the sort puts them in this order. -/
theorem sort_triple (one : notAfter first other) (two : notAfter other second) :
    ∃ order : List SearchResult, order.Perm [first, other, second] ∧
      sortResultsList order = [first, other, second] := by
  have back : resultBefore other first = true → resultBefore first other = true := by
    intro reversed
    by_contra single
    exact one ⟨reversed, Bool.eq_false_of_not_eq_true single⟩
  have behind : resultBefore second other = true → resultBefore other second = true := by
    intro reversed
    by_contra single
    exact two ⟨reversed, Bool.eq_false_of_not_eq_true single⟩
  cases start : resultBefore other first with
  | false =>
    cases finish : resultBefore second other with
    | false => exact ⟨[first, other, second], List.Perm.refl _, by simp [sortResultsList, start, finish]⟩
    | true =>
      refine ⟨[first, second, other], (List.Perm.swap other second []).cons first, ?_⟩
      simp [sortResultsList, start, behind finish]
  | true =>
    have moved := resultBefore_congr (back start) start second
    cases finish : resultBefore second other with
    | false =>
      refine ⟨[other, first, second], List.Perm.swap first other [second], ?_⟩
      simp [sortResultsList, back start, moved.1, finish]
    | true =>
      refine ⟨[second, other, first], List.reverse_perm [first, other, second], ?_⟩
      simp [sortResultsList, back start, moved.2, behind finish]

end Liblinphone
