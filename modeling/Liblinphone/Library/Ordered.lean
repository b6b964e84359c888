import Mathlib.Data.List.Sort
import Mathlib.Data.List.Perm.Subperm

/-! Lists that are put in order. A new entry goes before those that it need not follow,
and a list that is ordered by a key is known by what it holds for each key. -/

namespace Liblinphone.Library

section Inserted

variable {α : Type u} {before notAfter : α → α → Prop} [DecidableRel before]

/-- What is at the back is sorted first, and keeps its order. -/
theorem insertionSort_sublist_append (front back : List α) :
    (back.insertionSort before).Sublist ((front ++ back).insertionSort before) := by
  induction front with
  | nil => exact List.Sublist.refl _
  | cons entry rest following => exact following.trans (List.sublist_orderedInsert entry _)

section Consistent

variable (follows : ∀ first second third, notAfter first second → notAfter second third → notAfter first third)
include follows

theorem orderedInsert_pairwise {entry : α} {entries : List α}
    (soon : ∀ other ∈ entries, before entry other → notAfter entry other)
    (late : ∀ other ∈ entries, ¬before entry other → notAfter other entry) (ordered : entries.Pairwise notAfter) :
    (entries.orderedInsert before entry).Pairwise notAfter := by
  induction entries with
  | nil => exact List.pairwise_singleton _ _
  | cons other rest following =>
    obtain ⟨least, others⟩ := List.pairwise_cons.mp ordered
    rw [List.orderedInsert]
    split
    next first =>
      refine List.pairwise_cons.mpr ⟨?_, ordered⟩
      intro later member
      have start := soon other List.mem_cons_self first
      rcases List.mem_cons.mp member with rfl | beyond
      · exact start
      · exact follows entry other later start (least later beyond)
    next after =>
      have inserted := following (fun more member => soon more (List.mem_cons_of_mem other member))
        (fun more member => late more (List.mem_cons_of_mem other member)) others
      refine List.pairwise_cons.mpr ⟨?_, inserted⟩
      intro later member
      rcases (List.mem_orderedInsert before).mp member with rfl | beyond
      · exact late other List.mem_cons_self after
      · exact least later beyond

/-- The sort puts the entries in every order that the comparison never contradicts. -/
theorem insertionSort_pairwise {entries : List α}
    (soon : ∀ left ∈ entries, ∀ right ∈ entries, before left right → notAfter left right)
    (late : ∀ left ∈ entries, ∀ right ∈ entries, ¬before left right → notAfter right left) :
    (entries.insertionSort before).Pairwise notAfter := by
  induction entries with
  | nil => exact List.Pairwise.nil
  | cons entry rest following =>
    have behind : ∀ other ∈ rest.insertionSort before, other ∈ entry :: rest :=
      fun other member => List.mem_cons_of_mem entry ((List.mem_insertionSort before).mp member)
    rw [List.insertionSort_cons]
    apply orderedInsert_pairwise follows
    · exact fun other member => soon entry List.mem_cons_self other (behind other member)
    · exact fun other member => late entry List.mem_cons_self other (behind other member)
    · apply following
      · exact fun left one right two => soon left (List.mem_cons_of_mem entry one) right (List.mem_cons_of_mem entry two)
      · exact fun left one right two => late left (List.mem_cons_of_mem entry one) right (List.mem_cons_of_mem entry two)

end Consistent

section Stable

variable {selected : α → Bool} (alike : ∀ left right, selected left = true → selected right = true → before left right)
include alike

/-- A new entry goes before those that may as well come after it. -/
theorem filter_orderedInsert (entry : α) (entries : List α) :
    (entries.orderedInsert before entry).filter selected = (entry :: entries).filter selected := by
  induction entries with
  | nil => rfl
  | cons other rest following =>
    rw [List.orderedInsert]
    split
    next => rfl
    next after =>
      rw [List.filter_cons, following]
      by_cases one : selected entry = true
      · have passed : selected other ≠ true := fun two => after (alike entry other one two)
        simp only [List.filter_cons, one, passed, if_true, Bool.false_eq_true, if_false]
      · simp only [List.filter_cons, one, Bool.false_eq_true, if_false]

/-- Entries that may all come before each other are not moved past each other. -/
theorem filter_insertionSort (entries : List α) :
    (entries.insertionSort before).filter selected = entries.filter selected := by
  induction entries with
  | nil => rfl
  | cons entry rest following =>
    rw [List.insertionSort_cons, filter_orderedInsert alike, List.filter_cons, List.filter_cons, following]

/-- Entries that are inserted one after the other stand in the opposite order. -/
theorem filter_foldl_orderedInsert (added entries : List α) :
    (added.foldl (fun list entry => list.orderedInsert before entry) entries).filter selected =
      (added.filter selected).reverse ++ entries.filter selected := by
  induction added generalizing entries with
  | nil => rfl
  | cons entry rest following =>
    rw [List.foldl_cons, following, filter_orderedInsert alike, List.filter_cons, List.filter_cons]
    split
    next => simp
    next => rfl

end Stable

end Inserted

section Keyed

variable {α : Type u} {β : Type v} {key : α → β}

theorem orderedInsert_ordered [LinearOrder β] (entry : α) {entries : List α}
    (ordered : entries.Pairwise fun left right => key left ≤ key right) :
    (entries.orderedInsert (fun left right => key left ≤ key right) entry).Pairwise fun left right =>
      key left ≤ key right := by
  have total : Std.Total fun left right : α => key left ≤ key right := ⟨fun left right => le_total (key left) (key right)⟩
  have transitive : IsTrans α fun left right => key left ≤ key right := ⟨fun _ _ _ => le_trans⟩
  exact ordered.orderedInsert entry entries

/-- What is among the first ones of a list that is put in order belongs to any entries that
fill these places and whose keys are less than all others. -/
theorem mem_of_mem_take_insertionSort [LinearOrder β] {first entries : List α} {entry : α} {count : Nat}
    (distinct : first.Nodup) (many : count ≤ first.length) (within : ∀ other ∈ first, other ∈ entries)
    (least : ∀ other ∈ entries, other ∈ first ∨ ∀ chosen ∈ first, key chosen < key other)
    (taken : entry ∈ (entries.insertionSort fun left right => key left ≤ key right).take count) : entry ∈ first := by
  have total : Std.Total fun left right : α => key left ≤ key right := ⟨fun left right => le_total (key left) (key right)⟩
  have transitive : IsTrans α fun left right => key left ≤ key right := ⟨fun _ _ _ => le_trans⟩
  have ordered := List.pairwise_insertionSort (fun left right => key left ≤ key right) entries
  have known : entry ∈ entries := (List.mem_insertionSort _).mp (List.mem_of_mem_take taken)
  by_contra outside
  have larger := (least entry known).resolve_left outside
  have early : ∀ other ∈ first, other ∈ (entries.insertionSort fun left right => key left ≤ key right).take count := by
    intro other member
    have sorted := (List.mem_insertionSort fun left right => key left ≤ key right).mpr (within other member)
    rw [← List.take_append_drop count (entries.insertionSort _)] at sorted ordered
    rcases List.mem_append.mp sorted with early | late
    · exact early
    · have order := (List.pairwise_append.mp ordered).2.2 entry taken other late
      exact absurd (larger other member) (not_lt.mpr order)
  have places := (List.subperm_of_subset (List.nodup_cons.mpr ⟨outside, distinct⟩)
    (List.cons_subset.mpr ⟨taken, early⟩)).length_le
  rw [List.length_cons, List.length_take] at places
  omega

variable [PartialOrder β] [DecidableEq β]

/-- A chain that is in order stands in a list that is in order, once what it has of each
key does. -/
theorem sublist_of_keys {chain entries : List α} (ordered : entries.Pairwise fun left right => key left ≤ key right)
    (rising : chain.Pairwise fun left right => key left ≤ key right)
    (keys : ∀ wanted, (chain.filter fun entry => key entry = wanted).Sublist entries) : chain.Sublist entries := by
  induction entries generalizing chain with
  | nil =>
    cases chain with
    | nil => exact List.Sublist.refl []
    | cons first rest => simpa using keys (key first)
  | cons entry others following =>
    obtain ⟨least, sorted⟩ := List.pairwise_cons.mp ordered
    cases chain with
    | nil => exact List.nil_sublist _
    | cons first rest =>
      obtain ⟨low, later⟩ := List.pairwise_cons.mp rising
      by_cases same : first = entry
      · subst same
        refine (following sorted later ?_).cons_cons first
        intro wanted
        have within := keys wanted
        rw [List.filter_cons] at within
        split at within
        next => exact List.cons_sublist_cons.mp within
        next other =>
          rcases List.sublist_cons_iff.mp within with beyond | ⟨inner, equal, -⟩
          · exact beyond
          · have member : first ∈ rest.filter fun entry => key entry = wanted := equal ▸ List.mem_cons_self
            exact absurd (List.mem_filter.mp member).2 other
      · refine (following sorted rising ?_).cons entry
        intro wanted
        rcases List.sublist_cons_iff.mp (keys wanted) with beyond | ⟨inner, equal, -⟩
        · exact beyond
        · exfalso
          have found : first ∈ entry :: others := (keys (key first)).subset (by simp)
          have above : key entry ≤ key first := least first ((List.mem_cons.mp found).resolve_left same)
          have member : entry ∈ (first :: rest).filter fun entry => key entry = wanted := equal ▸ List.mem_cons_self
          obtain ⟨inside, reached⟩ := List.mem_filter.mp member
          have below : key first ≤ key entry := low entry ((List.mem_cons.mp inside).resolve_left (Ne.symm same))
          have head : key first = wanted := (le_antisymm below above).trans (of_decide_eq_true reached)
          rw [List.filter_cons, if_pos (decide_eq_true head)] at equal
          exact same (List.cons.inj equal).1

/-- Two lists in order are equal once they are for each key. -/
theorem eq_of_filter_eq {first second : List α} (left : first.Pairwise fun entry later => key entry ≤ key later)
    (right : second.Pairwise fun entry later => key entry ≤ key later)
    (same : ∀ wanted, first.filter (fun entry => key entry = wanted) = second.filter fun entry => key entry = wanted) :
    first = second := by
  apply List.Sublist.antisymm
  · exact sublist_of_keys right left fun wanted => same wanted ▸ List.filter_sublist
  · exact sublist_of_keys left right fun wanted => (same wanted).symm ▸ List.filter_sublist

end Keyed

section Places

variable {α : Type u} {β : Type v}

/-- Where the first hit is in a list. -/
theorem findIdx?_split {hits : α → Bool} {entries : List α} {index : Nat} (found : entries.findIdx? hits = some index) :
    ∃ before hit after, entries = before ++ hit :: after ∧ before.length = index ∧ hits hit = true ∧
      ∀ other ∈ before, hits other = false := by
  induction entries generalizing index with
  | nil => simp at found
  | cons entry rest following =>
    rw [List.findIdx?_cons] at found
    split at found
    next hit =>
      cases found
      exact ⟨[], entry, rest, rfl, rfl, hit, fun _ member => absurd member List.not_mem_nil⟩
    next missed =>
      obtain ⟨place, later, rfl⟩ := Option.map_eq_some_iff.mp found
      obtain ⟨before, hit, after, rfl, rfl, holds, others⟩ := following later
      refine ⟨entry :: before, hit, after, rfl, rfl, holds, ?_⟩
      intro other member
      rcases List.mem_cons.mp member with rfl | member
      · exact Bool.eq_false_iff.mpr missed
      · exact others other member

theorem insertIdx_length (front back : List α) (entry : α) :
    (front ++ back).insertIdx front.length entry = front ++ entry :: back := by
  induction front with
  | nil => simp
  | cons first rest following => simpa using following

/-- An entry that goes before the predecessor of the first greater one keeps the order only when
it is not greater than the predecessor. -/
theorem pairwise_insert_iff [Preorder β] {key : α → β} {front after : List α} {entry predecessor hit : α}
    (ordered : (front ++ predecessor :: hit :: after).Pairwise fun left right => key left ≤ key right)
    (before : ∀ other ∈ front, key other ≤ key entry) (later : key entry < key hit) :
    ((front ++ entry :: predecessor :: hit :: after).Pairwise fun left right => key left ≤ key right) ↔
      key entry ≤ key predecessor := by
  obtain ⟨fronts, backs, across⟩ := List.pairwise_append.mp ordered
  obtain ⟨least, tail⟩ := List.pairwise_cons.mp backs
  constructor
  · intro inserted
    have moved := (List.pairwise_append.mp inserted).2.1
    exact (List.pairwise_cons.mp moved).1 predecessor List.mem_cons_self
  · intro small
    refine List.pairwise_append.mpr ⟨fronts, List.pairwise_cons.mpr ⟨?_, backs⟩, ?_⟩
    · intro other member
      rcases List.mem_cons.mp member with rfl | member
      · exact small
      · exact small.trans (least other member)
    · intro early inside other member
      rcases List.mem_cons.mp member with rfl | member
      · exact before early inside
      · exact across early inside other member

end Places

end Liblinphone.Library
