import Mathlib.Data.List.Basic
import Mathlib.Data.List.Pairwise

/-! Loops that carry a state. `search` tries candidates in order until one of
them succeeds, and a failed try may leave the state changed for the next one. -/

namespace Liblinphone.Library

variable {σ : Type u} {ι : Type v} {β : Type w}

def search (attempt : σ → ι → Option β × σ) (state : σ) : List ι → Option (ι × β) × σ
  | [] => (none, state)
  | candidate :: rest =>
    match attempt state candidate with
    | (some value, next) => (some (candidate, value), next)
    | (none, next) => search attempt next rest

/-- What every failed try preserves holds when the successful try starts. -/
theorem search_some {attempt : σ → ι → Option β × σ} (kept : σ → Prop)
    {candidates : List ι} {state final : σ} {found : ι} {value : β}
    (preserved : ∀ current candidate, candidate ∈ candidates → kept current →
      (attempt current candidate).1 = none → kept (attempt current candidate).2)
    (start : kept state) (succeeded : search attempt state candidates = (some (found, value), final)) :
    ∃ before, kept before ∧ found ∈ candidates ∧ attempt before found = (some value, final) := by
  induction candidates generalizing state with
  | nil => simp [search] at succeeded
  | cons candidate rest ih =>
    simp only [search] at succeeded
    split at succeeded
    next answer next tried =>
      simp only [Prod.mk.injEq, Option.some.injEq] at succeeded
      obtain ⟨⟨rfl, rfl⟩, rfl⟩ := succeeded
      exact ⟨state, start, by simp, tried⟩
    next next tried =>
      have onward : kept next := by
        have := preserved state candidate (by simp) start (by simp [tried])
        simpa [tried] using this
      obtain ⟨before, holds, member, success⟩ :=
        ih (fun current other member => preserved current other (by simp [member])) onward succeeded
      exact ⟨before, holds, by simp [member], success⟩

/-- What every failed try preserves holds after a search that found nothing,
and every candidate failed from a state where it held. -/
theorem search_none {attempt : σ → ι → Option β × σ} (kept : σ → Prop)
    {candidates : List ι} {state final : σ}
    (preserved : ∀ current candidate, candidate ∈ candidates → kept current →
      (attempt current candidate).1 = none → kept (attempt current candidate).2)
    (start : kept state) (failed : search attempt state candidates = (none, final)) :
    kept final ∧ ∀ candidate ∈ candidates, ∃ before, kept before ∧ (attempt before candidate).1 = none := by
  induction candidates generalizing state with
  | nil =>
    simp only [search, Prod.mk.injEq, true_and] at failed
    subst failed
    exact ⟨start, by simp⟩
  | cons candidate rest ih =>
    simp only [search] at failed
    split at failed
    next answer next tried => simp at failed
    next next tried =>
      have onward : kept next := by
        have := preserved state candidate (by simp) start (by simp [tried])
        simpa [tried] using this
      obtain ⟨last, others⟩ :=
        ih (fun current other member => preserved current other (by simp [member])) onward failed
      refine ⟨last, ?_⟩
      intro other member
      rcases List.mem_cons.mp member with rfl | later
      · exact ⟨state, start, by simp [tried]⟩
      · exact others other later

/-- When failed tries leave the state alone, the search gives the first
candidate that succeeds from the state it started with. -/
theorem search_unchanged {attempt : σ → ι → Option β × σ} {candidates : List ι} {state : σ}
    (unchanged : ∀ candidate ∈ candidates, (attempt state candidate).1 = none → (attempt state candidate).2 = state) :
    search attempt state candidates =
      (candidates.find? (fun candidate => (attempt state candidate).1.isSome)).elim (none, state)
        fun candidate => ((attempt state candidate).1.map (candidate, ·), (attempt state candidate).2) := by
  induction candidates with
  | nil => rfl
  | cons candidate rest ih =>
    have later := ih (fun other member => unchanged other (by simp [member]))
    have first := unchanged candidate (by simp)
    simp only [search, List.find?_cons]
    rcases tried : attempt state candidate with ⟨_ | value, next⟩
    · simp only [tried, forall_const] at first
      subst first
      simpa using later
    · simp [tried]

/-- When failed tries do not change which candidates succeed, the search finds the
first one that does. -/
theorem search_find {attempt : σ → ι → Option β × σ} (kept : σ → Prop) (succeeds : ι → Bool) {candidates : List ι}
    {state : σ}
    (preserved : ∀ current candidate, candidate ∈ candidates → kept current →
      (attempt current candidate).1 = none → kept (attempt current candidate).2)
    (same : ∀ current candidate, candidate ∈ candidates → kept current →
      (attempt current candidate).1.isSome = succeeds candidate)
    (start : kept state) : (search attempt state candidates).1.map Prod.fst = candidates.find? succeeds := by
  induction candidates generalizing state with
  | nil => rfl
  | cons candidate rest ih =>
    have first := same state candidate (by simp) start
    have onward := preserved state candidate (by simp) start
    simp only [search, List.find?_cons]
    rcases tried : attempt state candidate with ⟨_ | value, next⟩
    · simp only [tried, Option.isSome_none] at first
      simp only [tried, forall_const] at onward
      simp only [← first]
      exact ih (fun current other member => preserved current other (by simp [member]))
        (fun current other member => same current other (by simp [member])) onward
    · simp only [tried, Option.isSome_some] at first
      simp [← first]

/-- The first pair that is found has the first outer value for which there is one. -/
theorem find?_pairs {κ : Type u} {outer : List ι} {inner : List κ} {found : κ × ι → Bool} {left : κ} {right : ι}
    (first : (outer.flatMap fun item => inner.map fun other => (other, item)).find? found = some (left, right)) :
    outer.find? (fun item => inner.any fun other => found (other, item)) = some right := by
  induction outer with
  | nil => simp at first
  | cons item rest ih =>
    rw [List.flatMap_cons, List.find?_append, List.find?_map] at first
    rw [List.find?_cons]
    cases hit : inner.find? (found ∘ fun other => (other, item)) with
    | none =>
      have missed : (inner.any fun other => found (other, item)) = false := by
        simpa [Function.comp_def] using List.find?_eq_none.mp hit
      rw [hit, Option.map_none, Option.none_or] at first
      rw [missed]
      exact ih first
    | some other =>
      have present : (inner.any fun other => found (other, item)) = true :=
        List.any_eq_true.mpr ⟨other, List.mem_of_find?_eq_some hit, by simpa using List.find?_some hit⟩
      rw [hit, Option.map_some, Option.some_or] at first
      have pair : (other, item) = (left, right) := Option.some.inj first
      rw [present]
      exact congrArg some (Prod.mk.inj pair).2

/-- Changing the values of a table, each under its key, changes what is found. -/
theorem lookup_map_values {κ : Type v} [BEq κ] [LawfulBEq κ] (change : κ → β → γ) (key : κ) (entries : List (κ × β)) :
    (entries.map fun entry => (entry.1, change entry.1 entry.2)).lookup key = (entries.lookup key).map (change key) := by
  induction entries with
  | nil => rfl
  | cons entry rest ih =>
    obtain ⟨other, value⟩ := entry
    simp only [List.map_cons, List.lookup_cons]
    by_cases same : key = other
    · simp [same]
    · rw [beq_false_of_ne same]
      exact ih

/-- A table with one entry for each key finds every entry. -/
theorem lookup_of_mem {κ : Type v} [BEq κ] [LawfulBEq κ] {entries : List (κ × β)} (unique : (entries.map Prod.fst).Nodup)
    {key : κ} {value : β} (member : (key, value) ∈ entries) : entries.lookup key = some value := by
  induction entries with
  | nil => cases member
  | cons entry rest ih =>
    obtain ⟨other, found⟩ := entry
    rw [List.map_cons, List.nodup_cons] at unique
    rw [List.lookup_cons]
    rcases List.mem_cons.mp member with same | later
    · cases same
      simp
    · have different : key ≠ other := fun same => unique.1 (List.mem_map.mpr ⟨_, later, same⟩)
      rw [beq_false_of_ne different]
      exact ih unique.2 later

/-- A loop over a list, with an invariant on the part of the list it has handled. -/
theorem foldl_prefix_induction (body : σ → ι → σ) (state : σ) (items : List ι) (invariant : List ι → σ → Prop)
    (start : invariant [] state)
    (step : ∀ done item current, item ∈ items → invariant done current →
      invariant (done ++ [item]) (body current item)) :
    invariant items (items.foldl body state) := by
  suffices general : ∀ rest done current, done ++ rest = items → invariant done current →
      invariant items (rest.foldl body current) from general items [] state rfl start
  intro rest
  induction rest with
  | nil =>
    intro done current whole holds
    rw [List.append_nil] at whole
    rw [← whole]
    exact holds
  | cons item rest ih =>
    intro done current whole holds
    have member : item ∈ items := by simp [← whole]
    exact ih (done ++ [item]) (body current item) (by simpa using whole) (step done item current member holds)

/-- A loop over the indexes below `count`, with an invariant on how far it got. -/
theorem range_foldl_induction (body : σ → Nat → σ) (state : σ) (count : Nat) (invariant : Nat → σ → Prop)
    (start : invariant 0 state)
    (step : ∀ index current, index < count → invariant index current → invariant (index + 1) (body current index)) :
    invariant count ((List.range count).foldl body state) := by
  induction count with
  | zero => exact start
  | succ count ih =>
    rw [List.range_succ, List.foldl_append]
    exact step count _ (by omega) (ih (fun index current inside => step index current (by omega)))

section Picking

variable {α : Type u} {hit wanted : α → Bool} {same : α → α → Bool} {seen known entries : List α} {entry : α}

/-- The first hit of each kind that was not seen before. -/
def pickFirst (hit : α → Bool) (same : α → α → Bool) (seen : List α) : List α → List α
  | [] => []
  | entry :: rest =>
    if hit entry && !seen.any (same entry) then entry :: pickFirst hit same (seen ++ [entry]) rest
    else pickFirst hit same seen rest

theorem mem_pickFirst (trans : ∀ first second third, same first second = true → same second third = true →
    same first third = true) :
    entry ∈ pickFirst hit same seen entries ↔ ∃ before after, entries = before ++ entry :: after ∧ hit entry = true ∧
      seen.any (same entry) = false ∧ ∀ other ∈ before, hit other = true → same entry other = false := by
  induction entries generalizing seen with
  | nil => simp [pickFirst]
  | cons first rest ih =>
    unfold pickFirst
    by_cases picked : (hit first && !seen.any (same first)) = true
    · rw [if_pos picked]
      simp only [Bool.and_eq_true, Bool.not_eq_true'] at picked
      obtain ⟨hits, unseen⟩ := picked
      constructor
      · intro member
        rcases List.mem_cons.mp member with rfl | later
        · exact ⟨[], rest, rfl, hits, unseen, by simp⟩
        · obtain ⟨before, after, split, found, fresh, earlier⟩ := ih.mp later
          rw [List.any_append, Bool.or_eq_false_iff] at fresh
          refine ⟨first :: before, after, by rw [split, List.cons_append], found, fresh.1, ?_⟩
          intro other inside
          rcases List.mem_cons.mp inside with rfl | between
          · intro
            simpa using fresh.2
          · exact earlier other between
      · rintro ⟨before, after, split, found, fresh, earlier⟩
        cases before with
        | nil =>
          obtain ⟨rfl, rfl⟩ := List.cons.inj split
          exact List.mem_cons_self
        | cons other before =>
          obtain ⟨rfl, rfl⟩ := List.cons.inj split
          have apart := earlier first List.mem_cons_self hits
          refine List.mem_cons_of_mem _ (ih.mpr ⟨before, after, rfl, found, ?_, ?_⟩)
          · simp [List.any_append, fresh, apart]
          · exact fun other inside => earlier other (List.mem_cons_of_mem _ inside)
    · rw [if_neg picked, ih]
      constructor
      · rintro ⟨before, after, split, found, fresh, earlier⟩
        refine ⟨first :: before, after, by rw [split, List.cons_append], found, fresh, ?_⟩
        intro other inside hits
        rcases List.mem_cons.mp inside with rfl | between
        · have seenBefore : seen.any (same other) = true := by simpa [hits] using picked
          obtain ⟨old, member, alike⟩ := List.any_eq_true.mp seenBefore
          by_contra equal
          have reached := trans entry other old (by simpa using equal) alike
          rw [List.any_eq_false] at fresh
          exact fresh old member reached
        · exact earlier other between hits
      · rintro ⟨before, after, split, found, fresh, earlier⟩
        cases before with
        | nil =>
          obtain ⟨rfl, rfl⟩ := List.cons.inj split
          exact absurd (by simp [found, fresh]) picked
        | cons other before =>
          obtain ⟨rfl, rfl⟩ := List.cons.inj split
          exact ⟨before, after, rfl, found, fresh, fun other inside => earlier other (List.mem_cons_of_mem _ inside)⟩

theorem pickFirst_append (hit : α → Bool) (same : α → α → Bool) (seen first second : List α) :
    pickFirst hit same seen (first ++ second) =
      pickFirst hit same seen first ++ pickFirst hit same (seen ++ pickFirst hit same seen first) second := by
  induction first generalizing seen with
  | nil => simp [pickFirst]
  | cons entry rest ih =>
    rw [List.cons_append, pickFirst, pickFirst]
    split
    next => rw [ih, List.cons_append, List.append_assoc, List.singleton_append]
    next => rw [ih]

theorem pickFirst_unseen (member : entry ∈ pickFirst hit same seen entries) : seen.any (same entry) = false := by
  induction entries generalizing seen with
  | nil => simp [pickFirst] at member
  | cons first rest ih =>
    unfold pickFirst at member
    split at member
    next picked =>
      rcases List.mem_cons.mp member with rfl | later
      · simp only [Bool.and_eq_true, Bool.not_eq_true'] at picked
        exact picked.2
      · have fresh := ih later
        rw [List.any_append, Bool.or_eq_false_iff] at fresh
        exact fresh.1
    next => exact ih member

/-- Two picked entries of one kind are the same one. -/
theorem pickFirst_unique (symm : ∀ first second, same first second = same second first) {other : α}
    (member : entry ∈ pickFirst hit same seen entries) (inside : other ∈ pickFirst hit same seen entries)
    (alike : same entry other = true) : entry = other := by
  have apart : (pickFirst hit same seen entries).Pairwise fun first second => same first second = true → first = second := by
    clear member inside alike
    induction entries generalizing seen with
    | nil => exact List.Pairwise.nil
    | cons first rest ih =>
      unfold pickFirst
      split
      next =>
        refine List.Pairwise.cons ?_ ih
        intro second later equal
        have fresh := pickFirst_unseen later
        rw [symm first second] at equal
        simp [List.any_append, equal] at fresh
      next => exact ih
  have swapped : Std.Symm fun first second => same first second = true → first = second :=
    ⟨fun first second equal reached => (equal (by rw [symm, reached])).symm⟩
  exact List.Pairwise.forall_of_forall (fun _ _ _ => rfl) apart member inside alike

/-- When the kinds are hit alike, the second picking is what the first one leaves of it. -/
theorem mem_pickFirst_again (trans : ∀ first second third, same first second = true → same second third = true →
    same first third = true)
    (covered : ∀ entry ∈ entries, wanted entry = true → known.any (same entry) = false →
      hit entry = true ∧ seen.any (same entry) = false)
    (unknown : ∀ entry ∈ entries, hit entry = true → wanted entry = true → seen.any (same entry) = false →
      known.any (same entry) = false)
    (alike : ∀ entry ∈ entries, ∀ other ∈ entries, same entry other = true → hit other = true → wanted entry = true →
      wanted other = true) :
    entry ∈ pickFirst wanted same known entries ↔ entry ∈ pickFirst hit same seen entries ∧ wanted entry = true := by
  rw [mem_pickFirst trans, mem_pickFirst trans]
  constructor
  · rintro ⟨before, after, rfl, found, fresh, earlier⟩
    obtain ⟨hits, unseen⟩ := covered entry (by simp) found fresh
    refine ⟨⟨before, after, rfl, hits, unseen, ?_⟩, found⟩
    intro other inside otherHit
    by_contra equal
    rw [Bool.not_eq_false] at equal
    have also := alike entry (by simp) other (by simp [inside]) equal otherHit found
    rw [earlier other inside also] at equal
    exact Bool.noConfusion equal
  · rintro ⟨⟨before, after, rfl, hits, unseen, earlier⟩, found⟩
    have fresh := unknown entry (by simp) hits found unseen
    refine ⟨before, after, rfl, found, fresh, ?_⟩
    intro other inside also
    by_contra equal
    rw [Bool.not_eq_false] at equal
    have otherFresh : known.any (same other) = false := by
      rw [List.any_eq_false] at fresh ⊢
      intro old member reached
      exact fresh old member (trans entry other old equal reached)
    obtain ⟨otherHit, -⟩ := covered other (by simp [inside]) also otherFresh
    rw [earlier other inside otherHit] at equal
    exact Bool.noConfusion equal

end Picking

end Liblinphone.Library
