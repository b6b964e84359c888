import Liblinphone.Conference
import Liblinphone.Library.Neighbours

/-! Adding several participants to a conference. Who is in it afterwards depends neither
on the order of the addresses nor on how often they are given. What is reported does. -/

namespace Liblinphone.Conference

open Library

variable {escapedUsername : Text → Text}

/-- What the participants of a conference are told apart by. -/
def keys (conference : Conference) : List (Option String × String × Nat) := conference.participants.map Participant.key

theorem findParticipant_isSome (conference : Conference) (address : Address) :
    (findParticipant conference.participants address).isSome = true ↔ address.weakKey ∈ conference.keys := by
  rw [findParticipant_eq, findKey, List.find?_isSome]
  simp [keys]

/-- An address is added when it is new, at the end. -/
theorem addParticipant_cases (conference : Conference) (address : Address) :
    (address.weakKey ∈ conference.keys ∧ conference.addParticipant address = (conference, false)) ∨
    (address.weakKey ∉ conference.keys ∧ ∃ participant after, participant.key = address.weakKey ∧
      conference.addParticipant address = (after, true) ∧ after.participants = conference.participants ++ [participant]) := by
  rw [← findParticipant_isSome]
  unfold addParticipant
  cases findParticipant conference.participants address with
  | some participant => exact .inl ⟨rfl, rfl⟩
  | none => exact .inr ⟨by simp, _, _, rfl, rfl, rfl⟩

/-- What a run adds: each address that is new, once. -/
structure Adds (addresses : List Address) (before after : Conference × Bool) : Prop where
  keys : ∀ key, key ∈ after.1.keys ↔ key ∈ before.1.keys ∨ key ∈ addresses.map Address.weakKey
  once : ∃ added, after.1.participants = before.1.participants ++ added ∧ (added.map Participant.key).Nodup ∧
    ∀ participant ∈ added, participant.key ∉ before.1.keys
  reported : after.2 = true ↔ before.2 = true ∧ (∀ address ∈ addresses, address.weakKey ∉ before.1.keys) ∧
    (addresses.map Address.weakKey).Nodup

section Adds

variable {address : Address} {rest : List Address} {before after : Conference × Bool}

/-- An address that is there is not added, and that is reported. -/
theorem Adds.skip (present : address.weakKey ∈ before.1.keys) (adds : Adds rest (before.1, false) after) :
    Adds (address :: rest) before after := by
  obtain ⟨keysAfter, once, reported⟩ := adds
  refine ⟨?_, once, ?_⟩
  · intro key
    rw [keysAfter, List.map_cons, List.mem_cons]
    constructor
    · rintro (old | later)
      · exact .inl old
      · exact .inr (.inr later)
    · rintro (old | rfl | later)
      · exact .inl old
      · exact .inl present
      · exact .inr later
  · rw [reported]
    exact iff_of_false (fun all => Bool.false_ne_true all.1) fun all => all.2.1 address List.mem_cons_self present

/-- A new address is added before the others. -/
theorem Adds.grow {grown : Conference} {participant : Participant} (absent : address.weakKey ∉ before.1.keys)
    (named : participant.key = address.weakKey) (appended : grown.participants = before.1.participants ++ [participant])
    (adds : Adds rest (grown, before.2) after) : Adds (address :: rest) before after := by
  obtain ⟨keysAfter, ⟨added, more, distinct, new⟩, reported⟩ := adds
  have grownKeys : ∀ key, key ∈ grown.keys ↔ key ∈ before.1.keys ∨ key = address.weakKey := by
    intro key
    rw [Conference.keys, appended, List.map_append, List.map_singleton, named, List.mem_append, List.mem_singleton]
    rfl
  refine ⟨?_, ⟨participant :: added, ?_, ?_, ?_⟩, ?_⟩
  · intro key
    rw [keysAfter, grownKeys, List.map_cons, List.mem_cons, or_assoc]
  · rw [more, appended, List.append_assoc, List.singleton_append]
  · rw [List.map_cons, List.nodup_cons]
    refine ⟨?_, distinct⟩
    intro again
    obtain ⟨other, member, equal⟩ := List.mem_map.mp again
    exact new other member ((grownKeys other.key).mpr (.inr (equal.trans named)))
  · intro other member
    rcases List.mem_cons.mp member with rfl | later
    · rwa [named]
    · exact fun old => new other later ((grownKeys other.key).mpr (.inl old))
  · simp only [reported, grownKeys, not_or, List.map_cons, List.nodup_cons, List.mem_cons, forall_eq_or_imp,
      List.mem_map, not_exists, not_and]
    constructor
    · intro ⟨fine, others, twice⟩
      exact ⟨fine, ⟨absent, fun other member => (others other member).1⟩,
        fun other member => (others other member).2, twice⟩
    · intro ⟨fine, ⟨_, others⟩, once, twice⟩
      exact ⟨fine, fun other member => ⟨others other member, once other member⟩, twice⟩

end Adds

theorem foldl_addNext (addresses : List Address) (soFar : Conference × Bool) :
    Adds addresses soFar (addresses.foldl addNext soFar) := by
  induction addresses generalizing soFar with
  | nil => exact ⟨by simp, ⟨[], by simp⟩, by simp⟩
  | cons address rest following =>
    rw [List.foldl_cons]
    rcases addParticipant_cases soFar.1 address with ⟨present, same⟩ | ⟨absent, participant, grown, named, same, appended⟩
    · have next : addNext soFar address = (soFar.1, false) := by
        rw [addNext, same, Bool.and_false]
      rw [next]
      exact .skip present (following (soFar.1, false))
    · have next : addNext soFar address = (grown, soFar.2) := by
        rw [addNext, same, Bool.and_true]
      rw [next]
      exact .grow absent named appended (following (grown, soFar.2))

section Unique

variable (escapedUsername) (addresses : List Address)

theorem mem_sortedAddresses (address : Address) : address ∈ sortedAddresses escapedUsername addresses ↔ address ∈ addresses :=
  List.mem_insertionSort _

theorem map_uniqueAddresses :
    (uniqueAddresses escapedUsername addresses).map Address.weakKey =
      ((sortedAddresses escapedUsername addresses).map Address.weakKey).destutter (· ≠ ·) := by
  apply List.map_destutter
  intro left _ right _
  rw [Address.weakEqual_eq_key, decide_eq_false_iff_not]

theorem mem_map_uniqueAddresses (key : Option String × String × Nat) :
    key ∈ (uniqueAddresses escapedUsername addresses).map Address.weakKey ↔ key ∈ addresses.map Address.weakKey := by
  rw [map_uniqueAddresses, mem_destutter, List.mem_map, List.mem_map]
  simp only [mem_sortedAddresses]

/-- Two of the sorted addresses are weakly equal, and one that is not stands between them. -/
def Separated : Prop :=
  ∃ first other second, [first, other, second].Sublist (sortedAddresses escapedUsername addresses) ∧
    first.weakEqual second = true ∧ first.weakEqual other = false

theorem nodup_uniqueAddresses_iff :
    ((uniqueAddresses escapedUsername addresses).map Address.weakKey).Nodup ↔ ¬Separated escapedUsername addresses := by
  rw [map_uniqueAddresses, List.nodup_iff_sublist, ← not_exists, not_iff_not]
  simp only [twice_destutter_map_iff, Separated, Address.weakEqual_eq_key, decide_eq_true_eq, decide_eq_false_iff_not]
  constructor
  · rintro ⟨key, first, other, second, within, one, different, two⟩
    exact ⟨first, other, second, within, one.trans two.symm, fun same => different (same.symm.trans one)⟩
  · rintro ⟨first, other, second, within, equal, different⟩
    exact ⟨first.weakKey, first, other, second, within, rfl, fun same => different same.symm, equal.symm⟩

end Unique

/-- Both conferences have the same participants. -/
def SameParticipants (left right : Conference) : Prop :=
  ∀ address, (findParticipant left.participants address).isSome = (findParticipant right.participants address).isSome

/-- Each address of the one list is weakly equal to one of the other, in any order and any number. -/
def SameAddresses (addresses others : List Address) : Prop :=
  (∀ address ∈ addresses, ∃ other ∈ others, address.weakEqual other = true) ∧
    ∀ other ∈ others, ∃ address ∈ addresses, address.weakEqual other = true

theorem SameAddresses.mem_iff {addresses others : List Address} (same : SameAddresses addresses others)
    (key : Option String × String × Nat) : key ∈ addresses.map Address.weakKey ↔ key ∈ others.map Address.weakKey := by
  simp only [SameAddresses, Address.weakEqual_eq_key, decide_eq_true_eq] at same
  simp only [List.mem_map]
  constructor
  · rintro ⟨address, member, rfl⟩
    obtain ⟨other, inside, equal⟩ := same.1 address member
    exact ⟨other, inside, equal.symm⟩
  · rintro ⟨other, member, rfl⟩
    exact same.2 other member

/-- What is expected of adding several addresses. -/
structure AddsAll (escapedUsername : Text → Text) (conference : Conference) (addresses : List Address) : Prop where
  order : ∀ others, SameAddresses addresses others →
    SameParticipants (conference.addParticipants escapedUsername addresses).1
      (conference.addParticipants escapedUsername others).1
  once : ∃ added, (conference.addParticipants escapedUsername addresses).1.participants = conference.participants ++ added ∧
    added.Pairwise (fun one other => one.address.weakEqual other.address = false) ∧
    ∀ participant ∈ added, findParticipant conference.participants participant.address = none
  reported : (conference.addParticipants escapedUsername addresses).2 = true ↔
    ∀ address ∈ addresses, findParticipant conference.participants address = none

theorem findParticipant_none (conference : Conference) (address : Address) :
    findParticipant conference.participants address = none ↔ address.weakKey ∉ conference.keys := by
  rw [← findParticipant_isSome, Bool.not_eq_true, Option.isSome_eq_false_iff, Option.isNone_iff_eq_none]

section AddParticipants

variable (escapedUsername : Text → Text) (conference : Conference) (addresses : List Address)

theorem mem_keys_addParticipants (key : Option String × String × Nat) :
    key ∈ (conference.addParticipants escapedUsername addresses).1.keys ↔
      key ∈ conference.keys ∨ key ∈ addresses.map Address.weakKey := by
  rw [← mem_map_uniqueAddresses escapedUsername]
  exact (foldl_addNext (uniqueAddresses escapedUsername addresses) (conference, true)).keys key

/-- The order of the addresses and their number make no difference to who is there. -/
theorem sameParticipants_addParticipants {others : List Address} (same : SameAddresses addresses others) :
    SameParticipants (conference.addParticipants escapedUsername addresses).1
      (conference.addParticipants escapedUsername others).1 := by
  intro address
  rw [Bool.eq_iff_iff, findParticipant_isSome, findParticipant_isSome, mem_keys_addParticipants,
    mem_keys_addParticipants, same.mem_iff]

theorem addParticipants_once :
    ∃ added, (conference.addParticipants escapedUsername addresses).1.participants = conference.participants ++ added ∧
      added.Pairwise (fun one other => one.address.weakEqual other.address = false) ∧
      ∀ participant ∈ added, findParticipant conference.participants participant.address = none := by
  obtain ⟨added, appended, distinct, new⟩ :=
    (foldl_addNext (uniqueAddresses escapedUsername addresses) (conference, true)).once
  refine ⟨added, appended, ?_, ?_⟩
  · rw [List.Nodup, List.pairwise_map] at distinct
    simp only [Address.weakEqual_eq_key, decide_eq_false_iff_not]
    exact distinct
  · intro participant member
    rw [findParticipant_none]
    exact new participant member

/-- What is reported also says that no two equal addresses were left in the list. -/
theorem addParticipants_reported :
    (conference.addParticipants escapedUsername addresses).2 = true ↔
      (∀ address ∈ addresses, findParticipant conference.participants address = none) ∧
        ¬Separated escapedUsername addresses := by
  have reported := (foldl_addNext (uniqueAddresses escapedUsername addresses) (conference, true)).reported
  rw [nodup_uniqueAddresses_iff, ← List.forall_mem_map (P := fun key => key ∉ conference.keys)] at reported
  simp only [mem_map_uniqueAddresses, true_and] at reported
  rw [addParticipants, reported, List.forall_mem_map]
  simp only [findParticipant_none]

/-- All is as expected unless new addresses are separated in the list. -/
theorem adds_all_iff :
    AddsAll escapedUsername conference addresses ↔
      (∃ address ∈ addresses, (findParticipant conference.participants address).isSome = true) ∨
        ¬Separated escapedUsername addresses := by
  have reported := addParticipants_reported escapedUsername conference addresses
  constructor
  · intro all
    by_cases new : ∀ address ∈ addresses, findParticipant conference.participants address = none
    · exact .inr (reported.mp (all.reported.mpr new)).2
    · push Not at new
      obtain ⟨address, member, found⟩ := new
      exact .inl ⟨address, member, Option.isSome_iff_ne_none.mpr found⟩
  · intro condition
    refine ⟨fun others same => sameParticipants_addParticipants escapedUsername conference addresses same,
      addParticipants_once escapedUsername conference addresses, ?_⟩
    rw [reported]
    refine ⟨And.left, fun new => ⟨new, ?_⟩⟩
    rcases condition with ⟨address, member, found⟩ | together
    · rw [new address member] at found
      exact Bool.noConfusion found
    · exact together

end AddParticipants

/-- An address with a parameter comes after those of longer domains. -/
theorem separated_reported : ¬ ∀ (escapedUsername : Text → Text) (conference : Conference) (addresses : List Address),
    AddsAll escapedUsername conference addresses := by
  intro all
  have added := (all id {} [{ username := some "a", domain := "d" }, { username := some "a", domain := "d.e" },
    { username := some "a", domain := "d", uriParams := [("x", "1")] }]).reported.mpr fun _ _ => rfl
  exact absurd added (by decide)

end Liblinphone.Conference
