import Liblinphone.Library.Run
import Liblinphone.PresencePersons

/-! The activity that a presence reports. Activities of a person are kept from the most recent one
on, but persons from the oldest one on, so that the oldest person is the one that is reported. -/

namespace Liblinphone

open Library

theorem PresenceModel.nthActivity_eq (persons : List PresencePerson) : ∀ index : Nat,
    PresenceModel.nthActivity persons index = (persons.flatMap PresencePerson.activities)[index]? := by
  induction persons with
  | nil => exact fun index => rfl
  | cons person rest ih =>
    intro index
    rw [PresenceModel.nthActivity, List.flatMap_cons]
    split
    next inside => rw [List.getElem?_append_left inside]
    next beyond => rw [ih, List.getElem?_append_right (by omega)]

theorem PresenceModel.getNbActivities_eq (model : PresenceModel) :
    model.getNbActivities = (model.persons.flatMap PresencePerson.activities).length :=
  List.length_flatMap.symm

/-- What was done: the persons that were added, and the activities of each person, the oldest
first. -/
structure ActivityLog (ρ : Type u) where
  persons : List ρ := []
  added : ρ → List PresenceActivity

namespace ActivityLog

variable {ρ : Type u}

section Properties

variable (log : ActivityLog ρ) (times : ρ → Int)

def Active (person : ρ) : Prop := person ∈ log.persons ∧ log.added person ≠ []

/-- The last activity of a person whose time is the greatest of all that have activities. -/
def MostRecent (activity : PresenceActivity) : Prop :=
  ∃ person, log.Active person ∧ (log.added person).getLast? = some activity ∧ ∀ other, log.Active other → times other ≤ times person

/-- Persons with activities all have one time. -/
def OneTime : Prop := ∀ first second, log.Active first → log.Active second → times first = times second

/-- A person gets into the presence with activities, or gets one there, at the time of the others. -/
def AtOneTime (log : ActivityLog ρ) : PersonOperation ρ → Prop
  | .addPerson person => log.added person ≠ [] → ∀ other, log.Active other → times other = times person
  | .addActivity person _ => person ∈ log.persons → ∀ other, log.Active other → times other = times person
  | .clearActivities => True

end Properties

section Steps

variable [DecidableEq ρ] {log : ActivityLog ρ} {times : ρ → Int}

def step (log : ActivityLog ρ) : PersonOperation ρ → ActivityLog ρ
  | .addPerson person => { log with persons := log.persons ++ [person] }
  | .addActivity person activity => { log with added := Function.update log.added person (log.added person ++ [activity]) }
  | .clearActivities => { log with added := fun person => if person ∈ log.persons then [] else log.added person }

theorem oneTime_step {operation : PersonOperation ρ} (guard : AtOneTime times log operation) (one : log.OneTime times) :
    (log.step operation).OneTime times := by
  have after (person : ρ) (others : ∀ other, log.Active other → times other = times person)
      (active : ∀ other, (log.step operation).Active other → other = person ∨ log.Active other) :
      (log.step operation).OneTime times := by
    have same (other : ρ) (now : (log.step operation).Active other) : times other = times person :=
      (active other now).elim (congrArg times) (others other)
    exact fun first second left right => (same first left).trans (same second right).symm
  cases operation with
  | addPerson person =>
    by_cases some : log.added person = []
    · intro first second left right
      have before (other : ρ) (now : (log.step (.addPerson person)).Active other) : log.Active other := by
        refine ⟨(List.mem_append.mp now.1).resolve_right fun last => ?_, now.2⟩
        rw [List.mem_singleton.mp last] at now
        exact now.2 some
      exact one first second (before first left) (before second right)
    · refine after person (guard some) fun other now => ?_
      rcases List.mem_append.mp now.1 with held | last
      · exact .inr ⟨held, now.2⟩
      · exact .inl (List.mem_singleton.mp last)
  | addActivity person activity =>
    have apart (other : ρ) (now : (log.step (.addActivity person activity)).Active other) (different : other ≠ person) : log.Active other :=
      ⟨now.1, by simpa [step, different] using now.2⟩
    by_cases member : person ∈ log.persons
    · exact after person (guard member) fun other now => or_iff_not_imp_left.mpr (apart other now)
    · intro first second left right
      have different (other : ρ) (now : (log.step (.addActivity person activity)).Active other) : other ≠ person := by
        rintro rfl
        exact member now.1
      exact one first second (apart first left (different first left)) (apart second right (different second right))
  | clearActivities =>
    intro first second left right
    exact absurd (if_pos left.1) left.2

end Steps

end ActivityLog

namespace PersonStore

variable {ρ : Type u} {store : PersonStore ρ} {log : ActivityLog ρ} {times : ρ → Int}

/-- The store holds what was logged. -/
structure Tracks (times : ρ → Int) (store : PersonStore ρ) (log : ActivityLog ρ) : Prop where
  persons : store.persons.Perm log.persons
  activities : ∀ person, (store.person person).activities = (log.added person).reverse
  timestamp : ∀ person, (store.person person).timestamp = times person

theorem flatMap_activities (tracks : Tracks times store log) :
    store.model.persons.flatMap PresencePerson.activities = store.persons.flatMap fun person => (log.added person).reverse := by
  rw [model, List.flatMap_map]
  exact List.flatMap_congr fun person _ => tracks.activities person

/-- Each activity is at one place, and at no place from the number of activities on. -/
theorem activities_enumerated (tracks : Tracks times store log) :
    (((List.range store.model.getNbActivities).map store.model.getNthActivity).Perm
      ((log.persons.flatMap log.added).map some)) ∧
    ∀ idx, store.model.getNbActivities ≤ idx → store.model.getNthActivity idx = none := by
  have each (idx : Nat) : store.model.getNthActivity idx = (store.model.persons.flatMap PresencePerson.activities)[idx]? :=
    PresenceModel.nthActivity_eq store.model.persons idx
  rw [PresenceModel.getNbActivities_eq]
  constructor
  · have whole : (List.range (store.model.persons.flatMap PresencePerson.activities).length).map store.model.getNthActivity =
        (store.model.persons.flatMap PresencePerson.activities).map some :=
      List.ext_getElem (by simp) fun idx _ inside => by simp [each]
    rw [whole, flatMap_activities tracks]
    refine List.Perm.map some ((List.Perm.flatMap_left store.persons fun person _ => ?_).trans (tracks.persons.flatMap_right log.added))
    exact List.reverse_perm (log.added person)
  · intro idx beyond
    rw [each, List.getElem?_eq_none beyond]

/-- The activity that is reported is the last one of a person whose time is the least of all that
have activities. -/
theorem getActivity_least (tracks : Tracks times store log) {person : ρ} (active : log.Active person) :
    ∃ oldest activity, store.model.getActivity = some activity ∧ log.Active oldest ∧
      (log.added oldest).getLast? = some activity ∧ ∀ other, log.Active other → times oldest ≤ times other := by
  have reported : store.model.getActivity = store.persons.findSome? fun person => (log.added person).getLast? := by
    refine (PresenceModel.nthActivity_eq store.model.persons 0).trans ?_
    rw [flatMap_activities tracks, ← List.head?_eq_getElem?, List.head?_flatMap]
    simp only [List.head?_reverse]
  cases found : store.persons.findSome? fun person => (log.added person).getLast? with
  | none =>
    have missing := List.findSome?_eq_none_iff.mp found person (tracks.persons.mem_iff.mpr active.1)
    exact absurd (List.getLast?_eq_none_iff.mp missing) active.2
  | some activity =>
    obtain ⟨before, oldest, after, split, last, inactive⟩ := List.findSome?_eq_some_iff.mp found
    have member : oldest ∈ store.persons := by
      rw [split]
      exact List.mem_append_right _ List.mem_cons_self
    have some : log.added oldest ≠ [] := by
      intro none
      rw [none] at last
      cases last
    refine ⟨oldest, activity, reported.trans found, ⟨tracks.persons.mem_iff.mp member, some⟩, last, fun other now => ?_⟩
    have held := split ▸ tracks.persons.mem_iff.mpr now.1
    rcases List.mem_append.mp held with early | late
    · exact absurd (List.getLast?_eq_none_iff.mp (inactive other early)) now.2
    · rcases List.mem_cons.mp late with rfl | later
      · exact le_refl _
      · have sorted := split ▸ store.ordered
        rw [← tracks.timestamp, ← tracks.timestamp]
        exact List.rel_of_pairwise_cons (List.pairwise_append.mp sorted).2.1 later

section Runs

variable [DecidableEq ρ]

theorem tracks_step (tracks : Tracks times store log) (operation : PersonOperation ρ) :
    Tracks times (store.step operation) (log.step operation) := by
  cases operation with
  | addPerson person =>
    refine ⟨?_, tracks.activities, tracks.timestamp⟩
    exact ((List.perm_orderedInsert _ person store.persons).trans (tracks.persons.cons person)).trans
      (List.perm_append_singleton person log.persons).symm
  | addActivity person activity =>
    refine ⟨tracks.persons, fun other => ?_, fun other => ?_⟩
    · by_cases same : other = person
      · subst same
        simp [step, ActivityLog.step, addActivity, change, PresencePerson.addActivity, tracks.activities]
      · simp [step, ActivityLog.step, addActivity, change, same, tracks.activities]
    · simp only [step, addActivity, change]
      split
      · exact tracks.timestamp other
      · exact tracks.timestamp other
  | clearActivities =>
    refine ⟨tracks.persons, fun other => ?_, fun other => ?_⟩
    · simp only [step, ActivityLog.step, clearActivities, change, tracks.persons.mem_iff]
      split
      · rfl
      · exact tracks.activities other
    · simp only [step, clearActivities, change]
      split
      · exact tracks.timestamp other
      · exact tracks.timestamp other

theorem tracks_run (tracks : Tracks times store log) (operations : List (PersonOperation ρ)) :
    Tracks times (operations.foldl step store) (operations.foldl ActivityLog.step log) := by
  induction operations generalizing store log with
  | nil => exact tracks
  | cons operation rest ih => exact ih (tracks_step tracks operation)

variable (person : ρ → PresencePerson) (operations : List (PersonOperation ρ))

/-- A presence without persons, and what is done with it. -/
def run : PersonStore ρ := operations.foldl step { person }

/-- Persons may have activities before they are added. -/
def beforehand : ActivityLog ρ where
  added shared := (person shared).activities.reverse

def logged : ActivityLog ρ := operations.foldl ActivityLog.step (beforehand person)

def timeOf (shared : ρ) : Int := (person shared).timestamp

theorem tracks_logged : Tracks (timeOf person) (run person operations) (logged person operations) := by
  have start : Tracks (timeOf person) { person } (beforehand person) :=
    ⟨List.Perm.refl [], fun _ => (List.reverse_reverse _).symm, fun _ => rfl⟩
  exact tracks_run start operations

/-- In a run that keeps all activities at one time, the most recent activity is reported. Each run
enumerates its activities. -/
theorem recent_activity_reported :
    (Guarded ActivityLog.step (ActivityLog.AtOneTime (timeOf person)) (beforehand person) operations →
      (∃ shared, (logged person operations).Active shared) →
      ∃ activity, (run person operations).model.getActivity = some activity ∧
        (logged person operations).MostRecent (timeOf person) activity) ∧
    (((List.range (run person operations).model.getNbActivities).map (run person operations).model.getNthActivity).Perm
      (((logged person operations).persons.flatMap (logged person operations).added).map some)) ∧
    ∀ idx, (run person operations).model.getNbActivities ≤ idx → (run person operations).model.getNthActivity idx = none := by
  have tracks := tracks_logged person operations
  refine ⟨fun guarded active => ?_, activities_enumerated tracks⟩
  obtain ⟨shared, active⟩ := active
  obtain ⟨oldest, activity, reported, now, last, least⟩ := getActivity_least tracks active
  have start : (beforehand person).OneTime (timeOf person) := fun _ _ left => absurd left.1 List.not_mem_nil
  have one : (logged person operations).OneTime (timeOf person) :=
    @foldl_guarded _ _ ActivityLog.step _ (fun log => log.OneTime (timeOf person))
      (fun _ _ guard one => ActivityLog.oneTime_step guard one) _ operations start guarded
  exact ⟨activity, reported, oldest, now, last, fun other present => le_of_eq (one other oldest present now)⟩

end Runs

section Two

/-- Two persons, of times zero and one. -/
def lunchThenPhone (shared : Bool) : PresencePerson :=
  if shared then { id := "p2", timestamp := 1, activities := [{ type := .onThePhone }] }
  else { id := "p1", timestamp := 0, activities := [{ type := .lunch }] }

theorem meeting_reported :
    ∃ activity, (run lunchThenPhone [.addPerson false, .addActivity false { type := .meeting }]).model.getActivity = some activity ∧
      (logged lunchThenPhone [.addPerson false, .addActivity false { type := .meeting }]).MostRecent (timeOf lunchThenPhone) activity := by
  refine (recent_activity_reported lunchThenPhone [.addPerson false, .addActivity false { type := .meeting }]).1 ?_
    ⟨false, by decide, by decide⟩
  refine ⟨fun _ other now => absurd now.1 List.not_mem_nil, fun _ other now => ?_, trivial⟩
  rw [List.mem_singleton.mp now.1]

theorem lunch_reported :
    (run lunchThenPhone [.addPerson false, .addPerson true]).model.getActivity = some { type := .lunch } ∧
      ¬(logged lunchThenPhone [.addPerson false, .addPerson true]).MostRecent (timeOf lunchThenPhone) { type := .lunch } := by
  refine ⟨by decide, ?_⟩
  rintro ⟨shared, -, last, greatest⟩
  have late : timeOf lunchThenPhone true ≤ timeOf lunchThenPhone shared := greatest true ⟨by decide, by decide⟩
  cases shared with
  | false => exact absurd late (by decide)
  | true => exact absurd last (by decide)

end Two

end PersonStore

end Liblinphone
