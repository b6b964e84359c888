import Liblinphone.Proofs.SchedulerConference

/-! The time window of a scheduled conference, as a server sets it: from when it can be
joined, and when it expires. -/

namespace Liblinphone

/-- What is stored for a conference that has a start. -/
structure WindowOrdered (info own : ConferenceInfo) : Prop where
  early : own.earlierJoiningTime ≤ info.dateTime
  late : 0 < info.duration → info.dateTime + 60 * info.duration ≤ own.expiryTime
  endless : info.duration = 0 → own.expiryTime = -1

/-- The seconds that are lost when those of a duration are counted in 32 bits. -/
def lostSeconds (duration : Nat) : Nat := duration * 60 - duration * 60 % 2 ^ 32

namespace ConferenceScheduler

variable {scheduler : ConferenceScheduler} {core : SchedulerCore} {info : ConferenceInfo} {held : Address → Bool}

theorem schedule_window (scheduler : ConferenceScheduler) (info : ConferenceInfo)
    (server : core.conferenceServerEnabled = true) (start : 0 ≤ info.dateTime)
    (available : 0 ≤ core.availabilityBeforeStart) :
    ∃ own, (scheduler.schedule core info).conferenceInfo = some own ∧
      own.earlierJoiningTime = info.dateTime + core.availabilityBeforeStart ∧
      own.expiryTime = (if info.duration = 0 then -1 else info.dateTime + (info.duration * 60 % 2 ^ 32 : Nat)) +
        max core.expirePeriod 0 := by
  refine ⟨_, rfl, ?_⟩
  simp only [serverTimes, server, if_true, ge_iff_le, start, available, true_and, gt_iff_lt]
  cases duration : info.duration with
  | zero =>
    have before : ¬(0 : Int) ≤ -1 := by omega
    simp only [Nat.lt_irrefl, if_false, before, if_true]
    split <;> omega
  | succ more =>
    have after : (0 : Int) ≤ info.dateTime + ((more + 1) * 60 % 2 ^ 32 : Nat) := by omega
    simp only [Nat.zero_lt_succ, Nat.succ_ne_zero, if_true, if_false, after]
    split <;> omega

/-- An update has the times that it was given. -/
theorem updateFrom_times (info other : ConferenceInfo) :
    (info.updateFrom other).dateTime = info.dateTime ∧ (info.updateFrom other).duration = info.duration := by
  unfold ConferenceInfo.updateFrom ConferenceInfo.shareOrganizer
  split
  next => exact ⟨rfl, rfl⟩
  next => exact ⟨rfl, rfl⟩

/-- What is given to be created or updated is scheduled with the times that were asked for. -/
theorem setInfo_scheduled (scheduled : (scheduler.setInfo core info held).2 = true) :
    ∃ before merged, (scheduler.setInfo core info held).1 = ConferenceScheduler.schedule before core merged ∧
      merged.dateTime = info.dateTime ∧ merged.duration = info.duration := by
  rcases setInfo_cases scheduler core info held with ⟨state, same⟩ | ⟨-, same⟩ | ⟨-, same⟩ | ⟨uri, stored, -, -, same⟩
  · rw [same] at scheduled
    exact Bool.noConfusion scheduled
  · rw [same] at scheduled
    exact Bool.noConfusion scheduled
  · rw [same]
    exact ⟨_, info, rfl, rfl, rfl⟩
  · rw [same]
    obtain ⟨start, duration⟩ := updateFrom_times info stored
    unfold updateConference
    split
    next => exact ⟨_, _, rfl, start, duration⟩
    next own _ =>
      obtain ⟨again, long⟩ := updateFrom_times (info.updateFrom stored) (writtenThrough held (info.updateFrom stored) own)
      exact ⟨_, _, rfl, again.trans start, long.trans duration⟩

/-- The window is ordered when nobody may come early, and what the expire period adds makes up
for the seconds that are lost, and is nothing without an end. -/
theorem window_ordered_iff (server : core.conferenceServerEnabled = true)
    (scheduled : (scheduler.setInfo core info held).2 = true) (start : 0 ≤ info.dateTime)
    (available : 0 ≤ core.availabilityBeforeStart) :
    (∃ own, (scheduler.setInfo core info held).1.conferenceInfo = some own ∧ WindowOrdered info own) ↔
      core.availabilityBeforeStart = 0 ∧ (info.duration = 0 → core.expirePeriod ≤ 0) ∧
        (0 < info.duration → (lostSeconds info.duration : Int) ≤ max core.expirePeriod 0) := by
  obtain ⟨before, merged, same, sameStart, sameDuration⟩ := setInfo_scheduled scheduled
  obtain ⟨own, stored, early, late⟩ := schedule_window before merged server (sameStart ▸ start) available
  rw [same, stored]
  rw [sameStart] at early late
  rw [sameDuration] at late
  have bound := Nat.mod_le (info.duration * 60) (2 ^ 32)
  unfold lostSeconds
  constructor
  · rintro ⟨other, isOwn, window⟩
    cases isOwn
    obtain ⟨first, last, endless⟩ := window
    refine ⟨by omega, ?_, ?_⟩
    · intro none
      rw [endless none, if_pos none] at late
      omega
    · intro long
      have after := last long
      rw [late, if_neg (by omega)] at after
      omega
  · rintro ⟨closed, without, within⟩
    refine ⟨own, rfl, by omega, ?_, ?_⟩
    · intro long
      have made := within long
      rw [late, if_neg (by omega)]
      omega
    · intro none
      have nothing := without none
      rw [late, if_pos none]
      omega

/-- A server whose conferences expire half an hour after their end. -/
def meetingServer (availability : Int) : SchedulerCore where
  identity := some alice
  conferenceServerEnabled := true
  availabilityBeforeStart := availability
  expirePeriod := 1800

def timedMeeting : ConferenceInfo := { meeting 0 with dateTime := 976686000, duration := 60 }

theorem window_ordered_meeting :
    ∃ own, (setInfo {} (meetingServer 0) timedMeeting fun _ => false).1.conferenceInfo = some own ∧
      WindowOrdered timedMeeting own :=
  (window_ordered_iff rfl rfl (by decide) (by decide)).mpr
    ⟨rfl, fun none => absurd none (by decide), fun _ => by decide⟩

/-- A conference that may be joined five minutes early is to be joined five minutes late. -/
theorem joined_late : ¬ ∀ (scheduler : ConferenceScheduler) (core : SchedulerCore) (info : ConferenceInfo)
    (held : Address → Bool), core.conferenceServerEnabled = true → (scheduler.setInfo core info held).2 = true →
    0 ≤ info.dateTime → 0 ≤ core.availabilityBeforeStart →
    ∃ own, (scheduler.setInfo core info held).1.conferenceInfo = some own ∧ WindowOrdered info own := by
  intro ordered
  obtain ⟨own, stored, window⟩ := ordered {} (meetingServer 300) timedMeeting (fun _ => false) rfl rfl (by decide)
    (by decide)
  have early : own.earlierJoiningTime = 976686300 := by
    cases stored
    rfl
  have start := window.early
  rw [early] at start
  exact absurd start (by decide)

end ConferenceScheduler

end Liblinphone
