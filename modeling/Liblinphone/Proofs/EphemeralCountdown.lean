import Mathlib.Data.List.InsertIdx
import Liblinphone.EphemeralMessages

/-! When ephemeral messages are deleted. The list and the timer are rearranged in many places, but
only from messages whose countdown has begun, and the recursion deletes only what has expired. -/

namespace Liblinphone.EphemeralTasks

open Library

variable {setup : EphemeralSetup} {tasks next : EphemeralTasks} {past : List EphemeralEvent}

theorem mem_expiringRows {row : Nat} :
    row ∈ tasks.expiringRows ↔ row ∈ tasks.rows ∧ 0 < tasks.ephemeralExpireTime row := by
  rw [expiringRows, List.mem_insertionSort, List.mem_filter, decide_eq_true_iff]

theorem selectedRows_expiring {row : Nat} (selected : row ∈ tasks.selectedRows setup) : row ∈ tasks.expiringRows := by
  unfold selectedRows at selected
  split at selected
  · exact List.mem_of_mem_take selected
  · exact selected

theorem getEphemeralMessages_counting {row : Nat} (read : row ∈ tasks.getEphemeralMessages setup) :
    0 < tasks.ephemeralExpireTime row := by
  have selected := (List.mem_filter.mp read).1
  exact (mem_expiringRows.mp (selectedRows_expiring selected)).2

/-- A change of the list and of the timer, where the list takes from the candidates and from the
rows whose countdown runs. -/
structure Rearranged (candidates : List Nat) (tasks next : EphemeralTasks) : Prop where
  clock : next.clock = tasks.clock
  expiry : next.ephemeralExpireTime = tasks.ephemeralExpireTime
  listed : ∀ message ∈ next.ephemeralMessages, message ∈ candidates ∨ 0 < tasks.ephemeralExpireTime message

theorem Rearranged.msTime {candidates : List Nat} (rearranged : Rearranged candidates tasks next) :
    next.msTime = tasks.msTime := by
  rw [EphemeralTasks.msTime, EphemeralTasks.msTime, rearranged.clock]

theorem initEphemeralMessages_rearranged (setup : EphemeralSetup) (tasks : EphemeralTasks) :
    Rearranged tasks.ephemeralMessages tasks (tasks.initEphemeralMessages setup) := by
  unfold initEphemeralMessages
  simp only []
  split
  · have read : ∀ message ∈ tasks.getEphemeralMessages setup,
        message ∈ tasks.ephemeralMessages ∨ 0 < tasks.ephemeralExpireTime message :=
      fun message member => .inr (getEphemeralMessages_counting member)
    split
    · exact ⟨rfl, rfl, read⟩
    · exact ⟨rfl, rfl, read⟩
  · exact ⟨rfl, rfl, fun message member => .inl member⟩

theorem updateEphemeralMessages_rearranged (setup : EphemeralSetup) (tasks : EphemeralTasks) (message : Nat) :
    Rearranged (message :: tasks.ephemeralMessages) tasks (tasks.updateEphemeralMessages setup message) := by
  have same : Rearranged (message :: tasks.ephemeralMessages) tasks tasks :=
    ⟨rfl, rfl, fun other member => .inl (List.mem_cons_of_mem message member)⟩
  unfold updateEphemeralMessages
  split
  · have read := tasks.initEphemeralMessages_rearranged setup
    exact ⟨read.clock, read.expiry, fun other member =>
      (read.listed other member).imp_left (List.mem_cons_of_mem message)⟩
  · split
    · exact same
    · split
      · exact same
      · exact ⟨rfl, rfl, fun other member => .inl member⟩
      · refine ⟨rfl, rfl, ?_⟩
        intro other member
        rcases List.eq_or_mem_of_mem_insertIdx member with rfl | member
        · exact .inl List.mem_cons_self
        · exact .inl (List.mem_cons_of_mem message member)

theorem handleEphemeralMessagesOf_rearranged (setup : EphemeralSetup) (currentTime : Int) (tasks : EphemeralTasks)
    (messages : List Nat) : Rearranged messages tasks (handleEphemeralMessagesOf setup currentTime tasks messages).1 := by
  induction messages generalizing tasks with
  | nil =>
    have read := { tasks with ephemeralMessages := [] }.initEphemeralMessages_rearranged setup
    exact ⟨read.clock, read.expiry, read.listed⟩
  | cons message rest following =>
    unfold handleEphemeralMessagesOf
    split
    · split
      · have deleted := following (tasks.deleteFromDatabase message)
        exact ⟨deleted.clock, deleted.expiry, fun other member =>
          (deleted.listed other member).imp_left (List.mem_cons_of_mem message)⟩
      · have popped := following tasks
        exact ⟨popped.clock, popped.expiry, fun other member =>
          (popped.listed other member).imp_left (List.mem_cons_of_mem message)⟩
    · exact ⟨rfl, rfl, fun other member => .inl member⟩

theorem handleEphemeralMessagesOf_deletes {currentTime : Int} {messages : List Nat} {event : EphemeralEvent}
    (emitted : event ∈ (handleEphemeralMessagesOf setup currentTime tasks messages).2) :
    ∃ message ∈ messages, event = .messageDeleted message currentTime ∧
      tasks.ephemeralExpireTime message < currentTime := by
  induction messages generalizing tasks with
  | nil => exact absurd emitted List.not_mem_nil
  | cons message rest following =>
    unfold handleEphemeralMessagesOf at emitted
    split at emitted
    next expired =>
      split at emitted
      · rcases List.mem_cons.mp emitted with rfl | later
        · exact ⟨message, List.mem_cons_self, rfl, expired⟩
        · obtain ⟨other, member, same, expired⟩ := following later
          exact ⟨other, List.mem_cons_of_mem message member, same, expired⟩
      · obtain ⟨other, member, same, expired⟩ := following emitted
        exact ⟨other, List.mem_cons_of_mem message member, same, expired⟩
    next => exact absurd emitted List.not_mem_nil

/-- A message that is deleted was displayed, and its lifetime has passed since each time that it was. -/
def Ripe (setup : EphemeralSetup) (before : List EphemeralEvent) : EphemeralEvent → Prop
  | .messageDeleted message time =>
    (∃ start, .countDownStarted message start ∈ before) ∧
      ∀ start, .countDownStarted message start ∈ before → start + setup.ephemeralLifetime message < time
  | _ => True

/-- The expiries are those of the countdowns so far. -/
structure Counted (setup : EphemeralSetup) (past : List EphemeralEvent) (tasks : EphemeralTasks) : Prop where
  expiry : ∀ message start, .countDownStarted message start ∈ past →
    start + setup.ephemeralLifetime message ≤ tasks.ephemeralExpireTime message
  begun : ∀ message, message ∈ tasks.ephemeralMessages ∨ 0 < tasks.ephemeralExpireTime message →
    ∃ start, .countDownStarted message start ∈ past
  earlier : ∀ message start, .countDownStarted message start ∈ past → start ≤ tasks.msTime
  ripe : EachAfter (Ripe setup) past

/-- What starts no countdown and deletes nothing. -/
theorem Counted.silent (counted : Counted setup past tasks) (later : tasks.msTime ≤ next.msTime)
    (expiry : next.ephemeralExpireTime = tasks.ephemeralExpireTime)
    (listed : ∀ message ∈ next.ephemeralMessages,
      message ∈ tasks.ephemeralMessages ∨ 0 < tasks.ephemeralExpireTime message) : Counted setup past next := by
  refine ⟨?_, ?_, ?_, counted.ripe⟩
  · rw [expiry]
    exact counted.expiry
  · intro message counts
    rw [expiry] at counts
    apply counted.begun
    rcases counts with member | positive
    · exact listed message member
    · exact .inr positive
  · intro message start began
    exact (counted.earlier message start began).trans later

theorem Counted.startEphemeralCountDown (counted : Counted setup past tasks) (message : Nat) :
    Counted setup (past ++ (tasks.startEphemeralCountDown setup message).2)
      (tasks.startEphemeralCountDown setup message).1 := by
  unfold EphemeralTasks.startEphemeralCountDown
  split
  next found =>
    simp only []
    have rearranged := updateEphemeralMessages_rearranged setup
      { tasks with ephemeralExpireTime := Function.update tasks.ephemeralExpireTime message
                                            (tasks.msTime + setup.ephemeralLifetime message) } message
    generalize EphemeralTasks.updateEphemeralMessages setup _ message = updated at rearranged
    have began {other : Nat} {start : Int}
        (member : EphemeralEvent.countDownStarted other start ∈ past ++ .countDownStarted message tasks.msTime ::
          if tasks.eventFound setup message then [.timerStartedNotified message] else []) :
        .countDownStarted other start ∈ past ∨ other = message ∧ start = tasks.msTime := by
      rcases List.mem_append.mp member with old | new
      · exact .inl old
      · rcases List.mem_cons.mp new with same | notified
        · cases same
          exact .inr ⟨rfl, rfl⟩
        · split at notified
          · cases List.mem_singleton.mp notified
          · exact absurd notified List.not_mem_nil
    refine ⟨?_, ?_, ?_, ?_⟩
    · intro other start member
      rw [rearranged.expiry]
      simp only []
      rcases began member with old | ⟨rfl, rfl⟩
      · by_cases same : other = message
        · subst same
          rw [Function.update_self]
          have before := counted.earlier other start old
          omega
        · rw [Function.update_of_ne same]
          exact counted.expiry other start old
      · rw [Function.update_self]
    · intro other counts
      by_cases same : other = message
      · exact ⟨tasks.msTime, by rw [same]; exact List.mem_append_right _ List.mem_cons_self⟩
      · have known : other ∈ tasks.ephemeralMessages ∨ 0 < tasks.ephemeralExpireTime other := by
          have running : 0 < Function.update tasks.ephemeralExpireTime message
              (tasks.msTime + setup.ephemeralLifetime message) other → 0 < tasks.ephemeralExpireTime other := by
            rw [Function.update_of_ne same]
            exact id
          rw [rearranged.expiry] at counts
          rcases counts with member | positive
          · rcases rearranged.listed other member with candidate | positive
            · rcases List.mem_cons.mp candidate with equal | member
              · exact absurd equal same
              · exact .inl member
            · exact .inr (running positive)
          · exact .inr (running positive)
        obtain ⟨start, member⟩ := counted.begun other known
        exact ⟨start, List.mem_append_left _ member⟩
    · intro other start member
      rw [rearranged.msTime]
      rcases began member with old | ⟨rfl, rfl⟩
      · exact counted.earlier other start old
      · exact le_refl _
    · apply counted.ripe.append_always
      intro event member before
      rcases List.mem_cons.mp member with rfl | notified
      · trivial
      · split at notified
        · cases List.mem_singleton.mp notified
          trivial
        · exact absurd notified List.not_mem_nil
  next => simpa using counted

theorem Counted.ephemeralMessageTimerExpired (counted : Counted setup past tasks) :
    Counted setup (past ++ (tasks.ephemeralMessageTimerExpired setup).2) (tasks.ephemeralMessageTimerExpired setup).1 := by
  have rearranged := handleEphemeralMessagesOf_rearranged setup tasks.msTime { tasks with ephemeralTimer := none }
    tasks.ephemeralMessages
  have deletes : ∀ event ∈ (handleEphemeralMessagesOf setup tasks.msTime { tasks with ephemeralTimer := none }
      tasks.ephemeralMessages).2, ∃ message ∈ tasks.ephemeralMessages,
        event = .messageDeleted message tasks.msTime ∧ tasks.ephemeralExpireTime message < tasks.msTime := by
    intro event emitted
    have deleted := handleEphemeralMessagesOf_deletes emitted
    exact deleted
  change Counted setup (past ++ (handleEphemeralMessagesOf setup tasks.msTime { tasks with ephemeralTimer := none }
    tasks.ephemeralMessages).2) (handleEphemeralMessagesOf setup tasks.msTime { tasks with ephemeralTimer := none }
    tasks.ephemeralMessages).1
  generalize handleEphemeralMessagesOf setup tasks.msTime { tasks with ephemeralTimer := none }
    tasks.ephemeralMessages = handled at rearranged deletes
  obtain ⟨next, events⟩ := handled
  have quiet : Counted setup past next :=
    counted.silent (le_of_eq rearranged.msTime.symm) rearranged.expiry rearranged.listed
  have old {message : Nat} {start : Int} {more : List EphemeralEvent} (part : ∀ event ∈ more, event ∈ events)
      (member : EphemeralEvent.countDownStarted message start ∈ past ++ more) : .countDownStarted message start ∈ past := by
    rcases List.mem_append.mp member with old | new
    · exact old
    · obtain ⟨other, -, same, -⟩ := deletes _ (part _ new)
      cases same
  refine ⟨?_, ?_, ?_, ?_⟩
  · exact fun message start member => quiet.expiry message start (old (fun _ member => member) member)
  · intro message counts
    obtain ⟨start, member⟩ := quiet.begun message counts
    exact ⟨start, List.mem_append_left _ member⟩
  · exact fun message start member => quiet.earlier message start (old (fun _ member => member) member)
  · apply counted.ripe.append_each
    intro before event after whole
    change events = _ at whole
    obtain ⟨message, listed, rfl, expired⟩ := deletes event (whole ▸ List.mem_append_right before List.mem_cons_self)
    have part : ∀ event ∈ before, event ∈ events := fun event member => whole ▸ List.mem_append_left _ member
    constructor
    · obtain ⟨start, member⟩ := counted.begun message (.inl listed)
      exact ⟨start, List.mem_append_left _ member⟩
    · intro start member
      exact (counted.expiry message start (old part member)).trans_lt expired

theorem Counted.step (counted : Counted setup past tasks) (input : Input) :
    Counted setup (past ++ (EphemeralTasks.step setup tasks input).2) (EphemeralTasks.step setup tasks input).1 := by
  have unchanged {next : EphemeralTasks} (clock : tasks.clock ≤ next.clock)
      (expiry : next.ephemeralExpireTime = tasks.ephemeralExpireTime)
      (listed : ∀ message ∈ next.ephemeralMessages,
        message ∈ tasks.ephemeralMessages ∨ 0 < tasks.ephemeralExpireTime message) :
      Counted setup (past ++ []) next := by
    rw [List.append_nil]
    apply counted.silent _ expiry listed
    unfold msTime
    omega
  cases input with
  | clockAdvances milliseconds => exact unchanged (Nat.le_add_right _ _) rfl fun _ member => .inl member
  | messageStored message =>
    simp only [EphemeralTasks.step]
    split <;> exact unchanged (le_refl _) rfl fun _ member => .inl member
  | messageDisplayed message => exact counted.startEphemeralCountDown message
  | messageDeleted message => exact unchanged (le_refl _) rfl fun _ member => .inl member
  | chatRoomInserted chatRoom =>
    simp only [EphemeralTasks.step]
    split <;> exact unchanged (le_refl _) rfl fun _ member => .inl member
  | chatRoomDeleted chatRoom => exact unchanged (le_refl _) rfl fun _ member => .inl member
  | timerExpired =>
    simp only [EphemeralTasks.step]
    split
    · exact counted.ephemeralMessageTimerExpired
    · exact unchanged (le_refl _) rfl fun _ member => .inl member
  | coreStarted =>
    have rearranged := tasks.initEphemeralMessages_rearranged setup
    exact unchanged (le_of_eq rearranged.clock.symm) rearranged.expiry rearranged.listed
  | coreStopped => exact unchanged (le_refl _) rfl fun _ member => absurd member List.not_mem_nil

/-- Whatever happens, a message is deleted only after it was displayed, and only when its lifetime
has passed since the last time that it was. -/
theorem deleted_after_lifetime {inputs : List Input} (fresh : ∀ message, tasks.ephemeralExpireTime message = 0)
    (empty : tasks.ephemeralMessages = []) : EachAfter (Ripe setup) (run (EphemeralTasks.step setup) tasks inputs).2 := by
  have start : Counted setup [] tasks := by
    refine ⟨?_, ?_, ?_, EachAfter.nil _⟩
    · exact fun _ _ member => absurd member List.not_mem_nil
    · intro message counts
      rcases counts with member | positive
      · rw [empty] at member
        exact absurd member List.not_mem_nil
      · rw [fresh] at positive
        exact absurd positive (lt_irrefl 0)
    · exact fun _ _ member => absurd member List.not_mem_nil
  have whole := run_invariant (Counted setup) (fun past tasks input _ counted => counted.step input) start
    (meets_always inputs)
  exact whole.ripe

/-- A chat room whose messages live for five seconds. -/
def fiveSeconds : EphemeralSetup where
  ephemeralLifetime _ := 5
  chatRoom _ := 0

/-- The core finds the chat room, which holds no message yet. -/
def oneChatRoom : EphemeralTasks where
  clock := 1000
  chatRooms := [0]
  rows := []
  ephemeralExpireTime _ := 0
  ephemeralMessages := []
  ephemeralTimer := none

theorem deleted_after_five_seconds :
    (run (EphemeralTasks.step fiveSeconds) oneChatRoom
      [.messageStored 7, .messageDisplayed 7, .clockAdvances 6000, .timerExpired]).2 =
        [.countDownStarted 7 1, .timerStartedNotified 7, .messageDeleted 7 7] ∧
      EachAfter (Ripe fiveSeconds) (run (EphemeralTasks.step fiveSeconds) oneChatRoom
        [.messageStored 7, .messageDisplayed 7, .clockAdvances 6000, .timerExpired]).2 :=
  ⟨by decide, deleted_after_lifetime (fun _ => rfl) rfl⟩

end Liblinphone.EphemeralTasks
