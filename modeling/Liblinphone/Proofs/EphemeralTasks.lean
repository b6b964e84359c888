import Liblinphone.Library.Ordered
import Liblinphone.Proofs.EphemeralCountdown

/-! Which ephemeral messages the core takes care of. As long as the chat rooms of all messages are
found, no countdown runs without a message in the list and a timer that is due in time. Messages of
chat rooms that are not found can hold back all others. -/

namespace Liblinphone.EphemeralTasks

open Library

variable {setup : EphemeralSetup} {tasks next : EphemeralTasks}

/-- The timer is due at most 10 ms after the second in which the front expires, or 10 ms from now. -/
def Timed (tasks : EphemeralTasks) : Prop :=
  ∀ front ∈ tasks.ephemeralMessages.head?, ∃ due, tasks.ephemeralTimer = some due ∧
    (due : Int) ≤ max (1000 * tasks.ephemeralExpireTime front + 1009) (tasks.clock + 10)

theorem startEphemeralMessageTimer_timed {front : Nat} {rest : List Nat}
    (listed : tasks.ephemeralMessages = front :: rest) :
    Timed (tasks.startEphemeralMessageTimer (tasks.ephemeralExpireTime front)) := by
  intro message head
  have same : front = message := by simpa [startEphemeralMessageTimer, listed] using head
  subst same
  refine ⟨_, rfl, ?_⟩
  have seconds : tasks.msTime = tasks.clock / 1000 := rfl
  split
  next later =>
    have wrapped := Nat.mod_le ((tasks.ephemeralExpireTime front - tasks.msTime).toNat * 1000) UInt32.size
    simp only [startEphemeralMessageTimer]
    omega
  next =>
    simp only [startEphemeralMessageTimer]
    omega

/-- Nothing moves the front but to a message that expires no earlier. -/
theorem Timed.later (timed : Timed tasks) (clock : tasks.clock ≤ next.clock)
    (timer : next.ephemeralTimer = tasks.ephemeralTimer)
    (fronts : ∀ front ∈ next.ephemeralMessages.head?, ∃ old ∈ tasks.ephemeralMessages.head?,
      tasks.ephemeralExpireTime old ≤ next.ephemeralExpireTime front) : Timed next := by
  intro front head
  obtain ⟨old, was, before⟩ := fronts front head
  obtain ⟨due, armed, bound⟩ := timed old was
  refine ⟨due, timer.trans armed, ?_⟩
  omega

/-- Every row belongs to a chat room that is found, and no message expires later than it may. -/
structure Known (setup : EphemeralSetup) (listed : List Nat) (tasks : EphemeralTasks) : Prop where
  found : ∀ row ∈ tasks.rows, tasks.chatRooms.contains (setup.chatRoom row) = true
  dated : ∀ message, message ∈ listed ∨ 0 < tasks.ephemeralExpireTime message →
    tasks.ephemeralExpireTime message ≤ tasks.msTime + setup.ephemeralLifetime message

/-- When a countdown runs, the list is not empty and its front is timed. -/
structure Watched (setup : EphemeralSetup) (tasks : EphemeralTasks) : Prop where
  known : Known setup tasks.ephemeralMessages tasks
  awake : ∀ row ∈ tasks.rows, 0 < tasks.ephemeralExpireTime row → tasks.ephemeralMessages ≠ []
  timed : Timed tasks

section Initialized

variable (initialized : setup.isInitialized = true)
  (positive : ∀ maxMessages, setup.maxMessages = some maxMessages → 0 < maxMessages)
include positive

theorem getEphemeralMessages_ne_nil {row : Nat} {listed : List Nat} (known : Known setup listed tasks)
    (stored : row ∈ tasks.rows) (counting : 0 < tasks.ephemeralExpireTime row) :
    tasks.getEphemeralMessages setup ≠ [] := by
  have some : tasks.expiringRows ≠ [] := List.ne_nil_of_mem (mem_expiringRows.mpr ⟨stored, counting⟩)
  obtain ⟨first, member⟩ : ∃ first, first ∈ tasks.selectedRows setup := by
    obtain ⟨first, rest, split⟩ := List.exists_cons_of_ne_nil some
    refine ⟨first, ?_⟩
    unfold selectedRows
    rw [split]
    split
    next maxMessages limited =>
      obtain ⟨more, rfl⟩ := Nat.exists_eq_succ_of_ne_zero (positive maxMessages limited).ne'
      exact List.mem_cons_self
    next => exact List.mem_cons_self
  have here := known.found first (mem_expiringRows.mp (selectedRows_expiring member)).1
  exact List.ne_nil_of_mem (List.mem_filter.mpr ⟨member, here⟩)

include initialized

theorem Known.initEphemeralMessages {listed : List Nat} (known : Known setup listed tasks) :
    Watched setup (tasks.initEphemeralMessages setup) := by
  unfold EphemeralTasks.initEphemeralMessages
  rw [if_pos initialized]
  simp only []
  have dated : Known setup (tasks.getEphemeralMessages setup) tasks :=
    ⟨known.found, fun message counts => known.dated message
      (.inr (counts.elim getEphemeralMessages_counting id))⟩
  split
  next none =>
    refine ⟨⟨dated.found, dated.dated⟩, ?_, ?_⟩
    · intro row stored counting
      exact absurd none (getEphemeralMessages_ne_nil positive known stored counting)
    · intro front head
      simp [none] at head
  next front rest read =>
    refine ⟨⟨dated.found, dated.dated⟩, ?_, startEphemeralMessageTimer_timed read⟩
    intro row stored counting
    exact getEphemeralMessages_ne_nil positive known stored counting

theorem Known.handleEphemeralMessagesOf {currentTime : Int} {messages : List Nat} (known : Known setup messages tasks) :
    Watched setup (EphemeralTasks.handleEphemeralMessagesOf setup currentTime tasks messages).1 := by
  induction messages generalizing tasks with
  | nil =>
    have emptied : Known setup [] { tasks with ephemeralMessages := [] } := ⟨known.found, known.dated⟩
    exact emptied.initEphemeralMessages initialized positive
  | cons message rest following =>
    have later : Known setup rest tasks :=
      ⟨known.found, fun other counts => known.dated other (counts.imp_left (List.mem_cons_of_mem message))⟩
    unfold EphemeralTasks.handleEphemeralMessagesOf
    split
    · split
      · have deleted : Known setup rest (tasks.deleteFromDatabase message) :=
          ⟨fun row stored => known.found row (List.mem_filter.mp stored).1, later.dated⟩
        exact following deleted
      · exact following later
    · refine ⟨⟨known.found, known.dated⟩, ?_, startEphemeralMessageTimer_timed rfl⟩
      exact fun _ _ _ => List.cons_ne_nil message rest

theorem Watched.updateEphemeralMessages {message : Nat} (known : Known setup (message :: tasks.ephemeralMessages) tasks)
    (timed : Timed tasks) : Watched setup (tasks.updateEphemeralMessages setup message) := by
  have dated (entries : List Nat) (within : ∀ other ∈ entries, other ∈ message :: tasks.ephemeralMessages) :
      Known setup entries tasks :=
    ⟨known.found, fun other counts => known.dated other (counts.imp_left (within other))⟩
  unfold EphemeralTasks.updateEphemeralMessages
  split
  · exact known.initEphemeralMessages initialized positive
  next lastmsg last =>
    have full : tasks.ephemeralMessages ≠ [] := fun none => by simp [none] at last
    have same : Watched setup tasks :=
      ⟨dated _ fun other member => List.mem_cons_of_mem message member, fun _ _ _ => full, timed⟩
    split
    · exact same
    · split
      · exact same
      · refine ⟨⟨known.found, known.dated⟩, ?_, startEphemeralMessageTimer_timed rfl⟩
        exact fun _ _ _ => List.cons_ne_nil message _
      next it place =>
        obtain ⟨front, rest, shape⟩ := List.exists_cons_of_ne_nil full
        have moved := dated (tasks.ephemeralMessages.insertIdx it message) fun other member =>
          List.mem_cons.mpr (List.eq_or_mem_of_mem_insertIdx member)
        refine ⟨⟨moved.found, moved.dated⟩, ?_, ?_⟩
        · intro _ _ _ none
          have long := congrArg List.length none
          rw [shape] at long
          cases it <;> simp [List.insertIdx] at long
        · refine timed.later (le_refl _) rfl ?_
          intro head first
          simp only [shape] at first ⊢
          refine ⟨front, rfl, ?_⟩
          cases it with
          | zero =>
            -- the new front was found to expire no earlier than the old one
            cases Option.some.inj first
            rw [shape, List.findIdx?_cons] at place
            split at place
            · simp at place
            next after => simpa using after
          | succ it =>
            cases Option.some.inj first
            exact le_refl _

theorem Watched.startEphemeralCountDown (watched : Watched setup tasks) (message : Nat) :
    Watched setup (tasks.startEphemeralCountDown setup message).1 := by
  unfold EphemeralTasks.startEphemeralCountDown
  split
  next =>
    simp only []
    apply Watched.updateEphemeralMessages initialized positive
    · refine ⟨watched.known.found, ?_⟩
      intro other counts
      by_cases same : other = message
      · simp only [same, Function.update_self]
        exact le_refl _
      · simp only [Function.update_of_ne same] at counts ⊢
        apply watched.known.dated
        exact counts.imp_left fun member => (List.mem_cons.mp member).resolve_left same
    · refine watched.timed.later (le_refl _) rfl ?_
      intro front head
      refine ⟨front, head, ?_⟩
      by_cases same : front = message
      · simp only [same, Function.update_self]
        exact watched.known.dated message (.inl (same ▸ List.mem_of_mem_head? head))
      · simp only [Function.update_of_ne same]
        exact le_refl _
  next => exact watched

end Initialized

/-- Messages are stored before they are displayed, and the core is not stopped. -/
def Orderly (tasks : EphemeralTasks) : Input → Prop
  | .messageStored message => ¬0 < tasks.ephemeralExpireTime message
  | .coreStopped => False
  | _ => True

theorem Watched.step (initialized : setup.isInitialized = true)
    (positive : ∀ maxMessages, setup.maxMessages = some maxMessages → 0 < maxMessages) (watched : Watched setup tasks)
    {input : Input} (orderly : Orderly tasks input) : Watched setup (EphemeralTasks.step setup tasks input).1 := by
  have fewer {next : EphemeralTasks} (clock : next.clock = tasks.clock)
      (expiry : next.ephemeralExpireTime = tasks.ephemeralExpireTime)
      (listed : next.ephemeralMessages = tasks.ephemeralMessages) (timer : next.ephemeralTimer = tasks.ephemeralTimer)
      (found : ∀ row ∈ next.rows, next.chatRooms.contains (setup.chatRoom row) = true)
      (rows : ∀ row ∈ next.rows, 0 < tasks.ephemeralExpireTime row → row ∈ tasks.rows) : Watched setup next := by
    refine ⟨⟨found, ?_⟩, ?_, ?_⟩
    · rw [expiry, listed, msTime, clock]
      exact watched.known.dated
    · intro row stored counting
      rw [expiry] at counting
      rw [listed]
      exact watched.awake row (rows row stored counting) counting
    · refine watched.timed.later (le_of_eq clock.symm) timer ?_
      intro front head
      rw [listed] at head
      exact ⟨front, head, by rw [expiry]⟩
  cases input with
  | clockAdvances milliseconds =>
    refine ⟨⟨watched.known.found, ?_⟩, watched.awake, ?_⟩
    · intro message counts
      have before := watched.known.dated message counts
      simp only [EphemeralTasks.step, msTime] at before ⊢
      omega
    · exact watched.timed.later (Nat.le_add_right _ _) rfl fun front head => ⟨front, head, le_refl _⟩
  | messageStored message =>
    simp only [EphemeralTasks.step]
    split
    next here =>
      have room := (Bool.and_eq_true_iff.mp here).1
      refine fewer rfl rfl rfl rfl ?_ ?_
      · intro row stored
        rcases List.mem_append.mp stored with old | new
        · exact watched.known.found row old
        · rw [List.mem_singleton.mp new]
          exact room
      · intro row stored counting
        rcases List.mem_append.mp stored with old | new
        · exact old
        · rw [List.mem_singleton.mp new] at counting
          exact absurd counting orderly
    next => exact watched
  | messageDisplayed message => exact watched.startEphemeralCountDown initialized positive message
  | messageDeleted message =>
    refine fewer rfl rfl rfl rfl ?_ ?_
    · exact fun row stored => watched.known.found row (List.mem_filter.mp stored).1
    · exact fun row stored _ => (List.mem_filter.mp stored).1
  | chatRoomInserted chatRoom =>
    simp only [EphemeralTasks.step]
    split
    · exact watched
    · refine fewer rfl rfl rfl rfl ?_ ?_
      · intro row stored
        have before := List.contains_iff_mem.mp (watched.known.found row stored)
        exact List.contains_iff_mem.mpr (List.mem_append_left _ before)
      · exact fun row stored _ => stored
  | chatRoomDeleted chatRoom =>
    refine fewer rfl rfl rfl rfl ?_ ?_
    · intro row stored
      obtain ⟨before, other⟩ := List.mem_filter.mp stored
      have room := List.contains_iff_mem.mp (watched.known.found row before)
      exact List.contains_iff_mem.mpr (List.mem_filter.mpr ⟨room, other⟩)
    · exact fun row stored _ => (List.mem_filter.mp stored).1
  | timerExpired =>
    simp only [EphemeralTasks.step]
    split
    · have known : Known setup tasks.ephemeralMessages { tasks with ephemeralTimer := none } :=
        ⟨watched.known.found, watched.known.dated⟩
      exact known.handleEphemeralMessagesOf initialized positive
    · exact watched
  | coreStarted => exact watched.known.initEphemeralMessages initialized positive
  | coreStopped => exact orderly.elim

/-- While the chat rooms of all messages are found, a countdown never runs without a message in the
list and a timer, which is due at most 10 ms after the second in which the front of the list expires
or 10 ms from now. -/
theorem countdown_watched {inputs : List Input} (row : Nat) (initialized : setup.isInitialized = true)
    (positive : ∀ maxMessages, setup.maxMessages = some maxMessages → 0 < maxMessages)
    (known : Known setup tasks.ephemeralMessages tasks)
    (orderly : Meets (step setup) Orderly (tasks.initEphemeralMessages setup) inputs)
    (stored : row ∈ (run (step setup) (tasks.initEphemeralMessages setup) inputs).1.rows)
    (counting : 0 < (run (step setup) (tasks.initEphemeralMessages setup) inputs).1.ephemeralExpireTime row) :
    ∃ front rest due, (run (step setup) (tasks.initEphemeralMessages setup) inputs).1.ephemeralMessages = front :: rest ∧
      (run (step setup) (tasks.initEphemeralMessages setup) inputs).1.ephemeralTimer = some due ∧
      (due : Int) ≤ max
        (1000 * (run (step setup) (tasks.initEphemeralMessages setup) inputs).1.ephemeralExpireTime front + 1009)
        ((run (step setup) (tasks.initEphemeralMessages setup) inputs).1.clock + 10) := by
  have watched := @run_invariant _ _ _ (EphemeralTasks.step setup) Orderly (fun _ tasks => Watched setup tasks)
    (fun _ _ _ orderly watched => watched.step initialized positive orderly) [] _ _
    (known.initEphemeralMessages initialized positive) orderly
  obtain ⟨front, rest, shape⟩ := List.exists_cons_of_ne_nil (watched.awake row stored counting)
  obtain ⟨due, armed, bound⟩ := watched.timed front (by rw [shape]; rfl)
  exact ⟨front, rest, due, shape, armed, bound⟩

theorem oneChatRoom_known (setup : EphemeralSetup) : Known setup oneChatRoom.ephemeralMessages oneChatRoom := by
  refine ⟨fun _ stored => absurd stored List.not_mem_nil, ?_⟩
  intro message counts
  cases counts with
  | inl listed => exact absurd listed List.not_mem_nil
  | inr counting => exact absurd counting (lt_irrefl 0)

theorem countdown_watched_of_five :
    ∃ front rest due,
      (run (step fiveSeconds) (oneChatRoom.initEphemeralMessages fiveSeconds)
        [.messageStored 7, .messageDisplayed 7, .clockAdvances 2000]).1.ephemeralMessages = front :: rest ∧
      (run (step fiveSeconds) (oneChatRoom.initEphemeralMessages fiveSeconds)
        [.messageStored 7, .messageDisplayed 7, .clockAdvances 2000]).1.ephemeralTimer = some due ∧
      (due : Int) ≤ max (1000 * (run (step fiveSeconds) (oneChatRoom.initEphemeralMessages fiveSeconds)
          [.messageStored 7, .messageDisplayed 7, .clockAdvances 2000]).1.ephemeralExpireTime front + 1009)
        ((run (step fiveSeconds) (oneChatRoom.initEphemeralMessages fiveSeconds)
          [.messageStored 7, .messageDisplayed 7, .clockAdvances 2000]).1.clock + 10) := by
  apply countdown_watched 7 rfl _ (oneChatRoom_known _)
  · exact ⟨lt_irrefl 0, trivial, trivial, trivial⟩
  · decide
  · decide
  · intro maxMessages limited
    cases limited
    decide

section Lost

variable {lost : List Nat} {count : Nat}

/-- The list is empty, and some messages of chat rooms that are not found expire before all others. -/
structure HeldBack (setup : EphemeralSetup) (lost : List Nat) (tasks : EphemeralTasks) : Prop where
  empty : tasks.ephemeralMessages = []
  stored : ∀ row ∈ lost, row ∈ tasks.rows ∧ 0 < tasks.ephemeralExpireTime row
  unfound : ∀ row ∈ lost, setup.chatRoom row ∉ tasks.chatRooms
  first : ∀ message, 0 < tasks.ephemeralExpireTime message →
    message ∈ lost ∨ ∀ row ∈ lost, tasks.ephemeralExpireTime row < tasks.ephemeralExpireTime message

/-- The lost messages stay, their chat rooms stay away, and what is displayed expires after them. -/
def LeavesLost (setup : EphemeralSetup) (lost : List Nat) (tasks : EphemeralTasks) : Input → Prop
  | .messageDisplayed message =>
    ∀ row ∈ lost, tasks.ephemeralExpireTime row < tasks.msTime + setup.ephemeralLifetime message
  | .messageDeleted message => message ∉ lost
  | .chatRoomInserted chatRoom => ∀ row ∈ lost, setup.chatRoom row ≠ chatRoom
  | .chatRoomDeleted chatRoom => ∀ row ∈ lost, setup.chatRoom row ≠ chatRoom
  | _ => True

section Limited

variable (limited : setup.maxMessages = some count) (distinct : lost.Nodup) (many : count ≤ lost.length)
include limited distinct many

/-- The lost messages take all places that the database gives. -/
theorem HeldBack.getEphemeralMessages (held : HeldBack setup lost tasks) : tasks.getEphemeralMessages setup = [] := by
  apply List.filter_eq_nil_iff.mpr
  intro row selected
  rw [selectedRows, limited] at selected
  have member : row ∈ lost := by
    apply mem_of_mem_take_insertionSort distinct many _ _ selected
    · intro other inside
      exact List.mem_filter.mpr ⟨(held.stored other inside).1, decide_eq_true (held.stored other inside).2⟩
    · intro other stored
      exact held.first other (of_decide_eq_true (List.mem_filter.mp stored).2)
  rw [List.contains_iff_mem]
  exact held.unfound row member

theorem HeldBack.initEphemeralMessages (held : HeldBack setup lost tasks) :
    HeldBack setup lost (tasks.initEphemeralMessages setup) := by
  have none := held.getEphemeralMessages limited distinct many
  unfold EphemeralTasks.initEphemeralMessages
  split
  · simp only [none]
    exact ⟨rfl, held.stored, held.unfound, held.first⟩
  · exact held

theorem HeldBack.startEphemeralCountDown {message : Nat} (held : HeldBack setup lost tasks)
    (after : ∀ row ∈ lost, tasks.ephemeralExpireTime row < tasks.msTime + setup.ephemeralLifetime message) :
    HeldBack setup lost (tasks.startEphemeralCountDown setup message).1 := by
  unfold EphemeralTasks.startEphemeralCountDown
  split
  next found =>
    have other : ∀ row ∈ lost, row ≠ message := by
      intro row member same
      exact held.unfound row member (same ▸ List.contains_iff_mem.mp found)
    simp only [updateEphemeralMessages, held.empty, List.getLast?_nil]
    apply HeldBack.initEphemeralMessages limited distinct many
    refine ⟨rfl, ?_, held.unfound, ?_⟩
    · intro row member
      simp only [Function.update_of_ne (other row member)]
      exact held.stored row member
    · intro counting positive
      by_cases same : counting = message
      · subst same
        refine .inr fun row member => ?_
        simp only [Function.update_self, Function.update_of_ne (other row member)]
        exact after row member
      · simp only [Function.update_of_ne same] at positive ⊢
        refine (held.first counting positive).imp_right fun before row member => ?_
        rw [Function.update_of_ne (other row member)]
        exact before row member
  next => exact held

theorem HeldBack.step (held : HeldBack setup lost tasks) {input : Input} (leaves : LeavesLost setup lost tasks input) :
    HeldBack setup lost (EphemeralTasks.step setup tasks input).1 ∧
      ∀ message time, .messageDeleted message time ∉ (EphemeralTasks.step setup tasks input).2 := by
  have nothing : ∀ message time, EphemeralEvent.messageDeleted message time ∉ [] := fun _ _ => List.not_mem_nil
  cases input with
  | clockAdvances milliseconds => exact ⟨⟨held.empty, held.stored, held.unfound, held.first⟩, nothing⟩
  | messageStored message =>
    simp only [EphemeralTasks.step]
    split
    · refine ⟨⟨held.empty, ?_, held.unfound, held.first⟩, nothing⟩
      exact fun row member => (held.stored row member).imp_left (List.mem_append_left _)
    · exact ⟨held, nothing⟩
  | messageDisplayed message =>
    refine ⟨held.startEphemeralCountDown limited distinct many leaves, ?_⟩
    intro other time
    change _ ∉ (tasks.startEphemeralCountDown setup message).2
    unfold EphemeralTasks.startEphemeralCountDown
    split
    · simp only []
      split <;> simp
    · exact nothing other time
  | messageDeleted message =>
    refine ⟨⟨held.empty, ?_, held.unfound, held.first⟩, nothing⟩
    intro row member
    have other : row ≠ message := fun same => leaves (same ▸ member)
    exact (held.stored row member).imp_left fun stored => List.mem_filter.mpr ⟨stored, bne_iff_ne.mpr other⟩
  | chatRoomInserted chatRoom =>
    simp only [EphemeralTasks.step]
    split
    · exact ⟨held, nothing⟩
    · refine ⟨⟨held.empty, held.stored, ?_, held.first⟩, nothing⟩
      intro row member inserted
      rcases List.mem_append.mp inserted with before | new
      · exact held.unfound row member before
      · exact leaves row member (List.mem_singleton.mp new)
  | chatRoomDeleted chatRoom =>
    refine ⟨⟨held.empty, ?_, ?_, held.first⟩, nothing⟩
    · intro row member
      exact (held.stored row member).imp_left fun stored =>
        List.mem_filter.mpr ⟨stored, bne_iff_ne.mpr (leaves row member)⟩
    · exact fun row member inside => held.unfound row member (List.mem_filter.mp inside).1
  | timerExpired =>
    simp only [EphemeralTasks.step]
    split
    · unfold ephemeralMessageTimerExpired handleEphemeralMessages
      simp only [held.empty, handleEphemeralMessagesOf]
      refine ⟨HeldBack.initEphemeralMessages limited distinct many ?_, nothing⟩
      exact ⟨rfl, held.stored, held.unfound, held.first⟩
    · exact ⟨held, nothing⟩
  | coreStarted => exact ⟨held.initEphemeralMessages limited distinct many, nothing⟩
  | coreStopped => exact ⟨⟨rfl, held.stored, held.unfound, held.first⟩, nothing⟩

end Limited

/-- As many messages as the database gives at a time, when their chat rooms are not found and they
expire first, keep every other message from being deleted, also when the core starts again. -/
theorem lost_messages_block {inputs : List Input} (limited : setup.maxMessages = some count) (distinct : lost.Nodup)
    (many : count ≤ lost.length) (held : HeldBack setup lost tasks)
    (leaves : Meets (step setup) (LeavesLost setup lost) tasks inputs) (message : Nat) (time : Int) :
    .messageDeleted message time ∉ (run (step setup) tasks inputs).2 := by
  have whole := run_invariant
    (fun past tasks => HeldBack setup lost tasks ∧ ∀ message time, .messageDeleted message time ∉ past)
    (fun past tasks input leaves kept => by
      obtain ⟨next, silent⟩ := kept.1.step limited distinct many leaves
      refine ⟨next, fun message time member => ?_⟩
      rcases List.mem_append.mp member with before | now
      · exact kept.2 message time before
      · exact silent message time now)
    ⟨held, fun _ _ => List.not_mem_nil⟩ leaves
  exact whole.2 message time

/-- Ten messages of a chat room that is not found, and one more chat room. -/
def lostChatRoom : EphemeralTasks where
  clock := 5000
  chatRooms := [1]
  rows := List.range 10
  ephemeralExpireTime message := if message < 10 then 1 else 0
  ephemeralMessages := []
  ephemeralTimer := none

def lostSetup : EphemeralSetup where
  ephemeralLifetime _ := 60
  chatRoom message := if message < 10 then 0 else 1

/-- A message of the other chat room stays long after its minute. -/
theorem ten_lost_messages_block :
    (run (step lostSetup) lostChatRoom
      [.messageStored 10, .messageDisplayed 10, .clockAdvances 100000, .coreStarted, .timerExpired]).1.rows =
        List.range 11 ∧
      .messageDeleted 10 105 ∉ (run (step lostSetup) lostChatRoom
        [.messageStored 10, .messageDisplayed 10, .clockAdvances 100000, .coreStarted, .timerExpired]).2 := by
  have held : HeldBack lostSetup (List.range 10) lostChatRoom := by
    refine ⟨rfl, by decide, by decide, ?_⟩
    intro message counting
    by_cases early : message < 10
    · exact .inl (List.mem_range.mpr early)
    · simp [lostChatRoom, early] at counting
  refine ⟨by decide, lost_messages_block rfl List.nodup_range (le_refl 10) held ?_ 10 105⟩
  refine ⟨trivial, ?_, trivial, trivial, trivial, trivial⟩
  simp only [LeavesLost]
  decide

end Lost

end Liblinphone.EphemeralTasks
