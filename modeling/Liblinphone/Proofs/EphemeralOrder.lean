import Liblinphone.Proofs.EphemeralTasks

/-! The order of the list. A message that expires between two of the list is put before one that
expires earlier, which then waits for it. In all other cases the list stays in order, and then an
overdue message is served next. -/

namespace Liblinphone.EphemeralTasks

open Library

variable {setup : EphemeralSetup} {tasks : EphemeralTasks}

def Ordered (tasks : EphemeralTasks) : Prop :=
  tasks.ephemeralMessages.Pairwise fun left right => tasks.ephemeralExpireTime left ≤ tasks.ephemeralExpireTime right

/-- The list is in order, and no row that waits outside expires before one of the list. -/
structure Lined (listed : List Nat) (tasks : EphemeralTasks) : Prop where
  ordered : listed.Pairwise fun left right => tasks.ephemeralExpireTime left ≤ tasks.ephemeralExpireTime right
  outside : ∀ row ∈ tasks.rows, 0 < tasks.ephemeralExpireTime row → row ∉ listed →
    ∀ other ∈ listed, tasks.ephemeralExpireTime other ≤ tasks.ephemeralExpireTime row

theorem expiringRows_ordered (tasks : EphemeralTasks) :
    tasks.expiringRows.Pairwise fun left right => tasks.ephemeralExpireTime left ≤ tasks.ephemeralExpireTime right := by
  have total : Std.Total fun left right => tasks.ephemeralExpireTime left ≤ tasks.ephemeralExpireTime right :=
    ⟨fun left right => le_total (tasks.ephemeralExpireTime left) (tasks.ephemeralExpireTime right)⟩
  have transitive : IsTrans Nat fun left right => tasks.ephemeralExpireTime left ≤ tasks.ephemeralExpireTime right :=
    ⟨fun _ _ _ => le_trans⟩
  exact List.pairwise_insertionSort _ _

theorem selectedRows_ordered (setup : EphemeralSetup) (tasks : EphemeralTasks) :
    (tasks.selectedRows setup).Pairwise fun left right =>
      tasks.ephemeralExpireTime left ≤ tasks.ephemeralExpireTime right := by
  unfold selectedRows
  split
  · exact tasks.expiringRows_ordered.sublist (List.take_sublist _ _)
  · exact tasks.expiringRows_ordered

theorem selectedRows_first {row other : Nat} (counting : row ∈ tasks.expiringRows)
    (left : row ∉ tasks.selectedRows setup) (selected : other ∈ tasks.selectedRows setup) :
    tasks.ephemeralExpireTime other ≤ tasks.ephemeralExpireTime row := by
  unfold selectedRows at left selected
  split at left
  next maxMessages limited =>
    rw [limited] at selected
    have ordered := tasks.expiringRows_ordered
    rw [← List.take_append_drop maxMessages tasks.expiringRows] at ordered counting
    have dropped := (List.mem_append.mp counting).resolve_left left
    exact (List.pairwise_append.mp ordered).2.2 other selected row dropped
  next => exact absurd counting left

theorem Known.initEphemeralMessages_lined {listed : List Nat} (initialized : setup.isInitialized = true)
    (known : Known setup listed tasks) :
    Lined (tasks.initEphemeralMessages setup).ephemeralMessages (tasks.initEphemeralMessages setup) := by
  have lined : Lined (tasks.getEphemeralMessages setup) tasks := by
    refine ⟨(tasks.selectedRows_ordered setup).filter _, ?_⟩
    intro row stored counting missing other read
    refine selectedRows_first (mem_expiringRows.mpr ⟨stored, counting⟩) ?_ (List.mem_filter.mp read).1
    exact fun selected => missing (List.mem_filter.mpr ⟨selected, known.found row stored⟩)
  unfold EphemeralTasks.initEphemeralMessages
  rw [if_pos initialized]
  simp only []
  split
  · exact ⟨lined.ordered, lined.outside⟩
  · exact ⟨lined.ordered, lined.outside⟩

theorem Known.handleEphemeralMessagesOf_lined (initialized : setup.isInitialized = true) {currentTime : Int}
    {messages : List Nat} (known : Known setup messages tasks) (lined : Lined messages tasks) :
    Lined (EphemeralTasks.handleEphemeralMessagesOf setup currentTime tasks messages).1.ephemeralMessages
      (EphemeralTasks.handleEphemeralMessagesOf setup currentTime tasks messages).1 := by
  induction messages generalizing tasks with
  | nil =>
    have emptied : Known setup [] { tasks with ephemeralMessages := [] } := ⟨known.found, known.dated⟩
    exact emptied.initEphemeralMessages_lined initialized
  | cons message rest following =>
    have later : Known setup rest tasks :=
      ⟨known.found, fun other counts => known.dated other (counts.imp_left (List.mem_cons_of_mem message))⟩
    have tail := (List.pairwise_cons.mp lined.ordered).2
    have outside {row : Nat} (stored : row ∈ tasks.rows) (counting : 0 < tasks.ephemeralExpireTime row)
        (different : row ≠ message) (missing : row ∉ rest) (other : Nat) (member : other ∈ rest) :
        tasks.ephemeralExpireTime other ≤ tasks.ephemeralExpireTime row := by
      apply lined.outside row stored counting _ other (List.mem_cons_of_mem message member)
      exact fun member => (List.mem_cons.mp member).elim different missing
    unfold EphemeralTasks.handleEphemeralMessagesOf
    split
    · split
      · have deleted : Known setup rest (tasks.deleteFromDatabase message) :=
          ⟨fun row stored => known.found row (List.mem_filter.mp stored).1, later.dated⟩
        apply following deleted
        refine ⟨tail, ?_⟩
        intro row stored counting missing
        obtain ⟨before, different⟩ := List.mem_filter.mp stored
        exact outside before counting (bne_iff_ne.mp different) missing
      next unfound =>
        apply following later
        refine ⟨tail, ?_⟩
        intro row stored counting missing
        apply outside stored counting _ missing
        -- a row that is left would have been found
        rintro rfl
        exact unfound (Bool.and_eq_true_iff.mpr ⟨known.found row stored, List.contains_iff_mem.mpr stored⟩)
    · exact ⟨lined.ordered, lined.outside⟩

/-- The list has messages that expire before the time and others that expire after it, but none
that expires at it. -/
def Between (tasks : EphemeralTasks) (expireTime : Int) : Prop :=
  (∃ early ∈ tasks.ephemeralMessages, tasks.ephemeralExpireTime early < expireTime) ∧
    (∃ late ∈ tasks.ephemeralMessages, expireTime < tasks.ephemeralExpireTime late) ∧
    ∀ other ∈ tasks.ephemeralMessages, tasks.ephemeralExpireTime other ≠ expireTime

/-- A message whose countdown has just begun, beside a list that is in order. -/
structure Begun (setup : EphemeralSetup) (message : Nat) (tasks : EphemeralTasks) : Prop where
  known : Known setup (message :: tasks.ephemeralMessages) tasks
  expiry : tasks.ephemeralExpireTime message = tasks.msTime + setup.ephemeralLifetime message
  ordered : Ordered tasks
  outside : ∀ row ∈ tasks.rows, row ≠ message → 0 < tasks.ephemeralExpireTime row → row ∉ tasks.ephemeralMessages →
    ∀ other ∈ tasks.ephemeralMessages, tasks.ephemeralExpireTime other ≤ tasks.ephemeralExpireTime row

section Begun

variable {message : Nat} (begun : Begun setup message tasks)
include begun

/-- Every row that waits outside expires after the whole list, once the new message does. -/
theorem Begun.lined
    (after : ∀ other ∈ tasks.ephemeralMessages, tasks.ephemeralExpireTime other ≤ tasks.ephemeralExpireTime message) :
    Lined tasks.ephemeralMessages tasks := by
  refine ⟨begun.ordered, ?_⟩
  intro row stored counting missing
  by_cases same : row = message
  · rw [same]
    exact after
  · exact begun.outside row stored same counting missing

/-- A list that takes the new message, which expires before one of it. -/
theorem Begun.lined_with {listed : List Nat} {late : Nat} (inside : late ∈ tasks.ephemeralMessages)
    (before : tasks.ephemeralExpireTime message < tasks.ephemeralExpireTime late)
    (members : ∀ other, other ∈ listed ↔ other = message ∨ other ∈ tasks.ephemeralMessages)
    (ordered : listed.Pairwise fun left right => tasks.ephemeralExpireTime left ≤ tasks.ephemeralExpireTime right) :
    Lined listed tasks := by
  refine ⟨ordered, ?_⟩
  intro row stored counting missing other member
  obtain ⟨different, outside⟩ := not_or.mp (mt (members row).mpr missing)
  rcases (members other).mp member with rfl | listed
  · have bound := begun.outside row stored different counting outside late inside
    omega
  · exact begun.outside row stored different counting outside other listed

/-- A message with a longer lifetime than the last one of the list expires after the list. -/
theorem Begun.after_last {last : Nat} (ends : tasks.ephemeralMessages.getLast? = some last)
    (longer : setup.ephemeralLifetime last < setup.ephemeralLifetime message) {other : Nat}
    (member : other ∈ tasks.ephemeralMessages) :
    tasks.ephemeralExpireTime other ≤ tasks.ephemeralExpireTime message := by
  obtain ⟨front, shape⟩ := List.getLast?_eq_some_iff.mp ends
  have dated := begun.known.dated last (.inl (List.mem_cons_of_mem message (by rw [shape]; simp)))
  have most : tasks.ephemeralExpireTime other ≤ tasks.ephemeralExpireTime last := by
    have ordered := begun.ordered
    rw [Ordered, shape] at ordered
    rw [shape] at member
    rcases List.mem_append.mp member with early | final
    · exact (List.pairwise_append.mp ordered).2.2 other early last List.mem_cons_self
    · rw [List.mem_singleton.mp final]
  have expiry := begun.expiry
  omega

/-- What stands around the place of a message that is neither first nor last. -/
theorem Begun.place {it : Nat} (found : tasks.ephemeralMessages.findIdx? (fun msg =>
      tasks.ephemeralExpireTime message < tasks.ephemeralExpireTime msg) = some (it + 1)) :
    ∃ front predecessor hit after, tasks.ephemeralMessages = front ++ predecessor :: hit :: after ∧
      tasks.ephemeralMessages.insertIdx it message = front ++ message :: predecessor :: hit :: after ∧
      tasks.ephemeralExpireTime predecessor ≤ tasks.ephemeralExpireTime message ∧
      tasks.ephemeralExpireTime message < tasks.ephemeralExpireTime hit ∧
      ((front ++ message :: predecessor :: hit :: after).Pairwise (fun left right =>
        tasks.ephemeralExpireTime left ≤ tasks.ephemeralExpireTime right) ↔
          tasks.ephemeralExpireTime message ≤ tasks.ephemeralExpireTime predecessor) := by
  obtain ⟨before, hit, after, shape, place, later, missed⟩ := findIdx?_split found
  have small : ∀ other ∈ before, tasks.ephemeralExpireTime other ≤ tasks.ephemeralExpireTime message :=
    fun other member => not_lt.mp (of_decide_eq_false (missed other member))
  rcases List.eq_nil_or_concat before with rfl | ⟨front, predecessor, rfl⟩
  · simp at place
  · simp only [List.concat_eq_append, List.append_assoc, List.singleton_append, List.length_append, List.length_singleton,
      Nat.add_right_cancel_iff, List.mem_append, List.mem_singleton] at shape place small
    refine ⟨front, predecessor, hit, after, shape, ?_, small predecessor (.inr rfl), of_decide_eq_true later, ?_⟩
    · rw [shape, ← place, insertIdx_length]
    · have ordered := begun.ordered
      rw [Ordered, shape] at ordered
      exact pairwise_insert_iff ordered (fun other member => small other (.inl member)) (of_decide_eq_true later)

theorem Begun.updateEphemeralMessages (initialized : setup.isInitialized = true)
    (apart : ¬Between tasks (tasks.ephemeralExpireTime message)) :
    Lined (tasks.updateEphemeralMessages setup message).ephemeralMessages (tasks.updateEphemeralMessages setup message) := by
  unfold EphemeralTasks.updateEphemeralMessages
  split
  · exact begun.known.initEphemeralMessages_lined initialized
  next lastmsg ends =>
    split
    next longer => exact begun.lined fun other member => begun.after_last ends longer member
    next =>
      split
      next none =>
        apply begun.lined
        intro other member
        exact not_lt.mp (of_decide_eq_false (List.findIdx?_eq_none_iff.mp none other member))
      next first =>
        obtain ⟨before, hit, after, shape, place, later, -⟩ := findIdx?_split first
        rw [List.length_eq_zero_iff] at place
        subst place
        have sooner : tasks.ephemeralExpireTime message < tasks.ephemeralExpireTime hit := of_decide_eq_true later
        have inside : hit ∈ tasks.ephemeralMessages := by simp [shape]
        have lined : Lined (message :: tasks.ephemeralMessages) tasks := by
          apply begun.lined_with inside sooner fun _ => List.mem_cons
          refine List.pairwise_cons.mpr ⟨?_, begun.ordered⟩
          intro other member
          have ordered := begun.ordered
          rw [Ordered, shape] at ordered
          rw [shape] at member
          rcases List.mem_cons.mp member with rfl | member
          · exact sooner.le
          · exact sooner.le.trans ((List.pairwise_cons.mp ordered).1 other member)
        exact ⟨lined.ordered, lined.outside⟩
      next it found =>
        obtain ⟨front, predecessor, hit, after, shape, inserted, before, later, ordered⟩ := begun.place found
        have inside : hit ∈ tasks.ephemeralMessages := by simp [shape]
        have lined : Lined (tasks.ephemeralMessages.insertIdx it message) tasks := by
          apply begun.lined_with inside later
          · intro other
            rw [inserted, shape]
            simp only [List.mem_append, List.mem_cons]
            tauto
          · rw [inserted]
            apply ordered.mpr
            by_contra greater
            apply apart
            refine ⟨⟨predecessor, by simp [shape], not_le.mp greater⟩, ⟨hit, inside, later⟩, ?_⟩
            -- what stands before the predecessor expires no later, what stands behind it later
            have sorted := begun.ordered
            rw [Ordered, shape] at sorted
            obtain ⟨-, backs, across⟩ := List.pairwise_append.mp sorted
            obtain ⟨-, tail⟩ := List.pairwise_cons.mp backs
            intro other member
            rw [shape] at member
            rcases List.mem_append.mp member with early | member
            · have bound := across other early predecessor List.mem_cons_self
              omega
            · rcases List.mem_cons.mp member with rfl | member
              · omega
              · rcases List.mem_cons.mp member with rfl | member
                · omega
                · have bound := (List.pairwise_cons.mp tail).1 other member
                  omega
        exact ⟨lined.ordered, lined.outside⟩

theorem Begun.apart (ordered : Ordered (tasks.updateEphemeralMessages setup message)) :
    ¬Between tasks (tasks.ephemeralExpireTime message) := by
  rintro ⟨⟨early, inside, before⟩, ⟨late, among, after⟩, different⟩
  unfold EphemeralTasks.updateEphemeralMessages at ordered
  split at ordered
  next none =>
    rw [List.getLast?_eq_none_iff.mp none] at inside
    exact List.not_mem_nil inside
  next lastmsg ends =>
    split at ordered
    next longer => exact absurd after (not_lt.mpr (begun.after_last ends longer among))
    next =>
      split at ordered
      next none => exact of_decide_eq_false (List.findIdx?_eq_none_iff.mp none late among) after
      next first =>
        have least := (List.pairwise_cons.mp ordered).1 early inside
        exact absurd before (not_lt.mpr least)
      next it found =>
        obtain ⟨front, predecessor, hit, rest, shape, inserted, small, later, kept⟩ := begun.place found
        have sorted : (tasks.ephemeralMessages.insertIdx it message).Pairwise fun left right =>
          tasks.ephemeralExpireTime left ≤ tasks.ephemeralExpireTime right := ordered
        rw [inserted] at sorted
        exact different predecessor (by simp [shape]) (le_antisymm small (kept.mp sorted))

end Begun

/-- The list is watched and in line. -/
structure Served (setup : EphemeralSetup) (tasks : EphemeralTasks) : Prop where
  watched : Watched setup tasks
  lined : Lined tasks.ephemeralMessages tasks

/-- Besides, no message is displayed a second time. -/
def Once (tasks : EphemeralTasks) : Input → Prop
  | .messageDisplayed message => message ∉ tasks.ephemeralMessages ∧ ¬0 < tasks.ephemeralExpireTime message
  | input => Orderly tasks input

/-- A message that is displayed does not expire between two of the list. -/
def InPlace (setup : EphemeralSetup) (tasks : EphemeralTasks) : Input → Prop
  | .messageDisplayed message =>
    setup.chatRoom message ∈ tasks.chatRooms → ¬Between tasks (tasks.msTime + setup.ephemeralLifetime message)
  | _ => True

theorem Once.orderly {input : Input} (once : Once tasks input) : Orderly tasks input := by
  cases input with
  | messageDisplayed message => trivial
  | _ => exact once

section Displayed

variable {message : Nat}

/-- The message that the countdown leaves to the list. -/
theorem Served.begun (served : Served setup tasks) (unlisted : message ∉ tasks.ephemeralMessages) :
    Begun setup message { tasks with ephemeralExpireTime := Function.update tasks.ephemeralExpireTime message
                                       (tasks.msTime + setup.ephemeralLifetime message) } := by
  have same {other : Nat} (listed : other ∈ tasks.ephemeralMessages) : other ≠ message :=
    fun equal => unlisted (equal ▸ listed)
  refine ⟨⟨served.watched.known.found, ?_⟩, Function.update_self .., ?_, ?_⟩
  · intro other counts
    by_cases equal : other = message
    · simp only [equal, Function.update_self]
      exact le_refl _
    · simp only [Function.update_of_ne equal] at counts ⊢
      apply served.watched.known.dated
      exact counts.imp_left fun member => (List.mem_cons.mp member).resolve_left equal
  · refine served.lined.ordered.imp_of_mem ?_
    intro left right first second order
    simp only [Function.update_of_ne (same first), Function.update_of_ne (same second)]
    exact order
  · intro row stored different counting missing other member
    simp only [Function.update_of_ne different, Function.update_of_ne (same member)] at counting ⊢
    exact served.lined.outside row stored counting missing other member

theorem between_update_iff {expireTime : Int} (unlisted : message ∉ tasks.ephemeralMessages) :
    Between { tasks with ephemeralExpireTime := Function.update tasks.ephemeralExpireTime message expireTime }
      expireTime ↔ Between tasks expireTime := by
  have same (other : Nat) (listed : other ∈ tasks.ephemeralMessages) :
      Function.update tasks.ephemeralExpireTime message expireTime other = tasks.ephemeralExpireTime other :=
    Function.update_of_ne (show other ≠ message from fun equal => unlisted (equal ▸ listed)) ..
  unfold Between
  simp only []
  constructor
  · rintro ⟨⟨early, inside, before⟩, ⟨late, among, after⟩, different⟩
    rw [same early inside] at before
    rw [same late among] at after
    refine ⟨⟨early, inside, before⟩, ⟨late, among, after⟩, ?_⟩
    intro other member
    rw [← same other member]
    exact different other member
  · rintro ⟨⟨early, inside, before⟩, ⟨late, among, after⟩, different⟩
    rw [← same early inside] at before
    rw [← same late among] at after
    refine ⟨⟨early, inside, before⟩, ⟨late, among, after⟩, ?_⟩
    intro other member
    rw [same other member]
    exact different other member

theorem Served.startEphemeralCountDown_iff (initialized : setup.isInitialized = true) (served : Served setup tasks)
    (unlisted : message ∉ tasks.ephemeralMessages) :
    (Ordered (tasks.startEphemeralCountDown setup message).1 ↔ InPlace setup tasks (.messageDisplayed message)) ∧
      (InPlace setup tasks (.messageDisplayed message) →
        Lined (tasks.startEphemeralCountDown setup message).1.ephemeralMessages
          (tasks.startEphemeralCountDown setup message).1) := by
  unfold EphemeralTasks.startEphemeralCountDown
  split
  next found =>
    have begun := served.begun unlisted
    have here := List.contains_iff_mem.mp found
    have apart (place : InPlace setup tasks (.messageDisplayed message)) :=
      begun.updateEphemeralMessages initialized (by
        rw [begun.expiry]
        exact mt (between_update_iff unlisted).mp (place here))
    refine ⟨⟨?_, fun place => (apart place).ordered⟩, apart⟩
    intro ordered _ between
    apply begun.apart ordered
    rw [begun.expiry]
    exact (between_update_iff unlisted).mpr between
  next lost =>
    have place : InPlace setup tasks (.messageDisplayed message) :=
      fun here => absurd (List.contains_iff_mem.mpr here) lost
    exact ⟨iff_of_true served.lined.ordered place, fun _ => served.lined⟩

end Displayed

section Initialized

variable (initialized : setup.isInitialized = true)
  (positive : ∀ maxMessages, setup.maxMessages = some maxMessages → 0 < maxMessages)
include initialized positive

theorem Served.step (served : Served setup tasks) {input : Input} (once : Once tasks input)
    (place : InPlace setup tasks input) : Served setup (EphemeralTasks.step setup tasks input).1 := by
  refine ⟨served.watched.step initialized positive once.orderly, ?_⟩
  have fewer (rows : List Nat) (kept : ∀ row ∈ rows, 0 < tasks.ephemeralExpireTime row → row ∈ tasks.rows) :
      Lined tasks.ephemeralMessages { tasks with rows := rows } := by
    refine ⟨served.lined.ordered, ?_⟩
    intro row stored counting
    exact served.lined.outside row (kept row stored counting) counting
  cases input with
  | clockAdvances milliseconds => exact ⟨served.lined.ordered, served.lined.outside⟩
  | messageStored message =>
    simp only [EphemeralTasks.step]
    split
    · apply fewer
      intro row stored counting
      rcases List.mem_append.mp stored with old | new
      · exact old
      · rw [List.mem_singleton.mp new] at counting
        exact absurd counting once
    · exact served.lined
  | messageDisplayed message => exact (served.startEphemeralCountDown_iff initialized once.1).2 place
  | messageDeleted message => exact fewer _ fun row stored _ => (List.mem_filter.mp stored).1
  | chatRoomInserted chatRoom =>
    simp only [EphemeralTasks.step]
    split
    · exact served.lined
    · exact ⟨served.lined.ordered, served.lined.outside⟩
  | chatRoomDeleted chatRoom =>
    have kept := fewer (tasks.rows.filter fun row => setup.chatRoom row != chatRoom) fun row stored _ =>
      (List.mem_filter.mp stored).1
    exact ⟨kept.ordered, kept.outside⟩
  | timerExpired =>
    simp only [EphemeralTasks.step]
    split
    · have known : Known setup tasks.ephemeralMessages { tasks with ephemeralTimer := none } :=
        ⟨served.watched.known.found, served.watched.known.dated⟩
      exact known.handleEphemeralMessagesOf_lined initialized ⟨served.lined.ordered, served.lined.outside⟩
    · exact served.lined
  | coreStarted => exact served.watched.known.initEphemeralMessages_lined initialized
  | coreStopped => exact once.elim

theorem Known.served {listed : List Nat} (known : Known setup listed tasks) :
    Served setup (tasks.initEphemeralMessages setup) :=
  ⟨known.initEphemeralMessages initialized positive, known.initEphemeralMessages_lined initialized⟩

end Initialized

/-- As long as no message is displayed twice, the list is in order in every state exactly when no
message that is displayed expires between two of the list. -/
theorem ordered_iff_in_place {inputs : List Input} (initialized : setup.isInitialized = true)
    (positive : ∀ maxMessages, setup.maxMessages = some maxMessages → 0 < maxMessages)
    (known : Known setup tasks.ephemeralMessages tasks)
    (once : Meets (step setup) Once (tasks.initEphemeralMessages setup) inputs) :
    (∀ before after, inputs = before ++ after →
        Ordered (run (step setup) (tasks.initEphemeralMessages setup) before).1) ↔
      Meets (step setup) (InPlace setup) (tasks.initEphemeralMessages setup) inputs := by
  have start := known.served initialized positive
  apply run_shows_iff _ _ start start.lined.ordered once
  · intro state input once served
    cases input with
    | messageDisplayed message => exact (served.startEphemeralCountDown_iff initialized once.1).1
    | _ => exact iff_of_true (served.step initialized positive once trivial).lined.ordered trivial
  · exact fun state input once place served => served.step initialized positive once place

/-- Messages that live for ten, twenty and thirty seconds. -/
def tensOfSeconds : EphemeralSetup where
  ephemeralLifetime message := 10 * message
  chatRoom _ := 0

/-- The second one is displayed last, and expires between the two others. -/
def displayedLast : List Input :=
  [.messageStored 1, .messageStored 2, .messageStored 3, .messageDisplayed 3, .messageDisplayed 1, .messageDisplayed 2]

theorem displayed_last_out_of_order :
    (run (step tensOfSeconds) (oneChatRoom.initEphemeralMessages tensOfSeconds) displayedLast).1.ephemeralMessages =
        [2, 1, 3] ∧
      ((∀ before after, displayedLast = before ++ after →
          Ordered (run (step tensOfSeconds) (oneChatRoom.initEphemeralMessages tensOfSeconds) before).1) ↔
        Meets (step tensOfSeconds) (InPlace tensOfSeconds) (oneChatRoom.initEphemeralMessages tensOfSeconds)
          displayedLast) := by
  refine ⟨by decide, ordered_iff_in_place rfl ?_ (oneChatRoom_known _) ?_⟩
  · intro maxMessages limited
    cases limited
    decide
  · refine ⟨?_, ?_, ?_, ?_, ?_, ?_, trivial⟩
    all_goals
      simp only [Once, Orderly]
      decide

/-- Then an overdue message is never passed over: the timer is due within 10 ms, and the front of the
list expires no later. -/
theorem overdue_message_next {inputs : List Input} (row : Nat) (initialized : setup.isInitialized = true)
    (positive : ∀ maxMessages, setup.maxMessages = some maxMessages → 0 < maxMessages)
    (known : Known setup tasks.ephemeralMessages tasks)
    (placed : Meets (step setup) (fun tasks input => Once tasks input ∧ InPlace setup tasks input)
      (tasks.initEphemeralMessages setup) inputs)
    (stored : row ∈ (run (step setup) (tasks.initEphemeralMessages setup) inputs).1.rows)
    (counting : 0 < (run (step setup) (tasks.initEphemeralMessages setup) inputs).1.ephemeralExpireTime row)
    (overdue : 1000 * ((run (step setup) (tasks.initEphemeralMessages setup) inputs).1.ephemeralExpireTime row + 1) ≤
      (run (step setup) (tasks.initEphemeralMessages setup) inputs).1.clock) :
    ∃ front rest due, (run (step setup) (tasks.initEphemeralMessages setup) inputs).1.ephemeralMessages = front :: rest ∧
      (run (step setup) (tasks.initEphemeralMessages setup) inputs).1.ephemeralExpireTime front ≤
        (run (step setup) (tasks.initEphemeralMessages setup) inputs).1.ephemeralExpireTime row ∧
      (run (step setup) (tasks.initEphemeralMessages setup) inputs).1.ephemeralTimer = some due ∧
      due ≤ (run (step setup) (tasks.initEphemeralMessages setup) inputs).1.clock + 10 := by
  have served := @run_invariant _ _ _ (EphemeralTasks.step setup)
    (fun tasks input => Once tasks input ∧ InPlace setup tasks input) (fun _ tasks => Served setup tasks)
    (fun _ _ _ placed served => served.step initialized positive placed.1 placed.2) [] _ _
    (known.served initialized positive) placed
  generalize (run (EphemeralTasks.step setup) (tasks.initEphemeralMessages setup) inputs).1 = final at *
  obtain ⟨front, rest, shape⟩ := List.exists_cons_of_ne_nil (served.watched.awake row stored counting)
  obtain ⟨due, armed, bound⟩ := served.watched.timed front (by rw [shape]; rfl)
  have first : final.ephemeralExpireTime front ≤ final.ephemeralExpireTime row := by
    by_cases listed : row ∈ final.ephemeralMessages
    · have ordered := served.lined.ordered
      rw [shape] at ordered listed
      rcases List.mem_cons.mp listed with rfl | behind
      · exact le_refl _
      · exact (List.pairwise_cons.mp ordered).1 row behind
    · exact served.lined.outside row stored counting listed front (by rw [shape]; exact List.mem_cons_self)
  refine ⟨front, rest, due, shape, first, armed, ?_⟩
  omega

theorem overdue_message_next_of_five :
    ∃ front rest due,
      (run (step fiveSeconds) (oneChatRoom.initEphemeralMessages fiveSeconds)
        [.messageStored 7, .messageDisplayed 7, .clockAdvances 6000]).1.ephemeralMessages = front :: rest ∧
      (run (step fiveSeconds) (oneChatRoom.initEphemeralMessages fiveSeconds)
          [.messageStored 7, .messageDisplayed 7, .clockAdvances 6000]).1.ephemeralExpireTime front ≤
        (run (step fiveSeconds) (oneChatRoom.initEphemeralMessages fiveSeconds)
          [.messageStored 7, .messageDisplayed 7, .clockAdvances 6000]).1.ephemeralExpireTime 7 ∧
      (run (step fiveSeconds) (oneChatRoom.initEphemeralMessages fiveSeconds)
        [.messageStored 7, .messageDisplayed 7, .clockAdvances 6000]).1.ephemeralTimer = some due ∧
      due ≤ (run (step fiveSeconds) (oneChatRoom.initEphemeralMessages fiveSeconds)
        [.messageStored 7, .messageDisplayed 7, .clockAdvances 6000]).1.clock + 10 := by
  apply overdue_message_next 7 rfl _ (oneChatRoom_known _)
  · refine ⟨⟨lt_irrefl 0, trivial⟩, ⟨?_, ?_⟩, ⟨trivial, trivial⟩, trivial⟩
    · simp only [Once]
      decide
    · rintro - ⟨⟨early, listed, -⟩, -⟩
      exact absurd listed List.not_mem_nil
  · decide
  · decide
  · decide
  · intro maxMessages limited
    cases limited
    decide

end Liblinphone.EphemeralTasks
