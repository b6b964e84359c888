import Mathlib.Data.List.Sort
import Mathlib.Logic.Function.Basic
import Liblinphone.Library.Run

/-! The ephemeral messages whose countdown runs. The database holds them all; the core keeps
those that expire first in a list and one timer for its front. Messages are numbered as their
events in the database, times are in seconds and the clock counts milliseconds. -/

namespace Liblinphone

/-- What stays the same while the core runs. -/
structure EphemeralSetup where
  /-- The lifetime of each message, fixed when it is created. -/
  ephemeralLifetime : Nat → Int
  chatRoom : Nat → Nat
  isInitialized : Bool := true
  /-- `EPHEMERAL_MESSAGE_TASKS_MAX_NB`; only the Sqlite3 backend limits the messages it reads. -/
  maxMessages : Option Nat := some 10

/-- The core, the database and the clock. -/
structure EphemeralTasks where
  clock : Nat
  /-- The chat rooms that the core finds. -/
  chatRooms : List Nat
  /-- The rows of `chat_message_ephemeral_event`. -/
  rows : List Nat
  /-- The time that each message and its row hold, 0 before the countdown. -/
  ephemeralExpireTime : Nat → Int
  ephemeralMessages : List Nat
  /-- When the timer is due. -/
  ephemeralTimer : Option Nat

inductive EphemeralEvent where
  | countDownStarted (message : Nat) (time : Int)
  | timerStartedNotified (message : Nat)
  | messageDeleted (message : Nat) (time : Int)
deriving DecidableEq

namespace EphemeralTasks

section
variable (setup : EphemeralSetup) (tasks : EphemeralTasks)

def msTime : Int := tasks.clock / 1000

/-- The delay is an unsigned int in milliseconds. -/
def startEphemeralMessageTimer (expireTime : Int) : EphemeralTasks :=
  let time := expireTime - tasks.msTime
  let timeoutValueMs := if 0 < time then time.toNat * 1000 % UInt32.size else 10
  { tasks with ephemeralTimer := some (tasks.clock + timeoutValueMs) }

/-- The rows whose countdown runs, by expiry. -/
def expiringRows : List Nat :=
  (tasks.rows.filter fun row => 0 < tasks.ephemeralExpireTime row).insertionSort
    fun left right => tasks.ephemeralExpireTime left ≤ tasks.ephemeralExpireTime right

def selectedRows : List Nat :=
  match setup.maxMessages with
  | some maxMessages => tasks.expiringRows.take maxMessages
  | none => tasks.expiringRows

/-- The rows count for the limit also when their chat room is not found. -/
def getEphemeralMessages : List Nat :=
  (tasks.selectedRows setup).filter fun row => tasks.chatRooms.contains (setup.chatRoom row)

def initEphemeralMessages : EphemeralTasks :=
  if setup.isInitialized then
    let ephemeralMessages := tasks.getEphemeralMessages setup
    let tasks := { tasks with ephemeralMessages }
    match ephemeralMessages with
    | [] => tasks
    | message :: _ => tasks.startEphemeralMessageTimer (tasks.ephemeralExpireTime message)
  else tasks

/-- A message that expires before one of the list goes before the predecessor of that one. -/
def updateEphemeralMessages (message : Nat) : EphemeralTasks :=
  match tasks.ephemeralMessages.getLast? with
  | none => tasks.initEphemeralMessages setup
  | some lastmsg =>
    if setup.ephemeralLifetime lastmsg < setup.ephemeralLifetime message then tasks
    else
      match tasks.ephemeralMessages.findIdx? fun msg =>
          tasks.ephemeralExpireTime message < tasks.ephemeralExpireTime msg with
      | none => tasks
      | some 0 =>
        { tasks with ephemeralMessages := message :: tasks.ephemeralMessages }.startEphemeralMessageTimer
          (tasks.ephemeralExpireTime message)
      | some (it + 1) => { tasks with ephemeralMessages := tasks.ephemeralMessages.insertIdx it message }

/-- The event of a message is found when its row and its chat room are. -/
def eventFound (message : Nat) : Bool :=
  tasks.chatRooms.contains (setup.chatRoom message) && tasks.rows.contains message

def startEphemeralCountDown (message : Nat) : EphemeralTasks × List EphemeralEvent :=
  if tasks.chatRooms.contains (setup.chatRoom message) then
    let expireTime := tasks.msTime + setup.ephemeralLifetime message
    let started := { tasks with ephemeralExpireTime := Function.update tasks.ephemeralExpireTime message expireTime }
    (started.updateEphemeralMessages setup message, .countDownStarted message tasks.msTime ::
      if tasks.eventFound setup message then [.timerStartedNotified message] else [])
  else (tasks, [])

def deleteFromDatabase (message : Nat) : EphemeralTasks := { tasks with rows := tasks.rows.filter (· != message) }

/-- The recursion on the list, whose front has expired as long as it goes on. -/
def handleEphemeralMessagesOf (currentTime : Int) (tasks : EphemeralTasks) :
    List Nat → EphemeralTasks × List EphemeralEvent
  | [] => ({ tasks with ephemeralMessages := [] }.initEphemeralMessages setup, [])
  | message :: rest =>
    if tasks.ephemeralExpireTime message < currentTime then
      if tasks.eventFound setup message then
        let (handled, events) := handleEphemeralMessagesOf currentTime (tasks.deleteFromDatabase message) rest
        (handled, .messageDeleted message currentTime :: events)
      else handleEphemeralMessagesOf currentTime tasks rest
    else
      ({ tasks with ephemeralMessages := message :: rest }.startEphemeralMessageTimer
        (tasks.ephemeralExpireTime message), [])

def handleEphemeralMessages (currentTime : Int) : EphemeralTasks × List EphemeralEvent :=
  handleEphemeralMessagesOf setup currentTime tasks tasks.ephemeralMessages

def ephemeralMessageTimerExpired : EphemeralTasks × List EphemeralEvent :=
  { tasks with ephemeralTimer := none }.handleEphemeralMessages setup tasks.msTime

def uninit : EphemeralTasks := { tasks with ephemeralTimer := none, ephemeralMessages := [] }

/-- The events of the chat room go with it. -/
def deleteChatRoom (chatRoom : Nat) : EphemeralTasks :=
  { tasks with chatRooms := tasks.chatRooms.filter (· != chatRoom)
               rows := tasks.rows.filter fun row => setup.chatRoom row != chatRoom }

end

/-- What happens to the ephemeral messages. -/
inductive Input where
  | clockAdvances (milliseconds : Nat)
  | messageStored (message : Nat)
  /-- The message moves to the state Displayed. -/
  | messageDisplayed (message : Nat)
  | messageDeleted (message : Nat)
  | chatRoomInserted (chatRoom : Nat)
  | chatRoomDeleted (chatRoom : Nat)
  | timerExpired
  | coreStarted
  | coreStopped

/-- The main loop calls a timer that is due. -/
def timerDue (tasks : EphemeralTasks) : Bool := tasks.ephemeralTimer.any (· ≤ tasks.clock)

def step (setup : EphemeralSetup) (tasks : EphemeralTasks) : Input → EphemeralTasks × List EphemeralEvent
  | .clockAdvances milliseconds => ({ tasks with clock := tasks.clock + milliseconds }, [])
  | .messageStored message =>
    if tasks.chatRooms.contains (setup.chatRoom message) && !tasks.rows.contains message then
      ({ tasks with rows := tasks.rows ++ [message] }, [])
    else (tasks, [])
  | .messageDisplayed message => tasks.startEphemeralCountDown setup message
  | .messageDeleted message => (tasks.deleteFromDatabase message, [])
  | .chatRoomInserted chatRoom =>
    if tasks.chatRooms.contains chatRoom then (tasks, []) else ({ tasks with chatRooms := tasks.chatRooms ++ [chatRoom] }, [])
  | .chatRoomDeleted chatRoom => (tasks.deleteChatRoom setup chatRoom, [])
  | .timerExpired => if tasks.timerDue then tasks.ephemeralMessageTimerExpired setup else (tasks, [])
  | .coreStarted => (tasks.initEphemeralMessages setup, [])
  | .coreStopped => (tasks.uninit, [])

end EphemeralTasks
end Liblinphone
