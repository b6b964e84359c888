import Liblinphone.Utils
import Liblinphone.Library.Keyed

/-! CPIM messages. A message has headers of its own, in namespaces, and headers of its
content. The parser makes a node of each header, and makes nothing of one that is not valid. -/

namespace Liblinphone.Cpim

open Library

def crlf : Text := ['\r', '\n']

/-- The year is counted from zero here. -/
structure DateTimeHeader where
  dateTime : Tm
  dateTimeOffset : Tm := {}
  signOffset : Text
deriving Repr, DecidableEq

namespace DateTimeHeader

/-- `while (result.tm_min > 59)`. -/
def raiseHour (result : Tm) : Tm :=
  if result.min > 59 then raiseHour { result with hour := result.hour + 1, min := result.min - 60 } else result
termination_by result.min.toNat
decreasing_by omega

/-- `while (result.tm_min < 0)`. -/
def lowerHour (result : Tm) : Tm :=
  if result.min < 0 then lowerHour { result with hour := result.hour - 1, min := result.min + 60 } else result
termination_by (-result.min).toNat
decreasing_by omega

def getTime (header : DateTimeHeader) : Int :=
  let result := { header.dateTime with year := header.dateTime.year - 1900 }
  let offset := header.dateTimeOffset
  if header.signOffset = ['+'] then
    Utils.getTmAsTimeT (raiseHour { result with hour := result.hour + offset.hour, min := result.min + offset.min })
  else if header.signOffset = ['-'] then
    Utils.getTmAsTimeT (lowerHour { result with hour := result.hour - offset.hour - offset.min })
  else Utils.getTmAsTimeT result

/-- `DateTimeHeader(time_t)`. The offset stays unset, and is not read without a sign. -/
def ofTime (time : Int) : DateTimeHeader :=
  let dateTime := Utils.getTimeTAsTm time
  { dateTime := { dateTime with year := dateTime.year + 1900 }, signOffset := ['Z'] }

def getName : Text := "DateTime".toList

def getValue (header : DateTimeHeader) : Text :=
  let dateTime := header.dateTime
  let offset := header.dateTimeOffset
  padded '0' 4 dateTime.year ++ '-' :: padded '0' 2 (dateTime.mon + 1) ++ '-' :: padded '0' 2 dateTime.mday ++
    'T' :: padded '0' 2 dateTime.hour ++ ':' :: padded '0' 2 dateTime.min ++ ':' :: padded '0' 2 dateTime.sec ++
    header.signOffset ++
    if header.signOffset = ['Z'] then [] else padded '0' 2 offset.hour ++ ':' :: padded '0' 2 offset.min

def asString (header : DateTimeHeader) : Text := getName ++ [':', ' '] ++ header.getValue ++ crlf

end DateTimeHeader

structure DateTimeOffsetNode where
  sign : Text := ['Z']
  hour : Int := 0
  minute : Int := 0
deriving Repr, DecidableEq

namespace DateTimeOffsetNode

def setHour (node : DateTimeOffsetNode) (value : Text) : DateTimeOffsetNode := { node with hour := Utils.stoi value }

def setMinute (node : DateTimeOffsetNode) (value : Text) : DateTimeOffsetNode :=
  { node with minute := Utils.stoi value }

def setSign (node : DateTimeOffsetNode) (value : Text) : DateTimeOffsetNode := { node with sign := value }

end DateTimeOffsetNode

structure DateTimeHeaderNode where
  time : Tm := {}
  timeOffset : Tm := {}
  signOffset : Text := []
deriving Repr, DecidableEq

namespace DateTimeHeaderNode

def ofHeader (header : DateTimeHeader) : DateTimeHeaderNode where
  time := header.dateTime
  timeOffset := header.dateTimeOffset
  signOffset := header.signOffset

def setYear (node : DateTimeHeaderNode) (value : Text) : DateTimeHeaderNode :=
  { node with time.year := Utils.stoi value }

def setMonth (node : DateTimeHeaderNode) (value : Text) : DateTimeHeaderNode :=
  { node with time.mon := Utils.stoi value - 1 }

def setMonthDay (node : DateTimeHeaderNode) (value : Text) : DateTimeHeaderNode :=
  { node with time.mday := Utils.stoi value }

def setHour (node : DateTimeHeaderNode) (value : Text) : DateTimeHeaderNode :=
  { node with time.hour := Utils.stoi value }

def setMinute (node : DateTimeHeaderNode) (value : Text) : DateTimeHeaderNode :=
  { node with time.min := Utils.stoi value }

def setSecond (node : DateTimeHeaderNode) (value : Text) : DateTimeHeaderNode :=
  { node with time.sec := Utils.stoi value }

def setOffset (node : DateTimeHeaderNode) (offset : DateTimeOffsetNode) : DateTimeHeaderNode :=
  { node with
    timeOffset.hour := offset.hour
    timeOffset.min := offset.minute
    signOffset := offset.sign }

def daysInMonth : List Int := [31, 28, 31, 30, 31, 30, 31, 31, 30, 31, 30, 31]

/-- There is no entry for the last month that the first check lets through. A zero stands
for what is read in its place. -/
def isValid (node : DateTimeHeaderNode) : Bool :=
  let time := node.time
  let isLeapYear := (time.year.tmod 4 == 0 && time.year.tmod 100 != 0) || time.year.tmod 400 == 0
  if time.mon < 1 ∨ time.mon > 12 then false
  else if time.mday < 1 ∨ (if time.mon = 2 ∧ isLeapYear then time.mday > 29
      else time.mday > daysInMonth.getD time.mon.toNat 0) then false
  else if time.hour > 24 ∨ time.min > 59 ∨ time.sec > 60 then false
  else if node.signOffset ≠ ['Z'] ∧ (node.timeOffset.hour > 24 ∨ time.min > 59) then false
  else true

def createHeader (node : DateTimeHeaderNode) : Option DateTimeHeader :=
  if node.isValid then some ⟨node.time, node.timeOffset, node.signOffset⟩ else none

end DateTimeHeaderNode

/-- What follows a text that has to be there. -/
def skip (wanted text : Text) : Option Text :=
  if wanted.isPrefixOf text then some (text.drop wanted.length) else none

/-- A letter of the grammar stands for either of its cases. -/
def skipLetter (letter : Char) : Text → Option Text
  | [] => none
  | char :: rest => if char = letter ∨ char = letter.toLower then some rest else none

/-- Exactly so many digits, and what follows them. -/
def readDigits (count : Nat) (text : Text) : Option (Text × Text) :=
  if (text.take count).length = count ∧ (text.take count).all Char.isDigit then some (text.take count, text.drop count)
  else none

/-- The rule `time-secfrac`, which nothing collects. -/
def skipFraction : Text → Option Text
  | '.' :: rest => if (rest.takeWhile Char.isDigit).isEmpty then none else some (rest.dropWhile Char.isDigit)
  | text => some text

/-- The rule `time-offset`. -/
def readOffset (text : Text) : Option (DateTimeOffsetNode × Text) :=
  match text with
  | [] => none
  | sign :: rest =>
    if sign = '+' ∨ sign = '-' then do
      let (hour, rest) ← readDigits 2 rest
      let rest ← skip [':'] rest
      let (minute, rest) ← readDigits 2 rest
      pure (((({} : DateTimeOffsetNode).setSign [sign]).setHour hour).setMinute minute, rest)
    else do
      let rest ← skipLetter 'Z' (sign :: rest)
      pure ({}, rest)

/-- The rule `full-date`. -/
def readFullDate (node : DateTimeHeaderNode) (text : Text) : Option (DateTimeHeaderNode × Text) := do
  let (year, rest) ← readDigits 4 text
  let rest ← skip ['-'] rest
  let (month, rest) ← readDigits 2 rest
  let rest ← skip ['-'] rest
  let (mday, rest) ← readDigits 2 rest
  pure (((node.setYear year).setMonth month).setMonthDay mday, rest)

/-- The rule `partial-time`. -/
def readPartialTime (node : DateTimeHeaderNode) (text : Text) : Option (DateTimeHeaderNode × Text) := do
  let (hour, rest) ← readDigits 2 text
  let rest ← skip [':'] rest
  let (minute, rest) ← readDigits 2 rest
  let rest ← skip [':'] rest
  let (second, rest) ← readDigits 2 rest
  let rest ← skipFraction rest
  pure (((node.setHour hour).setMinute minute).setSecond second, rest)

/-- The rule `date-time`, for a whole text. -/
def readDateTimeValue (text : Text) : Option DateTimeHeaderNode := do
  let (node, rest) ← readFullDate {} text
  let rest ← skipLetter 'T' rest
  let (node, rest) ← readPartialTime node rest
  let (offset, rest) ← readOffset rest
  if rest.isEmpty then pure (node.setOffset offset) else none

/-- The rule `DateTime-header`. -/
def readDateTime (line : Text) : Option DateTimeHeaderNode :=
  (skip (DateTimeHeader.getName ++ [':', ' ']) line).bind readDateTimeValue

variable {H : Type}

inductive Header (H : Type) where
  | dateTime (header : DateTimeHeader)
  | other (header : H)
deriving Repr, DecidableEq

/-- The headers of the other classes. A line of a message that has one of them names its
namespace too. -/
structure OtherHeaders (H : Type) where
  asString : H → Text
  cloneHeader : H → Option H
  messageHeader : Text → Option (Text × H)
  contentHeader : Text → Option H

namespace OtherHeaders

variable (others : OtherHeaders H)

def headerAsString : Header H → Text
  | .dateTime header => header.asString
  | .other header => others.asString header

/-- `Parser::cloneHeader`. -/
def clone : Header H → Option (Header H)
  | .dateTime header => (DateTimeHeaderNode.ofHeader header).createHeader.map .dateTime
  | .other header => (others.cloneHeader header).map .other

/-- The rule `Message-header`, and the header that its node creates. -/
def readMessageHeader (line : Text) : Option (Text × Header H) :=
  match readDateTime line with
  | some node => node.createHeader.map fun header => ([], .dateTime header)
  | none => (others.messageHeader line).map fun (ns, header) => (ns, .other header)

/-- The rule `Header`, which alone makes the headers of the content. -/
def readContentHeader (line : Text) : Option (Header H) := (others.contentHeader line).map .other

end OtherHeaders

structure Message (H : Type) where
  messageHeaders : List (Text × List (Header H)) := []
  contentHeaders : List (Header H) := []
  content : Text := []
deriving Repr, DecidableEq

namespace Message

/-- A namespace that is new is put in its place in their order. -/
def pushHeader (ns : Text) (header : Header H) (entries : List (Text × List (Header H))) :
    List (Text × List (Header H)) :=
  updateFirst (fun entry => entry.1 = ns) (fun entry => (entry.1, entry.2 ++ [header])) (insertKey ns [] entries)

def getMessageHeaders (message : Message H) (ns : Text) : Option (List (Header H)) :=
  (findKey Prod.fst ns message.messageHeaders).map Prod.snd

variable (others : OtherHeaders H)

def addMessageHeader (message : Message H) (messageHeader : Header H) (ns : Text) : Message H × Bool :=
  match others.clone messageHeader with
  | none => (message, false)
  | some header => ({ message with messageHeaders := pushHeader ns header message.messageHeaders }, true)

def addContentHeader (message : Message H) (contentHeader : Header H) : Message H × Bool :=
  match others.clone contentHeader with
  | none => (message, false)
  | some header => ({ message with contentHeaders := message.contentHeaders ++ [header] }, true)

def setContent (message : Message H) (content : Text) : Message H := { message with content := content }

/-- A header with the namespace it is in. -/
def namedAsString (ns : Text) (header : Header H) : Text :=
  (if ns = [] then [] else ns ++ ['.']) ++ others.headerAsString header

def asString (message : Message H) : Text :=
  (if message.messageHeaders.isEmpty then []
    else (message.messageHeaders.flatMap fun (ns, headers) => headers.flatMap (namedAsString others ns)) ++ crlf) ++
    (message.contentHeaders.flatMap others.headerAsString ++ (crlf ++ message.content))

end Message

/-- The lines up to a blank one, and what follows that one. A line that was begun goes on. -/
def readSection (line : Text) : Text → Option (List Text × Text)
  | [] => none
  | '\r' :: '\n' :: rest =>
    if line.isEmpty then some ([], rest)
    else (readSection [] rest).map fun (lines, after) => (line :: lines, after)
  | char :: rest => readSection (line ++ [char]) rest

/-- The rule `Crappy-header` stands in a section of its own, before the message. -/
def skipCrappyHeader : List Text × Text → Option (List Text × Text)
  | ([line], rest) =>
    if line.map Char.toLower = "content-type: message/cpim".toList then readSection [] rest else some ([line], rest)
  | sections => some sections

namespace Message

variable (others : OtherHeaders H)

/-- What `createMessage` makes of the lines. -/
def addMessageLine (message : Message H) (line : Text) : Option (Message H) :=
  (others.readMessageHeader line).map fun (ns, header) => (message.addMessageHeader others header ns).1

def addContentLine (message : Message H) (line : Text) : Option (Message H) :=
  (others.readContentHeader line).map fun header => (message.addContentHeader others header).1

/-- `Parser::parseMessage`. -/
def parseMessage (input : Text) : Option (Message H) := do
  let (messageLines, rest) ← (readSection [] input).bind skipCrappyHeader
  let (contentLines, content) ← readSection [] rest
  if messageLines.isEmpty ∨ contentLines.isEmpty then none
  else
    let message ← messageLines.foldlM (addMessageLine others) {}
    let message ← contentLines.foldlM (addContentLine others) message
    pure (message.setContent content)

end Message

end Liblinphone.Cpim
