import Mathlib.Data.List.DropRight
import Liblinphone.Library.Keyed
import Liblinphone.Text

/-! The configuration store and its file. The store is written section by section,
one line for each entry, and it is read line by line. A text is the list of its
bytes, without the one that ends it. -/

namespace Liblinphone

/-- What is read from a file with a buffer of some size: a line, and what is left. -/
structure LineReader where
  getNxtline : Nat → Text → Option (Text × Text)

/-- A line that fits into the buffer is read up to its end. The end is left in the
buffer or not. -/
structure LineReader.Lawful (reader : LineReader) : Prop where
  finished : ∀ size, reader.getNxtline size [] = none
  fits : ∀ size line rest, '\n' ∉ line → '\r' ∉ line → line.length + 1 < size →
    ∃ ending, (ending = [] ∨ ending = ['\n']) ∧
      reader.getNxtline size (line ++ '\n' :: rest) = some (line ++ ending, rest)

def maxLen : Nat := 16384

def isSpace (char : Char) : Bool := [' ', '\t', '\n', '\x0b', '\x0c', '\r'].contains char

theorem isSpace_digit {char : Char} (digit : char.isDigit = true) : isSpace char = false := by
  by_contra space
  rw [Bool.not_eq_false, isSpace, List.contains_iff_mem] at space
  have none : [' ', '\t', '\n', '\x0b', '\x0c', '\r'].all (fun char => !char.isDigit) = true := by decide
  have apart := List.all_eq_true.mp none char space
  rw [digit] at apart
  exact Bool.noConfusion apart

/-- `Utils::trim`. -/
def trimText (text : Text) : Text := (text.dropWhile isSpace).rdropWhile isSpace

/-- One `%s` of `sscanf`: the word that is read, and what is left. -/
def scanWord (text : Text) : Option (Text × Text) :=
  let word := (text.dropWhile isSpace).takeWhile fun char => !isSpace char
  if word.isEmpty then none else some (word, (text.dropWhile isSpace).drop word.length)

/-- An item of a section. What only matters for the conversion to XML is left out. -/
inductive LpItem where
  | comment (value : Text)
  | entry (key value : Text)
deriving Repr, DecidableEq

namespace LpItem

def key : LpItem → Option Text
  | comment _ => none
  | entry key _ => some key

def isEntry (key : Text) (item : LpItem) : Bool := decide (item.key = some key)

def isComment (value : Text) : LpItem → Bool
  | comment text => text == value
  | entry _ _ => false

def setValue (value : Text) : LpItem → LpItem
  | comment _ => comment value
  | entry key _ => entry key value

def value : LpItem → Text
  | comment value => value
  | entry _ value => value

end LpItem

structure LpSection where
  name : Text
  params : List (Text × Text) := []
  items : List LpItem := []
deriving Repr, DecidableEq

namespace LpSection

def findItem (sec : LpSection) (key : Text) : Option LpItem := sec.items.find? (LpItem.isEntry key)

def addItem (sec : LpSection) (item : LpItem) : LpSection := { sec with items := sec.items ++ [item] }

def removeItem (sec : LpSection) (key : Text) : LpSection :=
  { sec with items := sec.items.eraseP (LpItem.isEntry key) }

def setItem (sec : LpSection) (key value : Text) : LpSection :=
  { sec with items := Library.updateFirst (LpItem.isEntry key) (LpItem.setValue value) sec.items }

/-- A value that is read for a key replaces the one it has. -/
def readItem (sec : LpSection) (key value : Text) : LpSection :=
  match sec.findItem key with
  | none => sec.addItem (.entry key value)
  | some _ => sec.setItem key value

/-- A comment that is read again moves to the end. -/
def readComment (sec : LpSection) (value : Text) : LpSection :=
  { sec with items := sec.items.eraseP (LpItem.isComment value) ++ [.comment value] }

/-- An empty value removes the item. -/
def setString (sec : LpSection) (key value : Text) : LpSection :=
  match sec.findItem key with
  | some _ => if value.isEmpty then sec.removeItem key else sec.setItem key value
  | none => if value.isEmpty then sec else sec.addItem (.entry key value)

end LpSection

structure LpConfig where
  sections : List LpSection := []
deriving Repr, DecidableEq

namespace LpConfig

def findSection (config : LpConfig) (name : Text) : Option LpSection :=
  config.sections.find? fun sec => decide (sec.name = name)

def findSectionIndex (config : LpConfig) (name : Text) : Option Nat :=
  config.sections.findIdx? fun sec => decide (sec.name = name)

def updateSection (config : LpConfig) (name : Text) (change : LpSection → LpSection) : LpConfig :=
  { config with sections := Library.updateFirst (fun sec => decide (sec.name = name)) change config.sections }

def getString (config : LpConfig) (sec key defaultString : Text) : Text :=
  match (config.findSection sec).bind (·.findItem key) with
  | some item => item.value
  | none => defaultString

def hasSection (config : LpConfig) (name : Text) : Bool := (config.findSection name).isSome

def hasEntry (config : LpConfig) (sec key : Text) : Bool :=
  ((config.findSection sec).bind (·.findItem key)).isSome

def setString (config : LpConfig) (sec key value : Text) : LpConfig :=
  match config.findSection sec with
  | some _ => config.updateSection sec fun found => found.setString key value
  | none =>
    if value.isEmpty then config
    else { config with sections := config.sections ++ [{ name := sec, items := [.entry key value] }] }

def cleanSection (config : LpConfig) (name : Text) : LpConfig :=
  { config with sections := config.sections.eraseP fun sec => decide (sec.name = name) }

def cleanEntry (config : LpConfig) (sec key : Text) : LpConfig :=
  config.updateSection sec fun found => found.removeItem key

end LpConfig

/-- What is done to a store. -/
inductive ConfigOperation where
  | setString (sec key value : Text)
  | cleanSection (sec : Text)
  | cleanEntry (sec key : Text)
deriving Repr, DecidableEq

namespace LpConfig

def step (config : LpConfig) : ConfigOperation → LpConfig
  | .setString sec key value => config.setString sec key value
  | .cleanSection sec => config.cleanSection sec
  | .cleanEntry sec key => config.cleanEntry sec key

def perform (config : LpConfig) (operations : List ConfigOperation) : LpConfig := operations.foldl step config

end LpConfig

section Writing

def LpItem.write : LpItem → Text
  | .comment value => value ++ ['\n']
  | .entry key value => if value.isEmpty then [] else key ++ '=' :: (value ++ ['\n'])

def writeParam (param : Text × Text) : Text := if param.2.isEmpty then [] else ' ' :: (param.1 ++ '=' :: param.2)

def LpSection.write (sec : LpSection) : Text :=
  '[' :: (sec.name ++ sec.params.flatMap writeParam ++ [']', '\n'] ++ sec.items.flatMap LpItem.write ++
    ['\n'])

/-- What `linphone_config_sync` writes to a file that it can open. -/
def LpConfig.sync (config : LpConfig) : Text := config.sections.flatMap LpSection.write

end Writing

section Reading

/-- The value of a line ends at a carriage return, or else at the end of the line. -/
def cutLine (text : Text) : Text :=
  if text.contains '\r' then text.takeWhile (· != '\r') else text.takeWhile (· != '\n')

/-- The parameters of a section. The buffer still holds what follows the bracket,
behind the byte that was put in its place. -/
def scanParams : Nat → Text → List (Text × Text)
  | 0, _ => []
  | fuel + 1, buffer =>
    if (buffer.takeWhile (· != '\x00')).contains '=' then
      let spaced := Library.updateFirst (· == '=') (fun _ => ' ') buffer
      match scanWord (spaced.takeWhile (· != '\x00')) with
      | none => []
      | some (key, rest) =>
        match scanWord rest with
        | none => []
        | some (value, _) => (key, value) :: scanParams fuel (spaced.drop (key.length + value.length + 2))
    else []

/-- The store while it is read, and the section that entries go to. -/
structure ParseState where
  config : LpConfig := {}
  current : Option Nat := none
deriving Repr, DecidableEq

namespace ParseState

def updateCurrent (state : ParseState) (change : LpSection → LpSection) : ParseState :=
  match state.current with
  | none => state
  | some index => { state with config.sections := state.config.sections.modify index change }

/-- The section of a header that was read becomes the current one. -/
def enterSection (state : ParseState) (name : Text) : ParseState :=
  match state.config.findSectionIndex name with
  | some index => { state with current := some index }
  | none =>
    { config := { sections := state.config.sections ++ [{ name := name }] }
      current := some state.config.sections.length }

def parseSection (state : ParseState) (text : Text) : ParseState :=
  if text.contains ']' then
    let inner := text.takeWhile (· != ']')
    match scanWord inner with
    | none => state
    | some (name, _) =>
      let params := if inner.length > name.length then
          scanParams text.length ((inner ++ '\x00' :: text.drop (inner.length + 1)).drop (name.length + 1))
        else []
      (state.enterSection name).updateCurrent fun sec => { sec with params := sec.params ++ params }
  else state

def parseEntry (state : ParseState) (line : Text) : ParseState :=
  if line.contains '=' then
    match scanWord (line.takeWhile (· != '=')) with
    | none => state
    | some (key, _) =>
      let value := (cutLine ((line.dropWhile (· != '=')).drop 1)).rdropWhile (· == ' ')
      if value.isEmpty then state else state.updateCurrent fun sec => sec.readItem key value
  else state

def parseLine (state : ParseState) (line : Text) : ParseState :=
  match line.dropWhile (· == ' ') with
  | '[' :: text => state.parseSection text
  | '#' :: _ => state.updateCurrent fun sec => sec.readComment (cutLine line)
  | _ => state.parseEntry line

/-- Each line that is read takes at least one byte of the file. -/
def parseLines (reader : LineReader) : Nat → Text → ParseState → ParseState
  | 0, _, state => state
  | fuel + 1, text, state =>
    match reader.getNxtline maxLen text with
    | none => state
    | some (line, rest) => parseLines reader fuel rest (state.parseLine line)

end ParseState

def LpConfig.parse (reader : LineReader) (text : Text) : LpConfig :=
  (ParseState.parseLines reader text.length text {}).config

end Reading

end Liblinphone
