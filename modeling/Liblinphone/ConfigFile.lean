import Liblinphone.ConfigValues

/-! A store with its file. The store knows whether it was modified since it was written.
It is written to a temporary file, which is then renamed. -/

namespace Liblinphone

/-- What becomes of the file operations of one call: whether the temporary file is opened, what
it holds when it is closed, and whether it is renamed. -/
structure FileOutcome where
  opened : Bool := true
  written : Text
  renamed : Bool := true
deriving Repr, DecidableEq

/-- A store, and the text that its file holds. -/
structure ConfigFile where
  config : LpConfig := {}
  filename : Option Text := none
  tmpfilename : Option Text := none
  modified : Bool := false
  readonly : Bool := false
  abortSync : Bool := false
  file : Text := []
deriving Repr, DecidableEq

namespace ConfigFile

/-- The value is not empty, and the key has it already. -/
def hasValue (state : ConfigFile) (sec key value : Text) : Bool :=
  !value.isEmpty && decide (state.config.value? sec key = some value)

def setString (state : ConfigFile) (sec key value : Text) : ConfigFile :=
  if state.hasValue sec key value then state
  else { state with config := state.config.setString sec key value, modified := true }

def setInt (state : ConfigFile) (sec key : Text) (value : Int) : ConfigFile :=
  state.setString sec key (integerText value)

def setBool (state : ConfigFile) (sec key : Text) (value : Bool) : ConfigFile :=
  state.setInt sec key (if value then 1 else 0)

def cleanSection (state : ConfigFile) (sec : Text) : ConfigFile :=
  { state with config := state.config.cleanSection sec, modified := true }

/-- The flag is left as it is. -/
def cleanEntry (state : ConfigFile) (sec key : Text) : ConfigFile :=
  { state with config := state.config.cleanEntry sec key }

def needsCommit (state : ConfigFile) : Bool := state.modified

/-- Failing writes and a failing rename are only logged. -/
def sync (state : ConfigFile) (outcome : FileOutcome) : ConfigFile × Int :=
  if state.filename.isNone then (state, -1)
  else if state.readonly then (state, 0)
  else if state.tmpfilename.isNone || !outcome.opened then ({ state with readonly := true }, -1)
  else if state.abortSync then (state, -1)
  else
    ({ state with
        file := if outcome.renamed then outcome.written else state.file
        modified := false }, 0)

/-- A store that was read from its file. -/
def load (reader : LineReader) (filename file : Text) : ConfigFile where
  config := LpConfig.parse reader file
  filename := some filename
  tmpfilename := some (filename ++ ".tmp".toList)
  file := file

end ConfigFile

/-- A call on a store with a file. -/
inductive ConfigCall where
  | setString (sec key value : Text)
  | setInt (sec key : Text) (value : Int)
  | setBool (sec key : Text) (value : Bool)
  | cleanSection (sec : Text)
  | cleanEntry (sec key : Text)
  | sync (outcome : FileOutcome)
deriving Repr, DecidableEq

def ConfigFile.step (state : ConfigFile) : ConfigCall → ConfigFile
  | .setString sec key value => state.setString sec key value
  | .setInt sec key value => state.setInt sec key value
  | .setBool sec key value => state.setBool sec key value
  | .cleanSection sec => state.cleanSection sec
  | .cleanEntry sec key => state.cleanEntry sec key
  | .sync outcome => (state.sync outcome).1

end Liblinphone
