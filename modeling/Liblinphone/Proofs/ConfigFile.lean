import Liblinphone.ConfigFile
import Liblinphone.Library.Run
import Liblinphone.Proofs.ConfigPersistence

/-! The flag of a store that is to be written. It is raised by every setter, and a run keeps
it true to the file as long as no entry is removed behind its back and no write is lost. -/

namespace Liblinphone

open Library

namespace ConfigFile

variable {reader : LineReader} {state : ConfigFile}

/-- The file holds the sections and items of the store. -/
def Saved (reader : LineReader) (state : ConfigFile) : Prop := LpConfig.parse reader state.file = state.config

/-- A store that its file does not hold needs to be committed. -/
def Sound (reader : LineReader) (state : ConfigFile) : Prop := ¬Saved reader state → state.needsCommit = true

/-- The call gets as far as the rename. -/
def Writes (state : ConfigFile) (outcome : FileOutcome) : Prop :=
  state.filename ≠ none ∧ state.readonly = false ∧ state.tmpfilename ≠ none ∧ outcome.opened = true ∧
    state.abortSync = false

/-- An entry that is removed was not there, or the flag is up already. What is written is
read back as the store, or the file that is left in place held it already. -/
def Keeps (reader : LineReader) (state : ConfigFile) : ConfigCall → Prop
  | .cleanEntry sec key => state.modified = true ∨ state.config.hasEntry sec key = false
  | .sync outcome => state.Writes outcome →
    LpConfig.parse reader (if outcome.renamed then outcome.written else state.file) = state.config
  | _ => True

theorem sound_modified (modified : state.modified = true) : Sound reader state := fun _ => modified

theorem sound_unmodified (unmodified : state.modified = false) : Sound reader state ↔ Saved reader state := by
  unfold Sound needsCommit
  rw [unmodified]
  constructor
  · intro sound
    by_contra lost
    exact Bool.noConfusion (sound lost)
  · exact fun saved lost => absurd saved lost

theorem sound_load (reader : LineReader) (filename file : Text) (abortSync : Bool) :
    Sound reader { load reader filename file with abortSync } :=
  (sound_unmodified rfl).mpr rfl

theorem sound_setString (sound : Sound reader state) (sec key value : Text) :
    Sound reader (state.setString sec key value) := by
  unfold setString
  split
  next => exact sound
  next => exact sound_modified rfl

theorem removeItem_eq_iff (sec : LpSection) (key : Text) : sec.removeItem key = sec ↔ sec.findItem key = none := by
  rw [LpSection.findItem, List.find?_eq_none]
  constructor
  · intro same item member hit
    have items := congrArg (fun sec : LpSection => sec.items.length) same
    have present : sec.items.any (LpItem.isEntry key) = true := List.any_eq_true.mpr ⟨item, member, hit⟩
    have filled := List.length_pos_of_mem member
    simp only [LpSection.removeItem, List.length_eraseP, if_pos present] at items
    omega
  · intro missing
    rw [LpSection.removeItem, List.eraseP_of_forall_not missing]

/-- To remove an entry that is there changes the store. -/
theorem cleanEntry_eq_iff (config : LpConfig) (sec key : Text) :
    config.cleanEntry sec key = config ↔ config.hasEntry sec key = false := by
  have read : (config.cleanEntry sec key).findSection sec = (config.findSection sec).map fun found => found.removeItem key := by
    have updated := @findKey_updateFirst LpSection Text _ LpSection.name (fun found => found.removeItem key) sec
      (fun _ named => named) sec config.sections
    rw [if_pos rfl] at updated
    exact updated
  unfold LpConfig.hasEntry
  cases found : config.findSection sec with
  | none =>
    refine iff_of_true ?_ rfl
    exact congrArg LpConfig.mk (updateFirst_absent (List.find?_eq_none.mp found) _)
  | some held =>
    rw [Option.bind_some, Option.isSome_eq_false_iff, Option.isNone_iff_eq_none, ← removeItem_eq_iff]
    constructor
    · intro same
      rw [same, found, Option.map_some, Option.some.injEq] at read
      exact read.symm
    · intro same
      exact congrArg LpConfig.mk (updateFirst_same found same)

theorem sound_cleanEntry_iff (sound : Sound reader state) (sec key : Text) :
    Sound reader (state.cleanEntry sec key) ↔ state.modified = true ∨ state.config.hasEntry sec key = false := by
  cases flag : state.modified with
  | true => exact iff_of_true (sound_modified flag) (.inl rfl)
  | false =>
    have saved : LpConfig.parse reader state.file = state.config := (sound_unmodified flag).mp sound
    have after : (state.cleanEntry sec key).modified = false := flag
    rw [sound_unmodified after, ← cleanEntry_eq_iff]
    constructor
    · intro same
      exact .inr (same.symm.trans saved)
    · rintro (raised | same)
      · exact Bool.noConfusion raised
      · exact saved.trans same.symm

theorem sync_writes {outcome : FileOutcome} (writes : state.Writes outcome) : (state.sync outcome).1 =
    { state with file := if outcome.renamed then outcome.written else state.file, modified := false } := by
  obtain ⟨named, writable, temporary, opened, running⟩ := writes
  unfold sync
  rw [if_neg (by simpa using named), if_neg (by simp [writable]), if_neg (by simpa [opened] using temporary),
    if_neg (by simp [running])]

/-- A call that does not write anything leaves the flag as it is. -/
theorem sync_stops {outcome : FileOutcome} (stops : ¬state.Writes outcome) :
    ∃ readonly, (state.sync outcome).1 = { state with readonly } := by
  unfold sync
  split
  next => exact ⟨state.readonly, rfl⟩
  next named =>
    split
    next => exact ⟨state.readonly, rfl⟩
    next writable =>
      split
      next => exact ⟨true, rfl⟩
      next opens =>
        split
        next => exact ⟨state.readonly, rfl⟩
        next running =>
          simp only [Bool.or_eq_true, Bool.not_eq_true', not_or] at opens
          refine absurd ⟨?_, ?_, ?_, ?_, ?_⟩ stops
          · simpa using named
          · simpa using writable
          · simpa using opens.1
          · simpa using opens.2
          · simpa using running

theorem sound_sync_iff (sound : Sound reader state) (outcome : FileOutcome) :
    Sound reader (state.sync outcome).1 ↔ (state.Writes outcome →
      LpConfig.parse reader (if outcome.renamed then outcome.written else state.file) = state.config) := by
  by_cases writes : state.Writes outcome
  · rw [sync_writes writes, sound_unmodified rfl]
    exact (@forall_prop_of_true _ (fun _ => _) writes).symm
  · obtain ⟨readonly, stopped⟩ := sync_stops writes
    rw [stopped]
    exact iff_of_true sound fun written => absurd written writes

/-- A call keeps the flag true to the file exactly if it meets its condition. -/
theorem sound_step_iff (sound : Sound reader state) (call : ConfigCall) :
    Sound reader (state.step call) ↔ Keeps reader state call := by
  cases call with
  | setString sec key value => exact iff_of_true (sound_setString sound sec key value) trivial
  | setInt sec key value => exact iff_of_true (sound_setString sound sec key _) trivial
  | setBool sec key value => exact iff_of_true (sound_setString sound sec key _) trivial
  | cleanSection sec => exact iff_of_true (sound_modified rfl) trivial
  | cleanEntry sec key => exact sound_cleanEntry_iff sound sec key
  | sync outcome => exact sound_sync_iff sound outcome

theorem sound_run_iff (sound : Sound reader state) (calls : List ConfigCall) :
    (∀ before after, calls = before ++ after → Sound reader (before.foldl step state)) ↔
      Guarded step (Keeps reader) state calls :=
  @foldl_guarded_iff _ _ step (Keeps reader) (Sound reader) (fun _ call sound => sound_step_iff sound call) state calls sound

/-- A store of plain names and values that is written without failure meets the condition. -/
theorem keeps_sync (lawful : reader.Lawful) (regular : state.config.Regular) (fits : state.config.Fits) :
    Keeps reader state (.sync { written := state.config.sync }) :=
  fun _ => regular.parse lawful fits

end ConfigFile

end Liblinphone
