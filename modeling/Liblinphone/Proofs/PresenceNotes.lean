import Liblinphone.PresenceNotes

/-! Notes that are added to a presence. Without a service they are lost, and with one they are
there once more each time. -/

namespace Liblinphone

namespace SharedPresence

variable (state : SharedPresence) (content lang : String)

/-- The first service has one note of the language, with the content. All else stays as it was, and
adding the note once more changes nothing. -/
structure NoteSet : Prop where
  single : ∃ notes, (state.addNote content lang).1.shownServices.head? = some notes ∧
    notes.filter (fun note => note.lang = lang) = [{ content, lang }]
  otherLanguages : ((state.addNote content lang).1.shownServices.headD []).filter (fun note => note.lang ≠ lang) =
    (state.shownServices.headD []).filter fun note => note.lang ≠ lang
  otherServices : (state.addNote content lang).1.shownServices.tail = state.shownServices.tail
  persons : (state.addNote content lang).1.shownPersons = state.shownPersons
  notes : (state.addNote content lang).1.shownNotes (state.addNote content lang).1.notes = state.shownNotes state.notes
  repeated : ((state.addNote content lang).1.addNote content lang).1.shownServices = (state.addNote content lang).1.shownServices

variable {state content lang}

theorem addNote_services (state : SharedPresence) (content lang : String) :
    (state.addNote content lang).1.services = state.services := by
  unfold addNote
  split
  next => rfl
  next =>
    cases state.services[0]? with
    | none => dsimp only; split <;> rfl
    | some first => dsimp only; split <;> rfl

/-- The first service has one note more. -/
theorem addNote_longer (filled : content ≠ "") {first : Nat} {rest : List Nat} (services : state.services = first :: rest) :
    ∃ note, (state.addNote content lang).1.service first = note :: state.service first := by
  have found : state.services[0]? = some first := by rw [services, List.getElem?_cons_zero]
  unfold addNote
  rw [if_neg filled, found]
  dsimp only
  split
  next => exact ⟨_, Function.update_self ..⟩
  next note _ => exact ⟨note, Function.update_self ..⟩

/-- A note that is added is lost, or it is there once more each time. -/
theorem not_noteSet (filled : content ≠ "") : ¬NoteSet state content lang := by
  intro noteSet
  have kept := addNote_services state content lang
  have keptAgain := addNote_services (state.addNote content lang).1 content lang
  cases services : state.services with
  | nil =>
    obtain ⟨notes, first, -⟩ := noteSet.single
    rw [shownServices, kept, services] at first
    cases first
  | cons first rest =>
    obtain ⟨note, longer⟩ := @addNote_longer (state.addNote content lang).1 content lang filled first rest (kept.trans services)
    have repeated := noteSet.repeated
    unfold shownServices at repeated
    rw [keptAgain, kept, services, List.map_cons, List.map_cons, longer] at repeated
    have lengths := congrArg List.length (List.cons.inj repeated).1
    simp [shownNotes] at lengths

/-- Neither a note of a presence nor one of the activities of a person is set as asked. -/
theorem notes_never_set (state : SharedPresence) {content : String} (filled : content ≠ "") (lang : String)
    (person : PresencePerson) (note : PresenceNote) :
    (state.addNote content lang).2 = 0 ∧ ¬NoteSet state content lang ∧
      ¬∃ after, person.addActivitiesNote note = .ok after ∧ after = { person with activitiesNotes := after.activitiesNotes } := by
  refine ⟨by rw [addNote, if_neg filled], not_noteSet filled, ?_⟩
  rintro ⟨after, added, -⟩
  cases added

section Office

/-- One service without notes. -/
def office : SharedPresence := { note := fun _ => { content := "" }, nextNote := 0, nextService := 1, services := [0] }

theorem office_note_never_set :
    (office.addNote "Back soon" "en").2 = 0 ∧ ¬NoteSet office "Back soon" "en" ∧
      ¬∃ after, (PresencePerson.mk "p1" 0 [] [] []).addActivitiesNote { content := "Lunch" } = .ok after ∧
        after = { PresencePerson.mk "p1" 0 [] [] [] with activitiesNotes := after.activitiesNotes } :=
  notes_never_set office (by decide) "en" _ _

theorem office_note_twice :
    ((office.addNote "Back soon" "en").1.addNote "Back soon" "en").1.shownServices =
        [[{ content := "Back soon", lang := "en" }, { content := "Back soon", lang := "en" }]] ∧
      ¬NoteSet office "Back soon" "en" :=
  ⟨by decide, not_noteSet (by decide)⟩

end Office

end SharedPresence

end Liblinphone
