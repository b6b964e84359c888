import Mathlib.Init

/-! Runs of a state machine that emits events. A guard says which inputs a run
may contain, seen from the state that receives them. -/

namespace Liblinphone.Library

variable {σ : Type u} {ι : Type v} {ε : Type w}

/-- The final state and the events of a run, in order. -/
def run (step : σ → ι → σ × List ε) (state : σ) : List ι → σ × List ε
  | [] => (state, [])
  | input :: rest =>
    ((run step (step state input).1 rest).1, (step state input).2 ++ (run step (step state input).1 rest).2)

/-- Every input of a run meets the guard in the state that receives it. -/
def Meets (step : σ → ι → σ × List ε) (guard : σ → ι → Prop) (state : σ) : List ι → Prop
  | [] => True
  | input :: rest => guard state input ∧ Meets step guard (step state input).1 rest

theorem meets_always {step : σ → ι → σ × List ε} {state : σ} (inputs : List ι) :
    Meets step (fun _ _ => True) state inputs := by
  induction inputs generalizing state with
  | nil => trivial
  | cons input rest following => exact ⟨trivial, following⟩

/-- A condition on the inputs alone is part of the guard. -/
theorem Meets.and_all {step : σ → ι → σ × List ε} {guard : σ → ι → Prop} {holds : ι → Prop} {state : σ} {inputs : List ι}
    (meets : Meets step guard state inputs) (all : ∀ input ∈ inputs, holds input) :
    Meets step (fun state input => guard state input ∧ holds input) state inputs := by
  induction inputs generalizing state with
  | nil => trivial
  | cons input rest ih =>
    exact ⟨⟨meets.1, all input (by simp)⟩, ih meets.2 (fun other member => all other (by simp [member]))⟩

/-- What one guarded step preserves, together with the events so far, a run of
guarded steps preserves. -/
theorem run_invariant {step : σ → ι → σ × List ε} {guard : σ → ι → Prop} (invariant : List ε → σ → Prop)
    (preserved : ∀ past state input, guard state input → invariant past state →
      invariant (past ++ (step state input).2) (step state input).1)
    {past : List ε} {state : σ} {inputs : List ι} (start : invariant past state)
    (meets : Meets step guard state inputs) :
    invariant (past ++ (run step state inputs).2) (run step state inputs).1 := by
  induction inputs generalizing past state with
  | nil => simpa [run] using start
  | cons input rest ih =>
    have next := ih (preserved past state input meets.1 start) meets.2
    simpa only [run, List.append_assoc] using next

/-- When the guard decides what the next state shows, as long as the invariant holds, it decides
what every state of an allowed run shows. -/
theorem run_shows_iff {step : σ → ι → σ × List ε} {allowed guard : σ → ι → Prop} {invariant shows : σ → Prop}
    (each : ∀ state input, allowed state input → invariant state → (shows (step state input).1 ↔ guard state input))
    (kept : ∀ state input, allowed state input → guard state input → invariant state → invariant (step state input).1)
    {state : σ} {inputs : List ι} (start : invariant state) (shown : shows state)
    (within : Meets step allowed state inputs) :
    (∀ before after, inputs = before ++ after → shows (run step state before).1) ↔ Meets step guard state inputs := by
  induction inputs generalizing state with
  | nil =>
    refine iff_of_true ?_ trivial
    intro before after split
    rw [(List.append_eq_nil_iff.mp split.symm).1]
    exact shown
  | cons input rest following =>
    have decided := each state input within.1 start
    constructor
    · intro always
      have next := always [input] rest rfl
      have guarded := decided.mp next
      refine ⟨guarded, (following (kept state input within.1 guarded start) next within.2).mp ?_⟩
      intro before after split
      exact always (input :: before) after (by rw [split]; rfl)
    · rintro ⟨guarded, later⟩ before after split
      have next := decided.mpr guarded
      cases before with
      | nil => exact shown
      | cons first more =>
        obtain ⟨rfl, tail⟩ := List.cons.inj split
        exact (following (kept state input within.1 guarded start) next within.2).mpr later more after tail

/-- Every input of a run without events meets the guard in the state that receives
it. -/
def Guarded (step : σ → ι → σ) (guard : σ → ι → Prop) (state : σ) : List ι → Prop
  | [] => True
  | input :: rest => guard state input ∧ Guarded step guard (step state input) rest

theorem foldl_guarded {step : σ → ι → σ} {guard : σ → ι → Prop} {invariant : σ → Prop}
    (preserved : ∀ state input, guard state input → invariant state → invariant (step state input)) {state : σ}
    {inputs : List ι} (start : invariant state) (guarded : Guarded step guard state inputs) :
    invariant (inputs.foldl step state) := by
  induction inputs generalizing state with
  | nil => exact start
  | cons input rest ih => exact ih (preserved state input guarded.1 start) guarded.2

/-- When the guard decides whether a step keeps the invariant, it decides it for the run. -/
theorem foldl_guarded_iff {step : σ → ι → σ} {guard : σ → ι → Prop} {invariant : σ → Prop}
    (each : ∀ state input, invariant state → (invariant (step state input) ↔ guard state input)) {state : σ}
    {inputs : List ι} (start : invariant state) :
    (∀ before after, inputs = before ++ after → invariant (before.foldl step state)) ↔ Guarded step guard state inputs := by
  induction inputs generalizing state with
  | nil =>
    refine iff_of_true ?_ trivial
    intro before after split
    rw [(List.append_eq_nil_iff.mp split.symm).1]
    exact start
  | cons input rest following =>
    unfold Guarded
    rw [← each state input start]
    constructor
    · intro always
      have next := always [input] rest rfl
      exact ⟨next, (following next).mp fun before after split => always (input :: before) after (by rw [split]; rfl)⟩
    · rintro ⟨next, guarded⟩ before after split
      cases before with
      | nil => exact start
      | cons first more =>
        obtain ⟨rfl, later⟩ := List.cons.inj split
        exact (following next).mpr guarded more after later

/-- Each step of a run has the property, as far as the run is not stopped. -/
def EachStep (step : σ → ι → Option σ) (property : σ → ι → σ → Prop) (state : σ) : List ι → Prop
  | [] => True
  | input :: rest => ∀ next, step state input = some next → property state input next ∧ EachStep step property next rest

/-- Two properties of the steps from states with the invariant, one of which keeps it. -/
theorem eachStep_iff {step : σ → ι → Option σ} {property guard : σ → ι → σ → Prop} {invariant : σ → Prop}
    (each : ∀ state input next, invariant state → step state input = some next →
      (property state input next ↔ guard state input next))
    (kept : ∀ state input next, invariant state → step state input = some next → guard state input next → invariant next)
    {state : σ} {inputs : List ι} (start : invariant state) :
    EachStep step property state inputs ↔ EachStep step guard state inputs := by
  induction inputs generalizing state with
  | nil => exact Iff.rfl
  | cons input rest following =>
    constructor
    · intro always next stepped
      obtain ⟨holds, later⟩ := always next stepped
      have guarded := (each state input next start stepped).mp holds
      exact ⟨guarded, (following (kept state input next start stepped guarded)).mp later⟩
    · intro always next stepped
      obtain ⟨guarded, later⟩ := always next stepped
      have invariant := kept state input next start stepped guarded
      exact ⟨(each state input next start stepped).mpr guarded, (following invariant).mpr later⟩

/-- What each step that does not fail keeps is kept by a run that does not fail. -/
theorem foldlM_keeps {φ : Type w} {step : σ → ι → Except φ σ} {invariant : σ → Prop}
    (kept : ∀ state input next, invariant state → step state input = .ok next → invariant next) {state final : σ}
    {inputs : List ι} (start : invariant state) (ran : inputs.foldlM step state = .ok final) : invariant final := by
  induction inputs generalizing state with
  | nil =>
    cases ran
    exact start
  | cons input rest following =>
    rw [List.foldlM_cons] at ran
    cases first : step state input with
    | error failure => simp [first, bind, Except.bind] at ran
    | ok middle =>
      rw [first] at ran
      exact following (kept state input middle start first) ran

theorem map_returns_iff {α β φ : Type u} {change : α → β} {result : Except φ α} :
    (∃ next, result.map change = .ok next) ↔ ∃ value, result = .ok value := by
  cases result with
  | error failure => simp [Except.map]
  | ok value => simp [Except.map]

/-- A run does not fail when no step fails. -/
theorem foldlM_returns {φ : Type w} {step : σ → ι → Except φ σ} {invariant : List ι → σ → Prop} {state : σ}
    {past inputs : List ι} (start : invariant past state)
    (each : ∀ before state, ∀ input ∈ inputs, invariant before state →
      ∃ next, step state input = .ok next ∧ invariant (before ++ [input]) next) :
    ∃ final, inputs.foldlM step state = .ok final ∧ invariant (past ++ inputs) final := by
  induction inputs generalizing state past with
  | nil => exact ⟨state, rfl, by rwa [List.append_nil]⟩
  | cons input rest following =>
    obtain ⟨middle, stepped, next⟩ := each past state input List.mem_cons_self start
    obtain ⟨final, ran, holds⟩ := following next fun before state other member =>
      each before state other (List.mem_cons_of_mem input member)
    refine ⟨final, ?_, by simpa using holds⟩
    rw [List.foldlM_cons, stepped]
    exact ran

/-- When the input alone decides whether a step fails, as long as the invariant holds, each
input decides it for the run. -/
theorem foldlM_returns_iff_invariant {φ : Type w} {step : σ → ι → Except φ σ} {invariant : σ → Prop} {fine : ι → Prop}
    (kept : ∀ state input next, invariant state → step state input = .ok next → invariant next)
    (each : ∀ state input, invariant state → ((∃ next, step state input = .ok next) ↔ fine input)) {state : σ}
    {inputs : List ι} (start : invariant state) :
    (∃ final, inputs.foldlM step state = .ok final) ↔ ∀ input ∈ inputs, fine input := by
  induction inputs generalizing state with
  | nil => exact iff_of_true ⟨state, rfl⟩ fun _ member => absurd member List.not_mem_nil
  | cons input rest following =>
    rw [List.forall_mem_cons, List.foldlM_cons, ← each state input start]
    cases stepped : step state input with
    | error failure => simp [bind, Except.bind]
    | ok middle =>
      rw [← following (kept state input middle start stepped)]
      simp [bind, Except.bind]

theorem foldlM_returns_iff {φ : Type w} {step : σ → ι → Except φ σ} {fine : ι → Prop}
    (each : ∀ state input, (∃ next, step state input = .ok next) ↔ fine input) {state : σ} {inputs : List ι} :
    (∃ final, inputs.foldlM step state = .ok final) ↔ ∀ input ∈ inputs, fine input := by
  apply @foldlM_returns_iff_invariant σ ι φ step fun _ => True
  · exact fun _ _ _ _ _ => trivial
  · exact fun state input _ => each state input
  · trivial

/-- What the inputs leave in a place that each of them may write to. -/
def lastWrite {β : Type w} (writes : ι → Option β) (start : β) (inputs : List ι) : β :=
  inputs.foldl (fun held input => (writes input).getD held) start

/-- An input wrote the value, and none wrote after it. -/
def WrittenLast {β : Type w} (writes : ι → Option β) (value : β) (inputs : List ι) : Prop :=
  ∃ before input after, inputs = before ++ input :: after ∧ writes input = some value ∧
    ∀ later ∈ after, writes later = none

theorem lastWrite_eq_iff {β : Type w} {writes : ι → Option β} {start value : β} {inputs : List ι} :
    lastWrite writes start inputs = value ↔
      WrittenLast writes value inputs ∨ start = value ∧ ∀ input ∈ inputs, writes input = none := by
  induction inputs generalizing start with
  | nil => simp [lastWrite, WrittenLast]
  | cons input rest following =>
    rw [lastWrite, List.foldl_cons, ← lastWrite, following]
    constructor
    · rintro (⟨before, written, after, rfl, wrote, silent⟩ | ⟨same, silent⟩)
      · exact .inl ⟨input :: before, written, after, rfl, wrote, silent⟩
      · cases wrote : writes input with
        | none => exact .inr ⟨by simpa [wrote] using same, List.forall_mem_cons.mpr ⟨wrote, silent⟩⟩
        | some written =>
          rw [wrote, Option.getD_some] at same
          exact .inl ⟨[], input, rest, rfl, same ▸ wrote, silent⟩
    · rintro (⟨before, written, after, split, wrote, silent⟩ | ⟨same, silent⟩)
      · cases before with
        | nil =>
          obtain ⟨rfl, rfl⟩ := List.cons.inj split
          exact .inr ⟨by rw [wrote, Option.getD_some], silent⟩
        | cons first more =>
          obtain ⟨-, rfl⟩ := List.cons.inj split
          exact .inl ⟨more, written, after, rfl, wrote, silent⟩
      · obtain ⟨none, others⟩ := List.forall_mem_cons.mp silent
        exact .inr ⟨by rw [none, Option.getD_none, same], others⟩

/-- Each event of a trace has the property, given the events before it. -/
def EachAfter (property : List ε → ε → Prop) (trace : List ε) : Prop :=
  ∀ before event after, trace = before ++ event :: after → property before event

theorem EachAfter.nil (property : List ε → ε → Prop) : EachAfter property [] := by
  intro before event after whole
  simp at whole

theorem EachAfter.concat {property : List ε → ε → Prop} {trace : List ε} {last : ε}
    (each : EachAfter property trace) (holds : property trace last) : EachAfter property (trace ++ [last]) := by
  intro before event after whole
  rcases List.eq_nil_or_concat after with rfl | ⟨front, final, rfl⟩
  · obtain ⟨rfl, same⟩ := List.append_inj' whole rfl
    obtain rfl : last = event := by simpa using same
    exact holds
  · rw [List.concat_eq_append, ← List.cons_append, ← List.append_assoc] at whole
    exact each before event front (List.append_inj' whole rfl).1

/-- Events that have the property whatever came before them. -/
theorem EachAfter.append_always {property : List ε → ε → Prop} {trace events : List ε}
    (each : EachAfter property trace) (always : ∀ event ∈ events, ∀ before, property before event) :
    EachAfter property (trace ++ events) := by
  induction events generalizing trace with
  | nil => simpa using each
  | cons event rest ih =>
    rw [List.append_cons]
    apply ih
    · exact each.concat (always event List.mem_cons_self trace)
    · exact fun other member => always other (List.mem_cons_of_mem _ member)

/-- Events that have the property in their place after the trace. -/
theorem EachAfter.append_each {property : List ε → ε → Prop} {trace events : List ε} (each : EachAfter property trace)
    (holds : ∀ before event after, events = before ++ event :: after → property (trace ++ before) event) :
    EachAfter property (trace ++ events) := by
  induction events generalizing trace with
  | nil => simpa using each
  | cons event rest following =>
    rw [List.append_cons]
    apply following
    · apply each.concat
      simpa using holds [] event rest rfl
    · intro before other after split
      have placed := holds (event :: before) other after (by rw [split]; rfl)
      rwa [List.append_cons] at placed

end Liblinphone.Library
