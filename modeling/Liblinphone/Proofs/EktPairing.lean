import Mathlib.Tactic.ByContra
import Liblinphone.EktManager

/-! Which key goes with which identifiers. A NOTIFY can replace the CSPI of the
context while the key stays behind; as long as that does not happen, every key
that the manager uses belongs to the SSPI and the CSPI it is used with. -/

namespace Liblinphone

namespace ClientEktManager

variable (conference : EktConference)

/-- The key of a context belongs to its identifiers: it was generated with them,
or recovered from a cipher that decrypts under exactly these. -/
def Paired (past : List EktEvent) (ctx : EktContext) : Prop :=
  .generated ctx ∈ past ∨
    ∃ sender cipher, .recovered ctx sender cipher ∈ past ∧
      conference.rawDecrypt conference.myAddr sender ctx.associatedData cipher = some ctx.ekt

/-- A use of a key, by the call or for other devices, is that of a paired one. -/
def PairedUse (past : List EktEvent) : EktEvent → Prop
  | .setEkt ctx params => Paired conference past ctx ∧ params = ctx.fillMSParametersSet
  | .createPublish ctx _ => Paired conference past ctx
  | .generated _ | .recovered _ _ _ => True

/-- The NOTIFY carries a cipher for the local device that decrypts under its own
identifiers. -/
def recoversKey (ei : EktInfo) (sSpi : UInt16) : Bool :=
  match ei.sender, (ei.ciphers.getD []).lookup conference.myAddr with
  | some sender, some cipher =>
    (conference.rawDecrypt conference.myAddr sender ({ sSpi, cSpi := ei.cSpi } : EktContext).associatedData cipher).isSome
  | _, _ => false

/-- A NOTIFY that gives another CSPI to a key that is held but not selected also
gives the key that belongs to it. -/
def KeepsPair (manager : ClientEktManager) : EktInput → Prop
  | .notifyReceived ei _ _ =>
    ei.sSpi = manager.ektCtx.sSpi → ei.cSpi ≠ [] → ei.cSpi ≠ manager.ektCtx.cSpi → manager.selectedEkt = false →
      manager.ektCtx.ekt ≠ [] → recoversKey conference ei ei.sSpi = true
  | _ => True

variable {conference}

private theorem Paired.later {past : List EktEvent} {ctx : EktContext} (paired : Paired conference past ctx)
    (more : List EktEvent) : Paired conference (past ++ more) ctx := by
  rcases paired with generated | ⟨sender, cipher, recovered, decrypts⟩
  · exact .inl (by simp [generated])
  · exact .inr ⟨sender, cipher, by simp [recovered], decrypts⟩

/-- What holds of a manager and of its past: every use was that of a paired key,
a key that is held is paired, participants wait for a key only when there is
one, and there is no key without identifiers. -/
structure PairInvariant (conference : EktConference) (past : List EktEvent) (manager : ClientEktManager) : Prop where
  uses : Library.EachAfter (PairedUse conference) past
  paired : manager.ektCtx.ekt ≠ [] ∨ manager.selectedEkt = true → Paired conference past manager.ektCtx
  waiting : manager.waitingParticipants ≠ [] → manager.ektCtx.ekt ≠ [] ∨ manager.selectedEkt = true
  unidentified : manager.ektCtx.cSpi = [] → manager.ektCtx.ekt = [] ∧ manager.selectedEkt = false
  unset : manager.ektCtx.sSpi = 0 → manager.ektCtx.cSpi = []

theorem PairInvariant.initial (cipherType : MSEKTCipherType) (cryptoSuite : Nat) :
    PairInvariant conference [] { ektCtx := { cipherType, cryptoSuite } } :=
  ⟨.nil _, by simp, by simp, fun _ => ⟨rfl, rfl⟩, fun _ => rfl⟩

/-- The invariant does not look at the state of the PUBLISH. -/
private theorem PairInvariant.publish {past : List EktEvent} {manager : ClientEktManager}
    (invariant : PairInvariant conference past manager) (eventPublish : Option LinphonePublishState) :
    PairInvariant conference past { manager with eventPublish } :=
  ⟨invariant.uses, invariant.paired, invariant.waiting, invariant.unidentified, invariant.unset⟩

private theorem PairInvariant.drop_waiting {past : List EktEvent} {manager : ClientEktManager}
    (invariant : PairInvariant conference past manager) :
    PairInvariant conference past { manager with waitingParticipants := [] } :=
  ⟨invariant.uses, invariant.paired, by simp, invariant.unidentified, invariant.unset⟩

/-- Adding a use of the key that is held, or the event that brought it. -/
private theorem PairInvariant.event {past : List EktEvent} {manager : ClientEktManager} {event : EktEvent}
    (invariant : PairInvariant conference past manager) (justified : PairedUse conference past event) :
    PairInvariant conference (past ++ [event]) manager :=
  ⟨invariant.uses.concat justified, fun held => (invariant.paired held).later _, invariant.waiting,
    invariant.unidentified, invariant.unset⟩

private theorem createPublish_kept {past : List EktEvent} {manager : ClientEktManager}
    (invariant : PairInvariant conference past manager) (recipients : List String) (sent : Bool)
    (held : manager.ektCtx.ekt ≠ [] ∨ manager.selectedEkt = true) :
    PairInvariant conference (past ++ (manager.createPublish recipients sent).2)
      (manager.createPublish recipients sent).1 := by
  have used : PairInvariant conference (past ++ [.createPublish manager.ektCtx recipients]) manager :=
    invariant.event (invariant.paired held)
  simp only [createPublish]
  split
  · exact used.publish _
  · exact used

private theorem manage_kept {past : List EktEvent} {manager : ClientEktManager}
    (invariant : PairInvariant conference past manager) (recipients : List String) (sent : Bool)
    (held : manager.ektCtx.ekt ≠ [] ∨ manager.selectedEkt = true) :
    PairInvariant conference (past ++ (manager.manageParticipantsRequiringKeyAndPublish recipients sent).2)
      (manager.manageParticipantsRequiringKeyAndPublish recipients sent).1 := by
  simp only [manageParticipantsRequiringKeyAndPublish]
  split
  · rw [List.append_nil]
    exact ⟨invariant.uses, invariant.paired, fun _ => held, invariant.unidentified, invariant.unset⟩
  · exact createPublish_kept invariant.drop_waiting _ sent held

/-- A manager without a key has nobody waiting for it. -/
private theorem PairInvariant.alone {past : List EktEvent} {manager : ClientEktManager}
    (invariant : PairInvariant conference past manager) (empty : manager.ektCtx.ekt = [])
    (unselected : manager.selectedEkt = false) : manager.waitingParticipants = [] := by
  by_contra waits
  simpa [empty, unselected] using invariant.waiting waits

private theorem checkSSpi_refused {manager : ClientEktManager} {sSpi : UInt16} (refused : (manager.checkSSpi sSpi).1 ≠ 0) :
    (manager.checkSSpi sSpi).2 = manager := by
  simp only [checkSSpi] at refused ⊢
  split
  · rfl
  · split at refused
    · contradiction
    · split at refused
      · contradiction
      · split at refused <;> contradiction

/-- After the check, the context has the SSPI of the NOTIFY; it is as it was, or
it holds no key. -/
private theorem checkSSpi_kept {past : List EktEvent} {manager checked : ClientEktManager} {sSpi : UInt16}
    (invariant : PairInvariant conference past manager) (accepted : manager.checkSSpi sSpi = (0, checked)) :
    PairInvariant conference past checked ∧ checked.ektCtx.sSpi = sSpi ∧ sSpi ≠ 0 ∧
      (checked = manager ∨ (checked.ektCtx.ekt = [] ∧ checked.selectedEkt = false)) := by
  simp only [checkSSpi, beq_iff_eq, bne_iff_ne] at accepted
  split at accepted
  next => simp at accepted
  next isSet =>
    split at accepted
    next first =>
      obtain rfl := (Prod.mk.inj accepted).2
      have empty := invariant.unset first
      have keyless := invariant.unidentified empty
      refine ⟨⟨invariant.uses, ?_, invariant.waiting, invariant.unidentified, fun unset => absurd unset isSet⟩, rfl,
        isSet, .inr keyless⟩
      intro held
      simp [keyless.1, keyless.2] at held
    next =>
      split at accepted
      next changed =>
        obtain rfl := (Prod.mk.inj accepted).2
        exact ⟨⟨invariant.uses, by simp [clearData, EktContext.clearData], by simp [clearData],
          fun _ => ⟨rfl, rfl⟩, fun _ => rfl⟩, rfl, isSet, .inr ⟨rfl, rfl⟩⟩
      next same =>
        obtain rfl := (Prod.mk.inj accepted).2
        exact ⟨invariant, (Decidable.not_not.mp same).symm, isSet, .inl rfl⟩

/-- A key is recovered for the call, or nothing happens. -/
private theorem recoverEkt_cases {manager : ClientEktManager} {ei : EktInfo} (identified : manager.ektCtx.cSpi = ei.cSpi) :
    ((recoverEkt conference manager ei).2 = (manager, []) ∧
      recoversKey conference ei manager.ektCtx.sSpi = false) ∨
    ∃ ekt sender cipher,
      conference.rawDecrypt conference.myAddr sender manager.ektCtx.associatedData cipher = some ekt ∧
      (recoverEkt conference manager ei).2 =
        ({ manager with ektCtx.ekt := ekt, selectedEkt := true },
          [.recovered { manager.ektCtx with ekt } sender cipher,
            .setEkt { manager.ektCtx with ekt } ({ manager.ektCtx with ekt } : EktContext).fillMSParametersSet]) := by
  have bound : ({ sSpi := manager.ektCtx.sSpi, cSpi := ei.cSpi } : EktContext).associatedData =
      manager.ektCtx.associatedData := by rw [← identified]; rfl
  simp only [recoverEkt, recoversKey, bound]
  cases ciphers : ei.ciphers with
  | none => cases ei.sender <;> simp
  | some listed =>
    cases listed with
    | nil => cases ei.sender <;> simp
    | cons first rest =>
      cases ei.sender with
      | none => simp
      | some sender =>
        simp only [Option.getD_some]
        cases (first :: rest).lookup conference.myAddr with
        | none => simp
        | some cipher =>
          simp only
          cases decrypts : conference.rawDecrypt conference.myAddr sender manager.ektCtx.associatedData cipher with
          | none => simp
          | some ekt => exact .inr ⟨ekt, sender, cipher, decrypts, rfl⟩

/-- Recovering the key of a context keeps the invariant when the context holds
no key of other identifiers in case of a failure. -/
private theorem recoverEkt_kept {past : List EktEvent} {manager : ClientEktManager} {ei : EktInfo}
    (uses : Library.EachAfter (PairedUse conference) past) (identified : manager.ektCtx.cSpi = ei.cSpi)
    (named : ei.cSpi ≠ []) (isSet : manager.ektCtx.sSpi ≠ 0)
    (keyless : recoversKey conference ei manager.ektCtx.sSpi = false →
      manager.ektCtx.ekt = [] ∧ manager.selectedEkt = false ∧ manager.waitingParticipants = []) :
    PairInvariant conference (past ++ (recoverEkt conference manager ei).2.2) (recoverEkt conference manager ei).2.1 := by
  have unidentified : manager.ektCtx.cSpi ≠ [] := identified ▸ named
  rcases recoverEkt_cases identified with ⟨failed, unrecovered⟩ | ⟨ekt, sender, cipher, decrypts, recovered⟩
  · obtain ⟨empty, unselected, alone⟩ := keyless unrecovered
    rw [failed, List.append_nil]
    exact ⟨uses, by simp [empty, unselected], fun waits => absurd alone waits,
      fun absent => absurd absent unidentified, fun unset => absurd unset isSet⟩
  · rw [recovered]
    have paired : Paired conference (past ++ [.recovered { manager.ektCtx with ekt } sender cipher])
        { manager.ektCtx with ekt } := .inr ⟨sender, cipher, by simp, decrypts⟩
    have brought : PairInvariant conference (past ++ [.recovered { manager.ektCtx with ekt } sender cipher])
        { manager with ektCtx.ekt := ekt, selectedEkt := true } :=
      ⟨uses.concat trivial, fun _ => paired, fun _ => .inr rfl, fun absent => absurd absent unidentified,
        fun unset => absurd unset isSet⟩
    have justified : PairedUse conference (past ++ [.recovered { manager.ektCtx with ekt } sender cipher])
        (.setEkt { manager.ektCtx with ekt } ({ manager.ektCtx with ekt } : EktContext).fillMSParametersSet) :=
      ⟨paired, rfl⟩
    have used := brought.event justified
    simpa only [List.append_assoc, List.cons_append, List.nil_append] using used

private theorem randomize_ne_nil (random : Nat → UInt8) (start : Nat) {size : Nat} (positive : 0 < size) :
    randomize random start size ≠ [] := by
  intro empty
  have length := congrArg List.length empty
  simp only [randomize, List.length_map, List.length_range, List.length_nil] at length
  omega

private theorem generateEkt_kept {past : List EktEvent} {manager : ClientEktManager}
    (uses : Library.EachAfter (PairedUse conference) past) (isSet : manager.ektCtx.sSpi ≠ 0)
    (random : Nat → UInt8) (recipients : List String) (sent : Bool) :
    let generated := { manager with ektCtx := manager.ektCtx.generateEkt random }
    PairInvariant conference
      (past ++ .generated generated.ektCtx :: (generated.manageParticipantsRequiringKeyAndPublish recipients sent).2)
      (generated.manageParticipantsRequiringKeyAndPublish recipients sent).1 := by
  intro generated
  have identified : generated.ektCtx.cSpi ≠ [] := randomize_ne_nil random 0 (by decide)
  have held : generated.ektCtx.ekt ≠ [] := by
    refine randomize_ne_nil random 16 ?_
    cases generated.ektCtx.cipherType <;> simp [EktContext.keySize] <;> split <;> decide
  have brought : PairInvariant conference (past ++ [.generated generated.ektCtx]) generated :=
    ⟨uses.concat trivial, fun _ => .inl (by simp), fun _ => .inl held, fun absent => absurd absent identified,
      fun unset => absurd unset isSet⟩
  have published := manage_kept brought recipients sent (.inl held)
  simpa only [List.append_assoc, List.cons_append, List.nil_append] using published

private theorem notifyReceived_kept {past : List EktEvent} {manager : ClientEktManager} {ei : EktInfo}
    {random : Nat → UInt8} {sent : Bool} (invariant : PairInvariant conference past manager)
    (keeps : KeepsPair conference manager (.notifyReceived ei random sent)) :
    PairInvariant conference (past ++ (notifyReceived conference manager ei random sent).2)
      (notifyReceived conference manager ei random sent).1 := by
  simp only [notifyReceived]
  split
  next checked accepted =>
    obtain ⟨kept, sSpi, isSet, origin⟩ := checkSSpi_kept invariant accepted
    rw [← sSpi] at isSet
    split
    next => exact generateEkt_kept kept.uses isSet random _ sent
    next =>
      split
      next named =>
        have named : ei.cSpi ≠ [] := by simpa using named
        split
        next replaced =>
          have keyless : recoversKey conference ei checked.ektCtx.sSpi = false →
              checked.ektCtx.ekt = [] ∧ checked.selectedEkt = false := by
            intro unrecovered
            simp only [Bool.or_eq_true, List.isEmpty_iff, Bool.and_eq_true, bne_iff_ne, Bool.not_eq_true'] at replaced
            rcases replaced with empty | ⟨other, unselected⟩
            · exact kept.unidentified empty
            · rcases origin with rfl | keyless
              · refine ⟨?_, unselected⟩
                by_contra held
                have recovers := keeps sSpi.symm named (Ne.symm other) unselected held
                rw [← sSpi, unrecovered] at recovers
                exact Bool.noConfusion recovers
              · exact keyless
          refine recoverEkt_kept kept.uses rfl named isSet ?_
          intro unrecovered
          obtain ⟨empty, unselected⟩ := keyless unrecovered
          exact ⟨empty, unselected, kept.alone empty unselected⟩
        next =>
          split
          next => simpa using kept
          next =>
            split
            next same =>
              split
              next => simpa using kept
              next =>
                simp only [Bool.and_eq_true] at same
                exact manage_kept kept _ sent (.inr same.2)
            next different =>
              split
              next same =>
                have same : checked.ektCtx.cSpi = ei.cSpi := by simpa using same
                split
                next empty =>
                  have unselected : checked.selectedEkt = false := by simpa [same] using different
                  have empty : checked.ektCtx.ekt = [] := by simpa using empty
                  exact recoverEkt_kept kept.uses same named isSet
                    (fun _ => ⟨empty, unselected, kept.alone empty unselected⟩)
                next held =>
                  have held : checked.ektCtx.ekt ≠ [] := by simpa using held
                  have justified : PairedUse conference past
                      (.setEkt checked.ektCtx checked.ektCtx.fillMSParametersSet) := ⟨kept.paired (.inl held), rfl⟩
                  have used := kept.event justified
                  exact ⟨used.uses, fun _ => used.paired (.inl held), fun _ => .inl held,
                    fun absent => absurd (absent.symm.trans same).symm named, used.unset⟩
              next => simpa using kept
      next => simpa using kept
  next code left refused checked =>
    have same : (manager.checkSSpi ei.sSpi).2 = manager := checkSSpi_refused (by rw [checked]; exact refused)
    rw [checked] at same
    obtain rfl : left = manager := same
    simpa using invariant

/-- A step that keeps the pair keeps the invariant. -/
theorem step_kept {past : List EktEvent} {manager : ClientEktManager} {input : EktInput}
    (keeps : KeepsPair conference manager input) (invariant : PairInvariant conference past manager) :
    PairInvariant conference (past ++ (step conference manager input).2) (step conference manager input).1 := by
  cases input with
  | notifyReceived ei random sent => exact notifyReceived_kept invariant keeps
  | publishCipheredEkt status sent =>
    simp only [step, List.append_nil]
    split
    · exact invariant.publish _
    · exact invariant
  | publishStateChanged state sent =>
    simp only [step, publishStateChanged]
    split
    next => simpa using invariant
    next =>
      split
      next waits =>
        simp only [Bool.and_eq_true, Bool.not_eq_true', List.isEmpty_eq_false_iff] at waits
        have notified := invariant.publish (manager.eventPublish.map fun _ => state)
        exact (createPublish_kept notified manager.waitingParticipants sent (invariant.waiting waits.2)).drop_waiting
      next => simpa using invariant.publish _
  | networkUnreachable => simpa [step] using invariant.publish none

/-- In every run whose NOTIFYs keep the pair, each key that is handed to the call
or encrypted for other devices belongs to the identifiers it is used with. -/
theorem ekt_pairing (conference : EktConference) (cipherType : MSEKTCipherType) (cryptoSuite : Nat)
    (inputs : List EktInput)
    (keeps : Library.Meets (step conference) (KeepsPair conference) { ektCtx := { cipherType, cryptoSuite } } inputs) :
    Library.EachAfter (PairedUse conference)
      (Library.run (step conference) { ektCtx := { cipherType, cryptoSuite } } inputs).2 := by
  have final := Library.run_invariant (PairInvariant conference)
    (fun past manager input guard invariant => step_kept guard invariant) (.initial cipherType cryptoSuite) keeps
  exact final.uses

/-- A conference whose ciphers carry the data they are bound to, then the key. -/
def boundConference : EktConference :=
  { myAddr := "sip:alice"
    isMyDevice := fun device => device == "sip:alice"
    rawDecrypt := fun _ _ associatedData cipherText =>
      if associatedData.isPrefixOf cipherText then some (cipherText.drop associatedData.length) else none }

/-- A key is recovered, then requested by another device. -/
def recoveringRun : List EktInput :=
  [.notifyReceived { sender := some "sip:bob", sSpi := 1, cSpi := [5], ciphers := some [("sip:alice", [0, 1, 5, 8, 8])] }
      (fun _ => 0) true,
    .notifyReceived { sSpi := 1, cSpi := [5], ciphers := some [("sip:carol", [])] } (fun _ => 0) true]

theorem ekt_pairing_recovered :
    let ctx : EktContext := { sSpi := 1, cSpi := [5], ekt := [8, 8] }
    (Library.run (step boundConference) {} recoveringRun).2 =
        [.recovered ctx "sip:bob" [0, 1, 5, 8, 8], .setEkt ctx ctx.fillMSParametersSet,
          .createPublish ctx ["sip:carol"]] ∧
      Library.EachAfter (PairedUse boundConference) (Library.run (step boundConference) {} recoveringRun).2 := by
  refine ⟨by decide, ekt_pairing boundConference .aeskw256 0 recoveringRun ⟨?_, ?_, trivial⟩⟩
  · intro _ _ _ _ held
    exact absurd rfl held
  · intro _ _ _ unselected
    exact absurd unselected (by decide)

/-- The conference server selects the key of another device, which has no cipher
for the local one, over the key that was generated here. -/
def competingRun : List EktInput :=
  let selection : EktInfo := { sender := some "sip:bob", sSpi := 1, cSpi := [5], ciphers := some [("sip:carol", [7])] }
  [.notifyReceived { sSpi := 1 } (fun _ => 0) true, .notifyReceived selection (fun _ => 0) true,
    .notifyReceived selection (fun _ => 0) true]

/-- The generated key is handed to the call under the CSPI of the other one. -/
theorem ekt_unpaired :
    let generated : EktContext := { sSpi := 1, cSpi := List.replicate 16 0, ekt := List.replicate 32 0 }
    let used : EktContext := { generated with cSpi := [5] }
    (Library.run (step boundConference) {} competingRun).2 =
        [.generated generated, .createPublish generated [], .setEkt used used.fillMSParametersSet] ∧
      ¬Library.EachAfter (PairedUse boundConference) (Library.run (step boundConference) {} competingRun).2 := by
  intro generated used
  have trace : (Library.run (step boundConference) {} competingRun).2 =
      [.generated generated, .createPublish generated [], .setEkt used used.fillMSParametersSet] := by decide
  refine ⟨trace, ?_⟩
  intro each
  rcases each [.generated generated, .createPublish generated []] _ [] trace with
    ⟨fresh | ⟨sender, cipher, recovered, _⟩, _⟩
  · exact absurd fresh (by decide)
  · simp at recovered

end ClientEktManager
end Liblinphone
