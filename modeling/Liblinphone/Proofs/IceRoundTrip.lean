import Liblinphone.IceAttributes
import Liblinphone.Library.Scan
import Liblinphone.Proofs.ConfigPersistence
import Liblinphone.Proofs.ConfigValues

/-! Candidates that are written into attributes and read from them. Each part is a word that
ends at a blank, so that each reader takes off what was written for it. -/

namespace Liblinphone

open Library

namespace Scan

variable {lead word rest : Text}

/-- Blanks alone. -/
def Blank (lead : Text) : Prop := ∀ char ∈ lead, isSpace char = true

/-- What follows a word: nothing, or a blank. -/
def Ends (rest : Text) : Prop := ∀ char, rest.head? = some char → isSpace char = true

/-- A word that fits its buffer. -/
structure Token (word : Text) : Prop where
  present : word ≠ []
  plain : ∀ char ∈ word, isSpace char = false
  short : byteSize word < maxIceAddrLen

theorem plain_of_all {word : Text} (all : (word.all fun char => !isSpace char) = true) : ∀ char ∈ word, isSpace char = false := by
  intro char member
  exact (Bool.not_eq_true' _).mp (List.all_eq_true.mp all char member)

theorem blank_nil : Blank [] := fun _ member => absurd member List.not_mem_nil

theorem blank_space : Blank [' '] := by
  intro char member
  obtain rfl := List.mem_singleton.mp member
  rfl

theorem ends_nil : Ends [] := by
  intro char first
  cases first

theorem ends_space (rest : Text) : Ends (' ' :: rest) := by
  intro char first
  obtain rfl : ' ' = char := Option.some.inj first
  rfl

/-- Where a word begins and where it ends. -/
theorem split_word (blank : Blank lead) (present : word ≠ []) (plain : ∀ char ∈ word, isSpace char = false) (ends : Ends rest) :
    (lead ++ (word ++ rest)).dropWhile isSpace = word ++ rest ∧
      (word ++ rest).takeWhile (fun char => !isSpace char) = word := by
  obtain ⟨first, more, rfl⟩ := List.exists_cons_of_ne_nil present
  constructor
  · rw [List.dropWhile_append_of_pos blank, List.cons_append, List.dropWhile_cons_of_neg]
    simp [plain first List.mem_cons_self]
  · rw [List.takeWhile_append_of_pos (fun char member => by simp [plain char member])]
    cases rest with
    | nil => simp
    | cons char rest =>
      rw [List.takeWhile_cons_of_neg (by simp [ends char rfl]), List.append_nil]

theorem scanWord_word (blank : Blank lead) (present : word ≠ []) (plain : ∀ char ∈ word, isSpace char = false)
    (ends : Ends rest) : scanWord (lead ++ (word ++ rest)) = some (word, rest) := by
  obtain ⟨start, whole⟩ := split_word blank present plain ends
  unfold scanWord
  rw [start, whole]
  simp [present]

theorem run_bind {α β : Type} {first : Scan α} {next : α → Scan β} {text rest : Text} {value : α}
    (read : first.run text = .ok (value, rest)) : (first >>= next).run text = (next value).run rest := by
  rw [StateT.run_bind, read]
  rfl

theorem run_token (blank : Blank lead) (token : Token word) (ends : Ends rest) :
    (Scan.token maxIceAddrLen).run (lead ++ (word ++ rest)) = .ok (word, rest) := by
  unfold StateT.run Scan.token
  rw [scanWord_word blank token.present token.plain ends]
  exact if_pos token.short

theorem run_upTo {width : Nat} (blank : Blank lead) (present : word ≠ []) (plain : ∀ char ∈ word, isSpace char = false)
    (ends : Ends rest) (short : word.length ≤ width) : (upTo width).run (lead ++ (word ++ rest)) = .ok (word, rest) := by
  unfold StateT.run upTo
  rw [scanWord_word blank present plain ends]
  dsimp only
  rw [List.take_of_length_le short, List.drop_of_length_le short, List.nil_append]

theorem run_literal (blank : Blank lead) (present : word ≠ []) (plain : ∀ char ∈ word, isSpace char = false) :
    (literal word).run (lead ++ (word ++ rest)) = .ok ((), rest) := by
  obtain ⟨first, more, rfl⟩ := List.exists_cons_of_ne_nil present
  have start : (lead ++ (first :: more ++ rest)).dropWhile isSpace = first :: more ++ rest := by
    rw [List.dropWhile_append_of_pos blank, List.cons_append, List.dropWhile_cons_of_neg]
    simp [plain first List.mem_cons_self]
  unfold StateT.run literal
  rw [start, if_pos (List.isPrefixOf_iff_prefix.mpr (List.prefix_append _ _)), List.drop_left]

/-- The digits of a number, up to what follows it. -/
theorem takeWhile_number (value : Nat) (ends : Ends rest) :
    (numberText value ++ rest).takeWhile Char.isDigit = numberText value := by
  rw [List.takeWhile_append_of_pos (numberText_digits value).2]
  cases rest with
  | nil => simp
  | cons char rest =>
    rw [List.takeWhile_cons_of_neg, List.append_nil]
    intro digit
    exact Bool.noConfusion ((isSpace_digit digit).symm.trans (ends char rfl))

theorem run_number (blank : Blank lead) (ends : Ends rest) (value : Int) :
    number.run (lead ++ (integerText value ++ rest)) = .ok (value, rest) := by
  have start := (split_word blank (integerText_ne_nil value) (integerText_plain value) ends).1
  unfold StateT.run number
  simp only [start]
  cases value with
  | ofNat value =>
    have present := (numberText_digits value).1
    have written : integerText (Int.ofNat value) = numberText value := rfl
    have first : (numberText value ++ rest).head? = (numberText value).head? := List.head?_append_of_ne_nil _ present
    have minus := @head?_numberText_sign value '-' (by decide)
    have plus := @head?_numberText_sign value '+' (by decide)
    simp only [written, first, minus, plus, or_self, if_false, takeWhile_number value ends, List.drop_left, textNumber_numberText,
      List.isEmpty_iff, present]
    rfl
  | negSucc value =>
    have present := (numberText_digits (value + 1)).1
    have written : integerText (Int.negSucc value) = '-' :: numberText (value + 1) := rfl
    simp only [written, List.cons_append, List.head?_cons, List.tail_cons, true_or, if_true, takeWhile_number (value + 1) ends,
      List.drop_left, textNumber_numberText, List.isEmpty_iff, present, if_false]
    rfl

theorem run_map {α β : Type} {scan : Scan α} {change : α → β} {text rest : Text} {value : α}
    (read : scan.run text = .ok (value, rest)) : (change <$> scan).run text = .ok (change value, rest) := by
  rw [StateT.run_map, read]
  rfl

/-- A port is read as it was written. -/
theorem run_signed (blank : Blank lead) (ends : Ends rest) {value : Int} (least : -2 ^ 31 ≤ value) (most : value < 2 ^ 31) :
    signed.run (lead ++ (integerText value ++ rest)) = .ok (value, rest) := by
  have read := @run_map _ _ _ (fun value => Utils.toInt (Utils.saturate value)) _ _ _ (run_number blank ends value)
  rwa [Utils.saturate_of_small (by omega) (by omega), Utils.toInt_of_small least most] at read

theorem toUnsigned_of_small {value : Int} (most : value < 2 ^ 32) : toUnsigned value = (value % 2 ^ 32).toNat := by
  unfold toUnsigned
  omega

theorem run_unsigned (blank : Blank lead) (ends : Ends rest) (value : Int) :
    unsigned.run (lead ++ (integerText value ++ rest)) = .ok (toUnsigned value, rest) :=
  run_map (run_number blank ends value)

theorem run_unsigned_number (blank : Blank lead) (ends : Ends rest) {value : Nat} (small : value < 2 ^ 32) :
    unsigned.run (lead ++ (numberText value ++ rest)) = .ok (value, rest) := by
  have same : toUnsigned (Int.ofNat value) = value := by
    rw [toUnsigned_of_small (by simp; omega)]
    simp
    omega
  have read := run_unsigned blank ends (Int.ofNat value)
  rwa [same] at read

/-- A port that was written with a sign keeps its bits. -/
theorem toInt_toUnsigned {value : Int} (least : -2 ^ 31 ≤ value) (most : value < 2 ^ 31) :
    Utils.toInt (toUnsigned value) = value := by
  rw [toUnsigned_of_small (by omega), Int.toNat_of_nonneg (Int.emod_nonneg _ (by decide))]
  have word : (2 : Int) ^ 32 = ((2 ^ 32 : Nat) : Int) := rfl
  unfold Utils.toInt
  rw [word, Int.emod_bmod]
  exact Utils.toInt_of_small least most

theorem run_attempt {α : Type} {scan : Scan α} {text : Text} {value : α} (read : scan.run text = .ok (value, rest)) :
    (attempt scan).run text = .ok (some value, rest) := by
  unfold StateT.run attempt
  rw [read]

theorem run_attempt_mismatch {α : Type} {scan : Scan α} {text : Text} (stopped : scan.run text = .error .mismatch) :
    (attempt scan).run text = .ok (none, text) := by
  unfold StateT.run attempt
  rw [stopped]

theorem byteSize_append (first second : Text) : byteSize (first ++ second) = byteSize first + byteSize second := by
  unfold byteSize
  rw [List.map_append, List.sum_append]

end Scan

namespace SalIceCandidate

open Scan

/-- The words of a candidate are tokens, and its numbers are what the code's types hold. Without
a related address it has no related port. -/
structure Plain (candidate : SalIceCandidate) : Prop where
  foundation : Token candidate.foundation.toList
  addr : Token candidate.addr.toList
  type : Token candidate.type.toList
  related : candidate.raddr = "" ∧ candidate.rport = 0 ∨ Token candidate.raddr.toList
  componentID : candidate.componentID < 2 ^ 32
  priority : candidate.priority < 2 ^ 32
  port : -2 ^ 31 ≤ candidate.port ∧ candidate.port < 2 ^ 31
  rport : -2 ^ 31 ≤ candidate.rport ∧ candidate.rport < 2 ^ 31

variable {candidate : SalIceCandidate}

theorem run_scanBase (plain : candidate.Plain) {rest : Text} (ends : Ends rest) :
    scanBase.run (candidate.baseValue ++ rest) = .ok (({ candidate with raddr := "", rport := 0 }, "UDP".toList), rest) := by
  have spread : candidate.baseValue ++ rest = [] ++ (candidate.foundation.toList ++ ([' '] ++ (numberText candidate.componentID ++
      ([' '] ++ ("UDP".toList ++ ([' '] ++ (numberText candidate.priority ++ ([' '] ++ (candidate.addr.toList ++
        ([' '] ++ (integerText candidate.port ++ ([' '] ++ ("typ".toList ++ ([' '] ++ (candidate.type.toList ++ rest))))))))))))))) := by
    simp [baseValue]
  rw [spread]
  unfold scanBase
  refine (run_bind (run_token blank_nil plain.foundation (ends_space _))).trans ?_
  refine (run_bind (run_unsigned_number blank_space (ends_space _) plain.componentID)).trans ?_
  refine (run_bind (run_upTo blank_space (by decide) (plain_of_all rfl) (ends_space _) (by decide))).trans ?_
  refine (run_bind (run_unsigned_number blank_space (ends_space _) plain.priority)).trans ?_
  refine (run_bind (run_token blank_space plain.addr (ends_space _))).trans ?_
  refine (run_bind (run_signed blank_space (ends_space _) plain.port.1 plain.port.2)).trans ?_
  refine (run_bind (run_literal blank_space (by decide) (plain_of_all rfl))).trans ?_
  refine (run_bind (run_token blank_space plain.type ends)).trans ?_
  simp only [String.ofList_toList]
  rfl

theorem run_scanRaddr {raddr rest : Text} (token : Token raddr) (ends : Ends rest) :
    scanRaddr.run (" raddr ".toList ++ (raddr ++ rest)) = .ok (raddr, rest) := by
  have spread : " raddr ".toList ++ (raddr ++ rest) = [' '] ++ ("raddr".toList ++ ([' '] ++ (raddr ++ rest))) := rfl
  rw [spread]
  exact (run_bind (run_literal blank_space (by decide) (plain_of_all rfl))).trans (run_token blank_space token ends)

theorem run_scanRport {rport : Int} (least : -2 ^ 31 ≤ rport) (most : rport < 2 ^ 31) :
    scanRport.run (" rport ".toList ++ integerText rport) = .ok (rport, []) := by
  have spread : " rport ".toList ++ integerText rport = [' '] ++ ("rport".toList ++ ([' '] ++ (integerText rport ++ []))) := by
    rw [List.append_nil]
    rfl
  rw [spread]
  exact (run_bind (run_literal blank_space (by decide) (plain_of_all rfl))).trans (run_signed blank_space ends_nil least most)

theorem value_unrelated (missing : candidate.raddr = "") : candidate.value = candidate.baseValue ++ [] := by
  unfold value
  rw [missing, List.append_nil]
  rfl

theorem value_related (token : Token candidate.raddr.toList) : candidate.value =
    candidate.baseValue ++ (" raddr ".toList ++ (candidate.raddr.toList ++ (" rport ".toList ++ integerText candidate.rport))) := by
  have filled : ¬candidate.raddr.isEmpty = true := by
    intro empty
    rw [String.isEmpty_iff] at empty
    exact token.present (empty ▸ rfl)
  unfold value
  rw [if_neg filled, List.append_assoc candidate.raddr.toList]

/-- A candidate is read as it was written. -/
theorem run_scan (plain : candidate.Plain) : scan.run candidate.value = .ok (some candidate, []) := by
  have udp : ("UDP".toList.map Char.toLower == "udp".toList) = true := by decide
  unfold scan
  rcases plain.related with ⟨missing, zero⟩ | token
  · rw [value_unrelated missing]
    refine (run_bind (run_attempt (run_scanBase plain ends_nil))).trans ?_
    refine (run_bind (run_attempt_mismatch rfl)).trans ?_
    dsimp only
    rw [if_pos udp, ← missing, ← zero]
    rfl
  · rw [value_related token]
    refine (run_bind (run_attempt (run_scanBase plain (ends_space _)))).trans ?_
    refine (run_bind (run_attempt (run_scanRaddr token (ends_space _)))).trans ?_
    refine (run_bind (run_attempt (run_scanRport plain.rport.1 plain.rport.2))).trans ?_
    dsimp only
    rw [if_pos udp, String.ofList_toList]
    rfl

end SalIceCandidate

namespace SalStreamDescription

open Scan

section Candidates

theorem byteSize_baseValue_le (candidate : SalIceCandidate) : byteSize candidate.baseValue ≤ byteSize candidate.value := by
  unfold SalIceCandidate.value
  split
  next => exact Nat.le_refl _
  next =>
    rw [byteSize_append]
    exact Nat.le_add_right _ _

/-- What is written: the candidates before the first one without a port. -/
theorem iceCandidateValues_eq {candidates : List SalIceCandidate} (plain : ∀ candidate ∈ candidates, candidate.Plain)
    (fit : ∀ candidate ∈ candidates.takeWhile fun candidate => candidate.port != 0, byteSize candidate.value ≤ maxIceValueLen) :
    iceCandidateValues candidates =
      (candidates.takeWhile fun candidate => candidate.port != 0).map SalIceCandidate.value := by
  induction candidates with
  | nil => rfl
  | cons candidate rest ih =>
    obtain ⟨first, others⟩ := List.forall_mem_cons.mp plain
    have filled : candidate.addr.isEmpty = false := by
      by_contra empty
      rw [Bool.not_eq_false, String.isEmpty_iff] at empty
      exact first.addr.present (empty ▸ rfl)
    have base := byteSize_baseValue_le candidate
    unfold iceCandidateValues
    rw [filled, Bool.false_or]
    by_cases zero : candidate.port = 0
    · rw [if_pos (by simp [zero]), List.takeWhile_cons_of_neg (by simp [zero]), List.map_nil]
    · rw [List.takeWhile_cons_of_pos (by simp [zero])] at fit ⊢
      obtain ⟨short, shorter⟩ := List.forall_mem_cons.mp fit
      rw [if_neg (by simp [zero]), if_neg (by omega), if_neg (by omega), List.map_cons, ih others shorter]

/-- Each value adds its candidate. -/
theorem read_candidates {candidates : List SalIceCandidate} (plain : ∀ candidate ∈ candidates, candidate.Plain)
    (stream : SalStreamDescription) :
    sdpParseMediaIceParameters stream (candidates.map fun candidate => { name := "candidate", value := some candidate.value }) =
      .ok { stream with iceCandidates := stream.iceCandidates ++ candidates } := by
  induction candidates generalizing stream with
  | nil =>
    rw [List.append_nil]
    rfl
  | cons candidate rest ih =>
    obtain ⟨first, others⟩ := List.forall_mem_cons.mp plain
    have read : readIceAttribute stream { name := "candidate", value := some candidate.value } =
        .ok { stream with iceCandidates := stream.iceCandidates ++ [candidate] } := by
      unfold readIceAttribute
      dsimp only
      rw [if_pos rfl]
      unfold readCandidate
      rw [SalIceCandidate.run_scan first]
      rfl
    unfold sdpParseMediaIceParameters at ih ⊢
    rw [List.map_cons, List.foldlM_cons, read]
    refine (ih others _).trans ?_
    simp

end Candidates

section RemoteCandidates

/-- A slot that is written. -/
structure Filled (candidate : SalIceRemoteCandidate) : Prop where
  addr : Token candidate.addr.toList
  port : candidate.port ≠ 0
  small : -2 ^ 31 ≤ candidate.port ∧ candidate.port < 2 ^ 31

/-- A slot that is not written. -/
def Empty (candidate : SalIceRemoteCandidate) : Prop := candidate.addr = "" ∨ candidate.port = 0

/-- The texts of the slots from this one on. -/
def slotTexts (slot : Nat) : List SalIceRemoteCandidate → Text
  | [] => []
  | candidate :: rest => remoteCandidateText slot candidate ++ slotTexts (slot + 1) rest

theorem remoteCandidatesValue_empty {candidates : List SalIceRemoteCandidate} (empty : ∀ candidate ∈ candidates, Empty candidate)
    (slot : Nat) (value : Text) : remoteCandidatesValue slot value candidates = some value := by
  induction candidates generalizing slot with
  | nil => rfl
  | cons candidate rest ih =>
    obtain ⟨first, others⟩ := List.forall_mem_cons.mp empty
    unfold remoteCandidatesValue
    rw [if_neg, ih others]
    rcases first with missing | zero
    · simp [missing]
    · simp [zero]

theorem filled_condition {candidate : SalIceRemoteCandidate} (filled : Filled candidate) :
    (!candidate.addr.isEmpty && candidate.port != 0) = true := by
  have some : candidate.addr.isEmpty = false := by
    by_contra empty
    rw [Bool.not_eq_false, String.isEmpty_iff] at empty
    exact filled.addr.present (empty ▸ rfl)
  simp [some, filled.port]

theorem remoteCandidatesValue_filled {candidates more : List SalIceRemoteCandidate}
    (filled : ∀ candidate ∈ candidates, Filled candidate) (empty : ∀ candidate ∈ more, Empty candidate) {slot : Nat} {value : Text}
    (fits : byteSize (value ++ slotTexts slot candidates) ≤ maxIceValueLen) :
    remoteCandidatesValue slot value (candidates ++ more) = some (value ++ slotTexts slot candidates) := by
  induction candidates generalizing slot value with
  | nil =>
    rw [slotTexts, List.append_nil]
    exact remoteCandidatesValue_empty empty slot value
  | cons candidate rest ih =>
    obtain ⟨first, others⟩ := List.forall_mem_cons.mp filled
    rw [slotTexts, ← List.append_assoc] at fits ⊢
    have front : byteSize (value ++ remoteCandidateText slot candidate) ≤ maxIceValueLen := by
      rw [byteSize_append] at fits
      omega
    rw [List.cons_append, remoteCandidatesValue, if_pos (filled_condition first)]
    dsimp only
    rw [if_neg (by omega)]
    exact ih others fits

/-- A slot without the blank in front of it. -/
def slotText (slot : Nat) (candidate : SalIceRemoteCandidate) (rest : Text) : Text :=
  numberText (slot + 1) ++ ([' '] ++ (candidate.addr.toList ++ ([' '] ++ (integerText candidate.port ++ rest))))

theorem run_scanRemoteCandidate {candidate : SalIceRemoteCandidate} (filled : Filled candidate) {slot : Nat}
    (small : slot + 1 < 2 ^ 32) {rest : Text} (ends : Ends rest) :
    scanRemoteCandidate.run (slotText slot candidate rest) = .ok ((slot + 1, candidate), rest) := by
  unfold scanRemoteCandidate slotText
  refine (run_bind (run_unsigned_number blank_nil (ends_space _) small)).trans ?_
  refine (run_bind (run_token blank_space filled.addr (ends_space _))).trans ?_
  refine (run_bind (run_unsigned blank_space ends candidate.port)).trans ?_
  rw [toInt_toUnsigned filled.small.1 filled.small.2, String.ofList_toList]
  rfl

theorem setRemoteCandidate_next (slots : List SalIceRemoteCandidate) (candidate : SalIceRemoteCandidate) :
    setRemoteCandidate slots (slots.length + 1) candidate = slots ++ [candidate] := by
  unfold setRemoteCandidate
  rw [if_neg (Nat.succ_ne_zero _), Nat.add_sub_cancel_left, Nat.add_sub_cancel, List.set_append_right _ _ (Nat.le_refl _),
    Nat.sub_self]
  rfl

theorem slotTexts_cons (slot : Nat) (candidate : SalIceRemoteCandidate) (rest : List SalIceRemoteCandidate)
    (small : slot + 2 < 2 ^ 32) :
    slotTexts (slot + 1) (candidate :: rest) = ' ' :: slotText (slot + 1) candidate (slotTexts (slot + 2) rest) := by
  rw [slotTexts]
  unfold remoteCandidateText slotText
  rw [if_pos (Nat.succ_pos slot), Nat.mod_eq_of_lt small]
  simp

/-- The loop reads the slots one after the other. The slots that it has read are the ones before them. -/
theorem readRemoteCandidates_eq {slots rest : List SalIceRemoteCandidate} {candidate : SalIceRemoteCandidate} {turns : Nat}
    (filled : ∀ other ∈ candidate :: rest, Filled other) (small : slots.length + rest.length + 1 < 2 ^ 32)
    (enough : rest.length < turns) :
    readRemoteCandidates slots turns (slotText slots.length candidate (slotTexts (slots.length + 1) rest)) =
      .ok (slots ++ candidate :: rest) := by
  induction rest generalizing slots candidate turns with
  | nil =>
    obtain ⟨turns, rfl⟩ : ∃ more, turns = more + 1 := ⟨turns - 1, by omega⟩
    have read := run_scanRemoteCandidate (filled candidate List.mem_cons_self) (by simpa using small) ends_nil
    unfold readRemoteCandidates
    rw [slotTexts, read]
    dsimp only
    rw [setRemoteCandidate_next]
    exact if_pos rfl
  | cons next rest ih =>
    obtain ⟨turns, rfl⟩ : ∃ more, turns = more + 1 := ⟨turns - 1, by omega⟩
    rw [List.length_cons] at small enough
    have read := @run_scanRemoteCandidate candidate (filled candidate List.mem_cons_self) slots.length (by omega) _
      (ends_space (slotText (slots.length + 1) next (slotTexts (slots.length + 2) rest)))
    have length : (slots ++ [candidate]).length = slots.length + 1 := List.length_append
    have following := @ih (slots ++ [candidate]) next turns (fun other member => filled other (List.mem_cons_of_mem _ member))
      (by omega) (by omega)
    rw [length, List.append_assoc] at following
    unfold readRemoteCandidates
    rw [slotTexts_cons _ _ _ (by omega), read]
    dsimp only
    rw [setRemoteCandidate_next, if_neg (by simp), List.head?_cons, if_pos rfl, List.tail_cons]
    exact following

/-- Every slot that is written takes characters. -/
theorem length_le_slotTexts (slot : Nat) (candidates : List SalIceRemoteCandidate) :
    candidates.length ≤ (slotTexts slot candidates).length := by
  induction candidates generalizing slot with
  | nil => exact Nat.le_refl 0
  | cons candidate rest ih =>
    have later := ih (slot + 1)
    unfold slotTexts remoteCandidateText
    simp only [List.length_append, List.length_cons]
    omega

theorem length_le_byteSize (text : Text) : text.length ≤ byteSize text := by
  induction text with
  | nil => exact Nat.le_refl 0
  | cons char rest ih =>
    have bytes := char.utf8Size_pos
    unfold byteSize at ih ⊢
    rw [List.length_cons, List.map_cons, List.sum_cons]
    omega

/-- The first slots are written into one attribute, and read from it. -/
theorem read_remoteCandidates {candidates more : List SalIceRemoteCandidate} (filled : ∀ candidate ∈ candidates, Filled candidate)
    (empty : ∀ candidate ∈ more, Empty candidate) (fits : byteSize (slotTexts 0 candidates) ≤ maxIceValueLen)
    {stream start : SalStreamDescription} (slots : stream.iceRemoteCandidates = candidates ++ more)
    (fresh : start.iceRemoteCandidates = []) :
    sdpParseMediaIceParameters start stream.addIceRemoteCandidatesToSdp =
      .ok { start with iceRemoteCandidates := candidates } := by
  have written := @remoteCandidatesValue_filled candidates more filled empty 0 [] fits
  unfold addIceRemoteCandidatesToSdp
  rw [slots, written, List.nil_append]
  dsimp only
  cases candidates with
  | nil =>
    rw [if_pos (show (slotTexts 0 []).isEmpty = true from rfl), ← fresh]
    rfl
  | cons candidate rest =>
    have text : slotTexts 0 (candidate :: rest) = slotText 0 candidate (slotTexts 1 rest) := by
      rw [slotTexts]
      unfold remoteCandidateText slotText
      simp
    have many := (length_le_slotTexts 0 (candidate :: rest)).trans (length_le_byteSize _)
    have longer := length_le_slotTexts 0 (candidate :: rest)
    rw [List.length_cons] at many longer
    unfold maxIceValueLen at fits
    have read := @readRemoteCandidates_eq [] rest candidate ((slotTexts 0 (candidate :: rest)).length + 1) filled
      (by rw [List.length_nil]; omega) (by omega)
    rw [List.length_nil, List.nil_append, ← text] at read
    have present : ¬(slotTexts 0 (candidate :: rest)).isEmpty = true := by
      intro nothing
      rw [List.isEmpty_iff.mp nothing] at longer
      exact absurd longer (Nat.not_succ_le_zero _)
    have step : readIceAttribute start { name := "remote-candidates", value := some (slotTexts 0 (candidate :: rest)) } =
        .ok { start with iceRemoteCandidates := candidate :: rest } := by
      unfold readIceAttribute
      dsimp only
      rw [if_neg (by decide), if_pos rfl]
      unfold readRemoteCandidatesValue
      rw [fresh, read]
      rfl
    rw [if_neg present]
    unfold sdpParseMediaIceParameters
    rw [List.foldlM_cons, step]
    rfl

end RemoteCandidates

/-- The candidates of the stream are plain, the slots with an address come first, and what is
written fits. -/
structure PlainIce (stream : SalStreamDescription) (slots : List SalIceRemoteCandidate) : Prop where
  candidates : ∀ candidate ∈ stream.iceCandidates, candidate.Plain
  candidatesFit : ∀ candidate ∈ stream.iceCandidates.takeWhile fun candidate => candidate.port != 0,
    byteSize candidate.value ≤ maxIceValueLen
  filled : ∀ candidate ∈ slots, Filled candidate
  first : ∃ more, stream.iceRemoteCandidates = slots ++ more ∧ ∀ candidate ∈ more, Empty candidate
  slotsFit : byteSize (slotTexts 0 slots) ≤ maxIceValueLen

/-- The attributes of a stream are read as its candidates before the first one without a port,
and as its remote candidates. -/
theorem ice_round_trip {stream start : SalStreamDescription} {slots : List SalIceRemoteCandidate} (plain : stream.PlainIce slots)
    (candidates : start.iceCandidates = []) (remoteCandidates : start.iceRemoteCandidates = []) :
    sdpParseMediaIceParameters start (stream.addIceCandidatesToSdp ++ stream.addIceRemoteCandidatesToSdp) =
      .ok { start with
        iceCandidates := stream.iceCandidates.takeWhile fun candidate => candidate.port != 0
        iceRemoteCandidates := slots } := by
  obtain ⟨more, split, empty⟩ := plain.first
  have before : ∀ candidate ∈ stream.iceCandidates.takeWhile fun candidate => candidate.port != 0, candidate.Plain :=
    fun candidate member => plain.candidates candidate ((List.takeWhile_sublist _).subset member)
  have first := read_candidates before start
  have second := @read_remoteCandidates slots more plain.filled empty plain.slotsFit stream
    { start with iceCandidates := stream.iceCandidates.takeWhile fun candidate => candidate.port != 0 } split remoteCandidates
  unfold sdpParseMediaIceParameters at first second ⊢
  rw [candidates, List.nil_append] at first
  rw [List.foldlM_append, addIceCandidatesToSdp, iceCandidateValues_eq plain.candidates plain.candidatesFit, List.map_map]
  exact (congrArg (· >>= _) first).trans second

def hostCandidate : SalIceCandidate :=
  { foundation := "1", componentID := 1, priority := 2130706431, addr := "192.168.1.2", port := 7078, type := "host" }

def reflexiveCandidate : SalIceCandidate :=
  { foundation := "2", componentID := 1, priority := 1694498815, addr := "203.0.113.5", port := 41000, type := "srflx",
    raddr := "192.168.1.2", rport := 7078 }

def twoCandidates : SalStreamDescription :=
  { iceCandidates := [hostCandidate, reflexiveCandidate]
    iceRemoteCandidates := [{ addr := "198.51.100.7", port := 7078 }, { addr := "198.51.100.7", port := 7079 }, { }] }

theorem token_of {word : String} (plain : (decide (word.toList ≠ []) && word.toList.all (fun char => !isSpace char) &&
    decide (byteSize word.toList < maxIceAddrLen)) = true) : Token word.toList := by
  simp only [Bool.and_eq_true, decide_eq_true_eq] at plain
  exact { present := plain.1.1, plain := plain_of_all plain.1.2, short := plain.2 }

theorem hostCandidate_plain : hostCandidate.Plain where
  foundation := token_of (by decide)
  addr := token_of (by decide)
  type := token_of (by decide)
  related := .inl ⟨rfl, rfl⟩
  componentID := by decide
  priority := by decide
  port := by decide
  rport := by decide

theorem reflexiveCandidate_plain : reflexiveCandidate.Plain where
  foundation := token_of (by decide)
  addr := token_of (by decide)
  type := token_of (by decide)
  related := .inr (token_of (by decide))
  componentID := by decide
  priority := by decide
  port := by decide
  rport := by decide

theorem twoCandidates_plain : twoCandidates.PlainIce (twoCandidates.iceRemoteCandidates.take 2) where
  candidates := List.forall_mem_cons.mpr ⟨hostCandidate_plain, List.forall_mem_singleton.mpr reflexiveCandidate_plain⟩
  candidatesFit := by decide
  filled := List.forall_mem_cons.mpr ⟨{ addr := token_of (by decide), port := by decide, small := by decide },
    List.forall_mem_singleton.mpr { addr := token_of (by decide), port := by decide, small := by decide }⟩
  first := ⟨[{ }], rfl, List.forall_mem_singleton.mpr (.inl rfl)⟩
  slotsFit := by decide

theorem twoCandidates_read : twoCandidates.PlainIce (twoCandidates.iceRemoteCandidates.take 2) ∧
    sdpParseMediaIceParameters { } (twoCandidates.addIceCandidatesToSdp ++ twoCandidates.addIceRemoteCandidatesToSdp) =
      .ok { iceCandidates := twoCandidates.iceCandidates.takeWhile fun candidate => candidate.port != 0
            iceRemoteCandidates := twoCandidates.iceRemoteCandidates.take 2 } :=
  ⟨twoCandidates_plain, ice_round_trip twoCandidates_plain rfl rfl⟩

def portlessFirst : SalStreamDescription := { iceCandidates := [{ hostCandidate with port := 0 }, hostCandidate] }

/-- A candidate without a port is not written, and neither are those after it. -/
theorem portlessFirst_not_read : (∀ candidate ∈ portlessFirst.iceCandidates, candidate.Plain) ∧
    (∀ candidate ∈ portlessFirst.iceCandidates, byteSize candidate.value ≤ maxIceValueLen) ∧
    sdpParseMediaIceParameters { } (portlessFirst.addIceCandidatesToSdp ++ portlessFirst.addIceRemoteCandidatesToSdp) ≠
      .ok { iceCandidates := portlessFirst.iceCandidates } := by
  refine ⟨List.forall_mem_cons.mpr ⟨{ hostCandidate_plain with port := by decide },
    List.forall_mem_singleton.mpr hostCandidate_plain⟩, by decide, ?_⟩
  have written : portlessFirst.addIceCandidatesToSdp ++ portlessFirst.addIceRemoteCandidatesToSdp = [] := by decide
  rw [written]
  intro read
  injection read with same
  exact absurd (congrArg iceCandidates same) (by decide)

end SalStreamDescription

end Liblinphone
