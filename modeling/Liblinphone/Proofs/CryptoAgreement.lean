import Liblinphone.OfferAnswer

/-! Agreement on an SRTP suite. The answerer and the offerer run the same search
with the roles of their lists swapped, and both settle on the same line. -/

namespace Liblinphone

/-- The lines of a list of suites before its terminator. -/
def proposed (lines : List SalSrtpCryptoAlgo) : List SalSrtpCryptoAlgo := lines.takeWhile (·.algo != 0)

/-- The line that a party has for a suite. -/
def lineFor (own : List SalSrtpCryptoAlgo) (algo : MSCryptoSuite) : Option SalSrtpCryptoAlgo :=
  own.find? (fun line => algo == line.algo)

/-- The first proposed line whose suite the other party also has. -/
def firstShared (own other : List SalSrtpCryptoAlgo) : Option SalSrtpCryptoAlgo :=
  (proposed other).find? (fun line => (lineFor own line.algo).isSome)

/-- What a shared line becomes, with the key of one party and the tag of the other. -/
def sharedLine (own remote : SalSrtpCryptoAlgo) (useLocalKey : Bool) : SalSrtpCryptoAlgo :=
  if useLocalKey then { algo := remote.algo, masterKey := own.masterKey, tag := remote.tag }
  else { algo := remote.algo, masterKey := remote.masterKey, tag := own.tag }

theorem matchCryptoAlgo_eq (own other : List SalSrtpCryptoAlgo) (start : SalSrtpCryptoAlgo) (useLocalKey : Bool) :
    matchCryptoAlgo own other start useLocalKey =
      ((firstShared own other).bind fun line => (lineFor own line.algo).map fun mine =>
        (true, sharedLine mine line useLocalKey)).getD (false, start) := by
  induction other with
  | nil => rfl
  | cons line rest ih =>
    simp only [matchCryptoAlgo, firstShared, proposed, List.takeWhile_cons, bne]
    by_cases terminator : line.algo = 0
    · simp [terminator]
    · have proceeds : (line.algo == 0) = false := by simpa using terminator
      simp only [proceeds, Bool.false_eq_true, if_false, Bool.not_false, if_true, List.find?_cons]
      cases found : lineFor own line.algo with
      | none =>
        simp only [lineFor] at found
        simp only [found, Option.isSome_none]
        exact ih
      | some mine =>
        have looked : own.find? (fun lc => line.algo == lc.algo) = some mine := found
        cases useLocalKey <;> simp [looked, found, sharedLine]

theorem matchCryptoAlgo_true {own other : List SalSrtpCryptoAlgo} {start chosen : SalSrtpCryptoAlgo}
    {useLocalKey : Bool} (succeeded : matchCryptoAlgo own other start useLocalKey = (true, chosen)) :
    ∃ line mine, firstShared own other = some line ∧ lineFor own line.algo = some mine ∧
      chosen = sharedLine mine line useLocalKey := by
  rw [matchCryptoAlgo_eq] at succeeded
  cases shared : firstShared own other with
  | none => simp [shared] at succeeded
  | some line =>
    cases found : lineFor own line.algo with
    | none => simp [shared, found] at succeeded
    | some mine =>
      simp only [shared, found, Option.bind_some, Option.map_some, Option.getD_some, Prod.mk.injEq, true_and] at succeeded
      exact ⟨line, mine, rfl, found, succeeded.symm⟩

/-- Reading an answer of one line looks its suite up in the offer. -/
theorem matchCryptoAlgo_answer {own : List SalSrtpCryptoAlgo} {answer mine : SalSrtpCryptoAlgo}
    (start : SalSrtpCryptoAlgo) (useLocalKey : Bool) (valid : answer.algo ≠ 0)
    (found : lineFor own answer.algo = some mine) :
    matchCryptoAlgo own [answer] start useLocalKey = (true, sharedLine mine answer useLocalKey) := by
  simp [matchCryptoAlgo_eq, firstShared, proposed, valid, found]

/-- The first shared line is also the first one that the offer has for its
suite, before or after the terminator. -/
theorem lineFor_firstShared {own offered : List SalSrtpCryptoAlgo} {line : SalSrtpCryptoAlgo}
    (shared : firstShared own offered = some line) : line.algo ≠ 0 ∧ lineFor offered line.algo = some line := by
  simp only [firstShared] at shared
  have valid : line.algo ≠ 0 := by
    have member := List.mem_of_find?_eq_some shared
    simpa using List.all_eq_true.mp List.all_takeWhile line member
  refine ⟨valid, ?_⟩
  obtain ⟨has, before, after, split, earlier⟩ := List.find?_eq_some_iff_append.mp shared
  have whole : offered = before ++ line :: (after ++ offered.dropWhile (·.algo != 0)) := by
    rw [← List.cons_append, ← List.append_assoc, ← split]
    exact List.takeWhile_append_dropWhile.symm
  rw [lineFor, List.find?_eq_some_iff_append]
  refine ⟨by simp, before, _, whole, ?_⟩
  intro other member
  rw [Bool.not_eq_true', beq_eq_false_iff_ne]
  intro same
  have lacks := earlier other member
  simp [← same, has] at lacks

theorem firstShared_none {own offered : List SalSrtpCryptoAlgo}
    (disjoint : ∀ line ∈ proposed offered, ∀ mine ∈ own, line.algo ≠ mine.algo) : firstShared own offered = none := by
  simp only [firstShared, List.find?_eq_none, Bool.not_eq_true, Option.isSome_eq_false_iff, Option.isNone_iff_eq_none,
    lineFor]
  intro line member mine has
  simpa using disjoint line member mine has

/-- Both parties settle on one line. An answerer that succeeds sends the first
suite of the offer that it has, under the offered tag and with its own key, and
the offerer reads the same suite, tag and key from it. Without a shared suite
before the terminator neither call succeeds. -/
theorem crypto_agreement (own offered : List SalSrtpCryptoAlgo) :
    (∀ start answer, matchCryptoAlgo own offered start true = (true, answer) →
      (∀ other, ∃ read, matchCryptoAlgo offered [answer] other false = (true, read) ∧
        read.algo = answer.algo ∧ read.tag = answer.tag ∧ read.masterKey = answer.masterKey) ∧
      ∃ line mine, firstShared own offered = some line ∧ lineFor own line.algo = some mine ∧
        answer.algo = line.algo ∧ answer.masterKey = mine.masterKey) ∧
    ((∀ line ∈ proposed offered, ∀ mine ∈ own, line.algo ≠ mine.algo) →
      ∃ answer, matchCryptoAlgo own offered {} true = (false, answer) ∧
        (matchCryptoAlgo offered [answer] {} false).1 = false) := by
  refine ⟨?_, ?_⟩
  · intro start answer succeeded
    obtain ⟨line, mine, shared, found, rfl⟩ := matchCryptoAlgo_true succeeded
    obtain ⟨valid, first⟩ := lineFor_firstShared shared
    refine ⟨?_, line, mine, shared, found, rfl, rfl⟩
    intro other
    exact ⟨_, matchCryptoAlgo_answer other false valid first, rfl, rfl, rfl⟩
  · intro disjoint
    refine ⟨{}, ?_, rfl⟩
    rw [matchCryptoAlgo_eq, firstShared_none disjoint]
    rfl

/-- An offer with one suite under two tags, and a terminator before a third line. -/
theorem crypto_agreement_repeated_suite :
    let own : List SalSrtpCryptoAlgo := [⟨1, 4, "mine"⟩, ⟨2, 2, "other"⟩]
    let offered : List SalSrtpCryptoAlgo := [⟨1, 9, "a"⟩, ⟨2, 2, "b"⟩, ⟨3, 2, "c"⟩, ⟨4, 0, ""⟩, ⟨5, 4, "d"⟩]
    matchCryptoAlgo own offered {} true = (true, ⟨2, 2, "other"⟩) ∧
      ∃ read, matchCryptoAlgo offered [⟨2, 2, "other"⟩] {} false = (true, read) ∧
        read.algo = 2 ∧ read.tag = 2 ∧ read.masterKey = "other" := by
  intro own offered
  exact ⟨rfl, ((crypto_agreement own offered).1 {} _ rfl).1 {}⟩

end Liblinphone
