import Liblinphone.Library.Scan
import Liblinphone.Proofs.ConfigAccessors
import Liblinphone.Version

/-! Versions and their text. A version without a patch number is not printed in the form of a
semantic version, so that its pre-release and its build are not read back. -/

namespace Liblinphone.Utils

open Library

section Suffixes

variable {mark : Char} {body : Text}

theorem within_of_not_mem (missing : mark ∉ body) : ∀ char ∈ body, (char != mark) = true :=
  fun _ member => bne_iff_ne.mpr fun same => missing (same ▸ member)

theorem takeWhile_suffix (missing : mark ∉ body) (rest : Text) :
    (body ++ Version.suffix mark rest).takeWhile (· != mark) = body := by
  cases rest with
  | nil => exact (congrArg _ (List.append_nil body)).trans (takeWhile_whole (within_of_not_mem missing))
  | cons first rest => exact takeWhile_stop (within_of_not_mem missing) (bne_self_eq_false mark)

theorem drop_suffix (missing : mark ∉ body) (rest : Text) :
    ((body ++ Version.suffix mark rest).dropWhile (· != mark)).drop 1 = rest := by
  cases rest with
  | nil =>
    have none := List.dropWhile_eq_nil_iff.mpr (within_of_not_mem missing)
    rw [show body ++ Version.suffix mark [] = body from List.append_nil body, none, List.drop_nil]
  | cons first rest =>
    exact congrArg (List.drop 1) (dropWhile_stop (within_of_not_mem missing) (bne_self_eq_false mark))

theorem not_mem_suffix {char : Char} (other : char ≠ mark) {rest : Text} (missing : char ∉ rest) :
    char ∉ Version.suffix mark rest := by
  unfold Version.suffix
  split
  · exact List.not_mem_nil
  · rw [List.mem_cons, not_or]
    exact ⟨other, missing⟩

theorem takeWhile_dot (missing : mark ∉ body) (rest : Text) : (body ++ mark :: rest).takeWhile (· != mark) = body :=
  takeWhile_stop (within_of_not_mem missing) (bne_self_eq_false mark)

theorem drop_dot (missing : mark ∉ body) (rest : Text) : ((body ++ mark :: rest).dropWhile (· != mark)).drop 1 = rest :=
  congrArg (List.drop 1) (dropWhile_stop (within_of_not_mem missing) (bne_self_eq_false mark))

end Suffixes

namespace Semver

open Expression

namespace Groups

def core (groups : Groups) : Text := groups.major ++ '.' :: (groups.minor ++ '.' :: groups.patch)

def text (groups : Groups) : Text :=
  groups.core ++ Version.suffix '-' groups.preRelease ++ Version.suffix '+' groups.buildMetaData

/-- Each group is matched by its part of the expression. -/
structure Conforms (groups : Groups) : Prop where
  major : groups.major ∈ number.matches'
  minor : groups.minor ∈ number.matches'
  patch : groups.patch ∈ number.matches'
  preRelease : groups.preRelease = [] ∨ groups.preRelease ∈ Semver.preRelease.matches'
  buildMetaData : groups.buildMetaData = [] ∨ groups.buildMetaData ∈ Semver.buildMetaData.matches'

end Groups

variable {found : Groups}

theorem not_mem_core (conforms : found.Conforms) {char : Char} (undotted : char ≠ '.') (other : char ∉ Expression.letters number) :
    char ∉ found.core := by
  unfold Groups.core
  simp only [List.mem_append, List.mem_cons, not_or]
  exact ⟨not_mem_of_letters conforms.major other, undotted, not_mem_of_letters conforms.minor other, undotted,
    not_mem_of_letters conforms.patch other⟩

theorem front_unmarked (conforms : found.Conforms) : '+' ∉ found.core ++ Version.suffix '-' found.preRelease := by
  rw [List.mem_append, not_or]
  exact ⟨not_mem_core conforms (by decide) (by decide), not_mem_suffix (by decide) (not_mem_of_option conforms.preRelease (by decide))⟩

theorem core_text (conforms : found.Conforms) :
    (found.text.takeWhile (· != '+')).takeWhile (· != '-') = found.core := by
  have unmarked := front_unmarked conforms
  rw [Groups.text, takeWhile_suffix unmarked, takeWhile_suffix (not_mem_core conforms (by decide) (by decide))]

/-- The groups are found where they are printed. -/
theorem groups_text (conforms : found.Conforms) : groups found.text = found := by
  have unmarked := front_unmarked conforms
  have dashless : '-' ∉ found.core := not_mem_core conforms (by decide) (by decide)
  have major : '.' ∉ found.major := not_mem_of_letters conforms.major (by decide)
  have minor : '.' ∉ found.minor := not_mem_of_letters conforms.minor (by decide)
  simp only [groups, Groups.text, takeWhile_suffix unmarked, drop_suffix unmarked, takeWhile_suffix dashless,
    drop_suffix dashless]
  simp only [Groups.core, takeWhile_dot major, drop_dot major, takeWhile_dot minor, drop_dot minor]

theorem suffix_of_mem {mark : Char} {item : RegularExpression Char} {rest : Text} (filled : item.matchEpsilon = false)
    (matching : rest ∈ item.matches') : Version.suffix mark rest = mark :: rest := by
  cases rest with
  | nil =>
    have empty : item.matchEpsilon = true := (RegularExpression.rmatch_iff_matches' item []).mpr matching
    rw [filled] at empty
    cases empty
  | cons first rest => rfl

/-- What the optional part of a suffix matches. -/
theorem mem_optional_suffix {mark : Char} {item : RegularExpression Char} (filled : item.matchEpsilon = false) {text : Text} :
    text ∈ (optional mark item).matches' ↔ ∃ rest, (rest = [] ∨ rest ∈ item.matches') ∧ text = Version.suffix mark rest := by
  rw [mem_optional]
  constructor
  · rintro (rfl | ⟨rest, matching, rfl⟩)
    · exact ⟨[], .inl rfl, rfl⟩
    · exact ⟨rest, .inr matching, (suffix_of_mem filled matching).symm⟩
  · rintro ⟨rest, rfl | matching, rfl⟩
    · exact .inl rfl
    · exact .inr ⟨rest, matching, suffix_of_mem filled matching⟩

/-- The expression matches the texts whose groups conform. -/
theorem mem_expression {text : Text} : text ∈ expression.matches' ↔ ∃ found : Groups, found.Conforms ∧ text = found.text := by
  constructor
  · intro matching
    obtain ⟨major, first, _, others, rfl⟩ := mem_followed.mp matching
    obtain ⟨minor, second, _, last, rfl⟩ := mem_followed.mp others
    obtain ⟨patch, third, _, suffixes, rfl⟩ := Language.mem_mul.mp last
    obtain ⟨_, release, _, build, rfl⟩ := Language.mem_mul.mp suffixes
    obtain ⟨preRelease, released, rfl⟩ := (mem_optional_suffix rfl).mp release
    obtain ⟨buildMetaData, built, rfl⟩ := (mem_optional_suffix rfl).mp build
    refine ⟨{ major, minor, patch, preRelease, buildMetaData }, ⟨first, second, third, released, built⟩, ?_⟩
    simp [Groups.text, Groups.core]
  · rintro ⟨found, conforms, rfl⟩
    have release := (@mem_optional_suffix '-' preRelease rfl _).mpr ⟨found.preRelease, conforms.preRelease, rfl⟩
    have build := (@mem_optional_suffix '+' buildMetaData rfl _).mpr ⟨found.buildMetaData, conforms.buildMetaData, rfl⟩
    have ends : found.patch ++ (Version.suffix '-' found.preRelease ++ Version.suffix '+' found.buildMetaData) ∈
        (number * (optional '-' preRelease * optional '+' buildMetaData)).matches' :=
      Language.mem_mul.mpr ⟨_, conforms.patch, _, Language.mem_mul.mpr ⟨_, release, _, build, rfl⟩, rfl⟩
    have same : found.text = found.major ++ '.' :: (found.minor ++ '.' :: (found.patch ++
        (Version.suffix '-' found.preRelease ++ Version.suffix '+' found.buildMetaData))) := by
      simp [Groups.text, Groups.core]
    rw [same]
    exact mem_followed.mpr ⟨found.major, conforms.major, _, mem_followed.mpr ⟨found.minor, conforms.minor, _, ends, rfl⟩, rfl⟩

/-- The search finds the groups of the texts that the expression matches, and of no others. -/
theorem search_eq_some_iff {text : Text} : search text = some found ↔ found.Conforms ∧ text = found.text := by
  unfold search
  constructor
  · intro searched
    split at searched
    next matching =>
      obtain ⟨inside, conforms, rfl⟩ := mem_expression.mp ((RegularExpression.rmatch_iff_matches' _ _).mp matching)
      rw [groups_text conforms] at searched
      cases searched
      exact ⟨conforms, rfl⟩
    next => cases searched
  · rintro ⟨conforms, rfl⟩
    have matching := (RegularExpression.rmatch_iff_matches' expression found.text).mpr (mem_expression.mpr ⟨found, conforms, rfl⟩)
    rw [if_pos matching, groups_text conforms]

theorem mem_digits {char : Char} (digit : char.isDigit = true) : char ∈ digits := by
  have each : ∀ value < 58, 48 ≤ value → Char.ofNat value ∈ digits := by decide
  have bounds : 48 ≤ char.toNat ∧ char.toNat ≤ 57 := Char.isDigit_iff_toNat.mp digit
  rw [← Char.ofNat_toNat char]
  exact each char.toNat (by omega) (by omega)

theorem numberText_mem (value : Nat) : numberText value ∈ number.matches' := by
  obtain ⟨filled, digit⟩ := numberText_digits value
  cases value with
  | zero => exact .inl rfl
  | succ value =>
    have leading := @head?_numberText (value + 1) (by omega)
    cases printed : numberText (value + 1) with
    | nil => exact absurd printed filled
    | cons first rest =>
      rw [printed] at leading digit
      have nonzero : first ∈ "123456789".toList := by
        rcases List.mem_cons.mp (mem_digits (digit first (by simp))) with zero | positive
        · exact absurd (congrArg some zero) leading
        · exact positive
      have others : rest ∈ (oneOf digits).star.matches' :=
        mem_star_oneOf fun char member => mem_digits (digit char (List.mem_cons_of_mem _ member))
      exact .inr (Language.mem_mul.mpr ⟨[first], mem_oneOf.mpr ⟨first, nonzero, rfl⟩, rest, others, rfl⟩)

end Semver

namespace Version

/-- An `int` that is not negative. -/
abbrev Natural (value : Int) : Prop := 0 ≤ value ∧ value < 2 ^ 31

/-- The texts are empty, or they are matched by their part of the expression. -/
structure Conforms (version : Version) : Prop where
  major : Natural version.major
  minor : Natural version.minor
  patch : Natural version.patch
  preRelease : version.preRelease = [] ∨ version.preRelease ∈ Semver.preRelease.matches'
  buildMetaData : version.buildMetaData = [] ∨ version.buildMetaData ∈ Semver.buildMetaData.matches'

section Order

/-- The sign of a difference as an order. -/
def ordering (tmp : Int) : Ordering := Ord.compare tmp 0

/-- Number by number, a version after its pre-releases, and then text by text. -/
def order : Version → Version → Ordering :=
  compareLex (compareOn major) <| compareLex (compareOn minor) <| compareLex (compareOn patch) <|
    compareLex (compareOn fun version => version.preRelease.isEmpty) <|
      compareLex (compareOn preRelease) (compareOn buildMetaData)

instance : Std.TransCmp order := inferInstanceAs (Std.TransCmp (compareLex _ _))

theorem order_eq_iff {first second : Version} : order first second = .eq ↔ first = second := by
  simp only [order, compareLex_eq_eq, compareOn, Std.LawfulEqOrd.compare_eq_iff_eq]
  constructor
  · rintro ⟨major, minor, patch, -, preRelease, buildMetaData⟩
    cases first
    cases second
    simp_all
  · rintro rfl
    simp

theorem ordering_next (tmp next : Int) : ordering (if tmp = 0 then next else tmp) = (ordering tmp).then (ordering next) := by
  split
  next zero => rw [zero]; rfl
  next other =>
    have decided : ordering tmp ≠ .eq := fun same => other (Std.LawfulEqOrd.eq_of_compare same)
    cases answer : ordering tmp with
    | lt => rfl
    | gt => rfl
    | eq => exact absurd answer decided

theorem ordering_difference {first second : Int} (left : Natural first) (right : Natural second) :
    ordering (toInt (first - second)) = Ord.compare first second := by
  have least := left.1
  have most := right.1
  have high := left.2
  have low := right.2
  have less : first - second < 0 ↔ first < second := by omega
  have more : 0 < first - second ↔ second < first := by omega
  rw [toInt_of_small (by omega) (by omega), ordering, Int.compare_eq_ite_lt, Int.compare_eq_ite_lt]
  simp only [less, more]

theorem ordering_compareText (first second : Text) : ordering (compareText first second) = Ord.compare first second := by
  unfold compareText
  cases Ord.compare first second <;> rfl

/-- Both rules for pre-releases as one comparison. -/
def released (first second : Bool) : Int := if first ∧ ¬second then 1 else if ¬first ∧ second then -1 else 0

theorem preRelease_rules (tmp : Int) (first second : Bool) :
    (if (if tmp = 0 ∧ first = true ∧ ¬second = true then (1 : Int) else tmp) = 0 ∧ ¬first = true ∧ second = true then -1
      else if tmp = 0 ∧ first = true ∧ ¬second = true then 1 else tmp) = if tmp = 0 then released first second else tmp := by
  unfold released
  by_cases zero : tmp = 0 <;> cases first <;> cases second <;> simp [zero]

theorem ordering_released (first second : Bool) : ordering (released first second) = Ord.compare first second := by
  cases first <;> cases second <;> rfl

/-- The comparison is the order of versions. -/
theorem ordering_compare {first second : Version} (left : first.Conforms) (right : second.Conforms) :
    ordering (first.compare second) = order first second := by
  dsimp only [compare]
  rw [ordering_next, ordering_next, preRelease_rules, ordering_next, ordering_next, ordering_next, ordering_difference left.major right.major,
    ordering_difference left.minor right.minor, ordering_difference left.patch right.patch, ordering_released,
    ordering_compareText, ordering_compareText]
  simp only [Ordering.then_assoc]
  rfl

section Laws

variable {first second third : Version} (left : first.Conforms) (middle : second.Conforms) (right : third.Conforms)

include left middle

theorem sign_compare_swap : (first.compare second).sign = -(second.compare first).sign := by
  have swapped : ordering (second.compare first) = (ordering (first.compare second)).swap := by
    rw [ordering_compare left middle, ordering_compare middle left]
    exact Std.OrientedCmp.eq_swap
  cases answer : ordering (first.compare second) with
  | lt =>
    rw [answer] at swapped
    rw [Int.sign_eq_neg_one_of_neg (Int.compare_eq_lt.mp answer), Int.sign_eq_one_of_pos (Int.compare_eq_gt.mp swapped)]
  | eq =>
    rw [answer] at swapped
    rw [Int.compare_eq_eq.mp answer, Int.compare_eq_eq.mp swapped]
    rfl
  | gt =>
    rw [answer] at swapped
    rw [Int.sign_eq_one_of_pos (Int.compare_eq_gt.mp answer), Int.sign_eq_neg_one_of_neg (Int.compare_eq_lt.mp swapped)]
    rfl

theorem compare_eq_zero_iff : first.compare second = 0 ↔ first = second := by
  rw [← order_eq_iff, ← ordering_compare left middle]
  exact Int.compare_eq_eq.symm

include right

theorem compare_trans (before : first.compare second ≤ 0) (after : second.compare third ≤ 0) : first.compare third ≤ 0 := by
  have least (tmp : Int) : tmp ≤ 0 ↔ (ordering tmp).isLE = true := Int.isLE_compare.symm
  rw [least, ordering_compare] at before after ⊢
  · exact Std.TransCmp.isLE_trans before after
  all_goals assumption

end Laws

end Order

section Printing

variable {version : Version}

theorem integerText_natural {value : Int} (natural : Natural value) : integerText value = numberText value.toNat := by
  obtain ⟨number, rfl⟩ := Int.eq_ofNat_of_zero_le natural.1
  rfl

theorem atoi_integerText {value : Int} (natural : Natural value) {rest : Text} (ends : ∀ char ∈ rest.head?, char.isDigit = false) :
    atoi (integerText value ++ rest) = value := by
  have small := natural.2
  rw [integerText_natural natural, atoi_append ends (by omega), Int.toNat_of_nonneg natural.1]

theorem atoi_whole {value : Int} (natural : Natural value) : atoi (integerText value) = value := by
  have read := @atoi_integerText value natural [] (by simp)
  rwa [List.append_nil] at read

theorem not_mem_integerText {value : Int} (natural : Natural value) {char : Char} (other : char.isDigit = false) :
    char ∉ integerText value := by
  rw [integerText_natural natural]
  exact (numberText_digits value.toNat).not_mem other

theorem integerText_mem {value : Int} (natural : Natural value) : integerText value ∈ Semver.number.matches' := by
  rw [integerText_natural natural]
  exact Semver.numberText_mem value.toNat

/-- With a patch number the text is the one of a semantic version. -/
theorem ofText_toString_patch (conforms : version.Conforms) (patched : version.patch ≠ 0) :
    ofText version.toString = some version := by
  let found : Semver.Groups :=
    { major := integerText version.major, minor := integerText version.minor, patch := integerText version.patch,
      preRelease := version.preRelease, buildMetaData := version.buildMetaData }
  have matching : found.Conforms :=
    ⟨integerText_mem conforms.major, integerText_mem conforms.minor, integerText_mem conforms.patch, conforms.preRelease,
      conforms.buildMetaData⟩
  have printed : version.toString = found.text := by
    rw [toString, if_pos patched]
    simp [Semver.Groups.text, Semver.Groups.core, found]
  rw [ofText, Semver.search_eq_some_iff.mpr ⟨matching, printed⟩]
  dsimp only [found]
  rw [atoi_whole conforms.major, atoi_whole conforms.minor, atoi_whole conforms.patch]

theorem toString_unpatched (unpatched : version.patch = 0) :
    version.toString = integerText version.major ++ '.' :: integerText version.minor ++ suffix '-' version.preRelease ++
      suffix '+' version.buildMetaData := by
  rw [toString, if_neg (not_not_intro unpatched)]
  simp

/-- Without a patch number there is only one dot in front of the suffixes. -/
theorem search_unpatched (conforms : version.Conforms) (unpatched : version.patch = 0) : Semver.search version.toString = none := by
  have missing (char : Char) (other : char.isDigit = false) (undotted : char ≠ '.') :
      char ∉ integerText version.major ++ '.' :: integerText version.minor := by
    simp only [List.mem_append, List.mem_cons, not_or]
    exact ⟨not_mem_integerText conforms.major other, undotted, not_mem_integerText conforms.minor other⟩
  have release : '+' ∉ version.preRelease := Expression.not_mem_of_option conforms.preRelease (by decide)
  have core : (version.toString.takeWhile (· != '+')).takeWhile (· != '-') = integerText version.major ++ '.' :: integerText version.minor := by
    rw [toString_unpatched unpatched, takeWhile_suffix, takeWhile_suffix (missing '-' (by decide) (by decide))]
    rw [List.mem_append, not_or]
    exact ⟨missing '+' (by decide) (by decide), not_mem_suffix (by decide) release⟩
  cases searched : Semver.search version.toString with
  | none => rfl
  | some found =>
    obtain ⟨matching, printed⟩ := Semver.search_eq_some_iff.mp searched
    have same : found.core = integerText version.major ++ '.' :: integerText version.minor := by
      rw [← core, printed, Semver.core_text matching]
    have dots := congrArg (List.count '.') same
    have major := List.count_eq_zero.mpr (@not_mem_integerText version.major conforms.major '.' (by decide))
    have minor := List.count_eq_zero.mpr (@not_mem_integerText version.minor conforms.minor '.' (by decide))
    simp only [Semver.Groups.core, List.count_append, List.count_cons_self, major, minor] at dots
    omega

/-- A version that is printed is read as one that compares equal to it. -/
def RoundTrips (version : Version) : Prop := ∃ again, ofText version.toString = some again ∧ again.compare version = 0

theorem compare_self (version : Version) : version.compare version = 0 := by
  have zero : toInt 0 = 0 := rfl
  have same (text : Text) : compareText text text = 0 := by
    unfold compareText
    rw [Std.ReflOrd.compare_self]
  simp [compare, zero, same]

/-- Versions that compare equal have the same suffixes. -/
theorem suffixes_of_compare {first second : Version} (equal : first.compare second = 0) :
    first.preRelease = second.preRelease ∧ first.buildMetaData = second.buildMetaData := by
  have zero (tmp next : Int) (chained : (if tmp = 0 then next else tmp) = 0) : tmp = 0 ∧ next = 0 := by
    split at chained <;> simp_all
  have same {one other : Text} (equal : compareText one other = 0) : one = other := by
    rw [compareText] at equal
    split at equal
    next => cases equal
    next answer => exact Std.LawfulEqOrd.eq_of_compare answer
    next => cases equal
  dsimp only [compare] at equal
  obtain ⟨front, build⟩ := zero _ _ equal
  exact ⟨same (zero _ _ front).2, same build⟩

theorem roundTrips_iff (conforms : version.Conforms) :
    version.RoundTrips ↔ version.patch ≠ 0 ∨ version.preRelease = [] ∧ version.buildMetaData = [] := by
  by_cases patched : version.patch ≠ 0
  · exact iff_of_true ⟨version, ofText_toString_patch conforms patched, compare_self version⟩ (.inl patched)
  · have unpatched := not_not.mp patched
    have searched := search_unpatched conforms unpatched
    rw [or_iff_right patched]
    constructor
    · rintro ⟨again, read, equal⟩
      rw [ofText, searched] at read
      have plain : again.preRelease = [] ∧ again.buildMetaData = [] := by
        dsimp only at read
        split at read
        · cases read
          exact ⟨rfl, rfl⟩
        · cases read
      have same := suffixes_of_compare equal
      exact ⟨same.1 ▸ plain.1, same.2 ▸ plain.2⟩
    · rintro ⟨release, build⟩
      refine ⟨version, ?_, compare_self version⟩
      have printed : version.toString = integerText version.major ++ '.' :: integerText version.minor := by
        rw [toString_unpatched unpatched, release, build]
        simp [suffix]
      have dotless (value : Int) (natural : Natural value) : '.' ∉ integerText value := not_mem_integerText natural (by decide)
      have whole : version.toString.takeWhile (· != '\x00') = version.toString := by
        refine takeWhile_whole (within_of_not_mem ?_)
        rw [printed, List.mem_append, List.mem_cons, not_or, not_or]
        exact ⟨not_mem_integerText conforms.major (by decide), by decide, not_mem_integerText conforms.minor (by decide)⟩
      rw [ofText, searched]
      dsimp only
      rw [whole, printed, drop_dot (dotless version.major conforms.major), if_pos (by simp),
        if_neg (dotless version.minor conforms.minor), atoi_integerText conforms.major (by simp), atoi_whole conforms.minor]
      cases version
      simp_all

/-- A version keeps its text when it has a patch number, or neither a pre-release nor a build.
The comparison is a total order. -/
theorem round_trip_and_order {first second third : Version} (one : first.Conforms) (two : second.Conforms) (three : third.Conforms) :
    (first.RoundTrips ↔ first.patch ≠ 0 ∨ first.preRelease = [] ∧ first.buildMetaData = []) ∧
      (first.compare second).sign = -(second.compare first).sign ∧
      (first.compare second = 0 ↔ first = second) ∧
      (first.compare second ≤ 0 → second.compare third ≤ 0 → first.compare third ≤ 0) :=
  ⟨roundTrips_iff one, sign_compare_swap one two, compare_eq_zero_iff one two, compare_trans one two three⟩

end Printing

section Beta

def beta : Version := { major := 1, preRelease := "beta".toList }

def build : Version := { major := 1, minor := 2, patch := 3, preRelease := "rc.1".toList, buildMetaData := "7".toList }

theorem beta_conforms : beta.Conforms :=
  ⟨by decide, by decide, by decide, .inr ((RegularExpression.rmatch_iff_matches' _ _).mp (by decide)), .inl rfl⟩

theorem build_conforms : build.Conforms :=
  ⟨by decide, by decide, by decide, .inr ((RegularExpression.rmatch_iff_matches' _ _).mp (by decide)),
    .inr ((RegularExpression.rmatch_iff_matches' _ _).mp (by decide))⟩

theorem beta_before_build : (build.RoundTrips ↔ build.patch ≠ 0 ∨ build.preRelease = [] ∧ build.buildMetaData = []) ∧
    (build.compare beta).sign = -(beta.compare build).sign ∧ (build.compare beta = 0 ↔ build = beta) ∧
    (build.compare beta ≤ 0 → beta.compare build ≤ 0 → build.compare build ≤ 0) :=
  round_trip_and_order build_conforms beta_conforms build_conforms

theorem beta_printed_without_patch : ofText "1.0.0-beta".toList = some beta ∧ beta.Conforms ∧ ¬beta.RoundTrips := by
  refine ⟨by decide, beta_conforms, ?_⟩
  rintro ⟨again, read, equal⟩
  have stripped : ofText beta.toString = some { major := 1 } := by decide
  cases Option.some.inj (stripped.symm.trans read)
  exact absurd equal (by decide)

end Beta


end Version

end Liblinphone.Utils
