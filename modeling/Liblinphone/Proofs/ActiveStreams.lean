import Liblinphone.MediaDescription
import Mathlib.Algebra.Order.Ring.Int
import Mathlib.Data.Nat.Find

/-! The lookup of active streams by their type. The counter of the lookup goes down at
every enabled stream, so it counts the streams of other types too. -/

namespace Liblinphone.SalMediaDescription

variable {type : SalStreamType} {idx : UInt32} {streams rest : List SalStreamDescription} {stream : SalStreamDescription}
  {place : Nat}

/-- The stream at a place is enabled and of the type. -/
def ActiveAt (type : SalStreamType) (streams : List SalStreamDescription) (place : Nat) : Prop :=
  ∃ stream, streams[place]? = some stream ∧ stream.enabled = true ∧ stream.type = type

/-- The enabled streams before a place. -/
def enabledBefore (streams : List SalStreamDescription) (place : Nat) : Nat :=
  (streams.take place).countP SalStreamDescription.enabled

/-- The enabled streams of the type before a place. -/
def activeBefore (type : SalStreamType) (streams : List SalStreamDescription) (place : Nat) : Nat :=
  (streams.take place).countP fun stream => stream.enabled && stream.type == type

/-- The counter reaches zero at an active stream. -/
def Hit (type : SalStreamType) (idx : UInt32) (streams : List SalStreamDescription) (place : Nat) : Prop :=
  ActiveAt type streams place ∧ UInt32.ofNat (enabledBefore streams place) = idx

theorem hit_zero : Hit type idx (stream :: rest) 0 ↔ stream.enabled = true ∧ stream.type = type ∧ idx = 0 := by
  constructor
  · rintro ⟨⟨other, held, enabled, same⟩, rfl⟩
    obtain rfl := Option.some.inj held
    exact ⟨enabled, same, rfl⟩
  · rintro ⟨enabled, same, rfl⟩
    exact ⟨⟨stream, rfl, enabled, same⟩, rfl⟩

theorem ofNat_succ_eq (count : Nat) : UInt32.ofNat (count + 1) = idx ↔ UInt32.ofNat count = idx - 1 := by
  rw [UInt32.ofNat_add]
  constructor
  · rintro rfl
    simp
  · intro same
    rw [same]
    simp

theorem hit_succ : Hit type idx (stream :: rest) (place + 1) ↔
    Hit type (if stream.enabled then idx - 1 else idx) rest place := by
  unfold Hit ActiveAt enabledBefore
  rw [List.take_succ_cons, List.countP_cons, List.getElem?_cons_succ]
  split
  next => rw [ofNat_succ_eq]
  next => rfl

theorem findActiveStream_cons :
    findActiveStream type idx (stream :: rest) =
      if stream.enabled = true ∧ stream.type = type ∧ idx = 0 then some 0
      else (findActiveStream type (if stream.enabled then idx - 1 else idx) rest).map (· + 1) := by
  rw [findActiveStream]
  by_cases enabled : stream.enabled = true
  · simp [enabled, and_comm]
  · simp [enabled]

/-- The lookup stops at the first place where the counter reaches zero. -/
theorem findActiveStream_some : findActiveStream type idx streams = some place ↔
    Hit type idx streams place ∧ ∀ earlier < place, ¬Hit type idx streams earlier := by
  induction streams generalizing idx place with
  | nil => simp [findActiveStream, Hit, ActiveAt]
  | cons stream rest ih =>
    rw [findActiveStream_cons]
    split
    next here =>
      constructor
      · intro found
        obtain rfl := Option.some.inj found
        exact ⟨hit_zero.mpr here, by simp⟩
      · rintro ⟨-, none⟩
        cases place with
        | zero => rfl
        | succ place => exact absurd (hit_zero.mpr here) (none 0 (Nat.succ_pos place))
    next passed =>
      have missed : ¬Hit type idx (stream :: rest) 0 := fun hit => passed (hit_zero.mp hit)
      cases place with
      | zero =>
        constructor
        · intro found
          simp at found
        · rintro ⟨here, -⟩
          exact absurd here missed
      | succ place =>
        rw [Option.map_eq_some_iff, hit_succ]
        constructor
        · rintro ⟨found, later, same⟩
          obtain rfl : found = place := by omega
          obtain ⟨hit, none⟩ := ih.mp later
          refine ⟨hit, ?_⟩
          intro earlier below
          cases earlier with
          | zero => exact missed
          | succ earlier =>
            rw [hit_succ]
            exact none earlier (by omega)
        · rintro ⟨hit, none⟩
          refine ⟨place, ih.mpr ⟨hit, ?_⟩, rfl⟩
          intro earlier below
          rw [← hit_succ]
          exact none (earlier + 1) (by omega)

theorem findActiveStream_none : findActiveStream type idx streams = none ↔ ∀ place, ¬Hit type idx streams place := by
  constructor
  · intro none place hit
    classical
    have first := Nat.find_spec ⟨place, hit⟩
    have found := findActiveStream_some.mpr ⟨first, fun earlier below => Nat.find_min ⟨place, hit⟩ below⟩
    rw [none] at found
    cases found
  · intro none
    cases found : findActiveStream type idx streams with
    | none => rfl
    | some place => exact absurd (findActiveStream_some.mp found).1 (none place)

theorem nbActiveStreamsOfType_eq (desc : SalMediaDescription) (type : SalStreamType) :
    desc.nbActiveStreamsOfType type =
      UInt32.ofNat (desc.streams.countP fun stream => stream.enabled && stream.type == type) := by
  have general : ∀ (streams : List SalStreamDescription) (start : UInt32),
      streams.foldl (fun nb stream => if stream.enabled && stream.type == type then nb + 1 else nb) start =
        start + UInt32.ofNat (streams.countP fun stream => stream.enabled && stream.type == type) := by
    intro streams
    induction streams with
    | nil => simp
    | cons stream rest ih =>
      intro start
      rw [List.foldl_cons, ih, List.countP_cons]
      split
      next => rw [UInt32.ofNat_add, UInt32.add_comm (UInt32.ofNat _), ← UInt32.add_assoc]; rfl
      next => rfl
  rw [nbActiveStreamsOfType, general, UInt32.zero_add]

theorem exists_active {count : Nat} (below : count < streams.countP fun stream => stream.enabled && stream.type == type) :
    ∃ place, ActiveAt type streams place ∧ activeBefore type streams place = count := by
  induction streams generalizing count with
  | nil => simp at below
  | cons stream rest ih =>
    have onward : ∀ place, ActiveAt type rest place → ActiveAt type (stream :: rest) (place + 1) := fun _ active => active
    have counted : ∀ place, activeBefore type (stream :: rest) (place + 1) =
        activeBefore type rest place + if (stream.enabled && stream.type == type) = true then 1 else 0 := by
      intro place
      rw [activeBefore, List.take_succ_cons, List.countP_cons]
      rfl
    rw [List.countP_cons] at below
    by_cases active : (stream.enabled && stream.type == type) = true
    · rw [if_pos active] at below
      cases count with
      | zero =>
        rw [Bool.and_eq_true, beq_iff_eq] at active
        exact ⟨0, ⟨stream, rfl, active⟩, rfl⟩
      | succ count =>
        obtain ⟨place, found, same⟩ := ih (Nat.lt_of_succ_lt_succ below)
        exact ⟨place + 1, onward place found, by rw [counted, same, if_pos active]⟩
    · rw [if_neg active] at below
      obtain ⟨place, found, same⟩ := ih below
      exact ⟨place + 1, onward place found, by rw [counted, same, if_neg active, Nat.add_zero]⟩

theorem activeBefore_lt {earlier : Nat} (active : ActiveAt type streams earlier) (below : earlier < place) :
    activeBefore type streams earlier < activeBefore type streams place := by
  obtain ⟨stream, held, enabled, same⟩ := active
  have next : activeBefore type streams (earlier + 1) = activeBefore type streams earlier + 1 := by
    rw [activeBefore, List.take_add_one, held, List.countP_append]
    simp [activeBefore, enabled, same]
  have sub : (streams.take (earlier + 1)).Sublist (streams.take place) := List.take_sublist_take_left below
  have grows : activeBefore type streams (earlier + 1) ≤ activeBefore type streams place := sub.countP_le
  omega

theorem activeBefore_lt_count (active : ActiveAt type streams place) :
    activeBefore type streams place < streams.countP fun stream => stream.enabled && stream.type == type := by
  have inside : place < streams.length := by
    obtain ⟨stream, held, -⟩ := active
    exact (List.getElem?_eq_some_iff.mp held).1
  have whole : activeBefore type streams streams.length =
      streams.countP fun stream => stream.enabled && stream.type == type := by
    rw [activeBefore, List.take_length]
  rw [← whole]
  exact activeBefore_lt active inside

/-- The lookup gives the stream of the type that has as many of its type before it as
asked for, and the empty description when there are not as many. -/
def Agrees (desc : SalMediaDescription) (type : SalStreamType) (idx : UInt32) : Prop :=
  if idx < desc.nbActiveStreamsOfType type then
    ∃ place stream, findActiveStream type idx desc.streams = some place ∧ desc.streams[place]? = some stream ∧
      stream.enabled = true ∧ stream.type = type ∧ activeBefore type desc.streams place = idx.toNat ∧
      desc.getActiveStreamOfType type idx = stream
  else findActiveStream type idx desc.streams = none ∧ desc.getActiveStreamOfType type idx = {}

/-- As many enabled streams stand before an active stream as there are active ones,
that is, streams of other types come later. Places are counted modulo 2 ^ 32, as is the
number of active streams. -/
def StandFirst (desc : SalMediaDescription) (type : SalStreamType) : Prop :=
  ∀ place, ActiveAt type desc.streams place →
    (activeBefore type desc.streams place < (desc.nbActiveStreamsOfType type).toNat →
      enabledBefore desc.streams place % 2 ^ 32 = activeBefore type desc.streams place) ∧
    ((desc.nbActiveStreamsOfType type).toNat ≤ activeBefore type desc.streams place →
      enabledBefore desc.streams place % 2 ^ 32 < (desc.nbActiveStreamsOfType type).toNat)

section Lookup

variable {desc : SalMediaDescription}

theorem ofNat_eq_iff {count : Nat} : UInt32.ofNat count = idx ↔ count % 2 ^ 32 = idx.toNat := by
  rw [← UInt32.toNat_inj, UInt32.toNat_ofNat']

theorem getActiveStreamOfType_none (none : findActiveStream type idx desc.streams = none) :
    desc.getActiveStreamOfType type idx = {} := by
  rw [getActiveStreamOfType, none]
  rfl

theorem agrees_of_lt (below : idx < desc.nbActiveStreamsOfType type) :
    Agrees desc type idx ↔ ∃ place, findActiveStream type idx desc.streams = some place ∧
      ActiveAt type desc.streams place ∧ activeBefore type desc.streams place = idx.toNat := by
  unfold Agrees
  rw [if_pos below]
  constructor
  · rintro ⟨place, stream, found, held, enabled, same, count, -⟩
    exact ⟨place, found, ⟨stream, held, enabled, same⟩, count⟩
  · rintro ⟨place, found, ⟨stream, held, enabled, same⟩, count⟩
    refine ⟨place, stream, found, held, enabled, same, count, ?_⟩
    rw [getActiveStreamOfType, found, Option.bind_some, held, Option.getD_some]

theorem agrees_of_not_lt (above : ¬idx < desc.nbActiveStreamsOfType type) :
    Agrees desc type idx ↔ ∀ place, ¬Hit type idx desc.streams place := by
  unfold Agrees
  rw [if_neg above, ← findActiveStream_none]
  exact ⟨fun both => both.1, fun none => ⟨none, getActiveStreamOfType_none none⟩⟩

theorem standFirst_of_agrees (agrees : ∀ idx, Agrees desc type idx) : StandFirst desc type := by
  intro place active
  constructor
  · intro below
    have bounded : activeBefore type desc.streams place < 2 ^ 32 := by
      have limit := (desc.nbActiveStreamsOfType type).toNat_lt
      omega
    have index : (UInt32.ofNat (activeBefore type desc.streams place)).toNat = activeBefore type desc.streams place := by
      rw [UInt32.toNat_ofNat', Nat.mod_eq_of_lt bounded]
    obtain ⟨other, found, otherActive, count⟩ := (agrees_of_lt (UInt32.lt_iff_toNat_lt.mpr (by rw [index]; exact below))).mp
      (agrees (UInt32.ofNat (activeBefore type desc.streams place)))
    rw [index] at count
    have same : other = place := by
      rcases Nat.lt_trichotomy other place with before | same | after
      · have less := activeBefore_lt otherActive before
        omega
      · exact same
      · have less := activeBefore_lt active after
        omega
    subst same
    have hit := (findActiveStream_some.mp found).1.2
    rw [ofNat_eq_iff, index] at hit
    exact hit
  · intro _
    by_contra high
    have index : (UInt32.ofNat (enabledBefore desc.streams place)).toNat = enabledBefore desc.streams place % 2 ^ 32 :=
      UInt32.toNat_ofNat'
    have above : ¬UInt32.ofNat (enabledBefore desc.streams place) < desc.nbActiveStreamsOfType type := by
      rw [UInt32.lt_iff_toNat_lt, index]
      exact high
    exact (agrees_of_not_lt above).mp (agrees _) place ⟨active, rfl⟩

theorem agrees_of_standFirst (first : StandFirst desc type) (idx : UInt32) : Agrees desc type idx := by
  by_cases below : idx < desc.nbActiveStreamsOfType type
  · rw [agrees_of_lt below]
    have less := UInt32.lt_iff_toNat_lt.mp below
    have counted := congrArg UInt32.toNat (nbActiveStreamsOfType_eq desc type)
    rw [UInt32.toNat_ofNat'] at counted
    have whole := Nat.mod_le (desc.streams.countP fun stream => stream.enabled && stream.type == type) (2 ^ 32)
    obtain ⟨place, active, count⟩ := @exists_active type desc.streams idx.toNat (by omega)
    have here := (first place active).1 (by omega)
    refine ⟨place, findActiveStream_some.mpr ⟨⟨active, ?_⟩, ?_⟩, active, count⟩
    · rw [ofNat_eq_iff, here, count]
    · rintro earlier before ⟨earlierActive, reached⟩
      have smaller := activeBefore_lt earlierActive before
      have there := (first earlier earlierActive).1 (by omega)
      rw [ofNat_eq_iff, there] at reached
      omega
  · rw [agrees_of_not_lt below]
    rintro place ⟨active, reached⟩
    rw [UInt32.lt_iff_toNat_lt] at below
    rw [ofNat_eq_iff] at reached
    have stands := first place active
    omega

end Lookup

/-- A lookup agrees with the number of active streams, for all indexes, exactly when
the streams of the type come before the other enabled ones. -/
theorem active_lookup_iff (desc : SalMediaDescription) (type : SalStreamType) :
    (∀ idx, Agrees desc type idx) ↔ StandFirst desc type :=
  ⟨standFirst_of_agrees, agrees_of_standFirst⟩

/-- With less than 2 ^ 32 streams, no enabled stream of another type stands before an
active one. -/
theorem standFirst_of_few {desc : SalMediaDescription} {type : SalStreamType} (few : desc.streams.length < 2 ^ 32) :
    StandFirst desc type ↔ ∀ place, ActiveAt type desc.streams place →
      enabledBefore desc.streams place = activeBefore type desc.streams place := by
  have counted := congrArg UInt32.toNat (nbActiveStreamsOfType_eq desc type)
  rw [UInt32.toNat_ofNat'] at counted
  have all : (desc.streams.countP fun stream => stream.enabled && stream.type == type) ≤ desc.streams.length :=
    List.countP_le_length
  have bounded : ∀ place, enabledBefore desc.streams place < 2 ^ 32 := by
    intro place
    have less : enabledBefore desc.streams place ≤ (desc.streams.take place).length := List.countP_le_length
    have shorter := List.length_take_le' place desc.streams
    omega
  constructor
  · intro first place active
    have inside := activeBefore_lt_count active
    have same := (first place active).1 (by omega)
    rw [Nat.mod_eq_of_lt (bounded place)] at same
    exact same
  · intro same place active
    have inside := activeBefore_lt_count active
    have here := same place active
    have small := bounded place
    refine ⟨fun _ => ?_, fun _ => ?_⟩
    · omega
    · omega

/-- The camera is not found behind the microphone. -/
theorem video_after_audio_missed :
    let desc : SalMediaDescription :=
      { streams := [{ type := .audio, rtpPort := 7078 }, { type := .video, rtpPort := 9078 }] }
    desc.nbActiveStreamsOfType .video = 1 ∧ desc.getActiveStreamOfType .video 0 = {} ∧ ¬Agrees desc .video 0 := by
  intro desc
  have counted : desc.nbActiveStreamsOfType .video = 1 := by decide
  have missed : findActiveStream .video 0 desc.streams = none := by decide
  refine ⟨counted, getActiveStreamOfType_none missed, ?_⟩
  rw [agrees_of_lt (by rw [counted]; decide)]
  rintro ⟨place, found, -⟩
  rw [missed] at found
  cases found

end Liblinphone.SalMediaDescription
