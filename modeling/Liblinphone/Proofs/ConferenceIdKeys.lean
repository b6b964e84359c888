import Mathlib.Data.List.Lex
import Mathlib.Data.Set.Insert
import Liblinphone.Library.PairOrder
import Liblinphone.Proofs.ConferenceIdCaches

/-! When identifiers may be the keys of a table. Equality ignores the case of a host, the
hashes and the order do not, and the order does not see the port that equality compares. A
set of addresses gives lawful keys when none of this makes a difference to any of them. -/

namespace Liblinphone

open Library

/-- What the comparison of whole addresses sees before the parameters: the host up to its case. -/
structure BelleSip.ComparesUris (sip : BelleSip) : Prop where
  refl : ∀ address, sip.addressEquals address address = true
  scheme : ∀ address other, sip.addressEquals address other = true → address.scheme = other.scheme
  username : ∀ address other, sip.addressEquals address other = true → address.username = other.username
  host : ∀ address other, sip.addressEquals address other = true →
    lowercase address.domain.toList = lowercase other.domain.toList

section Texts

/-- Hosts that differ in case alone have colons alike. -/
theorem colon_mem_lowercase (text : Text) : ':' ∈ lowercase text ↔ ':' ∈ text := mem_lowercase_iff (by decide) (by decide) text

theorem paramText_lowercase (param : Text × Text) :
    Address.paramText true param = lowercase (Address.paramText false param) := by
  obtain ⟨name, value⟩ := param
  cases value with
  | nil => simp [Address.paramText, lowercase]
  | cons char rest => simp [Address.paramText, lowercase]

theorem orderedParams_lowercase (address : Address) :
    address.orderedParams true = lowercase (address.orderedParams false) := by
  unfold Address.orderedParams
  induction address.getUriParams with
  | nil => rfl
  | cons param rest ih =>
    rw [List.flatMap_cons, List.flatMap_cons, ih, paramText_lowercase]
    exact List.map_append.symm

/-- With all that is the same, the texts are the same when host and parameters are written alike. -/
theorem orderedCase_eq_iff {escapedUsername : Text → Text} {lowercaseParams : Bool} {address other : Address}
    (scheme : address.scheme = other.scheme) (username : address.username = other.username)
    (host : lowercase address.domain.toList = lowercase other.domain.toList) :
    address.toStringUriOnlyOrderedCase escapedUsername lowercaseParams =
        other.toStringUriOnlyOrderedCase escapedUsername lowercaseParams ↔
      address.domain = other.domain ∧ address.orderedParams lowercaseParams = other.orderedParams lowercaseParams := by
  have user : address.userText escapedUsername = other.userText escapedUsername := by
    unfold Address.userText
    rw [username]
  have length : address.domain.toList.length = other.domain.toList.length := by
    simpa [lowercase] using congrArg List.length host
  have colon : ':' ∈ address.domain.toList ↔ ':' ∈ other.domain.toList := by
    rw [← colon_mem_lowercase, host, colon_mem_lowercase]
  unfold Address.toStringUriOnlyOrderedCase
  rw [scheme, user, List.append_cancel_left_eq, List.cons_eq_cons, eq_self, true_and, List.append_cancel_left_eq]
  constructor
  · intro same
    have lengths : address.hostText.length = other.hostText.length := by
      unfold Address.hostText
      split
      next inside => simp [if_pos (colon.mp inside), length]
      next outside => simp [if_neg (colon.not.mp outside), length]
    obtain ⟨texts, params⟩ := List.append_inj same lengths
    refine ⟨String.toList_inj.mp ?_, params⟩
    unfold Address.hostText at texts
    split at texts
    next inside =>
      rw [if_pos (colon.mp inside)] at texts
      exact List.append_cancel_right (List.cons.inj texts).2
    next outside => rwa [if_neg (colon.not.mp outside)] at texts
  · rintro ⟨domain, params⟩
    unfold Address.hostText
    rw [domain, params]

end Texts

namespace ConferenceId

variable {sip : BelleSip} {escapedUsername : Text → Text} {addresses : Set (Option Address)}

/-- Both addresses are among these. -/
def Over (addresses : Set (Option Address)) (id : ConferenceId) : Prop :=
  id.peerAddress ∈ addresses ∧ id.localAddress ∈ addresses

/-- What tables need of their keys, for the identifiers over some addresses and any hash of
texts: equal keys have equal hashes, and the order is strict and weak and agrees with them. -/
structure LawfulKey (sip : BelleSip) (escapedUsername : Text → Text) (addresses : Set (Option Address)) : Prop where
  hash : ∀ hash, ∀ id other : ConferenceId, id.Over addresses → other.Over addresses →
    id.Coherent ⟨escapedUsername, hash⟩ → other.Coherent ⟨escapedUsername, hash⟩ → id.equals sip other = true →
    (id.getHash ⟨escapedUsername, hash⟩).1 = (other.getHash ⟨escapedUsername, hash⟩).1
  weakHash : ∀ hash, ∀ id other : ConferenceId, id.Over addresses → other.Over addresses →
    id.Coherent ⟨escapedUsername, hash⟩ → other.Coherent ⟨escapedUsername, hash⟩ → id.weakEqual sip other = true →
    (id.getWeakHash ⟨escapedUsername, hash⟩).1 = (other.getWeakHash ⟨escapedUsername, hash⟩).1
  defined : ∀ id other : ConferenceId, id.Over addresses → other.Over addresses →
    id.lessThan sip escapedUsername other ≠ none
  order : IsStrictWeakOrder { id : ConferenceId // id.Over addresses } fun id other =>
    id.1.lessThan sip escapedUsername other.1 = some true
  unordered : ∀ id other : ConferenceId, id.Over addresses → other.Over addresses → id.equals sip other = true →
    id.lessThan sip escapedUsername other ≠ some true ∧ other.lessThan sip escapedUsername id ≠ some true

/-- No address is missing. Equal addresses are written alike, host and parameters in their
order, and so are, up to the case of the parameters, addresses that are equal once reduced.
Addresses with the same text are equal, or all of them have it. -/
structure WrittenAlike (sip : BelleSip) (escapedUsername : Text → Text) (addresses : Set (Option Address)) : Prop where
  present : none ∉ addresses
  spelled : ∀ addr other, some addr ∈ addresses → some other ∈ addresses → sip.addressEquals addr other = true →
    addr.domain = other.domain ∧ addr.orderedParams false = other.orderedParams false
  reduced : ∀ addr other, some addr ∈ addresses → some other ∈ addresses →
    sip.addressEquals (reducedAddress addr) (reducedAddress other) = true →
    addr.domain = other.domain ∧ (reducedAddress addr).orderedParams true = (reducedAddress other).orderedParams true
  distinguished : (∀ addr other, some addr ∈ addresses → some other ∈ addresses →
      addr.toStringUriOnlyOrdered escapedUsername = other.toStringUriOnlyOrdered escapedUsername →
      sip.addressEquals addr other = true) ∨
    ∀ addr other, some addr ∈ addresses → some other ∈ addresses →
      addr.toStringUriOnlyOrdered escapedUsername = other.toStringUriOnlyOrdered escapedUsername

abbrev Among (addresses : Set (Option Address)) := { addr : Address // some addr ∈ addresses }

/-- The ordered text of one of the addresses. -/
def textKey (escapedUsername : Text → Text) (addr : Among addresses) : Text :=
  addr.1.toStringUriOnlyOrdered escapedUsername

def SameAddress (sip : BelleSip) (addr other : Among addresses) : Prop :=
  sip.addressEquals addr.1 other.1 = true

/-- An identifier of two of the addresses, with nothing computed yet. -/
def ofPair (pair : Among addresses × Among addresses) : ConferenceId :=
  { peerAddress := some pair.1.1, localAddress := some pair.2.1 }

theorem over_ofPair (pair : Among addresses × Among addresses) :
    (ofPair pair).Over addresses := ⟨pair.1.2, pair.2.2⟩

theorem coherent_ofPair (hashing : UriHashing) (pair : Among addresses × Among addresses) :
    (ofPair pair).Coherent hashing := coherent_of_empty rfl rfl rfl

/-- Where no address is missing, an identifier over the addresses has those of a pair. -/
theorem exists_pair (present : none ∉ addresses) {id : ConferenceId} (among : id.Over addresses) :
    ∃ pair : Among addresses × Among addresses, id.addresses = (ofPair pair).addresses := by
  obtain ⟨peerAddress, localAddress, _, _, _, _⟩ := id
  obtain ⟨peer, device⟩ := among
  cases peerAddress with
  | none => exact absurd peer present
  | some addr =>
    cases localAddress with
    | none => exact absurd device present
    | some other => exact ⟨(⟨addr, peer⟩, ⟨other, device⟩), rfl⟩

/-- The comparisons read the addresses alone. -/
theorem compare_congr {id other first second : ConferenceId} (left : id.addresses = first.addresses)
    (right : other.addresses = second.addresses) : id.equals sip other = first.equals sip second ∧
      id.weakEqual sip other = first.weakEqual sip second ∧
      id.lessThan sip escapedUsername other = first.lessThan sip escapedUsername second := by
  obtain ⟨_, _, _, _, _, _⟩ := id
  obtain ⟨_, _, _, _, _, _⟩ := other
  obtain ⟨_, _, _, _, _, _⟩ := first
  obtain ⟨_, _, _, _, _, _⟩ := second
  obtain ⟨rfl, rfl⟩ := Prod.mk.inj left
  obtain ⟨rfl, rfl⟩ := Prod.mk.inj right
  exact ⟨rfl, rfl, rfl⟩

theorem equals_ofPair_iff (first second : Among addresses × Among addresses) :
    (ofPair first).equals sip (ofPair second) = true ↔ SameAddress sip first.1 second.1 ∧ SameAddress sip first.2 second.2 :=
  Bool.and_eq_true_iff

theorem lessThan_ofPair (first second : Among addresses × Among addresses) :
    ∃ less, (ofPair first).lessThan sip escapedUsername (ofPair second) = some less ∧
      (less = true ↔ PairBefore (textKey escapedUsername) (SameAddress sip) first second) := by
  unfold lessThan ofPair PairBefore SameAddress
  dsimp only
  have peers : first.1.1.isLess escapedUsername second.1.1 = true ↔ textKey escapedUsername first.1 < textKey escapedUsername second.1 :=
    decide_eq_true_iff
  have devices : first.2.1.isLess escapedUsername second.2.1 = true ↔ textKey escapedUsername first.2 < textKey escapedUsername second.2 :=
    decide_eq_true_iff
  split
  next less => exact ⟨true, rfl, iff_of_true rfl (.inl (peers.mp less))⟩
  next apart =>
    split
    next same =>
      refine ⟨_, rfl, devices.trans ?_⟩
      rw [or_iff_right (peers.not.mp apart), and_iff_right same]
    next different =>
      refine ⟨false, rfl, iff_of_false Bool.false_ne_true ?_⟩
      rintro (less | ⟨same, -⟩)
      · exact apart (peers.mpr less)
      · exact different same

theorem lessThan_ofPair_iff (first second : Among addresses × Among addresses) :
    (ofPair first).lessThan sip escapedUsername (ofPair second) = some true ↔
      PairBefore (textKey escapedUsername) (SameAddress sip) first second := by
  obtain ⟨less, found, decides⟩ := @lessThan_ofPair sip escapedUsername addresses first second
  rw [found, ← decides, Option.some.injEq]

/-- What equal addresses have in common makes their texts the same when they are written alike. -/
theorem text_eq_iff (compares : sip.ComparesUris) (lowercaseParams : Bool) {addr other : Address}
    (same : sip.addressEquals addr other = true) :
    addr.toStringUriOnlyOrderedCase escapedUsername lowercaseParams =
        other.toStringUriOnlyOrderedCase escapedUsername lowercaseParams ↔
      addr.domain = other.domain ∧ addr.orderedParams lowercaseParams = other.orderedParams lowercaseParams :=
  orderedCase_eq_iff (compares.scheme addr other same) (compares.username addr other same) (compares.host addr other same)

/-- Texts that are the same in the case they are written in are the same in lower case. -/
theorem lowercase_text_eq (compares : sip.ComparesUris) {addr other : Address} (same : sip.addressEquals addr other = true)
    (written : addr.domain = other.domain ∧ addr.orderedParams false = other.orderedParams false) :
    addr.toStringUriOnlyOrderedCase escapedUsername true = other.toStringUriOnlyOrderedCase escapedUsername true := by
  refine (text_eq_iff compares true same).mpr ⟨written.1, ?_⟩
  rw [orderedParams_lowercase, orderedParams_lowercase, written.2]

theorem WrittenAlike.keyDecides (compares : sip.ComparesUris) (alike : WrittenAlike sip escapedUsername addresses) :
    KeyDecides (@textKey addresses escapedUsername) (@SameAddress addresses sip) where
  key_eq addr other same := by
    unfold textKey
    rw [← Address.toStringUriOnlyOrderedCase_false, ← Address.toStringUriOnlyOrderedCase_false]
    exact (text_eq_iff compares false same).mpr (alike.spelled addr.1 other.1 addr.2 other.2 same)
  same_of_key := by
    rcases alike.distinguished with apart | constant
    · exact .inl fun addr other => apart addr.1 other.1 addr.2 other.2
    · exact .inr fun addr other => constant addr.1 other.1 addr.2 other.2

theorem freshHash_eq (compares : sip.ComparesUris) (alike : WrittenAlike sip escapedUsername addresses) (hash : Text → BitVec 64)
    {first second : Among addresses × Among addresses} (same : (ofPair first).equals sip (ofPair second) = true) :
    (ofPair first).freshHash ⟨escapedUsername, hash⟩ = (ofPair second).freshHash ⟨escapedUsername, hash⟩ := by
  obtain ⟨peers, devices⟩ := (equals_ofPair_iff first second).mp same
  have peer := @lowercase_text_eq sip escapedUsername compares _ _ peers (alike.spelled _ _ first.1.2 second.1.2 peers)
  have device := @lowercase_text_eq sip escapedUsername compares _ _ devices (alike.spelled _ _ first.2.2 second.2.2 devices)
  exact congrArg₂ (fun peer device => hash peer ^^^ (hash device <<< 1)) peer device

theorem freshWeakHash_eq (compares : sip.ComparesUris) (alike : WrittenAlike sip escapedUsername addresses)
    (hash : Text → BitVec 64) {first second : Among addresses × Among addresses}
    (same : (ofPair first).weakEqual sip (ofPair second) = true) :
    (ofPair first).freshWeakHash ⟨escapedUsername, hash⟩ = (ofPair second).freshWeakHash ⟨escapedUsername, hash⟩ := by
  obtain ⟨peers, devices⟩ := Bool.and_eq_true_iff.mp same
  have peer := (@text_eq_iff sip escapedUsername compares true _ _ peers).mpr (alike.reduced _ _ first.1.2 second.1.2 peers)
  have device := (@text_eq_iff sip escapedUsername compares true _ _ devices).mpr
    (alike.reduced _ _ first.2.2 second.2.2 devices)
  exact congrArg₂ (fun peer device => hash peer ^^^ (hash device <<< 1)) peer device

theorem WrittenAlike.lawfulKey (compares : sip.ComparesUris) (alike : WrittenAlike sip escapedUsername addresses) :
    LawfulKey sip escapedUsername addresses := by
  have ordered := (alike.keyDecides compares).pairOrdered
  have pairs : ∀ id : ConferenceId, id.Over addresses →
      ∃ pair : Among addresses × Among addresses, id.addresses = (ofPair pair).addresses :=
    fun id among => exists_pair alike.present among
  refine ⟨?_, ?_, ?_, ?_, ?_⟩
  · intro hash id other among otherAmong coherent otherCoherent same
    obtain ⟨first, left⟩ := pairs id among
    obtain ⟨second, right⟩ := pairs other otherAmong
    rw [(@compare_congr sip escapedUsername _ _ _ _ left right).1] at same
    rw [coherent.hash, otherCoherent.hash, (fresh_congr left).1, (fresh_congr right).1]
    exact freshHash_eq compares alike hash same
  · intro hash id other among otherAmong coherent otherCoherent same
    obtain ⟨first, left⟩ := pairs id among
    obtain ⟨second, right⟩ := pairs other otherAmong
    rw [(@compare_congr sip escapedUsername _ _ _ _ left right).2.1] at same
    rw [coherent.weakHash, otherCoherent.weakHash, (fresh_congr left).2.1, (fresh_congr right).2.1]
    exact freshWeakHash_eq compares alike hash same
  · intro id other among otherAmong
    obtain ⟨first, left⟩ := pairs id among
    obtain ⟨second, right⟩ := pairs other otherAmong
    rw [(compare_congr left right).2.2]
    obtain ⟨less, found, -⟩ := @lessThan_ofPair sip escapedUsername addresses first second
    rw [found]
    exact Option.some_ne_none less
  · have relation : (fun id other : { id : ConferenceId // id.Over addresses } =>
          id.1.lessThan sip escapedUsername other.1 = some true) =
        Function.onFun (PairBefore (textKey escapedUsername) (SameAddress sip)) fun id => (pairs id.1 id.2).choose := by
      funext id other
      rw [(compare_congr (pairs id.1 id.2).choose_spec (pairs other.1 other.2).choose_spec).2.2]
      exact propext (lessThan_ofPair_iff _ _)
    have order := ordered.order
    rw [relation]
    infer_instance
  · intro id other among otherAmong same
    obtain ⟨first, left⟩ := pairs id among
    obtain ⟨second, right⟩ := pairs other otherAmong
    rw [(@compare_congr sip escapedUsername _ _ _ _ left right).1] at same
    obtain ⟨peers, devices⟩ := (equals_ofPair_iff first second).mp same
    rw [(compare_congr left right).2.2, (compare_congr right left).2.2]
    exact (ordered.unordered first second peers devices).imp (lessThan_ofPair_iff first second).not.mpr
      (lessThan_ofPair_iff second first).not.mpr

theorem LawfulKey.pairOrdered (lawful : LawfulKey sip escapedUsername addresses) :
    PairOrdered (@textKey addresses escapedUsername) (@SameAddress addresses sip) where
  order := by
    have relation : PairBefore (@textKey addresses escapedUsername) (@SameAddress addresses sip) =
        Function.onFun (fun id other : { id : ConferenceId // id.Over addresses } =>
          id.1.lessThan sip escapedUsername other.1 = some true) fun pair => ⟨ofPair pair, over_ofPair pair⟩ := by
      funext first second
      exact propext (lessThan_ofPair_iff first second).symm
    have order := lawful.order
    rw [relation]
    infer_instance
  unordered first second peers devices := by
    have same := (equals_ofPair_iff first second).mpr ⟨peers, devices⟩
    exact (lawful.unordered _ _ (over_ofPair first) (over_ofPair second) same).imp
      (lessThan_ofPair_iff first second).not.mp (lessThan_ofPair_iff second first).not.mp

/-- A hash that tells two texts apart shows that the reduced texts are the same. -/
theorem LawfulKey.reduced_text_eq (compares : sip.ComparesUris) (lawful : LawfulKey sip escapedUsername addresses)
    (addr other : Among addresses) (same : sip.addressEquals (reducedAddress addr.1) (reducedAddress other.1) = true) :
    (reducedAddress addr.1).toStringUriOnlyOrderedCase escapedUsername true =
      (reducedAddress other.1).toStringUriOnlyOrderedCase escapedUsername true := by
  by_contra different
  generalize written : (reducedAddress addr.1).toStringUriOnlyOrderedCase escapedUsername true = text at different
  let hash : Text → BitVec 64 := fun other => if other = text then 1 else 0
  have weak : (ofPair (addr, addr)).weakEqual sip (ofPair (other, addr)) = true :=
    Bool.and_eq_true_iff.mpr ⟨same, compares.refl _⟩
  have equal := lawful.weakHash hash _ _ (over_ofPair (addr, addr)) (over_ofPair (other, addr)) (coherent_ofPair _ _)
    (coherent_ofPair _ _) weak
  rw [(coherent_ofPair _ _).weakHash, (coherent_ofPair _ _).weakHash] at equal
  have sums : hash text ^^^ (hash text <<< 1) =
      hash ((reducedAddress other.1).toStringUriOnlyOrderedCase escapedUsername true) ^^^ (hash text <<< 1) :=
    written ▸ equal
  have own : hash text = 1 := if_pos rfl
  have foreign : hash ((reducedAddress other.1).toStringUriOnlyOrderedCase escapedUsername true) = 0 :=
    if_neg (Ne.symm different)
  rw [own, foreign] at sums
  exact absurd sums (by decide)

theorem LawfulKey.writtenAlike (compares : sip.ComparesUris) (lawful : LawfulKey sip escapedUsername addresses) :
    WrittenAlike sip escapedUsername addresses := by
  have decides := (pairOrdered_iff fun addr : Among addresses => compares.refl addr.1).mp lawful.pairOrdered
  refine ⟨?_, ?_, ?_, ?_⟩
  · intro missing
    exact lawful.defined {} {} ⟨missing, missing⟩ ⟨missing, missing⟩ rfl
  · intro addr other inside there same
    apply (@text_eq_iff sip escapedUsername compares false addr other same).mp
    rw [Address.toStringUriOnlyOrderedCase_false, Address.toStringUriOnlyOrderedCase_false]
    exact decides.key_eq ⟨addr, inside⟩ ⟨other, there⟩ same
  · intro addr other inside there same
    exact (text_eq_iff compares true same).mp (lawful.reduced_text_eq compares ⟨addr, inside⟩ ⟨other, there⟩ same)
  · rcases decides.same_of_key with apart | constant
    · exact .inl fun addr other inside there => apart ⟨addr, inside⟩ ⟨other, there⟩
    · exact .inr fun addr other inside there => constant ⟨addr, inside⟩ ⟨other, there⟩

/-- The identifiers over a set of addresses are lawful keys exactly when the addresses are
written alike. -/
theorem lawfulKey_iff (compares : sip.ComparesUris) (escapedUsername : Text → Text) (addresses : Set (Option Address)) :
    LawfulKey sip escapedUsername addresses ↔ WrittenAlike sip escapedUsername addresses :=
  ⟨LawfulKey.writtenAlike compares, WrittenAlike.lawfulKey compares⟩

section Examples

/-- The comparison that ignores the case of the host and of the names of parameters, and
compares the scheme, the username, the port and the parameters. -/
def caseless : BelleSip where
  addressEquals address other := sameUri address other
  uriEquals address other := sameUri address other
where
  sameUri (address other : Address) : Bool :=
    address.scheme == other.scheme && address.username == other.username &&
      lowercase address.domain.toList == lowercase other.domain.toList && address.port == other.port &&
      (address.uriParams.map fun param => (lowercase param.1.toList, param.2)).isPerm
        (other.uriParams.map fun param => (lowercase param.1.toList, param.2))

theorem caseless_comparesUris : caseless.ComparesUris := by
  have parts : ∀ address other, caseless.addressEquals address other = true → address.scheme = other.scheme ∧
      address.username = other.username ∧ lowercase address.domain.toList = lowercase other.domain.toList := by
    intro address other same
    simp only [caseless, caseless.sameUri, Bool.and_eq_true, beq_iff_eq] at same
    exact ⟨same.1.1.1.1, same.1.1.1.2, same.1.1.2⟩
  refine ⟨fun address => ?_, ?_, ?_, ?_⟩
  · simp [caseless, caseless.sameUri, List.isPerm_iff]
  · exact fun address other same => (parts address other same).1
  · exact fun address other same => (parts address other same).2.1
  · exact fun address other same => (parts address other same).2.2

def roomUri (host : String) (port : Nat) : Address := { username := some "room", domain := host, port }

/-- Two rooms on different hosts. -/
theorem two_hosts_lawful :
    LawfulKey caseless (fun text => text) { some (roomUri "example.org" 0), some (roomUri "example.net" 0) } := by
  apply (lawfulKey_iff caseless_comparesUris _ _).mpr
  have either : ∀ addr, some addr ∈ ({ some (roomUri "example.org" 0), some (roomUri "example.net" 0) } : Set (Option Address)) →
      addr = roomUri "example.org" 0 ∨ addr = roomUri "example.net" 0 := by
    intro addr member
    simpa using member
  refine ⟨by simp, ?_, ?_, .inl ?_⟩
  · intro addr other inside there same
    rcases either addr inside with rfl | rfl
    · rcases either other there with rfl | rfl
      · exact ⟨rfl, rfl⟩
      · exact absurd same (by decide)
    · rcases either other there with rfl | rfl
      · exact absurd same (by decide)
      · exact ⟨rfl, rfl⟩
  · intro addr other inside there same
    rcases either addr inside with rfl | rfl
    · rcases either other there with rfl | rfl
      · exact ⟨rfl, rfl⟩
      · exact absurd same (by decide)
    · rcases either other there with rfl | rfl
      · exact absurd same (by decide)
      · exact ⟨rfl, rfl⟩
  · intro addr other inside there same
    rcases either addr inside with rfl | rfl
    · rcases either other there with rfl | rfl
      · exact caseless_comparesUris.refl _
      · exact absurd same (by decide)
    · rcases either other there with rfl | rfl
      · exact absurd same (by decide)
      · exact caseless_comparesUris.refl _

/-- Two addresses whose hosts differ in case are equal, with hashes that differ. Two addresses
that differ in their ports have one text, which makes the order no weak one. -/
theorem case_and_port_unlawful :
    ¬LawfulKey caseless (fun text => text) { some (roomUri "example.org" 0), some (roomUri "Example.org" 0) } ∧
      ¬LawfulKey caseless (fun text => text)
        { some (roomUri "example.org" 5060), some (roomUri "example.org" 5061), some (roomUri "example.net" 0) } := by
  refine ⟨fun lawful => ?_, fun lawful => ?_⟩
  · have equal := lawful.hash (fun text => .ofNat 64 (text.map Char.toNat).sum)
      { peerAddress := some (roomUri "example.org" 0), localAddress := some (roomUri "example.org" 0) }
      { peerAddress := some (roomUri "Example.org" 0), localAddress := some (roomUri "example.org" 0) }
      ⟨by simp, by simp⟩ ⟨by simp, by simp⟩ (coherent_of_empty rfl rfl rfl) (coherent_of_empty rfl rfl rfl) (by decide)
    exact absurd equal (by decide)
  · have apart := lawful.order.incomp_trans
      ⟨{ peerAddress := some (roomUri "example.org" 5060), localAddress := some (roomUri "example.net" 0) }, by simp, by simp⟩
      ⟨{ peerAddress := some (roomUri "example.org" 5061), localAddress := some (roomUri "example.org" 5060) }, by simp, by simp⟩
      ⟨{ peerAddress := some (roomUri "example.org" 5060), localAddress := some (roomUri "example.org" 5060) }, by simp, by simp⟩
      ⟨by decide, by decide⟩ ⟨by decide, by decide⟩
    exact apart.1 (by decide)

end Examples

end ConferenceId

end Liblinphone
