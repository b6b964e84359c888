import Liblinphone.ConferenceId
import Liblinphone.Library.Run

/-! When the values that an identifier keeps are the ones of its addresses. A setter and an
assignment leave some of them in place, and an assignment leaves an address in place that
the other identifier does not have. -/

namespace Liblinphone

open Library

namespace ConferenceId

variable {hashing : UriHashing} {id other : ConferenceId}

section Addresses

theorem removeUriParam_again (addr : Address) (name : String) :
    (addr.removeUriParam name).removeUriParam name = addr.removeUriParam name := by
  simp [Address.removeUriParam]

/-- An address that was processed is not changed by the same parameters. -/
theorem processAddress_again (params : ConferenceIdParams) (addr : Address) :
    processAddress params (processAddress params addr) = processAddress params addr := by
  cases valid : addr.isValid with
  | false =>
    have created : processAddress params addr = .create := by
      simp [processAddress, valid]
    rw [created]
    rfl
  | true =>
    have same : ∀ other : Address, other.domain = addr.domain → other.isValid = true := by
      intro other host
      simpa [Address.isValid, host] using valid
    obtain ⟨keepGruu, extractUri⟩ := params
    cases extractUri with
    | true =>
      cases keepGruu with
      | true => simp [processAddress, valid, same addr.getUri rfl]
      | false => simp [processAddress, valid, same addr.getUriWithoutGruu rfl, Address.getUriWithoutGruu_again]
    | false =>
      cases keepGruu with
      | true => simp [processAddress, valid]
      | false => simp [processAddress, valid, same (addr.removeUriParam "gr") rfl, removeUriParam_again]

/-- The addresses of an identifier are processed. -/
def Processed (id : ConferenceId) : Prop :=
  ∀ useLocal, ∀ addr ∈ id.member useLocal, processAddress id.params addr = addr

theorem processed_empty (params : ConferenceIdParams) : ({ params := params } : ConferenceId).Processed := by
  intro useLocal addr inside
  cases useLocal with
  | false => cases inside
  | true => cases inside

theorem processed_store (processed : id.Processed) (useLocal : Bool) (addr : Address) : (id.store useLocal addr).Processed := by
  intro side stored inside
  cases useLocal with
  | false =>
    cases side with
    | false =>
      obtain rfl : processAddress id.params addr = stored := Option.some.inj inside
      exact processAddress_again id.params addr
    | true => exact processed true stored inside
  | true =>
    cases side with
    | false => exact processed false stored inside
    | true =>
      obtain rfl : processAddress id.params addr = stored := Option.some.inj inside
      exact processAddress_again id.params addr

theorem processed_force (processed : id.Processed) (useLocal : Bool) (addr : Option Address) :
    (id.force useLocal addr).Processed := by
  cases addr with
  | none => exact processed
  | some addr => exact processed_store processed useLocal addr

theorem setAddress_eq {useLocal : Bool} {addr : Option Address} {forceUpdate : Bool} {next : ConferenceId}
    (updated : id.setAddress hashing useLocal addr forceUpdate = some next) : next = id.force useLocal addr := by
  cases addr with
  | none => exact (Option.some.inj updated).symm
  | some addr =>
    unfold setAddress at updated
    dsimp only at updated
    split at updated
    next => exact (Option.some.inj updated).symm
    next => cases updated

/-- The setters of a constructor do not abort. -/
theorem ofAddresses_eq (pAddress lAddress : Option Address) (params : ConferenceIdParams) :
    ofAddresses hashing pAddress lAddress params =
      some ((({ params := params } : ConferenceId).force false pAddress).force true lAddress) := by
  cases pAddress with
  | none =>
    cases lAddress with
    | none => rfl
    | some _ => rfl
  | some _ =>
    cases lAddress with
    | none => rfl
    | some _ => rfl

end Addresses

section Caches

theorem cached_eq_iff {β : Type} [DecidableEq β] {unset fresh held : β} :
    cached unset fresh held = fresh ↔ held = unset ∨ held = fresh := by
  unfold cached
  split
  next empty => exact iff_of_true rfl (.inl empty)
  next filled => exact (or_iff_right filled).symm

/-- The getters return the values of the addresses that the identifier has. -/
structure Coherent (hashing : UriHashing) (id : ConferenceId) : Prop where
  hash : (id.getHash hashing).1 = id.freshHash hashing
  weakHash : (id.getWeakHash hashing).1 = id.freshWeakHash hashing
  identifier : (id.getIdentifier hashing).1 = id.freshIdentifier hashing

/-- The values that are kept, when there are any, are the ones of the other identifier. -/
structure KeptBy (hashing : UriHashing) (id other : ConferenceId) : Prop where
  hash : id.hash = 0 ∨ id.hash = other.freshHash hashing
  weakHash : id.weakHash = 0 ∨ id.weakHash = other.freshWeakHash hashing
  identifier : id.identifier = [] ∨ id.identifier = other.freshIdentifier hashing

theorem coherent_iff : id.Coherent hashing ↔ id.KeptBy hashing id := by
  constructor
  · exact fun ⟨hash, weakHash, identifier⟩ => ⟨cached_eq_iff.mp hash, cached_eq_iff.mp weakHash, cached_eq_iff.mp identifier⟩
  · exact fun ⟨hash, weakHash, identifier⟩ => ⟨cached_eq_iff.mpr hash, cached_eq_iff.mpr weakHash, cached_eq_iff.mpr identifier⟩

theorem coherent_of_empty (hash : id.hash = 0) (weakHash : id.weakHash = 0) (identifier : id.identifier = []) :
    id.Coherent hashing :=
  coherent_iff.mpr ⟨.inl hash, .inl weakHash, .inl identifier⟩

theorem coherent_getHash (coherent : id.Coherent hashing) : (id.getHash hashing).2.Coherent hashing := by
  obtain ⟨-, weakHash, identifier⟩ := coherent_iff.mp coherent
  exact coherent_iff.mpr ⟨.inr coherent.hash, weakHash, identifier⟩

theorem coherent_getWeakHash (coherent : id.Coherent hashing) : (id.getWeakHash hashing).2.Coherent hashing := by
  obtain ⟨hash, -, identifier⟩ := coherent_iff.mp coherent
  exact coherent_iff.mpr ⟨hash, .inr coherent.weakHash, identifier⟩

theorem coherent_getIdentifier (coherent : id.Coherent hashing) : (id.getIdentifier hashing).2.Coherent hashing := by
  obtain ⟨hash, weakHash, -⟩ := coherent_iff.mp coherent
  exact coherent_iff.mpr ⟨hash, weakHash, .inr coherent.identifier⟩

/-- What is kept has the same value for the addresses of the other identifier. -/
structure Unmoved (hashing : UriHashing) (id other : ConferenceId) : Prop where
  hash : id.hash = 0 ∨ other.freshHash hashing = id.freshHash hashing
  weakHash : id.weakHash = 0 ∨ other.freshWeakHash hashing = id.freshWeakHash hashing
  identifier : id.identifier = [] ∨ other.freshIdentifier hashing = id.freshIdentifier hashing

theorem kept_iff_unmoved {β : Type} {unset held fresh moved : β} (current : held = unset ∨ held = fresh) :
    (held = unset ∨ held = moved) ↔ held = unset ∨ moved = fresh := by
  by_cases empty : held = unset
  · exact iff_of_true (.inl empty) (.inl empty)
  · rw [or_iff_right empty, or_iff_right empty, current.resolve_left empty]
    exact eq_comm

theorem keptBy_iff_unmoved (coherent : id.Coherent hashing) : id.KeptBy hashing other ↔ id.Unmoved hashing other := by
  obtain ⟨hash, weakHash, identifier⟩ := coherent_iff.mp coherent
  constructor
  · intro kept
    exact ⟨(kept_iff_unmoved hash).mp kept.hash, (kept_iff_unmoved weakHash).mp kept.weakHash,
      (kept_iff_unmoved identifier).mp kept.identifier⟩
  · intro unmoved
    exact ⟨(kept_iff_unmoved hash).mpr unmoved.hash, (kept_iff_unmoved weakHash).mpr unmoved.weakHash,
      (kept_iff_unmoved identifier).mpr unmoved.identifier⟩

/-- Two identifiers keep the same, under the same parameters. -/
structure SameKept (id other : ConferenceId) : Prop where
  hash : id.hash = other.hash
  weakHash : id.weakHash = other.weakHash
  identifier : id.identifier = other.identifier
  params : id.params = other.params

/-- A setter leaves everything that is kept. -/
theorem force_kept (id : ConferenceId) (useLocal : Bool) (addr : Option Address) :
    (id.force useLocal addr).SameKept id := by
  cases addr with
  | none => exact ⟨rfl, rfl, rfl, rfl⟩
  | some addr =>
    cases useLocal with
    | false => exact ⟨rfl, rfl, rfl, rfl⟩
    | true => exact ⟨rfl, rfl, rfl, rfl⟩

theorem coherent_force_iff (coherent : id.Coherent hashing) (useLocal : Bool) (addr : Option Address) :
    (id.force useLocal addr).Coherent hashing ↔ id.Unmoved hashing (id.force useLocal addr) := by
  have kept := force_kept id useLocal addr
  rw [← keptBy_iff_unmoved coherent, coherent_iff]
  constructor
  · exact fun ⟨hash, weakHash, text⟩ => ⟨kept.hash ▸ hash, kept.weakHash ▸ weakHash, kept.identifier ▸ text⟩
  · exact fun ⟨hash, weakHash, text⟩ => ⟨kept.hash ▸ hash, kept.weakHash ▸ weakHash, kept.identifier ▸ text⟩

/-- An identifier that was only given addresses. -/
theorem coherent_force_force {first second : Option Address} {params : ConferenceIdParams} :
    ((({ params := params } : ConferenceId).force false first).force true second).Coherent hashing := by
  have early := force_kept { params := params } false first
  have late := force_kept (({ params := params } : ConferenceId).force false first) true second
  exact coherent_of_empty (late.hash.trans early.hash) (late.weakHash.trans early.weakHash)
    (late.identifier.trans early.identifier)

end Caches

section Assignment

def addresses (id : ConferenceId) : Option Address × Option Address := (id.peerAddress, id.localAddress)

/-- What is computed depends on the addresses alone. -/
theorem fresh_congr (same : id.addresses = other.addresses) : id.freshHash hashing = other.freshHash hashing ∧
    id.freshWeakHash hashing = other.freshWeakHash hashing ∧ id.freshIdentifier hashing = other.freshIdentifier hashing := by
  obtain ⟨peer, device, _, _, _, _⟩ := id
  obtain ⟨otherPeer, otherDevice, _, _, _, _⟩ := other
  obtain ⟨rfl, rfl⟩ := Prod.mk.inj same
  exact ⟨rfl, rfl, rfl⟩

/-- The other identifier has each address that this one has, and a text that is kept is the one
of its addresses. -/
structure Assignable (hashing : UriHashing) (id other : ConferenceId) : Prop where
  peer : other.peerAddress = none → id.peerAddress = none
  device : other.localAddress = none → id.localAddress = none
  identifier : id.identifier = [] ∨ other.freshIdentifier hashing = id.freshIdentifier hashing

/-- The addresses after an assignment: an address that is missing is not assigned. -/
theorem addresses_assign (processed : other.Processed) :
    (id.assign other).addresses = (other.peerAddress.or id.peerAddress, other.localAddress.or id.localAddress) := by
  cases peer : other.peerAddress with
  | none =>
    cases device : other.localAddress with
    | none => simp [addresses, assign, force, peer, device]
    | some addr =>
      have same := processed true addr device
      simp [addresses, assign, force, store, peer, device, same]
  | some addr =>
    have samePeer := processed false addr peer
    cases device : other.localAddress with
    | none => simp [addresses, assign, force, store, peer, device, samePeer]
    | some addr =>
      have same := processed true addr device
      simp [addresses, assign, force, store, peer, device, same, samePeer]

theorem or_eq_left_iff {β : Type} {first second : Option β} : first.or second = first ↔ (first = none → second = none) := by
  cases first with
  | none => simp
  | some _ => simp

theorem assign_addresses_iff (processed : other.Processed) : (id.assign other).addresses = other.addresses ↔
    (other.peerAddress = none → id.peerAddress = none) ∧ (other.localAddress = none → id.localAddress = none) := by
  rw [addresses_assign processed, ← or_eq_left_iff, ← or_eq_left_iff]
  exact Prod.ext_iff

theorem identifier_assign (id other : ConferenceId) : (id.assign other).identifier = id.identifier :=
  (force_kept _ true _).identifier.trans (force_kept _ false _).identifier

theorem params_assign (id other : ConferenceId) : (id.assign other).params = other.params :=
  (force_kept _ true _).params.trans (force_kept _ false _).params

/-- When an assignment gives the identifier the addresses and the values of the other one. -/
theorem assign_iff (coherent : id.Coherent hashing) (others : other.Coherent hashing) (processed : other.Processed) :
    ((id.assign other).Coherent hashing ∧ (id.assign other).addresses = other.addresses) ↔ id.Assignable hashing other := by
  have kept := coherent_iff.mp others
  have held : id.identifier = [] ∨ id.identifier = id.freshIdentifier hashing := (coherent_iff.mp coherent).identifier
  rw [coherent_iff]
  constructor
  · intro ⟨values, same⟩
    obtain ⟨peer, device⟩ := (assign_addresses_iff processed).mp same
    refine ⟨peer, device, (kept_iff_unmoved held).mp ?_⟩
    rw [← (fresh_congr same).2.2, ← identifier_assign id other]
    exact values.identifier
  · intro ⟨peer, device, text⟩
    have same := (assign_addresses_iff processed).mpr ⟨peer, device⟩
    obtain ⟨hash, weakHash, identifier⟩ := @fresh_congr hashing _ _ same
    refine ⟨⟨?_, ?_, ?_⟩, same⟩
    · rw [hash]
      exact kept.hash
    · rw [weakHash]
      exact kept.weakHash
    · rw [identifier, identifier_assign]
      exact (kept_iff_unmoved held).mpr text

theorem processed_assign (processed : other.Processed) (same : (id.assign other).addresses = other.addresses) :
    (id.assign other).Processed := by
  obtain ⟨peer, device⟩ := Prod.ext_iff.mp same
  intro useLocal addr inside
  rw [params_assign]
  cases useLocal with
  | false => exact processed false addr (peer.symm.trans inside)
  | true => exact processed true addr (device.symm.trans inside)

theorem assignable_empty : ({} : ConferenceId).Assignable hashing other :=
  ⟨fun _ => rfl, fun _ => rfl, .inl rfl⟩

end Assignment

end ConferenceId

namespace ConferenceIds

variable {hashing : UriHashing} {ids next : List ConferenceId}

/-- Every identifier returns the values of its addresses. -/
def AllCoherent (hashing : UriHashing) (ids : List ConferenceId) : Prop := ∀ id ∈ ids, id.Coherent hashing

/-- After an assignment the two identifiers have the same addresses. -/
def Assigned (next : List ConferenceId) : ConferenceIdCall → Prop
  | .assign target source => next[target]?.map ConferenceId.addresses = next[source]?.map ConferenceId.addresses
  | _ => True

/-- A setter is called when nothing is kept that changes, and an assignment to an identifier
that keeps no other text, from one that has each address that it has. -/
def Careful (hashing : UriHashing) (ids : List ConferenceId) : ConferenceIdCall → Prop
  | .assign target source => ∀ id ∈ ids[target]?, ∀ other ∈ ids[source]?, id.Assignable hashing other
  | .setPeerAddress index addr _ => ∀ id ∈ ids[index]?, id.Unmoved hashing (id.force false addr)
  | .setLocalAddress index addr _ => ∀ id ∈ ids[index]?, id.Unmoved hashing (id.force true addr)
  | _ => True

/-- What holds before each call: the values are the ones of the addresses, which are processed. -/
def Sound (hashing : UriHashing) (ids : List ConferenceId) : Prop := ∀ id ∈ ids, id.Coherent hashing ∧ id.Processed

theorem update_eq {index : Nat} {change : ConferenceId → Option ConferenceId} (updated : update ids index change = some next) :
    ∃ id changed, ids[index]? = some id ∧ change id = some changed ∧ next = ids.set index changed := by
  obtain ⟨changed, made, rfl⟩ := Option.map_eq_some_iff.mp updated
  obtain ⟨id, found, change⟩ := Option.bind_eq_some_iff.mp made
  exact ⟨id, changed, found, change, rfl⟩

theorem forall_set_iff {index : Nat} {id changed : ConferenceId} {property : ConferenceId → Prop} (found : ids[index]? = some id)
    (before : ∀ id ∈ ids, property id) : (∀ other ∈ ids.set index changed, property other) ↔ property changed := by
  obtain ⟨inside, -⟩ := List.getElem?_eq_some_iff.mp found
  constructor
  · exact fun all => all changed (List.mem_set inside changed)
  · intro holds other member
    rcases List.mem_or_eq_of_mem_set member with old | rfl
    · exact before other old
    · exact holds

/-- What a call leaves is right exactly when it was called with care, and stays processed then. -/
structure Decided (hashing : UriHashing) (ids : List ConferenceId) (call : ConferenceIdCall) (next : List ConferenceId) :
    Prop where
  right : AllCoherent hashing next ∧ Assigned next call ↔ Careful hashing ids call
  processed : Careful hashing ids call → ∀ id ∈ next, id.Processed

theorem decided_append (sound : Sound hashing ids) {call : ConferenceIdCall} {added : ConferenceId}
    (coherent : added.Coherent hashing) (processed : added.Processed) (assigned : Assigned (ids ++ [added]) call)
    (careful : Careful hashing ids call) : Decided hashing ids call (ids ++ [added]) where
  right := by
    refine iff_of_true ⟨?_, assigned⟩ careful
    intro id member
    rcases List.mem_append.mp member with old | new
    · exact (sound id old).1
    · exact List.mem_singleton.mp new ▸ coherent
  processed _ id member := by
    rcases List.mem_append.mp member with old | new
    · exact (sound id old).2
    · exact List.mem_singleton.mp new ▸ processed

theorem decided_set (sound : Sound hashing ids) {call : ConferenceIdCall} {index : Nat} {id changed : ConferenceId}
    (found : ids[index]? = some id)
    (right : changed.Coherent hashing ∧ Assigned (ids.set index changed) call ↔ Careful hashing ids call)
    (processed : Careful hashing ids call → changed.Processed) : Decided hashing ids call (ids.set index changed) where
  right := by
    unfold AllCoherent
    rw [forall_set_iff found fun id member => (sound id member).1]
    exact right
  processed careful := (forall_set_iff found fun id member => (sound id member).2).mpr (processed careful)

theorem decided_getter (sound : Sound hashing ids) {call : ConferenceIdCall} {index : Nat}
    {getter : ConferenceId → ConferenceId} (kept : ∀ id, id.Coherent hashing → (getter id).Coherent hashing)
    (same : ∀ id, id.Processed → (getter id).Processed) (assigned : Assigned next call) (careful : Careful hashing ids call)
    (updated : update ids index (fun id => some (getter id)) = some next) : Decided hashing ids call next := by
  obtain ⟨id, changed, found, read, rfl⟩ := update_eq updated
  obtain rfl := Option.some.inj read
  have before := sound id (List.mem_of_getElem? found)
  exact decided_set sound found (iff_of_true ⟨kept id before.1, assigned⟩ careful) fun _ => same id before.2

theorem decided_setter (sound : Sound hashing ids) {call : ConferenceIdCall} {index : Nat} {useLocal forceUpdate : Bool}
    {addr : Option Address} (assigned : Assigned next call)
    (careful : Careful hashing ids call ↔ ∀ id ∈ ids[index]?, id.Unmoved hashing (id.force useLocal addr))
    (updated : update ids index (fun id => id.setAddress hashing useLocal addr forceUpdate) = some next) :
    Decided hashing ids call next := by
  obtain ⟨id, changed, found, set, rfl⟩ := update_eq updated
  have before := sound id (List.mem_of_getElem? found)
  obtain rfl := ConferenceId.setAddress_eq set
  refine decided_set sound found ?_ fun _ => ConferenceId.processed_force before.2 useLocal addr
  rw [and_iff_left assigned, careful, ConferenceId.coherent_force_iff before.1, found]
  simp

theorem assigned_set_iff {target source : Nat} {id other changed : ConferenceId} (found : ids[target]? = some id)
    (there : ids[source]? = some other) (processed : other.Processed) (assigned : id.assign other = changed) :
    Assigned (ids.set target changed) (.assign target source) ↔ changed.addresses = other.addresses := by
  obtain ⟨inside, -⟩ := List.getElem?_eq_some_iff.mp found
  dsimp only [Assigned]
  rw [List.getElem?_set_self inside]
  by_cases same : target = source
  · -- An assignment to itself keeps both addresses.
    subst same
    obtain rfl : id = other := Option.some.inj (found.symm.trans there)
    rw [List.getElem?_set_self inside, ← assigned]
    exact iff_of_true rfl ((ConferenceId.assign_addresses_iff processed).mpr ⟨fun missing => missing, fun missing => missing⟩)
  · rw [List.getElem?_set_ne same, there, Option.map_some, Option.map_some, Option.some.injEq]

/-- One call, case by case. -/
theorem step_decided (sound : Sound hashing ids) (call : ConferenceIdCall) (stepped : step hashing ids call = some next) :
    Decided hashing ids call next := by
  cases call with
  | create =>
    cases stepped
    exact decided_append sound (ConferenceId.coherent_of_empty rfl rfl rfl) (ConferenceId.processed_empty {}) trivial trivial
  | ofUris pAddress lAddress params =>
    cases stepped
    have processed := ConferenceId.processed_store
      (ConferenceId.processed_store (ConferenceId.processed_empty params) false pAddress) true lAddress
    exact decided_append sound (ConferenceId.coherent_of_empty rfl rfl rfl) processed trivial trivial
  | ofAddresses pAddress lAddress params =>
    obtain ⟨id, made, rfl⟩ := Option.map_eq_some_iff.mp stepped
    rw [ConferenceId.ofAddresses_eq] at made
    obtain rfl := Option.some.inj made
    have processed := ConferenceId.processed_force
      (ConferenceId.processed_force (ConferenceId.processed_empty params) false pAddress) true lAddress
    exact decided_append sound ConferenceId.coherent_force_force processed trivial trivial
  | copy source =>
    obtain ⟨other, found, rfl⟩ := Option.map_eq_some_iff.mp stepped
    have before := sound other (List.mem_of_getElem? found)
    have empty : ({} : ConferenceId).Coherent hashing := ConferenceId.coherent_of_empty rfl rfl rfl
    obtain ⟨coherent, same⟩ := (ConferenceId.assign_iff empty before.1 before.2).mpr ConferenceId.assignable_empty
    exact decided_append sound coherent (ConferenceId.processed_assign before.2 same) trivial trivial
  | assign target source =>
    obtain ⟨other, there, updated⟩ := Option.bind_eq_some_iff.mp stepped
    obtain ⟨id, changed, found, assigned, rfl⟩ := update_eq updated
    replace assigned := Option.some.inj assigned
    have before := sound id (List.mem_of_getElem? found)
    have others := sound other (List.mem_of_getElem? there)
    have careful : Careful hashing ids (.assign target source) ↔ id.Assignable hashing other := by
      dsimp only [Careful]
      rw [found, there]
      simp
    apply decided_set sound found
    · rw [assigned_set_iff found there others.2 assigned, careful, ← ConferenceId.assign_iff before.1 others.1 others.2, assigned]
    · intro meets
      have same := ((ConferenceId.assign_iff before.1 others.1 others.2).mpr (careful.mp meets)).2
      exact assigned ▸ ConferenceId.processed_assign others.2 same
  | setPeerAddress index addr forceUpdate => exact decided_setter sound trivial Iff.rfl stepped
  | setLocalAddress index addr forceUpdate => exact decided_setter sound trivial Iff.rfl stepped
  | getHash index => exact decided_getter sound (fun _ => ConferenceId.coherent_getHash) (fun _ same => same) trivial trivial stepped
  | getWeakHash index =>
    exact decided_getter sound (fun _ => ConferenceId.coherent_getWeakHash) (fun _ same => same) trivial trivial stepped
  | getIdentifier index =>
    exact decided_getter sound (fun _ => ConferenceId.coherent_getIdentifier) (fun _ same => same) trivial trivial stepped

/-- In a run of calls from no identifier at all, each call leaves identifiers that return the
values of their addresses, and an assignment the same addresses, exactly when each call is
made with care. -/
theorem calls_coherent_iff (hashing : UriHashing) (calls : List ConferenceIdCall) :
    EachStep (step hashing) (fun _ call next => AllCoherent hashing next ∧ Assigned next call) [] calls ↔
      EachStep (step hashing) (fun ids call _ => Careful hashing ids call) [] calls := by
  apply @eachStep_iff _ _ _ _ _ (Sound hashing)
  · exact fun ids call next sound stepped => (step_decided sound call stepped).right
  · intro ids call next sound stepped careful id member
    have decided := step_decided sound call stepped
    exact ⟨(decided.right.mpr careful).1 id member, decided.processed careful id member⟩
  · exact fun _ member => absurd member List.not_mem_nil

section Examples

def lengthHashing : UriHashing := { hash := fun text => .ofNat 64 text.length }

def chatUri (name : String) : Address := { username := some name, domain := "conference.example.org" }

def deviceUri : Address := { username := some "me", domain := "example.org" }

/-- A text that is kept survives an assignment, a hash survives a setter that is forced, and
the addresses survive the assignment of an identifier without addresses. -/
theorem assignment_keeps_identifier :
    ¬EachStep (step lengthHashing) (fun _ call next => AllCoherent lengthHashing next ∧ Assigned next call) []
        [.ofUris (chatUri "one") deviceUri {}, .ofUris (chatUri "two") deviceUri {}, .getIdentifier 0, .assign 0 1] ∧
      ¬EachStep (step lengthHashing) (fun _ call next => AllCoherent lengthHashing next ∧ Assigned next call) []
        [.ofUris (chatUri "one") deviceUri {}, .getHash 0, .setLocalAddress 0 (some (chatUri "three")) true] ∧
      ¬EachStep (step lengthHashing) (fun _ call next => AllCoherent lengthHashing next ∧ Assigned next call) []
        [.ofUris (chatUri "one") deviceUri {}, .create, .assign 0 1] := by
  refine ⟨fun always => ?_, fun always => ?_, fun always => ?_⟩
  · have last := ((((always _ rfl).2 _ rfl).2 _ rfl).2 _ rfl).1.1 _ List.mem_cons_self
    exact absurd last.identifier (by decide)
  · have last := (((always _ rfl).2 _ rfl).2 _ rfl).1.1 _ List.mem_cons_self
    exact absurd last.hash (by decide)
  · have last := (((always _ rfl).2 _ rfl).2 _ rfl).1.2
    exact absurd (Option.some.inj last) (by decide)

end Examples

end ConferenceIds

end Liblinphone
