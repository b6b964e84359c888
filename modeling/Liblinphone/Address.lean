import Mathlib.Data.String.Basic

/-! SIP addresses and the three ways the library compares them. Weak equality is
computed here. The two strict comparisons belong to the SIP stack, so they are
values that every function takes. -/

namespace Liblinphone

/-- An address whose URI is a SIP one. -/
structure Address where
  displayName : String := ""
  scheme : String := "sip"
  username : Option String := none
  domain : String
  port : Nat := 0
  uriParams : List (String × String) := []
  params : List (String × String) := []
deriving Repr, DecidableEq

namespace Address

def weakEqual (address other : Address) : Bool :=
  address.username == other.username && address.domain == other.domain && address.port == other.port

def getUri (address : Address) : Address := { address with displayName := "", params := [] }

def removeUriParam (address : Address) (name : String) : Address :=
  { address with uriParams := address.uriParams.filter fun param => param.1 != name }

def getUriWithoutGruu (address : Address) : Address := address.getUri.removeUriParam "gr"

theorem weakEqual_iff {address other : Address} : address.weakEqual other = true ↔
    address.username = other.username ∧ address.domain = other.domain ∧ address.port = other.port := by
  simp [weakEqual, and_assoc]

@[simp] theorem weakEqual_refl (address : Address) : address.weakEqual address = true := by
  simp [weakEqual]

theorem weakEqual_symm {address other : Address} (same : address.weakEqual other = true) :
    other.weakEqual address = true := by
  obtain ⟨username, domain, port⟩ := weakEqual_iff.mp same
  exact weakEqual_iff.mpr ⟨username.symm, domain.symm, port.symm⟩

theorem weakEqual_trans {first second third : Address} (left : first.weakEqual second = true)
    (right : second.weakEqual third = true) : first.weakEqual third = true := by
  obtain ⟨username, domain, port⟩ := weakEqual_iff.mp left
  obtain ⟨nextUsername, nextDomain, nextPort⟩ := weakEqual_iff.mp right
  exact weakEqual_iff.mpr ⟨username.trans nextUsername, domain.trans nextDomain, port.trans nextPort⟩

/-- Weakly equal addresses are weakly equal to the same addresses. -/
theorem weakEqual_congr {first second : Address} (same : first.weakEqual second = true) (other : Address) :
    first.weakEqual other = second.weakEqual other := by
  obtain ⟨username, domain, port⟩ := weakEqual_iff.mp same
  simp only [weakEqual, username, domain, port]

/-- What weak equality compares. -/
def weakKey (address : Address) : Option String × String × Nat := (address.username, address.domain, address.port)

theorem weakEqual_eq_key (address other : Address) :
    address.weakEqual other = decide (address.weakKey = other.weakKey) := by
  rw [Bool.eq_iff_iff, weakEqual_iff, decide_eq_true_iff]
  simp [weakKey]

theorem weakEqual_comm (address other : Address) : address.weakEqual other = other.weakEqual address := by
  simp only [weakEqual, BEq.comm]

theorem weakEqual_congr_right {first second : Address} (same : first.weakEqual second = true) (other : Address) :
    other.weakEqual first = other.weakEqual second := by
  rw [weakEqual_comm other first, weakEqual_comm other second, weakEqual_congr same]

@[simp] theorem getUri_getUri (address : Address) : address.getUri.getUri = address.getUri := rfl

@[simp] theorem weakEqual_getUriWithoutGruu (address other : Address) :
    address.getUriWithoutGruu.weakEqual other = address.weakEqual other := rfl

theorem getUriWithoutGruu_again (address : Address) :
    address.getUriWithoutGruu.getUriWithoutGruu = address.getUriWithoutGruu := by
  simp [getUriWithoutGruu, removeUriParam, getUri]

end Address

/-- The comparisons of the SIP stack: of whole addresses, and of their URIs alone. -/
structure BelleSip where
  addressEquals : Address → Address → Bool
  uriEquals : Address → Address → Bool

/-- Both are reflexive and symmetric, and on bare URIs they are the same. Neither
need be transitive: a parameter that only one of two URIs has may be ignored. -/
structure BelleSip.Lawful (sip : BelleSip) : Prop where
  refl : ∀ address, sip.uriEquals address address = true
  symm : ∀ address other, sip.uriEquals address other = sip.uriEquals other address
  bare : ∀ address other, sip.addressEquals address.getUri other.getUri = sip.uriEquals address other

theorem BelleSip.Lawful.uriEquals_getUri {sip : BelleSip} (lawful : sip.Lawful) (address other : Address) :
    sip.uriEquals address other.getUri = sip.uriEquals address other := by
  rw [← lawful.bare, ← lawful.bare, Address.getUri_getUri]

/-- The comparisons of addresses that have no parameters to ignore. -/
def BelleSip.fieldwise : BelleSip where
  addressEquals address other := address == other
  uriEquals address other := address.getUri == other.getUri

theorem BelleSip.fieldwise_lawful : BelleSip.fieldwise.Lawful where
  refl := by simp [fieldwise]
  symm := by
    intro address other
    simp only [fieldwise, BEq.comm]
  bare := by simp [fieldwise]

end Liblinphone
