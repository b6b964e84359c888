import Liblinphone.Exchange
import Liblinphone.Proofs.MediaNegotiation

/-! Bundles of a negotiated description. They are formed from the mids of the
lines as they were negotiated, and lines are disabled afterwards, so a group can
keep the mid of a line that has left it. -/

namespace Liblinphone

namespace SalMediaDescription

/-- The transport owner of the line at an index. -/
def ownerAt (desc : SalMediaDescription) (index : Nat) : Option Int :=
  desc.streams[index]?.map desc.getIndexOfTransportOwner

theorem lookupMid_eq {desc : SalMediaDescription} {mid : String} {owner : Nat} {stream : SalStreamDescription}
    (found : desc.streams[owner]? = some stream) (named : stream.getMid = mid)
    (first : ∀ index < owner, ∀ other, desc.streams[index]? = some other → other.getMid ≠ mid) :
    desc.lookupMid mid = owner := by
  have isFirst : desc.streams.findIdx? (fun stream => stream.getMid == mid) = some owner := by
    obtain ⟨inside, rfl⟩ := List.getElem?_eq_some_iff.mp found
    refine List.findIdx?_eq_some_iff_getElem.mpr ⟨inside, by simpa using named, ?_⟩
    intro index before
    simpa using first index before _ (List.getElem?_eq_getElem (by omega))
  simp only [lookupMid, isFirst]

theorem lookupMid_some {desc : SalMediaDescription} {mid : String} {owner : Nat} (found : desc.lookupMid mid = owner) :
    (∃ stream, desc.streams[owner]? = some stream ∧ stream.getMid = mid) ∧
      ∀ index < owner, ∀ other, desc.streams[index]? = some other → other.getMid ≠ mid := by
  simp only [lookupMid] at found
  split at found
  next index isFirst =>
    obtain rfl : index = owner := by omega
    obtain ⟨inside, named, before⟩ := List.findIdx?_eq_some_iff_getElem.mp isFirst
    refine ⟨⟨_, List.getElem?_eq_getElem inside, by simpa using named⟩, ?_⟩
    intro earlier less other isOther
    obtain ⟨_, rfl⟩ := List.getElem?_eq_some_iff.mp isOther
    simpa using before earlier less
  next => omega

theorem lookupMid_of_mem {desc : SalMediaDescription} {mid : String}
    (carrier : ∃ stream ∈ desc.streams, stream.getMid = mid) : ∃ owner : Nat, desc.lookupMid mid = owner := by
  simp only [lookupMid]
  split
  next index _ => exact ⟨index, rfl⟩
  next missing =>
    obtain ⟨stream, member, named⟩ := carrier
    have differs := List.findIdx?_eq_none_iff.mp missing stream member
    simp [named] at differs

theorem getIndexOfTransportOwner_lookup {desc : SalMediaDescription} {stream : SalStreamDescription} {owner : Nat}
    (owned : desc.getIndexOfTransportOwner stream = owner) : ∃ mid, desc.lookupMid mid = owner := by
  simp only [getIndexOfTransportOwner] at owned
  split at owned
  next => omega
  next =>
    split at owned
    next => omega
    next =>
      split at owned
      next => omega
      next => exact ⟨_, owned⟩

theorem getIndexOfTransportOwner_unbundled {desc : SalMediaDescription} (stream : SalStreamDescription)
    (none : desc.bundles = []) : desc.getIndexOfTransportOwner stream < 0 := by
  simp only [getIndexOfTransportOwner, getBundleFromMid, none]
  split <;> simp

/-- The owner of a stream whose mid is in the only bundle. -/
theorem getIndexOfTransportOwner_listed {desc : SalMediaDescription} {stream : SalStreamDescription}
    {tagged : String} {rest : List String} (only : desc.bundles = [⟨tagged :: rest⟩]) (named : stream.getMid ≠ "")
    (listed : stream.getMid ∈ tagged :: rest) :
    desc.getIndexOfTransportOwner stream = if tagged = "" then -2 else desc.lookupMid tagged := by
  have found : desc.getBundleFromMid stream.getMid = ⟨tagged :: rest⟩ := by
    simp [getBundleFromMid, only, SalStreamBundle.hasMid, listed]
  have nonempty : ((⟨tagged :: rest⟩ : SalStreamBundle) == {}) = false := by simp
  simp only [getIndexOfTransportOwner, found, nonempty, SalStreamBundle.getMidOfTransportOwner]
  simp [named]

end SalMediaDescription

namespace OfferAnswerEngine
open SalStreamDescription

/-- What gathering the mids of some streams gives: no bundle when there is no
mid, or one bundle of all the mids, behind the tagged one. -/
inductive Gathered (streams : List SalStreamDescription) : List SalStreamBundle → Prop
  | none (unnamed : ∀ stream ∈ streams, stream.getMid = "") : Gathered streams []
  | one (tagged : String) (rest : List String) (named : "" ∉ rest)
      (listed : ∀ mid, mid ≠ "" → (mid ∈ tagged :: rest ↔ ∃ stream ∈ streams, stream.getMid = mid)) :
    Gathered streams [⟨tagged :: rest⟩]

private theorem listed_append {done : List SalStreamDescription} {mids after : List String}
    {stream : SalStreamDescription}
    (listed : ∀ mid, mid ≠ "" → (mid ∈ mids ↔ ∃ stream ∈ done, stream.getMid = mid))
    (added : ∀ mid, mid ≠ "" → (mid ∈ after ↔ mid ∈ mids ∨ mid = stream.getMid)) (mid : String) (named : mid ≠ "") :
    mid ∈ after ↔ ∃ other ∈ done ++ [stream], other.getMid = mid := by
  rw [added mid named, listed mid named, @eq_comm _ mid]
  simp only [List.mem_append, List.mem_singleton, or_and_right, exists_or, exists_eq_left]

private theorem gatherBundle_unnamed {stream : SalStreamDescription} (unnamed : stream.getMid = "")
    (bundles : List SalStreamBundle) : gatherBundle bundles stream = bundles := by
  simp only [gatherBundle]
  exact if_pos (by simpa [getMid] using unnamed)

private theorem gatherBundle_named {stream : SalStreamDescription} (named : stream.getMid ≠ "")
    (bundle : SalStreamBundle) :
    gatherBundle [] stream = [SalStreamBundle.addStream {} stream.getChosenConfiguration stream.getMid] ∧
      gatherBundle [bundle] stream = [bundle.addStream stream.getChosenConfiguration stream.getMid] := by
  have nonempty : stream.getChosenConfiguration.mid.isEmpty = false := by simpa [getMid] using named
  simp [gatherBundle, nonempty, getMid]

theorem gatherBundle_gathered {done : List SalStreamDescription} {bundles : List SalStreamBundle}
    (gathered : Gathered done bundles) (stream : SalStreamDescription) :
    Gathered (done ++ [stream]) (gatherBundle bundles stream) := by
  by_cases unnamed : stream.getMid = ""
  · rw [gatherBundle_unnamed unnamed]
    cases gathered with
    | none all =>
      refine .none ?_
      simpa [unnamed, or_imp, forall_and] using all
    | one tagged rest named listed =>
      refine .one tagged rest named (listed_append listed ?_)
      intro mid isNamed
      simp [unnamed, isNamed]
  · cases gathered with
    | none all =>
      rw [(gatherBundle_named unnamed {}).1]
      have nothing : ∀ mid, mid ≠ "" → (mid ∈ ([] : List String) ↔ ∃ stream ∈ done, stream.getMid = mid) := by
        intro mid isNamed
        simp only [List.not_mem_nil, false_iff, not_exists, not_and]
        intro other member same
        exact isNamed (same.symm.trans (all other member))
      cases only : stream.getChosenConfiguration.bundleOnly with
      | true =>
        simp only [SalStreamBundle.addStream, only]
        refine .one "" [stream.getMid] (by simpa using Ne.symm unnamed) (listed_append nothing ?_)
        intro mid isNamed
        simp [isNamed]
      | false =>
        simp only [SalStreamBundle.addStream, only]
        exact .one stream.getMid [] (by simp) (listed_append nothing (by simp))
    | one tagged rest named listed =>
      rw [(gatherBundle_named unnamed _).2]
      by_cases fills : stream.getChosenConfiguration.bundleOnly = false ∧ tagged = ""
      · obtain ⟨primary, rfl⟩ := fills
        simp only [SalStreamBundle.addStream, primary]
        refine .one stream.getMid rest named (listed_append listed ?_)
        intro mid isNamed
        simp [isNamed, or_comm]
      · have appended : SalStreamBundle.addStream ⟨tagged :: rest⟩ stream.getChosenConfiguration stream.getMid =
            ⟨tagged :: (rest ++ [stream.getMid])⟩ := by
          simp only [SalStreamBundle.addStream]
          rw [if_neg (by simp), if_neg (by simpa using fills)]
          rfl
        simp only [appended]
        refine .one tagged (rest ++ [stream.getMid]) (by simp [named, Ne.symm unnamed]) (listed_append listed ?_)
        intro mid _
        simp [or_assoc]

theorem gatherBundles_gathered {result : SalMediaDescription} (fresh : result.bundles = []) :
    Gathered (gatherBundles result).streams (gatherBundles result).bundles := by
  have mids : ∀ bundles, Gathered result.streams bundles → Gathered (gatherBundles result).streams bundles := by
    intro bundles gathered
    cases gathered with
    | none unnamed => exact .none (by simpa [gatherBundles, getMid] using unnamed)
    | one tagged rest named listed => exact .one tagged rest named (by simpa [gatherBundles, getMid] using listed)
  apply mids
  simp only [gatherBundles, fresh]
  exact Library.foldl_prefix_induction gatherBundle [] result.streams Gathered (.none (by simp))
    (fun done stream bundles _ gathered => gatherBundle_gathered gathered stream)

section Verified

variable {localDesc remoteDesc before : SalMediaDescription}

/-- The line at an index has this transport owner in the local and in the remote
description. -/
def Agreed (localDesc remoteDesc : SalMediaDescription) (owner index : Nat) : Prop :=
  localDesc.ownerAt index = some (owner : Int) ∧ remoteDesc.ownerAt index = some (owner : Int)

instance (localDesc remoteDesc : SalMediaDescription) (owner index : Nat) :
    Decidable (Agreed localDesc remoteDesc owner index) := inferInstanceAs (Decidable (_ ∧ _))

/-- A negotiated line that has a mid comes from two lines, and its mid from the
remote one. -/
def Carried (localDesc remoteDesc before : SalMediaDescription) : Prop :=
  ∀ (index : Nat) stream, before.streams[index]? = some stream → stream.getMid ≠ "" →
    ∃ mine theirs, localDesc.streams[index]? = some mine ∧ remoteDesc.streams[index]? = some theirs ∧
      theirs.getMid = stream.getMid

/-- A line whose owner is known is kept when both descriptions agree on it. -/
private theorem verifyBundle_owned {current : SalMediaDescription} {owner index : Nat} {stream : SalStreamDescription}
    {mine theirs : SalStreamDescription} (found : current.streams[index]? = some stream)
    (isMine : localDesc.streams[index]? = some mine) (isTheirs : remoteDesc.streams[index]? = some theirs)
    (owned : current.getIndexOfTransportOwner stream = owner) :
    (verifyBundle localDesc remoteDesc current index).streams[index]? =
      some (if Agreed localDesc remoteDesc owner index then stream else stream.disable) := by
  simp only [verifyBundle, found, isMine, isTheirs, owned, Agreed, SalMediaDescription.ownerAt, Option.map_some,
    Option.some.injEq]
  by_cases agreed : localDesc.getIndexOfTransportOwner mine = owner ∧ remoteDesc.getIndexOfTransportOwner theirs = owner
  · have nonnegative : ¬(owner : Int) < 0 := by omega
    simp [agreed, nonnegative, found]
  · rw [if_pos, if_neg agreed]
    · exact List.getElem?_set_self (List.getElem?_eq_some_iff.mp found).1
    · simp only [not_and_or] at agreed
      simp [agreed]

private theorem verifyBundle_elsewhere {current : SalMediaDescription} {index other : Nat} (elsewhere : index ≠ other) :
    (verifyBundle localDesc remoteDesc current other).streams[index]? = current.streams[index]? := by
  simp only [verifyBundle]
  split
  · split
    · exact List.getElem?_set_ne (Ne.symm elsewhere)
    · rfl
  · rfl

variable {tagged : String} {rest : List String} {owner : Nat}

/-- The loop while the tagged line is kept: a line with a mid is kept exactly
when both descriptions agree on the tagged line as its owner. -/
private structure Upheld (localDesc remoteDesc before : SalMediaDescription) (owner count : Nat)
    (after : SalMediaDescription) : Prop where
  verified : Verified before after count
  handled : ∀ index < count, ∀ stream, before.streams[index]? = some stream → stream.getMid ≠ "" →
    after.streams[index]? = some (if Agreed localDesc remoteDesc owner index then stream else stream.disable)

/-- Disabling a line takes its mid away, and nothing gives a mid to a line. -/
private theorem Verified.mid {after : SalMediaDescription} {count : Nat} (verified : Verified before after count)
    {index : Nat} {stream : SalStreamDescription} (isAfter : after.streams[index]? = some stream)
    (named : stream.getMid ≠ "") : before.streams[index]? = some stream := by
  by_cases handled : index < count
  · rcases verified.handled index handled with same | disabled
    · exact same.symm.trans isAfter
    · rw [isAfter] at disabled
      obtain ⟨original, _, rfl⟩ := Option.map_eq_some_iff.mp disabled.symm
      simp [getMid, SalStreamConfiguration.disable] at named
  · exact (verified.later index (by omega)).symm.trans isAfter

private theorem Upheld.owner_kept {after : SalMediaDescription} {count : Nat} {stream : SalStreamDescription}
    (upheld : Upheld localDesc remoteDesc before owner count after) (isOwner : before.streams[owner]? = some stream)
    (named : stream.getMid = tagged) (nonempty : tagged ≠ "") (agreed : Agreed localDesc remoteDesc owner owner) :
    after.streams[owner]? = some stream := by
  by_cases handled : owner < count
  · rw [upheld.handled owner handled stream isOwner (named ▸ nonempty), if_pos agreed]
  · exact (upheld.verified.later owner (by omega)).trans isOwner

private theorem Upheld.lookup {after : SalMediaDescription} {count : Nat} {stream : SalStreamDescription}
    (upheld : Upheld localDesc remoteDesc before owner count after) (isOwner : before.streams[owner]? = some stream)
    (named : stream.getMid = tagged) (nonempty : tagged ≠ "")
    (first : ∀ index < owner, ∀ other, before.streams[index]? = some other → other.getMid ≠ tagged)
    (agreed : Agreed localDesc remoteDesc owner owner) : after.lookupMid tagged = owner := by
  refine SalMediaDescription.lookupMid_eq (upheld.owner_kept isOwner named nonempty agreed) named ?_
  intro index earlier other isOther same
  have original := upheld.verified.mid isOther (same ▸ nonempty)
  exact first index earlier other original same

/-- The tagged line of the only bundle. -/
private structure TaggedLine (before : SalMediaDescription) (tagged : String) (rest : List String) (owner : Nat) :
    Prop where
  only : before.bundles = [⟨tagged :: rest⟩]
  nonempty : tagged ≠ ""
  listed : ∀ mid, mid ≠ "" → (mid ∈ tagged :: rest ↔ ∃ stream ∈ before.streams, stream.getMid = mid)
  line : ∃ stream, before.streams[owner]? = some stream ∧ stream.getMid = tagged
  first : ∀ index < owner, ∀ other, before.streams[index]? = some other → other.getMid ≠ tagged

/-- The owner of a line that still has its mid. -/
private theorem TaggedLine.owned {after : SalMediaDescription} {count : Nat} {stream : SalStreamDescription}
    (line : TaggedLine before tagged rest owner) (verified : Verified before after count)
    (member : stream ∈ before.streams) (named : stream.getMid ≠ "") :
    after.getIndexOfTransportOwner stream = after.lookupMid tagged := by
  have only : after.bundles = [⟨tagged :: rest⟩] := by
    rw [verified.rest]
    exact line.only
  have listed := (line.listed _ named).mpr ⟨stream, member, rfl⟩
  rw [SalMediaDescription.getIndexOfTransportOwner_listed only named listed, if_neg line.nonempty]

private theorem upheld_step {current : SalMediaDescription} {count : Nat} (line : TaggedLine before tagged rest owner)
    (carried : Carried localDesc remoteDesc before) (agreed : Agreed localDesc remoteDesc owner owner)
    (upheld : Upheld localDesc remoteDesc before owner count current) :
    Upheld localDesc remoteDesc before owner (count + 1) (verifyBundle localDesc remoteDesc current count) := by
  refine ⟨verifyBundle_verified upheld.verified, ?_⟩
  intro index inside stream isStream named
  by_cases earlier : index < count
  · rw [verifyBundle_elsewhere (by omega)]
    exact upheld.handled index earlier stream isStream named
  · obtain rfl : index = count := by omega
    obtain ⟨mine, theirs, isMine, isTheirs, _⟩ := carried index stream isStream named
    obtain ⟨tag, isTag, tagNamed⟩ := line.line
    refine verifyBundle_owned ((upheld.verified.later index (Nat.le_refl _)).trans isStream) isMine isTheirs ?_
    rw [line.owned upheld.verified (List.mem_of_getElem? isStream) named]
    exact upheld.lookup isTag tagNamed line.nonempty line.first agreed

private theorem verifyBundles_upheld (line : TaggedLine before tagged rest owner)
    (carried : Carried localDesc remoteDesc before) (agreed : Agreed localDesc remoteDesc owner owner) :
    Upheld localDesc remoteDesc before owner before.streams.length (verifyBundles localDesc remoteDesc before) :=
  Library.range_foldl_induction _ _ _ (fun count state => Upheld localDesc remoteDesc before owner count state)
    ⟨⟨rfl, rfl, by simp, fun _ _ => rfl⟩, by simp⟩ (fun _ _ _ upheld => upheld_step line carried agreed upheld)

/-- No later line with the tagged mid can be its own transport owner: the remote
description has the same mid on the first one. -/
private theorem not_agreed_later {index : Nat} {stream : SalStreamDescription}
    (line : TaggedLine before tagged rest owner) (carried : Carried localDesc remoteDesc before)
    (isStream : before.streams[index]? = some stream) (named : stream.getMid = tagged) (later : owner < index) :
    ¬Agreed localDesc remoteDesc index index := by
  rintro ⟨_, owns⟩
  obtain ⟨tag, isTag, tagNamed⟩ := line.line
  obtain ⟨_, first, _, isFirst, firstMid⟩ := carried owner tag isTag (tagNamed ▸ line.nonempty)
  obtain ⟨_, second, _, isSecond, secondMid⟩ := carried index stream isStream (named ▸ line.nonempty)
  simp only [SalMediaDescription.ownerAt, isSecond, Option.map_some, Option.some.injEq] at owns
  obtain ⟨mid, looked⟩ := SalMediaDescription.getIndexOfTransportOwner_lookup owns
  obtain ⟨⟨found, isFound, foundMid⟩, unique⟩ := SalMediaDescription.lookupMid_some looked
  obtain rfl : second = found := Option.some.inj (isSecond.symm.trans isFound)
  apply unique owner later first isFirst
  rw [firstMid, tagNamed, ← foundMid, secondMid, named]

/-- The loop once the tagged line is lost: no line keeps the tagged mid. -/
private theorem forfeited_step {current : SalMediaDescription} {count : Nat} (line : TaggedLine before tagged rest owner)
    (carried : Carried localDesc remoteDesc before) (lost : ¬Agreed localDesc remoteDesc owner owner)
    (verified : Verified before current count)
    (forfeited : ∀ index < count, ∀ stream, current.streams[index]? = some stream → stream.getMid ≠ tagged) :
    ∀ index < count + 1, ∀ stream, (verifyBundle localDesc remoteDesc current count).streams[index]? = some stream →
      stream.getMid ≠ tagged := by
  intro index inside stream isStream named
  have next : Verified before (verifyBundle localDesc remoteDesc current count) (count + 1) :=
    verifyBundle_verified verified
  by_cases earlier : index < count
  · rw [verifyBundle_elsewhere (by omega)] at isStream
    exact forfeited index earlier stream isStream named
  · obtain rfl : index = count := by omega
    have original := next.mid isStream (named ▸ line.nonempty)
    have isCurrent := (verified.later index (Nat.le_refl _)).trans original
    obtain ⟨mine, theirs, isMine, isTheirs, _⟩ := carried index stream original (named ▸ line.nonempty)
    have owned : current.getIndexOfTransportOwner stream = index := by
      rw [line.owned verified (List.mem_of_getElem? original) (named ▸ line.nonempty)]
      exact SalMediaDescription.lookupMid_eq isCurrent named forfeited
    have disagreed : ¬Agreed localDesc remoteDesc index index := by
      rcases Nat.lt_trichotomy index owner with before | rfl | later
      · exact absurd named (line.first index before stream original)
      · exact lost
      · exact not_agreed_later line carried original named later
    have disabled := verifyBundle_owned isCurrent isMine isTheirs owned
    rw [if_neg disagreed, isStream] at disabled
    rw [Option.some.inj disabled, getMid, disable_chosen] at named
    exact line.nonempty named.symm

private theorem verifyBundles_forfeited (line : TaggedLine before tagged rest owner)
    (carried : Carried localDesc remoteDesc before) (lost : ¬Agreed localDesc remoteDesc owner owner) :
    ∀ stream ∈ (verifyBundles localDesc remoteDesc before).streams, stream.getMid ≠ tagged := by
  have run := Library.range_foldl_induction (verifyBundle localDesc remoteDesc) before before.streams.length
    (fun count state => Verified before state count ∧
      ∀ index < count, ∀ stream, state.streams[index]? = some stream → stream.getMid ≠ tagged)
    ⟨⟨rfl, rfl, by simp, fun _ _ => rfl⟩, by simp⟩
    (fun _ _ _ holds => ⟨verifyBundle_verified holds.1, forfeited_step line carried lost holds.1 holds.2⟩)
  intro stream member
  obtain ⟨index, found⟩ := List.mem_iff_getElem?.mp member
  have inside := (List.getElem?_eq_some_iff.mp found).1
  rw [(verifyBundles_verified localDesc remoteDesc before).length] at inside
  exact run.2 index inside stream found

private theorem Upheld.agreed {after : SalMediaDescription} {index : Nat} {stream : SalStreamDescription}
    (upheld : Upheld localDesc remoteDesc before owner before.streams.length after)
    (isAfter : after.streams[index]? = some stream) (named : stream.getMid ≠ "") :
    before.streams[index]? = some stream ∧ Agreed localDesc remoteDesc owner index := by
  have original := upheld.verified.mid isAfter named
  refine ⟨original, ?_⟩
  by_contra disagreed
  have handled := upheld.handled index (List.getElem?_eq_some_iff.mp original).1 stream original named
  rw [if_neg disagreed, isAfter] at handled
  rw [Option.some.inj handled, getMid, disable_chosen] at named
  exact named rfl

private theorem Upheld.kept {after : SalMediaDescription} {index : Nat} {stream : SalStreamDescription}
    (upheld : Upheld localDesc remoteDesc before owner before.streams.length after)
    (original : before.streams[index]? = some stream) (named : stream.getMid ≠ "")
    (agreed : Agreed localDesc remoteDesc owner index) : after.streams[index]? = some stream := by
  rw [upheld.handled index (List.getElem?_eq_some_iff.mp original).1 stream original named, if_pos agreed]

/-- Both descriptions have the tagged line of the bundle as the transport owner
of that line and, for each mid of the bundle, of some line with this mid. If any
of these lines is enabled, so is the tagged one. -/
structure AgreedBundle (localDesc remoteDesc before : SalMediaDescription) (bundle : SalStreamBundle) (owner : Nat)
    (tag : SalStreamDescription) : Prop where
  line : before.streams[owner]? = some tag
  tagged : tag.getMid = bundle.getMidOfTransportOwner
  named : tag.getMid ≠ ""
  first : ∀ index < owner, ∀ other, before.streams[index]? = some other → other.getMid ≠ tag.getMid
  agreed : Agreed localDesc remoteDesc owner owner
  listed : ∀ mid ∈ bundle.mids, ∃ (index : Nat) (stream : SalStreamDescription), before.streams[index]? = some stream ∧
    stream.getMid = mid ∧ Agreed localDesc remoteDesc owner index
  usable : ∀ (index : Nat) stream, before.streams[index]? = some stream → stream.getMid ≠ "" →
    Agreed localDesc remoteDesc owner index → stream.enabled = true → tag.enabled = true

/-- The bundles of a description that is about to be verified are all agreed;
when there is none, no enabled line has a mid. -/
def AgreedBundles (localDesc remoteDesc before : SalMediaDescription) : Prop :=
  (before.bundles = [] → ∀ stream ∈ before.streams, stream.enabled = true → stream.getMid = "") ∧
    ∀ bundle ∈ before.bundles, ∃ owner tag, AgreedBundle localDesc remoteDesc before bundle owner tag

/-- Each listed mid is the mid of a stream, and each enabled stream with a mid
has an enabled transport owner. -/
structure BundleCoherent (desc : SalMediaDescription) : Prop where
  listed : ∀ bundle ∈ desc.bundles, ∀ mid ∈ bundle.mids, mid ≠ "" ∧ ∃ stream ∈ desc.streams, stream.getMid = mid
  owned : ∀ stream ∈ desc.streams, stream.enabled = true → stream.getMid ≠ "" →
    ∃ (owner : Nat) (tag : SalStreamDescription), desc.getIndexOfTransportOwner stream = owner ∧
      desc.streams[owner]? = some tag ∧ tag.enabled = true

private theorem coherent_of_agreed {tag : SalStreamDescription} (line : TaggedLine before tagged rest owner)
    (named : "" ∉ rest) (carried : Carried localDesc remoteDesc before)
    (bundle : AgreedBundle localDesc remoteDesc before ⟨tagged :: rest⟩ owner tag) :
    BundleCoherent (verifyBundles localDesc remoteDesc before) := by
  have upheld := verifyBundles_upheld line carried bundle.agreed
  have only : (verifyBundles localDesc remoteDesc before).bundles = [⟨tagged :: rest⟩] := by
    rw [upheld.verified.rest]
    exact line.only
  refine ⟨?_, ?_⟩
  · intro group isGroup mid member
    obtain rfl : group = ⟨tagged :: rest⟩ := by simpa [only] using isGroup
    have nonempty : mid ≠ "" := by
      rintro rfl
      rcases List.mem_cons.mp member with same | inRest
      · exact line.nonempty same.symm
      · exact named inRest
    obtain ⟨index, stream, isStream, isMid, agreed⟩ := bundle.listed mid member
    exact ⟨nonempty, stream, List.mem_of_getElem? (upheld.kept isStream (isMid ▸ nonempty) agreed), isMid⟩
  · intro stream member enabled isNamed
    obtain ⟨index, isStream⟩ := List.mem_iff_getElem?.mp member
    obtain ⟨original, agreed⟩ := upheld.agreed isStream isNamed
    refine ⟨owner, tag, ?_, upheld.kept bundle.line bundle.named bundle.agreed,
      bundle.usable index stream original isNamed agreed enabled⟩
    rw [line.owned upheld.verified (List.mem_of_getElem? original) isNamed]
    exact upheld.lookup bundle.line bundle.tagged line.nonempty line.first bundle.agreed

private theorem agreed_of_coherent (line : TaggedLine before tagged rest owner)
    (carried : Carried localDesc remoteDesc before)
    (coherent : BundleCoherent (verifyBundles localDesc remoteDesc before)) :
    ∃ tag, AgreedBundle localDesc remoteDesc before ⟨tagged :: rest⟩ owner tag := by
  have only : (verifyBundles localDesc remoteDesc before).bundles = [⟨tagged :: rest⟩] := by
    rw [(verifyBundles_verified localDesc remoteDesc before).rest]
    exact line.only
  have agreed : Agreed localDesc remoteDesc owner owner := by
    by_contra lost
    obtain ⟨_, stream, member, named⟩ := coherent.listed ⟨tagged :: rest⟩ (by simp [only]) tagged (by simp)
    exact verifyBundles_forfeited line carried lost stream member named
  have upheld := verifyBundles_upheld line carried agreed
  obtain ⟨tag, isTag, tagMid⟩ := line.line
  refine ⟨tag, isTag, tagMid, tagMid ▸ line.nonempty, tagMid ▸ line.first, agreed, ?_, ?_⟩
  · intro mid member
    obtain ⟨nonempty, stream, isMember, named⟩ := coherent.listed ⟨tagged :: rest⟩ (by simp [only]) mid member
    obtain ⟨index, isStream⟩ := List.mem_iff_getElem?.mp isMember
    obtain ⟨original, agrees⟩ := upheld.agreed isStream (named ▸ nonempty)
    exact ⟨index, stream, original, named, agrees⟩
  · intro index stream original named agrees enabled
    have kept := upheld.kept original named agrees
    obtain ⟨other, ownerStream, isOwner, isStream, isEnabled⟩ :=
      coherent.owned stream (List.mem_of_getElem? kept) enabled named
    rw [line.owned upheld.verified (List.mem_of_getElem? original) named,
      upheld.lookup isTag tagMid line.nonempty line.first agreed] at isOwner
    obtain rfl : owner = other := by omega
    rw [upheld.owner_kept isTag tagMid line.nonempty agreed] at isStream
    rw [Option.some.inj isStream]
    exact isEnabled

/-- Without a bundle on one of the two sides no line with a mid is disabled. -/
private theorem verifyBundles_unbundled (formed : before.bundles = [])
    (oneSided : localDesc.bundles = [] ∨ remoteDesc.bundles = []) :
    ∀ (index : Nat) stream, before.streams[index]? = some stream →
      (verifyBundles localDesc remoteDesc before).streams[index]? = some stream := by
  have unchanged : verifyBundles localDesc remoteDesc before = before := by
    refine Library.range_foldl_induction _ _ _ (fun _ state => state = before) rfl ?_
    rintro index current _ rfl
    simp only [verifyBundle]
    split
    next stream mine theirs _ _ _ =>
      have result := SalMediaDescription.getIndexOfTransportOwner_unbundled stream formed
      rw [if_neg]
      simp only [Bool.or_eq_true, Bool.and_eq_true, decide_eq_true_eq, not_or, not_and, not_le]
      refine ⟨fun known => absurd result (not_lt.mpr known), fun known => ?_⟩
      rcases oneSided with none | none
      · exact absurd known.2 (not_le.mpr (SalMediaDescription.getIndexOfTransportOwner_unbundled mine none))
      · exact SalMediaDescription.getIndexOfTransportOwner_unbundled theirs none
    next => rfl
  rw [unchanged]
  exact fun _ _ found => found

private theorem coherent_unbundled (formed : before.bundles = [])
    (kept : ∀ (index : Nat) stream, before.streams[index]? = some stream → stream.getMid ≠ "" →
      (verifyBundles localDesc remoteDesc before).streams[index]? = some stream) :
    BundleCoherent (verifyBundles localDesc remoteDesc before) ↔ AgreedBundles localDesc remoteDesc before := by
  have verified := verifyBundles_verified localDesc remoteDesc before
  have none : (verifyBundles localDesc remoteDesc before).bundles = [] := by
    rw [verified.rest]
    exact formed
  refine ⟨?_, ?_⟩
  · intro coherent
    refine ⟨fun _ stream member enabled => ?_, by simp [formed]⟩
    by_contra named
    obtain ⟨index, isStream⟩ := List.mem_iff_getElem?.mp member
    obtain ⟨owner, _, owned, _⟩ :=
      coherent.owned stream (List.mem_of_getElem? (kept index stream isStream named)) enabled named
    have negative := SalMediaDescription.getIndexOfTransportOwner_unbundled stream none
    omega
  · intro agreed
    refine ⟨by simp [none], ?_⟩
    intro stream member enabled named
    obtain ⟨index, isStream⟩ := List.mem_iff_getElem?.mp member
    exact absurd (agreed.1 formed stream (List.mem_of_getElem? (verified.mid isStream named)) enabled) named

private theorem taggedLine_exists (only : before.bundles = [⟨tagged :: rest⟩]) (nonempty : tagged ≠ "")
    (listed : ∀ mid, mid ≠ "" → (mid ∈ tagged :: rest ↔ ∃ stream ∈ before.streams, stream.getMid = mid)) :
    ∃ owner, TaggedLine before tagged rest owner := by
  have carrier := (listed tagged nonempty).mp (by simp)
  obtain ⟨owner, looked⟩ := SalMediaDescription.lookupMid_of_mem carrier
  obtain ⟨line, first⟩ := SalMediaDescription.lookupMid_some looked
  exact ⟨owner, only, nonempty, listed, line, first⟩

private theorem coherent_bundled (only : before.bundles = [⟨tagged :: rest⟩]) (named : "" ∉ rest)
    (listed : ∀ mid, mid ≠ "" → (mid ∈ tagged :: rest ↔ ∃ stream ∈ before.streams, stream.getMid = mid))
    (carried : Carried localDesc remoteDesc before) :
    BundleCoherent (verifyBundles localDesc remoteDesc before) ↔ AgreedBundles localDesc remoteDesc before := by
  have kept : (verifyBundles localDesc remoteDesc before).bundles = [⟨tagged :: rest⟩] := by
    rw [(verifyBundles_verified localDesc remoteDesc before).rest]
    exact only
  refine ⟨?_, ?_⟩
  · intro coherent
    have nonempty : tagged ≠ "" := (coherent.listed ⟨tagged :: rest⟩ (by simp [kept]) tagged (by simp)).1
    obtain ⟨owner, line⟩ := taggedLine_exists only nonempty listed
    refine ⟨by simp [only], ?_⟩
    intro bundle isBundle
    obtain rfl : bundle = ⟨tagged :: rest⟩ := by simpa [only] using isBundle
    exact ⟨owner, agreed_of_coherent line carried coherent⟩
  · intro agreed
    obtain ⟨owner, tag, bundle⟩ := agreed.2 ⟨tagged :: rest⟩ (by simp [only])
    have tagMid : tag.getMid = tagged := bundle.tagged
    have line : TaggedLine before tagged rest owner :=
      ⟨only, tagMid ▸ bundle.named, listed, ⟨tag, bundle.line, tagMid⟩, tagMid ▸ bundle.first⟩
    exact coherent_of_agreed line named carried bundle

/-- Verifying the bundles gives a coherent description exactly when the bundles
are agreed beforehand. -/
theorem verifyBundles_coherent_iff (carried : Carried localDesc remoteDesc before)
    (formed : Gathered before.streams before.bundles ∨
      (before.bundles = [] ∧ (localDesc.bundles = [] ∨ remoteDesc.bundles = []))) :
    BundleCoherent (verifyBundles localDesc remoteDesc before) ↔ AgreedBundles localDesc remoteDesc before := by
  rcases formed with gathered | ⟨none, oneSided⟩
  · generalize formed : before.bundles = bundles at gathered
    cases gathered with
    | none unnamed =>
      exact coherent_unbundled formed
        (fun index stream isStream named => absurd (unnamed stream (List.mem_of_getElem? isStream)) named)
    | one tagged rest named listed => exact coherent_bundled formed named listed carried
  · exact coherent_unbundled none
      (fun index stream isStream _ => verifyBundles_unbundled none oneSided index stream isStream)

end Verified

variable (engine : OfferAnswerEngine)

/-- An answered line takes its mid from the offered line it settled on. -/
theorem AnsweredLine.carried {engine} {capabilities : SalMediaDescription} {mine left : Option SalStreamDescription}
    {offered answer remote : SalStreamDescription}
    (how : AnsweredLine engine capabilities mine offered answer left remote) (named : answer.getMid ≠ "") :
    ∃ stream, left = some stream ∧ remote.getMid = answer.getMid := by
  cases how with
  | declined attributes =>
    have chosen : ({ declineStream offered with customSdpAttributes := attributes } :
        SalStreamDescription).getChosenConfiguration = _ := addActualConfiguration_actual _ _
    exact absurd (by rw [getMid, chosen]) named
  | negotiated stream bundleOwnerMid present correspond negotiation same =>
    refine ⟨_, rfl, ?_⟩
    rcases engine.initiateIncomingStream_rule stream offered bundleOwnerMid capabilities.params.capabilityNegotiation
      (fun _ => True) trivial (fun _ _ _ => trivial) with
      ⟨cfg, settled, _, _, settling⟩ | ⟨localStream, remoteStream, _, _, rejected⟩
    · rw [settling] at same
      subst same
      obtain ⟨_, _, chosen⟩ := finishIncomingStream_chosen capabilities stream.customSdpAttributes
        settled.negotiation settled.result_cfgIndex
      rw [settled.result_actual] at chosen
      have answered := congrArg SalStreamConfiguration.mid chosen
      obtain ⟨_, _, stored, _⟩ := settled.remoteAfter_rewritten.stored settled.remoteIdx
      have remoteMid : settled.negotiation.remoteStream.getMid =
          (offered.getConfigurationAtIndex settled.remoteIdx).mid := by
        change (settled.remoteAfter.getConfigurationAtIndex settled.remoteIdx).mid = _
        rw [stored]
      have mid := settled.mid
      split at mid
      · exact remoteMid.trans (mid.symm.trans answered.symm)
      · exact absurd (answered.trans mid) named
    · rw [rejected] at same
      subst same
      obtain ⟨_, _, chosen⟩ := finishIncomingStream_chosen capabilities stream.customSdpAttributes
        ⟨rejectIncomingStream remoteStream (labelledSkeleton stream offered), localStream, remoteStream⟩ rfl
      rw [rejectIncomingStream_actual _ _ rfl (labelledSkeleton_actual ..)] at chosen
      exact absurd (by rw [getMid, chosen]) named

theorem negotiateIncoming_carried (capabilities offer : SalMediaDescription) :
    Carried (engine.negotiateIncoming capabilities offer).localDesc (engine.negotiateIncoming capabilities offer).remoteDesc
      (gatherBundles (engine.negotiateIncoming capabilities offer).result) := by
  intro index stream isStream named
  have progress := engine.negotiateIncoming_progress capabilities offer
  simp only [gatherBundles, List.getElem?_map] at isStream
  obtain ⟨answer, isAnswer, rfl⟩ := Option.map_eq_some_iff.mp isStream
  have inside := (List.getElem?_eq_some_iff.mp isAnswer).1
  rw [progress.answered] at inside
  obtain ⟨line, remote, isLine, isRemote, how⟩ :=
    progress.lines index inside _ (List.getElem?_eq_getElem inside)
  obtain rfl : answer = line := Option.some.inj (isAnswer.symm.trans isLine)
  rw [getMid, touchChosen_chosen] at named ⊢
  obtain ⟨mine, isMine, same⟩ := how.carried named
  exact ⟨mine, remote, isMine, isRemote, same⟩

private theorem finishOutgoingStream_mid {negotiation : StreamNegotiation}
    (fresh : negotiation.result.cfgIndex = actualConfigurationIndex) :
    (finishOutgoingStream negotiation).getMid = negotiation.result.getActualConfiguration.mid := by
  have chosen := @actual_of_fresh (finishOutgoingStream negotiation) fresh
  rw [getMid, ← chosen, finishOutgoingStream, addActualConfiguration_actual]

/-- A line read from an answer takes its mid from it. -/
theorem ReadLine.carried {engine} {offer : SalMediaDescription} {mine theirs result left right : SalStreamDescription}
    (how : ReadLine engine offer mine theirs result left right) (named : result.getMid ≠ "") :
    right.getMid = result.getMid := by
  cases how with
  | mismatched _ => exact absurd (by decide) named
  | negotiated _ negotiation same =>
    rcases engine.initiateOutgoingStream_cases mine theirs offer.params.capabilityNegotiation with
      ⟨cfg, settled, _, settling⟩ | ⟨localStream, result, _, unread, how⟩
    · rw [settling] at same
      subst same
      have read : (finishOutgoingStream settled.negotiation).getMid = cfg.mid := by
        rw [finishOutgoingStream_mid (by rw [settled.result_eq]; rfl), settled.result_actual]
      have mid := settled.accepted.mid
      split at mid
      · exact mid.symm.trans read.symm
      · exact absurd (read.trans mid) named
    · rw [unread] at same
      subst same
      rcases how with rfl | rfl
      · exact absurd (finishOutgoingStream_mid rfl) named
      · exact absurd (finishOutgoingStream_mid rfl) named

theorem negotiateOutgoing_carried (offer answer : SalMediaDescription) :
    Carried (engine.negotiateOutgoing offer answer).localDesc (engine.negotiateOutgoing offer answer).remoteDesc
      (outgoingBundles (engine.negotiateOutgoing offer answer)) := by
  intro index stream isStream named
  have progress := engine.negotiateOutgoing_progress offer answer
  obtain ⟨result, isResult, sameMid⟩ : ∃ result, (engine.negotiateOutgoing offer answer).result.streams[index]? =
      some result ∧ stream.getMid = result.getMid := by
    simp only [outgoingBundles] at isStream
    split at isStream
    · exact ⟨stream, isStream, rfl⟩
    · simp only [gatherBundles, List.getElem?_map] at isStream
      obtain ⟨result, isResult, rfl⟩ := Option.map_eq_some_iff.mp isStream
      exact ⟨result, isResult, by rw [getMid, touchChosen_chosen]; rfl⟩
  have inside := (List.getElem?_eq_some_iff.mp isResult).1
  rw [progress.read] at inside
  obtain ⟨line, left, right, isLine, isLeft, isRight, how⟩ := progress.lines index (by omega) _ _
    (List.getElem?_eq_getElem (by omega)) (List.getElem?_eq_getElem (by omega))
  obtain rfl : result = line := Option.some.inj (isResult.symm.trans isLine)
  rw [sameMid] at named ⊢
  exact ⟨left, right, isLeft, isRight, how.carried named⟩

/-- The result of an offer/answer is coherent exactly when its bundles, as they
are formed from the negotiated lines, are agreed before they are verified. -/
theorem bundles_coherent_iff (localDesc remoteDesc : SalMediaDescription) :
    let incoming := engine.negotiateIncoming localDesc remoteDesc
    let outgoing := engine.negotiateOutgoing localDesc remoteDesc
    (BundleCoherent (engine.initiateIncoming localDesc remoteDesc).result ↔
      AgreedBundles incoming.localDesc incoming.remoteDesc (gatherBundles incoming.result)) ∧
    (BundleCoherent (engine.initiateOutgoing localDesc remoteDesc).result ↔
      AgreedBundles outgoing.localDesc outgoing.remoteDesc (outgoingBundles outgoing)) := by
  intro incoming outgoing
  refine ⟨?_, ?_⟩
  · refine verifyBundles_coherent_iff (engine.negotiateIncoming_carried localDesc remoteDesc) (.inl ?_)
    apply gatherBundles_gathered
    rw [(engine.negotiateIncoming_progress localDesc remoteDesc).session]
    rfl
  · refine verifyBundles_coherent_iff (engine.negotiateOutgoing_carried localDesc remoteDesc) ?_
    have fresh : outgoing.result.bundles = [] := by
      rw [(engine.negotiateOutgoing_progress localDesc remoteDesc).session]
      rfl
    change Gathered (outgoingBundles outgoing).streams (outgoingBundles outgoing).bundles ∨
      ((outgoingBundles outgoing).bundles = [] ∧ (outgoing.localDesc.bundles = [] ∨ outgoing.remoteDesc.bundles = []))
    simp only [outgoingBundles]
    split
    next oneSided => exact .inr ⟨fresh, by simpa using oneSided⟩
    next => exact .inl (gatherBundles_gathered fresh)

/-- Two bundled lines, with one codec each. -/
def bundledLines (first second : String) : SalMediaDescription :=
  let line (mid codec : String) : SalStreamDescription := .ofConfiguration 7078
    { payloads := [{ mimeType := some codec, clockRate := 8000, channels := 1, number := 0 }]
      mid, midRtpExtHeaderId := 1, rtcpMux := true }
  { streams := [line "as" first, line "vs" second], bundles := [⟨["as", "vs"]⟩], acceptBundles := true }

/-- The tagged line of the offer has no common codec: the other line is disabled,
and its mid stays in the group, behind the empty slot of the transport owner. -/
theorem bundles_incoherent_rejected_owner :
    let answer := (OfferAnswerEngine.plain.initiateIncoming (bundledLines "PCMA" "PCMU") (bundledLines "PCMU" "PCMU")).result
    answer.bundles = [⟨["", "vs"]⟩] ∧ answer.streams.map (·.getMid) = ["", ""] ∧ ¬BundleCoherent answer := by
  intro answer
  have bundles : answer.bundles = [⟨["", "vs"]⟩] := by decide
  refine ⟨bundles, by decide, ?_⟩
  intro coherent
  exact (coherent.listed ⟨["", "vs"]⟩ (by rw [bundles]; simp) "" (by simp)).1 rfl

end OfferAnswerEngine
end Liblinphone
