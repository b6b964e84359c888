import Liblinphone.Address
import Liblinphone.Library.Keyed
import Liblinphone.Text
import Mathlib.Data.List.Sort

/-! The search for contacts in the friends, the call logs, the chat rooms and the
conferences. The results of a search are kept, and the next search filters them again
instead of going through the sources. There are no plugins here. -/

namespace Liblinphone

open Library

/-- A friend as the search sees it. Friends are objects, told apart by their identity. -/
structure SearchFriend where
  id : Nat
  name : Text := []
  organization : Text := []
  addresses : List Address := []
  phoneNumbers : List Text := []
  starred : Bool := false
  inList : Bool := true
deriving Repr, DecidableEq

structure SearchFriendList where
  applicationCache : Bool := false
  friends : List SearchFriend
deriving Repr, DecidableEq

structure SearchCallLog where
  wasConference : Bool := false
  incoming : Bool := false
  aborted : Bool := false
  fromAddress : Option Address := none
  toAddress : Option Address := none
deriving Repr, DecidableEq

inductive SearchChatRoom where
  | flexisipChat (participants : List Address)
  | basic (peerAddress : Option Address)
deriving Repr, DecidableEq

structure SearchConference where
  organizer : Option Address := none
  participants : List Address := []
deriving Repr, DecidableEq

/-- What is searched. -/
structure SearchSources where
  friendLists : List SearchFriendList := []
  callLogs : List SearchCallLog := []
  chatRooms : List SearchChatRoom := []
  conferencesInfo : List SearchConference := []
deriving Repr, DecidableEq

/-- What the search asks of others: the matching of regular expressions, the default
account, the presence of friends and the configuration. -/
structure SearchEngine where
  isMatchingRegex : Text → Text → Bool
  normalizePhoneNumber : Text → Option Text := fun _ => none
  presenceContact : SearchFriend → Text → Option Text := fun _ _ => none
  capabilities : SearchFriend → Option Address → Text → Nat := fun _ _ _ => 0
  create : Text → Option Address := fun _ => none
  asString : Address → Text := fun _ => []
  interpretUrl : Text → Option Address := fun _ => none
  returnEmptyFriends : Bool := false

structure SearchResult where
  weight : UInt32
  address : Option Address
  phoneNumber : Text
  friend : Option SearchFriend
  sourceFlags : Nat
  capabilities : Nat
deriving Repr, DecidableEq

inductive MagicSearchAggregation where
  | none
  | friend
deriving Repr, DecidableEq

namespace MagicSearchSource

def friends : Nat := 1
def callLogs : Nat := 2
def chatRooms : Nat := 8
def request : Nat := 16
def favoriteFriends : Nat := 32
def conferencesInfo : Nat := 64

end MagicSearchSource

def lowerText (text : Text) : Text := text.map Char.toLower

def Address.usernameText (address : Address) : Text := (address.username.getD "").toList

namespace SearchResult

variable (engine : SearchEngine)

/-- The capabilities of a friend are those of its presence. -/
def updateCapabilities (result : SearchResult) : SearchResult :=
  match result.friend with
  | some friend => { result with capabilities := engine.capabilities friend result.address result.phoneNumber }
  | none => result

def create (weight : UInt32) (address : Option Address) (phoneNumber : Text) (friend : Option SearchFriend)
    (sourceFlags : Nat) : SearchResult :=
  updateCapabilities engine ⟨weight, address, phoneNumber, friend, sourceFlags, 0⟩

def getDisplayName (result : SearchResult) : Text :=
  let named := (result.friend.map SearchFriend.name).getD []
  if !named.isEmpty then named
  else
    match result.address with
    | some address =>
      if !address.displayName.isEmpty then address.displayName.toList
      else if !address.usernameText.isEmpty then address.usernameText
      else result.phoneNumber
    | none => result.phoneNumber

/-- The other result has an equal address. Friends of a list are preferred. -/
def merge (result other : SearchResult) : SearchResult :=
  let takesPhone := result.phoneNumber.isEmpty
  let takesFriend : Bool :=
    match result.friend, other.friend with
    | none, some _ => true
    | some friend, some added => !friend.inList && added.inList
    | _, none => false
  updateCapabilities engine { result with
    phoneNumber := if takesPhone then other.phoneNumber else result.phoneNumber
    friend := if takesFriend then other.friend else result.friend
    sourceFlags := if takesPhone || takesFriend then result.sourceFlags ||| other.sourceFlags else result.sourceFlags }

/-- Both have no address, or weakly equal ones. -/
def sameAddress (left right : SearchResult) : Bool :=
  match left.address, right.address with
  | none, none => true
  | some address, some other => address.weakEqual other
  | _, _ => false

def compareResults (left right : SearchResult) : Bool :=
  left.sameAddress right && left.capabilities == right.capabilities && left.phoneNumber == right.phoneNumber

end SearchResult

def compareStringItems (left right : Text) : Ordering := compareOfLessAndEq (lowerText left) (lowerText right)

/-- The order of the results: display name, user name, domain, phone number. -/
def resultBefore (left right : SearchResult) : Bool :=
  match compareStringItems left.getDisplayName right.getDisplayName with
  | .eq =>
    match left.address, right.address with
    | some address, some other =>
      match compareStringItems address.usernameText other.usernameText with
      | .eq =>
        match compareStringItems address.domain.toList other.domain.toList with
        | .eq =>
          !left.phoneNumber.isEmpty && !right.phoneNumber.isEmpty &&
            compareStringItems left.phoneNumber right.phoneNumber != .gt
        | order => order == .lt
      | order => order == .lt
    | _, _ => false
  | order => order == .lt

def sortResultsList (results : List SearchResult) : List SearchResult :=
  results.insertionSort fun left right => resultBefore right left = false

def sortResultsByFriendInList (results : List SearchResult) : List SearchResult :=
  results.insertionSort fun left right => compareStringItems right.getDisplayName left.getDisplayName ≠ .lt

/-- What is kept of neighbours that are alike: the first of them. -/
def uniqueAfter (alike : SearchResult → SearchResult → Bool) (kept : SearchResult) : List SearchResult → List SearchResult
  | [] => [kept]
  | next :: rest => if alike kept next then uniqueAfter alike kept rest else kept :: uniqueAfter alike next rest

def unique (alike : SearchResult → SearchResult → Bool) : List SearchResult → List SearchResult
  | [] => []
  | first :: rest => uniqueAfter alike first rest

def uniqueItemsList (results : List SearchResult) : List SearchResult := unique SearchResult.compareResults results

def uniqueFriendsInList (results : List SearchResult) : List SearchResult :=
  unique (fun left right =>
    if left.friend.isNone && right.friend.isNone then left.compareResults right else left.friend == right.friend) results

def findAddress (results : List SearchResult) (address : Address) : Bool :=
  results.any fun result => result.address.any fun other => other.weakEqual address

/-- A new result is merged into one that was there before, if that has its address. -/
def addResult (engine : SearchEngine) (state : List SearchResult × List SearchResult) (result : SearchResult) :
    List SearchResult × List SearchResult :=
  match result.address with
  | some address =>
    let hits (other : SearchResult) := other.address.any fun old => address.weakEqual old
    if state.1.any hits then (updateFirst hits (fun other => other.merge engine result) state.1, state.2)
    else (state.1, state.2 ++ [result])
  | none => (state.1, state.2 ++ [result])

def addResultsToResultsList (engine : SearchEngine) (results resultsList : List SearchResult) : List SearchResult :=
  let added := results.foldl (addResult engine) (resultsList, [])
  added.1 ++ added.2

structure MagicSearch where
  minWeight : UInt32 := 0
  maxWeight : UInt32 := 1000
  searchLimit : Nat := 30
  limitedSearch : Bool := true
  autoResetCache : Bool := true
  filter : Text := []
  filterRegex : Text := []
  filterApplyFullSipUri : Bool := false
  cacheResult : List SearchResult := []
deriving Repr, DecidableEq

namespace MagicSearch

variable (engine : SearchEngine) (search : MagicSearch)

def resetSearchCache : MagicSearch := { search with cacheResult := [] }

def charactersToEscape : Text := ".^$+()[]{}|?*".toList

/-- Special characters are escaped, and a blank stands for anything. -/
def filterPattern (char : Char) : Text :=
  if charactersToEscape.contains char then ['\\', char] else if char = ' ' then ".*".toList else [char]

def setupRegex (filter : Text) : MagicSearch :=
  let pattern := (lowerText filter).flatMap filterPattern
  { search with
    filterRegex := if filter.isEmpty || pattern = ".*".toList then ".*".toList else ".*".toList ++ pattern ++ ".*".toList
    filterApplyFullSipUri :=
      "sip:".toList.isPrefixOf filter || "sips:".toList.isPrefixOf filter || filter.contains '@' }

def getWeight (haystack : Text) : UInt32 :=
  if engine.isMatchingRegex (lowerText haystack) search.filterRegex then search.maxWeight else search.minWeight

/-- The domain of an address that has no friend. -/
def checkDomain (address : Address) (withDomain : Text) : Bool :=
  withDomain.isEmpty || withDomain == "*".toList || withDomain == address.domain.toList

def searchInAddress (address : Option Address) (withDomain : Text) : UInt32 :=
  match address with
  | some address =>
    if checkDomain address withDomain then
      if search.filterApplyFullSipUri && withDomain.isEmpty then search.getWeight engine (engine.asString address)
      else
        let weight :=
          if address.usernameText.isEmpty then search.minWeight else search.getWeight engine address.usernameText
        if address.displayName.isEmpty then weight else weight + search.getWeight engine address.displayName.toList
    else search.minWeight
  | none => search.minWeight

def isSipUri (phoneNumber : Text) : Bool := hasScheme phoneNumber && phoneNumber.contains '@'

section Friends

variable (friend : SearchFriend) (withDomain : Text) (flags : Nat)

/-- The name counts, and the organization when the name does not. -/
def friendWeight : UInt32 :=
  let weight :=
    if friend.name.isEmpty then search.minWeight else search.minWeight + search.getWeight engine friend.name * 3
  if weight = search.minWeight && !friend.organization.isEmpty then
    weight + search.getWeight engine friend.organization * 2
  else weight

def searchFriendAddress (weight : UInt32) (address : Address) : Option SearchResult :=
  let weightAddress := search.searchInAddress engine (some address) withDomain
  if weightAddress > search.minWeight && weightAddress + weight > search.minWeight then
    let phoneNumber := (friend.phoneNumbers.find? fun number => number == address.usernameText).getD []
    some (.create engine (weight + weightAddress) (some address) phoneNumber (some friend) flags)
  else none

def searchFriendNumber (weight : UInt32) (number : Text) : Option SearchResult :=
  let phoneNumber := (engine.normalizePhoneNumber number).getD number
  let weightNumber := search.getWeight engine phoneNumber
  match engine.presenceContact friend phoneNumber with
  | some contact =>
    if contact.isEmpty then none
    else
      match engine.create contact with
      | some address =>
        if checkDomain address withDomain then
          let weightNumber := weightNumber + search.getWeight engine contact * 2
          if weightNumber + weight > search.minWeight then
            some (.create engine (weight + weightNumber) (some address) phoneNumber (some friend) flags)
          else none
        else none
      | none => none
  | none =>
    let address := if isSipUri phoneNumber then engine.create phoneNumber else none
    if weightNumber + weight > search.minWeight &&
        (withDomain.isEmpty || address.any fun address => address.domain.toList == withDomain) then
      some (.create engine (weight + weightNumber) address phoneNumber (some friend) flags)
    else none

/-- A number that is the phone number of a result is not searched again. -/
def addFriendNumber (weight : UInt32) (results : List SearchResult) (number : Text) : List SearchResult :=
  if results.any fun result => result.phoneNumber == number then results
  else results ++ (search.searchFriendNumber engine friend withDomain flags weight number).toList

def searchInFriend : List SearchResult :=
  let weight := search.friendWeight engine friend
  let addressed := friend.addresses.filterMap (search.searchFriendAddress engine friend withDomain flags weight)
  let found := friend.phoneNumbers.foldl (search.addFriendNumber engine friend withDomain flags weight) addressed
  if found.isEmpty && engine.returnEmptyFriends && withDomain.isEmpty && weight > search.minWeight then
    [.create engine weight none [] (some friend) flags]
  else found

end Friends

section Sources

variable (sources : SearchSources) (filter withDomain : Text)

def hasSource (sourceFlags source : Nat) : Bool := sourceFlags &&& source == source

/-- The friends that are searched: all of them, or only the starred ones. -/
def searchedFriends (onlyStarred : Bool) : List SearchFriend :=
  (sources.friendLists.filter fun list => !list.applicationCache).flatMap fun list =>
    list.friends.filter fun friend => !onlyStarred || friend.starred

def friendFlags (friend : SearchFriend) : Nat :=
  if friend.starred then MagicSearchSource.friends ||| MagicSearchSource.favoriteFriends else MagicSearchSource.friends

def getResultsFromFriends (onlyStarred : Bool) : List SearchResult :=
  (searchedFriends sources onlyStarred).flatMap fun friend =>
    search.searchInFriend engine friend withDomain (friendFlags friend)

/-- An address that is not in the results yet. Some are kept whatever they are. -/
def collectAddress (source : Nat) (currentList results : List SearchResult) (candidate : Bool × Address) :
    List SearchResult :=
  let weight := if candidate.1 then 0 else search.searchInAddress engine (some candidate.2) withDomain
  if (candidate.1 || weight > search.minWeight) && !findAddress currentList candidate.2 &&
      !findAddress results candidate.2 then
    results ++ [.create engine weight (some candidate.2) [] none source]
  else results

def collectAddresses (source : Nat) (candidates : List (Bool × Address)) (currentList : List SearchResult) :
    List SearchResult :=
  candidates.foldl (search.collectAddress engine withDomain source currentList) []

def callLogAddress (log : SearchCallLog) : Option Address :=
  if log.wasConference || log.aborted then none else if log.incoming then log.fromAddress else log.toAddress

def callLogCandidates : List (Bool × Address) :=
  (sources.callLogs.filterMap callLogAddress).map fun address => (filter.isEmpty && withDomain.isEmpty, address)

def chatRoomCandidates : List (Bool × Address) :=
  sources.chatRooms.flatMap fun
    | .flexisipChat participants => participants.map fun address => (filter.isEmpty && withDomain.isEmpty, address)
    | .basic peerAddress => peerAddress.toList.map fun address => (filter.isEmpty, address)

def conferenceCandidates : List (Bool × Address) :=
  (sources.conferencesInfo.flatMap fun info => info.organizer.toList ++ info.participants).map fun address =>
    (filter.isEmpty && withDomain.isEmpty, address)

def getAddressFromCallLog (currentList : List SearchResult) : List SearchResult :=
  search.collectAddresses engine withDomain MagicSearchSource.callLogs (callLogCandidates sources filter withDomain)
    currentList

def getAddressFromGroupChatRoomParticipants (currentList : List SearchResult) : List SearchResult :=
  search.collectAddresses engine withDomain MagicSearchSource.chatRooms (chatRoomCandidates sources filter withDomain)
    currentList

def getAddressFromConferencesInfo (currentList : List SearchResult) : List SearchResult :=
  search.collectAddresses engine withDomain MagicSearchSource.conferencesInfo
    (conferenceCandidates sources filter withDomain) currentList

def beginNewSearch (sourceFlags : Nat) : List SearchResult :=
  let checkFriends := hasSource sourceFlags MagicSearchSource.friends
  let results :=
    if checkFriends || hasSource sourceFlags MagicSearchSource.favoriteFriends then
      addResultsToResultsList engine (search.getResultsFromFriends engine sources withDomain !checkFriends) []
    else []
  let results :=
    if hasSource sourceFlags MagicSearchSource.callLogs then
      addResultsToResultsList engine (search.getAddressFromCallLog engine sources filter withDomain results) results
    else results
  let results :=
    if hasSource sourceFlags MagicSearchSource.chatRooms then
      addResultsToResultsList engine
        (search.getAddressFromGroupChatRoomParticipants engine sources filter withDomain results) results
    else results
  if hasSource sourceFlags MagicSearchSource.conferencesInfo then
    addResultsToResultsList engine (search.getAddressFromConferencesInfo engine sources filter withDomain results) results
  else results

end Sources

/-- One result of the cache, with the friend of the last one that had a friend. -/
def continueWith (withDomain : Text) (aggregation : MagicSearchAggregation)
    (state : List SearchResult × Option SearchFriend) (cached : SearchResult) : List SearchResult × Option SearchFriend :=
  if cached.address.isSome || !cached.phoneNumber.isEmpty then
    match cached.friend with
    | some friend =>
      if state.2 = some friend then state
      else
        let results := search.searchInFriend engine friend withDomain cached.sourceFlags
        let resultList :=
          if results.isEmpty then state.1
          else
            match aggregation with
            | .friend => state.1 ++ [cached]
            | .none => addResultsToResultsList engine results state.1
        (resultList, some friend)
    | none =>
      if search.searchInAddress engine cached.address withDomain > search.minWeight then (state.1 ++ [cached], state.2)
      else state
  else state

def continueSearch (withDomain : Text) (aggregation : MagicSearchAggregation) : List SearchResult :=
  (search.cacheResult.foldl (search.continueWith engine withDomain aggregation) ([], none)).1

/-- The results, with the address that the filter itself stands for. -/
def getLastSearch (sourceFlags : Nat) : List SearchResult :=
  let results := if search.limitedSearch then search.cacheResult.take search.searchLimit else search.cacheResult
  if !search.filter.isEmpty && hasSource sourceFlags MagicSearchSource.request then
    match engine.interpretUrl search.filter with
    | some address =>
      if findAddress results address then results
      else results ++ [.create engine 0 (some address) [] none MagicSearchSource.request]
    | none => results
  else results

def processResults (results : List SearchResult) (sourceFlags : Nat) (aggregation : MagicSearchAggregation) :
    MagicSearch × List SearchResult :=
  let sorted :=
    match aggregation with
    | .friend => uniqueFriendsInList (sortResultsByFriendInList results)
    | .none => uniqueItemsList (sortResultsList results)
  let search := { search with cacheResult := sorted }
  (search, search.getLastSearch engine sourceFlags)

def getContactListFromFilter (sources : SearchSources) (filter withDomain : Text) (sourceFlags : Nat)
    (aggregation : MagicSearchAggregation) : MagicSearch × List SearchResult :=
  let search :=
    if search.autoResetCache || search.filter.length > filter.length then search.resetSearchCache else search
  let search := search.setupRegex filter
  let results :=
    if !search.cacheResult.isEmpty && !filter.isEmpty then search.continueSearch engine withDomain aggregation
    else search.beginNewSearch engine sources filter withDomain sourceFlags
  { search with filter, cacheResult := [] }.processResults engine results sourceFlags aggregation

end MagicSearch

end Liblinphone
