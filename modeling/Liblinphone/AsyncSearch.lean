import Liblinphone.MagicSearch

/-! The asynchronous search. Requests are queued, and a timer runs the iteration that
searches for the first one. A request that comes in meanwhile cancels the search. -/

namespace Liblinphone

structure SearchRequest where
  filter : Text := []
  withDomain : Text := []
  sourceFlags : Nat := 0
  aggregation : MagicSearchAggregation := .none
deriving Repr, DecidableEq

structure SearchAsyncData where
  searchResults : List SearchResult := []
  searchRequest : SearchRequest := {}
  requests : List SearchRequest := []
  requestHistory : List SearchRequest := []
deriving Repr, DecidableEq

namespace SearchAsyncData

variable (data : SearchAsyncData)

def getCurrentRequest : Option SearchRequest := data.requests.head?

/-- The loop goes on while there is more than one request. -/
def popRequests : List SearchRequest → List SearchRequest
  | [] => []
  | [last] => [last]
  | _ :: next :: rest => popRequests (next :: rest)

/-- A request is popped before anything is tested, and there has to be one. -/
def isRequestPending : Option (SearchAsyncData × Bool) :=
  match data.requests with
  | [] => none
  | _ :: rest => some ({ data with requests := popRequests rest }, !(popRequests rest).isEmpty)

/-- The size is the one with the new request. -/
def pushRequest (request : SearchRequest) : SearchAsyncData × Nat :=
  ({ data with requests := data.requests ++ [request] }, data.requests.length + 1)

/-- The front of the queue is read, and there has to be one. -/
def initStartTime : Option SearchAsyncData :=
  data.requests.head?.map fun request => { data with requestHistory := data.requestHistory ++ [request] }

def clear : SearchAsyncData := { data with searchResults := [] }

end SearchAsyncData

inductive SearchState where
  | start | wait | send | ended | cancel
deriving Repr, DecidableEq

/-- A remote directory, as it is when it is asked. -/
structure SearchPlugin where
  hasEnded : Bool
  timedOut : Bool
  results : List SearchResult := []
deriving Repr, DecidableEq

/-- What an iteration finds: the sources, the remote directories, and the requests that
the listener makes when it is notified. -/
structure SearchTick where
  sources : SearchSources := {}
  plugins : List SearchPlugin := []
  callback : List SearchRequest := []
deriving Repr, DecidableEq

structure AsyncSearch extends MagicSearch where
  state : SearchState := .start
  iteration : Bool := false
  asyncData : SearchAsyncData := {}
deriving Repr, DecidableEq

namespace AsyncSearch

variable (engine : SearchEngine) (search : AsyncSearch)

def resetSearchCache : AsyncSearch := { search with toMagicSearch := search.toMagicSearch.resetSearchCache }

def getContactListFromFilterAsync (request : SearchRequest) : AsyncSearch :=
  let search := { search with toMagicSearch := search.toMagicSearch.setupRegex request.filter }
  let pushed := search.asyncData.pushRequest request
  let search := { search with asyncData := pushed.1 }
  if pushed.2 = 1 then
    let search :=
      if search.autoResetCache || search.filter.length > request.filter.length then search.resetSearchCache else search
    { search with state := .start, iteration := true }
  else { search with state := .cancel }

/-- The sources do not see the results of one another. -/
def beginNewSearchAsync (sources : SearchSources) (request : SearchRequest) : AsyncSearch :=
  let found := search.toMagicSearch
  let checkFriends := MagicSearch.hasSource request.sourceFlags MagicSearchSource.friends
  let results :=
    if checkFriends || MagicSearch.hasSource request.sourceFlags MagicSearchSource.favoriteFriends then
      addResultsToResultsList engine (found.getResultsFromFriends engine sources request.withDomain !checkFriends) []
    else []
  let results :=
    if MagicSearch.hasSource request.sourceFlags MagicSearchSource.callLogs then
      addResultsToResultsList engine (found.getAddressFromCallLog engine sources request.filter request.withDomain []) results
    else results
  let results :=
    if MagicSearch.hasSource request.sourceFlags MagicSearchSource.chatRooms then
      addResultsToResultsList engine
        (found.getAddressFromGroupChatRoomParticipants engine sources request.filter request.withDomain []) results
    else results
  let results :=
    if MagicSearch.hasSource request.sourceFlags MagicSearchSource.conferencesInfo then
      addResultsToResultsList engine
        (found.getAddressFromConferencesInfo engine sources request.filter request.withDomain []) results
    else results
  { search with asyncData := { search.asyncData with searchRequest := request, searchResults := results } }

/-- The cache is searched when there is one, and then the results are there at once. -/
def getContactListFromFilterStartAsync (sources : SearchSources) (request : SearchRequest) : AsyncSearch × Bool :=
  if !search.cacheResult.isEmpty && !request.filter.isEmpty then
    let returnList := search.toMagicSearch.continueSearch engine request.withDomain request.aggregation
    ({ search with
      toMagicSearch := { search.toMagicSearch.resetSearchCache with filter := request.filter }
      asyncData := { search.asyncData with searchResults := returnList } }, true)
  else
    let begun := search.beginNewSearchAsync engine sources request
    ({ begun with filter := request.filter }, false)

def arePluginsProcessingDone (plugins : List SearchPlugin) : Bool :=
  plugins.all fun plugin => plugin.hasEnded || plugin.timedOut

def mergeResults (plugins : List SearchPlugin) : AsyncSearch :=
  let results := plugins.foldl (fun results plugin =>
    if plugin.results.isEmpty then results else addResultsToResultsList engine plugin.results results)
      search.asyncData.searchResults
  { search with asyncData := { search.asyncData with searchResults := results } }

def startPhase (tick : SearchTick) : Option AsyncSearch :=
  if search.state = .start then do
    let request := search.asyncData.getCurrentRequest.getD {}
    let (started, resultsFromCache) := search.getContactListFromFilterStartAsync engine tick.sources request
    let asyncData ← started.asyncData.initStartTime
    return { started with state := if resultsFromCache then .send else .wait, asyncData }
  else some search

def waitPhase (tick : SearchTick) : AsyncSearch :=
  if search.state = .wait && arePluginsProcessingDone tick.plugins then
    { search.mergeResults engine tick.plugins with state := .send }
  else search

/-- The results as the listener finds them when it is notified. -/
def notifyPhase : AsyncSearch :=
  { search with toMagicSearch := (search.toMagicSearch.processResults engine search.asyncData.searchResults
      search.asyncData.searchRequest.sourceFlags search.asyncData.searchRequest.aggregation).1 }

/-- The search that is over makes place for the last request. -/
def nextPhase : Option AsyncSearch := do
  let (asyncData, pending) ← search.asyncData.clear.isRequestPending
  let search := { search with asyncData }
  if pending then
    let search := if search.autoResetCache then search.resetSearchCache else search
    return { search with state := .start }
  else return { search with state := .ended }

/-- The second component is the search at the moment of the notification, if there is one. -/
def sendPhase (tick : SearchTick) : Option (AsyncSearch × Option AsyncSearch) :=
  match search.state with
  | .send => do
    let notified := search.notifyPhase engine
    let next ← (tick.callback.foldl getContactListFromFilterAsync notified).nextPhase
    return (next, some notified)
  | .cancel => do
    let next ← search.nextPhase
    return (next, none)
  | _ => some (search, none)

/-- At the end the timer goes. -/
def endPhase (continueLoop : Bool) : AsyncSearch × Bool :=
  if search.state = .ended && search.iteration then ({ search with iteration := false }, false) else (search, continueLoop)

/-- One run of the timer, with whether it goes on. It fails where the front of an empty
queue would be read or popped. -/
def iterate (tick : SearchTick) : Option (AsyncSearch × Bool × Option AsyncSearch) := do
  let continueLoop := search.asyncData.getCurrentRequest.isSome
  let started ← search.startPhase engine tick
  let (sent, notified) ← (started.waitPhase engine tick).sendPhase engine tick
  let (ended, continueLoop) := sent.endPhase continueLoop
  return (ended, continueLoop, notified)

end AsyncSearch

end Liblinphone
