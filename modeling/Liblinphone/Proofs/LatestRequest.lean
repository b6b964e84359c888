import Liblinphone.AsyncSearch
import Mathlib.Data.List.Induction

/-! The answer of an asynchronous search is the answer to the latest request, whatever
the order of requests and iterations, and no request is answered twice. The queue holds
the last of the requests made, and nothing is taken from it when it is empty. -/

namespace Liblinphone

namespace AsyncSearch

/-- The expression for a filter. -/
def regexOf (filter : Text) : Text := (({} : MagicSearch).setupRegex filter).filterRegex

/-- The search of one request that waits to begin or for the directories, or one that was cancelled. -/
inductive Running (search : AsyncSearch) : Prop where
  | starting (request : SearchRequest) (state : search.state = .start) (queue : search.asyncData.requests = [request])
  | waiting (request : SearchRequest) (state : search.state = .wait) (queue : search.asyncData.requests = [request])
      (begun : search.asyncData.requestHistory.getLast? = some request)
  | cancelled (first last : SearchRequest) (between : List SearchRequest) (state : search.state = .cancel)
      (queue : search.asyncData.requests = first :: between ++ [last])

theorem popRequests_concat (between : List SearchRequest) (last : SearchRequest) :
    SearchAsyncData.popRequests (between ++ [last]) = [last] := by
  induction between with
  | nil => rfl
  | cons first rest popped =>
    cases rest with
    | nil => rfl
    | cons next others => exact popped

section Requesting

variable (search : AsyncSearch) (request : SearchRequest)

/-- The first request starts the timer, and any other one cancels the search. -/
theorem getContactListFromFilterAsync_cases : ∃ cacheResult, search.getContactListFromFilterAsync request =
    { toMagicSearch := { search.toMagicSearch.setupRegex request.filter with cacheResult }
      state := if search.asyncData.requests = [] then .start else .cancel
      iteration := search.asyncData.requests.isEmpty || search.iteration
      asyncData := { search.asyncData with requests := search.asyncData.requests ++ [request] } } := by
  unfold getContactListFromFilterAsync
  by_cases empty : search.asyncData.requests = []
  · have size : (search.asyncData.pushRequest request).2 = 1 := by rw [SearchAsyncData.pushRequest, empty, List.length_nil]
    have none : (search.asyncData.requests.isEmpty || search.iteration) = true := by rw [empty, List.isEmpty_nil, Bool.true_or]
    dsimp only
    rw [if_pos size, if_pos empty, none]
    split
    · exact ⟨[], rfl⟩
    · exact ⟨search.cacheResult, rfl⟩
  · have size : (search.asyncData.pushRequest request).2 ≠ 1 := by simpa [SearchAsyncData.pushRequest] using empty
    have some : (search.asyncData.requests.isEmpty || search.iteration) = search.iteration := by
      rw [List.isEmpty_eq_false_iff.mpr empty, Bool.false_or]
    dsimp only
    rw [if_neg size, if_neg empty, some]
    exact ⟨search.cacheResult, rfl⟩

theorem getContactListFromFilterAsync_regex :
    (search.getContactListFromFilterAsync request).filterRegex = regexOf request.filter := by
  obtain ⟨cacheResult, made⟩ := search.getContactListFromFilterAsync_cases request
  rw [made]
  rfl

theorem getContactListFromFilterAsync_asyncData :
    (search.getContactListFromFilterAsync request).asyncData =
      { search.asyncData with requests := search.asyncData.requests ++ [request] } := by
  obtain ⟨cacheResult, made⟩ := search.getContactListFromFilterAsync_cases request
  rw [made]

theorem getContactListFromFilterAsync_iteration :
    (search.getContactListFromFilterAsync request).iteration = (search.asyncData.requests.isEmpty || search.iteration) := by
  obtain ⟨cacheResult, made⟩ := search.getContactListFromFilterAsync_cases request
  rw [made]

theorem getContactListFromFilterAsync_running : (search.getContactListFromFilterAsync request).Running := by
  obtain ⟨cacheResult, made⟩ := search.getContactListFromFilterAsync_cases request
  rw [made]
  by_cases empty : search.asyncData.requests = []
  · exact .starting request (by simp [empty]) (by simp [empty])
  · obtain ⟨first, rest, queue⟩ := List.exists_cons_of_ne_nil empty
    exact .cancelled first request rest (by simp [empty]) (by simp [queue])

end Requesting

/-- The search of this request has begun, and no other one was made. -/
structure Begun (search : AsyncSearch) (request : SearchRequest) : Prop where
  queue : search.asyncData.requests = [request]
  history : search.asyncData.requestHistory.getLast? = some request

/-- The filter and the timer are left alone. -/
structure Keeps (before after : AsyncSearch) : Prop where
  regex : after.filterRegex = before.filterRegex
  timer : after.iteration = before.iteration

section Phases

variable {engine : SearchEngine} {search : AsyncSearch} {request : SearchRequest}

theorem getContactListFromFilterStartAsync_keeps (sources : SearchSources) :
    let started := (search.getContactListFromFilterStartAsync engine sources request).1
    started.asyncData.requests = search.asyncData.requests ∧
      started.asyncData.requestHistory = search.asyncData.requestHistory ∧ Keeps search started := by
  unfold getContactListFromFilterStartAsync
  split
  · exact ⟨rfl, rfl, rfl, rfl⟩
  · exact ⟨rfl, rfl, rfl, rfl⟩

theorem startPhase_begins (tick : SearchTick) (state : search.state = .start)
    (queue : search.asyncData.requests = [request]) :
    ∃ started, search.startPhase engine tick = some started ∧ Begun started request ∧ Keeps search started ∧
      (started.state = .send ∨ started.state = .wait) := by
  have current : search.asyncData.getCurrentRequest.getD {} = request := by
    rw [SearchAsyncData.getCurrentRequest, queue, List.head?_cons, Option.getD_some]
  obtain ⟨requests, history, keeps⟩ := @getContactListFromFilterStartAsync_keeps engine search request tick.sources
  have front : (search.getContactListFromFilterStartAsync engine tick.sources request).1.asyncData.requests.head? =
      some request := by
    rw [requests, queue, List.head?_cons]
  unfold startPhase
  rw [if_pos state]
  simp only [current, SearchAsyncData.initStartTime, front, Option.map_some, Option.bind_eq_bind, Option.bind_some,
    Option.pure_def]
  refine ⟨_, rfl, ⟨?_, ?_⟩, ⟨keeps.regex, keeps.timer⟩, ?_⟩
  · rw [requests, queue]
  · exact List.getLast?_concat
  · dsimp only
    split
    · exact .inl rfl
    · exact .inr rfl

theorem startPhase_other (tick : SearchTick) (state : search.state ≠ .start) :
    search.startPhase engine tick = some search := if_neg state

/-- With the directories done the results can be sent. -/
theorem waitPhase_keeps (tick : SearchTick) (begun : Begun search request)
    (state : search.state = .send ∨ search.state = .wait) :
    Begun (search.waitPhase engine tick) request ∧ Keeps search (search.waitPhase engine tick) ∧
      ((search.waitPhase engine tick).state = .send ∨ (search.waitPhase engine tick).state = .wait) := by
  unfold waitPhase
  split
  · exact ⟨⟨begun.queue, begun.history⟩, ⟨rfl, rfl⟩, .inl rfl⟩
  · exact ⟨begun, ⟨rfl, rfl⟩, state⟩

theorem waitPhase_other (tick : SearchTick) (state : search.state ≠ .wait) : search.waitPhase engine tick = search := by
  unfold waitPhase
  rw [if_neg]
  simp [state]

/-- The last of several requests is the next one. -/
theorem nextPhase_pending {first last : SearchRequest} {between : List SearchRequest}
    (queue : search.asyncData.requests = first :: (between ++ [last])) :
    ∃ next, search.nextPhase = some next ∧ next.state = .start ∧ next.asyncData.requests = [last] ∧ Keeps search next := by
  unfold nextPhase
  simp only [SearchAsyncData.isRequestPending, SearchAsyncData.clear, queue, popRequests_concat, List.isEmpty_cons,
    Bool.not_false, if_true, Option.bind_eq_bind, Option.bind_some, Option.pure_def]
  refine ⟨_, rfl, rfl, ?_, ?_, ?_⟩
  · split
    · rfl
    · rfl
  · dsimp only
    split
    · rfl
    · rfl
  · dsimp only
    split
    · rfl
    · rfl

/-- After a single request there is none. -/
theorem nextPhase_done (queue : search.asyncData.requests = [request]) :
    ∃ next, search.nextPhase = some next ∧ next.state = .ended ∧ next.asyncData.requests = [] ∧ Keeps search next := by
  unfold nextPhase
  simp only [SearchAsyncData.isRequestPending, SearchAsyncData.clear, queue, SearchAsyncData.popRequests, List.isEmpty_nil,
    Bool.not_true, Option.bind_eq_bind, Option.bind_some, Option.pure_def]
  exact ⟨_, rfl, rfl, rfl, rfl, rfl⟩

end Phases

/-- The expression after requests were made: that of the last one. -/
def regexAfter (regex : Text) (made : List SearchRequest) : Text :=
  (made.getLast?.map fun last => regexOf last.filter).getD regex

/-- Requests that the listener makes are queued behind the one it is notified of. -/
theorem foldl_requests (callback : List SearchRequest) (search : AsyncSearch) (filled : search.asyncData.requests ≠ []) :
    (callback.foldl getContactListFromFilterAsync search).asyncData.requests = search.asyncData.requests ++ callback ∧
      (callback.foldl getContactListFromFilterAsync search).iteration = search.iteration ∧
      (callback.foldl getContactListFromFilterAsync search).filterRegex = regexAfter search.filterRegex callback := by
  induction callback using List.reverseRecOn with
  | nil => exact ⟨(List.append_nil _).symm, rfl, rfl⟩
  | append_singleton before request earlier =>
    obtain ⟨queue, timer, -⟩ := earlier
    rw [List.foldl_concat]
    refine ⟨?_, ?_, ?_⟩
    · rw [getContactListFromFilterAsync_asyncData, queue, List.append_assoc]
    · have some : (search.asyncData.requests ++ before).isEmpty = false := by simp [filled]
      rw [getContactListFromFilterAsync_iteration, queue, timer, some, Bool.false_or]
    · rw [getContactListFromFilterAsync_regex, regexAfter, List.getLast?_concat]
      rfl

/-- What one run of the timer does to a search that is running. -/
inductive Outcome (search : AsyncSearch) (tick : SearchTick) : AsyncSearch × Bool × Option AsyncSearch → Prop where
  | quiet (after : AsyncSearch) (popped : List SearchRequest)
      (queue : search.asyncData.requests = popped ++ after.asyncData.requests) (running : after.Running)
      (keeps : Keeps search after) : Outcome search tick (after, true, none)
  | notified (after seen : AsyncSearch) (request : SearchRequest) (popped : List SearchRequest)
      (begun : Begun seen request) (single : search.asyncData.requests = [request])
      (regex : seen.filterRegex = search.filterRegex)
      (queue : tick.callback = popped ++ after.asyncData.requests)
      (running : after.asyncData.requests ≠ [] → after.Running)
      (latest : after.filterRegex = regexAfter search.filterRegex tick.callback)
      (timer : after.iteration = !after.asyncData.requests.isEmpty) :
      Outcome search tick (after, after.iteration, some seen)

section Iterate

variable {engine : SearchEngine} {search : AsyncSearch} {request : SearchRequest}

theorem Running.queue_ne_nil (running : search.Running) : search.asyncData.requests ≠ [] := by
  cases running with
  | starting request state queue => simp [queue]
  | waiting request state queue begun => simp [queue]
  | cancelled first last between state queue => simp [queue]

theorem endPhase_running (continueLoop : Bool) (running : search.Running) :
    search.endPhase continueLoop = (search, continueLoop) := by
  have going : search.state ≠ .ended := by
    cases running with
    | starting request state queue => simp [state]
    | waiting request state queue begun => simp [state]
    | cancelled first last between state queue => simp [state]
  unfold endPhase
  rw [if_neg]
  simp [going]

theorem endPhase_ended (continueLoop : Bool) (state : search.state = .ended) (timer : search.iteration = true) :
    search.endPhase continueLoop = ({ search with iteration := false }, false) := by
  unfold endPhase
  rw [if_pos]
  simp [state, timer]

/-- The listener is notified of a search that has begun. -/
theorem send_outcome (tick : SearchTick) {begin : AsyncSearch} (begun : Begun begin request)
    (state : begin.state = .send) (keeps : Keeps search begin)
    (single : search.asyncData.requests = [request]) (timer : search.iteration = true) :
    ∃ sent seen, begin.sendPhase engine tick = some (sent, seen) ∧
      Outcome search tick ((sent.endPhase true).1, (sent.endPhase true).2, seen) := by
  have seen : Begun (begin.notifyPhase engine) request := ⟨begun.queue, begun.history⟩
  have regexSeen : (begin.notifyPhase engine).filterRegex = search.filterRegex := keeps.regex
  have timerSeen : (begin.notifyPhase engine).iteration = true := keeps.timer.trans timer
  obtain ⟨queue, iteration, regex⟩ := foldl_requests tick.callback (begin.notifyPhase engine) (by simp [seen.queue])
  rw [seen.queue] at queue
  rw [timerSeen] at iteration
  rw [regexSeen] at regex
  unfold sendPhase
  simp only [state]
  generalize tick.callback.foldl getContactListFromFilterAsync (begin.notifyPhase engine) = made at queue iteration regex ⊢
  rcases List.eq_nil_or_concat tick.callback with none | ⟨between, last, some⟩
  · rw [none, List.append_nil] at queue
    obtain ⟨next, found, ended, empty, kept⟩ := nextPhase_done queue
    refine ⟨next, _, by rw [found]; rfl, ?_⟩
    rw [endPhase_ended true ended (kept.timer.trans iteration)]
    exact .notified _ _ request [] seen single regexSeen (by rw [none, empty, List.append_nil]) (fun filled => absurd empty filled)
      (kept.regex.trans regex) (by simp [empty])
  · rw [List.concat_eq_append] at some
    rw [some, List.singleton_append] at queue
    obtain ⟨next, found, start, queued, kept⟩ := nextPhase_pending queue
    have running : next.Running := .starting last start queued
    refine ⟨next, _, by rw [found]; rfl, ?_⟩
    rw [endPhase_running true running]
    have going : next.iteration = true := kept.timer.trans iteration
    have outcome := Outcome.notified next (begin.notifyPhase engine) request between seen single regexSeen
      (by rw [some, queued]) (fun _ => running) (kept.regex.trans regex) (by rw [going, queued]; rfl)
    rwa [going] at outcome

/-- The rest of an iteration whose search has begun: the listener is notified, or it waits on. -/
theorem begun_outcome (tick : SearchTick) {begin : AsyncSearch} (begun : Begun begin request)
    (state : begin.state = .send ∨ begin.state = .wait) (keeps : Keeps search begin)
    (single : search.asyncData.requests = [request]) (timer : search.iteration = true) :
    ∃ sent seen, (begin.waitPhase engine tick).sendPhase engine tick = some (sent, seen) ∧
      Outcome search tick ((sent.endPhase true).1, (sent.endPhase true).2, seen) := by
  obtain ⟨waited, kept, afterState⟩ := @waitPhase_keeps engine begin request tick begun state
  have both : Keeps search (begin.waitPhase engine tick) := ⟨kept.regex.trans keeps.regex, kept.timer.trans keeps.timer⟩
  rcases afterState with send | wait
  · exact send_outcome tick waited send both single timer
  · refine ⟨begin.waitPhase engine tick, none, ?_, ?_⟩
    · unfold sendPhase
      simp only [wait]
    · have running : (begin.waitPhase engine tick).Running := .waiting request wait waited.queue waited.history
      rw [endPhase_running true running]
      exact .quiet _ [] (by rw [single, waited.queue, List.nil_append]) running both

/-- A search that is running never takes a request from an empty queue. -/
theorem iterate_outcome (tick : SearchTick) (running : search.Running) (timer : search.iteration = true) :
    ∃ result, search.iterate engine tick = some result ∧ Outcome search tick result := by
  have current : search.asyncData.getCurrentRequest.isSome = true := by
    rw [SearchAsyncData.getCurrentRequest, List.isSome_head?]
    simpa using running.queue_ne_nil
  have assembled : ∀ {begin sent : AsyncSearch} {seen : Option AsyncSearch}, search.startPhase engine tick = some begin →
      (begin.waitPhase engine tick).sendPhase engine tick = some (sent, seen) →
      search.iterate engine tick = some ((sent.endPhase true).1, (sent.endPhase true).2, seen) := by
    intro begin sent seen started sending
    simp only [iterate, started, sending, current, Option.bind_eq_bind, Option.bind_some, Option.pure_def]
  cases running with
  | starting request state queue =>
    obtain ⟨begin, started, begun, keeps, beginState⟩ := @startPhase_begins engine search request tick state queue
    obtain ⟨sent, seen, sending, outcome⟩ := begun_outcome tick begun beginState keeps queue timer
    exact ⟨_, assembled started sending, outcome⟩
  | waiting request state queue begun =>
    have started := @startPhase_other engine search tick (by simp [state])
    obtain ⟨sent, seen, sending, outcome⟩ := begun_outcome tick ⟨queue, begun⟩ (.inr state) ⟨rfl, rfl⟩ queue timer
    exact ⟨_, assembled started sending, outcome⟩
  | cancelled first last between state queue =>
    have started := @startPhase_other engine search tick (by simp [state])
    obtain ⟨next, found, start, queued, kept⟩ := nextPhase_pending queue
    have sending : (search.waitPhase engine tick).sendPhase engine tick = some (next, none) := by
      rw [waitPhase_other tick (by simp [state]), sendPhase]
      simp only [state, found, Option.bind_eq_bind, Option.bind_some, Option.pure_def]
    have after : next.Running := .starting last start queued
    refine ⟨_, assembled started sending, ?_⟩
    rw [endPhase_running true after]
    exact .quiet next (first :: between) (by rw [queue, queued]) after kept

end Iterate

/-- A request or a run of the timer. -/
inductive SearchEvent where
  | request (request : SearchRequest)
  | tick (tick : SearchTick)

/-- What is known when the listener is notified: the requests made until then, which of
them is at the front of the queue, and the search as it is. -/
structure SearchNotification where
  made : List SearchRequest
  serial : Nat
  seen : AsyncSearch

/-- A search, with the requests made and the notifications raised so far. -/
structure Observed where
  search : AsyncSearch
  made : List SearchRequest := []
  notifications : List SearchNotification := []

/-- The timer only runs as long as there is one. -/
def observe (engine : SearchEngine) (observed : Observed) : SearchEvent → Option Observed
  | .request request => some { observed with
      search := observed.search.getContactListFromFilterAsync request
      made := observed.made ++ [request] }
  | .tick tick =>
    if observed.search.iteration then do
      let (search, _, notified) ← observed.search.iterate engine tick
      return {
        search
        made := if notified.isSome then observed.made ++ tick.callback else observed.made
        notifications := observed.notifications ++ notified.toList.map fun seen =>
          { made := observed.made, serial := observed.made.length - observed.search.asyncData.requests.length, seen } }
    else some observed

/-- A run from the beginning, with any settings. -/
def observeAll (engine : SearchEngine) (settings : MagicSearch) (events : List SearchEvent) : Option Observed :=
  events.foldlM (observe engine) { search := { toMagicSearch := settings } }

/-- The request that was processed is the last one made, its search was the last to begin,
and the expression is built from its filter. -/
def AnswersLatest (notification : SearchNotification) : Prop :=
  ∃ request, notification.made.getLast? = some request ∧ notification.serial + 1 = notification.made.length ∧
    notification.seen.asyncData.requests = [request] ∧
    notification.seen.asyncData.requestHistory.getLast? = some request ∧
    notification.seen.filterRegex = regexOf request.filter

/-- What holds between the events: the queue is the end of the requests made, the timer
runs while the queue is filled, and the notifications were about requests no longer queued. -/
structure Consistent (observed : Observed) : Prop where
  queue : ∃ answered, observed.made = answered ++ observed.search.asyncData.requests
  timer : observed.search.iteration = !observed.search.asyncData.requests.isEmpty
  running : observed.search.asyncData.requests ≠ [] → observed.search.Running
  regex : ∀ request, observed.made.getLast? = some request → observed.search.filterRegex = regexOf request.filter
  latest : ∀ notification ∈ observed.notifications, AnswersLatest notification
  past : ∀ notification ∈ observed.notifications,
    notification.serial + observed.search.asyncData.requests.length < observed.made.length
  once : observed.notifications.Pairwise fun earlier later => earlier.serial < later.serial

section Runs

variable {engine : SearchEngine} {observed : Observed}

theorem Consistent.request (consistent : Consistent observed) (request : SearchRequest) :
    ∃ after, observe engine observed (.request request) = some after ∧ Consistent after := by
  refine ⟨_, rfl, ?_⟩
  have queued := observed.search.getContactListFromFilterAsync_asyncData request
  obtain ⟨answered, made⟩ := consistent.queue
  refine ⟨⟨answered, ?_⟩, ?_, ?_, ?_, consistent.latest, ?_, consistent.once⟩
  · rw [queued, made, List.append_assoc]
  · rw [getContactListFromFilterAsync_iteration, queued, consistent.timer]
    simp
  · intro filled
    exact observed.search.getContactListFromFilterAsync_running request
  · intro last ended
    rw [List.getLast?_concat] at ended
    rw [getContactListFromFilterAsync_regex, Option.some.inj ended]
  · intro notification member
    have before := consistent.past notification member
    rw [queued]
    simp only [List.length_append, List.length_singleton]
    omega

theorem getLast?_after {made callback : List SearchRequest} {regex : Text}
    (held : ∀ request, made.getLast? = some request → regex = regexOf request.filter) :
    ∀ request, (made ++ callback).getLast? = some request → regexAfter regex callback = regexOf request.filter := by
  intro request ended
  rcases List.eq_nil_or_concat callback with none | ⟨between, last, some⟩
  · rw [none, List.append_nil] at ended
    rw [none]
    exact held request ended
  · rw [List.concat_eq_append] at some
    rw [some, ← List.append_assoc, List.getLast?_concat] at ended
    rw [some, regexAfter, List.getLast?_concat, Option.some.inj ended]
    rfl

section Tick

variable {tick : SearchTick} {after : AsyncSearch} {continueLoop : Bool} (timer : observed.search.iteration = true)
include timer

theorem observe_quiet (iterated : observed.search.iterate engine tick = some (after, continueLoop, none)) :
    observe engine observed (.tick tick) = some { observed with search := after } := by
  simp [observe, timer, iterated]

theorem observe_notified {seen : AsyncSearch}
    (iterated : observed.search.iterate engine tick = some (after, continueLoop, some seen)) :
    observe engine observed (.tick tick) = some {
      search := after
      made := observed.made ++ tick.callback
      notifications := observed.notifications ++
        [{ made := observed.made, serial := observed.made.length - observed.search.asyncData.requests.length, seen }] } := by
  simp [observe, timer, iterated]

end Tick

/-- A run of the timer without notification takes requests from the front. -/
theorem Consistent.quiet (consistent : Consistent observed) {after : AsyncSearch} {popped : List SearchRequest}
    (queue : observed.search.asyncData.requests = popped ++ after.asyncData.requests) (running : after.Running)
    (keeps : Keeps observed.search after) (timer : observed.search.iteration = true) :
    Consistent { observed with search := after } := by
  obtain ⟨answered, made⟩ := consistent.queue
  refine ⟨⟨answered ++ popped, ?_⟩, ?_, fun _ => running, ?_, consistent.latest, ?_, consistent.once⟩
  · dsimp only
    rw [made, queue, List.append_assoc]
  · have filled : after.asyncData.requests.isEmpty = false := List.isEmpty_eq_false_iff.mpr running.queue_ne_nil
    dsimp only
    rw [keeps.timer, timer, filled]
    rfl
  · intro request ended
    exact keeps.regex.trans (consistent.regex request ended)
  · intro notification member
    have before := consistent.past notification member
    rw [queue, List.length_append] at before
    dsimp only
    omega

/-- A notification is about the only request in the queue, which is then taken from it. -/
theorem Consistent.notified (consistent : Consistent observed) {tick : SearchTick} {after seen : AsyncSearch}
    {request : SearchRequest} {popped : List SearchRequest} (begun : Begun seen request)
    (single : observed.search.asyncData.requests = [request]) (regex : seen.filterRegex = observed.search.filterRegex)
    (queue : tick.callback = popped ++ after.asyncData.requests)
    (running : after.asyncData.requests ≠ [] → after.Running)
    (latest : after.filterRegex = regexAfter observed.search.filterRegex tick.callback)
    (timer : after.iteration = !after.asyncData.requests.isEmpty) :
    Consistent {
      search := after
      made := observed.made ++ tick.callback
      notifications := observed.notifications ++
        [{ made := observed.made, serial := observed.made.length - observed.search.asyncData.requests.length, seen }] } := by
  obtain ⟨answered, made⟩ := consistent.queue
  rw [single] at made
  have count : observed.made.length = answered.length + 1 := by rw [made, List.length_append, List.length_singleton]
  have last : observed.made.getLast? = some request := by rw [made, List.getLast?_concat]
  have serial : observed.made.length - observed.search.asyncData.requests.length = answered.length := by
    rw [single, List.length_singleton]
    omega
  have longer : (observed.made ++ tick.callback).length = answered.length + 1 + popped.length + after.asyncData.requests.length := by
    rw [List.length_append, count, queue, List.length_append]
    omega
  refine ⟨⟨answered ++ [request] ++ popped, ?_⟩, timer, running, ?_, ?_, ?_, ?_⟩
  · dsimp only
    rw [made, queue, List.append_assoc, List.append_assoc, List.append_assoc]
  · intro next ended
    dsimp only
    rw [latest]
    exact getLast?_after consistent.regex next ended
  · intro notification member
    rcases List.mem_append.mp member with before | now
    · exact consistent.latest notification before
    · obtain rfl := List.mem_singleton.mp now
      refine ⟨request, last, ?_, begun.queue, begun.history, ?_⟩
      · dsimp only
        rw [serial, count]
      · exact regex.trans (consistent.regex request last)
  · intro notification member
    rcases List.mem_append.mp member with before | now
    · have bound := consistent.past notification before
      rw [single, List.length_singleton] at bound
      dsimp only
      omega
    · obtain rfl := List.mem_singleton.mp now
      dsimp only
      omega
  · refine List.pairwise_append.mpr ⟨consistent.once, List.pairwise_singleton _ _, ?_⟩
    intro earlier before later now
    obtain rfl := List.mem_singleton.mp now
    have bound := consistent.past earlier before
    rw [single, List.length_singleton] at bound
    dsimp only
    omega

theorem Consistent.tick (consistent : Consistent observed) (tick : SearchTick) :
    ∃ after, observe engine observed (.tick tick) = some after ∧ Consistent after := by
  by_cases timer : observed.search.iteration = true
  · have filled : observed.search.asyncData.requests ≠ [] := by
      have runs := consistent.timer
      rw [timer] at runs
      intro empty
      simp [empty] at runs
    obtain ⟨result, iterated, outcome⟩ := @iterate_outcome engine observed.search tick (consistent.running filled) timer
    cases outcome with
    | quiet after popped queue running keeps =>
      exact ⟨_, observe_quiet timer iterated, consistent.quiet queue running keeps timer⟩
    | notified after seen request popped begun single regex queue running latest timerAfter =>
      exact ⟨_, observe_notified timer iterated,
        consistent.notified begun single regex queue running latest timerAfter⟩
  · refine ⟨observed, ?_, consistent⟩
    simp [observe, timer]

/-- Every event can be handled, and leaves the search consistent. -/
theorem Consistent.event (consistent : Consistent observed) (event : SearchEvent) :
    ∃ after, observe engine observed event = some after ∧ Consistent after := by
  cases event with
  | request request => exact consistent.request request
  | tick tick => exact consistent.tick tick

theorem Consistent.run (consistent : Consistent observed) (events : List SearchEvent) :
    ∃ after, events.foldlM (observe engine) observed = some after ∧ Consistent after := by
  induction events generalizing observed with
  | nil => exact ⟨observed, rfl, consistent⟩
  | cons event rest following =>
    obtain ⟨next, handled, kept⟩ := @Consistent.event engine observed consistent event
    obtain ⟨after, reached, final⟩ := following kept
    refine ⟨after, ?_, final⟩
    rw [List.foldlM_cons, handled]
    exact reached

theorem consistent_initial (settings : MagicSearch) : Consistent { search := { toMagicSearch := settings } } where
  queue := ⟨[], rfl⟩
  timer := rfl
  running := fun filled => absurd rfl filled
  regex := fun _ ended => by cases ended
  latest := fun _ member => by cases member
  past := fun _ member => by cases member
  once := List.Pairwise.nil

end Runs

/-- A second request before the timer runs: the first one is given up, and the second one is answered. -/
example :
    (observeAll { isMatchingRegex := fun _ _ => true } {}
      [.request { filter := "al".toList }, .request { filter := "ali".toList }, .tick {}, .tick {}, .tick {}]).map
        (fun observed => observed.notifications.map SearchNotification.serial) = some [1] := by
  decide

end AsyncSearch

end Liblinphone
