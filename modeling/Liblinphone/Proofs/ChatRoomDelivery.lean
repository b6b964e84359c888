import Liblinphone.Proofs.ChatRoomCalls

/-! What becomes of the messages that a room accepts. Each one is queued once for every device but
its sender's, and is sent in its turn or still waits. -/

namespace Liblinphone.ServerChatRoom

open Library

section Definitions

variable (server : ChatServer) (uri : Text)

def messageFor : ChatRoomOutput → Option ServerMessage
  | .message device message => if server.toText device = uri then some message else none
  | _ => none

/-- The messages for the devices of a text: those that were sent, and then those that wait. -/
def account (room : ServerChatRoom) : List ServerMessage :=
  room.outputs.filterMap (messageFor server uri) ++ room.queuedMessages uri

def receives (message : ServerMessage) (pointer : ChatDevicePointer) : Bool :=
  !server.sip.addressEquals message.fromAddr pointer.device && server.toText pointer.device = uri

/-- A message, as often as devices of the text are to get it. -/
def copies (message : ServerMessage) (pointers : List ChatDevicePointer) : List ServerMessage :=
  (pointers.filter (receives server uri message)).map fun _ => message

/-- What a call adds for the devices of a text. -/
def accepted (room : ServerChatRoom) : ChatRoomCall → List ServerMessage
  | .message message =>
    if room.state ≠ .deleted ∧ (room.findParticipant message.fromAddr).isSome then copies server uri message room.devicePointers else []
  | _ => []

def offered : ServerChatRoom → List ChatRoomInput → List ServerMessage
  | _, [] => []
  | room, input :: rest => room.accepted server uri input.call ++ offered (room.step server input) rest

def run (room : ServerChatRoom) (inputs : List ChatRoomInput) : ServerChatRoom :=
  inputs.foldl (fun room input => room.step server input) room

end Definitions

section Accounting

variable {server : ChatServer} {uri : Text} {guarded steady : Prop} {allowed : ParticipantDeviceState → Prop}
  {room before after : ServerChatRoom}

/-- No message is added, repeated or moved. None is lost either, unless the text is one of an address
without a device. -/
structure Carried (server : ChatServer) (uri : Text) (before after : ServerChatRoom) : Prop where
  account : (after.account server uri).Sublist (before.account server uri)
  kept : (∀ address, address.getUriWithoutGruu = address → server.toText address ≠ uri) →
    after.account server uri = before.account server uri
  queue : (after.queuedMessages uri).Sublist (before.queuedMessages uri)

theorem Carried.refl (room : ServerChatRoom) : Carried server uri room room :=
  ⟨.refl _, fun _ => rfl, .refl _⟩

theorem Carried.trans {middle : ServerChatRoom} (first : Carried server uri before middle)
    (second : Carried server uri middle after) : Carried server uri before after :=
  ⟨second.account.trans first.account, fun apart => (second.kept apart).trans (first.kept apart),
    second.queue.trans first.queue⟩

theorem Carried.of_same (queued : after.queuedMessages uri = before.queuedMessages uri)
    (sent : after.outputs.filterMap (messageFor server uri) = before.outputs.filterMap (messageFor server uri)) :
    Carried server uri before after := by
  have same : after.account server uri = before.account server uri := by
    unfold ServerChatRoom.account
    rw [queued, sent]
  exact ⟨same ▸ .refl _, fun _ => same, queued ▸ .refl _⟩

theorem filterMap_sent (address : Address) (messages : List ServerMessage) :
    (messages.map (ChatRoomOutput.message address)).filterMap (messageFor server uri) =
      if server.toText address = uri then messages else [] := by
  rw [List.filterMap_map]
  split
  next here =>
    have all : messageFor server uri ∘ ChatRoomOutput.message address = some := by
      funext message
      exact if_pos here
    rw [all, List.filterMap_some]
  next apart =>
    have none : messageFor server uri ∘ ChatRoomOutput.message address = fun _ => none := by
      funext message
      exact if_neg apart
    rw [none, List.filterMap_none]

theorem Change.carried (change : Change server guarded allowed steady before after) : Carried server uri before after := by
  cases change with
  | @output event other =>
    refine .of_same rfl ?_
    have skipped : messageFor server uri event = none := by
      cases event with
      | message device message => exact absurd rfl (other device message)
      | _ => rfl
    simp only [ServerChatRoom.output, List.filterMap_append, List.filterMap_cons, skipped, List.filterMap_nil, List.append_nil]
  | @send address =>
    by_cases here : server.toText address = uri
    · have same : account server uri ({ before with
          outputs := before.outputs ++ (before.queuedMessages (server.toText address)).map
            (ChatRoomOutput.message address) }.setQueue (server.toText address) []) = before.account server uri := by
        unfold account setQueue
        simp only [List.filterMap_append, filterMap_sent]
        rw [if_pos here, if_pos here.symm, here, List.append_nil]
      refine ⟨same ▸ .refl _, fun _ => same, ?_⟩
      unfold setQueue
      simp only []
      rw [if_pos here.symm]
      exact List.nil_sublist _
    · refine .of_same (if_neg (Ne.symm here)) ?_
      unfold setQueue
      simp only [List.filterMap_append, filterMap_sent]
      rw [if_neg here, List.append_nil]
  | @erase address bare =>
    by_cases here : server.toText address = uri
    · refine ⟨?_, fun apart => absurd here (apart address bare), ?_⟩
      · unfold account setQueue
        simp only []
        rw [if_pos here.symm]
        exact List.Sublist.append_left (List.nil_sublist _) _
      · unfold setQueue
        simp only []
        rw [if_pos here.symm]
        exact List.nil_sublist _
    · exact .of_same (if_neg (Ne.symm here)) rfl
  | others isGroup invited participants queued outputs =>
    exact .of_same (congrFun queued uri) (by rw [outputs])
  | _ => exact .of_same rfl rfl

theorem Evolves.carried (evolves : Evolves server guarded allowed steady before after) : Carried server uri before after := by
  induction evolves with
  | refl => exact .refl _
  | tail _ change earlier => exact earlier.trans change.carried

theorem isOlderThanOneWeek_self (message : ServerMessage) : isOlderThanOneWeek message.timestamp message = false := by
  unfold isOlderThanOneWeek
  rw [Int.sub_self, Int.zero_tdiv]
  rfl

/-- No message is a week older than a later one. -/
def Fresh (messages : List ServerMessage) : Prop :=
  messages.Pairwise fun older newer => isOlderThanOneWeek newer.timestamp older = false

instance (messages : List ServerMessage) : Decidable (Fresh messages) := List.instDecidablePairwise messages

/-- A message goes behind those that wait, of which old ones in front may be dropped. -/
structure Queued (server : ChatServer) (uri : Text) (added : List ServerMessage) (before after : ServerChatRoom) : Prop where
  account : (after.account server uri).Sublist (before.account server uri ++ added)
  kept : Fresh (before.queuedMessages uri ++ added) → after.account server uri = before.account server uri ++ added
  queue : (after.queuedMessages uri).Sublist (before.queuedMessages uri ++ added)

theorem queueMessageFor_account {message : ServerMessage} {address : Address} (here : server.toText address = uri) :
    Queued server uri [message] room (room.queueMessageFor server message address) := by
  have queue : (room.queueMessageFor server message address).queuedMessages uri =
      (room.queuedMessages uri).dropWhile (isOlderThanOneWeek message.timestamp) ++ [message] := by
    unfold queueMessageFor setQueue
    simp only []
    rw [if_pos here.symm, here]
  have dropped := List.dropWhile_sublist (isOlderThanOneWeek message.timestamp) (l := room.queuedMessages uri)
  refine ⟨?_, fun fresh => ?_, ?_⟩
  · unfold ServerChatRoom.account
    rw [queue, List.append_assoc]
    exact List.Sublist.append_left (dropped.append_right _) _
  · have same : (room.queuedMessages uri).dropWhile (isOlderThanOneWeek message.timestamp) = room.queuedMessages uri := by
      refine List.dropWhile_eq_self_iff.mpr fun nonempty => ?_
      have young := (List.pairwise_append.mp fresh).2.2 _ (List.getElem_mem nonempty) message (List.mem_singleton.mpr rfl)
      rw [young]
      exact Bool.false_ne_true
    unfold ServerChatRoom.account
    rw [queue, same, List.append_assoc]
    rfl
  · rw [queue]
    exact dropped.append_right _

theorem Queued.of_same (queued : after.queuedMessages uri = before.queuedMessages uri) (sent : after.outputs = before.outputs) :
    Queued server uri [] before after := by
  have same : after.account server uri = before.account server uri ++ [] := by
    unfold ServerChatRoom.account
    rw [queued, sent, List.append_nil]
  exact ⟨same ▸ .refl _, fun _ => same, by rw [queued, List.append_nil]⟩

theorem Queued.trans {first second : List ServerMessage} {middle : ServerChatRoom} (one : Queued server uri first before middle)
    (two : Queued server uri second middle after) : Queued server uri (first ++ second) before after := by
  refine ⟨?_, fun fresh => ?_, ?_⟩
  · rw [← List.append_assoc]
    exact two.account.trans (one.account.append_right _)
  · rw [← List.append_assoc] at fresh ⊢
    rw [two.kept (fresh.sublist (one.queue.append_right _)), one.kept (List.pairwise_append.mp fresh).1]
  · rw [← List.append_assoc]
    exact two.queue.trans (one.queue.append_right _)

theorem queueMessageFor_queued (message : ServerMessage) (pointer : ChatDevicePointer) :
    Queued server uri (copies server uri message [pointer]) room
      (if server.sip.addressEquals message.fromAddr pointer.device then room
      else room.queueMessageFor server message pointer.device) := by
  unfold copies receives
  by_cases own : server.sip.addressEquals message.fromAddr pointer.device = true
  · rw [if_pos own, List.filter_singleton, own]
    exact .of_same rfl rfl
  · rw [if_neg own, List.filter_singleton, Bool.eq_false_iff.mpr own]
    by_cases here : server.toText pointer.device = uri
    · rw [decide_eq_true here]
      exact queueMessageFor_account here
    · rw [decide_eq_false here]
      exact .of_same (if_neg (Ne.symm here)) rfl

/-- A message is queued once for each device that is to get it. -/
theorem queueMessage_queued (message : ServerMessage) :
    Queued server uri (copies server uri message room.devicePointers) room (room.queueMessage server message) := by
  unfold queueMessage
  generalize room.devicePointers = pointers
  induction pointers generalizing room with
  | nil => exact .of_same rfl rfl
  | cons pointer rest following =>
    have apart : copies server uri message (pointer :: rest) =
        copies server uri message [pointer] ++ copies server uri message rest := by
      unfold copies
      rw [← List.map_append, ← List.filter_append, List.singleton_append]
    rw [apart]
    exact (queueMessageFor_queued message pointer).trans following

theorem queueMessage_formed {message : ServerMessage} (formed : Formed room) : Formed (room.queueMessage server message) := by
  rw [queueMessage_frame]
  exact ⟨formed.distinct, formed.bare⟩

/-- What a step adds to the account, and what it does to the rest. -/
structure Accounted (server : ChatServer) (uri : Text) (added : List ServerMessage) (before after : ServerChatRoom) : Prop where
  formed : Formed after
  account : (after.account server uri).Sublist (before.account server uri ++ added)
  kept : (∀ address, address.getUriWithoutGruu = address → server.toText address ≠ uri) →
    Fresh (before.queuedMessages uri ++ added) → after.account server uri = before.account server uri ++ added
  queue : (after.queuedMessages uri).Sublist (before.queuedMessages uri ++ added)

theorem Carried.accounted (carried : Carried server uri before after) (formed : Formed after) :
    Accounted server uri [] before after := by
  refine ⟨formed, ?_, fun apart _ => ?_, ?_⟩
  · rw [List.append_nil]
    exact carried.account
  · rw [List.append_nil]
    exact carried.kept apart
  · rw [List.append_nil]
    exact carried.queue

theorem Queued.accounted {added : List ServerMessage} {middle : ServerChatRoom} (queued : Queued server uri added before middle)
    (carried : Carried server uri middle after) (formed : Formed after) : Accounted server uri added before after :=
  ⟨formed, carried.account.trans queued.account, fun apart fresh => (carried.kept apart).trans (queued.kept fresh),
    carried.queue.trans queued.queue⟩

/-- What is formed is all that is claimed without a guard. -/
theorem Formed.sound (formed : Formed room) : Sound False room := ⟨formed, fun live => live.1.elim⟩

theorem perform_accounted {sessions : Address → Option CallSessionState} (formed : Formed room) (call : ChatRoomCall)
    (open' : room.state ≠ .deleted) :
    Accounted server uri (room.accepted server uri call) room (room.perform server sessions call) := by
  by_cases message : ∃ message, call = .message message
  · obtain ⟨message, rfl⟩ := message
    change Accounted server uri _ room (room.onSipMessageReceived server sessions message)
    unfold onSipMessageReceived accepted
    by_cases known : (room.findParticipant message.fromAddr).isSome = true
    · simp only []
      rw [if_pos ⟨open', known⟩, if_pos known]
      have evolves : Evolves server False (fun _ => True) True (room.queueMessage server message)
          ((room.queueMessage server message).dispatchQueuedMessages server sessions) :=
        dispatchQueuedMessages_evolves False.elim trivial (queueMessage_formed formed).sound
      exact (queueMessage_queued message).accounted evolves.carried (evolves.sound (queueMessage_formed formed).sound).formed
    · simp only []
      rw [if_neg fun both => known both.2, if_neg known]
      exact (Carried.refl room).accounted formed
  · have evolves : Evolves server False (fun _ => True) False room (room.perform server sessions call) :=
      perform_evolves False.elim (fun _ _ => trivial) (fun _ => trivial) False.elim
        (fun other same => message ⟨other, same⟩) formed.sound open' False.elim
    have nothing : room.accepted server uri call = [] := by
      cases call with
      | message other => exact absurd ⟨other, rfl⟩ message
      | _ => rfl
    rw [nothing]
    exact evolves.carried.accounted (evolves.sound formed.sound).formed

theorem step_accounted (formed : Formed room) (input : ChatRoomInput) :
    Accounted server uri (room.accepted server uri input.call) room (room.step server input) := by
  unfold step
  split
  next deleted =>
    have nothing : room.accepted server uri input.call = [] := by
      cases input.call with
      | message other => exact if_neg fun both => both.1 deleted
      | _ => rfl
    rw [nothing]
    exact (Carried.refl room).accounted formed
  next open' => exact perform_accounted formed input.call open'

@[simp] theorem run_cons (input : ChatRoomInput) (rest : List ChatRoomInput) :
    room.run server (input :: rest) = (room.step server input).run server rest := rfl

@[simp] theorem offered_cons (input : ChatRoomInput) (rest : List ChatRoomInput) : room.offered server uri (input :: rest) =
    room.accepted server uri input.call ++ (room.step server input).offered server uri rest := rfl

end Accounting

/-- In every run the messages that were sent to the devices of a text, and behind them the ones that
wait, are among those that were accepted for them, in their order and none of them more often. They are
all of them when none is a week older than a later one, and the text is one of a device: also those of
devices that left in between. -/
theorem messages_kept_in_order {server : ChatServer} {room : ServerChatRoom} (formed : Formed room) (uri : Text)
    (inputs : List ChatRoomInput) :
    ((room.run server inputs).account server uri).Sublist (room.account server uri ++ room.offered server uri inputs) ∧
      ((∀ address, address.getUriWithoutGruu = address → server.toText address ≠ uri) →
        Fresh (room.queuedMessages uri ++ room.offered server uri inputs) →
          (room.run server inputs).account server uri = room.account server uri ++ room.offered server uri inputs) := by
  induction inputs generalizing room with
  | nil =>
    change (room.account server uri).Sublist (room.account server uri ++ []) ∧
      (_ → _ → room.account server uri = room.account server uri ++ [])
    rw [List.append_nil]
    exact ⟨.refl _, fun _ _ => rfl⟩
  | cons input rest following =>
    have first : Accounted server uri (room.accepted server uri input.call) room (room.step server input) :=
      step_accounted formed input
    obtain ⟨listed, kept⟩ := following first.formed
    rw [run_cons, offered_cons, ← List.append_assoc, ← List.append_assoc]
    refine ⟨listed.trans (first.account.append_right _), fun apart fresh => ?_⟩
    rw [kept apart (fresh.sublist (first.queue.append_right _)), first.kept apart (List.pairwise_append.mp fresh).1]

/-- A group of Alice, who is there, and Bob, who is called. -/
def calledDevice (name : String) (state : ParticipantDeviceState) : ChatDevice :=
  { address := { domain := "sip.org", username := some name, uriParams := [("gr", "urn")] }, state := state
    groupchat := some { major := 1, minor := 2 } }

def calledRoom : ServerChatRoom :=
  { isGroup := true
    invitedParticipants := [
      { address := { domain := "sip.org", username := some "alice" }, isAdmin := true, devices := [calledDevice "alice" .present] },
      { address := { domain := "sip.org", username := some "bob" }, devices := [calledDevice "bob" .joining] }]
    participants := [{ domain := "sip.org", username := some "alice" }, { domain := "sip.org", username := some "bob" }] }

def calledServer : ChatServer where
  sip := .fieldwise
  toText address := (if isGruu address then 'd' else 'p') :: (address.username.getD "").toList

def firstMessage : ServerMessage :=
  { fromAddr := (calledDevice "alice" .present).address, content := "hello".toList, timestamp := 0 }

theorem waiting_message_kept :
    (calledRoom.run calledServer [{ call := .message firstMessage }]).account calledServer "dbob".toList = [firstMessage] := by
  have formed : Formed calledRoom := ⟨by decide, by decide⟩
  have apart : ∀ address : Address, address.getUriWithoutGruu = address → calledServer.toText address ≠ "dbob".toList := by
    intro address bare same
    have gruu : isGruu address = true := by
      by_contra missing
      rw [Bool.not_eq_true] at missing
      change (if isGruu address then 'd' else 'p') :: (address.username.getD "").toList = _ at same
      rw [missing] at same
      exact absurd (List.cons.inj same).1 (by decide)
    rw [← bare] at gruu
    obtain ⟨param, member, equal⟩ := List.any_eq_true.mp gruu
    rw [beq_iff_eq] at equal
    have other := (List.mem_filter.mp member).2
    rw [equal] at other
    cases other
  exact ((messages_kept_in_order formed "dbob".toList [{ call := .message firstMessage }]).2 apart (by decide)).trans (by decide)

end Liblinphone.ServerChatRoom
