import CafeSession.Manager.Moves
import CafeSession.Manager.Survivors

namespace CafeSession.Manager

open CafeSession.Xsmp

namespace ClientMessage

/-- The message asks its client to get ready for the end of the session. -/
def endsSession : ClientMessage → Bool
  | .endSession _ => true
  | .sms (.saveYourself _ shutdown _ _) => shutdown
  | .sms .saveYourselfPhase2 => true
  | _ => false

/-- The message is the request of the second part of the phase. -/
def asksLast : ClientMessage → Bool
  | .endSession flags => flags.last
  | .sms .saveYourselfPhase2 => true
  | _ => false

end ClientMessage

namespace Client

variable {client : Client} {flags : EndSessionFlags} {result : Client × List ClientMessage}

/-- The client owes no answer, and has no save running or queued. -/
structure Idle (client : Client) : Prop where
  unanswered : client.unanswered = []
  resting : client.currentSave = noSave
  unqueued : client.nextSave = noSave

theorem Idle.ending (idle : client.Idle) : client.Ending :=
  ⟨by simp [idle.unanswered], idle.unqueued⟩

section

variable (client : Client) (save : SaveState) (queued : Option Request) (handlers : Nat)
variable (connected : Bool) (request : Request) (slots : SaveState × List SmsMessage)

@[simp] theorem hasConnection_written :
    (client.written save queued handlers connected request slots).hasConnection =
      slots.1.conn := by
  unfold written
  split_ifs <;> rfl

@[simp] theorem nextSave_written :
    (client.written save queued handlers connected request slots).nextSave =
      slots.1.nextSaveYourself := by
  unfold written
  split_ifs <;> rfl

@[simp] theorem unanswered_written :
    (client.written save queued handlers connected request slots).unanswered =
      if slots.2.any isRequest then client.unanswered ++ [request] else client.unanswered := by
  simp only [written]
  split_ifs <;> rfl

end

/-- A request of the phase goes over the bus, or through the save slots. -/
theorem endSession_cases (called : client.endSession flags = .ok result) :
    (∃ name, client.transport = .dbus name ∧
      result = (client.deliver (if flags.last then .endSessionLast else .endSession),
        [.endSession flags])) ∨
    ∃ save queued handlers connected slots,
      client.transport = .xsmp save queued handlers connected ∧
      save.endSession flags = .ok slots ∧
      result = (client.written save queued handlers connected
        (if flags.last then .endSessionLast else .endSession) slots, slots.2.map .sms) := by
  unfold endSession at called
  cases transport : client.transport with
  | dbus name =>
      rw [transport] at called
      cases called
      exact .inl ⟨name, rfl, rfl⟩
  | xsmp save queued handlers connected =>
      rw [transport] at called
      cases slots : save.endSession flags with
      | error message => simp [slots, Except.map] at called
      | ok left =>
          simp only [slots, Except.map, Except.ok.injEq] at called
          exact .inr ⟨save, queued, handlers, connected, left, rfl, slots, called.symm⟩

theorem endSession_slots {save : SaveState} {slots : SaveState × List SmsMessage}
    (called : save.endSession flags = .ok slots) :
    slots = if flags.last then (save, [.saveYourselfPhase2]) else
      save.doSaveYourself (SaveState.endRequest flags).1 (SaveState.endRequest flags).2 := by
  unfold SaveState.endSession at called
  split_ifs at called ⊢ <;> cases called <;> rfl

theorem endSession_connected (connected : client.hasConnection = true) :
    ∃ result, client.endSession flags = .ok result := by
  unfold endSession
  cases transport : client.transport with
  | dbus name => exact ⟨_, rfl⟩
  | xsmp save queued handlers connected_ =>
      have conn : save.conn = true := by simpa [hasConnection, transport] using connected
      simp only [SaveState.endSession, conn, Bool.not_true, Bool.false_eq_true, if_false]
      split_ifs <;> exact ⟨_, rfl⟩

theorem conn_doSaveYourself (save : SaveState) (saveType : Int) (allowInteract : Bool) :
    (save.doSaveYourself saveType allowInteract).1.conn = save.conn := by
  unfold SaveState.doSaveYourself
  split_ifs <;> rfl

theorem hasConnection_endSession (called : client.endSession flags = .ok result) :
    result.1.hasConnection = client.hasConnection := by
  rcases endSession_cases called with
    ⟨name, transport, rfl⟩ | ⟨save, queued, handlers, connected, slots, transport, ends, rfl⟩
  · rfl
  · have conn : slots.1.conn = save.conn := by
      rw [endSession_slots ends]
      split_ifs
      · rfl
      · exact conn_doSaveYourself save _ _
    rw [hasConnection_written, conn]
    simp [hasConnection, transport]

theorem asksLast_endSession (last : flags.last = true)
    (called : client.endSession flags = .ok result) :
    ∃ message ∈ result.2, message.asksLast = true := by
  rcases endSession_cases called with
    ⟨name, transport, rfl⟩ | ⟨save, queued, handlers, connected, slots, transport, ends, rfl⟩
  · exact ⟨.endSession flags, by simp, last⟩
  · have slots_ := endSession_slots ends
    rw [if_pos last] at slots_
    subst slots_
    exact ⟨.sms .saveYourselfPhase2, by simp, rfl⟩

theorem endRequest_written {save : SaveState} (flags : EndSessionFlags)
    (resting : save.currentSaveYourself = noSave) (unqueued : save.nextSaveYourself = noSave) :
    ∃ left style fast, save.doSaveYourself (SaveState.endRequest flags).1
        (SaveState.endRequest flags).2 =
          (left, [.saveYourself (SaveState.endRequest flags).1 true style fast]) ∧
      left.nextSaveYourself = noSave ∧
      isRequest (.saveYourself (SaveState.endRequest flags).1 true style fast) = true := by
  unfold SaveState.doSaveYourself
  rw [if_neg (not_not.mpr unqueued), if_neg (not_not.mpr resting)]
  cases save_ : flags.save <;>
    exact ⟨_, .none, true, by simp [SaveState.message, SaveState.endRequest, save_, smSaveLocal,
      smSaveGlobal, smSaveBoth]; rfl, rfl, by simp [isRequest, SaveState.endRequest, save_]⟩

/-- What a request of the phase leaves of a client that has no save running. -/
structure Asked (client : Client) (result : Client × List ClientMessage) : Prop where
  ending : result.1.Ending
  owes : result.1.unanswered.length = client.unanswered.length + 1
  written : ∃ message ∈ result.2, message.endsSession = true

theorem Ending.asked {request : Request} {left : Client} (ending : client.Ending)
    (ends : request.endsSession = true) (owes : left.unanswered = client.unanswered ++ [request])
    (unqueued : left.nextSave = noSave) :
    left.Ending ∧ left.unanswered.length = client.unanswered.length + 1 := by
  refine ⟨⟨fun one member => ?_, unqueued⟩, by simp [owes]⟩
  rw [owes, List.mem_append, List.mem_singleton] at member
  rcases member with old | rfl
  · exact ending.requests one old
  · exact ends

theorem asked_endSession (called : client.endSession flags = .ok result) (ending : client.Ending)
    (resting : flags.last = false → client.currentSave = noSave) : client.Asked result := by
  have request : (if flags.last then Request.endSessionLast else .endSession).endsSession = true := by
    split_ifs <;> rfl
  rcases endSession_cases called with
    ⟨name, transport, rfl⟩ | ⟨save, queued, handlers, connected, slots, transport, ends, rfl⟩
  · obtain ⟨left, owes⟩ := @Ending.asked client _ (client.deliver _) ending request rfl
      (by simp [nextSave, deliver, transport])
    exact ⟨left, owes, .endSession flags, by simp, rfl⟩
  · have unqueued : save.nextSaveYourself = noSave := by
      simpa [nextSave, transport] using ending.unqueued
    have slots_ := endSession_slots ends
    split_ifs at slots_ ⊢ with last
    · subst slots_
      have asks : isRequest .saveYourselfPhase2 = true := rfl
      obtain ⟨left, owes⟩ := @Ending.asked client .endSessionLast (client.written save queued handlers
        connected .endSessionLast (save, [.saveYourselfPhase2])) ending rfl (by simp [asks])
        (by simp [unqueued])
      exact ⟨left, owes, .sms .saveYourselfPhase2, by simp, rfl⟩
    · have current : save.currentSaveYourself = noSave := by
        simpa [currentSave, transport] using resting (by simpa using last)
      obtain ⟨kept, style, fast, same, empty, asks⟩ := endRequest_written flags current unqueued
      rw [same] at slots_
      obtain ⟨left, owes⟩ := @Ending.asked client .endSession (client.written save queued handlers
        connected .endSession slots) ending rfl (by simp [slots_, asks]) (by simp [slots_, empty])
      refine ⟨left, owes, .sms (.saveYourself (SaveState.endRequest flags).1 true style fast), ?_, rfl⟩
      simp [slots_]

end Client

namespace State

variable {before after state : State} {asked : List Nat} {since : List Effect}
variable {asks : ClientMessage → Bool} {flags : EndSessionFlags}

/-- Every client of the list that is still there, and can be written to, has
since been sent the request. -/
def Written (asks : ClientMessage → Bool) (asked : List Nat) (since : List Effect)
    (state : State) : Prop :=
  ∀ client ∈ state.clients, client.id ∈ asked → client.hasConnection = true →
    ∃ message, Effect.sent client.id message ∈ since ∧ asks message = true

/-- What holds in the end-session phase, if the query left its clients idle. -/
structure Asking (asked : List Nat) (since : List Effect) (state : State) : Prop where
  ending : ∀ client ∈ state.clients, client.Ending
  counted : ∀ client ∈ state.clients,
    client.unanswered.length ≤ state.queryClients.count client.id
  written : state.Written ClientMessage.endsSession asked since

/-- Every client was there before, with the same connection. -/
def ClientsOf (before after : State) : Prop :=
  ∀ client ∈ after.clients, ∃ one ∈ before.clients,
    one.id = client.id ∧ one.hasConnection = client.hasConnection

theorem ClientsOf.of_eq (same : after.clients = before.clients) : before.ClientsOf after := by
  intro client stored
  exact ⟨client, same ▸ stored, rfl, rfl⟩

theorem ClientsOf.trans {middle : State} (first : before.ClientsOf middle)
    (second : middle.ClientsOf after) : before.ClientsOf after := by
  intro client stored
  obtain ⟨one, here, id, connection⟩ := second client stored
  obtain ⟨other, there, sameId, sameConnection⟩ := first one here
  exact ⟨other, there, sameId.trans id, sameConnection.trans connection⟩

theorem clientsOf_updateClient {id : Nat} {update : Client → Client}
    (keeps : ∀ client ∈ state.clients, client.id = id →
      (update client).id = client.id ∧ (update client).hasConnection = client.hasConnection) :
    state.ClientsOf (state.updateClient id update) := by
  intro client stored
  obtain ⟨one, member, rfl⟩ := List.mem_map.mp stored
  refine ⟨one, member, ?_⟩
  split_ifs with same
  · exact ⟨(keeps one member same).1.symm, (keeps one member same).2.symm⟩
  · exact ⟨rfl, rfl⟩

theorem Written.of_clients (written : before.Written asks asked since)
    (clients : before.ClientsOf after) (news : List Effect) :
    after.Written asks asked (news ++ since) := by
  intro client stored member connected
  obtain ⟨one, here, id, connection⟩ := clients client stored
  rw [← id] at member ⊢
  obtain ⟨message, sent, hit⟩ := written one here member (connection.trans connected)
  exact ⟨message, List.mem_append_right news sent, hit⟩

theorem ask_cases (call : Client → Except String (Client × List ClientMessage)) (id : Nat) :
    (state.ask call id = state ∧
      ∀ client result, state.client? id = some client → call client ≠ .ok result) ∨
    ∃ client result, state.client? id = some client ∧ call client = .ok result ∧
      state.ask call id = { state.updateClient id (told call) with
        queryClients := id :: state.queryClients
        log := (result.2.map (Effect.sent id)).reverse ++ state.log } := by
  unfold ask
  cases found : state.client? id with
  | none => exact .inl ⟨rfl, fun client result absent => by cases absent⟩
  | some client =>
      cases called : call client with
      | error message =>
          refine .inl ⟨by simp [called], fun one result same ok => ?_⟩
          rw [← Option.some.inj same, called] at ok
          cases ok
      | ok result =>
          have succeeds : (state.client? id).map call = some (.ok result) := by
            rw [found, Option.map_some, called]
          refine .inr ⟨client, result, rfl, called, ?_⟩
          simp only [Option.map_some, called, tell_ok succeeds]

theorem eq_of_client? (distinct : state.clientIds.Nodup) {id : Nat} {client one : Client}
    (found : state.client? id = some client) (stored : one ∈ state.clients)
    (same : one.id = id) : one = client := by
  have here := List.mem_of_find?_eq_some found
  exact List.inj_on_of_nodup_map distinct stored here (same.trans (client?_id found).symm)

theorem client?_stored {client : Client} (distinct : state.clientIds.Nodup)
    (stored : client ∈ state.clients) : state.client? client.id = some client := by
  cases found : state.client? client.id with
  | none =>
      have absent := List.find?_eq_none.mp found client stored
      simp at absent
  | some other => rw [eq_of_client? distinct found stored rfl]

theorem mem_updateClient {id : Nat} {update : Client → Client} {client : Client}
    (stored : client ∈ (state.updateClient id update).clients) :
    (∃ one ∈ state.clients, one.id = id ∧ update one = client) ∨
      client ∈ state.clients ∧ client.id ≠ id := by
  obtain ⟨one, member, same⟩ := List.mem_map.mp stored
  split_ifs at same with hit
  · exact .inl ⟨one, member, hit, same⟩
  · rw [← same]
    exact .inr ⟨member, hit⟩

theorem told_ok {call : Client → Except String (Client × List ClientMessage)} {client : Client}
    {result : Client × List ClientMessage} (called : call client = .ok result) :
    told call client = result.1 := by
  unfold told
  rw [called]

theorem quiet_sent (id : Nat) (messages : List ClientMessage) :
    Quiet (messages.map (Effect.sent id)).reverse := by
  intro effect member
  obtain ⟨message, _, rfl⟩ := List.mem_map.mp (List.mem_reverse.mp member)
  rfl

theorem core_ask (call : Client → Except String (Client × List ClientMessage))
    (keeps : KeepsWiring call) (ids : List Nat) :
    ∃ waiting, (ids.foldl (ask call) state).core =
      { state.core with queryClients := waiting } := by
  obtain ⟨asked, _, core⟩ := @core_ask_foldl state call keeps ids
  exact ⟨_, core⟩

theorem clientIds_ask (flags : EndSessionFlags) (id : Nat) :
    (state.ask (Client.endSession flags) id).clientIds = state.clientIds := by
  obtain ⟨waiting, core⟩ := @core_ask state _ (Client.keepsWiring_endSession flags) [id]
  exact congrArg Core.clientIds core

theorem clientsOf_ask (distinct : state.clientIds.Nodup) (flags : EndSessionFlags) (id : Nat) :
    state.ClientsOf (state.ask (Client.endSession flags) id) := by
  rcases @ask_cases state (Client.endSession flags) id with
    ⟨same, _⟩ | ⟨client, result, found, called, asked⟩
  · rw [same]
    exact .of_eq rfl
  · rw [asked]
    refine @clientsOf_updateClient state id _ fun one stored same => ?_
    have wiring := Client.keepsWiring_endSession flags one
    rw [eq_of_client? distinct found stored same] at wiring ⊢
    refine ⟨congrArg Wiring.id wiring, ?_⟩
    rw [told_ok called]
    exact Client.hasConnection_endSession called

theorem written_ask (distinct : state.clientIds.Nodup) {id : Nat} :
    ∃ news, Quiet news ∧
      (state.ask (Client.endSession flags) id).log = news ++ state.log ∧
      ∀ asks asked since,
        (∀ client ∈ state.clients, client.id = id → ∀ result,
          client.endSession flags = .ok result → ∃ message ∈ result.2, asks message = true) →
        state.Written asks asked since →
        (state.ask (Client.endSession flags) id).Written asks (id :: asked) (news ++ since) := by
  have clients := @clientsOf_ask state distinct flags id
  rcases @ask_cases state (Client.endSession flags) id with
    ⟨same, closed⟩ | ⟨client, result, found, called, form⟩
  · refine ⟨[], nofun, by rw [same]; rfl, fun asks asked since _ written => ?_⟩
    rw [same]
    intro one stored member connected
    rcases List.mem_cons.mp member with hit | older
    · obtain ⟨result, called⟩ := @Client.endSession_connected one flags connected
      exact absurd called (closed one result (hit ▸ client?_stored distinct stored))
    · exact written one stored older connected
  · refine ⟨_, quiet_sent id result.2, by rw [form], fun asks asked since asking written => ?_⟩
    obtain ⟨message, sent, hit⟩ := asking client (List.mem_of_find?_eq_some found)
      (client?_id found) result called
    intro one stored member connected
    rcases List.mem_cons.mp member with same | older
    · refine ⟨message, List.mem_append_left _ ?_, hit⟩
      rw [same, List.mem_reverse]
      exact List.mem_map_of_mem sent
    · exact written.of_clients clients _ one stored older connected

theorem Asking.ask {id : Nat} (asking : state.Asking asked since)
    (distinct : state.clientIds.Nodup)
    (resting : flags.last = false → ∀ client ∈ state.clients, client.id = id →
      client.currentSave = noSave) :
    ∃ news, Quiet news ∧
      (state.ask (Client.endSession flags) id).log = news ++ state.log ∧
      (state.ask (Client.endSession flags) id).Asking (id :: asked) (news ++ since) := by
  have effects : ∀ client ∈ state.clients, client.id = id → ∀ result,
      client.endSession flags = .ok result → client.Asked result :=
    fun client stored same result called => Client.asked_endSession called
      (asking.ending client stored) fun first => resting first client stored same
  obtain ⟨news, quiet, logged, written⟩ := @written_ask state flags distinct id
  refine ⟨news, quiet, logged, ?_⟩
  have sent := written _ asked since (fun client stored same result called =>
    (effects client stored same result called).written) asking.written
  rcases @ask_cases state (Client.endSession flags) id with
    ⟨same, _⟩ | ⟨client, result, found, called, form⟩
  · rw [same] at sent ⊢
    exact ⟨asking.ending, asking.counted, sent⟩
  · have left := effects client (List.mem_of_find?_eq_some found) (client?_id found) result called
    have id_ : result.1.id = id := by
      have wiring := Client.keepsWiring_endSession flags client
      rw [told_ok called] at wiring
      exact (congrArg Wiring.id wiring).trans (client?_id found)
    -- the client that is asked owes one answer more, and is waited for once more
    have cases_ : ∀ one ∈ (state.ask (Client.endSession flags) id).clients,
        one = result.1 ∨ one ∈ state.clients ∧ one.id ≠ id := by
      intro one stored
      rw [form] at stored
      refine (@mem_updateClient state id _ one stored).imp_left ?_
      rintro ⟨other, here, hit, rfl⟩
      rw [eq_of_client? distinct found here hit, told_ok called]
    refine ⟨fun one stored => ?_, fun one stored => ?_, sent⟩
    · rcases cases_ one stored with rfl | ⟨old, _⟩
      · exact left.ending
      · exact asking.ending one old
    · have waiting : (state.ask (Client.endSession flags) id).queryClients =
          id :: state.queryClients := by rw [form]
      rw [waiting]
      rcases cases_ one stored with rfl | ⟨old, other⟩
      · have before := asking.counted client (List.mem_of_find?_eq_some found)
        rw [client?_id found] at before
        rw [id_, left.owes, List.count_cons_self]
        omega
      · rw [List.count_cons_of_ne (Ne.symm other)]
        exact asking.counted one old

theorem written_askAll (distinct : state.clientIds.Nodup) (ids : List Nat)
    (asking : ∀ (client : Client) (result : Client × List ClientMessage),
      client.endSession flags = .ok result → ∃ message ∈ result.2, asks message = true)
    (written : state.Written asks asked since) :
    ∃ news, Quiet news ∧
      (ids.foldl (ask (Client.endSession flags)) state).log = news ++ state.log ∧
      (ids.foldl (ask (Client.endSession flags)) state).Written asks (ids.reverse ++ asked)
        (news ++ since) := by
  induction ids generalizing state asked since with
  | nil => exact ⟨[], nofun, rfl, written⟩
  | cons id ids ih =>
      obtain ⟨first, quiet, logged, sent⟩ := @written_ask state flags distinct id
      have one := sent asks asked since (fun client _ _ result called =>
        asking client result called) written
      have stillDistinct : (state.ask (Client.endSession flags) id).clientIds.Nodup := by
        rw [clientIds_ask]
        exact distinct
      obtain ⟨news, laterQuiet, laterLogged, rest⟩ := ih stillDistinct one
      refine ⟨news ++ first, quiet.append laterQuiet, ?_, ?_⟩
      · rw [List.foldl_cons, laterLogged, logged, List.append_assoc]
      · simpa using rest

theorem Asking.askAll {ids : List Nat} (asking : state.Asking asked since)
    (distinct : state.clientIds.Nodup)
    (resting : flags.last = false → ids.Nodup ∧ ∀ client ∈ state.clients, client.id ∈ ids →
      client.currentSave = noSave) :
    ∃ news, Quiet news ∧
      (ids.foldl (State.ask (Client.endSession flags)) state).log = news ++ state.log ∧
      (ids.foldl (State.ask (Client.endSession flags)) state).Asking (ids.reverse ++ asked)
        (news ++ since) := by
  induction ids generalizing state asked since with
  | nil => exact ⟨[], nofun, rfl, asking⟩
  | cons id ids ih =>
      obtain ⟨first, quiet, logged, one⟩ := @Asking.ask state asked since flags id asking distinct
        fun notLast client stored same => (resting notLast).2 client stored (by simp [same])
      have stillDistinct : (state.ask (Client.endSession flags) id).clientIds.Nodup := by
        rw [clientIds_ask]
        exact distinct
      have stillResting : flags.last = false → ids.Nodup ∧
          ∀ client ∈ (state.ask (Client.endSession flags) id).clients, client.id ∈ ids →
            client.currentSave = noSave := by
        intro notLast
        obtain ⟨nodup, rest⟩ := resting notLast
        rw [List.nodup_cons] at nodup
        refine ⟨nodup.2, fun client stored member => rest client ?_ (List.mem_cons_of_mem _ member)⟩
        -- the one that has been asked is not among those still to ask
        rcases @ask_cases state (Client.endSession flags) id with
          ⟨same, _⟩ | ⟨told_, result, found, called, form⟩
        · exact same ▸ stored
        · rw [form] at stored
          rcases @mem_updateClient state id _ client stored with
            ⟨other, here, hit, rfl⟩ | ⟨old, _⟩
          · have wiring := Client.keepsWiring_endSession flags other
            rw [show (told (Client.endSession flags) other).id = id from
              (congrArg Wiring.id wiring).trans hit] at member
            exact absurd member nodup.1
          · exact old
      obtain ⟨news, laterQuiet, laterLogged, rest⟩ := ih one stillDistinct stillResting
      refine ⟨news ++ first, quiet.append laterQuiet, ?_, ?_⟩
      · rw [List.foldl_cons, laterLogged, logged, List.append_assoc]
      · simpa using rest

theorem log_tell (call : Client → Except String (Client × List ClientMessage)) (id : Nat) :
    ∃ news, Quiet news ∧ (state.tell call id).log = news ++ state.log := by
  rcases @tell_cases state call id with same | ⟨result, succeeds⟩
  · rw [same]
    exact ⟨[], nofun, rfl⟩
  · exact (still_tell succeeds).log

theorem log_ask (call : Client → Except String (Client × List ClientMessage)) (id : Nat) :
    ∃ news, Quiet news ∧ (state.ask call id).log = news ++ state.log := by
  rcases @ask_cases state call id with ⟨same, _⟩ | ⟨client, result, _, _, form⟩
  · rw [same]
    exact ⟨[], nofun, rfl⟩
  · exact ⟨_, quiet_sent id result.2, by rw [form]⟩

theorem log_foldl {call : State → Nat → State}
    (one : ∀ state id, ∃ news, Quiet news ∧ (call state id).log = news ++ state.log)
    (ids : List Nat) : ∃ news, Quiet news ∧ (ids.foldl call state).log = news ++ state.log := by
  induction ids generalizing state with
  | nil => exact ⟨[], nofun, rfl⟩
  | cons id ids ih =>
      obtain ⟨first, quiet, logged⟩ := one state id
      obtain ⟨news, laterQuiet, laterLogged⟩ := @ih (call state id)
      refine ⟨news ++ first, quiet.append laterQuiet, ?_⟩
      rw [List.foldl_cons, laterLogged, logged, List.append_assoc]

/-- The phase ends in the record with what was stored, and the manager quits. -/
theorem endPhase_leaves {world : World} (ending : state.phase = .endSession) :
    (state.endPhase world).phase = .exit ∧ ∃ quits, Quiet quits ∧
      (state.endPhase world).log = quits ++ .phaseEnded state.phaseEnd :: state.log := by
  refine ⟨?_, ?_⟩
  · exact exits_endPhase_outside (Phase.queryEndSession_le.mpr (.inr (.inl ending)))
      (by rw [ending]; decide)
  · rw [endPhase_endSession ending]
    obtain ⟨saved, savedQuiet, savedLogged⟩ : ∃ news, Quiet news ∧
        (state.advance.maybeSaveSession world).log = news ++ state.advance.log := by
      unfold maybeSaveSession
      split_ifs
      · exact ⟨[.sessionSaved], by simp [Quiet, Effect.endsPhase], rfl⟩
      · exact ⟨[], List.forall_mem_nil _, rfl⟩
    obtain ⟨stops, stopsQuiet, stopsLogged⟩ :=
      @log_foldl (state.advance.maybeSaveSession world).resetPhase _
        (fun state id => @log_tell state Client.stop id)
        (state.advance.maybeSaveSession world).resetPhase.clientIds
    obtain ⟨quits, quitsQuiet, quitsLogged⟩ :=
      @log_quit (((state.advance.maybeSaveSession world).resetPhase.tellClients
        Client.stop).clearPhase)
    refine ⟨quits ++ (stops ++ saved), (savedQuiet.append stopsQuiet).append quitsQuiet, ?_⟩
    have cleared : ((state.advance.maybeSaveSession world).resetPhase.tellClients
        Client.stop).clearPhase.log = stops ++ (saved ++ state.advance.log) := by
      rw [← savedLogged]
      exact stopsLogged
    rw [quitsLogged, cleared, List.append_assoc, List.append_assoc]
    rfl

/-- The query ends in the record, and the clients are asked, if there are any. -/
theorem endPhase_enters {world : World} (query : state.phase = .queryEndSession)
    (distinct : state.clientIds.Nodup) (clients : state.clients ≠ []) :
    (state.endPhase world).phase = .endSession ∧
      (state.endPhase world).clientSerial = state.clientSerial ∧
      ∃ news, Quiet news ∧
        (state.endPhase world).log = news ++ .phaseEnded state.phaseEnd :: state.log ∧
        ((∀ client ∈ state.clients, client.Idle) →
          (state.endPhase world).Asking state.clientIds news) := by
  let start : State := { state.advance.resetPhase with phaseTimeout := true }
  let call := Client.endSession (state.advance.resetPhase.endSessionFlags world false)
  have form : state.endPhase world = state.clientIds.foldl (ask call) start :=
    endPhase_query query clients
  obtain ⟨waiting, core⟩ := @core_ask start call (Client.keepsWiring_endSession _) state.clientIds
  rw [form]
  refine ⟨(congrArg Core.phase core).trans (by simp [start, advance, resetPhase, clearPhase, query,
    Phase.next, State.core]), congrArg Core.clientSerial core, ?_⟩
  by_cases idle : ∀ client ∈ state.clients, client.Idle
  · have asking : start.Asking [] [] :=
      ⟨fun client stored => (idle client stored).ending,
        fun client stored => by simp [(idle client stored).unanswered],
        fun _ _ absent => by cases absent⟩
    obtain ⟨news, quiet, logged, rest⟩ := @Asking.askAll start [] [] _ state.clientIds asking
      distinct fun _ => ⟨distinct, fun client stored _ => (idle client stored).resting⟩
    refine ⟨news, quiet, logged, fun _ => ⟨rest.ending, rest.counted, ?_⟩⟩
    intro client stored member connected
    simpa using rest.written client stored (by simpa using member) connected
  · obtain ⟨news, quiet, logged⟩ := @log_foldl start _ (fun state id => @log_ask state call id)
      state.clientIds
    exact ⟨news, quiet, logged, fun all => absurd all idle⟩

theorem log_doPhaseEndSessionPart2 {world : World} (some_ : state.nextQueryClients ≠ []) :
    ∃ news, Quiet news ∧ (state.doPhaseEndSessionPart2 world).log = news ++ state.log := by
  unfold doPhaseEndSessionPart2
  rw [if_pos some_]
  exact log_foldl (fun state id => log_ask _ id) state.nextQueryClients

theorem Asking.lastAsked {world : World} (asking : state.Asking asked since)
    (distinct : state.clientIds.Nodup) (some_ : state.nextQueryClients ≠ []) :
    ∃ news, Quiet news ∧ (state.doPhaseEndSessionPart2 world).log = news ++ state.log ∧
      (state.doPhaseEndSessionPart2 world).Asking asked (news ++ since) := by
  unfold doPhaseEndSessionPart2
  rw [if_pos some_]
  obtain ⟨news, quiet, logged, rest⟩ := @Asking.askAll state asked since
    (state.endSessionFlags world true) state.nextQueryClients asking distinct nofun
  exact ⟨news, quiet, logged, rest.ending, rest.counted, fun client stored member =>
    rest.written client stored (List.mem_append_right _ member)⟩

end State

end CafeSession.Manager
