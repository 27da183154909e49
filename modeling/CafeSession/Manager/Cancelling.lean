import CafeSession.Manager.Asking

namespace CafeSession.Manager

open CafeSession.Transition CafeSession.Xsmp

/-- What a call on the client sends to it. -/
def Client.sends (call : Client → Except String (Client × List ClientMessage)) (client : Client) :
    List Effect :=
  match call client with
  | .ok (_, messages) => messages.map (Effect.sent client.id)
  | .error _ => []

def Effect.messageTo? (id : Nat) : Effect → Option ClientMessage
  | .sent client message => if client = id then some message else none
  | _ => none

/-- The messages to the client, the newest first. -/
def sentTo (id : Nat) (log : List Effect) : List ClientMessage :=
  log.filterMap (Effect.messageTo? id)

@[simp] theorem sentTo_append (id : Nat) (news log : List Effect) :
    sentTo id (news ++ log) = sentTo id news ++ sentTo id log :=
  List.filterMap_append

theorem sentTo_sent (id : Nat) (messages : List ClientMessage) :
    sentTo id (messages.map (Effect.sent id)) = messages := by
  induction messages with
  | nil => rfl
  | cons message messages ih =>
      simp only [sentTo] at ih
      simp [sentTo, Effect.messageTo?, ih]

theorem sentTo_other {id other : Nat} (different : other ≠ id) (messages : List ClientMessage) :
    sentTo id (messages.map (Effect.sent other)) = [] := by
  simp [sentTo, Effect.messageTo?, different]

theorem sentTo_reverse (id : Nat) (log : List Effect) :
    sentTo id log.reverse = (sentTo id log).reverse :=
  List.filterMap_reverse

/-- Of all that a call sends to the clients, each gets its own. -/
theorem sentTo_sends {call : Client → Except String (Client × List ClientMessage)}
    {clients : List Client} (distinct : (clients.map Client.id).Nodup) {client : Client}
    (member : client ∈ clients) :
    sentTo client.id (clients.flatMap (Client.sends call)) =
      sentTo client.id (client.sends call) := by
  have apart (one : Client) (different : one.id ≠ client.id) :
      sentTo client.id (one.sends call) = [] := by
    unfold Client.sends
    split
    · exact sentTo_other different _
    · rfl
  induction clients with
  | nil => cases member
  | cons head rest ih =>
      rw [List.map_cons, List.nodup_cons] at distinct
      rw [List.flatMap_cons, sentTo_append]
      rcases List.mem_cons.mp member with rfl | later
      · have nothing : sentTo client.id (rest.flatMap (Client.sends call)) = [] := by
          rw [sentTo, List.filterMap_flatMap, List.flatMap_eq_nil_iff]
          intro one there
          apply apart
          intro same
          exact distinct.1 (same ▸ List.mem_map_of_mem there)
        rw [nothing, List.append_nil]
      · have different : head.id ≠ client.id := by
          intro same
          exact distinct.1 (same ▸ List.mem_map_of_mem later)
        rw [apart head different, List.nil_append, ih distinct.2 later]

namespace State

variable {world : World} {state : State}
variable {call : Client → Except String (Client × List ClientMessage)}

theorem tell_between {done rest : List Client} {client : Client}
    (distinct : ((done ++ client :: rest).map Client.id).Nodup)
    (clients : state.clients = done ++ client :: rest) :
    state.tell call client.id = { state with
      clients := done ++ told call client :: rest
      log := (client.sends call).reverse ++ state.log } := by
  have ids : state.clientIds.Nodup := by rwa [clientIds, clients]
  have found : state.client? client.id = some client :=
    client?_stored ids (by simp [clients])
  rw [List.map_append, List.map_cons, List.nodup_middle, List.nodup_cons] at distinct
  have apart (one : Client) (member : one ∈ done ++ rest) : one.id ≠ client.id := by
    intro same
    exact distinct.1 (same ▸ by simpa using List.mem_map_of_mem (f := Client.id) member)
  cases called : call client with
  | error message => simp [tell, found, called, told, Client.sends, ← clients]
  | ok result =>
      have others (part : List Client) (inside : part ⊆ done ++ rest) :
          part.map (fun one => if one.id = client.id then told call one else one) = part := by
        calc part.map (fun one => if one.id = client.id then told call one else one)
            = part.map id := List.map_congr_left fun one member => if_neg (apart one (inside member))
          _ = part := List.map_id part
      have updated : (state.updateClient client.id (told call)).clients =
          done ++ told call client :: rest := by
        rw [updateClient, clients, List.map_append, List.map_cons, if_pos rfl,
          others done (List.subset_append_left _ _), others rest (List.subset_append_right _ _)]
      have succeeds : (state.client? client.id).map call = some (.ok result) := by
        rw [found, Option.map_some, called]
      rw [tell_ok succeeds, ← updated]
      simp [Client.sends, called, updateClient]

theorem tell_foldl (keepsId : ∀ client, (told call client).id = client.id)
    (done rest : List Client) (distinct : ((done ++ rest).map Client.id).Nodup)
    (clients : state.clients = done ++ rest) :
    (rest.map Client.id).foldl (tell call) state = { state with
      clients := done ++ rest.map (told call)
      log := (rest.flatMap (Client.sends call)).reverse ++ state.log } := by
  induction rest generalizing done state with
  | nil => simp [← clients]
  | cons client rest ih =>
      have moved : ((done ++ [told call client] ++ rest).map Client.id).Nodup := by
        simpa [keepsId] using distinct
      rw [List.map_cons, List.foldl_cons, tell_between distinct clients,
        ih (done ++ [told call client]) moved (by simp)]
      simp

theorem tellClients_eq (keepsId : ∀ client, (told call client).id = client.id)
    (distinct : state.clientIds.Nodup) :
    state.tellClients call = { state with
      clients := state.clients.map (told call)
      log := (state.clients.flatMap (Client.sends call)).reverse ++ state.log } :=
  tell_foldl keepsId [] state.clients distinct rfl

theorem told_cancelEndSession_id (client : Client) :
    (told Client.cancelEndSession client).id = client.id :=
  congrArg Wiring.id (Client.keepsWiring_cancelEndSession client)

theorem cancelEndSession_eq (distinct : state.clientIds.Nodup)
    (late : .queryEndSession ≤ state.phase) :
    state.cancelEndSession world = updateIdle { state with
      clients := state.clients.map (told Client.cancelEndSession)
      inhibitors := state.inhibitors.filter (fun one => !one.isJit)
      phase := .running
      phaseTimeout := false
      pendingApps := []
      logoutMode := .normal
      queryClients := []
      queryTimeout := false
      nextQueryClients := []
      logoutType := .none
      inhibitDialog := none
      log := .sessionRunning :: .sessionCancelled ::
        (state.clients.flatMap (Client.sends Client.cancelEndSession)).reverse ++ state.log } := by
  obtain ⟨idle, dropped⟩ :=
    @dropInhibitors_eq { state with inhibitDialog := none } Inhibitor.isJit
  have called := @tellClients_eq { state with
      inhibitDialog := none
      inhibitors := state.inhibitors.filter (fun one => !one.isJit)
      idleEnabled := idle } _ told_cancelEndSession_id distinct
  rw [cancelEndSession, if_neg (Phase.not_lt_query.mpr late)]
  simp only [dropped, called]
  rfl

/-- A running session with nothing left of the logout. -/
structure Restored (before after : State) : Prop where
  phase : after.phase = .running
  logoutMode : after.logoutMode = .normal
  logoutType : after.logoutType = .none
  pendingApps : after.pendingApps = []
  queryClients : after.queryClients = []
  nextQueryClients : after.nextQueryClients = []
  timers : after.phaseTimeout = false ∧ after.queryTimeout = false
  dialog : after.inhibitDialog = none
  inhibitors : after.inhibitors = before.inhibitors.filter (fun one => one.clientId.isNone)
  idle : after.idleEnabled = !after.idleInhibited
  store : after.clientIds = before.clientIds
  wirings : after.clients.map Client.wiring = before.clients.map Client.wiring
  /-- an XSMP client that can be written to has no save, running or queued -/
  slots : ∀ client ∈ after.clients, ∀ save queued handlers connected,
    client.transport = .xsmp save queued handlers connected → save.conn = true → save = .init

/-- What was done on the way. -/
structure Announced (before after : State) (news : List Effect) : Prop where
  log : after.log = news ++ before.log
  dbus : ∀ client ∈ before.clients, client.isDBus = true →
    sentTo client.id news = [.cancelEndSession]
  xsmp : ∀ client ∈ before.clients, client.isDBus = false → client.hasConnection = true →
    sentTo client.id news = [.sms .shutdownCancelled]
  unanswered : ∀ action response, Effect.inhibitDialogAnswered action response ∉ news
  /-- the signals of the removed inhibitors find no dialog to answer in -/
  removed : ∀ world matching, { before with inhibitDialog := none }.removeInhibitors world matching =
    { before with inhibitDialog := none }.dropInhibitors matching

end State

namespace Client

theorem sends_cancelEndSession_dbus {client : Client} (dbus : client.isDBus = true) :
    client.sends cancelEndSession = [.sent client.id .cancelEndSession] := by
  unfold isDBus at dbus
  cases transport : client.transport with
  | dbus name => simp [sends, cancelEndSession, transport]
  | xsmp save queued handlers connected => simp [transport] at dbus

theorem sends_cancelEndSession_xsmp {client : Client} (xsmp : client.isDBus = false)
    (connected : client.hasConnection = true) :
    client.sends cancelEndSession = [.sent client.id (.sms .shutdownCancelled)] := by
  unfold isDBus at xsmp
  unfold hasConnection at connected
  cases transport : client.transport with
  | dbus name => simp [transport] at xsmp
  | xsmp save queued handlers up =>
      rw [transport] at connected
      simp [sends, cancelEndSession, transport, SaveState.cancelEndSession, connected, Except.map]

theorem sends_quiet (call : Client → Except String (Client × List ClientMessage))
    (client : Client) : ∀ effect ∈ client.sends call, ∃ message, effect = .sent client.id message := by
  intro effect member
  unfold sends at member
  split at member
  · obtain ⟨message, _, rfl⟩ := List.mem_map.mp member
    exact ⟨message, rfl⟩
  · cases member

theorem slots_cancelEndSession {client : Client} {save : SaveState} {queued : Option Request}
    {handlers : Nat} {connected : Bool}
    (transport : (State.told cancelEndSession client).transport =
      .xsmp save queued handlers connected)
    (conn : save.conn = true) : save = .init := by
  unfold State.told cancelEndSession at transport
  cases before : client.transport with
  | dbus name => simp [before] at transport
  | xsmp slots waiting handlers up =>
      cases up_ : slots.conn with
      | false =>
          simp [before, SaveState.cancelEndSession, up_, Except.map] at transport
          rw [← transport.1, up_] at conn
          cases conn
      | true =>
          simp [before, SaveState.cancelEndSession, up_, Except.map] at transport
          rw [← transport.1]
          simp [SaveState.init]

end Client

namespace State

variable {world : World} {state : State}

/-- Wherever `cancel_end_session` is called in the end of a session, it restores
the running session and tells each client once. -/
theorem cancelEndSession_restores (world : World) (distinct : state.clientIds.Nodup)
    (late : .queryEndSession ≤ state.phase) :
    state.Restored (state.cancelEndSession world) ∧
      ∃ news, state.Announced (state.cancelEndSession world) news := by
  have jit : (fun one : Inhibitor => !one.isJit) = fun one => one.clientId.isNone := by
    funext one
    simp [Inhibitor.isJit]
  have wirings : (state.clients.map (told Client.cancelEndSession)).map Client.wiring =
      state.clients.map Client.wiring := by
    rw [List.map_map]
    exact List.map_congr_left fun client _ => Client.keepsWiring_cancelEndSession client
  have ids : (state.clients.map (told Client.cancelEndSession)).map Client.id =
      state.clientIds := by
    rw [List.map_map]
    exact List.map_congr_left fun client _ => told_cancelEndSession_id client
  have own (client : Client) (member : client ∈ state.clients) (message : ClientMessage)
      (sends : client.sends Client.cancelEndSession = [.sent client.id message]) :
      sentTo client.id (.sessionRunning :: .sessionCancelled ::
        (state.clients.flatMap (Client.sends Client.cancelEndSession)).reverse) = [message] := by
    have each := @sentTo_sends Client.cancelEndSession _ distinct _ member
    rw [sends, show [Effect.sent client.id message] = [message].map (Effect.sent client.id) from rfl,
      sentTo_sent] at each
    have reversed := sentTo_reverse client.id
      (state.clients.flatMap (Client.sends Client.cancelEndSession))
    rw [each] at reversed
    exact reversed
  rw [cancelEndSession_eq distinct late]
  constructor
  · constructor
    case inhibitors => simp only [updateIdle, jit]
    case store => exact ids
    case wirings => exact wirings
    case slots =>
      intro client member save queued handlers connected transport conn
      obtain ⟨one, _, rfl⟩ := List.mem_map.mp member
      exact Client.slots_cancelEndSession transport conn
    all_goals first | rfl | exact ⟨rfl, rfl⟩
  · refine ⟨_, rfl, fun client member dbus => ?_, fun client member xsmp connected => ?_, ?_,
      fun world matching => removeInhibitors_undialogued rfl matching⟩
    · exact own client member _ (Client.sends_cancelEndSession_dbus dbus)
    · exact own client member _ (Client.sends_cancelEndSession_xsmp xsmp connected)
    · intro action response member
      simp only [List.mem_cons, reduceCtorEq, false_or, List.mem_reverse,
        List.mem_flatMap] at member
      obtain ⟨client, _, sent⟩ := member
      obtain ⟨message, impossible⟩ := Client.sends_quiet _ client _ sent
      cases impossible

end State

/-- In every reachable state in which the session is ending, cancelling restores
a running session, with the clients told once and no answer in the dialog. -/
theorem cancelled_restores {state : State} (reached : managerSystem.Reachable state)
    (late : .queryEndSession ≤ state.phase) (world : World) :
    state.Restored (state.cancelEndSession world) ∧
      ∃ news, state.Announced (state.cancelEndSession world) news :=
  State.cancelEndSession_restores world (shaped_reached reached).distinct late

/-- A terminal that saves itself, an editor that refuses, and a disc being burnt. -/
def refusedSave : List Call :=
  [.acceptConnection, .registerXsmpClient 1 "", .registerClient "editor" "" ":1.4",
    .inhibit "burner" 0 "Burning a disc" 1 ":1.9", .logout 1,
    .endSessionResponse 2 false "Unsaved documents"]

theorem refused_save_restored :
    ∃ state news, afterCalls refusedSave = some state ∧
      state.inhibitors.map Inhibitor.appId = ["burner", "editor"] ∧
      (state.cancelEndSession .permissive).inhibitors.map Inhibitor.appId = ["burner"] ∧
      sentTo 1 news = [.sms .shutdownCancelled] ∧ sentTo 2 news = [.cancelEndSession] := by
  obtain ⟨state, run⟩ : ∃ state, afterCalls refusedSave = some state := ⟨_, rfl⟩
  have reached : managerSystem.Reachable state :=
    afterCalls_reached (System.meets_of_forall fun _ _ _ => trivial) run
  obtain ⟨restored, news, announced⟩ :=
    cancelled_restores reached (by cases run; decide) .permissive
  have terminal : ∃ client ∈ state.clients,
      client.id = 1 ∧ client.isDBus = false ∧ client.hasConnection = true := by
    cases run
    decide
  have editor : ∃ client ∈ state.clients, client.id = 2 ∧ client.isDBus = true := by
    cases run
    decide
  obtain ⟨client, stored, id, xsmp, connected⟩ := terminal
  obtain ⟨other, there, number, dbus⟩ := editor
  refine ⟨state, news, run, ?_, ?_, id ▸ announced.xsmp client stored xsmp connected,
    number ▸ announced.dbus other there dbus⟩
  · cases run
    decide
  · rw [restored.inhibitors]
    cases run
    decide

end CafeSession.Manager
