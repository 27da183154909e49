import CafeSession.Manager.Progress
import CafeSession.Manager.Step

/-! # What decides the end of the session

Most calls change only the inside of the client objects, the apps or the record
of what was done.  `core` is the rest: a call that keeps it plays no part in
the properties of the session's end, and `end_phase` is described by what it
does to it, once for each phase it can end. -/

namespace CafeSession.Manager

open CafeSession.Xsmp

/-- The effects that the properties of the phases, of the clients and of the apps
are about; an app that is started before the session ends is not among them. -/
def Effect.isMark : Effect → Bool
  | .phaseEnded _ | .phaseTimedOut _ | .sessionCancelled | .inhibitDialogAnswered ..
  | .clientDisconnected _ => true
  | .startCalled _ phase | .restartCalled _ phase => decide (.queryEndSession ≤ phase)
  | _ => false

structure Core where
  clientIds : List Nat
  wirings : List Wiring
  clientSerial : Nat
  inhibitors : List Inhibitor
  appIds : List String
  phase : Phase
  phaseTimeout : Bool
  pendingApps : List String
  registeredHandlers : List String
  logoutMode : LogoutMode
  queryClients : List Nat
  queryTimeout : Bool
  nextQueryClients : List Nat
  logoutType : LogoutType
  inhibitDialog : Option LogoutAction
  logoutDialog : Option LogoutDialog
  marks : List Effect
  fault : Option Fault

namespace Core

def removeClient (id : Nat) (core : Core) : Core :=
  { core with
      clientIds := core.clientIds.filter (fun other => other != id)
      wirings := core.wirings.filter (fun wiring => wiring.id != id) }

def connectDisconnected (id : Nat) (core : Core) : Core :=
  { core with
      wirings := core.wirings.map (fun wiring => if wiring.id = id then wiring.connect else wiring) }

/-- `g_object_set` of the startup id of a client. -/
def rename (id : Nat) (startupId : String) (core : Core) : Core :=
  { core with
      wirings := core.wirings.map
        (fun wiring => if wiring.id = id then { wiring with startupId := startupId } else wiring) }

def addClient (wiring : Wiring) (core : Core) : Core :=
  { core with
      clientIds := core.clientIds ++ [core.clientSerial]
      wirings := core.wirings ++ [wiring]
      clientSerial := core.clientSerial + 1 }

/-- The manager has quit. -/
def quit (core : Core) : Core :=
  { core with
      phase := .exit
      phaseTimeout := false
      pendingApps := []
      queryClients := []
      nextQueryClients := []
      fault := if core.logoutType = .none then some .quitType else core.fault }

/-- How the phases before the running phase end: an app is waited for, or the
session runs, and no client has been asked anything. -/
structure Started (before after : Core) : Prop where
  kept : ∃ news : List Effect,
    (∀ effect ∈ news, ∃ ended, effect = .phaseEnded ended ∧ ended.phase < .running) ∧
    Progress before.phase news after.phase ∧
    after = { before with
      phase := after.phase
      phaseTimeout := after.phaseTimeout
      pendingApps := after.pendingApps
      registeredHandlers := after.pendingApps ++ before.registeredHandlers
      queryClients := []
      queryTimeout := false
      nextQueryClients := []
      marks := news ++ before.marks }
  phase : after.phase ≤ .running
  timed : after.phaseTimeout = true ↔ after.pendingApps ≠ []
  pending : after.pendingApps ≠ [] → after.phase < .application
  apps : after.pendingApps.Sublist before.appIds.reverse

/-- What `start_phase` clears anyway does not matter. -/
theorem Started.of_pending {before after : Core} {pending : List String}
    (starts : before.Started after) : { before with pendingApps := pending }.Started after :=
  ⟨starts.kept, starts.phase, starts.timed, starts.pending, starts.apps⟩

end Core

/-- A call on a client object does not touch its connection. -/
def KeepsWiring (call : Client → Except String (Client × List ClientMessage)) : Prop :=
  ∀ client, (State.told call client).wiring = client.wiring

namespace Client

variable {client : Client}

@[simp] theorem wiring_written (save : SaveState) (queued : Option Request) (handlers : Nat)
    (connected : Bool) (request : Request) (result : SaveState × List SmsMessage) :
    (client.written save queued handlers connected request result).wiring =
      ⟨client.id, client.startupId, none, handlers⟩ := by
  unfold written
  split_ifs <;> rfl

theorem wiring_slots {save : SaveState} {queued : Option Request} {handlers : Nat}
    {connected : Bool} (called : Except String (SaveState × List SmsMessage))
    {stored : SaveState × List SmsMessage → Client × List ClientMessage}
    (transport : client.transport = .xsmp save queued handlers connected)
    (same : ∀ result, (stored result).1.wiring = ⟨client.id, client.startupId, none, handlers⟩) :
    (match called.map stored with
      | .ok (left, _) => left
      | .error _ => client).wiring = client.wiring := by
  have kept : client.wiring = ⟨client.id, client.startupId, none, handlers⟩ := by
    simp [wiring, busName, Client.handlers, transport]
  cases called with
  | error _ => rfl
  | ok result => exact (same result).trans kept.symm

theorem keepsWiring_queryEndSession (flags : EndSessionFlags) :
    KeepsWiring (queryEndSession flags) := by
  rintro ⟨id, transport, startupId, appId, unanswered⟩
  cases transport with
  | dbus name => rfl
  | xsmp save queued handlers connected =>
      exact wiring_slots _ rfl fun result => wiring_written _ _ _ _ _ _

theorem keepsWiring_endSession (flags : EndSessionFlags) : KeepsWiring (endSession flags) := by
  rintro ⟨id, transport, startupId, appId, unanswered⟩
  cases transport with
  | dbus name => rfl
  | xsmp save queued handlers connected =>
      exact wiring_slots _ rfl fun result => wiring_written _ _ _ _ _ _

theorem keepsWiring_cancelEndSession : KeepsWiring cancelEndSession := by
  rintro ⟨id, transport, startupId, appId, unanswered⟩
  cases transport with
  | dbus name => rfl
  | xsmp save queued handlers connected => exact wiring_slots _ rfl fun _ => rfl

theorem keepsWiring_stop : KeepsWiring stop := by
  rintro ⟨id, transport, startupId, appId, unanswered⟩
  cases transport with
  | dbus name => rfl
  | xsmp save queued handlers connected => exact wiring_slots _ rfl fun _ => rfl

theorem keepsWiring_saveCall (request : Request)
    (call : SaveState → SaveState × List SmsMessage) : KeepsWiring (saveCall request call) := by
  rintro ⟨id, transport, startupId, appId, unanswered⟩
  cases transport with
  | dbus name => rfl
  | xsmp save queued handlers connected => exact wiring_written _ _ _ _ _ _

theorem keepsWiring_doneFinished : KeepsWiring doneFinished := by
  rintro ⟨id, transport, startupId, appId, unanswered⟩
  cases transport <;> rfl

end Client

namespace State

variable {world : World} {state : State}

def core (state : State) : Core where
  clientIds := state.clientIds
  wirings := state.clients.map Client.wiring
  clientSerial := state.clientSerial
  inhibitors := state.inhibitors
  appIds := state.apps.map App.id
  phase := state.phase
  phaseTimeout := state.phaseTimeout
  pendingApps := state.pendingApps
  registeredHandlers := state.registeredHandlers
  logoutMode := state.logoutMode
  queryClients := state.queryClients
  queryTimeout := state.queryTimeout
  nextQueryClients := state.nextQueryClients
  logoutType := state.logoutType
  inhibitDialog := state.inhibitDialog
  logoutDialog := state.logoutDialog
  marks := state.log.filter Effect.isMark
  fault := state.fault

theorem core_emit {effect : Effect} (quiet : effect.isMark = false) :
    (state.emit effect).core = state.core := by
  simp [core, emit, clientIds, quiet]

@[simp] theorem core_updateIdle : state.updateIdle.core = state.core := rfl

theorem core_rewire {id : Nat} {update : Client → Client} {rewire : Wiring → Wiring}
    (same : ∀ client, (update client).wiring = rewire client.wiring)
    (keepsId : ∀ wiring, (rewire wiring).id = wiring.id) :
    (state.updateClient id update).core = { state.core with
      wirings := state.core.wirings.map
        (fun wiring => if wiring.id = id then rewire wiring else wiring) } := by
  have wirings : (state.updateClient id update).clients.map Client.wiring =
      (state.clients.map Client.wiring).map
        (fun wiring => if wiring.id = id then rewire wiring else wiring) := by
    simp only [updateClient, List.map_map]
    apply List.map_congr_left
    intro client _
    simp only [Function.comp]
    rw [show client.wiring.id = client.id from rfl]
    split_ifs
    · exact same client
    · rfl
  have ids : (state.updateClient id update).clientIds = state.clientIds := by
    simp only [clientIds, updateClient, List.map_map]
    apply List.map_congr_left
    intro client _
    simp only [Function.comp]
    split_ifs
    · exact (congrArg Wiring.id (same client)).trans (keepsId client.wiring)
    · rfl
  simp only [core, ids, wirings]
  rfl

theorem core_updateClient {id : Nat} {update : Client → Client}
    (same : ∀ client : Client, (update client).wiring = client.wiring) :
    (state.updateClient id update).core = state.core := by
  rw [core_rewire same (fun _ => rfl)]
  simp only [ite_self, List.map_id']

theorem client?_id {id : Nat} {client : Client} (found : state.client? id = some client) :
    client.id = id := by
  have hit := List.find?_some (p := fun client : Client => client.id == id) found
  simpa using hit

theorem core_tell {call : Client → Except String (Client × List ClientMessage)}
    (keeps : KeepsWiring call) (id : Nat) : (state.tell call id).core = state.core := by
  have updated : (state.updateClient id (told call)).core = state.core :=
    core_updateClient keeps
  unfold tell
  split
  · next messages _ =>
      have quiet : (messages.map (Effect.sent id)).reverse.filter Effect.isMark = [] := by
        simp [Effect.isMark]
      have marked : ((messages.map (Effect.sent id)).reverse ++ state.log).filter
          Effect.isMark = state.log.filter Effect.isMark := by
        rw [List.filter_append, quiet, List.nil_append]
      rw [← updated]
      simp only [core, updateClient, clientIds, marked]
  · rfl

theorem core_tellClients {call : Client → Except String (Client × List ClientMessage)}
    (keeps : KeepsWiring call) : (state.tellClients call).core = state.core := by
  unfold tellClients
  induction state.clientIds generalizing state with
  | nil => rfl
  | cons id ids ih => rw [List.foldl_cons, ih, core_tell keeps]

/-- The ids that could be asked are put in front, the last one first. -/
theorem core_ask_foldl {call : Client → Except String (Client × List ClientMessage)}
    (keeps : KeepsWiring call) (ids : List Nat) :
    ∃ asked : List Nat, asked.Sublist ids.reverse ∧
      (ids.foldl (ask call) state).core =
        { state.core with queryClients := asked ++ state.queryClients } := by
  induction ids generalizing state with
  | nil => exact ⟨[], List.Sublist.refl _, rfl⟩
  | cons id ids ih =>
      obtain ⟨asked, sublist, rest⟩ := @ih (state.ask call id)
      rw [List.foldl_cons, rest, List.reverse_cons]
      cases called : (state.client? id).map call with
      | none =>
          have same : state.ask call id = state := by simp [ask, called]
          exact ⟨asked, sublist.trans (List.sublist_append_left _ _), by rw [same]⟩
      | some result =>
          cases result with
          | error _ =>
              have same : state.ask call id = state := by simp [ask, called]
              exact ⟨asked, sublist.trans (List.sublist_append_left _ _), by rw [same]⟩
          | ok told =>
              have same : state.ask call id =
                  { state.tell call id with queryClients := id :: state.queryClients } := by
                simp [ask, called]
              have kept := @core_tell state call keeps id
              refine ⟨asked ++ [id], sublist.append_right _, ?_⟩
              rw [same, List.append_assoc, List.singleton_append]
              rw [← kept]
              rfl

/-- Ending the running phase asks the clients whether the session may end. -/
theorem core_endPhase_running (running : state.phase = .running)
    (open_ : world.logOutDisabled = false) :
    ∃ asked : List Nat, asked.Sublist state.clientIds.reverse ∧
      (state.endPhase world).core = { state.core with
        phase := .queryEndSession
        phaseTimeout := false
        pendingApps := []
        queryClients := asked
        queryTimeout := true
        nextQueryClients := []
        marks := .phaseEnded state.phaseEnd :: state.core.marks } := by
  have next : state.advance.phase = .queryEndSession := by simp [advance, running, Phase.next]
  obtain ⟨asked, sublist, core⟩ := @core_ask_foldl state.advance.resetPhase _
    (Client.keepsWiring_queryEndSession { forceful := state.advance.resetPhase.logoutMode = .force })
    state.clientIds
  refine ⟨asked ++ [], by simpa using sublist, ?_⟩
  rw [endPhase_running running open_]
  have timed : state.advance.resetPhase.doPhaseQueryEndSession.core = { (state.clientIds.foldl
      (ask (Client.queryEndSession
        { forceful := state.advance.resetPhase.logoutMode = .force }))
      state.advance.resetPhase).core with queryTimeout := true } := rfl
  rw [timed, core, ← next]
  rfl

theorem core_endPhase_query (query : state.phase = .queryEndSession)
    (clients : state.clients ≠ []) :
    ∃ asked : List Nat, asked.Sublist state.clientIds.reverse ∧
      (state.endPhase world).core = { state.core with
        phase := .endSession
        phaseTimeout := true
        pendingApps := []
        queryClients := asked
        queryTimeout := false
        nextQueryClients := []
        marks := .phaseEnded state.phaseEnd :: state.core.marks } := by
  have next : state.advance.phase = .endSession := by simp [advance, query, Phase.next]
  obtain ⟨asked, sublist, core⟩ := @core_ask_foldl
    { state.advance.resetPhase with phaseTimeout := true } _
    (Client.keepsWiring_endSession (state.advance.resetPhase.endSessionFlags world false))
    state.clientIds
  refine ⟨asked ++ [], by simpa using sublist, ?_⟩
  have asking : state.advance.resetPhase.endSessionOfClients world = state.clientIds.foldl
      (ask (Client.endSession (state.advance.resetPhase.endSessionFlags world false)))
      { state.advance.resetPhase with phaseTimeout := true } := rfl
  rw [endPhase_query query clients, asking, core, ← next]
  rfl

theorem core_quit : state.quit.core = { state.core with
    fault := if state.logoutType = .none then some .quitType else state.fault } := by
  unfold quit
  cases type : state.logoutType <;> simp [core, emit, clientIds, Effect.isMark, type]

theorem core_endPhase_exit (exit : state.phase = .exit) :
    (state.endPhase world).core = state.core.quit := by
  rw [endPhase_exit exit, core_quit, Core.quit,
    show state.core.logoutType = state.logoutType from rfl, ← exit]
  rfl

theorem core_endPhase_endSession (ending : state.phase = .endSession) :
    (state.endPhase world).core = { state.core with
      queryTimeout := false
      marks := .phaseEnded state.phaseEnd :: state.core.marks }.quit := by
  have next : state.advance.phase = .exit := by simp [advance, ending, Phase.next]
  have savedCore : (state.advance.maybeSaveSession world).core = state.advance.core := by
    unfold maybeSaveSession
    split_ifs
    · exact core_emit rfl
    · rfl
  let saved := state.advance.maybeSaveSession world
  have stopped : (saved.resetPhase.tellClients Client.stop).core =
      { state.core with
        phase := .exit
        phaseTimeout := false
        pendingApps := []
        queryClients := []
        queryTimeout := false
        nextQueryClients := []
        marks := .phaseEnded state.phaseEnd :: state.core.marks } := by
    have reset : saved.resetPhase.core = { saved.core with
        phaseTimeout := false
        pendingApps := []
        queryClients := []
        queryTimeout := false
        nextQueryClients := [] } := rfl
    rw [core_tellClients Client.keepsWiring_stop, reset, savedCore, ← next]
    rfl
  have quits : (saved.resetPhase.tellClients Client.stop).phase = .exit :=
    congrArg Core.phase stopped
  rw [endPhase_endSession ending, ← @endPhase_exit world _ quits, core_endPhase_exit quits, stopped]
  rfl

theorem core_endPhase_query_empty (query : state.phase = .queryEndSession)
    (empty : state.clients = []) :
    (state.endPhase world).core = { state.core with
      queryTimeout := false
      marks := .phaseEnded state.advance.phaseEnd :: .phaseEnded state.phaseEnd ::
        state.core.marks }.quit := by
  have next : state.advance.phase = .endSession := by simp [advance, query, Phase.next]
  have ending : state.advance.resetPhase.phase = .endSession := next
  rw [endPhase_query_empty query empty, core_endPhase_endSession ending]
  rfl

theorem core_startApp (early : state.phase < .running) (app : App) :
    ∃ pending : List String, pending.Sublist [app.id] ∧
      (pending ≠ [] → state.phase < .application) ∧
      (state.startApp world app).core = { state.core with
        pendingApps := pending ++ state.pendingApps
        registeredHandlers := pending ++ state.registeredHandlers } := by
  have quiet : Effect.isMark (.startCalled app.id state.phase) = false := by
    simpa [Effect.isMark] using Phase.not_query_le.mpr (Nat.lt_succ_of_lt early)
  have called : ∀ watched : State, watched.core = state.core →
      (watched.emit (.startCalled app.id state.phase)).core = state.core :=
    fun watched same => (core_emit quiet).trans same
  unfold startApp
  split_ifs with other disabled delayed waits
  · exact ⟨[], List.nil_sublist _, fun some_ => absurd rfl some_, rfl⟩
  · exact ⟨[], List.nil_sublist _, fun some_ => absurd rfl some_, rfl⟩
  · exact ⟨[], List.nil_sublist _, fun some_ => absurd rfl some_, rfl⟩
  · refine ⟨[app.id], List.Sublist.refl _, fun _ => waits.2, ?_⟩
    rw [← called { state with watchedApps := app.id :: state.watchedApps } rfl]
    rfl
  · exact ⟨[], List.nil_sublist _, fun some_ => absurd rfl some_, called _ rfl⟩

theorem core_startApps (early : state.phase < .running) :
    ∃ pending : List String, pending.Sublist (state.apps.map App.id).reverse ∧
      (pending ≠ [] → state.phase < .application) ∧
      (state.startApps world).core = { state.core with
        pendingApps := pending ++ state.pendingApps
        registeredHandlers := pending ++ state.registeredHandlers } := by
  unfold startApps
  induction state.apps generalizing state with
  | nil => exact ⟨[], List.Sublist.refl _, fun some_ => absurd rfl some_, rfl⟩
  | cons app apps ih =>
      obtain ⟨first, one, firstEarly, started⟩ := @core_startApp world state early app
      obtain ⟨later, rest, laterEarly, startedRest⟩ :=
        @ih (state.startApp world app) ((phase_startApp world state app).symm ▸ early)
      rw [phase_startApp] at laterEarly
      refine ⟨later ++ first, ?_, fun some_ => ?_, ?_⟩
      · rw [List.map_cons, List.reverse_cons]
        exact rest.append one
      · cases first with
        | nil => exact laterEarly (by simpa using some_)
        | cons id ids => exact firstEarly (List.cons_ne_nil _ _)
      · have pending : (state.startApp world app).pendingApps = first ++ state.pendingApps :=
          congrArg Core.pendingApps started
        have handlers : (state.startApp world app).registeredHandlers =
            first ++ state.registeredHandlers := congrArg Core.registeredHandlers started
        rw [List.foldl_cons, startedRest, started, pending, handlers, List.append_assoc,
          List.append_assoc]

/-- The phases that start their apps. -/
theorem startPhaseWith_startup {endPhase : State → State} (early : state.phase < .running) :
    startPhaseWith endPhase world state =
      if (state.resetPhase.startApps world).pendingApps = [] then
        endPhase (state.resetPhase.startApps world)
      else if (state.resetPhase.startApps world).phase < .application then
        { state.resetPhase.startApps world with phaseTimeout := true }
      else
        state.resetPhase.startApps world := by
  unfold startPhaseWith
  cases phase : state.phase <;> simp [phase, Phase.lt_def, Phase.number] at early <;> rfl

theorem startPhase_startup {started : State} (early : state.phase < .running)
    (starts : state.resetPhase.startApps world = started) :
    state.startPhase world =
      if started.pendingApps = [] then started.endPhase world
      else if started.phase < .application then { started with phaseTimeout := true }
      else started := by
  subst starts
  exact startPhaseWith_startup early

theorem endPhase_startup (early : state.phase < .running) :
    state.endPhase world = state.advance.startPhase world := by
  rw [endPhase_eq]
  unfold endPhaseWith
  cases phase : state.phase <;> simp [phase, Phase.lt_def, Phase.number] at early <;> rfl

theorem core_startPhase_running (running : state.phase = .running) :
    (state.startPhase world).core = state.resetPhase.core := by
  have quiet := @core_emit state.resetPhase .sessionRunning rfl
  simp only [startPhase, startPhaseWith, running, core_updateIdle, quiet]

theorem progress_advance (more : state.phase ≠ .exit) :
    Progress state.phase [.phaseEnded state.phaseEnd] state.advance.phase :=
  @Progress.one state.phaseEnd more

theorem core_startPhase (starting : state.phase ≤ .running) :
    state.core.Started (state.startPhase world).core := by
  obtain ⟨steps, left⟩ : ∃ steps, state.phase.number + steps = 6 :=
    (Nat.exists_eq_add_of_le starting).imp fun _ same => same.symm
  induction steps generalizing state with
  | zero =>
      have running : state.phase = .running := by
        cases phase : state.phase <;> simp [phase, Phase.number] at left
        rfl
      rw [core_startPhase_running running]
      exact ⟨⟨[], by simp, .refl, rfl⟩, starting, by simp [core, resetPhase, clearPhase],
        by simp [core, resetPhase, clearPhase], List.nil_sublist _⟩
  | succ steps ih =>
      have early : state.phase < .running := by
        change state.phase.number < 6
        omega
      obtain ⟨pending, apps, pendingEarly, appsCore⟩ := @core_startApps world state.resetPhase early
      obtain ⟨started, starts⟩ : ∃ started, state.resetPhase.startApps world = started := ⟨_, rfl⟩
      have noPending : pending ++ state.resetPhase.pendingApps = pending := List.append_nil _
      rw [starts, noPending] at appsCore
      have samePhase : started.phase = state.phase := by
        rw [← starts, phase_startApps]
        rfl
      have samePending : started.pendingApps = pending := congrArg Core.pendingApps appsCore
      have startedCore : started.core = { state.core with
          phaseTimeout := false
          pendingApps := pending
          registeredHandlers := pending ++ state.registeredHandlers
          queryClients := []
          queryTimeout := false
          nextQueryClients := [] } := appsCore
      rw [startPhase_startup early starts]
      by_cases waits : started.pendingApps = []
      · have more : started.phase ≠ .exit := by
          rw [samePhase]
          intro exit
          simp [exit, Phase.lt_def, Phase.number] at early
        have nextNumber : started.advance.phase.number = state.phase.number + 1 := by
          rw [show started.advance.phase = started.phase.next from rfl, Phase.number_next more,
            samePhase]
        have nextStarting : started.advance.phase ≤ .running := by
          rw [Phase.le_def, nextNumber]
          change state.phase.number + 1 ≤ 6
          omega
        have later := ih nextStarting (by omega)
        obtain ⟨news, startup, progress, kept⟩ := later.kept
        have ended : started.phaseEnd.phase < .running := by
          rw [show started.phaseEnd.phase = started.phase from rfl, samePhase]
          exact early
        have advanced : started.advance.core = { started.core with
            phase := started.phase.next
            phaseTimeout := false
            pendingApps := []
            queryClients := []
            nextQueryClients := []
            marks := .phaseEnded started.phaseEnd :: started.core.marks } := rfl
        have startedEarly : started.phase < .running := by
          rw [samePhase]
          exact early
        have first : Progress state.phase [.phaseEnded started.phaseEnd] started.advance.phase := by
          rw [← samePhase]
          exact progress_advance more
        have sameApps : started.advance.core.appIds = state.core.appIds := by
          rw [advanced, startedCore]
        rw [if_pos waits, endPhase_startup startedEarly]
        refine ⟨⟨news ++ [Effect.phaseEnded started.phaseEnd], ?_, first.trans progress, ?_⟩,
          later.phase, later.timed, later.pending, ?_⟩
        · intro effect member
          rcases List.mem_append.mp member with new | last
          · exact startup effect new
          · exact ⟨_, List.mem_singleton.mp last, ended⟩
        · rw [kept, advanced, startedCore, List.append_assoc, samePending.symm.trans waits]
          rfl
        · rw [← sameApps]
          exact later.apps
      · have waitsEarly : state.phase < .application := pendingEarly fun none_ =>
          waits (samePending.trans none_)
        have startedEarly : started.phase < .application := by
          rw [samePhase]
          exact waitsEarly
        rw [if_neg waits, if_pos startedEarly]
        have timedCore : { started with phaseTimeout := true }.core =
            { started.core with phaseTimeout := true } := rfl
        refine ⟨⟨[], by simp, ?_, ?_⟩, ?_, ⟨fun _ => waits, fun _ => rfl⟩, fun _ => startedEarly, ?_⟩
        · rw [timedCore, startedCore]
          exact .refl
        · rw [timedCore, startedCore]
          rfl
        · change started.phase ≤ .running
          rw [samePhase]
          exact starting
        · change started.pendingApps.Sublist _
          rw [samePending]
          exact apps

theorem core_endPhase_startup (early : state.phase < .running) :
    state.core.Started (state.endPhase world).core := by
  have more : state.phase ≠ .exit := by
    intro exit
    simp [exit, Phase.lt_def, Phase.number] at early
  have next : state.advance.phase ≤ .running := by
    rw [Phase.le_def, show state.advance.phase = state.phase.next from rfl, Phase.number_next more]
    exact early
  have started := @core_startPhase world state.advance next
  obtain ⟨news, startup, progress, kept⟩ := started.kept
  rw [endPhase_startup early]
  refine ⟨⟨news ++ [Effect.phaseEnded state.phaseEnd], ?_, (progress_advance more).trans progress, ?_⟩,
    started.phase,
    started.timed, started.pending, started.apps⟩
  · intro effect member
    rcases List.mem_append.mp member with new | last
    · exact startup effect new
    · exact ⟨_, List.mem_singleton.mp last, early⟩
  · rw [kept, List.append_assoc]
    rfl

/-- What the end of a phase does to the core, by the phase that ends. -/
inductive Ending (world : World) (state : State) : Core → Prop
  | startup {after : Core} (early : state.phase < .running) (starts : state.core.Started after) :
      Ending world state after
  | locked (running : state.phase = .running) (locked : world.logOutDisabled = true) :
      Ending world state { state.core with
        phaseTimeout := false
        pendingApps := []
        queryClients := []
        nextQueryClients := [] }
  | asked {asked : List Nat} (running : state.phase = .running)
      (unlocked : world.logOutDisabled = false) (sublist : asked.Sublist state.clientIds.reverse) :
      Ending world state { state.core with
        phase := .queryEndSession
        phaseTimeout := false
        pendingApps := []
        queryClients := asked
        queryTimeout := true
        nextQueryClients := []
        marks := .phaseEnded state.phaseEnd :: state.core.marks }
  | ending {asked : List Nat} (query : state.phase = .queryEndSession)
      (clients : state.clients ≠ []) (sublist : asked.Sublist state.clientIds.reverse) :
      Ending world state { state.core with
        phase := .endSession
        phaseTimeout := true
        pendingApps := []
        queryClients := asked
        queryTimeout := false
        nextQueryClients := []
        marks := .phaseEnded state.phaseEnd :: state.core.marks }
  /-- without clients there is nothing to wait for -/
  | emptied (query : state.phase = .queryEndSession) (empty : state.clients = []) :
      Ending world state { state.core with
        queryTimeout := false
        marks := .phaseEnded state.advance.phaseEnd :: .phaseEnded state.phaseEnd ::
          state.core.marks }.quit
  | ended (ending : state.phase = .endSession) :
      Ending world state { state.core with
        queryTimeout := false
        marks := .phaseEnded state.phaseEnd :: state.core.marks }.quit
  | quit (exit : state.phase = .exit) : Ending world state state.core.quit

theorem endPhase_ending (world : World) (state : State) :
    Ending world state (state.endPhase world).core := by
  by_cases early : state.phase < .running
  · exact .startup early (core_endPhase_startup early)
  cases phase : state.phase with
  | running =>
      cases locked : world.logOutDisabled with
      | true =>
          rw [endPhase_locked phase locked]
          exact .locked phase locked
      | false =>
          obtain ⟨asked, sublist, core⟩ := core_endPhase_running phase locked
          rw [core]
          exact .asked phase locked sublist
  | queryEndSession =>
      by_cases empty : state.clients = []
      · rw [core_endPhase_query_empty phase empty]
        exact .emptied phase empty
      · obtain ⟨asked, sublist, core⟩ := @core_endPhase_query world state phase empty
        rw [core]
        exact .ending phase empty sublist
  | endSession =>
      rw [core_endPhase_endSession phase]
      exact .ended phase
  | exit =>
      rw [core_endPhase_exit phase]
      exact .quit phase
  | _ => exact absurd (by rw [phase]; decide) early

end State

end CafeSession.Manager
