import CafeSession.Autostart.Condition
import CafeSession.Manager.Following
import CafeSession.Manager.Reach

namespace CafeSession.Manager

open CafeSession.Transition CafeSession.Autostart CafeSession.Shell

namespace State

/-- The client is in the store under the startup id. -/
def HasClient (id : Nat) (startupId : String) (state : State) : Prop :=
  ∃ client ∈ state.clients, client.id = id ∧ client.hasStartupId startupId = true

/-- No client is listed twice, and each is the client of an app whose condition
is not met. -/
structure Listed (unmet : App → Prop) (state : State) : Prop where
  once : state.conditionClients.Nodup
  current : ∀ id ∈ state.conditionClients,
    ∃ app ∈ state.apps, unmet app ∧ state.HasClient id app.startupId

end State

/-- The apps whose condition the call evaluates. -/
def Call.evaluated (before after : State) : Call → List String
  | .autostartDelayTimeout app => [app]
  | _ => before.newlyFollowed after

structure Conditioned where
  session : State
  /-- the condition of the app with the id -/
  conditions : String → Conditional

inductive Happening where
  | call (call : Call)
  | monitor (app : String) (event : MonitorEvent)

structure ConditionedEvent where
  world : World
  environment : Environment
  disabledOutright : String → Bool
  happening : Happening

namespace ConditionedEvent

variable (event : ConditionedEvent) (conditions : String → Conditional)

/-- The manager sees an app as disabled outright or for its condition. -/
def answers : World :=
  { event.world with appDisabled := fun id =>
      event.disabledOutright id || ((conditions id).isConditionallyDisabled event.environment).1 }

/-- `debug_app_summary`, which asks every app of a startup phase for its condition. -/
def debugAppSummary (apps : List App) : String → Conditional := fun id =>
  if ∃ app ∈ apps, app.id = id ∧ .initialization ≤ app.phase ∧ app.phase < .running then
    ((conditions id).isConditionallyDisabled event.environment).2
  else
    conditions id

/-- An app that is disabled outright is not asked for its condition. -/
def evaluate (apps : List String) : String → Conditional := fun id =>
  if id ∈ apps ∧ event.disabledOutright id = false then
    ((conditions id).isConditionallyDisabled event.environment).2
  else
    conditions id

end ConditionedEvent

namespace Conditioned

/-- The monitor of the app says something. -/
def monitor (state : Conditioned) (event : ConditionedEvent) (app : String)
    (monitorEvent : MonitorEvent) : Option Conditioned :=
  let (noted, changed) := (state.conditions app).conditionCb event.environment monitorEvent
  let conditions := Function.update state.conditions app noted
  match changed with
  | none => some state
  | some condition =>
      if state.session.watchedApps.contains app then
        (state.session.step ⟨event.answers state.conditions, .conditionChanged app condition⟩).map
          fun session => ⟨session, conditions⟩
      else
        some ⟨state.session, conditions⟩

def step (state : Conditioned) (event : ConditionedEvent) : Option Conditioned :=
  match state.session.fault with
  | some _ => none
  | none =>
      match event.happening with
      -- an app emits the signal in the callback of its monitor only
      | .call (.conditionChanged _ _) => none
      | .call call =>
          (state.session.step ⟨event.answers state.conditions, call⟩).map fun session =>
            ⟨session, event.evaluate state.conditions (call.evaluated state.session session)⟩
      | .monitor app monitorEvent => state.monitor event app monitorEvent

/-- The manager when its main loop starts; the event says what the start reads. -/
def start (event : ConditionedEvent) (conditions : String → Conditional) (apps : List App) :
    Conditioned :=
  let conditions := event.debugAppSummary conditions apps
  let session := State.start (event.answers conditions) apps
  ⟨session, event.evaluate conditions session.watchedApps⟩

def system : System Conditioned ConditionedEvent where
  -- the apps are loaded one by one before the start
  initial state := ∃ (event : ConditionedEvent) (environments : String → Environment)
      (disabled : String → Bool) (texts : String → Option Bytes) (apps : List App),
    (apps.map App.id).Nodup ∧ state =
      start event (fun id => Conditional.loaded (environments id) (disabled id) (texts id)) apps
  step := step

/-- The app has a condition, which is not met as far as the app knows. -/
def Unmet (state : Conditioned) (app : App) : Prop :=
  (state.conditions app.id).conditionString ≠ none ∧ (state.conditions app.id).condition = false

/-- `condition_clients` is exact: nothing is listed twice, only clients of the
store whose app's condition is not met are, and so a client of apps whose
conditions are met can be restarted. -/
structure Exact (state : Conditioned) : Prop where
  listed : state.session.Listed state.Unmet
  restarts : ∀ client ∈ state.session.clients, (∀ app ∈ state.session.apps,
    client.hasStartupId app.startupId = true → ¬ state.Unmet app) →
      client.id ∉ state.session.conditionClients

/-- An app that is followed and whose condition is not met. -/
def Excluded (state : Conditioned) (app : App) : Prop :=
  app ∈ state.session.apps ∧ app.id ∈ state.session.watchedApps ∧ state.Unmet app

/-- Another app of the startup id is excluded. -/
def OtherExcluded (state : Conditioned) (app : String) (startupId : String) : Prop :=
  ∃ other, state.Excluded other ∧ other.id ≠ app ∧ other.startupId = startupId

/-- The clients of the app have left, unless another app excludes them. -/
def Vacated (state : Conditioned) (app : String) : Prop :=
  ∀ found, state.Excluded found → found.id = app → ∀ id, state.session.HasClient id found.startupId →
    state.OtherExcluded app found.startupId

/-- The app is the first to exclude the client that it is stopped with. -/
def FirstToStop (state : Conditioned) (app : String) : Prop :=
  app ∈ state.session.watchedApps → ∀ found, state.session.app? app = some found →
    ∀ id, state.session.HasClient id found.startupId → ¬ state.OtherExcluded app found.startupId

/-- No condition becomes true, and none becomes false again, before the clients that
it excludes have left, and no such client gets another startup id. -/
def Timely (state : Conditioned) (event : ConditionedEvent) : Prop :=
  match event.happening with
  | .monitor app monitorEvent =>
      match ((state.conditions app).conditionCb event.environment monitorEvent).2 with
      | some true => state.Vacated app
      | some false => state.FirstToStop app
      | none => True
  | .call (.autostartDelayTimeout app) =>
      (event.evaluate state.conditions [app] app).condition = true → state.Vacated app
  | .call (.registerXsmpClient id previousId) =>
      (∃ app, state.Excluded app ∧ state.session.HasClient id app.startupId) →
        (state.session.onXsmpClientRegisterRequest
          (event.answers state.conditions) id previousId).2 = ""
  | .call _ => True

end Conditioned

namespace State

variable {world : World} {request : Call} {state before after : State}

theorem hasClient_iff {id : Nat} {startupId : String} :
    state.HasClient id startupId ↔ startupId ≠ "" ∧ (id, startupId) ∈ state.names := by
  constructor
  · rintro ⟨client, stored, rfl, named⟩
    simp only [Client.hasStartupId, Bool.and_eq_true, bne_iff_ne, beq_iff_eq] at named
    obtain ⟨given, rfl⟩ := named
    exact ⟨given, List.mem_map_of_mem stored⟩
  · rintro ⟨given, listed⟩
    obtain ⟨client, stored, name⟩ := List.mem_map.mp listed
    simp only [Client.name, Prod.mk.injEq] at name
    obtain ⟨rfl, rfl⟩ := name
    exact ⟨client, stored, rfl, by simp [Client.hasStartupId, given]⟩

/-- What the list is about. -/
def listView (state : State) : List App × List (Nat × String) × List Nat :=
  (state.apps, state.names, state.conditionClients)

theorem Aside.listView (same : before.Aside after) : after.listView = before.listView := by
  rw [State.listView, same.apps, same.names, same.conditionClients, State.listView]

theorem listView_startApp (state : State) (app : App) :
    (state.startApp world app).listView = state.listView := by
  simp only [startApp]
  split_ifs <;> rfl

theorem listView_stages (moved : Stages world before after) :
    after.listView = before.listView := by
  induction moved with
  | refl => rfl
  | @tail middle _ _ last ih =>
      rw [← ih]
      cases last with
      | aside same => exact same.listView
      | cleared => rfl
      | reset => rfl
      | advanced => rfl
      | called app => exact listView_startApp middle app
      | ran => rfl

theorem listView_changes (changes : Changes world before after) :
    after.listView = before.listView := by
  induction changes with
  | refl => rfl
  | @tail middle _ _ last ih =>
      rw [← ih]
      cases last with
      | aside same => exact same.listView
      | restocked => rfl
      | registered => rfl
      | ended => exact listView_stages (stages_endPhase middle)
      | lastRegistered id =>
          have ended := listView_stages
            (@stages_endPhase world { middle.unpend id with phaseTimeout := false })
          exact ended
      | resumed =>
          have resumed := listView_stages (@stages_startPhase world { middle with phase := .running })
          exact resumed

variable {unmet : App → Prop}

theorem Listed.of_view (listed : before.Listed unmet)
    (same : after.listView = before.listView) : after.Listed unmet := by
  simp only [listView, Prod.mk.injEq] at same
  obtain ⟨apps, names, clients⟩ := same
  constructor
  · rw [clients]
    exact listed.once
  · intro id member
    rw [clients] at member
    obtain ⟨app, stored, still, has⟩ := listed.current id member
    rw [hasClient_iff, ← names, ← hasClient_iff] at has
    exact ⟨app, apps ▸ stored, still, has⟩

theorem Listed.imp {other : App → Prop} (listed : state.Listed unmet)
    (implied : ∀ app, unmet app → other app) : state.Listed other where
  once := listed.once
  current id member := by
    obtain ⟨app, stored, still, has⟩ := listed.current id member
    exact ⟨app, stored, implied app still, has⟩

/-- Clients that are added or leave take no other client with them. -/
theorem Listed.of_names (listed : before.Listed unmet) (apps : after.apps = before.apps)
    (clients : after.conditionClients.Sublist before.conditionClients)
    (names : ∀ id ∈ after.conditionClients, ∀ startupId,
      (id, startupId) ∈ before.names → (id, startupId) ∈ after.names) : after.Listed unmet where
  once := listed.once.sublist clients
  current id member := by
    obtain ⟨app, stored, still, has⟩ := listed.current id (clients.subset member)
    obtain ⟨given, named⟩ := hasClient_iff.mp has
    exact ⟨app, apps ▸ stored, still, hasClient_iff.mpr ⟨given, names id member _ named⟩⟩

theorem names_removeClient (id : Nat) (state : State) :
    (state.removeClient id).names = state.names.filter (fun name => name.1 != id) := by
  simp only [names, removeClient, List.filter_map]
  rfl

theorem listed_left {middle : State} {id : Nat} (listed : before.Listed unmet)
    (changes : Changes world
      { before with conditionClients := before.conditionClients.erase id } middle) :
    (middle.removeClient id).Listed unmet := by
  have same := listView_changes changes
  simp only [listView, Prod.mk.injEq] at same
  obtain ⟨apps, names, clients⟩ := same
  have names : middle.names = before.names := names
  refine listed.of_names apps ?_ ?_
  · rw [show (middle.removeClient id).conditionClients = _ from clients]
    exact List.erase_sublist
  · intro other member startupId named
    rw [show (middle.removeClient id).conditionClients = _ from clients,
      listed.once.mem_erase_iff] at member
    rw [names_removeClient, names, List.mem_filter]
    exact ⟨named, bne_iff_ne.mpr member.1⟩

theorem listed_passage (passage : Passage world request before after)
    (signals : ∀ app, request ≠ .conditionChanged app false)
    (registers : ∀ id previousId, request ≠ .registerXsmpClient id previousId)
    (listed : before.Listed unmet) : after.Listed unmet := by
  induction passage with
  | changed changes => exact listed.of_view (listView_changes changes)
  | trans _ _ first second => exact second (first listed)
  | left id changes => exact listed_left listed changes
  | joined state transport startupId appId =>
      refine listed.of_names rfl (List.Sublist.refl _) fun id _ name named => ?_
      simp only [names, addClient, List.map_append]
      exact List.mem_append_left _ named
  | listed state id false_ => exact absurd false_ (signals _)
  | renamed state id startupId same => exact absurd same (registers _ _)

/-- A client that is not listed may be given another startup id. -/
theorem listed_registerXsmpClient {id : Nat} {previousId : String}
    (turned : id ∈ state.conditionClients →
      (state.onXsmpClientRegisterRequest world id previousId).2 = "")
    (listed : state.Listed unmet) :
    (state.registerXsmpClient world id previousId).Listed unmet := by
  rcases @changes_registerXsmpClient world id previousId state with changes | registered
  · exact listed.of_view (listView_changes changes)
  · obtain ⟨middle, changes, named, given⟩ := registered
    have unlisted : id ∉ state.conditionClients := fun member => given (turned member)
    have same := listView_changes changes
    have clients : middle.conditionClients = state.conditionClients :=
      congrArg (fun view => view.2.2) same
    refine Listed.of_view ?_ named.listView
    refine (listed.of_view same).of_names rfl (List.Sublist.refl _) fun other member name has => ?_
    have different : other ≠ id := by
      rintro rfl
      exact unlisted (clients ▸ member)
    obtain ⟨client, stored, kept⟩ := List.mem_map.mp has
    have mine : client.id = other := congrArg Prod.fst kept
    rw [← kept]
    simp only [names, updateClient, List.map_map, List.mem_map]
    exact ⟨client, stored, by simp [mine, different]⟩

theorem listed_conditionTrue (app : App) (listed : state.Listed unmet) :
    (state.appConditionChanged world app true).Listed unmet :=
  listed.of_view (aside_conditionTrue app state).listView

theorem listed_conditionFalse {app : App} (stored : app ∈ state.apps) (still : unmet app)
    (unlisted : ∀ client, state.clients.find? (Client.hasStartupId app.startupId) = some client →
      client.id ∉ state.conditionClients)
    (listed : state.Listed unmet) : (state.appConditionChanged world app false).Listed unmet := by
  cases found : state.clients.find? (Client.hasStartupId app.startupId) with
  | none => exact listed.of_view (aside_conditionFalse_without found).listView
  | some client =>
      refine Listed.of_view ?_ (aside_conditionFalse found).listView
      constructor
      · exact List.nodup_cons.mpr ⟨unlisted client found, listed.once⟩
      · intro id member
        rcases List.mem_cons.mp member with rfl | old
        · have has := List.find?_some found
          exact ⟨app, stored, still, client, List.mem_of_find?_eq_some found, rfl, has⟩
        · exact listed.current id old

end State

namespace Conditioned

variable {before after state : Conditioned} {event : ConditionedEvent}

/-- The invariant: the app that a client is listed for is a followed one, as no
condition is evaluated again unnoticed but at the end of a delay. -/
structure Kept (state : Conditioned) : Prop where
  reached : managerSystem.Reachable state.session
  following : state.session.Following
  asked : ∀ id, (state.conditions id).Asked
  listed : state.session.Listed fun app =>
    app.id ∈ state.session.watchedApps ∧ state.Unmet app

/-- Every listed client has an app besides this one whose condition is followed
and not met. -/
def Released (state : Conditioned) (app : String) : Prop :=
  ∀ id ∈ state.session.conditionClients, ∃ other ∈ state.session.apps,
    (other.id ≠ app ∧ other.id ∈ state.session.watchedApps ∧ state.Unmet other) ∧
      state.session.HasClient id other.startupId

/-- The client that a followed app is stopped for is not listed yet. -/
def Unlisted (state : Conditioned) (app : String) : Prop :=
  app ∈ state.session.watchedApps → ∀ found, state.session.app? app = some found →
    ∀ client, state.session.clients.find? (Client.hasStartupId found.startupId) = some client →
      client.id ∉ state.session.conditionClients

theorem Kept.released {app : String} (kept : state.Kept) (vacated : state.Vacated app) :
    state.Released app := by
  intro id listed
  obtain ⟨found, stored, still, has⟩ := kept.listed.current id listed
  by_cases same : found.id = app
  · obtain ⟨other, excluded, different, named⟩ := vacated found ⟨stored, still⟩ same id has
    exact ⟨other, excluded.1, ⟨different, excluded.2⟩, named ▸ has⟩
  · exact ⟨found, stored, ⟨same, still⟩, has⟩

/-- A client has one startup id only. -/
theorem Kept.oneStartupId {id : Nat} {one other : String} (kept : state.Kept)
    (has : state.session.HasClient id one) (also : state.session.HasClient id other) :
    one = other := by
  obtain ⟨client, stored, named, mine⟩ := has
  obtain ⟨client', stored', named', mine'⟩ := also
  have distinct : (state.session.clients.map Client.id).Nodup :=
    (shaped_reached kept.reached).distinct
  obtain rfl := List.inj_on_of_nodup_map distinct stored stored' (named.trans named'.symm)
  simp only [Client.hasStartupId, Bool.and_eq_true, beq_iff_eq] at mine mine'
  exact mine.2.symm.trans mine'.2

theorem Kept.unlisted {app : String} (kept : state.Kept) (first : state.FirstToStop app)
    (met : (state.conditions app).condition = true) : state.Unlisted app := by
  intro watched found stored client search listed
  have has : state.session.HasClient client.id found.startupId :=
    ⟨client, List.mem_of_find?_eq_some search, rfl, List.find?_some search⟩
  obtain ⟨other, known, still, also⟩ := kept.listed.current client.id listed
  refine first watched found stored client.id has ⟨other, ⟨known, still⟩, ?_, ?_⟩
  · rintro rfl
    exact absurd (met.symm.trans still.2.2) (by decide)
  · exact kept.oneStartupId also has

theorem Kept.exact (kept : state.Kept) : state.Exact where
  listed := kept.listed.imp fun _ unmet => unmet.2
  restarts client stored met listed := by
    obtain ⟨app, appStored, unmet, other, otherStored, same, named⟩ :=
      kept.listed.current client.id listed
    have distinct : (state.session.clients.map Client.id).Nodup := (shaped_reached kept.reached).distinct
    have equal : other = client := List.inj_on_of_nodup_map distinct otherStored stored same
    exact met app appStored (equal ▸ named) unmet.2

/-- Nothing of the conditions is changed but whether they are met. -/
def SameTexts (before after : Conditioned) : Prop :=
  ∀ id, ∃ condition, after.conditions id = { before.conditions id with condition := condition }

theorem SameTexts.asked (texts : before.SameTexts after)
    (asked : ∀ id, (before.conditions id).Asked) (id : String) : (after.conditions id).Asked := by
  obtain ⟨condition, same⟩ := texts id
  rw [same]
  exact asked id

theorem SameTexts.text (texts : before.SameTexts after) {id : String}
    (text : (before.conditions id).conditionString ≠ none) :
    (after.conditions id).conditionString ≠ none := by
  obtain ⟨condition, same⟩ := texts id
  rw [same]
  exact text

theorem sameTexts_evaluate {session : State} {apps : List String} :
    before.SameTexts ⟨session, event.evaluate before.conditions apps⟩ := by
  intro id
  simp only [ConditionedEvent.evaluate]
  split_ifs
  · exact Conditional.isConditionallyDisabled_eq
  · exact ⟨_, rfl⟩

theorem sameTexts_set {session : State} {app : String} {condition : Bool} :
    before.SameTexts ⟨session, Function.update before.conditions app
      { before.conditions app with condition := condition }⟩ := by
  intro id
  by_cases same : id = app
  · subst same
    exact ⟨condition, Function.update_self ..⟩
  · exact ⟨(before.conditions id).condition, Function.update_of_ne same _ _⟩

theorem kept_of_step {world : World} {call : Call} {unmet : App → Prop} (kept : before.Kept)
    (stepped : before.session.step ⟨world, call⟩ = some after.session)
    (texts : before.SameTexts after) (listed : after.session.Listed unmet)
    (still : ∀ app, unmet app → app.id ∈ before.session.watchedApps ∧ after.Unmet app) :
    after.Kept := by
  have passage := State.passage_perform (State.step_performed stepped)
  have grows := (State.Starts.of_passage passage).watchedApps.subset
  refine ⟨.step kept.reached trivial stepped, State.following_passage passage kept.following,
    texts.asked kept.asked, ?_⟩
  exact listed.imp fun app met => ⟨grows (still app met).1, (still app met).2⟩

/-- A call that evaluates the conditions of the apps it begins to follow. -/
theorem kept_of_call {call : Call} {session : State} (kept : before.Kept)
    (stepped : before.session.step ⟨event.answers before.conditions, call⟩ = some session)
    (listed : session.Listed fun app =>
      app.id ∈ before.session.watchedApps ∧ before.Unmet app) :
    Kept ⟨session, event.evaluate before.conditions (before.session.newlyFollowed session)⟩ := by
  have passage := State.passage_perform (State.step_performed stepped)
  have following := State.following_passage passage kept.following
  refine kept_of_step kept stepped sameTexts_evaluate listed fun app unmet => ⟨unmet.1, ?_⟩
  have old : app.id ∉ before.session.newlyFollowed session := fun new =>
    State.newlyFollowed_new (.of_passage passage) following new unmet.1
  simp only [Unmet, ConditionedEvent.evaluate, old, false_and, if_false]
  exact unmet.2

/-- The condition of the app is set, and nobody is listed for it if it is met. -/
theorem kept_of_set {world : World} {call : Call} {app : String} (kept : before.Kept)
    (stepped : before.session.step ⟨world, call⟩ = some after.session)
    (texts : before.SameTexts after)
    (others : ∀ id ≠ app, after.conditions id = before.conditions id)
    (released : (after.conditions app).condition = true → before.Released app)
    (keeps : ∀ unmet : App → Prop, before.session.Listed unmet → after.session.Listed unmet) :
    after.Kept := by
  cases met : (after.conditions app).condition with
  | true =>
      have listed : before.session.Listed fun other => other.id ≠ app ∧
          other.id ∈ before.session.watchedApps ∧ before.Unmet other :=
        ⟨kept.listed.once, released met⟩
      refine kept_of_step kept stepped texts (keeps _ listed) fun other unmet => ⟨unmet.2.1, ?_⟩
      rw [Unmet, others other.id unmet.1]
      exact unmet.2.2
  | false =>
      refine kept_of_step kept stepped texts (keeps _ kept.listed) fun other unmet =>
        ⟨unmet.1, ?_⟩
      by_cases same : other.id = app
      · exact ⟨texts.text unmet.2.1, same ▸ met⟩
      · rw [Unmet, others other.id same]
        exact unmet.2

/-- The condition of a followed app is set to false, and its client is stopped. -/
theorem kept_of_stopped {world : World} {app : String} {found : App} (kept : before.Kept)
    (follows : app ∈ before.session.watchedApps) (stored : before.session.app? app = some found)
    (stepped : before.session.step ⟨world, .conditionChanged app false⟩ = some after.session)
    (stops : before.session.appConditionChanged world found false = after.session)
    (texts : before.SameTexts after)
    (others : ∀ id ≠ app, after.conditions id = before.conditions id)
    (text : (before.conditions app).conditionString ≠ none)
    (set : (after.conditions app).condition = false) (unlisted : before.Unlisted app) :
    after.Kept := by
  have named : found.id = app := by simpa using List.find?_some stored
  have listed : before.session.Listed fun other => other.id ∈ before.session.watchedApps ∧
      (other.id = app ∨ before.Unmet other) :=
    kept.listed.imp fun other unmet => ⟨unmet.1, .inr unmet.2⟩
  have stopped := @State.listed_conditionFalse world _ _ found (List.mem_of_find?_eq_some stored)
    ⟨named ▸ follows, .inl named⟩ (unlisted follows found stored) listed
  rw [stops] at stopped
  refine kept_of_step kept stepped texts stopped fun other unmet => ⟨unmet.1, ?_⟩
  by_cases same : other.id = app
  · rw [Unmet, same]
    exact ⟨texts.text text, set⟩
  · rw [Unmet, others other.id same]
    exact unmet.2.resolve_left same

theorem kept_monitor {app : String} {monitorEvent : MonitorEvent} (kept : before.Kept)
    (timely : match ((before.conditions app).conditionCb event.environment monitorEvent).2 with
      | some true => before.Vacated app
      | some false => before.FirstToStop app
      | none => True)
    (stepped : before.monitor event app monitorEvent = some after) : after.Kept := by
  simp only [monitor] at stepped
  cases changed : ((before.conditions app).conditionCb event.environment monitorEvent).2 with
  | none =>
      rw [changed] at stepped
      cases stepped
      exact kept
  | some condition =>
      have noted := Conditional.conditionCb_changed changed
      have text := (kept.asked app).of_changed changed
      have differs := Conditional.conditionCb_differs changed
      rw [changed] at stepped timely
      rw [noted] at stepped
      dsimp only at stepped
      have others : ∀ id ≠ app, Function.update before.conditions app
          { before.conditions app with condition := condition } id = before.conditions id :=
        fun id other => Function.update_of_ne other _ _
      split_ifs at stepped with watched
      · obtain ⟨session, performed, rfl⟩ := Option.map_eq_some_iff.mp stepped
        have signalled := State.step_performed performed
        simp only [State.perform, if_pos watched] at signalled
        obtain ⟨found, stored, result⟩ := Option.map_eq_some_iff.mp signalled
        cases condition with
        | true =>
            refine kept_of_set kept performed sameTexts_set others
              (fun _ => kept.released timely) fun unmet listed => ?_
            rw [← result]
            exact State.listed_conditionTrue found listed
        | false =>
            have follows : app ∈ before.session.watchedApps := by simpa using watched
            exact kept_of_stopped kept follows stored performed result sameTexts_set others text
              (by simp) (kept.unlisted timely differs)
      · -- the app has no handler yet
        cases stepped
        refine ⟨kept.reached, kept.following, (@sameTexts_set before before.session app condition).asked
          kept.asked, kept.listed.imp fun other unmet => ⟨unmet.1, ?_⟩⟩
        have different : other.id ≠ app := by
          rintro same
          exact watched (by simpa [same] using unmet.1)
        have still := others other.id different
        simp only [Unmet, still]
        exact unmet.2

theorem kept_step (kept : before.Kept) (timely : before.Timely event)
    (stepped : before.step event = some after) : after.Kept := by
  obtain ⟨world, environment, disabledOutright, happening⟩ := event
  unfold step at stepped
  split at stepped
  · cases stepped
  cases happening with
  | monitor app monitorEvent => exact kept_monitor kept timely stepped
  | call call =>
      cases call with
      | conditionChanged app condition => cases stepped
      | autostartDelayTimeout app =>
          obtain ⟨session, performed, rfl⟩ := Option.map_eq_some_iff.mp stepped
          have passage := State.passage_perform (State.step_performed performed)
          refine kept_of_set kept performed sameTexts_evaluate (fun id other => ?_)
            (fun met => kept.released (timely met)) fun unmet listed =>
              State.listed_passage passage (by simp) (by simp) listed
          simp [ConditionedEvent.evaluate, Call.evaluated, other]
      | registerXsmpClient id previousId =>
          obtain ⟨session, performed, rfl⟩ := Option.map_eq_some_iff.mp stepped
          refine kept_of_call kept performed ?_
          have registered := State.step_performed performed
          simp only [State.perform] at registered
          obtain ⟨client, found, rfl⟩ := Option.map_eq_some_iff.mp registered
          have named : client.id = id :=
            State.client?_id (Option.filter_eq_some_iff.mp found).1
          subst named
          refine State.listed_registerXsmpClient (fun listed => timely ?_) kept.listed
          obtain ⟨app, stored, still, has⟩ := kept.listed.current client.id listed
          exact ⟨app, ⟨stored, still⟩, has⟩
      | _ =>
          obtain ⟨session, performed, rfl⟩ := Option.map_eq_some_iff.mp stepped
          have passage := State.passage_perform (State.step_performed performed)
          exact kept_of_call kept performed
            (State.listed_passage passage (by simp) (by simp) kept.listed)

theorem asked_start {conditions : String → Conditional} {apps : List App}
    (asked : ∀ id, (conditions id).Asked) (id : String) :
    ((start event conditions apps).conditions id).Asked := by
  have summarised : (event.debugAppSummary conditions apps id).Asked := by
    simp only [ConditionedEvent.debugAppSummary]
    split_ifs
    · exact (asked id).evaluated
    · exact asked id
  simp only [start, ConditionedEvent.evaluate]
  split_ifs
  · exact summarised.evaluated
  · exact summarised

theorem kept_initial (start : system.initial state) : state.Kept := by
  obtain ⟨event, environments, disabled, texts, apps, distinct, rfl⟩ := start
  refine ⟨.initial ⟨_, apps, distinct, rfl⟩, State.following_start _ distinct,
    asked_start fun _ => Conditional.loaded_asked, ?_⟩
  have view := State.listView_stages (@State.stages_startPhase
    (event.answers (event.debugAppSummary
      (fun id => Conditional.loaded (environments id) (disabled id) (texts id)) apps))
    (State.created apps))
  have nobody : (State.created apps).Listed fun _ => False := ⟨List.nodup_nil, nofun⟩
  exact (nobody.of_view view).imp nofun

/-- In every run whose steps are timely, `condition_clients` is exact in every
state. -/
theorem condition_clients_exact {start : Conditioned} {events : List ConditionedEvent}
    (fresh : system.initial start) (timely : system.Meets Timely start events) :
    system.Always Exact start events := by
  refine (timely.always ?_ (kept_initial fresh)).imp fun _ kept => kept.exact
  exact fun _ _ _ kept timely stepped => kept_step kept timely stepped

/-- Without any client, everything is in time. -/
theorem timely_of_deserted (deserted : state.session.clients = []) : state.Timely event := by
  have nobody : ∀ id startupId, ¬ state.session.HasClient id startupId := by
    intro id startupId has
    obtain ⟨client, stored, _⟩ := has
    simp [deserted] at stored
  unfold Timely
  split
  · split
    · exact fun _ _ _ id has => absurd has (nobody id _)
    · exact fun _ _ _ id has => absurd has (nobody id _)
    · trivial
  · exact fun _ _ _ _ id has => absurd has (nobody id _)
  · exact fun excluded => by
      obtain ⟨_, _, has⟩ := excluded
      exact absurd has (nobody _ _)
  · trivial

def keyringApp : App where
  id := "/org/gnome/SessionManager/App1"
  appId := "keyring.desktop"
  startupId := "106c5a1"
  phase := .application
  autostartDelay := 0
  autorestart := true

/-- Every file exists, and nothing is disabled outright. -/
def everyFile (happening : Happening) : ConditionedEvent where
  world := .permissive
  environment := ⟨fun _ => true, fun _ => false, fun _ _ => false⟩
  disabledOutright _ := false
  happening := happening

/-- A session with one app, which is started if a file exists. -/
def keyringSession : Conditioned :=
  let event := everyFile (.call .acceptConnection)
  start event (fun _ => .loaded event.environment false (some (ascii "if-exists keyring")))
    [keyringApp]

def keyringRegisters : ConditionedEvent :=
  everyFile (.call (.registerClient "keyring.desktop" "106c5a1" ":1.7"))

def keyringLeaves : ConditionedEvent := everyFile (.call (.busNameLost ":1.7"))

/-- The file of the condition is created or deleted. -/
def keyringFile (event : FileMonitorEvent) : ConditionedEvent :=
  everyFile (.monitor keyringApp.id (.file event))

theorem keyringSession_initial : system.initial keyringSession :=
  ⟨everyFile (.call .acceptConnection), fun _ => (everyFile (.call .acceptConnection)).environment,
    fun _ => false, fun _ => some (ascii "if-exists keyring"), [keyringApp], by decide, rfl⟩

/-- The one app is the first to stop its client. -/
theorem keyringStops_timely {next : Conditioned} (apps : next.session.apps = [keyringApp])
    (changed : ((next.conditions keyringApp.id).conditionCb (keyringFile .deleted).environment
      (.file .deleted)).2 = some false) : next.Timely (keyringFile .deleted) := by
  simp only [Timely, keyringFile, everyFile] at changed ⊢
  rw [changed]
  rintro _ found _ _ _ ⟨other, ⟨stored, _⟩, different, _⟩
  rw [apps, List.mem_singleton] at stored
  exact different (congrArg App.id stored)

/-- A client that leaves before its condition changes again is forgotten. -/
theorem condition_clients_exact_once :
    system.Always Exact keyringSession
      [keyringRegisters, keyringFile .deleted, keyringLeaves, keyringFile .created] := by
  have registered : (system.run keyringSession [keyringRegisters]).map (fun state =>
      (state.session.apps, ((state.conditions keyringApp.id).conditionCb
        (keyringFile .deleted).environment (.file .deleted)).2)) =
      some ([keyringApp], some false) := by decide +kernel
  have deserted : (system.run keyringSession [keyringRegisters, keyringFile .deleted,
      keyringLeaves]).map (fun state => state.session.clients) = some [] := by decide +kernel
  refine condition_clients_exact keyringSession_initial
    ⟨trivial, fun first one => ⟨?_, fun second two =>
      ⟨trivial, fun third three => ⟨timely_of_deserted ?_, fun _ _ => trivial⟩⟩⟩⟩
  · have run : system.run keyringSession [keyringRegisters] = some first := by simp [one]
    rw [run, Option.map_some, Option.some.injEq, Prod.mk.injEq] at registered
    exact keyringStops_timely registered.1 registered.2
  · have run : system.run keyringSession [keyringRegisters, keyringFile .deleted,
        keyringLeaves] = some third := by simp [one, two, three]
    rw [run, Option.map_some, Option.some.injEq] at deserted
    exact deserted

/-- A condition that becomes false twice before its client leaves. -/
theorem client_listed_after_leaving :
    ∃ finish, system.run keyringSession [keyringRegisters, keyringFile .deleted,
        keyringFile .created, keyringFile .deleted, keyringLeaves] = some finish ∧
      finish.session.conditionClients = [1] ∧ finish.session.clients = [] ∧ ¬ finish.Exact := by
  have result : (system.run keyringSession [keyringRegisters, keyringFile .deleted,
      keyringFile .created, keyringFile .deleted, keyringLeaves]).map (fun finish =>
        (finish.session.conditionClients, finish.session.clients)) = some ([1], []) := by
    decide +kernel
  obtain ⟨finish, run, same⟩ := Option.map_eq_some_iff.mp result
  rw [Prod.mk.injEq] at same
  refine ⟨finish, run, same.1, same.2, fun exact_ => ?_⟩
  obtain ⟨app, _, _, client, stored, _⟩ := exact_.listed.current 1 (by simp [same.1])
  simp [same.2] at stored

end Conditioned

end CafeSession.Manager
