import CafeSession.Manager.Reach
import CafeSession.Manager.Roster

namespace CafeSession.Manager

open CafeSession.Transition

/-- Two clients with one startup id are the same client, or have none. -/
def Roster.Unshared (roster : Roster) : Prop :=
  ∀ first ∈ roster.wirings, ∀ second ∈ roster.wirings,
    first.startupId ≠ "" → first.startupId = second.startupId → first.id = second.id

/-- The startup id that would be generated is not the id of a client. -/
def FreshStartupId (before : State) (event : Event) : Prop :=
  before.clients.any (Client.hasStartupId event.world.startupId) = false

instance (before : State) (event : Event) : Decidable (FreshStartupId before event) :=
  inferInstanceAs (Decidable (_ = _))

section

variable {world : World} {before after : State} {call : Call}

theorem roster_startPhase (starting : before.phase ≤ .running) :
    (before.startPhase world).core.roster = before.core.roster := by
  obtain ⟨news, startup, _, kept⟩ := (@State.core_startPhase world before starting).kept
  have nobody : news.filterMap Effect.disconnected = [] := by
    rw [List.filterMap_eq_nil_iff]
    intro effect member
    obtain ⟨_, rfl, _⟩ := startup effect member
    rfl
  rw [kept]
  simp [Core.roster, nobody]

theorem roster_appRegistered (id : String) :
    (before.appRegistered world id).core.roster = before.core.roster := by
  unfold State.appRegistered
  split_ifs with follows
  · dsimp only
    split_ifs
    · rw [State.endPhase_roster]
      rfl
    · rfl
  · rfl

theorem roster_openInhibitDialog (action : LogoutAction) :
    (before.openInhibitDialog action).core.roster = before.core.roster := by
  unfold State.openInhibitDialog
  split <;> rfl

theorem roster_showDialog (dialog : LogoutDialog) :
    (before.showDialog dialog).core.roster = before.core.roster := by
  unfold State.showDialog
  split_ifs <;> rfl

theorem roster_userLogout (mode : LogoutMode) :
    (before.userLogout world mode).core.roster = before.core.roster := by
  unfold State.userLogout
  split_ifs
  · rfl
  · exact roster_showDialog .logout
  · exact State.endPhase_roster

theorem roster_requestPrivileged (answer : PrivilegeAnswer) (plain interact cdm : LogoutType) :
    (before.requestPrivileged world answer plain interact cdm).core.roster =
      before.core.roster := by
  cases answer with
  | denied => rfl
  | granted => exact State.endPhase_roster
  | askLater => exact State.endPhase_roster
  | unavailable => exact State.endPhase_roster

theorem roster_logoutDialogResponse (response : LogoutResponse) :
    (before.logoutDialogResponse world response).core.roster = before.core.roster := by
  rcases @State.core_logoutDialogResponse_cases world before response with ⟨_, faulted⟩ |
    ⟨_, closed | ⟨action, _, presents⟩ | ⟨_, mode, type, _, _, leaves⟩⟩
  · rw [faulted]
    rfl
  · rw [closed]
    rfl
  · rw [presents, roster_openInhibitDialog action]
    rfl
  · rw [leaves, State.endPhase_roster]
    rfl

theorem roster_cancelEndSession :
    (before.cancelEndSession world).core.roster = before.core.roster := by
  by_cases early : before.phase < .queryEndSession
  · unfold State.cancelEndSession
    rw [if_pos early]
  · rw [State.core_cancelEndSession (Phase.not_lt_query.mp early)]
    rfl

theorem roster_inhibitDialogResponse (response : InhibitResponse) :
    (before.inhibitDialogResponse world response).core.roster = before.core.roster := by
  cases opened : before.inhibitDialog with
  | none =>
      unfold State.inhibitDialogResponse
      rw [opened]
  | some action =>
      rcases @State.core_inhibitDialogResponse_cases world before action opened response with
        ⟨_, closed⟩ | ⟨_, ⟨_, ended⟩ | ⟨_, cancelled⟩⟩
      · rw [closed]
        rfl
      · rw [ended, State.endPhase_roster]
        rfl
      · rw [cancelled, roster_cancelEndSession]
        rfl

theorem unused_of_new {startupId : String} (named : before.NewStartupId world startupId)
    (fresh : before.clients.any (Client.hasStartupId world.startupId) = false) :
    startupId = "" ∨ ∀ wiring ∈ before.core.roster.wirings, wiring.startupId ≠ startupId := by
  have unused : startupId = "" ∨ before.clients.any (Client.hasStartupId startupId) = false := by
    rcases named with empty | generated | unused
    · exact .inl empty
    · exact .inr (by rw [generated]; exact fresh)
    · exact .inr unused
  by_cases empty : startupId = ""
  · exact .inl empty
  · refine .inr fun wiring member same => ?_
    obtain ⟨client, stored, rfl⟩ := List.mem_map.mp member
    have startup : client.startupId = startupId := same
    have has : Client.hasStartupId startupId client = true := by
      simp [Client.hasStartupId, startup, empty]
    rcases unused with none_ | unused
    · exact empty none_
    · exact absurd (List.any_eq_true.mpr ⟨client, stored, has⟩) (by simp [unused])

theorem unshared_addClient {transport : Transport} {startupId appId : String}
    (unshared : before.core.roster.Unshared)
    (unused : startupId = "" ∨ ∀ wiring ∈ before.core.roster.wirings, wiring.startupId ≠ startupId) :
    (before.addClient transport startupId appId).core.roster.Unshared := by
  let client : Client := ⟨before.clientSerial, transport, startupId, appId, []⟩
  have wirings : (before.addClient transport startupId appId).core.roster.wirings =
      before.core.roster.wirings ++ [client.wiring] := by
    simp [State.core, Core.roster, State.addClient, client]
  have other : ∀ wiring ∈ before.core.roster.wirings, wiring.startupId ≠ "" →
      wiring.startupId ≠ startupId := by
    intro wiring member some_ same
    rcases unused with empty | unused
    · exact some_ (same.trans empty)
    · exact unused wiring member same
  intro first firstMember second secondMember some_ same
  rw [wirings] at firstMember secondMember
  rcases List.mem_append.mp firstMember with old | new <;>
    rcases List.mem_append.mp secondMember with older | newer
  · exact unshared first old second older some_ same
  · rw [List.mem_singleton.mp newer] at same
    exact absurd same (other first old some_)
  · rw [List.mem_singleton.mp new] at same some_
    exact absurd same.symm (other second older (same ▸ some_))
  · rw [List.mem_singleton.mp new, List.mem_singleton.mp newer]

theorem unshared_connect {roster : Roster} {wirings : List Wiring} {connect : Wiring → Wiring}
    (unshared : roster.Unshared) (same : wirings = roster.wirings.map connect)
    (kept : ∀ wiring, (connect wiring).id = wiring.id ∧
      (connect wiring).startupId = wiring.startupId) :
    { roster with wirings := wirings }.Unshared := by
  rw [same]
  intro first firstMember second secondMember some_ shared
  obtain ⟨one, oneStored, rfl⟩ := List.mem_map.mp firstMember
  obtain ⟨other, otherStored, rfl⟩ := List.mem_map.mp secondMember
  rw [(kept one).1, (kept other).1]
  rw [(kept one).2] at some_ shared
  rw [(kept other).2] at shared
  exact unshared one oneStored other otherStored some_ shared

theorem unshared_rename {core : Core} {id : Nat} {startupId : String}
    (unshared : core.roster.Unshared)
    (unused : startupId = "" ∨ ∀ wiring ∈ core.roster.wirings, wiring.startupId ≠ startupId) :
    (core.rename id startupId).roster.Unshared := by
  intro first firstMember second secondMember some_ shared
  obtain ⟨one, oneStored, rfl⟩ := List.mem_map.mp firstMember
  obtain ⟨other, otherStored, rfl⟩ := List.mem_map.mp secondMember
  split_ifs at some_ shared ⊢ with isOne isOther isOther
  · exact isOne.trans isOther.symm
  · rcases unused with empty | unused
    · exact absurd empty some_
    · exact absurd shared.symm (unused other otherStored)
  · rcases unused with empty | unused
    · exact absurd (shared.trans empty) some_
    · exact absurd shared (unused one oneStored)
  · exact unshared one oneStored other otherStored some_ shared

theorem unshared_connectDisconnected {core : Core} {id : Nat} (unshared : core.roster.Unshared) :
    (core.connectDisconnected id).roster.Unshared := by
  refine unshared_connect unshared rfl fun wiring => ?_
  unfold Wiring.connect
  split_ifs <;> exact ⟨rfl, rfl⟩

/-- Clients that leave take their startup ids along. -/
theorem unsharedDepartures {acts : Nat → Response → Prop} {drops : (Inhibitor → Bool) → Prop} :
    Departures world acts drops (fun core => core.roster.Unshared) where
  rules := State.rosterRules
  gone core id _ _ unshared _ := by
    intro first firstMember second secondMember
    exact unshared first (List.mem_of_mem_filter firstMember) second
      (List.mem_of_mem_filter secondMember)
  noted _ _ _ unshared := unshared

theorem unshared_departing {after : Core} (shaped : before.core.Shaped)
    (unshared : before.core.roster.Unshared) (departing : Departing world before call after) :
    after.roster.Unshared := by
  have departures := @unsharedDepartures world (fun _ _ => True) (fun _ => True)
  refine (departures.departed (fun state _ holds _ _ => ?_) (fun _ _ => trivial)
    (fun _ _ => trivial) (fun _ _ => trivial) departing ⟨shaped, unshared⟩).2
  rw [State.endPhase_roster]
  exact holds

theorem unshared_kind (shaped : before.core.Shaped)
    (fresh : before.clients.any (Client.hasStartupId world.startupId) = false)
    (unshared : before.core.roster.Unshared) (kind : Kind world before call after) :
    after.core.roster.Unshared := by
  have rules := (@unsharedDepartures world (fun _ _ => True) (fun _ => True)).both
  have kept : after.core.roster = before.core.roster → after.core.roster.Unshared := by
    intro same
    rw [same]
    exact unshared
  cases kind with
  | quiet same => exact kept (by rw [same])
  | answered answer stored same handled =>
      rw [handled]
      refine (rules.handle trivial trivial ?_).2
      rw [same]
      exact ⟨shaped, unshared⟩
  | left lost stored same emitted =>
      rw [emitted]
      exact unshared_departing shaped unshared (.left lost stored same rfl)
  | nameLost lost removed =>
      rw [removed]
      exact unshared_departing shaped unshared (.nameLost lost rfl)
  | busLost lost removed =>
      rw [removed]
      exact unshared_departing shaped unshared (.busLost lost rfl)
  | called asked late same =>
      rw [same]
      exact unshared
  | added named stored =>
      rw [stored]
      exact unshared_addClient unshared (unused_of_new named fresh)
  | registered reports same handled =>
      rw [handled, roster_appRegistered]
      rcases same with rfl | ⟨transport, startupId, appId, named, rfl⟩
      · exact unshared
      · exact unshared_addClient unshared (unused_of_new named fresh)
  | @connected id previousId told registered asked connects same registers handled =>
      have roster : registered.core.roster = (before.core.connectDisconnected id).roster := by
        rw [← same]
        rcases registers with rfl | ⟨app, _, rfl⟩
        · rfl
        · exact roster_appRegistered app
      have connected : registered.core.roster.Unshared := by
        rw [roster]
        exact unshared_connectDisconnected unshared
      rcases handled with handled | ⟨startupId, named, handled⟩
      · rw [handled]
        exact connected
      · rw [handled]
        refine unshared_rename connected ((unused_of_new named fresh).imp_right fun unused => ?_)
        intro wiring member
        rw [roster] at member
        obtain ⟨old, stored, rfl⟩ := List.mem_map.mp member
        have startup := unused old stored
        unfold Wiring.connect
        split_ifs <;> exact startup
  | inhibited called unforced stored => exact kept (by rw [stored]; rfl)
  | uninhibited asked found removed =>
      exact kept (by rw [removed, State.roster_removeInhibitors])
  | logout asked running unlocked requested =>
      exact kept (by rw [requested, roster_userLogout])
  | shown running opened => exact kept (by rw [opened, roster_showDialog])
  | privileged running types requested =>
      exact kept (by rw [requested, roster_requestPrivileged])
  | confirmed opened answer handled =>
      exact kept (by rw [handled, roster_logoutDialogResponse])
  | inhibitAnswered opened asked handled =>
      exact kept (by rw [handled, roster_inhibitDialogResponse])
  | queryTimedOut asked armed fired =>
      have query : before.phase = .queryEndSession := shaped.asked armed
      rw [fired]
      exact (rules.onQueryEndSessionTimeout query fun added named =>
        ⟨shaped.unanswered query named, unshared⟩).2
  | phaseTimedOut asked armed fired =>
      have unfollowed : before.unfollowPending.core.roster = before.core.roster := by
        unfold State.unfollowPending
        split_ifs <;> rfl
      refine kept ?_
      rw [fired, State.onPhaseTimeout, State.endPhase_roster, ← unfollowed]
      rfl

end

/-- While the generated ids are new, no two clients of the store have one startup id. -/
theorem startup_ids_unshared {state : State}
    (reached : managerSystem.ReachableBy FreshStartupId state) :
    ∀ first ∈ state.clients, ∀ second ∈ state.clients,
      first.startupId ≠ "" → first.startupId = second.startupId → first = second := by
  have unshared : state.core.roster.Unshared := by
    induction reached with
    | initial first =>
        obtain ⟨world, apps, _, rfl⟩ := first
        have starting : Phase.initialization ≤ .running := by decide
        rw [State.start, roster_startPhase starting]
        nofun
    | @step before after event reached fresh stepped ih =>
        have shaped := shaped_reached reached.reachable
        have alive := (State.step_turn shaped stepped).1
        rw [show managerSystem.step before event = before.step event from rfl, State.step, alive]
          at stepped
        exact unshared_kind shaped fresh ih (State.perform_kind stepped)
  intro first firstStored second secondStored some_ shared
  have same : first.id = second.id :=
    unshared first.wiring (List.mem_map_of_mem firstStored) second.wiring
      (List.mem_map_of_mem secondStored) some_ shared
  exact List.inj_on_of_nodup_map (shaped_reached reached.reachable).distinct firstStored
    secondStored same

/-- A D-Bus client that is given an id, one that brings its own, and an XSMP client. -/
def threeRegistrations : List Event :=
  [⟨.permissive, .registerClient "editor" "" ":1.4"⟩,
    ⟨{ World.permissive with startupId := "106c5a1" }, .registerClient "viewer" "10b" ":1.5"⟩,
    ⟨{ World.permissive with startupId := "106c5a1" }, .acceptConnection⟩,
    ⟨{ World.permissive with startupId := "106c5a1" }, .registerXsmpClient 3 ""⟩]

theorem three_registrations_unshared :
    ∃ state, managerSystem.run (State.start .permissive []) threeRegistrations = some state ∧
      state.clients.map Client.startupId = ["106c5a0", "10b", "106c5a1"] ∧
      ∀ first ∈ state.clients, ∀ second ∈ state.clients,
        first.startupId ≠ "" → first.startupId = second.startupId → first = second := by
  obtain ⟨state, run⟩ : ∃ state,
      managerSystem.run (State.start .permissive []) threeRegistrations = some state := ⟨_, rfl⟩
  have meets : managerSystem.Meets FreshStartupId (State.start .permissive [])
      threeRegistrations := by
    refine ⟨by decide, fun _ first => ?_⟩
    cases first
    refine ⟨by decide, fun _ second => ?_⟩
    cases second
    refine ⟨by decide, fun _ third => ?_⟩
    cases third
    exact ⟨by decide, fun _ _ => trivial⟩
  have reached : managerSystem.ReachableBy FreshStartupId state :=
    .of_run (.initial ⟨.permissive, [], List.nodup_nil, rfl⟩) meets run
  refine ⟨state, run, ?_, startup_ids_unshared reached⟩
  cases run
  decide

end CafeSession.Manager
