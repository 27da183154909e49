import CafeSession.Manager.Alike
import CafeSession.Manager.Roster

namespace CafeSession.Manager

open State

def Effect.dialogOpened : Effect → Option LogoutAction
  | .inhibitDialogOpened action => some action
  | _ => none

/-- The inhibit dialogs that have been opened, newest first. -/
def State.dialogs (state : State) : List LogoutAction :=
  state.log.filterMap Effect.dialogOpened

/-- The session is being ended by force, with no inhibit dialog open. -/
structure State.Forced (opened : List LogoutAction) (state : State) : Prop where
  mode : state.logoutMode = .force
  ending : .queryEndSession ≤ state.phase
  closed : state.inhibitDialog = none
  opened : state.dialogs = opened

/-- Each time an answer empties the list of the clients that are waited for, no
inhibitor of the logout is left but those of clients that have answered. -/
def Clears : List Nat → List Nat → List Inhibitor → Prop
  | [], _, _ => True
  | id :: ids, waiting, inhibitors =>
      (waiting.erase id = [] → ∀ inhibitor ∈ inhibitors, inhibitor.hasClientId id = false →
        inhibitor.hasFlag inhibitorFlagLogout = false) ∧
      Clears ids (waiting.erase id) (inhibitors.filter (fun one => !one.hasClientId id))

namespace State

variable {world : World} {state : State} {opened : List LogoutAction}

theorem dialogs_emit {effect : Effect} (silent : effect.dialogOpened = none) :
    (state.emit effect).dialogs = state.dialogs := by
  simp [dialogs, emit, silent]

theorem dialogs_tell {call : Client → Except String (Client × List ClientMessage)} (id : Nat) :
    (state.tell call id).dialogs = state.dialogs := by
  unfold tell
  split
  · next messages _ =>
      have silent : (messages.map (Effect.sent id)).reverse.filterMap Effect.dialogOpened = [] := by
        simp [Effect.dialogOpened]
      simp [dialogs, silent]
  · rfl

theorem dialogs_foldl {Item : Type*} {step : State → Item → State}
    (silent : ∀ state item, (step state item).dialogs = state.dialogs) (items : List Item) :
    (items.foldl step state).dialogs = state.dialogs := by
  induction items generalizing state with
  | nil => rfl
  | cons item items ih => rw [List.foldl_cons, ih, silent]

theorem dialogs_ask {call : Client → Except String (Client × List ClientMessage)} (id : Nat) :
    (state.ask call id).dialogs = state.dialogs := by
  unfold ask
  split
  · exact dialogs_tell id
  · rfl

theorem dialogs_quit : state.quit.dialogs = state.dialogs := by
  unfold quit
  split
  · rfl
  · exact dialogs_emit rfl

theorem dialogs_endPhase (ending : .queryEndSession ≤ state.phase) :
    (state.endPhase world).dialogs = state.dialogs := by
  have exits : ∀ state : State, state.phase = .endSession →
      (state.endPhase world).dialogs = state.dialogs := by
    intro state ends
    have saved : (state.advance.maybeSaveSession world).dialogs = state.dialogs := by
      unfold maybeSaveSession
      split_ifs
      · exact dialogs_emit rfl
      · rfl
    rw [endPhase_endSession ends, dialogs_quit, ← saved]
    exact dialogs_foldl (fun _ _ => dialogs_tell _) _
  rcases Phase.queryEndSession_le.mp ending with query | ends | exit
  · by_cases empty : state.clients = []
    · have advanced : state.advance.resetPhase.phase = .endSession := by
        simp [resetPhase, clearPhase, advance, query, Phase.next]
      rw [endPhase_query_empty query empty, exits _ advanced]
      rfl
    · rw [endPhase_query query empty]
      exact dialogs_foldl (fun _ _ => dialogs_ask _) _
  · exact exits state ends
  · rw [endPhase_exit exit]
    exact dialogs_quit

theorem Forced.endPhase (forced : state.Forced opened) : (state.endPhase world).Forced opened where
  mode := endPhase_frame.logoutMode.trans forced.mode
  ending := Phase.query_le_of_endSession_le (endPhase_leads_on forced.ending)
  closed := endPhase_frame.inhibitDialog.trans forced.closed
  opened := (dialogs_endPhase forced.ending).trans forced.opened

/-- When nobody is waited for, no inhibitor of the logout is left. -/
def Clear (state : State) : Prop :=
  state.queryClients = [] → state.logoutInhibited = false

/-- Unless the query has ended, nothing has changed for it. -/
def Rests (before after : State) : Prop :=
  after.phase = .queryEndSession → before.phase = .queryEndSession ∧
    after.queryClients = before.queryClients ∧ after.inhibitors = before.inhibitors

/-- Unless the query has ended, the client is off the list, and its inhibitors are gone. -/
def Leaves (id : Nat) (before after : State) : Prop :=
  after.phase = .queryEndSession → before.phase = .queryEndSession ∧
    after.queryClients = before.queryClients.erase id ∧
    after.inhibitors = before.inhibitors.filter (fun one => !one.hasClientId id)

theorem Rests.refl (state : State) : state.Rests state := fun query => ⟨query, rfl, rfl⟩

theorem Leaves.rests {id : Nat} {before middle after : State} (leaves : before.Leaves id middle)
    (rests : middle.Rests after) : before.Leaves id after := by
  intro query
  obtain ⟨still, waiting, inhibitors⟩ := rests query
  rw [waiting, inhibitors]
  exact leaves still

theorem Leaves.clears {id : Nat} {ids : List Nat} {before after : State}
    (leaves : before.Leaves id after) (clears : before.phase = .queryEndSession →
      Clears (id :: ids) before.queryClients before.inhibitors) :
    after.phase = .queryEndSession → Clears ids after.queryClients after.inhibitors := by
  intro query
  obtain ⟨still, waiting, inhibitors⟩ := leaves query
  rw [waiting, inhibitors]
  exact (clears still).2

theorem rests_endPhase (forced : state.Forced opened) (before : State) :
    before.Rests (state.endPhase world) :=
  fun query => absurd query (endPhase_leaves_query forced.ending)

theorem removeInhibitors_closed (closed : state.inhibitDialog = none)
    (matching : Inhibitor → Bool) :
    ∃ idleEnabled, state.removeInhibitors world matching = { state with
      inhibitors := state.inhibitors.filter (fun one => !matching one)
      idleEnabled := idleEnabled } := by
  rw [removeInhibitors_undialogued closed]
  exact dropInhibitors_eq matching

theorem handle_forced (forced : state.Forced opened) {client : Client} {response : Response}
    (goes : response.cancel = false) :
    ∃ idleEnabled, state.handleClientEndSessionResponse world client response =
      ({ state with
        queryClients := state.queryClients.erase client.id
        inhibitors := state.inhibitors.filter (fun one => !one.hasClientId client.id)
        idleEnabled := idleEnabled } : State).answerNoted world client.id response.doLast := by
  obtain ⟨idleEnabled, removed⟩ := @removeInhibitors_closed world
    { state with queryClients := state.queryClients.erase client.id } forced.closed
    (Inhibitor.hasClientId client.id)
  have forcedMode : (!response.isOk && state.logoutMode != .force) = false := by
    rw [forced.mode]
    simp
  refine ⟨idleEnabled, ?_⟩
  unfold handleClientEndSessionResponse noteAnswer
  rw [if_neg (Phase.not_lt_query.mpr forced.ending), goes, forcedMode]
  simp only [Bool.false_eq_true, if_false]
  rw [removed]

theorem queryEndSessionComplete_free (free : state.logoutInhibited = false) :
    state.queryEndSessionComplete world = { state with queryTimeout := false }.endPhase world := by
  have stopped : ({ state with queryTimeout := false } : State).logoutInhibited = false := free
  simp [queryEndSessionComplete, stopped]

/-- What is left of the end-session phase when nothing inhibits its end. -/
theorem endSessionAnswered_clear {id : Nat} {doLast : Bool} (clear : state.Clear) :
    ∃ noted : State, (if doLast = true then
        { state with nextQueryClients := id :: state.nextQueryClients } else state) = noted ∧
      state.endSessionAnswered world id doLast =
        if state.queryClients ≠ [] then noted else noted.doPhaseEndSessionPart2 world := by
  obtain ⟨noted, notes⟩ : ∃ noted, (if doLast = true then
      { state with nextQueryClients := id :: state.nextQueryClients } else state) = noted :=
    ⟨_, rfl⟩
  have queryClients : noted.queryClients = state.queryClients := by
    rw [← notes]
    split_ifs <;> rfl
  have inhibited : noted.logoutInhibited = state.logoutInhibited := by
    rw [← notes]
    split_ifs <;> rfl
  refine ⟨noted, notes, ?_⟩
  unfold endSessionAnswered
  dsimp only
  rw [notes, queryClients, inhibited]
  by_cases waits : state.queryClients = []
  · simp only [waits, clear waits, ne_eq, not_true_eq_false, Bool.false_eq_true, or_self, if_false]
    split_ifs with last
    · unfold doPhaseEndSessionPart2
      rw [if_neg (not_not.mpr last)]
    · rfl
  · simp [waits]

theorem Forced.doPhaseEndSessionPart2 (forced : state.Forced opened) :
    (state.doPhaseEndSessionPart2 world).Forced opened := by
  by_cases some_ : state.nextQueryClients = []
  · unfold State.doPhaseEndSessionPart2
    rw [if_neg (not_not.mpr some_)]
    exact forced.endPhase
  · obtain ⟨asked, _, core⟩ := @core_doPhaseEndSessionPart2 world state some_
    refine ⟨(congrArg Core.logoutMode core).trans forced.mode, ?_,
      (congrArg Core.inhibitDialog core).trans forced.closed, ?_⟩
    · rw [show (state.doPhaseEndSessionPart2 world).phase = state.phase from
        congrArg Core.phase core]
      exact forced.ending
    · unfold State.doPhaseEndSessionPart2
      rw [if_pos some_, ← forced.opened]
      exact dialogs_foldl (fun _ _ => dialogs_ask _) _

theorem part2_leaves_query (ends : state.phase = .endSession) :
    (state.doPhaseEndSessionPart2 world).phase ≠ .queryEndSession := by
  by_cases some_ : state.nextQueryClients = []
  · unfold State.doPhaseEndSessionPart2
    rw [if_neg (not_not.mpr some_)]
    exact endPhase_leaves_query (Phase.queryEndSession_le.mpr (.inr (.inl ends)))
  · obtain ⟨asked, _, core⟩ := @core_doPhaseEndSessionPart2 world state some_
    have phase : (state.doPhaseEndSessionPart2 world).phase = state.phase :=
      congrArg Core.phase core
    rw [phase, ends]
    nofun

theorem Forced.answerNoted {id : Nat} {doLast : Bool} (forced : state.Forced opened)
    (clear : state.phase ≠ .exit → state.Clear) :
    (state.answerNoted world id doLast).Forced opened ∧
      state.Rests (state.answerNoted world id doLast) := by
  unfold State.answerNoted
  split
  · next query =>
      have clear := clear (query.trans_ne (by decide))
      split_ifs with nobody
      · have stopped : ({ state with queryTimeout := false } : State).Forced opened :=
          { forced with }
        rw [queryEndSessionComplete_free (clear nobody)]
        exact ⟨stopped.endPhase, rests_endPhase stopped state⟩
      · exact ⟨forced, .refl state⟩
  · next ending =>
      obtain ⟨noted, notes, answered⟩ :=
        @endSessionAnswered_clear world state id doLast (clear (ending.trans_ne (by decide)))
      have notedForced : noted.Forced opened ∧ noted.phase = .endSession := by
        rw [← notes]
        split_ifs
        · exact ⟨{ forced with }, ending⟩
        · exact ⟨forced, ending⟩
      rw [answered]
      split_ifs
      · refine ⟨notedForced.1, fun query => ?_⟩
        exact absurd (notedForced.2.symm.trans query) (by decide)
      · exact ⟨notedForced.1.doPhaseEndSessionPart2,
          fun query => absurd query (part2_leaves_query notedForced.2)⟩
  · exact ⟨forced, .refl state⟩

theorem clear_of_clears {id : Nat} {idleEnabled : Bool}
    (clears : Clears [id] state.queryClients state.inhibitors) :
    Clear { state with
      queryClients := state.queryClients.erase id
      inhibitors := state.inhibitors.filter (fun one => !one.hasClientId id)
      idleEnabled := idleEnabled } := by
  intro nobody
  rw [State.logoutInhibited, List.any_eq_false]
  intro inhibitor member
  obtain ⟨stored, other⟩ := List.mem_filter.mp member
  simp [clears.1 nobody inhibitor stored (by simpa using other)]

/-- An answer keeps a forced session forced, if what is left after it is clear. -/
theorem Forced.handle {client : Client} {response : Response} (forced : state.Forced opened)
    (goes : response.cancel = false) (clears : state.phase ≠ .exit →
      Clears [client.id] state.queryClients state.inhibitors) :
    (state.handleClientEndSessionResponse world client response).Forced opened ∧
      state.Leaves client.id (state.handleClientEndSessionResponse world client response) := by
  obtain ⟨idleEnabled, handled⟩ := @handle_forced world state opened forced client response goes
  rw [handled]
  exact Forced.answerNoted { forced with } fun more => clear_of_clears (clears more)

variable {first second : State} {firstOpened secondOpened : List LogoutAction}

theorem Alike.doPhaseEndSessionPart2 (alike : first.Alike second)
    (ending : .queryEndSession ≤ first.phase) :
    (first.doPhaseEndSessionPart2 world).Alike (second.doPhaseEndSessionPart2 world) := by
  have ended := @Alike.endPhase world first second alike ending
  unfold State.doPhaseEndSessionPart2
  cases alike with
  | besides inhibitors idleEnabled log same =>
      dsimp only
      split_ifs
      · exact (Alike.foldl (fun id alike => Alike.ask alike id) first.nextQueryClients
          (.besides inhibitors idleEnabled log same)).deferring []
      · exact ended

theorem Alike.answerNoted {id : Nat} {doLast : Bool} (alike : first.Alike second)
    (ending : .queryEndSession ≤ first.phase) (firstClear : first.phase ≠ .exit → first.Clear)
    (secondClear : second.phase ≠ .exit → second.Clear) :
    (first.answerNoted world id doLast).Alike (second.answerNoted world id doLast) := by
  have phase := alike.common.phase
  have queryClients := alike.common.queryClients
  unfold State.answerNoted
  rw [phase]
  cases firstPhase : first.phase with
  | queryEndSession =>
      have firstClear := firstClear (firstPhase.trans_ne (by decide))
      have secondClear := secondClear ((phase.trans firstPhase).trans_ne (by decide))
      dsimp only
      rw [queryClients]
      split_ifs with nobody
      · rw [queryEndSessionComplete_free (firstClear nobody),
          queryEndSessionComplete_free (secondClear (queryClients.trans nobody))]
        refine Alike.endPhase ?_ ending
        cases alike with
        | besides inhibitors idleEnabled log same => exact .besides inhibitors idleEnabled log same
      · exact alike
  | endSession =>
      obtain ⟨noted, notes, answered⟩ := @endSessionAnswered_clear world first id doLast
        (firstClear (firstPhase.trans_ne (by decide)))
      obtain ⟨other, otherNotes, otherAnswered⟩ := @endSessionAnswered_clear world second id doLast
        (secondClear ((phase.trans firstPhase).trans_ne (by decide)))
      have notedAlike : noted.Alike other ∧ noted.phase = first.phase := by
        rw [← notes, ← otherNotes]
        cases alike with
        | besides inhibitors idleEnabled log same =>
            split_ifs
            · exact ⟨.besides inhibitors idleEnabled log same, rfl⟩
            · exact ⟨.besides inhibitors idleEnabled log same, rfl⟩
      dsimp only
      rw [answered, otherAnswered, queryClients]
      split_ifs
      · exact notedAlike.1
      · exact notedAlike.1.doPhaseEndSessionPart2 (notedAlike.2 ▸ ending)
  | _ => exact alike

theorem Alike.handle {client : Client} {response : Response} (alike : first.Alike second)
    (firstForced : first.Forced firstOpened) (secondForced : second.Forced secondOpened)
    (goes : response.cancel = false)
    (firstClears : first.phase ≠ .exit →
      Clears [client.id] first.queryClients first.inhibitors)
    (secondClears : second.phase ≠ .exit →
      Clears [client.id] second.queryClients second.inhibitors) :
    (first.handleClientEndSessionResponse world client response).Alike
      (second.handleClientEndSessionResponse world client response) := by
  obtain ⟨firstIdle, firstHandled⟩ :=
    @handle_forced world first firstOpened firstForced client response goes
  obtain ⟨secondIdle, secondHandled⟩ :=
    @handle_forced world second secondOpened secondForced client response goes
  rw [firstHandled, secondHandled]
  refine Alike.answerNoted ?_ firstForced.ending (fun more => clear_of_clears (firstClears more))
    (fun more => clear_of_clears (secondClears more))
  cases alike with
  | besides inhibitors idleEnabled log same => exact .besides _ _ log same

theorem clears_of_free {ids waiting : List Nat} {inhibitors : List Inhibitor}
    (free : ∀ inhibitor ∈ inhibitors, inhibitor.hasFlag inhibitorFlagLogout = false) :
    Clears ids waiting inhibitors := by
  induction ids generalizing waiting inhibitors with
  | nil => trivial
  | cons id ids ih =>
      exact ⟨fun _ inhibitor member _ => free inhibitor member,
        ih fun inhibitor member => free inhibitor (List.mem_of_mem_filter member)⟩

theorem Clears.again {id : Nat} {ids waiting : List Nat} {inhibitors : List Inhibitor}
    (clears : Clears (id :: ids) waiting inhibitors) :
    Clears (id :: ids) waiting (inhibitors.filter (fun one => !one.hasClientId id)) := by
  refine ⟨fun nobody inhibitor member other => ?_, ?_⟩
  · exact clears.1 nobody inhibitor (List.mem_of_mem_filter member) other
  · rw [List.filter_filter]
    simpa using clears.2

theorem restartApp_ending (ending : .queryEndSession ≤ state.phase) (client : Client)
    (app : Option App) (isConditionClient : Bool) :
    state.restartApp world client app isConditionClient = state := by
  unfold restartApp
  split_ifs
  · rfl
  · cases app with
    | none => rfl
    | some app => rfl

/-- The departure of a client in a forced session: its inhibitors go, and it
answers the query if that still runs. -/
theorem disconnectClient_forced (forced : state.Forced opened) {client : Client}
    (clears : state.phase = .queryEndSession →
      Clears [client.id] state.queryClients state.inhibitors) :
    ∃ removed : State,
      (∃ idleEnabled, removed = { state with
        conditionClients := state.conditionClients.erase client.id
        inhibitors := state.inhibitors.filter (fun one => !one.hasClientId client.id)
        idleEnabled := idleEnabled }) ∧
      removed.Forced opened ∧
      (state.phase = .queryEndSession →
        Clears [client.id] removed.queryClients removed.inhibitors) ∧
      state.disconnectClient world client =
        if state.phase = .queryEndSession then
          removed.handleClientEndSessionResponse world client exitedResponse
        else removed := by
  obtain ⟨idleEnabled, removes⟩ := @removeInhibitors_closed world
    { state with conditionClients := state.conditionClients.erase client.id } forced.closed
    (Inhibitor.hasClientId client.id)
  have removedForced : ({ state with
      conditionClients := state.conditionClients.erase client.id
      inhibitors := state.inhibitors.filter (fun one => !one.hasClientId client.id)
      idleEnabled := idleEnabled } : State).Forced opened :=
    { forced with }
  have removedClears := fun query => Clears.again (clears query)
  refine ⟨_, ⟨idleEnabled, rfl⟩, removedForced, removedClears, ?_⟩
  unfold disconnectClient
  dsimp only
  rw [removes]
  split_ifs with query
  · exact restartApp_ending (removedForced.handle rfl fun _ => removedClears query).1.ending _ _ _
  · exact restartApp_ending removedForced.ending _ _ _

theorem Forced.disconnectClient {client : Client} (forced : state.Forced opened)
    (clears : state.phase = .queryEndSession →
      Clears [client.id] state.queryClients state.inhibitors) :
    (state.disconnectClient world client).Forced opened ∧
      state.Leaves client.id (state.disconnectClient world client) := by
  obtain ⟨removed, ⟨idleEnabled, removes⟩, removedForced, removedClears, left⟩ :=
    @disconnectClient_forced world state opened forced client clears
  rw [left]
  split_ifs with query
  · have handled := @Forced.handle world removed opened client exitedResponse removedForced rfl
      fun _ => removedClears query
    refine ⟨handled.1, fun still => ?_⟩
    obtain ⟨_, waiting, inhibitors⟩ := handled.2 still
    rw [waiting, inhibitors, removes, List.filter_filter]
    simpa using query
  · refine ⟨removedForced, fun still => absurd ?_ query⟩
    rw [removes] at still
    exact still

theorem Alike.disconnectClient {client : Client} (alike : first.Alike second)
    (firstForced : first.Forced firstOpened) (secondForced : second.Forced secondOpened)
    (firstClears : first.phase = .queryEndSession →
      Clears [client.id] first.queryClients first.inhibitors)
    (secondClears : second.phase = .queryEndSession →
      Clears [client.id] second.queryClients second.inhibitors) :
    (first.disconnectClient world client).Alike (second.disconnectClient world client) := by
  have phase := alike.common.phase
  obtain ⟨one, ⟨_, oneRemoves⟩, oneForced, oneClears, oneLeft⟩ :=
    @disconnectClient_forced world first firstOpened firstForced client firstClears
  obtain ⟨other, ⟨_, otherRemoves⟩, otherForced, otherClears, otherLeft⟩ :=
    @disconnectClient_forced world second secondOpened secondForced client secondClears
  have removed : one.Alike other := by
    rw [oneRemoves, otherRemoves]
    cases alike with
    | besides inhibitors idleEnabled log same => exact .besides _ _ log same
  rw [oneLeft, otherLeft, phase]
  split_ifs with query
  · exact removed.handle oneForced otherForced rfl (fun _ => oneClears query)
      fun _ => otherClears (phase.trans query)
  · exact removed

theorem Forced.removeClient (forced : state.Forced opened) (id : Nat) :
    (state.removeClient id).Forced opened :=
  { forced with }

theorem Forced.endPhaseIfEmpty (forced : state.Forced opened) :
    (state.endPhaseIfEmpty world).Forced opened ∧ state.Rests (state.endPhaseIfEmpty world) := by
  unfold State.endPhaseIfEmpty
  split_ifs
  · exact ⟨forced.endPhase, rests_endPhase forced state⟩
  · exact ⟨forced, .refl state⟩

theorem Alike.endPhaseIfEmpty (alike : first.Alike second) :
    (first.endPhaseIfEmpty world).Alike (second.endPhaseIfEmpty world) := by
  unfold State.endPhaseIfEmpty
  rw [alike.common.phase, alike.common.clients]
  split_ifs with last
  · exact alike.endPhase last.1
  · exact alike

theorem Clears.head {id : Nat} {ids waiting : List Nat} {inhibitors : List Inhibitor}
    (clears : Clears (id :: ids) waiting inhibitors) : Clears [id] waiting inhibitors :=
  ⟨clears.1, trivial⟩

theorem Forced.removeDBusClients {leaving : List Client} (forced : state.Forced opened)
    (clears : state.phase = .queryEndSession →
      Clears (leaving.map Client.id) state.queryClients state.inhibitors) :
    (state.removeDBusClients world leaving).Forced opened := by
  unfold State.removeDBusClients
  induction leaving generalizing state with
  | nil => exact forced
  | cons client leaving ih =>
      have left := @Forced.disconnectClient world state opened client forced
        fun query => Clears.head (clears query)
      exact ih (left.1.removeClient client.id) (left.2.clears clears)

theorem Alike.removeDBusClients {leaving : List Client} (alike : first.Alike second)
    (firstForced : first.Forced firstOpened) (secondForced : second.Forced secondOpened)
    (firstClears : first.phase = .queryEndSession →
      Clears (leaving.map Client.id) first.queryClients first.inhibitors)
    (secondClears : second.phase = .queryEndSession →
      Clears (leaving.map Client.id) second.queryClients second.inhibitors) :
    (first.removeDBusClients world leaving).Alike (second.removeDBusClients world leaving) := by
  unfold State.removeDBusClients
  induction leaving generalizing first second with
  | nil => exact alike
  | cons client leaving ih =>
      have firstHead := fun query => Clears.head (firstClears query)
      have secondHead := fun query => Clears.head (secondClears query)
      have firstLeft := @Forced.disconnectClient world first firstOpened client firstForced firstHead
      have secondLeft :=
        @Forced.disconnectClient world second secondOpened client secondForced secondHead
      have left := @Alike.disconnectClient world _ _ _ _ client alike firstForced secondForced
        firstHead secondHead
      exact ih (left.removeClient client.id) (firstLeft.1.removeClient client.id)
        (secondLeft.1.removeClient client.id) (firstLeft.2.clears firstClears)
        (secondLeft.2.clears secondClears)

theorem Forced.onClientDisconnected {client : Client} (forced : state.Forced opened)
    (clears : state.phase = .queryEndSession →
      Clears [client.id] state.queryClients state.inhibitors) :
    (state.onClientDisconnected world client).Forced opened ∧
      state.Leaves client.id (state.onClientDisconnected world client) := by
  have noted : (state.emit (.clientDisconnected client.id)).Forced opened :=
    ⟨forced.mode, forced.ending, forced.closed, (dialogs_emit rfl).trans forced.opened⟩
  have left := @Forced.disconnectClient world _ opened client noted clears
  have ended := @Forced.endPhaseIfEmpty world _ opened (left.1.removeClient client.id)
  exact ⟨ended.1, Leaves.rests left.2 ended.2⟩

end State

/-- Two forced sessions that differ in their inhibitors only. -/
structure Paired (firstOpened secondOpened : List LogoutAction) (first second : State) : Prop where
  alike : first.Alike second
  forced : first.Forced firstOpened
  otherForced : second.Forced secondOpened

namespace Paired

variable {world : World} {first second : State} {firstOpened secondOpened : List LogoutAction}

theorem removeClientsForConnection {serviceName : Option String}
    (paired : Paired firstOpened secondOpened first second)
    (clears : first.phase = .queryEndSession → Clears ((first.clients.filter
      (leavesWith serviceName)).map Client.id) first.queryClients first.inhibitors)
    (otherClears : second.phase = .queryEndSession → Clears ((second.clients.filter
      (leavesWith serviceName)).map Client.id) second.queryClients second.inhibitors) :
    Paired firstOpened secondOpened (first.removeClientsForConnection world serviceName)
      (second.removeClientsForConnection world serviceName) := by
  have left := @Forced.removeDBusClients world _ _ _ paired.forced clears
  have otherLeft := @Forced.removeDBusClients world _ _ _ paired.otherForced otherClears
  unfold State.removeClientsForConnection
  rw [paired.alike.common.clients] at otherClears otherLeft ⊢
  have alike := @Alike.removeDBusClients world _ _ _ _ _ paired.alike paired.forced
    paired.otherForced clears otherClears
  exact ⟨alike.endPhaseIfEmpty, left.endPhaseIfEmpty.1, otherLeft.endPhaseIfEmpty.1⟩

theorem onClientDisconnected {client : Client}
    (paired : Paired firstOpened secondOpened first second)
    (clears : first.phase = .queryEndSession →
      Clears [client.id] first.queryClients first.inhibitors)
    (otherClears : second.phase = .queryEndSession →
      Clears [client.id] second.queryClients second.inhibitors) :
    Paired firstOpened secondOpened (first.onClientDisconnected world client)
      (second.onClientDisconnected world client) where
  alike := by
    have noted : (first.emit (.clientDisconnected client.id)).Alike
        (second.emit (.clientDisconnected client.id)) := paired.alike.emit rfl
    have forced : (first.emit (.clientDisconnected client.id)).Forced firstOpened :=
      ⟨paired.forced.mode, paired.forced.ending, paired.forced.closed,
        (dialogs_emit rfl).trans paired.forced.opened⟩
    have otherForced : (second.emit (.clientDisconnected client.id)).Forced secondOpened :=
      ⟨paired.otherForced.mode, paired.otherForced.ending, paired.otherForced.closed,
        (dialogs_emit rfl).trans paired.otherForced.opened⟩
    exact ((noted.disconnectClient forced otherForced clears otherClears).removeClient
      client.id).endPhaseIfEmpty
  forced := (paired.forced.onClientDisconnected clears).1
  otherForced := (paired.otherForced.onClientDisconnected otherClears).1

theorem emitDisconnected {client : Client} (handlers : Nat)
    (paired : Paired firstOpened secondOpened first second)
    (clears : first.phase = .queryEndSession →
      Clears (List.replicate handlers client.id) first.queryClients first.inhibitors)
    (otherClears : second.phase = .queryEndSession →
      Clears (List.replicate handlers client.id) second.queryClients second.inhibitors) :
    Paired firstOpened secondOpened (first.emitDisconnected world client handlers)
      (second.emitDisconnected world client handlers) := by
  induction handlers generalizing first second with
  | zero => exact paired
  | succ handlers ih =>
      have head := fun query => Clears.head (clears query)
      have otherHead := fun query => Clears.head (otherClears query)
      refine ih (paired.onClientDisconnected head otherHead) ?_ ?_
      · exact (paired.forced.onClientDisconnected head).2.clears clears
      · exact (paired.otherForced.onClientDisconnected otherHead).2.clears otherClears

theorem busNameLost {serviceName : String}
    (paired : Paired firstOpened secondOpened first second)
    (clears : first.phase = .queryEndSession →
      Clears ((first.clients.filter (leavesWith (some serviceName))).map Client.id)
        first.queryClients (first.inhibitors.filter (fun one => !one.hasBusName serviceName)))
    (otherClears : second.phase = .queryEndSession →
      Clears ((second.clients.filter (leavesWith (some serviceName))).map Client.id)
        second.queryClients (second.inhibitors.filter (fun one => !one.hasBusName serviceName))) :
    Paired firstOpened secondOpened (first.busNameLost world serviceName)
      (second.busNameLost world serviceName) := by
  obtain ⟨idleEnabled, removed⟩ := @removeInhibitors_closed world _ paired.forced.closed
    (Inhibitor.hasBusName serviceName)
  obtain ⟨otherIdle, otherRemoved⟩ := @removeInhibitors_closed world _ paired.otherForced.closed
    (Inhibitor.hasBusName serviceName)
  unfold State.busNameLost
  rw [removed, otherRemoved]
  refine removeClientsForConnection ⟨?_, ?_, ?_⟩ clears otherClears
  · cases paired.alike with
    | besides inhibitors idleEnabled log same => exact .besides _ _ log same
  · exact { paired.forced with }
  · exact { paired.otherForced with }

theorem busDisconnected (paired : Paired firstOpened secondOpened first second)
    (clears : first.phase = .queryEndSession →
      Clears ((first.clients.filter (leavesWith none)).map Client.id)
        first.queryClients first.inhibitors)
    (otherClears : second.phase = .queryEndSession →
      Clears ((second.clients.filter (leavesWith none)).map Client.id)
        second.queryClients second.inhibitors) :
    Paired firstOpened secondOpened (first.busDisconnected world)
      (second.busDisconnected world) := by
  refine removeClientsForConnection ⟨?_, ?_, ?_⟩ clears otherClears
  · cases paired.alike with
    | besides inhibitors idleEnabled log same => exact .besides _ _ log same
  · exact { paired.forced with }
  · exact { paired.otherForced with }

end Paired

end CafeSession.Manager
