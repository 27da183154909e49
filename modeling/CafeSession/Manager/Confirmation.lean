import CafeSession.Manager.Reach
import CafeSession.Manager.Survivors

namespace CafeSession.Manager

open State

structure Core.Answerable (core : Core) : Prop where
  normal : core.logoutDialog ≠ none → core.logoutMode = .normal
  sound : core.fault ≠ some .logoutDialogMode

/-- While a confirmation dialog is open, the event does not change the mode. -/
structure KeepsMode (before : State) (event : Event) : Prop where
  asked : before.logoutDialog ≠ none → before.phase = .running →
    event.world.logOutDisabled = false → ∀ mode, event.call.logoutMode = some mode → mode = .normal
  accepted : before.logoutDialog ≠ none → before.core.Ending →
    event.call ≠ .inhibitDialogResponse .accept
  /-- it does not take the last row of an inhibit dialog that ends the session,
  nor of one that can open between two clients that leave together -/
  lastRow : before.logoutDialog ≠ none → .queryEndSession ≤ before.phase →
    before.core.Ending ∨ 2 ≤ (event.call.leaving before).length → before.inhibitors ≠ [] →
    ∃ inhibitor ∈ before.inhibitors, event.call.removes before inhibitor = false

section

variable {world : World} {acts : Nat → Response → Prop} {drops : (Inhibitor → Bool) → Prop}
variable {state : State}

theorem answerable_endPhase (answerable : state.core.Answerable) :
    (state.endPhase world).core.Answerable := by
  have frame := @endPhase_frame world state
  refine ⟨fun opened => ?_, ?_⟩
  · rw [frame.logoutDialog] at opened
    rw [frame.logoutMode]
    exact answerable.normal opened
  · rcases frame.fault with same | quit
    · rw [same]
      exact answerable.sound
    · rw [quit]
      nofun

/-- The mode is kept where the last row of an inhibit dialog that ends the
session goes away only while no confirmation dialog is open. -/
theorem answerableRules {Given : Core → Prop}
    (harmless : ∀ core matching, drops matching → Given core → core.Ending →
      core.inhibitors ≠ [] → (∀ inhibitor ∈ core.inhibitors, matching inhibitor = true) →
      core.logoutDialog = none) :
    Rules world acts drops Given Core.Answerable where
  taken _ _ _ _ _ answerable _ := ⟨answerable.normal, answerable.sound⟩
  inhibited _ _ _ _ _ _ _ _ _ answerable _ := ⟨answerable.normal, answerable.sound⟩
  dropped _ _ _ _ _ answerable := ⟨answerable.normal, answerable.sound⟩
  closed _ _ _ _ _ _ _ _ _ answerable := ⟨answerable.normal, answerable.sound⟩
  accepted core matching action forced dropping opened ends some_ last given answerable same := by
    have closed := harmless core matching dropping given ⟨action, opened, ends⟩ some_ last
    refine answerable_endPhase ⟨fun open_ => ?_, ?_⟩
    · rw [same] at open_
      exact absurd closed open_
    · rw [same]
      exact answerable.sound
  completed _ _ answerable _ _ _ := answerable_endPhase ⟨answerable.normal, answerable.sound⟩
  opened _ _ answerable _ _ _ := ⟨answerable.normal, answerable.sound⟩
  deferred _ _ _ _ _ _ answerable _ := ⟨answerable.normal, answerable.sound⟩
  moved _ _ _ _ answerable _ _ := ⟨answerable.normal, answerable.sound⟩
  ended _ _ answerable _ _ _ := answerable_endPhase answerable
  cancelled _ _ _ _ _ _ answerable ending := by
    rw [core_cancelEndSession ending]
    exact ⟨fun _ => rfl, answerable.sound⟩

theorem answerableEmptied : Emptied world Core.Answerable :=
  fun _ _ answerable _ _ => answerable_endPhase answerable

theorem answerableNoDrops :
    Rules world acts (fun _ => False) (fun core => core.Shaped) Core.Answerable :=
  answerableRules fun _ _ dropping => dropping.elim

theorem answerable_removeInhibitors {matching : Inhibitor → Bool}
    (answerable : state.core.Answerable)
    (lastRow : state.logoutDialog ≠ none → state.core.Ending → state.inhibitors ≠ [] →
      ∃ inhibitor ∈ state.inhibitors, matching inhibitor = false) :
    (state.removeInhibitors world matching).core.Answerable := by
  have rules : Rules world (fun _ _ => True) (fun other => other = matching)
      (fun core => core = state.core) Core.Answerable := by
    refine answerableRules fun core other same given ending some_ last => ?_
    subst same given
    by_contra opened
    obtain ⟨inhibitor, member, stays⟩ := lastRow opened ending some_
    exact absurd ((last inhibitor member).symm.trans stays) (by decide)
  exact rules.removeInhibitors rfl rfl answerable

theorem answerable_handle {client : Client} {response : Response} (shaped : state.core.Shaped)
    (answerable : state.core.Answerable)
    (lastRow : state.logoutDialog ≠ none → state.core.Ending → state.inhibitors ≠ [] →
      ∃ inhibitor ∈ state.inhibitors, inhibitor.hasClientId client.id = false) :
    (state.handleClientEndSessionResponse world client response).core.Answerable := by
  unfold handleClientEndSessionResponse
  split_ifs with early cancel
  · exact answerable
  · rw [core_cancelEndSession (Phase.not_lt_query.mp early)]
    exact ⟨fun _ => rfl, answerable.sound⟩
  · have ending := Phase.not_lt_query.mp early
    have base := shapedRules world (fun _ _ => True) (fun _ => True)
    have taken := base.taken state.core client.id response trivial trivial shaped ending
    have notedShaped := @Rules.noteTaken world _ _ _ state base client response trivial trivial
      ending taken
    have noted : (state.noteAnswer world client response).core.Answerable := by
      unfold noteAnswer
      dsimp only
      split_ifs
      · exact ⟨answerable.normal, answerable.sound⟩
      · exact @answerable_removeInhibitors world
          { state with queryClients := state.queryClients.erase client.id } _
          ⟨answerable.normal, answerable.sound⟩ lastRow
    have rules := (shapedRules world (fun _ _ => True) (fun _ => False)).both answerableNoDrops
      fun _ _ given => given
    exact (rules.answerNoted trivial ⟨notedShaped, noted⟩).2

/-- Once the inhibitors of the only client that leaves have gone, its departure
removes no more. -/
theorem cleanDepartures (world : World) (id : Nat) :
    Departures world (fun _ response => response.isOk = true)
      (fun matching => matching = Inhibitor.hasClientId id)
      (fun core => Core.Within (fun inhibitor => inhibitor.hasClientId id = false) core ∧
        core.Answerable) := by
  have within : Departures world (fun _ response => response.isOk = true)
      (fun matching => matching = Inhibitor.hasClientId id)
      (Core.Within fun inhibitor => inhibitor.hasClientId id = false) :=
    withinDepartures fun _ _ agrees => agrees
  refine within.beside (answerableRules ?_)
    (fun _ _ _ _ _ answerable _ => ⟨answerable.normal, answerable.sound⟩)
    (fun _ _ _ answerable => ⟨answerable.normal, answerable.sound⟩)
  rintro core _ rfl ⟨_, within⟩ _ some_ last
  obtain ⟨inhibitor, member⟩ := List.exists_mem_of_ne_nil _ some_
  exact absurd ((last inhibitor member).symm.trans (within inhibitor member)) (by decide)

theorem cleanEmptied (world : World) (id : Nat) :
    Emptied world (fun core =>
      Core.Within (fun inhibitor => inhibitor.hasClientId id = false) core ∧ core.Answerable) :=
  (withinEmptied _).both answerableEmptied

theorem calm_removeInhibitors {matching : Inhibitor → Bool} (calm : ¬ state.core.Ending) :
    ¬ (state.removeInhibitors world matching).core.Ending := by
  rintro ⟨action, opened, ends⟩
  rcases core_removeInhibitors world state matching with ⟨_, core⟩ | ⟨shown, _, _, showing, core⟩
  · rw [core] at opened
    exact calm ⟨action, opened, ends⟩
  · split_ifs at core with ending
    · exact calm ⟨shown, showing, ending⟩
    · rw [core] at opened
      cases opened

theorem answerable_depart {client : Client} (shaped : state.core.Shaped)
    (answerable : state.core.Answerable) (calm : ¬ state.core.Ending) :
    ((state.disconnectClient world client).removeClient client.id).core.Shaped ∧
      Core.Within (fun inhibitor => inhibitor.hasClientId client.id = false)
        ((state.disconnectClient world client).removeClient client.id).core ∧
      ((state.disconnectClient world client).removeClient client.id).core.Answerable := by
  refine (cleanDepartures world client.id).departRemoved rfl rfl shaped ⟨?_, ?_⟩
  · exact fun inhibitor member => (@within_removeInhibitors world
      { state with conditionClients := state.conditionClients.erase client.id } (fun _ => True)
      (Inhibitor.hasClientId client.id) (fun _ _ => trivial) inhibitor member).2
  · exact answerable_removeInhibitors answerable fun _ ending => absurd ending calm

theorem answerable_emitDisconnected {client : Client} (handlers : Nat)
    (shaped : state.core.Shaped) (answerable : state.core.Answerable)
    (calm : ¬ state.core.Ending) :
    (state.emitDisconnected world client handlers).core.Answerable := by
  cases handlers with
  | zero => exact answerable
  | succ handlers =>
      have first := @answerable_depart world (state.emit (.clientDisconnected client.id)) client
        { shaped with } ⟨answerable.normal, answerable.sound⟩ calm
      have left := @Departures.endPhaseIfEmpty world _ _ (cleanEmptied world client.id) first
      exact ((cleanDepartures world client.id).emitDisconnected (cleanEmptied world client.id) rfl
        rfl handlers left).2.2

/-- Nothing that answers for a client or lets it leave opens a confirmation dialog. -/
theorem unshownDepartures :
    Departures world acts drops (fun core => core.logoutDialog = none) where
  rules := {
    taken := fun _ _ _ _ _ unshown _ => unshown
    inhibited := fun _ _ _ _ _ _ _ _ _ unshown _ => unshown
    dropped := fun _ _ _ _ _ unshown => unshown
    closed := fun _ _ _ _ _ _ _ _ _ unshown => unshown
    accepted := fun _ _ _ forced _ _ _ _ _ _ unshown same => by
      rw [endPhase_frame.logoutDialog, same]
      exact unshown
    completed := fun _ _ unshown _ _ _ => endPhase_frame.logoutDialog.trans unshown
    opened := fun _ _ unshown _ _ _ => unshown
    deferred := fun _ _ _ _ _ _ unshown _ => unshown
    moved := fun _ _ _ _ unshown _ _ => unshown
    ended := fun _ _ unshown _ _ _ => endPhase_frame.logoutDialog.trans unshown
    cancelled := fun _ _ _ _ _ _ unshown ending => by
      rw [core_cancelEndSession ending]
      exact unshown }
  gone _ _ _ _ unshown _ := unshown
  noted _ _ _ unshown := unshown

theorem unshownEmptied : Emptied world (fun core => core.logoutDialog = none) :=
  fun _ _ unshown _ _ => endPhase_frame.logoutDialog.trans unshown

theorem answerable_removeDBusClients {leaving : List Client} (single : leaving.length < 2)
    (shaped : state.core.Shaped) (answerable : state.core.Answerable)
    (calm : ¬ state.core.Ending) :
    ((state.removeDBusClients world leaving).endPhaseIfEmpty world).core.Answerable := by
  cases leaving with
  | nil => exact (Departures.endPhaseIfEmpty answerableEmptied ⟨shaped, answerable⟩).2
  | cons client others =>
      have alone : others = [] := by
        rw [List.length_cons] at single
        exact List.eq_nil_of_length_eq_zero (by omega)
      have departs : state.removeDBusClients world (client :: others) =
          (state.disconnectClient world client).removeClient client.id := by
        rw [alone]
        rfl
      have departed := @answerable_depart world state client shaped answerable calm
      rw [departs]
      exact (Departures.endPhaseIfEmpty (cleanEmptied world client.id) departed).2.2

theorem answerable_departed_of {Q : Core → Prop} {before : State} {call : Call} {after : Core}
    (departures : Departures world acts drops Q) (emptied : Emptied world Q)
    (harmless : ∀ core matching, drops matching → core.Shaped ∧ Q core → core.Ending →
      core.inhibitors ≠ [] → (∀ inhibitor ∈ core.inhibitors, matching inhibitor = true) →
      core.logoutDialog = none)
    (acting : ∀ client ∈ call.leaving before, acts client.id exitedResponse)
    (dropping : ∀ client ∈ call.leaving before, drops (Inhibitor.hasClientId client.id))
    (named : ∀ serviceName, call = .busNameLost serviceName →
      drops (Inhibitor.hasBusName serviceName))
    (departing : Departing world before call after) (shaped : before.core.Shaped)
    (given : Q before.core) (answerable : before.core.Answerable) : after.Answerable := by
  have both := departures.beside (answerableRules harmless)
    (fun _ _ _ _ _ answerable _ => ⟨answerable.normal, answerable.sound⟩)
    (fun _ _ _ answerable => ⟨answerable.normal, answerable.sound⟩)
  exact (both.departed (emptied.both answerableEmptied) acting dropping named departing
    ⟨shaped, given, answerable⟩).2.2

theorem answerable_departed {before : State} {call : Call} {after : Core}
    (shaped : before.core.Shaped) (answerable : before.core.Answerable)
    (lastRow : before.logoutDialog ≠ none → .queryEndSession ≤ before.phase →
      before.core.Ending ∨ 2 ≤ (call.leaving before).length → before.inhibitors ≠ [] →
      ∃ inhibitor ∈ before.inhibitors, call.removes before inhibitor = false)
    (departing : Departing world before call after) : after.Answerable := by
  by_cases unshown : before.logoutDialog = none
  · have departures : Departures world (fun _ _ => True) (fun _ => True)
        (fun core => core.logoutDialog = none) := unshownDepartures
    exact answerable_departed_of departures unshownEmptied (fun _ _ _ given _ _ _ => given.2)
      (fun _ _ => trivial) (fun _ _ => trivial) (fun _ _ => trivial) departing shaped unshown
      answerable
  by_cases early : before.phase < .queryEndSession
  · have departures : Departures world (fun _ _ => True) (fun _ => True)
        (fun core => core.phase < .queryEndSession) := earlyDepartures
    refine answerable_departed_of departures earlyEmptied ?_ (fun _ _ => trivial)
      (fun _ _ => trivial) (fun _ _ => trivial) departing shaped early answerable
    rintro core _ _ ⟨shaped, early⟩ ⟨action, opened, ends⟩ _ _
    exact absurd (shaped.dialog action opened ends).1 (Phase.not_query_le.mpr early)
  have ending := Phase.not_lt_query.mp early
  by_cases none_ : before.inhibitors = []
  · have departures : Departures world (fun _ response => response.isOk = true) (fun _ => True)
        (Core.Within fun _ => False) := withinDepartures fun _ _ agrees => agrees
    refine answerable_departed_of departures (withinEmptied _) ?_ (fun _ _ => rfl)
      (fun _ _ => trivial) (fun _ _ => trivial) departing shaped ?_ answerable
    · rintro core _ _ ⟨_, within⟩ _ some_ _
      obtain ⟨inhibitor, member⟩ := List.exists_mem_of_ne_nil _ some_
      exact (within inhibitor member).elim
    · intro inhibitor member
      rw [show before.core.inhibitors = [] from none_] at member
      cases member
  by_cases survives : ∃ inhibitor ∈ before.inhibitors, call.removes before inhibitor = false
  · obtain ⟨survivor, member, stays⟩ := survives
    have departures : Departures world (fun _ _ => True) (fun matching => matching survivor = false)
        (Core.Spares survivor) := sparesDepartures fun _ spared => spared
    refine answerable_departed_of departures (sparesEmptied survivor) ?_ (fun _ _ => trivial)
      (fun client leaves => not_removed_of_leaving stays leaves)
      (fun _ lost => not_removed_of_name stays lost) departing shaped (.inr member) answerable
    rintro core matching spared ⟨shaped, spares⟩ ⟨action, opened, ends⟩ _ last
    rcases spares with early | member
    · exact absurd (shaped.dialog action opened ends).1 (Phase.not_query_le.mpr early)
    · exact absurd ((last survivor member).symm.trans spared) (by decide)
  have calm : ¬ before.core.Ending := fun open_ =>
    survives (lastRow unshown ending (.inl open_) none_)
  have single : (call.leaving before).length < 2 := by
    by_contra several
    exact survives (lastRow unshown ending (.inr (Nat.not_lt.mp several)) none_)
  cases departing with
  | @left client told lost stored same emitted =>
      rw [emitted]
      rw [← same] at shaped answerable calm
      exact answerable_emitDisconnected _ shaped answerable calm
  | @nameLost serviceName lost removed =>
      have base := shapedRules world (fun _ _ => True) (fun _ => True)
      have dropped := @Rules.removeInhibitors world _ _ _ _ before base
        (Inhibitor.hasBusName serviceName) trivial trivial shaped
      have kept := @answerable_removeInhibitors world before (Inhibitor.hasBusName serviceName)
        answerable fun _ open_ => absurd open_ calm
      rw [removed]
      rw [lost] at single
      refine answerable_removeDBusClients ?_ dropped kept (calm_removeInhibitors calm)
      rw [leaving_removeInhibitors]
      exact single
  | busLost lost removed =>
      rw [removed]
      rw [lost] at single
      exact answerable_removeDBusClients single shaped answerable calm

end

theorem answerable_routine {before after : Core} (moved : before.Routine after)
    (answerable : before.Answerable) : after.Answerable := by
  induction moved with
  | refl => exact answerable
  | trans _ _ first second => exact second (first answerable)
  | started early noted starts =>
      obtain ⟨news, _, _, kept⟩ := starts.kept
      rw [kept]
      exact ⟨answerable.normal, answerable.sound⟩
  | locked core running closed unforced =>
      refine ⟨fun opened => ?_, answerable.sound⟩
      rcases closed with none_ | same
      · exact absurd none_ opened
      · exact same.trans (answerable.normal opened)
  | shown => exact ⟨fun _ => rfl, answerable.sound⟩
  | hidden => exact ⟨fun opened => absurd rfl opened, answerable.sound⟩
  | faulted core opened other => exact absurd (answerable.normal opened) other
  | _ => exact ⟨answerable.normal, answerable.sound⟩

theorem answerable_turn {before : State} {event : Event} {after : Core}
    (shaped : before.core.Shaped) (answerable : before.core.Answerable)
    (keeps : KeepsMode before event) (turn : Turn event.world before event.call after) :
    after.Answerable := by
  cases turn with
  | called asked late same =>
      rw [same]
      exact ⟨answerable.normal, answerable.sound⟩
  | routine moved => exact answerable_routine moved answerable
  | connected asked connects moved => exact answerable_routine moved { answerable with }
  | @answered client response asked answer stored same handled =>
      rw [handled]
      rw [← same] at shaped answerable
      refine answerable_handle shaped answerable fun opened ending some_ => ?_
      obtain ⟨action, showing, ends⟩ := ending
      have late := (shaped.dialog action showing ends).1
      rw [show asked.logoutDialog = before.logoutDialog from congrArg Core.logoutDialog same] at opened
      rw [show asked.core.inhibitDialog = before.inhibitDialog from
        congrArg Core.inhibitDialog same] at showing
      rw [show asked.core.phase = before.phase from congrArg Core.phase same] at late
      rw [show asked.inhibitors = before.inhibitors from congrArg Core.inhibitors same] at some_ ⊢
      obtain ⟨inhibitor, member, stays⟩ :=
        keeps.lastRow opened late (.inl ⟨action, showing, ends⟩) some_
      exact ⟨inhibitor, member, not_removed_of_answer stays answer⟩
  | departed departing => exact answerable_departed shaped answerable keeps.lastRow departing
  | @uninhibited cookie inhibitor asked found removed =>
      rw [removed]
      refine answerable_removeInhibitors answerable fun opened ending some_ => ?_
      obtain ⟨action, showing, ends⟩ := ending
      have late := (shaped.dialog action showing ends).1
      obtain ⟨other, member, stays⟩ :=
        keeps.lastRow opened late (.inl ⟨action, showing, ends⟩) some_
      exact ⟨other, member, not_removed_of_uninhibit stays asked found⟩
  | @asked leaving mode type dialog running unlocked closed typed same ended =>
      rw [ended]
      refine answerable_endPhase ?_
      rw [same]
      refine ⟨fun opened => ?_, answerable.sound⟩
      rcases closed with none_ | ⟨sameDialog, sameMode | asked⟩
      · exact absurd none_ opened
      · rw [sameDialog] at opened
        exact sameMode.trans (answerable.normal opened)
      · rw [sameDialog] at opened
        exact keeps.asked opened running unlocked mode asked
  | confirmed late opened normal answer ends typed same ended =>
      rw [ended]
      refine answerable_endPhase ?_
      rw [same]
      exact ⟨fun opened => absurd rfl opened, answerable.sound⟩
  | @cancelled action response opened ends asked refused handled =>
      have late := (shaped.dialog action opened ends).1
      rw [handled, @core_cancelEndSession event.world (before.answerDialog action response) late]
      exact ⟨fun _ => rfl, answerable.sound⟩
  | @accepted action opened ends asked handled =>
      rw [handled]
      refine answerable_endPhase ⟨fun shown => ?_, answerable.sound⟩
      exact absurd asked (keeps.accepted shown ⟨action, opened, ends⟩)
  | queryTimedOut asked armed fired =>
      have query : before.phase = .queryEndSession := shaped.asked armed
      have rules := (shapedRules event.world (fun _ _ => True) (fun _ => False)).both
        answerableNoDrops fun _ _ given => given
      rw [fired]
      exact (rules.onQueryEndSessionTimeout query fun inhibitors added =>
        ⟨shaped.unanswered query added, answerable.normal, answerable.sound⟩).2
  | phaseTimedOut asked armed ending fired =>
      rw [fired]
      exact answerable_endPhase ⟨answerable.normal, answerable.sound⟩

/-- In every run whose events leave the mode of an open confirmation dialog
alone, the dialog's answer finds the normal mode, and the assertion holds. -/
theorem confirmation_finds_normal_mode {state : State}
    (reached : managerSystem.ReachableBy KeepsMode state) :
    (state.logoutDialog ≠ none → state.logoutMode = .normal) ∧
      state.fault ≠ some .logoutDialogMode := by
  have answerable : state.core.Answerable := by
    refine reached_invariant (fun apps _ => ⟨fun _ => rfl, nofun⟩) (fun _ _ => answerable_routine) ?_
      reached
    exact fun before event after shaped answerable keeps turn =>
      answerable_turn shaped answerable keeps turn
  exact ⟨answerable.normal, answerable.sound⟩

/-- A logout that asks, one that does not, and the answer to the first. -/
theorem logout_leaves_dialog_open :
    (afterCalls [.logout 0, .logout 1]).map (fun state => (state.logoutDialog, state.logoutMode)) =
        some (some .logout, .noConfirmation) ∧
      (afterCalls [.logout 0, .logout 1, .logoutDialogResponse .cancel]).map State.fault =
        some (some .logoutDialogMode) := by
  decide

/-- A dialog that takes the place of another one keeps the mode. -/
theorem replaced_dialog_finds_normal_mode :
    ∃ state, afterCalls [.logout 0, .shutdown] = some state ∧
      state.logoutDialog = some .shutdown ∧
      (state.logoutDialog ≠ none → state.logoutMode = .normal) ∧
      state.fault ≠ some .logoutDialogMode := by
  obtain ⟨state, run⟩ : ∃ state, afterCalls [.logout 0, .shutdown] = some state := ⟨_, rfl⟩
  have shown : state.logoutDialog = some .shutdown := by
    cases run
    rfl
  refine ⟨state, run, shown, confirmation_finds_normal_mode (afterCalls_reached ?_ run)⟩
  refine ⟨⟨fun opened => absurd rfl opened, fun opened => absurd rfl opened,
    fun opened => absurd rfl opened⟩, fun next stepped => ?_⟩
  cases stepped
  exact ⟨⟨fun _ _ _ _ => nofun, fun _ _ => nofun, fun _ late => absurd late (by decide)⟩,
    fun _ _ => trivial⟩

end CafeSession.Manager
