import CafeSession.Manager.Reach

namespace CafeSession.Manager

open CafeSession.Transition

/-- The record leads from one core to the other, and the running phase ends on
the way only when logging out is not locked down. -/
def Core.LeadsTo (locked : Bool) (before after : Core) : Prop :=
  ∃ news : List Effect, after.marks = news ++ before.marks ∧
    Progress before.phase news after.phase ∧
    ∀ ended, .phaseEnded ended ∈ news → ended.phase = .running → locked = false

/-- The session that is not ending is not logged out of by force. -/
def Core.Unforced (core : Core) : Prop :=
  core.phase < .queryEndSession → core.logoutMode ≠ .force

/-- The changes of the phase that are on record. -/
def State.phaseChanges (state : State) : List Effect :=
  state.log.filter Effect.changesPhase

structure Core.Orderly (locked : Bool) (start core : Core) : Prop where
  leads : start.LeadsTo locked core
  unforced : core.Unforced

/-- Phases that end one after the other lie between the first and the last. -/
theorem Progress.between {start finish : Phase} {news : List Effect}
    (progress : Progress start news finish)
    (ends : ∀ effect ∈ news, ∃ ended, effect = .phaseEnded ended) :
    start ≤ finish ∧
      ∀ ended, .phaseEnded ended ∈ news → start ≤ ended.phase ∧ ended.phase < finish := by
  induction progress with
  | refl => exact ⟨Nat.le_refl _, nofun⟩
  | @ended earlier last before more ih =>
      obtain ⟨up, between⟩ := ih fun effect member => ends effect (List.mem_cons_of_mem _ member)
      have next := Phase.number_next more
      refine ⟨?_, fun ended member => ?_⟩
      · rw [Phase.le_def] at up ⊢
        omega
      · rcases List.mem_cons.mp member with same | older
        · cases same
          exact ⟨up, by rw [Phase.lt_def]; omega⟩
        · obtain ⟨above, below⟩ := between ended older
          refine ⟨above, ?_⟩
          rw [Phase.lt_def] at below ⊢
          omega
  | cancelled before late ih =>
      obtain ⟨ended, same⟩ := ends _ List.mem_cons_self
      cases same
  | @other effect earlier phase before still ih =>
      obtain ⟨ended, rfl⟩ := ends _ List.mem_cons_self
      cases still

/-- Nothing but the changes of the phase has to be looked at. -/
theorem Progress.filter {start finish : Phase} {news : List Effect}
    (progress : Progress start news finish) :
    Progress start (news.filter Effect.changesPhase) finish := by
  induction progress with
  | refl => exact .refl
  | ended before more ih => exact .ended ih more
  | cancelled before late ih => exact .cancelled ih late
  | other before still ih =>
      rw [List.filter_cons_of_neg (by simp [still])]
      exact ih

theorem Effect.isMark_of_changesPhase {effect : Effect} (changes : effect.changesPhase = true) :
    effect.isMark = true := by
  cases effect <;> first | rfl | cases changes

theorem State.phaseChanges_eq (state : State) :
    state.phaseChanges = state.core.marks.filter Effect.changesPhase := by
  rw [State.phaseChanges, State.core, List.filter_filter]
  congr 1
  funext effect
  cases changes : effect.changesPhase with
  | false => rfl
  | true => rw [Effect.isMark_of_changesPhase changes, Bool.and_self]

namespace Core.LeadsTo

variable {locked : Bool} {start middle finish : Core}

theorem refl : start.LeadsTo locked start := ⟨[], rfl, .refl, nofun⟩

theorem trans (first : start.LeadsTo locked middle) (second : middle.LeadsTo locked finish) :
    start.LeadsTo locked finish := by
  obtain ⟨earlier, marked, progress, unlocked⟩ := first
  obtain ⟨later, laterMarked, laterProgress, laterUnlocked⟩ := second
  refine ⟨later ++ earlier, ?_, progress.trans laterProgress, fun ended member running => ?_⟩
  · rw [laterMarked, marked, List.append_assoc]
  · rcases List.mem_append.mp member with new | old
    · exact laterUnlocked ended new running
    · exact unlocked ended old running

theorem noted (leads : start.LeadsTo locked middle) {effect : Effect}
    (still : effect.changesPhase = false) (same : finish.phase = middle.phase)
    (marked : finish.marks = effect :: middle.marks) : start.LeadsTo locked finish := by
  refine leads.trans ⟨[effect], marked, ?_, fun ended member => ?_⟩
  · rw [same]
    exact .other .refl still
  · rw [← List.mem_singleton.mp member] at still
    cases still

end Core.LeadsTo

section

variable {world : World} {acts : Nat → Response → Prop} {drops : (Inhibitor → Bool) → Prop}
variable {state : State} {start : Core}

theorem endPhase_leads : state.core.LeadsTo world.logOutDisabled (state.endPhase world).core := by
  obtain ⟨news, ends, progress, kept⟩ := (@State.endPhase_frame world state).kept
  refine ⟨news, by rw [kept], progress, fun ended member running => ?_⟩
  obtain ⟨above, below⟩ := (progress.between ends).2 ended member
  rw [running] at above below
  by_contra locked
  have lockedDown : world.logOutDisabled = true := by simpa using locked
  -- a locked-down session stays in the running phase, if it comes as far
  have early : ¬ Phase.queryEndSession ≤ state.phase := fun late =>
    absurd (Nat.le_trans late above) (by decide)
  have stays : (state.endPhase world).core.phase ≤ .running := by
    have ending := State.endPhase_ending world state
    generalize (state.endPhase world).core = after at ending ⊢
    cases ending with
    | startup early starts => exact starts.phase
    | locked => exact above
    | asked running unlocked => exact absurd (unlocked.symm.trans lockedDown) (by decide)
    | ending query | emptied query =>
        exact absurd (Phase.queryEndSession_le.mpr (.inl query)) early
    | ended ends => exact absurd (Phase.queryEndSession_le.mpr (.inr (.inl ends))) early
    | quit exit => exact absurd (Phase.queryEndSession_le.mpr (.inr (.inr exit))) early
  exact absurd below (Nat.not_lt.mpr stays)

theorem orderly_endPhase (leads : start.LeadsTo world.logOutDisabled state.core)
    (late : .queryEndSession ≤ (state.endPhase world).core.phase) :
    start.Orderly world.logOutDisabled (state.endPhase world).core where
  leads := leads.trans endPhase_leads
  unforced early := absurd late (Phase.not_query_le.mpr early)

theorem orderly_left (leads : start.LeadsTo world.logOutDisabled state.core)
    (ending : .queryEndSession ≤ state.phase) :
    start.Orderly world.logOutDisabled (state.endPhase world).core :=
  orderly_endPhase leads (Phase.query_le_of_endSession_le (State.endPhase_leads_on ending))

theorem orderly_cancelEndSession (leads : start.LeadsTo world.logOutDisabled state.core)
    (ending : .queryEndSession ≤ state.phase) :
    start.Orderly world.logOutDisabled (state.cancelEndSession world).core := by
  rw [State.core_cancelEndSession ending]
  refine ⟨leads.trans ⟨[.sessionCancelled], rfl, .cancelled .refl ending, by simp⟩, nofun⟩

theorem orderlyRules :
    Rules world acts drops Core.Shaped (start.Orderly world.logOutDisabled) where
  taken _ _ _ _ _ orderly _ := { orderly with }
  inhibited _ _ _ _ _ _ _ _ _ orderly _ := { orderly with }
  dropped _ _ _ _ _ orderly := { orderly with }
  closed _ _ _ _ _ _ _ _ _ orderly := ⟨orderly.leads.noted rfl rfl rfl, orderly.unforced⟩
  accepted core _ action forced _ opened ends _ _ shaped orderly same := by
    have phase : forced.phase = core.phase := congrArg Core.phase same
    refine orderly_left ?_ ?_
    · exact orderly.leads.noted rfl phase (by rw [same])
    · rw [phase]
      exact (shaped.dialog action opened ends).1
  completed _ _ orderly query _ _ :=
    orderly_left orderly.leads (Phase.queryEndSession_le.mpr (.inl query))
  opened _ _ orderly _ _ _ := { orderly with }
  deferred _ _ _ _ _ _ orderly _ := { orderly with }
  moved _ _ _ _ orderly _ _ := { orderly with }
  ended _ _ orderly ending _ _ :=
    orderly_left orderly.leads (Phase.queryEndSession_le.mpr (.inr (.inl ending)))
  cancelled _ _ _ _ _ _ orderly ending := orderly_cancelEndSession orderly.leads ending

theorem orderlyDepartures :
    Departures world acts drops (start.Orderly world.logOutDisabled) where
  rules := orderlyRules
  gone _ _ _ _ orderly _ := { orderly with }
  noted _ _ _ orderly := ⟨orderly.leads.noted rfl rfl rfl, orderly.unforced⟩

theorem orderly_routine {locked : Bool} {before after : Core} (moved : before.Routine after)
    (unforced : before.Unforced) : before.Orderly locked after := by
  induction moved with
  | refl => exact ⟨.refl, unforced⟩
  | trans _ _ first second =>
      have middle := first unforced
      have last := second middle.unforced
      exact ⟨middle.leads.trans last.leads, last.unforced⟩
  | @started core after marks early noted starts =>
      obtain ⟨news, startup, progress, kept⟩ := starts.kept
      have startup_ : ∀ ended, .phaseEnded ended ∈ news → ended.phase = .running →
          locked = false := by
        intro ended member running
        obtain ⟨_, same, before⟩ := startup _ member
        cases same
        rw [running] at before
        exact absurd before (by decide)
      refine ⟨?_, fun _ => ?_⟩
      · rcases noted with rfl | rfl
        · exact ⟨news, by rw [kept], progress, startup_⟩
        · have timed : core.LeadsTo locked { core with
              phaseTimeout := false
              pendingApps := []
              registeredHandlers := []
              marks := .phaseTimedOut core.phase :: core.marks } :=
            Core.LeadsTo.refl.noted rfl rfl rfl
          exact timed.trans ⟨news, by rw [kept], progress, startup_⟩
      · have mode : after.logoutMode = core.logoutMode := by rw [kept]
        rw [mode]
        exact unforced (Nat.lt_succ_of_lt early)
  | @locked core mode type running closed unforced_ =>
      refine ⟨⟨[], rfl, .refl, nofun⟩, fun early => ?_⟩
      rcases unforced_ with other | same
      · exact other
      · exact same.trans_ne (unforced early)
  | shown core dialog running => exact ⟨⟨[], rfl, .refl, nofun⟩, fun _ => nofun⟩
  | closed core response opened stays =>
      exact ⟨Core.LeadsTo.refl.noted rfl rfl rfl, unforced⟩
  | _ => exact ⟨⟨[], rfl, .refl, nofun⟩, unforced⟩

theorem orderly_turn {before : State} {event : Event} {after : Core}
    (shaped : before.core.Shaped) (unforced : before.core.Unforced)
    (turn : Turn event.world before event.call after) :
    before.core.Orderly event.world.logOutDisabled after := by
  have departures := @orderlyDepartures event.world (fun _ _ => True) (fun _ => True) before.core
  have same_ : before.core.Orderly event.world.logOutDisabled before.core := ⟨.refl, unforced⟩
  cases turn with
  | routine moved => exact orderly_routine moved unforced
  | connected asked connects moved =>
      have moves := @orderly_routine event.world.logOutDisabled _ _ moved unforced
      exact { moves with }
  | answered answer stored same handled =>
      have both : _ ∧ _ := ⟨shaped, same_⟩
      rw [handled]
      refine (departures.both.handle trivial trivial ?_).2
      rw [same]
      exact both
  | called asked late same =>
      rw [same]
      exact ⟨Core.LeadsTo.refl.noted rfl rfl rfl, unforced⟩
  | departed departing =>
      exact (departures.departed (fun _ _ orderly ending _ => orderly_left orderly.leads ending)
        (fun _ _ => trivial) (fun _ _ => trivial) (fun _ _ => trivial) departing
        ⟨shaped, same_⟩).2
  | uninhibited asked found removed =>
      rw [removed]
      exact departures.rules.removeInhibitors trivial shaped same_
  | @asked leaving mode type dialog running unlocked closed typed same ended =>
      have now : leaving.phase = .running := (congrArg Core.phase same).trans running
      obtain ⟨asked, _, core⟩ := State.core_endPhase_running now unlocked
      rw [ended]
      refine orderly_endPhase ?_ (by rw [core]; exact Phase.query_le_query)
      rw [same]
      exact ⟨[], rfl, .refl, nofun⟩
  | @confirmed leaving dialog response mode type late opened normal answer ends typed same ended =>
      rw [ended]
      refine orderly_left ?_ ?_
      · rw [same]
        exact ⟨[], rfl, .refl, nofun⟩
      · rw [show leaving.phase = before.phase from congrArg Core.phase same]
        exact late
  | @cancelled action response opened ends asked refused handled =>
      rw [handled]
      exact @orderly_cancelEndSession event.world (before.answerDialog action response) before.core
        (Core.LeadsTo.refl.noted rfl rfl rfl) (shaped.dialog action opened ends).1
  | accepted opened ends asked handled =>
      rw [handled]
      exact orderly_left (Core.LeadsTo.refl.noted rfl rfl rfl) (shaped.dialog _ opened ends).1
  | queryTimedOut asked armed fired =>
      have query : before.phase = .queryEndSession := shaped.asked armed
      rw [fired]
      exact (departures.both.onQueryEndSessionTimeout query fun added named =>
        ⟨shaped.unanswered query named, { same_ with }⟩).2
  | phaseTimedOut asked armed ending fired =>
      rw [fired]
      exact orderly_left (Core.LeadsTo.refl.noted rfl rfl rfl)
        (Phase.queryEndSession_le.mpr (.inr (.inl ending)))

end

theorem orderly_reached {state : State} (reached : managerSystem.Reachable state) :
    Progress .initialization state.log state.phase ∧ state.core.Unforced := by
  have leads : Progress .initialization state.core.marks state.core.phase ∧ state.core.Unforced := by
    refine @reached_invariant (fun _ _ => True)
      (fun core => Progress .initialization core.marks core.phase ∧ core.Unforced)
      (fun _ _ => ⟨.refl, fun _ => nofun⟩) (fun before after moved holds => ?_)
      (fun before event after shaped holds _ turn => ?_) state reached
    · obtain ⟨⟨news, marked, progress, _⟩, unforced⟩ :=
        @orderly_routine false before after moved holds.2
      rw [marked]
      exact ⟨holds.1.trans progress, unforced⟩
    · obtain ⟨⟨news, marked, progress, _⟩, unforced⟩ := orderly_turn shaped holds.2 turn
      rw [marked]
      exact ⟨holds.1.trans progress, unforced⟩
  exact ⟨leads.1.of_filter fun _ => Effect.isMark_of_changesPhase, leads.2⟩

/-- Nothing but a forced logout refuses a request to inhibit that says who, why and what. -/
theorem managerInhibit_accepts {world : World} {state : State} {appId reason sender : String}
    {toplevelXid flags : UInt32} (unforced : state.logoutMode ≠ .force) (who : appId ≠ "")
    (why : reason ≠ "") (what : flags ≠ 0) :
    ∃ after cookie, state.managerInhibit world appId toplevelXid reason flags sender =
      .ok (after, cookie) := by
  simp [State.managerInhibit, unforced, who, why, what]

/-- Every change of the phase leads one phase up, or is a cancellation that leads
back to the running phase; the running phase ends only when logging out is not
locked down; and a request to inhibit is not refused before the session ends. -/
theorem phases_change_in_order {state : State} (reached : managerSystem.Reachable state) :
    Progress .initialization state.phaseChanges state.phase ∧
    (∀ (event : Event) (after : State), state.step event = some after →
      ∃ news : List Effect, after.phaseChanges = news ++ state.phaseChanges ∧
        Progress state.phase news after.phase ∧
        ∀ ended, .phaseEnded ended ∈ news → ended.phase = .running →
          event.world.logOutDisabled = false) ∧
    (state.phase < .queryEndSession → state.logoutMode ≠ .force ∧
      ∀ (world : World) (appId reason sender : String) (toplevelXid flags : UInt32),
        appId ≠ "" → reason ≠ "" → flags ≠ 0 →
        ∃ after cookie, state.managerInhibit world appId toplevelXid reason flags sender =
          .ok (after, cookie)) := by
  have shaped := shaped_reached reached
  obtain ⟨progress, unforced⟩ := orderly_reached reached
  refine ⟨progress.filter, fun event after stepped => ?_, fun early => ⟨unforced early, ?_⟩⟩
  · obtain ⟨⟨news, marked, led, unlocked⟩, _⟩ :=
      orderly_turn shaped unforced (State.step_turn shaped stepped).2
    refine ⟨news.filter Effect.changesPhase, ?_, led.filter, fun ended member =>
      unlocked ended (List.mem_of_mem_filter member)⟩
    rw [State.phaseChanges_eq, State.phaseChanges_eq, marked, List.filter_append]
  · intro world appId reason sender toplevelXid flags who why what
    exact managerInhibit_accepts (unforced early) who why what

/-- A forced logout is cancelled by the client that was asked to save its work. -/
def cancelledForcedLogout : List Call :=
  [.acceptConnection, .registerXsmpClient 1 "", .logout 2, .interactDone 1 true]

/-- After it, the session can be inhibited again. -/
theorem inhibits_after_cancelled_logout :
    ∃ state, afterCalls cancelledForcedLogout = some state ∧ state.phase = .running ∧
      ∃ after cookie, state.managerInhibit .permissive "burner" 0 "Burning a disc" 1 ":1.9" =
        .ok (after, cookie) := by
  obtain ⟨state, run⟩ : ∃ state, afterCalls cancelledForcedLogout = some state := ⟨_, rfl⟩
  have reached : managerSystem.Reachable state :=
    afterCalls_reached (System.meets_of_forall fun _ _ _ => trivial) run
  have running : state.phase = .running := by
    cases run
    decide
  obtain ⟨_, _, inhibits⟩ := phases_change_in_order reached
  obtain ⟨_, accepted⟩ := inhibits (by rw [running]; exact Phase.running_lt_query)
  exact ⟨state, run, running,
    accepted .permissive "burner" "Burning a disc" ":1.9" 0 1 (by decide) (by decide) (by decide)⟩

end CafeSession.Manager
