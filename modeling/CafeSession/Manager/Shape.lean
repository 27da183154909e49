import Mathlib.Data.List.Nodup
import CafeSession.Manager.Rules

namespace CafeSession.Manager

open CafeSession.Transition

structure Core.Shaped (core : Core) : Prop where
  distinct : core.clientIds.Nodup
  fresh : ∀ id ∈ core.clientIds, id < core.clientSerial
  timed : core.phaseTimeout = true → core.phase < .application ∨ core.phase = .endSession
  pending : core.pendingApps ≠ [] → core.phase < .application
  asked : core.queryTimeout = true → core.phase = .queryEndSession
  nobody : core.queryClients ≠ [] → core.phase = .queryEndSession ∨ core.phase = .endSession
  last : core.nextQueryClients ≠ [] → core.phase = .endSession
  waiting : core.phase = .queryEndSession →
    core.queryClients.Nodup ∧ ∀ id ∈ core.queryClients, id ∈ core.clientIds
  waited : core.phase = .queryEndSession → core.queryTimeout = false → core.queryClients = []
  dialog : ∀ action, core.inhibitDialog = some action → action.endsSession = true →
    .queryEndSession ≤ core.phase ∧ (core.phase = .queryEndSession → core.queryTimeout = false)
  shown : core.logoutDialog ≠ none → .running ≤ core.phase
  typed : .queryEndSession ≤ core.phase → core.logoutType ≠ .none
  jit : ∀ inhibitor ∈ core.inhibitors, inhibitor.isJit = true →
    inhibitor.hasFlag inhibitorFlagLogout = true ∧ .queryEndSession ≤ core.phase
  fault : core.fault ≠ some .quitType
  handlers : ∀ id ∈ core.registeredHandlers, id ∈ core.pendingApps

/-- From the running phase on no app is waited for, so none is followed. -/
theorem Core.Shaped.unfollowed {core : Core} (shaped : core.Shaped)
    (late : .running ≤ core.phase) : ∀ id ∈ core.registeredHandlers, id ∈ ([] : List String) := by
  intro id followed
  have waits : core.pendingApps ≠ [] := List.ne_nil_of_mem (shaped.handlers id followed)
  exact absurd (shaped.pending waits) (Nat.not_lt.mpr (Nat.le_of_succ_le late))

theorem Core.Shaped.quit {core : Core} (shaped : core.Shaped)
    (ending : .queryEndSession ≤ core.phase) (marks : List Effect) :
    { core with queryTimeout := false, marks := marks }.quit.Shaped := by
  have typed := shaped.typed ending
  refine ⟨shaped.distinct, shaped.fresh, nofun, fun some_ => absurd rfl some_, nofun,
    fun some_ => absurd rfl some_, fun some_ => absurd rfl some_, nofun, nofun,
    fun _ _ _ => ⟨Phase.query_le_exit, nofun⟩, fun _ => Phase.running_le_exit, fun _ => typed,
    fun inhibitor member jit => ⟨(shaped.jit inhibitor member jit).1, Phase.query_le_exit⟩, ?_,
    shaped.unfollowed (Phase.running_le_of_query_le ending)⟩
  simp only [Core.quit]
  rw [if_neg typed]
  exact shaped.fault

theorem Core.Started.shaped {before after : Core} (starts : before.Started after)
    (early : before.phase < .running) (idle : before.registeredHandlers = [])
    (shaped : before.Shaped) : after.Shaped := by
  obtain ⟨news, _, _, kept⟩ := starts.kept
  have outside : ¬ Phase.queryEndSession ≤ before.phase := by
    rw [Phase.lt_def] at early
    rw [Phase.le_def]
    simp only [Phase.number] at early ⊢
    omega
  have noJit : ∀ inhibitor ∈ before.inhibitors, ¬ inhibitor.isJit = true :=
    fun inhibitor member jit => outside (shaped.jit inhibitor member jit).2
  have noDialog : ∀ action, before.inhibitDialog = some action → ¬ action.endsSession = true :=
    fun action opened ends => outside (shaped.dialog action opened ends).1
  have after_query : ¬ Phase.queryEndSession ≤ after.phase := by
    have bound := starts.phase
    rw [Phase.le_def] at bound ⊢
    simp only [Phase.number] at bound ⊢
    omega
  rw [kept]
  exact ⟨shaped.distinct, shaped.fresh,
    fun timed => .inl (starts.pending (starts.timed.mp timed)),
    starts.pending, fun asked => (by cases asked), fun some_ => absurd rfl some_,
    fun some_ => absurd rfl some_, fun _ => ⟨List.nodup_nil, List.forall_mem_nil _⟩,
    fun _ _ => rfl, fun action opened ends => absurd ends (noDialog action opened),
    fun opened => absurd (shaped.shown opened) (Nat.not_le.mpr early),
    fun inside => absurd inside after_query,
    fun inhibitor member jit => absurd jit (noJit inhibitor member), shaped.fault,
    by simp [idle]⟩

theorem Core.Shaped.cleared {core : Core} (shaped : core.Shaped) (running : core.phase = .running)
    (mode : LogoutMode) (type : LogoutType) :
    { core with
      phaseTimeout := false
      pendingApps := []
      queryClients := []
      nextQueryClients := []
      logoutMode := mode
      logoutType := type }.Shaped :=
  ⟨shaped.distinct, shaped.fresh, nofun, fun some_ => absurd rfl some_, shaped.asked,
    fun some_ => absurd rfl some_, fun some_ => absurd rfl some_,
    fun _ => ⟨List.nodup_nil, nofun⟩, fun _ _ => rfl, shaped.dialog, shaped.shown,
    fun inside => absurd inside (Phase.running_early running), shaped.jit, shaped.fault,
    shaped.unfollowed (Phase.running_late running)⟩

/-- The query has timed out, and the clients that did not answer inhibit. -/
theorem Core.Shaped.unanswered {core : Core} (shaped : core.Shaped)
    (query : core.phase = .queryEndSession) {added : List Inhibitor}
    (named : ∀ inhibitor ∈ added, inhibitor.OfClient core.clientIds ∧
      inhibitor.hasFlag inhibitorFlagLogout = true) :
    { core with
      queryClients := []
      queryTimeout := false
      inhibitors := core.inhibitors ++ added }.Shaped :=
  { shaped with
    asked := nofun
    nobody := fun some_ => absurd rfl some_
    waiting := fun _ => ⟨List.nodup_nil, nofun⟩
    waited := fun _ _ => rfl
    dialog := fun action opened ends => ⟨(shaped.dialog action opened ends).1, fun _ => rfl⟩
    jit := fun inhibitor member jit => by
      rcases List.mem_append.mp member with old | new
      · exact shaped.jit inhibitor old jit
      · exact ⟨(named inhibitor new).2, Phase.queryEndSession_le.mpr (.inl query)⟩ }

namespace State

variable {world : World} {state : State}

/-- Every end of a phase leaves a shaped state, if a session that is left has a logout type. -/
theorem shaped_endPhase (shaped : state.core.Shaped) (late : .running ≤ state.phase)
    (typed : state.phase = .running → state.logoutType ≠ .none) :
    (state.endPhase world).core.Shaped := by
  have unfollowed := shaped.unfollowed late
  have ending := endPhase_ending world state
  generalize (state.endPhase world).core = after at ending ⊢
  cases ending with
  | startup early starts => exact absurd early (Nat.not_lt.mpr late)
  | locked running locked => exact shaped.cleared running state.logoutMode state.logoutType
  | @asked asked running unlocked sublist =>
      have outside : ¬ Phase.queryEndSession ≤ state.core.phase := Phase.running_early running
      have noJit : ∀ inhibitor ∈ state.core.inhibitors, ¬ inhibitor.isJit = true :=
        fun inhibitor member jit => outside (shaped.jit inhibitor member jit).2
      have noDialog : ∀ action, state.core.inhibitDialog = some action →
          ¬ action.endsSession = true :=
        fun action opened ends => outside (shaped.dialog action opened ends).1
      have ids : asked.Nodup ∧ ∀ id ∈ asked, id ∈ state.clientIds :=
        ⟨(List.nodup_reverse.mpr shaped.distinct).sublist sublist,
          fun id member => List.mem_reverse.mp (sublist.subset member)⟩
      exact ⟨shaped.distinct, shaped.fresh, nofun, fun some_ => absurd rfl some_, fun _ => rfl,
        fun _ => .inl rfl, fun some_ => absurd rfl some_, fun _ => ids, fun _ => nofun,
        fun action opened ends => absurd ends (noDialog action opened),
        fun _ => Phase.running_le_query, fun _ => typed running,
        fun inhibitor member jit => absurd jit (noJit inhibitor member), shaped.fault,
        unfollowed⟩
  | ending query clients sublist =>
      exact ⟨shaped.distinct, shaped.fresh, fun _ => .inr rfl, fun some_ => absurd rfl some_,
        nofun, fun _ => .inr rfl, fun some_ => absurd rfl some_, nofun, nofun,
        fun _ _ _ => ⟨Phase.query_le_endSession, nofun⟩, fun _ => Phase.running_le_endSession,
        fun _ => shaped.typed (Phase.queryEndSession_le.mpr (.inl query)),
        fun inhibitor member jit => ⟨(shaped.jit inhibitor member jit).1,
          Phase.query_le_endSession⟩, shaped.fault, unfollowed⟩
  | emptied query empty => exact shaped.quit (Phase.queryEndSession_le.mpr (.inl query)) _
  | ended ending => exact shaped.quit (Phase.queryEndSession_le.mpr (.inr (.inl ending))) _
  | quit exit =>
      have untimed : state.core.queryTimeout = false := by
        cases timed : state.core.queryTimeout with
        | false => rfl
        | true => exact absurd ((shaped.asked timed).symm.trans exit) (by decide)
      have quit := shaped.quit (Phase.queryEndSession_le.mpr (.inr (.inr exit))) state.core.marks
      rw [← untimed] at quit
      exact quit

theorem shaped_cancelEndSession (shaped : state.core.Shaped) :
    (state.cancelEndSession world).core.Shaped := by
  by_cases early : state.phase < .queryEndSession
  · have same : state.cancelEndSession world = state := by
      unfold cancelEndSession
      rw [if_pos early]
    rw [same]
    exact shaped
  rw [core_cancelEndSession (Phase.not_lt_query.mp early)]
  have noJit : ∀ inhibitor ∈ state.inhibitors.filter (fun one => !one.isJit),
      ¬ inhibitor.isJit = true := by
    intro inhibitor member
    simpa using (List.mem_filter.mp member).2
  exact ⟨shaped.distinct, shaped.fresh, nofun, fun some_ => absurd rfl some_, nofun,
    fun some_ => absurd rfl some_, fun some_ => absurd rfl some_, nofun, nofun, nofun,
    fun _ => Phase.running_le_running, fun inside => absurd inside Phase.not_query_le_running,
    fun inhibitor member jit => absurd jit (noJit inhibitor member), shaped.fault,
    shaped.unfollowed (Phase.running_le_of_query_le (Phase.not_lt_query.mp early))⟩

theorem shapedRules (world : World) (acts : Nat → Response → Prop)
    (drops : (Inhibitor → Bool) → Prop) :
    Rules world acts drops (fun _ => True) Core.Shaped where
  taken core id _ _ _ shaped ending :=
    { shaped with
      nobody := fun some_ => shaped.nobody fun none_ => some_ (by rw [none_]; rfl)
      waiting := fun query => ⟨(shaped.waiting query).1.erase id,
        fun other member => (shaped.waiting query).2 other (List.mem_of_mem_erase member)⟩
      waited := fun query timer => by rw [shaped.waited query timer]; rfl }
  inhibited core _ _ inhibitor _ _ _ logout _ shaped ending :=
    { shaped with
      jit := fun other member jit => by
        rcases List.mem_append.mp member with old | new
        · exact shaped.jit other old jit
        · rw [List.mem_singleton.mp new]
          exact ⟨logout, ending⟩ }
  dropped core matching _ _ _ shaped :=
    { shaped with
      jit := fun inhibitor member => shaped.jit inhibitor (List.mem_of_mem_filter member) }
  closed core _ _ _ _ _ _ _ _ shaped := { shaped with dialog := nofun, jit := nofun }
  accepted core _ action forced _ opened ends _ _ _ shaped same := by
    have closed : forced.core.Shaped := by
      rw [same]
      exact { shaped with dialog := nofun, jit := nofun }
    have phase : forced.phase = core.phase := congrArg Core.phase same
    have late : .running ≤ forced.phase := by
      rw [phase]
      exact Phase.running_le_of_query_le (shaped.dialog action opened ends).1
    refine shaped_endPhase closed late fun _ => ?_
    exact (congrArg Core.logoutType same).trans_ne (shaped.typed (shaped.dialog action opened ends).1)
  completed state _ shaped query nobody _ := by
    have stopped : ({ state with queryTimeout := false } : State).core.Shaped :=
      { shaped with
        asked := nofun
        waited := fun _ _ => nobody
        dialog := fun action opened ends => ⟨(shaped.dialog action opened ends).1, fun _ => rfl⟩ }
    have late : .running ≤ state.phase := by
      rw [query]
      exact Phase.running_le_query
    exact shaped_endPhase stopped late fun running => absurd (query.symm.trans running) (by decide)
  opened core _ shaped query nobody _ :=
    { shaped with
      asked := nofun
      waited := fun _ _ => nobody
      dialog := fun _ _ _ => ⟨Phase.queryEndSession_le.mpr (.inl query), fun _ => rfl⟩ }
  deferred core id _ _ _ _ shaped ending := { shaped with last := fun _ => ending }
  moved core asked _ _ shaped ending _ := by
    have notQuery : core.phase ≠ .queryEndSession :=
      fun query => absurd (ending.symm.trans query) (by decide)
    exact { shaped with
      nobody := fun _ => .inr ending
      last := fun some_ => absurd rfl some_
      waiting := fun query => absurd query notQuery
      waited := fun query => absurd query notQuery }
  ended state _ shaped ending _ _ := by
    have late : .running ≤ state.phase := by
      rw [ending]
      exact Phase.running_le_endSession
    exact shaped_endPhase shaped late fun running => absurd (ending.symm.trans running) (by decide)
  cancelled state _ _ _ _ _ shaped _ := shaped_cancelEndSession shaped

end State

end CafeSession.Manager
