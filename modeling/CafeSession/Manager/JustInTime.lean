import CafeSession.Manager.Reach
import CafeSession.Manager.Roster

namespace CafeSession.Manager

open CafeSession.Transition

/-- Every just-in-time inhibitor is one of a client of the store. -/
def Core.Attached (core : Core) : Prop :=
  ∀ inhibitor ∈ core.inhibitors, inhibitor.isJit = true → inhibitor.OfClient core.clientIds

/-- The caller gives the inhibitor up, or has left the bus. -/
def Call.releases (inhibitor : Inhibitor) : Call → Bool
  | .uninhibit cookie => inhibitor.cookie == cookie
  | .busNameLost serviceName => inhibitor.hasBusName serviceName
  | _ => false

/-- The call cancels a logout. -/
def Call.cancels : Call → Bool
  | .interactDone _ cancelShutdown => cancelShutdown
  | .inhibitDialogResponse response => response != .accept
  | _ => false

theorem Inhibitor.OfClient.grow {clientIds more : List Nat} {inhibitor : Inhibitor}
    (named : inhibitor.OfClient clientIds) (grows : clientIds ⊆ more) :
    inhibitor.OfClient more := by
  obtain ⟨id, stored, same⟩ := named
  exact ⟨id, grows stored, same⟩

section

variable {world : World} {acts : Nat → Response → Prop} {drops : (Inhibitor → Bool) → Prop}
variable {state : State}

theorem attached_endPhase (attached : state.core.Attached) :
    (state.endPhase world).core.Attached := by
  have frame := @State.endPhase_frame world state
  intro inhibitor member jit
  rw [frame.inhibitors] at member
  rw [frame.clientIds]
  exact attached inhibitor member jit

theorem attached_cancelEndSession (ending : .queryEndSession ≤ state.phase) :
    (state.cancelEndSession world).core.Attached := by
  rw [State.core_cancelEndSession ending]
  intro inhibitor member jit
  have called := (List.mem_filter.mp member).2
  simp [jit] at called

/-- A client that refuses has to be in the store. -/
theorem attachedRules {Given : Core → Prop}
    (stored : ∀ core id response, acts id response → response.isOk = false → Given core →
      id ∈ core.clientIds) : Rules world acts drops Given Core.Attached where
  taken _ _ _ _ _ attached _ := attached
  inhibited core id response inhibitor acting refuses named _ given attached _ := by
    intro other member jit
    rcases List.mem_append.mp member with old | new
    · exact attached other old jit
    · rw [List.mem_singleton.mp new]
      exact ⟨id, stored core id response acting refuses given, named⟩
  dropped _ _ _ _ _ attached inhibitor member := attached inhibitor (List.mem_of_mem_filter member)
  closed _ _ _ _ _ _ _ _ _ _ := nofun
  accepted _ _ _ forced _ _ _ _ _ _ _ same := by
    refine attached_endPhase ?_
    rw [same]
    nofun
  completed _ _ attached _ _ _ := attached_endPhase attached
  opened _ _ attached _ _ _ := attached
  deferred _ _ _ _ _ _ attached _ := attached
  moved _ _ _ _ attached _ _ := attached
  ended _ _ attached _ _ _ := attached_endPhase attached
  cancelled _ _ _ _ _ _ _ ending := attached_cancelEndSession ending

/-- The inhibitors of a client go before the client does. -/
theorem attachedDepartures :
    Departures world (fun _ response => response = exitedResponse) drops Core.Attached where
  rules := attachedRules fun _ _ response same refuses => by
    rw [same] at refuses
    cases refuses
  gone core id _ _ attached absent := by
    intro inhibitor member jit
    obtain ⟨other, stored, named⟩ := attached inhibitor member jit
    have different : other ≠ id := by
      rintro rfl
      have unnamed := absent.unnamed inhibitor member
      simp [Inhibitor.hasClientId, named] at unnamed
    exact ⟨other, List.mem_filter.mpr ⟨stored, by simpa using different⟩, named⟩
  noted _ _ _ attached := attached

theorem mem_endPhase {inhibitor : Inhibitor} (member : inhibitor ∈ state.core.inhibitors) :
    inhibitor ∈ (state.endPhase world).core.inhibitors := by
  rw [State.endPhase_frame.inhibitors]
  exact member

theorem mem_cancelEndSession {inhibitor : Inhibitor} (called : inhibitor.isJit = false)
    (ending : .queryEndSession ≤ state.phase) (member : inhibitor ∈ state.inhibitors) :
    inhibitor ∈ (state.cancelEndSession world).core.inhibitors := by
  rw [State.core_cancelEndSession ending]
  exact List.mem_filter.mpr ⟨member, by simp [called]⟩

theorem storedRules {Given : Core → Prop} {inhibitor : Inhibitor}
    (called : inhibitor.isJit = false)
    (spared : ∀ matching, drops matching → matching inhibitor = false) :
    Rules world acts drops Given (fun core => inhibitor ∈ core.inhibitors) where
  taken _ _ _ _ _ member _ := member
  inhibited _ _ _ _ _ _ _ _ _ member _ := List.mem_append_left _ member
  dropped _ matching dropping _ _ member :=
    List.mem_filter.mpr ⟨member, by simp [spared matching dropping]⟩
  closed _ matching _ dropping _ _ _ all _ member :=
    absurd (all inhibitor member) (by simp [spared matching dropping])
  accepted _ matching _ _ dropping _ _ _ all _ member _ :=
    absurd (all inhibitor member) (by simp [spared matching dropping])
  completed _ _ member _ _ _ := mem_endPhase member
  opened _ _ member _ _ _ := member
  deferred _ _ _ _ _ _ member _ := member
  moved _ _ _ _ member _ _ := member
  ended _ _ member _ _ _ := mem_endPhase member
  cancelled _ _ _ _ _ _ member ending := mem_cancelEndSession called ending member

theorem storedDepartures {inhibitor : Inhibitor} (called : inhibitor.isJit = false)
    (spared : ∀ matching, drops matching → matching inhibitor = false) :
    Departures world acts drops (fun core => inhibitor ∈ core.inhibitors) where
  rules := storedRules called spared
  gone _ _ _ _ member _ := member
  noted _ _ _ member := member

theorem hasClientId_of_called {inhibitor : Inhibitor} (called : inhibitor.isJit = false)
    (id : Nat) : inhibitor.hasClientId id = false := by
  cases named : inhibitor.clientId with
  | none => simp [Inhibitor.hasClientId, named]
  | some other => simp [Inhibitor.isJit, named] at called

theorem endingRules (uncancelled : ∀ id response, acts id response → response.cancel = false) :
    Rules world acts drops Core.Shaped (fun core => .queryEndSession ≤ core.phase) where
  taken _ _ _ _ _ _ ending := ending
  inhibited _ _ _ _ _ _ _ _ _ _ ending := ending
  dropped _ _ _ _ _ ending := ending
  closed _ _ _ _ _ _ _ _ _ ending := ending
  accepted core _ action forced _ opened ends _ _ shaped _ same := by
    have phase : forced.phase = core.phase := congrArg Core.phase same
    refine Phase.query_le_of_endSession_le (State.endPhase_leads_on ?_)
    rw [phase]
    exact (shaped.dialog action opened ends).1
  completed _ _ ending _ _ _ := Phase.query_le_of_endSession_le (State.endPhase_leads_on ending)
  opened _ _ ending _ _ _ := ending
  deferred _ _ _ _ _ _ ending _ := ending
  moved _ _ _ _ ending _ _ := ending
  ended _ _ ending _ _ _ := Phase.query_le_of_endSession_le (State.endPhase_leads_on ending)
  cancelled _ id response acting cancel _ _ _ :=
    absurd cancel (by simp [uncancelled id response acting])

theorem endingDepartures :
    Departures world (fun _ response => response = exitedResponse) drops
      (fun core => .queryEndSession ≤ core.phase) where
  rules := endingRules fun _ response same => by
    rw [same]
    rfl
  gone _ _ _ _ ending _ := ending
  noted _ _ _ ending := ending

end

theorem attached_routine {before after : Core} (moved : before.Routine after)
    (attached : before.Attached) : after.Attached := by
  induction moved with
  | trans _ _ first second => exact second (first attached)
  | added core wiring =>
      intro inhibitor member jit
      exact (attached inhibitor member jit).grow (List.subset_append_left _ _)
  | started early noted starts =>
      obtain ⟨news, _, _, kept⟩ := starts.kept
      rw [kept]
      exact attached
  | inhibited core called unforced =>
      intro inhibitor member jit
      rcases List.mem_append.mp member with old | new
      · exact attached inhibitor old jit
      · rw [List.mem_singleton.mp new] at jit
        simp [Inhibitor.isJit, called] at jit
  | _ => exact attached

theorem attached_turn {before : State} {event : Event} {after : Core}
    (shaped : before.core.Shaped) (attached : before.core.Attached)
    (turn : Turn event.world before event.call after) : after.Attached := by
  cases turn with
  | routine moved => exact attached_routine moved attached
  | connected asked connects moved => exact attached_routine moved attached
  | @answered client response asked answer stored same handled =>
      -- the answer leaves the clients alone, so the one that answers stays
      have present := @State.rosterRules event.world (fun id _ => id = client.id) (fun _ => True)
        (fun _ => True) (fun roster => client.id ∈ roster.clientIds)
      have rules := present.both (attachedRules fun core id _ same _ given => by
        rw [same]
        exact given) fun _ _ given => given
      have member : client.id ∈ before.core.roster.clientIds := List.mem_map_of_mem stored
      rw [← same] at attached member
      rw [handled]
      exact (rules.handle rfl trivial ⟨member, attached⟩).2
  | called asked late same =>
      rw [same]
      exact attached
  | departed departing =>
      have departures := @attachedDepartures event.world (fun _ => True)
      have emptied : Emptied event.world Core.Attached := fun _ _ holds _ _ =>
        attached_endPhase holds
      exact (departures.departed emptied (fun _ _ => rfl) (fun _ _ => trivial)
        (fun _ _ => trivial) departing ⟨shaped, attached⟩).2
  | uninhibited asked found removed =>
      have rules := (@attachedDepartures event.world (fun _ => True)).rules
      rw [removed]
      exact rules.removeInhibitors trivial shaped attached
  | asked running unlocked closed typed same ended =>
      rw [ended]
      exact attached_endPhase (by rw [same]; exact attached)
  | confirmed late opened normal answer ends typed same ended =>
      rw [ended]
      exact attached_endPhase (by rw [same]; exact attached)
  | @cancelled action response opened ends asked refused handled =>
      rw [handled]
      exact @attached_cancelEndSession event.world (before.answerDialog action response)
        (shaped.dialog action opened ends).1
  | accepted opened ends asked handled =>
      rw [handled]
      exact attached_endPhase attached
  | queryTimedOut asked armed fired =>
      have rules := (@attachedDepartures event.world (fun _ => True)).both
      rw [fired]
      refine (rules.onQueryEndSessionTimeout (shaped.asked armed) fun added named => ?_).2
      refine ⟨shaped.unanswered (shaped.asked armed) named, fun inhibitor member jit => ?_⟩
      rcases List.mem_append.mp member with old | new
      · exact attached inhibitor old jit
      · exact (named inhibitor new).1
  | phaseTimedOut asked armed ending fired =>
      rw [fired]
      exact attached_endPhase attached

theorem stored_routine {before after : Core} {inhibitor : Inhibitor} (moved : before.Routine after)
    (member : inhibitor ∈ before.inhibitors) : inhibitor ∈ after.inhibitors := by
  induction moved with
  | trans _ _ first second => exact second (first member)
  | started early noted starts =>
      obtain ⟨news, _, _, kept⟩ := starts.kept
      rw [kept]
      exact member
  | inhibited core called unforced => exact List.mem_append_left _ member
  | _ => exact member

theorem stored_turn {before : State} {event : Event} {after : Core} {inhibitor : Inhibitor}
    (shaped : before.core.Shaped) (called : inhibitor.isJit = false)
    (kept : event.call.releases inhibitor = false) (member : inhibitor ∈ before.core.inhibitors)
    (turn : Turn event.world before event.call after) : inhibitor ∈ after.inhibitors := by
  have spared : ∀ matching : Inhibitor → Bool, matching inhibitor = false →
      matching inhibitor = false := fun _ same => same
  have departures := @storedDepartures event.world (fun _ _ => True)
    (fun matching => matching inhibitor = false) inhibitor called spared
  cases turn with
  | routine moved => exact stored_routine moved member
  | connected asked connects moved => exact stored_routine moved member
  | @answered client response asked answer stored same handled =>
      rw [← same] at shaped member
      rw [handled]
      exact (departures.both.handle trivial (hasClientId_of_called called client.id)
        ⟨shaped, member⟩).2
  | called asked late same =>
      rw [same]
      exact member
  | departed departing =>
      have emptied : Emptied event.world (fun core => inhibitor ∈ core.inhibitors) :=
        fun _ _ member _ _ => mem_endPhase member
      refine (departures.departed emptied (fun _ _ => trivial)
        (fun client _ => hasClientId_of_called called client.id) (fun serviceName lost => ?_)
        departing ⟨shaped, member⟩).2
      rw [lost] at kept
      exact kept
  | @uninhibited cookie other asked found removed =>
      have different : (inhibitor == other) = false := by
        rw [beq_eq_false_iff_ne]
        rintro rfl
        have hit := List.find?_some (p := fun one : Inhibitor => one.cookie == cookie) found
        rw [asked] at kept
        exact absurd hit (by simpa [Call.releases] using kept)
      rw [removed]
      exact departures.rules.removeInhibitors different shaped member
  | asked running unlocked closed typed same ended =>
      rw [ended]
      exact mem_endPhase (by rw [same]; exact member)
  | confirmed late opened normal answer ends typed same ended =>
      rw [ended]
      exact mem_endPhase (by rw [same]; exact member)
  | @cancelled action response opened ends asked refused handled =>
      rw [handled]
      exact @mem_cancelEndSession event.world (before.answerDialog action response) inhibitor
        called (shaped.dialog action opened ends).1 member
  | accepted opened ends asked handled =>
      rw [handled]
      exact mem_endPhase member
  | queryTimedOut asked armed fired =>
      have query : before.phase = .queryEndSession := shaped.asked armed
      rw [fired]
      exact (departures.both.onQueryEndSessionTimeout query fun added named =>
        ⟨shaped.unanswered query named, List.mem_append_left _ member⟩).2
  | phaseTimedOut asked armed ending fired =>
      rw [fired]
      exact mem_endPhase member

/-- The routine moves leave the phase alone once the session ends. -/
theorem ending_routine {before after : Core} (moved : before.Routine after)
    (ending : .queryEndSession ≤ before.phase) : .queryEndSession ≤ after.phase := by
  induction moved with
  | trans _ _ first second => exact second (first ending)
  | started early noted starts =>
      exact absurd early (Nat.not_lt.mpr (Phase.running_le_of_query_le ending))
  | _ => exact ending

theorem Call.answer_cancel {call : Call} {id : Nat} {response : Response}
    (answer : call.answer = some (id, response)) (uncancelled : call.cancels = false) :
    response.cancel = false := by
  cases call <;> simp only [Call.answer, Option.some.injEq, Prod.mk.injEq, reduceCtorEq] at answer
  case interactDone client cancelShutdown =>
    rw [← answer.2]
    exact uncancelled
  all_goals rw [← answer.2]

theorem ending_turn {before : State} {event : Event} {after : Core} (shaped : before.core.Shaped)
    (uncancelled : event.call.cancels = false) (ending : .queryEndSession ≤ before.core.phase)
    (turn : Turn event.world before event.call after) : .queryEndSession ≤ after.phase := by
  have left : ∀ state : State, state.core.phase = before.core.phase →
      .queryEndSession ≤ (state.endPhase event.world).core.phase := by
    intro state same
    refine Phase.query_le_of_endSession_le (State.endPhase_leads_on ?_)
    rw [show state.phase = before.core.phase from same]
    exact ending
  cases turn with
  | routine moved => exact ending_routine moved ending
  | connected asked connects moved => exact ending_routine moved ending
  | @answered client response asked answer stored same handled =>
      have quiet := Call.answer_cancel answer uncancelled
      have rules := (State.shapedRules event.world (fun _ other => other = response)
        (fun _ => True)).both (endingRules fun _ _ same => by rw [same]; exact quiet)
          fun _ _ given => given
      rw [← same] at shaped ending
      rw [handled]
      exact (rules.handle rfl trivial ⟨shaped, ending⟩).2
  | called asked late same =>
      rw [same]
      exact ending
  | departed departing =>
      have emptied : Emptied event.world (fun core => .queryEndSession ≤ core.phase) :=
        fun _ _ holds _ _ => Phase.query_le_of_endSession_le (State.endPhase_leads_on holds)
      exact ((@endingDepartures event.world (fun _ => True)).departed emptied (fun _ _ => rfl)
        (fun _ _ => trivial) (fun _ _ => trivial) departing ⟨shaped, ending⟩).2
  | uninhibited asked found removed =>
      rw [removed]
      exact (@endingDepartures event.world (fun _ => True)).rules.removeInhibitors trivial shaped
        ending
  | asked running => exact absurd ending (Phase.running_early running)
  | confirmed late opened normal answer ends typed same ended =>
      rw [ended]
      exact left _ (by rw [same])
  | cancelled opened ends asked refused handled =>
      rw [asked] at uncancelled
      exact absurd (by simpa [Call.cancels] using uncancelled) refused
  | accepted opened ends asked handled =>
      rw [handled]
      exact left _ rfl
  | queryTimedOut asked armed fired =>
      have query : before.phase = .queryEndSession := shaped.asked armed
      rw [fired]
      exact ((@endingDepartures event.world (fun _ => True)).both.onQueryEndSessionTimeout query
        fun added named => ⟨shaped.unanswered query named, ending⟩).2
  | phaseTimedOut asked armed ending_ fired =>
      rw [fired]
      exact left _ rfl

theorem attached_reached {state : State} (reached : managerSystem.Reachable state) :
    state.core.Attached := by
  refine reached_invariant (fun _ _ => nofun) (fun _ _ => attached_routine) ?_ reached
  exact fun before event after shaped attached _ turn => attached_turn shaped attached turn

/-- Every just-in-time inhibitor is one of a client of the store, while the session
ends.  The other inhibitors go only with a call that releases them, and a step
that leads back from the end of the session takes none of them and leaves no
just-in-time inhibitor. -/
theorem jit_inhibitors_follow_their_cause {state : State} (reached : managerSystem.Reachable state) :
    (∀ inhibitor ∈ state.inhibitors, inhibitor.isJit = true →
      inhibitor.OfClient state.clientIds ∧ .queryEndSession ≤ state.phase) ∧
    ∀ (event : Event) (after : State), state.step event = some after →
      (∀ inhibitor ∈ state.inhibitors, inhibitor.isJit = false →
        event.call.releases inhibitor = false → inhibitor ∈ after.inhibitors) ∧
      (.queryEndSession ≤ state.phase → after.phase < .queryEndSession →
        (∀ inhibitor ∈ after.inhibitors, inhibitor.isJit = false) ∧
        ∀ inhibitor ∈ state.inhibitors, inhibitor.isJit = false →
          inhibitor ∈ after.inhibitors) := by
  have shaped := shaped_reached reached
  have attached := attached_reached reached
  refine ⟨fun inhibitor member jit =>
    ⟨attached inhibitor member jit, (shaped.jit inhibitor member jit).2⟩,
    fun event after stepped => ?_⟩
  have turn := (State.step_turn shaped stepped).2
  refine ⟨fun inhibitor member called kept => stored_turn shaped called kept member turn,
    fun ending back => ⟨fun inhibitor member => ?_, fun inhibitor member called => ?_⟩⟩
  · have next := shaped_reached (.step reached trivial stepped)
    by_contra jit
    have late := (next.jit inhibitor member (by simpa using jit)).2
    exact Phase.not_lt_query.mpr late back
  · -- a call that releases an inhibitor does not cancel the logout
    refine stored_turn shaped called ?_ member turn
    cases uncancelled : event.call.cancels with
    | false => exact absurd back (Phase.not_lt_query.mpr (ending_turn shaped uncancelled ending turn))
    | true =>
        cases call : event.call <;> rw [call] at uncancelled <;> first | rfl | cases uncancelled

/-- A disc is being burnt, and an editor refuses the logout that has been asked for. -/
def refusedLogout : List Call :=
  [.registerClient "editor" "" ":1.4", .inhibit "burner" 0 "Burning a disc" 1 ":1.9", .logout 1,
    .endSessionResponse 1 false "Unsaved documents"]

/-- When the logout is cancelled, the burner still inhibits and the editor does not. -/
theorem cancelled_logout_forgets_editor :
    ∃ state after, afterCalls refusedLogout = some state ∧
      state.step ⟨.permissive, .inhibitDialogResponse .cancel⟩ = some after ∧
      state.inhibitors.map Inhibitor.appId = ["burner", "editor"] ∧
      (∀ inhibitor ∈ after.inhibitors, inhibitor.isJit = false) ∧
      ∃ inhibitor ∈ after.inhibitors, inhibitor.appId = "burner" := by
  obtain ⟨state, run⟩ : ∃ state, afterCalls refusedLogout = some state := ⟨_, rfl⟩
  obtain ⟨after, stepped⟩ : ∃ after,
      state.step ⟨.permissive, .inhibitDialogResponse .cancel⟩ = some after := by
    cases run
    exact ⟨_, rfl⟩
  have reached : managerSystem.Reachable state :=
    afterCalls_reached (System.meets_of_forall fun _ _ _ => trivial) run
  obtain ⟨_, steps⟩ := jit_inhibitors_follow_their_cause reached
  obtain ⟨_, back⟩ := steps _ _ stepped
  obtain ⟨none_, kept⟩ := back (by cases run; decide) (by cases run; cases stepped; decide)
  have names : state.inhibitors.map Inhibitor.appId = ["burner", "editor"] := by
    cases run
    decide
  have burner : ∃ inhibitor ∈ state.inhibitors,
      inhibitor.isJit = false ∧ inhibitor.appId = "burner" := by
    cases run
    decide
  obtain ⟨inhibitor, member, called, name⟩ := burner
  exact ⟨state, after, run, stepped, names, none_, inhibitor, kept inhibitor member called, name⟩

end CafeSession.Manager
