import CafeSession.Manager.Reach
import CafeSession.Manager.Survivors

namespace CafeSession.Manager

open State

/-- The inhibitors that a call takes away; `Uninhibit` finds one by its cookie. -/
def Call.takes (before : State) (call : Call) (inhibitor : Inhibitor) : Bool :=
  match call with
  | .uninhibit cookie =>
      before.inhibitors.find? (fun one => one.cookie == cookie) == some inhibitor
  | _ => call.removes before inhibitor

/-- A client cancels the logout, or refuses it and is listened to. -/
def Call.opposes (before : State) (call : Call) : Prop :=
  ∃ id response, call.answer = some (id, response) ∧
    (response.cancel = true ∨ response.isOk = false ∧ before.logoutMode ≠ .force)

/-- An inhibitor of logging out stays, or none at all. -/
def Call.sparesReason (before : State) (call : Call) : Prop :=
  (∃ inhibitor ∈ before.inhibitors, inhibitor.hasFlag inhibitorFlagLogout = true ∧
    call.takes before inhibitor = false) ∨
  ∀ inhibitor ∈ before.inhibitors, call.takes before inhibitor = true

/-- The event does not leave a dialog that ends the session with nothing but
inhibitors of something else. -/
structure KeepsReason (before : State) (event : Event) : Prop where
  shown : before.core.Ending →
    event.call.sparesReason before ∨ event.call.opposes before
  /-- where a dialog may open while several clients leave: the query goes on, or
  what they hold has gone when the first of them answers -/
  opening : before.phase = .queryEndSession → ¬ before.core.Ending →
    event.call.sparesReason before ∨
    (∃ other ∈ before.queryClients, ∀ client ∈ event.call.leaving before, client.id ≠ other) ∨
    ∀ inhibitor ∈ before.inhibitors, inhibitor.hasFlag inhibitorFlagLogout = true →
      (∃ name, event.call = .busNameLost name ∧ inhibitor.hasBusName name = true) ∨
        ∀ client ∈ event.call.leaving before, inhibitor.hasClientId client.id = true

namespace Core

/-- A dialog that ends the session has something that matters to wait for. -/
def Backed (matters : Inhibitor → Bool) (core : Core) : Prop :=
  core.Ending → ∃ inhibitor ∈ core.inhibitors, matters inhibitor = true

abbrev Rowed : Core → Prop := Backed fun _ => true

abbrev Reasoned : Core → Prop := Backed (Inhibitor.hasFlag inhibitorFlagLogout)

variable {matters : Inhibitor → Bool} {before after core : Core}

theorem Backed.congr (backed : before.Backed matters)
    (dialog : after.inhibitDialog = before.inhibitDialog)
    (inhibitors : after.inhibitors = before.inhibitors) : after.Backed matters := by
  intro ending
  rw [inhibitors]
  refine backed ?_
  rwa [Ending, ← dialog]

theorem backed_of_none (none_ : core.inhibitDialog = none) : core.Backed matters := by
  intro ending
  obtain ⟨action, opened, _⟩ := ending
  cases none_.symm.trans opened

theorem Backed.append (backed : core.Backed matters) (more : List Inhibitor) :
    Backed matters { core with inhibitors := core.inhibitors ++ more } := by
  intro ending
  obtain ⟨inhibitor, member, hit⟩ := backed ending
  exact ⟨inhibitor, List.mem_append_left _ member, hit⟩

theorem Reasoned.rowed (reasoned : core.Reasoned) : core.Rowed := by
  intro ending
  obtain ⟨inhibitor, member, _⟩ := reasoned ending
  exact ⟨inhibitor, member, rfl⟩

/-- The dialog has closed when nothing is left in the store. -/
theorem Rowed.emptied (rowed : core.Rowed) (empty : core.Within fun _ => False) :
    core.Backed matters := by
  intro ending
  obtain ⟨inhibitor, member, _⟩ := rowed ending
  exact (empty inhibitor member).elim

theorem reasoned_of_spares {survivor : Inhibitor}
    (logout : survivor.hasFlag inhibitorFlagLogout = true) (shaped : core.Shaped)
    (spares : core.Spares survivor) : core.Reasoned := by
  intro ending
  obtain ⟨action, opened, ends⟩ := ending
  have late := (shaped.dialog action opened ends).1
  exact ⟨survivor, spares.resolve_left (Phase.not_lt_query.mpr late), logout⟩

end Core

section

variable {world : World} {acts : Nat → Response → Prop} {drops : (Inhibitor → Bool) → Prop}
variable {matters : Inhibitor → Bool} {state : State}

theorem backed_endPhase (backed : state.core.Backed matters) :
    (state.endPhase world).core.Backed matters :=
  backed.congr endPhase_frame.inhibitDialog endPhase_frame.inhibitors

theorem rowedRules {Given : Core → Prop} : Rules world acts drops Given Core.Rowed where
  taken _ _ _ _ _ rowed _ := rowed
  inhibited _ _ _ inhibitor _ _ _ _ _ rowed _ := rowed.append [inhibitor]
  dropped core matching _ rows _ rowed := by
    intro ending
    obtain ⟨action, opened, _⟩ := id ending
    obtain ⟨inhibitor, member, _⟩ := rowed ending
    have left := rows (by rw [opened]; nofun) (List.ne_nil_of_mem member)
    obtain ⟨other, stays⟩ := List.exists_mem_of_ne_nil _ left
    exact ⟨other, stays, rfl⟩
  closed _ _ _ _ _ _ _ _ _ _ := Core.backed_of_none rfl
  accepted _ _ _ _ _ _ _ _ _ _ _ same :=
    backed_endPhase (Core.backed_of_none (by rw [same]))
  completed _ _ rowed _ _ _ := backed_endPhase rowed
  opened _ _ _ _ _ inhibited _ := by
    obtain ⟨inhibitor, member, _⟩ := List.any_eq_true.mp inhibited
    exact ⟨inhibitor, member, rfl⟩
  deferred _ _ _ _ _ _ rowed _ := rowed
  moved _ _ _ _ rowed _ _ := rowed
  ended _ _ rowed _ _ _ := backed_endPhase rowed
  cancelled _ _ _ _ _ _ _ ending := Core.backed_of_none (by rw [core_cancelEndSession ending])

theorem rowedDepartures : Departures world acts drops Core.Rowed where
  rules := rowedRules
  gone _ _ _ _ rowed _ := rowed
  noted _ _ _ rowed := rowed

theorem rowedEmptied : Emptied world Core.Rowed := fun _ _ rowed _ _ => backed_endPhase rowed

/-- What takes no inhibitor away leaves the dialog its reason. -/
theorem reasonedRules {Given : Core → Prop} :
    Rules world acts (fun _ => False) Given Core.Reasoned where
  taken _ _ _ _ _ reasoned _ := reasoned
  inhibited _ _ _ inhibitor _ _ _ _ _ reasoned _ := reasoned.append [inhibitor]
  dropped _ _ none_ := none_.elim
  closed _ _ _ none_ := none_.elim
  accepted _ _ _ _ none_ := none_.elim
  completed _ _ reasoned _ _ _ := backed_endPhase reasoned
  opened _ _ _ _ _ inhibited _ := List.any_eq_true.mp inhibited
  deferred _ _ _ _ _ _ reasoned _ := reasoned
  moved _ _ _ _ reasoned _ _ := reasoned
  ended _ _ reasoned _ _ _ := backed_endPhase reasoned
  cancelled _ _ _ _ _ _ _ ending := Core.backed_of_none (by rw [core_cancelEndSession ending])

theorem reasoned_removeInhibitors {matching : Inhibitor → Bool} (reasoned : state.core.Reasoned)
    (spares : state.core.Ending →
      (∃ inhibitor ∈ state.inhibitors, inhibitor.hasFlag inhibitorFlagLogout = true ∧
        matching inhibitor = false) ∨
      ∀ inhibitor ∈ state.inhibitors, matching inhibitor = true) :
    (state.removeInhibitors world matching).core.Reasoned := by
  rcases core_removeInhibitors world state matching with ⟨rows, core⟩ | ⟨action, _, _, _, core⟩
  · rw [core]
    intro ending
    obtain ⟨action, opened, _⟩ := id ending
    obtain ⟨reason, stored, _⟩ := reasoned ending
    rcases spares ending with ⟨inhibitor, member, logout, stays⟩ | all
    · exact ⟨inhibitor, List.mem_filter.mpr ⟨member, by rw [stays]; rfl⟩, logout⟩
    · have left := rows (by rw [show state.inhibitDialog = some action from opened]; nofun)
        (List.ne_nil_of_mem stored)
      refine absurd (List.filter_eq_nil_iff.mpr fun inhibitor member => ?_) left
      simp [all inhibitor member]
  · split_ifs at core
    · obtain ⟨forced, same, ended⟩ := core
      rw [ended]
      exact backed_endPhase (Core.backed_of_none (by rw [same]))
    · exact Core.backed_of_none (by rw [core])

theorem reasoned_handle {client : Client} {response : Response} (reasoned : state.core.Reasoned)
    (spares : state.core.Ending →
      ((∃ inhibitor ∈ state.inhibitors, inhibitor.hasFlag inhibitorFlagLogout = true ∧
          inhibitor.hasClientId client.id = false) ∨
        ∀ inhibitor ∈ state.inhibitors, inhibitor.hasClientId client.id = true) ∨
      response.cancel = true ∨ response.isOk = false ∧ state.logoutMode ≠ .force) :
    (state.handleClientEndSessionResponse world client response).core.Reasoned := by
  unfold handleClientEndSessionResponse
  split_ifs with early cancel
  · exact reasoned
  · exact Core.backed_of_none (by rw [core_cancelEndSession (Phase.not_lt_query.mp early)])
  · have rules : Rules world (fun _ _ => True) (fun _ => False) (fun _ => True) Core.Reasoned :=
      reasonedRules
    refine @Rules.answerNoted world _ _ _ _ rules client.id response trivial ?_
    unfold noteAnswer
    dsimp only
    split_ifs with refuses
    · exact fun _ => ⟨_, List.mem_append_right _ (List.mem_singleton_self _),
        Inhibitor.newForClient_hasFlag _ _ _ _ _⟩
    · refine reasoned_removeInhibitors reasoned fun ending => ?_
      refine (spares ending).resolve_right fun opposes => ?_
      rcases opposes with cancelled | ⟨refused, listened⟩
      · exact cancel cancelled
      · exact refuses (by simp [refused, listened])

/-- No dialog opens where the query does not complete, inhibited. -/
theorem unendingRules {Given : Core → Prop}
    (settled : ∀ core, Given core → core.phase = .queryEndSession →
      core.inhibitors.any (Inhibitor.hasFlag inhibitorFlagLogout) = false) :
    Rules world acts drops Given (fun core => ¬ core.Ending) where
  taken _ _ _ _ _ unending _ := unending
  inhibited _ _ _ _ _ _ _ _ _ unending _ := unending
  dropped _ _ _ _ _ unending := unending
  closed _ _ _ _ _ _ _ _ _ _ := by
    rintro ⟨_, opened, _⟩
    cases opened
  accepted _ _ _ forced _ _ _ _ _ _ _ same := by
    rintro ⟨_, opened, _⟩
    rw [endPhase_frame.inhibitDialog, same] at opened
    cases opened
  completed _ _ unending _ _ _ := by
    rwa [Core.Ending, endPhase_frame.inhibitDialog]
  opened core given _ query _ inhibited :=
    absurd ((settled core given query).symm.trans inhibited) (by decide)
  deferred _ _ _ _ _ _ unending _ := unending
  moved _ _ _ _ unending _ _ := unending
  ended _ _ unending _ _ _ := by
    rwa [Core.Ending, endPhase_frame.inhibitDialog]
  cancelled _ _ _ _ _ _ _ ending := by
    rintro ⟨_, opened, _⟩
    rw [core_cancelEndSession ending] at opened
    cases opened

theorem unendingEmptied : Emptied world (fun core => ¬ core.Ending) := by
  intro _ _ unending _ _
  rwa [Core.Ending, endPhase_frame.inhibitDialog]

theorem unendingDepartures {Q : Core → Prop} (departures : Departures world acts drops Q)
    (settled : ∀ core, Q core → core.phase = .queryEndSession →
      core.inhibitors.any (Inhibitor.hasFlag inhibitorFlagLogout) = false) :
    Departures world acts drops (fun core => Q core ∧ ¬ core.Ending) :=
  departures.beside (unendingRules fun core given => settled core given.2)
    (fun _ _ _ _ _ unending _ => unending) fun _ _ _ unending => unending

theorem unending_removeInhibitors {matching : Inhibitor → Bool} (unending : ¬ state.core.Ending) :
    ¬ (state.removeInhibitors world matching).core.Ending := by
  rcases core_removeInhibitors world state matching with ⟨_, core⟩ | ⟨action, _, _, _, core⟩
  · rw [core]
    exact unending
  · rintro ⟨other, opened, _⟩
    split_ifs at core
    · obtain ⟨forced, same, ended⟩ := core
      rw [ended, endPhase_frame.inhibitDialog, same] at opened
      cases opened
    · rw [core] at opened
      cases opened

theorem freeUnendingDepartures (agrees : ∀ id response, acts id response → response.isOk = true) :
    Departures world acts drops (fun core => core.Free ∧ ¬ core.Ending) := by
  have free : Departures world acts drops Core.Free := withinDepartures agrees
  refine unendingDepartures free fun core free _ => ?_
  rw [List.any_eq_false]
  intro inhibitor member
  simpa using free inhibitor member

theorem freeUnendingEmptied : Emptied world (fun core => core.Free ∧ ¬ core.Ending) :=
  (withinEmptied _).both unendingEmptied

/-- The client that leaves holds what is left of the inhibitors of logging out. -/
theorem unending_depart {client : Client} (shaped : state.core.Shaped)
    (unending : ¬ state.core.Ending)
    (own : ∀ inhibitor ∈ state.inhibitors, inhibitor.hasFlag inhibitorFlagLogout = true →
      inhibitor.hasClientId client.id = true) :
    ((state.disconnectClient world client).removeClient client.id).core.Shaped ∧
      ((state.disconnectClient world client).removeClient client.id).core.Free ∧
      ¬ ((state.disconnectClient world client).removeClient client.id).core.Ending := by
  have departures : Departures world (fun _ response => response.isOk = true) (fun _ => True)
      (fun core => core.Free ∧ ¬ core.Ending) := freeUnendingDepartures fun _ _ agrees => agrees
  have free := @within_forget world state _
    (fun inhibitor => inhibitor.hasFlag inhibitorFlagLogout = false) client own
    fun inhibitor owned stays => by
      by_contra logout
      rw [Bool.not_eq_false] at logout
      exact absurd (stays.symm.trans (owned logout)) (by decide)
  have forgotten : ¬ ({ state with
      conditionClients := state.conditionClients.erase client.id } : State).core.Ending := unending
  exact departures.departRemoved rfl trivial shaped ⟨free, unending_removeInhibitors forgotten⟩

theorem unending_removeClientsForConnection {serviceName : Option String}
    (shaped : state.core.Shaped) (unending : ¬ state.core.Ending)
    (own : ∀ inhibitor ∈ state.inhibitors, inhibitor.hasFlag inhibitorFlagLogout = true →
      ∀ client ∈ state.clients.filter (leavesWith serviceName),
        inhibitor.hasClientId client.id = true) :
    ¬ (state.removeClientsForConnection world serviceName).core.Ending := by
  have departures : Departures world (fun _ response => response.isOk = true) (fun _ => True)
      (fun core => core.Free ∧ ¬ core.Ending) := freeUnendingDepartures fun _ _ agrees => agrees
  unfold removeClientsForConnection
  cases leaving : state.clients.filter (leavesWith serviceName) with
  | nil =>
      unfold removeDBusClients endPhaseIfEmpty
      rw [List.foldl_nil]
      split_ifs
      · rwa [Core.Ending, endPhase_frame.inhibitDialog]
      · exact unending
  | cons client others =>
      rw [leaving] at own
      have first := @unending_depart world state client shaped unending
        fun inhibitor member logout => own inhibitor member logout client (by simp)
      have rest := @Departures.removeDBusClients world _ _ _ _ departures others
        (fun _ _ => rfl) (fun _ _ => trivial) first
      exact (Departures.endPhaseIfEmpty freeUnendingEmptied rest).2.2

theorem unending_departed {before : State} {call : Call} {after : Core}
    (shaped : before.core.Shaped) (unending : ¬ before.core.Ending)
    (own : ∀ inhibitor ∈ before.inhibitors, inhibitor.hasFlag inhibitorFlagLogout = true →
      (∃ name, call = .busNameLost name ∧ inhibitor.hasBusName name = true) ∨
        ∀ client ∈ call.leaving before, inhibitor.hasClientId client.id = true)
    (departing : Departing world before call after) : ¬ after.Ending := by
  cases departing with
  | @left client told lost stored same emitted =>
      rw [← same] at shaped unending
      rw [emitted]
      cases silent : client.handlers with
      | zero => exact unending
      | succ handlers =>
          have leaves : client ∈ call.leaving before := by
            rw [lost]
            simp [Call.leaving, stored, silent]
          have departures : Departures world (fun _ response => response.isOk = true)
              (fun _ => True) (fun core => core.Free ∧ ¬ core.Ending) :=
            freeUnendingDepartures fun _ _ agrees => agrees
          have first := @unending_depart world (told.emit (.clientDisconnected client.id)) client
            { shaped with } unending fun inhibitor member logout => by
              rw [show (told.emit (.clientDisconnected client.id)).inhibitors = before.inhibitors
                from congrArg Core.inhibitors same] at member
              rcases own inhibitor member logout with ⟨name, other, _⟩ | owned
              · cases lost.symm.trans other
              · exact owned client leaves
          have left := @Departures.endPhaseIfEmpty world _ _ freeUnendingEmptied first
          exact (departures.emitDisconnected freeUnendingEmptied rfl trivial handlers left).2.2
  | @nameLost serviceName lost removed =>
      have base := shapedRules world (fun _ _ => True) (fun _ => True)
      have dropped := @Rules.removeInhibitors world _ _ _ _ before base
        (Inhibitor.hasBusName serviceName) trivial trivial shaped
      have left := @within_removeInhibitors world before (fun one => one ∈ before.inhibitors)
        (Inhibitor.hasBusName serviceName) (fun _ member => member)
      rw [removed]
      refine unending_removeClientsForConnection dropped (unending_removeInhibitors unending) ?_
      intro inhibitor member logout client leaving
      obtain ⟨stored, stays⟩ := left inhibitor member
      obtain ⟨clientStored, leaves⟩ := List.mem_filter.mp leaving
      obtain ⟨one, oneStored, sameId, oneLeaves⟩ :=
        leavesWith_congr (wirings_removeInhibitors _) clientStored leaves
      rcases own inhibitor stored logout with ⟨name, other, hit⟩ | owned
      · cases lost.symm.trans other
        exact absurd (stays.symm.trans hit) (by decide)
      · rw [← sameId]
        refine owned one ?_
        rw [lost]
        exact List.mem_filter.mpr ⟨oneStored, oneLeaves⟩
  | busLost lost removed =>
      rw [removed]
      refine unending_removeClientsForConnection shaped unending ?_
      intro inhibitor member logout client leaving
      rcases own inhibitor member logout with ⟨name, other, _⟩ | owned
      · cases lost.symm.trans other
      · refine owned client ?_
        rw [lost]
        exact leaving

theorem takes_departing {before : State} {call : Call} {after : Core}
    (departing : Departing world before call after) (inhibitor : Inhibitor) :
    call.takes before inhibitor = call.removes before inhibitor := by
  cases departing with
  | left lost | nameLost lost | busLost lost =>
      rw [lost]
      rfl

theorem spared_departed {before : State} {call : Call} {after : Core}
    (shaped : before.core.Shaped) (reasoned : before.core.Reasoned)
    (spares : call.sparesReason before) (departing : Departing world before call after) :
    after.Reasoned := by
  rcases spares with ⟨survivor, stored, logout, stays⟩ | all
  · rw [takes_departing departing] at stays
    have departures : Departures world (fun _ _ => True) (fun matching => matching survivor = false)
        (Core.Spares survivor) := sparesDepartures fun _ spared => spared
    have left := departures.departed (sparesEmptied survivor) (fun _ _ => trivial)
      (fun client leaves => not_removed_of_leaving stays leaves)
      (fun _ lost => not_removed_of_name stays lost) departing ⟨shaped, .inr stored⟩
    exact Core.reasoned_of_spares logout left.1 left.2
  · have departures : Departures world (fun _ _ => True) (fun _ => True) Core.Rowed :=
      rowedDepartures
    have rowed := departures.departed rowedEmptied (fun _ _ => trivial) (fun _ _ => trivial)
      (fun _ _ => trivial) departing ⟨shaped, reasoned.rowed⟩
    refine rowed.2.emptied (within_departed shaped (fun inhibitor member => .inr ?_) departing)
    rw [← takes_departing departing]
    exact all inhibitor member

theorem answer_departing {before : State} {call : Call} {after : Core}
    (departing : Departing world before call after) : call.answer = none := by
  cases departing with
  | left lost | nameLost lost | busLost lost =>
      rw [lost]
      rfl

theorem reasoned_departed {before : State} {event : Event} {after : Core}
    (shaped : before.core.Shaped) (reasoned : before.core.Reasoned)
    (keeps : KeepsReason before event) (departing : Departing world before event.call after) :
    after.Reasoned := by
  by_cases ending : before.core.Ending
  · refine spared_departed shaped reasoned ((keeps.shown ending).resolve_right ?_) departing
    rintro ⟨id, response, answer, _⟩
    cases (answer_departing departing).symm.trans answer
  by_cases query : before.phase = .queryEndSession
  · rcases keeps.opening query ending with spares | ⟨other, waits, others⟩ | own
    · exact spared_departed shaped reasoned spares departing
    · have departures : Departures world
          (fun id response => id ≠ other ∧ response.cancel = false) (fun _ => True)
          (Core.Waits other) := waitsDepartures fun _ _ acting => acting
      obtain ⟨leftShaped, waiting⟩ := departures.departed (waitsEmptied other)
        (fun client leaves => ⟨others client leaves, rfl⟩) (fun _ _ => trivial)
        (fun _ _ => trivial) departing ⟨shaped, query, waits⟩
      intro shown
      obtain ⟨action, opened, ends⟩ := shown
      have untimed := (leftShaped.dialog action opened ends).2 waiting.1
      exact absurd (leftShaped.waited waiting.1 untimed) waiting.some
    · exact fun shown => absurd shown (unending_departed shaped ending own departing)
  · have outside : Departures world (fun _ _ => True) (fun _ => True)
        (fun core => core.phase ≠ .queryEndSession) := outsideDepartures
    have departures := unendingDepartures outside fun _ given query => absurd query given
    have left := departures.departed (outsideEmptied.both unendingEmptied) (fun _ _ => trivial)
      (fun _ _ => trivial) (fun _ _ => trivial) departing ⟨shaped, query, ending⟩
    exact fun shown => absurd shown left.2.2

theorem takes_answer {before : State} {call : Call} {id : Nat} {response : Response}
    (answer : call.answer = some (id, response)) (inhibitor : Inhibitor) :
    call.takes before inhibitor = inhibitor.hasClientId id := by
  cases call <;> cases answer <;> simp [Call.takes, Call.removes, Call.answer, Call.leaving]

theorem takes_uninhibit {before : State} {cookie : UInt32} {found : Inhibitor}
    (finds : before.inhibitors.find? (fun one => one.cookie == cookie) = some found)
    (inhibitor : Inhibitor) :
    (Call.uninhibit cookie).takes before inhibitor = (inhibitor == found) := by
  rw [Call.takes, finds]
  by_cases same : inhibitor = found
  · simp [same]
  · simp [same, Ne.symm same]

theorem reasoned_answered {before asked : State} {call : Call} {client : Client}
    {response : Response} (answer : call.answer = some (client.id, response))
    (same : asked.core = before.core) (reasoned : before.core.Reasoned)
    (keeps : before.core.Ending → call.sparesReason before ∨ call.opposes before) :
    (asked.handleClientEndSessionResponse world client response).core.Reasoned := by
  have inhibitors : asked.inhibitors = before.inhibitors := congrArg Core.inhibitors same
  have mode : asked.logoutMode = before.logoutMode := congrArg Core.logoutMode same
  refine reasoned_handle (by rwa [same]) fun ending => ?_
  rw [same] at ending
  rw [inhibitors, mode]
  rcases keeps ending with spares | ⟨id, other, answers, opposes⟩
  · left
    simpa only [Call.sparesReason, takes_answer answer] using spares
  · cases answer.symm.trans answers
    exact .inr opposes

theorem reasoned_routine {before after : Core} (moved : before.Routine after)
    (reasoned : before.Reasoned) : after.Reasoned := by
  induction moved with
  | refl => exact reasoned
  | trans _ _ first second => exact second (first reasoned)
  | started early noted starts =>
      obtain ⟨news, _, _, kept⟩ := starts.kept
      exact reasoned.congr (by rw [kept]) (by rw [kept])
  | inhibited core called unforced => exact reasoned.append _
  | presented core stays =>
      intro ending
      obtain ⟨action, opened, ends⟩ := ending
      cases dialog : core.inhibitDialog with
      | none =>
          rw [dialog] at opened
          cases opened
          cases stays.symm.trans ends
      | some shown =>
          rw [dialog] at opened
          cases opened
          exact reasoned ⟨shown, dialog, ends⟩
  | closed core response opened stays => exact Core.backed_of_none rfl
  | _ => exact reasoned

theorem reasoned_turn {before : State} {event : Event} {after : Core}
    (shaped : before.core.Shaped) (reasoned : before.core.Reasoned)
    (keeps : KeepsReason before event) (turn : Turn event.world before event.call after) :
    after.Reasoned := by
  cases turn with
  | routine moved => exact reasoned_routine moved reasoned
  | connected asked connects moved => exact reasoned_routine moved reasoned
  | called asked late same =>
      rw [same]
      exact reasoned
  | answered answer stored same handled =>
      rw [handled]
      exact reasoned_answered answer same reasoned keeps.shown
  | departed departing => exact reasoned_departed shaped reasoned keeps departing
  | @uninhibited cookie found asked finds removed =>
      rw [removed]
      refine reasoned_removeInhibitors reasoned fun ending => ?_
      have spares := (keeps.shown ending).resolve_right fun opposes => by
        obtain ⟨id, response, answer, _⟩ := opposes
        rw [asked] at answer
        cases answer
      rw [asked] at spares
      simpa only [Call.sparesReason, takes_uninhibit finds] using spares
  | asked running unlocked closed typed same ended =>
      rw [ended]
      exact backed_endPhase (reasoned.congr (by rw [same]) (by rw [same]))
  | confirmed late opened normal answer ends typed same ended =>
      rw [ended]
      exact backed_endPhase (reasoned.congr (by rw [same]) (by rw [same]))
  | @cancelled action response opened ends asked refused handled =>
      have late := (shaped.dialog action opened ends).1
      rw [handled, @core_cancelEndSession event.world (before.answerDialog action response) late]
      exact Core.backed_of_none rfl
  | accepted opened ends asked handled =>
      rw [handled]
      exact backed_endPhase (Core.backed_of_none rfl)
  | queryTimedOut asked armed fired =>
      have rules : Rules event.world (fun _ _ => True) (fun _ => False) (fun _ => True)
          Core.Reasoned := reasonedRules
      rw [fired]
      exact rules.onQueryEndSessionTimeout (shaped.asked armed) fun added _ => reasoned.append added
  | phaseTimedOut asked armed ending fired =>
      rw [fired]
      exact backed_endPhase reasoned

end

/-- In every run whose events keep the reason of an open dialog, such a dialog
has an inhibitor of logging out to wait for. -/
theorem dialog_waits_for_logout_inhibitor {state : State} {action : LogoutAction}
    (reached : managerSystem.ReachableBy KeepsReason state)
    (opened : state.inhibitDialog = some action) (ends : action.endsSession = true) :
    ∃ inhibitor ∈ state.inhibitors, inhibitor.hasFlag inhibitorFlagLogout = true := by
  have reasoned : state.core.Reasoned := by
    refine reached_invariant (fun _ _ => Core.backed_of_none rfl)
      (fun _ _ => reasoned_routine) ?_ reached
    exact fun _ _ _ shaped holds keeps turn => reasoned_turn shaped holds keeps turn
  exact reasoned ⟨action, opened, ends⟩

/-- The film ends and the document is still unsaved. -/
theorem logout_dialog_waits_for_editor :
    ∃ state, afterCalls [.inhibit "player" 0 "film" inhibitorFlagIdle ":1.1",
        .inhibit "editor" 0 "unsaved" inhibitorFlagLogout ":1.2", .logout 1,
        .queryEndSessionTimeout, .uninhibit 1] = some state ∧
      ∃ inhibitor ∈ state.inhibitors, inhibitor.hasFlag inhibitorFlagLogout = true := by
  obtain ⟨state, run, opened⟩ : ∃ state, afterCalls [.inhibit "player" 0 "film" inhibitorFlagIdle
      ":1.1", .inhibit "editor" 0 "unsaved" inhibitorFlagLogout ":1.2", .logout 1,
      .queryEndSessionTimeout, .uninhibit 1] = some state ∧ state.inhibitDialog = some .logout :=
    ⟨_, rfl, rfl⟩
  refine ⟨state, run, dialog_waits_for_logout_inhibitor (afterCalls_reached ?_ run) opened rfl⟩
  have quiet : ∀ {before : State} {call : Call}, before.inhibitDialog = none →
      call.leaving before = [] → KeepsReason before ⟨.permissive, call⟩ := by
    intro before call closed nobody
    refine ⟨fun ending => ?_, fun _ _ => .inr (.inr fun _ _ _ => .inr ?_)⟩
    · obtain ⟨action, shown, _⟩ := ending
      cases closed.symm.trans shown
    · rw [nobody]
      nofun
  refine ⟨quiet rfl rfl, fun playing stepped => ?_⟩
  cases stepped
  refine ⟨quiet rfl rfl, fun editing stepped => ?_⟩
  cases stepped
  refine ⟨quiet rfl rfl, fun asked stepped => ?_⟩
  cases stepped
  refine ⟨quiet rfl rfl, fun shown stepped => ?_⟩
  cases stepped
  refine ⟨⟨fun _ => .inl (.inl ?_), fun _ unending => absurd ?_ unending⟩, fun _ _ => trivial⟩
  · exact ⟨_, List.mem_cons_of_mem _ (List.mem_singleton_self _), by decide, by decide⟩
  · exact ⟨.logout, rfl, rfl⟩

/-- A film is played and a document is unsaved; when the document is saved the
dialog of the logout stays open. -/
theorem logout_dialog_waits_for_player :
    (afterCalls [.inhibit "player" 0 "film" inhibitorFlagIdle ":1.1",
        .inhibit "editor" 0 "unsaved" inhibitorFlagLogout ":1.2", .logout 1,
        .queryEndSessionTimeout, .uninhibit 2]).map
      (fun state => (state.phase, state.inhibitDialog, state.logoutInhibited)) =
      some (.queryEndSession, some .logout, false) := by
  decide

end CafeSession.Manager
