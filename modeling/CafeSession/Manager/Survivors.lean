import CafeSession.Manager.Roster

namespace CafeSession.Manager

open State

/-- The inhibitors that a call may remove. -/
def Call.removes (before : State) (call : Call) (inhibitor : Inhibitor) : Bool :=
  (match call with
    | .uninhibit cookie => inhibitor.cookie == cookie
    | .busNameLost serviceName => inhibitor.hasBusName serviceName
    | _ => false) ||
  call.answer.any (fun answer => inhibitor.hasClientId answer.1) ||
  (call.leaving before).any (fun client => inhibitor.hasClientId client.id)

theorem not_removed_of_leaving {before : State} {call : Call} {inhibitor : Inhibitor}
    {client : Client} (stays : call.removes before inhibitor = false)
    (leaves : client ∈ call.leaving before) : inhibitor.hasClientId client.id = false := by
  simp only [Call.removes, Bool.or_eq_false_iff, List.any_eq_false] at stays
  simpa using stays.2 client leaves

theorem not_removed_of_name {before : State} {call : Call} {inhibitor : Inhibitor}
    {serviceName : String} (stays : call.removes before inhibitor = false)
    (lost : call = .busNameLost serviceName) : inhibitor.hasBusName serviceName = false := by
  subst lost
  simp only [Call.removes, Bool.or_eq_false_iff] at stays
  exact stays.1.1

theorem not_removed_of_answer {before : State} {call : Call} {inhibitor : Inhibitor} {id : Nat}
    {response : Response} (stays : call.removes before inhibitor = false)
    (answer : call.answer = some (id, response)) : inhibitor.hasClientId id = false := by
  simp only [Call.removes, Bool.or_eq_false_iff, answer, Option.any_some] at stays
  exact stays.1.2

theorem not_removed_of_uninhibit {before : State} {call : Call} {one other : Inhibitor}
    {cookie : UInt32} (stays : call.removes before other = false)
    (asked : call = .uninhibit cookie)
    (found : before.inhibitors.find? (fun one => one.cookie == cookie) = some one) :
    (other == one) = false := by
  subst asked
  have hit := List.find?_some found
  simp only [Call.removes, Bool.or_eq_false_iff] at stays
  have miss := stays.1.1
  rw [beq_eq_false_iff_ne]
  rintro rfl
  exact absurd (miss.symm.trans hit) (by decide)

namespace Core

/-- An inhibit dialog that ends the session is open. -/
def Ending (core : Core) : Prop :=
  ∃ action, core.inhibitDialog = some action ∧ action.endsSession = true

/-- An inhibit dialog that keeps the session running is open. -/
def Aside (core : Core) : Prop :=
  ∃ action, core.inhibitDialog = some action ∧ action.endsSession = false

/-- Every inhibitor is one of those to keep. -/
def Within (keep : Inhibitor → Prop) (core : Core) : Prop :=
  ∀ inhibitor ∈ core.inhibitors, keep inhibitor

/-- The inhibitor stays as long as the session is being ended. -/
def Spares (inhibitor : Inhibitor) (core : Core) : Prop :=
  core.phase < .queryEndSession ∨ inhibitor ∈ core.inhibitors

/-- The query runs and the client has still to answer. -/
def Waits (id : Nat) (core : Core) : Prop :=
  core.phase = .queryEndSession ∧ id ∈ core.queryClients

theorem Waits.some {id : Nat} {core : Core} (waits : Waits id core) : core.queryClients ≠ [] :=
  List.ne_nil_of_mem waits.2

end Core

variable {world : World} {acts : Nat → Response → Prop} {drops : (Inhibitor → Bool) → Prop}
variable {state : State}

/-- Nothing but the refusal of a client adds an inhibitor. -/
theorem withinDepartures {keep : Inhibitor → Prop}
    (agrees : ∀ id response, acts id response → response.isOk = true) :
    Departures world acts drops (Core.Within keep) where
  rules := {
    taken := fun _ _ _ _ _ within _ => within
    inhibited := fun _ id response _ acting refuses _ _ _ _ _ => by
      cases refuses.symm.trans (agrees id response acting)
    dropped := fun _ _ _ _ _ within inhibitor member => within inhibitor (List.mem_of_mem_filter member)
    closed := fun _ _ _ _ _ _ _ _ _ _ => nofun
    accepted := fun _ _ _ forced _ _ _ _ _ _ _ same => by
      unfold Core.Within
      rw [endPhase_frame.inhibitors, same]
      nofun
    completed := fun state _ within _ _ _ => by
      unfold Core.Within
      rw [endPhase_frame.inhibitors]
      exact within
    opened := fun _ _ within _ _ _ => within
    deferred := fun _ _ _ _ _ _ within _ => within
    moved := fun _ _ _ _ within _ _ => within
    ended := fun state _ within _ _ _ => by
      unfold Core.Within
      rw [endPhase_frame.inhibitors]
      exact within
    cancelled := fun state _ _ _ _ _ within ending => by
      unfold Core.Within
      rw [core_cancelEndSession ending]
      exact fun inhibitor member => within inhibitor (List.mem_of_mem_filter member) }
  gone _ _ _ _ within _ := within
  noted _ _ _ within := within

theorem withinEmptied (keep : Inhibitor → Prop) : Emptied world (Core.Within keep) := by
  intro state _ within _ _
  unfold Core.Within
  rw [endPhase_frame.inhibitors]
  exact within

theorem within_removeInhibitors {keep : Inhibitor → Prop} {matching : Inhibitor → Bool}
    (within : Core.Within keep state.core) :
    Core.Within (fun inhibitor => keep inhibitor ∧ matching inhibitor = false)
      (state.removeInhibitors world matching).core := by
  have filtered : ∀ inhibitor ∈ state.inhibitors.filter (fun one => !matching one),
      keep inhibitor ∧ matching inhibitor = false := by
    intro inhibitor member
    obtain ⟨stored, stays⟩ := List.mem_filter.mp member
    exact ⟨within inhibitor stored, by simpa using stays⟩
  unfold Core.Within
  rcases core_removeInhibitors world state matching with ⟨_, core⟩ | ⟨action, _, _, _, core⟩
  · rw [core]
    exact filtered
  · split_ifs at core
    · obtain ⟨forced, same, ended⟩ := core
      rw [ended, endPhase_frame.inhibitors, same]
      nofun
    · rw [core]
      nofun

theorem sparesDepartures {survivor : Inhibitor}
    (spared : ∀ matching, drops matching → matching survivor = false) :
    Departures world acts drops (Core.Spares survivor) where
  rules := {
    taken := fun _ _ _ _ _ spares _ => spares
    inhibited := fun _ _ _ _ _ _ _ _ _ spares _ => spares.imp_right (List.mem_append_left _)
    dropped := fun core matching dropping _ _ spares => spares.imp_right fun member =>
      List.mem_filter.mpr ⟨member, by rw [spared matching dropping]; rfl⟩
    closed := fun _ matching _ dropping _ _ _ last _ spares => spares.imp_right fun member =>
      absurd ((last survivor member).symm.trans (spared matching dropping)) (by decide)
    accepted := fun core matching action forced dropping opened ends _ last shaped spares same => by
      rcases spares with early | member
      · exact absurd (shaped.dialog action opened ends).1 (Phase.not_query_le.mpr early)
      · exact absurd ((last survivor member).symm.trans (spared matching dropping)) (by decide)
    completed := fun state _ spares query _ _ => .inr (by
      rw [endPhase_frame.inhibitors]
      exact spares.resolve_left (Phase.not_lt_query.mpr (Phase.queryEndSession_le.mpr (.inl query))))
    opened := fun _ _ spares _ _ _ => spares
    deferred := fun _ _ _ _ _ _ spares _ => spares
    moved := fun _ _ _ _ spares _ _ => spares
    ended := fun state _ spares ending _ _ => .inr (by
      rw [endPhase_frame.inhibitors]
      exact spares.resolve_left
        (Phase.not_lt_query.mpr (Phase.queryEndSession_le.mpr (.inr (.inl ending)))))
    cancelled := fun state _ _ _ _ _ _ ending => .inl (by
      rw [core_cancelEndSession ending]
      exact Phase.running_lt_query) }
  gone _ _ _ _ spares _ := spares
  noted _ _ _ spares := spares

theorem sparesEmptied (survivor : Inhibitor) : Emptied world (Core.Spares survivor) := by
  intro state _ spares ending _
  refine .inr ?_
  rw [endPhase_frame.inhibitors]
  exact spares.resolve_left (Phase.not_lt_query.mpr ending)

/-- Nobody else's answer or departure ends the query that a client has still to answer. -/
theorem waitsDepartures {id : Nat}
    (others : ∀ other response, acts other response → other ≠ id ∧ response.cancel = false) :
    Departures world acts drops (Core.Waits id) where
  rules := {
    taken := fun core other response acting _ waits _ =>
      ⟨waits.1, (List.mem_erase_of_ne (others other response acting).1.symm).mpr waits.2⟩
    inhibited := fun _ _ _ _ _ _ _ _ _ waits _ => waits
    dropped := fun _ _ _ _ _ waits => waits
    closed := fun _ _ _ _ _ _ _ _ _ waits => waits
    accepted := fun core _ action _ _ opened ends _ _ shaped waits _ => by
      have untimed := (shaped.dialog action opened ends).2 waits.1
      exact absurd (shaped.waited waits.1 untimed) waits.some
    completed := fun state _ waits _ nobody _ => absurd nobody waits.some
    opened := fun core _ waits _ nobody _ => absurd nobody waits.some
    deferred := fun _ _ _ _ _ _ waits _ => waits
    moved := fun _ _ _ _ waits ending _ => absurd (ending.symm.trans waits.1) (by decide)
    ended := fun state _ waits ending _ _ => absurd (ending.symm.trans waits.1) (by decide)
    cancelled := fun _ other response acting cancel _ _ _ => by
      cases cancel.symm.trans (others other response acting).2 }
  gone _ _ _ _ waits _ := waits
  noted _ _ _ waits := waits

theorem waitsEmptied (id : Nat) : Emptied world (Core.Waits id) := by
  intro state shaped waits _ empty
  have stored := (shaped.waiting waits.1).2 id waits.2
  rw [show state.core.clientIds = state.clients.map Client.id from rfl, empty] at stored
  cases stored

/-- Before the query, clients leave without an answer. -/
theorem earlyDepartures : Departures world acts drops (fun core => core.phase < .queryEndSession) where
  rules := {
    taken := fun _ _ _ _ _ early _ => early
    inhibited := fun _ _ _ _ _ _ _ _ _ early _ => early
    dropped := fun _ _ _ _ _ early => early
    closed := fun _ _ _ _ _ _ _ _ _ early => early
    accepted := fun _ _ action _ _ opened ends _ _ shaped early _ =>
      absurd (shaped.dialog action opened ends).1 (Phase.not_query_le.mpr early)
    completed := fun _ _ early query _ _ =>
      absurd (Phase.queryEndSession_le.mpr (.inl query)) (Phase.not_query_le.mpr early)
    opened := fun _ _ early _ _ _ => early
    deferred := fun _ _ _ _ _ _ early _ => early
    moved := fun _ _ _ _ early _ _ => early
    ended := fun _ _ early ending _ _ =>
      absurd (Phase.queryEndSession_le.mpr (.inr (.inl ending))) (Phase.not_query_le.mpr early)
    cancelled := fun _ _ _ _ _ _ early ending =>
      absurd ending (Phase.not_query_le.mpr early) }
  gone _ _ _ _ early _ := early
  noted _ _ _ early := early

theorem earlyEmptied : Emptied world (fun core => core.phase < .queryEndSession) :=
  fun _ _ early ending _ => absurd ending (Phase.not_query_le.mpr early)

/-- Outside the query nothing that answers for a client or lets it leave starts one. -/
theorem outsideDepartures :
    Departures world acts drops (fun core => core.phase ≠ .queryEndSession) where
  rules := {
    taken := fun _ _ _ _ _ outside _ => outside
    inhibited := fun _ _ _ _ _ _ _ _ _ outside _ => outside
    dropped := fun _ _ _ _ _ outside => outside
    closed := fun _ _ _ _ _ _ _ _ _ outside => outside
    accepted := fun _ _ action forced _ opened ends _ _ shaped _ same => by
      have ending := (shaped.dialog action opened ends).1
      have phase : forced.phase = _ := congrArg Core.phase same
      exact endPhase_leaves_query (phase ▸ ending)
    completed := fun _ _ outside query _ _ => absurd query outside
    opened := fun _ _ outside _ _ _ => outside
    deferred := fun _ _ _ _ _ _ outside _ => outside
    moved := fun _ _ _ _ outside _ _ => outside
    ended := fun _ _ _ ending _ _ =>
      endPhase_leaves_query (Phase.queryEndSession_le.mpr (.inr (.inl ending)))
    cancelled := fun _ _ _ _ _ _ _ ending => by
      rw [core_cancelEndSession ending]
      nofun }
  gone _ _ _ _ outside _ := outside
  noted _ _ _ outside := outside

theorem outsideEmptied : Emptied world (fun core => core.phase ≠ .queryEndSession) :=
  fun _ _ _ ending _ => endPhase_leaves_query ending

/-- Logging out is not inhibited. -/
def Core.Free (core : Core) : Prop :=
  core.Within fun inhibitor => inhibitor.hasFlag inhibitorFlagLogout = false

theorem free_logoutInhibited (free : state.core.Free) : state.logoutInhibited = false := by
  rw [State.logoutInhibited, List.any_eq_false]
  intro inhibitor member
  simpa using free inhibitor member

theorem within_forget {keep rest : Inhibitor → Prop} {client : Client}
    (within : ∀ inhibitor ∈ state.inhibitors, keep inhibitor)
    (remains : ∀ inhibitor, keep inhibitor → inhibitor.hasClientId client.id = false →
      rest inhibitor) :
    Core.Within rest (({ state with
      conditionClients := state.conditionClients.erase client.id } : State).removeInhibitors world
        (Inhibitor.hasClientId client.id)).core := by
  intro inhibitor member
  obtain ⟨kept, stays⟩ := @within_removeInhibitors world
    { state with conditionClients := state.conditionClients.erase client.id } keep
    (Inhibitor.hasClientId client.id) within inhibitor member
  exact remains inhibitor kept stays

/-- Clients that leave take their inhibitors with them. -/
theorem within_removeDBusClients {keep : Inhibitor → Prop} {leaving : List Client}
    (shaped : state.core.Shaped)
    (within : ∀ inhibitor ∈ state.inhibitors, keep inhibitor ∨
      ∃ client ∈ leaving, inhibitor.hasClientId client.id = true) :
    Core.Within keep (state.removeDBusClients world leaving).core := by
  unfold removeDBusClients
  induction leaving generalizing state with
  | nil =>
      intro inhibitor member
      rcases within inhibitor member with kept | ⟨client, absent, _⟩
      · exact kept
      · cases absent
  | cons client leaving ih =>
      have departures : Departures world (fun _ response => response.isOk = true) (fun _ => True)
          (Core.Within fun inhibitor => keep inhibitor ∨
            ∃ one ∈ leaving, inhibitor.hasClientId one.id = true) :=
        withinDepartures fun _ _ agrees => agrees
      have others := @within_forget world state _ (fun inhibitor => keep inhibitor ∨
        ∃ one ∈ leaving, inhibitor.hasClientId one.id = true) client within
        fun inhibitor owned stays => owned.imp_right fun owned => by
          obtain ⟨one, owner, hit⟩ := owned
          rcases List.mem_cons.mp owner with rfl | later
          · exact absurd (stays.symm.trans hit) (by decide)
          · exact ⟨one, later, hit⟩
      have rest := departures.departRemoved rfl trivial shaped others
      exact ih rest.1 rest.2

/-- The inhibitors that the loss of one client's connection removes are its own. -/
theorem owned_of_connectionLost {before : State} {id : Nat} {inhibitor : Inhibitor}
    (removed : (Call.connectionLost id).removes before inhibitor = true) :
    inhibitor.hasClientId id = true := by
  simp only [Call.removes, Call.answer, Call.leaving, Option.any_none, Bool.or_false,
    Bool.false_or, List.any_eq_true, List.mem_filter, Bool.and_eq_true, beq_iff_eq] at removed
  obtain ⟨one, ⟨_, same, _⟩, owned⟩ := removed
  rw [same] at owned
  exact owned

/-- Of the inhibitors that the loss of a name removes, the clients that leave
own those that are not of the name. -/
theorem owned_of_nameLost {before : State} {serviceName : String} {inhibitor : Inhibitor}
    (stored : inhibitor ∈ (before.removeInhibitors world
      (Inhibitor.hasBusName serviceName)).inhibitors)
    (removed : inhibitor ∈ before.inhibitors →
      (Call.busNameLost serviceName).removes before inhibitor = true) :
    ∃ client ∈ (before.removeInhibitors world (Inhibitor.hasBusName serviceName)).clients.filter
      (leavesWith (some serviceName)), inhibitor.hasClientId client.id = true := by
  obtain ⟨kept, stays⟩ := @within_removeInhibitors world before (fun one =>
    one ∈ before.inhibitors) (Inhibitor.hasBusName serviceName) (fun _ member => member)
    inhibitor stored
  have hit := removed kept
  simp only [Call.removes, Call.answer, stays, Option.any_none, Bool.or_false, Bool.false_or,
    List.any_eq_true] at hit
  obtain ⟨one, leaving, owned⟩ := hit
  obtain ⟨one_stored, leaving⟩ := List.mem_filter.mp leaving
  have wirings := @wirings_removeInhibitors world before (Inhibitor.hasBusName serviceName)
  obtain ⟨client, client_stored, same, leaving⟩ :=
    leavesWith_congr wirings.symm one_stored leaving
  refine ⟨client, List.mem_filter.mpr ⟨client_stored, leaving⟩, ?_⟩
  rw [same]
  exact owned

theorem owned_of_busDisconnected {before : State} {inhibitor : Inhibitor}
    (removed : Call.busDisconnected.removes before inhibitor = true) :
    ∃ client ∈ before.clients.filter (leavesWith none),
      inhibitor.hasClientId client.id = true := by
  simp only [Call.removes, Call.answer, Option.any_none, Bool.or_false, Bool.false_or,
    List.any_eq_true] at removed
  exact removed

theorem within_removeClientsForConnection {keep : Inhibitor → Prop} {serviceName : Option String}
    (shaped : state.core.Shaped)
    (within : ∀ inhibitor ∈ state.inhibitors, keep inhibitor ∨
      ∃ client ∈ state.clients.filter (leavesWith serviceName),
        inhibitor.hasClientId client.id = true) :
    Core.Within keep (state.removeClientsForConnection world serviceName).core := by
  have left := @within_removeDBusClients world state keep _ shaped within
  unfold removeClientsForConnection endPhaseIfEmpty
  split_ifs
  · unfold Core.Within
    rw [endPhase_frame.inhibitors]
    exact left
  · exact left

theorem within_departed {before : State} {call : Call} {after : Core} {keep : Inhibitor → Prop}
    (shaped : before.core.Shaped)
    (within : ∀ inhibitor ∈ before.inhibitors,
      keep inhibitor ∨ call.removes before inhibitor = true)
    (departing : Departing world before call after) : Core.Within keep after := by
  have departures : Departures world (fun _ response => response.isOk = true) (fun _ => True)
      (Core.Within keep) := withinDepartures fun _ _ agrees => agrees
  have emptied : Emptied world (Core.Within keep) := withinEmptied keep
  cases departing with
  | @left client told lost stored same emitted =>
      rw [← show told.inhibitors = before.inhibitors from congrArg Core.inhibitors same] at within
      rw [emitted]
      cases silent : client.handlers with
      | zero =>
          intro inhibitor member
          refine (within inhibitor member).resolve_right fun removed => ?_
          simp only [lost, Call.removes, Call.answer, Call.leaving, Option.any_none, Bool.or_false,
            Bool.false_or, List.any_eq_true, List.mem_filter, Bool.and_eq_true, beq_iff_eq,
            bne_iff_ne] at removed
          obtain ⟨one, ⟨other, sameId, some_⟩, _⟩ := removed
          have client_one := List.inj_on_of_nodup_map shaped.distinct other stored sameId
          exact some_ (client_one ▸ silent)
      | succ handlers =>
          have own := @within_forget world (told.emit (.clientDisconnected client.id)) _ keep client
            within fun inhibitor owned stays => owned.resolve_right fun removed => by
              rw [lost] at removed
              exact absurd (stays.symm.trans (owned_of_connectionLost removed)) (by decide)
          rw [← same] at shaped
          have first := @Departures.departRemoved world _ _ _
            (told.emit (.clientDisconnected client.id)) departures client rfl trivial
            { shaped with } own
          have left := Departures.endPhaseIfEmpty emptied first
          exact (departures.emitDisconnected emptied rfl trivial handlers left).2
  | @nameLost serviceName lost removed =>
      have base := shapedRules world (fun _ _ => True) (fun _ => True)
      have dropped := @Rules.removeInhibitors world _ _ _ _ before base
        (Inhibitor.hasBusName serviceName) trivial trivial shaped
      have left := @within_removeInhibitors world before _ (Inhibitor.hasBusName serviceName) within
      have owned : ∀ inhibitor ∈ (before.removeInhibitors world
          (Inhibitor.hasBusName serviceName)).inhibitors, keep inhibitor ∨
          ∃ client ∈ (before.removeInhibitors world (Inhibitor.hasBusName serviceName)).clients.filter
            (leavesWith (some serviceName)), inhibitor.hasClientId client.id = true := by
        intro inhibitor member
        exact (left inhibitor member).1.imp_right fun removes =>
          owned_of_nameLost member fun _ => lost ▸ removes
      rw [removed]
      exact within_removeClientsForConnection dropped owned
  | busLost lost removed =>
      have owned : ∀ inhibitor ∈ before.inhibitors, keep inhibitor ∨
          ∃ client ∈ before.clients.filter (leavesWith none),
            inhibitor.hasClientId client.id = true := by
        intro inhibitor member
        exact (within inhibitor member).imp_right fun removes =>
          owned_of_busDisconnected (lost ▸ removes)
      rw [removed]
      exact within_removeClientsForConnection shaped owned

/-- A client stays in the store while others leave. -/
theorem staysDepartures {id : Nat}
    (others : ∀ other response, acts other response → other ≠ id) :
    Departures world acts drops (fun core => id ∈ core.clientIds) where
  rules := @rosterRules world acts drops _ fun roster => id ∈ roster.clientIds
  gone core other acting _ stays _ := List.mem_filter.mpr
    ⟨stays, by simpa using (others other _ acting).symm⟩
  noted _ _ _ stays := stays

/-- No client of the store is one of those that have left. -/
theorem keptDepartures {keep : Nat → Prop} :
    Departures world acts drops (fun core => ∀ id ∈ core.clientIds, keep id) where
  rules := @rosterRules world acts drops _ fun roster => ∀ id ∈ roster.clientIds, keep id
  gone _ _ _ _ kept _ := fun id member => kept id (List.mem_of_mem_filter member)
  noted _ _ _ kept := kept

/-- A client that has left is not in the store. -/
theorem kept_depart {keep : Nat → Prop} {client : Client} (shaped : state.core.Shaped)
    (kept : ∀ id ∈ state.clientIds, keep id ∨ id = client.id) :
    ∀ id ∈ ((state.disconnectClient world client).removeClient client.id).core.clientIds,
      keep id := by
  have departures : Departures world (fun _ _ => True) (fun _ => True)
      (fun core => ∀ id ∈ core.clientIds, keep id ∨ id = client.id) := keptDepartures
  have disconnected := (@Rules.disconnect world _ _ _ state departures.both client trivial trivial
    ⟨shaped, kept⟩).2
  intro id member
  rw [core_removeClient] at member
  obtain ⟨stored, other⟩ := List.mem_filter.mp member
  exact (disconnected id stored).resolve_right (by simpa using other)

theorem kept_removeDBusClients {keep : Nat → Prop} {leaving : List Client}
    (shaped : state.core.Shaped)
    (kept : ∀ id ∈ state.clientIds, keep id ∨ ∃ client ∈ leaving, client.id = id) :
    ∀ id ∈ (state.removeDBusClients world leaving).core.clientIds, keep id := by
  unfold removeDBusClients
  induction leaving generalizing state with
  | nil =>
      intro id member
      rcases kept id member with stays | ⟨client, absent, _⟩
      · exact stays
      · cases absent
  | cons client leaving ih =>
      have departures := shapedDepartures world (fun _ _ => True) (fun _ => True)
      have departed := @Departures.depart world _ _ _ state departures client trivial trivial
        ⟨shaped, trivial⟩
      refine ih departed.1 (kept_depart shaped fun id member => ?_)
      rcases kept id member with stays | ⟨one, leaves, same⟩
      · exact .inl (.inl stays)
      · rcases List.mem_cons.mp leaves with rfl | later
        · exact .inr same.symm
        · exact .inl (.inr ⟨one, later, same⟩)

/-- Where no client is asked anything, none of them is by an answer or a departure. -/
theorem idleDepartures : Departures world acts drops
    (fun core => core.phase ≠ .queryEndSession ∧ core.phase ≠ .endSession) where
  rules := {
    taken := fun _ _ _ _ _ idle _ => idle
    inhibited := fun _ _ _ _ _ _ _ _ _ idle _ => idle
    dropped := fun _ _ _ _ _ idle => idle
    closed := fun _ _ _ _ _ _ _ _ _ idle => idle
    accepted := fun core _ action forced _ opened ends _ _ shaped idle same => by
      have ending := (shaped.dialog action opened ends).1
      rcases Phase.queryEndSession_le.mp ending with query | ends | exit
      · exact absurd query idle.1
      · exact absurd ends idle.2
      · have phase : forced.phase = .exit := (congrArg Core.phase same).trans exit
        rw [core_endPhase_exit phase]
        exact ⟨nofun, nofun⟩
    completed := fun _ _ idle query _ _ => absurd query idle.1
    opened := fun _ _ idle _ _ _ => idle
    deferred := fun _ _ _ _ _ _ idle _ => idle
    moved := fun _ _ _ _ idle _ _ => idle
    ended := fun _ _ idle ending _ _ => absurd ending idle.2
    cancelled := fun _ _ _ _ _ _ _ ending => by
      rw [core_cancelEndSession ending]
      exact ⟨nofun, nofun⟩ }
  gone _ _ _ _ idle _ := idle
  noted _ _ _ idle := idle

/-- Without clients, the end of a phase leaves the session manager quitting. -/
theorem exits_endPhase (ending : .queryEndSession ≤ state.phase) (empty : state.clients = []) :
    (state.endPhase world).core.phase = .exit := by
  have ends := endPhase_ending world state
  generalize (state.endPhase world).core = after at ends ⊢
  cases ends with
  | startup early starts => exact absurd early (Nat.not_lt.mpr (Phase.running_le_of_query_le ending))
  | locked running | asked running => exact absurd ending (Phase.running_early running)
  | ending query clients => exact absurd empty clients
  | emptied | ended | quit => rfl

/-- So does the end of a phase after the query. -/
theorem exits_endPhase_outside (ending : .queryEndSession ≤ state.phase)
    (outside : state.phase ≠ .queryEndSession) : (state.endPhase world).core.phase = .exit := by
  have ends := endPhase_ending world state
  generalize (state.endPhase world).core = after at ends ⊢
  cases ends with
  | startup early starts => exact absurd early (Nat.not_lt.mpr (Phase.running_le_of_query_le ending))
  | locked running | asked running => exact absurd ending (Phase.running_early running)
  | ending query | emptied query => exact absurd query outside
  | ended | quit => rfl

theorem idleEmptied : Emptied world
    (fun core => core.phase ≠ .queryEndSession ∧ core.phase ≠ .endSession) := by
  intro state _ _ ending empty
  rw [exits_endPhase ending empty]
  exact ⟨nofun, nofun⟩

end CafeSession.Manager
