import CafeSession.Manager.Reach
import CafeSession.Manager.Survivors

namespace CafeSession.Manager

open State

structure Core.Listed (core : Core) : Prop where
  waiting : ∀ id ∈ core.queryClients, id ∈ core.clientIds
  last : ∀ id ∈ core.nextQueryClients, id ∈ core.clientIds
  waitingOnce : core.queryClients.Nodup
  lastOnce : core.nextQueryClients.Nodup

/-- The client is in neither list. -/
def Core.Unlisted (id : Nat) (core : Core) : Prop :=
  id ∉ core.queryClients ∧ id ∉ core.nextQueryClients

/-- No client asks twice to be last, and a client that leaves does so while its
departure cannot complete the query and is no longer waited for in the
end-session phase, unless it leaves no client behind. -/
structure KeepsMembers (before : State) (event : Event) : Prop where
  last : before.phase = .endSession → ∀ id response, event.call.answer = some (id, response) →
    response.doLast = true → id ∉ before.nextQueryClients
  query : before.phase = .queryEndSession → event.call.leaving before ≠ [] →
    (∃ other ∈ before.queryClients, ∀ client ∈ event.call.leaving before, client.id ≠ other) ∨
      (∃ inhibitor ∈ before.inhibitors, inhibitor.hasFlag inhibitorFlagLogout = true ∧
        event.call.removes before inhibitor = false) ∨
      event.call.emptiesStore before
  ending : before.phase = .endSession → event.call.leaving before ≠ [] →
    (∀ client ∈ event.call.leaving before, before.core.Unlisted client.id) ∨
      event.call.emptiesStore before

section

variable {world : World} {acts : Nat → Response → Prop} {drops : (Inhibitor → Bool) → Prop}
variable {state : State}

/-- Outside the end-session phase the shape says it all. -/
theorem listed_of_shaped {core : Core} (shaped : core.Shaped) (outside : core.phase ≠ .endSession) :
    core.Listed := by
  have none_last : core.nextQueryClients = [] := by
    by_contra some_
    exact outside (shaped.last some_)
  by_cases query : core.phase = .queryEndSession
  · have waiting := shaped.waiting query
    refine ⟨waiting.2, ?_, waiting.1, ?_⟩
    · rw [none_last]
      nofun
    · rw [none_last]
      exact List.nodup_nil
  · have nobody : core.queryClients = [] := by
      by_contra some_
      rcases shaped.nobody some_ with asked | ends
      · exact query asked
      · exact outside ends
    refine ⟨?_, ?_, ?_, ?_⟩
    · rw [nobody]
      nofun
    · rw [none_last]
      nofun
    · rw [nobody]
      exact List.nodup_nil
    · rw [none_last]
      exact List.nodup_nil

theorem listed_endPhase (distinct : state.clientIds.Nodup)
    (ending : (state.endPhase world).core.phase = .endSession) :
    (state.endPhase world).core.Listed := by
  have ends := endPhase_ending world state
  generalize (state.endPhase world).core = after at ending ends ⊢
  cases ends with
  | startup early starts =>
      have bound := starts.phase
      rw [ending] at bound
      exact absurd bound (by decide)
  | locked running => exact absurd (running.symm.trans ending) (by decide)
  | asked | emptied | ended | quit => cases ending
  | ending query clients sublist =>
      exact ⟨fun id member => List.mem_reverse.mp (sublist.subset member), nofun,
        (List.nodup_reverse.mpr distinct).sublist sublist, List.nodup_nil⟩

/-- In the end-session phase the lists are kept, if nobody asks to be last. -/
def Core.ListedEnding (core : Core) : Prop := core.phase = .endSession → core.Listed

theorem listedRules {Given : Core → Prop} (shaped : ∀ core, Given core → core.Shaped)
    (asks : ∀ id response, acts id response → response.doLast = false) :
    Rules world acts drops Given Core.ListedEnding where
  taken core id _ _ _ listed _ ends :=
    { listed ends with
      waiting := fun other member => (listed ends).waiting other (List.mem_of_mem_erase member)
      waitingOnce := (listed ends).waitingOnce.erase id }
  inhibited _ _ _ _ _ _ _ _ _ listed _ ends := { listed ends with }
  dropped _ _ _ _ _ listed ends := { listed ends with }
  closed _ _ _ _ _ _ _ _ _ listed ends := { listed ends with }
  accepted core _ _ forced _ _ _ _ _ given _ same :=
    listed_endPhase (by
      rw [show forced.clientIds = _ from congrArg Core.clientIds same]
      exact (shaped core given).distinct)
  completed _ given _ _ _ _ := listed_endPhase (shaped _ given).distinct
  opened _ _ _ query _ _ ends := absurd (query.symm.trans ends) (by decide)
  deferred _ id response acting last _ _ _ := by
    cases last.symm.trans (asks id response acting)
  moved _ _ sublist _ listed _ _ ends :=
    { waiting := fun id member =>
        (listed ends).last id (List.mem_reverse.mp (sublist.subset member))
      last := nofun
      waitingOnce := (List.nodup_reverse.mpr (listed ends).lastOnce).sublist sublist
      lastOnce := List.nodup_nil }
  ended _ given _ _ _ _ := listed_endPhase (shaped _ given).distinct
  cancelled _ _ _ _ _ _ _ ending ends := by
    rw [core_cancelEndSession ending] at ends
    cases ends

/-- Outside the query, a client that is in neither list stays out of them. -/
theorem unlistedRules {leaving : List Nat}
    (asks : ∀ id response, acts id response → response.doLast = false) :
    Rules world acts drops (fun core => core.Shaped ∧ core.phase ≠ .queryEndSession)
      (fun core => core.phase = .endSession → ∀ id ∈ leaving, core.Unlisted id) where
  taken _ _ _ _ _ unlisted _ ends id leaves :=
    ⟨fun member => (unlisted ends id leaves).1 (List.mem_of_mem_erase member),
      (unlisted ends id leaves).2⟩
  inhibited _ _ _ _ _ _ _ _ _ unlisted _ := unlisted
  dropped _ _ _ _ _ unlisted := unlisted
  closed _ _ _ _ _ _ _ _ _ unlisted := unlisted
  accepted core _ action forced _ opened ends _ _ given _ same still := by
    have phase : forced.phase = core.phase := congrArg Core.phase same
    rw [exits_endPhase_outside (phase ▸ (given.1.dialog action opened ends).1)
      (phase ▸ given.2)] at still
    cases still
  completed _ given _ query _ _ := absurd query given.2
  opened _ _ unlisted _ _ _ := unlisted
  deferred _ id response acting last _ _ _ := by
    cases last.symm.trans (asks id response acting)
  moved _ _ sublist _ unlisted _ _ ends id leaves :=
    ⟨fun member => (unlisted ends id leaves).2 (List.mem_reverse.mp (sublist.subset member)), nofun⟩
  ended state given _ ending _ _ still := by
    rw [exits_endPhase_outside (Phase.queryEndSession_le.mpr (.inr (.inl ending))) given.2] at still
    cases still
  cancelled _ _ _ _ _ _ _ ending still := by
    rw [core_cancelEndSession ending] at still
    cases still

theorem unlistedDepartures {leaving : List Nat} :
    Departures world (fun id response => id ∈ leaving ∧ response.doLast = false) (fun _ => True)
      (fun core => (core.phase ≠ .queryEndSession ∧
        (core.phase = .endSession → ∀ id ∈ leaving, core.Unlisted id)) ∧ core.ListedEnding) := by
  have outside : Departures world (fun id response => id ∈ leaving ∧ response.doLast = false)
      (fun _ => True) (fun core => core.phase ≠ .queryEndSession) := outsideDepartures
  have rules : Rules world (fun id response => id ∈ leaving ∧ response.doLast = false)
      (fun _ => True) (fun core => core.Shaped ∧ core.phase ≠ .queryEndSession)
      (fun core => core.phase = .endSession → ∀ id ∈ leaving, core.Unlisted id) :=
    unlistedRules fun _ _ acting => acting.2
  have unlisted := outside.beside rules (fun _ _ _ _ _ unlisted _ => unlisted)
    (fun _ _ _ unlisted => unlisted)
  refine unlisted.beside (listedRules (fun _ given => given.1) fun _ _ acting => acting.2) ?_
    fun _ _ _ listed ends => { listed ends with }
  intro core id acting _ holds listed _ ends
  have absent := holds.2 ends id acting.1
  refine { listed ends with
    waiting := fun other member => List.mem_filter.mpr ⟨(listed ends).waiting other member, ?_⟩
    last := fun other member => List.mem_filter.mpr ⟨(listed ends).last other member, ?_⟩ }
  · simp only [bne_iff_ne]
    rintro rfl
    exact absent.1 member
  · simp only [bne_iff_ne]
    rintro rfl
    exact absent.2 member

theorem unlistedEmptied {leaving : List Nat} : Emptied world (fun core =>
    (core.phase ≠ .queryEndSession ∧
      (core.phase = .endSession → ∀ id ∈ leaving, core.Unlisted id)) ∧ core.ListedEnding) := by
  intro state _ _ ending empty
  have exits := @exits_endPhase world state ending empty
  refine ⟨⟨fun query => ?_, fun ends => ?_⟩, fun ends => ?_⟩
  · exact absurd (exits.symm.trans query) (by decide)
  · exact absurd (exits.symm.trans ends) (by decide)
  · exact absurd (exits.symm.trans ends) (by decide)

/-- While an inhibitor of somebody else keeps the query from ending, clients
leave without being asked again. -/
theorem blockedDepartures {survivor : Inhibitor}
    (logout : survivor.hasFlag inhibitorFlagLogout = true)
    (spared : ∀ matching, drops matching → matching survivor = false)
    (stays : ∀ id response, acts id response → response.cancel = false) :
    Departures world acts drops (fun core => core.phase = .exit ∨
      core.phase = .queryEndSession ∧ survivor ∈ core.inhibitors) where
  rules := {
    taken := fun _ _ _ _ _ blocked _ => blocked
    inhibited := fun _ _ _ _ _ _ _ _ _ blocked _ =>
      blocked.imp_right (And.imp_right (List.mem_append_left _))
    dropped := fun core matching dropping _ _ blocked => blocked.imp_right fun held =>
      ⟨held.1, List.mem_filter.mpr ⟨held.2, by rw [spared matching dropping]; rfl⟩⟩
    closed := fun _ matching _ dropping _ _ _ last _ blocked => blocked.imp_right fun held =>
      absurd ((last survivor held.2).symm.trans (spared matching dropping)) (by decide)
    accepted := fun core matching action forced dropping opened ends _ last shaped blocked same => by
      rcases blocked with exit | held
      · have phase : forced.phase = .exit := (congrArg Core.phase same).trans exit
        rw [core_endPhase_exit phase]
        exact .inl rfl
      · exact absurd ((last survivor held.2).symm.trans (spared matching dropping)) (by decide)
    completed := fun state _ blocked query _ free => by
      rcases blocked with exit | held
      · exact absurd (query.symm.trans exit) (by decide)
      · have inhibited : state.logoutInhibited = true :=
          List.any_eq_true.mpr ⟨survivor, held.2, logout⟩
        exact absurd (free.symm.trans inhibited) (by decide)
    opened := fun _ _ blocked _ _ _ => blocked
    deferred := fun _ _ _ _ _ _ blocked _ => blocked
    moved := fun _ _ _ _ blocked _ _ => blocked
    ended := fun state _ blocked ending _ _ => by
      rcases blocked with exit | held
      · exact absurd (ending.symm.trans exit) (by decide)
      · exact absurd (ending.symm.trans held.1) (by decide)
    cancelled := fun _ id response acting cancel _ _ _ => by
      cases cancel.symm.trans (stays id response acting) }
  gone _ _ _ _ blocked _ := blocked
  noted _ _ _ blocked := blocked

theorem blockedEmptied (survivor : Inhibitor) : Emptied world (fun core => core.phase = .exit ∨
    core.phase = .queryEndSession ∧ survivor ∈ core.inhibitors) :=
  fun _ _ _ ending empty => .inl (exits_endPhase ending empty)

/-- Nobody is left: the session manager quits, or had asked nobody. -/
theorem idle_endPhaseIfEmpty (empty : ∀ id, id ∉ state.clientIds) :
    (state.endPhaseIfEmpty world).core.phase ≠ .queryEndSession ∧
      (state.endPhaseIfEmpty world).core.phase ≠ .endSession := by
  have clients : state.clients = [] :=
    List.map_eq_nil_iff.mp (List.eq_nil_iff_forall_not_mem.mpr empty)
  unfold endPhaseIfEmpty
  split_ifs with last
  · rw [exits_endPhase last.1 clients]
    exact ⟨nofun, nofun⟩
  · exact ⟨fun query => last ⟨Phase.queryEndSession_le.mpr (.inl query), clients⟩,
      fun ends => last ⟨Phase.queryEndSession_le.mpr (.inr (.inl ends)), clients⟩⟩

theorem idle_emitDisconnected {client : Client} (handlers : Nat) (some_ : handlers ≠ 0)
    (shaped : state.core.Shaped) (alone : ∀ id ∈ state.clientIds, id = client.id) :
    (state.emitDisconnected world client handlers).core.phase ≠ .endSession := by
  cases handlers with
  | zero => exact absurd rfl some_
  | succ handlers =>
      have noted : (state.emit (.clientDisconnected client.id)).core.Shaped := { shaped with }
      have departed := @Departures.depart world _ _ _ (state.emit (.clientDisconnected client.id))
        (shapedDepartures world (fun _ _ => True) (fun _ => True)) client trivial trivial
        ⟨noted, trivial⟩
      have gone := @kept_depart world (state.emit (.clientDisconnected client.id))
        (fun _ => False) client noted fun id member => .inr (alone id member)
      have idle := @idle_endPhaseIfEmpty world _ gone
      have shapedFirst := (@Departures.endPhaseIfEmpty world (fun _ => True) _
        (fun _ _ _ _ _ => trivial) departed).1
      have departures : Departures world (fun _ _ => True) (fun _ => True) (fun core =>
          core.phase ≠ .queryEndSession ∧ core.phase ≠ .endSession) := idleDepartures
      exact (departures.emitDisconnected idleEmptied trivial trivial handlers
        ⟨shapedFirst, idle⟩).2.2

theorem idle_removeClientsForConnection {serviceName : Option String}
    (shaped : state.core.Shaped)
    (all : ∀ id ∈ state.clientIds, ∃ client ∈ state.clients.filter (leavesWith serviceName),
      client.id = id) :
    (state.removeClientsForConnection world serviceName).core.phase ≠ .endSession :=
  (idle_endPhaseIfEmpty (kept_removeDBusClients shaped fun id member =>
    .inr (all id member))).2

theorem idle_departed {before : State} {call : Call} {after : Core}
    (shaped : before.core.Shaped) (leaves : call.leaving before ≠ [])
    (empties : call.emptiesStore before) (departing : Departing world before call after) :
    after.phase ≠ .endSession := by
  cases departing with
  | @left client told lost stored same emitted =>
      rw [lost] at leaves empties
      have some_ : client.handlers ≠ 0 := by
        obtain ⟨one, leaves⟩ := List.exists_mem_of_ne_nil _ leaves
        simp only [Call.leaving, List.mem_filter, Bool.and_eq_true, beq_iff_eq, bne_iff_ne] at leaves
        obtain ⟨oneStored, sameId, some_⟩ := leaves
        rw [List.inj_on_of_nodup_map shaped.distinct stored oneStored sameId.symm]
        exact some_
      rw [emitted]
      rw [← same] at shaped
      refine idle_emitDisconnected _ some_ shaped fun id member => ?_
      rw [show told.clientIds = before.clientIds from congrArg Core.clientIds same] at member
      obtain ⟨one, stored, rfl⟩ := List.mem_map.mp member
      obtain ⟨left, leaving, same⟩ := empties one stored
      simp only [Call.leaving, List.mem_filter, Bool.and_eq_true, beq_iff_eq] at leaving
      rw [← same]
      exact leaving.2.1
  | @nameLost serviceName lost removed =>
      rw [lost] at empties
      have base := shapedRules world (fun _ _ => True) (fun _ => True)
      have dropped := @Rules.removeInhibitors world _ _ _ _ before base
        (Inhibitor.hasBusName serviceName) trivial trivial shaped
      have wirings := @wirings_removeInhibitors world before (Inhibitor.hasBusName serviceName)
      have ids := @clientIds_removeInhibitors world before (Inhibitor.hasBusName serviceName)
      rw [removed]
      refine idle_removeClientsForConnection dropped fun id member => ?_
      rw [show (before.removeInhibitors world (Inhibitor.hasBusName serviceName)).clientIds =
        before.clientIds from ids] at member
      obtain ⟨one, stored, rfl⟩ := List.mem_map.mp member
      obtain ⟨left, leaving, same⟩ := empties one stored
      obtain ⟨leftStored, leaving⟩ := List.mem_filter.mp leaving
      obtain ⟨client, kept, sameId, leaving⟩ := leavesWith_congr wirings.symm leftStored leaving
      exact ⟨client, List.mem_filter.mpr ⟨kept, leaving⟩, sameId.trans same⟩
  | busLost lost removed =>
      rw [lost] at empties
      rw [removed]
      refine @idle_removeClientsForConnection world { before with dbusDisconnected := true } _
        shaped fun id member => ?_
      obtain ⟨one, stored, rfl⟩ := List.mem_map.mp member
      exact empties one stored

theorem endPhase_last : (state.endPhase world).core.nextQueryClients = [] := by
  have ending := endPhase_ending world state
  generalize (state.endPhase world).core = after at ending ⊢
  cases ending with
  | startup early starts =>
      obtain ⟨news, _, _, kept⟩ := starts.kept
      rw [kept]
  | _ => rfl

theorem unaskedRules {Given : Core → Prop} {id : Nat}
    (asks : ∀ id response, acts id response → response.doLast = false) :
    Rules world acts drops Given
      (fun core => core.phase = .endSession → id ∉ core.nextQueryClients) where
  taken _ _ _ _ _ unasked _ := unasked
  inhibited _ _ _ _ _ _ _ _ _ unasked _ := unasked
  dropped _ _ _ _ _ unasked := unasked
  closed _ _ _ _ _ _ _ _ _ unasked := unasked
  accepted _ _ _ forced _ _ _ _ _ _ _ _ _ := by
    rw [endPhase_last]
    nofun
  completed state _ _ _ _ _ _ := by
    rw [endPhase_last]
    nofun
  opened _ _ unasked _ _ _ := unasked
  deferred _ id response acting last _ _ _ := by
    cases last.symm.trans (asks id response acting)
  moved _ _ _ _ _ _ _ _ := nofun
  ended state _ _ _ _ _ _ := by
    rw [endPhase_last]
    nofun
  cancelled state _ _ _ _ _ _ ending ends := by
    rw [core_cancelEndSession ending] at ends
    cases ends

theorem listed_handled {client : Client} {response : Response} (shaped : state.core.Shaped)
    (listed : state.core.ListedEnding) (stored : client.id ∈ state.clientIds)
    (last : state.phase = .endSession → response.doLast = true →
      client.id ∉ state.nextQueryClients) :
    (state.handleClientEndSessionResponse world client response).core.ListedEnding := by
  let never : Nat → Response → Prop := fun _ response => response.doLast = false
  have lists : Rules world never (fun _ => True) (fun _ => True)
      (fun core => core.Shaped ∧ core.ListedEnding) :=
    (shapedRules world never (fun _ => True)).both
      (listedRules (fun _ given => given) fun _ _ asks => asks) fun _ _ given => given
  unfold handleClientEndSessionResponse
  split_ifs with early cancel
  · exact listed
  · intro ends
    rw [core_cancelEndSession (Phase.not_lt_query.mp early)] at ends
    cases ends
  have ending := Phase.not_lt_query.mp early
  -- only the second part of the answer looks whether the client asks to be last
  obtain ⟨noted, notes⟩ : ∃ noted, state.noteAnswer world client response = noted := ⟨_, rfl⟩
  have notedLists : noted.core.Shaped ∧ noted.core.ListedEnding := by
    rw [← notes]
    exact @Rules.noteTaken world never _ _ state lists client { response with doLast := false }
      rfl trivial ending (lists.taken _ client.id { response with doLast := false } rfl trivial
        ⟨shaped, listed⟩ ending)
  have notedStored : client.id ∈ noted.core.clientIds := by
    rw [← notes]
    have stays : Rules world never (fun _ => True) (fun _ => True)
        (fun core => client.id ∈ core.roster.clientIds) :=
      @rosterRules world _ _ _ fun roster => client.id ∈ roster.clientIds
    exact @Rules.noteTaken world never _ _ state stays client { response with doLast := false }
      rfl trivial ending stored
  have notedLast : response.doLast = true → noted.core.phase = .endSession →
      client.id ∉ noted.core.nextQueryClients := by
    intro asks
    rw [← notes]
    have unasked : Rules world never (fun _ => True) (fun _ => True) (fun core =>
        core.phase = .endSession → client.id ∉ core.nextQueryClients) :=
      unaskedRules fun _ _ acting => acting
    exact @Rules.noteTaken world never _ _ state unasked client { response with doLast := false }
      rfl trivial ending fun ends => last ends asks
  rw [notes]
  unfold answerNoted
  split
  · next query =>
      split_ifs with nobody
      · exact (lists.queryEndSessionComplete query nobody notedLists).2
      · exact notedLists.2
  · next ends =>
      refine (lists.endSessionNoted ends ?_).2
      split_ifs with asks
      · exact ⟨{ notedLists.1 with last := fun _ => ends }, fun _ =>
          { notedLists.2 ends with
            last := fun id member => by
              rcases List.mem_cons.mp member with rfl | old
              · exact notedStored
              · exact (notedLists.2 ends).last id old
            lastOnce := List.nodup_cons.mpr ⟨notedLast asks ends, (notedLists.2 ends).lastOnce⟩ }⟩
      · exact notedLists
  · exact notedLists.2

theorem listed_departed {before : State} {event : Event} {after : Core}
    (shaped : before.core.Shaped) (listed : before.core.ListedEnding)
    (keeps : KeepsMembers before event)
    (departing : Departing event.world before event.call after) : after.ListedEnding := by
  by_cases none_ : event.call.leaving before = []
  · have quiet := shapedDepartures event.world (fun _ _ => False) (fun _ => True)
    have departures := quiet.beside (listedRules (fun _ given => given.1)
      fun _ _ acting => acting.elim) (fun _ _ acting => acting.elim) (fun _ _ acting => acting.elim)
    have emptied : Emptied event.world (fun core => True ∧ core.ListedEnding) :=
      fun state shaped _ _ _ => ⟨trivial, listed_endPhase shaped.distinct⟩
    refine (departures.departed emptied (fun client leaves => ?_) (fun _ _ => trivial)
      (fun _ _ => trivial) departing ⟨shaped, trivial, listed⟩).2.2
    rw [none_] at leaves
    cases leaves
  by_cases query : before.phase = .queryEndSession
  · rcases keeps.query query none_ with ⟨other, waits, others⟩ | ⟨survivor, held, logout, spared⟩ |
      empties
    · have departures : Departures event.world
          (fun id response => id ≠ other ∧ response.cancel = false) (fun _ => True)
          (Core.Waits other) := waitsDepartures fun _ _ acting => acting
      have left := departures.departed (waitsEmptied other)
        (fun client leaves => ⟨others client leaves, rfl⟩) (fun _ _ => trivial)
        (fun _ _ => trivial) departing ⟨shaped, query, waits⟩
      exact fun ends => absurd (left.2.1.symm.trans ends) (by decide)
    · have departures : Departures event.world (fun _ response => response.cancel = false)
          (fun matching => matching survivor = false) (fun core => core.phase = .exit ∨
            core.phase = .queryEndSession ∧ survivor ∈ core.inhibitors) :=
        blockedDepartures logout (fun _ spared => spared) fun _ _ stays => stays
      have left := departures.departed (blockedEmptied survivor) (fun _ _ => rfl)
        (fun client leaves => not_removed_of_leaving spared leaves)
        (fun _ lost => not_removed_of_name spared lost) departing
        ⟨shaped, .inr ⟨query, held⟩⟩
      intro ends
      rcases left.2 with exit | held
      · exact absurd (exit.symm.trans ends) (by decide)
      · exact absurd (held.1.symm.trans ends) (by decide)
    · exact fun ends => absurd ends (idle_departed shaped none_ empties departing)
  by_cases ending : before.phase = .endSession
  · rcases keeps.ending ending none_ with unlisted | empties
    · have departures := @unlistedDepartures event.world
        ((event.call.leaving before).map Client.id)
      refine (departures.departed unlistedEmptied (fun client leaves =>
        ⟨List.mem_map_of_mem leaves, rfl⟩) (fun _ _ => trivial) (fun _ _ => trivial) departing
        ⟨shaped, ⟨query, fun _ id member => ?_⟩, listed⟩).2.2
      obtain ⟨client, leaves, rfl⟩ := List.mem_map.mp member
      exact unlisted client leaves
    · exact fun ends => absurd ends (idle_departed shaped none_ empties departing)
  · have departures : Departures event.world (fun _ _ => True) (fun _ => True) (fun core =>
        core.phase ≠ .queryEndSession ∧ core.phase ≠ .endSession) := idleDepartures
    have left := departures.departed idleEmptied (fun _ _ => trivial) (fun _ _ => trivial)
      (fun _ _ => trivial) departing ⟨shaped, query, ending⟩
    exact fun ends => absurd ends left.2.2

end

theorem listed_routine {before after : Core} (moved : before.Routine after)
    (listed : before.ListedEnding) : after.ListedEnding := by
  induction moved with
  | refl => exact listed
  | trans _ _ first second => exact second (first listed)
  | added core wiring =>
      exact fun ends => { listed ends with
        waiting := fun id member => List.mem_append_left _ ((listed ends).waiting id member)
        last := fun id member => List.mem_append_left _ ((listed ends).last id member) }
  | started early noted starts =>
      intro ends
      have bound := starts.phase
      rw [ends] at bound
      exact absurd bound (by decide)
  | locked core running closed unforced =>
      exact fun ends => absurd (running.symm.trans ends) (by decide)
  | _ => exact fun ends => { listed ends with }

theorem listed_turn {before : State} {event : Event} {after : Core}
    (shaped : before.core.Shaped) (listed : before.core.ListedEnding)
    (keeps : KeepsMembers before event) (turn : Turn event.world before event.call after) :
    after.ListedEnding := by
  cases turn with
  | routine moved => exact listed_routine moved listed
  | connected asked connects moved => exact listed_routine moved fun ends => { listed ends with }
  | called asked late same =>
      rw [same]
      exact fun ends => { listed ends with }
  | @answered client response asked answer stored same handled =>
      rw [← same] at shaped listed
      rw [handled]
      refine listed_handled shaped listed ?_ fun ends asks => ?_
      · rw [show asked.clientIds = before.clientIds from congrArg Core.clientIds same]
        exact List.mem_map_of_mem stored
      · rw [show asked.nextQueryClients = _ from congrArg Core.nextQueryClients same]
        exact keeps.last ((congrArg Core.phase same).symm.trans ends) client.id response answer asks
  | departed departing => exact listed_departed shaped listed keeps departing
  | uninhibited asked found removed =>
      have rules : Rules event.world (fun _ _ => False) (fun _ => True) Core.Shaped
          Core.ListedEnding := listedRules (fun _ given => given) fun _ _ acting => acting.elim
      rw [removed]
      exact rules.removeInhibitors trivial shaped listed
  | @asked leaving mode type dialog running unlocked closed typed same ended =>
      rw [ended]
      refine listed_endPhase ?_
      rw [show leaving.clientIds = before.clientIds from congrArg Core.clientIds same]
      exact shaped.distinct
  | @confirmed leaving dialog response mode type late opened normal answer ends typed same ended =>
      rw [ended]
      refine listed_endPhase ?_
      rw [show leaving.clientIds = before.clientIds from congrArg Core.clientIds same]
      exact shaped.distinct
  | @cancelled action response opened ends asked refused handled =>
      have late := (shaped.dialog action opened ends).1
      rw [handled, @core_cancelEndSession event.world (before.answerDialog action response) late]
      exact nofun
  | accepted opened ends asked handled =>
      rw [handled]
      exact listed_endPhase shaped.distinct
  | queryTimedOut asked armed fired =>
      have query : before.phase = .queryEndSession := shaped.asked armed
      have rules : Rules event.world (fun _ _ => False) (fun _ => True) Core.Shaped
          Core.ListedEnding := listedRules (fun _ given => given) fun _ _ acting => acting.elim
      have both := (shapedRules event.world (fun _ _ => False) (fun _ => True)).both rules
        fun _ _ given => given
      rw [fired]
      exact (both.onQueryEndSessionTimeout query fun inhibitors added =>
        ⟨shaped.unanswered query added, fun ends => absurd (query.symm.trans ends) (by decide)⟩).2
  | phaseTimedOut asked armed ending fired =>
      rw [fired]
      exact listed_endPhase shaped.distinct

/-- In every run whose events keep to the members, the clients in the lists are
clients of the store, and neither list has one of them twice. -/
theorem waiting_clients_are_stored {state : State}
    (reached : managerSystem.ReachableBy KeepsMembers state) :
    (∀ id, id ∈ state.queryClients ∨ id ∈ state.nextQueryClients →
        ∃ client ∈ state.clients, client.id = id) ∧
      state.queryClients.Nodup ∧ state.nextQueryClients.Nodup := by
  have listed : state.core.ListedEnding := by
    refine reached_invariant (fun apps _ => nofun) (fun _ _ => listed_routine) ?_ reached
    exact fun before event after shaped listed keeps turn =>
      listed_turn shaped listed keeps turn
  have shaped := shaped_reached reached.reachable
  have lists : state.core.Listed := by
    by_cases ends : state.core.phase = .endSession
    · exact listed ends
    · exact listed_of_shaped shaped ends
  refine ⟨fun id member => ?_, lists.waitingOnce, lists.lastOnce⟩
  exact List.mem_map.mp (member.elim (lists.waiting id) (lists.last id))

/-- A client leaves the end-session phase without an answer, and one asks twice
to be last. -/
theorem departed_client_is_waited_for :
    (∃ state, afterCalls [.registerClient "panel" "" ":1.1", .registerClient "editor" "" ":1.2",
        .logout 1, .endSessionResponse 1 true "", .endSessionResponse 2 true "",
        .busNameLost ":1.2"] = some state ∧
      2 ∈ state.queryClients ∧ ∀ client ∈ state.clients, client.id ≠ 2) ∧
    ∃ state, afterCalls [.acceptConnection, .registerXsmpClient 1 "", .saveYourselfDone 1 true,
        .registerClient "panel" "" ":1.1", .logout 1, .saveYourselfDone 1 true,
        .endSessionResponse 2 true "", .saveYourselfPhase2Request 1,
        .saveYourselfPhase2Request 1] = some state ∧
      ¬ state.nextQueryClients.Nodup := by
  decide

/-- A client leaves while another has still to answer the query. -/
theorem departed_client_is_not_waited_for :
    ∃ state, afterCalls [.registerClient "panel" "" ":1.1", .registerClient "editor" "" ":1.2",
        .logout 1, .busNameLost ":1.2"] = some state ∧
      (∀ id, id ∈ state.queryClients ∨ id ∈ state.nextQueryClients →
        ∃ client ∈ state.clients, client.id = id) ∧
      state.queryClients.Nodup ∧ state.nextQueryClients.Nodup := by
  obtain ⟨state, run⟩ : ∃ state, afterCalls [.registerClient "panel" "" ":1.1",
      .registerClient "editor" "" ":1.2", .logout 1, .busNameLost ":1.2"] = some state := ⟨_, rfl⟩
  refine ⟨state, run, waiting_clients_are_stored (afterCalls_reached ?_ run)⟩
  refine ⟨⟨nofun, nofun, nofun⟩, fun registered stepped => ?_⟩
  cases stepped
  refine ⟨⟨nofun, nofun, nofun⟩, fun both stepped => ?_⟩
  cases stepped
  refine ⟨⟨nofun, nofun, nofun⟩, fun asked stepped => ?_⟩
  cases stepped
  exact ⟨⟨nofun, fun _ _ => .inl ⟨1, by decide, by decide⟩, nofun⟩, fun _ _ => trivial⟩

end CafeSession.Manager
