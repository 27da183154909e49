import CafeSession.Manager.Asking

namespace CafeSession.Manager

open CafeSession.Transition CafeSession.Xsmp
open State

namespace PhaseEnd

def clientIds (ended : PhaseEnd) : List Nat := ended.clients.map Client.id

/-- No client owes an answer, or has a save running or queued, when the phase ends. -/
def Idle (ended : PhaseEnd) : Prop := ∀ client ∈ ended.clients, client.Idle

/-- Every client that is left when the phase ends owes no answer, and has been
sent the request if it was there when the phase started. -/
def Answered (ended asked : PhaseEnd) (since : List Effect) : Prop :=
  ∀ client ∈ ended.clients, client.unanswered = [] ∧
    (client.id ∈ asked.clientIds → client.hasConnection = true →
      ∃ message, Effect.sent client.id message ∈ since ∧ message.endsSession = true)

end PhaseEnd

/-- The query has ended as `asked` says, and `since` is what was done after it. -/
structure Entered (asked : PhaseEnd) (since log : List Effect) : Prop where
  quiet : Quiet since
  query : asked.phase = .queryEndSession
  log : ∃ older, log = since ++ .phaseEnded asked :: older

/-- The end-session phase has ended as `ended` says, when `since` had been done. -/
structure Left (asked ended : PhaseEnd) (since log : List Effect) : Prop where
  ending : ended.phase = .endSession
  log : ∃ quits before, Quiet quits ∧ log = quits ++ .phaseEnded ended :: before ∧
    Entered asked since before

theorem Entered.later {asked : PhaseEnd} {since log news : List Effect}
    (entered : Entered asked since log) (quiet : Quiet news) :
    Entered asked (news ++ since) (news ++ log) := by
  obtain ⟨older, logged⟩ := entered.log
  exact ⟨entered.quiet.append quiet, entered.query, older, by rw [logged, List.append_assoc]⟩

theorem Left.later {asked ended : PhaseEnd} {since log news : List Effect}
    (left : Left asked ended since log) (quiet : Quiet news) :
    Left asked ended since (news ++ log) := by
  obtain ⟨quits, before, quitsQuiet, logged, entered⟩ := left.log
  exact ⟨left.ending, news ++ quits, before, quitsQuiet.append quiet,
    by rw [logged, List.append_assoc], entered⟩

theorem Left.unique {asked ended otherAsked otherEnded : PhaseEnd}
    {since otherSince log : List Effect} (left : Left asked ended since log)
    (other : Left otherAsked otherEnded otherSince log) :
    asked = otherAsked ∧ ended = otherEnded ∧ since = otherSince := by
  obtain ⟨quits, before, quitsQuiet, logged, entered⟩ := left.log
  obtain ⟨otherQuits, otherBefore, otherQuiet, otherLogged, otherEntered⟩ := other.log
  obtain ⟨-, rfl, rfl⟩ := quitsQuiet.split_unique otherQuiet (logged.symm.trans otherLogged)
  obtain ⟨older, split⟩ := entered.log
  obtain ⟨otherOlder, otherSplit⟩ := otherEntered.log
  obtain ⟨rfl, rfl, -⟩ :=
    entered.quiet.split_unique otherEntered.quiet (split.symm.trans otherSplit)
  exact ⟨rfl, rfl, rfl⟩

theorem Entered.excused {asked : PhaseEnd} {since log : List Effect}
    (entered : Entered asked since log) (excused : Excused log) : Excused since := by
  obtain ⟨older, rfl⟩ := entered.log
  unfold Excused TimedOut Accepted at excused ⊢
  cases since with
  | nil => simp at excused
  | cons effect since => simpa using excused

/-- What the record says of a state. -/
structure Recorded (state : State) : Prop where
  inside : state.phase = .endSession → ∃ asked since, Entered asked since state.log ∧
    (∀ id ∈ asked.clientIds, id < state.clientSerial) ∧
    (asked.Idle → state.Asking asked.clientIds since)
  left : state.phase = .exit → ∃ asked ended since, Left asked ended since state.log ∧
    (asked.Idle → Excused since ∨ ended.Answered asked since)

namespace State

variable {world : World} {before after state : State} {asked : List Nat} {since news : List Effect}

theorem Asking.later (asking : before.Asking asked since) (clients : after.clients = before.clients)
    (waiting : after.queryClients = before.queryClients) :
    after.Asking asked (news ++ since) where
  ending client stored := asking.ending client (clients ▸ stored)
  counted client stored := by
    rw [waiting]
    exact asking.counted client (clients ▸ stored)
  written := asking.written.of_clients (.of_eq clients) news

theorem Asking.touched {id : Nat} {update : Client → Client} (asking : before.Asking asked since)
    (keeps : ∀ client ∈ before.clients, client.id = id → client.Keeps update) :
    (before.updateClient id update).Asking asked since := by
  have kept : ∀ client ∈ (before.updateClient id update).clients, ∃ one ∈ before.clients,
      one.id = client.id ∧ client.unanswered = one.unanswered ∧ client.nextSave = noSave := by
    intro client stored
    rcases @mem_updateClient before id update client stored with ⟨one, here, hit, rfl⟩ | ⟨old, _⟩
    · have same := keeps one here hit
      have ending := asking.ending one here
      exact ⟨one, here, same.id.symm, same.unanswered ending, same.unqueued ending⟩
    · exact ⟨client, old, rfl, rfl, (asking.ending client old).unqueued⟩
  refine ⟨fun client stored => ?_, fun client stored => ?_, ?_⟩
  · obtain ⟨one, here, _, owes, unqueued⟩ := kept client stored
    refine ⟨?_, unqueued⟩
    rw [owes]
    exact (asking.ending one here).requests
  · obtain ⟨one, here, id, owes, _⟩ := kept client stored
    rw [owes, ← id]
    exact asking.counted one here
  · exact asking.written.of_clients (clientsOf_updateClient fun client stored hit =>
      ⟨(keeps client stored hit).id, (keeps client stored hit).connection⟩) []

theorem Asking.answered {id : Nat} {update : Client → Client} (asking : before.Asking asked since)
    (answers : ∀ client ∈ before.clients, client.id = id → client.Answers update) :
    Asking asked since { before.updateClient id update with
      queryClients := before.queryClients.erase id } := by
  refine ⟨fun client stored => ?_, fun client stored => ?_, ?_⟩
  · rcases @mem_updateClient before id update client stored with ⟨one, here, hit, rfl⟩ | ⟨old, _⟩
    · have answer := answers one here hit
      have ending := asking.ending one here
      refine ⟨?_, answer.unqueued ending⟩
      rw [answer.unanswered ending]
      exact fun request member => ending.requests request (List.mem_of_mem_tail member)
    · exact asking.ending client old
  · rcases @mem_updateClient before id update client stored with
      ⟨one, here, hit, rfl⟩ | ⟨old, other⟩
    · have answer := answers one here hit
      have counted := asking.counted one here
      have owes := List.length_pos_of_ne_nil (answer.owes (asking.ending one here))
      rw [answer.unanswered (asking.ending one here), answer.id, hit, List.length_tail]
      rw [hit] at counted
      have taken : (before.queryClients.erase id).count id = before.queryClients.count id - 1 :=
        List.count_erase_self
      change _ ≤ (before.queryClients.erase id).count id
      omega
    · have kept : (before.queryClients.erase id).count client.id =
          before.queryClients.count client.id := List.count_erase_of_ne other
      change _ ≤ (before.queryClients.erase id).count client.id
      rw [kept]
      exact asking.counted client old
  · exact asking.written.of_clients (clientsOf_updateClient fun client stored hit =>
      ⟨(answers client stored hit).id, (answers client stored hit).connection⟩) []

theorem Asking.removed (asking : before.Asking asked since) (id : Nat) :
    (before.removeClient id).Asking asked since where
  ending client stored := asking.ending client (List.mem_of_mem_filter stored)
  counted client stored := asking.counted client (List.mem_of_mem_filter stored)
  written client stored := asking.written client (List.mem_of_mem_filter stored)

theorem Asking.joined (asking : before.Asking asked since)
    (fresh : ∀ id ∈ asked, id < before.clientSerial) :
    before.acceptXsmpConnection.Asking asked since := by
  have cases_ : ∀ client ∈ before.acceptXsmpConnection.clients, client ∈ before.clients ∨
      client = ⟨before.clientSerial, .xsmp .init none 0 true, "", "", []⟩ := by
    intro client stored
    simpa [acceptXsmpConnection, addClient] using stored
  refine ⟨fun client stored => ?_, fun client stored => ?_, fun client stored member => ?_⟩
  · rcases cases_ client stored with old | rfl
    · exact asking.ending client old
    · exact ⟨by simp, rfl⟩
  · rcases cases_ client stored with old | rfl
    · exact asking.counted client old
    · exact Nat.zero_le _
  · rcases cases_ client stored with old | rfl
    · exact asking.written client old member
    · exact absurd (fresh _ member) (Nat.lt_irrefl _)

end State

/-- The ids of the clients are those that have been handed out, each once. -/
structure Numbered (state : State) : Prop where
  distinct : state.clientIds.Nodup
  fresh : ∀ id ∈ state.clientIds, id < state.clientSerial

section

variable {world : World} {before after : State}

theorem fewer_endPhase : before.Fewer (before.endPhase world) :=
  .of_eq endPhase_frame.clientIds endPhase_frame.clientSerial

theorem fewer_touched {id : Nat} {update : Client → Client}
    (ids : ∀ client ∈ before.clients, client.id = id → (update client).id = client.id)
    (same : (before.updateClient id update).Still after) : before.Fewer after := by
  have updated : before.Fewer (before.updateClient id update) :=
    .of_eq (clientIds_updateClient ids) rfl
  exact updated.trans same.fewer

theorem fewer_answered {id : Nat} {update : Client → Client} {waiting : List Nat}
    (ids : ∀ client ∈ before.clients, client.id = id → (update client).id = client.id)
    (same : Still { before.updateClient id update with queryClients := waiting } after) :
    before.Fewer after := by
  have updated : before.Fewer { before.updateClient id update with queryClients := waiting } :=
    .of_eq (clientIds_updateClient ids) rfl
  exact updated.trans same.fewer

theorem fewer_removed (id : Nat) : before.Fewer (before.removeClient id) :=
  ⟨List.filter_sublist.map Client.id, rfl⟩

theorem fewer_lastAsked (some_ : before.nextQueryClients ≠ []) :
    before.Fewer (before.doPhaseEndSessionPart2 world) := by
  obtain ⟨waiting, _, core⟩ := @core_doPhaseEndSessionPart2 world before some_
  exact .of_eq (congrArg Core.clientIds core) (congrArg Core.clientSerial core)

theorem Numbered.of_fewer (numbered : Numbered before) (fewer : before.Fewer after) :
    Numbered after := by
  refine ⟨numbered.distinct.sublist fewer.ids, fun id member => ?_⟩
  rw [fewer.serial]
  exact numbered.fresh id (fewer.ids.subset member)

theorem Numbered.joined (numbered : Numbered before) : Numbered before.acceptXsmpConnection := by
  have ids : before.acceptXsmpConnection.clientIds = before.clientIds ++ [before.clientSerial] := by
    simp [acceptXsmpConnection, addClient, clientIds]
  refine ⟨?_, fun id member => ?_⟩
  · rw [ids]
    refine List.nodup_append.mpr ⟨numbered.distinct, List.nodup_singleton _, ?_⟩
    intro id member other new same
    rw [same, List.mem_singleton.mp new] at member
    exact Nat.lt_irrefl _ (numbered.fresh _ member)
  · rw [ids, List.mem_append, List.mem_singleton] at member
    change id < before.clientSerial + 1
    rcases member with old | rfl
    · have known := numbered.fresh id old
      omega
    · omega

theorem Numbered.move (numbered : Numbered before) (moved : Move world before after) :
    Numbered after := by
  induction moved with
  | refl => exact numbered
  | trans _ _ first second => exact second (first numbered)
  | outside fewer => exact numbered.of_fewer fewer
  | still _ same => exact numbered.of_fewer same.fewer
  | touched _ keeps same =>
      exact numbered.of_fewer (fewer_touched (fun client stored hit =>
        (keeps client stored hit).id) same)
  | answered _ answers same =>
      exact numbered.of_fewer (fewer_answered (fun client stored hit =>
        (answers client stored hit).id) same)
  | deferred => exact numbered.of_fewer (.of_eq rfl rfl)
  | lastAsked _ _ some_ => exact numbered.of_fewer (fewer_lastAsked some_)
  | removed _ id => exact numbered.of_fewer (fewer_removed id)
  | joined => exact numbered.joined
  | entered => exact numbered.of_fewer fewer_endPhase
  | left => exact numbered.of_fewer fewer_endPhase

end

namespace Recorded

variable {world : World} {before after state : State}

theorem elsewhere (notEnding : state.phase ≠ .endSession) (notExit : state.phase ≠ .exit) :
    Recorded state :=
  ⟨fun ending => absurd ending notEnding, fun exit => absurd exit notExit⟩

/-- A move inside the phase that neither asks a client nor lets one join. -/
theorem inside_move (recorded : Recorded before) (ending : before.phase = .endSession)
    (fewer : before.Fewer after) (phase : after.phase = before.phase)
    (moved : ∃ news, Quiet news ∧ after.log = news ++ before.log ∧
      ∀ asked since, before.Asking asked since → after.Asking asked (news ++ since)) :
    Recorded after := by
  obtain ⟨news, quiet, logged, kept⟩ := moved
  obtain ⟨asked, since, entered, known, asking⟩ := recorded.inside ending
  refine ⟨fun _ => ?_, fun exit => ?_⟩
  · refine ⟨asked, news ++ since, ?_, ?_, fun idle => kept _ _ (asking idle)⟩
    · rw [logged]
      exact entered.later quiet
    · rw [fewer.serial]
      exact known
  · cases exit.symm.trans (phase.trans ending)

theorem entered (numbered : Numbered before) (query : before.phase = .queryEndSession) :
    Recorded (before.endPhase world) := by
  by_cases clients : before.clients = []
  · have next : before.advance.resetPhase.phase = .endSession := by
      simp [resetPhase, clearPhase, advance, query, Phase.next]
    obtain ⟨exit, quits, quiet, logged⟩ := @endPhase_leaves before.advance.resetPhase world next
    rw [← endPhase_query_empty query clients] at exit logged
    refine ⟨fun ending => absurd (exit.symm.trans ending) (by decide), fun _ => ?_⟩
    refine ⟨before.phaseEnd, before.advance.resetPhase.phaseEnd, [], ⟨next, quits, _, quiet, logged,
      List.forall_mem_nil _, query, before.log, rfl⟩, fun _ => .inr fun client stored => ?_⟩
    rw [show before.advance.resetPhase.phaseEnd.clients = [] from clients] at stored
    cases stored
  · obtain ⟨ending, serial, news, quiet, logged, asking⟩ :=
      @endPhase_enters before world query numbered.distinct clients
    refine ⟨fun _ => ?_, fun exit => absurd (ending.symm.trans exit) (by decide)⟩
    refine ⟨before.phaseEnd, news, ⟨quiet, query, before.log, logged⟩, fun id member => ?_, asking⟩
    rw [serial]
    exact numbered.fresh id member

theorem left_move (recorded : Recorded before) (ending : before.phase = .endSession)
    (finished : before.Finished) : Recorded (before.endPhase world) := by
  obtain ⟨exit, quits, quiet, logged⟩ := @endPhase_leaves before world ending
  obtain ⟨asked, since, entered, _, asking⟩ := recorded.inside ending
  refine ⟨fun ending => absurd (exit.symm.trans ending) (by decide), fun _ => ?_⟩
  refine ⟨asked, before.phaseEnd, since, ⟨ending, quits, before.log, quiet, logged, entered⟩,
    fun idle => ?_⟩
  rcases finished with ⟨nobody, _⟩ | empty | excused
  · refine .inr fun client stored => ?_
    have counted := (asking idle).counted client stored
    rw [nobody, List.count_nil] at counted
    exact ⟨List.eq_nil_of_length_eq_zero (Nat.le_zero.mp counted),
      (asking idle).written client stored⟩
  · refine .inr fun client stored => ?_
    rw [show before.phaseEnd.clients = [] from empty] at stored
    cases stored
  · exact .inl (entered.excused excused)

theorem joined (recorded : Recorded before) : Recorded before.acceptXsmpConnection := by
  refine ⟨fun ending => ?_, fun exit => recorded.left exit⟩
  · obtain ⟨asked, since, entered, known, asking⟩ := recorded.inside ending
    exact ⟨asked, since, entered, fun id member => Nat.lt_succ_of_lt (known id member),
      fun idle => (asking idle).joined known⟩

theorem move (numbered : Numbered before) (moved : Move world before after)
    (recorded : Recorded before) : Recorded after := by
  induction moved with
  | refl => exact recorded
  | trans first _ earlier later => exact later (numbered.move first) (earlier numbered recorded)
  | @outside before after fewer other phase exits =>
      refine ⟨fun ending => absurd ending other, fun exit => ?_⟩
      obtain ⟨news, quiet, logged⟩ := exits exit
      have was : before.phase = .exit := by
        rcases phase with same | running
        · exact same.symm.trans exit
        · cases running.symm.trans exit
      obtain ⟨asked, ended, since, left, answered⟩ := recorded.left was
      exact ⟨asked, ended, since, logged ▸ left.later quiet, answered⟩
  | still ending same =>
      obtain ⟨news, quiet, logged⟩ := same.log
      exact recorded.inside_move ending same.fewer same.phase ⟨news, quiet, logged,
        fun _ _ asking => asking.later same.clients same.queryClients⟩
  | @touched before after id update ending keeps same =>
      obtain ⟨news, quiet, logged⟩ := same.log
      have fewer := fewer_touched (fun client stored hit => (keeps client stored hit).id) same
      exact recorded.inside_move ending fewer same.phase ⟨news, quiet, logged,
        fun _ _ asking => (asking.touched keeps).later same.clients same.queryClients⟩
  | @answered before after id update ending answers same =>
      obtain ⟨news, quiet, logged⟩ := same.log
      have fewer := fewer_answered (fun client stored hit => (answers client stored hit).id) same
      exact recorded.inside_move ending fewer same.phase ⟨news, quiet, logged,
        fun _ _ asking => (asking.answered answers).later same.clients same.queryClients⟩
  | deferred ending id =>
      exact recorded.inside_move ending (.of_eq rfl rfl) rfl
        ⟨[], nofun, rfl, fun _ _ asking => { asking with }⟩
  | @lastAsked before ending nobody some_ =>
      obtain ⟨waiting, _, core⟩ := @core_doPhaseEndSessionPart2 world before some_
      obtain ⟨news, quiet, logged⟩ := @log_doPhaseEndSessionPart2 before world some_
      refine recorded.inside_move ending (fewer_lastAsked some_) (congrArg Core.phase core)
        ⟨news, quiet, logged, fun asked since asking => ?_⟩
      obtain ⟨others, _, othersLogged, rest⟩ :=
        @Asking.lastAsked before asked since world asking numbered.distinct some_
      have unique : others = news := List.append_cancel_right (othersLogged.symm.trans logged)
      exact unique ▸ rest
  | removed ending id =>
      exact recorded.inside_move ending (fewer_removed id) rfl
        ⟨[], nofun, rfl, fun _ _ asking => asking.removed id⟩
  | joined => exact recorded.joined
  | entered query => exact entered numbered query
  | left ending finished => exact recorded.left_move ending finished

end Recorded

/-- The client asked to be last when the record was `base`: in the phase it is still
to be asked, or has been sent the request of the second part since. -/
inductive AsksLast (id : Nat) (base : List Effect) (state : State) : Prop
  | inside {since : List Effect} (ending : state.phase = .endSession)
      (known : id < state.clientSerial) (quiet : Quiet since)
      (logged : state.log = since ++ base)
      (owed : id ∈ state.nextQueryClients ∨ state.Written ClientMessage.asksLast [id] since)
  | left {since quits : List Effect} {ended : PhaseEnd} (exit : state.phase = .exit)
      (quiet : Quiet quits) (sinceQuiet : Quiet since)
      (logged : state.log = quits ++ .phaseEnded ended :: (since ++ base))
      (ending : ended.phase = .endSession)
      (sent : Excused (since ++ base) ∨ ∀ client ∈ ended.clients, client.id = id →
        client.hasConnection = true →
        ∃ message, Effect.sent id message ∈ since ∧ message.asksLast = true)
  | cancelled (running : state.phase = .running)

namespace AsksLast

variable {world : World} {before after : State} {id : Nat} {base : List Effect}

theorem inside_move (asks : AsksLast id base before) (ending : before.phase = .endSession)
    (fewer : before.Fewer after) (phase : after.phase = before.phase)
    (log : ∃ news, Quiet news ∧ after.log = news ++ before.log)
    (next : id ∈ before.nextQueryClients → id ∈ after.nextQueryClients)
    (clients : before.ClientsOf after) : AsksLast id base after := by
  obtain ⟨news, quiet, logged⟩ := log
  cases asks with
  | inside _ known sinceQuiet before_ owed =>
      refine .inside (phase.trans ending) (fewer.serial ▸ known) (sinceQuiet.append quiet)
        (by rw [logged, before_, List.append_assoc]) ?_
      exact owed.imp next fun written => written.of_clients clients news
  | left exit => exact absurd (exit.symm.trans ending) (by decide)
  | cancelled running => exact absurd (running.symm.trans ending) (by decide)

theorem lastAsked (asks : AsksLast id base before) (distinct : before.clientIds.Nodup)
    (ending : before.phase = .endSession) (some_ : before.nextQueryClients ≠ []) :
    AsksLast id base (before.doPhaseEndSessionPart2 world) := by
  obtain ⟨waiting, _, core⟩ := @core_doPhaseEndSessionPart2 world before some_
  cases asks with
  | left exit => exact absurd (exit.symm.trans ending) (by decide)
  | cancelled running => exact absurd (running.symm.trans ending) (by decide)
  | @inside since _ known quiet logged owed =>
      -- those asked before stay so, and those that are asked now are all that were noted
      obtain ⟨asked, written, covers⟩ : ∃ asked,
          before.Written ClientMessage.asksLast asked since ∧
            id ∈ before.nextQueryClients.reverse ++ asked := by
        rcases owed with next | written
        · exact ⟨[], fun _ _ absent => absurd absent List.not_mem_nil, by simpa using next⟩
        · exact ⟨[id], written, by simp⟩
      obtain ⟨news, newsQuiet, newsLogged, rest⟩ := @written_askAll before asked since
        ClientMessage.asksLast (before.endSessionFlags world true) distinct
        before.nextQueryClients (fun _ _ called => Client.asksLast_endSession rfl called) written
      have form : before.doPhaseEndSessionPart2 world = { before.nextQueryClients.foldl
          (ask (Client.endSession (before.endSessionFlags world true))) before with
          nextQueryClients := [] } := if_pos some_
      refine .inside ((congrArg Core.phase core).trans ending) ?_ (quiet.append newsQuiet) ?_
        (.inr ?_)
      · have serial : (before.doPhaseEndSessionPart2 world).clientSerial = before.clientSerial :=
          congrArg Core.clientSerial core
        rw [serial]
        exact known
      · rw [List.append_assoc, ← logged]
        exact (congrArg State.log form).trans newsLogged
      · rw [form]
        intro client stored member
        rw [List.mem_singleton.mp member]
        exact List.mem_singleton.mp member ▸ rest client stored
          (List.mem_singleton.mp member ▸ covers)

theorem leaves (asks : AsksLast id base before) (ending : before.phase = .endSession)
    (finished : before.Finished) : AsksLast id base (before.endPhase world) := by
  obtain ⟨exit, quits, quitsQuiet, left⟩ := @endPhase_leaves before world ending
  cases asks with
  | left exit => exact absurd (exit.symm.trans ending) (by decide)
  | cancelled running => exact absurd (running.symm.trans ending) (by decide)
  | @inside since _ known quiet logged owed =>
      refine .left exit quitsQuiet quiet (by rw [left, logged]) ending ?_
      rcases finished with ⟨_, none_⟩ | empty | excused
      · have written := owed.resolve_left (by rw [none_]; exact List.not_mem_nil)
        refine .inr fun client stored same connected => ?_
        rw [← same]
        exact written client stored (by simp [same]) connected
      · refine .inr fun client stored => ?_
        rw [show before.phaseEnd.clients = [] from empty] at stored
        cases stored
      · exact .inl (logged ▸ excused)

theorem joined (asks : AsksLast id base before) : AsksLast id base before.acceptXsmpConnection := by
  cases asks with
  | inside ending known quiet logged owed =>
      refine .inside ending (Nat.lt_succ_of_lt known) quiet logged (owed.imp_right fun written => ?_)
      intro client stored member
      have cases_ : client ∈ before.clients ∨
          client = ⟨before.clientSerial, .xsmp .init none 0 true, "", "", []⟩ := by
        simpa [acceptXsmpConnection, addClient] using stored
      rcases cases_ with old | rfl
      · exact written client old member
      · exact absurd (List.mem_singleton.mp member) (Nat.ne_of_gt known)
  | left exit quiet sinceQuiet logged ending sent =>
      exact .left exit quiet sinceQuiet logged ending sent
  | cancelled running => exact .cancelled running

theorem move (numbered : Numbered before) (moved : Move world before after)
    (asks : AsksLast id base before) : AsksLast id base after := by
  induction moved with
  | refl => exact asks
  | trans first _ earlier later => exact later (numbered.move first) (earlier numbered asks)
  | @outside before after fewer other phase exits =>
      rcases phase with same | running
      · cases asks with
        | inside ending => exact absurd (same.trans ending) other
        | left exit quiet sinceQuiet logged ending sent =>
            obtain ⟨news, newsQuiet, newsLogged⟩ := exits (same.trans exit)
            refine .left (same.trans exit) (quiet.append newsQuiet) sinceQuiet ?_ ending sent
            rw [newsLogged, logged, List.append_assoc]
        | cancelled running => exact .cancelled (same.trans running)
      · exact .cancelled running
  | still ending same =>
      exact asks.inside_move ending same.fewer same.phase same.log
        (fun next => by rw [same.nextQueryClients]; exact next) (.of_eq same.clients)
  | @touched before after id update ending keeps same =>
      have fewer := fewer_touched (fun client stored hit => (keeps client stored hit).id) same
      have clients := @clientsOf_updateClient before id update fun client stored hit =>
        ⟨(keeps client stored hit).id, (keeps client stored hit).connection⟩
      exact asks.inside_move ending fewer same.phase same.log
        (fun next => by rw [same.nextQueryClients]; exact next)
        (ClientsOf.trans clients (.of_eq same.clients))
  | @answered before after id update ending answers same =>
      have fewer := fewer_answered (fun client stored hit => (answers client stored hit).id) same
      have clients := @clientsOf_updateClient before id update fun client stored hit =>
        ⟨(answers client stored hit).id, (answers client stored hit).connection⟩
      exact asks.inside_move ending fewer same.phase same.log
        (fun next => by rw [same.nextQueryClients]; exact next)
        (ClientsOf.trans clients (.of_eq same.clients))
  | deferred ending id =>
      exact asks.inside_move ending (.of_eq rfl rfl) rfl ⟨[], nofun, rfl⟩
        (fun next => List.mem_cons_of_mem _ next) (.of_eq rfl)
  | lastAsked ending nobody some_ => exact asks.lastAsked numbered.distinct ending some_
  | removed ending id =>
      exact asks.inside_move ending (fewer_removed id) rfl
        ⟨[], nofun, rfl⟩ (fun next => next)
        fun client stored => ⟨client, List.mem_of_mem_filter stored, rfl, rfl⟩
  | joined => exact asks.joined
  | entered query =>
      cases asks with
      | inside ending => exact absurd (ending.symm.trans query) (by decide)
      | left exit => exact absurd (exit.symm.trans query) (by decide)
      | cancelled running => exact absurd (running.symm.trans query) (by decide)
  | left ending finished => exact asks.leaves ending finished

end AsksLast

theorem early_routine {before after : Core} (moved : before.Routine after)
    (early : before.phase < .queryEndSession) : after.phase < .queryEndSession := by
  induction moved with
  | trans _ _ first second => exact second (first early)
  | started _ _ starts => exact Nat.lt_of_le_of_lt starts.phase (by decide)
  | _ => exact early

/-- A session that is not ending goes no further than the query in one step. -/
theorem early_turn {world : World} {before : State} {call : Call} {after : Core}
    (shaped : before.core.Shaped) (early : before.phase < .queryEndSession)
    (turn : Turn world before call after) : after.phase ≤ .queryEndSession := by
  have departures : Departures world (fun _ _ => True) (fun _ => True)
      (fun core => core.phase < .queryEndSession) := earlyDepartures
  have notLate : ¬ Phase.queryEndSession ≤ before.phase := Phase.not_query_le.mpr early
  cases turn with
  | routine moved => exact Nat.le_of_lt (early_routine moved early)
  | connected _ _ moved => exact Nat.le_of_lt (early_routine moved early)
  | @answered client response asked answer stored same handled =>
      rw [← same] at shaped
      rw [handled]
      have stillEarly : asked.phase < .queryEndSession := by
        rw [show asked.phase = before.phase from congrArg Core.phase same]
        exact early
      exact Nat.le_of_lt (departures.both.handle trivial trivial ⟨shaped, stillEarly⟩).2
  | called _ late => exact absurd late notLate
  | departed departing =>
      exact Nat.le_of_lt (departures.departed earlyEmptied (fun _ _ => trivial)
        (fun _ _ => trivial) (fun _ _ => trivial) departing ⟨shaped, early⟩).2
  | uninhibited asked found removed =>
      rw [removed]
      exact Nat.le_of_lt (departures.both.removeInhibitors trivial trivial ⟨shaped, early⟩).2
  | @asked leaving mode type dialog running unlocked closed typed same ended =>
      have now : leaving.phase = .running := (congrArg Core.phase same).trans running
      obtain ⟨asked, _, core⟩ := core_endPhase_running now unlocked
      rw [ended, core]
      exact Phase.query_le_query
  | confirmed late => exact absurd late notLate
  | cancelled opened ends => exact absurd (shaped.dialog _ opened ends).1 notLate
  | accepted opened ends => exact absurd (shaped.dialog _ opened ends).1 notLate
  | queryTimedOut _ armed =>
      exact absurd (Phase.queryEndSession_le.mpr (.inl (shaped.asked armed))) notLate
  | phaseTimedOut _ _ ending =>
      exact absurd (Phase.queryEndSession_le.mpr (.inr (.inl ending))) notLate

/-- The clients answer in order, and nothing but an answer, a departure, a timer
or an inhibit dialog bears on the end-session phase. -/
structure AnswersInOrder (before : State) (event : Event) : Prop where
  inOrder : event.call.InOrder before
  keeps : KeepsToAnswers before event

namespace Recorded

variable {before after : State} {event : Event}

theorem of_early {state : State} (early : state.phase ≤ .queryEndSession) : Recorded state := by
  refine elsewhere ?_ ?_ <;> intro phase <;> rw [phase] at early
  · exact absurd early (by decide)
  · exact absurd early (by decide)

theorem step (shaped : before.core.Shaped) (recorded : Recorded before)
    (answers : AnswersInOrder before event) (stepped : before.step event = some after) :
    Recorded after := by
  obtain ⟨fault, turn⟩ := State.step_turn shaped stepped
  by_cases late : Phase.queryEndSession ≤ before.phase
  · have performed : before.perform event.world event.call = some after := by
      rw [State.step, fault] at stepped
      exact stepped
    have moved := perform_move late shaped answers.inOrder answers.keeps performed
    exact move ⟨shaped.distinct, shaped.fresh⟩ moved recorded
  · exact of_early (early_turn shaped (Phase.not_query_le.mp late) turn)

end Recorded

theorem recorded_reached {state : State}
    (reached : managerSystem.ReachableBy AnswersInOrder state) : Recorded state := by
  induction reached with
  | initial first =>
      obtain ⟨world, apps, _, rfl⟩ := first
      have first : (State.created apps).core.phase < .queryEndSession :=
        show Phase.initialization < .queryEndSession by decide
      have early := early_routine (State.start_routine world apps) first
      exact .of_early (Nat.le_of_lt early)
  | step before answers stepped ih =>
      exact ih.step (shaped_reached before.reachable) answers stepped

namespace AsksLast

variable {world : World} {before after state : State} {id : Nat} {base : List Effect}

theorem asked {event : Event} (shaped : before.core.Shaped)
    (ending : before.phase = .endSession) (call : event.call = .saveYourselfPhase2Request id)
    (stepped : before.step event = some after) : AsksLast id before.log after := by
  obtain ⟨world, call_⟩ := event
  obtain rfl : call_ = .saveYourselfPhase2Request id := call
  obtain ⟨fault, _⟩ := State.step_turn shaped stepped
  rw [State.step, fault] at stepped
  obtain ⟨client, found, rfl⟩ := Option.map_eq_some_iff.mp stepped
  obtain ⟨rfl, stored⟩ := xsmpClient?_mem found
  have known := shaped.fresh client.id (List.mem_map_of_mem stored)
  obtain ⟨asked, asks⟩ : ∃ asked, (before.tell (Client.saveCall .save fun save =>
      (save.phase2Requested, [])) client.id).updateClient client.id Client.answered = asked :=
    ⟨_, rfl⟩
  have same := still_saveAnswered (xsmpClient?_stored found) fun save => (save.phase2Requested, [])
  rw [asks] at same
  let taken : State := { asked with queryClients := asked.queryClients.erase client.id }
  have phase : taken.phase = .endSession := same.phase.trans ending
  have serial : taken.clientSerial = before.clientSerial := same.clientSerial
  have form : before.saveYourselfPhase2Request world client =
      (taken.removeInhibitors world (Inhibitor.hasClientId client.id)).answerNoted world
        client.id true := by
    have late : ¬ asked.phase < .queryEndSession := by
      rw [show asked.phase = .endSession from phase]
      decide
    unfold saveYourselfPhase2Request saveAnswered handleClientEndSessionResponse
    rw [asks, if_neg late]
    rfl
  obtain ⟨news, quiet, logged⟩ := same.log
  change AsksLast client.id before.log (before.saveYourselfPhase2Request world client)
  rw [form]
  unfold answerNoted
  rcases @removeInhibitors_cases world taken (Inhibitor.hasClientId client.id) with
    stays | ⟨action, closed, _, _, stays, accepted, leaves⟩
  · obtain ⟨later, laterQuiet, laterLogged⟩ := stays.log
    have stillEnding := stays.phase.trans phase
    obtain ⟨removed, removing⟩ : ∃ removed,
        taken.removeInhibitors world (Inhibitor.hasClientId client.id) = removed := ⟨_, rfl⟩
    rw [removing] at stays laterLogged stillEnding ⊢
    rw [stillEnding]
    dsimp only
    rw [endSessionAnswered_last]
    let noted : State := { removed with nextQueryClients := client.id :: removed.nextQueryClients }
    have ids : noted.clientIds = before.clientIds := by
      rw [show noted.clientIds = removed.clientIds from rfl, stays.clientIds]
      refine same.clientIds.trans (clientIds_updateClient fun one _ _ => ?_)
      exact congrArg Wiring.id (Client.keepsWiring_saveCall _ _ one)
    have notedSerial : noted.clientSerial = before.clientSerial :=
      stays.clientSerial.trans serial
    have numbered : Numbered before := ⟨shaped.distinct, shaped.fresh⟩
    refine move (numbered.of_fewer (.of_eq ids notedSerial))
      (@nextPart_move world noted stillEnding) ?_
    refine .inside stillEnding (notedSerial ▸ known) (quiet.append laterQuiet) ?_
      (.inl List.mem_cons_self)
    change removed.log = later ++ news ++ before.log
    rw [laterLogged, List.append_assoc]
    exact congrArg (later ++ ·) logged
  · obtain ⟨later, laterQuiet, laterLogged⟩ := stays.log
    obtain ⟨exit, quits, quitsQuiet, left⟩ :=
      @endPhase_leaves closed world (stays.phase.trans phase)
    have since : closed.log = later ++ news ++ before.log := by
      rw [laterLogged, List.append_assoc]
      exact congrArg (later ++ ·) logged
    have ends : closed.phaseEnd.phase = .endSession := stays.phase.trans phase
    rw [leaves, exit]
    refine .left exit quitsQuiet (quiet.append laterQuiet) ?_ ends (.inl (.inr ⟨action, ?_⟩))
    · rw [left, since]
    · rw [← since]
      exact accepted

theorem run {events : List Event} (reached : managerSystem.Reachable before)
    (meets : managerSystem.Meets
      (fun state event => state.phase = .endSession ∧ AnswersInOrder state event) before events)
    (run : managerSystem.run before events = some after) (asks : AsksLast id base before) :
    AsksLast id base after := by
  let Kept : State → Prop := fun state => managerSystem.Reachable state ∧ AsksLast id base state
  have both : Kept after := by
    refine System.Meets.invariant (fun before event after (holds : Kept before) answers stepped =>
      (?_ : Kept after)) meets run ⟨reached, asks⟩
    have shaped := shaped_reached holds.1
    refine ⟨.step holds.1 trivial stepped, ?_⟩
    have late := Phase.queryEndSession_le.mpr (.inr (.inl answers.1))
    have performed : before.perform event.world event.call = some after := by
      have step : before.step event = some after := stepped
      rw [State.step, (State.step_turn shaped stepped).1] at step
      exact step
    exact move ⟨shaped.distinct, shaped.fresh⟩
      (perform_move late shaped answers.2.inOrder answers.2.keeps performed) holds.2
  exact both.2

end AsksLast

/-- In every run whose clients answer in order, and whose queries end with idle
clients: in the end-session phase a client that owes an answer owes it to a
request of that phase; where the phase has ended, other than by its timeout or
the acceptance of an inhibit dialog, every client that is left has answered the
request it has been sent; and one that has asked to be last has by then been
sent the request of the second part. -/
theorem end_session_answered {state : State}
    (reached : managerSystem.ReachableBy AnswersInOrder state) :
    (state.phase = .endSession → ∃ asked since, Entered asked since state.log ∧
      (asked.Idle → ∀ client ∈ state.clients,
        client.unanswered.length ≤ state.queryClients.count client.id ∧
        ∀ request ∈ client.unanswered, request.endsSession = true)) ∧
    (state.phase = .exit → ∃ asked ended since, Left asked ended since state.log ∧
      (asked.Idle → ¬ Accepted since → ¬ TimedOut since → ended.Answered asked since)) ∧
    ∀ (id : Nat) (event : Event) (next : State), state.phase = .endSession →
      event.call = .saveYourselfPhase2Request id → state.step event = some next →
      ∀ (events : List Event) (finish : State), managerSystem.Meets
        (fun before event => before.phase = .endSession ∧ AnswersInOrder before event) next events →
      managerSystem.run next events = some finish → finish.phase = .exit →
      ∃ quits ended since, Quiet quits ∧ Quiet since ∧ ended.phase = .endSession ∧
        finish.log = quits ++ .phaseEnded ended :: (since ++ state.log) ∧
        (¬ Accepted (since ++ state.log) → ¬ TimedOut (since ++ state.log) →
          ∀ client ∈ ended.clients, client.id = id → client.hasConnection = true →
          ∃ message, Effect.sent id message ∈ since ∧ message.asksLast = true) := by
  have recorded := recorded_reached reached
  refine ⟨fun ending => ?_, fun exit => ?_, ?_⟩
  · obtain ⟨asked, since, entered, _, asking⟩ := recorded.inside ending
    exact ⟨asked, since, entered, fun idle client stored =>
      ⟨(asking idle).counted client stored, ((asking idle).ending client stored).requests⟩⟩
  · obtain ⟨asked, ended, since, left, answered⟩ := recorded.left exit
    refine ⟨asked, ended, since, left, fun idle unaccepted inTime => ?_⟩
    rcases answered idle with (timedOut | accepted) | all
    · exact absurd timedOut inTime
    · exact absurd accepted unaccepted
    · exact all
  · intro id event next ending call stepped events finish meets run exit
    have shaped := shaped_reached reached.reachable
    have stepReached : managerSystem.Reachable next := .step reached.reachable trivial stepped
    cases AsksLast.run stepReached meets run (AsksLast.asked shaped ending call stepped) with
    | inside still => exact absurd (still.symm.trans exit) (by decide)
    | cancelled running => exact absurd (running.symm.trans exit) (by decide)
    | @left since quits ended _ quiet sinceQuiet logged ends sent =>
        refine ⟨quits, ended, since, quiet, sinceQuiet, ends, logged, fun unaccepted inTime => ?_⟩
        rcases sent with (timedOut | accepted) | sent
        · exact absurd timedOut inTime
        · exact absurd accepted unaccepted
        · exact sent

/-- Two clients are logged out of by force, and answer the query when it has timed out. -/
def lateAnswers : List Call :=
  [.registerClient "" "" ":1.1", .registerClient "" "" ":1.2", .logout 2, .queryEndSessionTimeout,
    .endSessionResponse 1 true "", .endSessionResponse 2 true ""]

/-- Their answers are taken for those to the request of the end-session phase,
which neither of them has answered when the phase ends. -/
theorem late_answers_end_session :
    ∃ state, afterCalls lateAnswers = some state ∧
      managerSystem.ReachableBy (fun before event => event.call.InOrder before) state ∧
      state.phase = .exit ∧ .phaseTimedOut .endSession ∉ state.log ∧
      ∃ ended, .phaseEnded ended ∈ state.log ∧ ended.phase = .endSession ∧
        ended.clients.map Client.unanswered = [[.endSession], [.endSession]] := by
  obtain ⟨state, run⟩ : ∃ state, afterCalls lateAnswers = some state := ⟨_, rfl⟩
  refine ⟨state, run, afterCalls_reached ?_ run, ?_⟩
  · refine ⟨trivial, fun one stepped => ?_⟩
    cases stepped
    refine ⟨trivial, fun two stepped => ?_⟩
    cases stepped
    refine ⟨trivial, fun asked stepped => ?_⟩
    cases stepped
    refine ⟨trivial, fun ended stepped => ?_⟩
    cases stepped
    refine ⟨Call.inOrder_endSessionResponse (by decide), fun first stepped => ?_⟩
    cases stepped
    exact ⟨Call.inOrder_endSessionResponse (by decide), fun _ _ => trivial⟩
  · cases run
    exact ⟨rfl, by decide, _, .tail _ (.tail _ (.tail _ (.head _))), rfl, rfl⟩

/-- A client that answers the query and then the request to end the session. -/
def answeredLogout : List Call :=
  [.registerClient "" "" ":1.1", .logout 1, .endSessionResponse 1 true "",
    .endSessionResponse 1 true ""]

theorem answered_logout_ends :
    ∃ state, afterCalls answeredLogout = some state ∧ state.phase = .exit ∧
      ∃ asked ended since, Left asked ended since state.log ∧
        asked.clientIds = [1] ∧ ended.clientIds = [1] ∧ ended.Answered asked since := by
  obtain ⟨state, run⟩ : ∃ state, afterCalls answeredLogout = some state := ⟨_, rfl⟩
  have inOrder : managerSystem.ReachableBy AnswersInOrder state := by
    refine afterCalls_reached ?_ run
    refine ⟨⟨trivial, nofun, nofun⟩, fun one stepped => ?_⟩
    cases stepped
    refine ⟨⟨trivial, nofun, nofun⟩, fun asked stepped => ?_⟩
    cases stepped
    refine ⟨⟨Call.inOrder_endSessionResponse (by decide), nofun, nofun⟩, fun ended stepped => ?_⟩
    cases stepped
    exact ⟨⟨Call.inOrder_endSessionResponse (by decide), nofun,
      fun _ _ _ _ opened => by cases opened⟩, fun _ _ => trivial⟩
  have exit : state.phase = .exit := by
    cases run
    rfl
  -- The record splits in one way, so the phase is the one that is read off the run here.
  have read : ∃ asked ended since, Left asked ended since state.log ∧
      asked.Idle ∧ ¬ Accepted since ∧ ¬ TimedOut since ∧
      asked.clientIds = [1] ∧ ended.clientIds = [1] := by
    cases run
    refine ⟨_, _, _, ⟨?_, [_, _], _, ?_, rfl, ?_, ?_, _, List.singleton_append.symm⟩, ?_⟩
    · rfl
    · decide
    · decide
    · rfl
    · refine ⟨?_, ?_, ?_, rfl, rfl⟩
      · intro client stored
        cases List.mem_singleton.mp stored
        exact ⟨rfl, rfl, rfl⟩
      · rintro ⟨action, accepted⟩
        cases accepted
      · exact nofun
  obtain ⟨asked, ended, since, left, idle, unaccepted, inTime, before, after⟩ := read
  obtain ⟨_, _, _, same, answered⟩ := (end_session_answered inOrder).2.1 exit
  obtain ⟨rfl, rfl, rfl⟩ := left.unique same
  exact ⟨state, run, exit, asked, ended, since, left, before, after,
    answered idle unaccepted inTime⟩

end CafeSession.Manager
