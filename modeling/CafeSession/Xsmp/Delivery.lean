import CafeSession.Xsmp.Accounting

namespace CafeSession.Xsmp

open CafeSession.Transition

namespace Client

/-- The request that an event hands to `do_save_yourself`. -/
def requested : Event → Option Request
  | .queryEndSession flags => some (queryRequest flags)
  | .endSession flags => if flags.last then none else some (endRequest flags)
  | .saveYourselfRequest shutdown global =>
      match SaveState.requestKind shutdown global with
      | .checkpoint => some checkpointRequest
      | .logout | .ignored => none
  | _ => none

theorem requested_types {event : Event} {request : Request} (asks : requested event = some request) :
    request.saveType = smSaveGlobal ∨ request.saveType = smSaveLocal ∨
      request.saveType = smSaveBoth := by
  cases event with
  | queryEndSession flags =>
      cases asks
      exact .inl rfl
  | endSession flags =>
      simp only [requested, Option.ite_none_left_eq_some, Option.some.injEq] at asks
      obtain ⟨_, rfl⟩ := asks
      cases save : flags.save <;> simp [endRequest, SaveState.endRequest, save]
  | saveYourselfRequest shutdown global =>
      cases kind : SaveState.requestKind shutdown global with
      | checkpoint =>
          simp only [requested, kind, Option.some.injEq] at asks
          subst asks
          exact .inr (.inl rfl)
      | logout | ignored => simp [requested, kind] at asks
  | registerClient _ _ | cancelEndSession | saveYourselfPhase2Request | interactRequest
  | interactDone _ | saveYourselfDone _ | responseHandled => simp [requested] at asks

/-- A request reaches `do_save_yourself`, unless the client has no connection. -/
theorem step_requested_cases {before after : Client} {event : Event} {request : Request}
    (asks : requested event = some request) (stepped : before.step event = some after) :
    after = before.request request ∨ before.save.conn = false ∧ after = before := by
  cases event with
  | queryEndSession flags =>
      simp only [requested, Option.some.injEq] at asks
      rw [step_queryEndSession, Option.some.injEq, asks] at stepped
      split_ifs at stepped with conn
      · exact .inl stepped.symm
      · exact .inr ⟨by simpa using conn, stepped.symm⟩
  | endSession flags =>
      simp only [requested, Option.ite_none_left_eq_some, Option.some.injEq] at asks
      obtain ⟨last, rfl⟩ := asks
      rw [step_endSession, Option.some.injEq, if_neg last] at stepped
      split_ifs at stepped with conn
      · exact .inl stepped.symm
      · exact .inr ⟨by simpa using conn, stepped.symm⟩
  | saveYourselfRequest shutdown global =>
      cases kind : SaveState.requestKind shutdown global with
      | checkpoint =>
          simp only [requested, kind, Option.some.injEq] at asks
          simp only [Client.step, kind, Option.ite_none_left_eq_some, Option.some.injEq] at stepped
          exact .inl (asks ▸ stepped.2.symm)
      | logout | ignored => simp [requested, kind] at asks
  | registerClient _ _ | cancelEndSession | saveYourselfPhase2Request | interactRequest
  | interactDone _ | saveYourselfDone _ | responseHandled => simp [requested] at asks

theorem step_requested {before after : Client} {event : Event} {request : Request}
    (conn : before.save.conn = true) (asks : requested event = some request)
    (stepped : before.step event = some after) : after = before.request request := by
  rcases step_requested_cases asks stepped with asked | ⟨lost, _⟩
  · exact asked
  · rw [conn] at lost
    cases lost

/-- The request stays queued, and a Done that is being handled cannot take it. -/
def Waiting (request : Request) (client : Client) : Prop :=
  client.queued = some request ∧
    (client.inDone = true → client.save.currentSaveYourself ≠ noSave)

/-- The Done that will send the queued request is being handled. -/
def Held (request : Request) (client : Client) : Prop :=
  client.queued = some request ∧ client.inDone = true ∧
    client.save.currentSaveYourself = noSave

/-- Neither a Done nor a cancellation. -/
def keepsWaiting : Event → Bool
  | .saveYourselfDone _ | .cancelEndSession => false
  | _ => true

/-- What the manager does while the response of a Done is handled, other than cancelling. -/
def keepsHeld : Event → Bool
  | .responseHandled | .cancelEndSession => false
  | _ => true

theorem queued_eq_some {client : Client} {request : Request} :
    client.queued = some request ↔
      client.save.nextSaveYourself = request.saveType ∧
        client.save.nextSaveYourselfAllowInteract = request.allowInteract ∧
        request.saveType ≠ noSave := by
  obtain ⟨saveType, allowInteract⟩ := request
  by_cases empty : client.save.nextSaveYourself = noSave
  · simp only [queued, empty, ↓reduceIte, reduceCtorEq, false_iff, not_and]
    intro same _
    simp [same]
  · simp only [queued, empty, ↓reduceIte, Option.some.injEq, Request.mk.injEq]
    constructor
    · rintro ⟨rfl, rfl⟩
      exact ⟨rfl, rfl, empty⟩
    · rintro ⟨same, sameInteract, _⟩
      exact ⟨same, sameInteract⟩

/-- With a request in the queue, a further one is redundant. -/
theorem request_queued {client : Client} {waiting other : Request}
    (queued : client.queued = some waiting) : client.request other = client.ask other := by
  have filled : client.save.nextSaveYourself ≠ noSave := by
    obtain ⟨same, _, real⟩ := queued_eq_some.mp queued
    rwa [same]
  simp [request, write, ask, SaveState.doSaveYourself, filled]

/-- The manager's calls and the checkpoint of a client with a queued request
leave its save state as it is. -/
theorem requested_queued {before after : Client} {event : Event} {waiting other : Request}
    (queued : before.queued = some waiting) (asks : requested event = some other)
    (stepped : before.step event = some after) :
    after.save = before.save ∧ after.inDone = before.inDone := by
  rcases step_requested_cases asks stepped with asked | ⟨_, same⟩
  · rw [asked, request_queued queued]
    exact ⟨rfl, rfl⟩
  · rw [same]
    exact ⟨rfl, rfl⟩

theorem Waiting.of_save {before after : Client} {request : Request}
    (waiting : before.Waiting request)
    (next : after.save.nextSaveYourself = before.save.nextSaveYourself)
    (interact : after.save.nextSaveYourselfAllowInteract =
      before.save.nextSaveYourselfAllowInteract)
    (running : after.inDone = true → after.save.currentSaveYourself ≠ noSave) :
    after.Waiting request := by
  refine ⟨?_, running⟩
  rw [queued_eq_some, next, interact]
  exact queued_eq_some.mp waiting.1

theorem Waiting.step {before after : Client} {event : Event} {request : Request}
    (waiting : before.Waiting request) (keeps : keepsWaiting event = true)
    (stepped : before.step event = some after) : after.Waiting request := by
  cases asks : requested event with
  | some other =>
      obtain ⟨save, inDone⟩ := requested_queued waiting.1 asks stepped
      exact waiting.of_save (by rw [save]) (by rw [save]) (by rw [save, inDone]; exact waiting.2)
  | none =>
      cases event with
      | registerClient previousId id =>
          by_cases busy : before.inDone = true
          · simp [Client.step, busy] at stepped
          have slots : (before.save.registerClient previousId id).1.nextSaveYourself =
                before.save.nextSaveYourself ∧
              (before.save.registerClient previousId id).1.nextSaveYourselfAllowInteract =
                before.save.nextSaveYourselfAllowInteract := by
            unfold SaveState.registerClient
            split_ifs <;> exact ⟨rfl, rfl⟩
          have result : after.save = (before.save.registerClient previousId id).1 ∧
              after.inDone = before.inDone := by
            simp only [Client.step, busy, Bool.false_eq_true, ↓reduceIte] at stepped
            split_ifs at stepped <;> cases stepped <;> exact ⟨rfl, rfl⟩
          refine waiting.of_save (by rw [result.1, slots.1]) (by rw [result.1, slots.2]) ?_
          intro inDone
          exact absurd (result.2 ▸ inDone) busy
      | queryEndSession flags => simp [requested] at asks
      | endSession flags =>
          rw [step_endSession, Option.some.injEq] at stepped
          subst stepped
          have last : flags.last = true := by
            by_contra notLast
            simp [requested, notLast] at asks
          simp only [last, ↓reduceIte]
          split_ifs <;> exact waiting
      | cancelEndSession => simp [keepsWaiting] at keeps
      | saveYourselfRequest shutdown global =>
          cases kind : SaveState.requestKind shutdown global with
          | checkpoint => simp [requested, kind] at asks
          | logout | ignored =>
              simp only [Client.step, kind, Option.ite_none_left_eq_some,
                Option.some.injEq] at stepped
              obtain ⟨_, rfl⟩ := stepped
              exact waiting
      | saveYourselfPhase2Request =>
          simp only [Client.step, Option.ite_none_left_eq_some, Option.some.injEq] at stepped
          obtain ⟨idle, rfl⟩ := stepped
          exact waiting.of_save rfl rfl (fun inDone => absurd inDone idle)
      | interactRequest | interactDone cancelShutdown =>
          simp only [Client.step, Option.ite_none_left_eq_some, Option.some.injEq] at stepped
          obtain ⟨_, rfl⟩ := stepped
          exact waiting
      | saveYourselfDone success => simp [keepsWaiting] at keeps
      | responseHandled =>
          simp only [Client.step, Option.ite_none_right_eq_some, Option.some.injEq] at stepped
          obtain ⟨inDone, rfl⟩ := stepped
          -- another save was started during the emission: the slot is read out and filled again
          have running := waiting.2 inDone
          by_cases zero : before.save.nextSaveYourself = 0
          · exact waiting.of_save (by simp [SaveState.doneFinished, zero])
              (by simp [SaveState.doneFinished, zero]) (by simp)
          · exact waiting.of_save
              (by simp [SaveState.doneFinished, SaveState.doSaveYourself, zero, running])
              (by simp [SaveState.doneFinished, SaveState.doSaveYourself, zero, running])
              (by simp)

theorem Waiting.done {before after : Client} {success : Bool} {request : Request}
    (waiting : before.Waiting request)
    (stepped : before.step (.saveYourselfDone success) = some after) : after.Held request := by
  simp only [Client.step, Option.ite_none_left_eq_some, Option.some.injEq] at stepped
  obtain ⟨_, rfl⟩ := stepped
  have slots : before.save.doneReceived.1.nextSaveYourself = before.save.nextSaveYourself ∧
      before.save.doneReceived.1.nextSaveYourselfAllowInteract =
        before.save.nextSaveYourselfAllowInteract ∧
      before.save.doneReceived.1.currentSaveYourself = noSave := by
    by_cases current : before.save.currentSaveYourself = noSave <;>
      simp [SaveState.doneReceived, current]
  refine ⟨?_, rfl, slots.2.2⟩
  rw [queued_eq_some]
  simp only [write_save, slots.1, slots.2.1]
  exact queued_eq_some.mp waiting.1

theorem Held.step {before after : Client} {event : Event} {request : Request}
    (held : before.Held request) (keeps : keepsHeld event = true)
    (stepped : before.step event = some after) : after.Held request := by
  obtain ⟨queued, inDone, idle⟩ := held
  cases asks : requested event with
  | some other =>
      obtain ⟨save, same⟩ := requested_queued queued asks stepped
      refine ⟨?_, by rw [same, inDone], by rw [save, idle]⟩
      rw [queued_eq_some, save]
      exact queued_eq_some.mp queued
  | none =>
      cases event with
      | endSession flags =>
          rw [step_endSession, Option.some.injEq] at stepped
          subst stepped
          have last : flags.last = true := by
            by_contra notLast
            simp [requested, notLast] at asks
          simp only [last, ↓reduceIte]
          split_ifs <;> exact ⟨queued, inDone, idle⟩
      | queryEndSession flags => simp [requested] at asks
      | cancelEndSession | responseHandled => simp [keepsHeld] at keeps
      | registerClient _ _ | saveYourselfRequest _ _ | saveYourselfPhase2Request
      | interactRequest | interactDone _ | saveYourselfDone _ =>
          simp [Client.step, inDone] at stepped

theorem Held.sent {before after : Client} {request : Request} (held : before.Held request)
    (work : before.DoneFindsWork .responseHandled)
    (stepped : before.step .responseHandled = some after) :
    after.sent = request.message :: before.sent := by
  obtain ⟨queued, inDone, idle⟩ := held
  obtain ⟨next, interact, _⟩ := queued_eq_some.mp queued
  have nonzero : before.save.nextSaveYourself ≠ 0 := by
    rcases work with busy | found | found
    · exact absurd idle busy
    · rw [found]; decide
    · rw [found]; decide
  simp only [Client.step, inDone, ↓reduceIte, Option.some.injEq] at stepped
  subst stepped
  rw [next] at nonzero
  simp [write, SaveState.doneFinished, SaveState.doSaveYourself, nonzero, idle, next, interact,
    Request.message]

/-- A request that found the queue free behind a running save is waiting. -/
theorem requested_waiting {before after : Client} {event : Event} {request : Request}
    (conn : before.save.conn = true) (running : before.save.currentSaveYourself ≠ noSave)
    (free : before.save.nextSaveYourself = noSave) (asks : requested event = some request)
    (stepped : before.step event = some after) : after.Waiting request := by
  have real : request.saveType ≠ noSave := by
    rcases requested_types asks with type | type | type <;> rw [type] <;> decide
  rw [step_requested conn asks stepped]
  refine ⟨queued_eq_some.mpr ⟨?_, ?_, real⟩, fun _ => ?_⟩ <;>
    simp [Client.request, write, ask, SaveState.doSaveYourself, free, running]

theorem conn_step {before after : Client} {event : Event} (conn : before.save.conn = true)
    (stepped : before.step event = some after) : after.save.conn = true := by
  have kept : ∀ saveType allowInteract,
      (before.save.doSaveYourself saveType allowInteract).1.conn = true := by
    intro saveType allowInteract
    unfold SaveState.doSaveYourself
    split_ifs <;> exact conn
  have requested : ∀ request, (before.request request).save.conn = true := fun request =>
    kept request.saveType request.allowInteract
  cases event with
  | registerClient previousId id =>
      have result : (before.save.registerClient previousId id).1.conn = true := by
        unfold SaveState.registerClient
        split_ifs <;> exact conn
      simp only [Client.step] at stepped
      split_ifs at stepped <;> cases stepped <;> exact result
  | queryEndSession flags =>
      simp only [step_queryEndSession, conn, ↓reduceIte, Option.some.injEq] at stepped
      exact stepped ▸ requested _
  | endSession flags =>
      simp only [step_endSession, conn, ↓reduceIte, Option.some.injEq] at stepped
      subst stepped
      split_ifs
      · exact conn
      · exact requested _
  | cancelEndSession =>
      simp only [step_cancelEndSession, conn, ↓reduceIte, Option.some.injEq] at stepped
      subst stepped
      rfl
  | saveYourselfRequest shutdown global =>
      simp only [Client.step, Option.ite_none_left_eq_some] at stepped
      obtain ⟨_, stepped⟩ := stepped
      cases kind : SaveState.requestKind shutdown global with
      | checkpoint =>
          simp only [kind, Option.some.injEq] at stepped
          exact stepped ▸ requested _
      | logout | ignored =>
          simp only [kind, Option.some.injEq] at stepped
          exact stepped ▸ conn
  | saveYourselfPhase2Request | interactRequest | interactDone cancelShutdown =>
      simp only [Client.step, Option.ite_none_left_eq_some, Option.some.injEq] at stepped
      obtain ⟨_, rfl⟩ := stepped
      exact conn
  | saveYourselfDone success =>
      simp only [Client.step, Option.ite_none_left_eq_some, Option.some.injEq] at stepped
      obtain ⟨_, rfl⟩ := stepped
      by_cases current : before.save.currentSaveYourself = noSave <;>
        simp [SaveState.doneReceived, current, conn]
  | responseHandled =>
      simp only [Client.step, Option.ite_none_right_eq_some, Option.some.injEq] at stepped
      obtain ⟨_, rfl⟩ := stepped
      simp only [write_save, SaveState.doneFinished, SaveState.doSaveYourself]
      split_ifs <;> exact conn

theorem step_requests {before after : Client} {event : Event}
    (stepped : before.step event = some after) :
    after.requests = before.requests ∨
      (∃ request, (request = initialRequest ∨ requested event = some request) ∧
        after.requests = request :: before.requests) := by
  cases event with
  | registerClient previousId id =>
      simp only [Client.step] at stepped
      split_ifs at stepped <;> cases stepped
      · exact .inr ⟨initialRequest, .inl rfl, rfl⟩
      · exact .inl rfl
  | queryEndSession flags =>
      rw [step_queryEndSession, Option.some.injEq] at stepped
      subst stepped
      split_ifs
      · exact .inr ⟨queryRequest flags, .inr rfl, rfl⟩
      · exact .inl rfl
  | endSession flags =>
      rw [step_endSession, Option.some.injEq] at stepped
      subst stepped
      split_ifs with conn last
      · exact .inl rfl
      · exact .inr ⟨endRequest flags, .inr (by simp [requested, last]), rfl⟩
      · exact .inl rfl
  | saveYourselfRequest shutdown global =>
      simp only [Client.step, Option.ite_none_left_eq_some] at stepped
      obtain ⟨_, stepped⟩ := stepped
      cases kind : SaveState.requestKind shutdown global with
      | checkpoint =>
          simp only [kind, Option.some.injEq] at stepped
          subst stepped
          exact .inr ⟨checkpointRequest, .inr (by simp [requested, kind]), rfl⟩
      | logout | ignored =>
          simp only [kind, Option.some.injEq] at stepped
          subst stepped
          exact .inl rfl
  | cancelEndSession =>
      rw [step_cancelEndSession, Option.some.injEq] at stepped
      subst stepped
      split_ifs <;> exact .inl rfl
  | saveYourselfPhase2Request | interactRequest | interactDone cancelShutdown
  | saveYourselfDone success =>
      simp only [Client.step, Option.ite_none_left_eq_some, Option.some.injEq] at stepped
      obtain ⟨_, rfl⟩ := stepped
      exact .inl rfl
  | responseHandled =>
      simp only [Client.step, Option.ite_none_right_eq_some, Option.some.injEq] at stepped
      obtain ⟨_, rfl⟩ := stepped
      exact .inl rfl

/-- One of the three save types of SMlib. -/
def Request.Typed (request : Request) : Prop :=
  request.saveType = smSaveGlobal ∨ request.saveType = smSaveLocal ∨
    request.saveType = smSaveBoth

/-- What a run keeps: the account, the types of the requests and the connection. -/
structure Sound (client : Client) : Prop where
  accounted : client.Accounted
  typed : ∀ request ∈ client.requests, Request.Typed request
  connected : client.save.conn = true

theorem Sound.step {before after : Client} {event : Event} (sound : before.Sound)
    (work : before.DoneFindsWork event) (stepped : before.step event = some after) :
    after.Sound where
  accounted := sound.accounted.step work stepped
  connected := conn_step sound.connected stepped
  typed := by
    rcases step_requests stepped with same | ⟨request, origin, added⟩
    · rw [same]
      exact sound.typed
    · rw [added]
      intro member isMember
      rcases List.mem_cons.mp isMember with rfl | old
      · rcases origin with rfl | asks
        · exact .inr (.inl rfl)
        · exact requested_types asks
      · exact sound.typed member old

theorem Sound.reached {client : Client} (reached : clientSystem.ReachableBy DoneFindsWork client) :
    client.Sound := by
  apply reached.invariant
  · rintro _ rfl
    exact ⟨accounted_init, by simp [init], rfl⟩
  · intro before event after sound work stepped
    exact sound.step work stepped

/-- Every SaveYourself on the wire answers a request of its own and has one of
the three save types. -/
def SavesAnswerRequests (client : Client) : Prop :=
  client.saves.Subperm client.asked ∧
    ∀ message ∈ client.saves, ∃ request, Request.Typed request ∧ message = request.message

/-- A request that `event` queues in this state is the next message written
once the next SaveYourselfDone has been handled, whatever happens before that
Done and while it is handled, short of a cancellation. -/
def NextDoneSends (client : Client) (event : Event) (request : Request) (success : Bool)
    (before during : List Event) : Prop :=
  requested event = some request →
  client.save.currentSaveYourself ≠ noSave → client.save.nextSaveYourself = noSave →
  (∀ event ∈ before, keepsWaiting event = true) → (∀ event ∈ during, keepsHeld event = true) →
  ∀ answered finish,
    clientSystem.run client (event :: (before ++ .saveYourselfDone success :: during)) =
      some answered →
    answered.step .responseHandled = some finish →
    finish.sent = request.message :: answered.sent

theorem Sound.savesAnswerRequests {client : Client} (sound : client.Sound) :
    client.SavesAnswerRequests := by
  have covered : client.saves.Subperm client.asked := by
    rw [List.subperm_ext_iff]
    intro message _
    have := sound.accounted message
    omega
  refine ⟨covered, fun message member => ?_⟩
  obtain ⟨request, isRequest, rfl⟩ := List.mem_map.mp (covered.subset member)
  exact ⟨request, sound.typed request isRequest, rfl⟩

/-- What a queued request goes through until the handlers of the next Done return. -/
theorem held_of_run {queued answered : Client} {request : Request} {success : Bool}
    {before during : List Event} (waiting : queued.Waiting request)
    (waits : ∀ event ∈ before, keepsWaiting event = true)
    (holds : ∀ event ∈ during, keepsHeld event = true)
    (run : clientSystem.run queued (before ++ .saveYourselfDone success :: during) =
      some answered) : answered.Held request := by
  obtain ⟨asked, first, rest⟩ := System.run_append_some run
  obtain ⟨done, answering, last⟩ := Option.bind_eq_some_iff.mp rest
  have waitMeets : clientSystem.Meets (fun _ event => keepsWaiting event = true) queued before :=
    System.meets_of_forall fun event member _ => waits event member
  have stillWaiting : asked.Waiting request :=
    waitMeets.invariant (fun _ _ _ waiting keeps stepped => waiting.step keeps stepped) first waiting
  have holdMeets : clientSystem.Meets (fun _ event => keepsHeld event = true) done during :=
    System.meets_of_forall fun event member _ => holds event member
  exact holdMeets.invariant (fun _ _ _ held keeps stepped => held.step keeps stepped) last
    (@Waiting.done _ _ success _ stillWaiting answering)

/-- In every run whose Done messages all find work, nothing is invented, lost
or sent twice. -/
theorem saves_match_requests {client : Client}
    (reached : clientSystem.ReachableBy DoneFindsWork client) :
    client.SavesAnswerRequests ∧
      ∀ event request success before during,
        clientSystem.Meets DoneFindsWork client
          (event :: (before ++ .saveYourselfDone success :: during) ++ [.responseHandled]) →
        client.NextDoneSends event request success before during := by
  have sound := Sound.reached reached
  refine ⟨sound.savesAnswerRequests, ?_⟩
  intro event request success before during meets asks running free waits holds answered finish
    run stepped
  obtain ⟨queued, queueing, rest⟩ := Option.bind_eq_some_iff.mp run
  have waiting := requested_waiting sound.connected running free asks queueing
  have held := held_of_run waiting waits holds rest
  exact held.sent (System.meets_append meets run).2.1 stepped

/-- The client after a first registration, with its initial save still to be answered. -/
def registered (id : String) : Client :=
  (init.ask initialRequest).write (init.save.registerClient "" id)

theorem registered_checkpoint :
    (registered "a").SavesAnswerRequests ∧
      (registered "a").NextDoneSends (.saveYourselfRequest false false) checkpointRequest true
        [] [] := by
  have reached : clientSystem.ReachableBy DoneFindsWork (registered "a") :=
    @System.ReachableBy.step _ _ _ _ _ _ (.registerClient "" "a") (.initial rfl) trivial rfl
  obtain ⟨answers, sends⟩ := saves_match_requests reached
  refine ⟨answers, sends _ _ _ _ _ ?_⟩
  refine ⟨trivial, fun queued queueing => ⟨trivial, fun answered answering => ⟨?_, ?_⟩⟩⟩
  · cases queueing
    cases answering
    exact .inr (.inl rfl)
  · exact fun _ _ => trivial

/-- A Done that finds nothing to do sends a SaveYourself of type -1, and a
queued SmSaveGlobal is not sent at the next Done. -/
theorem idle_done_invents_and_loses :
    (∃ client, clientSystem.run init [.registerClient "" "a", .saveYourselfDone true,
        .responseHandled] = some client ∧ ¬ client.SavesAnswerRequests) ∧
      ∃ client, clientSystem.run init [.registerClient "" "a"] = some client ∧
        ¬ client.NextDoneSends (.queryEndSession {}) ⟨smSaveGlobal, true⟩ true [] [] := by
  refine ⟨⟨_, rfl, ?_⟩, ⟨_, rfl, ?_⟩⟩
  · rintro ⟨covered, _⟩
    exact absurd (covered.count_le (SaveState.message noSave false)) (by decide)
  · intro sends
    have sent := sends rfl (by decide) (by decide) (by simp) (by simp) _ _ rfl rfl
    exact absurd sent (by decide)

end Client

end CafeSession.Xsmp
