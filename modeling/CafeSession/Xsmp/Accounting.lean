import CafeSession.Xsmp.Callbacks

namespace CafeSession.Xsmp

open CafeSession.Transition

namespace Client

def saves (client : Client) : List SmsMessage :=
  client.sent.filter SmsMessage.isSaveYourself

def asked (client : Client) : List SmsMessage :=
  client.requests.map Request.message

def queued (client : Client) : Option Request :=
  if client.save.nextSaveYourself = noSave then none
  else some ⟨client.save.nextSaveYourself, client.save.nextSaveYourselfAllowInteract⟩

def queuedMessages (client : Client) : List SmsMessage :=
  (client.queued.map Request.message).toList

/-- Sent and queued messages are covered by the requests, each by one of its own. -/
def Accounted (client : Client) : Prop :=
  ∀ message, client.saves.count message + client.queuedMessages.count message ≤
    client.asked.count message

/-- A SaveYourselfDone finds work when, once its response has been handled,
another save is already running or a queued one is of type local or both. -/
def DoneFindsWork (client : Client) : Event → Prop
  | .responseHandled =>
      client.save.currentSaveYourself ≠ noSave ∨
        client.save.nextSaveYourself = smSaveLocal ∨ client.save.nextSaveYourself = smSaveBoth
  | _ => True

@[simp] theorem isSaveYourself_message (saveType : Int) (allowInteract : Bool) :
    (SaveState.message saveType allowInteract).isSaveYourself = true := by
  unfold SaveState.message
  split_ifs <;> rfl

theorem requestType_ne (flags : EndSessionFlags) :
    (queryRequest flags).saveType ≠ noSave ∧ (endRequest flags).saveType ≠ noSave := by
  obtain ⟨forceful, save, last⟩ := flags
  cases save <;> simp [queryRequest, endRequest, SaveState.queryRequest, SaveState.endRequest,
    smSaveGlobal, smSaveBoth, noSave]

section Accounting

variable {client : Client}

@[simp] theorem write_save (result : SaveState × List SmsMessage) :
    (client.write result).save = result.1 := rfl

/-- The three branches of `do_save_yourself`. -/
theorem doSaveYourself_cases (state : SaveState) (saveType : Int) (allowInteract : Bool) :
    (state.nextSaveYourself ≠ noSave ∧
      state.doSaveYourself saveType allowInteract = (state, [])) ∨
    (state.nextSaveYourself = noSave ∧ state.currentSaveYourself ≠ noSave ∧
      state.doSaveYourself saveType allowInteract =
        ({ state with
            nextSaveYourself := saveType
            nextSaveYourselfAllowInteract := allowInteract }, [])) ∨
    (state.nextSaveYourself = noSave ∧ state.currentSaveYourself = noSave ∧
      state.doSaveYourself saveType allowInteract =
        ({ state with
            currentSaveYourself := saveType
            nextSaveYourself := noSave
            nextSaveYourselfAllowInteract := false },
          [SaveState.message saveType allowInteract])) := by
  by_cases next : state.nextSaveYourself = noSave
  · by_cases current : state.currentSaveYourself = noSave
    · exact .inr (.inr ⟨next, current, by simp [SaveState.doSaveYourself, next, current]⟩)
    · exact .inr (.inl ⟨next, current, by simp [SaveState.doSaveYourself, next, current]⟩)
  · exact .inl ⟨next, by simp [SaveState.doSaveYourself, next]⟩

theorem accounted_init : Accounted .init := by
  intro message
  simp [saves, queuedMessages, queued, asked, init, SaveState.init]

theorem Accounted.request (accounted : client.Accounted) {request : Request}
    (real : request.saveType ≠ noSave) : (client.request request).Accounted := by
  intro message
  have before := accounted message
  obtain ⟨next, done⟩ | ⟨next, current, done⟩ | ⟨next, current, done⟩ :=
    doSaveYourself_cases client.save request.saveType request.allowInteract
  · simp only [Client.request, done, saves, queuedMessages, queued, asked, write, ask,
      List.reverse_nil, List.nil_append, List.map_cons, List.count_cons] at before ⊢
    omega
  · simp only [saves, queuedMessages, queued, asked, next, ↓reduceIte, Option.map_none,
      Option.toList_none, List.count_nil] at before
    simp only [Client.request, done, saves, queuedMessages, queued, asked, write, ask, real,
      ↓reduceIte, Option.map_some, Option.toList_some, Request.message, List.reverse_nil,
      List.nil_append, List.map_cons, List.count_cons, List.count_nil]
    omega
  · simp only [saves, queuedMessages, queued, asked, next, ↓reduceIte, Option.map_none,
      Option.toList_none, List.count_nil] at before
    simp only [Client.request, done, saves, queuedMessages, queued, asked, write, ask,
      ↓reduceIte, Option.map_none, Option.toList_none, Request.message, List.reverse_cons,
      List.reverse_nil, List.nil_append, List.singleton_append, isSaveYourself_message,
      List.filter_cons_of_pos, List.map_cons, List.count_cons, List.count_nil]
    omega

/-- Writing no SaveYourself and leaving the queue alone, or emptying it, keeps the account. -/
theorem Accounted.write_quiet (accounted : client.Accounted) {result : SaveState × List SmsMessage}
    (queue : result.1.nextSaveYourself = noSave ∨
      result.1.nextSaveYourself = client.save.nextSaveYourself ∧
        result.1.nextSaveYourselfAllowInteract = client.save.nextSaveYourselfAllowInteract)
    (silent : ∀ message ∈ result.2, message.isSaveYourself = false) :
    (client.write result).Accounted := by
  intro message
  have before := accounted message
  have none_sent : result.2.reverse.filter SmsMessage.isSaveYourself = [] := by
    rw [List.filter_eq_nil_iff]
    intro sent member
    simp [silent sent (List.mem_reverse.mp member)]
  have saves_eq : (client.write result).saves = client.saves := by
    simp only [saves, write, List.filter_append, none_sent, List.nil_append]
  have asked_eq : (client.write result).asked = client.asked := rfl
  rw [saves_eq, asked_eq]
  obtain emptied | ⟨same, sameInteract⟩ := queue
  · simp only [queuedMessages, queued, write_save, emptied, ↓reduceIte, Option.map_none,
      Option.toList_none, List.count_nil]
    omega
  · simpa only [queuedMessages, queued, write_save, same, sameInteract] using before

/-- The initial save is sent whatever the slots hold, so it pays for itself. -/
theorem Accounted.registerClient (accounted : client.Accounted) {id : String} (known : id ≠ "") :
    ((client.ask initialRequest).write (client.save.registerClient "" id)).Accounted := by
  intro message
  have before := accounted message
  have saves_eq : ((client.ask initialRequest).write (client.save.registerClient "" id)).saves =
      initialRequest.message :: client.saves := by
    simp only [saves, SaveState.registerClient, known, ↓reduceIte, write, ask]
    rfl
  have asked_eq : ((client.ask initialRequest).write (client.save.registerClient "" id)).asked =
      initialRequest.message :: client.asked := rfl
  have queue_eq : ((client.ask initialRequest).write
      (client.save.registerClient "" id)).queuedMessages = client.queuedMessages := by
    simp only [queuedMessages, queued, write_save, SaveState.registerClient, known, ↓reduceIte]
  rw [saves_eq, asked_eq, queue_eq, List.count_cons, List.count_cons]
  omega

theorem Accounted.doneFinished (accounted : client.Accounted)
    (work : client.DoneFindsWork .responseHandled) :
    (client.write client.save.doneFinished).Accounted := by
  by_cases idle : client.save.currentSaveYourself = noSave
  · have next : client.save.nextSaveYourself = smSaveLocal ∨
        client.save.nextSaveYourself = smSaveBoth := by
      rcases work with busy | next
      · exact absurd idle busy
      · exact next
    have filled : client.save.nextSaveYourself ≠ noSave := by
      rcases next with next | next <;> rw [next] <;> decide
    have nonzero : client.save.nextSaveYourself ≠ 0 := by
      rcases next with next | next <;> rw [next] <;> decide
    intro message
    have before := accounted message
    simp only [saves, queuedMessages, queued, filled, ↓reduceIte, Option.map_some,
      Option.toList_some, Request.message, List.count_cons, List.count_nil] at before
    simp only [saves, queuedMessages, queued, SaveState.doneFinished, nonzero, ne_eq,
      not_false_eq_true, not_true_eq_false, ↓reduceIte, SaveState.doSaveYourself, idle, write,
      List.reverse_cons, List.reverse_nil, List.nil_append, List.singleton_append,
      isSaveYourself_message, List.filter_cons_of_pos, Option.map_none, Option.toList_none,
      List.count_cons, List.count_nil]
    simp only [asked] at before ⊢
    omega
  · -- another save runs: the queue is read out and put back unchanged
    apply accounted.write_quiet
    · by_cases zero : client.save.nextSaveYourself = 0 <;>
        simp [SaveState.doneFinished, SaveState.doSaveYourself, zero, idle]
    · by_cases zero : client.save.nextSaveYourself = 0 <;>
        simp [SaveState.doneFinished, SaveState.doSaveYourself, zero, idle]

end Accounting

theorem step_queryEndSession (client : Client) (flags : EndSessionFlags) :
    client.step (.queryEndSession flags) =
      some (if client.save.conn then client.request (queryRequest flags) else client) := by
  cases conn : client.save.conn <;>
    simp [step, SaveState.queryEndSession, conn, request, ask, write, queryRequest]

theorem step_endSession (client : Client) (flags : EndSessionFlags) :
    client.step (.endSession flags) =
      some (if client.save.conn then
        if flags.last then client.write (client.save, [.saveYourselfPhase2])
        else client.request (endRequest flags)
      else client) := by
  cases conn : client.save.conn <;> cases last : flags.last <;>
    simp [step, SaveState.endSession, conn, last, request, ask, write, endRequest]

theorem step_cancelEndSession (client : Client) :
    client.step .cancelEndSession =
      some (if client.save.conn then
        client.write ({ client.save with
          currentSaveYourself := noSave
          nextSaveYourself := noSave
          nextSaveYourselfAllowInteract := false }, [.shutdownCancelled])
      else client) := by
  cases conn : client.save.conn <;> simp [step, SaveState.cancelEndSession, conn]

theorem Accounted.step {before after : Client} {event : Event} (accounted : before.Accounted)
    (work : before.DoneFindsWork event) (stepped : before.step event = some after) :
    after.Accounted := by
  cases event with
  | registerClient previousId id =>
      by_cases busy : before.inDone = true
      · simp [Client.step, busy] at stepped
      by_cases fresh : id ≠ "" ∧ previousId = ""
      · obtain ⟨known, rfl⟩ := fresh
        simp only [Client.step, busy, known, ne_eq, not_false_eq_true, and_self, ↓reduceIte,
          Bool.false_eq_true, Option.some.injEq] at stepped
        subst stepped
        exact accounted.registerClient known
      · simp only [Client.step, busy, fresh, Bool.false_eq_true, ↓reduceIte,
          Option.some.injEq] at stepped
        subst stepped
        have result : before.save.registerClient previousId id = (before.save, []) ∨
            before.save.registerClient previousId id =
              (before.save, [.registerClientReply id]) := by
          by_cases empty : id = ""
          · simp [SaveState.registerClient, empty]
          · have known : previousId ≠ "" := fun none => fresh ⟨empty, none⟩
            simp [SaveState.registerClient, empty, known]
        apply accounted.write_quiet
        · rcases result with result | result <;> simp [result]
        · rcases result with result | result <;> simp [result, SmsMessage.isSaveYourself]
  | queryEndSession flags =>
      rw [step_queryEndSession, Option.some.injEq] at stepped
      subst stepped
      split_ifs
      · exact accounted.request (requestType_ne flags).1
      · exact accounted
  | endSession flags =>
      rw [step_endSession, Option.some.injEq] at stepped
      subst stepped
      split_ifs
      · exact accounted.write_quiet (by simp) (by simp [SmsMessage.isSaveYourself])
      · exact accounted.request (requestType_ne flags).2
      · exact accounted
  | cancelEndSession =>
      rw [step_cancelEndSession, Option.some.injEq] at stepped
      subst stepped
      split_ifs
      · exact accounted.write_quiet (by simp) (by simp [SmsMessage.isSaveYourself])
      · exact accounted
  | saveYourselfRequest shutdown global =>
      by_cases busy : before.inDone = true
      · simp [Client.step, busy] at stepped
      cases kind : SaveState.requestKind shutdown global with
      | checkpoint =>
          simp only [Client.step, busy, kind, Bool.false_eq_true, ↓reduceIte,
            Option.some.injEq] at stepped
          subst stepped
          exact accounted.request (by decide)
      | logout | ignored =>
          simp only [Client.step, busy, kind, Bool.false_eq_true, ↓reduceIte,
            Option.some.injEq] at stepped
          subst stepped
          exact accounted
  | saveYourselfPhase2Request =>
      simp only [Client.step, Option.ite_none_left_eq_some, Option.some.injEq] at stepped
      obtain ⟨_, rfl⟩ := stepped
      exact accounted
  | interactRequest =>
      simp only [Client.step, Option.ite_none_left_eq_some, Option.some.injEq] at stepped
      obtain ⟨_, rfl⟩ := stepped
      exact accounted.write_quiet (by simp) (by simp [SmsMessage.isSaveYourself])
  | interactDone cancelShutdown =>
      simp only [Client.step, Option.ite_none_left_eq_some, Option.some.injEq] at stepped
      obtain ⟨_, rfl⟩ := stepped
      exact accounted
  | saveYourselfDone success =>
      simp only [Client.step, Option.ite_none_left_eq_some, Option.some.injEq] at stepped
      obtain ⟨_, rfl⟩ := stepped
      have written : (before.write before.save.doneReceived).Accounted := by
        unfold SaveState.doneReceived
        split_ifs
        · exact accounted.write_quiet (by simp) (by simp [SmsMessage.isSaveYourself])
        · exact accounted.write_quiet (by simp) (by simp)
      exact written
  | responseHandled =>
      simp only [Client.step, Option.ite_none_right_eq_some, Option.some.injEq] at stepped
      obtain ⟨_, rfl⟩ := stepped
      exact accounted.doneFinished work

end Client

end CafeSession.Xsmp
