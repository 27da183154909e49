import CafeSession.Xsmp.Delivery

namespace CafeSession.Xsmp

open CafeSession.Transition

/-- What matters on the connection of the client. -/
inductive Mark where
  | doneReceived
  | phase2Requested
  | sent (message : SmsMessage)
deriving DecidableEq, Repr

namespace Mark

def isSave : Mark → Bool
  | .sent message => message.isSaveYourself
  | _ => false

/-- No SaveYourself is outstanding after it. -/
def settles : Mark → Bool
  | .doneReceived | .sent .shutdownCancelled => true
  | _ => false

end Mark

/-- A SaveYourself that the client has not answered with SaveYourselfDone, and
whether it has asked for phase 2. -/
structure Owed where
  saveType : Int
  phase2 : Bool
deriving DecidableEq, Repr

/-- What `current_save_yourself` holds of it. -/
def Owed.slot (owed : Owed) : Int :=
  if owed.phase2 then noSave else owed.saveType

/-- The newest mark comes first. -/
def owed : List Mark → Option Owed
  | [] => none
  | .doneReceived :: _ => none
  | .phase2Requested :: earlier => (owed earlier).map fun one => { one with phase2 := true }
  | .sent message :: earlier =>
      match message with
      | .saveYourself saveType .. => some ⟨saveType, false⟩
      | .shutdownCancelled => none
      | _ => owed earlier

/-- Between two SaveYourselfs there is a SaveYourselfDone or a ShutdownCancelled. -/
def Separated (marks : List Mark) : Prop :=
  ∀ later second between first earlier,
    marks = later ++ second :: between ++ first :: earlier →
      first.isSave = true → second.isSave = true → ∃ mark ∈ between, mark.settles = true

section Marks

variable {mark : Mark} {marks : List Mark}

theorem owed_settled (settles : mark.settles = true) : owed (mark :: marks) = none := by
  cases mark with
  | doneReceived => rfl
  | phase2Requested => cases settles
  | sent message => cases message <;> first | rfl | cases settles

theorem owed_other (save : mark.isSave = false) (settles : mark.settles = false) :
    owed (mark :: marks) = none ↔ owed marks = none := by
  cases mark with
  | doneReceived => cases settles
  | phase2Requested => simp [owed]
  | sent message =>
      cases message with
      | saveYourself => cases save
      | shutdownCancelled => cases settles
      | _ => rfl

theorem owed_save (save : mark.isSave = true) : owed (mark :: marks) ≠ none := by
  cases mark with
  | doneReceived | phase2Requested => cases save
  | sent message => cases message <;> first | exact Option.some_ne_none _ | cases save

/-- Nothing is owed when every SaveYourself has been settled since. -/
theorem owed_eq_none_iff : owed marks = none ↔
    ∀ between first earlier, marks = between ++ first :: earlier → first.isSave = true →
      ∃ mark ∈ between, mark.settles = true := by
  induction marks with
  | nil => simp [owed]
  | cons head marks ih =>
      cases save : head.isSave with
      | true =>
          refine iff_of_false (owed_save save) fun all => ?_
          obtain ⟨mark, inside, _⟩ := all [] head marks rfl save
          cases inside
      | false =>
          -- The SaveYourself is an earlier one, and what is newer includes the head.
          have inside {between first earlier}
              (split : head :: marks = between ++ first :: earlier) (saves : first.isSave = true) :
              ∃ rest, between = head :: rest ∧ marks = rest ++ first :: earlier := by
            cases between with
            | nil =>
                obtain ⟨rfl, _⟩ := List.cons.inj split
                rw [save] at saves
                cases saves
            | cons one rest =>
                obtain ⟨rfl, tail⟩ := List.cons.inj split
                exact ⟨rest, rfl, tail⟩
          cases settles : head.settles with
          | true =>
              refine iff_of_true (owed_settled settles) fun between first earlier split saves => ?_
              obtain ⟨rest, rfl, _⟩ := inside split saves
              exact ⟨head, List.mem_cons_self, settles⟩
          | false =>
              rw [owed_other save settles, ih]
              constructor
              · intro all between first earlier split saves
                obtain ⟨rest, rfl, tail⟩ := inside split saves
                obtain ⟨mark, member, hit⟩ := all rest first earlier tail saves
                exact ⟨mark, List.mem_cons_of_mem _ member, hit⟩
              · intro all between first earlier split saves
                obtain ⟨mark, member, hit⟩ :=
                  all (head :: between) first earlier (by rw [split]; rfl) saves
                rcases List.mem_cons.mp member with rfl | member
                · rw [settles] at hit
                  cases hit
                · exact ⟨mark, member, hit⟩

theorem separated_cons : Separated (mark :: marks) ↔
    Separated marks ∧ (mark.isSave = true → owed marks = none) := by
  constructor
  · intro separated
    constructor
    · intro later second between first earlier split
      exact separated (mark :: later) second between first earlier (by rw [split]; rfl)
    · intro save
      rw [owed_eq_none_iff]
      intro between first earlier split saves
      exact separated [] mark between first earlier (by rw [split]; rfl) saves save
  · intro ⟨separated, fresh⟩ later second between first earlier split saves again
    cases later with
    | nil =>
        obtain ⟨rfl, tail⟩ := List.cons.inj split
        exact owed_eq_none_iff.mp (fresh again) between first earlier tail saves
    | cons one later =>
        obtain ⟨rfl, tail⟩ := List.cons.inj split
        exact separated later second between first earlier tail saves again

theorem Separated.of_append {newer : List Mark} (separated : Separated (newer ++ marks)) :
    Separated marks := by
  induction newer with
  | nil => exact separated
  | cons mark newer ih => exact ih (separated_cons.mp separated).1

theorem separated_nil : Separated [] := by
  intro later second between first earlier split
  simp at split

end Marks

structure Watched where
  client : Client
  marks : List Mark

/-- The message of the client that the event is. -/
def received : Event → List Mark
  | .saveYourselfDone _ => [.doneReceived]
  | .saveYourselfPhase2Request => [.phase2Requested]
  | _ => []

/-- What was written on the connection since, newest first. -/
def Client.news (before after : Client) : List SmsMessage :=
  after.sent.take (after.sent.length - before.sent.length)

namespace Watched

def init : Watched where
  client := .init
  marks := []

def next (before : Watched) (event : Event) (after : Client) : Watched where
  client := after
  marks := (before.client.news after).map .sent ++ received event ++ before.marks

def step (before : Watched) (event : Event) : Option Watched :=
  (before.client.step event).map (before.next event)

end Watched

/-- The client with its history. -/
def watchedSystem : System Watched Event where
  initial watched := watched = .init
  step := Watched.step

namespace Watched

/-- Nothing is owed when a new client registers, and a client without a queued
save is asked for one only if it owes none that the slot does not hold: neither
the end of a phase 2 nor the answer to a SaveYourself of the type -1. -/
def Prudent (watched : Watched) : Event → Prop
  | .registerClient previousId id => id ≠ "" → previousId = "" → owed watched.marks = none
  | event => ∀ request, Client.requested event = some request →
      watched.client.save.nextSaveYourself = noSave →
        ∀ one ∈ owed watched.marks, one.phase2 = false ∧ one.saveType ≠ noSave

/-- What the slot says about the history. -/
structure Tracked (watched : Watched) : Prop where
  conn : watched.client.save.conn = true
  slot : watched.client.save.currentSaveYourself = (owed watched.marks).elim noSave Owed.slot
  /-- while a Done is handled only the session manager asks for saves -/
  handling : watched.client.inDone = true →
    ∀ one ∈ owed watched.marks, one.phase2 = false ∧ one.saveType ≠ noSave

theorem tracked_init : Tracked .init :=
  ⟨rfl, rfl, nofun⟩

variable {before : Watched} {event : Event} {after : Client}

theorem prudent_requested {watched : Watched} {request : Request}
    (asks : Client.requested event = some request) :
    watched.Prudent event ↔ (watched.client.save.nextSaveYourself = noSave →
      ∀ one ∈ owed watched.marks, one.phase2 = false ∧ one.saveType ≠ noSave) := by
  cases event with
  | registerClient => cases asks
  | _ => simp [Prudent, asks]

theorem received_requested {request : Request} (asks : Client.requested event = some request) :
    received event = [] := by
  cases event <;> first | rfl | cases asks

theorem news_write (client : Client) (same : client.sent = before.client.sent)
    (result : SaveState × List SmsMessage) :
    before.client.news (client.write result) = result.2.reverse := by
  simp [Client.news, Client.write, same]

theorem slot_ne_noSave {one : Owed} :
    one.slot ≠ noSave ↔ one.phase2 = false ∧ one.saveType ≠ noSave := by
  cases phase2 : one.phase2 <;> simp [Owed.slot, phase2]

theorem owed_message (saveType : Int) (allowInteract : Bool) (marks : List Mark) :
    owed (.sent (SaveState.message saveType allowInteract) :: marks) = some ⟨saveType, false⟩ := by
  unfold SaveState.message
  split_ifs with isLocal
  · rw [isLocal]
    rfl
  · rfl
  · rfl

/-- What `do_save_yourself` makes of the history, when the slot is true to it. -/
theorem owed_doSaveYourself {state : SaveState} {marks : List Mark}
    (slot : state.currentSaveYourself = (owed marks).elim noSave Owed.slot)
    (saveType : Int) (allowInteract : Bool) :
    let result := state.doSaveYourself saveType allowInteract
    let after := result.2.reverse.map .sent ++ marks
    result.1.currentSaveYourself = (owed after).elim noSave Owed.slot ∧
      (owed after = owed marks ∨ owed after = some ⟨saveType, false⟩) ∧
      (Separated after ↔ Separated marks ∧ (state.nextSaveYourself = noSave →
        ∀ one ∈ owed marks, one.phase2 = false ∧ one.saveType ≠ noSave)) := by
  have running : state.currentSaveYourself ≠ noSave →
      ∀ one ∈ owed marks, one.phase2 = false ∧ one.saveType ≠ noSave := by
    intro busy one member
    rw [slot, Option.mem_def.mp member] at busy
    exact slot_ne_noSave.mp busy
  obtain ⟨next, done⟩ | ⟨next, current, done⟩ | ⟨next, current, done⟩ :=
    Client.doSaveYourself_cases state saveType allowInteract
  · simp [done, slot, next]
  · simp only [done, List.reverse_nil, List.map_nil, List.nil_append]
    exact ⟨slot, .inl trivial, iff_self_and.mpr fun _ _ => running current⟩
  · have save : (Mark.sent (SaveState.message saveType allowInteract)).isSave = true :=
      Client.isSaveYourself_message saveType allowInteract
    simp only [done, List.reverse_singleton, List.map_singleton, List.singleton_append,
      owed_message, separated_cons, save, next, true_implies]
    refine ⟨rfl, .inr trivial, and_congr_right fun _ => ?_⟩
    -- The slot is empty, so a save that is owed would be one that it does not hold.
    rw [current] at slot
    cases owes : owed marks with
    | none => simp
    | some one =>
        rw [owes] at slot
        refine iff_of_false (Option.some_ne_none one) fun held => ?_
        exact slot_ne_noSave.mpr (held one rfl) slot.symm

theorem Tracked.quiet (tracked : before.Tracked) (heard : received event = [])
    (silent : ∀ message ∈ before.client.news after, message.isSaveYourself = false ∧
      message ≠ .shutdownCancelled)
    (slot : after.save.currentSaveYourself = before.client.save.currentSaveYourself)
    (conn : after.save.conn = true)
    (handling : after.inDone = true → before.client.inDone = true) :
    (before.next event after).Tracked ∧
      (Separated (before.next event after).marks ↔ Separated before.marks) := by
  have same : owed (before.next event after).marks = owed before.marks ∧
      (Separated (before.next event after).marks ↔ Separated before.marks) := by
    simp only [next, heard, List.append_nil]
    generalize before.client.news after = news at silent ⊢
    induction news with
    | nil => exact ⟨rfl, Iff.rfl⟩
    | cons message news ih =>
        obtain ⟨⟨noSave_, notCancelled⟩, rest⟩ := List.forall_mem_cons.mp silent
        obtain ⟨owes, separated⟩ := ih rest
        constructor
        · rw [← owes]
          cases message with
          | saveYourself => cases noSave_
          | shutdownCancelled => exact absurd rfl notCancelled
          | _ => rfl
        · rw [List.map_cons, List.cons_append, separated_cons, separated]
          exact and_iff_left_of_imp fun _ save => absurd (noSave_.symm.trans save) (by decide)
  refine ⟨⟨conn, ?_, ?_⟩, same.2⟩
  · rw [same.1]
    exact slot.trans tracked.slot
  · rw [same.1]
    exact fun inside => tracked.handling (handling inside)

theorem prudent_other (asks : Client.requested event = none)
    (known : ∀ previousId id, event ≠ .registerClient previousId id) (watched : Watched) :
    watched.Prudent event := by
  cases event with
  | registerClient previousId id => exact absurd rfl (known previousId id)
  | _ => simp [Prudent, asks]

theorem Tracked.requested (tracked : before.Tracked) {request : Request}
    (asks : Client.requested event = some request)
    (stepped : before.client.step event = some after) :
    (before.next event after).Tracked ∧ (Separated (before.next event after).marks ↔
      Separated before.marks ∧ before.Prudent event) := by
  rw [prudent_requested asks, Client.step_requested tracked.conn asks stepped]
  obtain ⟨slot, owes, separated⟩ :=
    owed_doSaveYourself tracked.slot request.saveType request.allowInteract
  have marks : (before.next event (before.client.request request)).marks =
      (before.client.save.doSaveYourself request.saveType
        request.allowInteract).2.reverse.map .sent ++ before.marks := by
    rw [next, received_requested asks, List.append_nil, Client.request,
      news_write (before.client.ask request) rfl]
  refine ⟨⟨?_, ?_, ?_⟩, by rw [marks, separated]⟩
  · rw [← Client.step_requested tracked.conn asks stepped]
    exact Client.conn_step tracked.conn stepped
  · rw [marks]
    exact slot
  · intro inside one member
    rw [marks] at member
    rcases owes with same | new
    · exact tracked.handling inside one (same ▸ member)
    · rw [new, Option.mem_def, Option.some.injEq] at member
      subst member
      refine ⟨rfl, ?_⟩
      rcases Client.requested_types asks with type | type | type <;> rw [type] <;> decide

/-- The initial SaveYourself is sent whatever is owed. -/
theorem Tracked.registered (tracked : before.Tracked) {id : String} (known : id ≠ "")
    (stepped : before.client.step (.registerClient "" id) = some after) :
    (before.next (.registerClient "" id) after).Tracked ∧
      (Separated (before.next (.registerClient "" id) after).marks ↔
        Separated before.marks ∧ owed before.marks = none) := by
  simp only [Client.step, known, ne_eq, not_false_eq_true, and_self, ↓reduceIte,
    Option.ite_none_left_eq_some, Option.some.injEq] at stepped
  obtain ⟨outside, rfl⟩ := stepped
  have marks : (before.next (.registerClient "" id) ((before.client.ask
      Client.initialRequest).write (before.client.save.registerClient "" id))).marks =
      .sent (.saveYourself smSaveLocal false .none false) :: .sent (.registerClientReply id) ::
        before.marks := by
    rw [next, news_write (before.client.ask Client.initialRequest) rfl]
    simp [SaveState.registerClient, known, received]
  refine ⟨⟨?_, ?_, fun inside => absurd inside outside⟩, ?_⟩
  · simpa [SaveState.registerClient, known, next] using tracked.conn
  · rw [marks]
    simp [SaveState.registerClient, known, next, owed, Owed.slot]
  · rw [marks, separated_cons, separated_cons]
    simp [Mark.isSave, SmsMessage.isSaveYourself, owed]

/-- After a step that settles what was owed the slot is empty. -/
theorem tracked_settled (owes : owed (before.next event after).marks = none)
    (slot : after.save.currentSaveYourself = noSave) (conn : after.save.conn = true) :
    (before.next event after).Tracked :=
  ⟨conn, by rw [owes]; exact slot, by rw [owes]; exact fun _ => nofun⟩

theorem Tracked.registers (tracked : before.Tracked) {previousId id : String}
    (stepped : before.client.step (.registerClient previousId id) = some after) :
    (before.next (.registerClient previousId id) after).Tracked ∧
      (Separated (before.next (.registerClient previousId id) after).marks ↔
        Separated before.marks ∧ before.Prudent (.registerClient previousId id)) := by
  have conn := Client.conn_step tracked.conn stepped
  by_cases fresh : id ≠ "" ∧ previousId = ""
  · obtain ⟨known, rfl⟩ := fresh
    have free : before.Prudent (.registerClient "" id) ↔ owed before.marks = none := by
      simp [Prudent, known]
    rw [free]
    exact tracked.registered known stepped
  · have free : before.Prudent (.registerClient previousId id) :=
      fun known new => absurd ⟨known, new⟩ fresh
    simp only [Client.step, fresh, if_false, Option.ite_none_left_eq_some,
      Option.some.injEq] at stepped
    obtain ⟨_, rfl⟩ := stepped
    have slot : (before.client.save.registerClient previousId id).1 = before.client.save ∧
        ∀ message ∈ (before.client.save.registerClient previousId id).2,
          message.isSaveYourself = false ∧ message ≠ .shutdownCancelled := by
      unfold SaveState.registerClient
      split_ifs with rejected new
      · exact ⟨rfl, List.forall_mem_nil _⟩
      · exact absurd ⟨rejected, new⟩ fresh
      · simp [SmsMessage.isSaveYourself]
    have kept := @Tracked.quiet before (.registerClient previousId id)
      (before.client.write (before.client.save.registerClient previousId id)) tracked rfl
      (by rw [news_write before.client rfl]; simpa using slot.2)
      (congrArg SaveState.currentSaveYourself slot.1) conn (fun inside => inside)
    exact ⟨kept.1, kept.2.trans (and_iff_left free).symm⟩

/-- The Done callback goes on with the queued save, or with an empty slot that it
takes for one; nothing is owed by then, or a save that the slot holds. -/
theorem Tracked.handled (tracked : before.Tracked) (inside : before.client.inDone = true)
    (conn : before.client.save.doneFinished.1.conn = true) :
    (before.next .responseHandled
        { before.client.write before.client.save.doneFinished with inDone := false }).Tracked ∧
      (Separated (before.next .responseHandled
          { before.client.write before.client.save.doneFinished with inDone := false }).marks ↔
        Separated before.marks) := by
  have marks : (before.next .responseHandled
      { before.client.write before.client.save.doneFinished with inDone := false }).marks =
      before.client.save.doneFinished.2.reverse.map .sent ++ before.marks := by
    simp [next, received, Client.news, Client.write]
  have result : before.client.save.doneFinished.1.currentSaveYourself =
        (owed (before.client.save.doneFinished.2.reverse.map .sent ++ before.marks)).elim
          noSave Owed.slot ∧
      (Separated (before.client.save.doneFinished.2.reverse.map .sent ++ before.marks) ↔
        Separated before.marks) := by
    unfold SaveState.doneFinished
    split_ifs
    · obtain ⟨slot, _, separated⟩ := @owed_doSaveYourself
        { before.client.save with nextSaveYourself := noSave, nextSaveYourselfAllowInteract := true }
        before.marks tracked.slot before.client.save.nextSaveYourself
        before.client.save.nextSaveYourselfAllowInteract
      exact ⟨slot, separated.trans (and_iff_left fun _ => tracked.handling inside)⟩
    · exact ⟨tracked.slot, Iff.rfl⟩
  refine ⟨⟨conn, ?_, fun running => ?_⟩, by rw [marks, result.2]⟩
  · rw [marks]
    exact result.1
  · cases running

theorem Tracked.step (tracked : before.Tracked) {later : Watched}
    (stepped : before.step event = some later) :
    later.Tracked ∧ (Separated later.marks ↔ Separated before.marks ∧ before.Prudent event) := by
  obtain ⟨after, moved, rfl⟩ := Option.map_eq_some_iff.mp stepped
  have conn := Client.conn_step tracked.conn moved
  cases asks : Client.requested event with
  | some request => exact tracked.requested asks moved
  | none =>
      -- Of the other events only a registration may break the order of the saves.
      have quietly (known : ∀ previousId id, event ≠ .registerClient previousId id)
          (kept : (before.next event after).Tracked ∧
            (Separated (before.next event after).marks ↔ Separated before.marks)) :
          (before.next event after).Tracked ∧ (Separated (before.next event after).marks ↔
            Separated before.marks ∧ before.Prudent event) :=
        ⟨kept.1, kept.2.trans (and_iff_left (prudent_other asks known before)).symm⟩
      cases event with
      | registerClient previousId id => exact tracked.registers moved
      | queryEndSession flags => cases asks
      | endSession flags =>
          have last : flags.last = true := by
            by_contra notLast
            simp [Client.requested, notLast] at asks
          simp only [Client.step_endSession, tracked.conn, last, ↓reduceIte,
            Option.some.injEq] at moved
          subst moved
          refine quietly (by simp) (tracked.quiet rfl ?_ rfl conn fun inside => inside)
          rw [news_write before.client rfl]
          simp [SmsMessage.isSaveYourself]
      | cancelEndSession =>
          rw [Client.step_cancelEndSession, if_pos tracked.conn, Option.some.injEq] at moved
          subst moved
          have marks : (before.next .cancelEndSession (before.client.write
              ({ before.client.save with
                  currentSaveYourself := noSave
                  nextSaveYourself := noSave
                  nextSaveYourselfAllowInteract := false }, [.shutdownCancelled]))).marks =
              .sent .shutdownCancelled :: before.marks := by
            rw [next, news_write before.client rfl]
            rfl
          refine quietly (by simp) ⟨tracked_settled (by rw [marks]; rfl) rfl conn, ?_⟩
          rw [marks, separated_cons]
          simp [Mark.isSave, SmsMessage.isSaveYourself]
      | saveYourselfRequest shutdown global =>
          simp only [Client.step, Option.ite_none_left_eq_some] at moved
          cases kind : SaveState.requestKind shutdown global with
          | checkpoint => simp [Client.requested, kind] at asks
          | logout | ignored =>
              simp only [kind, Option.some.injEq] at moved
              obtain ⟨_, rfl⟩ := moved
              exact quietly (by simp) (tracked.quiet rfl (by simp [Client.news]) rfl conn
                fun inside => inside)
      | saveYourselfPhase2Request =>
          simp only [Client.step, Option.ite_none_left_eq_some, Option.some.injEq] at moved
          obtain ⟨outside, rfl⟩ := moved
          have marks : (before.next .saveYourselfPhase2Request { before.client with
              save := before.client.save.phase2Requested }).marks =
              .phase2Requested :: before.marks := by
            simp [next, Client.news, received]
          refine quietly (by simp) ⟨⟨conn, ?_, fun inside => absurd inside outside⟩, ?_⟩
          · rw [marks]
            cases owes : owed before.marks <;>
              simp [owed, owes, next, SaveState.phase2Requested, Owed.slot]
          · rw [marks, separated_cons]
            simp [Mark.isSave]
      | interactRequest =>
          simp only [Client.step, Option.ite_none_left_eq_some, Option.some.injEq] at moved
          obtain ⟨_, rfl⟩ := moved
          refine quietly (by simp) (tracked.quiet rfl ?_ rfl conn fun inside => inside)
          rw [news_write before.client rfl]
          simp [SmsMessage.isSaveYourself]
      | interactDone cancelShutdown =>
          simp only [Client.step, Option.ite_none_left_eq_some, Option.some.injEq] at moved
          obtain ⟨_, rfl⟩ := moved
          exact quietly (by simp) (tracked.quiet rfl (by simp [Client.news]) rfl conn
            fun inside => inside)
      | saveYourselfDone success =>
          simp only [Client.step, Option.ite_none_left_eq_some, Option.some.injEq] at moved
          obtain ⟨_, rfl⟩ := moved
          have marks : (before.next (.saveYourselfDone success)
              { before.client.write before.client.save.doneReceived with inDone := true }).marks =
              before.client.save.doneReceived.2.reverse.map .sent ++ .doneReceived ::
                before.marks := by
            simp [next, received, Client.news, Client.write]
          refine quietly (by simp) ⟨tracked_settled ?_ ?_ conn, ?_⟩
          · rw [marks, SaveState.doneReceived]
            split_ifs <;> rfl
          · simp only [Client.write, SaveState.doneReceived]
            split_ifs with running
            · rfl
            · exact not_not.mp running
          · rw [marks, SaveState.doneReceived]
            split_ifs <;> simp [separated_cons, Mark.isSave, SmsMessage.isSaveYourself]
      | responseHandled =>
          simp only [Client.step, Option.ite_none_right_eq_some, Option.some.injEq] at moved
          obtain ⟨inside, rfl⟩ := moved
          exact quietly (by simp) (tracked.handled inside conn)

end Watched

theorem Separated.phase2 {later between earlier : List Mark} {second : Mark}
    (separated : Separated (later ++ second :: between ++ .phase2Requested :: earlier))
    (owes : owed earlier ≠ none) (save : second.isSave = true) :
    ∃ mark ∈ between, mark.settles = true := by
  by_contra none_
  apply owes
  rw [owed_eq_none_iff]
  intro newer first older split saves
  obtain ⟨mark, member, settles⟩ := separated later second
    (between ++ .phase2Requested :: newer) first older (by simp [split]) saves save
  rcases List.mem_append.mp member with inside | inside
  · exact absurd ⟨mark, inside, settles⟩ none_
  · rcases List.mem_cons.mp inside with rfl | inside
    · cases settles
    · exact ⟨mark, inside, settles⟩

/-- Along a run at most one SaveYourself is outstanding just when every step is
prudent. -/
theorem one_save_outstanding_iff {events : List Event} {finish : Watched}
    (run : watchedSystem.run .init events = some finish) :
    Separated finish.marks ↔ watchedSystem.Meets Watched.Prudent .init events := by
  have kept := fun (before : Watched) (event : Event) (after : Watched)
    (tracked : before.Tracked) (stepped : before.step event = some after) => tracked.step stepped
  have lost (before : Watched) (event : Event) (after : Watched)
      (stepped : before.step event = some after) (separated : Separated after.marks) :
      Separated before.marks := by
    obtain ⟨client, _, rfl⟩ := Option.map_eq_some_iff.mp stepped
    exact separated.of_append
  have along : watchedSystem.Always (fun watched => Separated watched.marks) .init events ↔
      Separated finish.marks := System.always_iff_finish lost run
  rw [← along]
  exact System.always_iff_meets Watched.Tracked _
    (fun _ _ _ tracked stepped => (kept _ _ _ tracked stepped).1)
    (fun _ _ _ tracked separated stepped =>
      (kept _ _ _ tracked stepped).2.trans (and_iff_right separated))
    run Watched.tracked_init separated_nil

def checkpointBeforePhase2 : List Event :=
  [.registerClient "" "a", .saveYourselfRequest false false, .saveYourselfPhase2Request,
    .saveYourselfDone true, .responseHandled]

/-- A checkpoint that is asked for before phase 2 waits for the Done. -/
theorem queued_checkpoint_waits :
    ∃ finish, watchedSystem.run .init checkpointBeforePhase2 = some finish ∧
      Separated finish.marks ∧ finish.marks.countP Mark.isSave = 2 := by
  refine ⟨_, rfl, (@one_save_outstanding_iff checkpointBeforePhase2 _ rfl).mpr ?_, by decide⟩
  refine ⟨fun _ _ => rfl, fun registered first => ⟨?_, fun asked second => ⟨nofun, fun _ _ =>
    ⟨nofun, fun _ _ => ⟨nofun, fun _ _ => trivial⟩⟩⟩⟩⟩
  cases first
  intro request _ _ one owes
  cases owes
  exact ⟨rfl, by decide⟩

/-- One that is asked for after the request for phase 2 does not, nor does one
after a Done that found nothing queued. -/
theorem checkpoint_during_phase2 :
    (∃ finish, watchedSystem.run .init [.registerClient "" "a", .saveYourselfPhase2Request,
        .saveYourselfRequest false false] = some finish ∧ ¬Separated finish.marks) ∧
      ∃ finish, watchedSystem.run .init [.registerClient "" "a", .saveYourselfDone true,
        .responseHandled, .saveYourselfRequest false false] = some finish ∧
          ¬Separated finish.marks := by
  refine ⟨⟨_, rfl, fun separated => ?_⟩, ⟨_, rfl, fun separated => ?_⟩⟩
  · have settled := separated [] _ [.phase2Requested] _ [.sent (.registerClientReply "a")] rfl rfl
      rfl
    exact absurd settled (by decide)
  · have settled := separated [] _ [] _ [.sent .saveComplete, .doneReceived,
      .sent (.saveYourself smSaveLocal false .none false), .sent (.registerClientReply "a")] rfl rfl
      rfl
    exact absurd settled (by decide)

end CafeSession.Xsmp
