import Mathlib.Data.List.Nodup
import CafeSession.Manager.Passages

namespace CafeSession.Manager

open CafeSession.Xsmp

/-- What a client expects of its session. -/
inductive Outlook where
  | resting
  | queried (forceful : Bool)
  | ending
  | stopping
deriving DecidableEq, Repr

namespace Outlook

/-- Stop also comes on its own, when the condition of the client's app fails. -/
def hear : Outlook → ClientMessage → Option Outlook
  | .resting, .queryEndSession flags => some (.queried flags.forceful)
  | .queried forceful, .endSession flags =>
      -- a forced query is not followed by an EndSession that can be refused
      if flags.last || forceful && !flags.forceful then none else some .ending
  | .queried _, .cancelEndSession => some .resting
  | .ending, .cancelEndSession => some .resting
  | .stopping, .cancelEndSession => some .resting
  | .resting, .stop => some .resting
  | .queried forceful, .stop => some (.queried forceful)
  | .ending, .stop => some .stopping
  | .stopping, .stop => some .stopping
  | _, _ => none

/-- What a client makes of the signals it has heard, oldest first. -/
def heard (signals : List ClientMessage) : Option Outlook :=
  signals.foldlM hear .resting

theorem heard_snoc {signals : List ClientMessage} {outlook : Outlook}
    (before : heard signals = some outlook) (message : ClientMessage) :
    heard (signals ++ [message]) = outlook.hear message := by
  rw [heard, List.foldlM_append]
  change (heard signals).bind _ = _
  rw [before]
  exact bind_pure (outlook.hear message)

/-- What a client of the store expects while the session manager is in the phase. -/
def Meets (phase : Phase) (mode : LogoutMode) : Outlook → Prop
  | .resting => phase < .queryEndSession
  | .queried forceful => phase = .queryEndSession ∧ (forceful = true → mode = .force)
  | .ending => phase = .endSession
  | .stopping => phase = .endSession ∨ phase = .exit

variable {phase : Phase} {mode : LogoutMode} {outlook : Outlook}

theorem Meets.resting (meets : outlook.Meets phase mode) (early : phase < .queryEndSession) :
    outlook = .resting := by
  have late : ∀ other : Phase, .queryEndSession ≤ other → phase ≠ other := by
    rintro other late rfl
    exact Nat.not_le_of_lt early late
  cases outlook with
  | resting => rfl
  | queried forceful => exact absurd meets.1 (late _ Phase.query_le_query)
  | ending => exact absurd meets (late _ Phase.query_le_endSession)
  | stopping =>
      rcases meets with ending | exiting
      · exact absurd ending (late _ Phase.query_le_endSession)
      · exact absurd exiting (late _ Phase.query_le_exit)

theorem Meets.queried (meets : outlook.Meets .queryEndSession mode) :
    ∃ forceful, outlook = .queried forceful ∧ (forceful = true → mode = .force) := by
  have late : ¬ Phase.queryEndSession < .queryEndSession := by decide
  cases outlook with
  | resting => exact absurd meets late
  | queried forceful => exact ⟨forceful, rfl, meets.2⟩
  | ending => cases meets
  | stopping => rcases meets with ending | exiting <;> contradiction

/-- From the query on CancelEndSession takes the client back. -/
theorem Meets.cancel (meets : outlook.Meets phase mode) (late : .queryEndSession ≤ phase) :
    outlook.hear .cancelEndSession = some .resting := by
  cases outlook with
  | resting => exact absurd late (Nat.not_le_of_lt meets)
  | queried _ => rfl
  | ending => rfl
  | stopping => rfl

theorem Meets.stop (meets : outlook.Meets phase mode) :
    ∃ after, outlook.hear .stop = some after ∧ after.Meets phase mode ∧
      (phase = .endSession → after = .stopping) := by
  have late : ¬ Phase.endSession < .queryEndSession := by decide
  cases outlook with
  | resting =>
      refine ⟨.resting, rfl, meets, fun ending => ?_⟩
      rw [ending] at meets
      exact absurd meets late
  | queried forceful =>
      refine ⟨.queried forceful, rfl, meets, fun ending => ?_⟩
      cases meets.1.symm.trans ending
  | ending => exact ⟨.stopping, rfl, .inl meets, fun _ => rfl⟩
  | stopping => exact ⟨.stopping, rfl, meets, fun _ => rfl⟩

/-- The mode of the logout only counts in the query. -/
theorem Meets.moded {other : LogoutMode} (meets : outlook.Meets phase mode)
    (forced : .queryEndSession ≤ phase → mode = .force → other = .force) :
    outlook.Meets phase other := by
  cases outlook with
  | queried forceful =>
      have late : Phase.queryEndSession ≤ phase := meets.1 ▸ Phase.query_le_query
      exact ⟨meets.1, fun force => forced late (meets.2 force)⟩
  | _ => exact meets

end Outlook

def ClientMessage.isSignal : ClientMessage → Bool
  | .sms _ => false
  | _ => true

/-- The signal, when the effect is one sent to the client. -/
def Effect.signalTo (id : Nat) : Effect → Option ClientMessage
  | .sent client message => if client = id ∧ message.isSignal = true then some message else none
  | _ => none

/-- The id of a client and whether it is a D-Bus client. -/
def Client.line (client : Client) : Nat × Bool := (client.id, client.isDBus)

namespace State

/-- The signals that have been sent to the client, oldest first. -/
def signalsTo (id : Nat) (state : State) : List ClientMessage :=
  (state.log.filterMap (Effect.signalTo id)).reverse

def lines (state : State) : List (Nat × Bool) := state.clients.map Client.line

theorem clientIds_lines (state : State) : state.lines.map Prod.fst = state.clientIds := by
  simp only [lines, clientIds, List.map_map]
  rfl

theorem lines_nil {state : State} (empty : state.clients = []) : state.lines = [] := by
  rw [lines, empty]
  rfl

theorem mem_lines_client {id : Nat} {client : Client} {state : State}
    (distinct : state.clientIds.Nodup) (found : state.client? id = some client) (dbus : Bool) :
    (id, dbus) ∈ state.lines ↔ client.isDBus = dbus := by
  have member := List.mem_of_find?_eq_some found
  have named := client?_id found
  constructor
  · intro listed
    obtain ⟨other, stored, same⟩ := List.mem_map.mp listed
    have sameId : other.id = client.id := (congrArg Prod.fst same).trans named.symm
    have one := List.inj_on_of_nodup_map distinct stored member sameId
    rw [← one]
    exact congrArg Prod.snd same
  · intro same
    exact List.mem_map.mpr ⟨client, member, Prod.ext named same⟩

theorem client?_of_lines {id : Nat} {dbus : Bool} {state : State}
    (listed : (id, dbus) ∈ state.lines) : ∃ client, state.client? id = some client := by
  obtain ⟨client, stored, same⟩ := List.mem_map.mp listed
  have named : (client.id == id) = true := by
    rw [beq_iff_eq]
    exact congrArg Prod.fst same
  exact Option.isSome_iff_exists.mp (List.find?_isSome.mpr ⟨client, stored, named⟩)

theorem signalsTo_emit {effect : Effect} {id : Nat} (other : effect.signalTo id = none)
    (state : State) : (state.emit effect).signalsTo id = state.signalsTo id := by
  simp only [signalsTo, emit, List.filterMap_cons, other]

theorem signalsTo_written (messages : List ClientMessage) (addressee id : Nat) (state : State) :
    ({ state with
        log := (messages.map (Effect.sent addressee)).reverse ++ state.log } : State).signalsTo id =
      state.signalsTo id ++
        if addressee = id then messages.filter ClientMessage.isSignal else [] := by
  have sent : (messages.map (Effect.sent addressee)).filterMap (Effect.signalTo id) =
      if addressee = id then messages.filter ClientMessage.isSignal else [] := by
    induction messages with
    | nil => simp
    | cons message messages ih =>
        rw [List.map_cons, List.filterMap_cons, List.filter_cons, ih]
        by_cases same : addressee = id <;> by_cases signal : message.isSignal = true <;>
          simp [Effect.signalTo, same, signal]
  simp only [signalsTo, List.filterMap_append, List.filterMap_reverse, sent, List.reverse_append,
    List.reverse_reverse]

end State

/-- The call sends a D-Bus client the signal and an XSMP client none. -/
structure Signalling (call : Client → Except String (Client × List ClientMessage))
    (message : ClientMessage) : Prop where
  wiring : KeepsWiring call
  signal : message.isSignal = true
  dbus : ∀ client, client.isDBus = true → ∃ left, call client = .ok (left, [message])
  xsmp : ∀ client left messages, client.isDBus = false → call client = .ok (left, messages) →
    messages.filter ClientMessage.isSignal = []

/-- The call sends no client a signal. -/
def Silenced (call : Client → Except String (Client × List ClientMessage)) : Prop :=
  ∀ client left messages, call client = .ok (left, messages) →
    messages.filter ClientMessage.isSignal = []

theorem silent_sms (messages : List SmsMessage) :
    (messages.map ClientMessage.sms).filter ClientMessage.isSignal = [] := by
  induction messages with
  | nil => rfl
  | cons message messages ih => exact ih

/-- What a call is on the two kinds of clients makes it a signalling one. -/
theorem Signalling.of_transports
    {call : Client → Except String (Client × List ClientMessage)} {message : ClientMessage}
    (wiring : KeepsWiring call) (signal : message.isSignal = true)
    (dbus : ∀ id name startupId appId unanswered, ∃ left,
      call ⟨id, .dbus name, startupId, appId, unanswered⟩ = .ok (left, [message]))
    (xsmp : ∀ id save queued handlers connected startupId appId unanswered,
      ∃ (result : Except String (SaveState × List SmsMessage)) (stored : _ → Client),
        call ⟨id, .xsmp save queued handlers connected, startupId, appId, unanswered⟩ =
          result.map fun done => (stored done, done.2.map ClientMessage.sms)) :
    Signalling call message where
  wiring := wiring
  signal := signal
  dbus := by
    rintro ⟨id, transport, startupId, appId, unanswered⟩ kind
    cases transport with
    | dbus name => exact dbus id name startupId appId unanswered
    | xsmp => cases kind
  xsmp := by
    rintro ⟨id, transport, startupId, appId, unanswered⟩ left messages kind called
    cases transport with
    | dbus name => cases kind
    | xsmp save queued handlers connected =>
        obtain ⟨result, stored, same⟩ :=
          xsmp id save queued handlers connected startupId appId unanswered
        rw [same] at called
        cases result with
        | error _ => cases called
        | ok done =>
            cases called
            exact silent_sms done.2

namespace Client

theorem signalling_queryEndSession (flags : EndSessionFlags) :
    Signalling (queryEndSession flags) (.queryEndSession flags) :=
  .of_transports (keepsWiring_queryEndSession flags) rfl (fun _ _ _ _ _ => ⟨_, rfl⟩)
    (fun _ _ _ _ _ _ _ _ => ⟨_, _, rfl⟩)

theorem signalling_endSession (flags : EndSessionFlags) :
    Signalling (endSession flags) (.endSession flags) :=
  .of_transports (keepsWiring_endSession flags) rfl (fun _ _ _ _ _ => ⟨_, rfl⟩)
    (fun _ _ _ _ _ _ _ _ => ⟨_, _, rfl⟩)

theorem signalling_cancelEndSession : Signalling cancelEndSession .cancelEndSession :=
  .of_transports keepsWiring_cancelEndSession rfl (fun _ _ _ _ _ => ⟨_, rfl⟩)
    (fun _ _ _ _ _ _ _ _ => ⟨_, _, rfl⟩)

theorem signalling_stop : Signalling stop .stop :=
  .of_transports keepsWiring_stop rfl (fun _ _ _ _ _ => ⟨_, rfl⟩)
    (fun _ _ _ _ _ _ _ _ => ⟨_, _, rfl⟩)

theorem silenced_saveCall (request : Request)
    (call : SaveState → SaveState × List SmsMessage) : Silenced (saveCall request call) := by
  rintro ⟨id, transport, startupId, appId, unanswered⟩ left messages called
  cases transport with
  | dbus name =>
      cases called
      rfl
  | xsmp save queued handlers connected =>
      cases called
      exact silent_sms _

theorem silenced_doneFinished : Silenced doneFinished := by
  rintro ⟨id, transport, startupId, appId, unanswered⟩ left messages called
  cases transport with
  | dbus name =>
      cases called
      rfl
  | xsmp save queued handlers connected =>
      cases called
      exact silent_sms _

end Client

end CafeSession.Manager
