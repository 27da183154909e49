import CafeSession.Cdm.Protocol

namespace CafeSession.Cdm

open CafeSession.Autostart CafeSession.Shell CafeSession.Streams CafeSession.Transition

/-- The display manager answers the greeting as itself. -/
def greets (heard : List Bytes) : Bool :=
  (response heard).any (fun text => (ascii "CDM ").isPrefixOf text)

/-- The display manager accepts the cookie. -/
def accepts (heard : List Bytes) : Bool :=
  response heard = some (ascii "OK")

/-- The message that shows a cookie. -/
def shows (cookie : Bytes) : Bytes :=
  msgAuthenticate ++ space :: cookie

def setsAction (action : LogoutAction) : Bytes :=
  msgSetAction ++ space :: action.text

/-- A message that asks the display manager for something. -/
inductive Command : Bytes → Prop where
  | query : Command msgQueryAction
  | set (action : LogoutAction) : Command (setsAction action)
  | newLogin : Command msgFlexiXserver

/-- How far a conversation has come. -/
inductive Stage where
  | idle
  | connected (fd : Int)
  | greeted (fd : Int)
  | trusted (fd : Int)
  | finished (fd : Int)
deriving DecidableEq

/-- What may happen next, and where it leads. -/
inductive Next : Stage → Effect → Stage → Prop where
  | opened {fd} : Next .idle (.opened fd) (.connected fd)
  | greeted {fd heard} (answered : greets heard = true) :
      Next (.connected fd) (.exchanged fd msgVersion heard) (.greeted fd)
  | strange {fd heard} (answered : greets heard = false) :
      Next (.connected fd) (.exchanged fd msgVersion heard) (.finished fd)
  | trusted {fd cookie heard} (answered : accepts heard = true) :
      Next (.greeted fd) (.exchanged fd (shows cookie) heard) (.trusted fd)
  | refused {fd cookie heard} (answered : accepts heard = false) :
      Next (.greeted fd) (.exchanged fd (shows cookie) heard) (.greeted fd)
  | asked {fd message heard} (command : Command message) :
      Next (.trusted fd) (.exchanged fd message heard) (.finished fd)
  | hungUp {fd} : Next (.connected fd) (.closed fd) .idle
  | gaveUp {fd} : Next (.greeted fd) (.closed fd) .idle
  | left {fd} : Next (.trusted fd) (.closed fd) .idle
  | closed {fd} : Next (.finished fd) (.closed fd) .idle

/-- What has happened, newest first, has led from the beginning to the stage. -/
inductive Follows : List Effect → Stage → Prop where
  | nil : Follows [] .idle
  | cons {log before effect after} (follows : Follows log before)
      (next : Next before effect after) : Follows (effect :: log) after

/-- The cookie that was shown last, when it was accepted. -/
def lastAccepted : List Effect → Option Bytes
  | [] => none
  | .exchanged _ message heard :: earlier =>
      if msgAuthenticate.isPrefixOf message then
        if accepts heard then some (message.drop (msgAuthenticate.length + 1)) else none
      else lastAccepted earlier
  | _ :: earlier => lastAccepted earlier

theorem lastAccepted_shows (fd : Int) (cookie : Bytes) (heard : List Bytes) (earlier : List Effect) :
    lastAccepted (.exchanged fd (shows cookie) heard :: earlier) =
      if accepts heard then some cookie else none := by
  have front : msgAuthenticate.isPrefixOf (shows cookie) = true :=
    List.isPrefixOf_iff_prefix.mpr (List.prefix_append msgAuthenticate (space :: cookie))
  have rest : (shows cookie).drop (msgAuthenticate.length + 1) = cookie := by
    rw [shows, ← List.drop_drop, List.drop_left, List.drop_one, List.tail_cons]
  rw [lastAccepted, if_pos front, rest]

theorem lastAccepted_command (fd : Int) {message : Bytes} (command : Command message)
    (heard : List Bytes) (earlier : List Effect) :
    lastAccepted (.exchanged fd message heard :: earlier) = lastAccepted earlier := by
  have other : msgAuthenticate.isPrefixOf message = false := by
    cases command with
    | query => decide
    | set action => cases action <;> decide
    | newLogin => decide
  rw [lastAccepted, other]
  rfl

namespace Stage

def fd : Stage → Int
  | idle => 0
  | connected fd | greeted fd | trusted fd | finished fd => fd

end Stage

namespace Client

/-- The client has come as far as the stage, on the descriptor of the stage. -/
structure Conversing (stage : Stage) (client : Client) : Prop where
  alive : client.aborted = false
  descriptor : client.fd = stage.fd
  positive : stage ≠ .idle → 0 < client.fd
  follows : Follows client.log stage

/-- A remembered cookie has been accepted when a cookie was last shown. -/
def Remembers (client : Client) : Prop :=
  ∀ cookie, client.authCookie = some cookie → lastAccepted client.log = some cookie

structure AtRest (client : Client) : Prop where
  conversing : client.Conversing .idle
  remembers : client.Remembers

variable {world : World} {client : Client} {fd : Int}

/-- A message that cannot be written is no part of the conversation. -/
theorem sendProtocolMsg_cases (world : World) (message : Bytes) (client : Client) :
    client.sendProtocolMsg world message = (none, client) ∨
    ∃ heard, client.sendProtocolMsg world message =
      (response heard, { client with
        sent := message :: client.sent
        log := .exchanged client.fd message heard :: client.log }) := by
  unfold sendProtocolMsg
  by_cases written : (world.server (message :: client.sent)).writes = true
  · exact .inr ⟨(world.server (message :: client.sent)).heard, if_pos written⟩
  · exact .inl (if_neg written)

theorem showCookie_cases (world : World) (cookie : Bytes) (client : Client) :
    client.showCookie world cookie = (false, client) ∨
    ∃ heard, client.showCookie world cookie =
      (accepts heard, { client with
        sent := shows cookie :: client.sent
        log := .exchanged client.fd (shows cookie) heard :: client.log }) := by
  cases client.sendProtocolMsg_cases world (shows cookie) with
  | inl unwritten => exact .inl (by rw [showCookie, ← shows, unwritten]; rfl)
  | inr written =>
      obtain ⟨heard, sent⟩ := written
      exact .inr ⟨heard, by rw [showCookie, ← shows, sent]; rfl⟩

theorem Conversing.exchanged {before after : Stage} (conversing : client.Conversing before)
    {message : Bytes} {heard : List Bytes}
    (next : Next before (.exchanged client.fd message heard) after)
    (same : after.fd = before.fd) (busy : before ≠ .idle) :
    Conversing after { client with
      sent := message :: client.sent
      log := .exchanged client.fd message heard :: client.log } where
  alive := conversing.alive
  descriptor := conversing.descriptor.trans same.symm
  positive _ := conversing.positive busy
  follows := .cons conversing.follows next

/-- Where a function that may fail leaves the client. -/
structure Leads (yes no : Client → Prop) (result : Bool × Client) : Prop where
  succeeded : result.1 = true → yes result.2
  failed : result.1 = false → no result.2

/-- A cookie has been accepted, and it is the one that is remembered. -/
structure Trusting (fd : Int) (client : Client) : Prop where
  conversing : client.Conversing (.trusted fd)
  remembers : client.Remembers

theorem showCookie_leads (conversing : client.Conversing (.greeted fd)) (world : World)
    (cookie : Bytes) :
    (client.showCookie world cookie).2.authCookie = client.authCookie ∧
      Leads (fun shown => shown.Conversing (.trusted fd) ∧ lastAccepted shown.log = some cookie)
        (Conversing (.greeted fd)) (client.showCookie world cookie) := by
  have descriptor : client.fd = fd := conversing.descriptor
  cases client.showCookie_cases world cookie with
  | inl unwritten =>
      rw [unwritten]
      exact ⟨rfl, Bool.noConfusion, fun _ => conversing⟩
  | inr written =>
      obtain ⟨heard, shown⟩ := written
      rw [shown]
      refine ⟨rfl, ?_, ?_⟩
      · intro accepted
        have next : Next (.greeted fd) (.exchanged client.fd (shows cookie) heard) (.trusted fd) :=
          descriptor.symm ▸ .trusted accepted
        refine ⟨conversing.exchanged next rfl (by simp), ?_⟩
        exact (lastAccepted_shows client.fd cookie heard client.log).trans (if_pos accepted)
      · intro refused
        have next : Next (.greeted fd) (.exchanged client.fd (shows cookie) heard) (.greeted fd) :=
          descriptor.symm ▸ .refused refused
        exact conversing.exchanged next rfl (by simp)

theorem tryCookies_leads (world : World) (entries : List Xauth) :
    ∀ {client : Client}, client.Conversing (.greeted fd) → client.authCookie = none →
      Leads (Trusting fd) (fun tried => tried.Conversing (.greeted fd) ∧ tried.authCookie = none)
        (client.tryCookies world entries) := by
  induction entries with
  | nil =>
      intro client conversing forgotten
      exact ⟨Bool.noConfusion, fun _ => ⟨conversing, forgotten⟩⟩
  | cons xau rest ih =>
      intro client conversing forgotten
      unfold tryCookies
      split_ifs with suits
      · obtain ⟨kept, leads⟩ := showCookie_leads conversing world (hexCookie xau.data)
        rcases shown : client.showCookie world (hexCookie xau.data) with ⟨_ | _, after⟩
        · rw [shown] at kept leads
          exact ih (leads.failed rfl) (kept.trans forgotten)
        · rw [shown] at leads
          obtain ⟨trusted, last⟩ := leads.succeeded rfl
          refine ⟨fun _ => ⟨⟨trusted.alive, trusted.descriptor, trusted.positive,
            trusted.follows⟩, ?_⟩, Bool.noConfusion⟩
          intro cookie remembered
          cases remembered
          exact last
      · exact ih conversing forgotten

theorem authenticateFromFile_leads (world : World) (conversing : client.Conversing (.greeted fd))
    (forgotten : client.authCookie = none) :
    Leads (Trusting fd) (fun tried => tried.Conversing (.greeted fd) ∧ tried.authCookie = none)
      (client.authenticateFromFile world) := by
  unfold authenticateFromFile
  cases world.authFile with
  | none => exact ⟨Bool.noConfusion, fun _ => ⟨conversing, forgotten⟩⟩
  | some entries => exact tryCookies_leads world entries conversing forgotten

/-- A cookie that is refused is forgotten before the file is read. -/
theorem authenticateConnection_leads (world : World)
    (conversing : client.Conversing (.greeted fd)) :
    Leads (Trusting fd) (fun tried => tried.Conversing (.greeted fd) ∧ tried.authCookie = none)
      (client.authenticateConnection world) := by
  unfold authenticateConnection
  cases remembered : client.authCookie with
  | none => exact authenticateFromFile_leads world conversing remembered
  | some cookie =>
      obtain ⟨kept, leads⟩ := showCookie_leads conversing world cookie
      rcases shown : client.showCookie world cookie with ⟨_ | _, after⟩
      · rw [shown] at leads
        obtain ⟨alive, descriptor, positive, follows⟩ := leads.failed rfl
        simp only [shown, Bool.false_eq_true, if_false]
        exact authenticateFromFile_leads world ⟨alive, descriptor, positive, follows⟩ rfl
      · rw [shown] at kept leads
        obtain ⟨trusted, last⟩ := leads.succeeded rfl
        simp only [shown, if_true]
        refine ⟨fun _ => ⟨trusted, ?_⟩, Bool.noConfusion⟩
        intro other same
        rw [last, ← remembered, ← kept, ← same]

theorem Conversing.shut {stage : Stage} (conversing : client.Conversing stage)
    (remembers : client.Remembers) (busy : stage ≠ .idle)
    (next : Next stage (.closed client.fd) .idle) : AtRest client.shutdownProtocolConnection := by
  have opened := conversing.positive busy
  unfold shutdownProtocolConnection
  rw [if_pos opened]
  exact ⟨⟨conversing.alive, rfl, fun absurd => (absurd rfl).elim, .cons conversing.follows next⟩,
    remembers⟩

theorem Trusting.shut (trusting : client.Trusting fd) :
    AtRest client.shutdownProtocolConnection := by
  have descriptor : client.fd = fd := trusting.conversing.descriptor
  exact trusting.conversing.shut trusting.remembers (by simp) (descriptor ▸ .left)

theorem greet_leads (world : World) (conversing : client.Conversing (.connected fd))
    (remembers : client.Remembers) : Leads (Trusting fd) AtRest (client.greet world) := by
  have descriptor : client.fd = fd := conversing.descriptor
  cases client.sendProtocolMsg_cases world msgVersion with
  | inl unwritten =>
      simp only [greet, unwritten, Option.any_none, Bool.not_false, if_true]
      exact ⟨Bool.noConfusion, fun _ => conversing.shut remembers (by simp) (descriptor ▸ .hungUp)⟩
  | inr written =>
      obtain ⟨heard, sent⟩ := written
      have other : lastAccepted (.exchanged client.fd msgVersion heard :: client.log) =
          lastAccepted client.log := rfl
      simp only [greet, sent]
      cases answered : greets heard with
      | false =>
          have next : Next (.connected fd) (.exchanged client.fd msgVersion heard) (.finished fd) :=
            descriptor.symm ▸ .strange answered
          have finished := conversing.exchanged next rfl (by simp)
          rw [greets] at answered
          rw [answered]
          exact ⟨Bool.noConfusion, fun _ =>
            finished.shut remembers (by simp) (descriptor ▸ .closed)⟩
      | true =>
          have next : Next (.connected fd) (.exchanged client.fd msgVersion heard) (.greeted fd) :=
            descriptor.symm ▸ .greeted answered
          have greeted := conversing.exchanged next rfl (by simp)
          rw [greets] at answered
          rw [answered]
          have leads := authenticateConnection_leads world greeted
          rcases shown : authenticateConnection world _ with ⟨_ | _, after⟩
          · rw [shown] at leads
            obtain ⟨refused, forgotten⟩ := leads.failed rfl
            have nothing : after.Remembers := by
              intro cookie remembered
              cases forgotten.symm.trans remembered
            have descriptor : after.fd = fd := refused.descriptor
            exact ⟨Bool.noConfusion, fun _ =>
              refused.shut nothing (by simp) (descriptor ▸ .gaveUp)⟩
          · rw [shown] at leads
            exact ⟨fun _ => leads.succeeded rfl, Bool.noConfusion⟩

theorem initProtocolConnection_leads (free : world.socket ≠ 0) (rest : client.AtRest) :
    Leads (Trusting world.socket) AtRest (client.initProtocolConnection world) := by
  obtain ⟨conversing, remembers⟩ := rest
  have closed : client.fd = 0 := conversing.descriptor
  have opened : 0 < world.socket → Conversing (.connected world.socket)
      (({ client with fd := world.socket } : Client).emit (.opened world.socket)) := by
    intro positive
    exact ⟨conversing.alive, rfl, fun _ => positive, .cons conversing.follows .opened⟩
  unfold initProtocolConnection
  rw [if_neg (by omega)]
  split_ifs with missing negative refused
  · exact ⟨Bool.noConfusion, fun _ => ⟨conversing, remembers⟩⟩
  · have unopened : ¬ 0 < world.socket := by omega
    refine ⟨Bool.noConfusion, fun _ => ?_⟩
    change AtRest (shutdownProtocolConnection { client with fd := world.socket })
    rw [shutdownProtocolConnection, if_neg unopened]
    exact ⟨⟨conversing.alive, rfl, fun absurd => (absurd rfl).elim, conversing.follows⟩, remembers⟩
  · have connected := opened (by omega)
    exact ⟨Bool.noConfusion, fun _ => connected.shut remembers (by simp) .hungUp⟩
  · have connected := opened (by omega)
    exact greet_leads world connected remembers

/-- A request ends the conversation, whether or not it can be written. -/
theorem Trusting.asked (trusting : client.Trusting fd) (world : World) {message : Bytes}
    (command : Command message) :
    AtRest (client.sendProtocolMsg world message).2.shutdownProtocolConnection := by
  obtain ⟨conversing, remembers⟩ := trusting
  have descriptor : client.fd = fd := conversing.descriptor
  cases client.sendProtocolMsg_cases world message with
  | inl unwritten =>
      rw [unwritten]
      exact conversing.shut remembers (by simp) (descriptor ▸ .left)
  | inr written =>
      obtain ⟨heard, sent⟩ := written
      rw [sent]
      have next : Next (.trusted fd) (.exchanged client.fd message heard) (.finished fd) :=
        descriptor.symm ▸ .asked command
      refine (conversing.exchanged next rfl (by simp)).shut ?_ (by simp) (descriptor ▸ .closed)
      intro cookie remembered
      exact (lastAccepted_command client.fd command heard client.log).trans
        (remembers cookie remembered)

/-- What the session manager remembers of the answers does not touch the socket. -/
theorem AtRest.of_same {other : Client} (rest : client.AtRest) (log : other.log = client.log)
    (fd : other.fd = client.fd) (aborted : other.aborted = client.aborted)
    (authCookie : other.authCookie = client.authCookie) : other.AtRest := by
  obtain ⟨⟨alive, descriptor, _, follows⟩, remembers⟩ := rest
  refine ⟨⟨aborted.trans alive, fd.trans descriptor, fun absurd => (absurd rfl).elim, ?_⟩, ?_⟩
  · rw [log]
    exact follows
  · rw [Remembers, authCookie, log]
    exact remembers

theorem shutdown_log (client : Client) : client.shutdownProtocolConnection.log =
    if 0 < client.fd then .closed client.fd :: client.log else client.log := by
  unfold shutdownProtocolConnection
  split_ifs <;> rfl

theorem shutdown_aborted (client : Client) :
    client.shutdownProtocolConnection.aborted = client.aborted := by
  unfold shutdownProtocolConnection
  split_ifs <;> rfl

theorem shutdown_authCookie (client : Client) :
    client.shutdownProtocolConnection.authCookie = client.authCookie := by
  unfold shutdownProtocolConnection
  split_ifs <;> rfl

theorem AtRest.shutdown_of_same {other : Client}
    (rest : AtRest client.shutdownProtocolConnection) (log : other.log = client.log)
    (fd : other.fd = client.fd) (aborted : other.aborted = client.aborted)
    (authCookie : other.authCookie = client.authCookie) :
    AtRest other.shutdownProtocolConnection := by
  refine rest.of_same ?_ rfl ?_ ?_
  · rw [shutdown_log, shutdown_log, log, fd]
  · rw [shutdown_aborted, shutdown_aborted, aborted]
  · rw [shutdown_authCookie, shutdown_authCookie, authCookie]

theorem noteAction_eq (client : Client) (word : Bytes) :
    ∃ available current, client.noteAction word =
      { client with availableActions := available, currentActions := current } := by
  unfold noteAction
  split_ifs with empty
  · exact ⟨client.availableActions, client.currentActions, rfl⟩
  · exact ⟨_, _, rfl⟩

theorem foldl_noteAction_eq (words : List Bytes) : ∀ client : Client,
    ∃ available current, words.foldl noteAction client =
      { client with availableActions := available, currentActions := current } := by
  induction words with
  | nil =>
      intro client
      exact ⟨client.availableActions, client.currentActions, rfl⟩
  | cons word words ih =>
      intro client
      obtain ⟨available, current, noted⟩ := client.noteAction_eq word
      obtain ⟨lastAvailable, lastCurrent, rest⟩ := ih (client.noteAction word)
      refine ⟨lastAvailable, lastCurrent, ?_⟩
      rw [List.foldl_cons, rest, noted]

/-- An answer changes what is known of the actions and nothing else. -/
theorem parseQueryResponse_eq (response : Bytes) (client : Client) :
    ∃ available current, client.parseQueryResponse response =
      { client with availableActions := available, currentActions := current } := by
  unfold parseQueryResponse
  split_ifs with strange
  · exact ⟨_, _, rfl⟩
  · exact foldl_noteAction_eq _ _

theorem Trusting.queried (trusting : client.Trusting fd) (world : World) :
    AtRest (client.queryActions world).shutdownProtocolConnection := by
  have asked := trusting.asked world .query
  unfold queryActions
  rcases sent : client.sendProtocolMsg world msgQueryAction with ⟨_ | response, after⟩
  · rw [sent] at asked
    exact asked
  · rw [sent] at asked
    obtain ⟨available, current, parsed⟩ := after.parseQueryResponse_eq response
    refine asked.shutdown_of_same ?_ ?_ ?_ ?_ <;> simp only [parsed]

theorem atRest_updateLogoutActions (free : world.socket ≠ 0) (rest : client.AtRest) :
    AtRest (client.updateLogoutActions world) := by
  unfold updateLogoutActions
  split_ifs with recent
  · exact rest
  · have noted : AtRest { client with lastUpdate := world.time } := rest.of_same rfl rfl rfl rfl
    have leads := initProtocolConnection_leads free noted
    rcases connected : initProtocolConnection world _ with ⟨_ | _, after⟩
    · rw [connected] at leads
      exact leads.failed rfl
    · rw [connected] at leads
      exact (leads.succeeded rfl).queried world

theorem atRest_request (free : world.socket ≠ 0) {message : Bytes} (command : Command message)
    (rest : client.AtRest) : AtRest (client.request world message) := by
  have leads := initProtocolConnection_leads free rest
  unfold request
  rcases connected : client.initProtocolConnection world with ⟨_ | _, after⟩
  · rw [connected] at leads
    exact leads.failed rfl
  · rw [connected] at leads
    exact ((leads.succeeded rfl).asked world command).shutdown_of_same rfl rfl rfl rfl

theorem atRest_isAvailable (free : world.socket ≠ 0) (rest : client.AtRest) :
    AtRest (client.isAvailable world).2 := by
  have leads := initProtocolConnection_leads free rest
  unfold isAvailable
  rcases connected : client.initProtocolConnection world with ⟨_ | _, after⟩
  · rw [connected] at leads
    exact leads.failed rfl
  · rw [connected] at leads
    exact (leads.succeeded rfl).shut

/-- Every call leaves the client at rest. -/
theorem atRest_handle (free : world.socket ≠ 0) (rest : client.AtRest) (call : Call) :
    AtRest (client.handle world call) := by
  cases call with
  | isAvailable => exact atRest_isAvailable free rest
  | supportsLogoutAction action => exact atRest_updateLogoutActions free rest
  | getLogoutAction => exact atRest_updateLogoutActions free rest
  | setLogoutAction action => exact atRest_request free (.set action) rest
  | newLogin => exact atRest_request free .newLogin rest

theorem atRest_initial : AtRest .initial :=
  ⟨⟨rfl, rfl, fun absurd => (absurd rfl).elim, .nil⟩, fun _ remembered => by cases remembered⟩

theorem atRest_reached (reached : clientSystem.ReachableBy
    (fun _ event => event.world.socket ≠ 0) client) : client.AtRest := by
  induction reached with
  | initial start =>
      cases start
      exact atRest_initial
  | step reached free stepped rest =>
      simp only [clientSystem, rest.conversing.alive, Bool.false_eq_true, if_false,
        Option.some.injEq] at stepped
      cases stepped
      exact atRest_handle free rest _

end Client

/-- A shown cookie and the greeting ask for nothing. -/
theorem not_command_shows (cookie : Bytes) : ¬ Command (shows cookie) := by
  have head : (shows cookie).head? = some 65 := rfl
  intro command
  generalize shows cookie = message at command head
  cases command with
  | query => cases head
  | set action => cases head
  | newLogin => cases head

theorem Follows.trusted {log : List Effect} {fd : Int} (follows : Follows log (.trusted fd)) :
    ∃ cookie heard earlier, log = .exchanged fd (shows cookie) heard :: earlier ∧
      accepts heard = true := by
  cases follows with
  | cons follows next =>
      cases next with
      | trusted answered => exact ⟨_, _, _, rfl, answered⟩

/-- A request follows an accepted cookie, and ends the conversation. -/
theorem Follows.command {fd : Int} {message : Bytes} {heard : List Bytes} {earlier : List Effect}
    {stage : Stage} (command : Command message)
    (follows : Follows (.exchanged fd message heard :: earlier) stage) :
    stage = .finished fd ∧ ∃ cookie answer before,
      earlier = .exchanged fd (shows cookie) answer :: before ∧ accepts answer = true := by
  cases follows with
  | cons follows next =>
      cases next with
      | greeted answered => cases command
      | strange answered => cases command
      | trusted answered => exact absurd command (not_command_shows _)
      | refused answered => exact absurd command (not_command_shows _)
      | asked command => exact ⟨rfl, follows.trusted⟩

/-- After a request nothing happens before the socket is closed. -/
theorem Follows.closes {fd : Int} {log : List Effect}
    (finished : ∀ stage, Follows log stage → stage = .finished fd) (later : List Effect) :
    ∀ {stage : Stage}, Follows (later ++ log) stage →
      (later = [] ∧ stage = .finished fd) ∨ ∃ rest, later = rest ++ [.closed fd] := by
  induction later with
  | nil => exact fun follows => .inl ⟨rfl, finished _ follows⟩
  | cons effect later ih =>
      intro stage follows
      cases follows with
      | cons follows next =>
          refine .inr ?_
          cases ih follows with
          | inl directly =>
              obtain ⟨rfl, rfl⟩ := directly
              cases next with
              | closed => exact ⟨[], rfl⟩
          | inr before =>
              obtain ⟨rest, rfl⟩ := before
              exact ⟨effect :: rest, rfl⟩

theorem Follows.of_append {log : List Effect} (later : List Effect) :
    ∀ {stage : Stage}, Follows (later ++ log) stage → ∃ middle, Follows log middle := by
  induction later with
  | nil => exact fun follows => ⟨_, follows⟩
  | cons effect later ih =>
      intro stage follows
      cases follows with
      | cons follows next => exact ih follows

/-- Whatever is called and whatever the display manager does, as long as descriptor 0
is taken: the session manager is never aborted by its assertion, it holds no socket
between the calls, and what happened on the sockets is one conversation after the
other.  Each request stands between an accepted cookie and the closing of its
socket, and a remembered cookie is the last one shown and was accepted. -/
theorem conversations_in_order {client : Client}
    (reached : clientSystem.ReachableBy (fun _ event => event.world.socket ≠ 0) client) :
    client.aborted = false ∧ client.fd = 0 ∧ Follows client.log .idle ∧
    (∀ later fd message heard earlier,
      client.log = later ++ .exchanged fd message heard :: earlier → Command message →
      (∃ rest, later = rest ++ [.closed fd]) ∧
      ∃ cookie answer before,
        earlier = .exchanged fd (shows cookie) answer :: before ∧ accepts answer = true) ∧
    ∀ cookie, client.authCookie = some cookie → lastAccepted client.log = some cookie := by
  obtain ⟨⟨alive, descriptor, _, follows⟩, remembers⟩ := Client.atRest_reached reached
  refine ⟨alive, descriptor, follows, ?_, remembers⟩
  intro later fd message heard earlier split command
  rw [split] at follows
  obtain ⟨middle, asked⟩ := follows.of_append later
  refine ⟨?_, (asked.command command).2⟩
  have closes := Follows.closes (fun stage asked => (asked.command command).1) later follows
  cases closes with
  | inl directly => cases directly.2
  | inr closed => exact closed

/-- A display manager that answers in two pieces, and a cookie it accepts. -/
def obliging : World where
  time := 100
  socketExists := true
  socket := 5
  connects := true
  server messages :=
    let answer :=
      if messages = [msgVersion] then ascii "CDM 2.20.0.1\n"
      else if messages.head? = some msgQueryAction then ascii "OK HALT;REBOOT!;SUSPEND\n"
      else ascii "OK\n"
    ⟨true, [answer.take 2, answer.drop 2]⟩
  authFile := some [⟨256, ascii "0", ascii "MIT-MAGIC-COOKIE-1", List.replicate 16 7⟩]
  displayName := ascii ":0.0"

/-- A request to reboot: opened, greeted, shown a cookie, asked and closed. -/
theorem reboot_request_in_order :
    ∃ client, clientSystem.run .initial [⟨obliging, .setLogoutAction .reboot⟩] = some client ∧
      client.log.length = 5 ∧ Follows client.log .idle := by
  have taken : (Event.mk obliging (.setLogoutAction .reboot)).world.socket ≠ 0 := by decide
  have ordered := conversations_in_order (.step (.initial rfl) taken rfl)
  exact ⟨_, rfl, by decide +kernel, ordered.2.2.1⟩

end CafeSession.Cdm
