import Mathlib.Data.List.TakeWhile
import CafeSession.Cdm.Conversations

namespace CafeSession.Cdm

open CafeSession.Autostart CafeSession.Shell CafeSession.Streams CafeSession.Transition

/-- The first line of what has been heard. -/
def said (heard : List Bytes) : Bytes :=
  line newline (heard.map cString).flatten

/-- The line is an answer that lists the word. -/
def Announces (answer word : Bytes) : Prop :=
  ∃ list, answer = ascii "OK " ++ list ∧ Lists semicolon list word

/-- The answer offers the action, as the one that is set or not. -/
def Offers (answer : Bytes) (action : LogoutAction) : Prop :=
  action ≠ .none ∧
    (Announces answer action.text ∨ Announces answer (action.text ++ [exclamation]))

/-- The action is set in the answer. -/
def Selects (answer : Bytes) (action : LogoutAction) : Prop :=
  action ≠ .none ∧ Announces answer (action.text ++ [exclamation])

/-- The newest answer to the question. -/
def newestAnswer : List Effect → Option Bytes
  | [] => none
  | .exchanged _ message heard :: earlier =>
      if message = msgQueryAction ∧ heard ≠ [] then some (said heard) else newestAnswer earlier
  | _ :: earlier => newestAnswer earlier

theorem response_eq {heard : List Bytes} (some_heard : heard ≠ []) :
    response heard = some (said heard) := by
  obtain ⟨first, later, rfl⟩ := List.exists_cons_of_ne_nil some_heard
  rw [response, said, line_readUntil, List.nil_append]

namespace LogoutAction

/-- The action of a name, as the comparisons of `cdm_parse_query_response` find it. -/
def named (name : Bytes) : LogoutAction :=
  if name = shutdown.text then shutdown
  else if name = reboot.text then reboot
  else if name = suspend.text then suspend
  else none

theorem named_eq_iff {action : LogoutAction} (proper : action ≠ none) (name : Bytes) :
    named name = action ↔ name = action.text := by
  have apart : shutdown.text ≠ reboot.text ∧ shutdown.text ≠ suspend.text ∧
      reboot.text ≠ suspend.text := by decide
  obtain ⟨one, two, three⟩ := apart
  unfold named
  cases action with
  | none => exact absurd rfl proper
  | shutdown => split_ifs <;> simp_all
  | reboot => split_ifs <;> simp_all
  | suspend => split_ifs <;> simp_all

theorem text_getLast (action : LogoutAction) : action.text.getLast? ≠ some exclamation := by
  cases action <;> decide

theorem or_code_and (mask : UInt32) (one other : LogoutAction) :
    (mask ||| one.code) &&& other.code ≠ 0 ↔
      mask &&& other.code ≠ 0 ∨ (one = other ∧ other ≠ none) := by
  have common : one.code &&& other.code ≠ 0 ↔ one = other ∧ other ≠ none := by
    cases one <;> cases other <;> decide
  have distributes : (mask ||| one.code) &&& other.code =
      (mask &&& other.code) ||| (one.code &&& other.code) := by
    rw [← UInt32.toBitVec_inj]
    ext bit
    simp [Bool.and_or_distrib_right]
  rw [distributes, Ne, UInt32.or_eq_zero_iff, not_and_or, ← Ne, ← Ne, common]

end LogoutAction

open LogoutAction (named named_eq_iff or_code_and)

theorem parseAction_eq (word : Bytes) : Client.parseAction word =
    (named (if word.getLast? = some exclamation then word.dropLast else word),
      decide (word.getLast? = some exclamation)) := by
  rw [Client.parseAction]
  rfl

/-- A word is of an action when it is its name, or its name marked. -/
theorem parseAction_iff {action : LogoutAction} (proper : action ≠ .none) (word : Bytes) :
    (Client.parseAction word).1 = action ↔
      word = action.text ∨ word = action.text ++ [exclamation] := by
  have unmarked := action.text_getLast
  rw [parseAction_eq, named_eq_iff proper]
  by_cases marked : word.getLast? = some exclamation
  · rw [if_pos marked]
    obtain ⟨name, rfl⟩ := List.getLast?_eq_some_iff.mp marked
    rw [List.dropLast_concat, List.append_left_inj]
    constructor
    · exact .inr
    · intro same
      cases same with
      | inl whole =>
          rw [← whole] at unmarked
          exact absurd marked unmarked
      | inr same => exact same
  · rw [if_neg marked]
    constructor
    · exact .inl
    · intro same
      cases same with
      | inl same => exact same
      | inr marks =>
          rw [marks, List.getLast?_concat] at marked
          exact absurd rfl marked

theorem parseAction_selected_iff {action : LogoutAction} (proper : action ≠ .none) (word : Bytes) :
    (Client.parseAction word).1 = action ∧ (Client.parseAction word).2 = true ↔
      word = action.text ++ [exclamation] := by
  have unmarked := action.text_getLast
  have selected : (Client.parseAction word).2 = decide (word.getLast? = some exclamation) := by
    rw [parseAction_eq]
  rw [parseAction_iff proper, selected, decide_eq_true_eq]
  constructor
  · rintro ⟨rfl | rfl, marked⟩
    · exact absurd marked unmarked
    · rfl
  · rintro rfl
    exact ⟨.inr rfl, List.getLast?_concat⟩

namespace Client

variable {world : World} {client : Client}

theorem foldl_noteAction_available {action : LogoutAction} (words : List Bytes) :
    ∀ client : Client, (words.foldl noteAction client).availableActions &&& action.code ≠ 0 ↔
      client.availableActions &&& action.code ≠ 0 ∨
        ∃ word ∈ words, word ≠ [] ∧ (parseAction word).1 = action ∧ action ≠ .none := by
  induction words with
  | nil => simp
  | cons word words ih =>
      intro client
      rw [List.foldl_cons, ih, List.exists_mem_cons_iff]
      by_cases empty : word = []
      · simp [noteAction, empty]
      · have noted : (client.noteAction word).availableActions =
            client.availableActions ||| (parseAction word).1.code := by
          simp [noteAction, empty]
        rw [noted, or_code_and, or_assoc]
        simp only [Ne, empty, not_false_eq_true, true_and]

theorem foldl_noteAction_current {action : LogoutAction} (words : List Bytes) :
    ∀ client : Client, (words.foldl noteAction client).currentActions &&& action.code ≠ 0 ↔
      client.currentActions &&& action.code ≠ 0 ∨
        ∃ word ∈ words, word ≠ [] ∧ (parseAction word).2 = true ∧
          (parseAction word).1 = action ∧ action ≠ .none := by
  induction words with
  | nil => simp
  | cons word words ih =>
      intro client
      rw [List.foldl_cons, ih, List.exists_mem_cons_iff]
      by_cases empty : word = []
      · simp [noteAction, empty]
      · cases selected : (parseAction word).2 with
        | false =>
            have noted : (client.noteAction word).currentActions = client.currentActions := by
              simp [noteAction, empty, selected]
            rw [noted]
            simp
        | true =>
            have noted : (client.noteAction word).currentActions =
                client.currentActions ||| (parseAction word).1.code := by
              simp [noteAction, empty, selected]
            rw [noted, or_code_and, or_assoc]
            simp only [Ne, empty, not_false_eq_true, true_and]

theorem announces_iff {list word : Bytes} :
    Announces (ascii "OK " ++ list) word ↔ word ∈ list.splitOn semicolon := by
  rw [mem_splitOn_iff]
  constructor
  · rintro ⟨other, same, lists⟩
    cases List.append_cancel_left same
    exact lists
  · exact fun lists => ⟨list, rfl, lists⟩

theorem not_announces {answer : Bytes} (strange : ¬ ascii "OK " <+: answer) (word : Bytes) :
    ¬ Announces answer word := by
  rintro ⟨list, rfl, _⟩
  exact strange (List.prefix_append _ list)

/-- The masks are what the answer lists, whatever was known before. -/
theorem parseQueryResponse_iff (client : Client) (response : Bytes) (action : LogoutAction) :
    ((client.parseQueryResponse response).availableActions &&& action.code ≠ 0 ↔
      Offers response action) ∧
    ((client.parseQueryResponse response).currentActions &&& action.code ≠ 0 ↔
      Selects response action) := by
  have cleared : ¬ LogoutAction.none.code &&& action.code ≠ 0 := by
    cases action <;> decide
  unfold parseQueryResponse
  by_cases answered : ascii "OK " <+: response
  · obtain ⟨list, rfl⟩ := answered
    have front : (ascii "OK ").isPrefixOf (ascii "OK " ++ list) = true :=
      List.isPrefixOf_iff_prefix.mpr (List.prefix_append _ list)
    have rest : (ascii "OK " ++ list).drop 3 = list := rfl
    have full : ∀ word, word = action.text ∨ word = action.text ++ [exclamation] → word ≠ [] := by
      rintro word (rfl | rfl)
      · cases action <;> decide
      · exact List.append_ne_nil_of_right_ne_nil _ (List.cons_ne_nil _ _)
    rw [front, rest]
    simp only [Bool.not_true, Bool.false_eq_true, if_false]
    rw [foldl_noteAction_available, foldl_noteAction_current, Offers, Selects, announces_iff,
      announces_iff]
    constructor
    · constructor
      · rintro (absurd_mask | ⟨word, member, _, same, proper⟩)
        · exact absurd absurd_mask cleared
        · refine ⟨proper, ?_⟩
          cases (parseAction_iff proper word).mp same with
          | inl name => exact .inl (name ▸ member)
          | inr marked => exact .inr (marked ▸ member)
      · rintro ⟨proper, member | member⟩
        · exact .inr ⟨_, member, full _ (.inl rfl),
            (parseAction_iff proper _).mpr (.inl rfl), proper⟩
        · exact .inr ⟨_, member, full _ (.inr rfl),
            (parseAction_iff proper _).mpr (.inr rfl), proper⟩
    · constructor
      · rintro (absurd_mask | ⟨word, member, _, selected, same, proper⟩)
        · exact absurd absurd_mask cleared
        · exact ⟨proper, (parseAction_selected_iff proper word).mp ⟨same, selected⟩ ▸ member⟩
      · rintro ⟨proper, member⟩
        obtain ⟨same, selected⟩ := (parseAction_selected_iff proper _).mpr rfl
        exact .inr ⟨_, member, full _ (.inr rfl), selected, same, proper⟩
  · have back : (ascii "OK ").isPrefixOf response = false := by
      rw [Bool.eq_false_iff, Ne, List.isPrefixOf_iff_prefix]
      exact answered
    rw [back]
    simp only [Bool.not_false, if_true]
    constructor
    · constructor
      · exact fun some => absurd some cleared
      · rintro ⟨_, named | marked⟩
        · exact absurd named (not_announces answered _)
        · exact absurd marked (not_announces answered _)
    · constructor
      · exact fun some => absurd some cleared
      · exact fun selects => absurd selects.2 (not_announces answered _)

/-- What is known of the actions, and what it rests on, are as they were. -/
structure Keeps (client after : Client) : Prop where
  available : after.availableActions = client.availableActions
  current : after.currentActions = client.currentActions
  answer : newestAnswer after.log = newestAnswer client.log

theorem Keeps.refl (client : Client) : Keeps client client := ⟨rfl, rfl, rfl⟩

theorem Keeps.trans {middle after : Client} (first : Keeps client middle)
    (second : Keeps middle after) : Keeps client after :=
  ⟨second.available.trans first.available, second.current.trans first.current,
    second.answer.trans first.answer⟩

theorem keeps_shutdown (client : Client) : Keeps client client.shutdownProtocolConnection := by
  unfold shutdownProtocolConnection
  split_ifs <;> exact ⟨rfl, rfl, rfl⟩

theorem keeps_sendProtocolMsg (world : World) {message : Bytes} (other : message ≠ msgQueryAction)
    (client : Client) : Keeps client (client.sendProtocolMsg world message).2 := by
  cases client.sendProtocolMsg_cases world message with
  | inl unwritten =>
      rw [unwritten]
      exact .refl client
  | inr written =>
      obtain ⟨heard, sent⟩ := written
      rw [sent]
      exact ⟨rfl, rfl, if_neg fun asked => other asked.1⟩

theorem shows_ne_query (cookie : Bytes) : shows cookie ≠ msgQueryAction := by
  intro same
  exact not_command_shows cookie (same ▸ .query)

theorem keeps_showCookie (world : World) (cookie : Bytes) (client : Client) :
    Keeps client (client.showCookie world cookie).2 :=
  client.keeps_sendProtocolMsg world (shows_ne_query cookie)

theorem keeps_tryCookies (world : World) (entries : List Xauth) :
    ∀ client : Client, Keeps client (client.tryCookies world entries).2 := by
  induction entries with
  | nil => exact Keeps.refl
  | cons xau rest ih =>
      intro client
      unfold tryCookies
      split_ifs with suits
      · have shown := keeps_showCookie world (hexCookie xau.data) client
        rcases tried : client.showCookie world (hexCookie xau.data) with ⟨_ | _, after⟩
        · rw [tried] at shown
          exact shown.trans (ih after)
        · rw [tried] at shown
          exact ⟨shown.available, shown.current, shown.answer⟩
      · exact ih client

theorem keeps_authenticateFromFile (world : World) (client : Client) :
    Keeps client (client.authenticateFromFile world).2 := by
  unfold authenticateFromFile
  cases world.authFile with
  | none => exact .refl client
  | some entries => exact keeps_tryCookies world entries client

theorem keeps_authenticateConnection (world : World) (client : Client) :
    Keeps client (client.authenticateConnection world).2 := by
  unfold authenticateConnection
  cases client.authCookie with
  | none => exact keeps_authenticateFromFile world client
  | some cookie =>
      have shown := keeps_showCookie world cookie client
      rcases tried : client.showCookie world cookie with ⟨_ | _, after⟩
      · rw [tried] at shown
        simp only [tried, Bool.false_eq_true, if_false]
        have forgotten : Keeps client { after with authCookie := none } :=
          ⟨shown.available, shown.current, shown.answer⟩
        exact forgotten.trans (keeps_authenticateFromFile world _)
      · rw [tried] at shown
        simp only [tried, if_true]
        exact shown

theorem keeps_greet (world : World) (client : Client) : Keeps client (client.greet world).2 := by
  have asked := client.keeps_sendProtocolMsg world (by decide : msgVersion ≠ msgQueryAction)
  unfold greet
  rcases sent : client.sendProtocolMsg world msgVersion with ⟨response, after⟩
  rw [sent] at asked
  have shown := asked.trans (keeps_authenticateConnection world after)
  simp only
  split_ifs with strange refused
  · exact asked.trans (keeps_shutdown after)
  · exact shown.trans (keeps_shutdown _)
  · exact shown

theorem keeps_initProtocolConnection (world : World) (client : Client) :
    Keeps client (client.initProtocolConnection world).2 := by
  unfold initProtocolConnection
  split_ifs with taken missing negative refused
  · exact ⟨rfl, rfl, rfl⟩
  · exact .refl client
  · have opened : Keeps client { client with fd := world.socket } := ⟨rfl, rfl, rfl⟩
    exact opened.trans (keeps_shutdown _)
  · have opened : Keeps client
        (({ client with fd := world.socket } : Client).emit (.opened world.socket)) :=
      ⟨rfl, rfl, rfl⟩
    exact opened.trans (keeps_shutdown _)
  · have opened : Keeps client
        (({ client with fd := world.socket } : Client).emit (.opened world.socket)) :=
      ⟨rfl, rfl, rfl⟩
    exact opened.trans (keeps_greet world _)

theorem keeps_request (world : World) {message : Bytes} (other : message ≠ msgQueryAction)
    (client : Client) : Keeps client (client.request world message) := by
  have connects := client.keeps_initProtocolConnection world
  unfold request
  rcases connected : client.initProtocolConnection world with ⟨_ | _, after⟩
  · rw [connected] at connects
    exact connects
  · rw [connected] at connects
    have asked := connects.trans (after.keeps_sendProtocolMsg world other)
    have noted : Keeps client { (after.sendProtocolMsg world message).2 with lastUpdate := 0 } :=
      ⟨asked.available, asked.current, asked.answer⟩
    exact noted.trans (keeps_shutdown _)

theorem keeps_isAvailable (world : World) (client : Client) :
    Keeps client (client.isAvailable world).2 := by
  have connects := client.keeps_initProtocolConnection world
  unfold isAvailable
  rcases connected : client.initProtocolConnection world with ⟨_ | _, after⟩
  · rw [connected] at connects
    exact connects
  · rw [connected] at connects
    exact connects.trans (keeps_shutdown after)

/-- The masks are those of the newest answer, or empty before the first. -/
structure Told (client : Client) : Prop where
  available : ∀ action, client.availableActions &&& action.code ≠ 0 ↔
    ∃ answer, newestAnswer client.log = some answer ∧ Offers answer action
  current : ∀ action, client.currentActions &&& action.code ≠ 0 ↔
    ∃ answer, newestAnswer client.log = some answer ∧ Selects answer action

theorem Told.keeps {after : Client} (told : client.Told) (keeps : Keeps client after) :
    after.Told := by
  obtain ⟨available, current, answer⟩ := keeps
  refine ⟨?_, ?_⟩
  · rw [available, answer]
    exact told.available
  · rw [current, answer]
    exact told.current

theorem told_parseQueryResponse {answer : Bytes} (newest : newestAnswer client.log = some answer) :
    (client.parseQueryResponse answer).Told := by
  obtain ⟨available, current, parsed⟩ := client.parseQueryResponse_eq answer
  have log : (client.parseQueryResponse answer).log = client.log := by rw [parsed]
  refine ⟨?_, ?_⟩
  · intro action
    rw [log, newest, (client.parseQueryResponse_iff answer action).1]
    simp
  · intro action
    rw [log, newest, (client.parseQueryResponse_iff answer action).2]
    simp

theorem Told.queryActions (told : client.Told) (world : World) :
    (client.queryActions world).Told := by
  unfold Client.queryActions
  cases client.sendProtocolMsg_cases world msgQueryAction with
  | inl unwritten =>
      rw [unwritten]
      exact told
  | inr written =>
      obtain ⟨heard, sent⟩ := written
      rw [sent]
      cases heard with
      | nil =>
          refine told.keeps ⟨rfl, rfl, if_neg fun asked => asked.2 rfl⟩
      | cons first later =>
          have full : first :: later ≠ [] := List.cons_ne_nil first later
          have newest : newestAnswer (.exchanged client.fd msgQueryAction (first :: later) ::
              client.log) = some (said (first :: later)) := if_pos ⟨rfl, full⟩
          rw [response_eq full]
          exact told_parseQueryResponse newest

theorem told_updateLogoutActions (told : client.Told) (world : World) :
    (client.updateLogoutActions world).Told := by
  unfold updateLogoutActions
  split_ifs with recent
  · exact told
  · have noted : Keeps client { client with lastUpdate := world.time } := ⟨rfl, rfl, rfl⟩
    have connects := told.keeps (noted.trans (keeps_initProtocolConnection world _))
    rcases connected : initProtocolConnection world _ with ⟨_ | _, after⟩
    · rw [connected] at connects
      exact connects
    · rw [connected] at connects
      exact (connects.queryActions world).keeps (keeps_shutdown _)

theorem told_handle (told : client.Told) (world : World) (call : Call) :
    (client.handle world call).Told := by
  cases call with
  | isAvailable => exact told.keeps (keeps_isAvailable world client)
  | supportsLogoutAction action => exact told_updateLogoutActions told world
  | getLogoutAction => exact told_updateLogoutActions told world
  | setLogoutAction action =>
      have other : msgSetAction ++ space :: action.text ≠ msgQueryAction := by
        cases action <;> decide
      exact told.keeps (keeps_request world other client)
  | newLogin =>
      have other : msgFlexiXserver ≠ msgQueryAction := by decide
      exact told.keeps (keeps_request world other client)

theorem told_reached (reached : clientSystem.Reachable client) : client.Told := by
  induction reached with
  | initial start =>
      cases start
      have empty : ∀ action : LogoutAction, ¬ LogoutAction.none.code &&& action.code ≠ 0 := by
        intro action
        cases action <;> decide
      constructor
      · intro action
        refine iff_of_false (empty action) ?_
        rintro ⟨answer, told, _⟩
        cases told
      · intro action
        refine iff_of_false (empty action) ?_
        rintro ⟨answer, told, _⟩
        cases told
  | step reached _ stepped told =>
      simp only [clientSystem, Option.ite_none_left_eq_some, Option.some.injEq] at stepped
      obtain ⟨_, rfl⟩ := stepped
      exact told_handle told _ _

end Client

theorem cString_append {text : Bytes} (plain : 0 ∉ text) (rest : Bytes) :
    cString (text ++ rest) = text ++ cString rest := by
  refine List.takeWhile_append_of_pos ?_
  intro byte inside
  have proper : byte ≠ 0 := by
    rintro rfl
    exact plain inside
  exact decide_eq_true proper

/-- A NUL cuts a read short, but only one within the answer matters. -/
theorem said_eq {heard : List Bytes} {answer rest : Bytes} (text : 0 ∉ answer)
    (sent : heard.flatten = answer ++ newline :: rest) (plain : newline ∉ answer) :
    said heard = answer := by
  induction heard generalizing answer with
  | nil => exact absurd sent.symm (List.append_ne_nil_of_right_ne_nil _ (List.cons_ne_nil _ _))
  | cons buffer later ih =>
      rw [List.flatten_cons] at sent
      rw [said, List.map_cons, List.flatten_cons]
      rcases List.append_eq_append_iff.mp sent with ⟨more, rfl, remains⟩ | ⟨more, rfl, ends⟩
      · -- the answer goes on after this read
        have front : newline ∉ buffer := fun inside => plain (List.mem_append_left _ inside)
        have whole : cString buffer = buffer := by
          have cut := cString_append (fun inside => text (List.mem_append_left more inside)) []
          rw [List.append_nil] at cut
          exact cut.trans (List.append_nil buffer)
        have continued := ih (fun inside => text (List.mem_append_right _ inside)) remains
          (fun inside => plain (List.mem_append_right _ inside))
        rw [whole, line_append front]
        exact congrArg (buffer ++ ·) continued
      · cases more with
        | nil =>
            -- the mark stands at the start of a later read
            rw [List.nil_append] at ends
            have whole : cString (answer ++ []) = answer := by
              rw [cString_append text]
              exact List.append_nil answer
            have continued := ih  List.not_mem_nil ends.symm List.not_mem_nil
            rw [whole, line_append plain]
            exact (congrArg (answer ++ ·) continued).trans (List.append_nil answer)
        | cons mark more =>
            obtain ⟨rfl, _⟩ := List.cons.inj ends
            have cut : cString (answer ++ newline :: more) = answer ++ newline :: cString more := by
              rw [cString_append text]
              rfl
            rw [cut, List.append_assoc]
            exact line_append_mark plain _

theorem newestAnswer_queryActions {client : Client} {world : World}
    (writes : (world.server (msgQueryAction :: client.sent)).writes = true)
    (full : (world.server (msgQueryAction :: client.sent)).heard ≠ []) :
    newestAnswer (client.queryActions world).log =
      some (said (world.server (msgQueryAction :: client.sent)).heard) := by
  simp only [Client.queryActions, Client.sendProtocolMsg, if_pos writes, response_eq full]
  obtain ⟨available, current, parsed⟩ := Client.parseQueryResponse_eq
    (said (world.server (msgQueryAction :: client.sent)).heard)
    (({ client with sent := msgQueryAction :: client.sent } : Client).emit
      (.exchanged client.fd msgQueryAction (world.server (msgQueryAction :: client.sent)).heard))
  rw [parsed]
  exact if_pos ⟨rfl, full⟩

/-- What the display manager sends, in whatever pieces, is the newest answer. -/
theorem newestAnswer_updateLogoutActions {client : Client} {world : World}
    {connected : Client} {answer rest : Bytes} (due : client.lastUpdate + 1 < world.time)
    (connects : Client.initProtocolConnection world { client with lastUpdate := world.time } =
      (true, connected))
    (writes : (world.server (msgQueryAction :: connected.sent)).writes = true)
    (text : 0 ∉ answer)
    (sent : (world.server (msgQueryAction :: connected.sent)).heard.flatten =
      answer ++ newline :: rest)
    (plain : newline ∉ answer) :
    newestAnswer (client.updateLogoutActions world).log = some answer := by
  have full : (world.server (msgQueryAction :: connected.sent)).heard ≠ [] := by
    intro empty
    rw [empty] at sent
    exact List.append_ne_nil_of_right_ne_nil answer (List.cons_ne_nil newline rest) sent.symm
  rw [Client.updateLogoutActions, if_neg (by omega), connects]
  simp only [if_true]
  rw [(Client.keeps_shutdown _).answer, newestAnswer_queryActions writes full,
    said_eq text sent plain]

/-- In every run, whatever the display manager does: an action is supported exactly
when the newest answer to the question lists it, and it is among the ones that are
set exactly when the answer marks it.  A question that is due, written and
answered makes what was sent up to the end of the line the newest answer, if it
has no NUL in it, in whatever pieces it was read and whatever came after it. -/
theorem actions_as_told {client : Client} (reached : clientSystem.Reachable client)
    (world : World) :
    (∀ action,
      ((client.supportsLogoutAction world action).1 = true ↔
        ∃ answer, newestAnswer (client.updateLogoutActions world).log = some answer ∧
          Offers answer action) ∧
      ((client.getLogoutAction world).1 &&& action.code ≠ 0 ↔
        ∃ answer, newestAnswer (client.updateLogoutActions world).log = some answer ∧
          Selects answer action)) ∧
    ∀ connected answer rest, client.lastUpdate + 1 < world.time →
      Client.initProtocolConnection world { client with lastUpdate := world.time } =
        (true, connected) →
      (world.server (msgQueryAction :: connected.sent)).writes = true →
      0 ∉ answer →
      (world.server (msgQueryAction :: connected.sent)).heard.flatten =
        answer ++ newline :: rest →
      newline ∉ answer →
      newestAnswer (client.updateLogoutActions world).log = some answer := by
  have updated := Client.told_updateLogoutActions (Client.told_reached reached) world
  constructor
  · intro action
    exact ⟨bne_iff_ne.trans (updated.available action), updated.current action⟩
  · intro connected answer rest due connects writes text sent plain
    exact newestAnswer_updateLogoutActions due connects writes text sent plain

/-- The display manager offers to reboot, and that is what is set. -/
theorem reboot_as_told :
    newestAnswer (Client.initial.updateLogoutActions obliging).log =
      some (ascii "OK HALT;REBOOT!;SUSPEND") ∧
    Offers (ascii "OK HALT;REBOOT!;SUSPEND") .reboot ∧
    ¬ Selects (ascii "OK HALT;REBOOT!;SUSPEND") .shutdown := by
  obtain ⟨told, asked⟩ := actions_as_told (.initial rfl) obliging
  have newest : newestAnswer (Client.initial.updateLogoutActions obliging).log =
      some (ascii "OK HALT;REBOOT!;SUSPEND") :=
    asked _ (ascii "OK HALT;REBOOT!;SUSPEND") [] (by decide) rfl rfl (by decide)
      (by decide +kernel) (by decide +kernel)
  refine ⟨newest, ?_, ?_⟩
  · obtain ⟨answer, same, offers⟩ := (told .reboot).1.mp (by decide +kernel)
    cases newest.symm.trans same
    exact offers
  · intro selects
    exact absurd ((told .shutdown).2.mpr ⟨_, newest, selects⟩) (by decide +kernel)

end CafeSession.Cdm
