import CafeSession.Autostart.DesktopFile
import CafeSession.Streams.Lines
import CafeSession.Transition.System

/-! # Talking to the display manager

`cdm.c`: one connection to the socket of the display manager for each request,
on which the session manager greets, shows a cookie of the X authority file and
sends its request.  The display manager answers every message with a line. -/

namespace CafeSession.Cdm

open CafeSession.Autostart CafeSession.Shell CafeSession.Streams CafeSession.Transition

def msgVersion : Bytes := ascii "VERSION"

def msgAuthenticate : Bytes := ascii "AUTH_LOCAL"

def msgQueryAction : Bytes := ascii "QUERY_LOGOUT_ACTION"

def msgSetAction : Bytes := ascii "SET_SAFE_LOGOUT_ACTION"

def msgFlexiXserver : Bytes := ascii "FLEXI_XSERVER"

inductive LogoutAction where
  | none
  | shutdown
  | reboot
  | suspend
deriving DecidableEq, Repr

namespace LogoutAction

/-- The values of `CdmLogoutAction`. -/
def code : LogoutAction → UInt32
  | none => 0
  | shutdown => 1
  | reboot => 2
  | suspend => 4

/-- The `CDM_ACTION_STR` of the action. -/
def text : LogoutAction → Bytes
  | none => ascii "NONE"
  | shutdown => ascii "HALT"
  | reboot => ascii "REBOOT"
  | suspend => ascii "SUSPEND"

end LogoutAction

/-- What becomes of a message: whether it can be written, and what the reads that
follow return. -/
structure Exchange where
  writes : Bool
  reads : List Bytes

/-- The reads up to the one that returns nothing. -/
def Exchange.heard (exchange : Exchange) : List Bytes :=
  exchange.reads.takeWhile (fun buffer => buffer ≠ [])

/-- An entry of the X authority file. -/
structure Xauth where
  family : UInt16
  number : Bytes
  name : Bytes
  data : Bytes

/-- What one call to the display manager meets. -/
structure World where
  time : Int
  /-- one of the two paths of the socket is there -/
  socketExists : Bool
  /-- what `socket` returns -/
  socket : Int
  connects : Bool
  /-- by the messages written on the connection so far, newest first -/
  server : List Bytes → Exchange
  /-- the X authority file, when it can be opened -/
  authFile : Option (List Xauth)
  displayName : Bytes

/-- What has happened on the socket, newest first in `Client.log`. -/
inductive Effect where
  | opened (fd : Int)
  | exchanged (fd : Int) (message : Bytes) (heard : List Bytes)
  | closed (fd : Int)
deriving DecidableEq

/-- `CdmProtocolData`, with the messages written on the connection. -/
structure Client where
  fd : Int
  authCookie : Option Bytes
  availableActions : UInt32
  currentActions : UInt32
  lastUpdate : Int
  sent : List Bytes
  log : List Effect
  /-- the assertion of `cdm_init_protocol_connection` has failed -/
  aborted : Bool

/-- A buffer as a C string. -/
def cString (buffer : Bytes) : Bytes :=
  buffer.takeWhile (fun byte => byte ≠ 0)

/-- What `cdm_send_protocol_msg` makes of the reads. -/
def response (heard : List Bytes) : Option Bytes :=
  match heard with
  | [] => none
  | _ :: _ => some (line newline (readUntil newline [] (heard.map cString)))

namespace Client

/-- The static `cdm_protocol_data`. -/
def initial : Client where
  fd := 0
  authCookie := none
  availableActions := LogoutAction.none.code
  currentActions := LogoutAction.none.code
  lastUpdate := 0
  sent := []
  log := []
  aborted := false

def emit (effect : Effect) (client : Client) : Client :=
  { client with log := effect :: client.log }

/-- `cdm_send_protocol_msg`. -/
def sendProtocolMsg (world : World) (message : Bytes) (client : Client) : Option Bytes × Client :=
  let exchange := world.server (message :: client.sent)
  if exchange.writes then
    (response exchange.heard,
      { client with sent := message :: client.sent }.emit
        (.exchanged client.fd message exchange.heard))
  else
    (none, client)

/-- `cdm_shutdown_protocol_connection`; closing a descriptor below 0 does nothing. -/
def shutdownProtocolConnection (client : Client) : Client :=
  let closed := if 0 < client.fd then client.emit (.closed client.fd) else client
  { closed with fd := 0, sent := [] }

end Client

/-- `strncmp` finds the first bytes of two C strings equal. -/
def sameUpTo : Nat → Bytes → Bytes → Bool
  | 0, _, _ => true
  | count + 1, one, other =>
      one.headD 0 == other.headD 0 && (one.headD 0 == 0 || sameUpTo count one.tail other.tail)

abbrev colon : UInt8 := 58
abbrev dot : UInt8 := 46
abbrev semicolon : UInt8 := 59
abbrev exclamation : UInt8 := 33

def getDisplayNumber (world : World) : Bytes :=
  match world.displayName.dropWhile (fun byte => byte ≠ colon) with
  | [] => ascii "0"
  | rest => (rest.dropWhile (fun byte => byte = colon)).takeWhile (fun byte => byte ≠ dot)

def hexDigit (value : UInt8) : UInt8 :=
  if value < 10 then 48 + value else 87 + value

/-- The cookie in the format `"%02x"`. -/
def hexCookie (data : Bytes) : Bytes :=
  data.flatMap (fun byte => [hexDigit (byte / 16), hexDigit (byte % 16)])

/-- The entry is a cookie for the display. -/
def Xauth.suits (displayNumber : Bytes) (xau : Xauth) : Bool :=
  xau.family == 256 && sameUpTo xau.number.length xau.number displayNumber &&
    sameUpTo xau.name.length xau.name (ascii "MIT-MAGIC-COOKIE-1") && xau.data.length == 16

namespace Client

/-- Show a cookie; `true` when it is accepted. -/
def showCookie (world : World) (cookie : Bytes) (client : Client) : Bool × Client :=
  let (response, client) :=
    client.sendProtocolMsg world (msgAuthenticate ++ space :: cookie)
  (response = some (ascii "OK"), client)

/-- The loop over the X authority file. -/
def tryCookies (world : World) : List Xauth → Client → Bool × Client
  | [], client => (false, client)
  | xau :: rest, client =>
      if xau.suits (getDisplayNumber world) then
        let (accepted, shown) := client.showCookie world (hexCookie xau.data)
        if accepted then (true, { shown with authCookie := some (hexCookie xau.data) })
        else tryCookies world rest shown
      else
        tryCookies world rest client

/-- The part of `cdm_authenticate_connection` that reads the file. -/
def authenticateFromFile (world : World) (client : Client) : Bool × Client :=
  match world.authFile with
  | none => (false, client)
  | some entries => client.tryCookies world entries

/-- `cdm_authenticate_connection`: the cookie that was accepted last comes first. -/
def authenticateConnection (world : World) (client : Client) : Bool × Client :=
  match client.authCookie with
  | some cookie =>
      let (accepted, shown) := client.showCookie world cookie
      if accepted then (true, shown)
      else { shown with authCookie := none }.authenticateFromFile world
  | none => client.authenticateFromFile world

/-- The conversation that opens a connection. -/
def greet (world : World) (client : Client) : Bool × Client :=
  let (response, greeted) := client.sendProtocolMsg world msgVersion
  if !(response.any (fun text => (ascii "CDM ").isPrefixOf text)) then
    (false, greeted.shutdownProtocolConnection)
  else
    let (accepted, authenticated) := greeted.authenticateConnection world
    if !accepted then (false, authenticated.shutdownProtocolConnection)
    else (true, authenticated)

/-- `cdm_init_protocol_connection`. -/
def initProtocolConnection (world : World) (client : Client) : Bool × Client :=
  if 0 < client.fd then (false, { client with aborted := true })
  else if !world.socketExists then (false, client)
  else
    let opened := { client with fd := world.socket }
    if world.socket < 0 then (false, opened.shutdownProtocolConnection)
    else if !world.connects then
      (false, (opened.emit (.opened world.socket)).shutdownProtocolConnection)
    else (opened.emit (.opened world.socket)).greet world

/-- The action of a word, and whether it is the one that is set. -/
def parseAction (word : Bytes) : LogoutAction × Bool :=
  let selected := word.getLast? = some exclamation
  let name := if selected then word.dropLast else word
  (if name = LogoutAction.shutdown.text then .shutdown
    else if name = LogoutAction.reboot.text then .reboot
    else if name = LogoutAction.suspend.text then .suspend
    else .none, selected)

/-- The body of the loop over the words. -/
def noteAction (client : Client) (word : Bytes) : Client :=
  if word = [] then client
  else
    let (action, selected) := parseAction word
    { client with
        availableActions := client.availableActions ||| action.code
        currentActions :=
          if selected then client.currentActions ||| action.code else client.currentActions }

/-- `cdm_parse_query_response`. -/
def parseQueryResponse (response : Bytes) (client : Client) : Client :=
  let cleared := { client with
    availableActions := LogoutAction.none.code
    currentActions := LogoutAction.none.code }
  if !(ascii "OK ").isPrefixOf response then cleared
  else ((response.drop 3).splitOn semicolon).foldl noteAction cleared

/-- The question on an open connection. -/
def queryActions (world : World) (client : Client) : Client :=
  let (response, asked) := client.sendProtocolMsg world msgQueryAction
  match response with
  | some response => asked.parseQueryResponse response
  | none => asked

/-- `cdm_update_logout_actions`, at most once a second. -/
def updateLogoutActions (world : World) (client : Client) : Client :=
  if world.time ≤ client.lastUpdate + 1 then client
  else
    let (connected, client) :=
      { client with lastUpdate := world.time }.initProtocolConnection world
    if connected then (client.queryActions world).shutdownProtocolConnection else client

/-- A request that is not looked at again. -/
def request (world : World) (message : Bytes) (client : Client) : Client :=
  let (connected, client) := client.initProtocolConnection world
  if connected then
    { (client.sendProtocolMsg world message).2 with lastUpdate := 0 }.shutdownProtocolConnection
  else
    client

/-- `cdm_is_available`. -/
def isAvailable (world : World) (client : Client) : Bool × Client :=
  let (connected, client) := client.initProtocolConnection world
  if connected then (true, client.shutdownProtocolConnection) else (false, client)

/-- `cdm_supports_logout_action`. -/
def supportsLogoutAction (world : World) (action : LogoutAction) (client : Client) :
    Bool × Client :=
  let updated := client.updateLogoutActions world
  (updated.availableActions &&& action.code != 0, updated)

/-- `cdm_get_logout_action`. -/
def getLogoutAction (world : World) (client : Client) : UInt32 × Client :=
  let updated := client.updateLogoutActions world
  (updated.currentActions, updated)

/-- `cdm_set_logout_action`. -/
def setLogoutAction (world : World) (action : LogoutAction) (client : Client) : Client :=
  client.request world (msgSetAction ++ space :: action.text)

/-- `cdm_new_login`. -/
def newLogin (world : World) (client : Client) : Client :=
  client.request world msgFlexiXserver

end Client

inductive Call where
  | isAvailable
  | supportsLogoutAction (action : LogoutAction)
  | getLogoutAction
  | setLogoutAction (action : LogoutAction)
  | newLogin
deriving DecidableEq, Repr

structure Event where
  world : World
  call : Call

namespace Client

def handle (world : World) (client : Client) : Call → Client
  | .isAvailable => (client.isAvailable world).2
  | .supportsLogoutAction action => (client.supportsLogoutAction world action).2
  | .getLogoutAction => (client.getLogoutAction world).2
  | .setLogoutAction action => client.setLogoutAction world action
  | .newLogin => client.newLogin world

end Client

/-- Whatever is called, and whatever the display manager does; a process that has
aborted is called no more. -/
def clientSystem : System Client Event where
  initial client := client = .initial
  step client event :=
    if client.aborted then none else some (client.handle event.world event.call)

end CafeSession.Cdm
