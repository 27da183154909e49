import Mathlib.Logic.Function.Basic
import CafeSession.Transition.System

/-! # ICE connections and their sources

A connection that is made to the session manager is pending first: the XSMP server
watches it, for five seconds at most.  When XSMP is set up on it libSM has it
accepted, and from then on it is a client's, which watches it itself.  Sources of the
main loop, connections and blocks of memory are named by numbers. -/

namespace CafeSession.Xsmp.Ice

open CafeSession.Transition

/-- `CsmIceConnectionWatch`: the ids of two sources. -/
structure ConnectionWatch where
  watchId : Nat
  protocolTimeout : Nat
deriving DecidableEq

/-- The callback of a source, with its data. -/
inductive Callback where
  | protocolTimeout (iceConn : Nat)
  | authWatch (iceConn : Nat)
  | clientWatch (client : Nat)
deriving DecidableEq

/-- An `IceConn`: the address in its `context`. -/
structure IceConn where
  context : Option Nat

/-- The connection of a `CsmXSMPClient`. -/
structure Client where
  iceConnection : Option Nat
  watchId : Nat
  /-- the `SmsConn`, by its ICE connection -/
  conn : Option Nat

structure Server where
  /-- `xsmp_sockets` is not NULL -/
  listening : Bool
  sources : Nat → Option Callback := fun _ => none
  nextSource : Nat := 1
  /-- those that libICE has not freed -/
  connections : Nat → Option IceConn := fun _ => none
  nextConnection : Nat := 0
  /-- the blocks that are not freed -/
  watches : Nat → Option ConnectionWatch := fun _ => none
  nextWatch : Nat := 0
  /-- those that the client store holds, or a callback that runs -/
  clients : Nat → Option Client := fun _ => none
  nextClient : Nat := 0
  /-- freed memory was used -/
  harmed : Bool := false

/-- The answer of `IceProcessMessages`. -/
inductive ProcessResult where
  | success
  | ioError
  | connectionClosed
deriving DecidableEq

namespace Server

def harm (server : Server) : Server := { server with harmed := true }

/-- `g_source_remove`; an id without a source is a warning only. -/
def removeSource (id : Nat) (server : Server) : Server :=
  { server with sources := Function.update server.sources id none }

def addSource (callback : Callback) (server : Server) : Server :=
  { server with
      sources := Function.update server.sources server.nextSource (some callback)
      nextSource := server.nextSource + 1 }

/-- `IceCloseConnection`, without negotiation and not from a callback of the connection. -/
def closeConnection (iceConn : Nat) (server : Server) : Server :=
  match server.connections iceConn with
  | none => server.harm
  | some _ => { server with connections := Function.update server.connections iceConn none }

/-- `disconnect_ice_connection`. -/
def disconnectIceConnection (iceConn : Nat) (server : Server) : Server :=
  server.closeConnection iceConn

/-- `free_ice_connection_watch`. -/
def freeIceConnectionWatch (address : Nat) (server : Server) : Server :=
  match server.watches address with
  | none => server.harm
  | some data =>
      let server := if data.watchId ≠ 0 then server.removeSource data.watchId else server
      let server :=
        if data.protocolTimeout ≠ 0 then server.removeSource data.protocolTimeout else server
      { server with watches := Function.update server.watches address none }

/-- The block that the `context` of a connection points to. -/
def context (iceConn : Nat) (server : Server) : Option Nat :=
  (server.connections iceConn).bind IceConn.context

/-- `ice_protocol_timeout`, of the source with the id. -/
def iceProtocolTimeout (source iceConn : Nat) (server : Server) : Server :=
  match server.context iceConn with
  | none => server.harm
  | some data =>
      ((server.freeIceConnectionWatch data).disconnectIceConnection iceConn).removeSource source

/-- `auth_ice_connection`, for the connection that `IceAcceptConnection` has made. -/
def authIceConnection (iceConn : Nat) (server : Server) : Server :=
  let timeout := server.nextSource
  let server := server.addSource (.protocolTimeout iceConn)
  let watch := server.nextSource
  let server := server.addSource (.authWatch iceConn)
  { server with
      connections := Function.update server.connections iceConn (some ⟨some server.nextWatch⟩)
      watches := Function.update server.watches server.nextWatch (some ⟨watch, timeout⟩)
      nextWatch := server.nextWatch + 1 }

/-- `accept_ice_connection`, when `IceAcceptConnection` succeeds. -/
def acceptIceConnection (server : Server) : Server :=
  let iceConn := server.nextConnection
  { server with nextConnection := iceConn + 1 }.authIceConnection iceConn

/-- `setup_connection` and `csm_xsmp_client_connect` of a new client. -/
def newClient (iceConn : Nat) (server : Server) : Server :=
  let watch := server.nextSource
  let server := server.addSource (.clientWatch server.nextClient)
  { server with
      clients := Function.update server.clients server.nextClient
        (some ⟨some iceConn, watch, some iceConn⟩)
      nextClient := server.nextClient + 1 }

/-- `accept_xsmp_connection`. -/
def acceptXsmpConnection (iceConn : Nat) (server : Server) : Server :=
  if !server.listening then server
  else match server.context iceConn with
    | none => server.harm
    | some data => (server.freeIceConnectionWatch data).newClient iceConn

/-- libICE frees a connection that is closed before `IceProcessMessages` returns. -/
def processed (iceConn : Nat) (result : ProcessResult) (server : Server) : Server :=
  if result = .connectionClosed then
    { server with connections := Function.update server.connections iceConn none }
  else
    server

/-- `auth_iochannel_watch`; `accepts` when libSM calls `accept_xsmp_connection` for the
message. -/
def authIochannelWatch (source iceConn : Nat) (accepts : Bool) (result : ProcessResult)
    (server : Server) : Server :=
  match server.context iceConn with
  | none => server.harm
  | some data =>
      let server := if accepts then server.acceptXsmpConnection iceConn else server
      let server := server.processed iceConn result
      match result with
      | .success => server
      | .ioError =>
          ((server.freeIceConnectionWatch data).disconnectIceConnection iceConn).removeSource source
      | .connectionClosed => (server.freeIceConnectionWatch data).removeSource source

/-- `SmsCleanUp`, which shuts the protocol down on the connection. -/
def smsCleanUp (iceConn : Nat) (server : Server) : Server :=
  if (server.connections iceConn).isNone then server.harm else server

/-- `csm_xsmp_client_disconnect`. -/
def disconnectClient (client : Client) (server : Server) : Server :=
  let server := if 0 < client.watchId then server.removeSource client.watchId else server
  let server := match client.conn with
    | none => server
    | some iceConn => server.smsCleanUp iceConn
  match client.iceConnection with
  | none => server
  | some iceConn => server.closeConnection iceConn

/-- `csm_xsmp_client_finalize`, when the last reference of the client goes. -/
def finalizeClient (id : Nat) (server : Server) : Server :=
  match server.clients id with
  | none => server
  | some client =>
      { server.disconnectClient client with clients := Function.update server.clients id none }

/-- The session manager takes clients out of the store. -/
def removeClients (ids : List Nat) (server : Server) : Server :=
  ids.foldl (fun server id => server.finalizeClient id) server

/-- `client_iochannel_watch`, whose reference keeps its client to the end: `removed` are the
clients that the session manager takes out of the store for the messages, `lost` those it takes
out when the client says that it is disconnected. -/
def clientIochannelWatch (source id : Nat) (client : Client) (removed : List Nat)
    (result : ProcessResult) (lost : List Nat) (server : Server) : Server :=
  match client.iceConnection with
  | none => server.harm
  | some iceConn =>
      if (server.connections iceConn).isNone then server.harm
      else
        let server := (server.removeClients (removed.filter (· ≠ id))).processed iceConn result
        match result with
        | .success => if id ∈ removed then server.finalizeClient id else server
        | .ioError =>
            let server := server.removeClients (lost.filter (· ≠ id))
            let server := if id ∈ removed ∨ id ∈ lost then server.finalizeClient id else server
            server.removeSource source
        | .connectionClosed =>
            let server := { server with
              clients := Function.update server.clients id
                (some { client with iceConnection := none }) }
            let server := if id ∈ removed then server.finalizeClient id else server
            server.removeSource source

end Server

inductive Event where
  | connectionMade
  | protocolTimeout (source : Nat)
  | authReady (source : Nat) (accepts : Bool) (result : ProcessResult)
  | clientReady (source : Nat) (removed : List Nat) (result : ProcessResult) (lost : List Nat)
  /-- the session manager takes clients out of the store, on other occasions -/
  | clientsRemoved (ids : List Nat)

/-- A source is dispatched while it is attached; what follows the use of freed memory is not
said. -/
def Server.step (server : Server) (event : Event) : Option Server :=
  if server.harmed then none
  else match event with
    | .connectionMade => some server.acceptIceConnection
    | .protocolTimeout source =>
        match server.sources source with
        | some (.protocolTimeout iceConn) => some (server.iceProtocolTimeout source iceConn)
        | _ => none
    | .authReady source accepts result =>
        match server.sources source with
        | some (.authWatch iceConn) =>
            some (server.authIochannelWatch source iceConn accepts result)
        | _ => none
    | .clientReady source removed result lost =>
        match server.sources source with
        | some (.clientWatch id) =>
            match server.clients id with
            | some client =>
                some (server.clientIochannelWatch source id client removed result lost)
            -- the client was freed
            | none => some server.harm
        | _ => none
    | .clientsRemoved ids => some (server.removeClients ids)

def iceSystem (listening : Bool) : System Server Event where
  initial server := server = { listening := listening }
  step := Server.step

end CafeSession.Xsmp.Ice
