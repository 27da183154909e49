import CafeSession.Arrays.Partition
import CafeSession.Xsmp.IceAuthority

namespace CafeSession.Xsmp

open CafeSession.Arrays CafeSession.Autostart CafeSession.Shell

variable {Socket : Type}

structure CsmXsmpServer (Socket : Type) where
  xsmpSockets : Array Socket
  numLocalXsmpSockets : Nat
deriving DecidableEq

/-- The connection string is that of a local transport. -/
def isLocal (id : Bytes) : Bool :=
  (ascii "local/").isPrefixOf id || (ascii "unix/").isPrefixOf id

section Sockets

variable (connectionString : Socket → Bytes)

/-- The body of the loop of `setup_listener`. -/
def CsmXsmpServer.moveLocal (server : CsmXsmpServer Socket) (i : Nat) : CsmXsmpServer Socket :=
  match server.xsmpSockets[i]? with
  | none => server
  | some socket =>
      if isLocal (connectionString socket) then
        { xsmpSockets :=
            if server.numLocalXsmpSockets < i then
              server.xsmpSockets.swapIfInBounds i server.numLocalXsmpSockets
            else
              server.xsmpSockets
          numLocalXsmpSockets := server.numLocalXsmpSockets + 1 }
      else
        server

/-- The loop of `setup_listener`. -/
def findLocalSockets (sockets : Array Socket) : CsmXsmpServer Socket :=
  (List.range sockets.size).foldl (CsmXsmpServer.moveLocal connectionString) ⟨sockets, 0⟩

end Sockets

namespace CsmXsmpServer

/-- The sockets that a loop up to `num_local_xsmp_sockets` comes to. -/
def localSockets (server : CsmXsmpServer Socket) : List Socket :=
  (List.range server.numLocalXsmpSockets).filterMap (fun i => server.xsmpSockets[i]?)

/-- `csm_xsmp_server_start`: the sockets on which connections are accepted. -/
def start (server : CsmXsmpServer Socket) : List Socket := server.localSockets

/-- `our_network_ids` of `update_iceauthority`. -/
def ourNetworkIds (networkId : Socket → NetworkId) (server : CsmXsmpServer Socket) :
    List NetworkId :=
  server.localSockets.map networkId

end CsmXsmpServer

/-- What the server finds at its start. -/
structure Surroundings (Socket : Type) where
  smsInitialize : Except String Unit
  iceListenForConnections : Except String (Array Socket)
  networkId : Socket → NetworkId
  iceComposeNetworkIdList : List Socket → Bytes
  codec : EntryCodec
  cookies : Nat → MagicCookie
  locked : Bool
  iceAuthFileName : String
  iceAuthFile : AuthFile

/-- The server, the ICE authority file and `SESSION_MANAGER` after the start. -/
structure Listening (Socket : Type) where
  server : CsmXsmpServer Socket
  iceAuthFile : AuthFile
  sessionManager : Bytes

/-- `setup_listener`; an error ends the program. -/
def setupListener (around : Surroundings Socket) : Except String (Listening Socket) :=
  match around.smsInitialize with
  | .error error => .error ("Could not initialize libSM: " ++ error)
  | .ok () =>
      match around.iceListenForConnections with
      | .error error => .error ("Could not create ICE listening socket: " ++ error)
      | .ok sockets =>
          let server := findLocalSockets (fun socket => (around.networkId socket).text) sockets
          if server.numLocalXsmpSockets = 0 then
            .error "IceListenForConnections did not return a local listener!"
          else
            let (ok, iceAuthFile) := updateIceauthority around.codec
              (server.ourNetworkIds around.networkId) around.cookies true around.locked
              around.iceAuthFile
            if ok then
              .ok
                { server := server
                  iceAuthFile := iceAuthFile
                  sessionManager := around.iceComposeNetworkIdList server.localSockets }
            else
              .error ("Could not update ICEauthority file " ++ around.iceAuthFileName)

/-- The same sockets, with exactly the local ones in front. -/
structure LocalInFront (connectionString : Socket → Bytes) (sockets : Array Socket)
    (server : CsmXsmpServer Socket) : Prop where
  perm : server.xsmpSockets.Perm sockets
  within : server.numLocalXsmpSockets ≤ server.xsmpSockets.size
  front : ∀ index (inside : index < server.xsmpSockets.size),
    index < server.numLocalXsmpSockets ↔
      isLocal (connectionString server.xsmpSockets[index]) = true

section Exact

variable {connectionString : Socket → Bytes} {sockets : Array Socket}
variable {server : CsmXsmpServer Socket} {index : Nat}

theorem split_moveLocal (split : Split (fun socket => isLocal (connectionString socket)) sockets
      server.xsmpSockets server.numLocalXsmpSockets index)
    (inside : index < server.xsmpSockets.size) :
    Split (fun socket => isLocal (connectionString socket)) sockets
      (server.moveLocal connectionString index).xsmpSockets
      (server.moveLocal connectionString index).numLocalXsmpSockets (index + 1) := by
  unfold CsmXsmpServer.moveLocal
  rw [Array.getElem?_eq_getElem inside]
  dsimp only
  split_ifs with found between
  · exact split.swap inside found between
  · exact split.keep inside found (Nat.not_lt.mp between)
  · exact split.skip inside (Bool.eq_false_iff.mpr found)

/-- The loop has gone through the array up to an index. -/
theorem split_loop (connectionString : Socket → Bytes) (sockets : Array Socket)
    (within : index ≤ sockets.size) :
    Split (fun socket => isLocal (connectionString socket)) sockets
      ((List.range index).foldl (CsmXsmpServer.moveLocal connectionString)
        ⟨sockets, 0⟩).xsmpSockets
      ((List.range index).foldl (CsmXsmpServer.moveLocal connectionString)
        ⟨sockets, 0⟩).numLocalXsmpSockets index := by
  induction index with
  | zero => exact .start _ sockets
  | succ index ih =>
      have before := ih (by omega)
      rw [List.range_succ, List.foldl_append]
      apply split_moveLocal before
      rw [before.perm.size_eq]
      exact within

theorem split_findLocalSockets (connectionString : Socket → Bytes) (sockets : Array Socket) :
    Split (fun socket => isLocal (connectionString socket)) sockets
      (findLocalSockets connectionString sockets).xsmpSockets
      (findLocalSockets connectionString sockets).numLocalXsmpSockets
      (findLocalSockets connectionString sockets).xsmpSockets.size := by
  have split := split_loop connectionString sockets (Nat.le_refl sockets.size)
  have same : (findLocalSockets connectionString sockets).xsmpSockets.size = sockets.size :=
    split.perm.size_eq
  rw [same]
  exact split

theorem localSockets_perm (connectionString : Socket → Bytes) (sockets : Array Socket) :
    (findLocalSockets connectionString sockets).localSockets.Perm
      (sockets.toList.filter (fun socket => isLocal (connectionString socket))) := by
  have split := split_findLocalSockets connectionString sockets
  rw [CsmXsmpServer.localSockets, filterMap_range]
  exact split.take_perm

theorem localInFront_findLocalSockets (connectionString : Socket → Bytes)
    (sockets : Array Socket) :
    LocalInFront connectionString sockets (findLocalSockets connectionString sockets) := by
  have split := split_findLocalSockets connectionString sockets
  exact ⟨split.perm, split.count_le, fun _ inside => split.finish inside⟩

theorem setupListener_ok {around : Surroundings Socket} {listening : Listening Socket}
    (ok : setupListener around = .ok listening) :
    ∃ sockets, around.iceListenForConnections = .ok sockets ∧
      listening.server = findLocalSockets (fun socket => (around.networkId socket).text) sockets ∧
      listening.iceAuthFile = (updateIceauthority around.codec
        (listening.server.ourNetworkIds around.networkId) around.cookies true around.locked
        around.iceAuthFile).2 ∧
      listening.sessionManager = around.iceComposeNetworkIdList listening.server.localSockets := by
  unfold setupListener at ok
  cases started : around.smsInitialize with
  | error error => simp [started] at ok
  | ok _ =>
      cases listened : around.iceListenForConnections with
      | error error => simp [started, listened] at ok
      | ok sockets =>
          simp only [started, listened] at ok
          split_ifs at ok
          cases ok
          exact ⟨sockets, rfl, rfl, rfl, rfl⟩

/-- Of any sockets the local ones come in front; those that connections are
accepted on, that are in the ICE authority file and that `SESSION_MANAGER` is
made from are the local ones, each once. -/
theorem local_listeners_only (around : Surroundings Socket) :
    (∀ (connectionString : Socket → Bytes) (sockets : Array Socket),
      LocalInFront connectionString sockets (findLocalSockets connectionString sockets)) ∧
    ∀ listening, setupListener around = .ok listening → ∃ sockets exposed,
      around.iceListenForConnections = .ok sockets ∧
      LocalInFront (fun socket => (around.networkId socket).text) sockets listening.server ∧
      exposed.Perm (sockets.toList.filter (fun socket => isLocal (around.networkId socket).text)) ∧
      listening.server.start = exposed ∧
      listening.iceAuthFile = (updateIceauthority around.codec (exposed.map around.networkId)
        around.cookies true around.locked around.iceAuthFile).2 ∧
      listening.sessionManager = around.iceComposeNetworkIdList exposed := by
  refine ⟨localInFront_findLocalSockets, ?_⟩
  intro listening ok
  obtain ⟨sockets, listened, server, file, told⟩ := setupListener_ok ok
  refine ⟨sockets, listening.server.localSockets, listened, ?_, ?_, rfl, file, told⟩
  · rw [server]
    exact localInFront_findLocalSockets _ sockets
  · rw [server]
    exact localSockets_perm _ sockets

end Exact

/-- A socket for other hosts, then one for this host. -/
def twoSockets : Surroundings NetworkId where
  smsInitialize := .ok ()
  iceListenForConnections :=
    .ok #[⟨ascii "tcp/host:6001", ⟨by decide, by decide, by decide⟩⟩, socketId]
  networkId := id
  iceComposeNetworkIdList sockets := List.intercalate [44] (sockets.map NetworkId.text)
  codec := iceCodec
  cookies _ := zeroCookie
  locked := true
  iceAuthFileName := ".ICEauthority"
  iceAuthFile := .missing true

theorem local_listeners_only_two :
    ∃ listening sockets exposed, setupListener twoSockets = .ok listening ∧
      twoSockets.iceListenForConnections = .ok sockets ∧
      exposed.Perm (sockets.toList.filter (fun socket => isLocal socket.text)) ∧
      listening.server.start = exposed := by
  obtain ⟨listening, ok⟩ : ∃ listening, setupListener twoSockets = .ok listening := ⟨_, rfl⟩
  obtain ⟨sockets, exposed, listened, _, both, start, _⟩ :=
    (local_listeners_only twoSockets).2 listening ok
  exact ⟨listening, sockets, exposed, ok, listened, both, start⟩

end CafeSession.Xsmp
