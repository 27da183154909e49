import CafeSession.Xsmp.IceConnections

namespace CafeSession.Xsmp.Ice

open CafeSession.Transition

/-- What an open connection is to the session manager. -/
inductive Role where
  /-- the address and the content of its block -/
  | pending (address : Nat) (data : ConnectionWatch)
  | client (id watchId : Nat)
deriving DecidableEq

/-- The sources for a connection in the role. -/
def Role.sources (iceConn : Nat) : Role → List (Nat × Callback)
  | .pending _ data =>
      [(data.protocolTimeout, .protocolTimeout iceConn), (data.watchId, .authWatch iceConn)]
  | .client id watchId => [(watchId, .clientWatch id)]

abbrev Roles := Nat → Option Role

/-- The connections have these roles, and there is nothing besides what they need. -/
structure Represents (roles : Roles) (server : Server) : Prop where
  unharmed : server.harmed = false
  opened : ∀ iceConn, (server.connections iceConn).isSome = (roles iceConn).isSome
  context : ∀ iceConn address data, roles iceConn = some (.pending address data) →
    server.context iceConn = some address
  watches : ∀ address data, server.watches address = some data ↔
    ∃ iceConn, roles iceConn = some (.pending address data)
  clients : ∀ id client, server.clients id = some client ↔
    ∃ iceConn, roles iceConn = some (.client id client.watchId) ∧
      client.iceConnection = some iceConn ∧ client.conn = some iceConn
  sources : ∀ id callback, server.sources id = some callback ↔
    ∃ iceConn role, roles iceConn = some role ∧ (id, callback) ∈ role.sources iceConn
  newConnection : ∀ iceConn, server.nextConnection ≤ iceConn → roles iceConn = none
  newWatch : ∀ address, server.nextWatch ≤ address → server.watches address = none
  newClient : ∀ id, server.nextClient ≤ id → server.clients id = none
  newSource : ∀ id, id = 0 ∨ server.nextSource ≤ id → server.sources id = none
  numbered : 0 < server.nextSource

/-- Each connection has its role, and so have the sources, blocks and clients. -/
def Attended (server : Server) : Prop := ∃ roles, Represents roles server

section Sources

variable {iceConn id address watchId client : Nat} {data : ConnectionWatch} {callback : Callback}

theorem mem_pending_sources :
    (id, callback) ∈ (Role.pending address data).sources iceConn ↔
      id = data.protocolTimeout ∧ callback = .protocolTimeout iceConn ∨
      id = data.watchId ∧ callback = .authWatch iceConn := by
  simp only [Role.sources, List.mem_cons, Prod.mk.injEq, List.not_mem_nil, or_false]

theorem mem_client_sources :
    (id, callback) ∈ (Role.client client watchId).sources iceConn ↔
      id = watchId ∧ callback = .clientWatch client := by
  simp only [Role.sources, List.mem_singleton, Prod.mk.injEq]

end Sources

/-- A table without one of its entries. -/
theorem update_none_eq_some {roles : Roles} {iceConn other : Nat} {role : Role} :
    Function.update roles iceConn none other = some role ↔
      other ≠ iceConn ∧ roles other = some role := by
  rw [Function.update_apply]
  split_ifs with same
  · exact iff_of_false (fun absurd => by cases absurd) (fun both => both.1 same)
  · exact (and_iff_right same).symm

namespace Represents

variable {roles : Roles} {server : Server} {iceConn other id address watchId client : Nat}
variable {role another : Role} {callback : Callback} {data : ConnectionWatch}

theorem attached (represents : Represents roles server) (held : roles iceConn = some role)
    (needed : (id, callback) ∈ role.sources iceConn) : server.sources id = some callback :=
  (represents.sources id callback).mpr ⟨iceConn, role, held, needed⟩

theorem block (represents : Represents roles server)
    (held : roles iceConn = some (.pending address data)) : server.watches address = some data :=
  (represents.watches address data).mpr ⟨iceConn, held⟩

theorem stored (represents : Represents roles server)
    (held : roles iceConn = some (.client client watchId)) :
    server.clients client = some ⟨some iceConn, watchId, some iceConn⟩ :=
  (represents.clients client ⟨some iceConn, watchId, some iceConn⟩).mpr ⟨iceConn, held, rfl, rfl⟩

theorem client_unique (represents : Represents roles server)
    (held : roles iceConn = some (.client client watchId)) {watchId' : Nat}
    (heldToo : roles other = some (.client client watchId')) : iceConn = other := by
  have same := (represents.stored held).symm.trans (represents.stored heldToo)
  cases same
  rfl

/-- A source is for one connection. -/
theorem source_unique (represents : Represents roles server) (held : roles iceConn = some role)
    (heldToo : roles other = some another) {callback' : Callback}
    (needed : (id, callback) ∈ role.sources iceConn)
    (neededToo : (id, callback') ∈ another.sources other) : iceConn = other := by
  have same : callback = callback' := by
    have first := represents.attached held needed
    exact Option.some.inj (first.symm.trans (represents.attached heldToo neededToo))
  cases role with
  | pending address data =>
      rw [mem_pending_sources] at needed
      cases another with
      | pending address' data' =>
          rw [mem_pending_sources, ← same] at neededToo
          rcases needed with ⟨_, rfl⟩ | ⟨_, rfl⟩ <;> rcases neededToo with ⟨_, names⟩ | ⟨_, names⟩ <;>
            cases names <;> rfl
      | client id' watchId' =>
          rw [mem_client_sources, ← same] at neededToo
          rcases needed with ⟨_, rfl⟩ | ⟨_, rfl⟩ <;> cases neededToo.2
  | client id' watchId' =>
      rw [mem_client_sources] at needed
      cases another with
      | pending address' data' =>
          rw [mem_pending_sources, ← same, needed.2] at neededToo
          rcases neededToo with ⟨_, names⟩ | ⟨_, names⟩ <;> cases names
      | client id'' watchId'' =>
          rw [mem_client_sources, ← same, needed.2] at neededToo
          cases neededToo.2
          exact represents.client_unique held heldToo

theorem block_unique (represents : Represents roles server)
    (held : roles iceConn = some (.pending address data)) {data' : ConnectionWatch}
    (heldToo : roles other = some (.pending address data')) : iceConn = other := by
  have same := (represents.block held).symm.trans (represents.block heldToo)
  cases same
  exact represents.source_unique held heldToo (mem_pending_sources.mpr (.inl ⟨rfl, rfl⟩))
    (mem_pending_sources.mpr (.inl ⟨rfl, rfl⟩))

end Represents

/-- Without the connection, and without what it needed. -/
def Server.leave (iceConn : Nat) (role : Role) (server : Server) : Server :=
  let server := { server with connections := Function.update server.connections iceConn none }
  match role with
  | .pending address data =>
      { (server.removeSource data.watchId).removeSource data.protocolTimeout with
        watches := Function.update server.watches address none }
  | .client client watchId =>
      { server.removeSource watchId with clients := Function.update server.clients client none }

section Leaving

variable {roles : Roles} {server : Server} {iceConn id : Nat} {role : Role}

theorem sources_leave_of_needed {callback : Callback}
    (needed : (id, callback) ∈ role.sources iceConn) :
    (server.leave iceConn role).sources id = none := by
  cases role with
  | pending address data =>
      rw [mem_pending_sources] at needed
      change Function.update (Function.update server.sources data.watchId none)
        data.protocolTimeout none id = none
      rcases needed with ⟨rfl, _⟩ | ⟨rfl, _⟩
      · exact Function.update_self ..
      · rw [Function.update_apply, Function.update_self, ite_self]
  | client client watchId =>
      rw [mem_client_sources] at needed
      rw [needed.1]
      exact Function.update_self ..

theorem sources_leave_of_not (unneeded : ∀ callback, (id, callback) ∉ role.sources iceConn) :
    (server.leave iceConn role).sources id = server.sources id := by
  cases role with
  | pending address data =>
      have timeout : id ≠ data.protocolTimeout := fun same =>
        unneeded _ (mem_pending_sources.mpr (.inl ⟨same, rfl⟩))
      have watch : id ≠ data.watchId := fun same =>
        unneeded _ (mem_pending_sources.mpr (.inr ⟨same, rfl⟩))
      exact (Function.update_of_ne timeout ..).trans (Function.update_of_ne watch ..)
  | client client watchId =>
      have watch : id ≠ watchId := fun same => unneeded _ (mem_client_sources.mpr ⟨same, rfl⟩)
      exact Function.update_of_ne watch ..

theorem connections_leave (iceConn : Nat) (role : Role) (server : Server) :
    (server.leave iceConn role).connections =
      Function.update server.connections iceConn none := by
  cases role <;> rfl

theorem watches_leave (represents : Represents roles server) (held : roles iceConn = some role)
    (address : Nat) (data : ConnectionWatch) :
    (server.leave iceConn role).watches address = some data ↔
      ∃ other, Function.update roles iceConn none other = some (.pending address data) := by
  simp only [update_none_eq_some]
  cases role with
  | client client watchId =>
      refine (represents.watches address data).trans (exists_congr fun other => ?_)
      refine (and_iff_right_of_imp ?_).symm
      rintro pending rfl
      cases held.symm.trans pending
  | pending freed data' =>
      change Function.update server.watches freed none address = some data ↔ _
      rw [Function.update_apply]
      split_ifs with same
      · subst same
        refine iff_of_false (fun absurd => by cases absurd) ?_
        rintro ⟨other, apart, pending⟩
        exact apart (represents.block_unique held pending).symm
      · refine (represents.watches address data).trans (exists_congr fun other => ?_)
        refine (and_iff_right_of_imp ?_).symm
        rintro pending rfl
        cases held.symm.trans pending
        exact same rfl

theorem clients_leave (represents : Represents roles server) (held : roles iceConn = some role)
    (id : Nat) (client : Client) :
    (server.leave iceConn role).clients id = some client ↔
      ∃ other, Function.update roles iceConn none other = some (.client id client.watchId) ∧
        client.iceConnection = some other ∧ client.conn = some other := by
  simp only [update_none_eq_some]
  cases role with
  | pending address data =>
      refine (represents.clients id client).trans (exists_congr fun other => ?_)
      refine and_congr_left fun _ => (and_iff_right_of_imp ?_).symm
      rintro accepted rfl
      cases held.symm.trans accepted
  | client gone watchId =>
      change Function.update server.clients gone none id = some client ↔ _
      rw [Function.update_apply]
      split_ifs with same
      · subst same
        refine iff_of_false (fun absurd => by cases absurd) ?_
        rintro ⟨other, ⟨apart, accepted⟩, _⟩
        exact apart (represents.client_unique held accepted).symm
      · refine (represents.clients id client).trans (exists_congr fun other => ?_)
        refine and_congr_left fun _ => (and_iff_right_of_imp ?_).symm
        rintro accepted rfl
        cases held.symm.trans accepted
        exact same rfl

theorem sources_leave (represents : Represents roles server) (held : roles iceConn = some role)
    (id : Nat) (callback : Callback) :
    (server.leave iceConn role).sources id = some callback ↔
      ∃ other another, Function.update roles iceConn none other = some another ∧
        (id, callback) ∈ another.sources other := by
  simp only [update_none_eq_some]
  by_cases needed : ∃ callback', (id, callback') ∈ role.sources iceConn
  · obtain ⟨callback', needed⟩ := needed
    rw [sources_leave_of_needed needed]
    refine iff_of_false (fun absurd => by cases absurd) ?_
    rintro ⟨other, another, ⟨apart, heldToo⟩, neededToo⟩
    exact apart (represents.source_unique held heldToo needed neededToo).symm
  · rw [sources_leave_of_not (not_exists.mp needed), represents.sources]
    refine exists_congr fun other => exists_congr fun another => ?_
    refine and_congr_left fun neededToo => (and_iff_right_of_imp ?_).symm
    rintro heldToo rfl
    cases held.symm.trans heldToo
    exact needed ⟨callback, neededToo⟩

/-- A connection that goes with what it needed leaves the others as they are. -/
theorem Represents.leave (represents : Represents roles server)
    (held : roles iceConn = some role) :
    Represents (Function.update roles iceConn none) (server.leave iceConn role) where
  unharmed := by
    cases role <;> exact represents.unharmed
  opened other := by
    rw [connections_leave, Function.update_apply, Function.update_apply]
    split_ifs
    · rfl
    · exact represents.opened other
  context other address data pending := by
    obtain ⟨apart, pending⟩ := update_none_eq_some.mp pending
    rw [Server.context, connections_leave, Function.update_of_ne apart]
    exact represents.context other address data pending
  watches := watches_leave represents held
  clients := clients_leave represents held
  sources := sources_leave represents held
  newConnection other new := by
    have later : server.nextConnection ≤ other := by cases role <;> exact new
    rw [Function.update_apply, represents.newConnection other later, ite_self]
  newWatch address new := by
    cases role with
    | client client watchId => exact represents.newWatch address new
    | pending freed data =>
        change Function.update server.watches freed none address = none
        rw [Function.update_apply, represents.newWatch address new, ite_self]
  newClient client new := by
    cases role with
    | pending address data => exact represents.newClient client new
    | client gone watchId =>
        change Function.update server.clients gone none client = none
        rw [Function.update_apply, represents.newClient client new, ite_self]
  newSource source new := by
    have none_before : server.sources source = none :=
      represents.newSource source (by cases role <;> exact new)
    by_cases needed : ∃ callback, (source, callback) ∈ role.sources iceConn
    · obtain ⟨callback, needed⟩ := needed
      exact sources_leave_of_needed needed
    · rw [sources_leave_of_not (not_exists.mp needed), none_before]
  numbered := by
    cases role <;> exact represents.numbered

end Leaving

section Coming

variable {roles : Roles} {server : Server} {iceConn : Nat} {role : Role}

theorem update_some_eq_some (absent : roles iceConn = none) {other : Nat} {another : Role} :
    Function.update roles iceConn (some role) other = some another ↔
      other = iceConn ∧ another = role ∨ roles other = some another := by
  rw [Function.update_apply]
  split_ifs with same
  · rw [same, absent, Option.some.injEq, eq_comm]
    simp
  · simp [same]

/-- A state with the connection and what it needs in addition. -/
structure Comes (iceConn : Nat) (role : Role) (server after : Server) : Prop where
  unharmed : after.harmed = server.harmed
  opened : after.connections = Function.update server.connections iceConn
    (some ⟨after.context iceConn⟩)
  context : ∀ address data, role = .pending address data → after.context iceConn = some address
  watches : ∀ address data, after.watches address = some data ↔
    role = .pending address data ∨ server.watches address = some data
  clients : ∀ id client, after.clients id = some client ↔
    role = .client id client.watchId ∧ client.iceConnection = some iceConn ∧
      client.conn = some iceConn ∨ server.clients id = some client
  sources : ∀ id callback, after.sources id = some callback ↔
    (id, callback) ∈ role.sources iceConn ∨ server.sources id = some callback
  newConnection : server.nextConnection ≤ after.nextConnection ∧ iceConn < after.nextConnection
  newWatch : ∀ address, after.nextWatch ≤ address → after.watches address = none
  newClient : ∀ id, after.nextClient ≤ id → after.clients id = none
  newSource : ∀ id, id = 0 ∨ after.nextSource ≤ id → after.sources id = none
  numbered : 0 < after.nextSource

theorem Represents.comes {after : Server} (represents : Represents roles server)
    (absent : roles iceConn = none) (comes : Comes iceConn role server after) :
    Represents (Function.update roles iceConn (some role)) after where
  unharmed := comes.unharmed.trans represents.unharmed
  opened other := by
    rw [comes.opened, Function.update_apply, Function.update_apply]
    split_ifs
    · rfl
    · exact represents.opened other
  context other address data pending := by
    by_cases same : other = iceConn
    · subst same
      rw [Function.update_self, Option.some.injEq] at pending
      exact comes.context address data pending
    · rw [Function.update_of_ne same] at pending
      rw [Server.context, comes.opened, Function.update_of_ne same]
      exact represents.context other address data pending
  watches address data := by
    rw [comes.watches, represents.watches]
    simp only [update_some_eq_some absent, exists_or, exists_eq_left, @eq_comm _ _ role]
  clients id client := by
    rw [comes.clients, represents.clients]
    simp only [update_some_eq_some absent, or_and_right, exists_or, and_assoc, exists_eq_left,
      @eq_comm _ _ role]
  sources id callback := by
    rw [comes.sources, represents.sources]
    simp only [update_some_eq_some absent, or_and_right, exists_or, and_assoc, exists_eq_left,
      exists_and_left]
  newConnection other new := by
    rw [Function.update_of_ne (Nat.ne_of_gt (Nat.lt_of_lt_of_le comes.newConnection.2 new))]
    exact represents.newConnection other (Nat.le_trans comes.newConnection.1 new)
  newWatch := comes.newWatch
  newClient := comes.newClient
  newSource := comes.newSource
  numbered := comes.numbered

theorem comes_acceptIceConnection (represents : Represents roles server) :
    Comes server.nextConnection
      (.pending server.nextWatch ⟨server.nextSource + 1, server.nextSource⟩) server
      server.acceptIceConnection := by
  have connections : server.acceptIceConnection.connections =
      Function.update server.connections server.nextConnection (some ⟨some server.nextWatch⟩) := rfl
  have watches : server.acceptIceConnection.watches = Function.update server.watches
      server.nextWatch (some ⟨server.nextSource + 1, server.nextSource⟩) := rfl
  have sources : server.acceptIceConnection.sources = Function.update
      (Function.update server.sources server.nextSource
        (some (.protocolTimeout server.nextConnection)))
      (server.nextSource + 1) (some (.authWatch server.nextConnection)) := rfl
  have context : server.acceptIceConnection.context server.nextConnection =
      some server.nextWatch := by
    rw [Server.context, connections, Function.update_self]
    rfl
  exact {
    unharmed := rfl
    opened := by rw [context, connections]
    context := fun address data same => by
      cases same
      exact context
    watches := fun address data => by
      rw [watches, Function.update_apply]
      split_ifs with same
      · rw [same, represents.newWatch _ (Nat.le_refl _), Option.some.injEq]
        simp
      · simp [Ne.symm same]
    clients := fun id client => by
      refine (or_iff_right ?_).symm
      rintro ⟨absurd, _⟩
      cases absurd
    sources := fun id callback => by
      rw [sources, mem_pending_sources, Function.update_apply, Function.update_apply]
      split_ifs with watch timeout
      · rw [watch, represents.newSource _ (.inr (Nat.le_succ _)), Option.some.injEq]
        simp [eq_comm]
      · rw [timeout, represents.newSource _ (.inr (Nat.le_refl _)), Option.some.injEq]
        simp [eq_comm]
      · simp [watch, timeout]
    newConnection := ⟨Nat.le_succ _, Nat.lt_succ_self _⟩
    newWatch := fun address new => by
      have later : server.nextWatch + 1 ≤ address := new
      rw [watches, Function.update_of_ne (Nat.ne_of_gt later)]
      exact represents.newWatch address (Nat.le_of_succ_le later)
    newClient := represents.newClient
    newSource := fun id new => by
      have later : id = 0 ∨ server.nextSource + 1 + 1 ≤ id := new
      have positive := represents.numbered
      rw [sources, Function.update_of_ne (by omega), Function.update_of_ne (by omega)]
      exact represents.newSource id (by omega)
    numbered := Nat.succ_pos _ }

theorem Represents.source_ne_zero (represents : Represents roles server) {id : Nat}
    {callback : Callback} (attached : server.sources id = some callback) : id ≠ 0 := by
  rintro rfl
  cases (represents.newSource 0 (.inl rfl)).symm.trans attached

/-- Freeing the block of a pending connection takes all away that it needed, whatever has
become of the connections. -/
theorem freeIceConnectionWatch_eq (represents : Represents roles server) {address : Nat}
    {data : ConnectionWatch} (held : roles iceConn = some (.pending address data))
    (connections : Nat → Option IceConn) :
    { server with connections := connections }.freeIceConnectionWatch address =
      { server.leave iceConn (.pending address data) with connections := connections } := by
  have timeout : data.protocolTimeout ≠ 0 := represents.source_ne_zero
    (represents.attached held (mem_pending_sources.mpr (.inl ⟨rfl, rfl⟩)))
  have watch : data.watchId ≠ 0 := represents.source_ne_zero
    (represents.attached held (mem_pending_sources.mpr (.inr ⟨rfl, rfl⟩)))
  unfold Server.freeIceConnectionWatch
  dsimp only
  rw [represents.block held]
  dsimp only
  rw [if_pos watch, if_pos timeout]
  rfl

theorem Represents.open_of_role (represents : Represents roles server)
    (held : roles iceConn = some role) : ∃ entry, server.connections iceConn = some entry := by
  have opened := represents.opened iceConn
  rw [held] at opened
  exact Option.isSome_iff_exists.mp opened

/-- With the connection open again. -/
def Server.reopen (iceConn : Nat) (entry : IceConn) (server : Server) : Server :=
  { server with connections := Function.update server.connections iceConn (some entry) }

theorem reopen_leave {entry : IceConn} (opened : server.connections iceConn = some entry) :
    (server.leave iceConn role).reopen iceConn entry =
      { server.leave iceConn role with connections := server.connections } := by
  unfold Server.reopen
  rw [connections_leave, Function.update_idem, ← opened, Function.update_eq_self]

theorem acceptXsmpConnection_eq (represents : Represents roles server) {address : Nat}
    {data : ConnectionWatch} (held : roles iceConn = some (.pending address data))
    (listening : server.listening = true) {entry : IceConn}
    (opened : server.connections iceConn = some entry) :
    server.acceptXsmpConnection iceConn =
      ((server.leave iceConn (.pending address data)).reopen iceConn entry).newClient iceConn := by
  unfold Server.acceptXsmpConnection
  rw [listening, represents.context iceConn address data held]
  dsimp only [Bool.not_true, Bool.false_eq_true, if_false]
  rw [freeIceConnectionWatch_eq represents held server.connections, reopen_leave opened]
  rfl

theorem comes_newClient {left after : Server} (represents : Represents roles left)
    {entry : IceConn}
    (joined : (left.reopen iceConn entry).newClient iceConn = after)
    (used : iceConn < left.nextConnection) :
    Comes iceConn (.client left.nextClient left.nextSource) left after := by
  subst joined
  have context : ((left.reopen iceConn entry).newClient iceConn).context iceConn =
      entry.context := by
    change (Function.update left.connections iceConn (some entry) iceConn).bind _ = _
    rw [Function.update_self]
    rfl
  exact {
    unharmed := rfl
    opened := by
      rw [context]
      rfl
    context := fun address data absurd => by cases absurd
    watches := fun address data => by
      refine (or_iff_right ?_).symm
      intro absurd
      cases absurd
    clients := fun id client => by
      change Function.update left.clients left.nextClient
        (some ⟨some iceConn, left.nextSource, some iceConn⟩) id = some client ↔ _
      rw [Function.update_apply]
      split_ifs with same
      · rw [same, represents.newClient _ (Nat.le_refl _), Option.some.injEq]
        constructor
        · rintro rfl
          exact .inl ⟨rfl, rfl, rfl⟩
        · rintro (⟨names, connection, protocol⟩ | absurd)
          · obtain ⟨connected, watch, sms⟩ := client
            cases connection
            cases protocol
            cases names
            rfl
          · cases absurd
      · refine (or_iff_right ?_).symm
        rintro ⟨names, _⟩
        exact same (Role.client.inj names).1.symm
    sources := fun id callback => by
      change Function.update left.sources left.nextSource
        (some (.clientWatch left.nextClient)) id = some callback ↔ _
      rw [mem_client_sources, Function.update_apply]
      split_ifs with same
      · rw [same, represents.newSource _ (.inr (Nat.le_refl _)), Option.some.injEq]
        simp [eq_comm]
      · simp [same]
    newConnection := ⟨Nat.le_refl _, used⟩
    newWatch := represents.newWatch
    newClient := fun id new => by
      have later : left.nextClient + 1 ≤ id := new
      change Function.update left.clients left.nextClient _ id = none
      rw [Function.update_of_ne (Nat.ne_of_gt later)]
      exact represents.newClient id (Nat.le_of_succ_le later)
    newSource := fun id new => by
      have later : id = 0 ∨ left.nextSource + 1 ≤ id := new
      have positive := represents.numbered
      change Function.update left.sources left.nextSource _ id = none
      rw [Function.update_of_ne (by omega)]
      exact represents.newSource id (by omega)
    numbered := Nat.succ_pos _ }

theorem Represents.used (represents : Represents roles server) (held : roles iceConn = some role) :
    iceConn < server.nextConnection := by
  by_contra unused
  cases (represents.newConnection iceConn (Nat.le_of_not_lt unused)).symm.trans held

theorem Represents.accepted (represents : Represents roles server) {address : Nat}
    {data : ConnectionWatch} (held : roles iceConn = some (.pending address data))
    (listening : server.listening = true) :
    Represents (Function.update roles iceConn
        (some (.client server.nextClient server.nextSource)))
      (server.acceptXsmpConnection iceConn) := by
  obtain ⟨entry, opened⟩ := represents.open_of_role held
  have left := represents.leave held
  have gone : Function.update roles iceConn none iceConn = none := Function.update_self ..
  have joined := (acceptXsmpConnection_eq represents held listening opened).symm
  have comes := left.comes gone (comes_newClient left joined (represents.used held))
  rw [Function.update_idem] at comes
  exact comes

end Coming

section Callbacks

variable {roles : Roles} {server : Server} {iceConn source id watchId address : Nat}
variable {role : Role} {data : ConnectionWatch} {callback : Callback}

theorem removeSource_leave (needed : (source, callback) ∈ role.sources iceConn) :
    (server.leave iceConn role).removeSource source = server.leave iceConn role := by
  unfold Server.removeSource
  rw [Function.update_eq_self_iff.mpr (sources_leave_of_needed needed).symm]

theorem closeConnection_open {entry : IceConn} (opened : server.connections iceConn = some entry) :
    server.closeConnection iceConn =
      { server with connections := Function.update server.connections iceConn none } := by
  unfold Server.closeConnection
  rw [opened]

theorem smsCleanUp_open {entry : IceConn} (opened : server.connections iceConn = some entry) :
    server.smsCleanUp iceConn = server := by
  unfold Server.smsCleanUp
  rw [opened]
  rfl

/-- A pending connection is closed by the session manager, or has been by libICE. -/
theorem free_and_close_eq (represents : Represents roles server)
    (held : roles iceConn = some (.pending address data))
    (needed : (source, callback) ∈ (Role.pending address data).sources iceConn) :
    ((server.freeIceConnectionWatch address).disconnectIceConnection iceConn).removeSource source =
      server.leave iceConn (.pending address data) := by
  obtain ⟨entry, opened⟩ := represents.open_of_role held
  have freed := freeIceConnectionWatch_eq represents held server.connections
  have open_still : (server.freeIceConnectionWatch address).connections iceConn = some entry := by
    rw [freed]
    exact opened
  have closed : (server.freeIceConnectionWatch address).disconnectIceConnection iceConn =
      server.leave iceConn (.pending address data) := by
    rw [Server.disconnectIceConnection, closeConnection_open open_still, freed]
    rfl
  rw [closed, removeSource_leave needed]

theorem free_processed_eq (represents : Represents roles server)
    (held : roles iceConn = some (.pending address data))
    (needed : (source, callback) ∈ (Role.pending address data).sources iceConn) :
    ((server.processed iceConn .connectionClosed).freeIceConnectionWatch address).removeSource
      source = server.leave iceConn (.pending address data) := by
  have freed : (server.processed iceConn .connectionClosed).freeIceConnectionWatch address =
      server.leave iceConn (.pending address data) := by
    rw [Server.processed, if_pos rfl, freeIceConnectionWatch_eq represents held]
    rfl
  rw [freed, removeSource_leave needed]

theorem finalizeClient_eq (represents : Represents roles server)
    (held : roles iceConn = some (.client id watchId)) :
    server.finalizeClient id = server.leave iceConn (.client id watchId) := by
  obtain ⟨entry, opened⟩ := represents.open_of_role held
  have watch : watchId ≠ 0 := represents.source_ne_zero
    (represents.attached held (mem_client_sources.mpr ⟨rfl, rfl⟩))
  have open_still : (server.removeSource watchId).connections iceConn = some entry := opened
  have disconnected : server.disconnectClient ⟨some iceConn, watchId, some iceConn⟩ =
      (server.removeSource watchId).closeConnection iceConn := by
    unfold Server.disconnectClient
    dsimp only
    rw [if_pos (Nat.pos_of_ne_zero watch), smsCleanUp_open open_still]
  unfold Server.finalizeClient
  rw [represents.stored held]
  dsimp only
  rw [disconnected, closeConnection_open open_still]
  rfl

/-- The clients that are taken out go with their connections, and the others stay. -/
theorem Represents.removeClients (ids : List Nat) : ∀ {roles : Roles} {server : Server},
    Represents roles server → ∃ kept, Represents kept (server.removeClients ids) ∧
      ∀ iceConn id watchId, id ∉ ids → roles iceConn = some (.client id watchId) →
        kept iceConn = some (.client id watchId) := by
  induction ids with
  | nil => exact fun represents => ⟨_, represents, fun _ _ _ _ held => held⟩
  | cons first ids ih =>
      intro roles server represents
      cases stored : server.clients first with
      | none =>
          have gone : server.finalizeClient first = server := by
            rw [Server.finalizeClient, stored]
          obtain ⟨kept, after, same⟩ := ih represents
          refine ⟨kept, ?_, fun iceConn id watchId other held => ?_⟩
          · rw [Server.removeClients, List.foldl_cons, gone]
            exact after
          · exact same iceConn id watchId (fun later => other (List.mem_cons_of_mem _ later)) held
      | some client =>
          obtain ⟨iceConn, held, _⟩ := (represents.clients first client).mp stored
          obtain ⟨kept, after, same⟩ := ih (represents.leave held)
          refine ⟨kept, ?_, fun other id watchId apart heldToo => ?_⟩
          · rw [Server.removeClients, List.foldl_cons, finalizeClient_eq represents held]
            exact after
          · rw [List.mem_cons, not_or] at apart
            refine same other id watchId apart.2 (update_none_eq_some.mpr ⟨?_, heldToo⟩)
            rintro rfl
            cases held.symm.trans heldToo
            exact apart.1 rfl

theorem not_attended_of_harmed (harmed : server.harmed = true) : ¬ Attended server := by
  rintro ⟨roles, represents⟩
  cases represents.unharmed.symm.trans harmed

theorem closeConnection_harmed (harmed : server.harmed = true) :
    (server.closeConnection iceConn).harmed = true := by
  unfold Server.closeConnection
  cases server.connections iceConn with
  | none => rfl
  | some entry => exact harmed

theorem freeIceConnectionWatch_freed (freed : server.watches address = none) :
    (server.freeIceConnectionWatch address).harmed = true := by
  unfold Server.freeIceConnectionWatch
  rw [freed]
  rfl

/-- A client that is left without its source is not attended to. -/
theorem not_attended_removeSource (represents : Represents roles server)
    (held : roles iceConn = some (.client id source)) :
    ¬ Attended (server.removeSource source) := by
  rintro ⟨others, attended⟩
  obtain ⟨other, heldToo, _⟩ :=
    (attended.clients id ⟨some iceConn, source, some iceConn⟩).mp (represents.stored held)
  have attached := attended.attached heldToo (mem_client_sources.mpr ⟨rfl, rfl⟩)
  have removed : (server.removeSource source).sources source = none := Function.update_self ..
  cases removed.symm.trans attached

/-- A client without its connection is not attended to. -/
theorem not_attended_of_unconnected {client : Client} (stored : server.clients id = some client)
    (closed : client.iceConnection = none) : ¬ Attended server := by
  rintro ⟨roles, represents⟩
  obtain ⟨iceConn, _, connected, _⟩ := (represents.clients id client).mp stored
  cases closed.symm.trans connected

/-- `SmsCleanUp` uses the connection that libICE has freed. -/
theorem finalizeClient_harmed
    (stored : server.clients id = some ⟨none, watchId, some iceConn⟩)
    (closed : server.connections iceConn = none) : (server.finalizeClient id).harmed = true := by
  have cleaned (other : Server) (gone : other.connections iceConn = none) :
      (other.smsCleanUp iceConn).harmed = true := by
    unfold Server.smsCleanUp
    rw [gone]
    rfl
  unfold Server.finalizeClient
  rw [stored]
  dsimp only [Server.disconnectClient]
  apply cleaned
  split_ifs <;> exact closed

theorem Represents.pending_of_source (represents : Represents roles server)
    (attached : server.sources source = some callback)
    (waits : callback = .protocolTimeout iceConn ∨ callback = .authWatch iceConn) :
    ∃ address data, roles iceConn = some (.pending address data) ∧
      (source, callback) ∈ (Role.pending address data).sources iceConn := by
  obtain ⟨other, role, held, needed⟩ := (represents.sources source callback).mp attached
  cases role with
  | client id watchId =>
      have names := (mem_client_sources.mp needed).2
      rcases waits with waits | waits <;> cases names.symm.trans waits
  | pending address data =>
      have same : other = iceConn := by
        rcases mem_pending_sources.mp needed with ⟨_, names⟩ | ⟨_, names⟩ <;>
          rcases waits with waits | waits <;> cases names.symm.trans waits <;> rfl
      rw [same] at held needed
      exact ⟨address, data, held, needed⟩

theorem Represents.client_of_source (represents : Represents roles server)
    (attached : server.sources source = some (.clientWatch id)) :
    ∃ iceConn, roles iceConn = some (.client id source) := by
  obtain ⟨iceConn, role, held, needed⟩ := (represents.sources source _).mp attached
  cases role with
  | pending address data =>
      rcases mem_pending_sources.mp needed with ⟨_, names⟩ | ⟨_, names⟩ <;> cases names
  | client owner watchId =>
      obtain ⟨rfl, names⟩ := mem_client_sources.mp needed
      cases names
      exact ⟨iceConn, held⟩

theorem Represents.timedOut (represents : Represents roles server)
    (attached : server.sources source = some (.protocolTimeout iceConn)) :
    Attended (server.iceProtocolTimeout source iceConn) := by
  obtain ⟨address, data, held, needed⟩ := represents.pending_of_source attached (.inl rfl)
  unfold Server.iceProtocolTimeout
  rw [represents.context iceConn address data held]
  dsimp only
  rw [free_and_close_eq represents held needed]
  exact ⟨_, represents.leave held⟩

/-- Without the session manager accepting it the connection stays pending, or it goes. -/
theorem Represents.notAccepted (represents : Represents roles server)
    (held : roles iceConn = some (.pending address data))
    (needed : (source, callback) ∈ (Role.pending address data).sources iceConn)
    (result : ProcessResult) :
    Attended (server.authIochannelWatch source iceConn false result) := by
  unfold Server.authIochannelWatch
  rw [represents.context iceConn address data held]
  dsimp only [Bool.false_eq_true, if_false]
  cases result with
  | success => exact ⟨roles, represents⟩
  | ioError =>
      exact ⟨_, (free_and_close_eq represents held needed).symm ▸ represents.leave held⟩
  | connectionClosed =>
      exact ⟨_, (free_processed_eq represents held needed).symm ▸ represents.leave held⟩

theorem watches_accepted (represents : Represents roles server)
    (held : roles iceConn = some (.pending address data)) (listening : server.listening = true) :
    (server.acceptXsmpConnection iceConn).watches address = none := by
  obtain ⟨entry, opened⟩ := represents.open_of_role held
  rw [acceptXsmpConnection_eq represents held listening opened]
  exact Function.update_self ..

/-- What `accept_xsmp_connection` frees `auth_iochannel_watch` frees again, unless the
messages were processed. -/
theorem accepted_attended_iff (represents : Represents roles server)
    (held : roles iceConn = some (.pending address data)) (listening : server.listening = true)
    (result : ProcessResult) :
    Attended (server.authIochannelWatch source iceConn true result) ↔ result = .success := by
  have freed := watches_accepted represents held listening
  unfold Server.authIochannelWatch
  rw [represents.context iceConn address data held]
  dsimp only [if_true]
  cases result with
  | success => exact iff_of_true ⟨_, represents.accepted held listening⟩ rfl
  | ioError =>
      refine iff_of_false (not_attended_of_harmed ?_) (fun absurd => by cases absurd)
      exact closeConnection_harmed (freeIceConnectionWatch_freed freed)
  | connectionClosed =>
      refine iff_of_false (not_attended_of_harmed ?_) (fun absurd => by cases absurd)
      exact freeIceConnectionWatch_freed freed

theorem authReady_attended_iff (represents : Represents roles server)
    (held : roles iceConn = some (.pending address data))
    (needed : (source, callback) ∈ (Role.pending address data).sources iceConn)
    (accepts : Bool) (result : ProcessResult) :
    Attended (server.authIochannelWatch source iceConn accepts result) ↔
      (accepts = true → server.listening = true → result = .success) := by
  cases accepts with
  | false =>
      refine iff_of_true (represents.notAccepted held needed result) ?_
      intro absurd
      cases absurd
  | true =>
      cases listening : server.listening with
      | true =>
          refine (accepted_attended_iff represents held listening result).trans ?_
          exact ⟨fun success _ _ => success, fun proper => proper rfl rfl⟩
      | false =>
          -- `accept_xsmp_connection` returns at once
          have ignored : server.authIochannelWatch source iceConn true result =
              server.authIochannelWatch source iceConn false result := by
            unfold Server.authIochannelWatch Server.acceptXsmpConnection
            rw [listening]
            rfl
          rw [ignored]
          refine iff_of_true (represents.notAccepted held needed result) ?_
          intro _ absurd
          cases absurd

theorem Represents.finalized (represents : Represents roles server)
    (held : roles iceConn = some (.client id watchId)) : Attended (server.finalizeClient id) :=
  ⟨_, (finalizeClient_eq represents held).symm ▸ represents.leave held⟩

/-- The others that are taken out go before the client of the callback. -/
theorem Represents.removeOthers (represents : Represents roles server)
    (held : roles iceConn = some (.client id watchId)) (ids : List Nat) :
    ∃ kept, Represents kept (server.removeClients (ids.filter (· ≠ id))) ∧
      kept iceConn = some (.client id watchId) := by
  obtain ⟨kept, after, same⟩ := represents.removeClients (ids.filter (· ≠ id))
  refine ⟨kept, after, same iceConn id watchId (fun listed => ?_) held⟩
  exact of_decide_eq_true (List.mem_filter.mp listed).2 rfl

/-- A client is lost with its connection just when the session manager takes it out of the
store for an error of the connection. -/
theorem clientReady_attended_iff (represents : Represents roles server)
    (held : roles iceConn = some (.client id source)) (removed lost : List Nat)
    (result : ProcessResult) :
    Attended (server.clientIochannelWatch source id ⟨some iceConn, source, some iceConn⟩ removed
        result lost) ↔
      result = .success ∨ result = .ioError ∧ (id ∈ removed ∨ id ∈ lost) := by
  obtain ⟨entry, opened⟩ := represents.open_of_role held
  obtain ⟨kept, others, stays⟩ := represents.removeOthers held removed
  have connected : ¬ (server.connections iceConn).isNone = true := by
    rw [opened]
    exact Bool.false_ne_true
  unfold Server.clientIochannelWatch
  dsimp only
  rw [if_neg connected]
  cases result with
  | success =>
      refine iff_of_true ?_ (.inl rfl)
      dsimp only
      split_ifs
      · exact others.finalized stays
      · exact ⟨kept, others⟩
  | ioError =>
      obtain ⟨still, left, remains⟩ := others.removeOthers stays lost
      dsimp only
      split_ifs with gone
      · refine iff_of_true ?_ (.inr ⟨rfl, gone⟩)
        rw [Server.processed, if_neg (by decide), finalizeClient_eq left remains,
          removeSource_leave (mem_client_sources.mpr ⟨rfl, rfl⟩)]
        exact ⟨_, left.leave remains⟩
      · refine iff_of_false (not_attended_removeSource left remains) ?_
        rintro (absurd | ⟨_, out⟩)
        · cases absurd
        · exact gone out
  | connectionClosed =>
      refine iff_of_false ?_ ?_
      · dsimp only
        split_ifs
        · apply not_attended_of_harmed
          apply finalizeClient_harmed
          · exact Function.update_self ..
          · exact Function.update_self ..
        · apply not_attended_of_unconnected
          · exact Function.update_self ..
          · rfl
      · rintro (absurd | ⟨absurd, _⟩) <;> cases absurd

end Callbacks

/-- The messages with which XSMP is set up are processed; and a connection that fails is its
client's end, who is taken out of the store. -/
def Proper (server : Server) : Event → Prop
  | .authReady _ accepts result => accepts = true → server.listening = true → result = .success
  | .clientReady source removed result lost =>
      result = .success ∨ result = .ioError ∧
        ∀ id, server.sources source = some (.clientWatch id) → id ∈ removed ∨ id ∈ lost
  | _ => True

/-- There are no connections when the server starts. -/
theorem represents_start (listening : Bool) :
    Represents (fun _ => none) { listening := listening } where
  unharmed := rfl
  opened _ := rfl
  context _ _ _ absurd := by cases absurd
  watches _ _ := by simp
  clients _ _ := by simp
  sources _ _ := by simp
  newConnection _ _ := rfl
  newWatch _ _ := rfl
  newClient _ _ := rfl
  newSource _ _ := rfl
  numbered := Nat.one_pos

theorem attended_step_iff {before after : Server} {event : Event} (attended : Attended before)
    (stepped : before.step event = some after) : Attended after ↔ Proper before event := by
  obtain ⟨roles, represents⟩ := attended
  unfold Server.step at stepped
  rw [represents.unharmed, if_neg Bool.false_ne_true] at stepped
  cases event with
  | connectionMade =>
      cases stepped
      have unused := represents.newConnection _ (Nat.le_refl _)
      exact iff_of_true ⟨_, represents.comes unused (comes_acceptIceConnection represents)⟩ trivial
  | protocolTimeout source =>
      dsimp only at stepped
      split at stepped
      · rename_i iceConn attached
        cases stepped
        exact iff_of_true (represents.timedOut attached) trivial
      · cases stepped
  | authReady source accepts result =>
      dsimp only at stepped
      split at stepped
      · rename_i iceConn attached
        cases stepped
        obtain ⟨address, data, held, needed⟩ := represents.pending_of_source attached (.inr rfl)
        exact authReady_attended_iff represents held needed accepts result
      · cases stepped
  | clientReady source removed result lost =>
      dsimp only at stepped
      split at stepped
      · rename_i id attached
        obtain ⟨iceConn, held⟩ := represents.client_of_source attached
        rw [represents.stored held] at stepped
        cases stepped
        refine (clientReady_attended_iff represents held removed lost result).trans ?_
        refine or_congr_right (and_congr_right fun _ => ?_)
        constructor
        · intro gone other same
          cases attached.symm.trans same
          exact gone
        · exact fun gone => gone id attached
      · cases stepped
  | clientsRemoved ids =>
      cases stepped
      obtain ⟨kept, left, _⟩ := represents.removeClients ids
      exact iff_of_true ⟨kept, left⟩ trivial

/-- In a run of the XSMP server each open connection has its role, with its sources, its
block or its client and with nothing left over, and no freed memory is used, just when every
step is proper. -/
theorem attended_iff_proper {listening : Bool} {finish : Server} {events : List Event}
    (run : (iceSystem listening).run { listening := listening } events = some finish) :
    (iceSystem listening).Always Attended { listening := listening } events ↔
      (iceSystem listening).Meets Proper { listening := listening } events :=
  System.always_iff_meets (fun _ => True) Attended (fun _ _ _ _ _ => trivial)
    (fun _ _ _ _ attended stepped => attended_step_iff attended stepped) run trivial
    ⟨_, represents_start listening⟩

/-- A client comes and is lost; another connection times out. -/
def aClientAndATimeout : List Event :=
  [.connectionMade, .authReady 2 true .success, .connectionMade, .protocolTimeout 4,
    .clientReady 3 [] .ioError [0]]

theorem aClientAndATimeout_attended_iff :
    (iceSystem true).Always Attended { listening := true } aClientAndATimeout ↔
      (iceSystem true).Meets Proper { listening := true } aClientAndATimeout :=
  attended_iff_proper (Option.some_get (by rfl)).symm

end CafeSession.Xsmp.Ice
