import Mathlib.Data.Nat.Bitwise
import CafeSession.Grants.Ledger
import CafeSession.Manager.PhaseChanges

namespace CafeSession.Manager

open CafeSession.Transition CafeSession.Grants

/-- A number that `generate_cookie` draws, from `g_random_int_range (1, G_MAXINT32)`. -/
structure DrawnCookie where
  value : UInt32
  positive : 1 ≤ value
  bounded : value < 0x7fffffff

/-- `_generate_unique_cookie`, with the numbers that are going to be drawn; `none`
when its loop goes on after them. -/
def generateUniqueCookie (used : List UInt32) : List DrawnCookie → Option UInt32
  | [] => none
  | cookie :: draws =>
      if used.contains cookie.value then generateUniqueCookie used draws else some cookie.value

/-- A call that grants or takes back an inhibition, or word from the bus that may end it. -/
inductive InhibitCall where
  | inhibit (appId : String) (toplevelXid : UInt32) (reason : String) (flags : UInt32)
      (sender : String)
  | uninhibit (cookie : UInt32)
  /-- a name has another owner, or none; `left` tells whether the old one has left the bus -/
  | nameOwnerChanged (serviceName oldServiceName newServiceName : String) (left : Bool)

/-- A call, and the draws it may need. -/
structure InhibitEvent where
  world : World
  call : InhibitCall
  draws : List DrawnCookie

/-- The world in which the draws lead to the cookie. -/
def World.drawing (cookie : UInt32) (world : World) : World :=
  { world with uniqueCookie := fun _ => cookie }

/-- What the manager makes of the call.  `bus_name_owner_changed` does not look at
the name, only at its owners. -/
def InhibitCall.handled : InhibitCall → Option Call
  | .inhibit appId toplevelXid reason flags sender =>
      some (.inhibit appId toplevelXid reason flags sender)
  | .uninhibit cookie => some (.uninhibit cookie)
  | .nameOwnerChanged _ oldServiceName newServiceName _ =>
      if newServiceName = "" ∧ oldServiceName ≠ "" then some (.busNameLost oldServiceName) else none

def State.handle (state : State) (world : World) (call : InhibitCall) : Option State :=
  match call.handled with
  | none => some state
  | some call => state.step ⟨world, call⟩

abbrev CookieLedger := Ledger UInt32 String UInt32

/-- What the callers know after the call.  A caller leaves the bus when its own
name is lost, or is gone already when another name of its is. -/
def State.record (before : State) (world : World) (call : InhibitCall) (ledger : CookieLedger) :
    CookieLedger :=
  match call with
  | .inhibit appId toplevelXid reason flags sender =>
      match before.managerInhibit world appId toplevelXid reason flags sender with
      | .ok (_, cookie) => ledger.grant ⟨cookie, sender, flags⟩
      | .error _ => ledger
  | .uninhibit cookie => ledger.revoke cookie
  | .nameOwnerChanged serviceName oldServiceName newServiceName left =>
      if newServiceName = "" ∧ oldServiceName ≠ "" ∧ (serviceName = oldServiceName ∨ left) then
        ledger.leave oldServiceName
      else ledger

/-- The session manager in its running phase, with the ledger of its callers. -/
def ledgerSystem : System (State × CookieLedger) InhibitEvent where
  initial pair :=
    managerSystem.Reachable pair.1 ∧ pair.1.phase = .running ∧ pair.1.inhibitors = [] ∧ pair.2 = []
  step pair event :=
    (generateUniqueCookie (pair.1.inhibitors.map Inhibitor.cookie) event.draws).bind fun cookie =>
      (pair.1.handle (event.world.drawing cookie) event.call).map fun after =>
        (after, pair.1.record (event.world.drawing cookie) event.call pair.2)

/-- The store answers as the ledger does. -/
structure Agrees (pair : State × CookieLedger) : Prop where
  distinct : (pair.1.inhibitors.map Inhibitor.cookie).Nodup
  nonzero : ∀ inhibitor ∈ pair.1.inhibitors, inhibitor.cookie ≠ 0
  uninhibits : ∀ world cookie,
    (∃ after, pair.1.managerUninhibit world cookie = .ok after) ↔ pair.2.Live cookie
  removes : ∀ world cookie after, pair.1.managerUninhibit world cookie = .ok after →
    after.inhibitors = pair.1.inhibitors.filter (fun one => one.cookie != cookie)
  /-- the loss of a caller's own name -/
  leaves : ∀ world serviceName left after, serviceName ≠ "" →
    pair.1.handle world (.nameOwnerChanged serviceName serviceName "" left) = some after →
      after.inhibitors = pair.1.inhibitors.filter (fun one => one.busName != some serviceName)
  inhibits : ∀ flags, pair.1.isInhibited flags = true ↔
    ∃ entry ∈ pair.2, entry.right &&& flags ≠ 0

/-- The flags of an Inhibit call that is not refused fit the property of the inhibitor. -/
def InhibitEvent.FlagsFit (event : InhibitEvent) : Prop :=
  ∀ appId toplevelXid reason flags sender,
    event.call = .inhibit appId toplevelXid reason flags sender →
    appId ≠ "" → reason ≠ "" → flags ≤ 0x7fffffff

/-- A caller that gives a name up and stays on the bus holds no grant. -/
def InhibitEvent.GivesUpNothing (event : InhibitEvent) (ledger : CookieLedger) : Prop :=
  ∀ serviceName oldServiceName, event.call = .nameOwnerChanged serviceName oldServiceName "" false →
    oldServiceName ≠ "" → serviceName ≠ oldServiceName →
      ∀ entry ∈ ledger, entry.holder ≠ oldServiceName

/-- The condition on a call. -/
def Accountable (pair : State × CookieLedger) (event : InhibitEvent) : Prop :=
  event.FlagsFit ∧ event.GivesUpNothing pair.2

theorem and_signBit (value : UInt32) : value &&& 0x80000000 = 0 ↔ value ≤ 0x7fffffff := by
  have masked : (value &&& 0x80000000).toNat = (value.toNat.testBit 31).toNat * 2 ^ 31 := by
    rw [UInt32.toNat_and]
    exact Nat.and_two_pow value.toNat 31
  rw [← UInt32.toNat_inj, masked, UInt32.le_iff_toNat_le]
  have bound := value.toNat_lt
  rw [show (0 : UInt32).toNat = 0 from rfl, show (0x7fffffff : UInt32).toNat = 2147483647 from rfl]
  constructor
  · intro clear
    by_contra large
    have set : value.toNat.testBit 31 = true :=
      Nat.testBit_of_two_pow_le_and_two_pow_add_one_gt (by omega) (by omega)
    simp [set] at clear
  · intro small
    have clear : value.toNat.testBit 31 = false := Nat.testBit_lt_two_pow (by omega)
    simp [clear]

theorem constructUInt_le (value : UInt32) : Inhibitor.constructUInt value ≤ 0x7fffffff := by
  unfold Inhibitor.constructUInt
  split_ifs with fits
  · exact fits
  · decide

theorem constructUInt_of_le {value : UInt32} (fits : value ≤ 0x7fffffff) :
    Inhibitor.constructUInt value = value := by
  unfold Inhibitor.constructUInt
  rw [if_pos fits]

theorem generateUniqueCookie_fresh {used : List UInt32} {draws : List DrawnCookie} {cookie : UInt32}
    (generated : generateUniqueCookie used draws = some cookie) :
    cookie ∉ used ∧ cookie ≠ 0 ∧ cookie ≤ 0x7fffffff := by
  induction draws with
  | nil => cases generated
  | cons draw draws ih =>
      unfold generateUniqueCookie at generated
      split_ifs at generated with taken
      · exact ih generated
      · cases generated
        have positive := UInt32.le_iff_toNat_le.mp draw.positive
        have bounded := UInt32.lt_iff_toNat_lt.mp draw.bounded
        refine ⟨by simpa using taken, ?_, ?_⟩
        · intro zero
          rw [zero] at positive
          exact absurd positive (by decide)
        · exact UInt32.le_iff_toNat_le.mpr (Nat.le_of_lt bounded)

section

variable {world : World} {state : State}

theorem removeInhibitors_running (shaped : state.core.Shaped) (running : state.phase = .running)
    (matching : Inhibitor → Bool) :
    (state.removeInhibitors world matching).core.Shaped ∧
      (state.removeInhibitors world matching).phase = .running ∧
      (state.removeInhibitors world matching).inhibitors =
        state.inhibitors.filter (fun one => !matching one) := by
  have after := @Rules.removeInhibitors world _ _ _ _ state
    (State.shapedRules world (fun _ _ => True) (fun _ => True)) matching trivial trivial shaped
  rcases State.core_removeInhibitors world state matching with ⟨_, core⟩ | ⟨action, _, all, opened, core⟩
  · exact ⟨after, (congrArg Core.phase core).trans running, congrArg Core.inhibitors core⟩
  · cases ends : action.endsSession with
    | true =>
        exact absurd (shaped.dialog action opened ends).1 (Phase.running_early running)
    | false =>
        rw [ends] at core
        have none_ : state.inhibitors.filter (fun one => !matching one) = [] := by
          rw [List.filter_eq_nil_iff]
          intro inhibitor member
          simp [all inhibitor member]
        rw [none_]
        exact ⟨after, (congrArg Core.phase core).trans running, congrArg Core.inhibitors core⟩

/-- Clients that leave the running phase take no inhibitor along. -/
theorem quietDepartures {acts : Nat → Response → Prop} (inhibitors : List Inhibitor) :
    Departures world acts (fun matching => ∀ inhibitor ∈ inhibitors, matching inhibitor = false)
      (fun core => core.phase = .running ∧ core.inhibitors = inhibitors) where
  rules := {
    taken := fun _ _ _ _ _ quiet _ => quiet
    inhibited := fun _ _ _ _ _ _ _ _ _ quiet ending =>
      absurd ending (Phase.running_early quiet.1)
    dropped := fun core matching spared _ _ quiet => by
      refine ⟨quiet.1, ?_⟩
      dsimp only
      rw [quiet.2, List.filter_eq_self]
      intro inhibitor member
      simp [spared inhibitor member]
    closed := fun core matching _ spared _ _ some_ all _ quiet => by
      obtain ⟨inhibitor, member⟩ := List.exists_mem_of_ne_nil _ some_
      exact absurd (all inhibitor member) (by simp [spared inhibitor (quiet.2 ▸ member)])
    accepted := fun core matching _ _ spared _ _ some_ all _ quiet _ => by
      obtain ⟨inhibitor, member⟩ := List.exists_mem_of_ne_nil _ some_
      exact absurd (all inhibitor member) (by simp [spared inhibitor (quiet.2 ▸ member)])
    completed := fun _ _ quiet query _ _ => absurd (query.symm.trans quiet.1) (by decide)
    opened := fun _ _ quiet query _ _ => absurd (query.symm.trans quiet.1) (by decide)
    deferred := fun _ _ _ _ _ _ quiet ending => absurd (ending.symm.trans quiet.1) (by decide)
    moved := fun _ _ _ _ quiet ending _ => absurd (ending.symm.trans quiet.1) (by decide)
    ended := fun _ _ quiet ending _ _ => absurd (ending.symm.trans quiet.1) (by decide)
    cancelled := fun _ _ _ _ _ _ quiet ending => absurd ending (Phase.running_early quiet.1) }
  gone _ _ _ _ quiet _ := quiet
  noted _ _ _ quiet := quiet

theorem busNameLost_running {serviceName : String} (shaped : state.core.Shaped)
    (running : state.phase = .running) :
    (state.busNameLost world serviceName).phase = .running ∧
      (state.busNameLost world serviceName).inhibitors =
        state.inhibitors.filter (fun one => !one.hasBusName serviceName) := by
  obtain ⟨left, phase, stored⟩ :=
    @removeInhibitors_running world state shaped running (Inhibitor.hasBusName serviceName)
  -- no inhibitor is one of a client in the running phase
  have called : ∀ client : Client, ∀ inhibitor ∈
      (state.removeInhibitors world (Inhibitor.hasBusName serviceName)).inhibitors,
      inhibitor.hasClientId client.id = false := by
    intro client inhibitor member
    by_contra named
    have hit : inhibitor.clientId = some client.id := by
      simpa [Inhibitor.hasClientId] using named
    exact Phase.running_early phase (left.jit inhibitor member (Inhibitor.isJit_of_clientId hit)).2
  have departures := @quietDepartures world (fun _ _ => True)
    (state.removeInhibitors world (Inhibitor.hasBusName serviceName)).inhibitors
  have emptied : Emptied world (fun core => core.phase = .running ∧ core.inhibitors =
      (state.removeInhibitors world (Inhibitor.hasBusName serviceName)).inhibitors) :=
    fun _ _ quiet ending _ => absurd ending (Phase.running_early quiet.1)
  have quiet := @Departures.removeClientsForConnection world _ _ _ _ departures emptied
    (some serviceName) (fun _ _ _ => trivial) (fun client _ _ => called client) ⟨left, phase, rfl⟩
  exact ⟨quiet.2.1, quiet.2.2.trans stored⟩

end

section

variable {world : World} {state : State} {ledger : CookieLedger}
variable {serviceName oldServiceName newServiceName : String} {left : Bool}

theorem handle_lost (owned : oldServiceName ≠ "") :
    state.handle world (.nameOwnerChanged serviceName oldServiceName "" left) =
      state.step ⟨world, .busNameLost oldServiceName⟩ := by
  simp [State.handle, InhibitCall.handled, owned]

theorem record_lost (owned : oldServiceName ≠ "") :
    state.record world (.nameOwnerChanged serviceName oldServiceName "" left) ledger =
      if serviceName = oldServiceName ∨ left = true then ledger.leave oldServiceName
      else ledger := by
  simp [State.record, owned]

/-- The name has an owner still, or had none before. -/
theorem handle_ignored (ignored : ¬ (newServiceName = "" ∧ oldServiceName ≠ "")) :
    state.handle world (.nameOwnerChanged serviceName oldServiceName newServiceName left) =
        some state ∧
      state.record world (.nameOwnerChanged serviceName oldServiceName newServiceName left)
        ledger = ledger := by
  have unrecorded : ¬ (newServiceName = "" ∧ oldServiceName ≠ "" ∧
      (serviceName = oldServiceName ∨ left = true)) :=
    fun lost => ignored ⟨lost.1, lost.2.1⟩
  simp only [State.handle, InhibitCall.handled, if_neg ignored, State.record, if_neg unrecorded,
    and_self]

end

def Inhibitor.account (inhibitor : Inhibitor) : UInt32 × Option String × UInt32 :=
  (inhibitor.cookie, inhibitor.busName, inhibitor.flags)

/-- The record of a grant: the flags go through the property of the inhibitor. -/
def grantAccount (entry : Grant UInt32 String UInt32) : UInt32 × Option String × UInt32 :=
  (entry.token, some entry.holder, Inhibitor.constructUInt entry.right)

structure Balanced (pair : State × CookieLedger) : Prop where
  reached : managerSystem.Reachable pair.1
  running : pair.1.phase = .running
  kept : pair.2.KeptBy Inhibitor.account grantAccount pair.1.inhibitors
  distinct : pair.2.tokens.Nodup
  nonzero : ∀ cookie ∈ pair.2.tokens, cookie ≠ 0

namespace Balanced

variable {pair : State × CookieLedger} (balanced : Balanced pair)
include balanced

theorem cookies : pair.1.inhibitors.map Inhibitor.cookie = pair.2.tokens := by
  have first := congrArg (List.map Prod.fst) balanced.kept
  rw [List.map_map, List.map_map] at first
  exact first

theorem uninhibit_cases (world : World) (cookie : UInt32) :
    (¬ pair.2.Live cookie ∧ ∃ error, pair.1.managerUninhibit world cookie = .error error) ∨
      pair.2.Live cookie ∧ ∃ after, pair.1.managerUninhibit world cookie = .ok after ∧
        after.phase = .running ∧
        after.inhibitors = pair.1.inhibitors.filter (fun one => one.cookie != cookie) := by
  have live : pair.2.Live cookie ↔ cookie ∈ pair.1.inhibitors.map Inhibitor.cookie := by
    rw [balanced.cookies]
    rfl
  have distinct : (pair.1.inhibitors.map Inhibitor.cookie).Nodup := by
    rw [balanced.cookies]
    exact balanced.distinct
  cases found : pair.1.inhibitors.find? (fun one => one.cookie == cookie) with
  | none =>
      refine .inl ⟨fun isLive => ?_, _, by rw [State.managerUninhibit, found]⟩
      obtain ⟨inhibitor, stored, same⟩ := List.mem_map.mp (live.mp isLive)
      exact absurd (List.find?_eq_none.mp found inhibitor stored) (by simp [same])
  | some inhibitor =>
      have stored := List.mem_of_find?_eq_some found
      have same : inhibitor.cookie = cookie := by
        have hit := List.find?_some (p := fun one : Inhibitor => one.cookie == cookie) found
        simpa using hit
      obtain ⟨_, phase, left⟩ := @removeInhibitors_running world pair.1
        (shaped_reached balanced.reached) balanced.running (fun one => one == inhibitor)
      refine .inr ⟨live.mpr (List.mem_map.mpr ⟨inhibitor, stored, same⟩), _,
        by rw [State.managerUninhibit, found], phase, left.trans ?_⟩
      refine List.filter_congr fun one member => ?_
      by_cases equal : one = inhibitor
      · simp [equal, same]
      · have other : one.cookie ≠ cookie := fun hit =>
          equal (List.inj_on_of_nodup_map distinct member stored (hit.trans same.symm))
        rw [beq_false_of_ne equal, bne_iff_ne.mpr other]
        rfl

theorem busNameLost {world : World} {serviceName : String} {after : State}
    (lost : pair.1.step ⟨world, .busNameLost serviceName⟩ = some after) :
    after.phase = .running ∧
      after.inhibitors = pair.1.inhibitors.filter (fun one => !one.hasBusName serviceName) := by
  have shaped := shaped_reached balanced.reached
  rw [State.step, (State.step_turn shaped lost).1] at lost
  cases lost
  exact busNameLost_running shaped balanced.running

theorem isInhibited_eq (flags : UInt32) :
    pair.1.isInhibited flags =
      pair.2.any (fun entry => Inhibitor.constructUInt entry.right &&& flags != 0) := by
  refine balanced.kept.any fun inhibitor entry same => ?_
  have flagsSame : inhibitor.flags = Inhibitor.constructUInt entry.right :=
    congrArg (fun account => account.2.2) same
  rw [Inhibitor.hasFlag, flagsSame]

/-- The store answers as the ledger does exactly when all granted flags fit. -/
theorem agrees_iff : Agrees pair ↔ ∀ entry ∈ pair.2, entry.right ≤ 0x7fffffff := by
  constructor
  · intro agrees entry member
    by_contra large
    -- the highest flag is granted, and no stored inhibitor has it
    have asked := (agrees.inhibits 0x80000000).mpr
      ⟨entry, member, fun clear => large ((and_signBit _).mp clear)⟩
    rw [balanced.isInhibited_eq] at asked
    obtain ⟨stored, _, has⟩ := List.any_eq_true.mp asked
    rw [(and_signBit _).mpr (constructUInt_le stored.right)] at has
    cases has
  · intro fit
    have distinct : (pair.1.inhibitors.map Inhibitor.cookie).Nodup := by
      rw [balanced.cookies]
      exact balanced.distinct
    refine ⟨distinct, fun inhibitor stored => ?_, fun world cookie => ?_,
      fun world cookie after done => ?_, fun world serviceName left after some_ lost => ?_,
      fun flags => ?_⟩
    · refine balanced.nonzero _ ?_
      rw [← balanced.cookies]
      exact List.mem_map_of_mem stored
    · rcases balanced.uninhibit_cases world cookie with
        ⟨dead, error, refused⟩ | ⟨live, after, done, _⟩
      · exact ⟨fun ⟨after, done⟩ => absurd (refused.symm.trans done) (by simp),
          fun live => absurd live dead⟩
      · exact ⟨fun _ => live, fun _ => ⟨after, done⟩⟩
    · rcases balanced.uninhibit_cases world cookie with
        ⟨dead, error, refused⟩ | ⟨live, left, succeeded, _, stored⟩
      · exact absurd (refused.symm.trans done) (by simp)
      · cases succeeded.symm.trans done
        exact stored
    · rw [handle_lost some_] at lost
      rw [(balanced.busNameLost lost).2]
      refine List.filter_congr fun one _ => ?_
      simp [Inhibitor.hasBusName, some_, bne]
    · rw [balanced.isInhibited_eq, List.any_eq_true]
      refine exists_congr fun entry => and_congr_right fun member => ?_
      rw [constructUInt_of_le (fit entry member)]
      simp

theorem grant {appId reason sender : String} {toplevelXid flags cookie : UInt32}
    {after : State}
    (fresh : cookie ∉ pair.1.inhibitors.map Inhibitor.cookie ∧ cookie ≠ 0 ∧ cookie ≤ 0x7fffffff)
    (reachedAfter : managerSystem.Reachable after)
    (stored : after = pair.1.addInhibitor (.new appId toplevelXid flags reason sender cookie)) :
    Balanced (after, pair.2.grant ⟨cookie, sender, flags⟩) where
  reached := reachedAfter
  running := by
    rw [stored]
    exact balanced.running
  kept := by
    rw [stored]
    refine balanced.kept.grant ?_
    simp only [Inhibitor.account, Inhibitor.new, grantAccount, constructUInt_of_le fresh.2.2]
  distinct := by
    refine Ledger.distinct_grant balanced.distinct fun live => fresh.1 ?_
    rw [balanced.cookies]
    exact live
  nonzero := by
    intro other member
    rw [Ledger.tokens, Ledger.grant, List.map_append, List.mem_append] at member
    rcases member with old | new
    · exact balanced.nonzero other old
    · rw [List.mem_singleton.mp new]
      exact fresh.2.1

theorem filter {after : State} {stays : Inhibitor → Bool}
    {holds : Grant UInt32 String UInt32 → Bool} (reachedAfter : managerSystem.Reachable after)
    (running : after.phase = .running) (stored : after.inhibitors = pair.1.inhibitors.filter stays)
    (agree : ∀ inhibitor entry, inhibitor.account = grantAccount entry →
      stays inhibitor = holds entry) : Balanced (after, pair.2.filter holds) where
  reached := reachedAfter
  running := running
  kept := by
    rw [stored]
    exact balanced.kept.filter agree
  distinct := Ledger.distinct_filter balanced.distinct holds
  nonzero := by
    intro cookie member
    obtain ⟨entry, listed, rfl⟩ := List.mem_map.mp member
    exact balanced.nonzero _ (List.mem_map_of_mem (List.mem_of_mem_filter listed))

end Balanced

theorem managerInhibit_cases (world : World) (state : State) (appId reason sender : String)
    (toplevelXid flags : UInt32) (unforced : state.logoutMode ≠ .force) :
    ((appId = "" ∨ reason = "" ∨ flags = 0) ∧ ∃ error,
      state.managerInhibit world appId toplevelXid reason flags sender = .error error) ∨
    (appId ≠ "" ∧ reason ≠ "") ∧ ∃ cookie,
      cookie = world.uniqueCookie (state.inhibitors.map Inhibitor.cookie) ∧
      state.managerInhibit world appId toplevelXid reason flags sender =
        .ok (state.addInhibitor (.new appId toplevelXid flags reason sender cookie), cookie) := by
  unfold State.managerInhibit
  rw [if_neg unforced]
  split_ifs with noId noReason noFlags
  · exact .inl ⟨.inl noId, _, rfl⟩
  · exact .inl ⟨.inr (.inl noReason), _, rfl⟩
  · exact .inl ⟨.inr (.inr noFlags), _, rfl⟩
  · exact .inr ⟨⟨noId, noReason⟩, _, rfl, rfl⟩

theorem accountable_other {pair : State × CookieLedger} {event : InhibitEvent}
    (noGrant : ∀ appId toplevelXid reason flags sender,
      event.call ≠ .inhibit appId toplevelXid reason flags sender) :
    Accountable pair event ↔ event.GivesUpNothing pair.2 :=
  and_iff_right fun _ _ _ _ _ same => absurd same (noGrant _ _ _ _ _)

theorem givesUpNothing_other {event : InhibitEvent} {ledger : CookieLedger}
    (kept : ∀ serviceName oldServiceName,
      event.call = .nameOwnerChanged serviceName oldServiceName "" false →
        oldServiceName ≠ "" → serviceName = oldServiceName) : event.GivesUpNothing ledger :=
  fun _ _ same owned different => absurd (kept _ _ same owned) different

namespace Balanced

variable {before : State × CookieLedger} {event : InhibitEvent} {world : World} {after : State}
variable {cookie : UInt32} (balanced : Balanced before)
include balanced

theorem inhibit {appId reason sender : String} {toplevelXid flags : UInt32}
    (call : event.call = .inhibit appId toplevelXid reason flags sender)
    (fresh : cookie ∉ before.1.inhibitors.map Inhibitor.cookie ∧ cookie ≠ 0 ∧ cookie ≤ 0x7fffffff)
    (handled : before.1.handle (world.drawing cookie) event.call = some after) :
    let ledger := before.1.record (world.drawing cookie) event.call before.2
    Balanced (after, ledger) ∧ ((∀ entry ∈ before.2, entry.right ≤ 0x7fffffff) →
      ((∀ entry ∈ ledger, entry.right ≤ 0x7fffffff) ↔ Accountable before event)) := by
  have performed : before.1.step ⟨world.drawing cookie, .inhibit appId toplevelXid reason flags
      sender⟩ = some after := by
    rw [call] at handled
    exact handled
  have reachedAfter : managerSystem.Reachable after := .step balanced.reached trivial performed
  have alive := (State.step_turn (shaped_reached balanced.reached) performed).1
  have unforced := (orderly_reached balanced.reached).2 (by
    rw [show before.1.core.phase = .running from balanced.running]
    exact Phase.running_lt_query)
  have nothing : event.GivesUpNothing before.2 := givesUpNothing_other (by simp [call])
  have asked : Accountable before event ↔ (appId ≠ "" → reason ≠ "" → flags ≤ 0x7fffffff) := by
    refine (and_iff_left nothing).trans ⟨fun fits => fits _ _ _ _ _ call, fun fits => ?_⟩
    intro appId' toplevelXid' reason' flags' sender' same
    rw [call] at same
    cases same
    exact fits
  rw [State.step, alive] at performed
  simp only [State.perform] at performed
  simp only [call, State.record]
  rcases managerInhibit_cases (world.drawing cookie) before.1 appId
      reason sender toplevelXid flags unforced with
    ⟨missing, error, refused⟩ | ⟨given, drawn, same, granted⟩
  · rw [refused] at performed ⊢
    cases performed
    refine ⟨balanced, fun fit => iff_of_true fit (asked.mpr fun some_ why => ?_)⟩
    rcases missing with none_ | none_ | none_
    · exact absurd none_ some_
    · exact absurd none_ why
    · rw [none_]
      decide
  · rw [granted] at performed ⊢
    cases performed
    cases same
    refine ⟨balanced.grant fresh reachedAfter rfl, fun fit => ?_⟩
    rw [asked]
    constructor
    · intro all _ _
      exact all ⟨cookie, sender, flags⟩ (List.mem_append_right _ List.mem_cons_self)
    · intro fits entry member
      rcases List.mem_append.mp member with old | new
      · exact fit entry old
      · rw [List.mem_singleton.mp new]
        exact fits given.1 given.2

theorem uninhibit {released : UInt32} (call : event.call = .uninhibit released)
    (handled : before.1.handle world event.call = some after) :
    Balanced (after, before.1.record world event.call before.2) ∧ Accountable before event := by
  have accountable : Accountable before event :=
    (accountable_other (by simp [call])).mpr (givesUpNothing_other (by simp [call]))
  have performed : before.1.step ⟨world, .uninhibit released⟩ = some after := by
    rw [call] at handled
    exact handled
  have reachedAfter : managerSystem.Reachable after := .step balanced.reached trivial performed
  rw [State.step, (State.step_turn (shaped_reached balanced.reached) performed).1] at performed
  simp only [State.perform] at performed
  refine ⟨?_, accountable⟩
  simp only [call, State.record]
  have agree : ∀ (inhibitor : Inhibitor) (entry : Grant UInt32 String UInt32),
      inhibitor.account = grantAccount entry →
      (inhibitor.cookie != released) = (entry.token != released) := by
    intro inhibitor entry same
    rw [show inhibitor.cookie = entry.token from congrArg Prod.fst same]
  rcases balanced.uninhibit_cases world released
    with ⟨dead, error, refused⟩ | ⟨live, left, done, phase, stored⟩
  · rw [refused] at performed
    cases performed
    refine balanced.filter reachedAfter balanced.running ?_ agree
    refine (List.filter_eq_self.mpr fun inhibitor stored => ?_).symm
    rw [bne_iff_ne]
    rintro rfl
    refine dead ?_
    rw [Ledger.Live, ← balanced.cookies]
    exact List.mem_map_of_mem stored
  · rw [done] at performed
    cases performed
    exact balanced.filter reachedAfter phase stored agree

/-- The caller leaves, or holds nothing: the grants of the old owner go on both sides. -/
theorem lost {oldServiceName : String} (owned : oldServiceName ≠ "")
    (performed : before.1.step ⟨world, .busNameLost oldServiceName⟩ = some after) :
    Balanced (after, before.2.leave oldServiceName) := by
  obtain ⟨phase, stored⟩ := balanced.busNameLost performed
  refine balanced.filter (.step balanced.reached trivial performed) phase stored
    fun inhibitor entry same => ?_
  have holder : inhibitor.busName = some entry.holder :=
    congrArg (fun account => account.2.1) same
  simp [Inhibitor.hasBusName, holder, owned, bne]

/-- The inhibitor of a caller that stays on the bus is gone, its cookie is not. -/
theorem not_agrees_of_lost {oldServiceName : String} (owned : oldServiceName ≠ "")
    (performed : before.1.step ⟨world, .busNameLost oldServiceName⟩ = some after)
    {entry : Grant UInt32 String UInt32} (member : entry ∈ before.2)
    (held : entry.holder = oldServiceName) : ¬ Agrees (after, before.2) := by
  intro agrees
  have left := balanced.lost owned performed
  have live : Ledger.Live entry.token before.2 := List.mem_map_of_mem member
  rcases left.uninhibit_cases world entry.token with ⟨_, error, refused⟩ | ⟨other, _⟩
  · obtain ⟨state, done⟩ := (agrees.uninhibits world entry.token).mpr live
    exact absurd (refused.symm.trans done) (by simp)
  · obtain ⟨kept, stays, same⟩ := List.mem_map.mp other
    obtain ⟨listed, elsewhere⟩ := List.mem_filter.mp stays
    have equal := List.inj_on_of_nodup_map balanced.distinct listed member same
    rw [equal, held] at elsewhere
    simp at elsewhere

/-- A name without an owner any more, whose last one stays on the bus. -/
theorem givenUp {serviceName oldServiceName : String}
    (call : event.call = .nameOwnerChanged serviceName oldServiceName "" false)
    (owned : oldServiceName ≠ "") (different : serviceName ≠ oldServiceName)
    (performed : before.1.step ⟨world, .busNameLost oldServiceName⟩ = some after) :
    (Accountable before event → Balanced (after, before.2)) ∧
      (Agrees before → (Agrees (after, before.2) ↔ Accountable before event)) := by
  by_cases holds : ∀ entry ∈ before.2, entry.holder ≠ oldServiceName
  · have nobody : before.2.leave oldServiceName = before.2 :=
      List.filter_eq_self.mpr fun entry member => by simpa using holds entry member
    have next := balanced.lost owned performed
    rw [nobody] at next
    have accountable : Accountable before event := by
      refine (accountable_other (by simp [call])).mpr ?_
      intro _ _ same _ _
      rw [call] at same
      cases same
      exact holds
    exact ⟨fun _ => next, fun agrees => iff_of_true
      (next.agrees_iff.mpr (balanced.agrees_iff.mp agrees)) accountable⟩
  · have unaccountable : ¬ Accountable before event := fun accountable =>
      holds (accountable.2 serviceName oldServiceName call owned different)
    simp only [not_forall, not_not] at holds
    obtain ⟨entry, member, held⟩ := holds
    exact ⟨fun accountable => absurd accountable unaccountable, fun _ =>
      iff_of_false (balanced.not_agrees_of_lost owned performed member held) unaccountable⟩

theorem nameOwnerChanged {serviceName oldServiceName newServiceName : String} {left : Bool}
    (call : event.call = .nameOwnerChanged serviceName oldServiceName newServiceName left)
    (handled : before.1.handle world event.call = some after) :
    let ledger := before.1.record world event.call before.2
    (Accountable before event → Balanced (after, ledger)) ∧
      (Agrees before → (Agrees (after, ledger) ↔ Accountable before event)) := by
  have accountable (own : newServiceName = "" → oldServiceName ≠ "" → left = false →
      serviceName = oldServiceName) : Accountable before event := by
    refine (accountable_other (by simp [call])).mpr (givesUpNothing_other fun _ _ same owned => ?_)
    rw [call] at same
    cases same
    exact own rfl owned rfl
  rw [call] at handled ⊢
  by_cases lost : newServiceName = "" ∧ oldServiceName ≠ ""
  · obtain ⟨rfl, owned⟩ := lost
    rw [handle_lost owned] at handled
    rw [record_lost owned]
    by_cases leaves : serviceName = oldServiceName ∨ left = true
    · have next := balanced.lost owned handled
      rw [if_pos leaves]
      refine ⟨fun _ => next, fun agrees => iff_of_true ?_
        (accountable fun _ _ stays => leaves.resolve_right (by simp [stays]))⟩
      refine next.agrees_iff.mpr fun entry member => ?_
      exact balanced.agrees_iff.mp agrees entry (List.mem_of_mem_filter member)
    · obtain ⟨different, stays⟩ := not_or.mp leaves
      obtain rfl := Bool.eq_false_iff.mpr stays
      rw [if_neg leaves]
      exact balanced.givenUp call owned different handled
  · obtain ⟨unhandled, unrecorded⟩ := @handle_ignored world before.1 before.2 serviceName
      oldServiceName newServiceName left lost
    rw [unhandled] at handled
    cases handled
    rw [unrecorded]
    exact ⟨fun _ => balanced, fun agrees => iff_of_true agrees
      (accountable fun gone owned _ => absurd ⟨gone, owned⟩ lost)⟩

end Balanced

/-- One call keeps the balance when it is accounted for; only then do the store and
the ledger still answer alike. -/
theorem balanced_step {before after : State × CookieLedger} {event : InhibitEvent}
    (balanced : Balanced before) (stepped : ledgerSystem.step before event = some after) :
    (Accountable before event → Balanced after) ∧
      (Agrees before → (Agrees after ↔ Accountable before event)) := by
  obtain ⟨cookie, generated, stepped⟩ := Option.bind_eq_some_iff.mp stepped
  obtain ⟨state, handled, rfl⟩ := Option.map_eq_some_iff.mp stepped
  cases call : event.call with
  | inhibit appId toplevelXid reason flags sender =>
      obtain ⟨next, exact_⟩ := balanced.inhibit call (generateUniqueCookie_fresh generated) handled
      rw [call] at next exact_
      refine ⟨fun _ => next, fun agrees => ?_⟩
      rw [next.agrees_iff]
      exact exact_ (balanced.agrees_iff.mp agrees)
  | uninhibit released =>
      obtain ⟨next, accountable⟩ := balanced.uninhibit call handled
      rw [call] at next
      refine ⟨fun _ => next, fun agrees => iff_of_true ?_ accountable⟩
      refine next.agrees_iff.mpr fun entry member => ?_
      exact balanced.agrees_iff.mp agrees entry (List.mem_of_mem_filter member)
  | nameOwnerChanged serviceName oldServiceName newServiceName left =>
      have changed := balanced.nameOwnerChanged call handled
      rwa [call] at changed

/-- In every run of Inhibit and Uninhibit calls and changes of the owners of bus names,
the store answers as the ledger of the grants does exactly when the flags of every
granted call fit, and no caller gives a name up while it holds a grant and stays. -/
theorem inhibitors_agree_iff {start finish : State × CookieLedger} {events : List InhibitEvent}
    (initial : ledgerSystem.initial start) (run : ledgerSystem.run start events = some finish) :
    ledgerSystem.Always Agrees start events ↔ ledgerSystem.Meets Accountable start events := by
  obtain ⟨reached, running, none_, empty⟩ := initial
  obtain ⟨state, ledger⟩ := start
  cases empty
  have balanced : Balanced (state, []) := by
    refine ⟨reached, running, ?_, List.nodup_nil, nofun⟩
    rw [show state.inhibitors = [] from none_]
    rfl
  refine System.always_iff_meets_while Balanced Agrees ?_ ?_ run balanced
    (balanced.agrees_iff.mpr nofun)
  · intro before event after balanced accountable stepped
    exact (balanced_step balanced stepped).1 accountable
  · intro before event after balanced agrees stepped
    exact (balanced_step balanced stepped).2 agrees

def draw (value : UInt32) (positive : 1 ≤ value) (bounded : value < 0x7fffffff) : DrawnCookie :=
  ⟨value, positive, bounded⟩

/-- A session in its running phase, whose callers inhibit for the first time. -/
def quietSession : State × CookieLedger := (State.start .permissive [], [])

theorem quietSession_initial : ledgerSystem.initial quietSession :=
  ⟨.initial ⟨.permissive, [], List.nodup_nil, rfl⟩, by decide, by decide, rfl⟩

/-- Two callers inhibit, the second one after a draw that is in use; a third gives a
name up, the first one is done, and the second leaves the bus. -/
def burnAndSuspend : List InhibitEvent :=
  [⟨.permissive, .inhibit "burner" 0 "Burning a disc" 1 ":1.9", [draw 7 (by decide) (by decide)]⟩,
    ⟨.permissive, .inhibit "player" 0 "Playing a film" 12 ":1.5",
      [draw 7 (by decide) (by decide), draw 9 (by decide) (by decide)]⟩,
    ⟨.permissive, .nameOwnerChanged "org.mpris.player" ":1.4" "" false,
      [draw 8 (by decide) (by decide)]⟩,
    ⟨.permissive, .uninhibit 7, [draw 7 (by decide) (by decide), draw 8 (by decide) (by decide)]⟩,
    ⟨.permissive, .nameOwnerChanged ":1.5" ":1.5" "" true, [draw 8 (by decide) (by decide)]⟩]

theorem burnAndSuspend_accountable :
    ledgerSystem.Meets Accountable quietSession burnAndSuspend := by
  have small {world : World} {appId reason sender : String} {draws : List DrawnCookie}
      {flags : UInt32} (fits : flags ≤ 0x7fffffff) (pair : State × CookieLedger) :
      Accountable pair ⟨world, .inhibit appId 0 reason flags sender, draws⟩ := by
    refine ⟨?_, givesUpNothing_other (by simp)⟩
    intro _ _ _ _ _ same _ _
    cases same
    exact fits
  refine ⟨small (by decide) _, fun first stepped => ⟨small (by decide) _, fun second later => ?_⟩⟩
  cases stepped
  cases later
  refine ⟨(accountable_other (by simp)).mpr ?_, fun _ _ => ⟨(accountable_other (by simp)).mpr ?_,
    fun _ _ => ⟨(accountable_other (by simp)).mpr ?_, fun _ _ => trivial⟩⟩⟩
  · intro _ _ same _ _ entry member
    cases same
    rcases List.mem_cons.mp member with rfl | member
    · decide
    · rw [List.mem_singleton.mp member]
      decide
  · exact givesUpNothing_other (by simp)
  · exact givesUpNothing_other (by simp)

theorem burnAndSuspend_agrees : ledgerSystem.Always Agrees quietSession burnAndSuspend := by
  obtain ⟨finish, run⟩ : ∃ finish, ledgerSystem.run quietSession burnAndSuspend = some finish :=
    ⟨_, rfl⟩
  exact (inhibitors_agree_iff quietSession_initial run).mpr burnAndSuspend_accountable

/-- What a caller was granted when the run has ended, and the store does not know. -/
def LosesGrant (events : List InhibitEvent) (cookie : UInt32) : Prop :=
  ∃ state ledger, ledgerSystem.run quietSession events = some (state, ledger) ∧
    ledger.Live cookie ∧ ¬ Agrees (state, ledger)

/-- A caller asks for the highest flag, which is not stored; another one stays on the bus
but gives a name up, and its inhibitor is removed. -/
theorem grants_lost :
    LosesGrant [⟨.permissive, .inhibit "burner" 0 "Burning a disc" 0x80000000 ":1.9",
        [draw 7 (by decide) (by decide)]⟩] 7 ∧
      LosesGrant [⟨.permissive, .inhibit "player" 0 "Playing a film" 4 ":1.5",
          [draw 7 (by decide) (by decide)]⟩,
        ⟨.permissive, .nameOwnerChanged "org.mpris.player" ":1.5" "" false,
          [draw 8 (by decide) (by decide)]⟩] 7 := by
  refine ⟨⟨_, _, rfl, List.mem_cons_self, fun agrees => ?_⟩,
    ⟨_, _, rfl, List.mem_cons_self, fun agrees => ?_⟩⟩
  · have asked := (agrees.inhibits 0x80000000).mpr ⟨_, List.mem_cons_self, by decide⟩
    revert asked
    decide
  · have asked := (agrees.inhibits 4).mpr ⟨_, List.mem_cons_self, by decide⟩
    revert asked
    decide

end CafeSession.Manager
