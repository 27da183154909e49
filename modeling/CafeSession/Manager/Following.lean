import Mathlib.Data.List.Nodup
import CafeSession.Manager.Passages

namespace CafeSession.Manager

namespace State

/-- No condition is followed twice, and none of an app whose phase's number is not
below the limit. -/
structure Follows (limit : Nat) (state : State) : Prop where
  distinct : (state.apps.map App.id).Nodup
  once : state.watchedApps.Nodup
  begun : ∀ app ∈ state.apps, app.id ∈ state.watchedApps →
    app.phase.number < limit ∧ app.phase ≤ .application

/-- The apps that come to be followed on the way. -/
def newlyFollowed (before after : State) : List String :=
  after.watchedApps.take (after.watchedApps.length - before.watchedApps.length)

variable {world : World} {request : Call} {state before after : State} {limit : Nat}

theorem Aside.follows (same : before.Aside after) (follows : before.Follows limit) :
    after.Follows limit where
  distinct := by
    rw [same.apps]
    exact follows.distinct
  once := by
    rw [same.watchedApps]
    exact follows.once
  begun := by
    rw [same.apps, same.watchedApps]
    exact follows.begun

theorem Follows.weaken {more : Nat} (follows : state.Follows limit) (less : limit ≤ more) :
    state.Follows more where
  distinct := follows.distinct
  once := follows.once
  begun app stored followed := by
    obtain ⟨early, startup⟩ := follows.begun app stored followed
    exact ⟨by omega, startup⟩

theorem watchedApps_foldl_startApp (apps : List App) (state : State) :
    (apps.foldl (startApp world) state).watchedApps =
      ((apps.filter (fun app => decide (app.phase = state.phase))).map App.id).reverse ++
        state.watchedApps := by
  induction apps generalizing state with
  | nil => rfl
  | cons app apps ih =>
      have one : (state.startApp world app).watchedApps =
          if app.phase = state.phase then app.id :: state.watchedApps else state.watchedApps := by
        simp only [startApp, emit]
        split_ifs <;> first | rfl | contradiction
      rw [List.foldl_cons, ih, phase_startApp, one]
      by_cases own : app.phase = state.phase
      · simp [own]
      · simp [own]

theorem follows_startApps (early : state.phase ≤ .application)
    (follows : state.Follows state.phase.number) :
    (state.startApps world).Follows (state.phase.number + 1) := by
  have apps : (state.startApps world).apps = state.apps :=
    (Starts.of_stages (stages_startApps state)).apps
  have watched := @watchedApps_foldl_startApp world state.apps state
  have new : ∀ app ∈ state.apps.filter (fun app => decide (app.phase = state.phase)),
      app.id ∉ state.watchedApps := by
    intro app member followed
    obtain ⟨stored, own⟩ := List.mem_filter.mp member
    have before := (follows.begun app stored followed).1
    rw [of_decide_eq_true own] at before
    omega
  constructor
  case distinct =>
    rw [apps]
    exact follows.distinct
  case once =>
    rw [startApps, watched]
    refine List.nodup_append.mpr ⟨?_, follows.once, ?_⟩
    · rw [List.nodup_reverse]
      exact follows.distinct.sublist (List.filter_sublist.map App.id)
    · rintro id member _ followed rfl
      obtain ⟨app, own, rfl⟩ := List.mem_map.mp (List.mem_reverse.mp member)
      exact new app own followed
  case begun =>
    intro app stored followed
    rw [apps] at stored
    rw [startApps, watched, List.mem_append, List.mem_reverse, List.mem_map] at followed
    rcases followed with ⟨other, member, same⟩ | old
    · obtain ⟨otherStored, own⟩ := List.mem_filter.mp member
      have equal : other = app := List.inj_on_of_nodup_map follows.distinct otherStored stored same
      rw [← equal, of_decide_eq_true own]
      exact ⟨Nat.lt_succ_self _, early⟩
    · obtain ⟨before, startup⟩ := follows.begun app stored old
      exact ⟨by omega, startup⟩

/-- The apps of the phases so far are followed. -/
def Following (state : State) : Prop := state.Follows (state.phase.number + 1)

theorem Following.of_same (follows : before.Following) (apps : after.apps = before.apps)
    (watched : after.watchedApps = before.watchedApps) (phase : after.phase = before.phase) :
    after.Following where
  distinct := by
    rw [apps]
    exact follows.distinct
  once := by
    rw [watched]
    exact follows.once
  begun := by
    rw [apps, watched, phase]
    exact follows.begun

theorem Aside.following (same : before.Aside after) (follows : before.Following) :
    after.Following :=
  follows.of_same same.apps same.watchedApps same.phase

theorem following_startPhaseWith {endPhase : State → State}
    (ended : ∀ state : State, state.Following → (endPhase state).Following)
    (follows : state.Follows state.phase.number) :
    (startPhaseWith endPhase world state).Following := by
  have fresh : state.resetPhase.Follows state.resetPhase.phase.number :=
    ⟨follows.distinct, follows.once, follows.begun⟩
  have reset : state.resetPhase.Following := fresh.weaken (Nat.le_succ _)
  by_cases early : state.phase < .running
  · have started := @follows_startApps world state.resetPhase (Nat.le_of_lt_succ early) fresh
    rw [← phase_startApps world] at started
    have apps : (state.resetPhase.startApps world).Following := started
    rw [startPhaseWith_startup early]
    split_ifs
    · exact ended _ apps
    · exact apps.of_same rfl rfl rfl
    · exact apps
  unfold startPhaseWith
  cases phase : state.phase with
  | running =>
      have ran : (state.resetPhase.emit .sessionRunning).updateIdle.Following :=
        reset.of_same rfl rfl rfl
      exact ran
  | queryEndSession => exact (aside_doPhaseQueryEndSession _).following reset
  | endSession =>
      dsimp only
      split_ifs
      · exact (aside_endSessionOfClients world _).following reset
      · exact ended _ reset
  | exit => exact ended _ ((aside_tellClients Client.keepsWiring_stop _).following reset)
  | _ => exact absurd (by rw [phase]; decide) early

theorem follows_advance (more : state.phase ≠ .exit) (follows : state.Following) :
    state.advance.Follows state.advance.phase.number := by
  have next : state.advance.phase.number = state.phase.number + 1 := Phase.number_next more
  rw [next]
  exact ⟨follows.distinct, follows.once, follows.begun⟩

theorem following_endPhaseWith {startPhase : State → State}
    (started : ∀ state : State, state.Follows state.phase.number → (startPhase state).Following)
    (follows : state.Following) : (endPhaseWith startPhase world state).Following := by
  have cleared : state.clearPhase.Following := follows.of_same rfl rfl rfl
  have left : state.phase ≠ .exit → state.advance.Follows state.advance.phase.number :=
    fun more => follows_advance more follows
  unfold endPhaseWith
  cases phase : state.phase with
  | running =>
      dsimp only
      split_ifs
      · exact cleared
      · exact started _ (left (by simp [phase]))
  | endSession =>
      have saved := aside_maybeSaveSession world state.advance
      refine started _ ?_
      rw [saved.phase]
      exact saved.follows (left (by simp [phase]))
  | exit => exact (aside_quit _).following cleared
  | _ => exact started _ (left (by simp [phase]))

theorem following_endPhase (follows : state.Following) : (state.endPhase world).Following := by
  unfold endPhase
  induction 10 - state.phase.number generalizing state with
  | zero => exact follows
  | succ fuel ih =>
      exact following_endPhaseWith (fun _ fresh => following_startPhaseWith (fun _ => ih) fresh)
        follows

theorem following_startPhase (follows : state.Follows state.phase.number) :
    (state.startPhase world).Following :=
  following_startPhaseWith (fun _ => following_endPhase) follows

theorem following_changes (changes : Changes world before after) (follows : before.Following) :
    after.Following := by
  induction changes with
  | refl => exact follows
  | @tail middle _ _ last ih =>
      cases last with
      | aside same => exact same.following ih
      | restocked inhibitors => exact ih.of_same rfl rfl rfl
      | registered => exact ih.of_same rfl rfl rfl
      | ended => exact following_endPhase ih
      | lastRegistered =>
          refine following_endPhase ?_
          exact ih.of_same rfl rfl rfl
      | resumed ending =>
          refine following_startPhase ⟨ih.distinct, ih.once, ?_⟩
          intro app stored followed
          have startup := (ih.begun app stored followed).2
          exact ⟨Nat.lt_succ_of_le startup, startup⟩

theorem following_passage (passage : Passage world request before after)
    (follows : before.Following) : after.Following := by
  induction passage with
  | changed changes => exact following_changes changes follows
  | trans _ _ first second => exact second (first follows)
  | @left before middle id changes =>
      have kept : middle.Following :=
        following_changes changes (follows.of_same rfl rfl rfl)
      exact kept.of_same rfl rfl rfl
  | joined => exact follows.of_same rfl rfl rfl
  | listed => exact follows.of_same rfl rfl rfl
  | renamed => exact follows.of_same rfl rfl rfl

theorem following_start (world : World) {apps : List App} (distinct : (apps.map App.id).Nodup) :
    (start world apps).Following :=
  following_startPhase ⟨distinct, List.nodup_nil, nofun⟩

theorem newlyFollowed_new (starts : before.Starts world after) (follows : after.Following)
    {id : String} (new : id ∈ before.newlyFollowed after) : id ∉ before.watchedApps := by
  obtain ⟨added, watched⟩ := starts.watchedApps
  have once := follows.once
  rw [← watched, List.nodup_append] at once
  have taken : before.newlyFollowed after = added := by
    rw [newlyFollowed, ← watched, List.length_append, Nat.add_sub_cancel, List.take_left]
  rw [taken] at new
  intro old
  exact once.2.2 id new id old rfl

end State

end CafeSession.Manager
