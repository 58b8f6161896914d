import Nuon.Hibernate.States

/-!
# Hibernation: shutting down

`hibernate_begin_shutdown` is the only way into `EXITING`, and only from `LIVE`, where
`hibernate_begin` sets `shutdown_time` to `ShutdownWaitLength + 5` seconds ahead; from any other
state it exits the main loop at once and changes nothing here. Once there, the relay stays: every
entry point leaves `EXITING` and `shutdown_time` as they are. So over any run of calls, a relay
that ends `EXITING` either was already, with the same shutdown time, or was sent there by one
`hibernate_begin_shutdown` from `LIVE`, whose time it keeps (`hibernateRun_exiting`).
-/

namespace Nuon.Hibernate

section Steps

variable {cfg : AccountingCfg} {digest : Int → Nat} {s t : Hibernation} {now : Int}

/-- Short of `EXITING` after a call, with the `shutdown_time` of before. -/
def StaysAwake (s t : Hibernation) : Prop :=
  t.hibernateState ≠ .exiting ∧ t.shutdownTime = s.shutdownTime

/-- Housekeeping keeps the shutdown time. -/
@[simp] theorem Hibernation.housekeeping_shutdownTime :
    (s.housekeeping cfg digest now).shutdownTime = s.shutdownTime :=
  rfl

private theorem hibernateBegin_staysAwake {newState : HibernateState} (notExiting : newState ≠ .exiting) :
    StaysAwake s (hibernateBegin s newState now) := by
  refine ⟨by rw [(hibernateBegin_of_ne_exiting now notExiting).1]; exact notExiting, ?_⟩
  rw [hibernateBegin, if_neg fun stays => notExiting stays.1]
  exact if_neg notExiting

@[simp] private theorem hibernateGoDormant_shutdownTime :
    (hibernateGoDormant s now).shutdownTime = s.shutdownTime := by
  unfold hibernateGoDormant
  split_ifs
  · rfl
  · rfl
  · exact (show StaysAwake s (hibernateBegin s .dormant now) from
      hibernateBegin_staysAwake (by decide)).2

private theorem hibernateGoDormant_staysAwake : StaysAwake s (hibernateGoDormant s now) :=
  ⟨by rw [hibernateGoDormant_hibernateState]; decide, hibernateGoDormant_shutdownTime⟩

private theorem hibernateEnd_staysAwake {newState : HibernateState} (notExiting : newState ≠ .exiting)
    (ended : hibernateEnd s newState = some t) : StaysAwake s t := by
  unfold hibernateEnd at ended
  split_ifs at ended
  cases ended
  exact ⟨notExiting, rfl⟩

private theorem hibernateEndTimeElapsed_staysAwake (notExiting : s.hibernateState ≠ .exiting)
    (elapsed : hibernateEndTimeElapsed cfg digest s now = some t) : StaysAwake s t := by
  unfold hibernateEndTimeElapsed at elapsed
  dsimp only at elapsed
  split_ifs at elapsed with woke asleep
  · exact hibernateEnd_staysAwake (s := s.housekeeping cfg digest now) (by decide) elapsed
  · cases elapsed
    exact hibernateGoDormant_staysAwake
  · cases elapsed
    exact ⟨notExiting, rfl⟩

private theorem considerHibernationAwake_staysAwake (notExiting : s.hibernateState ≠ .exiting)
    (considered : considerHibernationAwake cfg digest s now = some t) : StaysAwake s t := by
  unfold considerHibernationAwake at considered
  obtain ⟨awake, started, finished⟩ := Option.bind_eq_some.mp considered
  have first : StaysAwake s awake := by
    split_ifs at started
    · cases started
      exact hibernateBegin_staysAwake (by decide)
    · cases started
      exact hibernateGoDormant_staysAwake
    · exact hibernateEnd_staysAwake (by decide) started
    · cases started
      exact ⟨notExiting, rfl⟩
    · cases started
      exact ⟨notExiting, rfl⟩
  have second : StaysAwake awake t := by
    split_ifs at finished
    all_goals first
      | exact hibernateEndTimeElapsed_staysAwake first.1 finished
      | (cases finished; exact hibernateGoDormant_staysAwake)
      | (cases finished; exact ⟨first.1, rfl⟩)
  exact ⟨second.1, second.2.trans first.2⟩

/-- `consider_hibernation` leaves `EXITING` as it is, and from any other state neither enters it
nor moves the shutdown time. -/
theorem considerHibernation_shutdown (considered : considerHibernation cfg digest s now = some t) :
    (s.hibernateState = .exiting → t = s) ∧ (s.hibernateState ≠ .exiting → StaysAwake s t) := by
  unfold considerHibernation at considered
  split_ifs at considered with exiting _ dormant
  · cases considered
    exact ⟨fun _ => rfl, fun awake => absurd exiting awake⟩
  · refine ⟨fun exiting' => absurd exiting' exiting, fun _ => ?_⟩
    cases considered
    exact ⟨exiting, rfl⟩
  · refine ⟨fun exiting' => absurd exiting' exiting, fun _ => ?_⟩
    obtain ⟨woken, elapsed, finished⟩ := Option.bind_eq_some.mp considered
    have first := hibernateEndTimeElapsed_staysAwake exiting elapsed
    have second := considerHibernationAwake_staysAwake first.1 finished
    exact ⟨second.1, second.2.trans first.2⟩
  · exact ⟨fun exiting' => absurd exiting' exiting,
      fun _ => considerHibernationAwake_staysAwake exiting considered⟩

/-- What one call does to `EXITING` and the shutdown time: a relay in `EXITING` stays there with
its shutdown time, and a relay short of it gets there only by `hibernate_begin_shutdown` from
`LIVE`, which sets the time. -/
theorem hibernateStep_shutdown {op : HibernateOp} (stepped : hibernateStep cfg digest s op = some t) :
    (s.hibernateState = .exiting → t.hibernateState = .exiting ∧ t.shutdownTime = s.shutdownTime) ∧
      (s.hibernateState ≠ .exiting → StaysAwake s t ∨
        ∃ now, op = .hibernateBeginShutdown now ∧ s.hibernateState = .live ∧
          t.hibernateState = .exiting ∧ t.shutdownTime = now + s.options.shutdownWaitLength + 5) := by
  cases op with
  | considerHibernation now =>
    obtain ⟨stays, awake⟩ := considerHibernation_shutdown stepped
    exact ⟨fun exiting => by rw [stays exiting]; exact ⟨exiting, rfl⟩, fun notExiting => .inl (awake notExiting)⟩
  | wakeupEventCallback now =>
    obtain ⟨considered, found, rfl⟩ := Option.map_eq_some'.mp stepped
    obtain ⟨stays, awake⟩ := considerHibernation_shutdown found
    refine ⟨fun exiting => ?_, fun notExiting => .inl ?_⟩ <;> split_ifs
    all_goals first
      | (obtain rfl := stays exiting; exact ⟨exiting, rfl⟩)
      | exact awake notExiting
  | accountingRunHousekeeping now =>
    cases stepped
    exact ⟨fun exiting => ⟨exiting, rfl⟩, fun notExiting => .inl ⟨notExiting, rfl⟩⟩
  | accountingAddBytes nRead nWritten seconds =>
    cases stepped
    exact ⟨fun exiting => ⟨exiting, rfl⟩, fun notExiting => .inl ⟨notExiting, rfl⟩⟩
  | hibernateBeginShutdown now =>
    cases stepped
    refine ⟨fun exiting => ?_, fun notExiting => ?_⟩
    · rw [hibernateBegin, if_pos ⟨rfl, by rw [exiting]; decide⟩]
      exact ⟨exiting, rfl⟩
    · by_cases live : s.hibernateState = .live
      · rcases hibernateBegin_exiting (s := s) now with same | ⟨entered, shutdown⟩
        · rw [same]
          exact .inl ⟨notExiting, rfl⟩
        · exact .inr ⟨now, rfl, live, entered, shutdown⟩
      · rw [hibernateBegin, if_pos ⟨rfl, live⟩]
        exact .inl ⟨notExiting, rfl⟩
  | setAccountingMax accountingMax =>
    cases stepped
    exact ⟨fun exiting => ⟨exiting, rfl⟩, fun notExiting => .inl ⟨notExiting, rfl⟩⟩

end Steps

/-! ## Runs -/

section Runs

variable {cfg : AccountingCfg} {digest : Int → Nat}

/-- Over any run of calls, from any state: `EXITING` is never left and its shutdown time never
moves, and a relay that ends `EXITING` without having started there was sent there by a
`hibernate_begin_shutdown` made in `LIVE`, at the time that call set. -/
theorem hibernateRun_exiting {s t : Hibernation} {ops : List HibernateOp}
    (ran : hibernateRun cfg digest s ops = some t) :
    (s.hibernateState = .exiting → t.hibernateState = .exiting ∧ t.shutdownTime = s.shutdownTime) ∧
      (t.hibernateState = .exiting → s.hibernateState ≠ .exiting →
        ∃ pre now post mid, ops = pre ++ .hibernateBeginShutdown now :: post ∧
          hibernateRun cfg digest s pre = some mid ∧ mid.hibernateState = .live ∧
          t.shutdownTime = now + mid.options.shutdownWaitLength + 5) := by
  induction ops generalizing s with
  | nil =>
    cases ran
    exact ⟨fun exiting => ⟨exiting, rfl⟩, fun exiting notExiting => absurd exiting notExiting⟩
  | cons op ops inductionHypothesis =>
    obtain ⟨next, stepped, rest⟩ := Option.bind_eq_some.mp ran
    obtain ⟨later, entered⟩ := inductionHypothesis rest
    obtain ⟨stays, awake⟩ := hibernateStep_shutdown stepped
    refine ⟨fun exiting => ?_, fun exitingAfter notExiting => ?_⟩
    · obtain ⟨nextExiting, nextShutdown⟩ := stays exiting
      obtain ⟨tExiting, tShutdown⟩ := later nextExiting
      exact ⟨tExiting, tShutdown.trans nextShutdown⟩
    · rcases awake notExiting with ⟨nextAwake, -⟩ | ⟨now, rfl, live, nextExiting, shutdown⟩
      · obtain ⟨pre, now, post, mid, split, reached, live, shutdown⟩ := entered exitingAfter nextAwake
        refine ⟨op :: pre, now, post, mid, by rw [split, List.cons_append], ?_, live, shutdown⟩
        rw [hibernateRun, stepped, Option.some_bind, reached]
      · refine ⟨[], now, ops, s, rfl, rfl, live, ?_⟩
        rw [(later nextExiting).2, shutdown]

end Runs

/-- A relay without accounting, configured at `1700000000`, wakes up, is told to shut down ten
seconds later, and is considered again. -/
def shutdownOps : List HibernateOp :=
  [.considerHibernation 1700000000, .hibernateBeginShutdown 1700000010,
    .considerHibernation 1700000020]

/-- The relay before the run: no `AccountingMax`, a `ShutdownWaitLength` of 30 seconds. -/
def unaccountedRelay : Hibernation :=
  configuredAt dailyCfg ⟨0, .acctSum, 0, 0, 30⟩ 1700000000

/-- Where the run ends. -/
def shutdownRunEnd : Hibernation :=
  (hibernateRun dailyCfg (fun _ => 0) unaccountedRelay shutdownOps).getD unaccountedRelay

/-- A relay without accounting that begins to shut down is `EXITING` with the shutdown time of that
call, and stays so. -/
theorem hibernateRun_exiting_shutdownOps :
    hibernateRun dailyCfg (fun _ => 0) unaccountedRelay shutdownOps = some shutdownRunEnd ∧
      shutdownRunEnd.hibernateState = .exiting ∧ shutdownRunEnd.shutdownTime = 1700000045 ∧
      (unaccountedRelay.hibernateState = .exiting →
        shutdownRunEnd.hibernateState = .exiting ∧
          shutdownRunEnd.shutdownTime = unaccountedRelay.shutdownTime) ∧
      (shutdownRunEnd.hibernateState = .exiting → unaccountedRelay.hibernateState ≠ .exiting →
        ∃ pre now post mid, shutdownOps = pre ++ .hibernateBeginShutdown now :: post ∧
          hibernateRun dailyCfg (fun _ => 0) unaccountedRelay pre = some mid ∧
          mid.hibernateState = .live ∧
          shutdownRunEnd.shutdownTime = now + mid.options.shutdownWaitLength + 5) :=
  have ran : hibernateRun dailyCfg (fun _ => 0) unaccountedRelay shutdownOps = some shutdownRunEnd :=
    by decide
  ⟨ran, by decide, by decide, hibernateRun_exiting ran⟩

end Nuon.Hibernate
