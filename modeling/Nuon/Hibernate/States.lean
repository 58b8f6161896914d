import Nuon.Hibernate.Accounting

/-!
# Hibernation: the five states

hibernate.c moves between `INITIAL`, `LIVE`, `LOWBANDWIDTH` (soft limit reached: no new
connections), `DORMANT` (hard limit or waiting for the wakeup time: no traffic) and `EXITING`
(shutting down after `SIGINT`). Its entry points are `consider_hibernation`, the wakeup event,
`accounting_run_housekeeping`, `accounting_add_bytes` and `hibernate_begin_shutdown`; besides
them `AccountingMax` may change at any time. Each entry point is a function to `Option`, with
`none` where a `tor_assert` fires: in `consider_hibernation` on `shutdown_time` and
`hibernate_end_time`, and in `hibernate_end` on the state it is entered from.

`HibernateReachable` holds of every state a run can reach from `INITIAL` once
`configure_accounting` has run, with positive times. Every such state keeps `HibernateInv`
(`hibernateReachable_inv`), and from every one each entry point returns, so no assertion fires
(`hibernateReachable_safe`). With an `AccountingMax` of one byte, `consider_hibernation` leaves a
relay over its budget `LIVE` (`considerHibernation_oneByte_live`); from two bytes on it makes it
`DORMANT` (`considerHibernation_dormant_of_hard`).
-/

namespace Nuon.Hibernate

/-- `hibernate_state_t`. -/
inductive HibernateState
  | initial
  | live
  | lowbandwidth
  | dormant
  | exiting
  deriving Repr, DecidableEq

/-- The globals of hibernate.c, and the options it reads. -/
structure Hibernation where
  hibernateState : HibernateState
  hibernateEndTime : Int
  shutdownTime : Int
  acct : AccountingState
  options : HibernateOptions
  deriving Repr, DecidableEq

section EntryPoints

variable (cfg : AccountingCfg) (digest : Int → Nat)

/-- `accounting_run_housekeeping(now)` on the accounting globals. -/
def Hibernation.housekeeping (s : Hibernation) (now : Int) : Hibernation :=
  { s with acct := accountingRunHousekeeping cfg s.options digest s.acct now }

/-- `hibernate_begin(new_state, now)`. `EXITING` from a state other than `LIVE` asks the main loop
to exit at once (`tor_shutdown_event_loop_and_exit`) and changes nothing here. Entering
`LOWBANDWIDTH` from `LIVE` notes where the soft limit was hit. -/
def hibernateBegin (s : Hibernation) (newState : HibernateState) (now : Int) : Hibernation :=
  if newState = .exiting ∧ s.hibernateState ≠ .live then s
  else
    let acct :=
      if newState = .lowbandwidth ∧ s.hibernateState = .live then
        { s.acct with
          softLimitHitAt := now
          nSecondsToHitSoftLimit := int32OfInt s.acct.nSecondsActiveInInterval
          nBytesAtSoftLimit := getAccountingBytes s.options s.acct }
      else s.acct
    { s with
      hibernateState := newState
      shutdownTime :=
        if newState = .exiting then now + s.options.shutdownWaitLength + 5 else s.shutdownTime
      hibernateEndTime := if newState = .exiting then s.hibernateEndTime else s.acct.intervalEndTime
      acct := accountingRecordBandwidthUsage acct }

/-- `hibernate_end(new_state)`, which asserts that hibernation is what it ends. -/
def hibernateEnd (s : Hibernation) (newState : HibernateState) : Option Hibernation :=
  if s.hibernateState = .lowbandwidth ∨ s.hibernateState = .dormant ∨
      s.hibernateState = .initial then
    some { s with hibernateState := newState, hibernateEndTime := 0 }
  else none

/-- `hibernate_go_dormant(now)`: sleep until the wakeup time if it is still ahead, else until
the end of the interval. -/
def hibernateGoDormant (s : Hibernation) (now : Int) : Hibernation :=
  if s.hibernateState = .dormant then s
  else
    let s :=
      if s.hibernateState = .lowbandwidth then { s with hibernateState := .dormant }
      else hibernateBegin s .dormant now
    let s := { s with hibernateEndTime :=
      if now < s.acct.intervalWakeupTime then s.acct.intervalWakeupTime else s.acct.intervalEndTime }
    { s with acct := accountingRecordBandwidthUsage s.acct }

/-- `hibernate_end_time_elapsed(now)`: wake up if the wakeup time has come, else sleep until it. -/
def hibernateEndTimeElapsed (s : Hibernation) (now : Int) : Option Hibernation :=
  let s := s.housekeeping cfg digest now
  if s.acct.intervalWakeupTime ≤ now then hibernateEnd s .live
  else
    let s := { s with hibernateEndTime := s.acct.intervalWakeupTime }
    if s.hibernateState ≠ .dormant then some (hibernateGoDormant s now) else some s

/-- The part of `consider_hibernation` after its `DORMANT` case: start hibernating from `LIVE` or
`INITIAL`, then go on from `LOWBANDWIDTH`. -/
def considerHibernationAwake (s : Hibernation) (now : Int) : Option Hibernation :=
  let accountingEnabled := s.options.accountingMax ≠ 0
  let awake :=
    if s.hibernateState = .live ∨ s.hibernateState = .initial then
      if hibernateSoftLimitReached s.options s.acct then some (hibernateBegin s .lowbandwidth now)
      else if accountingEnabled ∧ now < s.acct.intervalWakeupTime then some (hibernateGoDormant s now)
      else if s.hibernateState = .initial then hibernateEnd s .live
      else some s
    else some s
  awake.bind fun s =>
    if s.hibernateState = .lowbandwidth then
      if ¬accountingEnabled then hibernateEndTimeElapsed cfg digest s now
      else if hibernateHardLimitReached s.options s.acct then some (hibernateGoDormant s now)
      else if s.hibernateEndTime ≤ now then hibernateEndTimeElapsed cfg digest s now
      else some s
    else some s

/-- `consider_hibernation(now)`. In `EXITING` it only exits the main loop once `shutdown_time`
has come; in `DORMANT` it sleeps on until `hibernate_end_time` while accounting is enabled. -/
def considerHibernation (s : Hibernation) (now : Int) : Option Hibernation :=
  if s.hibernateState = .exiting then
    if s.shutdownTime = 0 then none else some s
  else if s.hibernateState = .dormant then
    if s.hibernateEndTime = 0 then none
    else if s.hibernateEndTime > now ∧ s.options.accountingMax ≠ 0 then some s
    else (hibernateEndTimeElapsed cfg digest s now).bind fun s => considerHibernationAwake cfg digest s now
  else considerHibernationAwake cfg digest s now

/-- `wakeup_event_callback`, run at `now`: still `DORMANT`, it sleeps until the wakeup time or
the end of the interval. -/
def wakeupEventCallback (s : Hibernation) (now : Int) : Option Hibernation :=
  (considerHibernation cfg digest (s.housekeeping cfg digest now) now).map fun s =>
    if s.hibernateState ≠ .dormant then s
    else { s with hibernateEndTime :=
      if now < s.acct.intervalWakeupTime then s.acct.intervalWakeupTime else s.acct.intervalEndTime }

end EntryPoints

/-- A call into hibernate.c, or a change of `AccountingMax`. -/
inductive HibernateOp
  | considerHibernation (now : Int)
  | wakeupEventCallback (now : Int)
  | accountingRunHousekeeping (now : Int)
  | accountingAddBytes (nRead nWritten : Nat) (seconds : Int)
  | hibernateBeginShutdown (now : Int)
  | setAccountingMax (accountingMax : Nat)
  deriving Repr, DecidableEq

/-- The calls that read the clock are made at a positive time. -/
def HibernateOp.Timely : HibernateOp → Prop
  | .considerHibernation now => 0 < now
  | .wakeupEventCallback now => 0 < now
  | .accountingRunHousekeeping now => 0 < now
  | .accountingAddBytes .. => True
  | .hibernateBeginShutdown now => 0 < now
  | .setAccountingMax _ => True

instance (op : HibernateOp) : Decidable op.Timely := by
  cases op <;> unfold HibernateOp.Timely <;> infer_instance

/-- One call; `hibernate_begin_shutdown` runs `hibernate_begin(HIBERNATE_STATE_EXITING, now)`. -/
def hibernateStep (cfg : AccountingCfg) (digest : Int → Nat) (s : Hibernation) :
    HibernateOp → Option Hibernation
  | .considerHibernation now => considerHibernation cfg digest s now
  | .wakeupEventCallback now => wakeupEventCallback cfg digest s now
  | .accountingRunHousekeeping now => some (s.housekeeping cfg digest now)
  | .accountingAddBytes nRead nWritten seconds =>
    some { s with acct := accountingAddBytes s.acct nRead nWritten seconds }
  | .hibernateBeginShutdown now => some (hibernateBegin s .exiting now)
  | .setAccountingMax accountingMax =>
    some { s with options := { s.options with accountingMax := accountingMax } }

/-- The globals before anything has run: `INITIAL`, zero counters, and the state file as it was
loaded. -/
def initialHibernation (orState : OrState) (options : HibernateOptions) : Hibernation :=
  ⟨.initial, 0, 0, ⟨0, 0, 0, 0, 0, 0, 0, 0, 0, 0, 0, 0, 0, orState⟩, options⟩

/-- The states a run reaches from `INITIAL` once `configure_accounting(now)` has run, making
calls at positive times. -/
inductive HibernateReachable (cfg : AccountingCfg) (digest : Int → Nat) : Hibernation → Prop
  | configured (orState : OrState) (options : HibernateOptions) {now : Int} (positive : 0 < now) :
    HibernateReachable cfg digest
      { initialHibernation orState options with
        acct := configureAccounting cfg options digest (initialHibernation orState options).acct now }
  | step {s next : Hibernation} {op : HibernateOp} (reachable : HibernateReachable cfg digest s)
      (timely : op.Timely) (transition : hibernateStep cfg digest s op = some next) :
    HibernateReachable cfg digest next

/-! ## What each entry point keeps -/

/-- What holds in every reachable state: `EXITING` has a shutdown time, `DORMANT` a time to
wake up, and the accounting interval has an end. -/
structure HibernateInv (s : Hibernation) : Prop where
  shutdownPositive : s.hibernateState = .exiting → 0 < s.shutdownTime
  endPositive : s.hibernateState = .dormant → 0 < s.hibernateEndTime
  intervalEndPositive : 0 < s.acct.intervalEndTime

/-- A call that returns, then one that returns from whatever the first returned. -/
theorem bind_returns {α β : Type} {x : Option α} {f : α → Option β} {P : α → Prop} {Q : β → Prop}
    (first : ∃ a, x = some a ∧ P a) (second : ∀ a, P a → ∃ b, f a = some b ∧ Q b) :
    ∃ b, x.bind f = some b ∧ Q b := by
  obtain ⟨a, rfl, holds⟩ := first
  exact second a holds

section Steps

variable {cfg : AccountingCfg} {digest : Int → Nat} {s : Hibernation} {now : Int}

/-- Housekeeping keeps the hibernation state. -/
@[simp] theorem Hibernation.housekeeping_hibernateState :
    (s.housekeeping cfg digest now).hibernateState = s.hibernateState :=
  rfl

/-- Housekeeping keeps the options. -/
@[simp] theorem Hibernation.housekeeping_options : (s.housekeeping cfg digest now).options = s.options :=
  rfl

variable (digest) in
/-- Housekeeping at a positive time keeps the invariant. -/
theorem HibernateInv.housekeeping (valid : cfg.Valid) (inv : HibernateInv s) (positive : 0 < now) :
    HibernateInv (s.housekeeping cfg digest now) :=
  ⟨inv.shutdownPositive, inv.endPositive,
    positive.trans (accountingRunHousekeeping_lt_end valid s.acct now)⟩

@[simp] private theorem hibernateBegin_options (newState : HibernateState) :
    (hibernateBegin s newState now).options = s.options := by
  unfold hibernateBegin
  by_cases stays : newState = .exiting ∧ s.hibernateState ≠ .live
  · rw [if_pos stays]
  · rw [if_neg stays]

variable (now) in
/-- Where the soft limit was hit is noted, and the state recorded; no interval time changes. -/
theorem hibernateBegin_acct (newState : HibernateState) :
    (hibernateBegin s newState now).acct = s.acct ∨ ∃ acct : AccountingState,
      (hibernateBegin s newState now).acct = accountingRecordBandwidthUsage acct ∧
      acct.intervalEndTime = s.acct.intervalEndTime ∧
      acct.intervalWakeupTime = s.acct.intervalWakeupTime ∧
      acct.nBytesReadInInterval = s.acct.nBytesReadInInterval ∧
      acct.nBytesWrittenInInterval = s.acct.nBytesWrittenInInterval := by
  unfold hibernateBegin
  by_cases stays : newState = .exiting ∧ s.hibernateState ≠ .live
  · rw [if_pos stays]; exact .inl rfl
  · rw [if_neg stays]
    refine .inr ⟨_, rfl, ?_⟩
    by_cases soft : newState = .lowbandwidth ∧ s.hibernateState = .live
    · rw [if_pos soft]; exact ⟨rfl, rfl, rfl, rfl⟩
    · rw [if_neg soft]; exact ⟨rfl, rfl, rfl, rfl⟩

@[simp] private theorem hibernateBegin_intervalEndTime (newState : HibernateState) :
    (hibernateBegin s newState now).acct.intervalEndTime = s.acct.intervalEndTime := by
  rcases hibernateBegin_acct (s := s) now newState with same | ⟨acct, eq, kept, -⟩
  · rw [same]
  · rw [eq, accountingRecordBandwidthUsage_intervalEndTime, kept]

@[simp] private theorem hibernateBegin_intervalWakeupTime (newState : HibernateState) :
    (hibernateBegin s newState now).acct.intervalWakeupTime = s.acct.intervalWakeupTime := by
  rcases hibernateBegin_acct (s := s) now newState with same | ⟨acct, eq, -, kept, -⟩
  · rw [same]
  · rw [eq, accountingRecordBandwidthUsage_intervalWakeupTime, kept]

/-- `hibernate_begin` counts no bytes. -/
@[simp] theorem getAccountingBytes_hibernateBegin (options : HibernateOptions)
    (newState : HibernateState) :
    getAccountingBytes options (hibernateBegin s newState now).acct = getAccountingBytes options s.acct := by
  rcases hibernateBegin_acct (s := s) now newState with same | ⟨acct, eq, -, -, read, written⟩
  · rw [same]
  · simp only [eq, getAccountingBytes, accountingRecordBandwidthUsage_nBytesReadInInterval,
      accountingRecordBandwidthUsage_nBytesWrittenInInterval, read, written]

variable (now) in
/-- Short of `EXITING`, `hibernate_begin` enters the state it is given and sleeps until the end
of the interval. -/
theorem hibernateBegin_of_ne_exiting {newState : HibernateState} (notExiting : newState ≠ .exiting) :
    (hibernateBegin s newState now).hibernateState = newState ∧
      (hibernateBegin s newState now).hibernateEndTime = s.acct.intervalEndTime := by
  rw [hibernateBegin, if_neg (fun stays => notExiting stays.1)]
  exact ⟨rfl, if_neg notExiting⟩

variable (now) in
/-- `EXITING` is entered from `LIVE` only, with a shutdown time after `now`. -/
theorem hibernateBegin_exiting :
    hibernateBegin s .exiting now = s ∨ (hibernateBegin s .exiting now).hibernateState = .exiting ∧
      (hibernateBegin s .exiting now).shutdownTime = now + s.options.shutdownWaitLength + 5 := by
  unfold hibernateBegin
  by_cases stays : HibernateState.exiting = .exiting ∧ s.hibernateState ≠ .live
  · rw [if_pos stays]; exact .inl rfl
  · rw [if_neg stays]
    refine .inr ⟨rfl, ?_⟩
    dsimp only
    exact if_pos rfl

private theorem hibernateBegin_inv (inv : HibernateInv s) (positive : 0 < now) (newState : HibernateState) :
    HibernateInv (hibernateBegin s newState now) := by
  have intervalEnd : 0 < (hibernateBegin s newState now).acct.intervalEndTime := by
    rw [hibernateBegin_intervalEndTime]; exact inv.intervalEndPositive
  by_cases exiting : newState = .exiting
  · subst exiting
    rcases hibernateBegin_exiting (s := s) now with stays | ⟨entered, shutdown⟩
    · rw [stays]; exact inv
    · refine ⟨fun _ => by rw [shutdown]; omega, fun dormant => ?_, intervalEnd⟩
      rw [entered] at dormant; cases dormant
  · obtain ⟨entered, sleeps⟩ := hibernateBegin_of_ne_exiting (s := s) now exiting
    refine ⟨fun exiting' => absurd (entered ▸ exiting') exiting, fun _ => ?_, intervalEnd⟩
    rw [sleeps]; exact inv.intervalEndPositive

/-- Going to sleep in a state with an interval end: `DORMANT`, until a time after `now` or the
end of the interval. -/
theorem HibernateInv.sleep {t : Hibernation} (dormant : t.hibernateState = .dormant)
    (intervalEnd : 0 < t.acct.intervalEndTime) (positive : 0 < now) :
    HibernateInv { t with
      hibernateEndTime := if now < t.acct.intervalWakeupTime then t.acct.intervalWakeupTime
        else t.acct.intervalEndTime } := by
  refine ⟨fun exiting => ?_, fun _ => ?_, intervalEnd⟩
  · rw [dormant] at exiting; cases exiting
  · dsimp only; split_ifs <;> omega

/-- Recording the accounting state to disk keeps the interval. -/
theorem HibernateInv.record {t : Hibernation} (inv : HibernateInv t) :
    HibernateInv { t with acct := accountingRecordBandwidthUsage t.acct } :=
  ⟨inv.shutdownPositive, inv.endPositive, inv.intervalEndPositive⟩

/-- `hibernate_go_dormant` always leaves the relay `DORMANT`. -/
theorem hibernateGoDormant_hibernateState : (hibernateGoDormant s now).hibernateState = .dormant := by
  unfold hibernateGoDormant
  split_ifs with dormant lowBandwidth
  · exact dormant
  · rfl
  · exact (hibernateBegin_of_ne_exiting (s := s) now (by decide)).1

@[simp] private theorem hibernateGoDormant_options : (hibernateGoDormant s now).options = s.options := by
  unfold hibernateGoDormant
  split_ifs
  · rfl
  · rfl
  · exact hibernateBegin_options _

private theorem hibernateGoDormant_inv (inv : HibernateInv s) (positive : 0 < now) :
    HibernateInv (hibernateGoDormant s now) := by
  unfold hibernateGoDormant
  split_ifs with dormant lowBandwidth
  · exact inv
  · exact (HibernateInv.sleep (t := { s with hibernateState := .dormant }) rfl
      inv.intervalEndPositive positive).record
  · refine (HibernateInv.sleep (hibernateBegin_of_ne_exiting _ (by decide)).1 ?_ positive).record
    rw [hibernateBegin_intervalEndTime]; exact inv.intervalEndPositive

/-- From `LOWBANDWIDTH`, `DORMANT` or `INITIAL`, `hibernate_end` returns. -/
theorem hibernateEnd_eq_some (asleep : s.hibernateState = .lowbandwidth ∨
      s.hibernateState = .dormant ∨ s.hibernateState = .initial) (newState : HibernateState) :
    hibernateEnd s newState = some { s with hibernateState := newState, hibernateEndTime := 0 } := by
  rw [hibernateEnd, if_pos asleep]

private theorem hibernateEnd_live_inv (inv : HibernateInv s) :
    HibernateInv { s with hibernateState := .live, hibernateEndTime := 0 } :=
  ⟨nofun, nofun, inv.intervalEndPositive⟩

variable (digest) in
/-- From `DORMANT` or `LOWBANDWIDTH`, `hibernate_end_time_elapsed` returns, awake or asleep. -/
theorem hibernateEndTimeElapsed_inv (valid : cfg.Valid) (inv : HibernateInv s) (positive : 0 < now)
    (asleep : s.hibernateState = .dormant ∨ s.hibernateState = .lowbandwidth) :
    ∃ next, hibernateEndTimeElapsed cfg digest s now = some next ∧ HibernateInv next ∧
      next.hibernateState ≠ .exiting ∧ next.options = s.options := by
  have kept := inv.housekeeping digest valid positive
  have notExiting : (s.housekeeping cfg digest now).hibernateState ≠ .exiting := by
    rw [Hibernation.housekeeping_hibernateState]; rcases asleep with h | h <;> rw [h] <;> decide
  unfold hibernateEndTimeElapsed
  dsimp only
  split_ifs with woke notDormant
  · refine ⟨_, hibernateEnd_eq_some ?_ _, hibernateEnd_live_inv kept, nofun, rfl⟩
    rw [Hibernation.housekeeping_hibernateState]; rcases asleep with h | h <;> simp [h]
  · refine ⟨_, rfl, hibernateGoDormant_inv ⟨fun exiting => absurd exiting notExiting,
      fun dormant => absurd dormant notDormant, kept.intervalEndPositive⟩ positive,
      by rw [hibernateGoDormant_hibernateState]; decide, hibernateGoDormant_options⟩
  · refine ⟨_, rfl, ⟨fun exiting => absurd exiting notExiting, fun _ => ?_,
      kept.intervalEndPositive⟩, notExiting, rfl⟩
    show 0 < (s.housekeeping cfg digest now).acct.intervalWakeupTime
    omega

/-- Short of `EXITING`, the rest of `consider_hibernation` returns. -/
theorem considerHibernationAwake_inv (valid : cfg.Valid) (inv : HibernateInv s) (positive : 0 < now)
    (notExiting : s.hibernateState ≠ .exiting) :
    ∃ next, considerHibernationAwake cfg digest s now = some next ∧ HibernateInv next := by
  refine bind_returns (P := fun awake => HibernateInv awake ∧ awake.hibernateState ≠ .exiting) ?_
    fun awake ⟨awakeInv, _⟩ => ?_
  · split_ifs with start soft sleeps initial
    · exact ⟨_, rfl, hibernateBegin_inv inv positive _,
        by rw [(hibernateBegin_of_ne_exiting _ (by decide)).1]; decide⟩
    · exact ⟨_, rfl, hibernateGoDormant_inv inv positive,
        by rw [hibernateGoDormant_hibernateState]; decide⟩
    · exact ⟨_, hibernateEnd_eq_some (.inr (.inr initial)) _, hibernateEnd_live_inv inv, nofun⟩
    · exact ⟨s, rfl, inv, notExiting⟩
    · exact ⟨s, rfl, inv, notExiting⟩
  · have elapsed := hibernateEndTimeElapsed_inv digest valid awakeInv positive
    split_ifs with lowBandwidth enabled hard
    · exact ⟨_, rfl, hibernateGoDormant_inv awakeInv positive⟩
    · obtain ⟨next, woken, nextInv, -⟩ := elapsed (.inr lowBandwidth)
      exact ⟨next, woken, nextInv⟩
    · exact ⟨awake, rfl, awakeInv⟩
    · obtain ⟨next, woken, nextInv, -⟩ := elapsed (.inr lowBandwidth)
      exact ⟨next, woken, nextInv⟩
    · exact ⟨awake, rfl, awakeInv⟩

/-- `consider_hibernation` returns: its assertions on `shutdown_time` and `hibernate_end_time`
hold by the invariant. -/
theorem considerHibernation_inv (valid : cfg.Valid) (inv : HibernateInv s) (positive : 0 < now) :
    ∃ next, considerHibernation cfg digest s now = some next ∧ HibernateInv next := by
  unfold considerHibernation
  split_ifs with exiting noShutdown dormant noEnd sleeping
  · exact absurd noShutdown (inv.shutdownPositive exiting).ne'
  · exact ⟨s, rfl, inv⟩
  · exact absurd noEnd (inv.endPositive dormant).ne'
  · exact ⟨s, rfl, inv⟩
  · exact bind_returns (hibernateEndTimeElapsed_inv digest valid inv positive (.inl dormant))
      fun _ ⟨wokenInv, wokenNotExiting, _⟩ =>
        considerHibernationAwake_inv valid wokenInv positive wokenNotExiting
  · exact considerHibernationAwake_inv valid inv positive exiting

/-- Setting the end time of a `DORMANT` relay again keeps the invariant. -/
theorem HibernateInv.resleep {t : Hibernation} (inv : HibernateInv t) (positive : 0 < now) :
    HibernateInv (if t.hibernateState ≠ .dormant then t
      else { t with hibernateEndTime :=
        if now < t.acct.intervalWakeupTime then t.acct.intervalWakeupTime
        else t.acct.intervalEndTime }) := by
  by_cases awake : t.hibernateState ≠ .dormant
  · rw [if_pos awake]; exact inv
  · rw [if_neg awake]; exact HibernateInv.sleep (not_not.mp awake) inv.intervalEndPositive positive

private theorem wakeupEventCallback_inv (valid : cfg.Valid) (inv : HibernateInv s) (positive : 0 < now) :
    ∃ next, wakeupEventCallback cfg digest s now = some next ∧ HibernateInv next := by
  obtain ⟨next, found, nextInv⟩ :=
    considerHibernation_inv valid (inv.housekeeping digest valid positive) positive
  unfold wakeupEventCallback
  rw [found, Option.map_some']
  exact ⟨_, rfl, nextInv.resleep positive⟩

/-- Every call made at a positive time returns, and keeps the invariant. -/
theorem hibernateStep_inv (valid : cfg.Valid) (inv : HibernateInv s) {op : HibernateOp}
    (timely : op.Timely) : ∃ next, hibernateStep cfg digest s op = some next ∧ HibernateInv next := by
  cases op with
  | considerHibernation now => exact considerHibernation_inv valid inv timely
  | wakeupEventCallback now => exact wakeupEventCallback_inv valid inv timely
  | accountingRunHousekeeping now => exact ⟨_, rfl, inv.housekeeping _ valid timely⟩
  | accountingAddBytes nRead nWritten seconds =>
    exact ⟨_, rfl, inv.shutdownPositive, inv.endPositive, inv.intervalEndPositive⟩
  | hibernateBeginShutdown now => exact ⟨_, rfl, hibernateBegin_inv inv timely _⟩
  | setAccountingMax accountingMax =>
    exact ⟨_, rfl, inv.shutdownPositive, inv.endPositive, inv.intervalEndPositive⟩

/-- From two bytes of `AccountingMax` on, a hard limit reached in `LIVE` or `INITIAL` sends
`consider_hibernation` to `DORMANT`: the soft limit is then reached as well
(`hibernateSoftLimitReached_of_hard`), so the relay enters `LOWBANDWIDTH`, where the hard limit
is checked. -/
theorem considerHibernation_dormant_of_hard (two : 2 ≤ s.options.accountingMax)
    (awake : s.hibernateState = .live ∨ s.hibernateState = .initial)
    (hard : hibernateHardLimitReached s.options s.acct = true) :
    ∃ next, considerHibernation cfg digest s now = some next ∧ next.hibernateState = .dormant := by
  have notExiting : s.hibernateState ≠ .exiting := by rcases awake with h | h <;> rw [h] <;> decide
  have notDormant : s.hibernateState ≠ .dormant := by rcases awake with h | h <;> rw [h] <;> decide
  have began :=
    hibernateBegin_of_ne_exiting (s := s) now (show HibernateState.lowbandwidth ≠ .exiting from nofun)
  have stillHard : hibernateHardLimitReached (hibernateBegin s .lowbandwidth now).options
      (hibernateBegin s .lowbandwidth now).acct = true := by
    simpa only [hibernateHardLimitReached, hibernateBegin_options, getAccountingBytes_hibernateBegin]
      using hard
  rw [considerHibernation, if_neg notExiting, if_neg notDormant, considerHibernationAwake]
  rw [if_pos awake, if_pos (hibernateSoftLimitReached_of_hard two hard), Option.some_bind,
    if_pos began.1, if_neg (not_not.mpr (show s.options.accountingMax ≠ 0 by omega)), if_pos stillHard]
  exact ⟨_, rfl, hibernateGoDormant_hibernateState⟩

end Steps

/-! ## Runs -/

section Runs

variable {cfg : AccountingCfg} {digest : Int → Nat}

/-- Calls made one after another, stopping at the first that does not return. -/
def hibernateRun (cfg : AccountingCfg) (digest : Int → Nat) : Hibernation → List HibernateOp →
    Option Hibernation
  | s, [] => some s
  | s, op :: ops => (hibernateStep cfg digest s op).bind fun next => hibernateRun cfg digest next ops

/-- Every state a run of timely calls reaches from a reachable state is reachable. -/
theorem HibernateReachable.run {s t : Hibernation} {ops : List HibernateOp}
    (reachable : HibernateReachable cfg digest s) (timely : ∀ op ∈ ops, op.Timely)
    (ran : hibernateRun cfg digest s ops = some t) : HibernateReachable cfg digest t := by
  induction ops generalizing s with
  | nil => exact Option.some_inj.mp ran ▸ reachable
  | cons op ops inductionHypothesis =>
    obtain ⟨next, transition, rest⟩ := Option.bind_eq_some.mp ran
    exact inductionHypothesis (reachable.step (timely op (.head _)) transition)
      (fun op' mem => timely op' (.tail _ mem)) rest

/-- Every reachable state keeps the invariant. -/
theorem hibernateReachable_inv (valid : cfg.Valid) {s : Hibernation}
    (reachable : HibernateReachable cfg digest s) : HibernateInv s := by
  induction reachable with
  | configured orState options positive =>
    exact ⟨nofun, nofun, positive.trans (configureAccounting_lt_end valid _ _)⟩
  | step _ timely transition inductionHypothesis =>
    obtain ⟨next, found, nextInv⟩ := hibernateStep_inv valid inductionHypothesis timely
    rw [found, Option.some_inj] at transition
    exact transition ▸ nextInv

/-- Start from `INITIAL` once `configure_accounting` has run, and make any calls at positive
times, with any changes to `AccountingMax`. In every state reached, `EXITING` has a shutdown
time and `DORMANT` a time to wake up, and every further call returns: neither the assertions of
`consider_hibernation` nor the one of `hibernate_end` on the state it is entered from fires. -/
theorem hibernateReachable_safe (valid : cfg.Valid) {s : Hibernation}
    (reachable : HibernateReachable cfg digest s) :
    (s.hibernateState = .exiting → s.shutdownTime ≠ 0) ∧
      (s.hibernateState = .dormant → s.hibernateEndTime ≠ 0) ∧
      ∀ op : HibernateOp, op.Timely → (hibernateStep cfg digest s op).isSome := by
  have inv := hibernateReachable_inv valid reachable
  refine ⟨fun exiting => (inv.shutdownPositive exiting).ne', fun dormant => (inv.endPositive dormant).ne',
    fun op timely => ?_⟩
  obtain ⟨next, found, -⟩ := hibernateStep_inv valid inv timely
  rw [found]
  rfl

end Runs

/-- Accounting a day from midnight. -/
def dailyCfg : AccountingCfg :=
  ⟨.unitDay, 0, 0, 0⟩

/-- An empty state file. -/
def emptyOrState : OrState :=
  ⟨0, 0, 0, 0, 0, 0, 0, 0⟩

/-- The globals once `configure_accounting` has run at `now` on the state file `orState`. -/
def configuredWith (cfg : AccountingCfg) (digest : Int → Nat) (orState : OrState)
    (options : HibernateOptions) (now : Int) : Hibernation :=
  { initialHibernation orState options with
    acct := configureAccounting cfg options digest (initialHibernation orState options).acct now }

/-- The globals once `configure_accounting` has run at `now`, from an empty state file. -/
def configuredAt (cfg : AccountingCfg) (options : HibernateOptions) (now : Int) : Hibernation :=
  configuredWith cfg (fun _ => 0) emptyOrState options now

/-- `AccountingMax 1`, summing both directions, with no configured rate. -/
def oneByteBudget : HibernateOptions :=
  ⟨1, .acctSum, 0, 0, 30⟩

/-- A state file with no interval start and an hour of activity that read 360000 bytes. -/
def busyOrState : OrState :=
  ⟨0, 360000, 0, 3600, 0, 0, 0, 0⟩

/-- `AccountingMax 1`, summing both directions, with `BandwidthRate 1000`. -/
def ratedOneByteBudget : HibernateOptions :=
  ⟨1, .acctSum, 0, 1000, 30⟩

/-- One `consider_hibernation`. -/
def dormantOps : List HibernateOp :=
  [.considerHibernation 1700000000]

/-- A `consider_hibernation`, then `hibernate_begin_shutdown` a second later. -/
def exitingOps : List HibernateOp :=
  [.considerHibernation 1700000000, .hibernateBeginShutdown 1700000001]

/-- The relay of `busyOrState`: `reset_accounting` expects `6000` bytes a minute, which exhaust the
budget at once, so the digest word `86399` puts the wakeup one second before the day ends. The
first `consider_hibernation`, earlier that day, takes it from `INITIAL` to `DORMANT`. -/
def dormantRelay : Hibernation :=
  (hibernateRun dailyCfg (fun _ => 86399)
    (configuredWith dailyCfg (fun _ => 86399) busyOrState ratedOneByteBudget 1700000000)
    dormantOps).getD (configuredAt dailyCfg ratedOneByteBudget 0)

/-- A relay that wakes up (`INITIAL` to `LIVE`) and a second later begins to shut down:
`EXITING` from `LIVE`, with the shutdown `ShutdownWaitLength` seconds and five more ahead. -/
def exitingRelay : Hibernation :=
  (hibernateRun dailyCfg (fun _ => 0) (configuredAt dailyCfg oneByteBudget 1700000000)
    exitingOps).getD (configuredAt dailyCfg oneByteBudget 0)

/-- A relay that goes `DORMANT` at its first `consider_hibernation`, and one that begins to shut
down while `LIVE`: both states are safe. -/
theorem hibernateReachable_safe_dormantAndExiting :
    dormantRelay.hibernateState = .dormant ∧ exitingRelay.hibernateState = .exiting ∧
      ((dormantRelay.hibernateState = .exiting → dormantRelay.shutdownTime ≠ 0) ∧
        (dormantRelay.hibernateState = .dormant → dormantRelay.hibernateEndTime ≠ 0) ∧
        ∀ op : HibernateOp, op.Timely →
          (hibernateStep dailyCfg (fun _ => 86399) dormantRelay op).isSome) ∧
      ((exitingRelay.hibernateState = .exiting → exitingRelay.shutdownTime ≠ 0) ∧
        (exitingRelay.hibernateState = .dormant → exitingRelay.hibernateEndTime ≠ 0) ∧
        ∀ op : HibernateOp, op.Timely →
          (hibernateStep dailyCfg (fun _ => 0) exitingRelay op).isSome) :=
  have valid : dailyCfg.Valid := ⟨by decide, by decide, by decide⟩
  have busy : HibernateReachable dailyCfg (fun _ => 86399)
      (configuredWith dailyCfg (fun _ => 86399) busyOrState ratedOneByteBudget 1700000000) :=
    .configured _ _ (by norm_num)
  have empty : HibernateReachable dailyCfg (fun _ => 0)
      (configuredAt dailyCfg oneByteBudget 1700000000) := .configured _ _ (by norm_num)
  ⟨by decide, by decide,
    hibernateReachable_safe valid (busy.run (by decide)
      (show hibernateRun _ _ _ dormantOps = some dormantRelay by decide)),
    hibernateReachable_safe valid (empty.run (by decide)
      (show hibernateRun _ _ _ exitingOps = some exitingRelay by decide))⟩

/-- With `AccountingMax 1` the soft limit `(uint64_t)(1 * .95)` is `0`, and
`hibernate_soft_limit_reached` never holds. A relay configured at `1700000000` wakes up
(`INITIAL` to `LIVE`), reads one byte, which is its whole budget, and `consider_hibernation`
leaves it `LIVE`. -/
theorem considerHibernation_oneByte_live :
    ∃ t, hibernateRun dailyCfg (fun _ => 0) (configuredAt dailyCfg oneByteBudget 1700000000)
        [.considerHibernation 1700000000, .accountingAddBytes 1 0 1] = some t ∧
      HibernateReachable dailyCfg (fun _ => 0) t ∧ t.hibernateState = .live ∧
      hibernateHardLimitReached t.options t.acct = true ∧
      hibernateSoftLimitReached t.options t.acct = false ∧
      (considerHibernation dailyCfg (fun _ => 0) t 1700000001).map (·.hibernateState) = some .live :=
  have ran : hibernateRun dailyCfg (fun _ => 0) (configuredAt dailyCfg oneByteBudget 1700000000)
      [.considerHibernation 1700000000, .accountingAddBytes 1 0 1] = some _ := rfl
  ⟨_, ran, (HibernateReachable.configured _ _ (by norm_num)).run
      (by decide) ran,
    by decide, by decide, by decide, by decide⟩

end Nuon.Hibernate
