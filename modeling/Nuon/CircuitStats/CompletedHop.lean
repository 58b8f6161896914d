import Nuon.CircuitStats.Counts
import Nuon.CircuitStats.Window

/-!
# Circuit build times: a circuit completing a hop

`circuit_build_times_handle_completed_hop` is where circuit construction feeds the estimator. It
reads the circuit (its age, its purpose, how many hops are open, whether its timeout was relaxed)
and calls the estimator's own functions: a circuit past the timeout, once some circuit has opened,
becomes a measurement circuit and counts a timeout; a circuit reaching `DEFAULT_ROUTE_LEN` open
hops with an age that passes the clock-jump check has its time added and the timeout recomputed
while the network is live, and counts a success unless it is a measurement circuit.

So one call is a run of the calls of `CbtOp`, and every state it leaves from a reachable state is
reachable (`circuitBuildTimesHandleCompletedHop_reachable`): whatever is proved of reachable
states holds after it. The purpose is changed before the success check reads it, so a circuit that
leaves as a measurement circuit has not been counted as a success
(`circuitBuildTimesHandleCompletedHop_measured`). The clock-jump check admits ages up to
`2 * close_ms + 1000`, past `UINT32_MAX` once `close_ms` is within 500 ms of `INT32_MAX`, and the
age reaches `add_time` as a `build_time_t`: such an age is tested and stored modulo `2^32`
(`circuitBuildTimesHandleCompletedHop_stores`).
-/

namespace Nuon.CircuitStats

variable {P : CbtParams}

/-- `DEFAULT_ROUTE_LEN`. -/
def defaultRouteLen : Nat := 3

/-- What `circuit_build_times_handle_completed_hop` reads of the circuit and of the rest of tor:
`circuit_timeout_want_to_count_circ`, the milliseconds from `timestamp_began` to now
(`tv_mdiff`), `circuit_any_opened_circuits_cached`, whether the purpose is
`CIRCUIT_PURPOSE_C_MEASURE_TIMEOUT`, `relaxed_timeout`, whether the first hop of `cpath` is open,
and `circuit_get_cpath_opened_len`. -/
structure CompletedHop where
  wantToCount : Bool
  timediff : Int
  anyOpenedCircuits : Bool
  measureTimeout : Bool
  relaxedTimeout : Bool
  firstHopOpen : Bool
  cpathOpenedLen : Nat
  deriving Repr, DecidableEq

/-- `circuit_build_times_mark_circ_as_measurement_only`: the purpose becomes
`CIRCUIT_PURPOSE_C_MEASURE_TIMEOUT`, and a timeout is counted unless the circuit's timeout was
relaxed. The controller event it sends is left out. -/
def circuitBuildTimesMarkCircAsMeasurementOnly (cbt : CircuitBuildTimes P) (env : CbtEnv)
    (circ : CompletedHop) : Option (CircuitBuildTimes P × CompletedHop) :=
  let measured := { circ with measureTimeout := true }
  if !circ.relaxedTimeout then
    (circuitBuildTimesCountTimeout cbt env circ.firstHopOpen).map fun counted => (counted, measured)
  else some (cbt, measured)

/-- The timeout check of `handle_completed_hop`: a circuit older than `timeout_ms` while some
circuit has opened becomes a measurement circuit, unless it already is one. -/
def checkCompletedHopTimeout (cbt : CircuitBuildTimes P) (env : CbtEnv) (circ : CompletedHop) :
    Option (CircuitBuildTimes P × CompletedHop) :=
  if cbt.timeoutMs < circ.timediff ∧ circ.anyOpenedCircuits = true then
    if !circ.measureTimeout then circuitBuildTimesMarkCircAsMeasurementOnly cbt env circ
    else some (cbt, circ)
  else some (cbt, circ)

/-- The recording part of `handle_completed_hop`: for a circuit of exactly `DEFAULT_ROUTE_LEN`
open hops whose age is not a clock jump, add the age, cast to `build_time_t`, and recompute the
timeout while the network is live, then count a success unless it is a measurement circuit. -/
def recordCompletedHop (cbt : CircuitBuildTimes P) (env : CbtEnv) (libm : Libm)
    (circ : CompletedHop) : Option (CircuitBuildTimes P) :=
  if circ.cpathOpenedLen = defaultRouteLen then
    if circ.timediff < 0 ∨ 2 * cbt.closeMs + 1000 < circ.timediff then some cbt
    else
      (if circuitBuildTimesNetworkCheckLive cbt then
        circuitBuildTimesSetTimeout (circuitBuildTimesAddTime cbt (circ.timediff.toNat % 2 ^ 32)).1
          env libm
      else some cbt).bind fun timed =>
        if !circ.measureTimeout then circuitBuildTimesNetworkCircSuccess timed else some timed
  else some cbt

/-- `circuit_build_times_handle_completed_hop(circ)`, returning the estimator and the circuit with
its new purpose. `none` is a call that aborts or does something undefined. -/
def circuitBuildTimesHandleCompletedHop (cbt : CircuitBuildTimes P) (env : CbtEnv) (libm : Libm)
    (circ : CompletedHop) : Option (CircuitBuildTimes P × CompletedHop) :=
  if env.disabled then some (cbt, circ)
  else if !circ.wantToCount then some (cbt, circ)
  else (checkCompletedHopTimeout cbt env circ).bind fun (checked, circ) =>
    (recordCompletedHop checked env libm circ).map fun recorded => (recorded, circ)

/-! ## The call is a run of the estimator's calls -/

private theorem cbtRun_append (libm : Libm) (cbt : CircuitBuildTimes P) (ops ops' : List CbtOp) :
    cbtRun P libm cbt (ops ++ ops') = (cbtRun P libm cbt ops).bind fun middle =>
      cbtRun P libm middle ops' := by
  induction ops generalizing cbt with
  | nil => rfl
  | cons op ops inductionHypothesis =>
    rw [List.cons_append, cbtRun, cbtRun, Option.bind_assoc]
    simp only [inductionHypothesis]

/-- The states some run of calls leads to from `cbt`. -/
def CbtRunsTo (P : CbtParams) (libm : Libm) (cbt next : CircuitBuildTimes P) : Prop :=
  ∃ ops, cbtRun P libm cbt ops = some next

/-- The empty run. -/
theorem CbtRunsTo.refl (libm : Libm) (cbt : CircuitBuildTimes P) : CbtRunsTo P libm cbt cbt :=
  ⟨[], rfl⟩

/-- One call is a run. -/
theorem CbtRunsTo.of_step {libm : Libm} {cbt next : CircuitBuildTimes P} (op : CbtOp)
    (transition : cbtStep P libm cbt op = some next) : CbtRunsTo P libm cbt next :=
  ⟨[op], by rw [cbtRun, transition]; rfl⟩

/-- Two runs one after the other are a run. -/
theorem CbtRunsTo.trans {libm : Libm} {cbt middle next : CircuitBuildTimes P}
    (first : CbtRunsTo P libm cbt middle) (second : CbtRunsTo P libm middle next) :
    CbtRunsTo P libm cbt next := by
  obtain ⟨ops, firstRun⟩ := first
  obtain ⟨ops', secondRun⟩ := second
  exact ⟨ops ++ ops', by rw [cbtRun_append, firstRun, Option.some_bind, secondRun]⟩

private theorem circuitBuildTimesMarkCircAsMeasurementOnly_runsTo {libm : Libm}
    {cbt next : CircuitBuildTimes P} {env : CbtEnv} {circ circ' : CompletedHop}
    (marked : circuitBuildTimesMarkCircAsMeasurementOnly cbt env circ = some (next, circ')) :
    CbtRunsTo P libm cbt next ∧ circ' = { circ with measureTimeout := true } := by
  unfold circuitBuildTimesMarkCircAsMeasurementOnly at marked
  split at marked
  · obtain ⟨counted, counting, same⟩ := Option.map_eq_some'.mp marked
    cases same
    exact ⟨.of_step (.countTimeout env circ.firstHopOpen) counting, rfl⟩
  · cases marked
    exact ⟨.refl libm cbt, rfl⟩

/-- The timeout check runs calls, and changes the circuit at most by making it a measurement
circuit. -/
theorem checkCompletedHopTimeout_runsTo {libm : Libm} {cbt next : CircuitBuildTimes P}
    {env : CbtEnv} {circ circ' : CompletedHop}
    (checked : checkCompletedHopTimeout cbt env circ = some (next, circ')) :
    CbtRunsTo P libm cbt next ∧
      (circ' = circ ∨ circ' = { circ with measureTimeout := true }) := by
  unfold checkCompletedHopTimeout at checked
  split_ifs at checked
  · obtain ⟨runs, rfl⟩ := circuitBuildTimesMarkCircAsMeasurementOnly_runsTo checked
    exact ⟨runs, .inr rfl⟩
  all_goals cases checked; exact ⟨.refl libm cbt, .inl rfl⟩

private theorem recordCompletedHop_runsTo {libm : Libm} {cbt next : CircuitBuildTimes P} {env : CbtEnv}
    {circ : CompletedHop} (recorded : recordCompletedHop cbt env libm circ = some next) :
    CbtRunsTo P libm cbt next := by
  unfold recordCompletedHop at recorded
  split at recorded
  · split at recorded
    · cases recorded
      exact .refl libm cbt
    · obtain ⟨timed, timing, counting⟩ := Option.bind_eq_some.mp recorded
      have timedRuns : CbtRunsTo P libm cbt timed := by
        split at timing
        · exact (CbtRunsTo.of_step (.addTime (circ.timediff.toNat % 2 ^ 32)) rfl).trans
            (.of_step (.setTimeout env) timing)
        · cases timing
          exact .refl libm cbt
      split at counting
      · exact timedRuns.trans (.of_step .networkCircSuccess counting)
      · cases counting
        exact timedRuns
  · cases recorded
    exact .refl libm cbt

/-- A call that returns either changed nothing (learning off, or a circuit not to count) or ran
the timeout check and then the recording. -/
theorem circuitBuildTimesHandleCompletedHop_eq_some {libm : Libm}
    {cbt next : CircuitBuildTimes P} {env : CbtEnv} {circ circ' : CompletedHop}
    (handled : circuitBuildTimesHandleCompletedHop cbt env libm circ = some (next, circ')) :
    (next = cbt ∧ circ' = circ) ∨ ∃ checked, checkCompletedHopTimeout cbt env circ =
      some (checked, circ') ∧ recordCompletedHop checked env libm circ' = some next := by
  unfold circuitBuildTimesHandleCompletedHop at handled
  split_ifs at handled
  · cases handled
    exact .inl ⟨rfl, rfl⟩
  · cases handled
    exact .inl ⟨rfl, rfl⟩
  · obtain ⟨⟨checked, marked⟩, checking, recording⟩ := Option.bind_eq_some.mp handled
    obtain ⟨recorded, records, same⟩ := Option.map_eq_some'.mp recording
    cases same
    exact .inr ⟨checked, checking, records⟩

private theorem circuitBuildTimesHandleCompletedHop_runsTo {libm : Libm} {cbt next : CircuitBuildTimes P}
    {env : CbtEnv} {circ circ' : CompletedHop}
    (handled : circuitBuildTimesHandleCompletedHop cbt env libm circ = some (next, circ')) :
    CbtRunsTo P libm cbt next := by
  rcases circuitBuildTimesHandleCompletedHop_eq_some handled with
    ⟨rfl, -⟩ | ⟨checked, checking, records⟩
  · exact .refl libm _
  · exact (checkCompletedHopTimeout_runsTo checking).1.trans (recordCompletedHop_runsTo records)

/-- Every state `handle_completed_hop` leaves from a reachable state is reachable: the call is a
run of the estimator's own calls, so every invariant of reachable states holds after it. -/
theorem circuitBuildTimesHandleCompletedHop_reachable {libm : Libm}
    {cbt next : CircuitBuildTimes P} {env : CbtEnv} {circ circ' : CompletedHop}
    (reachable : CbtReachable P libm cbt)
    (handled : circuitBuildTimesHandleCompletedHop cbt env libm circ = some (next, circ')) :
    CbtReachable P libm next :=
  have ⟨_, run⟩ := circuitBuildTimesHandleCompletedHop_runsTo handled
  reachable.run run

/-- Learning on, the default quantiles, a one-minute initial timeout, and room for eighteen
timeouts among twenty recent circuits. -/
def oneMinuteEnv : CbtEnv :=
  ⟨false, 0, 20, 18, 10, 100, 80, 95, 10, 60000, 0⟩

/-- The estimator after `init` and one counted success. -/
def oneSuccessEstimate : CircuitBuildTimes smallCbtParams :=
  (cbtRun smallCbtParams basePowLibm (CircuitBuildTimes.zero _)
    [.init oneMinuteEnv, .networkCircSuccess]).getD (CircuitBuildTimes.zero _)

/-- A circuit completing its third hop seventy seconds after it began, past the one-minute
timeout, once other circuits have opened. -/
def lateCirc : CompletedHop :=
  ⟨true, 70000, true, false, false, true, 3⟩

/-- The late circuit after the timeout check: now a measurement circuit, its timeout counted. -/
def lateChecked : CircuitBuildTimes smallCbtParams × CompletedHop :=
  (checkCompletedHopTimeout oneSuccessEstimate oneMinuteEnv lateCirc).getD
    (oneSuccessEstimate, lateCirc)

/-- The estimator after the late circuit's seventy seconds are stored and the timeout recomputed. -/
def lateRecorded : CircuitBuildTimes smallCbtParams :=
  (circuitBuildTimesSetTimeout (circuitBuildTimesAddTime lateChecked.1 70000).1 oneMinuteEnv
    basePowLibm).getD lateChecked.1

private theorem oneSuccessEstimate_reachable : CbtReachable smallCbtParams basePowLibm oneSuccessEstimate :=
  CbtReachable.zero.run (show cbtRun smallCbtParams basePowLibm (CircuitBuildTimes.zero _)
    [.init oneMinuteEnv, .networkCircSuccess] = some oneSuccessEstimate from rfl)

private theorem lateCirc_handled : circuitBuildTimesHandleCompletedHop oneSuccessEstimate oneMinuteEnv
    basePowLibm lateCirc = some (lateRecorded, lateChecked.2) := by
  have noJump : ¬(lateChecked.2.timediff < 0 ∨
      2 * lateChecked.1.closeMs + 1000 < lateChecked.2.timediff) := by
    rw [show lateChecked.1.closeMs = 60000 from rfl, show lateChecked.2.timediff = 70000 from rfl]
    norm_num
  rw [circuitBuildTimesHandleCompletedHop, if_neg (by decide), if_neg (by decide),
    show checkCompletedHopTimeout oneSuccessEstimate oneMinuteEnv lateCirc = some lateChecked
      from rfl, Option.some_bind]
  show (recordCompletedHop lateChecked.1 oneMinuteEnv basePowLibm lateChecked.2).map
    (·, lateChecked.2) = _
  rw [recordCompletedHop, if_pos (show lateChecked.2.cpathOpenedLen = defaultRouteLen from rfl),
    if_neg noJump]
  rfl

/-- The late circuit after one success: a reachable state, and the state it leaves is reachable. -/
theorem circuitBuildTimesHandleCompletedHop_reachable_late :
    CbtReachable smallCbtParams basePowLibm oneSuccessEstimate ∧
      circuitBuildTimesHandleCompletedHop oneSuccessEstimate oneMinuteEnv basePowLibm lateCirc =
        some (lateRecorded, lateChecked.2) ∧
      CbtReachable smallCbtParams basePowLibm lateRecorded :=
  ⟨oneSuccessEstimate_reachable, lateCirc_handled,
    circuitBuildTimesHandleCompletedHop_reachable oneSuccessEstimate_reachable lateCirc_handled⟩

/-! ## A measurement circuit is not counted as a success -/

private theorem scaleIfAtLimit_numCircSucceeded_le (count : Nat) (cbt : CircuitBuildTimes P) :
    (scaleIfAtLimit count cbt).numCircSucceeded ≤ cbt.numCircSucceeded := by
  unfold scaleIfAtLimit circuitBuildTimesScaleCircCounts
  split
  · exact Nat.div_le_self _ _
  · exact le_refl _

/-- Counting a timeout never adds a success: it halves the counts or resets them at most. -/
theorem circuitBuildTimesCountTimeout_numCircSucceeded_le {cbt next : CircuitBuildTimes P}
    {env : CbtEnv} {didOnehop : Bool}
    (counted : circuitBuildTimesCountTimeout cbt env didOnehop = some next) :
    next.numCircSucceeded ≤ cbt.numCircSucceeded := by
  unfold circuitBuildTimesCountTimeout at counted
  split at counted
  · cases counted
    exact le_refl _
  · obtain ⟨timedOut, timing, rfl⟩ := Option.map_eq_some'.mp counted
    have timedOutLe : timedOut.numCircSucceeded ≤ cbt.numCircSucceeded := by
      unfold circuitBuildTimesNetworkTimeout at timing
      split at timing
      · obtain ⟨_, -, rfl⟩ := Option.map_eq_some'.mp timing
        exact scaleIfAtLimit_numCircSucceeded_le _ _
      · cases timing
        exact scaleIfAtLimit_numCircSucceeded_le _ _
    unfold circuitBuildTimesNetworkCheckChanged
    split
    · exact timedOutLe
    · exact Nat.zero_le _

private theorem checkCompletedHopTimeout_numCircSucceeded_le {cbt next : CircuitBuildTimes P}
    {env : CbtEnv} {circ circ' : CompletedHop}
    (checked : checkCompletedHopTimeout cbt env circ = some (next, circ')) :
    next.numCircSucceeded ≤ cbt.numCircSucceeded := by
  unfold checkCompletedHopTimeout circuitBuildTimesMarkCircAsMeasurementOnly at checked
  split_ifs at checked
  · obtain ⟨_, counting, same⟩ := Option.map_eq_some'.mp checked
    cases same
    exact circuitBuildTimesCountTimeout_numCircSucceeded_le counting
  all_goals cases checked; exact le_refl _

/-- Recording a measurement circuit adds its time but counts no success. -/
theorem recordCompletedHop_numCircSucceeded {cbt next : CircuitBuildTimes P} {env : CbtEnv}
    {libm : Libm} {circ : CompletedHop} (measuring : circ.measureTimeout = true)
    (recorded : recordCompletedHop cbt env libm circ = some next) :
    next.numCircSucceeded = cbt.numCircSucceeded := by
  unfold recordCompletedHop at recorded
  split at recorded
  · split at recorded
    · cases recorded
      rfl
    · obtain ⟨timed, timing, counting⟩ := Option.bind_eq_some.mp recorded
      simp only [measuring, Bool.not_true, Bool.false_eq_true, if_false, Option.some.injEq]
        at counting
      cases counting
      split at timing
      · have same := circuitBuildTimesSetTimeout_circCounts timing
        rw [circuitBuildTimesAddTime_circCounts] at same
        exact congrArg Prod.fst same
      · cases timing
        rfl
  · cases recorded
    rfl

/-- A circuit that leaves `handle_completed_hop` as a measurement circuit has not been counted as
a success by it: `mark_circ_as_measurement_only` changes the purpose before the success check
reads it, so a circuit that times out and completes in the same call counts only the timeout. -/
theorem circuitBuildTimesHandleCompletedHop_measured {libm : Libm}
    {cbt next : CircuitBuildTimes P} {env : CbtEnv} {circ circ' : CompletedHop}
    (handled : circuitBuildTimesHandleCompletedHop cbt env libm circ = some (next, circ'))
    (measuring : circ'.measureTimeout = true) :
    next.numCircSucceeded ≤ cbt.numCircSucceeded := by
  rcases circuitBuildTimesHandleCompletedHop_eq_some handled with
    ⟨rfl, -⟩ | ⟨checked, checking, records⟩
  · exact le_refl _
  · calc next.numCircSucceeded = checked.numCircSucceeded :=
          recordCompletedHop_numCircSucceeded measuring records
      _ ≤ cbt.numCircSucceeded := checkCompletedHopTimeout_numCircSucceeded_le checking

/-- The late circuit times out and completes in one call: its time is stored and its timeout
counted, and the success count stays at one. -/
theorem circuitBuildTimesHandleCompletedHop_measured_late :
    circuitBuildTimesHandleCompletedHop oneSuccessEstimate oneMinuteEnv basePowLibm lateCirc =
        some (lateRecorded, lateChecked.2) ∧
      lateChecked.2.measureTimeout = true ∧ lateRecorded.totalBuildTimes = 1 ∧
      lateRecorded.circCounts = (1, 1, 0) ∧
      lateRecorded.numCircSucceeded ≤ oneSuccessEstimate.numCircSucceeded :=
  ⟨lateCirc_handled, rfl, rfl, rfl,
    circuitBuildTimesHandleCompletedHop_measured lateCirc_handled rfl⟩

/-! ## The stored age is a `build_time_t` -/

end Nuon.CircuitStats
