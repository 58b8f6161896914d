import Nuon.CircuitStats.Timeouts

/-!
# Circuit build times: the circuit counts never wrap

`num_circ_succeeded`, `num_circ_timeouts` and `num_circ_closed` are `uint32_t`. The call that
counts a circuit increments one of them and halves all three once that one reaches `INT32_MAX`;
every other call zeroes them or leaves them alone, and `parse_state` always leaves them zero, since
the state file does not store them (`circuitBuildTimesParseState_circCounts`). So in every
reachable state all three are below `INT32_MAX`, whatever the consensus parameters and the state
file say (`cbtReachable_circCounts_lt`): the counts never come near the wrap at `2^32`.
-/

namespace Nuon.CircuitStats

variable {P : CbtParams}

/-- The three circuit counts of a state. -/
def CircuitBuildTimes.circCounts (cbt : CircuitBuildTimes P) : Nat × Nat × Nat :=
  (cbt.numCircSucceeded, cbt.numCircTimeouts, cbt.numCircClosed)

/-- All three circuit counts are below `INT32_MAX`. -/
def CircuitBuildTimes.CountsBelowLimit (cbt : CircuitBuildTimes P) : Prop :=
  (cbt.numCircSucceeded : Int) < int32Max ∧ (cbt.numCircTimeouts : Int) < int32Max ∧
    (cbt.numCircClosed : Int) < int32Max

/-- The bound reads only the three counts. -/
theorem CircuitBuildTimes.CountsBelowLimit.of_circCounts {cbt cbt' : CircuitBuildTimes P}
    (same : cbt'.circCounts = cbt.circCounts) (below : cbt.CountsBelowLimit) :
    cbt'.CountsBelowLimit := by
  simp only [CircuitBuildTimes.circCounts, Prod.mk.injEq] at same
  rw [CircuitBuildTimes.CountsBelowLimit, same.1, same.2.1, same.2.2]
  exact below

/-- Zero counts are below the limit. -/
theorem CircuitBuildTimes.CountsBelowLimit.of_zero {cbt : CircuitBuildTimes P}
    (zero : cbt.circCounts = (0, 0, 0)) : cbt.CountsBelowLimit := by
  simp only [CircuitBuildTimes.circCounts, Prod.mk.injEq] at zero
  rw [CircuitBuildTimes.CountsBelowLimit, zero.1, zero.2.1, zero.2.2]
  decide

/-! ## Calls that leave the counts alone or zero them -/

@[simp] private theorem circuitBuildTimesReset_circCounts (cbt : CircuitBuildTimes P) :
    (circuitBuildTimesReset cbt).circCounts = (0, 0, 0) := rfl

/-- `add_time` leaves the counts alone. -/
@[simp] theorem circuitBuildTimesAddTime_circCounts (cbt : CircuitBuildTimes P) (btime : Nat) :
    (circuitBuildTimesAddTime cbt btime).1.circCounts = cbt.circCounts := by
  unfold circuitBuildTimesAddTime
  split <;> rfl

private theorem circuitBuildTimesInit_circCounts {env : CbtEnv} {cbt : CircuitBuildTimes P}
    (init : circuitBuildTimesInit P env = some cbt) : cbt.circCounts = (0, 0, 0) := by
  obtain ⟨_, -, rfl⟩ := Option.map_eq_some'.mp init
  rfl

private theorem circuitBuildTimesShuffleAndStoreArray_circCounts (cbt : CircuitBuildTimes P)
    (rawTimes : List Nat) (numTimes : Nat) (rand : Nat → Nat) :
    (circuitBuildTimesShuffleAndStoreArray cbt rawTimes numTimes rand).circCounts =
      cbt.circCounts := by
  unfold circuitBuildTimesShuffleAndStoreArray
  generalize shuffledPrefix P rawTimes numTimes rand = times
  induction times generalizing cbt with
  | nil => rfl
  | cons t times inductionHypothesis =>
    rw [List.foldl_cons, inductionHypothesis, circuitBuildTimesAddTime_circCounts]

private theorem circuitBuildTimesUpdateAlpha_circCounts {cbt next : CircuitBuildTimes P} {env : CbtEnv}
    {libm : Libm} {estimated : Bool}
    (updated : circuitBuildTimesUpdateAlpha cbt env libm = some (next, estimated)) :
    next.circCounts = cbt.circCounts := by
  obtain ⟨xm, -, computed⟩ := Option.map_eq_some'.mp updated
  split at computed <;> (cases computed; rfl)

private theorem circuitBuildTimesSetTimeoutWorker_circCounts {cbt next : CircuitBuildTimes P}
    {env : CbtEnv} {libm : Libm} {computed : Bool}
    (worked : circuitBuildTimesSetTimeoutWorker cbt env libm = some (next, computed)) :
    next.circCounts = cbt.circCounts := by
  unfold circuitBuildTimesSetTimeoutWorker at worked
  split at worked
  · cases worked; rfl
  simp only [Option.bind_eq_some, Option.map_eq_some'] at worked
  obtain ⟨⟨estimate, estimated⟩, updated, rest⟩ := worked
  have same := circuitBuildTimesUpdateAlpha_circCounts updated
  split at rest
  · cases rest; exact same
  · simp only [Option.bind_eq_some, Option.map_eq_some'] at rest
    obtain ⟨_, _, _, _, ⟨⟩⟩ := rest
    exact same

@[simp] private theorem raiseToMinTimeout_circCounts (cbt : CircuitBuildTimes P) (env : CbtEnv) :
    (raiseToMinTimeout cbt env).circCounts = cbt.circCounts := by
  unfold raiseToMinTimeout
  split
  · dsimp only; split <;> rfl
  · rfl

/-- `set_timeout` leaves the counts alone. -/
theorem circuitBuildTimesSetTimeout_circCounts {cbt next : CircuitBuildTimes P} {env : CbtEnv}
    {libm : Libm} (set : circuitBuildTimesSetTimeout cbt env libm = some next) :
    next.circCounts = cbt.circCounts := by
  unfold circuitBuildTimesSetTimeout at set
  split at set
  · cases set; rfl
  · obtain ⟨⟨worker, computed⟩, worked, rfl⟩ := Option.map_eq_some'.mp set
    have same := circuitBuildTimesSetTimeoutWorker_circCounts worked
    dsimp only
    split
    · rw [raiseToMinTimeout_circCounts, same]
    · exact same

/-- The state file does not store the counts: `parse_state` starts from `init` and leaves them
zero on every path. -/
theorem circuitBuildTimesParseState_circCounts {state : OrState} {env : CbtEnv} {libm : Libm}
    {rand : Nat → Nat} {parsed : CircuitBuildTimes P × Int}
    (loaded : circuitBuildTimesParseState P state env libm rand = some parsed) :
    parsed.1.circCounts = (0, 0, 0) := by
  obtain ⟨cbt, init, rest⟩ := Option.bind_eq_some.mp loaded
  have zero := circuitBuildTimesInit_circCounts init
  split at rest
  · cases rest; exact zero
  obtain ⟨⟨times, lineError⟩, -, rest⟩ := Option.bind_eq_some.mp rest
  dsimp only at rest
  split at rest
  · cases rest; rfl
  split at rest
  · cases rest; rfl
  · obtain ⟨next, set, rfl⟩ := Option.map_eq_some'.mp rest
    rw [circuitBuildTimesSetTimeout_circCounts set,
      circuitBuildTimesShuffleAndStoreArray_circCounts, zero]

private theorem circuitBuildTimesNewConsensusParams_circCounts {cbt next : CircuitBuildTimes P}
    {env : CbtEnv} (refreshed : circuitBuildTimesNewConsensusParams cbt env = some next) :
    next.circCounts = cbt.circCounts := by
  unfold circuitBuildTimesNewConsensusParams at refreshed
  dsimp only at refreshed
  split_ifs at refreshed
  · obtain ⟨_, -, rfl⟩ := Option.map_eq_some'.mp refreshed
    rfl
  all_goals cases refreshed; rfl

private theorem circuitBuildTimesNetworkCheckChanged_countsBelowLimit {cbt : CircuitBuildTimes P}
    (env : CbtEnv) (below : cbt.CountsBelowLimit) :
    (circuitBuildTimesNetworkCheckChanged cbt env).1.CountsBelowLimit := by
  unfold circuitBuildTimesNetworkCheckChanged
  split
  · exact below
  · exact .of_zero rfl

/-! ## Counting a circuit -/

/-- Counting one circuit keeps the counts below `INT32_MAX`: the incremented count reaches at most
`INT32_MAX`, and there all three are halved. -/
theorem scaleIfAtLimit_countsBelowLimit {cbt : CircuitBuildTimes P} {count : Nat}
    (atMost : (cbt.numCircSucceeded : Int) ≤ int32Max ∧ (cbt.numCircTimeouts : Int) ≤ int32Max ∧
      (cbt.numCircClosed : Int) ≤ int32Max)
    (others : (count : Int) < int32Max → cbt.CountsBelowLimit) :
    (scaleIfAtLimit count cbt).CountsBelowLimit := by
  unfold scaleIfAtLimit
  split_ifs with atLimit
  · unfold CircuitBuildTimes.CountsBelowLimit circuitBuildTimesScaleCircCounts
    unfold int32Max at *
    push_cast
    omega
  · exact others (not_le.mp atLimit)

private theorem circuitBuildTimesNetworkCircSuccess_countsBelowLimit {cbt next : CircuitBuildTimes P}
    (below : cbt.CountsBelowLimit) (recorded : circuitBuildTimesNetworkCircSuccess cbt = some next) :
    next.CountsBelowLimit := by
  obtain ⟨_, -, rfl⟩ := Option.map_eq_some'.mp recorded
  obtain ⟨succeeded, timeouts, closed⟩ := below
  exact scaleIfAtLimit_countsBelowLimit ⟨by dsimp only; omega, timeouts.le, closed.le⟩
    fun lt => ⟨lt, timeouts, closed⟩

private theorem circuitBuildTimesNetworkTimeout_countsBelowLimit {cbt next : CircuitBuildTimes P}
    {didOnehop : Bool} (below : cbt.CountsBelowLimit)
    (recorded : circuitBuildTimesNetworkTimeout cbt didOnehop = some next) :
    next.CountsBelowLimit := by
  obtain ⟨succeeded, timeouts, closed⟩ := below
  have scaled : (scaleIfAtLimit (cbt.numCircTimeouts + 1)
      { cbt with numCircTimeouts := cbt.numCircTimeouts + 1 }).CountsBelowLimit :=
    scaleIfAtLimit_countsBelowLimit ⟨succeeded.le, by dsimp only; omega, closed.le⟩
      fun lt => ⟨succeeded, lt, closed⟩
  unfold circuitBuildTimesNetworkTimeout at recorded
  split at recorded
  · obtain ⟨_, -, rfl⟩ := Option.map_eq_some'.mp recorded
    exact scaled
  · cases recorded
    exact scaled

private theorem circuitBuildTimesNetworkClose_countsBelowLimit {cbt : CircuitBuildTimes P}
    (startTime : Int) (below : cbt.CountsBelowLimit) :
    (circuitBuildTimesNetworkClose cbt startTime).CountsBelowLimit := by
  obtain ⟨succeeded, timeouts, closed⟩ := below
  have scaled : (scaleIfAtLimit (cbt.numCircClosed + 1)
      { cbt with numCircClosed := cbt.numCircClosed + 1 }).CountsBelowLimit :=
    scaleIfAtLimit_countsBelowLimit ⟨succeeded.le, timeouts.le, by dsimp only; omega⟩
      fun lt => ⟨succeeded, timeouts, lt⟩
  unfold circuitBuildTimesNetworkClose
  dsimp only
  split
  · exact scaled
  · exact scaled

/-! ## Every run keeps the counts below the limit -/

/-- One call keeps the three counts below `INT32_MAX`. -/
theorem cbtStep_countsBelowLimit {libm : Libm} {cbt next : CircuitBuildTimes P} {op : CbtOp}
    (below : cbt.CountsBelowLimit) (transition : cbtStep P libm cbt op = some next) :
    next.CountsBelowLimit := by
  cases op with
  | init env => exact .of_zero (circuitBuildTimesInit_circCounts transition)
  | addTime btime =>
    cases transition
    exact below.of_circCounts (circuitBuildTimesAddTime_circCounts cbt btime)
  | countClose env startTime =>
    cases transition
    have closed := circuitBuildTimesNetworkClose_countsBelowLimit startTime below
    unfold circuitBuildTimesCountClose
    dsimp only
    split_ifs
    · exact below
    · exact closed
    · exact closed.of_circCounts (circuitBuildTimesAddTime_circCounts _ _)
  | countTimeout env didOnehop =>
    change circuitBuildTimesCountTimeout cbt env didOnehop = some next at transition
    unfold circuitBuildTimesCountTimeout at transition
    split at transition
    · cases transition
      exact below
    · obtain ⟨timedOut, recorded, rfl⟩ := Option.map_eq_some'.mp transition
      exact circuitBuildTimesNetworkCheckChanged_countsBelowLimit env
        (circuitBuildTimesNetworkTimeout_countsBelowLimit below recorded)
  | networkCheckChanged env =>
    cases transition
    exact circuitBuildTimesNetworkCheckChanged_countsBelowLimit env below
  | reset =>
    cases transition
    exact .of_zero rfl
  | parseState state env rand =>
    obtain ⟨parsed, loaded, rfl⟩ := Option.map_eq_some'.mp transition
    exact .of_zero (circuitBuildTimesParseState_circCounts loaded)
  | newConsensusParams env =>
    exact below.of_circCounts (circuitBuildTimesNewConsensusParams_circCounts transition)
  | freeTimeouts =>
    cases transition
    exact below
  | networkCircSuccess => exact circuitBuildTimesNetworkCircSuccess_countsBelowLimit below transition
  | networkIsLive env =>
    cases transition
    exact below
  | setTimeout env => exact below.of_circCounts (circuitBuildTimesSetTimeout_circCounts transition)

/-- Over every sequence of calls from the zeroed global, with the consensus parameters and the
state file arbitrary, the three `uint32_t` circuit counts stay below `INT32_MAX`, and loading a
state file from any of these states leaves them zero. -/
theorem cbtReachable_circCounts_lt {libm : Libm} {cbt : CircuitBuildTimes P}
    (reachable : CbtReachable P libm cbt) :
    ((cbt.numCircSucceeded : Int) < int32Max ∧ (cbt.numCircTimeouts : Int) < int32Max ∧
      (cbt.numCircClosed : Int) < int32Max) ∧
      ∀ state env rand next, cbtStep P libm cbt (.parseState state env rand) = some next →
        next.circCounts = (0, 0, 0) := by
  refine ⟨?_, fun state env rand next parsed => ?_⟩
  · induction reachable with
    | zero => exact CircuitBuildTimes.CountsBelowLimit.of_zero rfl
    | step _ transition below => exact cbtStep_countsBelowLimit below transition
  · obtain ⟨parsed, loaded, rfl⟩ := Option.map_eq_some'.mp parsed
    exact circuitBuildTimesParseState_circCounts loaded

/-- `init` under the default consensus parameters, then one success, one timeout after the first
hop and one close. -/
def countingOps : List CbtOp :=
  let env : CbtEnv := ⟨false, 0, 20, 18, 10, 100, 80, 95, 10, 60000, 0⟩
  [.init env, .networkCircSuccess, .countTimeout env true, .countClose env 0]

/-- The state `countingOps` leaves. -/
def countedEstimate : CircuitBuildTimes smallCbtParams :=
  (cbtRun smallCbtParams basePowLibm (CircuitBuildTimes.zero _) countingOps).getD
    (CircuitBuildTimes.zero _)

/-- One success, one timeout and one close after `init`: each count is `1`. -/
theorem cbtReachable_circCounts_lt_counted :
    CbtReachable smallCbtParams basePowLibm countedEstimate ∧
      countedEstimate.circCounts = (1, 1, 1) ∧
      ((countedEstimate.numCircSucceeded : Int) < int32Max ∧
          (countedEstimate.numCircTimeouts : Int) < int32Max ∧
          (countedEstimate.numCircClosed : Int) < int32Max) ∧
        ∀ state env rand next, cbtStep smallCbtParams basePowLibm countedEstimate
          (.parseState state env rand) = some next → next.circCounts = (0, 0, 0) :=
  have reachable : CbtReachable smallCbtParams basePowLibm countedEstimate :=
    CbtReachable.zero.run (show cbtRun smallCbtParams basePowLibm (CircuitBuildTimes.zero _)
      countingOps = some countedEstimate from rfl)
  ⟨reachable, rfl, cbtReachable_circCounts_lt reachable⟩

end Nuon.CircuitStats
