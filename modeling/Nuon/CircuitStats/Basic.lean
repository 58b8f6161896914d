import Nuon.Text.CString
import Mathlib.Algebra.Order.Field.Rat

/-!
# Circuit build times: the recorded state

`circuit_build_times_t` of `circuitstats.c` keeps a ring buffer of the last build times, the
network-liveness record used to notice a changed network, and the current timeouts. This module
models the state and the operations that record observations: `circuit_build_times_add_time`,
`_reset`, `_init`, the liveness updates and the consensus-parameter refresh.

What the code reads from outside (consensus parameters, torrc options, the clock) is a `CbtEnv`
given to each call, so it may change arbitrarily between calls. The constants of the missing
`circuitstats.h` are the parameters `CbtParams`. The `double` fields are rationals, except `alpha`,
which a division by zero can make infinite or NaN (`CDouble`). An access that C performs out of
bounds, and an allocation that aborts, is `none`.
-/

namespace Nuon.CircuitStats

/-- `INT32_MAX`. -/
def int32Max : Int := 2 ^ 31 - 1

/-- The constants of `circuitstats.h` the estimator uses: `CBT_NCIRCUITS_TO_OBSERVE`,
`CBT_BIN_WIDTH`, `CBT_BUILD_TIME_MAX` and `CBT_BUILD_ABANDONED`. The ring buffer is an array, so
it has at least one slot, and the histogram divides by a non-zero bin width. -/
structure CbtParams where
  ncircuitsToObserve : Nat
  binWidth : Nat
  buildTimeMax : Nat
  buildAbandoned : Nat
  ncircuitsToObserve_pos : 0 < ncircuitsToObserve
  binWidth_pos : 0 < binWidth

/-- What one call reads from outside: `circuit_build_times_disabled()`, the torrc option
`CircuitBuildTimeout`, the `cbt*` consensus parameters as `networkstatus_get_param` returns them,
and the clock. -/
structure CbtEnv where
  disabled : Bool
  circuitBuildTimeout : Int
  recentCircuitCount : Int
  maxTimeouts : Int
  numXmModes : Int
  minCircsToObserve : Int
  quantileCutoff : Int
  closeQuantile : Int
  minTimeout : Int
  initialTimeout : Int
  now : Int

/-- `network_liveness_t`: the last time the network was seen, the timeouts since, and the
circular record of which recent circuits timed out after their first hop (`NULL` is `none`). -/
structure NetworkLiveness where
  networkLastLive : Int
  nonliveTimeouts : Nat
  numRecentCircs : Int
  timeoutsAfterFirsthop : Option (List Nat)
  afterFirsthopIdx : Int
  deriving Repr, DecidableEq

/-- The all-zero liveness record `memset` leaves. -/
def NetworkLiveness.zero : NetworkLiveness :=
  ⟨0, 0, 0, none, 0⟩

/-- A `double` that a division can leave infinite: a finite value, `+inf`, or NaN. -/
inductive CDouble where
  | finite (value : ℚ)
  | posInf
  | nan
  deriving DecidableEq, Repr

/-- `circuit_build_times_t`. The build-time array has exactly `CBT_NCIRCUITS_TO_OBSERVE` slots. -/
structure CircuitBuildTimes (P : CbtParams) where
  circuitBuildTimes : List Nat
  circuitBuildTimes_length : circuitBuildTimes.length = P.ncircuitsToObserve
  liveness : NetworkLiveness
  lastCircAt : Int
  buildTimesIdx : Nat
  totalBuildTimes : Nat
  numCircSucceeded : Nat
  numCircTimeouts : Nat
  numCircClosed : Nat
  xm : Nat
  alpha : CDouble
  haveComputedTimeout : Bool
  timeoutMs : ℚ
  closeMs : ℚ

variable {P : CbtParams}

/-- The structure after `memset(cbt, 0, sizeof(*cbt))`. -/
def CircuitBuildTimes.zero (P : CbtParams) : CircuitBuildTimes P :=
  ⟨List.replicate P.ncircuitsToObserve 0, List.length_replicate _ _, .zero, 0, 0, 0, 0, 0, 0,
    0, .finite 0, false, 0, 0⟩

/-- `circuit_build_times_min_timeout`: the `cbtmintimeout` parameter. -/
def circuitBuildTimesMinTimeout (env : CbtEnv) : Int :=
  env.minTimeout

/-- `circuit_build_times_initial_timeout`: `cbtinitialtimeout`, raised to the minimum timeout. -/
def circuitBuildTimesInitialTimeout (env : CbtEnv) : Int :=
  if env.initialTimeout < circuitBuildTimesMinTimeout env then circuitBuildTimesMinTimeout env
  else env.initialTimeout

/-- `circuit_build_times_get_initial_timeout`: the torrc `CircuitBuildTimeout` when set (raised to
the minimum while learning is on), the consensus initial timeout otherwise. -/
def circuitBuildTimesGetInitialTimeout (env : CbtEnv) : ℚ :=
  if env.circuitBuildTimeout ≠ 0 then
    let timeout : ℚ := env.circuitBuildTimeout * 1000
    if !env.disabled ∧ timeout < circuitBuildTimesMinTimeout env then
      circuitBuildTimesMinTimeout env
    else timeout
  else circuitBuildTimesInitialTimeout env

/-- `circuit_build_times_reset`: forget the history and the circuit counts, keeping the estimated
parameters, the timeouts and the liveness record. -/
def circuitBuildTimesReset (cbt : CircuitBuildTimes P) : CircuitBuildTimes P :=
  { cbt with
    circuitBuildTimes := List.replicate P.ncircuitsToObserve 0
    circuitBuildTimes_length := List.length_replicate _ _
    totalBuildTimes := 0
    buildTimesIdx := 0
    haveComputedTimeout := false
    numCircSucceeded := 0
    numCircClosed := 0
    numCircTimeouts := 0 }

/-- `tor_calloc(n, sizeof(int8_t))` of the recent-circuit record: a negative count converts to a
huge `size_t` and the allocation aborts. -/
def callocRecentCircs (n : Int) : Option (List Nat) :=
  if n < 0 then none else some (List.replicate n.toNat 0)

/-- The liveness record of `circuit_build_times_init`: with learning on, `cbtrecentcount` and a
zeroed record of that many entries; with it off, no record. -/
def initialLiveness (env : CbtEnv) : Option NetworkLiveness :=
  if !env.disabled then
    (callocRecentCircs env.recentCircuitCount).map fun recent =>
      { NetworkLiveness.zero with
        numRecentCircs := env.recentCircuitCount, timeoutsAfterFirsthop := some recent }
  else some NetworkLiveness.zero

/-- `circuit_build_times_init`: zero everything, set up the liveness record and start from the
initial timeout. -/
def circuitBuildTimesInit (P : CbtParams) (env : CbtEnv) : Option (CircuitBuildTimes P) :=
  (initialLiveness env).map fun liveness =>
    let timeout := circuitBuildTimesGetInitialTimeout env
    { CircuitBuildTimes.zero P with liveness, timeoutMs := timeout, closeMs := timeout }

/-- `circuit_build_times_add_time`: store an accepted time at `build_times_idx`, advance the index
around the ring and count up to `CBT_NCIRCUITS_TO_OBSERVE`; a time of `0` or above
`CBT_BUILD_TIME_MAX` is rejected with `-1`. -/
def circuitBuildTimesAddTime (cbt : CircuitBuildTimes P) (btime : Nat) :
    CircuitBuildTimes P × Int :=
  if btime = 0 ∨ P.buildTimeMax < btime then (cbt, -1)
  else
    ({ cbt with
      circuitBuildTimes := cbt.circuitBuildTimes.set cbt.buildTimesIdx btime
      circuitBuildTimes_length := by rw [List.length_set, cbt.circuitBuildTimes_length]
      buildTimesIdx := (cbt.buildTimesIdx + 1) % P.ncircuitsToObserve
      totalBuildTimes :=
        if cbt.totalBuildTimes < P.ncircuitsToObserve then cbt.totalBuildTimes + 1
        else cbt.totalBuildTimes }, 0)

/-- `circuit_build_times_free_timeouts`: drop the recent-circuit record. The index is kept. -/
def circuitBuildTimesFreeTimeouts (cbt : CircuitBuildTimes P) : CircuitBuildTimes P :=
  { cbt with
    liveness := { cbt.liveness with timeoutsAfterFirsthop := none, numRecentCircs := 0 } }

/-- The `memcpy` of `MIN(num, num_recent_circs)` old entries over a fresh zeroed record of `num`
entries; reading past the old record is undefined. -/
def copyRecentCircs (old : List Nat) (count : Nat) (num : Nat) : Option (List Nat) :=
  if old.length < count then none
  else some (old.take count ++ (List.replicate num 0).drop count)

/-- The resize of `circuit_build_times_new_consensus_params` to `num > 0` entries: a fresh zeroed
record keeping the old entries that fit, with the index clamped only when the record shrinks.
The `tor_assert` that a record exists unless the count is zero is an abort. -/
def resizeRecentCircs (live : NetworkLiveness) (num : Int) : Option NetworkLiveness :=
  if live.timeoutsAfterFirsthop.isNone ∧ live.numRecentCircs ≠ 0 then none
  else
    let recent := match live.timeoutsAfterFirsthop with
      | some old =>
        if 0 < live.numRecentCircs then
          copyRecentCircs old (min num live.numRecentCircs).toNat num.toNat
        else some (List.replicate num.toNat 0)
      | none => some (List.replicate num.toNat 0)
    let idx :=
      if num < live.numRecentCircs then min (num - 1) live.afterFirsthopIdx
      else live.afterFirsthopIdx
    recent.map fun recent =>
      { live with
        afterFirsthopIdx := idx, timeoutsAfterFirsthop := some recent, numRecentCircs := num }

/-- `circuit_build_times_new_consensus_params`: resize the recent-circuit record to a changed
positive `cbtrecentcount`; a zero count or disabled learning frees the record. -/
def circuitBuildTimesNewConsensusParams (cbt : CircuitBuildTimes P) (env : CbtEnv) :
    Option (CircuitBuildTimes P) :=
  if !env.disabled then
    let num := env.recentCircuitCount
    if 0 < num then
      if num ≠ cbt.liveness.numRecentCircs then
        (resizeRecentCircs cbt.liveness num).map fun live => { cbt with liveness := live }
      else some cbt
    else some (circuitBuildTimesFreeTimeouts cbt)
  else some (circuitBuildTimesFreeTimeouts cbt)

/-- `circuit_build_times_scale_circ_counts`: halve the three circuit counts. -/
def circuitBuildTimesScaleCircCounts (cbt : CircuitBuildTimes P) : CircuitBuildTimes P :=
  { cbt with
    numCircSucceeded := cbt.numCircSucceeded / 2
    numCircTimeouts := cbt.numCircTimeouts / 2
    numCircClosed := cbt.numCircClosed / 2 }

/-- Scale the circuit counts when one of them has reached `INT32_MAX`. -/
def scaleIfAtLimit (count : Nat) (cbt : CircuitBuildTimes P) : CircuitBuildTimes P :=
  if int32Max ≤ count then circuitBuildTimesScaleCircCounts cbt else cbt

/-- The shared tail of `network_circ_success` and `network_timeout`:
`timeouts_after_firsthop[after_firsthop_idx] = value`, then advance the index modulo
`num_recent_circs`. A write outside the record is undefined. -/
def recordRecentCirc (live : NetworkLiveness) (value : Nat) : Option NetworkLiveness :=
  match live.timeoutsAfterFirsthop with
  | some recent =>
    if 0 < live.numRecentCircs then
      if 0 ≤ live.afterFirsthopIdx ∧ live.afterFirsthopIdx < recent.length then
        some { live with
          timeoutsAfterFirsthop := some (recent.set live.afterFirsthopIdx.toNat value)
          afterFirsthopIdx := (live.afterFirsthopIdx + 1) % live.numRecentCircs }
      else none
    else some live
  | none => some live

/-- `circuit_build_times_network_circ_success`: count the success and record a `0` in the
recent-circuit record. -/
def circuitBuildTimesNetworkCircSuccess (cbt : CircuitBuildTimes P) :
    Option (CircuitBuildTimes P) :=
  let counted := { cbt with numCircSucceeded := cbt.numCircSucceeded + 1 }
  let scaled := scaleIfAtLimit counted.numCircSucceeded counted
  (recordRecentCirc scaled.liveness 0).map fun live => { scaled with liveness := live }

/-- `circuit_build_times_network_timeout`: count the timeout and, when the circuit had completed
its first hop, record a `1`. -/
def circuitBuildTimesNetworkTimeout (cbt : CircuitBuildTimes P) (didOnehop : Bool) :
    Option (CircuitBuildTimes P) :=
  let counted := { cbt with numCircTimeouts := cbt.numCircTimeouts + 1 }
  let scaled := scaleIfAtLimit counted.numCircTimeouts counted
  if didOnehop then
    (recordRecentCirc scaled.liveness 1).map fun live => { scaled with liveness := live }
  else some scaled

/-- `circuit_build_times_network_close`: count the close, and count a non-live timeout when the
circuit was launched after the network was last seen. -/
def circuitBuildTimesNetworkClose (cbt : CircuitBuildTimes P) (startTime : Int) :
    CircuitBuildTimes P :=
  let counted := { cbt with numCircClosed := cbt.numCircClosed + 1 }
  let scaled := scaleIfAtLimit counted.numCircClosed counted
  if scaled.liveness.networkLastLive < startTime then
    { scaled with
      liveness := { scaled.liveness with
        nonliveTimeouts := scaled.liveness.nonliveTimeouts + 1 } }
  else scaled

/-- `circuit_build_times_network_is_live`: the network was just seen. -/
def circuitBuildTimesNetworkIsLive (cbt : CircuitBuildTimes P) (env : CbtEnv) :
    CircuitBuildTimes P :=
  { cbt with
    liveness := { cbt.liveness with networkLastLive := env.now, nonliveTimeouts := 0 } }

/-- `circuit_build_times_network_check_live`: no non-live timeout since the network was seen. -/
def circuitBuildTimesNetworkCheckLive (cbt : CircuitBuildTimes P) : Bool :=
  cbt.liveness.nonliveTimeouts = 0

/-- The number of recent circuits that timed out after their first hop, summed over the first
`num_recent_circs` entries of the record. -/
def recentTimeoutCount (live : NetworkLiveness) : Int :=
  match live.timeoutsAfterFirsthop with
  | some recent => if 0 < live.numRecentCircs then ((recent.take live.numRecentCircs.toNat).sum : Nat)
      else 0
  | none => 0

/-- The `MAX_TIMEOUT` of `circuit_build_times_network_check_changed`: `INT32_MAX/2`. -/
def maxTimeout : ℚ := 1073741823

/-- The `memset` of the recent-circuit record after a detected change, and the index back to `0`. -/
def clearRecentCircs (live : NetworkLiveness) : NetworkLiveness :=
  let cleared := match live.timeoutsAfterFirsthop with
    | some _ =>
      if 0 < live.numRecentCircs then
        { live with timeoutsAfterFirsthop := some (List.replicate live.numRecentCircs.toNat 0) }
      else live
    | none => live
  { cleared with afterFirsthopIdx := 0 }

/-- The timeouts after a detected change: doubled when already at least the initial timeout (unless
one of them exceeds `MAX_TIMEOUT`), the initial timeout otherwise. -/
def changedTimeouts (timeoutMs closeMs : ℚ) (env : CbtEnv) : ℚ × ℚ :=
  let initial := circuitBuildTimesGetInitialTimeout env
  if initial ≤ timeoutMs then
    if maxTimeout < timeoutMs ∨ maxTimeout < closeMs then (timeoutMs, closeMs)
    else (timeoutMs * 2, closeMs * 2)
  else (initial, initial)

/-- `circuit_build_times_network_check_changed`: when at least `cbtmaxtimeouts` recent circuits
timed out after their first hop, reset the history and the record and move the timeouts as
`changedTimeouts` says. Returns the state and whether it reset. -/
def circuitBuildTimesNetworkCheckChanged (cbt : CircuitBuildTimes P) (env : CbtEnv) :
    CircuitBuildTimes P × Bool :=
  if recentTimeoutCount cbt.liveness < env.maxTimeouts then (cbt, false)
  else
    let reset := circuitBuildTimesReset cbt
    let timeouts := changedTimeouts reset.timeoutMs reset.closeMs env
    ({ reset with
      liveness := clearRecentCircs reset.liveness, timeoutMs := timeouts.1,
      closeMs := timeouts.2 }, true)

/-- `circuit_build_times_count_close`: with learning off, return to the initial timeout;
otherwise record the close and, while the network is live, store a `CBT_BUILD_ABANDONED` time.
Returns whether a time was stored. -/
def circuitBuildTimesCountClose (cbt : CircuitBuildTimes P) (env : CbtEnv) (startTime : Int) :
    CircuitBuildTimes P × Bool :=
  if env.disabled then
    let initial := circuitBuildTimesGetInitialTimeout env
    ({ cbt with timeoutMs := initial, closeMs := initial }, false)
  else
    let closed := circuitBuildTimesNetworkClose cbt startTime
    if !circuitBuildTimesNetworkCheckLive closed then (closed, false)
    else ((circuitBuildTimesAddTime closed P.buildAbandoned).1, true)

/-- `circuit_build_times_count_timeout`: with learning off, return to the initial timeout;
otherwise record the timeout and check whether the network has changed. -/
def circuitBuildTimesCountTimeout (cbt : CircuitBuildTimes P) (env : CbtEnv) (didOnehop : Bool) :
    Option (CircuitBuildTimes P) :=
  if env.disabled then
    let initial := circuitBuildTimesGetInitialTimeout env
    some { cbt with timeoutMs := initial, closeMs := initial }
  else
    (circuitBuildTimesNetworkTimeout cbt didOnehop).map fun timedOut =>
      (circuitBuildTimesNetworkCheckChanged timedOut env).1

end Nuon.CircuitStats
