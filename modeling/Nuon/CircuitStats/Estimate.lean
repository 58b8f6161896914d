import Nuon.CircuitStats.Basic

/-!
# Circuit build times: the Pareto estimate

The timeout is the quantile of a Pareto distribution fitted to the history:
`circuit_build_times_create_histogram` bins the stored times, `circuit_build_times_get_xm` takes
the weighted average of the `cbtnummodes` most frequent bins as `Xm`, and
`circuit_build_times_update_alpha` estimates `alpha`. The `build_time_t` arithmetic of `get_xm` is
32-bit and wraps. `log` and `pow` of libm are parameters; the `double` arithmetic around them is
rational.
-/

namespace Nuon.CircuitStats

variable {P : CbtParams}

/-- The libm functions the estimator calls: `tor_mathlog` and `pow`. -/
structure Libm where
  log : ℚ → ℚ
  pow : ℚ → ℚ → ℚ

/-- `CBT_BIN_TO_MS(bin)`: the midpoint of a bin, in `build_time_t` arithmetic. -/
def cbtBinToMs (P : CbtParams) (bin : Nat) : Nat :=
  (bin * P.binWidth + P.binWidth / 2) % 2 ^ 32

/-- One pass of the loop of `circuit_build_times_max`. -/
def maxBuildTimeStep (P : CbtParams) (maxBuildTime t : Nat) : Nat :=
  if maxBuildTime < t ∧ t ≠ P.buildAbandoned then t else maxBuildTime

/-- `circuit_build_times_max`: the largest stored time other than `CBT_BUILD_ABANDONED`. -/
def circuitBuildTimesMax (cbt : CircuitBuildTimes P) : Nat :=
  cbt.circuitBuildTimes.foldl (maxBuildTimeStep P) 0

/-- One step of the histogram loop: count a stored time in its bin unless it is `0` (unused) or
`CBT_BUILD_ABANDONED`. -/
def histogramAdd (P : CbtParams) (histogram : List Nat) (t : Nat) : List Nat :=
  if t = 0 ∨ t = P.buildAbandoned then histogram
  else histogram.modify (· + 1) (t / P.binWidth)

/-- `circuit_build_times_create_histogram`: the histogram and its number of bins,
`1 + max / CBT_BIN_WIDTH`. -/
def circuitBuildTimesCreateHistogram (cbt : CircuitBuildTimes P) : List Nat × Nat :=
  let nbins := 1 + circuitBuildTimesMax cbt / P.binWidth
  (cbt.circuitBuildTimes.foldl (histogramAdd P) (List.replicate nbins 0), nbins)

/-- The inner loop of `circuit_build_times_get_xm`: the first bin of largest count among the
first `nbins`, starting from bin `0`. -/
def nthMaxBin (histogram : List Nat) (nbins : Nat) : Nat :=
  (List.range nbins).foldl
    (fun best i => if histogram.getD best 0 < histogram.getD i 0 then i else best) 0

/-- One round of the mode loop: take the current most frequent bin into `xm_counts` and the
32-bit `xm_total`, then clear it. -/
def xmModeStep (P : CbtParams) (nbins : Nat) (acc : List Nat × Nat × Nat) (_ : Nat) :
    List Nat × Nat × Nat :=
  let (histogram, xmCounts, xmTotal) := acc
  let bin := nthMaxBin histogram nbins
  let count := histogram.getD bin 0
  (histogram.set bin 0, xmCounts + count, (xmTotal + cbtBinToMs P bin * count % 2 ^ 32) % 2 ^ 32)

/-- `circuit_build_times_get_xm`: the weighted average of the `cbtnummodes` most frequent bins,
or `0` when they hold no time. A non-positive `cbtnummodes` fails the `tor_assert`. -/
def circuitBuildTimesGetXm (cbt : CircuitBuildTimes P) (env : CbtEnv) : Option Nat :=
  let (histogram, nbins) := circuitBuildTimesCreateHistogram cbt
  if env.numXmModes ≤ 0 then none
  else
    let (_, xmCounts, xmTotal) :=
      (List.range env.numXmModes.toNat).foldl (xmModeStep P nbins) (histogram, 0, 0)
    some (if xmCounts = 0 then 0 else xmTotal / xmCounts)

/-- One pass of the loop of `circuit_build_times_update_alpha`: skip an empty slot, count a time
below `Xm` as `Xm`, count an abandoned circuit apart, and add the logarithm of any other time. -/
def updateAlphaStep (P : CbtParams) (libm : Libm) (xm : Nat) (acc : ℚ × Nat × Nat) (x : Nat) :
    ℚ × Nat × Nat :=
  let (a, n, abandonedCount) := acc
  if x = 0 then acc
  else if x < xm then (a + libm.log xm, n + 1, abandonedCount)
  else if x = P.buildAbandoned then (a, n, abandonedCount + 1)
  else (a + libm.log x, n + 1, abandonedCount)

/-- The loop of `circuit_build_times_update_alpha` over the stored times: the sum of logarithms,
the number `n` of times counted, and the number of abandoned circuits. -/
def updateAlphaLoop (P : CbtParams) (libm : Libm) (xm : Nat) (times : List Nat) :
    ℚ × Nat × Nat :=
  times.foldl (updateAlphaStep P libm xm) (0, 0, 0)

/-- Every non-empty slot the loop of `update_alpha` reads is counted in `n` or as abandoned,
whatever the running totals. -/
theorem foldl_updateAlphaStep_counts (P : CbtParams) (libm : Libm) (xm : Nat) (times : List Nat)
    (acc : ℚ × Nat × Nat) :
    (times.foldl (updateAlphaStep P libm xm) acc).2.1 +
        (times.foldl (updateAlphaStep P libm xm) acc).2.2 =
      acc.2.1 + acc.2.2 + times.countP (· ≠ 0) := by
  induction times generalizing acc with
  | nil => simp
  | cons x times inductionHypothesis =>
    obtain ⟨a, n, abandonedCount⟩ := acc
    rw [List.foldl_cons, inductionHypothesis, List.countP_cons]
    unfold updateAlphaStep
    dsimp only
    by_cases empty : x = 0
    · simp [empty]
    · rw [if_neg empty, if_pos (decide_eq_true empty)]
      split_ifs <;> dsimp only <;> omega

/-- The loop of `update_alpha` counts every non-empty slot either in `n` or as abandoned. -/
theorem updateAlphaLoop_counts (P : CbtParams) (libm : Libm) (xm : Nat) (times : List Nat) :
    (updateAlphaLoop P libm xm times).2.1 + (updateAlphaLoop P libm xm times).2.2 =
      times.countP (· ≠ 0) := by
  simpa using foldl_updateAlphaStep_counts P libm xm times (0, 0, 0)

/-- `n / a` in `double` for a count `n`: `+inf` over a zero sum (`a -= n*log(Xm)` leaves `+0` when
the two are equal), and NaN for `0 / 0`. -/
def countQuotient (n : Nat) (a : ℚ) : CDouble :=
  if a = 0 then (if n = 0 then .nan else .posInf) else .finite (n / a)

/-- `circuit_build_times_update_alpha`: set `Xm`, and when it is non-zero estimate `alpha` by
maximum likelihood. Returns whether an estimate was made. -/
def circuitBuildTimesUpdateAlpha (cbt : CircuitBuildTimes P) (env : CbtEnv) (libm : Libm) :
    Option (CircuitBuildTimes P × Bool) :=
  (circuitBuildTimesGetXm cbt env).map fun xm =>
    if xm = 0 then ({ cbt with xm }, false)
    else
      let (a, n, _) := updateAlphaLoop P libm xm cbt.circuitBuildTimes
      ({ cbt with xm, alpha := countQuotient n (a - n * libm.log xm) }, true)

/-- `circuit_build_times_quantile_cutoff`: `cbtquantile` as a fraction. -/
def circuitBuildTimesQuantileCutoff (env : CbtEnv) : ℚ :=
  env.quantileCutoff / 100

/-- `circuit_build_times_close_quantile`: `cbtclosequantile`, raised to `cbtquantile`, as a
fraction. -/
def circuitBuildTimesCloseQuantile (env : CbtEnv) : ℚ :=
  let min := env.quantileCutoff
  (if env.closeQuantile < min then min else env.closeQuantile : Int) / 100

/-- The value `calculate_timeout` gives `ret` before the cap: the Pareto quantile
`Xm / (1 - q)^(1/alpha)`, or `INT32_MAX` where the code skips the division. For `alpha = +inf` the
exponent `1.0/alpha` is `0.0` and `pow(x, 0.0)` is `1` for every `x` (C99 F.9.4.4), so the
quantile is `Xm`; NaN fails `alpha > 0`. -/
def paretoQuantile (libm : Libm) (xm : Nat) (alpha : CDouble) (quantile : ℚ) : ℚ :=
  match alpha with
  | .finite alpha =>
    let p := libm.pow (1 - quantile) (1 / alpha)
    if 0 < alpha ∧ 0 < p then xm / p else (int32Max : ℚ)
  | .posInf => xm
  | .nan => (int32Max : ℚ)

/-- `circuit_build_times_calculate_timeout`: the Pareto quantile, capped at `INT32_MAX`. The
asserts on the quantile, on `Xm` and on a positive result abort. -/
def circuitBuildTimesCalculateTimeout (cbt : CircuitBuildTimes P) (libm : Libm) (quantile : ℚ) :
    Option ℚ :=
  if quantile < 0 ∨ 1 - quantile ≤ 0 ∨ cbt.xm = 0 then none
  else
    let ret : ℚ := paretoQuantile libm cbt.xm cbt.alpha quantile
    let ret : ℚ := if (int32Max : ℚ) < ret then (int32Max : ℚ) else ret
    if ret ≤ 0 then none else some ret

/-- The end of `circuit_build_times_set_timeout_worker`: cap the timeout by the largest observed
time and the close time by twice it (while that fits), then keep the close time at least the
initial timeout. -/
def capTimeouts (cbt : CircuitBuildTimes P) (env : CbtEnv) (timeout close : ℚ) :
    CircuitBuildTimes P :=
  let maxTime := circuitBuildTimesMax cbt
  let timeout : ℚ := if (maxTime : ℚ) < timeout then maxTime else timeout
  let close : ℚ :=
    if (maxTime : Int) < int32Max / 2 ∧ ((2 * maxTime : Nat) : ℚ) < close then 2 * maxTime
    else close
  { cbt with
    timeoutMs := timeout, closeMs := max close (circuitBuildTimesInitialTimeout env : ℚ),
    haveComputedTimeout := true }

/-- `circuit_build_times_set_timeout_worker`: with enough history and an estimate, set the timeout
and the close time from their quantiles and cap them. Returns whether it computed a timeout. -/
def circuitBuildTimesSetTimeoutWorker (cbt : CircuitBuildTimes P) (env : CbtEnv) (libm : Libm) :
    Option (CircuitBuildTimes P × Bool) :=
  if (cbt.totalBuildTimes : Int) < env.minCircsToObserve then some (cbt, false)
  else (circuitBuildTimesUpdateAlpha cbt env libm).bind fun (cbt, estimated) =>
    if !estimated then some (cbt, false)
    else (circuitBuildTimesCalculateTimeout cbt libm (circuitBuildTimesQuantileCutoff env)).bind
      fun timeout =>
        (circuitBuildTimesCalculateTimeout cbt libm (circuitBuildTimesCloseQuantile env)).map
          fun close => (capTimeouts cbt env timeout close, true)

/-- The end of `circuit_build_times_set_timeout`: raise the timeout to `cbtmintimeout`; should the
close time then fall below it, it returns to the initial timeout. -/
def raiseToMinTimeout (cbt : CircuitBuildTimes P) (env : CbtEnv) : CircuitBuildTimes P :=
  if cbt.timeoutMs < circuitBuildTimesMinTimeout env then
    let raised := { cbt with timeoutMs := circuitBuildTimesMinTimeout env }
    if raised.closeMs < raised.timeoutMs then
      { raised with closeMs := circuitBuildTimesInitialTimeout env }
    else raised
  else cbt

/-- `circuit_build_times_set_timeout`: recompute the timeout when learning is on. -/
def circuitBuildTimesSetTimeout (cbt : CircuitBuildTimes P) (env : CbtEnv) (libm : Libm) :
    Option (CircuitBuildTimes P) :=
  if env.disabled then some cbt
  else (circuitBuildTimesSetTimeoutWorker cbt env libm).map fun (cbt, computed) =>
    if computed then raiseToMinTimeout cbt env else cbt

/-! ## The estimate does not abort on clamped parameters -/

/-- What `networkstatus_get_param` promises of the parameters the estimate allocates or asserts
on, by clamping them into `[CBT_MIN_*, CBT_MAX_*]`: a record size that is not negative, at least
one mode, and quantiles from 0 up to below 100. -/
structure CbtEnv.Clamped (env : CbtEnv) : Prop where
  recentCircuitCount_nonneg : 0 ≤ env.recentCircuitCount
  numXmModes_pos : 0 < env.numXmModes
  quantileCutoff_nonneg : 0 ≤ env.quantileCutoff
  quantileCutoff_lt : env.quantileCutoff < 100
  closeQuantile_lt : env.closeQuantile < 100

/-- `init` does not abort on a record size that is not negative. -/
theorem circuitBuildTimesInit_isSome (P : CbtParams) {env : CbtEnv}
    (clamped : env.Clamped) : (circuitBuildTimesInit P env).isSome := by
  unfold circuitBuildTimesInit initialLiveness callocRecentCircs
  rw [Option.isSome_map']
  split
  · rw [Option.isSome_map', if_neg (by have := clamped.recentCircuitCount_nonneg; omega)]
    rfl
  · rfl

/-- `get_xm` does not abort when there is a mode to look for. -/
theorem circuitBuildTimesGetXm_isSome (cbt : CircuitBuildTimes P) {env : CbtEnv}
    (modes : 0 < env.numXmModes) : (circuitBuildTimesGetXm cbt env).isSome := by
  unfold circuitBuildTimesGetXm
  split
  rw [if_neg (by omega)]
  rfl

/-- When `update_alpha` makes an estimate, `Xm` is not zero. -/
theorem circuitBuildTimesUpdateAlpha_xm {cbt next : CircuitBuildTimes P} {env : CbtEnv}
    {libm : Libm} (update : circuitBuildTimesUpdateAlpha cbt env libm = some (next, true)) :
    next.xm ≠ 0 := by
  obtain ⟨xm, -, computed⟩ := Option.map_eq_some'.mp update
  split at computed
  · cases computed
  · cases computed
    assumption

/-- The quantile before the cap is positive: `Xm` over a positive power, `Xm`, or `INT32_MAX`. -/
theorem paretoQuantile_pos (libm : Libm) {xm : Nat} (positive : 0 < xm) (alpha : CDouble)
    (quantile : ℚ) : 0 < paretoQuantile libm xm alpha quantile := by
  have xmPos : (0 : ℚ) < xm := by exact_mod_cast positive
  have capPos : (0 : ℚ) < (int32Max : ℚ) := by norm_num [int32Max]
  cases alpha with
  | finite alpha =>
    dsimp only [paretoQuantile]
    split_ifs with divides
    · exact div_pos xmPos divides.2
    · exact capPos
  | posInf => exact xmPos
  | nan => exact capPos

/-- `calculate_timeout` does not abort for a quantile in `[0, 1)` and a non-zero `Xm`. -/
theorem circuitBuildTimesCalculateTimeout_isSome (cbt : CircuitBuildTimes P) (libm : Libm)
    {quantile : ℚ} (low : 0 ≤ quantile) (high : quantile < 1) (xm : cbt.xm ≠ 0) :
    (circuitBuildTimesCalculateTimeout cbt libm quantile).isSome := by
  have capPos : (0 : ℚ) < (int32Max : ℚ) := by norm_num [int32Max]
  unfold circuitBuildTimesCalculateTimeout
  rw [if_neg (by push_neg; exact ⟨low, by linarith, xm⟩)]
  dsimp only
  rw [if_neg]
  · rfl
  · apply not_le.mpr
    split_ifs
    · exact capPos
    · exact paretoQuantile_pos libm (Nat.pos_of_ne_zero xm) cbt.alpha quantile

private theorem percent_bounds {v : Int} (low : 0 ≤ v) (high : v < 100) :
    0 ≤ (v : ℚ) / 100 ∧ (v : ℚ) / 100 < 1 := by
  have low : (0 : ℚ) ≤ v := by exact_mod_cast low
  have high : (v : ℚ) < 100 := by exact_mod_cast high
  constructor <;> linarith

/-- A clamped `cbtquantile` is a fraction in `[0, 1)`. -/
theorem CbtEnv.Clamped.quantileCutoff {env : CbtEnv} (clamped : env.Clamped) :
    0 ≤ circuitBuildTimesQuantileCutoff env ∧ circuitBuildTimesQuantileCutoff env < 1 :=
  percent_bounds clamped.quantileCutoff_nonneg clamped.quantileCutoff_lt

/-- A clamped `cbtclosequantile` is a fraction in `[0, 1)`. -/
theorem CbtEnv.Clamped.closeQuantile {env : CbtEnv} (clamped : env.Clamped) :
    0 ≤ circuitBuildTimesCloseQuantile env ∧ circuitBuildTimesCloseQuantile env < 1 := by
  have low := clamped.quantileCutoff_nonneg
  unfold circuitBuildTimesCloseQuantile
  dsimp only
  split_ifs
  · exact percent_bounds low clamped.quantileCutoff_lt
  · exact percent_bounds (by omega) clamped.closeQuantile_lt

/-- On clamped parameters the timeout computation does not abort. -/
theorem circuitBuildTimesSetTimeoutWorker_isSome (cbt : CircuitBuildTimes P) (libm : Libm)
    {env : CbtEnv} (clamped : env.Clamped) :
    (circuitBuildTimesSetTimeoutWorker cbt env libm).isSome := by
  unfold circuitBuildTimesSetTimeoutWorker
  split
  · rfl
  have updated : (circuitBuildTimesUpdateAlpha cbt env libm).isSome := by
    unfold circuitBuildTimesUpdateAlpha
    rw [Option.isSome_map']
    exact circuitBuildTimesGetXm_isSome cbt clamped.numXmModes_pos
  obtain ⟨⟨next, estimated⟩, update⟩ := Option.isSome_iff_exists.mp updated
  rw [update, Option.some_bind]
  cases estimated
  · rfl
  have xm := circuitBuildTimesUpdateAlpha_xm update
  obtain ⟨timeout, timeoutSome⟩ := Option.isSome_iff_exists.mp
    (circuitBuildTimesCalculateTimeout_isSome next libm clamped.quantileCutoff.1
      clamped.quantileCutoff.2 xm)
  obtain ⟨close, closeSome⟩ := Option.isSome_iff_exists.mp
    (circuitBuildTimesCalculateTimeout_isSome next libm clamped.closeQuantile.1
      clamped.closeQuantile.2 xm)
  simp [timeoutSome, closeSome]

/-- On clamped parameters `set_timeout` does not abort. -/
theorem circuitBuildTimesSetTimeout_isSome (cbt : CircuitBuildTimes P) (libm : Libm)
    {env : CbtEnv} (clamped : env.Clamped) : (circuitBuildTimesSetTimeout cbt env libm).isSome := by
  unfold circuitBuildTimesSetTimeout
  split
  · rfl
  · rw [Option.isSome_map']
    exact circuitBuildTimesSetTimeoutWorker_isSome cbt libm clamped

end Nuon.CircuitStats
