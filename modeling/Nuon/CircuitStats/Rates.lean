import Nuon.CircuitStats.Window
import Nuon.CircuitStats.Timeouts

/-!
# Circuit build times: what the estimator reports

`circuit_build_times_timeout_rate` and `circuit_build_times_close_rate` count the slots of the
history at or past `timeout_ms` and equal to `CBT_BUILD_ABANDONED`, and divide by
`total_build_times`; `circuit_build_times_needs_circuits` asks whether the history is still too
short to estimate from.

The counting loops run over every slot, empty ones included. In a reachable state the empty slots
are exactly the zero ones (`RingRepresents.total_eq_countP`), so both rates lie in `[0, 1]`, the
timeout rate as long as `timeout_ms` is positive: with `timeout_ms` at `0` every empty slot counts
as a timeout (`circuitBuildTimes_rates_le_one`).
-/

namespace Nuon.CircuitStats

variable {P : CbtParams}

/-- `circuit_build_times_timeout_rate(cbt)`: the slots at or past `timeout_ms`, over
`total_build_times`, and `0` for an empty history. -/
def circuitBuildTimesTimeoutRate (cbt : CircuitBuildTimes P) : ℚ :=
  let timeouts := cbt.circuitBuildTimes.countP fun t : Nat => cbt.timeoutMs ≤ (t : ℚ)
  if cbt.totalBuildTimes = 0 then 0 else timeouts / cbt.totalBuildTimes

/-- `circuit_build_times_close_rate(cbt)`: the `CBT_BUILD_ABANDONED` slots over
`total_build_times`, and `0` for an empty history. -/
def circuitBuildTimesCloseRate (cbt : CircuitBuildTimes P) : ℚ :=
  let closed := cbt.circuitBuildTimes.countP fun t => t = P.buildAbandoned
  if cbt.totalBuildTimes = 0 then 0 else closed / cbt.totalBuildTimes

/-- `circuit_build_times_enough_to_compute(cbt)`: at least `cbtmincircs` times recorded. -/
def circuitBuildTimesEnoughToCompute (cbt : CircuitBuildTimes P) (env : CbtEnv) : Bool :=
  env.minCircsToObserve ≤ cbt.totalBuildTimes

/-- `circuit_build_times_needs_circuits(cbt)`. -/
def circuitBuildTimesNeedsCircuits (cbt : CircuitBuildTimes P) (env : CbtEnv) : Bool :=
  !circuitBuildTimesEnoughToCompute cbt env

/-- `circuit_build_times_needs_circuits_now(cbt)`: circuits are needed, and the last test circuit
is more than `cbttestfreq` seconds old (`approx_time()` is `env.now`). -/
def circuitBuildTimesNeedsCircuitsNow (cbt : CircuitBuildTimes P) (env : CbtEnv)
    (testFrequency : Int) : Bool :=
  circuitBuildTimesNeedsCircuits cbt env && decide (testFrequency < env.now - cbt.lastCircAt)

/-! ## The rates are fractions -/

/-- A count of slots over `total_build_times` is at most `1` when the slots it counts are all
recorded ones. -/
theorem countRate_le_one {cbt : CircuitBuildTimes P} {counted : Nat → Bool}
    (total : cbt.totalBuildTimes = cbt.circuitBuildTimes.countP (· ≠ 0))
    (recorded : ∀ t, counted t = true → t ≠ 0) :
    (if cbt.totalBuildTimes = 0 then 0
      else (cbt.circuitBuildTimes.countP counted : ℚ) / cbt.totalBuildTimes) ≤ 1 := by
  split
  · exact zero_le_one
  · have fewer : cbt.circuitBuildTimes.countP counted ≤ cbt.totalBuildTimes := by
      rw [total]
      exact List.countP_mono_left fun t _ countedT => decide_eq_true (recorded t countedT)
    exact div_le_one_of_le₀ (by exact_mod_cast fewer) (Nat.cast_nonneg _)

private theorem countRate_nonneg (cbt : CircuitBuildTimes P) (counted : Nat → Bool) :
    0 ≤ (if cbt.totalBuildTimes = 0 then (0 : ℚ)
      else (cbt.circuitBuildTimes.countP counted : ℚ) / cbt.totalBuildTimes) := by
  split
  · exact le_refl 0
  · exact div_nonneg (Nat.cast_nonneg _) (Nat.cast_nonneg _)

/-- In every reachable state the close rate is in `[0, 1]`, and so is the timeout rate while
`timeout_ms` is positive: the loops count every slot, but the empty ones hold `0`. -/
theorem circuitBuildTimes_rates_le_one {libm : Libm} {cbt : CircuitBuildTimes P}
    {samples : List Nat} (reachable : WindowReachable P libm cbt samples)
    (abandoned : P.buildAbandoned ≠ 0) :
    0 ≤ circuitBuildTimesCloseRate cbt ∧ circuitBuildTimesCloseRate cbt ≤ 1 ∧
      0 ≤ circuitBuildTimesTimeoutRate cbt ∧
      (0 < cbt.timeoutMs → circuitBuildTimesTimeoutRate cbt ≤ 1) := by
  have total := reachable.ringWindow.represents.total_eq_countP
  unfold circuitBuildTimesCloseRate circuitBuildTimesTimeoutRate
  refine ⟨countRate_nonneg cbt _, countRate_le_one total fun t same => ?_, countRate_nonneg cbt _,
    fun positive => countRate_le_one total fun t late => ?_⟩
  · simp only [decide_eq_true_eq] at same
    exact same ▸ abandoned
  · simp only [decide_eq_true_eq] at late
    rintro rfl
    exact absurd positive (not_lt.mpr (by exact_mod_cast late))

/-- Learning on with a one-minute initial timeout. -/
def fiveSecondEnv : CbtEnv :=
  ⟨false, 0, 20, 18, 10, 100, 80, 95, 10, 60000, 0⟩

/-- The estimator after `init`. -/
def fiveSecondInit : CircuitBuildTimes smallCbtParams :=
  (circuitBuildTimesInit smallCbtParams fiveSecondEnv).getD (CircuitBuildTimes.zero _)

/-- The history after `init` and one accepted time of five seconds. -/
def fiveSecondEstimate : CircuitBuildTimes smallCbtParams :=
  (circuitBuildTimesAddTime fiveSecondInit 5000).1

/-- One accepted time of five seconds after `init`: both rates lie in `[0, 1]`. -/
theorem circuitBuildTimes_rates_le_one_fiveSeconds :
    WindowReachable smallCbtParams basePowLibm fiveSecondEstimate [5000] ∧
      smallCbtParams.buildAbandoned ≠ 0 ∧
      0 ≤ circuitBuildTimesCloseRate fiveSecondEstimate ∧
      circuitBuildTimesCloseRate fiveSecondEstimate ≤ 1 ∧
      0 ≤ circuitBuildTimesTimeoutRate fiveSecondEstimate ∧
      (0 < fiveSecondEstimate.timeoutMs → circuitBuildTimesTimeoutRate fiveSecondEstimate ≤ 1) :=
  have reachable : WindowReachable smallCbtParams basePowLibm fiveSecondEstimate [5000] :=
    (WindowReachable.zero.step (show cbtStep smallCbtParams basePowLibm (CircuitBuildTimes.zero _)
      (.init fiveSecondEnv) = some fiveSecondInit from rfl)).step
      (show cbtStep smallCbtParams basePowLibm fiveSecondInit (.addTime 5000) =
        some fiveSecondEstimate from rfl)
  ⟨reachable, by decide, circuitBuildTimes_rates_le_one reachable (by decide)⟩

end Nuon.CircuitStats
