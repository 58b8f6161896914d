import Nuon.CircuitStats.Run

/-!
# Circuit build times: the timeout comes before the close time

A circuit is declared timed out at `timeout_ms` and closed at `close_ms`. Every call keeps
`timeout_ms ≤ close_ms`, whatever the consensus parameters each call reads
(`cbtReachable_timeoutMs_le_closeMs`). The computed timeouts are the Pareto quantiles at
`cbtquantile` and at `cbtclosequantile`, which is raised to at least `cbtquantile`, so the order
rests on the quantile growing with its level. That needs `pow` to grow with its base for a
positive exponent, as the real power does (`Libm.PowMonotone`). The caps at the largest observed
time, at twice that, at the initial timeout and at the minimum timeout keep the order; the
doubling and the return to the initial timeout after a changed network keep it too.
-/

namespace Nuon.CircuitStats

variable {P : CbtParams}

/-- What the estimate needs of `pow`: for a positive base and exponent the result is positive and
grows with the base, as `x ^ y` does on the reals. -/
structure Libm.PowMonotone (libm : Libm) : Prop where
  pow_pos : ∀ b e : ℚ, 0 < b → 0 < e → 0 < libm.pow b e
  pow_le_pow : ∀ b b' e : ℚ, 0 < b → b ≤ b' → 0 < e → libm.pow b e ≤ libm.pow b' e

/-- The timeout and the close time of a state. -/
def CircuitBuildTimes.timeouts (cbt : CircuitBuildTimes P) : ℚ × ℚ :=
  (cbt.timeoutMs, cbt.closeMs)

/-- The order of the two timeouts reads only the two timeouts. -/
theorem CircuitBuildTimes.ordered_of_timeouts {cbt cbt' : CircuitBuildTimes P}
    (same : cbt'.timeouts = cbt.timeouts) (ordered : cbt.timeoutMs ≤ cbt.closeMs) :
    cbt'.timeoutMs ≤ cbt'.closeMs := by
  simp only [CircuitBuildTimes.timeouts, Prod.mk.injEq] at same
  rw [same.1, same.2]
  exact ordered

/-! ## Calls that leave the timeouts alone -/

@[simp] private theorem circuitBuildTimesReset_timeouts (cbt : CircuitBuildTimes P) :
    (circuitBuildTimesReset cbt).timeouts = cbt.timeouts := rfl

@[simp] private theorem circuitBuildTimesAddTime_timeouts (cbt : CircuitBuildTimes P) (btime : Nat) :
    (circuitBuildTimesAddTime cbt btime).1.timeouts = cbt.timeouts := by
  unfold circuitBuildTimesAddTime
  split <;> rfl

@[simp] private theorem scaleIfAtLimit_timeouts (count : Nat) (cbt : CircuitBuildTimes P) :
    (scaleIfAtLimit count cbt).timeouts = cbt.timeouts := by
  unfold scaleIfAtLimit
  split <;> rfl

@[simp] private theorem circuitBuildTimesNetworkClose_timeouts (cbt : CircuitBuildTimes P)
    (startTime : Int) : (circuitBuildTimesNetworkClose cbt startTime).timeouts = cbt.timeouts := by
  unfold circuitBuildTimesNetworkClose
  dsimp only
  split <;> exact scaleIfAtLimit_timeouts _ _

private theorem circuitBuildTimesNetworkCircSuccess_timeouts {cbt next : CircuitBuildTimes P}
    (recorded : circuitBuildTimesNetworkCircSuccess cbt = some next) :
    next.timeouts = cbt.timeouts := by
  obtain ⟨_, -, rfl⟩ := Option.map_eq_some'.mp recorded
  exact scaleIfAtLimit_timeouts _ _

private theorem circuitBuildTimesNetworkTimeout_timeouts {cbt next : CircuitBuildTimes P}
    {didOnehop : Bool} (recorded : circuitBuildTimesNetworkTimeout cbt didOnehop = some next) :
    next.timeouts = cbt.timeouts := by
  unfold circuitBuildTimesNetworkTimeout at recorded
  split at recorded
  · obtain ⟨_, -, rfl⟩ := Option.map_eq_some'.mp recorded
    exact scaleIfAtLimit_timeouts _ _
  · cases recorded
    exact scaleIfAtLimit_timeouts _ _

private theorem circuitBuildTimesNewConsensusParams_timeouts {cbt next : CircuitBuildTimes P}
    {env : CbtEnv} (refreshed : circuitBuildTimesNewConsensusParams cbt env = some next) :
    next.timeouts = cbt.timeouts := by
  unfold circuitBuildTimesNewConsensusParams at refreshed
  dsimp only at refreshed
  split_ifs at refreshed
  · obtain ⟨_, -, rfl⟩ := Option.map_eq_some'.mp refreshed
    rfl
  all_goals cases refreshed; rfl

private theorem circuitBuildTimesShuffleAndStoreArray_timeouts (cbt : CircuitBuildTimes P)
    (rawTimes : List Nat) (numTimes : Nat) (rand : Nat → Nat) :
    (circuitBuildTimesShuffleAndStoreArray cbt rawTimes numTimes rand).timeouts = cbt.timeouts := by
  unfold circuitBuildTimesShuffleAndStoreArray
  generalize shuffledPrefix P rawTimes numTimes rand = times
  induction times generalizing cbt with
  | nil => rfl
  | cons t times inductionHypothesis =>
    rw [List.foldl_cons, inductionHypothesis, circuitBuildTimesAddTime_timeouts]

private theorem circuitBuildTimesUpdateAlpha_timeouts {cbt next : CircuitBuildTimes P} {env : CbtEnv}
    {libm : Libm} {estimated : Bool}
    (updated : circuitBuildTimesUpdateAlpha cbt env libm = some (next, estimated)) :
    next.timeouts = cbt.timeouts := by
  obtain ⟨xm, -, computed⟩ := Option.map_eq_some'.mp updated
  split at computed <;> cases computed <;> rfl

/-! ## The computed timeouts -/

/-- `circuit_build_times_initial_timeout` is at least the minimum timeout. -/
theorem circuitBuildTimesMinTimeout_le_initialTimeout (env : CbtEnv) :
    circuitBuildTimesMinTimeout env ≤ circuitBuildTimesInitialTimeout env := by
  unfold circuitBuildTimesInitialTimeout
  split_ifs <;> omega

/-- `cbtclosequantile` is raised to at least `cbtquantile`. -/
theorem circuitBuildTimesQuantileCutoff_le_closeQuantile (env : CbtEnv) :
    circuitBuildTimesQuantileCutoff env ≤ circuitBuildTimesCloseQuantile env := by
  unfold circuitBuildTimesQuantileCutoff circuitBuildTimesCloseQuantile
  have raised : env.quantileCutoff ≤
      if env.closeQuantile < env.quantileCutoff then env.quantileCutoff else env.closeQuantile := by
    split_ifs <;> omega
  exact div_le_div_of_nonneg_right (by exact_mod_cast raised) (by norm_num)

private theorem capAtInt32Max_le {x y : ℚ} (le : x ≤ y) :
    (if (int32Max : ℚ) < x then (int32Max : ℚ) else x) ≤
      if (int32Max : ℚ) < y then (int32Max : ℚ) else y := by
  split_ifs <;> linarith

/-- For a monotone `pow` the quantile before the cap grows with `q`: `(1 - q)^(1/alpha)` falls.
At `alpha = +inf` and NaN it does not depend on `q`. -/
theorem paretoQuantile_le {libm : Libm} (pow : libm.PowMonotone) (xm : Nat) (alpha : CDouble)
    {quantile quantile' : ℚ} (le : quantile ≤ quantile') (mass' : 0 < 1 - quantile') :
    paretoQuantile libm xm alpha quantile ≤ paretoQuantile libm xm alpha quantile' := by
  cases alpha with
  | finite alpha =>
    dsimp only [paretoQuantile]
    by_cases positive : 0 < alpha
    · have exponent : 0 < 1 / alpha := one_div_pos.mpr positive
      have divisor' := pow.pow_pos _ _ mass' exponent
      have divisor := pow.pow_pos (1 - quantile) _ (by linarith) exponent
      rw [if_pos ⟨positive, divisor⟩, if_pos ⟨positive, divisor'⟩]
      exact div_le_div_of_nonneg_left (Nat.cast_nonneg _) divisor'
        (pow.pow_le_pow _ _ _ mass' (by linarith) exponent)
    · simp only [positive, false_and, if_false, le_refl]
  | posInf => exact le_refl _
  | nan => exact le_refl _

/-- `calculate_timeout` grows with the quantile: a higher level leaves less mass `1 - q` above
the quantile, so the divisor `(1 - q)^(1/alpha)` shrinks. -/
theorem circuitBuildTimesCalculateTimeout_le {cbt : CircuitBuildTimes P} {libm : Libm}
    (pow : libm.PowMonotone) {quantile quantile' timeout timeout' : ℚ} (le : quantile ≤ quantile')
    (calculated : circuitBuildTimesCalculateTimeout cbt libm quantile = some timeout)
    (calculated' : circuitBuildTimesCalculateTimeout cbt libm quantile' = some timeout') :
    timeout ≤ timeout' := by
  unfold circuitBuildTimesCalculateTimeout at calculated calculated'
  simp only [Option.ite_none_left_eq_some, Option.some.injEq] at calculated calculated'
  obtain ⟨-, -, rfl⟩ := calculated
  obtain ⟨guard', -, rfl⟩ := calculated'
  have mass' : 0 < 1 - quantile' := by push_neg at guard'; exact guard'.2.1
  exact capAtInt32Max_le (paretoQuantile_le pow cbt.xm cbt.alpha le mass')

/-- The caps of `set_timeout_worker` keep the order: the timeout never exceeds the largest
observed time, which is at most the capped close time, and the close time is only raised after. -/
theorem capTimeouts_ordered (cbt : CircuitBuildTimes P) (env : CbtEnv) {timeout close : ℚ}
    (ordered : timeout ≤ close) :
    (capTimeouts cbt env timeout close).timeoutMs ≤ (capTimeouts cbt env timeout close).closeMs := by
  have maxTime : (0 : ℚ) ≤ circuitBuildTimesMax cbt := Nat.cast_nonneg _
  unfold capTimeouts
  dsimp only
  refine le_max_of_le_left ?_
  split_ifs <;> linarith

private theorem circuitBuildTimesSetTimeoutWorker_ordered {cbt next : CircuitBuildTimes P} {env : CbtEnv}
    {libm : Libm} {computed : Bool} (pow : libm.PowMonotone)
    (ordered : cbt.timeoutMs ≤ cbt.closeMs)
    (worked : circuitBuildTimesSetTimeoutWorker cbt env libm = some (next, computed)) :
    next.timeoutMs ≤ next.closeMs := by
  unfold circuitBuildTimesSetTimeoutWorker at worked
  split at worked
  · cases worked
    exact ordered
  obtain ⟨⟨estimate, estimated⟩, updated, rest⟩ := Option.bind_eq_some.mp worked
  cases estimated
  · cases rest
    exact CircuitBuildTimes.ordered_of_timeouts (circuitBuildTimesUpdateAlpha_timeouts updated) ordered
  obtain ⟨timeout, timeoutComputed, rest⟩ := Option.bind_eq_some.mp rest
  obtain ⟨close, closeComputed, capped⟩ := Option.map_eq_some'.mp rest
  cases capped
  exact capTimeouts_ordered _ _ (circuitBuildTimesCalculateTimeout_le pow
    (circuitBuildTimesQuantileCutoff_le_closeQuantile env) timeoutComputed closeComputed)

/-- Raising the timeout to the minimum keeps the order: a close time left below it goes back to
the initial timeout, which is at least the minimum. -/
theorem raiseToMinTimeout_ordered {cbt : CircuitBuildTimes P} (env : CbtEnv)
    (ordered : cbt.timeoutMs ≤ cbt.closeMs) :
    (raiseToMinTimeout cbt env).timeoutMs ≤ (raiseToMinTimeout cbt env).closeMs := by
  have initial : (circuitBuildTimesMinTimeout env : ℚ) ≤ circuitBuildTimesInitialTimeout env := by
    exact_mod_cast circuitBuildTimesMinTimeout_le_initialTimeout env
  unfold raiseToMinTimeout
  dsimp only
  split_ifs with raised low
  · exact initial
  · exact not_lt.mp low
  · exact ordered

private theorem circuitBuildTimesSetTimeout_ordered {cbt next : CircuitBuildTimes P} {env : CbtEnv}
    {libm : Libm} (pow : libm.PowMonotone) (ordered : cbt.timeoutMs ≤ cbt.closeMs)
    (set : circuitBuildTimesSetTimeout cbt env libm = some next) :
    next.timeoutMs ≤ next.closeMs := by
  unfold circuitBuildTimesSetTimeout at set
  split at set
  · cases set
    exact ordered
  obtain ⟨⟨worker, computed⟩, worked, rfl⟩ := Option.map_eq_some'.mp set
  have workerOrdered := circuitBuildTimesSetTimeoutWorker_ordered pow ordered worked
  dsimp only
  split
  · exact raiseToMinTimeout_ordered env workerOrdered
  · exact workerOrdered

/-- After a changed network the timeouts are doubled together or both return to the initial
timeout. -/
theorem changedTimeouts_ordered {timeoutMs closeMs : ℚ} (env : CbtEnv)
    (ordered : timeoutMs ≤ closeMs) :
    (changedTimeouts timeoutMs closeMs env).1 ≤ (changedTimeouts timeoutMs closeMs env).2 := by
  unfold changedTimeouts
  dsimp only
  split_ifs <;> dsimp only <;> linarith

private theorem circuitBuildTimesNetworkCheckChanged_ordered {cbt : CircuitBuildTimes P} (env : CbtEnv)
    (ordered : cbt.timeoutMs ≤ cbt.closeMs) :
    (circuitBuildTimesNetworkCheckChanged cbt env).1.timeoutMs ≤
      (circuitBuildTimesNetworkCheckChanged cbt env).1.closeMs := by
  unfold circuitBuildTimesNetworkCheckChanged
  split
  · exact ordered
  · exact changedTimeouts_ordered env ordered

/-- `parse_state` starts from `init`, whose two timeouts are equal, and ends with `set_timeout`
or a reset that keeps them. -/
theorem circuitBuildTimesParseState_ordered {state : OrState} {env : CbtEnv} {libm : Libm}
    {rand : Nat → Nat} {parsed : CircuitBuildTimes P × Int} (pow : libm.PowMonotone)
    (loaded : circuitBuildTimesParseState P state env libm rand = some parsed) :
    parsed.1.timeoutMs ≤ parsed.1.closeMs := by
  obtain ⟨cbt, init, rest⟩ := Option.bind_eq_some.mp loaded
  have ordered : cbt.timeoutMs ≤ cbt.closeMs := by
    obtain ⟨_, -, rfl⟩ := Option.map_eq_some'.mp init
    exact le_refl _
  split at rest
  · cases rest
    exact ordered
  obtain ⟨⟨times, lineError⟩, -, rest⟩ := Option.bind_eq_some.mp rest
  have shuffled := CircuitBuildTimes.ordered_of_timeouts
    (circuitBuildTimesShuffleAndStoreArray_timeouts cbt times times.length rand) ordered
  dsimp only at rest
  split at rest
  · cases rest
    exact ordered
  split at rest
  · cases rest
    exact shuffled
  · obtain ⟨next, set, rfl⟩ := Option.map_eq_some'.mp rest
    exact circuitBuildTimesSetTimeout_ordered pow shuffled set

/-! ## Every run keeps the order -/

/-- One call keeps the timeout at most the close time. -/
theorem cbtStep_ordered {libm : Libm} (pow : libm.PowMonotone) {cbt next : CircuitBuildTimes P}
    {op : CbtOp} (ordered : cbt.timeoutMs ≤ cbt.closeMs)
    (transition : cbtStep P libm cbt op = some next) : next.timeoutMs ≤ next.closeMs := by
  cases op with
  | init env =>
    obtain ⟨_, -, rfl⟩ := Option.map_eq_some'.mp transition
    exact le_refl _
  | addTime btime =>
    cases transition
    exact CircuitBuildTimes.ordered_of_timeouts (circuitBuildTimesAddTime_timeouts cbt btime) ordered
  | countClose env startTime =>
    cases transition
    unfold circuitBuildTimesCountClose
    dsimp only
    split_ifs
    · exact le_refl _
    · exact CircuitBuildTimes.ordered_of_timeouts (circuitBuildTimesNetworkClose_timeouts cbt startTime) ordered
    · exact CircuitBuildTimes.ordered_of_timeouts (by simp) ordered
  | countTimeout env didOnehop =>
    change circuitBuildTimesCountTimeout cbt env didOnehop = some next at transition
    unfold circuitBuildTimesCountTimeout at transition
    split at transition
    · cases transition
      exact le_refl _
    · obtain ⟨timedOut, recorded, rfl⟩ := Option.map_eq_some'.mp transition
      exact circuitBuildTimesNetworkCheckChanged_ordered env
        (CircuitBuildTimes.ordered_of_timeouts (circuitBuildTimesNetworkTimeout_timeouts recorded) ordered)
  | networkCheckChanged env =>
    cases transition
    exact circuitBuildTimesNetworkCheckChanged_ordered env ordered
  | reset =>
    cases transition
    exact ordered
  | parseState state env rand =>
    obtain ⟨parsed, loaded, rfl⟩ := Option.map_eq_some'.mp transition
    exact circuitBuildTimesParseState_ordered pow loaded
  | newConsensusParams env =>
    exact CircuitBuildTimes.ordered_of_timeouts (circuitBuildTimesNewConsensusParams_timeouts transition) ordered
  | freeTimeouts =>
    cases transition
    exact ordered
  | networkCircSuccess =>
    exact CircuitBuildTimes.ordered_of_timeouts (circuitBuildTimesNetworkCircSuccess_timeouts transition) ordered
  | networkIsLive env =>
    cases transition
    exact ordered
  | setTimeout env => exact circuitBuildTimesSetTimeout_ordered pow ordered transition

/-- Over every sequence of calls from the zeroed global, with the consensus parameters changing
arbitrarily between them, the timeout is at most the close time: a circuit is never closed before
it is declared timed out. -/
theorem cbtReachable_timeoutMs_le_closeMs {libm : Libm} (pow : libm.PowMonotone)
    {cbt : CircuitBuildTimes P} (reachable : CbtReachable P libm cbt) :
    cbt.timeoutMs ≤ cbt.closeMs := by
  induction reachable with
  | zero => exact le_refl (0 : ℚ)
  | step _ transition ordered => exact cbtStep_ordered pow ordered transition

/-- A `pow` that returns its base, which grows with it. -/
def basePowLibm : Libm :=
  ⟨id, fun b _ => b⟩

/-- The estimate `set_timeout` makes from the wrapped history `[50, 30, 40]`: `Xm` is the average
`45` of the three bin midpoints, `alpha = 3 / (140 - 3 * 45)`, and the timeout quantile `225` is
capped by the largest time `50`, while the close time rises to the initial timeout. -/
def learnedEstimate : CircuitBuildTimes smallCbtParams :=
  { wrappedHistory with
    xm := 45, alpha := .finite (3 / 5), timeoutMs := 50, closeMs := 60000,
    haveComputedTimeout := true }

private theorem circuitBuildTimesSetTimeout_wrappedHistory :
    circuitBuildTimesSetTimeout wrappedHistory estimatingEnv basePowLibm = some learnedEstimate := by
  have times : wrappedHistory.circuitBuildTimes = [50, 30, 40] := rfl
  have abandoned : smallCbtParams.buildAbandoned = 2147483646 := rfl
  have xm : circuitBuildTimesGetXm wrappedHistory estimatingEnv = some 45 := rfl
  have loop : updateAlphaLoop smallCbtParams basePowLibm 45 wrappedHistory.circuitBuildTimes =
      (140, 3, 0) := by
    norm_num [times, updateAlphaLoop, updateAlphaStep, basePowLibm, abandoned]
  unfold circuitBuildTimesSetTimeout circuitBuildTimesSetTimeoutWorker circuitBuildTimesUpdateAlpha
  simp only [xm, Option.map_some', loop]
  norm_num [estimatingEnv, show wrappedHistory.totalBuildTimes = 3 from rfl, countQuotient,
    circuitBuildTimesCalculateTimeout, paretoQuantile, circuitBuildTimesQuantileCutoff,
    circuitBuildTimesCloseQuantile, basePowLibm, capTimeouts, circuitBuildTimesMax, times,
    maxBuildTimeStep, abandoned, raiseToMinTimeout, int32Max, circuitBuildTimesInitialTimeout,
    circuitBuildTimesMinTimeout, learnedEstimate]

/-- After `set_timeout` has estimated from the wrapped history, the timeout `50` is below the close
time `60000`. -/
theorem cbtReachable_timeoutMs_le_closeMs_learned :
    basePowLibm.PowMonotone ∧ CbtReachable smallCbtParams basePowLibm learnedEstimate ∧
      learnedEstimate.haveComputedTimeout = true ∧
      learnedEstimate.timeoutMs ≤ learnedEstimate.closeMs :=
  have pow : basePowLibm.PowMonotone := ⟨fun _ _ base _ => base, fun _ _ _ _ le _ => le⟩
  have reachable : CbtReachable smallCbtParams basePowLibm learnedEstimate :=
    (CbtReachable.zero.run (show cbtRun smallCbtParams basePowLibm (CircuitBuildTimes.zero _)
      [.init estimatingEnv, .addTime 20, .addTime 30, .addTime 40, .addTime 50] =
        some wrappedHistory from rfl)).step (show cbtStep smallCbtParams basePowLibm wrappedHistory
          (.setTimeout estimatingEnv) = some learnedEstimate from
            circuitBuildTimesSetTimeout_wrappedHistory)
  ⟨pow, reachable, rfl, cbtReachable_timeoutMs_le_closeMs pow reachable⟩

end Nuon.CircuitStats
