import Nuon.Hibernate.Period
import Mathlib.Algebra.Order.Field.Rat

/-!
# Hibernation: bandwidth accounting

The accounting half of hibernate.c: the byte and time counters of the current interval, the
interval's start, end and wakeup time, the expected bandwidth the next wakeup time is chosen from,
and the `or_state_t` fields they are saved to. Options are read through `HibernateOptions`, each
field as wide as its C type; `uint64_t` arithmetic is modulo `2^64`, and `time_t` is an `Int`.

`configure_accounting` leaves the interval ending after `now` (`configureAccounting_lt_end`).
`accounting_set_wakeup_time` computes `(AccountingMax / expected_bandwidth_usage) * 60` in
`uint64_t`, before its clamp to `INT_MAX`: without a wrap the wakeup time leaves the budget room
before the end of the interval (`accountingSetWakeupTime_budget`); with one it does not
(`accountingSetWakeupTime_wraps`). `(uint64_t)(acct_max * SOFT_LIM_PCT)` is `0` for an
`AccountingMax` of `1`, so that budget never reaches its soft limit
(`hibernateSoftLimitReached_one`).
-/

namespace Nuon.Hibernate

/-- `AccountingRule`: `ACCT_SUM`, `ACCT_IN`, `ACCT_OUT` and `ACCT_MAX`. -/
inductive AccountingRule
  | acctSum
  | acctIn
  | acctOut
  | acctMax
  deriving Repr, DecidableEq

/-- The options hibernate.c reads: `AccountingMax`, `RelayBandwidthRate` and `BandwidthRate` are
`uint64_t`, `ShutdownWaitLength` a non-negative interval. -/
structure HibernateOptions where
  accountingMax : Nat
  accountingRule : AccountingRule
  relayBandwidthRate : Nat
  bandwidthRate : Nat
  shutdownWaitLength : Nat
  deriving Repr, DecidableEq

/-- The accounting fields of `or_state_t`. -/
structure OrState where
  accountingIntervalStart : Int
  accountingBytesReadInInterval : Nat
  accountingBytesWrittenInInterval : Nat
  accountingSecondsActive : Int
  accountingExpectedUsage : Nat
  accountingSecondsToReachSoftLimit : Int
  accountingSoftLimitHitAt : Int
  accountingBytesAtSoftLimit : Nat
  deriving Repr, DecidableEq

/-- The accounting globals of hibernate.c, the `static` counters of
`time_to_record_bandwidth_usage`, and the `or_state_t` that `get_or_state()` returns. -/
structure AccountingState where
  nBytesReadInInterval : Nat
  nBytesWrittenInInterval : Nat
  nSecondsActiveInInterval : Nat
  nSecondsToHitSoftLimit : Int
  softLimitHitAt : Int
  nBytesAtSoftLimit : Nat
  intervalStartTime : Int
  intervalEndTime : Int
  intervalWakeupTime : Int
  expectedBandwidthUsage : Nat
  lastReadBytesNoted : Nat
  lastWrittenBytesNoted : Nat
  lastTimeNoted : Int
  orState : OrState
  deriving Repr, DecidableEq

section Accounting

variable (cfg : AccountingCfg) (options : HibernateOptions)

/-- `get_accounting_bytes`. -/
def getAccountingBytes (acct : AccountingState) : Nat :=
  match options.accountingRule with
  | .acctSum => (acct.nBytesReadInInterval + acct.nBytesWrittenInInterval) % 2 ^ 64
  | .acctIn => acct.nBytesReadInInterval
  | .acctOut => acct.nBytesWrittenInInterval
  | .acctMax => max acct.nBytesReadInInterval acct.nBytesWrittenInInterval

/-- `update_expected_bandwidth`: the rate up to the soft limit of the last interval if it was hit
after `MIN_TIME_FOR_MEASUREMENT`, else the rate over its active time if that was long enough,
else `0`; at most the configured rate. -/
def updateExpectedBandwidth (acct : AccountingState) : AccountingState :=
  let maxConfigured := (if 0 < options.relayBandwidthRate then options.relayBandwidthRate
    else options.bandwidthRate) * 60 % 2 ^ 64
  let maxConfigured :=
    if options.accountingRule = .acctSum then maxConfigured * 2 % 2 ^ 64 else maxConfigured
  let expected :=
    if acct.softLimitHitAt > acct.intervalStartTime ∧ acct.nBytesAtSoftLimit ≠ 0 ∧
        acct.softLimitHitAt - acct.intervalStartTime > 1800 then
      acct.nBytesAtSoftLimit / (acct.softLimitHitAt - acct.intervalStartTime).toNat / 60
    else if 1800 ≤ acct.nSecondsActiveInInterval then
      getAccountingBytes options acct / (acct.nSecondsActiveInInterval / 60)
    else 0
  { acct with expectedBandwidthUsage := min expected maxConfigured }

/-- `reset_accounting(now)`. -/
def resetAccounting (acct : AccountingState) (now : Int) : AccountingState :=
  let acct := updateExpectedBandwidth options acct
  let start := startOfAccountingPeriodContaining cfg now
  { acct with
    intervalStartTime := start
    intervalEndTime := startOfAccountingPeriodAfter cfg start
    nBytesReadInInterval := 0
    nBytesWrittenInInterval := 0
    nSecondsActiveInInterval := 0
    nBytesAtSoftLimit := 0
    softLimitHitAt := 0
    nSecondsToHitSoftLimit := 0 }

/-- `read_bandwidth_usage`: the counters saved in the state file; its soft-limit fields only
when they are later than the interval's start. -/
def readBandwidthUsage (acct : AccountingState) : AccountingState :=
  let state := acct.orState
  let acct := { acct with
    nBytesReadInInterval := state.accountingBytesReadInInterval
    nBytesWrittenInInterval := state.accountingBytesWrittenInInterval
    nSecondsActiveInInterval := (state.accountingSecondsActive % 2 ^ 32).toNat
    intervalStartTime := state.accountingIntervalStart
    expectedBandwidthUsage := state.accountingExpectedUsage }
  if state.accountingSoftLimitHitAt > acct.intervalStartTime then
    { acct with
      softLimitHitAt := state.accountingSoftLimitHitAt
      nBytesAtSoftLimit := state.accountingBytesAtSoftLimit
      nSecondsToHitSoftLimit := state.accountingSecondsToReachSoftLimit }
  else { acct with softLimitHitAt := 0, nBytesAtSoftLimit := 0, nSecondsToHitSoftLimit := 0 }

/-- `accounting_get_interval_length`: `(int)(interval_end_time - interval_start_time)`. -/
def accountingGetIntervalLength (acct : AccountingState) : Int :=
  int32OfInt (acct.intervalEndTime - acct.intervalStartTime)

/-- `accounting_set_wakeup_time`. `digest` is `get_uint32(digest)`: the first four bytes of the
digest of `interval_start_time` and the identity key, a word fixed for each interval. -/
def accountingSetWakeupTime (digest : Int → Nat) (acct : AccountingState) : AccountingState :=
  if acct.expectedBandwidthUsage = 0 then { acct with intervalWakeupTime := acct.intervalStartTime }
  else
    let timeToExhaustBw : Nat := options.accountingMax / acct.expectedBandwidthUsage * 60 % 2 ^ 64
    let timeToConsider : Int :=
      if timeToExhaustBw > 2 ^ 31 - 1 then 0
      else accountingGetIntervalLength acct - timeToExhaustBw
    if timeToConsider ≤ 0 then { acct with intervalWakeupTime := acct.intervalStartTime }
    else
      let offset : Nat := digest acct.intervalStartTime % 2 ^ 32 % timeToConsider.toNat
      { acct with intervalWakeupTime := acct.intervalStartTime + offset }

/-- `configure_accounting(now)`. An interval whose start moved by at most half its length is
kept; the two other branches log differently and both start a new interval. `delta` is the
quotient of two integers, computed exactly. -/
def configureAccounting (digest : Int → Nat) (acct : AccountingState) (now : Int) :
    AccountingState :=
  let acct := if acct.intervalStartTime = 0 then readBandwidthUsage acct else acct
  let sNow := startOfAccountingPeriodContaining cfg now
  let acct :=
    if acct.intervalStartTime = 0 then resetAccounting cfg options acct now
    else if sNow = acct.intervalStartTime then
      { acct with intervalEndTime := startOfAccountingPeriodAfter cfg acct.intervalStartTime }
    else
      let duration := lengthOfAccountingPeriodContaining cfg acct.intervalStartTime
      let delta : ℚ := (sNow - acct.intervalStartTime : ℚ) / duration
      if -1 / 2 ≤ delta ∧ delta ≤ 1 / 2 then
        { acct with intervalEndTime := startOfAccountingPeriodAfter cfg now }
      else resetAccounting cfg options acct now
  accountingSetWakeupTime options digest acct

/-- `ROUND_UP(x)`: `((x) + 0x3ff) & ~0x3ff` on a `uint64_t`. -/
def roundUp (x : Nat) : Nat :=
  (x + 0x3ff) % 2 ^ 64 / 1024 * 1024

/-- `accounting_record_bandwidth_usage(now, get_or_state())`. -/
def accountingRecordBandwidthUsage (acct : AccountingState) : AccountingState :=
  { acct with
    orState := {
      accountingIntervalStart := acct.intervalStartTime
      accountingBytesReadInInterval := roundUp acct.nBytesReadInInterval
      accountingBytesWrittenInInterval := roundUp acct.nBytesWrittenInInterval
      accountingSecondsActive := int32OfInt acct.nSecondsActiveInInterval
      accountingExpectedUsage := acct.expectedBandwidthUsage
      accountingSecondsToReachSoftLimit := acct.nSecondsToHitSoftLimit
      accountingSoftLimitHitAt := acct.softLimitHitAt
      accountingBytesAtSoftLimit := acct.nBytesAtSoftLimit } }

/-- `time_to_record_bandwidth_usage(now)`: every `NOTE_INTERVAL` seconds, every `NOTE_BYTES`
read or written, and once the interval is over. -/
def timeToRecordBandwidthUsage (acct : AccountingState) (now : Int) : Bool × AccountingState :=
  if acct.lastTimeNoted + 600 ≤ now ∨
      (acct.lastReadBytesNoted + 20971520) % 2 ^ 64 ≤ acct.nBytesReadInInterval ∨
      (acct.lastWrittenBytesNoted + 20971520) % 2 ^ 64 ≤ acct.nBytesWrittenInInterval ∨
      (acct.intervalEndTime ≠ 0 ∧ acct.intervalEndTime ≤ now) then
    (true, { acct with
      lastTimeNoted := now
      lastReadBytesNoted := acct.nBytesReadInInterval
      lastWrittenBytesNoted := acct.nBytesWrittenInInterval })
  else (false, acct)

/-- `accounting_run_housekeeping(now)`. -/
def accountingRunHousekeeping (digest : Int → Nat) (acct : AccountingState) (now : Int) :
    AccountingState :=
  let acct :=
    if now ≥ acct.intervalEndTime then configureAccounting cfg options digest acct now else acct
  let noted := timeToRecordBandwidthUsage acct now
  if noted.1 then accountingRecordBandwidthUsage noted.2 else noted.2

/-- `accounting_add_bytes(n_read, n_written, seconds)`. -/
def accountingAddBytes (acct : AccountingState) (nRead nWritten : Nat) (seconds : Int) :
    AccountingState :=
  { acct with
    nBytesReadInInterval := (acct.nBytesReadInInterval + nRead) % 2 ^ 64
    nBytesWrittenInInterval := (acct.nBytesWrittenInInterval + nWritten) % 2 ^ 64
    nSecondsActiveInInterval :=
      ((acct.nSecondsActiveInInterval + if seconds < 10 then seconds else 0) % 2 ^ 32).toNat }

/-- `hibernate_hard_limit_reached`. -/
def hibernateHardLimitReached (acct : AccountingState) : Bool :=
  options.accountingMax ≠ 0 ∧ options.accountingMax ≤ getAccountingBytes options acct

end Accounting

/-- `n / p` rounded to the nearest integer, ties to even. -/
def roundHalfEven (n p : Nat) : Nat :=
  if 2 * (n % p) < p then n / p
  else if p < 2 * (n % p) then n / p + 1
  else if n / p % 2 = 0 then n / p else n / p + 1

/-- The `double` nearest the integer `n`: `n` rounded to 53 significant bits, ties to even. -/
def roundToDouble (n : Nat) : Nat :=
  if n < 2 ^ 53 then n
  else roundHalfEven n (2 ^ (n.log2 + 1 - 53)) * 2 ^ (n.log2 + 1 - 53)

/-- `(uint64_t)(acct_max * SOFT_LIM_PCT)`. `SOFT_LIM_PCT` is the `double` nearest `.95`,
`8556839292003942 / 2^53`; `acct_max` is rounded to a `double`, the product is rounded again,
and the cast truncates. Both roundings keep 53 bits, so they commute with the scaling by `2^53`. -/
def softLimitOfPct (acctMax : Nat) : Nat :=
  roundToDouble (roundToDouble acctMax * 8556839292003942) / 2 ^ 53

/-- `hibernate_soft_limit_reached`: the soft limit is the largest of 95% of `AccountingMax`,
`SOFT_LIM_BYTES` below it, and the bytes of `SOFT_LIM_MINUTES` at the expected rate below it;
a soft limit of `0` is never reached. -/
def hibernateSoftLimitReached (options : HibernateOptions) (acct : AccountingState) : Bool :=
  let acctMax := options.accountingMax
  let softLimit := softLimitOfPct acctMax
  let softLimit :=
    if acctMax > 524288000 ∧ acctMax - 524288000 > softLimit then acctMax - 524288000 else softLimit
  let softLimit :=
    if acct.expectedBandwidthUsage ≠ 0 then
      let expectedUsage := acct.expectedBandwidthUsage * 180 % 2 ^ 64
      if acctMax > expectedUsage ∧ acctMax - expectedUsage > softLimit then acctMax - expectedUsage
      else softLimit
    else softLimit
  softLimit ≠ 0 ∧ softLimit ≤ getAccountingBytes options acct

/-! ## The interval -/

section Interval

variable {cfg : AccountingCfg} {options : HibernateOptions} {digest : Int → Nat}

/-- `accounting_set_wakeup_time` sets the wakeup time and nothing else. -/
theorem accountingSetWakeupTime_eq (acct : AccountingState) :
    accountingSetWakeupTime options digest acct =
      { acct with intervalWakeupTime := (accountingSetWakeupTime options digest acct).intervalWakeupTime } := by
  unfold accountingSetWakeupTime
  dsimp only
  split_ifs <;> rfl

@[simp] private theorem accountingSetWakeupTime_intervalEndTime (acct : AccountingState) :
    (accountingSetWakeupTime options digest acct).intervalEndTime = acct.intervalEndTime := by
  rw [accountingSetWakeupTime_eq]

@[simp] private theorem resetAccounting_intervalEndTime (acct : AccountingState) (now : Int) :
    (resetAccounting cfg options acct now).intervalEndTime =
      startOfAccountingPeriodAfter cfg (startOfAccountingPeriodContaining cfg now) :=
  rfl

/-- Whichever branch it takes, `configure_accounting(now)` leaves an interval that ends after
`now`. -/
theorem configureAccounting_lt_end (valid : cfg.Valid) (acct : AccountingState) (now : Int) :
    now < (configureAccounting cfg options digest acct now).intervalEndTime := by
  have laws := periodLaws valid now
  unfold configureAccounting
  dsimp only
  rw [accountingSetWakeupTime_intervalEndTime]
  generalize (if acct.intervalStartTime = 0 then readBandwidthUsage acct else acct) = read
  have reset : now < (resetAccounting cfg options read now).intervalEndTime := by
    rw [resetAccounting_intervalEndTime, laws.start_after]; exact laws.lt_after
  split_ifs with fresh continuing
  · exact reset
  · show now < startOfAccountingPeriodAfter cfg read.intervalStartTime
    rw [← continuing, laws.start_after]; exact laws.lt_after
  · exact laws.lt_after
  · exact reset

/-- Without a wrap of `(AccountingMax / expected_bandwidth_usage) * 60`, the wakeup time keeps
the budget inside the interval: a budget that outlasts the interval wakes at its start, and a
shorter one wakes early enough to be spent before its end. -/
theorem accountingSetWakeupTime_budget (acct : AccountingState)
    (expected : acct.expectedBandwidthUsage ≠ 0)
    (noWrap : options.accountingMax / acct.expectedBandwidthUsage * 60 < 2 ^ 64)
    (interval : 0 ≤ acct.intervalEndTime - acct.intervalStartTime ∧
      acct.intervalEndTime - acct.intervalStartTime < 2 ^ 31) :
    (acct.intervalEndTime - acct.intervalStartTime ≤
        ((options.accountingMax / acct.expectedBandwidthUsage * 60 : Nat) : Int) →
      (accountingSetWakeupTime options digest acct).intervalWakeupTime = acct.intervalStartTime) ∧
    (((options.accountingMax / acct.expectedBandwidthUsage * 60 : Nat) : Int) <
        acct.intervalEndTime - acct.intervalStartTime →
      acct.intervalStartTime ≤ (accountingSetWakeupTime options digest acct).intervalWakeupTime ∧
        (accountingSetWakeupTime options digest acct).intervalWakeupTime +
          ((options.accountingMax / acct.expectedBandwidthUsage * 60 : Nat) : Int) <
            acct.intervalEndTime) := by
  have length : accountingGetIntervalLength acct = acct.intervalEndTime - acct.intervalStartTime :=
    int32OfInt_of_lt (by omega) interval.2
  unfold accountingSetWakeupTime
  rw [if_neg expected]
  dsimp only
  rw [Nat.mod_eq_of_lt noWrap, length]
  generalize options.accountingMax / acct.expectedBandwidthUsage * 60 = budget at *
  split_ifs with clamped spent
  · dsimp only; omega
  · omega
  · dsimp only; omega
  · have offset := Nat.mod_lt (digest acct.intervalStartTime % 2 ^ 32)
      (show 0 < (acct.intervalEndTime - acct.intervalStartTime - budget).toNat by omega)
    dsimp only; omega

/-- Recording the usage keeps the end of the interval. -/
@[simp] theorem accountingRecordBandwidthUsage_intervalEndTime (acct : AccountingState) :
    (accountingRecordBandwidthUsage acct).intervalEndTime = acct.intervalEndTime :=
  rfl

/-- Recording the usage keeps the wakeup time. -/
@[simp] theorem accountingRecordBandwidthUsage_intervalWakeupTime (acct : AccountingState) :
    (accountingRecordBandwidthUsage acct).intervalWakeupTime = acct.intervalWakeupTime :=
  rfl

/-- Recording the usage keeps the bytes read. -/
@[simp] theorem accountingRecordBandwidthUsage_nBytesReadInInterval (acct : AccountingState) :
    (accountingRecordBandwidthUsage acct).nBytesReadInInterval = acct.nBytesReadInInterval :=
  rfl

/-- Recording the usage keeps the bytes written. -/
@[simp] theorem accountingRecordBandwidthUsage_nBytesWrittenInInterval (acct : AccountingState) :
    (accountingRecordBandwidthUsage acct).nBytesWrittenInInterval = acct.nBytesWrittenInInterval :=
  rfl

@[simp] private theorem timeToRecordBandwidthUsage_intervalEndTime (acct : AccountingState) (now : Int) :
    (timeToRecordBandwidthUsage acct now).2.intervalEndTime = acct.intervalEndTime := by
  unfold timeToRecordBandwidthUsage; split_ifs <;> rfl

/-- After `accounting_run_housekeeping(now)` the interval ends after `now`: it is reconfigured
once `now` reaches its end. -/
theorem accountingRunHousekeeping_lt_end (valid : cfg.Valid) (acct : AccountingState) (now : Int) :
    now < (accountingRunHousekeeping cfg options digest acct now).intervalEndTime := by
  have configured : now < (configureAccounting cfg options digest acct now).intervalEndTime :=
    configureAccounting_lt_end valid acct now
  unfold accountingRunHousekeeping
  dsimp only
  split_ifs with due <;>
    simp only [accountingRecordBandwidthUsage_intervalEndTime, timeToRecordBandwidthUsage_intervalEndTime] <;>
    omega

end Interval

/-- An interval of one day from 2023-11-14 00:00 UTC, with an expected rate of one byte a
minute and nothing else counted yet. -/
def dayIntervalAtOneByte : AccountingState :=
  ⟨0, 0, 0, 0, 0, 0, 1699920000, 1699920000 + 86400, 0, 1, 0, 0, 0, ⟨0, 0, 0, 0, 0, 0, 0, 0⟩⟩

/-- `307445734561825861 * 60` is `2^64 + 44`: with that `AccountingMax` the product wraps to
`44` seconds, so a budget that outlasts the day gets the wakeup time one second after the
start (for the digest word `1`), not the start itself. -/
theorem accountingSetWakeupTime_wraps :
    86400 ≤ 307445734561825861 / 1 * 60 ∧
      (accountingSetWakeupTime ⟨307445734561825861, .acctSum, 0, 0, 30⟩ (fun _ => 1)
          dayIntervalAtOneByte).intervalWakeupTime =
        dayIntervalAtOneByte.intervalStartTime + 1 :=
  ⟨by norm_num, by decide⟩

/-! ## The soft limit -/

private theorem roundHalfEven_cases (n p : Nat) :
    roundHalfEven n p = n / p ∨ roundHalfEven n p = n / p + 1 := by
  unfold roundHalfEven; split_ifs <;> simp

/-- Rounding to a `double` moves an integer by less than one part in `2^52`. -/
theorem roundToDouble_bounds (n : Nat) :
    n * (2 ^ 52 - 1) ≤ roundToDouble n * 2 ^ 52 ∧ roundToDouble n * 2 ^ 52 ≤ n * (2 ^ 52 + 1) := by
  unfold roundToDouble
  split_ifs with small
  · omega
  have nonzero : n ≠ 0 := by omega
  have low := Nat.log2_self_le nonzero
  have high : n < 2 ^ (n.log2 + 1) := Nat.lt_log2_self
  have wide : 53 ≤ n.log2 := (Nat.le_log2 nonzero).mpr (by omega)
  have ulp : 2 ^ n.log2 = 2 ^ 52 * 2 ^ (n.log2 + 1 - 53) := by
    rw [← Nat.pow_add]; congr 1; omega
  generalize 2 ^ (n.log2 + 1 - 53) = ulpSize at *
  have division := Nat.div_add_mod n ulpSize
  have remainder := Nat.mod_lt n (show 0 < ulpSize by omega)
  rcases roundHalfEven_cases n ulpSize with down | up
  · rw [down, Nat.mul_comm (n / ulpSize)]; omega
  · rw [up, Nat.add_mul, Nat.mul_comm (n / ulpSize), Nat.one_mul]; omega

/-- For an `AccountingMax` of at least one byte, 95% of it is below it. -/
theorem softLimitOfPct_lt {acctMax : Nat} (pos : 1 ≤ acctMax) : softLimitOfPct acctMax < acctMax := by
  unfold softLimitOfPct
  have first := roundToDouble_bounds acctMax
  have second := roundToDouble_bounds (roundToDouble acctMax * 8556839292003942)
  rw [Nat.div_lt_iff_lt_mul (by norm_num)]
  generalize roundToDouble acctMax = rounded at *
  generalize roundToDouble (rounded * 8556839292003942) = product at *
  omega

/-- From two bytes on, 95% of `AccountingMax` is at least one byte. -/
theorem one_le_softLimitOfPct {acctMax : Nat} (two : 2 ≤ acctMax) : 1 ≤ softLimitOfPct acctMax := by
  unfold softLimitOfPct
  have first := roundToDouble_bounds acctMax
  have second := roundToDouble_bounds (roundToDouble acctMax * 8556839292003942)
  rw [Nat.le_div_iff_mul_le (by norm_num)]
  generalize roundToDouble acctMax = rounded at *
  generalize roundToDouble (rounded * 8556839292003942) = product at *
  omega

/-- For one byte, `(uint64_t)(1 * .95)` is `0`. -/
theorem softLimitOfPct_one : softLimitOfPct 1 = 0 := by
  decide

section Limits

variable {options : HibernateOptions} {acct : AccountingState}

/-- From two bytes on, reaching `AccountingMax` reaches the soft limit: each candidate for it is
at least one byte and below `AccountingMax`. -/
theorem hibernateSoftLimitReached_of_hard (two : 2 ≤ options.accountingMax)
    (hard : hibernateHardLimitReached options acct = true) :
    hibernateSoftLimitReached options acct = true := by
  have below := softLimitOfPct_lt (show 1 ≤ options.accountingMax by omega)
  have positive := one_le_softLimitOfPct two
  simp only [hibernateHardLimitReached, decide_eq_true_eq] at hard
  unfold hibernateSoftLimitReached
  simp only [decide_eq_true_eq]
  split_ifs <;> omega

/-- With an `AccountingMax` of one byte and no expected rate the soft limit is `0`, which is
never reached. -/
theorem hibernateSoftLimitReached_one (one : options.accountingMax = 1)
    (noRate : acct.expectedBandwidthUsage = 0) : hibernateSoftLimitReached options acct = false := by
  simp [hibernateSoftLimitReached, one, softLimitOfPct_one, noRate]

end Limits

end Nuon.Hibernate
