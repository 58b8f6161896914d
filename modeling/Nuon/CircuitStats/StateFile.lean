import Nuon.CircuitStats.Estimate

/-!
# Circuit build times: the state file

The history survives restarts as three entries of the state file: `TotalBuildTimes`,
`CircuitBuildAbandonedCount` and one `CircuitBuildTimeBin` line per non-empty histogram bin,
holding the bin midpoint and its count. `circuit_build_times_update_state` writes them;
`circuit_build_times_parse_state` expands the bins back into a list of times, shuffles it with
Fisher–Yates and replays it through `circuit_build_times_add_time`. The shuffle's random draws are
an argument. Writing past the `TotalBuildTimes`-element load buffer is undefined (`none`).
-/

namespace Nuon.CircuitStats

variable {P : CbtParams}

/-- A `config_line_t` of the state file. -/
structure ConfigLine where
  key : List Char
  value : List Char
  deriving Repr, DecidableEq

/-- The fields of `or_state_t` that hold the build-time history. -/
structure OrState where
  totalBuildTimes : Nat
  circuitBuildAbandonedCount : Nat
  buildtimeHistogram : List ConfigLine
  deriving Repr, DecidableEq

/-- A 32-bit unsigned value as `printf("%d")` reads it: as a signed `int`. -/
def int32OfUInt32 (v : Nat) : Int :=
  if v < 2 ^ 31 then v else (v : Int) - 2 ^ 32

/-- Modelled from the spec: `printf("%d")`. -/
def printfD (i : Int) : List Char :=
  if 0 ≤ i then decimalChars i.toNat else '-' :: decimalChars (-i).toNat

/-- The `CircuitBuildTimeBin` line `update_state` writes for bin `i` with `count` times. -/
def histogramLine (P : CbtParams) (bin count : Nat) : ConfigLine :=
  ⟨"CircuitBuildTimeBin".toList,
    printfD (int32OfUInt32 (cbtBinToMs P bin)) ++ ' ' :: printfD (int32OfUInt32 count)⟩

/-- The loop of `update_state` over the histogram, whose first entry is bin `bin`: one line per
non-empty bin, skipping the blanks. -/
def histogramLines (P : CbtParams) (bin : Nat) : List Nat → List ConfigLine
  | [] => []
  | count :: counts =>
    if count = 0 then histogramLines P (bin + 1) counts
    else histogramLine P bin count :: histogramLines P (bin + 1) counts

/-- `circuit_build_times_update_state`: write the total, the number of abandoned circuits and the
compressed histogram. -/
def circuitBuildTimesUpdateState (cbt : CircuitBuildTimes P) : OrState :=
  { totalBuildTimes := cbt.totalBuildTimes
    circuitBuildAbandonedCount := cbt.circuitBuildTimes.count P.buildAbandoned
    buildtimeHistogram := histogramLines P 0 (circuitBuildTimesCreateHistogram cbt).1 }

/-- Modelled from the spec: `crypto_rand_int(max)`: a draw in `[0, max)`, chosen by `rand`. -/
def cryptoRandInt (rand : Nat → Nat) (max : Nat) : Nat :=
  rand max % max

/-- Exchange the entries at `i` and `j`. -/
def swapEntries (l : List Nat) (i j : Nat) : List Nat :=
  (l.set i (l.getD j 0)).set j (l.getD i 0)

/-- The Fisher–Yates loop `while (n-- > 1)`: for `j` from the top index down to `1`, swap entry
`j` with an entry drawn from `[0, j]`. -/
def shuffleDown (rand : Nat → Nat) : Nat → List Nat → List Nat
  | 0, raw => raw
  | j + 1, raw => shuffleDown rand j (swapEntries raw (cryptoRandInt rand (j + 2)) (j + 1))

/-- The times `circuit_build_times_shuffle_and_store_array` passes to `add_time`: the first
`CBT_NCIRCUITS_TO_OBSERVE` of the shuffled array. -/
def shuffledPrefix (P : CbtParams) (rawTimes : List Nat) (numTimes : Nat) (rand : Nat → Nat) :
    List Nat :=
  let n := min numTimes (int32Max - 1).toNat
  (shuffleDown rand (n - 1) rawTimes).take (min numTimes P.ncircuitsToObserve)

/-- `circuit_build_times_shuffle_and_store_array`: shuffle the loaded times and add the first
`CBT_NCIRCUITS_TO_OBSERVE` of them. -/
def circuitBuildTimesShuffleAndStoreArray (cbt : CircuitBuildTimes P) (rawTimes : List Nat)
    (numTimes : Nat) (rand : Nat → Nat) : CircuitBuildTimes P :=
  (shuffledPrefix P rawTimes numTimes rand).foldl (fun acc t => (circuitBuildTimesAddTime acc t).1)
    cbt

/-- Write `values` after the `loaded` prefix of a buffer of `capacity` elements; a write past the
buffer is undefined. -/
def storeLoaded (capacity : Nat) (loaded values : List Nat) : Option (List Nat) :=
  if loaded.length + values.length ≤ capacity then some (loaded ++ values) else none

/-- The line loop of `circuit_build_times_parse_state`: expand each `ms count` line into `count`
copies of `ms`. A malformed line stops the loop with the error flag set; a line whose count would
overrun `TotalBuildTimes` (summed in 32-bit arithmetic with the abandoned count) stops it without.
Returns the loaded times and the error flag. -/
def parseHistogramLines (P : CbtParams) (total abandoned : Nat) :
    List ConfigLine → List Nat → Option (List Nat × Bool)
  | [], loaded => some (loaded, false)
  | line :: lines, loaded =>
    match smartlistSplitString line.value [' '] true true with
    | msStr :: countStr :: _ =>
      let ms := torParseULong msStr 0 P.buildTimeMax false
      let count := torParseULong countStr 0 (2 ^ 32 - 1) false
      if !ms.ok then some (loaded, true)
      else if !count.ok then some (loaded, true)
      else if total < (loaded.length + count.value + abandoned) % 2 ^ 32 then some (loaded, false)
      else do
        let loaded ← storeLoaded total loaded (List.replicate count.value (ms.value % 2 ^ 32))
        parseHistogramLines P total abandoned lines loaded
    | _ => some (loaded, true)

/-- The loading part of `circuit_build_times_parse_state`: the histogram lines, then
`CircuitBuildAbandonedCount` abandoned times. Returns the loaded times and the line error flag. -/
def circuitBuildTimesLoadState (P : CbtParams) (state : OrState) :
    Option (List Nat × Bool) := do
  let (loaded, lineError) ← parseHistogramLines P state.totalBuildTimes
    state.circuitBuildAbandonedCount state.buildtimeHistogram []
  let loaded ← storeLoaded state.totalBuildTimes loaded
    (List.replicate state.circuitBuildAbandonedCount P.buildAbandoned)
  return (loaded, lineError)

/-- The verification after the shuffle: the number of leading non-zero slots. -/
def leadingValues (cbt : CircuitBuildTimes P) : Nat :=
  (cbt.circuitBuildTimes.takeWhile (· ≠ 0)).length

/-- `circuit_build_times_parse_state`: re-initialise, then load the histogram of `state`, replay it
in shuffled order and recompute the timeout. A count mismatch resets the history and returns
`-1`; a malformed line also returns `-1`. -/
def circuitBuildTimesParseState (P : CbtParams) (state : OrState) (env : CbtEnv) (libm : Libm)
    (rand : Nat → Nat) : Option (CircuitBuildTimes P × Int) :=
  (circuitBuildTimesInit P env).bind fun cbt =>
    if env.disabled then some (cbt, 0)
    else (circuitBuildTimesLoadState P state).bind fun (loaded, lineError) =>
      if loaded.length ≠ state.totalBuildTimes then some (circuitBuildTimesReset cbt, -1)
      else
        let cbt := circuitBuildTimesShuffleAndStoreArray cbt loaded loaded.length rand
        if cbt.totalBuildTimes ≠ leadingValues cbt ∨ P.ncircuitsToObserve < cbt.totalBuildTimes then
          some (circuitBuildTimesReset cbt, -1)
        else
          (circuitBuildTimesSetTimeout cbt env libm).map fun cbt =>
            (cbt, if lineError then -1 else 0)

/-! ## Writes to the load buffer -/

/-- Without bin lines only the abandoned loop writes: it fills the buffer from slot `0`. -/
theorem circuitBuildTimesLoadState_noLines (total abandoned : Nat) :
    circuitBuildTimesLoadState P ⟨total, abandoned, []⟩ =
      if abandoned ≤ total then some (List.replicate abandoned P.buildAbandoned, false)
      else none := by
  by_cases stored : abandoned ≤ total <;>
    simp [circuitBuildTimesLoadState, parseHistogramLines, storeLoaded, stored]

/-- `parse_state` allocates `TotalBuildTimes` slots and checks each bin line against them, but its
loop over `CircuitBuildAbandonedCount` has no check: on a state without bin lines it writes past
the buffer exactly when there are more abandoned circuits than the total. -/
theorem circuitBuildTimesParseState_noLines_eq_none_iff {total abandoned : Nat} {env : CbtEnv}
    (learning : env.disabled = false) (clamped : env.Clamped) (libm : Libm) (rand : Nat → Nat) :
    circuitBuildTimesParseState P ⟨total, abandoned, []⟩ env libm rand = none ↔
      total < abandoned := by
  obtain ⟨cbt, init⟩ := Option.isSome_iff_exists.mp (circuitBuildTimesInit_isSome P clamped)
  simp only [circuitBuildTimesParseState, init, Option.some_bind, learning, Bool.false_eq_true,
    if_false, circuitBuildTimesLoadState_noLines]
  by_cases stored : abandoned ≤ total
  · simp only [if_pos stored, Option.some_bind, Nat.not_lt.mpr stored, iff_false,
      Option.ne_none_iff_isSome]
    split_ifs <;> simp only [Option.isSome_some, Option.isSome_map',
      circuitBuildTimesSetTimeout_isSome _ libm clamped]
  · simp only [if_neg stored, Option.none_bind, true_iff]
    omega

/-- A state with no history but one abandoned circuit: `parse_state` stores
`CBT_BUILD_ABANDONED` in slot `0` of a zero-length buffer. -/
theorem circuitBuildTimesParseState_abandonedPastBuffer (libm : Libm) (rand : Nat → Nat) :
    circuitBuildTimesParseState P ⟨0, 1, []⟩ ⟨false, 0, 20, 0, 10, 0, 80, 95, 0, 0, 0⟩ libm rand =
      none :=
  (circuitBuildTimesParseState_noLines_eq_none_iff rfl ⟨by decide, by decide, by decide, by decide,
    by decide⟩ libm rand).mpr (by decide)

end Nuon.CircuitStats
