import Nuon.CircuitStats.Window
import Nuon.CircuitStats.Histogram
import Mathlib.Algebra.Order.BigOperators.Group.List
import Mathlib.Data.List.FinRange
import Mathlib.Logic.Equiv.Basic

/-!
# Circuit build times: saving and loading the history

`update_state` writes the history as a histogram; `parse_state` reads the lines back, expands each
bin into copies of its midpoint, shuffles the times and replays them through `add_time`. From
any reachable state with learning on, the load succeeds, keeps the count and the abandoned
circuits, and moves every other time to the midpoint of its bin; saving again writes the same
state (`circuitBuildTimes_stateFile_roundTrip`).

The constants of the missing `circuitstats.h` are parameters, and the round trip needs three
facts of them (`CbtParams.StateFileSafe`): counts and times fit a signed 32-bit `%d`,
`CBT_BUILD_ABANDONED` is not the empty slot `0`, and the midpoint of a bin holding an acceptable
time is itself acceptable and not `CBT_BUILD_ABANDONED`.
-/

namespace Nuon.CircuitStats

variable {P : CbtParams}

/-- What the state file needs of the constants: `%d` prints counts and times as written, an
abandoned circuit is not an empty slot, and bin midpoints load back as ordinary times. -/
structure CbtParams.StateFileSafe (P : CbtParams) : Prop where
  ncircuitsToObserve_lt : P.ncircuitsToObserve < 2 ^ 31 - 1
  buildTimeMax_lt : P.buildTimeMax < 2 ^ 31
  buildAbandoned_pos : 0 < P.buildAbandoned
  midpoint_le : ∀ t ≤ P.buildTimeMax,
    t / P.binWidth * P.binWidth + P.binWidth / 2 ≤ P.buildTimeMax
  midpoint_ne : ∀ t ≤ P.buildTimeMax,
    t / P.binWidth * P.binWidth + P.binWidth / 2 ≠ P.buildAbandoned

/-- The midpoint of the bin of an acceptable time is acceptable and falls in the same bin. -/
theorem CbtParams.StateFileSafe.midpoint {t : Nat} (safe : P.StateFileSafe)
    (le : t ≤ P.buildTimeMax) (used : t ≠ 0) :
    cbtBinToMs P (t / P.binWidth) ≤ P.buildTimeMax ∧
      binOf P (cbtBinToMs P (t / P.binWidth)) = some (t / P.binWidth) := by
  have width := P.binWidth_pos
  have bound := safe.midpoint_le t le
  have noWrap : cbtBinToMs P (t / P.binWidth) = t / P.binWidth * P.binWidth + P.binWidth / 2 :=
    Nat.mod_eq_of_lt (by have := safe.buildTimeMax_lt; omega)
  have positive : t / P.binWidth * P.binWidth + P.binWidth / 2 ≠ 0 := by
    rcases Nat.lt_or_ge P.binWidth 2 with narrow | wide
    · rw [show P.binWidth = 1 by omega, Nat.div_one, Nat.mul_one]
      omega
    · have : 1 ≤ P.binWidth / 2 := (Nat.le_div_iff_mul_le (by omega)).mpr (by omega)
      omega
  have sameBin : (t / P.binWidth * P.binWidth + P.binWidth / 2) / P.binWidth = t / P.binWidth := by
    rw [Nat.add_comm, Nat.add_mul_div_right _ _ width, Nat.div_eq_of_lt (Nat.div_lt_self width
      (by norm_num)), Nat.zero_add]
  rw [noWrap]
  refine ⟨bound, ?_⟩
  rw [binOf, if_neg (not_or.mpr ⟨positive, safe.midpoint_ne t le⟩), sameBin]

/-! ## Loading the lines -/

/-- `%d` prints a 32-bit value below `2^31` as `%u` does. -/
theorem printfD_int32OfUInt32 {v : Nat} (small : v < 2 ^ 31) :
    printfD (int32OfUInt32 v) = decimalChars v := by
  unfold printfD int32OfUInt32
  rw [if_pos small, if_pos (Int.natCast_nonneg v), Int.toNat_natCast]

/-- The lines of a histogram load back as its expansion, when every loaded time is acceptable
and the counts fit `TotalBuildTimes`. -/
theorem parseHistogramLines_histogramLines {total abandoned : Nat}
    (maxLt : P.buildTimeMax < 2 ^ 31) (totalLt : total < 2 ^ 32) (bin : Nat)
    (histogram loaded : List Nat)
    (acceptable : ∀ t ∈ expandBins (cbtBinToMs P) bin histogram, t ≤ P.buildTimeMax)
    (counts : ∀ c ∈ histogram, c < 2 ^ 31)
    (fits : loaded.length + histogram.sum + abandoned ≤ total) :
    parseHistogramLines P total abandoned (histogramLines P bin histogram) loaded =
      some (loaded ++ expandBins (cbtBinToMs P) bin histogram, false) := by
  induction histogram generalizing bin loaded with
  | nil => simp [histogramLines, parseHistogramLines, expandBins]
  | cons count rest inductionHypothesis =>
    have restCounts := fun c member => counts c (List.mem_cons_of_mem count member)
    have restAcceptable : ∀ t ∈ expandBins (cbtBinToMs P) (bin + 1) rest, t ≤ P.buildTimeMax :=
      fun t member => acceptable t (by simp [expandBins, member])
    by_cases empty : count = 0
    · subst empty
      simp only [histogramLines, if_true, expandBins, List.replicate_zero, List.nil_append]
      exact inductionHypothesis _ _ restAcceptable restCounts (by simp at fits; omega)
    · have msLe : cbtBinToMs P bin ≤ P.buildTimeMax :=
        acceptable _ (by simp [expandBins, empty])
      have countLt := counts count (List.mem_cons_self count rest)
      have sum : (count :: rest).sum = count + rest.sum := List.sum_cons
      simp only [histogramLines, if_neg empty, parseHistogramLines, histogramLine,
        printfD_int32OfUInt32 (show cbtBinToMs P bin < 2 ^ 31 by omega),
        printfD_int32OfUInt32 countLt, smartlistSplitString_decimalPair,
        torParseULong_decimalChars (Nat.zero_le _) msLe (by omega),
        torParseULong_decimalChars (Nat.zero_le _) (show count ≤ 2 ^ 32 - 1 by omega) (by omega),
        Bool.not_true, Bool.false_eq_true, if_false]
      rw [if_neg (by rw [Nat.mod_eq_of_lt (by omega)]; omega)]
      have stored : storeLoaded total loaded (List.replicate count (cbtBinToMs P bin % 2 ^ 32)) =
          some (loaded ++ List.replicate count (cbtBinToMs P bin)) := by
        rw [Nat.mod_eq_of_lt (by omega), storeLoaded, if_pos (by simp; omega)]
      rw [stored]
      exact (inductionHypothesis _ _ restAcceptable restCounts (by simp; omega)).trans
        (by simp [expandBins])

/-- What `update_state` wrote loads back as the expanded histogram and the abandoned circuits,
without a line error. -/
theorem circuitBuildTimesLoadState_updateState {cbt : CircuitBuildTimes P}
    (maxLt : P.buildTimeMax < 2 ^ 31) (totalLt : cbt.totalBuildTimes < 2 ^ 32)
    (acceptable : ∀ t ∈ expandBins (cbtBinToMs P) 0 (circuitBuildTimesCreateHistogram cbt).1,
      t ≤ P.buildTimeMax)
    (counts : ∀ c ∈ (circuitBuildTimesCreateHistogram cbt).1, c < 2 ^ 31)
    (fits : (circuitBuildTimesCreateHistogram cbt).1.sum +
      cbt.circuitBuildTimes.count P.buildAbandoned = cbt.totalBuildTimes) :
    circuitBuildTimesLoadState P (circuitBuildTimesUpdateState cbt) =
      some (expandBins (cbtBinToMs P) 0 (circuitBuildTimesCreateHistogram cbt).1 ++
        List.replicate (cbt.circuitBuildTimes.count P.buildAbandoned) P.buildAbandoned, false) := by
  unfold circuitBuildTimesLoadState
  simp only [circuitBuildTimesUpdateState]
  rw [parseHistogramLines_histogramLines maxLt totalLt 0 _ [] acceptable counts (by simp; omega)]
  simp [storeLoaded, fits.symm.le, ← fits]

/-! ## The shuffle -/

/-- Exchanging two entries permutes the list. -/
theorem swapEntries_perm {l : List Nat} {i j : Nat} (hi : i < l.length) (hj : j < l.length) :
    List.Perm (swapEntries l i j) l := by
  let σ : Equiv.Perm (Fin l.length) := Equiv.swap ⟨i, hi⟩ ⟨j, hj⟩
  have swapped : swapEntries l i j = List.ofFn fun k => l[(σ k : Fin l.length)] := by
    apply List.ext_getElem (by simp [swapEntries])
    intro k inSwapped _
    simp only [swapEntries, List.length_set] at inSwapped
    simp only [swapEntries, List.getElem_set, List.getElem_ofFn, σ, Equiv.swap_apply_def,
      List.getD_eq_getElem _ _ hi, List.getD_eq_getElem _ _ hj, Fin.ext_iff]
    split_ifs <;> (try subst_vars) <;> first | rfl | omega
  rw [swapped]
  exact (σ.ofFn_comp_perm fun k => l[k]).trans (by simp)

/-- The Fisher–Yates loop permutes the list. -/
theorem shuffleDown_perm (rand : Nat → Nat) {j : Nat} {raw : List Nat} (lt : j < raw.length) :
    List.Perm (shuffleDown rand j raw) raw := by
  induction j generalizing raw with
  | zero => rfl
  | succ j inductionHypothesis =>
    have pick : cryptoRandInt rand (j + 2) < raw.length :=
      (Nat.mod_lt _ (by omega)).trans_le (by omega)
    have swapped := swapEntries_perm pick lt
    exact (inductionHypothesis (by rw [swapped.length_eq]; omega)).trans swapped

/-- When the loaded times fit the buffer, all of them are replayed, in shuffled order. -/
theorem shuffledPrefix_perm (rand : Nat → Nat) {rawTimes : List Nat}
    (small : rawTimes.length ≤ P.ncircuitsToObserve)
    (fits : rawTimes.length < 2 ^ 31 - 1) :
    List.Perm (shuffledPrefix P rawTimes rawTimes.length rand) rawTimes := by
  unfold shuffledPrefix
  rw [Nat.min_eq_left (by simp only [int32Max]; omega), Nat.min_eq_left small]
  rcases Nat.eq_zero_or_pos rawTimes.length with empty | nonempty
  · rw [List.length_eq_zero.mp empty]
    rfl
  · have shuffled : List.Perm (shuffleDown rand (rawTimes.length - 1) rawTimes) rawTimes :=
      shuffleDown_perm rand (by omega)
    rw [List.take_of_length_le shuffled.length_eq.le]
    exact shuffled

/-- Replaying acceptable times accepts every one of them. -/
theorem foldl_acceptSample {times : List Nat}
    (acceptable : ∀ t ∈ times, t ≠ 0 ∧ t ≤ P.buildTimeMax) (samples : List Nat) :
    times.foldl (fun samples t => acceptSample P t samples) samples = times.reverse ++ samples := by
  induction times generalizing samples with
  | nil => rfl
  | cons t times inductionHypothesis =>
    have accepted := acceptable t (List.mem_cons_self t times)
    rw [List.foldl_cons, acceptSample, if_neg (by omega),
      inductionHypothesis fun u member => acceptable u (List.mem_cons_of_mem t member)]
    simp

/-! ## The round trip -/

/-- The times `parse_state` loads from what `update_state` wrote: the expanded histogram, then
the abandoned circuits. -/
def savedTimes (cbt : CircuitBuildTimes P) : List Nat :=
  expandBins (cbtBinToMs P) 0 (circuitBuildTimesCreateHistogram cbt).1 ++
    List.replicate (cbt.circuitBuildTimes.count P.buildAbandoned) P.buildAbandoned

/-- The loaded times are the bin midpoints of the counted times and the abandoned circuits. -/
theorem savedTimes_perm (cbt : CircuitBuildTimes P) :
    List.Perm (savedTimes cbt)
      ((cbt.circuitBuildTimes.filterMap (binOf P)).map (cbtBinToMs P) ++
        List.replicate (cbt.circuitBuildTimes.count P.buildAbandoned) P.buildAbandoned) := by
  unfold savedTimes
  rw [circuitBuildTimesCreateHistogram_eq]
  exact (expandBins_binHistogram _ _).append_right _

private theorem filterMap_binOf_map {bins : List Nat}
    (same : ∀ b ∈ bins, binOf P (cbtBinToMs P b) = some b) :
    (bins.map (cbtBinToMs P)).filterMap (binOf P) = bins := by
  induction bins with
  | nil => rfl
  | cons b bins inductionHypothesis =>
    rw [List.map_cons, List.filterMap_cons_some (same b (List.mem_cons_self b bins)),
      inductionHypothesis fun c member => same c (List.mem_cons_of_mem b member)]

section Reachable

variable {cbt : CircuitBuildTimes P} {samples : List Nat}

/-- The midpoint of the bin of a stored time is an acceptable time of that bin. -/
theorem RingWindow.midpoint_of_bin (safe : P.StateFileSafe) (invariant : RingWindow cbt samples)
    {b : Nat} (member : b ∈ cbt.circuitBuildTimes.filterMap (binOf P)) :
    cbtBinToMs P b ≤ P.buildTimeMax ∧ binOf P (cbtBinToMs P b) = some b := by
  obtain ⟨t, stored, bin⟩ := List.mem_filterMap.mp member
  obtain ⟨used, -, rfl⟩ := binOf_eq_some.mp bin
  exact safe.midpoint (invariant.times_le_max t stored) used

/-- Every loaded time is acceptable to `add_time`. -/
theorem RingWindow.savedTimes_acceptable (safe : P.StateFileSafe)
    (invariant : RingWindow cbt samples) : ∀ t ∈ savedTimes cbt, t ≠ 0 ∧ t ≤ P.buildTimeMax := by
  intro t member
  rcases List.mem_append.mp ((savedTimes_perm cbt).subset member) with midpoint | abandoned
  · obtain ⟨b, bin, rfl⟩ := List.mem_map.mp midpoint
    obtain ⟨le, some⟩ := invariant.midpoint_of_bin safe bin
    exact ⟨(binOf_eq_some.mp some).1, le⟩
  · obtain ⟨present, rfl⟩ := List.mem_replicate.mp abandoned
    exact ⟨safe.buildAbandoned_pos.ne',
      invariant.times_le_max _ (List.count_pos_iff.mp (Nat.pos_of_ne_zero present))⟩

/-- As many times load as `total_build_times` counts. -/
theorem RingWindow.length_savedTimes (safe : P.StateFileSafe)
    (invariant : RingWindow cbt samples) : (savedTimes cbt).length = cbt.totalBuildTimes := by
  rw [(savedTimes_perm cbt).length_eq, List.length_append, List.length_map, List.length_replicate,
    ← countP_ne_zero_eq safe.buildAbandoned_pos, invariant.countP_eq]

/-- What `update_state` wrote loads back as `savedTimes`, without a line error. -/
theorem RingWindow.loadState_updateState (safe : P.StateFileSafe)
    (invariant : RingWindow cbt samples) :
    circuitBuildTimesLoadState P (circuitBuildTimesUpdateState cbt) = some (savedTimes cbt, false) := by
  have length := invariant.length_savedTimes safe
  have total : cbt.totalBuildTimes ≤ P.ncircuitsToObserve := by
    rw [invariant.total_eq]
    exact Nat.min_le_right _ _
  have small := safe.ncircuitsToObserve_lt
  simp only [savedTimes, List.length_append, length_expandBins, List.length_replicate] at length
  exact circuitBuildTimesLoadState_updateState safe.buildTimeMax_lt (by omega)
    (fun t member => (invariant.savedTimes_acceptable safe t (List.mem_append_left _ member)).2)
    (fun c member => by have := List.le_sum_of_mem member; omega) length

/-- From a reachable state, with learning on and clamped parameters, `parse_state` loads what
`update_state` wrote and returns `0`: the new buffer holds the loaded times and empty slots. -/
theorem RingWindow.parseState_updateState (safe : P.StateFileSafe)
    (invariant : RingWindow cbt samples) {env : CbtEnv} (learning : env.disabled = false)
    (clamped : env.Clamped) (libm : Libm) (rand : Nat → Nat) :
    ∃ loaded : CircuitBuildTimes P,
      circuitBuildTimesParseState P (circuitBuildTimesUpdateState cbt) env libm rand =
        some (loaded, 0) ∧
      loaded.totalBuildTimes = cbt.totalBuildTimes ∧
      List.Perm loaded.circuitBuildTimes
        (savedTimes cbt ++ List.replicate (P.ncircuitsToObserve - cbt.totalBuildTimes) 0) := by
  have length := invariant.length_savedTimes safe
  have total : cbt.totalBuildTimes ≤ P.ncircuitsToObserve := by
    rw [invariant.total_eq]
    exact Nat.min_le_right _ _
  have small := safe.ncircuitsToObserve_lt
  obtain ⟨fresh, init⟩ := Option.isSome_iff_exists.mp (circuitBuildTimesInit_isSome P clamped)
  have start : RingWindow fresh [] := ringWindow_zero.of_ring_eq (init_ring init)
  have shuffled : List.Perm (shuffledPrefix P (savedTimes cbt) (savedTimes cbt).length rand)
      (savedTimes cbt) := shuffledPrefix_perm rand (by omega) (by omega)
  have stored : RingWindow
      (circuitBuildTimesShuffleAndStoreArray fresh (savedTimes cbt) (savedTimes cbt).length rand)
      (shuffledPrefix P (savedTimes cbt) (savedTimes cbt).length rand).reverse := by
    have replayed := start.addTimes (shuffledPrefix P (savedTimes cbt) (savedTimes cbt).length rand)
    rwa [foldl_acceptSample (fun t member => invariant.savedTimes_acceptable safe t
      (shuffled.subset member)), List.append_nil] at replayed
  have reversedLength :
      (shuffledPrefix P (savedTimes cbt) (savedTimes cbt).length rand).reverse.length =
        cbt.totalBuildTimes := by
    rw [List.length_reverse, shuffled.length_eq, length]
  have storedTotal : (circuitBuildTimesShuffleAndStoreArray fresh (savedTimes cbt)
      (savedTimes cbt).length rand).totalBuildTimes = cbt.totalBuildTimes := by
    rw [stored.total_eq, reversedLength, Nat.min_eq_left total]
  obtain ⟨final, set⟩ := Option.isSome_iff_exists.mp
    (circuitBuildTimesSetTimeout_isSome
      (circuitBuildTimesShuffleAndStoreArray fresh (savedTimes cbt) (savedTimes cbt).length rand)
      libm clamped)
  have same := setTimeout_ring set
  simp only [CircuitBuildTimes.ring, Prod.mk.injEq] at same
  obtain ⟨times, -, finalTotal⟩ := same
  refine ⟨final, ?_, finalTotal.trans storedTotal, ?_⟩
  · unfold circuitBuildTimesParseState
    rw [init, Option.some_bind, if_neg (by simp [learning]), invariant.loadState_updateState safe,
      Option.some_bind]
    dsimp only
    have written : (circuitBuildTimesUpdateState cbt).totalBuildTimes = cbt.totalBuildTimes := rfl
    rw [if_neg (by omega), if_neg (by rw [stored.leadingValues_eq]; omega), set]
    rfl
  · rw [times]
    refine stored.times_perm.trans ?_
    rw [window, reversedLength, Nat.min_eq_left total,
      List.take_of_length_le (reversedLength ▸ total)]
    exact ((List.reverse_perm _).trans shuffled).append_right _

end Reachable

/-- Saving a reachable history and loading it back with learning on returns `0`, keeps the total
and the abandoned circuits, and replaces every other time by the midpoint of its bin; saving again
writes the same state. -/
theorem circuitBuildTimes_stateFile_roundTrip (safe : P.StateFileSafe) {libm : Libm}
    {cbt : CircuitBuildTimes P} {samples : List Nat} (reachable : WindowReachable P libm cbt samples)
    {env : CbtEnv} (learning : env.disabled = false) (clamped : env.Clamped) (libm' : Libm)
    (rand : Nat → Nat) :
    ∃ loaded : CircuitBuildTimes P,
      circuitBuildTimesParseState P (circuitBuildTimesUpdateState cbt) env libm' rand =
        some (loaded, 0) ∧
      loaded.totalBuildTimes = cbt.totalBuildTimes ∧
      loaded.circuitBuildTimes.count P.buildAbandoned =
        cbt.circuitBuildTimes.count P.buildAbandoned ∧
      List.Perm (loaded.circuitBuildTimes.filter fun t => t ≠ 0 ∧ t ≠ P.buildAbandoned)
        ((cbt.circuitBuildTimes.filter fun t => t ≠ 0 ∧ t ≠ P.buildAbandoned).map
          fun t => cbtBinToMs P (t / P.binWidth)) ∧
      circuitBuildTimesUpdateState loaded = circuitBuildTimesUpdateState cbt := by
  have invariant := reachable.ringWindow
  obtain ⟨loaded, parsed, total, times⟩ :=
    invariant.parseState_updateState safe learning clamped libm' rand
  have midpoints : ∀ b ∈ cbt.circuitBuildTimes.filterMap (binOf P),
      binOf P (cbtBinToMs P b) = some b := fun b member => (invariant.midpoint_of_bin safe member).2
  have abandonedPos := safe.buildAbandoned_pos
  have contents := times.trans ((savedTimes_perm cbt).append_right _)
  have abandoned : loaded.circuitBuildTimes.count P.buildAbandoned =
      cbt.circuitBuildTimes.count P.buildAbandoned := by
    have noMidpoint : (List.map (cbtBinToMs P) (cbt.circuitBuildTimes.filterMap (binOf P))).count
        P.buildAbandoned = 0 := by
      refine List.count_eq_zero.mpr fun member => ?_
      obtain ⟨b, bin, same⟩ := List.mem_map.mp member
      exact (binOf_eq_some.mp (midpoints b bin)).2.1 same
    rw [contents.count_eq]
    simp only [List.count_append, List.count_replicate_self, List.count_replicate, noMidpoint,
      beq_iff_eq, abandonedPos.ne, if_false]
    omega
  have bins : List.Perm (loaded.circuitBuildTimes.filterMap (binOf P))
      (cbt.circuitBuildTimes.filterMap (binOf P)) := by
    refine (contents.filterMap _).trans ?_
    rw [List.filterMap_append, List.filterMap_append, filterMap_binOf_map midpoints,
      filterMap_binOf_replicate (Or.inr rfl), filterMap_binOf_replicate (Or.inl rfl)]
    simp
  refine ⟨loaded, parsed, total, abandoned, ?_,
    circuitBuildTimesUpdateState_eq_of_perm total abandoned bins⟩
  refine (contents.filter _).trans ?_
  have counted : ∀ x ∈ List.map (cbtBinToMs P) (cbt.circuitBuildTimes.filterMap (binOf P)),
      decide (x ≠ 0 ∧ x ≠ P.buildAbandoned) = true := by
    intro x member
    obtain ⟨b, bin, rfl⟩ := List.mem_map.mp member
    obtain ⟨used, notAbandoned, -⟩ := binOf_eq_some.mp (midpoints b bin)
    exact decide_eq_true ⟨used, notAbandoned⟩
  rw [List.filter_append, List.filter_append, List.filter_eq_self.mpr counted,
    filterMap_binOf, List.map_map]
  simp [List.filter_replicate, abandonedPos.ne']
  rfl

/-- The constants of `smallCbtParams` suit the state file. -/
theorem smallCbtParams_stateFileSafe : smallCbtParams.StateFileSafe where
  ncircuitsToObserve_lt := by decide
  buildTimeMax_lt := by decide
  buildAbandoned_pos := by decide
  midpoint_le t le := by simp only [smallCbtParams] at le ⊢; omega
  midpoint_ne t le := by simp only [smallCbtParams] at le ⊢; omega

/-- A learning environment with clamped parameters. -/
def learningCbtEnv : CbtEnv :=
  ⟨false, 0, 20, 0, 10, 0, 80, 95, 0, 0, 0⟩

/-- The state after two accepted build times. -/
def twoTimesState : CircuitBuildTimes smallCbtParams :=
  (circuitBuildTimesAddTime (circuitBuildTimesAddTime (CircuitBuildTimes.zero _) 1234).1 2000).1

/-- The round trip from the state after two accepted build times. -/
theorem circuitBuildTimes_stateFile_roundTrip_twoTimes :
    ∃ loaded : CircuitBuildTimes smallCbtParams,
      circuitBuildTimesParseState smallCbtParams (circuitBuildTimesUpdateState twoTimesState)
          learningCbtEnv ⟨fun _ => 0, fun _ _ => 1⟩ (fun _ => 0) = some (loaded, 0) ∧
      loaded.totalBuildTimes = twoTimesState.totalBuildTimes ∧
      loaded.circuitBuildTimes.count smallCbtParams.buildAbandoned =
        twoTimesState.circuitBuildTimes.count smallCbtParams.buildAbandoned ∧
      List.Perm
        (loaded.circuitBuildTimes.filter fun t => t ≠ 0 ∧ t ≠ smallCbtParams.buildAbandoned)
        ((twoTimesState.circuitBuildTimes.filter
            fun t => t ≠ 0 ∧ t ≠ smallCbtParams.buildAbandoned).map
          fun t => cbtBinToMs smallCbtParams (t / smallCbtParams.binWidth)) ∧
      circuitBuildTimesUpdateState loaded = circuitBuildTimesUpdateState twoTimesState :=
  circuitBuildTimes_stateFile_roundTrip smallCbtParams_stateFileSafe
    ((WindowReachable.zero.step
        (show cbtStep smallCbtParams ⟨fun _ => 0, fun _ _ => 1⟩ _ (.addTime 1234) = some _
          from rfl)).step
      (show cbtStep smallCbtParams ⟨fun _ => 0, fun _ _ => 1⟩ _ (.addTime 2000) =
        some twoTimesState from rfl))
    rfl ⟨by decide, by decide, by decide, by decide, by decide⟩ _ _

end Nuon.CircuitStats
