import Nuon.CircuitStats.Histogram
import Nuon.CircuitStats.Run
import Mathlib.Data.List.GetD

/-!
# Circuit build times: the arithmetic of `Xm`

`circuit_build_times_get_xm` sums `CBT_BIN_TO_MS(bin) * histogram[bin]` over the selected modes
in `build_time_t`, a `uint32_t`. When the history holds its times in a single bin, the search for
each mode is the same fold (`nthMaxBin_single`): the first round takes that bin and every later
one adds nothing, so `Xm` is the 32-bit product divided by the count (`circuitBuildTimesGetXm_single`).
Without a wrap that is the bin midpoint; three times of two billion milliseconds wrap the product
and put `Xm` far below the only midpoint (`circuitBuildTimesGetXm_wraps`).

Every index is in bounds, for every history: `create_histogram` counts each time in a bin below
`nbins`, and each round of `get_xm` reads and clears a bin below it
(`circuitBuildTimesCreateHistogram_bounds`).
-/

namespace Nuon.CircuitStats

variable {P : CbtParams}

/-! ## A histogram with one non-empty bin -/

private theorem foldl_max_replicate (b s k : Nat) : (List.replicate (k + 1) b).foldl max s = max s b := by
  induction k generalizing s with
  | zero => rfl
  | succ k inductionHypothesis =>
    rw [List.replicate_succ, List.foldl_cons, inductionHypothesis, max_assoc, max_self]

private theorem addBin_single (b j : Nat) :
    addBin (List.replicate b 0 ++ [j]) b = List.replicate b 0 ++ [j + 1] := by
  induction b with
  | zero => rfl
  | succ b inductionHypothesis =>
    simp only [addBin, List.replicate_succ, List.cons_append, List.modify_succ_cons] at *
    rw [inductionHypothesis]

/-- The histogram of `k` times in bin `b`: `b` empty bins, then `k`. -/
theorem binHistogram_replicate (b k : Nat) :
    binHistogram (List.replicate (k + 1) b) = List.replicate b 0 ++ [k + 1] := by
  unfold binHistogram
  rw [foldl_max_replicate, Nat.zero_max, Nat.add_comm, List.replicate_succ']
  generalize k + 1 = n
  induction n with
  | zero => rfl
  | succ n inductionHypothesis => rw [List.replicate_succ', List.foldl_append, inductionHypothesis]; exact addBin_single b n

private theorem getD_single (b k i : Nat) :
    (List.replicate b 0 ++ [k]).getD i 0 = if i = b then k else 0 := by
  induction b generalizing i with
  | zero => cases i <;> simp
  | succ b inductionHypothesis =>
    cases i with
    | zero => simp [List.replicate_succ]
    | succ i => simpa [List.replicate_succ] using inductionHypothesis i

private theorem set_single (b k : Nat) :
    (List.replicate b 0 ++ [k]).set b 0 = List.replicate (b + 1) 0 := by
  induction b with
  | zero => rfl
  | succ b inductionHypothesis =>
    rw [List.replicate_succ, List.cons_append, List.set_cons_succ, inductionHypothesis]
    rfl

/-- The mode search over the first `m` bins of a histogram whose only non-empty bin is `b`: it
keeps bin `0` until it reaches `b`, then keeps `b`. -/
theorem foldl_range_single {histogram : List Nat} {b k : Nat}
    (single : ∀ i, histogram.getD i 0 = if i = b then k else 0) (m : Nat) :
    (List.range m).foldl
        (fun best i => if histogram.getD best 0 < histogram.getD i 0 then i else best) 0 =
      if b < m ∧ 0 < k then b else 0 := by
  induction m with
  | zero => simp
  | succ m inductionHypothesis =>
    rw [List.range_succ, List.foldl_append, inductionHypothesis, List.foldl_cons, List.foldl_nil]
    have atZero := single 0
    have atM := single m
    by_cases reached : b < m ∧ 0 < k
    · have atB : histogram.getD b 0 = k := by rw [single, if_pos rfl]
      rw [if_pos reached, atB, atM, if_neg (show m ≠ b by omega), if_neg (Nat.not_lt_zero k),
        if_pos (show b < m + 1 ∧ 0 < k by omega)]
    rw [if_neg reached]
    by_cases here : m = b ∧ 0 < k
    · obtain ⟨rfl, pos⟩ := here
      rw [if_pos (show m < m + 1 ∧ 0 < k from ⟨Nat.lt_succ_self m, pos⟩), atM, if_pos rfl, atZero]
      by_cases zero : 0 = m
      · rw [if_pos zero, if_neg (lt_irrefl k), zero]
      · rw [if_neg zero, if_pos pos]
    · have empty : histogram.getD m 0 = 0 := by rw [atM]; split_ifs <;> omega
      rw [empty, if_neg (Nat.not_lt_zero _), if_neg (by omega)]

/-- So `nth_max_bin` of such a histogram is `b` when `b` holds a time, and `0` otherwise. -/
theorem nthMaxBin_single {histogram : List Nat} {b k nbins : Nat}
    (single : ∀ i, histogram.getD i 0 = if i = b then k else 0) (inRange : b < nbins) :
    nthMaxBin histogram nbins = if 0 < k then b else 0 := by
  unfold nthMaxBin
  rw [foldl_range_single single]
  simp [inRange]

/-- An empty histogram has its first mode at bin `0`. -/
theorem nthMaxBin_zeros (n nbins : Nat) : nthMaxBin (List.replicate n 0) nbins = 0 := by
  unfold nthMaxBin
  rw [foldl_range_single (b := 0) (k := 0) fun i => by simp [List.getElem?_getD_replicate_default_eq]]
  simp

/-! ## The mode loop -/

/-- A round on an empty histogram adds nothing to the counts or the sum. -/
theorem xmModeStep_zeros (nbins n xmCounts xmTotal round : Nat) :
    xmModeStep P nbins (List.replicate n 0, xmCounts, xmTotal) round =
      (List.replicate n 0, xmCounts, xmTotal % 2 ^ 32) := by
  simp [xmModeStep, nthMaxBin_zeros, List.getElem?_getD_replicate_default_eq]

private theorem foldl_xmModeStep_zeros (nbins n xmCounts : Nat) {xmTotal : Nat}
    (reduced : xmTotal < 2 ^ 32) (rounds : List Nat) :
    rounds.foldl (xmModeStep P nbins) (List.replicate n 0, xmCounts, xmTotal) =
      (List.replicate n 0, xmCounts, xmTotal) := by
  induction rounds with
  | nil => rfl
  | cons round rounds inductionHypothesis =>
    rw [List.foldl_cons, xmModeStep_zeros, Nat.mod_eq_of_lt reduced, inductionHypothesis]

/-- `get_xm` of a history whose `k + 1` counted times all fall in bin `b`: the first round takes
that bin and the later ones find the histogram empty, so `Xm` is the 32-bit product
`CBT_BIN_TO_MS(b) * (k + 1)` divided by the count, whatever the number of modes. -/
theorem circuitBuildTimesGetXm_single {cbt : CircuitBuildTimes P} {env : CbtEnv} {b k : Nat}
    (bins : cbt.circuitBuildTimes.filterMap (binOf P) = List.replicate (k + 1) b)
    (modes : 0 < env.numXmModes) :
    circuitBuildTimesGetXm cbt env = some (cbtBinToMs P b * (k + 1) % 2 ^ 32 / (k + 1)) := by
  have first : xmModeStep P (1 + b) (List.replicate b 0 ++ [k + 1], 0, 0) 0 =
      (List.replicate (b + 1) 0, k + 1, cbtBinToMs P b * (k + 1) % 2 ^ 32) := by
    simp only [xmModeStep, nthMaxBin_single (getD_single b (k + 1)) (by omega : b < 1 + b),
      if_pos (Nat.succ_pos k), getD_single, if_pos, set_single, Nat.zero_add, Nat.mod_mod]
  obtain ⟨rounds, modeCount⟩ : ∃ rounds, env.numXmModes.toNat = rounds + 1 :=
    ⟨env.numXmModes.toNat - 1, by omega⟩
  unfold circuitBuildTimesGetXm
  rw [circuitBuildTimesCreateHistogram_eq, bins, binHistogram_replicate, foldl_max_replicate,
    Nat.zero_max]
  dsimp only
  rw [if_neg (by omega), modeCount, List.range_succ_eq_map, List.foldl_cons, first,
    foldl_xmModeStep_zeros _ _ _ (Nat.mod_lt _ (by norm_num))]
  simp

/-- Without a wrap, `Xm` of a single-bin history is that bin's midpoint. -/
theorem circuitBuildTimesGetXm_single_of_lt {cbt : CircuitBuildTimes P} {env : CbtEnv} {b k : Nat}
    (bins : cbt.circuitBuildTimes.filterMap (binOf P) = List.replicate (k + 1) b)
    (modes : 0 < env.numXmModes) (noWrap : cbtBinToMs P b * (k + 1) < 2 ^ 32) :
    circuitBuildTimesGetXm cbt env = some (cbtBinToMs P b) := by
  rw [circuitBuildTimesGetXm_single bins modes, Nat.mod_eq_of_lt noWrap,
    Nat.mul_div_cancel _ (Nat.succ_pos k)]

/-- The history three `add_time` calls of two billion milliseconds leave: each time is below
`CBT_BUILD_TIME_MAX` and lies in bin `200000000`. -/
def slowHistory : CircuitBuildTimes smallCbtParams :=
  [2000000000, 2000000000, 2000000000].foldl (fun cbt t => (circuitBuildTimesAddTime cbt t).1)
    (CircuitBuildTimes.zero smallCbtParams)

/-- The three products `2000000005 * 3` wrap in `build_time_t`, so with one mode `get_xm` returns
`568344239`, far below `2000000005`, the midpoint of the only bin. -/
theorem circuitBuildTimesGetXm_wraps :
    circuitBuildTimesGetXm slowHistory ⟨false, 0, 20, 0, 1, 0, 80, 95, 0, 0, 0⟩ = some 568344239 ∧
      cbtBinToMs smallCbtParams 200000000 = 2000000005 :=
  ⟨circuitBuildTimesGetXm_single (k := 2) (b := 200000000) rfl (by decide), rfl⟩

/-! ## Indices -/

/-- The mode search stays among the first `nbins` bins: it starts at bin `0` and moves only to a
bin it visits. -/
theorem nthMaxBin_lt (histogram : List Nat) {nbins : Nat} (pos : 0 < nbins) :
    nthMaxBin histogram nbins < nbins := by
  suffices search : ∀ (visited : List Nat) (best : Nat), best < nbins →
      (∀ i ∈ visited, i < nbins) →
      visited.foldl (fun best i => if histogram.getD best 0 < histogram.getD i 0 then i else best)
        best < nbins from
    search _ 0 pos fun i => List.mem_range.mp
  intro visited
  induction visited with
  | nil => exact fun best inRange _ => inRange
  | cons i visited inductionHypothesis =>
    intro best inRange inVisited
    rw [List.foldl_cons]
    refine inductionHypothesis _ ?_ fun j member => inVisited j (List.mem_cons_of_mem i member)
    split_ifs
    · exact inVisited i (List.mem_cons_self i visited)
    · exact inRange

/-- A round of the mode loop clears a bin and keeps the histogram's length. -/
theorem length_foldl_xmModeStep (nbins : Nat) (acc : List Nat × Nat × Nat) (rounds : List Nat) :
    (rounds.foldl (xmModeStep P nbins) acc).1.length = acc.1.length := by
  induction rounds generalizing acc with
  | nil => rfl
  | cons round rounds inductionHypothesis =>
    rw [List.foldl_cons, inductionHypothesis, xmModeStep, List.length_set]

/-- `create_histogram` allocates `1 + max / CBT_BIN_WIDTH` bins, increments only below that and
counts each time other than `0` and `CBT_BUILD_ABANDONED` once; `CBT_BUILD_TIME_MAX` is counted
too, and raises the maximum with it. In every round of `get_xm` the histogram still has `nbins`
bins and the bin read and cleared is one of them. -/
theorem circuitBuildTimesCreateHistogram_bounds (cbt : CircuitBuildTimes P) :
    let histogram := (circuitBuildTimesCreateHistogram cbt).1
    let nbins := (circuitBuildTimesCreateHistogram cbt).2
    nbins = 1 + circuitBuildTimesMax cbt / P.binWidth ∧
      (∀ t ∈ cbt.circuitBuildTimes, t ≠ 0 → t ≠ P.buildAbandoned → t / P.binWidth < nbins) ∧
      histogram.length = nbins ∧
      histogram.sum = (cbt.circuitBuildTimes.filter fun t => t ≠ 0 ∧ t ≠ P.buildAbandoned).length ∧
      ∀ k, let round := ((List.range k).foldl (xmModeStep P nbins) (histogram, 0, 0)).1
        round.length = nbins ∧ nthMaxBin round nbins < nbins := by
  intro histogram nbins
  have created := circuitBuildTimesCreateHistogram_eq cbt
  have counts : histogram = binHistogram (cbt.circuitBuildTimes.filterMap (binOf P)) :=
    congrArg Prod.fst created
  have bins : nbins = 1 + (cbt.circuitBuildTimes.filterMap (binOf P)).foldl max 0 :=
    congrArg Prod.snd created
  have length : histogram.length = nbins := by rw [counts, bins, length_binHistogram]
  refine ⟨rfl, fun t member unused notAbandoned => ?_, length, ?_,
    fun k => ⟨by rw [length_foldl_xmModeStep]; exact length, nthMaxBin_lt _ (by omega)⟩⟩
  · have inBins : t / P.binWidth ∈ cbt.circuitBuildTimes.filterMap (binOf P) :=
      List.mem_filterMap.mpr ⟨t, member, binOf_eq_some.mpr ⟨unused, notAbandoned, rfl⟩⟩
    have := le_foldl_max (List.mem_cons_of_mem 0 inBins)
    omega
  · rw [counts, sum_binHistogram, filterMap_binOf, List.length_map]

end Nuon.CircuitStats
