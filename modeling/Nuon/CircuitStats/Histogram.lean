import Nuon.CircuitStats.StateFile

/-!
# Circuit build times: what the histogram keeps

`create_histogram` sees a stored time only through its bin, and skips empty slots and abandoned
circuits. So what `update_state` writes depends on the array only through the total, the number of
abandoned circuits, and the bins of the other times taken as a multiset
(`circuitBuildTimesUpdateState_eq_of_perm`). Loading the histogram back expands each bin into
copies of one time (`expandBins`); `expandBins_histogram` says those are the bins again, one time
for each counted one.
-/

namespace Nuon.CircuitStats

variable {P : CbtParams}

/-- The bin the histogram counts a stored time in; none for an empty slot or an abandoned
circuit. -/
def binOf (P : CbtParams) (t : Nat) : Option Nat :=
  if t = 0 ∨ t = P.buildAbandoned then none else some (t / P.binWidth)

/-- The histogram counts a stored time in bin `t / CBT_BIN_WIDTH` unless it is empty or abandoned.
-/
theorem binOf_eq_some {t b : Nat} :
    binOf P t = some b ↔ t ≠ 0 ∧ t ≠ P.buildAbandoned ∧ t / P.binWidth = b := by
  unfold binOf
  split_ifs with skipped <;> simp only [reduceCtorEq, false_iff, Option.some.injEq] <;> omega

/-- Empty slots and abandoned circuits have no bin. -/
theorem filterMap_binOf_replicate {v : Nat} (skipped : v = 0 ∨ v = P.buildAbandoned) (n : Nat) :
    (List.replicate n v).filterMap (binOf P) = [] := by
  induction n with
  | zero => rfl
  | succ n inductionHypothesis =>
    have noBin : binOf P v = none := if_pos skipped
    rw [List.replicate_succ, List.filterMap_cons_none noBin, inductionHypothesis]

/-- `histogram[bin]++`. -/
def addBin (histogram : List Nat) (bin : Nat) : List Nat :=
  histogram.modify (· + 1) bin

/-- The times a histogram loads back: `count` copies of `f bin` for each bin, in bin order. -/
def expandBins (f : Nat → Nat) (bin : Nat) : List Nat → List Nat
  | [] => []
  | count :: counts => List.replicate count (f bin) ++ expandBins f (bin + 1) counts

/-- The histogram of a multiset of bins: one slot per bin up to the largest. -/
def binHistogram (bins : List Nat) : List Nat :=
  bins.foldl addBin (List.replicate (1 + bins.foldl max 0) 0)

/-! ## The histogram depends on the bins only -/

private theorem addBin_comm (histogram : List Nat) (a b : Nat) :
    addBin (addBin histogram a) b = addBin (addBin histogram b) a := by
  apply List.ext_getElem?
  intro k
  simp only [addBin, List.getElem?_modify]
  cases histogram[k]? <;> simp
  split_ifs <;> rfl

@[simp] private theorem length_addBin (histogram : List Nat) (bin : Nat) :
    (addBin histogram bin).length = histogram.length :=
  List.length_modify _ _ _

private theorem foldl_histogramAdd (histogram times : List Nat) :
    times.foldl (histogramAdd P) histogram = (times.filterMap (binOf P)).foldl addBin histogram := by
  induction times generalizing histogram with
  | nil => rfl
  | cons t times inductionHypothesis =>
    rw [List.foldl_cons, inductionHypothesis]
    unfold histogramAdd binOf
    split_ifs <;> simp_all [addBin]

private theorem foldl_maxBuildTimeStep_div (start : Nat) (times : List Nat) :
    times.foldl (maxBuildTimeStep P) start / P.binWidth =
      (times.filterMap (binOf P)).foldl max (start / P.binWidth) := by
  induction times generalizing start with
  | nil => rfl
  | cons t times inductionHypothesis =>
    rw [List.foldl_cons, inductionHypothesis]
    by_cases counted : t = 0 ∨ t = P.buildAbandoned
    · have skipped : binOf P t = none := if_pos counted
      rw [List.filterMap_cons_none skipped, maxBuildTimeStep, if_neg (by omega)]
    · have bin : binOf P t = some (t / P.binWidth) := if_neg counted
      rw [List.filterMap_cons_some bin, List.foldl_cons, maxBuildTimeStep]
      congr 1
      split_ifs with larger
      · have := Nat.div_le_div_right (c := P.binWidth) larger.1.le
        omega
      · have := Nat.div_le_div_right (c := P.binWidth) (not_lt.mp fun lt => larger ⟨lt, by omega⟩)
        omega

/-- `create_histogram` is the histogram of the bins of the stored times. -/
theorem circuitBuildTimesCreateHistogram_eq (cbt : CircuitBuildTimes P) :
    circuitBuildTimesCreateHistogram cbt =
      (binHistogram (cbt.circuitBuildTimes.filterMap (binOf P)),
        1 + (cbt.circuitBuildTimes.filterMap (binOf P)).foldl max 0) := by
  unfold circuitBuildTimesCreateHistogram binHistogram circuitBuildTimesMax
  dsimp only
  rw [foldl_histogramAdd, foldl_maxBuildTimeStep_div, Nat.zero_div]

private theorem binHistogram_perm {bins bins' : List Nat} (perm : List.Perm bins bins') :
    binHistogram bins = binHistogram bins' := by
  have sameMax : bins.foldl max 0 = bins'.foldl max 0 :=
    perm.foldl_eq' (fun _ _ _ _ _ => by simp only [Nat.max_def]; split_ifs <;> omega) 0
  unfold binHistogram
  rw [sameMax, perm.foldl_eq' (fun _ _ _ _ _ => addBin_comm _ _ _)]

/-- What `update_state` writes depends on the array only through the total, the abandoned count
and the multiset of bins. -/
theorem circuitBuildTimesUpdateState_eq_of_perm {cbt cbt' : CircuitBuildTimes P}
    (total : cbt'.totalBuildTimes = cbt.totalBuildTimes)
    (abandoned : cbt'.circuitBuildTimes.count P.buildAbandoned =
      cbt.circuitBuildTimes.count P.buildAbandoned)
    (bins : List.Perm (cbt'.circuitBuildTimes.filterMap (binOf P))
      (cbt.circuitBuildTimes.filterMap (binOf P))) :
    circuitBuildTimesUpdateState cbt' = circuitBuildTimesUpdateState cbt := by
  simp only [circuitBuildTimesUpdateState, circuitBuildTimesCreateHistogram_eq, total, abandoned,
    binHistogram_perm bins]

/-! ## Expanding the histogram -/

@[simp] private theorem expandBins_replicate_zero (f : Nat → Nat) (bin n : Nat) :
    expandBins f bin (List.replicate n 0) = [] := by
  induction n generalizing bin with
  | zero => rfl
  | succ n inductionHypothesis => simp [List.replicate_succ, expandBins, inductionHypothesis]

private theorem expandBins_addBin (f : Nat → Nat) (bin : Nat) (histogram : List Nat) {i : Nat}
    (lt : i < histogram.length) :
    List.Perm (expandBins f bin (addBin histogram i)) (f (bin + i) :: expandBins f bin histogram) := by
  induction histogram generalizing bin i with
  | nil => simp at lt
  | cons count counts inductionHypothesis =>
    cases i with
    | zero => simp [addBin, expandBins, List.replicate_succ]
    | succ i =>
      have rest := inductionHypothesis (bin + 1) (i := i) (by simpa using lt)
      simp only [addBin, List.modify_succ_cons, expandBins] at rest ⊢
      rw [show bin + (i + 1) = bin + 1 + i by omega]
      exact (rest.append_left _).trans List.perm_middle

private theorem expandBins_foldl_addBin (f : Nat → Nat) (histogram bins : List Nat)
    (inRange : ∀ b ∈ bins, b < histogram.length) :
    List.Perm (expandBins f 0 (bins.foldl addBin histogram))
      (bins.map f ++ expandBins f 0 histogram) := by
  induction bins generalizing histogram with
  | nil => rfl
  | cons b bins inductionHypothesis =>
    have rest := inductionHypothesis (addBin histogram b) fun c member => by
      simpa using inRange c (List.mem_cons_of_mem b member)
    have added := expandBins_addBin f 0 histogram (inRange b (List.mem_cons_self b bins))
    rw [Nat.zero_add] at added
    exact rest.trans ((added.append_left _).trans List.perm_middle)

/-- Every element is at most the maximum the fold computes. -/
theorem le_foldl_max {bins : List Nat} {start b : Nat} (member : b ∈ start :: bins) :
    b ≤ bins.foldl max start := by
  induction bins generalizing start b with
  | nil => simp_all
  | cons c bins inductionHypothesis =>
    rw [List.foldl_cons]
    rcases List.mem_cons.mp member with rfl | member
    · exact (le_max_left b c).trans (inductionHypothesis (List.mem_cons_self (max b c) bins))
    rcases List.mem_cons.mp member with rfl | member
    · exact (le_max_right start b).trans (inductionHypothesis (List.mem_cons_self (max start b) bins))
    · exact inductionHypothesis (List.mem_cons_of_mem _ member)

/-- Expanding the histogram of a multiset of bins gives one time per bin. -/
theorem expandBins_binHistogram (f : Nat → Nat) (bins : List Nat) :
    List.Perm (expandBins f 0 (binHistogram bins)) (bins.map f) := by
  unfold binHistogram
  have expanded := expandBins_foldl_addBin f (List.replicate (1 + bins.foldl max 0) 0) bins
    fun b member => by simpa using Nat.lt_one_add_iff.mpr (le_foldl_max (List.mem_cons_of_mem 0 member))
  simpa using expanded

/-- An expanded histogram holds as many times as the histogram counts. -/
@[simp] theorem length_expandBins (f : Nat → Nat) (bin : Nat) (histogram : List Nat) :
    (expandBins f bin histogram).length = histogram.sum := by
  induction histogram generalizing bin with
  | nil => rfl
  | cons count counts inductionHypothesis => simp [expandBins, inductionHypothesis]

/-- The bins of the stored times are the bins of the counted ones. -/
theorem filterMap_binOf (times : List Nat) :
    times.filterMap (binOf P) =
      (times.filter fun t => t ≠ 0 ∧ t ≠ P.buildAbandoned).map (· / P.binWidth) := by
  induction times with
  | nil => rfl
  | cons t times inductionHypothesis =>
    by_cases counted : t ≠ 0 ∧ t ≠ P.buildAbandoned
    · have bin : binOf P t = some (t / P.binWidth) := if_neg (by omega)
      rw [List.filterMap_cons_some bin, List.filter_cons_of_pos (by simpa using counted),
        List.map_cons, inductionHypothesis]
    · have skipped : binOf P t = none := if_pos (by omega)
      rw [List.filterMap_cons_none skipped, inductionHypothesis,
        List.filter_cons_of_neg (by simpa using counted)]

/-- A used slot is either counted in a bin or abandoned. -/
theorem countP_ne_zero_eq (abandonedPos : 0 < P.buildAbandoned) (times : List Nat) :
    times.countP (· ≠ 0) = (times.filterMap (binOf P)).length + times.count P.buildAbandoned := by
  induction times with
  | nil => rfl
  | cons t times inductionHypothesis =>
    rw [List.countP_cons, List.count_cons, inductionHypothesis]
    by_cases counted : t = 0 ∨ t = P.buildAbandoned
    · have skipped : binOf P t = none := if_pos counted
      rw [List.filterMap_cons_none skipped]
      rcases counted with rfl | rfl
      · simp [abandonedPos.ne]
      · simp [abandonedPos.ne']
        omega
    · have bin : binOf P t = some (t / P.binWidth) := if_neg counted
      rw [List.filterMap_cons_some bin, List.length_cons]
      simp only [ne_eq, decide_not, beq_iff_eq]
      split_ifs <;> simp_all
      omega

/-! ## Size and total -/

@[simp] private theorem length_foldl_addBin (histogram bins : List Nat) :
    (bins.foldl addBin histogram).length = histogram.length := by
  induction bins generalizing histogram with
  | nil => rfl
  | cons b bins inductionHypothesis => rw [List.foldl_cons, inductionHypothesis, length_addBin]

/-- The histogram of a multiset of bins has one slot per bin up to the largest... -/
theorem length_binHistogram (bins : List Nat) :
    (binHistogram bins).length = 1 + bins.foldl max 0 := by
  rw [binHistogram, length_foldl_addBin, List.length_replicate]

/-- ... and counts each bin once. -/
theorem sum_binHistogram (bins : List Nat) : (binHistogram bins).sum = bins.length := by
  have counted := (expandBins_binHistogram id bins).length_eq
  rwa [length_expandBins, List.length_map] at counted

end Nuon.CircuitStats
