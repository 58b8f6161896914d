import Nuon.CircuitStats.Run
import Mathlib.Data.List.GetD
import Mathlib.Data.List.Rotate

/-!
# The build-time history is a window over the accepted samples

`circuit_build_times[]`, `build_times_idx` and `total_build_times` form a ring buffer: `add_time`
writes at the index and steps it around the array, and `reset` (directly, through `init`, or
through `network_check_changed`) clears it. The abstract view is the list of samples accepted
since the last reset, newest first. `WindowReachable` runs the calls of `CbtOp` from the zeroed
global alongside that list, and `circuitBuildTimes_window` shows that in every reachable state
the buffer holds exactly the newest `CBT_NCIRCUITS_TO_OBSERVE` of them.

The proof works with the backward reading as one list: the array rotated to the index and
reversed is the window followed by empty slots (`RingWindow`).
-/

namespace Nuon.CircuitStats

variable {P : CbtParams}

/-! ## The abstract history -/

/-- `add_time`'s acceptance test applied to the history, newest first. -/
def acceptSample (P : CbtParams) (btime : Nat) (samples : List Nat) : List Nat :=
  if btime = 0 ∨ P.buildTimeMax < btime then samples else btime :: samples

/-- The samples `shuffle_and_store_array` gets accepted from a freshly initialised history. -/
def storedSamples (P : CbtParams) (rawTimes : List Nat) (rand : Nat → Nat) : List Nat :=
  (shuffledPrefix P rawTimes rawTimes.length rand).foldl (fun samples t => acceptSample P t samples)
    []

/-- The history `parse_state` leaves: what the replay accepted, or nothing when learning is off or
the loaded count does not match `TotalBuildTimes`. -/
def parseStateSamples (P : CbtParams) (state : OrState) (env : CbtEnv) (rand : Nat → Nat) :
    List Nat :=
  if env.disabled then []
  else match circuitBuildTimesLoadState P state with
    | some (loaded, _) =>
      if loaded.length ≠ state.totalBuildTimes then [] else storedSamples P loaded rand
    | none => []

/-- The history after one call: the samples its `add_time` calls accepted on top of `samples`,
or the empty history after a reset. -/
def windowStep (cbt : CircuitBuildTimes P) : CbtOp → List Nat → List Nat
  | .init _, _ => []
  | .addTime btime, samples => acceptSample P btime samples
  | .countClose env startTime, samples =>
    if env.disabled then samples
    else if circuitBuildTimesNetworkCheckLive (circuitBuildTimesNetworkClose cbt startTime) then
      acceptSample P P.buildAbandoned samples
    else samples
  | .countTimeout env didOnehop, samples =>
    if env.disabled then samples
    else match circuitBuildTimesNetworkTimeout cbt didOnehop with
      | some timedOut =>
        if (circuitBuildTimesNetworkCheckChanged timedOut env).2 then [] else samples
      | none => samples
  | .networkCheckChanged env, samples =>
    if (circuitBuildTimesNetworkCheckChanged cbt env).2 then [] else samples
  | .reset, _ => []
  | .parseState state env rand, _ => parseStateSamples P state env rand
  | _, samples => samples

/-- Reachable states paired with the samples accepted since the last reset. -/
inductive WindowReachable (P : CbtParams) (libm : Libm) :
    CircuitBuildTimes P → List Nat → Prop where
  | zero : WindowReachable P libm (CircuitBuildTimes.zero P) []
  | step {cbt next : CircuitBuildTimes P} {samples : List Nat} {op : CbtOp}
      (reachable : WindowReachable P libm cbt samples)
      (transition : cbtStep P libm cbt op = some next) :
      WindowReachable P libm next (windowStep cbt op samples)

/-! ## What the ring buffer holds -/

/-- The first `count` slots read backwards from `build_times_idx - 1`, wrapping at the end. -/
def readBackwards (cbt : CircuitBuildTimes P) (count : Nat) : List Nat :=
  (List.range count).map fun k =>
    cbt.circuitBuildTimes.getD
      ((cbt.buildTimesIdx + P.ncircuitsToObserve - 1 - k) % P.ncircuitsToObserve) 0

/-- The ring buffer represents the history `samples`: the index is in range, the count is the
number of samples kept and the number of used slots, and reading backwards from the index gives
the newest samples. -/
structure RingRepresents (cbt : CircuitBuildTimes P) (samples : List Nat) : Prop where
  idx_lt : cbt.buildTimesIdx < P.ncircuitsToObserve
  total_eq_min : cbt.totalBuildTimes = min samples.length P.ncircuitsToObserve
  total_eq_countP : cbt.totalBuildTimes = cbt.circuitBuildTimes.countP (· ≠ 0)
  readBackwards_eq : readBackwards cbt cbt.totalBuildTimes = samples.take P.ncircuitsToObserve

/-! ## The list form of the invariant -/

/-- The backward reading of a buffer holding `samples`: the newest samples, then empty slots. -/
def window (P : CbtParams) (samples : List Nat) : List Nat :=
  samples.take P.ncircuitsToObserve ++
    List.replicate (P.ncircuitsToObserve - min samples.length P.ncircuitsToObserve) 0

/-- The invariant proved by induction: the array rotated to the index and reversed is the
window of a history of accepted (non-zero) samples, and until the buffer is full the index is
the count. -/
structure RingWindow (cbt : CircuitBuildTimes P) (samples : List Nat) : Prop where
  idx_lt : cbt.buildTimesIdx < P.ncircuitsToObserve
  total_eq : cbt.totalBuildTimes = min samples.length P.ncircuitsToObserve
  idx_eq_total : cbt.totalBuildTimes < P.ncircuitsToObserve → cbt.buildTimesIdx = cbt.totalBuildTimes
  samples_ne_zero : ∀ x ∈ samples, x ≠ 0
  samples_le_max : ∀ x ∈ samples, x ≤ P.buildTimeMax
  rotate_reverse :
    (cbt.circuitBuildTimes.rotate cbt.buildTimesIdx).reverse = window P samples

/-- The three fields of the ring buffer. -/
def CircuitBuildTimes.ring (cbt : CircuitBuildTimes P) : List Nat × Nat × Nat :=
  (cbt.circuitBuildTimes, cbt.buildTimesIdx, cbt.totalBuildTimes)

/-- The invariant only reads the ring fields. -/
theorem RingWindow.of_ring_eq {cbt cbt' : CircuitBuildTimes P} {samples : List Nat}
    (same : cbt'.ring = cbt.ring) (invariant : RingWindow cbt samples) :
    RingWindow cbt' samples := by
  simp only [CircuitBuildTimes.ring, Prod.mk.injEq] at same
  obtain ⟨times, idx, total⟩ := same
  exact ⟨idx ▸ invariant.idx_lt, total ▸ invariant.total_eq,
    idx ▸ total ▸ invariant.idx_eq_total, invariant.samples_ne_zero, invariant.samples_le_max,
    times ▸ idx ▸ invariant.rotate_reverse⟩

/-- Writing slot `i` and stepping the index past it puts the new value first in the backward
reading and pushes the oldest slot out. -/
theorem rotate_set_succ_reverse {xs : List Nat} {i : Nat} (lt : i < xs.length) (v : Nat) :
    ((xs.set i v).rotate (i + 1)).reverse = v :: ((xs.rotate i).reverse).dropLast := by
  obtain ⟨pre, x, post, rfl, rfl⟩ : ∃ pre x post, xs = pre ++ x :: post ∧ pre.length = i :=
    ⟨xs.take i, xs[i], xs.drop (i + 1),
      by rw [← List.drop_eq_getElem_cons lt, List.take_append_drop], by simp; omega⟩
  have setEq : (pre ++ x :: post).set pre.length v = (pre ++ [v]) ++ post := by
    simp [List.set_append]
  rw [setEq, show pre.length + 1 = (pre ++ [v]).length by simp, List.rotate_append_length_eq,
    List.rotate_append_length_eq]
  simp [List.reverse_append]

/-- Pushing a sample onto the window drops the last slot. -/
theorem window_cons (v : Nat) (samples : List Nat) :
    v :: (window P samples).dropLast = window P (v :: samples) := by
  have pos := P.ncircuitsToObserve_pos
  unfold window
  by_cases short : samples.length < P.ncircuitsToObserve
  · rw [List.take_of_length_le short.le, List.take_of_length_le (by simp; omega),
      List.dropLast_append_of_ne_nil _ (by simp; omega), List.dropLast_replicate]
    have count : P.ncircuitsToObserve - min samples.length P.ncircuitsToObserve - 1 =
        P.ncircuitsToObserve - min (v :: samples).length P.ncircuitsToObserve := by
      rw [List.length_cons]
      omega
    rw [count, List.cons_append]
  · obtain ⟨m, hm⟩ : ∃ m, P.ncircuitsToObserve = m + 1 := ⟨P.ncircuitsToObserve - 1, by omega⟩
    rw [hm, show m + 1 - min samples.length (m + 1) = 0 by omega,
      show m + 1 - min (v :: samples).length (m + 1) = 0 by rw [List.length_cons]; omega]
    rw [List.take_succ_cons, List.replicate_zero, List.append_nil, List.append_nil,
      List.dropLast_eq_take, List.take_take, List.length_take]
    congr 2
    omega

/-! ## Reading the buffer -/

/-- The backward reading restricted to the stored samples is the newest samples. -/
theorem RingWindow.window_take {cbt : CircuitBuildTimes P} {samples : List Nat}
    (invariant : RingWindow cbt samples) :
    (window P samples).take cbt.totalBuildTimes = samples.take P.ncircuitsToObserve := by
  rw [window, invariant.total_eq]
  exact List.take_left' (by simp [Nat.min_comm])

/-- Once the history fills the buffer, no slot is empty. -/
theorem RingWindow.times_ne_zero_of_full {cbt : CircuitBuildTimes P} {samples : List Nat}
    (invariant : RingWindow cbt samples) (full : P.ncircuitsToObserve ≤ samples.length) :
    ∀ x ∈ cbt.circuitBuildTimes, x ≠ 0 := by
  intro x member
  have member : x ∈ window P samples := by
    rw [← invariant.rotate_reverse, List.mem_reverse, List.mem_rotate]
    exact member
  simp only [window, Nat.min_eq_right full, Nat.sub_self, List.replicate_zero,
    List.append_nil] at member
  exact invariant.samples_ne_zero x (List.mem_of_mem_take member)

/-- Before the buffer wraps, the array holds the history oldest first, then empty slots. -/
theorem RingWindow.times_eq_of_short {cbt : CircuitBuildTimes P} {samples : List Nat}
    (invariant : RingWindow cbt samples) (short : samples.length < P.ncircuitsToObserve) :
    cbt.circuitBuildTimes =
      samples.reverse ++ List.replicate (P.ncircuitsToObserve - samples.length) 0 := by
  have total : cbt.totalBuildTimes = samples.length := by
    have := invariant.total_eq
    omega
  have idx := invariant.idx_eq_total (by omega)
  have rotated : cbt.circuitBuildTimes.rotate samples.length =
      List.replicate (P.ncircuitsToObserve - samples.length) 0 ++ samples.reverse := by
    have reading := invariant.rotate_reverse
    rw [idx, total, window, List.take_of_length_le short.le, Nat.min_eq_left short.le] at reading
    rw [← List.reverse_reverse (cbt.circuitBuildTimes.rotate _), reading]
    simp
  calc cbt.circuitBuildTimes
      = (cbt.circuitBuildTimes.rotate samples.length).rotate
          (P.ncircuitsToObserve - samples.length) := by
        rw [List.rotate_rotate, Nat.add_sub_cancel' short.le, ← cbt.circuitBuildTimes_length,
          List.rotate_length]
    _ = samples.reverse ++ List.replicate (P.ncircuitsToObserve - samples.length) 0 := by
        have swap := List.rotate_append_length_eq
          (List.replicate (P.ncircuitsToObserve - samples.length) 0) samples.reverse
        rwa [List.length_replicate, ← rotated] at swap

/-- The leading non-zero slots are exactly the stored samples, so the check after the replay in
`parse_state` holds. -/
theorem RingWindow.leadingValues_eq {cbt : CircuitBuildTimes P} {samples : List Nat}
    (invariant : RingWindow cbt samples) : leadingValues cbt = cbt.totalBuildTimes := by
  unfold leadingValues
  by_cases short : samples.length < P.ncircuitsToObserve
  · obtain ⟨m, gap⟩ : ∃ m, P.ncircuitsToObserve - samples.length = m + 1 :=
      ⟨_, (Nat.succ_pred_eq_of_pos (by omega)).symm⟩
    rw [invariant.times_eq_of_short short, gap, List.takeWhile_append_of_pos
      (by simpa using invariant.samples_ne_zero), invariant.total_eq]
    simp [List.replicate_succ]
    omega
  · rw [List.takeWhile_eq_self_iff.mpr (by simpa using invariant.times_ne_zero_of_full (by omega)),
      cbt.circuitBuildTimes_length, invariant.total_eq]
    omega

/-- Reading `count` slots backwards from the index is reading the array rotated to the index and
reversed. -/
theorem readBackwards_eq_take {cbt : CircuitBuildTimes P} {count : Nat}
    (le : count ≤ P.ncircuitsToObserve) :
    readBackwards cbt count =
      ((cbt.circuitBuildTimes.rotate cbt.buildTimesIdx).reverse).take count := by
  have length := cbt.circuitBuildTimes_length
  apply List.ext_getElem
  · simp [readBackwards, length]
    omega
  · intro k lt _
    simp only [readBackwards, List.length_map, List.length_range] at lt
    simp only [readBackwards, List.getElem_map, List.getElem_range, List.getElem_take,
      List.getElem_reverse, List.getElem_rotate, List.length_rotate]
    rw [List.getD_eq_getElem _ _ (by rw [length]; exact Nat.mod_lt _ P.ncircuitsToObserve_pos)]
    congr 2 <;> omega

/-- The count is the number of used slots. -/
theorem RingWindow.countP_eq {cbt : CircuitBuildTimes P} {samples : List Nat}
    (invariant : RingWindow cbt samples) :
    cbt.circuitBuildTimes.countP (· ≠ 0) = cbt.totalBuildTimes := by
  calc cbt.circuitBuildTimes.countP (· ≠ 0)
      = (window P samples).countP (· ≠ 0) := by
        rw [← invariant.rotate_reverse, List.countP_reverse,
          (List.rotate_perm _ _).countP_eq]
    _ = (samples.take P.ncircuitsToObserve).length := by
        rw [window, List.countP_append, List.countP_eq_length.mpr, List.countP_replicate]
        · simp
        · simpa using fun x member => invariant.samples_ne_zero x (List.mem_of_mem_take member)
    _ = cbt.totalBuildTimes := by
        rw [List.length_take, invariant.total_eq, Nat.min_comm]

/-- The buffer holds the values of the window, in some order. -/
theorem RingWindow.times_perm {cbt : CircuitBuildTimes P} {samples : List Nat}
    (invariant : RingWindow cbt samples) : List.Perm cbt.circuitBuildTimes (window P samples) := by
  rw [← invariant.rotate_reverse]
  exact ((List.reverse_perm _).trans (List.rotate_perm _ _)).symm

/-- Every stored time is acceptable. -/
theorem RingWindow.times_le_max {cbt : CircuitBuildTimes P} {samples : List Nat}
    (invariant : RingWindow cbt samples) : ∀ t ∈ cbt.circuitBuildTimes, t ≤ P.buildTimeMax := by
  intro t member
  have inWindow := invariant.times_perm.subset member
  simp only [window, List.mem_append, List.mem_replicate] at inWindow
  rcases inWindow with kept | ⟨_, rfl⟩
  · exact invariant.samples_le_max t (List.mem_of_mem_take kept)
  · exact Nat.zero_le _

/-- The invariant gives the reading of the buffer: the newest samples, counted by `total_build_times`
and by the non-zero slots. -/
theorem RingWindow.represents {cbt : CircuitBuildTimes P} {samples : List Nat}
    (invariant : RingWindow cbt samples) : RingRepresents cbt samples where
  idx_lt := invariant.idx_lt
  total_eq_min := invariant.total_eq
  total_eq_countP := invariant.countP_eq.symm
  readBackwards_eq := by
    rw [readBackwards_eq_take (by rw [invariant.total_eq]; exact Nat.min_le_right _ _),
      invariant.rotate_reverse, invariant.window_take]

/-! ## One call keeps the invariant -/

/-- The zeroed global holds the empty history. -/
theorem ringWindow_zero : RingWindow (CircuitBuildTimes.zero P) [] where
  idx_lt := P.ncircuitsToObserve_pos
  total_eq := by simp [CircuitBuildTimes.zero]
  idx_eq_total _ := rfl
  samples_ne_zero := by simp
  samples_le_max := by simp
  rotate_reverse := by simp [CircuitBuildTimes.zero, window]

/-- `reset` leaves the empty history. -/
theorem RingWindow.reset (cbt : CircuitBuildTimes P) :
    RingWindow (circuitBuildTimesReset cbt) [] :=
  ringWindow_zero.of_ring_eq
    (show (circuitBuildTimesReset cbt).ring = (CircuitBuildTimes.zero P).ring from rfl)

/-- `init` leaves the ring buffer of the zeroed global. -/
theorem init_ring {env : CbtEnv} {next : CircuitBuildTimes P}
    (init : circuitBuildTimesInit P env = some next) :
    next.ring = (CircuitBuildTimes.zero P).ring := by
  obtain ⟨_, -, rfl⟩ := Option.map_eq_some'.mp init
  rfl

/-- `add_time` extends the history by the sample it accepts. -/
theorem RingWindow.addTime {cbt : CircuitBuildTimes P} {samples : List Nat}
    (invariant : RingWindow cbt samples) (btime : Nat) :
    RingWindow (circuitBuildTimesAddTime cbt btime).1 (acceptSample P btime samples) := by
  unfold circuitBuildTimesAddTime acceptSample
  split
  · exact invariant
  · rename_i accepted
    have lt := invariant.idx_lt
    have length := cbt.circuitBuildTimes_length
    have total := invariant.total_eq
    have idx := invariant.idx_eq_total
    refine ⟨Nat.mod_lt _ P.ncircuitsToObserve_pos, ?_, ?_, ?_, ?_, ?_⟩
    · simp only [total, List.length_cons]
      split <;> omega
    · dsimp only
      split
      · intro full
        rw [idx ‹_›, Nat.mod_eq_of_lt full]
      · omega
    · rintro x (_ | ⟨_, member⟩)
      · omega
      · exact invariant.samples_ne_zero x member
    · rintro x (_ | ⟨_, member⟩)
      · omega
      · exact invariant.samples_le_max x member
    · have setLength : (cbt.circuitBuildTimes.set cbt.buildTimesIdx btime).length =
          P.ncircuitsToObserve := by simp [length]
      simp only
      rw [← setLength, List.rotate_mod, rotate_set_succ_reverse (by omega),
        invariant.rotate_reverse, window_cons]

/-- A run of `add_time` calls extends the history by the samples they accept. -/
theorem RingWindow.addTimes {cbt : CircuitBuildTimes P} {samples : List Nat}
    (invariant : RingWindow cbt samples) (times : List Nat) :
    RingWindow (times.foldl (fun acc t => (circuitBuildTimesAddTime acc t).1) cbt)
      (times.foldl (fun samples t => acceptSample P t samples) samples) := by
  induction times generalizing cbt samples with
  | nil => exact invariant
  | cons t times inductionHypothesis => exact inductionHypothesis (invariant.addTime t)

/-- `network_check_changed` either leaves the state alone or resets the history. -/
theorem RingWindow.checkChanged {cbt : CircuitBuildTimes P} {samples : List Nat}
    (invariant : RingWindow cbt samples) (env : CbtEnv) :
    RingWindow (circuitBuildTimesNetworkCheckChanged cbt env).1
      (if (circuitBuildTimesNetworkCheckChanged cbt env).2 then [] else samples) := by
  unfold circuitBuildTimesNetworkCheckChanged
  split
  · exact invariant
  · dsimp only
    rw [if_pos rfl]
    exact (RingWindow.reset cbt).of_ring_eq (by rfl)

/-- Scaling the circuit counts leaves the ring buffer alone. -/
@[simp] theorem scaleIfAtLimit_ring (count : Nat) (cbt : CircuitBuildTimes P) :
    (scaleIfAtLimit count cbt).ring = cbt.ring := by
  unfold scaleIfAtLimit
  split <;> rfl

/-- `network_close` leaves the ring buffer alone. -/
@[simp] theorem networkClose_ring (cbt : CircuitBuildTimes P) (startTime : Int) :
    (circuitBuildTimesNetworkClose cbt startTime).ring = cbt.ring := by
  unfold circuitBuildTimesNetworkClose
  dsimp only
  split <;> exact scaleIfAtLimit_ring _ _

/-- `network_timeout` leaves the ring buffer alone. -/
theorem networkTimeout_ring {cbt next : CircuitBuildTimes P} {didOnehop : Bool}
    (timedOut : circuitBuildTimesNetworkTimeout cbt didOnehop = some next) :
    next.ring = cbt.ring := by
  unfold circuitBuildTimesNetworkTimeout at timedOut
  split at timedOut
  · obtain ⟨_, -, rfl⟩ := Option.map_eq_some'.mp timedOut
    exact scaleIfAtLimit_ring _ _
  · cases timedOut
    exact scaleIfAtLimit_ring _ _

/-- `count_close` stores an abandoned time exactly when learning is on and the network is live. -/
theorem RingWindow.countClose {cbt : CircuitBuildTimes P} {samples : List Nat}
    (invariant : RingWindow cbt samples) (env : CbtEnv) (startTime : Int) :
    RingWindow (circuitBuildTimesCountClose cbt env startTime).1
      (windowStep cbt (.countClose env startTime) samples) := by
  have closed := invariant.of_ring_eq (networkClose_ring cbt startTime)
  unfold circuitBuildTimesCountClose
  dsimp only [windowStep]
  by_cases disabled : env.disabled = true
  · rw [if_pos disabled, if_pos disabled]
    exact invariant.of_ring_eq (by rfl)
  · rw [if_neg disabled, if_neg disabled]
    cases circuitBuildTimesNetworkCheckLive (circuitBuildTimesNetworkClose cbt startTime)
    · exact closed
    · exact closed.addTime _

/-- `count_timeout` keeps the history unless the network change check fires. -/
theorem RingWindow.countTimeout {cbt next : CircuitBuildTimes P} {samples : List Nat}
    {env : CbtEnv} {didOnehop : Bool} (invariant : RingWindow cbt samples)
    (counted : circuitBuildTimesCountTimeout cbt env didOnehop = some next) :
    RingWindow next (windowStep cbt (.countTimeout env didOnehop) samples) := by
  unfold circuitBuildTimesCountTimeout at counted
  dsimp only [windowStep]
  split at counted
  · cases counted
    rw [if_pos ‹_›]
    exact invariant.of_ring_eq (by rfl)
  · obtain ⟨timedOut, timeout, rfl⟩ := Option.map_eq_some'.mp counted
    rw [if_neg ‹_›, timeout]
    exact (invariant.of_ring_eq (networkTimeout_ring timeout)).checkChanged env

/-- The consensus refresh leaves the ring buffer alone. -/
theorem newConsensusParams_ring {cbt next : CircuitBuildTimes P} {env : CbtEnv}
    (refresh : circuitBuildTimesNewConsensusParams cbt env = some next) : next.ring = cbt.ring := by
  unfold circuitBuildTimesNewConsensusParams at refresh
  dsimp only at refresh
  split_ifs at refresh
  · obtain ⟨_, -, rfl⟩ := Option.map_eq_some'.mp refresh
    rfl
  all_goals cases refresh; rfl

/-- `network_circ_success` leaves the ring buffer alone. -/
theorem networkCircSuccess_ring {cbt next : CircuitBuildTimes P}
    (success : circuitBuildTimesNetworkCircSuccess cbt = some next) : next.ring = cbt.ring := by
  obtain ⟨_, -, rfl⟩ := Option.map_eq_some'.mp success
  exact scaleIfAtLimit_ring _ _

/-- `update_alpha` leaves the ring buffer alone. -/
theorem updateAlpha_ring {cbt next : CircuitBuildTimes P} {env : CbtEnv} {libm : Libm}
    {estimated : Bool}
    (update : circuitBuildTimesUpdateAlpha cbt env libm = some (next, estimated)) :
    next.ring = cbt.ring := by
  obtain ⟨xm, -, computed⟩ := Option.map_eq_some'.mp update
  split at computed <;> (cases computed; rfl)

/-- The timeout computation leaves the ring buffer alone. -/
theorem setTimeoutWorker_ring {cbt next : CircuitBuildTimes P} {env : CbtEnv} {libm : Libm}
    {computed : Bool}
    (worker : circuitBuildTimesSetTimeoutWorker cbt env libm = some (next, computed)) :
    next.ring = cbt.ring := by
  unfold circuitBuildTimesSetTimeoutWorker at worker
  split at worker
  · cases worker; rfl
  · simp only [Option.bind_eq_some, Option.map_eq_some'] at worker
    obtain ⟨⟨alpha, estimated⟩, update, worker⟩ := worker
    have same := updateAlpha_ring update
    split at worker
    · cases worker; exact same
    · simp only [Option.bind_eq_some, Option.map_eq_some'] at worker
      obtain ⟨_, _, _, _, ⟨⟩⟩ := worker
      exact same

/-- Raising the timeouts to the minimum leaves the ring buffer alone. -/
@[simp] theorem raiseToMinTimeout_ring (cbt : CircuitBuildTimes P) (env : CbtEnv) :
    (raiseToMinTimeout cbt env).ring = cbt.ring := by
  unfold raiseToMinTimeout
  split
  · dsimp only; split <;> rfl
  · rfl

/-- `set_timeout` leaves the ring buffer alone. -/
theorem setTimeout_ring {cbt next : CircuitBuildTimes P} {env : CbtEnv} {libm : Libm}
    (set : circuitBuildTimesSetTimeout cbt env libm = some next) : next.ring = cbt.ring := by
  unfold circuitBuildTimesSetTimeout at set
  split at set
  · cases set; rfl
  · obtain ⟨⟨done, computed⟩, worker, rfl⟩ := Option.map_eq_some'.mp set
    have same := setTimeoutWorker_ring worker
    dsimp only
    split
    · rw [raiseToMinTimeout_ring, same]
    · exact same

/-- `parse_state` leaves what its replay accepted, or an empty history when it stops early. -/
theorem RingWindow.parseState {state : OrState} {env : CbtEnv} {libm : Libm} {rand : Nat → Nat}
    {next : CircuitBuildTimes P} {ret : Int}
    (parsed : circuitBuildTimesParseState P state env libm rand = some (next, ret)) :
    RingWindow next (parseStateSamples P state env rand) := by
  obtain ⟨fresh, init, parsed⟩ := Option.bind_eq_some.mp parsed
  have start : RingWindow fresh [] := ringWindow_zero.of_ring_eq (init_ring init)
  unfold parseStateSamples
  split at parsed
  · cases parsed
    rw [if_pos ‹_›]
    exact start
  rw [if_neg ‹_›]
  obtain ⟨⟨loaded, lineError⟩, load, parsed⟩ := Option.bind_eq_some.mp parsed
  rw [load]
  dsimp only at parsed ⊢
  split at parsed
  · cases parsed
    rw [if_pos ‹_›]
    exact RingWindow.reset fresh
  rw [if_neg ‹_›]
  have stored : RingWindow (circuitBuildTimesShuffleAndStoreArray fresh loaded loaded.length rand)
      (storedSamples P loaded rand) := start.addTimes _
  split at parsed
  · rename_i check
    have := stored.total_eq
    exact absurd check (by rw [not_or, stored.leadingValues_eq]; omega)
  obtain ⟨timed, set, parsed⟩ := Option.map_eq_some'.mp parsed
  cases parsed
  exact stored.of_ring_eq (setTimeout_ring set)

/-- Every call keeps the invariant, with the history `windowStep` says. -/
theorem RingWindow.step {libm : Libm} {cbt next : CircuitBuildTimes P} {samples : List Nat}
    {op : CbtOp} (invariant : RingWindow cbt samples)
    (transition : cbtStep P libm cbt op = some next) :
    RingWindow next (windowStep cbt op samples) := by
  cases op with
  | init env => exact ringWindow_zero.of_ring_eq (init_ring transition)
  | addTime btime => cases transition; exact invariant.addTime btime
  | countClose env startTime => cases transition; exact invariant.countClose env startTime
  | countTimeout env didOnehop => exact invariant.countTimeout transition
  | networkCheckChanged env => cases transition; exact invariant.checkChanged env
  | reset => cases transition; exact RingWindow.reset cbt
  | parseState state env rand =>
    obtain ⟨⟨_, _⟩, parsed, rfl⟩ := Option.map_eq_some'.mp transition
    exact RingWindow.parseState parsed
  | newConsensusParams env => exact invariant.of_ring_eq (newConsensusParams_ring transition)
  | freeTimeouts => cases transition; exact invariant.of_ring_eq (by rfl)
  | networkCircSuccess => exact invariant.of_ring_eq (networkCircSuccess_ring transition)
  | networkIsLive env => cases transition; exact invariant.of_ring_eq (by rfl)
  | setTimeout env => exact invariant.of_ring_eq (setTimeout_ring transition)

/-- Every reachable state satisfies the invariant. -/
theorem WindowReachable.ringWindow {libm : Libm} {cbt : CircuitBuildTimes P}
    {samples : List Nat} (reachable : WindowReachable P libm cbt samples) :
    RingWindow cbt samples := by
  induction reachable with
  | zero => exact ringWindow_zero
  | step _ transition inductionHypothesis => exact inductionHypothesis.step transition

/-! ## The window -/

/-- In every reachable state the ring buffer represents the newest samples accepted since the last
reset, and the count check of `update_alpha` holds for every `Xm`. -/
theorem circuitBuildTimes_window {libm : Libm} {cbt : CircuitBuildTimes P} {samples : List Nat}
    (reachable : WindowReachable P libm cbt samples) :
    RingRepresents cbt samples ∧
      ∀ xm : Nat, (updateAlphaLoop P libm xm cbt.circuitBuildTimes).2.1 =
        cbt.totalBuildTimes - (updateAlphaLoop P libm xm cbt.circuitBuildTimes).2.2 := by
  have represents := reachable.ringWindow.represents
  refine ⟨represents, fun xm => ?_⟩
  have counts := updateAlphaLoop_counts P libm xm cbt.circuitBuildTimes
  rw [represents.total_eq_countP]
  omega

/-- `add_time` from a reachable state records its acceptance test in the history. -/
theorem WindowReachable.addTime {libm : Libm} {cbt : CircuitBuildTimes P} {samples : List Nat}
    (reachable : WindowReachable P libm cbt samples) (btime : Nat) :
    WindowReachable P libm (circuitBuildTimesAddTime cbt btime).1 (acceptSample P btime samples) :=
  reachable.step (show cbtStep P libm cbt (.addTime btime) = some _ from rfl)

/-- Four accepted times in three slots: the fourth overwrote the oldest, and the buffer holds the
newest three. -/
theorem circuitBuildTimes_window_wrapped :
    WindowReachable smallCbtParams ⟨fun _ => 0, fun _ _ => 1⟩ wrappedHistory [50, 40, 30, 20] ∧
      wrappedHistory.circuitBuildTimes = [50, 30, 40] ∧
      RingRepresents wrappedHistory [50, 40, 30, 20] ∧
      ∀ xm : Nat,
        (updateAlphaLoop smallCbtParams ⟨fun _ => 0, fun _ _ => 1⟩ xm
            wrappedHistory.circuitBuildTimes).2.1 =
          wrappedHistory.totalBuildTimes -
            (updateAlphaLoop smallCbtParams ⟨fun _ => 0, fun _ _ => 1⟩ xm
              wrappedHistory.circuitBuildTimes).2.2 :=
  have reachable :
      WindowReachable smallCbtParams ⟨fun _ => 0, fun _ _ => 1⟩ wrappedHistory [50, 40, 30, 20] :=
    ((((WindowReachable.zero.step (show cbtStep smallCbtParams _ (CircuitBuildTimes.zero _)
      (.init estimatingEnv) = some ((circuitBuildTimesInit smallCbtParams estimatingEnv).getD
        (CircuitBuildTimes.zero _)) from rfl)).addTime 20).addTime 30).addTime 40).addTime 50
  ⟨reachable, rfl, circuitBuildTimes_window reachable⟩

end Nuon.CircuitStats
