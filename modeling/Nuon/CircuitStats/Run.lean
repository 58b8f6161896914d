import Nuon.CircuitStats.StateFile

/-!
# Circuit build times: runs

The estimator is a single global `circuit_build_times_t`, zero at start-up (static storage) and
then driven by calls from the circuit code, the consensus refresh and the state file. `CbtOp`
names those calls with what each reads from outside; `cbtStep` performs one, and `CbtReachable`
is the set of states some sequence of them produces.
-/

namespace Nuon.CircuitStats

variable {P : CbtParams}

/-- The calls into the estimator that change its state. -/
inductive CbtOp where
  | init (env : CbtEnv)
  | addTime (btime : Nat)
  | countClose (env : CbtEnv) (startTime : Int)
  | countTimeout (env : CbtEnv) (didOnehop : Bool)
  | networkCheckChanged (env : CbtEnv)
  | reset
  | parseState (state : OrState) (env : CbtEnv) (rand : Nat → Nat)
  | newConsensusParams (env : CbtEnv)
  | freeTimeouts
  | networkCircSuccess
  | networkIsLive (env : CbtEnv)
  | setTimeout (env : CbtEnv)

/-- Perform one call; `none` when it aborts or does something undefined. -/
def cbtStep (P : CbtParams) (libm : Libm) (cbt : CircuitBuildTimes P) :
    CbtOp → Option (CircuitBuildTimes P)
  | .init env => circuitBuildTimesInit P env
  | .addTime btime => some (circuitBuildTimesAddTime cbt btime).1
  | .countClose env startTime => some (circuitBuildTimesCountClose cbt env startTime).1
  | .countTimeout env didOnehop => circuitBuildTimesCountTimeout cbt env didOnehop
  | .networkCheckChanged env => some (circuitBuildTimesNetworkCheckChanged cbt env).1
  | .reset => some (circuitBuildTimesReset cbt)
  | .parseState state env rand =>
    (circuitBuildTimesParseState P state env libm rand).map Prod.fst
  | .newConsensusParams env => circuitBuildTimesNewConsensusParams cbt env
  | .freeTimeouts => some (circuitBuildTimesFreeTimeouts cbt)
  | .networkCircSuccess => circuitBuildTimesNetworkCircSuccess cbt
  | .networkIsLive env => some (circuitBuildTimesNetworkIsLive cbt env)
  | .setTimeout env => circuitBuildTimesSetTimeout cbt env libm

/-- The states some sequence of calls produces from the zeroed global. -/
inductive CbtReachable (P : CbtParams) (libm : Libm) : CircuitBuildTimes P → Prop where
  | zero : CbtReachable P libm (CircuitBuildTimes.zero P)
  | step {cbt next : CircuitBuildTimes P} {op : CbtOp} (reachable : CbtReachable P libm cbt)
      (transition : cbtStep P libm cbt op = some next) : CbtReachable P libm next

/-- Perform a sequence of calls, stopping at the first that aborts. -/
def cbtRun (P : CbtParams) (libm : Libm) (cbt : CircuitBuildTimes P) :
    List CbtOp → Option (CircuitBuildTimes P)
  | [] => some cbt
  | op :: ops => (cbtStep P libm cbt op).bind fun next => cbtRun P libm next ops

/-- A parameter set for concrete runs: three slots, bins of ten milliseconds, times up to
`INT32_MAX` and abandoned circuits stored as `INT32_MAX - 1`. -/
def smallCbtParams : CbtParams :=
  ⟨3, 10, 2 ^ 31 - 1, 2 ^ 31 - 2, by decide, by decide⟩

/-- Learning on, a one-minute initial timeout, and no circuit needed before an estimate. -/
def estimatingEnv : CbtEnv :=
  ⟨false, 0, 20, 18, 10, 1, 80, 95, 10, 60000, 0⟩

/-- The three-slot history after `init` and four accepted times: the fourth overwrote the first. -/
def wrappedHistory : CircuitBuildTimes smallCbtParams :=
  let started := (circuitBuildTimesInit smallCbtParams estimatingEnv).getD (CircuitBuildTimes.zero _)
  [20, 30, 40, 50].foldl (fun cbt btime => (circuitBuildTimesAddTime cbt btime).1) started

/-- Every state a run of calls produces from a reachable state is reachable. -/
theorem CbtReachable.run {libm : Libm} {cbt next : CircuitBuildTimes P} {ops : List CbtOp}
    (reachable : CbtReachable P libm cbt) (finished : cbtRun P libm cbt ops = some next) :
    CbtReachable P libm next := by
  induction ops generalizing cbt with
  | nil => cases finished; exact reachable
  | cons op ops inductionHypothesis =>
    simp only [cbtRun, Option.bind_eq_some] at finished
    obtain ⟨middle, transition, rest⟩ := finished
    exact inductionHypothesis (reachable.step transition) rest

end Nuon.CircuitStats
