import Nuon.CircuitStats.Run

/-!
# Circuit build times: the recent-circuit record

`network_liveness_t` keeps a circular array `timeouts_after_firsthop` of `num_recent_circs`
entries, written at `after_firsthop_idx` by `network_circ_success` and `network_timeout`.
`LivenessBounds` is what those writes need: a record of the stated size and an index inside it.

The consensus refresh does not keep it. `free_timeouts` drops the record and the count but not the
index, and the resize of `new_consensus_params` clamps the index only when the count shrinks, which
it never does from `0`. Re-enabling learning with a smaller `cbtrecentcount` than before leaves
the index past the end of the new record, and the next write is out of bounds.
-/

namespace Nuon.CircuitStats

/-- The record, when present, has `num_recent_circs` entries and the index points into it. -/
def LivenessBounds (live : NetworkLiveness) : Prop :=
  match live.timeoutsAfterFirsthop with
  | some recent =>
    (recent.length : Int) = live.numRecentCircs ∧ 0 ≤ live.afterFirsthopIdx ∧
      live.afterFirsthopIdx < live.numRecentCircs
  | none => True

instance (live : NetworkLiveness) : Decidable (LivenessBounds live) :=
  match live with
  | ⟨_, _, _, some _, _⟩ => inferInstanceAs (Decidable (_ ∧ _ ∧ _))
  | ⟨_, _, _, none, _⟩ => inferInstanceAs (Decidable True)

/-- Within the bounds, recording a circuit is a defined write. -/
theorem recordRecentCirc_isSome {live : NetworkLiveness} (bounds : LivenessBounds live)
    (value : Nat) : (recordRecentCirc live value).isSome := by
  unfold recordRecentCirc
  unfold LivenessBounds at bounds
  split
  · rename_i recent record
    rw [record] at bounds
    obtain ⟨length, nonneg, lt⟩ := bounds
    split
    · rw [if_pos ⟨nonneg, by omega⟩]
      rfl
    · rfl
  · rfl

/-- The environment of a client that learns timeouts, with `cbtrecentcount` at `count`. -/
def learningEnv (count : Int) : CbtEnv :=
  ⟨false, 0, count, 0, 0, 0, 0, 0, 0, 0, 0⟩

/-- The environment after a consensus that disables learning. -/
def disabledEnv : CbtEnv :=
  { learningEnv 0 with disabled := true }

/-- Start with twenty recent circuits, record fifteen successes, disable learning, and re-enable it
with ten. -/
def indexEscapeOps : List CbtOp :=
  .init (learningEnv 20) :: List.replicate 15 .networkCircSuccess ++
    [.newConsensusParams disabledEnv, .newConsensusParams (learningEnv 10)]

/-- After `indexEscapeOps` the index is `15` in a record of ten entries, and the next success
writes out of bounds. -/
theorem reenabled_record_index_escapes :
    ∃ cbt, cbtRun smallCbtParams ⟨fun _ => 0, fun _ _ => 1⟩ (CircuitBuildTimes.zero _)
        indexEscapeOps = some cbt ∧
      cbt.liveness = ⟨0, 0, 10, some (List.replicate 10 0), 15⟩ ∧
      ¬ LivenessBounds cbt.liveness ∧ circuitBuildTimesNetworkCircSuccess cbt = none :=
  ⟨_, rfl, by decide, by decide, rfl⟩

end Nuon.CircuitStats
