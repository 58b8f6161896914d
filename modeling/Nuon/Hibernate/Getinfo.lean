import Nuon.Hibernate.States

/-!
# Hibernation: the accounting answers to the controller

`getinfo_helper_accounting` answers the `accounting/*` questions of the control port from the
globals of hibernate.c. `accounting/bytes-left` reports two decimal numbers, read and written
bytes left: both the budget left under `AccountingRule sum`, the one metered direction and the
whole `AccountingMax` under `in` and `out`, and each direction under `max`. Whatever the rule, with
accounting on one of the two numbers is `0` exactly when `hibernate_hard_limit_reached` holds, and
with accounting off both are `0` (`getinfoHelperAccounting_bytesLeft`). From two bytes of budget on, a live relay showing a `0`
there is `hard` asleep after the next `consider_hibernation` (`getinfoHelperAccounting_hard`).
-/

namespace Nuon.Hibernate

/-- `hibernate_state_to_string`. Its `unknown [%d]` answer is for values outside the enum. -/
def hibernateStateToString : HibernateState → List Char
  | .exiting => "EXITING".toList
  | .lowbandwidth => "SOFT".toList
  | .dormant => "HARD".toList
  | .initial | .live => "AWAKE".toList

/-- `accounting_is_enabled`: a non-zero `AccountingMax`. -/
def accountingIsEnabled (options : HibernateOptions) : Bool :=
  options.accountingMax ≠ 0

/-- The bytes left of a budget `limit` after `used`, as each branch of `accounting/bytes-left`
computes it in `uint64_t`: `0` once the budget is used up. -/
def bytesLeft (limit used : Nat) : Nat :=
  if used < limit then limit - used else 0

/-- The two numbers of `accounting/bytes-left`: read and written bytes left under the
`AccountingRule`. A direction the rule does not meter reports the whole `AccountingMax`. -/
def accountingBytesLeft (options : HibernateOptions) (acct : AccountingState) : Nat × Nat :=
  let limit := options.accountingMax
  match options.accountingRule with
  | .acctSum =>
    let totalLeft := bytesLeft limit (getAccountingBytes options acct)
    (totalLeft, totalLeft)
  | .acctIn => (bytesLeft limit acct.nBytesReadInInterval, limit)
  | .acctOut => (limit, bytesLeft limit acct.nBytesWrittenInInterval)
  | .acctMax => (bytesLeft limit acct.nBytesReadInInterval, bytesLeft limit acct.nBytesWrittenInInterval)

/-- `"%" PRIu64 " %" PRIu64`. -/
def twoNumbers (first second : Nat) : List Char :=
  decimalChars first ++ ' ' :: decimalChars second

/-- `getinfo_helper_accounting`: the answer to an `accounting/*` question, `NULL` for any other.
`format_iso_time`, outside these sources, is a parameter. -/
def getinfoHelperAccounting (formatIsoTime : Int → List Char) (s : Hibernation)
    (question : List Char) : Option (List Char) :=
  if question = "accounting/enabled".toList then
    some (if accountingIsEnabled s.options then ['1'] else ['0'])
  else if question = "accounting/hibernating".toList then
    some (lowerAscii (hibernateStateToString s.hibernateState))
  else if question = "accounting/bytes".toList then
    some (twoNumbers s.acct.nBytesReadInInterval s.acct.nBytesWrittenInInterval)
  else if question = "accounting/bytes-left".toList then
    let left := accountingBytesLeft s.options s.acct
    some (twoNumbers left.1 left.2)
  else if question = "accounting/interval-start".toList then
    some (formatIsoTime s.acct.intervalStartTime)
  else if question = "accounting/interval-wake".toList then
    some (formatIsoTime s.acct.intervalWakeupTime)
  else if question = "accounting/interval-end".toList then
    some (formatIsoTime s.acct.intervalEndTime)
  else none

/-! ## Bytes left and the hard limit -/

private theorem space_not_mem_decimalChars (n : Nat) : ' ' ∉ decimalChars n :=
  fun space => absurd (decimalChars_isDigit n ' ' space) (by decide)

/-- The two numbers are read back from the answer: the digits hold no space. -/
theorem twoNumbers_injective {a b c d : Nat} (same : twoNumbers a b = twoNumbers c d) :
    a = c ∧ b = d := by
  obtain ⟨first, -, second⟩ := (List.append_cons_inj_of_not_mem (space_not_mem_decimalChars a)
    (space_not_mem_decimalChars b)).mp same
  exact ⟨by rw [← decimalValue_decimalChars a, first, decimalValue_decimalChars],
    by rw [← decimalValue_decimalChars b, second, decimalValue_decimalChars]⟩

private theorem bytesLeft_eq_zero_iff {limit used : Nat} : bytesLeft limit used = 0 ↔ limit ≤ used := by
  unfold bytesLeft
  split_ifs <;> omega

/-- One of the two numbers is `0` exactly when the hard limit is reached or accounting is off. -/
theorem accountingBytesLeft_eq_zero_iff (options : HibernateOptions) (acct : AccountingState) :
    hibernateHardLimitReached options acct = true ↔ accountingIsEnabled options = true ∧
      ((accountingBytesLeft options acct).1 = 0 ∨ (accountingBytesLeft options acct).2 = 0) := by
  unfold hibernateHardLimitReached accountingIsEnabled accountingBytesLeft getAccountingBytes
  cases options.accountingRule <;>
    simp only [bytesLeft_eq_zero_iff, decide_eq_true_eq, or_self, max_le_iff] <;> omega

/-- With accounting off the budget is `0`, and so is what is left of it in both directions. -/
theorem accountingBytesLeft_of_disabled {options : HibernateOptions} (acct : AccountingState)
    (off : accountingIsEnabled options = false) : accountingBytesLeft options acct = (0, 0) := by
  have zero : options.accountingMax = 0 := by simpa [accountingIsEnabled] using off
  unfold accountingBytesLeft bytesLeft
  cases options.accountingRule <;> simp [zero]

private theorem getinfoHelperAccounting_bytesLeft_eq (formatIsoTime : Int → List Char) (s : Hibernation) :
    getinfoHelperAccounting formatIsoTime s "accounting/bytes-left".toList =
      some (twoNumbers (accountingBytesLeft s.options s.acct).1
        (accountingBytesLeft s.options s.acct).2) := by
  unfold getinfoHelperAccounting
  simp only [if_neg (by decide : "accounting/bytes-left".toList ≠ "accounting/enabled".toList),
    if_neg (by decide : "accounting/bytes-left".toList ≠ "accounting/hibernating".toList),
    if_neg (by decide : "accounting/bytes-left".toList ≠ "accounting/bytes".toList), if_true]

/-- `accounting/bytes-left` answers two decimal numbers. With accounting on, one of them is `0`
exactly when the hard limit is reached, under every accounting rule; with accounting off both
are `0`. -/
theorem getinfoHelperAccounting_bytesLeft (formatIsoTime : Int → List Char) (s : Hibernation) :
    ∃ readLeft writeLeft,
      getinfoHelperAccounting formatIsoTime s "accounting/bytes-left".toList =
        some (decimalChars readLeft ++ ' ' :: decimalChars writeLeft) ∧
      (hibernateHardLimitReached s.options s.acct = true ↔
        accountingIsEnabled s.options = true ∧ (readLeft = 0 ∨ writeLeft = 0)) ∧
      (accountingIsEnabled s.options = false → readLeft = 0 ∧ writeLeft = 0) :=
  ⟨_, _, getinfoHelperAccounting_bytesLeft_eq formatIsoTime s,
    accountingBytesLeft_eq_zero_iff s.options s.acct,
    fun off => Prod.mk.inj (accountingBytesLeft_of_disabled s.acct off)⟩

/-! ## The hibernation answer after the hard limit -/

private theorem getinfoHelperAccounting_hibernating (formatIsoTime : Int → List Char) (s : Hibernation) :
    getinfoHelperAccounting formatIsoTime s "accounting/hibernating".toList =
      some (lowerAscii (hibernateStateToString s.hibernateState)) := by
  unfold getinfoHelperAccounting
  simp only [if_neg (by decide : "accounting/hibernating".toList ≠ "accounting/enabled".toList),
    if_true]

section Controller

variable (cfg : AccountingCfg) (digest : Int → Nat)

/-- A controller that reads a `0` in `accounting/bytes-left` of a relay awake with a budget of at
least two bytes reads `hard` in `accounting/hibernating` after the next `consider_hibernation`. -/
theorem getinfoHelperAccounting_hard (formatIsoTime : Int → List Char) {s : Hibernation}
    (two : 2 ≤ s.options.accountingMax)
    (awake : s.hibernateState = .live ∨ s.hibernateState = .initial) {readLeft writeLeft : Nat}
    (answered : getinfoHelperAccounting formatIsoTime s "accounting/bytes-left".toList =
      some (decimalChars readLeft ++ ' ' :: decimalChars writeLeft))
    (zeroLeft : readLeft = 0 ∨ writeLeft = 0) (now : Int) :
    ∃ next, considerHibernation cfg digest s now = some next ∧
      getinfoHelperAccounting formatIsoTime next "accounting/hibernating".toList =
        some "hard".toList := by
  rw [getinfoHelperAccounting_bytesLeft_eq, Option.some.injEq] at answered
  obtain ⟨readSame, writeSame⟩ := twoNumbers_injective answered
  have hard := (accountingBytesLeft_eq_zero_iff s.options s.acct).mpr
    ⟨by unfold accountingIsEnabled; simp only [decide_eq_true_eq]; omega,
      by rw [readSame, writeSame]; exact zeroLeft⟩
  obtain ⟨next, considered, dormant⟩ : ∃ next, considerHibernation cfg digest s now = some next ∧
      next.hibernateState = .dormant := considerHibernation_dormant_of_hard two awake hard
  refine ⟨next, considered, ?_⟩
  rw [getinfoHelperAccounting_hibernating, dormant]
  rfl

/-- A live relay with a two-byte budget summed over both directions that has read both bytes. -/
def spentTwoBytes : Hibernation :=
  ⟨.live, 0, 0, { dayIntervalAtOneByte with nBytesReadInInterval := 2 }, ⟨2, .acctSum, 0, 0, 30⟩⟩

/-- A live relay that spent its two-byte budget shows `0 0` and is `hard` asleep after the next
`consider_hibernation`. -/
theorem getinfoHelperAccounting_hard_spentTwoBytes :
    2 ≤ spentTwoBytes.options.accountingMax ∧ spentTwoBytes.hibernateState = .live ∧
      getinfoHelperAccounting (fun _ => []) spentTwoBytes "accounting/bytes-left".toList =
        some (decimalChars 0 ++ ' ' :: decimalChars 0) ∧
      ∃ next, considerHibernation dailyCfg (fun _ => 0) spentTwoBytes 1699920060 = some next ∧
        getinfoHelperAccounting (fun _ => []) next "accounting/hibernating".toList =
          some "hard".toList :=
  have answered : getinfoHelperAccounting (fun _ => []) spentTwoBytes
      "accounting/bytes-left".toList = some (decimalChars 0 ++ ' ' :: decimalChars 0) := by decide
  ⟨by decide, rfl, answered, getinfoHelperAccounting_hard dailyCfg (fun _ => 0) (fun _ => [])
    (by decide) (.inl rfl) answered (.inl rfl) 1699920060⟩

end Controller

end Nuon.Hibernate
