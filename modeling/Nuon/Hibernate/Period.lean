import Nuon.Hibernate.Calendar
import Nuon.Text.CString

/-!
# Hibernation: accounting periods

`accounting_parse_options` reads `AccountingStart` (`month 1 00:00`, `week 3 12:30`, `day 04:00`,
...) into `cfg_unit`, `cfg_start_day`, `cfg_start_hour` and `cfg_start_min`, and
`edge_of_accounting_period_containing` finds the start or the end of the period that holds a
time. What the parser accepts is well formed (`accountingParseOptions_valid`): an hour and a
minute of the day, and a weekday or a day of the month up to 28.

For such a configuration the edges are closed forms in the day number of `now`
(`edge_unitDay`, `edge_unitWeek`, `edge_unitMonth`), and from them the periods tile the time line:
the period that holds `now` starts at or before it and ends after it, and the next one starts
where it ends (`accountingPeriod_tiles`).
-/

namespace Nuon.Hibernate

/-- `time_unit_t`: `UNIT_MONTH`, `UNIT_WEEK` and `UNIT_DAY`. -/
inductive TimeUnit
  | unitMonth
  | unitWeek
  | unitDay
  deriving Repr, DecidableEq

/-- `cfg_unit`, `cfg_start_day`, `cfg_start_hour` and `cfg_start_min`. -/
structure AccountingCfg where
  cfgUnit : TimeUnit
  cfgStartDay : Int
  cfgStartHour : Int
  cfgStartMin : Int
  deriving Repr, DecidableEq

/-- The unit the first argument of `AccountingStart` names. -/
def accountingUnitOf (s : List Char) : Option TimeUnit :=
  if strcasecmp s "month".toList = 0 then some .unitMonth
  else if strcasecmp s "week".toList = 0 then some .unitWeek
  else if strcasecmp s "day".toList = 0 then some .unitDay
  else none

/-- The `switch (unit)` of `accounting_parse_options`: the day a period begins on. -/
def accountingStartDayOf (items : List (List Char)) : TimeUnit → Option Int
  | .unitWeek =>
    let d := torParseLong (items.getD 1 []) 1 7 false
    if d.ok then some d.value else none
  | .unitMonth =>
    let d := torParseLong (items.getD 1 []) 1 28 false
    if d.ok then some d.value else none
  | .unitDay => some 0

/-- The `HH:MM` argument of `AccountingStart`: an hour up to a `:`, then a minute up to the end. -/
def accountingStartTimeOf (s : List Char) : Option (Int × Int) :=
  let h := torParseLong s 0 23 true
  if !h.ok ∨ h.next.headD '\x00' ≠ ':' then none
  else
    let m := torParseLong h.next.tail 0 59 true
    if !m.ok ∨ m.next.headD '\x00' ≠ '\x00' then none else some (h.value, m.value)

/-- `accounting_parse_options`: the configuration it stores (unless `validate_only`), or `none`
where it returns `-1`. Without `AccountingStart` a period is a month from the 1st at 00:00. -/
def accountingParseOptions : Option (List Char) → Option AccountingCfg
  | none => some ⟨.unitMonth, 1, 0, 0⟩
  | some v =>
    let items := smartlistSplitStringBlanks v true true
    if items.length < 2 then none
    else (accountingUnitOf (items.getD 0 [])).bind fun unit =>
      (accountingStartDayOf items unit).bind fun d =>
        let idx := if unit = .unitDay then 1 else 2
        if items.length ≠ idx + 1 then none
        else (accountingStartTimeOf (items.getD idx [])).map fun time => ⟨unit, d, time.1, time.2⟩

/-- `edge_of_accounting_period_containing(now, get_end)`. -/
def edgeOfAccountingPeriodContaining (cfg : AccountingCfg) (now : Int) (getEnd : Bool) : Int :=
  let tm := torLocaltimeR now
  let before : Bool := tm.tmHour < cfg.cfgStartHour ∨
    (tm.tmHour = cfg.cfgStartHour ∧ tm.tmMin < cfg.cfgStartMin)
  let tm := match cfg.cfgUnit with
    | .unitMonth =>
      let tm := if tm.tmMday < cfg.cfgStartDay ∨ (tm.tmMday = cfg.cfgStartDay ∧ before) then
        { tm with tmMon := tm.tmMon - 1 } else tm
      let tm := { tm with tmMday := cfg.cfgStartDay }
      if getEnd then { tm with tmMon := tm.tmMon + 1 } else tm
    | .unitWeek =>
      let wday := cfg.cfgStartDay.tmod 7
      let delta := (7 + tm.tmWday - wday).tmod 7
      let delta := if delta = 0 ∧ before then 7 else delta
      let tm := { tm with tmMday := tm.tmMday - delta }
      if getEnd then { tm with tmMday := tm.tmMday + 7 } else tm
    | .unitDay =>
      let tm := if before then { tm with tmMday := tm.tmMday - 1 } else tm
      if getEnd then { tm with tmMday := tm.tmMday + 1 } else tm
  mktime { tm with tmHour := cfg.cfgStartHour, tmMin := cfg.cfgStartMin, tmSec := 0 }

/-- `start_of_accounting_period_containing`. -/
def startOfAccountingPeriodContaining (cfg : AccountingCfg) (now : Int) : Int :=
  edgeOfAccountingPeriodContaining cfg now false

/-- `start_of_accounting_period_after`. -/
def startOfAccountingPeriodAfter (cfg : AccountingCfg) (now : Int) : Int :=
  edgeOfAccountingPeriodContaining cfg now true

/-- `length_of_accounting_period_containing`. -/
def lengthOfAccountingPeriodContaining (cfg : AccountingCfg) (now : Int) : Int :=
  edgeOfAccountingPeriodContaining cfg now true - edgeOfAccountingPeriodContaining cfg now false

/-! ## What the parser accepts -/

/-- The days a period of each unit may begin on: a day of the month up to 28, a day of the week
from `1`, Monday, to `7`, Sunday, and `0` for a day. -/
def StartDayRange : TimeUnit → Int → Prop
  | .unitMonth, d => 1 ≤ d ∧ d ≤ 28
  | .unitWeek, d => 1 ≤ d ∧ d ≤ 7
  | .unitDay, d => d = 0

instance (unit : TimeUnit) (d : Int) : Decidable (StartDayRange unit d) :=
  match unit with
  | .unitMonth => inferInstanceAs (Decidable (1 ≤ d ∧ d ≤ 28))
  | .unitWeek => inferInstanceAs (Decidable (1 ≤ d ∧ d ≤ 7))
  | .unitDay => inferInstanceAs (Decidable (d = 0))

/-- The configurations `accounting_parse_options` stores. -/
structure AccountingCfg.Valid (cfg : AccountingCfg) : Prop where
  hourRange : 0 ≤ cfg.cfgStartHour ∧ cfg.cfgStartHour ≤ 23
  minRange : 0 ≤ cfg.cfgStartMin ∧ cfg.cfgStartMin ≤ 59
  dayRange : StartDayRange cfg.cfgUnit cfg.cfgStartDay

private theorem accountingStartDayOf_range {items : List (List Char)} {unit : TimeUnit} {d : Int}
    (found : accountingStartDayOf items unit = some d) : StartDayRange unit d := by
  cases unit <;> simp only [accountingStartDayOf, Option.ite_none_right_eq_some, Option.some.injEq] at found
  · obtain ⟨ok, rfl⟩ := found; exact torParseLong_range ok
  · obtain ⟨ok, rfl⟩ := found; exact torParseLong_range ok
  · exact found.symm

private theorem accountingStartTimeOf_range {s : List Char} {time : Int × Int}
    (found : accountingStartTimeOf s = some time) :
    (0 ≤ time.1 ∧ time.1 ≤ 23) ∧ 0 ≤ time.2 ∧ time.2 ≤ 59 := by
  unfold accountingStartTimeOf at found
  dsimp only at found
  split_ifs at found with hour minute
  cases found
  simp only [not_or, Bool.not_eq_true', Bool.not_eq_false, not_not] at hour minute
  exact ⟨torParseLong_range hour.1, torParseLong_range minute.1⟩

/-- Every configuration `accounting_parse_options` stores is well formed. -/
theorem accountingParseOptions_valid {accountingStart : Option (List Char)} {cfg : AccountingCfg}
    (accepted : accountingParseOptions accountingStart = some cfg) : cfg.Valid := by
  cases accountingStart with
  | none => cases accepted; exact ⟨by decide, by decide, by decide⟩
  | some v =>
    simp only [accountingParseOptions, Option.ite_none_left_eq_some, Option.bind_eq_some,
      Option.map_eq_some'] at accepted
    obtain ⟨-, unit, -, d, day, -, time, found, rfl⟩ := accepted
    obtain ⟨hour, minute⟩ := accountingStartTimeOf_range found
    exact ⟨hour, minute, accountingStartDayOf_range day⟩

/-! ## The edges in closed form -/

/-- The second of the day at which a period begins. -/
def AccountingCfg.startSecond (cfg : AccountingCfg) : Int :=
  cfg.cfgStartHour * 3600 + cfg.cfgStartMin * 60

section Edges

variable {cfg : AccountingCfg} (valid : cfg.Valid)
include valid

/-- `before`: today's changeover minute has not come yet. -/
theorem before_iff (now : Int) :
    ((torLocaltimeR now).tmHour < cfg.cfgStartHour ∨
        ((torLocaltimeR now).tmHour = cfg.cfgStartHour ∧ (torLocaltimeR now).tmMin < cfg.cfgStartMin)) ↔
      now % 86400 < cfg.startSecond := by
  have := valid.minRange
  simp only [torLocaltimeR_tmHour, torLocaltimeR_tmMin, AccountingCfg.startSecond]
  omega

private theorem edge_unitDay (day : cfg.cfgUnit = .unitDay) (now : Int) (getEnd : Bool) :
    edgeOfAccountingPeriodContaining cfg now getEnd =
      (now / 86400 - (if now % 86400 < cfg.startSecond then 1 else 0) +
        (if getEnd then 1 else 0)) * 86400 + cfg.startSecond := by
  have spec := civilFromDays_spec (now / 86400)
  have index := torLocaltimeR_monthIndex now
  simp only [edgeOfAccountingPeriodContaining, day, decide_eq_true_eq, before_iff valid]
  split_ifs <;> rw [mktime_eq (k := (civilFromDays (now / 86400)).1)] <;>
    simp only [torLocaltimeR_tmMday, AccountingCfg.startSecond] <;> omega

/-- `delta` of the `UNIT_WEEK` case: how many days back from the day of `now` its week began. -/
def weekDelta (cfg : AccountingCfg) (now : Int) : Int :=
  if (7 + (now / 86400 + 4) % 7 - cfg.cfgStartDay % 7) % 7 = 0 ∧ now % 86400 < cfg.startSecond then 7
  else (7 + (now / 86400 + 4) % 7 - cfg.cfgStartDay % 7) % 7

private theorem edge_unitWeek (week : cfg.cfgUnit = .unitWeek) (now : Int) (getEnd : Bool) :
    edgeOfAccountingPeriodContaining cfg now getEnd =
      (now / 86400 - weekDelta cfg now + (if getEnd then 7 else 0)) * 86400 + cfg.startSecond := by
  have spec := civilFromDays_spec (now / 86400)
  have index := torLocaltimeR_monthIndex now
  have day : 1 ≤ cfg.cfgStartDay ∧ cfg.cfgStartDay ≤ 7 := by
    simpa only [StartDayRange, week] using valid.dayRange
  have wday : cfg.cfgStartDay.tmod 7 = cfg.cfgStartDay % 7 := Int.tmod_eq_emod (by omega) (by omega)
  have delta : (7 + (now / 86400 + 4) % 7 - cfg.cfgStartDay % 7).tmod 7 =
      (7 + (now / 86400 + 4) % 7 - cfg.cfgStartDay % 7) % 7 :=
    Int.tmod_eq_emod (by omega) (by omega)
  simp only [edgeOfAccountingPeriodContaining, week, decide_eq_true_eq, before_iff valid,
    torLocaltimeR_tmWday, wday, delta, weekDelta]
  split_ifs <;> rw [mktime_eq (k := (civilFromDays (now / 86400)).1)] <;>
    simp only [torLocaltimeR_tmMday, AccountingCfg.startSecond] <;> omega

/-- `1` when the `UNIT_MONTH` case steps back a month: the day of `now` comes before the start
day in its month, or is the start day before its changeover minute. -/
def monthBack (cfg : AccountingCfg) (now : Int) : Int :=
  if (civilFromDays (now / 86400)).2 < cfg.cfgStartDay ∨
      ((civilFromDays (now / 86400)).2 = cfg.cfgStartDay ∧ now % 86400 < cfg.startSecond) then 1
  else 0

private theorem edge_unitMonth (month : cfg.cfgUnit = .unitMonth) (now : Int) (getEnd : Bool) :
    edgeOfAccountingPeriodContaining cfg now getEnd =
      (monthStartDay ((civilFromDays (now / 86400)).1 - monthBack cfg now + (if getEnd then 1 else 0)) +
        cfg.cfgStartDay - 1) * 86400 + cfg.startSecond := by
  have index := torLocaltimeR_monthIndex now
  simp only [edgeOfAccountingPeriodContaining, month, decide_eq_true_eq, before_iff valid]
  rw [mktime_eq (k := (civilFromDays (now / 86400)).1 - monthBack cfg now + if getEnd then 1 else 0)]
  all_goals unfold monthBack; simp only [torLocaltimeR_tmMday] at *
  all_goals split_ifs <;> simp only [AccountingCfg.startSecond] <;> omega

end Edges

/-! ## The periods tile the time line -/

/-- What the edges promise at `now`: the period that holds `now` begins at or before it and ends
after it, the next period begins where this one ends, and the period that holds this one's start
ends where this one does. -/
structure PeriodLaws (cfg : AccountingCfg) (now : Int) : Prop where
  start_le : startOfAccountingPeriodContaining cfg now ≤ now
  lt_after : now < startOfAccountingPeriodAfter cfg now
  next_start : startOfAccountingPeriodContaining cfg (startOfAccountingPeriodAfter cfg now) =
    startOfAccountingPeriodAfter cfg now
  start_after : startOfAccountingPeriodAfter cfg (startOfAccountingPeriodContaining cfg now) =
    startOfAccountingPeriodAfter cfg now

section Laws

variable {cfg : AccountingCfg} (valid : cfg.Valid)
include valid

private theorem startSecond_range : 0 ≤ cfg.startSecond ∧ cfg.startSecond < 86400 := by
  have := valid.hourRange; have := valid.minRange; unfold AccountingCfg.startSecond; omega

private theorem periodLaws_unitDay (day : cfg.cfgUnit = .unitDay) (now : Int) : PeriodLaws cfg now := by
  have second := startSecond_range valid
  constructor <;>
    simp only [startOfAccountingPeriodContaining, startOfAccountingPeriodAfter, edge_unitDay valid day,
      if_true, Bool.false_eq_true, if_false] <;>
    split_ifs <;> omega

omit valid in
variable (cfg) in
/-- The `UNIT_WEEK` case steps back at most a week, to a changeover minute at or before `now`. -/
theorem weekDelta_range (now : Int) :
    0 ≤ weekDelta cfg now ∧ weekDelta cfg now ≤ 7 ∧
      (weekDelta cfg now = 0 → cfg.startSecond ≤ now % 86400) ∧
      (weekDelta cfg now = 7 → now % 86400 < cfg.startSecond) := by
  unfold weekDelta
  split_ifs <;> omega

/-- At an edge, and a whole number of weeks from it, the `UNIT_WEEK` case does not step back. -/
theorem weekDelta_edge (now k : Int) :
    weekDelta cfg ((now / 86400 - weekDelta cfg now + 7 * k) * 86400 + cfg.startSecond) = 0 := by
  have second := startSecond_range valid
  generalize hw : weekDelta cfg now = w
  have back : (w = 7 ∧ (7 + (now / 86400 + 4) % 7 - cfg.cfgStartDay % 7) % 7 = 0) ∨
      w = (7 + (now / 86400 + 4) % 7 - cfg.cfgStartDay % 7) % 7 := by
    unfold weekDelta at hw; split_ifs at hw <;> omega
  unfold weekDelta
  rw [if_neg (by omega)]
  omega

private theorem periodLaws_unitWeek (week : cfg.cfgUnit = .unitWeek) (now : Int) : PeriodLaws cfg now := by
  have second := startSecond_range valid
  have range := weekDelta_range cfg now
  have nextEdge := weekDelta_edge valid now 1
  have thisEdge := weekDelta_edge valid now 0
  rw [Int.mul_one] at nextEdge
  rw [Int.mul_zero, Int.add_zero] at thisEdge
  constructor <;>
    simp only [startOfAccountingPeriodContaining, startOfAccountingPeriodAfter, edge_unitWeek valid week,
      if_true, Bool.false_eq_true, if_false, Int.add_zero, nextEdge, thisEdge, Int.sub_zero] <;>
    omega

/-- An edge of a month configuration lies on the start day of its month. -/
theorem civilFromDays_edge (month : cfg.cfgUnit = .unitMonth) (k : Int) :
    civilFromDays (((monthStartDay k + cfg.cfgStartDay - 1) * 86400 + cfg.startSecond) / 86400) =
      (k, cfg.cfgStartDay) := by
  have second := startSecond_range valid
  have day : 1 ≤ cfg.cfgStartDay ∧ cfg.cfgStartDay ≤ 28 := by
    simpa only [StartDayRange, month] using valid.dayRange
  rw [show ((monthStartDay k + cfg.cfgStartDay - 1) * 86400 + cfg.startSecond) / 86400 =
    monthStartDay k + cfg.cfgStartDay - 1 by omega]
  exact civilFromDays_monthStartDay day.1 day.2

/-- So at an edge the `UNIT_MONTH` case does not step back. -/
theorem monthBack_edge (month : cfg.cfgUnit = .unitMonth) (k : Int) :
    monthBack cfg ((monthStartDay k + cfg.cfgStartDay - 1) * 86400 + cfg.startSecond) = 0 := by
  have second := startSecond_range valid
  rw [monthBack, civilFromDays_edge valid month, if_neg]
  omega

private theorem periodLaws_unitMonth (month : cfg.cfgUnit = .unitMonth) (now : Int) : PeriodLaws cfg now := by
  have second := startSecond_range valid
  have day : 1 ≤ cfg.cfgStartDay ∧ cfg.cfgStartDay ≤ 28 := by
    simpa only [StartDayRange, month] using valid.dayRange
  obtain ⟨start, dayLo, dayHi⟩ := civilFromDays_spec (now / 86400)
  refine ⟨?_, ?_, ?_, ?_⟩ <;>
    simp only [startOfAccountingPeriodContaining, startOfAccountingPeriodAfter,
      edge_unitMonth valid month, if_true, Bool.false_eq_true, if_false, Int.add_zero]
  · unfold monthBack
    split_ifs with back
    · have := monthStartDay_le_of_lt (show (civilFromDays (now / 86400)).1 - 1 <
        (civilFromDays (now / 86400)).1 by omega)
      omega
    · rw [Int.sub_zero]; omega
  · unfold monthBack
    split_ifs with back
    · rw [Int.sub_add_cancel]; omega
    · rw [Int.sub_zero]; omega
  · rw [civilFromDays_edge valid month, monthBack_edge valid month, Int.sub_zero]
  · rw [civilFromDays_edge valid month, monthBack_edge valid month, Int.sub_zero]

/-- The laws hold at every time for every configuration `accounting_parse_options` stores. -/
theorem periodLaws (now : Int) : PeriodLaws cfg now := by
  cases unit : cfg.cfgUnit
  · exact periodLaws_unitMonth valid unit now
  · exact periodLaws_unitWeek valid unit now
  · exact periodLaws_unitDay valid unit now

end Laws

/-- Take any `AccountingStart` that `accounting_parse_options` accepts and any time `now`, with
local time taken as UTC: the period that holds `now` starts at or before it and ends after it,
and the next period starts where it ends. -/
theorem accountingPeriod_tiles {accountingStart : Option (List Char)} {cfg : AccountingCfg}
    (accepted : accountingParseOptions accountingStart = some cfg) (now : Int) :
    startOfAccountingPeriodContaining cfg now ≤ now ∧ now < startOfAccountingPeriodAfter cfg now ∧
      startOfAccountingPeriodContaining cfg (startOfAccountingPeriodAfter cfg now) =
        startOfAccountingPeriodAfter cfg now :=
  have laws := periodLaws (accountingParseOptions_valid accepted) now
  ⟨laws.start_le, laws.lt_after, laws.next_start⟩

/-- `AccountingStart week 1 08:30` is accepted, and the law holds on 2023-11-14 22:13:20 UTC. -/
theorem accountingPeriod_tiles_weekly :
    accountingParseOptions (some "week 1 08:30".toList) = some ⟨.unitWeek, 1, 8, 30⟩ ∧
      startOfAccountingPeriodContaining ⟨.unitWeek, 1, 8, 30⟩ 1700000000 ≤ 1700000000 ∧
      1700000000 < startOfAccountingPeriodAfter ⟨.unitWeek, 1, 8, 30⟩ 1700000000 ∧
      startOfAccountingPeriodContaining ⟨.unitWeek, 1, 8, 30⟩
          (startOfAccountingPeriodAfter ⟨.unitWeek, 1, 8, 30⟩ 1700000000) =
        startOfAccountingPeriodAfter ⟨.unitWeek, 1, 8, 30⟩ 1700000000 :=
  have accepted : accountingParseOptions (some "week 1 08:30".toList) = some ⟨.unitWeek, 1, 8, 30⟩ := by
    decide
  ⟨accepted, accountingPeriod_tiles accepted 1700000000⟩

end Nuon.Hibernate
