import Nuon.Transports.ManagedProxy

/-!
# Runs of the pluggable-transport code

The entry points of `transports.c` as steps of one state machine: proxies kickstarted from the
configuration, the periodic `pt_configure_remaining_proxies`, any line on a proxy's standard
output, configuration reads, and the transport lines of the configuration.

Every step keeps the names in `transport_list` distinct (`ptReachable_transportNamesUnique`).
The counter `unconfigured_proxies_n` does not survive every run: a proxy that prints a protocol
line after it completed is destroyed and uncounted a second time
(`completed_proxy_line_breaks_count`). Where it does survive, as at the end of every
`pt_configure_remaining_proxies` that returns, `pt_proxies_configuration_pending` answers
exactly whether some proxy is unfinished (`ptConfigureRemainingProxies_pending`).
-/

namespace Nuon.Transports

open Nuon.Net

/-- An entry point with its inputs. -/
inductive PtOp where
  | kickstartProxy (k : Kickstart)
  | configureRemainingProxies (proxyUri : Option (List Char)) (launches : Nat → Bool)
  | stdoutLine (id : Nat) (line : List Char)
  | configReload (kickstarts : List Kickstart)
  | transportAddFromConfig (addr : TorAddr) (port : Nat) (name : List Char)
  | markTransportList
  | sweepTransportList

variable (L : PtLib)

/-- One entry point; `none` when an assertion fails. -/
def ptStep (s : PtState) : PtOp → Option PtState
  | .kickstartProxy k => ptKickstartProxy s k
  | .configureRemainingProxies proxyUri launches => ptConfigureRemainingProxies L s proxyUri launches
  | .stdoutLine id line => managedProxyStdoutCallback L s id line
  | .configReload kickstarts => configReload s kickstarts
  | .transportAddFromConfig addr port name =>
    some { s with transportList := (transportAddFromConfig L.families s.transportList addr port name).2 }
  | .markTransportList => some { s with transportList := markTransportList s.transportList }
  | .sweepTransportList => some { s with transportList := sweepTransportList s.transportList }

/-- A sequence of entry points. -/
def ptRun (s : PtState) : List PtOp → Option PtState
  | [] => some s
  | op :: ops => (ptStep L s op).bind fun s => ptRun s ops

/-- The states some run from the initial state reaches. -/
inductive PtReachable : PtState → Prop
  | initial : PtReachable PtState.initial
  | step {s s' : PtState} {op : PtOp} : PtReachable s → ptStep L s op = some s' → PtReachable s'

/-- Every state a run reaches from a reachable state is reachable. -/
theorem PtReachable.run {s s' : PtState} {ops : List PtOp} (reachable : PtReachable L s)
    (finished : ptRun L s ops = some s') : PtReachable L s' := by
  induction ops generalizing s with
  | nil => cases finished; exact reachable
  | cons op ops inductionHypothesis =>
    obtain ⟨middle, stepped, rest⟩ := Option.bind_eq_some.mp finished
    exact inductionHypothesis (reachable.step stepped) rest

/-! ## Transport names stay distinct -/

private theorem ptStep_keeps {s s' : PtState} {op : PtOp} (stepped : ptStep L s op = some s') :
    KeepsNamesUnique s s' := by
  cases op with
  | kickstartProxy k => exact ptKickstartProxy_keeps stepped
  | configureRemainingProxies proxyUri launches => exact ptConfigureRemainingProxies_keeps L stepped
  | stdoutLine id line => exact managedProxyStdoutCallback_keeps L stepped
  | configReload kickstarts => exact configReload_keeps stepped
  | transportAddFromConfig addr port name =>
    cases stepped
    exact fun unique => transportAddFromConfig_unique L.families unique addr port name
  | markTransportList =>
    cases stepped
    intro unique
    unfold TransportNamesUnique
    rw [markTransportList_names]
    exact unique
  | sweepTransportList =>
    cases stepped
    exact sweepTransportList_unique

/-- In every reachable state `transport_list` holds each name once, so the transport
`transport_get_by_name` finds is the only one of its name, and `transport_add_from_config`
returns `0` exactly when the transport of that name is afterwards at the address and port it was
given. -/
theorem ptReachable_transportNamesUnique {s : PtState} (reachable : PtReachable L s) :
    TransportNamesUnique s.transportList ∧
      (∀ name t u, transportGetByName s.transportList name = some t → u ∈ s.transportList →
        u.name = name → u = t) ∧
      ∀ addr port name, (transportAddFromConfig L.families s.transportList addr port name).1 = 0 ↔
        ∃ t, transportGetByName (transportAddFromConfig L.families s.transportList addr port name).2
          name = some t ∧ t.addr = addr ∧ t.port = port := by
  have unique : TransportNamesUnique s.transportList := by
    induction reachable with
    | initial => exact List.nodup_nil
    | step _ stepped inductionHypothesis => exact ptStep_keeps L stepped inductionHypothesis
  exact ⟨unique, fun _ _ _ found member named => transportGetByName_only unique found member named,
    fun addr port name => transportAddFromConfig_eq_zero_iff L.families unique addr port name⟩

/-- A library to run the model with: Linux's `AF_*` values and a loopback-only `tor_inet_pton`. -/
def loopbackPtLib : PtLib :=
  ⟨linuxAddrFamilies, loopbackInetLib, fun _ => true⟩

/-- The transport lines of two configuration reads: `obfs4` at port 9050; then, with the list
marked, `obfs4` at port 9051, which replaces the marked entry, and at port 9052, which conflicts
with the now unmarked one and is refused; then the sweep. -/
def reloadedTransportOps : List PtOp :=
  [.transportAddFromConfig (.inet 0x7f000001) 9050 "obfs4".toList, .markTransportList,
    .transportAddFromConfig (.inet 0x7f000001) 9051 "obfs4".toList,
    .transportAddFromConfig (.inet 0x7f000001) 9052 "obfs4".toList, .sweepTransportList]

/-- The state after the two reads. -/
def reloadedTransportState : PtState :=
  (ptRun loopbackPtLib PtState.initial reloadedTransportOps).getD PtState.initial

/-- After the two configuration reads, `obfs4` is registered once, at port 9051. -/
theorem ptReachable_transportNamesUnique_reloaded :
    reloadedTransportState.transportList = [transportNew (.inet 0x7f000001) 9051 "obfs4".toList] ∧
      TransportNamesUnique reloadedTransportState.transportList ∧
      (∀ name t u, transportGetByName reloadedTransportState.transportList name = some t →
        u ∈ reloadedTransportState.transportList → u.name = name → u = t) ∧
      ∀ addr port name,
        (transportAddFromConfig linuxAddrFamilies reloadedTransportState.transportList addr port
            name).1 = 0 ↔
          ∃ t, transportGetByName
            (transportAddFromConfig linuxAddrFamilies reloadedTransportState.transportList addr port
              name).2 name = some t ∧ t.addr = addr ∧ t.port = port :=
  ⟨rfl, ptReachable_transportNamesUnique loopbackPtLib (PtReachable.initial.run loopbackPtLib
    (show ptRun loopbackPtLib PtState.initial reloadedTransportOps = some reloadedTransportState
      from rfl))⟩

/-! ## A completed proxy that speaks again -/

/-- A client proxy for `obfs4`, kickstarted with no outgoing proxy configured. -/
def obfs4Kickstart : Kickstart :=
  ⟨["obfs4".toList], ["obfs4proxy".toList], false, none⟩

/-- Start the proxy, launch it, let it finish its configuration with `VERSION 1` and
`CMETHODS DONE`, then have it print `CMETHODS DONE` once more. -/
def repeatedDoneOps : List PtOp :=
  [.kickstartProxy obfs4Kickstart, .configureRemainingProxies none fun _ => true,
    .stdoutLine 0 "VERSION 1".toList, .stdoutLine 0 protoCmethodsDone,
    .stdoutLine 0 protoCmethodsDone]

/-- The extra line breaks the completed proxy, `handle_finished_proxy` destroys it and
decrements `unconfigured_proxies_n` to `-1`, and the next `pt_configure_remaining_proxies` fails
`assert_unconfigured_count_ok`. -/
theorem completed_proxy_line_breaks_count :
    ∃ s, ptRun L PtState.initial repeatedDoneOps = some s ∧ s.managedProxyList = [] ∧
      s.unconfiguredProxiesN = -1 ∧ ¬UnconfiguredCountOk s ∧
      ptStep L s (.configureRemainingProxies none fun _ => true) = none := by
  obtain ⟨s, run, emptied, uncounted⟩ : ∃ s, ptRun L PtState.initial repeatedDoneOps = some s ∧
      s.managedProxyList = [] ∧ s.unconfiguredProxiesN = -1 := ⟨_, rfl, rfl, rfl⟩
  have broken : ¬UnconfiguredCountOk s := by simp [UnconfiguredCountOk, emptied, uncounted]
  refine ⟨s, run, emptied, uncounted, broken, ?_⟩
  simp [ptStep, ptConfigureRemainingProxies, assertUnconfiguredCountOk, broken]

/-! ## A proxy that announces one method twice -/

/-- A client proxy for `obfs4` and `meek`, kickstarted with no outgoing proxy configured. -/
def obfs4MeekKickstart : Kickstart :=
  ⟨["obfs4".toList, "meek".toList], ["obfs4proxy".toList], false, none⟩

/-- Start and launch the proxy, which answers `VERSION 1`, announces `obfs4` twice and no
`meek`, and finishes; then reread the same configuration and configure the remaining proxies. -/
def duplicateMethodOps : List PtOp :=
  [.kickstartProxy obfs4MeekKickstart, .configureRemainingProxies none fun _ => true,
    .stdoutLine 0 "VERSION 1".toList, .stdoutLine 0 "CMETHOD obfs4 socks5 127.0.0.1:1000".toList,
    .stdoutLine 0 "CMETHOD obfs4 socks5 127.0.0.1:1000".toList, .stdoutLine 0 protoCmethodsDone,
    .configReload [obfs4MeekKickstart], .configureRemainingProxies none fun _ => true]

/-- Two transports named `obfs4` pass the length check against `obfs4` and `meek`, so after the
reload `proxy_needs_restart` answers `0`: the proxy is kept, and `meek`, which the configuration
asks for, is never launched and never reaches `transport_list`. -/
theorem duplicate_cmethod_skips_restart :
    ∃ s mp, ptRun loopbackPtLib PtState.initial duplicateMethodOps = some s ∧
      s.managedProxyList = [mp] ∧ mp.confState = .completed ∧
      mp.transportsToLaunch = ["obfs4".toList, "meek".toList] ∧
      mp.transports.map (·.name) = ["obfs4".toList, "obfs4".toList] ∧
      proxyNeedsRestart mp none = some false ∧
      transportGetByName s.transportList "meek".toList = none :=
  ⟨_, _, rfl, rfl, rfl, rfl, rfl, rfl, rfl⟩

/-! ## Whether configuration is pending -/

/-- `pt_proxies_configuration_pending()`. -/
def ptProxiesConfigurationPending (s : PtState) : Bool :=
  s.unconfiguredProxiesN ≠ 0 || s.checkIfRestartsNeeded

/-- `get_transport_proxy_ports()`: `"%u:%u"` with the port of each transport of every completed
server proxy, and `NULL` when there is no such proxy. -/
def getTransportProxyPorts (s : PtState) : Option (List (List Char)) :=
  let completed := s.managedProxyList.filter fun mp => mp.isServer ∧ mp.confState = .completed
  if completed = [] then none
  else some (completed.flatMap fun mp =>
    mp.transports.map fun t => decimalChars t.port ++ ':' :: decimalChars t.port)

private theorem assertUnconfiguredCountOk_ok {s s' : PtState}
    (checked : assertUnconfiguredCountOk s = some s') : UnconfiguredCountOk s' := by
  unfold assertUnconfiguredCountOk at checked
  split_ifs at checked with counted
  exact Option.some.inj checked ▸ counted

/-- While the count `assert_unconfigured_count_ok` checks is right, configuration is pending
exactly when some proxy has not completed or a restart check is due. -/
theorem ptProxiesConfigurationPending_eq_false_iff {s : PtState} (counted : UnconfiguredCountOk s) :
    ptProxiesConfigurationPending s = false ↔
      (∀ mp ∈ s.managedProxyList, mp.confState = .completed) ∧ s.checkIfRestartsNeeded = false := by
  have allCompleted : (∀ mp ∈ s.managedProxyList, mp.confState = .completed) ↔
      s.unconfiguredProxiesN = 0 := by
    have everyOne := List.countP_eq_length (l := s.managedProxyList)
      (p := fun mp => decide (mp.confState = .completed))
    simp only [decide_eq_true_eq] at everyOne
    unfold UnconfiguredCountOk at counted
    rw [← everyOne]
    omega
  simp [ptProxiesConfigurationPending, allCompleted]

/-- Once a `pt_configure_remaining_proxies` call returns, configuration is pending exactly while
some proxy has not completed: the call clears `check_if_restarts_needed` and ends on
`assert_unconfigured_count_ok`. -/
theorem ptConfigureRemainingProxies_pending {s s' : PtState} {proxyUri : Option (List Char)}
    {launches : Nat → Bool} (configured : ptConfigureRemainingProxies L s proxyUri launches = some s') :
    ptProxiesConfigurationPending s' = false ↔
      ∀ mp ∈ s'.managedProxyList, mp.confState = .completed := by
  simp only [ptConfigureRemainingProxies, Option.bind_eq_some] at configured
  obtain ⟨_, -, _, -, checked⟩ := configured
  have cleared : s'.checkIfRestartsNeeded = false := by rw [assertUnconfiguredCountOk_eq checked]
  rw [ptProxiesConfigurationPending_eq_false_iff (assertUnconfiguredCountOk_ok checked), cleared]
  exact and_iff_left rfl

/-- The `obfs4` client proxy after it answered `VERSION 1` and `CMETHODS DONE`. -/
def obfs4Completed : PtState :=
  (ptRun loopbackPtLib PtState.initial [.kickstartProxy obfs4Kickstart,
    .configureRemainingProxies none fun _ => true, .stdoutLine 0 "VERSION 1".toList,
    .stdoutLine 0 protoCmethodsDone]).getD PtState.initial

/-- With its one proxy completed, `pt_configure_remaining_proxies` returns and nothing is pending.
-/
theorem ptConfigureRemainingProxies_pending_obfs4 :
    ptConfigureRemainingProxies loopbackPtLib obfs4Completed none (fun _ => true) =
        some obfs4Completed ∧
      (ptProxiesConfigurationPending obfs4Completed = false ↔
        ∀ mp ∈ obfs4Completed.managedProxyList, mp.confState = .completed) :=
  have configured : ptConfigureRemainingProxies loopbackPtLib obfs4Completed none (fun _ => true) =
      some obfs4Completed := rfl
  ⟨configured, ptConfigureRemainingProxies_pending loopbackPtLib configured⟩

example : getTransportProxyPorts obfs4Completed = none := rfl

end Nuon.Transports
