import Nuon.Transports.TransportList

/-!
# Managed proxies

A managed proxy is a pluggable-transport program Tor launches and configures over its standard
output (`feature/client/transports.c`). Its `conf_state` goes from `PT_PROTO_INFANT` through
`LAUNCHED` and `ACCEPTING_METHODS` to `CONFIGURED`, and `handle_finished_proxy` then registers its
transports and marks it `COMPLETED`, or destroys it when it is `BROKEN` or `FAILED_LAUNCH`.
`unconfigured_proxies_n` counts the proxies of `managed_proxy_list` not yet `COMPLETED`, and
`assert_unconfigured_count_ok` checks it.

The globals are a `PtState`; each entry point is a function to `Option PtState`, `none` when a
`tor_assert` fails. A proxy is known by `id`, which stands for its address: a line on a proxy's
standard output reaches it while its process's data pointer is set (`processAttached`). The list
starts empty (the code allocates it on first use; until then nothing reads it). What the code
takes from elsewhere, the `AF_*` values, `tor_inet_pton` and `string_is_C_identifier`, is a
`PtLib`.
-/

namespace Nuon.Transports

open Nuon.Net Nuon.Container

/-- `enum pt_proto_state`. -/
inductive ConfState where
  | infant
  | launched
  | acceptingMethods
  | configured
  | completed
  | broken
  | failedLaunch
  deriving DecidableEq, Repr

/-- `managed_proxy_t`, with the fields the configuration protocol reads. -/
structure ManagedProxy where
  id : Nat
  confState : ConfState
  isServer : Bool
  argv : List (List Char)
  transportsToLaunch : List (List Char)
  transports : List Transport
  proxyUri : Option (List Char)
  proxySupported : Bool
  markedForRemoval : Bool
  wasAroundBeforeConfigRead : Bool
  processAttached : Bool
  deriving DecidableEq, Repr

/-- The globals of `transports.c`: `transport_list`, `managed_proxy_list`,
`unconfigured_proxies_n`, `check_if_restarts_needed`, and the next proxy identity. -/
structure PtState where
  transportList : List Transport
  managedProxyList : List ManagedProxy
  unconfiguredProxiesN : Int
  checkIfRestartsNeeded : Bool
  nextProxyId : Nat
  deriving DecidableEq, Repr

/-- The state before any proxy or transport. -/
def PtState.initial : PtState :=
  ⟨[], [], 0, false, 0⟩

/-- What the protocol code uses from outside `transports.c`: the `AF_*` values, `tor_inet_ntop`
and `tor_inet_pton`, and `string_is_C_identifier` (`lib/string/util_string.c`). -/
structure PtLib where
  families : AddrFamilies
  inet : InetLib
  stringIsCIdentifier : List Char → Bool

/-- `PROTO_ENV_ERROR`. -/
def protoEnvError : List Char := "ENV-ERROR".toList
/-- `PROTO_NEG_SUCCESS`. -/
def protoNegSuccess : List Char := "VERSION".toList
/-- `PROTO_NEG_FAIL`. -/
def protoNegFail : List Char := "VERSION-ERROR no-version".toList
/-- `PROTO_CMETHOD`. -/
def protoCmethod : List Char := "CMETHOD".toList
/-- `PROTO_SMETHOD`. -/
def protoSmethod : List Char := "SMETHOD".toList
/-- `PROTO_CMETHOD_ERROR`. -/
def protoCmethodError : List Char := "CMETHOD-ERROR".toList
/-- `PROTO_SMETHOD_ERROR`. -/
def protoSmethodError : List Char := "SMETHOD-ERROR".toList
/-- `PROTO_CMETHODS_DONE`. -/
def protoCmethodsDone : List Char := "CMETHODS DONE".toList
/-- `PROTO_SMETHODS_DONE`. -/
def protoSmethodsDone : List Char := "SMETHODS DONE".toList
/-- `PROTO_PROXY_DONE`. -/
def protoProxyDone : List Char := "PROXY DONE".toList
/-- `PROTO_PROXY_ERROR`. -/
def protoProxyError : List Char := "PROXY-ERROR".toList

/-! ## The globals -/

/-- What `assert_unconfigured_count_ok` checks. -/
def UnconfiguredCountOk (s : PtState) : Prop :=
  ((s.managedProxyList.countP fun mp => mp.confState = .completed : Nat) : Int) +
    s.unconfiguredProxiesN = s.managedProxyList.length

instance : DecidablePred UnconfiguredCountOk := fun _ =>
  inferInstanceAs (Decidable (_ = _))

/-- `assert_unconfigured_count_ok()`. -/
def assertUnconfiguredCountOk (s : PtState) : Option PtState :=
  if UnconfiguredCountOk s then some s else none

/-- Write back a proxy the code changed in place. -/
def PtState.setProxy (s : PtState) (mp : ManagedProxy) : PtState :=
  { s with managedProxyList := s.managedProxyList.map fun p => if p.id = mp.id then mp else p }

/-- `managed_proxy_destroy(mp, ...)`: `smartlist_remove` from `managed_proxy_list`. -/
def managedProxyDestroy (s : PtState) (mp : ManagedProxy) : PtState :=
  { s with managedProxyList := smartlistRemove (fun p => p.id = mp.id) s.managedProxyList }

/-- `proxy_configuration_finished(mp)`. -/
def proxyConfigurationFinished (mp : ManagedProxy) : Bool :=
  mp.confState = .configured || mp.confState = .broken || mp.confState = .failedLaunch

/-! ## Lines from a proxy -/

variable (L : PtLib)

/-- `parse_version(line, mp)` succeeds: the line is `VERSION` and one more character, then `1`. -/
def parseVersion (line : List Char) : Bool :=
  protoNegSuccess.length + 2 ≤ line.length ∧ line.drop (protoNegSuccess.length + 1) = ['1']

/-- The address part of `parse_method_line_helper`: `tor_addr_port_split`, a nonzero port, then
`tor_addr_parse`; `none` for a malformed address. -/
def parseTransportAddress (name addrport : List Char) : Option Transport :=
  (torAddrPortSplit L.families L.inet addrport).bind fun split =>
    if split.2 = 0 then none else (torAddrParse L.inet split.1).map fun addr => transportNew addr split.2 name

/-- `parse_method_line_helper(line, mp, is_smethod)`: the transport the line announces, `some none`
for a malformed line, `none` when `tor_assert` on its first word fails. -/
def parseMethodLineHelper (line : List Char) (isSmethod : Bool) : Option (Option Transport) :=
  let items := smartlistSplitStringBlanks line true true
  let methodStr := if isSmethod then protoSmethod else protoCmethod
  let minArgsCount := if isSmethod then 3 else 4
  if items.length < minArgsCount then some none
  else if items.head? ≠ some methodStr then none
  else if !L.stringIsCIdentifier (items.getD 1 []) then some none
  else if !isSmethod ∧ items.getD 2 [] ≠ "socks4".toList ∧ items.getD 2 [] ≠ "socks5".toList then
    some none
  else some (parseTransportAddress L (items.getD 1 []) (items.getD (minArgsCount - 1) []))

/-- `handle_proxy_line(line, mp)`: the proxy afterwards, `none` when an assertion fails. Every
`goto err` marks the proxy `PT_PROTO_BROKEN`; `LOG`, `STATUS` and unknown lines change nothing. -/
def handleProxyLine (line : List Char) (mp : ManagedProxy) : Option ManagedProxy :=
  let err := some { mp with confState := .broken }
  let accepting := mp.confState = .acceptingMethods
  if strcmpstart line protoEnvError = 0 then err
  else if strcmpstart line protoNegFail = 0 then err
  else if strcmpstart line protoNegSuccess = 0 then
    if mp.confState = .launched ∧ parseVersion line then some { mp with confState := .acceptingMethods }
    else err
  else if strcmpstart line protoCmethodsDone = 0 ∨ strcmpstart line protoSmethodsDone = 0 then
    if accepting then some { mp with confState := .configured } else err
  else if strcmpstart line protoCmethodError = 0 ∨ strcmpstart line protoSmethodError = 0 then
    if accepting then some mp else err
  else if strcmpstart line protoCmethod = 0 ∨ strcmpstart line protoSmethod = 0 then
    if accepting then
      (parseMethodLineHelper L line (strcmpstart line protoCmethod ≠ 0)).map fun parsed =>
        match parsed with
        | none => { mp with confState := .broken }
        | some t => { mp with transports := mp.transports ++ [t] }
    else err
  else if strcmpstart line protoProxyDone = 0 then
    if accepting then some { mp with proxySupported := mp.proxySupported || mp.proxyUri.isSome }
    else err
  else if strcmpstart line protoProxyError = 0 then err
  else some mp

/-! ## Finished proxies -/

/-- `register_proxy(mp)`: a client proxy's transports go to `transport_list`; a server proxy's go
to the state file, which is not modelled. -/
def registerProxy (s : PtState) (mp : ManagedProxy) : PtState :=
  if mp.isServer then s
  else { s with transportList := registerTransports L.families s.transportList mp.transports }

/-- `handle_finished_proxy(mp)`. -/
def handleFinishedProxy (s : PtState) (mp : ManagedProxy) : Option PtState :=
  let handled : Option PtState :=
    match mp.confState with
    | .broken | .failedLaunch => some (managedProxyDestroy s mp)
    | .configured =>
      if mp.proxyUri.isSome ∧ !mp.proxySupported then some (managedProxyDestroy s mp)
      else some ((registerProxy L s mp).setProxy { mp with confState := .completed })
    | _ => none
  handled.map fun s => { s with unconfiguredProxiesN := s.unconfiguredProxiesN - 1 }

/-- `managed_proxy_stdout_callback(process, line, size)` on the process of proxy `id`. -/
def managedProxyStdoutCallback (s : PtState) (id : Nat) (line : List Char) : Option PtState :=
  match s.managedProxyList.find? fun mp => mp.id = id ∧ mp.processAttached with
  | none => some s
  | some mp =>
    (handleProxyLine L line mp).bind fun mp =>
      if proxyConfigurationFinished mp then handleFinishedProxy L (s.setProxy mp) mp
      else some (s.setProxy mp)

/-! ## Launching and restarting -/

/-- `configure_proxy(mp)`, with whether `process_exec` starts the program;
`launch_managed_proxy` sets the process's data pointer before it tries. -/
def configureProxy (s : PtState) (mp : ManagedProxy) (launches : Bool) : Option PtState :=
  if mp.confState = .infant then
    if launches then some (s.setProxy { mp with confState := .launched, processAttached := true })
    else
      let failed := { mp with confState := .failedLaunch, processAttached := true }
      handleFinishedProxy L (s.setProxy failed) failed
  else some s

/-- `proxy_needs_restart(mp)` with the current `get_pt_proxy_uri()`; `none` when an assertion
fails. -/
def proxyNeedsRestart (mp : ManagedProxy) (proxyUri : Option (List Char)) : Option Bool :=
  if proxyUri ≠ mp.proxyUri then some true
  else if mp.transportsToLaunch = [] ∨ mp.confState ≠ .completed then none
  else some (mp.transportsToLaunch.length ≠ mp.transports.length ∨
    mp.transports.any fun t => t.name ∉ mp.transportsToLaunch)

/-- `proxy_prepare_for_restart(mp)` with the current `get_pt_proxy_uri()`: its transports are
marked by name and `sweep_transport_list` runs (dropping every marked transport), and the proxy
is an unconfigured infant again. -/
def proxyPrepareForRestart (s : PtState) (mp : ManagedProxy) (proxyUri : Option (List Char)) :
    Option PtState :=
  if mp.confState ≠ .completed then none
  else
    let marked := mp.transports.foldl (fun list t => setMarkedByName list t.name true) s.transportList
    some ({ s with transportList := sweepTransportList marked,
                   unconfiguredProxiesN := s.unconfiguredProxiesN + 1 }.setProxy
      { mp with transports := [], proxyUri, proxySupported := false, confState := .infant,
                processAttached := false })

/-- The body of the loop of `pt_configure_remaining_proxies` for the proxy `id`. -/
def configureRemainingStep (proxyUri : Option (List Char)) (launches : Nat → Bool) (s : PtState)
    (id : Nat) : Option PtState :=
  match s.managedProxyList.find? fun mp => mp.id = id with
  | none => some s
  | some mp =>
    if mp.confState = .broken ∨ mp.confState = .failedLaunch then none
    else if mp.wasAroundBeforeConfigRead then
      let mp := { mp with wasAroundBeforeConfigRead := false }
      (proxyNeedsRestart mp proxyUri).bind fun restart =>
        if restart then proxyPrepareForRestart (s.setProxy mp) mp proxyUri else some (s.setProxy mp)
    else if proxyConfigurationFinished mp then some s
    else configureProxy L s mp (launches mp.id)

/-- `pt_configure_remaining_proxies()`, with the current `get_pt_proxy_uri()` and which programs
start. The loop runs over a copy of the list. -/
def ptConfigureRemainingProxies (s : PtState) (proxyUri : Option (List Char))
    (launches : Nat → Bool) : Option PtState :=
  (assertUnconfiguredCountOk s).bind fun s =>
    ((s.managedProxyList.map (·.id)).foldlM (configureRemainingStep L proxyUri launches) s).bind
      fun s => assertUnconfiguredCountOk { s with checkIfRestartsNeeded := false }

/-! ## Configuration reads -/

/-- `add_transport_to_proxy(transport, mp)`. -/
def addTransportToProxy (transportsToLaunch : List (List Char)) (transport : List Char) :
    List (List Char) :=
  if transport ∈ transportsToLaunch then transportsToLaunch else transportsToLaunch ++ [transport]

/-- `get_managed_proxy_by_argv_and_type(proxy_argv, is_server)`. -/
def getManagedProxyByArgvAndType (s : PtState) (argv : List (List Char)) (isServer : Bool) :
    Option ManagedProxy :=
  s.managedProxyList.find? fun mp => mp.argv = argv ∧ mp.isServer = isServer

/-- The arguments of one `pt_kickstart_proxy` call, with `get_pt_proxy_uri()` at the time. -/
structure Kickstart where
  withTransportList : List (List Char)
  argv : List (List Char)
  isServer : Bool
  proxyUri : Option (List Char)
  deriving DecidableEq, Repr

/-- `managed_proxy_create(with_transport_list, proxy_argv, is_server)`. -/
def managedProxyCreate (s : PtState) (k : Kickstart) : Option PtState :=
  let mp : ManagedProxy := ⟨s.nextProxyId, .infant, k.isServer, k.argv,
    k.withTransportList.foldl addTransportToProxy [], [], k.proxyUri, false, false, false, false⟩
  assertUnconfiguredCountOk { s with managedProxyList := s.managedProxyList ++ [mp],
                                     unconfiguredProxiesN := s.unconfiguredProxiesN + 1,
                                     nextProxyId := s.nextProxyId + 1 }

/-- `pt_kickstart_proxy(with_transport_list, proxy_argv, is_server)`. A proxy that was there
before the configuration read keeps its transports and, if it was marked, is kept too. -/
def ptKickstartProxy (s : PtState) (k : Kickstart) : Option PtState :=
  if k.argv = [] then some s
  else
    match getManagedProxyByArgvAndType s k.argv k.isServer with
    | none => managedProxyCreate s k
    | some mp =>
      let keptOld := mp.wasAroundBeforeConfigRead
      let transportList := if keptOld then
        k.withTransportList.foldl (fun list name => setMarkedByName list name false) s.transportList
        else s.transportList
      some ({ s with transportList,
                     checkIfRestartsNeeded := s.checkIfRestartsNeeded || keptOld && mp.markedForRemoval
            }.setProxy
        { mp with markedForRemoval := mp.markedForRemoval && !keptOld,
                  transportsToLaunch := k.withTransportList.foldl addTransportToProxy
                    mp.transportsToLaunch })

/-- `pt_prepare_proxy_list_for_config_read()`: unconfigured proxies are destroyed, the others
marked as having been around. -/
def ptPrepareProxyListForConfigRead (s : PtState) : Option PtState :=
  (assertUnconfiguredCountOk s).bind fun s =>
    let kept := smartlistForeachDelAll (fun mp => if mp.confState = .completed then
      some { mp with markedForRemoval := true, wasAroundBeforeConfigRead := true,
                     transportsToLaunch := [] } else none) s.managedProxyList
    let destroyed := s.managedProxyList.countP fun mp => mp.confState ≠ .completed
    (assertUnconfiguredCountOk { s with managedProxyList := kept,
                                        unconfiguredProxiesN := s.unconfiguredProxiesN - destroyed
                               }).bind fun s =>
      if s.unconfiguredProxiesN = 0 then some s else none

/-- `sweep_proxy_list()`: destroy the proxies still marked. -/
def sweepProxyList (s : PtState) : Option PtState :=
  (assertUnconfiguredCountOk s).bind fun s =>
    assertUnconfiguredCountOk { s with
      managedProxyList := smartlistForeachDelAll
        (fun mp => if mp.markedForRemoval then none else some mp) s.managedProxyList }

/-- Modelled from the spec: a configuration read as `options_act` runs it:
`pt_prepare_proxy_list_for_config_read`, the `pt_kickstart_proxy` calls of the new configuration,
then `sweep_proxy_list`. -/
def configReload (s : PtState) (kickstarts : List Kickstart) : Option PtState :=
  (ptPrepareProxyListForConfigRead s).bind fun s =>
    (kickstarts.foldlM ptKickstartProxy s).bind sweepProxyList

/-! ## What the proxy code does to `transport_list` -/

/-- A step from `s` to `s'` keeps the names of `transport_list` distinct. -/
def KeepsNamesUnique (s s' : PtState) : Prop :=
  TransportNamesUnique s.transportList → TransportNamesUnique s'.transportList

/-- A step that leaves the transport list alone keeps the names distinct. -/
theorem KeepsNamesUnique.of_eq {s s' : PtState} (same : s'.transportList = s.transportList) :
    KeepsNamesUnique s s' :=
  fun unique => same ▸ unique

/-- Two steps that keep the names distinct do so one after the other. -/
theorem KeepsNamesUnique.trans {s s' s'' : PtState} (first : KeepsNamesUnique s s')
    (second : KeepsNamesUnique s' s'') : KeepsNamesUnique s s'' :=
  fun unique => second (first unique)

/-- Updating a proxy leaves the transport list alone. -/
@[simp] theorem PtState.setProxy_transportList (s : PtState) (mp : ManagedProxy) :
    (s.setProxy mp).transportList = s.transportList := rfl

@[simp] private theorem managedProxyDestroy_transportList (s : PtState) (mp : ManagedProxy) :
    (managedProxyDestroy s mp).transportList = s.transportList := rfl

/-- `assert_unconfigured_count_ok` changes nothing when it returns. -/
theorem assertUnconfiguredCountOk_eq {s s' : PtState} (checked : assertUnconfiguredCountOk s = some s') :
    s' = s := by
  unfold assertUnconfiguredCountOk at checked
  split_ifs at checked
  exact (Option.some.inj checked).symm

/-- A loop over `Option` keeps what each pass keeps. -/
theorem foldlM_keeps {α : Type} {f : PtState → α → Option PtState}
    (pass : ∀ s a s', f s a = some s' → KeepsNamesUnique s s') :
    ∀ (xs : List α) (s s' : PtState), xs.foldlM f s = some s' → KeepsNamesUnique s s'
  | [], s, s', done => by
    cases Option.some.inj done
    exact id
  | x :: xs, s, s', done => by
    obtain ⟨s₁, first, rest⟩ := Option.bind_eq_some.mp (List.foldlM_cons f s x xs ▸ done)
    exact (pass s x s₁ first).trans (foldlM_keeps pass xs s₁ s' rest)

private theorem handleFinishedProxy_keeps {s s' : PtState} {mp : ManagedProxy}
    (handled : handleFinishedProxy L s mp = some s') : KeepsNamesUnique s s' := by
  unfold handleFinishedProxy at handled
  obtain ⟨s₁, finished, rfl⟩ := Option.map_eq_some'.mp handled
  intro unique
  show TransportNamesUnique s₁.transportList
  have registered : TransportNamesUnique (registerProxy L s mp).transportList := by
    unfold registerProxy
    split_ifs
    · exact unique
    · exact registerTransports_unique L.families unique mp.transports
  split at finished
  · cases finished
    exact unique
  · cases finished
    exact unique
  · split_ifs at finished <;> cases finished
    · exact unique
    · exact registered
  · cases finished

/-- A line on a proxy's standard output keeps the transport names distinct. -/
theorem managedProxyStdoutCallback_keeps {s s' : PtState} {id : Nat} {line : List Char}
    (handled : managedProxyStdoutCallback L s id line = some s') : KeepsNamesUnique s s' := by
  unfold managedProxyStdoutCallback at handled
  split at handled
  · cases handled
    exact .of_eq rfl
  · obtain ⟨mp, -, finished⟩ := Option.bind_eq_some.mp handled
    split_ifs at finished
    · have handled := handleFinishedProxy_keeps L finished
      exact (KeepsNamesUnique.of_eq rfl).trans handled
    · cases finished
      exact .of_eq rfl

private theorem configureProxy_keeps {s s' : PtState} {mp : ManagedProxy} {launches : Bool}
    (configured : configureProxy L s mp launches = some s') : KeepsNamesUnique s s' := by
  unfold configureProxy at configured
  split_ifs at configured
  · cases configured
    exact .of_eq rfl
  · have handled := handleFinishedProxy_keeps L configured
    exact (KeepsNamesUnique.of_eq rfl).trans handled
  · cases configured
    exact .of_eq rfl

private theorem proxyPrepareForRestart_keeps {s s' : PtState} {mp : ManagedProxy}
    {proxyUri : Option (List Char)} (prepared : proxyPrepareForRestart s mp proxyUri = some s') :
    KeepsNamesUnique s s' := by
  unfold proxyPrepareForRestart at prepared
  split_ifs at prepared
  cases prepared
  intro unique
  apply sweepTransportList_unique
  unfold TransportNamesUnique
  rw [foldl_setMarkedByName_names]
  exact unique

private theorem configureRemainingStep_keeps {proxyUri : Option (List Char)} {launches : Nat → Bool}
    {s s' : PtState} {id : Nat} (configured : configureRemainingStep L proxyUri launches s id = some s') :
    KeepsNamesUnique s s' := by
  unfold configureRemainingStep at configured
  split at configured
  · cases configured
    exact .of_eq rfl
  · split_ifs at configured
    · obtain ⟨restart, -, restarted⟩ := Option.bind_eq_some.mp configured
      split_ifs at restarted
      · have prepared := proxyPrepareForRestart_keeps restarted
        exact (KeepsNamesUnique.of_eq rfl).trans prepared
      · cases restarted
        exact .of_eq rfl
    · cases configured
      exact .of_eq rfl
    · exact configureProxy_keeps L configured

/-- `pt_configure_remaining_proxies` keeps the transport names distinct. -/
theorem ptConfigureRemainingProxies_keeps {s s' : PtState} {proxyUri : Option (List Char)}
    {launches : Nat → Bool} (configured : ptConfigureRemainingProxies L s proxyUri launches = some s') :
    KeepsNamesUnique s s' := by
  obtain ⟨s₁, checked, rest⟩ := Option.bind_eq_some.mp configured
  obtain ⟨s₂, looped, finalCheck⟩ := Option.bind_eq_some.mp rest
  cases assertUnconfiguredCountOk_eq checked
  cases assertUnconfiguredCountOk_eq finalCheck
  have loop := foldlM_keeps (fun _ _ _ pass => configureRemainingStep_keeps L pass) _ _ _ looped
  exact loop.trans (.of_eq rfl)

/-- `pt_kickstart_proxy` keeps the transport names distinct. -/
theorem ptKickstartProxy_keeps {s s' : PtState} {k : Kickstart}
    (kickstarted : ptKickstartProxy s k = some s') : KeepsNamesUnique s s' := by
  unfold ptKickstartProxy at kickstarted
  split_ifs at kickstarted
  · cases kickstarted
    exact .of_eq rfl
  · split at kickstarted
    · cases assertUnconfiguredCountOk_eq kickstarted
      exact .of_eq rfl
    · cases kickstarted
      intro unique
      simp only [PtState.setProxy_transportList]
      split_ifs
      · unfold TransportNamesUnique
        rw [foldl_setMarkedByName_names _ (fun name => name)]
        exact unique
      · exact unique

private theorem ptPrepareProxyListForConfigRead_keeps {s s' : PtState}
    (prepared : ptPrepareProxyListForConfigRead s = some s') : KeepsNamesUnique s s' := by
  obtain ⟨s₁, checked, rest⟩ := Option.bind_eq_some.mp prepared
  obtain ⟨s₂, rechecked, zero⟩ := Option.bind_eq_some.mp rest
  cases assertUnconfiguredCountOk_eq checked
  cases assertUnconfiguredCountOk_eq rechecked
  split_ifs at zero
  cases zero
  exact .of_eq rfl

private theorem sweepProxyList_keeps {s s' : PtState} (swept : sweepProxyList s = some s') :
    KeepsNamesUnique s s' := by
  obtain ⟨s₁, checked, rechecked⟩ := Option.bind_eq_some.mp swept
  cases assertUnconfiguredCountOk_eq checked
  cases assertUnconfiguredCountOk_eq rechecked
  exact .of_eq rfl

/-- A configuration read keeps the transport names distinct. -/
theorem configReload_keeps {s s' : PtState} {kickstarts : List Kickstart}
    (reloaded : configReload s kickstarts = some s') : KeepsNamesUnique s s' := by
  obtain ⟨s₁, prepared, rest⟩ := Option.bind_eq_some.mp reloaded
  obtain ⟨s₂, kickstarted, swept⟩ := Option.bind_eq_some.mp rest
  exact (ptPrepareProxyListForConfigRead_keeps prepared).trans
    ((foldlM_keeps (fun _ _ _ pass => ptKickstartProxy_keeps pass) _ _ _ kickstarted).trans
      (sweepProxyList_keeps swept))

/-! ## When `proxy_needs_restart` answers no -/

/-- `add_transport_to_proxy` adds a name only if it is not there yet. -/
theorem addTransportToProxy_nodup {transportsToLaunch : List (List Char)}
    (distinct : transportsToLaunch.Nodup) (transport : List Char) :
    (addTransportToProxy transportsToLaunch transport).Nodup := by
  unfold addTransportToProxy
  split_ifs with known
  · exact distinct
  · simpa [List.nodup_append, known] using distinct

/-- So a `transports_to_launch` built by `add_transport_to_proxy` holds each name once. -/
theorem foldl_addTransportToProxy_nodup (names : List (List Char))
    {transportsToLaunch : List (List Char)} (distinct : transportsToLaunch.Nodup) :
    (names.foldl addTransportToProxy transportsToLaunch).Nodup := by
  induction names generalizing transportsToLaunch with
  | nil => exact distinct
  | cons name names ih => exact ih (addTransportToProxy_nodup distinct name)

/-- Between two lists without repeats, equal lengths and inclusion are the same as equal
sets. -/
theorem length_eq_and_subset_iff {α : Type} {l l' : List α} (distinct : l.Nodup)
    (distinct' : l'.Nodup) : (l'.length = l.length ∧ ∀ x ∈ l, x ∈ l') ↔ ∀ x, x ∈ l ↔ x ∈ l' := by
  constructor
  · rintro ⟨sameLength, included⟩
    exact fun _ => ((distinct.subperm included).perm_of_length_le sameLength.le).mem_iff
  · intro sameSet
    have perm := (List.perm_ext_iff_of_nodup distinct distinct').mpr sameSet
    exact ⟨perm.length_eq.symm, fun x member => perm.mem_iff.mp member⟩

/-- `proxy_needs_restart` compares the number of launched transports with the number to launch
and checks that each launched name is to be launched. When the launched names are distinct this
is equality of the two name sets, so a `0` answer leaves no requested transport unlaunched. -/
theorem proxyNeedsRestart_eq_some_false_iff {mp : ManagedProxy} {proxyUri : Option (List Char)}
    (launchDistinct : mp.transportsToLaunch.Nodup)
    (namesDistinct : (mp.transports.map (·.name)).Nodup) :
    proxyNeedsRestart mp proxyUri = some false ↔
      proxyUri = mp.proxyUri ∧ mp.transportsToLaunch ≠ [] ∧ mp.confState = .completed ∧
        ∀ name, name ∈ mp.transports.map (·.name) ↔ name ∈ mp.transportsToLaunch := by
  rw [← length_eq_and_subset_iff namesDistinct launchDistinct, List.length_map]
  unfold proxyNeedsRestart
  by_cases sameUri : proxyUri = mp.proxyUri
  · by_cases asserted : mp.transportsToLaunch = [] ∨ mp.confState ≠ .completed
    · simp only [sameUri, ne_eq, not_true_eq_false, if_false, if_pos asserted]
      tauto
    · rw [not_or, not_not] at asserted
      simp [sameUri, asserted]
  · simp [sameUri]

end Nuon.Transports
