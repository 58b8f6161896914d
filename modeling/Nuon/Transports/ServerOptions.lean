import Nuon.Transports.ManagedProxy
import Nuon.Transports.SocksArgs
import Nuon.Net.Classify

/-!
# The environment of a server proxy

A server proxy learns its transports' options from `TOR_PT_SERVER_TRANSPORT_OPTIONS` and where
to listen from `TOR_PT_SERVER_BINDADDR`. `get_transport_options_for_server_proxy` writes each
option of each transport to launch as `transport:option`, the option escaped with a backslash
before `:`, `;` and `\`, and joins them with `;`; `get_bindaddr_for_server_proxy` writes
`transport-address` for each, joined with `,`. The options and addresses are read from the
configuration and the state file, outside these sources, so they are parameters.

Read back as the pluggable-transport specification says (split at the unescaped `;`, unescape,
split at the first `:`), the options string gives every pair of a transport and an option, in the
order of the loops (`getTransportOptionsForServerProxy_roundTrip`). Only the options are escaped:
the round trip needs transport names without `:`, `;` or `\`, which `ServerTransportPlugin` names,
C identifiers, are. The bind addresses read back likewise, for names without `,` or `-` and
addresses without `,` (`getBindaddrForServerProxy_roundTrip`).

`create_managed_proxy_environment` sets these two among the `TOR_PT_*` variables it gives a
proxy. The list of variables it sets is modelled; the merge into tor's own environment
(`set_environment_variable_in_smartlist`, outside these sources) is not.
-/

namespace Nuon.Transports

/-- The characters `get_transport_options_for_server_proxy` escapes in an option. -/
def serverOptionChars : List Char := [':', ';', '\\']

section Environment

variable (sizeMax : Nat) (serverTransportOptions : List Char → Option (List (List Char)))
  (storedBindaddr : List Char → List Char)

/-- `get_transport_options_for_server_proxy(mp)`. `serverTransportOptions` is
`pt_get_options_for_server_transport`: the options `ServerTransportOptions` gives a transport,
`none` for its `NULL`. The outer `none` is the `tor_assert` on a client proxy, or an escape that
returns `NULL` into `%s`; the inner `none` is the `NULL` returned when no transport has options. -/
def getTransportOptionsForServerProxy (mp : ManagedProxy) : Option (Option (List Char)) :=
  if !mp.isServer then none
  else
    (mp.transportsToLaunch.mapM fun transport =>
      ((serverTransportOptions transport).getD []).mapM fun options =>
        (torEscapeStrForPtArgs sizeMax options serverOptionChars).map fun escapedOpts =>
          transport ++ ':' :: escapedOpts).map fun chunks =>
      if chunks.flatten.length ≠ 0 then some (smartlistJoinStrings chunks.flatten [';']) else none

/-- `get_bindaddr_for_server_proxy(mp)`. `storedBindaddr` is
`get_stored_bindaddr_for_server_transport`, which always returns an address; `none` is the
`tor_assert` on a client proxy. -/
def getBindaddrForServerProxy (mp : ManagedProxy) : Option (List Char) :=
  if !mp.isServer then none
  else some (smartlistJoinStrings (mp.transportsToLaunch.map fun t => t ++ '-' :: storedBindaddr t)
    [','])

/-- The pairs of a transport and one of its options, in the order the loops visit them. -/
def serverTransportOptionPairs (transports : List (List Char)) : List (List Char × List Char) :=
  transports.flatMap fun t => ((serverTransportOptions t).getD []).map (t, ·)

end Environment

/-- The text before the first `c` and the text after it. -/
def splitAtFirst (c : Char) (s : List Char) : List Char × List Char :=
  (s.takeWhile (· ≠ c), (s.dropWhile (· ≠ c)).drop 1)

/-- `TOR_PT_SERVER_TRANSPORT_OPTIONS` as the specification reads it: split at every unescaped
`;`, unescape, and split each piece at its first `:`. -/
def readServerTransportOptions (s : List Char) : List (List Char × List Char) :=
  (unescapeSocksArgs s).map (splitAtFirst ':')

/-- `TOR_PT_SERVER_BINDADDR` read back: split at every `,`, and each piece at its first `-`. -/
def readServerBindaddr (s : List Char) : List (List Char × List Char) :=
  (s.splitOn ',').map (splitAtFirst '-')

/-! ## Splitting at a character -/

private theorem splitAtFirst_append {c : Char} {s : List Char} (absent : c ∉ s) (t : List Char) :
    splitAtFirst c (s ++ c :: t) = (s, t) := by
  induction s with
  | nil => simp [splitAtFirst]
  | cons d s inductionHypothesis =>
    have other : d ≠ c := fun same => absent (same ▸ List.mem_cons_self d s)
    have rest := inductionHypothesis fun member => absent (List.mem_cons_of_mem d member)
    simp only [splitAtFirst, List.cons_append, List.takeWhile_cons, List.dropWhile_cons, other,
      ne_eq, not_false_eq_true, decide_True, if_true, Prod.mk.injEq] at rest ⊢
    exact ⟨congrArg (d :: ·) rest.1, rest.2⟩

/-! ## Reading escaped text -/

/-- Text without `;` and `\` reads back unchanged as the start of the first piece. -/
theorem unescapeSocksArgs_plain_append {s : List Char} (plain : ∀ c ∈ s, c ≠ ';' ∧ c ≠ '\\')
    (t : List Char) :
    unescapeSocksArgs (s ++ t) = (unescapeSocksArgs t).modifyHead (s ++ ·) := by
  induction s with
  | nil =>
    show unescapeSocksArgs t = (unescapeSocksArgs t).modifyHead ([] ++ ·)
    cases unescapeSocksArgs t <;> rfl
  | cons c s inductionHypothesis =>
    obtain ⟨notSemicolon, notBackslash⟩ := plain c (List.mem_cons_self c s)
    rw [List.cons_append, unescapeSocksArgs_plain notSemicolon notBackslash,
      inductionHypothesis fun d member => plain d (List.mem_cons_of_mem c member),
      List.modifyHead_modifyHead]
    rfl

/-- Pieces that each read back as some text, joined with `;`, read back as those texts. -/
theorem unescapeSocksArgs_join_map {α : Type} {xs : List α} {piece text : α → List Char}
    (reads : ∀ x ∈ xs, ∀ t,
      unescapeSocksArgs (piece x ++ t) = (unescapeSocksArgs t).modifyHead (text x ++ ·))
    (nonempty : xs ≠ []) :
    unescapeSocksArgs (smartlistJoinStrings (xs.map piece) [';']) = xs.map text := by
  induction xs with
  | nil => contradiction
  | cons x xs inductionHypothesis =>
    have first := reads x (List.mem_cons_self x xs)
    cases xs with
    | nil => simpa [smartlistJoinStrings, List.intercalate, unescapeSocksArgs] using first []
    | cons y xs =>
      have joined : smartlistJoinStrings ((x :: y :: xs).map piece) [';'] =
          piece x ++ ';' :: smartlistJoinStrings ((y :: xs).map piece) [';'] := by
        simp [smartlistJoinStrings, List.intercalate, List.intersperse_cons₂]
      rw [joined, first, unescapeSocksArgs_semicolon,
        inductionHypothesis (fun z member => reads z (List.mem_cons_of_mem x member))
          (List.cons_ne_nil _ _), List.map_cons, List.modifyHead_cons, List.append_nil]
      rfl

/-! ## The options string -/

private theorem mapM_eq_some_map {α β : Type} {f : α → Option β} {g : α → β} {l : List α}
    (agrees : ∀ x ∈ l, f x = some (g x)) : l.mapM f = some (l.map g) := by
  induction l with
  | nil => rfl
  | cons x l inductionHypothesis =>
    simp only [List.mapM_cons, agrees x (List.mem_cons_self x l),
      inductionHypothesis fun y member => agrees y (List.mem_cons_of_mem x member), Option.bind_eq_bind,
      Option.some_bind, Option.pure_def, List.map_cons]

private theorem torEscapeStrForPtArgs_of_short {sizeMax : Nat} {string : List Char}
    (short : string.length ≤ (sizeMax - 1) / 2) (charsToEscape : List Char) :
    torEscapeStrForPtArgs sizeMax string charsToEscape = some (escapeChars charsToEscape string) := by
  unfold torEscapeStrForPtArgs
  split_ifs with empty long
  · rw [List.length_eq_zero.mp empty]
    rfl
  · omega
  · rfl

/-- What the code writes for one pair. -/
def serverOptionEntry (pair : List Char × List Char) : List Char :=
  pair.1 ++ ':' :: escapeChars serverOptionChars pair.2

/-- A pair with a transport name without `:`, `;` and `\` reads back from its entry. -/
theorem readServerTransportOptions_entry {pair : List Char × List Char}
    (clean : ':' ∉ pair.1 ∧ ';' ∉ pair.1 ∧ '\\' ∉ pair.1) (t : List Char) :
    unescapeSocksArgs (serverOptionEntry pair ++ t) =
      (unescapeSocksArgs t).modifyHead ((pair.1 ++ ':' :: pair.2) ++ ·) := by
  have plain : ∀ c ∈ pair.1 ++ [':'], c ≠ ';' ∧ c ≠ '\\' := by
    intro c member
    rcases List.mem_append.mp member with inName | colon
    · exact ⟨fun same => clean.2.1 (same ▸ inName), fun same => clean.2.2 (same ▸ inName)⟩
    · rw [List.mem_singleton.mp colon]
      decide
  have split : serverOptionEntry pair ++ t =
      (pair.1 ++ [':']) ++ (escapeChars serverOptionChars pair.2 ++ t) := by
    simp [serverOptionEntry]
  rw [split, unescapeSocksArgs_plain_append plain,
    unescapeSocksArgs_escapeChars_of_mem (by decide) (by decide), List.modifyHead_modifyHead]
  simp [Function.comp_def]

section Environment

variable (sizeMax : Nat) (serverTransportOptions : List Char → Option (List (List Char)))

/-- The chunks the loops add for a server proxy whose options all escape. -/
theorem getTransportOptionsForServerProxy_eq {mp : ManagedProxy} (server : mp.isServer = true)
    (short : ∀ pair ∈ serverTransportOptionPairs serverTransportOptions mp.transportsToLaunch,
      pair.2.length ≤ (sizeMax - 1) / 2) :
    getTransportOptionsForServerProxy sizeMax serverTransportOptions mp =
      some (let entries := (serverTransportOptionPairs serverTransportOptions
          mp.transportsToLaunch).map serverOptionEntry
        if entries.length ≠ 0 then some (smartlistJoinStrings entries [';']) else none) := by
  have escaped : mp.transportsToLaunch.mapM (fun transport =>
      ((serverTransportOptions transport).getD []).mapM fun options =>
        (torEscapeStrForPtArgs sizeMax options serverOptionChars).map fun escapedOpts =>
          transport ++ ':' :: escapedOpts) =
      some (mp.transportsToLaunch.map fun transport =>
        ((serverTransportOptions transport).getD []).map fun options =>
          serverOptionEntry (transport, options)) := by
    refine mapM_eq_some_map fun transport member => mapM_eq_some_map fun options given => ?_
    rw [torEscapeStrForPtArgs_of_short (short (transport, options) (List.mem_flatMap.mpr
      ⟨transport, member, List.mem_map.mpr ⟨options, given, rfl⟩⟩)), Option.map_some']
    rfl
  have flattened : (mp.transportsToLaunch.map fun transport =>
      ((serverTransportOptions transport).getD []).map fun options =>
        serverOptionEntry (transport, options)).flatten =
      (serverTransportOptionPairs serverTransportOptions mp.transportsToLaunch).map
        serverOptionEntry := by
    simp [serverTransportOptionPairs, List.map_flatMap, List.flatMap, Function.comp_def]
  rw [getTransportOptionsForServerProxy, server, Bool.not_true, if_neg Bool.false_ne_true, escaped,
    Option.map_some', flattened]

/-- For a server proxy whose transport names hold no `:`, `;` or `\` and whose options all
escape, `get_transport_options_for_server_proxy` returns `NULL` exactly when no transport has
options, and otherwise a string that reads back as every pair of a transport and one of its
options, in order. -/
theorem getTransportOptionsForServerProxy_roundTrip {mp : ManagedProxy}
    (server : mp.isServer = true)
    (names : ∀ t ∈ mp.transportsToLaunch, ':' ∉ t ∧ ';' ∉ t ∧ '\\' ∉ t)
    (short : ∀ pair ∈ serverTransportOptionPairs serverTransportOptions mp.transportsToLaunch,
      pair.2.length ≤ (sizeMax - 1) / 2) :
    ∃ result, getTransportOptionsForServerProxy sizeMax serverTransportOptions mp = some result ∧
      (serverTransportOptionPairs serverTransportOptions mp.transportsToLaunch = [] →
        result = none) ∧
      (serverTransportOptionPairs serverTransportOptions mp.transportsToLaunch ≠ [] →
        ∃ s, result = some s ∧ readServerTransportOptions s =
          serverTransportOptionPairs serverTransportOptions mp.transportsToLaunch) := by
  refine ⟨_, getTransportOptionsForServerProxy_eq sizeMax serverTransportOptions server short,
    fun empty => by simp only [empty, List.map_nil, List.length_nil, ne_eq, not_true_eq_false,
      if_false], fun nonempty => ⟨_, by
        rw [if_pos (by simpa [List.length_eq_zero] using nonempty)], ?_⟩⟩
  have clean : ∀ pair ∈ serverTransportOptionPairs serverTransportOptions mp.transportsToLaunch,
      ':' ∉ pair.1 ∧ ';' ∉ pair.1 ∧ '\\' ∉ pair.1 := by
    intro pair member
    obtain ⟨t, named, inOptions⟩ := List.mem_flatMap.mp member
    obtain ⟨option, -, rfl⟩ := List.mem_map.mp inOptions
    exact names t named
  rw [readServerTransportOptions, unescapeSocksArgs_join_map
    (fun pair member => readServerTransportOptions_entry (clean pair member)) nonempty,
    List.map_map]
  conv_rhs => rw [← List.map_id (serverTransportOptionPairs serverTransportOptions
    mp.transportsToLaunch)]
  refine List.map_congr_left fun pair member => ?_
  simp only [Function.comp_apply, splitAtFirst_append (clean pair member).1, id]

/-- A server proxy launching `obfs4` and `meek`. -/
def obfs4MeekProxy : ManagedProxy :=
  ⟨0, .infant, true, ["obfs4proxy".toList], ["obfs4".toList, "meek".toList], [], none, false,
    false, false, false⟩

/-- `ServerTransportOptions` with two options for `obfs4`, one of them holding a `;`, and none for
`meek`. -/
def obfs4Options (transport : List Char) : Option (List (List Char)) :=
  if transport = "obfs4".toList then some ["cert=a;b".toList, "iat-mode=0".toList] else none

/-- The options of the `obfs4` and `meek` server proxy read back from their string. -/
theorem getTransportOptionsForServerProxy_roundTrip_obfs4 :
    obfs4MeekProxy.isServer = true ∧
      (∀ t ∈ obfs4MeekProxy.transportsToLaunch, ':' ∉ t ∧ ';' ∉ t ∧ '\\' ∉ t) ∧
      (∀ pair ∈ serverTransportOptionPairs obfs4Options obfs4MeekProxy.transportsToLaunch,
        pair.2.length ≤ (64 - 1) / 2) ∧
      ∃ result, getTransportOptionsForServerProxy 64 obfs4Options obfs4MeekProxy = some result ∧
        (serverTransportOptionPairs obfs4Options obfs4MeekProxy.transportsToLaunch = [] →
          result = none) ∧
        (serverTransportOptionPairs obfs4Options obfs4MeekProxy.transportsToLaunch ≠ [] →
          ∃ s, result = some s ∧ readServerTransportOptions s =
            serverTransportOptionPairs obfs4Options obfs4MeekProxy.transportsToLaunch) :=
  have names : ∀ t ∈ obfs4MeekProxy.transportsToLaunch, ':' ∉ t ∧ ';' ∉ t ∧ '\\' ∉ t := by
    decide
  have short : ∀ pair ∈ serverTransportOptionPairs obfs4Options obfs4MeekProxy.transportsToLaunch,
      pair.2.length ≤ (64 - 1) / 2 := by decide
  ⟨rfl, names, short, getTransportOptionsForServerProxy_roundTrip 64 obfs4Options rfl names short⟩

end Environment

section Bindaddr

variable (storedBindaddr : List Char → List Char)

/-- For a server proxy launching at least one transport, with names free of `,` and `-` and
stored addresses free of `,`, `get_bindaddr_for_server_proxy` returns a string that reads back as
each transport with its address, in order. -/
theorem getBindaddrForServerProxy_roundTrip {mp : ManagedProxy} (server : mp.isServer = true)
    (launching : mp.transportsToLaunch ≠ [])
    (names : ∀ t ∈ mp.transportsToLaunch, ',' ∉ t ∧ '-' ∉ t)
    (addresses : ∀ t ∈ mp.transportsToLaunch, ',' ∉ storedBindaddr t) :
    ∃ s, getBindaddrForServerProxy storedBindaddr mp = some s ∧
      readServerBindaddr s = mp.transportsToLaunch.map fun t => (t, storedBindaddr t) := by
  have noComma : ∀ piece ∈ mp.transportsToLaunch.map (fun t => t ++ '-' :: storedBindaddr t),
      ',' ∉ piece := by
    intro piece member comma
    obtain ⟨t, launched, rfl⟩ := List.mem_map.mp member
    rcases List.mem_append.mp comma with inName | inAddress
    · exact (names t launched).1 inName
    · exact absurd (List.mem_cons.mp inAddress) (by simpa using addresses t launched)
  refine ⟨_, by rw [getBindaddrForServerProxy, server]; rfl, ?_⟩
  rw [readServerBindaddr, smartlistJoinStrings, List.splitOn_intercalate _ ',' noComma
    (by simpa using launching), List.map_map]
  exact List.map_congr_left fun t launched => splitAtFirst_append (names t launched).2 _

/-- The bind addresses of the `obfs4` and `meek` server proxy read back from their string. -/
theorem getBindaddrForServerProxy_roundTrip_obfs4 :
    obfs4MeekProxy.isServer = true ∧ obfs4MeekProxy.transportsToLaunch ≠ [] ∧
      (∀ t ∈ obfs4MeekProxy.transportsToLaunch, ',' ∉ t ∧ '-' ∉ t) ∧
      (∀ t ∈ obfs4MeekProxy.transportsToLaunch, ',' ∉ (fun _ => "127.0.0.1:4430".toList) t) ∧
      ∃ s, getBindaddrForServerProxy (fun _ => "127.0.0.1:4430".toList) obfs4MeekProxy = some s ∧
        readServerBindaddr s = obfs4MeekProxy.transportsToLaunch.map
          fun t => (t, "127.0.0.1:4430".toList) :=
  have names : ∀ t ∈ obfs4MeekProxy.transportsToLaunch, ',' ∉ t ∧ '-' ∉ t := by decide
  have addresses : ∀ t ∈ obfs4MeekProxy.transportsToLaunch,
      ',' ∉ (fun _ => "127.0.0.1:4430".toList) t := by decide
  ⟨rfl, List.cons_ne_nil _ _, names, addresses,
    getBindaddrForServerProxy_roundTrip (fun _ => "127.0.0.1:4430".toList) rfl
      (List.cons_ne_nil _ _) names addresses⟩

end Bindaddr

/-! ## The variables a proxy is given -/

open Nuon.Net

/-- What `create_managed_proxy_environment` reads outside `transports.c`: the `pt_state/`
directory (`get_datadir_fname`), the first OR and ExtOR listeners as
`get_first_listener_addrport_string` prints them (`none` for `NULL`), whether `ExtORPort` is
configured, `get_ext_or_auth_cookie_file_name`, and the `OUTBOUND_ADDR_PT` and
`OUTBOUND_ADDR_ANY` rows of `OutboundBindAddresses`, indexed `0` for `AF_INET` and `1` for
`AF_INET6`. -/
structure ProxyEnvOptions where
  ptStateDir : List Char
  orListener : Option (List Char)
  extOrPortLines : Bool
  extOrListener : Option (List Char)
  extOrAuthCookieFile : Option (List Char)
  outboundBindAddressPT : Fin 2 → TorAddr
  outboundBindAddressAny : Fin 2 → TorAddr

/-- `managed_proxy_outbound_address(options, family)`: the `OutboundBindAddressPT` address of the
family, else the `OutboundBindAddress` one, else `NULL`. The outer `none` is the
`tor_assert_unreached` on a family other than `AF_INET` and `AF_INET6`. -/
def managedProxyOutboundAddress (F : AddrFamilies) (options : ProxyEnvOptions) (family : Nat) :
    Option (Option TorAddr) :=
  let familyIndex : Option (Fin 2) :=
    if family = F.inet then some 0 else if family = F.inet6 then some 1 else none
  familyIndex.map fun i =>
    if !torAddrIsNull (options.outboundBindAddressPT i) then some (options.outboundBindAddressPT i)
    else if !torAddrIsNull (options.outboundBindAddressAny i) then
      some (options.outboundBindAddressAny i)
    else none

/-- `"NAME=value"`. -/
def envVar (name value : List Char) : List Char :=
  name ++ '=' :: value

section ProxyEnvironment

variable (F : AddrFamilies) (I : InetLib) (sizeMax : Nat)
  (serverTransportOptions : List Char → Option (List (List Char)))
  (storedBindaddr : List Char → List Char) (options : ProxyEnvOptions)

/-- The variables only a server proxy is given. -/
def serverSideVariables (mp : ManagedProxy) : Option (List (List Char)) :=
  (getBindaddrForServerProxy storedBindaddr mp).bind fun bindaddr =>
    (getTransportOptionsForServerProxy sizeMax serverTransportOptions mp).map fun transportOptions =>
      options.orListener.toList.map (envVar "TOR_PT_ORPORT".toList) ++
      [envVar "TOR_PT_SERVER_BINDADDR".toList bindaddr] ++
      transportOptions.toList.map (envVar "TOR_PT_SERVER_TRANSPORT_OPTIONS".toList) ++
      if options.extOrPortLines then
        options.extOrListener.toList.map (envVar "TOR_PT_EXTENDED_SERVER_PORT".toList) ++
          options.extOrAuthCookieFile.toList.map (envVar "TOR_PT_AUTH_COOKIE_FILE".toList)
      else [envVar "TOR_PT_EXTENDED_SERVER_PORT".toList []]

/-- `create_managed_proxy_environment(mp)`: the variables it sets, in order. `none` is a
`tor_assert` failure or a `NULL` printed with `%s`. -/
def createManagedProxyEnvironment (mp : ManagedProxy) : Option (List (List Char)) :=
  (if mp.isServer then serverSideVariables sizeMax serverTransportOptions storedBindaddr options mp
    else some (mp.proxyUri.toList.map (envVar "TOR_PT_PROXY".toList))).bind fun side =>
  (managedProxyOutboundAddress F options F.inet).bind fun ipv4Addr =>
  (managedProxyOutboundAddress F options F.inet6).map fun ipv6Addr =>
    [envVar "TOR_PT_STATE_LOCATION".toList options.ptStateDir,
      envVar "TOR_PT_MANAGED_TRANSPORT_VER".toList ['1'],
      envVar (if mp.isServer then "TOR_PT_SERVER_TRANSPORTS".toList
        else "TOR_PT_CLIENT_TRANSPORTS".toList)
        (smartlistJoinStrings mp.transportsToLaunch [','])] ++
    side ++ [envVar "TOR_PT_EXIT_ON_STDIN_CLOSE".toList ['1']] ++
    ipv4Addr.toList.map (fun a => envVar "TOR_PT_OUTBOUND_BIND_ADDRESS_V4".toList
      (torAddrToStrDup I a)) ++
    ipv6Addr.toList.map (fun a => envVar "TOR_PT_OUTBOUND_BIND_ADDRESS_V6".toList
      ('[' :: torAddrToStrDup I a ++ [']']))

end ProxyEnvironment

end Nuon.Transports
