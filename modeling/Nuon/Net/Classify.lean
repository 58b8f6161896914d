import Nuon.Net.Address
import Nuon.Container.Smartlist

/-!
# Classifying addresses, and choosing an interface address

`address.c` sorts addresses by masks on their host-order words: internal ones (private,
shared, link-local and loopback ranges, `tor_addr_is_internal_`), loopback, multicast and null
ones. An IPv4-mapped IPv6 address is classified by the IPv4 address in its last word, so two
addresses that `CMP_SEMANTIC` calls equal are internal together or not at all
(`torAddrIsInternal_semantic`). Every loopback address is internal, and listening only takes
`0.0.0.0`, `::` and `100.64/10` out of the internal ones (`torAddrIsInternal_loopback`).

`get_interface_address6` asks the interfaces for their addresses (`get_interface_addresses_raw`,
platform code) and drops loopback and multicast ones; if none is left it falls back on the
address a UDP socket gets bound to. It returns the first address that is not internal, or else
the last one. Whatever the interfaces and the socket report, the address it returns is neither
loopback nor multicast, and it is internal only when every candidate is
(`getInterfaceAddress6_spec`).
-/

namespace Nuon.Net

open Nuon.Container

/-- Modelled from the spec: `ntohl(addr32[k])`: the `k`-th four-byte word of an IPv6 address, in
host order. -/
def in6Word (a : In6Addr) (k : Nat) : Nat :=
  bigEndian ((a.bytes.drop (4 * k)).take 4)

/-- The `AF_INET` tests of `tor_addr_is_internal_` on the host-order value `iph4`. -/
def ipv4hIsInternal (iph4 : Nat) (forListening : Bool) : Bool :=
  if forListening && (iph4 == 0 || iph4 &&& 0xffc00000 == 0x64400000) then false
  else
    iph4 &&& 0xff000000 == 0x0a000000 || iph4 &&& 0xff000000 == 0x00000000 ||
      iph4 &&& 0xff000000 == 0x7f000000 || iph4 &&& 0xffc00000 == 0x64400000 ||
      iph4 &&& 0xffff0000 == 0xa9fe0000 || iph4 &&& 0xfff00000 == 0xac100000 ||
      iph4 &&& 0xffff0000 == 0xc0a80000

/-- The `AF_INET6` tests of `tor_addr_is_internal_` on the words `iph6[0..3]` of `a`. -/
def ipv6IsInternal (a : In6Addr) (forListening : Bool) : Bool :=
  if forListening && in6Word a 0 == 0 && in6Word a 1 == 0 && in6Word a 2 == 0 &&
      in6Word a 3 == 0 then false
  else if in6Word a 0 &&& 0xfe000000 == 0xfc000000 || in6Word a 0 &&& 0xffc00000 == 0xfe800000 ||
      in6Word a 0 &&& 0xffc00000 == 0xfec00000 then true
  else in6Word a 0 == 0 && in6Word a 1 == 0 && in6Word a 2 == 0 && in6Word a 3 &&& 0xfffffffe == 0

/-- `tor_addr_is_internal_(addr, for_listening, filename, lineno)`. An IPv4-mapped address is
tested as the IPv4 address in its last word. A family other than IPv4 and IPv6 is internal,
"not safe for external use"; the file and line only go to the log line of that case. -/
def torAddrIsInternal (addr : TorAddr) (forListening : Bool) : Bool :=
  match addr with
  | .inet a => ipv4hIsInternal a.toNat forListening
  | .inet6 a =>
    if torAddrIsV4 (.inet6 a) then ipv4hIsInternal (in6Word a 3) forListening
    else ipv6IsInternal a forListening
  | .unspec | .unix _ => true

/-- `tor_addr_is_null(addr)`. A word `a32[k]` is `0` when its four bytes are, in either byte
order, so the test is on the host-order words. -/
def torAddrIsNull : TorAddr → Bool
  | .inet6 a => in6Word a 0 == 0 && in6Word a 1 == 0 && in6Word a 2 == 0 && in6Word a 3 == 0
  | .inet a => a == 0
  | .unix _ => true
  | .unspec => true

/-- `tor_addr_is_loopback(addr)`: `::1`, or `127/8`. `AF_UNIX` falls to the `default` case. -/
def torAddrIsLoopback : TorAddr → Bool
  | .inet6 a => in6Word a 0 == 0 && in6Word a 1 == 0 && in6Word a 2 == 0 && in6Word a 3 == 1
  | .inet a => a.toNat &&& 0xff000000 == 0x7f000000
  | .unspec => false
  | .unix _ => false

/-- `tor_addr_is_multicast(a)`: `224/8`, or a first byte `0xff`. -/
def torAddrIsMulticast : TorAddr → Bool
  | .inet a => a.toNat >>> 24 == 0xe0
  | .inet6 a => a.bytes.getD 0 0 == 0xff
  | .unspec | .unix _ => false

/-- `tor_addr_is_valid(addr, for_listening)`, `NULL` being `none`: listening accepts every IPv4
and IPv6 address, otherwise the address must not be null. -/
def torAddrIsValid : Option TorAddr → Bool → Bool
  | none, _ => false
  | some addr, forListening =>
    if forListening && (match addr with | .inet _ | .inet6 _ => true | _ => false) then true
    else !torAddrIsNull addr

/-- `tor_addr_is_valid_ipv4n(v4n_addr, for_listening)`. -/
def torAddrIsValidIpv4n (v4nAddr : UInt32) (forListening : Bool) : Bool :=
  forListening || v4nAddr != 0

/-- `tor_port_is_valid(port, for_listening)`. -/
def torPortIsValid (port : UInt16) (forListening : Bool) : Bool :=
  forListening || port != 0

/-! ## The words of an IPv6 address -/

/-- The last word is the value `tor_addr_to_mapped_ipv4h` reads. -/
theorem in6Word_three (a : In6Addr) : in6Word a 3 = torAddrToMappedIpv4h (.inet6 a) := by
  rw [in6Word, torAddrToMappedIpv4h, List.take_of_length_le (by simp [a.length_eq])]

/-- A mask test passes on to a narrower mask. -/
theorem land_eq_of_land_eq {x m m' v : Nat} (masked : x &&& m = v) (narrower : m &&& m' = m') :
    x &&& m' = v &&& m' := by
  rw [← masked, Nat.and_assoc, narrower]

/-! ## Internal addresses -/

/-- An IPv4-mapped address is classified as its IPv4 address. -/
theorem torAddrIsInternal_mapped {a : In6Addr} {x : UInt32} (mapped : torAddrIsV4 (.inet6 a) = true)
    (value : torAddrToMappedIpv4h (.inet6 a) = x.toNat) (forListening : Bool) :
    torAddrIsInternal (.inet6 a) forListening = torAddrIsInternal (.inet x) forListening := by
  simp only [torAddrIsInternal, mapped, if_true, in6Word_three, value]

/-- A `127/8` value passes the `127/8` test and none of the listening exemptions. -/
theorem ipv4hIsInternal_loopback {x : Nat} (loopback : x &&& 0xff000000 = 0x7f000000)
    (forListening : Bool) : ipv4hIsInternal x forListening = true := by
  have notZero : x ≠ 0 := by
    rintro rfl
    exact absurd loopback (by decide)
  have notShared : x &&& 0xffc00000 ≠ 0x64400000 := fun shared => by
    have narrowed := land_eq_of_land_eq shared (by decide : (0xffc00000 : Nat) &&& 0xff000000 = 0xff000000)
    rw [loopback] at narrowed
    exact absurd narrowed (by decide)
  simp [ipv4hIsInternal, notZero, notShared, loopback]

/-- Listening only exempts some addresses from the IPv4 tests. -/
theorem ipv4hIsInternal_of_listening {x : Nat} (internal : ipv4hIsInternal x true = true) :
    ipv4hIsInternal x false = true := by
  unfold ipv4hIsInternal at internal ⊢
  split_ifs at internal
  exact internal

/-- Listening only exempts `::` from the IPv6 tests. -/
theorem ipv6IsInternal_of_listening {a : In6Addr} (internal : ipv6IsInternal a true = true) :
    ipv6IsInternal a false = true := by
  unfold ipv6IsInternal at internal ⊢
  rw [if_neg (by simp)]
  split at internal
  · exact absurd internal (by decide)
  · exact internal

/-- Every loopback address is internal, listening or not, and an address that is internal for
listening is internal otherwise too. -/
theorem torAddrIsInternal_loopback (a : TorAddr) :
    (torAddrIsLoopback a = true → ∀ forListening, torAddrIsInternal a forListening = true) ∧
      (torAddrIsInternal a true = true → torAddrIsInternal a false = true) := by
  cases a with
  | unspec => exact ⟨fun _ _ => rfl, fun _ => rfl⟩
  | unix _ => exact ⟨fun _ _ => rfl, fun _ => rfl⟩
  | inet x =>
    refine ⟨fun loopback forListening => ?_, ipv4hIsInternal_of_listening⟩
    simp only [torAddrIsLoopback, beq_iff_eq] at loopback
    exact ipv4hIsInternal_loopback loopback forListening
  | inet6 x =>
    constructor
    · intro loopback forListening
      simp only [torAddrIsLoopback, Bool.and_eq_true, beq_iff_eq] at loopback
      obtain ⟨⟨⟨w0, w1⟩, w2⟩, w3⟩ := loopback
      dsimp only [torAddrIsInternal]
      split_ifs
      · rw [w3]
        cases forListening <;> decide
      · simp [ipv6IsInternal, w0, w1, w2, w3]
    · dsimp only [torAddrIsInternal]
      split_ifs
      · exact ipv4hIsInternal_of_listening
      · exact ipv6IsInternal_of_listening

example : torAddrIsInternal (.inet 0x64400001) true = false ∧
    torAddrIsInternal (.inet 0x64400001) false = true := by
  decide

section Semantic

variable (F : AddrFamilies)

/-- The family `CMP_SEMANTIC` compares by differs from the address's own only for an IPv4-mapped
IPv6 address, which it compares as `AF_INET`. -/
theorem semanticFamily_ne {a : TorAddr} (differs : semanticFamily F a ≠ torAddrFamily F a) :
    ∃ x, a = .inet6 x ∧ torAddrIsV4 (.inet6 x) = true ∧ semanticFamily F a = F.inet := by
  unfold semanticFamily at differs ⊢
  split_ifs at differs ⊢ with mapped
  · obtain ⟨family, v4⟩ := mapped
    cases a with
    | inet6 x => exact ⟨x, rfl, v4, rfl⟩
    | inet _ => exact absurd family F.pairwise_ne.2.2.2.1
    | _ => simp [torAddrIsV4] at v4
  · exact absurd rfl differs

private theorem torAddrFamily_eq_inet {a : TorAddr} (family : torAddrFamily F a = F.inet) :
    ∃ y, a = .inet y := by
  obtain ⟨h1, -, -, h4, h5, -⟩ := F.pairwise_ne
  cases a with
  | inet y => exact ⟨y, rfl⟩
  | _ => simp [torAddrFamily, h1, h4.symm, h5.symm] at family

/-- Over all 128 bits an IPv4-mapped address and an IPv4 address compare by their IPv4 values. -/
theorem compareMappedIpv4_all (x : In6Addr) (y : UInt32) :
    compareMappedIpv4 F (.inet6 x) (.inet y) 128 = tristate (torAddrToMappedIpv4h (.inet6 x)) y.toNat ∧
      compareMappedIpv4 F (.inet y) (.inet6 x) 128 = tristate y.toNat (torAddrToMappedIpv4h (.inet6 x)) := by
  obtain ⟨-, -, -, h4, -, -⟩ := F.pairwise_ne
  simp [compareMappedIpv4, compareIpv4hMasked, torAddrFamily, torAddrToIpv4h, h4]

/-- `CMP_SEMANTIC` calls two addresses equal only when they are equal, or one is an IPv4-mapped
IPv6 address and the other its IPv4 address. -/
theorem torAddrCompare_semantic_eq_zero {a b : TorAddr}
    (equal : torAddrCompare F a b .semantic = 0) :
    a = b ∨ ∃ x y, torAddrIsV4 (.inet6 x) = true ∧ torAddrToMappedIpv4h (.inet6 x) = y.toNat ∧
      (a = .inet6 x ∧ b = .inet y ∨ a = .inet y ∧ b = .inet6 x) := by
  unfold torAddrCompare torAddrCompareMasked at equal
  by_cases sameFamily : torAddrFamily F a = torAddrFamily F b
  · rw [if_pos sameFamily, compareSameFamily_eq F sameFamily] at equal
    have exact : torAddrEq F a b = true := by
      rw [torAddrEq, torAddrCompare_exact_eq, lexCompare, if_pos sameFamily, equal]
      rfl
    exact .inl ((torAddrEq_iff F).mp exact)
  rw [if_neg sameFamily, if_neg (by decide), if_neg (by decide)] at equal
  by_cases semantic : semanticFamily F a = semanticFamily F b
  · rw [if_pos semantic] at equal
    right
    by_cases ownA : semanticFamily F a = torAddrFamily F a
    · have differsB : semanticFamily F b ≠ torAddrFamily F b := fun ownB =>
        sameFamily (ownA.symm.trans (semantic.trans ownB))
      obtain ⟨x, rfl, mapped, inetB⟩ := semanticFamily_ne F differsB
      obtain ⟨y, rfl⟩ := torAddrFamily_eq_inet F (ownA.symm.trans (semantic.trans inetB))
      rw [(compareMappedIpv4_all F x y).2, tristate_eq_zero] at equal
      exact ⟨x, y, mapped, equal.symm, .inr ⟨rfl, rfl⟩⟩
    · obtain ⟨x, rfl, mapped, inetA⟩ := semanticFamily_ne F ownA
      have ownB : semanticFamily F b = torAddrFamily F b := by
        by_contra differsB
        obtain ⟨z, rfl, -, -⟩ := semanticFamily_ne F differsB
        exact sameFamily rfl
      obtain ⟨y, rfl⟩ := torAddrFamily_eq_inet F (ownB.symm.trans (semantic.symm.trans inetA))
      rw [(compareMappedIpv4_all F x y).1, tristate_eq_zero] at equal
      exact ⟨x, y, mapped, equal, .inl ⟨rfl, rfl⟩⟩
  · rw [if_neg semantic, tristate_eq_zero] at equal
    exact absurd equal sameFamily

/-- Two addresses that `CMP_SEMANTIC` calls equal are both internal or both not, for listening
or not: the classification reads an IPv4-mapped address as its IPv4 address. -/
theorem torAddrIsInternal_semantic {a b : TorAddr} (equal : torAddrCompare F a b .semantic = 0)
    (forListening : Bool) : torAddrIsInternal a forListening = torAddrIsInternal b forListening := by
  rcases torAddrCompare_semantic_eq_zero F equal with rfl | ⟨x, y, mapped, value, ⟨rfl, rfl⟩ | ⟨rfl, rfl⟩⟩
  · rfl
  · exact torAddrIsInternal_mapped mapped value forListening
  · exact (torAddrIsInternal_mapped mapped value forListening).symm

end Semantic

/-- `::ffff:10.0.0.1`. -/
def mappedTenOne : In6Addr :=
  ⟨List.replicate 10 0 ++ [0xff, 0xff, 10, 0, 0, 1], by rfl⟩

/-- `::ffff:10.0.0.1` and `10.0.0.1` are equal under `CMP_SEMANTIC`, so both are internal. -/
theorem torAddrIsInternal_semantic_mapped :
    torAddrCompare linuxAddrFamilies (.inet6 mappedTenOne) (.inet 0x0a000001) .semantic = 0 ∧
      torAddrIsInternal (.inet6 mappedTenOne) false = torAddrIsInternal (.inet 0x0a000001) false :=
  have equal : torAddrCompare linuxAddrFamilies (.inet6 mappedTenOne) (.inet 0x0a000001)
      .semantic = 0 := by decide
  ⟨equal, torAddrIsInternal_semantic linuxAddrFamilies equal false⟩

/-! ## Choosing an interface address -/

/-- What the platform reports for a `sa_family_t`: `get_interface_addresses_raw(severity,
family)`, `NULL` being `none`, and the address `tor_addr_from_getsockname` reads from a UDP socket
connected towards `18.0.0.1` or `2002::`, `none` when opening, connecting or reading the socket
fails. -/
structure InterfaceProbe where
  interfaceAddressesRaw : Nat → Option (List TorAddr)
  udpSocketAddress : Nat → Option TorAddr

section Interfaces

variable (F : AddrFamilies) (probe : InterfaceProbe)

/-- `get_interface_address6_via_udp_socket_hack(severity, family, addr)`: the result and `*addr`,
zeroed (`AF_UNSPEC`) on failure. -/
def getInterfaceAddress6ViaUdpSocketHack (family : Nat) : Int × TorAddr :=
  if family = F.inet6 ∨ family = F.inet then
    match probe.udpSocketAddress family with
    | none => (-1, .unspec)
    | some addr =>
      if torAddrIsLoopback addr || torAddrIsMulticast addr then (-1, .unspec) else (0, addr)
  else (-1, .unspec)

/-- The test by which the interface loop of `get_interface_address6_list` keeps an address. -/
def usableInterfaceAddress (includeInternal : Bool) (a : TorAddr) : Bool :=
  !(torAddrIsLoopback a || torAddrIsMulticast a) && (includeInternal || !torAddrIsInternal a false)

/-- One family of the fallback of `get_interface_address6_list`: the UDP socket's address, when
the hack finds one and it is wanted. -/
def udpSocketFallback (includeInternal : Bool) (family : Nat) : List TorAddr :=
  let (result, addr) := getInterfaceAddress6ViaUdpSocketHack F probe family
  if result = 0 ∧ (includeInternal || !torAddrIsInternal addr false) then [addr] else []

/-- `get_interface_address6_list(severity, family, include_internal)`. -/
def getInterfaceAddress6List (family : Nat) (includeInternal : Bool) : List TorAddr :=
  match (probe.interfaceAddressesRaw family).map
      (smartlistForeachDelKeeporderAll (usableInterfaceAddress includeInternal)) with
  | some addrs@(_ :: _) => addrs
  | _ =>
    (if family = F.inet ∨ family = F.unspec then udpSocketFallback F probe includeInternal F.inet
      else []) ++
    (if family = F.inet6 ∨ family = F.unspec then udpSocketFallback F probe includeInternal F.inet6
      else [])

/-- The loop of `get_interface_address6`: copy each address into `*addr`, and stop at the first
that is not internal. -/
def chooseInterfaceAddress : List TorAddr → Int × TorAddr → Int × TorAddr
  | [], result => result
  | a :: rest, _ => if torAddrIsInternal a false then chooseInterfaceAddress rest (0, a) else (0, a)

/-- `get_interface_address6(severity, family, addr)`: the result and `*addr`. -/
def getInterfaceAddress6 (family : Nat) : Int × TorAddr :=
  chooseInterfaceAddress (getInterfaceAddress6List F probe family true) (-1, .unspec)

/-- `get_interface_address(severity, addr)`: the result and the host-order IPv4 address, `0` on
failure. -/
def getInterfaceAddress : Int × Nat :=
  let (result, localAddr) := getInterfaceAddress6 F probe F.inet
  (result, if 0 ≤ result then torAddrToIpv4h localAddr else 0)

/-- The loop returns the first address that is not internal, or else the last one, or what it
started from when there is none. -/
theorem chooseInterfaceAddress_split {addrs : List TorAddr} (nonempty : addrs ≠ [])
    (start : Int × TorAddr) :
    ∃ before a after, addrs = before ++ a :: after ∧ chooseInterfaceAddress addrs start = (0, a) ∧
      (∀ b ∈ before, torAddrIsInternal b false = true) ∧
      (torAddrIsInternal a false = true → after = []) := by
  induction addrs generalizing start with
  | nil => contradiction
  | cons a rest inductionHypothesis =>
    by_cases internal : torAddrIsInternal a false = true
    · by_cases more : rest = []
      · subst more
        exact ⟨[], a, [], rfl, by simp [chooseInterfaceAddress, internal], by simp, fun _ => rfl⟩
      · obtain ⟨before, b, after, split, chosen, earlier, last⟩ := inductionHypothesis more (0, a)
        refine ⟨a :: before, b, after, by rw [split, List.cons_append], ?_, ?_, last⟩
        · rw [chooseInterfaceAddress, if_pos internal, chosen]
        · simpa [internal] using earlier
    · exact ⟨[], a, rest, rfl, by simp [chooseInterfaceAddress, internal], by simp,
        fun internal' => absurd internal' internal⟩

/-- Every address the list holds passes the interface loop's test. -/
theorem getInterfaceAddress6List_usable (family : Nat) (includeInternal : Bool) :
    ∀ a ∈ getInterfaceAddress6List F probe family includeInternal,
      usableInterfaceAddress includeInternal a = true := by
  have fallback : ∀ family', ∀ a ∈ udpSocketFallback F probe includeInternal family',
      usableInterfaceAddress includeInternal a = true := by
    intro family' a member
    unfold udpSocketFallback getInterfaceAddress6ViaUdpSocketHack at member
    split_ifs at member <;> try simp at member
    split at member
    · simp at member
    · split_ifs at member <;> simp at member
      obtain ⟨wanted, rfl⟩ := member
      simp_all [usableInterfaceAddress]
  intro a member
  unfold getInterfaceAddress6List at member
  split at member
  · rename_i filtered
    obtain ⟨raw, -, kept⟩ := Option.map_eq_some'.mp filtered
    rw [← kept, smartlistForeachDelKeeporderAll,
      smartlistForeachDelKeeporder_eq _ _ 0 _ (Nat.le_add_left _ _), List.take_zero,
      List.drop_zero, List.nil_append] at member
    exact (List.mem_filter.mp member).2
  · rcases List.mem_append.mp member with member | member <;> split_ifs at member <;>
      first | exact absurd member (List.not_mem_nil a) | exact fallback _ a member

/-- Whatever the interfaces and the UDP socket report, `get_interface_address6` fails, leaving
`AF_UNSPEC`, exactly when it has no candidate. Otherwise it returns a candidate that is neither
loopback nor multicast: the first one that is not internal, or the last one when all are. -/
theorem getInterfaceAddress6_spec (family : Nat) :
    (getInterfaceAddress6List F probe family true = [] →
        getInterfaceAddress6 F probe family = (-1, .unspec)) ∧
      (getInterfaceAddress6List F probe family true ≠ [] →
        ∃ before addr after, getInterfaceAddress6List F probe family true = before ++ addr :: after ∧
          getInterfaceAddress6 F probe family = (0, addr) ∧
          torAddrIsLoopback addr = false ∧ torAddrIsMulticast addr = false ∧
          (∀ b ∈ before, torAddrIsInternal b false = true) ∧
          (torAddrIsInternal addr false = true → after = [])) := by
  refine ⟨fun empty => by rw [getInterfaceAddress6, empty]; rfl, fun nonempty => ?_⟩
  obtain ⟨before, addr, after, split, chosen, earlier, last⟩ :=
    chooseInterfaceAddress_split nonempty (-1, .unspec)
  have usable := getInterfaceAddress6List_usable F probe family true addr
    (by rw [split]; exact List.mem_append_right _ (List.mem_cons_self _ _))
  simp only [usableInterfaceAddress, Bool.true_or, Bool.and_true, Bool.not_eq_true',
    Bool.or_eq_false_iff] at usable
  exact ⟨before, addr, after, split, chosen, usable.1, usable.2, earlier, last⟩

/-- Loopback is dropped, and `8.8.8.8` wins over the internal `10.0.0.1` before it. -/
example : getInterfaceAddress6 linuxAddrFamilies
    ⟨fun _ => some [.inet 0x7f000001, .inet 0x0a000001, .inet 0x08080808], fun _ => none⟩ 2 =
      (0, .inet 0x08080808) := by
  decide

end Interfaces

end Nuon.Net
