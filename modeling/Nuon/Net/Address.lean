import Mathlib.Data.List.Basic

/-!
# Network addresses and their order

A `tor_addr_t` is a family and the address it holds (`lib/net/address.h`, not among the sources).
An IPv4 address is kept as the host-order value `tor_addr_to_ipv4h` reads, an IPv6 address as its
sixteen bytes. An `AF_UNIX` address holds nothing the code can compare: `tor_addr_compare_masked`
compares where the two structures are stored, which `location` stands for.

`tor_addr_compare_masked` promises a total order. Under `CMP_EXACT` it is the lexicographic order
of the family followed by the address bytes (`torAddrCompare_exact_eq`), so it is one. Under
`CMP_SEMANTIC` an IPv4-mapped IPv6 address is equal to its IPv4 address while still ordered among
the IPv6 addresses by its bytes, which breaks transitivity on every platform
(`torAddrCompare_semantic_not_transitive`).
-/

namespace Nuon.Net

/-- The values of the `AF_*` constants, from the system headers. `tor_addr_compare_masked` has a
`case` for each of them, so they are pairwise distinct. -/
structure AddrFamilies where
  unspec : Nat
  inet : Nat
  inet6 : Nat
  unix : Nat
  distinct : [unspec, inet, inet6, unix].Nodup

/-- The values of the `AF_*` constants on Linux. -/
def linuxAddrFamilies : AddrFamilies :=
  ⟨0, 2, 10, 1, by decide⟩

/-- The sixteen bytes of an `in6_addr`, in network order. -/
@[ext]
structure In6Addr where
  bytes : List UInt8
  length_eq : bytes.length = 16
  deriving DecidableEq, Repr

/-- `tor_addr_t`. -/
inductive TorAddr where
  | unspec
  | inet (addr : UInt32)
  | inet6 (addr : In6Addr)
  | unix (location : Nat)
  deriving DecidableEq, Repr

/-- `tor_addr_comparison_t`. -/
inductive AddrComparison where
  | exact
  | semantic
  deriving DecidableEq, Repr

variable (F : AddrFamilies)

/-- Modelled from the spec: `tor_addr_family`. -/
def torAddrFamily : TorAddr → Nat
  | .unspec => F.unspec
  | .inet _ => F.inet
  | .inet6 _ => F.inet6
  | .unix _ => F.unix

/-- Modelled from the spec: `tor_addr_to_ipv4h`: the IPv4 value, `0` for another family. -/
def torAddrToIpv4h : TorAddr → Nat
  | .inet a => a.toNat
  | _ => 0

/-- The big-endian value of a run of bytes, as `ntohl` reads four of them. -/
def bigEndian (bytes : List UInt8) : Nat :=
  bytes.foldl (fun acc b => 256 * acc + b.toNat) 0

/-- Modelled from the spec: `tor_addr_to_mapped_ipv4h`: the last four bytes of an IPv6 address, `0`
for another family. -/
def torAddrToMappedIpv4h : TorAddr → Nat
  | .inet6 a => bigEndian (a.bytes.drop 12)
  | _ => 0

/-- `tor_addr_is_v4`: an IPv4 address, or an IPv6 address of the form `::ffff:a.b.c.d`. -/
def torAddrIsV4 : TorAddr → Bool
  | .inet _ => true
  | .inet6 a => a.bytes.take 12 = List.replicate 10 0 ++ [0xff, 0xff]
  | _ => false

/-- `TRISTATE(a,b)`. -/
def tristate (a b : Nat) : Int :=
  if a < b then -1 else if a = b then 0 else 1

/-- Modelled from the spec: `tor_memcmp` (in `di_ops.c`, not among the sources): the sign of the
first differing byte. The callers here pass only its sign on. -/
def torMemcmp : List UInt8 → List UInt8 → Int
  | a :: as, b :: bs => if a = b then torMemcmp as bs else tristate a.toNat b.toNat
  | _, _ => 0

/-- The `AF_INET` case of `tor_addr_compare_masked`: the first `mbits` bits. -/
def compareIpv4hMasked (a1 a2 : Nat) (mbits : Nat) : Int :=
  if mbits = 0 then 0
  else tristate (a1 >>> (32 - min mbits 32)) (a2 >>> (32 - min mbits 32))

/-- The `AF_INET6` case of `tor_addr_compare_masked`: the whole bytes of the mask with
`tor_memcmp`, then the leftover bits of the next byte. -/
def compareIn6Masked (a1 a2 : In6Addr) (mbits : Nat) : Int :=
  let bytes := min mbits 128 / 8
  let leftoverBits := min mbits 128 % 8
  let r := torMemcmp (a1.bytes.take bytes) (a2.bytes.take bytes)
  if bytes ≠ 0 ∧ r ≠ 0 then r
  else if leftoverBits ≠ 0 then
    tristate ((a1.bytes.getD bytes 0).toNat >>> (8 - leftoverBits))
      ((a2.bytes.getD bytes 0).toNat >>> (8 - leftoverBits))
  else 0

/-- `tor_addr_compare_masked` when both families are the same. -/
def compareSameFamily (a1 a2 : TorAddr) (mbits : Nat) : Int :=
  match a1, a2 with
  | .inet a1, .inet a2 => compareIpv4hMasked a1.toNat a2.toNat mbits
  | .inet6 a1, .inet6 a2 => compareIn6Masked a1 a2 mbits
  | .unix location1, .unix location2 => tristate location1 location2
  | _, _ => 0

/-- The family `CMP_SEMANTIC` compares by: `AF_INET` for an IPv4-mapped IPv6 address. -/
def semanticFamily (a : TorAddr) : Nat :=
  if torAddrFamily F a = F.inet6 ∧ torAddrIsV4 a then F.inet else torAddrFamily F a

/-- `tor_addr_compare_masked` on an IPv4 address and an IPv4-mapped IPv6 address: the mask is
relative to `a1`, whose first 96 bits match when it is the IPv6 one. -/
def compareMappedIpv4 (a1 a2 : TorAddr) (mbits : Nat) : Int :=
  let v6First := torAddrFamily F a1 = F.inet6
  let v1 := if v6First then torAddrToMappedIpv4h a1 else torAddrToIpv4h a1
  let v2 := if torAddrFamily F a2 = F.inet6 then torAddrToMappedIpv4h a2 else torAddrToIpv4h a2
  if v6First ∧ mbits ≤ 96 then 0
  else compareIpv4hMasked v1 v2 (if v6First then mbits - 96 else mbits)

/-- `tor_addr_compare_masked(addr1, addr2, mbits, how)`. -/
def torAddrCompareMasked (a1 a2 : TorAddr) (mbits : Nat) (how : AddrComparison) : Int :=
  if torAddrFamily F a1 = torAddrFamily F a2 then compareSameFamily a1 a2 mbits
  else if how = .exact then tristate (torAddrFamily F a1) (torAddrFamily F a2)
  else if mbits = 0 then 0
  else if semanticFamily F a1 = semanticFamily F a2 then compareMappedIpv4 F a1 a2 mbits
  else tristate (torAddrFamily F a1) (torAddrFamily F a2)

/-- `tor_addr_compare(addr1, addr2, how)`. -/
def torAddrCompare (a1 a2 : TorAddr) (how : AddrComparison) : Int :=
  torAddrCompareMasked F a1 a2 128 how

/-- Modelled from the spec: `tor_addr_eq(a, b)`: an exact comparison that returns `0`. -/
def torAddrEq (a1 a2 : TorAddr) : Bool :=
  torAddrCompare F a1 a2 .exact = 0

/-! ## The exact order -/

/-- The lexicographic order on lists of numbers, a proper prefix first. -/
def lexCompare : List Nat → List Nat → Int
  | [], [] => 0
  | [], _ :: _ => -1
  | _ :: _, [] => 1
  | x :: xs, y :: ys => if x = y then lexCompare xs ys else tristate x y

/-- What `CMP_EXACT` compares after the family. -/
def addrBytes : TorAddr → List Nat
  | .unspec => []
  | .inet a => [a.toNat]
  | .inet6 a => a.bytes.map UInt8.toNat
  | .unix location => [location]

private theorem tristate_swap (a b : Nat) : tristate b a = -tristate a b := by
  unfold tristate
  split_ifs <;> omega

private theorem tristate_nonpos {a b : Nat} : tristate a b ≤ 0 ↔ a ≤ b := by
  unfold tristate
  split_ifs <;> omega

/-- The three-way comparison is `0` exactly on equal values. -/
theorem tristate_eq_zero {a b : Nat} : tristate a b = 0 ↔ a = b := by
  unfold tristate
  split_ifs <;> simp <;> omega

private theorem lexCompare_swap (xs ys : List Nat) : lexCompare ys xs = -lexCompare xs ys := by
  induction xs generalizing ys with
  | nil => cases ys <;> rfl
  | cons x xs inductionHypothesis =>
    cases ys with
    | nil => rfl
    | cons y ys =>
      by_cases same : x = y
      · simp only [lexCompare, same, if_true, inductionHypothesis]
      · simp only [lexCompare, if_neg same, if_neg (Ne.symm same)]
        exact tristate_swap x y

private theorem lexCompare_trans {xs ys zs : List Nat} (first : lexCompare xs ys ≤ 0)
    (second : lexCompare ys zs ≤ 0) : lexCompare xs zs ≤ 0 := by
  induction xs generalizing ys zs with
  | nil => cases zs <;> simp [lexCompare]
  | cons x xs inductionHypothesis =>
    match ys, zs with
    | [], _ => simp [lexCompare] at first
    | _ :: _, [] => simp [lexCompare] at second
    | y :: ys, z :: zs =>
      simp only [lexCompare] at first second ⊢
      split_ifs at first second ⊢
      all_goals
        try simp only [tristate_nonpos] at first second ⊢
        first | exact inductionHypothesis first second | omega

private theorem lexCompare_eq_zero {xs ys : List Nat} : lexCompare xs ys = 0 ↔ xs = ys := by
  induction xs generalizing ys with
  | nil => cases ys <;> simp [lexCompare]
  | cons x xs inductionHypothesis =>
    cases ys with
    | nil => simp [lexCompare]
    | cons y ys =>
      simp only [lexCompare, List.cons.injEq]
      split_ifs with same <;> simp [same, inductionHypothesis, tristate_eq_zero]

private theorem torMemcmp_eq_lexCompare {as bs : List UInt8} (sameLength : as.length = bs.length) :
    torMemcmp as bs = lexCompare (as.map UInt8.toNat) (bs.map UInt8.toNat) := by
  induction as generalizing bs with
  | nil => cases bs <;> simp_all [torMemcmp, lexCompare]
  | cons a as inductionHypothesis =>
    cases bs with
    | nil => simp at sameLength
    | cons b bs =>
      simp only [torMemcmp, List.map_cons, lexCompare]
      by_cases same : a = b
      · rw [if_pos same, if_pos (congrArg _ same), inductionHypothesis (by simpa using sameLength)]
      · rw [if_neg same, if_neg (fun sameValue => same (UInt8.toNat.inj sameValue))]

/-- The four family values are pairwise distinct. -/
theorem AddrFamilies.pairwise_ne :
    F.unspec ≠ F.inet ∧ F.unspec ≠ F.inet6 ∧ F.unspec ≠ F.unix ∧ F.inet ≠ F.inet6 ∧
      F.inet ≠ F.unix ∧ F.inet6 ≠ F.unix := by
  have := F.distinct
  simp only [List.nodup_cons, List.mem_cons, List.mem_singleton, not_or, List.not_mem_nil,
    not_false_eq_true, List.nodup_nil, and_true] at this
  tauto

/-- Two addresses of one family are built by the same constructor. -/
theorem torAddrFamily_eq_cases {a b : TorAddr}
    (sameFamily : torAddrFamily F a = torAddrFamily F b) :
    (a = .unspec ∧ b = .unspec) ∨ (∃ x y, a = .inet x ∧ b = .inet y) ∨
      (∃ x y, a = .inet6 x ∧ b = .inet6 y) ∨ (∃ x y, a = .unix x ∧ b = .unix y) := by
  obtain ⟨h1, h2, h3, h4, h5, h6⟩ := F.pairwise_ne
  cases a <;> cases b <;> simp only [torAddrFamily] at sameFamily <;>
    first | exact absurd sameFamily ‹_› | exact absurd sameFamily.symm ‹_› | simp

private theorem lexCompare_singleton (x y : Nat) : lexCompare [x] [y] = tristate x y := by
  simp only [lexCompare]
  split_ifs with same
  · rw [same, tristate_eq_zero.mpr rfl]
  · rfl

/-- Over all 128 bits the `AF_INET6` comparison is `tor_memcmp` of the sixteen bytes. -/
theorem compareIn6Masked_all (a b : In6Addr) :
    compareIn6Masked a b 128 = torMemcmp a.bytes b.bytes := by
  have whole : ∀ c : In6Addr, c.bytes.take 16 = c.bytes := fun c =>
    List.take_of_length_le c.length_eq.le
  simp only [compareIn6Masked, min_self, Nat.reduceDiv, Nat.reduceMod, whole]
  split_ifs <;> simp_all

/-- Two addresses of one family compare over all 128 bits by their bytes. -/
theorem compareSameFamily_eq {a b : TorAddr} (sameFamily : torAddrFamily F a = torAddrFamily F b) :
    compareSameFamily a b 128 = lexCompare (addrBytes a) (addrBytes b) := by
  rcases torAddrFamily_eq_cases F sameFamily with
    ⟨rfl, rfl⟩ | ⟨x, y, rfl, rfl⟩ | ⟨x, y, rfl, rfl⟩ | ⟨x, y, rfl, rfl⟩
  · rfl
  · simp [compareSameFamily, compareIpv4hMasked, addrBytes, lexCompare_singleton]
  · rw [compareSameFamily, compareIn6Masked_all, addrBytes, addrBytes,
      torMemcmp_eq_lexCompare (x.length_eq.trans y.length_eq.symm)]
  · rw [compareSameFamily, addrBytes, addrBytes, lexCompare_singleton]

/-- `CMP_EXACT` is the lexicographic order of the family followed by the address bytes. -/
theorem torAddrCompare_exact_eq (a b : TorAddr) :
    torAddrCompare F a b .exact =
      lexCompare (torAddrFamily F a :: addrBytes a) (torAddrFamily F b :: addrBytes b) := by
  unfold torAddrCompare torAddrCompareMasked
  by_cases sameFamily : torAddrFamily F a = torAddrFamily F b
  · rw [if_pos sameFamily, compareSameFamily_eq F sameFamily, lexCompare, if_pos sameFamily]
  · rw [if_neg sameFamily, if_pos rfl, lexCompare, if_neg sameFamily]

private theorem torAddrCompare_exact_swap (a b : TorAddr) :
    torAddrCompare F b a .exact = -torAddrCompare F a b .exact := by
  rw [torAddrCompare_exact_eq, torAddrCompare_exact_eq, lexCompare_swap]

private theorem torAddrCompare_exact_trans {a b c : TorAddr} (first : torAddrCompare F a b .exact ≤ 0)
    (second : torAddrCompare F b c .exact ≤ 0) : torAddrCompare F a c .exact ≤ 0 := by
  rw [torAddrCompare_exact_eq] at first second ⊢
  exact lexCompare_trans first second

/-- `tor_addr_eq` is equality of addresses. -/
theorem torAddrEq_iff {a b : TorAddr} : torAddrEq F a b = true ↔ a = b := by
  simp only [torAddrEq, torAddrCompare_exact_eq, decide_eq_true_eq, lexCompare_eq_zero,
    List.cons.injEq]
  constructor
  · rintro ⟨sameFamily, sameBytes⟩
    rcases torAddrFamily_eq_cases F sameFamily with
      ⟨rfl, rfl⟩ | ⟨x, y, rfl, rfl⟩ | ⟨⟨x, _⟩, ⟨y, _⟩, rfl, rfl⟩ | ⟨x, y, rfl, rfl⟩
    · rfl
    · simpa [addrBytes] using UInt32.toNat.inj (List.singleton_inj.mp sameBytes)
    · simpa using List.map_injective_iff.mpr (fun _ _ => UInt8.toNat.inj) sameBytes
    · simpa [addrBytes] using sameBytes
  · rintro rfl
    exact ⟨rfl, rfl⟩

/-! ## The semantic order -/

/-- Two IPv6 addresses compare by `tor_memcmp` of their bytes in either mode. -/
theorem torAddrCompare_inet6 (a b : In6Addr) (how : AddrComparison) :
    torAddrCompare F (.inet6 a) (.inet6 b) how = torMemcmp a.bytes b.bytes := by
  have sameFamily : torAddrFamily F (.inet6 a) = torAddrFamily F (.inet6 b) := rfl
  rw [torAddrCompare, torAddrCompareMasked, if_pos sameFamily, compareSameFamily,
    compareIn6Masked_all]

/-- Under `CMP_SEMANTIC` an IPv4-mapped IPv6 address equals its IPv4 address, in either order. -/
theorem torAddrCompare_semantic_mapped {a : In6Addr} {x : UInt32}
    (mapped : torAddrIsV4 (.inet6 a) = true) (value : torAddrToMappedIpv4h (.inet6 a) = x.toNat) :
    torAddrCompare F (.inet6 a) (.inet x) .semantic = 0 ∧
      torAddrCompare F (.inet x) (.inet6 a) .semantic = 0 := by
  obtain ⟨-, -, -, inet_ne, -, -⟩ := F.pairwise_ne
  have semantic : semanticFamily F (.inet6 a) = semanticFamily F (.inet x) := by
    simp [semanticFamily, torAddrFamily, mapped]
  have differ : torAddrFamily F (.inet6 a) ≠ torAddrFamily F (.inet x) := Ne.symm inet_ne
  constructor
  · rw [torAddrCompare, torAddrCompareMasked, if_neg differ, if_neg (by decide), if_neg (by decide),
      if_pos semantic]
    simp [compareMappedIpv4, torAddrFamily, inet_ne, value, torAddrToIpv4h, compareIpv4hMasked,
      tristate]
  · rw [torAddrCompare, torAddrCompareMasked, if_neg (Ne.symm differ), if_neg (by decide),
      if_neg (by decide), if_pos semantic.symm]
    simp [compareMappedIpv4, torAddrFamily, inet_ne, value, torAddrToIpv4h, compareIpv4hMasked,
      tristate]

/-- Under `CMP_SEMANTIC` an IPv6 address that is not IPv4-mapped is ordered against an IPv4
address by family. -/
theorem torAddrCompare_semantic_unmapped {a : In6Addr} (unmapped : torAddrIsV4 (.inet6 a) = false)
    (x : UInt32) :
    torAddrCompare F (.inet6 a) (.inet x) .semantic = tristate F.inet6 F.inet ∧
      torAddrCompare F (.inet x) (.inet6 a) .semantic = tristate F.inet F.inet6 := by
  obtain ⟨-, -, -, inet_ne, -, -⟩ := F.pairwise_ne
  have semantic : semanticFamily F (.inet6 a) ≠ semanticFamily F (.inet x) := by
    simpa [semanticFamily, torAddrFamily, unmapped] using Ne.symm inet_ne
  simp only [torAddrCompare, torAddrCompareMasked, torAddrFamily, Ne.symm inet_ne, inet_ne,
    if_false, semantic, Ne.symm semantic, reduceCtorEq, Nat.reduceEqDiff, and_self]

/-- `CMP_SEMANTIC` is not transitive, whatever the values of the `AF_*` constants: an
IPv4-mapped address equals its IPv4 address, but it is ordered among the IPv6 addresses by its
bytes, and other IPv6 addresses are ordered against IPv4 ones by family. -/
theorem torAddrCompare_semantic_not_transitive :
    ∃ a b c : TorAddr, torAddrCompare F a b .semantic ≤ 0 ∧ torAddrCompare F b c .semantic ≤ 0 ∧
      0 < torAddrCompare F a c .semantic := by
  obtain ⟨-, -, -, inet_ne, -, -⟩ := F.pairwise_ne
  obtain ⟨mappedFirst, mappedSecond⟩ := torAddrCompare_semantic_mapped F
    (a := ⟨List.replicate 10 0 ++ [0xff, 0xff, 1, 2, 3, 4], by rfl⟩) (x := 0x01020304)
    (by decide) (by decide)
  rcases Nat.lt_or_gt_of_ne inet_ne with lt | gt
  · have familyOrder := (torAddrCompare_semantic_unmapped F
      (a := ⟨List.replicate 15 0 ++ [1], by rfl⟩) (by decide) 0x01020304).1
    refine ⟨.inet6 ⟨List.replicate 15 0 ++ [1], by rfl⟩,
      .inet6 ⟨List.replicate 10 0 ++ [0xff, 0xff, 1, 2, 3, 4], by rfl⟩, .inet 0x01020304,
      ?_, by omega, ?_⟩
    · rw [torAddrCompare_inet6]
      decide
    · rw [familyOrder, tristate, if_neg (by omega), if_neg (by omega)]
      decide
  · have familyOrder := (torAddrCompare_semantic_unmapped F
      (a := ⟨0xff :: List.replicate 15 0, by rfl⟩) (by decide) 0x01020304).2
    refine ⟨.inet 0x01020304, .inet6 ⟨List.replicate 10 0 ++ [0xff, 0xff, 1, 2, 3, 4], by rfl⟩,
      .inet6 ⟨0xff :: List.replicate 15 0, by rfl⟩, by omega, ?_, ?_⟩
    · rw [torAddrCompare_inet6]
      decide
    · rw [familyOrder, tristate, if_neg (by omega), if_neg (by omega)]
      decide

end Nuon.Net
