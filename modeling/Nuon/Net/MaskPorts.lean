import Nuon.Net.AddrPort

/-!
# Address patterns with a mask and ports

`tor_addr_parse_mask_ports` reads the patterns of exit policies and of `*Policy` options:
an address (`a.b.c.d`, `[IPv6]` or a wildcard), an optional `/mask`, and an optional `:ports`.
The code cuts a copy of the text at the closing bracket, at the first `/` after it and at the
first `:` after that; then it parses each piece. The function is modelled block by block:
`splitAddressPattern`, `parsePatternAddress`, `parseMaskBits` and `parsePortRange`, assembled in
`torAddrParseMaskPorts`. Each out-parameter is recorded as written or not; `tor_assert` on the
flags is `none`.

An IPv4-mapped IPv6 address takes a mask of `0`-`32` or `96`-`128` bits, which the code maps
with `bits = 96 + bits % 32` (`parseMaskBits_mapped`). That sends `/32` and `/128` to `/96`:
`[::ffff:1.2.3.4]/128` matches every IPv4-mapped address (`torAddrParseMaskPorts_mapped128`).

A port range that `parse_port_range` accepts lies in `1`-`65535` (`parsePortRange_bounds`), and
so do the ports the whole call writes (`torAddrParseMaskPorts_portBounds`); it is ordered except
for the single port `0`, which becomes the empty range `1`-`0`, also in `*:0`
(`parsePortRange_zero`).
-/

namespace Nuon.Net

/-- `TOR_ADDR_BUF_LEN` and `INET_NTOA_BUF_LEN` (`address.h`, `inaddr.h`, not among the
sources). -/
structure AddrBufLens where
  torAddrBufLen : Nat
  inetNtoaBufLen : Nat

/-- `MAX_ADDRESS_LENGTH`: an address, brackets, `/mask`, `:` and ports. -/
def AddrBufLens.maxAddressLength (L : AddrBufLens) : Nat :=
  L.torAddrBufLen + 2 + (1 + L.inetNtoaBufLen) + 12 + 1

/-- The bits of `flags`: `TAPMP_EXTENDED_STAR`, `TAPMP_STAR_IPV4_ONLY`, `TAPMP_STAR_IPV6_ONLY`. -/
structure TapmpFlags where
  extendedStar : Bool
  starIpv4Only : Bool
  starIpv6Only : Bool
  deriving DecidableEq, Repr

/-- What the call writes: its value and each out-parameter, `none` when not written. -/
structure MaskPortsOutcome where
  result : Int
  addrOut : Option TorAddr
  maskbitsOut : Option Nat
  portMinOut : Option Nat
  portMaxOut : Option Nat
  deriving DecidableEq, Repr

/-- The three C strings the cuts leave: the address, and the mask and the ports if present. -/
structure AddressPattern where
  address : List Char
  mask : Option (List Char)
  port : Option (List Char)
  deriving DecidableEq, Repr

/-- Modelled from the spec: `strchr(t + start, c) - t`: the first offset at or after `start` holding
`c`. -/
def strchrFrom (t : List Char) (start : Nat) (c : Char) : Option Nat :=
  ((t.drop start).findIdx? (· = c)).map (· + start)

/-- The cuts of `tor_addr_parse_mask_ports`: past an opening bracket the address runs to the
first `]`; the mask starts at the first `/` from there and the ports at the first `:` from the
mask. Each of them is cut with a NUL, so the address ends at the first of the three, and the
mask at the ports. `none` for a missing closing bracket. The code asserts that the ports come
after the mask and the mask after the bracket, which holds by where each search starts. -/
def splitAddressPattern (t : List Char) : Option AddressPattern :=
  let bracketed := t.head? = some '['
  let address := if bracketed then t.drop 1 else t
  let rbracket := if bracketed then strchrFrom address 0 ']' else none
  if bracketed ∧ rbracket = none then none
  else
    let start := rbracket.getD 0
    let mask := strchrFrom address start '/'
    let port := strchrFrom address (mask.getD start) ':'
    let addressEnd := (rbracket <|> mask <|> port).getD address.length
    some ⟨address.take addressEnd,
      mask.map fun i => (address.drop (i + 1)).take (port.getD address.length - (i + 1)),
      port.map fun i => address.drop (i + 1)⟩

/-- The all-zero IPv6 address. -/
def In6Addr.zero : In6Addr :=
  ⟨List.replicate 16 0, rfl⟩

variable (F : AddrFamilies) (I : InetLib)

/-- The address block: the wildcards, then `tor_inet_pton(AF_INET6)`, then
`tor_inet_pton(AF_INET)`. Returns the family, `*addr_out` and `any_flag`; `none` for a malformed
address. -/
def parsePatternAddress (flags : TapmpFlags) (address : List Char) :
    Option (Nat × TorAddr × Bool) :=
  if address = ['*'] then
    if flags.extendedStar then
      if flags.starIpv4Only then some (F.inet, .inet 0, true)
      else if flags.starIpv6Only then some (F.inet6, .inet6 In6Addr.zero, true)
      else some (F.unspec, .unspec, true)
    else some (F.inet, .inet 0, true)
  else if address = ['*', '4'] ∧ flags.extendedStar then some (F.inet, .inet 0, true)
  else if address = ['*', '6'] ∧ flags.extendedStar then
    some (F.inet6, .inet6 In6Addr.zero, true)
  else
    match I.pton6 address with
    | some in6 => some (F.inet6, .inet6 in6, false)
    | none =>
      match I.pton4 address with
      | some in4 => some (F.inet, .inet in4, false)
      | none => none

/-- `(int) strtol(mask, &endptr, 10)` and the text at `endptr`: a value out of the range of a
64-bit `long` is clamped to it, as `strtol` does, and without a digit the value is `0` and
`endptr` is `mask`. -/
def maskStrtol (mask : List Char) : Int × List Char :=
  match strtolScan mask with
  | none => (0, mask)
  | some (negative, magnitude, rest) =>
    let value : Int := if negative then -(magnitude : Int) else magnitude
    (int32OfInt (max (-2 ^ 63) (min (2 ^ 63 - 1) value)), rest)

/-- `addr_mask_get_bits(mask)`: the length of the prefix a netmask is, `-1` when it is not a
prefix. -/
def addrMaskGetBits (mask : Nat) : Int :=
  if mask = 0 then 0
  else if mask = 0xFFFFFFFF then 32
  else match (List.range' 1 32).find? (fun i => mask = 2 ^ 32 - 2 ^ (32 - i)) with
    | some i => i
    | none => -1

/-- The mask block, when `maskbits_out` is given: a bit count (checked against the family), or an
IPv4 netmask; an IPv4-mapped IPv6 address refuses `33`-`95` and maps the rest with
`96 + bits % 32`; a wildcard refuses a mask. Without a mask the wildcards get `0`, IPv4 `32` and
IPv6 `128`. `none` for `goto err`. Every value is in `0..128`, so the `maskbits_t` cast keeps it. -/
def parseMaskBits (family : Nat) (addr : TorAddr) (anyFlag : Bool) :
    Option (List Char) → Option Nat
  | some mask =>
    let (bits, endptr) := maskStrtol mask
    let bits : Option Int :=
      if endptr = [] then
        if bits < 0 ∨ 128 < bits ∨ family = F.inet ∧ 32 < bits then none else some bits
      else
        match I.pton4 mask with
        | some v4mask =>
          let bits := addrMaskGetBits v4mask.toNat
          if bits < 0 then none else some bits
        | none => none
    bits.bind fun bits =>
      let mapped := family = F.inet6 ∧ torAddrIsV4 addr
      if mapped ∧ 32 < bits ∧ bits < 96 then none
      else
        let bits := if mapped then 96 + bits % 32 else bits
        if anyFlag then none else some bits.toNat
  | none =>
    some (if anyFlag then 0 else if torAddrFamily F addr = F.inet then 32
      else if torAddrFamily F addr = F.inet6 then 128 else 0)

/-- `parse_port_range(port, &port_min, &port_max)`: no ports, an empty text or `*` is the whole
range; otherwise a port, or two joined by `-`, the first from `0` and the second from `1`, in
order. A first port of `0` becomes `1`. `none` for `-1`. -/
def parsePortRange : Option (List Char) → Option (Nat × Nat)
  | none => some (1, 65535)
  | some port =>
    if port = [] ∨ port = ['*'] then some (1, 65535)
    else
      let first := torParseLong port 0 65535 true
      if !first.ok then none
      else
        let range : Option (Int × Int) :=
          if first.next = [] then some (first.value, first.value)
          else if first.next.head? ≠ some '-' then none
          else
            let second := torParseLong first.next.tail 1 65535 true
            if !second.ok then none else some (first.value, second.value)
        range.bind fun (portMin, portMax) =>
          if portMax < portMin then none
          else some ((if portMin < 1 then 1 else portMin).toNat,
            (if 65535 < portMax then 65535 else portMax).toNat)

variable (L : AddrBufLens)

/-- `tor_addr_parse_mask_ports(s, flags, addr_out, maskbits_out, port_min_out, port_max_out)`,
with whether each of the last three is given. -/
def torAddrParseMaskPorts (s : List Char) (flags : TapmpFlags)
    (wantMaskbits wantPortMin wantPortMax : Bool) : Option MaskPortsOutcome :=
  if flags.starIpv4Only ∧ flags.starIpv6Only then none
  else if L.maxAddressLength < strlen s then some ⟨-1, none, none, none, none⟩
  else
    match splitAddressPattern (cstr s) with
    | none => some ⟨-1, none, none, none, none⟩
    | some pattern =>
      match parsePatternAddress F I flags pattern.address with
      | none => some ⟨-1, some .unspec, none, none, none⟩
      | some (family, addr, anyFlag) =>
        let maskbits : Option (Option Nat) :=
          if wantMaskbits then (parseMaskBits F I family addr anyFlag pattern.mask).map some
          else if pattern.mask.isSome then none else some none
        match maskbits with
        | none => some ⟨-1, some addr, none, none, none⟩
        | some maskbitsOut =>
          if wantPortMin then
            match parsePortRange pattern.port with
            | none => some ⟨-1, some addr, maskbitsOut, none, none⟩
            | some (portMin, portMax) =>
              if portMin ≠ portMax ∧ !wantPortMax then
                some ⟨-1, some addr, maskbitsOut, some portMin, none⟩
              else
                some ⟨torAddrFamily F addr, some addr, maskbitsOut, some portMin,
                  if wantPortMax then some portMax else none⟩
          else if pattern.port.isSome then some ⟨-1, some addr, maskbitsOut, none, none⟩
          else some ⟨torAddrFamily F addr, some addr, maskbitsOut, none, none⟩

/-! ## Masks on IPv4-mapped addresses -/

/-- `strtol` reads a bit count below `2^31` exactly and leaves nothing after it. -/
theorem maskStrtol_decimalChars {m : Nat} (fits : m < 2 ^ 31) :
    maskStrtol (decimalChars m) = ((m : Int), []) := by
  have scan : strtolScan (decimalChars m ++ []) = _ :=
    strtolScan_digits_append (decimalChars_ne_nil m) (decimalChars_isDigit m) (by simp)
  rw [List.append_nil, decimalValue_decimalChars] at scan
  have clamped : max (-2 ^ 63 : Int) (min (2 ^ 63 - 1) (m : Int)) = m := by omega
  simp only [maskStrtol, scan, Bool.false_eq_true, if_false, clamped, int32OfInt]
  rw [Int.emod_eq_of_lt (by omega) (by omega), if_pos (by omega)]

/-- On an IPv4-mapped IPv6 address, a bit count `m` from `33` to `95` or above `128` is refused,
and any other is stored as `96 + m % 32`: right for `0`-`31` and `96`-`127`, but `/32` and `/128`
both become `/96`. -/
theorem parseMaskBits_mapped {addr : TorAddr} (mapped : torAddrIsV4 addr) {m : Nat}
    (fits : m < 2 ^ 31) :
    parseMaskBits F I F.inet6 addr false (some (decimalChars m)) =
      if 32 < m ∧ m < 96 ∨ 128 < m then none else some (96 + m % 32) := by
  have families : F.inet6 ≠ F.inet := (F.pairwise_ne).2.2.2.1.symm
  simp only [parseMaskBits, maskStrtol_decimalChars fits, if_true, families, mapped, false_and,
    or_false, true_and, decide_True, if_false]
  by_cases wide : 128 < m
  · rw [if_pos (Or.inr (by exact_mod_cast wide)), if_pos (Or.inr wide)]
    rfl
  · rw [if_neg (show ¬((m : Int) < 0 ∨ 128 < (m : Int)) by omega), Option.some_bind]
    by_cases between : 32 < m ∧ m < 96
    · rw [if_pos (by omega), if_pos (Or.inl between)]
    · rw [if_neg (by omega), if_neg Bool.false_ne_true, if_neg (by omega), Option.some.injEq]
      omega

/-- A bracketed address followed by a mask and no ports: the cuts give the text inside the
brackets and the mask. -/
theorem splitAddressPattern_bracketed_mask {text mask : List Char} (noBracket : ']' ∉ text)
    (noColon : ':' ∉ mask) :
    splitAddressPattern ('[' :: (text ++ ']' :: '/' :: mask)) = some ⟨text, some mask, none⟩ := by
  have closing : strchrFrom (text ++ ']' :: '/' :: mask) 0 ']' = some text.length := by
    simp only [strchrFrom, List.drop_zero, List.findIdx?_append, List.findIdx?_cons]
    rw [List.findIdx?_eq_none_iff.mpr fun c member => by
      simpa using ne_of_mem_of_not_mem member noBracket]
    simp
  have slash : strchrFrom (text ++ ']' :: '/' :: mask) text.length '/' = some (text.length + 1) := by
    simp [strchrFrom, List.drop_left', Nat.add_comm]
  have afterBracket : (text ++ ']' :: '/' :: mask).drop (text.length + 1) = '/' :: mask := by
    rw [List.drop_append_eq_append_drop]
    simp
  have maskText : (text ++ ']' :: '/' :: mask).drop (text.length + 2) = mask := by
    rw [List.drop_append_eq_append_drop]
    simp
  have noPort : strchrFrom (text ++ ']' :: '/' :: mask) (text.length + 1) ':' = none := by
    simp only [strchrFrom, Option.map_eq_none', afterBracket, List.findIdx?_eq_none_iff,
      List.mem_cons, decide_eq_false_iff_not]
    rintro c (rfl | member)
    · decide
    · exact ne_of_mem_of_not_mem member noColon
  simp only [splitAddressPattern, List.head?_cons, if_true, List.drop_one, List.tail_cons,
    closing, reduceCtorEq, and_false, if_false, Option.getD_some, slash, noPort,
    Option.some_orElse, Option.map_some', Option.map_none', Option.getD_none]
  simp only [List.take_left', List.length_append, List.length_cons, Option.some.injEq,
    AddressPattern.mk.injEq, true_and, and_true]
  rw [maskText, show text.length + (mask.length + 1 + 1) - (text.length + 1 + 1) = mask.length by
    omega, List.take_length]

/-- The whole call on `[A]/m` with only `maskbits_out` given, for an IPv4-mapped address `A` that
`tor_inet_pton(AF_INET6)` reads from the text between the brackets: a bit count from `33` to `95`
or above `128` is refused, and any other comes back as `96 + m % 32`. -/
theorem torAddrParseMaskPorts_mapped {text : List Char} {in6 : In6Addr}
    (parsed : I.pton6 text = some in6) (mapped : torAddrIsV4 (.inet6 in6))
    (noBracket : ']' ∉ text) (nulFree : '\x00' ∉ text) (colon : ':' ∈ text)
    {flags : TapmpFlags} (exclusive : ¬(flags.starIpv4Only ∧ flags.starIpv6Only)) {m : Nat}
    (fits : m < 2 ^ 31) (short : text.length + 3 + (decimalChars m).length ≤ L.maxAddressLength) :
    torAddrParseMaskPorts F I L ('[' :: (text ++ ']' :: '/' :: decimalChars m)) flags true false
        false =
      some (if 32 < m ∧ m < 96 ∨ 128 < m then ⟨-1, some (.inet6 in6), none, none, none⟩
        else ⟨F.inet6, some (.inet6 in6), some (96 + m % 32), none, none⟩) := by
  have digits : ∀ c ∈ decimalChars m, c.isDigit := decimalChars_isDigit m
  have noColon : ':' ∉ decimalChars m := fun member => by simpa using digits ':' member
  have whole : '\x00' ∉ '[' :: (text ++ ']' :: '/' :: decimalChars m) := by
    simp only [List.mem_cons, List.mem_append, not_or]
    exact ⟨by decide, nulFree, by decide, by decide, fun member => by simpa using digits _ member⟩
  have address : parsePatternAddress F I flags text = some (F.inet6, .inet6 in6, false) := by
    have notStar : ∀ w : List Char, ':' ∉ w → text ≠ w := fun w absent same => absent (same ▸ colon)
    unfold parsePatternAddress
    rw [if_neg (notStar _ (by decide)), if_neg fun star => notStar _ (by decide) star.1,
      if_neg fun star => notStar _ (by decide) star.1, parsed]
  unfold torAddrParseMaskPorts
  rw [if_neg exclusive, strlen, cstr_of_nulFree whole, if_neg (by simp; omega),
    splitAddressPattern_bracketed_mask noBracket noColon]
  dsimp only
  rw [address]
  dsimp only
  rw [if_pos rfl, parseMaskBits_mapped F I mapped fits]
  by_cases refused : 32 < m ∧ m < 96 ∨ 128 < m
  · rw [if_pos refused, if_pos refused]
    rfl
  · rw [if_neg refused, if_neg refused]
    rfl

/-- The IPv4-mapped address `::ffff:1.2.3.4`. -/
def mapped1234 : In6Addr :=
  ⟨[0, 0, 0, 0, 0, 0, 0, 0, 0, 0, 0xff, 0xff, 1, 2, 3, 4], rfl⟩

/-- `tor_inet_pton` as it reads `::ffff:1.2.3.4` and the netmask `255.255.255.255`. -/
def mappedInetLib : InetLib where
  ntop4 _ := "255.255.255.255".toList
  ntop6 _ := "::ffff:1.2.3.4".toList
  pton4 s := if s = "255.255.255.255".toList then some 0xffffffff else none
  pton6 s := if s = "::ffff:1.2.3.4".toList then some mapped1234 else none

/-- With Linux's `AF_*` values and `TOR_ADDR_BUF_LEN` 48, `INET_NTOA_BUF_LEN` 16, the patterns
`[::ffff:1.2.3.4]/128`, `/32` and `/255.255.255.255`, which name the one address, are all read
as the prefix `/96`, which matches every IPv4-mapped address. -/
theorem torAddrParseMaskPorts_mapped128 :
    torAddrParseMaskPorts linuxAddrFamilies mappedInetLib ⟨48, 16⟩
        "[::ffff:1.2.3.4]/128".toList ⟨false, false, false⟩ true false false =
      some ⟨10, some (.inet6 mapped1234), some 96, none, none⟩ ∧
    torAddrParseMaskPorts linuxAddrFamilies mappedInetLib ⟨48, 16⟩
        "[::ffff:1.2.3.4]/32".toList ⟨false, false, false⟩ true false false =
      some ⟨10, some (.inet6 mapped1234), some 96, none, none⟩ ∧
    torAddrParseMaskPorts linuxAddrFamilies mappedInetLib ⟨48, 16⟩
        "[::ffff:1.2.3.4]/255.255.255.255".toList ⟨false, false, false⟩ true false false =
      some ⟨10, some (.inet6 mapped1234), some 96, none, none⟩ :=
  ⟨by decide, by decide, by decide⟩

/-! ## Port ranges -/

/-- What `parse_port_range` accepts lies in `1`-`65535`, and is an ordered range except where
the first port is raised from `0` to `1` over a second port of `0`: the single port `0`. -/
theorem parsePortRange_bounds {port : Option (List Char)} {portMin portMax : Nat}
    (accepted : parsePortRange port = some (portMin, portMax)) :
    1 ≤ portMin ∧ portMin ≤ 65535 ∧ portMax ≤ 65535 ∧
      (portMin ≤ portMax ∨ portMin = 1 ∧ portMax = 0) := by
  rcases port with _ | port
  · cases accepted; omega
  dsimp only [parsePortRange] at accepted
  by_cases whole : port = [] ∨ port = ['*']
  · rw [if_pos whole] at accepted; cases accepted; omega
  by_cases failed : (!(torParseLong port 0 65535 true).ok) = true
  · rw [if_neg whole, if_pos failed] at accepted; cases accepted
  rw [if_neg whole, if_neg failed] at accepted
  have first := torParseLong_range (by simpa using failed)
  obtain ⟨⟨lo, hi⟩, ranged, clamped⟩ := Option.bind_eq_some.mp accepted
  have range : 0 ≤ lo ∧ lo ≤ 65535 ∧ hi ≤ 65535 ∧ (lo = hi ∨ 1 ≤ hi) := by
    split_ifs at ranged with single dash secondFailed
    · cases ranged; omega
    · cases ranged
      have second := torParseLong_range (s := (torParseLong port 0 65535 true).next.tail)
        (by simpa using secondFailed)
      omega
  dsimp only at clamped
  split_ifs at clamped <;> cases clamped <;> omega

/-- The ports `tor_addr_parse_mask_ports` writes are the range `parse_port_range` returned, so
they keep its bounds. -/
theorem torAddrParseMaskPorts_portBounds {s : List Char} {flags : TapmpFlags}
    {wantMaskbits wantPortMin wantPortMax : Bool} {outcome : MaskPortsOutcome} {portMin portMax : Nat}
    (parsed : torAddrParseMaskPorts F I L s flags wantMaskbits wantPortMin wantPortMax = some outcome)
    (writtenMin : outcome.portMinOut = some portMin) (writtenMax : outcome.portMaxOut = some portMax) :
    1 ≤ portMin ∧ portMin ≤ 65535 ∧ portMax ≤ 65535 ∧
      (portMin ≤ portMax ∨ portMin = 1 ∧ portMax = 0) := by
  have unwritten : ∀ {result addrOut maskbitsOut},
      some (⟨result, addrOut, maskbitsOut, none, none⟩ : MaskPortsOutcome) ≠ some outcome := by
    rintro _ _ _ ⟨⟩
    cases writtenMin
  unfold torAddrParseMaskPorts at parsed
  split at parsed
  · cases parsed
  split at parsed
  · exact absurd parsed unwritten
  split at parsed
  · exact absurd parsed unwritten
  split at parsed
  · exact absurd parsed unwritten
  dsimp only at parsed
  split at parsed
  · exact absurd parsed unwritten
  split at parsed
  · split at parsed
    · exact absurd parsed unwritten
    · rename_i lo hi ranged
      split at parsed
      · cases parsed
        cases writtenMax
      · cases parsed
        cases writtenMin
        split at writtenMax
        · cases writtenMax
          exact parsePortRange_bounds ranged
        · cases writtenMax
  · split at parsed <;> exact absurd parsed unwritten

/-- The single port `0` is accepted as the empty range `1`-`0`, also by
`tor_addr_parse_mask_ports` on the exit-policy pattern `*:0` (with Linux's `AF_*` values). -/
theorem parsePortRange_zero :
    parsePortRange (some "0".toList) = some (1, 0) ∧
      torAddrParseMaskPorts linuxAddrFamilies mappedInetLib ⟨48, 16⟩ "*:0".toList
          ⟨false, false, false⟩ true true true =
        some ⟨2, some (TorAddr.inet 0), some 0, some 1, some 0⟩ :=
  ⟨by decide, by decide⟩

end Nuon.Net
