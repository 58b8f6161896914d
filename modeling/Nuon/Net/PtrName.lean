import Nuon.Net.AddrPort
import Mathlib.Tactic.IntervalCases

/-!
# Reverse-lookup names

`tor_addr_to_PTR_name` prints an address as the name a DNS `PTR` query asks for:
`"4.3.2.1.in-addr.arpa"` for `1.2.3.4`, and for an IPv6 address its 32 nybbles, lowest first,
each followed by a dot, then `"ip6.arpa"`. `tor_addr_parse_PTR_name` reads such a name back,
with the help of `tor_inet_aton` (`lib/net/inaddr.c`, not among the sources) for the dotted quad.

Every IPv4 and IPv6 address survives the round trip, and every name the `.ip6.arpa` branch
accepts is printed back as itself in lower case (`torAddrParsePTRName_roundTrip`).
-/

namespace Nuon.Net

/-- `REVERSE_LOOKUP_NAME_BUF_LEN` and `INET_NTOA_BUF_LEN` (`address.h`, `inaddr.h`, not among the
sources). Once `outlen` reaches the first, the IPv6 branch of `tor_addr_to_PTR_name` writes 73
bytes, and the second holds a dotted quad and its NUL, so each is at least that large. -/
structure NameBufLens where
  reverseLookupNameBufLen : Nat
  inetNtoaBufLen : Nat
  reverse_fits : 73 ≤ reverseLookupNameBufLen
  ntoa_fits : 16 ≤ inetNtoaBufLen

/-- The host-order value of the dotted quad `w.x.y.z`. -/
def quadValue (w x y z : UInt8) : UInt32 :=
  ⟨w.toBitVec ++ x.toBitVec ++ y.toBitVec ++ z.toBitVec⟩

/-- `"%d.%d.%d.%d"` of four bytes. -/
def dottedQuad (w x y z : UInt8) : List Char :=
  decimalChars w.toNat ++ '.' :: decimalChars x.toNat ++ '.' :: decimalChars y.toNat ++
    '.' :: decimalChars z.toNat

/-- What `tor_addr_parse_PTR_name` relies on from `tor_inet_aton`, which returns the address in
host order here: it reads every canonical dotted quad. -/
def AcceptsDottedQuads (inetAton : List Char → Option UInt32) : Prop :=
  ∀ w x y z, inetAton (dottedQuad w x y z) = some (quadValue w x y z)

/-- The byte reversal of the `.in-addr.arpa` branch. The code applies it to `s_addr`, in network
order; reversing commutes with `ntohl`, so it is applied to the host-order value here. -/
def reverseBytes (s : UInt32) : UInt32 :=
  ((s &&& 0x000000ff) <<< 24) ||| ((s &&& 0x0000ff00) <<< 8) |||
    ((s &&& 0x00ff0000) >>> 8) ||| ((s &&& 0xff000000) >>> 24)

/-- `"0123456789abcdef"[d]`. -/
def hexChar (d : Nat) : Char :=
  "0123456789abcdef".toList.getD d '\x00'

/-- The four characters `tor_addr_to_PTR_name` prints for one byte of an IPv6 address. -/
def ptrNybbles (byte : UInt8) : List Char :=
  [hexChar (byte &&& 0x0f).toNat, '.', hexChar (byte >>> 4).toNat, '.']

/-- `in6.s6_addr[i] = byte`. -/
def In6Addr.set (a : In6Addr) (i : Nat) (byte : UInt8) : In6Addr :=
  ⟨a.bytes.set i byte, by rw [List.length_set, a.length_eq]⟩

variable (N : NameBufLens)

/-- `tor_addr_to_PTR_name(out, outlen, addr)`: the name written, `none` for `-1`. The value returned
otherwise is the name's length. `tor_snprintf` fails when the name and its NUL do not fit. -/
def torAddrToPTRName (outlen : Nat) : TorAddr → Option (List Char)
  | .inet a =>
    let text := dottedQuad (a &&& 0xff).toUInt8 ((a >>> 8) &&& 0xff).toUInt8
      ((a >>> 16) &&& 0xff).toUInt8 ((a >>> 24) &&& 0xff).toUInt8 ++ ".in-addr.arpa".toList
    if outlen ≤ text.length then none else some text
  | .inet6 y =>
    if outlen < N.reverseLookupNameBufLen then none
    else some (y.bytes.reverse.flatMap ptrNybbles ++ "ip6.arpa".toList)
  | _ => none

/-- The loop of the `.ip6.arpa` branch from iteration `i` with `n` iterations left. Each reads a
hex digit, a dot, a hex digit and a dot, and stores the byte at `s6_addr[15-i]`; `none` for `-1`.
A name too short for the four reads fails as the code does, at a character that is not a dot or
a hex digit. -/
def ptrNybbleLoop (i : Nat) : Nat → In6Addr → List Char → Option (In6Addr × List Char)
  | 0, in6, cp => some (in6, cp)
  | n + 1, in6, c0 :: c1 :: c2 :: c3 :: cp =>
    let n0 := hexDecodeDigit c0
    let n1 := hexDecodeDigit c2
    if c1 ≠ '.' ∨ c3 ≠ '.' ∨ n0 < 0 ∨ n1 < 0 then none
    else ptrNybbleLoop (i + 1) n (in6.set (15 - i) (UInt8.ofNat (n0.toNat ||| n1.toNat <<< 4))) cp
  | _ + 1, _, _ => none

variable (F : AddrFamilies) (I : InetLib) (inetAton : List Char → Option UInt32)

/-- `tor_addr_parse_PTR_name(result, address, family, accept_regular)`: the value returned and
what is stored in `*result`. The `in6_addr` on the stack starts undefined (zeros here); the loop
writes all sixteen bytes before it is used. -/
def torAddrParsePTRName (family : Nat) (acceptRegular : Bool) (address : List Char) :
    Int × Option TorAddr :=
  if strcasecmpend address ".in-addr.arpa".toList = 0 then
    if family = F.inet6 then (-1, none)
    else
      let len := strlen address - 13
      if N.inetNtoaBufLen ≤ len then (-1, none)
      else
        match inetAton ((cstr address).take len) with
        | none => (-1, none)
        | some inaddr => (1, some (.inet (reverseBytes inaddr)))
  else if strcasecmpend address ".ip6.arpa".toList = 0 then
    if family = F.inet then (-1, none)
    else
      match ptrNybbleLoop 0 16 ⟨List.replicate 16 0, rfl⟩ address with
      | none => (-1, none)
      | some (in6, cp) =>
        if strcasecmp cp "ip6.arpa".toList ≠ 0 then (-1, none) else (1, some (.inet6 in6))
  else if acceptRegular then
    match torAddrParse I address with
    | none => (0, none)
    | some tmp =>
      if torAddrFamily F tmp ≠ family ∧ family ≠ F.unspec then (-1, none) else (1, some tmp)
  else (0, none)

/-! ## Bytes and nybbles -/

private theorem reverseBytes_quadValue (w x y z : UInt8) :
    reverseBytes (quadValue w x y z) = quadValue z y x w := by
  suffices bits : (reverseBytes (quadValue w x y z)).toBitVec = (quadValue z y x w).toBitVec from
    congrArg UInt32.mk bits
  show ((_ &&& 0x000000ff#32) <<< 24) ||| ((_ &&& 0x0000ff00#32) <<< 8) |||
    ((_ &&& 0x00ff0000#32) >>> 8) ||| ((_ &&& 0xff000000#32) >>> 24) = _
  ext ⟨i, lt⟩
  simp only [quadValue, BitVec.getLsbD_or, BitVec.getLsbD_and, BitVec.getLsbD_shiftLeft,
    BitVec.getLsbD_ushiftRight, BitVec.getLsbD_append, BitVec.getLsbD_ofNat]
  interval_cases i <;> simp only [Nat.testBit, Nat.one_and_eq_mod_two, decide_True, decide_False,
    cond_true, cond_false, Bool.true_and, Bool.and_true, Bool.false_and, Bool.and_false,
    Bool.or_false, Bool.false_or, Bool.not_true, Bool.not_false, Nat.reduceLT, Nat.reduceAdd,
    Nat.reduceSub, Nat.reduceShiftRight, Nat.reduceMod, Nat.reduceBNe]

private theorem toNat_append_eq {m n : Nat} (x : BitVec m) (y : BitVec n) :
    (x ++ y).toNat = x.toNat * 2 ^ n + y.toNat := by
  rw [BitVec.toNat_append, Nat.shiftLeft_eq, Nat.mul_comm, Nat.mul_add_lt_is_or y.isLt]

private theorem quadValue_toNat (w x y z : UInt8) :
    (quadValue w x y z).toNat = ((w.toNat * 256 + x.toNat) * 256 + y.toNat) * 256 + z.toNat := by
  simp only [quadValue, UInt32.toNat, toNat_append_eq]
  rfl

private theorem lowByte_toNat (a : UInt32) : (a &&& 0xff).toUInt8.toNat = a.toNat % 256 := by
  show (a.toNat &&& 2 ^ 8 - 1) % 2 ^ 8 = _
  rw [Nat.and_pow_two_sub_one_eq_mod, Nat.mod_mod]

private theorem shiftedByte_toNat (a k : UInt32) (small : k.toNat < 32) :
    ((a >>> k) &&& 0xff).toUInt8.toNat = a.toNat / 2 ^ k.toNat % 256 := by
  show ((a.toNat >>> (k.toNat % 32)) &&& 2 ^ 8 - 1) % 2 ^ 8 = _
  rw [Nat.and_pow_two_sub_one_eq_mod, Nat.mod_mod, Nat.mod_eq_of_lt small, Nat.shiftRight_eq_div_pow]

/-- The four bytes `tor_addr_to_PTR_name` prints, most significant last, make up the address. -/
theorem quadValue_printedBytes (a : UInt32) :
    quadValue ((a >>> 24) &&& 0xff).toUInt8 ((a >>> 16) &&& 0xff).toUInt8
      ((a >>> 8) &&& 0xff).toUInt8 (a &&& 0xff).toUInt8 = a := by
  apply UInt32.toNat.inj
  have bound := a.toNat_lt_size
  rw [quadValue_toNat, shiftedByte_toNat a 24 (by decide), shiftedByte_toNat a 16 (by decide),
    shiftedByte_toNat a 8 (by decide), lowByte_toNat]
  simp only [UInt32.size] at bound
  show ((a.toNat / 2 ^ 24 % 256 * 256 + a.toNat / 2 ^ 16 % 256) * 256 + a.toNat / 2 ^ 8 % 256) * 256 +
    a.toNat % 256 = a.toNat
  omega

private theorem lowNybble_toNat (b : UInt8) : (b &&& 0x0f).toNat = b.toNat % 16 :=
  Nat.and_pow_two_sub_one_eq_mod b.toNat 4

private theorem highNybble_toNat (b : UInt8) : (b >>> 4).toNat = b.toNat / 16 :=
  Nat.shiftRight_eq_div_pow b.toNat 4

/-- The byte the loop stores for two nybbles. -/
theorem nybbleByte_toNat {n0 n1 : Nat} (low : n0 < 16) (high : n1 < 16) :
    (UInt8.ofNat (n0 ||| n1 <<< 4)).toNat = n1 * 16 + n0 := by
  rw [Nat.shiftLeft_eq, Nat.or_comm, Nat.mul_comm, ← Nat.mul_add_lt_is_or (by simpa using low)]
  exact UInt8.toNat_ofNat_of_lt (by simp only [UInt8.size]; omega)

private theorem hexDecodeDigit_hexChar : ∀ d < 16, hexDecodeDigit (hexChar d) = d := by
  decide

private theorem hexDecodeDigit_ascii : ∀ n < 128, 0 ≤ hexDecodeDigit (Char.ofNat n) →
    (hexDecodeDigit (Char.ofNat n)).toNat < 16 ∧
      hexChar (hexDecodeDigit (Char.ofNat n)).toNat = (Char.ofNat n).toLower := by
  decide

/-- A hex digit of either case has a value below 16 and prints back as its lower-case self. -/
theorem hexDecodeDigit_spec {c : Char} (digit : 0 ≤ hexDecodeDigit c) :
    (hexDecodeDigit c).toNat < 16 ∧ hexChar (hexDecodeDigit c).toNat = c.toLower := by
  by_cases ascii : c.toNat < 128
  · simpa using hexDecodeDigit_ascii c.toNat ascii (by simpa using digit)
  · have above : ∀ d : Char, d.toNat < 128 → ¬c ≤ d := fun d small le => by
      have : c.toNat ≤ d.toNat := le
      omega
    simp [hexDecodeDigit, above '9' (by decide), above 'f' (by decide),
      above 'F' (by decide)] at digit

private theorem hexChar_ne_nul : ∀ d < 16, hexChar d ≠ '\x00' := by
  decide

/-! ## The nybble loop -/

/-- Setting byte `i` puts it first in the bytes from `i` on. -/
theorem In6Addr.set_drop (a : In6Addr) {i : Nat} (inRange : i < 16) (byte : UInt8) :
    (a.set i byte).bytes.drop i = byte :: a.bytes.drop (i + 1) := by
  have inBytes : i < a.bytes.length := by rw [a.length_eq]; exact inRange
  simp only [In6Addr.set, List.drop_set, Nat.lt_irrefl, if_false, Nat.sub_self,
    List.drop_eq_getElem_cons inBytes, List.set_cons_zero]

/-- One iteration of the loop on the four characters printed for a byte stores that byte. -/
theorem ptrNybbleLoop_ptrNybbles_cons (i n : Nat) (in6 : In6Addr) (byte : UInt8)
    (rest : List Char) :
    ptrNybbleLoop i (n + 1) in6 (ptrNybbles byte ++ rest) =
      ptrNybbleLoop (i + 1) n (in6.set (15 - i) byte) rest := by
  have lowSmall : (byte &&& 0x0f).toNat < 16 := by rw [lowNybble_toNat]; omega
  have highSmall : (byte >>> 4).toNat < 16 := by
    rw [highNybble_toNat]; have := byte.toNat_lt_size; simp only [UInt8.size] at this; omega
  have stored : UInt8.ofNat ((byte &&& 0x0f).toNat ||| (byte >>> 4).toNat <<< 4) = byte := by
    apply UInt8.toNat.inj
    rw [nybbleByte_toNat lowSmall highSmall, lowNybble_toNat, highNybble_toNat]
    omega
  have lowDigit := hexDecodeDigit_hexChar _ lowSmall
  have highDigit := hexDecodeDigit_hexChar _ highSmall
  simp only [ptrNybbles, List.cons_append, List.nil_append, ptrNybbleLoop, lowDigit, highDigit,
    Int.toNat_ofNat, stored]
  rw [if_neg (by simp)]
  rfl

/-- On the characters printed for `bytes`, the loop stores them from `s6_addr[15-i]` down. -/
theorem ptrNybbleLoop_ptrNybbles (rest : List Char) :
    ∀ (bytes : List UInt8) (in6 : In6Addr), bytes.length ≤ 16 →
      (ptrNybbleLoop (16 - bytes.length) bytes.length in6 (bytes.flatMap ptrNybbles ++ rest)).map
        (fun r => (r.1.bytes, r.2)) = some (bytes.reverse ++ in6.bytes.drop bytes.length, rest)
  | [], in6, _ => by simp [ptrNybbleLoop]
  | byte :: bytes, in6, fits => by
    have fits' : bytes.length < 16 := by simp only [List.length_cons] at fits; omega
    have later := ptrNybbleLoop_ptrNybbles rest bytes (in6.set bytes.length byte) fits'.le
    rw [In6Addr.set_drop in6 fits' byte] at later
    simp only [List.length_cons, List.flatMap_cons, List.append_assoc, List.reverse_cons]
    rw [show 16 - (bytes.length + 1) = 15 - bytes.length by omega,
      ptrNybbleLoop_ptrNybbles_cons, show 15 - bytes.length + 1 = 16 - bytes.length by omega,
      show 15 - (15 - bytes.length) = bytes.length by omega, later]
    simp

/-- What the loop accepts is the lower-case text of the bytes it stores, in either case, and it
stores what it would store reading that text. -/
theorem ptrNybbleLoop_accepts : ∀ (n i : Nat) (in6 : In6Addr) (s : List Char) (in6' : In6Addr)
    (cp : List Char), ptrNybbleLoop i n in6 s = some (in6', cp) →
      ∃ bytes : List UInt8, ∃ consumed, bytes.length = n ∧ s = consumed ++ cp ∧
        '\x00' ∉ consumed ∧ lowerAscii consumed = bytes.flatMap ptrNybbles ∧
        ptrNybbleLoop i n in6 (bytes.flatMap ptrNybbles ++ cp) = some (in6', cp)
  | 0, i, in6, s, in6', cp, done => by
    simp only [ptrNybbleLoop, Option.some.injEq, Prod.mk.injEq] at done
    obtain ⟨rfl, rfl⟩ := done
    exact ⟨[], [], rfl, rfl, List.not_mem_nil _, rfl, rfl⟩
  | n + 1, i, in6, c0 :: c1 :: c2 :: c3 :: s, in6', cp, accepted => by
    simp only [ptrNybbleLoop] at accepted
    split at accepted
    · cases accepted
    · rename_i checks
      simp only [ne_eq, not_or, not_not, not_lt] at checks
      obtain ⟨rfl, rfl, low, high⟩ := checks
      obtain ⟨lowSmall, lowChar⟩ := hexDecodeDigit_spec low
      obtain ⟨highSmall, highChar⟩ := hexDecodeDigit_spec high
      set byte := UInt8.ofNat ((hexDecodeDigit c0).toNat ||| (hexDecodeDigit c2).toNat <<< 4)
      have byteValue := nybbleByte_toNat lowSmall highSmall
      have lowNybble : (byte &&& 0x0f).toNat = (hexDecodeDigit c0).toNat := by
        rw [lowNybble_toNat, byteValue]; omega
      have highNybble : (byte >>> 4).toNat = (hexDecodeDigit c2).toNat := by
        rw [highNybble_toNat, byteValue]; omega
      obtain ⟨bytes, consumed, count, rfl, nulFree, lower, again⟩ :=
        ptrNybbleLoop_accepts n (i + 1) _ s in6' cp accepted
      have notNul : ∀ c, 0 ≤ hexDecodeDigit c → c ≠ '\x00' := fun c digit nul => by
        subst nul
        revert digit
        decide
      refine ⟨byte :: bytes, [c0, '.', c2, '.'] ++ consumed, by simp [count], rfl, ?_, ?_, ?_⟩
      · simp [(notNul c0 low).symm, (notNul c2 high).symm, nulFree]
      · rw [lowerAscii_append, lower, List.flatMap_cons]
        simp [lowerAscii, ptrNybbles, lowNybble, highNybble, lowChar, highChar]
      · rw [List.flatMap_cons, List.append_assoc, ptrNybbleLoop_ptrNybbles_cons, again]
  | n + 1, i, in6, [], in6', cp, accepted
  | n + 1, i, in6, [_], in6', cp, accepted
  | n + 1, i, in6, [_, _], in6', cp, accepted
  | n + 1, i, in6, [_, _, _], in6', cp, accepted => by cases accepted

/-- Sixteen bytes printed by `tor_addr_to_PTR_name` are read back by the loop. -/
theorem ptrNybbleLoop_printed (y : In6Addr) (rest : List Char) :
    ptrNybbleLoop 0 16 ⟨List.replicate 16 0, rfl⟩ (y.bytes.reverse.flatMap ptrNybbles ++ rest) =
      some (y, rest) := by
  have stored := ptrNybbleLoop_ptrNybbles rest y.bytes.reverse ⟨List.replicate 16 0, rfl⟩
    (by simp [y.length_eq])
  simp only [List.length_reverse, y.length_eq, Nat.sub_self, List.reverse_reverse] at stored
  obtain ⟨⟨in6, cp⟩, loop, same⟩ := Option.map_eq_some'.mp stored
  simp only [Prod.mk.injEq, List.drop_replicate, Nat.sub_self, List.replicate_zero,
    List.append_nil] at same
  obtain ⟨bytes, rfl⟩ := same
  rw [loop, In6Addr.ext bytes]

/-! ## The round trip -/

/-- No name ends in both `.ip6.arpa` and `.in-addr.arpa`. -/
theorem strcasecmpend_inAddr_of_ip6 {s : List Char}
    (ip6 : strcasecmpend s ".ip6.arpa".toList = 0) : strcasecmpend s ".in-addr.arpa".toList ≠ 0 := by
  unfold strcasecmpend at ip6 ⊢
  split at ip6
  · rename_i ends
    rw [if_neg fun inAddr => absurd (List.suffix_of_suffix_length_le ends inAddr (by decide))
      (by decide)]
    decide
  · cases ip6

private theorem dottedQuad_digits (w x y z : UInt8) :
    ∀ c ∈ dottedQuad w x y z, c.isDigit ∨ c = '.' := by
  simp only [dottedQuad, List.mem_append, List.mem_cons]
  rintro c ((((digit | rfl | digit) | rfl | digit) | rfl | digit)) <;>
    first | exact .inr rfl | exact .inl (decimalChars_isDigit _ c digit)

private theorem dottedQuad_length (w x y z : UInt8) : (dottedQuad w x y z).length ≤ 15 := by
  have bytes := fun b : UInt8 => decimalChars_length_le b.toNat_lt_size
  simp only [dottedQuad, List.length_append, List.length_cons]
  have := bytes w; have := bytes x; have := bytes y; have := bytes z
  omega

section RoundTrip

variable {N F I inetAton}

/-- An IPv4 address printed as an `.in-addr.arpa` name is read back. -/
theorem torAddrParsePTRName_inet (aton : AcceptsDottedQuads inetAton) (acceptRegular : Bool)
    (a : UInt32) {outlen : Nat} (room : N.reverseLookupNameBufLen ≤ outlen) :
    (torAddrToPTRName N outlen (.inet a)).map
        (torAddrParsePTRName N F I inetAton F.unspec acceptRegular) = some (1, some (.inet a)) := by
  set quad := dottedQuad (a &&& 0xff).toUInt8 ((a >>> 8) &&& 0xff).toUInt8
    ((a >>> 16) &&& 0xff).toUInt8 ((a >>> 24) &&& 0xff).toUInt8
  have short : quad.length ≤ 15 := dottedQuad_length _ _ _ _
  have suffixLength : (".in-addr.arpa".toList).length = 13 := rfl
  have nulFree : '\x00' ∉ quad := fun member => by
    rcases dottedQuad_digits _ _ _ _ _ member with digit | dot
    · exact absurd digit (by decide)
    · exact absurd dot (by decide)
  have whole : cstr (quad ++ ".in-addr.arpa".toList) = quad ++ ".in-addr.arpa".toList := by
    rw [cstr_append_of_nulFree nulFree]
    rfl
  have ends : strcasecmpend (quad ++ ".in-addr.arpa".toList) ".in-addr.arpa".toList = 0 := by
    rw [strcasecmpend, if_pos]
    rw [whole, lowerAscii_append]
    exact List.suffix_append _ _
  have printed : torAddrToPTRName N outlen (.inet a) = some (quad ++ ".in-addr.arpa".toList) := by
    have long : (quad ++ ".in-addr.arpa".toList).length < outlen := by
      have := N.reverse_fits
      rw [List.length_append]
      omega
    exact if_neg (Nat.not_le.mpr long)
  have family : F.unspec ≠ F.inet6 := F.pairwise_ne.2.1
  have len : strlen (quad ++ ".in-addr.arpa".toList) - 13 = quad.length := by
    rw [strlen, whole, List.length_append]
    omega
  have fits : ¬N.inetNtoaBufLen ≤ quad.length := by have := N.ntoa_fits; omega
  have parsed : inetAton quad = some (quadValue (a &&& 0xff).toUInt8 ((a >>> 8) &&& 0xff).toUInt8
      ((a >>> 16) &&& 0xff).toUInt8 ((a >>> 24) &&& 0xff).toUInt8) := aton _ _ _ _
  rw [printed, Option.map_some', torAddrParsePTRName, if_pos ends, if_neg family]
  simp only [len, if_neg fits, whole, List.take_left, parsed, reverseBytes_quadValue,
    quadValue_printedBytes]

/-- An IPv6 address printed as an `.ip6.arpa` name is read back. -/
theorem torAddrParsePTRName_inet6 (acceptRegular : Bool) (y : In6Addr) {outlen : Nat}
    (room : N.reverseLookupNameBufLen ≤ outlen) :
    (torAddrToPTRName N outlen (.inet6 y)).map
        (torAddrParsePTRName N F I inetAton F.unspec acceptRegular) = some (1, some (.inet6 y)) := by
  obtain ⟨last, earlier, split⟩ : ∃ last earlier, y.bytes.reverse = earlier ++ [last] := by
    cases bytes : y.bytes with
    | nil => simpa [bytes] using y.length_eq
    | cons b rest => exact ⟨b, rest.reverse, by simp⟩
  have nulFree : '\x00' ∉ y.bytes.reverse.flatMap ptrNybbles := by
    simp only [List.mem_flatMap, not_exists, not_and]
    intro b _ member
    simp only [ptrNybbles, List.mem_cons, List.mem_singleton, List.not_mem_nil, or_false] at member
    have low : (b &&& 0x0f).toNat < 16 := by rw [lowNybble_toNat]; omega
    have high : (b >>> 4).toNat < 16 := by
      rw [highNybble_toNat]; have := b.toNat_lt_size; simp only [UInt8.size] at this; omega
    rcases member with nul | nul | nul | nul
    · exact hexChar_ne_nul _ low nul.symm
    · exact absurd nul (by decide)
    · exact hexChar_ne_nul _ high nul.symm
    · exact absurd nul (by decide)
  have ends : strcasecmpend (y.bytes.reverse.flatMap ptrNybbles ++ "ip6.arpa".toList)
      ".ip6.arpa".toList = 0 := by
    rw [strcasecmpend, if_pos]
    rw [cstr_append_of_nulFree nulFree, split, List.flatMap_append]
    simp only [List.flatMap_cons, List.flatMap_nil, List.append_nil, ptrNybbles]
    exact ⟨lowerAscii (earlier.flatMap ptrNybbles ++ [hexChar (last &&& 0x0f).toNat, '.',
      hexChar (last >>> 4).toNat]), by simp [lowerAscii, cstr]⟩
  have printed : torAddrToPTRName N outlen (.inet6 y) =
      some (y.bytes.reverse.flatMap ptrNybbles ++ "ip6.arpa".toList) := by
    simp only [torAddrToPTRName]
    rw [if_neg (by omega)]
  have family : F.unspec ≠ F.inet := F.pairwise_ne.1
  rw [printed, Option.map_some', torAddrParsePTRName, if_neg (strcasecmpend_inAddr_of_ip6 ends),
    if_pos ends, if_neg family, ptrNybbleLoop_printed]
  rfl

/-- A name the `.ip6.arpa` branch accepts is printed back as itself in lower case. -/
theorem torAddrToPTRName_ip6Arpa {family : Nat} {acceptRegular : Bool} {s : List Char}
    {r : TorAddr} (ends : strcasecmpend s ".ip6.arpa".toList = 0)
    (accepted : torAddrParsePTRName N F I inetAton family acceptRegular s = (1, some r))
    {outlen : Nat} (room : N.reverseLookupNameBufLen ≤ outlen) :
    torAddrToPTRName N outlen r = some (lowerAscii (cstr s)) := by
  rw [torAddrParsePTRName, if_neg (strcasecmpend_inAddr_of_ip6 ends), if_pos ends] at accepted
  split at accepted
  · cases accepted
  split at accepted
  · cases accepted
  rename_i in6 cp loop
  split at accepted
  · cases accepted
  rename_i matched
  cases accepted
  obtain ⟨bytes, consumed, count, rfl, nulFree, lower, again⟩ :=
    ptrNybbleLoop_accepts 16 0 _ _ _ _ loop
  have stored := ptrNybbleLoop_ptrNybbles cp bytes ⟨List.replicate 16 0, rfl⟩ (by omega)
  rw [count, Nat.sub_self, again] at stored
  have storedBytes : in6.bytes = bytes.reverse := by simpa using stored
  have suffixText : lowerAscii (cstr cp) = "ip6.arpa".toList := by
    simp only [strcasecmp, ne_eq, ite_eq_right_iff, not_forall] at matched
    simpa using matched
  simp only [torAddrToPTRName]
  rw [if_neg (by omega), storedBytes, List.reverse_reverse, cstr_append_of_nulFree nulFree,
    lowerAscii_append, lower, suffixText]

/-- `tor_addr_to_PTR_name` into a buffer of at least `REVERSE_LOOKUP_NAME_BUF_LEN` bytes, then
`tor_addr_parse_PTR_name` with `AF_UNSPEC`, gives back every IPv4 and IPv6 address; and a name the
`.ip6.arpa` branch accepts, in any case, is printed back as its lower-case self. -/
theorem torAddrParsePTRName_roundTrip (aton : AcceptsDottedQuads inetAton) {outlen : Nat}
    (room : N.reverseLookupNameBufLen ≤ outlen) :
    (∀ (acceptRegular : Bool) (a : TorAddr), (∃ x, a = .inet x) ∨ (∃ y, a = .inet6 y) →
      (torAddrToPTRName N outlen a).map (torAddrParsePTRName N F I inetAton F.unspec acceptRegular) =
        some (1, some a)) ∧
      ∀ (family : Nat) (acceptRegular : Bool) (s : List Char) (r : TorAddr),
        strcasecmpend s ".ip6.arpa".toList = 0 →
        torAddrParsePTRName N F I inetAton family acceptRegular s = (1, some r) →
        torAddrToPTRName N outlen r = some (lowerAscii (cstr s)) := by
  refine ⟨?_, fun _ _ _ _ ends accepted => torAddrToPTRName_ip6Arpa ends accepted room⟩
  rintro acceptRegular a (⟨x, rfl⟩ | ⟨y, rfl⟩)
  · exact torAddrParsePTRName_inet aton acceptRegular x room
  · exact torAddrParsePTRName_inet6 acceptRegular y room

end RoundTrip

/-- The smallest buffer lengths the code allows. -/
def minimalNameBufLens : NameBufLens :=
  ⟨73, 16, le_rfl, le_rfl⟩

/-- A `tor_inet_aton` to run the model with: four dot-separated runs of decimal digits, each
below 256. -/
def decimalInetAton (s : List Char) : Option UInt32 :=
  match s.splitOn '.' with
  | [w, x, y, z] =>
    if [w, x, y, z].all fun d => d ≠ [] ∧ d.all Char.isDigit ∧ decimalValue d < 256 then
      some (quadValue (decimalValue w).toUInt8 (decimalValue x).toUInt8 (decimalValue y).toUInt8
        (decimalValue z).toUInt8)
    else none
  | _ => none

private theorem decimalInetAton_accepts : AcceptsDottedQuads decimalInetAton := by
  intro w x y z
  have noDot : ∀ l ∈ [decimalChars w.toNat, decimalChars x.toNat, decimalChars y.toNat,
      decimalChars z.toNat], '.' ∉ l := by
    simp only [List.mem_cons, List.mem_singleton, List.not_mem_nil, or_false]
    rintro l (rfl | rfl | rfl | rfl) <;> exact fun dot => absurd (decimalChars_isDigit _ _ dot) (by decide)
  have quad : dottedQuad w x y z = ['.'].intercalate [decimalChars w.toNat, decimalChars x.toNat,
      decimalChars y.toNat, decimalChars z.toNat] := by
    simp [dottedQuad, List.intercalate]
  have byte : ∀ b : UInt8, decimalValue (decimalChars b.toNat) < 256 ∧
      (decimalValue (decimalChars b.toNat)).toUInt8 = b := fun b => by
    rw [decimalValue_decimalChars]
    exact ⟨b.toNat_lt_size, UInt8.toNat.inj (UInt8.toNat_ofNat_of_lt b.toNat_lt_size)⟩
  rw [decimalInetAton, quad, List.splitOn_intercalate _ '.' noDot (by simp)]
  simp only [List.all_cons, List.all_nil, ne_eq, decimalChars_ne_nil, not_false_eq_true,
    List.all_eq_true.mpr (decimalChars_isDigit _), byte, true_and]
  rfl

/-- With a decimal `tor_inet_aton`, every IP address reads back from its PTR name, and an IPv6 name
is read within the string. -/
theorem torAddrParsePTRName_roundTrip_decimal :
    AcceptsDottedQuads decimalInetAton ∧ minimalNameBufLens.reverseLookupNameBufLen ≤ 73 ∧
      (∀ (acceptRegular : Bool) (a : TorAddr), (∃ x, a = .inet x) ∨ (∃ y, a = .inet6 y) →
        (torAddrToPTRName minimalNameBufLens 73 a).map
            (torAddrParsePTRName minimalNameBufLens linuxAddrFamilies loopbackInetLib decimalInetAton
              linuxAddrFamilies.unspec acceptRegular) = some (1, some a)) ∧
      ∀ (family : Nat) (acceptRegular : Bool) (s : List Char) (r : TorAddr),
        strcasecmpend s ".ip6.arpa".toList = 0 →
        torAddrParsePTRName minimalNameBufLens linuxAddrFamilies loopbackInetLib decimalInetAton
          family acceptRegular s = (1, some r) →
        torAddrToPTRName minimalNameBufLens 73 r = some (lowerAscii (cstr s)) :=
  ⟨decimalInetAton_accepts, le_rfl,
    torAddrParsePTRName_roundTrip decimalInetAton_accepts (le_refl 73)⟩

end Nuon.Net
