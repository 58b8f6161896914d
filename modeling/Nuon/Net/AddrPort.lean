import Nuon.Net.Address
import Nuon.Text.CString

/-!
# Address text: printing and parsing `address[:port]`

`tor_addr_to_str` and `fmt_addrport` print an address with `tor_inet_ntop`; `tor_addr_parse`,
`tor_addr_port_split` and `tor_addr_port_parse` read one back with `tor_inet_pton`. Those two live
in `lib/net/inaddr.c`, not among the sources, and are parameters here (`InetLib`). The buffers the
callers pass are `TOR_ADDR_BUF_LEN` long, enough for every address text, so printing does not fail
for an IPv4 or IPv6 address.

Printing then parsing gives the address and port back (`torAddrPortParse_fmtAddrport`) as long as
`tor_inet_pton` inverts `tor_inet_ntop` at that address and both have the shapes of the standard
texts (`InetLib.Shapes`): the split first asks whether the whole of `"1.2.3.4:80"` or
`"[::1]:80"` is an IPv6 address, and only the standard syntax says no.
-/

namespace Nuon.Net

/-- `tor_inet_ntop` and `tor_inet_pton` for `AF_INET` and `AF_INET6`. The IPv4 value is in host
order, as `tor_addr_from_in` stores it. -/
structure InetLib where
  ntop4 : UInt32 → List Char
  ntop6 : In6Addr → List Char
  pton4 : List Char → Option UInt32
  pton6 : List Char → Option In6Addr

/-- The shapes of the standard address texts: an IPv4 text is dotted decimal, and an IPv6 text
has no bracket and no dot before a colon (an embedded IPv4 address comes last). -/
structure InetLib.Shapes (I : InetLib) : Prop where
  ntop4_digits : ∀ x, ∀ c ∈ I.ntop4 x, c.isDigit ∨ c = '.'
  ntop4_dot : ∀ x, '.' ∈ I.ntop4 x
  pton6_bracket : ∀ s, '[' ∈ s → I.pton6 s = none
  pton6_dot_colon : ∀ s t, '.' ∈ s → ':' ∈ t → I.pton6 (s ++ t) = none

/-- `tor_inet_pton` reads back what `tor_inet_ntop` printed for this address. -/
def InetLib.InvertsAt (I : InetLib) : TorAddr → Prop
  | .inet x => I.pton4 (I.ntop4 x) = some x
  | .inet6 y => I.pton6 (I.ntop6 y) = some y
  | _ => False

variable (F : AddrFamilies) (I : InetLib)

/-- `tor_addr_to_str(dest, addr, TOR_ADDR_BUF_LEN, decorate)`; `none` for `NULL`. -/
def torAddrToStr (a : TorAddr) (decorate : Bool) : Option (List Char) :=
  match a with
  | .inet x => some (I.ntop4 x)
  | .inet6 y => some (if decorate then '[' :: I.ntop6 y ++ [']'] else I.ntop6 y)
  | .unix _ => some "AF_UNIX".toList
  | .unspec => none

/-- `tor_addr_to_str_dup(addr)`: the undecorated text, or `<unknown address type>`. -/
def torAddrToStrDup (a : TorAddr) : List Char :=
  (torAddrToStr I a false).getD "<unknown address type>".toList

/-- `fmt_addr_impl(addr, decorate)`. -/
def fmtAddrImpl (a : TorAddr) (decorate : Bool) : List Char :=
  (torAddrToStr I a decorate).getD "???".toList

/-- `fmt_addrport(addr, port)`: `"%s:%u"` of the decorated address and the port. -/
def fmtAddrport (a : TorAddr) (port : Nat) : List Char :=
  fmtAddrImpl I a true ++ ':' :: decimalChars port

/-- `tor_addr_parse_impl(addr, src, allow_ipv6_without_brackets)`: the address, or `none` for
`-1`. An IPv4 reading wins over an IPv6 one. -/
def torAddrParseImpl (src : List Char) (allowIpv6WithoutBrackets : Bool) : Option TorAddr :=
  let bracketsDetected := src.head? = some '[' ∧ src.getLast? = some ']'
  let inner := if bracketsDetected then (src.drop 1).dropLast else src
  let asIpv6 := if bracketsDetected ∨ allowIpv6WithoutBrackets then
    (I.pton6 inner).map .inet6 else none
  let asIpv4 := if bracketsDetected then none else (I.pton4 inner).map .inet
  asIpv4.orElse fun _ => asIpv6

/-- `tor_addr_parse(addr, src)`. -/
def torAddrParse (src : List Char) : Option TorAddr :=
  torAddrParseImpl I src true

/-- Modelled from the spec: `strrchr(s, c)` followed by a cut: the text before the last `c` and the
text after it. -/
def splitAtLast (s : List Char) (c : Char) : Option (List Char × List Char) :=
  match s.reverse.span (· ≠ c) with
  | (_, []) => none
  | (after, _ :: before) => some (before.reverse, after.reverse)

/-- `tor_addr_port_split(severity, addrport, &address, &port)`: the address text and the port,
`0` when there is none; `none` for `-1`. -/
def torAddrPortSplit (addrport : List Char) : Option (List Char × Nat) :=
  if (torAddrParse I addrport).map (torAddrFamily F) = some F.inet6 then some (addrport, 0)
  else
    match splitAtLast addrport ':' with
    | none => some (addrport, 0)
    | some (address, portText) =>
      let port := (torParseLong portText 1 65535 false).value
      if port = 0 then none else some (address, port.toNat)

/-- `tor_addr_port_parse(severity, addrport, &address, &port, default_port)`: `none` for `-1`.
A missing port takes `default_port`, converted to `uint16_t`. -/
def torAddrPortParse (addrport : List Char) (defaultPort : Int) : Option (TorAddr × Nat) :=
  (torAddrPortSplit F I addrport).bind fun split =>
    if split.2 = 0 ∧ defaultPort < 0 then none
    else (torAddrParseImpl I split.1 (split.2 = 0)).map fun a =>
      (a, if split.2 = 0 then defaultPort.toNat % 2 ^ 16 else split.2)

/-! ## Printing then parsing -/

private theorem splitAtLast_append {s t : List Char} {c : Char} (notInT : c ∉ t) :
    splitAtLast (s ++ c :: t) c = some (s, t) := by
  have others : ∀ d ∈ t.reverse, decide (d ≠ c) = true := fun d member => by
    simp only [decide_eq_true_eq]
    rintro rfl
    exact notInT (List.mem_reverse.mp member)
  simp only [splitAtLast, List.span_eq_take_drop, List.reverse_append, List.reverse_cons,
    List.append_assoc, List.singleton_append, List.takeWhile_append_of_pos others,
    List.dropWhile_append_of_pos others]
  simp

private theorem torAddrParseImpl_unbracketed {src : List Char} (allow : Bool)
    (unbracketed : ¬(src.head? = some '[' ∧ src.getLast? = some ']')) :
    torAddrParseImpl I src allow =
      ((I.pton4 src).map .inet).orElse fun _ => if allow then (I.pton6 src).map .inet6 else none := by
  simp only [torAddrParseImpl, unbracketed, false_or, if_false]

private theorem torAddrParseImpl_bracketed (text : List Char) (allow : Bool) :
    torAddrParseImpl I ('[' :: text ++ [']']) allow = (I.pton6 text).map .inet6 := by
  have last : ('[' :: (text ++ [']'])).getLast? = some ']' := by
    rw [← List.cons_append, List.getLast?_concat]
  simp [torAddrParseImpl, last]

/-- Text that is not bracketed and that `tor_inet_pton` does not read as IPv6 is not IPv6 to
`tor_addr_parse`. -/
theorem torAddrParse_ne_inet6 {src : List Char}
    (unbracketed : ¬(src.head? = some '[' ∧ src.getLast? = some ']'))
    (notIpv6 : I.pton6 src = none) :
    (torAddrParse I src).map (torAddrFamily F) ≠ some F.inet6 := by
  obtain ⟨-, -, -, inet_ne, -, -⟩ := F.pairwise_ne
  rw [torAddrParse, torAddrParseImpl_unbracketed I true unbracketed, notIpv6]
  cases I.pton4 src <;> simp [torAddrFamily, inet_ne]

private theorem colon_not_mem_decimalChars (n : Nat) : ':' ∉ decimalChars n := fun member => by
  simpa using decimalChars_isDigit n ':' member

/-- With a port in range, the last colon is the one before the port's digits. -/
theorem torAddrPortSplit_port {address : List Char} {port : Nat} (low : 1 ≤ port)
    (high : port ≤ 65535)
    (notIpv6 : (torAddrParse I (address ++ ':' :: decimalChars port)).map (torAddrFamily F) ≠
      some F.inet6) :
    torAddrPortSplit F I (address ++ ':' :: decimalChars port) = some (address, port) := by
  have parsed : torParseLong (decimalChars port) 1 65535 false = ⟨port, true, []⟩ :=
    torParseLong_decimalChars (by omega) (by omega) (by omega)
  rw [torAddrPortSplit, if_neg notIpv6, splitAtLast_append (colon_not_mem_decimalChars port)]
  simp [parsed, show port ≠ 0 by omega]

private theorem torAddrPortParse_port {address : List Char} {port : Nat} (low : 1 ≤ port)
    (high : port ≤ 65535)
    (notIpv6 : (torAddrParse I (address ++ ':' :: decimalChars port)).map (torAddrFamily F) ≠
      some F.inet6) (defaultPort : Int) :
    torAddrPortParse F I (address ++ ':' :: decimalChars port) defaultPort =
      (torAddrParseImpl I address false).map fun a => (a, port) := by
  simp [torAddrPortParse, torAddrPortSplit_port F I low high notIpv6, show port ≠ 0 by omega]

/-- The last character of `text:port` is a digit of the port. -/
theorem getLast_ne_bracket (text : List Char) (port : Nat) :
    (text ++ ':' :: decimalChars port).getLast? ≠ some ']' := by
  rw [List.getLast?_append, List.getLast?_cons, Option.or_some]
  cases last : (decimalChars port).getLast? with
  | none => simp
  | some c =>
    have digit := decimalChars_isDigit port c (List.mem_of_getLast?_eq_some last)
    simp only [Option.getD_some, ne_eq, Option.some.injEq]
    rintro rfl
    exact absurd digit (by decide)

/-- `tor_addr_port_parse` reads back the address and port `fmt_addrport` printed, whatever the
default port. -/
theorem torAddrPortParse_fmtAddrport (shapes : I.Shapes) {a : TorAddr} (inverts : I.InvertsAt a)
    {port : Nat} (low : 1 ≤ port) (high : port ≤ 65535) (defaultPort : Int) :
    torAddrPortParse F I (fmtAddrport I a port) defaultPort = some (a, port) := by
  match a, inverts with
  | .inet x, (inverts : I.pton4 (I.ntop4 x) = some x) =>
    have unbracketed : ∀ t, ¬((I.ntop4 x ++ t).head? = some '[' ∧
        (I.ntop4 x ++ t).getLast? = some ']') := by
      rintro t ⟨first, -⟩
      cases text : I.ntop4 x with
      | nil => simpa [text] using shapes.ntop4_dot x
      | cons c rest =>
        rw [text, List.cons_append, List.head?_cons, Option.some_inj] at first
        have digit := shapes.ntop4_digits x c (by simp [text])
        subst first
        simp at digit
    have notIpv6 := torAddrParse_ne_inet6 F I (unbracketed (':' :: decimalChars port))
      (shapes.pton6_dot_colon _ _ (shapes.ntop4_dot x) (List.mem_cons_self ':' _))
    rw [fmtAddrport, fmtAddrImpl, torAddrToStr, Option.getD_some,
      torAddrPortParse_port F I low high notIpv6,
      torAddrParseImpl_unbracketed I false (by simpa using unbracketed [])]
    simp [inverts]
  | .inet6 y, (inverts : I.pton6 (I.ntop6 y) = some y) =>
    have bracketed : '[' ∈ ('[' :: I.ntop6 y ++ [']']) ++ ':' :: decimalChars port := by simp
    have notIpv6 := torAddrParse_ne_inet6 F I
      (fun both => getLast_ne_bracket _ port both.2) (shapes.pton6_bracket _ bracketed)
    rw [fmtAddrport, fmtAddrImpl, torAddrToStr, if_pos rfl, Option.getD_some,
      torAddrPortParse_port F I low high notIpv6, torAddrParseImpl_bracketed, inverts]
    rfl

/-- A stand-in for `tor_inet_ntop` and `tor_inet_pton` that knows the two loopback addresses. -/
def loopbackInetLib : InetLib where
  ntop4 _ := "127.0.0.1".toList
  ntop6 _ := "::1".toList
  pton4 s := if s = "127.0.0.1".toList then some 0x7f000001 else none
  pton6 s := if s = "::1".toList then some ⟨List.replicate 15 0 ++ [1], by rfl⟩ else none

private theorem loopbackInetLib_shapes : loopbackInetLib.Shapes where
  ntop4_digits _ := show ∀ c ∈ "127.0.0.1".toList, c.isDigit ∨ c = '.' by decide
  ntop4_dot _ := show '.' ∈ "127.0.0.1".toList by decide
  pton6_bracket s bracket := if_neg fun text => absurd (text ▸ bracket) (by decide)
  pton6_dot_colon s t dot _ :=
    if_neg fun text => absurd (text ▸ List.mem_append_left t dot) (by decide)

/-- `127.0.0.1:9050` parses back from what `fmt_addrport` prints. -/
theorem torAddrPortParse_fmtAddrport_loopback :
    loopbackInetLib.Shapes ∧ loopbackInetLib.InvertsAt (.inet 0x7f000001) ∧ 1 ≤ 9050 ∧
      9050 ≤ 65535 ∧
      torAddrPortParse linuxAddrFamilies loopbackInetLib
        (fmtAddrport loopbackInetLib (.inet 0x7f000001) 9050) (-1) = some (.inet 0x7f000001, 9050) :=
  ⟨loopbackInetLib_shapes, loopbackInverts, by decide, by decide,
    torAddrPortParse_fmtAddrport linuxAddrFamilies loopbackInetLib loopbackInetLib_shapes
      loopbackInverts (by decide) (by decide) (-1)⟩
where
  loopbackInverts : loopbackInetLib.InvertsAt (.inet 0x7f000001) := by
    simp [InetLib.InvertsAt, loopbackInetLib]

end Nuon.Net
