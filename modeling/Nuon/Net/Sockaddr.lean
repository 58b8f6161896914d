import Nuon.Net.AddrPort

/-!
# Socket addresses

`tor_addr_to_sockaddr` fills a caller's buffer with a `struct sockaddr_in` or `sockaddr_in6`:
the buffer is zeroed, then the family is stored in host order and the port and the address in
network order. `tor_addr_from_sockaddr` reads them back and `tor_sockaddr_to_str` prints them.
The buffer is a list of bytes in the Linux layout: a two-byte `sa_family_t`, stored
little-endian as on the usual hosts, at offset 0; the port at 2; the IPv4 address at 4 and the
IPv6 address at 8, after the zero flow label.

An IP address with its port goes through the buffer unchanged, and `tor_sockaddr_to_str` prints
what `fmt_addrport` prints for it (`torAddrToSockaddr_roundTrip`).
-/

namespace Nuon.Net

/-- The `n` low bytes of `v`, least significant first: a value in host order on a
little-endian host. -/
def hostBytes : Nat → Nat → List UInt8
  | 0, _ => []
  | n + 1, v => (v % 256).toUInt8 :: hostBytes n (v / 256)

/-- The `n` low bytes of `v`, most significant first: `htons` and `htonl` values in memory. -/
def netBytes : Nat → Nat → List UInt8
  | 0, _ => []
  | n + 1, v => netBytes n (v / 256) ++ [(v % 256).toUInt8]

/-- The value of bytes in host order on a little-endian host. -/
def littleEndian (bytes : List UInt8) : Nat :=
  bytes.foldr (fun b acc => b.toNat + 256 * acc) 0

/-- `sizeof(struct sockaddr_in)`: family, port, address and eight bytes of padding. -/
def sockaddrInLen : Nat := 16

/-- `sizeof(struct sockaddr_in6)`: family, port, flow label, address and scope. -/
def sockaddrIn6Len : Nat := 28

/-- The size of the `sockaddr` `tor_addr_to_sockaddr` writes for an address, if it writes one. -/
def sockaddrLen : TorAddr → Option Nat
  | .inet _ => some sockaddrInLen
  | .inet6 _ => some sockaddrIn6Len
  | _ => none

/-- `len` bytes of a buffer from `off`; `none` past its end, where reading is undefined. -/
def readBytes (buf : List UInt8) (off len : Nat) : Option (List UInt8) :=
  if off + len ≤ buf.length then some ((buf.drop off).take len) else none

/-- `sin6_addr` of a buffer. -/
def readIn6Addr (buf : List UInt8) : Option In6Addr :=
  if h : 24 ≤ buf.length then
    some ⟨(buf.drop 8).take 16, by rw [List.length_take, List.length_drop]; omega⟩
  else none

variable (F : AddrFamilies) (I : InetLib)

/-- `tor_addr_to_sockaddr(a, port, sa_out, len)`: the length returned and the buffer after the
call. The family test of the code is the constructor here, the `AF_*` values being distinct;
`sin_len` (`HAVE_STRUCT_SOCKADDR_IN_SIN_LEN`) is not in the Linux layout. -/
def torAddrToSockaddr (a : TorAddr) (port : UInt16) (len : Nat) : Nat × List UInt8 :=
  let zeroed := List.replicate len 0
  match a with
  | .inet x =>
    if len < sockaddrInLen then (0, zeroed)
    else (sockaddrInLen, hostBytes 2 F.inet ++ netBytes 2 port.toNat ++ netBytes 4 x.toNat ++
      List.replicate (len - 8) 0)
  | .inet6 y =>
    if len < sockaddrIn6Len then (0, zeroed)
    else (sockaddrIn6Len, hostBytes 2 F.inet6 ++ netBytes 2 port.toNat ++ List.replicate 4 0 ++
      y.bytes ++ List.replicate (len - 24) 0)
  | _ => (0, zeroed)

/-- `tor_addr_from_sockaddr(a, sa, &port)`: the value returned, the address, and the port when
the family has one; `none` where it reads past the buffer. -/
def torAddrFromSockaddr (sa : List UInt8) : Option (Int × TorAddr × Option UInt16) :=
  (readBytes sa 0 2).bind fun familyBytes =>
    let family := littleEndian familyBytes
    if family = F.inet then
      (readBytes sa 4 4).bind fun addr => (readBytes sa 2 2).map fun port =>
        (0, .inet (bigEndian addr).toUInt32, some (bigEndian port).toUInt16)
    else if family = F.inet6 then
      (readIn6Addr sa).bind fun addr => (readBytes sa 2 2).map fun port =>
        (0, .inet6 addr, some (bigEndian port).toUInt16)
    else if family = F.unix then some (0, .unix 0, none)
    else some (-1, .unspec, none)

/-- `sun_path` as `%s` prints it: up to its NUL, which has to lie in the buffer. -/
def sunPath (sa : List UInt8) : Option (List Char) :=
  let path := (sa.drop 2).map fun b => Char.ofNat b.toNat
  if '\x00' ∈ path then some (cstr path) else none

/-- `tor_sockaddr_to_str(sa)`: `"unix:"` and the path, `"unspec"`, or the decorated address and
the port; `NULL` for another family. -/
def torSockaddrToStr (sa : List UInt8) : Option (List Char) :=
  (readBytes sa 0 2).bind fun familyBytes =>
    let family := littleEndian familyBytes
    if family = F.unix then (sunPath sa).map fun path => "unix:".toList ++ path
    else if family = F.unspec then some "unspec".toList
    else (torAddrFromSockaddr F sa).bind fun (ret, addr, port) =>
      if ret < 0 then none
      else (torAddrToStr I addr true).map fun address =>
        address ++ ':' :: decimalChars (port.getD 0).toNat

/-! ## Byte orders -/

@[simp] private theorem length_hostBytes (n v : Nat) : (hostBytes n v).length = n := by
  induction n generalizing v with
  | zero => rfl
  | succ n inductionHypothesis => simp only [hostBytes, List.length_cons, inductionHypothesis]

@[simp] private theorem length_netBytes (n v : Nat) : (netBytes n v).length = n := by
  induction n generalizing v with
  | zero => rfl
  | succ n inductionHypothesis =>
    simp only [netBytes, List.length_append, inductionHypothesis, List.length_singleton]

private theorem byte_toNat (v : Nat) : (v % 256).toUInt8.toNat = v % 256 :=
  UInt8.toNat_ofNat_of_lt (Nat.mod_lt _ (by decide))

private theorem littleEndian_hostBytes (n v : Nat) : littleEndian (hostBytes n v) = v % 256 ^ n := by
  induction n generalizing v with
  | zero => simp [hostBytes, littleEndian, Nat.mod_one]
  | succ n inductionHypothesis =>
    have split := Nat.mod_mul (x := v) (a := 256) (b := 256 ^ n)
    rw [← Nat.pow_succ'] at split
    simp only [hostBytes, littleEndian, List.foldr_cons] at inductionHypothesis ⊢
    rw [inductionHypothesis, byte_toNat, split]

private theorem bigEndian_append_singleton (bytes : List UInt8) (b : UInt8) :
    bigEndian (bytes ++ [b]) = 256 * bigEndian bytes + b.toNat := by
  simp only [bigEndian, List.foldl_append, List.foldl_cons, List.foldl_nil]

private theorem bigEndian_netBytes (n v : Nat) : bigEndian (netBytes n v) = v % 256 ^ n := by
  induction n generalizing v with
  | zero => simp [netBytes, bigEndian, Nat.mod_one]
  | succ n inductionHypothesis =>
    have split := Nat.mod_mul (x := v) (a := 256) (b := 256 ^ n)
    rw [← Nat.pow_succ'] at split
    rw [netBytes, bigEndian_append_singleton, inductionHypothesis, byte_toNat, split]
    omega

/-- A port fits in two bytes. -/
theorem UInt16.toNat_lt_two_bytes (p : UInt16) : p.toNat < 256 ^ 2 :=
  p.toBitVec.isLt

/-- An IPv4 address fits in four bytes. -/
theorem UInt32.toNat_lt_four_bytes (x : UInt32) : x.toNat < 256 ^ 4 :=
  x.toBitVec.isLt

private theorem toUInt16_toNat (p : UInt16) : p.toNat.toUInt16 = p :=
  UInt16.eq_of_val_eq (Fin.ext (UInt16.toNat_ofNat_of_lt p.toBitVec.isLt))

private theorem toUInt32_toNat (x : UInt32) : x.toNat.toUInt32 = x :=
  UInt32.eq_of_val_eq (Fin.ext (UInt32.toNat_ofNat_of_lt x.toBitVec.isLt))

/-! ## Reading a field -/

private theorem readBytes_append (pre mid post : List UInt8) :
    readBytes (pre ++ mid ++ post) pre.length mid.length = some mid := by
  rw [readBytes, if_pos (by simp only [List.length_append]; omega), List.append_assoc,
    List.drop_left, List.take_left]

/-- The family, the port, and what follows them. -/
theorem readBytes_fields {H P X Z : List UInt8} (hLen : H.length = 2) (pLen : P.length = 2) :
    readBytes (H ++ P ++ X ++ Z) 0 2 = some H ∧ readBytes (H ++ P ++ X ++ Z) 2 2 = some P ∧
      readBytes (H ++ P ++ X ++ Z) 4 X.length = some X := by
  refine ⟨?_, ?_, ?_⟩
  · have read := readBytes_append [] H (P ++ X ++ Z)
    rwa [List.nil_append, List.length_nil, hLen, ← List.append_assoc, ← List.append_assoc] at read
  · have read := readBytes_append H P (X ++ Z)
    rwa [hLen, pLen, ← List.append_assoc] at read
  · have read := readBytes_append (H ++ P) X Z
    rwa [List.length_append, hLen, pLen] at read

/-- `sin6_addr` after eight bytes of family, port and flow label. -/
theorem readIn6Addr_fields {front : List UInt8} (frontLen : front.length = 8) (y : In6Addr)
    (Z : List UInt8) : readIn6Addr (front ++ y.bytes ++ Z) = some y := by
  have fits : 24 ≤ (front ++ y.bytes ++ Z).length := by
    simp only [List.length_append, frontLen, y.length_eq]
    omega
  rw [readIn6Addr, dif_pos fits, Option.some.injEq]
  ext1
  show ((front ++ y.bytes ++ Z).drop 8).take 16 = y.bytes
  rw [List.append_assoc, List.drop_left' frontLen, List.take_left' y.length_eq]

/-! ## Through the buffer and back -/

section Families

variable {F}

/-- The family stored in host order reads back. -/
theorem littleEndian_family {family : Nat} (fits : family < 65536) :
    littleEndian (hostBytes 2 family) = family := by
  rw [littleEndian_hostBytes]
  exact Nat.mod_eq_of_lt fits

/-- The port stored by `htons` reads back by `ntohs`. -/
theorem bigEndian_port (port : UInt16) : (bigEndian (netBytes 2 port.toNat)).toUInt16 = port := by
  rw [bigEndian_netBytes, Nat.mod_eq_of_lt (UInt16.toNat_lt_two_bytes port), toUInt16_toNat]

private theorem torAddrFromSockaddr_inet (fits : F.inet < 65536) (x : UInt32) (port : UInt16)
    {len : Nat} (room : sockaddrInLen ≤ len) :
    torAddrFromSockaddr F (torAddrToSockaddr F (.inet x) port len).2 = some (0, .inet x, some port) := by
  obtain ⟨family, portRead, addrRead⟩ := readBytes_fields (X := netBytes 4 x.toNat)
    (Z := List.replicate (len - 8) 0) (length_hostBytes 2 F.inet) (length_netBytes 2 port.toNat)
  rw [length_netBytes] at addrRead
  have address : (bigEndian (netBytes 4 x.toNat)).toUInt32 = x := by
    rw [bigEndian_netBytes, Nat.mod_eq_of_lt (UInt32.toNat_lt_four_bytes x), toUInt32_toNat]
  simp only [torAddrToSockaddr, if_neg (Nat.not_lt.mpr room), torAddrFromSockaddr, family,
    Option.some_bind, littleEndian_family fits, if_true, addrRead, portRead, Option.map_some',
    address, bigEndian_port]

private theorem torAddrFromSockaddr_inet6 (fits : F.inet6 < 65536) (y : In6Addr) (port : UInt16)
    {len : Nat} (room : sockaddrIn6Len ≤ len) :
    torAddrFromSockaddr F (torAddrToSockaddr F (.inet6 y) port len).2 =
      some (0, .inet6 y, some port) := by
  obtain ⟨family, portRead, -⟩ := readBytes_fields (X := List.replicate 4 0 ++ y.bytes)
    (Z := List.replicate (len - 24) 0) (length_hostBytes 2 F.inet6) (length_netBytes 2 port.toNat)
  have address := readIn6Addr_fields (show (hostBytes 2 F.inet6 ++ netBytes 2 port.toNat ++
    List.replicate 4 0).length = 8 by simp) y (List.replicate (len - 24) 0)
  have notInet : F.inet6 ≠ F.inet := F.pairwise_ne.2.2.2.1.symm
  simp only [List.append_assoc] at family portRead address
  simp only [torAddrToSockaddr, if_neg (Nat.not_lt.mpr room), torAddrFromSockaddr,
    List.append_assoc, family, Option.some_bind, littleEndian_family fits, if_neg notInet,
    if_true, address, portRead, Option.map_some', bigEndian_port]

/-- `tor_addr_to_sockaddr` writes within the `len` bytes it is given. -/
@[simp] theorem length_torAddrToSockaddr (a : TorAddr) (port : UInt16) (len : Nat) :
    (torAddrToSockaddr F a port len).2.length = len := by
  unfold torAddrToSockaddr
  split <;> (try split) <;>
    simp only [List.length_append, length_hostBytes, length_netBytes, List.length_replicate,
      In6Addr.length_eq, sockaddrInLen, sockaddrIn6Len] at * <;> omega

/-- A `sockaddr` written for an IP address: the family and the port, then the address. -/
theorem torAddrToSockaddr_eq {a : TorAddr} {size : Nat} (sized : sockaddrLen a = some size)
    (port : UInt16) {len : Nat} (room : size ≤ len) :
    ∃ X Z, torAddrToSockaddr F a port len =
      (size, hostBytes 2 (torAddrFamily F a) ++ netBytes 2 port.toNat ++ X ++ Z) := by
  cases a with
  | inet x =>
    cases sized
    exact ⟨_, _, by rw [torAddrToSockaddr, if_neg (Nat.not_lt.mpr room)]; rfl⟩
  | inet6 y =>
    cases sized
    exact ⟨_, _, by rw [torAddrToSockaddr, if_neg (Nat.not_lt.mpr room), List.append_assoc _ _ y.bytes]; rfl⟩
  | unspec | unix _ => cases sized

/-- `tor_sockaddr_to_str` of a `sockaddr` of another family than `AF_UNIX` and `AF_UNSPEC` that
reads back as an address and a port. -/
theorem torSockaddrToStr_of_read {sa family : List UInt8} {a : TorAddr} {port : UInt16}
    (familyRead : readBytes sa 0 2 = some family) (notUnix : littleEndian family ≠ F.unix)
    (notUnspec : littleEndian family ≠ F.unspec)
    (read : torAddrFromSockaddr F sa = some (0, a, some port)) :
    torSockaddrToStr F I sa =
      (torAddrToStr I a true).map fun address => address ++ ':' :: decimalChars port.toNat := by
  simp only [torSockaddrToStr, familyRead, Option.some_bind, if_neg notUnix, if_neg notUnspec,
    read, lt_irrefl, if_false, Option.getD_some]

end Families

/-- Every IP address and port goes through a buffer of at least its `sockaddr`'s size unchanged:
`tor_addr_to_sockaddr` returns that size and `tor_addr_from_sockaddr` reads the address and the
port back, and `tor_sockaddr_to_str` prints them as `fmt_addrport` does. -/
theorem torAddrToSockaddr_roundTrip (inetFits : F.inet < 65536) (inet6Fits : F.inet6 < 65536)
    {a : TorAddr} {size : Nat} (sized : sockaddrLen a = some size) (port : UInt16) {len : Nat}
    (room : size ≤ len) :
    (torAddrToSockaddr F a port len).1 = size ∧ (torAddrToSockaddr F a port len).2.length = len ∧
      torAddrFromSockaddr F (torAddrToSockaddr F a port len).2 = some (0, a, some port) ∧
      torSockaddrToStr F I (torAddrToSockaddr F a port len).2 = some (fmtAddrport I a port.toNat) := by
  obtain ⟨unspecInet, unspecInet6, -, -, inetUnix, inet6Unix⟩ := F.pairwise_ne
  have read : torAddrFromSockaddr F (torAddrToSockaddr F a port len).2 = some (0, a, some port) := by
    cases a with
    | inet x => cases sized; exact torAddrFromSockaddr_inet inetFits x port room
    | inet6 y => cases sized; exact torAddrFromSockaddr_inet6 inet6Fits y port room
    | unspec | unix _ => cases sized
  obtain ⟨X, Z, written⟩ := torAddrToSockaddr_eq (F := F) sized port room
  obtain ⟨familyRead, -, -⟩ := readBytes_fields (X := X) (Z := Z)
    (length_hostBytes 2 (torAddrFamily F a)) (length_netBytes 2 port.toNat)
  have printed : ∃ address, torAddrToStr I a true = some address := by
    cases a <;> first | exact ⟨_, rfl⟩ | cases sized
  obtain ⟨address, printed⟩ := printed
  have fits : torAddrFamily F a < 65536 ∧ torAddrFamily F a ≠ F.unix ∧ torAddrFamily F a ≠ F.unspec := by
    cases a <;> first | exact ⟨‹_›, ‹_›, Ne.symm ‹_›⟩ | cases sized
  rw [written] at read ⊢
  rw [← littleEndian_family fits.1] at fits
  refine ⟨rfl, by rw [← written, length_torAddrToSockaddr], read, ?_⟩
  · rw [torSockaddrToStr_of_read I familyRead fits.2.1 fits.2.2 read, printed, fmtAddrport,
      fmtAddrImpl, printed]
    rfl

/-- `127.0.0.1:9050` through a `sockaddr_in` of its own size. -/
theorem torAddrToSockaddr_roundTrip_loopback :
    linuxAddrFamilies.inet < 65536 ∧ linuxAddrFamilies.inet6 < 65536 ∧
      sockaddrLen (.inet 0x7f000001) = some 16 ∧ 16 ≤ 16 ∧
      (torAddrToSockaddr linuxAddrFamilies (.inet 0x7f000001) 9050 16).1 = 16 ∧
      (torAddrToSockaddr linuxAddrFamilies (.inet 0x7f000001) 9050 16).2.length = 16 ∧
      torAddrFromSockaddr linuxAddrFamilies
          (torAddrToSockaddr linuxAddrFamilies (.inet 0x7f000001) 9050 16).2 =
        some (0, .inet 0x7f000001, some 9050) ∧
      torSockaddrToStr linuxAddrFamilies loopbackInetLib
          (torAddrToSockaddr linuxAddrFamilies (.inet 0x7f000001) 9050 16).2 =
        some (fmtAddrport loopbackInetLib (.inet 0x7f000001) (9050 : UInt16).toNat) :=
  ⟨by decide, by decide, rfl, le_refl 16, torAddrToSockaddr_roundTrip linuxAddrFamilies
    loopbackInetLib (by decide) (by decide)
    (show sockaddrLen (.inet 0x7f000001) = some 16 from rfl) 9050 (le_refl 16)⟩

end Nuon.Net
