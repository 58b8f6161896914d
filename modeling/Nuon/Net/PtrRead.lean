import Nuon.Net.PtrName

/-!
# Reverse-lookup names: the bytes the `.ip6.arpa` branch reads

The loop of the `.ip6.arpa` branch of `tor_addr_parse_PTR_name` advances `cp` through the name
four bytes a round, sixteen rounds, with no look at the string's length, and `strcasecmp` then
compares what follows with `"ip6.arpa"`. Here the name is memory: the characters of a C string
`s`, its NUL at offset `strlen(s)`, then anything (`cStringMemory`). The loop reads the bytes in
order, so it is enough to know how far it gets.

The comment in the loop argues that no name ending in `.ip6.arpa` lets it run past the NUL: the
dots it checks sit at odd offsets, and the suffix puts a byte that is not a dot at an odd offset no
later than the NUL (the NUL itself for an odd length, the `p` of `ip6` for an even one,
`frameshiftOffset`). So every byte the branch reads lies in `s[0..strlen(s)]`
(`ip6ArpaBranch_reads_within`). The same argument shows that the list model of
`Nuon.Net.PtrName`, which fails where fewer than four characters remain, gives the branch's
answers (`ip6ArpaBranch_eq_torAddrParsePTRName`).
-/

namespace Nuon.Net

/-- Memory holding the C string `s`: its characters, the NUL at `strlen(s)`, then whatever
follows. -/
def cStringMemory (s : List Char) (beyond : Nat → Char) (offset : Nat) : Char :=
  if inside : offset < s.length then s[offset]
  else if offset = s.length then '\x00' else beyond (offset - s.length - 1)

/-- How the loop of the `.ip6.arpa` branch ends, with `cp` just past the last byte it read:
after its sixteen rounds, at a dot check (`*cp++ != '.'`), or at the hex check of a round. -/
inductive NybbleLoopEnd where
  | completed (in6 : In6Addr) (cp : Nat)
  | notDot (cp : Nat)
  | notHex (cp : Nat)

/-- The offset just past the last byte the loop read. -/
def NybbleLoopEnd.cp : NybbleLoopEnd → Nat
  | .completed _ cp => cp
  | .notDot cp => cp
  | .notHex cp => cp

/-- The address and the rest of the name, when the loop completes. -/
def NybbleLoopEnd.completedAt : NybbleLoopEnd → Option (In6Addr × Nat)
  | .completed in6 cp => some (in6, cp)
  | _ => none

/-- The loop from round `i` with `n` rounds left and `cp` at offset `cp`, reading as the code does:
a nybble, a dot it checks, a nybble, a dot it checks, and only then the two nybbles. -/
def ptrNybbleLoopAt (mem : Nat → Char) (i : Nat) : Nat → In6Addr → Nat → NybbleLoopEnd
  | 0, in6, cp => .completed in6 cp
  | n + 1, in6, cp =>
    let n0 := hexDecodeDigit (mem cp)
    if mem (cp + 1) ≠ '.' then .notDot (cp + 2)
    else
      let n1 := hexDecodeDigit (mem (cp + 2))
      if mem (cp + 3) ≠ '.' then .notDot (cp + 4)
      else if n0 < 0 ∨ n1 < 0 then .notHex (cp + 4)
      else
        ptrNybbleLoopAt mem (i + 1) n
          (in6.set (15 - i) (UInt8.ofNat (n0.toNat ||| n1.toNat <<< 4))) (cp + 4)

/-- Modelled from the spec: `strcasecmp(cp, t)` on memory: compare up to ASCII case from offset
`cp`, stopping at the first difference or at the NUL of both. Returns `0` for equal strings and the
offset just past the last byte read. -/
def strcasecmpAt (mem : Nat → Char) : Nat → List Char → Int × Nat
  | cp, [] => (if mem cp = '\x00' then 0 else 1, cp + 1)
  | cp, c :: t =>
    if (mem cp).toLower ≠ c.toLower then (1, cp + 1)
    else if c = '\x00' then (0, cp + 1)
    else strcasecmpAt mem (cp + 1) t

/-- The `.ip6.arpa` branch: what it returns, what it stores in `*result`, and the offset past the
last byte of the name it read. -/
structure Ip6ArpaOutcome where
  result : Int
  address : Option TorAddr
  readEnd : Nat

variable (F : AddrFamilies)

/-- The `.ip6.arpa` branch of `tor_addr_parse_PTR_name` on the name in memory. -/
def ip6ArpaBranch (family : Nat) (mem : Nat → Char) : Ip6ArpaOutcome :=
  if family = F.inet then ⟨-1, none, 0⟩
  else
    match ptrNybbleLoopAt mem 0 16 ⟨List.replicate 16 0, rfl⟩ 0 with
    | .completed in6 cp =>
      let compared := strcasecmpAt mem cp "ip6.arpa".toList
      if compared.1 ≠ 0 then ⟨-1, none, compared.2⟩ else ⟨1, some (.inet6 in6), compared.2⟩
    | .notDot cp => ⟨-1, none, cp⟩
    | .notHex cp => ⟨-1, none, cp⟩

/-! ## The memory of a C string -/

section Memory

variable {s : List Char} {beyond : Nat → Char}

private theorem cStringMemory_lt {offset : Nat} (inside : offset < s.length) :
    cStringMemory s beyond offset = s[offset] :=
  dif_pos inside

@[simp] private theorem cStringMemory_length : cStringMemory s beyond s.length = '\x00' := by
  simp [cStringMemory]

/-- The byte at an offset up to the NUL is a NUL exactly at `strlen(s)`. -/
theorem cStringMemory_eq_nul {offset : Nat} (nulFree : '\x00' ∉ s) (upTo : offset ≤ s.length) :
    cStringMemory s beyond offset = '\x00' ↔ offset = s.length := by
  rcases Nat.lt_or_eq_of_le upTo with inside | rfl
  · rw [cStringMemory_lt inside]
    exact ⟨fun nul => absurd (nul ▸ List.getElem_mem inside) nulFree, fun same => by omega⟩
  · simp

/-- A name ending in `.ip6.arpa` has a byte other than a dot at an odd offset no later than its
NUL. -/
def frameshiftOffset (s : List Char) : Nat :=
  if s.length % 2 = 1 then s.length else s.length - 7

private theorem frameshiftOffset_spec (nulFree : '\x00' ∉ s) (suffix : strcasecmpend s ".ip6.arpa".toList = 0) :
    frameshiftOffset s % 2 = 1 ∧ frameshiftOffset s ≤ s.length ∧
      cStringMemory s beyond (frameshiftOffset s) ≠ '.' := by
  have ends : ".ip6.arpa".toList <:+ lowerAscii s := by
    unfold strcasecmpend at suffix
    rw [cstr_of_nulFree nulFree] at suffix
    split at suffix
    · assumption
    · cases suffix
  obtain ⟨front, lowered⟩ := ends
  have length : s.length = front.length + 9 := by
    have := congrArg List.length lowered
    simp only [List.length_append, lowerAscii, List.length_map] at this
    exact this.symm
  unfold frameshiftOffset
  split_ifs with odd
  · exact ⟨odd, le_refl _, by simp⟩
  · refine ⟨by omega, by omega, fun dot => ?_⟩
    have inside : s.length - 7 < s.length := by omega
    have atP : (lowerAscii s)[s.length - 7]? = some 'p' := by
      rw [← lowered, List.getElem?_append_right (by omega), show s.length - 7 - front.length = 2 by omega]
      rfl
    rw [lowerAscii, List.getElem?_map, List.getElem?_eq_getElem inside, ← cStringMemory_lt inside,
      dot] at atP
    exact absurd (Option.some.inj atP) (by decide)

end Memory

/-! ## The loop stops at the frameshift -/

/-- Where the loop may stop, on memory whose bytes at odd offsets up to `bound` are checked: it
completes or fails its hex check having read only bytes before `bound`, or fails a dot check at
an odd offset up to `bound` that holds no dot. -/
def NybbleLoopEnd.Within (mem : Nat → Char) (bound : Nat) : NybbleLoopEnd → Prop
  | .completed _ cp => cp ≤ bound
  | .notDot cp => (cp - 1) % 2 = 1 ∧ cp - 1 ≤ bound ∧ mem (cp - 1) ≠ '.'
  | .notHex cp => cp ≤ bound

/-- A read within a bound is within every larger one. -/
theorem NybbleLoopEnd.Within.mono {mem : Nat → Char} {bound bound' : Nat} {e : NybbleLoopEnd}
    (within : e.Within mem bound) (le : bound ≤ bound') : e.Within mem bound' := by
  cases e with
  | completed _ cp => exact Nat.le_trans within le
  | notDot cp => exact ⟨within.1, Nat.le_trans within.2.1 le, within.2.2⟩
  | notHex cp => exact Nat.le_trans within le

/-- A loop that stops within `bound` has read no byte past `bound`. -/
theorem NybbleLoopEnd.Within.cp_le {mem : Nat → Char} {bound : Nat} {e : NybbleLoopEnd}
    (within : e.Within mem bound) : e.cp ≤ bound + 1 := by
  cases e with
  | completed _ cp => exact Nat.le_succ_of_le within
  | notDot cp => have := within.1; have := within.2.1; show cp ≤ bound + 1; omega
  | notHex cp => exact Nat.le_succ_of_le within

/-- The frameshift argument of the comment in the loop: the dots the loop checks are at odd
offsets, so from an even offset before an odd offset `d` that holds no dot, the loop stops at
`d` at the latest. -/
theorem ptrNybbleLoopAt_within {mem : Nat → Char} {d : Nat} (odd : d % 2 = 1)
    (stop : mem d ≠ '.') : ∀ (n i : Nat) (in6 : In6Addr) (cp : Nat), cp % 2 = 0 → cp < d →
      (ptrNybbleLoopAt mem i n in6 cp).Within mem d
  | 0, _, _, _, _, before => Nat.le_of_lt before
  | n + 1, i, in6, cp, even, before => by
    unfold ptrNybbleLoopAt
    dsimp only
    by_cases dot : mem (cp + 1) = '.'
    · have past : cp + 1 ≠ d := fun same => stop (same ▸ dot)
      rw [if_neg (not_not.mpr dot)]
      by_cases dot' : mem (cp + 3) = '.'
      · have past' : cp + 3 ≠ d := fun same => stop (same ▸ dot')
        rw [if_neg (not_not.mpr dot')]
        split_ifs
        · show cp + 4 ≤ d
          omega
        · exact ptrNybbleLoopAt_within odd stop n _ _ (cp + 4) (by omega) (by omega)
      · rw [if_pos dot']
        exact ⟨by omega, by omega, by rwa [show cp + 4 - 1 = cp + 3 by omega]⟩
    · rw [if_pos dot]
      exact ⟨by omega, by omega, by rwa [show cp + 2 - 1 = cp + 1 by omega]⟩

/-- `strcasecmp` against a literal stops at the NUL of the memory at the latest. -/
theorem strcasecmpAt_readEnd_le {mem : Nat → Char} {len : Nat} (nul : mem len = '\x00') :
    ∀ (t : List Char) (cp : Nat), (∀ c ∈ t, c.toLower ≠ '\x00') → cp ≤ len →
      (strcasecmpAt mem cp t).2 ≤ len + 1
  | [], cp, _, upTo => Nat.succ_le_succ upTo
  | c :: t, cp, literal, upTo => by
    unfold strcasecmpAt
    split_ifs with differ
    · exact Nat.succ_le_succ upTo
    · exact Nat.succ_le_succ upTo
    · have notNul : cp ≠ len := fun same =>
        literal c (List.mem_cons_self c t) (by rw [← not_not.mp differ, same, nul]; rfl)
      exact strcasecmpAt_readEnd_le nul t (cp + 1)
        (fun c' member => literal c' (List.mem_cons_of_mem c member)) (by omega)

/-- On a NUL-terminated name ending in `.ip6.arpa`, the branch reads only `s[0..strlen(s)]`: the
loop completes or fails its hex check inside the string, or fails a dot check at an odd offset up
to the NUL that holds no dot, and the final `strcasecmp` stops at the NUL. -/
theorem ip6ArpaBranch_reads_within {s : List Char} (nulFree : '\x00' ∉ s)
    (suffix : strcasecmpend s ".ip6.arpa".toList = 0) (beyond : Nat → Char) (family : Nat) :
    (ip6ArpaBranch F family (cStringMemory s beyond)).readEnd ≤ s.length + 1 ∧
      (ptrNybbleLoopAt (cStringMemory s beyond) 0 16 ⟨List.replicate 16 0, rfl⟩ 0).Within
        (cStringMemory s beyond) s.length := by
  obtain ⟨odd, le, stop⟩ : _ ∧ _ ∧ cStringMemory s beyond (frameshiftOffset s) ≠ '.' :=
    frameshiftOffset_spec nulFree suffix
  have loop := ptrNybbleLoopAt_within odd stop 16 0 ⟨List.replicate 16 0, rfl⟩ 0 rfl (by omega)
  refine ⟨?_, loop.mono le⟩
  unfold ip6ArpaBranch
  split_ifs
  · exact Nat.zero_le _
  revert loop
  cases ptrNybbleLoopAt (cStringMemory s beyond) 0 16 ⟨List.replicate 16 0, rfl⟩ 0 with
  | completed in6 cp =>
    intro completed
    have compared := strcasecmpAt_readEnd_le
      (show cStringMemory s beyond s.length = '\x00' from cStringMemory_length)
      "ip6.arpa".toList cp (by decide) (Nat.le_trans completed le)
    dsimp only
    split_ifs <;> exact compared
  | notDot cp => intro failed; have := failed.cp_le; show cp ≤ s.length + 1; dsimp only [NybbleLoopEnd.cp] at this; omega
  | notHex cp => intro failed; have := failed.cp_le; show cp ≤ s.length + 1; dsimp only [NybbleLoopEnd.cp] at this; omega

/-- The short name `1.ip6.arpa` is read no further than its terminating NUL. -/
theorem ip6ArpaBranch_reads_within_short :
    '\x00' ∉ "1.ip6.arpa".toList ∧ strcasecmpend "1.ip6.arpa".toList ".ip6.arpa".toList = 0 ∧
      (ip6ArpaBranch linuxAddrFamilies 0 (cStringMemory "1.ip6.arpa".toList fun _ => '.')).readEnd ≤
        "1.ip6.arpa".toList.length + 1 ∧
      (ptrNybbleLoopAt (cStringMemory "1.ip6.arpa".toList fun _ => '.') 0 16
        ⟨List.replicate 16 0, rfl⟩ 0).Within (cStringMemory "1.ip6.arpa".toList fun _ => '.')
          "1.ip6.arpa".toList.length :=
  have nulFree : '\x00' ∉ "1.ip6.arpa".toList := by decide
  have suffix : strcasecmpend "1.ip6.arpa".toList ".ip6.arpa".toList = 0 := by decide
  ⟨nulFree, suffix, ip6ArpaBranch_reads_within linuxAddrFamilies nulFree suffix _ 0⟩

/-! ## The list model gives the branch's answers -/

/-- The list model stops where fewer than four characters remain. -/
theorem ptrNybbleLoop_short {l : List Char} (short : l.length < 4) (i n : Nat) (in6 : In6Addr) :
    ptrNybbleLoop i (n + 1) in6 l = none := by
  match l, short with
  | [], _ => rfl
  | [_], _ => rfl
  | [_, _], _ => rfl
  | [_, _, _], _ => rfl
  | _ :: _ :: _ :: _ :: _, short =>
    simp only [List.length_cons] at short
    omega

/-- Before the frameshift offset, the list model on the rest of the name decides as the loop on
memory: where four characters remain they are the bytes the loop reads, and where fewer remain
the loop fails a dot check at the frameshift offset, or before. -/
theorem ptrNybbleLoop_drop {s : List Char} {beyond : Nat → Char} {d : Nat} (odd : d % 2 = 1)
    (upTo : d ≤ s.length) (stop : cStringMemory s beyond d ≠ '.') :
    ∀ (n i : Nat) (in6 : In6Addr) (cp : Nat), cp % 2 = 0 → cp < d →
      ptrNybbleLoop i n in6 (s.drop cp) =
        (ptrNybbleLoopAt (cStringMemory s beyond) i n in6 cp).completedAt.map
          fun r => (r.1, s.drop r.2)
  | 0, _, _, _, _, _ => rfl
  | n + 1, i, in6, cp, even, before => by
    by_cases room : cp + 3 < s.length
    · have shape : s.drop cp = s[cp] :: s[cp + 1] :: s[cp + 2] :: s[cp + 3] :: s.drop (cp + 4) := by
        rw [List.drop_eq_getElem_cons (by omega), List.drop_eq_getElem_cons (by omega),
          List.drop_eq_getElem_cons (by omega), List.drop_eq_getElem_cons room]
      have dotAt : ∀ k (inside : k < s.length), s[k] = '.' → k ≠ d := fun k inside dot same =>
        stop (by rw [← same, cStringMemory_lt inside, dot])
      unfold ptrNybbleLoopAt
      rw [shape, cStringMemory_lt (show cp < s.length by omega),
        cStringMemory_lt (show cp + 1 < s.length by omega),
        cStringMemory_lt (show cp + 2 < s.length by omega), cStringMemory_lt room]
      simp only [ptrNybbleLoop]
      dsimp only
      by_cases dot : s[cp + 1] = '.'
      · by_cases dot' : s[cp + 3] = '.'
        · have past := dotAt (cp + 1) (by omega) dot
          have past' := dotAt (cp + 3) room dot'
          simp only [dot, dot', ne_eq, not_true_eq_false, false_or, if_false]
          by_cases bad : hexDecodeDigit s[cp] < 0 ∨ hexDecodeDigit s[cp + 2] < 0
          · rw [if_pos bad, if_pos bad]
            rfl
          · rw [if_neg bad, if_neg bad]
            exact ptrNybbleLoop_drop odd upTo stop n _ _ (cp + 4) (by omega) (by omega)
        · rw [if_neg (not_not.mpr dot), if_pos dot', if_pos (Or.inr (Or.inl dot'))]
          rfl
      · rw [if_pos dot, if_pos (Or.inl dot)]
        rfl
    · rw [ptrNybbleLoop_short (by rw [List.length_drop]; omega)]
      unfold ptrNybbleLoopAt
      dsimp only
      by_cases dot : cStringMemory s beyond (cp + 1) = '.'
      · have atD : d = cp + 3 := by
          have : cp + 1 ≠ d := fun same => stop (same ▸ dot)
          omega
        rw [if_neg (not_not.mpr dot), if_pos (atD ▸ stop)]
        rfl
      · rw [if_pos dot]
        rfl

/-- `strcasecmp` against a literal on memory compares the rest of the name. -/
theorem strcasecmpAt_eq {s : List Char} {beyond : Nat → Char} (nulFree : '\x00' ∉ s) :
    ∀ (t : List Char) (cp : Nat), (∀ c ∈ t, c.toLower ≠ '\x00') → cp ≤ s.length →
      (strcasecmpAt (cStringMemory s beyond) cp t).1 =
        if lowerAscii (s.drop cp) = lowerAscii t then 0 else 1
  | [], cp, _, upTo => by
    simp only [strcasecmpAt, cStringMemory_eq_nul nulFree upTo, lowerAscii, List.map_nil,
      List.map_eq_nil_iff, List.drop_eq_nil_iff]
    split_ifs <;> omega
  | c :: t, cp, literal, upTo => by
    have lowered := literal c (List.mem_cons_self c t)
    have notNul : c ≠ '\x00' := fun nul => lowered (by rw [nul]; rfl)
    unfold strcasecmpAt
    rcases Nat.lt_or_eq_of_le upTo with inside | atNul
    · rw [List.drop_eq_getElem_cons inside, cStringMemory_lt inside]
      by_cases same : s[cp].toLower = c.toLower
      · rw [if_neg (not_not.mpr same), if_neg notNul,
          strcasecmpAt_eq nulFree t (cp + 1) (fun c' member => literal c' (List.mem_cons_of_mem c member))
            inside]
        simp only [lowerAscii, List.map_cons, List.cons.injEq, same, true_and]
      · rw [if_pos same]
        simp only [lowerAscii, List.map_cons, List.cons.injEq, same, false_and, if_false]
    · subst atNul
      rw [cStringMemory_length, if_pos (fun same => lowered (same.symm.trans rfl)), List.drop_length]
      simp [lowerAscii]

variable (N : NameBufLens) (I : InetLib) (inetAton : List Char → Option UInt32)

/-- On a NUL-terminated name ending in `.ip6.arpa`, `tor_addr_parse_PTR_name` as the list model
computes it returns and stores what the branch does on the name in memory. -/
theorem ip6ArpaBranch_eq_torAddrParsePTRName {s : List Char} (nulFree : '\x00' ∉ s)
    (suffix : strcasecmpend s ".ip6.arpa".toList = 0) (beyond : Nat → Char) (family : Nat)
    (acceptRegular : Bool) :
    torAddrParsePTRName N F I inetAton family acceptRegular s =
      ((ip6ArpaBranch F family (cStringMemory s beyond)).result,
        (ip6ArpaBranch F family (cStringMemory s beyond)).address) := by
  obtain ⟨odd, le, stop⟩ : _ ∧ _ ∧ cStringMemory s beyond (frameshiftOffset s) ≠ '.' :=
    frameshiftOffset_spec nulFree suffix
  have loop := ptrNybbleLoop_drop odd le stop 16 0 ⟨List.replicate 16 0, rfl⟩ 0 rfl (by omega)
  have within := ptrNybbleLoopAt_within odd stop 16 0 ⟨List.replicate 16 0, rfl⟩ 0 rfl (by omega)
  rw [List.drop_zero] at loop
  unfold torAddrParsePTRName ip6ArpaBranch
  rw [if_neg (strcasecmpend_inAddr_of_ip6 suffix), if_pos suffix, loop]
  split_ifs
  · rfl
  revert within
  cases ptrNybbleLoopAt (cStringMemory s beyond) 0 16 ⟨List.replicate 16 0, rfl⟩ 0 with
  | completed in6 cp =>
    intro completed
    have rest : cstr (s.drop cp) = s.drop cp :=
      cstr_of_nulFree fun member => nulFree (List.mem_of_mem_drop member)
    dsimp only [NybbleLoopEnd.completedAt, Option.map_some']
    rw [strcasecmpAt_eq nulFree _ cp (by decide) (Nat.le_trans completed le), strcasecmp, rest,
      cstr_of_nulFree (s := "ip6.arpa".toList) (by decide)]
    split_ifs <;> rfl
  | notDot cp => intro _; rfl
  | notHex cp => intro _; rfl

end Nuon.Net
