import Nuon.Text.CString

/-!
# Memory areas

`memarea.c` (built with `USE_SENTINELS`) hands out small blocks from a stack of chunks that are
all freed at once. Each chunk is a `tor_malloc`ed block: a header, `mem_size` bytes of memory
starting at `U_MEM`, and a four-byte sentinel. Blocks are carved from the first chunk at
`next_mem`, which is then realigned; a request that does not fit gets a fresh first chunk, or,
when it is large, a chunk of its own placed second.

Addresses are natural numbers: chunks lie well below the top of the address space, so the
`uintptr_t` arithmetic of `realign_pointer` does not wrap. The sentinel bytes are not modelled;
`CHECK_SENTINEL` holds as long as callers write inside their blocks, which lie inside
`[U_MEM, U_MEM + mem_size)` (`BlocksOk`).

Every run from `memarea_new` keeps the chunk invariants that `memarea_alloc` and
`memarea_assert_ok` assert, and the blocks handed out since the last `memarea_clear` are aligned,
inside their chunks and pairwise disjoint (`memarea_reachable_ok`). A call never fails an
assertion unless its size is within `CHUNK_HEADER_SIZE` of `SIZE_T_CEILING`, where `alloc_chunk`
rejects the chunk it is asked for (`memareaAlloc_near_ceiling_fails`).
-/

namespace Nuon.Container

/-- `CHUNK_SIZE`: the smallest chunk allocated. -/
def chunkSize : Nat := 4096

/-- `SENTINEL_LEN`, `sizeof(uint32_t)`. -/
def sentinelLen : Nat := 4

/-- The platform constants `memarea.c` uses. `MEMAREA_ALIGN` is `SIZEOF_VOID_P`, which the file
requires to be 4 or 8. `CHUNK_HEADER_SIZE` is the offset of the aligned `mem` member after three
fields, so it is a positive multiple of the alignment, below `CHUNK_SIZE`. `SIZE_T_CEILING`
(`torint.h`, not among the sources) is far above `CHUNK_SIZE`. -/
structure MemareaConsts where
  memareaAlign : Nat
  chunkHeaderSize : Nat
  sizeTCeiling : Nat
  align_cases : memareaAlign = 4 ∨ memareaAlign = 8
  header_aligned : memareaAlign ∣ chunkHeaderSize
  header_pos : 0 < chunkHeaderSize
  header_small : chunkHeaderSize < chunkSize
  ceiling_large : chunkSize < sizeTCeiling

/-- `memarea_chunk_t`: where `tor_malloc` put it, `mem_size` and `next_mem`. The `next_chunk`
links are the order of `Memarea`'s list. -/
structure MemareaChunk where
  base : Nat
  memSize : Nat
  nextMem : Nat
  deriving DecidableEq, Repr

/-- `memarea_t`: the first chunk, never `NULL`, and the chunks linked after it. -/
structure Memarea where
  first : MemareaChunk
  rest : List MemareaChunk
  deriving DecidableEq, Repr

/-- All chunks, first to last. -/
def Memarea.chunks (area : Memarea) : List MemareaChunk :=
  area.first :: area.rest

variable (C : MemareaConsts)

/-- `realign_pointer(x)`: `(x + MEMAREA_ALIGN_MASK) & ~MEMAREA_ALIGN_MASK`, which, the alignment
being a power of two, rounds up to a multiple of it. -/
def realignPointer (x : Nat) : Nat :=
  (x + (C.memareaAlign - 1)) / C.memareaAlign * C.memareaAlign

/-- `chunk->U_MEM`. -/
def MemareaChunk.uMem (c : MemareaChunk) : Nat :=
  c.base + C.chunkHeaderSize

/-- The end of the block `tor_malloc` gave the chunk: its memory and the sentinel. -/
def MemareaChunk.regionEnd (c : MemareaChunk) : Nat :=
  c.uMem C + c.memSize + sentinelLen

/-- `result = chunk->next_mem; chunk->next_mem = realign_pointer(chunk->next_mem + sz)`. -/
def MemareaChunk.carve (c : MemareaChunk) (sz : Nat) : MemareaChunk :=
  { c with nextMem := realignPointer C (c.nextMem + sz) }

/-- `alloc_chunk(sz)` when `tor_malloc` returns `addr`; `none` when an assertion fails. -/
def allocChunk (sz addr : Nat) : Option MemareaChunk :=
  if C.sizeTCeiling ≤ sz then none
  else
    let size := (if sz < chunkSize then chunkSize else sz) + sentinelLen
    let res : MemareaChunk := ⟨addr, size - C.chunkHeaderSize - sentinelLen, addr + C.chunkHeaderSize⟩
    if res.nextMem + res.memSize + sentinelLen ≠ addr + size then none
    else if realignPointer C res.nextMem ≠ res.nextMem then none
    else some res

/-- `memarea_new()` when `tor_malloc` returns `addr` for the first chunk. -/
def memareaNew (addr : Nat) : Option Memarea :=
  (allocChunk C chunkSize addr).map fun first => ⟨first, []⟩

/-- `memarea_alloc(area, sz)`, `fresh` being where `tor_malloc` puts a chunk if one is needed:
the area after the call and the pointer returned; `none` when an assertion fails. -/
def memareaAlloc (area : Memarea) (sz fresh : Nat) : Option (Memarea × Nat) :=
  let chunk := area.first
  if C.sizeTCeiling ≤ sz then none
  else
    let sz := if sz = 0 then 1 else sz
    if chunk.uMem C + chunk.memSize < chunk.nextMem then none
    else if chunk.uMem C + chunk.memSize - chunk.nextMem < sz then
      if chunkSize ≤ sz + C.chunkHeaderSize then
        (allocChunk C (sz + C.chunkHeaderSize) fresh).bind fun newChunk =>
          if newChunk.memSize < sz then none
          else some (⟨chunk, newChunk.carve C sz :: area.rest⟩, newChunk.nextMem)
      else
        (allocChunk C chunkSize fresh).bind fun newChunk =>
          if newChunk.memSize < sz then none
          else some (⟨newChunk.carve C sz, chunk :: area.rest⟩, newChunk.nextMem)
    else some (⟨chunk.carve C sz, area.rest⟩, chunk.nextMem)

/-- `memarea_alloc_zero(area, sz)`; the zeroing is not modelled. -/
def memareaAllocZero (area : Memarea) (sz fresh : Nat) : Option (Memarea × Nat) :=
  memareaAlloc C area sz fresh

/-- `memarea_memdup(area, s, n)`; the copy is not modelled. -/
def memareaMemdup (area : Memarea) (n fresh : Nat) : Option (Memarea × Nat) :=
  memareaAlloc C area n fresh

/-- `memarea_strdup(area, s)`. -/
def memareaStrdup (area : Memarea) (s : List Char) (fresh : Nat) : Option (Memarea × Nat) :=
  memareaMemdup C area (strlen s + 1) fresh

/-- `memarea_strndup(area, s, n)`: the loop stops at `n` characters or at the NUL. -/
def memareaStrndup (area : Memarea) (s : List Char) (n fresh : Nat) : Option (Memarea × Nat) :=
  if C.sizeTCeiling ≤ n then none
  else memareaAlloc C area (min n (strlen s) + 1) fresh

/-- `memarea_clear(area)`: the chunks after the first are freed and the first is emptied. -/
def memareaClear (area : Memarea) : Memarea :=
  ⟨{ area.first with nextMem := area.first.uMem C }, []⟩

/-- `memarea_owns_ptr(area, p)`. -/
def memareaOwnsPtr (area : Memarea) (p : Nat) : Bool :=
  area.chunks.any fun c => c.uMem C ≤ p ∧ p < c.nextMem

/-- Whether the assertions of `memarea_assert_ok(area)` hold. -/
def memareaAssertOk (area : Memarea) : Bool :=
  area.chunks.all fun c => c.uMem C ≤ c.nextMem ∧ c.nextMem ≤ realignPointer C (c.uMem C + c.memSize)

/-- The calls on an area. -/
inductive MemareaOp where
  | alloc (sz : Nat)
  | allocZero (sz : Nat)
  | memdup (n : Nat)
  | strdup (s : List Char)
  | strndup (s : List Char) (n : Nat)
  | clear
  deriving DecidableEq, Repr

/-- The size a call passes to `memarea_alloc`. -/
def MemareaOp.allocSize : MemareaOp → Option Nat
  | .alloc sz => some sz
  | .allocZero sz => some sz
  | .memdup n => some n
  | .strdup s => some (strlen s + 1)
  | .strndup s n => some (min n (strlen s) + 1)
  | .clear => none

/-- One call, `fresh` being where `tor_malloc` puts a chunk if the call needs one: the area after
it and the pointer returned; `none` when an assertion fails. -/
def memareaStep (area : Memarea) (fresh : Nat) : MemareaOp → Option (Memarea × Option Nat)
  | .alloc sz => (memareaAlloc C area sz fresh).map fun r => (r.1, some r.2)
  | .allocZero sz => (memareaAllocZero C area sz fresh).map fun r => (r.1, some r.2)
  | .memdup n => (memareaMemdup C area n fresh).map fun r => (r.1, some r.2)
  | .strdup s => (memareaStrdup C area s fresh).map fun r => (r.1, some r.2)
  | .strndup s n => (memareaStrndup C area s n fresh).map fun r => (r.1, some r.2)
  | .clear => some (memareaClear C area, none)

/-- The size of the block `memarea_alloc` asks `tor_malloc` for when asked for `sz` bytes:
`alloc_chunk(CHUNK_SIZE)` or `alloc_chunk(sz + CHUNK_HEADER_SIZE)`, with the sentinel. -/
def chunkRequest (sz : Nat) : Nat :=
  max (max sz 1 + C.chunkHeaderSize) chunkSize + sentinelLen

/-- What `tor_malloc` promises for that block at `fresh`: it is aligned for any object and
overlaps no live chunk. -/
def MallocReturns (area : Memarea) (sz fresh : Nat) : Prop :=
  C.memareaAlign ∣ fresh ∧ ∀ c ∈ area.chunks, c.regionEnd C ≤ fresh ∨ fresh + chunkRequest C sz ≤ c.base

/-- The areas a run from `memarea_new` reaches, with the blocks `(pointer, length)` handed out
since the last `memarea_clear`. -/
inductive MemareaReachable : Memarea → List (Nat × Nat) → Prop
  | new {fresh : Nat} {area : Memarea} : memareaNew C fresh = some area → MemareaReachable area []
  | alloc {area : Memarea} {blocks : List (Nat × Nat)} {op : MemareaOp} {sz fresh : Nat}
      {area' : Memarea} {p : Nat} : MemareaReachable area blocks → op.allocSize = some sz →
      MallocReturns C area sz fresh → memareaStep C area fresh op = some (area', some p) →
      MemareaReachable area' ((p, max sz 1) :: blocks)
  | clear {area : Memarea} {blocks : List (Nat × Nat)} : MemareaReachable area blocks →
      MemareaReachable (memareaClear C area) []

/-- Two chunks' blocks do not overlap. -/
def ChunksDisjoint (c d : MemareaChunk) : Prop :=
  c.regionEnd C ≤ d.base ∨ d.regionEnd C ≤ c.base

/-- The chunk invariants: what `memarea_alloc` asserts of the first chunk and
`memarea_assert_ok` of every chunk, with the sizes and places that keep them. -/
structure MemareaInv (area : Memarea) : Prop where
  head_size : area.first.memSize = chunkSize - C.chunkHeaderSize
  head_start : area.first.uMem C ≤ area.first.nextMem
  head_end : area.first.nextMem ≤ area.first.uMem C + area.first.memSize
  head_aligned : C.memareaAlign ∣ area.first.nextMem
  chunk_start : ∀ c ∈ area.chunks, c.uMem C ≤ c.nextMem
  chunk_end : ∀ c ∈ area.chunks, c.nextMem ≤ realignPointer C (c.uMem C + c.memSize)
  chunk_aligned : ∀ c ∈ area.chunks, C.memareaAlign ∣ c.base
  disjoint : area.chunks.Pairwise (ChunksDisjoint C)

/-- A block `(p, n)` lies in the memory of chunk `c`, below its `next_mem`. -/
def BlockIn (c : MemareaChunk) (b : Nat × Nat) : Prop :=
  c.uMem C ≤ b.1 ∧ b.1 + b.2 ≤ c.uMem C + c.memSize ∧ b.1 + b.2 ≤ c.nextMem

/-- Two blocks do not overlap. -/
def BlocksDisjoint (b b' : Nat × Nat) : Prop :=
  b.1 + b.2 ≤ b'.1 ∨ b'.1 + b'.2 ≤ b.1

/-- The blocks handed out are aligned, non-empty, each inside one chunk, and pairwise
disjoint. -/
structure BlocksOk (area : Memarea) (blocks : List (Nat × Nat)) : Prop where
  aligned : ∀ b ∈ blocks, C.memareaAlign ∣ b.1
  nonempty : ∀ b ∈ blocks, 0 < b.2
  inside : ∀ b ∈ blocks, ∃ c ∈ area.chunks, BlockIn C c b
  disjoint : blocks.Pairwise BlocksDisjoint

/-! ## Rounding up -/

/-- `realign_pointer` never rounds down. -/
theorem le_realignPointer (x : Nat) : x ≤ realignPointer C x := by
  rcases C.align_cases with align | align <;> simp only [realignPointer, align] <;> omega

private theorem dvd_realignPointer (x : Nat) : C.memareaAlign ∣ realignPointer C x := by
  rcases C.align_cases with align | align <;> simp only [realignPointer, align] <;> omega

private theorem realignPointer_le {x y : Nat} (below : x ≤ y) (aligned : C.memareaAlign ∣ y) :
    realignPointer C x ≤ y := by
  rcases C.align_cases with align | align <;> simp only [realignPointer, align] at aligned ⊢ <;>
    omega

private theorem realignPointer_mono {x y : Nat} (below : x ≤ y) :
    realignPointer C x ≤ realignPointer C y :=
  realignPointer_le C (below.trans (le_realignPointer C y)) (dvd_realignPointer C y)

private theorem realignPointer_eq_self_iff {x : Nat} : realignPointer C x = x ↔ C.memareaAlign ∣ x := by
  rcases C.align_cases with align | align <;> simp only [realignPointer, align] <;> omega

/-! ## One call -/

/-- The chunk `alloc_chunk` builds at `fresh` when `memarea_alloc` needs one for `sz` bytes. -/
def freshChunk (sz fresh : Nat) : MemareaChunk :=
  ⟨fresh, max (sz + C.chunkHeaderSize) chunkSize - C.chunkHeaderSize, fresh + C.chunkHeaderSize⟩

/-- When `alloc_chunk` returns, and the chunk it returns. -/
theorem allocChunk_eq_some {sz addr : Nat} {c : MemareaChunk} :
    allocChunk C sz addr = some c ↔ sz < C.sizeTCeiling ∧ C.memareaAlign ∣ addr ∧
      c = ⟨addr, max sz chunkSize - C.chunkHeaderSize, addr + C.chunkHeaderSize⟩ := by
  have header := C.header_small
  have size : (if sz < chunkSize then chunkSize else sz) = max sz chunkSize := by
    split <;> omega
  have fits : addr + C.chunkHeaderSize +
      (max sz chunkSize + sentinelLen - C.chunkHeaderSize - sentinelLen) + sentinelLen =
      addr + (max sz chunkSize + sentinelLen) := by
    simp only [sentinelLen]
    omega
  have memSize : max sz chunkSize + sentinelLen - C.chunkHeaderSize - sentinelLen =
      max sz chunkSize - C.chunkHeaderSize := by
    simp only [sentinelLen]
    omega
  simp only [allocChunk, size, fits, memSize, ne_eq, not_true_eq_false, if_false,
    realignPointer_eq_self_iff, Nat.dvd_add_left C.header_aligned]
  by_cases tooBig : C.sizeTCeiling ≤ sz
  · simp only [tooBig, if_true, reduceCtorEq, false_iff, not_and]
    omega
  · by_cases aligned : C.memareaAlign ∣ addr
    · simp [tooBig, aligned, eq_comm]
      omega
    · simp [tooBig, aligned]

private theorem allocChunk_bind_eq_some {n s fresh : Nat} {f : MemareaChunk → Memarea}
    {area' : Memarea} {p : Nat}
    (allocated : ((allocChunk C n fresh).bind fun c =>
      if c.memSize < s then none else some (f c, c.nextMem)) = some (area', p)) :
    n < C.sizeTCeiling ∧ C.memareaAlign ∣ fresh ∧
      area' = f ⟨fresh, max n chunkSize - C.chunkHeaderSize, fresh + C.chunkHeaderSize⟩ ∧
      p = fresh + C.chunkHeaderSize := by
  obtain ⟨c, made, carved⟩ := Option.bind_eq_some.mp allocated
  obtain ⟨small, aligned, rfl⟩ := (allocChunk_eq_some C).mp made
  split at carved
  · cases carved
  · simp only [Option.some.injEq, Prod.mk.injEq] at carved
    exact ⟨small, aligned, carved.1.symm, carved.2.symm⟩

/-- Everything a successful `memarea_alloc` can do: carve from the first chunk, or take a fresh
chunk placed second (a large request) or first (a small one) and carve from it. -/
theorem memareaAlloc_eq_some {area : Memarea} {sz fresh : Nat} {area' : Memarea} {p : Nat}
    (allocated : memareaAlloc C area sz fresh = some (area', p)) :
    sz < C.sizeTCeiling ∧ area.first.nextMem ≤ area.first.uMem C + area.first.memSize ∧
      (max sz 1 ≤ area.first.uMem C + area.first.memSize - area.first.nextMem ∧
          area' = ⟨area.first.carve C (max sz 1), area.rest⟩ ∧ p = area.first.nextMem ∨
        area.first.uMem C + area.first.memSize - area.first.nextMem < max sz 1 ∧
          C.memareaAlign ∣ fresh ∧ p = fresh + C.chunkHeaderSize ∧
          (chunkSize ≤ max sz 1 + C.chunkHeaderSize ∧
              area' = ⟨area.first, (freshChunk C (max sz 1) fresh).carve C (max sz 1) :: area.rest⟩ ∨
            max sz 1 + C.chunkHeaderSize < chunkSize ∧
              area' = ⟨(freshChunk C (max sz 1) fresh).carve C (max sz 1), area.first :: area.rest⟩)) := by
  have one : (if sz = 0 then 1 else sz) = max sz 1 := by split <;> omega
  simp only [memareaAlloc, one] at allocated
  have small : ¬C.sizeTCeiling ≤ sz := fun tooBig => by
    rw [if_pos tooBig] at allocated
    cases allocated
  have intact : ¬area.first.uMem C + area.first.memSize < area.first.nextMem := fun broken => by
    rw [if_neg small, if_pos broken] at allocated
    cases allocated
  rw [if_neg small, if_neg intact] at allocated
  by_cases full : area.first.uMem C + area.first.memSize - area.first.nextMem < max sz 1
  · rw [if_pos full] at allocated
    by_cases large : chunkSize ≤ max sz 1 + C.chunkHeaderSize
    · rw [if_pos large] at allocated
      obtain ⟨-, aligned, rfl, rfl⟩ := allocChunk_bind_eq_some C allocated
      exact ⟨by omega, by omega, .inr ⟨full, aligned, rfl, .inl ⟨large, rfl⟩⟩⟩
    · rw [if_neg large] at allocated
      obtain ⟨-, aligned, rfl, rfl⟩ := allocChunk_bind_eq_some C allocated
      have same : max chunkSize chunkSize = max (max sz 1 + C.chunkHeaderSize) chunkSize := by
        omega
      refine ⟨by omega, by omega, .inr ⟨full, aligned, rfl, .inr ⟨by omega, ?_⟩⟩⟩
      simp only [freshChunk, same]
  · rw [if_neg full, Option.some.injEq, Prod.mk.injEq] at allocated
    obtain ⟨rfl, rfl⟩ := allocated
    exact ⟨by omega, by omega, .inl ⟨by omega, rfl, rfl⟩⟩

/-! ## Carving keeps the chunk invariants -/

section Invariants

variable {C}

/-- Carving `sz` bytes from a chunk with room for them keeps its `next_mem` within bounds and
hands out a block inside it. -/
theorem MemareaChunk.carve_spec {c : MemareaChunk} (sz : Nat) (start : c.uMem C ≤ c.nextMem)
    (room : c.nextMem + sz ≤ c.uMem C + c.memSize) :
    (c.carve C sz).uMem C ≤ (c.carve C sz).nextMem ∧
      (c.carve C sz).nextMem ≤ realignPointer C ((c.carve C sz).uMem C + (c.carve C sz).memSize) ∧
      BlockIn C (c.carve C sz) (c.nextMem, sz) := by
  have grown := le_realignPointer C (c.nextMem + sz)
  refine ⟨by simp only [MemareaChunk.carve, MemareaChunk.uMem] at *; omega,
    realignPointer_mono C room, ?_⟩
  exact ⟨start, room, grown⟩

/-- A block stays inside a chunk that is carved further. -/
theorem BlockIn.carve {c : MemareaChunk} {b : Nat × Nat} (inside : BlockIn C c b) (sz : Nat) :
    BlockIn C (c.carve C sz) b :=
  ⟨inside.1, inside.2.1, inside.2.2.trans ((Nat.le_add_right _ _).trans (le_realignPointer C _))⟩

/-- Blocks in two chunks that do not overlap do not overlap. -/
theorem BlockIn.disjoint {c d : MemareaChunk} {b b' : Nat × Nat} (inC : BlockIn C c b)
    (inD : BlockIn C d b') (apart : ChunksDisjoint C c d) : BlocksDisjoint b b' := by
  simp only [BlockIn, BlocksDisjoint, ChunksDisjoint, MemareaChunk.regionEnd, MemareaChunk.uMem] at *
  omega

/-- The memory of the first chunk ends on an aligned address. -/
theorem MemareaInv.head_end_aligned {area : Memarea} (inv : MemareaInv C area) :
    C.memareaAlign ∣ area.first.uMem C + area.first.memSize := by
  have base := inv.chunk_aligned area.first (List.mem_cons_self _ _)
  have header := C.header_aligned
  have small := C.header_small
  rw [inv.head_size, MemareaChunk.uMem]
  rcases C.align_cases with align | align <;> simp only [align, chunkSize] at base header small ⊢ <;>
    omega

/-- The chunk `tor_malloc` returned for a request overlaps no live chunk. -/
theorem MallocReturns.disjoint {area : Memarea} {sz fresh : Nat}
    (malloc : MallocReturns C area sz fresh) (carved : Nat) :
    ∀ d ∈ area.chunks, ChunksDisjoint C ((freshChunk C (max sz 1) fresh).carve C carved) d := by
  intro d member
  have small := C.header_small
  rcases malloc.2 d member with before | after
  · exact .inr before
  · left
    simp only [MemareaChunk.regionEnd, MemareaChunk.carve, MemareaChunk.uMem, freshChunk,
      chunkRequest] at after ⊢
    omega

/-- Carving from a fresh chunk: it has room, and the block starts at its memory. -/
theorem freshChunk_carve_spec (sz fresh : Nat) :
    let c := freshChunk C sz fresh
    (c.carve C sz).uMem C ≤ (c.carve C sz).nextMem ∧
      (c.carve C sz).nextMem ≤ realignPointer C ((c.carve C sz).uMem C + (c.carve C sz).memSize) ∧
      BlockIn C (c.carve C sz) (fresh + C.chunkHeaderSize, sz) := by
  have small := C.header_small
  exact MemareaChunk.carve_spec sz (by simp [freshChunk, MemareaChunk.uMem])
    (by simp only [freshChunk, MemareaChunk.uMem]; omega)

/-- Disjointness of two chunks does not depend on their order. -/
theorem ChunksDisjoint.symm {c d : MemareaChunk} (apart : ChunksDisjoint C c d) :
    ChunksDisjoint C d c :=
  Or.symm apart

/-- `memarea_alloc` keeps the chunk invariants, whichever chunk it carves from. -/
theorem memareaAlloc_keeps_inv {area : Memarea} {sz fresh : Nat} {area' : Memarea} {p : Nat}
    (inv : MemareaInv C area) (malloc : MallocReturns C area sz fresh)
    (allocated : memareaAlloc C area sz fresh = some (area', p)) : MemareaInv C area' := by
  have starts := inv.chunk_start
  have ends := inv.chunk_end
  have aligns := inv.chunk_aligned
  have apart := List.pairwise_cons.mp inv.disjoint
  simp only [Memarea.chunks, List.forall_mem_cons] at starts ends aligns
  obtain ⟨-, -, ⟨room, rfl, -⟩ | ⟨-, aligned, -, ⟨-, rfl⟩ | ⟨small, rfl⟩⟩⟩ :=
    memareaAlloc_eq_some C allocated
  · obtain ⟨start, finish, -⟩ := MemareaChunk.carve_spec (max sz 1) inv.head_start (by omega)
    have headEnd : realignPointer C (area.first.nextMem + max sz 1) ≤
        area.first.uMem C + area.first.memSize :=
      realignPointer_le C (by omega) inv.head_end_aligned
    refine ⟨inv.head_size, start, headEnd, dvd_realignPointer C _, ?_, ?_, ?_,
      List.pairwise_cons.mpr apart⟩ <;> simp only [Memarea.chunks, List.forall_mem_cons]
    · exact ⟨start, starts.2⟩
    · exact ⟨finish, ends.2⟩
    · exact aligns
  · obtain ⟨start, finish, -⟩ := freshChunk_carve_spec (C := C) (max sz 1) fresh
    have fresh := malloc.disjoint (max sz 1)
    refine ⟨inv.head_size, inv.head_start, inv.head_end, inv.head_aligned, ?_, ?_, ?_, ?_⟩ <;>
      simp only [Memarea.chunks, List.forall_mem_cons]
    · exact ⟨starts.1, start, starts.2⟩
    · exact ⟨ends.1, finish, ends.2⟩
    · exact ⟨aligns.1, aligned, aligns.2⟩
    · refine List.pairwise_cons.mpr ⟨?_, List.pairwise_cons.mpr ⟨fun d member => fresh d
        (List.mem_cons_of_mem _ member), apart.2⟩⟩
      simp only [List.forall_mem_cons]
      exact ⟨(fresh area.first (List.mem_cons_self _ _)).symm, apart.1⟩
  · obtain ⟨start, finish, -⟩ := freshChunk_carve_spec (C := C) (max sz 1) fresh
    have header := C.header_aligned
    have headerSmall := C.header_small
    have size : ((freshChunk C (max sz 1) fresh).carve C (max sz 1)).memSize =
        chunkSize - C.chunkHeaderSize := by
      simp only [MemareaChunk.carve, freshChunk]
      omega
    have endAligned : C.memareaAlign ∣ fresh + C.chunkHeaderSize + (chunkSize - C.chunkHeaderSize) := by
      rcases C.align_cases with align | align <;>
        simp only [align, chunkSize] at aligned header headerSmall ⊢ <;> omega
    have headEnd : realignPointer C (fresh + C.chunkHeaderSize + max sz 1) ≤
        fresh + C.chunkHeaderSize + (chunkSize - C.chunkHeaderSize) :=
      realignPointer_le C (by simp only [chunkSize] at small ⊢; omega) endAligned
    refine ⟨size, start, by simpa only [size] using headEnd, dvd_realignPointer C _, ?_, ?_, ?_,
      List.pairwise_cons.mpr ⟨malloc.disjoint (max sz 1), inv.disjoint⟩⟩ <;>
      simp only [Memarea.chunks, List.forall_mem_cons]
    · exact ⟨start, starts⟩
    · exact ⟨finish, ends⟩
    · exact ⟨aligned, aligns⟩

/-- The block `memarea_alloc` hands out is aligned and lies in a chunk of the new area; it
overlaps no block of the old area, and each of those still lies in a chunk. -/
theorem memareaAlloc_block {area : Memarea} {sz fresh : Nat} {area' : Memarea} {p : Nat}
    (inv : MemareaInv C area) (malloc : MallocReturns C area sz fresh)
    (allocated : memareaAlloc C area sz fresh = some (area', p)) :
    C.memareaAlign ∣ p ∧ (∃ c ∈ area'.chunks, BlockIn C c (p, max sz 1)) ∧
      ∀ b, (∃ d ∈ area.chunks, BlockIn C d b) →
        (∃ d ∈ area'.chunks, BlockIn C d b) ∧ BlocksDisjoint (p, max sz 1) b := by
  have apart := List.pairwise_cons.mp inv.disjoint
  obtain ⟨-, -, ⟨room, rfl, rfl⟩ | ⟨-, aligned, rfl, ⟨-, rfl⟩ | ⟨-, rfl⟩⟩⟩ :=
    memareaAlloc_eq_some C allocated
  · obtain ⟨-, -, inside⟩ := MemareaChunk.carve_spec (max sz 1) inv.head_start (by omega)
    refine ⟨inv.head_aligned, ⟨_, List.mem_cons_self _ _, inside⟩, ?_⟩
    rintro b ⟨d, member, inD⟩
    rcases List.mem_cons.mp member with rfl | later
    · exact ⟨⟨_, List.mem_cons_self _ _, inD.carve _⟩, .inr inD.2.2⟩
    · exact ⟨⟨d, List.mem_cons_of_mem _ later, inD⟩, inside.disjoint inD (apart.1 d later)⟩
  · obtain ⟨-, -, inside⟩ := freshChunk_carve_spec (C := C) (max sz 1) fresh
    refine ⟨Nat.dvd_add aligned C.header_aligned,
      ⟨_, List.mem_cons_of_mem _ (List.mem_cons_self _ _), inside⟩, ?_⟩
    rintro b ⟨d, member, inD⟩
    refine ⟨⟨d, ?_, inD⟩, inside.disjoint inD (malloc.disjoint (max sz 1) d member)⟩
    rcases List.mem_cons.mp member with rfl | later
    · exact List.mem_cons_self _ _
    · exact List.mem_cons_of_mem _ (List.mem_cons_of_mem _ later)
  · obtain ⟨-, -, inside⟩ := freshChunk_carve_spec (C := C) (max sz 1) fresh
    refine ⟨Nat.dvd_add aligned C.header_aligned, ⟨_, List.mem_cons_self _ _, inside⟩, ?_⟩
    rintro b ⟨d, member, inD⟩
    exact ⟨⟨d, List.mem_cons_of_mem _ member, inD⟩,
      inside.disjoint inD (malloc.disjoint (max sz 1) d member)⟩

/-- `memarea_alloc` keeps the blocks handed out in order and adds its own. -/
theorem memareaAlloc_keeps_blocks {area : Memarea} {blocks : List (Nat × Nat)} {sz fresh : Nat}
    {area' : Memarea} {p : Nat} (inv : MemareaInv C area) (ok : BlocksOk C area blocks)
    (malloc : MallocReturns C area sz fresh)
    (allocated : memareaAlloc C area sz fresh = some (area', p)) :
    BlocksOk C area' ((p, max sz 1) :: blocks) := by
  obtain ⟨aligned, inside, old⟩ := memareaAlloc_block inv malloc allocated
  refine ⟨?_, ?_, ?_, List.pairwise_cons.mpr ⟨fun b member => (old b (ok.inside b member)).2,
    ok.disjoint⟩⟩ <;> simp only [List.forall_mem_cons]
  · exact ⟨aligned, ok.aligned⟩
  · exact ⟨by omega, ok.nonempty⟩
  · exact ⟨inside, fun b member => (old b (ok.inside b member)).1⟩

/-- `memarea_clear` leaves an empty first chunk. -/
theorem memareaClear_inv {area : Memarea} (inv : MemareaInv C area) :
    MemareaInv C (memareaClear C area) := by
  have base := inv.chunk_aligned area.first (List.mem_cons_self _ _)
  have uMemAligned : C.memareaAlign ∣ area.first.uMem C := Nat.dvd_add base C.header_aligned
  refine ⟨inv.head_size, le_rfl, Nat.le_add_right _ _, uMemAligned, ?_, ?_, ?_,
    List.pairwise_singleton _ _⟩ <;> simp only [memareaClear, Memarea.chunks, List.forall_mem_singleton]
  · exact le_rfl
  · exact (Nat.le_add_right _ _).trans (le_realignPointer C _)
  · exact base

/-- `memarea_new` starts with an empty chunk of `CHUNK_SIZE`. -/
theorem memareaNew_inv {fresh : Nat} {area : Memarea} (created : memareaNew C fresh = some area) :
    MemareaInv C area := by
  obtain ⟨first, made, rfl⟩ := Option.map_eq_some'.mp created
  obtain ⟨-, aligned, rfl⟩ := (allocChunk_eq_some C).mp made
  have small := C.header_small
  refine ⟨by simp, le_rfl, Nat.le_add_right _ _, Nat.dvd_add aligned C.header_aligned, ?_, ?_, ?_,
    List.pairwise_singleton _ _⟩ <;> simp only [Memarea.chunks, List.forall_mem_singleton]
  · exact le_rfl
  · exact (Nat.le_add_right _ _).trans (le_realignPointer C _)
  · exact aligned

end Invariants

/-! ## Runs -/

/-- Every call that hands out a block is a `memarea_alloc` of its size. -/
theorem memareaStep_alloc {area : Memarea} {fresh : Nat} {op : MemareaOp} {sz : Nat}
    {area' : Memarea} {p : Nat} (sized : op.allocSize = some sz)
    (stepped : memareaStep C area fresh op = some (area', some p)) :
    memareaAlloc C area sz fresh = some (area', p) := by
  cases op with
  | strndup s n =>
    simp only [MemareaOp.allocSize, Option.some.injEq] at sized
    subst sized
    simp only [memareaStep, memareaStrndup] at stepped
    split at stepped
    · cases stepped
    · obtain ⟨⟨a, q⟩, allocated, same⟩ := Option.map_eq_some'.mp stepped
      cases same
      exact allocated
  | clear => cases sized
  | _ =>
    simp only [MemareaOp.allocSize, Option.some.injEq] at sized
    subst sized
    obtain ⟨⟨a, q⟩, allocated, same⟩ := Option.map_eq_some'.mp stepped
    cases same
    exact allocated

/-- Every reachable area keeps the chunk invariants, and the blocks handed out since the last
`memarea_clear` are aligned, inside the chunks and pairwise disjoint. -/
theorem MemareaReachable.inv {area : Memarea} {blocks : List (Nat × Nat)}
    (reachable : MemareaReachable C area blocks) : MemareaInv C area ∧ BlocksOk C area blocks := by
  induction reachable with
  | new created =>
    exact ⟨memareaNew_inv created, ⟨by simp, by simp, by simp, List.Pairwise.nil⟩⟩
  | alloc _ sized malloc stepped step =>
    have allocated := memareaStep_alloc C sized stepped
    exact ⟨memareaAlloc_keeps_inv step.1 malloc allocated,
      memareaAlloc_keeps_blocks step.1 step.2 malloc allocated⟩
  | clear _ step =>
    exact ⟨memareaClear_inv step.1, ⟨by simp, by simp, by simp, List.Pairwise.nil⟩⟩

/-- The chunk invariants are what `memarea_assert_ok` asserts. -/
theorem memareaAssertOk_of_inv {area : Memarea} (inv : MemareaInv C area) :
    memareaAssertOk C area = true := by
  simp only [memareaAssertOk, List.all_eq_true, Bool.and_eq_true, decide_eq_true_eq]
  exact fun c member => ⟨inv.chunk_start c member, inv.chunk_end c member⟩

/-- `memarea_owns_ptr` owns every block handed out. -/
theorem memareaOwnsPtr_of_blocksOk {area : Memarea} {blocks : List (Nat × Nat)}
    (ok : BlocksOk C area blocks) : ∀ b ∈ blocks, memareaOwnsPtr C area b.1 = true := by
  intro b member
  obtain ⟨c, inArea, start, -, below⟩ := ok.inside b member
  have := ok.nonempty b member
  simp only [memareaOwnsPtr, List.any_eq_true, Bool.and_eq_true, decide_eq_true_eq]
  exact ⟨c, inArea, start, by omega⟩

/-- On an area that keeps the invariants, `memarea_alloc` of a size that leaves room for a chunk
header below `SIZE_T_CEILING` passes every assertion. -/
theorem memareaAlloc_isSome {area : Memarea} {sz fresh : Nat} (inv : MemareaInv C area)
    (fits : max sz 1 + C.chunkHeaderSize < C.sizeTCeiling) (aligned : C.memareaAlign ∣ fresh) :
    (memareaAlloc C area sz fresh).isSome := by
  have one : (if sz = 0 then 1 else sz) = max sz 1 := by split <;> omega
  have made : ∀ s, s < C.sizeTCeiling → allocChunk C s fresh =
      some ⟨fresh, max s chunkSize - C.chunkHeaderSize, fresh + C.chunkHeaderSize⟩ :=
    fun s small => (allocChunk_eq_some C).mpr ⟨small, aligned, rfl⟩
  have headEnd := inv.head_end
  simp only [memareaAlloc, one]
  rw [if_neg (by omega), if_neg (by omega)]
  by_cases full : area.first.uMem C + area.first.memSize - area.first.nextMem < max sz 1
  · rw [if_pos full]
    by_cases large : chunkSize ≤ max sz 1 + C.chunkHeaderSize
    · simp only [if_pos large, made _ fits, Option.some_bind]
      rw [if_neg (by omega)]
      rfl
    · simp only [if_neg large, made _ C.ceiling_large, Option.some_bind]
      rw [if_neg (by omega)]
      rfl
  · rw [if_neg full]
    rfl

/-- Every call on a reachable area passes its assertions, when its size leaves room for a chunk
header below `SIZE_T_CEILING` and `tor_malloc` returns an aligned block. -/
theorem memareaStep_isSome {area : Memarea} (inv : MemareaInv C area) {op : MemareaOp} {fresh : Nat}
    (fits : ∀ sz, op.allocSize = some sz → max sz 1 + C.chunkHeaderSize < C.sizeTCeiling)
    (strndupFits : ∀ s n, op = .strndup s n → n < C.sizeTCeiling)
    (aligned : C.memareaAlign ∣ fresh) : (memareaStep C area fresh op).isSome := by
  cases op with
  | clear => rfl
  | strndup s n =>
    simp only [memareaStep, memareaStrndup, if_neg (Nat.not_le.mpr (strndupFits s n rfl)),
      Option.isSome_map']
    exact memareaAlloc_isSome C inv (fits _ rfl) aligned
  | _ =>
    simp only [memareaStep, memareaAllocZero, memareaMemdup, memareaStrdup, Option.isSome_map']
    exact memareaAlloc_isSome C inv (fits _ rfl) aligned

/-! ## The whole run -/

/-- From every area a run reaches: the chunk invariants hold, so `memarea_assert_ok` passes; the
blocks handed out since the last `memarea_clear` are aligned, each inside one chunk's memory,
pairwise disjoint and owned by the area; and the next call passes every assertion when the size
it passes to `memarea_alloc` leaves room for a chunk header below `SIZE_T_CEILING` and
`tor_malloc` returns an aligned block. -/
theorem memarea_reachable_ok {area : Memarea} {blocks : List (Nat × Nat)}
    (reachable : MemareaReachable C area blocks) :
    MemareaInv C area ∧ memareaAssertOk C area = true ∧ BlocksOk C area blocks ∧
      (∀ b ∈ blocks, memareaOwnsPtr C area b.1 = true) ∧
      ∀ (op : MemareaOp) (fresh : Nat),
        (∀ sz, op.allocSize = some sz → sz + C.chunkHeaderSize < C.sizeTCeiling) →
        (∀ s n, op = .strndup s n → n < C.sizeTCeiling) → C.memareaAlign ∣ fresh →
        (memareaStep C area fresh op).isSome := by
  obtain ⟨inv, ok⟩ := reachable.inv
  refine ⟨inv, memareaAssertOk_of_inv C inv, ok, memareaOwnsPtr_of_blocksOk C ok,
    fun op fresh fits strndupFits aligned => memareaStep_isSome C inv (fun sz sized => ?_)
      strndupFits aligned⟩
  have := fits sz sized
  have := C.ceiling_large
  have := C.header_small
  simp only [chunkSize] at *
  omega

/-- The 64-bit values: eight-byte pointers, a header of three words, and
`SIZE_T_CEILING = SSIZE_MAX - 16`. -/
def lp64MemareaConsts : MemareaConsts :=
  ⟨8, 24, 2 ^ 63 - 17, .inr rfl, by decide, by decide, by decide, by decide⟩

/-- A ten-byte block from a fresh area on the 64-bit values: the area is reachable, passes
`memarea_assert_ok` and owns the block. -/
theorem memarea_reachable_ok_lp64 :
    MemareaReachable lp64MemareaConsts ⟨⟨0, 4072, 40⟩, []⟩ [(24, 10)] ∧
      MemareaInv lp64MemareaConsts ⟨⟨0, 4072, 40⟩, []⟩ ∧
      memareaAssertOk lp64MemareaConsts ⟨⟨0, 4072, 40⟩, []⟩ = true ∧
      BlocksOk lp64MemareaConsts ⟨⟨0, 4072, 40⟩, []⟩ [(24, 10)] ∧
      (∀ b ∈ [(24, 10)], memareaOwnsPtr lp64MemareaConsts ⟨⟨0, 4072, 40⟩, []⟩ b.1 = true) ∧
      ∀ (op : MemareaOp) (fresh : Nat),
        (∀ sz, op.allocSize = some sz →
          sz + lp64MemareaConsts.chunkHeaderSize < lp64MemareaConsts.sizeTCeiling) →
        (∀ s n, op = .strndup s n → n < lp64MemareaConsts.sizeTCeiling) →
        lp64MemareaConsts.memareaAlign ∣ fresh →
        (memareaStep lp64MemareaConsts ⟨⟨0, 4072, 40⟩, []⟩ fresh op).isSome :=
  ⟨reachable, memarea_reachable_ok lp64MemareaConsts reachable⟩
where
  reachable : MemareaReachable lp64MemareaConsts ⟨⟨0, 4072, 40⟩, []⟩ [(24, 10)] :=
    .alloc (.new (show memareaNew lp64MemareaConsts 0 = some ⟨⟨0, 4072, 24⟩, []⟩ from rfl))
      (show MemareaOp.allocSize (.alloc 10) = some 10 from rfl)
      (show MallocReturns lp64MemareaConsts ⟨⟨0, 4072, 24⟩, []⟩ 10 8192 from ⟨by decide, by decide⟩)
      (show memareaStep lp64MemareaConsts ⟨⟨0, 4072, 24⟩, []⟩ 8192 (.alloc 10) =
        some (⟨⟨0, 4072, 40⟩, []⟩, some 24) from rfl)

/-- A fresh area asked for `SIZE_T_CEILING - 1` bytes: the size passes `memarea_alloc`'s own
check, but the chunk it needs is `alloc_chunk(sz + CHUNK_HEADER_SIZE)`, whose
`tor_assert(sz < SIZE_T_CEILING)` fails. -/
theorem memareaAlloc_near_ceiling_fails :
    ∃ area, MemareaReachable C area [] ∧ C.sizeTCeiling - 1 < C.sizeTCeiling ∧
      ∀ fresh, memareaAlloc C area (C.sizeTCeiling - 1) fresh = none := by
  have large := C.ceiling_large
  have positive := C.header_pos
  have small := C.header_small
  have created : memareaNew C 0 =
      some ⟨⟨0, max chunkSize chunkSize - C.chunkHeaderSize, 0 + C.chunkHeaderSize⟩, []⟩ := by
    simp only [memareaNew, (allocChunk_eq_some C).mpr ⟨large, dvd_zero _, rfl⟩, Option.map_some']
  refine ⟨_, .new created, by omega, fun fresh => ?_⟩
  have rejected : allocChunk C (C.sizeTCeiling - 1 + C.chunkHeaderSize) fresh = none := by
    simp only [allocChunk]
    rw [if_pos (by omega)]
  have one : (if C.sizeTCeiling - 1 = 0 then 1 else C.sizeTCeiling - 1) = C.sizeTCeiling - 1 :=
    if_neg (by omega)
  simp only [memareaAlloc, MemareaChunk.uMem, one]
  simp only [chunkSize] at large small rejected ⊢
  rw [if_neg (by omega), if_neg (by omega), if_pos (by omega), if_pos (by omega), rejected]
  rfl

/-- On the 64-bit values: `memarea_alloc(area, SSIZE_MAX - 17)` on a new area fails an
assertion. -/
theorem memareaAlloc_near_ceiling_lp64 :
    ∃ area, MemareaReachable lp64MemareaConsts area [] ∧
      lp64MemareaConsts.sizeTCeiling - 1 < lp64MemareaConsts.sizeTCeiling ∧
      ∀ fresh, memareaAlloc lp64MemareaConsts area (lp64MemareaConsts.sizeTCeiling - 1) fresh = none :=
  memareaAlloc_near_ceiling_fails lp64MemareaConsts

end Nuon.Container
