import GpuVirtmem.VirtMem.MemMap

/-!
# Paging rows out and in (`gvirt_page_out`, `gvirt_page_in`)

The loops over the rows a request names. The handshake with the pager around them is
`Pager.Worker`'s business.

`gvirt_page_out` copies a resident row to its swap buffer and frees the block, and passes over every
other row: a request may name rows that somebody else has paged out in the meantime. `gvirt_page_in`
does something only for the rows that wait for device memory. It hands the row's own device pointer,
which is NULL for such a row, to `cudaMalloc` in the place of an address to write to, and then reads
a pointer through it. What that read gives cannot be known from the source; it is a parameter
(`word`), and what is proved holds for all of them.
-/

namespace GpuVirtmem.VirtMem

open Lib

/-- What the page-out loop does to one row and to the device. -/
def MemMap.evict (node : MemMap) (d : Device) : Option (MemMap × Device) :=
  match node.status with
  | .dReady | .dModified =>
    (node.fetch d node.size).map fun node =>
      ({ node with actualDevptr := NULL, status := .dMemwait }, d.cudaFree node.actualDevptr)
  | _ => some (node, d)

/-- One round of the page-out loop: the row at `index`. -/
def pageOutRow (s : Vmem) (index : Nat) : Option Vmem :=
  (s.table[index]?).bind fun node =>
    (node.evict s.device).map fun (node, device) =>
      { table := s.table.set index node, device := device }

/-- `gvirt_page_out` on the rows of the request, in order. -/
def gvirtPageOut (s : Vmem) (reqarr : List Nat) : Option Vmem := reqarr.foldlM pageOutRow s

/-- What the page-in loop does to one row and to the device.

`cudaMalloc(node->actual_devptr, node->size)` is given the row's device pointer where it wants the
address to write one to. NULL is refused with an error; a device address is not a host address that
could be written. `*(char **) node->actual_devptr` then reads a pointer through NULL: `word` is
what that read gives, `none` where it traps. -/
def MemMap.pageIn (node : MemMap) (d : Device) (word : Option DevPtr) : Option (MemMap × Device) :=
  match node.status with
  | .dMemwait | .dDeferred =>
    if node.actualDevptr = NULL then
      word.bind fun dst =>
        if node.size ≤ (node.swap.getD []).length then
          some ({ node with status := .dReady },
            d.cudaMemcpyHtoD dst (node.swap.getD []) node.size)
        else none
    else none
  | _ => some (node, d)

/-- One round of the page-in loop: the row at `index`. -/
def pageInRow (word : Option DevPtr) (s : Vmem) (index : Nat) : Option Vmem :=
  (s.table[index]?).bind fun node =>
    (node.pageIn s.device word).map fun (node, device) =>
      { table := s.table.set index node, device := device }

/-- `gvirt_page_in` on the rows of the request, in order. -/
def gvirtPageIn (s : Vmem) (reqarr : List Nat) (word : Option DevPtr) : Option Vmem :=
  reqarr.foldlM (pageInRow word) s

end GpuVirtmem.VirtMem
