import AlpacaVrr.Lib.HeapSort
import AlpacaVrr.Core.Ring

/-!
# The Virtual Set

The virtual neighbours of a node and the operations `vset_add`,
`vset_should_add`, `vset_remove` and `vset_get_all` on them.

The set is a linked list with new entries at its head, together with the
counter `vset_size`, a second record of its length. `insert_vset_node` raises
the counter. Nothing lowers it: neither the eviction in `vset_bump` nor
`vset_remove` touches it. All that can be said at all times is that the
counter is at least the length, and `Vset` carries that as a field, because
every array of `vset_size` words that the code fills from the list depends on
it. The words past the list's length are never written, so they hold whatever
the stack or the heap held, and each operation takes that as an argument.

The counter is a natural number. In the source it is an `int`, but the arrays
of `vset_size` words lie on the kernel stack, which is gone long before an
`int` would wrap.

`cmp_diff` compares the two addresses it is handed, not the distances stored
there. The sort it drives is in `Lib.HeapSort`.

## Main definitions

* `VsetEntry`, `Vset`: An entry, and the list with its counter.
* `cmp_diff`: The comparator the two sorts are given.
* `insert_vset_node`, `vset_bump`: Insertion and eviction.
* `vset_add`, `vset_should_add`, `vset_remove`, `vset_get_all`: The interface.

## Theorems

* `fill_of_length_eq`: A fully written array has no uninitialised words.
-/

namespace AlpacaVrr

/-- A virtual neighbour and its recorded distances. -/
structure VsetEntry where
  node : U32
  diff_left : U32
  diff_right : U32
  deriving DecidableEq

/-- The list of virtual neighbours and the counter kept beside it. -/
structure Vset where
  list : List VsetEntry
  vset_size : Nat
  length_le : list.length ≤ vset_size

/-- The contents of memory that was never written. -/
abbrev Garbage := Nat → U32

namespace Vset

/-- The set as `vrr_data_init` leaves it. -/
def init : Vset := ⟨[], 0, Nat.le_refl 0⟩

/-- The ids in the set, most recently added first. -/
def nodes (v : Vset) : List U32 := v.list.map VsetEntry.node

/-- `list_del` of the first entry satisfying `p`. The counter stays. -/
def unlink (v : Vset) (p : VsetEntry → Bool) : Vset :=
  ⟨v.list.eraseP p, v.vset_size, Nat.le_trans List.length_eraseP_le v.length_le⟩

end Vset

/-- An array of `n` words whose first words are `xs`. -/
def fill (xs : List U32) (n : Nat) (g : Garbage) : List U32 :=
  xs ++ (List.range (n - xs.length)).map (fun i => g (xs.length + i))

/-- An array written to its end holds nothing uninitialised. -/
theorem fill_of_length_eq (xs : List U32) (n : Nat) (g : Garbage) (h : xs.length = n) :
    fill xs n g = xs := by
  rw [fill, h, Nat.sub_self, List.range_zero, List.map_nil, List.append_nil]

theorem length_fill (xs : List U32) (n : Nat) (g : Garbage) (h : xs.length ≤ n) :
    (fill xs n g).length = n := by
  rw [fill, List.length_append, List.length_map, List.length_range]
  omega

/-- The comparator of the sorts in `vset_bump` and `vset_should_add`. It
    compares the pointers it is given. -/
def cmp_diff (a b : Nat) : Int :=
  if a < b then -1
  else if b < a then 1
  else 0

/-- `sort(a, n, sizeof(u32), &cmp_diff, NULL)`. -/
def sort_diffs (a : List U32) : List U32 :=
  HeapSort.sort (fun _ i j => cmp_diff i j) a

def insert_vset_node (me : U32) (v : Vset) (node : U32) : Vset :=
  ⟨⟨node, diff_left me node, diff_right me node⟩ :: v.list, v.vset_size + 1,
    Nat.succ_le_succ v.length_le⟩

/-- Evict an entry when the counter exceeds `VRR_VSET_SIZE`. The result is
    the return code, `*rem`, and the set. -/
def vset_bump (v : Vset) (rem : U32) (gl gr : Garbage) : Int × U32 × Vset :=
  let radius := VRR_VSET_SIZE / 2
  if v.vset_size ≤ VRR_VSET_SIZE then (0, rem, v)
  else
    -- the arrays have as many words as the counter says, and the list may be shorter
    let left := sort_diffs (fill (v.list.map VsetEntry.diff_left) v.vset_size gl)
    let right := sort_diffs (fill (v.list.map VsetEntry.diff_right) v.vset_size gr)
    let hit := fun tmp : VsetEntry =>
      tmp.diff_left == left.getD radius 0 && tmp.diff_right == right.getD radius 0
    match v.list.find? hit with
    | some tmp => (1, tmp.node, v.unlink hit)
    -- "Our infallible bumping algorithm has failed!"
    | none => (-1, rem, v)

/-- Add an id: -1 when it is present, 0 when nothing was evicted for it, and
    1 when `vset_bump` reported anything else. -/
def vset_add (me : U32) (v : Vset) (node rem : U32) (gl gr : Garbage) : Int × U32 × Vset :=
  if node ∈ v.nodes then (-1, rem, v)
  else
    let (bumped, rem, v) := vset_bump (insert_vset_node me v node) rem gl gr
    -- `!vset_bump(rem)` takes a failure for an eviction
    if bumped = 0 then (0, rem, v) else (1, rem, v)

def vset_should_add (me : U32) (v : Vset) (node : U32) (gl gr : Garbage) : Bool :=
  let radius := VRR_VSET_SIZE / 2
  if node ∈ v.nodes then false
  else if v.vset_size < VRR_VSET_SIZE then true
  else
    let left := sort_diffs (fill (v.list.map VsetEntry.diff_left) v.vset_size gl)
    let right := sort_diffs (fill (v.list.map VsetEntry.diff_right) v.vset_size gr)
    -- either of the two distances may be the smaller one, at any place in front of the radius
    (List.range radius).any (fun i =>
      decide (diff_left me node < left.getD i 0) || decide (diff_right me node < right.getD i 0))

def vset_remove (v : Vset) (node : U32) : Bool × Vset :=
  if node ∈ v.nodes then (true, v.unlink (fun tmp => tmp.node == node)) else (false, v)

/-- The size handed back and the words of the buffer it is said to cover. -/
def vset_get_all (v : Vset) (g : Garbage) : Nat × List U32 :=
  (v.vset_size, fill v.nodes v.vset_size g)

end AlpacaVrr
