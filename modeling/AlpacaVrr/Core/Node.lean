import AlpacaVrr.Lib.FaultState
import AlpacaVrr.Core.Vset
import AlpacaVrr.Core.RoutingTable
import AlpacaVrr.Core.Packet
import AlpacaVrr.Core.Socket

/-!
# The State of a Node

The module's variables, what it asks of the kernel, and the accesses its
functions make to both.

`Node` is the state that survives from one packet to the next. `Kernel` is
everything the code gets from outside while it runs, and none of it is under
the code's control: whether allocations succeed, random words, the contents of
memory that was never written, the balancing of the tree, and what a socket
does with a packet. Each is a supply that is drawn from in the order of the
program, so a statement about all kernels covers every outcome.

`Vrr` is a computation on these that may stop at a fault. A fault is an access
the hardware traps, and nothing runs after it. A write that goes past an array
into memory that exists is no fault. It is recorded in `overruns`, and the
computation goes on with the element in place, as if the array were longer.

Emitted packets are recorded in `sent`, one entry for each call of
`vrr_output`, every release of a packet buffer in `released`, and every call
of `rt_add_route` in `added`, also one that fails.

## Main definitions

* `Node`, `Kernel`, `Sys`: The state, the outside, and both with the records.
* `Fault`: The accesses that trap.
* `Vrr`: A computation of the module.
* `kmalloc`, `random`, `uninit`: Draws from the kernel.
* `Vrr.rt_add_route` and so on: The data operations, on the module's state.
-/

namespace AlpacaVrr

/-- A pending update of the physical set, `struct pset_update`. -/
structure PsetUpdate where
  node : U32
  mac : MacAddr
  trans : HelloTrans
  active : U32
  deriving DecidableEq

/-- The variables of the module. `me` is the node's id, which `vrr_data_init`
    copies to `ME`. -/
structure Node where
  me : U32
  version : U8
  active : U32
  timeout : Nat
  rt : RtTable
  pset : Pset
  pstate : PsetState
  vset : Vset
  pset_updates : List PsetUpdate
  vrr_socks : VrrSocks

/-- What the kernel is going to answer. -/
structure Kernel where
  rb_insert_color : RbInsertColor
  kmalloc : Nat → Bool
  random : Nat → U32
  uninit : Nat → Garbage
  sk_receive_skb : Int

/-- A packet buffer: the one `vrr_rcv` was handed, or one allocated to send. -/
inductive SkbRef where
  | received
  | allocated
  deriving DecidableEq

/-- The arrays that are written without a look at their size. -/
inductive Buffer where
  | vset
  | pstate
  | proxies
  deriving DecidableEq

/-- A write past the end of an array that exists. -/
structure Overrun where
  buffer : Buffer
  index : Nat
  deriving DecidableEq

/-- An access that traps: reading a field of the NULL that
    `rt_remove_route` returned, writing to an array of no elements or behind a
    packet buffer, and using the NULL of an allocation that failed. -/
inductive Fault where
  | nullRoute
  | outOfBounds
  | nullAlloc
  deriving DecidableEq

/-- A node at work. -/
structure Sys where
  node : Node
  kern : Kernel
  sent : List Packet
  released : List SkbRef
  overruns : List Overrun
  added : List RtEntry

/-- A computation of the module. -/
abbrev Vrr := FaultState Fault Sys

namespace Vrr

open FaultState

/-- Take the next answer of the kernel. -/
def draw {α : Type} (f : Kernel → α × Kernel) : Vrr α :=
  fun s => .ok ((f s.kern).1, { s with kern := (f s.kern).2 })

/-- Whether an allocation succeeds. One of no bytes does. -/
def kmalloc (size : Nat) : Vrr Bool :=
  if size = 0 then pure true
  else draw (fun k => (k.kmalloc 0, { k with kmalloc := fun n => k.kmalloc (n + 1) }))

/-- `get_random_bytes` for one word. -/
def random : Vrr U32 :=
  draw (fun k => (k.random 0, { k with random := fun n => k.random (n + 1) }))

/-- The contents of a variable, an array or a buffer before it is written. -/
def uninit : Vrr Garbage :=
  draw (fun k => (k.uninit 0, { k with uninit := fun n => k.uninit (n + 1) }))

/-- The state of the node. -/
def node : Vrr Node := gets Sys.node

def set_node (f : Node → Node) : Vrr Unit := modify (fun s => { s with node := f s.node })

/-- Record writes to the positions below `n` of an array of `size` elements
    that is not long enough for them. -/
def overrun (buffer : Buffer) (size n : Nat) : Vrr Unit :=
  modify (fun s => { s with
    overruns := s.overruns ++ (List.range (n - size)).map (fun i => ⟨buffer, size + i⟩) })

def kfree_skb (skb : SkbRef) : Vrr Unit :=
  modify (fun s => { s with released := s.released ++ [skb] })

/-- The four allocations of `rt_add_route`. -/
def rt_alloc : Vrr RtAlloc := do
  let ea_node ← kmalloc 1
  let ea_route ← kmalloc 1
  let eb_node ← kmalloc 1
  let eb_route ← kmalloc 1
  pure ⟨ea_node, ea_route, eb_node, eb_route⟩

def rt_get_next (dest : U32) : Vrr U32 := do
  let me ← node
  pure (RtTable.rt_get_next me.me me.rt dest)

def rt_get_next_exclude (dest src : U32) : Vrr U32 := do
  let me ← node
  pure (RtTable.rt_get_next_exclude me.me me.rt dest src)

def rt_add_route (ea eb na nb path_id : U32) : Vrr Bool := do
  let alloc ← rt_alloc
  let rb ← gets (fun s => s.kern.rb_insert_color)
  let me ← node
  modify (fun s => { s with
    node := { s.node with rt := (s.node.rt.rt_add_route rb alloc ea eb na nb path_id).2 }
    added := s.added ++ [⟨ea, eb, na, nb, path_id⟩] })
  pure (me.rt.rt_add_route rb alloc ea eb na nb path_id).1

def rt_remove_route (ea path_id : U32) : Vrr (Option RtEntry) := do
  let me ← node
  set_node (fun n => { n with rt := (n.rt.rt_remove_route ea path_id).2 })
  pure (me.rt.rt_remove_route ea path_id).1

/-- `pset_state_update`, with the writes past the arrays' ends recorded. -/
def pset_state_update : Vrr Unit := do
  set_node (fun n => { n with pstate := AlpacaVrr.pset_state_update n.pstate n.pset })
  let me ← node
  overrun .pstate VRR_PSET_SIZE me.pstate.la_size
  overrun .pstate VRR_PSET_SIZE me.pstate.lna_size
  overrun .pstate VRR_PSET_SIZE me.pstate.p_size

/-- `pset_add`. The entry's allocation is not checked. -/
def pset_add (node : U32) (mac : MacAddr) (status : PsetStatus) (active : U32) : Vrr Unit := do
  let me ← Vrr.node
  if pset_contains me.pset node then pure ()
  else do
    let tmp ← kmalloc 1
    if tmp then
      set_node (fun n => { n with pset := AlpacaVrr.pset_add n.pset node mac status active })
    else fault .nullAlloc

/-- `pset_get_proxy`. The ids of the linked and active neighbours go to an
    array of `VRR_PSET_SIZE` words first. -/
def pset_get_proxy : Vrr (Option U32) := do
  let me ← node
  overrun .proxies VRR_PSET_SIZE (pset_active me.pset).length
  if (pset_active me.pset).length = 0 then pure none
  else do
    let r ← random
    pure (AlpacaVrr.pset_get_proxy me.pset r)

def vset_should_add (node : U32) : Vrr Bool := do
  let me ← Vrr.node
  let left ← uninit
  let right ← uninit
  pure (AlpacaVrr.vset_should_add me.me me.vset node left right)

/-- `vset_add`. The entry's allocation is not checked. -/
def vset_add (node rem : U32) : Vrr (Int × U32) := do
  let me ← Vrr.node
  if node ∈ me.vset.nodes then pure (-1, rem)
  else do
    let tmp ← kmalloc 1
    if tmp then do
      let left ← uninit
      let right ← uninit
      set_node (fun n => { n with
        vset := (AlpacaVrr.vset_add n.me n.vset node rem left right).2.2 })
      pure ((AlpacaVrr.vset_add me.me me.vset node rem left right).1,
        (AlpacaVrr.vset_add me.me me.vset node rem left right).2.1)
    else fault .nullAlloc

def vset_remove (node : U32) : Vrr Bool := do
  let me ← Vrr.node
  set_node (fun n => { n with vset := (AlpacaVrr.vset_remove n.vset node).2 })
  pure (AlpacaVrr.vset_remove me.vset node).1

/-- `vset_get_all`: the counter and the buffer, which is NULL when its
    allocation fails. Writing an id to NULL is a fault. -/
def vset_get_all : Vrr (Nat × Option (List U32)) := do
  let me ← node
  let vset_all ← kmalloc (4 * me.vset.vset_size)
  let g ← uninit
  if vset_all then
    pure ((AlpacaVrr.vset_get_all me.vset g).1, some (AlpacaVrr.vset_get_all me.vset g).2)
  else if me.vset.list = [] then pure (me.vset.vset_size, none)
  else fault .nullAlloc

end Vrr

end AlpacaVrr
