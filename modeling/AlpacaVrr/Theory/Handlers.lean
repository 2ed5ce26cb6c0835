import AlpacaVrr.Core.Ether
import AlpacaVrr.Theory.Frames

/-!
# What Every Handler Keeps

One walk over the handlers, for all invariants that do not depend on the order
in which a handler does things.

The handlers are made of a dozen operations. An assertion that each of these
keeps is kept by every handler, and `Routine` says that they do. Which packets
may be emitted is a parameter, because an invariant of the record of packets
is usually about packets of one type. `Quiet` leaves out `rt_add_route`, which
only the two handlers of a setup call. These two and the hello, whose update
matters to those who look at the queue, are left to the caller. `Sends` leaves
out all that changes a store, and is enough for the timer and for the updates
that hellos left behind. `SendsOwn` and `Alters` are the same for the parts of a
handler that have nothing to do with the buffer it was handed, and `Handles` is
what the handlers need that never set the active flag.

`Sys.base` is the part of a node that no handler changes, except that a hello
appends to the queue.

## Main definitions

* `Sends`, `Quiet`, `Routine`: The operations keep an assertion.
* `SendsOwn`, `Alters`, `Handles`: Fewer of them do.
* `Sys.base`: The node without its table, its virtual set and its active flag.

## Theorems

* `Handles.vrr_rcvfunc`: What the operations keep is kept by the dispatch.
* `Handles.vrr_rcv`: And by `vrr_rcv`.
* `alters_of_output`, `routine_of_updates`: The operations in terms of what they
  change.
* `quiet_records`, `routine_records`, `routine_base`: No operation touches the
  base.
* `event_preserves`, `reach_preserves`: From the entry points to whole runs.
* `step_cases`: What an event did, case by case.
* `Routine.event`: What does not look at the physical set is kept throughout.
* `records_grow`, `Ether.records_grow`: Nothing is taken from the records.
-/

namespace AlpacaVrr

open FaultState

section Rules

variable {I : Sys → Prop} (hdraws : Draws I (fun _ => True))

include hdraws

namespace Vrr

theorem rt_add_route_rule (ea eb na nb path_id : U32)
    (h : ∀ s rb alloc, I s → I { s with
      node := { s.node with rt := (s.node.rt.rt_add_route rb alloc ea eb na nb path_id).2 }
      added := s.added ++ [⟨ea, eb, na, nb, path_id⟩] }) :
    Preserves I (rt_add_route ea eb na nb path_id) := by
  unfold rt_add_route
  refine Preserves.bind hdraws.rt_alloc (fun alloc => ?_)
  refine Preserves.bind (Preserves.gets _) (fun rb => ?_)
  refine Preserves.bind (Preserves.gets _) (fun me => ?_)
  exact Preserves.bind (Preserves.modify _ (fun s hs => h s rb alloc hs))
    (fun _ => Preserves.pure _)

theorem vset_add_rule (id rem : U32)
    (h : ∀ s left right, I s → I { s with node := { s.node with
      vset := (AlpacaVrr.vset_add s.node.me s.node.vset id rem left right).2.2 } }) :
    Preserves I (vset_add id rem) := by
  unfold vset_add
  refine Preserves.bind (Preserves.gets _) (fun me => Preserves.ite _ (fun _ => Preserves.pure _)
    (fun _ => ?_))
  refine Preserves.bind (hdraws.kmalloc 1) (fun tmp => Preserves.ite _ (fun _ => ?_)
    (fun _ => Preserves.fault _))
  refine Preserves.bind hdraws.uninit (fun left => Preserves.bind hdraws.uninit (fun right => ?_))
  exact Preserves.bind (Preserves.modify _ (fun s hs => h s left right hs))
    (fun _ => Preserves.pure _)

end Vrr

end Rules

namespace Vrr

theorem rt_remove_route_rule {I : Sys → Prop} (ea path_id : U32)
    (h : ∀ s, I s → I { s with
      node := { s.node with rt := (s.node.rt.rt_remove_route ea path_id).2 } }) :
    Preserves I (rt_remove_route ea path_id) :=
  Preserves.bind (Preserves.gets _) (fun _ => Preserves.bind (Preserves.modify _ h)
    (fun _ => Preserves.pure _))

theorem vset_remove_rule {I : Sys → Prop} (id : U32)
    (h : ∀ s, I s → I { s with
      node := { s.node with vset := (AlpacaVrr.vset_remove s.node.vset id).2 } }) :
    Preserves I (vset_remove id) :=
  Preserves.bind (Preserves.gets _) (fun _ => Preserves.bind (Preserves.modify _ h)
    (fun _ => Preserves.pure _))

end Vrr

/-- Sending keeps `I`: drawing, picking a proxy, and emitting a packet of a type
    in `T`. -/
structure Sends (T : U8 → Prop) (I : Sys → Prop) : Prop where
  draws : Draws I (fun _ => True)
  random : Preserves I Vrr.random
  pset_get_proxy : Preserves I Vrr.pset_get_proxy
  vrr_output : ∀ skb pkt, T pkt.vh.pkt_type → Preserves I (Vrr.vrr_output skb pkt)
  kfree_skb : ∀ skb, Preserves I (Vrr.kfree_skb skb)

/-- The operations of the handlers but `rt_add_route` keep `I`. -/
structure Quiet (T : U8 → Prop) (I : Sys → Prop) : Prop extends Sends T I where
  overrun : ∀ size n, Preserves I (Vrr.overrun .vset size n)
  rt_remove_route : ∀ ea path_id, Preserves I (Vrr.rt_remove_route ea path_id)
  vset_add : ∀ id rem, Preserves I (Vrr.vset_add id rem)
  vset_remove : ∀ id, Preserves I (Vrr.vset_remove id)
  activate : Preserves I (Vrr.set_node (fun n => { n with active := 1 }))

/-- All operations keep `I`. -/
structure Routine (T : U8 → Prop) (I : Sys → Prop) : Prop extends Quiet T I where
  rt_add_route : ∀ ea eb na nb path_id, Preserves I (Vrr.rt_add_route ea eb na nb path_id)

/-- Sending packets of the node's own keeps `I`. -/
structure SendsOwn (T : U8 → Prop) (I : Sys → Prop) : Prop where
  draws : Draws I (fun _ => True)
  random : Preserves I Vrr.random
  pset_get_proxy : Preserves I Vrr.pset_get_proxy
  vrr_output : ∀ pkt, T pkt.vh.pkt_type → Preserves I (Vrr.vrr_output .allocated pkt)

/-- And so do the operations that a handler is made of once it has the packet's
    fields, but `rt_add_route` and the assignment to the active flag. -/
structure Alters (T : U8 → Prop) (I : Sys → Prop) : Prop extends SendsOwn T I where
  overrun : ∀ size n, Preserves I (Vrr.overrun .vset size n)
  rt_remove_route : ∀ ea path_id, Preserves I (Vrr.rt_remove_route ea path_id)
  vset_add : ∀ id rem, Preserves I (Vrr.vset_add id rem)
  vset_remove : ∀ id, Preserves I (Vrr.vset_remove id)

/-- All operations of a handler but these two keep `I`. -/
structure Handles (T : U8 → Prop) (I : Sys → Prop) : Prop extends Alters T I where
  forward : ∀ pkt, T pkt.vh.pkt_type → Preserves I (Vrr.vrr_output .received pkt)
  release : Preserves I (Vrr.kfree_skb .received)

theorem Sends.own {T : U8 → Prop} {I : Sys → Prop} (h : Sends T I) : SendsOwn T I :=
  ⟨h.draws, h.random, h.pset_get_proxy, h.vrr_output .allocated⟩

theorem Quiet.handles {T : U8 → Prop} {I : Sys → Prop} (h : Quiet T I) : Handles T I :=
  ⟨⟨h.toSends.own, h.overrun, h.rt_remove_route, h.vset_add, h.vset_remove⟩,
    h.vrr_output .received, h.kfree_skb .received⟩

namespace SendsOwn

variable {T : U8 → Prop} {I : Sys → Prop}

theorem read_vset (vset_size : Nat) (vset : Option (List U32)) :
    Preserves I (Vrr.read_vset vset_size vset) := by
  unfold Vrr.read_vset
  refine Preserves.ite _ (fun _ => Preserves.pure _) (fun _ => ?_)
  cases vset with
  | none => exact Preserves.fault _
  | some ids => exact Preserves.pure _

theorem rt_get_next (dest : U32) : Preserves I (Vrr.rt_get_next dest) :=
  Preserves.bind (Preserves.gets _) (fun _ => Preserves.pure _)

theorem next_hop_via (dst proxy : U32) : Preserves I (Vrr.next_hop_via dst proxy) :=
  Preserves.bind (Preserves.gets _) (fun _ => Preserves.ite _ (fun _ => rt_get_next proxy)
    (fun _ => Preserves.pure _))

theorem setup_next_hop (dst proxy : U32) : Preserves I (Vrr.setup_next_hop dst proxy) := by
  unfold Vrr.setup_next_hop
  refine Preserves.bind (Preserves.gets _) (fun me => Preserves.ite _ (fun _ => ?_)
    (fun _ => Preserves.pure _))
  exact Preserves.ite _ (fun _ => Preserves.pure _) (fun _ => rt_get_next proxy)

section Operations

variable (h : SendsOwn T I)

include h

theorem vset_get_all : Preserves I Vrr.vset_get_all := by
  unfold Vrr.vset_get_all
  refine Preserves.bind (Preserves.gets _) (fun me => ?_)
  refine Preserves.bind (h.draws.kmalloc _) (fun all => Preserves.bind h.draws.uninit (fun g => ?_))
  refine Preserves.ite _ (fun _ => Preserves.pure _) (fun _ => ?_)
  exact Preserves.ite _ (fun _ => Preserves.pure _) (fun _ => Preserves.fault _)

theorem vset_should_add (id : U32) : Preserves I (Vrr.vset_should_add id) :=
  Preserves.bind (Preserves.gets _) (fun _ => Preserves.bind h.draws.uninit (fun _ =>
    Preserves.bind h.draws.uninit (fun _ => Preserves.pure _)))

theorem send_vset (pkt_type : U8) (hT : T pkt_type) (src dst : U32) (data : List U32)
    (vset_size : Nat) (vset : Option (List U32)) (hop : U32) :
    Preserves I (Vrr.send_vset pkt_type src dst data vset_size vset hop) := by
  unfold Vrr.send_vset
  refine Preserves.bind (Preserves.gets _) (fun me => ?_)
  cases pset_get_mac me.pset hop with
  | none => exact Preserves.pure _
  | some mac =>
      refine Preserves.bind (read_vset _ _) (fun ids => ?_)
      refine Preserves.bind (h.draws.kmalloc 1) (fun skb => ?_)
      exact Preserves.ite _ (fun _ => h.vrr_output _ hT) (fun _ => Preserves.pure _)

theorem send_teardown (hT : T VRR_TEARDOWN) (path_id endpoint : U32) (vset : Option (List U32))
    (vset_size : Nat) (hop : U32) :
    Preserves I (Vrr.send_teardown path_id endpoint vset vset_size hop) :=
  Preserves.bind (Preserves.gets _) (fun _ => h.send_vset _ hT _ _ _ _ _ _)

theorem send_setup_req (hT : T VRR_SETUP_REQ) (src dest proxy : U32) :
    Preserves I (Vrr.send_setup_req src dest proxy) := by
  unfold Vrr.send_setup_req
  refine Preserves.bind (Preserves.gets _) (fun me => ?_)
  refine Preserves.bind h.draws.uninit (fun stack => Preserves.bind h.vset_get_all (fun r => ?_))
  refine Preserves.bind (h.draws.kmalloc 1) (fun data => ?_)
  refine Preserves.ite _ (fun _ => ?_) (fun _ => Preserves.fault _)
  refine Preserves.bind (read_vset _ _) (fun ids => ?_)
  refine Preserves.bind (h.draws.kmalloc 1) (fun skb => ?_)
  exact Preserves.ite _ (fun _ => Preserves.then_pure (h.vrr_output _ hT) 0)
    (fun _ => Preserves.pure _)

theorem tear_down_hop (hT : T VRR_TEARDOWN) (path_id endpoint sender hop : U32) :
    Preserves I (Vrr.tear_down_hop path_id endpoint sender hop) := by
  unfold Vrr.tear_down_hop
  refine Preserves.bind (Preserves.gets _) (fun me => Preserves.ite _ (fun _ => ?_)
    (fun _ => Preserves.pure _))
  refine Preserves.bind (Preserves.ite _ (fun _ => h.vset_get_all) (fun _ => Preserves.pure _))
    (fun r => ?_)
  exact Preserves.then_pure (h.send_teardown hT _ _ _ _ _) ()

theorem vrr_add_request (hT : T VRR_SETUP_REQ) (id : U32) :
    Preserves I (Vrr.vrr_add_request id) := by
  unfold Vrr.vrr_add_request
  refine Preserves.bind (Preserves.gets _) (fun me => ?_)
  refine Preserves.bind (h.vset_should_add id) (fun should => ?_)
  refine Preserves.ite _ (fun _ => ?_) (fun _ => Preserves.pure _)
  refine Preserves.bind h.pset_get_proxy (fun ret => ?_)
  cases ret with
  | none => exact Preserves.pure _
  | some proxy => exact Preserves.then_pure (h.send_setup_req hT _ _ _) ()

theorem vrr_add_requests (hT : T VRR_SETUP_REQ) (vset : List U32) :
    Preserves I (vset.forM Vrr.vrr_add_request) :=
  Preserves.forM vset Vrr.vrr_add_request (fun id _ => h.vrr_add_request hT id)

end Operations

end SendsOwn

namespace Alters

variable {T : U8 → Prop} {I : Sys → Prop}

section Operations

variable (h : Alters T I)

include h

theorem tear_down_path (hT : T VRR_TEARDOWN) (path_id endpoint sender : U32) :
    Preserves I (Vrr.tear_down_path path_id endpoint sender) := by
  unfold Vrr.tear_down_path
  refine Preserves.bind (h.rt_remove_route _ _) (fun route => ?_)
  cases route with
  | none => exact Preserves.pure _
  | some route =>
      refine Preserves.bind (h.tear_down_hop hT _ _ _ _) (fun _ => ?_)
      exact Preserves.bind (h.tear_down_hop hT _ _ _ _) (fun _ =>
        Preserves.then_pure (h.tear_down_hop hT _ _ _ _) 0)

theorem vrr_add (hT : T VRR_SETUP_REQ) (src : U32) (vset : List U32) :
    Preserves I (Vrr.vrr_add src vset) := by
  unfold Vrr.vrr_add
  refine Preserves.bind (h.vrr_add_requests hT vset) (fun _ => ?_)
  refine Preserves.ite _ (fun _ => Preserves.pure _) (fun _ => ?_)
  refine Preserves.bind (h.vset_should_add src) (fun should => ?_)
  exact Preserves.ite _ (fun _ => Preserves.then_pure (h.vset_add src 0) 1)
    (fun _ => Preserves.pure _)

theorem vrr_local_rcv_setup_fail (hT : T VRR_SETUP_REQ) (hT' : T VRR_SETUP_FAIL) (dst proxy : U32)
    (vset_size : Nat) (vset : Option (List U32)) :
    Preserves I (Vrr.vrr_local_rcv_setup_fail dst proxy vset_size vset) := by
  unfold Vrr.vrr_local_rcv_setup_fail
  refine Preserves.bind (Preserves.gets _) (fun me => ?_)
  refine Preserves.bind (h.draws.kmalloc _) (fun ovset => Preserves.bind (SendsOwn.next_hop_via _ _)
    (fun nh => ?_))
  refine Preserves.ite _ (fun _ => Preserves.ite _ (fun _ => Preserves.fault _) (fun _ => ?_))
    (fun _ => Preserves.fault _)
  refine Preserves.bind (h.vrr_add hT _ _) (fun _ => Preserves.ite _ (fun _ => ?_)
    (fun _ => Preserves.pure _))
  exact Preserves.then_pure (h.send_vset _ hT' _ _ _ _ _ _) 0

/-- The first node of a path, when tearing a path down is kept as a whole. -/
theorem vrr_local_rcv_setup_torn (hT : T VRR_SETUP)
    (htear : ∀ path_id endpoint, Preserves I (Vrr.tear_down_path path_id endpoint null))
    (hadd : ∀ ea eb na nb path_id, Preserves I (Vrr.rt_add_route ea eb na nb path_id))
    (dst pid proxy : U32) (vset_size : Nat) (vset : Option (List U32)) :
    Preserves I (Vrr.vrr_local_rcv_setup dst pid proxy vset_size vset) := by
  unfold Vrr.vrr_local_rcv_setup
  refine Preserves.bind (Preserves.gets _) (fun me => Preserves.bind (SendsOwn.next_hop_via _ _)
    (fun nh => ?_))
  refine Preserves.bind (hadd _ _ _ _ _) (fun added => ?_)
  refine Preserves.ite _ (fun _ => ?_) (fun _ => Preserves.then_pure (htear _ _) 0)
  exact Preserves.ite _ (fun _ => Preserves.then_pure (h.send_vset _ hT _ _ _ _ _ _) 0)
    (fun _ => Preserves.pure _)

theorem vrr_local_rcv_setup (hT : T VRR_SETUP) (hT' : T VRR_TEARDOWN)
    (hadd : ∀ ea eb na nb path_id, Preserves I (Vrr.rt_add_route ea eb na nb path_id))
    (dst pid proxy : U32) (vset_size : Nat) (vset : Option (List U32)) :
    Preserves I (Vrr.vrr_local_rcv_setup dst pid proxy vset_size vset) :=
  h.vrr_local_rcv_setup_torn hT (fun _ _ => h.tear_down_path hT' _ _ _) hadd _ _ _ _ _

theorem vrr_rcv_setup_fail (hT : T VRR_SETUP_REQ) (hT' : T VRR_SETUP_FAIL) (skb : SkBuff) :
    Preserves I (Vrr.vrr_rcv_setup_fail skb) := by
  unfold Vrr.vrr_rcv_setup_fail
  refine Preserves.bind (h.draws.read_u32 _ _) (fun proxy => ?_)
  refine Preserves.bind (h.draws.read_u32 _ _) (fun size => ?_)
  refine h.draws.received_vset _ _ _ _ _ (fun s hs => hs) (fun _ vset => ?_)
  refine Preserves.bind (SendsOwn.next_hop_via _ _)
    (fun nh => Preserves.ite _ (fun _ => ?_) (fun _ => ?_))
  · exact Preserves.then_pure (h.send_vset _ hT' _ _ _ _ _ _) 0
  refine Preserves.bind (Preserves.gets _) (fun me => Preserves.ite _ (fun _ => ?_)
    (fun _ => Preserves.pure _))
  exact Preserves.bind (h.overrun _ _) (fun _ => Preserves.then_pure (h.vrr_add hT _ _) 0)

theorem vrr_rcv_teardown (hT : T VRR_SETUP_REQ) (hT' : T VRR_TEARDOWN) (skb : SkBuff) :
    Preserves I (Vrr.vrr_rcv_teardown skb) := by
  unfold Vrr.vrr_rcv_teardown
  refine Preserves.bind (h.draws.read_u32 _ _) (fun ea => ?_)
  refine Preserves.bind (h.draws.read_u32 _ _) (fun pid => ?_)
  refine Preserves.bind (h.draws.read_u32 _ _) (fun size => ?_)
  refine Preserves.bind (h.rt_remove_route _ _) (fun route => ?_)
  cases route with
  | none => exact Preserves.fault _
  | some route =>
      refine h.draws.received_vset _ _ _ _ _ (fun s hs => hs) (fun _ vset => ?_)
      refine Preserves.ite _ (fun _ => Preserves.then_pure (h.send_teardown hT' _ _ _ _ _) 0)
        (fun _ => ?_)
      exact Preserves.bind (h.vset_remove _) (fun _ => Preserves.then_pure (h.vrr_add hT _ _) 0)

/-- A setup, when tearing a path down is kept as a whole. -/
theorem vrr_rcv_setup_torn (hT : T VRR_SETUP_REQ) (hT' : T VRR_SETUP)
    (htear : ∀ path_id endpoint, Preserves I (Vrr.tear_down_path path_id endpoint null))
    (hadd : ∀ ea eb na nb path_id, Preserves I (Vrr.rt_add_route ea eb na nb path_id))
    (hactive : Preserves I (Vrr.set_node (fun n => { n with active := 1 }))) (skb : SkBuff) :
    Preserves I (Vrr.vrr_rcv_setup skb) := by
  unfold Vrr.vrr_rcv_setup
  refine Preserves.bind (Preserves.gets _) (fun me => ?_)
  refine Preserves.bind (h.draws.read_u32 _ _) (fun pid => ?_)
  refine Preserves.bind (h.draws.read_u32 _ _) (fun proxy => ?_)
  cases (if skb.dev_addr = skb.h_source then some me.me
    else pset_lookup_mac me.pset skb.h_source) with
  | none => exact Preserves.then_pure (htear _ _) 0
  | some sender =>
      refine Preserves.bind (SendsOwn.setup_next_hop _ _) (fun nh => ?_)
      refine Preserves.bind (hadd _ _ _ _ _) (fun added => ?_)
      refine Preserves.ite _ (fun _ => ?_)
        (fun _ => Preserves.then_pure (htear _ _) 0)
      refine Preserves.bind (h.draws.read_u32 _ _) (fun size => ?_)
      refine h.draws.received_vset _ _ _ _ _ (fun s hs => hs) (fun _ vset => ?_)
      refine Preserves.ite _ (fun _ => Preserves.then_pure (h.send_vset _ hT' _ _ _ _ _ _) 0)
        (fun _ => ?_)
      refine Preserves.bind (h.vrr_add hT _ _) (fun ret => ?_)
      exact Preserves.ite _ (fun _ => Preserves.then_pure hactive 0) (fun _ => Preserves.pure _)

end Operations

end Alters

namespace Handles

variable {T : U8 → Prop} {I : Sys → Prop}

section Operations

variable (h : Handles T I)

include h

theorem vrr_rcv_data (hT : T VRR_DATA) (skb : SkBuff) (hty : skb.pkt.vh.pkt_type = VRR_DATA) :
    Preserves I (Vrr.vrr_rcv_data skb) := by
  unfold Vrr.vrr_rcv_data
  refine Preserves.bind (Preserves.gets _) (fun me => Preserves.ite _ (fun _ => ?_) (fun _ => ?_))
  · cases vrr_find_sock me.vrr_socks skb.pkt.src with
    | none => exact Preserves.pure _
    | some sk =>
        exact Preserves.bind (Preserves.gets _) (fun ret => Preserves.then_pure (h.release) ret)
  · refine Preserves.then_pure ?_ 0
    unfold Vrr.vrr_forward
    refine Preserves.bind (SendsOwn.rt_get_next _) (fun nh => Preserves.bind (Preserves.gets _)
      (fun me => Preserves.ite _ (fun _ => Preserves.pure _) (fun _ => ?_)))
    cases pset_get_mac me.pset nh with
    | none => exact Preserves.pure _
    | some mac =>
        refine h.forward _ ?_
        rw [hty]
        exact hT

/-- A request is forwarded as it came, or answered with a setup of the node's
    own or a failure. -/
theorem vrr_rcv_setup_req (hT : T VRR_SETUP_REQ) (hT' : T VRR_SETUP_FAIL) (skb : SkBuff)
    (hty : skb.pkt.vh.pkt_type = VRR_SETUP_REQ)
    (hlocal : ∀ dst pid proxy vset_size vset,
      Preserves I (Vrr.vrr_local_rcv_setup dst pid proxy vset_size vset)) :
    Preserves I (Vrr.vrr_rcv_setup_req skb) := by
  unfold Vrr.vrr_rcv_setup_req
  refine Preserves.bind (Preserves.bind (Preserves.gets _) (fun _ => Preserves.pure _))
    (fun nh => ?_)
  refine Preserves.ite _ (fun _ => Preserves.then_pure ?_ 0) (fun _ => ?_)
  · unfold Vrr.vrr_forward_setup_req
    refine Preserves.bind (Preserves.gets _) (fun me => ?_)
    cases pset_get_mac me.pset nh with
    | none => exact Preserves.pure _
    | some mac =>
        refine h.forward _ ?_
        rw [hty]
        exact hT
  refine Preserves.bind (h.draws.read_u32 _ _) (fun proxy => ?_)
  refine Preserves.bind (h.draws.read_u32 _ _) (fun size => ?_)
  refine h.draws.received_vset _ _ _ _ _ (fun s hs => hs) (fun _ vset => ?_)
  refine Preserves.bind h.vset_get_all (fun ovset => Preserves.bind (h.vrr_add hT _ _)
    (fun added => Preserves.ite _ (fun _ => ?_) (fun _ => ?_)))
  · exact Preserves.bind h.random (fun pid => Preserves.then_pure (hlocal _ _ _ _ _) 0)
  · exact Preserves.then_pure (h.vrr_local_rcv_setup_fail hT hT' _ _ _ _) 0

/-- What the operations keep is kept by the dispatch, given the handlers that
    may emit something else or queue an update. -/
theorem vrr_rcvfunc (hT : ∀ ty, ty ≠ VRR_HELLO → ty ≠ VRR_SETUP → T ty) (skb : SkBuff)
    (hty : skb.pkt.vh.pkt_type < VRR_NPTYPES)
    (hhello : skb.pkt.vh.pkt_type = VRR_HELLO → Preserves I (Vrr.vrr_rcv_hello skb))
    (hsetup : skb.pkt.vh.pkt_type = VRR_SETUP → Preserves I (Vrr.vrr_rcv_setup skb))
    (hlocal : ∀ dst pid proxy vset_size vset,
      Preserves I (Vrr.vrr_local_rcv_setup dst pid proxy vset_size vset)) :
    Preserves I (Vrr.vrr_rcvfunc skb) := by
  have hreq : T VRR_SETUP_REQ := hT _ (by decide) (by decide)
  have hfail : T VRR_SETUP_FAIL := hT _ (by decide) (by decide)
  exact Vrr.vrr_rcvfunc_triple skb hty
    (fun h0 => h.vrr_rcv_data (hT _ (by decide) (by decide)) skb h0) hhello
    (fun h2 => h.vrr_rcv_setup_req hreq hfail skb h2 hlocal) hsetup
    (fun _ => h.vrr_rcv_setup_fail hreq hfail skb)
    (fun _ => h.vrr_rcv_teardown hreq (hT _ (by decide) (by decide)) skb)

/-- And by `vrr_rcv`, which first notes that the sender is alive. -/
theorem vrr_rcv (skb : SkBuff)
    (hheard : ∀ s, I s → I { s with node := heard s.node skb.pkt.src })
    (hfunc : skb.pkt.vh.pkt_type < VRR_NPTYPES → Preserves I (Vrr.vrr_rcvfunc skb)) :
    Preserves I (Vrr.vrr_rcv skb) :=
  Vrr.vrr_rcv_triple (I := I) (J := fun _ => I) skb (fun _ => h.release) hheard hfunc
    (fun _ _ => h.release) (fun _ hs => hs)

end Operations

end Handles

namespace Routine

variable {T : U8 → Prop} {I : Sys → Prop} (h : Routine T I)

include h

theorem vrr_rcv_setup (hT : T VRR_SETUP_REQ) (hT' : T VRR_SETUP) (hT'' : T VRR_TEARDOWN)
    (skb : SkBuff) : Preserves I (Vrr.vrr_rcv_setup skb) :=
  h.handles.vrr_rcv_setup_torn hT hT' (fun _ _ => h.handles.tear_down_path hT'' _ _ _)
    h.rt_add_route h.activate skb

omit h in
/-- When packets of every type may be emitted, no handler is an exception but
    the hello. -/
theorem vrr_rcvfunc_of_all (h : Routine (fun _ => True) I) (skb : SkBuff)
    (hty : skb.pkt.vh.pkt_type < VRR_NPTYPES)
    (hhello : skb.pkt.vh.pkt_type = VRR_HELLO → Preserves I (Vrr.vrr_rcv_hello skb)) :
    Preserves I (Vrr.vrr_rcvfunc skb) :=
  h.handles.vrr_rcvfunc (fun _ _ _ => trivial) skb hty hhello
    (fun _ => h.vrr_rcv_setup trivial trivial trivial skb)
    (fun _ _ _ _ _ => h.handles.vrr_local_rcv_setup trivial trivial h.rt_add_route _ _ _ _ _)

end Routine

/-- The node without its table, its virtual set and its active flag. -/
def Sys.base (s : Sys) : Node :=
  { s.node with rt := RtTable.empty, vset := Vset.init, active := 0 }

section Updates

variable {T : U8 → Prop} {I : Sys → Prop} (hkern : ∀ s k, I s → I { s with kern := k })
  (hover : ∀ s l, I s → I { s with overruns := s.overruns ++ l })
  (hsent : ∀ s (p : Packet), T p.vh.pkt_type → I s → I { s with sent := s.sent ++ [p] })
  (hstores : ∀ s rt v, I s → I { s with node := { s.node with rt := rt, vset := v } })

include hkern hover hsent hstores

omit hsent in
/-- What survives the updates that the operations come to, and a packet of the
    node's own. -/
theorem alters_of_output
    (houtput : ∀ pkt, T pkt.vh.pkt_type → Preserves I (Vrr.vrr_output .allocated pkt)) :
    Alters T I := by
  have hdraws := draws_of_kern hkern
  have hrandom : Preserves I Vrr.random := fun s hs => hkern s _ hs
  exact {
    draws := hdraws
    random := hrandom
    pset_get_proxy := by
      refine Preserves.bind (Preserves.gets _) (fun me => ?_)
      refine Preserves.bind (Preserves.modify _ (fun s hs => hover s _ hs)) (fun _ => ?_)
      exact Preserves.ite _ (fun _ => Preserves.pure _) (fun _ => Preserves.bind hrandom
        (fun _ => Preserves.pure _))
    vrr_output := houtput
    overrun := fun _ _ => Preserves.modify _ (fun s hs => hover s _ hs)
    rt_remove_route := fun _ _ => Vrr.rt_remove_route_rule _ _ (fun s hs => hstores s _ _ hs)
    vset_add := fun _ _ => Vrr.vset_add_rule hdraws _ _ (fun s _ _ hs => hstores s _ _ hs)
    vset_remove := fun _ => Vrr.vset_remove_rule _ (fun s hs => hstores s _ _ hs) }

theorem alters_of_updates
    (hfreed : ∀ s, I s → I { s with released := s.released ++ [.allocated] }) : Alters T I := by
  refine alters_of_output hkern hover hstores (fun pkt hT => ?_)
  refine Preserves.bind (Preserves.modify _ (fun s hs => hsent s pkt hT hs)) (fun _ => ?_)
  exact Preserves.bind (Preserves.modify _ hfreed) (fun _ => Preserves.pure _)

theorem quiet_of_updates (hfreed : ∀ s skb, I s → I { s with released := s.released ++ [skb] })
    (hactive : ∀ s, I s → I { s with node := { s.node with active := 1 } }) : Quiet T I := by
  have hown := alters_of_updates hkern hover hsent hstores (fun s hs => hfreed s _ hs)
  exact {
    draws := hown.draws
    random := hown.random
    pset_get_proxy := hown.pset_get_proxy
    vrr_output := fun skb pkt hT => by
      refine Preserves.bind (Preserves.modify _ (fun s hs => hsent s pkt hT hs)) (fun _ => ?_)
      exact Preserves.bind (Preserves.modify _ (fun s hs => hfreed s skb hs))
        (fun _ => Preserves.pure _)
    kfree_skb := fun skb => Preserves.modify _ (fun s hs => hfreed s skb hs)
    overrun := hown.overrun
    rt_remove_route := hown.rt_remove_route
    vset_add := hown.vset_add
    vset_remove := hown.vset_remove
    activate := Preserves.modify _ hactive }

theorem routine_of_updates (hfreed : ∀ s skb, I s → I { s with released := s.released ++ [skb] })
    (hactive : ∀ s, I s → I { s with node := { s.node with active := 1 } })
    (hadded : ∀ s r, I s → I { s with added := s.added ++ [r] }) : Routine T I where
  toQuiet := quiet_of_updates hkern hover hsent hstores hfreed hactive
  rt_add_route := fun _ _ _ _ _ => Vrr.rt_add_route_rule
    (alters_of_updates hkern hover hsent hstores (fun s hs => hfreed s _ hs)).draws _ _ _ _ _
    (fun s _ _ hs => hadded _ _ (hstores s _ s.node.vset hs))

end Updates

/-- No operation touches the base, and the record of packets only grows. -/
theorem quiet_records {T : U8 → Prop} (P : Node → List Packet → List RtEntry → Prop)
    (hsent : ∀ n l added (p : Packet), T p.vh.pkt_type → P n l added → P n (l ++ [p]) added) :
    Quiet T (fun s => P s.base s.sent s.added) :=
  quiet_of_updates (fun _ _ hs => hs) (fun _ _ hs => hs) (fun _ _ hT hs => hsent _ _ _ _ hT hs)
    (fun _ _ _ hs => hs) (fun _ _ hs => hs) (fun _ hs => hs)

/-- And so does the record of routes added. -/
theorem routine_records {T : U8 → Prop} (P : Node → List Packet → List RtEntry → Prop)
    (hsent : ∀ n l added (p : Packet), T p.vh.pkt_type → P n l added → P n (l ++ [p]) added)
    (hadded : ∀ n sent l (r : RtEntry), P n sent l → P n sent (l ++ [r])) :
    Routine T (fun s => P s.base s.sent s.added) :=
  routine_of_updates (fun _ _ hs => hs) (fun _ _ hs => hs) (fun _ _ hT hs => hsent _ _ _ _ hT hs)
    (fun _ _ _ hs => hs) (fun _ _ hs => hs) (fun _ hs => hs) (fun _ _ hs => hadded _ _ _ _ hs)

theorem routine_sent {T : U8 → Prop} (P : Node → List Packet → Prop)
    (hsent : ∀ n l (p : Packet), T p.vh.pkt_type → P n l → P n (l ++ [p])) :
    Routine T (fun s => P s.base s.sent) :=
  routine_records (fun n l _ => P n l) (fun n l _ p => hsent n l p) (fun _ _ _ _ hs => hs)

theorem routine_base (P : Node → Prop) : Routine (fun _ => True) (fun s => P s.base) :=
  routine_sent (fun n _ => P n) (fun _ _ _ _ hs => hs)

/-- The two nodes differ in neither id, nor table, nor virtual set. -/
def Node.SameStores (n m : Node) : Prop := m.me = n.me ∧ m.rt = n.rt ∧ m.vset = n.vset

namespace SendsOwn

variable {T : U8 → Prop} {I : Sys → Prop} (h : SendsOwn T I)
  (hpset : ∀ s p ps l, I s →
    I { s with node := { s.node with pset := p, pstate := ps, pset_updates := l } })
  (hover : ∀ size n, Preserves I (Vrr.overrun .pstate size n))

include hpset hover in
theorem pset_state_update : Preserves I Vrr.pset_state_update :=
  Vrr.pset_state_update_triple (Triple.modify _ (fun s hs => hpset s _ _ _ hs)) hover

include hpset hover in
theorem detect_failures : Preserves I Vrr.detect_failures :=
  Vrr.detect_failures_confines (pset_state_update hpset hover)
    (fun _ => Preserves.modify _ (fun s hs => hpset s _ _ _ hs))

include h hpset hover

theorem pset_update_handler (hT : T VRR_SETUP_REQ) : Preserves I Vrr.pset_update_handler :=
  Vrr.pset_update_handler_confines (fun _ _ _ _ => Vrr.pset_add_triple
      (fun _ hs _ => hs) (h.draws.kmalloc 1) (Preserves.modify _ (fun s hs => hpset s _ _ _ hs))
      (Preserves.fault _))
    (fun _ _ _ => Preserves.modify _ (fun s hs => hpset s _ _ _ hs))
    (pset_state_update hpset hover)
    (h.send_setup_req hT) (fun _ => Preserves.modify _ (fun s hs => hpset s _ _ _ hs))

theorem vrr_workqueue_handler (hT : T VRR_HELLO) (hclock : Preserves I Vrr.active_timeout) :
    Preserves I Vrr.vrr_workqueue_handler := by
  unfold Vrr.vrr_workqueue_handler
  refine Preserves.bind (detect_failures hpset hover) (fun _ => Preserves.bind hclock (fun _ =>
    Preserves.then_pure ?_ ()))
  unfold Vrr.send_hpkt
  refine Preserves.bind (Preserves.gets _) (fun me => ?_)
  refine Preserves.bind (h.draws.kmalloc 1) (fun data => Preserves.ite _ (fun _ => ?_)
    (fun _ => Preserves.fault _))
  refine Preserves.bind (h.draws.kmalloc 1) (fun skb => Preserves.ite _ (fun _ => ?_)
    (fun _ => Preserves.pure _))
  exact Preserves.then_pure (h.vrr_output _ hT) 0

end SendsOwn

/-- What does not look beyond the stores. -/
theorem Sends.pset_update_handler {T : U8 → Prop} {I : Sys → Prop} (h : Sends T I)
    (hrest : ∀ s n, s.node.SameStores n → I s → I { s with node := n })
    (hover : ∀ size n, Preserves I (Vrr.overrun .pstate size n)) (hT : T VRR_SETUP_REQ) :
    Preserves I Vrr.pset_update_handler :=
  h.own.pset_update_handler (fun s _ _ _ hs => hrest s _ ⟨rfl, rfl, rfl⟩ hs) hover hT

theorem Sends.vrr_workqueue_handler {T : U8 → Prop} {I : Sys → Prop} (h : Sends T I)
    (hrest : ∀ s n, s.node.SameStores n → I s → I { s with node := n })
    (hover : ∀ size n, Preserves I (Vrr.overrun .pstate size n)) (hT : T VRR_HELLO) :
    Preserves I Vrr.vrr_workqueue_handler := by
  refine h.own.vrr_workqueue_handler (fun s _ _ _ hs => hrest s _ ⟨rfl, rfl, rfl⟩ hs) hover hT ?_
  refine Preserves.modify _ (fun s hs => hrest s _ ?_ hs)
  simp only
  split_ifs <;> exact ⟨rfl, rfl, rfl⟩

/-- What the three entry points and the sockets keep is kept by every event. -/
theorem event_preserves {I : Sys → Prop} (hrcv : ∀ skb, Preserves I (Vrr.vrr_rcv skb))
    (hupdate : Preserves I Vrr.pset_update_handler) (htick : Preserves I Vrr.vrr_workqueue_handler)
    (hsock : ∀ s socks, I s → I { s with node := { s.node with vrr_socks := socks } }) (e : Event) :
    Preserves I e.run := by
  cases e with
  | vrr_rcv skb => exact Preserves.then_pure (hrcv skb) ()
  | pset_update_handler => exact hupdate
  | vrr_workqueue_handler => exact htick
  | vrr_hash_sock sk => exact Preserves.modify _ (fun s hs => hsock s _ hs)
  | vrr_unhash_sock sk => exact Preserves.modify _ (fun s hs => hsock s _ hs)

/-- What an event that has come to its end did. A socket only changes the list of
    sockets. -/
theorem step_cases {I : Sys → Prop} {s t : Sys} {i : Event × Kernel} (hstep : Step s i t)
    (hrcv : ∀ skb r, i.1 = .vrr_rcv skb →
      Vrr.vrr_rcv skb { s with kern := i.2 } = .ok (r, t) → I t)
    (hupdate : i.1 = .pset_update_handler →
      Vrr.pset_update_handler { s with kern := i.2 } = .ok ((), t) → I t)
    (htick : i.1 = .vrr_workqueue_handler →
      Vrr.vrr_workqueue_handler { s with kern := i.2 } = .ok ((), t) → I t)
    (hsock : (∃ sk, i.1 = .vrr_hash_sock sk ∨ i.1 = .vrr_unhash_sock sk) → ∀ socks, I { s with
      node := { s.node with vrr_socks := socks }
      kern := i.2 }) : I t := by
  rcases i with ⟨e, k⟩
  have hset : (∃ sk, e = .vrr_hash_sock sk ∨ e = .vrr_unhash_sock sk) → ∀ f : VrrSocks → VrrSocks,
      Vrr.set_node (fun n => { n with vrr_socks := f n.vrr_socks }) { s with kern := k } =
        .ok ((), t) → I t := by
    intro he f hf
    have ht := (Triple.modify (P := fun u => u = { s with kern := k }) (U := fun _ => I)
      (E := fun _ : Fault => True) _ (fun u hu => by
        rw [hu]
        exact hsock he (f s.node.vrr_socks))).ok rfl hf
    exact ht
  -- only a reception has a result, and that is thrown away
  cases e with
  | vrr_rcv skb =>
      have hrun : (Vrr.vrr_rcv skb >>= fun _ => pure ()) { s with kern := k } = .ok ((), t) := hstep
      rw [bind_apply] at hrun
      cases hx : Vrr.vrr_rcv skb { s with kern := k } with
      | error e =>
          rw [hx] at hrun
          exact absurd hrun (by simp only [reduceCtorEq, not_false_eq_true])
      | ok p =>
          rw [hx] at hrun
          have hp : p.2 = t := congrArg Prod.snd (Except.ok.inj hrun)
          refine hrcv skb p.1 rfl ?_
          rw [← hp]
          exact hx
  | pset_update_handler => exact hupdate rfl hstep
  | vrr_workqueue_handler => exact htick rfl hstep
  | vrr_hash_sock sk => exact hset ⟨sk, Or.inl rfl⟩ (AlpacaVrr.vrr_hash_sock · sk) hstep
  | vrr_unhash_sock sk => exact hset ⟨sk, Or.inr rfl⟩ (AlpacaVrr.vrr_unhash_sock · sk) hstep

/-- And so by every run. -/
theorem reach_preserves {I : Sys → Prop} {s t : Sys} (hevent : ∀ e : Event, Preserves I e.run)
    (hkern : ∀ s k, I s → I { s with kern := k }) (h0 : I s) (hrun : Reach Step s t) : I t :=
  hrun.invariant I h0 (fun u i _ hu hstep => (hevent i.1).ok (hkern u i.2 hu) hstep)

/-- An assertion about the stores and the records that the operations keep is
    kept by every event. -/
theorem Routine.event {I : Sys → Prop} (h : Routine (fun _ => True) I)
    (hrest : ∀ s n, s.node.SameStores n → I s → I { s with node := n })
    (hover : ∀ size n, Preserves I (Vrr.overrun .pstate size n)) (e : Event) :
    Preserves I e.run := by
  refine event_preserves (fun skb => ?_) (h.pset_update_handler hrest hover trivial)
    (h.vrr_workqueue_handler hrest hover trivial) (fun s _ hs => hrest s _ ⟨rfl, rfl, rfl⟩ hs) e
  refine h.handles.vrr_rcv skb (fun s hs => hrest s _ ⟨rfl, rfl, rfl⟩ hs) (fun hty => ?_)
  exact h.vrr_rcvfunc_of_all skb hty (fun _ => h.draws.vrr_rcv_hello skb (fun _ hs => hs)
    (fun tmp _ _ => Preserves.modify _ (fun s hs => hrest s _ ⟨rfl, rfl, rfl⟩ hs)))

/-- What is in one of the records stays there. -/
theorem records_grow {s t : Sys} {i : Event × Kernel} (h : Step s i t) :
    (∀ p ∈ s.sent, p ∈ t.sent) ∧ ∀ r ∈ s.added, r ∈ t.added := by
  have hgrow : ∀ (sent : List Packet → Prop) (added : List RtEntry → Prop),
      (∀ l p, sent l → sent (l ++ [p])) → (∀ l r, added l → added (l ++ [r])) →
      sent s.sent ∧ added s.added → sent t.sent ∧ added t.added := by
    intro sent added hsent hadded hs
    exact ((routine_records (fun _ l r => sent l ∧ added r)
      (fun _ _ _ _ _ hs => ⟨hsent _ _ hs.1, hs.2⟩)
      (fun _ _ _ _ hs => ⟨hs.1, hadded _ _ hs.2⟩)).event (fun _ _ _ hs => hs)
      (fun _ _ => Preserves.modify _ (fun _ hs => hs)) i.1).ok (s := { s with kern := i.2 }) hs h
  refine ⟨fun p hp => ?_, fun r hr => ?_⟩
  · exact (hgrow (p ∈ ·) (fun _ => True) (fun _ _ hl => List.mem_append_left _ hl)
      (fun _ _ _ => trivial) ⟨hp, trivial⟩).1
  · exact (hgrow (fun _ => True) (r ∈ ·) (fun _ _ _ => trivial)
      (fun _ _ hl => List.mem_append_left _ hl) ⟨trivial, hr⟩).2

/-- Nor in a network. -/
theorem Ether.records_grow {arrives : Ether → U32 → SkBuff → Prop} {net net' : Ether}
    {i : U32 × Event × Kernel} (h : Ether.Step arrives net i net') (x : U32) :
    (∀ p, net.Emitted x p → net'.Emitted x p) ∧
      ∀ r ∈ (net.sys x).added, r ∈ (net'.sys x).added := by
  rcases h with ⟨_, t, ht, rfl⟩
  unfold Ether.Emitted
  simp only
  by_cases hx : x = i.1
  · rw [hx, Function.update_self]
    exact AlpacaVrr.records_grow ht
  · rw [Function.update_of_ne hx]
    exact ⟨fun _ hp => hp, fun _ hr => hr⟩

end AlpacaVrr
