import AlpacaVrr.Core.Input

/-!
# What a Function Leaves Alone

Frame lemmas for the functions of the module.

Four views of the state do. Reading and drawing leave everything `visible`
as it was. Sending also extends the record of packets, and picking a proxy may
run past its array, but both are `still`: they change neither the node nor the
record of writes past a vset buffer. `vrr_add` changes the virtual set and
otherwise leaves the node alone, so it keeps `routing`. A hello only queues an
update, and refreshing the cached lists only changes these, so both leave the
node `settled`.

A property of one of these views is then an invariant of every function that
keeps it, by `Keeps.preserves`, with no look at the function.

The handlers read a packet and allocate between the steps that matter. An
assertion that `Draws` says so of is carried past all that, and the two
stretches of a handler that do nothing else have a rule each. So have the
dispatch to the handlers and what `vrr_rcv` does around it, and the loop that
deletes from the list it walks.

## Main definitions

* `Sys.visible`, `Sys.still`, `Sys.routing`, `Sys.settled`: The views.
* `Draws`: Reading and allocating keep an assertion.
* `heard`: A node as `vrr_rcv` hands it to a handler.
* `counted`: An entry after a tick, or none.

## Theorems

* `kmalloc_visible` and so on: Reading and drawing change nothing visible.
* `send_vset_still` and so on: Sending leaves the node alone.
* `vrr_add_routing`: `vrr_add` changes nothing but the virtual set.
* `Draws.received_vset`, `Draws.vrr_rcv_hello`: The rules for a vset received
  and for a hello.
* `vrr_rcv_hello_settled`, `pset_state_update_settled`: What a hello leaves
  alone.
* `pset_add_triple`, `pset_state_update_triple`: What the steps of a hello ask of
  an assertion.
* `vrr_rcvfunc_triple`, `vrr_rcv_triple`: From the handlers to `vrr_rcv`.
* `detect_failures_triple`, `detect_failures_confines`: The rules for the loop of
  the timer.
* `pset_update_handler_confines`: The rule for the deferred updates.
-/

namespace AlpacaVrr

open FaultState

namespace Sys

/-- All of the state but the kernel's supplies and the record of the routes
    added. -/
def visible (s : Sys) : Node × List Packet × List SkbRef × List Overrun :=
  (s.node, s.sent, s.released, s.overruns)

/-- The writes past a vset buffer. -/
def vset_overruns (s : Sys) : List Overrun := s.overruns.filter (fun o => o.buffer = .vset)

/-- The node, and the writes past a vset buffer. -/
def still (s : Sys) : Node × List Overrun := (s.node, s.vset_overruns)

/-- The node without its virtual set, and the writes past a vset buffer. -/
def routing (s : Sys) : Node × List Overrun :=
  ({ s.node with vset := Vset.init }, s.vset_overruns)

/-- The node without the cached lists and the updates that are queued, and the
    packets sent. -/
def settled (s : Sys) : Node × List Packet :=
  ({ s.node with pstate := PsetState.init (fun _ => 0) (fun _ => 0), pset_updates := [] }, s.sent)

end Sys

namespace Vrr

/-- What is visible includes what is still. -/
theorem still_of_visible {α : Type} {x : Vrr α} (h : Keeps Sys.visible x) : Keeps Sys.still x :=
  h.part (fun v : Node × List Packet × List SkbRef × List Overrun =>
    (v.1, v.2.2.2.filter (fun o : Overrun => decide (o.buffer = Buffer.vset))))

/-- What is still includes the routing state. -/
theorem routing_of_still {α : Type} {x : Vrr α} (h : Keeps Sys.still x) : Keeps Sys.routing x :=
  h.part (fun v => ({ v.1 with vset := Vset.init }, v.2))

theorem settled_of_visible {α : Type} {x : Vrr α} (h : Keeps Sys.visible x) :
    Keeps Sys.settled x :=
  h.part (fun v : Node × List Packet × List SkbRef × List Overrun =>
    ({ v.1 with pstate := PsetState.init (fun _ => 0) (fun _ => 0), pset_updates := [] }, v.2.1))

theorem node_of_still {α : Type} {x : Vrr α} (h : Keeps Sys.still x) : Keeps Sys.node x :=
  h.part Prod.fst

theorem draw_visible {α : Type} (f : Kernel → α × Kernel) : Keeps Sys.visible (draw f) :=
  fun _ _ hs => hs

theorem kmalloc_visible (size : Nat) : Keeps Sys.visible (kmalloc size) :=
  Keeps.ite _ (fun _ => Keeps.pure _) (fun _ => draw_visible _)

theorem random_visible : Keeps Sys.visible random := draw_visible _

theorem uninit_visible : Keeps Sys.visible uninit := draw_visible _

theorem node_visible : Keeps Sys.visible node := Keeps.gets _

theorem rt_alloc_visible : Keeps Sys.visible rt_alloc := by
  unfold rt_alloc
  refine Keeps.bind (kmalloc_visible 1) (fun _ => Keeps.bind (kmalloc_visible 1) (fun _ => ?_))
  exact Keeps.bind (kmalloc_visible 1) (fun _ => Keeps.bind (kmalloc_visible 1) (fun _ =>
    Keeps.pure _))

theorem rt_get_next_visible (dest : U32) : Keeps Sys.visible (rt_get_next dest) :=
  Keeps.bind node_visible (fun _ => Keeps.pure _)

theorem rt_get_next_exclude_visible (dest src : U32) :
    Keeps Sys.visible (rt_get_next_exclude dest src) :=
  Keeps.bind node_visible (fun _ => Keeps.pure _)

theorem vset_should_add_visible (id : U32) : Keeps Sys.visible (vset_should_add id) :=
  Keeps.bind node_visible (fun _ => Keeps.bind uninit_visible (fun _ =>
    Keeps.bind uninit_visible (fun _ => Keeps.pure _)))

theorem vset_get_all_visible : Keeps Sys.visible vset_get_all := by
  unfold vset_get_all
  refine Keeps.bind node_visible (fun me => Keeps.bind (kmalloc_visible _) (fun _ => ?_))
  refine Keeps.bind uninit_visible (fun _ => Keeps.ite _ (fun _ => Keeps.pure _) (fun _ => ?_))
  exact Keeps.ite _ (fun _ => Keeps.pure _) (fun _ => Keeps.fault _)

theorem tear_down_vset_visible (sender : U32) : Keeps Sys.visible (tear_down_vset sender) :=
  Keeps.ite _ (fun _ => vset_get_all_visible) (fun _ => Keeps.pure _)

theorem read_vset_visible (vset_size : Nat) (vset : Option (List U32)) :
    Keeps Sys.visible (read_vset vset_size vset) := by
  unfold read_vset
  refine Keeps.ite _ (fun _ => Keeps.pure _) (fun _ => ?_)
  cases vset with
  | none => exact Keeps.fault _
  | some ids => exact Keeps.pure _

theorem next_hop_via_visible (dst proxy : U32) : Keeps Sys.visible (next_hop_via dst proxy) :=
  Keeps.bind node_visible (fun _ =>
    Keeps.ite _ (fun _ => rt_get_next_visible proxy) (fun _ => Keeps.pure _))

theorem setup_next_hop_visible (dst proxy : U32) :
    Keeps Sys.visible (setup_next_hop dst proxy) := by
  unfold setup_next_hop
  refine Keeps.bind node_visible (fun me => Keeps.ite _ (fun _ => ?_) (fun _ => Keeps.pure _))
  exact Keeps.ite _ (fun _ => Keeps.pure _) (fun _ => rt_get_next_visible proxy)

/-- Writes past other arrays than a vset buffer are not recorded there. -/
theorem overrun_still (b : Buffer) (hb : b ≠ .vset) (size n : Nat) :
    Keeps Sys.still (overrun b size n) := by
  refine Keeps.modify _ (fun s => ?_)
  have hnone : ((List.range (n - size)).map (fun i => (⟨b, size + i⟩ : Overrun))).filter
      (fun o => o.buffer = .vset) = [] := by
    rw [List.filter_eq_nil_iff]
    intro o ho
    rcases List.mem_map.mp ho with ⟨i, _, rfl⟩
    simp only [decide_eq_true_eq, hb, not_false_eq_true]
  simp only [Sys.still, Sys.vset_overruns, List.filter_append, hnone, List.append_nil]

theorem kfree_skb_still (skb : SkbRef) : Keeps Sys.still (kfree_skb skb) :=
  Keeps.modify _ (fun _ => rfl)

theorem vrr_output_still (skb : SkbRef) (pkt : Packet) : Keeps Sys.still (vrr_output skb pkt) :=
  Keeps.bind (Keeps.modify _ (fun _ => rfl)) (fun _ =>
    Keeps.bind (kfree_skb_still skb) (fun _ => Keeps.pure _))

theorem vrr_forward_still (pkt : Packet) : Keeps Sys.still (vrr_forward pkt) := by
  unfold vrr_forward
  refine Keeps.bind (still_of_visible (rt_get_next_visible _)) (fun nh => ?_)
  refine Keeps.bind (Keeps.gets _) (fun me => Keeps.ite _ (fun _ => Keeps.pure _) (fun _ => ?_))
  cases pset_get_mac me.pset nh with
  | none => exact Keeps.pure _
  | some mac => exact vrr_output_still _ _

theorem vrr_forward_setup_req_still (pkt : Packet) (nh : U32) :
    Keeps Sys.still (vrr_forward_setup_req pkt nh) := by
  unfold vrr_forward_setup_req
  refine Keeps.bind (Keeps.gets _) (fun me => ?_)
  cases pset_get_mac me.pset nh with
  | none => exact Keeps.pure _
  | some mac => exact vrr_output_still _ _

theorem send_vset_still (pkt_type : U8) (src dst : U32) (data : List U32) (vset_size : Nat)
    (vset : Option (List U32)) (hop : U32) :
    Keeps Sys.still (send_vset pkt_type src dst data vset_size vset hop) := by
  unfold send_vset
  refine Keeps.bind (Keeps.gets _) (fun me => ?_)
  cases pset_get_mac me.pset hop with
  | none => exact Keeps.pure _
  | some mac =>
      refine Keeps.bind (still_of_visible (read_vset_visible _ _)) (fun ids => ?_)
      refine Keeps.bind (still_of_visible (kmalloc_visible 1)) (fun skb => ?_)
      exact Keeps.ite _ (fun _ => vrr_output_still _ _) (fun _ => Keeps.pure _)

theorem send_setup_still (src dest path_id proxy : U32) (vset_size : Nat)
    (vset : Option (List U32)) (hop : U32) :
    Keeps Sys.still (send_setup src dest path_id proxy vset_size vset hop) :=
  send_vset_still _ _ _ _ _ _ _

theorem send_setup_fail_still (src dst proxy : U32) (vset_size : Nat)
    (vset : Option (List U32)) (hop : U32) :
    Keeps Sys.still (send_setup_fail src dst proxy vset_size vset hop) :=
  send_vset_still _ _ _ _ _ _ _

theorem send_teardown_still (path_id endpoint : U32) (vset : Option (List U32))
    (vset_size : Nat) (hop : U32) :
    Keeps Sys.still (send_teardown path_id endpoint vset vset_size hop) :=
  Keeps.bind (Keeps.gets _) (fun _ => send_vset_still _ _ _ _ _ _ _)

theorem send_setup_req_still (src dest proxy : U32) :
    Keeps Sys.still (send_setup_req src dest proxy) := by
  unfold send_setup_req
  refine Keeps.bind (Keeps.gets _) (fun me => ?_)
  refine Keeps.bind (still_of_visible uninit_visible) (fun stack => ?_)
  refine Keeps.bind (still_of_visible vset_get_all_visible) (fun r => ?_)
  refine Keeps.bind (still_of_visible (kmalloc_visible 1)) (fun data => ?_)
  refine Keeps.ite _ (fun _ => ?_) (fun _ => Keeps.fault _)
  refine Keeps.bind (still_of_visible (read_vset_visible _ _)) (fun ids => ?_)
  refine Keeps.bind (still_of_visible (kmalloc_visible 1)) (fun skb => ?_)
  exact Keeps.ite _ (fun _ => Keeps.bind (vrr_output_still _ _) (fun _ => Keeps.pure _))
    (fun _ => Keeps.pure _)

theorem send_hpkt_still : Keeps Sys.still send_hpkt := by
  unfold send_hpkt
  refine Keeps.bind (Keeps.gets _) (fun me => ?_)
  refine Keeps.bind (still_of_visible (kmalloc_visible 1)) (fun data => ?_)
  refine Keeps.ite _ (fun _ => ?_) (fun _ => Keeps.fault _)
  refine Keeps.bind (still_of_visible (kmalloc_visible 1)) (fun skb => ?_)
  exact Keeps.ite _ (fun _ => Keeps.bind (vrr_output_still _ _) (fun _ => Keeps.pure _))
    (fun _ => Keeps.pure _)

theorem pset_get_proxy_still : Keeps Sys.still pset_get_proxy := by
  unfold pset_get_proxy
  refine Keeps.bind (Keeps.gets _) (fun me => ?_)
  refine Keeps.bind (overrun_still .proxies (by decide) _ _) (fun _ => ?_)
  exact Keeps.ite _ (fun _ => Keeps.pure _)
    (fun _ => Keeps.bind (still_of_visible random_visible) (fun _ => Keeps.pure _))

theorem vrr_add_request_still (id : U32) : Keeps Sys.still (vrr_add_request id) := by
  unfold vrr_add_request
  refine Keeps.bind (Keeps.gets _) (fun me => ?_)
  refine Keeps.bind (still_of_visible (vset_should_add_visible id)) (fun should => ?_)
  refine Keeps.ite _ (fun _ => ?_) (fun _ => Keeps.pure _)
  refine Keeps.bind pset_get_proxy_still (fun ret => ?_)
  cases ret with
  | none => exact Keeps.pure _
  | some proxy => exact Keeps.bind (send_setup_req_still _ _ _) (fun _ => Keeps.pure _)

theorem tear_down_hop_still (path_id endpoint sender hop : U32) :
    Keeps Sys.still (tear_down_hop path_id endpoint sender hop) := by
  unfold tear_down_hop
  refine Keeps.bind (Keeps.gets _) (fun me => Keeps.ite _ (fun _ => ?_) (fun _ => Keeps.pure _))
  exact Keeps.bind (still_of_visible (tear_down_vset_visible sender)) (fun r =>
    Keeps.bind (send_teardown_still _ _ _ _ _) (fun _ => Keeps.pure _))

theorem vset_add_routing (id rem : U32) : Keeps Sys.routing (vset_add id rem) := by
  unfold vset_add
  refine Keeps.bind (Keeps.gets _) (fun me => Keeps.ite _ (fun _ => Keeps.pure _) (fun _ => ?_))
  refine Keeps.bind (routing_of_still (still_of_visible (kmalloc_visible 1))) (fun tmp => ?_)
  refine Keeps.ite _ (fun _ => ?_) (fun _ => Keeps.fault _)
  refine Keeps.bind (routing_of_still (still_of_visible uninit_visible)) (fun left => ?_)
  refine Keeps.bind (routing_of_still (still_of_visible uninit_visible)) (fun right => ?_)
  exact Keeps.bind (Keeps.modify _ (fun _ => rfl)) (fun _ => Keeps.pure _)

theorem vset_remove_routing (id : U32) : Keeps Sys.routing (vset_remove id) :=
  Keeps.bind (Keeps.gets _) (fun _ => Keeps.bind (Keeps.modify _ (fun _ => rfl)) (fun _ =>
    Keeps.pure _))

/-- The loop of `vrr_add` only sends. -/
theorem vrr_add_requests_still (vset : List U32) :
    Keeps Sys.still (vset.forM vrr_add_request) :=
  Keeps.forM vset vrr_add_request (fun id _ => vrr_add_request_still id)

theorem vrr_add_routing (src : U32) (vset : List U32) : Keeps Sys.routing (vrr_add src vset) := by
  unfold vrr_add
  refine Keeps.bind (routing_of_still (vrr_add_requests_still vset)) (fun _ => ?_)
  refine Keeps.ite _ (fun _ => Keeps.pure _) (fun _ => ?_)
  refine Keeps.bind (routing_of_still (still_of_visible (vset_should_add_visible src)))
    (fun should => ?_)
  exact Keeps.ite _ (fun _ => Keeps.bind (vset_add_routing src 0) (fun _ => Keeps.pure _))
    (fun _ => Keeps.pure _)

/-- Without a source to add, `vrr_add` only sends. -/
theorem vrr_add_none_still (vset : List U32) : Keeps Sys.still (vrr_add UINT_MAX vset) := by
  unfold vrr_add
  refine Keeps.bind (vrr_add_requests_still vset) (fun _ => ?_)
  rw [if_pos rfl]
  exact Keeps.pure _

theorem vrr_local_rcv_setup_fail_still (dst proxy : U32) (vset_size : Nat)
    (vset : Option (List U32)) :
    Keeps Sys.still (vrr_local_rcv_setup_fail dst proxy vset_size vset) := by
  unfold vrr_local_rcv_setup_fail
  refine Keeps.bind (Keeps.gets _) (fun me => ?_)
  refine Keeps.bind (still_of_visible (kmalloc_visible _)) (fun ovset => ?_)
  refine Keeps.bind (still_of_visible (next_hop_via_visible _ _)) (fun nh => ?_)
  refine Keeps.ite _ (fun _ => Keeps.ite _ (fun _ => Keeps.fault _) (fun _ => ?_))
    (fun _ => Keeps.fault _)
  refine Keeps.bind (vrr_add_none_still _) (fun _ => Keeps.ite _ (fun _ => ?_)
    (fun _ => Keeps.pure _))
  exact Keeps.bind (send_setup_fail_still _ _ _ _ _ _) (fun _ => Keeps.pure _)

theorem vrr_rcv_data_still (skb : SkBuff) : Keeps Sys.still (vrr_rcv_data skb) := by
  unfold vrr_rcv_data
  refine Keeps.bind (Keeps.gets _) (fun me => Keeps.ite _ (fun _ => ?_) (fun _ => ?_))
  · cases vrr_find_sock me.vrr_socks skb.pkt.src with
    | none => exact Keeps.pure _
    | some sk =>
        exact Keeps.bind (Keeps.gets _) (fun ret => Keeps.bind (kfree_skb_still _)
          (fun _ => Keeps.pure _))
  · exact Keeps.bind (vrr_forward_still _) (fun _ => Keeps.pure _)

end Vrr

/-- The node as `vrr_rcv` hands it to a handler. -/
def heard (me : Node) (src : U32) : Node :=
  { me with timeout := 0, pset := pset_reset_fail_count me.pset src }

/-- Reading the fields of a packet and allocating keep `I`, and stop at no
    other faults than those of `E`. -/
structure Draws (I : Sys → Prop) (E : Fault → Prop) : Prop where
  uninit : Confines I E Vrr.uninit
  kmalloc : ∀ size, Confines I E (Vrr.kmalloc size)

/-- What only looks at the visible part of the state is kept. -/
theorem draws_of_visible {I : Sys → Prop}
    (hI : ∀ {α : Type} (x : Vrr α), Keeps Sys.visible x → Preserves I x) :
    Draws I (fun _ => True) :=
  ⟨hI _ Vrr.uninit_visible, fun size => hI _ (Vrr.kmalloc_visible size)⟩

/-- So is what does not look at the kernel. -/
theorem draws_of_kern {I : Sys → Prop} (hkern : ∀ s k, I s → I { s with kern := k }) :
    Draws I (fun _ => True) :=
  ⟨fun s hs => hkern s _ hs, fun _ => Preserves.ite _ (fun _ => Preserves.pure _)
    (fun _ s hs => hkern s _ hs)⟩

namespace Draws

variable {I : Sys → Prop} {R : Int → Sys → Prop} {E : Fault → Prop}

theorem rt_alloc (h : Draws I E) : Confines I E Vrr.rt_alloc := by
  unfold Vrr.rt_alloc
  refine Confines.bind (h.kmalloc 1) (fun _ => Confines.bind (h.kmalloc 1) (fun _ => ?_))
  exact Confines.bind (h.kmalloc 1) (fun _ => Confines.bind (h.kmalloc 1)
    (fun _ => Confines.pure _))

theorem read_u32 (h : Draws I E) (p : Packet) (offset : Nat) :
    Confines I E (Vrr.read_u32 p offset) := by
  unfold Vrr.read_u32
  cases word p offset with
  | none => exact Confines.bind h.uninit (fun _ => Confines.pure _)
  | some w => exact Confines.pure _

theorem read_array (h : Draws I E) (p : Packet) (offset n : Nat) :
    Confines I E (Vrr.read_array p offset n) := by
  unfold Vrr.read_array
  cases words p offset n with
  | none => exact Confines.bind h.uninit (fun _ => Confines.pure _)
  | some ws => exact Confines.pure _

/-- A vset received. The handler rejects a size out of range and a failed
    allocation, and what it does with the vset is up to `k`. -/
theorem received_vset (h : Draws I E) (p : Packet) (offset room : Nat) (vset_size : U32)
    (k : List U32 → Vrr Int) (hreject : ∀ s, I s → R (-1) s)
    (hk : vset_size.toNat ≤ VRR_VSET_SIZE → ∀ vset, Triple I (k vset) R E) :
    Triple I (if VRR_VSET_SIZE < vset_size.toNat then pure (-1) else do
      let buffer ← Vrr.kmalloc room
      if buffer then do
        let vset ← Vrr.read_array p offset vset_size.toNat
        k vset
      else pure (-1)) R E := by
  refine Triple.ite _ (fun _ => Triple.pure _ hreject) (fun hsize => ?_)
  refine Triple.bind (h.kmalloc room) (fun buffer => ?_)
  refine Triple.ite _ (fun _ => ?_) (fun _ => Triple.pure _ hreject)
  exact Triple.bind (h.read_array p offset _) (fun vset => hk (Nat.le_of_not_lt hsize) vset)

/-- A hello. It is rejected for one of its three sizes or for want of memory,
    and otherwise it queues an update. -/
theorem vrr_rcv_hello (h : Draws I E) (skb : SkBuff) (hreject : ∀ s, I s → R (-1) s)
    (hqueue : ∀ tmp : PsetUpdate, tmp.node = skb.pkt.src → tmp.mac = skb.h_source → Triple I
      (Vrr.set_node (fun n => { n with pset_updates := n.pset_updates ++ [tmp] }))
      (fun _ => R 0) E) :
    Triple I (Vrr.vrr_rcv_hello skb) R E := by
  have hrejected : Triple I (pure (-1) : Vrr Int) R E := Triple.pure _ hreject
  unfold Vrr.vrr_rcv_hello
  refine Triple.bind (Confines.gets _) (fun me => ?_)
  refine Triple.bind (h.read_u32 _ _) (fun active => ?_)
  -- each size is checked before the next one is read
  refine Triple.bind (h.read_u32 _ _) (fun la_size => ?_)
  refine Triple.ite _ (fun _ => hrejected) (fun _ => ?_)
  refine Triple.bind (h.read_u32 _ _) (fun lna_size => ?_)
  refine Triple.ite _ (fun _ => hrejected) (fun _ => ?_)
  refine Triple.bind (h.read_u32 _ _) (fun p_size => ?_)
  refine Triple.ite _ (fun _ => hrejected) (fun _ => ?_)
  refine Triple.bind (h.read_array _ _ _) (fun la => ?_)
  refine Triple.bind (h.read_array _ _ _) (fun lna => ?_)
  refine Triple.bind (h.read_array _ _ _) (fun p => ?_)
  refine Triple.bind (h.kmalloc _) (fun update => Triple.ite _ (fun _ => ?_) (fun _ => hrejected))
  exact Triple.bind (hqueue _ rfl rfl) (fun _ => Triple.pure _ (fun s hs => hs))

end Draws

namespace Vrr

theorem vrr_rcv_hello_settled (skb : SkBuff) : Keeps Sys.settled (vrr_rcv_hello skb) := by
  intro c
  have hdraws : Draws (fun s => s.settled = c) (fun _ => True) :=
    draws_of_visible (fun x hx => settled_of_visible hx c)
  exact hdraws.vrr_rcv_hello skb (fun s hs => hs)
    (fun tmp _ _ => Triple.modify _ (fun s hs => hs))

/-- The lists are refilled. What is then true must survive the record of the
    writes past them. -/
theorem pset_state_update_triple {P Q : Sys → Prop} {E : Fault → Prop}
    (hfill : Triple P (set_node (fun n => { n with
      pstate := AlpacaVrr.pset_state_update n.pstate n.pset })) (fun _ => Q) E)
    (hover : ∀ size i, Confines Q E (overrun .pstate size i)) :
    Triple P pset_state_update (fun _ => Q) E := by
  unfold pset_state_update
  refine Triple.bind hfill (fun _ => Confines.bind (Confines.gets _) (fun me => ?_))
  exact Confines.bind (hover _ _) (fun _ => Confines.bind (hover _ _) (fun _ => hover _ _))

/-- An id that is there already is not added. The allocation of a new entry is
    not looked at. -/
theorem pset_add_triple {P Q : Sys → Prop} {M : Bool → Sys → Prop} {E : Fault → Prop}
    {id : U32} {mac : MacAddr} {status : PsetStatus} {active : U32}
    (hpresent : ∀ s, P s →
      AlpacaVrr.pset_add s.node.pset id mac status active = s.node.pset → Q s)
    (hkmalloc : Triple P (kmalloc 1) M E)
    (hset : Triple (M true) (set_node (fun n => { n with
      pset := AlpacaVrr.pset_add n.pset id mac status active })) (fun _ => Q) E)
    (hnull : Triple (M false) (fault .nullAlloc : Vrr Unit) (fun _ => Q) E) :
    Triple P (pset_add id mac status active) (fun _ => Q) E := by
  unfold pset_add
  refine Triple.bind (Q := fun me s => P s ∧ s.node = me) (Triple.gets _ (fun s hs => ⟨hs, rfl⟩))
    (fun me => Triple.ite _ (fun hin => Triple.pure _ (fun s hs => ?_)) (fun _ => ?_))
  · rw [← hs.2] at hin
    exact hpresent s hs.1 (if_pos hin)
  · refine Triple.bind (hkmalloc.pre (fun s hs => hs.1)) (fun tmp => ?_)
    cases tmp with
    | true => exact hset
    | false => exact hnull

theorem pset_state_update_settled : Keeps Sys.settled pset_state_update :=
  fun _ => pset_state_update_triple (Triple.modify _ (fun _ hs => hs))
    (fun _ _ => Preserves.modify _ (fun _ hs => hs))

section Dispatch

variable {P I Q : Sys → Prop} {R J : Int → Sys → Prop} {E : Fault → Prop} (skb : SkBuff)

/-- What is shown of each handler holds of the dispatch. -/
theorem vrr_rcvfunc_triple (hty : skb.pkt.vh.pkt_type < VRR_NPTYPES)
    (hdata : skb.pkt.vh.pkt_type = VRR_DATA → Triple P (vrr_rcv_data skb) R E)
    (hhello : skb.pkt.vh.pkt_type = VRR_HELLO → Triple P (vrr_rcv_hello skb) R E)
    (hsetup_req : skb.pkt.vh.pkt_type = VRR_SETUP_REQ → Triple P (vrr_rcv_setup_req skb) R E)
    (hsetup : skb.pkt.vh.pkt_type = VRR_SETUP → Triple P (vrr_rcv_setup skb) R E)
    (hsetup_fail : skb.pkt.vh.pkt_type = VRR_SETUP_FAIL → Triple P (vrr_rcv_setup_fail skb) R E)
    (hteardown : skb.pkt.vh.pkt_type = VRR_TEARDOWN → Triple P (vrr_rcv_teardown skb) R E) :
    Triple P (vrr_rcvfunc skb) R E := by
  unfold vrr_rcvfunc
  refine Triple.ite _ hdata (fun h0 => Triple.ite _ hhello (fun h1 => ?_))
  refine Triple.ite _ hsetup_req (fun h2 => Triple.ite _ hsetup (fun h3 => ?_))
  exact Triple.ite _ hsetup_fail (fun h4 => hteardown (eq_teardown _ hty h0 h1 h2 h3 h4))

/-- A packet of no known type is dropped. Another one is counted as a sign of
    life and handled, and the buffer of one that is rejected is released. -/
theorem vrr_rcv_triple
    (hdrop : VRR_NPTYPES ≤ skb.pkt.vh.pkt_type → Triple P (kfree_skb .received) (fun _ => Q) E)
    (hheard : ∀ s, P s → I { s with node := heard s.node skb.pkt.src })
    (hfunc : skb.pkt.vh.pkt_type < VRR_NPTYPES → Triple I (vrr_rcvfunc skb) J E)
    (herr : ∀ err, err ≠ 0 → Triple (J err) (kfree_skb .received) (fun _ => Q) E)
    (hok : ∀ s, J 0 s → Q s) :
    Triple P (vrr_rcv skb) (fun _ => Q) E := by
  unfold vrr_rcv
  refine Triple.ite _ (fun hge => ?_) (fun hlt => ?_)
  · exact Triple.bind (hdrop hge) (fun _ => Triple.pure _ (fun _ hs => hs))
  refine Triple.bind (Q := fun _ => I) (Triple.modify _ hheard) (fun _ => ?_)
  refine Triple.bind (hfunc (BitVec.not_le.mp hlt)) (fun err => ?_)
  refine Triple.ite _ (fun hne => ?_) (fun h0 => ?_)
  · exact Triple.bind (herr err hne) (fun _ => Triple.pure _ (fun _ hs => hs))
  · rw [not_not.mp h0]
    exact Triple.pure _ hok

end Dispatch

end Vrr

/-- What is left of an entry after a tick. -/
def counted (tmp : PsetEntry) : Option PsetEntry :=
  if 2 * VRR_FAIL_TIMEOUT ≤ (Vrr.fail_entry tmp).1.fail_count then none
  else some (Vrr.fail_entry tmp).1

namespace Vrr

section Ticks

variable {I : Pset → Sys → Prop} {E : Fault → Prop}
  (hround : ∀ done tmp pos, Triple (I (done ++ tmp :: pos)) (detect_failure done tmp pos)
    (fun _ => I (done ++ (fail_entry tmp).1 :: pos)) E)
  (hdelete : ∀ done tmp pos, 2 * VRR_FAIL_TIMEOUT ≤ (fail_entry tmp).1.fail_count →
    Triple (I (done ++ (fail_entry tmp).1 :: pos))
      (set_node (fun n => { n with pset := done ++ pos })) (fun _ => I (done ++ pos)) E)

include hround hdelete

/-- A rule for the loop of the timer. The assertion goes along with the set. The
    induction is on the entries still to come. -/
theorem detect_failures_from_triple (done pos : Pset) :
    Triple (I (done ++ pos)) (detect_failures_from done pos)
      (fun _ => I (done ++ pos.filterMap counted)) E := by
  induction pos generalizing done with
  | nil => exact Triple.pure _ (fun s hs => hs)
  | cons tmp pos ih =>
      unfold detect_failures_from
      refine Triple.bind (hround done tmp pos)
        (fun _ => Triple.ite _ (fun hdue => ?_) (fun hnot => ?_))
      · -- due, and so deleted
        have hgone : counted tmp = none := if_pos hdue
        rw [List.filterMap_cons_none hgone]
        exact Triple.bind (hdelete done tmp pos hdue) (fun _ => ih done)
      · -- not due yet: it joins the entries that have been seen
        have hstays : counted tmp = some (fail_entry tmp).1 := if_neg hnot
        rw [List.filterMap_cons_some hstays, List.append_cons done _ pos,
          List.append_cons done _ (pos.filterMap counted)]
        exact ih (done ++ [(fail_entry tmp).1])

/-- A tick counts every entry of the set that the assertion is about. -/
theorem detect_failures_triple (hset : ∀ p s, I p s → s.node.pset = p) (p : Pset) :
    Triple (I p) detect_failures (fun _ => I (p.filterMap counted)) E := by
  unfold detect_failures
  refine Triple.bind (Q := fun me s => I p s ∧ me.pset = p)
    (Triple.gets _ (fun s hs => ⟨hs, hset p s hs⟩)) (fun me => Triple.of_and (fun hme => ?_))
  rw [hme]
  exact detect_failures_from_triple hround hdelete [] p

end Ticks

section Ticks

variable {I : Sys → Prop} {E : Fault → Prop}

/-- An assertion that does not speak of the physical set. -/
theorem detect_failures_confines (hrefresh : Confines I E pset_state_update)
    (hset : ∀ f : Node → Pset, Confines I E (set_node (fun n => { n with pset := f n }))) :
    Confines I E detect_failures := by
  refine Confines.bind (Confines.gets _) (fun me => ?_)
  refine detect_failures_from_triple (I := fun _ => I) (fun done tmp pos => ?_)
    (fun done tmp pos _ => hset _) [] me.pset
  exact Confines.bind (hset _) (fun _ => Confines.ite _ (fun _ => hrefresh)
    (fun _ => Confines.pure _))

end Ticks

section Rounds

variable {I : Sys → Prop} {E : Fault → Prop}
  (hadd : ∀ id mac status active, Confines I E (pset_add id mac status active))
  (hedit : ∀ id status active, Confines I E
    (set_node (fun n => { n with pset := pset_update_status n.pset id status active })))
  (hrefresh : Confines I E pset_state_update)
  (hjoin : ∀ src dst proxy, Confines I E (send_setup_req src dst proxy))
  (hqueue : ∀ f : Node → List PsetUpdate,
    Confines I E (set_node (fun n => { n with pset_updates := f n })))

include hadd hedit hrefresh hjoin hqueue

/-- A round of the handler adds an entry or edits one, and asks for a place. -/
theorem pset_update_confines (tmp : PsetUpdate) : Confines I E (pset_update tmp) := by
  unfold pset_update
  refine Confines.bind (Confines.gets _) (fun me => ?_)
  refine Confines.bind ?_ (fun _ => Confines.bind ?_ (fun _ => hqueue _))
  · unfold pset_update_entry
    refine Confines.ite _ (fun _ => Confines.bind (hadd _ _ _ _) (fun _ => hrefresh))
      (fun _ => ?_)
    exact Confines.ite _ (fun _ => Confines.bind (hedit _ _ _) (fun _ => hrefresh))
      (fun _ => Confines.pure _)
  · unfold pset_update_join
    refine Confines.bind (Confines.gets _) (fun me' => Confines.ite _ (fun _ => ?_)
      (fun _ => Confines.pure _))
    exact Confines.bind (hjoin _ _ _) (fun _ => Confines.pure _)

theorem pset_update_handler_confines : Confines I E pset_update_handler := by
  unfold pset_update_handler
  refine Confines.bind (Confines.gets _) (fun me => ?_)
  exact Confines.bind (Confines.forM _ _ (fun tmp _ =>
    pset_update_confines hadd hedit hrefresh hjoin hqueue tmp)) (fun _ => hqueue _)

end Rounds

end Vrr

end AlpacaVrr
