import AlpacaVrr.Core.Input
import AlpacaVrr.Theory.Frames

/-!
# Where the Code Can Stop

The functions that the handlers call stop at one fault only, that of an
allocation whose result they do not look at. Nor do they write past a vset
buffer.

The two are one invariant, `Sys.Sound`, with a hypothesis `r` about the
kernel as a parameter. Under `r` all allocations succeed and nothing can stop
the function. Without it the fault of a failed one remains. A proposition as
parameter covers both with one walk through the code.

The handlers themselves are another matter. Their own accesses are those that
`Theory.HandlerSafety` is about.

## Main definitions

* `Sys.Sound`, `AllocFault`: The invariant, and the fault that remains.
* `Contained`: A function that keeps to the two.
* `Backed`: A vset as it is handed to the senders.

## Theorems

* `kmalloc_sound`, `vset_get_all_sound`: Allocation.
* `send_vset_contained`, `vrr_add_contained`, `tear_down_path_contained`: The
  functions that handlers call.
* `pset_update_handler_contained`, `vrr_workqueue_handler_contained`: The work
  that is done between packets.
-/

namespace AlpacaVrr

open FaultState

/-- Under `r` the allocations to come succeed, and no vset buffer was
    overrun. -/
structure Sys.Sound (r : Prop) (s : Sys) : Prop where
  alloc : r → ∀ i, s.kern.kmalloc i = true
  inside : s.vset_overruns = []

/-- The use of an allocation that failed, which cannot be under `r`. -/
def AllocFault (r : Prop) (e : Fault) : Prop := e = .nullAlloc ∧ ¬ r

/-- The function stops at nothing but a failed allocation, and stays inside
    the vset buffers. -/
abbrev Contained {α : Type} (r : Prop) (x : Vrr α) : Prop :=
  Confines (Sys.Sound r) (AllocFault r) x

/-- Under `r` there is an array behind a vset that is not empty. -/
def Backed (r : Prop) (vset_size : Nat) (vset : Option (List U32)) : Prop :=
  vset_size ≠ 0 → r → vset.isSome = true

theorem backed_some (r : Prop) (n : Nat) (ids : List U32) : Backed r n (some ids) :=
  fun _ _ => rfl

namespace Vrr

variable (r : Prop)

/-- Only `kmalloc` looks at the supply of allocations, so what else is drawn
    leaves it alone. -/
theorem draw_contained {α : Type} (f : Kernel → α × Kernel)
    (h : ∀ k, (f k).2.kmalloc = k.kmalloc) : Contained r (draw f) := by
  intro s hs
  refine ⟨fun hr i => ?_, hs.inside⟩
  change (f s.kern).2.kmalloc i = true
  rw [h]
  exact hs.alloc hr i

theorem random_contained : Contained r random := draw_contained r _ (fun _ => rfl)

theorem uninit_contained : Contained r uninit := draw_contained r _ (fun _ => rfl)

/-- Under `r` the allocation succeeds. -/
theorem kmalloc_sound (size : Nat) :
    Triple (Sys.Sound r) (kmalloc size) (fun ok s => s.Sound r ∧ (r → ok = true))
      (AllocFault r) := by
  unfold kmalloc
  refine Triple.ite _ (fun _ => Triple.pure _ (fun s hs => ⟨hs, fun _ => rfl⟩)) (fun _ => ?_)
  intro s hs
  exact ⟨⟨fun hr i => hs.alloc hr (i + 1), hs.inside⟩, fun hr => hs.alloc hr 0⟩

theorem kmalloc_contained (size : Nat) : Contained r (kmalloc size) :=
  (kmalloc_sound r size).post (fun _ _ h => h.1)

theorem draws_contained : Draws (Sys.Sound r) (AllocFault r) :=
  ⟨uninit_contained r, kmalloc_contained r⟩

/-- What changes neither the kernel nor the record of overruns. -/
theorem set_node_contained (f : Node → Node) : Contained r (set_node f) :=
  Confines.modify _ (fun _ hs => ⟨hs.alloc, hs.inside⟩)

theorem kfree_skb_contained (skb : SkbRef) : Contained r (kfree_skb skb) :=
  Confines.modify _ (fun _ hs => ⟨hs.alloc, hs.inside⟩)

theorem overrun_contained (b : Buffer) (hb : b ≠ .vset) (size n : Nat) :
    Contained r (overrun b size n) := by
  intro s hs
  refine ⟨hs.alloc, ?_⟩
  exact (congrArg Prod.snd (overrun_still b hb size n s.still s rfl)).trans hs.inside

theorem rt_get_next_contained (dest : U32) : Contained r (rt_get_next dest) :=
  Confines.bind (Confines.gets _) (fun _ => Confines.pure _)

theorem rt_add_route_contained (ea eb na nb path_id : U32) :
    Contained r (rt_add_route ea eb na nb path_id) := by
  unfold rt_add_route
  refine Confines.bind (draws_contained r).rt_alloc (fun alloc => ?_)
  refine Confines.bind (Confines.gets _) (fun rb => Confines.bind (Confines.gets _) (fun me => ?_))
  exact Confines.bind (Confines.modify _ (fun _ hs => ⟨hs.alloc, hs.inside⟩))
    (fun _ => Confines.pure _)

theorem rt_remove_route_contained (ea path_id : U32) : Contained r (rt_remove_route ea path_id) :=
  Confines.bind (Confines.gets _) (fun _ => Confines.bind (set_node_contained r _) (fun _ =>
    Confines.pure _))

theorem pset_get_proxy_contained : Contained r pset_get_proxy := by
  unfold pset_get_proxy
  refine Confines.bind (Confines.gets _) (fun me => ?_)
  refine Confines.bind (overrun_contained r .proxies (by decide) _ _) (fun _ => ?_)
  exact Confines.ite _ (fun _ => Confines.pure _)
    (fun _ => Confines.bind (random_contained r) (fun _ => Confines.pure _))

theorem vset_should_add_contained (id : U32) : Contained r (vset_should_add id) :=
  Confines.bind (Confines.gets _) (fun _ => Confines.bind (uninit_contained r) (fun _ =>
    Confines.bind (uninit_contained r) (fun _ => Confines.pure _)))

theorem vset_remove_contained (id : U32) : Contained r (vset_remove id) :=
  Confines.bind (Confines.gets _) (fun _ => Confines.bind (set_node_contained r _) (fun _ =>
    Confines.pure _))

theorem vset_add_contained (id rem : U32) : Contained r (vset_add id rem) := by
  unfold vset_add
  refine Confines.bind (Confines.gets _) (fun me => Confines.ite _ (fun _ => Confines.pure _)
    (fun _ => ?_))
  refine Triple.bind (kmalloc_sound r 1) (fun tmp => Triple.of_and (fun htmp => ?_))
  -- the entry is used as if it were there
  refine Confines.ite _ (fun _ => ?_) (fun hno => Confines.fault _ ⟨rfl, fun hr => hno (htmp hr)⟩)
  refine Confines.bind (uninit_contained r) (fun left => Confines.bind (uninit_contained r)
    (fun right => ?_))
  exact Confines.bind (set_node_contained r _) (fun _ => Confines.pure _)

/-- The buffer of `vset_get_all` is there under `r`. -/
theorem vset_get_all_sound :
    Triple (Sys.Sound r) vset_get_all (fun v s => s.Sound r ∧ Backed r v.1 v.2)
      (AllocFault r) := by
  unfold vset_get_all
  refine Triple.bind (Confines.gets _) (fun me => ?_)
  refine Triple.bind (kmalloc_sound r _) (fun vset_all => Triple.of_and (fun hall => ?_))
  refine Triple.bind (uninit_contained r) (fun g => ?_)
  refine Triple.ite _ (fun _ => Triple.pure _ (fun s hs => ⟨hs, backed_some r _ _⟩)) (fun hno => ?_)
  exact Triple.ite _ (fun _ => Triple.pure _ (fun s hs => ⟨hs, fun _ hr => absurd (hall hr) hno⟩))
    (fun _ => Triple.fault _ ⟨rfl, fun hr => hno (hall hr)⟩)

theorem read_vset_contained (vset_size : Nat) (vset : Option (List U32))
    (h : Backed r vset_size vset) : Contained r (read_vset vset_size vset) := by
  unfold read_vset
  refine Confines.ite _ (fun _ => Confines.pure _) (fun h0 => ?_)
  cases vset with
  | none => exact Confines.fault _ ⟨rfl, fun hr => absurd (h h0 hr) Bool.false_ne_true⟩
  | some ids => exact Confines.pure _

theorem next_hop_via_contained (dst proxy : U32) : Contained r (next_hop_via dst proxy) :=
  Confines.bind (Confines.gets _) (fun _ =>
    Confines.ite _ (fun _ => rt_get_next_contained r proxy) (fun _ => Confines.pure _))

theorem setup_next_hop_contained (dst proxy : U32) : Contained r (setup_next_hop dst proxy) := by
  unfold setup_next_hop
  refine Confines.bind (Confines.gets _) (fun me => Confines.ite _ (fun _ => ?_)
    (fun _ => Confines.pure _))
  exact Confines.ite _ (fun _ => Confines.pure _) (fun _ => rt_get_next_contained r proxy)

theorem vrr_output_contained (skb : SkbRef) (pkt : Packet) : Contained r (vrr_output skb pkt) :=
  Confines.bind (Confines.modify _ (fun _ hs => ⟨hs.alloc, hs.inside⟩)) (fun _ =>
    Confines.bind (kfree_skb_contained r skb) (fun _ => Confines.pure _))

theorem vrr_forward_contained (pkt : Packet) : Contained r (vrr_forward pkt) := by
  unfold vrr_forward
  refine Confines.bind (rt_get_next_contained r _) (fun nh => Confines.bind (Confines.gets _)
    (fun me => Confines.ite _ (fun _ => Confines.pure _) (fun _ => ?_)))
  cases pset_get_mac me.pset nh with
  | none => exact Confines.pure _
  | some mac => exact vrr_output_contained r _ _

theorem vrr_forward_setup_req_contained (pkt : Packet) (nh : U32) :
    Contained r (vrr_forward_setup_req pkt nh) := by
  unfold vrr_forward_setup_req
  refine Confines.bind (Confines.gets _) (fun me => ?_)
  cases pset_get_mac me.pset nh with
  | none => exact Confines.pure _
  | some mac => exact vrr_output_contained r _ _

theorem send_vset_contained (pkt_type : U8) (src dst : U32) (data : List U32) (vset_size : Nat)
    (vset : Option (List U32)) (hop : U32) (h : Backed r vset_size vset) :
    Contained r (send_vset pkt_type src dst data vset_size vset hop) := by
  unfold send_vset
  refine Confines.bind (Confines.gets _) (fun me => ?_)
  cases pset_get_mac me.pset hop with
  | none => exact Confines.pure _
  | some mac =>
      refine Confines.bind (read_vset_contained r _ _ h) (fun ids => ?_)
      refine Confines.bind (kmalloc_contained r 1) (fun skb => ?_)
      exact Confines.ite _ (fun _ => vrr_output_contained r _ _) (fun _ => Confines.pure _)

theorem send_setup_contained (src dest path_id proxy : U32) (vset_size : Nat)
    (vset : Option (List U32)) (hop : U32) (h : Backed r vset_size vset) :
    Contained r (send_setup src dest path_id proxy vset_size vset hop) :=
  send_vset_contained r _ _ _ _ _ _ _ h

theorem send_setup_fail_contained (src dst proxy : U32) (vset_size : Nat)
    (vset : Option (List U32)) (hop : U32) (h : Backed r vset_size vset) :
    Contained r (send_setup_fail src dst proxy vset_size vset hop) :=
  send_vset_contained r _ _ _ _ _ _ _ h

theorem send_teardown_contained (path_id endpoint : U32) (vset : Option (List U32))
    (vset_size : Nat) (hop : U32) (h : Backed r vset_size vset) :
    Contained r (send_teardown path_id endpoint vset vset_size hop) :=
  Confines.bind (Confines.gets _) (fun _ => send_vset_contained r _ _ _ _ _ _ _ h)

/-- Neither the vset nor the buffer the words are copied through is checked. -/
theorem send_setup_req_contained (src dest proxy : U32) :
    Contained r (send_setup_req src dest proxy) := by
  unfold send_setup_req
  refine Confines.bind (Confines.gets _) (fun me => Confines.bind (uninit_contained r)
    (fun stack => ?_))
  refine Triple.bind (vset_get_all_sound r) (fun v => Triple.of_and (fun hv => ?_))
  refine Triple.bind (kmalloc_sound r 1) (fun data => Triple.of_and (fun hdata => ?_))
  refine Confines.ite _ (fun _ => ?_)
    (fun hno => Confines.fault _ ⟨rfl, fun hr => hno (hdata hr)⟩)
  refine Confines.bind (read_vset_contained r _ _ hv) (fun ids => ?_)
  refine Confines.bind (kmalloc_contained r 1) (fun skb => ?_)
  exact Confines.ite _ (fun _ => Confines.bind (vrr_output_contained r _ _)
    (fun _ => Confines.pure _)) (fun _ => Confines.pure _)

theorem vrr_add_request_contained (id : U32) : Contained r (vrr_add_request id) := by
  unfold vrr_add_request
  refine Confines.bind (Confines.gets _) (fun me => ?_)
  refine Confines.bind (vset_should_add_contained r id) (fun should => ?_)
  refine Confines.ite _ (fun _ => ?_) (fun _ => Confines.pure _)
  refine Confines.bind (pset_get_proxy_contained r) (fun ret => ?_)
  cases ret with
  | none => exact Confines.pure _
  | some proxy => exact Confines.bind (send_setup_req_contained r _ _ _) (fun _ => Confines.pure _)

theorem vrr_add_requests_contained (vset : List U32) : Contained r (vset.forM vrr_add_request) :=
  Confines.forM vset vrr_add_request (fun id _ => vrr_add_request_contained r id)

theorem vrr_add_contained (src : U32) (vset : List U32) : Contained r (vrr_add src vset) := by
  unfold vrr_add
  refine Confines.bind (vrr_add_requests_contained r vset) (fun _ => ?_)
  refine Confines.ite _ (fun _ => Confines.pure _) (fun _ => ?_)
  refine Confines.bind (vset_should_add_contained r src) (fun should => ?_)
  exact Confines.ite _ (fun _ => Confines.bind (vset_add_contained r src 0)
    (fun _ => Confines.pure _)) (fun _ => Confines.pure _)

theorem tear_down_hop_contained (path_id endpoint sender hop : U32) :
    Contained r (tear_down_hop path_id endpoint sender hop) := by
  unfold tear_down_hop
  refine Confines.bind (Confines.gets _) (fun me => Confines.ite _ (fun _ => ?_)
    (fun _ => Confines.pure _))
  have hvset : Triple (Sys.Sound r) (tear_down_vset sender)
      (fun v s => s.Sound r ∧ Backed r v.1 v.2) (AllocFault r) :=
    Triple.ite _ (fun _ => vset_get_all_sound r)
      (fun _ => Triple.pure _ (fun s hs => ⟨hs, fun h => absurd rfl h⟩))
  refine Triple.bind hvset (fun v => Triple.of_and (fun hv => ?_))
  exact Confines.bind (send_teardown_contained r _ _ _ _ _ hv) (fun _ => Confines.pure _)

theorem tear_down_path_contained (path_id endpoint sender : U32) :
    Contained r (tear_down_path path_id endpoint sender) := by
  unfold tear_down_path
  refine Confines.bind (rt_remove_route_contained r _ _) (fun route => ?_)
  cases route with
  | none => exact Confines.pure _
  | some route =>
      refine Confines.bind (tear_down_hop_contained r _ _ _ _) (fun _ => ?_)
      refine Confines.bind (tear_down_hop_contained r _ _ _ _) (fun _ => ?_)
      exact Confines.bind (tear_down_hop_contained r _ _ _ _) (fun _ => Confines.pure _)

theorem pset_state_update_contained : Contained r pset_state_update :=
  pset_state_update_triple (set_node_contained r _) (overrun_contained r .pstate (by decide))

theorem pset_add_contained (id : U32) (mac : MacAddr) (status : PsetStatus) (active : U32) :
    Contained r (pset_add id mac status active) :=
  pset_add_triple (fun _ hs _ => hs) (kmalloc_sound r 1)
    (Triple.of_and (fun _ => set_node_contained r _))
    (Triple.of_and (fun hno => Confines.fault _ ⟨rfl, fun hr => Bool.false_ne_true (hno hr)⟩))

theorem send_hpkt_contained : Contained r send_hpkt := by
  unfold send_hpkt
  refine Confines.bind (Confines.gets _) (fun me => ?_)
  refine Triple.bind (kmalloc_sound r 1) (fun data => Triple.of_and (fun hdata => ?_))
  refine Confines.ite _ (fun _ => ?_)
    (fun hno => Confines.fault _ ⟨rfl, fun hr => hno (hdata hr)⟩)
  refine Confines.bind (kmalloc_contained r 1) (fun skb => ?_)
  exact Confines.ite _ (fun _ => Confines.bind (vrr_output_contained r _ _)
    (fun _ => Confines.pure _)) (fun _ => Confines.pure _)

theorem pset_update_handler_contained : Contained r pset_update_handler :=
  pset_update_handler_confines (pset_add_contained r)
    (fun _ _ _ => set_node_contained r _)
    (pset_state_update_contained r) (send_setup_req_contained r) (fun _ => set_node_contained r _)

theorem vrr_workqueue_handler_contained : Contained r vrr_workqueue_handler := by
  unfold vrr_workqueue_handler
  refine Confines.bind (detect_failures_confines (pset_state_update_contained r)
    (fun _ => set_node_contained r _)) (fun _ => ?_)
  exact Confines.bind (set_node_contained r _) (fun _ =>
    Confines.bind (send_hpkt_contained r) (fun _ => Confines.pure _))

end Vrr

end AlpacaVrr
