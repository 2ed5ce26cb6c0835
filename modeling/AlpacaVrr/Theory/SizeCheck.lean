import AlpacaVrr.Core.System
import AlpacaVrr.Theory.Frames

/-!
# The Size Check of the Receivers

Whether the vset sizes a node puts into its packets pass the check that every
receiver makes.

A size comes from one of three places. It is the counter of the virtual set,
for the node's own vset; or a number that was itself checked on the way in,
for a vset that is passed on; or zero, for a teardown without a sender. The
exception is a setup request with a next hop, which is forwarded unread.

So the packets of one event pass as long as the counter was in range before
it and a forwarded request was in range itself. That is `SizesFit`. The
counter may leave the range during the event, because `vrr_add` inserts after
it has sent, and what is sent after that uses a size read before. Once it has
left the range it never comes back, and the next packet with the node's own
vset is one that every peer drops.

## Main definitions

* `size_index`: Where in its payload a packet has the size.
* `Passes`: The receiver finds the size in range.
* `SizesFit`: The condition on an event.

## Theorems

* `passes_build_packet`: A packet built with a size in range passes.
* `send_vset_sent`, `send_setup_req_fits`: So do those of the senders.
* `vrr_add_fits`: Requests go out before the counter changes.
* `step_sent`: One event that meets the condition emits packets that pass.
* `emitted_sizes_pass`: A run that does has emitted only such packets.
* `setup_req_dropped`: A run that has emitted another one.
-/

namespace AlpacaVrr

open FaultState

/-- The position of the vset size among the words of a control packet. -/
def size_index (pkt_type : U8) : Nat :=
  if pkt_type = VRR_SETUP_REQ ∨ pkt_type = VRR_SETUP_FAIL then 1 else 2

/-- The packets that carry a vset. -/
def CarriesVset (pkt_type : U8) : Prop :=
  pkt_type = VRR_SETUP_REQ ∨ pkt_type = VRR_SETUP ∨ pkt_type = VRR_SETUP_FAIL ∨
    pkt_type = VRR_TEARDOWN

/-- The handler of the packet reads a size in range. -/
def Passes (p : Packet) : Prop :=
  CarriesVset p.vh.pkt_type → ∃ n,
    word p (vrr_header_size + 4 * size_index p.vh.pkt_type) = some n ∧ n.toNat ≤ VRR_VSET_SIZE

/-- A packet built with a size in range passes. -/
theorem passes_build_packet (version pkt_type : U8) (src dst : U32) (mac : MacAddr)
    (data : List U32) (n : Nat) (hn : n ≤ VRR_VSET_SIZE)
    (hword : data[size_index pkt_type]? = some (BitVec.ofNat 32 n)) :
    Passes (build_packet version pkt_type src dst mac data) := by
  intro _
  refine ⟨BitVec.ofNat 32 n, word_payload _ data _ _ hword, ?_⟩
  exact Nat.le_trans (Nat.mod_le n (2 ^ 32)) hn

/-- Only the type and the payload matter. -/
theorem passes_congr (p q : Packet) (hty : q.vh.pkt_type = p.vh.pkt_type) (hdata : q.data = p.data)
    (h : Passes p) : Passes q := by
  unfold Passes word skb_copy_bits at h ⊢
  rw [hty, hdata]
  exact h

theorem passes_of_type (p : Packet) (pkt_type : U8) (hty : p.vh.pkt_type = pkt_type)
    (h : ¬ CarriesVset pkt_type) : Passes p := by
  intro hcarries
  rw [hty] at hcarries
  exact absurd hcarries h

namespace Sys

/-- All packets on record pass. -/
def Sent (s : Sys) : Prop := ∀ p ∈ s.sent, Passes p

/-- The counter of the virtual set, and the packets on record. -/
def sizes (s : Sys) : Nat × List Packet := (s.node.vset.vset_size, s.sent)

/-- They pass, and the counter is in range. -/
def Fits (s : Sys) : Prop := s.node.vset.vset_size ≤ VRR_VSET_SIZE ∧ s.Sent

end Sys

namespace Vrr

theorem sizes_of_visible {α : Type} {x : Vrr α} (h : Keeps Sys.visible x) : Keeps Sys.sizes x :=
  h.part (fun v : Node × List Packet × List SkbRef × List Overrun => (v.1.vset.vset_size, v.2.1))

theorem sizes_of_settled {α : Type} {x : Vrr α} (h : Keeps Sys.settled x) : Keeps Sys.sizes x :=
  h.part (fun v : Node × List Packet => (v.1.vset.vset_size, v.2))

theorem fits_of_sizes {α : Type} {x : Vrr α} (h : Keeps Sys.sizes x) :
    Preserves (fun s => s.Fits) x :=
  h.preserves (fun v : Nat × List Packet => v.1 ≤ VRR_VSET_SIZE ∧ ∀ p ∈ v.2, Passes p)

theorem sent_of_sizes {α : Type} {x : Vrr α} (h : Keeps Sys.sizes x) :
    Preserves (fun s => s.Sent) x :=
  h.preserves (fun v : Nat × List Packet => ∀ p ∈ v.2, Passes p)

theorem fits_of_visible {α : Type} {x : Vrr α} (h : Keeps Sys.visible x) :
    Preserves (fun s => s.Fits) x :=
  fits_of_sizes (sizes_of_visible h)

theorem sent_of_visible {α : Type} {x : Vrr α} (h : Keeps Sys.visible x) :
    Preserves (fun s => s.Sent) x :=
  sent_of_sizes (sizes_of_visible h)

theorem draws_fits : Draws (fun s => s.Fits) (fun _ => True) :=
  draws_of_visible (fun _ hx => fits_of_visible hx)

theorem draws_sent : Draws (fun s => s.Sent) (fun _ => True) :=
  draws_of_visible (fun _ hx => sent_of_visible hx)

/-- What keeps both the record and the node keeps the counter in range. -/
theorem fits_of_sent {α : Type} {x : Vrr α} (hstill : Keeps Sys.still x)
    (hsent : Preserves (fun s => s.Sent) x) : Preserves (fun s => s.Fits) x :=
  (node_of_still hstill).triple (fun n => n.vset.vset_size ≤ VRR_VSET_SIZE) hsent

theorem vrr_output_sent (skb : SkbRef) (pkt : Packet) (hpkt : Passes pkt) :
    Preserves (fun s => s.Sent) (vrr_output skb pkt) := by
  unfold vrr_output
  refine Preserves.bind (Preserves.modify _ (fun s hs p hp => ?_)) (fun _ => ?_)
  · rcases List.mem_append.mp hp with hp | hp
    · exact hs p hp
    · rw [List.mem_singleton.mp hp]
      exact hpkt
  · exact Preserves.bind (sent_of_sizes (Keeps.modify _ (fun _ => rfl))) (fun _ => Preserves.pure _)

/-- A vset of a size in range, behind words that put the size in its place. -/
theorem send_vset_sent (pkt_type : U8) (src dst : U32) (data : List U32) (vset_size : Nat)
    (vset : Option (List U32)) (hop : U32) (hindex : data.length = size_index pkt_type)
    (hsize : vset_size ≤ VRR_VSET_SIZE) :
    Preserves (fun s => s.Sent) (send_vset pkt_type src dst data vset_size vset hop) := by
  unfold send_vset
  refine Preserves.bind (Preserves.gets _) (fun me => ?_)
  cases pset_get_mac me.pset hop with
  | none => exact Preserves.pure _
  | some mac =>
      refine Preserves.bind (sent_of_visible (read_vset_visible _ _))
        (fun ids => ?_)
      refine Preserves.bind (draws_sent.kmalloc 1) (fun skb => ?_)
      refine Preserves.ite _ (fun _ => vrr_output_sent _ _ ?_) (fun _ => Preserves.pure _)
      refine passes_build_packet _ _ _ _ _ _ vset_size hsize ?_
      rw [← hindex, List.getElem?_append_right (Nat.le_refl _), Nat.sub_self]
      rfl

theorem send_setup_sent (src dest path_id proxy : U32) (vset_size : Nat)
    (vset : Option (List U32)) (hop : U32) (hsize : vset_size ≤ VRR_VSET_SIZE) :
    Preserves (fun s => s.Sent) (send_setup src dest path_id proxy vset_size vset hop) :=
  send_vset_sent _ _ _ _ _ _ _ rfl hsize

theorem send_setup_fail_sent (src dst proxy : U32) (vset_size : Nat)
    (vset : Option (List U32)) (hop : U32) (hsize : vset_size ≤ VRR_VSET_SIZE) :
    Preserves (fun s => s.Sent) (send_setup_fail src dst proxy vset_size vset hop) :=
  send_vset_sent _ _ _ _ _ _ _ rfl hsize

theorem send_teardown_sent (path_id endpoint : U32) (vset : Option (List U32))
    (vset_size : Nat) (hop : U32) (hsize : vset_size ≤ VRR_VSET_SIZE) :
    Preserves (fun s => s.Sent) (send_teardown path_id endpoint vset vset_size hop) :=
  Preserves.bind (Preserves.gets _) (fun _ => send_vset_sent _ _ _ _ _ _ _ rfl hsize)

/-- The size that `vset_get_all` hands back is the counter. -/
theorem vset_get_all_fits :
    Triple (fun s => s.Fits) vset_get_all (fun r s => s.Fits ∧ r.1 ≤ VRR_VSET_SIZE)
      (fun _ => True) := by
  unfold vset_get_all
  refine Triple.bind (Q := fun me s => s.Fits ∧ me.vset.vset_size ≤ VRR_VSET_SIZE)
    (Triple.gets _ (fun s hs => ⟨hs, hs.1⟩)) (fun me => Triple.of_and (fun hsize => ?_))
  refine Triple.bind (draws_fits.kmalloc _) (fun ok => ?_)
  refine Triple.bind draws_fits.uninit (fun garbage => ?_)
  refine Triple.ite _ (fun _ => Triple.pure _ (fun s hs => ⟨hs, hsize⟩)) (fun _ => ?_)
  exact Triple.ite _ (fun _ => Triple.pure _ (fun s hs => ⟨hs, hsize⟩))
    (fun _ => Triple.fault _ trivial)

/-- A request carries the node's own vset. -/
theorem send_setup_req_fits (src dest proxy : U32) :
    Preserves (fun s => s.Fits) (send_setup_req src dest proxy) := by
  unfold send_setup_req
  refine Preserves.bind (Preserves.gets _) (fun me => ?_)
  refine Preserves.bind draws_fits.uninit (fun stack => ?_)
  refine Triple.bind vset_get_all_fits (fun r => Triple.of_and (fun hsize => ?_))
  refine Preserves.bind (draws_fits.kmalloc 1) (fun data => ?_)
  refine Preserves.ite _ (fun _ => ?_) (fun _ => Preserves.fault _)
  refine Preserves.bind (fits_of_visible (read_vset_visible _ _)) (fun ids => ?_)
  refine Preserves.bind (draws_fits.kmalloc 1) (fun skb => ?_)
  refine Preserves.ite _ (fun _ => ?_) (fun _ => Preserves.pure _)
  refine Preserves.bind (fits_of_sent (vrr_output_still _ _) (vrr_output_sent _ _ ?_))
    (fun _ => Preserves.pure _)
  exact passes_build_packet _ _ _ _ _ _ r.1 hsize rfl

theorem pset_get_proxy_sizes : Keeps Sys.sizes pset_get_proxy := by
  unfold pset_get_proxy
  refine Keeps.bind (Keeps.gets _) (fun me => Keeps.bind (Keeps.modify _ (fun _ => rfl))
    (fun _ => ?_))
  exact Keeps.ite _ (fun _ => Keeps.pure _)
    (fun _ => Keeps.bind (sizes_of_visible random_visible) (fun _ => Keeps.pure _))

theorem vrr_add_request_fits (id : U32) : Preserves (fun s => s.Fits) (vrr_add_request id) := by
  unfold vrr_add_request
  refine Preserves.bind (Preserves.gets _) (fun me => ?_)
  refine Preserves.bind (fits_of_visible (vset_should_add_visible id))
    (fun should => Preserves.ite _ (fun _ => ?_) (fun _ => Preserves.pure _))
  refine Preserves.bind (fits_of_sizes pset_get_proxy_sizes) (fun ret => ?_)
  cases ret with
  | none => exact Preserves.pure _
  | some proxy => exact Preserves.bind (send_setup_req_fits _ _ _) (fun _ => Preserves.pure _)

theorem vset_add_sent (id rem : U32) : Preserves (fun s => s.Sent) (vset_add id rem) := by
  unfold vset_add
  refine Preserves.bind (Preserves.gets _) (fun me => ?_)
  refine Preserves.ite _ (fun _ => Preserves.pure _) (fun _ => ?_)
  refine Preserves.bind (draws_sent.kmalloc 1) (fun tmp => ?_)
  refine Preserves.ite _ (fun _ => ?_) (fun _ => Preserves.fault _)
  refine Preserves.bind draws_sent.uninit (fun left => ?_)
  refine Preserves.bind draws_sent.uninit (fun right => ?_)
  exact Preserves.bind (Preserves.modify _ (fun s hs => hs)) (fun _ => Preserves.pure _)

/-- The requests go out first. The counter changes only when the source is
    taken in, and then the result is not zero. -/
theorem vrr_add_fits (src : U32) (vset : List U32) :
    Triple (fun s => s.Fits) (vrr_add src vset) (fun r s => s.Sent ∧ (r = 0 → s.Fits))
      (fun _ => True) := by
  unfold vrr_add
  refine Triple.bind (Preserves.forM vset _ (fun id _ => vrr_add_request_fits id)) (fun _ => ?_)
  refine Triple.ite _ (fun _ => Triple.pure _ (fun s hs => ⟨hs.2, fun _ => hs⟩)) (fun _ => ?_)
  refine Triple.bind (fits_of_visible (vset_should_add_visible src))
    (fun should => Triple.ite _ (fun _ => ?_)
      (fun _ => Triple.pure _ (fun s hs => ⟨hs.2, fun _ => hs⟩)))
  -- the counter may leave the range here, and the result says so
  refine Triple.bind ((vset_add_sent src 0).pre (fun s hs => hs.2)) (fun _ => ?_)
  exact Triple.pure _ (fun s hs => ⟨hs, fun h => absurd h (by decide)⟩)

theorem rt_add_route_sizes (ea eb na nb path_id : U32) :
    Keeps Sys.sizes (rt_add_route ea eb na nb path_id) := by
  unfold rt_add_route
  refine Keeps.bind (sizes_of_visible rt_alloc_visible) (fun alloc => ?_)
  refine Keeps.bind (Keeps.gets _) (fun rb => Keeps.bind (Keeps.gets _) (fun me => ?_))
  exact Keeps.bind (Keeps.modify _ (fun _ => rfl)) (fun _ => Keeps.pure _)

theorem rt_remove_route_sizes (ea path_id : U32) : Keeps Sys.sizes (rt_remove_route ea path_id) :=
  Keeps.bind (Keeps.gets _) (fun _ => Keeps.bind (Keeps.modify _ (fun _ => rfl))
    (fun _ => Keeps.pure _))

/-- Without a sender the teardowns carry no vset. -/
theorem tear_down_hop_sent (path_id endpoint hop : U32) :
    Preserves (fun s => s.Sent) (tear_down_hop path_id endpoint null hop) := by
  unfold tear_down_hop
  refine Preserves.bind (Preserves.gets _) (fun me => Preserves.ite _ (fun _ => ?_)
    (fun _ => Preserves.pure _))
  have hvset : tear_down_vset null = pure (0, none) := if_neg (not_not_intro rfl)
  rw [hvset]
  exact Triple.bind (Q := fun r s => s.Sent ∧ r.1 ≤ VRR_VSET_SIZE)
    (Triple.pure _ (fun s hs => ⟨hs, Nat.zero_le _⟩))
    (fun r => Triple.of_and (fun hsize => Preserves.bind (send_teardown_sent _ _ _ _ _ hsize)
      (fun _ => Preserves.pure _)))

theorem tear_down_path_sent (path_id endpoint : U32) :
    Preserves (fun s => s.Sent) (tear_down_path path_id endpoint null) := by
  unfold tear_down_path
  refine Preserves.bind (sent_of_sizes (rt_remove_route_sizes _ _)) (fun route => ?_)
  cases route with
  | none => exact Preserves.pure _
  | some route =>
      refine Preserves.bind (tear_down_hop_sent _ _ _) (fun _ => ?_)
      refine Preserves.bind (tear_down_hop_sent _ _ _) (fun _ => ?_)
      exact Preserves.bind (tear_down_hop_sent _ _ _) (fun _ => Preserves.pure _)

/-- A computation after which the packets pass, its result thrown away. -/
theorem sent_then_pure {α β : Type} {P : Sys → Prop} {x : Vrr α}
    (h : Triple P x (fun _ s => s.Sent) (fun _ => True)) (b : β) :
    Triple P (x >>= fun _ => pure b) (fun _ s => s.Sent) (fun _ => True) :=
  Triple.bind h (fun _ => Triple.pure b (fun _ hs => hs))

theorem vrr_local_rcv_setup_sent (dst pid proxy : U32) (vset_size : Nat)
    (vset : Option (List U32)) (hsize : vset_size ≤ VRR_VSET_SIZE) :
    Preserves (fun s => s.Sent) (vrr_local_rcv_setup dst pid proxy vset_size vset) := by
  unfold vrr_local_rcv_setup
  refine Preserves.bind (Preserves.gets _) (fun me => ?_)
  refine Preserves.bind (sent_of_visible (next_hop_via_visible _ _)) (fun nh => ?_)
  refine Preserves.bind (sent_of_sizes (rt_add_route_sizes _ _ _ _ _)) (fun added => ?_)
  refine Preserves.ite _ (fun _ => Preserves.ite _ (fun _ => ?_) (fun _ => Preserves.pure _))
    (fun _ => sent_then_pure (tear_down_path_sent _ _) 0)
  exact sent_then_pure (send_setup_sent _ _ _ _ _ _ _ hsize) 0

theorem vrr_local_rcv_setup_fail_sent (dst proxy : U32) (vset_size : Nat)
    (vset : Option (List U32)) (hsize : vset_size ≤ VRR_VSET_SIZE) :
    Triple (fun s => s.Fits) (vrr_local_rcv_setup_fail dst proxy vset_size vset)
      (fun _ s => s.Sent) (fun _ => True) := by
  unfold vrr_local_rcv_setup_fail
  refine Triple.bind (Triple.gets (Q := fun _ s => s.Fits) _ (fun s hs => hs)) (fun me => ?_)
  refine Triple.bind (draws_fits.kmalloc _) (fun ovset => ?_)
  refine Triple.bind (fits_of_visible (next_hop_via_visible _ _)) (fun nh => ?_)
  refine Triple.ite _ (fun _ => Triple.ite _ (fun _ => Triple.fault _ trivial) (fun _ => ?_))
    (fun _ => Triple.fault _ trivial)
  refine Triple.bind ((vrr_add_fits UINT_MAX [dst]).post (fun r s hs => hs.1)) (fun _ => ?_)
  exact Preserves.ite _ (fun _ => sent_then_pure (send_setup_fail_sent _ _ _ _ _ _ hsize) 0)
    (fun _ => Preserves.pure _)

/-- A data packet carries no vset. -/
theorem vrr_rcv_data_sent (skb : SkBuff) (hty : skb.pkt.vh.pkt_type = VRR_DATA) :
    Preserves (fun s => s.Sent) (vrr_rcv_data skb) := by
  unfold vrr_rcv_data
  refine Preserves.bind (Preserves.gets _) (fun me => Preserves.ite _ (fun _ => ?_) (fun _ => ?_))
  · cases vrr_find_sock me.vrr_socks skb.pkt.src with
    | none => exact Preserves.pure _
    | some sk =>
        exact Preserves.bind (Preserves.gets _) (fun ret => Preserves.bind
          (sent_of_sizes (Keeps.modify _ (fun _ => rfl))) (fun _ => Preserves.pure _))
  · refine sent_then_pure ?_ 0
    unfold vrr_forward
    refine Preserves.bind (sent_of_visible (rt_get_next_visible _)) (fun nh => ?_)
    refine Preserves.bind (Preserves.gets _) (fun me => Preserves.ite _
      (fun _ => Preserves.pure _) (fun _ => ?_))
    cases pset_get_mac me.pset nh with
    | none => exact Preserves.pure _
    | some mac =>
        refine vrr_output_sent _ _ (passes_of_type _ VRR_DATA hty ?_)
        unfold CarriesVset
        decide

/-- A request that has a next hop is passed on as it is. -/
theorem vrr_rcv_setup_req_sent (skb : SkBuff) (n : Node)
    (hforward : RtTable.rt_get_next_exclude n.me n.rt skb.pkt.dst skb.pkt.src ≠ 0 →
      Passes skb.pkt) :
    Triple (fun s => s.node = n ∧ s.Fits) (vrr_rcv_setup_req skb) (fun _ s => s.Sent)
      (fun _ => True) := by
  unfold vrr_rcv_setup_req
  refine Triple.bind (Q := fun nh s => s.Fits ∧
    nh = RtTable.rt_get_next_exclude n.me n.rt skb.pkt.dst skb.pkt.src) ?_
    (fun nh => Triple.of_and (P := Sys.Fits) (fun hnh => Triple.ite _ (fun hne => ?_)
      (fun _ => ?_)))
  · intro s hs
    exact ⟨hs.2, by rw [← hs.1]⟩
  · refine sent_then_pure ?_ 0
    unfold vrr_forward_setup_req
    refine Triple.bind (Triple.gets (Q := fun _ s => s.Sent) _ (fun s hs => hs.2)) (fun me => ?_)
    cases pset_get_mac me.pset nh with
    | none => exact Preserves.pure _
    | some mac =>
        exact vrr_output_sent _ _ (passes_congr skb.pkt _ rfl rfl
          (hforward (by rw [← hnh]; exact hne)))
  refine Triple.bind (draws_fits.read_u32 _ _) (fun proxy => ?_)
  refine Triple.bind (draws_fits.read_u32 _ _) (fun size => ?_)
  refine draws_fits.received_vset _ _ _ _ _ (fun s hs => hs.2) (fun _ vset => ?_)
  -- the size sent later is read here
  refine Triple.bind vset_get_all_fits (fun r => Triple.of_and (fun hsize => ?_))
  refine Triple.bind (vrr_add_fits _ _) (fun added => Triple.ite _ (fun _ => ?_) (fun hzero => ?_))
  · refine Triple.bind (Q := fun _ s => s.Sent)
      ((sent_of_visible random_visible).pre (fun s hs => hs.1)) (fun pid => ?_)
    exact sent_then_pure (vrr_local_rcv_setup_sent _ _ _ _ _ hsize) 0
  · -- nothing was added, so the counter is still in range
    exact sent_then_pure ((vrr_local_rcv_setup_fail_sent _ _ _ _ hsize).pre
      (fun s hs => hs.2 (not_not.mp hzero))) 0

theorem vrr_rcv_setup_fail_sent (skb : SkBuff) :
    Triple (fun s => s.Fits) (vrr_rcv_setup_fail skb) (fun _ s => s.Sent) (fun _ => True) := by
  unfold vrr_rcv_setup_fail
  refine Triple.bind (draws_fits.read_u32 _ _) (fun proxy => ?_)
  refine Triple.bind (draws_fits.read_u32 _ _) (fun size => ?_)
  refine draws_fits.received_vset _ _ _ _ _ (fun s hs => hs.2) (fun hsize vset => ?_)
  refine Triple.bind (fits_of_visible (next_hop_via_visible _ _)) (fun nh => ?_)
  refine Triple.ite _ (fun _ => ?_) (fun _ => ?_)
  · exact sent_then_pure ((send_setup_fail_sent _ _ _ _ _ _ hsize).pre
      (fun s hs => hs.2)) 0
  refine Triple.bind (Triple.gets (Q := fun _ s => s.Fits) _ (fun s hs => hs)) (fun me => ?_)
  refine Triple.ite _ (fun _ => ?_) (fun _ => Triple.pure _ (fun s hs => hs.2))
  refine Triple.bind (fits_of_sizes (Keeps.modify _ (fun _ => rfl))) (fun _ => ?_)
  exact sent_then_pure ((vrr_add_fits _ _).post (fun r s hs => hs.1)) 0

theorem vrr_rcv_setup_sent (skb : SkBuff) :
    Triple (fun s => s.Fits) (vrr_rcv_setup skb) (fun _ s => s.Sent) (fun _ => True) := by
  unfold vrr_rcv_setup
  refine Triple.bind (Triple.gets (Q := fun _ s => s.Fits) _ (fun s hs => hs)) (fun me => ?_)
  refine Triple.bind (draws_fits.read_u32 _ _) (fun pid => ?_)
  refine Triple.bind (draws_fits.read_u32 _ _) (fun proxy => ?_)
  cases (if skb.dev_addr = skb.h_source then some me.me
      else pset_lookup_mac me.pset skb.h_source) with
  | none => exact sent_then_pure ((tear_down_path_sent _ _).pre (fun s hs => hs.2)) 0
  | some sender =>
      refine Triple.bind (fits_of_visible (setup_next_hop_visible _ _))
        (fun nh => ?_)
      refine Triple.bind (fits_of_sizes (rt_add_route_sizes _ _ _ _ _)) (fun added => ?_)
      refine Triple.ite _ (fun _ => ?_)
        (fun _ => sent_then_pure ((tear_down_path_sent _ _).pre (fun s hs => hs.2)) 0)
      refine Triple.bind (draws_fits.read_u32 _ _) (fun size => ?_)
      refine draws_fits.received_vset _ _ _ _ _ (fun s hs => hs.2) (fun hsize vset => ?_)
      refine Triple.ite _ (fun _ => ?_) (fun _ => ?_)
      · exact sent_then_pure ((send_setup_sent _ _ _ _ _ _ _ hsize).pre
          (fun s hs => hs.2)) 0
      refine Triple.bind ((vrr_add_fits _ _).post (fun r s hs => hs.1)) (fun ret => ?_)
      refine Preserves.ite _ (fun _ => ?_) (fun _ => Preserves.pure _)
      exact sent_then_pure (sent_of_sizes (Keeps.modify _ (fun _ => rfl))) 0

theorem vset_remove_sizes (id : U32) : Keeps Sys.sizes (vset_remove id) := by
  unfold vset_remove
  refine Keeps.bind (Keeps.gets _) (fun _ => Keeps.bind (Keeps.modify _ (fun s => ?_))
    (fun _ => Keeps.pure _))
  -- `vset_remove` unlinks an entry and leaves the counter alone
  have hsize : (AlpacaVrr.vset_remove s.node.vset id).2.vset_size = s.node.vset.vset_size := by
    unfold AlpacaVrr.vset_remove
    split_ifs <;> rfl
  simp only [Sys.sizes, hsize]

theorem vrr_rcv_teardown_sent (skb : SkBuff) :
    Triple (fun s => s.Fits) (vrr_rcv_teardown skb) (fun _ s => s.Sent) (fun _ => True) := by
  unfold vrr_rcv_teardown
  refine Triple.bind (draws_fits.read_u32 _ _) (fun ea => ?_)
  refine Triple.bind (draws_fits.read_u32 _ _) (fun pid => ?_)
  refine Triple.bind (draws_fits.read_u32 _ _) (fun size => ?_)
  refine Triple.bind (fits_of_sizes (rt_remove_route_sizes _ _)) (fun route => ?_)
  cases route with
  | none => exact Triple.fault _ trivial
  | some route =>
      refine draws_fits.received_vset _ _ _ _ _ (fun s hs => hs.2) (fun hsize vset => ?_)
      refine Triple.ite _ (fun _ => ?_) (fun _ => ?_)
      · exact sent_then_pure ((send_teardown_sent _ _ _ _ _ hsize).pre
          (fun s hs => hs.2)) 0
      refine Triple.bind (fits_of_sizes (vset_remove_sizes _)) (fun _ => ?_)
      exact sent_then_pure ((vrr_add_fits _ _).post (fun r s hs => hs.1)) 0

theorem pset_update_handler_fits : Preserves (fun s => s.Fits) pset_update_handler :=
  pset_update_handler_confines (fun _ _ _ _ => pset_add_triple (fun _ hs _ => hs)
      (fits_of_sizes (sizes_of_visible (kmalloc_visible 1)))
      (fits_of_sizes (Keeps.modify _ (fun _ => rfl))) (Preserves.fault _))
    (fun _ _ _ => fits_of_sizes (Keeps.modify _ (fun _ => rfl)))
    (fits_of_sizes (sizes_of_settled pset_state_update_settled)) send_setup_req_fits
    (fun _ => fits_of_sizes (Keeps.modify _ (fun _ => rfl)))

/-- A hello carries no vset. -/
theorem vrr_workqueue_handler_sent :
    Preserves (fun s => s.Sent) vrr_workqueue_handler := by
  unfold vrr_workqueue_handler
  refine Preserves.bind (sent_of_sizes ?_) (fun _ => ?_)
  · exact fun c => detect_failures_confines (sizes_of_settled pset_state_update_settled c)
      (fun _ => Preserves.modify _ (fun _ hs => hs))
  refine Preserves.bind (sent_of_sizes ?_) (fun _ => ?_)
  · refine Keeps.modify _ (fun s => ?_)
    simp only [Sys.sizes]
    split_ifs <;> rfl
  refine sent_then_pure ?_ ()
  unfold send_hpkt
  refine Preserves.bind (Preserves.gets _) (fun me => ?_)
  refine Preserves.bind (draws_sent.kmalloc 1) (fun data => ?_)
  refine Preserves.ite _ (fun _ => ?_) (fun _ => Preserves.fault _)
  refine Preserves.bind (draws_sent.kmalloc 1) (fun skb => ?_)
  refine Preserves.ite _ (fun _ => sent_then_pure (vrr_output_sent _ _ ?_) 0)
    (fun _ => Preserves.pure _)
  exact passes_of_type _ VRR_HELLO rfl (by unfold CarriesVset; decide)

/-- A packet handled with the counter in range, a request to forward being in
    range itself. -/
theorem vrr_rcv_sent (skb : SkBuff) (n : Node)
    (hforward : skb.pkt.vh.pkt_type = VRR_SETUP_REQ →
      RtTable.rt_get_next_exclude n.me n.rt skb.pkt.dst skb.pkt.src ≠ 0 → Passes skb.pkt) :
    Triple (fun s => s.node = n ∧ s.Fits) (vrr_rcv skb) (fun _ s => s.Sent) (fun _ => True) := by
  have hfree : Preserves (fun s => s.Sent) (kfree_skb .received) :=
    sent_of_sizes (Keeps.modify _ (fun _ => rfl))
  refine vrr_rcv_triple (I := fun s => s.node = heard n skb.pkt.src ∧ s.Fits)
    (J := fun _ s => s.Sent) skb (fun _ => hfree.pre (fun s hs => hs.2.2))
    (fun s hs => ⟨by rw [← hs.1], hs.2⟩) (fun hty => ?_) (fun _ _ => hfree) (fun _ hs => hs)
  exact vrr_rcvfunc_triple skb hty
    (fun h => (vrr_rcv_data_sent skb h).pre (fun s hs => hs.2.2))
    (fun _ => (sent_of_sizes (sizes_of_settled (vrr_rcv_hello_settled skb))).pre
      (fun s hs => hs.2.2))
    (fun h => vrr_rcv_setup_req_sent skb (heard n skb.pkt.src) (hforward h))
    (fun _ => (vrr_rcv_setup_sent skb).pre (fun s hs => hs.2))
    (fun _ => (vrr_rcv_setup_fail_sent skb).pre (fun s hs => hs.2))
    (fun _ => (vrr_rcv_teardown_sent skb).pre (fun s hs => hs.2))

end Vrr

/-- Before the event the counter is in range, and so is a request that it
    forwards. -/
def SizesFit (s : Sys) (e : Event) : Prop :=
  s.node.vset.vset_size ≤ VRR_VSET_SIZE ∧
    ∀ skb, e = .vrr_rcv skb → skb.pkt.vh.pkt_type = VRR_SETUP_REQ →
      RtTable.rt_get_next_exclude s.node.me s.node.rt skb.pkt.dst skb.pkt.src ≠ 0 → Passes skb.pkt

/-- One event under the condition emits packets that pass. -/
theorem step_sent (s t : Sys) (i : Event × Kernel) (hs : s.Sent) (hfit : SizesFit s i.1)
    (hstep : Step s i t) : t.Sent := by
  rcases i with ⟨e, k⟩
  have hfits : ({ s with kern := k } : Sys).Fits := ⟨hfit.1, hs⟩
  have hsent : ({ s with kern := k } : Sys).Sent := hs
  cases e with
  | vrr_rcv skb =>
      exact (Vrr.sent_then_pure (Vrr.vrr_rcv_sent skb s.node (hfit.2 skb rfl)) ()).ok
        (s := { s with kern := k }) ⟨rfl, hfits⟩ hstep
  | pset_update_handler => exact (Vrr.pset_update_handler_fits.ok hfits hstep).2
  | vrr_workqueue_handler => exact Vrr.vrr_workqueue_handler_sent.ok hsent hstep
  | vrr_hash_sock sk =>
      have hkeeps : Keeps Sys.sizes (Event.vrr_hash_sock sk).run := Keeps.modify _ (fun _ => rfl)
      exact (Vrr.sent_of_sizes hkeeps).ok hsent hstep
  | vrr_unhash_sock sk =>
      have hkeeps : Keeps Sys.sizes (Event.vrr_unhash_sock sk).run := Keeps.modify _ (fun _ => rfl)
      exact (Vrr.sent_of_sizes hkeeps).ok hsent hstep

/-- In every run in which each event meets the condition, every packet emitted
    passes the size check of the handler it is for. -/
theorem emitted_sizes_pass (id : U32) (g : Nat → U32) (gm : Nat → MacAddr) (k : Kernel) (t : Sys)
    (hrun : Reach (fun s i t => Step s i t ∧ SizesFit s i.1) (Sys.boot (vrr_init id g gm) k) t) :
    ∀ p ∈ t.sent, Passes p := by
  refine hrun.invariant (fun s => s.Sent) ?_ (fun u i v hu hstep => ?_)
  · intro p hp
    exact absurd hp List.not_mem_nil
  · exact step_sent u v i hu hstep.2 hstep.1

/-- A hello from the active node 2, which lists node 1 as pending. -/
def hello_active : Event × Kernel :=
  (.vrr_rcv (frame 2 VRR_HELLO 2 0 [1, 0, 0, 1, 1]), Kernel.calm)

/-- Node 1 answers it with a request for its place, which passes. -/
theorem emitted_sizes_pass_join :
    ∃ t : Sys, t.sent.length = 1 ∧ ∀ p ∈ t.sent, Passes p := by
  obtain ⟨t, ht, hsent⟩ := reach_of_check
    (fun s i => decide (s.node.vset.vset_size = 0 ∧
      (i.1 = hello_active.1 ∨ i.1 = .pset_update_handler)))
    [hello_active, (.pset_update_handler, Kernel.calm)]
    (fun s => decide (s.sent.length = 1)) (by decide +kernel)
  have hrun : Reach (fun s i t => Step s i t ∧ SizesFit s i.1) node_one t := by
    refine ht.mono (fun u i v h => ⟨h.1, ?_, fun skb he hty => ?_⟩)
    · rw [(of_decide_eq_true h.2).1]
      decide
    · rcases (of_decide_eq_true h.2).2 with hi | hi
      · -- the packet is the hello
        rw [Event.vrr_rcv.inj (he.symm.trans hi)] at hty
        exact absurd hty (by decide)
      · exact Event.noConfusion (he.symm.trans hi)
  exact ⟨t, of_decide_eq_true hsent,
    emitted_sizes_pass 1 (fun _ => 0) (fun _ => 0) Kernel.calm t hrun⟩

/-- After five requests to join, the counter is five, and the next request of
    node 1 carries that. -/
theorem setup_req_dropped :
    ∃ t, Reach Step node_one t ∧ ∃ p ∈ t.sent, ¬ Passes p := by
  have heval : (run_events node_one
      (([2, 3, 4, 5, 6].map (fun src => (Event.vrr_rcv (frame 2 VRR_SETUP_REQ src 1 [0, 0]),
        Kernel.calm))) ++ [hello_active, (.pset_update_handler, Kernel.calm)])).map
      (fun t => t.sent.map (fun p => (p.vh.pkt_type, word p (vrr_header_size + 4)))) =
      some [(VRR_SETUP_REQ, some 5)] := by decide +kernel
  rcases Option.map_eq_some_iff.mp heval with ⟨t, ht, hsent⟩
  have hreach := (reach_run_events (fun _ => True) node_one node_one t _ Reach.refl
    (fun _ _ => trivial) ht).mono (fun u i v hstep => hstep.1)
  rcases List.map_eq_singleton_iff.mp hsent with ⟨p, hp, hword⟩
  rw [Prod.mk.injEq] at hword
  refine ⟨t, hreach, p, by rw [hp]; exact List.mem_singleton_self p, fun hpass => ?_⟩
  rcases hpass (by rw [hword.1]; exact Or.inl rfl) with ⟨n, hn, hle⟩
  have hindex : vrr_header_size + 4 * size_index p.vh.pkt_type = vrr_header_size + 4 := by
    rw [hword.1]
    rfl
  rw [hindex, hword.2, Option.some.injEq] at hn
  rw [← hn] at hle
  exact absurd hle (by decide)

end AlpacaVrr
