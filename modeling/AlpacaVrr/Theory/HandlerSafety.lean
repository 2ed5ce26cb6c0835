import AlpacaVrr.Core.System
import AlpacaVrr.Theory.Faults
import AlpacaVrr.Theory.SizeCheck
import AlpacaVrr.Theory.Decoding

/-!
# Safety of the Handlers

Which packets a node handles without touching memory it does not have.

Three accesses are at stake. `vrr_rcv_teardown` reads the fields of the route
it removed, and there may have been none. `vrr_rcv_setup_fail` at the node the
packet is for writes one word behind its buffer, always.
`vrr_local_rcv_setup_fail` writes the first word of a buffer as long as the
node's own vset, which may be empty. `Prepared` says of a packet that it
leads to none of them, in terms of the packet and the node's tables, and
`handling_safe_iff` that this is exact.

An allocation that fails unchecked is a different fault, and `Safe` leaves it
in: it is the only one, and it needs a kernel that let an allocation fail.

The join that is rejected with an empty vset comes about in one way only.
As long as the counter is zero every id should be added, so `vrr_add` returns
zero only for the source that stands for none.

## Main definitions

* `Complete`: All the words of a control packet are there.
* `Safe`: No run of `vrr_rcv` leaves the memory it has.
* `Prepared`: The packets that are handled safely.

## Theorems

* `vrr_rcv_setup_req_sound`, `vrr_rcv_setup_fail_sound`,
  `vrr_rcv_teardown_sound`: The three handlers, on such packets.
* `handling_safe_iff`: A packet is handled safely exactly when it is prepared.
* `run_inside`: Over a whole run no vset buffer is overrun.
* `teardown_unsafe`: A fresh node does not survive a teardown.
-/

namespace AlpacaVrr

open FaultState

/-- The words in front of the vset are there, its size is accepted, and so are
    its words. -/
def Complete (p : Packet) : Prop :=
  CarriesVset p.vh.pkt_type → ∃ n,
    (∀ i < size_index p.vh.pkt_type, (word p (vrr_header_size + 4 * i)).isSome = true) ∧
    word p (vrr_header_size + 4 * size_index p.vh.pkt_type) = some n ∧
    n.toNat ≤ VRR_VSET_SIZE ∧
    (words p (vrr_header_size + 4 * (size_index p.vh.pkt_type + 1)) n.toNat).isSome = true

/-- Whatever the kernel does, handling the packet ends with no write past a
    vset buffer, or stops at an allocation that failed. -/
def Safe (me : Node) (skb : SkBuff) : Prop :=
  ∀ k : Kernel, match Vrr.vrr_rcv skb (Sys.boot me k) with
    | .ok (_, t) => t.vset_overruns = []
    | .error e => e = .nullAlloc ∧ ∃ i, k.kmalloc i = false

/-- The next hop that `next_hop_via` finds. -/
def hop_via (me : Node) (dst proxy : U32) : U32 :=
  if pset_get_status me.pset dst = .unknown then RtTable.rt_get_next me.me me.rt proxy else dst

/-- A teardown is of a route that the node has, a setup failure is not for the
    node itself, and a setup request that it answers while its vset is empty
    has a source. -/
structure Prepared (me : Node) (p : Packet) : Prop where
  teardown : p.vh.pkt_type = VRR_TEARDOWN → ∃ ea pid, word p vrr_header_size = some ea ∧
    word p (vrr_header_size + 4) = some pid ∧ ∃ route ∈ me.rt.routes ea, route.path_id = pid
  setup_fail : p.vh.pkt_type = VRR_SETUP_FAIL → p.dst = me.me →
    ∀ proxy, word p vrr_header_size = some proxy → hop_via me p.dst proxy ≠ 0
  setup_req : p.vh.pkt_type = VRR_SETUP_REQ →
    RtTable.rt_get_next_exclude me.me me.rt p.dst p.src = 0 → me.vset.vset_size = 0 →
    p.src ≠ UINT_MAX

theorem hop_via_heard (me : Node) (src dst proxy : U32) :
    hop_via (heard me src) dst proxy = hop_via me dst proxy := by
  unfold hop_via heard
  rw [pset_get_status_reset_fail_count]

/-- What `vrr_rcv` does first makes no difference to a packet. -/
theorem prepared_heard (me : Node) (src : U32) (p : Packet) :
    Prepared (heard me src) p ↔ Prepared me p := by
  constructor
  · intro h
    refine ⟨h.teardown, fun hty hdst proxy hproxy => ?_, h.setup_req⟩
    rw [← hop_via_heard me src]
    exact h.setup_fail hty hdst proxy hproxy
  · intro h
    refine ⟨h.teardown, fun hty hdst proxy hproxy => ?_, h.setup_req⟩
    rw [hop_via_heard]
    exact h.setup_fail hty hdst proxy hproxy

namespace Vrr

section Contained

variable (r : Prop)

/-- A contained function that is still leaves the node where it was. -/
theorem contained_at {α : Type} {x : Vrr α} (hstill : Keeps Sys.still x) (hx : Contained r x)
    (n : Node) : Triple (fun s => s.node = n ∧ s.Sound r) x (fun _ s => s.node = n ∧ s.Sound r)
      (AllocFault r) :=
  (node_of_still hstill).triple (fun m => m = n) hx

theorem draws_at (n : Node) :
    Draws (fun s => s.node = n ∧ s.Sound r) (AllocFault r) :=
  ⟨contained_at r (still_of_visible uninit_visible) (uninit_contained r) n,
    fun size => contained_at r (still_of_visible (kmalloc_visible size))
      (kmalloc_contained r size) n⟩

/-- `contained_at`, with what the function is known to return. -/
theorem sound_at {α : Type} {x : Vrr α} {φ : α → Prop} (hstill : Keeps Sys.still x)
    (hx : Triple (Sys.Sound r) x (fun a s => s.Sound r ∧ φ a) (AllocFault r)) (n : Node) :
    Triple (fun s => s.node = n ∧ s.Sound r) x (fun a s => (s.node = n ∧ s.Sound r) ∧ φ a)
      (AllocFault r) :=
  ((node_of_still hstill).triple (fun m => m = n) hx).post (fun _ _ h => ⟨⟨h.1, h.2.1⟩, h.2.2⟩)

theorem node_at (n : Node) :
    Triple (fun s => s.node = n ∧ s.Sound r) node (fun me s => (s.node = n ∧ s.Sound r) ∧ me = n)
      (AllocFault r) :=
  Triple.gets _ (fun _ hs => ⟨hs, hs.1⟩)

theorem next_hop_via_at (n : Node) (dst proxy : U32) :
    Triple (fun s => s.node = n ∧ s.Sound r) (next_hop_via dst proxy)
      (fun nh s => (s.node = n ∧ s.Sound r) ∧ nh = hop_via n dst proxy) (AllocFault r) := by
  unfold next_hop_via
  refine Triple.bind (node_at r n) (fun me => Triple.of_and (fun hme => ?_))
  rw [hme, hop_via]
  refine Triple.ite _ (fun h => ?_) (fun h => Triple.pure _ (fun s hs => ⟨hs, (if_neg h).symm⟩))
  unfold rt_get_next
  refine Triple.bind (node_at r n) (fun me' => Triple.of_and (fun hme' => ?_))
  rw [hme']
  exact Triple.pure _ (fun s hs => ⟨hs, (if_pos h).symm⟩)

theorem rt_get_next_exclude_at (n : Node) (dest src : U32) :
    Triple (fun s => s.node = n ∧ s.Sound r) (rt_get_next_exclude dest src)
      (fun nh s => (s.node = n ∧ s.Sound r) ∧ nh = RtTable.rt_get_next_exclude n.me n.rt dest src)
      (AllocFault r) := by
  unfold rt_get_next_exclude
  refine Triple.bind (node_at r n) (fun me => Triple.of_and (fun hme => ?_))
  rw [hme]
  exact Triple.pure _ (fun s hs => ⟨hs, rfl⟩)

/-- The size that `vset_get_all` hands back is the counter. -/
theorem vset_get_all_at (n : Node) :
    Triple (fun s => s.node = n ∧ s.Sound r) vset_get_all
      (fun v s => (s.node = n ∧ s.Sound r) ∧ v.1 = n.vset.vset_size ∧ Backed r v.1 v.2)
      (AllocFault r) := by
  have hsize : Triple (fun s => s.node = n) vset_get_all (fun v _ => v.1 = n.vset.vset_size)
      (fun _ => True) := by
    unfold vset_get_all
    refine Triple.bind (Q := fun me _ => me = n) (Triple.gets _ (fun s hs => hs)) (fun me => ?_)
    refine Triple.bind (Q := fun _ _ => me = n) ?_ (fun all => ?_)
    · exact (kmalloc_visible _).preserves (fun _ => me = n)
    refine Triple.bind (Q := fun _ _ => me = n) (uninit_visible.preserves (fun _ => me = n))
      (fun g => ?_)
    refine Triple.ite _ (fun _ => Triple.pure _ (fun s hs => by rw [← hs]; rfl)) (fun _ => ?_)
    exact Triple.ite _ (fun _ => Triple.pure _ (fun s hs => by rw [← hs]))
      (fun _ => Triple.fault _ trivial)
  intro s hs
  have hrun := sound_at r (still_of_visible vset_get_all_visible) (vset_get_all_sound r) n s hs
  have hrun' := hsize s hs.1
  cases hx : vset_get_all s with
  | ok v =>
      rw [hx] at hrun hrun'
      exact ⟨hrun.1, hrun', hrun.2⟩
  | error e =>
      rw [hx] at hrun
      exact hrun

/-- While the counter is zero every id should be added. -/
theorem vset_should_add_at (n : Node) (id : U32) :
    Triple (fun s => s.node = n ∧ s.Sound r) (vset_should_add id)
      (fun should s => (s.node = n ∧ s.Sound r) ∧ (n.vset.vset_size = 0 → should = true))
      (AllocFault r) := by
  unfold vset_should_add
  refine Triple.bind (node_at r n) (fun me => Triple.of_and (fun hme => ?_))
  refine Triple.bind (draws_at r n).uninit (fun left => ?_)
  refine Triple.bind (draws_at r n).uninit (fun right => ?_)
  refine Triple.pure _ (fun s hs => ⟨hs, fun h0 => ?_⟩)
  have hlen := n.vset.length_le
  rw [h0, Nat.le_zero, List.length_eq_zero_iff] at hlen
  have habs : id ∉ n.vset.nodes := by
    rw [Vset.nodes, hlen, List.map_nil]
    exact List.not_mem_nil
  rw [hme, AlpacaVrr.vset_should_add, if_neg habs, h0]
  exact if_pos (by decide)

/-- `vrr_add` accepts every source while the counter is zero. -/
theorem vrr_add_sound (n : Node) (src : U32) (vset : List U32) :
    Triple (fun s => s.node = n ∧ s.Sound r) (vrr_add src vset)
      (fun ret s => s.Sound r ∧ (ret = 0 → n.vset.vset_size = 0 → src = UINT_MAX))
      (AllocFault r) := by
  unfold vrr_add
  refine Triple.bind (contained_at r (vrr_add_requests_still vset)
    (vrr_add_requests_contained r vset) n) (fun _ => ?_)
  refine Triple.ite _ (fun hsrc => Triple.pure _ (fun s hs => ⟨hs.2, fun _ _ => hsrc⟩))
    (fun _ => ?_)
  refine Triple.bind (vset_should_add_at r n src) (fun should => Triple.of_and (fun hshould => ?_))
  refine Triple.ite _ (fun _ => ?_) (fun hno =>
    Triple.pure _ (fun s hs => ⟨hs.2, fun _ h0 => absurd (hshould h0) hno⟩))
  refine Triple.bind ((vset_add_contained r src 0).pre (fun s hs => hs.2)) (fun _ => ?_)
  exact Triple.pure _ (fun s hs => ⟨hs, fun h => absurd h (by decide)⟩)

theorem vrr_local_rcv_setup_contained (dst pid proxy : U32) (vset_size : Nat)
    (vset : Option (List U32)) (h : Backed r vset_size vset) :
    Contained r (vrr_local_rcv_setup dst pid proxy vset_size vset) := by
  unfold vrr_local_rcv_setup
  refine Confines.bind (Confines.gets _) (fun me => ?_)
  refine Confines.bind (next_hop_via_contained r _ _) (fun nh => ?_)
  refine Confines.bind (rt_add_route_contained r _ _ _ _ _) (fun added => ?_)
  refine Confines.ite _ (fun _ => Confines.ite _ (fun _ => ?_) (fun _ => Confines.pure _))
    (fun _ => Confines.bind (tear_down_path_contained r _ _ _) (fun _ => Confines.pure _))
  exact Confines.bind (send_setup_contained r _ _ _ _ _ _ _ h) (fun _ => Confines.pure _)

/-- A buffer of at least one word has room for the first. -/
theorem vrr_local_rcv_setup_fail_contained (dst proxy : U32) (vset_size : Nat)
    (vset : Option (List U32)) (h : Backed r vset_size vset) (hpos : vset_size ≠ 0) :
    Contained r (vrr_local_rcv_setup_fail dst proxy vset_size vset) := by
  unfold vrr_local_rcv_setup_fail
  refine Confines.bind (Confines.gets _) (fun me => ?_)
  refine Triple.bind (kmalloc_sound r _) (fun ovset => Triple.of_and (fun hovset => ?_))
  refine Confines.bind (next_hop_via_contained r _ _) (fun nh => ?_)
  refine Confines.ite _ (fun _ => ?_)
    (fun hno => Confines.fault _ ⟨rfl, fun hr => hno (hovset hr)⟩)
  refine Confines.ite _ (fun h0 => absurd h0 hpos) (fun _ => ?_)
  refine Confines.bind (vrr_add_contained r _ _) (fun _ => Confines.ite _ (fun _ => ?_)
    (fun _ => Confines.pure _))
  exact Confines.bind (send_setup_fail_contained r _ _ _ _ _ _ h) (fun _ => Confines.pure _)

theorem vrr_rcv_data_contained (skb : SkBuff) : Contained r (vrr_rcv_data skb) := by
  unfold vrr_rcv_data
  refine Confines.bind (Confines.gets _) (fun me => Confines.ite _ (fun _ => ?_)
    (fun _ => Confines.bind (vrr_forward_contained r _) (fun _ => Confines.pure _)))
  cases vrr_find_sock me.vrr_socks skb.pkt.src with
  | none => exact Confines.pure _
  | some sk =>
      exact Confines.bind (Confines.gets _) (fun ret =>
        Confines.bind (kfree_skb_contained r .received) (fun _ => Confines.pure _))

theorem vrr_rcv_hello_contained (skb : SkBuff) : Contained r (vrr_rcv_hello skb) :=
  (draws_contained r).vrr_rcv_hello skb (fun _ hs => hs)
    (fun _ _ _ => set_node_contained r _)

theorem vrr_rcv_setup_contained (skb : SkBuff) : Contained r (vrr_rcv_setup skb) := by
  unfold vrr_rcv_setup
  refine Confines.bind (Confines.gets _) (fun me => ?_)
  refine Confines.bind ((draws_contained r).read_u32 _ _) (fun pid => ?_)
  refine Confines.bind ((draws_contained r).read_u32 _ _) (fun proxy => ?_)
  cases (if skb.dev_addr = skb.h_source then some me.me
      else pset_lookup_mac me.pset skb.h_source) with
  | none => exact Confines.bind (tear_down_path_contained r _ _ _) (fun _ => Confines.pure _)
  | some sender =>
      refine Confines.bind (setup_next_hop_contained r _ _) (fun nh => ?_)
      refine Confines.bind (rt_add_route_contained r _ _ _ _ _) (fun added => ?_)
      refine Confines.ite _ (fun _ => ?_)
        (fun _ => Confines.bind (tear_down_path_contained r _ _ _) (fun _ => Confines.pure _))
      refine Confines.bind ((draws_contained r).read_u32 _ _) (fun vset_size => ?_)
      refine (draws_contained r).received_vset _ _ _ _ _ (fun _ hs => hs) (fun _ vset => ?_)
      refine Confines.ite _ (fun _ => ?_) (fun _ => ?_)
      · exact Confines.bind (send_setup_contained r _ _ _ _ _ _ _ (backed_some r _ _))
          (fun _ => Confines.pure _)
      · refine Confines.bind (vrr_add_contained r _ _) (fun ret => Confines.ite _ (fun _ => ?_)
          (fun _ => Confines.pure _))
        exact Confines.bind (set_node_contained r _) (fun _ => Confines.pure _)

/-- A rejected join is told so with a vset that is not empty. -/
theorem vrr_rcv_setup_req_sound (n : Node) (skb : SkBuff)
    (hsrc : RtTable.rt_get_next_exclude n.me n.rt skb.pkt.dst skb.pkt.src = 0 →
      n.vset.vset_size = 0 → skb.pkt.src ≠ UINT_MAX) :
    Triple (fun s => s.node = n ∧ s.Sound r) (vrr_rcv_setup_req skb) (fun _ s => s.Sound r)
      (AllocFault r) := by
  unfold vrr_rcv_setup_req
  refine Triple.bind (rt_get_next_exclude_at r n _ _) (fun nh => Triple.of_and (fun hnh => ?_))
  refine Triple.ite _ (fun _ => ?_) (fun h0 => ?_)
  · exact Triple.pre (Confines.bind (vrr_forward_setup_req_contained r _ _)
      (fun _ => Confines.pure _)) (fun s hs => hs.2)
  rw [not_not] at h0
  refine Triple.bind ((draws_at r n).read_u32 _ _) (fun proxy => ?_)
  refine Triple.bind ((draws_at r n).read_u32 _ _) (fun vset_size => ?_)
  refine (draws_at r n).received_vset _ _ _ _ _ (fun s hs => hs.2) (fun _ vset => ?_)
  refine Triple.bind (vset_get_all_at r n) (fun v => Triple.of_and (fun hv => ?_))
  refine Triple.bind (vrr_add_sound r n _ _) (fun added => Triple.of_and (fun hadded => ?_))
  refine Confines.ite _ (fun _ => ?_) (fun hrej => ?_)
  · exact Confines.bind (random_contained r) (fun pid => Confines.bind
      (vrr_local_rcv_setup_contained r _ _ _ _ _ hv.2) (fun _ => Confines.pure _))
  · refine Confines.bind (vrr_local_rcv_setup_fail_contained r _ _ _ _ hv.2 (fun hzero => ?_))
      (fun _ => Confines.pure _)
    -- with an empty vset the join was not rejected
    rw [not_not] at hrej
    have hcount : n.vset.vset_size = 0 := hv.1.symm.trans hzero
    exact hsrc (hnh.symm.trans h0) hcount (hadded hrej hcount)

/-- A setup failure that is passed on, or that is for another node. -/
theorem vrr_rcv_setup_fail_sound (n : Node) (skb : SkBuff) (proxy : U32)
    (hproxy : word skb.pkt vrr_header_size = some proxy)
    (hdst : skb.pkt.dst = n.me → hop_via n skb.pkt.dst proxy ≠ 0) :
    Triple (fun s => s.node = n ∧ s.Sound r) (vrr_rcv_setup_fail skb) (fun _ s => s.Sound r)
      (AllocFault r) := by
  unfold vrr_rcv_setup_fail
  rw [read_u32_of_word hproxy]
  refine Triple.pure_bind _ ?_
  refine Triple.bind ((draws_at r n).read_u32 _ _) (fun vset_size => ?_)
  refine (draws_at r n).received_vset _ _ _ _ _ (fun s hs => hs.2) (fun _ vset => ?_)
  refine Triple.bind (next_hop_via_at r n _ _) (fun nh => Triple.of_and (fun hnh => ?_))
  refine Triple.ite _ (fun _ => ?_) (fun h0 => ?_)
  · exact Triple.pre (Confines.bind (send_setup_fail_contained r _ _ _ _ _ _
      (backed_some r _ _)) (fun _ => Confines.pure _)) (fun s hs => hs.2)
  · rw [not_not] at h0
    refine Triple.bind (node_at r n) (fun me => Triple.of_and (fun hme => ?_))
    rw [hme]
    exact Triple.ite _ (fun h => absurd (hnh.symm.trans h0) (hdst h))
      (fun _ => Triple.pure _ (fun s hs => hs.2))

/-- A teardown of a route that is there. -/
theorem vrr_rcv_teardown_sound (n : Node) (skb : SkBuff) (ea pid : U32) (route : RtEntry)
    (hea : word skb.pkt vrr_header_size = some ea)
    (hpid : word skb.pkt (vrr_header_size + 4) = some pid)
    (hroute : route ∈ n.rt.routes ea) (hpath : route.path_id = pid) :
    Triple (fun s => s.node = n ∧ s.Sound r) (vrr_rcv_teardown skb) (fun _ s => s.Sound r)
      (AllocFault r) := by
  unfold vrr_rcv_teardown
  rw [read_u32_of_word hea, read_u32_of_word hpid]
  refine Triple.pure_bind _ (Triple.pure_bind _ ?_)
  refine Triple.bind ((draws_at r n).read_u32 _ _) (fun vset_size => ?_)
  refine Triple.bind (Q := fun found s => s.Sound r ∧ found.isSome = true) ?_
    (fun found => Triple.of_and (fun hfound => ?_))
  · intro s hs
    refine ⟨⟨hs.2.alloc, hs.2.inside⟩, ?_⟩
    rw [RtTable.route_remove, List.find?_isSome, hs.1]
    exact ⟨route, hroute, beq_iff_eq.mpr hpath⟩
  cases found with
  | none => exact absurd hfound Bool.false_ne_true
  | some found =>
      refine (draws_contained r).received_vset _ _ _ _ _ (fun _ hs => hs) (fun _ vset => ?_)
      refine Confines.ite _ (fun _ => ?_) (fun _ => ?_)
      · exact Confines.bind (send_teardown_contained r _ _ _ _ _ (backed_some r _ _))
          (fun _ => Confines.pure _)
      · exact Confines.bind (vset_remove_contained r _) (fun _ =>
          Confines.bind (vrr_add_contained r _ _) (fun _ => Confines.pure _))

/-- The dispatch, and with it every handler. -/
theorem vrr_rcvfunc_sound (n : Node) (skb : SkBuff) (hty : skb.pkt.vh.pkt_type < VRR_NPTYPES)
    (hcomplete : Complete skb.pkt) (hprep : Prepared n skb.pkt) :
    Triple (fun s => s.node = n ∧ s.Sound r) (vrr_rcvfunc skb) (fun _ s => s.Sound r)
      (AllocFault r) := by
  refine vrr_rcvfunc_triple skb hty
    (fun _ => (vrr_rcv_data_contained r skb).pre (fun s hs => hs.2))
    (fun _ => (vrr_rcv_hello_contained r skb).pre (fun s hs => hs.2))
    (fun h => vrr_rcv_setup_req_sound r n skb (hprep.setup_req h))
    (fun _ => (vrr_rcv_setup_contained r skb).pre (fun s hs => hs.2)) (fun h => ?_) (fun h => ?_)
  · rcases hcomplete (Or.inr (Or.inr (Or.inl h))) with ⟨_, hfields, _⟩
    rw [h] at hfields
    rcases Option.isSome_iff_exists.mp (hfields 0 (by decide)) with ⟨proxy, hproxy⟩
    exact vrr_rcv_setup_fail_sound r n skb proxy hproxy
      (fun hdst => hprep.setup_fail h hdst proxy hproxy)
  · rcases hprep.teardown h with ⟨ea, pid, hea, hpid, route, hroute, hpath⟩
    exact vrr_rcv_teardown_sound r n skb ea pid route hea hpid hroute hpath

theorem vrr_rcv_sound (me : Node) (skb : SkBuff) (hcomplete : Complete skb.pkt)
    (hprep : Prepared me skb.pkt) :
    Triple (fun s => s.node = me ∧ s.Sound r) (vrr_rcv skb) (fun _ s => s.Sound r)
      (AllocFault r) := by
  have hfree := kfree_skb_contained r .received
  refine vrr_rcv_triple (I := fun s => s.node = heard me skb.pkt.src ∧ s.Sound r)
    (J := fun _ s => s.Sound r) skb (fun _ => Triple.pre hfree (fun s hs => hs.2))
    (fun s hs => ⟨by rw [← hs.1], hs.2.alloc, hs.2.inside⟩) (fun hty => ?_) (fun _ _ => hfree)
    (fun _ hs => hs)
  exact vrr_rcvfunc_sound r _ skb hty hcomplete
    ((prepared_heard me skb.pkt.src skb.pkt).mpr hprep)

end Contained

/-- Without the route the handler does not come to its end. -/
theorem vrr_rcv_teardown_stops (n : Node) (skb : SkBuff) (ea pid : U32)
    (hea : word skb.pkt vrr_header_size = some ea)
    (hpid : word skb.pkt (vrr_header_size + 4) = some pid)
    (hno : ¬ ∃ route ∈ n.rt.routes ea, route.path_id = pid) :
    Triple (fun s => s.node = n) (vrr_rcv_teardown skb) (fun _ _ => False) (fun _ => True) := by
  unfold vrr_rcv_teardown
  rw [read_u32_of_word hea, read_u32_of_word hpid]
  refine Triple.pure_bind _ (Triple.pure_bind _ ?_)
  have hdraws : Draws (fun s => s.node = n) (fun _ => True) :=
    draws_of_visible (fun _ hx => node_of_still (still_of_visible hx) n)
  refine Triple.bind (hdraws.read_u32 _ _) (fun vset_size => ?_)
  refine Triple.bind (Q := fun found _ => found = none) (fun s hs => ?_) (fun found => ?_)
  · have hfind : (n.rt.rt_remove_route ea pid).1 = none := by
      rw [RtTable.route_remove, List.find?_eq_none]
      exact fun route hroute hpath => hno ⟨route, hroute, beq_iff_eq.mp hpath⟩
    rw [← hs] at hfind
    exact hfind
  cases found with
  | none => exact Triple.fault _ trivial
  | some route => exact fun s hs => absurd hs (Option.some_ne_none route)

/-- At the node it is for, a setup failure is written past the end of its
    buffer. -/
theorem vrr_rcv_setup_fail_overruns (n : Node) (skb : SkBuff) (proxy vset_size : U32)
    (hproxy : word skb.pkt vrr_header_size = some proxy)
    (hsize : word skb.pkt (vrr_header_size + 4) = some vset_size)
    (hle : vset_size.toNat ≤ VRR_VSET_SIZE) (hdst : skb.pkt.dst = n.me)
    (hhop : hop_via n skb.pkt.dst proxy = 0) :
    Triple (fun s => s.node = n ∧ s.Sound True) (vrr_rcv_setup_fail skb)
      (fun _ t => t.vset_overruns ≠ []) (fun _ => True) := by
  unfold vrr_rcv_setup_fail
  rw [read_u32_of_word hproxy, read_u32_of_word hsize]
  refine Triple.pure_bind _ (Triple.pure_bind _ ?_)
  refine Triple.ite _ (fun h => absurd hle (Nat.not_le_of_lt h)) (fun _ => ?_)
  refine Triple.bind (sound_at True (still_of_visible (kmalloc_visible _))
    (kmalloc_sound True _) n).lax (fun buffer => Triple.of_and (fun hbuffer => ?_))
  refine Triple.ite _ (fun _ => ?_) (fun h => absurd (hbuffer trivial) h)
  refine Triple.bind ((draws_at True n).read_array _ _ _).lax (fun vset => ?_)
  refine Triple.bind (next_hop_via_at True n _ _).lax (fun nh => Triple.of_and (fun hnh => ?_))
  refine Triple.ite _ (fun h => absurd (hnh.trans hhop) h) (fun _ => ?_)
  refine Triple.bind (node_at True n).lax (fun me => Triple.of_and (fun hme => ?_))
  rw [hme]
  refine Triple.ite _ (fun _ => ?_) (fun h => absurd hdst h)
  -- the word behind the buffer is on record, and sending leaves it there
  refine Triple.bind (Q := fun _ t => t.vset_overruns ≠ []) (fun s _ => ?_) (fun _ => ?_)
  · intro hnil
    have hone : vset_size.toNat + 2 - (vset_size.toNat + 1) = 1 := by omega
    rw [Sys.vset_overruns, List.filter_eq_nil_iff] at hnil
    refine hnil ⟨.vset, vset_size.toNat + 1⟩ (List.mem_append_right _ ?_) rfl
    rw [hone]
    exact List.mem_singleton.mpr rfl
  · refine Triple.bind ((vrr_add_none_still vset).preserves (fun v => v.2 ≠ [])) (fun _ => ?_)
    exact Triple.pure _ (fun s hs => hs)

theorem vrr_local_rcv_setup_fail_stops (dst proxy : U32) (vset : Option (List U32)) :
    Triple (fun _ => True) (vrr_local_rcv_setup_fail dst proxy 0 vset) (fun _ _ => False)
      (fun _ => True) := by
  unfold vrr_local_rcv_setup_fail
  refine Triple.bind Triple.any (fun me => Triple.bind Triple.any (fun ovset => ?_))
  refine Triple.bind Triple.any (fun nh => ?_)
  exact Triple.ite _ (fun _ => Triple.ite _ (fun _ => Triple.fault _ trivial)
    (fun h => absurd rfl h)) (fun _ => Triple.fault _ trivial)

/-- A request without a source is rejected, even with an empty vset. -/
theorem vrr_rcv_setup_req_stops (n : Node) (skb : SkBuff) (vset_size : U32)
    (hsize : word skb.pkt (vrr_header_size + 4) = some vset_size)
    (hle : vset_size.toNat ≤ VRR_VSET_SIZE)
    (hnext : RtTable.rt_get_next_exclude n.me n.rt skb.pkt.dst skb.pkt.src = 0)
    (hcount : n.vset.vset_size = 0) (hsrc : skb.pkt.src = UINT_MAX) :
    Triple (fun s => s.node = n ∧ s.Sound True) (vrr_rcv_setup_req skb) (fun _ _ => False)
      (fun _ => True) := by
  unfold vrr_rcv_setup_req
  refine Triple.bind (rt_get_next_exclude_at True n _ _).lax
    (fun nh => Triple.of_and (fun hnh => ?_))
  refine Triple.ite _ (fun h => absurd (hnh.trans hnext) h) (fun _ => ?_)
  refine Triple.bind ((draws_at True n).read_u32 _ _).lax (fun proxy => ?_)
  rw [read_u32_of_word hsize]
  refine Triple.pure_bind _ ?_
  refine Triple.ite _ (fun h => absurd hle (Nat.not_le_of_lt h)) (fun _ => ?_)
  refine Triple.bind (sound_at True (still_of_visible (kmalloc_visible _))
    (kmalloc_sound True _) n).lax (fun buffer => Triple.of_and (fun hbuffer => ?_))
  refine Triple.ite _ (fun _ => ?_) (fun h => absurd (hbuffer trivial) h)
  refine Triple.bind ((draws_at True n).read_array _ _ _).lax (fun vset => ?_)
  refine Triple.bind (vset_get_all_at True n).lax (fun v => Triple.of_and (fun hv => ?_))
  refine Triple.bind (Q := fun added _ => added = 0) ?_ (fun added => ?_)
  · unfold vrr_add
    refine Triple.bind Triple.any (fun _ => ?_)
    rw [if_pos hsrc]
    exact Triple.pure _ (fun _ _ => rfl)
  refine Triple.ite _ (fun h => fun s hs => absurd hs h) (fun _ => ?_)
  rw [hv.1, hcount]
  exact Triple.bind ((vrr_local_rcv_setup_fail_stops _ _ _).pre (fun _ _ => trivial))
    (fun _ => fun s hs => hs.elim)

/-- With allocations that succeed, all that is safe ends inside the buffers. -/
theorem not_safe_of_triple (me : Node) (skb : SkBuff) (hty : skb.pkt.vh.pkt_type < VRR_NPTYPES)
    (h : Triple (fun s => s.node = heard me skb.pkt.src ∧ s.Sound True) (vrr_rcvfunc skb)
      (fun _ t => t.vset_overruns ≠ []) (fun _ => True)) : ¬ Safe me skb := by
  intro hsafe
  have hrcv : Triple (fun s => s.node = me ∧ s.Sound True) (vrr_rcv skb)
      (fun _ t => t.vset_overruns ≠ []) (fun _ => True) := by
    refine vrr_rcv_triple (I := fun s => s.node = heard me skb.pkt.src ∧ s.Sound True) skb
      (fun hge => absurd hge (BitVec.not_le.mpr hty))
      (fun s hs => ⟨by rw [← hs.1], hs.2.alloc, hs.2.inside⟩) (fun _ => h) (fun _ _ => ?_)
      (fun _ hs => hs)
    exact (kfree_skb_still _).preserves (fun v => v.2 ≠ [])
  have hrun := hrcv (Sys.boot me Kernel.calm) ⟨rfl, fun _ _ => rfl, rfl⟩
  have hend := hsafe Kernel.calm
  cases hx : vrr_rcv skb (Sys.boot me Kernel.calm) with
  | ok p =>
      rw [hx] at hrun hend
      exact hrun hend
  | error e =>
      rw [hx] at hend
      rcases hend with ⟨_, i, hi⟩
      exact Bool.false_ne_true hi.symm

end Vrr

/-- A packet that is complete is handled safely exactly when the node is
    prepared for it. -/
theorem handling_safe_iff (me : Node) (skb : SkBuff) (hcomplete : Complete skb.pkt) :
    Safe me skb ↔ Prepared me skb.pkt := by
  constructor
  · intro hsafe
    rw [← prepared_heard me skb.pkt.src]
    refine ⟨fun hty => ?_, fun hty hdst proxy hproxy hhop => ?_, fun hty hnext hcount hsrc => ?_⟩
    · -- a teardown: its two words are there, and name a route
      rcases hcomplete (Or.inr (Or.inr (Or.inr hty))) with ⟨_, hfields, _⟩
      rw [hty] at hfields
      rcases Option.isSome_iff_exists.mp (hfields 0 (by decide)) with ⟨ea, hea⟩
      rcases Option.isSome_iff_exists.mp (hfields 1 (by decide)) with ⟨pid, hpid⟩
      refine ⟨ea, pid, hea, hpid, ?_⟩
      by_contra hno
      refine Vrr.not_safe_of_triple me skb (by rw [hty]; decide) ?_ hsafe
      unfold Vrr.vrr_rcvfunc
      rw [hty]
      exact (Vrr.vrr_rcv_teardown_stops _ skb ea pid hea hpid hno).conseq (fun s hs => hs.1)
        (fun _ _ hf => hf.elim) (fun _ h => h)
    · -- a setup failure at its destination: the word behind the buffer is written
      rcases hcomplete (Or.inr (Or.inr (Or.inl hty))) with ⟨size, _, hsize, hle, _⟩
      rw [hty] at hsize
      refine Vrr.not_safe_of_triple me skb (by rw [hty]; decide) ?_ hsafe
      unfold Vrr.vrr_rcvfunc
      rw [hty]
      exact Vrr.vrr_rcv_setup_fail_overruns _ skb proxy size hproxy hsize hle hdst hhop
    · -- a request of the source that is none: it is rejected with an empty vset
      rcases hcomplete (Or.inl hty) with ⟨size, _, hsize, hle, _⟩
      rw [hty] at hsize
      refine Vrr.not_safe_of_triple me skb (by rw [hty]; decide) ?_ hsafe
      unfold Vrr.vrr_rcvfunc
      rw [hty]
      exact (Vrr.vrr_rcv_setup_req_stops _ skb size hsize hle hnext hcount hsrc).post
        (fun _ _ hf => hf.elim)
  · intro hprep k
    have hrun := Vrr.vrr_rcv_sound (∀ i, k.kmalloc i = true) me skb hcomplete hprep (Sys.boot me k)
      ⟨rfl, fun h => h, rfl⟩
    cases hx : Vrr.vrr_rcv skb (Sys.boot me k) with
    | ok p =>
        rw [hx] at hrun
        exact hrun.inside
    | error e =>
        -- an allocation was used that failed, so not all of them succeed
        rw [hx] at hrun
        refine ⟨hrun.1, ?_⟩
        rcases not_forall.mp hrun.2 with ⟨i, hi⟩
        exact ⟨i, Bool.not_eq_true _ ▸ hi⟩

/-- A request to node 1 from node 5, with an empty vset. -/
theorem handling_safe_iff_request :
    Safe node_one.node (frame 2 VRR_SETUP_REQ 5 1 [5, 0]) ↔
      Prepared node_one.node (frame 2 VRR_SETUP_REQ 5 1 [5, 0]).pkt :=
  handling_safe_iff node_one.node (frame 2 VRR_SETUP_REQ 5 1 [5, 0])
    (fun _ => ⟨0, by decide +kernel, by decide +kernel, by decide, by decide +kernel⟩)

/-- A teardown of a path that node 1 has never heard of. -/
theorem teardown_unsafe :
    ¬ ∀ s, Reach Step node_one s → ∀ skb, Complete skb.pkt → Safe s.node skb := by
  intro h
  have hsafe := h node_one Reach.refl (frame 2 VRR_TEARDOWN 2 1 [1, 7, 0])
    (fun _ => ⟨0, by decide +kernel, by decide +kernel, by decide, by decide +kernel⟩) Kernel.calm
  have heval : (match Vrr.vrr_rcv (frame 2 VRR_TEARDOWN 2 1 [1, 7, 0])
      (Sys.boot node_one.node Kernel.calm) with
    | .ok _ => none
    | .error e => some e) = some Fault.nullRoute := by decide +kernel
  cases hx : Vrr.vrr_rcv (frame 2 VRR_TEARDOWN 2 1 [1, 7, 0])
      (Sys.boot node_one.node Kernel.calm) with
  | ok p =>
      rw [hx] at heval
      exact absurd heval (by simp only [reduceCtorEq, not_false_eq_true])
  | error e =>
      rw [hx, Option.some.injEq] at heval
      rw [hx, heval] at hsafe
      exact absurd hsafe.1 (by decide)

/-- Nothing but packets needs preparing for. -/
def PreparedEvent (s : Sys) (e : Event) : Prop :=
  ∀ skb, e = .vrr_rcv skb → Complete skb.pkt ∧ Prepared s.node skb.pkt

theorem event_sound (r : Prop) (s : Sys) (e : Event) (hprep : PreparedEvent s e) :
    Triple (fun u => u.node = s.node ∧ u.Sound r) e.run (fun _ u => u.Sound r) (AllocFault r) := by
  cases e with
  | vrr_rcv skb =>
      rcases hprep skb rfl with ⟨hcomplete, hpkt⟩
      exact Triple.bind (Vrr.vrr_rcv_sound r s.node skb hcomplete hpkt)
        (fun _ => Triple.pure _ (fun _ hu => hu))
  | pset_update_handler => exact (Vrr.pset_update_handler_contained r).pre (fun _ hu => hu.2)
  | vrr_workqueue_handler => exact (Vrr.vrr_workqueue_handler_contained r).pre (fun _ hu => hu.2)
  | vrr_hash_sock sk => exact fun u hu => ⟨hu.2.alloc, hu.2.inside⟩
  | vrr_unhash_sock sk => exact fun u hu => ⟨hu.2.alloc, hu.2.inside⟩

/-- As long as all packets are prepared for, no vset buffer is overrun, and as
    long as allocations succeed nothing stops the node. -/
theorem run_inside (n : Node) (k : Kernel) (t : Sys)
    (hrun : Reach (fun s i t => Step s i t ∧ PreparedEvent s i.1) (Sys.boot n k) t) :
    t.vset_overruns = [] ∧ ∀ e k', PreparedEvent t e → (∀ i, k'.kmalloc i = true) →
      ∃ u, Step t (e, k') u := by
  have hinside : t.vset_overruns = [] := by
    refine hrun.invariant (fun s => s.vset_overruns = []) rfl (fun u i v hu hstep => ?_)
    exact ((event_sound False u i.1 hstep.2).ok (s := { u with kern := i.2 })
      ⟨rfl, False.elim, hu⟩ hstep.1).inside
  refine ⟨hinside, fun e k' hprep hk => ?_⟩
  have hend := event_sound True t e hprep { t with kern := k' } ⟨rfl, fun _ => hk, hinside⟩
  unfold Step
  cases hx : e.run { t with kern := k' } with
  | ok p => exact ⟨p.2, rfl⟩
  | error err =>
      rw [hx] at hend
      exact absurd trivial hend.2

end AlpacaVrr
