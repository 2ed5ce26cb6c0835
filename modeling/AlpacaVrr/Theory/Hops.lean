import AlpacaVrr.Core.System
import AlpacaVrr.Theory.Frames
import AlpacaVrr.Theory.RouteMap

/-!
# Hops and Neighbours

Whether the next hop of a route is a physical neighbour, over whole runs.

A route is added with hops that are neighbours at that time: the sender of the
setup by the lookup of its MAC address, and the next hop because it is either
the destination with an entry of its own or the answer of `rt_get_next`, a hop
of an older route. `HopsKnown` is the invariant, and it leaves out the side of
a route that faces the node itself. The first node of a path records itself as
previous hop there, and `rt_get_next` never takes that side, since it looks
nothing up under the node's own id.

Neighbours are lost in one place, the deletion in `detect_failures`.
`rt_remove_nexts`, which should take their routes out of the table, does
nothing and is not called. So the invariant holds exactly as long as no entry
is deleted that a route depends on, which is `HopsStay`.

## Main definitions

* `Sys.hops`, `HopsKnown`: The node's id, its table and its neighbours' ids,
  and the invariant on them.
* `HopsStay`: No tick deletes a neighbour that is a hop.
* `Foreign`: A packet received comes from another machine.

## Theorems

* `rt_get_next_known`: Under the invariant the next hop is a neighbour.
* `rt_add_route_known`: Adding a route with known hops keeps it.
* `vrr_rcv_known`, `pset_update_handler_known`, `vrr_workqueue_handler_known`:
  So do the three events.
* `next_hop_is_neighbour`: The next hop is a neighbour in every such run.
* `next_hop_deleted`: A run in which it is not.
-/

namespace AlpacaVrr

open FaultState

/-- The node's id, its table, and the ids of its neighbours. -/
structure Hops where
  me : U32
  rt : RtTable
  ids : List U32

def Sys.hops (s : Sys) : Hops := ⟨s.node.me, s.node.rt, pset_ids s.node.pset⟩

/-- No hop, or a neighbour. -/
def Known (h : Hops) (x : U32) : Prop := x = 0 ∨ x ∈ h.ids

/-- The hops of every route are known, on the sides that face another node. -/
def HopsKnown (h : Hops) : Prop :=
  ∀ e, ∀ r ∈ h.rt.routes e, (r.ea ≠ h.me → Known h r.na) ∧ (r.eb ≠ h.me → Known h r.nb)

/-- The next hop towards any destination is known. -/
theorem rt_get_next_known (h : Hops) (hk : HopsKnown h) (dest : U32) :
    Known h (RtTable.rt_get_next h.me h.rt dest) := by
  rw [RtTable.rt_get_next_eq]
  by_cases hme : dest = h.me
  · rw [if_pos hme]
    exact Or.inl rfl
  rw [if_neg hme]
  by_cases hzero : ∀ r ∈ h.rt.routes dest, r.path_id = 0
  · rw [route_list_search_of_zero h.me _ dest hzero]
    exact Or.inl rfl
  -- the hop comes from a route filed under the destination, on that side
  have hne : h.rt.routes dest ≠ [] := by
    intro hnil
    rw [hnil] at hzero
    exact hzero (fun r hr => absurd hr List.not_mem_nil)
  rcases exists_firstMax _ hne with ⟨r, hr⟩
  have hmem := firstMax_mem _ r hr
  have hend := (h.rt.filed dest r hmem).2
  have hr0 : r.path_id ≠ 0 := by
    intro h0
    apply hzero
    intro x hx
    have hle := firstMax_ge _ r x hr hx
    rw [h0] at hle
    bv_omega
  rw [route_list_search_of_firstMax h.me _ dest r hr hr0 hme hend, hop_towards]
  by_cases heb : dest = r.eb
  · rw [if_pos heb]
    exact (hk dest r hmem).2 (by rw [← heb]; exact hme)
  · rw [if_neg heb]
    exact (hk dest r hmem).1 (by rw [← hend.resolve_right heb]; exact hme)

/-- Dropping routes and gaining neighbours keeps the invariant. -/
theorem hopsKnown_mono (h h' : Hops) (hk : HopsKnown h) (hme : h'.me = h.me)
    (hrt : ∀ e, ∀ r ∈ h'.rt.routes e, r ∈ h.rt.routes e) (hids : ∀ x ∈ h.ids, x ∈ h'.ids) :
    HopsKnown h' := by
  intro e r hr
  rcases hk e r (hrt e r hr) with ⟨ha, hb⟩
  rw [hme]
  exact ⟨fun hne => (ha hne).imp_right (hids _), fun hne => (hb hne).imp_right (hids _)⟩

namespace Vrr

theorem hops_of_routing {α : Type} {x : Vrr α} (h : Keeps Sys.routing x) : Keeps Sys.hops x :=
  h.part (fun v : Node × List Overrun => (⟨v.1.me, v.1.rt, pset_ids v.1.pset⟩ : Hops))

theorem hops_of_still {α : Type} {x : Vrr α} (h : Keeps Sys.still x) : Keeps Sys.hops x :=
  hops_of_routing (routing_of_still h)

theorem hops_of_visible {α : Type} {x : Vrr α} (h : Keeps Sys.visible x) : Keeps Sys.hops x :=
  hops_of_still (still_of_visible h)

theorem hops_of_settled {α : Type} {x : Vrr α} (h : Keeps Sys.settled x) : Keeps Sys.hops x :=
  h.part (fun v : Node × List Packet => (⟨v.1.me, v.1.rt, pset_ids v.1.pset⟩ : Hops))

/-- Whatever leaves the hops alone keeps the invariant. -/
theorem known_of_hops {α : Type} {x : Vrr α} (h : Keeps Sys.hops x) :
    Preserves (fun s => HopsKnown s.hops) x :=
  h.preserves HopsKnown

theorem draws_known : Draws (fun s => HopsKnown s.hops) (fun _ => True) :=
  draws_of_visible (fun _ hx => known_of_hops (hops_of_visible hx))

theorem draws_hops (h : Hops) : Draws (fun s => s.hops = h) (fun _ => True) :=
  draws_of_visible (fun _ hx => hops_of_visible hx h)

/-- Reading the node, and what that says when the hops are known to be `h`. -/
theorem node_triple {α : Type} {Q : α → Sys → Prop} (h : Hops) (f : Node → Vrr α)
    (hf : ∀ me : Node, me.me = h.me → pset_ids me.pset = h.ids →
      Triple (fun s => s.hops = h) (f me) Q (fun _ => True)) :
    Triple (fun s => s.hops = h) (node >>= f) Q (fun _ => True) := by
  intro s hs
  exact hf s.node (congrArg Hops.me hs) (congrArg Hops.ids hs) s hs

/-- The result of `rt_get_next` is known. -/
theorem rt_get_next_triple (h : Hops) (hk : HopsKnown h) (dest : U32) :
    Triple (fun s => s.hops = h) (rt_get_next dest) (fun nh s => s.hops = h ∧ Known h nh)
      (fun _ => True) := by
  intro s hs
  have hnext := rt_get_next_known h hk dest
  rw [← hs] at hnext
  exact ⟨hs, by rw [← hs]; exact hnext⟩

/-- So is the next hop of a setup. -/
theorem next_hop_via_triple (h : Hops) (hk : HopsKnown h) (dst proxy : U32) :
    Triple (fun s => s.hops = h) (next_hop_via dst proxy)
      (fun nh s => s.hops = h ∧ Known h nh) (fun _ => True) := by
  unfold next_hop_via
  refine node_triple h _ (fun me _ hids => Triple.ite _ (fun _ => ?_) (fun hst => ?_))
  · exact rt_get_next_triple h hk proxy
  · exact Triple.pure _ (fun s hs =>
      ⟨hs, Or.inr (by rw [← hids]; exact mem_of_pset_get_status me.pset dst hst)⟩)

theorem setup_next_hop_triple (h : Hops) (hk : HopsKnown h) (dst proxy : U32) :
    Triple (fun s => s.hops = h) (setup_next_hop dst proxy)
      (fun nh s => s.hops = h ∧ Known h nh) (fun _ => True) := by
  unfold setup_next_hop
  refine node_triple h _ (fun me _ hids => Triple.ite _ (fun _ => ?_) (fun hst => ?_))
  · exact Triple.ite _ (fun _ => Triple.pure _ (fun s hs => ⟨hs, Or.inl rfl⟩))
      (fun _ => rt_get_next_triple h hk proxy)
  · exact Triple.pure _ (fun s hs =>
      ⟨hs, Or.inr (by rw [← hids]; exact mem_of_pset_get_status me.pset dst hst)⟩)

/-- Adding a route with known hops keeps the invariant, whatever becomes of
    its allocations. -/
theorem rt_add_route_known (h : Hops) (hk : HopsKnown h) (ea eb na nb path_id : U32)
    (ha : ea ≠ h.me → Known h na) (hb : eb ≠ h.me → Known h nb) :
    Triple (fun s => s.hops = h) (rt_add_route ea eb na nb path_id)
      (fun _ s => HopsKnown s.hops) (fun _ => True) := by
  unfold rt_add_route
  refine Triple.bind (hops_of_visible rt_alloc_visible h) (fun alloc => ?_)
  refine Triple.bind (Triple.gets (Q := fun _ s => s.hops = h) _ (fun s hs => hs)) (fun rb => ?_)
  refine Triple.bind (Triple.gets (Q := fun _ s => s.hops = h) _ (fun s hs => hs)) (fun me => ?_)
  refine Triple.bind (Triple.modify _ (fun s hs => ?_)) (fun _ => Triple.pure _ (fun s hs => hs))
  subst hs
  intro e r hr
  rcases RtTable.mem_routes_add rb alloc s.node.rt ea eb na nb path_id e r hr with hold | rfl
  · exact hk e r hold
  · exact ⟨ha, hb⟩

/-- Removing one does, too. -/
theorem rt_remove_route_known (ea path_id : U32) :
    Preserves (fun s => HopsKnown s.hops) (rt_remove_route ea path_id) := by
  unfold rt_remove_route
  refine Preserves.bind (Preserves.gets _) (fun me => ?_)
  refine Preserves.bind (Preserves.modify _ (fun s hs => ?_)) (fun _ => Preserves.pure _)
  exact hopsKnown_mono s.hops _ hs rfl
    (fun e r hr => RtTable.mem_routes_remove s.node.rt ea path_id e r hr) (fun x hx => hx)

theorem tear_down_path_known (path_id endpoint sender : U32) :
    Preserves (fun s => HopsKnown s.hops) (tear_down_path path_id endpoint sender) := by
  unfold tear_down_path
  refine Preserves.bind (rt_remove_route_known endpoint path_id) (fun route => ?_)
  cases route with
  | none => exact Preserves.pure _
  | some route =>
      refine Preserves.bind (known_of_hops (hops_of_still (tear_down_hop_still _ _ _ _)))
        (fun _ => ?_)
      refine Preserves.bind (known_of_hops (hops_of_still (tear_down_hop_still _ _ _ _)))
        (fun _ => ?_)
      exact Preserves.bind (known_of_hops (hops_of_still (tear_down_hop_still _ _ _ _)))
        (fun _ => Preserves.pure _)

/-- To keep the invariant, it is enough to do so from each value of the hops. -/
theorem preserves_known {α : Type} (x : Vrr α)
    (hx : ∀ h, HopsKnown h →
      Triple (fun s => s.hops = h) x (fun _ s => HopsKnown s.hops) (fun _ => True)) :
    Preserves (fun s => HopsKnown s.hops) x :=
  fun s hs => hx s.hops hs s rfl

/-- A computation that keeps the invariant, whose result is thrown away. -/
theorem known_then_pure {α β : Type} {x : Vrr α} (h : Preserves (fun s => HopsKnown s.hops) x)
    (b : β) : Preserves (fun s => HopsKnown s.hops) (x >>= fun _ => pure b) :=
  Preserves.bind h (fun _ => Preserves.pure b)

/-- The node adds itself as the first of the path, and its own side of the
    route is not in question. -/
theorem vrr_local_rcv_setup_known (dst pid proxy : U32) (vset_size : Nat)
    (vset : Option (List U32)) :
    Preserves (fun s => HopsKnown s.hops) (vrr_local_rcv_setup dst pid proxy vset_size vset) := by
  refine preserves_known _ (fun h hk => ?_)
  unfold vrr_local_rcv_setup
  refine node_triple h _ (fun me hme _ => ?_)
  refine Triple.bind (next_hop_via_triple h hk dst proxy) (fun nh => Triple.of_and (fun hnh => ?_))
  refine Triple.bind (rt_add_route_known h hk me.me dst me.me nh pid
    (fun hne => absurd hme hne) (fun _ => hnh)) (fun added => ?_)
  refine Preserves.ite _ (fun _ => Preserves.ite _ (fun _ => ?_) (fun _ => Preserves.pure _))
    (fun _ => ?_)
  · exact known_then_pure (known_of_hops (hops_of_still (send_setup_still _ _ _ _ _ _ _))) 0
  · exact known_then_pure (tear_down_path_known _ _ _) 0

theorem vrr_rcv_setup_req_known (skb : SkBuff) :
    Preserves (fun s => HopsKnown s.hops) (vrr_rcv_setup_req skb) := by
  unfold vrr_rcv_setup_req
  refine Preserves.bind (known_of_hops (hops_of_visible (rt_get_next_exclude_visible _ _)))
    (fun nh => Preserves.ite _ (fun _ => ?_) (fun _ => ?_))
  · exact known_then_pure (known_of_hops (hops_of_still (vrr_forward_setup_req_still _ _))) 0
  refine Preserves.bind (draws_known.read_u32 _ _) (fun proxy => ?_)
  refine Preserves.bind (draws_known.read_u32 _ _) (fun size => ?_)
  refine draws_known.received_vset _ _ _ _ _ (fun s hs => hs) (fun _ vset => ?_)
  refine Preserves.bind (known_of_hops (hops_of_visible vset_get_all_visible)) (fun ovset => ?_)
  refine Preserves.bind (known_of_hops (hops_of_routing (vrr_add_routing _ _))) (fun added => ?_)
  refine Preserves.ite _ (fun _ => ?_) (fun _ => ?_)
  · refine Preserves.bind (known_of_hops (hops_of_visible random_visible)) (fun pid => ?_)
    exact known_then_pure (vrr_local_rcv_setup_known _ _ _ _ _) 0
  · exact known_then_pure (known_of_hops (hops_of_still (vrr_local_rcv_setup_fail_still _ _ _ _))) 0

theorem vrr_rcv_setup_fail_known (skb : SkBuff) :
    Preserves (fun s => HopsKnown s.hops) (vrr_rcv_setup_fail skb) := by
  unfold vrr_rcv_setup_fail
  refine Preserves.bind (draws_known.read_u32 _ _) (fun proxy => ?_)
  refine Preserves.bind (draws_known.read_u32 _ _) (fun vset_size => ?_)
  refine draws_known.received_vset _ _ _ _ _ (fun s hs => hs) (fun _ vset => ?_)
  refine Preserves.bind (known_of_hops (hops_of_visible (next_hop_via_visible _ _))) (fun nh => ?_)
  refine Preserves.ite _ (fun _ => ?_) (fun _ => ?_)
  · exact known_then_pure (known_of_hops (hops_of_still (send_setup_fail_still _ _ _ _ _ _))) 0
  · refine Preserves.bind (Preserves.gets _) (fun me => ?_)
    refine Preserves.ite _ (fun _ => ?_) (fun _ => Preserves.pure _)
    refine Preserves.bind (known_of_hops (Keeps.modify _ (fun _ => rfl))) (fun _ => ?_)
    exact known_then_pure (known_of_hops (hops_of_still (vrr_add_none_still _))) 0

/-- A setup from another machine: its sender is a neighbour. -/
theorem vrr_rcv_setup_known (skb : SkBuff) (hforeign : skb.h_source ≠ skb.dev_addr) :
    Preserves (fun s => HopsKnown s.hops) (vrr_rcv_setup skb) := by
  refine preserves_known _ (fun h hk => ?_)
  unfold vrr_rcv_setup
  refine node_triple h _ (fun me _ hids => ?_)
  refine Triple.bind ((draws_hops h).read_u32 _ _) (fun pid => ?_)
  refine Triple.bind ((draws_hops h).read_u32 _ _) (fun proxy => ?_)
  rw [if_neg hforeign.symm]
  cases hsender : pset_lookup_mac me.pset skb.h_source with
  | none =>
      refine (known_then_pure (tear_down_path_known pid _ null) 0).pre (fun s hs => ?_)
      rw [hs]
      exact hk
  | some sender =>
      have hknown : Known h sender := by
        refine Or.inr ?_
        rw [← hids]
        exact mem_of_pset_lookup_mac me.pset _ sender hsender
      refine Triple.bind (setup_next_hop_triple h hk _ proxy)
        (fun nh => Triple.of_and (fun hnh => ?_))
      -- one hop is the sender, and the other one was looked up
      refine Triple.bind (rt_add_route_known h hk _ _ sender nh pid (fun _ => hknown)
        (fun _ => hnh)) (fun added => ?_)
      -- what follows leaves the hops alone
      refine Preserves.ite _ (fun _ => ?_)
        (fun _ => known_then_pure (tear_down_path_known _ _ _) 0)
      refine Preserves.bind (draws_known.read_u32 _ _) (fun vset_size => ?_)
      refine draws_known.received_vset _ _ _ _ _ (fun s hs => hs) (fun _ vset => ?_)
      refine Preserves.ite _ (fun _ => ?_) (fun _ => ?_)
      · exact known_then_pure (known_of_hops (hops_of_still (send_setup_still _ _ _ _ _ _ _))) 0
      refine Preserves.bind (known_of_hops (hops_of_routing (vrr_add_routing _ _))) (fun ret => ?_)
      refine Preserves.ite _ (fun _ => ?_) (fun _ => Preserves.pure _)
      exact known_then_pure (known_of_hops (Keeps.modify _ (fun _ => rfl))) 0

theorem vrr_rcv_teardown_known (skb : SkBuff) :
    Preserves (fun s => HopsKnown s.hops) (vrr_rcv_teardown skb) := by
  unfold vrr_rcv_teardown
  refine Preserves.bind (draws_known.read_u32 _ _) (fun ea => ?_)
  refine Preserves.bind (draws_known.read_u32 _ _) (fun pid => ?_)
  refine Preserves.bind (draws_known.read_u32 _ _) (fun size => ?_)
  refine Preserves.bind (rt_remove_route_known ea pid) (fun route => ?_)
  cases route with
  | none => exact Preserves.fault _
  | some route =>
      refine draws_known.received_vset _ _ _ _ _ (fun s hs => hs) (fun _ vset => ?_)
      refine Preserves.ite _ (fun _ => ?_) (fun _ => ?_)
      · exact known_then_pure (known_of_hops (hops_of_still (send_teardown_still _ _ _ _ _))) 0
      refine Preserves.bind (known_of_hops (hops_of_routing (vset_remove_routing _))) (fun _ => ?_)
      exact known_then_pure (known_of_hops (hops_of_routing (vrr_add_routing _ _))) 0

/-- A packet from another machine keeps the invariant. -/
theorem vrr_rcv_known (skb : SkBuff) (hforeign : skb.h_source ≠ skb.dev_addr) :
    Preserves (fun s => HopsKnown s.hops) (vrr_rcv skb) := by
  have hfree : Preserves (fun s => HopsKnown s.hops) (kfree_skb .received) :=
    known_of_hops (hops_of_still (kfree_skb_still _))
  refine vrr_rcv_triple (I := fun s => HopsKnown s.hops) (J := fun _ s => HopsKnown s.hops) skb
    (fun _ => hfree) (fun s hs => ?_) (fun hty => ?_) (fun _ _ => hfree) (fun _ hs => hs)
  · have hids : ({ s with node := heard s.node skb.pkt.src } : Sys).hops = s.hops := by
      simp only [Sys.hops, heard, pset_ids_reset_fail_count]
    exact (congrArg HopsKnown hids).mpr hs
  · exact vrr_rcvfunc_triple skb hty
      (fun _ => known_of_hops (hops_of_still (vrr_rcv_data_still skb)))
      (fun _ => known_of_hops (hops_of_settled (vrr_rcv_hello_settled skb)))
      (fun _ => vrr_rcv_setup_req_known skb) (fun _ => vrr_rcv_setup_known skb hforeign)
      (fun _ => vrr_rcv_setup_fail_known skb) (fun _ => vrr_rcv_teardown_known skb)

/-- A new neighbour is one more id. -/
theorem pset_add_known (id : U32) (mac : MacAddr) (status : PsetStatus) (active : U32) :
    Preserves (fun s => HopsKnown s.hops) (pset_add id mac status active) := by
  refine pset_add_triple (fun _ hs _ => hs)
    (known_of_hops (hops_of_visible (kmalloc_visible 1))) (Triple.modify _ (fun s hs => ?_))
    (Preserves.fault _)
  exact hopsKnown_mono s.hops _ hs rfl (fun e r hr => hr)
    (fun x hx => (mem_pset_ids_add s.node.pset id mac status active x).mpr (Or.inr hx))

theorem pset_update_handler_known :
    Preserves (fun s => HopsKnown s.hops) pset_update_handler := by
  refine pset_update_handler_confines pset_add_known
    (fun _ _ _ => known_of_hops (Keeps.modify _ (fun s => ?_)))
    (known_of_hops (hops_of_settled pset_state_update_settled))
    (fun src dst proxy => known_of_hops (hops_of_still (send_setup_req_still src dst proxy)))
    (fun _ => known_of_hops (Keeps.modify _ (fun _ => rfl)))
  simp only [Sys.hops, pset_ids_update_status]

/-- The entries that outlive a tick. -/
def surviving (p : Pset) : Pset :=
  (p.map (fun tmp => (fail_entry tmp).1)).filter
    (fun tmp => decide (tmp.fail_count < 2 * VRR_FAIL_TIMEOUT))

/-- The id, the table and the physical set. -/
def tables (s : Sys) : U32 × RtTable × Pset := (s.node.me, s.node.rt, s.node.pset)

theorem tables_of_settled {α : Type} {x : Vrr α} (h : Keeps Sys.settled x) : Keeps tables x :=
  h.part (fun v : Node × List Packet => (v.1.me, v.1.rt, v.1.pset))

/-- These are the entries that the timer counts and keeps. -/
theorem surviving_eq (p : Pset) : surviving p = p.filterMap counted := by
  unfold surviving
  induction p with
  | nil => rfl
  | cons tmp p ih =>
      rw [List.map_cons, List.filter_cons, ih]
      by_cases hdue : 2 * VRR_FAIL_TIMEOUT ≤ (fail_entry tmp).1.fail_count
      · have hgone : counted tmp = none := if_pos hdue
        rw [if_neg (by simpa using hdue), List.filterMap_cons_none hgone]
      · have hstays : counted tmp = some (fail_entry tmp).1 := if_neg hdue
        rw [if_pos (by simpa using hdue), List.filterMap_cons_some hstays]

/-- A tick leaves the entries that are not due. -/
theorem detect_failures_tables (me : U32) (rt : RtTable) (p : Pset) :
    Triple (fun s => tables s = (me, rt, p)) detect_failures
      (fun _ s => tables s = (me, rt, surviving p)) (fun _ => True) := by
  have hset : ∀ (p q : Pset), Triple (fun s => tables s = (me, rt, p))
      (set_node (fun n => { n with pset := q })) (fun _ s => tables s = (me, rt, q))
      (fun _ => True) := by
    intro p q
    refine Triple.modify _ (fun s hs => ?_)
    have hme : s.node.me = me := congrArg Prod.fst hs
    have hrt : s.node.rt = rt := congrArg (fun v => v.2.1) hs
    simp only [tables, hme, hrt]
  rw [surviving_eq]
  refine detect_failures_triple (I := fun q s => tables s = (me, rt, q)) (fun done tmp pos => ?_)
    (fun done tmp pos _ => hset _ _) (fun q s hs => congrArg (fun v => v.2.2) hs) p
  -- the entry is counted up, and perhaps the cached lists refreshed
  unfold detect_failure
  exact Triple.bind (hset _ _) (fun _ => Preserves.ite _
    (fun _ => tables_of_settled pset_state_update_settled _) (fun _ => Preserves.pure _))

end Vrr

/-- A route uses `x` as a hop on a side that faces another node. -/
def UsedAsHop (h : Hops) (x : U32) : Prop :=
  ∃ e, ∃ r ∈ h.rt.routes e, (r.ea ≠ h.me ∧ r.na = x) ∨ (r.eb ≠ h.me ∧ r.nb = x)

/-- The neighbours due to be deleted are no hops. -/
def HopsStay (s : Sys) (e : Event) : Prop :=
  e = .vrr_workqueue_handler → ∀ tmp ∈ s.node.pset,
    2 * VRR_FAIL_TIMEOUT ≤ tmp.fail_count + 1 → ¬ UsedAsHop s.hops tmp.node

/-- The event is not a packet that the node's own device sent. -/
def Foreign (e : Event) : Prop := ∀ skb, e = .vrr_rcv skb → skb.h_source ≠ skb.dev_addr

/-- A neighbour that is a hop outlives the tick. -/
theorem mem_surviving (p : Pset) (x : U32) (hx : x ∈ pset_ids p)
    (hstay : ∀ tmp ∈ p, tmp.node = x → ¬ 2 * VRR_FAIL_TIMEOUT ≤ tmp.fail_count + 1) :
    x ∈ pset_ids (Vrr.surviving p) := by
  rcases List.mem_map.mp hx with ⟨tmp, hmem, rfl⟩
  have hcount := hstay tmp hmem rfl
  refine List.mem_map.mpr ⟨(Vrr.fail_entry tmp).1, ?_, Vrr.fail_entry_node tmp⟩
  refine List.mem_filter.mpr ⟨List.mem_map_of_mem hmem, decide_eq_true ?_⟩
  rw [Vrr.fail_entry_count]
  omega

/-- A tick that deletes no hop keeps the invariant. -/
theorem vrr_workqueue_handler_known (s : Sys) (hk : HopsKnown s.hops)
    (hstay : HopsStay s .vrr_workqueue_handler) :
    Triple (fun s' => s'.node = s.node) Vrr.vrr_workqueue_handler (fun _ t => HopsKnown t.hops)
      (fun _ => True) := by
  unfold Vrr.vrr_workqueue_handler
  refine Triple.bind (Q := fun _ t => HopsKnown t.hops) ?_ (fun _ => ?_)
  · refine (Vrr.detect_failures_tables s.node.me s.node.rt s.node.pset).conseq
      (fun s' hs' => ?_) (fun _ t ht => ?_) (fun _ _ => trivial)
    · simp only [Vrr.tables, hs']
    · -- only the ids have changed, and those of the hops are still there
      have hhops : t.hops = ⟨s.node.me, s.node.rt, pset_ids (Vrr.surviving s.node.pset)⟩ := by
        simp only [Vrr.tables, Prod.mk.injEq] at ht
        simp only [Sys.hops, ht]
      have hsurvive : ∀ x, UsedAsHop s.hops x → Known s.hops x → Known t.hops x := by
        intro x hused hx
        rw [hhops]
        refine hx.imp_right (fun hmem => mem_surviving s.node.pset x hmem ?_)
        intro tmp htmp hnode hdue
        rw [← hnode] at hused
        exact hstay rfl tmp htmp hdue hused
      rw [hhops] at hsurvive ⊢
      intro e r hr
      rcases hk e r hr with ⟨ha, hb⟩
      exact ⟨fun hne => hsurvive _ ⟨e, r, hr, Or.inl ⟨hne, rfl⟩⟩ (ha hne),
        fun hne => hsurvive _ ⟨e, r, hr, Or.inr ⟨hne, rfl⟩⟩ (hb hne)⟩
  · refine Preserves.bind (Vrr.known_of_hops (Keeps.modify _ (fun s => ?_))) (fun _ => ?_)
    · simp only [Sys.hops]
      split_ifs <;> rfl
    · exact Vrr.known_then_pure (Vrr.known_of_hops (Vrr.hops_of_still Vrr.send_hpkt_still)) ()

/-- One event that comes from elsewhere and deletes no hop. -/
theorem step_known (s t : Sys) (i : Event × Kernel) (hk : HopsKnown s.hops)
    (hforeign : Foreign i.1) (hstay : HopsStay s i.1) (hstep : Step s i t) :
    HopsKnown t.hops := by
  rcases i with ⟨e, k⟩
  have hstart : HopsKnown ({ s with kern := k } : Sys).hops := hk
  cases e with
  | vrr_rcv skb =>
      exact (Vrr.known_then_pure (Vrr.vrr_rcv_known skb (hforeign skb rfl)) ()).ok hstart hstep
  | pset_update_handler => exact Vrr.pset_update_handler_known.ok hstart hstep
  | vrr_workqueue_handler =>
      exact (vrr_workqueue_handler_known s hk hstay).ok (s := { s with kern := k }) rfl hstep
  | vrr_hash_sock sk =>
      have hkeeps : Keeps Sys.hops (Event.vrr_hash_sock sk).run := Keeps.modify _ (fun _ => rfl)
      exact (Vrr.known_of_hops hkeeps).ok hstart hstep
  | vrr_unhash_sock sk =>
      have hkeeps : Keeps Sys.hops (Event.vrr_unhash_sock sk).run := Keeps.modify _ (fun _ => rfl)
      exact (Vrr.known_of_hops hkeeps).ok hstart hstep

/-- In every run whose packets come from elsewhere and whose ticks delete no
    hop, the next hop towards any destination is a physical neighbour, and its
    MAC address is found. -/
theorem next_hop_is_neighbour (id : U32) (g : Nat → U32) (gm : Nat → MacAddr) (k : Kernel)
    (t : Sys)
    (hrun : Reach (fun s i t => Step s i t ∧ Foreign i.1 ∧ HopsStay s i.1)
      (Sys.boot (vrr_init id g gm) k) t)
    (dest : U32) (hnh : RtTable.rt_get_next t.node.me t.node.rt dest ≠ 0) :
    RtTable.rt_get_next t.node.me t.node.rt dest ∈ pset_ids t.node.pset ∧
      (pset_get_mac t.node.pset (RtTable.rt_get_next t.node.me t.node.rt dest)).isSome = true := by
  have hknown : HopsKnown t.hops := by
    refine hrun.invariant (fun s => HopsKnown s.hops) ?_ ?_
    · intro e r hr
      exact absurd hr List.not_mem_nil
    · intro u i v hu hstep
      exact step_known u v i hu hstep.2.1 hstep.2.2 hstep.1
  have hmem := (rt_get_next_known t.hops hknown dest).resolve_left hnh
  exact ⟨hmem, (pset_get_mac_isSome_iff _ _).mpr hmem⟩

/-- A hello from node 2, the update it queues, and a setup by way of node 2
    for a path from node 5 to node 6. -/
def setup_events : List (Event × Kernel) :=
  [.vrr_rcv (frame 2 VRR_HELLO 2 0 [0, 0, 0, 0]), .pset_update_handler,
    .vrr_rcv (frame 2 VRR_SETUP 5 6 [7, 5, 0])].map (fun e => (e, Kernel.calm))

/-- A packet from elsewhere, or a tick that deletes nobody. -/
def stays (s : Sys) (i : Event × Kernel) : Bool :=
  match i.1 with
  | .vrr_rcv skb => decide (skb.h_source ≠ skb.dev_addr)
  | .vrr_workqueue_handler =>
      s.node.pset.all (fun tmp => decide (tmp.fail_count + 1 < 2 * VRR_FAIL_TIMEOUT))
  | _ => true

theorem of_stays {s : Sys} {i : Event × Kernel} (h : stays s i = true) :
    Foreign i.1 ∧ HopsStay s i.1 := by
  unfold stays at h
  refine ⟨fun skb he => ?_, fun he tmp htmp hdue => ?_⟩
  · rw [he] at h
    exact of_decide_eq_true h
  · rw [he] at h
    have hlt := of_decide_eq_true (List.all_eq_true.mp h tmp htmp)
    exact absurd hdue (Nat.not_le_of_lt hlt)

/-- After them and five ticks node 2 is marked as failed. It is still the next
    hop towards node 5, and it is found. -/
theorem next_hop_is_neighbour_setup :
    ∃ t, Reach (fun s i t => Step s i t ∧ Foreign i.1 ∧ HopsStay s i.1) node_one t ∧
      (pset_find t.node.pset 2).map PsetEntry.status = some .failed ∧
      RtTable.rt_get_next t.node.me t.node.rt 5 = 2 ∧ 2 ∈ pset_ids t.node.pset ∧
      (pset_get_mac t.node.pset 2).isSome = true := by
  obtain ⟨t, ht, hend⟩ := reach_of_check stays
    (setup_events ++ List.replicate 5 (.vrr_workqueue_handler, Kernel.calm))
    (fun t => decide ((pset_find t.node.pset 2).map PsetEntry.status = some .failed ∧
      RtTable.rt_get_next t.node.me t.node.rt 5 = 2)) (by decide +kernel)
  have hrun := ht.mono (fun u i v hstep => (⟨hstep.1, of_stays hstep.2⟩ :
    Step u i v ∧ Foreign i.1 ∧ HopsStay u i.1))
  obtain ⟨hfailed, hnext⟩ := of_decide_eq_true hend
  have hnh := next_hop_is_neighbour 1 (fun _ => 0) (fun _ => 0) Kernel.calm t hrun 5
    (by rw [hnext]; decide)
  rw [hnext] at hnh
  exact ⟨t, hrun, hfailed, hnext, hnh⟩

/-- Eight ticks later node 2 is gone, and the route still leads there. -/
theorem next_hop_deleted :
    ∃ t, Reach (fun s i t => Step s i t ∧ Foreign i.1) node_one t ∧
      RtTable.rt_get_next t.node.me t.node.rt 5 ≠ 0 ∧
      RtTable.rt_get_next t.node.me t.node.rt 5 ∉ pset_ids t.node.pset := by
  have heval : (run_events node_one (setup_events ++
      List.replicate 8 (Event.vrr_workqueue_handler, Kernel.calm))).map
      (fun t => (RtTable.rt_get_next t.node.me t.node.rt 5, pset_ids t.node.pset)) =
      some (2, []) := by decide +kernel
  rcases Option.map_eq_some_iff.mp heval with ⟨t, ht, heq⟩
  rw [Prod.mk.injEq] at heq
  refine ⟨t, reach_run_events (fun i => Foreign i.1) node_one node_one t _ Reach.refl ?_ ht, ?_⟩
  · simp only [setup_events, List.map_cons, List.map_nil, List.replicate, List.mem_append,
      List.mem_cons, List.not_mem_nil, or_false, or_self]
    rintro i ((rfl | rfl | rfl) | rfl) skb h
    · rw [← Event.vrr_rcv.inj h]
      decide
    · cases h
    · rw [← Event.vrr_rcv.inj h]
      decide
    · cases h
  · rw [heq.1, heq.2]
    exact ⟨by decide, List.not_mem_nil⟩

end AlpacaVrr
