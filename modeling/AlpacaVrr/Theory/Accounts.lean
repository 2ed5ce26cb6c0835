import AlpacaVrr.Theory.Outcomes
import AlpacaVrr.Theory.Provenance
import Mathlib.Algebra.BigOperators.Group.Finset.Piecewise
import Mathlib.Algebra.Order.BigOperators.Group.Finset
import Mathlib.Data.FinEnum
import Mathlib.Data.Set.Finite.Basic

/-!
# Teardowns Are Paid For

Every teardown a node sends is about a path that the node has been on, and uses
up a part of it.

Before it sends a teardown, a node removes the route from its table, and what it
sends goes to the hops of that route. So a node that has filed no route is never
made to send a teardown, whatever it receives, and one route is worth only so
many of them. A route is filed under both of its ends. A removal takes one of
the two copies, and at most two teardowns follow it, one to each side.

The account is kept over the whole run: the teardowns sent, and two for each copy
that is in the table, are together no more than four for each route that was ever
filed. Routes that could be filed in part only are counted in full.

## Main definitions

* `RtTable.load`: The number of copies in a table.
* `Belongs`: A teardown is about a route, and goes to one of its hops.
* `Accounted`: The account, with something left over.

## Theorems

* `load_add`, `load_remove`: What the operations do to the number of copies.
* `tear_down_path_accounted`, `vrr_rcv_teardown_accounted`: The two places that
  send teardowns.
* `teardowns_of_own_paths`: Every teardown is about a route of the node.
* `teardowns_bounded`: There are at most four of them for each route.
-/

namespace AlpacaVrr

open FaultState

/-- All ids, which are not meant to be gone through. -/
noncomputable def all_ids : Finset U32 := (Set.finite_univ : (Set.univ : Set U32).Finite).toFinset

theorem mem_all_ids (e : U32) : e ∈ all_ids :=
  (Set.Finite.mem_toFinset _).mpr (Set.mem_univ e)

/-- The copies of routes in a table. -/
noncomputable def RtTable.load (t : RtTable) : Nat := ∑ e ∈ all_ids, (t.routes e).length

/-- Two sums that differ in one place. -/
theorem sum_of_one {f g : U32 → Nat} (a : U32) (h : ∀ e, e ≠ a → f e = g e) :
    ∑ e ∈ all_ids, f e + g a = ∑ e ∈ all_ids, g e + f a := by
  have hf := Finset.add_sum_erase all_ids f (mem_all_ids a)
  have hg := Finset.add_sum_erase all_ids g (mem_all_ids a)
  have hrest : ∑ e ∈ all_ids.erase a, f e = ∑ e ∈ all_ids.erase a, g e :=
    Finset.sum_congr rfl (fun e he => h e (Finset.ne_of_mem_erase he))
  omega

theorem load_empty : RtTable.empty.load = 0 := by
  unfold RtTable.load
  exact Finset.sum_eq_zero (fun e _ => rfl)

/-- A route is filed twice at most. -/
theorem load_add (t : RtTable) (rb : RbInsertColor) (alloc : RtAlloc) (ea eb na nb pid : U32) :
    (t.rt_add_route rb alloc ea eb na nb pid).2.load ≤ t.load + 2 := by
  unfold RtTable.load
  have hone : ∀ a : U32, ∑ e ∈ all_ids, (if e = a then 1 else 0) = 1 := fun a => by
    rw [Finset.sum_ite_eq' all_ids a (fun _ => 1), if_pos (mem_all_ids a)]
  have hle : ∀ e ∈ all_ids,
      ((t.rt_add_route rb alloc ea eb na nb pid).2.routes e).length ≤
        (t.routes e).length + ((if e = ea then 1 else 0) + if e = eb then 1 else 0) := by
    intro e _
    have hsub := (RtTable.sublist_routes_add rb alloc t ea eb na nb pid e).length_le
    have hcopy : ∀ a : U32, (if a ≠ 0 ∧ e = a then [(⟨ea, eb, na, nb, pid⟩ : RtEntry)]
        else []).length ≤ if e = a then 1 else 0 := by
      intro a
      by_cases he : e = a
      · rw [if_pos he]
        split_ifs <;> simp
      · rw [if_neg he, if_neg (fun h => he h.2)]
        rfl
    have ha := hcopy ea
    have hb := hcopy eb
    rw [List.length_append, List.length_append] at hsub
    omega
  refine (Finset.sum_le_sum hle).trans ?_
  rw [Finset.sum_add_distrib, Finset.sum_add_distrib, hone, hone]

/-- A removal that finds a route takes one copy of it. -/
theorem load_remove (t : RtTable) (ea pid : U32) (r : RtEntry)
    (h : (t.rt_remove_route ea pid).1 = some r) :
    (t.rt_remove_route ea pid).2.load + 1 = t.load := by
  rw [RtTable.route_remove] at h
  have hmem := List.mem_of_find?_eq_some h
  have hone := sum_of_one (f := fun e => ((t.rt_remove_route ea pid).2.routes e).length)
    (g := fun e => (t.routes e).length) ea (fun e he => by
      simp only [RtTable.routes_remove, if_neg he])
  have hlen : ((t.rt_remove_route ea pid).2.routes ea).length + 1 = (t.routes ea).length := by
    rw [RtTable.routes_remove, if_pos rfl, List.length_eraseP_of_mem hmem
      (List.find?_some h)]
    have hpos := List.length_pos_of_mem hmem
    omega
  unfold RtTable.load
  omega

/-- And no removal adds any. -/
theorem load_remove_le (t : RtTable) (ea pid : U32) :
    (t.rt_remove_route ea pid).2.load ≤ t.load := by
  unfold RtTable.load
  refine Finset.sum_le_sum (fun e _ => ?_)
  rw [RtTable.routes_remove]
  split_ifs
  · exact List.length_eraseP_le
  · exact Nat.le_refl _

/-- The teardowns in a record of packets. -/
def teardowns (l : List Packet) : Nat := l.countP (fun p => p.vh.pkt_type == VRR_TEARDOWN)

theorem teardowns_append (l : List Packet) (p : Packet) :
    teardowns (l ++ [p]) = teardowns l + if p.vh.pkt_type = VRR_TEARDOWN then 1 else 0 := by
  unfold teardowns
  rw [List.countP_append, List.countP_singleton]
  simp only [beq_iff_eq]

/-- A teardown names a path of which there is a route on record, by one of its
    ends, and goes to one of the hops. -/
def Belongs (added : List RtEntry) (p : Packet) : Prop :=
  ∃ r ∈ added, ∃ ea, (ea = r.ea ∨ ea = r.eb) ∧ word p vrr_header_size = some ea ∧
    word p (vrr_header_size + 4) = some r.path_id ∧ (p.dst = r.na ∨ p.dst = r.nb)

theorem Belongs.mono {l l' : List RtEntry} {p : Packet} (h : Belongs l p) (hsub : l ⊆ l') :
    Belongs l' p := by
  obtain ⟨r, hr, hrest⟩ := h
  exact ⟨r, hsub hr, hrest⟩

/-- All routes and all teardowns are of routes on record, and the teardowns leave
    so much over. -/
structure Accounted (spare : Nat) (s : Sys) : Prop where
  filed : ∀ e r, r ∈ s.node.rt.routes e → r ∈ s.added
  torn : ∀ p ∈ s.sent, p.vh.pkt_type = VRR_TEARDOWN → Belongs s.added p
  budget : teardowns s.sent + 2 * s.node.rt.load + spare ≤ 4 * s.added.length

theorem Accounted.less {k k' : Nat} {s : Sys} (h : Accounted k s) (hk : k' ≤ k) :
    Accounted k' s :=
  ⟨h.filed, h.torn, by have hb := h.budget; omega⟩

/-- The operations keep the account, as long as they send no teardown. -/
theorem routine_accounted : Routine (fun ty => ty ≠ VRR_TEARDOWN) (Accounted 0) := by
  have hdraws : Draws (Accounted 0) (fun _ => True) :=
    draws_of_kern (fun _ _ hs => ⟨hs.filed, hs.torn, hs.budget⟩)
  have hrandom : Preserves (Accounted 0) Vrr.random := fun _ hs => ⟨hs.filed, hs.torn, hs.budget⟩
  have hsame : ∀ f : Sys → Sys, (∀ s, (f s).node.rt = s.node.rt ∧ (f s).sent = s.sent ∧
      (f s).added = s.added) → Preserves (Accounted 0) (modify f : Vrr Unit) := fun f hf =>
    Preserves.modify _ (fun s hs => by
      obtain ⟨hrt, hsent, hadded⟩ := hf s
      refine ⟨?_, ?_, ?_⟩
      · rw [hrt, hadded]
        exact hs.filed
      · rw [hsent, hadded]
        exact hs.torn
      · rw [hrt, hsent, hadded]
        exact hs.budget)
  have hfree : ∀ skb, Preserves (Accounted 0) (Vrr.kfree_skb skb) :=
    fun _ => hsame _ (fun _ => ⟨rfl, rfl, rfl⟩)
  exact {
    draws := hdraws
    random := hrandom
    pset_get_proxy := by
      refine Preserves.bind (Preserves.gets _) (fun me => ?_)
      refine Preserves.bind (hsame _ (fun _ => ⟨rfl, rfl, rfl⟩)) (fun _ => ?_)
      exact Preserves.ite _ (fun _ => Preserves.pure _) (fun _ => Preserves.bind hrandom
        (fun _ => Preserves.pure _))
    vrr_output := fun skb pkt hT => by
      refine Preserves.bind (Preserves.modify _ (fun s hs => ⟨hs.filed, fun p hp hty => ?_, ?_⟩))
        (fun _ => Preserves.then_pure (hfree skb) 0)
      · rcases List.mem_append.mp hp with hp | hp
        · exact hs.torn p hp hty
        · rw [List.mem_singleton.mp hp] at hty
          exact absurd hty hT
      · simp only [teardowns_append, if_neg hT]
        exact hs.budget
    kfree_skb := hfree
    overrun := fun _ _ => hsame _ (fun _ => ⟨rfl, rfl, rfl⟩)
    rt_remove_route := fun ea pid => Vrr.rt_remove_route_rule _ _ (fun s hs =>
      ⟨fun e r hr => hs.filed e r (RtTable.mem_routes_remove _ _ _ _ _ hr), hs.torn, by
        have hload := load_remove_le s.node.rt ea pid
        have hbudget := hs.budget
        simp only
        omega⟩)
    vset_add := fun _ _ => Vrr.vset_add_rule hdraws _ _ (fun _ _ _ hs =>
      ⟨hs.filed, hs.torn, hs.budget⟩)
    vset_remove := fun _ => Vrr.vset_remove_rule _ (fun _ hs => ⟨hs.filed, hs.torn, hs.budget⟩)
    activate := hsame _ (fun _ => ⟨rfl, rfl, rfl⟩)
    rt_add_route := fun ea eb na nb pid => by
      refine Vrr.rt_add_route_rule hdraws _ _ _ _ _ (fun s rb alloc hs => ⟨fun e r hr => ?_,
        fun p hp hty => (hs.torn p hp hty).mono (List.subset_append_left _ _), ?_⟩)
      · rcases RtTable.mem_routes_add rb alloc _ _ _ _ _ _ _ _ hr with hold | rfl
        · exact List.mem_append_left _ (hs.filed e r hold)
        · exact List.mem_append_right _ (List.mem_singleton_self _)
      · have hload := load_add s.node.rt rb alloc ea eb na nb pid
        have hbudget := hs.budget
        simp only [List.length_append, List.length_singleton]
        omega }

namespace Vrr

/-- A teardown for a route on record is paid for with what is left over. -/
theorem send_teardown_accounted (k : Nat) (r : RtEntry) (ea hop : U32) (vset_size : Nat)
    (vset : Option (List U32)) (hea : ea = r.ea ∨ ea = r.eb) (hhop : hop = r.na ∨ hop = r.nb) :
    Triple (fun s => Accounted (k + 1) s ∧ r ∈ s.added)
      (send_teardown r.path_id ea vset vset_size hop)
      (fun _ s => Accounted k s ∧ r ∈ s.added) (fun _ => True) := by
  have hdraws : Draws (fun s => Accounted (k + 1) s ∧ r ∈ s.added) (fun _ => True) :=
    draws_of_kern (fun _ _ hs => ⟨⟨hs.1.filed, hs.1.torn, hs.1.budget⟩, hs.2⟩)
  have hunsent : ∀ ret : Int, Triple (fun s => Accounted (k + 1) s ∧ r ∈ s.added)
      (pure ret : Vrr Int) (fun _ s => Accounted k s ∧ r ∈ s.added) (fun _ => True) := fun ret =>
    Triple.pure _ (fun _ hs => ⟨hs.1.less (Nat.le_succ k), hs.2⟩)
  unfold send_teardown
  refine Triple.bind (Preserves.gets _) (fun me => ?_)
  unfold send_vset
  refine Triple.bind (Preserves.gets _) (fun n => ?_)
  cases pset_get_mac n.pset hop with
  | none => exact hunsent _
  | some mac =>
      refine Triple.bind (SendsOwn.read_vset _ _) (fun ids => ?_)
      refine Triple.bind (hdraws.kmalloc 1) (fun skb => Triple.ite _ (fun _ => ?_)
        (fun _ => hunsent _))
      unfold vrr_output
      refine Triple.bind (Q := fun _ s => Accounted k s ∧ r ∈ s.added)
        (Triple.modify _ (fun s hs => ⟨⟨hs.1.filed, fun p hp hty => ?_, ?_⟩, hs.2⟩))
        (fun _ => Preserves.then_pure (Preserves.modify _
          (fun _ hs => ⟨⟨hs.1.filed, hs.1.torn, hs.1.budget⟩, hs.2⟩)) 0)
      · rcases List.mem_append.mp hp with hp | hp
        · exact hs.1.torn p hp hty
        · rw [List.mem_singleton.mp hp]
          refine ⟨r, hs.2, ea, hea, word_payload _ _ 0 _ rfl, word_payload _ _ 1 _ rfl, ?_⟩
          have hdst : (build_packet n.version VRR_TEARDOWN me.me hop mac
              ([ea, r.path_id] ++ BitVec.ofNat 32 vset_size :: ids)).dst = hop := ntohl_htonl hop
          rw [hdst]
          exact hhop
      · have hbudget := hs.1.budget
        simp only [teardowns_append]
        split_ifs <;> omega

/-- What a removal finds pays for two teardowns. -/
theorem rt_remove_route_accounted (ea pid : U32) :
    Triple (Accounted 0) (rt_remove_route ea pid)
      (fun found s => Accounted 0 s ∧ ∀ r, found = some r →
        (Accounted 2 s ∧ r ∈ s.added) ∧ r.path_id = pid ∧ (ea = r.ea ∨ ea = r.eb))
      (fun _ => True) := by
  intro s hs
  have hfewer := (routine_accounted.rt_remove_route ea pid).ok (s := s) hs rfl
  refine ⟨hfewer, fun r hr => ?_⟩
  have hr' : (s.node.rt.rt_remove_route ea pid).1 = some r := hr
  have hfind := hr'
  rw [RtTable.route_remove] at hfind
  have hmem := List.mem_of_find?_eq_some hfind
  have hpid := List.find?_some hfind
  refine ⟨⟨⟨hfewer.filed, hfewer.torn, ?_⟩, hs.filed ea r hmem⟩, eq_of_beq hpid,
    (s.node.rt.filed ea r hmem).2⟩
  have hload := load_remove s.node.rt ea pid r hr'
  have hbudget := hs.budget
  simp only
  omega

/-- A path that the node tears down itself. Without a sender there are two hops. -/
theorem tear_down_path_accounted (pid ea : U32) :
    Preserves (Accounted 0) (tear_down_path pid ea null) := by
  have hhop : ∀ (k : Nat) (r : RtEntry) (hop : U32), (ea = r.ea ∨ ea = r.eb) →
      (hop = r.na ∨ hop = r.nb) →
      Triple (fun s => Accounted (k + 1) s ∧ r ∈ s.added) (tear_down_hop r.path_id ea null hop)
        (fun _ s => Accounted k s ∧ r ∈ s.added) (fun _ => True) := by
    intro k r hop hea hhop
    unfold tear_down_hop
    refine Triple.bind (Preserves.gets _) (fun me => Triple.ite _ (fun _ => ?_) (fun _ => ?_))
    · have hnone : tear_down_vset null = pure (0, none) := if_neg (fun h => h rfl)
      rw [hnone]
      exact Triple.pure_bind _ (Triple.bind (send_teardown_accounted k r ea hop _ _ hea hhop)
        (fun _ => Triple.pure _ (fun _ hs => hs)))
    · exact Triple.pure _ (fun _ hs => ⟨hs.1.less (Nat.le_succ k), hs.2⟩)
  unfold tear_down_path
  refine Triple.bind (rt_remove_route_accounted ea pid) (fun found => ?_)
  cases found with
  | none => exact Triple.pure _ (fun _ hs => hs.1)
  | some r =>
      rintro s ⟨_, hfound⟩
      obtain ⟨hs, hpid, hea⟩ := hfound r rfl
      rw [← hpid]
      refine Triple.bind (hhop 1 r r.na hea (Or.inl rfl)) (fun _ => ?_) s hs
      refine Triple.bind (hhop 0 r r.nb hea (Or.inr rfl)) (fun _ => ?_)
      -- the third block sends nothing, as there is no sender
      unfold tear_down_hop
      refine Triple.bind (Triple.bind (Preserves.gets _) (fun me => Triple.ite _
        (fun hno => absurd rfl hno.1) (fun _ => Triple.pure _ (fun _ hs => hs.1))))
        (fun _ => Triple.pure _ (fun _ hs => hs))

/-- A teardown received is passed on once at most. -/
theorem vrr_rcv_teardown_accounted (skb : SkBuff) :
    Preserves (Accounted 0) (vrr_rcv_teardown skb) := by
  unfold vrr_rcv_teardown
  refine Preserves.bind (routine_accounted.draws.read_u32 _ _) (fun ea => ?_)
  refine Preserves.bind (routine_accounted.draws.read_u32 _ _) (fun pid => ?_)
  refine Preserves.bind (routine_accounted.draws.read_u32 _ _) (fun size => ?_)
  refine Triple.bind (rt_remove_route_accounted ea pid) (fun found => ?_)
  cases found with
  | none => exact Triple.fault _ trivial
  | some r =>
      rintro s ⟨_, hfound⟩
      obtain ⟨hs, hpid, hea⟩ := hfound r rfl
      have hdraws : Draws (fun s => Accounted 1 s ∧ r ∈ s.added) (fun _ => True) :=
        draws_of_kern (fun _ _ hs => ⟨⟨hs.1.filed, hs.1.torn, hs.1.budget⟩, hs.2⟩)
      have hside : (teardown_side r skb.pkt.src).2 = r.na ∨
          (teardown_side r skb.pkt.src).2 = r.nb := by
        unfold teardown_side
        split_ifs
        · exact Or.inr rfl
        · exact Or.inl rfl
      rw [← hpid]
      refine hdraws.received_vset _ _ _ _ _ (fun _ hs => hs.1.less (Nat.zero_le 1))
        (fun _ vset => Triple.ite _ (fun _ => ?_) (fun _ => ?_)) s
        ⟨hs.1.less (by omega), hs.2⟩
      · refine Triple.bind (send_teardown_accounted 0 r ea _ _ _ hea hside) (fun _ => ?_)
        exact Triple.pure _ (fun _ hs => hs.1)
      · have hend : Preserves (Accounted 0) (do
            let _ ← vset_remove (teardown_side r skb.pkt.src).1
            let _ ← vrr_add 0 vset
            pure (0 : Int)) :=
          Preserves.bind (routine_accounted.vset_remove _) (fun _ =>
            Preserves.then_pure (routine_accounted.handles.vrr_add (by decide) _ _) 0)
        exact hend.pre (fun _ hs => hs.1.less (Nat.zero_le 1))

theorem vrr_rcv_accounted (skb : SkBuff) : Preserves (Accounted 0) (vrr_rcv skb) := by
  have hh := routine_accounted.handles
  have hsame : ∀ f : Node → Node, (∀ n, (f n).rt = n.rt) → Preserves (Accounted 0) (set_node f) :=
    fun f hf => Preserves.modify _ (fun s hs => by
      refine ⟨fun e r hr => hs.filed e r ?_, hs.torn, ?_⟩
      · rw [← hf]
        exact hr
      · have hbudget := hs.budget
        rw [← hf] at hbudget
        exact hbudget)
  refine hh.vrr_rcv skb (fun s hs => ⟨hs.filed, hs.torn, hs.budget⟩) (fun hty => ?_)
  exact vrr_rcvfunc_triple skb hty (hh.vrr_rcv_data (by decide) skb)
    (fun _ => hh.draws.vrr_rcv_hello skb (fun _ hs => hs)
      (fun tmp _ _ => hsame _ (fun _ => rfl)))
    (fun h2 => hh.vrr_rcv_setup_req (by decide) (by decide) skb h2
      (hh.vrr_local_rcv_setup_torn (by decide) tear_down_path_accounted
        routine_accounted.rt_add_route))
    (fun _ => hh.vrr_rcv_setup_torn (by decide) (by decide)
      tear_down_path_accounted routine_accounted.rt_add_route routine_accounted.activate skb)
    (fun _ => hh.vrr_rcv_setup_fail (by decide) (by decide) skb)
    (fun _ => vrr_rcv_teardown_accounted skb)

end Vrr

/-- The account is kept by every event, and so in every run. -/
theorem accounted_of_run {id : U32} {g : Nat → U32} {gm : Nat → MacAddr} {k : Kernel} {t : Sys}
    (hrun : Reach Step (Sys.boot (vrr_init id g gm) k) t) : Accounted 0 t := by
  have hrest : ∀ s n, s.node.SameStores n → Accounted 0 s → Accounted 0 { s with node := n } := by
    intro s n hsame hs
    refine ⟨fun e r hr => hs.filed e r ?_, hs.torn, ?_⟩
    · rw [← hsame.2.1]
      exact hr
    · have hbudget := hs.budget
      rw [← hsame.2.1] at hbudget
      exact hbudget
  have hover : ∀ size n, Preserves (Accounted 0) (Vrr.overrun .pstate size n) :=
    fun _ _ => Preserves.modify _ (fun _ hs => ⟨hs.filed, hs.torn, hs.budget⟩)
  refine reach_preserves (event_preserves Vrr.vrr_rcv_accounted
    (routine_accounted.pset_update_handler hrest hover (by decide))
    (routine_accounted.vrr_workqueue_handler hrest hover (by decide))
    (fun s _ hs => hrest s _ ⟨rfl, rfl, rfl⟩ hs))
    (fun _ _ hs => ⟨hs.filed, hs.torn, hs.budget⟩) ⟨?_, ?_, ?_⟩ hrun
  · exact fun e r hr => absurd hr List.not_mem_nil
  · exact fun p hp => absurd hp List.not_mem_nil
  · have hload : (Sys.boot (vrr_init id g gm) k).node.rt.load = 0 := load_empty
    rw [hload]
    exact Nat.le_refl 0

/-- In every run of a node, whatever it receives, each teardown that it sends
    names a path of which it has filed a route, by an end of that route, and goes
    to one of the two hops of it. -/
theorem teardowns_of_own_paths (id : U32) (g : Nat → U32) (gm : Nat → MacAddr) (k : Kernel)
    (t : Sys) (hrun : Reach Step (Sys.boot (vrr_init id g gm) k) t) (p : Packet) (hp : p ∈ t.sent)
    (hty : p.vh.pkt_type = VRR_TEARDOWN) :
    ∃ r ∈ t.added, ∃ ea, (ea = r.ea ∨ ea = r.eb) ∧ word p vrr_header_size = some ea ∧
      word p (vrr_header_size + 4) = some r.path_id ∧ (p.dst = r.na ∨ p.dst = r.nb) :=
  (accounted_of_run hrun).torn p hp hty

/-- A path from node 2 is set up, and then a stranger sends a setup of that
    path. -/
def disowned_events : List (Event × Kernel) :=
  greeted_setup ++ [(.vrr_rcv (frame 0x99 VRR_SETUP 2 1 [7, 0, 0]), Kernel.calm)]

/-- Node 1 sends a teardown of the path to node 2, of which it has the route. -/
theorem teardowns_of_own_paths_two :
    ∃ t, Reach Step node_one t ∧ ∃ p ∈ t.sent, p.vh.pkt_type = VRR_TEARDOWN ∧ p.dst = 2 ∧
      ∃ r ∈ t.added, ∃ ea, (ea = r.ea ∨ ea = r.eb) ∧ word p vrr_header_size = some ea ∧
        word p (vrr_header_size + 4) = some r.path_id ∧ (p.dst = r.na ∨ p.dst = r.nb) := by
  have heval : (run_events node_one disowned_events).map (fun t => t.sent) =
      some [build_packet 1 VRR_TEARDOWN 1 2 0x22 [2, 7, 0]] := by
    decide +kernel
  rcases Option.map_eq_some_iff.mp heval with ⟨t, ht, hsent⟩
  have hreach := (reach_run_events (fun _ => True) node_one node_one t _ Reach.refl
    (fun _ _ => trivial) ht).mono (fun _ _ _ h => h.1)
  have hp : build_packet 1 VRR_TEARDOWN 1 2 0x22 [2, 7, 0] ∈ t.sent := by
    rw [hsent]
    exact List.mem_singleton_self _
  exact ⟨t, hreach, _, hp, rfl, rfl, teardowns_of_own_paths 1 (fun _ => 0) (fun _ => 0)
    Kernel.calm t hreach _ hp rfl⟩

/-- In every run of a node, whatever it receives, the teardowns that it sends are
    at most four for each route that it has filed, less two for each copy of a
    route that is still in its table. -/
theorem teardowns_bounded (id : U32) (g : Nat → U32) (gm : Nat → MacAddr) (k : Kernel) (t : Sys)
    (hrun : Reach Step (Sys.boot (vrr_init id g gm) k) t) :
    teardowns t.sent + 2 * t.node.rt.load ≤ 4 * t.added.length := by
  have hbudget := (accounted_of_run hrun).budget
  omega

/-- Node 1 has sent one teardown, for the one route that it has filed. -/
theorem teardowns_bounded_two :
    ∃ t, Reach Step node_one t ∧ teardowns t.sent = 1 ∧ t.added.length = 1 ∧
      teardowns t.sent + 2 * t.node.rt.load ≤ 4 * t.added.length := by
  have heval : (run_events node_one disowned_events).map
      (fun t => (teardowns t.sent, t.added.length)) = some (1, 1) := by
    decide +kernel
  rcases Option.map_eq_some_iff.mp heval with ⟨t, ht, hvals⟩
  rw [Prod.mk.injEq] at hvals
  have hreach := (reach_run_events (fun _ => True) node_one node_one t _ Reach.refl
    (fun _ _ => trivial) ht).mono (fun _ _ _ h => h.1)
  exact ⟨t, hreach, hvals.1, hvals.2,
    teardowns_bounded 1 (fun _ => 0) (fun _ => 0) Kernel.calm t hreach⟩

end AlpacaVrr
