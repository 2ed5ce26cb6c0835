import AlpacaVrr.Theory.Delivery
import AlpacaVrr.Theory.Outcomes
import AlpacaVrr.Theory.Requests

/-!
# How a Setup Ends

A setup from a neighbour, for a path that the table does not know, with all
allocations succeeding.

The route is filed first. Then the setup is passed on, or its source is offered
to the virtual set. In neither case is the route looked at again: the call of
`tear_down_path` at the end of the handler is behind two branches that both
return. So the route stays where nothing has come of the setup, that is where
the address of the next hop is not known, where the path ends at a node that it
is not for, and where the source is refused, or evicted at once.

No route is filed for the path from 0 to 0, because a route is filed only under
endpoints that are not 0.

## Main definitions

* `OnPath`: The table has an entry of a path.
* `Upheld`: What a setup should leave behind.
* `Concluded`: The setups that do.

## Theorems

* `handle_setup_at`: What the handler does.
* `onPath_added`: Which paths the table has entries of.
* `setup_upheld_iff`: When a setup leaves behind what it should.
-/

namespace AlpacaVrr

open FaultState

/-- The table has an entry with the endpoint `src` and the path id. -/
def OnPath (rt : RtTable) (src pid : U32) : Prop :=
  ∃ e, ∃ r ∈ rt.routes e, (r.ea = src ∨ r.eb = src) ∧ r.path_id = pid

/-- A node that a setup is not for has the virtual set it had. And a setup that
    was not passed on, and did not end with its source in the virtual set of
    the node it is for, has left no entry of its path. -/
def Upheld (s t : Sys) (src dst pid : U32) : Prop :=
  (dst ≠ s.node.me → t.node.vset = s.node.vset) ∧ ∃ ps, t.sent = s.sent ++ ps ∧
    (¬ Emitted ps VRR_SETUP → ¬ (dst = s.node.me ∧ src ∈ t.node.vset.nodes) →
      ¬ OnPath t.node.rt src pid)

/-- The setup can be passed on, or it is for the node and its source stays in
    the virtual set, or no route is filed for it. -/
def Concluded (n : Node) (src dst proxy : U32) (vset : List U32) (g : Nat → Garbage) : Prop :=
  if setup_hop n dst proxy ≠ 0 then
    (pset_get_mac n.pset (setup_hop n dst proxy)).isSome = true ∨ src = 0 ∧ dst = 0
  else if dst = n.me then
    src ∈ (offered n.me n.vset src (requests n vset g).2).nodes ∨ src = 0 ∧ dst = 0
  else
    (src = 0 ∧ dst = 0) ∧
      ¬ vset_should_add n.me n.vset src ((requests n vset g).2 0) ((requests n vset g).2 1) = true

/-- A route is filed under an endpoint that is not 0. -/
theorem onPath_added (rb : RbInsertColor) (t : RtTable) (src dst na nb pid : U32)
    (hfresh : ¬ OnPath t src pid) :
    OnPath (t.rt_add_route rb RtAlloc.ok src dst na nb pid).2 src pid ↔ ¬ (src = 0 ∧ dst = 0) := by
  have hmem := mem_routes_added rb t ⟨src, dst, na, nb, pid⟩
  constructor
  · rintro ⟨e, r, hr, hpath⟩ ⟨hsrc, hdst⟩
    rcases (hmem e r).mp hr with ⟨_, hne, he⟩ | hold
    · rcases he with he | he
      · exact hne (he.trans hsrc)
      · exact hne (he.trans hdst)
    · exact hfresh ⟨e, r, hold, hpath⟩
  · intro hne
    by_cases hsrc : src = 0
    · have hdst : dst ≠ 0 := fun h => hne ⟨hsrc, h⟩
      exact ⟨dst, _, (hmem dst _).mpr (Or.inl ⟨rfl, hdst, Or.inr rfl⟩), Or.inl rfl, rfl⟩
    · exact ⟨src, _, (hmem src _).mpr (Or.inl ⟨rfl, hsrc, Or.inl rfl⟩), Or.inl rfl, rfl⟩

/-- An offer that is turned down changes nothing, and one that is not changes
    the counter. -/
theorem offered_eq_iff (me : U32) (v : Vset) (src : U32) (g : Nat → Garbage) :
    offered me v src g = v ↔
      ¬ (src ≠ UINT_MAX ∧ vset_should_add me v src (g 0) (g 1) = true) := by
  unfold offered
  split_ifs with h
  · refine iff_of_false (fun heq => ?_) (not_not_intro h)
    have habs : src ∉ v.nodes := fun hmem =>
      Bool.false_ne_true (by rw [← h.2, vset_should_add, if_pos hmem])
    have hsize := congrArg Vset.vset_size heq
    rw [vset_add_set, if_neg habs] at hsize
    have hkeep : (vset_bump (insert_vset_node me v src) 0 (g 2) (g 3)).2.2.vset_size =
        v.vset_size + 1 := by
      rcases vset_bump_cases (insert_vset_node me v src) 0 (g 2) (g 3) with
        ⟨_, hbump⟩ | ⟨_, _, _, _, hbump⟩ | ⟨_, hbump⟩ <;>
      · rw [hbump]
        rfl
    omega
  · exact iff_of_true rfl h

/-- The route is filed, and the setup passed on or its source offered. -/
structure AfterSetup (n : Node) (l : List Packet) (src dst na nh pid : U32) (vset : List U32)
    (g : Nat → Garbage) (t : Sys) : Prop where
  route : ∃ rb, t.node.rt = (n.rt.rt_add_route rb RtAlloc.ok src dst na nh pid).2
  vset : t.node.vset = if nh ≠ 0 then n.vset else offered n.me n.vset src (requests n vset g).2
  sent : ∃ ps, t.sent = l ++ ps ∧
    (Emitted ps VRR_SETUP ↔ nh ≠ 0 ∧ (pset_get_mac n.pset nh).isSome = true)

/-- What `vrr_rcv` does first makes no difference to it. -/
theorem AfterSetup.of_heard {n : Node} {l : List Packet} {id src dst na nh pid : U32}
    {vset : List U32} {g : Nat → Garbage} {t : Sys}
    (h : AfterSetup (heard n id) l src dst na nh pid vset g t) :
    AfterSetup n l src dst na nh pid vset g t := by
  have hreq := requests_congr (n := n) (m := heard n id) rfl rfl
    (pset_active_reset_fail_count n.pset id) vset g
  refine ⟨h.route, ?_, ?_⟩
  · rw [h.vset, hreq]
    rfl
  · obtain ⟨ps, hsent, hon⟩ := h.sent
    refine ⟨ps, hsent, ?_⟩
    rw [hon, heard, pset_get_mac_reset_fail_count]

namespace Vrr

section Handler

variable {n : Node} {l : List Packet} {g : Nat → Garbage}

/-- At the end of the path the source is offered. -/
theorem vrr_add_after (src dst na nh pid : U32) (vset : List U32) (rb : RbInsertColor)
    (hend : ¬ nh ≠ 0) :
    Triple (Sys.At { n with rt := (n.rt.rt_add_route rb RtAlloc.ok src dst na nh pid).2 } l g)
      (vrr_add src vset) (fun _ => AfterSetup n l src dst na nh pid vset g) (fun _ => False) := by
  -- the table does not matter to the requests
  have hreq := requests_congr (n := n)
    (m := { n with rt := (n.rt.rt_add_route rb RtAlloc.ok src dst na nh pid).2 }) rfl rfl rfl vset g
  refine Triple.post (vrr_add_at src vset) (fun _ t ht => ?_)
  rw [hreq] at ht
  obtain ⟨hnode, ps, hps, hsent⟩ := ht
  refine ⟨⟨rb, by rw [hnode]⟩, by rw [hnode, if_neg hend], ps, hsent, ?_⟩
  exact iff_of_false (fun h => absurd (emitted_requests hps h) (by decide)) (fun h => hend h.1)

/-- What a setup from a neighbour leaves behind. -/
theorem handle_setup_at (skb : SkBuff) (pid proxy na : U32) (vset : List U32)
    (hsender : sender_of n skb = some na) :
    Triple (Sys.At n l g) (handle_setup skb pid proxy vset)
      (fun err t => AfterSetup n l skb.pkt.src skb.pkt.dst na (setup_hop n skb.pkt.dst proxy) pid
        vset g t ∧ err = 0) (fun _ => False) := by
  have hhop : Triple (Sys.At n l g) (setup_next_hop skb.pkt.dst proxy)
      (fun nh s => s.At n l g ∧ nh = setup_hop n skb.pkt.dst proxy) (fun _ => False) := by
    refine Triple.reads _ (setup_next_hop_run _ proxy) (fun s hs => ⟨hs, ?_⟩)
    rw [hs.node]
  unfold sender_of at hsender
  unfold handle_setup handle_setup_from
  refine Triple.bind me_at (fun me => Triple.of_and (fun hme => ?_))
  rw [hme, hsender]
  refine Triple.bind hhop (fun nh => Triple.of_and (fun hnh => ?_))
  rw [← hnh]
  refine Triple.bind (rt_add_route_at _ _ _ _ _) (fun added => Triple.of_and (fun hadded => ?_))
  refine Triple.of_exists (fun rb => ?_)
  refine Triple.ite _ (fun _ => ?_) (fun h => absurd hadded h)
  refine Triple.bind (kmalloc_at _) (fun buffer => Triple.of_and (fun hbuffer => ?_))
  refine Triple.ite _ (fun _ => ?_) (fun h => absurd hbuffer h)
  refine Triple.ite _ (fun hne => ?_) (fun hend => ?_)
  · refine Triple.bind (send_vset_at _ _ _ _ vset _ _ _ (read_vset_all vset))
      (fun _ => Triple.pure _ (fun t ht => ⟨⟨⟨rb, ?_⟩, ?_, _, ht.sent, ?_⟩, rfl⟩))
    · rw [ht.node]
    · rw [ht.node, if_pos hne]
    · rw [emitted_vset_to, and_iff_right hne]
  · refine Triple.bind (vrr_add_after _ _ na nh pid vset rb hend) (fun ret => ?_)
    -- whether the node becomes active is of no interest
    refine Triple.ite _ (fun _ => ?_) (fun _ => Triple.pure _ (fun t ht => ⟨ht, rfl⟩))
    refine Triple.bind (Q := fun _ => AfterSetup n l skb.pkt.src skb.pkt.dst na nh pid vset g) ?_
      (fun _ => Triple.pure _ (fun t ht => ⟨ht, rfl⟩))
    exact Triple.modify _ (fun t ht => ⟨ht.route, ht.vset, ht.sent⟩)

end Handler

end Vrr

/-- A node whose setup goes to itself finds the address. -/
theorem mac_of_self (n : Node) (proxy : U32) (h : setup_hop n n.me proxy ≠ 0) :
    (pset_get_mac n.pset (setup_hop n n.me proxy)).isSome = true := by
  unfold setup_hop at h ⊢
  by_cases hst : pset_get_status n.pset n.me = .unknown
  · rw [if_pos hst, if_pos rfl] at h
    exact absurd rfl h
  · rw [if_neg hst, pset_get_mac_isSome_iff]
    exact mem_of_pset_get_status n.pset n.me hst

/-- What a setup should leave behind, by what it does. -/
theorem upheld_iff {s t : Sys} {src dst na pid proxy : U32} {vset : List U32}
    {g : Nat → Garbage} (hfresh : ¬ OnPath s.node.rt src pid)
    (h : AfterSetup s.node s.sent src dst na (setup_hop s.node dst proxy) pid vset g t) :
    Upheld s t src dst pid ↔ Concluded s.node src dst proxy vset g := by
  obtain ⟨rb, hroute⟩ := h.route
  obtain ⟨ps, hsent, hon⟩ := h.sent
  have hvset := h.vset
  have hpath := onPath_added rb s.node.rt src dst na (setup_hop s.node dst proxy) pid hfresh
  rw [← hroute] at hpath
  have htorn : (∃ ps, t.sent = s.sent ++ ps ∧ (¬ Emitted ps VRR_SETUP →
      ¬ (dst = s.node.me ∧ src ∈ t.node.vset.nodes) → ¬ OnPath t.node.rt src pid)) ↔
      Emitted ps VRR_SETUP ∨ (dst = s.node.me ∧ src ∈ t.node.vset.nodes) ∨ src = 0 ∧ dst = 0 := by
    -- what was sent in the call is determined by the two records
    have hsame : ∀ qs, t.sent = s.sent ++ qs → qs = ps := fun qs hqs =>
      List.append_cancel_left (hqs.symm.trans hsent)
    rw [hpath]
    constructor
    · rintro ⟨qs, hqs, hq⟩
      rw [hsame qs hqs] at hq
      by_contra hnone
      obtain ⟨hps, hend, hzero⟩ := not_or.mp hnone |>.imp_right not_or.mp
      exact hq hps hend hzero
    · rintro (hps | hend | hzero)
      · exact ⟨ps, hsent, fun h => absurd hps h⟩
      · exact ⟨ps, hsent, fun _ h => absurd hend h⟩
      · exact ⟨ps, hsent, fun _ _ h => h hzero⟩
  unfold Upheld Concluded
  rw [htorn, hon, hvset]
  -- passed on, ended here, or ended at a node that it is not for
  by_cases hne : setup_hop s.node dst proxy ≠ 0
  · simp only [if_pos hne]
    constructor
    · rintro ⟨_, ⟨_, hmac⟩ | ⟨rfl, _⟩ | hzero⟩
      · exact Or.inl hmac
      · -- a node that is its own next hop has its own address
        exact Or.inl (mac_of_self s.node proxy hne)
      · exact Or.inr hzero
    · rintro (hmac | hzero)
      · exact ⟨fun _ => trivial, Or.inl ⟨hne, hmac⟩⟩
      · exact ⟨fun _ => trivial, Or.inr (Or.inr hzero)⟩
  · rw [if_neg hne, if_neg hne, or_iff_right (fun h => hne h.1)]
    by_cases hdst : dst = s.node.me
    · rw [if_pos hdst, and_iff_right (fun h => absurd hdst h), and_iff_right hdst]
    · rw [if_neg hdst, offered_eq_iff, or_iff_right (fun h => hdst h.1), and_comm]
      refine and_congr_right (fun hzero => ?_)
      have hmax : src ≠ UINT_MAX := by
        rw [hzero.1]
        decide
      rw [and_iff_right hmax]
      exact imp_iff_right hdst

/-- A setup from a neighbour, for a path without an entry, leaves behind what it
    should exactly when it is concluded. -/
theorem setup_upheld_iff (s : Sys) (skb : SkBuff) (na pid proxy : U32) (vset : List U32)
    (hty : skb.pkt.vh.pkt_type = VRR_SETUP) (hcarries : Carries skb.pkt [pid, proxy] vset)
    (hsender : sender_of s.node skb = some na) (hfresh : ¬ OnPath s.node.rt skb.pkt.src pid)
    (halloc : ∀ i, s.kern.kmalloc i = true) :
    (∃ ret t, Vrr.vrr_rcv skb s = .ok (ret, t) ∧ Upheld s t skb.pkt.src skb.pkt.dst pid) ↔
      Concluded s.node skb.pkt.src skb.pkt.dst proxy vset s.kern.uninit := by
  have hlt : skb.pkt.vh.pkt_type < VRR_NPTYPES := by
    rw [hty]
    decide
  have hfunc : Vrr.vrr_rcvfunc skb = Vrr.handle_setup skb pid proxy vset := by
    rw [Vrr.vrr_rcvfunc_setup skb hty, Vrr.vrr_rcv_setup_eq skb hcarries]
  have hafter : Triple (Sys.At s.node s.sent s.kern.uninit) (Vrr.vrr_rcv skb)
      (fun _ => AfterSetup s.node s.sent skb.pkt.src skb.pkt.dst na
        (setup_hop s.node skb.pkt.dst proxy) pid vset s.kern.uninit) (fun _ => False) := by
    refine Vrr.vrr_rcv_zero_at skb hlt ?_
    rw [hfunc]
    have hrun := Vrr.handle_setup_at (n := heard s.node skb.pkt.src) (l := s.sent)
      (g := s.kern.uninit) skb pid proxy na vset (by rw [sender_of_heard, hsender])
    rw [setup_hop_heard] at hrun
    exact hrun.post (fun _ t ht => ⟨ht.1.of_heard, ht.2⟩)
  exact Triple.run_iff (hafter.post (fun _ t ht => upheld_iff hfresh ht)) ⟨rfl, rfl, rfl, halloc⟩

/-- Node 1 meets node 2. -/
def meet_events : List (Event × Kernel) :=
  [.vrr_rcv (frame 2 VRR_HELLO 2 0 [0, 0, 0, 0]), .pset_update_handler].map
    (fun e => (e, Kernel.calm))

/-- An empty table has no entries. -/
theorem not_onPath_of_leaf {t : RtTable} (h : t.root = .leaf) (src pid : U32) :
    ¬ OnPath t src pid := by
  rintro ⟨e, r, hr, _⟩
  unfold RtTable.routes at hr
  rw [h] at hr
  exact absurd hr List.not_mem_nil

/-- A setup for node 1, which takes its source in. -/
theorem setup_upheld_one :
    ∃ s t ret, Reach Step node_one s ∧
      Vrr.vrr_rcv (frame 2 VRR_SETUP 5 1 [7, 5, 0]) { s with kern := Kernel.calm } =
        .ok (ret, t) ∧ Upheld s t 5 1 7 := by
  obtain ⟨s, hreach, hs⟩ := reach_of_eval meet_events (fun s =>
    decide (s.node.rt.root = .leaf ∧ pset_lookup_mac s.node.pset 2 = some 2 ∧ s.node.me = 1 ∧
      setup_hop s.node 1 5 = 0 ∧
      5 ∈ (offered s.node.me s.node.vset 5 (requests s.node [] Kernel.calm.uninit).2).nodes))
    (by decide +kernel)
  obtain ⟨hleaf, hmac, hme, hhop, hmem⟩ := of_decide_eq_true hs
  have hconcluded : Concluded s.node 5 1 5 [] Kernel.calm.uninit := by
    unfold Concluded
    rw [if_neg (not_not_intro hhop), if_pos hme.symm]
    exact Or.inl hmem
  obtain ⟨ret, t, hrun, hup⟩ := (setup_upheld_iff { s with kern := Kernel.calm }
    (frame 2 VRR_SETUP 5 1 [7, 5, 0]) 2 7 5 [] rfl (carries_payload _ [7, 5] [] (by decide)) hmac
    (not_onPath_of_leaf hleaf 5 7) (fun _ => rfl)).mpr hconcluded
  exact ⟨s, t, ret, hreach, hrun, hup⟩

/-- A setup for node 6, which node 1 does not know the way to. Node 1 takes the
    source in and keeps the route. -/
theorem setup_not_torn_down :
    ¬ ∀ (s : Sys) (k : Kernel) (skb : SkBuff) (na pid proxy : U32) (vset : List U32),
      Reach Step node_one s → (∀ i, k.kmalloc i = true) → skb.pkt.vh.pkt_type = VRR_SETUP →
      Carries skb.pkt [pid, proxy] vset → pset_lookup_mac s.node.pset skb.h_source = some na →
      ¬ OnPath s.node.rt skb.pkt.src pid →
      ∃ ret t, Vrr.vrr_rcv skb { s with kern := k } = .ok (ret, t) ∧
        Upheld s t skb.pkt.src skb.pkt.dst pid := by
  intro hall
  obtain ⟨s, hreach, hs⟩ := reach_of_eval meet_events (fun s =>
    decide (s.node.rt.root = .leaf ∧ pset_lookup_mac s.node.pset 2 = some 2 ∧ s.node.me = 1 ∧
      s.node.vset.nodes = []) &&
    ends_in (Vrr.vrr_rcv (frame 2 VRR_SETUP 5 6 [7, 5, 0])) { s with kern := Kernel.calm }
      (fun _ t => decide (t.node.vset.nodes = [5]))) (by decide +kernel)
  rw [Bool.and_eq_true, decide_eq_true_eq] at hs
  obtain ⟨⟨hleaf, hmac, hme, hnodes⟩, hrun⟩ := hs
  obtain ⟨ret, t, ht, hup⟩ := hall s Kernel.calm (frame 2 VRR_SETUP 5 6 [7, 5, 0]) 2 7 5 []
    hreach (fun _ => rfl) rfl (carries_payload _ [7, 5] [] (by decide)) hmac
    (not_onPath_of_leaf hleaf _ 7)
  have hsame : t.node.vset = s.node.vset := hup.1 (by rw [hme]; decide)
  unfold ends_in at hrun
  simp only [ht, hsame, hnodes, decide_eq_true_eq] at hrun
  cases hrun

end AlpacaVrr
