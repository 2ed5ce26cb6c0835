import AlpacaVrr.Theory.Outcomes
import AlpacaVrr.Theory.Requests

/-!
# Asking for New Paths

What a node asks for when a setup failed, and when a path was torn down.

A setup that failed brings the ids of a virtual set back to the node that asked
for the path. They are asked for, and so should be the node that sent them. Its
id is written behind the buffer and not into it, so it is asked for only when it
is one of the ids received. And a node that has a route towards the proxy does
not look whether the message is for itself, but sends it on.

A teardown either tells the other end which ids to ask for, or it tells it to
ask for the lost end again. The two sides have different ideas of how. The one
attaches its virtual set when there is a sender, where it should when there is
none. The other takes an empty virtual set for one that was attached, because an
allocation of no bytes is not NULL. So the lost end is never asked for.

All allocations are taken to succeed.

## Main definitions

* `Consumed`, `Answered`: What a failed setup should lead to, and when it does.
* `Attached`, `Repaired`: What a teardown should carry, and lead to.

## Theorems

* `consumed_iff`: When a failed setup is dealt with as it should.
* `tear_down_path_sends`: What the teardowns of a path carry.
* `teardown_repairs_iff`: When a teardown is sent and received as it should.
-/

namespace AlpacaVrr

open FaultState

section SetupFail

/-- The virtual set is as it was, no failed setup was sent, and what was
    requested are the ids that the node accepts. -/
def Consumed (s t : Sys) (ids : List U32) : Prop :=
  t.node.vset = s.node.vset ∧ ∃ ps, t.sent = s.sent ++ ps ∧ ¬ Emitted ps VRR_SETUP_FAIL ∧
    AsksFor s.node ids ps

/-- A node without a next hop has no neighbour to ask, or does not have to ask
    for the source, or received it with the ids. One with a next hop must not
    know its address, and have nothing to ask for. -/
def Answered (n : Node) (src dst proxy : U32) (vset : List U32) : Prop :=
  if hop_via n dst proxy ≠ 0 then
    pset_get_mac n.pset (hop_via n dst proxy) = none ∧
      (pset_active n.pset = [] ∨ ∀ id ∈ vset ++ [src], ¬ Accepted n id)
  else pset_active n.pset = [] ∨ src ∈ vset ∨ ¬ Accepted n src

/-- Nothing is requested. -/
theorem asksFor_nil (n : Node) (ids : List U32) :
    AsksFor n ids [] ↔ pset_active n.pset = [] ∨ ∀ id ∈ ids, ¬ Accepted n id := by
  have hnone : ∀ id, ¬ Requested [] id := by
    rintro id ⟨p, hp, _⟩
    exact absurd hp List.not_mem_nil
  constructor
  · intro h
    refine or_iff_not_imp_left.mpr (fun hready id hid hacc => ?_)
    exact hnone id (h.all hready id hid hacc)
  · intro h
    refine ⟨fun id hid => absurd hid (hnone id), fun hready id hid hacc => ?_⟩
    exact absurd hacc (h.resolve_left hready id hid)

/-- The loop asks for one id more when it is one of the others, or not to be
    asked for. -/
theorem asksFor_snoc {n : Node} {ps : List Packet} {ids : List U32} {g : Nat → Garbage} (src : U32)
    (h : List.Forall₂ (Requests n.me) ps (requests n ids g).1) :
    AsksFor n (ids ++ [src]) ps ↔
      pset_active n.pset = [] ∨ src ∈ ids ∨ ¬ Accepted n src := by
  have hasks := asksFor_of_requests h
  constructor
  · intro hmore
    refine or_iff_not_imp_left.mpr (fun hready => or_iff_not_imp_right.mpr (fun hacc => ?_))
    have hreq := hmore.all hready src (List.mem_append_right ids List.mem_cons_self)
      (not_not.mp hacc)
    exact (hasks.only src hreq).1
  · intro hwhy
    constructor
    · intro id hid
      exact ⟨List.mem_append_left _ (hasks.only id hid).1, (hasks.only id hid).2⟩
    · intro hready id hmem hacc
      rcases List.mem_append.mp hmem with hmem | hmem
      · exact hasks.all hready id hmem hacc
      · have hid : id = src := List.mem_singleton.mp hmem
        rw [hid] at hacc ⊢
        rcases hwhy with hidle | hsrc | hnot
        · exact absurd hidle hready
        · exact hasks.all hready src hsrc hacc
        · exact absurd hacc hnot

theorem vset_to_heard (n : Node) (id : U32) (pkt_type : U8) (src dst : U32) (data : List U32)
    (vset_size : Nat) (ids : List U32) (hop : U32) :
    vset_to (heard n id) pkt_type src dst data vset_size ids hop =
      vset_to n pkt_type src dst data vset_size ids hop := by
  unfold vset_to heard
  rw [pset_get_mac_reset_fail_count]

namespace Vrr

variable {n : Node} {l : List Packet} {g : Nat → Garbage}

/-- A failed setup is sent on, or the ids are asked for. -/
theorem handle_setup_fail_at (skb : SkBuff) (proxy : U32) (vset : List U32)
    (hdst : skb.pkt.dst = n.me) :
    Triple (Sys.At n l g) (handle_setup_fail skb proxy vset)
      (fun err t => (t.node.vset = n.vset ∧ ∃ ps, t.sent = l ++ ps ∧
        if hop_via n skb.pkt.dst proxy ≠ 0 then
          ps = vset_to n VRR_SETUP_FAIL skb.pkt.src skb.pkt.dst [proxy] vset.length vset
            (hop_via n skb.pkt.dst proxy)
        else List.Forall₂ (Requests n.me) ps (requests n vset g).1) ∧ err = 0)
      (fun _ => False) := by
  have hhop : Triple (Sys.At n l g) (next_hop_via skb.pkt.dst proxy)
      (fun nh s => s.At n l g ∧ nh = hop_via n skb.pkt.dst proxy) (fun _ => False) := by
    refine Triple.reads (fun s => hop_via s.node skb.pkt.dst proxy) (fun s => ?_)
      (fun s hs => ⟨hs, by rw [hs.node]⟩)
    change (if pset_get_status s.node.pset skb.pkt.dst = .unknown then rt_get_next proxy
      else pure skb.pkt.dst : Vrr U32) s = _
    unfold hop_via
    split_ifs <;> rfl
  unfold handle_setup_fail
  refine Triple.bind (kmalloc_at _) (fun buffer => Triple.of_and (fun hbuffer => ?_))
  refine Triple.ite _ (fun _ => ?_) (fun h => absurd hbuffer h)
  refine Triple.bind hhop (fun nh => Triple.of_and (fun hnh => ?_))
  rw [← hnh]
  refine Triple.ite _ (fun hne => ?_) (fun hend => ?_)
  · refine Triple.bind (send_vset_at _ _ _ _ vset _ _ _ (read_vset_all vset))
      (fun _ => Triple.pure _ (fun t ht => ⟨⟨by rw [ht.node], _, ht.sent, ?_⟩, rfl⟩))
    rw [if_pos hne]
  · refine Triple.bind me_at (fun me => Triple.of_and (fun hme => ?_))
    rw [hme]
    refine Triple.ite _ (fun _ => ?_) (fun h => absurd hdst h)
    -- the write behind the buffer is on record and changes nothing else
    refine Triple.bind (Q := fun _ => Sys.At n l g)
      (Triple.modify _ (fun s hs => ⟨hs.node, hs.sent, hs.uninit, hs.alloc⟩)) (fun _ => ?_)
    refine Triple.bind (vrr_add_at UINT_MAX vset) (fun _ => Triple.pure _ (fun t ht => ?_))
    obtain ⟨hnode, ps, hps, hsent⟩ := ht
    refine ⟨⟨?_, ps, hsent, ?_⟩, rfl⟩
    · have hsame : offered n.me n.vset UINT_MAX (requests n vset g).2 = n.vset := by
        unfold offered
        rw [if_neg (fun h => h.1 rfl)]
      rw [hnode, hsame]
    · rw [if_neg hend]
      exact hps

end Vrr

/-- What a failed setup should lead to, by what it does. -/
theorem consumed_iff_of_run {s t : Sys} {src dst proxy : U32} {vset : List U32}
    {g : Nat → Garbage} {ps : List Packet} (hvset : t.node.vset = s.node.vset)
    (hsent : t.sent = s.sent ++ ps)
    (hps : if hop_via s.node dst proxy ≠ 0 then
        ps = vset_to s.node VRR_SETUP_FAIL src dst [proxy] vset.length vset
          (hop_via s.node dst proxy)
      else List.Forall₂ (Requests s.node.me) ps (requests s.node vset g).1) :
    Consumed s t (vset ++ [src]) ↔ Answered s.node src dst proxy vset := by
  have hconsumed : Consumed s t (vset ++ [src]) ↔
      ¬ Emitted ps VRR_SETUP_FAIL ∧ AsksFor s.node (vset ++ [src]) ps := by
    constructor
    · rintro ⟨_, qs, hqs, hq⟩
      rw [List.append_cancel_left (hsent.symm.trans hqs)]
      exact hq
    · intro h
      exact ⟨hvset, ps, hsent, h⟩
  rw [hconsumed]
  unfold Answered
  by_cases hne : hop_via s.node dst proxy ≠ 0
  · -- there is a next hop, so the packet goes on unless its address is missing
    rw [if_pos hne] at hps ⊢
    rw [hps, emitted_vset_to, Option.not_isSome_iff_eq_none]
    refine and_congr_right (fun hnone => ?_)
    have hnil : vset_to s.node VRR_SETUP_FAIL src dst [proxy] vset.length vset
        (hop_via s.node dst proxy) = [] := by
      unfold vset_to
      rw [hnone]
      rfl
    rw [hnil, asksFor_nil]
  · rw [if_neg hne] at hps ⊢
    have hnot : ¬ Emitted ps VRR_SETUP_FAIL := fun h => absurd (emitted_requests hps h) (by decide)
    rw [and_iff_right hnot, asksFor_snoc src hps]

/-- A failed setup that comes back to the node that asked for the path is dealt
    with as it should exactly when it is answered. -/
theorem consumed_iff (s : Sys) (skb : SkBuff) (proxy : U32) (vset : List U32)
    (hty : skb.pkt.vh.pkt_type = VRR_SETUP_FAIL) (hcarries : Carries skb.pkt [proxy] vset)
    (hdst : skb.pkt.dst = s.node.me) (halloc : ∀ i, s.kern.kmalloc i = true) :
    (∃ ret t, Vrr.vrr_rcv skb s = .ok (ret, t) ∧ Consumed s t (vset ++ [skb.pkt.src])) ↔
      Answered s.node skb.pkt.src skb.pkt.dst proxy vset := by
  have hlt : skb.pkt.vh.pkt_type < VRR_NPTYPES := by
    rw [hty]
    decide
  have hfunc : Vrr.vrr_rcvfunc skb = Vrr.handle_setup_fail skb proxy vset := by
    rw [Vrr.vrr_rcvfunc_setup_fail skb hty, Vrr.vrr_rcv_setup_fail_eq skb hcarries]
  have hrun : Triple (Sys.At s.node s.sent s.kern.uninit) (Vrr.vrr_rcv skb)
      (fun _ t => Consumed s t (vset ++ [skb.pkt.src]) ↔
        Answered s.node skb.pkt.src skb.pkt.dst proxy vset) (fun _ => False) := by
    refine Vrr.vrr_rcv_zero_at skb hlt ?_
    rw [hfunc]
    refine Triple.post
      (Vrr.handle_setup_fail_at (n := heard s.node skb.pkt.src) skb proxy vset hdst)
      (fun err t ht => ?_)
    obtain ⟨⟨hvset, ps, hsent, hps⟩, herr⟩ := ht
    -- what `vrr_rcv` does first makes no difference
    have hreq := requests_congr (n := s.node) (m := heard s.node skb.pkt.src) rfl rfl
      (pset_active_reset_fail_count s.node.pset skb.pkt.src) vset s.kern.uninit
    rw [hop_via_heard, hreq, vset_to_heard] at hps
    exact ⟨consumed_iff_of_run hvset hsent hps, herr⟩
  exact Triple.run_iff hrun ⟨rfl, rfl, rfl, halloc⟩

/-- Node 1 meets node 2, which is active and has node 1 on its list. -/
def join_events : List (Event × Kernel) :=
  [.vrr_rcv (frame 2 VRR_HELLO 2 0 [1, 0, 0, 1, 1]), .pset_update_handler].map
    (fun e => (e, Kernel.calm))

/-- The source is one of the ids. -/
theorem consumed_iff_one :
    ∃ s t ret, Reach Step node_one s ∧ pset_active s.node.pset = [2] ∧
      Vrr.vrr_rcv (frame 2 VRR_SETUP_FAIL 5 1 [2, 1, 5]) { s with kern := Kernel.calm } =
        .ok (ret, t) ∧ Consumed s t [5, 5] := by
  obtain ⟨s, hreach, hs⟩ := reach_of_eval join_events (fun s =>
    decide (s.node.me = 1 ∧ pset_active s.node.pset = [2] ∧ hop_via s.node 1 2 = 0))
    (by decide +kernel)
  obtain ⟨hme, hactive, hhop⟩ := of_decide_eq_true hs
  have hanswered : Answered s.node 5 1 2 [5] := by
    unfold Answered
    rw [if_neg (not_not_intro hhop)]
    exact Or.inr (Or.inl List.mem_cons_self)
  obtain ⟨ret, t, hrun, ht⟩ := (consumed_iff { s with kern := Kernel.calm }
    (frame 2 VRR_SETUP_FAIL 5 1 [2, 1, 5]) 2 [5] rfl (carries_payload _ [2] [5] (by decide))
    hme.symm (fun _ => rfl)).mpr hanswered
  exact ⟨s, t, ret, hreach, hactive, hrun, ht⟩

/-- The source is not, and it is not asked for. -/
theorem setup_fail_unanswered :
    ¬ ∀ (s : Sys) (k : Kernel) (skb : SkBuff) (proxy : U32) (vset : List U32),
      Reach Step node_one s → (∀ i, k.kmalloc i = true) →
      skb.pkt.vh.pkt_type = VRR_SETUP_FAIL → Carries skb.pkt [proxy] vset →
      skb.pkt.dst = s.node.me →
      ∃ ret t, Vrr.vrr_rcv skb { s with kern := k } = .ok (ret, t) ∧
        Consumed s t (vset ++ [skb.pkt.src]) := by
  intro hall
  obtain ⟨s, hreach, hs⟩ := reach_of_eval join_events (fun s =>
    decide (s.node.me = 1 ∧ pset_active s.node.pset = [2] ∧ 5 ∉ s.node.vset.nodes ∧
      s.node.vset.vset_size < VRR_VSET_SIZE) &&
    ends_in (Vrr.vrr_rcv (frame 2 VRR_SETUP_FAIL 5 1 [2, 0])) { s with kern := Kernel.calm }
      (fun _ t => decide (t.sent = s.sent))) (by decide +kernel)
  rw [Bool.and_eq_true, decide_eq_true_eq] at hs
  obtain ⟨⟨hme, hactive, habs, hroom⟩, hrun⟩ := hs
  obtain ⟨ret, t, ht, _, ps, hps, _, hasks⟩ := hall s Kernel.calm
    (frame 2 VRR_SETUP_FAIL 5 1 [2, 0]) 2 [] hreach (fun _ => rfl) rfl
    (carries_payload _ [2] [] (by decide)) hme.symm
  unfold ends_in at hrun
  simp only [ht, decide_eq_true_eq] at hrun
  have hnil : ps = [] := List.self_eq_append_right.mp (hrun.symm.trans hps)
  have hready : pset_active s.node.pset ≠ [] := by
    rw [hactive]
    exact List.cons_ne_nil _ _
  have hreq : Requested ps 5 :=
    hasks.all hready 5 List.mem_cons_self (accepted_of_room habs hroom)
  rw [hnil] at hreq
  obtain ⟨p, hp, _⟩ := hreq
  exact absurd hp List.not_mem_nil

end SetupFail

section Teardown

/-- Each teardown carries the virtual set if there is no sender, and none of it
    if there is one. -/
def Attached (s t : Sys) (ea pid sender : U32) : Prop :=
  ∃ ps, t.sent = s.sent ++ ps ∧ ∀ p ∈ ps, p.data =
    payload ([ea, pid] ++ BitVec.ofNat 32 (if sender = 0 then s.node.vset.nodes else []).length ::
      if sender = 0 then s.node.vset.nodes else [])

/-- The number of ids that are attached. -/
def attached_size (v : Vset) (sender : U32) : Nat := if sender ≠ 0 then v.vset_size else 0

/-- A teardown of the path with so many ids. -/
def Tells (p : Packet) (ea pid : U32) (size : Nat) : Prop :=
  ∃ ids : List U32, ids.length = size ∧ p.data = payload ([ea, pid] ++ BitVec.ofNat 32 size :: ids)

/-- The hop is told. -/
def Told (n : Node) (hop : U32) : Prop := hop ≠ 0 ∧ pset_contains n.pset hop = true

namespace Vrr

variable {n : Node} {l : List Packet} {g : Nat → Garbage}

/-- What a hop is sent: a teardown, or nothing. -/
def HopTold (n : Node) (ea pid sender hop : U32) (ps : List Packet) : Prop :=
  (∀ p ∈ ps, Tells p ea pid (attached_size n.vset sender)) ∧ (ps = [] ↔ ¬ Told n hop)

theorem vset_get_all_length (v : Vset) (a : Garbage) :
    (AlpacaVrr.vset_get_all v a).2.length = v.vset_size := by
  refine length_fill _ _ _ ?_
  rw [Vset.nodes, List.length_map]
  exact v.length_le

/-- As many ids go along as the counter says, or none. -/
theorem tear_down_vset_at (sender : U32) :
    Triple (Sys.At n l g) (tear_down_vset sender)
      (fun r s => (∃ g', s.At n l g') ∧ r.1 = attached_size n.vset sender ∧
        ∃ ids, ids.length = r.1 ∧ read_vset r.1 r.2 = pure ids) (fun _ => False) := by
  unfold tear_down_vset attached_size
  refine Triple.ite _ (fun h => ?_) (fun h => ?_)
  · refine vset_get_all_drawn.post (fun r s hs => ⟨⟨_, hs.1⟩, ?_, ?_⟩)
    · rw [hs.2, if_pos h]
    · have hlen := vset_get_all_length n.vset (g 0)
      refine ⟨(AlpacaVrr.vset_get_all n.vset (g 0)).2, ?_, ?_⟩
      · rw [hs.2, hlen]
      · rw [hs.2]
        simp only [← hlen]
        exact read_vset_all _
  · exact Triple.pure _ (fun s hs => ⟨⟨g, hs⟩, (if_neg h).symm, [], rfl, rfl⟩)

/-- A neighbour is sent the teardown. -/
theorem hopTold_vset_to {ea pid sender hop : U32} {size : Nat} {ids : List U32} (h : Told n hop)
    (hsize : size = attached_size n.vset sender) (hlen : ids.length = size) :
    HopTold n ea pid sender hop (vset_to n VRR_TEARDOWN n.me hop [ea, pid] size ids hop) := by
  obtain ⟨mac, hmac⟩ : ∃ mac, pset_get_mac n.pset hop = some mac := by
    rw [← Option.isSome_iff_exists, pset_get_mac_isSome_iff, ← pset_contains_iff]
    exact h.2
  unfold vset_to HopTold
  rw [hmac, ← hsize]
  constructor
  · intro p hp
    rw [List.mem_singleton.mp hp]
    exact ⟨ids, hlen, rfl⟩
  · exact iff_of_false (List.cons_ne_nil _ _) (not_not_intro h)

/-- A hop is told when it is a neighbour. -/
theorem tear_down_hop_sends (pid ea sender hop : U32) :
    Triple (Sys.At n l g) (tear_down_hop pid ea sender hop)
      (fun _ s => ∃ ps g', HopTold n ea pid sender hop ps ∧ s.At n (l ++ ps) g')
      (fun _ => False) := by
  unfold tear_down_hop
  refine Triple.bind me_at (fun me => Triple.of_and (fun hme => ?_))
  rw [hme]
  refine Triple.ite _ (fun h => ?_) (fun h => Triple.pure _ (fun s hs => ?_))
  · refine Triple.bind (tear_down_vset_at sender) (fun r => Triple.of_and (fun hr => ?_))
    refine Triple.of_exists (fun g' => ?_)
    obtain ⟨hsize, ids, hlen, hread⟩ := hr
    refine Triple.bind ?_ (fun _ => Triple.pure _ (fun s hs => hs))
    unfold send_teardown
    refine Triple.bind me_at (fun me' => Triple.of_and (fun hme' => ?_))
    rw [hme']
    refine Triple.post (send_vset_at _ _ _ _ ids _ _ _ hread) (fun _ s hs => ⟨_, g', ?_, hs⟩)
    exact hopTold_vset_to h hsize hlen
  · refine ⟨[], g, ⟨fun p hp => absurd hp List.not_mem_nil, iff_of_true rfl h⟩, ?_⟩
    rw [List.append_nil]
    exact hs

/-- The teardowns of a path: to the two hops, and to the sender. -/
theorem tear_down_path_sends (pid ea sender : U32) :
    Triple (Sys.At n l g) (tear_down_path pid ea sender)
      (fun _ t => t.node = unroute n ea pid ∧ ∃ ps, t.sent = l ++ ps ∧
        (∀ p ∈ ps, Tells p ea pid (attached_size n.vset sender)) ∧
        (ps = [] ↔ ∀ route, (n.rt.rt_remove_route ea pid).1 = some route →
          ¬ Told n route.na ∧ ¬ Told n route.nb ∧ ¬ Told n sender)) (fun _ => False) := by
  unfold tear_down_path
  refine Triple.bind (rt_remove_route_at ea pid) (fun found => Triple.of_and (fun hfound => ?_))
  rw [hfound]
  cases (n.rt.rt_remove_route ea pid).1 with
  | none =>
      refine Triple.pure _ (fun s hs =>
        ⟨hs.node, [], ?_, fun p hp => absurd hp List.not_mem_nil, ?_⟩)
      · rw [List.append_nil]
        exact hs.sent
      · exact iff_of_true rfl (fun route h => by cases h)
  | some route =>
      -- three calls in a row: to the one hop, to the other, to the sender
      refine Triple.bind (tear_down_hop_sends pid ea sender route.na) (fun _ => ?_)
      refine Triple.of_exists (fun ps => Triple.of_exists (fun g' => ?_))
      refine Triple.pre (Triple.of_and (fun hps => ?_)) (fun s hs => And.symm hs)
      refine Triple.bind (tear_down_hop_sends pid ea sender route.nb) (fun _ => ?_)
      refine Triple.of_exists (fun qs => Triple.of_exists (fun g'' => ?_))
      refine Triple.pre (Triple.of_and (fun hqs => ?_)) (fun s hs => And.symm hs)
      refine Triple.bind (tear_down_hop_sends pid ea sender sender) (fun _ => ?_)
      refine Triple.of_exists (fun rs => Triple.of_exists (fun _ => ?_))
      refine Triple.pre (Triple.of_and (fun hrs => ?_)) (fun s hs => And.symm hs)
      refine Triple.pure _ (fun s hs => ⟨hs.node, ps ++ qs ++ rs, ?_, ?_, ?_⟩)
      · rw [hs.sent]
        simp only [List.append_assoc]
      · intro p hp
        rcases List.mem_append.mp hp with hp | hp
        · rcases List.mem_append.mp hp with hp | hp
          · exact hps.1 p hp
          · exact hqs.1 p hp
        · exact hrs.1 p hp
      · simp only [List.append_eq_nil_iff, hps.2, hqs.2, hrs.2, Option.some.injEq, forall_eq',
          and_assoc]
        rfl

/-- At the end of a path the ids that came with the teardown are asked for. -/
theorem handle_teardown_at (skb : SkBuff) (ea pid : U32) (vset : List U32) (route : RtEntry)
    (hroute : (n.rt.rt_remove_route ea pid).1 = some route)
    (hend : (teardown_side route skb.pkt.src).2 = 0) :
    Triple (Sys.At n l g) (handle_teardown skb ea pid vset)
      (fun err t => (∃ ps, t.sent = l ++ ps ∧ List.Forall₂ (Requests n.me) ps
        (requests (severed n ea pid (teardown_side route skb.pkt.src).1) vset g).1) ∧ err = 0)
      (fun _ => False) := by
  unfold handle_teardown
  refine Triple.bind (rt_remove_route_at ea pid) (fun found => Triple.of_and (fun hfound => ?_))
  rw [hfound, hroute]
  refine Triple.bind (kmalloc_at _) (fun buffer => Triple.of_and (fun hbuffer => ?_))
  refine Triple.ite _ (fun _ => ?_) (fun h => absurd hbuffer h)
  refine Triple.ite _ (fun h => absurd hend h) (fun _ => ?_)
  refine Triple.bind (Q := fun _ =>
    Sys.At (severed n ea pid (teardown_side route skb.pkt.src).1) l g) ?_ (fun _ => ?_)
  · intro s hs
    refine ⟨?_, hs.sent, hs.uninit, hs.alloc⟩
    have hnode := hs.node
    change ({ s.node with vset := _ } : Node) = _
    rw [hnode]
    rfl
  · refine Triple.bind (vrr_add_at 0 vset) (fun _ => Triple.pure _ (fun t ht => ⟨?_, rfl⟩))
    obtain ⟨_, ps, hps, hsent⟩ := ht
    exact ⟨ps, hsent, hps⟩

end Vrr

/-- No hop is told, or there is nothing to attach and nothing is attached. -/
def AttachesRight (n : Node) (ea pid sender : U32) : Prop :=
  (∀ route, (n.rt.rt_remove_route ea pid).1 = some route →
    ¬ Told n route.na ∧ ¬ Told n route.nb ∧ ¬ Told n sender) ∨
  if sender = 0 then n.vset.nodes = [] else n.vset.vset_size = 0

/-- With an empty vset the lost end is requested, and with any other the ids of
    it that the node accepts without the lost end. -/
def Repaired (s t : Sys) (ea pid endpt : U32) (vset : List U32) : Prop :=
  ∃ ps, t.sent = s.sent ++ ps ∧ (vset ≠ [] → AsksFor (severed s.node ea pid endpt) vset ps) ∧
    (vset = [] → Requested ps endpt)

/-- A teardown with so many ids carries the right ones when there should be none
    and are none. -/
theorem tells_right_iff {p : Packet} {ea pid sender : U32} {v : Vset}
    (h : Tells p ea pid (attached_size v sender)) :
    p.data = payload ([ea, pid] ++ BitVec.ofNat 32 (if sender = 0 then v.nodes else []).length ::
      if sender = 0 then v.nodes else []) ↔
    if sender = 0 then v.nodes = [] else v.vset_size = 0 := by
  obtain ⟨ids, hlen, hdata⟩ := h
  -- different numbers of ids make different numbers of bytes
  have hbytes : ∀ w : List U32, p.data = payload ([ea, pid] ++ BitVec.ofNat 32 w.length :: w) →
      ids.length = w.length := by
    intro w hw
    have hsame := congrArg List.length (hdata.symm.trans hw)
    simp only [payload, length_store_all, List.length_map, List.length_append,
      List.length_cons] at hsame
    omega
  unfold attached_size at hlen hdata
  by_cases hsender : sender = 0
  · simp only [hsender, ne_eq, not_true, if_true, if_false] at hlen hdata ⊢
    constructor
    · intro hw
      have hnone := hbytes _ hw
      exact List.eq_nil_of_length_eq_zero (hnone.symm.trans hlen)
    · intro hnil
      rw [hdata, hnil, List.eq_nil_of_length_eq_zero hlen]
      rfl
  · simp only [hsender, ne_eq, not_false_eq_true, if_true, if_false] at hlen hdata ⊢
    constructor
    · intro hw
      exact hlen.symm.trans (hbytes [] hw)
    · intro hzero
      rw [hzero] at hlen hdata
      rw [hdata, List.eq_nil_of_length_eq_zero hlen]
      rfl

theorem attached_iff (s : Sys) (ea pid sender : U32) (halloc : ∀ i, s.kern.kmalloc i = true) :
    (∃ ret t, Vrr.tear_down_path pid ea sender s = .ok (ret, t) ∧ Attached s t ea pid sender) ↔
      AttachesRight s.node ea pid sender := by
  refine Triple.run_iff (P := Sys.At s.node s.sent s.kern.uninit) ?_ ⟨rfl, rfl, rfl, halloc⟩
  refine (Vrr.tear_down_path_sends pid ea sender).post (fun _ t ht => ?_)
  obtain ⟨_, ps, hsent, htells, hnone⟩ := ht
  unfold AttachesRight
  rw [← hnone]
  constructor
  · rintro ⟨qs, hqs, hq⟩
    rw [← List.append_cancel_left (hsent.symm.trans hqs)] at hq
    cases ps with
    | nil => exact Or.inl rfl
    | cons p ps =>
        exact Or.inr ((tells_right_iff (htells p List.mem_cons_self)).mp (hq p List.mem_cons_self))
  · intro h
    refine ⟨ps, hsent, fun p hp => (tells_right_iff (htells p hp)).mpr ?_⟩
    rcases h with rfl | h
    · exact absurd hp List.not_mem_nil
    · exact h

theorem repaired_iff (s : Sys) (skb : SkBuff) (ea pid : U32) (vset : List U32) (route : RtEntry)
    (hty : skb.pkt.vh.pkt_type = VRR_TEARDOWN) (hcarries : Carries skb.pkt [ea, pid] vset)
    (hroute : (s.node.rt.rt_remove_route ea pid).1 = some route)
    (hend : (Vrr.teardown_side route skb.pkt.src).2 = 0)
    (halloc : ∀ i, s.kern.kmalloc i = true) :
    (∃ ret t, Vrr.vrr_rcv skb s = .ok (ret, t) ∧
      Repaired s t ea pid (Vrr.teardown_side route skb.pkt.src).1 vset) ↔ vset ≠ [] := by
  have hlt : skb.pkt.vh.pkt_type < VRR_NPTYPES := by
    rw [hty]
    decide
  refine Triple.run_iff (P := Sys.At s.node s.sent s.kern.uninit) ?_ ⟨rfl, rfl, rfl, halloc⟩
  refine Vrr.vrr_rcv_zero_at skb hlt ?_
  rw [Vrr.vrr_rcvfunc_teardown skb hty, Vrr.vrr_rcv_teardown_eq skb hcarries]
  refine Triple.post (Vrr.handle_teardown_at (n := heard s.node skb.pkt.src) skb ea pid vset route
    hroute hend) (fun err t ht => ⟨?_, ht.2⟩)
  obtain ⟨⟨ps, hsent, hps⟩, _⟩ := ht
  have hreq := requests_congr
    (n := severed s.node ea pid (Vrr.teardown_side route skb.pkt.src).1)
    (m := severed (heard s.node skb.pkt.src) ea pid (Vrr.teardown_side route skb.pkt.src).1) rfl rfl
    (pset_active_reset_fail_count s.node.pset skb.pkt.src) vset s.kern.uninit
  rw [hreq] at hps
  constructor
  · rintro ⟨qs, hqs, _, hlost⟩ hnil
    rw [← List.append_cancel_left (hsent.symm.trans hqs)] at hlost
    rw [hnil] at hps
    exact absurd ((requested_iff hps _).mp (hlost hnil)) List.not_mem_nil
  · intro hne
    exact ⟨ps, hsent, fun _ => asksFor_of_requests hps, fun h => absurd h hne⟩

/-- The teardowns of a path carry what they should when nothing is sent or
    nothing attached, and the end of a path asks for what it should when the
    vset received is not empty. -/
theorem teardown_repairs_iff (s : Sys) (ea pid : U32) (halloc : ∀ i, s.kern.kmalloc i = true) :
    (∀ sender, (∃ ret t, Vrr.tear_down_path pid ea sender s = .ok (ret, t) ∧
      Attached s t ea pid sender) ↔ AttachesRight s.node ea pid sender) ∧
    ∀ (skb : SkBuff) (vset : List U32) (route : RtEntry), pset_active s.node.pset ≠ [] →
      skb.pkt.vh.pkt_type = VRR_TEARDOWN → Carries skb.pkt [ea, pid] vset →
      (s.node.rt.rt_remove_route ea pid).1 = some route →
      (Vrr.teardown_side route skb.pkt.src).2 = 0 →
      ((∃ ret t, Vrr.vrr_rcv skb s = .ok (ret, t) ∧
        Repaired s t ea pid (Vrr.teardown_side route skb.pkt.src).1 vset) ↔ vset ≠ []) := by
  constructor
  · intro sender
    exact attached_iff s ea pid sender halloc
  · intro skb vset route _ hty hcarries hroute hend
    exact repaired_iff s skb ea pid vset route hty hcarries hroute hend halloc

/-- Node 1 has an active neighbour, and is the end of a path. -/
def path_events : List (Event × Kernel) :=
  join_events ++ [(.vrr_rcv (frame 2 VRR_SETUP 5 1 [7, 5, 0]), Kernel.calm)]

/-- What is known of node 1 then. -/
def AtEnd (n : Node) : Prop :=
  pset_active n.pset = [2] ∧ pset_contains n.pset 2 = true ∧ n.vset.nodes = [5] ∧
    (n.rt.rt_remove_route 5 7).1 = some ⟨5, 1, 2, 0, 7⟩

instance : DecidablePred AtEnd := fun _ => inferInstanceAs (Decidable (_ ∧ _ ∧ _ ∧ _))

theorem atEnd_of_path_events : ∃ s, Reach Step node_one s ∧ AtEnd s.node := by
  obtain ⟨s, hreach, hs⟩ := reach_of_eval path_events (fun s => decide (AtEnd s.node))
    (by decide +kernel)
  exact ⟨s, hreach, of_decide_eq_true hs⟩

/-- A path through node 1 with an empty virtual set is torn down in both
    directions. And node 1 receives a teardown with an id. -/
theorem teardown_repairs_one :
    (∃ s ret t, Reach Step node_one s ∧
      (s.node.rt.rt_remove_route 5 7).1 = some ⟨5, 3, 2, 3, 7⟩ ∧
      Vrr.tear_down_path 7 5 0 { s with kern := Kernel.calm } = .ok (ret, t) ∧
      t.sent.length = s.sent.length + 2 ∧ Attached s t 5 7 0) ∧
    ∃ s, Reach Step node_one s ∧
      ∃ ret t, Vrr.vrr_rcv (frame 2 VRR_TEARDOWN 2 1 [5, 7, 1, 9]) { s with kern := Kernel.calm } =
        .ok (ret, t) ∧ Repaired s t 5 7 1 [9] := by
  constructor
  · obtain ⟨s, hreach, hs⟩ := reach_of_eval
      ([.vrr_rcv (frame 2 VRR_HELLO 2 0 [0, 0, 0, 0]),
        .vrr_rcv (frame 3 VRR_HELLO 3 0 [0, 0, 0, 0]), .pset_update_handler,
        .vrr_rcv (frame 2 VRR_SETUP 5 3 [7, 0, 0])].map (fun e => (e, Kernel.calm)))
      (fun s => decide ((s.node.rt.rt_remove_route 5 7).1 = some ⟨5, 3, 2, 3, 7⟩ ∧
          s.node.vset.nodes = []) &&
        ends_in (Vrr.tear_down_path 7 5 0) { s with kern := Kernel.calm }
          (fun _ t => decide (t.sent.length = s.sent.length + 2))) (by decide +kernel)
    obtain ⟨hstate, hends⟩ := Bool.and_eq_true_iff.mp hs
    obtain ⟨hroute, hnil⟩ := of_decide_eq_true hstate
    obtain ⟨ret, t, hrun, hlen⟩ := ok_of_ends_in hends
    obtain ⟨ret', t', hrun', hattached⟩ := ((teardown_repairs_iff { s with kern := Kernel.calm } 5 7
      (fun _ => rfl)).1 0).mpr (Or.inr (by rw [if_pos rfl]; exact hnil))
    rw [hrun, Except.ok.injEq, Prod.mk.injEq] at hrun'
    rw [← hrun'.2] at hattached
    exact ⟨s, ret, t, hreach, hroute, hrun, of_decide_eq_true hlen, hattached⟩
  · obtain ⟨s, hreach, hactive, _, _, hroute⟩ := atEnd_of_path_events
    have hready : pset_active s.node.pset ≠ [] := by
      rw [hactive]
      exact List.cons_ne_nil _ _
    exact ⟨s, hreach, ((teardown_repairs_iff { s with kern := Kernel.calm } 5 7 (fun _ => rfl)).2
      (frame 2 VRR_TEARDOWN 2 1 [5, 7, 1, 9]) [9] ⟨5, 1, 2, 0, 7⟩ hready rfl
      (carries_payload _ [5, 7] [9] (by decide)) hroute rfl).mpr (List.cons_ne_nil _ _)⟩

/-- A path that is torn down with the virtual set, but without attaching it, and
    a teardown without ids, after which nothing is asked for. -/
theorem teardown_not_repaired :
    ∃ s, Reach Step node_one s ∧ pset_active s.node.pset ≠ [] ∧
      (¬ ∃ ret t, Vrr.tear_down_path 7 5 0 { s with kern := Kernel.calm } = .ok (ret, t) ∧
        Attached s t 5 7 0) ∧
      ∃ route, (s.node.rt.rt_remove_route 5 7).1 = some route ∧
        (Vrr.teardown_side route 2).2 = 0 ∧
        ¬ ∃ ret t, Vrr.vrr_rcv (frame 2 VRR_TEARDOWN 2 1 [5, 7, 0])
          { s with kern := Kernel.calm } = .ok (ret, t) ∧
          Repaired s t 5 7 (Vrr.teardown_side route 2).1 [] := by
  obtain ⟨s, hreach, hactive, htwo, hnodes, hroute⟩ := atEnd_of_path_events
  refine ⟨s, hreach, by rw [hactive]; exact List.cons_ne_nil _ _, ?_, _, hroute, rfl, ?_⟩
  · intro h
    rcases (attached_iff { s with kern := Kernel.calm } 5 7 0 (fun _ => rfl)).mp h with h | h
    · exact (h _ hroute).1 ⟨by decide, htwo⟩
    · rw [if_pos rfl, hnodes] at h
      exact absurd h (List.cons_ne_nil _ _)
  · intro h
    exact absurd rfl ((repaired_iff { s with kern := Kernel.calm }
      (frame 2 VRR_TEARDOWN 2 1 [5, 7, 0]) 5 7 [] ⟨5, 1, 2, 0, 7⟩ rfl
      (carries_payload _ [5, 7] [] (by decide)) hroute rfl (fun _ => rfl)).mp h)

end Teardown

end AlpacaVrr
