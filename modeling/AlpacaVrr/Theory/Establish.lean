import AlpacaVrr.Core.Segment
import AlpacaVrr.Theory.Setups
import AlpacaVrr.Theory.Teardown

/-!
# Setting Up a Path

What becomes of a setup on its way from one end of a path to the other.

The path is not in the packet. Each node finds the next hop by itself, from the
destination if it is a neighbour, and else from its route to the proxy, and it
records the node that the frame came from and the node that the next frame goes
to. `Ready` says that these hops lead along the line `v 0, …, v k` and that the
neighbours on it know each other. Then one run files the route at `v 0` and
puts a frame on the wire, each delivery files the next route and puts the next
frame there, and the last one offers the source to the virtual set of `v k`.

The routes are filed in any case. The two ends have each other in their virtual
sets, and the path is `Established`, exactly when the offer is accepted.

## Main definitions

* `setup_packet`: The setup to the letter.
* `Ready`: A line along which a setup can go.
* `Placed`: A node that has filed its route.
* `Laying`: The setup is on its way from one node to the next.

## Theorems

* `vrr_local_rcv_setup_at`, `vrr_rcv_setup_pass`, `vrr_rcv_setup_end`: The three
  parts a node can play.
* `laying_step`, `laying_end`: The setup goes one node further, and arrives.
* `setup_establishes_iff`: What the run comes to.
-/

namespace AlpacaVrr

open FaultState

/-- A setup of the path from `src` to `dst`. -/
def setup_packet (version : U8) (mac : MacAddr) (src dst pid proxy : U32) (ids : List U32) :
    Packet :=
  build_packet version VRR_SETUP src dst mac ([pid, proxy] ++ BitVec.ofNat 32 ids.length :: ids)

/-- The route is in the table, and the node is otherwise the same to its
    neighbours. -/
structure Placed (n : Node) (r : RtEntry) (m : Node) : Prop where
  me : m.me = n.me
  rt : ∃ rb, m.rt = (n.rt.rt_add_route rb RtAlloc.ok r.ea r.eb r.na r.nb r.path_id).2
  pset : ∀ id, pset_contains m.pset id = pset_contains n.pset id

/-- Under its first end there is one more route of that path, in front. -/
theorem Placed.path_routes {n m : Node} {r : RtEntry} (h : Placed n r m) (h0 : r.ea ≠ 0)
    (hends : r.ea ≠ r.eb) :
    path_routes m r.ea r.path_id = r :: path_routes n r.ea r.path_id := by
  rcases h.rt with ⟨rb, hrt⟩
  have hroutes := n.rt.routes_add rb RtAlloc.ok r.ea r.eb r.na r.nb r.path_id r.ea
    (rt_add_route_ok rb _ _ _ _ _ _)
  rw [if_neg (fun hc => hends hc.2), if_pos ⟨h0, rfl⟩, List.nil_append, List.singleton_append]
    at hroutes
  unfold AlpacaVrr.path_routes
  rw [hrt, hroutes, List.filter_cons_of_pos (by simp)]

/-- And a copy under the other. -/
theorem Placed.copy {n m : Node} {r : RtEntry} (h : Placed n r m) (h0 : r.eb ≠ 0) :
    r ∈ m.rt.routes r.eb := by
  rcases h.rt with ⟨rb, hrt⟩
  rw [hrt]
  exact (mem_routes_added rb n.rt r r.eb r).mpr (Or.inl ⟨rfl, h0, Or.inr rfl⟩)

/-- What the handler leaves: the route, and behind it what was done with the
    setup. -/
def Handled (n : Node) (l : List Packet) (g : Nat → Garbage) (src dst na pid proxy : U32)
    (ids : List U32) (t : Sys) : Prop :=
  Placed n ⟨src, dst, na, setup_hop n dst proxy, pid⟩ t.node ∧
    if setup_hop n dst proxy ≠ 0 then t.node.vset = n.vset ∧
      t.sent = l ++ vset_to n VRR_SETUP src dst [pid, proxy] ids.length ids (setup_hop n dst proxy)
    else t.node.vset = offered n.me n.vset src (requests n ids g).2 ∧
      ∃ ps, t.sent = l ++ ps ∧ ∀ p ∈ ps, p.vh.pkt_type = VRR_SETUP_REQ

namespace Vrr

section Node

variable {n : Node} {l : List Packet} {g : Nat → Garbage}

/-- The end that answers a request files its route and sends the setup. -/
theorem vrr_local_rcv_setup_at (dst pid proxy : U32) (ids : List U32)
    (hne : dst ≠ n.me) (hhop : setup_hop n dst proxy ≠ 0) :
    Triple (Sys.At n l g) (vrr_local_rcv_setup dst pid proxy ids.length (some ids))
      (fun _ t => Placed n ⟨n.me, dst, n.me, setup_hop n dst proxy, pid⟩ t.node ∧
        t.node.vset = n.vset ∧
        t.sent = l ++ vset_to n VRR_SETUP n.me dst [pid, proxy] ids.length ids
          (setup_hop n dst proxy))
      (fun _ => False) := by
  have hnext : Triple (Sys.At n l g) (next_hop_via dst proxy)
      (fun nh s => s.At n l g ∧ nh = setup_hop n dst proxy) (fun _ => False) := by
    refine Triple.bind me_at (fun me => Triple.of_and (fun hme => ?_))
    rw [hme]
    unfold setup_hop
    rw [if_neg hne]
    refine Triple.ite _ (fun hst => ?_) (fun hst => ?_)
    · rw [if_pos hst]
      intro s hs
      refine ⟨hs, ?_⟩
      rw [hs.node]
    · rw [if_neg hst]
      exact Triple.pure _ (fun _ hs => ⟨hs, rfl⟩)
  unfold vrr_local_rcv_setup
  refine Triple.bind me_at (fun me => Triple.of_and (fun hme => ?_))
  rw [hme]
  refine Triple.bind hnext (fun nh => Triple.of_and (fun hnh => ?_))
  rw [hnh]
  refine Triple.bind (rt_add_route_at _ _ _ _ _) (fun added => Triple.of_and (fun hadded => ?_))
  refine Triple.of_exists (fun rb => ?_)
  rw [if_pos hadded, if_pos hhop]
  refine Triple.bind (send_vset_at _ _ _ _ ids _ _ _ (read_vset_all ids))
    (fun _ => Triple.pure _ (fun t ht => ⟨⟨?_, ⟨rb, ?_⟩, fun id => ?_⟩, ?_, ht.sent⟩))
  · rw [ht.node]
  · rw [ht.node]
  · rw [ht.node]
  · rw [ht.node]

theorem handle_setup_handled (skb : SkBuff) (pid proxy na : U32) (ids : List U32)
    (hsender : sender_of n skb = some na) :
    Triple (Sys.At n l g) (handle_setup skb pid proxy ids)
      (fun err t => Handled n l g skb.pkt.src skb.pkt.dst na pid proxy ids t ∧ err = 0)
      (fun _ => False) := by
  have hhop : Triple (Sys.At n l g) (setup_next_hop skb.pkt.dst proxy)
      (fun nh s => s.At n l g ∧ nh = setup_hop n skb.pkt.dst proxy) (fun _ => False) := by
    refine Triple.reads _ (setup_next_hop_run _ proxy) (fun s hs => ⟨hs, ?_⟩)
    rw [hs.node]
  unfold sender_of at hsender
  unfold handle_setup handle_setup_from Handled
  refine Triple.bind me_at (fun me => Triple.of_and (fun hme => ?_))
  rw [hme, hsender]
  refine Triple.bind hhop (fun nh => Triple.of_and (fun hnh => ?_))
  rw [← hnh]
  refine Triple.bind (rt_add_route_at _ _ _ _ _) (fun added => Triple.of_and (fun hadded => ?_))
  refine Triple.of_exists (fun rb => ?_)
  rw [if_pos hadded]
  refine Triple.bind (kmalloc_at _) (fun buffer => Triple.of_and (fun hbuffer => ?_))
  rw [if_pos hbuffer]
  refine Triple.ite _ (fun hne => ?_) (fun hend => ?_)
  · refine Triple.bind (send_vset_at _ _ _ _ ids _ _ _ (read_vset_all ids))
      (fun _ => Triple.pure _ (fun t ht => ⟨?_, rfl⟩))
    rw [if_pos hne, ht.node]
    exact ⟨⟨rfl, ⟨rb, rfl⟩, fun _ => rfl⟩, rfl, ht.sent⟩
  · simp only [if_neg hend]
    -- the route makes no difference to what is asked for
    have hreq := requests_congr (n := n)
      (m := { n with rt := (n.rt.rt_add_route rb RtAlloc.ok skb.pkt.src skb.pkt.dst na nh pid).2 })
      rfl rfl rfl ids g
    have hadd := (vrr_add_at (l := l) (g := g)
      (n := { n with rt := (n.rt.rt_add_route rb RtAlloc.ok skb.pkt.src skb.pkt.dst na nh pid).2 })
      skb.pkt.src ids).post (R := fun _ t =>
        Placed n ⟨skb.pkt.src, skb.pkt.dst, na, nh, pid⟩ t.node ∧
        t.node.vset = offered n.me n.vset skb.pkt.src (requests n ids g).2 ∧
        ∃ ps, t.sent = l ++ ps ∧ ∀ p ∈ ps, p.vh.pkt_type = VRR_SETUP_REQ) (fun _ t ht => by
          obtain ⟨hnode, ps, hps, hsent⟩ := ht
          rw [hreq] at hnode hps
          rw [hnode]
          exact ⟨⟨rfl, ⟨rb, rfl⟩, fun _ => rfl⟩, rfl, ps, hsent,
            fun p hp => emitted_requests hps ⟨p, hp, rfl⟩⟩)
    refine Triple.bind hadd (fun ret => ?_)
    refine Triple.ite _ (fun _ => ?_) (fun _ => Triple.pure _ (fun t ht => ⟨ht, rfl⟩))
    exact Triple.bind (Triple.modify _ (fun t ht => ⟨⟨ht.1.me, ht.1.rt, ht.1.pset⟩, ht.2⟩))
      (fun _ => Triple.pure _ (fun t ht => ⟨ht, rfl⟩))

/-- And so does `vrr_rcv`. -/
theorem vrr_rcv_setup_handled (h_source dev_addr : MacAddr) (version : U8) (mac : MacAddr)
    (src dst pid proxy na : U32) (ids : List U32) (hids : ids.length ≤ VRR_VSET_SIZE)
    (hsender : sender_of n ⟨setup_packet version mac src dst pid proxy ids, h_source, dev_addr⟩ =
      some na) :
    Triple (Sys.At n l g)
      (vrr_rcv ⟨setup_packet version mac src dst pid proxy ids, h_source, dev_addr⟩)
      (fun _ t => Handled n l g src dst na pid proxy ids t) (fun _ => False) := by
  have hsrc : (setup_packet version mac src dst pid proxy ids).src = src :=
    build_packet_src _ _ _ _ _ _
  have hdst : (setup_packet version mac src dst pid proxy ids).dst = dst :=
    build_packet_dst _ _ _ _ _ _
  have hknown : VRR_SETUP < VRR_NPTYPES := by decide
  refine vrr_rcv_zero_at _ hknown ?_
  rw [vrr_rcvfunc_setup _ rfl, vrr_rcv_setup_eq _ (carries_payload _ [pid, proxy] ids hids)]
  refine (handle_setup_handled ⟨setup_packet version mac src dst pid proxy ids, h_source, dev_addr⟩
    pid proxy na ids (by rw [sender_of_heard, hsender])).post (fun err t ht => ⟨?_, ht.2⟩)
  have hdone : Handled (heard n src) l g src dst na pid proxy ids t := by
    have hdone := ht.1
    rw [hsrc, hdst] at hdone
    exact hdone
  -- having heard of the source makes no difference
  have hreq := requests_congr (n := n) (m := heard n src) rfl rfl
    (pset_active_reset_fail_count n.pset src) ids g
  obtain ⟨hplaced, hrest⟩ := hdone
  unfold Handled
  rw [setup_hop_heard] at hplaced hrest
  refine ⟨⟨hplaced.me, hplaced.rt, fun id => ?_⟩, ?_⟩
  · rw [hplaced.pset, pset_contains_heard]
  · rw [hreq] at hrest
    have hto : vset_to (heard n src) VRR_SETUP src dst [pid, proxy] ids.length ids
        (setup_hop n dst proxy) = vset_to n VRR_SETUP src dst [pid, proxy] ids.length ids
        (setup_hop n dst proxy) := by
      unfold vset_to heard
      rw [pset_get_mac_reset_fail_count]
    rw [hto] at hrest
    exact hrest

end Node

end Vrr

/-- The nodes of the line are neighbours in order, each finds the next one, and
    the path is not in their tables yet. -/
structure Ready (w : World) (a : Addresses) (nodes : U32 → Node) (v : Nat → U32) (k : Nat)
    (pid proxy : U32) : Prop where
  length : 0 < k
  me : ∀ i, i ≤ k → (nodes (v i)).me = v i
  distinct : ∀ i j, i ≤ k → j ≤ k → v i = v j → i = j
  nonzero : ∀ i, i ≤ k → v i ≠ 0
  owner : ∀ i, i ≤ k → a.owner (w.mac (v i)) = some (v i)
  ahead : ∀ i, i < k → pset_get_mac (nodes (v i)).pset (v (i + 1)) = some (w.mac (v (i + 1)))
  behind : ∀ i, i < k → pset_lookup_mac (nodes (v (i + 1))).pset (w.mac (v i)) = some (v i)
  leads : ∀ i, i < k → setup_hop (nodes (v i)) (v k) proxy = v (i + 1)
  ends : setup_hop (nodes (v k)) (v k) proxy = 0
  fresh : ∀ i, i ≤ k → path_routes (nodes (v i)) (v 0) pid = []
  start : v k ∈ (nodes (v 0)).vset.nodes

/-- A setup. -/
def IsSetup (f : Frame) : Prop := f.pkt.vh.pkt_type = VRR_SETUP

/-- The routes of the path are filed, each under both ends. -/
def RoutesLaid (nodes : U32 → Node) (v : Nat → U32) (k : Nat) (pid : U32) : Prop :=
  ∀ i, i ≤ k → path_routes (nodes (v i)) (v 0) pid = [path_entry v k pid i] ∧
    path_entry v k pid i ∈ (nodes (v i)).rt.routes (v k)

section Line

variable {w : World} {a : Addresses} {nodes : U32 → Node} {v : Nat → U32} {k : Nat}
  {pid proxy : U32} {ids : List U32}

/-- The setup has left `v i` for the node after it. -/
structure Laying (w : World) (nodes : U32 → Node) (v : Nat → U32) (k : Nat) (pid proxy : U32)
    (ids : List U32) (i : Nat) (seg : Segment) : Prop where
  flight : ∃ version, seg.flight =
    [⟨w.mac (v i), setup_packet version (w.mac (v (i + 1))) (v 0) (v k) pid proxy ids⟩]
  behind : ∀ j, j ≤ i → Placed (nodes (v j)) (path_entry v k pid j) (seg.nodes (v j)) ∧
    (seg.nodes (v j)).vset = (nodes (v j)).vset
  ahead : ∀ j, i < j → j ≤ k → seg.nodes (v j) = nodes (v j)
  runs : seg.runs = i + 1

variable (h : Ready w a nodes v k pid proxy) (hw : w.Reliable)

include h hw

variable (ids) in
/-- The first run. -/
theorem laying_zero :
    ∃ seg, Segment.run w ⟨nodes, [], [], 0⟩ (v 0)
      (Vrr.vrr_local_rcv_setup (v k) pid proxy ids.length (some ids)) = some seg ∧
      Laying w nodes v k pid proxy ids 0 seg := by
  have hk := h.length
  have hhop := h.leads 0 hk
  have hme := h.me 0 (Nat.zero_le k)
  have hne : v k ≠ (nodes (v 0)).me := by
    rw [hme]
    exact fun heq => absurd (h.distinct k 0 (Nat.le_refl k) (Nat.zero_le k) heq) (by omega)
  have hhop0 : setup_hop (nodes (v 0)) (v k) proxy ≠ 0 := by
    rw [hhop]
    exact h.nonzero 1 hk
  obtain ⟨t, hrun, hplaced, hvset, hsent⟩ := Segment.run_spec ⟨nodes, [], [], 0⟩ (v 0)
    (Vrr.vrr_local_rcv_setup_at (n := nodes (v 0)) (l := []) (g := (w.kern 0).uninit) (v k) pid
      proxy ids hne hhop0) ⟨rfl, rfl, rfl, hw 0⟩
  rw [hhop, hme] at hplaced
  have hto : t.sent =
      [setup_packet (nodes (v 0)).version (w.mac (v 1)) (v 0) (v k) pid proxy ids] := by
    rw [hsent, hhop, vset_to, h.ahead 0 hk, hme]
    rfl
  refine ⟨_, hrun, ⟨(nodes (v 0)).version, ?_⟩, fun j hj => ?_, fun j hj hjk => ?_, rfl⟩
  · rw [hto]
    rfl
  · obtain rfl : j = 0 := by omega
    have hentry : path_entry v k pid 0 = ⟨v 0, v k, v 0, v 1, pid⟩ := by
      unfold path_entry
      rw [if_pos rfl, if_neg (by omega)]
    rw [hentry]
    simp only [Function.update_self]
    exact ⟨hplaced, hvset⟩
  · have hv : v j ≠ v 0 := fun heq => absurd (h.distinct j 0 hjk (Nat.zero_le k) heq) (by omega)
    exact Function.update_of_ne hv _ _

/-- A delivery. -/
theorem laying_arrives (hids : ids.length ≤ VRR_VSET_SIZE) {i : Nat} (hi : i < k) {seg : Segment}
    (hs : Laying w nodes v k pid proxy ids i seg) :
    ∃ f t, (∀ f', (seg.enabled a f' ∧ IsSetup f') ↔ f' = f) ∧
      seg.deliver w a f = some ⟨Function.update seg.nodes (v (i + 1)) t.node,
        t.sent.map (Frame.mk (w.mac (v (i + 1)))), seg.inbox, seg.runs + 1⟩ ∧
      Handled (nodes (v (i + 1))) [] (w.kern (i + 1)).uninit (v 0) (v k) (v i) pid proxy ids t := by
  obtain ⟨version, hflight⟩ := hs.flight
  have howner := h.owner (i + 1) hi
  have hnode := hs.ahead (i + 1) (Nat.lt_succ_self i) hi
  have hother : w.mac (v (i + 1)) ≠ w.mac (v i) := by
    intro heq
    rw [heq, h.owner i (by omega), Option.some.injEq] at howner
    exact absurd (h.distinct i (i + 1) (by omega) hi howner) (by omega)
  let pkt := setup_packet version (w.mac (v (i + 1))) (v 0) (v k) pid proxy ids
  have hsender : sender_of (nodes (v (i + 1))) ⟨pkt, w.mac (v i), w.mac (v (i + 1))⟩ =
      some (v i) := by
    unfold sender_of
    rw [if_neg hother]
    exact h.behind i hi
  have hmac : pkt.vh.dest_mac = w.mac (v (i + 1)) := rfl
  obtain ⟨t, hrun, ht⟩ := Segment.run_spec (w := w) ⟨seg.nodes, [], seg.inbox, seg.runs⟩ (v (i + 1))
    (Vrr.vrr_rcv_setup_handled (n := nodes (v (i + 1))) (l := []) (g := (w.kern (i + 1)).uninit)
      (w.mac (v i)) (w.mac (v (i + 1))) version (w.mac (v (i + 1))) (v 0) (v k) pid proxy (v i)
      ids hids hsender) ⟨hnode, rfl, by rw [← hs.runs]; rfl, hw seg.runs⟩
  refine ⟨⟨w.mac (v i), pkt⟩, t, fun f' => ?_, ?_, ht⟩
  · unfold IsSetup Segment.enabled
    rw [hflight, List.mem_singleton]
    constructor
    · exact fun hf => hf.1.1
    · rintro rfl
      exact ⟨⟨rfl, by rw [hmac, howner]; rfl⟩, rfl⟩
  · unfold Segment.deliver
    simp only [hmac, howner]
    have hno : socket_of (seg.nodes (v (i + 1))) pkt = none := if_neg (fun hc => by cases hc.1)
    rw [hno, hflight, List.erase_cons_head]
    simpa using hrun

/-- It is passed on. -/
theorem laying_step (hids : ids.length ≤ VRR_VSET_SIZE) {i : Nat} (hi : i + 1 < k) {seg : Segment}
    (hs : Laying w nodes v k pid proxy ids i seg) :
    ∃ f seg', (∀ f', (seg.enabled a f' ∧ IsSetup f') ↔ f' = f) ∧ seg.deliver w a f = some seg' ∧
      Laying w nodes v k pid proxy ids (i + 1) seg' := by
  obtain ⟨f, t, hf, hdeliver, hplaced, hrest⟩ := laying_arrives h hw hids (by omega : i < k) hs
  have hhop := h.leads (i + 1) hi
  rw [hhop] at hplaced hrest
  rw [if_pos (h.nonzero (i + 2) hi)] at hrest
  obtain ⟨hvset, hsent⟩ := hrest
  have hto : t.sent = [setup_packet (nodes (v (i + 1))).version (w.mac (v (i + 2))) (v 0) (v k) pid
      proxy ids] := by
    rw [hsent, vset_to, h.ahead (i + 1) hi]
    rfl
  have hentry : path_entry v k pid (i + 1) = ⟨v 0, v k, v i, v (i + 2), pid⟩ := by
    unfold path_entry
    rw [if_neg (Nat.succ_ne_zero i), if_neg (by omega), Nat.add_sub_cancel]
  refine ⟨f, _, hf, hdeliver, ⟨(nodes (v (i + 1))).version, ?_⟩, fun j hj => ?_,
    fun j hj hjk => ?_, ?_⟩
  · rw [hto]
    rfl
  · by_cases hlast : j = i + 1
    · rw [hlast, hentry]
      simp only [Function.update_self]
      exact ⟨hplaced, hvset⟩
    · have hv : v j ≠ v (i + 1) := fun heq => hlast (h.distinct j (i + 1) (by omega) hi.le heq)
      simp only [Function.update_of_ne hv]
      exact hs.behind j (by omega)
  · have hv : v j ≠ v (i + 1) := fun heq => absurd (h.distinct j (i + 1) hjk hi.le heq) (by omega)
    simp only [Function.update_of_ne hv]
    exact hs.ahead j (by omega) hjk
  · rw [← hs.runs]

/-- It arrives, and its source is offered. -/
theorem laying_end (hids : ids.length ≤ VRR_VSET_SIZE) {i : Nat} (hi : i + 1 = k) {seg : Segment}
    (hs : Laying w nodes v k pid proxy ids i seg) :
    ∃ f seg', (∀ f', (seg.enabled a f' ∧ IsSetup f') ↔ f' = f) ∧ seg.deliver w a f = some seg' ∧
      (∀ f', ¬ (seg'.enabled a f' ∧ IsSetup f')) ∧
      (∀ j, j ≤ k → Placed (nodes (v j)) (path_entry v k pid j) (seg'.nodes (v j))) ∧
      (seg'.nodes (v 0)).vset = (nodes (v 0)).vset ∧
      (seg'.nodes (v k)).vset = offered (v k) (nodes (v k)).vset (v 0)
        (requests (nodes (v k)) ids (w.kern k).uninit).2 := by
  obtain ⟨f, t, hf, hdeliver, hplaced, hrest⟩ := laying_arrives h hw hids (by omega : i < k) hs
  rw [hi] at hdeliver hplaced hrest
  rw [h.ends] at hplaced hrest
  rw [if_neg (fun hne => hne rfl)] at hrest
  obtain ⟨hvset, ps, hsent, hreq⟩ := hrest
  have hentry : path_entry v k pid k = ⟨v 0, v k, v i, 0, pid⟩ := by
    unfold path_entry
    rw [if_neg (by omega), if_pos rfl, show k - 1 = i by omega]
  have hsame : ∀ j, j < k → Function.update seg.nodes (v k) t.node (v j) = seg.nodes (v j) :=
    fun j hj => Function.update_of_ne
      (fun heq => absurd (h.distinct j k hj.le (Nat.le_refl k) heq) (by omega)) _ _
  refine ⟨f, _, hf, hdeliver, fun f' hf' => ?_, fun j hj => ?_, ?_, ?_⟩
  · -- whatever is in flight is a request
    obtain ⟨⟨hmem, _⟩, hty⟩ := hf'
    rcases List.mem_map.mp hmem with ⟨p, hp, rfl⟩
    rw [hsent, List.nil_append] at hp
    exact absurd ((hreq p hp).symm.trans hty) (by decide)
  · by_cases hlast : j = k
    · rw [hlast, hentry]
      simp only [Function.update_self]
      exact hplaced
    · simp only [hsame j (by omega)]
      exact (hs.behind j (by omega)).1
  · simp only [hsame 0 h.length]
    exact (hs.behind 0 (Nat.zero_le i)).2
  · simp only [Function.update_self]
    rw [hvset, h.me k (Nat.le_refl k)]

omit hw in
/-- The line as it is in the end. -/
theorem established_iff_of_placed {seg : Segment}
    (hplaced : ∀ j, j ≤ k → Placed (nodes (v j)) (path_entry v k pid j) (seg.nodes (v j)))
    (hstart : (seg.nodes (v 0)).vset = (nodes (v 0)).vset) :
    RoutesLaid seg.nodes v k pid ∧
      (Established seg.nodes v k pid ↔ v 0 ∈ (seg.nodes (v k)).vset.nodes) := by
  have hk := h.length
  have hends : v 0 ≠ v k := fun heq =>
    absurd (h.distinct 0 k (Nat.zero_le k) (Nat.le_refl k) heq) (by omega)
  have hroutes : RoutesLaid seg.nodes v k pid := by
    intro j hj
    have hpath := (hplaced j hj).path_routes (h.nonzero 0 (Nat.zero_le k)) hends
    have hcopy := (hplaced j hj).copy (h.nonzero k (Nat.le_refl k))
    have hold : path_routes (nodes (v j)) (path_entry v k pid j).ea (path_entry v k pid j).path_id =
        [] := h.fresh j hj
    rw [hold] at hpath
    exact ⟨hpath, hcopy⟩
  refine ⟨hroutes, fun hest => hest.ends.2, fun hmem => ?_⟩
  exact {
    length := hk
    me := fun j hj => (hplaced j hj).me.trans (h.me j hj)
    distinct := h.distinct
    nonzero := h.nonzero
    entry := fun j hj => (hroutes j hj).1
    copy := fun j hj => (hroutes j hj).2
    linked := by
      intro j hj
      rw [(hplaced j hj.le).pset, (hplaced (j + 1) hj).pset, pset_contains_iff, pset_contains_iff]
      refine ⟨?_, mem_of_pset_lookup_mac _ _ _ (h.behind j hj)⟩
      rw [← pset_get_mac_isSome_iff, h.ahead j hj]
      rfl
    ends := ⟨by rw [hstart]; exact h.start, hmem⟩ }

/-- From any node of the line on. -/
theorem laying_comes (hids : ids.length ≤ VRR_VSET_SIZE) (Q : Segment → Prop) (r : Nat) :
    ∀ i seg, i + 1 + r = k → Laying w nodes v k pid proxy ids i seg →
      ∃ last, (Segment.Comes w a IsSetup Q seg ↔ Q last) ∧
        (∀ j, j ≤ k → Placed (nodes (v j)) (path_entry v k pid j) (last.nodes (v j))) ∧
        (last.nodes (v 0)).vset = (nodes (v 0)).vset ∧
        (last.nodes (v k)).vset = offered (v k) (nodes (v k)).vset (v 0)
          (requests (nodes (v k)) ids (w.kern k).uninit).2 := by
  -- the nodes that are left
  induction r with
  | zero =>
      intro i seg hi hs
      obtain ⟨f, last, hf, hdeliver, hquiet, hlast⟩ := laying_end h hw hids hi hs
      exact ⟨last, (Segment.comes_of_only f hf hdeliver).trans (Segment.comes_of_quiet hquiet),
        hlast⟩
  | succ r ih =>
      intro i seg hi hs
      obtain ⟨f, seg', hf, hdeliver, hs'⟩ := laying_step h hw hids (by omega : i + 1 < k) hs
      obtain ⟨last, hcomes, hlast⟩ := ih (i + 1) seg' (by omega) hs'
      exact ⟨last, (Segment.comes_of_only f hf hdeliver).trans hcomes, hlast⟩

end Line

/-- The end `v 0` answers a request for a path from `v k`, and the setup is
    delivered. Then the routes of the path are filed, and the path is as it
    should be exactly when the other end has accepted its source. -/
theorem setup_establishes_iff {w : World} {a : Addresses} {nodes : U32 → Node} {v : Nat → U32}
    {k : Nat} {pid proxy : U32} (ids : List U32) (h : Ready w a nodes v k pid proxy)
    (hw : w.Reliable) (hids : ids.length ≤ VRR_VSET_SIZE) :
    ∃ seg, Segment.run w ⟨nodes, [], [], 0⟩ (v 0)
        (Vrr.vrr_local_rcv_setup (v k) pid proxy ids.length (some ids)) = some seg ∧
      Segment.Comes w a IsSetup (fun t => RoutesLaid t.nodes v k pid) seg ∧
      (Segment.Comes w a IsSetup (fun t => Established t.nodes v k pid) seg ↔
        v 0 ∈ (offered (v k) (nodes (v k)).vset (v 0)
          (requests (nodes (v k)) ids (w.kern k).uninit).2).nodes) := by
  obtain ⟨seg, hrun, hs⟩ := laying_zero ids h hw
  have hk := h.length
  refine ⟨seg, hrun, ?_, ?_⟩
  · obtain ⟨last, hcomes, hplaced, hstart, _⟩ := laying_comes h hw hids
      (fun t => RoutesLaid t.nodes v k pid) (k - 1) 0 seg (by omega) hs
    exact hcomes.mpr (established_iff_of_placed h hplaced hstart).1
  · obtain ⟨last, hcomes, hplaced, hstart, hend⟩ := laying_comes h hw hids
      (fun t => Established t.nodes v k pid) (k - 1) 0 seg (by omega) hs
    rw [hcomes, (established_iff_of_placed h hplaced hstart).2, hend]

/-- A node that is to be on the line 1, 2, 3, with its neighbours and a way to
    node 2. -/
def asked_node (id : U32) (peers neighbours : List U32) : Node :=
  { vrr_init id (fun _ => 0) (fun _ => 0) with
    rt := (RtTable.empty.rt_add_route SearchTree.Rebalance.none RtAlloc.ok id 2 id 2 1).2
    pset := neighbours.map (fun node => ⟨node, .linked, 1, node.setWidth 48, 0⟩)
    vset := peers.foldl (fun vset peer => (vset_add id vset peer 0 (fun _ => 0) (fun _ => 0)).2.2)
      Vset.init }

def asked_nodes (id : U32) : Node :=
  if id = 1 then asked_node 1 [3] [2]
  else if id = 2 then asked_node 2 [] [1, 3]
  else asked_node 3 [] [2]

theorem ready_line : Ready line_world id_addresses asked_nodes line 2 7 2 where
  length := by decide
  me := by decide +kernel
  distinct i j hi hj h := by
    have hnat := congrArg BitVec.toNat h
    simp only [line, BitVec.toNat_ofNat] at hnat
    omega
  nonzero := by decide +kernel
  owner := by decide +kernel
  ahead := by decide +kernel
  behind := by decide +kernel
  leads := by decide +kernel
  ends := by decide +kernel
  fresh := by decide +kernel
  start := by decide +kernel

/-- Node 1 sets up the path 7 to node 3 by way of node 2, and node 3 accepts. -/
theorem setup_establishes_line :
    ∃ seg, Segment.run line_world ⟨asked_nodes, [], [], 0⟩ (line 0)
        (Vrr.vrr_local_rcv_setup (line 2) 7 2 [3].length (some [3])) = some seg ∧
      Segment.Comes line_world id_addresses IsSetup
        (fun t => RoutesLaid t.nodes line 2 7) seg ∧
      Segment.Comes line_world id_addresses IsSetup
        (fun t => Established t.nodes line 2 7) seg := by
  have hoffered : line 0 ∈ (offered (line 2) (asked_nodes (line 2)).vset (line 0)
      (requests (asked_nodes (line 2)) [3] (line_world.kern 2).uninit).2).nodes := by
    decide +kernel
  obtain ⟨seg, hrun, hrouted, hiff⟩ := setup_establishes_iff [3] ready_line (fun _ _ => rfl)
    (by decide)
  exact ⟨seg, hrun, hrouted, hiff.mpr hoffered⟩

end AlpacaVrr
