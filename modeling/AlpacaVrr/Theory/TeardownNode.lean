import AlpacaVrr.Core.Network
import AlpacaVrr.Theory.HandlerSafety

/-!
# One Node of a Teardown

What the end that tears a path down does, and what a node does that is told.

The message of a teardown without a sender is the three words `ea`, path id
and zero. With all allocations succeeding, the outcome of a run is known to the
letter: the state of the node, the packets sent, and the words of unwritten
memory drawn so far, on which the virtual set may depend. `Sys.At` is the
assertion that keeps track of the three.

A node that is told removes its route and finds the hop on the far side of it.
If there is one, the message goes there. If there is none, the virtual set is
changed, first by `vset_remove` and then by `vrr_add` with the source 0. And a
node that has no such route does not come to an end at all.

## Main definitions

* `Sys.At`: A node about to run, with all allocations succeeding.
* `vset_to`: What a hop is sent.
* `teardown_packet`, `teardown_to`: The message, and what a hop is sent of it.
* `unroute`: The node without its route.
* `take_in`: What `vrr_add` with the source 0 makes of a virtual set.
* `path_routes`: The routes that a removal looks for.

## Theorems

* `tear_down_path_at`, `vrr_rcv_teardown_pass`, `vrr_rcv_teardown_end`: The
  three parts a node can play.
* `tear_down_run`: The first run.
* `deliver_pass`, `deliver_end`, `deliver_lost`: The outcomes of a delivery.
-/

namespace AlpacaVrr

open FaultState

/-- A state with this node, these packets sent, and this unwritten memory,
    in which allocations succeed. -/
structure Sys.At (n : Node) (l : List Packet) (g : Nat → Garbage) (s : Sys) : Prop where
  node : s.node = n
  sent : s.sent = l
  uninit : s.kern.uninit = g
  alloc : ∀ i, s.kern.kmalloc i = true

/-- The teardown of the path `<ea, pid>`, without a vset. -/
def teardown_packet (version : U8) (mac : MacAddr) (src hop ea pid : U32) : Packet :=
  build_packet version VRR_TEARDOWN src hop mac [ea, pid, 0]

/-- What `send_vset` sends to a hop: nothing when its address is not known. -/
def vset_to (n : Node) (pkt_type : U8) (src dst : U32) (data : List U32) (vset_size : Nat)
    (ids : List U32) (hop : U32) : List Packet :=
  (pset_get_mac n.pset hop).toList.map (fun mac =>
    build_packet n.version pkt_type src dst mac (data ++ BitVec.ofNat 32 vset_size :: ids))

/-- What `send_teardown` sends to a hop without a vset. -/
def teardown_to (n : Node) (ea pid hop : U32) : List Packet :=
  (pset_get_mac n.pset hop).toList.map (fun mac => teardown_packet n.version mac n.me hop ea pid)

/-- The virtual set after `vrr_add` with the source 0. -/
def take_in (me : U32) (v : Vset) (g : Nat → Garbage) : Vset :=
  if vset_should_add me v 0 (g 0) (g 1) = true then (vset_add me v 0 0 (g 2) (g 3)).2.2 else v

/-- The node without the route `<ea, pid>` filed under `ea`. -/
def unroute (n : Node) (ea pid : U32) : Node :=
  { n with rt := (n.rt.rt_remove_route ea pid).2 }

theorem teardown_packet_src (version : U8) (mac : MacAddr) (src hop ea pid : U32) :
    (teardown_packet version mac src hop ea pid).src = src :=
  build_packet_src _ _ _ _ _ _

theorem teardown_packet_dst (version : U8) (mac : MacAddr) (src hop ea pid : U32) :
    (teardown_packet version mac src hop ea pid).dst = hop :=
  build_packet_dst _ _ _ _ _ _

/-- A hop that is a neighbour gets one message. -/
theorem teardown_to_neighbour (n : Node) (ea pid hop : U32) (h : pset_contains n.pset hop = true) :
    ∃ mac, teardown_to n ea pid hop = [teardown_packet n.version mac n.me hop ea pid] := by
  rw [pset_contains_iff, ← pset_get_mac_isSome_iff] at h
  rcases Option.isSome_iff_exists.mp h with ⟨mac, hmac⟩
  refine ⟨mac, ?_⟩
  unfold teardown_to
  rw [hmac]
  rfl

theorem teardown_to_stranger (n : Node) (ea pid hop : U32) (h : pset_contains n.pset hop ≠ true) :
    teardown_to n ea pid hop = [] := by
  rw [Ne, pset_contains_iff, ← pset_get_mac_isSome_iff, Option.not_isSome_iff_eq_none] at h
  unfold teardown_to
  rw [h]
  rfl

namespace Vrr

section Node

variable {n : Node} {l : List Packet} {g : Nat → Garbage}

theorem kmalloc_at (size : Nat) :
    Triple (Sys.At n l g) (kmalloc size) (fun ok s => s.At n l g ∧ ok = true) (fun _ => False) := by
  unfold kmalloc
  refine Triple.ite _ (fun _ => Triple.pure _ (fun s hs => ⟨hs, rfl⟩)) (fun _ => ?_)
  intro s hs
  exact ⟨⟨hs.node, hs.sent, hs.uninit, fun i => hs.alloc (i + 1)⟩, hs.alloc 0⟩

theorem me_at :
    Triple (Sys.At n l g) node (fun me s => s.At n l g ∧ me = n) (fun _ => False) :=
  Triple.gets _ (fun _ hs => ⟨hs, hs.node⟩)

/-- The next piece of unwritten memory. -/
theorem uninit_at :
    Triple (Sys.At n l g) uninit (fun a s => s.At n l (fun i => g (i + 1)) ∧ a = g 0)
      (fun _ => False) := by
  intro s hs
  refine ⟨⟨hs.node, hs.sent, ?_, hs.alloc⟩, ?_⟩
  · rw [← hs.uninit]
  · rw [← hs.uninit]

theorem vrr_output_at (skb : SkbRef) (pkt : Packet) :
    Triple (Sys.At n l g) (vrr_output skb pkt) (fun _ => Sys.At n (l ++ [pkt]) g)
      (fun _ => False) := by
  intro s hs
  refine ⟨hs.node, ?_, hs.uninit, hs.alloc⟩
  rw [← hs.sent]

/-- The size handed over with the ids is their number. -/
theorem read_vset_all (ids : List U32) : read_vset ids.length (some ids) = pure ids := by
  unfold read_vset
  cases ids with
  | nil => rfl
  | cons id ids =>
      have hne : (id :: ids).length ≠ 0 := Nat.succ_ne_zero _
      simp only [if_neg hne, List.take_length]

/-- A packet goes out when the hop's address is known. -/
theorem send_vset_at (pkt_type : U8) (src dst : U32) (data ids : List U32) (vset_size : Nat)
    (vset : Option (List U32)) (hop : U32) (hread : read_vset vset_size vset = pure ids) :
    Triple (Sys.At n l g) (send_vset pkt_type src dst data vset_size vset hop)
      (fun _ => Sys.At n (l ++ vset_to n pkt_type src dst data vset_size ids hop) g)
      (fun _ => False) := by
  unfold send_vset vset_to
  refine Triple.bind me_at (fun me => Triple.of_and (fun hme => ?_))
  rw [hme]
  cases pset_get_mac n.pset hop with
  | none =>
      refine Triple.pure _ (fun s hs => ?_)
      rw [Option.toList_none, List.map_nil, List.append_nil]
      exact hs
  | some mac =>
      rw [hread]
      refine Triple.pure_bind _ ?_
      refine Triple.bind (kmalloc_at 1) (fun skb => Triple.of_and (fun hskb => ?_))
      rw [hskb]
      exact vrr_output_at _ _

/-- The teardown of a path, without a vset. -/
theorem send_teardown_at (pid ea hop : U32) (vset : Option (List U32)) :
    Triple (Sys.At n l g) (send_teardown pid ea vset 0 hop)
      (fun _ => Sys.At n (l ++ teardown_to n ea pid hop) g) (fun _ => False) := by
  unfold send_teardown
  refine Triple.bind me_at (fun me => Triple.of_and (fun hme => ?_))
  rw [hme]
  exact send_vset_at _ _ _ _ [] _ _ _ rfl

/-- Without a sender a hop gets its message without a vset. -/
theorem tear_down_hop_at (pid ea hop : U32) :
    Triple (Sys.At n l g) (tear_down_hop pid ea null hop)
      (fun _ => Sys.At n (l ++ if hop = 0 then [] else teardown_to n ea pid hop) g)
      (fun _ => False) := by
  unfold tear_down_hop
  refine Triple.bind me_at (fun me => Triple.of_and (fun hme => ?_))
  rw [hme]
  refine Triple.ite _ (fun h => ?_) (fun h => Triple.pure _ (fun s hs => ?_))
  · rw [if_neg h.1]
    refine Triple.pure_bind (0, none) ?_
    exact Triple.bind (send_teardown_at pid ea hop none) (fun _ => Triple.pure _ (fun _ hs => hs))
  · by_cases h0 : hop = 0
    · rw [if_pos h0, List.append_nil]
      exact hs
    · rw [if_neg h0, teardown_to_stranger n ea pid hop (fun hc => h ⟨h0, hc⟩), List.append_nil]
      exact hs

theorem rt_remove_route_at (ea pid : U32) :
    Triple (Sys.At n l g) (rt_remove_route ea pid)
      (fun found s => s.At (unroute n ea pid) l g ∧
        found = (n.rt.rt_remove_route ea pid).1) (fun _ => False) := by
  intro s hs
  refine ⟨⟨?_, hs.sent, hs.uninit, hs.alloc⟩, ?_⟩
  · rw [← hs.node]
    rfl
  · rw [← hs.node]

/-- With all allocations succeeding a route can always be filed. -/
theorem rt_add_route_at (ea eb na nb pid : U32) :
    Triple (Sys.At n l g) (rt_add_route ea eb na nb pid)
      (fun ok s => (∃ rb, s.At { n with
        rt := (n.rt.rt_add_route rb RtAlloc.ok ea eb na nb pid).2 } l g) ∧ ok = true)
      (fun _ => False) := by
  have halloc : Triple (Sys.At n l g) rt_alloc
      (fun alloc s => s.At n l g ∧ alloc = RtAlloc.ok) (fun _ => False) := by
    unfold rt_alloc
    refine Triple.bind (kmalloc_at 1) (fun a => Triple.of_and (fun ha => ?_))
    refine Triple.bind (kmalloc_at 1) (fun b => Triple.of_and (fun hb => ?_))
    refine Triple.bind (kmalloc_at 1) (fun c => Triple.of_and (fun hc => ?_))
    refine Triple.bind (kmalloc_at 1) (fun d => Triple.of_and (fun hd => ?_))
    rw [ha, hb, hc, hd]
    exact Triple.pure _ (fun s hs => ⟨hs, rfl⟩)
  unfold rt_add_route
  refine Triple.bind halloc (fun alloc => Triple.of_and (fun hok => ?_))
  rw [hok]
  intro s hs
  refine ⟨⟨s.kern.rb_insert_color, ?_, hs.sent, hs.uninit, hs.alloc⟩,
    rt_add_route_ok _ _ _ _ _ _ _⟩
  rw [← hs.node]

/-- The end that tears the path down: its route goes, and both its hops are
    told. -/
theorem tear_down_path_at (pid ea : U32) (route : RtEntry)
    (hroute : (n.rt.rt_remove_route ea pid).1 = some route) :
    Triple (Sys.At n l g) (tear_down_path pid ea null)
      (fun _ => Sys.At (unroute n ea pid)
        (l ++ (if route.na = 0 then [] else teardown_to n ea pid route.na) ++
          if route.nb = 0 then [] else teardown_to n ea pid route.nb) g) (fun _ => False) := by
  unfold tear_down_path
  refine Triple.bind (rt_remove_route_at ea pid) (fun found => Triple.of_and (fun hfound => ?_))
  rw [hfound, hroute]
  refine Triple.bind (tear_down_hop_at pid ea route.na) (fun _ => ?_)
  refine Triple.bind (tear_down_hop_at pid ea route.nb) (fun _ => ?_)
  -- the third message is for the sender, and there is none
  refine Triple.bind (tear_down_hop_at pid ea null) (fun _ => Triple.pure _ (fun s hs => ?_))
  have hnull : (if null = 0 then [] else
      teardown_to (unroute n ea pid) ea pid null) = [] := if_pos rfl
  rw [hnull, List.append_nil] at hs
  exact hs

/-- Two draws of unwritten memory decide whether an id should be added. -/
theorem vset_should_add_drawn (id : U32) :
    Triple (Sys.At n l g) (vset_should_add id)
      (fun should s => s.At n l (fun i => g (i + 2)) ∧
        should = AlpacaVrr.vset_should_add n.me n.vset id (g 0) (g 1)) (fun _ => False) := by
  intro s hs
  refine ⟨⟨hs.node, hs.sent, ?_, hs.alloc⟩, ?_⟩
  · rw [← hs.uninit]
  · rw [← hs.uninit, ← hs.node]

theorem vset_add_drawn (id rem : U32) (habs : id ∉ n.vset.nodes) :
    Triple (Sys.At n l g) (vset_add id rem)
      (fun _ => Sys.At { n with
        vset := (AlpacaVrr.vset_add n.me n.vset id rem (g 0) (g 1)).2.2 } l (fun i => g (i + 2)))
      (fun _ => False) := by
  unfold vset_add
  refine Triple.bind me_at (fun me => Triple.of_and (fun hme => ?_))
  rw [hme]
  refine Triple.ite _ (fun h => absurd h habs) (fun _ => ?_)
  refine Triple.bind (kmalloc_at 1) (fun tmp => Triple.of_and (fun htmp => ?_))
  rw [htmp]
  intro s hs
  refine ⟨?_, hs.sent, ?_, hs.alloc⟩
  · rw [← hs.uninit, ← hs.node]
  · rw [← hs.uninit]

/-- `vrr_add` with an empty vset' only offers its source. -/
theorem vrr_add_zero_at :
    Triple (Sys.At n l g) (vrr_add 0 [])
      (fun _ s => s.node = { n with vset := take_in n.me n.vset g } ∧ s.sent = l)
      (fun _ => False) := by
  unfold vrr_add take_in
  -- the loop has no rounds, and 0 is not the source that stands for none
  refine Triple.pure_bind PUnit.unit ?_
  refine Triple.ite _ (fun h => absurd h (by decide)) (fun _ => ?_)
  refine Triple.bind (vset_should_add_drawn 0) (fun should => Triple.of_and (fun hshould => ?_))
  rw [hshould]
  refine Triple.ite _ (fun h => ?_) (fun h => Triple.pure _ (fun s hs => ?_))
  · have habs : (0 : U32) ∉ n.vset.nodes := by
      intro hmem
      rw [AlpacaVrr.vset_should_add, if_pos hmem] at h
      exact Bool.false_ne_true h
    rw [if_pos h]
    exact Triple.bind (vset_add_drawn 0 0 habs)
      (fun _ => Triple.pure _ (fun _ hs => ⟨hs.node, hs.sent⟩))
  · rw [if_neg h]
    exact ⟨hs.node, hs.sent⟩

/-- The words of a teardown, as its handler reads them. -/
theorem vrr_rcv_teardown_reads (skb : SkBuff) (version : U8) (mac : MacAddr) (src hop ea pid : U32)
    (hpkt : skb.pkt = teardown_packet version mac src hop ea pid) :
    read_u32 skb.pkt vrr_header_size = pure ea ∧
      read_u32 skb.pkt (vrr_header_size + 4) = pure pid ∧
      read_u32 skb.pkt (vrr_header_size + 8) = pure 0 ∧
      read_array skb.pkt (vrr_header_size + 12) 0 = pure [] := by
  rw [hpkt]
  refine ⟨read_u32_of_word (word_payload _ _ 0 ea rfl),
    read_u32_of_word (word_payload _ _ 1 pid rfl), read_u32_of_word (word_payload _ _ 2 0 rfl), ?_⟩
  exact read_array_of_words (words_payload _ [ea, pid, 0] 3 0 (Nat.le_refl 3))

/-- Once the packet is read and the route removed, the next hop decides. -/
theorem vrr_rcv_teardown_found {R : Int → Sys → Prop} (skb : SkBuff) (version : U8) (mac : MacAddr)
    (src hop ea pid : U32) (route : RtEntry)
    (hpkt : skb.pkt = teardown_packet version mac src hop ea pid)
    (hroute : (n.rt.rt_remove_route ea pid).1 = some route)
    (hrest : Triple (Sys.At (unroute n ea pid) l g)
      (if (teardown_side route src).2 ≠ 0 then do
        let _ ← send_teardown pid ea (some []) 0 (teardown_side route src).2
        pure 0
      else do
        let _ ← vset_remove (teardown_side route src).1
        let _ ← vrr_add 0 []
        pure 0) R (fun _ => False)) :
    Triple (Sys.At n l g) (vrr_rcv_teardown skb) R (fun _ => False) := by
  have hsrc : skb.pkt.src = src := by rw [hpkt, teardown_packet_src]
  rcases vrr_rcv_teardown_reads skb version mac src hop ea pid hpkt with ⟨hea, hpid, hsize, hvset⟩
  unfold vrr_rcv_teardown
  rw [hea, hpid, hsize, hsrc]
  refine Triple.pure_bind _ (Triple.pure_bind _ (Triple.pure_bind _ ?_))
  refine Triple.bind (rt_remove_route_at ea pid) (fun found => Triple.of_and (fun hfound => ?_))
  rw [hfound, hroute]
  -- the size is zero, and an allocation of no bytes is not NULL
  refine Triple.ite _ (fun h => absurd h (by decide)) (fun _ => ?_)
  refine Triple.bind (kmalloc_at _) (fun buffer => Triple.of_and (fun hbuffer => ?_))
  refine Triple.ite _ (fun _ => ?_) (fun h => absurd hbuffer h)
  refine Triple.bind (Q := fun vset s =>
    s.At (unroute n ea pid) l g ∧ vset = []) ?_
    (fun vset => Triple.of_and
      (P := Sys.At (unroute n ea pid) l g) (fun hnil => ?_))
  · exact (congrArg (fun x => Triple _ x _ _) hvset).mpr (Triple.pure _ (fun _ hs => ⟨hs, rfl⟩))
  · rw [hnil]
    exact hrest

/-- A node in the middle of the path: its route goes, and the next hop is
    told. -/
theorem vrr_rcv_teardown_pass (skb : SkBuff) (version : U8) (mac : MacAddr) (src hop ea pid : U32)
    (route : RtEntry) (hpkt : skb.pkt = teardown_packet version mac src hop ea pid)
    (hroute : (n.rt.rt_remove_route ea pid).1 = some route)
    (hnext : (teardown_side route src).2 ≠ 0) :
    Triple (Sys.At n l g) (vrr_rcv_teardown skb)
      (fun err s => (s.node = unroute n ea pid ∧
        s.sent = l ++ teardown_to n ea pid (teardown_side route src).2) ∧ err = 0)
      (fun _ => False) := by
  refine vrr_rcv_teardown_found skb version mac src hop ea pid route hpkt hroute ?_
  rw [if_pos hnext]
  exact Triple.bind (send_teardown_at pid ea _ _)
    (fun _ => Triple.pure _ (fun _ hs => ⟨⟨hs.node, hs.sent⟩, rfl⟩))

/-- A node without a next hop: its route goes, and the virtual set is
    touched. -/
theorem vrr_rcv_teardown_end (skb : SkBuff) (version : U8) (mac : MacAddr) (src hop ea pid : U32)
    (route : RtEntry) (hpkt : skb.pkt = teardown_packet version mac src hop ea pid)
    (hroute : (n.rt.rt_remove_route ea pid).1 = some route)
    (hnext : (teardown_side route src).2 = 0) :
    Triple (Sys.At n l g) (vrr_rcv_teardown skb)
      (fun err s => (s.node = { unroute n ea pid with
          vset := take_in n.me (AlpacaVrr.vset_remove n.vset (teardown_side route src).1).2 g } ∧
        s.sent = l) ∧ err = 0) (fun _ => False) := by
  refine vrr_rcv_teardown_found skb version mac src hop ea pid route hpkt hroute ?_
  rw [if_neg (not_not_intro hnext)]
  refine Triple.bind (Q := fun _ => Sys.At { unroute n ea pid with
      vset := (AlpacaVrr.vset_remove n.vset (teardown_side route src).1).2 } l g) ?_ (fun _ => ?_)
  · intro s hs
    refine ⟨?_, hs.sent, hs.uninit, hs.alloc⟩
    have hnode := hs.node
    change ({ s.node with vset := _ } : Node) = _
    rw [hnode]
    rfl
  · exact Triple.bind vrr_add_zero_at (fun _ => Triple.pure _ (fun _ hs => ⟨hs, rfl⟩))

/-- What a handler that returns zero does, `vrr_rcv` does. -/
theorem vrr_rcv_zero_at {R : Sys → Prop} (skb : SkBuff) (hty : skb.pkt.vh.pkt_type < VRR_NPTYPES)
    (h : Triple (Sys.At (heard n skb.pkt.src) l g) (vrr_rcvfunc skb)
      (fun err s => R s ∧ err = 0) (fun _ => False)) :
    Triple (Sys.At n l g) (vrr_rcv skb) (fun _ s => R s) (fun _ => False) := by
  refine vrr_rcv_triple (I := Sys.At (heard n skb.pkt.src) l g)
    (J := fun err s => R s ∧ err = 0) skb
    (fun hge => absurd hty (BitVec.not_lt.mpr hge)) (fun s hs => ?_) (fun _ => h)
    (fun err hne s hs => absurd hs.2 hne) (fun s hs => hs.1)
  exact ⟨by rw [← hs.node], hs.sent, hs.uninit, hs.alloc⟩

theorem vrr_rcv_at {m : Node} {ps : List Packet} (skb : SkBuff)
    (hty : skb.pkt.vh.pkt_type = VRR_TEARDOWN)
    (h : Triple (Sys.At (heard n skb.pkt.src) l g) (vrr_rcv_teardown skb)
      (fun err s => (s.node = m ∧ s.sent = ps) ∧ err = 0) (fun _ => False)) :
    Triple (Sys.At n l g) (vrr_rcv skb) (fun _ s => s.node = m ∧ s.sent = ps)
      (fun _ => False) := by
  have hlt : skb.pkt.vh.pkt_type < VRR_NPTYPES := by
    rw [hty]
    decide
  refine vrr_rcv_zero_at skb hlt ?_
  rw [vrr_rcvfunc_teardown skb hty]
  exact h

end Node

/-- A node without the route does not survive the message. -/
theorem vrr_rcv_lost (n : Node) (skb : SkBuff) (version : U8) (mac : MacAddr)
    (src hop ea pid : U32) (hpkt : skb.pkt = teardown_packet version mac src hop ea pid)
    (hno : ¬ ∃ route ∈ n.rt.routes ea, route.path_id = pid) :
    Triple (fun s => s.node = n) (vrr_rcv skb) (fun _ _ => False) (fun _ => True) := by
  have hty : skb.pkt.vh.pkt_type = VRR_TEARDOWN := by
    rw [hpkt]
    rfl
  have hea : word skb.pkt vrr_header_size = some ea := by
    rw [hpkt]
    exact word_payload _ _ 0 ea rfl
  have hpid : word skb.pkt (vrr_header_size + 4) = some pid := by
    rw [hpkt]
    exact word_payload _ _ 1 pid rfl
  refine vrr_rcv_triple (I := fun s => s.node = heard n skb.pkt.src) (J := fun _ _ => False) skb
    (fun hge => absurd hge (by rw [hty]; decide)) (fun s hs => by rw [← hs]) (fun _ => ?_)
    (fun _ _ _ hf => hf.elim) (fun _ hf => hf)
  rw [vrr_rcvfunc_teardown skb hty]
  exact vrr_rcv_teardown_stops (heard n skb.pkt.src) skb ea pid hea hpid hno

end Vrr

/-- The routes `<ea, pid>` filed under `ea`. -/
def path_routes (n : Node) (ea pid : U32) : List RtEntry :=
  (n.rt.routes ea).filter (fun route => route.path_id == pid)

theorem rt_remove_route_of_path_routes {n : Node} {ea pid : U32} {route : RtEntry}
    (h : path_routes n ea pid = [route]) : (n.rt.rt_remove_route ea pid).1 = some route := by
  rw [RtTable.route_remove, ← List.head?_filter]
  exact congrArg List.head? h

theorem path_routes_unroute {n : Node} {ea pid : U32} {route : RtEntry}
    (h : path_routes n ea pid = [route]) : path_routes (unroute n ea pid) ea pid = [] :=
  (RtTable.path_routes_remove n.rt ea pid).trans (congrArg List.tail h)

theorem no_route_of_path_routes {n : Node} {ea pid : U32} (h : path_routes n ea pid = []) :
    ¬ ∃ route ∈ n.rt.routes ea, route.path_id = pid := by
  rintro ⟨route, hmem, hpath⟩
  exact List.filter_eq_nil_iff.mp h route hmem (beq_iff_eq.mpr hpath)

/-- Hearing from a node does not change who is a neighbour. -/
theorem pset_contains_heard (n : Node) (src id : U32) :
    pset_contains (heard n src).pset id = pset_contains n.pset id := by
  rw [Bool.eq_iff_iff, pset_contains_iff, pset_contains_iff, heard, pset_ids_reset_fail_count]

/-- The end `x` calls `tear_down_path`. -/
theorem tear_down_run {w : World} (hw : w.Reliable) (nodes : U32 → Node) (x ea pid : U32)
    (route : RtEntry) (hroute : path_routes (nodes x) ea pid = [route]) :
    ∃ net, (Network.quiet nodes).run w x (Vrr.tear_down_path pid ea null) = some net ∧
      net.nodes = Function.update nodes x (unroute (nodes x) ea pid) ∧
      net.flight = (if route.na = 0 then [] else teardown_to (nodes x) ea pid route.na) ++
        (if route.nb = 0 then [] else teardown_to (nodes x) ea pid route.nb) ∧
      net.handled = [x] := by
  have hat : Triple (Sys.At (nodes x) [] (w.kern 0).uninit) (Vrr.tear_down_path pid ea null)
      (fun _ s => s.node = unroute (nodes x) ea pid ∧
        s.sent = (if route.na = 0 then [] else teardown_to (nodes x) ea pid route.na) ++
          (if route.nb = 0 then [] else teardown_to (nodes x) ea pid route.nb))
      (fun _ => False) :=
    (Vrr.tear_down_path_at pid ea route (rt_remove_route_of_path_routes hroute)).post
      (fun _ _ hs => ⟨hs.node, hs.sent⟩)
  exact ⟨_, Network.run_of_triple hat ⟨rfl, rfl, rfl, hw 0⟩, rfl, rfl, rfl⟩

/-- A message without a route to remove is the end of its receiver. -/
theorem deliver_lost (w : World) (net : Network) (version : U8) (mac : MacAddr)
    (src b ea pid : U32) (hno : path_routes (net.nodes b) ea pid = []) :
    net.deliver w (teardown_packet version mac src b ea pid) = none := by
  unfold Network.deliver
  rw [teardown_packet_dst]
  exact Network.run_eq_none (Vrr.vrr_rcv_lost (net.nodes b) _ version mac src b ea pid rfl
    (no_route_of_path_routes hno)) rfl

section Deliver

variable {w : World} (hw : w.Reliable) {net : Network} {version : U8} {mac : MacAddr}
  {src b ea pid : U32} {route : RtEntry}
  (hflight : net.flight = [teardown_packet version mac src b ea pid])
  (hroute : path_routes (net.nodes b) ea pid = [route])

include hw hflight hroute

/-- A message on its way. -/
theorem deliver_pass (hnext : (Vrr.teardown_side route src).2 ≠ 0) :
    ∃ net', net.deliver w (teardown_packet version mac src b ea pid) = some net' ∧
      net'.nodes = Function.update net.nodes b (unroute (heard (net.nodes b) src) ea pid) ∧
      net'.flight = teardown_to (heard (net.nodes b) src) ea pid (Vrr.teardown_side route src).2 ∧
      net'.handled = b :: net.handled := by
  unfold Network.deliver
  rw [teardown_packet_dst, hflight, List.erase_cons_head]
  refine ⟨_, Network.run_of_triple (Vrr.vrr_rcv_at (l := []) _ rfl ?_)
    ⟨rfl, rfl, rfl, hw net.handled.length⟩, rfl, rfl, rfl⟩
  rw [teardown_packet_src]
  exact Vrr.vrr_rcv_teardown_pass _ version mac src b ea pid route rfl
    (rt_remove_route_of_path_routes hroute) hnext

/-- A message at the end of its way. -/
theorem deliver_end (hnext : (Vrr.teardown_side route src).2 = 0) :
    ∃ net', net.deliver w (teardown_packet version mac src b ea pid) = some net' ∧
      net'.nodes = Function.update net.nodes b { unroute (heard (net.nodes b) src) ea pid with
        vset := take_in (net.nodes b).me
          (vset_remove (net.nodes b).vset (Vrr.teardown_side route src).1).2
          (w.kern net.handled.length).uninit } ∧
      net'.flight = [] ∧ net'.handled = b :: net.handled := by
  unfold Network.deliver
  rw [teardown_packet_dst, hflight, List.erase_cons_head]
  refine ⟨_, Network.run_of_triple (Vrr.vrr_rcv_at (l := []) _ rfl ?_)
    ⟨rfl, rfl, rfl, hw net.handled.length⟩, rfl, rfl, rfl⟩
  rw [teardown_packet_src]
  exact Vrr.vrr_rcv_teardown_end _ version mac src b ea pid route rfl
    (rt_remove_route_of_path_routes hroute) hnext

end Deliver

end AlpacaVrr
