import AlpacaVrr.Core.Wire
import AlpacaVrr.Theory.Advertised
import AlpacaVrr.Theory.Decoding

/-!
# Control Packets There and Back

What the five functions that build control packets put on the wire, and what a
receiver makes of it.

The two sides are written apart from each other: a sender counts up the words
it writes, a receiver adds up byte offsets. `Decodes` says that they agree on
a packet: its bytes are a packet again, `vrr_rcv` hands it to the handler of
its type, and that handler does what it does with the fields the sender had.
No read of it leaves the packet, because a read that did would be a draw from
the kernel, and there is none in `handle_setup` and its likes.

## Main definitions

* `received`: What `vrr_rcv` does around a handler.
* `Decodes`: A packet is handled with these fields.
* `Emits`: A sender emits one such packet, or none and reports it.

## Theorems

* `send_hpkt_emits`, `send_setup_req_emits`, `send_vset_emits`: The packets.
* `control_round_trip`: Each of the five is decoded to what it was built from.
-/

namespace AlpacaVrr

open FaultState

/-- What `vrr_rcv` does around the handler of a packet. -/
def received (skb : SkBuff) (work : Vrr Int) : Vrr Int := do
  Vrr.set_node (fun n => heard n skb.pkt.src)
  let err ← work
  if err ≠ 0 then do
    Vrr.kfree_skb .received
    pure 1
  else pure 0

/-- From the bytes of `p` a receiver gets a packet of this type and with these
    ids, whatever is in the padding, and in any frame it does `work` with it. -/
def Decodes (p : Packet) (pkt_type : U8) (src dst : U32) (work : SkBuff → Vrr Int) : Prop :=
  ∀ pad h_source dev_addr, ∃ q, Packet.ofBytes (p.bytes pad) = some q ∧
    q.vh.pkt_type = pkt_type ∧ q.src = src ∧ q.dst = dst ∧
    Vrr.vrr_rcv ⟨q, h_source, dev_addr⟩ =
      received ⟨q, h_source, dev_addr⟩ (work ⟨q, h_source, dev_addr⟩)

/-- At the node `n` the sender emits one packet satisfying `D` and returns 0,
    or emits none and returns -1. -/
def Emits (n : Node) (x : Vrr Int) (D : Packet → Prop) : Prop :=
  ∀ l, Triple (fun s => s.node = n ∧ s.sent = l) x
    (fun ret s => (ret = 0 ∧ ∃ p, D p ∧ s.sent = l ++ [p]) ∨ (ret = -1 ∧ s.sent = l))
    (fun _ => True)

/-- The buffer has the ids, if there are any. -/
def HoldsIds (vset_size : Nat) (vset : Option (List U32)) (ids : List U32) : Prop :=
  ids.length = vset_size ∧ (vset_size ≠ 0 → vset = some ids)

theorem length_elements {α : Type} (a : Nat → α) (n : Nat) : (elements a n).length = n := by
  rw [elements, List.length_map, List.length_range]

/-- A packet of a known type, handled by `work` from any frame. -/
theorem decodes_of_work (version pkt_type : U8) (src dst : U32) (mac : MacAddr) (data : List U32)
    (work : SkBuff → Vrr Int) (hty : pkt_type < VRR_NPTYPES)
    (h : ∀ h_source dev_addr,
      Vrr.vrr_rcvfunc ⟨build_packet version pkt_type src dst mac data, h_source, dev_addr⟩ =
        work ⟨build_packet version pkt_type src dst mac data, h_source, dev_addr⟩) :
    Decodes (build_packet version pkt_type src dst mac data) pkt_type src dst work := by
  intro pad h_source dev_addr
  refine ⟨_, Packet.ofBytes_bytes _ pad, rfl, ntohl_htonl src, ntohl_htonl dst, ?_⟩
  have hknown : ¬ VRR_NPTYPES ≤ (build_packet version pkt_type src dst mac data).vh.pkt_type :=
    BitVec.not_le.mpr hty
  unfold Vrr.vrr_rcv received
  rw [if_neg hknown, h]
  rfl

namespace Vrr

variable (n : Node)

theorem draws_unsent (l : List Packet) :
    Draws (fun s => s.node = n ∧ s.sent = l) (fun _ => True) :=
  draws_of_visible (fun _ hx => hx.preserves
    (fun v : Node × List Packet × List SkbRef × List Overrun => v.1 = n ∧ v.2.1 = l))

theorem node_unsent (l : List Packet) :
    Triple (fun s => s.node = n ∧ s.sent = l) node (fun me s => (s.node = n ∧ s.sent = l) ∧ me = n)
      (fun _ => True) :=
  Triple.gets _ (fun _ hs => ⟨hs, hs.1⟩)

theorem vrr_output_emits (skb : SkbRef) (pkt : Packet) (D : Packet → Prop) (hD : D pkt) :
    Emits n (vrr_output skb pkt) D := by
  intro l
  unfold vrr_output
  refine Triple.bind (Q := fun _ s => s.sent = l ++ [pkt])
    (Triple.modify _ (fun s hs => by rw [hs.2])) (fun _ => ?_)
  refine Triple.bind (Triple.modify (U := fun _ s => s.sent = l ++ [pkt]) _ (fun _ hs => hs))
    (fun _ => ?_)
  exact Triple.pure _ (fun _ hs => Or.inl ⟨rfl, pkt, hD, hs⟩)

/-- A sender that returns 0 itself does what `vrr_output` does. -/
theorem output_emits (skb : SkbRef) (pkt : Packet) (D : Packet → Prop) (hD : D pkt) :
    Emits n (do let _ ← vrr_output skb pkt; pure 0) D :=
  vrr_output_emits n skb pkt D hD

/-- The packet goes out when there is a buffer for it. -/
theorem emits_of_skb (x : Vrr Int) (D : Packet → Prop) (hx : Emits n x D) :
    Emits n (do let skb ← kmalloc 1; if skb then x else pure (-1)) D := by
  intro l
  refine Triple.bind ((draws_unsent n l).kmalloc 1) (fun skb => Triple.ite _ (fun _ => hx l) ?_)
  exact fun _ => Triple.pure _ (fun _ hs => Or.inr ⟨rfl, hs.2⟩)

/-- The ids of a vset are read as the buffer has them. -/
theorem read_vset_of_holds {vset_size : Nat} {vset : Option (List U32)} {ids : List U32}
    (h : HoldsIds vset_size vset ids) : read_vset vset_size vset = pure ids := by
  unfold read_vset
  by_cases hsize : vset_size = 0
  · rw [if_pos hsize, List.eq_nil_of_length_eq_zero (h.1.trans hsize)]
  · rw [if_neg hsize, h.2 hsize, ← h.1]
    simp only [List.take_length]

/-- The words in front, the size of the vset, and the vset. -/
theorem send_vset_emits (pkt_type : U8) (src dst : U32) (data : List U32) {vset_size : Nat}
    {vset : Option (List U32)} {ids : List U32} (hop : U32) (h : HoldsIds vset_size vset ids) :
    Emits n (send_vset pkt_type src dst data vset_size vset hop)
      (fun p => ∃ mac, p = build_packet n.version pkt_type src dst mac
        (data ++ BitVec.ofNat 32 ids.length :: ids)) := by
  intro l
  unfold send_vset
  refine Triple.bind (node_unsent n l) (fun me => Triple.of_and (fun hme => ?_))
  rw [hme, read_vset_of_holds h, h.1]
  cases pset_get_mac n.pset hop with
  | none => exact Triple.pure _ (fun _ hs => Or.inr ⟨rfl, hs.2⟩)
  | some mac => exact emits_of_skb n _ _ (vrr_output_emits n _ _ _ ⟨mac, rfl⟩) l

/-- `vset_get_all` hands over a buffer of as many ids as it says, or NULL. -/
theorem vset_get_all_holds (l : List Packet) :
    Triple (fun s => s.node = n ∧ s.sent = l) vset_get_all
      (fun r s => (s.node = n ∧ s.sent = l) ∧
        ((∃ g, HoldsIds r.1 r.2 (AlpacaVrr.vset_get_all n.vset g).2) ∨ (r.1 ≠ 0 ∧ r.2 = none)))
      (fun _ => True) := by
  have hlen : ∀ g, (AlpacaVrr.vset_get_all n.vset g).2.length = n.vset.vset_size := by
    intro g
    refine length_fill _ _ g ?_
    rw [Vset.nodes, List.length_map]
    exact n.vset.length_le
  unfold vset_get_all
  refine Triple.bind (node_unsent n l) (fun me => Triple.of_and (fun hme => ?_))
  rw [hme]
  -- without memory, only a node whose list is empty gets past the copying
  refine Triple.bind ((draws_unsent n l).kmalloc _) (fun ok => ?_)
  refine Triple.bind (draws_unsent n l).uninit (fun g => Triple.ite _ (fun _ => ?_) (fun _ => ?_))
  · exact Triple.pure _ (fun s hs => ⟨hs, Or.inl ⟨g, hlen g, fun _ => rfl⟩⟩)
  refine Triple.ite _ (fun _ => Triple.pure _ (fun s hs => ⟨hs, ?_⟩))
    (fun _ => Triple.fault _ trivial)
  by_cases hsize : n.vset.vset_size = 0
  · exact Or.inl ⟨g, hlen g, fun h => absurd hsize h⟩
  · exact Or.inr ⟨hsize, rfl⟩

/-- The proxy, the size of the node's own vset, and the vset as the buffer has
    it. -/
theorem send_setup_req_emits (src dst proxy : U32) :
    Emits n (send_setup_req src dst proxy)
      (fun p => ∃ mac g, p = build_packet n.version VRR_SETUP_REQ src dst mac
        ([proxy] ++ BitVec.ofNat 32 (AlpacaVrr.vset_get_all n.vset g).2.length ::
          (AlpacaVrr.vset_get_all n.vset g).2)) := by
  intro l
  unfold send_setup_req
  refine Triple.bind (node_unsent n l) (fun me => Triple.of_and (fun hme => ?_))
  rw [hme]
  refine Triple.bind (draws_unsent n l).uninit (fun stack => ?_)
  refine Triple.bind (vset_get_all_holds n l) (fun r => Triple.of_and (fun hr => ?_))
  refine Triple.bind ((draws_unsent n l).kmalloc 1) (fun data => Triple.ite _ (fun _ => ?_)
    (fun _ => Triple.fault _ trivial))
  rcases hr with ⟨g, hholds⟩ | ⟨hsize, hnull⟩
  · rw [read_vset_of_holds hholds, ← hholds.1]
    exact Triple.pure_bind _ (emits_of_skb n _ _ (output_emits n _ _ _ ⟨_, g, rfl⟩) l)
  · -- reading the vset from NULL stops
    unfold read_vset
    rw [if_neg hsize, hnull]
    exact Triple.bind (Q := fun _ _ => False) (Triple.fault _ trivial)
      (fun _ _ hs => hs.elim)

/-- The flag, the sizes of the three lists, and the lists. -/
theorem send_hpkt_emits :
    Emits n send_hpkt (fun p => p = build_packet n.version VRR_HELLO n.me 0 0
      (hpkt_data n.active n.pstate)) := by
  intro l
  unfold send_hpkt
  refine Triple.bind (node_unsent n l) (fun me => Triple.of_and (fun hme => ?_))
  rw [hme]
  refine Triple.bind ((draws_unsent n l).kmalloc 1) (fun data => Triple.ite _ (fun _ => ?_)
    (fun _ => Triple.fault _ trivial))
  exact emits_of_skb n _ (· = build_packet n.version VRR_HELLO n.me 0 0
    (hpkt_data n.active n.pstate)) (output_emits n _ _ _ rfl) l

end Vrr

section Decode

variable (version : U8) (src dst : U32) (mac : MacAddr)

theorem decodes_hello (active : U32) (ps : PsetState) (hla : ps.la_size ≤ VRR_PSET_SIZE)
    (hlna : ps.lna_size ≤ VRR_PSET_SIZE) (hp : ps.p_size ≤ VRR_PSET_SIZE) :
    Decodes (build_packet version VRR_HELLO src dst mac (hpkt_data active ps)) VRR_HELLO src dst
      (fun skb => Vrr.handle_hello skb active (elements ps.l_active ps.la_size)
        (elements ps.l_not_active ps.lna_size) (elements ps.pending ps.p_size)) := by
  have hdata : hpkt_data active ps = hello_front active (elements ps.l_active ps.la_size)
      (elements ps.l_not_active ps.lna_size) (elements ps.pending ps.p_size) ++
      elements ps.l_active ps.la_size ++ elements ps.l_not_active ps.lna_size ++
      elements ps.pending ps.p_size := by
    rw [hello_front, length_elements, length_elements, length_elements]
    rfl
  refine decodes_of_work version _ src dst mac _ _ (by decide) (fun h_source dev_addr => ?_)
  refine Vrr.vrr_rcv_hello_eq ⟨_, h_source, dev_addr⟩ ?_
  rw [hdata]
  exact greets_payload _ active _ _ _ (by rw [length_elements]; exact hla)
    (by rw [length_elements]; exact hlna) (by rw [length_elements]; exact hp)

variable (vset : List U32) (hlimit : vset.length ≤ VRR_VSET_SIZE)

include hlimit

theorem decodes_setup_req (proxy : U32) :
    Decodes (build_packet version VRR_SETUP_REQ src dst mac
      ([proxy] ++ BitVec.ofNat 32 vset.length :: vset)) VRR_SETUP_REQ src dst
      (fun skb => Vrr.handle_setup_req skb proxy vset) :=
  decodes_of_work version _ src dst mac _ _ (by decide)
    (fun _ _ => Vrr.vrr_rcv_setup_req_eq _ (carries_payload _ _ vset hlimit))

theorem decodes_setup (pid proxy : U32) :
    Decodes (build_packet version VRR_SETUP src dst mac
      ([pid, proxy] ++ BitVec.ofNat 32 vset.length :: vset)) VRR_SETUP src dst
      (fun skb => Vrr.handle_setup skb pid proxy vset) :=
  decodes_of_work version _ src dst mac _ _ (by decide)
    (fun _ _ => Vrr.vrr_rcv_setup_eq _ (carries_payload _ _ vset hlimit))

theorem decodes_setup_fail (proxy : U32) :
    Decodes (build_packet version VRR_SETUP_FAIL src dst mac
      ([proxy] ++ BitVec.ofNat 32 vset.length :: vset)) VRR_SETUP_FAIL src dst
      (fun skb => Vrr.handle_setup_fail skb proxy vset) :=
  decodes_of_work version _ src dst mac _ _ (by decide)
    (fun _ _ => Vrr.vrr_rcv_setup_fail_eq _ (carries_payload _ _ vset hlimit))

theorem decodes_teardown (ea pid : U32) :
    Decodes (build_packet version VRR_TEARDOWN src dst mac
      ([ea, pid] ++ BitVec.ofNat 32 vset.length :: vset)) VRR_TEARDOWN src dst
      (fun skb => Vrr.handle_teardown skb ea pid vset) :=
  decodes_of_work version _ src dst mac _ _ (by decide)
    (fun _ _ => Vrr.vrr_rcv_teardown_eq _ (carries_payload _ _ vset hlimit))

end Decode

/-- What is emitted decodes, if all packets of that form do. -/
theorem Emits.mono {n : Node} {x : Vrr Int} {D D' : Packet → Prop} (h : Emits n x D)
    (hD : ∀ p, D p → D' p) : Emits n x D' := by
  intro l
  refine (h l).post (fun ret s hs => ?_)
  rcases hs with ⟨hret, p, hp, hsent⟩ | hs
  · exact Or.inl ⟨hret, p, hD p hp, hsent⟩
  · exact Or.inr hs

/-- Every control packet is decoded to the ids, the type, the fields and the
    lists that it was built from, in the same order. And the update that a
    hello queues at its receiver is the one its lists say. -/
theorem control_round_trip (n : Node) :
    (n.pstate.la_size ≤ VRR_PSET_SIZE → n.pstate.lna_size ≤ VRR_PSET_SIZE →
      n.pstate.p_size ≤ VRR_PSET_SIZE → Emits n Vrr.send_hpkt (fun p =>
        Decodes p VRR_HELLO n.me 0 (fun skb => Vrr.handle_hello skb n.active
          (elements n.pstate.l_active n.pstate.la_size)
          (elements n.pstate.l_not_active n.pstate.lna_size)
          (elements n.pstate.pending n.pstate.p_size)))) ∧
    (∀ src dst proxy, n.vset.vset_size ≤ VRR_VSET_SIZE →
      Emits n (Vrr.send_setup_req src dst proxy) (fun p => ∃ g, Decodes p VRR_SETUP_REQ src dst
        (fun skb => Vrr.handle_setup_req skb proxy (vset_get_all n.vset g).2))) ∧
    (∀ vset_size vset ids, HoldsIds vset_size vset ids → ids.length ≤ VRR_VSET_SIZE →
      (∀ src dst pid proxy hop,
        Emits n (Vrr.send_setup src dst pid proxy vset_size vset hop) (fun p =>
          Decodes p VRR_SETUP src dst (fun skb => Vrr.handle_setup skb pid proxy ids))) ∧
      (∀ src dst proxy hop,
        Emits n (Vrr.send_setup_fail src dst proxy vset_size vset hop) (fun p =>
          Decodes p VRR_SETUP_FAIL src dst (fun skb => Vrr.handle_setup_fail skb proxy ids))) ∧
      ∀ ea pid hop, Emits n (Vrr.send_teardown pid ea vset vset_size hop) (fun p =>
        Decodes p VRR_TEARDOWN n.me hop (fun skb => Vrr.handle_teardown skb ea pid ids))) ∧
    ∀ me la lna p, hello_listed me la lna p =
      if me ∈ p then .pending else if me ∈ la ∨ me ∈ lna then .linked else .missing := by
  refine ⟨fun hla hlna hp => ?_, fun src dst proxy hsize => ?_,
    fun vset_size vset ids hholds hlimit => ⟨fun src dst pid proxy hop => ?_,
      fun src dst proxy hop => ?_, fun ea pid hop => ?_⟩, hello_listed_eq⟩
  -- each goal: what the function emits, and that a packet of that form decodes
  · refine (Vrr.send_hpkt_emits n).mono (fun p hp' => ?_)
    rw [hp']
    exact decodes_hello _ _ _ _ _ _ hla hlna hp
  · refine (Vrr.send_setup_req_emits n src dst proxy).mono (fun p hp => ?_)
    rcases hp with ⟨mac, g, rfl⟩
    refine ⟨g, decodes_setup_req _ _ _ _ _ ?_ _⟩
    have hlen := length_fill n.vset.nodes n.vset.vset_size g
      (by rw [Vset.nodes, List.length_map]; exact n.vset.length_le)
    exact Nat.le_trans (Nat.le_of_eq hlen) hsize
  · refine (Vrr.send_vset_emits n VRR_SETUP src dst [pid, proxy] hop hholds).mono (fun p hp => ?_)
    rcases hp with ⟨mac, rfl⟩
    exact decodes_setup _ _ _ _ ids hlimit _ _
  · refine (Vrr.send_vset_emits n VRR_SETUP_FAIL src dst [proxy] hop hholds).mono (fun p hp => ?_)
    rcases hp with ⟨mac, rfl⟩
    exact decodes_setup_fail _ _ _ _ ids hlimit _
  · -- a teardown is sent under the node's own id, which is read first
    intro l
    unfold Vrr.send_teardown
    refine Triple.bind (Vrr.node_unsent n l) (fun me => Triple.of_and (fun hme => ?_))
    rw [hme]
    refine (Vrr.send_vset_emits n VRR_TEARDOWN n.me hop [ea, pid] hop hholds).mono
      (fun p hp => ?_) l
    rcases hp with ⟨mac, rfl⟩
    exact decodes_teardown _ _ _ _ ids hlimit _ _

/-- A node with neighbour 3. A setup with two ids goes out to it, and its bytes
    are a packet that is handled with the same two ids. -/
theorem control_round_trip_setup :
    let n := { node_one.node with pset := [⟨3, .linked, 1, 3, 0⟩] }
    Emits n (Vrr.send_setup 5 6 7 8 2 (some [10, 11]) 3) (fun p =>
        Decodes p VRR_SETUP 5 6 (fun skb => Vrr.handle_setup skb 7 8 [10, 11])) ∧
      Emits n Vrr.send_hpkt (fun p => Decodes p VRR_HELLO 1 0 (fun skb =>
        Vrr.handle_hello skb 0 [] [] [])) ∧
      (Vrr.send_setup 5 6 7 8 2 (some [10, 11]) 3 (Sys.boot n Kernel.calm)).toOption.map
        (fun r => (r.1, r.2.sent.map (fun p => p.data.length))) = some (0, [20]) := by
  intro n
  have htrip := control_round_trip n
  refine ⟨(htrip.2.2.1 2 (some [10, 11]) [10, 11] ⟨rfl, fun _ => rfl⟩ (by decide)).1 5 6 7 8 3,
    htrip.1 (by decide) (by decide) (by decide), by decide +kernel⟩

end AlpacaVrr
