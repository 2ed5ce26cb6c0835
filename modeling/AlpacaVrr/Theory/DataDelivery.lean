import AlpacaVrr.Core.Segment
import AlpacaVrr.Lib.Tokens
import AlpacaVrr.Theory.Delivery
import AlpacaVrr.Theory.Payload

/-!
# Many Packets at Once

Data packets on their way over established paths, any number of them, in any
order.

`forwarding_arrives` follows one packet from node to node as if nothing else
happened. Here all packets are in flight at the same time, programs send more
of them, each delivery is a run of `vrr_rcv` at the node with the address on
the frame, and the order is free. A delivery takes a frame off the wire and puts
at most one in its place, of a lower rank, and a call puts one frame there and
is gone. So every schedule settles, by `settles_of_cut`. What the sockets have
been handed, with what is still on its way to one, stays the same from the first
action to the last.

On the way the packet changes only the address in its header, and the nodes
only their clocks and fail counts.

## Main definitions

* `Unmoved`: A node that has only heard packets.
* `forwarded`: What a node sends on of a data packet.
* `Letter`, `arrival`: What a program finds at its socket, and what will come of
  a packet.
* `Paved`, `Underway`, `Sendable`: The paths, and the frames and calls on them.
* `OnTheWay`: What holds between the actions.

## Theorems

* `vrr_rcv_data_run`, `vrr_sendmsg_run`: A node with a packet, and with a message.
* `sent_on`, `taken_or_sent_on`: What comes of a packet at a node.
* `messages_delivered`: Every message comes to its socket once.
-/

namespace AlpacaVrr

open FaultState

/-- The entries without their fail counts. -/
def uncounted (p : Pset) : Pset := p.map (fun e => { e with fail_count := 0 })

/-- The second node is the first, but for the clock and the fail counts. -/
def Unmoved (n m : Node) : Prop :=
  ∃ timeout pset, m = { n with timeout := timeout, pset := pset } ∧
    uncounted pset = uncounted n.pset

theorem Unmoved.refl (n : Node) : Unmoved n n := ⟨n.timeout, n.pset, rfl, rfl⟩

theorem Unmoved.heard {n m : Node} (h : Unmoved n m) (src : U32) : Unmoved n (heard m src) := by
  rcases h with ⟨timeout, pset, rfl, hpset⟩
  refine ⟨0, pset_reset_fail_count pset src, rfl, ?_⟩
  rw [← hpset]
  unfold uncounted pset_reset_fail_count
  exact map_on_first (fun e : PsetEntry => { e with fail_count := 0 }) src
    (fun tmp => { tmp with fail_count := 0 }) (fun _ => rfl) pset

/-- The addresses are in the entries without their counts. -/
theorem pset_get_mac_uncounted (p : Pset) (id : U32) :
    pset_get_mac (uncounted p) id = pset_get_mac p id := by
  unfold pset_get_mac pset_find uncounted
  rw [List.find?_map, Option.map_map]
  rfl

theorem Unmoved.mac {n m : Node} (h : Unmoved n m) (id : U32) :
    pset_get_mac m.pset id = pset_get_mac n.pset id := by
  rcases h with ⟨timeout, pset, rfl, hpset⟩
  rw [← pset_get_mac_uncounted pset id, hpset, pset_get_mac_uncounted]

/-- What a node sends on of a data packet. -/
def forwarded (n : Node) (pkt : Packet) : List Packet :=
  if pkt.dst = n.me ∨ RtTable.rt_get_next n.me n.rt pkt.dst = 0 then []
  else match pset_get_mac n.pset (RtTable.rt_get_next n.me n.rt pkt.dst) with
    | some mac => [{ pkt with vh := { pkt.vh with dest_mac := mac } }]
    | none => []

namespace Vrr

/-- A data packet is sent on or taken in, and nothing else comes of it. -/
theorem vrr_rcv_data_run (n : Node) (skb : SkBuff) (hty : skb.pkt.vh.pkt_type = VRR_DATA) :
    Triple (fun s => s.node = n ∧ s.sent = []) (vrr_rcv skb)
      (fun _ s => s.node = heard n skb.pkt.src ∧ s.sent = forwarded n skb.pkt)
      (fun _ => False) := by
  have hfree : ∀ l, Triple (fun s => s.node = heard n skb.pkt.src ∧ s.sent = l)
      (kfree_skb .received) (fun _ s => s.node = heard n skb.pkt.src ∧ s.sent = l)
      (fun _ => False) := fun l => Triple.modify _ (fun _ hs => hs)
  have hmac : ∀ id, pset_get_mac (heard n skb.pkt.src).pset id = pset_get_mac n.pset id :=
    fun id => pset_get_mac_reset_fail_count n.pset skb.pkt.src id
  have hknown : ¬ VRR_NPTYPES ≤ skb.pkt.vh.pkt_type := by
    rw [hty]
    decide
  refine vrr_rcv_triple (I := fun s => s.node = heard n skb.pkt.src ∧ s.sent = [])
    (J := fun _ s => s.node = heard n skb.pkt.src ∧ s.sent = forwarded n skb.pkt) skb
    (fun h => absurd h hknown) (fun s hs => ⟨by rw [hs.1], hs.2⟩) (fun _ => ?_)
    (fun _ _ => hfree _) (fun _ hs => hs)
  have hfunc : vrr_rcvfunc skb = vrr_rcv_data skb := if_pos hty
  rw [hfunc]
  unfold vrr_rcv_data forwarded
  refine Triple.bind (Q := fun me s => (s.node = heard n skb.pkt.src ∧ s.sent = []) ∧
    me = heard n skb.pkt.src) (Triple.gets _ (fun _ hs => ⟨hs, hs.1⟩))
    (fun me => Triple.of_and (fun hme => ?_))
  rw [hme]
  refine Triple.ite _ (fun hdst => ?_) (fun hdst => ?_)
  · -- the packet is for this node
    have hlast : skb.pkt.dst = n.me := hdst
    rw [if_pos (Or.inl hlast)]
    cases vrr_find_sock (heard n skb.pkt.src).vrr_socks skb.pkt.src with
    | none => exact Triple.pure _ (fun _ hs => hs)
    | some sk =>
        refine Triple.bind (Q := fun _ s => s.node = heard n skb.pkt.src ∧ s.sent = [])
          (Triple.gets _ (fun _ hs => hs)) (fun ret => ?_)
        exact Triple.bind (hfree _) (fun _ => Triple.pure _ (fun _ hs => hs))
  · have hother : skb.pkt.dst ≠ n.me := hdst
    refine Triple.bind (Q := fun _ s => s.node = heard n skb.pkt.src ∧ s.sent = _) ?_
      (fun _ => Triple.pure _ (fun _ hs => hs))
    unfold vrr_forward
    refine Triple.bind (Q := fun nh s => (s.node = heard n skb.pkt.src ∧ s.sent = []) ∧
      nh = RtTable.rt_get_next n.me n.rt skb.pkt.dst) (fun s hs => ⟨hs, ?_⟩)
      (fun nh => Triple.of_and (fun hnh => ?_))
    · rw [hs.1]
      rfl
    refine Triple.bind (Q := fun me s => (s.node = heard n skb.pkt.src ∧ s.sent = []) ∧
      me = heard n skb.pkt.src) (Triple.gets _ (fun _ hs => ⟨hs, hs.1⟩))
      (fun me => Triple.of_and (fun hme => ?_))
    rw [hme, hnh, hmac]
    refine Triple.ite _ (fun h0 => ?_) (fun h0 => ?_)
    · rw [if_pos (Or.inr h0)]
      exact Triple.pure _ (fun _ hs => hs)
    · rw [if_neg (not_or.mpr ⟨hother, h0⟩)]
      cases pset_get_mac n.pset (RtTable.rt_get_next n.me n.rt skb.pkt.dst) with
      | none => exact Triple.pure _ (fun _ hs => hs)
      | some mac =>
          refine Triple.bind (Q := fun _ s => s.node = heard n skb.pkt.src ∧
            s.sent = [{ skb.pkt with vh := { skb.pkt.vh with dest_mac := mac } }])
            (Triple.modify _ (fun s hs => ⟨hs.1, by rw [hs.2]; rfl⟩)) (fun _ => ?_)
          exact Triple.bind (hfree _) (fun _ => Triple.pure _ (fun _ hs => hs))

/-- A message to another node goes to the next hop. -/
theorem vrr_sendmsg_run (n : Node) (d : U32) (m : List U8) (mac : MacAddr) (hd : d ≠ n.me)
    (h0 : RtTable.rt_get_next n.me n.rt d ≠ 0)
    (hmac : pset_get_mac n.pset (RtTable.rt_get_next n.me n.rt d) = some mac)
    (hlen : m.length < 2 ^ 31) :
    Triple (fun s => (s.node = n ∧ s.sent = []) ∧ ∀ i, s.kern.kmalloc i = true)
      (vrr_sendmsg ⟨some d, m⟩ true)
      (fun _ s => s.node = n ∧ s.sent = [data_packet n.version n.me d m.length mac m])
      (fun _ => False) := by
  have hmod : m.length % 2 ^ 32 = m.length := Nat.mod_eq_of_lt (by omega)
  have hto : Triple (fun s => (s.node = n ∧ s.sent = []) ∧ ∀ i, s.kern.kmalloc i = true)
      (vrr_sendmsg_mac d)
      (fun found s => ((s.node = n ∧ s.sent = []) ∧ ∀ i, s.kern.kmalloc i = true) ∧
        found = some mac)
      (fun _ => False) := by
    unfold vrr_sendmsg_mac
    refine Triple.bind (Q := fun me s => ((s.node = n ∧ s.sent = []) ∧
      ∀ i, s.kern.kmalloc i = true) ∧ me = n) (Triple.gets _ (fun _ hs => ⟨hs, hs.1.1⟩))
      (fun me => Triple.of_and (fun hme => ?_))
    rw [hme, if_pos hd]
    refine Triple.bind (Q := fun nh s => ((s.node = n ∧ s.sent = []) ∧
      ∀ i, s.kern.kmalloc i = true) ∧ nh = RtTable.rt_get_next n.me n.rt d) (fun s hs => ⟨hs, ?_⟩)
      (fun nh => Triple.of_and (fun hnh => ?_))
    · rw [hs.1.1]
    · rw [hnh, if_neg h0, hmac]
      exact Triple.pure _ (fun _ hs => ⟨hs, rfl⟩)
  have hcopy : memcpy_fromiovec m m.length true = pure (some m) := by
    unfold memcpy_fromiovec
    rw [if_neg (by omega), if_pos (Or.inr rfl), List.take_length]
  unfold vrr_sendmsg
  refine Triple.bind hto (fun found => Triple.of_and (fun hmac => ?_))
  rw [hmac]
  refine Triple.bind (Q := fun me s => ((s.node = n ∧ s.sent = []) ∧
    ∀ i, s.kern.kmalloc i = true) ∧ me = n) (Triple.gets _ (fun _ hs => ⟨hs, hs.1.1⟩))
    (fun me => Triple.of_and (fun hme => ?_))
  rw [hme]
  simp only [hmod, hcopy]
  refine Triple.bind (Q := fun skb s => (s.node = n ∧ s.sent = []) ∧ skb = true)
    (fun s hs => ⟨hs.1, hs.2 0⟩) (fun skb => Triple.of_and (fun hskb => ?_))
  rw [if_pos hskb, if_neg (by unfold VRR_SKB_RESERVE; omega)]
  refine Triple.pure_bind _ ?_
  refine Triple.bind (Q := fun _ s => s.node = n ∧
    s.sent = [data_packet n.version n.me d m.length mac m])
    (fun s hs => ⟨hs.1, congrArg (· ++ _) hs.2⟩) (fun _ => ?_)
  exact Triple.bind (Q := fun _ s => s.node = n ∧
    s.sent = [data_packet n.version n.me d m.length mac m])
    (Triple.modify _ (fun _ hs => hs)) (fun _ => Triple.pure _ (fun _ hs => hs))

end Vrr

/-- A delivery of a data packet. -/
theorem deliver_data (w : World) (a : Addresses) (seg : Segment) (f : Frame) (id : U32)
    (hty : f.pkt.vh.pkt_type = VRR_DATA) (hid : a.owner f.pkt.vh.dest_mac = some id) :
    seg.deliver w a f = some
      ⟨Function.update seg.nodes id (heard (seg.nodes id) f.pkt.src),
        seg.flight.erase f ++ (forwarded (seg.nodes id) f.pkt).map (Frame.mk (w.mac id)),
        seg.inbox ++ (socket_of (seg.nodes id) f.pkt).toList.map (fun sk => (id, sk, f.pkt)),
        seg.runs + 1⟩ := by
  unfold Segment.deliver
  rw [hid]
  exact Segment.run_of_triple _ _
    (Vrr.vrr_rcv_data_run (seg.nodes id) ⟨f.pkt, f.h_source, w.mac id⟩ hty) ⟨rfl, rfl⟩

/-- What a program will find at its socket: the node, the socket, who the
    message is from, the length it says it has, and what is in it. -/
structure Letter where
  id : U32
  sk : VrrSock
  src : U32
  len : Nat
  data : List U8

def letter (id : U32) (sk : VrrSock) (pkt : Packet) : Letter :=
  ⟨id, sk, pkt.src, msg_len pkt, pkt.data⟩

/-- What will come of a packet at its last node. -/
def arrival (nodes : U32 → Node) (pkt : Packet) : List Letter :=
  (vrr_find_sock (nodes pkt.dst).vrr_socks pkt.src).toList.map (fun sk => letter pkt.dst sk pkt)

/-- What will come of a call. -/
def SendCall.arrival (nodes : U32 → Node) (call : SendCall) : List Letter :=
  (vrr_find_sock (nodes call.dest).vrr_socks call.id).toList.map
    (fun sk => ⟨call.dest, sk, call.id, call.msg_iov.length % 2 ^ 16, call.msg_iov⟩)

/-- The packet of a call is what the call says. -/
theorem arrival_data_packet (nodes : U32 → Node) (version : U8) (mac : MacAddr) (call : SendCall) :
    arrival nodes (data_packet version call.id call.dest call.msg_iov.length mac call.msg_iov) =
      call.arrival nodes := by
  have hsrc : (data_packet version call.id call.dest call.msg_iov.length mac call.msg_iov).src =
      call.id := ntohl_htonl call.id
  have hdst : (data_packet version call.id call.dest call.msg_iov.length mac call.msg_iov).dst =
      call.dest := ntohl_htonl call.dest
  have hlen : msg_len (data_packet version call.id call.dest call.msg_iov.length mac call.msg_iov) =
      call.msg_iov.length % 2 ^ 16 := by
    unfold msg_len data_packet build_header
    simp only [ntohs_htons, BitVec.toNat_ofNat]
  unfold arrival SendCall.arrival letter
  rw [hsrc, hdst, hlen]
  rfl

section Paths

variable (w : World) (a : Addresses) (setups : List Setup) (adds : List Added)

/-- The nodes have the tables of the setups, and every two neighbours on one
    know each other's address. -/
structure Paved (nodes : U32 → Node) : Prop where
  tables : ∀ s ∈ setups, ∀ i, i < s.nodes.length → (nodes (s.hop i)).me = s.hop i ∧
    (nodes (s.hop i)).rt = tables_of adds (s.hop i) ∧ a.owner (w.mac (s.hop i)) = some (s.hop i)
  neighbours : ∀ s ∈ setups, ∀ i, i + 1 < s.nodes.length →
    pset_get_mac (nodes (s.hop i)).pset (s.hop (i + 1)) = some (w.mac (s.hop (i + 1))) ∧
      pset_get_mac (nodes (s.hop (i + 1))).pset (s.hop i) = some (w.mac (s.hop i))

/-- A data packet at a node, or on its way to one, that has a route for it. -/
def Underway (f : Frame) : Prop :=
  f.pkt.vh.pkt_type = VRR_DATA ∧ ∃ y, a.owner f.pkt.vh.dest_mac = some y ∧
    (tables_of adds y).routes f.pkt.dst ≠ []

/-- A call for another node, with a route for it, and not too long to be
    copied. -/
def Sendable (call : SendCall) : Prop :=
  call.id ≠ call.dest ∧ (tables_of adds call.id).routes call.dest ≠ [] ∧
    call.msg_iov.length < 2 ^ 31

/-- How far a frame has yet to go. One at its last node is as low as can be. -/
def height (f : Frame) : WithTop (WithBot (Nat ×ₗ Nat)) :=
  match a.owner f.pkt.vh.dest_mac with
  | none => ((⊥ : WithBot (Nat ×ₗ Nat)) : WithTop (WithBot (Nat ×ₗ Nat)))
  | some y => if y = f.pkt.dst then ((⊥ : WithBot (Nat ×ₗ Nat)) : WithTop (WithBot (Nat ×ₗ Nat)))
    else ((rank setups adds f.pkt.dst y : WithBot (Nat ×ₗ Nat)) : WithTop (WithBot (Nat ×ₗ Nat)))

/-- The frames in flight by what they have yet to go, and above them the calls. -/
def heights (x : Exchange) : Multiset (WithTop (WithBot (Nat ×ₗ Nat))) :=
  (↑(x.seg.flight.map (height a setups adds)) : Multiset _) + Multiset.replicate x.calls.length ⊤

/-- What the sockets have, and what is on its way to them. -/
def due (nodes : U32 → Node) (x : Exchange) : Multiset Letter :=
  (↑(x.seg.inbox.map (fun taken => letter taken.1 taken.2.1 taken.2.2)) : Multiset Letter) +
    (↑(x.seg.flight.flatMap (fun f => arrival nodes f.pkt)) : Multiset Letter) +
      (↑(x.calls.flatMap (SendCall.arrival nodes)) : Multiset Letter)

/-- The state between the actions of a schedule that began with `start`. -/
structure OnTheWay (start x : Exchange) : Prop where
  nodes : ∀ id, Unmoved (start.seg.nodes id) (x.seg.nodes id)
  flight : ∀ f ∈ x.seg.flight, Underway a adds f
  calls : ∀ call ∈ x.calls, Sendable adds call
  due : due start.seg.nodes x = due start.seg.nodes start

variable {w a setups adds}

theorem Paved.unmoved {nodes nodes' : U32 → Node} (h : Paved w a setups adds nodes)
    (hsame : ∀ id, Unmoved (nodes id) (nodes' id)) : Paved w a setups adds nodes' where
  tables := by
    intro s hs i hi
    rcases h.tables s hs i hi with ⟨hme, hrt, howner⟩
    rcases hsame (s.hop i) with ⟨timeout, pset, hnode, _⟩
    rw [hnode]
    exact ⟨hme, hrt, howner⟩
  neighbours := by
    intro s hs i hi
    rcases h.neighbours s hs i hi with ⟨hup, hdown⟩
    rw [(hsame (s.hop i)).mac, (hsame (s.hop (i + 1))).mac]
    exact ⟨hup, hdown⟩

/-- A node with a route knows itself, and its next hop. -/
theorem Paved.hop {nodes : U32 → Node} (h : Paved w a setups adds nodes)
    (hadds : Interleaving setups adds) (d y : U32) (hroutes : (tables_of adds y).routes d ≠ []) :
    (nodes y).me = y ∧ (y ≠ d → RtTable.rt_get_next (nodes y).me (nodes y).rt d ≠ 0 ∧
      pset_get_mac (nodes y).pset (RtTable.rt_get_next (nodes y).me (nodes y).rt d) =
        some (w.mac (next_hop (tables_of adds) d y)) ∧
      a.owner (w.mac (next_hop (tables_of adds) d y)) = some (next_hop (tables_of adds) d y)) := by
  rcases chosen_spec setups adds hadds d y hroutes with ⟨s, hs, i, hi, rfl, hd, hmax⟩
  rcases h.tables s hs i hi with ⟨hme, hrt, _⟩
  refine ⟨hme, fun hyd => ?_⟩
  rcases next_hop_step adds d (s.hop i) hyd s i hi rfl hd hmax with ⟨j, hj, hnext, hij⟩
  have hget : RtTable.rt_get_next (nodes (s.hop i)).me (nodes (s.hop i)).rt d = s.hop j := by
    rw [hme, hrt]
    exact hnext
  rw [hget, hnext]
  refine ⟨s.hop_ne_zero j hj, ?_, (h.tables s hs j hj).2.2⟩
  rcases hij with ⟨_, rfl⟩ | ⟨_, rfl⟩
  · exact (h.neighbours s hs i hj).1
  · exact (h.neighbours s hs j hi).2

/-- A node does with a data packet for `d` what its table says. -/
theorem Paved.forwarded {nodes : U32 → Node} (h : Paved w a setups adds nodes)
    (hadds : Interleaving setups adds) (pkt : Packet) (y : U32)
    (hroutes : (tables_of adds y).routes pkt.dst ≠ []) :
    AlpacaVrr.forwarded (nodes y) pkt = if y = pkt.dst then []
      else [{ pkt with vh :=
        { pkt.vh with dest_mac := w.mac (next_hop (tables_of adds) pkt.dst y) } }] := by
  rcases h.hop hadds pkt.dst y hroutes with ⟨hme, hnext⟩
  unfold AlpacaVrr.forwarded
  by_cases hy : y = pkt.dst
  · rw [if_pos hy, if_pos (Or.inl (hme.trans hy).symm)]
  · rcases hnext hy with ⟨h0, hmac, _⟩
    rw [if_neg hy, if_neg (not_or.mpr ⟨fun hd => hy (hme.symm.trans hd.symm), h0⟩), hmac]

/-- Nobody gets another socket. -/
theorem arrival_unmoved {nodes nodes' : U32 → Node} (hsame : ∀ id, Unmoved (nodes id) (nodes' id))
    (pkt : Packet) : arrival nodes' pkt = arrival nodes pkt := by
  unfold arrival
  rcases hsame pkt.dst with ⟨timeout, pset, hnode, _⟩
  rw [hnode]

/-- A hop leaves less to go. -/
theorem height_hop (hids : (setups.map Setup.path_id).Nodup) (hadds : Interleaving setups adds)
    (f g : Frame) (y : U32) (hf : a.owner f.pkt.vh.dest_mac = some y) (hy : y ≠ f.pkt.dst)
    (hroutes : (tables_of adds y).routes f.pkt.dst ≠ []) (hdst : g.pkt.dst = f.pkt.dst)
    (hg : a.owner g.pkt.vh.dest_mac = some (next_hop (tables_of adds) f.pkt.dst y)) :
    height a setups adds g < height a setups adds f := by
  unfold height
  simp only [hf, hg, hdst, if_neg hy]
  by_cases hlast : next_hop (tables_of adds) f.pkt.dst y = f.pkt.dst
  · rw [if_pos hlast, WithTop.coe_lt_coe]
    exact WithBot.bot_lt_coe _
  · rw [if_neg hlast, WithTop.coe_lt_coe, WithBot.coe_lt_coe]
    exact (rank_decreases setups hids adds hadds f.pkt.dst y hroutes hy).2 hlast

/-- What a node sends on has less to go, and may go on. -/
theorem sent_on {nodes : U32 → Node} (hpaved : Paved w a setups adds nodes)
    (hids : (setups.map Setup.path_id).Nodup) (hadds : Interleaving setups adds) (f : Frame)
    (y : U32) (hty : f.pkt.vh.pkt_type = VRR_DATA) (hf : a.owner f.pkt.vh.dest_mac = some y)
    (hroutes : (tables_of adds y).routes f.pkt.dst ≠ []) :
    ∀ g ∈ (forwarded (nodes y) f.pkt).map (Frame.mk (w.mac y)),
      Underway a adds g ∧ height a setups adds g < height a setups adds f := by
  intro g hg
  rw [hpaved.forwarded hadds f.pkt y hroutes] at hg
  by_cases hy : y = f.pkt.dst
  · rw [if_pos hy] at hg
    exact absurd hg List.not_mem_nil
  · rw [if_neg hy, List.map_singleton, List.mem_singleton] at hg
    rw [hg]
    have howner := ((hpaved.hop hadds f.pkt.dst y hroutes).2 hy).2.2
    exact ⟨⟨hty, _, howner, (rank_decreases setups hids adds hadds f.pkt.dst y hroutes hy).1⟩,
      height_hop hids hadds f _ y hf hy hroutes rfl howner⟩

/-- A packet is handed to a socket, or it is sent on and will be. -/
theorem taken_or_sent_on {nodes : U32 → Node} (hpaved : Paved w a setups adds nodes)
    (hadds : Interleaving setups adds) (f : Frame) (y : U32) (hty : f.pkt.vh.pkt_type = VRR_DATA)
    (hroutes : (tables_of adds y).routes f.pkt.dst ≠ []) :
    arrival nodes f.pkt = (socket_of (nodes y) f.pkt).toList.map (fun sk => letter y sk f.pkt) ++
      ((forwarded (nodes y) f.pkt).map (Frame.mk (w.mac y))).flatMap
        (fun g => arrival nodes g.pkt) := by
  have hme := (hpaved.hop hadds f.pkt.dst y hroutes).1
  rw [hpaved.forwarded hadds f.pkt y hroutes]
  unfold socket_of
  by_cases hy : y = f.pkt.dst
  · rw [if_pos hy, if_pos ⟨hty, hy.symm.trans hme.symm⟩, List.map_nil, List.flatMap_nil,
      List.append_nil, hy]
    rfl
  · rw [if_neg hy, if_neg (fun h => hy (hme.symm.trans h.2.symm)), List.map_singleton,
      List.flatMap_singleton]
    rfl

/-- A delivery. -/
theorem OnTheWay.deliver {start x : Exchange} (h : OnTheWay a adds start x)
    (hpaved : Paved w a setups adds start.seg.nodes) (hids : (setups.map Setup.path_id).Nodup)
    (hadds : Interleaving setups adds) (f : Frame) (hf : f ∈ x.seg.flight) :
    ∃ t, x.act w a (.vrr_rcv f) = some t ∧ OnTheWay a adds start t ∧
      Relation.CutExpand (· < ·) (heights a setups adds t) (heights a setups adds x) := by
  rcases h.flight f hf with ⟨hty, y, howner, hroutes⟩
  have hnow := hpaved.unmoved h.nodes
  have hon := sent_on hnow hids hadds f y hty howner hroutes
  have htaken := taken_or_sent_on hnow hadds f y hty hroutes
  simp only [arrival_unmoved h.nodes] at htaken
  refine ⟨_, congrArg (Option.map (Exchange.mk x.calls)) (deliver_data w a x.seg f y hty howner),
    ⟨fun id => ?_, fun g hg => ?_, h.calls, ?_⟩, ?_⟩
  · change Unmoved _ (Function.update x.seg.nodes y (heard (x.seg.nodes y) f.pkt.src) id)
    by_cases hid : id = y
    · rw [hid, Function.update_self]
      exact (h.nodes y).heard f.pkt.src
    · rw [Function.update_of_ne hid]
      exact h.nodes id
  · rcases List.mem_append.mp hg with hold | hnew
    · exact h.flight g (List.mem_of_mem_erase hold)
    · exact (hon g hnew).1
  · rw [← h.due]
    unfold AlpacaVrr.due
    simp only [List.map_append, List.flatMap_append, List.map_map, ← Multiset.coe_add]
    rw [coe_flatMap_erase hf, htaken, ← Multiset.coe_add]
    simp only [Function.comp_def]
    ac_rfl
  · unfold heights
    refine cut_of_replaced (height a setups adds f)
      ((↑((x.seg.flight.erase f).map (height a setups adds)) : Multiset _) +
        Multiset.replicate x.calls.length ⊤)
      (↑(((forwarded (x.seg.nodes y) f.pkt).map (Frame.mk (w.mac y))).map
        (height a setups adds))) ?_ ?_ ?_
    · rw [coe_map_erase hf, Multiset.cons_add]
    · simp only [List.map_append, ← Multiset.coe_add]
      ac_rfl
    · intro b hb
      rw [Multiset.mem_coe, List.mem_map] at hb
      rcases hb with ⟨g, hg, rfl⟩
      exact (hon g hg).2

/-- What a call puts on the wire. -/
def first_frame (w : World) (adds : List Added) (version : U8) (call : SendCall) : Frame :=
  ⟨w.mac call.id, data_packet version call.id call.dest call.msg_iov.length
    (w.mac (next_hop (tables_of adds) call.dest call.id)) call.msg_iov⟩

/-- A call. -/
theorem OnTheWay.send {start x : Exchange} (h : OnTheWay a adds start x) (hw : w.Reliable)
    (hpaved : Paved w a setups adds start.seg.nodes) (hids : (setups.map Setup.path_id).Nodup)
    (hadds : Interleaving setups adds) (call : SendCall) (hcall : call ∈ x.calls) :
    ∃ t, x.act w a (.vrr_sendmsg call) = some t ∧ OnTheWay a adds start t ∧
      Relation.CutExpand (· < ·) (heights a setups adds t) (heights a setups adds x) := by
  rcases h.calls call hcall with ⟨hother, hroutes, hlen⟩
  have hnow := hpaved.unmoved h.nodes
  rcases hnow.hop hadds call.dest call.id hroutes with ⟨hme, hnext⟩
  rcases hnext hother with ⟨h0, hmac, howner⟩
  have hrun := Segment.run_of_triple x.seg call.id
    (Vrr.vrr_sendmsg_run (x.seg.nodes call.id) call.dest call.msg_iov _
      (fun hd => hother (hme.symm.trans hd.symm)) h0 hmac hlen)
    ⟨⟨rfl, rfl⟩, hw x.seg.runs⟩
  rw [Function.update_eq_self, hme, List.map_singleton] at hrun
  let f := first_frame w adds (x.seg.nodes call.id).version call
  have hdst : f.pkt.dst = call.dest := ntohl_htonl call.dest
  have harrival : arrival start.seg.nodes f.pkt = call.arrival start.seg.nodes :=
    arrival_data_packet start.seg.nodes _ _ call
  refine ⟨⟨x.calls.erase call, ⟨x.seg.nodes, x.seg.flight ++ [f], x.seg.inbox, x.seg.runs + 1⟩⟩,
    congrArg (Option.map (Exchange.mk (x.calls.erase call))) hrun,
    ⟨h.nodes, fun g hg => ?_, fun c hc => h.calls c (List.mem_of_mem_erase hc), ?_⟩, ?_⟩
  · rcases List.mem_append.mp hg with hold | hnew
    · exact h.flight g hold
    · rw [List.mem_singleton] at hnew
      rw [hnew]
      refine ⟨rfl, _, howner, ?_⟩
      rw [hdst]
      exact (rank_decreases setups hids adds hadds call.dest call.id hroutes hother).1
  · rw [← h.due]
    unfold AlpacaVrr.due
    simp only [List.flatMap_append, ← Multiset.coe_add, List.flatMap_singleton, harrival]
    rw [coe_flatMap_erase hcall]
    ac_rfl
  · unfold heights
    refine cut_of_replaced ⊤
      ((↑(x.seg.flight.map (height a setups adds)) : Multiset _) +
        Multiset.replicate (x.calls.erase call).length ⊤)
      (↑([f].map (height a setups adds))) ?_ ?_ ?_
    · rw [← Multiset.add_cons, ← Multiset.replicate_succ, List.length_erase_add_one hcall]
    · simp only [List.map_append, ← Multiset.coe_add]
      ac_rfl
    · -- whatever is in flight is lower than a call
      intro b hb
      rw [Multiset.mem_coe, List.map_singleton, List.mem_singleton] at hb
      rw [hb]
      unfold height
      split
      · exact WithTop.coe_lt_top _
      · split_ifs
        · exact WithTop.coe_lt_top _
        · exact WithTop.coe_lt_top _

/-- Every schedule of the calls and the deliveries comes to its end. Then all
    messages have been handed to the sockets that are there for them, as they
    were sent and once each, and the nodes have only heard of each other. -/
theorem messages_delivered (hw : w.Reliable) (hids : (setups.map Setup.path_id).Nodup)
    (hadds : Interleaving setups adds) (start : Exchange)
    (hpaved : Paved w a setups adds start.seg.nodes)
    (hflight : ∀ f ∈ start.seg.flight, Underway a adds f)
    (hcalls : ∀ call ∈ start.calls, Sendable adds call) :
    Settles (Exchange.enabled a) (Exchange.act w a)
      (fun t => t.calls = [] ∧ t.seg.flight = [] ∧
        (∀ id, Unmoved (start.seg.nodes id) (t.seg.nodes id)) ∧
        (t.seg.inbox.map (fun taken => letter taken.1 taken.2.1 taken.2.2)).Perm
          (start.seg.inbox.map (fun taken => letter taken.1 taken.2.1 taken.2.2) ++
            start.seg.flight.flatMap (fun f => arrival start.seg.nodes f.pkt) ++
            start.calls.flatMap (SendCall.arrival start.seg.nodes))) start := by
  refine settles_of_cut (heights a setups adds) (· < ·) wellFounded_lt (OnTheWay a adds start)
    (fun t ht hquiet => ?_) (fun x i hx hi => ?_) start
    ⟨fun id => Unmoved.refl _, hflight, hcalls, rfl⟩
  · have hno_calls : t.calls = [] :=
      List.eq_nil_iff_forall_not_mem.mpr (fun call hcall => hquiet (.vrr_sendmsg call) hcall)
    have hno_flight : t.seg.flight = [] := by
      refine List.eq_nil_iff_forall_not_mem.mpr (fun f hf => hquiet (.vrr_rcv f) ⟨hf, ?_⟩)
      rcases ht.flight f hf with ⟨_, y, howner, _⟩
      rw [howner]
      rfl
    refine ⟨hno_calls, hno_flight, ht.nodes, Multiset.coe_eq_coe.mp ?_⟩
    have hdue := ht.due
    unfold due at hdue
    rw [hno_calls, hno_flight] at hdue
    rw [← Multiset.coe_add, ← Multiset.coe_add, ← hdue]
    simp only [List.flatMap_nil, Multiset.coe_nil, add_zero]
  · cases i with
    | vrr_sendmsg call => exact hx.send hw hpaved hids hadds call hi
    | vrr_rcv f => exact hx.deliver hpaved hids hadds f hi.1

end Paths

/-- The nodes 1, 2 and 3 with the path of `three_nodes` between them, and a
    socket at either end for the other. -/
def paved_nodes (id : U32) : Node :=
  { vrr_init id (fun _ => 0) (fun _ => 0) with
    rt := tables_of three_adds id
    pset := (if id = 2 then [1, 3] else [2]).map (fun x => ⟨x, .linked, 1, x.setWidth 48, 0⟩)
    vrr_socks := vrr_hash_sock (fun _ => []) (if id = 1 then ⟨0, 3⟩ else ⟨0, 1⟩) }

def paved_world : World := ⟨fun _ => Kernel.calm, fun id => id.setWidth 48⟩

/-- A message each way, and an empty one. -/
def paved_exchange : Exchange :=
  ⟨[⟨1, 3, [4, 5]⟩, ⟨3, 1, [6]⟩, ⟨1, 3, []⟩], ⟨paved_nodes, [], [], 0⟩⟩

theorem messages_delivered_three :
    Settles (Exchange.enabled id_addresses) (Exchange.act paved_world id_addresses)
      (fun t => t.calls = [] ∧ t.seg.flight = [] ∧
        (∀ id, Unmoved (paved_nodes id) (t.seg.nodes id)) ∧
        (t.seg.inbox.map (fun taken => letter taken.1 taken.2.1 taken.2.2)).Perm
          [⟨3, ⟨0, 1⟩, 1, 2, [4, 5]⟩, ⟨1, ⟨0, 3⟩, 3, 1, [6]⟩, ⟨3, ⟨0, 1⟩, 1, 0, []⟩])
      paved_exchange := by
  have hadds : Interleaving [three_nodes] three_adds := by
    have hcomm : ([(three_nodes, 2)] ++ [(three_nodes, 0), (three_nodes, 1)]).Perm
        ([(three_nodes, 0), (three_nodes, 1)] ++ [(three_nodes, 2)]) := List.perm_append_comm
    exact hcomm
  have hpaved : Paved paved_world id_addresses [three_nodes] three_adds paved_nodes := by
    have howner : ∀ i, i < 3 → id_addresses.owner (paved_world.mac (three_nodes.hop i)) =
        some (three_nodes.hop i) := by
      decide
    have hmac : ∀ i, i < 2 →
        pset_get_mac (paved_nodes (three_nodes.hop i)).pset (three_nodes.hop (i + 1)) =
          some (paved_world.mac (three_nodes.hop (i + 1))) ∧
        pset_get_mac (paved_nodes (three_nodes.hop (i + 1))).pset (three_nodes.hop i) =
          some (paved_world.mac (three_nodes.hop i)) := by
      decide +kernel
    refine ⟨fun s hs i hi => ?_, fun s hs i hi => ?_⟩
    · rw [List.mem_singleton] at hs
      subst hs
      exact ⟨rfl, rfl, howner i hi⟩
    · rw [List.mem_singleton] at hs
      subst hs
      exact hmac i (Nat.lt_of_succ_lt_succ hi)
  have hroutes : ∀ i, i < 3 → ∀ d, (d = 1 ∨ d = 3) →
      (tables_of three_adds (three_nodes.hop i)).routes d ≠ [] := by
    intro i hi d hd
    refine List.ne_nil_of_mem (a := three_nodes.entry i) ?_
    exact (mem_routes_iff [three_nodes] three_adds hadds d _ _).mpr
      ⟨three_nodes, List.mem_singleton_self _, i, hi, rfl, rfl, hd⟩
  have hids : ([three_nodes].map Setup.path_id).Nodup := List.nodup_singleton _
  refine messages_delivered (fun _ _ => rfl) hids hadds paved_exchange hpaved
    (fun f hf => absurd hf List.not_mem_nil) (fun call hcall => ?_)
  rcases List.mem_cons.mp hcall with rfl | hcall
  · exact ⟨by decide, hroutes 0 (by decide) 3 (Or.inr rfl), by decide⟩
  · rcases List.mem_cons.mp hcall with rfl | hcall
    · exact ⟨by decide, hroutes 2 (by decide) 1 (Or.inl rfl), by decide⟩
    · rw [List.mem_singleton] at hcall
      rw [hcall]
      exact ⟨by decide, hroutes 0 (by decide) 3 (Or.inr rfl), by decide⟩

end AlpacaVrr
