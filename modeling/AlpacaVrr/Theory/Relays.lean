import AlpacaVrr.Core.Ether
import AlpacaVrr.Theory.Emission
import AlpacaVrr.Theory.Provenance

/-!
# Packets That Travel

What arrives of a request, a setup or a failure, however many nodes it has come
through, and what a path has behind it.

A request travels as it is. A setup and a failure are taken apart and built
again at every hop. The size of the vset is checked and written again, the ids
are copied to a buffer and from there to the next packet, and the header is a
new one. Still nothing of it changes but the address: any of these packets that
a node emits has been emitted with the same ids and the same payload by the
node that it says it is from. So no node can be made to say something in the
name of another one.

A path is only laid on request. Every route that a node files belongs to a path
that its first node has filed, and this node has received a request from the
last one, which that one has sent.

The packets of these types that arrive are packets that some node has emitted,
of a length that fits in a word. They may be lost, doubled and delayed, and
arrive anywhere. Packets of the other types may hold anything.

## Main definitions

* `Travels`: The types that are in question.
* `Built`: The payload is that of a sender.
* `Same`, `Sourced`: The packet is its source's own.
* `Begun`: The route of a setup at the first node of its path.
* `AskedBy`: The request that a path is laid on.

## Theorems

* `travels_of_emission`: What a node emits is its own, or what it has received.
* `relays_faithful`: Every packet that travels is its source's own.
* `added_of_step`, `setups_of_step`: Where routes and setups come from.
* `paths_requested`: Every path is requested.
-/

namespace AlpacaVrr

open FaultState

/-- The types of the packets that are sent on under the name of their source,
    other than data. -/
def Travels (pkt_type : U8) : Prop :=
  pkt_type = VRR_SETUP_REQ ∨ pkt_type = VRR_SETUP ∨ pkt_type = VRR_SETUP_FAIL

theorem not_travels_teardown : ¬ Travels VRR_TEARDOWN := by
  unfold Travels
  decide

theorem not_travels_hello : ¬ Travels VRR_HELLO := by
  unfold Travels
  decide

/-- The words in front of the vset. -/
def front_length (pkt_type : U8) : Nat := if pkt_type = VRR_SETUP then 2 else 1

/-- The payload is one that a sender builds. -/
def Built (p : Packet) : Prop :=
  ∃ front ids, front.length = front_length p.vh.pkt_type ∧ p.data = payload (vset_data front ids)

/-- The packets differ in nothing but the version and the address. -/
structure Same (q p : Packet) : Prop where
  pkt_type : q.vh.pkt_type = p.vh.pkt_type
  src : q.src = p.src
  dst : q.dst = p.dst
  data : q.data = p.data

theorem Same.trans {p q r : Packet} (h : Same p q) (h' : Same q r) : Same p r :=
  ⟨h.pkt_type.trans h'.pkt_type, h.src.trans h'.src, h.dst.trans h'.dst, h.data.trans h'.data⟩

theorem Same.built {q p : Packet} (h : Same q p) (hq : Built q) : Built p := by
  rcases hq with ⟨front, ids, hlen, hdata⟩
  exact ⟨front, ids, by rw [hlen, h.pkt_type], by rw [← h.data, hdata]⟩

/-- The fields that are read of a payload of a sender are the ones it has. -/
theorem vset_data_of_read {p : Packet} {front ids front' ids' : List U32} (size : U32)
    (hdata : p.data = payload (vset_data front ids)) (hlen : front'.length = front.length)
    (hfits : p.data.length < 2 ^ 32)
    (hfront : ∀ i w, front'[i]? = some w → Readable p (vrr_header_size + 4 * i) w)
    (hsize : Readable p (vrr_header_size + 4 * front.length) size)
    (hids : Legible p (vrr_header_size + 4 * (front.length + 1)) size.toNat ids') :
    vset_data front' ids' = vset_data front ids := by
  have hp : p = ⟨p.vh, payload (vset_data front ids)⟩ := by
    rw [← hdata]
  have hword : ∀ i w, (vset_data front ids)[i]? = some w →
      word p (vrr_header_size + 4 * i) = some w := by
    intro i w hw
    rw [hp]
    exact word_payload _ _ i w hw
  have heq : front' = front := by
    refine List.ext_getElem hlen (fun i h1 h2 => ?_)
    refine (hfront i front'[i] (List.getElem?_eq_getElem h1) _ (hword i front[i] ?_)).symm
    rw [vset_data, List.getElem?_append_left h2]
    exact List.getElem?_eq_getElem h2
  -- the length of a packet keeps the size from being cut off
  have hwords : p.data.length = 4 * (front.length + 1 + ids.length) := by
    rw [hdata, payload, length_store_all, List.length_map, vset_data, List.length_append,
      List.length_cons]
    omega
  have hsize' : size.toNat = ids.length := by
    have hread := hsize _ (hword front.length (BitVec.ofNat 32 ids.length) (by
      rw [vset_data, List.getElem?_append_right (Nat.le_refl _), Nat.sub_self]
      rfl))
    rw [← hread, BitVec.toNat_ofNat]
    exact Nat.mod_eq_of_lt (by omega)
  have hvset : words p (vrr_header_size + 4 * (front.length + 1)) size.toNat = some ids := by
    have happ := words_append p.vh (front ++ [BitVec.ofNat 32 ids.length]) ids []
    rw [List.length_append, List.append_nil, List.append_assoc, List.singleton_append] at happ
    rw [hp, hsize']
    exact happ
  rw [heq, ← hids.words ids hvset]

section Emitting

variable {n : Node} {e : Event} {p : Packet}

/-- A packet built by a node is in its name. -/
theorem built_build_packet (version pkt_type : U8) (src dst : U32) (mac : MacAddr)
    (front ids : List U32) (hlen : front.length = front_length pkt_type) :
    Built (build_packet version pkt_type src dst mac (vset_data front ids)) :=
  ⟨front, ids, hlen, rfl⟩

/-- A packet taken apart and built again is the same. -/
theorem same_build_packet (version : U8) (mac : MacAddr) {q : Packet} {front ids : List U32}
    (hdata : q.data = payload (vset_data front ids)) :
    Same q (build_packet version q.vh.pkt_type q.src q.dst mac (vset_data front ids)) :=
  ⟨rfl, (ntohl_htonl q.src).symm, (ntohl_htonl q.dst).symm, hdata⟩

/-- A setup that goes on is the one that came. -/
theorem same_of_setup {q : Packet} {version : U8} {mac : MacAddr} {pid proxy size : U32}
    {ids : List U32} (hty : q.vh.pkt_type = VRR_SETUP)
    (hread : Readable q vrr_header_size pid ∧ Readable q (vrr_header_size + 4) proxy ∧
      Readable q (vrr_header_size + 8) size)
    (hids : Legible q (vrr_header_size + 12) size.toNat ids) (hbuilt : Built q)
    (hfits : q.data.length < 2 ^ 32) :
    Same q (build_packet version VRR_SETUP q.src q.dst mac (vset_data [pid, proxy] ids)) := by
  rcases hbuilt with ⟨front, ids', hlen, hdata⟩
  rw [hty] at hlen
  have hlen : front.length = 2 := hlen
  have hall : vset_data [pid, proxy] ids = vset_data front ids' := by
    refine vset_data_of_read size hdata hlen.symm hfits (fun i w hw => ?_) ?_ ?_
    · rcases i with _ | _ | i
      · rw [← Option.some.inj hw]
        exact hread.1
      · rw [← Option.some.inj hw]
        exact hread.2.1
      · cases hw
    · rw [hlen]
      exact hread.2.2
    · rw [hlen]
      exact hids
  rw [← hty]
  exact same_build_packet _ _ (hdata.trans (congrArg payload hall.symm))

/-- And so is a failure. -/
theorem same_of_setup_fail {q : Packet} {version : U8} {mac : MacAddr} {proxy size : U32}
    {ids : List U32} (hty : q.vh.pkt_type = VRR_SETUP_FAIL)
    (hread : Readable q vrr_header_size proxy ∧ Readable q (vrr_header_size + 4) size)
    (hids : Legible q (vrr_header_size + 8) size.toNat ids) (hbuilt : Built q)
    (hfits : q.data.length < 2 ^ 32) :
    Same q (build_packet version VRR_SETUP_FAIL q.src q.dst mac (vset_data [proxy] ids)) := by
  rcases hbuilt with ⟨front, ids', hlen, hdata⟩
  rw [hty] at hlen
  have hlen : front.length = 1 := hlen
  have hall : vset_data [proxy] ids = vset_data front ids' := by
    refine vset_data_of_read size hdata hlen.symm hfits (fun i w hw => ?_) ?_ ?_
    · rcases i with _ | i
      · rw [← Option.some.inj hw]
        exact hread.1
      · cases hw
    · rw [hlen]
      exact hread.2
    · rw [hlen]
      exact hids
  rw [← hty]
  exact same_build_packet _ _ (hdata.trans (congrArg payload hall.symm))

/-- What travels from a node is its own, or what it has received. -/
theorem travels_of_emission (h : Emission n e p) (hty : Travels p.vh.pkt_type) :
    (p.src = n.me ∧ Built p) ∨ ∃ skb, e = .vrr_rcv skb ∧ Travels skb.pkt.vh.pkt_type ∧
      (Built skb.pkt → skb.pkt.data.length < 2 ^ 32 → Same skb.pkt p) := by
  have hown : ∀ (pkt_type : U8) (dst : U32) (mac : MacAddr) (front ids : List U32),
      front.length = front_length pkt_type →
      (build_packet n.version pkt_type n.me dst mac (vset_data front ids)).src = n.me ∧
        Built (build_packet n.version pkt_type n.me dst mac (vset_data front ids)) :=
    fun pkt_type dst mac front ids hlen =>
      ⟨ntohl_htonl n.me, built_build_packet n.version pkt_type n.me dst mac front ids hlen⟩
  cases h with
  | reply skb p h =>
      cases h with
      | forwarded hop mac hty' hmac =>
          exact Or.inr ⟨skb, rfl, hty, fun _ _ => ⟨rfl, rfl, rfl, rfl⟩⟩
      | requested => exact Or.inl (hown _ _ _ _ _ rfl)
      | answered => exact Or.inl (hown _ _ _ _ _ rfl)
      | refused => exact Or.inl (hown _ _ _ _ _ rfl)
      | setup pid proxy size hop mac ids hty' hread hids hmac =>
          exact Or.inr ⟨skb, rfl, Or.inr (Or.inl hty'), same_of_setup hty' hread hids⟩
      | setup_fail proxy size hop mac ids hty' hread hids hmac =>
          exact Or.inr ⟨skb, rfl, Or.inr (Or.inr hty'), same_of_setup_fail hty' hread hids⟩
      | torn => exact absurd hty not_travels_teardown
  | join => exact Or.inl (hown _ _ _ _ _ rfl)
  | hello => exact absurd hty not_travels_hello

end Emitting

/-- A packet that travels has been emitted, and its length is one of a packet
    buffer. -/
def TravelSent (net : Ether) (_ : U32) (skb : SkBuff) : Prop :=
  Travels skb.pkt.vh.pkt_type → skb.pkt.data.length < 2 ^ 32 ∧ ∃ x, net.Emitted x skb.pkt

/-- The source of the packet has emitted it, to some address. -/
def Sourced (net : Ether) (p : Packet) : Prop := ∃ q, net.Emitted p.src q ∧ Same q p

theorem Sourced.same {net : Ether} {q p : Packet} (h : Sourced net q) (hsame : Same q p) :
    Sourced net p := by
  rcases h with ⟨r, hr, hrq⟩
  exact ⟨r, hsame.src ▸ hr, hrq.trans hsame⟩

/-- What a node has emitted that travels is built like that and its source's
    own. -/
def Faithful (net : Ether) (x : U32) (s : Sys) : Prop :=
  s.node.me = x ∧ ∀ p ∈ s.sent, Travels p.vh.pkt_type → Built p ∧ Sourced net p

theorem Sourced.step {net net' : Ether} {i : U32 × Event × Kernel} {p : Packet}
    (h : Ether.Step TravelSent net i net') (hp : Sourced net p) : Sourced net' p := by
  rcases hp with ⟨q, hq, hsame⟩
  exact ⟨q, (Ether.records_grow h p.src).1 q hq, hsame⟩

/-- The state of the node at which the event was. -/
theorem Ether.sys_of_step {arrives : Ether → U32 → SkBuff → Prop} {net net' : Ether}
    {i : U32 × Event × Kernel} (h : Ether.Step arrives net i net') :
    AlpacaVrr.Step (net.sys i.1) i.2 (net'.sys i.1) := by
  rcases h with ⟨_, t, ht, rfl⟩
  simp only [Function.update_self]
  exact ht

theorem faithful_step {net net' : Ether} {i : U32 × Event × Kernel}
    (h : Ether.Step TravelSent net i net') (hall : ∀ x, Faithful net x (net.sys x)) :
    ∀ x, Faithful net' x (net'.sys x) := by
  refine Ether.local_invariant Faithful net net' i h (fun x hx => ⟨hx.1, fun p hp hty => ?_⟩)
    (fun hnew => ?_) hall
  · exact ⟨(hx.2 p hp hty).1, (hx.2 p hp hty).2.step h⟩
  have hstep := Ether.sys_of_step h
  have hme := (step_me hstep).trans (hnew i.1).1
  refine ⟨hme, fun p hp hty => ?_⟩
  obtain ⟨ps, hgrown, _, hps⟩ := step_emits hstep
  have hemitted : net'.Emitted i.1 p := hp
  rw [hgrown] at hp
  rcases List.mem_append.mp hp with hp | hp
  · exact (hnew i.1).2 p hp hty
  rcases travels_of_emission (hps p hp) hty with ⟨hsrc, hbuilt⟩ | ⟨skb, he, hty', hsame⟩
  · refine ⟨hbuilt, p, ?_, ⟨rfl, rfl, rfl, rfl⟩⟩
    rw [hsrc, (hnew i.1).1]
    exact hemitted
  · -- the packet received is in the record of some node
    rcases h.1 skb he hty' with ⟨hfits, y, hy⟩
    rcases (hall y).2 skb.pkt hy hty' with ⟨hbuilt, hsource⟩
    have hp := hsame hbuilt hfits
    exact ⟨hp.built hbuilt, (hsource.step h).same hp⟩

/-- In every run of every network a request, a setup or a failure that a node
    emits has been emitted by the node that it says it is from, with the same
    destination and the same payload. -/
theorem relays_faithful (g : U32 → Nat → U32) (gm : U32 → Nat → MacAddr) (k : U32 → Kernel)
    (net : Ether) (hrun : Reach (Ether.Step TravelSent) (Ether.boot g gm k) net) (x : U32)
    (p : Packet) (hp : net.Emitted x p) (hty : Travels p.vh.pkt_type) :
    ∃ q, net.Emitted p.src q ∧ q.vh.pkt_type = p.vh.pkt_type ∧ q.src = p.src ∧ q.dst = p.dst ∧
      q.data = p.data := by
  have hinv := hrun.invariant (fun net => ∀ x, Faithful net x (net.sys x))
    (fun x => ⟨rfl, fun p hp => absurd hp List.not_mem_nil⟩)
    (fun u i v hu hstep => faithful_step hstep hu)
  rcases ((hinv x).2 p hp hty).2 with ⟨q, hq, hsame⟩
  exact ⟨q, hq, hsame.pkt_type, hsame.src, hsame.dst, hsame.data⟩

/-- Node 1 hears the active node 2 and asks it for its place, and node 2 hears
    node 1 and answers with a setup. -/
def joining_events : List (U32 × Event × Kernel) :=
  [(1, .vrr_rcv (frame 2 VRR_HELLO 2 0 [1, 0, 0, 1, 1]), Kernel.calm),
    (1, .pset_update_handler, Kernel.calm),
    (2, .vrr_rcv (frame 1 VRR_HELLO 1 0 [0, 0, 0, 1, 2]), Kernel.calm),
    (2, .pset_update_handler, Kernel.calm),
    (2, .vrr_rcv ⟨build_packet 1 VRR_SETUP_REQ 1 1 2 [2, 0], 1, 0⟩, Kernel.calm),
    (1, .vrr_rcv ⟨build_packet 1 VRR_SETUP 2 1 1 [0, 2, 0], 2, 0⟩, Kernel.calm)]

/-- Node 9 gets a path from node 2 in this way. Then node 1 joins at node 9, which
    tells it of node 2. The request of node 1 for node 2 goes by way of node 9,
    and so does the setup that answers it. -/
def relaying_events : List (U32 × Event × Kernel) :=
  [(9, .vrr_rcv (frame 2 VRR_HELLO 2 0 [1, 0, 0, 1, 9]), Kernel.calm),
    (9, .pset_update_handler, Kernel.calm),
    (2, .vrr_rcv (frame 9 VRR_HELLO 9 0 [0, 0, 0, 1, 2]), Kernel.calm),
    (2, .pset_update_handler, Kernel.calm),
    (2, .vrr_rcv ⟨build_packet 1 VRR_SETUP_REQ 9 9 2 [2, 0], 9, 0⟩,
      { Kernel.calm with random := fun _ => 5 }),
    (9, .vrr_rcv ⟨build_packet 1 VRR_SETUP 2 9 9 [5, 2, 0], 2, 0⟩, Kernel.calm),
    (1, .vrr_rcv (frame 9 VRR_HELLO 9 0 [1, 0, 0, 1, 1]), Kernel.calm),
    (1, .pset_update_handler, Kernel.calm),
    (9, .vrr_rcv (frame 1 VRR_HELLO 1 0 [0, 0, 0, 1, 9]), Kernel.calm),
    (9, .pset_update_handler, Kernel.calm),
    (9, .vrr_rcv ⟨build_packet 1 VRR_SETUP_REQ 1 1 9 [9, 0], 1, 0⟩, Kernel.calm),
    (1, .vrr_rcv ⟨build_packet 1 VRR_SETUP 9 1 1 [0, 9, 1, 2], 9, 0⟩, Kernel.calm),
    (9, .vrr_rcv ⟨build_packet 1 VRR_SETUP_REQ 1 2 9 [9, 0], 1, 0⟩, Kernel.calm),
    (2, .vrr_rcv ⟨build_packet 1 VRR_SETUP_REQ 1 2 2 [9, 0], 9, 0⟩, Kernel.calm),
    (9, .vrr_rcv ⟨build_packet 1 VRR_SETUP 2 1 9 [0, 9, 1, 9], 2, 0⟩, Kernel.calm)]

/-- What these events may deliver: hellos, and packets that one of the nodes has
    sent. -/
def sent_by (ids : List U32) (net : Ether) (_ : U32) (skb : SkBuff) : Bool :=
  decide (skb.pkt.vh.pkt_type = VRR_HELLO ∨ skb.pkt.data.length < 2 ^ 32 ∧
    ids.any (fun x => decide (skb.pkt ∈ (net.sys x).sent)) = true)

theorem travelSent_of_sent_by (ids : List U32) (net : Ether) (id : U32) (skb : SkBuff)
    (h : sent_by ids net id skb = true) : TravelSent net id skb := by
  intro hty
  rcases of_decide_eq_true h with hhello | ⟨hfits, hany⟩
  · rw [hhello] at hty
    exact absurd hty not_travels_hello
  · obtain ⟨x, _, hx⟩ := List.any_eq_true.mp hany
    have hsent : skb.pkt ∈ (net.sys x).sent := of_decide_eq_true hx
    exact ⟨hfits, x, hsent⟩

/-- The setup that node 9 passes on to node 1 in that run is node 2's own. -/
theorem relays_faithful_two :
    ∃ net, Reach (Ether.Step TravelSent) (Ether.boot (fun _ _ => 0) (fun _ _ => 0)
      (fun _ => Kernel.calm)) net ∧ ∃ p, net.Emitted 9 p ∧ p.vh.pkt_type = VRR_SETUP ∧ p.src = 2 ∧
      p.dst = 1 ∧ ∃ q, net.Emitted p.src q ∧ q.vh.pkt_type = p.vh.pkt_type ∧ q.src = p.src ∧
        q.dst = p.dst ∧ q.data = p.data := by
  have heval : (Ether.run (sent_by [1, 2, 9]) (Ether.boot (fun _ _ => 0) (fun _ _ => 0)
      (fun _ => Kernel.calm)) relaying_events).any (fun net =>
        decide (build_packet 1 VRR_SETUP 2 1 1 [0, 9, 1, 9] ∈ (net.sys 9).sent)) = true := by
    decide +kernel
  obtain ⟨net, hnet, hsent⟩ := (Option.any_eq_true _ _).mp heval
  have hreach := Ether.reach_run (travelSent_of_sent_by _) _ _ net _ Reach.refl hnet
  have hmem : build_packet 1 VRR_SETUP 2 1 1 [0, 9, 1, 9] ∈ (net.sys 9).sent :=
    of_decide_eq_true hsent
  have hp : net.Emitted 9 (build_packet 1 VRR_SETUP 2 1 1 [0, 9, 1, 9]) := hmem
  exact ⟨net, hreach, _, hp, rfl, rfl, rfl, relays_faithful (fun _ _ => 0) (fun _ _ => 0)
    (fun _ => Kernel.calm) net hreach 9 _ hp (Or.inr (Or.inl rfl))⟩

/-- The route of a setup at the first node of its path, which is its own previous
    hop. -/
structure Begun (r : RtEntry) (p : Packet) : Prop where
  src : p.src = r.ea
  dst : p.dst = r.eb
  first : r.na = r.ea
  path_id : word p vrr_header_size = some r.path_id

/-- While a request from `src` is answered, with the routes of `a` and the
    packets of `l` on record: the routes added lead from the node to `src`, and
    the setups sent have such a route. -/
structure Answering (me src : U32) (a : List RtEntry) (l : List Packet) (s : Sys) : Prop where
  own : s.node.me = me
  added : ∀ r ∈ s.added, r ∈ a ∨ r.ea = me ∧ r.eb = src ∧ r.na = me
  sent : ∀ p ∈ s.sent, p ∈ l ∨ (p.vh.pkt_type = VRR_SETUP →
    ∃ r ∈ s.added, Begun r p ∧ r.ea = me ∧ r.eb = src)

/-- While a setup is handled: the routes added are those of its path. -/
def Filing (skb : SkBuff) (a : List RtEntry) (s : Sys) : Prop :=
  ∀ r ∈ s.added, r ∈ a ∨ r.ea = skb.pkt.src ∧ r.eb = skb.pkt.dst ∧
    Readable skb.pkt vrr_header_size r.path_id

section Handlers

variable {me src : U32} {a : List RtEntry} {l : List Packet}

/-- Sending anything but a setup. -/
theorem handles_answering : Handles (fun ty => ty ≠ VRR_SETUP) (Answering me src a l) := by
  refine (quiet_of_updates ?_ ?_ ?_ ?_ ?_ ?_).handles
  · exact fun _ _ hs => ⟨hs.own, hs.added, hs.sent⟩
  · exact fun _ _ hs => ⟨hs.own, hs.added, hs.sent⟩
  · refine fun s p hty hs => ⟨hs.own, hs.added, fun q hq => ?_⟩
    rcases List.mem_append.mp hq with hq | hq
    · exact hs.sent q hq
    · rw [List.mem_singleton.mp hq]
      exact Or.inr (fun h => absurd h hty)
  · exact fun _ _ _ hs => ⟨hs.own, hs.added, hs.sent⟩
  · exact fun _ _ hs => ⟨hs.own, hs.added, hs.sent⟩
  · exact fun _ hs => ⟨hs.own, hs.added, hs.sent⟩

namespace Vrr

/-- The answer goes out when its route has been filed. -/
theorem vrr_local_rcv_setup_answering (pid proxy : U32) (vset_size : Nat)
    (vset : Option (List U32)) :
    Preserves (Answering me src a l) (vrr_local_rcv_setup src pid proxy vset_size vset) := by
  have hquiet : Handles (fun ty => ty ≠ VRR_SETUP) (Answering me src a l) := handles_answering
  unfold vrr_local_rcv_setup
  refine Triple.bind (Q := fun n s => Answering me src a l s ∧ n.me = me)
    (Triple.gets _ (fun s hs => ⟨hs, hs.own⟩)) (fun n => Triple.of_and (fun hn => ?_))
  rw [hn]
  refine Triple.bind (SendsOwn.next_hop_via _ _) (fun nh => ?_)
  -- the route is on record from here on
  have hadd : Triple (Answering me src a l) (rt_add_route me src me nh pid)
      (fun _ s => Answering me src a l s ∧ ⟨me, src, me, nh, pid⟩ ∈ s.added) (fun _ => True) := by
    unfold rt_add_route
    refine Triple.bind hquiet.draws.rt_alloc (fun alloc => Triple.bind (Preserves.gets _)
      (fun rb => Triple.bind (Preserves.gets _) (fun n' => ?_)))
    refine Triple.bind (Q := fun _ s => Answering me src a l s ∧ ⟨me, src, me, nh, pid⟩ ∈ s.added)
      (Triple.modify _ (fun s hs => ⟨⟨hs.own, fun r hr => ?_, fun p hp => ?_⟩, ?_⟩))
      (fun _ => Triple.pure _ (fun _ hs => hs))
    · rcases List.mem_append.mp hr with hr | hr
      · exact hs.added r hr
      · rw [List.mem_singleton.mp hr]
        exact Or.inr ⟨rfl, rfl, rfl⟩
    · refine (hs.sent p hp).imp_right (fun h hty => ?_)
      rcases h hty with ⟨r, hr, hbegun⟩
      exact ⟨r, List.mem_append_left _ hr, hbegun⟩
    · exact List.mem_append_right _ (List.mem_singleton_self _)
  have hdraws : Draws (fun s => Answering me src a l s ∧
      (⟨me, src, me, nh, pid⟩ : RtEntry) ∈ s.added) (fun _ => True) :=
    draws_of_kern (fun _ _ hs => ⟨⟨hs.1.own, hs.1.added, hs.1.sent⟩, hs.2⟩)
  refine Triple.bind hadd (fun added => Triple.ite _ (fun _ => Triple.ite _ (fun _ => ?_)
    (fun _ => Triple.pure _ (fun _ hs => hs.1))) (fun _ => ?_))
  · refine Triple.bind (Q := fun _ => Answering me src a l) ?_
      (fun _ => Triple.pure _ (fun _ hs => hs))
    unfold send_setup send_vset
    refine Triple.bind (Preserves.gets _) (fun n' => ?_)
    cases pset_get_mac n'.pset nh with
    | none => exact Triple.pure _ (fun _ hs => hs.1)
    | some mac =>
        refine Triple.bind (SendsOwn.read_vset _ _) (fun ids => ?_)
        refine Triple.bind (hdraws.kmalloc 1) (fun skb => Triple.ite _ (fun _ => ?_)
          (fun _ => Triple.pure _ (fun _ hs => hs.1)))
        unfold vrr_output
        refine Triple.bind (Q := fun _ => Answering me src a l) (Triple.modify _ (fun s hs => ?_))
          (fun _ => Preserves.then_pure (Preserves.modify _
            (fun _ hs => ⟨hs.own, hs.added, hs.sent⟩)) 0)
        refine ⟨hs.1.own, hs.1.added, fun p hp => ?_⟩
        rcases List.mem_append.mp hp with hp | hp
        · exact hs.1.sent p hp
        rw [List.mem_singleton.mp hp]
        exact Or.inr (fun _ => ⟨_, hs.2, ⟨ntohl_htonl me, ntohl_htonl src, rfl,
          word_payload _ _ 0 _ rfl⟩, rfl, rfl⟩)
  · exact (Preserves.then_pure (hquiet.tear_down_path (by decide) _ _ _) 0).pre
      (fun _ hs => hs.1)

/-- A request is passed on, refused, or answered with a setup of the node's
    own. -/
theorem vrr_rcv_setup_req_answering (skb : SkBuff) (hty : skb.pkt.vh.pkt_type = VRR_SETUP_REQ) :
    Preserves (Answering me skb.pkt.src a l) (vrr_rcv_setup_req skb) := by
  have hquiet : Handles (fun ty => ty ≠ VRR_SETUP) (Answering me skb.pkt.src a l) :=
    handles_answering
  unfold vrr_rcv_setup_req
  refine Preserves.bind (Preserves.bind (Preserves.gets _) (fun _ => Preserves.pure _))
    (fun nh => ?_)
  refine Preserves.ite _ (fun _ => Preserves.then_pure ?_ 0) (fun _ => ?_)
  · unfold vrr_forward_setup_req
    refine Preserves.bind (Preserves.gets _) (fun n => ?_)
    cases pset_get_mac n.pset nh with
    | none => exact Preserves.pure _
    | some mac =>
        refine hquiet.forward _ ?_
        simp only [hty]
        decide
  refine Preserves.bind (hquiet.draws.read_u32 _ _) (fun proxy => ?_)
  refine Preserves.bind (hquiet.draws.read_u32 _ _) (fun size => ?_)
  refine hquiet.draws.received_vset _ _ _ _ _ (fun _ hs => hs) (fun _ vset => ?_)
  refine Preserves.bind hquiet.vset_get_all (fun ovset => ?_)
  refine Preserves.bind (hquiet.vrr_add (by decide) _ _) (fun added => Preserves.ite _ (fun _ => ?_)
    (fun _ => ?_))
  · exact Preserves.bind hquiet.random (fun pid => Preserves.then_pure
      (vrr_local_rcv_setup_answering pid proxy ovset.1 ovset.2) 0)
  · exact Preserves.then_pure (hquiet.vrr_local_rcv_setup_fail (by decide) (by decide) _ _ _ _) 0

/-- A setup files the route of its path. -/
theorem vrr_rcv_setup_filing (skb : SkBuff) : Preserves (Filing skb a) (vrr_rcv_setup skb) := by
  have hquiet : Quiet (fun _ => True) (Filing skb a) :=
    quiet_of_updates (fun _ _ hs => hs) (fun _ _ hs => hs) (fun _ _ _ hs => hs)
      (fun _ _ _ hs => hs) (fun _ _ hs => hs) (fun _ hs => hs)
  have hread : ∀ offset, Triple (Filing skb a) (read_u32 skb.pkt offset)
      (fun w s => Filing skb a s ∧ Readable skb.pkt offset w) (fun _ => True) := by
    intro offset
    unfold read_u32 Readable
    cases word skb.pkt offset with
    | none =>
        refine Triple.bind hquiet.draws.uninit (fun stack => Triple.pure _ (fun s hs => ⟨hs, ?_⟩))
        intro w' h
        cases h
    | some w => exact Triple.pure _ (fun s hs => ⟨hs, fun w' h => (Option.some.inj h).symm⟩)
  unfold vrr_rcv_setup
  refine Triple.bind (Preserves.gets _) (fun n => ?_)
  refine Triple.bind (hread _) (fun pid => Triple.of_and (fun hpid => ?_))
  refine Triple.bind (hquiet.draws.read_u32 _ _) (fun proxy => ?_)
  cases (if skb.dev_addr = skb.h_source then some n.me
    else pset_lookup_mac n.pset skb.h_source) with
  | none => exact Preserves.then_pure (hquiet.handles.tear_down_path trivial _ _ _) 0
  | some sender =>
      refine Preserves.bind (SendsOwn.setup_next_hop _ _) (fun nh => ?_)
      refine Preserves.bind (rt_add_route_rule hquiet.draws _ _ _ _ _ (fun s _ _ hs r hr => ?_))
        (fun added => ?_)
      · rcases List.mem_append.mp hr with hr | hr
        · exact hs r hr
        · rw [List.mem_singleton.mp hr]
          exact Or.inr ⟨rfl, rfl, hpid⟩
      refine Preserves.ite _ (fun _ => ?_)
        (fun _ => Preserves.then_pure (hquiet.handles.tear_down_path trivial _ _ _) 0)
      refine Preserves.bind (hquiet.draws.read_u32 _ _) (fun size => ?_)
      refine hquiet.draws.received_vset _ _ _ _ _ (fun _ hs => hs) (fun _ vset => ?_)
      refine Preserves.ite _ (fun _ => Preserves.then_pure (hquiet.own.send_vset _ trivial _ _ _ _
        _ _) 0) (fun _ => ?_)
      exact Preserves.bind (hquiet.handles.vrr_add trivial _ _) (fun ret => Preserves.ite _
        (fun _ => Preserves.then_pure hquiet.activate 0) (fun _ => Preserves.pure _))

theorem vrr_rcv_answering (skb : SkBuff) (hty : skb.pkt.vh.pkt_type = VRR_SETUP_REQ) :
    Preserves (Answering me skb.pkt.src a l) (vrr_rcv skb) := by
  refine handles_answering.vrr_rcv skb (fun s hs => ⟨hs.own, hs.added, hs.sent⟩) (fun _ => ?_)
  rw [vrr_rcvfunc_setup_req skb hty]
  exact vrr_rcv_setup_req_answering skb hty

theorem quiet_added (A : List RtEntry → Prop) : Quiet (fun _ => True) (fun s => A s.added) :=
  quiet_of_updates (fun _ _ hs => hs) (fun _ _ hs => hs) (fun _ _ _ hs => hs) (fun _ _ _ hs => hs)
    (fun _ _ hs => hs) (fun _ hs => hs)

theorem vrr_rcv_filing (skb : SkBuff) (hty : skb.pkt.vh.pkt_type = VRR_SETUP) :
    Preserves (Filing skb a) (vrr_rcv skb) := by
  refine (quiet_added (fun added => ∀ r ∈ added, r ∈ a ∨ r.ea = skb.pkt.src ∧ r.eb = skb.pkt.dst ∧
    Readable skb.pkt vrr_header_size r.path_id)).handles.vrr_rcv skb (fun _ hs => hs) (fun _ => ?_)
  rw [vrr_rcvfunc_setup skb hty]
  exact vrr_rcv_setup_filing skb

/-- No other packet files a route. -/
theorem vrr_rcv_added (skb : SkBuff) (hreq : skb.pkt.vh.pkt_type ≠ VRR_SETUP_REQ)
    (hsetup : skb.pkt.vh.pkt_type ≠ VRR_SETUP) :
    Preserves (fun s => s.added = a) (vrr_rcv skb) := by
  have hquiet : Quiet (fun _ => True) (fun s => s.added = a) := quiet_added (fun added => added = a)
  refine hquiet.handles.vrr_rcv skb (fun _ hs => hs) (fun hty => ?_)
  exact vrr_rcvfunc_triple skb hty (fun h => hquiet.handles.vrr_rcv_data trivial skb h)
    (fun _ => hquiet.draws.vrr_rcv_hello skb (fun _ hs => hs)
      (fun _ _ _ => Triple.modify _ (fun _ hs => hs)))
    (fun h => absurd h hreq) (fun h => absurd h hsetup)
    (fun _ => hquiet.handles.vrr_rcv_setup_fail trivial trivial skb)
    (fun _ => hquiet.handles.vrr_rcv_teardown trivial trivial skb)

end Vrr

end Handlers

/-- A packet that has come in has been handled. -/
theorem rcv_of_step {s t : Sys} {i : Event × Kernel} {skb : SkBuff} (h : Step s i t)
    (he : i.1 = .vrr_rcv skb) : ∃ r, Vrr.vrr_rcv skb { s with kern := i.2 } = .ok (r, t) := by
  refine step_cases (I := fun t => ∃ r, Vrr.vrr_rcv skb { s with kern := i.2 } = .ok (r, t)) h
    (fun skb' r he' hrun => ?_) (fun he' => ?_) (fun he' => ?_) (fun he' => ?_)
  · rw [he, Event.vrr_rcv.injEq] at he'
    rw [he']
    exact ⟨r, hrun⟩
  · rw [he] at he'
    cases he'
  · rw [he] at he'
    cases he'
  · rw [he] at he'
    obtain ⟨sk, he' | he'⟩ := he' <;> cases he'

/-- What a request leads to. -/
theorem answering_of_step {s t : Sys} {i : Event × Kernel} {skb : SkBuff} (h : Step s i t)
    (he : i.1 = .vrr_rcv skb) (hty : skb.pkt.vh.pkt_type = VRR_SETUP_REQ) :
    Answering s.node.me skb.pkt.src s.added s.sent t := by
  obtain ⟨r, hrun⟩ := rcv_of_step h he
  exact (Vrr.vrr_rcv_answering skb hty).ok (s := { s with kern := i.2 })
    ⟨rfl, fun _ hr => Or.inl hr, fun _ hp => Or.inl hp⟩ hrun

/-- The packet that a route is filed for: a request from its other end, or a
    setup of its path. -/
def FiledFor (me : U32) (r : RtEntry) (skb : SkBuff) : Prop :=
  skb.pkt.vh.pkt_type = VRR_SETUP_REQ ∧ r.ea = me ∧ r.eb = skb.pkt.src ∧ r.na = me ∨
    skb.pkt.vh.pkt_type = VRR_SETUP ∧ r.ea = skb.pkt.src ∧ r.eb = skb.pkt.dst ∧
      Readable skb.pkt vrr_header_size r.path_id

/-- No event but such a packet files a route. -/
theorem added_of_step {s t : Sys} {i : Event × Kernel} (h : Step s i t) (r : RtEntry)
    (hr : r ∈ t.added) :
    r ∈ s.added ∨ ∃ skb, i.1 = .vrr_rcv skb ∧ FiledFor s.node.me r skb := by
  have hquiet : Quiet (fun _ => True) (fun u => u.added = s.added) :=
    Vrr.quiet_added (fun added => added = s.added)
  have hover : ∀ size n, Preserves (fun u : Sys => u.added = s.added)
      (Vrr.overrun .pstate size n) := fun _ _ => Preserves.modify _ (fun _ hs => hs)
  revert hr
  refine step_cases (I := fun t => r ∈ t.added → r ∈ s.added ∨ ∃ skb, i.1 = .vrr_rcv skb ∧
    FiledFor s.node.me r skb) h (fun skb res he hrun hr => ?_) (fun _ hrun hr => Or.inl ?_)
    (fun _ hrun hr => Or.inl ?_) (fun _ _ hr => Or.inl hr)
  · by_cases hreq : skb.pkt.vh.pkt_type = VRR_SETUP_REQ
    · exact ((answering_of_step h he hreq).added r hr).imp_right
        (fun h => ⟨skb, he, Or.inl ⟨hreq, h⟩⟩)
    by_cases hsetup : skb.pkt.vh.pkt_type = VRR_SETUP
    · have hfiling : Filing skb s.added t := (Vrr.vrr_rcv_filing skb hsetup).ok
        (s := { s with kern := i.2 }) (fun _ hr => Or.inl hr) hrun
      exact (hfiling r hr).imp_right (fun h => ⟨skb, he, Or.inr ⟨hsetup, h⟩⟩)
    · have hsame : t.added = s.added := (Vrr.vrr_rcv_added skb hreq hsetup).ok
        (s := { s with kern := i.2 }) rfl hrun
      exact Or.inl (hsame ▸ hr)
  · have hsame : t.added = s.added := (hquiet.toSends.pset_update_handler (fun _ _ _ hs => hs) hover
      trivial).ok (s := { s with kern := i.2 }) rfl hrun
    exact hsame ▸ hr
  · have hsame : t.added = s.added := (hquiet.toSends.vrr_workqueue_handler (fun _ _ _ hs => hs)
      hover trivial).ok (s := { s with kern := i.2 }) rfl hrun
    exact hsame ▸ hr

/-- A setup is the answer to a request, with a route on record, or one that was
    received. -/
theorem setups_of_step {s t : Sys} {i : Event × Kernel} (h : Step s i t) (p : Packet)
    (hp : p ∈ t.sent) (hty : p.vh.pkt_type = VRR_SETUP) : p ∈ s.sent ∨ ∃ skb, i.1 = .vrr_rcv skb ∧
      (skb.pkt.vh.pkt_type = VRR_SETUP_REQ ∧
          (∃ r ∈ t.added, Begun r p ∧ r.ea = s.node.me ∧ r.eb = skb.pkt.src) ∨
        skb.pkt.vh.pkt_type = VRR_SETUP ∧
          (Built skb.pkt → skb.pkt.data.length < 2 ^ 32 → Same skb.pkt p)) := by
  obtain ⟨ps, hgrown, _, hps⟩ := step_emits h
  have hnew := hp
  rw [hgrown] at hnew
  rcases List.mem_append.mp hnew with hold | hnew
  · exact Or.inl hold
  have hemission := hps p hnew
  have hno : ∀ ty, ty ≠ VRR_SETUP → p.vh.pkt_type ≠ ty := fun ty hne heq => hne (heq.symm.trans hty)
  generalize he : i.1 = e at hemission
  cases hemission with
  | reply skb p hreply =>
      cases hreply with
      | forwarded hop mac hty' hmac =>
          rcases hty' with hty' | hty' <;> exact absurd (hty'.symm.trans hty) (by decide)
      | requested => exact absurd rfl (hno VRR_SETUP_REQ (by decide))
      | answered _ _ _ _ _ hreq =>
          exact ((answering_of_step h he hreq).sent _ hp).imp_right
            (fun hbegun => ⟨skb, rfl, Or.inl ⟨hreq, hbegun hty⟩⟩)
      | refused => exact absurd rfl (hno VRR_SETUP_FAIL (by decide))
      | setup _ _ _ _ _ _ hty' hread hids =>
          exact Or.inr ⟨skb, rfl, Or.inr ⟨hty', same_of_setup hty' hread hids⟩⟩
      | setup_fail => exact absurd rfl (hno VRR_SETUP_FAIL (by decide))
      | torn => exact absurd rfl (hno VRR_TEARDOWN (by decide))
  | join => exact absurd rfl (hno VRR_SETUP_REQ (by decide))
  | hello => exact absurd rfl (hno VRR_HELLO (by decide))

/-- The node has received a request from `eb`. -/
def AskedBy (net : Ether) (ea eb : U32) : Prop :=
  ∃ skb ∈ net.received ea, skb.pkt.vh.pkt_type = VRR_SETUP_REQ ∧ skb.pkt.src = eb ∧
    Sourced net skb.pkt

/-- The first node of the path has filed it when it was asked to. -/
def Commissioned (net : Ether) (ea eb pid : U32) : Prop :=
  (∃ r ∈ (net.sys ea).added, r.ea = ea ∧ r.eb = eb ∧ r.na = ea ∧ r.path_id = pid) ∧
    AskedBy net ea eb

/-- The paths of all setups sent and of all routes filed are requested. -/
def Invited (net : Ether) (x : U32) (s : Sys) : Prop :=
  Faithful net x s ∧ (∀ p ∈ s.sent, p.vh.pkt_type = VRR_SETUP →
      ∃ pid, word p vrr_header_size = some pid ∧ Commissioned net p.src p.dst pid) ∧
    ∀ r ∈ s.added, Commissioned net r.ea r.eb r.path_id

theorem Commissioned.step {net net' : Ether} {i : U32 × Event × Kernel} {ea eb pid : U32}
    (h : Ether.Step TravelSent net i net') (hr : Commissioned net ea eb pid) :
    Commissioned net' ea eb pid := by
  rcases hr with ⟨⟨r, hr, hpath⟩, skb, hskb, hty, hsrc, hsourced⟩
  exact ⟨⟨r, (Ether.records_grow h ea).2 r hr, hpath⟩, skb, Ether.received_grow h ea hskb, hty,
    hsrc, hsourced.step h⟩

/-- A request that arrives at its last node is one that its source has sent. -/
theorem asked_of_arrival {net net' : Ether} {i : U32 × Event × Kernel}
    (h : Ether.Step TravelSent net i net') (hall : ∀ x, Faithful net x (net.sys x)) {skb : SkBuff}
    (he : i.2.1 = .vrr_rcv skb) (hty : skb.pkt.vh.pkt_type = VRR_SETUP_REQ) :
    AskedBy net' i.1 skb.pkt.src := by
  obtain ⟨hfits, y, hy⟩ := h.1 skb he (Or.inl hty)
  refine ⟨skb, ?_, hty, rfl, ((hall y).2 skb.pkt hy (Or.inl hty)).2.step h⟩
  rcases i with ⟨id, e, k⟩
  rcases h with ⟨_, t, _, rfl⟩
  rw [show e = .vrr_rcv skb from he]
  simp only [Ether.hear, Function.update_self]
  exact List.mem_append_right _ (List.mem_singleton_self skb)

/-- The path of a setup that arrives is requested, and so is that of the setup
    that it goes on as. -/
theorem requested_of_arrival {net : Ether} (hall : ∀ x, Invited net x (net.sys x)) {skb : SkBuff}
    {x : U32} (hx : net.Emitted x skb.pkt) (hty : skb.pkt.vh.pkt_type = VRR_SETUP) :
    ∃ pid, word skb.pkt vrr_header_size = some pid ∧
      Commissioned net skb.pkt.src skb.pkt.dst pid :=
  (hall x).2.1 skb.pkt hx hty

theorem invited_step {net net' : Ether} {i : U32 × Event × Kernel}
    (h : Ether.Step TravelSent net i net') (hall : ∀ x, Invited net x (net.sys x)) :
    ∀ x, Invited net' x (net'.sys x) := by
  have hfaithful := faithful_step h (fun x => (hall x).1)
  refine Ether.local_invariant Invited net net' i h
    (fun x hx => ⟨?_, fun p hp hty => ?_, fun r hr => (hx.2.2 r hr).step h⟩)
    (fun hnew => ⟨hfaithful i.1, fun p hp hty => ?_, fun r hr => ?_⟩) hall
  · exact ⟨hx.1.1, fun p hp hty => ⟨(hx.1.2 p hp hty).1, (hx.1.2 p hp hty).2.step h⟩⟩
  · obtain ⟨pid, hpid, hreq⟩ := hx.2.1 p hp hty
    exact ⟨pid, hpid, hreq.step h⟩
  · -- a setup that is sent
    have hstep := Ether.sys_of_step h
    have hme := (hnew i.1).1.1
    rcases setups_of_step hstep p hp hty with hold | ⟨skb, he, ⟨hreq, r, hr, hbegun, hea, heb⟩ |
      ⟨hsetup, hsame⟩⟩
    · exact (hnew i.1).2.1 p hold hty
    · refine ⟨r.path_id, hbegun.path_id, ?_⟩
      rw [hbegun.src, hbegun.dst, hea, heb, hme]
      exact ⟨⟨r, hr, hea.trans hme, heb, hbegun.first.trans (hea.trans hme), rfl⟩,
        asked_of_arrival h (fun x => (hall x).1) he hreq⟩
    · obtain ⟨hfits, y, hy⟩ := h.1 skb he (Or.inr (Or.inl hsetup))
      have hbuilt := ((hall y).1.2 skb.pkt hy (Or.inr (Or.inl hsetup))).1
      have hp := hsame hbuilt hfits
      obtain ⟨pid, hpid, hreq⟩ := requested_of_arrival hall hy hsetup
      refine ⟨pid, ?_, ?_⟩
      · have hdata : word p vrr_header_size = word skb.pkt vrr_header_size := by
          unfold word skb_copy_bits
          rw [hp.data]
        rw [hdata, hpid]
      · rw [← hp.src, ← hp.dst]
        exact hreq.step h
  · -- a route that is filed
    have hstep := Ether.sys_of_step h
    have hme := (hnew i.1).1.1
    rcases added_of_step hstep r hr with hold | ⟨skb, he, ⟨hreq, hea, heb, hna⟩ |
      ⟨hsetup, hea, heb, hpid⟩⟩
    · exact (hnew i.1).2.2 r hold
    · rw [heb, hea, hme]
      exact ⟨⟨r, hr, hea.trans hme, heb, hna.trans hme, rfl⟩,
        asked_of_arrival h (fun x => (hall x).1) he hreq⟩
    · obtain ⟨_, y, hy⟩ := h.1 skb he (Or.inr (Or.inl hsetup))
      obtain ⟨pid, hword, hreq⟩ := requested_of_arrival hall hy hsetup
      rw [hea, heb, ← hpid pid hword]
      exact hreq.step h

/-- In every run of every network each route that a node files belongs to a path
    that its first node has filed, being its own previous hop there. That node
    has received a request from the last one, which has sent it. -/
theorem paths_requested (g : U32 → Nat → U32) (gm : U32 → Nat → MacAddr) (k : U32 → Kernel)
    (net : Ether) (hrun : Reach (Ether.Step TravelSent) (Ether.boot g gm k) net) (x : U32)
    (r : RtEntry) (hr : r ∈ (net.sys x).added) :
    (∃ r' ∈ (net.sys r.ea).added, r'.ea = r.ea ∧ r'.eb = r.eb ∧ r'.na = r.ea ∧
      r'.path_id = r.path_id) ∧
    ∃ skb ∈ net.received r.ea, skb.pkt.vh.pkt_type = VRR_SETUP_REQ ∧ skb.pkt.src = r.eb ∧
      ∃ q, net.Emitted r.eb q ∧ q.vh.pkt_type = VRR_SETUP_REQ ∧ q.src = r.eb ∧
        q.dst = skb.pkt.dst ∧ q.data = skb.pkt.data := by
  have hinv := hrun.invariant (fun net => ∀ x, Invited net x (net.sys x))
    (fun x => ⟨⟨rfl, fun p hp => absurd hp List.not_mem_nil⟩,
      fun p hp => absurd hp List.not_mem_nil, fun r hr => absurd hr List.not_mem_nil⟩)
    (fun u i v hu hstep => invited_step hstep hu)
  obtain ⟨hfirst, skb, hskb, hty, hsrc, q, hq, hsame⟩ := (hinv x).2.2 r hr
  rw [hsrc] at hq
  exact ⟨hfirst, skb, hskb, hty, hsrc, q, hq, hsame.pkt_type.trans hty, hsame.src.trans hsrc,
    hsame.dst, hsame.data⟩

/-- The route that node 1 files in the run above is one of a path from node 2,
    which node 1 has asked for. -/
theorem paths_requested_two :
    ∃ net, Reach (Ether.Step TravelSent) (Ether.boot (fun _ _ => 0) (fun _ _ => 0)
      (fun _ => Kernel.calm)) net ∧ (net.sys 1).added = [⟨2, 1, 2, 0, 0⟩] ∧
      (∃ r' ∈ (net.sys 2).added, r'.ea = 2 ∧ r'.eb = 1 ∧ r'.na = 2 ∧ r'.path_id = 0) ∧
      ∃ skb ∈ net.received 2, skb.pkt.vh.pkt_type = VRR_SETUP_REQ ∧ skb.pkt.src = 1 ∧
        ∃ q, net.Emitted 1 q ∧ q.vh.pkt_type = VRR_SETUP_REQ ∧ q.src = 1 ∧ q.dst = skb.pkt.dst ∧
          q.data = skb.pkt.data := by
  have heval : (Ether.run (sent_by [1, 2]) (Ether.boot (fun _ _ => 0) (fun _ _ => 0)
      (fun _ => Kernel.calm)) joining_events).map (fun net => (net.sys 1).added) =
      some [⟨2, 1, 2, 0, 0⟩] := by
    decide +kernel
  rcases Option.map_eq_some_iff.mp heval with ⟨net, hnet, hadded⟩
  have hreach := Ether.reach_run (travelSent_of_sent_by _) _ _ net _ Reach.refl hnet
  exact ⟨net, hreach, hadded, paths_requested (fun _ _ => 0) (fun _ _ => 0) (fun _ => Kernel.calm)
    net hreach 1 ⟨2, 1, 2, 0, 0⟩ (by rw [hadded]; exact List.mem_singleton_self _)⟩

end AlpacaVrr
