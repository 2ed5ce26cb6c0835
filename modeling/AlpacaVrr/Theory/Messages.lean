import AlpacaVrr.Core.Hosts
import AlpacaVrr.Theory.Payload
import AlpacaVrr.Theory.Relays

/-!
# Where Messages Come From

What a program reads, another program has written, for this node and on a node
that the socket was connected to.

Packets may be lost, doubled, delayed and misdirected, tables may hold anything,
paths may break and cross, and any number of programs write and read meanwhile.
A message that comes out whole at the other end has still been handed to
`vrr_sendmsg` at the node that it is from, for the node that it comes out at.
The header has only 16 bits for the length, so what is read is the message up
to its length modulo `2 ^ 16`.

Only two things put a data packet on the air: a call, and a node that sends on
one that it has received. `data_of_emission` says the second, and
`vrr_sendmsg_packet` the first. A socket that is found is one that was filed,
under the address that the packet is from.

## Main definitions

* `DataSent`: The data packets that may arrive.
* `Bears`, `Addressed`: The packet of a message, and one on record.
* `Truthful`: The invariant.

## Theorems

* `data_of_emission`: What a node sends on.
* `step_socks`: Only sockets change the socket table.
* `messages_genuine`: Every message that is read has been written.
-/

namespace AlpacaVrr

open FaultState

/-- A data packet that a node sends on is one that it has received. -/
theorem data_of_emission {n : Node} {e : Event} {p : Packet} (h : Emission n e p)
    (hty : p.vh.pkt_type = VRR_DATA) :
    ∃ skb, e = .vrr_rcv skb ∧ skb.pkt.vh.pkt_type = VRR_DATA ∧
      ∃ mac, p = { skb.pkt with vh := { skb.pkt.vh with dest_mac := mac } } := by
  have hno : ∀ ty, ty ≠ VRR_DATA → p.vh.pkt_type ≠ ty := fun ty hne heq => hne (heq.symm.trans hty)
  cases h with
  | reply skb p h =>
      cases h with
      | forwarded hop mac _ _ => exact ⟨skb, rfl, hty, mac, rfl⟩
      | requested => exact absurd rfl (hno VRR_SETUP_REQ (by decide))
      | answered => exact absurd rfl (hno VRR_SETUP (by decide))
      | refused => exact absurd rfl (hno VRR_SETUP_FAIL (by decide))
      | setup => exact absurd rfl (hno VRR_SETUP (by decide))
      | setup_fail => exact absurd rfl (hno VRR_SETUP_FAIL (by decide))
      | torn => exact absurd rfl (hno VRR_TEARDOWN (by decide))
  | join => exact absurd rfl (hno VRR_SETUP_REQ (by decide))
  | hello => exact absurd rfl (hno VRR_HELLO (by decide))

/-- The sockets in a table are all on a list. -/
def FiledIn (t : VrrSocks) (l : List VrrSock) : Prop := ∀ i, ∀ sk ∈ t i, sk ∈ l

theorem FiledIn.find {t : VrrSocks} {l : List VrrSock} (h : FiledIn t l) {addr : U32} {sk : VrrSock}
    (hfind : vrr_find_sock t addr = some sk) : sk ∈ l ∧ sk.rem_addr = addr :=
  ⟨h _ sk (List.mem_of_find?_eq_some hfind), by simpa using List.find?_some hfind⟩

/-- Only the events of sockets touch the table. -/
theorem step_socks {s t : Sys} {i : Event × Kernel} (h : Step s i t) {l : List VrrSock}
    (hnew : ∀ sk, i.1 = .vrr_hash_sock sk → sk ∈ l) (hs : FiledIn s.node.vrr_socks l) :
    FiledIn t.node.vrr_socks l := by
  have hroutine : Routine (fun _ => True) (fun u => FiledIn u.node.vrr_socks l) :=
    routine_of_updates (fun _ _ hu => hu) (fun _ _ hu => hu) (fun _ _ _ hu => hu)
      (fun _ _ _ hu => hu) (fun _ _ hu => hu) (fun _ hu => hu) (fun _ _ hu => hu)
  have hover : ∀ size n, Preserves (fun u : Sys => FiledIn u.node.vrr_socks l)
      (Vrr.overrun .pstate size n) := fun _ _ => Preserves.modify _ (fun _ hu => hu)
  have hown := hroutine.toQuiet.toSends.own
  rcases i with ⟨e, k⟩
  cases e with
  | vrr_rcv skb =>
      have hrcv : Preserves (fun u => FiledIn u.node.vrr_socks l) (Vrr.vrr_rcv skb) :=
        hroutine.handles.vrr_rcv skb (fun _ hu => hu) (fun hty =>
          hroutine.vrr_rcvfunc_of_all skb hty (fun _ => hroutine.draws.vrr_rcv_hello skb
            (fun _ hu => hu) (fun _ _ _ => Triple.modify _ (fun _ hu => hu))))
      exact (Preserves.then_pure hrcv ()).ok (s := { s with kern := k }) hs h
  | pset_update_handler =>
      exact (hown.pset_update_handler (fun _ _ _ _ hu => hu) hover trivial).ok
        (s := { s with kern := k }) hs h
  | vrr_workqueue_handler =>
      refine (hown.vrr_workqueue_handler (fun _ _ _ _ hu => hu) hover trivial
        (Preserves.modify _ (fun u hu => ?_))).ok (s := { s with kern := k }) hs h
      simp only
      split_ifs <;> exact hu
  | vrr_hash_sock sk =>
      have ht : { s with
          kern := k
          node := { s.node with vrr_socks := vrr_hash_sock s.node.vrr_socks sk } } = t :=
        congrArg Prod.snd (Except.ok.inj h)
      rw [← ht]
      intro i v hv
      have hv : v ∈ vrr_hash_sock s.node.vrr_socks sk i := hv
      unfold vrr_hash_sock at hv
      split_ifs at hv
      · rcases List.mem_cons.mp hv with rfl | hold
        · exact hnew v rfl
        · exact hs i v hold
      · exact hs i v hv
  | vrr_unhash_sock sk =>
      have ht : { s with
          kern := k
          node := { s.node with vrr_socks := vrr_unhash_sock s.node.vrr_socks sk } } = t :=
        congrArg Prod.snd (Except.ok.inj h)
      rw [← ht]
      exact fun i v hv => hs i v (List.mem_of_mem_eraseP hv)

/-- A data packet that arrives has been emitted. -/
def DataSent (net : Ether) (_ : U32) (skb : SkBuff) : Prop :=
  skb.pkt.vh.pkt_type = VRR_DATA → ∃ x, net.Emitted x skb.pkt

/-- The packet is the one of this message, up to the address and the version. -/
structure Bears (call : SendCall) (p : Packet) : Prop where
  src : p.src = call.id
  dst : p.dst = call.dest
  len : msg_len p = call.msg_iov.length % 2 ^ 16
  data : call.msg_iov.length < 2 ^ 31 → p.data = call.msg_iov

/-- The packet holds a message that was written, for this node, at a node that
    the socket was connected to. -/
def Addressed (h : Hosts) (id : U32) (sk : Nat) (p : Packet) : Prop :=
  ∃ call ∈ h.written, Bears call p ∧ call.dest = id ∧ ⟨sk, call.id⟩ ∈ h.filed id

/-- Every node has its name, and whatever is in the air, in a queue or read has
    been written. -/
structure Truthful (h : Hosts) : Prop where
  me : ∀ x, (h.net.sys x).node.me = x
  socks : ∀ x, FiledIn (h.net.sys x).node.vrr_socks (h.filed x)
  sent : ∀ x p, h.net.Emitted x p → p.vh.pkt_type = VRR_DATA → ∃ call ∈ h.written, Bears call p
  queued : ∀ id sk, ∀ p ∈ h.sk_receive_queue id sk, Addressed h id sk p
  read : ∀ id sk p sz, (id, sk, RecvResult.copied p sz false) ∈ h.read →
    sz = msg_len p ∧ Addressed h id sk p

theorem bears_data_packet (version : U8) (mac : MacAddr) (call : SendCall) (data : List U8)
    (hdata : call.msg_iov.length < 2 ^ 31 → data = call.msg_iov) :
    Bears call (data_packet version call.id call.dest call.msg_iov.length mac data) where
  src := ntohl_htonl call.id
  dst := ntohl_htonl call.dest
  len := by
    unfold msg_len data_packet build_header
    simp only [ntohs_htons, BitVec.toNat_ofNat]
  data := hdata

/-- The records of `h` go on in `h'`. -/
theorem Addressed.mono {h h' : Hosts} {id : U32} {sk : Nat} {p : Packet} (hp : Addressed h id sk p)
    (hwritten : h.written ⊆ h'.written) (hfiled : h.filed id ⊆ h'.filed id) :
    Addressed h' id sk p := by
  rcases hp with ⟨call, hcall, hbears, hdest, hsk⟩
  exact ⟨call, hwritten hcall, hbears, hdest, hfiled hsk⟩

/-- A packet that is read was in the queue, all of it if nothing was cut off, and
    nothing new is in the queue afterwards. -/
theorem recvmsg_source (sock : VrrSocket) (call : RecvCall) :
    (∀ p sz, (vrr_recvmsg sock call).1 = .copied p sz false →
      sz = msg_len p ∧ p ∈ sock.sk_receive_queue) ∧
    (vrr_recvmsg sock call).2.sk_receive_queue ⊆ sock.sk_receive_queue := by
  unfold vrr_recvmsg
  rcases skip_empty_cases sock.sk_receive_queue with ⟨hskip, _⟩ |
    ⟨skb, rest, hskip, hmem, hrest, _, _⟩
  · simp only [hskip]
    split_ifs
    · exact ⟨fun _ _ h => (by cases h), List.nil_subset _⟩
    · exact ⟨fun _ _ h => (by cases h), List.nil_subset _⟩
    · exact ⟨fun _ _ h => (by cases h), List.nil_subset _⟩
  · have hall : skb :: rest ⊆ sock.sk_receive_queue := List.cons_subset.mpr ⟨hmem, hrest⟩
    simp only [hskip]
    -- the message is cut off when there is less room than it says it needs
    by_cases hlt : call.len < msg_len skb
    · simp only [if_pos hlt, decide_eq_true hlt]
      split_ifs
      · exact ⟨fun _ _ h => (by cases h), hall⟩
      · exact ⟨fun _ _ h => (by cases h), hall⟩
      · exact ⟨fun _ _ h => (by cases h), hrest⟩
    · simp only [if_neg hlt, decide_eq_false hlt]
      have hcopied : ∀ p sz, RecvResult.copied skb (msg_len skb) false = .copied p sz false →
          sz = msg_len p ∧ p ∈ sock.sk_receive_queue := by
        rintro p sz ⟨⟩
        exact ⟨rfl, hmem⟩
      split_ifs
      · exact ⟨fun _ _ h => (by cases h), hall⟩
      · exact ⟨hcopied, hall⟩
      · exact ⟨hcopied, hrest⟩

/-- A queue holds what it held, and what it was handed. -/
theorem mem_enqueue {queue : U32 → Nat → List Packet} {id x : U32} {o : Option (Nat × Packet)}
    {sk : Nat} {p : Packet} (h : p ∈ Hosts.enqueue queue id o x sk) :
    p ∈ queue x sk ∨ x = id ∧ o = some (sk, p) := by
  rcases o with _ | ⟨sk', q⟩
  · exact Or.inl h
  have h : p ∈ Function.update queue id
      (Function.update (queue id) sk' (queue id sk' ++ [q])) x sk := h
  by_cases hx : x = id
  · rw [hx, Function.update_self] at h
    by_cases hsk : sk = sk'
    · rw [hsk, Function.update_self] at h
      rcases List.mem_append.mp h with hold | hnew
      · exact Or.inl (by rw [hx, hsk]; exact hold)
      · rw [List.mem_singleton.mp hnew, hsk]
        exact Or.inr ⟨hx, rfl⟩
    · rw [Function.update_of_ne hsk] at h
      exact Or.inl (by rw [hx]; exact h)
  · rw [Function.update_of_ne hx] at h
    exact Or.inl h

/-- The packet that an event hands to a socket is a data packet for the node,
    and the socket is found under the packet's source. -/
theorem handed_spec {n : Node} {e : Event} {sk : Nat} {p : Packet}
    (h : Hosts.handed n e = some (sk, p)) : ∃ skb, e = .vrr_rcv skb ∧ skb.pkt = p ∧
      p.vh.pkt_type = VRR_DATA ∧ p.dst = n.me ∧
      ∃ v, vrr_find_sock n.vrr_socks p.src = some v ∧ v.sk = sk := by
  cases e with
  | vrr_rcv skb =>
      rcases Option.map_eq_some_iff.mp h with ⟨v, hv, heq⟩
      obtain ⟨rfl, rfl⟩ := Prod.mk.inj heq
      unfold socket_of at hv
      split_ifs at hv with hdata
      · exact ⟨skb, rfl, rfl, hdata.1, hdata.2, v, hv, rfl⟩
  | pset_update_handler => cases h
  | vrr_workqueue_handler => cases h
  | vrr_hash_sock sk => cases h
  | vrr_unhash_sock sk => cases h

/-- The state of a node after an event somewhere. -/
theorem Ether.sys_cases {arrives : Ether → U32 → SkBuff → Prop} {net net' : Ether}
    {i : U32 × Event × Kernel} (h : Ether.Step arrives net i net') (x : U32) :
    x = i.1 ∧ AlpacaVrr.Step (net.sys x) i.2 (net'.sys x) ∨ net'.sys x = net.sys x := by
  by_cases hx : x = i.1
  · rw [hx]
    exact Or.inl ⟨rfl, Ether.sys_of_step h⟩
  · rcases h.2 with ⟨t, _, rfl⟩
    exact Or.inr (Function.update_of_ne hx t net.sys)

/-- The sockets on record stay there. -/
theorem filed_grow (filed : U32 → List VrrSock) (id x : U32) (e : Event) :
    filed x ⊆ Hosts.file filed id e x := by
  cases e with
  | vrr_hash_sock sk =>
      change filed x ⊆ Function.update filed id (filed id ++ [sk]) x
      by_cases hx : x = id
      · rw [hx, Function.update_self]
        exact List.subset_append_left _ _
      · rw [Function.update_of_ne hx]
        exact List.Subset.refl _
  | vrr_rcv skb => exact List.Subset.refl _
  | pset_update_handler => exact List.Subset.refl _
  | vrr_workqueue_handler => exact List.Subset.refl _
  | vrr_unhash_sock sk => exact List.Subset.refl _

/-- An event at a node. -/
theorem truthful_event {h : Hosts} (hs : Truthful h) {id : U32} {e : Event} {k : Kernel}
    {kept : Bool} {net : Ether} (hstep : Ether.Step DataSent h.net (id, e, k) net) :
    Truthful { h with
      net := net
      sk_receive_queue := if kept then
        Hosts.enqueue h.sk_receive_queue id (Hosts.handed (h.net.sys id).node e)
          else h.sk_receive_queue
      filed := Hosts.file h.filed id e } where
  me := by
    intro x
    rcases Ether.sys_cases hstep x with ⟨_, hx⟩ | hx
    · exact (step_me hx).trans (hs.me x)
    · rw [hx]
      exact hs.me x
  socks := by
    intro x
    have hold : FiledIn (h.net.sys x).node.vrr_socks (Hosts.file h.filed id e x) :=
      fun i v hv => filed_grow h.filed id x e (hs.socks x i v hv)
    rcases Ether.sys_cases hstep x with ⟨rfl, hx⟩ | hx
    · refine step_socks hx (fun sk he => ?_) hold
      have he : e = .vrr_hash_sock sk := he
      rw [he]
      change sk ∈ Function.update h.filed x (h.filed x ++ [sk]) x
      rw [Function.update_self]
      exact List.mem_append_right _ (List.mem_singleton_self sk)
    · rw [hx]
      exact hold
  sent := by
    intro x p hp hty
    rcases Ether.sys_cases hstep x with ⟨rfl, hx⟩ | hx
    · obtain ⟨ps, hgrown, _, hps⟩ := step_emits hx
      have hp : p ∈ (net.sys x).sent := hp
      rw [hgrown] at hp
      rcases List.mem_append.mp hp with hold | hnew
      · exact hs.sent x p hold hty
      · -- one that goes on is on the air already
        rcases data_of_emission (hps p hnew) hty with ⟨skb, he, hdata, mac, rfl⟩
        rcases hstep.1 skb he hdata with ⟨y, hy⟩
        rcases hs.sent y skb.pkt hy hdata with ⟨call, hcall, hbears⟩
        exact ⟨call, hcall, hbears.src, hbears.dst, hbears.len, hbears.data⟩
    · have hp : p ∈ (net.sys x).sent := hp
      rw [hx] at hp
      exact hs.sent x p hp hty
  queued := by
    intro x sk p hp
    have hcases : p ∈ h.sk_receive_queue x sk ∨
        x = id ∧ Hosts.handed (h.net.sys id).node e = some (sk, p) := by
      have hp : p ∈ (if kept then
        Hosts.enqueue h.sk_receive_queue id (Hosts.handed (h.net.sys id).node e)
          else h.sk_receive_queue) x sk := hp
      split_ifs at hp
      · exact mem_enqueue hp
      · exact Or.inl hp
    rcases hcases with hold | ⟨rfl, hhanded⟩
    · exact (hs.queued x sk p hold).mono (List.Subset.refl _) (filed_grow h.filed id x e)
    · -- the socket was filed under the address that the message is from
      rcases handed_spec hhanded with ⟨skb, he, rfl, hdata, hdst, v, hfind, rfl⟩
      rcases hstep.1 skb he hdata with ⟨y, hy⟩
      rcases hs.sent y skb.pkt hy hdata with ⟨call, hcall, hbears⟩
      obtain ⟨hfiled, haddr⟩ := (hs.socks x).find hfind
      refine ⟨call, hcall, hbears, hbears.dst.symm.trans (hdst.trans (hs.me x)), ?_⟩
      rw [← hbears.src, ← haddr]
      exact filed_grow h.filed x x e hfiled
  read := by
    intro x sk p sz hp
    obtain ⟨hsz, haddressed⟩ := hs.read x sk p sz hp
    exact ⟨hsz, haddressed.mono (List.Subset.refl _) (filed_grow h.filed id x e)⟩

/-- A call that writes. -/
theorem truthful_sendmsg {h : Hosts} (hs : Truthful h) {id : U32} {msg : MsgHdr} {readable : Bool}
    {k : Kernel} {ret : Int} {t : Sys}
    (hrun : Vrr.vrr_sendmsg msg readable { h.net.sys id with kern := k } = .ok (ret, t)) :
    Truthful { h with
      net := { h.net with sys := Function.update h.net.sys id t }
      written := h.written ++
        msg.msg_name.toList.map (fun dest => ⟨id, dest, msg.msg_iov⟩) } := by
  obtain ⟨hnode, hsent⟩ := (Vrr.vrr_sendmsg_packet (h.net.sys id).node (h.net.sys id).sent msg
    readable).ok (s := { h.net.sys id with kern := k }) ⟨rfl, rfl⟩ hrun
  have hsame : ∀ x, (Function.update h.net.sys id t x).node = (h.net.sys x).node := by
    intro x
    by_cases hx : x = id
    · rw [hx, Function.update_self, hnode]
    · rw [Function.update_of_ne hx]
  have hgrow : h.written ⊆ h.written ++
      msg.msg_name.toList.map (fun dest => SendCall.mk id dest msg.msg_iov) :=
    List.subset_append_left _ _
  refine ⟨fun x => ?_, fun x => ?_, fun x p hp hty => ?_, fun x sk p hp => ?_,
    fun x sk p sz hp => ?_⟩
  · exact (congrArg Node.me (hsame x)).trans (hs.me x)
  · change FiledIn (Function.update h.net.sys id t x).node.vrr_socks _
    rw [hsame x]
    exact hs.socks x
  · have hp : p ∈ (Function.update h.net.sys id t x).sent := hp
    have hold : p ∈ (h.net.sys x).sent → ∃ call ∈ h.written ++
        msg.msg_name.toList.map (fun dest => ⟨id, dest, msg.msg_iov⟩), Bears call p := by
      intro hp
      rcases hs.sent x p hp hty with ⟨call, hcall, hbears⟩
      exact ⟨call, hgrow hcall, hbears⟩
    by_cases hx : x = id
    · rw [hx, Function.update_self] at hp
      rcases hsent with ⟨_, hnone⟩ | ⟨_, q, hq, hone⟩
      · rw [hnone] at hp
        exact hold (hx ▸ hp)
      · rw [hone] at hp
        rcases List.mem_append.mp hp with hp | hp
        · exact hold (hx ▸ hp)
        · rw [List.mem_singleton.mp hp]
          cases hq with
          | mk dest mac data hname _ hdata =>
              rw [hs.me id, hname]
              exact ⟨⟨id, dest, msg.msg_iov⟩, List.mem_append_right _ (List.mem_singleton_self _),
                bears_data_packet _ mac ⟨id, dest, msg.msg_iov⟩ data hdata⟩
    · rw [Function.update_of_ne hx] at hp
      exact hold hp
  · exact (hs.queued x sk p hp).mono hgrow (List.Subset.refl _)
  · obtain ⟨hsz, haddressed⟩ := hs.read x sk p sz hp
    exact ⟨hsz, haddressed.mono hgrow (List.Subset.refl _)⟩

/-- A call that reads. -/
theorem truthful_recvmsg {h : Hosts} (hs : Truthful h) (id : U32) (sk : Nat) (connected : Bool)
    (call : RecvCall) :
    Truthful { h with
      sk_receive_queue := Function.update h.sk_receive_queue id
        (Function.update (h.sk_receive_queue id) sk
          (vrr_recvmsg ⟨h.sk_receive_queue id sk, connected⟩ call).2.sk_receive_queue)
      read := h.read ++
        [(id, sk, (vrr_recvmsg ⟨h.sk_receive_queue id sk, connected⟩ call).1)] } := by
  obtain ⟨hcopied, hrest⟩ := recvmsg_source ⟨h.sk_receive_queue id sk, connected⟩ call
  refine ⟨hs.me, hs.socks, hs.sent, fun x sk' p hp => ?_, fun x sk' p sz hp => ?_⟩
  · refine hs.queued x sk' p ?_
    have hp : p ∈ Function.update h.sk_receive_queue id (Function.update (h.sk_receive_queue id) sk
      (vrr_recvmsg ⟨h.sk_receive_queue id sk, connected⟩ call).2.sk_receive_queue) x sk' := hp
    by_cases hx : x = id
    · rw [hx, Function.update_self] at hp
      rw [hx]
      by_cases hsk : sk' = sk
      · rw [hsk, Function.update_self] at hp
        rw [hsk]
        exact hrest hp
      · rw [Function.update_of_ne hsk] at hp
        exact hp
    · rw [Function.update_of_ne hx] at hp
      exact hp
  · rcases List.mem_append.mp hp with hold | hnew
    · exact hs.read x sk' p sz hold
    · have heq := List.mem_singleton.mp hnew
      simp only [Prod.mk.injEq] at heq
      obtain ⟨rfl, rfl, heq⟩ := heq
      obtain ⟨hsz, hmem⟩ := hcopied p sz heq.symm
      exact ⟨hsz, hs.queued x sk' p hmem⟩

theorem truthful_step {h h' : Hosts} {i : U32 × HostEvent × Kernel}
    (hstep : Hosts.Step DataSent h i h') (hs : Truthful h) : Truthful h' := by
  rcases i with ⟨id, e, k⟩
  cases e with
  | event e kept =>
      rcases hstep with ⟨net, hnet, rfl⟩
      exact truthful_event hs hnet
  | vrr_sendmsg msg readable =>
      rcases hstep with ⟨ret, t, hrun, rfl⟩
      exact truthful_sendmsg hs hrun
  | vrr_recvmsg sk connected call =>
      rw [show h' = _ from hstep]
      exact truthful_recvmsg hs id sk connected call

/-- In every run of any hosts, whatever is lost, doubled or delayed, a message
    that a program reads whole has been written for this node, at a node under
    whose address the socket was filed. It is that message up to its length
    modulo `2 ^ 16`. -/
theorem messages_genuine (g : U32 → Nat → U32) (gm : U32 → Nat → MacAddr) (k : U32 → Kernel)
    (h : Hosts) (hrun : Reach (Hosts.Step DataSent) (Hosts.boot g gm k) h) (id : U32) (sk : Nat)
    (ret : RecvResult) (hret : (id, sk, ret) ∈ h.read) (beyond : Nat → U8) (m : List U8)
    (hm : ret.message beyond = some m) :
    ∃ call ∈ h.written, call.dest = id ∧ ⟨sk, call.id⟩ ∈ h.filed id ∧
      m.length = call.msg_iov.length % 2 ^ 16 ∧
      (call.msg_iov.length < 2 ^ 31 → m = call.msg_iov.take (call.msg_iov.length % 2 ^ 16)) := by
  have hinv : Truthful h := by
    refine hrun.invariant Truthful ?_ (fun u i v hu hstep => truthful_step hstep hu)
    exact ⟨fun _ => rfl, fun _ _ _ hv => absurd hv List.not_mem_nil,
      fun _ _ hp => absurd hp List.not_mem_nil, fun _ _ _ hp => absurd hp List.not_mem_nil,
      fun _ _ _ _ hp => absurd hp List.not_mem_nil⟩
  cases ret with
  | error err => cases hm
  | waits => cases hm
  | unwritable skb sz => cases hm
  | copied skb sz msg_trunc =>
      cases msg_trunc with
      | true => cases hm
      | false =>
          rcases hinv.read id sk skb sz hret with ⟨hsz, call, hcall, hbears, hdest, hfiled⟩
          have hm := Option.some.inj hm
          rw [hbears.len] at hsz
          refine ⟨call, hcall, hdest, hfiled, ?_, fun hlt => ?_⟩
          · rw [← hm, List.length_append, List.length_take, List.length_map, List.length_range]
            omega
          · -- there is nothing to read behind a packet that is whole
            have hle := Nat.mod_le call.msg_iov.length (2 ^ 16)
            rw [← hm, hbears.data hlt, hsz, Nat.sub_eq_zero_of_le hle, List.range_zero,
              List.map_nil, List.append_nil]

/-- Node 1 gets a path to node 2, and a program on it writes to one on node 2,
    which has filed a socket for node 1 and reads. -/
def writing_events : List (U32 × HostEvent × Kernel) :=
  let seven := { Kernel.calm with random := fun _ => 7 }
  [(1, .event (.vrr_rcv (frame 2 VRR_HELLO 2 0 [1, 0, 0, 1, 1])) true, seven),
    (1, .event .pset_update_handler true, seven),
    (2, .event (.vrr_rcv (frame 1 VRR_HELLO 1 0 [0, 0, 0, 1, 2])) true, seven),
    (2, .event .pset_update_handler true, seven),
    (2, .event (.vrr_rcv ⟨build_packet 1 VRR_SETUP_REQ 1 1 2 [2, 0], 1, 0⟩) true, seven),
    (1, .event (.vrr_rcv ⟨build_packet 1 VRR_SETUP 2 1 1 [7, 2, 0], 2, 0⟩) true, seven),
    (2, .event (.vrr_hash_sock ⟨0, 1⟩) true, seven),
    (1, .vrr_sendmsg ⟨some 2, [5, 6]⟩ true, seven),
    (2, .event (.vrr_rcv ⟨data_packet 1 1 2 2 2 [5, 6], 1, 0⟩) true, seven),
    (2, .vrr_recvmsg 0 true ⟨10, false, false, true⟩, seven)]

theorem dataSent_of_one (net : Ether) (id : U32) (skb : SkBuff)
    (h : decide (skb.pkt.vh.pkt_type ≠ VRR_DATA ∨ skb.pkt ∈ (net.sys 1).sent) = true) :
    DataSent net id skb := by
  intro hty
  exact ⟨1, (of_decide_eq_true h).resolve_left (not_not_intro hty)⟩

/-- What is read at the end of that run is what was written. -/
theorem messages_genuine_two :
    ∃ h, Reach (Hosts.Step DataSent) (Hosts.boot (fun _ _ => 0) (fun _ _ => 0)
        (fun _ => Kernel.calm)) h ∧
      h.read = [(2, 0, .copied (data_packet 1 1 2 2 2 [5, 6]) 2 false)] ∧
      ∃ call ∈ h.written, call.dest = 2 ∧ ⟨0, call.id⟩ ∈ h.filed 2 ∧
        [5, 6].length = call.msg_iov.length % 2 ^ 16 ∧
        (call.msg_iov.length < 2 ^ 31 →
          [5, 6] = call.msg_iov.take (call.msg_iov.length % 2 ^ 16)) := by
  have heval : (Hosts.run (fun net _ skb => decide (skb.pkt.vh.pkt_type ≠ VRR_DATA ∨
        skb.pkt ∈ (net.sys 1).sent)) (Hosts.boot (fun _ _ => 0) (fun _ _ => 0)
      (fun _ => Kernel.calm)) writing_events).map Hosts.read =
      some [(2, 0, .copied (data_packet 1 1 2 2 2 [5, 6]) 2 false)] := by
    decide +kernel
  rcases Option.map_eq_some_iff.mp heval with ⟨h, hh, hread⟩
  have hreach := Hosts.reach_run dataSent_of_one _ _ h _ Reach.refl hh
  exact ⟨h, hreach, hread, messages_genuine (fun _ _ => 0) (fun _ _ => 0) (fun _ => Kernel.calm) h
    hreach 2 0 _ (by rw [hread]; exact List.mem_singleton_self _) (fun _ => 0) [5, 6] rfl⟩

end AlpacaVrr
