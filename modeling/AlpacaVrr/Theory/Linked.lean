import AlpacaVrr.Core.Ether
import AlpacaVrr.Theory.Advertised
import AlpacaVrr.Theory.Decoding

/-!
# Linked Neighbours

Whether a neighbour that a node takes for linked has heard of the node.

The state of a neighbour becomes linked only through a hello that lists the
node. The lists of a hello are the cached ones of its sender, these agree with
its physical set, and an entry gets into that set only through a hello from
its node. Each of the four links may be stale, but none can be forged, and
what has been received once stays received. So the invariant can speak of the
record alone: an id that occurs anywhere in the state of a node has been heard
of, and an id that is linked there, or about to be, has heard of the node.

`Greeted` is the invariant of one node, for two predicates on ids: heard of by
the node, and having heard of it. The channel only comes in where a hello
arrives.

## Main definitions

* `Acquainted`, `HelloOf`, `Greeted`: The invariant of one node.
* `Heard`: One node has received a hello that the other has sent.

## Theorems

* `vrr_rcv_hello_greeted`: What a received hello queues.
* `step_greeted`: One event at one node.
* `linked_heard`: A linked neighbour has heard of the node.
-/

namespace AlpacaVrr

open FaultState

/-- The ids that a hello made of these lists has in it. -/
def listed (ps : PsetState) : List U32 :=
  elements ps.l_active ps.la_size ++ elements ps.l_not_active ps.lna_size ++
    elements ps.pending ps.p_size

/-- The entries and the queued updates are of ids satisfying `G`, and those
    that are linked, or may become linked, of ids satisfying `H`. -/
structure Acquainted (G H : U32 → Prop) (p : Pset) (queue : List PsetUpdate) : Prop where
  entries : ∀ e ∈ p, G e.node ∧ (e.status = .linked → H e.node)
  updates : ∀ u ∈ queue, G u.node ∧ (u.trans ≠ .missing → H u.node)

/-- A hello of the node `me` that lists ids satisfying `G`. -/
def HelloOf (me : U32) (G : U32 → Prop) (p : Packet) : Prop :=
  ∃ version active ps, p = build_packet version VRR_HELLO me 0 0 (hpkt_data active ps) ∧
    ∀ id ∈ listed ps, G id

/-- Only ids that have been heard of occur in the state of the node and in its
    hellos. -/
def Greeted (me : U32) (G H : U32 → Prop) (s : Sys) : Prop :=
  s.node.me = me ∧ Acquainted G H s.node.pset s.node.pset_updates ∧
    ∀ p ∈ s.sent, p.vh.pkt_type = VRR_HELLO → HelloOf me G p

theorem Greeted.mono {me : U32} {G G' H H' : U32 → Prop} {s : Sys} (h : Greeted me G H s)
    (hG : ∀ id, G id → G' id) (hH : ∀ id, H id → H' id) : Greeted me G' H' s := by
  refine ⟨h.1, ⟨fun e he => ?_, fun u hu => ?_⟩, fun p hp hty => ?_⟩
  · have hentry := h.2.1.entries e he
    exact ⟨hG _ hentry.1, fun hst => hH _ (hentry.2 hst)⟩
  · have hupdate := h.2.1.updates u hu
    exact ⟨hG _ hupdate.1, fun htrans => hH _ (hupdate.2 htrans)⟩
  · rcases h.2.2 p hp hty with ⟨version, active, ps, rfl, hlisted⟩
    exact ⟨version, active, ps, rfl, fun id hid => hG id (hlisted id hid)⟩

/-- An update makes an entry linked only if its hello lists the node. -/
theorem linked_of_hello_trans (st : PsetStatus) (trans : HelloTrans)
    (h : hello_trans st trans = .linked) : trans ≠ .missing := by
  cases st <;> cases trans <;> first | exact HelloTrans.noConfusion | exact absurd h (by decide)

section Node

variable {me : U32} {G H : U32 → Prop}

theorem acquainted_updated (p : Pset) (queue : List PsetUpdate) (tmp : PsetUpdate)
    (htmp : G tmp.node ∧ (tmp.trans ≠ .missing → H tmp.node)) (h : Acquainted G H p queue) :
    Acquainted G H (updated p tmp) queue := by
  refine ⟨fun e he => ?_, h.updates⟩
  rcases mem_updated p tmp e he with he | ⟨hid, hst⟩
  · exact h.entries e he
  · rw [hid]
    exact ⟨htmp.1, fun hlinked => htmp.2 (linked_of_hello_trans _ _ (hst.symm.trans hlinked))⟩

/-- Handlers other than that of a hello change none of this. -/
theorem routine_greeted : Routine (fun ty => ty ≠ VRR_HELLO) (Greeted me G H) := by
  refine routine_sent (fun n l => n.me = me ∧ Acquainted G H n.pset n.pset_updates ∧
    ∀ p ∈ l, p.vh.pkt_type = VRR_HELLO → HelloOf me G p) (fun n l p hty h => ⟨h.1, h.2.1, ?_⟩)
  intro q hq hello
  rcases List.mem_append.mp hq with hq | hq
  · exact h.2.2 q hq hello
  · rw [List.mem_singleton.mp hq] at hello
    exact absurd hello hty

/-- The ids in the cached lists are ids of the set. -/
theorem mem_ids_of_listed (ps : PsetState) (p : Pset) (h : Advertises ps p) (id : U32)
    (hid : id ∈ listed ps) : ∃ e ∈ p, e.node = id := by
  have hclass : ∀ c : PsetEntry → Bool, id ∈ (p.filter c).map PsetEntry.node →
      ∃ e ∈ p, e.node = id := by
    intro c hc
    rcases List.mem_map.mp hc with ⟨e, he, heq⟩
    exact ⟨e, (List.mem_filter.mp he).1, heq⟩
  unfold listed at hid
  rw [h.l_active.ids, h.l_not_active.ids, h.pending.ids] at hid
  rcases List.mem_append.mp hid with hid | hid
  · rcases List.mem_append.mp hid with hid | hid
    · exact hclass _ hid
    · exact hclass _ hid
  · exact hclass _ hid

/-- A node that a hello lists is in one of its lists. -/
theorem mem_of_hello_listed (id : U32) (la lna p : List U32)
    (h : hello_listed id la lna p ≠ .missing) : id ∈ la ∨ id ∈ lna ∨ id ∈ p := by
  rw [hello_listed_eq] at h
  split_ifs at h with hp hl
  · exact Or.inr (Or.inr hp)
  · exact hl.imp_right Or.inl
  · exact absurd rfl h

/-- The words behind the first four of a hello are the ids it lists. -/
theorem words_listed (vh : VrrHeader) (active : U32) (ps : PsetState) (i n : Nat)
    (hle : i + n ≤ (listed ps).length) :
    words ⟨vh, payload (hpkt_data active ps)⟩ (vrr_header_size + 16 + i * 4) n =
      some (((listed ps).drop i).take n) := by
  have hdata : hpkt_data active ps = [active, BitVec.ofNat 32 ps.la_size,
      BitVec.ofNat 32 ps.lna_size, BitVec.ofNat 32 ps.p_size] ++ listed ps := by
    rw [hpkt_data, listed, List.append_assoc, List.append_assoc, List.append_assoc]
    rfl
  have hoffset : vrr_header_size + 16 + i * 4 = vrr_header_size + 4 * (4 + i) := by omega
  have hlen : 4 + i + n ≤ (hpkt_data active ps).length := by
    rw [hdata, List.length_append]
    simp only [List.length_cons, List.length_nil]
    omega
  have hdrop : (hpkt_data active ps).drop (4 + i) = (listed ps).drop i := by
    rw [hdata, ← List.drop_drop]
    rfl
  rw [hoffset, words_payload vh _ (4 + i) n hlen, hdrop]

theorem length_listed (ps : PsetState) :
    (listed ps).length = ps.la_size + ps.lna_size + ps.p_size := by
  simp only [listed, elements, List.length_append, List.length_map, List.length_range]

namespace Vrr

/-- A hello queues an update that may link its sender only if the hello lists
    the node. -/
theorem vrr_rcv_hello_greeted (skb : SkBuff) (G' : U32 → Prop)
    (hello : HelloOf skb.pkt.src G' skb.pkt) (hG : G skb.pkt.src)
    (hH : G' me → H skb.pkt.src) : Preserves (Greeted me G H) (vrr_rcv_hello skb) := by
  rcases hello with ⟨version, active, ps, hp, hlisted⟩
  have hdraws : Draws (Greeted me G H) (fun _ => True) := routine_greeted.draws
  have hreject : Preserves (Greeted me G H) (pure (-1) : Vrr Int) := Preserves.pure _
  have hle : ∀ n, (BitVec.ofNat 32 n).toNat ≤ n := fun n => by
    rw [BitVec.toNat_ofNat]
    exact Nat.mod_le n _
  have hla := hle ps.la_size
  have hlna := hle ps.lna_size
  have hps := hle ps.p_size
  have hlen := length_listed ps
  -- a size that was cut off to a word only makes the lists it reads shorter
  have hwords : ∀ i n, i + n ≤ (listed ps).length →
      words skb.pkt (vrr_header_size + 16 + i * 4) n = some (((listed ps).drop i).take n) := by
    intro i n hin
    rw [hp]
    exact words_listed _ active ps i n hin
  have hmem : ∀ i n, ∀ id ∈ ((listed ps).drop i).take n, G' id :=
    fun i n id hid => hlisted id (List.mem_of_mem_drop (List.mem_of_mem_take hid))
  have hsizes : word skb.pkt vrr_header_size = some active ∧
      word skb.pkt (vrr_header_size + 4) = some (BitVec.ofNat 32 ps.la_size) ∧
      word skb.pkt (vrr_header_size + 8) = some (BitVec.ofNat 32 ps.lna_size) ∧
      word skb.pkt (vrr_header_size + 12) = some (BitVec.ofNat 32 ps.p_size) := by
    rw [hp]
    exact ⟨word_payload _ _ 0 _ rfl, word_payload _ _ 1 _ rfl, word_payload _ _ 2 _ rfl,
      word_payload _ _ 3 _ rfl⟩
  unfold vrr_rcv_hello
  simp only [read_u32_of_word hsizes.1, read_u32_of_word hsizes.2.1,
    read_u32_of_word hsizes.2.2.1, read_u32_of_word hsizes.2.2.2, pure_then]
  refine Triple.bind (Q := fun n s => Greeted me G H s ∧ n.me = me)
    (Triple.gets _ (fun s hs => ⟨hs, hs.1⟩)) (fun n => Triple.of_and (fun hn => ?_))
  refine Triple.ite _ (fun _ => hreject) (fun _ => Triple.ite _ (fun _ => hreject) (fun _ => ?_))
  refine Triple.ite _ (fun _ => hreject) (fun _ => ?_)
  -- the three lists are neighbouring stretches of the ids sent
  have hfirst := hwords 0 (BitVec.ofNat 32 ps.la_size).toNat (by omega)
  have hsecond := hwords (BitVec.ofNat 32 ps.la_size).toNat (BitVec.ofNat 32 ps.lna_size).toNat
    (by omega)
  have hthird := hwords ((BitVec.ofNat 32 ps.la_size).toNat +
    (BitVec.ofNat 32 ps.lna_size).toNat) (BitVec.ofNat 32 ps.p_size).toNat (by omega)
  rw [Nat.add_mul, ← Nat.add_assoc] at hthird
  rw [Nat.zero_mul, Nat.add_zero] at hfirst
  rw [read_array_of_words hfirst, read_array_of_words hsecond, read_array_of_words hthird]
  simp only [pure_then]
  refine Triple.bind (hdraws.kmalloc 1) (fun update => Triple.ite _ (fun _ => ?_)
    (fun _ => hreject))
  refine Preserves.then_pure (Preserves.modify _
    (fun s hs => ⟨hs.1, ⟨hs.2.1.entries, ?_⟩, hs.2.2⟩)) 0
  intro u hu
  rcases List.mem_append.mp hu with hu | hu
  · exact hs.2.1.updates u hu
  rw [List.mem_singleton.mp hu]
  refine ⟨hG, fun htrans => hH ?_⟩
  rw [← hn]
  rcases mem_of_hello_listed _ _ _ _ htrans with h | h | h
  · exact hmem _ _ _ h
  · exact hmem _ _ _ h
  · exact hmem _ _ _ h

theorem vrr_rcv_greeted (skb : SkBuff)
    (hello : skb.pkt.vh.pkt_type = VRR_HELLO → G skb.pkt.src ∧
      ∃ G', HelloOf skb.pkt.src G' skb.pkt ∧ (G' me → H skb.pkt.src)) :
    Preserves (Greeted me G H) (vrr_rcv skb) := by
  refine routine_greeted.handles.vrr_rcv skb
    (fun s hs => ⟨hs.1, ⟨fun e he => ?_, hs.2.1.updates⟩, hs.2.2⟩) (fun hty => ?_)
  · rcases mem_on_first _ _ _ e he with he | ⟨e', he', _, rfl⟩
    · exact hs.2.1.entries e he
    · exact hs.2.1.entries e' he'
  refine routine_greeted.handles.vrr_rcvfunc (fun _ h _ => h) skb hty (fun h1 => ?_)
    (fun _ => ?_) ?_
  · rcases hello h1 with ⟨hG, G', hof, hH⟩
    exact vrr_rcv_hello_greeted skb G' hof hG hH
  · exact routine_greeted.vrr_rcv_setup (by decide) (by decide) (by decide) skb
  · exact fun _ _ _ _ _ => routine_greeted.handles.vrr_local_rcv_setup (by decide) (by decide)
        routine_greeted.rt_add_route _ _ _ _ _

theorem pset_state_update_greeted : Preserves (Greeted me G H) pset_state_update :=
  pset_state_update_triple (Triple.modify _ (fun _ hs => hs))
    (fun _ _ => Preserves.modify _ (fun _ hs => hs))

/-- The hello that goes out lists ids of the set. -/
theorem send_hpkt_greeted :
    Triple (fun s => Cached (Greeted me G H) s.node.pset s) send_hpkt
      (fun _ => Greeted me G H) (fun _ => True) := by
  have hdraws : Draws (Greeted me G H) (fun _ => True) := routine_greeted.draws
  unfold send_hpkt
  refine Triple.bind (Q := fun n s => Greeted me G H s ∧ n.me = me ∧ ∀ id ∈ listed n.pstate, G id)
    (Triple.gets _ (fun s hs => ⟨hs.1, hs.1.1, fun id hid => ?_⟩))
    (fun n => Triple.of_and (fun hn => ?_))
  · rcases mem_ids_of_listed _ _ hs.2.2 id hid with ⟨e, he, rfl⟩
    exact (hs.1.2.1.entries e he).1
  refine Preserves.bind (hdraws.kmalloc 1) (fun data => Preserves.ite _ (fun _ => ?_)
    (fun _ => Preserves.fault _))
  refine Preserves.bind (hdraws.kmalloc 1) (fun skb => Preserves.ite _ (fun _ => ?_)
    (fun _ => Preserves.pure _))
  refine Preserves.then_pure (Preserves.bind (Preserves.modify _ (fun s hs => ⟨hs.1, hs.2.1,
    fun p hp hty => ?_⟩)) (fun _ => Preserves.bind (Preserves.modify _ (fun _ hs => hs))
    (fun _ => Preserves.pure _))) 0
  rcases List.mem_append.mp hp with hp | hp
  · exact hs.2.2 p hp hty
  · rw [List.mem_singleton.mp hp, ← hn.1]
    exact ⟨_, _, n.pstate, rfl, hn.2⟩

/-- The timer's work links nobody. -/
theorem vrr_workqueue_handler_greeted :
    Preserves (fun s => Cached (Greeted me G H) s.node.pset s) vrr_workqueue_handler := by
  have hcount : ∀ e : PsetEntry, (fail_entry e).1.node = e.node ∧
      ((fail_entry e).1.status = .linked → e.status = .linked) := by
    intro e
    rw [fail_entry_node, fail_entry_status]
    split_ifs
    · exact ⟨rfl, False.elim⟩
    · exact ⟨rfl, id⟩
  refine vrr_workqueue_handler_cached (fun s done tmp pos hs hp => ?_)
    (fun s done tmp pos hs hp => ?_) pset_state_update_greeted
    (fun _ _ _ hs => ⟨hs.1, ⟨hs.2.1.entries, hs.2.1.updates⟩, hs.2.2⟩) send_hpkt_greeted
  · refine ⟨hs.1, ⟨fun e he => ?_, hs.2.1.updates⟩, hs.2.2⟩
    have hold := hs.2.1.entries
    rw [hp] at hold
    rcases List.mem_append.mp he with he | he
    · exact hold e (List.mem_append_left _ he)
    rcases List.mem_cons.mp he with rfl | he
    · have htmp := hold tmp (List.mem_append_right _ List.mem_cons_self)
      rw [(hcount tmp).1]
      exact ⟨htmp.1, fun hst => htmp.2 ((hcount tmp).2 hst)⟩
    · exact hold e (List.mem_append_right _ (List.mem_cons_of_mem _ he))
  · refine ⟨hs.1, ⟨fun e he => hs.2.1.entries e ?_, hs.2.1.updates⟩, hs.2.2⟩
    rw [hp]
    exact ((List.sublist_cons_self tmp pos).append_left done).subset he

/-- Updates link only ids that have heard of the node. -/
theorem pset_update_handler_greeted (s : Sys) (hs : Cached (Greeted me G H) s.node.pset s) :
    Triple (fun t => t = s) pset_update_handler
      (fun _ t => Cached (Greeted me G H) t.node.pset t) (fun _ => True) := by
  refine pset_update_handler_cached routine_greeted.draws pset_state_update_greeted
    (fun _ _ _ => routine_greeted.own.send_setup_req (by decide) _ _ _)
    (fun t l hl ht => ⟨ht.1, ⟨ht.2.1.entries, fun u hu => ht.2.1.updates u (hl hu)⟩, ht.2.2⟩) s hs
    (fun done tmp rest hl t ht hp => ⟨ht.1, ?_, ht.2.2⟩)
  have hold := ht.2.1
  rw [hp] at hold
  refine acquainted_updated _ _ tmp (hs.1.2.1.updates tmp ?_) hold
  rw [hl]
  exact List.mem_append_right _ List.mem_cons_self

end Vrr

/-- One event at one node. A hello that arrives is one of its source, which has
    heard of the ids it lists. -/
theorem step_greeted (s t : Sys) (i : Event × Kernel)
    (hs : Vrr.Cached (Greeted me G H) s.node.pset s)
    (hello : ∀ skb, i.1 = .vrr_rcv skb → skb.pkt.vh.pkt_type = VRR_HELLO → G skb.pkt.src ∧
      ∃ G', HelloOf skb.pkt.src G' skb.pkt ∧ (G' me → H skb.pkt.src))
    (hstep : Step s i t) : Vrr.Cached (Greeted me G H) t.node.pset t := by
  refine step_cases (I := fun s => Vrr.Cached (Greeted me G H) s.node.pset s) hstep
    (fun skb r he hrun => ?_)
    (fun _ => (Vrr.pset_update_handler_greeted { s with kern := i.2 } hs).ok rfl)
    (fun _ => Vrr.vrr_workqueue_handler_greeted.ok (s := { s with kern := i.2 }) hs) (fun _ _ => hs)
  have ht := (Triple.and (Vrr.vrr_rcv_greeted skb (hello skb he)) (Vrr.vrr_rcv_advertises skb)).ok
    (s := { s with kern := i.2 }) ⟨hs.1, hs.2.2⟩ hrun
  exact ⟨ht.1, rfl, ht.2⟩

end Node

/-- The node `b` has received a hello that `a` has sent. -/
def Heard (net : Ether) (b a : U32) : Prop :=
  ∃ skb ∈ net.received b, skb.pkt.vh.pkt_type = VRR_HELLO ∧ skb.pkt.src = a ∧
    net.Emitted a skb.pkt

/-- The invariant of each node, with the records of all. -/
def Mutual (net : Ether) (x : U32) (s : Sys) : Prop :=
  Vrr.Cached (Greeted x (Heard net x) (fun id => Heard net id x)) s.node.pset s

/-- What has been received stays received. -/
theorem heard_step {net net' : Ether} {i : U32 × Event × Kernel}
    (h : Ether.Step Ether.HelloSent net i net') (b a : U32) (hheard : Heard net b a) :
    Heard net' b a := by
  rcases hheard with ⟨skb, hskb, hty, hsrc, hsent⟩
  exact ⟨skb, Ether.received_grow h b hskb, hty, hsrc, (Ether.records_grow h a).1 _ hsent⟩

theorem mutual_step {net net' : Ether} {i : U32 × Event × Kernel}
    (h : Ether.Step Ether.HelloSent net i net') (hall : ∀ x, Mutual net x (net.sys x)) :
    ∀ x, Mutual net' x (net'.sys x) := by
  refine Ether.local_invariant Mutual net net' i h (fun x hx => ?_) (fun hnew => ?_) hall
  · exact ⟨hx.1.mono (fun id => heard_step h x id) (fun id => heard_step h id x), hx.2⟩
  rcases i with ⟨id, e, k⟩
  rcases h with ⟨harrives, t, ht, hnet⟩
  have hsys : net'.sys id = t := by
    rw [hnet]
    exact Function.update_self id t net.sys
  rw [hsys]
  refine step_greeted (net.sys id) t (e, k) (hnew id) (fun skb he hty => ?_) ht
  -- the hello is in the record of its source, where it lists ids heard of
  rcases harrives skb he hty with ⟨x, hsent⟩
  have hof := (hnew x).1.2.2 skb.pkt hsent hty
  have hsrc : skb.pkt.src = x := by
    rcases hof with ⟨version, active, ps, hp, _⟩
    rw [hp]
    exact ntohl_htonl x
  have hstep : Ether.Step Ether.HelloSent net (id, e, k) net' := ⟨harrives, t, ht, hnet⟩
  rw [hsrc]
  refine ⟨⟨skb, ?_, hty, hsrc, (Ether.records_grow hstep x).1 _ hsent⟩, Heard net' x, hof,
    fun hheard => hheard⟩
  rw [hnet, show e = .vrr_rcv skb from he]
  simp only [Ether.hear, Function.update_self]
  exact List.mem_append_right _ (List.mem_singleton_self skb)

/-- In every run of every network, a node that another one has in its set as
    linked has received a hello of that other one. -/
theorem linked_heard (g : U32 → Nat → U32) (gm : U32 → Nat → MacAddr) (k : U32 → Kernel)
    (net : Ether) (hrun : Reach (Ether.Step Ether.HelloSent) (Ether.boot g gm k) net) (a b : U32)
    (hlinked : ∃ e ∈ (net.sys a).node.pset, e.node = b ∧ e.status = .linked) : Heard net b a := by
  have hinv := hrun.invariant (fun net => ∀ x, Mutual net x (net.sys x)) ?_
    (fun u i v hu hstep => mutual_step hstep hu)
  · rcases hlinked with ⟨e, he, rfl, hst⟩
    exact ((hinv a).1.2.1.entries e he).2 hst
  · intro x
    refine ⟨⟨rfl, ⟨?_, ?_⟩, ?_⟩, rfl, ⟨rfl, rfl, rfl⟩, ⟨rfl, rfl, rfl⟩, ⟨rfl, rfl, rfl⟩⟩
    · exact fun e he => absurd he List.not_mem_nil
    · exact fun u hu => absurd hu List.not_mem_nil
    · exact fun p hp => absurd hp List.not_mem_nil

/-- Node 2 sends a hello, node 1 takes it in and lists node 2 as pending in its
    own. With that one, node 2 has node 1 linked. -/
theorem linked_heard_two :
    ∃ net, Reach (Ether.Step Ether.HelloSent) (Ether.boot (fun _ _ => 0) (fun _ _ => 0)
      (fun _ => Kernel.calm)) net ∧ (∃ e ∈ (net.sys 2).node.pset, e.node = 1 ∧ e.status = .linked) ∧
      Heard net 1 2 := by
  let ok : Ether → U32 → SkBuff → Bool := fun net _ skb =>
    decide (skb.pkt ∈ (net.sys 1).sent ∨ skb.pkt ∈ (net.sys 2).sent)
  have hok : ∀ net id skb, ok net id skb = true → Ether.HelloSent net id skb := by
    intro net id skb h _
    rcases of_decide_eq_true h with h | h
    · exact ⟨1, h⟩
    · exact ⟨2, h⟩
  have heval : (Ether.run ok (Ether.boot (fun _ _ => 0) (fun _ _ => 0) (fun _ => Kernel.calm))
      [(2, .vrr_workqueue_handler, Kernel.calm),
        (1, .vrr_rcv (frame 2 VRR_HELLO 2 0 [0, 0, 0, 0]), Kernel.calm),
        (1, .pset_update_handler, Kernel.calm), (1, .vrr_workqueue_handler, Kernel.calm),
        (2, .vrr_rcv (frame 1 VRR_HELLO 1 0 [0, 0, 0, 1, 2]), Kernel.calm),
        (2, .pset_update_handler, Kernel.calm)]).map (fun net => (net.sys 2).node.pset) =
      some [⟨1, .linked, 0, 1, 0⟩] := by
    decide +kernel
  rcases Option.map_eq_some_iff.mp heval with ⟨net, hnet, hpset⟩
  have hreach := Ether.reach_run hok _ _ net _ Reach.refl hnet
  have hlinked : ∃ e ∈ (net.sys 2).node.pset, e.node = 1 ∧ e.status = .linked := by
    rw [hpset]
    exact ⟨_, List.mem_singleton_self _, rfl, rfl⟩
  exact ⟨net, hreach, hlinked, linked_heard (fun _ _ => 0) (fun _ _ => 0) (fun _ => Kernel.calm)
    net hreach 2 1 hlinked⟩

end AlpacaVrr
