import AlpacaVrr.Core.Beacons
import AlpacaVrr.Theory.Detector
import AlpacaVrr.Theory.HelloUpdates
import AlpacaVrr.Theory.RoundTrip
import AlpacaVrr.Theory.Traffic

/-!
# A Node That Greets

What a node makes of its own timer and of a hello, with memory to spare.

The timer counts the entries of the physical set and sends a hello that is made
from the lists as they are then. A hello that is heard resets the count of its
sender, and the updates that are run behind it are those that were waiting and
the one of the hello. There is none of it when the hello names more neighbours
than a node may have.

## Main definitions

* `hello_of`: The hello of a node.
* `advertised_as`: How a neighbour finds itself in the hello of a node.
* `Greets.By`: What a hello leaves behind.
* `Ticked`, `Informed`: A node after its timer, and after a hello.

## Theorems

* `hello_listed_of_advertises`: A hello shows everybody its own state.
* `vrr_workqueue_handler_ticked`, `vrr_rcv_informed`: The timer, and a hello.
* `Network.beacon_spec`: A timer goes off, and the hello is heard by all.
-/

namespace AlpacaVrr

open FaultState

/-- The hello that a node sends. -/
def hello_of (n : Node) : Packet :=
  build_packet n.version VRR_HELLO n.me 0 0 (hpkt_data n.active n.pstate)

theorem hello_of_type (n : Node) : (hello_of n).vh.pkt_type = VRR_HELLO := rfl

theorem hello_of_src (n : Node) : (hello_of n).src = n.me := ntohl_htonl n.me

/-- How a hello lists a neighbour that is in this state. -/
def advertised_as : PsetStatus → HelloTrans
  | .linked => .linked
  | .pending => .pending
  | _ => .missing

/-- Every entry is found by its id. -/
theorem status_of_mem {p : Pset} (h : (pset_ids p).Nodup) {e : PsetEntry} (he : e ∈ p) :
    pset_get_status p e.node = e.status := by
  induction p with
  | nil => exact absurd he List.not_mem_nil
  | cons tmp rest ih =>
      obtain ⟨hnew, hrest⟩ := List.nodup_cons.mp h
      unfold pset_get_status pset_find
      rcases List.mem_cons.mp he with rfl | he
      · simp
      · -- the id is not that of the first entry, which comes only once
        have hne : tmp.node ≠ e.node := fun heq => hnew (heq ▸ List.mem_map_of_mem he)
        rw [List.find?_cons_of_neg (by simpa using hne)]
        exact ih hrest he

/-- A state that an entry can have is that of an entry. -/
theorem status_eq_iff {p : Pset} (h : WellKept p) (id : U32) {st : PsetStatus}
    (hst : st ≠ .unknown) :
    pset_get_status p id = st ↔ ∃ e ∈ p, e.node = id ∧ e.status = st := by
  constructor
  · intro heq
    have hmem := mem_of_pset_get_status p id (by rw [heq]; exact hst)
    obtain ⟨e, he, rfl⟩ := List.mem_map.mp hmem
    rw [status_of_mem h.distinct he] at heq
    exact ⟨e, he, rfl, heq⟩
  · rintro ⟨e, he, rfl, rfl⟩
    exact status_of_mem h.distinct he

/-- A hello made from the lists shows a neighbour the state it is in. -/
theorem hello_listed_of_advertises {ps : PsetState} {p : Pset} (hadv : Advertises ps p)
    (hkept : WellKept p) (id : U32) :
    hello_listed id (elements ps.l_active ps.la_size) (elements ps.l_not_active ps.lna_size)
      (elements ps.pending ps.p_size) = advertised_as (pset_get_status p id) := by
  have hin : ∀ c : PsetEntry → Bool, id ∈ (p.filter c).map PsetEntry.node ↔
      ∃ e ∈ p, e.node = id ∧ c e = true := by
    intro c
    simp only [List.mem_map, List.mem_filter]
    exact ⟨fun ⟨e, he, hid⟩ => ⟨e, he.1, hid, he.2⟩, fun ⟨e, he, hid, hc⟩ => ⟨e, ⟨he, hc⟩, hid⟩⟩
  have hpending : id ∈ elements ps.pending ps.p_size ↔ pset_get_status p id = .pending := by
    rw [hadv.pending.ids, hin, status_eq_iff hkept id (by decide)]
    simp [is_pending]
  -- linked neighbours are in one of two lists
  have hlinked : (id ∈ elements ps.l_active ps.la_size ∨
      id ∈ elements ps.l_not_active ps.lna_size) ↔ pset_get_status p id = .linked := by
    rw [hadv.l_active.ids, hadv.l_not_active.ids, hin, hin, status_eq_iff hkept id (by decide)]
    simp only [linked_active, linked_not_active, decide_eq_true_eq]
    constructor
    · rintro (⟨e, he, hid, hst, _⟩ | ⟨e, he, hid, hst, _⟩) <;> exact ⟨e, he, hid, hst⟩
    · rintro ⟨e, he, hid, hst⟩
      by_cases hactive : e.active = 0
      · exact Or.inr ⟨e, he, hid, hst, hactive⟩
      · exact Or.inl ⟨e, he, hid, hst, hactive⟩
  rw [hello_listed_eq, if_congr hpending rfl rfl, if_congr hlinked rfl rfl]
  cases pset_get_status p id <;> rfl

/-- The fields of a packet are what they are. -/
theorem Greets.unique {p : Packet} {active active' : U32}
    {la la' lna lna' pending pending' : List U32}
    (h : Greets p active la lna pending) (h' : Greets p active' la' lna' pending') :
    active = active' ∧ la = la' ∧ lna = lna' ∧ pending = pending' := by
  -- two sizes read at the same place, and then two lists
  have hsize : ∀ {offset : Nat} {l l' : List U32},
      (∃ n : U32, word p offset = some n ∧ n.toNat = l.length) →
      (∃ n : U32, word p offset = some n ∧ n.toNat = l'.length) → l.length = l'.length := by
    rintro offset l l' ⟨n, hn, hlen⟩ ⟨n', hn', hlen'⟩
    rw [hn, Option.some.injEq] at hn'
    rw [← hlen, ← hlen', hn']
  have hla := hsize h.word_la h'.word_la
  have hlna := hsize h.word_lna h'.word_lna
  have hp := hsize h.word_p h'.word_p
  have hlists := h'.words_la
  rw [← hla, h.words_la, Option.some.injEq] at hlists
  have hlists' := h'.words_lna
  rw [← hla, ← hlna, h.words_lna, Option.some.injEq] at hlists'
  have hlists'' := h'.words_p
  rw [← hla, ← hlna, ← hp, h.words_p, Option.some.injEq] at hlists''
  have hactive := h'.word_active
  rw [h.word_active, Option.some.injEq] at hactive
  exact ⟨hactive, hlists, hlists', hlists''⟩

/-- A node after the work of its timer. -/
structure Ticked (n m : Node) : Prop where
  me : m.me = n.me
  pset : m.pset = n.pset.filterMap counted
  queue : m.pset_updates = n.pset_updates
  lists : Advertises m.pstate m.pset

/-- The updates that a hello leaves behind: none or one, and the one that its
    lists say when there is no more in them than there may be. -/
structure Greets.By (me : U32) (skb : SkBuff) (us : List PsetUpdate) : Prop where
  node : ∀ u ∈ us, u.node = skb.pkt.src
  whole : ∀ active la lna p, Greets skb.pkt active la lna p →
    us = [⟨skb.pkt.src, skb.h_source, hello_listed me la lna p, active⟩]

namespace Vrr

section Node

variable {n : Node} {l : List Packet} {g : Nat → Garbage}

theorem detect_failures_at (h : Advertises n.pstate n.pset) :
    Triple (Sys.At n l g) detect_failures
      (fun _ s => ∃ ps, Advertises ps (n.pset.filterMap counted) ∧
        s.At { n with pset := n.pset.filterMap counted, pstate := ps } l g) (fun _ => False) := by
  refine (detect_failures_triple
    (I := fun p s => ∃ ps, Advertises ps p ∧ s.At { n with pset := p, pstate := ps } l g)
    (fun done tmp pos => ?_) (fun done tmp pos hdue => ?_) (fun p s hs => ?_) n.pset).pre
    (fun s hs => ⟨n.pstate, h, hs⟩)
  · unfold detect_failure
    refine Triple.of_exists (fun ps => ?_)
    refine Triple.pre (Triple.of_and (fun hadv => ?_)) (fun s hs => And.symm hs)
    refine Triple.bind (set_node_at _) (fun _ => ?_)
    cases hmark : (fail_entry tmp).2 with
    | true =>
        exact pset_state_update_at.post
          (fun _ s hs => ⟨_, advertises_pset_state_update _ _, hs⟩)
    | false =>
        refine Triple.pure _ (fun s hs => ⟨ps, advertises_of_forget _ _ _ ?_ hadv, hs⟩)
        simp only [List.map_append, List.map_cons, forget_fail_entry tmp hmark]
  · -- what is deleted has been marked before
    have hfailed := status_fail_entry tmp (Nat.le_trans (by decide) hdue)
    refine Triple.of_exists (fun ps => ?_)
    refine Triple.pre (Triple.of_and (fun hadv => ?_)) (fun s hs => And.symm hs)
    exact (set_node_at _).post
      (fun _ s hs => ⟨ps, advertises_of_deletion _ _ _ _ hfailed hadv, hs⟩)
  · obtain ⟨ps, _, hs⟩ := hs
    rw [hs.node]

/-- The hello goes out to all. -/
theorem send_hpkt_at :
    Triple (Sys.At n l g) send_hpkt (fun _ => Sys.At n (l ++ [hello_of n]) g)
      (fun _ => False) := by
  unfold send_hpkt
  refine Triple.bind me_at (fun me => Triple.of_and (fun hme => ?_))
  rw [hme]
  refine Triple.bind (kmalloc_at 1) (fun data => Triple.of_and (fun hdata => ?_))
  refine Triple.ite _ (fun _ => ?_) (fun h => absurd hdata h)
  refine Triple.bind (kmalloc_at 1) (fun skb => Triple.of_and (fun hskb => ?_))
  refine Triple.ite _ (fun _ => ?_) (fun h => absurd hskb h)
  exact Triple.bind (vrr_output_at _ _) (fun _ => Triple.pure _ (fun s hs => hs))

/-- The timer's work ends with one hello, made from the set as it is then. -/
theorem vrr_workqueue_handler_ticked (h : Advertises n.pstate n.pset) :
    Triple (Sys.At n l g) vrr_workqueue_handler
      (fun _ s => Ticked n s.node ∧ s.sent = l ++ [hello_of s.node]) (fun _ => False) := by
  unfold vrr_workqueue_handler
  refine Triple.bind (detect_failures_at h) (fun _ => Triple.of_exists (fun ps => ?_))
  refine Triple.pre (Triple.of_and (fun hadv => ?_)) (fun s hs => And.symm hs)
  -- the clock comes next, and has nothing to do with the set
  refine Triple.bind (Q := fun _ s => ∃ m, Ticked n m ∧ s.At m l g) ?_ (fun _ => ?_)
  · refine (set_node_at _).post (fun _ s hs => ⟨_, ⟨?_, ?_, ?_, ?_⟩, hs⟩)
    all_goals
      simp only
      split_ifs
    all_goals first | rfl | exact hadv
  · refine Triple.of_exists (fun m => ?_)
    refine Triple.pre (Triple.of_and (fun hm => ?_)) (fun s hs => And.symm hs)
    refine Triple.bind send_hpkt_at (fun _ => Triple.pure _ (fun s hs => ?_))
    rw [hs.node]
    exact ⟨hm, hs.sent⟩

/-- A hello with all its fields queues the update that they say. -/
theorem handle_hello_at (skb : SkBuff) (active : U32) (la lna p : List U32) :
    Triple (Sys.At n l g) (handle_hello skb active la lna p)
      (fun err s => s.At { n with pset_updates := n.pset_updates ++
        [⟨skb.pkt.src, skb.h_source, hello_listed n.me la lna p, active⟩] } l g ∧ err = 0)
      (fun _ => False) := by
  unfold handle_hello
  refine Triple.bind me_at (fun me => Triple.of_and (fun hme => ?_))
  rw [hme]
  refine Triple.bind (kmalloc_at 1) (fun update => Triple.of_and (fun hupdate => ?_))
  refine Triple.ite _ (fun _ => ?_) (fun h => absurd hupdate h)
  exact Triple.bind (set_node_at _) (fun _ => Triple.pure _ (fun s hs => ⟨hs, rfl⟩))

/-- A hello that is cut short, or too long, queues what it happens to say, or
    nothing. -/
theorem vrr_rcv_hello_at (skb : SkBuff) :
    Triple (Sys.At n l g) (vrr_rcv_hello skb)
      (fun _ s => ∃ us g', (∀ u ∈ us, u.node = skb.pkt.src) ∧
        s.At { n with pset_updates := n.pset_updates ++ us } l g') (fun _ => False) := by
  have hdraws : Draws (fun s : Sys => ∃ g, s.At n l g) (fun _ => False) := by
    refine ⟨Triple.of_exists (fun g => ?_), fun size => Triple.of_exists (fun g => ?_)⟩
    · exact uninit_at.post (fun _ s hs => ⟨_, hs.1⟩)
    · exact (kmalloc_at size).post (fun _ s hs => ⟨g, hs.1⟩)
  refine (hdraws.vrr_rcv_hello skb (R := fun _ s => ∃ us g', (∀ u ∈ us, u.node = skb.pkt.src) ∧
    s.At { n with pset_updates := n.pset_updates ++ us } l g') (fun s hs => ?_)
    (fun tmp hnode _ => Triple.of_exists (fun g' => ?_))).pre (fun s hs => ⟨g, hs⟩)
  · obtain ⟨g', hs⟩ := hs
    refine ⟨[], g', fun u hu => absurd hu List.not_mem_nil, ?_⟩
    rw [List.append_nil]
    exact hs
  · refine (set_node_at _).post (fun _ s hs => ⟨[tmp], g', fun u hu => ?_, hs⟩)
    rw [List.mem_singleton.mp hu]
    exact hnode

/-- A hello that is heard queues its update or none, and nothing else comes of
    it. -/
theorem vrr_rcv_informed (skb : SkBuff) (hty : skb.pkt.vh.pkt_type = VRR_HELLO) :
    Triple (Sys.At n l g) (vrr_rcv skb)
      (fun _ s => ∃ us g', Greets.By n.me skb us ∧
        s.At { heard n skb.pkt.src with pset_updates := n.pset_updates ++ us } l g')
      (fun _ => False) := by
  have hlt : skb.pkt.vh.pkt_type < VRR_NPTYPES := by
    rw [hty]
    decide
  by_cases hwhole : ∃ active la lna p, Greets skb.pkt active la lna p
  · obtain ⟨active, la, lna, p, hgreets⟩ := hwhole
    refine vrr_rcv_zero_at skb hlt ?_
    rw [vrr_rcvfunc_hello skb hty, vrr_rcv_hello_eq skb hgreets]
    refine (handle_hello_at skb active la lna p).post
      (fun err s hs => ⟨⟨_, g, ⟨fun u hu => ?_, fun active' la' lna' p' h => ?_⟩, hs.1⟩, hs.2⟩)
    · rw [List.mem_singleton.mp hu]
    · obtain ⟨rfl, rfl, rfl, rfl⟩ := hgreets.unique h
      rfl
  · refine vrr_rcv_triple (I := Sys.At (heard n skb.pkt.src) l g)
      (J := fun _ s => ∃ us g', Greets.By n.me skb us ∧
        s.At { heard n skb.pkt.src with pset_updates := n.pset_updates ++ us } l g') skb
      (fun hge => absurd hlt (BitVec.not_lt.mpr hge)) (fun s hs => ?_) (fun _ => ?_)
      (fun err _ => Triple.modify _ (fun s hs => ?_)) (fun s hs => hs)
    · exact ⟨by rw [← hs.node], hs.sent, hs.uninit, hs.alloc⟩
    · rw [vrr_rcvfunc_hello skb hty]
      refine (vrr_rcv_hello_at skb).post (fun _ s hs => ?_)
      obtain ⟨us, g', hus, hs⟩ := hs
      exact ⟨us, g', ⟨hus, fun active la lna p h => absurd ⟨active, la, lna, p, h⟩ hwhole⟩, hs⟩
    · obtain ⟨us, g', hus, hs⟩ := hs
      exact ⟨us, g', hus, hs.node, hs.sent, hs.uninit, hs.alloc⟩

/-- The updates are worked off. -/
theorem pset_update_handler_worked (h : Advertises n.pstate n.pset) :
    Triple (Sys.At n l g) pset_update_handler
      (fun _ s => s.node.me = n.me ∧ s.node.pset = n.pset_updates.foldl updated n.pset ∧
        s.node.pset_updates = [] ∧ Advertises s.node.pstate s.node.pset) (fun _ => False) := by
  have hrun := pset_update_handler_at n n.pset l n.pset_updates
  refine ((hrun.and pset_update_handler_queue).and pset_update_handler_advertises).conseq
    (fun s hs => ⟨⟨⟨?_, ?_⟩, trivial⟩, ?_⟩) (fun _ s hs => ?_) (fun _ he => he.1.1)
  · exact ⟨n.pstate, n.pset_updates, g, hs⟩
  · rw [hs.node]
  · rw [hs.node]
    exact h
  · obtain ⟨⟨⟨_, _, _, _, _, hat⟩, hqueue⟩, hlists⟩ := hs
    refine ⟨?_, ?_, hqueue, hlists⟩
    · rw [hat.node]
    · rw [hat.node]

end Node

end Vrr

/-- A node that has taken in a hello from `src`, and worked off its updates. -/
structure Informed (n : Node) (src : U32) (us : List PsetUpdate) (m : Node) : Prop where
  me : m.me = n.me
  pset : m.pset = (n.pset_updates ++ us).foldl updated (pset_reset_fail_count n.pset src)
  queue : m.pset_updates = []
  lists : Advertises m.pstate m.pset

namespace Network

variable {w : World} (hw : w.Reliable)

include hw

/-- A node is ready to run, with nothing sent. -/
theorem boot_at (net : Network) (id : U32) :
    (Sys.boot (net.nodes id) (w.kern net.handled.length)).At (net.nodes id) []
      (w.kern net.handled.length).uninit :=
  ⟨rfl, rfl, rfl, hw _⟩

/-- One hello at one node. -/
theorem hear_spec (net : Network) (p : Packet) (x y : U32) (hty : p.vh.pkt_type = VRR_HELLO)
    (hlists : Advertises (net.nodes y).pstate (net.nodes y).pset) :
    ∃ net' us m, net.hear w p x y = some net' ∧ net'.nodes = Function.update net.nodes y m ∧
      Greets.By (net.nodes y).me ⟨p, w.mac x, w.mac y⟩ us ∧ Informed (net.nodes y) p.src us m := by
  obtain ⟨s, hs, us, g, hus, hat⟩ := net.run_spec y
    (Vrr.vrr_rcv_informed ⟨p, w.mac x, w.mac y⟩ hty) (boot_at hw net y)
  -- the second run finds the node as the first one has left it
  have hnode : Function.update net.nodes y s.node y = s.node := Function.update_self y _ _
  have hlists' : Advertises (Function.update net.nodes y s.node y).pstate
      (Function.update net.nodes y s.node y).pset := by
    rw [hnode, hat.node]
    exact advertises_of_forget _ _ _ (forget_pset_reset_fail_count _ _) hlists
  have hboot := boot_at hw
    ⟨Function.update net.nodes y s.node, net.flight ++ s.sent, y :: net.handled⟩ y
  obtain ⟨t, ht, hme, hpset, hqueue, hadv⟩ := run_spec _ y
    (Vrr.pset_update_handler_worked hlists') hboot
  have hhear : net.hear w p x y = some ⟨Function.update net.nodes y t.node,
      net.flight ++ s.sent ++ t.sent, y :: y :: net.handled⟩ := by
    rw [hear, hs, Option.bind_some, ht, Function.update_idem]
  refine ⟨_, us, t.node, hhear, rfl, hus, ⟨?_, ?_, hqueue, hadv⟩⟩
  · rw [hme, hnode, hat.node]
    rfl
  · rw [hpset, hnode, hat.node]
    rfl

/-- One hello at one node after the other. -/
theorem hears_spec (net : Network) (p : Packet) (x : U32) (ys : List U32)
    (hty : p.vh.pkt_type = VRR_HELLO) (hys : ys.Nodup)
    (hlists : ∀ y ∈ ys, Advertises (net.nodes y).pstate (net.nodes y).pset) :
    ∃ net', Rounds.perform (hear w p x) net ys = some net' ∧
      (∀ y ∈ ys, ∃ us, Greets.By (net.nodes y).me ⟨p, w.mac x, w.mac y⟩ us ∧
        Informed (net.nodes y) p.src us (net'.nodes y)) ∧
      ∀ z, z ∉ ys → net'.nodes z = net.nodes z := by
  refine Rounds.perform_of_prefix (hear w p x)
    (fun done net' => (∀ y ∈ done, ∃ us, Greets.By (net.nodes y).me ⟨p, w.mac x, w.mac y⟩ us ∧
      Informed (net.nodes y) p.src us (net'.nodes y)) ∧
      ∀ z, z ∉ done → net'.nodes z = net.nodes z) ys (fun done y rest net' hl hI => ?_) net
    ⟨fun y hy => absurd hy List.not_mem_nil, fun z _ => rfl⟩
  obtain ⟨hdone, hother⟩ := hI
  have hnew : y ∉ done := by
    rw [hl] at hys
    exact fun hin => List.disjoint_of_nodup_append hys hin List.mem_cons_self
  have hself := hother y hnew
  obtain ⟨net'', us, m, hrun, hnodes, hus, hm⟩ := hear_spec hw net' p x y hty (by
    rw [hself]
    exact hlists y (by simp [hl]))
  rw [hself] at hus hm
  refine ⟨net'', hrun, fun z hz => ?_, fun z hz => ?_⟩
  · rcases List.mem_append.mp hz with hz | hz
    · have hne : z ≠ y := fun h => hnew (h ▸ hz)
      rw [hnodes, Function.update_of_ne hne]
      exact hdone z hz
    · rw [List.mem_singleton.mp hz, hnodes, Function.update_self]
      exact ⟨us, hus, hm⟩
  · rw [List.mem_append, List.mem_singleton, not_or] at hz
    rw [hnodes, Function.update_of_ne hz.2]
    exact hother z hz.1

/-- The timer goes off at a node, and its hello is heard. -/
theorem beacon_spec (net : Network) (b : Beacon) (hnodup : b.hearers.Nodup)
    (hself : b.id ∉ b.hearers)
    (hlists : ∀ z, z = b.id ∨ z ∈ b.hearers →
      Advertises (net.nodes z).pstate (net.nodes z).pset) :
    ∃ net', net.beacon w b = some net' ∧ Ticked (net.nodes b.id) (net'.nodes b.id) ∧
      (∀ y ∈ b.hearers, ∃ us,
        Greets.By (net.nodes y).me ⟨hello_of (net'.nodes b.id), w.mac b.id, w.mac y⟩ us ∧
        Informed (net.nodes y) (net.nodes b.id).me us (net'.nodes y)) ∧
      ∀ z, z ≠ b.id → z ∉ b.hearers → net'.nodes z = net.nodes z := by
  obtain ⟨s, hs, hticked, hsent⟩ := net.run_spec b.id
    (Vrr.vrr_workqueue_handler_ticked (hlists b.id (Or.inl rfl))) (boot_at hw net b.id)
  -- the others have not run yet
  have hothers : ∀ z, z ≠ b.id → Function.update net.nodes b.id s.node z = net.nodes z :=
    fun z hz => Function.update_of_ne hz _ _
  have hne : ∀ y ∈ b.hearers, y ≠ b.id := fun y hy h => hself (h ▸ hy)
  obtain ⟨net', hrun, hheard, hrest⟩ := hears_spec hw
    ⟨Function.update net.nodes b.id s.node, net.flight, b.id :: net.handled⟩
    (hello_of s.node) b.id b.hearers (hello_of_type _) hnodup (fun y hy => by
      simp only [hothers y (hne y hy)]
      exact hlists y (Or.inr hy))
  have hnode : net'.nodes b.id = s.node := by
    rw [hrest b.id hself]
    exact Function.update_self _ _ _
  refine ⟨net', ?_, ?_, fun y hy => ?_, fun z hz hzs => ?_⟩
  · rw [beacon, hs]
    simp only [Option.bind_some, hsent, List.nil_append, List.drop_left, Rounds.perform, hrun]
  · rw [hnode]
    exact hticked
  · have hy' := hheard y hy
    simp only [hothers y (hne y hy), hello_of_src, hticked.me] at hy'
    rw [hnode]
    exact hy'
  · rw [hrest z hzs]
    exact hothers z hz

end Network

end AlpacaVrr
