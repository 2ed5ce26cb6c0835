import AlpacaVrr.Theory.Outcomes

/-!
# Where Virtual Neighbours Come From

The ids in the virtual set and the packets that brought them.

Every insertion goes through `vrr_add`, and the id that is inserted is its
first argument. The handlers of a setup and of a request pass on the source of
the packet, the handler of a failure passes on -1, which stands for no source,
and so nothing is inserted. The handler of a teardown means the same and passes
on 0. But 0 is an id like any other, and it is inserted. And nobody asks
whether the source of a packet is the node itself.

`Credible` is the condition under which neither happens. It asks no more than
that the virtual set would refuse the id, and that only in the cases in which
it is offered one. Under this condition every virtual neighbour is another
node, and one that has asked for a path or laid one.

## Main definitions

* `packets`, `Logged`: A run, with the packets received in it.
* `Refuses`, `Credible`: What the packets of a run have to meet.

## Theorems

* `outcome_brought`: What a packet can bring in, case by case.
* `neighbours_sent`: Every virtual neighbour has sent a setup or a request.
* `zero_inserted`: A run in which a teardown inserts 0.
* `self_inserted`: A run in which a request inserts the node itself.
-/

namespace AlpacaVrr

open FaultState

/-- The packet an event receives. -/
def packets : Event → List SkBuff
  | .vrr_rcv skb => [skb]
  | _ => []

/-- A step, and the packets received so far. -/
def Logged (a : Sys × List SkBuff) (i : Event × Kernel) (b : Sys × List SkBuff) : Prop :=
  Step a.1 i b.1 ∧ b.2 = a.2 ++ packets i.1

/-- A setup or a setup request. -/
def Asks (skb : SkBuff) : Prop :=
  skb.pkt.vh.pkt_type = VRR_SETUP_REQ ∨ skb.pkt.vh.pkt_type = VRR_SETUP

/-- The id is not added, whatever is in memory that was never written. -/
def Refuses (n : Node) (id : U32) : Prop :=
  ∀ left right, vset_should_add n.me n.vset id left right = false

/-- Where the packet makes the node offer itself or 0 to its virtual set, the
    offer is refused. -/
structure Credible (n : Node) (skb : SkBuff) : Prop where
  /-- A request that the node answers, and that has it as its source. -/
  setup_req : skb.pkt.vh.pkt_type = VRR_SETUP_REQ → skb.pkt.src = n.me → n.me ≠ UINT_MAX →
    RtTable.rt_get_next_exclude n.me n.rt skb.pkt.dst skb.pkt.src = 0 →
    ∀ size, Readable skb.pkt (vrr_header_size + 4) size → size.toNat ≤ VRR_VSET_SIZE →
    Refuses n n.me
  /-- The end of a path that has the node as its source. -/
  setup : skb.pkt.vh.pkt_type = VRR_SETUP → skb.pkt.src = n.me → n.me ≠ UINT_MAX →
    ∀ proxy size na, Readable skb.pkt (vrr_header_size + 4) proxy →
    Readable skb.pkt (vrr_header_size + 8) size → sender_of n skb = some na →
    setup_hop n skb.pkt.dst proxy = 0 → size.toNat ≤ VRR_VSET_SIZE → Refuses n n.me
  /-- The end of a path that is torn down. -/
  teardown : skb.pkt.vh.pkt_type = VRR_TEARDOWN →
    ∀ ea pid size route, Readable skb.pkt vrr_header_size ea →
    Readable skb.pkt (vrr_header_size + 4) pid → Readable skb.pkt (vrr_header_size + 8) size →
    (n.rt.rt_remove_route ea pid).1 = some route →
    (Vrr.teardown_side route skb.pkt.src).2 = 0 → size.toNat ≤ VRR_VSET_SIZE →
    Refuses (severed n ea pid (Vrr.teardown_side route skb.pkt.src).1) 0

/-- A packet of another node that is no teardown. -/
theorem credible_of_src {n : Node} {skb : SkBuff} (hsrc : skb.pkt.src ≠ n.me)
    (hty : skb.pkt.vh.pkt_type ≠ VRR_TEARDOWN) : Credible n skb :=
  ⟨fun _ heq => absurd heq hsrc, fun _ heq => absurd heq hsrc, fun htorn => absurd htorn hty⟩

/-- What is taken in was not refused. -/
theorem not_refuses_of_taken {n m : Node} {src : U32} (h : TakenIn n src m) : ¬ Refuses n src := by
  rcases h.2.1 with ⟨left, right, hadd⟩
  intro hrefuses
  rw [hrefuses left right] at hadd
  exact Bool.false_ne_true hadd

theorem me_of_taken {n m : Node} {src : U32} (h : TakenIn n src m) : m.me = n.me := by
  rcases h.2.2 with ⟨left, right, rfl⟩
  rfl

/-- An id that a packet brings in is its source, and another node. -/
theorem outcome_brought {R : Prop} {n m : Node} {skb : SkBuff} (h : Outcome R n skb m)
    (hcredible : Credible n skb) : m.me = n.me ∧
      ∀ v ∈ m.vset.nodes, v ∈ n.vset.nodes ∨ v = skb.pkt.src ∧ v ≠ n.me ∧ Asks skb := by
  cases h with
  | kept _ hsame => exact ⟨hsame.1, fun v hv => Or.inl (by rw [← hsame.2.2]; exact hv)⟩
  | answered m m' size nh pid ok hty hend hsize htaken hrouted =>
      rcases hrouted with ⟨rb, alloc, _, _, rfl⟩
      have hsrc : skb.pkt.src ≠ n.me := fun heq => not_refuses_of_taken htaken (by
        rw [heq]
        exact hcredible.setup_req hty heq (heq ▸ htaken.1) hend size hsize.1 hsize.2)
      -- filing and removing routes leaves the virtual set alone
      refine ⟨?_, fun v hv => ?_⟩
      · have hme := me_of_taken htaken
        split_ifs <;> exact hme
      · have hv : v ∈ m.vset.nodes := by split_ifs at hv <;> exact hv
        rcases mem_nodes_of_taken htaken hv with rfl | hmem
        · exact Or.inr ⟨rfl, hsrc, Or.inl hty⟩
        · exact Or.inl hmem
  | disowned => exact ⟨rfl, fun v hv => Or.inl hv⟩
  | unfiled _ pid na nh hty hrouted =>
      rcases hrouted with ⟨rb, alloc, _, _, rfl⟩
      exact ⟨rfl, fun v hv => Or.inl hv⟩
  | passed _ pid proxy size na hty hread hsender hrouted hwhy =>
      rcases hrouted with ⟨rb, alloc, _, _, rfl⟩
      exact ⟨rfl, fun v hv => Or.inl hv⟩
  | ended m m' pid proxy size na hty hread hsender hrouted hend hsize htaken =>
      rcases hrouted with ⟨rb, alloc, _, _, rfl⟩
      -- a node that is asked to take itself in refuses
      have hsrc : skb.pkt.src ≠ n.me := fun heq => not_refuses_of_taken htaken (by
        rw [heq]
        exact hcredible.setup hty heq (heq ▸ htaken.1) proxy size na hread.2.1 hread.2.2 hsender
          hend hsize)
      have hme := me_of_taken htaken
      refine ⟨hme, fun v hv => ?_⟩
      rcases mem_nodes_of_taken htaken hv with rfl | hmem
      · exact Or.inr ⟨rfl, hsrc, Or.inr hty⟩
      · exact Or.inl hmem
  | removed => exact ⟨rfl, fun v hv => Or.inl hv⟩
  | lost _ route ea pid size hty hread hroute hend hsize hoffer =>
      -- a teardown offers the id 0, which a credible one may not bring in
      rcases hoffer with htaken | ⟨_, rfl⟩
      · exact absurd (hcredible.teardown hty ea pid size route hread.1 hread.2.1 hread.2.2 hroute
          hend hsize) (not_refuses_of_taken htaken)
      · exact ⟨rfl, fun v hv => Or.inl (mem_nodes_of_vset_remove _ _ _ hv)⟩

/-- What `vrr_rcv` does first makes no difference to a packet. -/
theorem credible_heard {n : Node} {src : U32} {skb : SkBuff} (h : Credible n skb) :
    Credible (heard n src) skb where
  setup_req := h.setup_req
  setup := by
    intro hty hsrc hnone proxy size na hproxy hsize hsender hend
    rw [sender_of_heard] at hsender
    rw [setup_hop_heard] at hend
    exact h.setup hty hsrc hnone proxy size na hproxy hsize hsender hend
  teardown := h.teardown

/-- An event brings in the source of the packet it receives, or nothing. -/
theorem step_brought {s t : Sys} {i : Event × Kernel} (hstep : Step s i t)
    (hcredible : ∀ skb, i.1 = .vrr_rcv skb → Credible s.node skb) :
    t.node.me = s.node.me ∧ ∀ v ∈ t.node.vset.nodes, v ∈ s.node.vset.nodes ∨
      v ≠ s.node.me ∧ ∃ skb, i.1 = .vrr_rcv skb ∧ Asks skb ∧ skb.pkt.src = v := by
  rcases step_outcome (R := False) hstep False.elim with ⟨skb, he, houtcome⟩ | hsame
  · rcases outcome_brought houtcome (credible_heard (hcredible skb he)) with ⟨hme, hbrought⟩
    refine ⟨hme, fun v hv => ?_⟩
    rcases hbrought v hv with hmem | ⟨hsrc, hne, hasks⟩
    · exact Or.inl hmem
    · exact Or.inr ⟨hne, skb, he, hasks, hsrc.symm⟩
  · exact ⟨hsame.1, fun v hv => Or.inl (by rw [← hsame.2.2]; exact hv)⟩

/-- In every run whose packets are credible where they are received, a virtual
    neighbour is another node and the source of a setup or a request received
    before. And in the next step no other packet brings one in. -/
theorem neighbours_sent (id : U32) (g : Nat → U32) (gm : Nat → MacAddr) (k : Kernel) (s : Sys)
    (l : List SkBuff)
    (hrun : Reach (fun a i b => Logged a i b ∧
      ∀ skb, i.1 = .vrr_rcv skb → Credible a.1.node skb)
      (Sys.boot (vrr_init id g gm) k, []) (s, l)) :
    (∀ v ∈ s.node.vset.nodes, v ≠ s.node.me ∧ ∃ skb ∈ l, Asks skb ∧ skb.pkt.src = v) ∧
      ∀ i t, Step s i t → (∀ skb, i.1 = .vrr_rcv skb → Credible s.node skb ∧ ¬ Asks skb) →
        ∀ v ∈ t.node.vset.nodes, v ∈ s.node.vset.nodes := by
  constructor
  · refine hrun.invariant (fun a => ∀ v ∈ a.1.node.vset.nodes, v ≠ a.1.node.me ∧
      ∃ skb ∈ a.2, Asks skb ∧ skb.pkt.src = v) (fun v hv => absurd hv List.not_mem_nil) ?_
    rintro a i b hinv ⟨⟨hstep, hlog⟩, hcredible⟩ v hv
    rcases step_brought hstep hcredible with ⟨hme, hbrought⟩
    rw [hme, hlog]
    rcases hbrought v hv with hmem | ⟨hne, skb, he, hasks, hsrc⟩
    · rcases hinv v hmem with ⟨hne, skb, hskb, hasks⟩
      exact ⟨hne, skb, List.mem_append_left _ hskb, hasks⟩
    · refine ⟨hne, skb, List.mem_append_right _ ?_, hasks, hsrc⟩
      rw [he]
      exact List.mem_singleton_self skb
  · intro i t hstep hother v hv
    rcases (step_brought hstep (fun skb he => (hother skb he).1)).2 v hv with
      hmem | ⟨_, skb, he, hasks, _⟩
    · exact hmem
    · exact absurd hasks (hother skb he).2

theorem step_me {s t : Sys} {i : Event × Kernel} (hstep : Step s i t) :
    t.node.me = s.node.me := by
  have hevent := (routine_base (fun n => n.me = s.node.me)).event
    (fun _ _ h hs => h.1.trans hs) (fun _ _ => Preserves.modify _ (fun _ hs => hs)) i.1
  exact hevent.ok (s := { s with kern := i.2 }) rfl hstep

/-- A list of events is a run with the packets it receives, and a condition on
    its steps need only hold of the node that the run is of. -/
theorem reach_logged (P : Sys → Event → Prop) (a : Sys × List SkBuff) (s t : Sys)
    (log : List SkBuff) (l : List (Event × Kernel))
    (hs : Reach (fun a i b => Logged a i b ∧ P a.1 i.1) a (s, log))
    (hP : ∀ u : Sys, u.node.me = s.node.me → ∀ i ∈ l, P u i.1) (h : run_events s l = some t) :
    Reach (fun a i b => Logged a i b ∧ P a.1 i.1) a
      (t, log ++ l.flatMap (fun i => packets i.1)) := by
  induction l generalizing s log with
  | nil =>
      rw [run_events, Option.some.injEq] at h
      rw [← h, List.flatMap_nil, List.append_nil]
      exact hs
  | cons i l ih =>
      rw [run_events] at h
      cases hrun : i.1.run { s with kern := i.2 } with
      | error e =>
          rw [hrun] at h
          exact absurd h (by simp only [reduceCtorEq, not_false_eq_true])
      | ok r =>
          rw [hrun] at h
          have hstep : Step s i r.2 := hrun
          rw [List.flatMap_cons, ← List.append_assoc]
          refine ih r.2 _ (Reach.step i hs ⟨⟨hstep, rfl⟩, hP s rfl i List.mem_cons_self⟩)
            (fun u hu j hj => hP u (hu.trans (step_me hstep)) j (List.mem_cons_of_mem i hj)) h

/-- Node 2 is heard, and a path from it to node 1 is set up. -/
def greeted_setup : List (Event × Kernel) :=
  [(.vrr_rcv (frame 0x22 VRR_HELLO 2 0 [1, 0, 0, 0]), Kernel.calm),
    (.pset_update_handler, Kernel.calm),
    (.vrr_rcv (frame 0x22 VRR_SETUP 2 1 [7, 0, 0]), Kernel.calm)]

/-- And then torn down. -/
def greeted_teardown : List (Event × Kernel) :=
  greeted_setup ++ [(.vrr_rcv (frame 0x22 VRR_TEARDOWN 2 1 [2, 7, 0]), Kernel.calm)]

/-- The node at the end of a path takes its source in. -/
theorem neighbours_sent_setup :
    ∃ s l, Reach (fun a i b => Logged a i b ∧
        ∀ skb, i.1 = .vrr_rcv skb → Credible a.1.node skb) (node_one, []) (s, l) ∧
      s.node.vset.nodes = [2] ∧
      ∀ v ∈ s.node.vset.nodes, v ≠ s.node.me ∧ ∃ skb ∈ l, Asks skb ∧ skb.pkt.src = v := by
  have hends : (run_events node_one greeted_setup).map (fun t => t.node.vset.nodes) = some [2] := by
    decide +kernel
  rcases Option.map_eq_some_iff.mp hends with ⟨t, ht, hnodes⟩
  -- none of the packets is a request, or a teardown, or from node 1
  have hcredible : ∀ u : Sys, u.node.me = node_one.node.me → ∀ i ∈ greeted_setup,
      ∀ skb, i.1 = .vrr_rcv skb → Credible u.node skb := by
    intro u hme i hi skb he
    have hall : ∀ i ∈ greeted_setup, ∀ skb ∈ packets i.1,
        skb.pkt.src ≠ 1 ∧ skb.pkt.vh.pkt_type ≠ VRR_TEARDOWN := by
      decide +kernel
    have hskb := hall i hi skb (by rw [he]; exact List.mem_singleton_self skb)
    exact credible_of_src (by rw [hme]; exact hskb.1) hskb.2
  have hrun := reach_logged (fun u e => ∀ skb, e = .vrr_rcv skb → Credible u.node skb) _ node_one
    t [] greeted_setup Reach.refl hcredible ht
  exact ⟨t, _, hrun, hnodes, (neighbours_sent 1 (fun _ => 0) (fun _ => 0) Kernel.calm t _ hrun).1⟩

/-- When the path is torn down, 0 is inserted, and no packet came from 0. -/
theorem zero_inserted :
    ¬ ∀ (id : U32) (g : Nat → U32) (gm : Nat → MacAddr) (k : Kernel) (s : Sys) (l : List SkBuff),
      Reach (fun a i b => Logged a i b) (Sys.boot (vrr_init id g gm) k, []) (s, l) →
        ∀ v ∈ s.node.vset.nodes, v ≠ s.node.me ∧ ∃ skb ∈ l, Asks skb ∧ skb.pkt.src = v := by
  intro hall
  have hends : (run_events node_one greeted_teardown).map (fun t => t.node.vset.nodes) =
      some [0, 2] := by
    decide +kernel
  rcases Option.map_eq_some_iff.mp hends with ⟨t, ht, hnodes⟩
  have hrun := reach_logged (fun _ _ => True) _ node_one t [] _ Reach.refl
    (fun _ _ _ _ => trivial) ht
  rcases hall 1 (fun _ => 0) (fun _ => 0) Kernel.calm t _ (hrun.mono (fun _ _ _ h => h.1)) 0
    (by rw [hnodes]; exact List.mem_cons_self) with ⟨_, skb, hskb, _, hsrc⟩
  have hsources : ∀ skb ∈ greeted_teardown.flatMap (fun i => packets i.1), skb.pkt.src = 2 := by
    decide +kernel
  exact absurd ((hsources skb hskb).symm.trans hsrc) (by decide)

/-- Neither does a node ask whether a request is its own. -/
theorem self_inserted :
    ∃ t, Reach Step node_one t ∧ t.node.vset.nodes = [1] := by
  have hends : (run_events node_one
      [(.vrr_rcv (frame 0x22 VRR_SETUP_REQ 1 1 [0, 0]), Kernel.calm)]).map
      (fun t => t.node.vset.nodes) = some [1] := by
    decide +kernel
  rcases Option.map_eq_some_iff.mp hends with ⟨t, ht, hnodes⟩
  exact ⟨t, Reach.step _ Reach.refl (step_of_run_events _ _ _ ht), hnodes⟩

end AlpacaVrr
