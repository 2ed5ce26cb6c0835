import AlpacaVrr.Theory.Outcomes
import AlpacaVrr.Theory.Relays

/-!
# Paths Are Permanent

As long as allocations succeed and setups come from neighbours, no path is
ever torn down.

A teardown is sent in three places. Two of them follow a setup: one from a node
that is no neighbour, and one whose route cannot be filed, which takes a failed
allocation. The third passes a teardown on. So the first teardown of a network
has one of the two other causes, and without them there is none. Neither a
neighbour that falls silent nor an id that is evicted from a virtual set is
among the causes.

A route leaves a table only along with a teardown, sent or received. What a node
has filed under an endpoint therefore stays, in its order, behind what is filed
there later.

## Main definitions

* `Untroubled`: No allocation fails and no teardown has been sent.
* `Regular`: A setup that arrives is from a neighbour, a teardown has been sent.

## Theorems

* `vrr_rcv_untroubled`: A handler sends no teardown of its own accord.
* `outcome_grows`: Nor does it remove a route.
* `paths_permanent`: So nothing is ever removed.
-/

namespace AlpacaVrr

open FaultState

/-- Two assertions that the operations keep. -/
theorem Routine.and {T : U8 → Prop} {I J : Sys → Prop} (h : Routine (fun _ => True) I)
    (h' : Routine T J) : Routine T (fun s => I s ∧ J s) where
  draws := ⟨(h.draws.uninit.and h'.draws.uninit).lax,
    fun size => ((h.draws.kmalloc size).and (h'.draws.kmalloc size)).lax⟩
  random := (h.random.and h'.random).lax
  pset_get_proxy := (h.pset_get_proxy.and h'.pset_get_proxy).lax
  vrr_output := fun skb pkt hT => ((h.vrr_output skb pkt trivial).and
    (h'.vrr_output skb pkt hT)).lax
  kfree_skb := fun skb => ((h.kfree_skb skb).and (h'.kfree_skb skb)).lax
  overrun := fun size n => ((h.overrun size n).and (h'.overrun size n)).lax
  rt_remove_route := fun ea pid => ((h.rt_remove_route ea pid).and
    (h'.rt_remove_route ea pid)).lax
  vset_add := fun id rem => ((h.vset_add id rem).and (h'.vset_add id rem)).lax
  vset_remove := fun id => ((h.vset_remove id).and (h'.vset_remove id)).lax
  activate := (h.activate.and h'.activate).lax
  rt_add_route := fun ea eb na nb pid => ((h.rt_add_route ea eb na nb pid).and
    (h'.rt_add_route ea eb na nb pid)).lax

/-- No allocation is going to fail, and no teardown has been sent. -/
def Untroubled (s : Sys) : Prop :=
  (True → ∀ i, s.kern.kmalloc i = true) ∧ ∀ p ∈ s.sent, p.vh.pkt_type ≠ VRR_TEARDOWN

theorem routine_untroubled : Routine (fun ty => ty ≠ VRR_TEARDOWN) Untroubled := by
  refine (routine_reliable True).and
    (routine_sent (fun _ l => ∀ p ∈ l, p.vh.pkt_type ≠ VRR_TEARDOWN) ?_)
  intro n l p hp hl q hq
  rcases List.mem_append.mp hq with hq | hq
  · exact hl q hq
  · rw [List.mem_singleton.mp hq]
    exact hp

/-- A route that is filed with all the memory it needs is filed behind none. -/
theorem routed_grows {n m : Node} {r : RtEntry} {ok : Bool} (h : Routed True n r ok m) :
    ok = true ∧ ∀ e, n.rt.routes e <:+ m.rt.routes e := by
  obtain ⟨rb, alloc, halloc, hok, rfl⟩ := h
  rw [halloc trivial] at hok ⊢
  have hfiled : (n.rt.rt_add_route rb RtAlloc.ok r.ea r.eb r.na r.nb r.path_id).1 = true :=
    rt_add_route_ok rb n.rt.root r.ea r.eb r.na r.nb r.path_id
  refine ⟨hok.trans hfiled, fun e => ?_⟩
  simp only
  rw [RtTable.routes_add rb _ n.rt r.ea r.eb r.na r.nb r.path_id e hfiled, ← List.append_assoc]
  exact List.suffix_append _ _

namespace Vrr

theorem rt_add_route_untroubled (r : RtEntry) :
    Triple Untroubled (rt_add_route r.ea r.eb r.na r.nb r.path_id)
      (fun ok s => Untroubled s ∧ ok = true) (fun _ => True) := by
  intro s hs
  have hstands := rt_add_route_stands (R := True) (n := s.node) r
  have hkept := routine_untroubled.rt_add_route r.ea r.eb r.na r.nb r.path_id
  have hboth : Triple (fun t => Stands True s.node t ∧ Untroubled t)
      (rt_add_route r.ea r.eb r.na r.nb r.path_id) (fun ok t => Untroubled t ∧ ok = true)
      (fun _ => True) :=
    (hstands.and hkept).lax.post (fun ok t ⟨⟨m, hrouted, _⟩, ht⟩ => ⟨ht, (routed_grows hrouted).1⟩)
  exact hboth s ⟨⟨rfl, hs.1⟩, hs⟩

theorem vrr_local_rcv_setup_untroubled (dst pid proxy : U32) (vset_size : Nat)
    (vset : Option (List U32)) :
    Preserves Untroubled (vrr_local_rcv_setup dst pid proxy vset_size vset) := by
  unfold vrr_local_rcv_setup
  refine Preserves.bind (Preserves.gets _) (fun me => ?_)
  refine Preserves.bind (SendsOwn.next_hop_via _ _) (fun nh => ?_)
  refine Triple.bind (rt_add_route_untroubled ⟨me.me, dst, me.me, nh, pid⟩)
    (fun added => Triple.of_and (fun hadded => ?_))
  rw [hadded, if_pos rfl]
  refine Preserves.ite _ (fun _ => ?_) (fun _ => Preserves.pure _)
  exact Preserves.then_pure (routine_untroubled.own.send_vset _ (by decide) _ _ _ _ _ _) 0

/-- A setup from a neighbour tears nothing down. -/
theorem vrr_rcv_setup_untroubled (skb : SkBuff) :
    Triple (fun s => Untroubled s ∧ sender_of s.node skb ≠ none) (vrr_rcv_setup skb)
      (fun _ => Untroubled) (fun _ => True) := by
  unfold vrr_rcv_setup
  refine Triple.bind (Q := fun me s => Untroubled s ∧ sender_of me skb ≠ none)
    (Triple.gets _ (fun _ hs => hs)) (fun me => Triple.of_and (fun hsender => ?_))
  refine Preserves.bind (routine_untroubled.draws.read_u32 _ _) (fun pid => ?_)
  refine Preserves.bind (routine_untroubled.draws.read_u32 _ _) (fun proxy => ?_)
  have hdef : (if skb.dev_addr = skb.h_source then some me.me
    else pset_lookup_mac me.pset skb.h_source) = sender_of me skb := rfl
  simp only [hdef]
  cases hfrom : sender_of me skb with
  | none => exact absurd hfrom hsender
  | some sender =>
      refine Preserves.bind (SendsOwn.setup_next_hop _ _) (fun nh => ?_)
      refine Triple.bind (rt_add_route_untroubled ⟨skb.pkt.src, skb.pkt.dst, sender, nh, pid⟩)
        (fun added => Triple.of_and (fun hadded => ?_))
      rw [hadded, if_pos rfl]
      refine Preserves.bind (routine_untroubled.draws.read_u32 _ _) (fun size => ?_)
      refine routine_untroubled.draws.received_vset _ _ _ _ _ (fun _ hs => hs) (fun _ vset => ?_)
      refine Preserves.ite _ (fun _ => Preserves.then_pure
        (routine_untroubled.own.send_vset _ (by decide) _ _ _ _ _ _) 0) (fun _ => ?_)
      refine Preserves.bind (routine_untroubled.handles.vrr_add (by decide) _ _) (fun ret => ?_)
      exact Preserves.ite _ (fun _ => Preserves.then_pure routine_untroubled.activate 0)
        (fun _ => Preserves.pure _)

/-- A handler sends no teardown of its own accord. -/
theorem vrr_rcv_untroubled (skb : SkBuff) (hno : skb.pkt.vh.pkt_type ≠ VRR_TEARDOWN) :
    Triple (fun s => Untroubled s ∧ (skb.pkt.vh.pkt_type = VRR_SETUP → sender_of s.node skb ≠ none))
      (vrr_rcv skb) (fun _ => Untroubled) (fun _ => True) := by
  have hweak : ∀ {x : Vrr Int}, Preserves Untroubled x →
      Triple (fun s => Untroubled s ∧
          (skb.pkt.vh.pkt_type = VRR_SETUP → sender_of s.node skb ≠ none))
        x (fun _ => Untroubled) (fun _ => True) :=
    fun h => h.conseq (fun _ hs => hs.1) (fun _ _ hs => hs) (fun _ h => h)
  have hh := routine_untroubled.handles
  refine vrr_rcv_triple
    (I := fun s => Untroubled s ∧ (skb.pkt.vh.pkt_type = VRR_SETUP → sender_of s.node skb ≠ none))
    (J := fun _ => Untroubled) skb (fun _ => ?_) (fun s hs => ⟨hs.1, fun hty => ?_⟩) (fun hty => ?_)
    (fun _ _ => hh.release) (fun _ hs => hs)
  · exact hh.release.conseq (fun _ hs => hs.1) (fun _ _ hs => hs) (fun _ h => h)
  · rw [sender_of_heard]
    exact hs.2 hty
  refine vrr_rcvfunc_triple skb hty (fun h0 => hweak (hh.vrr_rcv_data (by decide) skb h0))
    (fun _ => hweak ?_)
    (fun h2 => hweak (hh.vrr_rcv_setup_req (by decide) (by decide) skb h2
      vrr_local_rcv_setup_untroubled)) (fun h3 => ?_)
    (fun _ => hweak (hh.vrr_rcv_setup_fail (by decide) (by decide) skb))
    (fun h5 => absurd h5 hno)
  · exact hh.draws.vrr_rcv_hello skb (fun _ hs => hs)
      (fun tmp _ _ => Preserves.modify _ (fun _ hs => hs))
  · exact (vrr_rcv_setup_untroubled skb).conseq (fun _ hs => ⟨hs.1, hs.2 h3⟩) (fun _ _ hs => hs)
      (fun _ h => h)

end Vrr

/-- Nor does it remove a route. -/
theorem outcome_grows {n m : Node} {skb : SkBuff} (h : Outcome True n skb m)
    (hno : skb.pkt.vh.pkt_type ≠ VRR_TEARDOWN)
    (hsender : skb.pkt.vh.pkt_type = VRR_SETUP → sender_of n skb ≠ none) (e : U32) :
    n.rt.routes e <:+ m.rt.routes e := by
  cases h with
  | kept m hsame => rw [hsame.2.1]
  | answered m m' size nh pid ok hty hend hsize htaken hrouted =>
      obtain ⟨hok, hgrows⟩ := routed_grows hrouted
      have hrt : m.rt = n.rt := by
        rcases htaken.2.2 with ⟨left, right, rfl⟩
        rfl
      rw [if_pos hok, ← hrt]
      exact hgrows e
  | disowned pid hty hpid hnone => exact absurd hnone (hsender hty)
  | unfiled m pid na nh hty hrouted => exact absurd (routed_grows hrouted).1 (by decide)
  | passed m pid proxy size na hty hread hfrom hrouted hwhy => exact (routed_grows hrouted).2 e
  | ended m m' pid proxy size na hty hread hfrom hrouted hend hsize htaken =>
      have hrt : m'.rt = m.rt := by
        rcases htaken.2.2 with ⟨left, right, rfl⟩
        rfl
      change n.rt.routes e <:+ m'.rt.routes e
      rw [hrt]
      exact (routed_grows hrouted).2 e
  | removed route ea pid size hty hread hroute hwhy => exact absurd hty hno
  | lost m route ea pid size hty hread hroute hend hsize hoffer => exact absurd hty hno

/-- A teardown that arrives has been sent, and a setup is from a neighbour or
    from the node itself. -/
def Regular (net : Ether) (id : U32) (skb : SkBuff) : Prop :=
  (skb.pkt.vh.pkt_type = VRR_TEARDOWN → ∃ x, net.Emitted x skb.pkt) ∧
    (skb.pkt.vh.pkt_type = VRR_SETUP → sender_of (net.sys id).node skb ≠ none)

/-- An event of which this holds, with no allocation that fails. -/
def Ether.Calm (net : Ether) (i : U32 × Event × Kernel) (net' : Ether) : Prop :=
  Ether.Step Regular net i net' ∧ ∀ j, i.2.2.kmalloc j = true

/-- No node has sent a teardown. -/
def Ether.Untorn (net : Ether) : Prop := ∀ x p, net.Emitted x p → p.vh.pkt_type ≠ VRR_TEARDOWN

/-- What an event does at its node. -/
theorem step_untroubled {s t : Sys} {i : Event × Kernel} (h : Step s i t)
    (hkern : ∀ j, i.2.kmalloc j = true) (hsent : ∀ p ∈ s.sent, p.vh.pkt_type ≠ VRR_TEARDOWN)
    (hrcv : ∀ skb, i.1 = .vrr_rcv skb → skb.pkt.vh.pkt_type ≠ VRR_TEARDOWN ∧
      (skb.pkt.vh.pkt_type = VRR_SETUP → sender_of s.node skb ≠ none)) :
    (∀ p ∈ t.sent, p.vh.pkt_type ≠ VRR_TEARDOWN) ∧
      ∀ e, s.node.rt.routes e <:+ t.node.rt.routes e := by
  constructor
  · have hs : Untroubled { s with kern := i.2 } := ⟨fun _ => hkern, hsent⟩
    have hover : ∀ size n, Preserves Untroubled (Vrr.overrun .pstate size n) :=
      fun _ _ => Preserves.modify _ (fun _ hs => hs)
    have ht : Untroubled t := step_cases (I := Untroubled) h
      (fun skb r he hrun => (Vrr.vrr_rcv_untroubled skb (hrcv skb he).1).ok
        ⟨hs, (hrcv skb he).2⟩ hrun)
      (fun _ hrun => (routine_untroubled.toSends.pset_update_handler (fun _ _ _ hs => hs) hover
        (by decide)).ok hs hrun)
      (fun _ hrun => (routine_untroubled.toSends.vrr_workqueue_handler (fun _ _ _ hs => hs) hover
        (by decide)).ok hs hrun)
      (fun _ _ => hs)
    exact ht.2
  · intro e
    rcases step_outcome (R := True) h (fun _ => hkern) with ⟨skb, he, houtcome⟩ | hsame
    · refine outcome_grows houtcome (hrcv skb he).1 (fun hty => ?_) e
      rw [sender_of_heard]
      exact (hrcv skb he).2 hty
    · rw [hsame.2.1]

theorem calm_step {net net' : Ether} {i : U32 × Event × Kernel} (h : Ether.Calm net i net')
    (hno : net.Untorn) :
    net'.Untorn ∧ ∀ x e, (net.sys x).node.rt.routes e <:+ (net'.sys x).node.rt.routes e := by
  obtain ⟨⟨harrives, t, ht, rfl⟩, hkern⟩ := h
  have hlocal := step_untroubled ht hkern (hno i.1)
    (fun skb he => ⟨fun hty => ?_, (harrives skb he).2⟩)
  · have hall : ∀ x, (∀ p ∈ (Function.update net.sys i.1 t x).sent,
        p.vh.pkt_type ≠ VRR_TEARDOWN) ∧ ∀ e, (net.sys x).node.rt.routes e <:+
          (Function.update net.sys i.1 t x).node.rt.routes e := by
      intro x
      by_cases hx : x = i.1
      · rw [hx, Function.update_self]
        exact hlocal
      · rw [Function.update_of_ne hx]
        exact ⟨hno x, fun _ => List.suffix_refl _⟩
    exact ⟨fun x p hp => (hall x).1 p hp, fun x e => (hall x).2 e⟩
  · -- a teardown that arrives would have been sent before
    obtain ⟨x, hx⟩ := (harrives skb he).1 hty
    exact hno x skb.pkt hx hty

/-- In every run of every network in which no allocation fails and every setup
    is received from a neighbour, no node ever sends a teardown, and all routes
    that a node has filed under an endpoint it keeps, in their order, whatever
    is filed there later. -/
theorem paths_permanent (g : U32 → Nat → U32) (gm : U32 → Nat → MacAddr) (k : U32 → Kernel)
    (net net' : Ether) (hrun : Reach Ether.Calm (Ether.boot g gm k) net)
    (hrest : Reach Ether.Calm net net') :
    net'.Untorn ∧ ∀ x e, (net.sys x).node.rt.routes e <:+ (net'.sys x).node.rt.routes e := by
  have hno : net.Untorn := hrun.invariant Ether.Untorn
    (fun x p hp => absurd hp List.not_mem_nil) (fun u i v hu hstep => (calm_step hstep hu).1)
  refine hrest.invariant (fun v => v.Untorn ∧ ∀ x e,
    (net.sys x).node.rt.routes e <:+ (v.sys x).node.rt.routes e)
    ⟨hno, fun _ _ => List.suffix_refl _⟩ (fun u i v hu hstep => ?_)
  have hstep' := calm_step hstep hu.1
  exact ⟨hstep'.1, fun x e => (hu.2 x e).trans (hstep'.2 x e)⟩

/-- A list of events in which no allocation fails is such a run. -/
theorem reach_calm {ok : Ether → U32 → SkBuff → Bool}
    (hok : ∀ net id skb, ok net id skb = true → Regular net id skb) (net net' : Ether)
    (l : List (U32 × Event × Kernel)) (hkern : ∀ i ∈ l, ∀ j, i.2.2.kmalloc j = true)
    (h : Ether.run ok net l = some net') : Reach Ether.Calm net net' := by
  induction l using List.reverseRecOn generalizing net' with
  | nil =>
      rw [Ether.run, Option.some.injEq] at h
      rw [← h]
      exact Reach.refl
  | append_singleton l i ih =>
      obtain ⟨mid, hmid, hlast⟩ := Ether.run_append ok net net' l [i] h
      exact Reach.step i (ih mid (fun j hj => hkern j (List.mem_append_left _ hj)) hmid)
        ⟨Ether.step_of_run hok mid net' i hlast, hkern i (List.mem_append_right _
          (List.mem_singleton_self i))⟩

/-- Setups from neighbours, and no teardown. -/
def regular_setups (net : Ether) (id : U32) (skb : SkBuff) : Bool :=
  decide (skb.pkt.vh.pkt_type ≠ VRR_TEARDOWN ∧
    (skb.pkt.vh.pkt_type = VRR_SETUP → sender_of (net.sys id).node skb ≠ none))

/-- Node 2 keeps its route to node 1 when it has not heard from node 1 for so
    long that it is no neighbour any more. -/
theorem paths_permanent_two :
    ∃ net net', Reach Ether.Calm (Ether.boot (fun _ _ => 0) (fun _ _ => 0)
      (fun _ => Kernel.calm)) net ∧ Reach Ether.Calm net net' ∧
      (net.sys 2).node.rt.routes 1 = [⟨2, 1, 2, 1, 0⟩] ∧ (net'.sys 2).node.pset = [] ∧
      (net.sys 2).node.rt.routes 1 <:+ (net'.sys 2).node.rt.routes 1 := by
  have heval : (Ether.run regular_setups (Ether.boot (fun _ _ => 0) (fun _ _ => 0)
      (fun _ => Kernel.calm)) joining_events).bind (fun net =>
        (Ether.run regular_setups net
          (List.replicate 8 (2, Event.vrr_workqueue_handler, Kernel.calm))).map (fun net' =>
            ((net.sys 2).node.rt.routes 1, (net'.sys 2).node.pset))) =
      some ([⟨2, 1, 2, 1, 0⟩], []) := by
    decide +kernel
  rcases Option.bind_eq_some_iff.mp heval with ⟨net, hnet, heval'⟩
  rcases Option.map_eq_some_iff.mp heval' with ⟨net', hnet', hvals⟩
  have hok : ∀ net id skb, regular_setups net id skb = true → Regular net id skb :=
    fun net id skb h => ⟨fun hty => absurd hty (of_decide_eq_true h).1, (of_decide_eq_true h).2⟩
  have hrun := reach_calm hok _ net joining_events
    (by simp only [joining_events, List.forall_mem_cons, Kernel.calm]; simp) hnet
  have hrest := reach_calm hok net net' _
    (fun i hi j => by rw [List.eq_of_mem_replicate hi]; rfl) hnet'
  rw [Prod.mk.injEq] at hvals
  exact ⟨net, net', hrun, hrest, hvals.1, hvals.2,
    (paths_permanent (fun _ _ => 0) (fun _ _ => 0) (fun _ => Kernel.calm) net net' hrun hrest).2
      2 1⟩

end AlpacaVrr
