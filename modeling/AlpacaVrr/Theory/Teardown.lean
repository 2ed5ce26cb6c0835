import AlpacaVrr.Theory.TeardownNode

/-!
# Tearing Down a Path

What becomes of a path when one of its ends tears it down.

The message goes from node to node. Each of them removes its route, finds out
from which side the message came, and passes it on to the other side. The two
ends of a path are not treated alike. `eb` has no next hop, so the message
stops there, and the end that `teardown_side` names is `eb` itself: the node
drops its own id from its virtual set and keeps `ea`. After that `vrr_add` is
called with the source 0, an id that is offered to the virtual set like any
other, and may push `ea` out.

`ea` has itself as its next hop. The message that arrives there is sent on to
the node itself, which finds no route any more when it gets it. If the node is
not in its own physical set there is no such message, but then nothing is
dropped from the virtual set at all.

So a teardown from `eb` never does what it should, and one from `ea` does only
when `ea` is pushed out by the 0. `tear_down_iff` says exactly that. A route
counts as removed when it is no longer found under `<ea, pid>`. The copy of it
that is filed under `eb` stays where it is, whatever happens.

## Main definitions

* `Established`: A path as the setup handlers leave it.
* `TornDown`, `CopiesGone`: What a teardown should achieve.
* `TearsDown`: What it does achieve, in any order of delivery.
* `PushedOut`: The accident that makes the difference.
* `Forward`, `Backward`: A message on its way from `ea`, and from `eb`.

## Theorems

* `pass_on`: A node in the middle passes the message on.
* `forward_step`, `backward_step`: The message goes one node further.
* `forward_end`, `backward_end`: It comes to the other end.
* `forward_settles`, `backward_fails`: What the run comes to.
* `tear_down_iff`: When a teardown achieves what it should.
* `line_not_torn_down`: A path on which neither end does.
-/

namespace AlpacaVrr

open FaultState

/-- The route at the node `v i` of the path `v 0, …, v k`. -/
def path_entry (v : Nat → U32) (k : Nat) (pid : U32) (i : Nat) : RtEntry where
  ea := v 0
  eb := v k
  na := if i = 0 then v 0 else v (i - 1)
  nb := if i = k then 0 else v (i + 1)
  path_id := pid

/-- The path `v 0, …, v k` as the setup handlers leave it: each node has the
    one route, filed under both ends, neighbours on the path know each other,
    and each end is in the virtual set of the other. -/
structure Established (nodes : U32 → Node) (v : Nat → U32) (k : Nat) (pid : U32) : Prop where
  length : 0 < k
  me : ∀ i, i ≤ k → (nodes (v i)).me = v i
  distinct : ∀ i j, i ≤ k → j ≤ k → v i = v j → i = j
  nonzero : ∀ i, i ≤ k → v i ≠ 0
  entry : ∀ i, i ≤ k → path_routes (nodes (v i)) (v 0) pid = [path_entry v k pid i]
  copy : ∀ i, i ≤ k → path_entry v k pid i ∈ (nodes (v i)).rt.routes (v k)
  linked : ∀ i, i < k → pset_contains (nodes (v i)).pset (v (i + 1)) = true ∧
    pset_contains (nodes (v (i + 1))).pset (v i) = true
  ends : v k ∈ (nodes (v 0)).vset.nodes ∧ v 0 ∈ (nodes (v k)).vset.nodes

/-- Every node but the end `x` has removed its route, the last one to be told
    was the end `y`, and it does not have `x` in its virtual set. -/
def TornDown (v : Nat → U32) (k : Nat) (pid x y : U32) (net : Network) : Prop :=
  (∀ j, j ≤ k → v j ≠ x → path_routes (net.nodes (v j)) (v 0) pid = []) ∧
    net.handled.head? = some y ∧ x ∉ (net.nodes y).vset.nodes

/-- And the copy of the route filed under `eb` is gone as well. -/
def CopiesGone (v : Nat → U32) (k : Nat) (pid x : U32) (net : Network) : Prop :=
  ∀ j, j ≤ k → v j ≠ x → path_entry v k pid j ∉ (net.nodes (v j)).rt.routes (v k)

/-- The end `x` calls `tear_down_path`, and in whatever order the messages are
    delivered, the network ends up as `Q` says. -/
def TearsDown (w : World) (nodes : U32 → Node) (v : Nat → U32) (pid x : U32)
    (Q : Network → Prop) : Prop :=
  ∃ net, (Network.quiet nodes).run w x (Vrr.tear_down_path pid (v 0) null) = some net ∧
    Settles Network.enabled (Network.deliver w) Q net

/-- The id 0 is taken into the virtual set, and `id` is evicted for it. -/
def PushedOut (me id : U32) (vset : Vset) (g : Nat → Garbage) : Prop :=
  vset_should_add me vset 0 (g 0) (g 1) = true ∧
    id ∉ (vset_add me vset 0 0 (g 2) (g 3)).2.2.nodes

theorem not_mem_take_in_iff (me id : U32) (vset : Vset) (g : Nat → Garbage) (h : id ∈ vset.nodes) :
    id ∉ (take_in me vset g).nodes ↔ PushedOut me id vset g := by
  unfold take_in PushedOut
  by_cases hshould : vset_should_add me vset 0 (g 0) (g 1) = true
  · rw [if_pos hshould]
    exact ⟨fun hmem => ⟨hshould, hmem⟩, fun hpushed => hpushed.2⟩
  · rw [if_neg hshould]
    exact ⟨fun hmem => absurd h hmem, fun hpushed => absurd hpushed.1 hshould⟩

/-- Removing one id leaves the others. -/
theorem mem_nodes_vset_remove (vset : Vset) (id other : U32) (hne : id ≠ other)
    (h : id ∈ vset.nodes) : id ∈ (vset_remove vset other).2.nodes := by
  unfold vset_remove
  split_ifs with hmem
  · rcases List.mem_map.mp h with ⟨tmp, htmp, hid⟩
    refine List.mem_map.mpr ⟨tmp, (List.mem_eraseP_of_neg ?_).mpr htmp, hid⟩
    rw [hid, beq_iff_eq]
    exact hne
  · exact h

theorem enabled_iff_of_flight {net : Network} {p : Packet} (h : net.flight = [p]) :
    ∀ q, net.enabled q ↔ q = p := by
  intro q
  rw [Network.enabled, h, List.mem_singleton]

theorem not_enabled_of_flight {net : Network} (h : net.flight = []) : ∀ q, ¬ net.enabled q := by
  intro q
  rw [Network.enabled, h]
  exact List.not_mem_nil

section Path

variable {w : World} {nodes : U32 → Node} {v : Nat → U32} {k : Nat} {pid : U32}

/-- The message has left `v i` for the node after it. -/
structure Forward (nodes : U32 → Node) (v : Nat → U32) (k : Nat) (pid : U32) (i : Nat)
    (net : Network) : Prop where
  flight : ∃ version mac, net.flight = [teardown_packet version mac (v i) (v (i + 1)) (v 0) pid]
  ahead : ∀ j, i < j → j ≤ k → net.nodes (v j) = nodes (v j)
  behind : ∀ j, 0 < j → j ≤ i → path_routes (net.nodes (v j)) (v 0) pid = []
  handled : net.handled.length = i + 1

/-- The message has left `v (i + 1)` for the node before it. -/
structure Backward (nodes : U32 → Node) (v : Nat → U32) (pid : U32) (i : Nat) (net : Network) :
    Prop where
  flight : ∃ version mac, net.flight = [teardown_packet version mac (v (i + 1)) (v i) (v 0) pid]
  ahead : ∀ j, j ≤ i → net.nodes (v j) = nodes (v j)

/-- A message from the node before comes from the side of `ea`. -/
theorem side_forward (i : Nat) : Vrr.teardown_side (path_entry v k pid (i + 1)) (v i) =
    (v k, if i + 1 = k then 0 else v (i + 2)) := by
  have hna : (path_entry v k pid (i + 1)).na = v i := by
    rw [path_entry, if_neg (Nat.succ_ne_zero i), Nat.add_sub_cancel]
  exact if_pos hna

/-- The network after the first run is the one there is. -/
theorem tears_down_iff_settles {x : U32} {net : Network} {Q : Network → Prop}
    (hrun : (Network.quiet nodes).run w x (Vrr.tear_down_path pid (v 0) null) = some net) :
    TearsDown w nodes v pid x Q ↔ Settles Network.enabled (Network.deliver w) Q net := by
  constructor
  · rintro ⟨net', hrun', hsettles⟩
    rw [hrun, Option.some.injEq] at hrun'
    rw [hrun']
    exact hsettles
  · exact fun hsettles => ⟨net, hrun, hsettles⟩

section Run

variable (hest : Established nodes v k pid) (hw : w.Reliable)

include hest

/-- A message from the node after comes from the side of `eb`. -/
theorem side_backward (i : Nat) (hi : i + 2 ≤ k) :
    Vrr.teardown_side (path_entry v k pid (i + 1)) (v (i + 2)) = (v 0, v i) := by
  refine if_neg (fun h => ?_)
  have hij := hest.distinct i (i + 2) (by omega) hi h
  omega

/-- At `ea` the node before is the node itself. -/
theorem side_start : Vrr.teardown_side (path_entry v k pid 0) (v 1) = (v 0, v 0) := by
  refine if_neg (fun h => ?_)
  have h01 := hest.distinct 0 1 (by omega) hest.length h
  omega

include hw

/-- A node `v j` that still has its route removes it and tells the neighbour
    `v m` on the other side. -/
theorem pass_on (j m : Nat) (hj : j ≤ k) (hm : m ≤ k) (src : U32) (net : Network)
    (hflight : ∃ version mac, net.flight = [teardown_packet version mac src (v j) (v 0) pid])
    (hnode : net.nodes (v j) = nodes (v j))
    (hnext : (Vrr.teardown_side (path_entry v k pid j) src).2 = v m)
    (hlinked : pset_contains (nodes (v j)).pset (v m) = true) :
    ∃ p net', net.flight = [p] ∧ net.deliver w p = some net' ∧
      (∃ version mac, net'.flight = [teardown_packet version mac (v j) (v m) (v 0) pid]) ∧
      path_routes (net'.nodes (v j)) (v 0) pid = [] ∧
      (∀ i, i ≤ k → i ≠ j → net'.nodes (v i) = net.nodes (v i)) ∧
      net'.handled = v j :: net.handled := by
  rcases hflight with ⟨version, mac, hflight⟩
  have hroute : path_routes (net.nodes (v j)) (v 0) pid = [path_entry v k pid j] := by
    rw [hnode]
    exact hest.entry j hj
  have hcontains : pset_contains (heard (net.nodes (v j)) src).pset (v m) = true := by
    rw [pset_contains_heard, hnode]
    exact hlinked
  have hme : (heard (net.nodes (v j)) src).me = v j := by
    rw [hnode]
    exact hest.me j hj
  rcases deliver_pass hw hflight hroute (by rw [hnext]; exact hest.nonzero m hm) with
    ⟨net', hdeliver, hnodes, hsent, hhandled⟩
  rcases teardown_to_neighbour _ (v 0) pid _ hcontains with ⟨mac', hto⟩
  rw [hnext, hto, hme] at hsent
  refine ⟨_, net', hflight, hdeliver, ⟨_, mac', hsent⟩, ?_, fun i hi hne => ?_, hhandled⟩
  · rw [hnodes, Function.update_self]
    exact path_routes_unroute hroute
  · -- only the node that ran has changed
    rw [hnodes]
    exact Function.update_of_ne (fun heq => hne (hest.distinct i j hi hj heq)) _ _

/-- The message goes one node further. -/
theorem forward_step (i : Nat) (hi : i + 1 < k) (net : Network) (h : Forward nodes v k pid i net) :
    ∃ p net', net.flight = [p] ∧ net.deliver w p = some net' ∧
      Forward nodes v k pid (i + 1) net' := by
  have hnext : (Vrr.teardown_side (path_entry v k pid (i + 1)) (v i)).2 = v (i + 2) := by
    rw [side_forward]
    exact if_neg (by omega)
  rcases pass_on hest hw (i + 1) (i + 2) (by omega) hi (v i) net h.flight
    (h.ahead (i + 1) (by omega) (by omega)) hnext (hest.linked (i + 1) hi).1 with
    ⟨p, net', hflight, hdeliver, hsent, hgone, hothers, hhandled⟩
  refine ⟨p, net', hflight, hdeliver, hsent, fun j hij hj => ?_, fun j hj hji => ?_, ?_⟩
  · rw [hothers j hj (by omega)]
    exact h.ahead j (by omega) hj
  · by_cases heq : j = i + 1
    · rw [heq]
      exact hgone
    · rw [hothers j (by omega) heq]
      exact h.behind j hj (by omega)
  · rw [hhandled, List.length_cons, h.handled]

/-- What is known of the network after a run from `ea`. -/
structure ForwardEnd (w : World) (nodes : U32 → Node) (v : Nat → U32) (k : Nat) (pid : U32)
    (net : Network) : Prop where
  torn_down : TornDown v k pid (v 0) (v k) net ↔
    PushedOut (v k) (v 0) (vset_remove (nodes (v k)).vset (v k)).2 (w.kern k).uninit
  copy : path_entry v k pid k ∈ (net.nodes (v k)).rt.routes (v k)

/-- It comes to `eb`, which pushes `ea` out or keeps it. -/
theorem forward_end (i : Nat) (hi : i + 1 = k) (net : Network) (h : Forward nodes v k pid i net) :
    ∃ p net', net.flight = [p] ∧ net.deliver w p = some net' ∧ net'.flight = [] ∧
      ForwardEnd w nodes v k pid net' := by
  rcases h.flight with ⟨version, mac, hflight⟩
  have hnode := h.ahead (i + 1) (by omega) (by omega)
  have hroute : path_routes (net.nodes (v (i + 1))) (v 0) pid = [path_entry v k pid (i + 1)] := by
    rw [hnode]
    exact hest.entry (i + 1) (by omega)
  have hside : Vrr.teardown_side (path_entry v k pid (i + 1)) (v i) = (v k, 0) := by
    rw [side_forward, if_pos hi]
  rcases deliver_end hw hflight hroute (by rw [hside]) with
    ⟨net', hdeliver, hnodes, hsent, hhandled⟩
  rw [hside, hnode, h.handled, hi, hest.me k (Nat.le_refl k)] at hnodes
  have hne : v 0 ≠ v k := fun heq => by
    have h0k := hest.distinct 0 k (Nat.zero_le k) (Nat.le_refl k) heq
    omega
  have hvset : (net'.nodes (v k)).vset =
      take_in (v k) (vset_remove (nodes (v k)).vset (v k)).2 (w.kern k).uninit := by
    rw [hnodes, Function.update_self]
  refine ⟨_, net', hflight, hdeliver, hsent, ?_, ?_⟩
  swap
  · -- the removal is from the list of `ea`
    rw [hnodes, Function.update_self]
    change _ ∈ ((nodes (v k)).rt.rt_remove_route (v 0) pid).2.routes (v k)
    rw [RtTable.routes_remove, if_neg hne.symm]
    exact hest.copy k (Nat.le_refl k)
  -- the routes are gone and the teardown was passed on, so the set of `eb`
  -- decides
  rw [TornDown, hvset, not_mem_take_in_iff _ _ _ _ (mem_nodes_vset_remove _ _ _ hne hest.ends.2)]
  refine ⟨fun hdown => hdown.2.2, fun hpushed => ⟨fun j hj hv => ?_, ?_, hpushed⟩⟩
  · by_cases heq : j = i + 1
    · rw [hnodes, heq, hi, Function.update_self]
      rw [hnode, hi] at hroute
      exact path_routes_unroute hroute
    · rw [hnodes, Function.update_of_ne
        (fun hvk => heq (hest.distinct j (i + 1) hj (by omega) (hi ▸ hvk)))]
      exact h.behind j (Nat.pos_of_ne_zero (fun h0 => hv (by rw [h0]))) (by omega)
  · rw [hhandled, hi]
    rfl

/-- The run from `ea` has one way to go. -/
theorem forward_settles (d i : Nat) (hd : i + d + 1 = k) (net : Network)
    (h : Forward nodes v k pid i net) :
    ∃ net', (∀ Q, Settles Network.enabled (Network.deliver w) Q net ↔ Q net') ∧
      ForwardEnd w nodes v k pid net' := by
  induction d generalizing i net with
  | zero =>
      rcases forward_end hest hw i hd net h with ⟨p, net', hflight, hdeliver, hquiet, hend⟩
      refine ⟨net', fun Q => ?_, hend⟩
      rw [settles_of_only p (enabled_iff_of_flight hflight) hdeliver,
        settles_of_quiet (not_enabled_of_flight hquiet)]
  | succ d ih =>
      rcases forward_step hest hw i (by omega) net h with ⟨p, net', hflight, hdeliver, hnext⟩
      rcases ih (i + 1) (by omega) net' hnext with ⟨net'', hsettles, hend⟩
      refine ⟨net'', fun Q => ?_, hend⟩
      rw [settles_of_only p (enabled_iff_of_flight hflight) hdeliver, hsettles]

/-- The message goes one node back. -/
theorem backward_step (i : Nat) (hi : i + 2 ≤ k) (net : Network)
    (h : Backward nodes v pid (i + 1) net) :
    ∃ p net', net.flight = [p] ∧ net.deliver w p = some net' ∧ Backward nodes v pid i net' := by
  have hnext : (Vrr.teardown_side (path_entry v k pid (i + 1)) (v (i + 2))).2 = v i := by
    rw [side_backward hest i hi]
  rcases pass_on hest hw (i + 1) i (by omega) (by omega) (v (i + 2)) net h.flight
    (h.ahead (i + 1) (Nat.le_refl _)) hnext (hest.linked i (by omega)).2 with
    ⟨p, net', hflight, hdeliver, hsent, _, hothers, _⟩
  refine ⟨p, net', hflight, hdeliver, hsent, fun j hj => ?_⟩
  rw [hothers j (by omega) (by omega)]
  exact h.ahead j (by omega)

/-- At `ea` the message goes to the node itself, if it goes anywhere. -/
theorem backward_end (net : Network) (h : Backward nodes v pid 0 net) :
    ¬ Settles Network.enabled (Network.deliver w) (TornDown v k pid (v k) (v 0)) net := by
  rcases h.flight with ⟨version, mac, hflight⟩
  have hnode := h.ahead 0 (Nat.le_refl 0)
  have hroute : path_routes (net.nodes (v 0)) (v 0) pid = [path_entry v k pid 0] := by
    rw [hnode]
    exact hest.entry 0 (Nat.zero_le k)
  have hnext : (Vrr.teardown_side (path_entry v k pid 0) (v 1)).2 = v 0 := by
    rw [side_start hest]
  have hzero := hest.nonzero 0 (Nat.zero_le k)
  rcases deliver_pass hw hflight hroute (by rw [hnext]; exact hzero) with
    ⟨net', hdeliver, hnodes, hsent, _⟩
  rw [settles_of_only _ (enabled_iff_of_flight hflight) hdeliver]
  have hself : net'.nodes (v 0) = unroute (heard (net.nodes (v 0)) (v 1)) (v 0) pid := by
    rw [hnodes, Function.update_self]
  by_cases hloop : pset_contains (heard (net.nodes (v 0)) (v 1)).pset (v 0) = true
  · -- the message comes back, and there is no route for it any more
    rcases teardown_to_neighbour _ (v 0) pid _ hloop with ⟨mac', hto⟩
    rw [hnext, hto] at hsent
    refine not_settles_of_failure _ ((enabled_iff_of_flight hsent _).mpr rfl) ?_
    refine deliver_lost w net' _ _ _ _ _ _ ?_
    rw [hself]
    exact path_routes_unroute hroute
  · -- nothing is on its way any more, and `eb` is still in the virtual set
    rw [hnext, teardown_to_stranger _ _ _ _ hloop] at hsent
    rw [settles_of_quiet (not_enabled_of_flight hsent)]
    intro hdown
    refine hdown.2.2 ?_
    rw [hself, hnode]
    exact hest.ends.1

/-- The run from `eb` never goes well. -/
theorem backward_fails (i : Nat) (hi : i + 1 ≤ k) (net : Network) (h : Backward nodes v pid i net) :
    ¬ Settles Network.enabled (Network.deliver w) (TornDown v k pid (v k) (v 0)) net := by
  induction i generalizing net with
  | zero => exact backward_end hest hw net h
  | succ i ih =>
      rcases backward_step hest hw i hi net h with ⟨p, net', hflight, hdeliver, hnext⟩
      rw [settles_of_only p (enabled_iff_of_flight hflight) hdeliver]
      exact ih (by omega) net' hnext

/-- If `ea` is its own neighbour it tells itself, and does not survive it. -/
theorem not_tears_down_loop (Q : Network → Prop)
    (hloop : pset_contains (nodes (v 0)).pset (v 0) = true) :
    ¬ TearsDown w nodes v pid (v 0) Q := by
  have hroute := hest.entry 0 (Nat.zero_le k)
  rcases tear_down_run hw nodes (v 0) (v 0) pid _ hroute with ⟨net, hrun, hnodes, hsent, _⟩
  rcases teardown_to_neighbour (nodes (v 0)) (v 0) pid _ hloop with ⟨mac, hto⟩
  have hna : (path_entry v k pid 0).na = v 0 := rfl
  rw [hna, if_neg (hest.nonzero 0 (Nat.zero_le k)), hto] at hsent
  rw [tears_down_iff_settles hrun]
  have hself : net.enabled (teardown_packet (nodes (v 0)).version mac (nodes (v 0)).me (v 0)
      (v 0) pid) := by
    rw [Network.enabled, hsent]
    exact List.mem_cons_self
  -- the route is gone before the message is delivered
  have hgone : path_routes (net.nodes (v 0)) (v 0) pid = [] := by
    rw [hnodes, Function.update_self]
    exact path_routes_unroute hroute
  exact not_settles_of_failure _ hself (deliver_lost w net _ _ _ _ _ _ hgone)

/-- Otherwise the message sets out for `eb`. -/
theorem tears_down_forward (hloop : pset_contains (nodes (v 0)).pset (v 0) ≠ true) :
    ∃ net', (∀ Q, TearsDown w nodes v pid (v 0) Q ↔ Q net') ∧ ForwardEnd w nodes v k pid net' := by
  have hlength := hest.length
  rcases tear_down_run hw nodes (v 0) (v 0) pid _ (hest.entry 0 (Nat.zero_le k)) with
    ⟨net, hrun, hnodes, hsent, hhandled⟩
  have hna : (path_entry v k pid 0).na = v 0 := rfl
  have hnb : (path_entry v k pid 0).nb = v 1 := if_neg (by omega)
  rcases teardown_to_neighbour (nodes (v 0)) (v 0) pid _ (hest.linked 0 hlength).1 with ⟨mac, hto⟩
  -- of the two hops only the next node on the path is a neighbour
  rw [hna, hnb, if_neg (hest.nonzero 0 (Nat.zero_le k)), if_neg (hest.nonzero 1 hlength), hto,
    teardown_to_stranger _ _ _ _ hloop, List.nil_append, hest.me 0 (Nat.zero_le k)] at hsent
  have hforward : Forward nodes v k pid 0 net := by
    refine ⟨⟨_, mac, hsent⟩, fun j hj hjk => ?_, fun j hj hj0 => absurd hj (by omega), ?_⟩
    · rw [hnodes, Function.update_of_ne (fun heq => ?_)]
      have hj0 := hest.distinct j 0 hjk (Nat.zero_le k) heq
      omega
    · rw [hhandled]
      rfl
  rcases forward_settles hest hw (k - 1) 0 (by omega) net hforward with ⟨net', hsettles, hend⟩
  exact ⟨net', fun Q => by rw [tears_down_iff_settles hrun, hsettles], hend⟩

/-- A teardown from `eb` does not go well. -/
theorem not_tears_down_backward :
    ¬ TearsDown w nodes v pid (v k) (TornDown v k pid (v k) (v 0)) := by
  have hlength := hest.length
  rcases tear_down_run hw nodes (v k) (v 0) pid _ (hest.entry k (Nat.le_refl k)) with
    ⟨net, hrun, hnodes, hsent, _⟩
  have hk : k - 1 + 1 = k := by omega
  have hna : (path_entry v k pid k).na = v (k - 1) := if_neg (by omega)
  have hnb : (path_entry v k pid k).nb = 0 := if_pos rfl
  have hlinked := (hest.linked (k - 1) (by omega)).2
  rw [hk] at hlinked
  rcases teardown_to_neighbour (nodes (v k)) (v 0) pid _ hlinked with ⟨mac, hto⟩
  rw [hna, hnb, if_neg (hest.nonzero (k - 1) (by omega)), if_pos rfl, List.append_nil, hto,
    hest.me k (Nat.le_refl k)] at hsent
  have hbackward : Backward nodes v pid (k - 1) net := by
    refine ⟨⟨_, mac, by rw [hk]; exact hsent⟩, fun j hj => ?_⟩
    rw [hnodes, Function.update_of_ne (fun heq => ?_)]
    have hjk := hest.distinct j k (by omega) (Nat.le_refl k) heq
    omega
  rw [tears_down_iff_settles hrun]
  exact backward_fails hest hw (k - 1) (by omega) net hbackward

/-- A teardown goes well exactly when `ea` starts it, is not its own
    neighbour, and is pushed out of the virtual set of `eb` by the id 0. The
    copies filed under `eb` stay in any case. -/
theorem tear_down_iff :
    (TearsDown w nodes v pid (v 0) (TornDown v k pid (v 0) (v k)) ↔
      pset_contains (nodes (v 0)).pset (v 0) ≠ true ∧
        PushedOut (v k) (v 0) (vset_remove (nodes (v k)).vset (v k)).2 (w.kern k).uninit) ∧
    ¬ TearsDown w nodes v pid (v k) (TornDown v k pid (v k) (v 0)) ∧
    ¬ TearsDown w nodes v pid (v 0) (CopiesGone v k pid (v 0)) := by
  have hne : v k ≠ v 0 := fun heq => by
    have hk0 := hest.distinct k 0 (Nat.le_refl k) (Nat.zero_le k) heq
    have hlength := hest.length
    omega
  refine ⟨?_, not_tears_down_backward hest hw, ?_⟩
  · by_cases hloop : pset_contains (nodes (v 0)).pset (v 0) = true
    · exact iff_of_false (not_tears_down_loop hest hw _ hloop) (fun h => h.1 hloop)
    · rcases tears_down_forward hest hw hloop with ⟨net', hiff, hend⟩
      rw [hiff, hend.torn_down, and_iff_right hloop]
  · by_cases hloop : pset_contains (nodes (v 0)).pset (v 0) = true
    · exact not_tears_down_loop hest hw _ hloop
    · -- the copy under `eb` at `eb` itself is enough
      rcases tears_down_forward hest hw hloop with ⟨net', hiff, hend⟩
      rw [hiff]
      exact fun hgone => hgone k (Nat.le_refl k) hne hend.copy

end Run

end Path

/-- The path 1, 2, 3. -/
def line (i : Nat) : U32 := BitVec.ofNat 32 (i + 1)

/-- A node on it, with its hops, its neighbours, and the end it knows. -/
def line_node (id na nb peer : U32) (neighbours : List U32) : Node :=
  { vrr_init id (fun _ => 0) (fun _ => 0) with
    rt := (RtTable.empty.rt_add_route SearchTree.Rebalance.none RtAlloc.ok 1 3 na nb 7).2
    pset := neighbours.map (fun node => ⟨node, .linked, 1, node.setWidth 48, 0⟩)
    vset := (vset_add id Vset.init peer 0 (fun _ => 0) (fun _ => 0)).2.2 }

def line_nodes (id : U32) : Node :=
  if id = 1 then line_node 1 1 2 3 [2]
  else if id = 2 then line_node 2 1 3 1 [1, 3]
  else line_node 3 2 0 1 [2]

/-- Calm kernels, and an address for every id. -/
def line_world : World := ⟨fun _ => Kernel.calm, fun id => id.setWidth 48⟩

theorem established_line : Established line_nodes line 2 7 where
  length := by decide
  me := by decide +kernel
  distinct i j hi hj h := by
    have hnat := congrArg BitVec.toNat h
    simp only [line, BitVec.toNat_ofNat] at hnat
    omega
  nonzero := by decide +kernel
  entry := by decide +kernel
  copy := by decide +kernel
  linked := by decide +kernel
  ends := by decide +kernel

/-- The path with two hops meets what is asked of a path. -/
theorem tear_down_iff_line :
    (TearsDown line_world line_nodes line 7 (line 0) (TornDown line 2 7 (line 0) (line 2)) ↔
      pset_contains (line_nodes (line 0)).pset (line 0) ≠ true ∧
        PushedOut (line 2) (line 0) (vset_remove (line_nodes (line 2)).vset (line 2)).2
          (line_world.kern 2).uninit) ∧
    ¬ TearsDown line_world line_nodes line 7 (line 2) (TornDown line 2 7 (line 2) (line 0)) ∧
    ¬ TearsDown line_world line_nodes line 7 (line 0) (CopiesGone line 2 7 (line 0)) :=
  tear_down_iff established_line (fun _ _ => rfl)

/-- Torn down from either end, the path 1, 2, 3 leaves an end that does not
    know. -/
theorem line_not_torn_down :
    line_world.Reliable ∧ Established line_nodes line 2 7 ∧
      ¬ TearsDown line_world line_nodes line 7 (line 0) (TornDown line 2 7 (line 0) (line 2)) ∧
      ¬ TearsDown line_world line_nodes line 7 (line 2) (TornDown line 2 7 (line 2) (line 0)) := by
  have hw : line_world.Reliable := fun _ _ => rfl
  refine ⟨hw, established_line, ?_, not_tears_down_backward established_line hw⟩
  rcases tears_down_forward established_line hw (by decide +kernel) with ⟨net', hiff, hend⟩
  rw [hiff, hend.torn_down]
  -- there is room for the id 0, so nothing is evicted
  have hstays : line 0 ∈ (vset_add (line 2) (vset_remove (line_nodes (line 2)).vset (line 2)).2
      0 0 (fun _ => 0) (fun _ => 0)).2.2.nodes := by
    decide +kernel
  exact fun hpushed => hpushed.2 hstays

end AlpacaVrr
