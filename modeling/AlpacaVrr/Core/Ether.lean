import AlpacaVrr.Core.System

/-!
# Nodes on the Air

Any number of nodes that run side by side and hear each other's packets.

Every id has a node, so that ids are distinct, and a network of a few nodes is
one in which the others never run. Each node keeps its own records, and a
record of what it has received stands beside them. A packet that has been sent
is in the record for ever. It may arrive at any time later, at several nodes,
more than once or never, so loss, duplication and every order of delivery are
covered.

What may arrive is a parameter of the steps. The packets of the type that a
result is about come from the record of some node, and all others may hold
anything and come from anywhere.

## Main definitions

* `Addresses`: Whose device has which MAC address.
* `Ether`: The nodes and what each has received.
* `Ether.Step`: One event at one node.
* `Ether.HelloSent`, `Ether.SetupSent`: The packets that may arrive.
* `Ether.run`: The nodes after a list of events.

## Theorems

* `Ether.local_invariant`: An invariant of each node, by steps at one of them.
-/

namespace AlpacaVrr

/-- Whose device has an address. The broadcast address is nobody's. -/
structure Addresses where
  owner : MacAddr → Option U32
  broadcast : owner mac_broadcast = none

/-- The node with each id, and the packets it has received. -/
structure Ether where
  sys : U32 → Sys
  received : U32 → List SkBuff

namespace Ether

/-- All nodes freshly started. -/
def boot (g : U32 → Nat → U32) (gm : U32 → Nat → MacAddr) (k : U32 → Kernel) : Ether :=
  ⟨fun id => Sys.boot (vrr_init id (g id) (gm id)) (k id), fun _ => []⟩

/-- The node has emitted the packet at some time. -/
def Emitted (net : Ether) (id : U32) (p : Packet) : Prop := p ∈ (net.sys id).sent

/-- The record of what was received, after an event at a node. -/
def hear (received : U32 → List SkBuff) (id : U32) : Event → U32 → List SkBuff
  | .vrr_rcv skb => Function.update received id (received id ++ [skb])
  | _ => received

/-- One event at the node with this id. A packet that arrives is one of those
    that may. -/
def Step (arrives : Ether → U32 → SkBuff → Prop) (net : Ether) (i : U32 × Event × Kernel)
    (net' : Ether) : Prop :=
  (∀ skb, i.2.1 = .vrr_rcv skb → arrives net i.1 skb) ∧
    ∃ t, AlpacaVrr.Step (net.sys i.1) i.2 t ∧
      net' = ⟨Function.update net.sys i.1 t, hear net.received i.1 i.2.1⟩

/-- A hello that arrives has been sent. -/
def HelloSent (net : Ether) (_ : U32) (skb : SkBuff) : Prop :=
  skb.pkt.vh.pkt_type = VRR_HELLO → ∃ x, net.Emitted x skb.pkt

/-- A setup that arrives in a frame of `x` has been sent by `x`, to the device
    that it arrives at or to all. -/
def SetupSent (a : Addresses) (net : Ether) (id : U32) (skb : SkBuff) : Prop :=
  a.owner skb.dev_addr = some id ∧ (skb.pkt.vh.pkt_type = VRR_SETUP →
    (a.owner skb.pkt.vh.dest_mac = some id ∨ skb.pkt.vh.dest_mac = mac_broadcast) ∧
    ∃ x, a.owner skb.h_source = some x ∧ net.Emitted x skb.pkt)

/-- What holds of every node is kept by a step, if it does not mind that the
    records grow, and holds of the node at which the event was. -/
theorem local_invariant {arrives : Ether → U32 → SkBuff → Prop} (I : Ether → U32 → Sys → Prop)
    (net net' : Ether) (i : U32 × Event × Kernel) (h : Step arrives net i net')
    (hgrow : ∀ x, I net x (net.sys x) → I net' x (net.sys x))
    (hlocal : (∀ x, I net' x (net.sys x)) → I net' i.1 (net'.sys i.1))
    (hall : ∀ x, I net x (net.sys x)) : ∀ x, I net' x (net'.sys x) := by
  intro x
  by_cases hx : x = i.1
  · rw [hx]
    exact hlocal (fun y => hgrow y (hall y))
  · rcases h.2 with ⟨t, _, rfl⟩
    have hsys : Function.update net.sys i.1 t x = net.sys x := Function.update_of_ne hx t net.sys
    change I _ x (Function.update net.sys i.1 t x)
    rw [hsys]
    exact hgrow x (hall x)

/-- What has been received stays in the record. -/
theorem received_grow {arrives : Ether → U32 → SkBuff → Prop} {net net' : Ether}
    {i : U32 × Event × Kernel} (h : Step arrives net i net') (x : U32) :
    net.received x ⊆ net'.received x := by
  rcases i with ⟨id, e, k⟩
  rcases h with ⟨_, t, _, rfl⟩
  change net.received x ⊆ hear net.received id e x
  cases e with
  | vrr_rcv skb =>
      by_cases hx : x = id
      · rw [hx, hear, Function.update_self]
        exact List.subset_append_left _ _
      · rw [hear, Function.update_of_ne hx]
        exact List.Subset.refl _
  | pset_update_handler => exact List.Subset.refl _
  | vrr_workqueue_handler => exact List.Subset.refl _
  | vrr_hash_sock sk => exact List.Subset.refl _
  | vrr_unhash_sock sk => exact List.Subset.refl _

/-- The nodes after a list of events, or `none` when one of them faults or a
    packet arrives that `ok` refuses. -/
def run (ok : Ether → U32 → SkBuff → Bool) (net : Ether) : List (U32 × Event × Kernel) →
    Option Ether
  | [] => some net
  | i :: rest =>
      let refused := match i.2.1 with
        | .vrr_rcv skb => !ok net i.1 skb
        | _ => false
      if refused then none
      else match i.2.1.run { net.sys i.1 with kern := i.2.2 } with
        | .ok (_, t) =>
            run ok ⟨Function.update net.sys i.1 t, hear net.received i.1 i.2.1⟩ rest
        | .error _ => none

/-- The events of a longer list come one after the other. -/
theorem run_append (ok : Ether → U32 → SkBuff → Bool) (net net' : Ether)
    (l l' : List (U32 × Event × Kernel)) (h : run ok net (l ++ l') = some net') :
    ∃ mid, run ok net l = some mid ∧ run ok mid l' = some net' := by
  induction l generalizing net with
  | nil => exact ⟨net, rfl, h⟩
  | cons i rest ih =>
      rw [List.cons_append, run] at h
      rw [run]
      simp only at h ⊢
      split_ifs at h ⊢ with hrefused
      cases hrun : i.2.1.run { net.sys i.1 with kern := i.2.2 } with
      | error e =>
          rw [hrun] at h
          exact absurd h (by simp only [reduceCtorEq, not_false_eq_true])
      | ok p =>
          rw [hrun] at h
          exact ih _ h

/-- Such a list is a run. -/
theorem reach_run {arrives : Ether → U32 → SkBuff → Prop} {ok : Ether → U32 → SkBuff → Bool}
    (hok : ∀ net id skb, ok net id skb = true → arrives net id skb) (start net net' : Ether)
    (l : List (U32 × Event × Kernel)) (hs : Reach (Step arrives) start net)
    (h : run ok net l = some net') : Reach (Step arrives) start net' := by
  induction l generalizing net with
  | nil =>
      rw [run, Option.some.injEq] at h
      rw [← h]
      exact hs
  | cons i rest ih =>
      rw [run] at h
      simp only at h
      split_ifs at h with hrefused
      cases hrun : i.2.1.run { net.sys i.1 with kern := i.2.2 } with
      | error e =>
          rw [hrun] at h
          exact absurd h (by simp only [reduceCtorEq, not_false_eq_true])
      | ok p =>
          rw [hrun] at h
          refine ih _ (Reach.step i hs ⟨fun skb hskb => hok _ _ _ ?_, p.2, hrun, rfl⟩) h
          rw [hskb] at hrefused
          simpa only [Bool.not_eq_true', Bool.not_eq_false] using hrefused

/-- And a list of one event is a step. -/
theorem step_of_run {arrives : Ether → U32 → SkBuff → Prop} {ok : Ether → U32 → SkBuff → Bool}
    (hok : ∀ net id skb, ok net id skb = true → arrives net id skb) (net net' : Ether)
    (i : U32 × Event × Kernel) (h : run ok net [i] = some net') : Step arrives net i net' := by
  rw [run] at h
  simp only at h
  split_ifs at h with hrefused
  cases hrun : i.2.1.run { net.sys i.1 with kern := i.2.2 } with
  | error e =>
      rw [hrun] at h
      exact absurd h (by simp only [reduceCtorEq, not_false_eq_true])
  | ok p =>
      rw [hrun] at h
      simp only [run, Option.some.injEq] at h
      refine ⟨fun skb hskb => hok _ _ _ ?_, p.2, hrun, h.symm⟩
      rw [hskb] at hrefused
      simpa only [Bool.not_eq_true', Bool.not_eq_false] using hrefused

end Ether

end AlpacaVrr
