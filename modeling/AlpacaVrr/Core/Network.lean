import AlpacaVrr.Core.System

/-!
# Several Nodes

Nodes that send packets to each other.

A packet is in flight from the moment a run emits it until the node it is
addressed to handles it. The order of delivery is free: any packet in flight
may be next. Nothing is lost or doubled. A run that stops at a fault takes
the network with it, so there is no network after it.

Every run gets a kernel of its own, numbered by the runs before it. MAC
addresses are what they should be: the frame of a packet comes from its
source and arrives at its destination.

## Main definitions

* `World`: The kernels and the MAC addresses.
* `Network`: The nodes, the packets in flight, and who has run so far.
* `Network.run`, `Network.deliver`: One run at a node, and one delivery.

## Theorems

* `run_of_triple`, `run_spec`: What a triple says of a run in the network.
-/

namespace AlpacaVrr

open FaultState

/-- What surrounds the nodes: the kernel of each run, and their addresses. -/
structure World where
  kern : Nat → Kernel
  mac : U32 → MacAddr

/-- All allocations succeed. -/
def World.Reliable (w : World) : Prop := ∀ n i, (w.kern n).kmalloc i = true

/-- The nodes, the packets in flight, and the ids of the nodes that have run,
    the last one first. -/
structure Network where
  nodes : U32 → Node
  flight : List Packet
  handled : List U32

namespace Network

/-- Nothing in flight, and nobody has run. -/
def quiet (nodes : U32 → Node) : Network := ⟨nodes, [], []⟩

/-- Run a computation at the node with this id. -/
def run {α : Type} (w : World) (net : Network) (id : U32) (x : Vrr α) : Option Network :=
  match x (Sys.boot (net.nodes id) (w.kern net.handled.length)) with
  | .ok (_, t) =>
      some ⟨Function.update net.nodes id t.node, net.flight ++ t.sent, id :: net.handled⟩
  | .error _ => none

/-- Take a packet out of flight and let its destination handle it. -/
def deliver (w : World) (net : Network) (p : Packet) : Option Network :=
  { net with flight := net.flight.erase p }.run w p.dst (Vrr.vrr_rcv ⟨p, w.mac p.src, w.mac p.dst⟩)

/-- The packets that may be next. -/
def enabled (net : Network) (p : Packet) : Prop := p ∈ net.flight

theorem run_of_triple {α : Type} {w : World} {net : Network} {id : U32} {x : Vrr α}
    {P : Sys → Prop} {n : Node} {l : List Packet}
    (h : Triple P x (fun _ s => s.node = n ∧ s.sent = l) (fun _ => False))
    (hstart : P (Sys.boot (net.nodes id) (w.kern net.handled.length))) :
    net.run w id x = some ⟨Function.update net.nodes id n, net.flight ++ l, id :: net.handled⟩ := by
  unfold run
  have hrun := h _ hstart
  cases hx : x (Sys.boot (net.nodes id) (w.kern net.handled.length)) with
  | ok p =>
      rw [hx] at hrun
      simp only [hrun.1, hrun.2]
  | error e =>
      rw [hx] at hrun
      exact hrun.elim

/-- A run that cannot stop leaves a network. -/
theorem run_spec {α : Type} {w : World} (net : Network) (id : U32) {x : Vrr α}
    {P : Sys → Prop} {Q : Sys → Prop} (h : Triple P x (fun _ => Q) (fun _ => False))
    (hstart : P (Sys.boot (net.nodes id) (w.kern net.handled.length))) :
    ∃ t, net.run w id x = some ⟨Function.update net.nodes id t.node, net.flight ++ t.sent,
      id :: net.handled⟩ ∧ Q t := by
  obtain ⟨ret, t, hx, ht⟩ := h.run hstart
  refine ⟨t, ?_, ht⟩
  unfold run
  simp only [hx]

/-- A run that never comes to its end leaves no network. -/
theorem run_eq_none {α : Type} {w : World} {net : Network} {id : U32} {x : Vrr α} {P : Sys → Prop}
    (h : Triple P x (fun _ _ => False) (fun _ => True))
    (hstart : P (Sys.boot (net.nodes id) (w.kern net.handled.length))) :
    net.run w id x = none := by
  unfold run
  have hrun := h _ hstart
  cases hx : x (Sys.boot (net.nodes id) (w.kern net.handled.length)) with
  | ok p =>
      rw [hx] at hrun
      exact hrun.elim
  | error e => rfl

end Network

end AlpacaVrr
