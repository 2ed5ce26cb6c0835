import AlpacaVrr.Core.Network
import AlpacaVrr.Lib.Rounds

/-!
# Hellos on a Medium

Nodes that hear each other's hellos.

The timer of a node makes it send a hello, to the broadcast address. Everybody
near it takes the hello in and then runs the work that the hello has scheduled,
before anybody else's timer goes off. Which of them is first is open. What they
send in turn, requests for a place on the ring, stays in flight and is not
delivered.

In a round the timer of every node goes off once. The order is free, and may be
another one in the next round.

## Main definitions

* `Medium`: Who hears whom.
* `Beacon`: The timer goes off at a node, with the order of those who hear it.
* `Network.hear`, `Network.beacon`: A hello taken in by one of them, and by all.
* `Medium.Round`: Everybody's timer goes off once.
-/

namespace AlpacaVrr

/-- Finitely many nodes, with no more neighbours each than a hello has room
    for. -/
structure Medium where
  ids : List U32
  near : U32 → List U32
  distinct : ids.Nodup
  near_distinct : ∀ x, (near x).Nodup
  few : ∀ x, (near x).length ≤ VRR_PSET_SIZE
  near_ids : ∀ x y, y ∈ near x → y ∈ ids
  symm : ∀ x y, y ∈ near x → x ∈ near y
  irrefl : ∀ x, x ∉ near x

/-- The timer of `id` goes off, and its hello is heard in this order. -/
structure Beacon where
  id : U32
  hearers : List U32

/-- Everybody has one turn, and is heard by all of its neighbours. -/
def Medium.Round (a : Medium) (r : List Beacon) : Prop :=
  (r.map Beacon.id).Perm a.ids ∧ ∀ b ∈ r, b.hearers.Perm (a.near b.id)

namespace Network

/-- A node takes a hello in, and works off its updates. -/
def hear (w : World) (p : Packet) (sender : U32) (net : Network) (id : U32) : Option Network :=
  (net.run w id (Vrr.vrr_rcv ⟨p, w.mac sender, w.mac id⟩)).bind
    (fun net' => net'.run w id Vrr.pset_update_handler)

/-- The work of the timer at a node. What has gone out is heard by the others,
    and is in flight no longer. -/
def beacon (w : World) (net : Network) (b : Beacon) : Option Network :=
  (net.run w b.id Vrr.vrr_workqueue_handler).bind (fun net' =>
    Rounds.perform (fun net p => Rounds.perform (hear w p b.id) net b.hearers)
      { net' with flight := net.flight } (net'.flight.drop net.flight.length))

end Network

end AlpacaVrr
