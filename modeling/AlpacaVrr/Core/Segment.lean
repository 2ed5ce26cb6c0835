import AlpacaVrr.Core.Ether
import AlpacaVrr.Core.Message
import AlpacaVrr.Core.Network
import AlpacaVrr.Lib.Reach

/-!
# Frames on a Segment

Nodes on one Ethernet segment, where a frame goes to the device it is addressed
to.

`Network` hands a packet to the node that is named in its header, which is all
that a packet for a neighbour needs. A packet that is sent on from node to node
names its last one, and who gets it is decided by the MAC address that each of
them writes over the last. Here a frame is what one device has sent, with that
device's address as its source.

Nothing is lost or doubled, and any frame in flight may be next. A frame that is
addressed to nobody stays where it is, and so does one that is addressed to all:
the results about a segment have no hellos in flight.

The packets that a node hands to a socket are recorded in `inbox`, with the
socket.

An `Exchange` is a segment with programs that send. The calls to `vrr_sendmsg`
that are still to be made come in any order, before, between and after the
deliveries.

## Main definitions

* `Frame`, `Segment`: A frame, and the nodes with the frames in flight.
* `socket_of`: The socket that a packet is handed to.
* `Segment.run`, `Segment.deliver`: One run at a node, and one delivery.
* `Segment.Comes`: What all deliveries of some frames come to.
* `SendCall`, `Exchange`: Calls to `vrr_sendmsg`, and a segment with some to come.
* `Exchange.enabled`, `Exchange.act`: A call or a delivery.
* `id_addresses`: Addresses for all ids.

## Theorems

* `Segment.run_spec`, `Segment.run_of_triple`: What a triple says of a run on the
  segment.
-/

namespace AlpacaVrr

open FaultState

/-- A packet on the wire, with the address of the device that has sent it. -/
structure Frame where
  h_source : MacAddr
  pkt : Packet
  deriving DecidableEq

/-- The nodes, the frames in flight, the packets that have been handed to
    sockets, and the number of runs so far. -/
structure Segment where
  nodes : U32 → Node
  flight : List Frame
  inbox : List (U32 × VrrSock × Packet)
  runs : Nat

/-- The socket that `vrr_rcv_data` hands a packet to. -/
def socket_of (n : Node) (pkt : Packet) : Option VrrSock :=
  if pkt.vh.pkt_type = VRR_DATA ∧ pkt.dst = n.me then vrr_find_sock n.vrr_socks pkt.src else none

namespace Segment

/-- Run a computation at the node with this id, and put what it emits on the
    wire. -/
def run {α : Type} (w : World) (seg : Segment) (id : U32) (x : Vrr α) : Option Segment :=
  match x (Sys.boot (seg.nodes id) (w.kern seg.runs)) with
  | .ok (_, t) => some { seg with
      nodes := Function.update seg.nodes id t.node
      flight := seg.flight ++ t.sent.map (Frame.mk (w.mac id))
      runs := seg.runs + 1 }
  | .error _ => none

/-- The frames that may be next. -/
def enabled (a : Addresses) (seg : Segment) (f : Frame) : Prop :=
  f ∈ seg.flight ∧ (a.owner f.pkt.vh.dest_mac).isSome = true

/-- The node with the address of a frame takes it in. -/
def deliver (w : World) (a : Addresses) (seg : Segment) (f : Frame) : Option Segment :=
  match a.owner f.pkt.vh.dest_mac with
  | none => none
  | some id =>
      let taken := (socket_of (seg.nodes id) f.pkt).toList.map (fun sk => (id, sk, f.pkt))
      Segment.run w { seg with flight := seg.flight.erase f, inbox := seg.inbox ++ taken }
        id (Vrr.vrr_rcv ⟨f.pkt, f.h_source, w.mac id⟩)

/-- A run that cannot stop leaves a segment. -/
theorem run_spec {α : Type} {w : World} (seg : Segment) (id : U32) {x : Vrr α}
    {P : Sys → Prop} {Q : Sys → Prop} (h : Triple P x (fun _ => Q) (fun _ => False))
    (hstart : P (Sys.boot (seg.nodes id) (w.kern seg.runs))) :
    ∃ t, seg.run w id x = some ⟨Function.update seg.nodes id t.node,
      seg.flight ++ t.sent.map (Frame.mk (w.mac id)), seg.inbox, seg.runs + 1⟩ ∧ Q t := by
  obtain ⟨ret, t, hx, ht⟩ := h.run hstart
  refine ⟨t, ?_, ht⟩
  unfold run
  simp only [hx]

theorem run_of_triple {α : Type} {w : World} (seg : Segment) (id : U32) {x : Vrr α}
    {P : Sys → Prop} {n : Node} {l : List Packet}
    (h : Triple P x (fun _ s => s.node = n ∧ s.sent = l) (fun _ => False))
    (hstart : P (Sys.boot (seg.nodes id) (w.kern seg.runs))) :
    seg.run w id x = some ⟨Function.update seg.nodes id n,
      seg.flight ++ l.map (Frame.mk (w.mac id)), seg.inbox, seg.runs + 1⟩ := by
  obtain ⟨t, hrun, hnode, hsent⟩ := seg.run_spec id h hstart
  rw [hrun, hnode, hsent]

/-- In whatever order the frames of one kind are delivered, the segment comes to
    a state with none of them in flight, and that is as `Q` says. -/
def Comes (w : World) (a : Addresses) (kind : Frame → Prop) (Q : Segment → Prop) (seg : Segment) :
    Prop :=
  Settles (fun seg f => seg.enabled a f ∧ kind f) (Segment.deliver w a) Q seg

theorem comes_of_quiet {w : World} {a : Addresses} {kind : Frame → Prop} {Q : Segment → Prop}
    {seg : Segment} (hno : ∀ f, ¬ (seg.enabled a f ∧ kind f)) :
    Segment.Comes w a kind Q seg ↔ Q seg :=
  settles_of_quiet hno

theorem comes_of_only {w : World} {a : Addresses} {kind : Frame → Prop} {Q : Segment → Prop}
    {seg seg' : Segment} (f : Frame) (hf : ∀ f', (seg.enabled a f' ∧ kind f') ↔ f' = f)
    (hdeliver : seg.deliver w a f = some seg') :
    Segment.Comes w a kind Q seg ↔ Segment.Comes w a kind Q seg' :=
  settles_of_only f hf hdeliver

end Segment

/-- A call to `vrr_sendmsg` at a node, for `dest`. -/
structure SendCall where
  id : U32
  dest : U32
  msg_iov : List U8
  deriving DecidableEq

/-- A segment, and the calls that programs on it have yet to make. -/
structure Exchange where
  calls : List SendCall
  seg : Segment

namespace Exchange

/-- One thing that happens. -/
inductive Act where
  | vrr_sendmsg (call : SendCall)
  | vrr_rcv (f : Frame)

/-- What may be next. -/
def enabled (a : Addresses) (x : Exchange) : Act → Prop
  | .vrr_sendmsg call => call ∈ x.calls
  | .vrr_rcv f => x.seg.enabled a f

/-- A call is made once, with memory that can be read. -/
def act (w : World) (a : Addresses) (x : Exchange) : Act → Option Exchange
  | .vrr_sendmsg call =>
      (x.seg.run w call.id (Vrr.vrr_sendmsg ⟨some call.dest, call.msg_iov⟩ true)).map
        (fun seg => ⟨x.calls.erase call, seg⟩)
  | .vrr_rcv f => (x.seg.deliver w a f).map (fun seg => ⟨x.calls, seg⟩)

end Exchange

/-- An address for every id, its own digits. -/
def id_addresses : Addresses where
  owner mac := if mac = mac_broadcast then none else some (mac.setWidth 32)
  broadcast := if_pos rfl

end AlpacaVrr
