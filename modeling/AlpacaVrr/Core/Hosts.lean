import AlpacaVrr.Core.Segment

/-!
# Hosts

Nodes on the air with programs that send and receive on them.

To the events of the nodes come the calls of the programs. `vrr_sendmsg` is a
run at a node, and what it emits stands in the node's record like everything
else. A data packet at its last node goes to the queue of a socket, which keeps
it or not: the kernel may drop it. `vrr_recvmsg` takes from the front of the
queue. A queue belongs to the socket, whichever node it is connected to.

Three records say what has happened, and the code reads none of them: the
messages that programs have written, the answers to the calls that read, and
the sockets that have been filed.

## Main definitions

* `Hosts`: The nodes, the queues, and the records.
* `HostEvent`, `Hosts.Step`: An event of a node, or a call.
* `Hosts.run`: The hosts after a list of these.

## Theorems

* `Hosts.reach_run`: Such a list is a run.
-/

namespace AlpacaVrr

open FaultState

/-- The nodes on the air, the receive queue of each socket, and the records. -/
structure Hosts where
  net : Ether
  sk_receive_queue : U32 → Nat → List Packet
  written : List SendCall
  read : List (U32 × Nat × RecvResult)
  filed : U32 → List VrrSock

/-- An event of the node, with whether a socket keeps the packet it is handed,
    or a call of a program. -/
inductive HostEvent where
  | event (e : Event) (kept : Bool)
  | vrr_sendmsg (msg : MsgHdr) (readable : Bool)
  | vrr_recvmsg (sk : Nat) (connected : Bool) (call : RecvCall)

namespace Hosts

/-- All nodes freshly started, and nothing queued. -/
def boot (g : U32 → Nat → U32) (gm : U32 → Nat → MacAddr) (k : U32 → Kernel) : Hosts :=
  ⟨Ether.boot g gm k, fun _ _ => [], [], [], fun _ => []⟩

/-- The socket that an event hands a packet to, with the packet. -/
def handed (n : Node) : Event → Option (Nat × Packet)
  | .vrr_rcv skb => (socket_of n skb.pkt).map (fun sk => (sk.sk, skb.pkt))
  | _ => none

/-- The queues after an event. -/
def enqueue (queue : U32 → Nat → List Packet) (id : U32) : Option (Nat × Packet) → U32 → Nat →
    List Packet
  | none => queue
  | some (sk, pkt) =>
      Function.update queue id (Function.update (queue id) sk (queue id sk ++ [pkt]))

/-- The sockets filed after an event. -/
def file (filed : U32 → List VrrSock) (id : U32) : Event → U32 → List VrrSock
  | .vrr_hash_sock sk => Function.update filed id (filed id ++ [sk])
  | _ => filed

/-- One thing that happens at the node with this id. -/
def Step (arrives : Ether → U32 → SkBuff → Prop) (h : Hosts) (i : U32 × HostEvent × Kernel)
    (h' : Hosts) : Prop :=
  match i.2.1 with
  | .event e kept => ∃ net, Ether.Step arrives h.net (i.1, e, i.2.2) net ∧ h' = { h with
      net := net
      sk_receive_queue := if kept then
        enqueue h.sk_receive_queue i.1 (handed (h.net.sys i.1).node e) else h.sk_receive_queue
      filed := file h.filed i.1 e }
  | .vrr_sendmsg msg readable => ∃ ret t,
      Vrr.vrr_sendmsg msg readable { h.net.sys i.1 with kern := i.2.2 } = .ok (ret, t) ∧
      h' = { h with
        net := { h.net with sys := Function.update h.net.sys i.1 t }
        written := h.written ++ msg.msg_name.toList.map (fun dest => ⟨i.1, dest, msg.msg_iov⟩) }
  | .vrr_recvmsg sk connected call =>
      let ret := AlpacaVrr.vrr_recvmsg ⟨h.sk_receive_queue i.1 sk, connected⟩ call
      h' = { h with
        sk_receive_queue := Function.update h.sk_receive_queue i.1
          (Function.update (h.sk_receive_queue i.1) sk ret.2.sk_receive_queue)
        read := h.read ++ [(i.1, sk, ret.1)] }

/-- The hosts after one of these, or `none` when there is a fault or a packet
    arrives that `ok` refuses. -/
def next (ok : Ether → U32 → SkBuff → Bool) (h : Hosts) (i : U32 × HostEvent × Kernel) :
    Option Hosts :=
  match i.2.1 with
  | .event e kept => (Ether.run ok h.net [(i.1, e, i.2.2)]).map (fun net => { h with
      net := net
      sk_receive_queue := if kept then
        enqueue h.sk_receive_queue i.1 (handed (h.net.sys i.1).node e) else h.sk_receive_queue
      filed := file h.filed i.1 e })
  | .vrr_sendmsg msg readable =>
      match Vrr.vrr_sendmsg msg readable { h.net.sys i.1 with kern := i.2.2 } with
      | .ok (_, t) => some { h with
          net := { h.net with sys := Function.update h.net.sys i.1 t }
          written := h.written ++ msg.msg_name.toList.map (fun dest => ⟨i.1, dest, msg.msg_iov⟩) }
      | .error _ => none
  | .vrr_recvmsg sk connected call =>
      let ret := AlpacaVrr.vrr_recvmsg ⟨h.sk_receive_queue i.1 sk, connected⟩ call
      some { h with
        sk_receive_queue := Function.update h.sk_receive_queue i.1
          (Function.update (h.sk_receive_queue i.1) sk ret.2.sk_receive_queue)
        read := h.read ++ [(i.1, sk, ret.1)] }

def run (ok : Ether → U32 → SkBuff → Bool) (h : Hosts) : List (U32 × HostEvent × Kernel) →
    Option Hosts
  | [] => some h
  | i :: rest => (next ok h i).bind (fun h' => run ok h' rest)

theorem step_of_next {arrives : Ether → U32 → SkBuff → Prop} {ok : Ether → U32 → SkBuff → Bool}
    (hok : ∀ net id skb, ok net id skb = true → arrives net id skb) (h h' : Hosts)
    (i : U32 × HostEvent × Kernel) (hnext : next ok h i = some h') : Step arrives h i h' := by
  rcases i with ⟨id, e, k⟩
  cases e with
  | event e kept =>
      rcases Option.map_eq_some_iff.mp hnext with ⟨net, hnet, rfl⟩
      exact ⟨net, Ether.step_of_run hok h.net net _ hnet, rfl⟩
  | vrr_sendmsg msg readable =>
      unfold next at hnext
      cases hrun : Vrr.vrr_sendmsg msg readable { h.net.sys id with kern := k } with
      | ok r =>
          simp only [hrun, Option.some.injEq] at hnext
          exact ⟨r.1, r.2, hrun, hnext.symm⟩
      | error e => simp only [hrun, reduceCtorEq] at hnext
  | vrr_recvmsg sk connected call => exact (Option.some.inj hnext).symm

/-- Such a list is a run. -/
theorem reach_run {arrives : Ether → U32 → SkBuff → Prop} {ok : Ether → U32 → SkBuff → Bool}
    (hok : ∀ net id skb, ok net id skb = true → arrives net id skb) (start h h' : Hosts)
    (l : List (U32 × HostEvent × Kernel)) (hs : Reach (Step arrives) start h)
    (hrun : run ok h l = some h') : Reach (Step arrives) start h' := by
  induction l generalizing h with
  | nil =>
      rw [run, Option.some.injEq] at hrun
      rw [← hrun]
      exact hs
  | cons i rest ih =>
      rcases Option.bind_eq_some_iff.mp hrun with ⟨h1, hnext, hrest⟩
      exact ih h1 (Reach.step i hs (step_of_next hok h h1 i hnext)) hrest

end Hosts

end AlpacaVrr
