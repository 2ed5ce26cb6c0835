import AlpacaVrr.Lib.Fifo
import AlpacaVrr.Core.Message
import AlpacaVrr.Theory.Hops

/-!
# What a Program Sends and Receives

The way of a message from `vrr_sendmsg` to `vrr_recvmsg`.

A message that is reported as sent is in its packet as it is. The header says
its length modulo `2 ^ 16`, which is the length as long as it fits. On the way
only the MAC address in the header changes.

A socket is a queue of the messages that are not empty. `Lib.Fifo` says what
that means, and the socket is compared with it one event at a time, for packets
that say how long they are and for calls with room for every message.

Nothing compares the length that a packet claims with the packet. The second
part is about what `vrr_recvmsg` then reads.

## Main definitions

* `SentWhole`, `Carried`: A packet as it is sent, and as it arrives.
* `Written`: The packets that a message may become.
* `SockEvent`, `VrrSocket.next`: What happens to a socket.
* `pending`: The messages queued at it.
* `Delivered`, `Queued`: The packets that `vrr_rcv` hands to a socket.

## Theorems

* `vrr_sendmsg_packet`: What a message becomes.
* `recvmsg_returns_messages`: Messages that fit are received as they were sent,
  in order, but for the empty ones.
* `recvmsg_within_iff`: When no call reads past an accepted packet.
-/

namespace AlpacaVrr

open FaultState

section Sending

/-- The packet is what a message to `dest` became, and all of it was reported
    as sent. -/
def SentWhole (dest : U32) (m : List U8) (p : Packet) : Prop :=
  ∃ readable s t, Vrr.vrr_sendmsg ⟨some dest, m⟩ readable s = .ok ((m.length : Int), t) ∧
    t.sent = s.sent ++ [p]

/-- The packet as it arrives. Forwarding changes only the MAC address. -/
def Carried (p q : Packet) : Prop := q.data = p.data ∧ q.vh.data_len = p.vh.data_len

/-- The packets that a message may become at a node. -/
inductive Written (n : Node) (msg : MsgHdr) : Packet → Prop where
  | mk (dest : U32) (mac : MacAddr) (data : List U8) (hdest : msg.msg_name = some dest)
      (hmac : dest ≠ n.me →
        pset_get_mac n.pset (RtTable.rt_get_next n.me n.rt dest) = some mac)
      (hdata : msg.msg_iov.length < 2 ^ 31 → data = msg.msg_iov) :
      Written n msg (data_packet n.version n.me dest msg.msg_iov.length mac data)

namespace Vrr

section Call

variable (n : Node) (l : List Packet)

/-- The address of a message to another node is that of the next hop. -/
theorem vrr_sendmsg_mac_found (dest : U32) :
    Triple (fun s => s.node = n ∧ s.sent = l) (vrr_sendmsg_mac dest)
      (fun found s => (s.node = n ∧ s.sent = l) ∧ ∀ mac, found = some mac → dest ≠ n.me →
        pset_get_mac n.pset (RtTable.rt_get_next n.me n.rt dest) = some mac)
      (fun _ => True) := by
  unfold vrr_sendmsg_mac
  refine Triple.bind (Q := fun me s => (s.node = n ∧ s.sent = l) ∧ me = n)
    (Triple.gets _ (fun _ hs => ⟨hs, hs.1⟩)) (fun me => Triple.of_and (fun hme => ?_))
  rw [hme]
  refine Triple.ite _ (fun _ => ?_) (fun hself => ?_)
  · refine Triple.bind (Q := fun nh s => (s.node = n ∧ s.sent = l) ∧
      nh = RtTable.rt_get_next n.me n.rt dest) (fun s hs => ⟨hs, by rw [hs.1]⟩)
      (fun nh => Triple.of_and (fun hnh => ?_))
    rw [hnh]
    refine Triple.ite _ (fun _ => Triple.pure _ (fun _ hs => ⟨hs, fun _ h => by cases h⟩))
      (fun _ => Triple.pure _ (fun _ hs => ⟨hs, fun _ h _ => h⟩))
  · refine Triple.bind (Q := fun _ (s : Sys) => s.node = n ∧ s.sent = l) (fun _ hs => hs)
      (fun stack => Triple.pure _ (fun _ hs => ⟨hs, fun _ _ hne => absurd hne hself⟩))

theorem memcpy_fromiovec_copies (iov : List U8) (len : Nat) (readable : Bool) :
    Triple (fun s => s.node = n ∧ s.sent = l) (memcpy_fromiovec iov len readable)
      (fun data s => (s.node = n ∧ s.sent = l) ∧ ∀ bytes, data = some bytes → len < 2 ^ 31 →
        bytes = iov.take len) (fun _ => True) := by
  unfold memcpy_fromiovec
  refine Triple.ite _ (fun hbig => ?_) (fun _ => Triple.ite _ (fun _ => ?_) (fun _ => ?_))
  · exact Triple.bind (Q := fun _ (s : Sys) => s.node = n ∧ s.sent = l) (fun _ hs => hs)
      (fun skb => Triple.pure _ (fun _ hs =>
        ⟨hs, fun _ _ hlt => absurd hlt (Nat.not_lt_of_le hbig)⟩))
  · exact Triple.pure _ (fun _ hs => ⟨hs, fun _ h _ => (Option.some.inj h).symm⟩)
  · exact Triple.pure _ (fun _ hs => ⟨hs, fun _ h _ => by cases h⟩)

/-- A message is refused with a negative code, or it is sent and the result is
    its length as an `int`. -/
theorem vrr_sendmsg_packet (msg : MsgHdr) (readable : Bool) :
    Triple (fun s => s.node = n ∧ s.sent = l) (vrr_sendmsg msg readable)
      (fun ret t => t.node = n ∧ ((ret < 0 ∧ t.sent = l) ∨
        ret = Int.bmod msg.msg_iov.length (2 ^ 32) ∧
          ∃ p, Written n msg p ∧ t.sent = l ++ [p])) (fun _ => True) := by
  have hno : ∀ ret : Int, ret < 0 → Triple (fun s => s.node = n ∧ s.sent = l)
      (pure ret : Vrr Int) (fun ret t => t.node = n ∧ ((ret < 0 ∧ t.sent = l) ∨
        ret = Int.bmod msg.msg_iov.length (2 ^ 32) ∧
          ∃ p, Written n msg p ∧ t.sent = l ++ [p])) (fun _ => True) :=
    fun ret hneg => Triple.pure _ (fun _ hs => ⟨hs.1, Or.inl ⟨hneg, hs.2⟩⟩)
  unfold vrr_sendmsg
  cases hdest : msg.msg_name with
  | none => exact hno _ (by decide)
  | some dest =>
      refine Triple.bind (vrr_sendmsg_mac_found n l dest) (fun mac => ?_)
      cases mac with
      | none => exact (hno _ (by decide)).pre (fun _ hs => hs.1)
      | some dest_mac =>
          refine Triple.of_and (fun hmac => ?_)
          refine Triple.bind (Q := fun me s => (s.node = n ∧ s.sent = l) ∧ me = n)
            (Triple.gets _ (fun _ hs => ⟨hs, hs.1⟩)) (fun me => Triple.of_and (fun hme => ?_))
          rw [hme]
          refine Triple.bind (Q := fun _ (s : Sys) => s.node = n ∧ s.sent = l) (fun _ hs => hs)
            (fun skb => Triple.ite _ (fun _ => ?_) (fun _ => hno _ (by decide)))
          refine Triple.ite _ (fun _ => Triple.fault _ trivial) (fun _ => ?_)
          refine Triple.bind (memcpy_fromiovec_copies n l _ _ _) (fun data => ?_)
          cases data with
          | none => exact (hno _ (by decide)).pre (fun _ hs => hs.1)
          | some data =>
              -- the packet goes out, and the buffer is released twice
              rintro s ⟨⟨hnode, hsent⟩, hcopied⟩
              refine ⟨hnode, Or.inr ⟨rfl, _, Written.mk dest dest_mac data hdest
                (hmac dest_mac rfl) (fun hlt => ?_), congrArg (· ++ _) hsent⟩⟩
              have hmod : msg.msg_iov.length % 2 ^ 32 = msg.msg_iov.length :=
                Nat.mod_eq_of_lt (by omega)
              have htake := hcopied data rfl (by rw [hmod]; exact hlt)
              rw [hmod, List.take_length] at htake
              exact htake

end Call

end Vrr

/-- A message that was sent whole is in its packet, with its length in the
    header if it fits there. -/
theorem sent_whole (dest : U32) (m : List U8) (p : Packet) (h : SentWhole dest m p) :
    p.data = m ∧ p.vh.data_len = htons (BitVec.ofNat 16 m.length) := by
  obtain ⟨readable, s, t, hrun, hsent⟩ := h
  have hpacket := (Vrr.vrr_sendmsg_packet s.node s.sent ⟨some dest, m⟩ readable).ok ⟨rfl, rfl⟩ hrun
  rcases hpacket.2 with ⟨hneg, _⟩ | ⟨hret, q, hq, ht⟩
  · -- a length is not negative
    exact absurd hneg (by omega)
  · have hlt : m.length < 2 ^ 31 := by
      have hbmod := Int.bmod_lt (x := (m.length : Int)) (m := 2 ^ 32) (by decide)
      simp only at hret
      rw [← hret] at hbmod
      omega
    have hp : p = q := by
      have hsame := List.append_cancel_left (hsent.symm.trans ht)
      simpa using hsame
    rw [hp]
    cases hq with
    | mk _ _ data _ _ hdata => exact ⟨hdata hlt, rfl⟩

end Sending

section Receiving

/-- A packet is queued at a socket, or a program calls. -/
inductive SockEvent where
  | queued (skb : Packet)
  | recvmsg (call : RecvCall)
  deriving DecidableEq

/-- What the event is answered, and the socket after it. -/
def VrrSocket.next (sock : VrrSocket) : SockEvent → Option RecvResult × VrrSocket
  | .queued skb => (none, { sock with sk_receive_queue := sock.sk_receive_queue ++ [skb] })
  | .recvmsg call => (some (vrr_recvmsg sock call).1, (vrr_recvmsg sock call).2)

/-- The packet that arrives, if one does. -/
def SockEvent.arrival : SockEvent → List Packet
  | queued skb => [skb]
  | recvmsg _ => []

/-- The messages a queue holds. -/
def pending (queue : List Packet) : List (List U8) :=
  (queue.filter (fun skb => decide (msg_len skb ≠ 0))).map Packet.data

/-- What the event is to a queue of messages. -/
def SockEvent.ops : SockEvent → List (Fifo.Op (List U8))
  | queued skb => (pending [skb]).map Fifo.Op.put
  | recvmsg _ => [.take]

/-- The packet holds one of the messages and is as long as it says. -/
def Honest (msgs : List (List U8)) (skb : Packet) : Prop :=
  skb.data ∈ msgs ∧ msg_len skb = skb.data.length

/-- A call that takes any of the messages, and takes it for good. -/
def RecvCall.Ample (msgs : List (List U8)) (call : RecvCall) : Prop :=
  call.peek = false ∧ call.writable = true ∧ ∀ m ∈ msgs, m.length ≤ call.len

/-- An honest packet, or an ample call. -/
def SockEvent.Proper (msgs : List (List U8)) : SockEvent → Prop
  | queued skb => Honest msgs skb
  | recvmsg call => call.Ample msgs

theorem pending_append (queue queue' : List Packet) :
    pending (queue ++ queue') = pending queue ++ pending queue' := by
  simp [pending]

/-- What is left starts with a message, or there is none. -/
theorem skip_empty_cases (queue : List Packet) :
    (skip_empty queue = [] ∧ pending queue = []) ∨ ∃ skb rest,
      skip_empty queue = skb :: rest ∧ skb ∈ queue ∧ rest ⊆ queue ∧ msg_len skb ≠ 0 ∧
        pending queue = skb.data :: pending rest := by
  induction queue with
  | nil => exact Or.inl ⟨rfl, rfl⟩
  | cons skb queue ih =>
      by_cases hempty : msg_len skb = 0
      · -- dropped, and nothing pending with it
        have hskip : skip_empty (skb :: queue) = skip_empty queue := if_pos hempty
        have hpending : pending (skb :: queue) = pending queue := by
          simp [pending, hempty]
        rw [hskip, hpending]
        rcases ih with hnone | ⟨head, rest, hq, hmem, hsub, hlen, hp⟩
        · exact Or.inl hnone
        · exact Or.inr ⟨head, rest, hq, List.mem_cons_of_mem skb hmem,
            List.subset_cons_of_subset skb hsub, hlen, hp⟩
      · refine Or.inr ⟨skb, queue, if_neg hempty, List.mem_cons_self,
          List.subset_cons_self skb queue, hempty, ?_⟩
        simp [pending, hempty]

/-- One event at a socket with honest packets is what the queue of messages
    does. -/
theorem next_simulates (msgs : List (List U8)) (beyond : Nat → U8) (sock : VrrSocket)
    (e : SockEvent) (hsock : ∀ skb ∈ sock.sk_receive_queue, Honest msgs skb) (he : e.Proper msgs) :
    (sock.next e).1.toList.map (RecvResult.message beyond) =
        (Fifo.run (pending sock.sk_receive_queue) e.ops).1 ∧
      pending (sock.next e).2.sk_receive_queue =
        (Fifo.run (pending sock.sk_receive_queue) e.ops).2 ∧
      ∀ skb ∈ (sock.next e).2.sk_receive_queue, Honest msgs skb := by
  cases e with
  | queued skb =>
      refine ⟨?_, ?_, ?_⟩
      · -- nothing is answered, whether or not a message was put in
        by_cases hempty : msg_len skb = 0 <;>
          simp [VrrSocket.next, SockEvent.ops, pending, hempty, Fifo.run, answers, Fifo.step]
      · by_cases hempty : msg_len skb = 0 <;>
          simp [VrrSocket.next, SockEvent.ops, pending, hempty, Fifo.run, answers, Fifo.step]
      · intro p hp
        rcases List.mem_append.mp hp with hold | hnew
        · exact hsock p hold
        · rw [List.mem_singleton.mp hnew]
          exact he
  | recvmsg call =>
      obtain ⟨hpeek, hwritable, hroom⟩ := he
      rcases skip_empty_cases sock.sk_receive_queue with
        ⟨hskip, hpending⟩ | ⟨skb, rest, hskip, hmem, hsub, hlen, hpending⟩
      · -- nothing to take: an error, or the call waits
        have hanswer : RecvResult.message beyond (vrr_recvmsg sock call).1 = none := by
          unfold vrr_recvmsg
          simp only [hskip]
          split_ifs <;> rfl
        have hqueue : (vrr_recvmsg sock call).2.sk_receive_queue = [] := by
          unfold vrr_recvmsg
          simp only [hskip]
          split_ifs <;> rfl
        refine ⟨?_, ?_, ?_⟩
        · simp [VrrSocket.next, SockEvent.ops, hanswer, hpending, Fifo.run, answers, Fifo.step]
        · have hnil : pending [] = [] := rfl
          simp [VrrSocket.next, SockEvent.ops, hqueue, hpending, hnil, Fifo.run, answers, Fifo.step]
        · simp [VrrSocket.next, hqueue]
      · -- the first message that is not empty is copied out whole
        obtain ⟨hmsg, hwhole⟩ := hsock skb hmem
        have hfits : ¬ call.len < msg_len skb := by
          rw [hwhole]
          exact Nat.not_lt_of_le (hroom _ hmsg)
        have hrecv : vrr_recvmsg sock call =
            (.copied skb (msg_len skb) false, { sock with sk_receive_queue := rest }) := by
          unfold vrr_recvmsg
          simp [hskip, hfits, hwritable, hpeek, vrr_advance_rx_queue]
        refine ⟨?_, ?_, ?_⟩
        · simp [VrrSocket.next, SockEvent.ops, hrecv, hpending, Fifo.run, answers, Fifo.step,
            RecvResult.message, hwhole]
        · simp [VrrSocket.next, SockEvent.ops, hrecv, hpending, Fifo.run, answers, Fifo.step]
        · intro p hp
          rw [VrrSocket.next, hrecv] at hp
          exact hsock p (hsub hp)

/-- The events put in what arrives. -/
theorem elements_ops (events : List SockEvent) :
    (events.flatMap SockEvent.ops).flatMap Fifo.Op.elements =
      pending (events.flatMap SockEvent.arrival) := by
  induction events with
  | nil => rfl
  | cons e events ih =>
      have hput : ∀ l : List (List U8), (l.map Fifo.Op.put).flatMap Fifo.Op.elements = l := by
        intro l
        induction l with
        | nil => rfl
        | cons m l ihl => simp [Fifo.Op.elements, ihl]
      rw [List.flatMap_cons, List.flatMap_append, List.flatMap_cons, pending_append, ih]
      cases e with
      | queued skb => simp only [SockEvent.ops, SockEvent.arrival, hput]
      | recvmsg call => rfl

/-- What messages of fitting lengths have become when they arrive. -/
theorem arrivals_honest {dest : U32} {msgs : List (List U8)} {packets arrivals : List Packet}
    (hsent : List.Forall₂ (SentWhole dest) msgs packets)
    (harrive : List.Forall₂ Carried packets arrivals) (hfit : ∀ m ∈ msgs, m.length < 2 ^ 16) :
    pending arrivals = msgs.filter (fun m => decide (m ≠ [])) ∧
      ∀ skb ∈ arrivals, Honest msgs skb := by
  induction hsent generalizing arrivals with
  | nil =>
      cases harrive
      exact ⟨rfl, fun skb hskb => absurd hskb List.not_mem_nil⟩
  | @cons m p msgs packets hp _ ih =>
      cases harrive with
      | @cons _ q _ rest hq hrest =>
          obtain ⟨hpending, hhonest⟩ := ih hrest
            (fun m' hm' => hfit m' (List.mem_cons_of_mem m hm'))
          obtain ⟨hdata, hlen⟩ := sent_whole dest m p hp
          have hm := hfit m List.mem_cons_self
          have hqdata : q.data = m := hq.1.trans hdata
          have hqlen : msg_len q = m.length := by
            rw [msg_len, hq.2, hlen, ntohs_htons, BitVec.toNat_ofNat]
            exact Nat.mod_eq_of_lt hm
          constructor
          · have hone : pending [q] = [m].filter (fun m => decide (m ≠ [])) := by
              cases m <;> simp [pending, hqlen, hqdata]
            have hsplit : pending (q :: rest) = pending [q] ++ pending rest :=
              pending_append [q] rest
            rw [hsplit, hone, hpending, ← List.filter_append, List.singleton_append]
          · intro skb hskb
            rcases List.mem_cons.mp hskb with heq | hold
            · rw [heq, Honest, hqdata, hqlen]
              exact ⟨List.mem_cons_self, rfl⟩
            · exact ⟨List.mem_cons_of_mem m (hhonest skb hold).1, (hhonest skb hold).2⟩

/-- Messages whose lengths fit the header are received whole and in order, but
    for the empty ones, which are dropped. Calls and arrivals come in any order,
    and a call gets nothing only when nothing is there. -/
theorem recvmsg_returns_messages (dest : U32) (msgs : List (List U8)) (packets : List Packet)
    (events : List SockEvent) (connected : Bool) (beyond : Nat → U8)
    (hsent : List.Forall₂ (SentWhole dest) msgs packets)
    (harrive : List.Forall₂ Carried packets (events.flatMap SockEvent.arrival))
    (hfit : ∀ m ∈ msgs, m.length < 2 ^ 16)
    (hcalls : ∀ call, .recvmsg call ∈ events → call.Ample msgs) :
    let run := answers VrrSocket.next ⟨[], connected⟩ events
    let received := run.1.map (RecvResult.message beyond)
    received = (Fifo.run [] (events.flatMap SockEvent.ops)).1 ∧
      received.reduceOption ++ pending run.2.sk_receive_queue =
        msgs.filter (fun m => decide (m ≠ [])) := by
  obtain ⟨hpending, hhonest⟩ := arrivals_honest hsent harrive hfit
  have hproper : ∀ e ∈ events, e.Proper msgs := by
    intro e he
    cases e with
    | queued skb => exact hhonest skb (List.mem_flatMap.mpr ⟨_, he, List.mem_singleton_self skb⟩)
    | recvmsg call => exact hcalls call he
  have hrun := answers_simulate SockEvent.ops (fun sock => pending sock.sk_receive_queue)
    (RecvResult.message beyond) (fun sock => ∀ skb ∈ sock.sk_receive_queue, Honest msgs skb)
    (SockEvent.Proper msgs) (fun sock e hs he => (next_simulates msgs beyond sock e hs he).2.2)
    (fun sock e hs he => ⟨(next_simulates msgs beyond sock e hs he).1,
      (next_simulates msgs beyond sock e hs he).2.1⟩)
    ⟨[], connected⟩ events (fun _ h => absurd h List.not_mem_nil) hproper
  have hconserve := Fifo.run_conserves [] (events.flatMap SockEvent.ops)
  constructor
  · exact hrun.1
  · rw [hrun.1, hrun.2, ← hpending, ← elements_ops]
    exact hconserve

/-- Sent from the node that has a route to node 5. -/
theorem sentWhole_of_eval {m : List U8} {p : Packet}
    (h : (run_events node_one setup_events).any (fun s =>
      ends_in (Vrr.vrr_sendmsg ⟨some 5, m⟩ true) s (fun ret t =>
        decide (ret = m.length) && decide (t.sent = s.sent ++ [p]))) = true) :
    SentWhole 5 m p := by
  obtain ⟨s, hs⟩ := (Option.any_eq_true _ _).mp h
  obtain ⟨ret, t, hrun, heval⟩ := ok_of_ends_in hs.2
  rw [Bool.and_eq_true, decide_eq_true_eq, decide_eq_true_eq] at heval
  refine ⟨true, s, t, ?_, heval.2⟩
  rw [hrun, ← heval.1]

/-- Three messages, one of them empty, and two calls. -/
theorem recvmsg_returns_two :
    let packet := fun m : List U8 => data_packet 1 1 5 m.length 2 m
    let call : RecvCall := ⟨100, true, false, true⟩
    let run := answers VrrSocket.next ⟨[], true⟩ [.queued (packet [1, 2]), .queued (packet []),
      .recvmsg call, .queued (packet [3]), .recvmsg call]
    run.1.map (RecvResult.message 0) = (Fifo.run [] ([SockEvent.queued (packet [1, 2]),
      .queued (packet []), .recvmsg call, .queued (packet [3]), .recvmsg call].flatMap
        SockEvent.ops)).1 ∧
      (run.1.map (RecvResult.message 0)).reduceOption ++ pending run.2.sk_receive_queue =
        [[1, 2], [], [3]].filter (fun m => decide (m ≠ [])) := by
  refine recvmsg_returns_messages 5 [[1, 2], [], [3]] [data_packet 1 1 5 2 2 [1, 2],
    data_packet 1 1 5 0 2 [], data_packet 1 1 5 1 2 [3]] _ true 0 ?_ ?_ ?_ ?_
  · exact .cons (sentWhole_of_eval (by decide +kernel)) (.cons (sentWhole_of_eval
      (by decide +kernel)) (.cons (sentWhole_of_eval (by decide +kernel)) .nil))
  · exact .cons ⟨rfl, rfl⟩ (.cons ⟨rfl, rfl⟩ (.cons ⟨rfl, rfl⟩ .nil))
  · simp
  · intro call hcall
    simp only [List.mem_cons, reduceCtorEq, SockEvent.recvmsg.injEq, List.not_mem_nil, or_false,
      false_or, or_self] at hcall
    rw [hcall]
    exact ⟨rfl, rfl, by simp⟩

/-- An empty message is not returned. -/
theorem recvmsg_drops_empty :
    ∃ p q, SentWhole 5 [] p ∧ SentWhole 5 [7] q ∧
      (answers VrrSocket.next ⟨[], true⟩ [.queued p, .queued q, .recvmsg ⟨100, true, false, true⟩,
        .recvmsg ⟨100, true, false, true⟩]).1.map (RecvResult.message 0) ≠ [some [], some [7]] :=
  ⟨data_packet 1 1 5 0 2 [], data_packet 1 1 5 1 2 [7], sentWhole_of_eval (by decide +kernel),
    sentWhole_of_eval (by decide +kernel), by decide +kernel⟩

end Receiving

section Bounds

/-- `vrr_rcv_data` hands the packet to the socket. -/
structure Delivered (n : Node) (skb : SkBuff) (sk : VrrSock) : Prop where
  data : skb.pkt.vh.pkt_type = VRR_DATA
  dst : skb.pkt.dst = n.me
  sock : vrr_find_sock n.vrr_socks skb.pkt.src = some sk

/-- A socket that has been handed packets by `vrr_rcv`, at any states of the
    node, and has been read in between. -/
inductive Queued (sk : VrrSock) : VrrSocket → Prop where
  | empty (connected : Bool) : Queued sk ⟨[], connected⟩
  | rcv (sock : VrrSocket) (s t : Sys) (skb : SkBuff) (h : Queued sk sock)
      (hdelivered : Delivered s.node skb sk) (hrun : Vrr.vrr_rcv skb s = .ok (0, t)) :
      Queued sk (sock.next (.queued skb.pkt)).2
  | recvmsg (sock : VrrSocket) (call : RecvCall) (h : Queued sk sock) :
      Queued sk (sock.next (.recvmsg call)).2

/-- A call that gets to copying copies the shorter one of the two lengths. -/
theorem recvmsg_copies (sock : VrrSocket) (call : RecvCall) :
    (vrr_recvmsg sock call).1.copies = (skip_empty sock.sk_receive_queue).head?.map
      (fun skb => (skb, min call.len (msg_len skb))) := by
  unfold vrr_recvmsg
  cases hskip : skip_empty sock.sk_receive_queue with
  | nil =>
      simp only
      split_ifs <;> rfl
  | cons skb rest =>
      have hmin : (if call.len < msg_len skb then call.len else msg_len skb) =
          min call.len (msg_len skb) := by
        split_ifs <;> omega
      simp only [hmin]
      split_ifs <;> rfl

/-- No call reads past a packet that was accepted exactly when the packet is at
    least as long as it says. -/
theorem recvmsg_within_iff (sk : VrrSock) (skb : SkBuff) (s t : Sys)
    (hdelivered : Delivered s.node skb sk) (hrun : Vrr.vrr_rcv skb s = .ok (0, t)) :
    (∀ sock, Queued sk sock → ∀ call sz,
      (vrr_recvmsg sock call).1.copies = some (skb.pkt, sz) → sz ≤ skb.pkt.data.length) ↔
    msg_len skb.pkt ≤ skb.pkt.data.length := by
  constructor
  · intro h
    by_cases hempty : msg_len skb.pkt = 0
    · omega
    · -- alone in the queue, it is read by a call with room for everything
      have hcopies := recvmsg_copies ⟨[skb.pkt], true⟩ ⟨2 ^ 16, true, false, true⟩
      have hlt : msg_len skb.pkt < 2 ^ 16 := (ntohs skb.pkt.vh.data_len).isLt
      have hskip : skip_empty [skb.pkt] = [skb.pkt] := if_neg hempty
      have hmin : min (2 ^ 16) (msg_len skb.pkt) = msg_len skb.pkt := by omega
      rw [hskip, List.head?_cons, Option.map_some, hmin] at hcopies
      exact h _ (.rcv ⟨[], true⟩ s t skb (.empty true) hdelivered hrun) _ _ hcopies
  · intro hle sock _ call sz hsz
    rw [recvmsg_copies, Option.map_eq_some_iff] at hsz
    obtain ⟨p, _, hp⟩ := hsz
    obtain ⟨rfl, rfl⟩ := Prod.mk.inj hp
    omega

/-- A data packet from node 2 that says so many bytes and has two. -/
def two_bytes (data_len : Nat) : SkBuff :=
  ⟨data_packet 1 2 1 data_len 0 [7, 9], 2, 0⟩

/-- A program at node 1 that is connected to node 2 gets it. -/
theorem two_bytes_accepted (data_len : Nat)
    (h : (run_events node_one [(.vrr_hash_sock ⟨0, 2⟩, Kernel.calm)]).any (fun s =>
      decide (vrr_find_sock s.node.vrr_socks 2 = some ⟨0, 2⟩) && decide (s.node.me = 1) &&
      ends_in (Vrr.vrr_rcv (two_bytes data_len)) s (fun ret _ => decide (ret = 0))) = true) :
    ∃ s t, Delivered s.node (two_bytes data_len) ⟨0, 2⟩ ∧
      Vrr.vrr_rcv (two_bytes data_len) s = .ok (0, t) := by
  obtain ⟨s, hs⟩ := (Option.any_eq_true _ _).mp h
  have heval := hs.2
  rw [Bool.and_eq_true, Bool.and_eq_true, decide_eq_true_eq, decide_eq_true_eq] at heval
  obtain ⟨⟨hsock, hme⟩, hends⟩ := heval
  obtain ⟨ret, t, hrun, hret⟩ := ok_of_ends_in hends
  have hsrc : (two_bytes data_len).pkt.src = 2 := ntohl_htonl 2
  have hdst : (two_bytes data_len).pkt.dst = 1 := ntohl_htonl 1
  refine ⟨s, t, ⟨rfl, hdst.trans hme.symm, ?_⟩, ?_⟩
  · rw [hsrc]
    exact hsock
  · rw [hrun, of_decide_eq_true hret]

/-- It says two. -/
theorem recvmsg_within_two :
    ∃ s t, Vrr.vrr_rcv (two_bytes 2) s = .ok (0, t) ∧
      ((∀ sock, Queued ⟨0, 2⟩ sock → ∀ call sz, (vrr_recvmsg sock call).1.copies =
        some ((two_bytes 2).pkt, sz) → sz ≤ 2) ↔ msg_len (two_bytes 2).pkt ≤ 2) := by
  obtain ⟨s, t, hdelivered, hrun⟩ := two_bytes_accepted 2 (by decide +kernel)
  have hlen : (two_bytes 2).pkt.data.length = 2 := rfl
  have hiff := recvmsg_within_iff ⟨0, 2⟩ (two_bytes 2) s t hdelivered hrun
  rw [hlen] at hiff
  exact ⟨s, t, hrun, hiff⟩

/-- It says four, and four are copied. -/
theorem recvmsg_reads_past :
    ∃ sock, Queued ⟨0, 2⟩ sock ∧ (two_bytes 4).pkt.data.length = 2 ∧
      (vrr_recvmsg sock ⟨100, false, false, true⟩).1.copies = some ((two_bytes 4).pkt, 4) := by
  obtain ⟨s, t, hdelivered, hrun⟩ := two_bytes_accepted 4 (by decide +kernel)
  have hskip : skip_empty [(two_bytes 4).pkt] = [(two_bytes 4).pkt] := by decide +kernel
  have hmin : min 100 (msg_len (two_bytes 4).pkt) = 4 := by decide +kernel
  have hcopies := recvmsg_copies ⟨[(two_bytes 4).pkt], true⟩ ⟨100, false, false, true⟩
  rw [hskip, List.head?_cons, Option.map_some, hmin] at hcopies
  exact ⟨_, .rcv ⟨[], true⟩ s t (two_bytes 4) (.empty true) hdelivered hrun, rfl, hcopies⟩

end Bounds

end AlpacaVrr
