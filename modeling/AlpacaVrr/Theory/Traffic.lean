import AlpacaVrr.Theory.Emission
import AlpacaVrr.Theory.Payload
import AlpacaVrr.Theory.PsetEvents
import AlpacaVrr.Theory.Provenance

/-!
# How Much a Node Sends, and Where To

Two bounds on what a node emits, over whole runs.

The number is bounded by what the node receives. A hello leads to no packet
itself but leaves an update behind, and the update may lead to a request later.
So the queue is paid for in advance: the packets sent and the updates waiting
are together no more than the cost of the run.

The addresses come from hellos. An entry of the physical set has its address
from the frame of a hello, by way of the queue, and every packet that is not a
hello goes to the address of an entry. The proxy of a request may be unknown to
`send_setup_req`, which then sends to whatever its variable held. This does not
happen: the proxy has always been picked from the set. The same holds of the
messages of programs, which `vrr_sendmsg` sends, with one exception. A message
to the node itself is sent as well, and its address is never written.

## Main definitions

* `cost`, `Tallied`: What an event may lead to, now or later.
* `Directed`: A packet goes to the sender of a hello.
* `Action`, `Noted`: An event or a call of a program, with the packets received.

## Theorems

* `queue_of_step`: What an event makes of the queue.
* `emissions_bounded`: The bound on the number.
* `unicast_to_neighbours`: The bound on the addresses.
-/

namespace AlpacaVrr

open FaultState

/-- What an event may make of the queue of updates. -/
inductive QueueAfter (l : List PsetUpdate) : Event → List PsetUpdate → Prop where
  | kept (e : Event) (hno : e ≠ .pset_update_handler) : QueueAfter l e l
  | done : QueueAfter l .pset_update_handler []
  | hello (skb : SkBuff) (tmp : PsetUpdate) (hty : skb.pkt.vh.pkt_type = VRR_HELLO)
      (hnode : tmp.node = skb.pkt.src) (hmac : tmp.mac = skb.h_source) :
      QueueAfter l (.vrr_rcv skb) (l ++ [tmp])

namespace Vrr

section Queue

variable (l : List PsetUpdate)

/-- A hello appends to the queue, and no other packet touches it. -/
theorem vrr_rcv_queue (skb : SkBuff) :
    Triple (fun s => s.node.pset_updates = l) (vrr_rcv skb)
      (fun _ s => QueueAfter l (.vrr_rcv skb) s.node.pset_updates) (fun _ => True) := by
  have hfree : ∀ e, Preserves (fun s => QueueAfter l e s.node.pset_updates) (kfree_skb .received) :=
    fun e => Preserves.modify _ (fun _ hs => hs)
  refine vrr_rcv_triple (I := fun s => s.node.pset_updates = l)
    (J := fun _ s => QueueAfter l (.vrr_rcv skb) s.node.pset_updates) skb (fun _ => ?_)
    (fun _ hs => hs) (fun hty => ?_) (fun _ _ => hfree _) (fun _ hs => hs)
  · refine (hfree _).pre (fun s hs => ?_)
    rw [hs]
    exact QueueAfter.kept _ (by simp)
  by_cases hhello : skb.pkt.vh.pkt_type = VRR_HELLO
  · rw [vrr_rcvfunc_hello skb hhello]
    have hdraws : Draws (fun s => s.node.pset_updates = l) (fun _ => True) :=
      draws_of_kern (fun _ _ hs => hs)
    refine hdraws.vrr_rcv_hello skb (fun s hs => ?_) (fun tmp hnode hmac => ?_)
    · rw [hs]
      exact QueueAfter.kept _ (by simp)
    · refine Triple.modify _ (fun s hs => ?_)
      simp only [hs]
      exact QueueAfter.hello skb tmp hhello hnode hmac
  · refine ((routine_base (fun n => n.pset_updates = l)).vrr_rcvfunc_of_all skb hty
      (fun h => absurd h hhello)).post (fun _ s hs => ?_)
    have hkept : s.node.pset_updates = l := hs
    rw [hkept]
    exact QueueAfter.kept _ (by simp)

theorem pset_update_handler_queue :
    Triple (fun _ => True) pset_update_handler (fun _ s => s.node.pset_updates = [])
      (fun _ => True) := by
  unfold pset_update_handler
  refine Triple.bind (Confines.gets _) (fun me => ?_)
  refine Triple.bind (Q := fun _ _ => True) Triple.any (fun _ => ?_)
  exact Triple.modify _ (fun _ _ => rfl)

theorem vrr_workqueue_handler_queue :
    Preserves (fun s => s.node.pset_updates = l) vrr_workqueue_handler := by
  have hrefresh : Preserves (fun s => s.node.pset_updates = l) pset_state_update :=
    pset_state_update_triple (Triple.modify _ (fun _ hs => hs))
      (fun _ _ => Preserves.modify _ (fun _ hs => hs))
  unfold vrr_workqueue_handler
  refine Preserves.bind (detect_failures_confines hrefresh (fun _ => Preserves.modify _
    (fun _ hs => hs))) (fun _ => ?_)
  refine Preserves.bind (Preserves.modify _ (fun s hs => ?_)) (fun _ => ?_)
  · simp only
    split_ifs <;> exact hs
  · exact Preserves.then_pure ((node_of_still send_hpkt_still).preserves
      (fun n => n.pset_updates = l)) ()

end Queue

end Vrr

/-- The queue after an event. -/
theorem queue_of_step {s t : Sys} {i : Event × Kernel} (h : Step s i t) :
    QueueAfter s.node.pset_updates i.1 t.node.pset_updates := by
  refine step_cases (I := fun t => QueueAfter s.node.pset_updates i.1 t.node.pset_updates) h
    ?_ ?_ ?_ ?_
  · intro skb r he hrun
    rw [he]
    exact (Vrr.vrr_rcv_queue s.node.pset_updates skb).ok (s := { s with kern := i.2 }) rfl hrun
  · intro he hrun
    have hdone := Vrr.pset_update_handler_queue.ok (s := { s with kern := i.2 }) trivial hrun
    rw [he, hdone]
    exact QueueAfter.done
  · intro he hrun
    have hkept := (Vrr.vrr_workqueue_handler_queue s.node.pset_updates).ok
      (s := { s with kern := i.2 }) rfl hrun
    rw [he, hkept]
    exact QueueAfter.kept _ (by simp)
  · rintro ⟨sk, he | he⟩ socks <;> rw [he] <;> exact QueueAfter.kept _ (by simp)

/-- The packets that may come of an event, now or by an update that it leaves
    behind. -/
def cost : Event → Nat
  | .vrr_rcv skb => if skb.pkt.vh.pkt_type = VRR_HELLO then 1 else reply_bound skb.pkt.vh.pkt_type
  | .vrr_workqueue_handler => 1
  | _ => 0

/-- A step, and the cost so far. -/
def Tallied (a : Sys × Nat) (i : Event × Kernel) (b : Sys × Nat) : Prop :=
  Step a.1 i b.1 ∧ b.2 = a.2 + cost i.1

/-- What is sent and what is waiting grow by no more than the cost. -/
theorem tallied_step {s t : Sys} {i : Event × Kernel} (h : Step s i t) :
    t.sent.length + t.node.pset_updates.length ≤
      s.sent.length + s.node.pset_updates.length + cost i.1 := by
  obtain ⟨ps, hsent, hlen, _⟩ := step_emits h
  have hgrown : t.sent.length = s.sent.length + ps.length := by
    rw [hsent, List.length_append]
  have hqueue := queue_of_step h
  rw [hgrown]
  generalize i.1 = e at hlen hqueue
  generalize t.node.pset_updates = l at hqueue
  -- an update handled is paid for by the hello that it came with
  cases hqueue with
  | kept _ hno =>
      have hbound : bound s.node e ≤ cost e := by
        cases e with
        | vrr_rcv skb =>
            simp only [bound, cost]
            split_ifs with hty
            · rw [hty]
              decide
            · exact Nat.le_refl _
        | pset_update_handler => exact absurd rfl hno
        | vrr_workqueue_handler => exact Nat.le_refl _
        | vrr_hash_sock sk => exact Nat.le_refl _
        | vrr_unhash_sock sk => exact Nat.le_refl _
      omega
  | done =>
      simp only [bound] at hlen
      simp only [List.length_nil, cost]
      omega
  | hello skb tmp hty =>
      simp only [bound, hty] at hlen
      have hnone : ps.length ≤ 0 := hlen
      simp only [List.length_append, List.length_singleton, cost, hty, if_true]
      omega

/-- In every run the packets sent, with the updates that are waiting, are no
    more than the cost of the run. -/
theorem emissions_bounded (id : U32) (g : Nat → U32) (gm : Nat → MacAddr) (k : Kernel) (s : Sys)
    (c : Nat) (hrun : Reach Tallied (Sys.boot (vrr_init id g gm) k, 0) (s, c)) :
    s.sent.length + s.node.pset_updates.length ≤ c := by
  refine hrun.invariant (fun a => a.1.sent.length + a.1.node.pset_updates.length ≤ a.2)
    (Nat.le_refl 0) ?_
  rintro a i b ha ⟨hstep, hcost⟩
  have hgrown := tallied_step hstep
  rw [hcost]
  omega

/-- An inactive node hears an active one and asks it for its place. -/
def asking_events : List (Event × Kernel) :=
  [(.vrr_rcv (frame 2 VRR_HELLO 2 0 [1, 0, 0, 1, 1]), Kernel.calm),
    (.pset_update_handler, Kernel.calm), (.vrr_workqueue_handler, Kernel.calm)]

/-- A list of events is a run with its cost. -/
theorem reach_tallied (a : Sys × Nat) (s t : Sys) (c : Nat) (l : List (Event × Kernel))
    (hs : Reach Tallied a (s, c)) (h : run_events s l = some t) :
    Reach Tallied a (t, l.foldl (fun c i => c + cost i.1) c) := by
  induction l generalizing s c with
  | nil =>
      rw [run_events, Option.some.injEq] at h
      rw [← h]
      exact hs
  | cons i l ih =>
      rw [run_events] at h
      cases hrun : i.1.run { s with kern := i.2 } with
      | error e =>
          rw [hrun] at h
          exact absurd h (by simp only [reduceCtorEq, not_false_eq_true])
      | ok r =>
          rw [hrun] at h
          have hstep : Step s i r.2 := hrun
          exact ih r.2 _ (Reach.step i hs ⟨hstep, rfl⟩) h

/-- That node sends a request and a hello, for one hello and one tick. -/
theorem emissions_bounded_two :
    ∃ s, Reach Tallied (node_one, 0) (s, 2) ∧ s.sent.length = 2 ∧
      s.sent.length + s.node.pset_updates.length ≤ 2 := by
  have hends : (run_events node_one asking_events).map (fun t => t.sent.length) = some 2 := by
    decide +kernel
  rcases Option.map_eq_some_iff.mp hends with ⟨t, ht, hlen⟩
  have hrun : Reach Tallied (node_one, 0) (t, 2) :=
    reach_tallied _ node_one t 0 asking_events Reach.refl ht
  exact ⟨t, hrun, hlen, emissions_bounded 1 (fun _ => 0) (fun _ => 0) Kernel.calm t 2 hrun⟩

/-- A hello for each id and each address that the node knows of. -/
def Greetings (l : List SkBuff) (n : Node) : Prop :=
  ∀ id mac, Introduced n id mac →
    ∃ skb ∈ l, skb.pkt.vh.pkt_type = VRR_HELLO ∧ skb.pkt.src = id ∧ skb.h_source = mac

/-- Entries come from entries and from updates. -/
theorem introduced_updates (p : Pset) (l : List PsetUpdate) (e : PsetEntry)
    (he : e ∈ l.foldl updated p) :
    (e.node, e.mac) ∈ names p ∨ ∃ u ∈ l, u.node = e.node ∧ u.mac = e.mac := by
  induction l generalizing p with
  | nil => exact Or.inl (List.mem_map_of_mem he)
  | cons u l ih =>
      rcases ih (updated p u) he with hold | ⟨u', hu', hnew⟩
      · rw [names_updated] at hold
        split_ifs at hold
        · exact Or.inl hold
        · rcases List.mem_cons.mp hold with hnew | hold
          · rw [Prod.mk.injEq] at hnew
            exact Or.inr ⟨u, List.mem_cons_self, hnew.1.symm, hnew.2.symm⟩
          · exact Or.inl hold
      · exact Or.inr ⟨u', List.mem_cons_of_mem u hu', hnew⟩

theorem introduced_after (n : Node) (ev : Event) (e : PsetEntry) (he : e ∈ pset_after n ev) :
    Introduced n e.node e.mac := by
  have hold : (e.node, e.mac) ∈ names n.pset → Introduced n e.node e.mac := by
    intro h
    rcases List.mem_map.mp h with ⟨e', he', heq⟩
    rw [Prod.mk.injEq] at heq
    exact Or.inl ⟨e', he', heq⟩
  cases ev with
  | vrr_rcv skb =>
      have hnames : names (pset_received n.pset skb) = names n.pset := by
        unfold pset_received
        split_ifs
        · rfl
        · exact names_pset_reset_fail_count _ _
      refine hold ?_
      rw [← hnames]
      exact List.mem_map_of_mem he
  | pset_update_handler => exact (introduced_updates _ _ e he).elim hold Or.inr
  | vrr_workqueue_handler =>
      rcases List.mem_filterMap.mp he with ⟨tmp, htmp, hc⟩
      rw [(counted_eq_some hc).1, Vrr.fail_entry_node, Vrr.fail_entry_mac]
      exact Or.inl ⟨tmp, htmp, rfl, rfl⟩
  | vrr_hash_sock sk => exact Or.inl ⟨e, he, rfl, rfl⟩
  | vrr_unhash_sock sk => exact Or.inl ⟨e, he, rfl, rfl⟩

/-- What a node knows of after an event it knew of before, or is told by the
    hello that comes in. -/
theorem greetings_step {s t : Sys} {i : Event × Kernel} (h : Step s i t) {l : List SkBuff}
    (hs : Greetings l s.node) : Greetings (l ++ packets i.1) t.node := by
  rintro id mac (⟨e, he, rfl, rfl⟩ | ⟨u, hu, rfl, rfl⟩)
  · rw [pset_of_step h] at he
    rcases hs _ _ (introduced_after s.node i.1 e he) with ⟨skb, hskb, hgreets⟩
    exact ⟨skb, List.mem_append_left _ hskb, hgreets⟩
  have hold : u ∈ s.node.pset_updates → ∃ skb ∈ l ++ packets i.1,
      skb.pkt.vh.pkt_type = VRR_HELLO ∧ skb.pkt.src = u.node ∧ skb.h_source = u.mac := by
    intro hu
    rcases hs _ _ (Or.inr ⟨u, hu, rfl, rfl⟩) with ⟨skb, hskb, hgreets⟩
    exact ⟨skb, List.mem_append_left _ hskb, hgreets⟩
  have hqueue := queue_of_step h
  generalize i.1 = e at hqueue hold
  generalize t.node.pset_updates = q at hqueue hu
  cases hqueue with
  | kept => exact hold hu
  | done => exact absurd hu List.not_mem_nil
  | hello skb tmp hty hnode hmac =>
      rcases List.mem_append.mp hu with hu | hu
      · exact hold hu
      · rw [List.mem_singleton.mp hu]
        exact ⟨skb, List.mem_append_right _ (List.mem_singleton_self skb), hty, hnode.symm,
          hmac.symm⟩

/-- A hello goes to all, and any other packet to the sender of a hello. -/
def Directed (l : List SkBuff) (p : Packet) : Prop :=
  if p.vh.pkt_type = VRR_HELLO then p.vh.dest_mac = mac_broadcast
  else ∃ skb ∈ l, skb.pkt.vh.pkt_type = VRR_HELLO ∧ skb.h_source = p.vh.dest_mac

theorem Directed.mono {l l' : List SkBuff} {p : Packet} (h : Directed l p) (hl : l ⊆ l') :
    Directed l' p := by
  unfold Directed at h ⊢
  split_ifs at h ⊢
  · exact h
  · rcases h with ⟨skb, hskb, hgreets⟩
    exact ⟨skb, hl hskb, hgreets⟩

/-- The address of a neighbour is that of a hello. -/
theorem directed_of_introduced {n : Node} {l : List SkBuff} (hs : Greetings l n) {p : Packet}
    (id : U32) (hty : p.vh.pkt_type ≠ VRR_HELLO) (hmac : Introduced n id p.vh.dest_mac) :
    Directed l p := by
  unfold Directed
  rw [if_neg hty]
  rcases hs _ _ hmac with ⟨skb, hskb, hhello, _, hsource⟩
  exact ⟨skb, hskb, hhello, hsource⟩

theorem introduced_of_mac {n : Node} {hop : U32} {mac : MacAddr}
    (h : pset_get_mac n.pset hop = some mac) : Introduced n hop mac := by
  rcases Option.map_eq_some_iff.mp h with ⟨e, hfind, rfl⟩
  rcases mem_of_pset_find _ _ e hfind with ⟨hmem, hid⟩
  exact Or.inl ⟨e, hmem, hid, rfl⟩

/-- What an event emits is directed. -/
theorem directed_of_emission {n : Node} {e : Event} {p : Packet} {l : List SkBuff}
    (hs : Greetings l n) (h : Emission n e p) : Directed l p := by
  have hown : ∀ (pkt_type : U8) (src dst hop : U32) (mac : MacAddr) (data : List U32),
      pkt_type ≠ VRR_HELLO → Introduced n hop mac →
      Directed l (build_packet n.version pkt_type src dst mac data) := by
    intro pkt_type src dst hop mac data hty hmac
    refine directed_of_introduced hs hop hty ?_
    have haddr : (build_packet n.version pkt_type src dst mac data).vh.dest_mac = mac := if_neg hty
    rw [haddr]
    exact hmac
  cases h with
  | reply skb p h =>
      cases h with
      | forwarded hop mac hty hmac =>
          refine directed_of_introduced hs hop ?_ (introduced_of_mac hmac)
          rcases hty with hty | hty <;> simp only [hty] <;> decide
      | requested _ proxy _ _ _ _ hmac =>
          exact hown _ _ _ proxy _ _ (by decide) (introduced_of_mac hmac)
      | answered _ _ hop _ _ _ hmac => exact hown _ _ _ hop _ _ (by decide) (introduced_of_mac hmac)
      | refused _ hop _ _ _ hmac => exact hown _ _ _ hop _ _ (by decide) (introduced_of_mac hmac)
      | setup _ _ _ hop _ _ _ _ _ hmac =>
          exact hown _ _ _ hop _ _ (by decide) (introduced_of_mac hmac)
      | setup_fail _ _ hop _ _ _ _ _ hmac =>
          exact hown _ _ _ hop _ _ (by decide) (introduced_of_mac hmac)
      | torn _ _ hop _ _ _ hmac => exact hown _ _ _ hop _ _ (by decide) (introduced_of_mac hmac)
  | join tmp mac ids htmp hactive hmac => exact hown _ _ _ tmp.node _ _ (by decide) hmac
  | hello active ps =>
      have hall : (build_packet n.version VRR_HELLO n.me 0 0 (hpkt_data active ps)).vh.dest_mac =
        mac_broadcast := rfl
      exact hall

/-- What happens at a node with programs. -/
inductive Action where
  | event (e : Event)
  | vrr_sendmsg (msg : MsgHdr) (readable : Bool)

/-- An action, and the packets received so far. -/
def Noted (a : Sys × List SkBuff) (i : Action × Kernel) (b : Sys × List SkBuff) : Prop :=
  match i.1 with
  | .event e => Logged a (e, i.2) b
  | .vrr_sendmsg msg readable => b.2 = a.2 ∧
      ∃ ret, Vrr.vrr_sendmsg msg readable { a.1 with kern := i.2 } = .ok (ret, b.1)

/-- A message of this node to itself. -/
def ToSelf (me : U32) (p : Packet) : Prop := p.vh.pkt_type = VRR_DATA ∧ p.src = me ∧ p.dst = me

/-- A message goes to a neighbour, or it is for the node itself. -/
theorem directed_of_written {n : Node} {msg : MsgHdr} {p : Packet} {l : List SkBuff}
    (hs : Greetings l n) (h : Written n msg p) : Directed l p ∨ ToSelf n.me p := by
  cases h with
  | mk dest mac data _ hmac _ =>
      by_cases hself : dest = n.me
      · exact Or.inr ⟨rfl, ntohl_htonl n.me, (ntohl_htonl dest).trans hself⟩
      · have hty : (data_packet n.version n.me dest msg.msg_iov.length mac data).vh.pkt_type ≠
            VRR_HELLO := by
          change VRR_DATA ≠ VRR_HELLO
          decide
        exact Or.inl (directed_of_introduced hs _ hty (introduced_of_mac (hmac hself)))

/-- What is on record of a node: every address that it knows, it was told by a
    hello, and every packet has gone where it may. -/
structure Unicasts (id : U32) (a : Sys × List SkBuff) : Prop where
  me : a.1.node.me = id
  greeted : Greetings a.2 a.1.node
  sent : ∀ p ∈ a.1.sent, Directed a.2 p ∨ ToSelf id p

theorem unicasts_event {id : U32} {a b : Sys × List SkBuff} {e : Event} {k : Kernel}
    (ha : Unicasts id a) (h : Logged a (e, k) b) : Unicasts id b := by
  rcases h with ⟨hstep, hlog⟩
  refine ⟨(step_me hstep).trans ha.me, ?_, fun p hp => ?_⟩
  · rw [hlog]
    exact greetings_step hstep ha.greeted
  · obtain ⟨ps, hgrown, _, hps⟩ := step_emits hstep
    rw [hgrown] at hp
    rw [hlog]
    rcases List.mem_append.mp hp with hp | hp
    · exact (ha.sent p hp).imp_left (fun hold => hold.mono (List.subset_append_left _ _))
    · exact Or.inl ((directed_of_emission ha.greeted (hps p hp)).mono
        (List.subset_append_left _ _))

theorem unicasts_sendmsg {id : U32} {s t : Sys} {l : List SkBuff} {msg : MsgHdr} {readable : Bool}
    {k : Kernel} {ret : Int} (ha : Unicasts id (s, l))
    (hrun : Vrr.vrr_sendmsg msg readable { s with kern := k } = .ok (ret, t)) :
    Unicasts id (t, l) := by
  obtain ⟨hnode, hsent⟩ := (Vrr.vrr_sendmsg_packet s.node s.sent msg readable).ok
    (s := { s with kern := k }) ⟨rfl, rfl⟩ hrun
  refine ⟨(congrArg Node.me hnode).trans ha.me, ?_, fun p hp => ?_⟩
  · change Greetings l t.node
    rw [hnode]
    exact ha.greeted
  · have hp : p ∈ t.sent := hp
    rcases hsent with ⟨_, hnone⟩ | ⟨_, q, hq, hone⟩
    · rw [hnone] at hp
      exact ha.sent p hp
    · rw [hone] at hp
      rcases List.mem_append.mp hp with hp | hp
      · exact ha.sent p hp
      · rw [List.mem_singleton.mp hp, ← ha.me]
        exact directed_of_written ha.greeted hq

/-- In every run of a node with programs that send, a hello goes to all, and
    every other packet to the address that some hello received before came
    from, unless it is a message of the node to itself. -/
theorem unicast_to_neighbours (id : U32) (g : Nat → U32) (gm : Nat → MacAddr) (k : Kernel) (s : Sys)
    (l : List SkBuff) (hrun : Reach Noted (Sys.boot (vrr_init id g gm) k, []) (s, l)) :
    ∀ p ∈ s.sent, Directed l p ∨ ToSelf id p := by
  refine (hrun.invariant (Unicasts id) ⟨rfl, ?_, fun p hp => absurd hp List.not_mem_nil⟩ ?_).sent
  · rintro id mac (⟨e, he, _⟩ | ⟨u, hu, _⟩)
    · exact absurd he List.not_mem_nil
    · exact absurd hu List.not_mem_nil
  · rintro a ⟨act, k⟩ ⟨t, l⟩ ha hstep
    cases act with
    | event e => exact unicasts_event ha hstep
    | vrr_sendmsg msg readable =>
        rcases hstep with ⟨rfl, ret, hrun⟩
        exact unicasts_sendmsg ha hrun

/-- The node above has a path set up from the one that it has asked, and a
    program sends along it. All goes to the address of the hello. -/
theorem unicast_to_neighbours_two :
    ∃ s l, Reach Noted (node_one, []) (s, l) ∧
      s.sent.map (fun p => p.vh.dest_mac) = [2, mac_broadcast, 2] ∧
      ∀ p ∈ s.sent, Directed l p ∨ ToSelf 1 p := by
  have hends : (run_events node_one (asking_events ++
      [(.vrr_rcv (frame 2 VRR_SETUP 2 1 [7, 0, 0]), Kernel.calm)])).any (fun s =>
        ends_in (Vrr.vrr_sendmsg ⟨some 2, [9]⟩ true) { s with kern := Kernel.calm } (fun _ t =>
          t.sent.map (fun p => p.vh.dest_mac) == [2, mac_broadcast, 2])) = true := by
    decide +kernel
  rcases (Option.any_eq_true _ _).mp hends with ⟨s, hs, hsends⟩
  obtain ⟨ret, t, ht, hmacs⟩ := ok_of_ends_in hsends
  have hnoted : ∀ a (i : Event × Kernel) b, Logged a i b ∧ True →
      Noted a (.event i.1, i.2) b := fun _ _ _ h => h.1
  have hevents := (reach_logged (fun _ _ => True) (node_one, []) node_one s [] _ Reach.refl
    (fun _ _ _ _ => trivial) hs).relabel (fun i => (Action.event i.1, i.2)) hnoted
  have hrun : Reach Noted (node_one, []) (t, _) :=
    Reach.step (.vrr_sendmsg ⟨some 2, [9]⟩ true, Kernel.calm) hevents ⟨rfl, ret, ht⟩
  exact ⟨t, _, hrun, beq_iff_eq.mp hmacs,
    unicast_to_neighbours 1 (fun _ => 0) (fun _ => 0) Kernel.calm t _ hrun⟩

end AlpacaVrr
