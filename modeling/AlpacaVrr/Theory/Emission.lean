import AlpacaVrr.Theory.RoundTrip
import AlpacaVrr.Theory.Outcomes

/-!
# What a Node Says

Every packet that a node emits, by the event that made it do so, and how many
an event can lead to.

`Reply` lists the packets that may come of one received. A data packet and a
request that goes on leave as they came, but for the address. A setup and a
failure that go on are built again from the fields that were read. Everything
else is the node's own: requests for the ids that were received, the answer to
a request, and teardowns. A tick leads to a hello, and the queue of updates to
requests for the node's own place.

Each of these packets has the address of a neighbour, the one that the physical
set has for it when the packet is sent. `Emission` says so for each, and also
which fields it has. Where a packet is too short, what is read of it is
anything, as in `Outcome`.

The setup that is answered leads to more packets than any other: one for each
id of the vset received, and the answer.

## Main definitions

* `Reply`: The packets that may come of a reception.
* `Emission`: The packets that may come of an event.
* `Said`: The packets added to the record so far.
* `bound`: How many there can be.

## Theorems

* `vrr_rcv_said`, `pset_update_handler_said`, `vrr_workqueue_handler_said`: The
  three entry points.
* `step_emits`: What an event emits.
-/

namespace AlpacaVrr

open FaultState

theorem length_load_all (n : Nat) (bs : List U8) (h : bs.length = n * 4) :
    (load_all bs).length = n := by
  induction n generalizing bs with
  | zero =>
      rw [List.eq_nil_of_length_eq_zero (by omega : bs.length = 0)]
      rfl
  | succ n ih =>
      rcases bs with _ | ⟨a, _ | ⟨b, _ | ⟨c, _ | ⟨d, rest⟩⟩⟩⟩ <;>
        simp only [List.length_cons, List.length_nil] at h <;> try omega
      rw [load_all, List.length_cons, ih rest (by omega)]

/-- As many words are read as were asked for. -/
theorem length_words {p : Packet} {offset n : Nat} {ws : List U32}
    (hoffset : vrr_header_size ≤ offset) (h : words p offset n = some ws) : ws.length = n := by
  unfold words skb_copy_bits at h
  split_ifs at h with hfit
  · simp only [Option.map_some, Option.some.injEq] at h
    rw [← h, List.length_map]
    refine length_load_all n _ ?_
    rw [List.length_take, List.length_drop]
    omega
  · cases h

/-- Words that may be read from the packet, `n` of them. -/
structure Legible (p : Packet) (offset n : Nat) (ids : List U32) : Prop where
  length : ids.length = n
  words : ∀ ws, words p offset n = some ws → ws = ids

/-- The payload of a packet with a vset: the words in front, the number of the
    ids, and the ids. -/
def vset_data (front ids : List U32) : List U32 := front ++ BitVec.ofNat 32 ids.length :: ids

/-- The packets that may come of the reception of another one. -/
inductive Reply (n : Node) (skb : SkBuff) : Packet → Prop where
  /-- A data packet or a request goes on. -/
  | forwarded (hop : U32) (mac : MacAddr)
      (hty : skb.pkt.vh.pkt_type = VRR_DATA ∨ skb.pkt.vh.pkt_type = VRR_SETUP_REQ)
      (hmac : pset_get_mac n.pset hop = some mac) :
      Reply n skb { skb.pkt with vh := { skb.pkt.vh with dest_mac := mac } }
  /-- The node asks for a path. -/
  | requested (dest proxy : U32) (mac : MacAddr) (ids : List U32)
      (hty : skb.pkt.vh.pkt_type ≠ VRR_DATA ∧ skb.pkt.vh.pkt_type ≠ VRR_HELLO)
      (hproxy : proxy ∈ pset_active n.pset) (hmac : pset_get_mac n.pset proxy = some mac) :
      Reply n skb (build_packet n.version VRR_SETUP_REQ n.me dest mac (vset_data [proxy] ids))
  /-- A request is answered with a setup. -/
  | answered (pid proxy hop : U32) (mac : MacAddr) (ids : List U32)
      (hty : skb.pkt.vh.pkt_type = VRR_SETUP_REQ) (hmac : pset_get_mac n.pset hop = some mac) :
      Reply n skb (build_packet n.version VRR_SETUP n.me skb.pkt.src mac
        (vset_data [pid, proxy] ids))
  /-- A request is refused. -/
  | refused (proxy hop : U32) (mac : MacAddr) (ids : List U32)
      (hty : skb.pkt.vh.pkt_type = VRR_SETUP_REQ) (hmac : pset_get_mac n.pset hop = some mac) :
      Reply n skb (build_packet n.version VRR_SETUP_FAIL n.me skb.pkt.src mac
        (vset_data [proxy] ids))
  /-- A setup goes on. -/
  | setup (pid proxy size hop : U32) (mac : MacAddr) (ids : List U32)
      (hty : skb.pkt.vh.pkt_type = VRR_SETUP)
      (hread : Readable skb.pkt vrr_header_size pid ∧
        Readable skb.pkt (vrr_header_size + 4) proxy ∧
        Readable skb.pkt (vrr_header_size + 8) size)
      (hids : Legible skb.pkt (vrr_header_size + 12) size.toNat ids)
      (hmac : pset_get_mac n.pset hop = some mac) :
      Reply n skb (build_packet n.version VRR_SETUP skb.pkt.src skb.pkt.dst mac
        (vset_data [pid, proxy] ids))
  /-- A failure goes on. -/
  | setup_fail (proxy size hop : U32) (mac : MacAddr) (ids : List U32)
      (hty : skb.pkt.vh.pkt_type = VRR_SETUP_FAIL)
      (hread : Readable skb.pkt vrr_header_size proxy ∧
        Readable skb.pkt (vrr_header_size + 4) size)
      (hids : Legible skb.pkt (vrr_header_size + 8) size.toNat ids)
      (hmac : pset_get_mac n.pset hop = some mac) :
      Reply n skb (build_packet n.version VRR_SETUP_FAIL skb.pkt.src skb.pkt.dst mac
        (vset_data [proxy] ids))
  /-- A path is torn down, here or further on. -/
  | torn (ea pid hop : U32) (mac : MacAddr) (ids : List U32)
      (hty : skb.pkt.vh.pkt_type = VRR_SETUP_REQ ∨ skb.pkt.vh.pkt_type = VRR_SETUP ∨
        skb.pkt.vh.pkt_type = VRR_TEARDOWN)
      (hmac : pset_get_mac n.pset hop = some mac) :
      Reply n skb (build_packet n.version VRR_TEARDOWN n.me hop mac (vset_data [ea, pid] ids))

/-- The addresses under which an id is known, or about to be. -/
def Introduced (n : Node) (id : U32) (mac : MacAddr) : Prop :=
  (∃ e ∈ n.pset, e.node = id ∧ e.mac = mac) ∨ ∃ u ∈ n.pset_updates, u.node = id ∧ u.mac = mac

/-- The packets that may come of an event. -/
inductive Emission (n : Node) : Event → Packet → Prop where
  | reply (skb : SkBuff) (p : Packet) (h : Reply n skb p) : Emission n (.vrr_rcv skb) p
  /-- An inactive node asks an active neighbour for its place on the ring. -/
  | join (tmp : PsetUpdate) (mac : MacAddr) (ids : List U32) (htmp : tmp ∈ n.pset_updates)
      (hactive : n.active = 0 ∧ tmp.active ≠ 0) (hmac : Introduced n tmp.node mac) :
      Emission n .pset_update_handler
        (build_packet n.version VRR_SETUP_REQ n.me n.me mac (vset_data [tmp.node] ids))
  | hello (active : U32) (ps : PsetState) : Emission n .vrr_workqueue_handler
      (build_packet n.version VRR_HELLO n.me 0 0 (hpkt_data active ps))

/-- The number of packets that may come of one of a type. -/
def reply_bound (pkt_type : U8) : Nat :=
  if VRR_NPTYPES ≤ pkt_type then 0
  else if pkt_type = VRR_DATA then 1
  else if pkt_type = VRR_HELLO then 0
  else if pkt_type = VRR_SETUP_REQ then VRR_VSET_SIZE + 2
  else VRR_VSET_SIZE

/-- And of an event. -/
def bound (n : Node) : Event → Nat
  | .vrr_rcv skb => reply_bound skb.pkt.vh.pkt_type
  | .pset_update_handler => n.pset_updates.length
  | .vrr_workqueue_handler => 1
  | _ => 0

/-- The node has the name, the version and the addresses of `n`, and has added
    no more than `c` packets to the record `l`, all of them in `P`. -/
structure Said (n : Node) (l : List Packet) (P : Packet → Prop) (c : Nat) (s : Sys) : Prop where
  me : s.node.me = n.me
  version : s.node.version = n.version
  macs : ∀ id, pset_get_mac s.node.pset id = pset_get_mac n.pset id
  actives : pset_active s.node.pset = pset_active n.pset
  sent : ∃ ps, s.sent = l ++ ps ∧ ps.length ≤ c ∧ ∀ p ∈ ps, P p

section Said

variable {n : Node} {l : List Packet} {P : Packet → Prop} {c : Nat}

theorem Said.mono {c' : Nat} {s : Sys} (h : Said n l P c s) (hc : c ≤ c') : Said n l P c' s := by
  obtain ⟨ps, hsent, hlen, hP⟩ := h.sent
  exact ⟨h.me, h.version, h.macs, h.actives, ps, hsent, hlen.trans hc, hP⟩

/-- Operations that emit nothing say nothing. -/
theorem alters_said : Alters (fun _ => False) (Said n l P c) := by
  refine alters_of_updates ?_ ?_ (fun _ _ hno => hno.elim) ?_ ?_
  · exact fun _ _ hs => ⟨hs.me, hs.version, hs.macs, hs.actives, hs.sent⟩
  · exact fun _ _ hs => ⟨hs.me, hs.version, hs.macs, hs.actives, hs.sent⟩
  · exact fun _ _ _ hs => ⟨hs.me, hs.version, hs.macs, hs.actives, hs.sent⟩
  · exact fun _ hs => ⟨hs.me, hs.version, hs.macs, hs.actives, hs.sent⟩

theorem said_draws : Draws (Said n l P c) (fun _ => True) := alters_said.draws

namespace Vrr

/-- One packet more. -/
theorem vrr_output_said (skb : SkbRef) (pkt : Packet) (hP : P pkt) :
    Triple (Said n l P c) (vrr_output skb pkt) (fun _ => Said n l P (c + 1)) (fun _ => True) := by
  unfold vrr_output
  refine Triple.bind (Q := fun _ => Said n l P (c + 1)) (Triple.modify _ (fun s hs => ?_))
    (fun _ => ?_)
  · obtain ⟨ps, hsent, hlen, hps⟩ := hs.sent
    refine ⟨hs.me, hs.version, hs.macs, hs.actives, ps ++ [pkt], ?_, ?_, ?_⟩
    · simp only [hsent, List.append_assoc]
    · rw [List.length_append, List.length_singleton]
      omega
    · intro p hp
      rcases List.mem_append.mp hp with hp | hp
      · exact hps p hp
      · rw [List.mem_singleton.mp hp]
        exact hP
  · refine Triple.bind (Q := fun _ => Said n l P (c + 1)) (Triple.modify _ (fun s hs => ?_))
      (fun _ => Triple.pure _ (fun _ hs => hs))
    exact ⟨hs.me, hs.version, hs.macs, hs.actives, hs.sent⟩

/-- What is read of the node while it speaks. -/
theorem node_said :
    Triple (Said n l P c) node
      (fun me s => Said n l P c s ∧ me.me = n.me ∧ me.version = n.version ∧
        (∀ id, pset_get_mac me.pset id = pset_get_mac n.pset id) ∧
        pset_active me.pset = pset_active n.pset) (fun _ => True) :=
  Triple.gets _ (fun _ hs => ⟨hs, hs.me, hs.version, hs.macs, hs.actives⟩)

/-- A buffer is read as far as it goes. -/
theorem read_vset_said (vset_size : Nat) (vset : Option (List U32))
    (hsize : ∀ ws, vset = some ws → ws.length = vset_size) :
    Triple (Said n l P c) (read_vset vset_size vset)
      (fun ids s => Said n l P c s ∧ ids.length = vset_size ∧ ∀ ws, vset = some ws → ids = ws)
      (fun _ => True) := by
  unfold read_vset
  refine Triple.ite _ (fun h0 => Triple.pure _ (fun s hs => ⟨hs, h0.symm, fun ws hws => ?_⟩))
    (fun _ => ?_)
  · exact (List.eq_nil_of_length_eq_zero ((hsize ws hws).trans h0)).symm
  cases vset with
  | none => exact Triple.fault _ trivial
  | some ws =>
      have htake : ws.take vset_size = ws := List.take_of_length_le (hsize ws rfl).le
      refine Triple.pure _ (fun s hs => ⟨hs, ?_, fun ws' hws' => ?_⟩)
      · rw [htake, hsize ws rfl]
      · rw [htake, Option.some.inj hws']

theorem vset_get_all_said :
    Triple (Said n l P c) vset_get_all
      (fun r s => Said n l P c s ∧ ∀ ws, r.2 = some ws → ws.length = r.1) (fun _ => True) := by
  unfold vset_get_all
  refine Triple.bind (Confines.gets _) (fun me => ?_)
  refine Triple.bind (said_draws.kmalloc _) (fun all => ?_)
  refine Triple.bind said_draws.uninit (fun g => Triple.ite _ (fun _ => ?_) (fun _ => ?_))
  · refine Triple.pure _ (fun s hs => ⟨hs, fun ws hws => ?_⟩)
    rw [← Option.some.inj hws]
    exact length_fill _ _ g (by rw [Vset.nodes, List.length_map]; exact me.vset.length_le)
  · refine Triple.ite _ (fun _ => Triple.pure _ (fun s hs => ⟨hs, fun ws hws => ?_⟩))
      (fun _ => Triple.fault _ trivial)
    cases hws

/-- A packet with a vset goes to the hop, or not at all. -/
theorem send_vset_said (pkt_type : U8) (src dst : U32) (data : List U32) (vset_size : Nat)
    (vset : Option (List U32)) (hop : U32) (hsize : ∀ ws, vset = some ws → ws.length = vset_size)
    (hP : ∀ mac ids, pset_get_mac n.pset hop = some mac → ids.length = vset_size →
      (∀ ws, vset = some ws → ids = ws) →
      P (build_packet n.version pkt_type src dst mac (vset_data data ids))) :
    Triple (Said n l P c) (send_vset pkt_type src dst data vset_size vset hop)
      (fun _ => Said n l P (c + 1)) (fun _ => True) := by
  have hquiet : Triple (Said n l P c) (pure (-1) : Vrr Int) (fun _ => Said n l P (c + 1))
      (fun _ => True) := Triple.pure _ (fun _ hs => hs.mono (Nat.le_succ c))
  unfold send_vset
  refine Triple.bind node_said (fun me => Triple.of_and (fun hme => ?_))
  rw [hme.2.2.1 hop, hme.2.1]
  cases hmac : pset_get_mac n.pset hop with
  | none => exact hquiet
  | some mac =>
      refine Triple.bind (read_vset_said vset_size vset hsize) (fun ids => Triple.of_and ?_)
      rintro ⟨hlen, hids⟩
      refine Triple.bind (said_draws.kmalloc 1) (fun skb => Triple.ite _ (fun _ => ?_)
        (fun _ => hquiet))
      refine vrr_output_said _ _ ?_
      rw [← hlen]
      exact hP mac ids hmac hlen hids

/-- A request goes to the proxy, or not at all. -/
theorem send_setup_req_said (src dest proxy : U32) (mac : MacAddr)
    (hmac : pset_get_mac n.pset proxy = some mac)
    (hP : ∀ ids, P (build_packet n.version VRR_SETUP_REQ src dest mac (vset_data [proxy] ids))) :
    Triple (Said n l P c) (send_setup_req src dest proxy) (fun _ => Said n l P (c + 1))
      (fun _ => True) := by
  unfold send_setup_req
  refine Triple.bind node_said (fun me => Triple.of_and (fun hme => ?_))
  refine Triple.bind said_draws.uninit (fun stack => ?_)
  rw [hme.2.2.1 proxy, hmac, hme.2.1]
  refine Triple.bind vset_get_all_said (fun r => Triple.of_and (fun hr => ?_))
  refine Triple.bind (said_draws.kmalloc 1) (fun data => Triple.ite _ (fun _ => ?_)
    (fun _ => Triple.fault _ trivial))
  refine Triple.bind (read_vset_said r.1 r.2 hr) (fun ids => Triple.of_and (fun hids => ?_))
  refine Triple.bind (said_draws.kmalloc 1) (fun skb => Triple.ite _ (fun _ => ?_) (fun _ => ?_))
  · refine Triple.bind (vrr_output_said _ _ ?_) (fun _ => Triple.pure _ (fun _ hs => hs))
    rw [← hids.1]
    exact hP ids
  · exact Triple.pure _ (fun _ hs => hs.mono (Nat.le_succ c))

/-- The proxy of a request is an active neighbour. -/
theorem pset_get_proxy_said :
    Triple (Said n l P c) pset_get_proxy
      (fun ret s => Said n l P c s ∧ ∀ proxy, ret = some proxy → proxy ∈ pset_active n.pset)
      (fun _ => True) := by
  unfold pset_get_proxy
  refine Triple.bind node_said (fun me => Triple.of_and (fun hme => ?_))
  refine Triple.bind (Q := fun _ => Said n l P c) (Preserves.modify _ (fun s hs => ?_))
    (fun _ => Triple.ite _ (fun _ => ?_) (fun _ => ?_))
  · exact ⟨hs.me, hs.version, hs.macs, hs.actives, hs.sent⟩
  · exact Triple.pure _ (fun s hs => ⟨hs, fun _ h => by cases h⟩)
  · refine Triple.bind alters_said.random (fun r => Triple.pure _ (fun s hs => ⟨hs, ?_⟩))
    intro proxy hproxy
    unfold AlpacaVrr.pset_get_proxy at hproxy
    rw [hme.2.2.2] at hproxy
    exact List.mem_of_getElem? hproxy

/-- An active neighbour has an address. -/
theorem mac_of_active {p : Pset} {proxy : U32} (h : proxy ∈ pset_active p) :
    ∃ mac, pset_get_mac p proxy = some mac := by
  have hmem : proxy ∈ pset_ids p := by
    rcases List.mem_map.mp h with ⟨e, he, rfl⟩
    exact List.mem_map_of_mem (List.mem_filter.mp he).1
  exact Option.isSome_iff_exists.mp ((pset_get_mac_isSome_iff p proxy).mpr hmem)

/-- The requests of the node, whatever it is asked for. -/
def Asking (n : Node) (P : Packet → Prop) : Prop :=
  ∀ dest proxy mac ids, proxy ∈ pset_active n.pset → pset_get_mac n.pset proxy = some mac →
    P (build_packet n.version VRR_SETUP_REQ n.me dest mac (vset_data [proxy] ids))

section Operations

variable (hask : Asking n P)

include hask

theorem vrr_add_request_said (id : U32) :
    Triple (Said n l P c) (vrr_add_request id) (fun _ => Said n l P (c + 1)) (fun _ => True) := by
  have hquiet : Triple (Said n l P c) (pure () : Vrr Unit) (fun _ => Said n l P (c + 1))
      (fun _ => True) := Triple.pure _ (fun _ hs => hs.mono (Nat.le_succ c))
  unfold vrr_add_request
  refine Triple.bind node_said (fun me => Triple.of_and (fun hme => ?_))
  refine Triple.bind (alters_said.vset_should_add id) (fun should => ?_)
  refine Triple.ite _ (fun _ => ?_) (fun _ => hquiet)
  refine Triple.bind pset_get_proxy_said (fun ret => Triple.of_and (fun hret => ?_))
  cases ret with
  | none => exact hquiet
  | some proxy =>
      obtain ⟨mac, hmac⟩ := mac_of_active (hret proxy rfl)
      refine Triple.bind (send_setup_req_said me.me id proxy mac hmac (fun ids => ?_))
        (fun _ => Triple.pure _ (fun _ hs => hs))
      rw [hme.1]
      exact hask id proxy mac ids (hret proxy rfl) hmac

/-- The loop asks for each id once at most. -/
theorem vrr_add_requests_said (vset : List U32) :
    Triple (Said n l P c) (vset.forM vrr_add_request) (fun _ => Said n l P (c + vset.length))
      (fun _ => True) := by
  have hloop : Triple (Said n l P c) (vset.forM vrr_add_request)
      (fun _ => Said n l P (vset.foldl (fun c _ => c + 1) c)) (fun _ => True) :=
    Triple.forM_foldl (I := fun c => Said n l P c) vset c
      (fun done id rest _ => vrr_add_request_said hask id)
  rw [List.foldl_add_const, Nat.one_mul] at hloop
  exact hloop

theorem vrr_add_said (src : U32) (vset : List U32) :
    Triple (Said n l P c) (vrr_add src vset) (fun _ => Said n l P (c + vset.length))
      (fun _ => True) := by
  unfold vrr_add
  refine Triple.bind (vrr_add_requests_said hask vset) (fun _ => ?_)
  refine Triple.ite _ (fun _ => Triple.pure _ (fun _ hs => hs)) (fun _ => ?_)
  refine Triple.bind (alters_said.vset_should_add src) (fun should => ?_)
  refine Triple.ite _ (fun _ => ?_) (fun _ => Triple.pure _ (fun _ hs => hs))
  exact Triple.bind (alters_said.vset_add src 0) (fun _ => Triple.pure _ (fun _ hs => hs))

end Operations

/-- The teardowns of the node, whatever the path. -/
def TearingDown (n : Node) (P : Packet → Prop) : Prop :=
  ∀ ea pid hop mac ids, pset_get_mac n.pset hop = some mac →
    P (build_packet n.version VRR_TEARDOWN n.me hop mac (vset_data [ea, pid] ids))

section Paths

variable (htear : TearingDown n P)

include htear

theorem send_teardown_said (path_id endpoint : U32) (vset : Option (List U32)) (vset_size : Nat)
    (hop : U32) (hsize : ∀ ws, vset = some ws → ws.length = vset_size) :
    Triple (Said n l P c) (send_teardown path_id endpoint vset vset_size hop)
      (fun _ => Said n l P (c + 1)) (fun _ => True) := by
  unfold send_teardown
  refine Triple.bind node_said (fun me => Triple.of_and (fun hme => ?_))
  rw [hme.1]
  exact send_vset_said _ _ _ _ _ _ _ hsize (fun mac ids hmac _ _ =>
    htear endpoint path_id hop mac ids hmac)

/-- A path that the node tears down itself is reported to both sides. There is
    no sender, and so no third report. -/
theorem tear_down_path_said (path_id endpoint : U32) :
    Triple (Said n l P c) (tear_down_path path_id endpoint null) (fun _ => Said n l P (c + 2))
      (fun _ => True) := by
  have hhop : ∀ c hop, Triple (Said n l P c) (tear_down_hop path_id endpoint null hop)
      (fun _ => Said n l P (c + 1)) (fun _ => True) := by
    intro c hop
    unfold tear_down_hop
    refine Triple.bind node_said (fun me => Triple.ite _ (fun _ => ?_)
      (fun _ => Triple.pure _ (fun _ hs => hs.1.mono (Nat.le_succ c))))
    refine Triple.of_and (fun _ => ?_)
    -- without a sender no virtual set is attached
    have hnone : tear_down_vset null = pure (0, none) := if_neg (fun h => h rfl)
    rw [hnone]
    refine Triple.pure_bind _ (Triple.bind (send_teardown_said htear _ _ _ _ _ (fun ws h => ?_))
      (fun _ => Triple.pure _ (fun _ hs => hs)))
    cases h
  unfold tear_down_path
  refine Triple.bind (alters_said.rt_remove_route endpoint path_id) (fun route => ?_)
  cases route with
  | none => exact Triple.pure _ (fun _ hs => hs.mono (by omega))
  | some route =>
      refine Triple.bind (hhop c route.na) (fun _ => Triple.bind (hhop (c + 1) route.nb)
        (fun _ => ?_))
      unfold tear_down_hop
      refine Triple.bind (Triple.bind node_said (fun me => Triple.ite _ (fun hno => ?_)
        (fun _ => ?_))) (fun _ => Triple.pure _ (fun _ hs => hs))
      · exact absurd rfl hno.1
      · exact Triple.pure _ (fun _ hs => hs.1)

/-- The first node of a path sends the setup on, or tears the path down. -/
theorem vrr_local_rcv_setup_said (dst pid proxy : U32) (vset_size : Nat)
    (vset : Option (List U32)) (hsize : ∀ ws, vset = some ws → ws.length = vset_size)
    (hP : ∀ hop mac ids, pset_get_mac n.pset hop = some mac →
      P (build_packet n.version VRR_SETUP n.me dst mac (vset_data [pid, proxy] ids))) :
    Triple (Said n l P c) (vrr_local_rcv_setup dst pid proxy vset_size vset)
      (fun _ => Said n l P (c + 2)) (fun _ => True) := by
  unfold vrr_local_rcv_setup
  refine Triple.bind node_said (fun me => Triple.of_and (fun hme => ?_))
  refine Triple.bind (SendsOwn.next_hop_via dst proxy) (fun nh => ?_)
  refine Triple.bind (rt_add_route_rule said_draws _ _ _ _ _ (fun s _ _ hs =>
    ⟨hs.me, hs.version, hs.macs, hs.actives, hs.sent⟩)) (fun added => ?_)
  refine Triple.ite _ (fun _ => Triple.ite _ (fun _ => ?_)
    (fun _ => Triple.pure _ (fun _ hs => hs.mono (by omega)))) (fun _ => ?_)
  · refine Triple.bind (send_vset_said (c := c) _ _ _ _ _ _ _ hsize (fun mac ids hmac _ _ => ?_))
      (fun _ => Triple.pure _ (fun _ hs => hs.mono (by omega)))
    rw [hme.1]
    exact hP nh mac ids hmac
  · exact Triple.bind (tear_down_path_said htear pid me.me)
      (fun _ => Triple.pure _ (fun _ hs => hs))

end Paths

/-- The node that refuses a request asks for a path itself, and says so. -/
theorem vrr_local_rcv_setup_fail_said (hask : Asking n P) (dst proxy : U32) (vset_size : Nat)
    (vset : Option (List U32)) (hsize : ∀ ws, vset = some ws → ws.length = vset_size)
    (hP : ∀ hop mac ids, pset_get_mac n.pset hop = some mac →
      P (build_packet n.version VRR_SETUP_FAIL n.me dst mac (vset_data [proxy] ids))) :
    Triple (Said n l P c) (vrr_local_rcv_setup_fail dst proxy vset_size vset)
      (fun _ => Said n l P (c + 2)) (fun _ => True) := by
  unfold vrr_local_rcv_setup_fail
  refine Triple.bind node_said (fun me => Triple.of_and (fun hme => ?_))
  refine Triple.bind (said_draws.kmalloc _) (fun ovset => ?_)
  refine Triple.bind (SendsOwn.next_hop_via dst proxy) (fun nh => ?_)
  refine Triple.ite _ (fun _ => Triple.ite _ (fun _ => Triple.fault _ trivial) (fun _ => ?_))
    (fun _ => Triple.fault _ trivial)
  refine Triple.bind (vrr_add_said hask UINT_MAX [dst]) (fun _ => Triple.ite _ (fun _ => ?_)
    (fun _ => Triple.pure _ (fun _ hs => hs.mono (Nat.le_succ _))))
  refine Triple.bind (send_vset_said (c := c + 1) _ _ _ _ _ _ _ hsize (fun mac ids hmac _ _ => ?_))
    (fun _ => Triple.pure _ (fun _ hs => hs))
  rw [hme.1]
  exact hP nh mac ids hmac

/-- The fields of a received packet. -/
theorem read_u32_said (p : Packet) (offset : Nat) :
    Triple (Said n l P c) (read_u32 p offset) (fun w s => Said n l P c s ∧ Readable p offset w)
      (fun _ => True) := by
  unfold read_u32 Readable
  cases word p offset with
  | none =>
      refine Triple.bind said_draws.uninit (fun stack => Triple.pure _ (fun s hs => ⟨hs, ?_⟩))
      intro w' h
      cases h
  | some w => exact Triple.pure _ (fun s hs => ⟨hs, fun w' h => (Option.some.inj h).symm⟩)

theorem read_array_said (p : Packet) (offset size : Nat) (hoffset : vrr_header_size ≤ offset) :
    Triple (Said n l P c) (read_array p offset size)
      (fun ids s => Said n l P c s ∧ Legible p offset size ids) (fun _ => True) := by
  unfold read_array
  cases hws : words p offset size with
  | none =>
      refine Triple.bind said_draws.uninit (fun buffer => Triple.pure _ (fun s hs => ⟨hs, ?_, ?_⟩))
      · rw [List.length_map, List.length_range]
      · intro ws h
        rw [hws] at h
        cases h
  | some ws =>
      refine Triple.pure _ (fun s hs => ⟨hs, length_words hoffset hws, fun ws' h => ?_⟩)
      rw [hws, Option.some.injEq] at h
      exact h.symm

/-- A vset received, unless it is rejected. -/
theorem received_said {c' : Nat} (p : Packet) (offset room : Nat) (size : U32)
    (k : List U32 → Vrr Int) (hc : c ≤ c') (hoffset : vrr_header_size ≤ offset)
    (hk : size.toNat ≤ VRR_VSET_SIZE → ∀ ids, Legible p offset size.toNat ids →
      Triple (Said n l P c) (k ids) (fun _ => Said n l P c') (fun _ => True)) :
    Triple (Said n l P c) (if VRR_VSET_SIZE < size.toNat then pure (-1) else do
      let buffer ← kmalloc room
      if buffer then do
        let vset ← read_array p offset size.toNat
        k vset
      else pure (-1)) (fun _ => Said n l P c') (fun _ => True) := by
  have hreject : Triple (Said n l P c) (pure (-1) : Vrr Int) (fun _ => Said n l P c')
      (fun _ => True) := Triple.pure _ (fun _ hs => hs.mono hc)
  refine Triple.ite _ (fun _ => hreject) (fun hsize => ?_)
  refine Triple.bind (said_draws.kmalloc room) (fun buffer => Triple.ite _ (fun _ => ?_)
    (fun _ => hreject))
  refine Triple.bind (read_array_said p offset _ hoffset) (fun ids => Triple.of_and ?_)
  intro hids
  exact hk (Nat.le_of_not_lt hsize) ids hids

end Vrr

end Said

namespace Vrr

section Handlers

variable (n : Node) (l : List Packet) (skb : SkBuff)

/-- The packets that come of the reception so far. -/
abbrev Replied (c : Nat) : Sys → Prop := Said n l (Reply n skb) c

theorem asking_reply (hty : skb.pkt.vh.pkt_type ≠ VRR_DATA ∧ skb.pkt.vh.pkt_type ≠ VRR_HELLO) :
    Asking n (Reply n skb) :=
  fun dest proxy mac ids hproxy hmac => Reply.requested dest proxy mac ids hty hproxy hmac

/-- Passing on what is not for the node. -/
theorem forward_said (hop : U32) (mac : MacAddr)
    (hty : skb.pkt.vh.pkt_type = VRR_DATA ∨ skb.pkt.vh.pkt_type = VRR_SETUP_REQ)
    (hmac : pset_get_mac n.pset hop = some mac) :
    Triple (Replied n l skb 0)
      (vrr_output .received { skb.pkt with vh := { skb.pkt.vh with dest_mac := mac } })
      (fun _ => Replied n l skb 1) (fun _ => True) :=
  vrr_output_said _ _ (Reply.forwarded hop mac hty hmac)

theorem vrr_rcv_data_said (hty : skb.pkt.vh.pkt_type = VRR_DATA) :
    Triple (Replied n l skb 0) (vrr_rcv_data skb) (fun _ => Replied n l skb 1) (fun _ => True) := by
  unfold vrr_rcv_data
  refine Triple.bind node_said (fun me => Triple.of_and (fun hme => Triple.ite _ (fun _ => ?_)
    (fun _ => ?_)))
  · cases vrr_find_sock me.vrr_socks skb.pkt.src with
    | none => exact Triple.pure _ (fun _ hs => hs.mono (Nat.zero_le 1))
    | some sk =>
        refine Triple.bind (Confines.gets _) (fun ret => ?_)
        refine Triple.bind (Q := fun _ => Replied n l skb 0) (Triple.modify _ (fun s hs => ?_))
          (fun _ => Triple.pure _ (fun _ hs => hs.mono (Nat.zero_le 1)))
        exact ⟨hs.me, hs.version, hs.macs, hs.actives, hs.sent⟩
  · refine Triple.bind ?_ (fun _ => Triple.pure _ (fun _ hs => hs))
    unfold vrr_forward
    refine Triple.bind (SendsOwn.rt_get_next _) (fun nh => ?_)
    refine Triple.bind node_said (fun me' => Triple.of_and (fun hme' => ?_))
    refine Triple.ite _ (fun _ => Triple.pure _ (fun _ hs => hs.mono (Nat.zero_le 1))) (fun _ => ?_)
    rw [hme'.2.2.1 nh]
    cases hmac : pset_get_mac n.pset nh with
    | none => exact Triple.pure _ (fun _ hs => hs.mono (Nat.zero_le 1))
    | some mac => exact forward_said n l skb nh mac (Or.inl hty) hmac

/-- A hello leads to nothing yet. -/
theorem vrr_rcv_hello_said :
    Triple (Replied n l skb 0) (vrr_rcv_hello skb) (fun _ => Replied n l skb 0) (fun _ => True) :=
  said_draws.vrr_rcv_hello skb (fun _ hs => hs) (fun _ _ _ => Triple.modify _ (fun _ hs =>
    ⟨hs.me, hs.version, hs.macs, hs.actives, hs.sent⟩))

theorem vrr_rcv_setup_req_said (hty : skb.pkt.vh.pkt_type = VRR_SETUP_REQ) :
    Triple (Replied n l skb 0) (vrr_rcv_setup_req skb)
      (fun _ => Replied n l skb (VRR_VSET_SIZE + 2)) (fun _ => True) := by
  have hask : Asking n (Reply n skb) := asking_reply n skb (by rw [hty]; decide)
  have htear : TearingDown n (Reply n skb) :=
    fun ea pid hop mac ids hmac => Reply.torn ea pid hop mac ids (Or.inl hty) hmac
  unfold vrr_rcv_setup_req
  refine Triple.bind (Preserves.bind (Preserves.gets _) (fun _ => Preserves.pure _)) (fun nh => ?_)
  refine Triple.ite _ (fun _ => ?_) (fun _ => ?_)
  · -- a request with a next hop is passed on
    refine Triple.bind (Q := fun _ => Replied n l skb 1) ?_
      (fun _ => Triple.pure _ (fun _ hs => hs.mono (by decide)))
    unfold vrr_forward_setup_req
    refine Triple.bind node_said (fun me => Triple.of_and (fun hme => ?_))
    rw [hme.2.2.1 nh]
    cases hmac : pset_get_mac n.pset nh with
    | none => exact Triple.pure _ (fun _ hs => hs.mono (Nat.zero_le 1))
    | some mac => exact forward_said n l skb nh mac (Or.inr hty) hmac
  refine Triple.bind (read_u32_said _ _) (fun proxy => Triple.of_and (fun _ => ?_))
  refine Triple.bind (read_u32_said _ _) (fun size => Triple.of_and (fun _ => ?_))
  refine received_said _ _ _ _ _ (Nat.zero_le _) (by decide) (fun hsize ids hids => ?_)
  refine Triple.bind vset_get_all_said (fun ovset => Triple.of_and (fun hov => ?_))
  -- the requests for the ids received, and then the answer
  have hroom : 0 + ids.length + 2 ≤ VRR_VSET_SIZE + 2 := by
    rw [hids.length, Nat.zero_add]
    exact Nat.add_le_add_right hsize 2
  refine Triple.bind (vrr_add_said hask _ ids) (fun added => Triple.ite _ (fun _ => ?_)
    (fun _ => ?_))
  · refine Triple.bind alters_said.random (fun pid => ?_)
    refine Triple.bind (vrr_local_rcv_setup_said htear _ pid proxy ovset.1 ovset.2 hov
      (fun hop mac ws hmac => Reply.answered pid proxy hop mac ws hty hmac)) (fun _ => ?_)
    exact Triple.pure _ (fun _ hs => hs.mono hroom)
  · refine Triple.bind (vrr_local_rcv_setup_fail_said hask _ proxy ovset.1 ovset.2 hov
      (fun hop mac ws hmac => Reply.refused proxy hop mac ws hty hmac)) (fun _ => ?_)
    exact Triple.pure _ (fun _ hs => hs.mono hroom)

theorem vrr_rcv_setup_said (hty : skb.pkt.vh.pkt_type = VRR_SETUP) :
    Triple (Replied n l skb 0) (vrr_rcv_setup skb) (fun _ => Replied n l skb VRR_VSET_SIZE)
      (fun _ => True) := by
  have hask : Asking n (Reply n skb) := asking_reply n skb (by rw [hty]; decide)
  have htorn : ∀ pid, Triple (Replied n l skb 0) (do
      let _ ← tear_down_path pid skb.pkt.src null
      pure (0 : Int)) (fun _ => Replied n l skb VRR_VSET_SIZE) (fun _ => True) := by
    intro pid
    refine Triple.bind (tear_down_path_said (fun ea pid hop mac ids hmac =>
      Reply.torn ea pid hop mac ids (Or.inr (Or.inl hty)) hmac) pid skb.pkt.src) (fun _ => ?_)
    exact Triple.pure _ (fun _ hs => hs.mono (by decide))
  unfold vrr_rcv_setup
  refine Triple.bind node_said (fun me => Triple.of_and (fun _ => ?_))
  refine Triple.bind (read_u32_said _ _) (fun pid => Triple.of_and (fun hpid => ?_))
  refine Triple.bind (read_u32_said _ _) (fun proxy => Triple.of_and (fun hproxy => ?_))
  cases (if skb.dev_addr = skb.h_source then some me.me
    else pset_lookup_mac me.pset skb.h_source) with
  | none => exact htorn pid
  | some sender =>
      refine Triple.bind (SendsOwn.setup_next_hop _ _) (fun nh => ?_)
      refine Triple.bind (rt_add_route_rule said_draws _ _ _ _ _ (fun s _ _ hs =>
        ⟨hs.me, hs.version, hs.macs, hs.actives, hs.sent⟩)) (fun added => ?_)
      refine Triple.ite _ (fun _ => ?_) (fun _ => htorn pid)
      refine Triple.bind (read_u32_said _ _) (fun size => Triple.of_and (fun hread => ?_))
      refine received_said _ _ _ _ _ (Nat.zero_le _) (by decide) (fun hsize ids hids => ?_)
      refine Triple.ite _ (fun _ => ?_) (fun _ => ?_)
      · refine Triple.bind (send_vset_said (c := 0) _ _ _ _ _ _ _ (fun ws hws => ?_)
          (fun mac ws hmac _ hws => ?_)) (fun _ => Triple.pure _ (fun _ hs => hs.mono (by decide)))
        · rw [← Option.some.inj hws]
          exact hids.length
        · rw [hws ids rfl]
          exact Reply.setup pid proxy size nh mac ids hty ⟨hpid, hproxy, hread⟩ hids hmac
      · refine Triple.bind (vrr_add_said hask _ ids) (fun ret => ?_)
        have hroom : 0 + ids.length ≤ VRR_VSET_SIZE := by
          rw [hids.length, Nat.zero_add]
          exact hsize
        refine Triple.ite _ (fun _ => ?_) (fun _ => Triple.pure _ (fun _ hs => hs.mono hroom))
        refine Triple.bind (Q := fun _ => Replied n l skb VRR_VSET_SIZE)
          (Triple.modify _ (fun s hs => ?_)) (fun _ => Triple.pure _ (fun _ hs => hs))
        exact ⟨hs.me, hs.version, hs.macs, hs.actives, (hs.mono hroom).sent⟩

theorem vrr_rcv_setup_fail_said (hty : skb.pkt.vh.pkt_type = VRR_SETUP_FAIL) :
    Triple (Replied n l skb 0) (vrr_rcv_setup_fail skb) (fun _ => Replied n l skb VRR_VSET_SIZE)
      (fun _ => True) := by
  have hask : Asking n (Reply n skb) := asking_reply n skb (by rw [hty]; decide)
  unfold vrr_rcv_setup_fail
  refine Triple.bind (read_u32_said _ _) (fun proxy => Triple.of_and (fun hproxy => ?_))
  refine Triple.bind (read_u32_said _ _) (fun size => Triple.of_and (fun hread => ?_))
  refine received_said _ _ _ _ _ (Nat.zero_le _) (by decide) (fun hsize ids hids => ?_)
  refine Triple.bind (SendsOwn.next_hop_via _ _) (fun nh => Triple.ite _ (fun _ => ?_)
    (fun _ => ?_))
  · refine Triple.bind (send_vset_said (c := 0) _ _ _ _ _ _ _ (fun ws hws => ?_)
      (fun mac ws hmac _ hws => ?_)) (fun _ => Triple.pure _ (fun _ hs => hs.mono (by decide)))
    · rw [← Option.some.inj hws]
      exact hids.length
    · rw [hws ids rfl]
      exact Reply.setup_fail proxy size nh mac ids hty ⟨hproxy, hread⟩ hids hmac
  · have hroom : 0 + ids.length ≤ VRR_VSET_SIZE := by
      rw [hids.length, Nat.zero_add]
      exact hsize
    refine Triple.bind node_said (fun me => Triple.of_and (fun _ => Triple.ite _ (fun _ => ?_)
      (fun _ => Triple.pure _ (fun _ hs => hs.mono (Nat.zero_le _)))))
    refine Triple.bind (alters_said.overrun _ _) (fun _ => ?_)
    exact Triple.bind (vrr_add_said hask _ ids) (fun _ => Triple.pure _ (fun _ hs => hs.mono hroom))

theorem vrr_rcv_teardown_said (hty : skb.pkt.vh.pkt_type = VRR_TEARDOWN) :
    Triple (Replied n l skb 0) (vrr_rcv_teardown skb) (fun _ => Replied n l skb VRR_VSET_SIZE)
      (fun _ => True) := by
  have hask : Asking n (Reply n skb) := asking_reply n skb (by rw [hty]; decide)
  unfold vrr_rcv_teardown
  refine Triple.bind (read_u32_said _ _) (fun ea => Triple.of_and (fun _ => ?_))
  refine Triple.bind (read_u32_said _ _) (fun pid => Triple.of_and (fun _ => ?_))
  refine Triple.bind (read_u32_said _ _) (fun size => Triple.of_and (fun _ => ?_))
  refine Triple.bind (alters_said.rt_remove_route ea pid) (fun route => ?_)
  cases route with
  | none => exact Triple.fault _ trivial
  | some route =>
      refine received_said _ _ _ _ _ (Nat.zero_le _) (by decide) (fun hsize ids hids => ?_)
      refine Triple.ite _ (fun _ => ?_) (fun _ => ?_)
      · refine Triple.bind (send_teardown_said (c := 0) (fun ea pid hop mac ids hmac =>
          Reply.torn ea pid hop mac ids (Or.inr (Or.inr hty)) hmac) _ _ _ _ _ (fun ws hws => ?_))
          (fun _ => Triple.pure _ (fun _ hs => hs.mono (by decide)))
        rw [← Option.some.inj hws]
        exact hids.length
      · have hroom : 0 + ids.length ≤ VRR_VSET_SIZE := by
          rw [hids.length, Nat.zero_add]
          exact hsize
        refine Triple.bind (alters_said.vset_remove _) (fun _ => ?_)
        exact Triple.bind (vrr_add_said hask _ ids) (fun _ =>
          Triple.pure _ (fun _ hs => hs.mono hroom))

theorem vrr_rcvfunc_said (hty : skb.pkt.vh.pkt_type < VRR_NPTYPES) :
    Triple (Replied n l skb 0) (vrr_rcvfunc skb)
      (fun _ => Replied n l skb (reply_bound skb.pkt.vh.pkt_type)) (fun _ => True) := by
  refine vrr_rcvfunc_triple skb hty (fun h => ?_) (fun h => ?_) (fun h => ?_) (fun h => ?_)
    (fun h => ?_) (fun h => ?_) <;> rw [h]
  · exact vrr_rcv_data_said n l skb h
  · exact vrr_rcv_hello_said n l skb
  · exact vrr_rcv_setup_req_said n l skb h
  · exact vrr_rcv_setup_said n l skb h
  · exact vrr_rcv_setup_fail_said n l skb h
  · exact vrr_rcv_teardown_said n l skb h

/-- Whatever is received, nothing else is said. -/
theorem vrr_rcv_said :
    Triple (fun s => s.node = n ∧ s.sent = l) (vrr_rcv skb)
      (fun _ => Replied n l skb (reply_bound skb.pkt.vh.pkt_type)) (fun _ => True) := by
  have hfree : ∀ c, Triple (Replied n l skb c) (kfree_skb .received) (fun _ => Replied n l skb c)
      (fun _ => True) :=
    fun c => Triple.modify _ (fun s hs => ⟨hs.me, hs.version, hs.macs, hs.actives, hs.sent⟩)
  have hstart : ∀ s : Sys, s.node = n ∧ s.sent = l → Replied n l skb 0 s := by
    rintro s ⟨rfl, rfl⟩
    exact ⟨rfl, rfl, fun _ => rfl, rfl, [], (List.append_nil _).symm, Nat.le_refl 0,
      fun p hp => absurd hp List.not_mem_nil⟩
  refine vrr_rcv_triple (I := Replied n l skb 0)
    (J := fun _ => Replied n l skb (reply_bound skb.pkt.vh.pkt_type)) skb (fun _ => ?_)
    (fun s hs => ?_) (fun hty => vrr_rcvfunc_said n l skb hty) (fun _ _ => hfree _)
    (fun _ hs => hs)
  · exact ((hfree 0).pre hstart).post (fun _ _ hs => hs.mono (Nat.zero_le _))
  · -- the counts that are set back are in no lookup
    have h := hstart s hs
    refine ⟨h.me, h.version, fun id => ?_, ?_, h.sent⟩
    · exact (pset_get_mac_reset_fail_count _ _ _).trans (h.macs id)
    · exact (pset_active_reset_fail_count _ _).trans h.actives

end Handlers

/-- The node has its name, its version and its flag from `n`, and its addresses
    from the entries and the updates of `n`. It has added no more than `c`
    requests to the record `l`. -/
structure Joining (n : Node) (l : List Packet) (c : Nat) (s : Sys) : Prop where
  me : s.node.me = n.me
  version : s.node.version = n.version
  active : s.node.active = n.active
  known : ∀ e ∈ s.node.pset, Introduced n e.node e.mac
  sent : ∃ ps, s.sent = l ++ ps ∧ ps.length ≤ c ∧ ∀ p ∈ ps, Emission n .pset_update_handler p

section Rounds

variable {n : Node} {l : List Packet} {c : Nat}

/-- An update has an entry of its own to work on. -/
theorem pset_update_entry_joining (tmp : PsetUpdate) (htmp : tmp ∈ n.pset_updates)
    (next_state : PsetStatus) (me : Node) :
    Triple (fun s => Joining n l c s ∧ s.node = me)
      (pset_update_entry tmp (pset_get_status me.pset tmp.node) next_state
        (pset_get_active me.pset tmp.node))
      (fun _ s => Joining n l c s ∧ tmp.node ∈ pset_ids s.node.pset) (fun _ => True) := by
  have hrefresh : Triple (fun s => Joining n l c s ∧ tmp.node ∈ pset_ids s.node.pset)
      pset_state_update (fun _ s => Joining n l c s ∧ tmp.node ∈ pset_ids s.node.pset)
      (fun _ => True) :=
    pset_state_update_triple (Triple.modify _ (fun _ hs =>
        ⟨⟨hs.1.me, hs.1.version, hs.1.active, hs.1.known, hs.1.sent⟩, hs.2⟩))
      (fun _ _ => Triple.modify _ (fun _ hs =>
        ⟨⟨hs.1.me, hs.1.version, hs.1.active, hs.1.known, hs.1.sent⟩, hs.2⟩))
  unfold pset_update_entry
  refine Triple.ite _ (fun _ => ?_) (fun hold => Triple.ite _ (fun _ => ?_) (fun _ => ?_))
  · -- a new entry has its address from the update
    refine Triple.bind (pset_add_triple (Q := fun s => Joining n l c s ∧
      tmp.node ∈ pset_ids s.node.pset) (M := fun _ => Joining n l c) (fun s hs hsame => ?_)
      (Preserves.ite _ (fun _ => Preserves.pure _) (fun _ s hs => ?_))
      (Triple.modify _ (fun s hs => ?_)) (Triple.fault _ trivial)) (fun _ => hrefresh) |>.pre
      (fun s hs => hs.1)
    · refine ⟨hs, ?_⟩
      rw [← hsame]
      exact (mem_pset_ids_add _ _ _ _ _ _).mpr (Or.inl rfl)
    · exact ⟨hs.me, hs.version, hs.active, hs.known, hs.sent⟩
    · refine ⟨⟨hs.me, hs.version, hs.active, fun e he => ?_, hs.sent⟩,
        (mem_pset_ids_add _ _ _ _ _ _).mpr (Or.inl rfl)⟩
      simp only [AlpacaVrr.pset_add] at he
      split_ifs at he with hin
      · exact hs.known e he
      · rcases List.mem_cons.mp he with rfl | he
        · exact Or.inr ⟨tmp, htmp, rfl, rfl⟩
        · exact hs.known e he
  · refine Triple.bind (Q := fun _ s => Joining n l c s ∧ tmp.node ∈ pset_ids s.node.pset)
      (Triple.modify _ (fun s hs => ?_)) (fun _ => hrefresh)
    refine ⟨⟨hs.1.me, hs.1.version, hs.1.active, fun e he => ?_, hs.1.sent⟩, ?_⟩
    · rcases mem_on_first _ _ _ e he with he | ⟨e', he', _, rfl⟩
      · exact hs.1.known e he
      · exact hs.1.known e' he'
    · simp only [pset_ids_update_status, hs.2]
      exact mem_of_pset_get_status _ _ hold
  · refine Triple.pure _ (fun s hs => ⟨hs.1, ?_⟩)
    rw [hs.2]
    exact mem_of_pset_get_status _ _ hold

/-- An update leads to one request at most. -/
theorem pset_update_join_joining (tmp : PsetUpdate) (htmp : tmp ∈ n.pset_updates)
    (next_state : PsetStatus) :
    Triple (fun s => Joining n l c s ∧ tmp.node ∈ pset_ids s.node.pset)
      (pset_update_join tmp next_state) (fun _ => Joining n l (c + 1)) (fun _ => True) := by
  have hmore : ∀ s, Joining n l c s → Joining n l (c + 1) s := by
    intro s hs
    obtain ⟨ps, hsent, hlen, hps⟩ := hs.sent
    exact ⟨hs.me, hs.version, hs.active, hs.known, ps, hsent, Nat.le_succ_of_le hlen, hps⟩
  unfold pset_update_join
  refine Triple.bind (Q := fun me s => (Joining n l c s ∧ tmp.node ∈ pset_ids s.node.pset) ∧
    s.node = me) (Triple.gets _ (fun s hs => ⟨hs, rfl⟩)) (fun me => Triple.ite _ (fun hjoin => ?_)
    (fun _ => Triple.pure _ (fun s hs => hmore s hs.1.1)))
  refine Triple.bind ?_ (fun _ => Triple.pure _ (fun _ hs => hs))
  rintro s ⟨⟨hs, hmem⟩, rfl⟩
  -- the request goes to the address that the set has now
  obtain ⟨mac, hmac⟩ := Option.isSome_iff_exists.mp ((pset_get_mac_isSome_iff _ _).mpr hmem)
  obtain ⟨e, hfind, rfl⟩ := Option.map_eq_some_iff.mp hmac
  have hnode : e.node = tmp.node := by
    have hbeq := List.find?_some hfind
    exact beq_iff_eq.mp hbeq
  have hknown := hs.known e (List.mem_of_find?_eq_some hfind)
  rw [hnode] at hknown
  have hsaid := (send_setup_req_said (n := s.node) (l := s.sent) (c := 0)
    (P := Emission n .pset_update_handler) s.node.me s.node.me tmp.node e.mac hmac (fun ids => by
      rw [hs.me, hs.version]
      exact Emission.join tmp e.mac ids htmp ⟨hs.active ▸ hjoin.1, hjoin.2.1⟩ hknown))
  have hrun := (Triple.and (node_of_still (send_setup_req_still s.node.me s.node.me tmp.node)
    s.node) hsaid) s ⟨rfl, rfl, rfl, fun _ => rfl, rfl, [], (List.append_nil _).symm,
      Nat.le_refl 0, fun p hp => absurd hp List.not_mem_nil⟩
  cases hx : send_setup_req s.node.me s.node.me tmp.node s with
  | error e => trivial
  | ok r =>
      rw [hx] at hrun
      obtain ⟨hnode, hsaid⟩ := hrun
      obtain ⟨ps, hsent, hlen, hps⟩ := hs.sent
      obtain ⟨ps', hsent', hlen', hps'⟩ := hsaid.sent
      have hjoined : Joining n l (c + 1) r.2 := by
        refine ⟨hsaid.me.trans hs.me, hsaid.version.trans hs.version, ?_, ?_, ps ++ ps', ?_, ?_,
          fun p hp => ?_⟩
        · rw [hnode]
          exact hs.active
        · rw [hnode]
          exact hs.known
        · rw [hsent', hsent, List.append_assoc]
        · rw [List.length_append]
          omega
        · exact (List.mem_append.mp hp).elim (hps p) (hps' p)
      exact hjoined

theorem pset_update_joining (tmp : PsetUpdate) (htmp : tmp ∈ n.pset_updates) :
    Triple (Joining n l c) (pset_update tmp) (fun _ => Joining n l (c + 1)) (fun _ => True) := by
  unfold pset_update
  refine Triple.bind (Q := fun me s => Joining n l c s ∧ s.node = me)
    (Triple.gets _ (fun s hs => ⟨hs, rfl⟩)) (fun me => ?_)
  refine Triple.bind (pset_update_entry_joining tmp htmp _ me) (fun _ => ?_)
  refine Triple.bind (pset_update_join_joining tmp htmp _)
    (fun _ => Triple.modify _ (fun s hs => ?_))
  exact ⟨hs.me, hs.version, hs.active, hs.known, hs.sent⟩

/-- The queue leads to a request for each update at most. -/
theorem pset_update_handler_said (n : Node) (l : List Packet) :
    Triple (fun s => s.node = n ∧ s.sent = l) pset_update_handler
      (fun _ => Joining n l n.pset_updates.length) (fun _ => True) := by
  unfold pset_update_handler
  refine Triple.bind (Q := fun me s => Joining n l 0 s ∧ me = n) (Triple.gets _ ?_)
    (fun me => Triple.of_and (fun hme => ?_))
  · rintro s ⟨rfl, rfl⟩
    exact ⟨⟨rfl, rfl, rfl, fun e he => Or.inl ⟨e, he, rfl, rfl⟩, [], (List.append_nil _).symm,
      Nat.le_refl 0, fun p hp => absurd hp List.not_mem_nil⟩, rfl⟩
  rw [hme]
  have hloop : Triple (Joining n l 0) (n.pset_updates.forM pset_update)
      (fun _ => Joining n l (n.pset_updates.foldl (fun c _ => c + 1) 0)) (fun _ => True) :=
    Triple.forM_foldl (I := fun c => Joining n l c) n.pset_updates 0
      (fun done tmp rest hl => pset_update_joining tmp (by rw [hl]; simp))
  rw [List.foldl_add_const, Nat.one_mul, Nat.zero_add] at hloop
  refine Triple.bind hloop (fun _ => Triple.modify _ (fun s hs => ?_))
  exact ⟨hs.me, hs.version, hs.active, hs.known, hs.sent⟩

end Rounds

/-- A tick leads to a hello, which is the last thing the timer does. -/
theorem vrr_workqueue_handler_said (n : Node) (l : List Packet) :
    Triple (fun s => s.node = n ∧ s.sent = l) vrr_workqueue_handler
      (fun _ s => ∃ ps, s.sent = l ++ ps ∧ ps.length ≤ 1 ∧
        ∀ p ∈ ps, Emission n .vrr_workqueue_handler p) (fun _ => True) := by
  have hsilent : Triple (fun s => (s.node.me = n.me ∧ s.node.version = n.version) ∧ s.sent = l)
      detect_failures (fun _ s => (s.node.me = n.me ∧ s.node.version = n.version) ∧ s.sent = l)
      (fun _ => True) :=
    SendsOwn.detect_failures (fun _ _ _ _ hs => hs) (fun _ _ => Preserves.modify _ (fun _ hs => hs))
  have hdraws : Draws (fun s => (s.node.me = n.me ∧ s.node.version = n.version) ∧ s.sent = l)
      (fun _ => True) := draws_of_kern (fun _ _ hs => hs)
  unfold vrr_workqueue_handler
  refine Triple.bind (hsilent.pre (fun s hs => ?_)) (fun _ => ?_)
  · rw [hs.1]
    exact ⟨⟨rfl, rfl⟩, hs.2⟩
  refine Triple.bind (Q := fun _ s => (s.node.me = n.me ∧ s.node.version = n.version) ∧ s.sent = l)
    (Triple.modify _ (fun s hs => ?_)) (fun _ => ?_)
  · simp only
    split_ifs <;> exact hs
  refine Triple.bind ?_ (fun _ => Triple.pure _ (fun _ hs => hs))
  unfold send_hpkt
  refine Triple.bind (Q := fun me s => ((s.node.me = n.me ∧ s.node.version = n.version) ∧
    s.sent = l) ∧ me.me = n.me ∧ me.version = n.version) (Triple.gets _ (fun s hs => ⟨hs, hs.1⟩))
    (fun me => Triple.of_and (fun hme => ?_))
  refine Triple.bind (hdraws.kmalloc 1) (fun data => Triple.ite _ (fun _ => ?_)
    (fun _ => Triple.fault _ trivial))
  refine Triple.bind (hdraws.kmalloc 1) (fun skb => Triple.ite _ (fun _ => ?_) (fun _ => ?_))
  · rw [hme.1, hme.2]
    refine Triple.bind (Q := fun _ s => ∃ ps, s.sent = l ++ ps ∧ ps.length ≤ 1 ∧
      ∀ p ∈ ps, Emission n .vrr_workqueue_handler p) ?_ (fun _ => Triple.pure _ (fun _ hs => hs))
    refine Triple.bind (Q := fun _ s => s.sent = l ++ [build_packet n.version VRR_HELLO n.me 0 0
      (AlpacaVrr.hpkt_data me.active me.pstate)]) (Triple.modify _ (fun s hs => by rw [hs.2]))
      (fun _ => ?_)
    refine Triple.bind (Triple.modify (U := fun _ s => s.sent = l ++ [_]) _ (fun _ hs => hs))
      (fun _ => Triple.pure _ (fun s hs => ⟨_, hs, (List.length_singleton).le, fun p hp => ?_⟩))
    rw [List.mem_singleton.mp hp]
    exact Emission.hello me.active me.pstate
  · refine Triple.pure _ (fun s hs => ⟨[], ?_, Nat.zero_le 1, fun p hp => ?_⟩)
    · rw [hs.2, List.append_nil]
    · exact absurd hp List.not_mem_nil

end Vrr

/-- What an event emits, in number and in kind. -/
theorem step_emits {s t : Sys} {i : Event × Kernel} (h : Step s i t) :
    ∃ ps, t.sent = s.sent ++ ps ∧ ps.length ≤ bound s.node i.1 ∧
      ∀ p ∈ ps, Emission s.node i.1 p := by
  refine step_cases (I := fun t => ∃ ps, t.sent = s.sent ++ ps ∧
    ps.length ≤ bound s.node i.1 ∧ ∀ p ∈ ps, Emission s.node i.1 p) h ?_ ?_ ?_ ?_
  · intro skb r he hrun
    rw [he]
    have hsaid : Vrr.Replied s.node s.sent skb _ t :=
      (Vrr.vrr_rcv_said s.node s.sent skb).ok (s := { s with kern := i.2 }) ⟨rfl, rfl⟩ hrun
    obtain ⟨ps, hsent, hlen, hps⟩ := hsaid.sent
    exact ⟨ps, hsent, hlen, fun p hp => Emission.reply skb p (hps p hp)⟩
  · intro he hrun
    rw [he]
    have hjoined : Vrr.Joining s.node s.sent _ t :=
      (Vrr.pset_update_handler_said s.node s.sent).ok (s := { s with kern := i.2 }) ⟨rfl, rfl⟩ hrun
    exact hjoined.sent
  · intro he hrun
    rw [he]
    exact (Vrr.vrr_workqueue_handler_said s.node s.sent).ok
      (s := { s with kern := i.2 }) ⟨rfl, rfl⟩ hrun
  · intro _ socks
    exact ⟨[], (List.append_nil _).symm, Nat.zero_le _, fun p hp => absurd hp List.not_mem_nil⟩

end AlpacaVrr
