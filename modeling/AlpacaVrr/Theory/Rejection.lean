import AlpacaVrr.Core.System
import AlpacaVrr.Theory.Frames

/-!
# Rejected Packets

Which rejected packets leave the protocol's state as it was.

A handler rejects a packet by returning something other than zero. Hellos and
setup requests are read to the end before anything is changed, and so is a
setup failure; a data packet changes nothing at all. The other two handlers
act first. `vrr_rcv_setup` has added the route by the time it reads the size
of the vset, and `vrr_rcv_teardown` has removed one. A setup that is rejected
leaves no trace only if neither of its ends is filed anywhere, both being
zero. A teardown always leaves one: had there been no route to remove, the
handler would not have come to its end.

Every path that changes anything else returns zero, so `zero_triple` disposes
of it without a look.

## Main definitions

* `Sys.protocol`: What a rejected packet should leave alone.

## Theorems

* `zero_triple`: Nothing is rejected after the last action.
* `vrr_rcv_setup_rejects`, `vrr_rcv_teardown_rejects`: The two that act first.
* `rejected_unchanged_iff`: The rejected packets that leave no trace.
* `setup_rejected_changed`: A rejected setup that leaves one.
-/

namespace AlpacaVrr

open FaultState

/-- The tables, the pending updates, and the packets sent. -/
structure Protocol where
  rt : RtTable
  vset : Vset
  pset : Pset
  pset_updates : List PsetUpdate
  sent : List Packet

def Sys.protocol (s : Sys) : Protocol :=
  ⟨s.node.rt, s.node.vset, s.node.pset, s.node.pset_updates, s.sent⟩

namespace Vrr

theorem protocol_of_visible {α : Type} {x : Vrr α} (h : Keeps Sys.visible x) :
    Keeps Sys.protocol x :=
  h.part (fun v : Node × List Packet × List SkbRef × List Overrun =>
    (⟨v.1.rt, v.1.vset, v.1.pset, v.1.pset_updates, v.2.1⟩ : Protocol))

theorem draws_protocol (c : Protocol) : Draws (fun s => s.protocol = c) (fun _ => True) :=
  draws_of_visible (fun _ hx => protocol_of_visible hx c)

/-- A return of zero rejects nothing, whatever came before. -/
theorem zero_triple {α : Type} {P : Sys → Prop} {R : Int → Sys → Prop} (x : Vrr α) :
    Triple P (x >>= fun _ => pure 0) (fun r t => r ≠ 0 → R r t) (fun _ => True) := by
  exact Triple.bind Triple.any (fun _ => Triple.pure 0 (fun _ _ h => absurd rfl h))

theorem pure_zero_triple {P : Sys → Prop} {R : Int → Sys → Prop} :
    Triple P (pure 0 : Vrr Int) (fun r t => r ≠ 0 → R r t) (fun _ => True) :=
  Triple.pure 0 (fun _ _ h => absurd rfl h)

/-- Nothing was changed, so nothing is found changed on rejection. -/
theorem rejects_of_keeps {x : Vrr Int} (h : Keeps Sys.protocol x) (c : Protocol) :
    Triple (fun s => s.protocol = c) x (fun r t => r ≠ 0 → t.protocol = c) (fun _ => True) :=
  (h c).post (fun _ _ ht _ => ht)

theorem vrr_rcv_data_rejects (skb : SkBuff) (c : Protocol) :
    Triple (fun s => s.protocol = c) (vrr_rcv_data skb)
      (fun r t => r ≠ 0 → t.protocol = c) (fun _ => True) := by
  unfold vrr_rcv_data
  refine Triple.bind (Triple.gets (Q := fun _ s => s.protocol = c) _ (fun s hs => hs))
    (fun me => ?_)
  refine Triple.ite _ (fun _ => ?_) (fun _ => zero_triple _)
  cases vrr_find_sock me.vrr_socks skb.pkt.src with
  | none => exact rejects_of_keeps (Keeps.pure _) c
  | some sk =>
      have hfree : Keeps Sys.protocol (kfree_skb .received) := Keeps.modify _ (fun _ => rfl)
      refine Triple.bind (Triple.gets (Q := fun _ s => s.protocol = c) _ (fun s hs => hs))
        (fun ret => ?_)
      exact Triple.bind (hfree c) (fun _ => rejects_of_keeps (Keeps.pure _) c)

theorem vrr_rcv_hello_rejects (skb : SkBuff) (c : Protocol) :
    Triple (fun s => s.protocol = c) (vrr_rcv_hello skb)
      (fun r t => r ≠ 0 → t.protocol = c) (fun _ => True) :=
  (draws_protocol c).vrr_rcv_hello skb (fun _ hs _ => hs)
    (fun _ _ _ => Triple.modify _ (fun _ _ h => absurd rfl h))

theorem vrr_rcv_setup_req_rejects (skb : SkBuff) (c : Protocol) :
    Triple (fun s => s.protocol = c) (vrr_rcv_setup_req skb)
      (fun r t => r ≠ 0 → t.protocol = c) (fun _ => True) := by
  unfold vrr_rcv_setup_req
  refine Triple.bind (protocol_of_visible (rt_get_next_exclude_visible _ _) c) (fun nh => ?_)
  refine Triple.ite _ (fun _ => zero_triple _) (fun _ => ?_)
  refine Triple.bind ((draws_protocol c).read_u32 _ _) (fun proxy => ?_)
  refine Triple.bind ((draws_protocol c).read_u32 _ _) (fun vset_size => ?_)
  refine (draws_protocol c).received_vset _ _ _ _ _ (fun s hs _ => hs) (fun _ vset => ?_)
  -- from here on every return is zero
  refine Triple.bind Triple.any (fun ovset => Triple.bind Triple.any (fun added => ?_))
  refine Triple.ite _ (fun _ => ?_) (fun _ => zero_triple _)
  exact Triple.bind Triple.any (fun pid => zero_triple _)

theorem vrr_rcv_setup_fail_rejects (skb : SkBuff) (c : Protocol) :
    Triple (fun s => s.protocol = c) (vrr_rcv_setup_fail skb)
      (fun r t => r ≠ 0 → t.protocol = c) (fun _ => True) := by
  unfold vrr_rcv_setup_fail
  refine Triple.bind ((draws_protocol c).read_u32 _ _) (fun proxy => ?_)
  refine Triple.bind ((draws_protocol c).read_u32 _ _) (fun vset_size => ?_)
  refine (draws_protocol c).received_vset _ _ _ _ _ (fun s hs _ => hs) (fun _ vset => ?_)
  refine Triple.bind Triple.any (fun nh => ?_)
  refine Triple.ite _ (fun _ => zero_triple _) (fun _ => ?_)
  refine Triple.bind Triple.any (fun me => ?_)
  refine Triple.ite _ (fun _ => ?_) (fun _ => pure_zero_triple)
  exact Triple.bind Triple.any (fun _ => zero_triple _)

/-- A route added with success is in the table, unless it has no ends. -/
theorem rt_add_route_changes (ea eb na nb path_id : U32) (c : Protocol) :
    Triple (fun s => s.protocol = c) (rt_add_route ea eb na nb path_id)
      (fun r t => r = true → (t.protocol = c ↔ ea = 0 ∧ eb = 0)) (fun _ => True) := by
  unfold rt_add_route
  refine Triple.bind (protocol_of_visible rt_alloc_visible c) (fun alloc => ?_)
  intro s hs hok
  have hiff := RtTable.rt_add_route_eq_iff s.kern.rb_insert_color alloc s.node.rt ea eb na nb
    path_id hok
  rw [← hiff, ← hs]
  constructor
  · exact congrArg Protocol.rt
  · intro h
    simp only [Sys.protocol, h]

/-- What is said of the protocol's state stays said. -/
theorem draws_said (P : Protocol → Prop) : Draws (fun s => P s.protocol) (fun _ => True) :=
  draws_of_visible (fun _ hx => (protocol_of_visible hx).preserves P)

/-- By the time a setup is rejected its route is in the table. -/
theorem vrr_rcv_setup_rejects (skb : SkBuff) (c : Protocol) :
    Triple (fun s => s.protocol = c) (vrr_rcv_setup skb)
      (fun r t => r ≠ 0 → (t.protocol = c ↔ skb.pkt.src = 0 ∧ skb.pkt.dst = 0))
      (fun _ => True) := by
  unfold vrr_rcv_setup
  refine Triple.bind (Triple.gets (Q := fun _ s => s.protocol = c) _ (fun s hs => hs))
    (fun me => ?_)
  refine Triple.bind ((draws_protocol c).read_u32 _ _) (fun pid => ?_)
  refine Triple.bind ((draws_protocol c).read_u32 _ _) (fun proxy => ?_)
  cases (if skb.dev_addr = skb.h_source then some me.me
      else pset_lookup_mac me.pset skb.h_source) with
  | none => exact zero_triple _
  | some sender =>
      refine Triple.bind (protocol_of_visible (setup_next_hop_visible _ _) c) (fun nh => ?_)
      refine Triple.bind (rt_add_route_changes skb.pkt.src skb.pkt.dst sender nh pid c)
        (fun added => ?_)
      refine Triple.ite _ (fun hadded => ?_) (fun _ => zero_triple _)
      -- the size is read with the route already there
      have hdraws : Draws (fun t => t.protocol = c ↔ skb.pkt.src = 0 ∧ skb.pkt.dst = 0)
          (fun _ => True) := draws_said (fun p => p = c ↔ skb.pkt.src = 0 ∧ skb.pkt.dst = 0)
      refine Triple.bind (Triple.pre (hdraws.read_u32 _ _) (fun t ht => ht hadded))
        (fun vset_size => ?_)
      refine hdraws.received_vset _ _ _ _ _ (fun s hs _ => hs) (fun _ vset => ?_)
      refine Triple.ite _ (fun _ => zero_triple _) (fun _ => ?_)
      refine Triple.bind Triple.any (fun ret => ?_)
      exact Triple.ite _ (fun _ => zero_triple _) (fun _ => pure_zero_triple)

/-- By the time a teardown is rejected its route is gone. -/
theorem vrr_rcv_teardown_rejects (skb : SkBuff) (c : Protocol) :
    Triple (fun s => s.protocol = c) (vrr_rcv_teardown skb)
      (fun r t => r ≠ 0 → t.protocol ≠ c) (fun _ => True) := by
  unfold vrr_rcv_teardown
  refine Triple.bind ((draws_protocol c).read_u32 _ _) (fun ea => ?_)
  refine Triple.bind ((draws_protocol c).read_u32 _ _) (fun pid => ?_)
  refine Triple.bind ((draws_protocol c).read_u32 _ _) (fun vset_size => ?_)
  refine Triple.bind (Q := fun r t => r.isSome = true → t.protocol ≠ c) ?_ (fun route => ?_)
  · intro s hs hsome heq
    rcases Option.isSome_iff_exists.mp hsome with ⟨route, hroute⟩
    rw [← hs] at heq
    exact RtTable.rt_remove_route_ne s.node.rt ea pid route hroute (congrArg Protocol.rt heq)
  cases route with
  | none => exact Triple.fault _ trivial
  | some route =>
      refine Triple.pre (P := fun t => t.protocol ≠ c) ?_ (fun t ht => ht rfl)
      refine (draws_said (· ≠ c)).received_vset _ _ _ _ _ (fun s hs _ => hs) (fun _ vset => ?_)
      refine Triple.ite _ (fun _ => zero_triple _) (fun _ => ?_)
      exact Triple.bind Triple.any (fun _ => zero_triple _)

/-- Only a setup and a teardown have changed anything by the time they are
    rejected. -/
theorem vrr_rcvfunc_rejects (skb : SkBuff) (c : Protocol)
    (hty : skb.pkt.vh.pkt_type < VRR_NPTYPES) :
    Triple (fun s => s.protocol = c) (vrr_rcvfunc skb)
      (fun r t => r ≠ 0 → (t.protocol = c ↔ skb.pkt.vh.pkt_type ≠ VRR_TEARDOWN ∧
        (skb.pkt.vh.pkt_type = VRR_SETUP → skb.pkt.src = 0 ∧ skb.pkt.dst = 0)))
      (fun _ => True) := by
  have hunchanged : ∀ ty : U8, ty ≠ VRR_TEARDOWN → ty ≠ VRR_SETUP → ty ≠ VRR_TEARDOWN ∧
      (ty = VRR_SETUP → skb.pkt.src = 0 ∧ skb.pkt.dst = 0) :=
    fun ty hteardown hsetup => ⟨hteardown, fun h => absurd h hsetup⟩
  refine vrr_rcvfunc_triple skb hty (fun h => ?_) (fun h => ?_) (fun h => ?_) (fun h => ?_)
    (fun h => ?_) (fun h => ?_)
  · refine (vrr_rcv_data_rejects skb c).post (fun r t ht herr => ?_)
    rw [h]
    exact iff_of_true (ht herr) (hunchanged _ (by decide) (by decide))
  · refine (vrr_rcv_hello_rejects skb c).post (fun r t ht herr => ?_)
    rw [h]
    exact iff_of_true (ht herr) (hunchanged _ (by decide) (by decide))
  · refine (vrr_rcv_setup_req_rejects skb c).post (fun r t ht herr => ?_)
    rw [h]
    exact iff_of_true (ht herr) (hunchanged _ (by decide) (by decide))
  · refine (vrr_rcv_setup_rejects skb c).post (fun r t ht herr => ?_)
    rw [ht herr, h]
    exact ⟨fun hends => ⟨by decide, fun _ => hends⟩, fun hends => hends.2 rfl⟩
  · refine (vrr_rcv_setup_fail_rejects skb c).post (fun r t ht herr => ?_)
    rw [h]
    exact iff_of_true (ht herr) (hunchanged _ (by decide) (by decide))
  · refine (vrr_rcv_teardown_rejects skb c).post (fun r t ht herr => ?_)
    exact iff_of_false (ht herr) (fun hends => hends.1 h)

end Vrr

/-- A packet that its handler rejects leaves the tables, the pending updates
    and the sent packets as they were exactly when it is no teardown, and no
    setup with a non-zero end. -/
theorem rejected_unchanged_iff (s t : Sys) (skb : SkBuff) (err : Int)
    (hty : skb.pkt.vh.pkt_type < VRR_NPTYPES) (hrun : Vrr.vrr_rcvfunc skb s = .ok (err, t))
    (herr : err ≠ 0) :
    (t.node.rt = s.node.rt ∧ t.node.vset = s.node.vset ∧ t.node.pset = s.node.pset ∧
      t.node.pset_updates = s.node.pset_updates ∧ t.sent = s.sent) ↔
    (skb.pkt.vh.pkt_type ≠ VRR_TEARDOWN ∧
      (skb.pkt.vh.pkt_type = VRR_SETUP → skb.pkt.src = 0 ∧ skb.pkt.dst = 0)) := by
  have hprotocol : (t.node.rt = s.node.rt ∧ t.node.vset = s.node.vset ∧
      t.node.pset = s.node.pset ∧ t.node.pset_updates = s.node.pset_updates ∧ t.sent = s.sent) ↔
      t.protocol = s.protocol := by
    rw [Sys.protocol, Sys.protocol, Protocol.mk.injEq]
  rw [hprotocol]
  exact (Vrr.vrr_rcvfunc_rejects skb s.protocol hty).ok rfl hrun herr

/-- Node 1 has a neighbour, a path to it and an update to work off, and has
    sent a hello. A data packet for which there is no socket changes none of
    it. -/
theorem rejected_unchanged_iff_data :
    ∃ s t err, Reach Step node_one s ∧ pset_ids s.node.pset = [2] ∧ s.node.vset.nodes = [2] ∧
      (s.node.rt.routes 2).length = 1 ∧ s.node.pset_updates.length = 1 ∧ s.sent.length = 1 ∧
      Vrr.vrr_rcvfunc (frame 2 VRR_DATA 5 1 []) s = .ok (err, t) ∧ err ≠ 0 ∧
      t.node.rt = s.node.rt ∧ t.node.vset = s.node.vset ∧ t.node.pset = s.node.pset ∧
      t.node.pset_updates = s.node.pset_updates ∧ t.sent = s.sent := by
  obtain ⟨s, hreach, hends⟩ := reach_of_eval
    ([.vrr_rcv (frame 2 VRR_HELLO 2 0 [0, 0, 0, 0]), .pset_update_handler,
      .vrr_rcv (frame 2 VRR_SETUP 2 1 [7, 0, 0]), .vrr_workqueue_handler,
      .vrr_rcv (frame 3 VRR_HELLO 3 0 [0, 0, 0, 0])].map (fun e => (e, Kernel.calm)))
    (fun s => decide (pset_ids s.node.pset = [2] ∧ s.node.vset.nodes = [2] ∧
        (s.node.rt.routes 2).length = 1 ∧ s.node.pset_updates.length = 1 ∧ s.sent.length = 1) &&
      ends_in (Vrr.vrr_rcvfunc (frame 2 VRR_DATA 5 1 [])) s (fun err _ => decide (err ≠ 0)))
    (by decide +kernel)
  obtain ⟨hfull, hends⟩ := Bool.and_eq_true_iff.mp hends
  obtain ⟨hpset, hvset, hrt, hupdates, hsent⟩ := of_decide_eq_true hfull
  obtain ⟨err, t, hrun, herr⟩ := ok_of_ends_in hends
  have herr := of_decide_eq_true herr
  exact ⟨s, t, err, hreach, hpset, hvset, hrt, hupdates, hsent, hrun, herr,
    (rejected_unchanged_iff s t (frame 2 VRR_DATA 5 1 []) err (by decide) hrun herr).mpr
      ⟨by decide, fun h => absurd h (by decide)⟩⟩

/-- A setup from the neighbour 2 that announces a vset of five: it is rejected
    and its route stays. -/
theorem setup_rejected_changed :
    ∃ s t err, Reach Step node_one s ∧
      Vrr.vrr_rcvfunc (frame 2 VRR_SETUP 5 6 [7, 5, 5]) s = .ok (err, t) ∧ err ≠ 0 ∧
      t.node.rt ≠ s.node.rt := by
  obtain ⟨s, hreach, hends⟩ := reach_of_eval
    [(.vrr_rcv (frame 2 VRR_HELLO 2 0 [0, 0, 0, 0]), Kernel.calm),
      (.pset_update_handler, Kernel.calm)]
    (fun s => ends_in (Vrr.vrr_rcvfunc (frame 2 VRR_SETUP 5 6 [7, 5, 5])) s (fun err t =>
      decide (err = -1 ∧ (s.node.rt.routes 5).length = 0 ∧ (t.node.rt.routes 5).length = 1)))
    (by decide +kernel)
  obtain ⟨err, t, hrun, heval⟩ := ok_of_ends_in hends
  obtain ⟨herr, hbefore, hafter⟩ := of_decide_eq_true heval
  refine ⟨s, t, err, hreach, hrun, by rw [herr]; decide, fun heq => ?_⟩
  rw [heq, hbefore] at hafter
  exact absurd hafter (by decide)

end AlpacaVrr
