import AlpacaVrr.Theory.OneToOne

/-!
# The Physical Set from Event to Event

What each event makes of the physical set, to the letter.

Three parts of the code write it. A packet of a known type resets the fail
count of its source before the handler is called, and no handler touches the
set. The deferred updates add entries, or change the state and the flag of
entries. The timer counts every entry up, marks those that are due, and deletes
those that have been due for as long again. So the set after an event is a
function of the set and the queue before it.

## Main definitions

* `pset_received`: The set after a packet.
* `pset_after`: The set after an event.
* `WellKept`: Each id once, and in a state that an entry can have.

## Theorems

* `pset_of_step`: An event leaves that set.
* `well_kept_of_reach`: Every physical set is well kept.
-/

namespace AlpacaVrr

open FaultState

/-- The set after a packet has come in. -/
def pset_received (p : Pset) (skb : SkBuff) : Pset :=
  if VRR_NPTYPES ≤ skb.pkt.vh.pkt_type then p else pset_reset_fail_count p skb.pkt.src

/-- The set after an event. -/
def pset_after (n : Node) : Event → Pset
  | .vrr_rcv skb => pset_received n.pset skb
  | .pset_update_handler => n.pset_updates.foldl updated n.pset
  | .vrr_workqueue_handler => n.pset.filterMap counted
  | _ => n.pset

namespace Vrr

section Sets

variable (p : Pset)

/-- Nothing is known but the set. -/
theorem draws_pset : Draws (fun _ : Sys => True) (fun _ => True) :=
  ⟨Triple.any, fun _ => Triple.any⟩

theorem pset_state_update_pset : Preserves (fun s => s.node.pset = p) pset_state_update :=
  pset_state_update_settled.preserves (fun v : Node × List Packet => v.1.pset = p)

/-- The first half of a round leaves the updated set. -/
theorem pset_update_entry_pset (tmp : PsetUpdate) :
    Triple (fun s => s.node.pset = p)
      (pset_update_entry tmp (pset_get_status p tmp.node)
        (hello_trans (pset_get_status p tmp.node) tmp.trans) (pset_get_active p tmp.node))
      (fun _ s => s.node.pset = updated p tmp) (fun _ => True) := by
  refine pset_update_entry_rule p tmp (fun hadd => ?_) (fun hupdate => ?_)
    (pset_state_update_pset _) (fun hsame s hs => ?_)
  · rw [hadd]
    exact (pset_add_cached draws_pset _ _ _ _ p (fun _ _ _ => trivial)).conseq
      (fun s hs => ⟨trivial, hs⟩) (fun _ s hs => hs.2) (fun _ he => he)
  · rw [hupdate]
    exact Triple.modify _ (fun s hs => congrArg _ hs)
  · rw [hsame]
    exact hs

/-- A round leaves the updated set. -/
theorem pset_update_pset (tmp : PsetUpdate) :
    Triple (fun s => s.node.pset = p) (pset_update tmp)
      (fun _ s => s.node.pset = updated p tmp) (fun _ => True) := by
  have hsend : ∀ (q : Pset) src dest proxy,
      Preserves (fun s => s.node.pset = q) (send_setup_req src dest proxy) :=
    fun q src dest proxy =>
      (node_of_still (send_setup_req_still src dest proxy)).preserves (fun n => n.pset = q)
  unfold pset_update pset_update_join
  refine Triple.bind (Q := fun me s => s.node.pset = p ∧ me.pset = p)
    (Triple.gets _ (fun s hs => ⟨hs, hs⟩)) (fun me => Triple.of_and (fun hme => ?_))
  simp only [hme]
  refine Triple.bind (pset_update_entry_pset p tmp) (fun _ => ?_)
  refine Triple.bind (Q := fun _ s => s.node.pset = updated p tmp) ?_
    (fun _ => Triple.modify _ (fun s hs => hs))
  refine Preserves.bind (Preserves.gets _) (fun me => Preserves.ite _ (fun _ => ?_)
    (fun _ => Preserves.pure _))
  exact Preserves.then_pure (hsend _ _ _ _) ()

theorem pset_updates_pset (l : List PsetUpdate) :
    Triple (fun s => s.node.pset = p) (l.forM pset_update)
      (fun _ s => s.node.pset = l.foldl updated p) (fun _ => True) :=
  Triple.forM_foldl (I := fun q (s : Sys) => s.node.pset = q) l p
    (fun _ tmp _ _ => pset_update_pset _ tmp)

/-- The handler leaves the set updated by all of the queue. -/
theorem pset_update_handler_pset (l : List PsetUpdate) :
    Triple (fun s => s.node.pset = p ∧ s.node.pset_updates = l) pset_update_handler
      (fun _ s => s.node.pset = l.foldl updated p) (fun _ => True) := by
  unfold pset_update_handler
  refine Triple.bind (Q := fun me s => s.node.pset = p ∧ me.pset_updates = l)
    (Triple.gets _ (fun s hs => ⟨hs.1, hs.2⟩)) (fun me => Triple.of_and (fun hme => ?_))
  rw [hme]
  exact Triple.bind (pset_updates_pset p l) (fun _ => Triple.modify _ (fun s hs => hs))

theorem vrr_rcvfunc_pset (skb : SkBuff) (hty : skb.pkt.vh.pkt_type < VRR_NPTYPES) :
    Preserves (fun s => s.node.pset = p) (vrr_rcvfunc skb) := by
  have hroutine := routine_base (fun n => n.pset = p)
  exact hroutine.vrr_rcvfunc_of_all skb hty (fun _ => hroutine.draws.vrr_rcv_hello skb
    (fun s hs => hs) (fun tmp _ _ => Triple.modify _ (fun s hs => hs)))

/-- A packet resets one count, or none. -/
theorem vrr_rcv_pset (skb : SkBuff) :
    Triple (fun s => s.node.pset = p) (vrr_rcv skb)
      (fun _ s => s.node.pset = pset_received p skb) (fun _ => True) := by
  have hfree : ∀ q : Pset, Preserves (fun s => s.node.pset = q) (kfree_skb .received) :=
    fun q => Preserves.modify _ (fun s hs => hs)
  unfold pset_received
  by_cases hty : VRR_NPTYPES ≤ skb.pkt.vh.pkt_type
  · rw [if_pos hty]
    unfold vrr_rcv
    rw [if_pos hty]
    exact Preserves.then_pure (hfree p) 1
  · -- the count is reset, and no handler touches the set
    rw [if_neg hty]
    exact vrr_rcv_triple (I := fun s => s.node.pset = pset_reset_fail_count p skb.pkt.src)
      (J := fun _ s => s.node.pset = pset_reset_fail_count p skb.pkt.src) skb
      (fun h => absurd h hty) (fun s hs => congrArg (pset_reset_fail_count · skb.pkt.src) hs)
      (fun hlt => vrr_rcvfunc_pset _ skb hlt) (fun _ _ => hfree _) (fun _ hs => hs)

/-- A tick counts every entry. -/
theorem detect_failures_pset :
    Triple (fun s => s.node.pset = p) detect_failures
      (fun _ s => s.node.pset = p.filterMap counted) (fun _ => True) := by
  refine detect_failures_triple (I := fun q s => s.node.pset = q) (fun done tmp pos => ?_)
    (fun done tmp pos _ => Triple.modify _ (fun s _ => rfl)) (fun q s hs => hs) p
  unfold detect_failure
  refine Triple.bind (Q := fun _ s => s.node.pset = done ++ (fail_entry tmp).1 :: pos)
    (Triple.modify _ (fun s _ => rfl)) (fun _ => ?_)
  exact Triple.ite _ (fun _ => pset_state_update_pset _)
    (fun _ => Triple.pure _ (fun s hs => hs))

theorem vrr_workqueue_handler_pset :
    Triple (fun s => s.node.pset = p) vrr_workqueue_handler
      (fun _ s => s.node.pset = p.filterMap counted) (fun _ => True) := by
  unfold vrr_workqueue_handler
  refine Triple.bind (detect_failures_pset p) (fun _ => ?_)
  -- neither the clock nor the hello touches the set
  refine Triple.bind (Q := fun _ s => s.node.pset = p.filterMap counted)
    (Triple.modify _ (fun s hs => ?_)) (fun _ => ?_)
  · simp only
    split_ifs <;> exact hs
  · exact Preserves.then_pure ((node_of_still send_hpkt_still).preserves
      (fun n => n.pset = p.filterMap counted)) ()

end Sets

end Vrr

/-- The set after an event is that function of the node before it. -/
theorem pset_of_step {s t : Sys} {i : Event × Kernel} (hstep : Step s i t) :
    t.node.pset = pset_after s.node i.1 := by
  refine step_cases (I := fun t => t.node.pset = pset_after s.node i.1) hstep
    (fun skb r he hrun => ?_) (fun he hrun => ?_) (fun he hrun => ?_) (fun he socks => ?_)
  · rw [he]
    exact (Vrr.vrr_rcv_pset s.node.pset skb).ok (s := { s with kern := i.2 }) rfl hrun
  · rw [he]
    exact (Vrr.pset_update_handler_pset s.node.pset s.node.pset_updates).ok
      (s := { s with kern := i.2 }) ⟨rfl, rfl⟩ hrun
  · rw [he]
    exact (Vrr.vrr_workqueue_handler_pset s.node.pset).ok (s := { s with kern := i.2 }) rfl hrun
  · obtain ⟨sk, he | he⟩ := he <;> rw [he] <;> rfl

/-- Each id has one entry, and none is in the state of a stranger. -/
structure WellKept (p : Pset) : Prop where
  distinct : (pset_ids p).Nodup
  known : ∀ e ∈ p, e.status ≠ .unknown

theorem hello_trans_known (st : PsetStatus) (trans : HelloTrans) :
    hello_trans st trans ≠ .unknown := by
  cases st <;> cases trans <;> simp [hello_trans]

/-- An entry that a tick leaves. -/
theorem counted_eq_some {tmp e : PsetEntry} (h : counted tmp = some e) :
    e = (Vrr.fail_entry tmp).1 ∧ tmp.fail_count + 1 < 2 * VRR_FAIL_TIMEOUT := by
  unfold counted at h
  rw [Vrr.fail_entry_count] at h
  split_ifs at h with hdue
  exact ⟨(Option.some.inj h).symm, Nat.lt_of_not_le hdue⟩

theorem ids_counted (p : Pset) : (pset_ids (p.filterMap counted)).Sublist (pset_ids p) := by
  induction p with
  | nil => exact List.Sublist.refl _
  | cons tmp rest ih =>
      cases hc : counted tmp with
      | none =>
          rw [List.filterMap_cons_none hc]
          exact ih.cons _
      | some e =>
          rw [List.filterMap_cons_some hc]
          have hid : e.node = tmp.node := by rw [(counted_eq_some hc).1, Vrr.fail_entry_node]
          simp only [pset_ids, List.map_cons, hid]
          exact ih.cons_cons _

theorem distinct_updated {p : Pset} (h : (pset_ids p).Nodup) (tmp : PsetUpdate) :
    (pset_ids (updated p tmp)).Nodup := by
  have hids := map_updated PsetEntry.node (fun _ _ _ => rfl) p tmp
  change ((updated p tmp).map PsetEntry.node).Nodup
  rw [hids]
  by_cases hpresent : pset_contains p tmp.node = true
  · rw [if_pos hpresent]
    exact h
  · rw [if_neg hpresent, List.nodup_cons]
    exact ⟨fun hmem => hpresent ((pset_contains_iff p tmp.node).mpr hmem), h⟩

theorem well_kept_updated {p : Pset} (h : WellKept p) (tmp : PsetUpdate) :
    WellKept (updated p tmp) := by
  refine ⟨distinct_updated h.distinct tmp, fun e he => ?_⟩
  rcases mem_updated p tmp e he with he | ⟨_, hst⟩
  · exact h.known e he
  · rw [hst]
    exact hello_trans_known _ _

theorem well_kept_updates {p : Pset} (h : WellKept p) (l : List PsetUpdate) :
    WellKept (l.foldl updated p) := by
  induction l generalizing p with
  | nil => exact h
  | cons tmp l ih => exact ih (well_kept_updated h tmp)

/-- Every event keeps the set well. -/
theorem well_kept_after {n : Node} (h : WellKept n.pset) (e : Event) :
    WellKept (pset_after n e) := by
  cases e with
  | vrr_rcv skb =>
      change WellKept (pset_received n.pset skb)
      unfold pset_received
      split_ifs
      · exact h
      · refine ⟨?_, fun e he => ?_⟩
        · rw [pset_ids_reset_fail_count]
          exact h.distinct
        · rcases mem_on_first _ _ n.pset e he with he | ⟨e', he', _, rfl⟩
          · exact h.known e he
          · exact h.known e' he'
  | pset_update_handler => exact well_kept_updates h n.pset_updates
  | vrr_workqueue_handler =>
      refine ⟨h.distinct.sublist (ids_counted n.pset), fun e he => ?_⟩
      obtain ⟨tmp, htmp, hc⟩ := List.mem_filterMap.mp he
      rw [(counted_eq_some hc).1, Vrr.fail_entry_status]
      split_ifs
      · exact fun hst => PsetStatus.noConfusion hst
      · exact h.known tmp htmp
  | vrr_hash_sock _ => exact h
  | vrr_unhash_sock _ => exact h

/-- The physical set of a node is well kept at all times. -/
theorem well_kept_of_reach (id : U32) (g : Nat → U32) (gm : Nat → MacAddr) (k : Kernel) (t : Sys)
    (hrun : Reach Step (Sys.boot (vrr_init id g gm) k) t) : WellKept t.node.pset := by
  have hempty : WellKept (Sys.boot (vrr_init id g gm) k).node.pset :=
    ⟨List.nodup_nil, fun e he => absurd he List.not_mem_nil⟩
  refine hrun.invariant (fun s => WellKept s.node.pset) hempty (fun s i u hs hstep => ?_)
  rw [pset_of_step hstep]
  exact well_kept_after hs i.1

end AlpacaVrr
