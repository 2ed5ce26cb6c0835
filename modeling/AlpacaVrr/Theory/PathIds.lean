import AlpacaVrr.Theory.Handlers

/-!
# Path Ids in the Table

Whether an endpoint has two entries of one path.

A path is told apart by its endpoint `ea` and its path id. `rt_add_route` does
not look for an entry with both before it files another one, and it never
refuses a route while there is memory. The path id of a setup comes with the
packet, and that of an answer is a random word that nothing is compared with.
A setup that comes twice, or on a loop, is therefore filed twice, and a path
from a node to itself is filed twice by a single call.

A packet leads to one call of `rt_add_route` at most. `packet_route` is the part
of the two handlers in front of it, and gives the route of that call. As long
as each of these routes is new to the lists of its endpoints, no list ever holds
two entries of one path.

## Main definitions

* `Unique`: No list holds two entries with the same `ea` and path id.
* `Fresh`: A route that keeps a table so.
* `packet_route`, `event_route`: The route that an event adds.
* `AddsFresh`: It is fresh.

## Theorems

* `unique_add_iff`: When an addition keeps a table unique.
* `vrr_rcv_within`: A packet files `packet_route` and nothing else.
* `paths_unique`: Runs that add fresh routes.
-/

namespace AlpacaVrr

open FaultState

/-- What identifies a path. -/
def RtEntry.path (r : RtEntry) : U32 × U32 := (r.ea, r.path_id)

/-- No list holds two entries with the same `ea` and path id. -/
def Unique (t : RtTable) : Prop := ∀ e, ((t.routes e).map RtEntry.path).Nodup

/-- The entries that an addition makes under `e`. -/
def copies (r : RtEntry) (e : U32) : List RtEntry :=
  (if r.eb ≠ 0 ∧ e = r.eb then [r] else []) ++ (if r.ea ≠ 0 ∧ e = r.ea then [r] else [])

/-- The route makes one entry for each endpoint, and there is no entry of its
    path. -/
def Fresh (t : RtTable) (r : RtEntry) : Prop :=
  ¬ (r.ea = r.eb ∧ r.ea ≠ 0) ∧ (∀ x ∈ t.routes r.ea, x.path ≠ r.path) ∧
    ∀ x ∈ t.routes r.eb, x.path ≠ r.path

instance (t : RtTable) (r : RtEntry) : Decidable (Fresh t r) :=
  inferInstanceAs (Decidable (_ ∧ _ ∧ _))

section Tables

theorem routes_zero (t : RtTable) : t.routes 0 = [] := by
  rw [List.eq_nil_iff_forall_not_mem]
  intro r hr
  exact (t.filed 0 r hr).1 rfl

/-- The entries of an addition are on the lists of its endpoints. -/
theorem mem_copies {r x : RtEntry} {e : U32} (hx : x ∈ copies r e) :
    x = r ∧ e ≠ 0 ∧ (e = r.ea ∨ e = r.eb) := by
  unfold copies at hx
  rw [List.mem_append] at hx
  rcases hx with hx | hx
  · split_ifs at hx with h
    · exact ⟨List.mem_singleton.mp hx, by rw [h.2]; exact h.1, Or.inr h.2⟩
    · cases hx
  · split_ifs at hx with h
    · exact ⟨List.mem_singleton.mp hx, by rw [h.2]; exact h.1, Or.inl h.2⟩
    · cases hx

/-- A fresh route makes no second entry of its path. -/
theorem nodup_of_fresh {t : RtTable} {r : RtEntry} (hu : Unique t) (hf : Fresh t r) (e : U32) :
    ((copies r e ++ t.routes e).map RtEntry.path).Nodup := by
  rw [List.map_append, List.nodup_append]
  refine ⟨?_, hu e, ?_⟩
  · unfold copies
    split_ifs with heb hea
    · exact absurd ⟨hea.2.symm.trans heb.2, hea.1⟩ hf.1
    · exact List.nodup_singleton _
    · exact List.nodup_singleton _
    · exact List.nodup_nil
  · intro p hp q hq heq
    obtain ⟨x, hx, rfl⟩ := List.mem_map.mp hp
    obtain ⟨y, hy, rfl⟩ := List.mem_map.mp hq
    obtain ⟨rfl, -, rfl | rfl⟩ := mem_copies hx
    · exact hf.2.1 y hy heq.symm
    · exact hf.2.2 y hy heq.symm

/-- A list with one entry of an addition holds no other entry of the path. -/
theorem fresh_of_nodup {t : RtTable} {r : RtEntry}
    (h : ∀ e, ((copies r e ++ t.routes e).map RtEntry.path).Nodup) : Fresh t r := by
  have hother : ∀ e, r ∈ copies r e → ∀ x ∈ t.routes e, x.path ≠ r.path := by
    intro e hr x hx heq
    have hnodup := h e
    rw [List.map_append, List.nodup_append] at hnodup
    exact hnodup.2.2 r.path (List.mem_map_of_mem hr) x.path (List.mem_map_of_mem hx) heq.symm
  -- the addition is on the list of each endpoint that is one
  have hea : r.ea ≠ 0 → r ∈ copies r r.ea := by
    intro h0
    unfold copies
    rw [if_pos (⟨h0, rfl⟩ : r.ea ≠ 0 ∧ r.ea = r.ea)]
    exact List.mem_append_right _ (List.mem_singleton_self r)
  have heb : r.eb ≠ 0 → r ∈ copies r r.eb := by
    intro h0
    unfold copies
    rw [if_pos (⟨h0, rfl⟩ : r.eb ≠ 0 ∧ r.eb = r.eb)]
    exact List.mem_append_left _ (List.mem_singleton_self r)
  refine ⟨?_, fun x hx => ?_, fun x hx => ?_⟩
  · -- both copies would be on one list
    rintro ⟨heq, h0⟩
    have hnodup := h r.ea
    unfold copies at hnodup
    rw [if_pos ⟨heq ▸ h0, heq⟩, if_pos ⟨h0, rfl⟩, List.map_append, List.nodup_append] at hnodup
    exact absurd hnodup.1 (by simp)
  · by_cases h0 : r.ea = 0
    · rw [h0, routes_zero] at hx
      cases hx
    · exact hother _ (hea h0) x hx
  · by_cases h0 : r.eb = 0
    · rw [h0, routes_zero] at hx
      cases hx
    · exact hother _ (heb h0) x hx

/-- A table with fewer entries is no less unique. -/
theorem unique_of_sublist {t : RtTable} {L : U32 → List RtEntry}
    (h : ∀ e, (t.routes e).Sublist (L e)) (hL : ∀ e, ((L e).map RtEntry.path).Nodup) : Unique t :=
  fun e => (hL e).sublist ((h e).map RtEntry.path)

/-- An addition keeps a table unique exactly when its route is fresh. It never
    refuses one. -/
theorem unique_add_iff (rb : RbInsertColor) (t : RtTable) (r : RtEntry) :
    (t.rt_add_route rb RtAlloc.ok r.ea r.eb r.na r.nb r.path_id).1 = true ∧
    (Unique (t.rt_add_route rb RtAlloc.ok r.ea r.eb r.na r.nb r.path_id).2 ↔
      Unique t ∧ Fresh t r) := by
  have hok : (t.rt_add_route rb RtAlloc.ok r.ea r.eb r.na r.nb r.path_id).1 = true :=
    rt_add_route_ok rb t.root r.ea r.eb r.na r.nb r.path_id
  have hroutes : ∀ e, (t.rt_add_route rb RtAlloc.ok r.ea r.eb r.na r.nb r.path_id).2.routes e =
      copies r e ++ t.routes e := by
    intro e
    rw [RtTable.routes_add rb RtAlloc.ok t r.ea r.eb r.na r.nb r.path_id e hok, ← List.append_assoc]
    rfl
  refine ⟨hok, fun h => ⟨fun e => ?_, fresh_of_nodup (fun e => ?_)⟩, fun h e => ?_⟩
  · have hnodup := h e
    rw [hroutes, List.map_append, List.nodup_append] at hnodup
    exact hnodup.2.1
  · have hnodup := h e
    rw [hroutes] at hnodup
    exact hnodup
  · rw [hroutes]
    exact nodup_of_fresh h.1 h.2 e

end Tables

namespace Vrr

/-- `vrr_rcv_setup` up to `rt_add_route`. -/
def setup_route (skb : SkBuff) : Vrr (Option RtEntry) := do
  let me ← node
  let pid ← read_u32 skb.pkt vrr_header_size
  let proxy ← read_u32 skb.pkt (vrr_header_size + 4)
  match (if skb.dev_addr = skb.h_source then some me.me
    else pset_lookup_mac me.pset skb.h_source) with
  | none => pure none
  | some sender => do
      let nh ← setup_next_hop skb.pkt.dst proxy
      pure (some ⟨skb.pkt.src, skb.pkt.dst, sender, nh, pid⟩)

/-- `vrr_local_rcv_setup` up to `rt_add_route`. -/
def local_route (dst pid proxy : U32) : Vrr (Option RtEntry) := do
  let me ← node
  let nh ← next_hop_via dst proxy
  pure (some ⟨me.me, dst, me.me, nh, pid⟩)

/-- `vrr_rcv_setup_req` up to there. -/
def answer_route (skb : SkBuff) : Vrr (Option RtEntry) := do
  let nh ← rt_get_next_exclude skb.pkt.dst skb.pkt.src
  if nh ≠ 0 then pure none
  else do
    let proxy ← read_u32 skb.pkt vrr_header_size
    let vset_size ← read_u32 skb.pkt (vrr_header_size + 4)
    if VRR_VSET_SIZE < vset_size.toNat then pure none
    else do
      let vset ← kmalloc (4 * vset_size.toNat)
      if vset then do
        let vset ← read_array skb.pkt (vrr_header_size + 8) vset_size.toNat
        let _ ← vset_get_all
        let added ← vrr_add skb.pkt.src vset
        if added ≠ 0 then do
          let pid ← vrr_new_path_id
          local_route skb.pkt.src pid proxy
        else pure none
      else pure none

/-- The route that a packet hands to `rt_add_route`, if it does. -/
def packet_route (skb : SkBuff) : Vrr (Option RtEntry) :=
  if skb.pkt.vh.pkt_type = VRR_SETUP_REQ then answer_route skb
  else if skb.pkt.vh.pkt_type = VRR_SETUP then setup_route skb
  else pure none

end Vrr

/-- The lists of the table are part of `L`. -/
def Within (L : U32 → List RtEntry) (s : Sys) : Prop :=
  ∀ e, (s.node.rt.routes e).Sublist (L e)

/-- The lists are part of `L` and the entries that a route makes, which is the
    one that the other computation has come to. -/
def Filed (L : U32 → List RtEntry) (out : Except Fault (Option RtEntry × Sys)) (s : Sys) : Prop :=
  ∃ r u, out = .ok (r, u) ∧ Within (fun e => r.elim [] (copies · e) ++ L e) s

section Handlers

variable {L : U32 → List RtEntry} {out : Except Fault (Option RtEntry × Sys)}

/-- Nothing but `rt_add_route` makes a list longer. -/
theorem quiet_within (L : U32 → List RtEntry) : Quiet (fun _ => True) (Within L) := by
  have hdraws : Draws (Within L) (fun _ => True) := draws_of_kern (fun _ _ hs => hs)
  have hstill : ∀ {α : Type} {x : Vrr α}, Keeps Sys.still x → Preserves (Within L) x :=
    fun hx => (Vrr.node_of_still hx).preserves (fun n => ∀ e, (n.rt.routes e).Sublist (L e))
  exact {
    draws := hdraws
    random := hstill (Vrr.still_of_visible Vrr.random_visible)
    pset_get_proxy := hstill Vrr.pset_get_proxy_still
    vrr_output := fun skb pkt _ => hstill (Vrr.vrr_output_still skb pkt)
    kfree_skb := fun skb => hstill (Vrr.kfree_skb_still skb)
    overrun := fun _ _ => Preserves.modify _ (fun _ hs => hs)
    rt_remove_route := fun ea pid => Vrr.rt_remove_route_rule ea pid (fun s hs e => by
      change ((s.node.rt.rt_remove_route ea pid).2.routes e).Sublist (L e)
      rw [RtTable.routes_remove]
      split_ifs
      · exact List.eraseP_sublist.trans (hs e)
      · exact hs e)
    vset_add := fun _ _ => Vrr.vset_add_rule hdraws _ _ (fun _ _ _ hs => hs)
    vset_remove := fun _ => Vrr.vset_remove_rule _ (fun _ hs => hs)
    activate := Preserves.modify _ (fun _ hs => hs) }

namespace Vrr

/-- `rt_add_route` files its route, or part of it. -/
theorem rt_add_route_within (r : RtEntry) :
    Triple (Within L) (rt_add_route r.ea r.eb r.na r.nb r.path_id)
      (fun _ => Within (fun e => copies r e ++ L e)) (fun _ => True) := by
  unfold rt_add_route
  refine Triple.bind (quiet_within L).draws.rt_alloc (fun alloc => ?_)
  refine Triple.bind (Q := fun _ => Within L) (Triple.gets _ (fun _ hs => hs)) (fun rb => ?_)
  refine Triple.bind (Q := fun _ => Within L) (Triple.gets _ (fun _ hs => hs)) (fun me => ?_)
  refine Triple.bind (Q := fun _ => Within (fun e => copies r e ++ L e))
    (Triple.modify _ (fun s hs e => ?_)) (fun _ => Triple.pure _ (fun _ hs => hs))
  have hadd := RtTable.sublist_routes_add rb alloc s.node.rt r.ea r.eb r.na r.nb r.path_id e
  rw [← List.append_assoc] at hadd
  exact hadd.trans (List.Sublist.append (List.Sublist.refl _) (hs e))

/-- Once the route has been added, it can only be removed. -/
theorem filed_of_quiet {α : Type} {x : Vrr α} {r : RtEntry} {u : Sys} (hout : out = .ok (some r, u))
    (hx : ∀ M, Preserves (Within M) x) :
    Triple (Within (fun e => copies r e ++ L e)) x (fun _ => Filed L out) (fun _ => True) :=
  Triple.post (hx _) (fun _ _ hs => ⟨some r, u, hout, hs⟩)

/-- Without a route, nothing is added. -/
theorem filed_of_none {α : Type} {x : Vrr α} (hx : ∀ M, Preserves (Within M) x) :
    Triple (fun s => Within L s ∧ (pure none : Vrr (Option RtEntry)) s = out) x
      (fun _ => Filed L out) (fun _ => True) := by
  rintro s ⟨hs, hout⟩
  have hrun := hx L s hs
  cases hxs : x s with
  | ok p =>
      rw [hxs] at hrun
      exact ⟨none, s, hout.symm, hrun⟩
  | error e => trivial

theorem vrr_local_rcv_setup_filed (dst pid proxy : U32) (vset_size : Nat)
    (vset : Option (List U32)) :
    Triple (fun s => Within L s ∧ local_route dst pid proxy s = out)
      (vrr_local_rcv_setup dst pid proxy vset_size vset) (fun _ => Filed L out)
      (fun _ => True) := by
  have hq := fun M => (quiet_within M).handles
  unfold vrr_local_rcv_setup local_route
  refine Triple.bind (Triple.along (Q := fun _ => Within L) (Preserves.gets _)) (fun me => ?_)
  refine Triple.bind (Triple.along (SendsOwn.next_hop_via dst proxy)) (fun nh => ?_)
  rintro s ⟨hs, hout⟩
  refine Triple.bind (rt_add_route_within ⟨me.me, dst, me.me, nh, pid⟩) (fun added => ?_) s hs
  refine filed_of_quiet hout.symm (fun M => Preserves.ite _ (fun _ => Preserves.ite _ (fun _ => ?_)
    (fun _ => Preserves.pure _)) (fun _ => ?_))
  · exact Preserves.then_pure ((hq M).send_vset _ trivial _ _ _ _ _ _) 0
  · exact Preserves.then_pure ((hq M).tear_down_path trivial _ _ _) 0

theorem vrr_rcv_setup_req_filed (skb : SkBuff) :
    Triple (fun s => Within L s ∧ answer_route skb s = out) (vrr_rcv_setup_req skb)
      (fun _ => Filed L out) (fun _ => True) := by
  have hq := fun M => (quiet_within M).handles
  have hdraws := (quiet_within L).draws
  have hpure : ∀ M err, Preserves (Within M) (pure err : Vrr Int) :=
    fun _ err => Preserves.pure err
  unfold vrr_rcv_setup_req answer_route
  refine Triple.bind (Triple.along (Q := fun _ => Within L)
    (Preserves.bind (Preserves.gets _) (fun _ => Preserves.pure _))) (fun nh => ?_)
  -- only the answer with a path gets to the table
  by_cases hnh : nh ≠ 0
  · simp only [if_pos hnh]
    refine filed_of_none (fun M => Preserves.then_pure ?_ 0)
    exact (node_of_still (vrr_forward_setup_req_still skb.pkt nh)).preserves
      (fun n => ∀ e, (n.rt.routes e).Sublist (M e))
  simp only [if_neg hnh]
  refine Triple.bind (Triple.along (hdraws.read_u32 _ _)) (fun proxy => ?_)
  refine Triple.bind (Triple.along (hdraws.read_u32 _ _)) (fun size => ?_)
  by_cases hsize : VRR_VSET_SIZE < size.toNat
  · simp only [if_pos hsize]
    exact filed_of_none (fun M => hpure M _)
  simp only [if_neg hsize]
  refine Triple.bind (Triple.along (hdraws.kmalloc _)) (fun buffer => ?_)
  cases buffer with
  | false => exact filed_of_none (fun M => hpure M _)
  | true =>
      simp only [if_true]
      refine Triple.bind (Triple.along (hdraws.read_array _ _ _)) (fun vset => ?_)
      refine Triple.bind (Triple.along (hq L).vset_get_all) (fun ovset => ?_)
      refine Triple.bind (Triple.along ((hq L).vrr_add trivial _ _)) (fun added => ?_)
      by_cases hadded : added ≠ 0
      · simp only [if_pos hadded]
        refine Triple.bind (Triple.along (hq L).random) (fun pid => ?_)
        exact Triple.bind (vrr_local_rcv_setup_filed _ _ _ _ _)
          (fun _ => Triple.pure _ (fun _ hs => hs))
      · simp only [if_neg hadded]
        exact filed_of_none (fun M => Preserves.then_pure
          ((hq M).vrr_local_rcv_setup_fail trivial trivial _ _ _ _) 0)

theorem vrr_rcv_setup_filed_route (skb : SkBuff) :
    Triple (fun s => Within L s ∧ setup_route skb s = out) (vrr_rcv_setup skb)
      (fun _ => Filed L out) (fun _ => True) := by
  have hq := fun M => (quiet_within M).handles
  have hdraws := fun M => (quiet_within M).draws
  unfold vrr_rcv_setup setup_route
  refine Triple.bind (Triple.along (Q := fun _ => Within L) (Preserves.gets _)) (fun me => ?_)
  refine Triple.bind (Triple.along ((hdraws L).read_u32 _ _)) (fun pid => ?_)
  refine Triple.bind (Triple.along ((hdraws L).read_u32 _ _)) (fun proxy => ?_)
  cases (if skb.dev_addr = skb.h_source then some me.me
    else pset_lookup_mac me.pset skb.h_source) with
  | none =>
      exact filed_of_none (fun M => Preserves.then_pure ((hq M).tear_down_path trivial _ _ _) 0)
  | some sender =>
      refine Triple.bind (Triple.along (SendsOwn.setup_next_hop _ _)) (fun nh => ?_)
      rintro s ⟨hs, hout⟩
      refine Triple.bind (rt_add_route_within ⟨skb.pkt.src, skb.pkt.dst, sender, nh, pid⟩)
        (fun added => ?_) s hs
      refine filed_of_quiet hout.symm (fun M => Preserves.ite _ (fun _ => ?_)
        (fun _ => Preserves.then_pure ((hq M).tear_down_path trivial _ _ _) 0))
      refine Preserves.bind ((hdraws M).read_u32 _ _) (fun size => ?_)
      refine (hdraws M).received_vset _ _ _ _ _ (fun _ hs => hs) (fun _ vset => ?_)
      refine Preserves.ite _ (fun _ => Preserves.then_pure
        ((hq M).send_vset _ trivial _ _ _ _ _ _) 0) (fun _ => ?_)
      refine Preserves.bind ((hq M).vrr_add trivial _ _) (fun ret => ?_)
      exact Preserves.ite _ (fun _ => Preserves.then_pure (quiet_within M).activate 0)
        (fun _ => Preserves.pure _)

/-- A packet files `packet_route` and nothing else. -/
theorem vrr_rcv_within (skb : SkBuff) :
    Triple (fun s => Within L s ∧
        packet_route skb { s with node := heard s.node skb.pkt.src } = out)
      (vrr_rcv skb) (fun _ => Filed L out) (fun _ => True) := by
  have hq := fun M => (quiet_within M).handles
  have hother : skb.pkt.vh.pkt_type ≠ VRR_SETUP_REQ → skb.pkt.vh.pkt_type ≠ VRR_SETUP →
      packet_route skb = pure none := fun hreq hset => by
    unfold packet_route
    rw [if_neg hreq, if_neg hset]
  -- the other handlers make no list longer
  have hrest : ∀ {x : Vrr Int}, skb.pkt.vh.pkt_type ≠ VRR_SETUP_REQ →
      skb.pkt.vh.pkt_type ≠ VRR_SETUP → (∀ M, Preserves (Within M) x) →
      Triple (fun s => Within L s ∧ packet_route skb s = out) x (fun _ => Filed L out)
        (fun _ => True) := by
    intro x hreq hset hx
    rw [hother hreq hset]
    exact filed_of_none hx
  refine vrr_rcv_triple (I := fun s => Within L s ∧ packet_route skb s = out)
    (J := fun _ => Filed L out) skb (fun hge => ?_) (fun s hs => hs) (fun hlt => ?_)
    (fun _ _ => ?_) (fun _ hs => hs)
  · have hne : ∀ ty : U8, ty < VRR_NPTYPES → skb.pkt.vh.pkt_type ≠ ty := fun ty hty heq =>
      absurd (heq ▸ hge) (BitVec.not_le.mpr hty)
    rw [hother (hne _ (by decide)) (hne _ (by decide))]
    exact Triple.modify _ (fun s hs => ⟨none, _, hs.2.symm, hs.1⟩)
  · refine vrr_rcvfunc_triple skb hlt (fun h => ?_) (fun h => ?_) (fun h => ?_) (fun h => ?_)
      (fun h => ?_) (fun h => ?_)
    · exact hrest (by rw [h]; decide) (by rw [h]; decide)
        (fun M => (hq M).vrr_rcv_data trivial skb h)
    · exact hrest (by rw [h]; decide) (by rw [h]; decide)
        (fun M => (quiet_within M).draws.vrr_rcv_hello skb (fun _ hs => hs)
          (fun _ _ _ => Preserves.modify _ (fun _ hs => hs)))
    · unfold packet_route
      simp only [if_pos h]
      exact vrr_rcv_setup_req_filed skb
    · have hne : skb.pkt.vh.pkt_type ≠ VRR_SETUP_REQ := by
        rw [h]
        decide
      unfold packet_route
      simp only [if_neg hne, if_pos h]
      exact vrr_rcv_setup_filed_route skb
    · exact hrest (by rw [h]; decide) (by rw [h]; decide)
        (fun M => (hq M).vrr_rcv_setup_fail trivial trivial skb)
    · exact hrest (by rw [h]; decide) (by rw [h]; decide)
        (fun M => (hq M).vrr_rcv_teardown trivial trivial skb)
  · exact Triple.modify _ (fun s hs => hs)

end Vrr

end Handlers

/-- The route that an event adds, as far as the state before says. -/
def event_route (s : Sys) (i : Event × Kernel) : Option RtEntry :=
  match i.1 with
  | .vrr_rcv skb =>
      match Vrr.packet_route skb { s with
        node := heard s.node skb.pkt.src
        kern := i.2 } with
      | .ok (r, _) => r
      | .error _ => none
  | _ => none

/-- The route that an event adds is fresh. -/
def AddsFresh (s : Sys) (i : Event × Kernel) : Prop :=
  ∀ r ∈ event_route s i, Fresh s.node.rt r

instance (s : Sys) (i : Event × Kernel) : Decidable (AddsFresh s i) :=
  inferInstanceAs (Decidable (∀ r ∈ event_route s i, Fresh s.node.rt r))

/-- An event files the route it adds and nothing else. -/
theorem step_within {s t : Sys} {i : Event × Kernel} (hstep : Step s i t) :
    Within (fun e => (event_route s i).elim [] (copies · e) ++ s.node.rt.routes e) t := by
  have hself : Within (fun e => s.node.rt.routes e) { s with kern := i.2 } :=
    fun e => List.Sublist.refl _
  have hsame : ∀ {u : Sys}, Within (fun e => s.node.rt.routes e) u →
      Within (fun e => (event_route s i).elim [] (copies · e) ++ s.node.rt.routes e) u :=
    fun h e => (h e).trans (List.sublist_append_right _ _)
  have hquiet := quiet_within (fun e => s.node.rt.routes e)
  have hrest : ∀ u n, u.node.SameStores n → Within (fun e => s.node.rt.routes e) u →
      Within (fun e => s.node.rt.routes e) { u with node := n } := fun u n h hu e => by
    change (n.rt.routes e).Sublist _
    rw [h.2.1]
    exact hu e
  have hover : ∀ size n, Preserves (Within (fun e => s.node.rt.routes e))
      (Vrr.overrun .pstate size n) := fun _ _ => Preserves.modify _ (fun _ hs => hs)
  refine step_cases hstep (fun skb r he hrun => ?_) (fun _ hrun => hsame ?_)
    (fun _ hrun => hsame ?_) (fun _ _ => hsame (fun e => List.Sublist.refl _))
  · obtain ⟨route, u, hroute, hwithin⟩ := (Vrr.vrr_rcv_within skb).ok ⟨hself, rfl⟩ hrun
    have hevent : event_route s i = route := by
      unfold event_route
      rw [he]
      simp only
      rw [hroute]
    rw [hevent]
    exact hwithin
  · exact (hquiet.pset_update_handler hrest hover trivial).ok hself hrun
  · exact (hquiet.vrr_workqueue_handler hrest hover trivial).ok hself hrun

/-- In every run whose additions are fresh, no list ever holds two entries of a
    path. -/
theorem paths_unique (id : U32) (g : Nat → U32) (gm : Nat → MacAddr) (k : Kernel) (t : Sys)
    (hrun : Reach (fun s i t => Step s i t ∧ AddsFresh s i) (Sys.boot (vrr_init id g gm) k) t) :
    Unique t.node.rt := by
  have hempty : Unique (Sys.boot (vrr_init id g gm) k).node.rt := fun e => by
    change (([] : List RtEntry).map RtEntry.path).Nodup
    exact List.nodup_nil
  refine hrun.invariant (fun s => Unique s.node.rt) hempty (fun s i u hs hstep => ?_)
  refine unique_of_sublist (step_within hstep.1) (fun e => ?_)
  cases hroute : event_route s i with
  | none => exact hs e
  | some r => exact nodup_of_fresh hs (hstep.2 r hroute) e

/-- Two setups with different path ids. -/
theorem paths_unique_two :
    ∃ t, Reach (fun s i t => Step s i t ∧ AddsFresh s i) node_one t ∧
      (t.node.rt.routes 2).length = 2 ∧ Unique t.node.rt := by
  obtain ⟨t, ht, hlen⟩ := reach_of_check (fun s i => decide (AddsFresh s i))
    [(.vrr_rcv (frame 0 VRR_SETUP 2 1 [5, 0, 0]), Kernel.calm),
      (.vrr_rcv (frame 0 VRR_SETUP 2 1 [6, 0, 0]), Kernel.calm)]
    (fun s => decide ((s.node.rt.routes 2).length = 2)) (by decide +kernel)
  have hrun := ht.mono (fun u i v h => And.intro h.1 (of_decide_eq_true h.2))
  exact ⟨t, hrun, of_decide_eq_true hlen,
    paths_unique 1 (fun _ => 0) (fun _ => 0) Kernel.calm t hrun⟩

/-- One setup that arrives twice. -/
theorem path_twice : ¬ ∀ t, Reach Step node_one t → Unique t.node.rt := by
  intro h
  obtain ⟨t, ht, hpaths⟩ := reach_of_eval
    [(.vrr_rcv (frame 0 VRR_SETUP 2 1 [5, 0, 0]), Kernel.calm),
      (.vrr_rcv (frame 0 VRR_SETUP 2 1 [5, 0, 0]), Kernel.calm)]
    (fun s => decide ((s.node.rt.routes 2).map RtEntry.path = [(2, 5), (2, 5)])) (by decide +kernel)
  have hnodup := h t ht 2
  rw [of_decide_eq_true hpaths] at hnodup
  exact absurd hnodup (by decide)

end AlpacaVrr
