import AlpacaVrr.Theory.Outcomes

/-!
# Virtual Set and Routing Table

When the virtual neighbours of a node are the ids it has paths to.

The handlers update the two stores one after the other, and none of them looks
at both. An id that is evicted from the virtual set keeps its routes, which the
comment of `vrr_add` says are to be torn down. A route that ends elsewhere may
have the node as one of its endpoints, because the endpoints are those in the
packet. A route is filed twice, under each of its endpoints, and removed once.
And the teardown of a path offers 0 to the virtual set.

`Balanced` is the condition that excludes these, for each of the outcomes that
a packet can have. What is left keeps the two in agreement.

## Main definitions

* `Joins`, `Connected`: A route between the node and an id.
* `Agree`: The virtual set holds the ids with such a route.
* `Accepts`, `Grows`, `Spared`, `Balanced`: What the packets of a run have to
  meet.

## Theorems

* `connected_add`, `connected_remove`: What becomes of the routes.
* `outcome_agree`: The outcome of a balanced packet keeps the agreement.
* `stores_agree`: It holds in every run of balanced packets.
* `evicted_connected`: A run in which an evicted id keeps its route.
-/

namespace AlpacaVrr

/-- The endpoints of the route are `me` and `v`. -/
def Joins (me v : U32) (r : RtEntry) : Prop := r.ea = me ∧ r.eb = v ∨ r.ea = v ∧ r.eb = me

/-- The table holds a route between `me` and `v`. -/
def Connected (t : RtTable) (me v : U32) : Prop := ∃ e, ∃ r ∈ t.routes e, Joins me v r

/-- The virtual set holds each id once, and those that the node has a route
    to. -/
structure Agree (n : Node) : Prop where
  nodup : n.vset.nodes.Nodup
  iff : ∀ v, v ∈ n.vset.nodes ↔ Connected n.rt n.me v

/-- The id may be taken in. -/
def Accepts (n : Node) (id : U32) : Prop :=
  id ≠ UINT_MAX ∧ ∃ left right, vset_should_add n.me n.vset id left right = true

/-- The id is taken in without an eviction. -/
def Grows (n : Node) (id : U32) : Prop :=
  ∀ left right, (vset_add n.me n.vset id 0 left right).2.2.nodes = id :: n.vset.nodes

/-- The ids that the route joins the node with are still connected when one
    entry of it is removed. -/
def Spared (n : Node) (ea pid : U32) (except : U32 → Prop) (route : RtEntry) : Prop :=
  ∀ v, ¬ except v → Joins n.me v route → Connected (n.rt.rt_remove_route ea pid).2 n.me v

/-- A route of these endpoints can be filed without a change of the virtual
    set. It cannot be when one end is the node and the other is not a virtual
    neighbour. -/
def EndsKnown (n : Node) (ea eb : U32) : Prop :=
  (ea = 0 ∧ eb = 0) ∨ (ea = n.me → eb ∈ n.vset.nodes) ∧ (eb = n.me → ea ∈ n.vset.nodes)

/-- What happens to one of the two stores happens to the other. -/
structure Balanced (n : Node) (skb : SkBuff) : Prop where
  /-- A request that is answered. -/
  setup_req : skb.pkt.vh.pkt_type = VRR_SETUP_REQ →
    RtTable.rt_get_next_exclude n.me n.rt skb.pkt.dst skb.pkt.src = 0 →
    ∀ size, Readable skb.pkt (vrr_header_size + 4) size → size.toNat ≤ VRR_VSET_SIZE →
    Accepts n skb.pkt.src → Grows n skb.pkt.src ∧ (n.me ≠ 0 ∨ skb.pkt.src ≠ 0)
  /-- A setup of a node that is no neighbour. -/
  disowned : skb.pkt.vh.pkt_type = VRR_SETUP → sender_of n skb = none →
    ∀ pid route, Readable skb.pkt vrr_header_size pid →
    (n.rt.rt_remove_route skb.pkt.src pid).1 = some route →
    Spared n skb.pkt.src pid (fun _ => False) route
  /-- A setup whose source may not be taken in. -/
  passed : skb.pkt.vh.pkt_type = VRR_SETUP → ∀ na proxy size, sender_of n skb = some na →
    Readable skb.pkt (vrr_header_size + 4) proxy →
    Readable skb.pkt (vrr_header_size + 8) size →
    (setup_hop n skb.pkt.dst proxy ≠ 0 ∨ VRR_VSET_SIZE < size.toNat ∨
      TurnedDown n skb.pkt.src) → EndsKnown n skb.pkt.src skb.pkt.dst
  /-- A setup whose source may be taken in. -/
  ended : skb.pkt.vh.pkt_type = VRR_SETUP → ∀ na proxy size, sender_of n skb = some na →
    Readable skb.pkt (vrr_header_size + 4) proxy →
    Readable skb.pkt (vrr_header_size + 8) size → setup_hop n skb.pkt.dst proxy = 0 →
    size.toNat ≤ VRR_VSET_SIZE → Accepts n skb.pkt.src →
    skb.pkt.dst = n.me ∧ Grows n skb.pkt.src ∧ (n.me ≠ 0 ∨ skb.pkt.src ≠ 0)
  /-- A teardown. -/
  teardown : skb.pkt.vh.pkt_type = VRR_TEARDOWN → ∀ ea pid size route,
    Readable skb.pkt vrr_header_size ea → Readable skb.pkt (vrr_header_size + 4) pid →
    Readable skb.pkt (vrr_header_size + 8) size → (n.rt.rt_remove_route ea pid).1 = some route →
    if (Vrr.teardown_side route skb.pkt.src).2 = 0 ∧ size.toNat ≤ VRR_VSET_SIZE then
      ¬ Accepts (severed n ea pid (Vrr.teardown_side route skb.pkt.src).1) 0 ∧
      Spared n ea pid (fun v => v = (Vrr.teardown_side route skb.pkt.src).1) route ∧
      ¬ Connected (n.rt.rt_remove_route ea pid).2 n.me (Vrr.teardown_side route skb.pkt.src).1
    else Spared n ea pid (fun _ => False) route

/-- Filing a route connects what it joins. -/
theorem connected_add (rb : RbInsertColor) (alloc : RtAlloc) (t : RtTable) (r : RtEntry)
    (hok : (t.rt_add_route rb alloc r.ea r.eb r.na r.nb r.path_id).1 = true) (me v : U32) :
    Connected (t.rt_add_route rb alloc r.ea r.eb r.na r.nb r.path_id).2 me v ↔
      Connected t me v ∨ Joins me v r ∧ (r.ea ≠ 0 ∨ r.eb ≠ 0) := by
  unfold Connected
  simp only [RtTable.routes_add rb alloc t _ _ _ _ _ _ hok]
  constructor
  · rintro ⟨e, r', hr', hjoins⟩
    rcases List.mem_append.mp hr' with hmem | hmem
    · split_ifs at hmem with hc
      · rw [List.mem_singleton.mp hmem] at hjoins
        exact Or.inr ⟨hjoins, Or.inr hc.1⟩
      · exact absurd hmem List.not_mem_nil
    rcases List.mem_append.mp hmem with hmem | hmem
    · split_ifs at hmem with hc
      · rw [List.mem_singleton.mp hmem] at hjoins
        exact Or.inr ⟨hjoins, Or.inl hc.1⟩
      · exact absurd hmem List.not_mem_nil
    · exact Or.inl ⟨e, r', hmem, hjoins⟩
  · rintro (⟨e, r', hr', hjoins⟩ | ⟨hjoins, hea | heb⟩)
    · exact ⟨e, r', List.mem_append_right _ (List.mem_append_right _ hr'), hjoins⟩
    · refine ⟨r.ea, r, List.mem_append_right _ (List.mem_append_left _ ?_), hjoins⟩
      rw [if_pos (⟨hea, rfl⟩ : r.ea ≠ 0 ∧ r.ea = r.ea)]
      exact List.mem_singleton_self r
    · refine ⟨r.eb, r, List.mem_append_left _ ?_, hjoins⟩
      rw [if_pos (⟨heb, rfl⟩ : r.eb ≠ 0 ∧ r.eb = r.eb)]
      exact List.mem_singleton_self r

theorem connected_of_remove {t : RtTable} {ea pid me v : U32}
    (h : Connected (t.rt_remove_route ea pid).2 me v) : Connected t me v := by
  rcases h with ⟨e, r, hr, hjoins⟩
  exact ⟨e, r, RtTable.mem_routes_remove t ea pid e r hr, hjoins⟩

/-- What a removal takes from a list is what the search finds. -/
theorem find?_of_not_mem_eraseP {α : Type} {p : α → Bool} {l : List α} {a : α} (h : a ∈ l)
    (hnot : a ∉ l.eraseP p) : l.find? p = some a := by
  induction l with
  | nil => exact absurd h List.not_mem_nil
  | cons b l ih =>
      cases hb : p b with
      | true =>
          rw [List.eraseP_cons_of_pos hb] at hnot
          rw [List.find?_cons_of_pos hb, (List.mem_cons.mp h).resolve_right hnot]
      | false =>
          have hneg : ¬ p b = true := by rw [hb]; exact Bool.false_ne_true
          rw [List.eraseP_cons_of_neg hneg, List.mem_cons, not_or] at hnot
          rw [List.find?_cons_of_neg hneg]
          exact ih ((List.mem_cons.mp h).resolve_left hnot.1) hnot.2

/-- A removal disconnects nothing but what its route joins. -/
theorem connected_remove {t : RtTable} (ea pid : U32) {me v : U32} (h : Connected t me v) :
    Connected (t.rt_remove_route ea pid).2 me v ∨
      ∃ route, (t.rt_remove_route ea pid).1 = some route ∧ Joins me v route := by
  rcases h with ⟨e, r, hr, hjoins⟩
  by_cases hmem : r ∈ (t.rt_remove_route ea pid).2.routes e
  · exact Or.inl ⟨e, r, hmem, hjoins⟩
  rw [RtTable.routes_remove] at hmem
  split_ifs at hmem with he
  · subst he
    refine Or.inr ⟨r, ?_, hjoins⟩
    rw [RtTable.route_remove]
    exact find?_of_not_mem_eraseP hr hmem
  · exact absurd hr hmem

/-- An id that was added is in the set, and the set has no duplicates. -/
theorem nodup_vset_add (me : U32) (v : Vset) (id rem : U32) (left right : Garbage)
    (h : v.nodes.Nodup) : (vset_add me v id rem left right).2.2.nodes.Nodup := by
  rw [vset_add_set]
  split_ifs with hmem
  · exact h
  have hinsert : (insert_vset_node me v id).nodes.Nodup := List.nodup_cons.mpr ⟨hmem, h⟩
  rcases vset_bump_cases (insert_vset_node me v id) rem left right with
    ⟨_, heq⟩ | ⟨_, hit, tmp, _, heq⟩ | ⟨_, heq⟩
  · rw [heq]
    exact hinsert
  · rw [heq]
    exact hinsert.sublist (List.eraseP_sublist.map _)
  · rw [heq]
    exact hinsert

/-- A removal removes the id. -/
theorem mem_nodes_vset_remove_iff (v : Vset) (id x : U32) (h : v.nodes.Nodup) :
    (vset_remove v id).2.nodes.Nodup ∧
      (x ∈ (vset_remove v id).2.nodes ↔ x ∈ v.nodes ∧ x ≠ id) := by
  have hmap : ∀ l : List VsetEntry, (l.eraseP (fun tmp => tmp.node == id)).map VsetEntry.node =
      (l.map VsetEntry.node).erase id := by
    intro l
    rw [List.erase_eq_eraseP', List.eraseP_map]
    rfl
  have hnodes : (vset_remove v id).2.nodes = v.nodes.erase id := by
    unfold vset_remove
    split_ifs with hmem
    · exact hmap v.list
    · exact (List.erase_of_not_mem hmem).symm
  rw [hnodes]
  exact ⟨h.erase id, by rw [h.mem_erase_iff, and_comm]⟩

section Cases

variable {n m : Node} {skb : SkBuff}

/-- Filing a route that joins the node with an id that is taken in as well. -/
theorem agree_taken (h : Agree n) {src : U32} (hgrows : Grows n src) (left right : Garbage)
    (rb : RbInsertColor) (alloc : RtAlloc) (r : RtEntry)
    (hok : (n.rt.rt_add_route rb alloc r.ea r.eb r.na r.nb r.path_id).1 = true)
    (hjoins : ∀ v, Joins n.me v r ↔ v = src) (hfiled : r.ea ≠ 0 ∨ r.eb ≠ 0) (hme : m.me = n.me)
    (hrt : m.rt = (n.rt.rt_add_route rb alloc r.ea r.eb r.na r.nb r.path_id).2)
    (hvset : m.vset = (vset_add n.me n.vset src 0 left right).2.2) : Agree m := by
  refine ⟨?_, fun v => ?_⟩
  · rw [hvset]
    exact nodup_vset_add _ _ _ _ _ _ h.nodup
  rw [hme, hrt, hvset, hgrows left right, List.mem_cons, h.iff v,
    connected_add rb alloc n.rt r hok, hjoins]
  constructor
  · rintro (heq | hc)
    · exact Or.inr ⟨heq, hfiled⟩
    · exact Or.inl hc
  · rintro (hc | ⟨heq, _⟩)
    · exact Or.inr hc
    · exact Or.inl heq

/-- Filing a route whose ends are virtual neighbours already. -/
theorem agree_filed (h : Agree n) (rb : RbInsertColor) (alloc : RtAlloc) (r : RtEntry)
    (hok : (n.rt.rt_add_route rb alloc r.ea r.eb r.na r.nb r.path_id).1 = true)
    (hends : EndsKnown n r.ea r.eb) :
    Agree { n with rt := (n.rt.rt_add_route rb alloc r.ea r.eb r.na r.nb r.path_id).2 } := by
  refine ⟨h.nodup, fun v => ?_⟩
  simp only [h.iff v, connected_add rb alloc n.rt r hok]
  refine (or_iff_left_of_imp ?_).symm
  rintro ⟨hjoins, hfiled⟩
  rw [← h.iff v]
  rcases hends with ⟨hea, heb⟩ | ⟨hea, heb⟩
  · exact absurd hfiled (by simp only [hea, heb, ne_eq, not_true_eq_false, or_self,
      not_false_eq_true])
  · rcases hjoins with ⟨hme, rfl⟩ | ⟨rfl, hme⟩
    · exact hea hme
    · exact heb hme

/-- Removing a route that has a copy, or that joins the node with nothing. -/
theorem agree_unroute (h : Agree n) (ea pid : U32)
    (hspared : ∀ route, (n.rt.rt_remove_route ea pid).1 = some route →
      Spared n ea pid (fun _ => False) route) : Agree (unroute n ea pid) := by
  refine ⟨h.nodup, fun v => (h.iff v).trans ⟨fun hc => ?_, connected_of_remove⟩⟩
  rcases connected_remove ea pid hc with hstill | ⟨route, hroute, hjoins⟩
  · exact hstill
  · exact hspared route hroute v not_false hjoins

/-- Removing the last route to an id together with the id. -/
theorem agree_severed (h : Agree n) (ea pid endpt : U32) (route : RtEntry)
    (hroute : (n.rt.rt_remove_route ea pid).1 = some route)
    (hspared : Spared n ea pid (fun v => v = endpt) route)
    (hgone : ¬ Connected (n.rt.rt_remove_route ea pid).2 n.me endpt) :
    Agree (severed n ea pid endpt) := by
  refine ⟨(mem_nodes_vset_remove_iff n.vset endpt 0 h.nodup).1, fun v => ?_⟩
  refine (mem_nodes_vset_remove_iff n.vset endpt v h.nodup).2.trans ?_
  rw [h.iff v]
  constructor
  · rintro ⟨hc, hne⟩
    rcases connected_remove ea pid hc with hstill | ⟨route', hroute', hjoins⟩
    · exact hstill
    · rw [hroute, Option.some.injEq] at hroute'
      rw [← hroute'] at hjoins
      exact hspared v hne hjoins
  · intro hc
    refine ⟨connected_of_remove hc, fun heq => hgone ?_⟩
    rw [← heq]
    exact hc

/-- With allocations that succeed, what a balanced packet makes of a node that
    agrees is one. -/
theorem outcome_agree (h : Agree n) (hbalanced : Balanced n skb) (houtcome : Outcome True n skb m) :
    Agree m := by
  cases houtcome with
  | kept _ hsame =>
      refine ⟨by rw [hsame.2.2]; exact h.nodup, fun v => ?_⟩
      rw [hsame.1, hsame.2.1, hsame.2.2]
      exact h.iff v
  | answered m m' size nh pid ok hty hend hsize htaken hrouted =>
      -- the source is taken in, and the route from this node to it is filed
      rcases hrouted with ⟨rb, alloc, halloc, hok, rfl⟩
      rcases hbalanced.setup_req hty hend size hsize.1 hsize.2 ⟨htaken.1, htaken.2.1⟩ with
        ⟨hgrows, hfiled⟩
      rcases htaken.2.2 with ⟨left, right, rfl⟩
      have hadded : (n.rt.rt_add_route rb alloc n.me skb.pkt.src n.me nh pid).1 = true := by
        rw [halloc trivial]
        exact rt_add_route_ok rb _ _ _ _ _ _
      rw [if_pos (hok.trans hadded)]
      refine agree_taken h hgrows left right rb alloc ⟨n.me, skb.pkt.src, n.me, nh, pid⟩ hadded
        (fun v => ?_) hfiled rfl rfl rfl
      constructor
      · rintro (⟨_, hv⟩ | ⟨hme, hsrc⟩)
        · exact hv.symm
        · exact hme.symm.trans hsrc.symm
      · exact fun hv => Or.inl ⟨rfl, hv.symm⟩
  | disowned pid hty hpid hsender =>
      exact agree_unroute h _ _ (fun route hroute =>
        hbalanced.disowned hty hsender pid route hpid hroute)
  | unfiled m' pid na nh hty hrouted =>
      rcases hrouted with ⟨rb, alloc, halloc, hok, rfl⟩
      -- no allocation fails, so there is no such outcome
      rw [halloc trivial] at hok
      exact absurd (hok.trans (rt_add_route_ok rb _ _ _ _ _ _)) Bool.false_ne_true
  | passed _ pid proxy size na hty hread hsender hrouted hwhy =>
      -- a route is filed without an entry of the virtual set to go with it
      rcases hrouted with ⟨rb, alloc, _, hok, rfl⟩
      refine agree_filed h rb alloc _ hok.symm (hbalanced.passed hty na proxy size hsender
        hread.2.1 hread.2.2 ?_)
      rcases hwhy with hnh | hlong | hnot | hdown
      · exact Or.inl hnh
      · exact Or.inr (Or.inl hlong)
      · exact absurd trivial hnot
      · exact Or.inr (Or.inr hdown)
  | ended m' m'' pid proxy size na hty hread hsender hrouted hend hsize htaken =>
      -- the source is taken in here too, on the route from it
      rcases hrouted with ⟨rb, alloc, _, hok, rfl⟩
      rcases hbalanced.ended hty na proxy size hsender hread.2.1 hread.2.2 hend hsize
        ⟨htaken.1, htaken.2.1⟩ with ⟨hdst, hgrows, hfiled⟩
      rcases htaken.2.2 with ⟨left, right, rfl⟩
      refine agree_taken h hgrows left right rb alloc
        ⟨skb.pkt.src, skb.pkt.dst, na, setup_hop n skb.pkt.dst proxy, pid⟩ hok.symm
        (fun v => ?_) ?_ rfl rfl rfl
      · constructor
        · rintro (⟨hsrc, hv⟩ | ⟨hv, _⟩)
          · exact (hv.symm.trans hdst).trans hsrc.symm
          · exact hv.symm
        · exact fun hv => Or.inr ⟨hv.symm, hdst⟩
      · rw [hdst]
        exact hfiled.symm
  | removed route ea pid size hty hread hroute hwhy =>
      -- a route goes and the virtual set stays: none of its ids may rest on the route
      have hcond := hbalanced.teardown hty ea pid size route hread.1 hread.2.1 hread.2.2 hroute
      rw [if_neg] at hcond
      · refine agree_unroute h _ _ (fun route' hroute' => ?_)
        rw [hroute, Option.some.injEq] at hroute'
        rw [← hroute']
        exact hcond
      · rintro ⟨hnext, hshort⟩
        rcases hwhy with hnh | hlong | hnot
        · exact hnh hnext
        · exact absurd hshort (Nat.not_le_of_lt hlong)
        · exact hnot trivial
  | lost _ route ea pid size hty hread hroute hend hsize hoffer =>
      have hcond := hbalanced.teardown hty ea pid size route hread.1 hread.2.1 hread.2.2 hroute
      rw [if_pos ⟨hend, hsize⟩] at hcond
      -- the id goes with its route, and 0 is not taken in for it
      rcases hoffer with htaken | ⟨_, rfl⟩
      · exact absurd ⟨htaken.1, htaken.2.1⟩ hcond.1
      · exact agree_severed h ea pid _ route hroute hcond.2.1 hcond.2.2

/-- What `vrr_rcv` does first makes no difference to a packet. -/
theorem balanced_heard {src : U32} (h : Balanced n skb) : Balanced (heard n src) skb where
  setup_req := h.setup_req
  disowned := by
    intro hty hsender
    rw [sender_of_heard] at hsender
    exact h.disowned hty hsender
  passed := by
    intro hty na proxy size hsender hproxy hsize hwhy
    rw [sender_of_heard] at hsender
    rw [setup_hop_heard] at hwhy
    exact h.passed hty na proxy size hsender hproxy hsize hwhy
  ended := by
    intro hty na proxy size hsender hproxy hsize hend
    rw [sender_of_heard] at hsender
    rw [setup_hop_heard] at hend
    exact h.ended hty na proxy size hsender hproxy hsize hend
  teardown := h.teardown

/-- While the counter leaves room, nothing is evicted. -/
theorem grows_of_room {id : U32} (hroom : n.vset.vset_size < VRR_VSET_SIZE)
    (habs : id ∉ n.vset.nodes) : Grows n id := by
  intro left right
  rw [vset_add_set, if_neg habs]
  rcases vset_bump_cases (insert_vset_node n.me n.vset id) 0 left right with
    ⟨_, heq⟩ | ⟨hfull, _⟩ | ⟨hfull, _⟩
  · rw [heq]
    rfl
  · exact absurd hfull (Nat.not_lt_of_le hroom)
  · exact absurd hfull (Nat.not_lt_of_le hroom)

end Cases

theorem step_agree {s t : Sys} {i : Event × Kernel} (hstep : Step s i t)
    (halloc : ∀ j, i.2.kmalloc j = true)
    (hbalanced : ∀ skb, i.1 = .vrr_rcv skb → Balanced s.node skb) (h : Agree s.node) :
    Agree t.node := by
  rcases step_outcome (R := True) hstep (fun _ => halloc) with ⟨skb, he, houtcome⟩ | hsame
  · have hheard : Agree (heard s.node skb.pkt.src) := ⟨h.nodup, h.iff⟩
    exact outcome_agree hheard (balanced_heard (hbalanced skb he)) houtcome
  · refine ⟨by rw [hsame.2.2]; exact h.nodup, fun v => ?_⟩
    rw [hsame.1, hsame.2.1, hsame.2.2]
    exact h.iff v

/-- In every run without a failed allocation whose packets are balanced where
    they are received, the virtual set holds the ids that the node has a route
    to. -/
theorem stores_agree (id : U32) (g : Nat → U32) (gm : Nat → MacAddr) (k : Kernel) (t : Sys)
    (hrun : Reach (fun s i t => Step s i t ∧ (∀ j, i.2.kmalloc j = true) ∧
      ∀ skb, i.1 = .vrr_rcv skb → Balanced s.node skb) (Sys.boot (vrr_init id g gm) k) t) :
    ∀ v, v ∈ t.node.vset.nodes ↔ Connected t.node.rt t.node.me v := by
  have hagree := hrun.invariant (fun s => Agree s.node) ?_
    (fun u i v hu hstep => step_agree hstep.1 hstep.2.1 hstep.2.2 hu)
  · exact hagree.iff
  · refine ⟨List.nodup_nil, fun v => ⟨fun hv => absurd hv List.not_mem_nil, ?_⟩⟩
    rintro ⟨e, r, hr, _⟩
    exact absurd hr List.not_mem_nil

/-- A request that node 1 answers. -/
def ask (src : U32) : Event × Kernel :=
  (.vrr_rcv (frame 0x22 VRR_SETUP_REQ src 1 [0, 0]), Kernel.calm)

/-- The first one puts its source into both stores. -/
theorem stores_agree_request :
    ∃ t, Reach (fun s i t => Step s i t ∧ (∀ j, i.2.kmalloc j = true) ∧
        ∀ skb, i.1 = .vrr_rcv skb → Balanced s.node skb) node_one t ∧
      t.node.vset.nodes = [2] ∧
      ∀ v, v ∈ t.node.vset.nodes ↔ Connected t.node.rt t.node.me v := by
  have hends : (run_events node_one [ask 2]).map (fun t => t.node.vset.nodes) = some [2] := by
    decide +kernel
  rcases Option.map_eq_some_iff.mp hends with ⟨t, ht, hnodes⟩
  have hbalanced : ∀ skb, (ask 2).1 = .vrr_rcv skb → Balanced node_one.node skb := by
    intro skb he
    have hskb : frame 0x22 VRR_SETUP_REQ 2 1 [0, 0] = skb := Event.vrr_rcv.inj he
    subst hskb
    -- there is room, and node 2 is no virtual neighbour yet
    refine ⟨fun _ _ _ _ _ _ => ⟨grows_of_room (by decide) List.not_mem_nil, Or.inl (by decide)⟩,
      ?_, ?_, ?_, ?_⟩ <;> exact fun hty => absurd hty (by decide)
  have hrun : Reach (fun s i t => Step s i t ∧ (∀ j, i.2.kmalloc j = true) ∧
      ∀ skb, i.1 = .vrr_rcv skb → Balanced s.node skb) node_one t :=
    Reach.step (ask 2) Reach.refl ⟨step_of_run_events _ _ _ ht, fun _ => rfl, hbalanced⟩
  exact ⟨t, hrun, hnodes, stores_agree 1 (fun _ => 0) (fun _ => 0) Kernel.calm t hrun⟩

/-- The fifth one evicts node 5, and its route stays. -/
theorem evicted_connected :
    ¬ ∀ (id : U32) (g : Nat → U32) (gm : Nat → MacAddr) (k : Kernel) (t : Sys),
      Reach (fun s i t => Step s i t ∧ ∀ j, i.2.kmalloc j = true)
        (Sys.boot (vrr_init id g gm) k) t →
      ∀ v, v ∈ t.node.vset.nodes ↔ Connected t.node.rt t.node.me v := by
  intro hall
  have hends : (run_events node_one [ask 2, ask 3, ask 4, ask 5, ask 6]).map
      (fun t => (t.node.me, t.node.vset.nodes, (t.node.rt.routes 5).map (fun r => (r.ea, r.eb)))) =
      some (1, [6, 4, 3, 2], [(1, 5)]) := by
    decide +kernel
  rcases Option.map_eq_some_iff.mp hends with ⟨t, ht, heq⟩
  simp only [Prod.mk.injEq] at heq
  have hkernels : ∀ i ∈ [ask 2, ask 3, ask 4, ask 5, ask 6], ∀ j, i.2.kmalloc j = true := by
    simp only [ask, List.mem_cons, List.not_mem_nil, or_false, forall_eq_or_imp, forall_eq]
    exact ⟨fun _ => rfl, fun _ => rfl, fun _ => rfl, fun _ => rfl, fun _ => rfl⟩
  have hrun := reach_run_events (fun i => ∀ j, i.2.kmalloc j = true) node_one node_one t _
    Reach.refl hkernels ht
  have hroute : (1, 5) ∈ (t.node.rt.routes 5).map (fun r => (r.ea, r.eb)) := by
    rw [heq.2.2]
    exact List.mem_singleton_self _
  rcases List.mem_map.mp hroute with ⟨r, hr, hends⟩
  rw [Prod.mk.injEq] at hends
  have hmem := (hall 1 (fun _ => 0) (fun _ => 0) Kernel.calm t hrun 5).mpr
    ⟨5, r, hr, Or.inl ⟨by rw [hends.1, heq.1], hends.2⟩⟩
  rw [heq.2.1] at hmem
  exact absurd hmem (by decide)

end AlpacaVrr
