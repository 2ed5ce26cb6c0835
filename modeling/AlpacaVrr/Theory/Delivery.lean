import AlpacaVrr.Lib.Reach
import AlpacaVrr.Theory.RouteMap
import Mathlib.Data.Prod.Lex
import Mathlib.Data.List.GetD
import Mathlib.Data.List.Nodup

/-!
# Delivery along Established Paths

Forwarding towards the endpoint of an established path arrives, and visits no
node twice.

A setup that completed leaves one route at every node it passed: `Setup` is
its node sequence, and `Setup.entry` the route it adds at a position. Setups
run concurrently, so the network is built from any interleaving of their
additions, each table by its own subsequence.

A node does not follow the path a packet arrived on. It takes the route with
the highest path id it knows for the destination, which may belong to a
different path than the one its neighbour used. The argument is that it can
only switch upwards. The node at the end of a hop has a route with the same
path id, because the setup passed there too, so the highest id it knows is no
smaller. Either the id rises, or the packet stays on the path and moves one
position towards the end. `rank` orders nodes by these two numbers, and
`iterate_descends` does the rest.

## Main definitions

* `Setup`, `Setup.entry`: A completed setup and the route it leaves behind.
* `Added`: One addition of some setup at one of its nodes.
* `tables_of`: The tables that a sequence of additions builds.
* `Interleaving`: The additions of some setups, in any order.
* `next_hop`: Where a node forwards a packet for a destination.
* `rank`: The path id in use, from above, and the hops left on that path.

## Theorems

* `mem_tables_of_iff`: The routes at a node are those added there.
* `chosen_spec`: The route a node uses belongs to one position of one setup.
* `next_hop_step`: A hop lands further along the path it used.
* `rank_decreases`: Every hop short of the destination lowers the rank.
* `forwarding_arrives`: Forwarding arrives and is free of loops.
-/

namespace AlpacaVrr

/-- A setup that ran to completion: a path id and the nodes it visited, in
    order. -/
structure Setup where
  path_id : U32
  nodes : List U32
  path_id_ne : path_id ≠ 0
  two_le : 2 ≤ nodes.length
  nodup : nodes.Nodup
  nonzero : ∀ x ∈ nodes, x ≠ 0

namespace Setup

/-- The node at a position. -/
def hop (s : Setup) (i : Nat) : U32 := s.nodes.getD i 0

def ea (s : Setup) : U32 := s.hop 0

def eb (s : Setup) : U32 := s.hop (s.nodes.length - 1)

/-- The route added at a position. The first node is its own previous hop,
    and the last one has no next hop. -/
def entry (s : Setup) (i : Nat) : RtEntry where
  ea := s.ea
  eb := s.eb
  na := if i = 0 then s.ea else s.hop (i - 1)
  nb := if i + 1 < s.nodes.length then s.hop (i + 1) else 0
  path_id := s.path_id

theorem hop_mem (s : Setup) (i : Nat) (hi : i < s.nodes.length) : s.hop i ∈ s.nodes := by
  unfold hop
  rw [List.getD_eq_getElem _ _ hi]
  exact List.getElem_mem hi

theorem hop_ne_zero (s : Setup) (i : Nat) (hi : i < s.nodes.length) : s.hop i ≠ 0 :=
  s.nonzero _ (s.hop_mem i hi)

/-- A path meets each node once. -/
theorem hop_inj (s : Setup) (i j : Nat) (hi : i < s.nodes.length) (hj : j < s.nodes.length)
    (h : s.hop i = s.hop j) : i = j := by
  unfold hop at h
  rw [List.getD_eq_getElem _ _ hi, List.getD_eq_getElem _ _ hj] at h
  exact (List.Nodup.getElem_inj_iff s.nodup).mp h

theorem idxOf_hop (s : Setup) (i : Nat) (hi : i < s.nodes.length) :
    s.nodes.idxOf (s.hop i) = i := by
  unfold hop
  rw [List.getD_eq_getElem _ _ hi]
  exact List.Nodup.idxOf_getElem s.nodup i hi

end Setup

/-- One addition: a setup, the position of the node that makes it, and the
    balancing it meets there. -/
structure Added where
  setup : Setup
  index : Nat
  rb : RbInsertColor

/-- The node that makes the addition calls `rt_add_route`. -/
def Added.run (tables : U32 → RtTable) (a : Added) : U32 → RtTable :=
  let v := a.setup.hop a.index
  let e := a.setup.entry a.index
  Function.update tables v
    ((tables v).rt_add_route a.rb RtAlloc.ok e.ea e.eb e.na e.nb e.path_id).2

/-- The tables that a sequence of additions builds from empty ones. -/
def tables_of (adds : List Added) : U32 → RtTable :=
  adds.foldl Added.run (fun _ => RtTable.empty)

/-- The additions are those of the setups at all their nodes, in some
    order. -/
def Interleaving (setups : List Setup) (adds : List Added) : Prop :=
  (adds.map (fun a => (a.setup, a.index))).Perm
    (setups.flatMap (fun s => (List.range s.nodes.length).map (fun i => (s, i))))

/-- Where a node forwards a packet for the destination. -/
def next_hop (tables : U32 → RtTable) (dest x : U32) : U32 :=
  RtTable.rt_get_next x (tables x) dest

/-- An addition files its route under its non-zero endpoints. -/
theorem mem_routes_added (rb : RbInsertColor) (t : RtTable) (e : RtEntry) (d : U32) (r : RtEntry) :
    r ∈ (t.rt_add_route rb RtAlloc.ok e.ea e.eb e.na e.nb e.path_id).2.routes d ↔
      (r = e ∧ d ≠ 0 ∧ (d = e.ea ∨ d = e.eb)) ∨ r ∈ t.routes d := by
  have hif : ∀ c : Prop, ∀ [Decidable c], r ∈ (if c then [e] else []) ↔ c ∧ r = e := by
    intro c _
    split_ifs with hc
    · rw [List.mem_singleton, and_iff_right hc]
    · exact iff_of_false List.not_mem_nil (fun h => hc h.1)
  rw [RtTable.routes_add _ _ _ _ _ _ _ _ _ (rt_add_route_ok rb _ _ _ _ _ _), List.mem_append,
    List.mem_append, hif, hif]
  constructor
  · rintro (⟨⟨h0, hd⟩, hr⟩ | ⟨⟨h0, hd⟩, hr⟩ | h)
    · exact Or.inl ⟨hr, by rw [hd]; exact h0, Or.inr hd⟩
    · exact Or.inl ⟨hr, by rw [hd]; exact h0, Or.inl hd⟩
    · exact Or.inr h
  · rintro (⟨hr, h0, hd | hd⟩ | h)
    · exact Or.inr (Or.inl ⟨⟨by rw [← hd]; exact h0, hd⟩, hr⟩)
    · exact Or.inl ⟨⟨by rw [← hd]; exact h0, hd⟩, hr⟩
    · exact Or.inr (Or.inr h)

/-- The routes a node has for an endpoint are those added there. -/
theorem mem_foldl_run_iff (adds : List Added) (tables : U32 → RtTable) (x d : U32) (r : RtEntry) :
    r ∈ ((adds.foldl Added.run tables) x).routes d ↔ r ∈ (tables x).routes d ∨
      ∃ a ∈ adds, a.setup.hop a.index = x ∧ r = a.setup.entry a.index ∧ d ≠ 0 ∧
        (d = a.setup.ea ∨ d = a.setup.eb) := by
  induction adds generalizing tables with
  | nil => simp only [List.foldl_nil, List.not_mem_nil, false_and, exists_false, or_false]
  | cons a adds ih =>
      have hhead : r ∈ (a.run tables x).routes d ↔ r ∈ (tables x).routes d ∨
          (a.setup.hop a.index = x ∧ r = a.setup.entry a.index ∧ d ≠ 0 ∧
            (d = a.setup.ea ∨ d = a.setup.eb)) := by
        unfold Added.run
        -- only the table of the node that adds changes
        by_cases hx : x = a.setup.hop a.index
        · subst hx
          rw [Function.update_self, mem_routes_added]
          constructor
          · rintro (⟨hr, h0, hd⟩ | h)
            · exact Or.inr ⟨rfl, hr, h0, hd⟩
            · exact Or.inl h
          · rintro (h | ⟨_, hr, h0, hd⟩)
            · exact Or.inr h
            · exact Or.inl ⟨hr, h0, hd⟩
        · rw [Function.update_of_ne hx]
          constructor
          · exact Or.inl
          · rintro (h | ⟨h, _⟩)
            · exact h
            · exact absurd h.symm hx
      rw [List.foldl_cons, ih (a.run tables), hhead, or_assoc]
      simp only [List.mem_cons, or_and_right, exists_or, exists_eq_left]

theorem mem_tables_of_iff (adds : List Added) (x d : U32) (r : RtEntry) :
    r ∈ (tables_of adds x).routes d ↔ ∃ a ∈ adds, a.setup.hop a.index = x ∧
      r = a.setup.entry a.index ∧ d ≠ 0 ∧ (d = a.setup.ea ∨ d = a.setup.eb) := by
  unfold tables_of
  rw [mem_foldl_run_iff]
  constructor
  · rintro (h | h)
    · exact absurd h List.not_mem_nil
    · exact h
  · exact Or.inr

/-- A hop lands on the neighbouring position of the path it used, on the side
    of the destination. -/
theorem next_hop_step (adds : List Added) (d x : U32) (hxd : x ≠ d) (s : Setup) (i : Nat)
    (hi : i < s.nodes.length) (hx : s.hop i = x) (hd : d = s.ea ∨ d = s.eb)
    (hmax : FirstMax ((tables_of adds x).routes d) (s.entry i)) :
    ∃ j, j < s.nodes.length ∧ next_hop (tables_of adds) d x = s.hop j ∧
      (d = s.eb ∧ j = i + 1 ∨ d ≠ s.eb ∧ i = j + 1) := by
  have hnext := rt_get_next_of_firstMax x (tables_of adds x) d (s.entry i) hxd.symm hmax
    s.path_id_ne
  have htwo := s.two_le
  unfold next_hop
  rw [hnext, hop_towards]
  -- towards `eb` the position goes up, towards `ea` down
  by_cases heb : d = s.eb
  · -- not the last position, which is the destination's
    have hlast : i ≠ s.nodes.length - 1 := by
      intro h
      apply hxd
      rw [← hx, heb, h]
      rfl
    have hlt : i + 1 < s.nodes.length := by omega
    refine ⟨i + 1, hlt, ?_, Or.inl ⟨heb, rfl⟩⟩
    change (if d = s.eb then (if i + 1 < s.nodes.length then s.hop (i + 1) else 0) else _) = _
    rw [if_pos heb, if_pos hlt]
  · -- not the first position, for the same reason
    have hea : d = s.ea := hd.resolve_right heb
    have hfirst : i ≠ 0 := by
      intro h
      apply hxd
      rw [← hx, hea, h]
      rfl
    refine ⟨i - 1, by omega, ?_, Or.inr ⟨heb, by omega⟩⟩
    change (if d = s.eb then _ else (if i = 0 then s.ea else s.hop (i - 1))) = _
    rw [if_neg heb, if_neg hfirst]

section Network

variable (setups : List Setup) (adds : List Added) (hadds : Interleaving setups adds) (d : U32)

include hadds

/-- The additions made are exactly those at the positions of the setups. -/
theorem exists_added_iff (s : Setup) (i : Nat) :
    (∃ a ∈ adds, a.setup = s ∧ a.index = i) ↔ s ∈ setups ∧ i < s.nodes.length := by
  have hmem : (s, i) ∈ adds.map (fun a => (a.setup, a.index)) ↔
      (s, i) ∈ setups.flatMap (fun s => (List.range s.nodes.length).map (fun i => (s, i))) :=
    hadds.mem_iff
  simp only [List.mem_map, List.mem_flatMap, List.mem_range, Prod.mk.injEq] at hmem
  rw [hmem]
  constructor
  · rintro ⟨s', hs', i', hi', rfl, rfl⟩
    exact ⟨hs', hi'⟩
  · rintro ⟨hs, hi⟩
    exact ⟨s, hs, i, hi, rfl, rfl⟩

/-- A node's routes for an endpoint come from the positions it has on the
    setups with that endpoint. -/
theorem mem_routes_iff (x : U32) (r : RtEntry) :
    r ∈ (tables_of adds x).routes d ↔ ∃ s ∈ setups, ∃ i, i < s.nodes.length ∧ s.hop i = x ∧
      r = s.entry i ∧ (d = s.ea ∨ d = s.eb) := by
  rw [mem_tables_of_iff]
  constructor
  · rintro ⟨a, ha, hx, hr, _, hd⟩
    rcases (exists_added_iff setups adds hadds a.setup a.index).mp ⟨a, ha, rfl, rfl⟩ with ⟨hs, hi⟩
    exact ⟨a.setup, hs, a.index, hi, hx, hr, hd⟩
  · rintro ⟨s, hs, i, hi, hx, hr, hd⟩
    rcases (exists_added_iff setups adds hadds s i).mpr ⟨hs, hi⟩ with ⟨a, ha, rfl, rfl⟩
    have htwo := a.setup.two_le
    have hd0 : d ≠ 0 := by
      rcases hd with rfl | rfl
      · exact a.setup.hop_ne_zero 0 (by omega)
      · exact a.setup.hop_ne_zero _ (by omega)
    exact ⟨a, ha, hx, hr, hd0, hd⟩

/-- The route in use at a node is that of one position on one setup, and its
    path id is the highest there. -/
theorem chosen_spec (x : U32) (hx : (tables_of adds x).routes d ≠ []) :
    ∃ s ∈ setups, ∃ i, i < s.nodes.length ∧ s.hop i = x ∧ (d = s.ea ∨ d = s.eb) ∧
      FirstMax ((tables_of adds x).routes d) (s.entry i) := by
  rcases exists_firstMax _ hx with ⟨r, hr⟩
  rcases (mem_routes_iff setups adds hadds d x r).mp (firstMax_mem _ r hr) with
    ⟨s, hs, i, hi, hx, rfl, hd⟩
  exact ⟨s, hs, i, hi, hx, hd, hr⟩

end Network

/-- The number of hops left to the destination from a node of a setup. -/
def hops_left (s : Setup) (d x : U32) : Nat :=
  if d = s.eb then s.nodes.length - 1 - s.nodes.idxOf x else s.nodes.idxOf x

/-- The path id in use at a node, counted from above, and the hops left on
    the setup with that id. -/
def rank (setups : List Setup) (adds : List Added) (d x : U32) : Nat ×ₗ Nat :=
  match max_entry none 0 ((tables_of adds x).routes d) with
  | none => toLex (0, 0)
  | some r => toLex (2 ^ 32 - r.path_id.toNat,
      match setups.find? (fun s => s.path_id == r.path_id) with
      | none => 0
      | some s => hops_left s d x)

section Network

variable (setups : List Setup) (hids : (setups.map Setup.path_id).Nodup) (adds : List Added)
  (hadds : Interleaving setups adds) (d : U32)

include hids

/-- A setup is found by its path id. -/
theorem find?_setup (s : Setup) (hs : s ∈ setups) :
    setups.find? (fun s' => s'.path_id == s.path_id) = some s := by
  induction setups with
  | nil => exact absurd hs List.not_mem_nil
  | cons s' setups ih =>
      rw [List.map_cons, List.nodup_cons] at hids
      -- another setup in front of it has another path id
      rcases List.mem_cons.mp hs with rfl | hs'
      · rw [List.find?_cons_of_pos (by simp only [beq_self_eq_true])]
      · have hne : s'.path_id ≠ s.path_id :=
          fun h => hids.1 (by rw [h]; exact List.mem_map_of_mem hs')
        rw [List.find?_cons_of_neg (by simp only [beq_iff_eq, hne, not_false_eq_true])]
        exact ih hids.2 hs'

/-- The rank of a node, in terms of the position whose route it uses. -/
theorem rank_eq (x : U32) (s : Setup) (hs : s ∈ setups) (i : Nat) (hi : i < s.nodes.length)
    (hx : s.hop i = x) (hmax : FirstMax ((tables_of adds x).routes d) (s.entry i)) :
    rank setups adds d x = toLex (2 ^ 32 - s.path_id.toNat,
      if d = s.eb then s.nodes.length - 1 - i else i) := by
  have hpos : 0 < s.path_id := by
    have hne := s.path_id_ne
    bv_omega
  unfold rank
  rw [max_entry_of_firstMax none 0 _ _ hmax hpos]
  have hpid : (s.entry i).path_id = s.path_id := rfl
  simp only [hpid, find?_setup setups hids s hs, hops_left, ← hx, s.idxOf_hop i hi]

include hadds

/-- Every hop short of the destination lowers the rank: the next node knows
    the same path, so it uses that one from a later position or a path with a
    higher id. -/
theorem rank_decreases (x : U32) (hroutes : (tables_of adds x).routes d ≠ []) (hxd : x ≠ d) :
    (tables_of adds (next_hop (tables_of adds) d x)).routes d ≠ [] ∧
      (next_hop (tables_of adds) d x ≠ d →
        rank setups adds d (next_hop (tables_of adds) d x) < rank setups adds d x) := by
  -- `s` is the path in use here, `s'` the one in use after the hop
  rcases chosen_spec setups adds hadds d x hroutes with ⟨s, hs, i, hi, hx, hd, hmax⟩
  rcases next_hop_step adds d x hxd s i hi hx hd hmax with ⟨j, hj, hnext, hij⟩
  have hmem : s.entry j ∈ (tables_of adds (s.hop j)).routes d :=
    (mem_routes_iff setups adds hadds d _ _).mpr ⟨s, hs, j, hj, rfl, rfl, hd⟩
  rw [hnext]
  refine ⟨List.ne_nil_of_mem hmem, fun _ => ?_⟩
  rcases chosen_spec setups adds hadds d (s.hop j) (List.ne_nil_of_mem hmem) with
    ⟨s', hs', i', hi', hx', hd', hmax'⟩
  have hge : s.path_id ≤ s'.path_id := firstMax_ge _ _ _ hmax' hmem
  rw [rank_eq setups hids adds d x s hs i hi hx hmax,
    rank_eq setups hids adds d (s.hop j) s' hs' i' hi' hx' hmax', Prod.Lex.toLex_lt_toLex]
  have hlt := s'.path_id.isLt
  by_cases hpid : s'.path_id = s.path_id
  · -- the same path, from the position the hop landed on
    have hss : s' = s := by
      have hfind := find?_setup setups hids s' hs'
      rw [hpid, find?_setup setups hids s hs, Option.some.injEq] at hfind
      exact hfind.symm
    subst hss
    have hii : i' = j := s'.hop_inj i' j hi' hj hx'
    subst hii
    refine Or.inr ⟨rfl, ?_⟩
    rcases hij with ⟨heb, hj1⟩ | ⟨heb, hi1⟩
    · rw [if_pos heb, if_pos heb]
      omega
    · rw [if_neg heb, if_neg heb]
      omega
  · -- a path with a higher id, and what is left on it does not matter
    refine Or.inl ?_
    have hne : s'.path_id.toNat ≠ s.path_id.toNat := fun h => hpid (BitVec.eq_of_toNat_eq h)
    have hle : s.path_id.toNat ≤ s'.path_id.toNat := hge
    simp only
    omega

/-- Forwarding towards an endpoint, from any node that has a route for it,
    arrives there; every node on the way is a real one with a route, and none
    comes twice. -/
theorem forwarding_arrives (x : U32) (hxd : x ≠ d) (hroutes : (tables_of adds x).routes d ≠ []) :
    ∃ n, (next_hop (tables_of adds) d)^[n] x = d ∧
      (∀ i, i < n → (next_hop (tables_of adds) d)^[i] x ≠ 0) ∧
      (∀ i j, i < j → j ≤ n →
        (next_hop (tables_of adds) d)^[i] x ≠ (next_hop (tables_of adds) d)^[j] x) := by
  have hnext : ∀ y, (tables_of adds y).routes d ≠ [] → y ≠ d →
      next_hop (tables_of adds) d y = d ∨
        ((tables_of adds (next_hop (tables_of adds) d y)).routes d ≠ [] ∧
          rank setups adds d (next_hop (tables_of adds) d y) < rank setups adds d y) := by
    intro y hy hyd
    rcases rank_decreases setups hids adds hadds d y hy hyd with ⟨hroutes', hrank⟩
    by_cases hd : next_hop (tables_of adds) d y = d
    · exact Or.inl hd
    · exact Or.inr ⟨hroutes', hrank hd⟩
  rcases iterate_descends (next_hop (tables_of adds) d) d
    (fun y => (tables_of adds y).routes d ≠ []) (rank setups adds d) hnext x hroutes hxd with
    ⟨n, hn, hP, hdist⟩
  refine ⟨n, hn, fun i hi => ?_, hdist⟩
  -- a node with a route is a node of some setup
  rcases chosen_spec setups adds hadds d _ (hP i hi) with ⟨s, _, k, hk, hx, _⟩
  rw [← hx]
  exact s.hop_ne_zero k hk

end Network

/-- A setup of path 7 from node 1 through node 2 to node 3. -/
def three_nodes : Setup where
  path_id := 7
  nodes := [1, 2, 3]
  path_id_ne := by decide
  two_le := by simp only [List.length_cons, List.length_nil]; omega
  nodup := by decide
  nonzero := by
    simp only [List.mem_cons, List.not_mem_nil, or_false]
    rintro x (rfl | rfl | rfl) <;> decide

/-- Its additions, the last node's first. -/
def three_adds : List Added :=
  [⟨three_nodes, 2, SearchTree.Rebalance.none⟩, ⟨three_nodes, 0, SearchTree.Rebalance.none⟩,
    ⟨three_nodes, 1, SearchTree.Rebalance.none⟩]

/-- A packet for node 3 arrives from node 1 along that path. -/
theorem forwarding_arrives_three :
    ∃ n, (next_hop (tables_of three_adds) 3)^[n] 1 = 3 ∧
      (∀ i, i < n → (next_hop (tables_of three_adds) 3)^[i] 1 ≠ 0) ∧
      (∀ i j, i < j → j ≤ n →
        (next_hop (tables_of three_adds) 3)^[i] 1 ≠ (next_hop (tables_of three_adds) 3)^[j] 1) := by
  have hadds : Interleaving [three_nodes] three_adds := by
    have hall : [three_nodes].flatMap (fun s => (List.range s.nodes.length).map (fun i => (s, i))) =
        [(three_nodes, 0), (three_nodes, 1)] ++ [(three_nodes, 2)] := by
      have hlen : three_nodes.nodes.length = 3 := rfl
      simp only [List.flatMap_cons, List.flatMap_nil, hlen, List.range_succ, List.range_zero,
        List.nil_append, List.map_append, List.map_cons, List.map_nil, List.append_nil]
      rfl
    unfold Interleaving
    rw [hall]
    have hcomm : ([(three_nodes, 2)] ++ [(three_nodes, 0), (three_nodes, 1)]).Perm
        ([(three_nodes, 0), (three_nodes, 1)] ++ [(three_nodes, 2)]) := List.perm_append_comm
    exact hcomm
  have hmem : three_nodes.entry 0 ∈ (tables_of three_adds 1).routes 3 := by
    rw [mem_tables_of_iff]
    exact ⟨⟨three_nodes, 0, SearchTree.Rebalance.none⟩, by simp [three_adds], rfl, rfl, by decide,
      Or.inr rfl⟩
  exact forwarding_arrives [three_nodes] (List.nodup_singleton _) three_adds hadds 3 1 (by decide)
    (List.ne_nil_of_mem hmem)

end AlpacaVrr
