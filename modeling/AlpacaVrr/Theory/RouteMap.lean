import AlpacaVrr.Core.RoutingTable
import Mathlib.Logic.Function.Basic
import Mathlib.Tactic.Common

/-!
# The Routing Table as a Map

What the routing table is for, and that the tree implements it.

A routing table is a map from endpoints to lists of routes. Adding a route
pushes it on the list of each endpoint it has; removing a path takes the first
route with its id off one list. `RouteMap` says just that, with no tree, no
descent and no balancing. `rt_run_refines` runs any sequence of operations on
both sides and finds them equal, which reduces every later question about the
table to one about lists.

The lookup is read off a list by `FirstMax`, the first route whose path id is
maximal. The loop in `route_list_search` starts its maximum at zero and
replaces it only on a strict increase, so it finds that route unless every id
is zero, when it finds nothing.

The side of the route is chosen by comparing two ring distances. Under an
endpoint of the route one of them is zero, and `get_diff_eq_zero_iff` makes
the comparison an equality test.

## Main definitions

* `RouteMap`: A map from endpoints to route lists, with its two operations.
* `FirstMax`: The first route of a list with the maximal path id.
* `RtOp`, `rt_run`, `RouteMap.run`: Operation sequences on either side.

## Theorems

* `get_diff_eq_zero_iff`: Only equal ids are at distance zero.
* `exists_firstMax`: Every non-empty list has a first maximum.
* `max_entry_of_firstMax`: The loop finds it.
* `rt_get_next_of_firstMax`: The hop comes from it, on the right side.
* `rt_run_refines`: The tree refines the map over every operation sequence.
-/

namespace AlpacaVrr

theorem get_diff_eq_zero_iff (x y : U32) : get_diff x y = 0 ↔ x = y := by
  unfold get_diff
  simp only
  constructor
  · intro h
    split_ifs at h <;> bv_omega
  · intro h
    subst h
    simp only [BitVec.sub_self, lt_irrefl, if_false]
    rfl

theorem get_diff_self (x : U32) : get_diff x x = 0 := (get_diff_eq_zero_iff x x).mpr rfl

/-- The distance to an endpoint is below the other one exactly at that
    endpoint, the two being different. -/
theorem get_diff_pos (x y : U32) (h : x ≠ y) : 0 < get_diff x y := by
  have hne : get_diff x y ≠ 0 := fun h0 => h ((get_diff_eq_zero_iff x y).mp h0)
  bv_omega

/-- The first route whose path id is maximal. -/
def FirstMax (routes : List RtEntry) (r : RtEntry) : Prop :=
  ∃ pre post, routes = pre ++ r :: post ∧
    (∀ x ∈ pre, x.path_id < r.path_id) ∧ (∀ x ∈ post, x.path_id ≤ r.path_id)

theorem firstMax_mem (routes : List RtEntry) (r : RtEntry) (h : FirstMax routes r) :
    r ∈ routes := by
  rcases h with ⟨pre, post, rfl, _, _⟩
  exact List.mem_append_right pre List.mem_cons_self

/-- A first maximum is at least every path id of the list. -/
theorem firstMax_ge (routes : List RtEntry) (r x : RtEntry) (h : FirstMax routes r)
    (hx : x ∈ routes) : x.path_id ≤ r.path_id := by
  rcases h with ⟨pre, post, rfl, hpre, hpost⟩
  rcases List.mem_append.mp hx with hx | hx
  · exact le_of_lt (hpre x hx)
  · rcases List.mem_cons.mp hx with rfl | hx
    · exact le_refl _
    · exact hpost x hx

/-- Every non-empty list has a first maximum. The induction keeps the head
    when nothing behind it is larger, and otherwise puts it in front of the
    tail's. -/
theorem exists_firstMax (routes : List RtEntry) (hne : routes ≠ []) :
    ∃ r, FirstMax routes r := by
  induction routes with
  | nil => exact absurd rfl hne
  | cons x rest ih =>
      by_cases hrest : rest = []
      · subst hrest
        exact ⟨x, [], [], rfl, fun y hy => absurd hy List.not_mem_nil,
          fun y hy => absurd hy List.not_mem_nil⟩
      · rcases ih hrest with ⟨r, hr⟩
        by_cases hxr : x.path_id < r.path_id
        · rcases hr with ⟨pre, post, rfl, hpre, hpost⟩
          refine ⟨r, x :: pre, post, rfl, fun y hy => ?_, hpost⟩
          rcases List.mem_cons.mp hy with rfl | hy
          · exact hxr
          · exact hpre y hy
        · refine ⟨x, [], rest, rfl, fun y hy => absurd hy List.not_mem_nil, fun y hy => ?_⟩
          exact le_trans (firstMax_ge rest r y hr hy) (not_lt.mp hxr)

/-- Nothing above the running maximum, so the loop returns what it has. -/
theorem max_entry_of_le (best : Option RtEntry) (m : U32) (routes : List RtEntry)
    (h : ∀ x ∈ routes, x.path_id ≤ m) : max_entry best m routes = best := by
  induction routes with
  | nil => rfl
  | cons x rest ih =>
      rw [max_entry, if_neg (not_lt.mpr (h x List.mem_cons_self))]
      exact ih (fun y hy => h y (List.mem_cons_of_mem x hy))

/-- The loop finds the first maximum when it beats the running one. -/
theorem max_entry_of_firstMax (best : Option RtEntry) (m : U32) (routes : List RtEntry)
    (r : RtEntry) (hr : FirstMax routes r) (hm : m < r.path_id) :
    max_entry best m routes = some r := by
  rcases hr with ⟨pre, post, rfl, hpre, hpost⟩
  induction pre generalizing best m with
  | nil =>
      rw [List.nil_append, max_entry, if_pos hm]
      exact max_entry_of_le (some r) r.path_id post hpost
  | cons x pre ih =>
      have hpre' : ∀ y ∈ pre, y.path_id < r.path_id :=
        fun y hy => hpre y (List.mem_cons_of_mem x hy)
      rw [List.cons_append, max_entry]
      -- the running maximum may rise here, but not as far as `r`
      by_cases hx : m < x.path_id
      · rw [if_pos hx]
        exact ih (some x) x.path_id (hpre x List.mem_cons_self) hpre'
      · rw [if_neg hx]
        exact ih best m hm hpre'

/-- All path ids zero: no route is usable. -/
theorem route_list_search_of_zero (me : U32) (routes : List RtEntry) (endpoint : U32)
    (h : ∀ r ∈ routes, r.path_id = 0) : route_list_search me routes endpoint = 0 := by
  unfold route_list_search
  rw [max_entry_of_le none 0 routes (fun x hx => le_of_eq (h x hx))]

/-- The hop of a route towards one of its endpoints. -/
def hop_towards (r : RtEntry) (endpoint : U32) : U32 :=
  if endpoint = r.eb then r.nb else r.na

/-- Under an endpoint other than the node itself, the search takes the hop
    towards that endpoint from the first maximum. -/
theorem route_list_search_of_firstMax (me : U32) (routes : List RtEntry) (endpoint : U32)
    (r : RtEntry) (hr : FirstMax routes r) (h0 : r.path_id ≠ 0) (hme : endpoint ≠ me)
    (hend : endpoint = r.ea ∨ endpoint = r.eb) :
    route_list_search me routes endpoint = hop_towards r endpoint := by
  have hpos : 0 < r.path_id := by bv_omega
  unfold route_list_search hop_towards
  rw [max_entry_of_firstMax none 0 routes r hr hpos]
  simp only
  by_cases heb : endpoint = r.eb
  · -- the distance to `eb` is zero, and nothing is below it
    subst heb
    rw [if_pos rfl, get_diff_self, if_neg (by bv_omega), if_pos hme]
  · have hea : endpoint = r.ea := hend.resolve_right heb
    rw [if_neg heb, if_pos (by rw [← hea, get_diff_self]; exact get_diff_pos endpoint r.eb heb),
      if_pos (by rw [← hea]; exact hme)]

/-- The next hop towards another node: from the first maximum filed under it,
    on the side of that endpoint. -/
theorem rt_get_next_of_firstMax (me : U32) (t : RtTable) (dest : U32) (r : RtEntry)
    (hme : dest ≠ me) (hr : FirstMax (t.routes dest) r) (h0 : r.path_id ≠ 0) :
    RtTable.rt_get_next me t dest = hop_towards r dest := by
  rw [RtTable.rt_get_next_eq, if_neg hme]
  exact route_list_search_of_firstMax me (t.routes dest) dest r hr h0 hme
    (t.filed dest r (firstMax_mem _ r hr)).2

/-- What a routing table is: a list of routes for each endpoint. -/
abbrev RouteMap := U32 → List RtEntry

namespace RouteMap

def empty : RouteMap := fun _ => []

/-- Put a route at the head of an endpoint's list, endpoint zero being none. -/
def push (m : RouteMap) (e : U32) (r : RtEntry) : RouteMap :=
  if e = 0 then m else Function.update m e (r :: m e)

/-- Add a route under both its endpoints. -/
def add (m : RouteMap) (r : RtEntry) : RouteMap := (m.push r.ea r).push r.eb r

/-- The first route of an endpoint with a path id, and the map without it. -/
def remove (m : RouteMap) (e path_id : U32) : Option RtEntry × RouteMap :=
  ((m e).find? (fun r => r.path_id == path_id),
    Function.update m e ((m e).eraseP (fun r => r.path_id == path_id)))

end RouteMap

/-- One call on the table, an addition with the balancing it meets. -/
inductive RtOp where
  | rt_add_route (rb : RbInsertColor) (ea eb na nb path_id : U32)
  | rt_remove_route (ea path_id : U32)

/-- The tree after one call, its allocations succeeding. -/
def RtOp.apply (t : RtTable) : RtOp → RtTable
  | rt_add_route rb ea eb na nb path_id =>
      (t.rt_add_route rb RtAlloc.ok ea eb na nb path_id).2
  | rt_remove_route ea path_id => (t.rt_remove_route ea path_id).2

/-- The map after one call. -/
def RtOp.applyMap (m : RouteMap) : RtOp → RouteMap
  | rt_add_route _ ea eb na nb path_id => m.add ⟨ea, eb, na, nb, path_id⟩
  | rt_remove_route ea path_id => (m.remove ea path_id).2

/-- The table a sequence of calls builds from the empty one. -/
def rt_run (ops : List RtOp) : RtTable := ops.foldl RtOp.apply RtTable.empty

/-- The map the same sequence builds. -/
def RouteMap.run (ops : List RtOp) : RouteMap := ops.foldl RtOp.applyMap RouteMap.empty

theorem push_apply (m : RouteMap) (e x : U32) (r : RtEntry) :
    m.push e r x = (if e ≠ 0 ∧ x = e then [r] else []) ++ m x := by
  unfold RouteMap.push
  by_cases he : e = 0
  · rw [if_pos he, if_neg (fun h => h.1 he), List.nil_append]
  · rw [if_neg he]
    by_cases hx : x = e
    · subst hx
      rw [Function.update_self, if_pos ⟨he, rfl⟩, List.singleton_append]
    · rw [Function.update_of_ne hx, if_neg (fun h => hx h.2), List.nil_append]

/-- One call does to the lists what it does to the map. -/
theorem routes_apply (t : RtTable) (m : RouteMap) (h : ∀ e, t.routes e = m e) (op : RtOp)
    (e : U32) : (op.apply t).routes e = op.applyMap m e := by
  cases op with
  | rt_add_route rb ea eb na nb path_id =>
      have hok : (t.rt_add_route rb RtAlloc.ok ea eb na nb path_id).1 = true :=
        rt_add_route_ok rb t.root ea eb na nb path_id
      rw [RtOp.apply, RtTable.routes_add rb _ t ea eb na nb path_id e hok, h e, RtOp.applyMap,
        RouteMap.add, push_apply, push_apply]
  | rt_remove_route ea path_id =>
      rw [RtOp.apply, RtTable.routes_remove, h e]
      simp only [RtOp.applyMap, RouteMap.remove]
      by_cases he : e = ea
      · subst he
        rw [if_pos rfl, Function.update_self]
      · rw [if_neg he, Function.update_of_ne he]

/-- Any sequence of calls builds the same lists on both sides. -/
theorem routes_foldl (ops : List RtOp) (t : RtTable) (m : RouteMap)
    (h : ∀ e, t.routes e = m e) (e : U32) :
    (ops.foldl RtOp.apply t).routes e = ops.foldl RtOp.applyMap m e := by
  induction ops generalizing t m with
  | nil => exact h e
  | cons op ops ih =>
      rw [List.foldl_cons, List.foldl_cons]
      exact ih (op.apply t) (op.applyMap m) (fun x => routes_apply t m h op x)

/-- A removal that finds nothing leaves the very tree it was given. -/
theorem rt_remove_route_none (t : RtTable) (ea path_id : U32)
    (h : (t.rt_remove_route ea path_id).1 = none) : (t.rt_remove_route ea path_id).2 = t := by
  have hroot : (rt_search_rmv t.root ea path_id).2 = t.root := by
    have hfst : (rt_search_rmv t.root ea path_id).1 = none := h
    rw [rt_search_rmv_eq] at hfst ⊢
    refine SearchTree.modify_eq_self t.root ea _ (fun routes hr => ?_)
    -- a list searched without result is put back as it was
    simp only [hr, Option.bind_some] at hfst
    unfold route_list_search_rmv at hfst ⊢
    cases hf : routes.find? (fun tmp => tmp.path_id == path_id) with
    | none => rfl
    | some tmp =>
        rw [hf] at hfst
        exact absurd hfst (Option.some_ne_none tmp)
  cases t with
  | mk root ordered filed =>
      simp only [RtTable.rt_remove_route, RtTable.mk.injEq]
      exact hroot

/-- Over every sequence of additions and removals from the empty table, with
    any balancing that keeps the in-order sequence: the endpoints of the tree
    strictly increase in order, its lists are those of the map, removal
    returns what the map's does and changes nothing when that is nothing, and
    the lookup of another node reads the first route with the maximal path
    id. -/
theorem rt_run_refines (ops : List RtOp) :
    (rt_run ops).root.Ordered ∧
    (∀ e, (rt_run ops).routes e = RouteMap.run ops e) ∧
    (∀ e path_id,
      ((rt_run ops).rt_remove_route e path_id).1 = ((RouteMap.run ops).remove e path_id).1 ∧
      (((rt_run ops).rt_remove_route e path_id).1 = none →
        ((rt_run ops).rt_remove_route e path_id).2 = rt_run ops)) ∧
    (∀ me dest, dest ≠ me →
      ((∀ r ∈ RouteMap.run ops dest, r.path_id = 0) →
        RtTable.rt_get_next me (rt_run ops) dest = 0) ∧
      ((∃ r ∈ RouteMap.run ops dest, r.path_id ≠ 0) →
        ∃ r, FirstMax (RouteMap.run ops dest) r ∧ (dest = r.ea ∨ dest = r.eb) ∧
          (dest = r.ea → r.ea ≠ r.eb → RtTable.rt_get_next me (rt_run ops) dest = r.na) ∧
          (dest = r.eb → RtTable.rt_get_next me (rt_run ops) dest = r.nb))) := by
  have hroutes : ∀ e, (rt_run ops).routes e = RouteMap.run ops e :=
    routes_foldl ops RtTable.empty RouteMap.empty (fun _ => rfl)
  refine ⟨(rt_run ops).ordered, hroutes, fun e path_id => ⟨?_, rt_remove_route_none _ e path_id⟩,
    fun me dest hme => ⟨fun hzero => ?_, fun hex => ?_⟩⟩
  · rw [RtTable.route_remove, hroutes, RouteMap.remove]
  · -- the loop never finds a path id above the zero it starts from
    rw [RtTable.rt_get_next_eq, if_neg hme, hroutes]
    exact route_list_search_of_zero me _ dest hzero
  · rcases hex with ⟨x, hx, hx0⟩
    rcases exists_firstMax _ (List.ne_nil_of_mem hx) with ⟨r, hr⟩
    -- the maximum is no smaller than the id that is not zero
    have hr0 : r.path_id ≠ 0 := by
      have hle := firstMax_ge _ r x hr hx
      bv_omega
    have hr' : FirstMax ((rt_run ops).routes dest) r := by
      rw [hroutes]
      exact hr
    have hend := ((rt_run ops).filed dest r (firstMax_mem _ r hr')).2
    rw [rt_get_next_of_firstMax me (rt_run ops) dest r hme hr' hr0, hop_towards]
    exact ⟨r, hr, hend, fun hea hne => if_neg (by rw [hea]; exact hne), fun heb => if_pos heb⟩

end AlpacaVrr
