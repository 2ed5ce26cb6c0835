import AlpacaVrr.Lib.SearchTree
import AlpacaVrr.Core.Ring

/-!
# The Routing Table

The red-black tree of route lists and the three descents into it.

A route is stored twice, once under each endpoint. The tree holds one node per
endpoint that was ever used, with the list of routes filed there, newest
first. A node stays when its list runs empty. `rt_search`, `rt_search_rmv` and
`rt_descend` are separate descents in the source and separate recursions here.

The kernel's `rb_insert_color` is not part of the repository. It is the
parameter `rb`, known only to keep the in-order sequence. `rt_add_route` makes
up to four allocations, and `RtAlloc` says how each of them turns out.

`path_id` is declared `int`. It is assigned from a `u32` and compared with
`u32` values only, so it is the 32-bit word that those comparisons see.

`RtTable` bundles a tree with the two facts every table built by these
functions has: the endpoints increase in order, and a route is filed only
under a non-zero endpoint of its own.

## Main definitions

* `RtEntry`, `RtTree`: A route, and the tree of route lists.
* `route_list_search`, `route_list_search_rmv`: Search within one list.
* `rt_search`, `rt_search_rmv`, `rt_search_exclude`: The descents that read.
* `rt_find_insert_node`, `rt_add_route`: Insertion.
* `RtTable`: A well-formed table, with the operations on it.

## Theorems

* `rt_search_eq`: The search descends to the list filed under its argument.
* `rt_search_rmv_eq`: Removal edits that list and nothing else.
* `routes_rt_add_route`: Adding a route extends the lists of its endpoints.
* `sublist_rt_add_route`: Or some of them, when it fails.
* `routes_rt_search_rmv`, `route_rt_search_rmv`: What removal drops and
  returns.
-/

namespace AlpacaVrr

/-- A route `<ea, eb, na, nb, path_id>`. -/
structure RtEntry where
  ea : U32
  eb : U32
  na : U32
  nb : U32
  path_id : U32
  deriving DecidableEq

/-- The tree of `rt_node`s, each with its endpoint and its routes. -/
abbrev RtTree := SearchTree U32 (List RtEntry)

/-- `rb_insert_color` after `rb_link_node`. -/
abbrev RbInsertColor := SearchTree.Rebalance U32 (List RtEntry)

/-- The first entry whose path id exceeds the maximum found so far, all the
    way down the list. -/
def max_entry : Option RtEntry → U32 → List RtEntry → Option RtEntry
  | best, _, [] => best
  | best, max_path, tmp :: rest =>
      if max_path < tmp.path_id then max_entry (some tmp) tmp.path_id rest
      else max_entry best max_path rest

/-- The hop towards the endpoint, taken from the route with the highest path
    id. -/
def route_list_search (me : U32) (r_list : List RtEntry) (endpoint : U32) : U32 :=
  match max_entry none 0 r_list with
  | none => 0
  | some e =>
      if get_diff endpoint e.ea < get_diff endpoint e.eb then
        if e.ea ≠ me then e.na else e.nb
      else
        if e.eb ≠ me then e.nb else e.na

def rt_search (me : U32) : RtTree → U32 → U32
  | .leaf, _ => 0
  | .node l this routes r, endpoint =>
      if endpoint < this then rt_search me l endpoint
      else if this < endpoint then rt_search me r endpoint
      -- only the endpoint itself is found, not the closest one
      else if this = me then 0
      else route_list_search me routes endpoint

/-- The search that avoids `src`. `prev` holds the routes of the node visited
    before this one. -/
def rt_search_exclude (me : U32) : RtTree → Option (List RtEntry) → U32 → U32 → U32
  | .leaf, _, _, _ => 0
  | .node l this routes r, prev, endpoint, src =>
      match decide (this = src), prev with
      -- at `src` the search ends with the routes of the node above it
      | true, some prev_routes => route_list_search me prev_routes endpoint
      | _, _ =>
          if endpoint < this then rt_search_exclude me l (some routes) endpoint src
          else if this < endpoint then rt_search_exclude me r (some routes) endpoint src
          else if this = me then 0
          else route_list_search me routes endpoint

/-- `list_del` of the first route with the path id, and that route. -/
def route_list_search_rmv (r_list : List RtEntry) (path_id : U32) :
    Option RtEntry × List RtEntry :=
  match r_list.find? (fun tmp => tmp.path_id == path_id) with
  | some tmp => (some tmp, r_list.eraseP (fun tmp => tmp.path_id == path_id))
  | none => (none, r_list)

def rt_search_rmv : RtTree → U32 → U32 → Option RtEntry × RtTree
  | .leaf, _, _ => (none, .leaf)
  | .node l this routes r, endpoint, path_id =>
      if endpoint < this then
        let (route, l) := rt_search_rmv l endpoint path_id
        (route, .node l this routes r)
      else if this < endpoint then
        let (route, r) := rt_search_rmv r endpoint path_id
        (route, .node l this routes r)
      else
        let (route, routes) := route_list_search_rmv routes path_id
        (route, .node l this routes r)

/-- The descent of `rt_find_insert_node`: `none` when the endpoint has a node,
    and otherwise the tree with an empty one linked where the descent ended. -/
def rt_descend : RtTree → U32 → Option RtTree
  | .leaf, endpoint => some (.node .leaf endpoint [] .leaf)
  | .node l this routes r, endpoint =>
      if endpoint < this then (rt_descend l endpoint).map (fun l => .node l this routes r)
      else if this < endpoint then (rt_descend r endpoint).map (fun r => .node l this routes r)
      else none

/-- The tree with a node for the endpoint, or `none` without memory for one. -/
def rt_find_insert_node (rb : RbInsertColor) (node_ok : Bool) (root : RtTree) (endpoint : U32) :
    Option RtTree :=
  match rt_descend root endpoint with
  | none => some root
  | some linked => if node_ok then some (rb.run linked) else none

/-- The outcomes of the allocations in one `rt_add_route` call. -/
structure RtAlloc where
  ea_node : Bool
  ea_route : Bool
  eb_node : Bool
  eb_route : Bool

/-- All four allocations succeed. -/
def RtAlloc.ok : RtAlloc := ⟨true, true, true, true⟩

/-- The block of `rt_add_route` guarded by `if (ea)` or `if (eb)`: find or
    insert the node of the endpoint and put the route at the head of its
    list. -/
def rt_file (rb : RbInsertColor) (node_ok route_ok : Bool) (root : RtTree) (endpoint : U32)
    (route : RtEntry) : Bool × RtTree :=
  if endpoint = 0 then (true, root)
  else match rt_find_insert_node rb node_ok root endpoint with
    | none => (false, root)
    | some root =>
        if route_ok then (true, root.modify endpoint (fun routes => route :: routes))
        -- the node that was linked for it stays
        else (false, root)

def rt_add_route (rb : RbInsertColor) (alloc : RtAlloc) (root : RtTree)
    (ea eb na nb path_id : U32) : Bool × RtTree :=
  match rt_file rb alloc.ea_node alloc.ea_route root ea ⟨ea, eb, na, nb, path_id⟩ with
  -- when the second block fails, the first one is not undone
  | (true, root) => rt_file rb alloc.eb_node alloc.eb_route root eb ⟨ea, eb, na, nb, path_id⟩
  | (false, root) => (false, root)

/-- The routes filed under an endpoint. -/
def rt_routes (root : RtTree) (endpoint : U32) : List RtEntry := (root.find? endpoint).getD []

theorem rt_search_eq (me : U32) (root : RtTree) (endpoint : U32) :
    rt_search me root endpoint = match root.find? endpoint with
      | none => 0
      | some routes => if endpoint = me then 0 else route_list_search me routes endpoint := by
  induction root with
  | leaf => rfl
  | node l this routes r ihl ihr =>
      rw [rt_search, SearchTree.find?]
      -- both descents turn the same way, and stop at the same node
      rcases lt_trichotomy endpoint this with h | h | h
      · rw [if_pos h, if_pos h, ihl]
      · subst h
        simp only [lt_irrefl, if_false]
      · rw [if_neg (not_lt_of_gt h), if_pos h, if_neg (not_lt_of_gt h), if_pos h, ihr]

theorem rt_search_rmv_eq (root : RtTree) (endpoint path_id : U32) :
    rt_search_rmv root endpoint path_id =
      (((root.find? endpoint).bind fun routes => (route_list_search_rmv routes path_id).1),
        root.modify endpoint (fun routes => (route_list_search_rmv routes path_id).2)) := by
  induction root with
  | leaf => rfl
  | node l this routes r ihl ihr =>
      rw [rt_search_rmv, SearchTree.find?, SearchTree.modify]
      rcases lt_trichotomy endpoint this with h | h | h
      · rw [if_pos h, if_pos h, if_pos h, ihl]
      · subst h
        simp only [lt_irrefl, if_false, Option.bind_some]
      · rw [if_neg (not_lt_of_gt h), if_pos h, if_neg (not_lt_of_gt h), if_pos h,
          if_neg (not_lt_of_gt h), if_pos h, ihr]

theorem rt_descend_eq_link (root : RtTree) (endpoint : U32) :
    rt_descend root endpoint = root.link endpoint [] := by
  induction root with
  | leaf => rfl
  | node l this routes r ihl ihr => rw [rt_descend, SearchTree.link, ihl, ihr]

section Insert

variable (rb : RbInsertColor) (root root' : RtTree) (hord : root.Ordered)

include hord

/-- Finding or inserting a node keeps the order and shows at most as an empty
    list under the endpoint. -/
theorem rt_find_insert_node_spec (node_ok : Bool) (endpoint : U32)
    (h : rt_find_insert_node rb node_ok root endpoint = some root') :
    root'.Ordered ∧ ∀ e, root'.find? e =
      if e = endpoint then some ((root.find? endpoint).getD []) else root.find? e := by
  unfold rt_find_insert_node at h
  rw [rt_descend_eq_link] at h
  cases hl : root.link endpoint [] with
  | none =>
      -- the node exists: the tree is the one before
      rw [hl] at h
      simp only [Option.some.injEq] at h
      subst h
      refine ⟨hord, fun e => ?_⟩
      rcases Option.isSome_iff_exists.mp ((SearchTree.link_eq_none_iff root endpoint []).mp hl)
        with ⟨routes, hr⟩
      by_cases he : e = endpoint
      · rw [if_pos he, he, hr, Option.getD_some]
      · rw [if_neg he]
  | some linked =>
      rw [hl] at h
      have hlink := SearchTree.ordered_link root linked hord endpoint [] hl
      have habs : root.find? endpoint = none := by
        rw [← Option.not_isSome_iff_eq_none, ← SearchTree.link_eq_none_iff root endpoint []]
        rw [hl]
        exact Option.some_ne_none linked
      cases node_ok with
      | false => simp only [Bool.false_eq_true, if_false, reduceCtorEq] at h
      | true =>
          simp only [if_true, Option.some.injEq] at h
          subst h
          refine ⟨rb.ordered_run linked hlink, fun e => ?_⟩
          rw [rb.find?_run linked hlink, SearchTree.find?_link root linked endpoint e [] hl, habs,
            Option.getD_none]

/-- Filing keeps the order, whatever becomes of its allocations. -/
theorem ordered_rt_file (node_ok route_ok : Bool) (endpoint : U32) (route : RtEntry) :
    (rt_file rb node_ok route_ok root endpoint route).2.Ordered := by
  unfold rt_file
  by_cases h0 : endpoint = 0
  · rw [if_pos h0]
    exact hord
  rw [if_neg h0]
  cases hf : rt_find_insert_node rb node_ok root endpoint with
  | none => exact hord
  | some root' =>
      have hspec := rt_find_insert_node_spec rb root root' hord node_ok endpoint hf
      cases route_ok with
      | false => exact hspec.1
      | true => exact SearchTree.ordered_modify root' hspec.1 endpoint _

/-- Filing a route extends one list at its head, and a filing that fails
    leaves every list as it was. -/
theorem routes_rt_file (node_ok route_ok : Bool) (endpoint : U32) (route : RtEntry) (e : U32) :
    rt_routes (rt_file rb node_ok route_ok root endpoint route).2 e =
      (if (rt_file rb node_ok route_ok root endpoint route).1 ∧ endpoint ≠ 0 ∧ e = endpoint
        then [route] else []) ++ rt_routes root e := by
  unfold rt_file rt_routes
  by_cases h0 : endpoint = 0
  · simp only [h0, if_true, ne_eq, not_true_eq_false, false_and, and_false, if_false,
      List.nil_append]
  rw [if_neg h0]
  cases hf : rt_find_insert_node rb node_ok root endpoint with
  | none => simp only [Bool.false_eq_true, false_and, if_false, List.nil_append]
  | some root' =>
      have hspec := rt_find_insert_node_spec rb root root' hord node_ok endpoint hf
      cases route_ok with
      | false =>
          simp only [Bool.false_eq_true, if_false, false_and, hspec.2, List.nil_append]
          by_cases he : e = endpoint
          · rw [if_pos he, Option.getD_some, he]
          · rw [if_neg he]
      | true =>
          simp only [if_true, true_and, SearchTree.find?_modify, hspec.2]
          by_cases he : e = endpoint
          · simp only [he, h0, ne_eq, not_false_eq_true, and_self, if_true, Option.map_some,
              Option.getD_some, List.cons_append, List.nil_append]
          · simp only [he, and_false, if_false, List.nil_append]

/-- Every return of `rt_add_route` leaves an ordered tree. -/
theorem ordered_rt_add_route (alloc : RtAlloc) (ea eb na nb path_id : U32) :
    (rt_add_route rb alloc root ea eb na nb path_id).2.Ordered := by
  unfold rt_add_route
  have hord1 := ordered_rt_file rb root hord alloc.ea_node alloc.ea_route ea
    ⟨ea, eb, na, nb, path_id⟩
  generalize rt_file rb alloc.ea_node alloc.ea_route root ea ⟨ea, eb, na, nb, path_id⟩ = f1
    at hord1 ⊢
  rcases f1 with ⟨ok1, root1⟩
  -- the second block runs only when the first one succeeded
  cases ok1 with
  | false => exact hord1
  | true => exact ordered_rt_file rb root1 hord1 _ _ _ _

/-- A successful `rt_add_route` puts the route at the head of the list of
    each endpoint that is not zero, first `ea`'s and then `eb`'s. -/
theorem routes_rt_add_route (alloc : RtAlloc) (ea eb na nb path_id e : U32)
    (hok : (rt_add_route rb alloc root ea eb na nb path_id).1 = true) :
    rt_routes (rt_add_route rb alloc root ea eb na nb path_id).2 e =
      (if eb ≠ 0 ∧ e = eb then [⟨ea, eb, na, nb, path_id⟩] else []) ++
      ((if ea ≠ 0 ∧ e = ea then [⟨ea, eb, na, nb, path_id⟩] else []) ++ rt_routes root e) := by
  unfold rt_add_route at hok ⊢
  have hord1 := ordered_rt_file rb root hord alloc.ea_node alloc.ea_route ea
    ⟨ea, eb, na, nb, path_id⟩
  have hfile1 := routes_rt_file rb root hord alloc.ea_node alloc.ea_route ea
    ⟨ea, eb, na, nb, path_id⟩ e
  generalize rt_file rb alloc.ea_node alloc.ea_route root ea ⟨ea, eb, na, nb, path_id⟩ = f1
    at hok hord1 hfile1 ⊢
  rcases f1 with ⟨ok1, root1⟩
  cases ok1 with
  | false => exact absurd hok Bool.false_ne_true
  | true =>
      simp only [true_and] at hok hord1 hfile1 ⊢
      rw [routes_rt_file rb root1 hord1, hfile1, hok]
      simp only [true_and]

/-- Whatever its allocations do, `rt_add_route` files nothing but its route,
    and that only under a non-zero endpoint of it. -/
theorem mem_routes_rt_add_route (alloc : RtAlloc) (ea eb na nb path_id e : U32) (r : RtEntry)
    (hr : r ∈ rt_routes (rt_add_route rb alloc root ea eb na nb path_id).2 e) :
    r ∈ rt_routes root e ∨
      (r = ⟨ea, eb, na, nb, path_id⟩ ∧ e ≠ 0 ∧ (e = ea ∨ e = eb)) := by
  -- one block files the route under its endpoint or does nothing visible
  have hblock : ∀ t : RtTree, t.Ordered → ∀ (n ok : Bool) (endpoint : U32),
      r ∈ rt_routes (rt_file rb n ok t endpoint ⟨ea, eb, na, nb, path_id⟩).2 e →
      r ∈ rt_routes t e ∨ (r = ⟨ea, eb, na, nb, path_id⟩ ∧ e ≠ 0 ∧ e = endpoint) := by
    intro t ht n ok endpoint hmem
    rw [routes_rt_file rb t ht, List.mem_append] at hmem
    rcases hmem with hmem | hmem
    · split_ifs at hmem with hc
      · exact Or.inr ⟨List.mem_singleton.mp hmem, by rw [hc.2.2]; exact hc.2.1, hc.2.2⟩
      · exact absurd hmem List.not_mem_nil
    · exact Or.inl hmem
  unfold rt_add_route at hr
  have hord1 := ordered_rt_file rb root hord alloc.ea_node alloc.ea_route ea
    ⟨ea, eb, na, nb, path_id⟩
  have hfst := hblock root hord alloc.ea_node alloc.ea_route ea
  generalize rt_file rb alloc.ea_node alloc.ea_route root ea ⟨ea, eb, na, nb, path_id⟩ = f1
    at hord1 hfst hr
  rcases f1 with ⟨ok1, root1⟩
  have hea : r ∈ rt_routes root1 e → r ∈ rt_routes root e ∨
      (r = ⟨ea, eb, na, nb, path_id⟩ ∧ e ≠ 0 ∧ (e = ea ∨ e = eb)) := by
    intro hmem
    rcases hfst hmem with h | ⟨h, he0, he⟩
    · exact Or.inl h
    · exact Or.inr ⟨h, he0, Or.inl he⟩
  cases ok1 with
  | false => exact hea hr
  | true =>
      rcases hblock root1 hord1 _ _ _ hr with h | ⟨h, he0, he⟩
      · exact hea h
      · exact Or.inr ⟨h, he0, Or.inr he⟩

/-- Whatever its allocations do, `rt_add_route` puts at most its route at the
    head of the list of either endpoint. -/
theorem sublist_rt_add_route (alloc : RtAlloc) (ea eb na nb path_id e : U32) :
    (rt_routes (rt_add_route rb alloc root ea eb na nb path_id).2 e).Sublist
      ((if eb ≠ 0 ∧ e = eb then [⟨ea, eb, na, nb, path_id⟩] else []) ++
      ((if ea ≠ 0 ∧ e = ea then [⟨ea, eb, na, nb, path_id⟩] else []) ++ rt_routes root e)) := by
  have hblock : ∀ t : RtTree, t.Ordered → ∀ (n ok : Bool) (endpoint : U32),
      (rt_routes (rt_file rb n ok t endpoint ⟨ea, eb, na, nb, path_id⟩).2 e).Sublist
        ((if endpoint ≠ 0 ∧ e = endpoint then [⟨ea, eb, na, nb, path_id⟩] else []) ++
          rt_routes t e) := by
    intro t ht n ok endpoint
    rw [routes_rt_file rb t ht]
    refine List.Sublist.append ?_ (List.Sublist.refl _)
    split_ifs with hc hc'
    · exact List.Sublist.refl _
    · exact absurd hc.2 hc'
    · exact List.nil_sublist _
    · exact List.Sublist.refl _
  unfold rt_add_route
  have hord1 := ordered_rt_file rb root hord alloc.ea_node alloc.ea_route ea
    ⟨ea, eb, na, nb, path_id⟩
  have hfst := hblock root hord alloc.ea_node alloc.ea_route ea
  generalize rt_file rb alloc.ea_node alloc.ea_route root ea ⟨ea, eb, na, nb, path_id⟩ = f1
    at hord1 hfst ⊢
  rcases f1 with ⟨ok1, root1⟩
  cases ok1 with
  | false => exact hfst.trans (List.sublist_append_right _ _)
  | true =>
      exact (hblock root1 hord1 _ _ _).trans (List.Sublist.append (List.Sublist.refl _) hfst)

end Insert

theorem rt_file_ok (rb : RbInsertColor) (root : RtTree) (endpoint : U32) (route : RtEntry) :
    (rt_file rb true true root endpoint route).1 = true := by
  unfold rt_file rt_find_insert_node
  by_cases h0 : endpoint = 0
  · rw [if_pos h0]
  · rw [if_neg h0]
    cases rt_descend root endpoint <;> rfl

theorem rt_add_route_ok (rb : RbInsertColor) (root : RtTree) (ea eb na nb path_id : U32) :
    (rt_add_route rb RtAlloc.ok root ea eb na nb path_id).1 = true := by
  unfold rt_add_route RtAlloc.ok
  have hfst := rt_file_ok rb root ea ⟨ea, eb, na, nb, path_id⟩
  generalize rt_file rb true true root ea ⟨ea, eb, na, nb, path_id⟩ = f1 at hfst ⊢
  rcases f1 with ⟨ok1, root1⟩
  simp only at hfst
  subst hfst
  exact rt_file_ok rb root1 eb ⟨ea, eb, na, nb, path_id⟩

/-- Removal drops the first route with the path id from the list of the
    endpoint. -/
theorem routes_rt_search_rmv (root : RtTree) (endpoint path_id e : U32) :
    rt_routes (rt_search_rmv root endpoint path_id).2 e =
      if e = endpoint then (rt_routes root e).eraseP (fun tmp => tmp.path_id == path_id)
      else rt_routes root e := by
  have hrmv : ∀ routes, (route_list_search_rmv routes path_id).2 =
      routes.eraseP (fun tmp => tmp.path_id == path_id) := by
    intro routes
    unfold route_list_search_rmv
    cases hf : routes.find? (fun tmp => tmp.path_id == path_id) with
    | some tmp => rfl
    | none =>
        refine (List.eraseP_of_forall_not (fun a ha hp => ?_)).symm
        exact List.find?_eq_none.mp hf a ha hp
  unfold rt_routes
  rw [rt_search_rmv_eq, SearchTree.find?_modify]
  by_cases he : e = endpoint
  · rw [if_pos he, if_pos he, he]
    cases root.find? endpoint with
    | none => rfl
    | some routes => rw [Option.map_some, Option.getD_some, Option.getD_some, hrmv]
  · rw [if_neg he, if_neg he]

/-- Removal returns that route. -/
theorem route_rt_search_rmv (root : RtTree) (endpoint path_id : U32) :
    (rt_search_rmv root endpoint path_id).1 =
      (rt_routes root endpoint).find? (fun tmp => tmp.path_id == path_id) := by
  unfold rt_routes
  rw [rt_search_rmv_eq]
  cases root.find? endpoint with
  | none => rfl
  | some routes =>
      simp only [Option.bind_some, Option.getD_some, route_list_search_rmv]
      cases routes.find? (fun tmp => tmp.path_id == path_id) <;> rfl

theorem ordered_rt_search_rmv (root : RtTree) (hord : root.Ordered) (endpoint path_id : U32) :
    (rt_search_rmv root endpoint path_id).2.Ordered := by
  rw [rt_search_rmv_eq]
  exact SearchTree.ordered_modify root hord endpoint _

/-- A table built by the functions above: the endpoints increase in order, and
    a route is filed under its own non-zero endpoints only. -/
structure RtTable where
  root : RtTree
  ordered : root.Ordered
  filed : ∀ e, ∀ r ∈ rt_routes root e, e ≠ 0 ∧ (e = r.ea ∨ e = r.eb)

namespace RtTable

/-- The table as `vrr_data_init` leaves it. -/
def empty : RtTable :=
  ⟨.leaf, SearchTree.ordered_leaf, fun _ _ hr => absurd hr List.not_mem_nil⟩

def routes (t : RtTable) (endpoint : U32) : List RtEntry := rt_routes t.root endpoint

def rt_add_route (rb : RbInsertColor) (alloc : RtAlloc) (t : RtTable)
    (ea eb na nb path_id : U32) : Bool × RtTable :=
  ((AlpacaVrr.rt_add_route rb alloc t.root ea eb na nb path_id).1,
    ⟨(AlpacaVrr.rt_add_route rb alloc t.root ea eb na nb path_id).2,
      ordered_rt_add_route rb t.root t.ordered alloc ea eb na nb path_id, by
      intro e r hr
      rcases mem_routes_rt_add_route rb t.root t.ordered alloc ea eb na nb path_id e r hr with
        h | ⟨h, he0, he⟩
      · exact t.filed e r h
      · rw [h]
        exact ⟨he0, he⟩⟩)

def rt_remove_route (t : RtTable) (ea path_id : U32) : Option RtEntry × RtTable :=
  ((rt_search_rmv t.root ea path_id).1,
    ⟨(rt_search_rmv t.root ea path_id).2, ordered_rt_search_rmv t.root t.ordered ea path_id, by
      intro e r hr
      rw [routes_rt_search_rmv] at hr
      split_ifs at hr
      · exact t.filed e r (List.mem_of_mem_eraseP hr)
      · exact t.filed e r hr⟩)

def rt_get_next (me : U32) (t : RtTable) (dest : U32) : U32 := rt_search me t.root dest

def rt_get_next_exclude (me : U32) (t : RtTable) (dest src : U32) : U32 :=
  rt_search_exclude me t.root none dest src

theorem rt_get_next_eq (me : U32) (t : RtTable) (dest : U32) :
    rt_get_next me t dest =
      if dest = me then 0 else route_list_search me (t.routes dest) dest := by
  unfold rt_get_next routes rt_routes
  rw [rt_search_eq]
  cases t.root.find? dest with
  | none =>
      simp only [Option.getD_none]
      split_ifs <;> rfl
  | some routes => rfl

theorem mem_routes_add (rb : RbInsertColor) (alloc : RtAlloc) (t : RtTable)
    (ea eb na nb path_id e : U32) (r : RtEntry)
    (hr : r ∈ (t.rt_add_route rb alloc ea eb na nb path_id).2.routes e) :
    r ∈ t.routes e ∨ r = ⟨ea, eb, na, nb, path_id⟩ := by
  rcases mem_routes_rt_add_route rb t.root t.ordered alloc ea eb na nb path_id e r hr with h | h
  · exact Or.inl h
  · exact Or.inr h.1

theorem routes_add (rb : RbInsertColor) (alloc : RtAlloc) (t : RtTable)
    (ea eb na nb path_id e : U32) (hok : (t.rt_add_route rb alloc ea eb na nb path_id).1 = true) :
    (t.rt_add_route rb alloc ea eb na nb path_id).2.routes e =
      (if eb ≠ 0 ∧ e = eb then [⟨ea, eb, na, nb, path_id⟩] else []) ++
      ((if ea ≠ 0 ∧ e = ea then [⟨ea, eb, na, nb, path_id⟩] else []) ++ t.routes e) :=
  routes_rt_add_route rb t.root t.ordered alloc ea eb na nb path_id e hok

theorem sublist_routes_add (rb : RbInsertColor) (alloc : RtAlloc) (t : RtTable)
    (ea eb na nb path_id e : U32) :
    ((t.rt_add_route rb alloc ea eb na nb path_id).2.routes e).Sublist
      ((if eb ≠ 0 ∧ e = eb then [⟨ea, eb, na, nb, path_id⟩] else []) ++
      ((if ea ≠ 0 ∧ e = ea then [⟨ea, eb, na, nb, path_id⟩] else []) ++ t.routes e)) :=
  sublist_rt_add_route rb t.root t.ordered alloc ea eb na nb path_id e

theorem routes_remove (t : RtTable) (ea path_id e : U32) :
    (t.rt_remove_route ea path_id).2.routes e =
      if e = ea then (t.routes e).eraseP (fun tmp => tmp.path_id == path_id) else t.routes e :=
  routes_rt_search_rmv t.root ea path_id e

theorem route_remove (t : RtTable) (ea path_id : U32) :
    (t.rt_remove_route ea path_id).1 =
      (t.routes ea).find? (fun tmp => tmp.path_id == path_id) :=
  route_rt_search_rmv t.root ea path_id

theorem mem_routes_remove (t : RtTable) (ea path_id e : U32) (r : RtEntry)
    (hr : r ∈ (t.rt_remove_route ea path_id).2.routes e) : r ∈ t.routes e := by
  rw [routes_remove] at hr
  split_ifs at hr
  · exact List.mem_of_mem_eraseP hr
  · exact hr

/-- A removal takes one route with the path id away. -/
theorem path_routes_remove (t : RtTable) (ea path_id : U32) :
    ((t.rt_remove_route ea path_id).2.routes ea).filter (fun tmp => tmp.path_id == path_id) =
      ((t.routes ea).filter (fun tmp => tmp.path_id == path_id)).tail := by
  have hpair : (fun tmp : RtEntry => tmp.path_id == path_id && tmp.path_id == path_id) =
      (fun tmp => tmp.path_id == path_id) := funext (fun _ => Bool.and_self _)
  have herase := List.eraseP_filter (p := fun tmp : RtEntry => tmp.path_id == path_id)
    (f := fun tmp => tmp.path_id == path_id) (l := t.routes ea)
  rw [hpair] at herase
  -- what is erased is the head of the filtered list
  rw [routes_remove, if_pos rfl, ← herase]
  cases hfilter : (t.routes ea).filter (fun tmp => tmp.path_id == path_id) with
  | nil => rfl
  | cons route rest =>
      have hmem : route ∈ (t.routes ea).filter (fun tmp => tmp.path_id == path_id) := by
        rw [hfilter]
        exact List.mem_cons_self
      have hpath := (List.mem_filter.mp hmem).2
      exact List.eraseP_cons_of_pos hpath

/-- A table is its tree. -/
theorem ext_root (t t' : RtTable) (h : t.root = t'.root) : t = t' := by
  cases t with
  | mk root ordered filed =>
      cases t' with
      | mk root' ordered' filed' =>
          subst h
          rfl

/-- A successful addition leaves the table as it was only when the route has
    no endpoint to be filed under. -/
theorem rt_add_route_eq_iff (rb : RbInsertColor) (alloc : RtAlloc) (t : RtTable)
    (ea eb na nb path_id : U32) (hok : (t.rt_add_route rb alloc ea eb na nb path_id).1 = true) :
    (t.rt_add_route rb alloc ea eb na nb path_id).2 = t ↔ ea = 0 ∧ eb = 0 := by
  constructor
  · intro h
    -- a list that gained the route is longer
    have hlen : ∀ e, ((if eb ≠ 0 ∧ e = eb then [RtEntry.mk ea eb na nb path_id] else []) ++
        (if ea ≠ 0 ∧ e = ea then [RtEntry.mk ea eb na nb path_id] else [])).length = 0 := by
      intro e
      have hroutes := congrArg List.length (routes_add rb alloc t ea eb na nb path_id e hok)
      rw [h, List.length_append, List.length_append] at hroutes
      rw [List.length_append]
      omega
    constructor
    · by_contra hea
      have hlen' := hlen ea
      rw [List.length_append, if_pos (⟨hea, rfl⟩ : ea ≠ 0 ∧ ea = ea),
        List.length_singleton] at hlen'
      omega
    · by_contra heb
      have hlen' := hlen eb
      rw [List.length_append, if_pos (⟨heb, rfl⟩ : eb ≠ 0 ∧ eb = eb),
        List.length_singleton] at hlen'
      omega
  · rintro ⟨rfl, rfl⟩
    exact ext_root _ _ rfl

/-- A removal that finds its route changes the table. -/
theorem rt_remove_route_ne (t : RtTable) (ea path_id : U32) (route : RtEntry)
    (h : (t.rt_remove_route ea path_id).1 = some route) : (t.rt_remove_route ea path_id).2 ≠ t := by
  intro heq
  have hroutes := congrArg List.length (routes_remove t ea path_id ea)
  rw [route_remove] at h
  -- the list under `ea` has lost an element
  have hlen := List.length_eraseP_of_mem (List.mem_of_find?_eq_some h) (List.find?_some h)
  have hpos := List.length_pos_of_mem (List.mem_of_find?_eq_some h)
  rw [heq, if_pos rfl, hlen] at hroutes
  omega

end RtTable

end AlpacaVrr
