import AlpacaVrr.Theory.RouteMap

/-!
# The Lookup That Leaves Out a Node

How `rt_get_next_exclude` compares with a lookup in the table without `src`.

The search descends towards `dest` as any other, and when it comes by `src` on
the way it stops and takes the routes of the node right above. Where `src` is
on the way depends on the shape of the tree. A node that the descent does not
meet is not left out at all, and need not be, for its routes are not read. The
root has nothing above it, so `src` is ignored there, also when it is `dest`.
Anywhere else the routes above lead somewhere, and they are searched for a hop
towards `dest`, of which they know nothing.

`RtTable.without` is the table that the search is meant to look at.

## Main definitions

* `RtTable.without`: The table without an endpoint and its routes.
* `ExcludesRightly`: The conditions on what the descent meets.

## Theorems

* `rt_get_next_without`: A lookup in the table without `src`.
* `rt_search_exclude_eq`: What the search does.
* `rt_get_next_exclude_iff`: When it leaves out `src` and nothing else.
-/

namespace AlpacaVrr

/-- The table without an endpoint and its routes. -/
def RtTable.without (t : RtTable) (src : U32) : RtTable where
  root := t.root.erase src
  ordered := SearchTree.ordered_erase t.root t.ordered src
  filed := by
    intro e r hr
    unfold rt_routes at hr
    rw [SearchTree.find?_erase t.root t.ordered] at hr
    split_ifs at hr
    · cases hr
    · exact t.filed e r hr

theorem routes_without (t : RtTable) (src e : U32) :
    (t.without src).routes e = if e = src then [] else t.routes e := by
  change ((t.root.erase src).find? e).getD [] = _
  rw [SearchTree.find?_erase t.root t.ordered]
  by_cases h : e = src
  · rw [if_pos h, if_pos h, Option.getD_none]
  · rw [if_neg h, if_neg h]
    rfl

/-- A lookup in the table without `src` finds no hop towards `src`, and every
    other hop. -/
theorem rt_get_next_without (me : U32) (t : RtTable) (dest src : U32) :
    RtTable.rt_get_next me (t.without src) dest =
      if dest = src then 0 else RtTable.rt_get_next me t dest := by
  rw [RtTable.rt_get_next_eq, RtTable.rt_get_next_eq, routes_without]
  by_cases h : dest = src
  · rw [if_pos h, if_pos h]
    split_ifs <;> rfl
  · rw [if_neg h, if_neg h]

section Search

variable (me dest src this : U32) (routes : List RtEntry) (l r : RtTree)

/-- At `src`, the search ends with the routes above. -/
theorem rt_search_exclude_at (above : List RtEntry) (hsrc : this = src) :
    rt_search_exclude me (.node l this routes r) (some above) dest src =
      route_list_search me above dest := by
  unfold rt_search_exclude
  simp only [decide_eq_true hsrc]

/-- The root has none above it. -/
theorem rt_search_exclude_root :
    rt_search_exclude me (.node l this routes r) none dest src =
      if dest < this then rt_search_exclude me l (some routes) dest src
      else if this < dest then rt_search_exclude me r (some routes) dest src
      else if this = me then 0
      else route_list_search me routes dest := by
  rw [rt_search_exclude]
  intro above _ h
  cases h

/-- Anywhere else it goes on. -/
theorem rt_search_exclude_past (prev : Option (List RtEntry)) (hsrc : this ≠ src) :
    rt_search_exclude me (.node l this routes r) prev dest src =
      if dest < this then rt_search_exclude me l (some routes) dest src
      else if this < dest then rt_search_exclude me r (some routes) dest src
      else if this = me then 0
      else route_list_search me routes dest := by
  rw [rt_search_exclude]
  intro above h _
  exact absurd h (by simp [hsrc])

/-- Below a node, the search stops at `src` with the routes above it. -/
theorem rt_search_exclude_below (root : RtTree) (prev : List RtEntry) :
    (∀ above, root.met (some prev) dest src = some (some above) →
      rt_search_exclude me root (some prev) dest src = route_list_search me above dest) ∧
    (root.met (some prev) dest src = none →
      rt_search_exclude me root (some prev) dest src = rt_search me root dest) ∧
    root.met (some prev) dest src ≠ some none := by
  induction root generalizing prev with
  | leaf =>
      refine ⟨fun above h => ?_, fun _ => rfl, fun h => ?_⟩
      · cases h
      · cases h
  | node l this routes r ihl ihr =>
      rw [SearchTree.met]
      by_cases hsrc : this = src
      · rw [if_pos hsrc, rt_search_exclude_at me dest src this routes l r prev hsrc]
        refine ⟨fun above h => ?_, fun h => ?_, fun h => ?_⟩
        · rw [Option.some.injEq, Option.some.injEq] at h
          rw [h]
        · cases h
        · cases h
      · rw [if_neg hsrc, rt_search_exclude_past me dest src this routes l r _ hsrc, rt_search]
        rcases lt_trichotomy dest this with h | h | h
        · simp only [if_pos h]
          exact ihl routes
        · simp only [h, lt_irrefl, if_false]
          refine ⟨fun above h => ?_, fun _ => trivial, fun h => ?_⟩
          · cases h
          · cases h
        · simp only [if_neg (not_lt_of_gt h), if_pos h]
          exact ihr routes

/-- From the root on, it stops at `src` unless that is the root. -/
theorem rt_search_exclude_eq (root : RtTree) (hord : root.Ordered) :
    (∀ above, root.met none dest src = some (some above) →
      rt_search_exclude me root none dest src = route_list_search me above dest) ∧
    ((∀ above, root.met none dest src ≠ some (some above)) →
      rt_search_exclude me root none dest src = rt_search me root dest) := by
  cases root with
  | leaf =>
      refine ⟨fun above h => ?_, fun _ => rfl⟩
      cases h
  | node l this routes r =>
      rcases (SearchTree.ordered_node_iff l this routes r).mp hord with ⟨-, -, hlk, hkr⟩
      have hl := rt_search_exclude_below me dest src l routes
      have hr := rt_search_exclude_below me dest src r routes
      -- below the root a routing list is always above, so `src` is met with one
      have hnone : ∀ {m : Option (Option (List RtEntry))}, m ≠ some none →
          (∀ above, m ≠ some (some above)) → m = none := by
        intro m h1 h2
        rcases m with _ | _ | above
        · rfl
        · exact absurd rfl h1
        · exact absurd rfl (h2 above)
      rw [SearchTree.met, rt_search_exclude_root, rt_search]
      by_cases hsrc : this = src
      · -- nothing is above the root, and it is nowhere else in the tree
        rw [if_pos hsrc,
          hl.2.1 (SearchTree.met_eq_none l _ _ _ (fun p hp => hsrc ▸ ne_of_lt (hlk p hp))),
          hr.2.1 (SearchTree.met_eq_none r _ _ _ (fun p hp => hsrc ▸ ne_of_gt (hkr p hp)))]
        refine ⟨fun above h => ?_, fun _ => ?_⟩
        · cases h
        · rcases lt_trichotomy dest this with h | h | h
          · simp only [if_pos h]
          · simp only [h, lt_irrefl, if_false]
          · simp only [if_neg (not_lt_of_gt h), if_pos h]
      · rw [if_neg hsrc]
        rcases lt_trichotomy dest this with h | h | h
        · simp only [if_pos h]
          exact ⟨hl.1, fun habove => hl.2.1 (hnone hl.2.2 habove)⟩
        · simp only [h, lt_irrefl, if_false]
          refine ⟨fun above h => ?_, fun _ => trivial⟩
          cases h
        · simp only [if_neg (not_lt_of_gt h), if_pos h]
          exact ⟨hr.1, fun habove => hr.2.1 (hnone hr.2.2 habove)⟩

end Search

/-- What the descent towards `dest` meets of `src` does no harm. Below a node,
    the routes of that node give the hop that is wanted. At the root, `src` is
    not itself the destination, or its routes give no hop. -/
structure ExcludesRightly (me : U32) (t : RtTable) (dest src : U32) : Prop where
  below : ∀ above, t.root.met none dest src = some (some above) →
    route_list_search me above dest = if dest = src then 0 else RtTable.rt_get_next me t dest
  root : t.root.met none dest src = some none →
    dest = src → dest = me ∨ route_list_search me (t.routes src) dest = 0

/-- The search gives the hop of the table without `src` exactly when what it
    meets does no harm. -/
theorem rt_get_next_exclude_iff (me : U32) (t : RtTable) (dest src : U32) :
    RtTable.rt_get_next_exclude me t dest src = RtTable.rt_get_next me (t.without src) dest ↔
      ExcludesRightly me t dest src := by
  obtain ⟨hbelow, hpast⟩ := rt_search_exclude_eq me dest src t.root t.ordered
  have hlookup : rt_search me t.root dest = RtTable.rt_get_next me t dest := rfl
  rw [rt_get_next_without]
  unfold RtTable.rt_get_next_exclude
  -- the descent misses `src`, or finds it at the root, or below a node
  rcases hmet : t.root.met none dest src with _ | _ | above
  · rw [hpast (fun above h => by rw [hmet] at h; cases h), hlookup]
    refine iff_of_true ?_ ⟨fun above h => ?_, fun h => ?_⟩
    · by_cases hsrc : dest = src
      · -- a destination that is not met is not there
        subst hsrc
        rw [if_pos rfl, ← hlookup, rt_search_eq, SearchTree.find?_eq_none_of_met _ none _ hmet]
      · rw [if_neg hsrc]
    · rw [hmet] at h
      cases h
    · rw [hmet] at h
      cases h
  · rw [hpast (fun above h => by rw [hmet] at h; cases h), hlookup]
    have hrightly : ExcludesRightly me t dest src ↔
        (dest = src → dest = me ∨ route_list_search me (t.routes src) dest = 0) := by
      refine ⟨fun h => h.root hmet, fun h => ⟨fun above ha => ?_, fun _ => h⟩⟩
      rw [hmet] at ha
      cases ha
    rw [hrightly]
    by_cases hsrc : dest = src
    · -- the root is searched like any other node
      subst hsrc
      rw [if_pos rfl, RtTable.rt_get_next_eq,
        imp_iff_right (rfl : dest = dest)]
      by_cases hme : dest = me
      · rw [if_pos hme]
        exact iff_of_true rfl (Or.inl hme)
      · rw [if_neg hme, or_iff_right hme]
    · rw [if_neg hsrc]
      exact iff_of_true rfl (fun h => absurd h hsrc)
  · rw [hbelow above hmet]
    constructor
    · intro h
      refine ⟨fun a ha => ?_, fun hroot => ?_⟩
      · rw [hmet, Option.some.injEq, Option.some.injEq] at ha
        rw [← ha]
        exact h
      · rw [hmet] at hroot
        cases hroot
    · intro h
      exact h.below above hmet

/-- The endpoint 2 below the endpoint 5: asked for a hop towards 2 that is not
    from 2, the search gives one from the routes of 5. -/
theorem exclusion_reads_above :
    ¬ ∀ (ops : List RtOp) (me dest src : U32),
      RtTable.rt_get_next_exclude me (rt_run ops) dest src =
        RtTable.rt_get_next me ((rt_run ops).without src) dest := by
  intro h
  have hsearch := h [.rt_add_route .none 5 0 7 8 9, .rt_add_route .none 2 0 3 4 1] 1 2 2
  exact absurd hsearch (by decide)

end AlpacaVrr
