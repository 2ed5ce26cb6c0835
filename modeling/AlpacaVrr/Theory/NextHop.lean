import AlpacaVrr.Theory.RouteMap

/-!
# The Next Hop and the Closest Endpoint

How far `rt_get_next` is from the greedy rule it stands for.

Routing on the virtual ring is greedy: a packet goes towards whichever known
endpoint is closest to its destination, and has arrived when that is the node
itself. `Greedy` is that rule. `rt_search` instead descends to the node of the
tree whose endpoint *equals* the destination, and reports no route when there
is none.

The two agree in two cases, and `greedy_iff` says that there is no third. If
the destination is an endpoint of the table it is its own closest endpoint. If
it is not, the search finds nothing, which is the right answer exactly when no
endpoint is closer than the node itself.

## Main definitions

* `Endpoints`: The endpoints that some route in the table has.
* `Closest`: An endpoint at minimal distance from a destination.
* `Greedy`: The lookup follows the greedy rule for a destination.

## Theorems

* `closest_self`: An endpoint is closest to itself.
* `greedy_of_endpoint`: The rule holds for destinations in the table.
* `greedy_iff`: Exactly when the lookup follows the rule.
* `not_greedy_absent`: A table and a destination for which it does not.
-/

namespace AlpacaVrr

/-- The endpoints of the routes in a table. -/
def Endpoints (t : RtTable) : Set U32 := {e | t.routes e ≠ []}

/-- An endpoint of the table no other is closer than. -/
def Closest (t : RtTable) (dest e : U32) : Prop :=
  e ∈ Endpoints t ∧ ∀ e' ∈ Endpoints t, get_diff e dest ≤ get_diff e' dest

/-- The lookup goes towards a closest endpoint, and is zero exactly when that
    is the node itself. -/
def Greedy (me : U32) (t : RtTable) (dest : U32) : Prop :=
  ∃ e, Closest t dest e ∧ (RtTable.rt_get_next me t dest = 0 ↔ e = me) ∧
    (e ≠ me → ∃ r ∈ t.routes e, RtTable.rt_get_next me t dest = hop_towards r e)

/-- Every route of the table has a path id and two hops. -/
def AllNonZero (t : RtTable) : Prop :=
  ∀ e, ∀ r ∈ t.routes e, r.path_id ≠ 0 ∧ r.na ≠ 0 ∧ r.nb ≠ 0

theorem closest_self (t : RtTable) (dest : U32) (h : dest ∈ Endpoints t) : Closest t dest dest := by
  refine ⟨h, fun e' _ => ?_⟩
  rw [get_diff_self]
  bv_omega

theorem hop_towards_ne_zero (t : RtTable) (hnz : AllNonZero t) (e : U32) (r : RtEntry)
    (hr : r ∈ t.routes e) : hop_towards r e ≠ 0 := by
  unfold hop_towards
  split_ifs
  · exact (hnz e r hr).2.2
  · exact (hnz e r hr).2.1

/-- Without routes filed under it, a destination is not found. -/
theorem rt_get_next_absent (me : U32) (t : RtTable) (dest : U32) (h : dest ∉ Endpoints t) :
    RtTable.rt_get_next me t dest = 0 := by
  have hnil : t.routes dest = [] := not_not.mp h
  rw [RtTable.rt_get_next_eq, hnil]
  split_ifs <;> rfl

/-- The rule holds for a destination that is an endpoint of the table. -/
theorem greedy_of_endpoint (me : U32) (t : RtTable) (hnz : AllNonZero t) (dest : U32)
    (h : dest ∈ Endpoints t) : Greedy me t dest := by
  refine ⟨dest, closest_self t dest h, ?_⟩
  -- the endpoint is the destination itself, at distance zero
  by_cases hme : dest = me
  · have hzero : RtTable.rt_get_next me t dest = 0 := by
      rw [RtTable.rt_get_next_eq, if_pos hme]
    exact ⟨iff_of_true hzero hme, fun hne => absurd hme hne⟩
  · rcases exists_firstMax (t.routes dest) h with ⟨r, hr⟩
    have hmem := firstMax_mem _ r hr
    have hnext := rt_get_next_of_firstMax me t dest r hme hr (hnz dest r hmem).1
    refine ⟨iff_of_false ?_ hme, fun _ => ⟨r, hmem, hnext⟩⟩
    rw [hnext]
    exact hop_towards_ne_zero t hnz dest r hmem

/-- The lookup follows the greedy rule exactly for the destinations that are
    endpoints of the table and those to which the node itself is closest. -/
theorem greedy_iff (me : U32) (t : RtTable) (hnz : AllNonZero t) (dest : U32) :
    Greedy me t dest ↔ dest ∈ Endpoints t ∨ Closest t dest me := by
  constructor
  · rintro ⟨e, hclosest, hzero, _⟩
    by_cases hin : dest ∈ Endpoints t
    · exact Or.inl hin
    · -- nothing was found, so the closest endpoint can only be the node
      have he : e = me := hzero.mp (rt_get_next_absent me t dest hin)
      rw [he] at hclosest
      exact Or.inr hclosest
  · rintro (hin | hclosest)
    · exact greedy_of_endpoint me t hnz dest hin
    · by_cases hin : dest ∈ Endpoints t
      · exact greedy_of_endpoint me t hnz dest hin
      · exact ⟨me, hclosest, iff_of_true (rt_get_next_absent me t dest hin) rfl,
          fun hne => absurd rfl hne⟩

/-- The table of node 1 after one setup between the endpoints 2 and 8 passed
    through it, with hops 5 and 6 and path id 7. -/
def transit_table : RtTable :=
  rt_run [RtOp.rt_add_route SearchTree.Rebalance.none 2 8 5 6 7]

theorem transit_table_routes (e : U32) :
    transit_table.routes e = if e = 8 ∨ e = 2 then [⟨2, 8, 5, 6, 7⟩] else [] := by
  have h := routes_foldl [RtOp.rt_add_route SearchTree.Rebalance.none 2 8 5 6 7] RtTable.empty
    RouteMap.empty (fun _ => rfl) e
  refine h.trans ?_
  simp only [List.foldl_cons, List.foldl_nil, RtOp.applyMap, RouteMap.add, push_apply]
  by_cases h8 : e = 8
  · subst h8
    rfl
  · by_cases h2 : e = 2
    · subst h2
      rfl
    · simp only [h8, h2, and_false, or_self, if_false, List.nil_append]
      rfl

theorem transit_table_nonZero : AllNonZero transit_table := by
  intro e r hr
  rw [transit_table_routes] at hr
  split_ifs at hr
  · rw [List.mem_singleton.mp hr]
    decide
  · exact absurd hr List.not_mem_nil

/-- The rule at destination 2 of that table, which is one of its endpoints. -/
theorem greedy_iff_transit : Greedy 1 transit_table 2 ↔
    2 ∈ Endpoints transit_table ∨ Closest transit_table 2 1 :=
  greedy_iff 1 transit_table transit_table_nonZero 2

/-- Destination 3 lies next to endpoint 2, and the lookup finds nothing. -/
theorem not_greedy_absent :
    AllNonZero transit_table ∧ 2 ∈ Endpoints transit_table ∧ ¬ Greedy 1 transit_table 3 := by
  have hin : transit_table.routes 2 ≠ [] := by
    rw [transit_table_routes]
    exact List.cons_ne_nil _ _
  refine ⟨transit_table_nonZero, hin, ?_⟩
  rintro ⟨e, hclosest, hzero, _⟩
  have habsent : (3 : U32) ∉ Endpoints transit_table := by
    intro h
    exact h (by rw [transit_table_routes]; rfl)
  -- finding nothing stands for the node itself, which has no routes
  have he : e = 1 := hzero.mp (rt_get_next_absent 1 transit_table 3 habsent)
  have hme : transit_table.routes 1 = [] := by
    rw [transit_table_routes]
    rfl
  rw [he] at hclosest
  exact hclosest.1 hme

end AlpacaVrr
