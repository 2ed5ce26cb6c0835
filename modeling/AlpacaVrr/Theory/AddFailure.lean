import AlpacaVrr.Theory.RouteMap

/-!
# Additions That Fail

What a failed `rt_add_route` leaves in the table.

The function allocates a node and a route for one endpoint and then for the
other, and goes to `out_err` from each of the four places. Nothing is taken
back there. A node whose route could not be allocated stays, with an empty
list, and the route filed under `ea` stays when the one under `eb` fails.

The call is therefore all or nothing exactly when none of its allocations
fails, or the first one it makes does. Which allocation comes first depends on
whether the endpoints have a node, so `Completes` and `FailsFirst` say it of one
block of the function.

## Main definitions

* `Completes`: A block that completes.
* `FailsFirst`: A block whose first allocation fails.

## Theorems

* `find?_rt_file_false`: What a block that fails has done.
* `add_all_or_nothing_iff`: When an addition is all or nothing.
-/

namespace AlpacaVrr

/-- The block for an endpoint completes: there is nothing to file, or the node
    is there or can be allocated, and the route can. -/
def Completes (root : RtTree) (node_ok route_ok : Bool) (endpoint : U32) : Prop :=
  endpoint = 0 ∨ ((root.find? endpoint).isSome ∨ node_ok) ∧ route_ok

/-- The first allocation of the block fails: that of the route when the
    endpoint has a node, and that of the node otherwise. -/
def FailsFirst (root : RtTree) (node_ok route_ok : Bool) (endpoint : U32) : Prop :=
  endpoint ≠ 0 ∧ if (root.find? endpoint).isSome then route_ok = false else node_ok = false

section Block

variable (rb : RbInsertColor) (root : RtTree) (node_ok route_ok : Bool) (endpoint : U32)
  (route : RtEntry)

theorem rt_find_insert_node_eq_none_iff : rt_find_insert_node rb node_ok root endpoint = none ↔
    root.find? endpoint = none ∧ node_ok = false := by
  unfold rt_find_insert_node
  rw [rt_descend_eq_link]
  have hlink := SearchTree.link_eq_none_iff root endpoint []
  cases hl : root.link endpoint [] with
  | none =>
      rw [hl] at hlink
      have hsome := hlink.mp rfl
      rw [Option.isSome_iff_ne_none] at hsome
      simp only [reduceCtorEq, hsome, false_and]
  | some linked =>
      have hnone : root.find? endpoint = none := by
        rw [← Option.not_isSome_iff_eq_none, ← hlink, hl]
        exact Option.some_ne_none linked
      cases node_ok <;> simp only [hnone, Bool.false_eq_true, if_false, if_true, true_and,
        reduceCtorEq]

theorem rt_file_fst_iff :
    (rt_file rb node_ok route_ok root endpoint route).1 = true ↔
      Completes root node_ok route_ok endpoint := by
  have hnode := rt_find_insert_node_eq_none_iff rb root node_ok endpoint
  unfold rt_file Completes
  by_cases h0 : endpoint = 0
  · simp only [h0, if_true, true_or]
  rw [if_neg h0, or_iff_right h0, Option.isSome_iff_ne_none]
  cases hf : rt_find_insert_node rb node_ok root endpoint with
  | none =>
      have hfail := hnode.mp hf
      simp only [hfail.1, hfail.2, Bool.false_eq_true, ne_eq, not_true_eq_false, or_self,
        false_and]
  | some root' =>
      have hfound : ¬ (root.find? endpoint = none ∧ node_ok = false) := by
        rw [← hnode, hf]
        exact Option.some_ne_none root'
      have hsome : root.find? endpoint ≠ none ∨ node_ok = true := by
        by_cases hn : root.find? endpoint = none
        · exact Or.inr (Bool.eq_true_of_not_eq_false (fun h => hfound ⟨hn, h⟩))
        · exact Or.inl hn
      cases route_ok <;> simp only [hsome, Bool.false_eq_true, if_false, if_true, and_false,
        and_self]

variable (hord : root.Ordered)

include hord

/-- A block that completes files the route. -/
theorem find?_rt_file_true (h : Completes root node_ok route_ok endpoint) (e : U32) :
    (rt_file rb node_ok route_ok root endpoint route).2.find? e =
      if endpoint ≠ 0 ∧ e = endpoint then some (route :: (root.find? endpoint).getD [])
      else root.find? e := by
  have hfst := (rt_file_fst_iff rb root node_ok route_ok endpoint route).mpr h
  unfold rt_file at hfst ⊢
  by_cases h0 : endpoint = 0
  · simp only [h0, if_true, ne_eq, not_true_eq_false, false_and, if_false]
  rw [if_neg h0] at hfst ⊢
  cases hf : rt_find_insert_node rb node_ok root endpoint with
  | none =>
      rw [hf] at hfst
      exact absurd hfst Bool.false_ne_true
  | some root' =>
      have hspec := (rt_find_insert_node_spec rb root root' hord node_ok endpoint hf).2
      rw [hf] at hfst
      cases route_ok with
      | false => exact absurd hfst Bool.false_ne_true
      | true =>
          simp only [if_true, SearchTree.find?_modify, hspec, Option.map_some, h0, ne_eq,
            not_false_eq_true, true_and]
          split_ifs <;> rfl

/-- A block that fails leaves an empty node when it got that far. -/
theorem find?_rt_file_false (h : ¬ Completes root node_ok route_ok endpoint) (e : U32) :
    (rt_file rb node_ok route_ok root endpoint route).2.find? e =
      if e = endpoint ∧ root.find? endpoint = none ∧ node_ok then some [] else root.find? e := by
  have hfst := mt (rt_file_fst_iff rb root node_ok route_ok endpoint route).mp h
  have hnode := rt_find_insert_node_eq_none_iff rb root node_ok endpoint
  unfold rt_file at hfst ⊢
  by_cases h0 : endpoint = 0
  · rw [if_pos h0] at hfst
    exact absurd rfl hfst
  rw [if_neg h0] at hfst ⊢
  cases hf : rt_find_insert_node rb node_ok root endpoint with
  | none =>
      have hfail := hnode.mp hf
      simp only [hfail.2, Bool.false_eq_true, and_false, if_false]
  | some root' =>
      have hspec := (rt_find_insert_node_spec rb root root' hord node_ok endpoint hf).2
      rw [hf] at hfst
      cases route_ok with
      | true => exact absurd rfl hfst
      | false =>
          simp only [Bool.false_eq_true, if_false, hspec]
          -- the node is there by now, with the routes it had or with none
          by_cases he : e = endpoint
          · subst he
            rw [if_pos rfl]
            cases hfind : root.find? e with
            | none =>
                have hn : node_ok = true := by
                  by_contra hn
                  rw [hnode.mpr ⟨hfind, Bool.eq_false_of_not_eq_true hn⟩] at hf
                  exact absurd hf (Option.some_ne_none root').symm
                simp only [hn, and_self, if_true, Option.getD_none]
            | some routes =>
                simp only [reduceCtorEq, false_and, and_false, if_false, Option.getD_some]
          · rw [if_neg he, if_neg (fun hc => he hc.1)]

/-- A block that fails leaves no trace exactly when its first allocation
    fails. -/
theorem rt_file_traceless_iff (h : ¬ Completes root node_ok route_ok endpoint) :
    (∀ e, (rt_file rb node_ok route_ok root endpoint route).2.find? e = root.find? e) ↔
      FailsFirst root node_ok route_ok endpoint := by
  have hleft := find?_rt_file_false rb root node_ok route_ok endpoint route hord h
  unfold Completes at h
  unfold FailsFirst
  rw [not_or] at h
  constructor
  · intro hsame
    have hnode := (hleft endpoint).symm.trans (hsame endpoint)
    refine ⟨h.1, ?_⟩
    cases hfind : root.find? endpoint with
    | none =>
        -- a node that was linked would be found now
        cases node_ok with
        | false => rfl
        | true =>
            rw [hfind, if_pos ⟨rfl, rfl, rfl⟩] at hnode
            exact absurd hnode (Option.some_ne_none [])
    | some routes =>
        have hroute := h.2
        rw [hfind] at hroute
        simp only [Option.isSome_some, true_or, true_and] at hroute
        simpa using hroute
  · rintro ⟨-, hfirst⟩ e
    rw [hleft, if_neg]
    rintro ⟨-, hnone, hn⟩
    rw [hnone] at hfirst
    simp only [Option.isSome_none, Bool.false_eq_true, if_false] at hfirst
    exact absurd hn (by rw [hfirst]; exact Bool.false_ne_true)

end Block

/-- No allocation of the call fails, or the first one does. The second block
    finds the node of the first one when both are for one endpoint. -/
def AllOrNothing (root : RtTree) (alloc : RtAlloc) (ea eb : U32) : Prop :=
  FailsFirst root alloc.ea_node alloc.ea_route ea ∨
  (ea = 0 ∧ FailsFirst root alloc.eb_node alloc.eb_route eb) ∨
  (Completes root alloc.ea_node alloc.ea_route ea ∧
    (Completes root alloc.eb_node alloc.eb_route eb ∨ (eb = ea ∧ alloc.eb_route)))

/-- A block whose first allocation fails does not complete. -/
theorem not_completes_of_failsFirst {root : RtTree} {node_ok route_ok : Bool} {endpoint : U32}
    (h : FailsFirst root node_ok route_ok endpoint) :
    ¬ Completes root node_ok route_ok endpoint := by
  rcases h with ⟨hne, hfirst⟩
  rintro (h0 | ⟨hnode, hroute⟩)
  · exact hne h0
  · split_ifs at hfirst with hsome
    · rw [hfirst] at hroute
      exact Bool.false_ne_true hroute
    · rcases hnode with hnode | hnode
      · exact hsome hnode
      · rw [hfirst] at hnode
        exact Bool.false_ne_true hnode

section Second

variable {root root1 : RtTree} {ea : U32} {route : RtEntry}

/-- After a first block that completes, the second one completes when it would
    have without it, or when it finds the node of the first. -/
theorem completes_after
    (hfind : ∀ e, root1.find? e = if ea ≠ 0 ∧ e = ea then some (route :: (root.find? ea).getD [])
      else root.find? e) (node_ok route_ok : Bool) (eb : U32) :
    Completes root1 node_ok route_ok eb ↔
      Completes root node_ok route_ok eb ∨ (eb = ea ∧ route_ok) := by
  unfold Completes
  rw [hfind]
  by_cases heq : eb = ea
  · subst heq
    by_cases h0 : eb = 0
    · simp only [h0, true_or]
    · simp only [h0, ne_eq, not_false_eq_true, and_self, if_true, Option.isSome_some, true_or,
        true_and, false_or]
      exact ⟨Or.inr, fun h => h.elim And.right id⟩
  · simp only [heq, and_false, if_false, false_and, or_false]

/-- A second block that fails leaves the list of `ea` as the first one has made
    it, longer than it was. -/
theorem second_keeps_first (rb : RbInsertColor) (hord : root1.Ordered) (h0 : ea ≠ 0)
    (hfind : ∀ e, root1.find? e = if ea ≠ 0 ∧ e = ea then some (route :: (root.find? ea).getD [])
      else root.find? e) {node_ok route_ok : Bool} {eb : U32} {second : RtEntry}
    (hfail : ¬ Completes root1 node_ok route_ok eb) :
    (rt_file rb node_ok route_ok root1 eb second).2.find? ea ≠ root.find? ea := by
  have hfiled := hfind ea
  rw [if_pos ⟨h0, rfl⟩] at hfiled
  have hkept : ¬ (ea = eb ∧ root1.find? eb = none ∧ node_ok) := by
    rintro ⟨rfl, hnone, -⟩
    rw [hfiled] at hnone
    exact Option.some_ne_none _ hnone
  rw [find?_rt_file_false rb root1 _ _ eb _ hord hfail, if_neg hkept, hfiled]
  cases root.find? ea with
  | none => exact Option.some_ne_none _
  | some routes =>
      rw [Option.getD_some, Ne, Option.some.injEq]
      exact List.cons_ne_self _ _

end Second

section Add

variable (rb : RbInsertColor) (root : RtTree) (hord : root.Ordered) (alloc : RtAlloc)
  (ea eb na nb path_id : U32)

include hord

/-- The first block fails: what is left is what it has left. -/
theorem add_first_fails (hfail : ¬ Completes root alloc.ea_node alloc.ea_route ea) :
    (rt_add_route rb alloc root ea eb na nb path_id).1 = false ∧
      ((∀ e, (rt_add_route rb alloc root ea eb na nb path_id).2.find? e = root.find? e) ↔
        FailsFirst root alloc.ea_node alloc.ea_route ea) := by
  have hfst := mt (rt_file_fst_iff rb root alloc.ea_node alloc.ea_route ea
    ⟨ea, eb, na, nb, path_id⟩).mp hfail
  have hleft := rt_file_traceless_iff rb root alloc.ea_node alloc.ea_route ea
    ⟨ea, eb, na, nb, path_id⟩ hord hfail
  unfold rt_add_route
  generalize rt_file rb alloc.ea_node alloc.ea_route root ea ⟨ea, eb, na, nb, path_id⟩ = f1
    at hfst hleft ⊢
  rcases f1 with ⟨ok1, root1⟩
  cases ok1 with
  | true => exact absurd rfl hfst
  | false => exact ⟨rfl, hleft⟩

/-- The first block completes: the second one decides, and what the first one
    has filed is not taken back. -/
theorem add_first_completes (hdone : Completes root alloc.ea_node alloc.ea_route ea) :
    ((rt_add_route rb alloc root ea eb na nb path_id).1 = true ↔
      Completes root alloc.eb_node alloc.eb_route eb ∨ (eb = ea ∧ alloc.eb_route)) ∧
    ((rt_add_route rb alloc root ea eb na nb path_id).1 = false →
      ((∀ e, (rt_add_route rb alloc root ea eb na nb path_id).2.find? e = root.find? e) ↔
        ea = 0 ∧ FailsFirst root alloc.eb_node alloc.eb_route eb)) := by
  have hfst := (rt_file_fst_iff rb root alloc.ea_node alloc.ea_route ea
    ⟨ea, eb, na, nb, path_id⟩).mpr hdone
  have hfind := find?_rt_file_true rb root alloc.ea_node alloc.ea_route ea
    ⟨ea, eb, na, nb, path_id⟩ hord hdone
  have hord1 := ordered_rt_file rb root hord alloc.ea_node alloc.ea_route ea
    ⟨ea, eb, na, nb, path_id⟩
  unfold rt_add_route
  generalize rt_file rb alloc.ea_node alloc.ea_route root ea ⟨ea, eb, na, nb, path_id⟩ = f1
    at hfst hfind hord1 ⊢
  rcases f1 with ⟨ok1, root1⟩
  simp only at hfst hfind hord1
  subst hfst
  simp only
  have hsecond := completes_after hfind alloc.eb_node alloc.eb_route eb
  refine ⟨(rt_file_fst_iff rb root1 _ _ eb _).trans hsecond, fun hfalse => ?_⟩
  have hfail : ¬ Completes root1 alloc.eb_node alloc.eb_route eb := by
    intro h
    rw [(rt_file_fst_iff rb root1 _ _ eb _).mpr h] at hfalse
    exact Bool.noConfusion hfalse
  by_cases h0 : ea = 0
  · -- nothing was filed, so the second block is the first to change anything
    have hsame : ∀ e, root1.find? e = root.find? e := by
      intro e
      rw [hfind, if_neg (fun hc => hc.1 h0)]
    have hleft := rt_file_traceless_iff rb root1 alloc.eb_node alloc.eb_route eb
      ⟨ea, eb, na, nb, path_id⟩ hord1 hfail
    unfold FailsFirst at hleft ⊢
    simp only [hsame] at hleft
    rw [hleft, and_iff_right h0]
  · rw [iff_false_intro (fun h : ea = 0 ∧ _ => h0 h.1), iff_false]
    exact fun hsame => second_keeps_first rb hord1 h0 hfind hfail (hsame ea)

end Add

/-- An addition is all or nothing, on the endpoints of the table and the list
    of each, exactly when none of the allocations it makes fails or the first
    of them does. -/
theorem add_all_or_nothing_iff (rb : RbInsertColor) (alloc : RtAlloc) (t : RtTable)
    (ea eb na nb path_id : U32) :
    (((t.rt_add_route rb alloc ea eb na nb path_id).1 = false →
        ∀ e, (t.rt_add_route rb alloc ea eb na nb path_id).2.root.find? e = t.root.find? e) ∧
      ((t.rt_add_route rb alloc ea eb na nb path_id).1 = true →
        ∀ e, (t.rt_add_route rb alloc ea eb na nb path_id).2.routes e =
          (if eb ≠ 0 ∧ e = eb then [⟨ea, eb, na, nb, path_id⟩] else []) ++
          ((if ea ≠ 0 ∧ e = ea then [⟨ea, eb, na, nb, path_id⟩] else []) ++ t.routes e))) ↔
      AllOrNothing t.root alloc ea eb := by
  rw [and_iff_left (fun hok e => RtTable.routes_add rb alloc t ea eb na nb path_id e hok)]
  unfold AllOrNothing
  by_cases hdone : Completes t.root alloc.ea_node alloc.ea_route ea
  · have hsecond := add_first_completes rb t.root t.ordered alloc ea eb na nb path_id hdone
    rw [or_iff_right (fun h => not_completes_of_failsFirst h hdone), and_iff_right hdone,
      ← hsecond.1]
    constructor
    · intro h
      cases hret : (rt_add_route rb alloc t.root ea eb na nb path_id).1 with
      | true => exact Or.inr rfl
      | false => exact Or.inl ((hsecond.2 hret).mp (h hret))
    · rintro (h | h) hret
      · exact (hsecond.2 hret).mpr h
      · exact Bool.noConfusion (h.symm.trans hret)
  · have hfirst := add_first_fails rb t.root t.ordered alloc ea eb na nb path_id hdone
    have hzero : ¬ (ea = 0 ∧ FailsFirst t.root alloc.eb_node alloc.eb_route eb) :=
      fun h => hdone (Or.inl h.1)
    rw [or_iff_right hzero, or_iff_left (fun h => hdone h.1), ← hfirst.2]
    exact ⟨fun h => h hfirst.1, fun h _ => h⟩

/-- The node for `ea` stays when its route cannot be allocated. -/
theorem add_leaves_node :
    ¬ ∀ (ops : List RtOp) rb alloc (ea eb na nb path_id : U32),
      ((rt_run ops).rt_add_route rb alloc ea eb na nb path_id).1 = false →
      ∀ e, ((rt_run ops).rt_add_route rb alloc ea eb na nb path_id).2.root.find? e =
        (rt_run ops).root.find? e := by
  intro h
  have hnode := h [] .none ⟨true, false, true, true⟩ 1 2 3 4 5 (by decide) 1
  exact absurd hnode (by decide)

end AlpacaVrr
