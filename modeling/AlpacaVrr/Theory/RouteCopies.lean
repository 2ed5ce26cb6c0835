import AlpacaVrr.Theory.RouteMap

/-!
# The Two Copies of a Route

What `rt_remove_route` leaves of a path.

`rt_add_route` files a route under both endpoints, as two entries that nothing
connects. `rt_remove_route` is given one endpoint, and takes the first entry
with the path id off the list there. It never looks at the other endpoint, nor
at the other fields of what it takes.

So a path is gone after a removal exactly when a single entry of it was left
before, under `ea`, with no other path of that id in front of it. The removal
that follows an addition leaves the copy under `eb`, and the hop towards `eb`
is read off it.

## Main definitions

* `SamePath`: An entry of the path of a route.
* `PathRemoved`: What a removal of a path is to do.
* `StoredOnce`: The tables on which it does that.
* `AddedOnce`: Calls that add no path id twice for one endpoint `ea`.

## Theorems

* `path_removed_iff`: When a removal removes the path.
* `copy_left`: An addition and a removal leave a copy.
-/

namespace AlpacaVrr

/-- An entry of the path of `r`: the same endpoints and path id. -/
def SamePath (r x : RtEntry) : Prop := x.ea = r.ea ∧ x.eb = r.eb ∧ x.path_id = r.path_id

instance (r x : RtEntry) : Decidable (SamePath r x) := inferInstanceAs (Decidable (_ ∧ _ ∧ _))

theorem samePath_self (r : RtEntry) : SamePath r r := ⟨rfl, rfl, rfl⟩

/-- The removal of the path of `r` from a table: no entry of it is stored any
    more, no lookup of its endpoints reads one, and the entries of other paths
    are what they were. -/
structure PathRemoved (t : RtTable) (r : RtEntry) : Prop where
  gone : ∀ e, ∀ x ∈ (t.rt_remove_route r.ea r.path_id).2.routes e, ¬ SamePath r x
  no_hop : ∀ e, e = r.ea ∨ e = r.eb → ∀ x,
    max_entry none 0 ((t.rt_remove_route r.ea r.path_id).2.routes e) = some x → ¬ SamePath r x
  others : ∀ e, ((t.rt_remove_route r.ea r.path_id).2.routes e).filter (fun x => ¬ SamePath r x) =
    (t.routes e).filter (fun x => ¬ SamePath r x)

/-- One entry of the path is stored, under `ea`, and it is the first one there
    with its path id. -/
structure StoredOnce (t : RtTable) (r : RtEntry) : Prop where
  first : ∃ x, (t.routes r.ea).find? (fun tmp => tmp.path_id == r.path_id) = some x ∧ SamePath r x
  once : (t.routes r.ea).countP (fun x => SamePath r x) = 1
  nowhere_else : ∀ e, e ≠ r.ea → ∀ x ∈ t.routes e, ¬ SamePath r x

section Lists

/-- The loop returns an entry of the list, or what it started with. -/
theorem max_entry_mem (best : Option RtEntry) (m : U32) (routes : List RtEntry) (x : RtEntry)
    (h : max_entry best m routes = some x) : x ∈ routes ∨ best = some x := by
  induction routes generalizing best m with
  | nil => exact Or.inr h
  | cons tmp rest ih =>
      rw [max_entry] at h
      split_ifs at h
      · rcases ih (some tmp) tmp.path_id h with hmem | heq
        · exact Or.inl (List.mem_cons_of_mem tmp hmem)
        · rw [Option.some.injEq] at heq
          subst heq
          exact Or.inl List.mem_cons_self
      · rcases ih best m h with hmem | heq
        · exact Or.inl (List.mem_cons_of_mem tmp hmem)
        · exact Or.inr heq

/-- What `list_del` takes out of a list that holds the path id. -/
theorem eraseP_split (l : List RtEntry) (path_id : U32) (r : RtEntry) (hr : r ∈ l)
    (hpath : r.path_id = path_id) :
    ∃ a l₁ l₂, l = l₁ ++ a :: l₂ ∧ l.find? (fun tmp => tmp.path_id == path_id) = some a ∧
      l.eraseP (fun tmp => tmp.path_id == path_id) = l₁ ++ l₂ := by
  rcases List.exists_of_eraseP (p := fun tmp : RtEntry => tmp.path_id == path_id) hr
    (beq_iff_eq.mpr hpath) with ⟨a, l₁, l₂, hpre, ha, hl, herase⟩
  refine ⟨a, l₁, l₂, hl, ?_, herase⟩
  have hnone : l₁.find? (fun tmp => tmp.path_id == path_id) = none :=
    List.find?_eq_none.mpr hpre
  rw [hl, List.find?_append, hnone, Option.none_or]
  exact List.find?_cons_of_pos ha

end Lists

section Removal

variable {t : RtTable} {r : RtEntry}

theorem storedOnce_of_removed {e : U32} (hr : r ∈ t.routes e) (h : PathRemoved t r) :
    StoredOnce t r := by
  have hgone := h.gone
  simp only [RtTable.routes_remove] at hgone
  -- away from `ea` nothing is touched
  have helse : ∀ e, e ≠ r.ea → ∀ x ∈ t.routes e, ¬ SamePath r x := by
    intro e' he' x hx
    have hx' := hgone e' x
    rw [if_neg he'] at hx'
    exact hx' hx
  have he : e = r.ea := by
    by_contra hne
    exact helse e hne r hr (samePath_self r)
  rw [he] at hr
  rcases eraseP_split (t.routes r.ea) r.path_id r hr rfl with ⟨a, l₁, l₂, hl, hfind, herase⟩
  -- the call unlinks one entry, so none of the path may be left beside it
  have hrest : ∀ x ∈ l₁ ++ l₂, ¬ SamePath r x := by
    intro x hx
    have hx' := hgone r.ea x
    rw [if_pos rfl, herase] at hx'
    exact hx' hx
  have ha : r = a := by
    rw [hl, List.mem_append, List.mem_cons] at hr
    rcases hr with hr | hr | hr
    · exact absurd (samePath_self r) (hrest r (List.mem_append_left l₂ hr))
    · exact hr
    · exact absurd (samePath_self r) (hrest r (List.mem_append_right l₁ hr))
  have hzero : (l₁ ++ l₂).countP (fun x => SamePath r x) = 0 := by
    rw [List.countP_eq_zero]
    intro x hx hsame
    exact hrest x hx (of_decide_eq_true hsame)
  refine ⟨⟨a, hfind, by rw [← ha]; exact samePath_self r⟩, ?_, helse⟩
  rw [List.countP_append] at hzero
  rw [hl, ← ha, List.countP_append, List.countP_cons_of_pos (p := fun x => decide (SamePath r x))
    (decide_eq_true (samePath_self r))]
  omega

theorem removed_of_storedOnce (h : StoredOnce t r) : PathRemoved t r := by
  rcases h.first with ⟨x, hx, hsame⟩
  have hmem := List.mem_of_find?_eq_some hx
  rcases eraseP_split (t.routes r.ea) r.path_id x hmem hsame.2.2 with
    ⟨a, l₁, l₂, hl, hfind, herase⟩
  have ha : x = a := Option.some.inj (hx.symm.trans hfind)
  subst ha
  have hzero : (l₁ ++ l₂).countP (fun y => SamePath r y) = 0 := by
    have honce := h.once
    rw [hl, List.countP_append, List.countP_cons_of_pos (p := fun y => decide (SamePath r y))
      (decide_eq_true hsame)] at honce
    rw [List.countP_append]
    omega
  -- the one entry of the path is the one that is unlinked
  have hgone : ∀ e, ∀ y ∈ (t.rt_remove_route r.ea r.path_id).2.routes e, ¬ SamePath r y := by
    intro e y hy
    rw [RtTable.routes_remove] at hy
    by_cases he : e = r.ea
    · rw [if_pos he, he, herase] at hy
      intro hy'
      exact List.countP_eq_zero.mp hzero y hy (decide_eq_true hy')
    · rw [if_neg he] at hy
      exact h.nowhere_else e he y hy
  refine ⟨hgone, fun e _ y hy => ?_, fun e => ?_⟩
  · rcases max_entry_mem none 0 _ y hy with hmem' | hnone
    · exact hgone e y hmem'
    · exact absurd hnone (Option.some_ne_none y).symm
  · rw [RtTable.routes_remove]
    by_cases he : e = r.ea
    · -- the entry taken is one of the path, so the filter has never seen it
      rw [if_pos he, he, herase, hl, List.filter_append, List.filter_append,
        List.filter_cons_of_neg (by simpa using hsame)]
    · rw [if_neg he]

end Removal

/-- A removal removes the path of a stored route exactly when one entry of it
    is stored, under `ea`, and found first there. -/
theorem path_removed_iff (t : RtTable) (r : RtEntry) (e : U32) (hr : r ∈ t.routes e) :
    PathRemoved t r ↔ StoredOnce t r :=
  ⟨storedOnce_of_removed hr, removed_of_storedOnce⟩

/-- The endpoint and path id of an addition. -/
def RtOp.added : RtOp → Option (U32 × U32)
  | rt_add_route _ ea _ _ _ path_id => some (ea, path_id)
  | rt_remove_route _ _ => none

/-- No path id is added twice for one endpoint `ea`. -/
def AddedOnce (ops : List RtOp) : Prop := (ops.filterMap RtOp.added).Nodup

instance (ops : List RtOp) : Decidable (AddedOnce ops) := List.nodupDecidable _

/-- Once the copy under `eb` is gone, the path can be removed. -/
theorem path_removed_one :
    PathRemoved (rt_run [.rt_add_route .none 1 2 3 4 5, .rt_remove_route 2 5]) ⟨1, 2, 3, 4, 5⟩ ↔
      StoredOnce (rt_run [.rt_add_route .none 1 2 3 4 5, .rt_remove_route 2 5]) ⟨1, 2, 3, 4, 5⟩ :=
  path_removed_iff _ ⟨1, 2, 3, 4, 5⟩ 1 (by decide)

/-- A path that was added once and never touched. -/
theorem path_not_removed :
    ¬ ∀ ops, AddedOnce ops → ∀ e, ∀ r ∈ (rt_run ops).routes e, r.ea ≠ 0 → r.eb ≠ 0 →
      PathRemoved (rt_run ops) r := by
  intro h
  have hremoved := h [.rt_add_route .none 1 2 3 4 5] (by decide) 1 ⟨1, 2, 3, 4, 5⟩ (by decide)
    (by decide) (by decide)
  exact hremoved.gone 2 ⟨1, 2, 3, 4, 5⟩ (by decide) (by decide)

/-- An addition and the removal of what it added leave the copy under `eb`,
    in every table. -/
theorem copy_left (rb : RbInsertColor) (alloc : RtAlloc) (t : RtTable)
    (ea eb na nb path_id : U32) (heb : eb ≠ 0)
    (hok : (t.rt_add_route rb alloc ea eb na nb path_id).1 = true) :
    ⟨ea, eb, na, nb, path_id⟩ ∈
      ((t.rt_add_route rb alloc ea eb na nb path_id).2.rt_remove_route ea path_id).2.routes eb := by
  have hfiled : eb ≠ 0 ∧ eb = eb := ⟨heb, rfl⟩
  rw [RtTable.routes_remove, RtTable.routes_add rb alloc t ea eb na nb path_id eb hok,
    if_pos hfiled]
  by_cases he : eb = ea
  · -- both copies are on one list, and one of them is taken
    subst he
    rw [if_pos rfl, if_pos hfiled, List.singleton_append, List.singleton_append,
      List.eraseP_cons_of_pos (p := fun tmp : RtEntry => tmp.path_id == path_id)
        (beq_self_eq_true path_id)]
    exact List.mem_cons_self
  · rw [if_neg he]
    exact List.mem_append_left _ (List.mem_singleton_self _)

end AlpacaVrr
