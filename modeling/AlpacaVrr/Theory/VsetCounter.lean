import AlpacaVrr.Core.Vset
import Mathlib.Data.Finset.Card
import Mathlib.Tactic.Common

/-!
# The Counter of the Virtual Set

When `vset_size` is the number of entries, and what breaks it.

The counter and the list part ways as soon as one call unlinks an entry,
because no call lowers the counter. `drift` is the difference. It never
shrinks, and grows for each id that leaves the set, so a history that ends
with an exact counter had one throughout, and the question is which single
calls keep it exact.

Removing a member unlinks an entry. Adding a new id to a full set does too,
because the eviction cannot miss while the counter is exact. The two sorted
arrays then hold nothing but recorded distances, and both sorts apply the same
permutation to them, so the two words the eviction looks for are the distances
of one and the same entry.

## Main definitions

* `VsetOp`, `vset_run`: A history of calls and the set it leaves.
* `drift`: How far the counter is ahead of the list.
* `departed`, `Drifts`: The ids that leave, and the counter staying behind.
* `VsetOp.Keeps`: A call that unlinks nothing from an exact set.

## Theorems

* `vset_bump_cases`: The three outcomes of an eviction.
* `vset_bump_found`: With an exact counter it finds an entry.
* `drifts_apply`: The drift never shrinks, and it grows for each id that leaves.
* `drift_apply_eq_zero_iff`: The calls that keep an exact counter exact.
* `counter_exact_iff`: The histories that do.
-/

namespace AlpacaVrr

/-- One call on the virtual set. An addition comes with what its two arrays
    held before it wrote them. -/
inductive VsetOp where
  | vset_add (node : U32) (gl gr : Garbage)
  | vset_remove (node : U32)

/-- The set after one call. -/
def VsetOp.apply (me : U32) (v : Vset) : VsetOp → Vset
  | vset_add node gl gr => (AlpacaVrr.vset_add me v node 0 gl gr).2.2
  | vset_remove node => (AlpacaVrr.vset_remove v node).2

/-- The set a history leaves, from the initial one. -/
def vset_run (me : U32) (ops : List VsetOp) : Vset :=
  ops.foldl (VsetOp.apply me) Vset.init

/-- How far the counter is ahead of the list. -/
def drift (v : Vset) : Nat := v.vset_size - v.list.length

/-- The ids of `v` that are no longer in `w`. -/
def departed (v w : Vset) : Finset U32 := v.nodes.toFinset \ w.nodes.toFinset

/-- From `v` to `w` the counter has got ahead by as much as there are ids that
    have left. -/
def Drifts (v w : Vset) : Prop := drift v + (departed v w).card ≤ drift w

/-- The call unlinks nothing: it adds a member again or adds to a set with
    room, or it removes a stranger. -/
def VsetOp.Keeps (v : Vset) : VsetOp → Prop
  | vset_add node _ _ => node ∈ v.nodes ∨ v.vset_size < VRR_VSET_SIZE
  | vset_remove node => node ∉ v.nodes

/-- Every call of the history keeps the set it meets. -/
def KeepsAll (me : U32) : Vset → List VsetOp → Prop
  | _, [] => True
  | v, op :: ops => op.Keeps v ∧ KeepsAll me (op.apply me v) ops

/-- A sort blind to the contents rearranges the distances of a list of entries
    as it would rearrange the entries. -/
theorem sort_diffs_map (l : List VsetEntry) (f : VsetEntry → U32) :
    sort_diffs (l.map f) = (HeapSort.sort (fun _ i j => cmp_diff i j) l).map f := by
  unfold sort_diffs
  exact HeapSort.sort_map f (fun _ i j => cmp_diff i j) (fun _ i j => cmp_diff i j)
    (fun _ _ _ => rfl) l

/-- The three outcomes of an eviction. -/
theorem vset_bump_cases (v : Vset) (rem : U32) (gl gr : Garbage) :
    (v.vset_size ≤ VRR_VSET_SIZE ∧ vset_bump v rem gl gr = (0, rem, v)) ∨
    (VRR_VSET_SIZE < v.vset_size ∧ ∃ hit tmp, v.list.find? hit = some tmp ∧
      vset_bump v rem gl gr = (1, tmp.node, v.unlink hit)) ∨
    (VRR_VSET_SIZE < v.vset_size ∧ vset_bump v rem gl gr = (-1, rem, v)) := by
  unfold vset_bump
  by_cases hsize : v.vset_size ≤ VRR_VSET_SIZE
  · exact Or.inl ⟨hsize, by simp only [hsize, if_true]⟩
  · refine Or.inr ?_
    simp only [hsize, if_false]
    split
    · next tmp hfind => exact Or.inl ⟨Nat.lt_of_not_le hsize, _, tmp, hfind, rfl⟩
    · exact Or.inr ⟨Nat.lt_of_not_le hsize, rfl⟩

/-- With an exact counter the eviction finds an entry: the two words it looks
    for are the distances of the one that the sorts put in the middle. -/
theorem vset_bump_found (v : Vset) (rem : U32) (gl gr : Garbage)
    (hexact : v.list.length = v.vset_size) (hfull : VRR_VSET_SIZE < v.vset_size) :
    ∃ hit tmp, v.list.find? hit = some tmp ∧
      vset_bump v rem gl gr = (1, tmp.node, v.unlink hit) := by
  -- both arrays are written to their ends, and the sorts move entries as a whole
  have hl : sort_diffs (fill (v.list.map VsetEntry.diff_left) v.vset_size gl) =
      (HeapSort.sort (fun _ i j => cmp_diff i j) v.list).map VsetEntry.diff_left := by
    rw [fill_of_length_eq _ _ _ (by rw [List.length_map, hexact]), sort_diffs_map]
  have hr : sort_diffs (fill (v.list.map VsetEntry.diff_right) v.vset_size gr) =
      (HeapSort.sort (fun _ i j => cmp_diff i j) v.list).map VsetEntry.diff_right := by
    rw [fill_of_length_eq _ _ _ (by rw [List.length_map, hexact]), sort_diffs_map]
  have hperm := HeapSort.sort_perm (fun _ i j => cmp_diff i j) v.list
  have hlen : VRR_VSET_SIZE / 2 <
      (HeapSort.sort (fun _ i j => cmp_diff i j) v.list).length := by
    rw [hperm.length_eq, hexact]
    exact Nat.lt_of_le_of_lt (Nat.div_le_self _ 2) hfull
  -- the entry whose distances are compared
  have hmem := hperm.mem_iff.mp (List.getElem_mem hlen)
  unfold vset_bump
  rw [hl, hr]
  simp only [if_neg (Nat.not_le_of_lt hfull)]
  split
  · next tmp hfind => exact ⟨_, tmp, hfind, rfl⟩
  · next hnone =>
      -- this very entry has the two distances
      have hmiss := List.find?_eq_none.mp hnone _ hmem
      simp only [List.getD_eq_getElem?_getD, List.getElem?_map, List.getElem?_eq_getElem hlen,
        Option.map_some, Option.getD_some, beq_self_eq_true, Bool.and_self,
        not_true_eq_false] at hmiss

/-- Unlinking a found entry shortens the list by one. -/
theorem length_unlink (v : Vset) (hit : VsetEntry → Bool) (tmp : VsetEntry)
    (h : v.list.find? hit = some tmp) : (v.unlink hit).list.length + 1 = v.list.length := by
  have hmem := List.mem_of_find?_eq_some h
  have hhit := List.find?_some h
  have hlen := List.length_eraseP_of_mem hmem hhit
  have hpos := List.length_pos_of_mem hmem
  change (v.list.eraseP hit).length + 1 = v.list.length
  omega

theorem mem_nodes_iff (v : Vset) (node : U32) :
    node ∈ v.nodes ↔ ∃ tmp ∈ v.list, tmp.node = node := List.mem_map

/-- A member is found by `list_for_each`. -/
theorem find?_of_mem_nodes (v : Vset) (node : U32) (h : node ∈ v.nodes) :
    ∃ tmp, v.list.find? (fun tmp => tmp.node == node) = some tmp := by
  rcases (mem_nodes_iff v node).mp h with ⟨tmp, hmem, hnode⟩
  cases hfind : v.list.find? (fun tmp => tmp.node == node) with
  | some tmp' => exact ⟨tmp', rfl⟩
  | none =>
      have hmiss := List.find?_eq_none.mp hfind tmp hmem
      simp only [hnode, beq_self_eq_true, not_true_eq_false] at hmiss

/-- An addition changes nothing when the id is present, and otherwise it is an
    insertion and an eviction. -/
theorem vset_add_set (me : U32) (v : Vset) (node rem : U32) (gl gr : Garbage) :
    (vset_add me v node rem gl gr).2.2 =
      if node ∈ v.nodes then v else (vset_bump (insert_vset_node me v node) rem gl gr).2.2 := by
  unfold vset_add
  split_ifs
  · rfl
  · simp only
    split_ifs <;> rfl

theorem Drifts.refl (v : Vset) : Drifts v v := by
  unfold Drifts departed
  simp

theorem Drifts.trans {u v w : Vset} (huv : Drifts u v) (hvw : Drifts v w) : Drifts u w := by
  -- what is gone from `w` was gone from `v`, or has gone since
  have hsub : departed u w ⊆ departed u v ∪ departed v w :=
    sdiff_triangle u.nodes.toFinset v.nodes.toFinset w.nodes.toFinset
  have hcard := le_trans (Finset.card_le_card hsub) (Finset.card_union_le _ _)
  unfold Drifts at huv hvw ⊢
  omega

theorem Drifts.drift_le {v w : Vset} (h : Drifts v w) : drift v ≤ drift w :=
  le_trans (Nat.le_add_right _ _) h

theorem drift_insert (me : U32) (v : Vset) (node : U32) :
    drift (insert_vset_node me v node) = drift v := by
  unfold drift insert_vset_node
  simp only [List.length_cons]
  omega

theorem drifts_insert (me : U32) (v : Vset) (node : U32) :
    Drifts v (insert_vset_node me v node) := by
  have hsub : v.nodes.toFinset ⊆ (insert_vset_node me v node).nodes.toFinset := fun id hid =>
    List.mem_toFinset.mpr (List.mem_cons_of_mem _ (List.mem_toFinset.mp hid))
  unfold Drifts departed
  rw [drift_insert, Finset.sdiff_eq_empty_iff_subset.mpr hsub, Finset.card_empty, Nat.add_zero]

/-- The entry that is unlinked takes at most its own id with it. -/
theorem departed_unlink (v : Vset) (hit : VsetEntry → Bool) (tmp : VsetEntry)
    (h : v.list.find? hit = some tmp) : departed v (v.unlink hit) ⊆ {tmp.node} := by
  obtain ⟨hhit, before, after, hlist, hmiss⟩ := List.find?_eq_some_iff_append.mp h
  have hbefore : ∀ e ∈ before, ¬ hit e = true := by
    intro e he
    simpa using hmiss e he
  have hrest : (v.unlink hit).nodes = (before ++ after).map VsetEntry.node := by
    change (v.list.eraseP hit).map VsetEntry.node = _
    rw [hlist, List.eraseP_append_right _ hbefore, List.eraseP_cons_of_pos hhit]
  have hall : v.nodes = (before ++ tmp :: after).map VsetEntry.node := congrArg _ hlist
  intro id hid
  unfold departed at hid
  rw [hrest, hall, Finset.mem_sdiff] at hid
  simp only [List.mem_toFinset, List.map_append, List.map_cons, List.mem_append,
    List.mem_cons] at hid
  rw [Finset.mem_singleton]
  tauto

theorem drifts_unlink (v : Vset) (hit : VsetEntry → Bool) (tmp : VsetEntry)
    (h : v.list.find? hit = some tmp) : Drifts v (v.unlink hit) := by
  have hcard := Finset.card_le_card (departed_unlink v hit tmp h)
  have hlen := length_unlink v hit tmp h
  have hle := v.length_le
  rw [Finset.card_singleton] at hcard
  unfold Drifts drift
  change v.vset_size - v.list.length + _ ≤ v.vset_size - (v.unlink hit).list.length
  omega

/-- An eviction leaves the counter alone and unlinks at most one entry. -/
theorem drifts_bump (v : Vset) (rem : U32) (gl gr : Garbage) :
    Drifts v (vset_bump v rem gl gr).2.2 := by
  rcases vset_bump_cases v rem gl gr with ⟨_, h⟩ | ⟨_, hit, tmp, hfind, h⟩ | ⟨_, h⟩
  · rw [h]
    exact Drifts.refl v
  · rw [h]
    exact drifts_unlink v hit tmp hfind
  · rw [h]
    exact Drifts.refl v

/-- The drift never shrinks, and it grows for each id that leaves. -/
theorem drifts_apply (me : U32) (v : Vset) (op : VsetOp) : Drifts v (op.apply me v) := by
  cases op with
  | vset_add node gl gr =>
      rw [VsetOp.apply, vset_add_set]
      split_ifs
      · exact Drifts.refl v
      · exact (drifts_insert me v node).trans (drifts_bump (insert_vset_node me v node) 0 gl gr)
  | vset_remove node =>
      rw [VsetOp.apply, vset_remove]
      split_ifs with hmem
      · rcases find?_of_mem_nodes v node hmem with ⟨tmp, hfind⟩
        exact drifts_unlink v _ tmp hfind
      · exact Drifts.refl v

/-- The calls that keep an exact counter exact. -/
theorem drift_apply_eq_zero_iff (me : U32) (v : Vset) (hv : drift v = 0) (op : VsetOp) :
    drift (op.apply me v) = 0 ↔ op.Keeps v := by
  -- the counter never falls below the number of entries, so no drift is equality
  have hexact : v.list.length = v.vset_size := by
    have hle := v.length_le
    unfold drift at hv
    omega
  cases op with
  | vset_add node gl gr =>
      rw [VsetOp.apply, vset_add_set, VsetOp.Keeps]
      by_cases hmem : node ∈ v.nodes
      · rw [if_pos hmem]
        exact iff_of_true hv (Or.inl hmem)
      rw [if_neg hmem]
      have hins : (insert_vset_node me v node).list.length =
          (insert_vset_node me v node).vset_size := congrArg Nat.succ hexact
      have hsize : (insert_vset_node me v node).vset_size = v.vset_size + 1 := rfl
      by_cases hroom : v.vset_size < VRR_VSET_SIZE
      · -- nothing is evicted
        have hle : (insert_vset_node me v node).vset_size ≤ VRR_VSET_SIZE := hroom
        rcases vset_bump_cases (insert_vset_node me v node) 0 gl gr with
          ⟨_, h⟩ | ⟨hlt, _⟩ | ⟨hlt, _⟩
        · rw [h, drift_insert]
          exact iff_of_true hv (Or.inr hroom)
        · omega
        · omega
      · -- an entry is evicted for the new one
        rcases vset_bump_found (insert_vset_node me v node) 0 gl gr hins
          (Nat.lt_succ_of_le (Nat.le_of_not_lt hroom)) with ⟨hit, tmp, hfind, h⟩
        have hlen := length_unlink _ hit tmp hfind
        rw [h]
        refine iff_of_false ?_ (fun hk => hk.elim hmem hroom)
        change (insert_vset_node me v node).vset_size -
          ((insert_vset_node me v node).unlink hit).list.length ≠ 0
        omega
  | vset_remove node =>
      rw [VsetOp.apply, VsetOp.Keeps, vset_remove]
      by_cases hmem : node ∈ v.nodes
      · -- an entry is unlinked, and the counter stays
        rw [if_pos hmem]
        rcases find?_of_mem_nodes v node hmem with ⟨tmp, hfind⟩
        have hlen := length_unlink v _ tmp hfind
        refine iff_of_false ?_ (not_not_intro hmem)
        change v.vset_size - (v.unlink _).list.length ≠ 0
        omega
      · rw [if_neg hmem]
        exact iff_of_true hv hmem

theorem drift_le_foldl (me : U32) (v : Vset) (ops : List VsetOp) :
    drift v ≤ drift (ops.foldl (VsetOp.apply me) v) := by
  induction ops generalizing v with
  | nil => exact Nat.le_refl _
  | cons op ops ih => exact Nat.le_trans (drifts_apply me v op).drift_le (ih (op.apply me v))

/-- From an exact set, the histories that end in one. -/
theorem drift_foldl_eq_zero_iff (me : U32) (v : Vset) (hv : drift v = 0) (ops : List VsetOp) :
    drift (ops.foldl (VsetOp.apply me) v) = 0 ↔ KeepsAll me v ops := by
  induction ops generalizing v with
  | nil => exact iff_of_true hv trivial
  | cons op ops ih =>
      rw [List.foldl_cons, KeepsAll]
      by_cases hop : drift (op.apply me v) = 0
      · rw [ih (op.apply me v) hop, and_iff_right ((drift_apply_eq_zero_iff me v hv op).mp hop)]
      · -- once there is a drift it stays
        have hle := drift_le_foldl me (op.apply me v) ops
        refine iff_of_false (by omega) (fun hk => ?_)
        exact hop ((drift_apply_eq_zero_iff me v hv op).mpr hk.1)

/-- After a history the counter is the number of entries, and `vset_get_all`
    hands back the members and nothing else, exactly when no call of it
    unlinked an entry. -/
theorem counter_exact_iff (me : U32) (ops : List VsetOp) :
    ((vset_run me ops).vset_size = (vset_run me ops).list.length ∧
      ∀ g, vset_get_all (vset_run me ops) g =
        ((vset_run me ops).nodes.length, (vset_run me ops).nodes)) ↔
    KeepsAll me Vset.init ops := by
  have hdrift : drift (vset_run me ops) = 0 ↔ KeepsAll me Vset.init ops :=
    drift_foldl_eq_zero_iff me Vset.init rfl ops
  have hle := (vset_run me ops).length_le
  have hlen : (vset_run me ops).nodes.length = (vset_run me ops).list.length := List.length_map _
  rw [← hdrift]
  unfold drift
  constructor
  · rintro ⟨hsize, _⟩
    omega
  · intro h0
    have hsize : (vset_run me ops).vset_size = (vset_run me ops).list.length := by omega
    refine ⟨hsize, fun g => ?_⟩
    rw [vset_get_all, hsize, fill_of_length_eq _ _ _ hlen, hlen]

/-- Five additions evict one entry, and the counter says five. -/
theorem counter_five_additions :
    ¬ ((vset_run 0 ([1, 2, 3, 4, 5].map fun n => VsetOp.vset_add n 0 0)).vset_size =
      (vset_run 0 ([1, 2, 3, 4, 5].map fun n => VsetOp.vset_add n 0 0)).list.length) := by
  decide

end AlpacaVrr
