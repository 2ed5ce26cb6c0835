import AlpacaVrr.Theory.Requests
import AlpacaVrr.Theory.VsetOffers

/-!
# What the Words Behind the Entries Decide

How far `vset_should_add` and `vset_add` depend on unwritten memory.

The arrays that they sort have as many words as the counter says, and the
entries fill the front. The sort does not look at what it moves, so the places
that it takes its first words from are known from the counter alone. Some of
them may lie behind the entries.

A larger distance there speaks for an id and a smaller one against it. So two
contents of unwritten memory decide for all: an id that is added although every
such word is zero is added in any case, and one that is not although they are
all ones never is. The eviction looks for two distances that it takes from one
place. If that lies behind the entries, memory can have it find the new entry
or not.

## Main definitions

* `Wanted`, `Unwanted`: The ids that are added in any case, and in none.
* `Seated`: The eviction takes its distances from an entry.

## Theorems

* `accepted_iff_wanted`, `acceptable_iff_not_unwanted`: The two contents decide.
* `vset_add_seated`, `vset_add_unseated`: When an addition has one outcome.
* `requests_unwanted`: Nothing is asked for.
-/

namespace AlpacaVrr

/-- The id is added, even if the words behind the entries are zero. -/
def Wanted (n : Node) (id : U32) : Prop :=
  vset_should_add n.me n.vset id (fun _ => 0) (fun _ => 0) = true

/-- The id is not added, even if they are all ones. -/
def Unwanted (n : Node) (id : U32) : Prop :=
  vset_should_add n.me n.vset id (fun _ => UINT_MAX) (fun _ => UINT_MAX) = false

/-- An addition evicts nothing, or looks for the distances of an entry. -/
def Seated (v : Vset) : Prop :=
  v.vset_size < VRR_VSET_SIZE ∨
    (blind_order (v.vset_size + 1)).getD (VRR_VSET_SIZE / 2) 0 ≤ v.list.length

/-- What stands at a place of an array that is filled from a list. -/
theorem getD_fill (xs : List U32) (n : Nat) (g : Garbage) (j : Nat) :
    (fill xs n g).getD j 0 =
      if j < xs.length then xs.getD j 0 else if j < n then g j else 0 := by
  unfold fill
  by_cases hj : j < xs.length
  · rw [if_pos hj, List.getD_append _ _ _ _ hj]
  rw [if_neg hj, List.getD_append_right _ _ _ _ (Nat.le_of_not_lt hj),
    List.getD_eq_getElem?_getD, List.getElem?_map]
  by_cases hn : j < n
  · have hlt : j - xs.length < n - xs.length := by omega
    have hplace : xs.length + (j - xs.length) = j := by omega
    rw [if_pos hn, List.getElem?_range hlt, Option.map_some, Option.getD_some, hplace]
  · have hge : n - xs.length ≤ j - xs.length := by omega
    rw [if_neg hn, List.getElem?_eq_none (by rw [List.length_range]; exact hge), Option.map_none,
      Option.getD_none]

/-- What stands at a place of the sorted array, by where the sort took it from. -/
theorem getD_sort_diffs (a : List U32) (i : Nat) :
    (sort_diffs a).getD i 0 =
      ((blind_order a.length)[i]?.map (fun j => a.getD j 0)).getD 0 := by
  rw [sort_diffs_eq, List.getD_eq_getElem?_getD, List.getElem?_map]

/-- Larger words behind the entries make larger words in front. -/
theorem sort_fill_mono (xs : List U32) (n i : Nat) (g g' : Garbage) (hlen : xs.length ≤ n)
    (h : ∀ j, g j ≤ g' j) :
    (sort_diffs (fill xs n g)).getD i 0 ≤ (sort_diffs (fill xs n g')).getD i 0 := by
  rw [getD_sort_diffs, getD_sort_diffs, length_fill _ _ _ hlen, length_fill _ _ _ hlen]
  cases (blind_order n)[i]? with
  | none => exact BitVec.le_refl _
  | some j =>
      simp only [Option.map_some, Option.getD_some, getD_fill]
      split_ifs
      · exact BitVec.le_refl _
      · exact h j
      · exact BitVec.le_refl _

/-- And speak for an id. -/
theorem vset_should_add_mono (me : U32) (v : Vset) (id : U32) (gl gr gl' gr' : Garbage)
    (hl : ∀ j, gl j ≤ gl' j) (hr : ∀ j, gr j ≤ gr' j)
    (h : vset_should_add me v id gl gr = true) : vset_should_add me v id gl' gr' = true := by
  have hlen : ∀ f : VsetEntry → U32, (v.list.map f).length ≤ v.vset_size := by
    intro f
    rw [List.length_map]
    exact v.length_le
  unfold vset_should_add at h ⊢
  simp only at h ⊢
  split_ifs at h ⊢
  · rfl
  · rw [List.any_eq_true] at h ⊢
    rcases h with ⟨i, hi, hcloser⟩
    refine ⟨i, hi, ?_⟩
    rw [Bool.or_eq_true, decide_eq_true_eq, decide_eq_true_eq] at hcloser ⊢
    have hleft := sort_fill_mono _ _ i gl gl' (hlen VsetEntry.diff_left) hl
    have hright := sort_fill_mono _ _ i gr gr' (hlen VsetEntry.diff_right) hr
    rcases hcloser with hlt | hlt
    · exact Or.inl (by bv_omega)
    · exact Or.inr (by bv_omega)

theorem zero_le_word (w : U32) : 0 ≤ w := by bv_omega

theorem le_uint_max (w : U32) : w ≤ UINT_MAX := by
  unfold UINT_MAX
  bv_omega

/-- Zeros decide who is accepted in any case. -/
theorem accepted_iff_wanted (n : Node) (id : U32) : Accepted n id ↔ Wanted n id := by
  constructor
  · intro h
    exact h _ _
  · intro h gl gr
    exact vset_should_add_mono _ _ _ _ _ _ _ (fun _ => zero_le_word _) (fun _ => zero_le_word _) h

/-- And ones who is in some. -/
theorem acceptable_iff_not_unwanted (n : Node) (id : U32) : Acceptable n id ↔ ¬ Unwanted n id := by
  unfold Unwanted
  rw [Bool.not_eq_false]
  constructor
  · rintro ⟨gl, gr, h⟩
    exact vset_should_add_mono _ _ _ _ _ _ _ (fun _ => le_uint_max _) (fun _ => le_uint_max _) h
  · intro h
    exact ⟨_, _, h⟩

theorem not_acceptable_of_unwanted {n : Node} {id : U32} (h : Unwanted n id) (gl gr : Garbage) :
    vset_should_add n.me n.vset id gl gr = false := by
  rw [← Bool.not_eq_true]
  intro hacc
  exact (acceptable_iff_not_unwanted n id).mp ⟨gl, gr, hacc⟩ h

/-- The middle of a sorted array that is taken from an entry. -/
theorem sort_fill_seated (xs : List U32) (n i : Nat) (g g' : Garbage) (hlen : xs.length ≤ n)
    (h : (blind_order n).getD i 0 < xs.length) :
    (sort_diffs (fill xs n g)).getD i 0 = (sort_diffs (fill xs n g')).getD i 0 := by
  rw [getD_sort_diffs, getD_sort_diffs, length_fill _ _ _ hlen, length_fill _ _ _ hlen]
  rw [List.getD_eq_getElem?_getD] at h
  cases hj : (blind_order n)[i]? with
  | none => rfl
  | some j =>
      rw [hj, Option.getD_some] at h
      simp only [Option.map_some, Option.getD_some, getD_fill, if_pos h]

/-- A set that is seated takes an id in the same way in any case. -/
theorem vset_add_seated (me : U32) (v : Vset) (id rem : U32) (gl gr gl' gr' : Garbage)
    (h : Seated v) : vset_add me v id rem gl gr = vset_add me v id rem gl' gr' := by
  have hbump : vset_bump (insert_vset_node me v id) rem gl gr =
      vset_bump (insert_vset_node me v id) rem gl' gr' := by
    unfold vset_bump
    rcases h with hroom | hplace
    · have hle : (insert_vset_node me v id).vset_size ≤ VRR_VSET_SIZE := hroom
      simp only [if_pos hle]
    · have hlen : ∀ f : VsetEntry → U32, ((insert_vset_node me v id).list.map f).length =
          v.list.length + 1 := by
        intro f
        rw [List.length_map]
        rfl
      have hle : ∀ f : VsetEntry → U32, ((insert_vset_node me v id).list.map f).length ≤
          (insert_vset_node me v id).vset_size := by
        intro f
        rw [hlen]
        exact Nat.succ_le_succ v.length_le
      have hsame : ∀ (f : VsetEntry → U32) (g g' : Garbage),
          (sort_diffs (fill ((insert_vset_node me v id).list.map f)
            (insert_vset_node me v id).vset_size g)).getD (VRR_VSET_SIZE / 2) 0 =
          (sort_diffs (fill ((insert_vset_node me v id).list.map f)
            (insert_vset_node me v id).vset_size g')).getD (VRR_VSET_SIZE / 2) 0 := by
        intro f g g'
        refine sort_fill_seated _ _ _ g g' (hle f) ?_
        rw [hlen]
        exact Nat.lt_succ_of_le hplace
      simp only [hsame VsetEntry.diff_left gl gl', hsame VsetEntry.diff_right gr gr']
  unfold vset_add
  rw [hbump]

theorem mem_blind_order (n j : Nat) (h : j ∈ blind_order n) : j < n := by
  have hperm := HeapSort.sort_perm (fun _ i j => cmp_diff i j) (List.range n)
  exact List.mem_range.mp (hperm.mem_iff.mp h)

/-- The middle of a sorted array that is taken from behind the entries. -/
theorem sort_fill_unseated (xs : List U32) (n i : Nat) (w : U32) (hlen : xs.length ≤ n)
    (h : ¬ (blind_order n).getD i 0 < xs.length) (hpos : xs.length ≠ 0) :
    (sort_diffs (fill xs n (fun _ => w))).getD i 0 = w := by
  rw [getD_sort_diffs, length_fill _ _ _ hlen]
  rw [List.getD_eq_getElem?_getD] at h
  cases hj : (blind_order n)[i]? with
  | none =>
      rw [hj, Option.getD_none] at h
      exact absurd (Nat.pos_of_ne_zero hpos) h
  | some j =>
      rw [hj, Option.getD_some] at h
      have hlt := mem_blind_order n j (List.mem_of_getElem? hj)
      simp only [Option.map_some, Option.getD_some, getD_fill, if_neg h, if_pos hlt]

theorem list_unlink_insert (me : U32) (v : Vset) (id : U32) (hit : VsetEntry → Bool) :
    ((insert_vset_node me v id).unlink hit).list =
      List.eraseP hit (⟨id, diff_left me id, diff_right me id⟩ :: v.list) := rfl

/-- In a set that is not seated the new entry is evicted at once, or it stays. -/
theorem vset_add_unseated (me : U32) (v : Vset) (id rem : U32) (habs : id ∉ v.nodes)
    (h : ¬ Seated v) :
    id ∉ (vset_add me v id rem (fun _ => diff_left me id) (fun _ => diff_right me id)).2.2.nodes ∧
      id ∈ (vset_add me v id rem (fun _ => diff_left me id + 1)
        (fun _ => diff_right me id)).2.2.nodes := by
  unfold Seated at h
  rw [not_or, Nat.not_lt, Nat.not_le] at h
  have hfull : ¬ (insert_vset_node me v id).vset_size ≤ VRR_VSET_SIZE :=
    Nat.not_le_of_lt (Nat.lt_succ_of_le h.1)
  have hslot : ∀ (f : VsetEntry → U32) (w : U32),
      (sort_diffs (fill ((insert_vset_node me v id).list.map f)
        (insert_vset_node me v id).vset_size (fun _ => w))).getD (VRR_VSET_SIZE / 2) 0 = w := by
    intro f w
    have hlen : ((insert_vset_node me v id).list.map f).length = v.list.length + 1 := by
      rw [List.length_map]
      rfl
    refine sort_fill_unseated _ _ _ w ?_ ?_ ?_
    · rw [hlen]
      exact Nat.succ_le_succ v.length_le
    · rw [hlen]
      exact Nat.not_lt_of_le h.2
    · rw [hlen]
      exact Nat.succ_ne_zero _
  -- the new entry is the first of the list, and the eviction starts there
  rw [vset_add_set, vset_add_set, if_neg habs, if_neg habs]
  unfold vset_bump
  simp only [if_neg hfull, hslot]
  constructor
  · have hfind : (insert_vset_node me v id).list.find? (fun tmp =>
        tmp.diff_left == diff_left me id && tmp.diff_right == diff_right me id) =
        some ⟨id, diff_left me id, diff_right me id⟩ := by
      refine List.find?_cons_of_pos ?_
      simp only [beq_self_eq_true, Bool.and_self]
    simp only [hfind]
    intro hmem
    refine habs ?_
    have hlist : ((insert_vset_node me v id).unlink (fun tmp =>
        tmp.diff_left == diff_left me id && tmp.diff_right == diff_right me id)).list = v.list := by
      rw [list_unlink_insert, List.eraseP_cons_of_pos]
      simp only [beq_self_eq_true, Bool.and_self]
    rw [Vset.nodes, hlist] at hmem
    exact hmem
  · have hmiss : ((⟨id, diff_left me id, diff_right me id⟩ : VsetEntry).diff_left ==
        diff_left me id + 1 && (⟨id, diff_left me id, diff_right me id⟩ : VsetEntry).diff_right ==
        diff_right me id) = false := by
      have hne : diff_left me id ≠ diff_left me id + 1 := by bv_omega
      simp only [beq_eq_false_iff_ne.mpr hne, Bool.false_and]
    split
    · have hlist : ((insert_vset_node me v id).unlink (fun tmp =>
          tmp.diff_left == diff_left me id + 1 && tmp.diff_right == diff_right me id)).list =
          ⟨id, diff_left me id, diff_right me id⟩ :: v.list.eraseP (fun tmp =>
            tmp.diff_left == diff_left me id + 1 && tmp.diff_right == diff_right me id) := by
        rw [list_unlink_insert, List.eraseP_cons_of_neg]
        rw [hmiss]
        exact Bool.false_ne_true
      rw [Vset.nodes, hlist]
      exact List.mem_cons_self
    · exact List.mem_cons_self

/-- A new entry is counted, whatever the eviction does. -/
theorem vset_add_counts (me : U32) (v : Vset) (id rem : U32) (gl gr : Garbage)
    (habs : id ∉ v.nodes) : (vset_add me v id rem gl gr).2.2.vset_size = v.vset_size + 1 := by
  rw [vset_add_set, if_neg habs]
  rcases vset_bump_cases (insert_vset_node me v id) rem gl gr with h | h | h
  · rw [h.2]
    rfl
  · rcases h with ⟨_, hit, tmp, _, heq⟩
    rw [heq]
    rfl
  · rw [h.2]
    rfl

/-- Nothing is asked for without a neighbour to ask, or of ids that are not
    wanted. Two words are drawn for each. -/
theorem requests_unwanted (n : Node) (ids : List U32) (g : Nat → Garbage)
    (h : pset_active n.pset = [] ∨ ∀ id ∈ ids, Unwanted n id) :
    requests n ids g = ([], fun i => g (i + 2 * ids.length)) := by
  induction ids generalizing g with
  | nil => rfl
  | cons id ids ih =>
      have hrest := ih (fun i => g (i + 2)) (h.imp_right fun hall x hx =>
        hall x (List.mem_cons_of_mem id hx))
      have hshift : (fun i => g (i + 2 * ids.length + 2)) =
          fun i => g (i + 2 * (id :: ids).length) := by
        funext i
        rw [List.length_cons, Nat.mul_succ, Nat.add_assoc]
      rw [requests, hrest, hshift]
      split_ifs with hshould hidle
      · rfl
      · rw [not_acceptable_of_unwanted (h.resolve_left hidle id List.mem_cons_self)] at hshould
        exact absurd hshould Bool.false_ne_true
      · rfl

end AlpacaVrr
