import AlpacaVrr.Theory.VsetOffers

/-!
# Who Is Evicted

What `vset_should_add`, `vset_add` and `vset_bump` make of a full set.

The sorts compare addresses, so the entry that an eviction looks for is the one
at a place of the list that depends on the counter alone, wherever it lies on
the ring. For a full set with an exact counter it is the second newest, and not
the one farthest from the local node.

The two distances of an id add up to `UINT_MAX`. Whoever is not closer than
another id on one side is closer on the other, or just as far. No three ids are
at one distance, so of the two entries that `vset_should_add` looks at one is
always beaten, and a full set refuses nobody. The new id may then be taken for
the second newest, when it is at the distance of that one, and be evicted
itself.

The counter runs ahead of the list. From a counter of ten on, the place that
the eviction looks at is the fifth of the list, and from 22 on it is behind the
list. An eviction that finds nothing is reported as one that did, and the set
grows.

## Main definitions

* `vset_of`: The set of some ids, with an exact counter.
* `VsetOp.Reports`: A call unlinks what it reports to have unlinked.
* `VsetOp.Finds`: The place an addition looks at is one of the list.
* `VsetEntry.Middle`: As many entries on either side as the radius says.

## Theorems

* `diff_left_two`: No three ids are at one distance.
* `should_add_predicts_iff`: When the acceptance test predicts the insertion.
* `reports_run_iff`: When an addition reports what it did, in any memory.
* `history_sound`: Histories that always find an entry.
* `bump_farthest_iff`: When the eviction takes the farthest entry.
-/

namespace AlpacaVrr

section Distances

/-- The shorter way round, in numbers. -/
theorem get_diff_toNat (x y : U32) (h : x ≠ y) : (get_diff x y).toNat =
    if x < y then min (y.toNat - x.toNat) (2 ^ 32 - (y.toNat - x.toNat))
    else min (x.toNat - y.toNat) (2 ^ 32 - (x.toNat - y.toNat)) := by
  have hne : x.toNat ≠ y.toNat := fun heq => h (BitVec.eq_of_toNat_eq heq)
  have hx := x.isLt
  have hy := y.isLt
  unfold get_diff
  simp only [BitVec.lt_def, BitVec.toNat_sub]
  split_ifs <;> simp only [BitVec.toNat_sub] <;> omega

theorem diff_left_toNat (me node : U32) (h : node ≠ me) : (diff_left me node).toNat =
    if me < node then 2 ^ 32 - 1 - min (node.toNat - me.toNat) (2 ^ 32 - (node.toNat - me.toNat))
    else min (me.toNat - node.toNat) (2 ^ 32 - (me.toNat - node.toNat)) := by
  have hdiff := get_diff_toNat node me h
  have hmax : UINT_MAX.toNat = 2 ^ 32 - 1 := rfl
  unfold diff_left
  by_cases hlt : me < node
  · have hnot : ¬ node < me := fun hgt => absurd (lt_trans hlt hgt) (lt_irrefl me)
    have hn := node.isLt
    rw [if_neg hnot] at hdiff
    rw [if_pos hlt, if_pos hlt, BitVec.toNat_sub, hdiff, hmax]
    omega
  · have hgt : node < me := lt_of_le_of_ne (not_lt.mp hlt) h
    rw [if_pos hgt] at hdiff
    rw [if_neg hlt, if_neg hlt, hdiff]

/-- The two distances add up to `UINT_MAX`. -/
theorem diff_right_toNat (me node : U32) (h : node ≠ me) :
    (diff_right me node).toNat = 2 ^ 32 - 1 - (diff_left me node).toNat := by
  have hmax : UINT_MAX.toNat = 2 ^ 32 - 1 := rfl
  have hd := (get_diff node me).isLt
  unfold diff_right diff_left
  by_cases hlt : me < node
  · have hnot : ¬ node < me := fun hgt => absurd (lt_trans hlt hgt) (lt_irrefl me)
    rw [if_neg hnot, if_pos hlt, BitVec.toNat_sub, hmax]
    omega
  · have hgt : node < me := lt_of_le_of_ne (not_lt.mp hlt) h
    rw [if_pos hgt, if_neg hlt, BitVec.toNat_sub, hmax]
    omega

variable {me : U32}

/-- Ids that are equally far on one side are on the other. -/
theorem diff_right_eq {a b : U32} (ha : a ≠ me) (hb : b ≠ me)
    (h : diff_left me a = diff_left me b) : diff_right me a = diff_right me b := by
  apply BitVec.eq_of_toNat_eq
  rw [diff_right_toNat me a ha, diff_right_toNat me b hb, h]

/-- Of two ids that are not equally far, each is the closer one on some side. -/
theorem closer_on_some_side {a b : U32} (ha : a ≠ me) (hb : b ≠ me)
    (h : diff_left me a ≠ diff_left me b) :
    diff_left me a < diff_left me b ∨ diff_right me a < diff_right me b := by
  have hne : (diff_left me a).toNat ≠ (diff_left me b).toNat :=
    fun heq => h (BitVec.eq_of_toNat_eq heq)
  have hlt := (diff_left me b).isLt
  have hlt' := (diff_left me a).isLt
  rw [BitVec.lt_def, BitVec.lt_def, diff_right_toNat me a ha, diff_right_toNat me b hb]
  omega

/-- No three ids are at one distance. -/
theorem diff_left_two {a b c : U32} (ha : a ≠ me) (hb : b ≠ me) (hc : c ≠ me) (hab : a ≠ b)
    (hac : a ≠ c) (hbc : b ≠ c) (h : diff_left me a = diff_left me b) :
    diff_left me a ≠ diff_left me c := by
  intro h'
  have hnum : ∀ {x y : U32}, x ≠ y → x.toNat ≠ y.toNat :=
    fun hne heq => hne (BitVec.eq_of_toNat_eq heq)
  have hane := hnum ha
  have hbne := hnum hb
  have hcne := hnum hc
  have hab' := hnum hab
  have hac' := hnum hac
  have hbc' := hnum hbc
  have hleft := congrArg BitVec.toNat h
  have hleft' := congrArg BitVec.toNat h'
  have hamax := a.isLt
  have hbmax := b.isLt
  have hcmax := c.isLt
  have hmax := me.isLt
  rw [diff_left_toNat _ _ ha, diff_left_toNat _ _ hb] at hleft
  rw [diff_left_toNat _ _ ha, diff_left_toNat _ _ hc] at hleft'
  simp only [BitVec.lt_def] at hleft hleft'
  -- only the numbers matter from here on
  clear h h' hab hac hbc ha hb hc
  generalize a.toNat = a at *
  generalize b.toNat = b at *
  generalize c.toNat = c at *
  generalize me.toNat = me at *
  split_ifs at hleft hleft' <;> omega

end Distances

section Prediction

variable {me : U32}

/-- An entry as `insert_vset_node` makes it. -/
def vset_entry (me node : U32) : VsetEntry := ⟨node, diff_left me node, diff_right me node⟩

/-- The set of these ids, the newest first, with a counter that says how many
    they are. -/
def vset_of (me : U32) (ids : List U32) : Vset :=
  ⟨ids.map (vset_entry me), ids.length, by rw [List.length_map]⟩

theorem nodes_vset_of (me : U32) (ids : List U32) : (vset_of me ids).nodes = ids := by
  unfold Vset.nodes vset_of
  rw [List.map_map]
  exact List.map_id' ids

/-- Entries of ids that are equally far on the left are alike. -/
theorem alike_entry_iff {a b : U32} (ha : a ≠ me) (hb : b ≠ me) :
    (vset_entry me a).alike (vset_entry me b) = true ↔ diff_left me b = diff_left me a := by
  rw [VsetEntry.alike_iff]
  constructor
  · intro h
    exact h.1
  · intro h
    exact ⟨h, diff_right_eq hb ha h⟩

/-- A full set refuses no new id. -/
theorem should_add_of_new (ids : List U32) (node : U32) (gl gr : Garbage) (hnodup : ids.Nodup)
    (hme : ∀ id ∈ ids, id ≠ me) (hlen : ids.length ≤ VRR_VSET_SIZE) (hnew : node ∉ ids)
    (hnode : node ≠ me) : vset_should_add me (vset_of me ids) node gl gr = true := by
  unfold vset_should_add
  rw [nodes_vset_of, if_neg hnew]
  by_cases hroom : (vset_of me ids).vset_size < VRR_VSET_SIZE
  · rw [if_pos hroom]
  rw [if_neg hroom]
  have hfour : ids.length = 4 := Nat.le_antisymm hlen (Nat.le_of_not_lt hroom)
  -- the words in front of the radius come from the second and the fourth entry
  obtain ⟨b, hb⟩ : ∃ b, ids[1]? = some b := ⟨_, List.getElem?_eq_getElem (by omega)⟩
  obtain ⟨d, hd⟩ : ∃ d, ids[3]? = some d := ⟨_, List.getElem?_eq_getElem (by omega)⟩
  have hbd : b ≠ d := by
    intro heq
    have hsame := hb.trans ((congrArg some heq).trans hd.symm)
    exact absurd ((List.nodup_iff_getElem?_ne_getElem?.mp hnodup) 1 3 (by omega) (by omega))
      (not_not.mpr hsame)
  have horder : ∀ i p e, (blind_order 4)[i]? = some p → ids[p]? = some e →
      ∀ (f : VsetEntry → U32) (g : Garbage), (sort_diffs (fill ((vset_of me ids).list.map f)
        (vset_of me ids).vset_size g)).getD i 0 = f (vset_entry me e) := by
    intro i p e hp he f g
    refine slot_of_entry (vset_of me ids) f g i p _ ?_ ?_
    · rw [show (vset_of me ids).vset_size = 4 from hfour]
      exact hp
    · unfold vset_of
      rw [List.getElem?_map, he, Option.map_some]
  have hbmem := List.mem_of_getElem? hb
  have hdmem := List.mem_of_getElem? hd
  -- the new id is not at the distance of both
  by_cases hleft : diff_left me node = diff_left me b
  · have hother := diff_left_two hnode (hme b hbmem) (hme d hdmem) (fun h => hnew (h ▸ hbmem))
      (fun h => hnew (h ▸ hdmem)) hbd hleft
    rw [List.any_eq_true]
    refine ⟨1, by decide, ?_⟩
    rw [horder 1 3 d rfl hd, horder 1 3 d rfl hd, Bool.or_eq_true, decide_eq_true_eq,
      decide_eq_true_eq]
    exact closer_on_some_side hnode (hme d hdmem) hother
  · rw [List.any_eq_true]
    refine ⟨0, by decide, ?_⟩
    rw [horder 0 1 b rfl hb, horder 0 1 b rfl hb, Bool.or_eq_true, decide_eq_true_eq,
      decide_eq_true_eq]
    exact closer_on_some_side hnode (hme b hbmem) hleft

/-- A new id stays in the set, unless the set was full and the newest entry is
    just as far away. -/
theorem mem_vset_add_iff (ids : List U32) (node rem : U32) (gl gr : Garbage)
    (hme : ∀ id ∈ ids, id ≠ me) (hlen : ids.length ≤ VRR_VSET_SIZE) (hnew : node ∉ ids)
    (hnode : node ≠ me) : node ∈ (vset_add me (vset_of me ids) node rem gl gr).2.2.nodes ↔
      ids.length < VRR_VSET_SIZE ∨ ∀ id ∈ ids.head?, diff_left me node ≠ diff_left me id := by
  have hins : insert_vset_node me (vset_of me ids) node = vset_of me (node :: ids) := rfl
  rw [vset_add_set, nodes_vset_of, if_neg hnew, hins]
  by_cases hroom : ids.length < VRR_VSET_SIZE
  · have hle : (vset_of me (node :: ids)).vset_size ≤ VRR_VSET_SIZE := hroom
    rcases vset_bump_cases (vset_of me (node :: ids)) rem gl gr with ⟨_, h⟩ | ⟨hlt, _⟩ | ⟨hlt, _⟩
    · rw [h, nodes_vset_of]
      exact iff_of_true List.mem_cons_self (Or.inl hroom)
    · exact absurd hle (Nat.not_le_of_lt hlt)
    · exact absurd hle (Nat.not_le_of_lt hlt)
  -- a full set: the word in the middle is the distance of the newest old entry
  have hfour : ids.length = 4 := Nat.le_antisymm hlen (Nat.le_of_not_lt hroom)
  cases hids : ids with
  | nil =>
      rw [hids] at hfour
      exact absurd hfour (by decide)
  | cons b rest =>
      rw [hids] at hfour hnew hme hroom
      have hsize : (vset_of me (node :: b :: rest)).vset_size = 5 := congrArg Nat.succ hfour
      have hfull : VRR_VSET_SIZE < (vset_of me (node :: b :: rest)).vset_size := by
        rw [hsize]
        decide
      obtain ⟨tmp, _, hbump⟩ := vset_bump_at (vset_of me (node :: b :: rest)) rem gl gr 1
        (vset_entry me b) hfull (by rw [hsize]; rfl) rfl
      have halike := alike_entry_iff (hme b List.mem_cons_self) hnode
      rw [hbump, or_iff_right hroom, List.head?_cons]
      simp only [Option.mem_def, Option.some.injEq, forall_eq']
      by_cases hsame : diff_left me node = diff_left me b
      · -- the new entry is the first that is alike
        have hunlink : ((vset_of me (node :: b :: rest)).unlink (vset_entry me b).alike).nodes =
            (vset_of me (b :: rest)).nodes := by
          have herase := List.eraseP_cons_of_pos (l := (b :: rest).map (vset_entry me))
            (halike.mpr hsame)
          exact congrArg (List.map VsetEntry.node) herase
        rw [hunlink, nodes_vset_of]
        exact iff_of_false hnew (fun h => h hsame)
      · have hmiss : ¬ (vset_entry me b).alike (vset_entry me node) = true :=
          fun h => hsame (halike.mp h)
        have herase := List.eraseP_cons_of_neg (l := (b :: rest).map (vset_entry me)) hmiss
        have hunlink := congrArg (List.map VsetEntry.node) herase
        refine iff_of_true ?_ hsame
        change node ∈ List.map VsetEntry.node (List.eraseP _ (vset_entry me node :: _))
        rw [hunlink]
        exact List.mem_cons_self

/-- The acceptance test predicts the insertion unless the set is full and the
    newest id in it is recorded at the distance of the new one. -/
theorem should_add_predicts_iff (me : U32) (ids : List U32) (node rem : U32)
    (gl gr gl' gr' : Garbage) (hnodup : ids.Nodup) (hme : ∀ id ∈ ids, id ≠ me)
    (hlen : ids.length ≤ VRR_VSET_SIZE) (hnew : node ∉ ids) (hnode : node ≠ me) :
    (vset_should_add me (vset_of me ids) node gl gr = true ↔
      node ∈ (vset_add me (vset_of me ids) node rem gl' gr').2.2.nodes) ↔
    (ids.length < VRR_VSET_SIZE ∨ ∀ id ∈ ids.head?, diff_left me node ≠ diff_left me id) := by
  rw [mem_vset_add_iff ids node rem gl' gr' hme hlen hnew hnode,
    iff_true_left (should_add_of_new ids node gl gr hnodup hme hlen hnew hnode)]

theorem should_add_predicts_six :
    (vset_should_add 0 (vset_of 0 [4, 3, 2, 1]) 6 (fun _ => 0) (fun _ => 0) = true ↔
      6 ∈ (vset_add 0 (vset_of 0 [4, 3, 2, 1]) 6 0 (fun _ => 0) (fun _ => 0)).2.2.nodes) ↔
    ([4, 3, 2, 1].length < VRR_VSET_SIZE ∨
      ∀ id ∈ ([4, 3, 2, 1] : List U32).head?, diff_left 0 6 ≠ diff_left 0 id) :=
  should_add_predicts_iff 0 [4, 3, 2, 1] 6 0 (fun _ => 0) (fun _ => 0) (fun _ => 0) (fun _ => 0)
    (by decide) (by simp) (by decide) (by decide) (by decide)

/-- The ids 1 and -1 are equally far from 0. -/
theorem should_add_mirror_wrong :
    ¬ (vset_should_add 0 (vset_of 0 [UINT_MAX, 2, 3, 4]) 1 (fun _ => 0) (fun _ => 0) = true ↔
      1 ∈ (vset_add 0 (vset_of 0 [UINT_MAX, 2, 3, 4]) 1 0
        (fun _ => 0) (fun _ => 0)).2.2.nodes) := by
  decide +kernel

end Prediction

section Reports

variable {me : U32}

/-- Unlinking the first entry found is unlinking that entry. -/
theorem eraseP_eq_erase_of_find? {hit : VsetEntry → Bool} {l : List VsetEntry} {tmp : VsetEntry}
    (h : l.find? hit = some tmp) : l.eraseP hit = l.erase tmp := by
  induction l with
  | nil => cases h
  | cons e l ih =>
      by_cases he : hit e = true
      · rw [List.find?_cons_of_pos he, Option.some.injEq] at h
        rw [List.eraseP_cons_of_pos he, ← h, List.erase_cons_head]
      · rw [List.find?_cons_of_neg he] at h
        have hne : e ≠ tmp := by
          intro heq
          rw [heq] at he
          exact he (List.find?_some h)
        rw [List.eraseP_cons_of_neg he, List.erase_cons_tail (by simpa using hne), ih h]

/-- An addition that returns 1 has unlinked one entry and stored its id, and one
    that returns 0 has unlinked none. -/
def VsetOp.Reports (me : U32) (v : Vset) : VsetOp → Prop
  | vset_add node gl gr => ∀ rem ret rem' v',
      AlpacaVrr.vset_add me v node rem gl gr = (ret, rem', v') →
        (ret = 1 → ∃ tmp ∈ (insert_vset_node me v node).list, rem' = tmp.node ∧
          v'.list = (insert_vset_node me v node).list.erase tmp) ∧
        (ret = 0 → v'.list = (insert_vset_node me v node).list)
  | vset_remove _ => True

/-- The addition of a new id to a set without room compares with the distances
    of an entry, the new one included, and not with unwritten words. -/
def VsetOp.Finds (v : Vset) : VsetOp → Prop
  | vset_add node _ _ => node ∈ v.nodes ∨ v.vset_size < VRR_VSET_SIZE ∨
      ∃ p ≤ v.list.length, (blind_order (v.vset_size + 1))[VRR_VSET_SIZE / 2]? = some p
  | vset_remove _ => True

/-- The three ways an addition ends that finds an entry when it needs one. -/
theorem vset_add_cases (me : U32) (v : Vset) (node : U32) (gl gr : Garbage)
    (hfinds : (VsetOp.vset_add node gl gr).Finds v) (rem : U32) :
    (node ∈ v.nodes ∧ vset_add me v node rem gl gr = (-1, rem, v)) ∨
    (node ∉ v.nodes ∧ v.vset_size < VRR_VSET_SIZE ∧
      vset_add me v node rem gl gr = (0, rem, insert_vset_node me v node)) ∨
    (node ∉ v.nodes ∧ VRR_VSET_SIZE ≤ v.vset_size ∧ ∃ hit tmp,
      (insert_vset_node me v node).list.find? hit = some tmp ∧
      vset_add me v node rem gl gr = (1, tmp.node, (insert_vset_node me v node).unlink hit)) := by
  unfold vset_add
  by_cases hmem : node ∈ v.nodes
  · exact Or.inl ⟨hmem, if_pos hmem⟩
  rw [if_neg hmem]
  by_cases hroom : v.vset_size < VRR_VSET_SIZE
  · -- room for one more
    have hle : (insert_vset_node me v node).vset_size ≤ VRR_VSET_SIZE := hroom
    have hbump : vset_bump (insert_vset_node me v node) rem gl gr =
        (0, rem, insert_vset_node me v node) := by
      unfold vset_bump
      simp only [if_pos hle]
    rw [hbump]
    exact Or.inr (Or.inl ⟨hmem, hroom, rfl⟩)
  · obtain ⟨p, hp, horder⟩ := (hfinds.resolve_left hmem).resolve_left hroom
    have hlt : p < (insert_vset_node me v node).list.length := Nat.lt_succ_of_le hp
    have hfull : VRR_VSET_SIZE < (insert_vset_node me v node).vset_size :=
      Nat.lt_succ_of_le (Nat.le_of_not_lt hroom)
    obtain ⟨tmp, hfind, hbump⟩ := vset_bump_at (insert_vset_node me v node) rem gl gr p _ hfull
      horder (List.getElem?_eq_getElem hlt)
    rw [hbump]
    exact Or.inr (Or.inr ⟨hmem, Nat.le_of_not_lt hroom, _, tmp, hfind, rfl⟩)

theorem reports_of_finds (v : Vset) (op : VsetOp) (h : op.Finds v) : op.Reports me v := by
  cases op with
  | vset_remove node => trivial
  | vset_add node gl gr =>
      intro rem ret rem' v' hrun
      rcases vset_add_cases me v node gl gr h rem with
        ⟨_, heq⟩ | ⟨_, _, heq⟩ | ⟨_, _, hit, tmp, hfind, heq⟩
      · -- the id is there already
        rw [heq, Prod.mk.injEq] at hrun
        constructor <;> intro hret <;> omega
      · rw [heq, Prod.mk.injEq, Prod.mk.injEq] at hrun
        constructor
        · intro hret
          omega
        · intro _
          rw [← hrun.2.2]
      · rw [heq, Prod.mk.injEq, Prod.mk.injEq] at hrun
        constructor
        · intro _
          rw [← hrun.2.1, ← hrun.2.2]
          exact ⟨tmp, List.mem_of_find?_eq_some hfind, rfl, eraseP_eq_erase_of_find? hfind⟩
        · intro hret
          omega

/-- Distances as `insert_vset_node` records them, and not of the local node. -/
def Recorded (me : U32) (v : Vset) : Prop :=
  ∀ tmp ∈ v.list, tmp = vset_entry me tmp.node ∧ tmp.node ≠ me

/-- With zeroes behind the entries, an addition that looks there unlinks
    nothing and returns 1. -/
theorem vset_add_missing (v : Vset) (node rem : U32) (hrec : Recorded me v) (hnode : node ≠ me)
    (hnew : node ∉ v.nodes) (hfull : VRR_VSET_SIZE ≤ v.vset_size)
    (hmiss : ¬ ∃ p ≤ v.list.length,
      (blind_order (v.vset_size + 1))[VRR_VSET_SIZE / 2]? = some p) :
    vset_add me v node rem (fun _ => 0) (fun _ => 0) = (1, rem, insert_vset_node me v node) := by
  have hlen : (insert_vset_node me v node).list.length = v.list.length + 1 := List.length_cons
  have hslot : ∀ f : VsetEntry → U32, (sort_diffs (fill ((insert_vset_node me v node).list.map f)
      (insert_vset_node me v node).vset_size (fun _ => 0))).getD (VRR_VSET_SIZE / 2) 0 = 0 := by
    intro f
    have hle := (insert_vset_node me v node).length_le
    have hfill := length_fill ((insert_vset_node me v node).list.map f)
      (insert_vset_node me v node).vset_size (fun _ => 0) (by rw [List.length_map]; exact hle)
    cases horder : (blind_order (insert_vset_node me v node).vset_size)[VRR_VSET_SIZE / 2]? with
    | none =>
        rw [sort_diffs_eq, hfill, List.getD_eq_getElem?_getD, List.getElem?_map, horder]
        rfl
    | some p =>
        -- the word comes from behind the entries
        have hp : v.list.length < p := by
          by_contra hle
          exact hmiss ⟨p, Nat.le_of_not_lt hle, horder⟩
        rw [sort_diffs_getD _ _ p (by rw [hfill]; exact horder), fill,
          List.getD_append_right _ _ _ _ (by rw [List.length_map, hlen]; exact hp),
          List.getD_eq_getElem?_getD, List.getElem?_map]
        cases (List.range ((insert_vset_node me v node).vset_size -
          ((insert_vset_node me v node).list.map f).length))[p -
            ((insert_vset_node me v node).list.map f).length]? <;> rfl
  have hnone : (insert_vset_node me v node).list.find?
      (fun tmp => tmp.diff_left == 0 && tmp.diff_right == 0) = none := by
    rw [List.find?_eq_none]
    intro tmp htmp hzero
    have hentry : tmp = vset_entry me tmp.node ∧ tmp.node ≠ me := by
      rcases List.mem_cons.mp htmp with heq | hold
      · rw [heq]
        exact ⟨rfl, hnode⟩
      · exact hrec tmp hold
    -- the two distances add up to `UINT_MAX`
    have hsum := diff_right_toNat me tmp.node hentry.2
    rw [Bool.and_eq_true, beq_iff_eq, beq_iff_eq, hentry.1] at hzero
    rw [show diff_right me tmp.node = 0 from hzero.2,
      show diff_left me tmp.node = 0 from hzero.1] at hsum
    exact absurd hsum (by decide)
  have hgt : ¬ (insert_vset_node me v node).vset_size ≤ VRR_VSET_SIZE :=
    Nat.not_le_of_lt (Nat.lt_succ_of_le hfull)
  have hbump : vset_bump (insert_vset_node me v node) rem (fun _ => 0) (fun _ => 0) =
      (-1, rem, insert_vset_node me v node) := by
    unfold vset_bump
    simp only [if_neg hgt, hslot, hnone]
  unfold vset_add
  rw [if_neg hnew, hbump]
  rfl

/-- An addition reports what it did in any memory exactly when the place it
    looks at is one of the list, or it need not look. -/
theorem reports_iff (v : Vset) (node : U32) (g : Garbage) (hrec : Recorded me v)
    (hnode : node ≠ me) : (∀ gl gr, (VsetOp.vset_add node gl gr).Reports me v) ↔
      (VsetOp.vset_add node g g).Finds v := by
  constructor
  · intro hall
    by_cases hnew : node ∈ v.nodes
    · exact Or.inl hnew
    by_cases hroom : v.vset_size < VRR_VSET_SIZE
    · exact Or.inr (Or.inl hroom)
    by_contra hnot
    have hmiss := vset_add_missing v node 0 hrec hnode hnew (Nat.le_of_not_lt hroom)
      (fun hp => hnot (Or.inr (Or.inr hp)))
    obtain ⟨hone, _⟩ := hall (fun _ => 0) (fun _ => 0) 0 1 0 _ hmiss
    obtain ⟨tmp, hmem, _, hlist⟩ := hone rfl
    have hlen := List.length_erase_of_mem hmem
    have hpos := List.length_pos_of_mem hmem
    rw [← hlist] at hlen
    omega
  · intro h gl gr
    exact reports_of_finds v (.vset_add node gl gr) h

/-- The set after a removal. -/
theorem vset_remove_set (v : Vset) (node : U32) : (vset_remove v node).2 =
    if node ∈ v.nodes then v.unlink (fun tmp => tmp.node == node) else v := by
  unfold vset_remove
  split_ifs <;> rfl

theorem recorded_apply (v : Vset) (op : VsetOp) (hrec : Recorded me v)
    (hop : ∀ node gl gr, op = .vset_add node gl gr → node ≠ me) : Recorded me (op.apply me v) := by
  cases op with
  | vset_remove node =>
      rw [VsetOp.apply, vset_remove_set]
      split_ifs
      · intro tmp htmp
        exact hrec tmp (List.mem_of_mem_eraseP htmp)
      · exact hrec
  | vset_add node gl gr =>
      have hins : Recorded me (insert_vset_node me v node) := by
        intro tmp htmp
        rcases List.mem_cons.mp htmp with heq | hold
        · rw [heq]
          exact ⟨rfl, hop node gl gr rfl⟩
        · exact hrec tmp hold
      rw [VsetOp.apply, vset_add_set]
      split_ifs
      · exact hrec
      · rcases vset_bump_cases (insert_vset_node me v node) 0 gl gr with
          ⟨_, h⟩ | ⟨_, hit, tmp, _, h⟩ | ⟨_, h⟩
        · rw [h]
          exact hins
        · rw [h]
          intro e he
          exact hins e (List.mem_of_mem_eraseP he)
        · rw [h]
          exact hins

/-- After any history of other ids, an addition reports what it did in any
    memory exactly when it finds an entry. -/
theorem reports_run_iff (me : U32) (ops : List VsetOp) (node : U32) (g : Garbage)
    (hops : ∀ op ∈ ops, ∀ node gl gr, op = .vset_add node gl gr → node ≠ me) (hnode : node ≠ me) :
    (∀ gl gr, (VsetOp.vset_add node gl gr).Reports me (vset_run me ops)) ↔
      (VsetOp.vset_add node g g).Finds (vset_run me ops) := by
  have hrec : ∀ (ops : List VsetOp) (v : Vset), Recorded me v →
      (∀ op ∈ ops, ∀ node gl gr, op = .vset_add node gl gr → node ≠ me) →
      Recorded me (ops.foldl (VsetOp.apply me) v) := by
    intro ops
    induction ops with
    | nil =>
        intro v hv _
        exact hv
    | cons op ops ih =>
        intro v hv hall
        exact ih (op.apply me v) (recorded_apply v op hv (hall op List.mem_cons_self))
          (fun op' hop' => hall op' (List.mem_cons_of_mem op hop'))
  exact reports_iff (vset_run me ops) node g
    (hrec ops Vset.init (fun _ h => absurd h List.not_mem_nil) hops) hnode

/-- Distinct ids, and no more than there is room for. -/
structure VsetBounded (v : Vset) : Prop where
  nodup : v.nodes.Nodup
  length_le : v.list.length ≤ VRR_VSET_SIZE

theorem bounded_apply (v : Vset) (op : VsetOp) (hv : VsetBounded v) (h : op.Finds v) :
    VsetBounded (op.apply me v) := by
  cases op with
  | vset_remove node =>
      rw [VsetOp.apply, vset_remove_set]
      split_ifs
      · have hsub : (v.list.eraseP (fun tmp => tmp.node == node)).Sublist v.list :=
          List.eraseP_sublist
        exact ⟨hv.nodup.sublist (hsub.map _), Nat.le_trans hsub.length_le hv.length_le⟩
      · exact hv
  | vset_add node gl gr =>
      rw [VsetOp.apply]
      rcases vset_add_cases me v node gl gr h 0 with
        ⟨_, heq⟩ | ⟨hnew, hroom, heq⟩ | ⟨hnew, _, hit, tmp, hfind, heq⟩
      · rw [heq]
        exact hv
      · rw [heq]
        refine ⟨List.nodup_cons.mpr ⟨hnew, hv.nodup⟩, ?_⟩
        have hle := v.length_le
        change v.list.length + 1 ≤ VRR_VSET_SIZE
        omega
      · -- one in and one out
        rw [heq]
        have hsub := List.eraseP_sublist (p := hit) (l := (insert_vset_node me v node).list)
        have hnodup : (insert_vset_node me v node).nodes.Nodup :=
          List.nodup_cons.mpr ⟨hnew, hv.nodup⟩
        refine ⟨hnodup.sublist (hsub.map _), ?_⟩
        have hlen := length_unlink (insert_vset_node me v node) hit tmp hfind
        have hcons : (insert_vset_node me v node).list.length = v.list.length + 1 :=
          List.length_cons
        have hle := hv.length_le
        change ((insert_vset_node me v node).unlink hit).list.length ≤ VRR_VSET_SIZE
        omega

/-- Every addition of the history finds an entry when it needs one. -/
def FindsAll (me : U32) : Vset → List VsetOp → Prop
  | _, [] => True
  | v, op :: ops => op.Finds v ∧ FindsAll me (op.apply me v) ops

theorem findsAll_append (v : Vset) (ops ops' : List VsetOp) :
    FindsAll me v (ops ++ ops') ↔
      FindsAll me v ops ∧ FindsAll me (ops.foldl (VsetOp.apply me) v) ops' := by
  induction ops generalizing v with
  | nil =>
      simp only [List.nil_append, FindsAll, true_and, List.foldl_nil]
  | cons op ops ih =>
      simp only [List.cons_append, FindsAll, List.foldl_cons, ih, and_assoc]

theorem bounded_foldl (v : Vset) (ops : List VsetOp) (hv : VsetBounded v) (h : FindsAll me v ops) :
    VsetBounded (ops.foldl (VsetOp.apply me) v) := by
  induction ops generalizing v with
  | nil => exact hv
  | cons op ops ih => exact ih (op.apply me v) (bounded_apply v op hv h.1) h.2

/-- After each call of such a history the set is bounded and the call has
    reported what it did. -/
theorem history_sound (me : U32) (ops : List VsetOp) (op : VsetOp)
    (h : FindsAll me Vset.init (ops ++ [op])) :
    VsetBounded (vset_run me (ops ++ [op])) ∧ op.Reports me (vset_run me ops) := by
  have hstart : VsetBounded Vset.init := ⟨List.nodup_nil, Nat.zero_le _⟩
  have hlast := (findsAll_append Vset.init ops [op]).mp h
  constructor
  · exact bounded_foldl Vset.init (ops ++ [op]) hstart h
  · exact reports_of_finds (vset_run me ops) op hlast.2.1

/-- Five additions to a fresh set. -/
theorem history_sound_five :
    VsetBounded (vset_run 0
        ([1, 2, 3, 4].map (fun n => VsetOp.vset_add n 0 0) ++ [.vset_add 5 0 0])) ∧
      (VsetOp.vset_add 5 0 0).Reports 0
        (vset_run 0 ([1, 2, 3, 4].map (fun n => VsetOp.vset_add n 0 0))) := by
  refine history_sound 0 ([1, 2, 3, 4].map (fun n => VsetOp.vset_add n 0 0)) (.vset_add 5 0 0) ?_
  refine ⟨Or.inr (Or.inl ?_), Or.inr (Or.inl ?_), Or.inr (Or.inl ?_), Or.inr (Or.inl ?_),
    Or.inr (Or.inr ⟨1, ?_, rfl⟩), trivial⟩ <;> decide

/-- Four additions and their removals. -/
def emptied : Vset := vset_run 0 ([1, 2, 3, 4].map (fun n => VsetOp.vset_add n 0 0) ++
  [1, 2, 3, 4].map VsetOp.vset_remove)

/-- The counter is still at four, and the next addition looks behind the list. -/
theorem history_emptied : ¬ (VsetOp.vset_add 5 0 0).Reports 0 emptied := by
  intro h
  have hret : (vset_add 0 emptied 5 0 0 0).1 = 1 ∧ (vset_add 0 emptied 5 0 0 0).2.1 = 0 ∧
      (vset_add 0 emptied 5 0 0 0).2.2.list.length = 1 := by decide +kernel
  obtain ⟨hone, _⟩ := h 0 1 0 (vset_add 0 emptied 5 0 0 0).2.2
    (Prod.ext hret.1 (Prod.ext hret.2.1 rfl))
  obtain ⟨tmp, hmem, _, hlist⟩ := hone rfl
  -- one entry before and one after
  have hlen := List.length_erase_of_mem hmem
  have hbefore : (insert_vset_node 0 emptied 5).list.length = 1 := by decide +kernel
  rw [← hlist, hret.2.2, hbefore] at hlen
  omega

end Reports

section Farthest

/-- As many entries are closer on either side as the radius says. -/
structure VsetEntry.Middle (l : List VsetEntry) (tmp : VsetEntry) : Prop where
  mem : tmp ∈ l
  left : (l.filter (fun e => decide (e.diff_left < tmp.diff_left))).length = VRR_VSET_SIZE / 2
  right : (l.filter (fun e => decide (e.diff_right < tmp.diff_right))).length = VRR_VSET_SIZE / 2

/-- With distinct distances no entry is like another. -/
theorem eraseP_alike {l : List VsetEntry} {b : VsetEntry}
    (hleft : (l.map VsetEntry.diff_left).Nodup) (hb : b ∈ l) : l.eraseP b.alike = l.erase b := by
  have hself : b.alike b = true := (VsetEntry.alike_iff b b).mpr ⟨rfl, rfl⟩
  cases hfind : l.find? b.alike with
  | none => exact absurd hself (List.find?_eq_none.mp hfind b hb)
  | some tmp =>
      have halike := (VsetEntry.alike_iff b tmp).mp (List.find?_some hfind)
      have heq := List.inj_on_of_nodup_map hleft (List.mem_of_find?_eq_some hfind) hb halike.1
      rw [eraseP_eq_erase_of_find? hfind, heq]

/-- Of five entries with an exact counter the second is evicted, so that the
    eviction takes the farthest one exactly when that is the second. -/
theorem bump_farthest_iff (v : Vset) (rem : U32) (gl gr : Garbage)
    (hlen : v.list.length = VRR_VSET_SIZE + 1) (hsize : v.vset_size = v.list.length)
    (hleft : (v.list.map VsetEntry.diff_left).Nodup) :
    (∃ tmp, VsetEntry.Middle v.list tmp ∧ (vset_bump v rem gl gr).1 = 1 ∧
      (vset_bump v rem gl gr).2.1 = tmp.node ∧
      (vset_bump v rem gl gr).2.2.list = v.list.erase tmp) ↔
    ∃ tmp, v.list[1]? = some tmp ∧ VsetEntry.Middle v.list tmp := by
  have hfour : VRR_VSET_SIZE = 4 := rfl
  obtain ⟨b, hb⟩ : ∃ b, v.list[1]? = some b := ⟨_, List.getElem?_eq_getElem (by omega)⟩
  have hmem := List.mem_of_getElem? hb
  have horder : (blind_order v.vset_size)[VRR_VSET_SIZE / 2]? = some 1 :=
    blind_order_middle v.vset_size (by omega) (by omega)
  obtain ⟨tmp, hfind, hbump⟩ := vset_bump_at v rem gl gr 1 b (by omega) horder hb
  have htmp : tmp = b := by
    have halike := (VsetEntry.alike_iff b tmp).mp (List.find?_some hfind)
    exact List.inj_on_of_nodup_map hleft (List.mem_of_find?_eq_some hfind) hmem halike.1
  have hlist : (v.unlink b.alike).list = v.list.erase b := eraseP_alike hleft hmem
  rw [hbump, htmp]
  constructor
  · rintro ⟨e, hmiddle, _, _, herase⟩
    have hsame : e = b := by
      by_contra hne
      -- the second entry would still be there
      have hkept := (List.mem_erase_of_ne (Ne.symm hne)).mpr hmem
      rw [← herase] at hkept
      change b ∈ (v.unlink b.alike).list at hkept
      rw [hlist] at hkept
      exact (List.Nodup.mem_erase_iff (List.Nodup.of_map _ hleft)).mp hkept |>.1 rfl
    rw [hsame] at hmiddle
    exact ⟨b, hb, hmiddle⟩
  · rintro ⟨e, he, hmiddle⟩
    have hsame : e = b := Option.some.inj (he.symm.trans hb)
    rw [hsame] at hmiddle
    exact ⟨b, hmiddle, rfl, rfl, hlist⟩

/-- The second of these is the third in order. -/
theorem bump_farthest_three :
    (∃ tmp, VsetEntry.Middle (vset_of 0 [1, 3, 2, 4, 5]).list tmp ∧
      (vset_bump (vset_of 0 [1, 3, 2, 4, 5]) 0 0 0).1 = 1 ∧
      (vset_bump (vset_of 0 [1, 3, 2, 4, 5]) 0 0 0).2.1 = tmp.node ∧
      (vset_bump (vset_of 0 [1, 3, 2, 4, 5]) 0 0 0).2.2.list =
        (vset_of 0 [1, 3, 2, 4, 5]).list.erase tmp) ↔
    ∃ tmp, (vset_of 0 [1, 3, 2, 4, 5]).list[1]? = some tmp ∧
      VsetEntry.Middle (vset_of 0 [1, 3, 2, 4, 5]).list tmp :=
  bump_farthest_iff (vset_of 0 [1, 3, 2, 4, 5]) 0 0 0 rfl rfl (by decide +kernel)

/-- Here it is the nearest one that is evicted. -/
theorem bump_nearest :
    ¬ ∃ tmp, VsetEntry.Middle (vset_of 0 [5, 1, 2, 3, 4]).list tmp ∧
      (vset_bump (vset_of 0 [5, 1, 2, 3, 4]) 0 0 0).1 = 1 ∧
      (vset_bump (vset_of 0 [5, 1, 2, 3, 4]) 0 0 0).2.1 = tmp.node ∧
      (vset_bump (vset_of 0 [5, 1, 2, 3, 4]) 0 0 0).2.2.list =
        (vset_of 0 [5, 1, 2, 3, 4]).list.erase tmp := by
  have hone : (vset_bump (vset_of 0 [5, 1, 2, 3, 4]) 0 0 0).2.1 = 1 := by decide +kernel
  rintro ⟨tmp, hmiddle, _, hnode, _⟩
  rw [hone] at hnode
  -- the entry of the id 1 has no closer one on the right
  have hentry : ∀ e ∈ (vset_of 0 [5, 1, 2, 3, 4]).list, e.node = 1 → e = vset_entry 0 1 := by
    decide +kernel
  have hright := hmiddle.right
  rw [hentry tmp hmiddle.mem hnode.symm] at hright
  exact absurd hright (by decide +kernel)

end Farthest

end AlpacaVrr
