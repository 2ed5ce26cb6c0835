import AlpacaVrr.Theory.Eviction

/-!
# Recorded Distances and the Ring

When the two distances that an entry records order the ids as the ring does.

`insert_vset_node` and `vset_should_add` build both distances from `get_diff`,
the shorter way round, and ask the number line on which side of the local node
the id is. As the two add up to `UINT_MAX`, and the two ways round add up to
`2 ^ 32`, it is one comparison on either side: the ids are ordered rightly in
both directions or wrongly in one of them.

Two ids on one side of the local node are told apart by the shorter way round
alone. This is right until the longer of the two is more than half the ring
away and the shorter one does not make up for it. Ids on different sides are
ordered rightly but for one pair, the two ends of the number line seen from one
of the two ids in the middle of it. There `UINT_MAX` should have been `2 ^ 32`,
and the two ids are recorded at one distance.

## Main definitions

* `line_dist`: The distance of an id on the number line.
* `OrderedAsRing`: The recorded distances order two ids as the ring does.

## Theorems

* `same_side_iff`, `opposite_iff`: The two cases.
* `ring_order_iff`: When the recorded distances order two ids.
* `ring_order_near`: They order all ids that are less than half a ring away.
-/

namespace AlpacaVrr

/-- How far an id is from the local node on the number line. -/
def line_dist (me node : U32) : Nat := (node.toNat - me.toNat) + (me.toNat - node.toNat)

/-- On either side, the recorded distances of two ids are in the order of the
    true ones. -/
def OrderedAsRing (me x y : U32) : Prop :=
  (diff_left me x < diff_left me y ↔ me - x < me - y) ∧
    (diff_right me x < diff_right me y ↔ x - me < y - me)

variable {me x y : U32}

theorem toNat_ne (h : x ≠ y) : x.toNat ≠ y.toNat := fun heq => h (BitVec.eq_of_toNat_eq heq)

section Numbers

theorem diff_left_below (h : x < me) :
    (diff_left me x).toNat = min (line_dist me x) (2 ^ 32 - line_dist me x) := by
  have hlt : x.toNat < me.toNat := h
  rw [diff_left_toNat me x (ne_of_lt h), if_neg (not_lt_of_gt h)]
  unfold line_dist
  omega

theorem diff_left_above (h : me < x) :
    (diff_left me x).toNat = 2 ^ 32 - 1 - min (line_dist me x) (2 ^ 32 - line_dist me x) := by
  have hlt : me.toNat < x.toNat := h
  rw [diff_left_toNat me x (ne_of_gt h), if_pos h]
  unfold line_dist
  omega

theorem left_below (h : x < me) : (me - x).toNat = line_dist me x := by
  have hlt : x.toNat < me.toNat := h
  have hme := me.isLt
  rw [BitVec.toNat_sub]
  unfold line_dist
  omega

theorem left_above (h : me < x) : (me - x).toNat = 2 ^ 32 - line_dist me x := by
  have hlt : me.toNat < x.toNat := h
  have hx := x.isLt
  rw [BitVec.toNat_sub]
  unfold line_dist
  omega

theorem line_dist_lt : line_dist me x < 2 ^ 32 := by
  have hx := x.isLt
  have hme := me.isLt
  unfold line_dist
  omega

/-- On one side, ids are as far apart as their distances. -/
theorem line_dist_inj (hx : x ≠ me) (hside : x < me ↔ y < me) :
    line_dist me x = line_dist me y ↔ x = y := by
  have hne := toNat_ne hx
  rw [BitVec.lt_def, BitVec.lt_def] at hside
  rw [← BitVec.toNat_inj]
  unfold line_dist
  omega

end Numbers

section Sides

/-- The right distances are ordered as the left ones, the other way. -/
theorem diff_right_lt_iff (hx : x ≠ me) (hy : y ≠ me) :
    diff_right me x < diff_right me y ↔ diff_left me y < diff_left me x := by
  have hxl := (diff_left me x).isLt
  have hyl := (diff_left me y).isLt
  rw [BitVec.lt_def, BitVec.lt_def, diff_right_toNat me x hx, diff_right_toNat me y hy]
  omega

/-- On the ring, too. -/
theorem right_lt_iff (hx : x ≠ me) (hy : y ≠ me) : x - me < y - me ↔ me - y < me - x := by
  have hxne := toNat_ne hx
  have hyne := toNat_ne hy
  have hxl := x.isLt
  have hyl := y.isLt
  have hme := me.isLt
  rw [BitVec.lt_def, BitVec.lt_def]
  simp only [BitVec.toNat_sub]
  omega

/-- The right side says what the left one says of the ids exchanged. -/
theorem orderedAsRing_iff (hx : x ≠ me) (hy : y ≠ me) :
    OrderedAsRing me x y ↔ (diff_left me x < diff_left me y ↔ me - x < me - y) ∧
      (diff_left me y < diff_left me x ↔ me - y < me - x) := by
  unfold OrderedAsRing
  rw [diff_right_lt_iff hx hy, right_lt_iff hx hy]

theorem orderedAsRing_comm (hx : x ≠ me) (hy : y ≠ me) :
    OrderedAsRing me x y ↔ OrderedAsRing me y x := by
  rw [orderedAsRing_iff hx hy, orderedAsRing_iff hy hx]
  exact and_comm

theorem orderedAsRing_self (me x : U32) : OrderedAsRing me x x := by
  constructor <;> simp only [lt_irrefl]

/-- Two ids on one side are ordered rightly while their distances make less
    than a round. -/
theorem same_side_iff (hx : x ≠ me) (hy : y ≠ me) (hside : x < me ↔ y < me) (hne : x ≠ y) :
    OrderedAsRing me x y ↔ line_dist me x + line_dist me y < 2 ^ 32 := by
  have hdist := mt (line_dist_inj hx hside).mp hne
  have hxl : line_dist me x < 2 ^ 32 := line_dist_lt
  have hyl : line_dist me y < 2 ^ 32 := line_dist_lt
  rw [orderedAsRing_iff hx hy]
  simp only [BitVec.lt_def]
  by_cases hlt : x < me
  · rw [diff_left_below hlt, diff_left_below (hside.mp hlt), left_below hlt,
      left_below (hside.mp hlt)]
    omega
  · have hx' := lt_of_le_of_ne (not_lt.mp hlt) (Ne.symm hx)
    have hy' := lt_of_le_of_ne (not_lt.mp (mt hside.mpr hlt)) (Ne.symm hy)
    rw [diff_left_above hx', diff_left_above hy', left_above hx', left_above hy']
    omega

/-- Of two distances that make less than a round, the shorter ways make a round
    but one only when each is half of it, one of them short of one. -/
theorem shorter_lt_iff {d e : Nat} (h : d + e < 2 ^ 32) :
    min d (2 ^ 32 - d) < 2 ^ 32 - 1 - min e (2 ^ 32 - e) ↔
      ¬ (d + e = 2 ^ 32 - 1 ∧ (d = 2 ^ 31 - 1 ∨ d = 2 ^ 31)) := by
  rcases Nat.le_total d (2 ^ 32 - d) with hd | hd
  · rw [min_eq_left hd]
    rcases Nat.le_total e (2 ^ 32 - e) with he | he
    · rw [min_eq_left he]
      omega
    · rw [min_eq_right he]
      omega
  · rw [min_eq_right hd]
    rcases Nat.le_total e (2 ^ 32 - e) with he | he
    · rw [min_eq_left he]
      omega
    · rw [min_eq_right he]
      omega

/-- Two ids on different sides are ordered rightly, but for the ends of the
    number line seen from its middle. -/
theorem across_iff (hx : x < me) (hy : me < y) :
    OrderedAsRing me x y ↔ ¬ (x = 0 ∧ y = UINT_MAX ∧ (me = 2 ^ 31 - 1 ∨ me = 2 ^ 31)) := by
  have hxn : x.toNat < me.toNat := hx
  have hyn : me.toNat < y.toNat := hy
  have hyl := y.isLt
  have hdx : line_dist me x = me.toNat - x.toNat := by
    unfold line_dist
    omega
  have hdy : line_dist me y = y.toNat - me.toNat := by
    unfold line_dist
    omega
  have hround : line_dist me x + line_dist me y < 2 ^ 32 := by omega
  -- on the ring to the left of the local node, the lower id always comes first
  have hfirst : line_dist me x < 2 ^ 32 - line_dist me y := by omega
  rw [orderedAsRing_iff (ne_of_lt hx) (ne_of_gt hy)]
  simp only [BitVec.lt_def]
  rw [diff_left_below hx, diff_left_above hy, left_below hx, left_above hy, iff_true_right hfirst,
    iff_false_right (not_lt_of_gt hfirst), and_iff_left_of_imp (fun h => not_lt_of_gt h),
    shorter_lt_iff hround, hdx, hdy]
  refine not_congr ?_
  have h0 : x = 0 ↔ x.toNat = 0 := by
    rw [← BitVec.toNat_inj]
    rfl
  have hmax : y = UINT_MAX ↔ y.toNat = 2 ^ 32 - 1 := by
    rw [← BitVec.toNat_inj]
    rfl
  have hmid : me = 2 ^ 31 - 1 ↔ me.toNat = 2 ^ 31 - 1 := by
    rw [← BitVec.toNat_inj]
    rfl
  have hmid' : me = 2 ^ 31 ↔ me.toNat = 2 ^ 31 := by
    rw [← BitVec.toNat_inj]
    rfl
  rw [h0, hmax, hmid, hmid']
  omega

end Sides

/-- The same for both orders of the two ids. -/
theorem opposite_iff (hx : x ≠ me) (hy : y ≠ me) (hside : ¬ (x < me ↔ y < me)) :
    OrderedAsRing me x y ↔ ¬ ((x = 0 ∧ y = UINT_MAX ∨ x = UINT_MAX ∧ y = 0) ∧
      (me = 2 ^ 31 - 1 ∨ me = 2 ^ 31)) := by
  have hseam : (0 : U32) < UINT_MAX := by decide
  by_cases hlt : x < me
  · have hy' : me < y :=
      lt_of_le_of_ne (not_lt.mp (fun h => hside (iff_of_true hlt h))) (Ne.symm hy)
    have hother : ¬ (x = UINT_MAX ∧ y = 0) := by
      rintro ⟨rfl, rfl⟩
      exact lt_asymm hseam (lt_trans hlt hy')
    rw [across_iff hlt hy', or_iff_left hother, and_assoc]
  · have hx' : me < x := lt_of_le_of_ne (not_lt.mp hlt) (Ne.symm hx)
    have hy' : y < me := not_le.mp (fun h => hside (iff_of_false hlt (not_lt.mpr h)))
    have hother : ¬ (x = 0 ∧ y = UINT_MAX) := by
      rintro ⟨rfl, rfl⟩
      exact lt_asymm hseam (lt_trans hy' hx')
    rw [orderedAsRing_comm hx hy, across_iff hy' hx', or_iff_right hother, and_assoc,
      and_left_comm]

/-- Two ids are ordered rightly when they are one, when they are on one side
    and their distances make less than a round, and on different sides of the
    local node but for one pair seen from two places. -/
theorem ring_order_iff (me x y : U32) (hx : x ≠ me) (hy : y ≠ me) :
    ((diff_left me x < diff_left me y ↔ me - x < me - y) ∧
      (diff_right me x < diff_right me y ↔ x - me < y - me)) ↔
      x = y ∨ ((x < me ↔ y < me) ∧ line_dist me x + line_dist me y < 2 ^ 32) ∨
      (¬ (x < me ↔ y < me) ∧ ¬ ((x = 0 ∧ y = UINT_MAX ∨ x = UINT_MAX ∧ y = 0) ∧
        (me = 2 ^ 31 - 1 ∨ me = 2 ^ 31))) := by
  by_cases heq : x = y
  · subst heq
    exact iff_of_true (orderedAsRing_self me x) (Or.inl rfl)
  by_cases hside : x < me ↔ y < me
  · have hcase := same_side_iff hx hy hside heq
    unfold OrderedAsRing at hcase
    rw [hcase]
    simp only [heq, hside, not_true_eq_false, false_and, or_false, false_or, true_and]
  · have hcase := opposite_iff hx hy hside
    unfold OrderedAsRing at hcase
    rw [hcase]
    simp only [heq, hside, false_and, not_false_eq_true, false_or, true_and]

theorem ring_order_one_two :
    (diff_left 0 1 < diff_left 0 2 ↔ (0 : U32) - 1 < 0 - 2) ∧
      (diff_right 0 1 < diff_right 0 2 ↔ (1 : U32) - 0 < 2 - 0) :=
  (ring_order_iff 0 1 2 (by decide) (by decide)).mpr
    (Or.inr (Or.inl ⟨by decide, by decide⟩))

/-- Beyond half the ring the shorter way round is the other one. -/
theorem ring_order_beyond_half :
    ¬ ∀ me x y : U32, x ≠ me → y ≠ me →
      (diff_left me x < diff_left me y ↔ me - x < me - y) ∧
        (diff_right me x < diff_right me y ↔ x - me < y - me) := by
  intro h
  have hright := (h 0 0x90000000 0xA0000000 (by decide) (by decide)).2
  exact absurd (hright.mpr (by decide)) (by decide)

/-- Ids that are less than half a ring away are all ordered rightly. -/
theorem ring_order_near (hx : x ≠ me) (hy : y ≠ me) (hxn : line_dist me x < 2 ^ 31)
    (hyn : line_dist me y < 2 ^ 31) : OrderedAsRing me x y := by
  by_cases heq : x = y
  · subst heq
    exact orderedAsRing_self me x
  by_cases hside : x < me ↔ y < me
  · rw [same_side_iff hx hy hside heq]
    omega
  · rw [opposite_iff hx hy hside]
    -- one of the two ends is half a ring away from either place in the middle
    rintro ⟨⟨rfl, rfl⟩ | ⟨rfl, rfl⟩, rfl | rfl⟩
    · exact absurd hyn (by decide)
    · exact absurd hxn (by decide)
    · exact absurd hxn (by decide)
    · exact absurd hyn (by decide)

end AlpacaVrr
