import Mathlib.Order.Lattice
import Mathlib.Data.List.Basic
import Mathlib.Tactic.Common

/-!
# Binary Search Trees

Binary trees carrying a value at each key, read through their in-order
sequence.

A balanced tree is reshaped by rotations, and a rotation is invisible in the
in-order sequence. Every fact here is therefore stated against that sequence:
`find?_eq_some_iff` says that a descent from the root finds exactly the pairs
the sequence lists, so two ordered trees with one sequence answer every
descent alike. `Rebalance` packages a reshaping with the only thing a caller
may rely on, and the descents commute with it by `find?_run`.

Insertion is split the way pointer code splits it. `link` hangs a fresh node
at the leaf where the descent ended and says nothing when the key is already
present; `modify` edits the value of a node in place.

## Main definitions

* `SearchTree`: A binary tree with a key and a value at each node.
* `SearchTree.inorder`: The in-order sequence of a tree.
* `SearchTree.Ordered`: The in-order keys strictly increase.
* `SearchTree.find?`: The descent from the root towards a key.
* `SearchTree.modify`: Editing the value stored at a key.
* `SearchTree.link`: Hanging a fresh node at the leaf of the descent.
* `SearchTree.erase`: The tree without a key.
* `SearchTree.met`: What the descent towards one key finds above another.
* `SearchTree.Rebalance`: A reshaping of trees that keeps the in-order sequence.

## Theorems

* `SearchTree.ordered_node_iff`: Order at a node splits into order of the parts.
* `SearchTree.find?_eq_some_iff`: The descent finds what the sequence lists.
* `SearchTree.find?_modify`: Editing one key changes the descent at that key only.
* `SearchTree.find?_link`: A linked node is found, and nothing else changes.
* `SearchTree.find?_erase`: An erased key is not found, and nothing else changes.
* `SearchTree.Rebalance.find?_run`: Rebalancing is invisible to the descent.
-/

/-- A binary tree with a key and a value at each node. -/
inductive SearchTree (κ ν : Type) where
  | leaf : SearchTree κ ν
  | node (left : SearchTree κ ν) (key : κ) (val : ν) (right : SearchTree κ ν) : SearchTree κ ν
  deriving DecidableEq

namespace SearchTree

variable {κ ν : Type}

/-- The in-order sequence of keys and values. -/
def inorder : SearchTree κ ν → List (κ × ν)
  | leaf => []
  | node l k v r => l.inorder ++ (k, v) :: r.inorder

@[simp] theorem inorder_leaf : (leaf : SearchTree κ ν).inorder = [] := rfl

@[simp] theorem inorder_node (l : SearchTree κ ν) (k : κ) (v : ν) (r : SearchTree κ ν) :
    (node l k v r).inorder = l.inorder ++ (k, v) :: r.inorder := rfl

theorem mem_inorder_node (l : SearchTree κ ν) (k : κ) (v : ν) (r : SearchTree κ ν) (p : κ × ν) :
    p ∈ (node l k v r).inorder ↔ p ∈ l.inorder ∨ p = (k, v) ∨ p ∈ r.inorder := by
  rw [inorder_node, List.mem_append, List.mem_cons]

variable [LinearOrder κ]

/-- The in-order keys strictly increase. -/
def Ordered (t : SearchTree κ ν) : Prop :=
  t.inorder.Pairwise (fun p q => p.1 < q.1)

theorem ordered_leaf : (leaf : SearchTree κ ν).Ordered := List.Pairwise.nil

/-- Order at a node: both halves are ordered and sit on their own side of
    the key. That the halves are ordered against each other follows. -/
theorem ordered_node_iff (l : SearchTree κ ν) (k : κ) (v : ν) (r : SearchTree κ ν) :
    (node l k v r).Ordered ↔ l.Ordered ∧ r.Ordered ∧
      (∀ p ∈ l.inorder, p.1 < k) ∧ (∀ p ∈ r.inorder, k < p.1) := by
  unfold Ordered
  rw [inorder_node, List.pairwise_append, List.pairwise_cons]
  constructor
  · rintro ⟨hl, ⟨hkr, hr⟩, hcross⟩
    exact ⟨hl, hr, fun p hp => hcross p hp (k, v) List.mem_cons_self, hkr⟩
  · rintro ⟨hl, hr, hlk, hkr⟩
    refine ⟨hl, ⟨hkr, hr⟩, fun p hp q hq => ?_⟩
    rcases List.mem_cons.mp hq with rfl | hq
    · exact hlk p hp
    · exact lt_trans (hlk p hp) (hkr q hq)

/-- The descent from the root towards a key. -/
def find? : SearchTree κ ν → κ → Option ν
  | leaf, _ => none
  | node l k v r, x =>
      if x < k then l.find? x
      else if k < x then r.find? x
      else some v

/-- The descent finds exactly the pairs the in-order sequence lists. -/
theorem find?_eq_some_iff (t : SearchTree κ ν) (ht : t.Ordered) (x : κ) (w : ν) :
    t.find? x = some w ↔ (x, w) ∈ t.inorder := by
  induction t with
  | leaf => simp only [find?, inorder_leaf, List.not_mem_nil, reduceCtorEq]
  | node l k v r ihl ihr =>
      rcases (ordered_node_iff l k v r).mp ht with ⟨hl, hr, hlk, hkr⟩
      rw [mem_inorder_node, find?]
      by_cases hxk : x < k
      · -- below the key, where neither the node nor its right half has `x`
        rw [if_pos hxk, ihl hl]
        constructor
        · exact Or.inl
        · rintro (h | h | h)
          · exact h
          · exact absurd (congrArg Prod.fst h) (ne_of_lt hxk)
          · exact absurd hxk (not_lt_of_gt (hkr _ h))
      · rw [if_neg hxk]
        by_cases hkx : k < x
        · -- above it, the same on the other side
          rw [if_pos hkx, ihr hr]
          constructor
          · exact fun h => Or.inr (Or.inr h)
          · rintro (h | h | h)
            · exact absurd (hlk _ h) hxk
            · exact absurd (congrArg Prod.fst h) (ne_of_gt hkx)
            · exact h
        · rw [if_neg hkx]
          have hx : x = k := le_antisymm (not_lt.mp hkx) (not_lt.mp hxk)
          constructor
          · intro h
            rw [Option.some.injEq] at h
            exact Or.inr (Or.inl (by rw [hx, h]))
          · rintro (h | h | h)
            · exact absurd (hlk _ h) hxk
            · rw [Prod.mk.injEq] at h
              rw [h.2]
            · exact absurd (hkr _ h) hkx

/-- Ordered trees with one in-order sequence answer every descent alike. -/
theorem find?_congr (t u : SearchTree κ ν) (ht : t.Ordered) (h : u.inorder = t.inorder) (x : κ) :
    u.find? x = t.find? x := by
  have hu : u.Ordered := by
    unfold Ordered
    rw [h]
    exact ht
  refine Option.ext (fun w => ?_)
  rw [find?_eq_some_iff u hu, find?_eq_some_iff t ht, h]

/-- Edit the value stored at a key, leaving the shape alone. -/
def modify : SearchTree κ ν → κ → (ν → ν) → SearchTree κ ν
  | leaf, _, _ => leaf
  | node l k v r, x, f =>
      if x < k then node (l.modify x f) k v r
      else if k < x then node l k v (r.modify x f)
      else node l k (f v) r

theorem keys_modify (t : SearchTree κ ν) (x : κ) (f : ν → ν) :
    (t.modify x f).inorder.map Prod.fst = t.inorder.map Prod.fst := by
  induction t with
  | leaf => rfl
  | node l k v r ihl ihr =>
      rw [modify]
      split_ifs
      · simp only [inorder_node, List.map_append, List.map_cons, ihl]
      · simp only [inorder_node, List.map_append, List.map_cons, ihr]
      · simp only [inorder_node, List.map_append, List.map_cons]

/-- Order is a property of the keys alone. -/
theorem ordered_iff_keys (t : SearchTree κ ν) :
    t.Ordered ↔ (t.inorder.map Prod.fst).Pairwise (· < ·) := by
  rw [List.pairwise_map]
  exact Iff.rfl

theorem ordered_modify (t : SearchTree κ ν) (ht : t.Ordered) (x : κ) (f : ν → ν) :
    (t.modify x f).Ordered := by
  rw [ordered_iff_keys, keys_modify, ← ordered_iff_keys]
  exact ht

/-- Editing one key changes the descent at that key only. -/
theorem find?_modify (t : SearchTree κ ν) (x y : κ) (f : ν → ν) :
    (t.modify x f).find? y = if y = x then (t.find? x).map f else t.find? y := by
  induction t with
  | leaf => simp only [modify, find?, Option.map_none, ite_self]
  | node l k v r ihl ihr =>
      rcases lt_trichotomy x k with hxk | rfl | hkx
      · -- the edit goes left, and so does a descent to the same key
        rw [modify, if_pos hxk, find?, ihl, find?, find?, if_pos hxk]
        by_cases hyx : y = x
        · subst hyx
          simp only [hxk, if_true]
        · simp only [if_neg hyx]
      · rw [modify, if_neg (lt_irrefl x), if_neg (lt_irrefl x), find?, find?, find?,
          if_neg (lt_irrefl x), if_neg (lt_irrefl x)]
        by_cases hyx : y = x
        · subst hyx
          simp only [lt_irrefl, if_false, if_true, Option.map_some]
        · rcases lt_or_gt_of_ne hyx with h | h
          · simp only [h, if_true, if_neg hyx]
          · simp only [not_lt_of_gt h, h, if_true, if_false, if_neg hyx]
      · have hxk : ¬ x < k := not_lt_of_gt hkx
        rw [modify, if_neg hxk, if_pos hkx, find?, ihr, find?, find?, if_neg hxk, if_pos hkx]
        by_cases hyx : y = x
        · subst hyx
          simp only [hxk, hkx, if_true, if_false]
        · simp only [if_neg hyx]

/-- An edit that keeps the value it finds keeps the tree. -/
theorem modify_eq_self (t : SearchTree κ ν) (x : κ) (f : ν → ν)
    (h : ∀ v, t.find? x = some v → f v = v) : t.modify x f = t := by
  induction t with
  | leaf => rfl
  | node l k v r ihl ihr =>
      rw [modify]
      simp only [find?] at h
      split_ifs at h ⊢
      · rw [ihl h]
      · rw [ihr h]
      · rw [h v rfl]

/-- Hang a fresh node at the leaf where the descent ends, or `none` when the
    key already has a node. -/
def link : SearchTree κ ν → κ → ν → Option (SearchTree κ ν)
  | leaf, x, w => some (node leaf x w leaf)
  | node l k v r, x, w =>
      if x < k then (l.link x w).map (fun l' => node l' k v r)
      else if k < x then (r.link x w).map (fun r' => node l k v r')
      else none

/-- Linking adds one pair to the in-order sequence, the key being fresh. -/
theorem mem_inorder_link (t t' : SearchTree κ ν) (x : κ) (w : ν) (h : t.link x w = some t')
    (p : κ × ν) : p ∈ t'.inorder ↔ p = (x, w) ∨ p ∈ t.inorder := by
  induction t generalizing t' with
  | leaf =>
      simp only [link, Option.some.injEq] at h
      subst h
      simp only [inorder_node, inorder_leaf, List.nil_append, List.mem_singleton,
        List.not_mem_nil, or_false]
  | node l k v r ihl ihr =>
      rw [link] at h
      split_ifs at h with hxk hkx
      · rcases Option.map_eq_some_iff.mp h with ⟨l', hl', rfl⟩
        rw [mem_inorder_node, mem_inorder_node, ihl l' hl', or_assoc]
      · rcases Option.map_eq_some_iff.mp h with ⟨r', hr', rfl⟩
        rw [mem_inorder_node, mem_inorder_node, ihr r' hr']
        tauto

theorem ordered_link (t t' : SearchTree κ ν) (ht : t.Ordered) (x : κ) (w : ν)
    (h : t.link x w = some t') : t'.Ordered := by
  induction t generalizing t' with
  | leaf =>
      simp only [link, Option.some.injEq] at h
      subst h
      exact List.pairwise_singleton _ _
  | node l k v r ihl ihr =>
      rcases (ordered_node_iff l k v r).mp ht with ⟨hl, hr, hlk, hkr⟩
      rw [link] at h
      split_ifs at h with hxk hkx
      · rcases Option.map_eq_some_iff.mp h with ⟨l', hl', rfl⟩
        refine (ordered_node_iff l' k v r).mpr ⟨ihl l' hl hl', hr, fun p hp => ?_, hkr⟩
        -- the fresh key is on the side the descent took
        rcases (mem_inorder_link l l' x w hl' p).mp hp with rfl | hp
        · exact hxk
        · exact hlk p hp
      · rcases Option.map_eq_some_iff.mp h with ⟨r', hr', rfl⟩
        refine (ordered_node_iff l k v r').mpr ⟨hl, ihr r' hr hr', hlk, fun p hp => ?_⟩
        rcases (mem_inorder_link r r' x w hr' p).mp hp with rfl | hp
        · exact hkx
        · exact hkr p hp

/-- Linking refuses exactly the keys that are present. -/
theorem link_eq_none_iff (t : SearchTree κ ν) (x : κ) (w : ν) :
    t.link x w = none ↔ (t.find? x).isSome := by
  induction t with
  | leaf => simp only [link, find?, reduceCtorEq, Option.isSome_none, Bool.false_eq_true]
  | node l k v r ihl ihr =>
      rw [link, find?]
      split_ifs
      · rw [Option.map_eq_none_iff, ihl]
      · rw [Option.map_eq_none_iff, ihr]
      · simp only [Option.isSome_some]

/-- A linked node is found, and no other descent changes. -/
theorem find?_link (t t' : SearchTree κ ν) (x y : κ) (w : ν) (h : t.link x w = some t') :
    t'.find? y = if y = x then some w else t.find? y := by
  induction t generalizing t' with
  | leaf =>
      simp only [link, Option.some.injEq] at h
      subst h
      rw [find?, find?, find?]
      rcases lt_trichotomy y x with hyx | rfl | hxy
      · rw [if_pos hyx, if_neg (ne_of_lt hyx)]
      · rw [if_neg (lt_irrefl y), if_neg (lt_irrefl y), if_pos rfl]
      · rw [if_neg (not_lt_of_gt hxy), if_pos hxy, if_neg (ne_of_gt hxy)]
  | node l k v r ihl ihr =>
      rw [link] at h
      split_ifs at h with hxk hkx
      · rcases Option.map_eq_some_iff.mp h with ⟨l', hl', rfl⟩
        rw [find?, ihl l' hl', find?]
        by_cases hyx : y = x
        · subst hyx
          simp only [hxk, if_true]
        · simp only [if_neg hyx]
      · rcases Option.map_eq_some_iff.mp h with ⟨r', hr', rfl⟩
        rw [find?, ihr r' hr', find?]
        by_cases hyx : y = x
        · subst hyx
          simp only [hxk, hkx, if_true, if_false]
        · simp only [if_neg hyx]

/-- A tree in front of another one. -/
def graft : SearchTree κ ν → SearchTree κ ν → SearchTree κ ν
  | leaf, t => t
  | node l k v r, t => node l k v (r.graft t)

omit [LinearOrder κ] in
theorem inorder_graft (l r : SearchTree κ ν) :
    (l.graft r).inorder = l.inorder ++ r.inorder := by
  induction l with
  | leaf => rfl
  | node ll k v lr _ ih => rw [graft, inorder_node, inorder_node, ih, List.append_assoc,
      List.cons_append]

/-- The tree without a key. -/
def erase : SearchTree κ ν → κ → SearchTree κ ν
  | leaf, _ => leaf
  | node l k v r, x =>
      if x < k then node (l.erase x) k v r
      else if k < x then node l k v (r.erase x)
      else l.graft r

/-- Erasing takes the pairs with the key out of the sequence. -/
theorem inorder_erase (t : SearchTree κ ν) (ht : t.Ordered) (x : κ) :
    (t.erase x).inorder = t.inorder.filter (fun p => p.1 ≠ x) := by
  induction t with
  | leaf => rfl
  | node l k v r ihl ihr =>
      rcases (ordered_node_iff l k v r).mp ht with ⟨hl, hr, hlk, hkr⟩
      have hother : ∀ s : SearchTree κ ν, (∀ p ∈ s.inorder, p.1 ≠ x) →
          s.inorder.filter (fun p => p.1 ≠ x) = s.inorder :=
        fun s hs => List.filter_eq_self.mpr (fun p hp => decide_eq_true (hs p hp))
      rw [erase, inorder_node, List.filter_append, List.filter_cons]
      rcases lt_trichotomy x k with h | rfl | h
      · -- the other half lies on the other side of the key
        rw [if_pos h, inorder_node, ihl hl, hother r (fun p hp => ne_of_gt (h.trans (hkr p hp))),
          if_pos (decide_eq_true (ne_of_gt h))]
      · rw [if_neg (lt_irrefl x), if_neg (lt_irrefl x), inorder_graft,
          hother l (fun p hp => ne_of_lt (hlk p hp)), hother r (fun p hp => ne_of_gt (hkr p hp)),
          if_neg (by simp)]
      · rw [if_neg (not_lt_of_gt h), if_pos h, inorder_node, ihr hr,
          hother l (fun p hp => ne_of_lt ((hlk p hp).trans h)),
          if_pos (decide_eq_true (ne_of_lt h))]

theorem ordered_erase (t : SearchTree κ ν) (ht : t.Ordered) (x : κ) : (t.erase x).Ordered := by
  unfold Ordered
  rw [inorder_erase t ht]
  exact ht.filter _

/-- An erased key is not found, and every other key as before. -/
theorem find?_erase (t : SearchTree κ ν) (ht : t.Ordered) (x y : κ) :
    (t.erase x).find? y = if y = x then none else t.find? y := by
  refine Option.ext (fun w => ?_)
  rw [find?_eq_some_iff _ (ordered_erase t ht x), inorder_erase t ht, List.mem_filter]
  by_cases hyx : y = x
  · simp [hyx]
  · rw [if_neg hyx, find?_eq_some_iff t ht, and_iff_left (decide_eq_true hyx)]

/-- Whether the descent towards `x` meets the key `y`, and what is stored right
    above it, `above` being what is stored above the tree. -/
def met : SearchTree κ ν → Option ν → κ → κ → Option (Option ν)
  | leaf, _, _, _ => none
  | node l k v r, above, x, y =>
      if k = y then some above
      else if x < k then l.met (some v) x y
      else if k < x then r.met (some v) x y
      else none

/-- A key that is not there is not met. -/
theorem met_eq_none (t : SearchTree κ ν) (above : Option ν) (x y : κ)
    (h : ∀ p ∈ t.inorder, p.1 ≠ y) : t.met above x y = none := by
  induction t generalizing above with
  | leaf => rfl
  | node l k v r ihl ihr =>
      have hk : k ≠ y := h (k, v) ((mem_inorder_node l k v r _).mpr (Or.inr (Or.inl rfl)))
      rw [met, if_neg hk, ihl _ (fun p hp => h p ((mem_inorder_node l k v r p).mpr (Or.inl hp))),
        ihr _ (fun p hp => h p ((mem_inorder_node l k v r p).mpr (Or.inr (Or.inr hp)))), ite_self,
        ite_self]

/-- The descent towards a key that is there meets it. -/
theorem find?_eq_none_of_met (t : SearchTree κ ν) (above : Option ν) (x : κ)
    (h : t.met above x x = none) : t.find? x = none := by
  induction t generalizing above with
  | leaf => rfl
  | node l k v r ihl ihr =>
      rw [met] at h
      rw [find?]
      rcases lt_trichotomy x k with hxk | rfl | hkx
      · rw [if_neg (ne_of_gt hxk), if_pos hxk] at h
        rw [if_pos hxk, ihl _ h]
      · rw [if_pos rfl] at h
        cases h
      · rw [if_neg (ne_of_lt hkx), if_neg (not_lt_of_gt hkx), if_pos hkx] at h
        rw [if_neg (not_lt_of_gt hkx), if_pos hkx, ihr _ h]

/-- A reshaping of trees that keeps the in-order sequence. Nothing else is
    known of it, so what is proved holds for every balancing scheme. -/
structure Rebalance (κ ν : Type) where
  run : SearchTree κ ν → SearchTree κ ν
  inorder_run : ∀ t, (run t).inorder = t.inorder

namespace Rebalance

/-- Leaving the tree as it is. -/
def none : Rebalance κ ν := ⟨id, fun _ => rfl⟩

instance : Inhabited (Rebalance κ ν) := ⟨none⟩

variable (rb : Rebalance κ ν)

theorem ordered_run (t : SearchTree κ ν) (ht : t.Ordered) : (rb.run t).Ordered := by
  unfold Ordered
  rw [rb.inorder_run]
  exact ht

/-- Rebalancing is invisible to the descent. -/
theorem find?_run (t : SearchTree κ ν) (ht : t.Ordered) (x : κ) :
    (rb.run t).find? x = t.find? x :=
  find?_congr t (rb.run t) ht (rb.inorder_run t) x

end Rebalance

end SearchTree
