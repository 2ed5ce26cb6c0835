import Mathlib.Logic.Function.Iterate
import Mathlib.Data.List.Nodup
import Mathlib.Tactic.Common

/-!
# Circular Doubly Linked Lists

Lists in memory, as nodes with a successor and a predecessor, closed to a ring
by a node that holds no element.

`Links` is the memory, and the operations are assignments to it, in the order
in which they are performed. Nothing in the memory says which list it
represents. `Linked` does: the ring that begins and ends at the head runs
through the given nodes, forwards and backwards, and no node occurs twice.
Each operation has a lemma that says what becomes of the list it represents.

`Path` is the same for a stretch of a ring, from one node to another one. A
stretch is unaffected by an assignment to the links of other nodes
(`Path.congr`), so the lemmas cut the ring where it is changed.

## Main definitions

* `ListHead`, `Links`: The links of a node, and those of all nodes.
* `init_list_head`, `list_add_tail`, `list_del`: The operations.
* `Joined`, `Path`, `Linked`: Two neighbours, a stretch, the ring.
* `Reachable`: Following the successors from the head meets a node.

## Theorems

* `linked_init`, `linked_add_tail`, `linked_del_first`: What the operations do.
* `linked_next`, `linked_next_first`: The successors of the head and of the
  first element.
* `reachable_of_linked`: Every element is reachable.
-/

/-- The links of a node. -/
structure ListHead (α : Type) where
  next : α
  prev : α

/-- The links of the nodes at all addresses. -/
abbrev Links (α : Type) := α → ListHead α

namespace LinkedList

variable {α : Type}

section Operations

variable [DecidableEq α] (h : Links α)

def set_next (a b : α) : Links α := Function.update h a { h a with next := b }

def set_prev (a b : α) : Links α := Function.update h a { h a with prev := b }

/-- A head that is its own neighbour on both sides. -/
def init_list_head (head : α) : Links α := Function.update h head ⟨head, head⟩

/-- Put a node between two neighbours. -/
def list_insert (new prev next : α) : Links α :=
  let h := set_prev h next new
  let h := set_next h new next
  let h := set_prev h new prev
  set_next h prev new

/-- Put a node in front of the head, which is behind all others. -/
def list_add_tail (new head : α) : Links α := list_insert h new (h head).prev head

/-- Take a node out. Its own links are overwritten. -/
def list_del (entry : α) (poison : ListHead α) : Links α :=
  let next := (h entry).next
  let prev := (h entry).prev
  let h := set_prev h next prev
  let h := set_next h prev next
  Function.update h entry poison

@[simp] theorem next_set_next (a b c : α) :
    (set_next h a b c).next = if c = a then b else (h c).next := by
  unfold set_next
  rw [Function.update_apply]
  split_ifs <;> rfl

@[simp] theorem prev_set_next (a b c : α) : (set_next h a b c).prev = (h c).prev := by
  unfold set_next
  rw [Function.update_apply]
  split_ifs with hc
  · rw [hc]
  · rfl

@[simp] theorem next_set_prev (a b c : α) : (set_prev h a b c).next = (h c).next := by
  unfold set_prev
  rw [Function.update_apply]
  split_ifs with hc
  · rw [hc]
  · rfl

@[simp] theorem prev_set_prev (a b c : α) :
    (set_prev h a b c).prev = if c = a then b else (h c).prev := by
  unfold set_prev
  rw [Function.update_apply]
  split_ifs <;> rfl

/-- The successors after an insertion. -/
theorem next_insert (new prev next c : α) : (list_insert h new prev next c).next =
    if c = prev then new else if c = new then next else (h c).next := by
  simp only [list_insert, next_set_next, next_set_prev]

/-- The predecessors after it. -/
theorem prev_insert (new prev next c : α) : (list_insert h new prev next c).prev =
    if c = new then prev else if c = next then new else (h c).prev := by
  simp only [list_insert, prev_set_next, prev_set_prev]

/-- The successors of the nodes that a deletion leaves. -/
theorem next_del (entry : α) (poison : ListHead α) {c : α} (hc : c ≠ entry) :
    (list_del h entry poison c).next =
      if c = (h entry).prev then (h entry).next else (h c).next := by
  unfold list_del
  simp only [Function.update_of_ne hc, next_set_next, next_set_prev]

/-- And their predecessors. -/
theorem prev_del (entry : α) (poison : ListHead α) {c : α} (hc : c ≠ entry) :
    (list_del h entry poison c).prev =
      if c = (h entry).next then (h entry).prev else (h c).prev := by
  unfold list_del
  simp only [Function.update_of_ne hc, prev_set_next, prev_set_prev]

end Operations

/-- `b` comes right behind `a`. -/
def Joined (h : Links α) (a b : α) : Prop := (h a).next = b ∧ (h b).prev = a

/-- From `a` the nodes `xs` lead to `b`. -/
def Path (h : Links α) (a : α) : List α → α → Prop
  | [], b => Joined h a b
  | x :: xs, b => Joined h a x ∧ Path h x xs b

/-- The ring of `head` holds `xs`. -/
structure Linked (h : Links α) (head : α) (xs : List α) : Prop where
  nodup : (head :: xs).Nodup
  path : Path h head xs head

/-- Following the successors from `head` comes to `a`. -/
def Reachable (h : Links α) (head a : α) : Prop :=
  ∃ n, (fun x => (h x).next)^[n + 1] head = a

namespace Path

variable {h h' : Links α} {a b x : α} {xs ys : List α}

/-- Only the links that point into the stretch matter. -/
theorem congr (hp : Path h a xs b) (hnext : ∀ c ∈ a :: xs, (h' c).next = (h c).next)
    (hprev : ∀ c ∈ b :: xs, (h' c).prev = (h c).prev) : Path h' a xs b := by
  induction xs generalizing a with
  | nil =>
      exact ⟨by rw [hnext a List.mem_cons_self]; exact hp.1,
        by rw [hprev b List.mem_cons_self]; exact hp.2⟩
  | cons x xs ih =>
      refine ⟨⟨?_, ?_⟩, ih hp.2 (fun c hc => hnext c (List.mem_cons_of_mem a hc)) (fun c hc => ?_)⟩
      · rw [hnext a List.mem_cons_self]
        exact hp.1.1
      · rw [hprev x (List.mem_cons_of_mem b List.mem_cons_self)]
        exact hp.1.2
      · rcases List.mem_cons.mp hc with rfl | hmem
        · exact hprev c List.mem_cons_self
        · exact hprev c (List.mem_cons_of_mem b (List.mem_cons_of_mem x hmem))

/-- A stretch may be cut at any of its nodes. -/
theorem append_iff : Path h a (xs ++ x :: ys) b ↔ Path h a xs x ∧ Path h x ys b := by
  induction xs generalizing a with
  | nil => exact Iff.rfl
  | cons y xs ih =>
      simp only [List.cons_append, Path, ih, and_assoc]

theorem next_eq (hp : Path h a xs b) : (h a).next = xs.headD b := by
  cases xs with
  | nil => exact hp.1
  | cons x xs => exact hp.1.1

theorem prev_eq (hp : Path h a xs b) : (h b).prev = xs.getLastD a := by
  induction xs generalizing a with
  | nil => exact hp.2
  | cons x xs ih =>
      rw [ih hp.2, List.getLastD_cons]

/-- Following the successors comes to every node of the stretch. -/
theorem reachable (hp : Path h a xs b) (hx : x ∈ xs) : Reachable h a x := by
  induction xs generalizing a with
  | nil => exact absurd hx List.not_mem_nil
  | cons y xs ih =>
      rcases List.mem_cons.mp hx with rfl | hmem
      · exact ⟨0, hp.1.1⟩
      · rcases ih hp.2 hmem with ⟨n, hn⟩
        refine ⟨n + 1, ?_⟩
        rw [Function.iterate_succ_apply, hp.1.1]
        exact hn

end Path

section Ring

variable {h : Links α} {head x : α} {xs ys : List α}

/-- The successor of the head is the first element, if there is one. -/
theorem linked_next (hl : Linked h head xs) : (h head).next = xs.headD head := hl.path.next_eq

/-- The successor of the first element is the one behind it. -/
theorem linked_next_first (hl : Linked h head (x :: xs)) : (h x).next = xs.headD head :=
  hl.path.2.next_eq

theorem reachable_of_linked (hl : Linked h head xs) (hx : x ∈ xs) : Reachable h head x :=
  hl.path.reachable hx

variable [DecidableEq α]

theorem linked_init (h : Links α) (head : α) : Linked (init_list_head h head) head [] := by
  refine ⟨List.nodup_singleton head, ?_, ?_⟩ <;>
  · unfold init_list_head
    rw [Function.update_self]

/-- A new node goes behind the last element. -/
theorem linked_add_tail (hl : Linked h head xs) (hx : x ∉ head :: xs) :
    Linked (list_add_tail h x head) head (xs ++ [x]) := by
  have hhead : head ≠ x := fun heq => hx (heq ▸ List.mem_cons_self)
  have htail := hl.path.prev_eq
  have hnodup : (head :: xs ++ [x]).Nodup := by
    refine List.nodup_append.mpr ⟨hl.nodup, List.nodup_singleton x, fun y hy z hz heq => ?_⟩
    rw [List.mem_singleton.mp hz] at heq
    exact hx (heq ▸ hy)
  refine ⟨hnodup, ?_⟩
  unfold list_add_tail
  rw [htail]
  rcases List.eq_nil_or_concat xs with rfl | ⟨zs, last, rfl⟩
  · simp only [List.getLastD_nil, List.nil_append, Path, Joined, next_insert, prev_insert, hhead,
      hhead.symm, if_true, if_false, and_self]
  · rw [List.concat_eq_append] at *
    rw [List.getLastD_concat, List.append_assoc, List.singleton_append, Path.append_iff]
    have hcut := Path.append_iff.mp hl.path
    have hparts := List.nodup_append.mp (show (head :: zs ++ [last]).Nodup from hl.nodup)
    have hlast : ∀ c ∈ head :: zs, c ≠ last := fun c hc => hparts.2.2 c hc last
      (List.mem_singleton_self last)
    have hnew : ∀ c ∈ head :: zs, c ≠ x := fun c hc heq =>
      hx (heq ▸ List.mem_append_left [last] hc)
    have hlx : last ≠ x := fun heq => hx (heq ▸ List.mem_append_right (head :: zs)
      (List.mem_singleton_self last))
    -- the links inside the stretch up to the last element stay
    refine ⟨hcut.1.congr (fun c hc => ?_) (fun c hc => ?_), ⟨?_, ?_⟩, ?_, ?_⟩
    · rw [next_insert, if_neg (hlast c hc), if_neg (hnew c hc)]
    · have hc' : c ≠ x ∧ c ≠ head := by
        rcases List.mem_cons.mp hc with rfl | hmem
        · exact ⟨hlx, (hlast head List.mem_cons_self).symm⟩
        · exact ⟨hnew c (List.mem_cons_of_mem head hmem),
            fun heq => (List.nodup_cons.mp hparts.1).1 (heq ▸ hmem)⟩
      rw [prev_insert, if_neg hc'.1, if_neg hc'.2]
    · rw [next_insert, if_pos rfl]
    · rw [prev_insert, if_pos rfl]
    · rw [next_insert, if_neg hlx.symm, if_pos rfl]
    · rw [prev_insert, if_neg hhead, if_pos rfl]

/-- Taking the first element out leaves the others. -/
theorem linked_del_first (hl : Linked h head (x :: xs)) (poison : ListHead α) :
    Linked (list_del h x poison) head xs := by
  have hnodup := List.nodup_cons.mp hl.nodup
  have hx := List.nodup_cons.mp hnodup.2
  have hhead : head ≠ x := fun heq => hnodup.1 (heq ▸ List.mem_cons_self)
  have hprev : (h x).prev = head := hl.path.1.2
  refine ⟨List.nodup_cons.mpr ⟨fun hmem => hnodup.1 (List.mem_cons_of_mem x hmem), hx.2⟩, ?_⟩
  -- what is behind `x` is the head again, or the second element
  cases xs with
  | nil =>
      have hnext : (h x).next = head := hl.path.2.1
      refine ⟨?_, ?_⟩
      · rw [next_del h x poison hhead, hprev, hnext, if_pos rfl]
      · rw [prev_del h x poison hhead, hprev, hnext, if_pos rfl]
  | cons y ys =>
      have hnext : (h x).next = y := hl.path.2.1.1
      have hy := List.nodup_cons.mp hx.2
      have hyx : y ≠ x := fun heq => hx.1 (heq ▸ List.mem_cons_self)
      refine ⟨⟨?_, ?_⟩, hl.path.2.2.congr (fun c hc => ?_) (fun c hc => ?_)⟩
      · rw [next_del h x poison hhead, hprev, hnext, if_pos rfl]
      · rw [prev_del h x poison hyx, hprev, hnext, if_pos rfl]
      · have hcx : c ≠ x := fun heq => hx.1 (heq ▸ hc)
        have hch : c ≠ head := fun heq => hnodup.1 (heq ▸ List.mem_cons_of_mem x hc)
        rw [next_del h x poison hcx, hprev, if_neg hch]
      · have hcx : c ≠ x := by
          rcases List.mem_cons.mp hc with rfl | hmem
          · exact hhead
          · exact fun heq => hx.1 (heq ▸ List.mem_cons_of_mem y hmem)
        have hcy : c ≠ y := by
          rcases List.mem_cons.mp hc with rfl | hmem
          · exact fun heq => hnodup.1 (heq ▸ List.mem_cons_of_mem x List.mem_cons_self)
          · exact fun heq => hy.1 (heq ▸ hmem)
        rw [prev_del h x poison hcx, hnext, if_neg hcy]

end Ring

end LinkedList
