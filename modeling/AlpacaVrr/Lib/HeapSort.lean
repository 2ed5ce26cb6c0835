import Mathlib.Data.List.Basic
import Mathlib.Tactic.Common

/-!
# In-Place Heapsort

The heapsort of a C library, on an array addressed by position.

The comparator of such a sort receives two element *addresses*. Whether it
looks at what is stored there is its own affair, so it is modelled as a
function of the array and the two positions. A comparator that follows the
pointers gives the usual sort. One that compares the pointers themselves makes
the sort blind to the contents: it applies one fixed permutation to every
array of a given length, which is what `sort_map` says.

The loops carry fuel. A sift moves strictly down the heap and so takes fewer
rounds than the array has elements, which is the fuel it is given.

## Main definitions

* `HeapSort.swap`: Exchanging two array elements.
* `HeapSort.siftDown`: Moving an element down the heap.
* `HeapSort.heapify`: Building the heap from the last parent up.
* `HeapSort.extract`: Moving the root behind the heap, repeatedly.
* `HeapSort.sort`: The whole sort.

## Theorems

* `HeapSort.sort_perm`: The sort only rearranges.
* `HeapSort.sort_map`: A sort blind to the contents commutes with relabelling
  them.
-/

namespace HeapSort

variable {α β : Type}

/-- Exchange the elements at two positions. -/
def swap (a : List α) (i j : Nat) : List α :=
  match a[i]?, a[j]? with
  | some x, some y => (a.set i y).set j x
  | _, _ => a

/-- A comparator is handed two element addresses in an array. -/
abbrev Comparator (α : Type) := List α → Nat → Nat → Int

/-- Move the element at `r` down the heap that occupies the first `n`
    positions. -/
def siftDown (cmp : Comparator α) (n : Nat) : Nat → Nat → List α → List α
  | 0, _, a => a
  | fuel + 1, r, a =>
      if r * 2 + 1 < n then
        -- the larger child, the second one only when it exists
        let c := if r * 2 + 2 < n ∧ cmp a (r * 2 + 1) (r * 2 + 2) < 0 then r * 2 + 2 else r * 2 + 1
        if 0 ≤ cmp a r c then a else siftDown cmp n fuel c (swap a r c)
      else a

/-- Sift down the parents `i - 1, ..., 0`. -/
def heapify (cmp : Comparator α) (n : Nat) : Nat → List α → List α
  | 0, a => a
  | i + 1, a => heapify cmp n i (siftDown cmp n n i a)

/-- Exchange the root with position `i`, restore the heap in front of it, and
    go on with `i - 1`. -/
def extract (cmp : Comparator α) : Nat → List α → List α
  | 0, a => a
  | i + 1, a => extract cmp i (siftDown cmp (i + 1) (i + 1) 0 (swap a 0 (i + 1)))

/-- Heapsort of a whole array. -/
def sort (cmp : Comparator α) (a : List α) : List α :=
  extract cmp (a.length - 1) (heapify cmp a.length (a.length / 2) a)

/-- An exchange keeps the elements. -/
theorem swap_perm (a : List α) (i j : Nat) : (swap a i j).Perm a := by
  unfold swap
  cases hi : a[i]? with
  | none => exact List.Perm.refl a
  | some x =>
      cases hj : a[j]? with
      | none => exact List.Perm.refl a
      | some y =>
          rcases List.getElem?_eq_some_iff.mp hi with ⟨hi', rfl⟩
          rcases List.getElem?_eq_some_iff.mp hj with ⟨hj', rfl⟩
          exact List.set_set_perm hi' hj'

theorem siftDown_perm (cmp : Comparator α) (n fuel r : Nat) (a : List α) :
    (siftDown cmp n fuel r a).Perm a := by
  induction fuel generalizing r a with
  | zero => exact List.Perm.refl a
  | succ fuel ih =>
      unfold siftDown
      simp only
      -- on either child the element stays or changes places, and a leaf stays
      split_ifs
      · exact List.Perm.refl a
      · exact (ih _ _).trans (swap_perm a _ _)
      · exact List.Perm.refl a
      · exact (ih _ _).trans (swap_perm a _ _)
      · exact List.Perm.refl a

theorem heapify_perm (cmp : Comparator α) (n i : Nat) (a : List α) :
    (heapify cmp n i a).Perm a := by
  induction i generalizing a with
  | zero => exact List.Perm.refl a
  | succ i ih => exact (ih _).trans (siftDown_perm cmp n n i a)

theorem extract_perm (cmp : Comparator α) (i : Nat) (a : List α) : (extract cmp i a).Perm a := by
  induction i generalizing a with
  | zero => exact List.Perm.refl a
  | succ i ih => exact (ih _).trans ((siftDown_perm cmp _ _ _ _).trans (swap_perm a 0 (i + 1)))

/-- Whatever the comparator answers, the sort rearranges. -/
theorem sort_perm (cmp : Comparator α) (a : List α) : (sort cmp a).Perm a :=
  (extract_perm cmp _ _).trans (heapify_perm cmp _ _ a)

theorem swap_map (f : α → β) (a : List α) (i j : Nat) :
    swap (a.map f) i j = (swap a i j).map f := by
  unfold swap
  rw [List.getElem?_map, List.getElem?_map]
  cases a[i]? with
  | none => rfl
  | some x =>
      cases a[j]? with
      | none => rfl
      | some y => simp only [Option.map_some, List.map_set]

section Blind

variable (f : α → β) (cmp : Comparator α) (cmp' : Comparator β)
  (hcmp : ∀ a i j, cmp' (a.map f) i j = cmp a i j)

include hcmp

theorem siftDown_map (n fuel r : Nat) (a : List α) :
    siftDown cmp' n fuel r (a.map f) = (siftDown cmp n fuel r a).map f := by
  induction fuel generalizing r a with
  | zero => rfl
  | succ fuel ih =>
      unfold siftDown
      -- the comparisons come out the same, so the same exchanges are made
      simp only [hcmp, swap_map, ih]
      split_ifs <;> rfl

theorem heapify_map (n i : Nat) (a : List α) :
    heapify cmp' n i (a.map f) = (heapify cmp n i a).map f := by
  induction i generalizing a with
  | zero => rfl
  | succ i ih =>
      unfold heapify
      rw [siftDown_map f cmp cmp' hcmp, ih]

theorem extract_map (i : Nat) (a : List α) :
    extract cmp' i (a.map f) = (extract cmp i a).map f := by
  induction i generalizing a with
  | zero => rfl
  | succ i ih =>
      unfold extract
      rw [swap_map, siftDown_map f cmp cmp' hcmp, ih]

/-- A comparator that gives the same answers after relabelling the contents
    sorts the relabelled array the same way. -/
theorem sort_map (a : List α) : sort cmp' (a.map f) = (sort cmp a).map f := by
  unfold sort
  rw [List.length_map, heapify_map f cmp cmp' hcmp, extract_map f cmp cmp' hcmp]

end Blind

end HeapSort
