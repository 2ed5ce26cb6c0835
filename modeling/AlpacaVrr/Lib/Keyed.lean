import Mathlib.Data.List.Basic

/-!
# Updates of a Keyed State

State that is read key by key, and updates each of which names a key.

An update is local when what is seen of its key afterwards depends on what was
seen of that key before, and no other key is touched. The state itself may
change in other ways, as a list does whose order is not seen. What is seen of
a key after a run is then a fold over the updates of that key alone, so it is
the same for any two runs with the same updates key by key, however these are
interleaved.

With each update something may be emitted that depends on the key of the
update only. Two such runs emit the same for each key, in the same order, and
so the same altogether up to the order.

## Main definitions

* `Keyed.Local`: Updates that touch their own key only.
* `Keyed.mine`: The part of a list that has a key.
* `Keyed.SameByKey`: Two lists agree key by key.
* `Keyed.emitted`: What is emitted along a run.

## Theorems

* `Keyed.Local.view_foldl`: What is seen of a key after a run.
* `Keyed.Local.mine_emitted`: What is emitted for a key.
* `Keyed.perm_of_same_by_key`: Lists that agree key by key are permutations.
-/

namespace Keyed

variable {σ α κ β γ : Type}

/-- What is seen of the key of an update becomes `own`, and what is seen of
    another key stays. -/
structure Local (view : σ → κ → β) (step : σ → α → σ) (key : α → κ) (own : β → α → β) : Prop where
  same : ∀ s a, view (step s a) (key a) = own (view s (key a)) a
  other : ∀ s a k, key a ≠ k → view (step s a) k = view s k

/-- What a run over a list emits, given what each step does. -/
def emitted (step : σ → α → σ) (emit : σ → α → List γ) : σ → List α → List γ
  | _, [] => []
  | s, a :: l => emit s a ++ emitted step emit (step s a) l

theorem emitted_append (step : σ → α → σ) (emit : σ → α → List γ) (s : σ) (l l' : List α) :
    emitted step emit s (l ++ l') =
      emitted step emit s l ++ emitted step emit (l.foldl step s) l' := by
  induction l generalizing s with
  | nil => rfl
  | cons a l ih => simp [emitted, ih]

variable [DecidableEq κ]

/-- The elements with a key, in order. -/
def mine (key : α → κ) (l : List α) (k : κ) : List α := l.filter (fun a => key a = k)

/-- The lists have the same elements for each key, in the same order. -/
def SameByKey (key : α → κ) (l l' : List α) : Prop := ∀ k, mine key l k = mine key l' k

theorem mine_cons (key : α → κ) (a : α) (l : List α) (k : κ) :
    mine key (a :: l) k = if key a = k then a :: mine key l k else mine key l k := by
  simp [mine, List.filter_cons]

theorem mine_append (key : α → κ) (l l' : List α) (k : κ) :
    mine key (l ++ l') k = mine key l k ++ mine key l' k :=
  List.filter_append l l'

/-- A list all of whose elements have one key. -/
theorem mine_of_key (key : α → κ) (l : List α) (k k' : κ) (h : ∀ a ∈ l, key a = k') :
    mine key l k = if k' = k then l else [] := by
  split_ifs with hk
  · exact List.filter_eq_self.mpr (fun a ha => decide_eq_true ((h a ha).trans hk))
  · refine List.filter_eq_nil_iff.mpr (fun a ha hdec => hk ?_)
    exact (h a ha).symm.trans (of_decide_eq_true hdec)

/-- Neighbours in a list with different keys may change places. -/
theorem same_by_key_swap (key : α → κ) {a b : α} (h : key a ≠ key b) (l l' : List α) :
    SameByKey key (l ++ a :: b :: l') (l ++ b :: a :: l') := by
  intro k
  rw [mine_append, mine_append]
  simp only [mine_cons]
  by_cases ha : key a = k
  · have hb : key b ≠ k := fun hb => h (ha.trans hb.symm)
    simp [ha, hb]
  · simp [ha]

/-- Each element is counted among those with its own key. -/
theorem perm_of_same_by_key [DecidableEq α] (key : α → κ) {l l' : List α}
    (h : SameByKey key l l') : l.Perm l' := by
  have hcount : ∀ (m : List α) (a : α), m.count a = (mine key m (key a)).count a := by
    intro m a
    have hown : decide (key a = key a) = true := decide_eq_true rfl
    exact (List.count_filter (p := fun b => decide (key b = key a)) hown).symm
  refine List.perm_iff_count.mpr (fun a => ?_)
  rw [hcount l, hcount l', h (key a)]

namespace Local

variable {view : σ → κ → β} {step : σ → α → σ} {key : α → κ} {own : β → α → β}

/-- After a run a key shows what its own updates have made of it. -/
theorem view_foldl (h : Local view step key own) (l : List α) (s : σ) (k : κ) :
    view (l.foldl step s) k = (mine key l k).foldl own (view s k) := by
  induction l generalizing s with
  | nil => rfl
  | cons a l ih =>
      rw [List.foldl_cons, ih, mine_cons]
      by_cases hk : key a = k
      · subst hk
        rw [if_pos rfl, List.foldl_cons, h.same]
      · rw [if_neg hk, h.other s a k hk]

/-- What is emitted for a key is what its own updates emit. -/
theorem mine_emitted (h : Local view step key own) {emit : σ → α → List γ} {out : β → α → List γ}
    {tag : γ → κ} (hemit : ∀ s a, emit s a = out (view s (key a)) a)
    (htag : ∀ b a, ∀ c ∈ out b a, tag c = key a) (l : List α) (s : σ) (k : κ) :
    mine tag (emitted step emit s l) k = emitted own out (view s k) (mine key l k) := by
  induction l generalizing s with
  | nil => rfl
  | cons a l ih =>
      have hfirst := mine_of_key tag (emit s a) k (key a)
        (fun c hc => htag _ a c (hemit s a ▸ hc))
      rw [emitted, mine_append, ih, hfirst, mine_cons]
      by_cases hk : key a = k
      · subst hk
        rw [if_pos rfl, if_pos rfl, emitted, h.same, hemit]
      · rw [if_neg hk, if_neg hk, h.other s a k hk, List.nil_append]

/-- Two runs with the same updates for each key show the same of each. -/
theorem view_eq (h : Local view step key own) {l l' : List α} (hsame : SameByKey key l l') (s : σ)
    (k : κ) : view (l.foldl step s) k = view (l'.foldl step s) k := by
  rw [h.view_foldl, h.view_foldl, hsame k]

/-- And they emit the same, in some order. -/
theorem emitted_perm [DecidableEq γ] (h : Local view step key own) {emit : σ → α → List γ}
    {out : β → α → List γ} {tag : γ → κ} (hemit : ∀ s a, emit s a = out (view s (key a)) a)
    (htag : ∀ b a, ∀ c ∈ out b a, tag c = key a) {l l' : List α} (hsame : SameByKey key l l')
    (s : σ) : (emitted step emit s l).Perm (emitted step emit s l') := by
  refine perm_of_same_by_key tag (fun k => ?_)
  rw [h.mine_emitted hemit htag, h.mine_emitted hemit htag, hsame k]

end Local

end Keyed
