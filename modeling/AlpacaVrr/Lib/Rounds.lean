import Mathlib.Data.List.Permutation
import Mathlib.Tactic.Common

/-!
# Going Round

Schedules in which everybody has one turn, and then everybody another one.

A turn may fail, and a list of turns fails with the first one that does. What
holds in the middle of a list depends on who has had a turn already, so the
assertion that goes through it is about the turns that are done. From round to
round it depends on their number.

Two parties that only have to do with each other do not notice the turns of
the rest. For them a round is one of two orders.

## Main definitions

* `Rounds.perform`: A list of turns.

## Theorems

* `Rounds.perform_of_prefix`: An assertion about the turns that are done.
* `Rounds.perform_rounds`: An assertion about the number of rounds.
* `Rounds.foldl_of_turns`: What a round is for two of the parties.
-/

namespace Rounds

variable {σ ι β κ : Type}

/-- One turn after the other. -/
def perform (act : σ → ι → Option σ) : σ → List ι → Option σ
  | s, [] => some s
  | s, i :: l => (act s i).bind (fun t => perform act t l)

variable (act : σ → ι → Option σ)

theorem perform_append (s : σ) (l l' : List ι) :
    perform act s (l ++ l') = (perform act s l).bind (fun t => perform act t l') := by
  induction l generalizing s with
  | nil => rfl
  | cons i l ih =>
      simp only [List.cons_append, perform, Option.bind_assoc]
      exact congrArg _ (funext ih)

/-- The assertion takes in one turn after the other. The induction is on the
    turns that are left. -/
theorem perform_of_prefix (I : List ι → σ → Prop) (l : List ι)
    (hact : ∀ done i rest s, l = done ++ i :: rest → I done s →
      ∃ t, act s i = some t ∧ I (done ++ [i]) t) (s : σ) (h : I [] s) :
    ∃ t, perform act s l = some t ∧ I l t := by
  have hrest : ∀ left done s, l = done ++ left → I done s →
      ∃ t, perform act s left = some t ∧ I l t := by
    intro left
    induction left with
    | nil =>
        intro done s hl hs
        rw [List.append_nil] at hl
        exact ⟨s, rfl, hl ▸ hs⟩
    | cons i left ih =>
        intro done s hl hs
        obtain ⟨t, ht, hI⟩ := hact done i left s hl hs
        obtain ⟨u, hu, hI⟩ := ih (done ++ [i]) t (by rw [hl, List.append_assoc]; rfl) hI
        refine ⟨u, ?_, hI⟩
        rw [perform, ht]
        exact hu
  exact hrest l [] s rfl h

/-- The assertion goes from round to round. -/
theorem perform_rounds (I : Nat → σ → Prop) (rounds : List (List ι))
    (hround : ∀ r ∈ rounds, ∀ k s, I k s → ∃ t, perform act s r = some t ∧ I (k + 1) t)
    (k : Nat) (s : σ) (h : I k s) :
    ∃ t, perform act s rounds.flatten = some t ∧ I (k + rounds.length) t := by
  induction rounds generalizing k s with
  | nil => exact ⟨s, rfl, h⟩
  | cons r rounds ih =>
      obtain ⟨t, ht, hI⟩ := hround r List.mem_cons_self k s h
      obtain ⟨u, hu, hI⟩ := ih (fun r' hr' => hround r' (List.mem_cons_of_mem r hr')) (k + 1) t hI
      refine ⟨u, ?_, ?_⟩
      · rw [List.flatten_cons, perform_append, ht]
        exact hu
      · rw [List.length_cons, Nat.add_comm rounds.length 1, ← Nat.add_assoc]
        exact hI

section Pairs

variable [DecidableEq κ] {step : β → κ → β} {x y : κ}

/-- The turns of the others may be left out. -/
theorem foldl_filter (hidle : ∀ b z, z ≠ x → z ≠ y → step b z = b) (l : List κ) (b : β) :
    l.foldl step b = (l.filter (fun z => z = x ∨ z = y)).foldl step b := by
  induction l generalizing b with
  | nil => rfl
  | cons z l ih =>
      rw [List.filter_cons, List.foldl_cons, ih]
      by_cases hz : z = x ∨ z = y
      · rw [if_pos (decide_eq_true hz), List.foldl_cons]
      · rw [if_neg (by simpa only [decide_eq_true_eq] using hz),
          hidle b z (fun h => hz (Or.inl h)) (fun h => hz (Or.inr h))]

/-- In a round either `x` comes before `y`, or `y` before `x`. -/
theorem foldl_of_turns (hidle : ∀ b z, z ≠ x → z ≠ y → step b z = b) {l ids : List κ}
    (h : l.Perm ids) (hids : ids.Nodup) (hx : x ∈ ids) (hy : y ∈ ids) (hne : x ≠ y) (b : β) :
    l.foldl step b = step (step b x) y ∨ l.foldl step b = step (step b y) x := by
  have hpair : (l.filter (fun z => z = x ∨ z = y)).Perm [x, y] := by
    refine (List.perm_ext_iff_of_nodup ((h.nodup_iff.mpr hids).filter _) ?_).mpr (fun z => ?_)
    · simpa using hne
    · -- both are in the list, and nobody else passes
      simp only [List.mem_filter, decide_eq_true_eq, List.mem_cons, List.not_mem_nil, or_false,
        h.mem_iff]
      refine ⟨fun hz => hz.2, fun hz => ⟨?_, hz⟩⟩
      rcases hz with rfl | rfl
      · exact hx
      · exact hy
  rw [foldl_filter hidle]
  rcases List.perm_pair.mp hpair with heq | heq
  · rw [heq]
    exact Or.inl rfl
  · rw [heq]
    exact Or.inr rfl

end Pairs

end Rounds
