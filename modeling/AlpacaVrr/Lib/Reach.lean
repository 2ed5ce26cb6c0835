import Mathlib.Logic.Function.Iterate
import Mathlib.Order.WellFounded
import Mathlib.Tactic.Common

/-!
# Runs of Step Systems

Reachable states, schedules that settle, and iterations that descend.

`Reach` is the reflexive transitive closure of a labelled step relation. A
condition on the steps of a run is a smaller relation, so "every run whose
steps meet the condition" is again a `Reach`, and `Reach.invariant` covers
both.

`Settles` is about every order at once. A system holds a set of enabled
actions, each of which may fail; it settles when every order of performing
them runs without failure, comes to an end, and ends well. It is an inductive
predicate, so a derivation bounds the length of every schedule. When one
action is enabled at a time there is nothing to choose, and `settles_of_only`
turns the predicate into a chain of single runs.

`iterate_descends` is the argument behind loop-free forwarding. Each position
has a rank, and every move lowers it until the target is met. Ranks of
positions visited later are smaller, so no position comes twice.

## Main definitions

* `Reach`: Reachability in a labelled step relation.
* `Settles`: Every schedule ends, without failure, in a good state.

## Theorems

* `Reach.invariant`: An inductive invariant holds of every reachable state.
* `Reach.mono`: A run stays one when more steps are allowed.
* `Reach.relabel`: A run is one of another system with the same steps.
* `settles_of_only`: With one action enabled, settling passes through it.
* `settles_of_quiet`: With none enabled, settling is the end condition.
* `not_settles_of_failure`: An enabled action that fails settles nothing.
* `iterate_descends`: A descending iteration meets its target, once.
-/

/-- The states a run reaches from `s`. -/
inductive Reach {σ ι : Type} (step : σ → ι → σ → Prop) (s : σ) : σ → Prop where
  | refl : Reach step s s
  | step {t u : σ} (i : ι) (h : Reach step s t) (hstep : step t i u) : Reach step s u

/-- What holds at the start and is kept by every step holds of every
    reachable state. -/
theorem Reach.invariant {σ ι : Type} {step : σ → ι → σ → Prop} {s t : σ} (I : σ → Prop)
    (h : Reach step s t) (h0 : I s) (hstep : ∀ u i v, I u → step u i v → I v) : I t := by
  induction h with
  | refl => exact h0
  | step i _ hs ih => exact hstep _ i _ ih hs

/-- A run goes over to a system that has a step for each of its steps. -/
theorem Reach.relabel {σ ι κ : Type} {step : σ → ι → σ → Prop} {R : σ → κ → σ → Prop} {s t : σ}
    (f : ι → κ) (h : Reach step s t) (hstep : ∀ u i v, step u i v → R u (f i) v) : Reach R s t := by
  induction h with
  | refl => exact Reach.refl
  | step i _ hs ih => exact Reach.step (f i) ih (hstep _ i _ hs)

/-- A run of a smaller relation is a run of a larger one. -/
theorem Reach.mono {σ ι : Type} {step R : σ → ι → σ → Prop} {s t : σ}
    (h : Reach step s t) (hstep : ∀ u i v, step u i v → R u i v) : Reach R s t :=
  h.relabel id hstep

/-- Every order of performing the enabled actions runs without failure and
    ends, with nothing enabled, in a state satisfying `Q`. -/
inductive Settles {σ ι : Type} (enabled : σ → ι → Prop) (act : σ → ι → Option σ) (Q : σ → Prop) :
    σ → Prop where
  | quiet {s : σ} (hno : ∀ i, ¬ enabled s i) (hq : Q s) : Settles enabled act Q s
  | act {s : σ} (i : ι) (hi : enabled s i) (hok : ∀ j, enabled s j → act s j ≠ none)
      (h : ∀ j t, enabled s j → act s j = some t → Settles enabled act Q t) :
      Settles enabled act Q s

section Settles

variable {σ ι : Type} {enabled : σ → ι → Prop} {act : σ → ι → Option σ} {Q : σ → Prop} {s t : σ}

theorem settles_of_quiet (hno : ∀ i, ¬ enabled s i) : Settles enabled act Q s ↔ Q s := by
  constructor
  · intro h
    cases h with
    | quiet _ hq => exact hq
    | act i hi _ _ => exact absurd hi (hno i)
  · exact Settles.quiet hno

/-- When one action is enabled and succeeds, settling passes through it. -/
theorem settles_of_only (i : ι) (hi : ∀ j, enabled s j ↔ j = i) (ht : act s i = some t) :
    Settles enabled act Q s ↔ Settles enabled act Q t := by
  constructor
  · intro h
    cases h with
    | quiet hno _ => exact absurd ((hi i).mpr rfl) (hno i)
    | act _ _ _ h => exact h i t ((hi i).mpr rfl) ht
  · -- whatever is enabled is `i`, and `i` leads to `t`
    intro h
    refine Settles.act i ((hi i).mpr rfl) (fun j hj => ?_) (fun j u hj hu => ?_)
    · rw [(hi j).mp hj, ht]
      exact Option.some_ne_none t
    · rw [(hi j).mp hj, ht, Option.some.injEq] at hu
      rw [← hu]
      exact h

/-- An enabled action that fails settles nothing. -/
theorem not_settles_of_failure (i : ι) (hi : enabled s i) (hf : act s i = none) :
    ¬ Settles enabled act Q s := by
  intro h
  cases h with
  | quiet hno _ => exact hno i hi
  | act _ _ hok _ => exact hok i hi hf

end Settles

/-- An iteration whose rank falls with every move meets its target. It keeps
    to the positions satisfying `P` until then, and visits none twice. -/
theorem iterate_descends {α β : Type} [Preorder β] [WellFoundedLT β] (next : α → α) (d : α)
    (P : α → Prop) (rank : α → β)
    (hnext : ∀ x, P x → x ≠ d → next x = d ∨ (P (next x) ∧ rank (next x) < rank x)) :
    ∀ x, P x → x ≠ d → ∃ n, next^[n] x = d ∧ (∀ i, i < n → P (next^[i] x)) ∧
      (∀ i j, i < j → j ≤ n → next^[i] x ≠ next^[j] x) := by
  -- Strengthened: positions met before the target rank at most the start.
  have hmain : ∀ (b : β) (x : α), rank x = b → P x → x ≠ d → ∃ n, next^[n] x = d ∧
      (∀ i, i < n → P (next^[i] x) ∧ rank (next^[i] x) ≤ rank x) ∧
      (∀ i j, i < j → j ≤ n → next^[i] x ≠ next^[j] x) := by
    intro b
    induction b using WellFoundedLT.induction with
    | ind b ih =>
      intro x hb hP hx
      by_cases hy : next x = d
      · refine ⟨1, hy, fun i hi => ?_, fun i j hij hj => ?_⟩
        · have hi0 : i = 0 := by omega
          subst hi0
          exact ⟨hP, le_refl _⟩
        · have hi0 : i = 0 := by omega
          have hj1 : j = 1 := by omega
          subst hi0 hj1
          intro h
          exact hx (h.trans hy)
      · rcases (hnext x hP hx).resolve_left hy with ⟨hP', hlt⟩
        rcases ih (rank (next x)) (by rw [← hb]; exact hlt) (next x) rfl hP' hy with
          ⟨m, hm, hbefore, hdist⟩
        refine ⟨m + 1, hm, fun i hi => ?_, fun i j hij hj => ?_⟩
        · cases i with
          | zero => exact ⟨hP, le_refl _⟩
          | succ i =>
              rcases hbefore i (by omega) with ⟨hPi, hle⟩
              exact ⟨hPi, le_trans hle (le_of_lt hlt)⟩
        · cases j with
          | zero => omega
          | succ j =>
              cases i with
              | succ i => exact hdist i j (by omega) (by omega)
              | zero =>
                  -- The start is neither the target nor of a smaller rank.
                  intro h
                  have hxj : next^[j] (next x) = x := h.symm
                  rcases Nat.lt_or_ge j m with hjm | hjm
                  · have hle := (hbefore j hjm).2
                    rw [hxj] at hle
                    exact absurd (lt_of_le_of_lt hle hlt) (lt_irrefl _)
                  · have hjeq : j = m := by omega
                    rw [hjeq, hm] at hxj
                    exact hx hxj.symm
  intro x hP hx
  rcases hmain (rank x) x rfl hP hx with ⟨n, hn, hbefore, hdist⟩
  exact ⟨n, hn, fun i hi => (hbefore i hi).1, hdist⟩
